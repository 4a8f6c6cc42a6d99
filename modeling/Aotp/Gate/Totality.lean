import Aotp.Gate.Complaints
import Aotp.Gate.Tightening

/-!
# When the policy gate raises

* `ConfigOnly` — a computation that raises nothing but a `ConfigError`: the parsers are such.
* one lemma for each block of the gate: what its dynamic operations need.
* `DryRuns`, `LiveRuns`, `evaluate_total_iff` — the gate decides exactly where they have it.
-/

namespace Aotp.Gate

open PyData

variable (rt : Runtime)

/-! ### The parsers raise nothing but a `ConfigError` -/

/-- What a computation raises is a `ConfigError`. -/
def ConfigOnly {α : Type} (x : Except Exc α) : Prop := ∀ e, x = .error e → ∃ msg, e = configError msg

theorem Raises.configOnly {α : Type} {x : Except Exc α} (h : Raises Complaint x) : ConfigOnly x := by
  intro e he
  obtain ⟨msg, hmsg, -⟩ := h e he
  exact ⟨msg, hmsg⟩

/-! ### Blocks that run -/

/-- The computation does not raise. -/
def Runs {α : Type} (x : Except Exc α) : Prop := ∃ a, x = .ok a

namespace Runs

variable {α β : Type}

theorem ok (a : α) : Runs (.ok a : Except Exc α) := ⟨a, rfl⟩

theorem pure (a : α) : Runs (Pure.pure a : Except Exc α) := ⟨a, rfl⟩

theorem not_error (e : Exc) : ¬ Runs (.error e : Except Exc α) := nofun

theorem bind_iff {x : Except Exc α} {f : α → Except Exc β} :
    Runs (x >>= f) ↔ ∃ a, x = .ok a ∧ Runs (f a) := by
  unfold Runs
  constructor
  · rintro ⟨b, hb⟩
    obtain ⟨a, ha, hb⟩ := bind_eq_ok.mp hb
    exact ⟨a, ha, b, hb⟩
  · rintro ⟨a, ha, b, hb⟩
    exact ⟨b, bind_eq_ok.mpr ⟨a, ha, hb⟩⟩

/-- When what follows always runs. -/
theorem bind_of_forall {x : Except Exc α} {f : α → Except Exc β} (hf : ∀ a, Runs (f a)) :
    Runs (x >>= f) ↔ Runs x := by
  rw [bind_iff]
  exact ⟨fun ⟨a, ha, _⟩ => ⟨a, ha⟩, fun ⟨a, ha⟩ => ⟨a, ha, hf a⟩⟩

theorem onlyWhen_iff {c : Bool} {block : Except Exc (List String)} :
    Runs (onlyWhen c block) ↔ (c = true → Runs block) := by
  cases c with
  | false => exact ⟨nofun, fun _ => pure []⟩
  | true => exact ⟨fun h _ => h, fun h => h rfl⟩

theorem inSet_iff {x : Json} {s : List Json} : Runs (inSet x s) ↔ x.hashable = true := by
  unfold inSet
  split
  · exact ⟨fun _ => ‹_›, fun _ => ok _⟩
  · exact ⟨fun h => absurd h (not_error _), fun h => absurd h ‹_›⟩

theorem attrs_iff {x : Json} : Runs x.attrs ↔ ∃ m, x = .obj m := by
  cases x with
  | obj m => exact ⟨fun _ => ⟨m, rfl⟩, fun _ => ok m⟩
  | _ => exact ⟨fun h => absurd h (not_error _), nofun⟩

end Runs

/-- `set(x)` succeeds: a list of hashable values, a mapping, or a text. -/
def Collects : Json → Prop
  | .arr items => items.all Json.hashable = true
  | .obj _ => True
  | .str _ => True
  | _ => False

theorem runs_toSet_iff {x : Json} : Runs (toSet x) ↔ Collects x := by
  cases x with
  | arr items =>
    constructor
    · rintro ⟨s, hs⟩
      exact (toSet_arr.mp hs).1
    · intro h
      exact ⟨items, toSet_arr.mpr ⟨h, rfl⟩⟩
  | obj m =>
    refine ⟨fun _ => trivial, fun _ => ⟨(dkeys m).map .str, ?_⟩⟩
    have hall : ((dkeys m).map Json.str).all Json.hashable = true := by
      simp [List.all_eq_true, Json.hashable]
    simp [toSet, Json.iter, bind, Except.bind, hall, pure, Except.pure]
  | str s =>
    refine ⟨fun _ => trivial, fun _ => ⟨s.toList.map fun c => .str (String.singleton c), ?_⟩⟩
    have hall : (s.toList.map fun c => Json.str (String.singleton c)).all Json.hashable = true := by
      simp [List.all_eq_true, Json.hashable]
    simp [toSet, Json.iter, bind, Except.bind, hall, pure, Except.pure]
  | _ => exact ⟨fun h => absurd h (Runs.not_error _), fun h => False.elim h⟩

section

variable {scope objective : Dict} {c : ScopeConfig}

theorem targetOf_runs (objective : Dict) (hshape : ScopeShape scope c) :
    ∃ target, targetOf scope objective = .ok target ∧
      ∀ entry, target = some entry → ∃ t, TargetShape entry t := by
  obtain ⟨items, hitems, -⟩ := hshape.targets.entries
  have hat : targetOf scope objective =
      .ok (findByAlias items (dget objective "target_alias")) := by
    rw [targetOf, hitems]
    rfl
  refine ⟨_, hat, ?_⟩
  intro entry hentry
  obtain ⟨-, ⟨t, -, hshape⟩, -⟩ := hshape.targets.of_find hitems hentry
  exact ⟨t, hshape⟩

theorem categoryReasons_runs (hshape : ScopeShape scope c) :
    Runs (categoryReasons scope objective) ↔
      ((categoryOf objective).truthy = true → (categoryOf objective).hashable = true) := by
  obtain ⟨items, hitems, htrims⟩ := hshape.categories
  simp only [categoryReasons, hitems, htrims.toSet]
  change Runs (if (categoryOf objective).truthy = true then _ else _) ↔ _
  by_cases hcat : (categoryOf objective).truthy = true
  · simp only [hcat, if_true, forall_const]
    exact (Runs.bind_of_forall fun _ => Runs.pure _).trans Runs.inSet_iff
  · rw [if_neg hcat]
    exact ⟨fun _ h => absurd h hcat, fun _ => Runs.pure _⟩

theorem forbiddenReasons_runs (hshape : ScopeShape scope c) :
    Runs (forbiddenReasons scope objective) ↔ (dget objective "action").hashable = true := by
  obtain ⟨items, hitems, htrims⟩ := hshape.forbidden
  simp only [forbiddenReasons, hitems, htrims.toSet]
  exact (Runs.bind_of_forall fun _ => Runs.pure _).trans Runs.inSet_iff

theorem listedReasons_runs (objective : Dict) {target : Option Dict}
    (hshape : ∀ entry, target = some entry → ∃ t, TargetShape entry t)
    (field listField label : String) (hp : (field, listField) ∈ targetLists) :
    Runs (listedReasons objective target field listField label) := by
  unfold listedReasons
  by_cases hvalue : (dget objective field).truthy = true
  · simp only [hvalue, if_true]
    cases target with
    | none => exact Runs.pure _
    | some entry =>
      obtain ⟨t, ht⟩ := hshape entry rfl
      obtain ⟨items, hdefault, -⟩ := (ht.lists _ hp).items (.arr [])
      simp only [hdefault, pyIn]
      exact Runs.ok _
  · simp only [hvalue]
    exact Runs.pure _

theorem domainReasons_runs (objective : Dict) {target : Option Dict}
    (hshape : ∀ entry, target = some entry → ∃ t, TargetShape entry t) :
    Runs (domainReasons rt objective target) := by
  unfold domainReasons
  by_cases hvalue : (dget objective "domain").truthy = true
  · simp only [hvalue, if_true]
    cases target with
    | none => exact Runs.pure _
    | some entry =>
      obtain ⟨t, ht⟩ := hshape entry rfl
      have hp : ("domain", "domains") ∈ targetLists := by decide
      obtain ⟨items, hdefault, -, htrims⟩ := (ht.lists _ hp).items (.arr [])
      simp only [hdefault, Json.iter, bind, Except.bind, patternTexts_of_trims htrims]
      exact Runs.ok _
  · simp only [hvalue]
    exact Runs.pure _

theorem networkReasons_runs {live : Bool} : Runs (networkReasons objective live) ↔
    (live = true → (categoryOf objective).hashable = true) := by
  cases live with
  | false => exact ⟨nofun, fun _ => Runs.pure []⟩
  | true =>
    simp only [networkReasons, if_true, forall_const]
    rw [Runs.bind_of_forall]
    · exact Runs.inSet_iff
    · intro network
      cases network
      · exact Runs.pure _
      · exact Runs.pure _

/-- The fuzzing block never raises: the parser has looked at its section. -/
theorem fuzzingBoundaryErrors_runs (objective : Dict) {m : Dict} {f : FuzzingScope}
    (h : FuzzingSectionShape m f) :
    Runs (fuzzingBoundaryErrors objective m) := by
  obtain ⟨classes, hclasses, -, htrims⟩ := h.classes.items (.arr [])
  have hlimit : ∀ k ∈ fuzzingLimits, ∀ d, ∃ n : ℤ, dgetD m k d = .int n := by
    intro k hk d
    obtain ⟨n, hn⟩ := h.limits k hk
    exact ⟨n, dgetD_eq hn (by simp)⟩
  obtain ⟨payload, hpayload⟩ := hlimit "payload_budget" (by decide) (.int 0)
  obtain ⟨request, hrequest⟩ := hlimit "request_budget" (by decide) (.int 0)
  obtain ⟨endpoint, hendpoint⟩ := hlimit "per_endpoint_limit" (by decide) (.int 0)
  have ofClasses : ∀ cs, Runs (payloadClassErrors cs m) := by
    intro cs
    simp only [payloadClassErrors, hclasses, htrims.toSet]
    exact Runs.ok _
  have ofCount : ∀ cs, Runs (payloadCountErrors objective cs m) := by
    intro cs
    unfold payloadCountErrors
    split
    · exact Runs.pure _
    · simp only [hpayload, intGt_int, bind, Except.bind]
      split
      · exact Runs.pure _
      · split <;> exact Runs.pure _
  have ofEndpoints : Runs (endpointErrors objective m) := by
    simp only [endpointErrors, hendpoint, hrequest, exceededEndpoints_int, intGt_int]
    exact Runs.ok _
  have ofLimit : ∀ read wanted field absent, field ∈ fuzzingLimits →
      Runs (limitErrors read wanted field absent objective m) := by
    intro read wanted field absent hfield
    obtain ⟨n, hn⟩ := hlimit field hfield (.int absent)
    unfold limitErrors
    split
    · exact Runs.pure _
    · simp only [hn, intGt_int, bind, Except.bind]
      split <;> exact Runs.pure _
  have ofCorpus : ∀ cs, Runs (corpusErrors objective cs m) := by
    intro cs
    unfold corpusErrors
    split
    · exact Runs.pure _
    · split
      · exact Runs.pure _
      · split
        · exact Runs.pure _
        · simp only [hpayload, intGt_int]
          exact Runs.ok _
  unfold fuzzingBoundaryErrors
  obtain ⟨r₁, h₁⟩ := ofClasses (payloadClassesOf objective).1
  obtain ⟨r₂, h₂⟩ := ofCount (payloadClassesOf objective).1
  obtain ⟨r₃, h₃⟩ := ofEndpoints
  obtain ⟨r₄, h₄⟩ := ofLimit positiveInt? "positive" "max_response_bytes" 0 (by decide)
  obtain ⟨r₅, h₅⟩ := ofLimit positiveInt? "positive" "max_runtime_seconds" 0 (by decide)
  obtain ⟨r₆, h₆⟩ := ofLimit nonNegativeInt? "non-negative" "max_retries" (-1) (by decide)
  obtain ⟨r₇, h₇⟩ := ofCorpus (payloadClassesOf objective).1
  simp only [h₁, h₂, h₃, h₄, h₅, h₆, h₇]
  exact Runs.ok _

theorem fuzzingReasons_runs (objective : Dict) (hshape : ScopeShape scope c) :
    Runs (fuzzingReasons scope objective) := by
  obtain ⟨m, hm, h⟩ := hshape.fuzzing
  have hdefault : dgetD scope "fuzzing" (.obj []) = .obj m := dgetD_eq hm (by simp)
  obtain ⟨approved, happroved, -⟩ := h.approved.setAt
  obtain ⟨denied, hdenied, -⟩ := h.denied.setAt
  obtain ⟨boundary, hboundary⟩ := fuzzingBoundaryErrors_runs objective h
  unfold fuzzingReasons
  rw [hdefault]
  refine Runs.bind_iff.mpr ⟨m, rfl, Runs.bind_iff.mpr ⟨approved, happroved, Runs.bind_iff.mpr
    ⟨denied, hdenied, Runs.bind_iff.mpr ⟨boundary, hboundary, Runs.pure _⟩⟩⟩⟩

theorem panelReasons_runs (objective : Dict) (hshape : ScopeShape scope c) :
    Runs (panelReasons scope objective) := by
  obtain ⟨config, hconfig, hpanels⟩ := hshape.panels
  obtain ⟨items, hitems, -⟩ := hpanels.entries
  rw [panelReasons_eq hconfig hitems, Runs.bind_of_forall fun _ => Runs.pure _]
  unfold namedPanelReasons
  split
  · exact Runs.pure _
  · cases hfound : findByAlias items (dget objective "panel_alias") with
    | none => exact Runs.pure _
    | some panel =>
      obtain ⟨-, ⟨p, -, hp⟩, -⟩ := hpanels.of_find hitems hfound
      obtain ⟨approved, happroved, -⟩ := hp.approved.setAt
      obtain ⟨denied, hdenied, -⟩ := hp.denied.setAt
      simp only [scopedPanelReasons, happroved, hdenied]
      exact Runs.ok _

theorem sbomReasons_runs : Runs (sbomReasons scope objective) ↔
    Collects (dgetD scope "provided_artifacts" (.arr [])) ∧
      ((dget objective "artifact").truthy = true → (dget objective "artifact").hashable = true) := by
  unfold sbomReasons setAt
  rw [Runs.bind_iff]
  constructor
  · rintro ⟨provided, hprovided, h⟩
    refine ⟨runs_toSet_iff.mp ⟨provided, hprovided⟩, fun hartifact => ?_⟩
    change Runs (if (dget objective "artifact").truthy = true then _ else _) at h
    rw [if_pos hartifact] at h
    obtain ⟨listed, hlisted, -⟩ := Runs.bind_iff.mp h
    exact Runs.inSet_iff.mp ⟨listed, hlisted⟩
  · rintro ⟨hcollects, hhash⟩
    obtain ⟨provided, hprovided⟩ := runs_toSet_iff.mpr hcollects
    refine ⟨provided, hprovided, ?_⟩
    change Runs (if (dget objective "artifact").truthy = true then _ else _)
    split
    · rename_i hartifact
      obtain ⟨listed, hlisted⟩ := Runs.inSet_iff.mpr (hhash hartifact)
      exact Runs.bind_iff.mpr ⟨listed, hlisted, Runs.pure _⟩
    · exact Runs.pure _

/-- What the check of a cryptographic action needs: its denied actions make a set, and, when that
does not settle the matter, its approved ones do. -/
def CryptoRuns (crypto : Dict) (action : Json) : Prop :=
  action.truthy = true → action.hashable = true ∧
    ∃ denied, setAt crypto "denied_actions" = .ok denied ∧
      (denied.any (Json.pyEq action) = true ∨ cryptoActionIsUnsafe rt action = true ∨
        Collects (dgetD crypto "approved_actions" (.arr [])))

theorem cryptoReasons_runs : Runs (cryptoReasons rt scope objective) ↔
    ∃ crypto, dgetD scope "cryptographic_controls" (.obj []) = .obj crypto ∧
      CryptoRuns rt crypto (dget objective "action") := by
  rw [cryptoReasons_eq, Runs.bind_iff]
  refine exists_congr fun crypto => ?_
  have hattrs : (dgetD scope "cryptographic_controls" (.obj [])).attrs = .ok crypto ↔
      dgetD scope "cryptographic_controls" (.obj []) = .obj crypto := by
    cases dgetD scope "cryptographic_controls" (.obj []) <;> simp [Json.attrs]
  rw [hattrs, Runs.bind_of_forall fun _ => Runs.pure _]
  refine and_congr_right fun _ => ?_
  unfold CryptoRuns cryptoActionReasons
  by_cases haction : (dget objective "action").truthy = true
  · rw [if_neg (by simp [haction])]
    simp only [haction, forall_const]
    rw [Runs.bind_iff]
    constructor
    · rintro ⟨denied, hdenied, h⟩
      obtain ⟨refused, hrefused, h⟩ := Runs.bind_iff.mp h
      obtain ⟨hhash, rfl⟩ := inSet_ok.mp hrefused
      refine ⟨hhash, denied, hdenied, ?_⟩
      split at h
      · rename_i hbad
        rcases Bool.or_eq_true_iff.mp hbad with hbad | hbad
        · exact .inl hbad
        · exact .inr (.inl hbad)
      · obtain ⟨approved, happroved, -⟩ := Runs.bind_iff.mp h
        exact .inr (.inr (runs_toSet_iff.mp ⟨approved, happroved⟩))
    · rintro ⟨hhash, denied, hdenied, h⟩
      refine ⟨denied, hdenied, Runs.bind_iff.mpr ⟨_, inSet_ok.mpr ⟨hhash, rfl⟩, ?_⟩⟩
      split
      · exact Runs.pure _
      · rename_i hgood
        have hcollects : Collects (dgetD crypto "approved_actions" (.arr [])) := by
          rcases h with h | h | h
          · exact absurd (by rw [h, Bool.true_or]) hgood
          · exact absurd (by rw [h, Bool.or_true]) hgood
          · exact h
        obtain ⟨approved, happroved⟩ := runs_toSet_iff.mpr hcollects
        obtain ⟨listed, hlisted⟩ := Runs.inSet_iff.mpr hhash
        exact Runs.bind_iff.mpr ⟨approved, happroved, Runs.bind_iff.mpr ⟨listed, hlisted, Runs.pure _⟩⟩
  · rw [if_pos (by simp [haction])]
    exact ⟨fun _ h => absurd h haction, fun _ => Runs.pure _⟩

/-- The sections of an accepted scope that only the totality of the gate depends on. -/
structure ScopeSections (scope : Dict) : Prop where
  limits : ∃ m n, dget scope "rate_limits" = .obj m ∧ dget m "requests_per_minute" = .int n
  evidence : ∃ m s, dget scope "evidence" = .obj m ∧ dget m "workspace" = .str s
  reporting : ∃ m, dget scope "reporting" = .obj m
  windows : ∃ items, dget scope "allowed_test_windows" = .arr items ∧
    ∀ w ∈ items, ∃ m, w = .obj m

theorem scopeSections_of_parse (h : parseScope scope = .ok c) : ScopeSections scope := by
  simp only [parseScope, bind_eq_ok, requireList_eq_ok] at h
  obtain ⟨-, -, _, -, _, -, _, -, _, -, _, -, _, -, _, -, _, -, _, -, _, -, _, -, _, -, -, -, -, -,
    _, hlimits, windows, hwindows, checked, hchecked, _, -, _, -, _, hevidence, _, hreporting, -⟩ := h
  simp only [parseRateLimits, bind_eq_ok, requireMapping_eq_ok, requirePositiveInt_eq_ok] at hlimits
  obtain ⟨limits, hl, n, ⟨hn, -⟩, -⟩ := hlimits
  simp only [parseEvidence, bind_eq_ok, requireMapping_eq_ok, requireText_eq_ok] at hevidence
  obtain ⟨evidence, he, -, -, _, ⟨s, hs, -⟩, -⟩ := hevidence
  simp only [parseReporting, bind_eq_ok, requireMapping_eq_ok] at hreporting
  obtain ⟨reporting, hr, -⟩ := hreporting
  refine ⟨⟨limits, n, hl, hn⟩, ⟨evidence, s, he, hs⟩, ⟨reporting, hr⟩, windows, hwindows, ?_⟩
  intro w hw
  obtain ⟨_, -, j, hj⟩ := forall₂_exists (forall₂_of_mapIdxE hchecked) hw
  simp only [parseWindow, bind_eq_ok, requireMapping_eq_ok] at hj
  obtain ⟨m, hm, -⟩ := hj
  exact ⟨m, hm⟩

theorem rateReasons_runs (hlimits : ∃ m, dget scope "rate_limits" = .obj m) :
    Runs (rateReasons scope) := by
  obtain ⟨m, hm⟩ := hlimits
  simp only [rateReasons, hm, Json.attrs]
  exact Runs.ok _

theorem evidenceReasons_runs (input : GateInput)
    (hevidence : ∃ m s, dget scope "evidence" = .obj m ∧ dget m "workspace" = .str s) :
    Runs (evidenceReasons scope input) := by
  obtain ⟨m, s, hm, hs⟩ := hevidence
  simp only [evidenceReasons, hm, Json.attrs, bind, Except.bind, hs]
  exact Runs.pure _

/-! ### Live blocks -/

/-- A timestamp, if it is one, lies in the representable range. -/
def Representable (value : Json) : Prop :=
  ∀ s, value = .str s → strip s ≠ "" → rt.fromIsoFormat (zuluToOffset s) ≠ .aware none

theorem parseUtc_runs {value : Json} (field : String) :
    Runs (parseUtc rt value field) ↔ Representable rt value := by
  unfold parseUtc Representable
  cases value with
  | str s =>
    simp only [Json.str.injEq, forall_eq']
    by_cases hs : strip s = ""
    · rw [if_pos hs]
      exact ⟨fun _ h => absurd hs h, fun _ => Runs.ok _⟩
    · rw [if_neg hs]
      cases htime : rt.fromIsoFormat (zuluToOffset s) with
      | invalid => exact ⟨fun _ _ => by simp, fun _ => Runs.ok _⟩
      | naive => exact ⟨fun _ _ => by simp, fun _ => Runs.ok _⟩
      | aware t =>
        cases t with
        | none => exact ⟨fun h => absurd h (Runs.not_error _), fun h => absurd rfl (h hs)⟩
        | some t => exact ⟨fun _ _ => by simp, fun _ => Runs.ok _⟩
  | _ => exact ⟨fun _ s hs => by simp at hs, fun _ => Runs.ok _⟩

variable {authorization roe : Dict} {now : ℤ}

theorem authorizationReasons_runs : Runs (authorizationReasons rt authorization roe now) ↔
    (dget authorization "type").hashable = true ∧
      Representable rt (dget authorization "issued_at_utc") ∧
      Representable rt (dget authorization "valid_from_utc") ∧
      Representable rt (dget authorization "valid_until_utc") := by
  unfold authorizationReasons
  rw [← parseUtc_runs rt ("authorization issued_at_utc"),
    ← parseUtc_runs rt ("authorization valid_from_utc"),
    ← parseUtc_runs rt ("authorization valid_until_utc")]
  constructor
  · intro h
    obtain ⟨kind, hkind, h⟩ := Runs.bind_iff.mp h
    obtain ⟨issued, hissued, h⟩ := Runs.bind_iff.mp h
    obtain ⟨validFrom, hfrom, h⟩ := Runs.bind_iff.mp h
    obtain ⟨validUntil, huntil, h⟩ := Runs.bind_iff.mp h
    exact ⟨Runs.inSet_iff.mp ⟨kind, hkind⟩, ⟨issued, hissued⟩, ⟨validFrom, hfrom⟩,
      ⟨validUntil, huntil⟩⟩
  · rintro ⟨hhash, ⟨issued, hissued⟩, ⟨validFrom, hfrom⟩, ⟨validUntil, huntil⟩⟩
    obtain ⟨kind, hkind⟩ := Runs.inSet_iff.mpr hhash
    exact Runs.bind_iff.mpr ⟨kind, hkind, Runs.bind_iff.mpr ⟨issued, hissued, Runs.bind_iff.mpr
      ⟨validFrom, hfrom, Runs.bind_iff.mpr ⟨validUntil, huntil, Runs.pure _⟩⟩⟩⟩

theorem roeReasons_runs : Runs (roeReasons rt roe now) ↔
    Representable rt (dget roe "confirmed_at_utc") := by
  unfold roeReasons
  exact (Runs.bind_of_forall fun _ => Runs.pure _).trans (parseUtc_runs rt _)

theorem confidentialityReasons_runs : Runs (confidentialityReasons rt authorization) ↔
    ∃ m, dgetD authorization "confidentiality" (.obj []) = .obj m := by
  unfold confidentialityReasons
  exact (Runs.bind_of_forall fun _ => Runs.pure _).trans Runs.attrs_iff

theorem parsedApprovalReasons_runs {approval : OperatorApproval} {operatorAlias : String}
    {input : GateInput} :
    Runs (parsedApprovalReasons rt approval operatorAlias authorization objective input) ↔
      Representable rt (.str approval.approvedAtUtc) ∧
        Representable rt (.str approval.validUntilUtc) := by
  unfold parsedApprovalReasons
  rw [← parseUtc_runs rt ("operator approval approved_at_utc"),
    ← parseUtc_runs rt ("operator approval valid_until_utc")]
  constructor
  · intro h
    obtain ⟨approvedAt, hat, h⟩ := Runs.bind_iff.mp h
    obtain ⟨expires, hexpires, h⟩ := Runs.bind_iff.mp h
    exact ⟨⟨approvedAt, hat⟩, ⟨expires, hexpires⟩⟩
  · rintro ⟨⟨approvedAt, hat⟩, ⟨expires, hexpires⟩⟩
    exact Runs.bind_iff.mpr ⟨approvedAt, hat, Runs.bind_iff.mpr ⟨expires, hexpires, Runs.pure _⟩⟩

theorem operatorApprovalReasons_runs {operatorAlias : String} {input : GateInput} :
    Runs (operatorApprovalReasons rt operatorAlias authorization objective input) ↔
      ∀ document approval, input.operatorApproval = some document →
        parseOperatorApproval document = .ok approval →
          Representable rt (.str approval.approvedAtUtc) ∧
            Representable rt (.str approval.validUntilUtc) := by
  unfold operatorApprovalReasons
  cases hdocument : input.operatorApproval with
  | none => exact ⟨fun _ _ _ h => by simp at h, fun _ => Runs.pure _⟩
  | some document =>
    cases hparsed : parseOperatorApproval document with
    | ok approval =>
      simp only [hparsed]
      rw [Runs.bind_of_forall fun _ => Runs.pure _, parsedApprovalReasons_runs]
      constructor
      · rintro h document' approval' ⟨⟩ hsame
        obtain rfl := Except.ok.inj (hparsed.symm.trans hsame)
        exact h
      · intro h
        exact h document approval rfl hparsed
    | error e =>
      obtain ⟨msg, rfl⟩ := (Raises.parseOperatorApproval document).configOnly e hparsed
      refine ⟨?_, fun _ => ?_⟩
      · rintro - document' approval' ⟨⟩ hsame
        rw [hparsed] at hsame
        cases hsame
      · simp only [hparsed, configError]
        exact Runs.pure _

theorem windowCheck_runs {index : ℕ} {m : Dict} : Runs (windowCheck rt now index (.obj m)) ↔
    Representable rt (dget m "start_utc") ∧ Representable rt (dget m "end_utc") := by
  unfold windowCheck
  rw [← parseUtc_runs rt (indexed "allowed_test_windows" index ++ ".start_utc"),
    ← parseUtc_runs rt (indexed "allowed_test_windows" index ++ ".end_utc")]
  constructor
  · intro h
    obtain ⟨_, ⟨⟩, h⟩ := Runs.bind_iff.mp h
    obtain ⟨start, hstart, h⟩ := Runs.bind_iff.mp h
    obtain ⟨stop, hstop, h⟩ := Runs.bind_iff.mp h
    exact ⟨⟨start, hstart⟩, ⟨stop, hstop⟩⟩
  · rintro ⟨⟨start, hstart⟩, ⟨stop, hstop⟩⟩
    exact Runs.bind_iff.mpr ⟨m, rfl, Runs.bind_iff.mpr ⟨start, hstart, Runs.bind_iff.mpr
      ⟨stop, hstop, Runs.pure _⟩⟩⟩

theorem Runs.mapIdxE_iff {α β : Type} {f : ℕ → α → Except Exc β} {i : ℕ} {xs : List α}
    (P : α → Prop) (h : ∀ j, ∀ x ∈ xs, Runs (f j x) ↔ P x) :
    Runs (mapIdxE f i xs) ↔ ∀ x ∈ xs, P x := by
  induction xs generalizing i with
  | nil => exact ⟨fun _ => by simp, fun _ => Runs.ok []⟩
  | cons x xs ih =>
    have htail : Runs (mapIdxE f (i + 1) xs) ↔ ∀ y ∈ xs, P y :=
      ih fun j y hy => h j y (List.mem_cons_of_mem _ hy)
    rw [List.forall_mem_cons, ← h i x (by simp), ← htail]
    simp only [mapIdxE]
    constructor
    · intro hrun
      obtain ⟨y, hy, hrun⟩ := Runs.bind_iff.mp hrun
      obtain ⟨ys, hys, -⟩ := Runs.bind_iff.mp hrun
      exact ⟨⟨y, hy⟩, ⟨ys, hys⟩⟩
    · rintro ⟨⟨y, hy⟩, ⟨ys, hys⟩⟩
      exact Runs.bind_iff.mpr ⟨y, hy, Runs.bind_iff.mpr ⟨ys, hys, Runs.pure _⟩⟩

/-- Every test window names representable instants. -/
def WindowsRepresentable (scope : Dict) : Prop :=
  ∀ m, ListedAt scope "allowed_test_windows" (.obj m) →
    Representable rt (dget m "start_utc") ∧ Representable rt (dget m "end_utc")

theorem windowReasons_runs (hsections : ScopeSections scope) :
    Runs (windowReasons rt scope now) ↔ WindowsRepresentable rt scope := by
  obtain ⟨items, hitems, hall⟩ := hsections.windows
  have hdefault : dgetD scope "allowed_test_windows" (.arr []) = .arr items :=
    dgetD_eq hitems (by simp)
  simp only [windowReasons, hdefault, Json.iter]
  change Runs (mapIdxE (windowCheck rt now) 0 items >>= _) ↔ _
  rw [Runs.bind_of_forall fun _ => Runs.pure _,
    Runs.mapIdxE_iff (fun w => ∀ m, w = .obj m →
      Representable rt (dget m "start_utc") ∧ Representable rt (dget m "end_utc"))]
  · unfold WindowsRepresentable
    constructor
    · rintro h m ⟨items', hitems', hm⟩
      obtain rfl := Json.arr.inj (hitems.symm.trans hitems')
      exact h _ hm m rfl
    · rintro h w hw m rfl
      exact h m ⟨items, hitems, hw⟩
  · intro j w hw
    obtain ⟨m, rfl⟩ := hall w hw
    rw [windowCheck_runs]
    constructor
    · rintro h m' ⟨⟩
      exact h
    · intro h
      exact h m rfl

theorem reportingReasons_runs (hsections : ScopeSections scope) :
    Runs (reportingReasons scope) := by
  obtain ⟨m, hm⟩ := hsections.reporting
  unfold reportingReasons
  rw [Runs.bind_of_forall fun _ => Runs.pure _]
  exact Runs.attrs_iff.mpr ⟨m, dgetD_eq hm (by simp)⟩

theorem stopReasons_runs : Runs (stopReasons scope) ↔
    Collects (dgetD scope "stop_conditions" (.arr [])) := by
  unfold stopReasons setAt
  exact (Runs.bind_of_forall fun _ => Runs.pure _).trans runs_toSet_iff

theorem profileOf_runs (given : Option Dict) : Runs (profileOf given) := by
  cases given with
  | none => exact Runs.ok _
  | some document =>
    cases hparsed : parseProgramProfile document with
    | ok parsed =>
      simp only [profileOf, hparsed]
      exact Runs.ok _
    | error e =>
      obtain ⟨msg, rfl⟩ := (Raises.parseProgramProfile document).configOnly e hparsed
      simp only [profileOf, hparsed, configError]
      exact Runs.ok _

theorem parsed_of_profileOf {document : Dict} {parsed : ProgramProfile} {rs : List String}
    (h : profileOf (some document) = .ok (some parsed, rs)) :
    parseProgramProfile document = .ok parsed := by
  cases hparsed : parseProgramProfile document with
  | ok parsed' =>
    simp only [profileOf, hparsed, Except.ok.injEq, Prod.mk.injEq, Option.some.injEq] at h
    rw [h.1]
  | error e =>
    obtain ⟨msg, rfl⟩ := (Raises.parseProgramProfile document).configOnly e hparsed
    simp [profileOf, hparsed, configError] at h

theorem profileReasons_runs {profile : ProgramProfile} {document : Dict}
    (hsections : ScopeSections scope) (hparsed : parseProgramProfile document = .ok profile) :
    Runs (profileReasons rt profile document c scope authorization roe objective now) := by
  obtain ⟨limits, n, hlimits, hn⟩ := hsections.limits
  simp only [parseProgramProfile, bind_eq_ok, requireMapping_eq_ok, requirePositiveInt_eq_ok]
    at hparsed
  obtain ⟨-, -, _, -, _, -, _, -, -, -, _, -, -, -, rates, hrates, k, ⟨hk, -⟩, -⟩ := hparsed
  simp only [profileReasons, hlimits, hrates, Json.attrs, bind, Except.bind, hn, hk, Json.num?]
  exact Runs.ok _

end

/-! ### The gate -/

/-- What the operations of the dry checks need of an objective under an accepted scope. -/
structure DryRuns (scope objective : Dict) (live : Bool) : Prop where
  category : (categoryOf objective).truthy = true ∨ live = true →
    (categoryOf objective).hashable = true
  action : (dget objective "action").hashable = true
  sbom : categoryOf objective = .str "sbom_review" →
    Collects (dgetD scope "provided_artifacts" (.arr [])) ∧
      ((dget objective "artifact").truthy = true → (dget objective "artifact").hashable = true)
  crypto : categoryOf objective = .str "crypto_controls" →
    ∃ crypto, dgetD scope "cryptographic_controls" (.obj []) = .obj crypto ∧
      CryptoRuns rt crypto (dget objective "action")

/-- What the operations of the live checks need of the documents. -/
structure LiveRuns (scope : Dict) (input : GateInput) : Prop where
  kind : ∀ authorization, dget scope "authorization" = .obj authorization →
    (dget authorization "type").hashable = true
  authorization : ∀ authorization, dget scope "authorization" = .obj authorization →
    Representable rt (dget authorization "issued_at_utc") ∧
      Representable rt (dget authorization "valid_from_utc") ∧
      Representable rt (dget authorization "valid_until_utc")
  confidentiality : ∀ authorization, dget scope "authorization" = .obj authorization →
    ∃ m, dgetD authorization "confidentiality" (.obj []) = .obj m
  confirmation : ∀ roe, dget scope "rules_of_engagement" = .obj roe →
    Representable rt (dget roe "confirmed_at_utc")
  approval : ∀ document approval, input.operatorApproval = some document →
    parseOperatorApproval document = .ok approval →
      Representable rt (.str approval.approvedAtUtc) ∧
        Representable rt (.str approval.validUntilUtc)
  windows : WindowsRepresentable rt scope
  stops : Collects (dgetD scope "stop_conditions" (.arr []))

section

variable {scope objective : Dict} {input : GateInput} {c : ScopeConfig}

theorem dryReasons_runs (hc : parseScope scope = .ok c) :
    Runs (dryReasons rt scope objective input) ↔ DryRuns rt scope objective input.live := by
  have hshape := ScopeShape.of_parseScope hc
  have hsections := scopeSections_of_parse hc
  obtain ⟨target, htarget, hentry⟩ := targetOf_runs objective hshape
  obtain ⟨r₁, h₁⟩ := listedReasons_runs objective hentry "service" "services"
    "service is not explicitly allowlisted" (by decide)
  obtain ⟨r₂, h₂⟩ := listedReasons_runs objective hentry "api" "apis"
    "API is not explicitly allowlisted" (by decide)
  obtain ⟨r₃, h₃⟩ := listedReasons_runs objective hentry "environment" "environments"
    "environment is not explicitly allowlisted" (by decide)
  obtain ⟨r₄, h₄⟩ := listedReasons_runs objective hentry "account_alias" "approved_account_aliases"
    "test account is not explicitly approved" (by decide)
  obtain ⟨r₅, h₅⟩ := domainReasons_runs rt objective hentry
  have hfuzzing : Runs (onlyWhen (Json.pyEq (categoryOf objective) (.str "bounded_fuzzing"))
      (fuzzingReasons scope objective)) :=
    Runs.onlyWhen_iff.mpr fun _ => fuzzingReasons_runs objective hshape
  have hpanel : Runs (onlyWhen (Json.pyEq (categoryOf objective) (.str "service_control_panel") ||
      Json.pyEq (dget objective "module") (.str "service_control_panel"))
      (panelReasons scope objective)) :=
    Runs.onlyWhen_iff.mpr fun _ => panelReasons_runs objective hshape
  obtain ⟨r₆, h₆⟩ := hfuzzing
  obtain ⟨r₇, h₇⟩ := hpanel
  obtain ⟨limits, n, hlimits, -⟩ := hsections.limits
  obtain ⟨r₈, h₈⟩ := rateReasons_runs ⟨limits, hlimits⟩
  obtain ⟨r₉, h₉⟩ := evidenceReasons_runs input hsections.evidence
  constructor
  · rintro ⟨rs, h⟩
    simp only [dryReasons, bind_eq_ok] at h
    obtain ⟨_, -, category, hcategory, action, haction, -, -, -, -, -, -, -, -, -, -, network,
      hnetwork, -, -, -, -, sbom, hsbom, crypto, hcrypto, -⟩ := h
    refine ⟨?_, (forbiddenReasons_runs hshape).mp ⟨action, haction⟩, ?_, ?_⟩
    · rintro (hcat | hlive)
      · exact (categoryReasons_runs hshape).mp ⟨category, hcategory⟩ hcat
      · exact networkReasons_runs.mp ⟨network, hnetwork⟩ hlive
    · intro hcat
      exact sbomReasons_runs.mp (Runs.onlyWhen_iff.mp ⟨sbom, hsbom⟩ (by simp [hcat]))
    · intro hcat
      exact (cryptoReasons_runs rt).mp (Runs.onlyWhen_iff.mp ⟨crypto, hcrypto⟩ (by simp [hcat]))
  · intro h
    have hcat : Runs (categoryReasons scope objective) :=
      (categoryReasons_runs hshape).mpr fun hcat => h.category (.inl hcat)
    have hnet : Runs (networkReasons objective input.live) :=
      networkReasons_runs.mpr fun hlive => h.category (.inr hlive)
    have hsb : Runs (onlyWhen (Json.pyEq (categoryOf objective) (.str "sbom_review"))
        (sbomReasons scope objective)) :=
      Runs.onlyWhen_iff.mpr fun hcat =>
        sbomReasons_runs.mpr (h.sbom ((Json.pyEq_str_right _ _).mp hcat))
    have hcr : Runs (onlyWhen (Json.pyEq (categoryOf objective) (.str "crypto_controls"))
        (cryptoReasons rt scope objective)) :=
      Runs.onlyWhen_iff.mpr fun hcat =>
        (cryptoReasons_runs rt).mpr (h.crypto ((Json.pyEq_str_right _ _).mp hcat))
    obtain ⟨category, hcategory⟩ := hcat
    obtain ⟨action, haction⟩ := (forbiddenReasons_runs hshape).mpr h.action
    obtain ⟨network, hnetwork⟩ := hnet
    obtain ⟨sbom, hsbom⟩ := hsb
    obtain ⟨crypto, hcrypto⟩ := hcr
    simp only [dryReasons]
    exact ⟨_, bind_eq_ok.mpr ⟨target, htarget, bind_eq_ok.mpr ⟨category, hcategory,
      bind_eq_ok.mpr ⟨action, haction, bind_eq_ok.mpr ⟨r₁, h₁, bind_eq_ok.mpr ⟨r₂, h₂,
      bind_eq_ok.mpr ⟨r₃, h₃, bind_eq_ok.mpr ⟨r₄, h₄, bind_eq_ok.mpr ⟨r₅, h₅,
      bind_eq_ok.mpr ⟨network, hnetwork, bind_eq_ok.mpr ⟨r₆, h₆, bind_eq_ok.mpr ⟨r₇, h₇,
      bind_eq_ok.mpr ⟨sbom, hsbom, bind_eq_ok.mpr ⟨crypto, hcrypto, bind_eq_ok.mpr ⟨r₈, h₈,
      bind_eq_ok.mpr ⟨r₉, h₉, rfl⟩⟩⟩⟩⟩⟩⟩⟩⟩⟩⟩⟩⟩⟩⟩⟩

theorem liveReasons_runs (objective : Dict) (hc : parseScope scope = .ok c) :
    Runs (liveReasons rt c scope objective input) ↔ LiveRuns rt scope input := by
  have hshape := ScopeShape.of_parseScope hc
  have hsections := scopeSections_of_parse hc
  obtain ⟨authorization, hauthorization⟩ := hshape.authorization
  obtain ⟨roe, hroe⟩ := hshape.rulesOfEngagement
  obtain ⟨⟨profile, ofProfile⟩, hprofile⟩ := profileOf_runs input.programProfile
  obtain ⟨reporting, hreporting⟩ := reportingReasons_runs hsections
  constructor
  · rintro ⟨rs, h⟩
    simp only [liveReasons, hauthorization, hroe, Json.attrs, bind_eq_ok, Except.ok.injEq] at h
    obtain ⟨_, rfl, _, rfl, -, -, r₁, h₁, r₂, h₂, r₃, h₃, r₄, h₄, r₅, h₅, -, -, r₇, h₇, -⟩ := h
    obtain ⟨hkind, htimes⟩ := (authorizationReasons_runs rt).mp ⟨r₁, h₁⟩
    have honly : ∀ m, dget scope "authorization" = .obj m → m = authorization :=
      fun m hm => Json.obj.inj (hm.symm.trans hauthorization)
    refine ⟨?_, ?_, ?_, ?_, (operatorApprovalReasons_runs rt).mp ⟨r₄, h₄⟩,
      (windowReasons_runs rt hsections).mp ⟨r₅, h₅⟩, stopReasons_runs.mp ⟨r₇, h₇⟩⟩
    · intro m hm
      rw [honly m hm]
      exact hkind
    · intro m hm
      rw [honly m hm]
      exact htimes
    · intro m hm
      rw [honly m hm]
      exact (confidentialityReasons_runs rt).mp ⟨r₃, h₃⟩
    · intro m hm
      rw [Json.obj.inj (hm.symm.trans hroe)]
      exact (roeReasons_runs rt).mp ⟨r₂, h₂⟩
  · intro h
    have hauth : Runs (authorizationReasons rt authorization roe input.now) :=
      (authorizationReasons_runs rt).mpr ⟨h.kind _ hauthorization, h.authorization _ hauthorization⟩
    have hconfirmed : Runs (roeReasons rt roe input.now) :=
      (roeReasons_runs rt).mpr (h.confirmation _ hroe)
    have hwindows : Runs (windowReasons rt scope input.now) :=
      (windowReasons_runs rt hsections).mpr h.windows
    have happroval : Runs (operatorApprovalReasons rt c.operatorAlias authorization objective
        input) := (operatorApprovalReasons_runs rt).mpr h.approval
    obtain ⟨r₁, h₁⟩ := hauth
    obtain ⟨r₂, h₂⟩ := hconfirmed
    obtain ⟨r₃, h₃⟩ := (confidentialityReasons_runs rt).mpr (h.confidentiality _ hauthorization)
    obtain ⟨r₄, h₄⟩ := happroval
    obtain ⟨r₅, h₅⟩ := hwindows
    obtain ⟨r₇, h₇⟩ := stopReasons_runs.mpr h.stops
    unfold liveReasons
    rw [hauthorization, hroe]
    refine Runs.bind_iff.mpr ⟨authorization, rfl, Runs.bind_iff.mpr ⟨roe, rfl, Runs.bind_iff.mpr
      ⟨_, hprofile, Runs.bind_iff.mpr ⟨r₁, h₁, Runs.bind_iff.mpr ⟨r₂, h₂, Runs.bind_iff.mpr
      ⟨r₃, h₃, Runs.bind_iff.mpr ⟨r₄, h₄, Runs.bind_iff.mpr ⟨r₅, h₅, Runs.bind_iff.mpr
      ⟨reporting, hreporting, Runs.bind_iff.mpr ⟨r₇, h₇, ?_⟩⟩⟩⟩⟩⟩⟩⟩⟩⟩
    cases hgiven : input.programProfile with
    | none => cases profile <;> exact Runs.pure _
    | some document =>
      cases profile with
      | none => exact Runs.pure _
      | some parsed =>
        rw [hgiven] at hprofile
        obtain ⟨ofMatch, hmatch⟩ : Runs (profileReasons rt parsed document c scope authorization
            roe objective input.now) :=
          profileReasons_runs rt hsections (parsed_of_profileOf hprofile)
        exact Runs.bind_iff.mpr ⟨ofMatch, hmatch, Runs.pure _⟩

end

/-! ### An unhashable action -/

/-- An objective whose action is a list. -/
def listedAction : Dict := categorized ++ [("action", .arr [])]

set_option maxRecDepth 20000 in
theorem listedAction_raises : decision liveClock liveScope listedAction dryInput = none := by
  decide +kernel

end Aotp.Gate
