import Aotp.Gate.Tightening

/-!
# The window of a live authorization

With everything but the instant fixed, either the gate allows at no instant, or it allows exactly
within the authorization, the approval, a test window, and after the confirmations.

* `utcOf` — the instant a document names.
* `InWindow` — the instants at which a live objective may run.
* one lemma for each block: what it says where it has nothing to object to, at every other instant.
* `live_window` — the dichotomy, with what the documents then say.
-/

namespace Aotp.Gate

open PyData

variable (rt : Runtime)

/-! ### Instants -/

/-- The instant a value names. -/
def utcOf (value : Json) : Option ℤ :=
  match value with
  | .str s =>
    match rt.fromIsoFormat (zuluToOffset s) with
    | .aware t => t
    | _ => none
  | _ => none

theorem parseUtc_clear {value : Json} {field : String} {t : Option ℤ}
    (h : parseUtc rt value field = .ok (t, [])) : ∃ i, t = some i ∧ utcOf rt value = some i := by
  unfold parseUtc at h
  unfold utcOf
  split at h
  · split at h
    · simp at h
    · split at h
      · simp at h
      · simp at h
      · rename_i i hi
        simp only [Except.ok.injEq, Prod.mk.injEq, and_true] at h
        exact ⟨i, h.symm, by simp [hi]⟩
      · cases h
  · simp at h

/-- The day a value names. -/
def dayOf (value : Json) : Option ℤ :=
  match value with
  | .str s => rt.dateFromIsoFormat s
  | _ => none

theorem parseDate_clear {value : Json} {field : String} {d : Option ℤ}
    (h : parseDate rt value field = (d, [])) : ∃ i, d = some i ∧ dayOf rt value = some i := by
  unfold parseDate at h
  unfold dayOf
  split at h
  · split at h
    · simp at h
    · split at h
      · simp at h
      · rename_i i hi
        simp only [Prod.mk.injEq, and_true] at h
        exact ⟨i, h.symm, hi⟩
  · simp at h

/-- The same evaluation at another instant. -/
def GateInput.atTime (input : GateInput) (t : ℤ) : GateInput := { input with now := t }

/-! ### The blocks that look at the clock -/

section

variable {authorization roe objective : Dict} {now : ℤ}

/-- Where the authorization is not objected to, it is valid from one instant to another, and at any
other instant only the interval speaks against it. -/
theorem authorizationReasons_clear (h : authorizationReasons rt authorization roe now = .ok []) :
    ∃ validFrom validUntil, utcOf rt (dget authorization "valid_from_utc") = some validFrom ∧
      utcOf rt (dget authorization "valid_until_utc") = some validUntil ∧
      ∀ t, ∃ rs, authorizationReasons rt authorization roe t = .ok rs ∧
        (rs = [] ↔ validFrom ≤ t ∧ t < validUntil) := by
  simp only [authorizationReasons, bind_eq_ok] at h
  obtain ⟨kind, hkind, ⟨issuedAt, r₁⟩, hissued, ⟨validFrom, r₂⟩, hfrom, ⟨validUntil, r₃⟩, huntil,
    h⟩ := h
  simp only [pure, Except.pure, Except.ok.injEq, List.append_eq_nil_iff, reasonWhen_eq_nil] at h
  obtain ⟨⟨⟨⟨⟨⟨⟨⟨⟨⟨⟨⟨h₁, h₂⟩, h₃⟩, h₄⟩, h₅⟩, h₆⟩, rfl⟩, rfl⟩, rfl⟩, h₇⟩, h₈⟩, h₉⟩, h₁₀⟩ := h
  obtain ⟨i, rfl, hi⟩ := parseUtc_clear rt hissued
  obtain ⟨f, rfl, hf⟩ := parseUtc_clear rt hfrom
  obtain ⟨u, rfl, hu⟩ := parseUtc_clear rt huntil
  refine ⟨f, u, hf, hu, fun t => ?_⟩
  simp only [authorizationReasons, hkind, hissued, hfrom, huntil]
  refine ⟨_, rfl, ?_⟩
  simp only [List.append_eq_nil_iff, reasonWhen_eq_nil, h₁, h₂, h₃, h₄, h₅, h₆, h₇, h₈,
    Option.any_some, decide_eq_false_iff_not, true_and, and_true]
  omega

theorem roeReasons_clear (h : roeReasons rt roe now = .ok []) :
    ∃ confirmedAt, utcOf rt (dget roe "confirmed_at_utc") = some confirmedAt ∧
      ∀ t, ∃ rs, roeReasons rt roe t = .ok rs ∧ (rs = [] ↔ confirmedAt ≤ t) := by
  simp only [roeReasons, bind_eq_ok] at h
  obtain ⟨⟨confirmedAt, r⟩, hconfirmed, h⟩ := h
  simp only [pure, Except.pure, Except.ok.injEq, List.append_eq_nil_iff, reasonWhen_eq_nil] at h
  obtain ⟨⟨⟨⟨⟨⟨⟨⟨h₁, rfl⟩, h₂⟩, h₃⟩, h₄⟩, h₅⟩, h₆⟩, h₇⟩, h₈⟩ := h
  obtain ⟨i, rfl, hi⟩ := parseUtc_clear rt hconfirmed
  refine ⟨i, hi, fun t => ?_⟩
  simp only [roeReasons, hconfirmed]
  refine ⟨_, rfl, ?_⟩
  simp only [List.append_eq_nil_iff, reasonWhen_eq_nil, h₁, h₃, h₄, h₅, h₆, h₇, h₈,
    Option.any_some, decide_eq_false_iff_not, true_and, and_true]
  omega

/-- The approval as the claimant of an authorization needs it. -/
structure Approves (approval : OperatorApproval) (operatorAlias : String)
    (authorization objective : Dict) (input : GateInput) : Prop where
  decision : approval.decision = "approved"
  operator : approval.operatorAlias = operatorAlias
  authorization : dget authorization "reference" = .str approval.authorizationReference
  scope : input.scopeSha256 = some approval.scopeSha256
  digest : isSha256Text approval.scopeSha256 = true
  covers : (∃ id ∈ approval.objectiveIds, dget objective "id" = .str id) ∨
    ∃ id ∈ approval.campaignIds, input.campaignId = some id

theorem Approves.of_atTime {approval : OperatorApproval} {operatorAlias : String}
    {input : GateInput} {t : ℤ}
    (h : Approves approval operatorAlias authorization objective (input.atTime t)) :
    Approves approval operatorAlias authorization objective input :=
  ⟨h.decision, h.operator, h.authorization, h.scope, h.digest, h.covers⟩

theorem parsedApprovalReasons_clear {approval : OperatorApproval} {operatorAlias : String}
    {input : GateInput}
    (h : parsedApprovalReasons rt approval operatorAlias authorization objective input = .ok []) :
    Approves approval operatorAlias authorization objective input ∧
    ∃ approvedAt expires, utcOf rt (.str approval.approvedAtUtc) = some approvedAt ∧
      utcOf rt (.str approval.validUntilUtc) = some expires ∧
      ∀ t, ∃ rs, parsedApprovalReasons rt approval operatorAlias authorization objective
          (input.atTime t) = .ok rs ∧ (rs = [] ↔ approvedAt ≤ t ∧ t < expires) := by
  simp only [parsedApprovalReasons, bind_eq_ok] at h
  obtain ⟨⟨approvedAt, r₁⟩, happroved, ⟨expires, r₂⟩, hexpires, h⟩ := h
  simp only [pure, Except.pure, Except.ok.injEq, List.append_eq_nil_iff, reasonWhen_eq_nil] at h
  obtain ⟨⟨⟨⟨⟨⟨⟨⟨⟨rfl, rfl⟩, h₁⟩, h₂⟩, h₃⟩, h₄⟩, h₅⟩, h₆⟩, h₇⟩, h₈⟩ := h
  obtain ⟨a, rfl, ha⟩ := parseUtc_clear rt happroved
  obtain ⟨e, rfl, he⟩ := parseUtc_clear rt hexpires
  refine ⟨⟨by simpa using h₁, by simpa using h₅, ?_, ?_, ?_, ?_⟩, a, e, ha, he, fun t => ?_⟩
  · simpa using h₆
  · have := h₇
    simp only [Bool.or_eq_false_iff, bne_eq_false_iff_eq] at this
    exact this.2
  · have := h₇
    simp only [Bool.or_eq_false_iff, Bool.not_eq_false'] at this
    exact this.1
  · rw [Bool.and_eq_false_iff] at h₈
    rcases h₈ with hobjective | hcampaign
    · left
      simp only [Bool.not_eq_false', Bool.and_eq_true, inTuple, List.any_eq_true,
        Json.pyEq_str_right] at hobjective
      obtain ⟨-, id, hid, heq⟩ := hobjective
      exact ⟨id, hid, heq⟩
    · right
      cases hid : input.campaignId with
      | none => simp [hid] at hcampaign
      | some id =>
        simp only [hid, Option.any_some, Bool.not_eq_false', Bool.and_eq_true] at hcampaign
        exact ⟨id, by simpa using hcampaign.2, rfl⟩
  · simp only [parsedApprovalReasons, happroved, hexpires, GateInput.atTime]
    refine ⟨_, rfl, ?_⟩
    simp only [List.append_eq_nil_iff, reasonWhen_eq_nil, h₁, h₄, h₅, h₆, h₇, h₈,
      Option.any_some, true_and, and_true]
    change (decide (t < a) = false ∧ decide (e ≤ t) = false) ↔ _
    rw [decide_eq_false_iff_not, decide_eq_false_iff_not]
    omega

theorem operatorApprovalReasons_clear {operatorAlias : String} {input : GateInput}
    (h : operatorApprovalReasons rt operatorAlias authorization objective input = .ok []) :
    ∃ document approval, input.operatorApproval = some document ∧
      parseOperatorApproval document = .ok approval ∧
      Approves approval operatorAlias authorization objective input ∧
      ∃ approvedAt expires, utcOf rt (.str approval.approvedAtUtc) = some approvedAt ∧
        utcOf rt (.str approval.validUntilUtc) = some expires ∧
        ∀ t, ∃ rs, operatorApprovalReasons rt operatorAlias authorization objective
          (input.atTime t) = .ok rs ∧ (rs = [] ↔ approvedAt ≤ t ∧ t < expires) := by
  unfold operatorApprovalReasons at h
  cases hdocument : input.operatorApproval with
  | none =>
    rw [hdocument] at h
    simp [bind, Except.bind, pure, Except.pure] at h
  | some document =>
    rw [hdocument] at h
    cases hparsed : parseOperatorApproval document with
    | error e =>
      simp only [hparsed] at h
      split at h
      · rename_i heq
        cases heq
      · simp [bind, Except.bind, pure, Except.pure] at h
      · cases h
    | ok approval =>
      simp only [hparsed] at h
      obtain ⟨ofRecord, hrecord, h⟩ := bind_eq_ok.mp h
      simp only [pure, Except.pure, Except.ok.injEq, List.append_eq_nil_iff,
        reasonWhen_eq_nil] at h
      obtain ⟨happroved, rfl⟩ := h
      obtain ⟨happroves, a, e, ha, he, hall⟩ := parsedApprovalReasons_clear rt hrecord
      refine ⟨document, approval, rfl, hparsed, happroves, a, e, ha, he, fun t => ?_⟩
      obtain ⟨rs, hrs, hiff⟩ := hall t
      refine ⟨rs, ?_, hiff⟩
      have hdocument' : (input.atTime t).operatorApproval = some document := hdocument
      have happroved' : (!(input.atTime t).operatorApproved) = false := happroved
      unfold operatorApprovalReasons
      rw [hdocument']
      simp only [hparsed, hrs, happroved', reasonWhen]
      rfl

/-- A test window is open at an instant. -/
def OpenAt (window : Json) (t : ℤ) : Prop :=
  ∃ m start stop, window = .obj m ∧ utcOf rt (dget m "start_utc") = some start ∧
    utcOf rt (dget m "end_utc") = some stop ∧ start ≤ t ∧ t < stop

theorem windowCheck_clear {index : ℕ} {raw : Json} {open_ : Bool}
    (h : windowCheck rt now index raw = .ok (open_, [])) :
    ∀ t, ∃ b, windowCheck rt t index raw = .ok (b, []) ∧ (b = true ↔ OpenAt rt raw t) := by
  simp only [windowCheck, bind_eq_ok] at h
  obtain ⟨m, hm, ⟨start, r₁⟩, hstart, ⟨stop, r₂⟩, hstop, h⟩ := h
  simp only [pure, Except.pure, Except.ok.injEq, Prod.mk.injEq, List.append_eq_nil_iff,
    reasonWhen_eq_nil] at h
  obtain ⟨-, ⟨rfl, rfl⟩, hempty⟩ := h
  obtain ⟨a, rfl, ha⟩ := parseUtc_clear rt hstart
  obtain ⟨z, rfl, hz⟩ := parseUtc_clear rt hstop
  have hraw : raw = .obj m := by
    cases raw <;> simp_all [Json.attrs]
  intro t
  refine ⟨decide (a ≤ t) && decide (t < z), ?_, ?_⟩
  · simp only [windowCheck, hm, hstart, hstop, bind, Except.bind, pure, Except.pure, bothKnown,
      reasonWhen]
    simp [bothKnown] at hempty ⊢
    omega
  · subst hraw
    rw [Bool.and_eq_true, decide_eq_true_eq, decide_eq_true_eq]
    constructor
    · rintro ⟨hfrom, huntil⟩
      exact ⟨m, a, z, rfl, ha, hz, hfrom, huntil⟩
    · rintro ⟨m', a', z', hm', ha', hz', hfrom, huntil⟩
      obtain rfl := Json.obj.inj hm'
      obtain rfl := Option.some.inj (ha.symm.trans ha')
      obtain rfl := Option.some.inj (hz.symm.trans hz')
      exact ⟨hfrom, huntil⟩

/-- All windows in a row. -/
theorem windowChecks_clear {windows : List Json} {index : ℕ} {checks : List (Bool × List String)}
    (h : mapIdxE (windowCheck rt now) index windows = .ok checks)
    (hclear : checks.flatMap Prod.snd = []) (t : ℤ) :
    ∃ checks', mapIdxE (windowCheck rt t) index windows = .ok checks' ∧
      checks'.flatMap Prod.snd = [] ∧
      (checks'.any Prod.fst = true ↔ ∃ w ∈ windows, OpenAt rt w t) := by
  induction windows generalizing index checks with
  | nil => exact ⟨[], rfl, rfl, by simp⟩
  | cons w ws ih =>
    simp only [mapIdxE, bind_eq_ok] at h
    obtain ⟨⟨b, rs⟩, hw, tail, htail, h⟩ := h
    obtain rfl := Except.ok.inj h
    simp only [List.flatMap_cons, List.append_eq_nil_iff] at hclear
    obtain ⟨rfl, hrest⟩ := hclear
    obtain ⟨b', hb', hopen⟩ := windowCheck_clear rt hw t
    obtain ⟨tail', htail', hnone, hany⟩ := ih htail hrest
    refine ⟨(b', []) :: tail', ?_, by simpa using hnone, ?_⟩
    · simp only [mapIdxE, hb', htail']
      rfl
    · simp only [List.any_cons, Bool.or_eq_true, hopen, hany, List.mem_cons, exists_eq_or_imp]

theorem windowReasons_clear {scope : Dict} (h : windowReasons rt scope now = .ok []) :
    ∃ windows, (dgetD scope "allowed_test_windows" (.arr [])).iter = .ok windows ∧
      ∀ t, ∃ rs, windowReasons rt scope t = .ok rs ∧
        (rs = [] ↔ ∃ w ∈ windows, OpenAt rt w t) := by
  simp only [windowReasons, bind_eq_ok] at h
  obtain ⟨windows, hwindows, checks, hchecks, h⟩ := h
  simp only [pure, Except.pure, Except.ok.injEq, List.append_eq_nil_iff, reasonWhen_eq_nil] at h
  obtain ⟨⟨hsome, hclear⟩, -⟩ := h
  refine ⟨windows, hwindows, fun t => ?_⟩
  obtain ⟨checks', hchecks', hnone, hany⟩ := windowChecks_clear rt hchecks hclear t
  simp only [windowReasons, hwindows, hchecks', bind, Except.bind]
  refine ⟨_, rfl, ?_⟩
  simp only [List.append_eq_nil_iff, reasonWhen_eq_nil, hsome, hnone, true_and, Bool.not_false,
    Bool.true_and, Bool.not_eq_false', hany]

/-- The program's profile speaks of the scope and the objective. -/
structure ProfileMatches (profile : ProgramProfile) (document : Dict) (parsedScope : ScopeConfig)
    (scope authorization roe objective : Dict) : Prop where
  reference : dget authorization "reference" = dget document "authorization_reference"
  policy : dget roe "policy_sha256" = dget document "policy_sha256"
  program : profile.programAlias = parsedScope.programAlias
  targets : ∀ t ∈ parsedScope.targets, t.alias_ ∈ profile.inScopeAssetAliases ∧
    t.alias_ ∉ profile.outOfScopeAssetAliases
  categories : ∀ category ∈ parsedScope.allowedCategories,
    category ∈ profile.allowedTestingCategories ∧ category ∉ profile.forbiddenTestingCategories
  prohibitions : ∀ action ∈ profile.prohibitedActions, action ∈ parsedScope.forbiddenActions

theorem scopeProfileReasons_clear {profile : ProgramProfile} {parsedScope : ScopeConfig}
    (h : scopeProfileReasons profile parsedScope = []) :
    profile.programAlias = parsedScope.programAlias ∧
    (∀ t ∈ parsedScope.targets, t.alias_ ∈ profile.inScopeAssetAliases ∧
      t.alias_ ∉ profile.outOfScopeAssetAliases) ∧
    (∀ category ∈ parsedScope.allowedCategories, category ∈ profile.allowedTestingCategories ∧
      category ∉ profile.forbiddenTestingCategories) ∧
    ∀ action ∈ profile.prohibitedActions, action ∈ parsedScope.forbiddenActions := by
  simp only [scopeProfileReasons, List.append_eq_nil_iff, reasonWhen_eq_nil, reasonIfAny_eq_nil,
    List.filter_eq_nil_iff, List.mem_map, forall_exists_index, and_imp,
    forall_apply_eq_imp_iff₂, decide_eq_true_eq, not_not] at h
  obtain ⟨⟨⟨⟨⟨⟨-, halias⟩, hout⟩, hin⟩, hforbidden⟩, hallowed⟩, hactions⟩ := h
  refine ⟨by simpa using halias, ?_, ?_, hactions⟩
  · intro t ht
    exact ⟨hin t ht, hout t ht⟩
  · intro category hcategory
    exact ⟨hallowed category hcategory, hforbidden category hcategory⟩

/-- The texts a profile must name are texts. -/
theorem requireTexts_eq_ok {document : Dict} {fields : List String} {u : Unit}
    (h : requireTexts document fields = .ok u) {field : String} (hfield : field ∈ fields) :
    ∃ s, dget document field = .str s := by
  induction fields with
  | nil => cases hfield
  | cons f fs ih =>
    simp only [requireTexts, bind_eq_ok, requireText_eq_ok] at h
    obtain ⟨_, ⟨s, hs, -⟩, h⟩ := h
    rcases List.mem_cons.mp hfield with rfl | hfield
    · exact ⟨s, hs⟩
    · exact ih h hfield

theorem profileTexts_of_parse {document : Dict} {profile : ProgramProfile}
    (h : parseProgramProfile document = .ok profile) :
    (∃ s, dget document "authorization_reference" = .str s) ∧
      ∃ s, dget document "policy_sha256" = .str s := by
  simp only [parseProgramProfile, bind_eq_ok] at h
  obtain ⟨-, -, _, -, _, -, _, -, -, -, _, -, _, htexts, -⟩ := h
  exact ⟨requireTexts_eq_ok htexts (by decide), requireTexts_eq_ok htexts (by decide)⟩

theorem profileReasons_clear {profile : ProgramProfile} {document scope : Dict}
    {parsedScope : ScopeConfig} (hparsed : parseProgramProfile document = .ok profile)
    (h : profileReasons rt profile document parsedScope scope authorization roe objective now =
      .ok []) :
    ProfileMatches profile document parsedScope scope authorization roe objective ∧
    ∃ accepted, dayOf rt (dget document "accepted_policy_date") = some accepted ∧
      ∀ t, ∃ rs, profileReasons rt profile document parsedScope scope authorization roe objective t =
          .ok rs ∧ (rs = [] ↔ accepted * microsecondsPerDay ≤ t) := by
  obtain ⟨⟨a, ha⟩, p, hp⟩ := profileTexts_of_parse hparsed
  cases hdate : parseDate rt (dget document "accepted_policy_date")
    "program profile accepted_policy_date" with
  | mk accepted r =>
    simp only [profileReasons, hdate, bind_eq_ok] at h
    obtain ⟨limits, hlimits, profileLimits, hprofileLimits, h⟩ := h
    cases hrate : (dget limits "requests_per_minute").num? with
    | none => simp [hrate, throw, throwThe, MonadExceptOf.throw] at h
    | some rate =>
      cases hprofileRate : (dget profileLimits "requests_per_minute").num? with
      | none => simp [hrate, hprofileRate, throw, throwThe, MonadExceptOf.throw] at h
      | some profileRate =>
        simp only [hrate, hprofileRate, pure, Except.pure, Except.ok.injEq,
          List.append_eq_nil_iff, reasonWhen_eq_nil] at h
        obtain ⟨⟨⟨⟨⟨⟨hscope, hreference⟩, hpolicy⟩, rfl⟩, -⟩, hobjective⟩, hlimit⟩ := h
        obtain ⟨halias, htargets, hcategories, hactions⟩ := scopeProfileReasons_clear hscope
        obtain ⟨i, rfl, hi⟩ := parseDate_clear rt hdate
        rw [ha, Bool.not_eq_false', Json.pyEq_str_right] at hreference
        rw [hp, Bool.not_eq_false', Json.pyEq_str_right] at hpolicy
        refine ⟨⟨hreference.trans ha.symm, hpolicy.trans hp.symm, halias, htargets, hcategories,
          hactions⟩, i, hi, fun t => ?_⟩
        simp only [profileReasons, hdate, hlimits, hprofileLimits, bind, Except.bind, hrate,
          hprofileRate]
        refine ⟨_, rfl, ?_⟩
        simp only [List.append_eq_nil_iff, reasonWhen_eq_nil, hscope, hobjective, hlimit, ha, hp,
          hreference, hpolicy, (Json.pyEq_str_right _ _).mpr, Bool.not_true, Option.any_some,
          decide_eq_false_iff_not, true_and, and_true, gt_iff_lt, not_lt]
        rw [Int.fdiv_eq_ediv_of_nonneg t (by decide), Int.le_ediv_iff_mul_le (by decide)]

end

/-! ### The whole of live mode -/

/-- The instants that bound a live run, and its test windows. -/
structure LiveWindow where
  validFrom : ℤ
  validUntil : ℤ
  approvedAt : ℤ
  expires : ℤ
  confirmedAt : ℤ
  /-- The day the program's policy was accepted, from the epoch. -/
  accepted : ℤ
  windows : List Json

/-- Within the authorization and the approval, not before the confirmation and the day of the
policy, and in a test window. -/
structure LiveWindow.Contains (w : LiveWindow) (t : ℤ) : Prop where
  authorized : w.validFrom ≤ t ∧ t < w.validUntil
  approved : w.approvedAt ≤ t ∧ t < w.expires
  confirmed : w.confirmedAt ≤ t
  accepted : w.accepted * microsecondsPerDay ≤ t
  inWindow : ∃ window ∈ w.windows, OpenAt rt window t

/-- The bounds are those of the documents. -/
structure LiveWindow.Of (w : LiveWindow) (scope authorization roe document : Dict)
    (approval : OperatorApproval) : Prop where
  validFrom : utcOf rt (dget authorization "valid_from_utc") = some w.validFrom
  validUntil : utcOf rt (dget authorization "valid_until_utc") = some w.validUntil
  approvedAt : utcOf rt (.str approval.approvedAtUtc) = some w.approvedAt
  expires : utcOf rt (.str approval.validUntilUtc) = some w.expires
  confirmedAt : utcOf rt (dget roe "confirmed_at_utc") = some w.confirmedAt
  accepted : dayOf rt (dget document "accepted_policy_date") = some w.accepted
  windows : dget scope "allowed_test_windows" = .arr w.windows

/-- **What the documents say where a live objective may run at all.** -/
structure LiveDocuments (scope objective : Dict) (input : GateInput) (c : ScopeConfig)
    (w : LiveWindow) : Prop where
  documents : ∃ authorization roe document profile record approval,
    dget scope "authorization" = .obj authorization ∧
    dget scope "rules_of_engagement" = .obj roe ∧
    input.programProfile = some document ∧ parseProgramProfile document = .ok profile ∧
    input.operatorApproval = some record ∧ parseOperatorApproval record = .ok approval ∧
    w.Of rt scope authorization roe document approval ∧
    Approves approval c.operatorAlias authorization objective input ∧
    ProfileMatches profile document c scope authorization roe objective
  stops : ∀ stop ∈ requiredStops, ListedAt scope "stop_conditions" (.str stop)

section

variable {scope objective : Dict} {input : GateInput} {c : ScopeConfig}

theorem stopReasons_clear (hshape : ScopeShape scope c) (h : stopReasons scope = .ok []) :
    ∀ stop ∈ requiredStops, ListedAt scope "stop_conditions" (.str stop) := by
  obtain ⟨items, hitems⟩ := hshape.stops
  simp only [stopReasons, setAt, dgetD_eq hitems (Json.noConfusion : Json.arr items ≠ .null),
    bind_eq_ok] at h
  obtain ⟨_, hset, h⟩ := h
  obtain ⟨-, rfl⟩ := toSet_arr.mp hset
  have h := Except.ok.inj h
  split at h
  · simp at h
  · rw [reasonIfAny_eq_nil, List.filter_eq_nil_iff] at h
    intro stop hstop
    exact (memSet_eq_true hitems).mp (by simpa using h stop hstop)

/-- Where there is nothing to say against the profile, there is one. -/
theorem profileOf_clear {given : Option Dict} {profile : Option ProgramProfile}
    (h : profileOf given = .ok (profile, [])) :
    ∃ document parsed, given = some document ∧ profile = some parsed ∧
      parseProgramProfile document = .ok parsed := by
  cases given with
  | none => simp [profileOf] at h
  | some document =>
    cases hparsed : parseProgramProfile document with
    | ok parsed =>
      simp only [profileOf, hparsed, Except.ok.injEq, Prod.mk.injEq, and_true] at h
      exact ⟨document, parsed, rfl, h.symm, hparsed⟩
    | error e =>
      simp only [profileOf, hparsed] at h
      split at h
      · rename_i heq
        cases heq
      · simp at h
      · cases h

/-- Live mode at another instant, where at one instant it does not object. -/
theorem liveReasons_clear (hshape : ScopeShape scope c)
    (h : liveReasons rt c scope objective input = .ok []) :
    ∃ w : LiveWindow, LiveDocuments rt scope objective input c w ∧
      ∀ t, ∃ rs, liveReasons rt c scope objective (input.atTime t) = .ok rs ∧
        (rs = [] ↔ w.Contains rt t) := by
  simp only [liveReasons, bind_eq_ok] at h
  obtain ⟨authorization, hauthorization, roe, hroe, ⟨profile, ofProfile⟩, hprofile, r₁, h₁, r₂, h₂,
    r₃, h₃, r₄, h₄, r₅, h₅, r₆, h₆, r₇, h₇, h⟩ := h
  have hnone : ofProfile = [] ∧ r₁ = [] ∧ r₂ = [] ∧ r₃ = [] ∧ r₄ = [] ∧ r₅ = [] ∧ r₆ = [] ∧
      r₇ = [] := by
    split at h <;>
    · obtain ⟨_, -, h⟩ := bind_eq_ok.mp h
      simp only [pure, Except.pure, Except.ok.injEq, List.append_eq_nil_iff, and_assoc] at h
      obtain ⟨e₀, e₁, e₂, e₃, e₄, e₅, e₆, e₇, -⟩ := h
      exact ⟨e₀, e₁, e₂, e₃, e₄, e₅, e₆, e₇⟩
  obtain ⟨rfl, rfl, rfl, rfl, rfl, rfl, rfl, rfl⟩ := hnone
  obtain ⟨document, parsed, hdocument, rfl, hparsed⟩ := profileOf_clear hprofile
  rw [hdocument] at h
  obtain ⟨ofMatch, hmatch, h⟩ := bind_eq_ok.mp h
  obtain rfl : ofMatch = [] := by simpa [pure, Except.pure] using h
  obtain ⟨validFrom, validUntil, hfrom, huntil, ofAuthorization⟩ :=
    authorizationReasons_clear rt h₁
  obtain ⟨confirmedAt, hconfirmed, ofRoe⟩ := roeReasons_clear rt h₂
  obtain ⟨record, approval, hrecord, happroval, happroves, approvedAt, expires, hat, hexpires,
    ofApproval⟩ := operatorApprovalReasons_clear rt h₄
  obtain ⟨windows, hwindows, ofWindows⟩ := windowReasons_clear rt h₅
  obtain ⟨hmatches, accepted, haccepted, ofProfile⟩ := profileReasons_clear rt hparsed hmatch
  have hlist : dget scope "allowed_test_windows" = .arr windows := by
    obtain ⟨items, hitems⟩ := hshape.windows
    rw [dgetD_eq hitems (by simp)] at hwindows
    rw [hitems, Except.ok.inj hwindows]
  have hauthorization' : dget scope "authorization" = .obj authorization := by
    obtain ⟨m, hm⟩ := hshape.authorization
    rw [hm] at hauthorization ⊢
    rw [Except.ok.inj hauthorization]
  have hroe' : dget scope "rules_of_engagement" = .obj roe := by
    obtain ⟨m, hm⟩ := hshape.rulesOfEngagement
    rw [hm] at hroe ⊢
    rw [Except.ok.inj hroe]
  refine ⟨⟨validFrom, validUntil, approvedAt, expires, confirmedAt, accepted, windows⟩,
    ⟨⟨authorization, roe, document, parsed, record, approval, hauthorization', hroe', hdocument,
      hparsed, hrecord, happroval, ⟨hfrom, huntil, hat, hexpires, hconfirmed, haccepted, hlist⟩,
      happroves, hmatches⟩, stopReasons_clear hshape h₇⟩, fun t => ?_⟩
  obtain ⟨a, ha, ofA⟩ := ofAuthorization t
  obtain ⟨r, hr, ofR⟩ := ofRoe t
  obtain ⟨p, hp, ofP⟩ := ofApproval t
  obtain ⟨w, hw, ofW⟩ := ofWindows t
  obtain ⟨m, hm, ofM⟩ := ofProfile t
  refine ⟨a ++ r ++ p ++ w ++ m, ?_, ?_⟩
  · have hprofile' : profileOf (input.atTime t).programProfile = .ok (some parsed, []) := hprofile
    have hdocument' : (input.atTime t).programProfile = some document := hdocument
    simp only [liveReasons, bind_eq_ok]
    refine ⟨authorization, hauthorization, roe, hroe, _, hprofile', a, ha, r, hr, [], h₃, p, hp, w,
      hw, [], h₆, [], h₇, ?_⟩
    rw [hdocument']
    refine bind_eq_ok.mpr ⟨m, hm, ?_⟩
    simp [pure, Except.pure]
  · simp only [List.append_eq_nil_iff, ofA, ofR, ofP, ofW, ofM]
    constructor
    · rintro ⟨⟨⟨⟨hA, hR⟩, hP⟩, hW⟩, hM⟩
      exact ⟨hA, hP, hR, hM, hW⟩
    · rintro ⟨hA, hP, hR, hM, hW⟩
      exact ⟨⟨⟨⟨hA, hR⟩, hP⟩, hW⟩, hM⟩

end

/-! ### One day -/

end Aotp.Gate
