import Aotp.Gate.Containment

/-!
# Tightening a scope

* `Stricter` — a block of checks objects whenever another one does.
* `Tightens` — more is forbidden, less is allowlisted, the fuzzing limits are no larger, and the
  rest is the same.
* one lemma for each block of the gate: it is stricter under the tighter scope.
* `tightened_denies` — what is denied stays denied.
-/

namespace Aotp.Gate

open PyData

variable (rt : Runtime)

/-! ### Blocks that object more -/

/-- The second block runs wherever the first does, and objects whenever the first does. -/
def Stricter (b₁ b₂ : Except Exc (List String)) : Prop :=
  ∀ r₁, b₁ = .ok r₁ → ∃ r₂, b₂ = .ok r₂ ∧ (r₂ = [] → r₁ = [])

namespace Stricter

theorem refl (b : Except Exc (List String)) : Stricter b b := fun r h => ⟨r, h, id⟩

theorem of_ok {r₁ r₂ : List String} (h : r₂ = [] → r₁ = []) : Stricter (.ok r₁) (.ok r₂) := by
  intro r hr
  obtain rfl := Except.ok.inj hr
  exact ⟨r₂, rfl, h⟩

theorem onlyWhen {b₁ b₂ : Except Exc (List String)} (c : Bool) (h : c = true → Stricter b₁ b₂) :
    Stricter (onlyWhen c b₁) (onlyWhen c b₂) := by
  cases c with
  | false => exact refl _
  | true => exact h rfl

/-- The same value looked for in two sets: whether it is hashable does not depend on the set. -/
theorem of_inSet {x : Json} {i₁ i₂ : List Json} {f₁ f₂ : Bool → List String}
    (h : f₂ (i₂.any (Json.pyEq x)) = [] → f₁ (i₁.any (Json.pyEq x)) = []) :
    Stricter (inSet x i₁ >>= fun b => pure (f₁ b)) (inSet x i₂ >>= fun b => pure (f₂ b)) := by
  unfold inSet
  by_cases hx : x.hashable = true
  · simp only [hx, if_true]
    exact of_ok h
  · simp only [hx]
    exact refl _

end Stricter

/-! ### Lists that shrink or grow -/

/-- What the list under a key holds in one mapping, it holds in the other. -/
def Within (m m' : Dict) (key : String) : Prop := ∀ x, ListedAt m key x → ListedAt m' key x

/-- `memSet` on the list of a mapping. -/
theorem memSet_eq_true {m : Dict} {key : String} {items : List Json}
    (hitems : dget m key = .arr items) {t : String} :
    memSet items t = true ↔ ListedAt m key (.str t) := by
  simp only [memSet, List.any_eq_true, Json.pyEq_str_left]
  constructor
  · rintro ⟨x, hx, rfl⟩
    exact ⟨items, hitems, hx⟩
  · rintro ⟨items', hitems', hmem⟩
    obtain rfl := Json.arr.inj (hitems.symm.trans hitems')
    exact ⟨_, hmem, rfl⟩

/-- Membership in a list is inherited by a larger one. -/
theorem any_pyEq_mono {m m' : Dict} {key : String} {items items' : List Json}
    (hitems : dget m key = .arr items) (hitems' : dget m' key = .arr items')
    (h : Within m m' key) {x : Json} (hx : items.any (Json.pyEq x) = true) :
    items'.any (Json.pyEq x) = true := by
  obtain ⟨y, hy, heq⟩ := List.any_eq_true.mp hx
  obtain ⟨items'', hitems'', hmem⟩ := h y ⟨items, hitems, hy⟩
  obtain rfl := Json.arr.inj (hitems'.symm.trans hitems'')
  exact List.any_eq_true.mpr ⟨y, hmem, heq⟩

/-- One target under a tighter scope. -/
structure TargetTightens (m₁ m₂ : Dict) : Prop where
  name : dget m₁ "alias" = dget m₂ "alias"
  lists : ∀ p ∈ targetLists, Within m₂ m₁ p.2

/-- One panel under a tighter scope. -/
structure PanelTightens (m₁ m₂ : Dict) : Prop where
  same : ∀ k ∈ ["alias", "target_alias", "panel_type", "exposure"], dget m₁ k = dget m₂ k
  approved : Within m₂ m₁ "approved_actions"
  denied : Within m₁ m₂ "denied_actions"

/-- The fuzzing section under a tighter scope. -/
structure FuzzingTightens (m₁ m₂ : Dict) : Prop where
  authorized : dget m₁ "authorized" = dget m₂ "authorized"
  stateChanging : dget m₁ "state_changing_authorized" = dget m₂ "state_changing_authorized"
  approved : Within m₂ m₁ "approved_actions"
  denied : Within m₁ m₂ "denied_actions"
  classes : Within m₂ m₁ "safe_payload_classes"
  limits : ∀ k ∈ fuzzingLimits, ∀ n₁ n₂ : ℤ, dget m₁ k = .int n₁ → dget m₂ k = .int n₂ → n₂ ≤ n₁

/-- The cryptographic section under a tighter scope. The parser does not look into this section,
so that what is added to its denied actions is asked to be an action, that is, a text. -/
structure CryptoTightens (m₁ m₂ : Dict) : Prop where
  authorized : dget m₁ "authorized" = dget m₂ "authorized"
  approved : ∃ i₁ i₂, dgetD m₁ "approved_actions" (.arr []) = .arr i₁ ∧
    dgetD m₂ "approved_actions" (.arr []) = .arr i₂ ∧ i₂ ⊆ i₁
  denied : ∃ i₁ i₂, dgetD m₁ "denied_actions" (.arr []) = .arr i₁ ∧
    dgetD m₂ "denied_actions" (.arr []) = .arr i₂ ∧ i₁ ⊆ i₂ ∧
    ∀ x ∈ i₂, x ∈ i₁ ∨ ∃ s, x = .str s

/-- The sections that may be tightened. -/
def tightenedFields : List String :=
  ["allowed_targets", "allowed_categories", "forbidden_actions", "fuzzing",
    "service_control_panels", "cryptographic_controls", "provided_artifacts"]

/-- **The second scope is the first one, tightened.** -/
structure Tightens (s₁ s₂ : Dict) : Prop where
  same : ∀ k, k ∉ tightenedFields → dget? s₁ k = dget? s₂ k
  forbidden : Within s₁ s₂ "forbidden_actions"
  categories : Within s₂ s₁ "allowed_categories"
  artifacts : Within s₂ s₁ "provided_artifacts"
  targets : ∀ m₂, ListedAt s₂ "allowed_targets" (.obj m₂) →
    ∃ m₁, ListedAt s₁ "allowed_targets" (.obj m₁) ∧ TargetTightens m₁ m₂
  panelsAuthorized : ∀ c₁ c₂, dget s₁ "service_control_panels" = .obj c₁ →
    dget s₂ "service_control_panels" = .obj c₂ → dget c₁ "authorized" = dget c₂ "authorized"
  panels : ∀ c₁ c₂, dget s₁ "service_control_panels" = .obj c₁ →
    dget s₂ "service_control_panels" = .obj c₂ → ∀ m₂, ListedAt c₂ "panels" (.obj m₂) →
      ∃ m₁, ListedAt c₁ "panels" (.obj m₁) ∧ PanelTightens m₁ m₂
  fuzzing : ∀ f₁ f₂, dget s₁ "fuzzing" = .obj f₁ → dget s₂ "fuzzing" = .obj f₂ →
    FuzzingTightens f₁ f₂
  crypto : dget? s₁ "cryptographic_controls" = dget? s₂ "cryptographic_controls" ∨
    ∃ c₁ c₂, dget s₁ "cryptographic_controls" = .obj c₁ ∧
      dget s₂ "cryptographic_controls" = .obj c₂ ∧ CryptoTightens c₁ c₂

/-! ### Targets -/

theorem mem_patternTexts {items : List Json} {p : String} :
    p ∈ items.filterMap Json.text? ↔ .str p ∈ items := by
  rw [List.mem_filterMap]
  constructor
  · rintro ⟨x, hx, htext⟩
    cases x with
    | str s => exact Option.some.inj htext ▸ hx
    | _ => simp [Json.text?] at htext
  · intro hx
    exact ⟨_, hx, rfl⟩

theorem patternTexts_of_trims {items : List Json} {texts : List String}
    (h : TrimsTo items texts) : patternTexts items = .ok (items.filterMap Json.text?) := by
  unfold patternTexts
  rw [if_pos]
  rw [List.all_eq_true]
  intro x hx
  obtain ⟨s, rfl, -⟩ := h.of_mem hx
  rfl

theorem find_of_listed {α : Type} {x : Json} {Shape : Dict → α → Prop} {name : α → String}
    {parsed : List α} (h : EntriesAt x Shape name parsed)
    (hname : ∀ m a, Shape m a → ∃ s, dget m "alias" = .str s ∧ strip s = name a)
    {items : List Json} (hx : x = .arr items) {m : Dict} (hm : .obj m ∈ items) :
    findByAlias items (dget m "alias") = some m := by
  obtain ⟨items', hitems', hall⟩ := h.entries
  obtain rfl := Json.arr.inj (hx.symm.trans hitems')
  obtain ⟨a, -, m', hm', hshape⟩ := forall₂_exists hall hm
  obtain rfl := Json.obj.inj hm'
  obtain ⟨s, hs, -⟩ := hname _ _ hshape
  have hsome : (findByAlias items (dget m "alias")).isSome = true := by
    unfold findByAlias
    rw [List.findSome?_isSome_iff]
    exact ⟨_, hm, by simp [hs]⟩
  obtain ⟨m', hfound⟩ := Option.isSome_iff_exists.mp hsome
  obtain ⟨hmem', halias⟩ := findByAlias_eq_some hfound
  rw [hs, Json.pyEq_str_right] at halias
  have hsame : Json.obj m' = Json.obj m := by
    refine eq_of_nodup_keys hall h.distinct hmem' hm ?_
    rintro b b' ⟨k, hk, hb⟩ ⟨k', hk', hb'⟩
    obtain rfl := Json.obj.inj hk
    obtain rfl := Json.obj.inj hk'
    obtain ⟨t, ht, hbn⟩ := hname _ _ hb
    obtain ⟨t', ht', hbn'⟩ := hname _ _ hb'
    obtain rfl : t = t' := Json.str.inj (ht.symm.trans (halias.trans (hs.symm.trans ht')))
    rw [← hbn, ← hbn']
  rw [hfound, Json.obj.inj hsame]

/-- The matches of one objective under the two scopes. -/
def Narrowed (t₁ t₂ : Option Dict) : Prop :=
  ∀ m₂, t₂ = some m₂ → ∃ m₁, t₁ = some m₁ ∧ TargetTightens m₁ m₂ ∧
    (∃ t, TargetShape m₁ t) ∧ ∃ t, TargetShape m₂ t

section

variable {s₁ s₂ objective : Dict} {c₁ c₂ : ScopeConfig}

theorem narrowed (hs₁ : ScopeShape s₁ c₁) (hs₂ : ScopeShape s₂ c₂) (ht : Tightens s₁ s₂)
    {t₁ : Option Dict} (h₁ : targetOf s₁ objective = .ok t₁) :
    ∃ t₂, targetOf s₂ objective = .ok t₂ ∧ Narrowed t₁ t₂ := by
  obtain ⟨items₁, hitems₁, hall₁⟩ := hs₁.targets.entries
  obtain ⟨items₂, hitems₂, -⟩ := hs₂.targets.entries
  have hat₁ : targetOf s₁ objective =
      .ok (findByAlias items₁ (dget objective "target_alias")) := by
    rw [targetOf, hitems₁]
    rfl
  have hat₂ : targetOf s₂ objective =
      .ok (findByAlias items₂ (dget objective "target_alias")) := by
    rw [targetOf, hitems₂]
    rfl
  refine ⟨_, hat₂, ?_⟩
  obtain rfl := Except.ok.inj (hat₁.symm.trans h₁)
  intro m₂ hm₂
  obtain ⟨hmem₂, ⟨t₂, -, hshape₂⟩, halias₂⟩ := hs₂.targets.of_find hitems₂ hm₂
  obtain ⟨m₁, ⟨items, hitems, hmem₁⟩, htight⟩ := ht.targets m₂ ⟨items₂, hitems₂, hmem₂⟩
  obtain rfl := Json.arr.inj (hitems₁.symm.trans hitems)
  obtain ⟨s, hs, -⟩ := hshape₂.name
  rw [hs, Json.pyEq_str_left] at halias₂
  have hsame : dget objective "target_alias" = dget m₁ "alias" := by
    rw [halias₂, htight.name, hs]
  obtain ⟨t₁, -, m, hm, hshape₁⟩ := forall₂_exists hall₁ hmem₁
  obtain rfl := Json.obj.inj hm
  refine ⟨m₁, ?_, htight, ⟨t₁, hshape₁⟩, ⟨t₂, hshape₂⟩⟩
  rw [hsame]
  refine find_of_listed hs₁.targets ?_ hitems₁ hmem₁
  intro m a hshape
  obtain ⟨s, hs, hname, -⟩ := hshape.name
  exact ⟨s, hs, hname⟩

/-- A property listed by the narrower target is listed by the wider one. -/
theorem listedReasons_stricter {t₁ t₂ : Option Dict} (h : Narrowed t₁ t₂)
    {field listField : String} (hp : (field, listField) ∈ targetLists) (label : String) :
    Stricter (listedReasons objective t₁ field listField label)
      (listedReasons objective t₂ field listField label) := by
  unfold listedReasons
  by_cases hvalue : (dget objective field).truthy = true
  · simp only [hvalue, if_true]
    cases t₂ with
    | none =>
      intro r₁ _
      exact ⟨[label], rfl, by simp⟩
    | some m₂ =>
      obtain ⟨m₁, rfl, htight, ⟨_, hm₁⟩, ⟨_, hm₂⟩⟩ := h m₂ rfl
      obtain ⟨items₁, hdefault₁, hitems₁, -⟩ := (hm₁.lists _ hp).items (.arr [])
      obtain ⟨items₂, hdefault₂, hitems₂, -⟩ := (hm₂.lists _ hp).items (.arr [])
      simp only [hdefault₁, hdefault₂, pyIn]
      refine Stricter.of_ok ?_
      simp only [reasonWhen_eq_nil, Bool.not_eq_false']
      exact any_pyEq_mono hitems₂ hitems₁ (htight.lists _ hp)
  · simp only [hvalue]
    exact Stricter.refl _

theorem domainReasons_stricter {t₁ t₂ : Option Dict} (h : Narrowed t₁ t₂) :
    Stricter (domainReasons rt objective t₁) (domainReasons rt objective t₂) := by
  unfold domainReasons
  by_cases hvalue : (dget objective "domain").truthy = true
  · simp only [hvalue, if_true]
    cases t₂ with
    | none =>
      intro r₁ _
      exact ⟨_, rfl, by simp⟩
    | some m₂ =>
      obtain ⟨m₁, rfl, htight, ⟨_, hm₁⟩, ⟨_, hm₂⟩⟩ := h m₂ rfl
      have hp : ("domain", "domains") ∈ targetLists := by decide
      obtain ⟨items₁, hdefault₁, hitems₁, htrims₁⟩ := (hm₁.lists _ hp).items (.arr [])
      obtain ⟨items₂, hdefault₂, hitems₂, htrims₂⟩ := (hm₂.lists _ hp).items (.arr [])
      simp only [hdefault₁, hdefault₂, Json.iter, bind, Except.bind,
        patternTexts_of_trims htrims₁, patternTexts_of_trims htrims₂]
      refine Stricter.of_ok ?_
      simp only [reasonWhen_eq_nil, Bool.not_eq_false', domainAllowed_iff]
      rintro ⟨p, hpattern, hcovers⟩
      refine ⟨p, ?_, hcovers⟩
      have hmem₂ : ListedAt m₂ "domains" (.str p) := ⟨items₂, hitems₂, mem_patternTexts.mp hpattern⟩
      obtain ⟨items, hitems, hmem⟩ := htight.lists _ hp _ hmem₂
      obtain rfl := Json.arr.inj (hitems₁.symm.trans hitems)
      exact mem_patternTexts.mpr hmem
  · simp only [hvalue]
    exact Stricter.refl _

theorem targetReasons_stricter {t₁ t₂ : Option Dict} (h : Narrowed t₁ t₂) (live : Bool)
    (hnone : targetReasons objective t₂ live = []) : targetReasons objective t₁ live = [] := by
  simp only [targetReasons, List.append_eq_nil_iff, reasonWhen_eq_nil] at hnone ⊢
  refine ⟨?_, hnone.2⟩
  cases t₂ with
  | none =>
    have hunnamed : (dget objective "target_alias").truthy = false := by simpa using hnone.1
    simp [hunnamed]
  | some m₂ =>
    obtain ⟨m₁, rfl, -⟩ := h m₂ rfl
    simp

/-! ### Categories and actions -/

/-- The sections that stay. -/
theorem Tightens.dget_eq (ht : Tightens s₁ s₂) {k : String} (hk : k ∉ tightenedFields) :
    dget s₁ k = dget s₂ k := by
  unfold dget
  rw [ht.same k hk]

theorem categoryReasons_stricter (hs₁ : ScopeShape s₁ c₁) (hs₂ : ScopeShape s₂ c₂)
    (ht : Tightens s₁ s₂) :
    Stricter (categoryReasons s₁ objective) (categoryReasons s₂ objective) := by
  obtain ⟨items₁, hitems₁, htrims₁⟩ := hs₁.categories
  obtain ⟨items₂, hitems₂, htrims₂⟩ := hs₂.categories
  simp only [categoryReasons, hitems₁, hitems₂, htrims₁.toSet, htrims₂.toSet]
  change Stricter (if (categoryOf objective).truthy = true then _ else _)
    (if (categoryOf objective).truthy = true then _ else _)
  by_cases hcat : (categoryOf objective).truthy = true
  · simp only [hcat, if_true]
    refine Stricter.of_inSet ?_
    simp only [List.append_eq_nil_iff, reasonWhen_eq_nil, Bool.not_eq_false']
    rintro ⟨hmatch, hlisted⟩
    exact ⟨hmatch, any_pyEq_mono hitems₂ hitems₁ ht.categories hlisted⟩
  · simp only [hcat]
    exact Stricter.refl _

theorem forbiddenReasons_stricter (hs₁ : ScopeShape s₁ c₁) (hs₂ : ScopeShape s₂ c₂)
    (ht : Tightens s₁ s₂) :
    Stricter (forbiddenReasons s₁ objective) (forbiddenReasons s₂ objective) := by
  obtain ⟨items₁, hitems₁, htrims₁⟩ := hs₁.forbidden
  obtain ⟨items₂, hitems₂, htrims₂⟩ := hs₂.forbidden
  simp only [forbiddenReasons, hitems₁, hitems₂, htrims₁.toSet, htrims₂.toSet]
  refine Stricter.of_inSet ?_
  simp only [reasonWhen_eq_nil]
  intro hnone
  rw [Bool.eq_false_iff]
  intro hit
  exact Bool.eq_false_iff.mp hnone (any_pyEq_mono hitems₁ hitems₂ ht.forbidden hit)

end

/-! ### Fuzzing -/

theorem intGt_int (n k : ℤ) : intGt n (.int k) = .ok (decide (k < n)) := by
  simp only [intGt, Json.num?]
  exact congrArg Except.ok (decide_eq_decide.mpr Rat.intCast_lt_intCast)

/-- The endpoints over an integer limit. -/
theorem exceededEndpoints_int (limit : ℤ) (budgets : Dict) :
    exceededEndpoints (.int limit) budgets =
      .ok ((budgets.filter fun e => (positiveInt? e.2).any (limit < ·)).map Prod.fst) := by
  induction budgets with
  | nil => rfl
  | cons e budgets ih =>
    obtain ⟨endpoint, count⟩ := e
    simp only [exceededEndpoints, ih]
    cases hcount : positiveInt? count with
    | none => simp [hcount]
    | some n =>
      simp only [intGt_int, bind, Except.bind, pure, Except.pure, List.filter_cons, hcount,
        Option.any_some]
      by_cases hn : limit < n <;> simp [hn]

section

variable {m₁ m₂ objective : Dict} {f₁ f₂ : FuzzingScope}

/-- A limit of both sections, the second no larger. -/
theorem limits_le (h₁ : FuzzingSectionShape m₁ f₁) (h₂ : FuzzingSectionShape m₂ f₂) (ht : FuzzingTightens m₁ m₂)
    (k : String) (hk : k ∈ fuzzingLimits) (d : Json) :
    ∃ n₁ n₂ : ℤ, dgetD m₁ k d = .int n₁ ∧ dgetD m₂ k d = .int n₂ ∧ n₂ ≤ n₁ := by
  obtain ⟨n₁, hn₁⟩ := h₁.limits k hk
  obtain ⟨n₂, hn₂⟩ := h₂.limits k hk
  exact ⟨n₁, n₂, dgetD_eq hn₁ (by simp), dgetD_eq hn₂ (by simp), ht.limits k hk n₁ n₂ hn₁ hn₂⟩

theorem payloadClassErrors_stricter (h₁ : FuzzingSectionShape m₁ f₁) (h₂ : FuzzingSectionShape m₂ f₂)
    (ht : FuzzingTightens m₁ m₂) (classes : List String) :
    Stricter (payloadClassErrors classes m₁) (payloadClassErrors classes m₂) := by
  obtain ⟨items₁, hdefault₁, hitems₁, htrims₁⟩ := h₁.classes.items (.arr [])
  obtain ⟨items₂, hdefault₂, hitems₂, htrims₂⟩ := h₂.classes.items (.arr [])
  simp only [payloadClassErrors, hdefault₁, hdefault₂, htrims₁.toSet, htrims₂.toSet]
  refine Stricter.of_ok ?_
  simp only [List.append_eq_nil_iff, reasonIfAny_eq_nil, List.filter_eq_nil_iff]
  rintro ⟨hsafe, happroved⟩
  refine ⟨hsafe, ?_⟩
  intro a ha
  have hlisted := happroved a ha
  simp only [Bool.not_eq_true', Bool.not_eq_false] at hlisted ⊢
  exact any_pyEq_mono hitems₂ hitems₁ ht.classes hlisted

theorem payloadCountErrors_stricter (h₁ : FuzzingSectionShape m₁ f₁) (h₂ : FuzzingSectionShape m₂ f₂)
    (ht : FuzzingTightens m₁ m₂) (classes : List String) :
    Stricter (payloadCountErrors objective classes m₁)
      (payloadCountErrors objective classes m₂) := by
  obtain ⟨b₁, b₂, hb₁, hb₂, hle⟩ := limits_le h₁ h₂ ht "payload_budget" (by decide) (.int 0)
  unfold payloadCountErrors
  cases positiveInt? (dget objective "payload_count") with
  | none => exact Stricter.refl _
  | some n =>
    simp only [hb₁, hb₂, intGt_int, bind, Except.bind]
    by_cases hover : b₂ < n
    · intro r₁ _
      exact ⟨["fuzzing payload_count exceeds scope payload_budget"], by simp [hover]; rfl, by simp⟩
    · have hover₁ : ¬ b₁ < n := by omega
      simp only [hover, hover₁]
      exact Stricter.refl _

theorem limitErrors_stricter (h₁ : FuzzingSectionShape m₁ f₁) (h₂ : FuzzingSectionShape m₂ f₂)
    (ht : FuzzingTightens m₁ m₂) (read : Json → Option ℤ) (wanted : String) {field : String}
    (hfield : field ∈ fuzzingLimits) (absent : ℤ) :
    Stricter (limitErrors read wanted field absent objective m₁)
      (limitErrors read wanted field absent objective m₂) := by
  obtain ⟨b₁, b₂, hb₁, hb₂, hle⟩ := limits_le h₁ h₂ ht field hfield (.int absent)
  unfold limitErrors
  cases read (dget objective field) with
  | none => exact Stricter.refl _
  | some n =>
    simp only [hb₁, hb₂, intGt_int, bind, Except.bind]
    by_cases hover : b₂ < n
    · intro r₁ _
      exact ⟨["fuzzing " ++ field ++ " exceeds scope limit"], by simp [hover]; rfl, by simp⟩
    · have hover₁ : ¬ b₁ < n := by omega
      simp only [hover, hover₁]
      exact Stricter.refl _

theorem endpointErrors_stricter (h₁ : FuzzingSectionShape m₁ f₁) (h₂ : FuzzingSectionShape m₂ f₂)
    (ht : FuzzingTightens m₁ m₂) :
    Stricter (endpointErrors objective m₁) (endpointErrors objective m₂) := by
  obtain ⟨l₁, l₂, hl₁, hl₂, hlimit⟩ :=
    limits_le h₁ h₂ ht "per_endpoint_limit" (by decide) (.int 0)
  obtain ⟨b₁, b₂, hb₁, hb₂, hbudget⟩ :=
    limits_le h₁ h₂ ht "request_budget" (by decide) (.int 0)
  simp only [endpointErrors, hl₁, hl₂, hb₁, hb₂, exceededEndpoints_int, intGt_int]
  refine Stricter.of_ok ?_
  simp only [List.append_eq_nil_iff, reasonIfAny_eq_nil, List.map_eq_nil_iff,
    List.filter_eq_nil_iff]
  rintro ⟨⟨⟨hsome, hvalid⟩, hexceeded⟩, hplan⟩
  refine ⟨⟨⟨hsome, hvalid⟩, ?_⟩, ?_⟩
  · intro e he
    have hnot := hexceeded e he
    cases hcount : positiveInt? e.2 with
    | none => simp
    | some n =>
      simp only [hcount, Option.any_some, decide_eq_true_eq] at hnot ⊢
      omega
  · by_cases hover : b₁ < plannedRequests (endpointBudgetsOf objective)
    · have hover₂ : b₂ < plannedRequests (endpointBudgetsOf objective) := by omega
      simp [hover₂] at hplan
    · simp [hover]

theorem corpusErrors_stricter (h₁ : FuzzingSectionShape m₁ f₁) (h₂ : FuzzingSectionShape m₂ f₂)
    (ht : FuzzingTightens m₁ m₂) (classes : List String) :
    Stricter (corpusErrors objective classes m₁) (corpusErrors objective classes m₂) := by
  obtain ⟨b₁, b₂, hb₁, hb₂, hle⟩ := limits_le h₁ h₂ ht "payload_budget" (by decide) (.int 0)
  unfold corpusErrors
  split
  · exact Stricter.refl _
  · split
    · exact Stricter.refl _
    · split
      · exact Stricter.refl _
      · rename_i n _
        simp only [hb₁, hb₂, intGt_int]
        refine Stricter.of_ok ?_
        simp only [List.append_eq_nil_iff]
        rintro ⟨⟨hbudget, hcount⟩, hrequested⟩
        refine ⟨⟨?_, hcount⟩, hrequested⟩
        by_cases hover : b₁ < n
        · have hover₂ : b₂ < n := by omega
          simp [hover₂] at hbudget
        · simp [hover]

theorem fuzzingBoundaryErrors_stricter (h₁ : FuzzingSectionShape m₁ f₁) (h₂ : FuzzingSectionShape m₂ f₂)
    (ht : FuzzingTightens m₁ m₂) :
    Stricter (fuzzingBoundaryErrors objective m₁) (fuzzingBoundaryErrors objective m₂) := by
  intro r₁ h
  simp only [fuzzingBoundaryErrors, bind_eq_ok] at h
  obtain ⟨classes, hclasses, count, hcount, endpoints, hendpoints, bytes, hbytes, runtime,
    hruntime, retries, hretries, corpus, hcorpus, h⟩ := h
  obtain rfl := Except.ok.inj h
  obtain ⟨classes', hclasses', ofClasses⟩ := payloadClassErrors_stricter h₁ h₂ ht _ _ hclasses
  obtain ⟨count', hcount', ofCount⟩ := payloadCountErrors_stricter h₁ h₂ ht _ _ hcount
  obtain ⟨endpoints', hendpoints', ofEndpoints⟩ := endpointErrors_stricter h₁ h₂ ht _ hendpoints
  obtain ⟨bytes', hbytes', ofBytes⟩ :=
    limitErrors_stricter h₁ h₂ ht positiveInt? "positive" (by decide) 0 _ hbytes
  obtain ⟨runtime', hruntime', ofRuntime⟩ :=
    limitErrors_stricter h₁ h₂ ht positiveInt? "positive" (by decide) 0 _ hruntime
  obtain ⟨retries', hretries', ofRetries⟩ :=
    limitErrors_stricter h₁ h₂ ht nonNegativeInt? "non-negative" (by decide) (-1) _ hretries
  obtain ⟨corpus', hcorpus', ofCorpus⟩ := corpusErrors_stricter h₁ h₂ ht _ _ hcorpus
  simp only [fuzzingBoundaryErrors, bind_eq_ok]
  refine ⟨_, ⟨classes', hclasses', count', hcount', endpoints', hendpoints', bytes', hbytes',
    runtime', hruntime', retries', hretries', corpus', hcorpus', rfl⟩, ?_⟩
  simp only [fromkeys_eq_nil, List.append_eq_nil_iff]
  rintro ⟨⟨⟨⟨⟨⟨⟨⟨husable, hc⟩, hn⟩, he⟩, hb⟩, hr⟩, ht⟩, hp⟩, hstop⟩
  exact ⟨⟨⟨⟨⟨⟨⟨⟨husable, ofClasses hc⟩, ofCount hn⟩, ofEndpoints he⟩, ofBytes hb⟩, ofRuntime hr⟩,
    ofRetries ht⟩, ofCorpus hp⟩, hstop⟩

end

/-- The set of a text list is the list. -/
theorem TextsAt.setAt {m : Dict} {key : String} {texts : List String} (h : TextsAt m key texts) :
    ∃ items, setAt m key = .ok items ∧ dget m key = .arr items := by
  obtain ⟨items, hdefault, hitems, htrims⟩ := h.items (.arr [])
  exact ⟨items, by rw [Gate.setAt, hdefault, htrims.toSet], hitems⟩

/-- Requested actions against a wider list of approved ones and a narrower one of denied ones. -/
theorem unapproved_mono {requested : List String} {excluded : String → Bool}
    {approved₁ approved₂ denied₁ denied₂ : List Json}
    (happroved : ∀ a, memSet approved₂ a = true → memSet approved₁ a = true)
    (hnone : requested.filter (memSet denied₂) = [])
    (h : requested.filter (fun a => !memSet approved₂ a && !excluded a && !memSet denied₂ a) = []) :
    requested.filter (fun a => !memSet approved₁ a && !excluded a && !memSet denied₁ a) = [] := by
  rw [List.filter_eq_nil_iff] at *
  intro a ha hbad
  have hdenied := hnone a ha
  simp only [Bool.and_eq_true, Bool.not_eq_true'] at hbad
  have happroved : memSet approved₂ a = false := by
    rw [Bool.eq_false_iff]
    intro hin
    rw [happroved a hin] at hbad
    exact absurd hbad.1.1 (by decide)
  apply h a ha
  simp [happroved, hbad.1.2, hdenied]

theorem denied_mono {requested : List String} {denied₁ denied₂ : List Json}
    (hdenied : ∀ a, memSet denied₁ a = true → memSet denied₂ a = true)
    (hnone : requested.filter (memSet denied₂) = []) : requested.filter (memSet denied₁) = [] := by
  rw [List.filter_eq_nil_iff] at *
  intro a ha hin
  exact hnone a ha (hdenied a hin)

/-- `memSet` grows with the list. -/
theorem memSet_mono {m m' : Dict} {key : String} {items items' : List Json}
    (hitems : dget m key = .arr items) (hitems' : dget m' key = .arr items')
    (h : Within m m' key) (a : String) (ha : memSet items a = true) : memSet items' a = true :=
  any_pyEq_mono hitems hitems' h ha

section

variable {s₁ s₂ objective : Dict} {c₁ c₂ : ScopeConfig}

theorem fuzzingReasons_stricter (hs₁ : ScopeShape s₁ c₁) (hs₂ : ScopeShape s₂ c₂)
    (ht : Tightens s₁ s₂) :
    Stricter (fuzzingReasons s₁ objective) (fuzzingReasons s₂ objective) := by
  obtain ⟨m₁, hm₁, h₁⟩ := hs₁.fuzzing
  obtain ⟨m₂, hm₂, h₂⟩ := hs₂.fuzzing
  have htight := ht.fuzzing m₁ m₂ hm₁ hm₂
  have hdefault₁ : dgetD s₁ "fuzzing" (.obj []) = .obj m₁ := dgetD_eq hm₁ (by simp)
  have hdefault₂ : dgetD s₂ "fuzzing" (.obj []) = .obj m₂ := dgetD_eq hm₂ (by simp)
  obtain ⟨a₁, ha₁, hat₁⟩ := h₁.approved.setAt
  obtain ⟨a₂, ha₂, hat₂⟩ := h₂.approved.setAt
  obtain ⟨d₁, hd₁, hdat₁⟩ := h₁.denied.setAt
  obtain ⟨d₂, hd₂, hdat₂⟩ := h₂.denied.setAt
  intro r₁ h
  simp only [fuzzingReasons, hdefault₁, Json.attrs, bind_eq_ok, Except.ok.injEq] at h
  obtain ⟨_, rfl, a, ha, d, hd, boundary, hboundary, h⟩ := h
  obtain rfl := Except.ok.inj (ha₁.symm.trans ha)
  obtain rfl := Except.ok.inj (hd₁.symm.trans hd)
  obtain rfl := Except.ok.inj h
  obtain ⟨boundary', hboundary', ofBoundary⟩ :=
    fuzzingBoundaryErrors_stricter h₁ h₂ htight _ hboundary
  simp only [fuzzingReasons, hdefault₂, Json.attrs, bind_eq_ok, Except.ok.injEq]
  refine ⟨_, ⟨_, rfl, a₂, ha₂, d₂, hd₂, boundary', hboundary', rfl⟩, ?_⟩
  have hmono := memSet_mono hat₂ hat₁ htight.approved
  have hmono' := memSet_mono hdat₁ hdat₂ htight.denied
  simp only [List.append_eq_nil_iff, reasonWhen_eq_nil, reasonIfAny_eq_nil,
    List.flatMap_eq_nil_iff, htight.authorized, htight.stateChanging]
  rintro ⟨⟨⟨⟨⟨⟨⟨hauthorized, hsome⟩, hdenied⟩, hunapproved⟩, hlimits⟩, hb⟩, hsignals⟩, hchanging⟩
  have hplain : ∀ (approved denied : List Json),
      (fun a => !memSet approved a && !memSet denied a) =
        fun a => !memSet approved a && !(fun _ => false : String → Bool) a && !memSet denied a := by
    intros
    simp
  refine ⟨⟨⟨⟨⟨⟨⟨hauthorized, hsome⟩, denied_mono hmono' hdenied⟩, ?_⟩, ?_⟩, ofBoundary hb⟩,
    hsignals⟩, hchanging⟩
  · rw [hplain] at hunapproved ⊢
    exact unapproved_mono hmono hdenied hunapproved
  · intro field hfield
    have hlimit : field ∈ fuzzingLimits := by
      simp only [List.mem_cons, List.not_mem_nil, or_false] at hfield
      rcases hfield with rfl | rfl | rfl | rfl <;> decide
    obtain ⟨n₁, hn₁⟩ := h₁.limits field hlimit
    obtain ⟨n₂, hn₂⟩ := h₂.limits field hlimit
    have hle := htight.limits field hlimit n₁ n₂ hn₁ hn₂
    have hpos := hlimits field hfield
    simp only [fuzzingReasons.intAtLeastOne, hn₁, hn₂, asInt, Option.any_some, Bool.not_eq_false',
      decide_eq_true_eq] at hpos ⊢
    omega

/-! ### Control panels -/

/-- The checks that depend on which panel the objective names. -/
def namedPanelReasons (objective : Dict) (panels : List Json) : Except Exc (List String) :=
  if !(dget objective "panel_alias").truthy then pure ["panel alias is missing"]
  else match findByAlias panels (dget objective "panel_alias") with
    | none => pure ["panel alias is not explicitly allowlisted"]
    | some panel => scopedPanelReasons objective panel

theorem panelReasons_eq {scope config : Dict} {panels : List Json}
    (hconfig : dget scope "service_control_panels" = .obj config)
    (hpanels : dgetD config "panels" (.arr []) = .arr panels) :
    panelReasons scope objective = (namedPanelReasons objective panels >>= fun ofPanel =>
      pure (reasonWhen (!(dget config "authorized").truthy)
          "service control panel testing is not explicitly authorized" ++
        ofPanel ++
        reasonIfAny "panel action is denied by safety boundary: " (deniedPanelActions objective) ++
        reasonIfAny "panel observation is not approved as safe: "
          (unsafePanelObservations objective) ++
        reasonWhen ((collectPanelActions objective).contains "plan_safe_panel_observations" &&
            (collectPanelObservations objective).isEmpty)
          "safe panel observation planning requires requested_observations" ++
        reasonWhen (panelLockoutRiskDetected objective &&
            !(dget objective "human_approved").truthy)
          "authentication lockout risk requires human approval")) := by
  have hdefault : dgetD scope "service_control_panels" (.obj []) = .obj config :=
    dgetD_eq hconfig (by simp)
  have hiter : (dgetD config "panels" (.arr [])).iter = .ok panels := by rw [hpanels]; rfl
  unfold panelReasons namedPanelReasons
  rw [hdefault]
  change ((dgetD config "panels" (.arr [])).iter >>= _) = _
  rw [hiter]
  change (if _ then _ else _) = _
  split
  · rfl
  · cases findByAlias panels (dget objective "panel_alias") <;> rfl

theorem scopedPanelReasons_stricter {m₁ m₂ : Dict} {p₁ p₂ : PanelScope} (h₁ : ScopedPanelShape m₁ p₁)
    (h₂ : ScopedPanelShape m₂ p₂) (ht : PanelTightens m₁ m₂) :
    Stricter (scopedPanelReasons objective m₁) (scopedPanelReasons objective m₂) := by
  obtain ⟨a₁, ha₁, hat₁⟩ := h₁.approved.setAt
  obtain ⟨a₂, ha₂, hat₂⟩ := h₂.approved.setAt
  obtain ⟨d₁, hd₁, hdat₁⟩ := h₁.denied.setAt
  obtain ⟨d₂, hd₂, hdat₂⟩ := h₂.denied.setAt
  have htarget := ht.same "target_alias" (by decide)
  have htype := ht.same "panel_type" (by decide)
  simp only [scopedPanelReasons, ha₁, ha₂, hd₁, hd₂, htarget, htype]
  refine Stricter.of_ok ?_
  simp only [List.append_eq_nil_iff, reasonWhen_eq_nil, reasonIfAny_eq_nil]
  rintro ⟨⟨⟨hsame, hty⟩, hdenied⟩, hunapproved⟩
  exact ⟨⟨⟨hsame, hty⟩, denied_mono (memSet_mono hdat₁ hdat₂ ht.denied) hdenied⟩,
    unapproved_mono (memSet_mono hat₂ hat₁ ht.approved) hdenied hunapproved⟩

theorem panelReasons_stricter (hs₁ : ScopeShape s₁ c₁) (hs₂ : ScopeShape s₂ c₂)
    (ht : Tightens s₁ s₂) : Stricter (panelReasons s₁ objective) (panelReasons s₂ objective) := by
  obtain ⟨config₁, hconfig₁, hpanels₁⟩ := hs₁.panels
  obtain ⟨config₂, hconfig₂, hpanels₂⟩ := hs₂.panels
  obtain ⟨items₁, hitems₁, hall₁⟩ := hpanels₁.entries
  obtain ⟨items₂, hitems₂, -⟩ := hpanels₂.entries
  have hnamed : Stricter (namedPanelReasons objective items₁)
      (namedPanelReasons objective items₂) := by
    unfold namedPanelReasons
    by_cases halias : (!(dget objective "panel_alias").truthy) = true
    · simp only [halias, if_true]
      exact Stricter.refl _
    · rw [if_neg halias, if_neg halias]
      cases hfound : findByAlias items₂ (dget objective "panel_alias") with
      | none =>
        intro r₁ _
        exact ⟨_, rfl, by simp⟩
      | some m₂ =>
        obtain ⟨hmem₂, ⟨p₂, -, hshape₂⟩, hname₂⟩ := hpanels₂.of_find hitems₂ hfound
        obtain ⟨m₁, ⟨items, hitems, hmem₁⟩, htight⟩ :=
          ht.panels config₁ config₂ hconfig₁ hconfig₂ m₂ (listedAt_of_dgetD hitems₂ hmem₂)
        obtain rfl := Json.arr.inj (hitems₁.symm.trans (dgetD_eq hitems (by simp)))
        obtain ⟨p₁, -, m, hm, hshape₁⟩ := forall₂_exists hall₁ hmem₁
        obtain rfl := Json.obj.inj hm
        obtain ⟨s, hs, -⟩ := hshape₂.name
        rw [hs, Json.pyEq_str_left] at hname₂
        have hsame : dget objective "panel_alias" = dget m₁ "alias" := by
          rw [hname₂, htight.same "alias" (by decide), hs]
        have hfound₁ : findByAlias items₁ (dget objective "panel_alias") = some m₁ := by
          rw [hsame]
          refine find_of_listed hpanels₁ ?_ hitems₁ hmem₁
          intro m a hshape
          obtain ⟨s, hs, hname, -⟩ := hshape.name
          exact ⟨s, hs, hname⟩
        rw [hfound₁]
        exact scopedPanelReasons_stricter hshape₁ hshape₂ htight
  have hauthorized := ht.panelsAuthorized config₁ config₂ hconfig₁ hconfig₂
  rw [panelReasons_eq hconfig₁ hitems₁, panelReasons_eq hconfig₂ hitems₂, hauthorized]
  intro r₁ h
  obtain ⟨of₁, hof₁, h⟩ := bind_eq_ok.mp h
  obtain rfl := Except.ok.inj h
  obtain ⟨of₂, hof₂, hnone⟩ := hnamed of₁ hof₁
  refine ⟨_, bind_eq_ok.mpr ⟨of₂, hof₂, rfl⟩, ?_⟩
  simp only [List.append_eq_nil_iff]
  rintro ⟨⟨⟨⟨⟨h₁, h₂⟩, h₃⟩, h₄⟩, h₅⟩, h₆⟩
  exact ⟨⟨⟨⟨⟨h₁, hnone h₂⟩, h₃⟩, h₄⟩, h₅⟩, h₆⟩

/-! ### Artifacts and cryptographic controls -/

theorem toSet_arr {items s : List Json} :
    toSet (.arr items) = .ok s ↔ items.all Json.hashable = true ∧ s = items := by
  have hstep : toSet (.arr items) =
      if items.all Json.hashable then .ok items else .error .typeError := rfl
  rw [hstep]
  by_cases hall : items.all Json.hashable = true
  · rw [if_pos hall, Except.ok.injEq]
    exact ⟨fun h => ⟨hall, h.symm⟩, fun h => h.2.symm⟩
  · rw [if_neg hall]
    exact ⟨nofun, fun h => absurd h.1 hall⟩

theorem any_pyEq_subset {i₁ i₂ : List Json} (h : i₁ ⊆ i₂) {x : Json}
    (hx : i₁.any (Json.pyEq x) = true) : i₂.any (Json.pyEq x) = true := by
  obtain ⟨y, hy, heq⟩ := List.any_eq_true.mp hx
  exact List.any_eq_true.mpr ⟨y, h hy, heq⟩

theorem all_hashable_subset {i₁ i₂ : List Json} (h : i₂ ⊆ i₁)
    (hall : i₁.all Json.hashable = true) : i₂.all Json.hashable = true := by
  rw [List.all_eq_true] at hall ⊢
  exact fun x hx => hall x (h hx)

theorem sbomReasons_stricter (hs₁ : ScopeShape s₁ c₁) (hs₂ : ScopeShape s₂ c₂)
    (ht : Tightens s₁ s₂) : Stricter (sbomReasons s₁ objective) (sbomReasons s₂ objective) := by
  obtain ⟨items₁, hitems₁⟩ := hs₁.artifacts
  obtain ⟨items₂, hitems₂⟩ := hs₂.artifacts
  have hsub : items₂ ⊆ items₁ := by
    intro x hx
    obtain ⟨items, hitems, hmem⟩ := ht.artifacts x ⟨items₂, hitems₂, hx⟩
    exact Json.arr.inj (hitems.symm.trans hitems₁) ▸ hmem
  have hset₁ : setAt s₁ "provided_artifacts" = toSet (.arr items₁) := by
    rw [setAt, dgetD_eq hitems₁ (by simp)]
  have hset₂ : setAt s₂ "provided_artifacts" = toSet (.arr items₂) := by
    rw [setAt, dgetD_eq hitems₂ (by simp)]
  by_cases hall : items₁.all Json.hashable = true
  · have hp₁ : toSet (.arr items₁) = .ok items₁ := toSet_arr.mpr ⟨hall, rfl⟩
    have hp₂ : toSet (.arr items₂) = .ok items₂ :=
      toSet_arr.mpr ⟨all_hashable_subset hsub hall, rfl⟩
    simp only [sbomReasons, hset₁, hset₂, hp₁, hp₂]
    change Stricter (if (dget objective "artifact").truthy = true then _ else _)
      (if (dget objective "artifact").truthy = true then _ else _)
    by_cases hartifact : (dget objective "artifact").truthy = true
    · simp only [hartifact, if_true]
      refine Stricter.of_inSet ?_
      simp only [List.append_eq_nil_iff, reasonWhen_eq_nil, Bool.not_eq_false']
      rintro ⟨⟨hlisted, hpath⟩, hsource⟩
      exact ⟨⟨any_pyEq_subset hsub hlisted, hpath⟩, hsource⟩
    · simp only [hartifact]
      exact Stricter.refl _
  · intro r₁ h
    unfold sbomReasons at h
    rw [hset₁] at h
    obtain ⟨p₁, hp₁, -⟩ := bind_eq_ok.mp h
    exact absurd (toSet_arr.mp hp₁).1 hall

theorem inSet_ok {x : Json} {items : List Json} {b : Bool} :
    inSet x items = .ok b ↔ x.hashable = true ∧ items.any (Json.pyEq x) = b := by
  unfold inSet
  split <;> simp_all

/-- The check of the action of a cryptographic objective. -/
def cryptoActionReasons (action : Json) (crypto : Dict) : Except Exc (List String) :=
  if !action.truthy then pure ["cryptographic controls action is missing"]
  else do
    let denied ← setAt crypto "denied_actions"
    let refused ← inSet action denied
    if refused || cryptoActionIsUnsafe rt action then
      pure ["cryptographic controls action is explicitly denied"]
    else do
      let approved ← setAt crypto "approved_actions"
      let listed ← inSet action approved
      pure (reasonWhen (!listed) "cryptographic controls action is not explicitly approved")

theorem cryptoReasons_eq (scope objective : Dict) :
    cryptoReasons rt scope objective = (do
      let crypto ← (dgetD scope "cryptographic_controls" (.obj [])).attrs
      let ofAction ← cryptoActionReasons rt (dget objective "action") crypto
      pure (reasonWhen (!(dget crypto "authorized").truthy)
          "cryptographic controls review is not explicitly scoped" ++
        ofAction ++ cryptoEvidenceErrors rt objective)) := by
  unfold cryptoReasons cryptoActionReasons
  refine congrArg _ (funext fun crypto => ?_)
  by_cases haction : (!(dget objective "action").truthy) = true
  · rw [if_pos haction, if_pos haction]
  · rw [if_neg haction, if_neg haction]
    cases setAt crypto "denied_actions" with
    | error e => rfl
    | ok denied =>
      change (inSet (dget objective "action") denied >>= _) =
        ((inSet (dget objective "action") denied >>= _) >>= _)
      cases inSet (dget objective "action") denied with
      | error e => rfl
      | ok refused =>
        change (if (refused || cryptoActionIsUnsafe rt (dget objective "action")) = true then _
          else _) = ((if (refused || cryptoActionIsUnsafe rt (dget objective "action")) = true
          then _ else _) >>= _)
        split
        · rfl
        · cases setAt crypto "approved_actions" with
          | error e => rfl
          | ok approved =>
            change (inSet (dget objective "action") approved >>= _) =
              ((inSet (dget objective "action") approved >>= _) >>= _)
            cases inSet (dget objective "action") approved <;> rfl

theorem cryptoActionReasons_stricter {action : Json} {m₁ m₂ : Dict} (ht : CryptoTightens m₁ m₂) :
    Stricter (cryptoActionReasons rt action m₁) (cryptoActionReasons rt action m₂) := by
  obtain ⟨a₁, a₂, ha₁, ha₂, happroved⟩ := ht.approved
  obtain ⟨d₁, d₂, hd₁, hd₂, hdenied, hadded⟩ := ht.denied
  unfold cryptoActionReasons
  by_cases haction : (!action.truthy) = true
  · rw [if_pos haction, if_pos haction]
    exact Stricter.refl _
  · rw [if_neg haction, if_neg haction]
    intro r₁ h
    obtain ⟨_, hset₁, h⟩ := bind_eq_ok.mp h
    rw [setAt, hd₁] at hset₁
    obtain ⟨hall, rfl⟩ := toSet_arr.mp hset₁
    obtain ⟨refused, hrefused, h⟩ := bind_eq_ok.mp h
    obtain ⟨hhash, hany⟩ := inSet_ok.mp hrefused
    -- the larger denied list is a set too: what it adds are texts
    have hall₂ : d₂.all Json.hashable = true := by
      rw [List.all_eq_true] at hall ⊢
      intro x hx
      rcases hadded x hx with hin | ⟨s, rfl⟩
      · exact hall x hin
      · rfl
    have hset₂ : setAt m₂ "denied_actions" = .ok d₂ := by
      rw [setAt, hd₂]
      exact toSet_arr.mpr ⟨hall₂, rfl⟩
    have hrefused₂ : inSet action d₂ = .ok (d₂.any (Json.pyEq action)) :=
      inSet_ok.mpr ⟨hhash, rfl⟩
    by_cases hdanger : (d₂.any (Json.pyEq action) || cryptoActionIsUnsafe rt action) = true
    · refine ⟨["cryptographic controls action is explicitly denied"],
        bind_eq_ok.mpr ⟨d₂, hset₂, bind_eq_ok.mpr ⟨_, hrefused₂, ?_⟩⟩, ?_⟩
      · rw [if_pos hdanger]
        rfl
      · simp
    · have hdanger₁ : ¬ (refused || cryptoActionIsUnsafe rt action) = true := by
        intro hbad
        apply hdanger
        rcases Bool.or_eq_true_iff.mp hbad with hin | hin
        · rw [any_pyEq_subset hdenied (hany.trans hin), Bool.true_or]
        · rw [hin, Bool.or_true]
      rw [if_neg hdanger₁] at h
      obtain ⟨_, hset, h⟩ := bind_eq_ok.mp h
      rw [setAt, ha₁] at hset
      obtain ⟨hall', rfl⟩ := toSet_arr.mp hset
      obtain ⟨listed, hlisted, h⟩ := bind_eq_ok.mp h
      obtain ⟨-, hany'⟩ := inSet_ok.mp hlisted
      obtain rfl := Except.ok.inj h
      have hset' : setAt m₂ "approved_actions" = .ok a₂ := by
        rw [setAt, ha₂]
        exact toSet_arr.mpr ⟨all_hashable_subset happroved hall', rfl⟩
      refine ⟨reasonWhen (!a₂.any (Json.pyEq action))
          "cryptographic controls action is not explicitly approved",
        bind_eq_ok.mpr ⟨d₂, hset₂, bind_eq_ok.mpr ⟨_, hrefused₂, ?_⟩⟩, ?_⟩
      · rw [if_neg hdanger]
        exact bind_eq_ok.mpr ⟨a₂, hset', bind_eq_ok.mpr ⟨_, inSet_ok.mpr ⟨hhash, rfl⟩, rfl⟩⟩
      · simp only [reasonWhen_eq_nil, Bool.not_eq_false']
        intro hin
        rw [← hany']
        exact any_pyEq_subset happroved hin

theorem cryptoReasons_stricter (ht : Tightens s₁ s₂) :
    Stricter (cryptoReasons rt s₁ objective) (cryptoReasons rt s₂ objective) := by
  rw [cryptoReasons_eq, cryptoReasons_eq]
  rcases ht.crypto with hsame | ⟨m₁, m₂, hm₁, hm₂, htight⟩
  · have hdefault : dgetD s₁ "cryptographic_controls" (.obj []) =
        dgetD s₂ "cryptographic_controls" (.obj []) := by
      unfold dgetD
      rw [hsame]
    rw [hdefault]
    exact Stricter.refl _
  · rw [dgetD_eq hm₁ (by simp), dgetD_eq hm₂ (by simp)]
    intro r₁ h
    obtain ⟨_, hattrs, h⟩ := bind_eq_ok.mp h
    obtain rfl := Except.ok.inj hattrs
    obtain ⟨of₁, hof₁, h⟩ := bind_eq_ok.mp h
    obtain rfl := Except.ok.inj h
    obtain ⟨of₂, hof₂, hnone⟩ := cryptoActionReasons_stricter rt htight of₁ hof₁
    refine ⟨_, bind_eq_ok.mpr ⟨m₂, rfl, bind_eq_ok.mpr ⟨of₂, hof₂, rfl⟩⟩, ?_⟩
    simp only [List.append_eq_nil_iff, htight.authorized]
    rintro ⟨⟨hauthorized, haction⟩, hevidence⟩
    exact ⟨⟨hauthorized, hnone haction⟩, hevidence⟩

/-! ### The whole gate -/

/-- In a dry run the gate is stricter under the tighter scope. -/
theorem dryReasons_stricter (hs₁ : ScopeShape s₁ c₁) (hs₂ : ScopeShape s₂ c₂)
    (ht : Tightens s₁ s₂) (input : GateInput) :
    Stricter (dryReasons rt s₁ objective input) (dryReasons rt s₂ objective input) := by
  have hrate : rateReasons s₁ = rateReasons s₂ := by
    unfold rateReasons
    rw [ht.dget_eq (by decide)]
  have hevidence : evidenceReasons s₁ input = evidenceReasons s₂ input := by
    unfold evidenceReasons
    rw [ht.dget_eq (by decide)]
  intro r₁ h
  simp only [dryReasons, bind_eq_ok] at h
  obtain ⟨t₁, ht₁, category, hcategory, action, haction, service, hservice, api, hapi,
    environment, henvironment, account, haccount, domain, hdomain, network, hnetwork, fuzzing,
    hfuzzing, panel, hpanel, sbom, hsbom, crypto, hcrypto, rate, hrate', evidence, hevidence',
    h⟩ := h
  obtain rfl := Except.ok.inj h
  obtain ⟨t₂, ht₂, hnarrow⟩ := narrowed hs₁ hs₂ ht ht₁
  obtain ⟨category', hcategory', ofCategory⟩ := categoryReasons_stricter hs₁ hs₂ ht _ hcategory
  obtain ⟨action', haction', ofAction⟩ := forbiddenReasons_stricter hs₁ hs₂ ht _ haction
  obtain ⟨service', hservice', ofService⟩ :=
    listedReasons_stricter hnarrow (by decide) _ _ hservice
  obtain ⟨api', hapi', ofApi⟩ := listedReasons_stricter hnarrow (by decide) _ _ hapi
  obtain ⟨environment', henvironment', ofEnvironment⟩ :=
    listedReasons_stricter hnarrow (by decide) _ _ henvironment
  obtain ⟨account', haccount', ofAccount⟩ :=
    listedReasons_stricter hnarrow (by decide) _ _ haccount
  obtain ⟨domain', hdomain', ofDomain⟩ := domainReasons_stricter rt hnarrow _ hdomain
  obtain ⟨fuzzing', hfuzzing', ofFuzzing⟩ :=
    Stricter.onlyWhen _ (fun _ => fuzzingReasons_stricter hs₁ hs₂ ht) _ hfuzzing
  obtain ⟨panel', hpanel', ofPanel⟩ :=
    Stricter.onlyWhen _ (fun _ => panelReasons_stricter hs₁ hs₂ ht) _ hpanel
  obtain ⟨sbom', hsbom', ofSbom⟩ :=
    Stricter.onlyWhen _ (fun _ => sbomReasons_stricter hs₁ hs₂ ht) _ hsbom
  obtain ⟨crypto', hcrypto', ofCrypto⟩ :=
    Stricter.onlyWhen _ (fun _ => cryptoReasons_stricter rt ht) _ hcrypto
  simp only [dryReasons, bind_eq_ok]
  refine ⟨_, ⟨t₂, ht₂, category', hcategory', action', haction', service', hservice', api', hapi',
    environment', henvironment', account', haccount', domain', hdomain', network, hnetwork,
    fuzzing', hfuzzing', panel', hpanel', sbom', hsbom', crypto', hcrypto', rate, hrate ▸ hrate',
    evidence, hevidence ▸ hevidence', rfl⟩, ?_⟩
  simp only [List.append_eq_nil_iff]
  rintro ⟨⟨⟨⟨⟨⟨⟨⟨⟨⟨⟨⟨⟨⟨⟨h₁, h₂⟩, h₃⟩, h₄⟩, h₅⟩, h₆⟩, h₇⟩, h₈⟩, h₉⟩, h₁₀⟩, h₁₁⟩, h₁₂⟩, h₁₃⟩, h₁₄⟩,
    h₁₅⟩, h₁₆⟩
  exact ⟨⟨⟨⟨⟨⟨⟨⟨⟨⟨⟨⟨⟨⟨⟨targetReasons_stricter hnarrow _ h₁, ofCategory h₂⟩, ofAction h₃⟩,
    ofService h₄⟩, ofApi h₅⟩, ofEnvironment h₆⟩, ofAccount h₇⟩, ofDomain h₈⟩, h₉⟩, ofFuzzing h₁₀⟩,
    ofPanel h₁₁⟩, ofSbom h₁₂⟩, ofCrypto h₁₃⟩, h₁₄⟩, h₁₅⟩, h₁₆⟩

end

/-- **Tightening a scope never grants anything**: what the gate denies in a dry run under an
accepted scope it denies under every tighter accepted scope. -/
theorem tightened_denies {s₁ s₂ objective : Dict} {input : GateInput} {c₁ c₂ : ScopeConfig}
    {d₁ : PolicyDecision} (hc₁ : parseScope s₁ = .ok c₁) (hc₂ : parseScope s₂ = .ok c₂)
    (ht : Tightens s₁ s₂) (hdry : input.live = false)
    (h₁ : evaluate rt (some s₁) objective input = .ok d₁) (hdenied : d₁.allowed = false) :
    ∃ d₂, evaluate rt (some s₂) objective input = .ok d₂ ∧ d₂.allowed = false := by
  rw [evaluate_accepted rt hc₁] at h₁
  obtain ⟨r₁, hr₁, h₁⟩ := bind_eq_ok.mp h₁
  obtain rfl := Except.ok.inj h₁
  rw [gateReasons, hdry] at hr₁
  obtain ⟨dry₁, hdry₁, hr₁⟩ := bind_eq_ok.mp hr₁
  have hsame : r₁ = dry₁ := by
    obtain rfl := Except.ok.inj hr₁
    simp
  obtain ⟨dry₂, hdry₂, hnone⟩ := dryReasons_stricter rt (ScopeShape.of_parseScope hc₁)
    (ScopeShape.of_parseScope hc₂) ht input dry₁ hdry₁
  refine ⟨⟨dry₂.isEmpty, fromkeys dry₂⟩, ?_, ?_⟩
  · rw [evaluate_accepted rt hc₂, gateReasons, hdry, hdry₂]
    change Except.ok _ = Except.ok _
    simp
  · have hne : dry₁ ≠ [] := by
      rintro rfl
      simp [hsame] at hdenied
    have hne₂ : dry₂ ≠ [] := fun h => hne (hnone h)
    simpa using hne₂

/-! ### One way to tighten -/

theorem Within.refl (m : Dict) (key : String) : Within m m key := fun _ h => h

/-- Forbidding more actions tightens a scope. -/
theorem tightens_of_forbidding {scope : Dict} {items : List Json} (more : List Json)
    (hitems : dget scope "forbidden_actions" = .arr items) :
    Tightens scope (dset scope "forbidden_actions" (.arr (items ++ more))) := by
  have hother : ∀ k, k ≠ "forbidden_actions" →
      dget (dset scope "forbidden_actions" (.arr (items ++ more))) k = dget scope k :=
    fun k hk => dget_dset_of_ne scope _ hk
  have hwithin : ∀ k, k ≠ "forbidden_actions" →
      Within (dset scope "forbidden_actions" (.arr (items ++ more))) scope k := by
    intro k hk x ⟨items', hitems', hx⟩
    exact ⟨items', (hother k hk).symm.trans hitems', hx⟩
  constructor
  · intro k hk
    have hne : k ≠ "forbidden_actions" := by
      rintro rfl
      exact hk (by decide)
    exact (dget?_dset_of_ne scope _ hne).symm
  · intro x ⟨items', hitems', hx⟩
    obtain rfl := Json.arr.inj (hitems.symm.trans hitems')
    exact ⟨_, dget_dset_self scope _ _, List.mem_append_left more hx⟩
  · exact hwithin _ (by decide)
  · exact hwithin _ (by decide)
  · intro m hm
    exact ⟨m, hwithin _ (by decide) _ hm, rfl, fun p _ => Within.refl m p.2⟩
  · intro c₁ c₂ hc₁ hc₂
    rw [hother _ (by decide), hc₁] at hc₂
    rw [Json.obj.inj hc₂]
  · intro c₁ c₂ hc₁ hc₂ m hm
    rw [hother _ (by decide), hc₁] at hc₂
    obtain rfl := Json.obj.inj hc₂
    exact ⟨m, hm, fun _ _ => rfl, Within.refl _ _, Within.refl _ _⟩
  · intro f₁ f₂ hf₁ hf₂
    rw [hother _ (by decide), hf₁] at hf₂
    obtain rfl := Json.obj.inj hf₂
    refine ⟨rfl, rfl, Within.refl _ _, Within.refl _ _, Within.refl _ _, ?_⟩
    intro k _ n₁ n₂ hn₁ hn₂
    exact (Json.int.inj (hn₁.symm.trans hn₂)).ge
  · exact .inl (dget?_dset_of_ne scope _ (by decide)).symm

/-- The scope of a day, with one more action forbidden. -/
def tighterScope : Dict :=
  dset liveScope "forbidden_actions" (.arr ([.str "credential_attack"] ++ [.str "port_scan"]))

/-- An objective whose target the scope does not know. -/
def stranger : Dict := [("id", .str "stranger"), ("target_alias", .str "target-two")]

/-- A dry run at the same instant. -/
def dryInput : GateInput := { liveInput with live := false }

set_option maxRecDepth 20000 in
theorem stranger_denied : decision liveClock liveScope stranger dryInput =
    some ⟨false, ["target is not explicitly allowlisted"]⟩ := by
  decide +kernel

set_option maxRecDepth 20000 in
theorem tightened_denies_stranger :
    ∃ d, evaluate liveClock (some tighterScope) stranger dryInput = .ok d ∧
      d.allowed = false := by
  have htighter : accepts tighterScope = true := by decide +kernel
  obtain ⟨c₁, hc₁, -⟩ :=
    evaluate_allows liveClock ((decision_eq_some liveClock).mp categorized_allowed) rfl
  obtain ⟨c₂, hc₂⟩ := parseScope_of_accepts htighter
  exact tightened_denies liveClock hc₁ hc₂ (tightens_of_forbidding _ rfl) rfl
    ((decision_eq_some liveClock).mp stranger_denied) rfl

end Aotp.Gate
