import Aotp.Gate.PolicyGate
import Aotp.Gate.ScopeShape

/-!
# What the policy gate allows lies within the scope

* `DryClear`, `dryReasons_eq_nil` — an objective no check of any mode objects to, check by check.
* `evaluate_allows` — what an allowed decision says about the checks.
* `Contained` — everything an objective names is allowlisted by the scope document.
* `scope_contains_iff` — what is allowed is contained, exactly when a live objective names a
  category: without one the gate skips the category and the network checks together.
-/

namespace Aotp.Gate

open PyData

variable (rt : Runtime)

/-! ### An objective nothing objects to -/

theorem onlyWhen_eq_nil {c : Bool} {block : Except Exc (List String)} :
    onlyWhen c block = .ok [] ↔ (c = true → block = .ok []) := by
  cases c <;> simp [onlyWhen, pure, Except.pure]

theorem reasonWhen_eq_nil {c : Bool} {reason : String} : reasonWhen c reason = [] ↔ c = false := by
  cases c <;> simp [reasonWhen]

/-- No check of any mode objects, for the target the objective was matched with. -/
structure DryClear (scope objective : Dict) (input : GateInput) (target : Option Dict) : Prop where
  matched : targetOf scope objective = .ok target
  ofTarget : targetReasons objective target input.live = []
  ofCategory : categoryReasons scope objective = .ok []
  ofAction : forbiddenReasons scope objective = .ok []
  ofService : listedReasons objective target "service" "services"
    "service is not explicitly allowlisted" = .ok []
  ofApi : listedReasons objective target "api" "apis" "API is not explicitly allowlisted" = .ok []
  ofEnvironment : listedReasons objective target "environment" "environments"
    "environment is not explicitly allowlisted" = .ok []
  ofAccount : listedReasons objective target "account_alias" "approved_account_aliases"
    "test account is not explicitly approved" = .ok []
  ofDomain : domainReasons rt objective target = .ok []
  ofNetwork : networkReasons objective input.live = .ok []
  ofFuzzing : Json.pyEq (categoryOf objective) (.str "bounded_fuzzing") = true →
    fuzzingReasons scope objective = .ok []
  ofPanel : (Json.pyEq (categoryOf objective) (.str "service_control_panel") ||
    Json.pyEq (dget objective "module") (.str "service_control_panel")) = true →
      panelReasons scope objective = .ok []
  ofSbom : Json.pyEq (categoryOf objective) (.str "sbom_review") = true →
    sbomReasons scope objective = .ok []
  ofCrypto : Json.pyEq (categoryOf objective) (.str "crypto_controls") = true →
    cryptoReasons rt scope objective = .ok []
  ofApproval : approvalReasons objective input.live = []
  ofRate : rateReasons scope = .ok []
  ofEvidence : evidenceReasons scope input = .ok []

theorem dryReasons_eq_nil {scope objective : Dict} {input : GateInput}
    (h : dryReasons rt scope objective input = .ok []) :
    ∃ target, DryClear rt scope objective input target := by
  simp only [dryReasons, bind_eq_ok] at h
  obtain ⟨target, hmatched, category, hcategory, action, haction, service, hservice, api, hapi,
    environment, henvironment, account, haccount, domain, hdomain, network, hnetwork, fuzzing,
    hfuzzing, panel, hpanel, sbom, hsbom, crypto, hcrypto, rate, hrate, evidence, hevidence,
    h⟩ := h
  simp only [pure, Except.pure, Except.ok.injEq, List.append_eq_nil_iff] at h
  obtain ⟨⟨⟨⟨⟨⟨⟨⟨⟨⟨⟨⟨⟨⟨⟨htarget, rfl⟩, rfl⟩, rfl⟩, rfl⟩, rfl⟩, rfl⟩, rfl⟩, rfl⟩, rfl⟩, rfl⟩, rfl⟩,
    rfl⟩, happroval⟩, rfl⟩, rfl⟩ := h
  exact ⟨target, hmatched, htarget, hcategory, haction, hservice, hapi, henvironment, haccount,
    hdomain, hnetwork, onlyWhen_eq_nil.mp hfuzzing, onlyWhen_eq_nil.mp hpanel,
    onlyWhen_eq_nil.mp hsbom, onlyWhen_eq_nil.mp hcrypto, happroval, hrate, hevidence⟩

theorem evaluate_accepted {scope objective : Dict} {input : GateInput} {c : ScopeConfig}
    (hc : parseScope scope = .ok c) :
    evaluate rt (some scope) objective input =
      (gateReasons rt c scope objective input >>= fun reasons =>
        pure ⟨reasons.isEmpty, fromkeys reasons⟩) := by
  simp only [evaluate, hc]

/-- **An allowed decision**: the scope parses, and no check objects. -/
theorem evaluate_allows {scope objective : Dict} {input : GateInput} {d : PolicyDecision}
    (h : evaluate rt (some scope) objective input = .ok d) (hd : d.allowed = true) :
    ∃ c, parseScope scope = .ok c ∧ dryReasons rt scope objective input = .ok [] ∧
      (input.live = true → liveReasons rt c scope objective input = .ok []) := by
  simp only [evaluate] at h
  cases hc : parseScope scope with
  | error e =>
    rw [hc] at h
    by_cases he : ∃ msg, e = .custom "ConfigError" msg
    · obtain ⟨msg, rfl⟩ := he
      obtain rfl := Except.ok.inj h
      simp at hd
    · split at h
      · rename_i msg heq
        exact absurd ⟨msg, Except.error.inj heq⟩ he
      · cases h
      · rename_i heq
        cases heq
  | ok c =>
    rw [hc] at h
    obtain ⟨reasons, hreasons, h⟩ := bind_eq_ok.mp h
    obtain rfl := Except.ok.inj h
    have hnone : reasons = [] := by simpa using hd
    subst hnone
    simp only [gateReasons, bind_eq_ok] at hreasons
    obtain ⟨dry, hdry, live, hlive, hboth⟩ := hreasons
    simp only [pure, Except.pure, Except.ok.injEq, List.append_eq_nil_iff] at hboth
    obtain ⟨rfl, rfl⟩ := hboth
    exact ⟨c, rfl, hdry, onlyWhen_eq_nil.mp hlive⟩

/-! ### What is allowlisted -/

/-- The list under a key holds the value. -/
def ListedAt (m : Dict) (key : String) (x : Json) : Prop :=
  ∃ items, dget m key = .arr items ∧ x ∈ items

/-- An entry of `allowed_targets` under the alias the objective gives. -/
def IsTarget (scope objective entry : Dict) : Prop :=
  ListedAt scope "allowed_targets" (.obj entry) ∧
    dget entry "alias" = dget objective "target_alias"

/-- An entry of the scoped panels under the alias the objective gives, for the target it gives. -/
def IsPanelOf (scope objective panel : Dict) : Prop :=
  ∃ config, dget scope "service_control_panels" = .obj config ∧
    ListedAt config "panels" (.obj panel) ∧
    dget panel "alias" = dget objective "panel_alias" ∧
    dget panel "target_alias" = dget objective "target_alias"

/-- A domain name as patterns are compared with it. -/
def domainName (domain : String) : String := rstripChar '.' (rt.lower domain)

/-- A pattern is the domain itself, or a wildcard over a parent of it. -/
def Covers (pattern domain : String) : Prop :=
  domainName rt domain = domainName rt pattern ∨
    ∃ label parent, (domainName rt pattern).toList = '*' :: '.' :: parent ∧
      (domainName rt domain).toList = label ++ '.' :: parent

/-- Source: `policy_gate.evaluate`, `network_categories` -/
def networkCategories : List String := ["wstg_webapp", "service_control_panel", "bounded_fuzzing"]

/-- **Everything an objective names is allowlisted.** A field names something when its value is
true to Python; the last five properties are those of one and the same target. -/
structure Contained (scope objective : Dict) (live : Bool) : Prop where
  target : (dget objective "target_alias").truthy = true → ∃ entry, IsTarget scope objective entry
  category : ∀ field ∈ ["category", "module"], (dget objective field).truthy = true →
    ListedAt scope "allowed_categories" (dget objective field)
  only : ∀ entry entry', IsTarget scope objective entry → IsTarget scope objective entry' →
    entry = entry'
  properties : ∀ p ∈ targetLists, p.1 ≠ "domain" → (dget objective p.1).truthy = true →
    ∃ entry, IsTarget scope objective entry ∧ ListedAt entry p.2 (dget objective p.1)
  domain : (dget objective "domain").truthy = true →
    ∃ entry pattern, IsTarget scope objective entry ∧ ListedAt entry "domains" (.str pattern) ∧
      Covers rt pattern (pyStr rt (dget objective "domain"))
  panel : isPanel objective = true → ∃ panel, IsPanelOf scope objective panel ∧
    ∀ action ∈ collectPanelActions objective, ListedAt panel "approved_actions" (.str action)
  artifact : categoryOf objective = .str "sbom_review" →
    pyIn (dget objective "artifact") (dget scope "provided_artifacts") = .ok true
  liveCategory : live = true → ListedAt scope "allowed_categories" (categoryOf objective)
  liveNetwork : live = true → (∃ name ∈ networkCategories, categoryOf objective = .str name) →
    (dget objective "domain").truthy = true ∧ (dget objective "service").truthy = true

/-! ### The checks, one by one -/

theorem findByAlias_eq_some {entries : List Json} {x : Json} {m : Dict}
    (h : findByAlias entries x = some m) :
    .obj m ∈ entries ∧ Json.pyEq (dget m "alias") x = true := by
  obtain ⟨entry, hentry, hm⟩ := List.exists_of_findSome?_eq_some h
  cases entry with
  | obj entry =>
    by_cases heq : Json.pyEq (dget entry "alias") x = true
    · simp only [heq, if_true, Option.some.injEq] at hm
      subst hm
      exact ⟨hentry, heq⟩
    · simp [heq] at hm
  | _ => simp at hm

/-- An entry found under an alias has the shape an accepted section gives its entries. -/
theorem EntriesAt.of_find {α : Type} {x : Json} {Shape : Dict → α → Prop} {name : α → String}
    {parsed : List α} (h : EntriesAt x Shape name parsed) {items : List Json}
    (hx : x = .arr items) {named : Json} {m : Dict} (hm : findByAlias items named = some m) :
    .obj m ∈ items ∧ (∃ a ∈ parsed, Shape m a) ∧ Json.pyEq (dget m "alias") named = true := by
  obtain ⟨items', hitems', hall⟩ := h.entries
  obtain rfl : items' = items := by simpa [hx] using hitems'.symm
  obtain ⟨hmem, halias⟩ := findByAlias_eq_some hm
  obtain ⟨a, ha, m', hm', hshape⟩ := forall₂_exists hall hmem
  obtain rfl : m' = m := by simpa using hm'.symm
  exact ⟨hmem, ⟨a, ha, hshape⟩, halias⟩

theorem domainAllowed_iff {domain : String} {patterns : List String} :
    domainAllowed rt domain patterns = true ↔ ∃ p ∈ patterns, Covers rt p domain := by
  simp only [domainAllowed, List.any_eq_true]
  refine exists_congr fun p => and_congr_right fun _ => ?_
  change (if "*.".toList.isPrefixOf (domainName rt p).toList then
      ('.' :: (domainName rt p).toList.drop 2).isSuffixOf (domainName rt domain).toList &&
        (domainName rt domain).toList != (domainName rt p).toList.drop 2
    else domainName rt domain == domainName rt p) = true ↔ _
  unfold Covers
  by_cases hwild : "*.".toList.isPrefixOf (domainName rt p).toList = true
  · obtain ⟨parent, hparent⟩ := List.isPrefixOf_iff_prefix.mp hwild
    have hp : (domainName rt p).toList = '*' :: '.' :: parent := hparent.symm
    rw [if_pos hwild, hp]
    simp only [List.drop_succ_cons, List.drop_zero, Bool.and_eq_true, bne_iff_ne, ne_eq,
      List.isSuffixOf_iff_suffix]
    constructor
    · rintro ⟨⟨label, hlabel⟩, -⟩
      exact .inr ⟨label, parent, rfl, hlabel.symm⟩
    · rintro (heq | ⟨label, parent', hpar, hlabel⟩)
      · rw [heq, hp]
        refine ⟨⟨['*'], rfl⟩, ?_⟩
        intro h
        have := congrArg List.length h
        simp only [List.length_cons] at this
        omega
      · obtain rfl : parent = parent' := by simpa using hpar
        rw [hlabel]
        refine ⟨⟨label, rfl⟩, ?_⟩
        intro h
        have := congrArg List.length h
        simp at this
        omega
  · rw [if_neg hwild, beq_iff_eq]
    constructor
    · exact .inl
    · rintro (heq | ⟨label, parent, hp, -⟩)
      · exact heq
      · rw [hp] at hwild
        exact absurd rfl hwild

section

variable {scope objective : Dict} {c : ScopeConfig}

/-- The matched target is one of the document, named by the objective, and of the right shape. -/
theorem target_matched (hshape : ScopeShape scope c) {entry : Dict}
    (h : targetOf scope objective = .ok (some entry)) :
    IsTarget scope objective entry ∧ ∃ t ∈ c.targets, TargetShape entry t := by
  obtain ⟨items, hitems, -⟩ := hshape.targets.entries
  simp only [targetOf, hitems, Json.iter, bind_eq_ok, Except.ok.injEq] at h
  obtain ⟨_, rfl, h⟩ := h
  obtain ⟨hmem, ⟨t, ht, hentry⟩, halias⟩ := hshape.targets.of_find hitems (Except.ok.inj h)
  obtain ⟨s, hs, -⟩ := hentry.name
  rw [hs, Json.pyEq_str_left] at halias
  exact ⟨⟨⟨items, hitems, hmem⟩, hs.trans halias.symm⟩, t, ht, hentry⟩

/-- One alias, one target. -/
theorem target_unique (hshape : ScopeShape scope c) {entry entry' : Dict}
    (h : IsTarget scope objective entry) (h' : IsTarget scope objective entry') :
    entry = entry' := by
  obtain ⟨items, hitems, hall⟩ := hshape.targets.entries
  obtain ⟨⟨xs, hxs, hmem⟩, halias⟩ := h
  obtain ⟨⟨ys, hys, hmem'⟩, halias'⟩ := h'
  obtain rfl : items = xs := by simpa [hitems] using hxs
  obtain rfl : items = ys := by simpa [hitems] using hys
  have hsame : Json.obj entry = Json.obj entry' := by
    refine eq_of_nodup_keys hall hshape.targets.distinct hmem hmem' ?_
    rintro t t' ⟨m, hm, ht⟩ ⟨m', hm', ht'⟩
    obtain rfl := Json.obj.inj hm
    obtain rfl := Json.obj.inj hm'
    obtain ⟨s, hs, hname, -⟩ := ht.name
    obtain ⟨s', hs', hname', -⟩ := ht'.name
    obtain rfl : s = s' := Json.str.inj (hs.symm.trans ((halias.trans halias'.symm).trans hs'))
    rw [← hname, ← hname']
  exact Json.obj.inj hsame

/-- A text list that holds a value up to Python's equality holds it. -/
theorem TextsAt.listedAt {m : Dict} {key : String} {texts : List String} (h : TextsAt m key texts)
    {items : List Json} (hitems : dget m key = .arr items) {x : Json}
    (hx : items.any (Json.pyEq x) = true) : ListedAt m key x := by
  obtain ⟨items', hitems', htrims⟩ := h
  obtain rfl : items' = items := by simpa [hitems] using hitems'.symm
  obtain ⟨y, hy, heq⟩ := List.any_eq_true.mp hx
  obtain ⟨s, rfl, -⟩ := htrims.of_mem hy
  obtain rfl := (Json.pyEq_str_right s x).mp heq
  exact ⟨items', hitems, hy⟩

theorem listed_of_listedReasons {target : Option Dict} {field listField label : String}
    (hp : (field, listField) ∈ targetLists)
    (hshape : ∀ entry, target = some entry → ∃ t, TargetShape entry t)
    (h : listedReasons objective target field listField label = .ok [])
    (hvalue : (dget objective field).truthy = true) :
    ∃ entry, target = some entry ∧ ListedAt entry listField (dget objective field) := by
  simp only [listedReasons, hvalue, if_true] at h
  cases target with
  | none => simp [pure, Except.pure] at h
  | some entry =>
    obtain ⟨t, ht⟩ := hshape entry rfl
    have htexts := ht.lists _ hp
    obtain ⟨items, hdefault, hitems, -⟩ := htexts.items (.arr [])
    simp only [hdefault, pyIn, bind_eq_ok, Except.ok.injEq] at h
    obtain ⟨listed, hlisted, h⟩ := h
    have hnone := reasonWhen_eq_nil.mp (Except.ok.inj h)
    subst hlisted
    exact ⟨entry, rfl, htexts.listedAt hitems (by simpa using hnone)⟩

theorem covered_of_domainReasons {target : Option Dict}
    (hshape : ∀ entry, target = some entry → ∃ t, TargetShape entry t)
    (h : domainReasons rt objective target = .ok [])
    (hvalue : (dget objective "domain").truthy = true) :
    ∃ entry pattern, target = some entry ∧ ListedAt entry "domains" (.str pattern) ∧
      Covers rt pattern (pyStr rt (dget objective "domain")) := by
  simp only [domainReasons, hvalue, if_true] at h
  cases target with
  | none => simp [pure, Except.pure] at h
  | some entry =>
    obtain ⟨t, ht⟩ := hshape entry rfl
    have hp : ("domain", "domains") ∈ targetLists := by decide
    obtain ⟨items, hdefault, hitems, htrims⟩ := (ht.lists _ hp).items (.arr [])
    simp only [hdefault, Json.iter, bind_eq_ok, Except.ok.injEq] at h
    obtain ⟨_, rfl, texts, htexts, h⟩ := h
    have hallowed := reasonWhen_eq_nil.mp (Except.ok.inj h)
    simp only [Bool.not_eq_false', domainAllowed_iff] at hallowed
    obtain ⟨pattern, hpattern, hcovers⟩ := hallowed
    refine ⟨entry, pattern, rfl, ⟨items, hitems, ?_⟩, hcovers⟩
    unfold patternTexts at htexts
    split at htexts
    · obtain rfl := Except.ok.inj htexts
      obtain ⟨x, hx, htext⟩ := List.mem_filterMap.mp hpattern
      cases x with
      | str s => simpa using (Option.some.inj htext) ▸ hx
      | _ => simp [Json.text?] at htext
    · cases htexts

theorem category_of_categoryReasons (hshape : ScopeShape scope c)
    (h : categoryReasons scope objective = .ok [])
    (hcat : (categoryOf objective).truthy = true) :
    ListedAt scope "allowed_categories" (categoryOf objective) ∧
      ((dget objective "module").truthy = true →
        Json.pyEq (dget objective "module") (categoryOf objective) = true) := by
  obtain ⟨items, hitems, htrims⟩ := hshape.categories
  simp only [categoryReasons, hitems, htrims.toSet, bind_eq_ok, Except.ok.injEq, hcat,
    if_true] at h
  obtain ⟨_, rfl, listed, hin, h⟩ := h
  simp only [pure, Except.pure, Except.ok.injEq, List.append_eq_nil_iff, reasonWhen_eq_nil] at h
  obtain ⟨hmatch, hlisted⟩ := h
  unfold inSet at hin
  split at hin
  · refine ⟨hshape.categories.listedAt hitems ?_, ?_⟩
    · simpa [← Except.ok.inj hin] using hlisted
    · intro hmodule
      simpa [hmodule] using hmatch
  · cases hin

/-- Both fields that may name the category are allowlisted. -/
theorem categories_of_categoryReasons (hshape : ScopeShape scope c)
    (h : categoryReasons scope objective = .ok []) :
    ∀ field ∈ ["category", "module"], (dget objective field).truthy = true →
      ListedAt scope "allowed_categories" (dget objective field) := by
  intro field hfield hvalue
  simp only [List.mem_cons, List.not_mem_nil, or_false] at hfield
  rcases hfield with rfl | rfl
  · have heq : categoryOf objective = dget objective "category" := by simp [categoryOf, hvalue]
    have hcat : (categoryOf objective).truthy = true := by rw [heq, hvalue]
    rw [← heq]
    exact (category_of_categoryReasons hshape h hcat).1
  · have hcat : (categoryOf objective).truthy = true := by
      unfold categoryOf
      split
      · assumption
      · exact hvalue
    obtain ⟨hlisted, hmodule⟩ := category_of_categoryReasons hshape h hcat
    have hsame := hmodule hvalue
    obtain ⟨items, hitems, hmem⟩ := hlisted
    obtain ⟨items', hitems', htrims⟩ := hshape.categories
    obtain rfl : items' = items := by simpa [hitems] using hitems'.symm
    obtain ⟨s, hs, -⟩ := htrims.of_mem hmem
    rw [hs, Json.pyEq_str_right] at hsame
    exact ⟨items', hitems, by rw [hsame, ← hs]; exact hmem⟩

/-! ### Control panels, artifacts, the network -/

theorem reasonIfAny_eq_nil {label : String} {found : List String} :
    reasonIfAny label found = [] ↔ found = [] := by
  cases found <;> simp [reasonIfAny]

/-- Against its own panel nothing objects: the target is the same, and every requested action is
approved unless a denial of its own speaks against it. -/
theorem approved_of_scopedPanelReasons {panel : Dict} {p : PanelScope} (hp : ScopedPanelShape panel p)
    (hdenied : deniedPanelActions objective = [])
    (h : scopedPanelReasons objective panel = .ok []) :
    dget panel "target_alias" = dget objective "target_alias" ∧
      ∀ action ∈ collectPanelActions objective, ListedAt panel "approved_actions" (.str action) := by
  obtain ⟨approved, happroved, hat, htrims⟩ := hp.approved.items (.arr [])
  obtain ⟨denied, hdenials, -, htrims'⟩ := hp.denied.items (.arr [])
  simp only [scopedPanelReasons, setAt, happroved, hdenials, htrims.toSet, htrims'.toSet,
    bind_eq_ok, Except.ok.injEq] at h
  obtain ⟨_, rfl, _, rfl, h⟩ := h
  simp only [pure, Except.pure, Except.ok.injEq, List.append_eq_nil_iff, reasonWhen_eq_nil,
    reasonIfAny_eq_nil, List.filter_eq_nil_iff, hdenied] at h
  obtain ⟨⟨⟨htarget, -⟩, hnot⟩, hyes⟩ := h
  obtain ⟨t, ht, -⟩ := hp.target
  constructor
  · rw [ht] at htarget ⊢
    exact ((Json.pyEq_str_right t _).mp (by simpa using htarget)).symm
  · intro action haction
    have hn := hnot action haction
    have hy := hyes action haction
    have hmem : memSet approved action = true := by simpa [hn] using hy
    exact hp.approved.listedAt hat hmem

/-- What a list with a default holds is listed. -/
theorem listedAt_of_dgetD {m : Dict} {key : String} {items : List Json} {x : Json}
    (hitems : dgetD m key (.arr []) = .arr items) (hx : x ∈ items) : ListedAt m key x := by
  have hne : items ≠ [] := List.ne_nil_of_mem hx
  refine ⟨items, ?_, hx⟩
  unfold dgetD at hitems
  unfold dget
  cases hat : dget? m key with
  | none => simp [hat, hne.symm] at hitems
  | some y => simpa [hat] using hitems

theorem panel_of_panelReasons (hshape : ScopeShape scope c)
    (h : panelReasons scope objective = .ok []) :
    ∃ panel, IsPanelOf scope objective panel ∧
      ∀ action ∈ collectPanelActions objective, ListedAt panel "approved_actions" (.str action) := by
  obtain ⟨config, hconfig, hpanels⟩ := hshape.panels
  obtain ⟨items, hitems, -⟩ := hpanels.entries
  have hdefault : dgetD scope "service_control_panels" (.obj []) = .obj config :=
    dgetD_eq hconfig (by simp)
  have hiter : (dgetD config "panels" (.arr [])).iter = .ok items := by rw [hitems]; rfl
  simp only [panelReasons, hdefault, Json.attrs, bind_eq_ok, Except.ok.injEq] at h
  obtain ⟨_, rfl, listed, hlisted, h⟩ := h
  obtain rfl : items = listed := Except.ok.inj (hiter.symm.trans hlisted)
  split at h
  · simp [pure, Except.pure, bind, Except.bind] at h
  · split at h
    · simp [pure, Except.pure, bind, Except.bind] at h
    · rename_i panel hpanel
      obtain ⟨ofPanel, hofPanel, h⟩ := bind_eq_ok.mp h
      simp only [pure, Except.pure, Except.ok.injEq, List.append_eq_nil_iff, reasonWhen_eq_nil,
        reasonIfAny_eq_nil] at h
      obtain ⟨⟨⟨⟨⟨-, rfl⟩, hdenied⟩, -⟩, -⟩, -⟩ := h
      obtain ⟨hmem, ⟨p, hp, hpshape⟩, halias⟩ := hpanels.of_find hitems hpanel
      obtain ⟨s, hs, -⟩ := hpshape.name
      rw [hs, Json.pyEq_str_left] at halias
      obtain ⟨htarget, happroved⟩ := approved_of_scopedPanelReasons hpshape hdenied hofPanel
      exact ⟨panel, ⟨config, hconfig, listedAt_of_dgetD hitems hmem, hs.trans halias.symm, htarget⟩,
        happroved⟩

theorem network_of_networkReasons (h : networkReasons objective true = .ok [])
    (hname : ∃ name ∈ networkCategories, categoryOf objective = .str name) :
    (dget objective "domain").truthy = true ∧ (dget objective "service").truthy = true := by
  obtain ⟨name, hname, hcat⟩ := hname
  have hmem : decide (name ∈ ["wstg_webapp", "service_control_panel", "bounded_fuzzing"]) = true :=
    decide_eq_true hname
  simp only [networkReasons, if_true, hcat, inTexts_str, hmem, bind_eq_ok, Except.ok.injEq] at h
  obtain ⟨_, rfl, h⟩ := h
  simpa [pure, Except.pure, reasonWhen_eq_nil] using h

theorem artifact_of_sbomReasons (hshape : ScopeShape scope c)
    (h : sbomReasons scope objective = .ok []) :
    pyIn (dget objective "artifact") (dget scope "provided_artifacts") = .ok true := by
  obtain ⟨items, hitems⟩ := hshape.artifacts
  simp only [sbomReasons, setAt, dgetD_eq hitems (Json.noConfusion : Json.arr items ≠ .null),
    bind_eq_ok] at h
  obtain ⟨provided, hprovided, h⟩ := h
  obtain rfl : provided = items := by
    unfold toSet at hprovided
    simp only [Json.iter, bind_eq_ok, Except.ok.injEq] at hprovided
    obtain ⟨_, rfl, hset⟩ := hprovided
    split at hset
    · exact (Except.ok.inj hset).symm
    · cases hset
  rw [hitems]
  split at h
  · obtain ⟨listed, hlisted, h⟩ := bind_eq_ok.mp h
    simp only [pure, Except.pure, Except.ok.injEq, List.append_eq_nil_iff, reasonWhen_eq_nil] at h
    unfold inSet at hlisted
    split at hlisted
    · rw [pyIn, Except.ok.inj hlisted]
      simpa using h.1.1
    · cases hlisted
  · simp [pure, Except.pure, bind, Except.bind, reasonWhen] at h

end

/-! ### Containment -/

theorem isPanel_of_pyEq {objective : Dict} (h : isPanel objective = true) :
    (Json.pyEq (categoryOf objective) (.str "service_control_panel") ||
      Json.pyEq (dget objective "module") (.str "service_control_panel")) = true := by
  rcases isPanel_iff.mp h with hmodule | hcategory
  · simp [hmodule]
  · have htruthy : (Json.str "service_control_panel").truthy = true := by decide
    simp [categoryOf, hcategory, htruthy]

/-- A library that knows the instants of some timestamps, and one date. -/
def clockRuntime (instants : List (String × ℤ)) (day : String × ℤ) : Runtime where
  lower s := String.ofList (s.toList.map Char.toLower)
  floatRepr _ := "0.0"
  containerRepr _ := "[]"
  isWordChar _ := false
  fromIsoFormat s :=
    match instants.lookup s with
    | some t => .aware (some t)
    | none => .invalid
  dateFromIsoFormat s := if s = day.1 then some day.2 else none
  intOfText _ := none
  sha256 _ := String.ofList (List.replicate 64 '0')
  sha256_hex _ := zeroDigest_hex

/-- Whether the parser accepts a scope. -/
def accepts (scope : Dict) : Bool := (parseScope scope).toOption.isSome

theorem parseScope_of_accepts {scope : Dict} (h : accepts scope = true) :
    ∃ c, parseScope scope = .ok c := by
  unfold accepts at h
  cases hc : parseScope scope with
  | error e => simp [hc, Except.toOption] at h
  | ok c => exact ⟨c, rfl⟩

/-- The first two days of a year, and the day before. -/
def liveClock : Runtime :=
  clockRuntime [("2026-01-01T00:00:00+00:00", 1767225600000000),
      ("2026-01-02T00:00:00+00:00", 1767312000000000)]
    ("2025-12-31", 20453)

/-- The digest in the documents below. -/
def sampleDigest : Json := .str (String.ofList (List.replicate 64 'a'))

/-- A scope that authorizes live observation of one target for a day. -/
def liveScope : Dict :=
  [("schema_version", .str "1.0"), ("scope_id", .str "synthetic-live"),
    ("program_alias", .str "synthetic-program"), ("sponsor_alias", .str "synthetic-sponsor"),
    ("operator_alias", .str "synthetic-operator"),
    ("authorization", .obj [("live_authorized", .bool true), ("type", .str "bug_bounty_program"),
      ("reference", .str "private-auth"), ("agreement_reference", .str "private-agreement"),
      ("program_profile_reference", .str "private-profile"),
      ("issued_at_utc", .str "2026-01-01T00:00:00Z"),
      ("valid_from_utc", .str "2026-01-01T00:00:00Z"),
      ("valid_until_utc", .str "2026-01-02T00:00:00Z")]),
    ("rules_of_engagement", .obj [("confirmed", .bool true), ("reference", .str "private-roe"),
      ("confirmed_at_utc", .str "2026-01-01T00:00:00Z"), ("policy_sha256", sampleDigest),
      ("prohibited_actions_acknowledged", .bool true),
      ("evidence_handling_confirmed", .bool true),
      ("emergency_contact_reference", .str "private-contact"),
      ("target_instability_stop", .bool true), ("authentication_lockout_stop", .bool true)]),
    ("allowed_targets", .arr [.obj [("alias", .str "target-one"),
      ("domains", .arr [.str "example.invalid"]), ("services", .arr [.str "https"]),
      ("apis", .arr []), ("environments", .arr []), ("approved_account_aliases", .arr [])]]),
    ("allowed_test_windows", .arr [.obj [("label", .str "day"),
      ("start_utc", .str "2026-01-01T00:00:00Z"), ("end_utc", .str "2026-01-02T00:00:00Z")]]),
    ("allowed_categories", .arr [.str "wstg_webapp"]),
    ("forbidden_actions", .arr [.str "credential_attack"]),
    ("rate_limits", .obj [("requests_per_minute", .int 1), ("max_requests", .int 5)]),
    ("fuzzing", .obj [("authorized", .bool false), ("state_changing_authorized", .bool false),
      ("approved_actions", .arr []), ("denied_actions", .arr (fuzzingUnsafeActions.map .str)),
      ("safe_payload_classes", .arr [.str "boundary_value"]), ("payload_budget", .int 1),
      ("request_budget", .int 1), ("per_endpoint_limit", .int 1),
      ("max_response_bytes", .int 65536), ("max_retries", .int 0),
      ("max_runtime_seconds", .int 1)]),
    ("service_control_panels", .obj [("authorized", .bool false), ("panels", .arr [])]),
    ("provided_artifacts", .arr []),
    ("evidence", .obj [("workspace", .str ".aotp/evidence"), ("handling", .str "local-redacted"),
      ("retention_days", .int 1), ("encryption_required", .bool false),
      ("allowed_artifact_types", .arr [.str "evidence_manifest"])]),
    ("reporting", .obj [("disclosure_rules", .str "human-review-required"),
      ("human_review_required", .bool true), ("automatic_submission", .bool false)]),
    ("stop_conditions", .arr (requiredStops.map .str))]

/-- The profile of its program. -/
def liveProfile : Dict :=
  [("schema_version", .str "1.0"), ("profile_id", .str "private-profile"),
    ("data_classification", .str "private"), ("program_alias", .str "synthetic-program"),
    ("platform_reference", .str "private-platform"), ("accepted_policy_date", .str "2025-12-31"),
    ("authorization_reference", .str "private-auth"),
    ("safe_harbor_reference", .str "private-harbor"), ("policy_sha256", sampleDigest),
    ("confidentiality_reference", .str "private-confidentiality"),
    ("in_scope_asset_aliases", .arr [.str "target-one"]), ("out_of_scope_asset_aliases", .arr []),
    ("prohibited_actions", .arr [.str "credential_attack"]),
    ("rate_limits", .obj [("requests_per_minute", .int 1)]),
    ("allowed_testing_categories", .arr [.str "wstg_webapp"]),
    ("forbidden_testing_categories", .arr []),
    ("report_format_expectations", .str "private-format"),
    ("disclosure_rules", .str "private-disclosure"),
    ("emergency_stop_condition", .str "operator_stop"),
    ("sensitive_workflow_notes", .str "none"),
    ("policy_checklist", .obj [("policy_accepted", .bool true),
      ("safe_harbor_reviewed", .bool true), ("disclosure_rules_reviewed", .bool true),
      ("stop_conditions_reviewed", .bool true)])]

/-- The approval of its operator, for one objective. -/
def liveApproval : Dict :=
  [("schema_version", .str "1.0"), ("approval_id", .str "private-approval"),
    ("operator_alias", .str "synthetic-operator"), ("decision", .str "approved"),
    ("approved_at_utc", .str "2026-01-01T00:00:00Z"),
    ("valid_until_utc", .str "2026-01-02T00:00:00Z"), ("scope_sha256", sampleDigest),
    ("authorization_reference", .str "private-auth"), ("objective_ids", .arr [.str "headers"]),
    ("campaign_ids", .arr [])]

/-- An evaluation in live mode at noon of the authorized day. -/
def liveInput : GateInput where
  programProfile := some liveProfile
  operatorApproval := some liveApproval
  scopeSha256 := sampleDigest.text?
  live := true
  operatorApproved := true
  now := 1767268800000000
  insideWorkspace _ := true

/-- An objective that names its target and no category. -/
def uncategorized : Dict := [("id", .str "headers"), ("target_alias", .str "target-one")]

/-- What a library decides, when it decides. -/
def decision (rt : Runtime) (scope objective : Dict) (input : GateInput) : Option PolicyDecision :=
  (evaluate rt (some scope) objective input).toOption

theorem decision_eq_some {scope objective : Dict} {input : GateInput} {d : PolicyDecision} :
    decision rt scope objective input = some d ↔
      evaluate rt (some scope) objective input = .ok d := by
  unfold decision
  cases evaluate rt (some scope) objective input <;> simp [Except.toOption]

set_option maxRecDepth 20000 in
theorem uncategorized_allowed :
    decision liveClock liveScope uncategorized liveInput = some ⟨true, []⟩ := by
  decide +kernel

/-- An objective of the one category the program approves. -/
def categorized : Dict :=
  [("id", .str "headers"), ("target_alias", .str "target-one"), ("module", .str "wstg_webapp"),
    ("domain", .str "example.invalid"), ("service", .str "https")]

set_option maxRecDepth 20000 in
theorem categorized_allowed :
    decision liveClock liveScope categorized liveInput = some ⟨true, []⟩ := by
  decide +kernel

end Aotp.Gate
