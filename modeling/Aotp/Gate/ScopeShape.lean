import Aotp.Gate.Config

/-!
# What an accepted scope looks like underneath

The policy gate reads the scope document itself, not what `parseScope` makes of it. Every section
it reads is there, and of the shape it reads it in:

* `TargetShape`, `ScopedPanelShape` — one entry of a section, as it stands in the document.
* `ScopeShape`, `ScopeShape.of_parseScope` — the document.
-/

namespace Aotp.Gate

open PyData

theorem dgetD_eq {m : Dict} {k : String} {v d : Json} (h : dget m k = v) (hv : v ≠ .null) :
    dgetD m k d = v := by
  unfold dget at h
  unfold dgetD
  cases hm : dget? m k with
  | none => simp [hm, hv.symm] at h
  | some w => simpa [hm] using h

/-- The list under a key holds texts, and these are their trimmed forms. -/
def TextsAt (m : Dict) (key : String) (texts : List String) : Prop :=
  ∃ items, dget m key = .arr items ∧ TrimsTo items texts

theorem textsAt_of_requireTextList {m : Dict} {key field : String} {allowEmpty : Bool}
    {texts : List String} (h : requireTextList (dget m key) field allowEmpty = .ok texts) :
    TextsAt m key texts := by
  obtain ⟨items, hitems, htrims, -⟩ := requireTextList_eq_ok h
  exact ⟨items, hitems, htrims⟩

namespace TextsAt

variable {m : Dict} {key : String} {texts : List String}

theorem items (h : TextsAt m key texts) (d : Json) :
    ∃ items, dgetD m key d = .arr items ∧ dget m key = .arr items ∧ TrimsTo items texts := by
  obtain ⟨items, hitems, htrims⟩ := h
  exact ⟨items, dgetD_eq hitems (by simp), hitems, htrims⟩

end TextsAt

/-- The lists a target keeps, with the property of an objective each one answers for. -/
def targetLists : List (String × String) :=
  [("service", "services"), ("api", "apis"), ("environment", "environments"),
    ("account_alias", "approved_account_aliases"), ("domain", "domains")]

/-- The texts of the list a target keeps under a key. -/
def TargetScope.listAt (t : TargetScope) : String → List String
  | "services" => t.services
  | "apis" => t.apis
  | "environments" => t.environments
  | "approved_account_aliases" => t.approvedAccountAliases
  | _ => t.domains

/-- One entry of `allowed_targets`. -/
structure TargetShape (m : Dict) (t : TargetScope) : Prop where
  name : ∃ s, dget m "alias" = .str s ∧ strip s = t.alias_ ∧ t.alias_ ≠ ""
  lists : ∀ p ∈ targetLists, TextsAt m p.2 (t.listAt p.2)

theorem targetShape_of_parseTarget {j : ℕ} {x : Json} {t : TargetScope}
    (h : parseTarget j x = .ok t) : ∃ m, x = .obj m ∧ TargetShape m t := by
  simp only [parseTarget, bind_eq_ok, requireMapping_eq_ok, requireText_eq_ok] at h
  obtain ⟨m, rfl, -, -, name, hname, domains, hdomains, services, hservices, apis, hapis, envs,
    henvs, accounts, haccounts, h⟩ := h
  obtain rfl := Except.ok.inj h
  refine ⟨m, rfl, hname, ?_⟩
  intro p hp
  simp only [targetLists, List.mem_cons, List.not_mem_nil, or_false] at hp
  rcases hp with rfl | rfl | rfl | rfl | rfl
  · exact textsAt_of_requireTextList hservices
  · exact textsAt_of_requireTextList hapis
  · exact textsAt_of_requireTextList henvs
  · exact textsAt_of_requireTextList haccounts
  · exact textsAt_of_requireTextList hdomains

/-- One entry of `service_control_panels.panels`. -/
structure ScopedPanelShape (m : Dict) (p : PanelScope) : Prop where
  name : ∃ s, dget m "alias" = .str s ∧ strip s = p.alias_ ∧ p.alias_ ≠ ""
  target : ∃ s, dget m "target_alias" = .str s ∧ strip s = p.targetAlias ∧ p.targetAlias ≠ ""
  panelType : ∃ s, dget m "panel_type" = .str s ∧ strip s = p.panelType ∧ p.panelType ≠ ""
  approved : TextsAt m "approved_actions" p.approvedActions
  denied : TextsAt m "denied_actions" p.deniedActions

theorem panelShape_of_parsePanel {aliases : List String} {j : ℕ} {x : Json} {p : PanelScope}
    (h : parsePanel aliases j x = .ok p) : ∃ m, x = .obj m ∧ ScopedPanelShape m p := by
  simp only [parsePanel, bind_eq_ok, requireMapping_eq_ok, requireText_eq_ok] at h
  obtain ⟨m, rfl, -, -, ty, hty, -, -, target, htarget, -, -, approved, happroved, denied, hdenied,
    -, -, -, -, -, -, -, -, -, -, name, hname, exposure, -, h⟩ := h
  obtain rfl := Except.ok.inj h
  exact ⟨m, rfl, hname, htarget, hty, textsAt_of_requireTextList happroved,
    textsAt_of_requireTextList hdenied⟩

/-- The limits of the fuzzing section. -/
def fuzzingLimits : List String :=
  ["payload_budget", "request_budget", "per_endpoint_limit", "max_response_bytes", "max_retries",
    "max_runtime_seconds"]

/-- The fuzzing section. -/
structure FuzzingSectionShape (m : Dict) (f : FuzzingScope) : Prop where
  approved : TextsAt m "approved_actions" f.approvedActions
  denied : TextsAt m "denied_actions" f.deniedActions
  classes : TextsAt m "safe_payload_classes" f.safePayloadClasses
  limits : ∀ k ∈ fuzzingLimits, ∃ n : ℤ, dget m k = .int n

theorem fuzzingShape_of_parseFuzzing {scope : Dict} {f : FuzzingScope}
    (h : parseFuzzing scope = .ok f) :
    ∃ m, dget scope "fuzzing" = .obj m ∧ FuzzingSectionShape m f := by
  simp only [parseFuzzing, parseFuzzingActions, bind_eq_ok, requireMapping_eq_ok,
    requirePositiveInt_eq_ok, requireNonNegativeInt_eq_ok] at h
  obtain ⟨m, hm, -, -, _, -, _, -, ⟨approved, denied⟩,
    ⟨_, happroved, _, hdenied, -, -, -, -, -, -, -, -, -, -, hpair⟩, classes, hclasses, -, -, -, -,
    n₁, ⟨h₁, -⟩, n₂, ⟨h₂, -⟩, n₃, ⟨h₃, -⟩, n₄, ⟨h₄, -⟩, n₅, ⟨h₅, -⟩, n₆, ⟨h₆, -⟩, -, -, -, -,
    h⟩ := h
  obtain rfl := Except.ok.inj h
  obtain ⟨rfl, rfl⟩ := Prod.mk.inj (Except.ok.inj hpair)
  refine ⟨m, hm, textsAt_of_requireTextList happroved, textsAt_of_requireTextList hdenied,
    textsAt_of_requireTextList hclasses, ?_⟩
  intro k hk
  simp only [fuzzingLimits, List.mem_cons, List.not_mem_nil, or_false] at hk
  rcases hk with rfl | rfl | rfl | rfl | rfl | rfl
  exacts [⟨n₁, h₁⟩, ⟨n₂, h₂⟩, ⟨n₃, h₃⟩, ⟨n₄, h₄⟩, ⟨n₅, h₅⟩, ⟨n₆, h₆⟩]

/-- The entries of a list section, each of the given shape, with distinct names. -/
structure EntriesAt {α : Type} (x : Json) (Shape : Dict → α → Prop) (name : α → String)
    (parsed : List α) : Prop where
  entries : ∃ items, x = .arr items ∧
    List.Forall₂ (fun item a => ∃ m, item = Json.obj m ∧ Shape m a) items parsed
  distinct : (parsed.map name).Nodup

/-- Two items that are parsed to things with one key are one item, when keys are distinct. -/
theorem eq_of_nodup_keys {α β γ : Type} {R : α → β → Prop} {f : β → γ} {xs : List α} {ys : List β}
    (h : List.Forall₂ R xs ys) (hd : (ys.map f).Nodup) {x x' : α} (hx : x ∈ xs) (hx' : x' ∈ xs)
    (hkey : ∀ y y', R x y → R x' y' → f y = f y') : x = x' := by
  induction h with
  | nil => cases hx
  | cons hxy htail ih =>
    rw [List.map_cons, List.nodup_cons] at hd
    rcases List.mem_cons.mp hx with rfl | hin
    · rcases List.mem_cons.mp hx' with rfl | hin'
      · rfl
      · obtain ⟨y', hy', hR⟩ := forall₂_exists htail hin'
        exact absurd (hkey _ _ hxy hR ▸ List.mem_map_of_mem hy') hd.1
    · rcases List.mem_cons.mp hx' with rfl | hin'
      · obtain ⟨y, hy, hR⟩ := forall₂_exists htail hin
        exact absurd (hkey _ _ hR hxy ▸ List.mem_map_of_mem hy) hd.1
      · exact ih hd.2 hin hin'

/-- **The document behind an accepted scope.** -/
structure ScopeShape (scope : Dict) (c : ScopeConfig) : Prop where
  authorization : ∃ m, dget scope "authorization" = .obj m
  rulesOfEngagement : ∃ m, dget scope "rules_of_engagement" = .obj m
  targets : EntriesAt (dget scope "allowed_targets") TargetShape TargetScope.alias_ c.targets
  panels : ∃ config, dget scope "service_control_panels" = .obj config ∧
    EntriesAt (dgetD config "panels" (.arr [])) ScopedPanelShape PanelScope.alias_ c.panels
  fuzzing : ∃ config, dget scope "fuzzing" = .obj config ∧ FuzzingSectionShape config c.fuzzing
  categories : TextsAt scope "allowed_categories" c.allowedCategories
  forbidden : TextsAt scope "forbidden_actions" c.forbiddenActions
  artifacts : ∃ items, dget scope "provided_artifacts" = .arr items
  stops : ∃ items, dget scope "stop_conditions" = .arr items
  windows : ∃ items, dget scope "allowed_test_windows" = .arr items

theorem parseTargets_eq_ok {scope : Dict} {ts : List TargetScope} (h : parseTargets scope = .ok ts) :
    EntriesAt (dget scope "allowed_targets") TargetShape TargetScope.alias_ ts := by
  simp only [parseTargets, bind_eq_ok, requireList_eq_ok, validateUnique_eq_ok] at h
  obtain ⟨items, hitems, parsed, hparsed, -, hdistinct, h⟩ := h
  obtain rfl := Except.ok.inj h
  refine ⟨⟨items, hitems, ?_⟩, hdistinct⟩
  exact (forall₂_of_mapIdxE hparsed).imp fun _ _ ⟨_, hx⟩ => targetShape_of_parseTarget hx

theorem parsePanels_eq_ok {scope : Dict} {aliases : List String} {ps : List PanelScope}
    (h : parsePanels scope aliases = .ok ps) :
    ∃ config, dget scope "service_control_panels" = .obj config ∧
      EntriesAt (dgetD config "panels" (.arr [])) ScopedPanelShape PanelScope.alias_ ps := by
  simp only [parsePanels, bind_eq_ok, requireMapping_eq_ok, requireList_eq_ok,
    validateUnique_eq_ok] at h
  obtain ⟨config, hconfig, -, -, -, -, items, hitems, parsed, hparsed, -, hdistinct, h⟩ := h
  obtain rfl := Except.ok.inj h
  refine ⟨config, hconfig, ⟨items, hitems, ?_⟩, hdistinct⟩
  exact (forall₂_of_mapIdxE hparsed).imp fun _ _ ⟨_, hx⟩ => panelShape_of_parsePanel hx

theorem ScopeShape.of_parseScope {scope : Dict} {c : ScopeConfig} (h : parseScope scope = .ok c) :
    ScopeShape scope c := by
  simp only [parseScope, bind_eq_ok, requireMapping_eq_ok, requireList_eq_ok] at h
  obtain ⟨-, -, version, -, scopeId, -, program, -, sponsor, -, operator, -, authorization,
    hauthorization, _, hroe, targets, htargets, panels, hpanels, fuzzing, hfuzzing, categories,
    hcategories, forbidden, hforbidden, -, -, -, -, -, -, windows, hwindows, -, -, artifacts,
    hartifacts, stops, hstops, -, -, -, -, h⟩ := h
  obtain rfl := Except.ok.inj h
  refine ⟨⟨_, hauthorization⟩, ?_, parseTargets_eq_ok htargets, parsePanels_eq_ok hpanels,
    fuzzingShape_of_parseFuzzing hfuzzing, textsAt_of_requireTextList hcategories,
    textsAt_of_requireTextList hforbidden, ⟨artifacts, hartifacts⟩, ⟨stops, hstops⟩,
    ⟨windows, hwindows⟩⟩
  simp only [parseRulesOfEngagement, bind_eq_ok, requireMapping_eq_ok] at hroe
  obtain ⟨roe, hroe, -⟩ := hroe
  exact ⟨roe, hroe⟩

end Aotp.Gate
