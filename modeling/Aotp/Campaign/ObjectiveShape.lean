import Aotp.Campaign.Loop

/-!
# What an accepted campaign looks like

* `ObjectiveShape` — the fields of a raw objective that `parseCampaign` accepted, as the gate, the
  executor and the loop will read them: untrimmed.
* `CampaignShape` — an accepted campaign has a list of such objectives, with distinct ids
  (`campaignShape_of_parse`); `CampaignShape.ids` are the ids the loop works with.
-/

namespace Aotp.Campaign

open PyData Aotp.Gate

/-- What acceptance says about a panel objective. -/
structure PanelShape (o : Dict) : Prop where
  panelAlias : ∃ s, dget o "panel_alias" = .str s ∧ strip s ≠ ""
  panelType : ∃ s, dget o "panel_type" = .str s ∧ strip s ≠ ""
  observations : ∃ items ts, dget o "requested_observations" = .arr items ∧ TrimsTo items ts ∧
    items ≠ []
  safeObservationOnly : ∃ b, dget o "safe_observation_only" = .bool b

/-- What acceptance says about a fuzzing objective. -/
structure FuzzingShape (o : Dict) : Prop where
  payloadClasses : ∃ items ts, dget o "payload_classes" = .arr items ∧ TrimsTo items ts ∧ items ≠ []
  payloadCount : ∃ n, dget o "payload_count" = .int n ∧ 0 < n
  endpoints : ∃ m, dget o "endpoint_request_budgets" = .obj m ∧ m ≠ [] ∧
    ∀ e ∈ m, strip e.1 ≠ "" ∧ ∃ n, e.2 = .int n ∧ 0 < n
  maxResponseBytes : ∃ n, dget o "max_response_bytes" = .int n ∧ 0 < n
  maxRetries : ∃ n, dget o "max_retries" = .int n ∧ 0 ≤ n
  maxRuntimeSeconds : ∃ n, dget o "max_runtime_seconds" = .int n ∧ 0 < n

/-- **A raw objective that was accepted**, next to its parsed form. -/
structure ObjectiveShape (o : Dict) (p : CampaignObjective) : Prop where
  fields : ∀ k ∈ dkeys o, k ∈ objectiveFields
  module : ∃ s, dget o "module" = .str s ∧ strip s = p.module ∧ p.module ∈ supportedModules
  category : ∃ s, dget o "category" = .str s ∧ strip s = p.module
  id : ∃ s, dget o "id" = .str s ∧ strip s = p.objectiveId ∧ p.objectiveId ≠ ""
  title : ∃ s, dget o "title" = .str s ∧ strip s ≠ ""
  action : ∃ s, dget o "action" = .str s ∧ strip s = p.action ∧ p.action ≠ ""
  targetAlias : ∃ s, dget o "target_alias" = .str s ∧ strip s = p.targetAlias ∧ p.targetAlias ≠ ""
  priority : dget o "priority" = .int p.priority ∧ 0 < p.priority
  approval : dget o "requires_human_approval" = .bool p.requiresHumanApproval
  dependsOn : ∃ items, dget o "depends_on" = .arr items ∧ TrimsTo items p.dependsOn
  parameters : ∃ m n, dget o "parameters" = .obj m ∧ dget m "request_budget" = .int n ∧ 0 ≤ n
  artifactMapping : ∀ v, dget? o "artifact_mapping" = some v → ∃ items ts, v = .arr items ∧
    TrimsTo items ts
  requestedActions : p.module = "service_control_panel" → ∀ v, dget? o "requested_actions" = some v →
    ∃ items ts, v = .arr items ∧ TrimsTo items ts
  panel : p.module = "service_control_panel" → PanelShape o
  fuzzing : p.module = "bounded_fuzzing" → FuzzingShape o

theorem whenPresent_eq_ok {o : Dict} {key : String} {check : Json → Except Exc Unit} {u : Unit} :
    whenPresent o key check = .ok u ↔ ∀ v, dget? o key = some v → check v = .ok () := by
  unfold whenPresent
  cases h : dget? o key with
  | none => simp [pure, Except.pure]
  | some v => simp

theorem checkTextList_eq_ok {v : Json} {field : String} {allowEmpty : Bool} {u : Unit}
    (h : checkTextList v field allowEmpty = .ok u) :
    ∃ items ts, v = .arr items ∧ TrimsTo items ts ∧ (allowEmpty = true ∨ items ≠ []) := by
  simp only [checkTextList, bind_eq_ok] at h
  obtain ⟨ts, hts, -⟩ := h
  obtain ⟨items, hv, htrims, hne⟩ := requireTextList_eq_ok hts
  exact ⟨items, ts, hv, htrims, hne⟩

theorem nonNegativeInt?_isSome {v : Json} :
    (nonNegativeInt? v).isSome = true ↔ ∃ n, v = .int n ∧ 0 ≤ n := by
  cases v with
  | int n => by_cases h : 0 ≤ n <;> simp [nonNegativeInt?, h]
  | _ => simp [nonNegativeInt?]

theorem positiveInt?_eq_some {v : Json} {n : ℤ} : positiveInt? v = some n ↔ v = .int n ∧ 0 < n := by
  cases v with
  | int k =>
    by_cases h : 0 < k
    · simp only [positiveInt?, if_pos h, Option.some.injEq, Json.int.injEq]
      constructor
      · rintro rfl
        exact ⟨rfl, h⟩
      · exact fun h => h.1
    · simp only [positiveInt?, if_neg h, reduceCtorEq, Json.int.injEq, false_iff]
      rintro ⟨rfl, h'⟩
      exact h h'
  | _ => simp [positiveInt?]

theorem checkParameters_eq_ok {o : Dict} {field : String} {u : Unit}
    (h : checkParameters o field = .ok u) :
    ∃ m n, dget o "parameters" = .obj m ∧ dget m "request_budget" = .int n ∧ 0 ≤ n := by
  simp only [checkParameters, bind_eq_ok, requireMapping_eq_ok, guardE_eq_ok,
    nonNegativeInt?_isSome] at h
  obtain ⟨m, hm, n, hn, hpos⟩ := h
  exact ⟨m, n, hm, hn, hpos⟩

theorem checkPanelObjective_eq_ok {o : Dict} {field : String} {u : Unit}
    (h : checkPanelObjective o field = .ok u) :
    PanelShape o ∧ ∀ v, dget? o "requested_actions" = some v →
      ∃ items ts, v = .arr items ∧ TrimsTo items ts := by
  simp only [checkPanelObjective, bind_eq_ok, requireText_eq_ok, whenPresent_eq_ok,
    requireBool_eq_ok] at h
  obtain ⟨_, ⟨pa, hpa, rfl, hpa'⟩, _, ⟨pt, hpt, rfl, hpt'⟩, _, hobs, _, hact, b, hb, -⟩ := h
  obtain ⟨items, ts, hv, htrims, hne⟩ := checkTextList_eq_ok hobs
  refine ⟨⟨⟨pa, hpa, hpa'⟩, ⟨pt, hpt, hpt'⟩, ⟨items, ts, hv, htrims, by simpa using hne⟩, b, hb⟩, ?_⟩
  intro v hv
  obtain ⟨items, ts, hv, htrims, -⟩ := checkTextList_eq_ok (hact v hv)
  exact ⟨items, ts, hv, htrims⟩

theorem checkEndpoints_eq_ok {field : String} {m : Dict} {u : Unit}
    (h : checkEndpoints field m = .ok u) :
    ∀ e ∈ m, strip e.1 ≠ "" ∧ ∃ n, e.2 = .int n ∧ 0 < n := by
  induction m with
  | nil => simp
  | cons e m ih =>
    obtain ⟨endpoint, count⟩ := e
    simp only [checkEndpoints, bind_eq_ok, requireText_eq_ok, requirePositiveInt_eq_ok] at h
    obtain ⟨t, ⟨s, hs, rfl, hne⟩, n, ⟨hn, hpos⟩, h⟩ := h
    cases hs
    intro e he
    rcases List.mem_cons.mp he with rfl | he
    · exact ⟨hne, n, hn, hpos⟩
    · exact ih h e he

theorem checkFuzzingObjective_eq_ok {o : Dict} {field : String} {u : Unit}
    (h : checkFuzzingObjective o field = .ok u) : FuzzingShape o := by
  simp only [checkFuzzingObjective, bind_eq_ok, requirePositiveInt_eq_ok, requireMapping_eq_ok,
    requireNonNegativeInt_eq_ok, guardE_eq_ok] at h
  obtain ⟨_, hclasses, n, ⟨hn, hn'⟩, m, hm, _, hne, _, hends, b, ⟨hb, hb'⟩, r, ⟨hr, hr'⟩, t,
    ⟨ht, ht'⟩, -⟩ := h
  obtain ⟨items, ts, hv, htrims, hitems⟩ := checkTextList_eq_ok hclasses
  exact ⟨⟨items, ts, hv, htrims, by simpa using hitems⟩, ⟨n, hn, hn'⟩,
    ⟨m, hm, by simpa using hne, checkEndpoints_eq_ok hends⟩, ⟨b, hb, hb'⟩, ⟨r, hr, hr'⟩,
    ⟨t, ht, ht'⟩⟩

theorem checkWhen_eq_ok {c : Bool} {check : Except Exc Unit} {u : Unit} :
    checkWhen c check = .ok u ↔ (c = true → check = .ok ()) := by
  cases c <;> simp [checkWhen, pure, Except.pure]

/-- **What acceptance of one objective says.** -/
theorem objectiveShape_of_parse {i : ℕ} {x : Json} {p : CampaignObjective}
    (h : parseObjective i x = .ok p) : ∃ o, x = .obj o ∧ ObjectiveShape o p := by
  simp only [parseObjective, bind_eq_ok, requireMapping_eq_ok, rejectUnknown_eq_ok,
    requireText_eq_ok, guardE_eq_ok, decide_eq_true_eq, beq_iff_eq, requirePositiveInt_eq_ok,
    requireBool_eq_ok, whenPresent_eq_ok, checkWhen_eq_ok, exists_const] at h
  obtain ⟨o, rfl, hfields, module, ⟨m, hm, rfl, -⟩, hsupported, category, ⟨c, hc, rfl, -⟩, hmatch,
    depends, hdepends, -, _, hparameters, -, hartifacts, hpanel, hfuzzing, id, ⟨s, hs, rfl, hs'⟩,
    title, ⟨t, ht, rfl, ht'⟩, action, ⟨a, ha, rfl, ha'⟩, target, ⟨g, hg, rfl, hg'⟩, n, ⟨hn, hn'⟩, b,
    hb, h⟩ := h
  simp only [pure, Except.pure, Except.ok.injEq] at h
  subst h
  obtain ⟨items, hitems, htrims, -⟩ := requireTextList_eq_ok hdepends
  refine ⟨o, rfl, hfields, ⟨m, hm, rfl, hsupported⟩, ⟨c, hc, hmatch⟩, ⟨s, hs, rfl, hs'⟩,
    ⟨t, ht, ht'⟩, ⟨a, ha, rfl, ha'⟩, ⟨g, hg, rfl, hg'⟩, ⟨hn, hn'⟩, hb, ⟨items, hitems, htrims⟩,
    checkParameters_eq_ok hparameters, ?_, fun hmod => ?_, fun hmod => ?_, fun hmod => ?_⟩
  · intro v hv
    obtain ⟨items, ts, hv, htrims, -⟩ := checkTextList_eq_ok (hartifacts v hv)
    exact ⟨items, ts, hv, htrims⟩
  · exact (checkPanelObjective_eq_ok (hpanel hmod)).2
  · exact (checkPanelObjective_eq_ok (hpanel hmod)).1
  · exact checkFuzzingObjective_eq_ok (hfuzzing hmod)

/-! ### The campaign -/

/-- The id of a raw objective, as the loop reads it. -/
def rawId (o : Dict) : String :=
  match dget o "id" with
  | .str s => s
  | _ => ""

/-- **A campaign that was accepted**, with its raw objectives. -/
structure CampaignShape (campaign : Dict) (p : CampaignDefinition) (objectives : List Dict) :
    Prop where
  raw : rawObjectives campaign = .ok objectives
  shapes : List.Forall₂ ObjectiveShape objectives p.objectives
  distinct : (p.objectives.map (·.objectiveId)).Nodup
  identity : p.campaignId ≠ "" ∧ p.name ≠ ""

theorem parseObjectives_eq_ok {data : Dict} {ps : List CampaignObjective}
    (h : parseObjectives data = .ok ps) :
    ∃ objectives, rawObjectives data = .ok objectives ∧
      List.Forall₂ ObjectiveShape objectives ps ∧ (ps.map (·.objectiveId)).Nodup := by
  simp only [parseObjectives, bind_eq_ok, requireList_eq_ok, guardE_eq_ok, decide_eq_true_eq] at h
  obtain ⟨items, hitems, _, -, ps', hps, _, hnodup, _, -, h⟩ := h
  simp only [pure, Except.pure, Except.ok.injEq] at h
  subst h
  have hfield : subscript (.obj data) "objectives" = .ok (.arr items) := by
    unfold dget at hitems
    cases hd : dget? data "objectives" with
    | none => simp [hd] at hitems
    | some v => simpa [subscript, hd] using hitems
  have hparsed := (forall₂_of_mapIdxE hps).imp fun x p h => by
    obtain ⟨j, hj⟩ := h
    exact objectiveShape_of_parse hj
  obtain ⟨objectives, hattrs, hshapes⟩ : ∃ objectives,
      List.Forall₂ (fun x o => Json.attrs x = .ok o) items objectives ∧
        List.Forall₂ ObjectiveShape objectives ps' := by
    clear hitems hps hnodup hfield
    induction hparsed with
    | nil => exact ⟨[], .nil, .nil⟩
    | cons hx _ ih =>
      obtain ⟨o, rfl, ho⟩ := hx
      obtain ⟨os, hos, hshapes⟩ := ih
      exact ⟨o :: os, .cons rfl hos, .cons ho hshapes⟩
  refine ⟨objectives, ?_, hshapes, hnodup⟩
  exact bind_eq_ok.mpr ⟨_, hfield, bind_eq_ok.mpr ⟨items, rfl, mapM_eq_ok.mpr hattrs⟩⟩

/-- **What acceptance of a campaign says.** -/
theorem campaignShape_of_parse {campaign : Dict} {p : CampaignDefinition}
    (h : parseCampaign campaign = .ok p) : ∃ objectives, CampaignShape campaign p objectives := by
  simp only [parseCampaign, bind_eq_ok, requireText_eq_ok] at h
  obtain ⟨_, -, _, -, _, -, id, ⟨_, -, -, hid⟩, name, ⟨_, -, -, hname⟩, _, -, limits, -, _, -,
    stops, -, ps, hps, _, -, h⟩ := h
  simp only [pure, Except.pure, Except.ok.injEq] at h
  subst h
  obtain ⟨objectives, hraw, hshapes, hnodup⟩ := parseObjectives_eq_ok hps
  exact ⟨objectives, hraw, hshapes, hnodup, hid, hname⟩

theorem dget?_of_dget_str {m : Dict} {k s : String} (h : dget m k = .str s) :
    dget? m k = some (.str s) := by
  unfold dget at h
  cases hd : dget? m k with
  | none => simp [hd] at h
  | some v => simpa [hd] using h

theorem ObjectiveShape.objectiveIdOf (rt : Runtime) {o : Dict} {p : CampaignObjective}
    (h : ObjectiveShape o p) : objectiveIdOf rt o = .ok (rawId o) := by
  obtain ⟨s, hs, -⟩ := h.id
  simp [Campaign.objectiveIdOf, dget?_of_dget_str hs, rawId, hs, pyStr]

theorem ObjectiveShape.strip_rawId {o : Dict} {p : CampaignObjective} (h : ObjectiveShape o p) :
    strip (rawId o) = p.objectiveId ∧ p.objectiveId ≠ "" := by
  obtain ⟨s, hs, hstrip, hne⟩ := h.id
  exact ⟨by simpa [rawId, hs] using hstrip, hne⟩

namespace CampaignShape

variable {campaign : Dict} {p : CampaignDefinition} {objectives : List Dict}

theorem shape_of_mem (h : CampaignShape campaign p objectives) {o : Dict} (ho : o ∈ objectives) :
    ∃ q ∈ p.objectives, ObjectiveShape o q := by
  have hshapes := h.shapes
  generalize p.objectives = qs at hshapes
  clear h
  induction hshapes with
  | nil => cases ho
  | cons hq _ ih =>
    rcases List.mem_cons.mp ho with rfl | ho
    · exact ⟨_, List.mem_cons_self, hq⟩
    · obtain ⟨q, hmem, hshape⟩ := ih ho
      exact ⟨q, List.mem_cons_of_mem _ hmem, hshape⟩

/-- The ids the loop works with: untrimmed. -/
theorem idsOf (h : CampaignShape campaign p objectives) (site : Site) :
    idsOf site objectives = .ok (objectives.map rawId) := by
  refine mapM_eq_ok.mpr ?_
  rw [List.forall₂_map_right_iff, List.forall₂_same]
  intro o ho
  obtain ⟨_, -, hp⟩ := h.shape_of_mem ho
  exact hp.objectiveIdOf site.rt

theorem strip_ids (h : CampaignShape campaign p objectives) :
    (objectives.map rawId).map strip = p.objectives.map (·.objectiveId) := by
  have hshapes := h.shapes
  generalize p.objectives = ps at hshapes
  clear h
  induction hshapes with
  | nil => rfl
  | cons ho _ ih =>
    simp only [List.map_cons, List.cons.injEq]
    exact ⟨ho.strip_rawId.1, by simpa using ih⟩

/-- The ids the loop works with are distinct: they are so even when trimmed. -/
theorem ids_nodup (h : CampaignShape campaign p objectives) : (objectives.map rawId).Nodup :=
  List.Nodup.of_map strip (h.strip_ids ▸ h.distinct)

/-- As the scheduler reads them, too. -/
theorem rawIds_nodup (h : CampaignShape campaign p objectives) (rt : Runtime) :
    (objectives.map (Campaign.objectiveIdOf rt)).Nodup := by
  have hmap : objectives.map (Campaign.objectiveIdOf rt) =
      (objectives.map rawId).map Except.ok := by
    rw [List.map_map]
    refine List.map_congr_left fun o ho => ?_
    obtain ⟨_, -, hq⟩ := h.shape_of_mem ho
    exact hq.objectiveIdOf rt
  rw [hmap]
  exact h.ids_nodup.map fun _ _ => Except.ok.inj

theorem ids_ne_empty (h : CampaignShape campaign p objectives) {id : String}
    (hid : id ∈ objectives.map rawId) : id ≠ "" := by
  obtain ⟨o, ho, rfl⟩ := List.mem_map.mp hid
  obtain ⟨_, -, hp⟩ := h.shape_of_mem ho
  obtain ⟨hstrip, hne⟩ := hp.strip_rawId
  intro hempty
  rw [hempty] at hstrip
  exact hne (hstrip ▸ rfl)

end CampaignShape

end Aotp.Campaign
