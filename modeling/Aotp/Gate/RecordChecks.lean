import Aotp.Gate.Executor
import Aotp.Gate.Tightening

/-!
# What plans and evidence records need

The executor plans what the gate allowed, and the evidence writer checks the plan again. For each
category with a record of its own, what remains to be asked when the gate has nothing to object:

* `validatePanelRecord_iff` — safe observations only, none requested twice.
* `validateFuzzingRecord_iff` — an API that is not blank.
* `ingestSbom_eq_ok` — an inventory whose components are named.
* `validateCryptoRecord_iff` — indicators that remain observations.

Every record is searched for secrets at last.
-/

namespace Aotp.Gate

open PyData

variable (rt : Runtime)

/-! ### Small readers -/

theorem isNonEmptyText_str {s : String} : isNonEmptyText (.str s) = true ↔ s ≠ "" := by
  simp [isNonEmptyText]

@[simp] theorem isTrue_bool (b : Bool) : isTrue (.bool b) = b := rfl

theorem pyEq_int_self (n : ℤ) : Json.pyEq (.int n) (.int n) = true := by
  simp [Json.pyEq, Json.num?]

theorem pyEqList_strs {xs ys : List String} :
    Json.pyEqList (xs.map .str) (ys.map .str) = true ↔ xs = ys := by
  induction xs generalizing ys with
  | nil => cases ys <;> simp [Json.pyEqList]
  | cons x xs ih =>
    cases ys with
    | nil => simp [Json.pyEqList]
    | cons y ys =>
      rw [List.map_cons, List.map_cons, Json.pyEqList, Bool.and_eq_true, ih, Json.pyEq_str_left,
        Json.str.injEq, List.cons.injEq, @eq_comm String y]

theorem toSet_strs (ts : List String) : toSet (.arr (ts.map .str)) = .ok (ts.map .str) := by
  simp [toSet_arr, Json.hashable]

/-- Texts of a vocabulary are found in it. -/
theorem listed_strs {ts vocabulary : List String} (h : ∀ t ∈ ts, t ∈ vocabulary) :
    ∀ x ∈ ts.map Json.str, (vocabulary.any fun v => Json.pyEq x (.str v)) = true := by
  intro x hx
  obtain ⟨t, ht, rfl⟩ := List.mem_map.mp hx
  exact List.any_eq_true.mpr ⟨t, h t ht, by simp⟩

theorem unlisted_strs {ts vocabulary : List String} (h : ∀ t ∈ ts, t ∈ vocabulary) :
    allTexts ((ts.map Json.str).filter fun x =>
      !vocabulary.any fun v => Json.pyEq x (.str v)) = .ok [] := by
  have hnone : (ts.map Json.str).filter (fun x => !vocabulary.any fun v => Json.pyEq x (.str v)) =
      [] := by
    refine List.filter_eq_nil_iff.mpr fun x hx => ?_
    simp [listed_strs h x hx]
  rw [hnone]
  rfl

/-- The input of a record in a dry run. -/
def plannedInput (policyDecision tool : String) (metadata : Dict) : RecordInput :=
  ⟨policyDecision, "dry_run", tool, 0, metadata⟩

/-! ### Panels -/

theorem filledText_ne_empty {default : String} (h : default ≠ "") (x : Json) :
    filledText default x ≠ "" := by
  cases x with
  | str s =>
    by_cases hs : strip s = ""
    · simp [filledText, hs, h]
    · simp [filledText, hs]
  | _ => exact h

/-- What the record of a panel objective takes from its plan. -/
structure PlannedPanel (objective plan : Dict) : Prop where
  silent : dget plan "network_silent" = .bool true
  observations : plannedObservationIds plan = collectPanelObservations objective
  credentials : dgetD plan "credential_material" (.str "not_collected") = .str "not_collected"
  screenshots : dgetD plan "screenshots" (.arr []) = .arr []
  captures : dgetD plan "captures" (.arr []) = .arr []
  claims : dgetD plan "finding_claims" (.arr []) = .arr []

theorem collectPanelObservations_trimmed {objective : Dict} {t : String}
    (h : t ∈ collectPanelObservations objective) : strip t = t ∧ t ≠ "" := by
  unfold collectPanelObservations at h
  rcases List.mem_append.mp (mem_fromkeys.mp h) with h | h
  · exact collectTextValues_trimmed h
  · exact collectTextValues_trimmed h

/-- Planned observations are read back from the plan. -/
theorem observationIds_planned {ts : List String} (h : ∀ t ∈ ts, strip t = t ∧ t ≠ "") :
    (ts.map plannedObservation).filterMap (fun
      | .obj item =>
        match dget item "observation_id" with
        | .str s => if strip s = "" then none else some s
        | _ => none
      | _ => none) = ts := by
  induction ts with
  | nil => rfl
  | cons t ts ih =>
    obtain ⟨htrim, hne⟩ := h t List.mem_cons_self
    rw [List.map_cons, List.filterMap_cons, ih fun u hu => h u (List.mem_cons_of_mem _ hu)]
    simp [plannedObservation, dget, dget?_cons, htrim, hne]

theorem buildPanelPlan_succeeds {objective : Dict} (hne : collectPanelObservations objective ≠ [])
    (hsafe : unsafePanelObservations objective = []) :
    ∃ plan, buildPanelDryRunObservationPlan rt objective = .ok plan ∧ PlannedPanel objective plan := by
  unfold buildPanelDryRunObservationPlan
  simp only [bind_eq_ok, guardE_eq_ok]
  have hall := fun t => @collectPanelObservations_trimmed objective t
  exact ⟨_, ⟨(), by simpa using hne, (), by simp [hsafe], rfl⟩,
    ⟨rfl, observationIds_planned hall, rfl, rfl, rfl, rfl⟩⟩

/-- **What the record of a panel objective needs.** -/
theorem validatePanelRecord_iff {objective plan metadata : Dict} {decision tool : String}
    (hplan : PlannedPanel objective plan)
    (hmeta : dgetD metadata "observation_plan" (.obj []) = .obj plan)
    (hcategory : filledText "service_control_panel" (dget objective "category") =
      "service_control_panel")
    (hne : collectTextValues (dget objective "requested_observations") ≠ [])
    (hsafe : ∀ t ∈ collectTextValues (dget objective "requested_observations"),
      t ∈ panelSafeObservations)
    (hdecision : decision ≠ "") (htool : tool ≠ "") :
    validatePanelEvidenceRecord rt (panelRecordOf objective (plannedInput decision tool metadata)) =
        .ok () ↔
      isTrue (dget objective "safe_observation_only") = true ∧
        collectPanelObservations objective =
          collectTextValues (dget objective "requested_observations") ∧
        RedactorSilent rt (.obj (panelRecordOf objective (plannedInput decision tool metadata))) := by
  set requested := collectTextValues (dget objective "requested_observations") with hrequested
  set record := panelRecordOf objective (plannedInput decision tool metadata) with hrecord
  have hmapping : mappingOf (dgetD metadata "observation_plan" (.obj [])) = plan := by rw [hmeta]; rfl
  have hsilent : dget record "network_silent" = .bool true := by
    show Json.bool (isTrue (dget (mappingOf _) _) && _) = _
    simp only [plannedInput, hmapping, hplan.silent]
    rfl
  have hobs : dget record "requested_observations" = .arr (requested.map .str) := rfl
  have hplanned : dget record "planned_observations" =
      .arr ((collectPanelObservations objective).map .str) := by
    show Json.arr ((plannedObservationIds (mappingOf _)).map .str) = _
    simp only [plannedInput, hmapping, hplan.observations]
  have hcred : dget record "credential_material" = .str "not_collected" := by
    show dgetD (mappingOf _) _ _ = _
    simp only [plannedInput, hmapping, hplan.credentials]
  have hscreens : dget record "screenshots" = .arr [] := by
    show dgetD (mappingOf _) _ _ = _
    simp only [plannedInput, hmapping, hplan.screenshots]
  have hcaptures : dget record "captures" = .arr [] := by
    show dgetD (mappingOf _) _ _ = _
    simp only [plannedInput, hmapping, hplan.captures]
  have hclaims : dget record "finding_claims" = .arr [] := by
    show dgetD (mappingOf _) _ _ = _
    simp only [plannedInput, hmapping, hplan.claims]
  have hcat : dget record "category" = .str "service_control_panel" := by
    show Json.str _ = _
    rw [hcategory]
  have hsafeOnly : dget record "safe_observation_only" =
      .bool (isTrue (dget objective "safe_observation_only")) := rfl
  have htexts : ∀ name ∈ panelRequiredText, isNonEmptyText (dget record name) = true := by
    intro name hname
    simp only [panelRequiredText, List.mem_cons, List.not_mem_nil, or_false] at hname
    rcases hname with rfl | rfl | rfl | rfl | rfl | rfl | rfl | rfl | rfl | rfl | rfl
    · exact isNonEmptyText_str.mpr (filledText_ne_empty (by decide) _)
    · exact isNonEmptyText_str.mpr (filledText_ne_empty (by decide) _)
    · exact isNonEmptyText_str.mpr (filledText_ne_empty (by decide) _)
    · exact isNonEmptyText_str.mpr (filledText_ne_empty (by decide) _)
    · exact isNonEmptyText_str.mpr (filledText_ne_empty (by decide) _)
    · exact isNonEmptyText_str.mpr (filledText_ne_empty (by decide) _)
    · exact isNonEmptyText_str.mpr hdecision
    · rfl
    · exact isNonEmptyText_str.mpr htool
    · rfl
    · rfl
  have hmissing : panelRequiredText.filter (fun name => !isNonEmptyText (dget record name)) = [] := by
    refine List.filter_eq_nil_iff.mpr fun name hname => ?_
    simp [htexts name hname]
  have hset := toSet_strs requested
  have hunsupported := unlisted_strs hsafe
  have hfixed : dget record "schema_version" = .str "1.0" ∧
      dget record "record_type" = .str "service_control_panel_evidence_record" ∧
      dget record "execution_mode" = .str "dry_run" ∧
      dget record "report_inclusion_status" = .str "excluded_pending_review" ∧
      dget record "redaction_status" = .str "passed" ∧ dget record "request_count" = .int 0 ∧
      ∃ boundary, dget record "safety_boundary" = .obj boundary ∧
        dget boundary "network_requests" = .int 0 := ⟨rfl, rfl, rfl, rfl, rfl, rfl, _, rfl, rfl⟩
  obtain ⟨hversion, htype, hmode, hstatus, hredaction, hcount, boundary, hboundary, hrequests⟩ :=
    hfixed
  simp only [validatePanelEvidenceRecord, bind_eq_ok, guardE_eq_ok, hversion, htype, hmode, hstatus,
    hredaction, hcount, hboundary, hrequests, hmissing, hcat, hsilent, hsafeOnly, hcred, hscreens,
    hcaptures, hclaims, hobs, hplanned, hset, Except.ok.injEq, exists_eq_left', exists_const]
  have hany : collectPanelObservations objective ≠ [] := by
    unfold collectPanelObservations
    rw [Ne, fromkeys_eq_nil, List.append_eq_nil_iff]
    exact fun h => hne h.2
  have hmatch : Json.pyEq (.arr ((collectPanelObservations objective).map .str))
      (.arr (requested.map .str)) = true ↔ collectPanelObservations objective = requested := by
    rw [Json.pyEq]
    exact pyEqList_strs
  rw [hunsupported]
  simp only [hmatch, Except.ok.injEq, exists_eq_left']
  simp [RedactorSilent, isList, itemsOf, isTrue_bool, isEmptyList, hne, hany, pyEq_int_self]

/-! ### Bounded fuzzing -/

/-- An objective whose fuzzing plan is complete. -/
structure Plannable (objective : Dict) (classes : List String) (count : ℤ) : Prop where
  endpoints : endpointBudgetsOf objective ≠ []
  endpointsValid : (endpointBudgetsOf objective).all endpointValid = true
  listed : dget objective "payload_classes" = .arr (classes.map .str)
  someClass : classes ≠ []
  safe : ∀ c ∈ classes, c ∈ fuzzingSafePayloadClasses
  counted : positiveInt? (dget objective "payload_count") = some count
  positive : 0 < count
  enough : ((fromkeys classes).length : ℤ) ≤ count
  bytes : (positiveInt? (dget objective "max_response_bytes")).isSome = true
  runtime : (positiveInt? (dget objective "max_runtime_seconds")).isSome = true
  retries : (nonNegativeInt? (dget objective "max_retries")).isSome = true
  corpus : validateOptionalReference (dget objective "corpus_reference") = .ok ()
  signals : collectFuzzingStopSignals objective = []

/-- What the record of a fuzzing objective takes from its plan. -/
structure PlannedFuzzing (objective plan : Dict) (count : ℤ) : Prop where
  silent : dget plan "network_silent" = .bool true
  classes : dget plan "payload_classes" = dget objective "payload_classes"
  count : dget plan "payload_count" = .int count
  endpoints : dget plan "endpoint_request_budgets" = .obj (sortEntries (endpointBudgetsOf objective))
  planned : dget plan "planned_request_count" = .int (plannedRequests (endpointBudgetsOf objective))
  limits : ∀ key ∈ ["max_response_bytes", "max_retries", "max_runtime_seconds", "corpus_reference"],
    dget plan key = dget objective key
  signals : dget plan "detected_stop_signals" = .arr []

theorem filterMap_text_map (ts : List String) : (ts.map Json.str).filterMap Json.text? = ts := by
  induction ts with
  | nil => rfl
  | cons t ts ih => rw [List.map_cons, List.filterMap_cons, ih]; rfl

theorem unsupportedClasses_safe {ts : List String} (h : ∀ t ∈ ts, t ∈ fuzzingSafePayloadClasses) :
    unsupportedClasses (ts.map .str) = .ok [] := by
  unfold unsupportedClasses
  rw [toSet_strs]
  exact unlisted_strs h

/-- A fitting corpus reference is no obstacle to the rest. -/
theorem reference_checked {α : Type} (reference : Json) (rest : Except Exc α) :
    validateOptionalReference reference = .ok () →
      (if reference matches .null then rest
        else do
          let _ ← validateCorpusReference reference
          rest) = rest := by
  intro h
  by_cases hnull : reference = .null
  · subst hnull
    rfl
  · obtain ⟨m, hm⟩ : ∃ m, validateCorpusReference reference = .ok m := by
      cases reference with
      | null => exact absurd rfl hnull
      | _ =>
        obtain ⟨m, hm, -⟩ := bind_eq_ok.mp h
        exact ⟨m, hm⟩
    rw [hm]
    split <;> rfl

theorem buildFuzzingPlan_succeeds {objective : Dict} {classes : List String} {count : ℤ}
    (h : Plannable objective classes count) :
    ∃ plan, buildFuzzingDryRunPlan rt objective = .ok plan ∧
      PlannedFuzzing objective plan count := by
  unfold buildFuzzingDryRunPlan
  simp only [h.listed, h.counted, h.signals, unsupportedClasses_safe h.safe, filterMap_text_map,
    bind_eq_ok, guardE_eq_ok, h.bytes, h.runtime, h.retries, h.endpointsValid, exists_const]
  refine ⟨_, ⟨by simpa using h.endpoints, trivial, by simpa using h.someClass, [], rfl, rfl,
      by simpa using h.enough, trivial, trivial, trivial, (reference_checked _ _ h.corpus).trans rfl⟩,
    ⟨rfl, h.listed ▸ rfl, rfl, rfl, rfl, ?_, rfl⟩⟩
  intro key hkey
  simp only [List.mem_cons, List.not_mem_nil, or_false] at hkey
  rcases hkey with rfl | rfl | rfl | rfl <;> rfl

theorem sortEntries_perm (m : Dict) : (sortEntries m).Perm m := List.perm_insertionSort _ m

theorem plannedRequests_sorted (m : Dict) : plannedRequests (sortEntries m) = plannedRequests m :=
  List.Perm.sum_eq ((sortEntries_perm m).filterMap _)

theorem recordEndpoints_sorted {m : Dict} (h : m.all endpointValid = true) :
    (sortEntries m).all recordEndpointValid = true := by
  rw [List.all_eq_true] at h ⊢
  intro e he
  have hvalid := h e ((sortEntries_perm m).mem_iff.mp he)
  simp only [endpointValid, Bool.and_eq_true, bne_iff_ne] at hvalid
  simp only [recordEndpointValid, Bool.and_eq_true, bne_iff_ne]
  refine ⟨?_, hvalid.2⟩
  rintro hempty
  rw [hempty] at hvalid
  exact hvalid.1 rfl

theorem intAtLeast_of_positive {x : Json} (h : (positiveInt? x).isSome = true) :
    intAtLeast 1 x = true := by
  cases x with
  | int n =>
    by_cases hn : 0 < n
    · simp [intAtLeast, asInt]
      omega
    · simp [positiveInt?, hn] at h
  | _ => simp [positiveInt?] at h

theorem intAtLeast_of_nonNegative {x : Json} (h : (nonNegativeInt? x).isSome = true) :
    intAtLeast 0 x = true := by
  cases x with
  | int n =>
    by_cases hn : 0 ≤ n
    · simp [intAtLeast, asInt, hn]
    · simp [nonNegativeInt?, hn] at h
  | _ => simp [nonNegativeInt?] at h

/-- **What the record of a fuzzing objective needs.** -/
theorem validateFuzzingRecord_iff {objective plan metadata : Dict} {decision tool : String}
    {classes : List String} {count : ℤ} (h : Plannable objective classes count)
    (hplan : PlannedFuzzing objective plan count)
    (hid : strip (pyStr rt (dgetD objective "id" (.str ""))) ≠ "")
    (hmodule : strip (pyStr rt (dgetD objective "module" (.str ""))) = "bounded_fuzzing")
    (htarget : strip (pyStr rt (dgetD objective "target_alias" (.str ""))) ≠ "")
    (hdecision : decision ≠ "") (htool : tool ≠ "") :
    validateFuzzingEvidenceRecord rt
        (fuzzingRecordOf rt objective plan (plannedInput decision tool metadata)) = .ok () ↔
      strip (pyStr rt (dgetD objective "api" (.str ""))) ≠ "" ∧
        RedactorSilent rt
          (.obj (fuzzingRecordOf rt objective plan (plannedInput decision tool metadata))) := by
  set record := fuzzingRecordOf rt objective plan (plannedInput decision tool metadata) with hrecord
  have hsilent : dget record "network_silent" = .bool true := by
    show Json.bool (isTrue (dget plan "network_silent") && _) = _
    rw [hplan.silent]
    rfl
  have hmoduleAt : dget record "module" = .str "bounded_fuzzing" := by
    show Json.str _ = _
    rw [hmodule]
  have hclasses : dget record "payload_classes" = .arr (classes.map .str) := by
    show dget plan "payload_classes" = _
    rw [hplan.classes, h.listed]
  have hcount : dget record "payload_count" = .int count := hplan.count
  have hendpoints : dget record "endpoint_request_budgets" =
      .obj (sortEntries (endpointBudgetsOf objective)) := hplan.endpoints
  have hrequests : dget record "planned_request_count" =
      .int (plannedRequests (sortEntries (endpointBudgetsOf objective))) := by
    rw [plannedRequests_sorted]
    exact hplan.planned
  have hbytes : dget record "max_response_bytes" = dget objective "max_response_bytes" :=
    hplan.limits _ (by simp)
  have hretries : dget record "max_retries" = dget objective "max_retries" :=
    hplan.limits _ (by simp)
  have hruntime : dget record "max_runtime_seconds" = dget objective "max_runtime_seconds" :=
    hplan.limits _ (by simp)
  have hcorpus : dget record "corpus_reference" = dget objective "corpus_reference" :=
    hplan.limits _ (by simp)
  have hsignals : dget record "detected_stop_signals" = .arr [] := hplan.signals
  have hset := toSet_strs classes
  have hsafe : (classes.map Json.str).all (fun x =>
      fuzzingSafePayloadClasses.any fun c => Json.pyEq x (.str c)) = true :=
    List.all_eq_true.mpr (listed_strs h.safe)
  have hsorted : sortEntries (endpointBudgetsOf objective) ≠ [] := by
    intro hnil
    have hperm := sortEntries_perm (endpointBudgetsOf objective)
    rw [hnil] at hperm
    exact h.endpoints (List.nil_perm.mp hperm)
  have hpositive : intAtLeast 1 (.int count) = true := by
    have hpos := h.positive
    simp only [intAtLeast, asInt, Option.any_some, decide_eq_true_eq]
    omega
  have hfixed : dget record "schema_version" = .str "1.0" ∧
      dget record "record_type" = .str "bounded_fuzzing_evidence_record" ∧
      dget record "execution_mode" = .str "dry_run" ∧ dget record "request_count" = .int 0 ∧
      dget record "payload_values" = .str "not_recorded" ∧
      dget record "report_inclusion_status" = .str "excluded_pending_review" ∧
      dget record "redaction_status" = .str "passed" := ⟨rfl, rfl, rfl, rfl, rfl, rfl, rfl⟩
  obtain ⟨hversion, htype, hmode, hzero, hvalues, hstatus, hredaction⟩ := hfixed
  have htexts : dget record "case_id" = .str (strip (pyStr rt (dgetD objective "id" (.str "")))) ∧
      dget record "target_alias" =
        .str (strip (pyStr rt (dgetD objective "target_alias" (.str "")))) ∧
      dget record "api" = .str (strip (pyStr rt (dgetD objective "api" (.str "")))) ∧
      dget record "policy_decision" = .str decision ∧ dget record "tool" = .str tool :=
    ⟨rfl, rfl, rfl, rfl, rfl⟩
  obtain ⟨hcase, htargetAt, hapi, hdecisionAt, htoolAt⟩ := htexts
  simp only [validateFuzzingEvidenceRecord, requireRecordText, bind_eq_ok, guardE_eq_ok, hversion,
    htype, hmode, hzero, hvalues, hstatus, hredaction, hcase, htargetAt, hapi, hdecisionAt, htoolAt,
    hmoduleAt, hsilent, hclasses, hcount, hendpoints, hrequests, hbytes, hretries, hruntime,
    hcorpus, hsignals, hset, hsafe, h.corpus, isNonEmptyText_str, intAtLeast_of_positive h.bytes,
    intAtLeast_of_positive h.runtime, intAtLeast_of_nonNegative h.retries, hpositive, mappingOf,
    recordEndpoints_sorted h.endpointsValid, pyEq_int_self, Json.pyEq_str_left, isTrue_bool,
    Except.ok.injEq, exists_eq_left', exists_const]
  simp [RedactorSilent, isList, itemsOf, isEmptyList, hid, htarget, hdecision, htool, hsorted,
    h.someClass]

/-! ### Provided artifacts -/

/-- A component with a name and a version. -/
def NamedComponent (raw : Json) : Prop :=
  ∃ m, raw = .obj m ∧ isNonEmptyText (dget m "name") = true ∧
    isNonEmptyText (dget m "version") = true

/-- What is recorded of a component. -/
def observedComponent (artifactAlias sha256 : String) (raw : Json) : Json :=
  let m := mappingOf raw
  .obj [("name", dget m "name"), ("version", dget m "version"),
    ("package_url", if (dget m "purl").text?.isSome then dget m "purl" else .null),
    ("source_artifact", .str artifactAlias),
    ("source_artifact_sha256", .str sha256),
    ("component_sha256", .str (sbomDigest rt raw)),
    ("presence", .str "observed"),
    ("reachability", .str "not_assessed"),
    ("exploitability", .str "not_assessed"),
    ("vulnerability_mappings", .arr [])]

theorem sbomComponent_eq_ok {artifactAlias sha256 : String} {i : ℕ} {raw component : Json} :
    sbomComponent rt artifactAlias sha256 i raw = .ok component ↔
      NamedComponent raw ∧ component = observedComponent rt artifactAlias sha256 raw := by
  unfold sbomComponent
  cases raw with
  | obj m =>
    simp only [bind_eq_ok, guardE_eq_ok, Bool.and_eq_true, exists_const, NamedComponent,
      Json.obj.injEq, exists_eq_left']
    refine and_congr_right fun _ => ?_
    rw [pure, Applicative.toPure]
    exact ⟨fun h => (Except.ok.inj h).symm, fun h => h ▸ rfl⟩
  | _ => simp [NamedComponent, throw, throwThe, MonadExceptOf.throw]

theorem sbomComponents_eq_ok {artifactAlias sha256 : String} {raws components : List Json} {i : ℕ} :
    mapIdxE (sbomComponent rt artifactAlias sha256) i raws = .ok components ↔
      (∀ raw ∈ raws, NamedComponent raw) ∧
        components = raws.map (observedComponent rt artifactAlias sha256) := by
  induction raws generalizing i components with
  | nil => simp [mapIdxE, eq_comm]
  | cons raw raws ih =>
    simp only [mapIdxE, bind_eq_ok, sbomComponent_eq_ok, ih, List.forall_mem_cons, List.map_cons]
    constructor
    · rintro ⟨_, ⟨hraw, rfl⟩, _, ⟨hraws, rfl⟩, h⟩
      exact ⟨⟨hraw, hraws⟩, (Except.ok.inj h).symm⟩
    · rintro ⟨⟨hraw, hraws⟩, rfl⟩
      exact ⟨_, ⟨hraw, rfl⟩, _, ⟨hraws, rfl⟩, rfl⟩

theorem validateSbomComponent_observed {artifactAlias sha256 : String} {components : List Json}
    (hsha : isSha256Text sha256 = true) (raw : Json) :
    validateSbomComponent (sbomRecordOf artifactAlias sha256 components)
      (observedComponent rt artifactAlias sha256 raw) = .ok () := by
  have halias : dget (sbomRecordOf artifactAlias sha256 components) "artifact_alias" =
    .str artifactAlias := rfl
  have hdigest : dget (sbomRecordOf artifactAlias sha256 components) "artifact_sha256" =
    .str sha256 := rfl
  simp only [validateSbomComponent, observedComponent, Json.attrs, halias, hdigest, bind_eq_ok,
    guardE_eq_ok, exists_const, Except.ok.injEq, exists_eq_left']
  simp [dget, dget?_cons, isEmptyList, isDigestText, hsha, sbomDigest, rt.sha256_hex]

theorem validateSbomComponents_observed {artifactAlias sha256 : String} {components : List Json}
    (hsha : isSha256Text sha256 = true) (raws : List Json) :
    validateSbomComponents (sbomRecordOf artifactAlias sha256 components)
      (raws.map (observedComponent rt artifactAlias sha256)) = .ok () := by
  induction raws with
  | nil => rfl
  | cons raw raws ih =>
    rw [List.map_cons, validateSbomComponents, validateSbomComponent_observed rt hsha raw]
    exact ih

/-- The record of a document's components. -/
def sbomDocumentRecord (artifactAlias sha256 : String) (raws : List Json) : Dict :=
  sbomRecordOf artifactAlias sha256 (raws.map (observedComponent rt artifactAlias sha256))

theorem validateSbomRecord_iff {artifactAlias sha256 : String} {raws : List Json}
    (hsha : isSha256Text sha256 = true) :
    validateSbomRecord rt (sbomDocumentRecord rt artifactAlias sha256 raws) = .ok () ↔
      assertValueRedacted rt (.obj (sbomDocumentRecord rt artifactAlias sha256 raws)) = .ok () := by
  set record := sbomDocumentRecord rt artifactAlias sha256 raws with hrecord
  have hfixed : dget record "record_type" = .str "sbom_component_evidence" ∧
      dget record "schema_version" = .str "1.0" ∧
      dget record "component_count" =
        .int (raws.map (observedComponent rt artifactAlias sha256)).length ∧
      dget record "components" = .arr (raws.map (observedComponent rt artifactAlias sha256)) ∧
      dget record "network_silent" = .bool true ∧ dget record "request_count" = .int 0 :=
    ⟨rfl, rfl, rfl, rfl, rfl, rfl⟩
  obtain ⟨htype, hversion, hcount, hcomponents, hsilent, hzero⟩ := hfixed
  have hall : validateSbomComponents record (raws.map (observedComponent rt artifactAlias sha256)) =
    .ok () := validateSbomComponents_observed rt hsha raws
  simp only [validateSbomRecord, bind_eq_ok, guardE_eq_ok, htype, hversion, hcount, hcomponents,
    hsilent, hzero, itemsOf, isList, hall, pyEq_int_self, Bool.and_eq_true, Json.pyEq_str_left,
    isTrue_bool, and_self, exists_const, true_and]

/-- **What the record of an artifact needs**: a component inventory whose entries are named, and
nothing to redact. -/
theorem ingestSbom_eq_ok {file : SbomFile} {artifactAlias : String} {record : Dict}
    (hdigest : ∀ content sha256, file = .document content sha256 → isSha256Text sha256 = true) :
    ingestSbomArtifact rt file artifactAlias = .ok record ↔
      ∃ document sha256 raws, file = .document (.obj document) sha256 ∧
        dget document "components" = .arr raws ∧ (∀ raw ∈ raws, NamedComponent raw) ∧
        record = sbomDocumentRecord rt artifactAlias sha256 raws ∧
        assertValueRedacted rt (.obj record) = .ok () := by
  cases file with
  | document content sha256 =>
    have hsha := hdigest content sha256 rfl
    cases content with
    | obj document =>
      simp only [ingestSbomArtifact, SbomFile.document.injEq, Json.obj.injEq]
      cases hraws : dget document "components" with
      | arr raws =>
        simp only [bind_eq_ok, sbomComponents_eq_ok]
        constructor
        · rintro ⟨_, ⟨hnamed, rfl⟩, _, hvalid, h⟩
          obtain rfl := Except.ok.inj h
          exact ⟨document, sha256, raws, ⟨rfl, rfl⟩, hraws, hnamed, rfl,
            (validateSbomRecord_iff rt hsha).mp hvalid⟩
        · rintro ⟨_, _, raws', ⟨rfl, rfl⟩, hraws', hnamed, rfl, hquiet⟩
          obtain rfl := Json.arr.inj (hraws.symm.trans hraws')
          exact ⟨_, ⟨hnamed, rfl⟩, (), (validateSbomRecord_iff rt hsha).mpr hquiet, rfl⟩
      | _ => simp [throw, throwThe, MonadExceptOf.throw, hraws]
    | _ => simp [ingestSbomArtifact]
  | _ => simp [ingestSbomArtifact]

/-! ### Cryptographic controls -/

theorem buildCryptoRecord_eq_ok {case record : Dict} (hclear : cryptoEvidenceErrors rt case = []) :
    buildCryptoRecord rt case = .ok record ↔
      record = cryptoRecordOf rt case ∧ validateCryptoRecord rt record = .ok () := by
  simp only [buildCryptoRecord, hclear, bind_eq_ok, guardE_eq_ok, List.isEmpty_nil, exists_const,
    true_and]
  constructor
  · rintro ⟨_, hvalid, h⟩
    obtain rfl := Except.ok.inj h
    exact ⟨rfl, hvalid⟩
  · rintro ⟨rfl, hvalid⟩
    exact ⟨(), hvalid, rfl⟩

/-- **What the record of a cryptographic review needs.** -/
theorem validateCryptoRecord_iff {case : Dict} (hclear : cryptoEvidenceErrors rt case = []) :
    validateCryptoRecord rt (cryptoRecordOf rt case) = .ok () ↔
      (∀ x ∈ itemsOf (dgetD case "weak_algorithm_indicators" (.arr [])), isObservation x = true) ∧
        RedactorSilent rt (.obj (cryptoRecordOf rt case)) := by
  set record := cryptoRecordOf rt case with hrecord
  have hlist : isList (dgetD case "weak_algorithm_indicators" (.arr [])) = true := by
    simp only [cryptoEvidenceErrors, fromkeys_eq_nil, List.append_eq_nil_iff] at hclear
    obtain ⟨⟨⟨⟨⟨-, hindicators⟩, -⟩, -⟩, -⟩, -⟩ := hclear
    by_contra hno
    simp [hno] at hindicators
  obtain ⟨items, hitems⟩ : ∃ items, dgetD case "weak_algorithm_indicators" (.arr []) = .arr items := by
    cases hx : dgetD case "weak_algorithm_indicators" (.arr []) with
    | arr items => exact ⟨items, rfl⟩
    | _ => simp [hx, isList] at hlist
  have hfixed : dget record "record_type" = .str "cryptographic_controls_evidence" ∧
      dget record "network_silent" = .bool true ∧ dget record "request_count" = .int 0 ∧
      dget record "private_material" = .str "not_collected" ∧
      dgetD record "weak_algorithm_indicators" (.arr []) =
        dgetD case "weak_algorithm_indicators" (.arr []) := ⟨rfl, rfl, rfl, rfl, rfl⟩
  obtain ⟨htype, hsilent, hzero, hmaterial, hindicators⟩ := hfixed
  simp only [validateCryptoRecord, bind_eq_ok, guardE_eq_ok, htype, hsilent, hzero, hmaterial,
    hindicators, hitems, Json.iter, itemsOf, pyEq_int_self, Json.pyEq_str_left, isTrue_bool,
    Bool.and_self, exists_const, true_and, Except.ok.injEq, exists_eq_left', List.all_eq_true,
    RedactorSilent]

end Aotp.Gate
