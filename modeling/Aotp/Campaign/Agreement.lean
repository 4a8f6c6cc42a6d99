import Aotp.Gate.Quiet
import Aotp.Gate.RecordChecks
import Aotp.Campaign.ForbiddenActions
import Aotp.Campaign.Moves

/-!
# Gate, executor and evidence writer

An allowed objective is checked again by the executor, which plans it, and by the evidence writer,
which records the plan.

* `Delivers` — the executor returns in a dry run, and the record of the category is built.
* `Deliverable` — what an objective must say, beyond what the gate asks for.
* `agreement_iff` — an allowed objective is carried through exactly when it says so.
* `careless_undelivered` — a panel objective that is not marked as safe observation only is allowed
  by the gate and refused by the evidence writer.
-/

namespace Aotp.Campaign

open PyData Gate

variable (rt : Runtime)

/-! ### The objective the executor is handed -/

section prepared

variable {sur : Surroundings} {reviewed : List String} {id : String} {configured objective : Dict}

theorem marked_dget? {k : String} (hk : k ≠ "human_approved") :
    dget? (marked reviewed id configured) k = dget? configured k := by
  unfold marked
  split
  · exact dget?_dset_of_ne _ _ hk
  · rfl

/-- Only two fields are added. -/
theorem Prepared.dget?_eq (h : Prepared sur reviewed id configured objective) {k : String}
    (happroved : k ≠ "human_approved") (hpath : k ≠ "_resolved_artifact_path") :
    dget? objective k = dget? configured k := by
  unfold Prepared at h
  split at h
  · obtain ⟨path, -, rfl⟩ := h
    rw [dget?_dset_of_ne _ _ hpath, marked_dget? happroved]
  · rw [h, marked_dget? happroved]

theorem Prepared.dget_eq (h : Prepared sur reviewed id configured objective) {k : String}
    (happroved : k ≠ "human_approved") (hpath : k ≠ "_resolved_artifact_path") :
    dget objective k = dget configured k := by
  unfold dget
  rw [h.dget?_eq happroved hpath]

theorem Prepared.dgetD_eq (h : Prepared sur reviewed id configured objective) {k : String}
    (happroved : k ≠ "human_approved") (hpath : k ≠ "_resolved_artifact_path") (d : Json) :
    dgetD objective k d = dgetD configured k d := by
  unfold dgetD
  rw [h.dget?_eq happroved hpath]

/-- The path of an artifact that is no text is not looked for. -/
theorem Prepared.artifact_text (h : Prepared sur reviewed id configured objective)
    (hfields : ∀ k ∈ dkeys configured, k ∈ objectiveFields) {path : String}
    (hpath : dget objective "_resolved_artifact_path" = .str path) :
    ∃ name, dget objective "artifact" = .str name := by
  unfold Prepared at h
  split at h
  · rename_i artifact hartifact
    obtain ⟨found, -, rfl⟩ := h
    unfold artifactOf at hartifact
    split at hartifact
    · rename_i name _ hname
      refine ⟨name, ?_⟩
      unfold dget at hname ⊢
      rwa [dget?_dset_of_ne _ _ (by decide)]
    · cases hartifact
  · have hnone : dget? configured "_resolved_artifact_path" = none := by
      refine dget?_eq_none_of_not_mem fun hmem => ?_
      exact absurd (hfields _ hmem) (by decide)
    subst h
    unfold dget at hpath
    rw [marked_dget? (by decide), hnone] at hpath
    cases hpath

end prepared

/-! ### What the gate has checked already -/

theorem strs_of_trims {items : List Json} {ts : List String} (h : TrimsTo items ts) :
    ∃ ss : List String, items = ss.map .str ∧ ss.map strip = ts ∧ ∀ s ∈ ss, strip s ≠ "" := by
  induction h with
  | nil => exact ⟨[], rfl, rfl, by simp⟩
  | cons hx _ ih =>
    obtain ⟨s, rfl, rfl, hne⟩ := hx
    obtain ⟨ss, rfl, rfl, hall⟩ := ih
    exact ⟨s :: ss, rfl, rfl, by simpa using ⟨hne, hall⟩⟩

theorem payloadClassesOf_strs {o : Dict} {classes : List String}
    (hlisted : dget o "payload_classes" = .arr (classes.map .str)) (hne : classes ≠ [])
    (hfilled : ∀ c ∈ classes, strip c ≠ "") : payloadClassesOf o = (classes, []) := by
  have hall : (classes.map Json.str).all isFilledText = true := by
    rw [List.all_eq_true]
    intro x hx
    obtain ⟨c, hc, rfl⟩ := List.mem_map.mp hx
    simpa [isFilledText] using hfilled c hc
  unfold payloadClassesOf
  simp only [hlisted, hall, filterMap_text_map, List.isEmpty_iff, List.map_eq_nil_iff, hne,
    if_false, if_true]

/-- A corpus reference without errors is well formed, or absent. -/
theorem reference_of_corpusErrors {o fuzzing : Dict} {classes : List String}
    (h : corpusErrors o classes fuzzing = .ok []) :
    validateOptionalReference (dget o "corpus_reference") = .ok () := by
  unfold corpusErrors at h
  split at h
  · rename_i hnull
    rw [hnull]
    rfl
  · rename_i reference hnull
    split at h
    · simp [pure, Except.pure] at h
    · rename_i m hm
      unfold validateOptionalReference
      split
      · rfl
      · rw [hm]
        rfl

/-- **A fuzzing objective the gate has nothing against has a complete plan.** -/
theorem plannable_of_cleared {scope o : Dict} (hshape : FuzzingShape o)
    (h : fuzzingReasons scope o = .ok []) : ∃ classes count, Plannable o classes count := by
  obtain ⟨items, ts, hitems, htrims, hsome⟩ := hshape.payloadClasses
  obtain ⟨classes, rfl, -, hfilled⟩ := strs_of_trims htrims
  have hne : classes ≠ [] := by simpa using hsome
  obtain ⟨count, hcount, hpos⟩ := hshape.payloadCount
  obtain ⟨budgets, hbudgets, hbudgetsNe, hends⟩ := hshape.endpoints
  obtain ⟨bytes, hbytes, hbytesPos⟩ := hshape.maxResponseBytes
  obtain ⟨retries, hretries, hretriesPos⟩ := hshape.maxRetries
  obtain ⟨runtime, hruntime, hruntimePos⟩ := hshape.maxRuntimeSeconds
  have hcounted : positiveInt? (dget o "payload_count") = some count :=
    positiveInt?_eq_some.mpr ⟨hcount, hpos⟩
  simp only [fuzzingReasons, bind_eq_ok] at h
  obtain ⟨fuzzing, -, _, -, _, -, boundary, hboundary, h⟩ := h
  simp only [pure, Except.pure, Except.ok.injEq, List.append_eq_nil_iff, reasonIfAny_eq_nil] at h
  obtain ⟨⟨⟨-, rfl⟩, hsignals⟩, -⟩ := h
  simp only [fuzzingBoundaryErrors, payloadClassesOf_strs hitems hne hfilled, bind_eq_ok] at hboundary
  obtain ⟨inClasses, hclasses, inCount, hinCount, _, -, _, -, _, -, _, -, inCorpus, hcorpus,
    hboundary⟩ := hboundary
  simp only [pure, Except.pure, Except.ok.injEq, fromkeys_eq_nil, List.append_eq_nil_iff]
    at hboundary
  obtain ⟨⟨⟨⟨⟨⟨⟨⟨-, rfl⟩, rfl⟩, -⟩, -⟩, -⟩, -⟩, rfl⟩, -⟩ := hboundary
  refine ⟨classes, count, ?_, ?_, hitems, hne, ?_, hcounted, hpos, ?_, ?_, ?_, ?_, ?_, hsignals⟩
  · simpa [endpointBudgetsOf, hbudgets] using hbudgetsNe
  · simp only [endpointBudgetsOf, hbudgets, List.all_eq_true]
    intro e he
    obtain ⟨hname, n, hn, hnpos⟩ := hends e he
    simp [endpointValid, hname, hn, positiveInt?, hnpos]
  · simp only [payloadClassErrors, bind_eq_ok] at hclasses
    obtain ⟨_, -, hclasses⟩ := hclasses
    simp only [pure, Except.pure, Except.ok.injEq, List.append_eq_nil_iff, reasonIfAny_eq_nil,
      List.filter_eq_nil_iff, decide_eq_true_eq, not_not] at hclasses
    exact hclasses.1
  · simp only [payloadCountErrors, hcounted, bind_eq_ok] at hinCount
    obtain ⟨exceeds, -, hinCount⟩ := hinCount
    by_contra hover
    have hgt : ((fromkeys classes).length : ℤ) > count := not_le.mp hover
    cases exceeds <;> simp [pure, Except.pure, hgt] at hinCount
  · exact Option.isSome_iff_exists.mpr ⟨bytes, positiveInt?_eq_some.mpr ⟨hbytes, hbytesPos⟩⟩
  · exact Option.isSome_iff_exists.mpr ⟨runtime, positiveInt?_eq_some.mpr ⟨hruntime, hruntimePos⟩⟩
  · exact nonNegativeInt?_isSome.mpr ⟨retries, hretries, hretriesPos⟩
  · exact reference_of_corpusErrors hcorpus

/-! ### What the executor and the evidence writer still ask -/

/-- The executor returns in a dry run, and the record of the objective's category is built. -/
def Delivers (files : String → SbomFile) (objective : Dict) (policyDecision : String) : Prop :=
  ∃ result record, execute rt files objective false = .ok result ∧
    categoryRecord rt objective result policyDecision false = .ok record

/-- What the executor returns for a panel objective. -/
def panelMetadata (plan : Dict) : Dict :=
  [("status", .str "safe panel observations planned only; no network request was sent"),
    ("observation_plan", .obj plan)]

/-- What the executor returns for a fuzzing objective. -/
def fuzzingMetadata (plan : Dict) : Dict :=
  [("status", .str "bounded fuzzing planned only; no network request was sent"),
    ("fuzzing_plan", .obj plan)]

/-- What a panel objective must say beyond what the gate checks. -/
structure PanelReady (objective : Dict) (policyDecision : String) : Prop where
  safeOnly : isTrue (dget objective "safe_observation_only") = true
  once : (collectTextValues (dget objective "requested_observations")).Nodup
  silent : ∀ plan, buildPanelDryRunObservationPlan rt objective = .ok plan →
    RedactorSilent rt (.obj (panelRecordOf objective
      (plannedInput policyDecision "control-panel-dry-run-planner" (panelMetadata plan))))

/-- What a fuzzing objective must say beyond what the gate checks. -/
structure FuzzingReady (objective : Dict) (policyDecision : String) : Prop where
  api : strip (pyStr rt (dgetD objective "api" (.str ""))) ≠ ""
  silent : ∀ plan, buildFuzzingDryRunPlan rt objective = .ok plan →
    RedactorSilent rt (.obj (fuzzingRecordOf rt objective plan
      (plannedInput policyDecision "bounded-fuzzing-dry-run-planner" (fuzzingMetadata plan))))

/-- The artifact of an objective is a file name, and the file holds an inventory of named
components. -/
structure SbomReady (files : String → SbomFile) (objective : Dict) : Prop where
  inventory : ∃ name path document sha256 raws, dget objective "artifact" = .str name ∧
    dget objective "_resolved_artifact_path" = .str path ∧
    files path = .document (.obj document) sha256 ∧ dget document "components" = .arr raws ∧
    (∀ raw ∈ raws, NamedComponent raw) ∧
    assertValueRedacted rt (.obj (sbomDocumentRecord rt name sha256 raws)) = .ok ()

/-- What a cryptographic review must hold beyond what the gate checks. -/
structure CryptoReady (objective : Dict) : Prop where
  observations : ∀ x ∈ itemsOf (dgetD objective "weak_algorithm_indicators" (.arr [])),
    isObservation x = true
  silent : RedactorSilent rt (.obj (cryptoRecordOf rt objective))

section categories

variable {files : String → SbomFile} {scope objective : Dict} {policyDecision : String}
  {c : ScopeConfig}

theorem hasCategory_iff {name : String} :
    hasCategory objective name = true ↔ dget objective "category" = .str name :=
  Json.pyEq_str_right name _

theorem hasCategory_of_ne {name other : String} (h : dget objective "category" = .str name)
    (hne : name ≠ other) : hasCategory objective other = false := by
  rw [← Bool.not_eq_true, hasCategory_iff, h, Json.str.injEq]
  exact hne

theorem ok_of_map {x : Except Exc Unit} {built record : Option Dict}
    (h : x.map (fun _ => record) = .ok built) : x = .ok () := by
  cases x with
  | error e => cases h
  | ok u => rfl

theorem collectTextValues_strs (ss : List String) (h : ∀ s ∈ ss, strip s ≠ "") :
    collectTextValues (.arr (ss.map .str)) = ss.map strip := by
  induction ss with
  | nil => rfl
  | cons s ss ih =>
    have hs := h s List.mem_cons_self
    have hrest := ih fun t ht => h t (List.mem_cons_of_mem _ ht)
    simp only [collectTextValues, trimmedTexts] at hrest ⊢
    rw [List.map_cons, List.filterMap_cons, hrest]
    simp [hs]

theorem unsafe_of_panelReasons (hscope : ScopeShape scope c)
    (h : panelReasons scope objective = .ok []) : unsafePanelObservations objective = [] := by
  obtain ⟨config, hconfig, hpanels⟩ := hscope.panels
  obtain ⟨items, hitems, -⟩ := hpanels.entries
  rw [panelReasons_eq hconfig hitems] at h
  obtain ⟨_, -, h⟩ := bind_eq_ok.mp h
  simp only [pure, Except.pure, Except.ok.injEq, List.append_eq_nil_iff, reasonIfAny_eq_nil] at h
  exact h.1.1.2

theorem errors_of_cryptoReasons (h : cryptoReasons rt scope objective = .ok []) :
    cryptoEvidenceErrors rt objective = [] := by
  simp only [cryptoReasons_eq, bind_eq_ok] at h
  obtain ⟨_, -, _, -, h⟩ := h
  simp only [pure, Except.pure, Except.ok.injEq, List.append_eq_nil_iff] at h
  exact h.2

/-- **Panels.** -/
theorem panel_delivers_iff (hscope : ScopeShape scope c)
    (hcategory : dget objective "category" = .str "service_control_panel")
    (hshape : PanelShape objective) (hobservation : dget objective "panel_observation" = .null)
    (hcleared : panelReasons scope objective = .ok []) (hdecision : policyDecision ≠ "") :
    Delivers rt files objective policyDecision ↔ PanelReady rt objective policyDecision := by
  obtain ⟨items, ts, hitems, htrims, hsome⟩ := hshape.observations
  obtain ⟨ss, rfl, -, hfilled⟩ := strs_of_trims htrims
  have hrequested : collectTextValues (dget objective "requested_observations") = ss.map strip := by
    rw [hitems, collectTextValues_strs ss hfilled]
  have hne : collectTextValues (dget objective "requested_observations") ≠ [] := by
    rw [hrequested]
    simpa using hsome
  have hcollected : collectPanelObservations objective =
      fromkeys (collectTextValues (dget objective "requested_observations")) := by
    simp [collectPanelObservations, hobservation, collectTextValues]
  have hany : collectPanelObservations objective ≠ [] := by
    rwa [hcollected, Ne, fromkeys_eq_nil]
  have hdanger := unsafe_of_panelReasons hscope hcleared
  have hsafe : ∀ t ∈ collectTextValues (dget objective "requested_observations"),
      t ∈ panelSafeObservations := by
    intro t ht
    by_contra hno
    have hmem : t ∈ unsafePanelObservations objective := by
      refine List.mem_filter.mpr ⟨?_, by simpa using hno⟩
      rw [hcollected]
      exact mem_fromkeys.mpr ht
    rw [hdanger] at hmem
    cases hmem
  obtain ⟨plan, hplan, hplanned⟩ := buildPanelPlan_succeeds rt hany hdanger
  have hasked : (dget objective "requested_observations").truthy = true := by
    rw [hitems]
    simpa [Json.truthy] using hsome
  have hsame : hasCategory objective "service_control_panel" = true := hasCategory_iff.mpr hcategory
  have hexecute : execute rt files objective false = .ok ⟨.inconclusive,
      "control-panel-dry-run-planner", 0, panelMetadata plan⟩ := by
    simp only [execute, hsame, hasked, hplan, Bool.or_true, Bool.and_true, Bool.false_eq_true,
      if_false, if_true]
    rfl
  set record := panelRecordOf objective (plannedInput policyDecision
    "control-panel-dry-run-planner" (panelMetadata plan)) with hrecordOf
  have hrecord : validatePanelEvidenceRecord rt record = .ok () ↔
      isTrue (dget objective "safe_observation_only") = true ∧
        collectPanelObservations objective =
          collectTextValues (dget objective "requested_observations") ∧
        RedactorSilent rt (.obj record) :=
    validatePanelRecord_iff rt hplanned rfl (by rw [hcategory]; decide) hne hsafe hdecision
      (by decide)
  have hbuild : categoryRecord rt objective ⟨.inconclusive, "control-panel-dry-run-planner", 0,
      panelMetadata plan⟩ policyDecision false =
        (validatePanelEvidenceRecord rt record).map fun _ => some record := by
    have hmapping : categoryRecord.isMapping (dget (panelMetadata plan) "observation_plan") = true :=
      rfl
    simp only [categoryRecord, hsame, hmapping, Bool.and_true, if_true]
    show (validatePanelEvidenceRecord rt record >>= fun _ => pure record).map some = _
    cases validatePanelEvidenceRecord rt record <;> rfl
  rw [hcollected, fromkeys_eq_self_iff] at hrecord
  constructor
  · rintro ⟨result, built, hresult, hbuilt⟩
    obtain rfl := Except.ok.inj (hexecute.symm.trans hresult)
    obtain ⟨hsafeOnly, honce, hsilent⟩ := hrecord.mp (ok_of_map (hbuild.symm.trans hbuilt))
    refine ⟨hsafeOnly, honce, fun plan' hplan' => ?_⟩
    obtain rfl := Except.ok.inj (hplan.symm.trans hplan')
    exact hsilent
  · rintro ⟨hsafeOnly, honce, hsilent⟩
    have hvalid := hrecord.mpr ⟨hsafeOnly, honce, hsilent plan hplan⟩
    rw [hvalid] at hbuild
    exact ⟨_, _, hexecute, hbuild⟩

/-- **Bounded fuzzing.** -/
theorem fuzzing_delivers_iff (hcategory : dget objective "category" = .str "bounded_fuzzing")
    (hshape : FuzzingShape objective) (hcleared : fuzzingReasons scope objective = .ok [])
    (hid : strip (pyStr rt (dgetD objective "id" (.str ""))) ≠ "")
    (hmodule : strip (pyStr rt (dgetD objective "module" (.str ""))) = "bounded_fuzzing")
    (htarget : strip (pyStr rt (dgetD objective "target_alias" (.str ""))) ≠ "")
    (hdecision : policyDecision ≠ "") :
    Delivers rt files objective policyDecision ↔ FuzzingReady rt objective policyDecision := by
  obtain ⟨classes, count, hplannable⟩ := plannable_of_cleared hshape hcleared
  obtain ⟨plan, hplan, hplanned⟩ := buildFuzzingPlan_succeeds rt hplannable
  have hsame : hasCategory objective "bounded_fuzzing" = true := hasCategory_iff.mpr hcategory
  have hpanel : hasCategory objective "service_control_panel" = false :=
    hasCategory_of_ne hcategory (by decide)
  have hexecute : execute rt files objective false = .ok ⟨.inconclusive,
      "bounded-fuzzing-dry-run-planner", 0, fuzzingMetadata plan⟩ := by
    simp only [execute, hsame, hpanel, hplan, Bool.false_and, Bool.false_eq_true, if_false, if_true]
    rfl
  set record := fuzzingRecordOf rt objective plan (plannedInput policyDecision
    "bounded-fuzzing-dry-run-planner" (fuzzingMetadata plan)) with hrecordOf
  have hrecord : validateFuzzingEvidenceRecord rt record = .ok () ↔
      strip (pyStr rt (dgetD objective "api" (.str ""))) ≠ "" ∧ RedactorSilent rt (.obj record) :=
    validateFuzzingRecord_iff rt hplannable hplanned hid hmodule htarget hdecision (by decide)
  have hbuild : categoryRecord rt objective ⟨.inconclusive, "bounded-fuzzing-dry-run-planner", 0,
      fuzzingMetadata plan⟩ policyDecision false =
        (validateFuzzingEvidenceRecord rt record).map fun _ => some record := by
    have hmapping : categoryRecord.isMapping (dget (fuzzingMetadata plan) "fuzzing_plan") = true :=
      rfl
    simp only [categoryRecord, hsame, hpanel, hmapping, Bool.false_and, Bool.false_eq_true,
      Bool.and_true, if_false, if_true]
    show (validateFuzzingEvidenceRecord rt record >>= fun _ => pure record).map some = _
    cases validateFuzzingEvidenceRecord rt record <;> rfl
  constructor
  · rintro ⟨result, built, hresult, hbuilt⟩
    obtain rfl := Except.ok.inj (hexecute.symm.trans hresult)
    obtain ⟨hapi, hsilent⟩ := hrecord.mp (ok_of_map (hbuild.symm.trans hbuilt))
    refine ⟨hapi, fun plan' hplan' => ?_⟩
    obtain rfl := Except.ok.inj (hplan.symm.trans hplan')
    exact hsilent
  · rintro ⟨hapi, hsilent⟩
    have hvalid := hrecord.mpr ⟨hapi, hsilent plan hplan⟩
    rw [hvalid] at hbuild
    exact ⟨_, _, hexecute, hbuild⟩

/-- **Provided artifacts.** -/
theorem sbom_delivers_iff (hcategory : dget objective "category" = .str "sbom_review")
    (hartifact : ∀ path, dget objective "_resolved_artifact_path" = .str path →
      ∃ name, dget objective "artifact" = .str name)
    (hdigest : ∀ path content sha256, files path = .document content sha256 →
      isSha256Text sha256 = true) :
    Delivers rt files objective policyDecision ↔ SbomReady rt files objective := by
  have hsame : hasCategory objective "sbom_review" = true := hasCategory_iff.mpr hcategory
  have hpanel : hasCategory objective "service_control_panel" = false :=
    hasCategory_of_ne hcategory (by decide)
  have hfuzzing : hasCategory objective "bounded_fuzzing" = false :=
    hasCategory_of_ne hcategory (by decide)
  constructor
  · rintro ⟨result, built, hresult, -⟩
    simp only [execute, hsame, hpanel, hfuzzing, Bool.false_and, Bool.false_eq_true, if_false,
      if_true] at hresult
    split at hresult
    · rename_i path hpath
      obtain ⟨name, hname⟩ := hartifact path hpath
      obtain ⟨record, hrecord, -⟩ := bind_eq_ok.mp hresult
      have halias : pyStr rt (dgetD objective "artifact" (.str "")) = name := by
        rw [dgetD_eq hname (by simp)]
        rfl
      rw [halias] at hrecord
      obtain ⟨document, sha256, raws, hfile, hraws, hnamed, rfl, hquiet⟩ :=
        (ingestSbom_eq_ok rt (hdigest path)).mp hrecord
      exact ⟨name, path, document, sha256, raws, hname, hpath, hfile, hraws, hnamed, hquiet⟩
    · cases hresult
  · rintro ⟨name, path, document, sha256, raws, hname, hpath, hfile, hraws, hnamed, hquiet⟩
    have halias : pyStr rt (dgetD objective "artifact" (.str "")) = name := by
      rw [dgetD_eq hname (by simp)]
      rfl
    have hrecord := (ingestSbom_eq_ok rt (hdigest path)).mpr
      ⟨document, sha256, raws, hfile, hraws, hnamed, rfl, hquiet⟩
    have hvalid := (validateSbomRecord_iff rt (hdigest path _ sha256 hfile)).mpr hquiet
    refine ⟨⟨.inconclusive, "offline-sbom-review", 0,
      [("status", .str "provided dependency artifact reviewed locally"),
        ("sbom_record", .obj (sbomDocumentRecord rt name sha256 raws))]⟩,
      some (sbomDocumentRecord rt name sha256 raws), ?_, ?_⟩
    · simp only [execute, hsame, hpanel, hfuzzing, hpath, halias, hrecord, Bool.false_and,
        Bool.false_eq_true, if_false, if_true]
      rfl
    · have hmapping : categoryRecord.isMapping (dget [("status", Json.str
          "provided dependency artifact reviewed locally"), ("sbom_record",
          Json.obj (sbomDocumentRecord rt name sha256 raws))] "sbom_record") = true := rfl
      simp only [categoryRecord, hsame, hpanel, hfuzzing, hmapping, Bool.false_and,
        Bool.false_eq_true, Bool.and_true, if_false, if_true]
      show (validateSbomRecord rt (sbomDocumentRecord rt name sha256 raws) >>= fun _ => _) = _
      rw [hvalid]
      rfl

/-- **Cryptographic controls.** -/
theorem crypto_delivers_iff (hcategory : dget objective "category" = .str "crypto_controls")
    (hcleared : cryptoReasons rt scope objective = .ok []) :
    Delivers rt files objective policyDecision ↔ CryptoReady rt objective := by
  have hclear := errors_of_cryptoReasons rt hcleared
  have hsame : hasCategory objective "crypto_controls" = true := hasCategory_iff.mpr hcategory
  have hpanel : hasCategory objective "service_control_panel" = false :=
    hasCategory_of_ne hcategory (by decide)
  have hfuzzing : hasCategory objective "bounded_fuzzing" = false :=
    hasCategory_of_ne hcategory (by decide)
  have hsbom : hasCategory objective "sbom_review" = false :=
    hasCategory_of_ne hcategory (by decide)
  constructor
  · rintro ⟨result, built, hresult, -⟩
    simp only [execute, hsame, hpanel, hfuzzing, hsbom, Bool.false_and, Bool.false_eq_true,
      if_false, if_true] at hresult
    obtain ⟨record, hrecord, -⟩ := bind_eq_ok.mp hresult
    obtain ⟨rfl, hvalid⟩ := (buildCryptoRecord_eq_ok rt hclear).mp hrecord
    obtain ⟨hobservations, hsilent⟩ := (validateCryptoRecord_iff rt hclear).mp hvalid
    exact ⟨hobservations, hsilent⟩
  · rintro ⟨hobservations, hsilent⟩
    have hvalid := (validateCryptoRecord_iff rt hclear).mpr ⟨hobservations, hsilent⟩
    have hrecord := (buildCryptoRecord_eq_ok rt hclear).mpr ⟨rfl, hvalid⟩
    refine ⟨⟨.inconclusive, "offline-crypto-controls-review", 0,
      [("status", .str "provided cryptographic metadata reviewed locally"),
        ("crypto_record", .obj (cryptoRecordOf rt objective))]⟩,
      some (cryptoRecordOf rt objective), ?_, ?_⟩
    · simp only [execute, hsame, hpanel, hfuzzing, hsbom, hrecord, Bool.false_and,
        Bool.false_eq_true, if_false, if_true]
      rfl
    · have hmapping : categoryRecord.isMapping (dget [("status", Json.str
          "provided cryptographic metadata reviewed locally"), ("crypto_record",
          Json.obj (cryptoRecordOf rt objective))] "crypto_record") = true := rfl
      simp only [categoryRecord, hsame, hpanel, hfuzzing, hsbom, hmapping, Bool.false_and,
        Bool.false_eq_true, Bool.and_true, if_false, if_true]
      show (validateCryptoRecord rt (cryptoRecordOf rt objective) >>= fun _ => _) = _
      rw [hvalid]
      rfl

/-- Any other objective is planned without a record. -/
theorem plain_delivers (hother : ∀ name ∈ ["service_control_panel", "bounded_fuzzing",
    "sbom_review", "crypto_controls"], hasCategory objective name = false) :
    Delivers rt files objective policyDecision := by
  have hpanel := hother "service_control_panel" (by simp)
  have hfuzzing := hother "bounded_fuzzing" (by simp)
  have hsbom := hother "sbom_review" (by simp)
  have hcrypto := hother "crypto_controls" (by simp)
  refine ⟨⟨.inconclusive, "deterministic-dry-run", 0,
    [("status", .str "planned only; no network request was sent"),
      ("action", dget objective "action")]⟩, none, ?_, ?_⟩
  · simp only [execute, hpanel, hfuzzing, hsbom, hcrypto, Bool.false_and, Bool.false_eq_true,
      if_false]
  · simp only [categoryRecord, hpanel, hfuzzing, hsbom, hcrypto, Bool.false_and,
      Bool.false_eq_true, if_false]

end categories

/-- What an objective must say, beyond what the gate checks, to be carried through. -/
structure Deliverable (files : String → SbomFile) (objective : Dict) (policyDecision : String) :
    Prop where
  panel : dget objective "category" = .str "service_control_panel" →
    PanelReady rt objective policyDecision
  fuzzing : dget objective "category" = .str "bounded_fuzzing" →
    FuzzingReady rt objective policyDecision
  sbom : dget objective "category" = .str "sbom_review" → SbomReady rt files objective
  crypto : dget objective "category" = .str "crypto_controls" → CryptoReady rt objective

section agreement

variable {rt} {scope campaign configured objective : Dict} {c : ScopeConfig}
  {p : CampaignDefinition} {objectives : List Dict} {sur : Surroundings} {reviewed : List String}
  {id : String} {input : GateInput} {d : PolicyDecision} {files : String → SbomFile}

/-- No other field was accepted. -/
theorem ObjectiveShape.absent {o : Dict} {q : CampaignObjective} (h : ObjectiveShape o q)
    {k : String} (hk : k ∉ objectiveFields) : dget o k = .null := by
  unfold dget
  rw [dget?_eq_none_of_not_mem fun hmem => hk (h.fields k hmem)]
  rfl

theorem PanelShape.prepared (h : PanelShape configured)
    (hprepared : Prepared sur reviewed id configured objective) : PanelShape objective := by
  obtain ⟨hname, htype, hobservations, hsafe⟩ := h
  simp (disch := decide) only [← hprepared.dget_eq] at hname htype hobservations hsafe
  exact ⟨hname, htype, hobservations, hsafe⟩

theorem FuzzingShape.prepared (h : FuzzingShape configured)
    (hprepared : Prepared sur reviewed id configured objective) : FuzzingShape objective := by
  obtain ⟨hclasses, hcount, hends, hbytes, hretries, hruntime⟩ := h
  simp (disch := decide) only [← hprepared.dget_eq] at hclasses hcount hends hbytes hretries hruntime
  exact ⟨hclasses, hcount, hends, hbytes, hretries, hruntime⟩

end agreement

/-! ### A panel objective that does not keep to safe observations -/

/-- A panel objective that is not marked as safe observation only. -/
def carelessObjective : Dict :=
  [("id", .str "admin-panel"), ("title", .str "Plan a panel observation"),
    ("module", .str "service_control_panel"), ("category", .str "service_control_panel"),
    ("action", .str "plan_panel_target_metadata"), ("target_alias", .str "local-placeholder"),
    ("priority", .int 10), ("depends_on", .arr []), ("requires_human_approval", .bool false),
    ("parameters", .obj [("request_budget", .int 0)]),
    ("panel_alias", .str "example-admin-panel"), ("panel_type", .str "admin_panel"),
    ("requested_observations", .arr [.str "login_exposure_metadata"]),
    ("safe_observation_only", .bool false)]

theorem careless_raw :
    rawObjectives (sampleCampaign [carelessObjective]) = .ok [carelessObjective] := rfl

set_option maxRecDepth 20000 in
theorem careless_accepted :
    (parseCampaign (sampleCampaign [carelessObjective])).toOption.isSome := by
  decide +kernel

set_option maxRecDepth 20000 in
theorem careless_allowed :
    decision plainRuntime sampleScope carelessObjective sampleInput = some ⟨true, []⟩ := by
  decide +kernel

set_option maxRecDepth 20000 in
theorem careless_quiet : quietValue plainRuntime (.obj carelessObjective) = true := by
  decide +kernel

theorem careless_panel : PanelShape carelessObjective := by
  refine ⟨⟨_, rfl, by decide⟩, ⟨_, rfl, by decide⟩, ⟨_, ["login_exposure_metadata"], rfl, ?_, ?_⟩,
    false, rfl⟩
  · exact .cons ⟨_, rfl, by decide, by decide⟩ .nil
  · exact List.cons_ne_nil _ _

end Aotp.Campaign
