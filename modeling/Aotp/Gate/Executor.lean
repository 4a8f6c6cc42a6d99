import Aotp.Gate.EvidenceRecords

/-!
# The network-silent executor

* `execute` — plans or reviews an objective locally; nothing is sent, in live mode included.
* `execute_requestCount` — **no execution makes a request**.
* `categoryRecord` — the evidence record the campaign loop writes for the objective's category.
-/

namespace Aotp.Gate

open PyData

/-- Source: `verifier.Verdict` -/
inductive Verdict where
  | pass
  | fail
  | inconclusive
  | manualReview
  | stoppedByPolicy
  deriving DecidableEq, Repr

/-- `str(verdict)`. -/
def Verdict.text : Verdict → String
  | pass => "pass"
  | fail => "fail"
  | inconclusive => "inconclusive"
  | manualReview => "manual_review"
  | stoppedByPolicy => "stopped_by_policy"

/-- Source: `executor.ExecutionResult` -/
structure ExecutionResult where
  verdict : Verdict
  tool : String
  requestCount : ℤ
  responseMetadata : Dict

variable (rt : Runtime)

/-- `objective.get("category") == name`. -/
def hasCategory (objective : Dict) (name : String) : Bool :=
  Json.pyEq (dget objective "category") (.str name)

/-- Source: `executor.execute`; `files` is what is found at the path of an artifact. -/
def execute (files : String → SbomFile) (objective : Dict) (live : Bool) :
    Except Exc ExecutionResult :=
  if live then
    .ok ⟨.manualReview, "live-adapter-stub", 0,
      [("status", .str "live execution is not implemented; no network request was sent")]⟩
  else if hasCategory objective "service_control_panel" &&
      (Json.pyEq (dget objective "action") (.str "plan_safe_panel_observations") ||
        (dget objective "requested_observations").truthy) then do
    let plan ← buildPanelDryRunObservationPlan rt objective
    pure ⟨.inconclusive, "control-panel-dry-run-planner", 0,
      [("status", .str "safe panel observations planned only; no network request was sent"),
        ("observation_plan", .obj plan)]⟩
  else if hasCategory objective "bounded_fuzzing" then do
    let plan ← buildFuzzingDryRunPlan rt objective
    pure ⟨.inconclusive, "bounded-fuzzing-dry-run-planner", 0,
      [("status", .str "bounded fuzzing planned only; no network request was sent"),
        ("fuzzing_plan", .obj plan)]⟩
  else if hasCategory objective "sbom_review" then
    match dget objective "_resolved_artifact_path" with
    | .str path => do
      let record ← ingestSbomArtifact rt (files path)
        (pyStr rt (dgetD objective "artifact" (.str "")))
      pure ⟨.inconclusive, "offline-sbom-review", 0,
        [("status", .str "provided dependency artifact reviewed locally"),
          ("sbom_record", .obj record)]⟩
    | _ => .error (.valueError "provided SBOM artifact path was not resolved")
  else if hasCategory objective "crypto_controls" then do
    let record ← buildCryptoRecord rt objective
    pure ⟨.inconclusive, "offline-crypto-controls-review", 0,
      [("status", .str "provided cryptographic metadata reviewed locally"),
        ("crypto_record", .obj record)]⟩
  else
    .ok ⟨.inconclusive, "deterministic-dry-run", 0,
      [("status", .str "planned only; no network request was sent"),
        ("action", dget objective "action")]⟩

/-- Every result is inconclusive in a dry run, and awaits manual review in live mode. -/
theorem execute_verdict {files : String → SbomFile} {objective : Dict} {live : Bool}
    {result : ExecutionResult} (h : execute rt files objective live = .ok result) :
    result.verdict = if live then .manualReview else .inconclusive := by
  unfold execute at h
  cases live with
  | true =>
    simp only [if_true, Except.ok.injEq] at h
    subst h
    rfl
  | false =>
    simp only [Bool.false_eq_true, if_false] at h ⊢
    split_ifs at h
    · obtain ⟨plan, -, h⟩ := bind_eq_ok.mp h
      cases h
      rfl
    · obtain ⟨plan, -, h⟩ := bind_eq_ok.mp h
      cases h
      rfl
    · split at h
      · obtain ⟨record, -, h⟩ := bind_eq_ok.mp h
        cases h
        rfl
      · cases h
    · obtain ⟨record, -, h⟩ := bind_eq_ok.mp h
      cases h
      rfl
    · cases h
      rfl

/-- **Network silence**: no execution makes a request. -/
theorem execute_requestCount {files : String → SbomFile} {objective : Dict} {live : Bool}
    {result : ExecutionResult} (h : execute rt files objective live = .ok result) :
    result.requestCount = 0 := by
  unfold execute at h
  split_ifs at h
  · cases h
    rfl
  · obtain ⟨plan, -, h⟩ := bind_eq_ok.mp h
    cases h
    rfl
  · obtain ⟨plan, -, h⟩ := bind_eq_ok.mp h
    cases h
    rfl
  · split at h
    · obtain ⟨record, -, h⟩ := bind_eq_ok.mp h
      cases h
      rfl
    · cases h
  · obtain ⟨record, -, h⟩ := bind_eq_ok.mp h
    cases h
    rfl
  · cases h
    rfl

/-- The record a campaign writes next to the manifest of an executed objective: none when the
objective's category has no record of its own. It is built (panel, fuzzing) or checked again (SBOM,
cryptographic controls) before it is written.
Source: `campaign_loop.run_campaign`, the four record blocks -/
def categoryRecord (objective : Dict) (result : ExecutionResult) (policyDecision : String)
    (live : Bool) : Except Exc (Option Dict) :=
  let input : RecordInput := ⟨policyDecision, if live then "live_stub" else "dry_run", result.tool,
    result.requestCount, result.responseMetadata⟩
  let metadata key := dget result.responseMetadata key
  if hasCategory objective "service_control_panel" && isMapping (metadata "observation_plan") then
    (buildPanelEvidenceRecord rt objective input).map some
  else if hasCategory objective "bounded_fuzzing" && isMapping (metadata "fuzzing_plan") then
    (buildFuzzingEvidenceRecord rt objective input).map some
  else if hasCategory objective "sbom_review" && isMapping (metadata "sbom_record") then do
    let record := mappingOf (metadata "sbom_record")
    validateSbomRecord rt record
    pure (some record)
  else if hasCategory objective "crypto_controls" && isMapping (metadata "crypto_record") then do
    let record := mappingOf (metadata "crypto_record")
    validateCryptoRecord rt record
    pure (some record)
  else .ok none
where
  /-- `isinstance(x, dict)`. -/
  isMapping : Json → Bool
    | .obj _ => true
    | _ => false

end Aotp.Gate
