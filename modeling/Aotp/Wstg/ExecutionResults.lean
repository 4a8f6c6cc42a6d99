import Aotp.Lib.Paths
import Aotp.Wstg.Coverage

/-!
# Execution results and coverage

* `WSTGExecutionRequest`, `WSTGRedactedEvidenceArtifact`, `WSTGFindingCandidate`,
  `WSTGExecutionResult` — what an adapter is asked and returns, with the checks of their
  construction.
* `applyExecutionResultToCoverage` — the record of a result, in the ledger of a campaign.
* `converts_iff` — **a result becomes the one record of its objective, unless it is a warning
  without evidence**: a warning counts as tested, and a tested record needs evidence.
-/

namespace Aotp.Wstg

open PyData Aotp.Tools

/-! ### What adapters exchange -/

/-- Source: `wstg.execution_adapter.WSTGExecutionStatus` -/
inductive WSTGExecutionStatus where
  | pass
  | fail
  | warning
  | skip
  | notApplicable
  deriving DecidableEq, Repr

/-- Source: `wstg.execution_adapter.WSTGExecutionStatus`, the values -/
def WSTGExecutionStatus.value : WSTGExecutionStatus → String
  | pass => "pass"
  | fail => "fail"
  | warning => "warning"
  | skip => "skip"
  | notApplicable => "not_applicable"

/-- Source: `wstg.execution_adapter.WSTGAdapterKind` -/
inductive WSTGAdapterKind where
  | governedTool
  | appSpecificRunner
  deriving DecidableEq, Repr

/-- Source: `wstg.execution_adapter.WSTGEvidenceRole` -/
inductive WSTGEvidenceRole where
  | request
  | response
  | log
  | summary
  | screenshot
  deriving DecidableEq, Repr

/-- Source: `wstg.execution_adapter.WSTGExecutionAdapterError` -/
def adapterError (msg : String) : Exc := .custom "WSTGExecutionAdapterError" msg

/-- Source: `wstg.execution_adapter._ALLOWED_EVIDENCE_CLASSIFICATIONS` -/
def allowedEvidenceClassifications : List String :=
  ["public", "restricted", "poc_sensitive", "recipient_only"]

/-- Source: `wstg.execution_adapter._ALLOWED_EXECUTION_MODES` -/
def allowedExecutionModes : List String := ["not_executed", "dry_run", "live_stub", "live"]

/-- Source: `wstg.execution_adapter._ALLOWED_SEVERITIES` -/
def allowedSeverities : List String :=
  ["unrated", "informational", "low", "medium", "high", "critical"]

/-- Source: `wstg.execution_adapter._ALLOWED_CONFIDENCES` -/
def allowedConfidences : List String := ["low", "medium", "high"]

/-- Source: `wstg.execution_adapter.WSTGRedactedEvidenceArtifact` -/
structure WSTGRedactedEvidenceArtifact where
  artifactId : String
  role : WSTGEvidenceRole
  reference : String
  mediaType : String
  classification : String
  rawSha256 : Option String := none
  redactedSha256 : Option String := none
  redacted : Bool := true

/-- `".." in PurePosixPath(s).parts`. -/
def hasParentPart (s : String) : Bool := decide (['.', '.'] ∈ splitOnSep '/' s.toList)

/-- Source: `wstg.execution_adapter.WSTGRedactedEvidenceArtifact.__post_init__` -/
def WSTGRedactedEvidenceArtifact.postInit (a : WSTGRedactedEvidenceArtifact) :
    Except Exc Unit := do
  guardE (strip a.artifactId != "") (adapterError "evidence artifact_id is required")
  guardE (strip a.reference != "") (adapterError "evidence reference is required")
  guardE (!a.reference.toList.head?.any (· == '/'))
    (adapterError "evidence references must be relative or vault handles")
  guardE ("vault://".toList.isPrefixOf a.reference.toList || !hasParentPart a.reference)
    (adapterError "evidence references must not escape the evidence root")
  guardE (strip a.mediaType != "") (adapterError "evidence media_type is required")
  guardE (decide (a.classification ∈ allowedEvidenceClassifications))
    (adapterError "unsupported evidence classification for adapter artifact")
  guardE a.redacted (adapterError "adapter evidence must reference redacted artifacts")
  guardE (a.rawSha256.all isSha256Text)
    (adapterError "raw_sha256 must be a lowercase SHA256 digest")
  guardE (a.redactedSha256.all isSha256Text)
    (adapterError "redacted_sha256 must be a lowercase SHA256 digest")

/-- Source: `wstg.execution_adapter.WSTGExecutionRequest` -/
structure WSTGExecutionRequest where
  objective : WSTGObjective
  adapterKind : WSTGAdapterKind
  executorName : String
  arguments : Dict
  requestBudget : ℤ
  approvalReference : String
  executionMode : String := "dry_run"
  evidenceClassification : String := "restricted"

/-- Source: `wstg.execution_adapter.WSTGExecutionRequest.__post_init__` -/
def WSTGExecutionRequest.postInit (r : WSTGExecutionRequest) : Except Exc Unit := do
  guardE (strip r.executorName != "") (adapterError "executor_name is required")
  guardE (strip r.approvalReference != "") (adapterError "approval_reference is required")
  guardE (decide (0 ≤ r.requestBudget)) (adapterError "request_budget must be non-negative")
  guardE (decide (r.executionMode ∈ allowedExecutionModes))
    (adapterError "unsupported execution mode")
  guardE (!(r.executionMode == "live" && decide (r.requestBudget < 1)))
    (adapterError "live adapter requests require a positive request budget")
  guardE (decide (r.evidenceClassification ∈ allowedEvidenceClassifications))
    (adapterError "unsupported execution evidence classification")

/-- Source: `wstg.execution_adapter.WSTGFindingCandidate` -/
structure WSTGFindingCandidate where
  candidateId : String
  objectiveId : String
  wstgId : String
  title : String
  summary : String
  severityCandidate : String
  confidence : String
  evidenceReferences : List String
  state : String := "candidate"

/-- Source: `wstg.execution_adapter.WSTGFindingCandidate.__post_init__` -/
def WSTGFindingCandidate.postInit (c : WSTGFindingCandidate) : Except Exc Unit := do
  guardE (strip c.candidateId != "") (adapterError "finding candidate_id is required")
  guardE (c.state == "candidate")
    (adapterError "adapter finding candidates must remain candidate state")
  guardE (decide (c.severityCandidate ∈ allowedSeverities))
    (adapterError "unsupported severity candidate")
  guardE (decide (c.confidence ∈ allowedConfidences))
    (adapterError "unsupported finding confidence")
  guardE (!c.evidenceReferences.isEmpty)
    (adapterError "finding candidates require evidence references")

/-- A result of constructed parts.
Source: `wstg.execution_adapter.WSTGExecutionResult` -/
structure WSTGExecutionResult where
  request : { r : WSTGExecutionRequest // r.postInit = .ok () }
  status : WSTGExecutionStatus
  summary : String
  evidence : List { a : WSTGRedactedEvidenceArtifact // a.postInit = .ok () } := []
  reasons : List String := []
  findingCandidate : Option { c : WSTGFindingCandidate // c.postInit = .ok () } := none

namespace WSTGExecutionResult

variable (result : WSTGExecutionResult)

/-- Source: `wstg.execution_adapter.WSTGExecutionResult.evidence_references` -/
def evidenceReferences : List String := result.evidence.map fun a => a.val.reference

/-- Source: `wstg.execution_adapter.WSTGExecutionResult.__post_init__`, the finding candidate -/
def checkCandidateOf (c : WSTGFindingCandidate) : Except Exc Unit := do
  guardE (result.status == .fail)
    (adapterError "finding candidates are only allowed for fail results")
  guardE (c.evidenceReferences.all fun ref => decide (ref ∈ result.evidenceReferences))
    (adapterError "finding candidate must reference result evidence")
  guardE (c.objectiveId == result.request.val.objective.objectiveId)
    (adapterError "finding candidate objective does not match result")

/-- Source: `wstg.execution_adapter.WSTGExecutionResult.__post_init__` -/
def postInit : Except Exc Unit := do
  guardE (strip result.summary != "") (adapterError "execution result summary is required")
  guardE (!(decide (result.status ∈ [.pass, .fail]) && result.evidence.isEmpty))
    (adapterError "pass and fail results require redacted evidence")
  guardE (!(decide (result.status ∈ [.skip, .notApplicable]) && result.reasons.isEmpty))
    (adapterError "skip and not_applicable results require reasons")
  match result.findingCandidate with
  | some c => result.checkCandidateOf c.val
  | none => pure ()

/-- Source: `wstg.execution_adapter.WSTGExecutionResult.coverage_disposition` -/
def coverageDisposition : CoverageDisposition :=
  if result.status ∈ [.pass, .fail, .warning] then .tested
  else if result.status = .skip then .skipped
  else .skipped

/-- `given or fallback`. -/
def reasonsOr (given fallback : List String) : List String :=
  if given.isEmpty then fallback else given

/-- Source: `wstg.execution_adapter.WSTGExecutionResult.coverage_reasons` -/
def coverageReasons : List String :=
  if result.status = .notApplicable then reasonsOr result.reasons ["not applicable to target"]
  else if result.status = .skip then reasonsOr result.reasons ["execution skipped"]
  else if result.status = .warning then
    reasonsOr result.reasons ["warning result requires review"]
  else result.reasons

end WSTGExecutionResult

/-! ### Coverage -/

/-- The evidence of the record of a result. -/
def recordedEvidence (result : WSTGExecutionResult) : List String :=
  if result.coverageDisposition = .tested then result.evidenceReferences else []

/-- The reasons of the record of a result. -/
def recordedReasons (result : WSTGExecutionResult) : List String :=
  if result.coverageDisposition ≠ .tested ∧ result.coverageReasons = [] then [result.status.value]
  else result.coverageReasons

/-- Source: `wstg.execution_adapter.coverage_record_from_execution_result` -/
def coverageRecordFromExecutionResult (result : WSTGExecutionResult) : Except Exc CoverageRecord :=
  CoverageRecord.ofObjective result.request.val.objective result.coverageDisposition
    (recordedEvidence result) (recordedReasons result)

/-- Source: `wstg.execution_adapter.apply_execution_result_to_coverage` -/
def applyExecutionResultToCoverage (tracker : CoverageTracker) (result : WSTGExecutionResult) :
    Except Exc (CoverageRecord × CoverageTracker) := do
  let record ← coverageRecordFromExecutionResult result
  let next ← tracker.record record
  pure (record, next)

/-- A result becomes the one record of its objective, with the disposition of its status, and the
other records stay as they are. -/
def Converts (tracker : CoverageTracker) (result : WSTGExecutionResult) : Prop :=
  ∃ record next, applyExecutionResultToCoverage tracker result = .ok (record, next) ∧
    record.disposition = result.coverageDisposition ∧
    (next.records.filter fun r => r.objectiveId = result.request.val.objective.objectiveId) =
      [record] ∧
    (next.records.filter fun r => r.objectiveId ≠ result.request.val.objective.objectiveId) =
      tracker.records.filter fun r => r.objectiveId ≠ result.request.val.objective.objectiveId

variable {tracker : CoverageTracker} {result : WSTGExecutionResult}

/-- The construction of a pass or a fail asks for evidence. -/
theorem evidence_of_postInit (h : result.postInit = .ok ())
    (hstatus : result.status = .pass ∨ result.status = .fail) : result.evidence ≠ [] := by
  unfold WSTGExecutionResult.postInit at h
  simp only [bind_eq_ok, guardE_eq_ok] at h
  obtain ⟨-, -, -, hevidence, -⟩ := h
  intro hnil
  rcases hstatus with hstatus | hstatus <;> simp [hstatus, hnil] at hevidence

/-- **The checks of the record of a result** fail exactly where it is a warning without evidence. -/
theorem checkCoverage_recorded (h : result.postInit = .ok ()) :
    checkCoverage result.coverageDisposition (recordedEvidence result) (recordedReasons result) =
      .ok () ↔ result.status ≠ .warning ∨ result.evidence ≠ [] := by
  by_cases hin : result.status ∈ [.pass, .fail, .warning]
  · have hd : result.coverageDisposition = .tested := if_pos hin
    have hcheck : checkCoverage .tested result.evidenceReferences (recordedReasons result) =
        .ok () ↔ result.evidence ≠ [] := by
      unfold checkCoverage WSTGExecutionResult.evidenceReferences
      cases result.evidence <;> simp [bind_eq_ok, guardE_eq_ok]
    rw [recordedEvidence, if_pos hd, hd, hcheck]
    constructor
    · exact .inr
    · rintro (hwarning | hne)
      · apply evidence_of_postInit h
        simp only [List.mem_cons, List.not_mem_nil, or_false] at hin
        rcases hin with hpass | hfail | hwarns
        · exact .inl hpass
        · exact .inr hfail
        · exact absurd hwarns hwarning
      · exact hne
  · have hd : result.coverageDisposition = .skipped := by
      unfold WSTGExecutionResult.coverageDisposition
      rw [if_neg hin, ite_self]
    have hreasons : recordedReasons result ≠ [] := by
      unfold recordedReasons
      by_cases hnil : result.coverageReasons = []
      · simp [hd, hnil]
      · simp [hnil]
    have hcheck : checkCoverage .skipped (recordedEvidence result) (recordedReasons result) =
        .ok () := by
      unfold checkCoverage
      simp [bind_eq_ok, guardE_eq_ok, hreasons]
    rw [hd]
    refine iff_of_true hcheck (.inl fun hwarning => hin ?_)
    rw [hwarning]
    decide

/-- **The coverage of a result**, for every result its constructor accepts and every tracker that
holds its objective. -/
theorem converts_iff (hresult : result.postInit = .ok ())
    (hknown : result.request.val.objective.objectiveId ∈ tracker.ids) :
    Converts tracker result ↔ result.status ≠ .warning ∨ result.evidence ≠ [] := by
  rw [← checkCoverage_recorded hresult]
  constructor
  · rintro ⟨record, next, happly, -⟩
    obtain ⟨r, hr, -⟩ := bind_eq_ok.mp happly
    exact (CoverageRecord.ofObjective_eq_ok hr).2.2
  · intro hcheck
    have hrecord := CoverageRecord.ofObjective_of_check result.request.val.objective hcheck
    obtain ⟨record, hrecord⟩ : ∃ record, coverageRecordFromExecutionResult result = .ok record :=
      ⟨_, hrecord⟩
    obtain ⟨hkey, hd, -⟩ := CoverageRecord.ofObjective_eq_ok hrecord
    obtain ⟨next, hnext⟩ := CoverageTracker.record_of_mem record (hkey ▸ hknown)
    obtain ⟨-, -, hrecords⟩ := CoverageTracker.record_eq_ok hnext
    have happly : applyExecutionResultToCoverage tracker result = .ok (record, next) :=
      bind_eq_ok.mpr ⟨record, hrecord, bind_eq_ok.mpr ⟨next, hnext, rfl⟩⟩
    refine ⟨record, next, happly, hd, ?_, ?_⟩
    · rw [hrecords, ← hkey]
      exact Table.filter_put_eq tracker.single record
    · rw [hrecords, ← hkey]
      exact Table.filter_put_ne tracker.records record

/-- A request for the objective of a campaign of one. -/
def rootRequest : WSTGExecutionRequest where
  objective := rootObjective
  adapterKind := .governedTool
  executorName := "http_metadata"
  arguments := []
  requestBudget := 0
  approvalReference := "approval-17"

theorem rootRequest_accepted : rootRequest.postInit = .ok () := by decide

/-- A warning that names no evidence. -/
def bareWarning : WSTGExecutionResult where
  request := ⟨rootRequest, rootRequest_accepted⟩
  status := .warning
  summary := "The header is missing."
  reasons := ["review the header"]

/-- An artifact of a request. -/
def headersArtifact : WSTGRedactedEvidenceArtifact where
  artifactId := "artifact-1"
  role := .response
  reference := "evidence/headers.json"
  mediaType := "application/json"
  classification := "public"

theorem headersArtifact_accepted : headersArtifact.postInit = .ok () := by decide

/-- A warning with evidence. -/
def foundedWarning : WSTGExecutionResult :=
  { bareWarning with evidence := [⟨headersArtifact, headersArtifact_accepted⟩] }

theorem rootObjective_known : rootRequest.objective.objectiveId ∈ rootTracker.ids :=
  List.mem_singleton_self _

/-- A warning with evidence is recorded. -/
theorem converts_iff_founded : Converts rootTracker foundedWarning :=
  (converts_iff (by decide) rootObjective_known).mpr (.inr (List.cons_ne_nil _ _))

/-- **A warning without evidence** is an accepted result, and its conversion raises. -/
theorem bareWarning_unrecorded : bareWarning.postInit = .ok () ∧
    bareWarning.request.val.objective.objectiveId ∈ rootTracker.ids ∧
    coverageRecordFromExecutionResult bareWarning =
      .error (.valueError "tested coverage records require evidence references") ∧
    ¬ Converts rootTracker bareWarning := by
  have hraises : coverageRecordFromExecutionResult bareWarning =
      .error (.valueError "tested coverage records require evidence references") :=
    CoverageRecord.ofObjective_of_error _ rfl
  refine ⟨by decide, rootObjective_known, hraises, ?_⟩
  rintro ⟨record, next, happly, -⟩
  rw [applyExecutionResultToCoverage, hraises] at happly
  cases happly

end Aotp.Wstg
