import Aotp.Lib.Effects
import Aotp.Lib.Paths
import Aotp.Wstg.CampaignRecords

/-!
# The harness of a live campaign

* `LiveOp`, `LiveRes` — what the harness asks of its surroundings: the executor of an action, and the
  directory of the evidence. The answers are arbitrary.
* `writeText`, `writeJson`, `writeJsonl`, `writeSha256s` — the evidence writer.
* `preparePlan`, `runAction`, `deriveSurface`, `bindFindings`, `requestProof`, `writePackage`,
  `sealPackage` — the parts of a campaign, one after the other.
* `runWstgLiveCampaign` — the whole run.
-/

namespace Aotp.Wstg

open PyData Aotp.Tools Effects

/-! ### Configurations -/

/-- A target with all that a campaign reads of it.
Source: `target_runtime.CampaignTargetRuntime` -/
structure LiveTarget extends CampaignTargetRuntime where
  allowedSafetyTiers : List WSTGSafetyTier := [.passive, .safeActive]
  allowedAdapterFamilies : List WSTGAdapterFamily :=
    [.http, .browser, .proxy, .tls, .api, .manual, .multiStep]
  authenticated : Bool := false
  multiRole : Bool := false
  privileged : Bool := false
  sourceAssisted : Bool := false
  allowIntrusiveActive : Bool := false
  benchmarkComparator : Option (List String → Except Exc Dict) := none

/-- The profile of a campaign, before its checks.
Source: `target_runtime.CampaignTargetRuntime.build_wstg_profile`, without `max_ready_tests` -/
def LiveTarget.wstgProfile (target : LiveTarget) (campaignId : String) : WSTGEngineProfile where
  campaignId := if campaignId = "" then target.targetAlias ++ "-wstg-live" else campaignId
  targetAlias := target.targetAlias
  baseUrl := target.normalizedBaseUrl
  authorizationReference := target.authorizationReference
  operatorApproved := true
  allowedSafetyTiers := target.allowedSafetyTiers
  allowedAdapterFamilies := target.allowedAdapterFamilies
  authenticated := target.authenticated
  multiRole := target.multiRole
  privileged := target.privileged
  sourceAssisted := target.sourceAssisted
  allowIntrusiveActive := target.allowIntrusiveActive
  maxReadyTests := target.maxReadyTests

/-- Source: `target_runtime.CampaignTargetRuntime.build_wstg_profile` -/
def LiveTarget.buildWstgProfile (urls : Urls) (target : LiveTarget) (campaignId : String) :
    Except Exc WSTGEngineProfile := do
  (target.wstgProfile campaignId).postInit urls
  pure (target.wstgProfile campaignId)

/-- Source: `wstg_live_campaign.WSTGLiveCampaignConfig` -/
structure WSTGLiveCampaignConfig where
  evidenceDir : String
  targetRuntime : LiveTarget
  campaignId : String := "generic-wstg-live-campaign"
  requestTimeoutSeconds : ℚ := 5
  maxActions : Option ℤ := none
  proofRequestLimit : ℤ := 20

namespace WSTGLiveCampaignConfig

/-- Source: `wstg_live_campaign.WSTGLiveCampaignConfig.__post_init__` -/
def postInit (config : WSTGLiveCampaignConfig) : Except Exc Unit := do
  guardE (decide (0 < config.requestTimeoutSeconds) && decide (config.requestTimeoutSeconds ≤ 30))
    (liveError "request timeout must be positive and bounded")
  guardE (config.maxActions.all fun n =>
      decide (1 ≤ n) && decide (n ≤ config.targetRuntime.maxActions))
    (liveError "max_actions must be within target runtime bounds")
  guardE (decide (1 ≤ config.proofRequestLimit) && decide (config.proofRequestLimit ≤ 100))
    (liveError "proof_request_limit must be between 1 and 100")

/-- `config.max_actions or runtime.max_actions`. -/
def actionLimit (config : WSTGLiveCampaignConfig) : ℤ :=
  match config.maxActions with
  | none | some 0 => config.targetRuntime.maxActions
  | some n => n

end WSTGLiveCampaignConfig

/-! ### The surroundings -/

/-- A file, as its text or, where it is none that the harness wrote, as its digest. -/
inductive StoredFile where
  | text (content : String)
  | foreign (sha256 : String)

/-- Source: `evidence_writer._sha256_file` -/
def StoredFile.sha256 (rt : Runtime) : StoredFile → String
  | .text content => rt.sha256 content
  | .foreign sha256 => sha256

/-- What becomes of a file that is written: its digest, or what a failure leaves of it. -/
inductive WriteAnswer where
  | written (sha256 : String)
  | failed (left : Option StoredFile) (e : Exc)

/-- What the harness asks of its surroundings. -/
inductive LiveOp where
  /-- The executor of an action. -/
  | fetch (action : PlannedAction)
  /-- `path.write_text(…)` below the root, and `_sha256_file(path)` -/
  | write (parts : List String) (content : String)
  /-- The files below the root that are not named `SHA256SUMS`, in order, with their digests -/
  | listing

/-- The answers. -/
abbrev LiveRes : LiveOp → Type
  | .fetch _ => Except Exc WSTGLiveObservation
  | .write _ _ => WriteAnswer
  | .listing => Except Exc (List (List String × String))

/-- A performed operation. -/
abbrev LiveStep := Effects.Step LiveOp LiveRes

/-- The variables of a campaign.
Source: `campaigns.campaign_state.WSTGLiveCampaignState`,
`evidence_writer.CampaignEvidenceWriter.artifacts`,
`wstg_live_campaign.run_wstg_live_campaign`, `observations` -/
structure LiveState where
  artifacts : Dict := []
  executedActions : ℕ := 0
  /-- A set. -/
  observedWstgIds : List String := []
  decisions : List CampaignDecision := []
  findingIds : List String := []
  proofRequestIds : List String := []
  observations : List WSTGLiveObservation := []

/-- Code of the harness. -/
abbrev LiveCode := Proc LiveOp LiveRes Exc LiveState

/-! ### The evidence writer -/

/-- Source: `evidence_writer.CampaignEvidenceError` -/
def evidenceWriterError (message : String) : Exc := .custom "CampaignEvidenceError" message

/-- The components of a path below the root; no link leads out of it.
Source: `evidence_writer.CampaignEvidenceWriter._safe_path` -/
def safePath (relative : String) : Except Exc (List String) := do
  guardE (!leavesDirectory relative)
    (evidenceWriterError "evidence path must be relative and cannot escape the root")
  pure (pathParts relative)

/-- Source: `evidence_writer.CampaignEvidenceWriter.write_text` -/
def writeText (relative payload : String) : LiveCode String := do
  let parts ← attempt (safePath relative)
  let answer ← call (LiveOp.write parts payload)
  match answer with
  | .written sha256 =>
    modify fun s => { s with artifacts := dset s.artifacts relative (.str sha256) }
    pure relative
  | .failed _ e => throw e

/-- Source: `evidence_writer.CampaignEvidenceWriter.write_json` -/
def jsonText (rt : Runtime) (payload : Json) : String := payload.dumpsIndented rt ++ "\n"

/-- Source: `evidence_writer.CampaignEvidenceWriter.write_json` -/
def writeJson (rt : Runtime) (relative : String) (payload : Json) : LiveCode String :=
  writeText relative (jsonText rt payload)

/-- Source: `evidence_writer.CampaignEvidenceWriter.write_jsonl` -/
def writeJsonl (rt : Runtime) (relative : String) (rows : List Json) : LiveCode String :=
  writeText relative (String.join (rows.map fun row => row.dumps rt .spaced ++ "\n"))

/-- The name of a path relative to the root. -/
def relativeName (parts : List String) : String := String.intercalate "/" parts

/-- The text of `SHA256SUMS`. -/
def sumsText (found : List (List String × String)) : String :=
  String.join (found.map fun f => f.2 ++ "  " ++ relativeName f.1 ++ "\n")

/-- The digests of a listing, kept under the names of its files. -/
def listed (artifacts : Dict) (found : List (List String × String)) : Dict :=
  found.foldl (fun artifacts f => dset artifacts (relativeName f.1) (.str f.2)) artifacts

/-- Source: `evidence_writer.CampaignEvidenceWriter.write_sha256s` -/
def writeSha256s : LiveCode String := do
  let answer ← call LiveOp.listing
  let found ← attempt answer
  modify fun s => { s with artifacts := listed s.artifacts found }
  writeText "SHA256SUMS" (sumsText found)

/-! ### What is written -/

def WSTGPlanDisposition.value : WSTGPlanDisposition → String
  | .ready => "ready"
  | .deferred => "deferred"
  | .denied => "denied"

def WSTGSafetyTier.value : WSTGSafetyTier → String
  | .passive => "passive"
  | .safeActive => "safe_active"
  | .intrusiveActive => "intrusive_active"
  | .destructiveDenied => "destructive_denied"

def WSTGAuthRequirement.value : WSTGAuthRequirement → String
  | .anonymous => "anonymous"
  | .authenticated => "authenticated"
  | .multiRole => "multi_role"
  | .privileged => "privileged"
  | .sourceAssisted => "source_assisted"

def WSTGAdapterFamily.value : WSTGAdapterFamily → String
  | .http => "http"
  | .browser => "browser"
  | .proxy => "proxy"
  | .tls => "tls"
  | .api => "api"
  | .sourceReview => "source_review"
  | .manual => "manual"
  | .multiStep => "multi_step"

/-- Source: `wstg.engine.WSTGPlannedTest.as_dict` -/
def WSTGPlannedTest.asDict (item : WSTGPlannedTest) : Json :=
  let case := item.testCase.val
  .obj [("objective_id", .str item.objectiveId), ("wstg_id", .str case.wstgId),
    ("title", .str case.title), ("category", .str case.category),
    ("category_name", .str case.categoryName), ("disposition", .str item.disposition.value),
    ("reasons", jsonTexts item.reasons), ("adapter_family", .str case.adapterFamily.value),
    ("safety_tier", .str case.safetyTier.value),
    ("auth_requirement", .str case.authRequirement.value),
    ("evidence_required", jsonTexts case.evidenceRequired),
    ("arguments", .obj (item.arguments.map fun e => (e.1, .str e.2)))]

/-- How many of some tests have each disposition. -/
def dispositionCounts (tests : List WSTGPlannedTest) : Json :=
  .obj ([WSTGPlanDisposition.ready, .deferred, .denied].map fun disposition =>
    (disposition.value, .int (tests.countP fun t => t.disposition = disposition)))

/-- Source: `wstg.engine.WSTGEnginePlan.coverage_summary` -/
def WSTGEnginePlan.coverageSummary (plan : WSTGEnginePlan) : Json :=
  let categories := fromkeys (plan.plannedTests.map fun t => t.testCase.val.category)
  .obj [("total", .int plan.plannedTests.length),
    ("statuses", dispositionCounts plan.plannedTests),
    ("categories", .obj (categories.map fun category => (category, dispositionCounts
      (plan.plannedTests.filter fun t => t.testCase.val.category = category))))]

/-- Source: `wstg.engine.WSTGEnginePlan.as_dict` -/
def WSTGEnginePlan.asDict (plan : WSTGEnginePlan) : Json :=
  .obj [("campaign_id", .str plan.campaignId), ("target_alias", .str plan.targetAlias),
    ("base_url", .str plan.baseUrl), ("authorization_reference", .str plan.authorizationReference),
    ("catalog_version", .str plan.catalogVersion), ("coverage_summary", plan.coverageSummary),
    ("planned_tests", .arr (plan.plannedTests.map WSTGPlannedTest.asDict))]

/-- Source: `execution_planner.CampaignAction.as_dict` -/
def PlannedAction.asDict (action : PlannedAction) : Json :=
  .obj [("action_id", .str action.actionId), ("action_type", .str action.actionType),
    ("tool_name", .str action.toolName), ("method", .str action.method),
    ("path", .str action.path), ("wstg_ids", jsonTexts action.wstgIds),
    ("objective_ids", jsonTexts action.objectiveIds), ("reason", .str action.reason),
    ("requires_human_approval", .bool action.requiresHumanApproval),
    ("state_changing", .bool action.stateChanging)]

/-- Source: `execution_planner.ExecutionPlan.as_dict` -/
def ExecutionPlan.asDict (plan : ExecutionPlan) : Json :=
  .obj [("actions", .arr (plan.actions.map PlannedAction.asDict)),
    ("blocked_objectives", .arr (plan.blockedObjectives.map fun item =>
      .obj [("objective_id", .str item.objectiveId), ("wstg_id", .str item.wstgId),
        ("disposition", .str item.disposition.value), ("reasons", jsonTexts item.reasons)]))]

/-- Source: `wstg_live_campaign.WSTGLiveObservation.as_dict` -/
def WSTGLiveObservation.asDict (o : WSTGLiveObservation) : Json :=
  .obj [("action_id", .str o.actionId), ("method", .str o.method), ("url", .str o.url),
    ("status_code", .int o.statusCode), ("reason", .str o.reason),
    ("headers", .obj (o.headers.map fun h => (h.1, .str h.2))),
    ("content_type", .str o.contentType), ("body_sha256", .str o.bodySha256),
    ("body_excerpt", .str o.bodyExcerpt), ("body_size_bytes", .int o.bodySizeBytes),
    ("elapsed_ms", .int o.elapsedMs), ("wstg_ids", jsonTexts o.wstgIds),
    ("error", match o.error with | some error => .str error | none => .null)]

/-- A campaign, as it is planned. -/
structure PlannedCampaign where
  config : WSTGLiveCampaignConfig
  plan : WSTGEnginePlan
  queue : ExecutionPlan

namespace PlannedCampaign

/-- The actions that are taken. -/
def actions (campaign : PlannedCampaign) : List PlannedAction :=
  sliceTo campaign.queue.actions campaign.config.actionLimit

/-- Source: `campaigns.campaign_state.WSTGLiveCampaignState.as_dict` -/
def stateDict (campaign : PlannedCampaign) (s : LiveState) : Json :=
  .obj [("campaign_id", .str campaign.config.campaignId),
    ("target_alias", .str campaign.config.targetRuntime.targetAlias),
    ("base_url", .str campaign.config.targetRuntime.normalizedBaseUrl),
    ("planned_objectives", .int campaign.plan.plannedTests.length),
    ("queued_actions", .int campaign.queue.actions.length),
    ("executed_actions", .int s.executedActions),
    ("observed_wstg_ids", jsonTexts (sortedTexts s.observedWstgIds)),
    ("decisions", .arr (s.decisions.map CampaignDecision.asDict)),
    ("finding_ids", jsonTexts s.findingIds), ("proof_request_ids", jsonTexts s.proofRequestIds)]

end PlannedCampaign

/-- Source: `wstg_live_campaign.WSTGLiveCampaignResult` -/
structure WSTGLiveCampaignResult where
  campaignId : String
  targetAlias : String
  baseUrl : String
  evidenceDir : String
  requestCount : ℕ
  observedWstgIds : List String
  decisions : List CampaignDecision
  observations : List WSTGLiveObservation
  findings : List CampaignFinding
  proofRequests : List ProofRequest
  benchmarkComparison : Option Dict
  artifacts : Dict

/-- Source: `wstg_live_campaign.WSTGLiveCampaignResult.as_dict` -/
def WSTGLiveCampaignResult.asDict (r : WSTGLiveCampaignResult) : Json :=
  .obj [("campaign_id", .str r.campaignId), ("target_alias", .str r.targetAlias),
    ("base_url", .str r.baseUrl), ("evidence_dir", .str r.evidenceDir),
    ("request_count", .int r.requestCount), ("observed_wstg_ids", jsonTexts r.observedWstgIds),
    ("decisions", .arr (r.decisions.map CampaignDecision.asDict)),
    ("observations", .arr (r.observations.map WSTGLiveObservation.asDict)),
    ("findings", .arr (r.findings.map CampaignFinding.asDict)),
    ("proof_requests", .arr (r.proofRequests.map ProofRequest.asDict)),
    ("benchmark_comparison", match r.benchmarkComparison with
      | some comparison => .obj comparison
      | none => .null),
    ("artifacts", .obj r.artifacts)]

/-! ### The parts of a campaign -/

/-- Record a completed decision; the first one has step 1.
Source: `wstg_live_campaign.run_wstg_live_campaign`, the calls of `state.record_decision` -/
def conclude (agent action reason : String) (wstgIds evidenceRefs : List String) : LiveCode Unit := do
  let s ← get
  let decision : CampaignDecision :=
    { step := s.decisions.length + 1, agent := agent, action := action, reason := reason
      status := .completed, wstgIds := wstgIds, evidenceRefs := evidenceRefs }
  attempt decision.postInit
  modify fun s => { s with decisions := s.decisions ++ [decision] }

variable (lib : LiveLibrary)

/-- The plan and the queue of actions, written down before anything is sent.
Source: `wstg_live_campaign.run_wstg_live_campaign`, up to the first decision -/
def preparePlan (catalog : WSTGCatalog) (config : WSTGLiveCampaignConfig) :
    LiveCode PlannedCampaign := do
  let urls := splitUrls lib.host
  let profile ← attempt (config.targetRuntime.buildWstgProfile urls config.campaignId)
  let plan ← attempt (buildWstgEnginePlan urls profile catalog)
  let planRef ← writeJson lib.rt "campaign/plan.json" plan.asDict
  let queue ← attempt
    (planCampaignActions lib.host plan config.targetRuntime.toCampaignTargetRuntime)
  let actionRef ← writeJson lib.rt "campaign/action-queue.json" queue.asDict
  conclude "campaign-lead-agent" "build_generic_wstg_plan"
    "generic WSTG planning must complete before live target interaction" [] [planRef, actionRef]
  pure ⟨config, plan, queue⟩

/-- The decision to take an action. -/
def startedDecision (step : ℕ) (action : PlannedAction) : CampaignDecision where
  step := step
  agent := "execution-planner-agent"
  action := action.actionType
  reason := action.reason
  status := .started
  wstgIds := action.wstgIds

/-- The name of the file of an observation. -/
def observationName (action : PlannedAction) : String :=
  "observations/" ++ action.actionId ++ ".json"

/-- The decision, once the action is taken. -/
def takenDecision (step : ℕ) (action : PlannedAction) (observation : WSTGLiveObservation) :
    CampaignDecision where
  step := step
  agent := "execution-planner-agent"
  action := action.actionType
  reason := action.reason
  status := if observation.ok then .completed else .observedError
  wstgIds := observation.wstgIds
  evidenceRefs := [observationName action]

/-- Source: `wstg_live_campaign.run_wstg_live_campaign`, the body of the loop -/
def runAction (action : PlannedAction) : LiveCode Unit := do
  let s ← get
  let step := s.decisions.length + 1
  attempt (startedDecision step action).postInit
  modify fun s => { s with decisions := s.decisions ++ [startedDecision step action] }
  let answer ← call (LiveOp.fetch action)
  let observation ← attempt answer
  modify fun s => { s with observations := s.observations ++ [observation] }
  let _ ← writeJson lib.rt (observationName action) observation.asDict
  modify fun s => { s with
    executedActions := s.executedActions + 1
    observedWstgIds := s.observedWstgIds ++ observation.wstgIds }
  attempt (takenDecision step action observation).postInit
  modify fun s => { s with
    decisions := s.decisions.dropLast ++ [takenDecision step action observation] }

/-- Source: `wstg_live_campaign.run_wstg_live_campaign`, the loop -/
def runActions : List PlannedAction → LiveCode Unit
  | [] => pure ()
  | action :: rest => do
    runAction lib action
    runActions rest

/-- Source: `wstg_live_campaign.run_wstg_live_campaign`, `surface` -/
def deriveSurface : LiveCode Surface := do
  let s ← get
  let root ← attempt (rootObservation lib.host s.observations)
  let surface := extractSurface lib root
  let surfaceRef ← writeJson lib.rt "surface/discovered-surface.json" surface.asDict
  conclude "evidence-auditor-agent" "derive_surface_inventory"
    "observed HTML and JSON metadata determine which proof is still missing"
    (sortedTexts s.observedWstgIds) [surfaceRef]
  pure surface

/-- Source: `wstg_live_campaign.run_wstg_live_campaign`, `findings` -/
def bindFindings (surface : Surface) : LiveCode (List CampaignFinding) := do
  let s ← get
  let findings ← attempt (candidateFindings lib s.observations surface)
  let findingRef ← writeJson lib.rt "findings/candidate-findings.json"
    (.arr (findings.map CampaignFinding.asDict))
  modify fun s => { s with findingIds := s.findingIds ++ findings.map (·.findingId) }
  conclude "evidence-auditor-agent" "create_evidence_bound_candidates"
    "observations can only become candidates or proof requests, not validated claims"
    (sortedTexts (findings.flatMap (·.wstgIds))) [findingRef]
  pure findings

/-- Source: `wstg_live_campaign.run_wstg_live_campaign`, `proof_requests` -/
def requestProof (campaign : PlannedCampaign) : LiveCode (List ProofRequest) := do
  let s ← get
  let requests ← attempt (buildProofRequests lib.rt.lower campaign.plan s.observedWstgIds
    campaign.config.proofRequestLimit)
  let proofRef ← writeJson lib.rt "proof-requests/proof-requests.json"
    (.arr (requests.map ProofRequest.asDict))
  modify fun s => { s with proofRequestIds := s.proofRequestIds ++ requests.map (·.proofRequestId) }
  conclude "campaign-lead-agent" "request_missing_proof"
    "unproven objectives remain proof requests instead of reportable vulnerabilities"
    (requests.map (·.wstgId)) [proofRef]
  pure requests

/-- `benchmark or {"benchmark": "not_configured"}`. -/
def benchmarkDict : Option Dict → Dict
  | none | some [] => [("benchmark", .str "not_configured")]
  | some comparison => comparison

/-- Source: `wstg_live_campaign.run_wstg_live_campaign`, `benchmark` to `final_state_ref` -/
def writePackage (campaign : PlannedCampaign) (findings : List CampaignFinding)
    (requests : List ProofRequest) : LiveCode (Option Dict × String) := do
  let s ← get
  let benchmark ← attempt (campaign.config.targetRuntime.benchmarkComparator.mapM fun compare =>
    compare (sortedTexts s.observedWstgIds))
  let benchmarkRef ← writeJson lib.rt "reports/benchmark-comparison.json"
    (.obj (benchmarkDict benchmark))
  let stateRef ← writeJson lib.rt "state/campaign-state.json" (campaign.stateDict s)
  let decisionsRef ← writeJsonl lib.rt "agent-decisions.jsonl"
    (s.decisions.map CampaignDecision.asDict)
  let observationIndexRef ← writeJson lib.rt "observations/http-observations.json"
    (.arr (s.observations.map WSTGLiveObservation.asDict))
  let report ← attempt (renderReport lib.rt
    { campaignId := campaign.config.campaignId
      targetAlias := campaign.config.targetRuntime.targetAlias
      planTotal := campaign.plan.plannedTests.length
      readyTotal := (readyTests campaign.plan.plannedTests).length
      observations := s.observations, findings := findings, proofRequests := requests
      benchmark := benchmark })
  let reportRef ← writeText "reports/campaign-report.md" report
  conclude "campaign-lead-agent" "write_campaign_package"
    ("campaign package records observations, candidate findings, proof gaps, benchmark comparison, " ++
      "and hashes")
    (sortedTexts s.observedWstgIds)
    [benchmarkRef, stateRef, decisionsRef, observationIndexRef, reportRef]
  let s ← get
  let finalStateRef ← writeJson lib.rt "state/final-campaign-state.json" (campaign.stateDict s)
  pure (benchmark, finalStateRef)

/-- Source: `wstg_live_campaign.run_wstg_live_campaign`, from the first `write_sha256s` -/
def sealPackage (campaign : PlannedCampaign) (findings : List CampaignFinding)
    (requests : List ProofRequest) (benchmark : Option Dict) (finalStateRef : String) :
    LiveCode WSTGLiveCampaignResult := do
  let _ ← writeSha256s
  let s ← get
  let result : WSTGLiveCampaignResult :=
    { campaignId := campaign.config.campaignId
      targetAlias := campaign.config.targetRuntime.targetAlias
      baseUrl := campaign.config.targetRuntime.normalizedBaseUrl
      evidenceDir := campaign.config.evidenceDir
      requestCount := s.observations.length
      observedWstgIds := sortedTexts s.observedWstgIds
      decisions := s.decisions, observations := s.observations, findings := findings
      proofRequests := requests, benchmarkComparison := benchmark
      artifacts := dset s.artifacts finalStateRef (dget s.artifacts finalStateRef) }
  let _ ← writeJson lib.rt "campaign-result.json" result.asDict
  let _ ← writeSha256s
  pure result

/-- Source: `wstg_live_campaign.run_wstg_live_campaign` -/
def runWstgLiveCampaign (catalog : WSTGCatalog) (config : WSTGLiveCampaignConfig) :
    LiveCode WSTGLiveCampaignResult := do
  let campaign ← preparePlan lib catalog config
  runActions lib campaign.actions
  let surface ← deriveSurface lib
  let findings ← bindFindings lib surface
  let requests ← requestProof lib campaign
  let (benchmark, finalStateRef) ← writePackage lib campaign findings requests
  sealPackage lib campaign findings requests benchmark finalStateRef

end Aotp.Wstg
