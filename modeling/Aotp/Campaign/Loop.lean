import Aotp.Campaign.Control
import Aotp.Campaign.Scheduler
import Aotp.Gate.PolicyGate

/-!
# The campaign loop

* `runCampaign` — one invocation: the state is made or checked, the log verified or begun, and the
  pending objectives are dispatched in schedule order until one of them stops or pauses the
  campaign, the steps run out, or none is left.
* `recordPreExecutionStop`, `recordPanelLockoutPause`, `recordFuzzingConditionStop` — the exits
  before an objective is dispatched.
* `dispatchObjective` — gate, executor, evidence, accounting and event of one objective, and the
  four ways it leaves the campaign.
-/

namespace Aotp.Campaign

open PyData Aotp.Gate Effects

/-- The arguments of an invocation beyond the campaign.
Source: `campaign_loop.run_campaign` -/
structure RunArgs where
  scope : Dict
  programProfile : Option Dict := none
  operatorApproval : Option Dict := none
  live : Bool := false
  operatorApproved : Bool := false
  maxSteps : Option ℤ := none

variable (site : Site)

/-! ### Subscripts and counters -/

/-- `x[key]`. -/
def subscript (x : Json) (key : String) : Except Exc Json :=
  match x with
  | .obj m =>
    match dget? m key with
    | some v => .ok v
    | none => .error (.keyError key)
  | _ => .error .typeError

/-- `counters[key]`. -/
def counterAt (counters : List (String × ℤ)) (key : String) : Except Exc ℤ :=
  match counters.lookup key with
  | some n => .ok n
  | none => .error (.keyError key)

/-- `counters[key] = n`. -/
def setCounter (key : String) (n : ℤ) : List (String × ℤ) → List (String × ℤ)
  | [] => [(key, n)]
  | c :: cs => if c.1 = key then (key, n) :: cs else c :: setCounter key n cs

/-- `counters.setdefault(key, 0)` for each key. -/
def setDefaults (counters : List (String × ℤ)) : List String → List (String × ℤ)
  | [] => counters
  | key :: keys =>
    setDefaults (if (counters.lookup key).isSome then counters else counters ++ [(key, 0)]) keys

/-- A family of counters as a JSON mapping. -/
def countersJson (counters : List (String × ℤ)) : Json :=
  .obj (counters.map fun c => (c.1, .int c.2))

/-! ### Evidence -/

/-- `str(x.get(key, default))` of a subscript of the scope. -/
def referenceOf (scope : Dict) (sectionName : String) : Except Exc String := do
  let body ← subscript (.obj scope) sectionName
  let m ← body.attrs
  pure (pyStr site.rt (dgetD m "reference" (.str "")))

/-- Source: `campaign_loop._run_id` -/
def runId (s : CampaignState) (iterationId objectiveId : String) : String :=
  site.uuid5 (s.campaignId ++ ":" ++ s.scopeFileHash ++ ":" ++ iterationId ++ ":" ++ objectiveId)

/-- What one manifest says beyond the objective and the scope. -/
structure ManifestInput where
  tool : String
  verdict : Verdict
  moduleName : String
  executionMode : String
  policyDecision : String
  requestCount : ℤ := 0
  responseMetadata : Dict
  withWstgMapping : Bool := true

/-- The manifest of one iteration.
Source: `campaign_loop`, the `EvidenceManifest` calls -/
def manifestOf (s : CampaignState) (scope objective : Dict) (timestamp objectiveId : String)
    (m : ManifestInput) : Except Exc Dict := do
  let sponsor ← subscript (.obj scope) "sponsor_alias"
  let authorization ← subscript (.obj scope) "authorization"
  let authorizationReference ← referenceOf site scope "authorization"
  let roeReference ← referenceOf site scope "rules_of_engagement"
  let authorization ← authorization.attrs
  let confidentiality ← (dgetD authorization "confidentiality" (.obj [])).attrs
  let wstg ← if m.withWstgMapping then (dgetD objective "wstg_mapping" (.arr [])).iter else pure []
  let artifacts ← (dgetD objective "artifact_mapping" (.arr [])).iter
  let iterationId := fmt04 s.nextIteration
  pure [("run_id", .str (runId site s iterationId objectiveId)),
    ("timestamp_utc", .str timestamp),
    ("operator", .str (pyStr site.rt (dgetD scope "operator_alias" (.str "operator")))),
    ("sponsor_alias", sponsor),
    ("target_alias", .str (pyStr site.rt (dgetD objective "target_alias" (.str "none")))),
    ("authorization_reference", .str authorizationReference),
    ("rules_of_engagement_reference", .str roeReference),
    ("confidentiality_reference", dget confidentiality "reference"),
    ("case_id", .str objectiveId),
    ("tool", .str m.tool),
    ("verifier_verdict", .str m.verdict.text),
    ("confidence", .str "not_assessed"),
    ("campaign_id", .str s.campaignId),
    ("campaign_iteration_id", .str iterationId),
    ("parent_test_objective", .str (pyStr site.rt (dgetD objective "title" (.str objectiveId)))),
    ("module_name", .str m.moduleName),
    ("wstg_mapping", .arr wstg),
    ("artifact_mapping", .arr artifacts),
    ("target_category",
      .str (pyStr site.rt (dgetD objective "target_category" (.str "placeholder")))),
    ("execution_mode", .str m.executionMode),
    ("policy_decision", .str m.policyDecision),
    ("request_count", .int m.requestCount),
    ("response_metadata", .obj m.responseMetadata)]

/-- `Path(scope["evidence"]["workspace"])`, under the workspace unless it is absolute.
Source: `campaign_loop.run_campaign`, `base_evidence` -/
def baseEvidence (scope : Dict) : Except Exc PurePath := do
  let evidence ← subscript (.obj scope) "evidence"
  let workspace ← subscript evidence "workspace"
  match workspace with
  | .str w => pure (site.root.join w)
  | _ => throw .typeError

/-- The evidence directory of the next iteration. -/
def evidenceDir (base : PurePath) (s : CampaignState) : PurePath :=
  (base.join s.campaignId).join (fmt04 s.nextIteration)

/-- `str(evidence_dir.relative_to(root))`. -/
def relativeEvidence (dir : PurePath) : Except Exc String :=
  match dir.relativeTo site.root with
  | some p => .ok p.text
  | none => .error (.valueError "evidence directory is not in the subpath of the workspace")

/-- Write the evidence of an iteration; its directory, relative to the workspace. -/
def writeIteration (base : PurePath) (manifest : Dict) (record : Option Dict) :
    Code CampaignState String := do
  let s ← get
  let dir := evidenceDir base s
  let written ← call (Op.writeEvidence dir.text manifest record)
  let _ ← attempt written
  attempt (relativeEvidence site dir)

/-! ### Exits before dispatch -/

/-- `str(objective.get("module", ""))`. -/
def moduleNameOf (objective : Dict) : String :=
  pyStr site.rt (dgetD objective "module" (.str ""))

/-- The objective is stopped before it runs: the campaign moves on to its next iteration number.
Source: `campaign_loop._record_pre_execution_stop`, `campaign_loop._record_fuzzing_condition_stop` -/
def CampaignState.stoppedBefore (s : CampaignState) (id evidence : String) (reasons : List String) :
    CampaignState :=
  { s with
    evidenceDirectories := s.evidenceDirectories ++ [evidence]
    pendingModules := s.pendingModules.erase id
    stoppedModules := s.stoppedModules ++ [id]
    currentObjectiveId := none
    stopConditionHistory := s.stopConditionHistory ++ reasons
    nextIteration := s.nextIteration + 1 }

/-- Source: `campaign_loop._record_pre_execution_stop` -/
def recordPreExecutionStop (args : RunArgs) (base : PurePath) (objective : Dict) (id reason : String) :
    Code CampaignState Unit := do
  let s ← get
  let now ← call Op.utcNow
  let manifest ← attempt (manifestOf site s args.scope objective now id
    { tool := "safety-budget", verdict := .stoppedByPolicy, moduleName := moduleNameOf site objective
      executionMode := "not_executed", policyDecision := "stopped by " ++ reason
      responseMetadata := [("stop_condition", .str reason)] })
  let evidence ← writeIteration site base manifest none
  let _ ← attempt (removeFrom s.pendingModules id)
  modify fun s => s.stoppedBefore id evidence [reason]
  appendCampaignEvent site
    { eventType := "campaign_stop", iterationId := fmt04 s.nextIteration, objectiveId := some id
      moduleName := some (moduleNameOf site objective)
      policyDecision := some ("stopped by " ++ reason)
      outcome := Verdict.stoppedByPolicy.text, evidenceDirectory := some evidence
      details := [("stop_condition", .str reason)] }

/-- The objective waits for a human before it runs.
Source: `campaign_loop._record_panel_lockout_pause` -/
def CampaignState.pausedBefore (s : CampaignState) (id evidence : String) : CampaignState :=
  { s with
    evidenceDirectories := s.evidenceDirectories ++ [evidence]
    currentObjectiveId := some id
    currentStatus := .pausedForHumanReview
    pendingReview := some [("objective_id", .str id), ("phase", .str "pre_execution"),
      ("reason", .str "authentication lockout risk requires human review"),
      ("stop_condition", .str "authentication_lockout_risk"),
      ("evidence_directory", .str evidence)]
    stopConditionHistory := s.stopConditionHistory ++ [id ++ ": authentication_lockout_risk"]
    nextIteration := s.nextIteration + 1 }

/-- Source: `campaign_loop._record_panel_lockout_pause` -/
def recordPanelLockoutPause (args : RunArgs) (base : PurePath) (objective : Dict) (id : String) :
    Code CampaignState Unit := do
  let s ← get
  let now ← call Op.utcNow
  let manifest ← attempt (manifestOf site s args.scope objective now id
    { tool := "panel-lockout-risk-gate", verdict := .manualReview
      moduleName := moduleNameOf site objective, executionMode := "not_executed"
      policyDecision := "paused by authentication_lockout_risk"
      responseMetadata := [("stop_condition", .str "authentication_lockout_risk"),
        ("status", .str "paused before execution for explicit human review")]
      withWstgMapping := false })
  let evidence ← writeIteration site base manifest none
  modify fun s => s.pausedBefore id evidence
  appendCampaignEvent site
    { eventType := "campaign_paused", iterationId := fmt04 s.nextIteration, objectiveId := some id
      moduleName := some (moduleNameOf site objective)
      policyDecision := some "paused by authentication_lockout_risk"
      outcome := "paused_for_human_review", evidenceDirectory := some evidence
      details := [("phase", .str "pre_execution"),
        ("stop_condition", .str "authentication_lockout_risk")] }

/-- Source: `campaign_loop._record_fuzzing_condition_stop` -/
def recordFuzzingConditionStop (args : RunArgs) (base : PurePath) (objective : Dict) (id : String)
    (signals : List String) : Code CampaignState Unit := do
  let s ← get
  let ordered := sortedTexts signals
  let counters : Dict := [("stop_conditions", .arr (ordered.map .str)),
    ("request_counters", countersJson s.requestCounters),
    ("endpoint_request_counters", countersJson s.endpointRequestCounters),
    ("rate_limit_counters", countersJson s.rateLimitCounters)]
  let now ← call Op.utcNow
  let manifest ← attempt (manifestOf site s args.scope objective now id
    { tool := "bounded-fuzzing-safety-stop", verdict := .stoppedByPolicy
      moduleName := "bounded_fuzzing", executionMode := "not_executed"
      policyDecision := "stopped by fuzzing safety condition"
      responseMetadata := counters ++ [("consecutive_failures", .int s.consecutiveFailures)]
      withWstgMapping := false })
  let evidence ← writeIteration site base manifest none
  let _ ← attempt (removeFrom s.pendingModules id)
  modify fun s => { s.stoppedBefore id evidence ordered with currentStatus := .stoppedByCondition }
  appendCampaignEvent site
    { eventType := "campaign_stop", iterationId := fmt04 s.nextIteration, objectiveId := some id
      moduleName := some "bounded_fuzzing"
      policyDecision := some "stopped by fuzzing safety condition"
      outcome := "stopped_by_condition", evidenceDirectory := some evidence, details := counters }

/-! ### Dispatch -/

/-- The state while an objective is dispatched. -/
def CampaignState.dispatching (s : CampaignState) (id : String) : CampaignState :=
  { s with currentObjectiveId := some id }

/-- The decision denies for want of human approval and for nothing else.
Source: `campaign_loop.run_campaign`, `human_gate_only` -/
def humanGateOnly (decision : PolicyDecision) : Bool :=
  !decision.allowed && decision.reasons == ["human approval is required"]

/-- Source: `campaign_loop.run_campaign`, `outcome` -/
def outcomeOf (decision : PolicyDecision) (result : Option ExecutionResult) : Verdict :=
  match result with
  | some r => r.verdict
  | none => if humanGateOnly decision then .manualReview else .stoppedByPolicy

/-- The fields of the manifest that name the record of a category.
Source: `campaign_loop.run_campaign`, the four record blocks -/
def manifestExtras (objective : Dict) (result : ExecutionResult) : Dict :=
  if hasCategory objective "bounded_fuzzing" then
    match dget (mappingOf (dget result.responseMetadata "fuzzing_plan")) "corpus_reference" with
    | .obj reference =>
      [("fuzzing_corpus_reference", .str (pyStr site.rt (dgetD reference "alias" (.str ""))))]
    | _ => []
  else if hasCategory objective "sbom_review" then
    [("sbom_artifact", .str (pyStr site.rt (dgetD objective "artifact" (.str ""))))]
  else if hasCategory objective "crypto_controls" then
    [("cryptographic_evidence", .str "crypto-evidence.json")]
  else []

/-- The endpoints a fuzzing objective names. -/
def endpointsOf (objective : Dict) : List String :=
  if hasCategory objective "bounded_fuzzing" then
    dkeys (mappingOf (dgetD objective "endpoint_request_budgets" (.obj [])))
  else []

/-- What a dispatch leaves in the counters of the state.
Source: `campaign_loop.run_campaign`, from `relative_evidence` to `consecutive_failures` -/
def CampaignState.accounted (s : CampaignState) (evidence : String) (total : ℤ)
    (endpoints : List String) (budget : SafetyBudget) : CampaignState :=
  { s with
    evidenceDirectories := if evidence ∈ s.evidenceDirectories then s.evidenceDirectories
      else s.evidenceDirectories ++ [evidence]
    requestCounters := setCounter "total" total s.requestCounters
    endpointRequestCounters := setDefaults s.endpointRequestCounters endpoints
    rateLimitCounters := setCounter "current_minute" budget.currentMinuteRequests s.rateLimitCounters
    consecutiveFailures := budget.consecutiveFailures }

/-- `state.next_iteration += 1`. -/
def CampaignState.advanced (s : CampaignState) : CampaignState :=
  { s with nextIteration := s.nextIteration + 1 }

/-- The campaign waits for a human.
Source: `campaign_loop.run_campaign`, `pending_review` -/
def CampaignState.pausedFor (s : CampaignState) (id phase reason evidence note : String) :
    CampaignState :=
  { s with
    currentStatus := .pausedForHumanReview
    pendingReview := some [("objective_id", .str id), ("phase", .str phase),
      ("reason", .str reason), ("evidence_directory", .str evidence)]
    stopConditionHistory := s.stopConditionHistory ++ [id ++ ": " ++ note] }

/-- The objective is denied by the gate, and the campaign ends.
Source: `campaign_loop.run_campaign`, `stopped_by_policy` -/
def CampaignState.deniedByGate (s : CampaignState) (id : String) (reasons : List String) :
    CampaignState :=
  { s with
    pendingModules := s.pendingModules.erase id
    stoppedModules := s.stoppedModules ++ [id]
    currentObjectiveId := none
    currentStatus := .stoppedByPolicy
    stopConditionHistory := s.stopConditionHistory ++ reasons }

/-- The objective is done, and the campaign goes on. -/
def CampaignState.objectiveDone (s : CampaignState) (id : String) : CampaignState :=
  { s with
    pendingModules := s.pendingModules.erase id
    completedModules := s.completedModules ++ [id]
    currentObjectiveId := none
    currentStatus := .running }

/-- The pause after a dispatch.
Source: `campaign_loop.run_campaign`, the two `campaign_paused` events -/
def pauseAfter (iterationId objectiveId phase reason evidence note : String) (objective : Dict) :
    Code CampaignState Unit := do
  modify fun s => s.pausedFor objectiveId phase reason evidence note
  appendCampaignEvent site
    { eventType := "campaign_paused", iterationId := iterationId, objectiveId := some objectiveId
      moduleName := some (moduleNameOf site objective), outcome := "paused_for_human_review"
      evidenceDirectory := some evidence, details := [("phase", .str phase)] }

/-- Where a dispatched objective goes.
Source: `campaign_loop.run_campaign`, from `if human_gate_only` -/
def settleObjective (iterationId id evidence : String) (objective : Dict)
    (decision : PolicyDecision) (outcome : Verdict) : Code CampaignState Unit := do
  if humanGateOnly decision then
    pauseAfter site iterationId id "pre_execution" "human approval is required" evidence
      "human approval required" objective
  else if !decision.allowed then
    let s ← get
    let _ ← attempt (removeFrom s.pendingModules id)
    modify fun s => s.deniedByGate id decision.reasons
  else if outcome = .manualReview then
    pauseAfter site iterationId id "post_execution" "manual review required after adapter execution"
      evidence "human review required" objective
  else
    let s ← get
    let _ ← attempt (removeFrom s.pendingModules id)
    modify fun s => s.objectiveDone id

/-- What the gate is asked with. -/
def gateInput (args : RunArgs) (s : CampaignState) (snapshot : Snapshot) : GateInput where
  programProfile := args.programProfile
  operatorApproval := args.operatorApproval
  scopeSha256 := some s.scopeFileHash
  campaignId := some s.campaignId
  live := args.live
  operatorApproved := args.operatorApproved
  now := snapshot.now
  insideWorkspace := snapshot.insideWorkspace

/-- The manifest of a dispatched objective. -/
def dispatchManifest (args : RunArgs) (objective : Dict) (decision : PolicyDecision)
    (result : Option ExecutionResult) : ManifestInput where
  tool := match result with
    | some r => r.tool
    | none => if humanGateOnly decision then "human-approval-gate" else "policy-gate"
  verdict := outcomeOf decision result
  moduleName := moduleNameOf site objective
  executionMode := if args.live then "live_stub" else "dry_run"
  policyDecision := decision.summary
  requestCount := match result with
    | some r => r.requestCount
    | none => 0
  responseMetadata := match result with
    | some r => r.responseMetadata
    | none => [("policy_reasons", .arr (decision.reasons.map .str))]

/-- The executor's result, for an allowed objective. -/
def executeAllowed (args : RunArgs) (objective : Dict) (decision : PolicyDecision) :
    Code CampaignState (Option ExecutionResult) := do
  if decision.allowed then
    let files ← call Op.artifactFiles
    let result ← attempt (execute site.rt files objective args.live)
    pure (some result)
  else pure none

/-- The evidence of a dispatched objective: its record, then its manifest. -/
def dispatchEvidence (args : RunArgs) (base : PurePath) (objective : Dict) (id : String)
    (decision : PolicyDecision) (result : Option ExecutionResult) : Code CampaignState String := do
  let s ← get
  let now ← call Op.utcNow
  let manifest ← attempt (manifestOf site s args.scope objective now id
    (dispatchManifest site args objective decision result))
  match result with
  | some r =>
    let record ← attempt (categoryRecord site.rt objective r decision.summary args.live)
    writeIteration site base (manifest ++ manifestExtras site objective r) record
  | none => writeIteration site base manifest none

/-- One objective from the gate to its event; the budget after it.
Source: `campaign_loop.run_campaign`, from `iteration_id` to the last branch -/
def dispatchObjective (args : RunArgs) (base : PurePath) (budget : SafetyBudget) (objective : Dict)
    (id : String) : Code CampaignState SafetyBudget := do
  modify fun s => s.dispatching id
  touch
  saveState
  let s ← get
  let snapshot ← call Op.observe
  let decision ← attempt (evaluate site.rt (some args.scope) objective (gateInput args s snapshot))
  let result ← executeAllowed site args objective decision
  let outcome := outcomeOf decision result
  let requests := (dispatchManifest site args objective decision result).requestCount
  let evidence ← dispatchEvidence site args base objective id decision result
  let total ← attempt (counterAt s.requestCounters "total")
  let budget ← attempt (budget.record requests
    (decide (outcome = .fail ∨ outcome = .stoppedByPolicy)))
  modify fun s => s.accounted evidence (total + requests) (endpointsOf objective) budget
  appendCampaignEvent site
    { eventType := "objective_result", iterationId := fmt04 s.nextIteration, objectiveId := some id
      moduleName := some (moduleNameOf site objective), policyDecision := some decision.summary
      outcome := outcome.text, evidenceDirectory := some evidence }
  modify CampaignState.advanced
  settleObjective site (fmt04 s.nextIteration) id evidence objective decision outcome
  pure budget

/-! ### The loop -/

/-- The clock of an invocation: when it started, and what had elapsed before. -/
structure Timing where
  started : ℚ
  before : ℚ

/-- `elapsed_before_invocation + (clock() - invocation_started)`. -/
def elapsed (timing : Timing) : Code CampaignState ℚ := do
  let t ← call Op.clock
  pure (timing.before + (t - timing.started))

/-- The objective as an invocation sees it: marked when a human approved it, and with the resolved
path of its artifact.
Source: `campaign_loop.run_campaign`, the head of the loop -/
def prepareObjective (configured : Dict) (id : String) : Code CampaignState Dict := do
  let s ← get
  let objective := if id ∈ s.reviewedObjectives
    then dset configured "human_approved" (.bool true) else configured
  match hasCategory objective "sbom_review", dget objective "artifact" with
  | true, .str artifact =>
    let path ← call (Op.resolveArtifact artifact)
    pure (dset objective "_resolved_artifact_path" (.str path))
  | _, _ => pure objective

/-- `int(objective["parameters"]["request_budget"])`. -/
def proposedRequests (objective : Dict) : Except Exc ℤ := do
  let parameters ← subscript (.obj objective) "parameters"
  let budget ← subscript parameters "request_budget"
  pyInt site.rt budget

/-- `max_steps is not None and steps >= max_steps`. -/
def stepsSpent (args : RunArgs) (steps : ℤ) : Bool := args.maxSteps.any (· ≤ steps)

/-- The objectives of an invocation, in order.
Source: `campaign_loop.run_campaign`, the `for` loop -/
def runLoop (args : RunArgs) (base : PurePath) (timing : Timing) :
    SafetyBudget → ℤ → List Dict → Code CampaignState Unit
  | _, _, [] => pure ()
  | budget, steps, configured :: rest => do
    let id ← attempt (objectiveIdOf site.rt configured)
    let s ← get
    if id ∈ s.pendingModules then
      let objective ← prepareObjective configured id
      if stepsSpent args steps then pure ()
      else if !(collectFuzzingStopSignals objective).isEmpty then
        recordFuzzingConditionStop site args base objective id (collectFuzzingStopSignals objective)
        touchAndSave
      else if panelLockoutRiskDetected objective && decide (id ∉ s.reviewedObjectives) then
        recordPanelLockoutPause site args base objective id
        touchAndSave
      else
        let now ← elapsed timing
        let proposed ← attempt (proposedRequests site objective)
        let reason ← attempt (budget.denialReason now proposed)
        if s.operatorStopRequested then
          modify fun s => { s with currentStatus := .stoppedByOperator }
          recordPreExecutionStop site args base objective id "operator_stop"
        else match reason with
          | some reason =>
            modify fun s => { s with currentStatus := .stoppedByBudget }
            recordPreExecutionStop site args base objective id reason
          | none =>
            let budget ← dispatchObjective site args base budget objective id
            let now ← elapsed timing
            modify fun s => { s with elapsedSeconds := now }
            touchAndSave
            let s ← get
            if s.currentStatus = .running then
              runLoop args base timing budget (steps + 1) rest
            else pure ()
    else runLoop args base timing budget steps rest

/-! ### The invocation -/

/-- `_mapping_hash(campaign)`.
Source: `campaign_loop._mapping_hash` -/
def mappingHash (rt : Runtime) (value : Dict) : String := digest rt (.obj value)

/-- `campaign["objectives"]`, each a mapping. -/
def rawObjectives (campaign : Dict) : Except Exc (List Dict) := do
  let objectives ← subscript (.obj campaign) "objectives"
  let items ← objectives.iter
  items.mapM Json.attrs

/-- The ids of some objectives, in order. -/
def idsOf (objectives : List Dict) : Except Exc (List String) :=
  objectives.mapM (objectiveIdOf site.rt)

/-- The state of a new campaign.
Source: `campaign_loop._initialize_state` -/
def initialState (scope campaign : Dict) (parsed : CampaignDefinition) (now scopeText : String)
    (ids : List String) : Except Exc CampaignState := do
  let roe ← referenceOf site scope "rules_of_engagement"
  let authorization ← referenceOf site scope "authorization"
  pure
    { campaignId := parsed.campaignId
      campaignName := parsed.name
      campaignDefinitionHash := mappingHash site.rt campaign
      scopeFileHash := site.rt.sha256 scopeText
      rulesOfEngagementReference := roe
      authorizationReference := authorization
      operatorAlias := pyStr site.rt (dgetD scope "operator_alias" (.str "operator"))
      startTime := now
      lastUpdatedTime := now
      currentStatus := .planned
      pendingModules := ids
      eventLogPath := some (".aotp/events/" ++ parsed.campaignId ++ ".jsonl") }

/-- Source: `campaign_loop._initialize_state` -/
def initializeState {S : Type} (scope campaign : Dict) : Code S CampaignState := do
  let parsed ← attempt (parseCampaign campaign)
  let now ← call Op.utcNow
  let objectives ← attempt (rawObjectives campaign)
  let ordered ← attempt (schedule site.rt objectives)
  let scopeText ← call Op.readScope
  let scopeText ← attempt scopeText
  let ids ← attempt (idsOf site ordered)
  attempt (initialState site scope campaign parsed now scopeText ids)

/-- The ids a state accounts for. -/
def CampaignState.allModules (s : CampaignState) : List String :=
  s.completedModules ++ s.pendingModules ++ s.skippedModules ++ s.stoppedModules

/-- Source: `campaign_loop._validate_resume_inputs` -/
def validateResumeInputs {S : Type} (s : CampaignState) (campaign : Dict) : Code S Unit := do
  let scopeText ← call Op.readScope
  let scopeText ← attempt scopeText
  attempt (guardE (s.scopeFileHash == site.rt.sha256 scopeText)
    (.valueError "scope file hash does not match campaign state"))
  attempt (guardE (s.campaignDefinitionHash == mappingHash site.rt campaign)
    (.valueError "campaign definition hash does not match campaign state"))
  let objectives ← attempt (rawObjectives campaign)
  let ids ← attempt (idsOf site objectives)
  attempt (guardE (s.allModules.all (· ∈ ids))
    (.valueError "campaign state contains objectives absent from campaign definition"))
  attempt (guardE (s.currentStatus == .running || s.currentStatus == .readyToResume ||
      s.currentStatus == .planned)
    (.valueError ("campaign state cannot execute from status: " ++ s.currentStatus.text)))

/-- The budget of an invocation, with what the state has already spent.
Source: `campaign_loop.run_campaign`, `budget` -/
def budgetOf (limits : CampaignLimits) (scope : Dict) (s : CampaignState) :
    Except Exc SafetyBudget := do
  let rates ← subscript (.obj scope) "rate_limits"
  let maxRequests ← subscript rates "max_requests"
  let maxRequests ← pyInt site.rt maxRequests
  let perMinute ← subscript rates "requests_per_minute"
  let perMinute ← pyInt site.rt perMinute
  let total ← counterAt s.requestCounters "total"
  let currentMinute ← counterAt s.rateLimitCounters "current_minute"
  pure
    { maxIterations := limits.maxIterations
      maxRuntimeSeconds := limits.maxRuntimeSeconds
      maxRequests := min limits.maxRequests maxRequests
      maxRequestsPerMinute := perMinute
      maxConsecutiveFailures := limits.maxConsecutiveFailures
      iterations := s.nextIteration - 1
      requests := total
      currentMinuteRequests := currentMinute
      consecutiveFailures := s.consecutiveFailures }

/-- The log is begun when the state counts no event yet, and verified otherwise.
Source: `campaign_loop.run_campaign`, `if state.events` -/
def beginLog (s : CampaignState) : Code CampaignState Unit :=
  if s.events.isEmpty then
    appendCampaignEvent site
      { eventType := "campaign_started", outcome := "planned"
        details := [("campaign_definition_hash", .str s.campaignDefinitionHash)] }
  else do
    let failures ← verifyStateEventLog site s
    requireVerified failures

/-- A resume is recorded.
Source: `campaign_loop.run_campaign`, `if prior_status == "ready_to_resume"` -/
def recordResume (s : CampaignState) : Code CampaignState Unit :=
  if s.currentStatus = .readyToResume then
    appendCampaignEvent site { eventType := "campaign_resumed", outcome := "running" }
  else pure ()

/-- Source: `campaign_loop.run_campaign`, from `prior_status` to the first `save_state` -/
def beginInvocation : Code CampaignState Unit := do
  let s ← get
  beginLog site s
  recordResume site s
  modify fun s => { s with currentStatus := .running }
  touchAndSave

/-- The end of an invocation: a running campaign with nothing pending is complete.
Source: `campaign_loop.run_campaign`, after the loop -/
def finishInvocation (timing : Timing) : Code CampaignState Unit := do
  let now ← elapsed timing
  modify fun s => { s with elapsedSeconds := now }
  let s ← get
  if s.currentStatus = .running ∧ s.pendingModules = [] then
    modify fun s => { s with currentStatus := .completed, currentObjectiveId := none }
    appendCampaignEvent site
      { eventType := "campaign_completed", outcome := "completed"
        details := [("iterations", .int (s.nextIteration - 1))] }
  touchAndSave

/-- From the first save of an invocation to its last. -/
def continueCampaign (args : RunArgs) (campaign : Dict) (parsed : CampaignDefinition) :
    Code CampaignState Unit := do
  let s ← get
  let budget ← attempt (budgetOf site parsed.limits args.scope s)
  let started ← call Op.clock
  let timing : Timing := ⟨started, s.elapsedSeconds⟩
  let base ← attempt (baseEvidence site args.scope)
  let objectives ← attempt (rawObjectives campaign)
  let ordered ← attempt (schedule site.rt objectives)
  runLoop site args base timing budget 0 ordered
  finishInvocation site timing

/-- A campaign that starts must not find the files of another one.
Source: `campaign_loop.run_campaign`, `fresh_campaign` -/
def requireNoFiles {S : Type} (s : CampaignState) : Code S Unit := do
  let checkpoint ← call Op.checkpointExists
  attempt (guardE (!checkpoint) (.valueError
    "campaign state already exists; use campaign-resume or choose a new campaign id"))
  let _ ← attempt (resolveEventLog site s)
  let log ← call Op.logExists
  attempt (guardE (!log)
    (.valueError "campaign event log already exists; choose a new campaign id"))

/-- **One invocation of a campaign**, new (`none`) or resumed from a state.
Source: `campaign_loop.run_campaign` -/
def runCampaign (args : RunArgs) (campaign : Dict) (state : Option CampaignState) :
    Code Unit CampaignState := do
  let parsed ← attempt (parseCampaign campaign)
  let s ← match state with
    | some s => pure s
    | none => initializeState site args.scope campaign
  validateResumeInputs site s campaign
  if state.isNone then requireNoFiles site s
  within s do
    beginInvocation site
    continueCampaign site args campaign parsed

end Aotp.Campaign
