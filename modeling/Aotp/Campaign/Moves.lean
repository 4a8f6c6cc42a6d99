import Aotp.Campaign.ObjectiveShape
import Aotp.Campaign.TamperEvidence

/-!
# The campaign as a state machine

The abstract model of the campaign code: what it does to a checkpoint between two saves, without
the order in which it asks the world.

* `Call` — the operations on a campaign; `Call.perform` is their code.
* `Move` — the transitions between checkpoints: `after` is the new state, `events` the arguments of
  the events that are appended, `Enabled` says when and with what data a call makes the move.
* `Moved` — a state is what a move leaves, up to what the world supplies: times, ids, revision.
* `Surroundings` — what the world may answer besides the two files; `openSurroundings` allows all.
-/

namespace Aotp.Campaign

open PyData Aotp.Gate Effects HashChain

/-! ### Calls -/

/-- The operations on a campaign. -/
inductive Call where
  | start (args : RunArgs)
  | resume (args : RunArgs)
  | review (data : Dict)
  | stop

/-- The arguments of an invocation of the loop. -/
def Call.args? : Call → Option RunArgs
  | .start args => some args
  | .resume args => some args
  | _ => none

/-- Whether what a call dispatches is a dry run. -/
def Call.isDryRun (c : Call) : Prop := ∀ args ∈ c.args?, args.live = false

/-- A part of a program that works on a loaded state, and returns it. -/
def onLoaded (c : Code CampaignState Unit) : Code Unit CampaignState := do
  let s ← loadState
  within s c

/-- The code of a call. Every call but the first one reads the checkpoint. -/
def Call.perform (site : Site) (campaign : Dict) : Call → Code Unit CampaignState
  | .start args => runCampaign site args campaign none
  | .resume args => do
    let s ← loadState
    runCampaign site args campaign (some s)
  | .review data => onLoaded (applyReviewDecision site data)
  | .stop => onLoaded (requestOperatorStop site)

/-! ### What the world may answer -/

/-- What the world may answer besides the two files. -/
structure Surroundings where
  /-- Time is held constant. -/
  still : Prop
  observes : Snapshot → Prop
  files : (String → SbomFile) → Prop
  resolves : String → String → Prop

/-- Anything may be answered. -/
def openSurroundings : Surroundings := ⟨False, fun _ => True, fun _ => True, fun _ _ => True⟩

variable (site : Site) (campaign : Dict) (sur : Surroundings)

/-- The elapsed time grows, and stands still when time does. -/
def Surroundings.Elapses (e e' : ℚ) : Prop := e ≤ e' ∧ (sur.still → e' = e)

theorem Surroundings.Elapses.refl (e : ℚ) : sur.Elapses e e := ⟨le_refl e, fun _ => rfl⟩

variable {sur} in
theorem Surroundings.Elapses.trans {e₁ e₂ e₃ : ℚ} (h : sur.Elapses e₁ e₂) (h' : sur.Elapses e₂ e₃) :
    sur.Elapses e₁ e₃ :=
  ⟨h.1.trans h'.1, fun hs => (h'.2 hs).trans (h.2 hs)⟩

/-! ### The next objective -/

/-- The first of the scheduled objectives that is still pending. -/
def nextObjective (rt : Runtime) (pending : List String) : List Dict → Option (String × Dict)
  | [] => none
  | o :: rest =>
    match objectiveIdOf rt o with
    | .ok id => if id ∈ pending then some (id, o) else nextObjective rt pending rest
    | .error _ => none

/-- The objective, marked when a human approved it. -/
def marked (reviewed : List String) (id : String) (configured : Dict) : Dict :=
  if id ∈ reviewed then dset configured "human_approved" (.bool true) else configured

/-- The artifact of an objective that the loop resolves. -/
def artifactOf (objective : Dict) : Option String :=
  match hasCategory objective "sbom_review", dget objective "artifact" with
  | true, .str artifact => some artifact
  | _, _ => none

/-- The objective as an invocation sees it. -/
def Prepared (reviewed : List String) (id : String) (configured objective : Dict) : Prop :=
  match artifactOf (marked reviewed id configured) with
  | some artifact => ∃ path, sur.resolves artifact path ∧
      objective = dset (marked reviewed id configured) "_resolved_artifact_path" (.str path)
  | none => objective = marked reviewed id configured

/-- The objective a running campaign comes to next. -/
structure Head (b : CampaignState) (id : String) (objective : Dict) : Prop where
  running : b.currentStatus = .running
  next : ∃ objectives ordered configured, rawObjectives campaign = .ok objectives ∧
    schedule site.rt objectives = .ok ordered ∧
    nextObjective site.rt b.pendingModules ordered = some (id, configured) ∧
    Prepared sur b.reviewedObjectives id configured objective

/-- The evidence directory of the next iteration, as it is recorded. -/
def EvidenceAt (args : RunArgs) (b : CampaignState) (evidence : String) : Prop :=
  ∃ base, baseEvidence site args.scope = .ok base ∧
    relativeEvidence site (evidenceDir base b) = .ok evidence

/-- The budget of an invocation that has come to a state. -/
def BudgetAt (args : RunArgs) (b : CampaignState) (budget : SafetyBudget) : Prop :=
  ∃ parsed, parseCampaign campaign = .ok parsed ∧ budgetOf site parsed.limits args.scope b = .ok budget

/-- What the budget says about dispatching the objective now. -/
def BudgetSays (b : CampaignState) (objective : Dict) (budget : SafetyBudget)
    (reason : Option String) : Prop :=
  ∃ now proposed, sur.Elapses b.elapsedSeconds now ∧ proposedRequests site objective = .ok proposed ∧
    budget.denialReason now proposed = .ok reason

/-- The objective may be dispatched: no stop signal, no unreviewed lockout risk, budget left. -/
structure Cleared (args : RunArgs) (b : CampaignState) (id : String) (objective : Dict)
    (budget : SafetyBudget) : Prop where
  head : Head site campaign sur b id objective
  noSignals : collectFuzzingStopSignals objective = []
  noLockout : panelLockoutRiskDetected objective = true → id ∈ b.reviewedObjectives
  budgetAt : BudgetAt site campaign args b budget
  affordable : BudgetSays site sur b objective budget none

/-! ### Moves -/

/-- What a dispatch comes to. -/
structure Dispatched where
  id : String
  evidence : String
  moduleName : String
  total : ℤ
  endpoints : List String
  budget : SafetyBudget
  decision : PolicyDecision
  outcome : Verdict

/-- What gate, executor and budget make of an objective. -/
structure Dispatches (args : RunArgs) (b : CampaignState) (objective : Dict) (budget : SafetyBudget)
    (r : Dispatched) : Prop where
  current : b.currentObjectiveId = some r.id
  decided : ∃ snapshot, sur.observes snapshot ∧
    evaluate site.rt (some args.scope) objective (gateInput args b snapshot) = .ok r.decision
  executed : ∃ result : Option ExecutionResult,
    (if r.decision.allowed then ∃ files x, sur.files files ∧
      execute site.rt files objective args.live = .ok x ∧ result = some x else result = none) ∧
    r.outcome = outcomeOf r.decision result ∧
    (∃ total, counterAt b.requestCounters "total" = .ok total ∧
      r.total = total + (dispatchManifest site args objective r.decision result).requestCount) ∧
    budget.record (dispatchManifest site args objective r.decision result).requestCount
      (decide (r.outcome = .fail ∨ r.outcome = .stoppedByPolicy)) = .ok r.budget
  evidence : EvidenceAt site args b r.evidence
  moduleName : r.moduleName = moduleNameOf site objective
  endpoints : r.endpoints = endpointsOf objective

/-- The transitions between checkpoints. -/
inductive Move where
  | begin
  | dispatch (id : String)
  | result (r : Dispatched)
  | fuzzingStop (id evidence : String) (signals : List String)
  | lockoutPause (id evidence moduleName : String)
  | budgetStop (id evidence moduleName reason : String)
  | finish
  | review (r : ReviewDecision)
  | stop

/-- Where a dispatched objective goes. -/
def CampaignState.settled (s : CampaignState) (r : Dispatched) : CampaignState :=
  let s := (s.accounted r.evidence r.total r.endpoints r.budget).advanced
  if humanGateOnly r.decision then
    s.pausedFor r.id "pre_execution" "human approval is required" r.evidence
      "human approval required"
  else if !r.decision.allowed then s.deniedByGate r.id r.decision.reasons
  else if r.outcome = .manualReview then
    s.pausedFor r.id "post_execution" "manual review required after adapter execution" r.evidence
      "human review required"
  else s.objectiveDone r.id

/-- The phase of the review that is pending. -/
def CampaignState.reviewPhase (s : CampaignState) : Json := dget (s.pendingReview.getD []) "phase"

/-- The review is no longer pending. -/
def CampaignState.reviewClosed (s : CampaignState) (r : ReviewDecision) : CampaignState :=
  { s with
    pendingReview := none
    stopConditionHistory := s.stopConditionHistory ++
      [r.objectiveId ++ ": review " ++ r.decision ++ " (" ++ r.decisionId ++ ")"]
    currentObjectiveId := none }

/-- The objective may run. -/
def CampaignState.approvedToRun (s : CampaignState) (r : ReviewDecision) : CampaignState :=
  { s.reviewClosed r with
    reviewedObjectives := if r.objectiveId ∈ s.reviewedObjectives then s.reviewedObjectives
      else s.reviewedObjectives ++ [r.objectiveId]
    currentStatus := .readyToResume }

/-- The objective has run, and its result stands. -/
def CampaignState.approvedAsDone (s : CampaignState) (r : ReviewDecision) : CampaignState :=
  { s.reviewClosed r with
    pendingModules := s.pendingModules.erase r.objectiveId
    completedModules := s.completedModules ++ [r.objectiveId]
    currentStatus := .readyToResume }

/-- The objective is stopped. -/
def CampaignState.stoppedByReview (s : CampaignState) (r : ReviewDecision) (status : Status) :
    CampaignState :=
  { s.reviewClosed r with
    pendingModules := s.pendingModules.erase r.objectiveId
    stoppedModules := s.stoppedModules ++ [r.objectiveId]
    currentStatus := status }

/-- Where a reviewed objective goes. -/
def CampaignState.reviewed (s : CampaignState) (r : ReviewDecision) : CampaignState :=
  if r.decision = "approved" then
    if Json.pyEq s.reviewPhase (.str "pre_execution") then s.approvedToRun r else s.approvedAsDone r
  else if r.decision = "denied" then s.stoppedByReview r .stoppedByCondition
  else { s.stoppedByReview r .stoppedByOperator with operatorStopRequested := true }

/-- The state a move leaves, before its events. -/
def Move.after : Move → CampaignState → CampaignState
  | .begin, s => { s with currentStatus := .running }
  | .dispatch id, s => s.dispatching id
  | .result r, s => s.settled r
  | .fuzzingStop id evidence signals, s =>
    { s.stoppedBefore id evidence signals with currentStatus := .stoppedByCondition }
  | .lockoutPause id evidence _, s => s.pausedBefore id evidence
  | .budgetStop id evidence _ reason, s =>
    { s.stoppedBefore id evidence [reason] with currentStatus := .stoppedByBudget }
  | .finish, s =>
    if s.currentStatus = .running ∧ s.pendingModules = [] then
      { s with currentStatus := .completed, currentObjectiveId := none }
    else s
  | .review r, s => s.reviewed r
  | .stop, s => s.operatorStopped

/-- The pause of a dispatched objective, as an event. -/
def pauseArgs (s : CampaignState) (r : Dispatched) (phase : String) : EventArgs :=
  { eventType := "campaign_paused", iterationId := fmt04 s.nextIteration, objectiveId := some r.id
    moduleName := some r.moduleName, outcome := "paused_for_human_review"
    evidenceDirectory := some r.evidence, details := [("phase", .str phase)] }

/-- The result of a dispatch, as an event. -/
def resultArgs (s : CampaignState) (r : Dispatched) : EventArgs :=
  { eventType := "objective_result", iterationId := fmt04 s.nextIteration, objectiveId := some r.id
    moduleName := some r.moduleName, policyDecision := some r.decision.summary
    outcome := r.outcome.text, evidenceDirectory := some r.evidence }

/-- The events of a dispatch: its result, and the pause it may lead to. -/
def resultEvents (s : CampaignState) (r : Dispatched) : List EventArgs :=
  resultArgs s r ::
    if humanGateOnly r.decision then [pauseArgs s r "pre_execution"]
    else if !r.decision.allowed then []
    else if r.outcome = .manualReview then [pauseArgs s r "post_execution"]
    else []

/-- The events of a beginning: the start of a new campaign, the resume of a paused one. -/
def startedEvents (s : CampaignState) : List EventArgs :=
  if s.events.isEmpty then
    [{ eventType := "campaign_started", outcome := "planned"
       details := [("campaign_definition_hash", .str s.campaignDefinitionHash)] }]
  else []

@[inherit_doc startedEvents]
def resumedEvents (s : CampaignState) : List EventArgs :=
  if s.currentStatus = .readyToResume then
    [{ eventType := "campaign_resumed", outcome := "running" }]
  else []

/-- The arguments of the events of a move, in order. -/
def Move.events : Move → CampaignState → List EventArgs
  | .begin, s => startedEvents s ++ resumedEvents s
  | .dispatch _, _ => []
  | .result r, s => resultEvents s r
  | .fuzzingStop id evidence signals, s =>
    [{ eventType := "campaign_stop", iterationId := fmt04 s.nextIteration, objectiveId := some id
       moduleName := some "bounded_fuzzing"
       policyDecision := some "stopped by fuzzing safety condition"
       outcome := "stopped_by_condition", evidenceDirectory := some evidence
       details := [("stop_conditions", .arr (signals.map .str)),
        ("request_counters", countersJson s.requestCounters),
        ("endpoint_request_counters", countersJson s.endpointRequestCounters),
        ("rate_limit_counters", countersJson s.rateLimitCounters)] }]
  | .lockoutPause id evidence moduleName, s =>
    [{ eventType := "campaign_paused", iterationId := fmt04 s.nextIteration, objectiveId := some id
       moduleName := some moduleName
       policyDecision := some "paused by authentication_lockout_risk"
       outcome := "paused_for_human_review", evidenceDirectory := some evidence
       details := [("phase", .str "pre_execution"),
        ("stop_condition", .str "authentication_lockout_risk")] }]
  | .budgetStop id evidence moduleName reason, s =>
    [{ eventType := "campaign_stop", iterationId := fmt04 s.nextIteration, objectiveId := some id
       moduleName := some moduleName, policyDecision := some ("stopped by " ++ reason)
       outcome := Verdict.stoppedByPolicy.text, evidenceDirectory := some evidence
       details := [("stop_condition", .str reason)] }]
  | .finish, s =>
    if s.currentStatus = .running ∧ s.pendingModules = [] then
      [{ eventType := "campaign_completed", outcome := "completed"
         details := [("iterations", .int (s.nextIteration - 1))] }]
    else []
  | .review r, s =>
    [{ eventType := "review_decision", objectiveId := some r.objectiveId
       iterationId := fmt04 (s.nextIteration - 1), outcome := r.decision
       details := [("decision_id", .str r.decisionId), ("phase", s.reviewPhase)] }]
  | .stop, s =>
    [{ eventType := "operator_stop", objectiveId := s.operatorStopped.currentObjectiveId
       outcome := "stopped_by_operator" }]

/-- When, and with what data, a call makes a move. -/
def Move.Enabled (c : Call) (b : CampaignState) : Move → Prop
  | .begin => (∃ args, c.args? = some args) ∧ (b.currentStatus = .running ∨
      b.currentStatus = .readyToResume ∨ b.currentStatus = .planned) ∧
      ∃ path, resolveEventLog site b = .ok path
  | .dispatch id => ∃ args objective budget, c.args? = some args ∧
      Cleared site campaign sur args b id objective budget
  | .result r => ∃ args objective budget, c.args? = some args ∧
      Cleared site campaign sur args b r.id objective budget ∧
      Dispatches site sur args b objective budget r
  | .fuzzingStop id evidence signals => ∃ args objective, c.args? = some args ∧
      Head site campaign sur b id objective ∧ EvidenceAt site args b evidence ∧
      collectFuzzingStopSignals objective ≠ [] ∧
      signals = sortedTexts (collectFuzzingStopSignals objective)
  | .lockoutPause id evidence moduleName => ∃ args objective, c.args? = some args ∧
      Head site campaign sur b id objective ∧ EvidenceAt site args b evidence ∧
      collectFuzzingStopSignals objective = [] ∧ panelLockoutRiskDetected objective = true ∧
      id ∉ b.reviewedObjectives ∧ moduleName = moduleNameOf site objective
  | .budgetStop id evidence moduleName reason => ∃ args objective budget, c.args? = some args ∧
      Head site campaign sur b id objective ∧ EvidenceAt site args b evidence ∧
      collectFuzzingStopSignals objective = [] ∧
      (panelLockoutRiskDetected objective = true → id ∈ b.reviewedObjectives) ∧
      BudgetAt site campaign args b budget ∧
      BudgetSays site sur b objective budget (some reason) ∧
      moduleName = moduleNameOf site objective
  | .finish => (∃ args, c.args? = some args) ∧ b.currentStatus ≠ .planned
  | .review r => (∃ data, c = .review data ∧ parseReviewDecision data = .ok r) ∧
      b.currentStatus = .pausedForHumanReview ∧ b.hasPendingReview = true ∧
      b.currentObjectiveId = some r.objectiveId
  -- No checkpoint is ever `planned`; the code does not ask.
  | .stop => c = .stop ∧ b.currentStatus ≠ .completed ∧ b.currentStatus ≠ .stoppedByOperator ∧
      b.currentStatus ≠ .planned

/-! ### What a move leaves -/

/-- An event to append: its arguments, and what the world supplies. -/
structure Entry where
  id : String
  now : String
  args : EventArgs

/-- The state with some more events. -/
def CampaignState.logged (rt : Runtime) : CampaignState → List Entry → CampaignState
  | s, [] => s
  | s, x :: xs => (s.withEvent rt (nextEvent rt s x.id x.now x.args)).logged rt xs

/-- **What a move leaves**: the new state with the events of the move, up to what the world
supplies. -/
def Moved (m : Move) (b s : CampaignState) : Prop :=
  ∃ entries now elapsed revision, entries.map Entry.args = m.events b ∧
    timestampValid site.rt now = true ∧ sur.Elapses b.elapsedSeconds elapsed ∧
    b.stateRevision ≤ revision ∧
    s = { (m.after b).logged site.rt entries with
      lastUpdatedTime := now, elapsedSeconds := elapsed, stateRevision := revision }

/-- The state of a new campaign, for some answers of the world. -/
def Initial (s : CampaignState) : Prop :=
  ∃ scope parsed objectives ordered ids now scopeText, parseCampaign campaign = .ok parsed ∧
    rawObjectives campaign = .ok objectives ∧ schedule site.rt objectives = .ok ordered ∧
    idsOf site ordered = .ok ids ∧ timestampValid site.rt now = true ∧
    initialState site scope campaign parsed now scopeText ids = .ok s

end Aotp.Campaign
