import Aotp.Campaign.Events
import Aotp.Gate.PrivateDocuments

/-!
# Human review and operator stop

* `applyReviewDecision` — a decision on the objective a campaign is paused on.
* `requestOperatorStop` — the stop of a campaign.
* `saveState`, `loadState` — the checkpoint, written with its validation and read back.
-/

namespace Aotp.Campaign

open PyData Aotp.Gate Effects

variable (site : Site)

/-! ### The checkpoint -/

/-- Source: `campaign_state.save_state` -/
def saveState : Code CampaignState Unit := do
  let s ← get
  let written ← call (Op.saveCheckpoint s)
  let _ ← attempt written
  modify CampaignState.saved

/-- Source: `campaign_state.load_state` -/
def loadState {S : Type} : Code S CampaignState := do
  match ← call Op.loadCheckpoint with
  | some s => pure s
  | none => throw (.valueError "campaign state could not be read")

/-- `state.last_updated_time = utc_now()`. -/
def touch : Code CampaignState Unit := do
  let now ← call Op.utcNow
  modify fun s => { s with lastUpdatedTime := now }

/-- `state.last_updated_time = utc_now(); save_state(state, state_path)`. -/
def touchAndSave : Code CampaignState Unit := do
  touch
  saveState

/-- `values.remove(x)`: the first occurrence, which must be there. -/
def removeFrom (values : List String) (x : String) : Except Exc (List String) :=
  if x ∈ values then .ok (values.erase x)
  else .error (.valueError "list.remove(x): x not in list")

/-- `"campaign event log verification failed: …"`, unless there are no failures. -/
def requireVerified {S : Type} (failures : List String) : Code S Unit :=
  attempt (guardE failures.isEmpty
    (.valueError ("campaign event log verification failed: " ++ joinedReasons failures)))

/-! ### Review -/

/-- The instant of a decision.
Source: `campaign_control._parse_time` -/
def parseTime (rt : Runtime) (value : String) : Except Exc ℤ :=
  match rt.fromIsoFormat (zuluToOffset value) with
  | .invalid =>
    .error (configError "review decided_at_utc is not a valid ISO-8601 timestamp")
  | .naive => .error (configError "review decided_at_utc must include a timezone")
  | .aware (some t) => .ok t
  | .aware none => .error .overflowError

/-- The objective leaves the pending ones for good, and the campaign takes a new status.
Source: `campaign_control.apply_review_decision`, `denied` and `stop` -/
def stopObjective (id : String) (status : Status) : Code CampaignState Unit := do
  let s ← get
  let pending ← attempt (removeFrom s.pendingModules id)
  modify fun s => { s with
    pendingModules := pending
    stoppedModules := s.stoppedModules ++ [id]
    currentObjectiveId := none
    currentStatus := status }

/-- What an approval means in the phase the review is in.
Source: `campaign_control.apply_review_decision`, `approved` -/
def approvePhase (id : String) (phase : Json) : Code CampaignState Unit := do
  let s ← get
  if Json.pyEq phase (.str "pre_execution") then
    modify fun s => { s with
      reviewedObjectives :=
        if id ∈ s.reviewedObjectives then s.reviewedObjectives else s.reviewedObjectives ++ [id] }
  else if Json.pyEq phase (.str "post_execution") then do
    let pending ← attempt (removeFrom s.pendingModules id)
    modify fun s => { s with
      pendingModules := pending
      completedModules := s.completedModules ++ [id] }
  else throw (.valueError "pending review phase is unsupported")

/-- Source: `campaign_control.apply_review_decision`, `approved` -/
def approveObjective (id : String) (phase : Json) : Code CampaignState Unit := do
  approvePhase id phase
  modify fun s => { s with currentObjectiveId := none, currentStatus := .readyToResume }

/-- Where the reviewed objective goes.
Source: `campaign_control.apply_review_decision`, `if review.decision` -/
def settleReview (review : ReviewDecision) (phase : Json) : Code CampaignState Unit :=
  if review.decision = "approved" then approveObjective review.objectiveId phase
  else if review.decision = "denied" then stopObjective review.objectiveId .stoppedByCondition
  else do
    modify fun s => { s with operatorStopRequested := true }
    stopObjective review.objectiveId .stoppedByOperator

/-- The checks of a decision against the checkpoint it is bound to.
Source: `campaign_control.apply_review_decision` -/
def checkReview (review : ReviewDecision) : Code CampaignState Unit := do
  let s ← get
  let now ← call Op.observe
  let decidedAt ← attempt (parseTime site.rt review.decidedAtUtc)
  attempt (guardE (decide (decidedAt ≤ now.now)) (.valueError "review decision is in the future"))
  let digest ← call Op.checkpointSha256
  let digest ← attempt digest
  attempt (guardE (review.stateSha256 == digest)
    (.valueError "review decision state SHA256 does not match checkpoint"))
  attempt (guardE (review.campaignId == s.campaignId)
    (.valueError "review decision campaign does not match checkpoint"))
  attempt (guardE (some review.objectiveId == s.currentObjectiveId)
    (.valueError "review decision objective does not match pending review"))
  attempt (guardE (review.operatorAlias == s.operatorAlias)
    (.valueError "review decision operator does not match campaign"))

/-- Source: `campaign_control.apply_review_decision` -/
def applyReviewDecision (reviewData : Dict) : Code CampaignState Unit := do
  let s ← get
  attempt (guardE (s.currentStatus == .pausedForHumanReview && s.hasPendingReview)
    (.valueError "campaign is not paused for human review"))
  let failures ← verifyStateEventLog site s
  requireVerified failures
  let review ← attempt (parseReviewDecision reviewData)
  checkReview site review
  let id := review.objectiveId
  let phase := dget (s.pendingReview.getD []) "phase"
  modify fun s => { s with
    pendingReview := none
    stopConditionHistory := s.stopConditionHistory ++
      [id ++ ": review " ++ review.decision ++ " (" ++ review.decisionId ++ ")"] }
  appendCampaignEvent site
    { eventType := "review_decision", objectiveId := some id
      iterationId := fmt04 (s.nextIteration - 1), outcome := review.decision
      details := [("decision_id", .str review.decisionId), ("phase", phase)] }
  settleReview review phase
  touchAndSave

/-! ### Operator stop -/

/-- The state once a stop is requested, before the event: the current objective, if there is one,
is stopped.
Source: `campaign_control.request_operator_stop` -/
def CampaignState.operatorStopped (s : CampaignState) : CampaignState :=
  let current := if s.hasCurrent then s.currentObjectiveId else none
  { s with
    operatorStopRequested := true
    pendingReview := none
    pendingModules := match current with
      | some id => s.pendingModules.erase id
      | none => s.pendingModules
    stoppedModules := match current with
      | some id => if id ∈ s.stoppedModules then s.stoppedModules else s.stoppedModules ++ [id]
      | none => s.stoppedModules
    currentObjectiveId := if s.hasCurrent then none else s.currentObjectiveId
    currentStatus := .stoppedByOperator
    stopConditionHistory := s.stopConditionHistory ++ ["operator_stop"] }

/-- Source: `campaign_control.request_operator_stop` -/
def requestOperatorStop : Code CampaignState Unit := do
  let s ← get
  attempt (guardE (s.currentStatus != .completed && s.currentStatus != .stoppedByOperator)
    (.valueError ("campaign cannot be stopped from status: " ++ s.currentStatus.text)))
  modify CampaignState.operatorStopped
  let s ← get
  appendCampaignEvent site
    { eventType := "operator_stop", objectiveId := s.currentObjectiveId
      outcome := "stopped_by_operator" }
  touchAndSave

end Aotp.Campaign
