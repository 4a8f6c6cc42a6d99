import Aotp.Gate.PolicyChecks

/-!
# Campaign state

* `Status`, `CampaignEvent`, `CampaignState` — what a checkpoint holds.
* `validateState` — the check every checkpoint passes before it is written and after it is read.
* `ValidState` — what that check amounts to (`validateState_eq_ok`).
-/

namespace Aotp.Campaign

open PyData Aotp.Gate

/-- Source: `campaign_state.CAMPAIGN_STATUSES` -/
inductive Status where
  | planned
  | running
  | pausedForHumanReview
  | readyToResume
  | completed
  | stoppedByPolicy
  | stoppedByOperator
  | stoppedByBudget
  | stoppedByCondition
  | failed
  deriving DecidableEq, Repr

/-- The text of a status. -/
def Status.text : Status → String
  | planned => "planned"
  | running => "running"
  | pausedForHumanReview => "paused_for_human_review"
  | readyToResume => "ready_to_resume"
  | completed => "completed"
  | stoppedByPolicy => "stopped_by_policy"
  | stoppedByOperator => "stopped_by_operator"
  | stoppedByBudget => "stopped_by_budget"
  | stoppedByCondition => "stopped_by_condition"
  | failed => "failed"

/-- An event of the log. The class checks none of its fields, so a line of the log file may put any
JSON value in each of them.
Source: `campaign_state.CampaignEvent` -/
structure CampaignEvent where
  sequence : Json
  eventId : Json
  iterationId : Json
  timestampUtc : Json
  eventType : Json
  objectiveId : Json
  moduleName : Json
  policyDecision : Json
  outcome : Json
  evidenceDirectory : Json
  details : Json
  previousEventHash : Json
  eventHash : Json

/-- `asdict(event)`, without the event's own hash.
Source: `campaign_events._event_hash`, `payload` -/
def CampaignEvent.payload (e : CampaignEvent) : Json :=
  .obj [("sequence", e.sequence), ("event_id", e.eventId), ("iteration_id", e.iterationId),
    ("timestamp_utc", e.timestampUtc), ("event_type", e.eventType),
    ("objective_id", e.objectiveId), ("module_name", e.moduleName),
    ("policy_decision", e.policyDecision), ("outcome", e.outcome),
    ("evidence_directory", e.evidenceDirectory), ("details", e.details),
    ("previous_event_hash", e.previousEventHash)]

/-- `asdict(event)`. -/
def CampaignEvent.toJson (e : CampaignEvent) : Json :=
  .obj (mappingEntries e.payload ++ [("event_hash", e.eventHash)])
where
  mappingEntries : Json → Dict
    | .obj m => m
    | _ => []

/-- Source: `campaign_state.CampaignState` -/
structure CampaignState where
  campaignId : String
  campaignName : String
  campaignDefinitionHash : String
  scopeFileHash : String
  rulesOfEngagementReference : String
  authorizationReference : String
  operatorAlias : String
  startTime : String
  lastUpdatedTime : String
  currentStatus : Status
  schemaVersion : String := "1.0"
  stateRevision : ℤ := 0
  nextIteration : ℤ := 1
  elapsedSeconds : ℚ := 0
  currentObjectiveId : Option String := none
  pendingReview : Option Dict := none
  reviewedObjectives : List String := []
  completedModules : List String := []
  pendingModules : List String := []
  skippedModules : List String := []
  stoppedModules : List String := []
  findingCandidates : List String := []
  evidenceDirectories : List String := []
  requestCounters : List (String × ℤ) := [("total", 0)]
  endpointRequestCounters : List (String × ℤ) := []
  rateLimitCounters : List (String × ℤ) := [("current_minute", 0)]
  consecutiveFailures : ℤ := 0
  stopConditionHistory : List String := []
  events : List CampaignEvent := []
  eventLogPath : Option String := none
  lastEventHash : Option String := none
  operatorStopRequested : Bool := false

/-- The four dispositions of a state, by name.
Source: `campaign_state.validate_state`, `dispositions` -/
def CampaignState.dispositions (s : CampaignState) : List (String × List String) :=
  [("completed", s.completedModules), ("pending", s.pendingModules),
    ("skipped", s.skippedModules), ("stopped", s.stoppedModules)]

/-! ### Validation -/

variable (rt : Runtime)

/-- Source: `campaign_state._timestamp_valid` -/
def timestampValid (value : String) : Bool :=
  match rt.fromIsoFormat (zuluToOffset value) with
  | .aware _ => true
  | _ => false

/-- The check that each disposition has no repetitions. -/
def checkDuplicates : List (String × List String) → Except Exc Unit
  | [] => pure ()
  | (name, values) :: rest => do
    guardE (decide values.Nodup)
      (.valueError (name ++ " objective list contains duplicates"))
    checkDuplicates rest

/-- The check of one disposition against those after it. -/
def checkOverlapWith (left : String × List String) : List (String × List String) → Except Exc Unit
  | [] => pure ()
  | right :: rest => do
    let overlap := left.2.filter (· ∈ right.2)
    guardE overlap.isEmpty
      (.valueError ("objective disposition overlap between " ++ left.1 ++ " and " ++ right.1 ++
        ": " ++ joined (sortedTexts overlap)))
    checkOverlapWith left rest

/-- The check of every pair of dispositions. -/
def checkOverlaps : List (String × List String) → Except Exc Unit
  | [] => pure ()
  | left :: rest => do
    checkOverlapWith left rest
    checkOverlaps rest

/-- The check of one family of counters. -/
def checkCounters (name : String) (counters : List (String × ℤ)) : Except Exc Unit :=
  guardE (counters.all fun c => 0 ≤ c.2)
    (.valueError (name ++ " values must be non-negative integers"))

/-- `not value`, for an optional text or mapping. -/
def isAbsent {α : Type} (isEmpty : α → Bool) : Option α → Bool
  | none => true
  | some a => isEmpty a

/-- Whether a current objective is recorded: `bool(state.current_objective_id)`. -/
def CampaignState.hasCurrent (s : CampaignState) : Bool :=
  !isAbsent (· == "") s.currentObjectiveId

/-- Whether a review is pending: `bool(state.pending_review)`. -/
def CampaignState.hasPendingReview (s : CampaignState) : Bool :=
  !isAbsent List.isEmpty s.pendingReview

/-- The status of a state is one of the known ones by its type.
Source: `campaign_state.validate_state` -/
def validateState (s : CampaignState) : Except Exc Unit := do
  guardE (s.schemaVersion == "1.0")
    (.valueError ("unsupported campaign state schema: " ++ s.schemaVersion))
  guardE (s.campaignId != "" && s.campaignName != "")
    (.valueError "campaign state identity is missing")
  guardE (isSha256Text s.campaignDefinitionHash)
    (.valueError "campaign_definition_hash must be a lowercase SHA256 digest")
  guardE (isSha256Text s.scopeFileHash)
    (.valueError "scope_file_hash must be a lowercase SHA256 digest")
  guardE (timestampValid rt s.startTime && timestampValid rt s.lastUpdatedTime)
    (.valueError "campaign state timestamps must be timezone-aware ISO-8601 values")
  guardE (decide (0 ≤ s.stateRevision) && decide (1 ≤ s.nextIteration) &&
      decide (0 ≤ s.elapsedSeconds))
    (.valueError "campaign state revision, iteration, and elapsed time cannot be negative")
  guardE (decide (0 ≤ s.consecutiveFailures))
    (.valueError "consecutive failures cannot be negative")
  checkDuplicates s.dispositions
  checkOverlaps s.dispositions
  checkCounters "request_counters" s.requestCounters
  checkCounters "endpoint_request_counters" s.endpointRequestCounters
  checkCounters "rate_limit_counters" s.rateLimitCounters
  guardE (s.currentStatus != .completed || (s.pendingModules.isEmpty &&
      s.stoppedModules.isEmpty && !s.hasCurrent && !s.hasPendingReview))
    (.valueError "completed campaign state cannot retain pending, stopped, or current objectives")
  guardE (s.lastEventHash.all isSha256Text)
    (.valueError "last_event_hash must be a lowercase SHA256 digest")
  guardE (s.currentStatus != .pausedForHumanReview || (s.hasCurrent && s.hasPendingReview))
    (.valueError "paused campaign state requires a current objective and pending review")
  guardE (s.currentStatus == .pausedForHumanReview || s.pendingReview.isNone)
    (.valueError "pending review is only valid while paused for human review")
  guardE (decide s.reviewedObjectives.Nodup)
    (.valueError "reviewed objective list contains duplicates")

/-! ### What validation amounts to -/

/-- The state is one the check accepts, in its own words. -/
structure ValidState (s : CampaignState) : Prop where
  schema : s.schemaVersion = "1.0"
  identity : s.campaignId ≠ "" ∧ s.campaignName ≠ ""
  hashes : isSha256Text s.campaignDefinitionHash = true ∧ isSha256Text s.scopeFileHash = true
  times : timestampValid rt s.startTime = true ∧ timestampValid rt s.lastUpdatedTime = true
  counts : 0 ≤ s.stateRevision ∧ 1 ≤ s.nextIteration ∧ 0 ≤ s.elapsedSeconds ∧
    0 ≤ s.consecutiveFailures
  nodup : s.completedModules.Nodup ∧ s.pendingModules.Nodup ∧ s.skippedModules.Nodup ∧
    s.stoppedModules.Nodup
  disjoint : s.completedModules.Disjoint s.pendingModules ∧
    s.completedModules.Disjoint s.skippedModules ∧ s.completedModules.Disjoint s.stoppedModules ∧
    s.pendingModules.Disjoint s.skippedModules ∧ s.pendingModules.Disjoint s.stoppedModules ∧
    s.skippedModules.Disjoint s.stoppedModules
  counters : (∀ c ∈ s.requestCounters, 0 ≤ c.2) ∧ (∀ c ∈ s.endpointRequestCounters, 0 ≤ c.2) ∧
    ∀ c ∈ s.rateLimitCounters, 0 ≤ c.2
  whenCompleted : s.currentStatus = .completed → s.pendingModules = [] ∧ s.stoppedModules = [] ∧
    s.hasCurrent = false ∧ s.hasPendingReview = false
  lastHash : ∀ h ∈ s.lastEventHash, isSha256Text h = true
  whenPaused : s.currentStatus = .pausedForHumanReview →
    s.hasCurrent = true ∧ s.hasPendingReview = true
  whenNotPaused : s.currentStatus ≠ .pausedForHumanReview → s.pendingReview = none
  reviewed : s.reviewedObjectives.Nodup

theorem checkDuplicates_eq_ok {l : List (String × List String)} {u : Unit} :
    checkDuplicates l = .ok u ↔ ∀ d ∈ l, d.2.Nodup := by
  induction l with
  | nil => simp [checkDuplicates, pure, Except.pure]
  | cons d l ih => simp [checkDuplicates, bind_eq_ok, guardE_eq_ok, ih]

theorem filter_mem_isEmpty {l l' : List String} :
    (l.filter (· ∈ l')).isEmpty = true ↔ l.Disjoint l' := by
  simp [List.isEmpty_iff, List.filter_eq_nil_iff, List.Disjoint]

theorem checkOverlapWith_eq_ok {d : String × List String} {l : List (String × List String)}
    {u : Unit} : checkOverlapWith d l = .ok u ↔ ∀ d' ∈ l, d.2.Disjoint d'.2 := by
  induction l with
  | nil => simp [checkOverlapWith, pure, Except.pure]
  | cons d' l ih =>
    simp only [checkOverlapWith, bind_eq_ok, guardE_eq_ok, filter_mem_isEmpty, ih, exists_const,
      List.mem_cons, forall_eq_or_imp]

theorem checkOverlaps_eq_ok {l : List (String × List String)} {u : Unit} :
    checkOverlaps l = .ok u ↔ l.Pairwise fun d d' => d.2.Disjoint d'.2 := by
  induction l with
  | nil => simp [checkOverlaps, pure, Except.pure]
  | cons d l ih =>
    simp only [checkOverlaps, bind_eq_ok, checkOverlapWith_eq_ok, ih, exists_const,
      List.pairwise_cons]

theorem checkCounters_eq_ok {name : String} {c : List (String × ℤ)} {u : Unit} :
    checkCounters name c = .ok u ↔ ∀ x ∈ c, 0 ≤ x.2 := by
  simp [checkCounters, guardE_eq_ok]

/-- **Validation accepts exactly the valid states.** -/
theorem validateState_eq_ok {s : CampaignState} {u : Unit} :
    validateState rt s = .ok u ↔ ValidState rt s := by
  simp only [validateState, bind_eq_ok, guardE_eq_ok, checkDuplicates_eq_ok, checkOverlaps_eq_ok,
    checkCounters_eq_ok, exists_const, CampaignState.dispositions]
  constructor
  · rintro ⟨h₁, h₂, h₃, h₄, h₅, h₆, h₇, h₈, h₉, h₁₀, h₁₁, h₁₂, h₁₃, h₁₄, h₁₅, h₁₆, h₁₇⟩
    simp only [List.mem_cons, List.not_mem_nil, or_false, forall_eq_or_imp, forall_eq,
      List.pairwise_cons, List.Pairwise.nil, and_true, IsEmpty.forall_iff, implies_true] at h₈ h₉
    simp only [Bool.and_eq_true, bne_iff_ne, beq_iff_eq, decide_eq_true_eq, Bool.or_eq_true,
      List.isEmpty_iff, Bool.not_eq_true', Option.isNone_iff_eq_none] at h₁ h₂ h₅ h₆ h₇ h₁₃ h₁₅ h₁₆ h₁₇
    refine ⟨h₁, h₂, ⟨h₃, h₄⟩, h₅, ⟨h₆.1.1, h₆.1.2, h₆.2, h₇⟩, h₈, ?_, ⟨h₁₀, h₁₁, h₁₂⟩, ?_, ?_, ?_, ?_, h₁₇⟩
    · exact ⟨h₉.1.1, h₉.1.2.1, h₉.1.2.2, h₉.2.1.1, h₉.2.1.2, h₉.2.2⟩
    · intro h
      have := h₁₃.resolve_left (not_not_intro h)
      exact ⟨this.1.1.1, this.1.1.2, this.1.2, this.2⟩
    · intro x hx
      rw [Option.mem_def] at hx
      rw [hx] at h₁₄
      exact h₁₄
    · exact fun h => h₁₅.resolve_left (not_not_intro h)
    · exact fun h => h₁₆.resolve_left h
  · intro h
    obtain ⟨d₁, d₂, d₃, d₄, d₅, d₆⟩ := h.disjoint
    obtain ⟨c₁, c₂, c₃, c₄⟩ := h.counts
    refine ⟨by simpa using h.schema, by simpa using h.identity, h.hashes.1, h.hashes.2,
      by simpa using h.times, ?_, by simpa using c₄, ?_, ?_, h.counters.1, h.counters.2.1,
      h.counters.2.2, ?_, ?_, ?_, ?_, by simpa using h.reviewed⟩
    · simp [c₁, c₂, c₃]
    · simpa using h.nodup
    · simp [d₁, d₂, d₃, d₄, d₅, d₆]
    · by_cases hc : s.currentStatus = .completed
      · obtain ⟨p₁, p₂, p₃, p₄⟩ := h.whenCompleted hc
        simp [p₁, p₂, p₃, p₄]
      · simp [hc]
    · cases hl : s.lastEventHash with
      | none => rfl
      | some x => exact h.lastHash x hl
    · by_cases hp : s.currentStatus = .pausedForHumanReview
      · simp [h.whenPaused hp]
      · simp [hp]
    · by_cases hp : s.currentStatus = .pausedForHumanReview
      · simp [hp]
      · simp [h.whenNotPaused hp]

end Aotp.Campaign
