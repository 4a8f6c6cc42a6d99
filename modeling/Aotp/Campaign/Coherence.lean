import Aotp.Campaign.Moves

/-!
# What every checkpoint keeps

* `Ledger` — every objective is in exactly one of the lists, and status, current objective and
  pending review agree with them.
* `Header` — the fields that are checked on their own: identity, hashes, counters.
* `Coherent` — both, with a chained log; `Coherent.moved` — **every enabled move keeps it**.
* `Coherent.valid` — a coherent state passes validation.
-/

namespace Aotp.Campaign

open PyData Aotp.Gate Effects HashChain

/-! ### The invariant -/

/-- **The ledger of a campaign**: its objectives, each in one list, and what the status says about
them. -/
structure Ledger (ids : List String) (s : CampaignState) : Prop where
  perm : s.allModules.Perm ids
  skipped : s.skippedModules = []
  stopped : s.currentStatus = .planned ∨ s.currentStatus = .running ∨
    s.currentStatus = .readyToResume ∨ s.currentStatus = .pausedForHumanReview ∨
    s.currentStatus = .completed → s.stoppedModules = []
  current : ∀ id, s.currentObjectiveId = some id → id ∈ s.pendingModules
  paused : s.currentStatus = .pausedForHumanReview → ∃ id, s.currentObjectiveId = some id ∧
    s.pendingReview.isSome = true ∧
    (s.reviewPhase = .str "pre_execution" ∨ s.reviewPhase = .str "post_execution")
  notPaused : s.currentStatus ≠ .pausedForHumanReview → s.pendingReview = none
  completed : s.currentStatus = .completed → s.pendingModules = [] ∧ s.currentObjectiveId = none
  operatorStop : s.operatorStopRequested = true → s.currentStatus = .stoppedByOperator

/-- The fields that are checked on their own. -/
structure Header (rt : Runtime) (s : CampaignState) : Prop where
  schema : s.schemaVersion = "1.0"
  identity : s.campaignId ≠ "" ∧ s.campaignName ≠ ""
  hashes : isSha256Text s.campaignDefinitionHash = true ∧ isSha256Text s.scopeFileHash = true
  started : timestampValid rt s.startTime = true
  iteration : 1 ≤ s.nextIteration
  failures : 0 ≤ s.consecutiveFailures
  requests : ∀ c ∈ s.requestCounters, 0 ≤ c.2
  endpoints : ∀ c ∈ s.endpointRequestCounters, 0 ≤ c.2
  rates : ∀ c ∈ s.rateLimitCounters, 0 ≤ c.2
  reviewed : s.reviewedObjectives.Nodup

/-- **A coherent state.** Once it has left `planned` it counts events, in a log of the workspace. -/
structure Coherent (site : Site) (ids : List String) (s : CampaignState) : Prop where
  ledger : Ledger ids s
  header : Header site.rt s
  log : LogState site.rt s
  lastHash : ∀ h ∈ s.lastEventHash, isSha256Text h = true
  updated : timestampValid site.rt s.lastUpdatedTime = true
  elapsed : 0 ≤ s.elapsedSeconds
  revision : 0 ≤ s.stateRevision
  begun : s.currentStatus ≠ .planned →
    s.events ≠ [] ∧ ∃ path, resolveEventLog site s = .ok path

/-! ### A coherent state is valid -/

/-- The ids of a campaign: distinct texts, none empty. -/
structure GoodIds (ids : List String) : Prop where
  nodup : ids.Nodup
  ne_empty : ∀ id ∈ ids, id ≠ ""

theorem CampaignShape.goodIds {campaign : Dict} {p : CampaignDefinition} {objectives : List Dict}
    (h : CampaignShape campaign p objectives) : GoodIds (objectives.map rawId) :=
  ⟨h.ids_nodup, fun _ hid => h.ids_ne_empty hid⟩

theorem Ledger.nodup {ids : List String} {s : CampaignState} (h : Ledger ids s)
    (hids : GoodIds ids) : s.allModules.Nodup :=
  h.perm.nodup_iff.mpr hids.nodup

theorem Ledger.current_ne_empty {ids : List String} {s : CampaignState} (h : Ledger ids s)
    (hids : GoodIds ids) {id : String} (hid : s.currentObjectiveId = some id) : id ≠ "" := by
  refine hids.ne_empty id (h.perm.subset ?_)
  simp [CampaignState.allModules, h.current id hid]

theorem phase_ne_nil {review : Option Dict} {phase : String}
    (h : dget (review.getD []) "phase" = .str phase) (hsome : review.isSome = true) :
    isAbsent List.isEmpty review = false := by
  cases review with
  | none => cases hsome
  | some m =>
    cases m with
    | nil => simp [dget] at h
    | cons e m => rfl

/-- **A coherent state passes validation.** -/
theorem Coherent.valid {site : Site} {ids : List String} {s : CampaignState}
    (h : Coherent site ids s) (hids : GoodIds ids) : ValidState site.rt s := by
  have hnodup := h.ledger.nodup hids
  simp only [CampaignState.allModules, h.ledger.skipped, List.append_nil, List.nodup_append'] at hnodup
  obtain ⟨⟨hc, hp, hcp⟩, hs, hdisj⟩ := hnodup
  rw [List.disjoint_append_left] at hdisj
  refine ⟨h.header.schema, h.header.identity, h.header.hashes, ⟨h.header.started, h.updated⟩,
    ⟨h.revision, h.header.iteration, h.elapsed, h.header.failures⟩, ⟨hc, hp, ?_, hs⟩, ?_,
    ⟨h.header.requests, h.header.endpoints, h.header.rates⟩, ?_, h.lastHash, ?_,
    h.ledger.notPaused, h.header.reviewed⟩
  · simp [h.ledger.skipped]
  · rw [h.ledger.skipped]
    exact ⟨hcp, List.disjoint_nil_right _, hdisj.1, List.disjoint_nil_right _, hdisj.2,
      List.disjoint_nil_left _⟩
  · intro hstatus
    obtain ⟨hpending, hcurrent⟩ := h.ledger.completed hstatus
    have hreview := h.ledger.notPaused (by simp [hstatus])
    exact ⟨hpending, h.ledger.stopped (by simp [hstatus]),
      by simp [CampaignState.hasCurrent, hcurrent, isAbsent],
      by simp [CampaignState.hasPendingReview, hreview, isAbsent]⟩
  · intro hstatus
    obtain ⟨id, hid, hsome, hphase⟩ := h.ledger.paused hstatus
    have hne := h.ledger.current_ne_empty hids hid
    refine ⟨by simp [CampaignState.hasCurrent, hid, isAbsent, hne], ?_⟩
    rw [CampaignState.hasPendingReview, Bool.not_eq_true']
    rcases hphase with hphase | hphase <;> exact phase_ne_nil hphase hsome

/-! ### The ledger -/

section ledger

variable {ids : List String} {s : CampaignState}

/-- Taking an id out of the pending objectives and putting it last. -/
theorem perm_stop {c p k t : List String} {id : String} (h : id ∈ p) :
    (c ++ p.erase id ++ k ++ (t ++ [id])).Perm (c ++ p ++ k ++ t) := by
  rw [List.perm_iff_count]
  intro a
  have hcount := List.count_pos_iff.mpr h
  by_cases ha : a = id
  · subst ha
    simp only [List.count_append, List.count_erase_self, List.count_singleton_self]
    omega
  · have hne : (id == a) = false := by simpa using Ne.symm ha
    simp [List.count_append, List.count_erase_of_ne ha, List.count_singleton, hne]

/-- Taking an id out of the pending objectives and putting it before them. -/
theorem perm_complete {c p k t : List String} {id : String} (h : id ∈ p) :
    (c ++ [id] ++ p.erase id ++ k ++ t).Perm (c ++ p ++ k ++ t) := by
  have hswap : (c ++ [id] ++ p.erase id).Perm (c ++ p) := by
    rw [List.append_assoc]
    exact ((List.perm_cons_erase h).symm).append_left c
  exact (hswap.append_right k).append_right t

/-- The stop is requested in no other status than its own. -/
theorem Ledger.not_requested (h : Ledger ids s) (hs : s.currentStatus ≠ .stoppedByOperator) :
    s.operatorStopRequested = false := by
  cases hflag : s.operatorStopRequested with
  | false => rfl
  | true => exact absurd (h.operatorStop hflag) hs

/-- What the ledger says about a state that runs. -/
theorem Ledger.of_running (h : Ledger ids s) (hs : s.currentStatus = .running) :
    s.stoppedModules = [] ∧ s.pendingReview = none ∧ s.operatorStopRequested = false :=
  ⟨h.stopped (by simp [hs]), h.notPaused (by simp [hs]), h.not_requested (by simp [hs])⟩

theorem nextObjective_mem {rt : Runtime} {pending : List String} {ordered : List Dict} {id : String}
    {o : Dict} (h : nextObjective rt pending ordered = some (id, o)) :
    id ∈ pending ∧ o ∈ ordered ∧ objectiveIdOf rt o = .ok id := by
  induction ordered with
  | nil => cases h
  | cons o' rest ih =>
    unfold nextObjective at h
    split at h
    · rename_i id' hid'
      split_ifs at h with hmem
      · cases h
        exact ⟨hmem, List.mem_cons_self, hid'⟩
      · obtain ⟨h₁, h₂, h₃⟩ := ih h
        exact ⟨h₁, List.mem_cons_of_mem _ h₂, h₃⟩
    · cases h

theorem Head.pending {site : Site} {campaign : Dict} {sur : Surroundings} {id : String}
    {objective : Dict} (h : Head site campaign sur s id objective) : id ∈ s.pendingModules := by
  obtain ⟨_, _, _, -, -, hnext, -⟩ := h.next
  exact (nextObjective_mem hnext).1

theorem Ledger.dispatching (h : Ledger ids s) (hs : s.currentStatus = .running) {id : String}
    (hid : id ∈ s.pendingModules) : Ledger ids (s.dispatching id) := by
  refine ⟨h.perm, h.skipped, h.stopped, ?_, ?_, h.notPaused, ?_, h.operatorStop⟩
  · rintro _ ⟨⟩
    exact hid
  · intro hstatus
    exact absurd (hs.symm.trans hstatus) (by decide)
  · intro hstatus
    exact absurd (hs.symm.trans hstatus) (by decide)

/-- A running objective is stopped, and the campaign takes a terminal status. -/
theorem Ledger.stoppedWith (h : Ledger ids s) {id : String} (hid : id ∈ s.pendingModules)
    {s' : CampaignState} (hc : s'.completedModules = s.completedModules)
    (hp : s'.pendingModules = s.pendingModules.erase id)
    (hk : s'.skippedModules = s.skippedModules) (ht : s'.stoppedModules = s.stoppedModules ++ [id])
    (hcurrent : s'.currentObjectiveId = none) (hreview : s'.pendingReview = none)
    (hstatus : s'.currentStatus = .stoppedByPolicy ∨ s'.currentStatus = .stoppedByBudget ∨
      s'.currentStatus = .stoppedByCondition ∨ s'.currentStatus = .stoppedByOperator)
    (hflag : s'.operatorStopRequested = true → s'.currentStatus = .stoppedByOperator) :
    Ledger ids s' := by
  refine ⟨?_, hk.trans h.skipped, ?_, ?_, ?_, fun _ => hreview, ?_, hflag⟩
  · rw [CampaignState.allModules, hc, hp, hk, ht]
    exact (perm_stop hid).trans h.perm
  · intro hopen
    rcases hstatus with hs | hs | hs | hs <;> simp [hs] at hopen
  · simp [hcurrent]
  · intro hpaused
    rcases hstatus with hs | hs | hs | hs <;> simp [hs] at hpaused
  · intro hcompleted
    rcases hstatus with hs | hs | hs | hs <;> simp [hs] at hcompleted

/-- An objective is done, and the campaign goes on. -/
theorem Ledger.completedWith (h : Ledger ids s) {id : String} (hid : id ∈ s.pendingModules)
    {s' : CampaignState} (hc : s'.completedModules = s.completedModules ++ [id])
    (hp : s'.pendingModules = s.pendingModules.erase id)
    (hk : s'.skippedModules = s.skippedModules) (ht : s'.stoppedModules = s.stoppedModules)
    (ht' : s.stoppedModules = []) (hcurrent : s'.currentObjectiveId = none)
    (hreview : s'.pendingReview = none)
    (hstatus : s'.currentStatus = .running ∨ s'.currentStatus = .readyToResume)
    (hflag : s'.operatorStopRequested = false) : Ledger ids s' := by
  refine ⟨?_, hk.trans h.skipped, fun _ => ht.trans ht', ?_, ?_, fun _ => hreview, ?_, ?_⟩
  · rw [CampaignState.allModules, hc, hp, hk, ht]
    exact (perm_complete hid).trans h.perm
  · simp [hcurrent]
  · intro hpaused
    rcases hstatus with hs | hs <;> simp [hs] at hpaused
  · intro hcompleted
    rcases hstatus with hs | hs <;> simp [hs] at hcompleted
  · simp [hflag]

/-- The campaign pauses on a pending objective. -/
theorem Ledger.pausedWith (h : Ledger ids s) (hs : s.currentStatus = .running) {id : String}
    (hid : id ∈ s.pendingModules) {s' : CampaignState}
    (hlists : s'.allModules = s.allModules ∧ s'.skippedModules = s.skippedModules ∧
      s'.stoppedModules = s.stoppedModules ∧ s'.pendingModules = s.pendingModules)
    (hcurrent : s'.currentObjectiveId = some id)
    (hstatus : s'.currentStatus = .pausedForHumanReview) (hreview : s'.pendingReview.isSome = true)
    (hphase : s'.reviewPhase = .str "pre_execution" ∨ s'.reviewPhase = .str "post_execution")
    (hflag : s'.operatorStopRequested = s.operatorStopRequested) : Ledger ids s' := by
  obtain ⟨hall, hk, ht, hp⟩ := hlists
  obtain ⟨hstopped, -, hrequested⟩ := h.of_running hs
  refine ⟨hall ▸ h.perm, hk.trans h.skipped, fun _ => ht.trans hstopped, ?_,
    fun _ => ⟨id, hcurrent, hreview, hphase⟩, fun hne => absurd hstatus hne, ?_, ?_⟩
  · intro id' hid'
    rw [hcurrent] at hid'
    cases hid'
    rw [hp]
    exact hid
  · simp [hstatus]
  · rw [hflag, hrequested]
    simp

/-- **Where a dispatched objective can go**, and when. -/
theorem settled_cases (s : CampaignState) (r : Dispatched) :
    let t := (s.accounted r.evidence r.total r.endpoints r.budget).advanced
    (humanGateOnly r.decision = true ∧ s.settled r = t.pausedFor r.id "pre_execution"
      "human approval is required" r.evidence "human approval required") ∨
    (humanGateOnly r.decision = false ∧ r.decision.allowed = false ∧
      s.settled r = t.deniedByGate r.id r.decision.reasons) ∨
    (r.decision.allowed = true ∧ r.outcome = .manualReview ∧
      s.settled r = t.pausedFor r.id "post_execution"
        "manual review required after adapter execution" r.evidence "human review required") ∨
    (r.decision.allowed = true ∧ r.outcome ≠ .manualReview ∧
      s.settled r = t.objectiveDone r.id) := by
  unfold CampaignState.settled
  cases hgate : humanGateOnly r.decision with
  | true => simp
  | false =>
    cases hallowed : r.decision.allowed with
    | false => simp
    | true => by_cases hreview : r.outcome = .manualReview <;> simp [hreview]

theorem Ledger.settled (h : Ledger ids s) (hs : s.currentStatus = .running) {r : Dispatched}
    (hcurrent : s.currentObjectiveId = some r.id) : Ledger ids (s.settled r) := by
  have hid : r.id ∈ s.pendingModules := h.current r.id hcurrent
  obtain ⟨hstopped, hreview, hflag⟩ := h.of_running hs
  rcases settled_cases s r with ⟨-, h'⟩ | ⟨-, -, h'⟩ | ⟨-, -, h'⟩ | ⟨-, -, h'⟩ <;> rw [h']
  · exact h.pausedWith hs hid ⟨rfl, rfl, rfl, rfl⟩ hcurrent rfl rfl (.inl rfl) rfl
  · exact h.stoppedWith hid rfl rfl rfl rfl rfl hreview (.inl rfl)
      (fun hf => absurd (hflag.symm.trans hf) (by decide))
  · exact h.pausedWith hs hid ⟨rfl, rfl, rfl, rfl⟩ hcurrent rfl rfl (.inr rfl) rfl
  · exact h.completedWith hid rfl rfl rfl rfl hstopped rfl hreview (.inl rfl) hflag

/-- A decision can be carried out: an approval is one of a known phase, and what has to leave the
pending objectives is among them. -/
def Settleable (s : CampaignState) (r : ReviewDecision) : Prop :=
  if r.decision = "approved" then
    s.reviewPhase = .str "pre_execution" ∨
      s.reviewPhase = .str "post_execution" ∧ r.objectiveId ∈ s.pendingModules
  else r.objectiveId ∈ s.pendingModules

/-- **Where a reviewed objective can go**, and when. -/
theorem reviewed_cases {s : CampaignState} {r : ReviewDecision} (h : Settleable s r) :
    (r.decision = "approved" ∧ s.reviewPhase = .str "pre_execution" ∧
      s.reviewed r = s.approvedToRun r) ∨
    (r.decision = "approved" ∧ s.reviewPhase = .str "post_execution" ∧
      r.objectiveId ∈ s.pendingModules ∧ s.reviewed r = s.approvedAsDone r) ∨
    (r.decision = "denied" ∧ r.objectiveId ∈ s.pendingModules ∧
      s.reviewed r = s.stoppedByReview r .stoppedByCondition) ∨
    (r.decision ≠ "approved" ∧ r.decision ≠ "denied" ∧ r.objectiveId ∈ s.pendingModules ∧
      s.reviewed r =
        { s.stoppedByReview r .stoppedByOperator with operatorStopRequested := true }) := by
  unfold Settleable at h
  unfold CampaignState.reviewed
  by_cases ha : r.decision = "approved"
  · rw [if_pos ha] at h
    rcases h with hp | ⟨hp, hid⟩
    · simp [ha, hp]
    · simp [ha, hp, hid]
  · rw [if_neg ha] at h
    by_cases hd : r.decision = "denied" <;> simp [ha, hd, h]

/-- A decision on the objective a coherent campaign is paused on can be carried out. -/
theorem Ledger.settleable (h : Ledger ids s) (hs : s.currentStatus = .pausedForHumanReview)
    {r : ReviewDecision} (hcurrent : s.currentObjectiveId = some r.objectiveId) :
    Settleable s r := by
  have hid : r.objectiveId ∈ s.pendingModules := h.current _ hcurrent
  obtain ⟨_, -, -, hphase⟩ := h.paused hs
  unfold Settleable
  by_cases ha : r.decision = "approved"
  · rw [if_pos ha]
    exact hphase.imp id fun hp => ⟨hp, hid⟩
  · rw [if_neg ha]
    exact hid

theorem Ledger.reviewed (h : Ledger ids s) (hs : s.currentStatus = .pausedForHumanReview)
    {r : ReviewDecision} (hcurrent : s.currentObjectiveId = some r.objectiveId) :
    Ledger ids (s.reviewed r) := by
  have hstopped : s.stoppedModules = [] := h.stopped (by simp [hs])
  have hflag : s.operatorStopRequested = false := h.not_requested (by simp [hs])
  rcases reviewed_cases (h.settleable hs hcurrent) with
    ⟨-, -, h'⟩ | ⟨-, -, hid, h'⟩ | ⟨-, hid, h'⟩ | ⟨-, -, hid, h'⟩ <;> rw [h']
  · exact ⟨h.perm, h.skipped, fun _ => hstopped, nofun, nofun, fun _ => rfl, nofun,
      fun hf => absurd (hflag.symm.trans hf) (by decide)⟩
  · exact h.completedWith hid rfl rfl rfl rfl hstopped rfl rfl (.inr rfl) hflag
  · exact h.stoppedWith hid rfl rfl rfl rfl rfl rfl (.inr (.inr (.inl rfl)))
      (fun hf => absurd (hflag.symm.trans hf) (by decide))
  · exact h.stoppedWith hid rfl rfl rfl rfl rfl rfl (.inr (.inr (.inr rfl))) (fun _ => rfl)

theorem Ledger.operatorStopped (h : Ledger ids s) (hids : GoodIds ids) :
    Ledger ids s.operatorStopped := by
  cases hcurrent : s.currentObjectiveId with
  | none =>
    have hno : s.hasCurrent = false := by simp [CampaignState.hasCurrent, hcurrent, isAbsent]
    simp only [CampaignState.operatorStopped, hno, Bool.false_eq_true, if_false, hcurrent]
    exact ⟨h.perm, h.skipped, by simp, by simp, by simp, by simp, by simp, by simp⟩
  | some id =>
    have hid : id ∈ s.pendingModules := h.current id hcurrent
    have hyes : s.hasCurrent = true := by
      simp [CampaignState.hasCurrent, hcurrent, isAbsent, h.current_ne_empty hids hcurrent]
    have hnot : id ∉ s.stoppedModules := by
      have hnodup := h.nodup hids
      simp only [CampaignState.allModules, List.nodup_append', List.disjoint_append_left] at hnodup
      exact hnodup.2.2.1.2 hid
    simp only [CampaignState.operatorStopped, hyes, if_true, hcurrent, if_neg hnot]
    exact h.stoppedWith hid rfl rfl rfl rfl rfl rfl (.inr (.inr (.inr rfl))) (fun _ => rfl)

/-- **Every enabled move keeps the ledger.** -/
theorem Ledger.after {site : Site} {campaign : Dict} {sur : Surroundings} {c : Call} {m : Move}
    (h : Ledger ids s) (hids : GoodIds ids) (hm : m.Enabled site campaign sur c s) :
    Ledger ids (m.after s) := by
  cases m with
  | begin =>
    obtain ⟨-, hstatus, -⟩ := hm
    have hstopped : s.stoppedModules = [] := h.stopped (by tauto)
    have hreview : s.pendingReview = none := h.notPaused (by rcases hstatus with h | h | h <;> simp [h])
    have hflag : s.operatorStopRequested = false :=
      h.not_requested (by rcases hstatus with h | h | h <;> simp [h])
    exact ⟨h.perm, h.skipped, fun _ => hstopped, h.current, by simp [Move.after], fun _ => hreview,
      by simp [Move.after], by simp [Move.after, hflag]⟩
  | dispatch id =>
    obtain ⟨args, objective, budget, -, hcleared⟩ := hm
    exact h.dispatching hcleared.head.running hcleared.head.pending
  | result r =>
    obtain ⟨args, objective, budget, -, hcleared, hdispatches⟩ := hm
    exact h.settled hcleared.head.running hdispatches.current
  | fuzzingStop id evidence signals =>
    obtain ⟨args, objective, -, hhead, -⟩ := hm
    obtain ⟨-, hreview, hflag⟩ := h.of_running hhead.running
    exact h.stoppedWith hhead.pending rfl rfl rfl rfl rfl hreview (.inr (.inr (.inl rfl)))
      (fun hf => absurd (hflag.symm.trans hf) (by decide))
  | lockoutPause id evidence moduleName =>
    obtain ⟨args, objective, -, hhead, -⟩ := hm
    exact h.pausedWith hhead.running hhead.pending ⟨rfl, rfl, rfl, rfl⟩ rfl rfl rfl (.inl rfl) rfl
  | budgetStop id evidence moduleName reason =>
    obtain ⟨args, objective, budget, -, hhead, -⟩ := hm
    obtain ⟨-, hreview, hflag⟩ := h.of_running hhead.running
    exact h.stoppedWith hhead.pending rfl rfl rfl rfl rfl hreview (.inr (.inl rfl))
      (fun hf => absurd (hflag.symm.trans hf) (by decide))
  | finish =>
    simp only [Move.after]
    split_ifs with hdone
    · obtain ⟨hstatus, hpending⟩ := hdone
      obtain ⟨hstopped, hreview, hflag⟩ := h.of_running hstatus
      exact ⟨h.perm, h.skipped, fun _ => hstopped, by simp, by simp, fun _ => hreview,
        fun _ => ⟨hpending, rfl⟩, by simp [hflag]⟩
    · exact h
  | review r =>
    obtain ⟨-, hstatus, -, hcurrent⟩ := hm
    exact h.reviewed hstatus hcurrent
  | stop => exact h.operatorStopped hids

end ledger

/-! ### The header -/

section header

theorem counterAt_mem {counters : List (String × ℤ)} {key : String} {n : ℤ}
    (h : counterAt counters key = .ok n) : (key, n) ∈ counters := by
  unfold counterAt at h
  split at h
  · rename_i m hm
    cases h
    obtain ⟨l₁, l₂, rfl, -⟩ := List.lookup_eq_some_iff.mp hm
    simp
  · cases h

theorem setCounter_mem {key : String} {n : ℤ} {counters : List (String × ℤ)} {c : String × ℤ}
    (h : c ∈ setCounter key n counters) : c = (key, n) ∨ c ∈ counters := by
  induction counters with
  | nil => exact .inl (by simpa [setCounter] using h)
  | cons d ds ih =>
    simp only [setCounter] at h
    split_ifs at h with hd
    · rcases List.mem_cons.mp h with h | h
      · exact .inl h
      · exact .inr (List.mem_cons_of_mem _ h)
    · rcases List.mem_cons.mp h with h | h
      · exact .inr (h ▸ List.mem_cons_self)
      · exact (ih h).imp_right (List.mem_cons_of_mem _)

theorem setDefaults_mem {keys : List String} {counters : List (String × ℤ)} {c : String × ℤ}
    (h : c ∈ setDefaults counters keys) : c.2 = 0 ∨ c ∈ counters := by
  induction keys generalizing counters with
  | nil => exact .inr h
  | cons key keys ih =>
    rcases ih h with h | h
    · exact .inl h
    · split_ifs at h with hkey
      · exact .inr h
      · rcases List.mem_append.mp h with h | h
        · exact .inr h
        · exact .inl (by rw [List.mem_singleton.mp h])

/-- The budget of an invocation, read off the state it starts from. -/
theorem budgetOf_eq_ok {site : Site} {limits : CampaignLimits} {scope : Dict} {s : CampaignState}
    {b : SafetyBudget} (h : budgetOf site limits scope s = .ok b) :
    ∃ maxRequests perMinute total minute, counterAt s.requestCounters "total" = .ok total ∧
      counterAt s.rateLimitCounters "current_minute" = .ok minute ∧
      b = ⟨limits.maxIterations, limits.maxRuntimeSeconds, min limits.maxRequests maxRequests,
        perMinute, limits.maxConsecutiveFailures, s.nextIteration - 1, total, minute,
        s.consecutiveFailures⟩ := by
  simp only [budgetOf, bind_eq_ok] at h
  obtain ⟨_, -, _, -, maxRequests, -, _, -, perMinute, -, total, htotal, minute, hminute, h⟩ := h
  cases h
  exact ⟨maxRequests, perMinute, total, minute, htotal, hminute, rfl⟩

theorem record_eq_ok {b b' : SafetyBudget} {n : ℤ} {failed : Bool} (h : b.record n failed = .ok b') :
    0 ≤ n ∧ b' = { b with
      iterations := b.iterations + 1
      requests := b.requests + n
      currentMinuteRequests := b.currentMinuteRequests + n
      consecutiveFailures := if failed then b.consecutiveFailures + 1 else 0 } := by
  unfold SafetyBudget.record at h
  by_cases hn : n < 0
  · rw [if_pos hn] at h
    cases h
  · rw [if_neg hn] at h
    exact ⟨by omega, (Except.ok.inj h).symm⟩

variable {rt : Runtime} {s : CampaignState}

/-- A state with the same header fields, except that the iteration has advanced. -/
theorem Header.advance (h : Header rt s) {s' : CampaignState} (hschema : s'.schemaVersion = s.schemaVersion)
    (hid : s'.campaignId = s.campaignId ∧ s'.campaignName = s.campaignName)
    (hhashes : s'.campaignDefinitionHash = s.campaignDefinitionHash ∧
      s'.scopeFileHash = s.scopeFileHash) (hstart : s'.startTime = s.startTime)
    (hnext : s.nextIteration ≤ s'.nextIteration) (hfail : 0 ≤ s'.consecutiveFailures)
    (hreq : ∀ c ∈ s'.requestCounters, 0 ≤ c.2) (hend : ∀ c ∈ s'.endpointRequestCounters, 0 ≤ c.2)
    (hrate : ∀ c ∈ s'.rateLimitCounters, 0 ≤ c.2) (hrev : s'.reviewedObjectives.Nodup) :
    Header rt s' := by
  have hiteration := h.iteration
  exact ⟨hschema ▸ h.schema, hid.1 ▸ hid.2 ▸ h.identity, hhashes.1 ▸ hhashes.2 ▸ h.hashes,
    hstart ▸ h.started, by omega, hfail, hreq, hend, hrate, hrev⟩

/-- A state that differs from another one in no header field but the iteration. -/
theorem Header.same (h : Header rt s) {s' : CampaignState} (hschema : s'.schemaVersion = s.schemaVersion)
    (hid : s'.campaignId = s.campaignId ∧ s'.campaignName = s.campaignName)
    (hhashes : s'.campaignDefinitionHash = s.campaignDefinitionHash ∧
      s'.scopeFileHash = s.scopeFileHash) (hstart : s'.startTime = s.startTime)
    (hnext : s.nextIteration ≤ s'.nextIteration)
    (hcounters : s'.consecutiveFailures = s.consecutiveFailures ∧
      s'.requestCounters = s.requestCounters ∧
      s'.endpointRequestCounters = s.endpointRequestCounters ∧
      s'.rateLimitCounters = s.rateLimitCounters)
    (hrev : s'.reviewedObjectives = s.reviewedObjectives) : Header rt s' :=
  h.advance hschema hid hhashes hstart hnext (hcounters.1 ▸ h.failures)
    (hcounters.2.1 ▸ h.requests) (hcounters.2.2.1 ▸ h.endpoints) (hcounters.2.2.2 ▸ h.rates)
    (hrev ▸ h.reviewed)

/-- What a dispatch leaves in the counters is not negative. -/
theorem Header.accounted (h : Header rt s) {site : Site} {campaign : Dict} {sur : Surroundings}
    {args : RunArgs} {objective : Dict} {budget : SafetyBudget} {r : Dispatched}
    (hbudget : BudgetAt site campaign args s budget)
    (hr : Dispatches site sur args s objective budget r) :
    Header rt (s.accounted r.evidence r.total r.endpoints r.budget).advanced := by
  obtain ⟨_, -, hbudget⟩ := hbudget
  obtain ⟨_, _, total, minute, -, hminute, rfl⟩ := budgetOf_eq_ok hbudget
  obtain ⟨result, -, -, ⟨total', htotal, hr_total⟩, hrecord⟩ := hr.executed
  obtain ⟨hn, hr_budget⟩ := record_eq_ok hrecord
  have htotal_pos : 0 ≤ total' := h.requests _ (counterAt_mem htotal)
  have hminute_pos : 0 ≤ minute := h.rates _ (counterAt_mem hminute)
  have hfail := h.failures
  refine h.advance rfl ⟨rfl, rfl⟩ ⟨rfl, rfl⟩ rfl ?_ ?_ ?_ ?_ ?_ h.reviewed
  · show s.nextIteration ≤ s.nextIteration + 1
    omega
  · show 0 ≤ r.budget.consecutiveFailures
    rw [hr_budget]
    dsimp only
    split_ifs <;> omega
  · intro c hc
    rcases setCounter_mem hc with rfl | hc
    · show 0 ≤ r.total
      omega
    · exact h.requests c hc
  · intro c hc
    rcases setDefaults_mem hc with hc | hc
    · omega
    · exact h.endpoints c hc
  · intro c hc
    rcases setCounter_mem hc with rfl | hc
    · show 0 ≤ r.budget.currentMinuteRequests
      rw [hr_budget]
      show 0 ≤ minute + _
      omega
    · exact h.rates c hc

/-- **Every enabled move keeps the header.** -/
theorem Header.after {site : Site} {campaign : Dict} {sur : Surroundings} {c : Call} {m : Move}
    (h : Header rt s) (hm : m.Enabled site campaign sur c s) : Header rt (m.after s) := by
  have hnext : s.nextIteration ≤ s.nextIteration + 1 := by omega
  cases m with
  | begin => exact h.same rfl ⟨rfl, rfl⟩ ⟨rfl, rfl⟩ rfl le_rfl ⟨rfl, rfl, rfl, rfl⟩ rfl
  | dispatch id => exact h.same rfl ⟨rfl, rfl⟩ ⟨rfl, rfl⟩ rfl le_rfl ⟨rfl, rfl, rfl, rfl⟩ rfl
  | result r =>
    obtain ⟨args, objective, budget, -, hcleared, hdispatches⟩ := hm
    have haccounted := h.accounted hcleared.budgetAt hdispatches
    show Header rt (s.settled r)
    rcases settled_cases s r with ⟨-, h'⟩ | ⟨-, -, h'⟩ | ⟨-, -, h'⟩ | ⟨-, -, h'⟩ <;> rw [h'] <;>
      exact haccounted.same rfl ⟨rfl, rfl⟩ ⟨rfl, rfl⟩ rfl le_rfl ⟨rfl, rfl, rfl, rfl⟩ rfl
  | fuzzingStop id evidence signals =>
    exact h.same rfl ⟨rfl, rfl⟩ ⟨rfl, rfl⟩ rfl hnext ⟨rfl, rfl, rfl, rfl⟩ rfl
  | lockoutPause id evidence moduleName =>
    exact h.same rfl ⟨rfl, rfl⟩ ⟨rfl, rfl⟩ rfl hnext ⟨rfl, rfl, rfl, rfl⟩ rfl
  | budgetStop id evidence moduleName reason =>
    exact h.same rfl ⟨rfl, rfl⟩ ⟨rfl, rfl⟩ rfl hnext ⟨rfl, rfl, rfl, rfl⟩ rfl
  | finish =>
    simp only [Move.after]
    split_ifs
    · exact h.same rfl ⟨rfl, rfl⟩ ⟨rfl, rfl⟩ rfl le_rfl ⟨rfl, rfl, rfl, rfl⟩ rfl
    · exact h
  | review r =>
    have hreviewed : (if r.objectiveId ∈ s.reviewedObjectives then s.reviewedObjectives
        else s.reviewedObjectives ++ [r.objectiveId]).Nodup := by
      split_ifs with hid
      · exact h.reviewed
      · exact List.nodup_append'.mpr ⟨h.reviewed, List.nodup_singleton _,
          List.disjoint_singleton.mpr hid⟩
    simp only [Move.after, CampaignState.reviewed]
    split_ifs
    · exact h.advance rfl ⟨rfl, rfl⟩ ⟨rfl, rfl⟩ rfl le_rfl h.failures h.requests h.endpoints h.rates
        hreviewed
    all_goals exact h.same rfl ⟨rfl, rfl⟩ ⟨rfl, rfl⟩ rfl le_rfl ⟨rfl, rfl, rfl, rfl⟩ rfl
  | stop => exact h.same rfl ⟨rfl, rfl⟩ ⟨rfl, rfl⟩ rfl le_rfl ⟨rfl, rfl, rfl, rfl⟩ rfl

end header

/-! ### The log -/

/-- An event records its arguments. -/
structure CampaignEvent.Records (e : CampaignEvent) (a : EventArgs) : Prop where
  iterationId : e.iterationId = .str a.iterationId
  eventType : e.eventType = .str a.eventType
  objectiveId : e.objectiveId = optText a.objectiveId
  moduleName : e.moduleName = optText a.moduleName
  policyDecision : e.policyDecision = optText a.policyDecision
  outcome : e.outcome = .str a.outcome
  evidenceDirectory : e.evidenceDirectory = optText a.evidenceDirectory
  details : e.details = .obj a.details

theorem nextEvent_records (rt : Runtime) (s : CampaignState) (id now : String) (a : EventArgs) :
    (nextEvent rt s id now a).Records a :=
  ⟨rfl, rfl, rfl, rfl, rfl, rfl, rfl, rfl⟩

/-- **What some appends leave**: the same state with more events, chained if they were. -/
theorem logged_spec (rt : Runtime) (s : CampaignState) (xs : List Entry) :
    ∃ es hash, s.logged rt xs = { s with events := s.events ++ es, lastEventHash := hash } ∧
      List.Forall₂ CampaignEvent.Records es (xs.map Entry.args) ∧
      (LogState rt s → LogState rt (s.logged rt xs)) ∧
      ((∀ h ∈ s.lastEventHash, isSha256Text h = true) → ∀ h ∈ hash, isSha256Text h = true) := by
  induction xs generalizing s with
  | nil => exact ⟨[], s.lastEventHash, by simp [CampaignState.logged], .nil, id, id⟩
  | cons x xs ih =>
    obtain ⟨es, hash, heq, hrecords, hlog, hhex⟩ :=
      ih (s.withEvent rt (nextEvent rt s x.id x.now x.args))
    refine ⟨nextEvent rt s x.id x.now x.args :: es, hash, ?_,
      .cons (nextEvent_records rt s x.id x.now x.args) hrecords,
      fun h => hlog (h.withEvent x.id x.now x.args), fun _ => hhex ?_⟩
    · rw [CampaignState.logged, heq]
      simp [CampaignState.withEvent]
    · rintro h ⟨⟩
      exact digest_hex rt _

theorem logged_append (rt : Runtime) (s : CampaignState) (xs ys : List Entry) :
    s.logged rt (xs ++ ys) = (s.logged rt xs).logged rt ys := by
  induction xs generalizing s with
  | nil => rfl
  | cons x xs ih => exact ih _

/-- Appends and a change of status do not see each other. -/
theorem logged_status (rt : Runtime) (s : CampaignState) (status : Status) (xs : List Entry) :
    CampaignState.logged rt { s with currentStatus := status } xs =
      { s.logged rt xs with currentStatus := status } := by
  induction xs generalizing s with
  | nil => rfl
  | cons x xs ih => exact ih (s.withEvent rt (nextEvent rt s x.id x.now x.args))

/-- No move touches the log by itself. -/
theorem Move.after_log (m : Move) (s : CampaignState) :
    (m.after s).events = s.events ∧ (m.after s).lastEventHash = s.lastEventHash ∧
      (m.after s).eventLogPath = s.eventLogPath := by
  cases m with
  | result r =>
    simp only [Move.after]
    rcases settled_cases s r with ⟨-, h⟩ | ⟨-, -, h⟩ | ⟨-, -, h⟩ | ⟨-, -, h⟩ <;> rw [h] <;>
      exact ⟨rfl, rfl, rfl⟩
  | finish =>
    simp only [Move.after]
    split_ifs <;> exact ⟨rfl, rfl, rfl⟩
  | review r =>
    simp only [Move.after, CampaignState.reviewed]
    split_ifs <;> exact ⟨rfl, rfl, rfl⟩
  | _ => exact ⟨rfl, rfl, rfl⟩

/-- No move touches the times and the revision by itself. -/
theorem Move.after_times (m : Move) (s : CampaignState) :
    (m.after s).lastUpdatedTime = s.lastUpdatedTime ∧
      (m.after s).elapsedSeconds = s.elapsedSeconds ∧
      (m.after s).stateRevision = s.stateRevision := by
  cases m with
  | result r =>
    simp only [Move.after]
    rcases settled_cases s r with ⟨-, h⟩ | ⟨-, -, h⟩ | ⟨-, -, h⟩ | ⟨-, -, h⟩ <;> rw [h] <;>
      exact ⟨rfl, rfl, rfl⟩
  | finish =>
    simp only [Move.after]
    split_ifs <;> exact ⟨rfl, rfl, rfl⟩
  | review r =>
    simp only [Move.after, CampaignState.reviewed]
    split_ifs <;> exact ⟨rfl, rfl, rfl⟩
  | _ => exact ⟨rfl, rfl, rfl⟩

/-- **What a move leaves**, spelled out. -/
theorem Moved.spec {site : Site} {sur : Surroundings} {m : Move} {b s : CampaignState}
    (h : Moved site sur m b s) : ∃ es hash now elapsed revision,
      s = { m.after b with
        events := b.events ++ es, lastEventHash := hash, lastUpdatedTime := now
        elapsedSeconds := elapsed, stateRevision := revision } ∧
      List.Forall₂ CampaignEvent.Records es (m.events b) ∧
      timestampValid site.rt now = true ∧ sur.Elapses b.elapsedSeconds elapsed ∧
      b.stateRevision ≤ revision ∧ (LogState site.rt b → LogState site.rt s) ∧
      ((∀ h ∈ b.lastEventHash, isSha256Text h = true) → ∀ h ∈ hash, isSha256Text h = true) := by
  obtain ⟨entries, now, elapsed, revision, hargs, hnow, helapsed, hrevision, rfl⟩ := h
  obtain ⟨hevents, hlast, -⟩ := m.after_log b
  obtain ⟨es, hash, heq, hrecords, hlog, hhex⟩ := logged_spec site.rt (m.after b) entries
  rw [hargs] at hrecords
  rw [hlast] at hhex
  refine ⟨es, hash, now, elapsed, revision, by rw [heq, hevents], hrecords, hnow, helapsed,
    hrevision, ?_, hhex⟩
  intro hb
  have hafter : LogState site.rt (m.after b) := by
    obtain ⟨hchained, htip⟩ := hb
    exact ⟨hevents ▸ hchained, by rw [hevents, hlast, htip]⟩
  obtain ⟨hchained, htip⟩ := hlog hafter
  exact ⟨hchained, htip⟩

/-! ### Coherence -/

theorem LogState.of_fields {rt : Runtime} {s s' : CampaignState} (h : LogState rt s)
    (hevents : s'.events = s.events) (hlast : s'.lastEventHash = s.lastEventHash) :
    LogState rt s' :=
  ⟨hevents ▸ h.chained, by rw [hevents, hlast, h.tip_eq]⟩

/-- The ledger does not see times, events and revision. -/
theorem Ledger.of_after {ids : List String} {s : CampaignState} (h : Ledger ids s)
    (events : List CampaignEvent) (hash : Option String) (now : String) (elapsed : ℚ)
    (revision : ℤ) : Ledger ids { s with
      events := events, lastEventHash := hash, lastUpdatedTime := now
      elapsedSeconds := elapsed, stateRevision := revision } :=
  ⟨h.perm, h.skipped, h.stopped, h.current, h.paused, h.notPaused, h.completed, h.operatorStop⟩

/-- The header does not see them either. -/
theorem Header.of_after {rt : Runtime} {s : CampaignState} (h : Header rt s)
    (events : List CampaignEvent) (hash : Option String) (now : String) (elapsed : ℚ)
    (revision : ℤ) : Header rt { s with
      events := events, lastEventHash := hash, lastUpdatedTime := now
      elapsedSeconds := elapsed, stateRevision := revision } :=
  ⟨h.schema, h.identity, h.hashes, h.started, h.iteration, h.failures, h.requests, h.endpoints,
    h.rates, h.reviewed⟩

section coherent

variable {site : Site} {campaign : Dict} {sur : Surroundings} {ids : List String}
  {b s : CampaignState}

/-- A coherent state that a campaign has begun with: the states that are persisted. -/
structure Persisted (site : Site) (ids : List String) (s : CampaignState) : Prop extends
    Coherent site ids s where
  notPlanned : s.currentStatus ≠ .planned

/-- Nothing but the beginning of an invocation leaves `planned`. -/
theorem Move.Enabled.eq_begin {c : Call} {m : Move} (h : m.Enabled site campaign sur c b)
    (hb : b.currentStatus = .planned) : m = .begin := by
  have hhead {id : String} {objective : Dict} : ¬ Head site campaign sur b id objective :=
    fun hhead => absurd (hb.symm.trans hhead.running) (by decide)
  cases m with
  | begin => rfl
  | dispatch id =>
    obtain ⟨_, _, _, -, hcleared⟩ := h
    exact absurd hcleared.head hhead
  | result r =>
    obtain ⟨_, _, _, -, hcleared, -⟩ := h
    exact absurd hcleared.head hhead
  | fuzzingStop id evidence signals =>
    obtain ⟨_, _, -, h, -⟩ := h
    exact absurd h hhead
  | lockoutPause id evidence moduleName =>
    obtain ⟨_, _, -, h, -⟩ := h
    exact absurd h hhead
  | budgetStop id evidence moduleName reason =>
    obtain ⟨_, _, _, -, h, -⟩ := h
    exact absurd h hhead
  | finish => exact absurd hb h.2
  | review r => exact absurd (hb.symm.trans h.2.1) (by decide)
  | stop => exact absurd hb h.2.2.2

/-- No move leads back to `planned`. -/
theorem Move.after_notPlanned {m : Move} (h : b.currentStatus = .planned → m = .begin) :
    (m.after b).currentStatus ≠ .planned := by
  cases m with
  | dispatch id => exact fun hb => nomatch h hb
  | result r =>
    simp only [Move.after]
    rcases settled_cases b r with ⟨-, h'⟩ | ⟨-, -, h'⟩ | ⟨-, -, h'⟩ | ⟨-, -, h'⟩ <;> rw [h'] <;>
      exact nofun
  | finish =>
    simp only [Move.after]
    split_ifs
    · exact nofun
    · exact fun hb => nomatch h hb
  | review r =>
    simp only [Move.after, CampaignState.reviewed]
    split_ifs <;> exact nofun
  | _ => exact nofun

/-- A move leaves a state with events. -/
theorem Move.events_ne_nil {c : Call} {m : Move} (hb : Coherent site ids b)
    (hm : m.Enabled site campaign sur c b) {es : List CampaignEvent}
    (hes : List.Forall₂ CampaignEvent.Records es (m.events b)) : b.events ++ es ≠ [] := by
  by_cases hplanned : b.currentStatus = .planned
  · obtain rfl := hm.eq_begin hplanned
    by_cases hevents : b.events = []
    · have hlen := hes.length_eq
      rintro h
      rw [List.append_eq_nil_iff] at h
      simp [h.2, Move.events, startedEvents, hevents] at hlen
    · simp [hevents]
  · simp [(hb.begun hplanned).1]

/-- **Every enabled move keeps a state coherent.** -/
theorem Coherent.moved {c : Call} {m : Move} (hb : Coherent site ids b) (hids : GoodIds ids)
    (hm : m.Enabled site campaign sur c b) (h : Moved site sur m b s) : Persisted site ids s := by
  obtain ⟨es, hash, now, elapsed, revision, rfl, hes, hnow, helapsed, hrevision, hlog, hhex⟩ := h.spec
  have hne : b.events ++ es ≠ [] := Move.events_ne_nil hb hm hes
  have hpath : ∃ path, resolveEventLog site b = .ok path := by
    by_cases hplanned : b.currentStatus = .planned
    · obtain rfl := hm.eq_begin hplanned
      exact hm.2.2
    · exact (hb.begun hplanned).2
  have hlogPath : (m.after b).eventLogPath = b.eventLogPath := (m.after_log b).2.2
  refine ⟨⟨(hb.ledger.after hids hm).of_after _ _ _ _ _, (hb.header.after hm).of_after _ _ _ _ _,
    hlog hb.log, hhex hb.lastHash, hnow, hb.elapsed.trans helapsed.1, hb.revision.trans hrevision,
    fun _ => ⟨hne, ?_⟩⟩, Move.after_notPlanned hm.eq_begin⟩
  obtain ⟨path, hpath⟩ := hpath
  refine ⟨path, ?_⟩
  simpa [resolveEventLog, hlogPath] using hpath

/-- Saving keeps a state persisted. -/
theorem Persisted.saved (h : Persisted site ids s) : Persisted site ids s.saved := by
  have hrevision : 0 ≤ s.stateRevision + 1 := by
    have := h.revision
    omega
  exact ⟨⟨h.ledger.of_after s.events s.lastEventHash s.lastUpdatedTime s.elapsedSeconds _,
    h.header.of_after s.events s.lastEventHash s.lastUpdatedTime s.elapsedSeconds _,
    h.log.of_fields rfl rfl, h.lastHash, h.updated, h.elapsed, hrevision, h.begun⟩, h.notPlanned⟩

theorem idsOf_perm {ordered objectives : List Dict} {ids : List String}
    (hperm : ordered.Perm objectives) (h : idsOf site ordered = .ok ids)
    (hobjectives : idsOf site objectives = .ok (objectives.map rawId)) :
    ids.Perm (objectives.map rawId) := by
  have hsome : ∀ {l : List Dict} {ids : List String}, idsOf site l = .ok ids →
      ids = l.filterMap fun o => (objectiveIdOf site.rt o).toOption := by
    intro l ids h
    replace h := mapM_eq_ok.mp h
    induction h with
    | nil => rfl
    | cons hx _ ih => rw [List.filterMap_cons_some (by rw [hx]; rfl), ← ih]
  rw [hsome h, hsome hobjectives]
  exact hperm.filterMap _

theorem Initial.events (h : Initial site campaign s) : s.events = [] := by
  obtain ⟨_, _, _, _, _, _, _, -, -, -, -, -, h⟩ := h
  simp only [initialState, bind_eq_ok] at h
  obtain ⟨_, -, _, -, h⟩ := h
  cases h
  rfl

/-- **A new campaign is coherent.** -/
theorem Initial.coherent {p : CampaignDefinition} {objectives : List Dict}
    (hshape : CampaignShape campaign p objectives) (h : Initial site campaign s) :
    Coherent site (objectives.map rawId) s := by
  obtain ⟨scope, parsed, objectives', ordered, ids, now, scopeText, hparsed, hraw, hschedule, hids,
    hnow, hinit⟩ := h
  obtain rfl : objectives' = objectives := Except.ok.inj (hraw.symm.trans hshape.raw)
  obtain ⟨_, hshape'⟩ := campaignShape_of_parse hparsed
  simp only [initialState, bind_eq_ok] at hinit
  obtain ⟨roe, -, authorization, -, hinit⟩ := hinit
  cases hinit
  have hobjectives := hshape.idsOf site
  have hperm := idsOf_perm (schedule_perm hschedule (hshape.rawIds_nodup site.rt)) hids hobjectives
  refine ⟨⟨?_, rfl, fun _ => rfl, nofun, nofun, fun _ => rfl, nofun, nofun⟩,
    ⟨rfl, hshape'.identity, ⟨digest_hex _ _, site.rt.sha256_hex _⟩, hnow, le_refl _, le_refl _,
      by simp, by simp, by simp, List.nodup_nil⟩,
    LogState.of_empty rfl rfl, nofun, hnow, le_refl _, le_refl _, fun h => absurd rfl h⟩
  simpa [CampaignState.allModules] using hperm

end coherent

end Aotp.Campaign
