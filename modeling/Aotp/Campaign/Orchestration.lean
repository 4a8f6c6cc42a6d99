import Aotp.Campaign.Budgets
import Aotp.Campaign.Pausing

/-!
# The campaign as a durable graph

* `Orchestrator`, `GraphNode` — the two nodes of the graph, the routes between them, and the limit on
  the nodes one invocation executes.
* `Answers`, `Truthful` — what the world answers over the life of one orchestrator.
* `invoke`, `start`, `resume`, `session` — an invocation executes nodes until the graph ends, waits for
  a review, raises, or the limit is used up; a session is a start and some resumes.
* `campaignStep_stepped` — **a campaign step that leaves the campaign running has begun one more
  iteration, and one was left**.
* `graph_ends` — **no invocation uses up the limit**.
-/

namespace Aotp.Campaign

open PyData Aotp.Gate Effects

/-! ### The graph -/

/-- Source: `langgraph_orchestration.TERMINAL_STATUSES` -/
def terminalStatuses : List Status :=
  [.completed, .stoppedByPolicy, .stoppedByOperator, .stoppedByBudget, .stoppedByCondition, .failed]

/-- Source: `langgraph_orchestration.GraphCampaignState` -/
structure GraphState where
  scopeSha256 : String
  campaignSha256 : String
  status : Status
  currentObjectiveId : Option String
  steps : ℕ

/-- Source: `langgraph_orchestration.LangGraphCampaignOrchestrator` -/
structure Orchestrator where
  scope : Dict
  programProfile : Option Dict := none
  operatorApproval : Option Dict := none
  live : Bool := false
  operatorApproved : Bool := false
  campaign : Dict
  parsed : CampaignDefinition
  accepted : parseCampaign campaign = .ok parsed
  scopeSha256 : String
  campaignSha256 : String

/-- Source: `langgraph_orchestration._build_graph`, the nodes -/
inductive GraphNode where
  | campaignStep
  | humanReview
  deriving DecidableEq

namespace Orchestrator

variable (site : Site) (o : Orchestrator)

/-- `max_iterations * 4 + 20`.
Source: `langgraph_orchestration.LangGraphCampaignOrchestrator`, `recursion_limit` -/
def recursionLimit : ℕ := (o.parsed.limits.maxIterations * 4 + 20).toNat

/-- The arguments of the invocation of a step. -/
def args : RunArgs where
  scope := o.scope
  programProfile := o.programProfile
  operatorApproval := o.operatorApproval
  live := o.live
  operatorApproved := o.operatorApproved
  maxSteps := some 1

/-- Source: `langgraph_orchestration._initial_state` -/
def initialState : GraphState := ⟨o.scopeSha256, o.campaignSha256, .planned, none, 0⟩

/-- A state whose status is terminal is left as it is, any other one goes through one step of the loop.
Source: `langgraph_orchestration._campaign_step` -/
def campaignStep (g : GraphState) : Code Unit GraphState := do
  let here ← call Op.checkpointExists
  if here then
    let s ← loadState
    if s.currentStatus ∈ terminalStatuses then
      pure { g with status := s.currentStatus, currentObjectiveId := s.currentObjectiveId }
    else
      let s ← runCampaign site o.args o.campaign (some s)
      pure { g with
        status := s.currentStatus, currentObjectiveId := s.currentObjectiveId, steps := g.steps + 1 }
  else
    let s ← runCampaign site o.args o.campaign none
    pure { g with
      status := s.currentStatus, currentObjectiveId := s.currentObjectiveId, steps := g.steps + 1 }

/-- Without a review the node interrupts the graph.
Source: `langgraph_orchestration._human_review` -/
def humanReview (review : Option Json) (g : GraphState) : Code Unit (Option GraphState) := do
  let s ← loadState
  match review with
  | none => pure none
  | some (.obj data) =>
    let s ← within s (applyReviewDecision site data)
    pure (some { g with status := s.currentStatus, currentObjectiveId := s.currentObjectiveId })
  | some _ => throw (.valueError "LangGraph review resume value must be a review mapping")

/-- The code of a node; `none` is an interrupt. -/
def perform (review : Option Json) (g : GraphState) : GraphNode → Code Unit (Option GraphState)
  | .campaignStep => do
    let g ← o.campaignStep site g
    pure (some g)
  | .humanReview => humanReview site review g

/-- Where the graph goes after a node; `none` is its end.
Source: `langgraph_orchestration._route_after_step`, `langgraph_orchestration._route_after_review` -/
def route (g : GraphState) : GraphNode → Option GraphNode
  | .campaignStep =>
    if g.status = .running then some .campaignStep
    else if g.status = .pausedForHumanReview then some .humanReview
    else none
  | .humanReview => if g.status = .readyToResume then some .campaignStep else none

end Orchestrator

/-! ### Sessions -/

/-- What the world answers after some steps. -/
abbrev Answers := List Step → (op : Op) → Res op

/-- The world and its clock, from a world on. -/
def circumstances (site : Site) : Monitor Op Res (World × Option ℚ) :=
  (world site.rt).prod (ambient openSurroundings)

/-- The world gives only answers it can give. -/
def Truthful (site : Site) (w : World) (answers : Answers) : Prop :=
  ∀ past op, (circumstances site).legal ((circumstances site).run (w, none) past) op (answers past op)

/-- The run of a program after some steps: its result, and all steps. -/
def play {α : Type} (answers : Answers) (p : Prog Op Res α) (past : List Step) : α × List Step :=
  (exec (fun past op => (answers past op, past ++ [⟨op, answers past op⟩])) p past).2

/-- How an invocation of the graph ends. -/
inductive Outcome where
  | ended
  | interrupted
  | raised (e : Exc)
  | recursionLimit

/-- What the graph remembers: its state, and the node that is next. -/
structure Thread where
  values : GraphState
  next : Option GraphNode

namespace Orchestrator

variable (site : Site) (o : Orchestrator) (answers : Answers)

/-- An invocation of the graph that may execute so many nodes. -/
def invoke : ℕ → GraphNode → Option Json → GraphState → List Step → Outcome × Thread × List Step
  | 0, node, _, g, past => (.recursionLimit, ⟨g, some node⟩, past)
  | fuel + 1, node, review, g, past =>
    match play answers (Proc.start (o.perform site review g node) ()) past with
    | ((.error e, _), past) => (.raised e, ⟨g, some node⟩, past)
    | ((.ok none, _), past) => (.interrupted, ⟨g, some node⟩, past)
    | ((.ok (some g), _), past) =>
      match route g node with
      | none => (.ended, ⟨g, none⟩, past)
      | some next => invoke fuel next none g past

/-- Source: `langgraph_orchestration.LangGraphCampaignOrchestrator.start`, of a new thread -/
def start (past : List Step) : Outcome × Thread × List Step :=
  o.invoke site answers o.recursionLimit .campaignStep none o.initialState past

/-- Source: `langgraph_orchestration._verify_checkpoint_inputs` -/
def verifyCheckpointInputs (g : GraphState) : Except Exc Unit := do
  guardE (g.scopeSha256 == o.scopeSha256)
    (.valueError "LangGraph checkpoint scope hash does not match current scope")
  guardE (g.campaignSha256 == o.campaignSha256)
    (.valueError "LangGraph checkpoint campaign hash does not match current campaign")

/-- Source: `langgraph_orchestration.LangGraphCampaignOrchestrator.resume` -/
def resume (review : Json) (t : Thread) (past : List Step) : Outcome × Thread × List Step :=
  match o.verifyCheckpointInputs t.values with
  | .error e => (.raised e, t, past)
  | .ok _ =>
    if t.next = some .humanReview then
      o.invoke site answers o.recursionLimit .humanReview (some review) t.values past
    else (.raised (.valueError "LangGraph campaign is not waiting for human review"), t, past)

/-- The resumes of a session, one for each review: how each ends, and with what state. -/
def resumes : List Json → Thread → List Step → List (Outcome × GraphState)
  | [], _, _ => []
  | review :: reviews, t, past =>
    let (outcome, t', past') := o.resume site answers review t past
    (outcome, t'.values) :: resumes reviews t' past'

/-- A session: a start, and a resume for each review. -/
def session (reviews : List Json) : List (Outcome × GraphState) :=
  let (outcome, t, past) := o.start site answers []
  (outcome, t.values) :: o.resumes site answers reviews t past

end Orchestrator

/-- **How an invocation should end**: with a terminal status, with the graph waiting for a review, or
with an exception of a node. -/
def Settles (x : Outcome × GraphState) : Prop :=
  x.1 = .ended ∧ x.2.status ∈ terminalStatuses ∨
    x.1 = .interrupted ∧ x.2.status = .pausedForHumanReview ∨ ∃ e, x.1 = .raised e

/-! ### One step of the loop -/

section step

variable {site : Site} {campaign : Dict} {sur : Surroundings} {c : Call} {args : RunArgs}
  {p : CampaignDefinition} {objectives : List Dict} {b s : CampaignState}

/-- **What one step of the loop may come to** before iteration `n`: it ends or pauses the campaign, or
the iteration has begun, and was left. -/
def Stepped (limit n : ℤ) (s : CampaignState) : Prop :=
  s.currentStatus ∈ terminalStatuses ∨ s.currentStatus = .pausedForHumanReview ∨
    s.currentStatus = .running ∧ s.nextIteration = n + 1 ∧ n ≤ limit

/-- **A turn of the loop is a step.** -/
theorem Turn.stepped (h : Turn site campaign sur c b s) (hp : parseCampaign campaign = .ok p) :
    Stepped p.limits.maxIterations b.nextIteration s := by
  cases h with
  | exit m hexit hm h =>
    obtain ⟨_, _, _, _, _, rfl, -⟩ := h.spec
    cases m with
    | fuzzingStop id evidence signals =>
      exact .inl (show Status.stoppedByCondition ∈ terminalStatuses by decide)
    | lockoutPause id evidence moduleName => exact .inr (.inl rfl)
    | budgetStop id evidence moduleName reason =>
      exact .inl (show Status.stoppedByBudget ∈ terminalStatuses by decide)
    | _ => exact hexit.elim
  | dispatch b' r hm h hm' h' =>
    obtain ⟨_, _, _, _, _, hb', -⟩ := h.spec
    have hnext : b'.nextIteration = b.nextIteration := by rw [hb']; rfl
    obtain ⟨_, _, _, -, hcleared, -⟩ := hm'
    have hleft := hcleared.iteration_left hp
    obtain ⟨_, _, _, _, _, rfl, -⟩ := h'.spec
    rcases settled_cases b' r with ⟨-, hs⟩ | ⟨-, -, hs⟩ | ⟨-, -, hs⟩ | ⟨-, -, hs⟩ <;>
      rw [Move.after, hs]
    · exact .inr (.inl rfl)
    · exact .inl (show Status.stoppedByPolicy ∈ terminalStatuses by decide)
    · exact .inr (.inl rfl)
    · refine .inr (.inr ⟨rfl, ?_, by omega⟩)
      show b'.nextIteration + 1 = _
      rw [hnext]

/-- With one step to take, the loop takes one turn, or finds nothing left. -/
theorem Loops.stepped (h : Loops site campaign sur c args 0 b s) (hsteps : args.maxSteps = some 1)
    (hp : parseCampaign campaign = .ok p) :
    NothingLeft site campaign b ∧ s = b ∨ Stepped p.limits.maxIterations b.nextIteration s := by
  have hspent (steps : ℤ) : stepsSpent args steps = decide (1 ≤ steps) := by
    simp [stepsSpent, hsteps]
  cases h with
  | spent h => simp [hspent] at h
  | done h => exact .inl ⟨h, rfl⟩
  | last _ hturn _ => exact .inr (hturn.stepped hp)
  | turn _ hturn _ hrest =>
    refine .inr ?_
    cases hrest with
    | spent _ => exact hturn.stepped hp
    | done _ => exact hturn.stepped hp
    | last h _ _ => simp [hspent] at h
    | turn h _ _ _ => simp [hspent] at h

theorem not_pending_of_nextObjective {rt : Runtime} {pending : List String} {ordered : List Dict}
    (h : nextObjective rt pending ordered = none)
    (hids : ∀ o ∈ ordered, objectiveIdOf rt o = .ok (rawId o)) :
    ∀ o ∈ ordered, rawId o ∉ pending := by
  induction ordered with
  | nil => exact fun _ ho => nomatch ho
  | cons o rest ih =>
    obtain ⟨hid, hrest⟩ := List.forall_mem_cons.mp hids
    simp only [nextObjective, hid] at h
    split_ifs at h with hpending
    exact List.forall_mem_cons.mpr ⟨hpending, ih h hrest⟩

/-- **Where nothing is left nothing is pending.** -/
theorem NothingLeft.pending (h : NothingLeft site campaign b)
    (hshape : CampaignShape campaign p objectives)
    (hsub : b.pendingModules ⊆ objectives.map rawId) : b.pendingModules = [] := by
  obtain ⟨objectives', ordered, hraw, hschedule, hnone⟩ := h
  obtain rfl : objectives' = objectives := Except.ok.inj (hraw.symm.trans hshape.raw)
  have hperm : ordered.Perm objectives' := schedule_perm hschedule (hshape.rawIds_nodup site.rt)
  have hids : ∀ o ∈ ordered, objectiveIdOf site.rt o = .ok (rawId o) := by
    intro o ho
    obtain ⟨_, -, hq⟩ := hshape.shape_of_mem (hperm.subset ho)
    exact hq.objectiveIdOf site.rt
  refine List.eq_nil_iff_forall_not_mem.mpr fun id hid => ?_
  obtain ⟨o, ho, rfl⟩ := List.mem_map.mp (hsub hid)
  exact not_pending_of_nextObjective hnone hids o (hperm.symm.subset ho) hid

/-- **An invocation with one step to take is a step.** -/
theorem Invocation.stepped (h : Invocation site campaign sur c args b s)
    (hshape : CampaignShape campaign p objectives) (hp : parseCampaign campaign = .ok p)
    (hb : Ledger (objectives.map rawId) b) (hsteps : args.maxSteps = some 1) :
    Stepped p.limits.maxIterations b.nextIteration s := by
  obtain ⟨b₀, s₀, hbegin, hloops, hfinish⟩ := h
  obtain ⟨_, _, _, _, _, hb₀, -⟩ := hbegin.spec
  have hnext : b₀.nextIteration = b.nextIteration := by rw [hb₀]; rfl
  have hpending : b₀.pendingModules = b.pendingModules := by rw [hb₀]; rfl
  have hrunning : b₀.currentStatus = .running := by rw [hb₀]; rfl
  have hsub : b.pendingModules ⊆ objectives.map rawId := by
    intro id hid
    exact hb.perm.subset (by simp [CampaignState.allModules, hid])
  obtain ⟨_, _, _, _, _, rfl, -⟩ := hfinish.spec
  by_cases hdone : s₀.currentStatus = .running ∧ s₀.pendingModules = []
  · rw [Move.after, if_pos hdone]
    exact .inl (show Status.completed ∈ terminalStatuses by decide)
  · rw [Move.after, if_neg hdone]
    rcases hloops.stepped hsteps hp with ⟨hnothing, rfl⟩ | hstepped
    · exact absurd ⟨hrunning, hnothing.pending hshape (hpending ▸ hsub)⟩ hdone
    · rw [Stepped, hnext] at hstepped
      exact hstepped

end step

/-! ### The nodes -/

section nodes

variable {site : Site} {sur : Surroundings} {c : Call} {o : Orchestrator} {objectives : List Dict}
  {pg : Progress} {g : GraphState}

theorem Progress.Origin.nextIteration {campaign : Dict} {b : CampaignState}
    (h : pg.Origin site campaign b) : b.nextIteration = pg.nextIteration := by
  unfold Progress.nextIteration
  rcases h with hbase | ⟨hbase, hinitial⟩
  · rw [hbase]
  · obtain ⟨_, _, _, _, _, _, _, -, -, -, -, -, h⟩ := hinitial
    simp only [initialState, bind_eq_ok] at h
    obtain ⟨_, -, _, -, h⟩ := h
    rw [hbase]
    cases h
    rfl

/-- What a campaign step leaves: the graph has the status of the checkpoint, and that is a step on. -/
def StepResult (limit n : ℤ) (r : Except Exc GraphState) (base : Option CampaignState) : Prop :=
  ∀ g, r = .ok g → ∃ s, base = some s ∧ g.status = s.currentStatus ∧ Stepped limit n s

/-- **A campaign step that leaves the campaign running has begun one more iteration, and one was left.** -/
theorem campaignStep_stepped (hshape : CampaignShape o.campaign o.parsed objectives)
    (hpending : pg.pending = [])
    (hbase : ∀ b, pg.base = some b → Persisted site (objectives.map rawId) b) :
    Post (commits site o.campaign sur (.start o.args)) (o.campaignStep site g) () (fun r _ pg' =>
      pg'.pending = [] ∧ StepResult o.parsed.limits.maxIterations pg.nextIteration r pg'.base) pg := by
  have hids := hshape.goodIds
  have hraised {e : Exc} {pg' : Progress} (h : pg'.pending = []) : pg'.pending = [] ∧
      StepResult o.parsed.limits.maxIterations pg.nextIteration (.error e) pg'.base :=
    ⟨h, fun _ h => nomatch h⟩
  have hreturn {s : CampaignState} {pg' : Progress} (steps : ℕ) (h : ReturnPost site
      (objectives.map rawId) (Stepped o.parsed.limits.maxIterations pg.nextIteration) (.ok s) pg') :
      pg'.pending = [] ∧ StepResult o.parsed.limits.maxIterations pg.nextIteration (.ok { g with
        status := s.currentStatus, currentObjectiveId := s.currentObjectiveId, steps := steps })
        pg'.base := by
    refine ⟨h.1.pending, ?_⟩
    rintro _ ⟨⟩
    exact ⟨s, h.1.base, rfl, h.2⟩
  -- what an invocation returns is a step on, whatever it was given
  have hrun (state : Option CampaignState) (hstate : ∀ s, state = some s → pg.base = some s) :
      Post (commits site o.campaign sur (.start o.args)) (runCampaign site o.args o.campaign state) ()
        (fun r _ pg' => ReturnPost site (objectives.map rawId)
          (Stepped o.parsed.limits.maxIterations pg.nextIteration) r pg') pg := by
    refine post_mono (fun r _ pg' h => ?_) (runCampaign_post hids rfl hpending
      (fun s hs => ⟨hstate s hs, (hbase s (hstate s hs)).toCoherent⟩)
      (fun s hs => Initial.coherent hshape hs))
    cases r with
    | error e => exact h
    | ok s =>
      obtain ⟨hrest, b, horigin, hinvocation⟩ := h
      have hledger : Ledger (objectives.map rawId) b := by
        rcases horigin with hb | ⟨-, hb⟩
        · exact (hbase b hb).ledger
        · exact (hb.coherent hshape).ledger
      have hstepped := hinvocation.stepped hshape o.accepted hledger rfl
      rw [horigin.nextIteration] at hstepped
      exact ⟨hrest, hstepped⟩
  rw [Orchestrator.campaignStep]
  refine post_call_bind trivial fun here _ => ?_
  split_ifs
  · refine loadState_post (fun s hs => ?_) fun _ => hraised hpending
    split_ifs with hterminal
    · refine ⟨hpending, ?_⟩
      rintro _ ⟨⟩
      exact ⟨s, hs, rfl, .inl hterminal⟩
    · refine post_seq _ (hrun (some s) ?_) (fun _ _ _ h => hreturn _ h) fun _ _ _ h => hraised h
      rintro _ ⟨⟩
      exact hs
  · exact post_seq _ (hrun none fun _ h => nomatch h) (fun _ _ _ h => hreturn _ h)
      fun _ _ _ h => hraised h

/-- Without a review the node does nothing but interrupt. -/
theorem humanReview_none (hpending : pg.pending = []) :
    Post (commits site o.campaign sur c) (Orchestrator.humanReview site none g) () (fun r _ pg' =>
      pg'.pending = [] ∧ ∀ x, r = .ok x → x = none) pg := by
  rw [Orchestrator.humanReview]
  exact loadState_post (fun _ _ => ⟨hpending, fun _ h => (Except.ok.inj h).symm⟩)
    fun _ => ⟨hpending, fun _ h => nomatch h⟩

/-- What a review leaves: the campaign may go on from the same iteration, or has ended. -/
def ReviewResult (n : ℤ) (r : Except Exc (Option GraphState)) (base : Option CampaignState) : Prop :=
  ∀ x, r = .ok x → ∃ g s, x = some g ∧ base = some s ∧ g.status = s.currentStatus ∧
    (s.currentStatus = .readyToResume ∨ s.currentStatus ∈ terminalStatuses) ∧ s.nextIteration = n

theorem Moved.reviewed {b s : CampaignState} {r : Gate.ReviewDecision}
    (h : Moved site sur (.review r) b s) :
    (s.currentStatus = .readyToResume ∨ s.currentStatus ∈ terminalStatuses) ∧
      s.nextIteration = b.nextIteration := by
  obtain ⟨_, _, _, _, _, rfl, -⟩ := h.spec
  simp only [Move.after, CampaignState.reviewed]
  split_ifs
  · exact ⟨.inl rfl, rfl⟩
  · exact ⟨.inl rfl, rfl⟩
  · exact ⟨.inr (show Status.stoppedByCondition ∈ terminalStatuses by decide), rfl⟩
  · exact ⟨.inr (show Status.stoppedByOperator ∈ terminalStatuses by decide), rfl⟩

/-- **A review lets the campaign go on from the same iteration, or ends it.** -/
theorem humanReview_some (hshape : CampaignShape o.campaign o.parsed objectives)
    (hpending : pg.pending = [])
    (hbase : ∀ b, pg.base = some b → Persisted site (objectives.map rawId) b) (review : Json) :
    ∃ c, Post (commits site o.campaign sur c) (Orchestrator.humanReview site (some review) g) ()
      (fun r _ pg' => pg'.pending = [] ∧ ReviewResult pg.nextIteration r pg'.base) pg := by
  have hraised {e : Exc} {pg' : Progress} (h : pg'.pending = []) :
      pg'.pending = [] ∧ ReviewResult pg.nextIteration (.error e) pg'.base :=
    ⟨h, fun _ h => nomatch h⟩
  cases review with
  | obj data =>
    refine ⟨.review data, ?_⟩
    rw [Orchestrator.humanReview]
    refine loadState_post (fun s hs => ?_) fun _ => hraised hpending
    refine post_seq (fun r _ pg' => ReturnPost site (objectives.map rawId)
      (fun s' => ∃ r, Moved site sur (.review r) s s') r pg') ?_ (fun s' _ pg' h => ?_)
      fun _ _ _ h => hraised h
    · refine post_within (post_mono (fun r _ _ h => ?_)
        (applyReviewDecision_post hshape.goodIds rfl ⟨hs, hpending, hbase s hs⟩))
      cases r with
      | error e => exact h
      | ok _ => exact h
    · obtain ⟨hrest, r, hmoved⟩ := h
      obtain ⟨hstatus, hnext⟩ := hmoved.reviewed
      refine ⟨hrest.pending, ?_⟩
      rintro _ ⟨⟩
      refine ⟨_, s', rfl, hrest.base, rfl, hstatus, hnext.trans ?_⟩
      rw [Progress.nextIteration, hs]
  | _ =>
    refine ⟨.stop, ?_⟩
    rw [Orchestrator.humanReview]
    exact loadState_post (fun s _ => hraised hpending) fun _ => hraised hpending

end nodes

/-! ### In the world -/

section world

variable {site : Site} {w : World} {answers : Answers} {campaign : Dict} {p : CampaignDefinition}
  {objectives : List Dict} {past : List Step}

/-- The steps so far, and the answers that are possible after them. -/
def chronicle (site : Site) (w : World) : Monitor Op Res (List Step) where
  allowed _ _ := True
  legal past := (circumstances site).legal ((circumstances site).run (w, none) past)
  next past op r := past ++ [⟨op, r⟩]

theorem chronicle_run (tr : List Step) : (chronicle site w).run past tr = past ++ tr := by
  induction tr generalizing past with
  | nil => exact (List.append_nil past).symm
  | cons x tr ih =>
    rw [Monitor.run_cons, ih]
    exact List.append_assoc past [x] tr

theorem legal_of_chronicle {tr : List Step} (h : (chronicle site w).Legal past tr) :
    (circumstances site).Legal ((circumstances site).run (w, none) past) tr := by
  induction tr generalizing past with
  | nil => trivial
  | cons x tr ih =>
    refine ⟨h.1, ?_⟩
    have hrest := ih h.2
    rwa [chronicle, Monitor.run_append] at hrest

/-- A clock that grows has grown since any moment. -/
theorem ambient_legal_none {sur : Surroundings} {t : Option ℚ} {tr : List Step}
    (h : (ambient sur).Legal t tr) : (ambient sur).Legal none tr := by
  suffices hall : ∀ t', t' = none ∨ t' = t → (ambient sur).Legal t' tr from hall none (.inl rfl)
  induction tr generalizing t with
  | nil => exact fun _ _ => trivial
  | cons x tr ih =>
    obtain ⟨op, r⟩ := x
    intro t' ht'
    refine ⟨?_, ih h.2 _ ?_⟩
    · rcases ht' with rfl | rfl
      · have hlegal := h.1
        cases op <;> first | exact hlegal | exact fun _ h => nomatch h
      · exact h.1
    · cases op <;> first | exact .inr rfl | exact ht'

/-- **What a program does in the world** is what its conditions say, and it leaves the files at rest. -/
theorem play_post {α : Type} {code : Code Unit α} {c : Call}
    {Q : Except Exc α → Option CampaignState → Prop} (ha : Truthful site w answers)
    (hshape : CampaignShape campaign p objectives)
    (hrest : AtRest site (objectives.map rawId) ((Campaign.world site.rt).run w past))
    (h : Post (commits site campaign openSurroundings c) code ()
      (fun r _ pg' => pg'.pending = [] ∧ Q r pg'.base)
      ((Campaign.world site.rt).run w past).progress) :
    let out := play answers (Proc.start code ()) past
    AtRest site (objectives.map rawId) ((Campaign.world site.rt).run w out.2) ∧
      Q out.1.1 ((Campaign.world site.rt).run w out.2).checkpoint := by
  intro out
  obtain ⟨hlegal, hrun⟩ := exec_legal (chronicle site w) answers ha (Proc.start code ()) past
  have hreach := exec_reach (fun past op => (answers past op, (chronicle site w).next past op
    (answers past op))) (Proc.start code ()) past
  rw [chronicle_run] at hrun
  have hworld := legal_of_chronicle hlegal
  rw [circumstances, Monitor.prod_run, Monitor.prod_legal] at hworld
  have hlegal' := (Monitor.prod_legal (Campaign.world site.rt) (ambient openSurroundings)).mpr
    ⟨hworld.1, ambient_legal_none hworld.2⟩
  obtain ⟨-, -, hend, htracks⟩ := wp_simulates (commits site campaign openSurroundings c)
    (fun m x op r hR ha hl => hR.step hshape ha hl) h hrest.tracks hreach hlegal'
  rw [Monitor.prod_run, ← Monitor.run_append, hrun] at htracks
  obtain ⟨hpending, hQ⟩ := hend
  exact ⟨htracks.atRest hpending, htracks.checkpoint ▸ hQ⟩

end world

/-! ### Invocations and sessions -/

section invocations

variable {site : Site} {o : Orchestrator} {objectives : List Dict} {w : World} {answers : Answers}
  {past : List Step} {g : GraphState} {fuel : ℕ}

/-- The number of the next iteration, as the files have it. -/
def World.nextIteration (w : World) : ℤ := w.progress.nextIteration

theorem World.nextIteration_of_checkpoint {s : CampaignState} (h : w.checkpoint = some s) :
    w.nextIteration = s.nextIteration := by
  unfold World.nextIteration Progress.nextIteration World.progress
  rw [h]

theorem AtRest.nextIteration_pos {ids : List String} (h : AtRest site ids w) :
    1 ≤ w.nextIteration := by
  cases hs : w.checkpoint with
  | none =>
    unfold World.nextIteration Progress.nextIteration World.progress
    rw [hs]
  | some s =>
    rw [World.nextIteration_of_checkpoint hs]
    exact (h.persisted s hs).header.iteration

/-- What an invocation leaves: it has settled, and the files are at rest. -/
def Left (site : Site) (ids : List String) (w : World) (x : Outcome × Thread × List Step) : Prop :=
  Settles (x.1, x.2.1.values) ∧ AtRest site ids ((world site.rt).run w x.2.2)

/-- **An interrupt ends the invocation.** -/
theorem invoke_humanReview_none (ha : Truthful site w answers)
    (hshape : CampaignShape o.campaign o.parsed objectives)
    (hrest : AtRest site (objectives.map rawId) ((world site.rt).run w past))
    (hg : g.status = .pausedForHumanReview) :
    Left site (objectives.map rawId) w
      (o.invoke site answers (fuel + 1) .humanReview none g past) := by
  have hplay := play_post (Q := fun r _ => ∀ x, r = .ok x → x = none) ha hshape hrest
    (humanReview_none (c := .stop) (o := o) (g := g) rfl)
  rw [Orchestrator.invoke]
  simp only [Orchestrator.perform]
  generalize play answers _ past = out at hplay ⊢
  obtain ⟨⟨r | x, _⟩, past'⟩ := out
  · exact ⟨.inr (.inr ⟨_, rfl⟩), hplay.1⟩
  · obtain rfl : x = none := hplay.2 x rfl
    exact ⟨.inr (.inl ⟨rfl, hg⟩), hplay.1⟩

/-- **From a campaign step the invocation settles** when it may execute a node for each iteration that
is left, and two more. The induction is on the nodes it may execute. -/
theorem invoke_campaignStep (ha : Truthful site w answers)
    (hshape : CampaignShape o.campaign o.parsed objectives)
    (hrest : AtRest site (objectives.map rawId) ((world site.rt).run w past)) (htwo : 2 ≤ fuel)
    (hfuel : o.parsed.limits.maxIterations - ((world site.rt).run w past).nextIteration + 3 ≤ fuel) :
    Left site (objectives.map rawId) w
      (o.invoke site answers fuel .campaignStep none g past) := by
  induction fuel generalizing g past with
  | zero => omega
  | succ fuel ih =>
    let Q (r : Except Exc (Option GraphState)) (base : Option CampaignState) : Prop :=
      ∀ x, r = .ok x → ∃ g', x = some g' ∧ StepResult o.parsed.limits.maxIterations
        ((world site.rt).run w past).nextIteration (.ok g') base
    have hpost : Post (commits site o.campaign openSurroundings (.start o.args))
        (o.perform site none g .campaignStep) () (fun r _ pg' => pg'.pending = [] ∧ Q r pg'.base)
        ((world site.rt).run w past).progress := by
      refine post_seq _ (campaignStep_stepped hshape rfl hrest.persisted) (fun g' _ pg' h => ?_)
        fun _ _ _ h => ⟨h.1, fun _ h => nomatch h⟩
      refine ⟨h.1, ?_⟩
      rintro _ ⟨⟩
      exact ⟨g', rfl, h.2⟩
    have hplay := play_post (Q := Q) ha hshape hrest hpost
    rw [Orchestrator.invoke]
    generalize play answers _ past = out at hplay ⊢
    obtain ⟨⟨r | x, _⟩, past'⟩ := out
    · exact ⟨.inr (.inr ⟨_, rfl⟩), hplay.1⟩
    · obtain ⟨hrest', hx⟩ := hplay
      obtain ⟨g', rfl, hstep⟩ := hx x rfl
      obtain ⟨s, hs, hstatus, hstepped⟩ := hstep g' rfl
      dsimp only [Orchestrator.route]
      rcases hstepped with hterminal | hpaused | ⟨hrunning, hnext, hleft⟩
      · have hnot : g'.status ≠ .running ∧ g'.status ≠ .pausedForHumanReview := by
          rw [hstatus]
          constructor <;> intro h <;> rw [h] at hterminal <;> revert hterminal <;> decide
        rw [if_neg hnot.1, if_neg hnot.2]
        exact ⟨.inl ⟨rfl, hstatus ▸ hterminal⟩, hrest'⟩
      · rw [if_neg (by rw [hstatus, hpaused]; decide), if_pos (hstatus.trans hpaused)]
        obtain ⟨fuel, rfl⟩ : ∃ f, fuel = f + 1 := ⟨fuel - 1, by omega⟩
        exact invoke_humanReview_none ha hshape hrest' (hstatus.trans hpaused)
      · rw [if_pos (hstatus.trans hrunning)]
        have hnext' : ((world site.rt).run w past').nextIteration =
            ((world site.rt).run w past).nextIteration + 1 :=
          (World.nextIteration_of_checkpoint hs).trans hnext
        exact ih hrest' (by omega) (by omega)

/-- **From a review the invocation settles** when it may execute one node more than from a step. -/
theorem invoke_humanReview_some (ha : Truthful site w answers)
    (hshape : CampaignShape o.campaign o.parsed objectives)
    (hrest : AtRest site (objectives.map rawId) ((world site.rt).run w past)) (htwo : 2 ≤ fuel)
    (hfuel : o.parsed.limits.maxIterations - ((world site.rt).run w past).nextIteration + 3 ≤ fuel)
    (review : Json) : Left site (objectives.map rawId) w
      (o.invoke site answers (fuel + 1) .humanReview (some review) g past) := by
  obtain ⟨c, hpost⟩ : ∃ c, Post (commits site o.campaign openSurroundings c)
      (Orchestrator.humanReview site (some review) g) () (fun r _ pg' => pg'.pending = [] ∧
        ReviewResult ((world site.rt).run w past).nextIteration r pg'.base)
      ((world site.rt).run w past).progress := humanReview_some hshape rfl hrest.persisted review
  have hplay := play_post (Q := ReviewResult ((world site.rt).run w past).nextIteration) ha hshape
    hrest hpost
  rw [Orchestrator.invoke]
  simp only [Orchestrator.perform]
  generalize play answers _ past = out at hplay ⊢
  obtain ⟨⟨r | x, _⟩, past'⟩ := out
  · exact ⟨.inr (.inr ⟨_, rfl⟩), hplay.1⟩
  · obtain ⟨hrest', hx⟩ := hplay
    obtain ⟨g', s, rfl, hs, hstatus, hready | hterminal, hnext⟩ := hx x rfl
    · dsimp only [Orchestrator.route]
      rw [if_pos (hstatus.trans hready)]
      have hnext' : ((world site.rt).run w past').nextIteration =
          ((world site.rt).run w past).nextIteration :=
        (World.nextIteration_of_checkpoint hs).trans hnext
      exact invoke_campaignStep ha hshape hrest' htwo (by omega)
    · have hnot : g'.status ≠ .readyToResume := by
        rw [hstatus]
        intro h
        rw [h] at hterminal
        revert hterminal
        decide
      dsimp only [Orchestrator.route]
      rw [if_neg hnot]
      exact ⟨.inl ⟨rfl, hstatus ▸ hterminal⟩, hrest'⟩

/-- The limit leaves room for every iteration, and more. -/
theorem recursionLimit_eq (o : Orchestrator) : ∃ fuel, o.recursionLimit = fuel + 1 ∧ 2 ≤ fuel ∧
    ∀ n : ℤ, 1 ≤ n → o.parsed.limits.maxIterations - n + 3 ≤ fuel := by
  have hpositive := limits_positive o.accepted
  unfold Orchestrator.recursionLimit
  exact ⟨(o.parsed.limits.maxIterations * 4 + 19).toNat, by omega, by omega, by omega⟩

/-- **A start settles.** -/
theorem start_left (ha : Truthful site w answers)
    (hshape : CampaignShape o.campaign o.parsed objectives)
    (hrest : AtRest site (objectives.map rawId) w) :
    Left site (objectives.map rawId) w (o.start site answers []) := by
  obtain ⟨fuel, hlimit, htwo, hroom⟩ := recursionLimit_eq o
  have hleft := hroom _ hrest.nextIteration_pos
  rw [Orchestrator.start, hlimit]
  refine invoke_campaignStep ha hshape hrest (by omega) ?_
  rw [Monitor.run_nil]
  omega

/-- **A resume settles**, whatever it is given. -/
theorem resume_left (ha : Truthful site w answers)
    (hshape : CampaignShape o.campaign o.parsed objectives)
    (hrest : AtRest site (objectives.map rawId) ((world site.rt).run w past)) (review : Json)
    (t : Thread) : Left site (objectives.map rawId) w (o.resume site answers review t past) := by
  obtain ⟨fuel, hlimit, htwo, hroom⟩ := recursionLimit_eq o
  unfold Orchestrator.resume
  cases o.verifyCheckpointInputs t.values with
  | error e => exact ⟨.inr (.inr ⟨e, rfl⟩), hrest⟩
  | ok _ =>
    dsimp only
    split_ifs
    · rw [hlimit]
      exact invoke_humanReview_some ha hshape hrest htwo (hroom _ hrest.nextIteration_pos) review
    · exact ⟨.inr (.inr ⟨_, rfl⟩), hrest⟩

theorem resumes_settle (ha : Truthful site w answers)
    (hshape : CampaignShape o.campaign o.parsed objectives) (reviews : List Json)
    (hrest : AtRest site (objectives.map rawId) ((world site.rt).run w past)) (t : Thread) :
    ∀ x ∈ o.resumes site answers reviews t past, Settles x := by
  induction reviews generalizing past t with
  | nil => exact fun _ hx => nomatch hx
  | cons review reviews ih =>
    obtain ⟨hsettles, hrest'⟩ := resume_left ha hshape hrest review t
    exact List.forall_mem_cons.mpr ⟨hsettles, ih hrest' _⟩

end invocations

/-- **A start over a paused checkpoint raises**: an invocation of the loop does not go on from there. -/
theorem start_raises_of_paused {site : Site} {o : Orchestrator} {objectives : List Dict} {w : World}
    {answers : Answers} (ha : Truthful site w answers)
    (hshape : CampaignShape o.campaign o.parsed objectives)
    (hrest : AtRest site (objectives.map rawId) w) {b : CampaignState} (hb : w.checkpoint = some b)
    (hpaused : b.currentStatus = .pausedForHumanReview) :
    ∃ e, (o.start site answers []).1 = .raised e := by
  have hpost : Post (commits site o.campaign openSurroundings (.start o.args))
      (o.perform site none o.initialState .campaignStep) ()
      (fun r _ pg' => pg'.pending = [] ∧ ∃ e, r = .error e) w.progress := by
    refine post_seq (fun r _ pg' => pg'.pending = [] ∧ ∃ e, r = .error e) ?_ (fun _ _ _ h => ?_)
      fun e _ _ h => ⟨h.1, e, rfl⟩
    swap
    · obtain ⟨-, e, h⟩ := h
      cases h
    rw [Orchestrator.campaignStep]
    refine post_call_bind trivial fun here hhere => ?_
    obtain rfl : here = true := hhere.trans (congrArg Option.isSome hb)
    rw [if_pos rfl]
    refine loadState_post (fun s hs => ?_) fun e => ⟨rfl, e, rfl⟩
    obtain rfl : b = s := Option.some.inj (hb.symm.trans hs)
    rw [if_neg (by rw [hpaused]; decide), runCampaign, bind_assoc]
    refine post_attempt_bind (fun parsed _ => ?_) fun e _ => ⟨rfl, e, rfl⟩
    rw [bind_assoc, post_pure_bind, bind_assoc]
    refine validateResumeInputs_post (fun hstatus => ?_) fun e => ⟨rfl, e, rfl⟩
    rw [hpaused] at hstatus
    simp at hstatus
  have hrest' : AtRest site (objectives.map rawId) ((world site.rt).run w []) := hrest
  have hplay := play_post (Q := fun r _ => ∃ e, r = .error e) ha hshape hrest' hpost
  obtain ⟨fuel, hlimit, -⟩ := recursionLimit_eq o
  rw [Orchestrator.start, hlimit, Orchestrator.invoke]
  generalize play answers _ [] = out at hplay ⊢
  obtain ⟨⟨r, _⟩, past'⟩ := out
  obtain ⟨-, e, he⟩ := hplay
  obtain rfl : r = .error e := he
  exact ⟨e, rfl⟩

/-- The answers of a world that stands still, whatever the clock has shown before. -/
def stillAnswers (site : Site) (f : Frozen) (w : World) : Answers := fun past op =>
  match op with
  | .clock => ((ambient openSurroundings).run none past).getD 0
  | op => f.answer site.rt ((world site.rt).run w past) op

theorem stillAnswers_truthful {site : Site} {f : Frozen} (w : World)
    (h : timestampValid site.rt f.timestamp = true) : Truthful site w (stillAnswers site f w) := by
  intro past op
  rw [circumstances, Monitor.prod_run]
  cases op with
  | clock =>
    refine ⟨trivial, fun t ht => ?_⟩
    have hclock : stillAnswers site f w past .clock = t := by
      show ((ambient openSurroundings).run none past).getD 0 = t
      rw [show (ambient openSurroundings).run none past = some t from ht]
      rfl
    rw [hclock]
    exact .refl openSurroundings t
  | _ => exact ⟨f.answer_legal h _ _, trivial⟩

/-- An orchestrator of the sample campaign. -/
def lockoutOrchestrator {p : CampaignDefinition}
    (h : parseCampaign (sampleCampaign [lockoutObjective]) = .ok p) : Orchestrator where
  scope := sampleScope
  campaign := sampleCampaign [lockoutObjective]
  parsed := p
  accepted := h
  scopeSha256 := "450721a8969b20df94f5d3c96c47d41163af5348e06de764ffeba89f096a7e37"
  campaignSha256 := "a4825dcaba28d0efcdbd20fcf5d5da4c5771807d75ec94e0806f661b0b55b4a7"

end Aotp.Campaign
