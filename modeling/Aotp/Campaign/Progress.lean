import Aotp.Campaign.Coherence

/-!
# The code makes enabled moves only

* `Progress` — the last checkpoint of a campaign, the events appended since, and the clock.
* `commits` — the monitor of one call: a checkpoint may be written only if an enabled move leads
  from the last one to it, with exactly the events that were appended in between.
* `Turn`, `Loops` — one objective of the loop and a run of it, as moves.
* `InFlight`, `Rest` — the state in memory is what an enabled move leaves of the last checkpoint, or
  is the checkpoint itself.
* `dispatchObjective_post`, `runLoop_post` — **a dispatch and a run of the loop commit enabled moves
  only**.
-/

namespace Aotp.Campaign

open PyData Aotp.Gate Effects HashChain

/-! ### The monitor -/

/-- The last checkpoint, the events appended since, and the last reading of the clock. -/
structure Progress where
  base : Option CampaignState
  pending : List CampaignEvent := []
  clock : Option ℚ := none

/-- One more event. -/
def Progress.push (g : Progress) (e : CampaignEvent) : Progress :=
  { g with pending := g.pending ++ [e] }

/-- A new checkpoint. -/
def Progress.save (g : Progress) (s : CampaignState) : Progress :=
  { g with base := some s, pending := [] }

/-- A reading of the clock. -/
def Progress.tick (g : Progress) (t : ℚ) : Progress := { g with clock := some t }

variable (site : Site) (campaign : Dict) (sur : Surroundings) (c : Call)

/-- The state a checkpoint is derived from: the last one, or that of a new campaign. -/
def Progress.Origin (g : Progress) (b : CampaignState) : Prop :=
  g.base = some b ∨ g.base = none ∧ Initial site campaign b

/-- A state may be written: an enabled move led to it, with the events that were appended. -/
def Commit (g : Progress) (s : CampaignState) : Prop :=
  ∃ b m, g.Origin site campaign b ∧ m.Enabled site campaign sur c b ∧ Moved site sur m b s ∧
    s.events = b.events ++ g.pending

/-- The gate may be asked: the last checkpoint dispatches an objective that has been cleared. -/
def Dispatching (args : RunArgs) (g : Progress) : Prop :=
  ∃ b id objective budget, g.base = some b ∧ g.pending = [] ∧ b.currentObjectiveId = some id ∧
    Cleared site campaign sur args b id objective budget

/-- The monitor of one call. An invocation observes its surroundings when it asks the gate. -/
def commits : Monitor Op Res Progress where
  allowed g
    | .saveCheckpoint s => Commit site campaign sur c g s
    | .observe => ∀ args, c.args? = some args → Dispatching site campaign sur args g
    | _ => True
  legal g
    | .utcNow, t => timestampValid site.rt t = true
    | .clock, t => ∀ t₀, g.clock = some t₀ → sur.Elapses t₀ t
    | .loadCheckpoint, s => s = g.base
    | .checkpointExists, b => b = g.base.isSome
    | .observe, o => sur.observes o
    | .artifactFiles, f => sur.files f
    | .resolveArtifact artifact, path => sur.resolves artifact path
    | .saveCheckpoint s, r => r = validateState site.rt s
    | _, _ => True
  next g
    | .clock, t => g.tick t
    | .appendLog e, _ => g.push e
    | .saveCheckpoint s, .ok _ => g.save s.saved
    | _, _ => g

/-! ### Turns of the loop -/

/-- The moves that end the loop before an objective is dispatched. -/
def Move.IsExit : Move → Prop
  | .fuzzingStop _ _ _ => True
  | .lockoutPause _ _ _ => True
  | .budgetStop _ _ _ _ => True
  | _ => False

/-- What the loop makes of one objective. -/
inductive Turn (b s : CampaignState) : Prop
  | exit (m : Move) (hexit : m.IsExit) (hm : m.Enabled site campaign sur c b)
      (h : Moved site sur m b s)
  | dispatch (b' : CampaignState) (r : Dispatched)
      (hm : (Move.dispatch r.id).Enabled site campaign sur c b)
      (h : Moved site sur (.dispatch r.id) b b')
      (hm' : (Move.result r).Enabled site campaign sur c b')
      (h' : Moved site sur (.result r) b' s)

/-- None of the scheduled objectives is pending. -/
def NothingLeft (b : CampaignState) : Prop :=
  ∃ objectives ordered, rawObjectives campaign = .ok objectives ∧
    schedule site.rt objectives = .ok ordered ∧
    nextObjective site.rt b.pendingModules ordered = none

/-- A run of the loop from the given number of steps on. -/
inductive Loops (args : RunArgs) : ℤ → CampaignState → CampaignState → Prop
  | spent {steps : ℤ} {b : CampaignState} (h : stepsSpent args steps = true) : Loops args steps b b
  | done {steps : ℤ} {b : CampaignState} (h : NothingLeft site campaign b) : Loops args steps b b
  | last {steps : ℤ} {b s : CampaignState} (h : stepsSpent args steps = false)
      (hturn : Turn site campaign sur c b s) (hs : s.currentStatus ≠ .running) :
      Loops args steps b s
  | turn {steps : ℤ} {b b' s : CampaignState} (h : stepsSpent args steps = false)
      (hturn : Turn site campaign sur c b b') (hs : b'.currentStatus = .running)
      (hrest : Loops args (steps + 1) b' s) : Loops args steps b s

/-- An invocation from a state: its beginning, the loop, its end. -/
def Invocation (args : RunArgs) (b s : CampaignState) : Prop :=
  ∃ b₀ s₀, Moved site sur .begin b b₀ ∧ Loops site campaign sur c args 0 b₀ s₀ ∧
    Moved site sur .finish s₀ s

/-! ### The rules of the effects -/

section rules

variable {site campaign sur c} {S α : Type} {g : Progress}

theorem utcNow_post {f : String → Code S α} {s : S} {Q : Except Exc α → S → Progress → Prop}
    (h : ∀ now, timestampValid site.rt now = true → Post (commits site campaign sur c) (f now) s Q g) :
    Post (commits site campaign sur c) (call Op.utcNow >>= f) s Q g :=
  post_call_bind trivial h

/-- Any operation that leaves files and clock alone. -/
theorem append_post {a : EventArgs} {s : CampaignState}
    {Q : Except Exc Unit → CampaignState → Progress → Prop} {path : String}
    (hpath : resolveEventLog site s = .ok path)
    (h : ∀ id now, Q (.ok ()) (s.withEvent site.rt (nextEvent site.rt s id now a))
      (g.push (nextEvent site.rt s id now a))) :
    Post (commits site campaign sur c) (appendCampaignEvent site a) s Q g := by
  rw [appendCampaignEvent, post_get_bind]
  refine post_call_bind trivial fun id _ => post_call_bind trivial fun now _ => ?_
  rw [hpath]
  refine post_attempt_bind (fun _ _ => post_call_bind trivial fun _ _ => h id now) fun _ he => ?_
  cases he

/-- An append that may raise: then nothing has been written. -/
theorem append_post_or {a : EventArgs} {s : CampaignState}
    {Q : Except Exc Unit → CampaignState → Progress → Prop}
    (hok : ∀ id now path, resolveEventLog site s = .ok path →
      Q (.ok ()) (s.withEvent site.rt (nextEvent site.rt s id now a))
        (g.push (nextEvent site.rt s id now a)))
    (herror : ∀ e, Q (.error e) s g) :
    Post (commits site campaign sur c) (appendCampaignEvent site a) s Q g := by
  cases hpath : resolveEventLog site s with
  | ok path => exact append_post hpath fun id now => hok id now path hpath
  | error e =>
    rw [appendCampaignEvent, post_get_bind]
    refine post_call_bind trivial fun id _ => post_call_bind trivial fun now _ => ?_
    rw [hpath]
    refine post_attempt_bind (fun _ hok' => ?_) fun e' _ => herror e'
    cases hok'

theorem touch_post {s : CampaignState} {Q : Except Exc Unit → CampaignState → Progress → Prop}
    (h : ∀ now, timestampValid site.rt now = true →
      Q (.ok ()) { s with lastUpdatedTime := now } g) :
    Post (commits site campaign sur c) touch s Q g :=
  utcNow_post h

end rules

/-! ### In between two checkpoints -/

section between

variable {site campaign sur c} {m : Move} {b s : CampaignState} {g : Progress}

/-- The world may supply other times. -/
theorem Moved.retime (h : Moved site sur m b s) {now : String} {elapsed : ℚ} {revision : ℤ}
    (hnow : timestampValid site.rt now = true) (helapsed : sur.Elapses b.elapsedSeconds elapsed)
    (hrevision : b.stateRevision ≤ revision) : Moved site sur m b { s with
      lastUpdatedTime := now, elapsedSeconds := elapsed, stateRevision := revision } := by
  obtain ⟨entries, _, _, _, hargs, -, -, -, rfl⟩ := h
  exact ⟨entries, now, elapsed, revision, hargs, hnow, helapsed, hrevision, rfl⟩

theorem Moved.elapses (h : Moved site sur m b s) : sur.Elapses b.elapsedSeconds s.elapsedSeconds := by
  obtain ⟨_, _, _, _, -, -, helapsed, -, rfl⟩ := h
  exact helapsed

theorem Moved.revision_le (h : Moved site sur m b s) : b.stateRevision ≤ s.stateRevision := by
  obtain ⟨_, _, _, _, -, -, -, hrevision, rfl⟩ := h
  exact hrevision

theorem Moved.updated (h : Moved site sur m b s) :
    timestampValid site.rt s.lastUpdatedTime = true := by
  obtain ⟨_, _, _, _, -, hnow, -, -, rfl⟩ := h
  exact hnow

theorem Moved.saved (h : Moved site sur m b s) : Moved site sur m b s.saved := by
  have hrevision := h.revision_le
  exact h.retime h.updated h.elapses (by omega)

/-- The state in memory is the last checkpoint. -/
structure Rest (site : Site) (ids : List String) (g : Progress) (s : CampaignState) : Prop where
  base : g.base = some s
  pending : g.pending = []
  persisted : Persisted site ids s

/-- The state in memory is what an enabled move leaves of the last checkpoint. -/
structure InFlight (site : Site) (campaign : Dict) (sur : Surroundings) (c : Call)
    (ids : List String) (g : Progress) (m : Move) (b s : CampaignState) : Prop where
  origin : g.Origin site campaign b
  coherent : Coherent site ids b
  enabled : m.Enabled site campaign sur c b
  moved : Moved site sur m b s
  events : s.events = b.events ++ g.pending

variable {ids : List String}

/-- Times may change before the save. -/
theorem InFlight.retime (h : InFlight site campaign sur c ids g m b s) {now : String} {elapsed : ℚ}
    (hnow : timestampValid site.rt now = true) (helapsed : sur.Elapses b.elapsedSeconds elapsed) :
    InFlight site campaign sur c ids g m b
      { s with lastUpdatedTime := now, elapsedSeconds := elapsed } :=
  ⟨h.origin, h.coherent, h.enabled, h.moved.retime hnow helapsed h.moved.revision_le, h.events⟩

theorem InFlight.tick (h : InFlight site campaign sur c ids g m b s) (t : ℚ) :
    InFlight site campaign sur c ids (g.tick t) m b s :=
  ⟨h.origin, h.coherent, h.enabled, h.moved, h.events⟩

theorem Rest.tick (h : Rest site ids g s) (t : ℚ) : Rest site ids (g.tick t) s :=
  ⟨h.base, h.pending, h.persisted⟩

/-- **Saving what an enabled move leaves** succeeds, and comes to rest. -/
theorem InFlight.save_post (h : InFlight site campaign sur c ids g m b s) (hids : GoodIds ids)
    {Q : Except Exc Unit → CampaignState → Progress → Prop}
    (hq : Rest site ids (g.save s.saved) s.saved → Moved site sur m b s.saved →
      Q (.ok ()) s.saved (g.save s.saved)) :
    Post (commits site campaign sur c) saveState s Q g := by
  have hpersisted : Persisted site ids s := h.coherent.moved hids h.enabled h.moved
  have hvalid : validateState site.rt s = .ok () :=
    (validateState_eq_ok site.rt).mpr (hpersisted.valid hids)
  have hcommit : Commit site campaign sur c g s := ⟨b, m, h.origin, h.enabled, h.moved, h.events⟩
  rw [saveState, post_get_bind]
  refine post_call_bind hcommit fun r hr => ?_
  obtain rfl : r = .ok () := hr.trans hvalid
  exact post_attempt_bind (fun _ _ => hq ⟨rfl, rfl, hpersisted.saved⟩ h.moved.saved) nofun

/-- The state as `touchAndSave` leaves it. -/
def CampaignState.savedAt (s : CampaignState) (now : String) : CampaignState :=
  CampaignState.saved { s with lastUpdatedTime := now }

/-- The same with a new time. -/
theorem InFlight.touchAndSave_post (h : InFlight site campaign sur c ids g m b s)
    (hids : GoodIds ids) {Q : Except Exc Unit → CampaignState → Progress → Prop}
    (hq : ∀ now, timestampValid site.rt now = true →
      Rest site ids (g.save (s.savedAt now)) (s.savedAt now) → Moved site sur m b (s.savedAt now) →
      Q (.ok ()) (s.savedAt now) (g.save (s.savedAt now))) :
    Post (commits site campaign sur c) touchAndSave s Q g := by
  rw [touchAndSave, post_bind]
  refine touch_post fun now hnow => ?_
  exact (h.retime hnow h.moved.elapses).save_post hids fun hrest hmoved => hq now hnow hrest hmoved

/-- The events of a move, appended to its state before any time changes. -/
theorem Moved.of_logged (hb : timestampValid site.rt b.lastUpdatedTime = true) {entries : List Entry}
    (hargs : entries.map Entry.args = m.events b) :
    Moved site sur m b ((m.after b).logged site.rt entries) := by
  refine ⟨entries, b.lastUpdatedTime, b.elapsedSeconds, b.stateRevision, hargs, hb, .refl sur _,
    le_refl _, ?_⟩
  obtain ⟨htime, helapsed, hrevision⟩ := m.after_times b
  obtain ⟨es, hash, heq, -⟩ := logged_spec site.rt (m.after b) entries
  rw [heq, ← htime, ← helapsed, ← hrevision]

/-- A move from rest, with the events that were appended on the way. -/
theorem InFlight.of_logged {g' : Progress} (hrest : Rest site ids g b)
    (hm : m.Enabled site campaign sur c b) {entries : List Entry}
    (hargs : entries.map Entry.args = m.events b)
    (hs : s = (m.after b).logged site.rt entries) (hbase : g'.base = g.base)
    (hevents : s.events = b.events ++ g'.pending) : InFlight site campaign sur c ids g' m b s :=
  ⟨.inl (hbase.trans hrest.base), hrest.persisted.toCoherent, hm,
    hs ▸ .of_logged hrest.persisted.updated hargs, hevents⟩

/-- A move with one event. -/
theorem InFlight.of_one (hrest : Rest site ids g b) (hm : m.Enabled site campaign sur c b)
    {a : EventArgs} (ha : m.events b = [a]) (id now : String) :
    InFlight site campaign sur c ids (g.push (nextEvent site.rt (m.after b) id now a)) m b
      ((m.after b).withEvent site.rt (nextEvent site.rt (m.after b) id now a)) := by
  have hargs : [Entry.mk id now a].map Entry.args = m.events b := ha.symm
  refine .of_logged hrest hm hargs rfl rfl ?_
  show (m.after b).events ++ _ = b.events ++ (g.pending ++ _)
  rw [(m.after_log b).1, hrest.pending, List.nil_append]

/-- A move without events. -/
theorem InFlight.of_none (hrest : Rest site ids g b) (hm : m.Enabled site campaign sur c b)
    (ha : m.events b = []) : InFlight site campaign sur c ids g m b (m.after b) := by
  have hargs : [].map Entry.args = m.events b := ha.symm
  refine .of_logged hrest hm hargs rfl rfl ?_
  rw [(m.after_log b).1, hrest.pending, List.append_nil]

end between

/-! ### The exits before dispatch -/

section exits

variable {site campaign sur c} {ids : List String} {s : CampaignState} {g : Progress}
  {args : RunArgs} {base : PurePath} {id : String} {objective : Dict}

theorem writeIteration_post {α : Type} {manifest : Dict} {record : Option Dict}
    {f : String → Code CampaignState α} {Q : Except Exc α → CampaignState → Progress → Prop}
    (hbase : baseEvidence site args.scope = .ok base)
    (hok : ∀ evidence, EvidenceAt site args s evidence →
      Post (commits site campaign sur c) (f evidence) s Q g)
    (herror : ∀ e, Q (.error e) s g) :
    Post (commits site campaign sur c) (writeIteration site base manifest record >>= f) s Q g := by
  rw [writeIteration, bind_assoc, post_get_bind, bind_assoc]
  refine post_call_bind trivial fun written _ => ?_
  rw [bind_assoc]
  refine post_attempt_bind (fun _ _ => ?_) fun e _ => herror e
  exact post_attempt_bind (fun evidence h => hok evidence ⟨base, hbase, h⟩) fun e _ => herror e

/-- An exit: the loop ends with a move in flight, or raises with nothing written. -/
def ExitPost (site : Site) (campaign : Dict) (sur : Surroundings) (c : Call) (ids : List String)
    (s : CampaignState) (g : Progress) (r : Except Exc Unit) (s' : CampaignState) (g' : Progress) :
    Prop :=
  match r with
  | .ok _ => g'.clock = g.clock ∧ s'.elapsedSeconds = s.elapsedSeconds ∧
      s'.currentStatus ≠ .running ∧ ∃ m : Move, InFlight site campaign sur c ids g' m s s' ∧ m.IsExit
  | .error _ => g'.pending = []

theorem removeFrom_of_mem {values : List String} {x : String} (h : x ∈ values) :
    removeFrom values x = .ok (values.erase x) := if_pos h

/-- The log of a state at rest is in the workspace. -/
theorem Rest.path (h : Rest site ids g s) : ∃ path, resolveEventLog site s = .ok path :=
  (h.persisted.begun h.persisted.notPlanned).2

theorem recordFuzzingConditionStop_post (hrest : Rest site ids g s) (hc : c.args? = some args)
    (hbase : baseEvidence site args.scope = .ok base)
    (hhead : Head site campaign sur s id objective)
    (hsignals : collectFuzzingStopSignals objective ≠ []) :
    Post (commits site campaign sur c) (recordFuzzingConditionStop site args base objective id
      (collectFuzzingStopSignals objective)) s (ExitPost site campaign sur c ids s g) g := by
  obtain ⟨path, hpath⟩ := hrest.path
  rw [recordFuzzingConditionStop, post_get_bind]
  refine utcNow_post fun now _ => post_attempt_bind (fun manifest _ => ?_) fun _ _ => hrest.pending
  refine writeIteration_post hbase (fun evidence hevidence => ?_) fun _ => hrest.pending
  rw [removeFrom_of_mem hhead.pending]
  refine post_attempt_bind (fun _ _ => ?_) nofun
  rw [post_modify_bind]
  have hm : (Move.fuzzingStop id evidence (sortedTexts (collectFuzzingStopSignals objective))).Enabled
      site campaign sur c s := ⟨args, objective, hc, hhead, hevidence, hsignals, rfl⟩
  exact append_post hpath fun eid enow => 
    ⟨rfl, rfl, nofun, _, .of_one hrest hm rfl eid enow, trivial⟩

theorem recordPanelLockoutPause_post (hrest : Rest site ids g s) (hc : c.args? = some args)
    (hbase : baseEvidence site args.scope = .ok base)
    (hhead : Head site campaign sur s id objective)
    (hsignals : collectFuzzingStopSignals objective = [])
    (hlockout : panelLockoutRiskDetected objective = true) (hreviewed : id ∉ s.reviewedObjectives) :
    Post (commits site campaign sur c) (recordPanelLockoutPause site args base objective id) s
      (ExitPost site campaign sur c ids s g) g := by
  obtain ⟨path, hpath⟩ := hrest.path
  rw [recordPanelLockoutPause, post_get_bind]
  refine utcNow_post fun now _ => post_attempt_bind (fun manifest _ => ?_) fun _ _ => hrest.pending
  refine writeIteration_post hbase (fun evidence hevidence => ?_) fun _ => hrest.pending
  rw [post_modify_bind]
  have hm : (Move.lockoutPause id evidence (moduleNameOf site objective)).Enabled
      site campaign sur c s :=
    ⟨args, objective, hc, hhead, hevidence, hsignals, hlockout, hreviewed, rfl⟩
  exact append_post hpath fun eid enow => 
    ⟨rfl, rfl, nofun, _, .of_one hrest hm rfl eid enow, trivial⟩

/-- The stop of an objective the budget does not allow. -/
theorem recordPreExecutionStop_post (hrest : Rest site ids g s) (hc : c.args? = some args)
    (hbase : baseEvidence site args.scope = .ok base)
    (hhead : Head site campaign sur s id objective)
    (hsignals : collectFuzzingStopSignals objective = [])
    (hlockout : panelLockoutRiskDetected objective = true → id ∈ s.reviewedObjectives)
    {budget : SafetyBudget} (hbudget : BudgetAt site campaign args s budget) {reason : String}
    (hdenial : BudgetSays site sur s objective budget (some reason)) :
    Post (commits site campaign sur c) (recordPreExecutionStop site args base objective id reason)
      { s with currentStatus := .stoppedByBudget } (ExitPost site campaign sur c ids s g) g := by
  obtain ⟨path, hpath⟩ := hrest.path
  rw [recordPreExecutionStop, post_get_bind]
  refine utcNow_post fun now _ => post_attempt_bind (fun manifest _ => ?_) fun _ _ => hrest.pending
  refine writeIteration_post hbase (fun evidence hevidence => ?_) fun _ => hrest.pending
  rw [removeFrom_of_mem hhead.pending]
  refine post_attempt_bind (fun _ _ => ?_) nofun
  rw [post_modify_bind]
  have hm : (Move.budgetStop id evidence (moduleNameOf site objective) reason).Enabled
      site campaign sur c s :=
    ⟨args, objective, budget, hc, hhead, hevidence, hsignals, hlockout, hbudget, hdenial, rfl⟩
  exact append_post hpath fun eid enow => 
    ⟨rfl, rfl, nofun, _, .of_one hrest hm rfl eid enow, trivial⟩

end exits

/-! ### Dispatch -/

section dispatch

variable {site campaign sur c} {ids : List String} {s : CampaignState} {g : Progress}
  {args : RunArgs} {base : PurePath} {id : String} {objective : Dict}

theorem executeAllowed_post {α : Type} {decision : PolicyDecision}
    {f : Option ExecutionResult → Code CampaignState α}
    {Q : Except Exc α → CampaignState → Progress → Prop}
    (hok : ∀ result : Option ExecutionResult,
      (if decision.allowed then ∃ files x, sur.files files ∧
        execute site.rt files objective args.live = .ok x ∧ result = some x else result = none) →
      Post (commits site campaign sur c) (f result) s Q g)
    (herror : ∀ e, Q (.error e) s g) :
    Post (commits site campaign sur c) (executeAllowed site args objective decision >>= f) s Q g := by
  rw [executeAllowed]
  cases hallowed : decision.allowed with
  | false =>
    simp only [hallowed, Bool.false_eq_true, if_false] at hok ⊢
    rw [post_pure_bind]
    exact hok none rfl
  | true =>
    simp only [hallowed, if_true] at hok ⊢
    rw [bind_assoc]
    refine post_call_bind trivial fun files hfiles => ?_
    rw [bind_assoc]
    refine post_attempt_bind (fun x hx => ?_) fun e _ => herror e
    rw [post_pure_bind]
    exact hok (some x) ⟨files, x, hfiles, hx, rfl⟩

theorem dispatchEvidence_post {α : Type} {decision : PolicyDecision}
    {result : Option ExecutionResult} {f : String → Code CampaignState α}
    {Q : Except Exc α → CampaignState → Progress → Prop}
    (hbase : baseEvidence site args.scope = .ok base)
    (hok : ∀ evidence, EvidenceAt site args s evidence →
      Post (commits site campaign sur c) (f evidence) s Q g)
    (herror : ∀ e, Q (.error e) s g) :
    Post (commits site campaign sur c)
      (dispatchEvidence site args base objective id decision result >>= f) s Q g := by
  rw [dispatchEvidence, bind_assoc, post_get_bind, bind_assoc]
  refine utcNow_post fun now _ => ?_
  rw [bind_assoc]
  refine post_attempt_bind (fun manifest _ => ?_) fun e _ => herror e
  cases result with
  | none => exact writeIteration_post hbase hok herror
  | some r =>
    dsimp only
    rw [bind_assoc]
    exact post_attempt_bind (fun record _ => writeIteration_post hbase hok herror) fun e _ => herror e

/-- The pause after a dispatch. -/
theorem pauseAfter_post {iterationId phase reason evidence note : String} {path : String}
    (hpath : resolveEventLog site s = .ok path)
    {Q : Except Exc Unit → CampaignState → Progress → Prop}
    (h : ∀ eid now, let t := s.pausedFor id phase reason evidence note
      let e := nextEvent site.rt t eid now
        { eventType := "campaign_paused", iterationId := iterationId, objectiveId := some id
          moduleName := some (moduleNameOf site objective), outcome := "paused_for_human_review"
          evidenceDirectory := some evidence, details := [("phase", .str phase)] }
      Q (.ok ()) (t.withEvent site.rt e) (g.push e)) :
    Post (commits site campaign sur c)
      (pauseAfter site iterationId id phase reason evidence note objective) s Q g := by
  rw [pauseAfter, post_modify_bind]
  exact append_post hpath h

/-- The state of a dispatch when its result has been recorded. -/
def CampaignState.recorded (rt : Runtime) (b : CampaignState) (r : Dispatched) (eid now : String) :
    CampaignState :=
  let t := b.accounted r.evidence r.total r.endpoints r.budget
  (t.withEvent rt (nextEvent rt t eid now (resultArgs b r))).advanced

/-- **Where a dispatched objective goes**: the result is in flight. -/
theorem settleObjective_post {b : CampaignState} {r : Dispatched} (hrest : Rest site ids g b)
    (hm : (Move.result r).Enabled site campaign sur c b)
    (hmodule : r.moduleName = moduleNameOf site objective) (eid now : String)
    {Q : Except Exc Unit → CampaignState → Progress → Prop}
    (h : ∀ s' g', InFlight site campaign sur c ids g' (.result r) b s' → g'.clock = g.clock →
      Q (.ok ()) s' g') :
    Post (commits site campaign sur c)
      (settleObjective site (fmt04 b.nextIteration) r.id r.evidence objective r.decision r.outcome)
      (b.recorded site.rt r eid now)
      Q (g.push (nextEvent site.rt (b.accounted r.evidence r.total r.endpoints r.budget) eid now
        (resultArgs b r))) := by
  obtain ⟨path, hpath⟩ := hrest.path
  have hid : r.id ∈ b.pendingModules := by
    obtain ⟨_, _, _, -, -, hdispatches⟩ := hm
    exact hrest.persisted.ledger.current r.id hdispatches.current
  have hone (e : CampaignEvent) : b.events ++ [e] = b.events ++ (g.pending ++ [e]) := by
    rw [hrest.pending, List.nil_append]
  have htwo (e e' : CampaignEvent) :
      b.events ++ [e] ++ [e'] = b.events ++ (g.pending ++ [e] ++ [e']) := by
    rw [hrest.pending, List.nil_append, List.append_assoc]
  have hgateOf : r.decision.allowed = true → humanGateOnly r.decision = false := by
    intro hallowed
    simp [humanGateOnly, hallowed]
  have hpath' : resolveEventLog site (b.recorded site.rt r eid now) = .ok path := hpath
  rw [settleObjective]
  rcases settled_cases b r with ⟨hgate, h'⟩ | ⟨hgate, hdenied, h'⟩ | ⟨hallowed, houtcome, h'⟩ |
    ⟨hallowed, houtcome, h'⟩
  · -- The gate wants a human.
    rw [if_pos hgate]
    refine pauseAfter_post hpath' fun eid' now' => ?_
    refine h _ _ ?_ rfl
    have hargs : [⟨eid, now, resultArgs b r⟩, ⟨eid', now', pauseArgs b r "pre_execution"⟩].map
        Entry.args = (Move.result r).events b := by
      simp [Move.events, resultEvents, hgate]
    refine .of_logged hrest hm hargs ?_ rfl (htwo _ _)
    rw [Move.after, h', ← hmodule]
    rfl
  · -- The gate denies.
    rw [if_neg (by simp [hgate]), if_pos (by simp [hdenied]), post_get_bind]
    have hpending : removeFrom (b.recorded site.rt r eid now).pendingModules r.id =
        .ok (b.pendingModules.erase r.id) := removeFrom_of_mem hid
    rw [hpending]
    refine post_attempt_bind (fun _ _ => h _ _ ?_ rfl) fun _ he => by cases he
    have hargs : [⟨eid, now, resultArgs b r⟩].map Entry.args = (Move.result r).events b := by
      simp [Move.events, resultEvents, hgate, hdenied]
    refine .of_logged hrest hm hargs ?_ rfl (hone _)
    rw [Move.after, h']
    rfl
  · -- The result wants a human.
    rw [if_neg (by simp [hgateOf hallowed]), if_neg (by simp [hallowed]), if_pos houtcome]
    refine pauseAfter_post hpath' fun eid' now' => ?_
    refine h _ _ ?_ rfl
    have hargs : [⟨eid, now, resultArgs b r⟩, ⟨eid', now', pauseArgs b r "post_execution"⟩].map
        Entry.args = (Move.result r).events b := by
      simp [Move.events, resultEvents, hgateOf hallowed, hallowed, houtcome]
    refine .of_logged hrest hm hargs ?_ rfl (htwo _ _)
    rw [Move.after, h', ← hmodule]
    rfl
  · -- The objective is done.
    rw [if_neg (by simp [hgateOf hallowed]), if_neg (by simp [hallowed]), if_neg houtcome,
      post_get_bind]
    have hpending : removeFrom (b.recorded site.rt r eid now).pendingModules r.id =
        .ok (b.pendingModules.erase r.id) := removeFrom_of_mem hid
    rw [hpending]
    refine post_attempt_bind (fun _ _ => h _ _ ?_ rfl) fun _ he => by cases he
    have hargs : [⟨eid, now, resultArgs b r⟩].map Entry.args = (Move.result r).events b := by
      simp [Move.events, resultEvents, hgateOf hallowed, hallowed, houtcome]
    refine .of_logged hrest hm hargs ?_ rfl (hone _)
    rw [Move.after, h']
    rfl

/-- A cleared objective stays cleared when it becomes the current one. -/
theorem Cleared.dispatched {budget : SafetyBudget} (h : Cleared site campaign sur args s id objective budget)
    (now : String) : Cleared site campaign sur args
      (CampaignState.saved { s.dispatching id with lastUpdatedTime := now }) id objective budget :=
  ⟨⟨h.head.running, h.head.next⟩, h.noSignals, h.noLockout, h.budgetAt, h.affordable⟩

/-- **One objective, from the gate to its event.** -/
theorem dispatchObjective_post {budget : SafetyBudget} (hrest : Rest site ids g s)
    (hids : GoodIds ids) (hc : c.args? = some args)
    (hbase : baseEvidence site args.scope = .ok base)
    (hcleared : Cleared site campaign sur args s id objective budget) :
    Post (commits site campaign sur c) (dispatchObjective site args base budget objective id) s
      (fun r s' g' => match r with
        | .ok budget' => g'.clock = g.clock ∧ ∃ b r, r.id = id ∧ r.budget = budget' ∧
            (Move.dispatch r.id).Enabled site campaign sur c s ∧
            Moved site sur (.dispatch r.id) s b ∧ b.elapsedSeconds = s.elapsedSeconds ∧
            InFlight site campaign sur c ids g' (.result r) b s'
        | .error _ => g'.pending = []) g := by
  have hm : (Move.dispatch id).Enabled site campaign sur c s := ⟨args, objective, budget, hc, hcleared⟩
  have hdispatching : InFlight site campaign sur c ids g (.dispatch id) s (s.dispatching id) :=
    .of_none hrest hm rfl
  rw [dispatchObjective, post_modify_bind, post_bind]
  refine touch_post fun now hnow => ?_
  dsimp only
  rw [post_bind]
  refine (hdispatching.retime hnow (.refl sur _)).save_post hids fun hrest' hmoved => ?_
  have hcleared' := hcleared.dispatched now
  dsimp only
  rw [post_get_bind]
  refine post_call_bind (fun args' hargs' => ?_) fun snapshot hsnapshot => ?_
  · obtain rfl : args = args' := Option.some.inj (hc.symm.trans hargs')
    exact ⟨_, id, objective, budget, hrest'.base, hrest'.pending, rfl, hcleared'⟩
  refine post_attempt_bind (fun decision hdecision => ?_) fun _ _ => rfl
  refine executeAllowed_post (fun result hresult => ?_) fun _ => rfl
  refine dispatchEvidence_post hbase (fun evidence hevidence => ?_) fun _ => rfl
  refine post_attempt_bind (fun total htotal => ?_) fun _ _ => rfl
  refine post_attempt_bind (fun budget' hbudget' => ?_) fun _ _ => rfl
  rw [post_modify_bind, post_bind]
  obtain ⟨path, hpath⟩ := hrest'.path
  refine append_post hpath fun eid enow => ?_
  dsimp only
  rw [post_modify_bind, post_bind]
  let b : CampaignState := CampaignState.saved { s.dispatching id with lastUpdatedTime := now }
  let r : Dispatched :=
    { id := id, evidence := evidence, moduleName := moduleNameOf site objective
      total := total + (dispatchManifest site args objective decision result).requestCount
      endpoints := endpointsOf objective, budget := budget', decision := decision
      outcome := outcomeOf decision result }
  have hresult' : (Move.result r).Enabled site campaign sur c b :=
    ⟨args, objective, budget, hc, hcleared', rfl, ⟨snapshot, hsnapshot, hdecision⟩,
      ⟨result, hresult, rfl, ⟨total, htotal, rfl⟩, hbudget'⟩, hevidence, rfl, rfl⟩
  refine settleObjective_post hrest' hresult' rfl eid enow fun s' g' hflight hclock => ?_
  exact ⟨hclock, b, r, rfl, rfl, hm, hmoved, rfl, hflight⟩

end dispatch

/-! ### The loop -/

section loop

variable {site campaign sur c} {ids : List String} {s : CampaignState} {g : Progress}
  {args : RunArgs}

/-- What has elapsed by the clock of an invocation, and the elapsed time of a state before it. -/
def Timed (sur : Surroundings) (timing : Timing) (g : Progress) (e : ℚ) : Prop :=
  ∃ t, g.clock = some t ∧ sur.Elapses e (timing.before + (t - timing.started))

theorem elapsed_post {α : Type} {timing : Timing} {e : ℚ} (h : Timed sur timing g e)
    {f : ℚ → Code CampaignState α} {Q : Except Exc α → CampaignState → Progress → Prop}
    (hq : ∀ t v, sur.Elapses e v → Timed sur timing (g.tick t) v →
      Post (commits site campaign sur c) (f v) s Q (g.tick t)) :
    Post (commits site campaign sur c) (elapsed timing >>= f) s Q g := by
  obtain ⟨t₀, hclock, helapses⟩ := h
  rw [elapsed, bind_assoc]
  refine post_call_bind trivial fun t ht => ?_
  have hstep := ht t₀ hclock
  rw [post_pure_bind]
  refine hq t _ (helapses.trans ⟨?_, fun hstill => ?_⟩) ⟨t, rfl, .refl sur _⟩
  · have := hstep.1
    linarith
  · rw [hstep.2 hstill]

theorem prepareObjective_post {α : Type} {configured : Dict} {id : String}
    {f : Dict → Code CampaignState α} {Q : Except Exc α → CampaignState → Progress → Prop}
    (h : ∀ objective, Prepared sur s.reviewedObjectives id configured objective →
      Post (commits site campaign sur c) (f objective) s Q g) :
    Post (commits site campaign sur c) (prepareObjective configured id >>= f) s Q g := by
  rw [prepareObjective, bind_assoc, post_get_bind]
  unfold Prepared artifactOf marked at h
  dsimp only
  generalize (if id ∈ s.reviewedObjectives then dset configured "human_approved" (.bool true)
    else configured) = objective at h ⊢
  -- Only an SBOM objective with a text for its artifact asks the world.
  cases hcategory : hasCategory objective "sbom_review" with
  | false =>
    simp only [hcategory] at h ⊢
    rw [post_pure_bind]
    exact h objective rfl
  | true =>
    cases hartifact : dget objective "artifact" with
    | str artifact =>
      simp only [hcategory, hartifact] at h ⊢
      rw [bind_assoc]
      refine post_call_bind trivial fun path hpath => ?_
      rw [post_pure_bind]
      exact h _ ⟨path, hpath, rfl⟩
    | _ =>
      simp only [hcategory, hartifact] at h ⊢
      rw [post_pure_bind]
      exact h objective rfl

theorem counterAt_setCounter (key : String) (n : ℤ) (counters : List (String × ℤ)) :
    counterAt (setCounter key n counters) key = .ok n := by
  induction counters with
  | nil => simp [setCounter, counterAt]
  | cons d ds ih =>
    obtain ⟨k, v⟩ := d
    unfold counterAt at ih ⊢
    by_cases hd : k = key
    · simp [setCounter, hd]
    · have hne : (key == k) = false := by simpa using Ne.symm hd
      simpa [setCounter, hd, List.lookup_cons, hne] using ih

/-- The budget depends on the state through its counters only. -/
theorem budgetOf_of_counters {limits : CampaignLimits} {scope : Dict} {b : CampaignState}
    {budget : SafetyBudget} (h : budgetOf site limits scope b = .ok budget) {total minute : ℤ}
    (htotal : counterAt s.requestCounters "total" = .ok total)
    (hminute : counterAt s.rateLimitCounters "current_minute" = .ok minute) :
    budgetOf site limits scope s = .ok { budget with
      iterations := s.nextIteration - 1
      requests := total
      currentMinuteRequests := minute
      consecutiveFailures := s.consecutiveFailures } := by
  simp only [budgetOf, bind_eq_ok] at h ⊢
  obtain ⟨rates, hrates, maxRequests, hmax, n, hn, perMinute, hper, k, hk, _, -, _, -, h⟩ := h
  cases h
  exact ⟨rates, hrates, maxRequests, hmax, n, hn, perMinute, hper, k, hk, total, htotal, minute,
    hminute, rfl⟩

/-- A dispatch that leaves the campaign running has completed its objective. -/
theorem Moved.running_of_result {b : CampaignState} {r : Dispatched}
    (h : Moved site sur (.result r) b s) (hs : s.currentStatus = .running) :
    r.decision.allowed = true ∧ r.outcome ≠ .manualReview ∧
      ∃ es hash now e revision, s =
        { (b.accounted r.evidence r.total r.endpoints r.budget).advanced.objectiveDone r.id with
          events := b.events ++ es, lastEventHash := hash, lastUpdatedTime := now
          elapsedSeconds := e, stateRevision := revision } := by
  obtain ⟨es, hash, now, e, revision, rfl, -⟩ := h.spec
  rcases settled_cases b r with ⟨-, h'⟩ | ⟨-, -, h'⟩ | ⟨-, -, h'⟩ | ⟨hallowed, houtcome, h'⟩
  case inr.inr.inr => exact ⟨hallowed, houtcome, es, hash, now, e, revision, by rw [Move.after, h']⟩
  all_goals
    simp only [Move.after, h'] at hs
    cases hs

theorem Moved.pending_of_running {b : CampaignState} {r : Dispatched}
    (h : Moved site sur (.result r) b s) (hs : s.currentStatus = .running) :
    s.pendingModules = b.pendingModules.erase r.id := by
  obtain ⟨-, -, _, _, _, _, _, rfl⟩ := h.running_of_result hs
  rfl

theorem Moved.pending_of_dispatch {b : CampaignState} {id : String}
    (h : Moved site sur (.dispatch id) b s) : s.pendingModules = b.pendingModules := by
  obtain ⟨_, _, _, _, _, rfl, -⟩ := h.spec
  rfl

/-- **The budget of the loop is the budget of its state**, turn by turn. -/
theorem BudgetAt.result {b : CampaignState} {r : Dispatched} {objective : Dict}
    {budget : SafetyBudget} (hbudget : BudgetAt site campaign args b budget)
    (hr : Dispatches site sur args b objective budget r) (h : Moved site sur (.result r) b s)
    (hs : s.currentStatus = .running) : BudgetAt site campaign args s r.budget := by
  obtain ⟨parsed, hparsed, hbudgetOf⟩ := hbudget
  obtain ⟨_, _, es, hash, now, e, revision, rfl⟩ := h.running_of_result hs
  obtain ⟨_, _, total, minute, htotal, hminute, rfl⟩ := budgetOf_eq_ok hbudgetOf
  obtain ⟨result, -, -, ⟨total', htotal', hr_total⟩, hrecord⟩ := hr.executed
  obtain ⟨-, hr_budget⟩ := record_eq_ok hrecord
  obtain rfl : total = total' := Except.ok.inj (htotal.symm.trans htotal')
  refine ⟨parsed, hparsed, ?_⟩
  rw [budgetOf_of_counters hbudgetOf (counterAt_setCounter "total" r.total _)
    (counterAt_setCounter "current_minute" r.budget.currentMinuteRequests _)]
  refine congrArg Except.ok ?_
  rw [hr_total, hr_budget]
  refine SafetyBudget.ext rfl rfl rfl rfl rfl ?_ rfl rfl rfl
  show b.nextIteration + 1 - 1 = b.nextIteration - 1 + 1
  omega

/-- The loop has ended: at rest, or with an exit in flight; or it has raised with nothing
written. -/
def LoopPost (site : Site) (campaign : Dict) (sur : Surroundings) (c : Call) (ids : List String)
    (args : RunArgs) (timing : Timing) (steps : ℤ) (s : CampaignState) (r : Except Exc Unit)
    (s' : CampaignState) (g' : Progress) : Prop :=
  match r with
  | .ok _ => Loops site campaign sur c args steps s s' ∧ Timed sur timing g' s'.elapsedSeconds ∧
      (Rest site ids g' s' ∨ s'.currentStatus ≠ .running ∧ ∃ m b,
        InFlight site campaign sur c ids g' m b s' ∧ b.elapsedSeconds = s'.elapsedSeconds)
  | .error _ => g'.pending = []

/-- What an exit comes to when its move is saved. -/
theorem ExitPost.save {timing : Timing} {steps : ℤ} (hids : GoodIds ids)
    (hsteps : stepsSpent args steps = false) (htimed : Timed sur timing g s.elapsedSeconds)
    {s' : CampaignState} {g' : Progress}
    (h : ExitPost site campaign sur c ids s g (.ok ()) s' g') :
    Post (commits site campaign sur c) touchAndSave s'
      (LoopPost site campaign sur c ids args timing steps s) g' := by
  obtain ⟨hclock, helapsed, hstatus, m, hflight, hexit⟩ := h
  refine hflight.touchAndSave_post hids fun now _ hrest hmoved => ?_
  refine ⟨.last hsteps (.exit m hexit hflight.enabled hmoved) hstatus, ?_, .inl hrest⟩
  obtain ⟨t, ht, h⟩ := htimed
  refine ⟨t, hclock.trans ht, ?_⟩
  show sur.Elapses s'.elapsedSeconds _
  rwa [helapsed]

/-- The first pending objective of the schedule is to be found in its rest. -/
def Upto (rt : Runtime) (ordered rest : List Dict) (pending : List String) : Prop :=
  ∀ p : List String, p ⊆ pending → nextObjective rt p ordered = nextObjective rt p rest

theorem Upto.tail {rt : Runtime} {ordered rest : List Dict} {configured : Dict}
    {pending pending' : List String} (h : Upto rt ordered (configured :: rest) pending)
    {id : String} (hid : objectiveIdOf rt configured = .ok id) (hsub : pending' ⊆ pending)
    (hnot : id ∉ pending') : Upto rt ordered rest pending' := by
  intro p hp
  rw [h p fun x hx => hsub (hp hx)]
  simp only [nextObjective, hid]
  rw [if_neg fun hmem => hnot (hp hmem)]

/-- An erased id is gone from a list without repetitions. -/
theorem Ledger.not_mem_erase (h : Ledger ids s) (hids : GoodIds ids) (id : String) :
    id ∉ s.pendingModules.erase id := by
  have hnodup := h.nodup hids
  simp only [CampaignState.allModules, List.nodup_append'] at hnodup
  exact hnodup.1.1.2.1.not_mem_erase

/-- **A run of the loop** is a sequence of turns. The loop keeps its budget that of its state, and
its place in the schedule before every pending objective. -/
theorem runLoop_post (hids : GoodIds ids) (hc : c.args? = some args) {base : PurePath}
    (hbase : baseEvidence site args.scope = .ok base) {objectives ordered : List Dict}
    (hraw : rawObjectives campaign = .ok objectives)
    (hschedule : schedule site.rt objectives = .ok ordered) {timing : Timing} {rest : List Dict}
    {budget : SafetyBudget} {steps : ℤ} (hrest : Rest site ids g s)
    (hrunning : s.currentStatus = .running) (htimed : Timed sur timing g s.elapsedSeconds)
    (hbudget : BudgetAt site campaign args s budget)
    (hupto : Upto site.rt ordered rest s.pendingModules) :
    Post (commits site campaign sur c) (runLoop site args base timing budget steps rest) s
      (LoopPost site campaign sur c ids args timing steps s) g := by
  induction rest generalizing s g budget steps with
  | nil =>
    have hnothing : NothingLeft site campaign s :=
      ⟨objectives, ordered, hraw, hschedule, hupto s.pendingModules fun _ h => h⟩
    exact ⟨.done hnothing, htimed, .inl hrest⟩
  | cons configured rest ih =>
    rw [runLoop]
    refine post_attempt_bind (fun id hid => ?_) fun _ _ => hrest.pending
    rw [post_get_bind]
    by_cases hpending : id ∈ s.pendingModules
    swap
    · rw [if_neg hpending]
      exact ih hrest hrunning htimed hbudget (hupto.tail hid (fun _ h => h) hpending)
    rw [if_pos hpending]
    refine prepareObjective_post fun objective hprepared => ?_
    have hnext : nextObjective site.rt s.pendingModules ordered = some (id, configured) := by
      rw [hupto s.pendingModules fun _ h => h]
      simp [nextObjective, hid, hpending]
    have hhead : Head site campaign sur s id objective :=
      ⟨hrunning, objectives, ordered, configured, hraw, hschedule, hnext, hprepared⟩
    obtain ⟨-, -, hflag⟩ := hrest.persisted.ledger.of_running hrunning
    cases hsteps : stepsSpent args steps with
    | true => exact ⟨.spent hsteps, htimed, .inl hrest⟩
    | false =>
      rw [if_neg (by simp)]
      by_cases hsignals : collectFuzzingStopSignals objective = []
      swap
      · -- A stop signal of the objective.
        rw [if_pos (by simp [hsignals]), post_bind]
        refine post_mono (fun r s' g' h => ?_)
          (recordFuzzingConditionStop_post hrest hc hbase hhead hsignals)
        cases r with
        | ok _ => exact h.save hids hsteps htimed
        | error e => exact h
      rw [if_neg (by simp [hsignals])]
      by_cases hlockout : panelLockoutRiskDetected objective = true ∧ id ∉ s.reviewedObjectives
      · -- A lockout risk that nobody has reviewed.
        rw [if_pos (by simp [hlockout]), post_bind]
        refine post_mono (fun r s' g' h => ?_)
          (recordPanelLockoutPause_post hrest hc hbase hhead hsignals hlockout.1 hlockout.2)
        cases r with
        | ok _ => exact h.save hids hsteps htimed
        | error e => exact h
      have hreviewed : panelLockoutRiskDetected objective = true → id ∈ s.reviewedObjectives :=
        fun h => by_contra fun hnot => hlockout ⟨h, hnot⟩
      rw [if_neg (by simpa using hreviewed)]
      refine elapsed_post htimed fun t now hnow htimed' => ?_
      refine post_attempt_bind (fun proposed hproposed => ?_) fun _ _ => hrest.pending
      refine post_attempt_bind (fun reason hreason => ?_) fun _ _ => hrest.pending
      rw [if_neg (by simp [hflag])]
      have hrest := hrest.tick t
      cases reason with
      | some reason =>
        -- The budget does not allow it; the move is saved at the end of the invocation.
        dsimp only
        rw [post_modify_bind]
        refine post_mono (fun r s' g' h => ?_) (recordPreExecutionStop_post hrest hc hbase hhead
          hsignals hreviewed hbudget ⟨now, proposed, hnow, hproposed, hreason⟩)
        cases r with
        | error e => exact h
        | ok _ =>
          obtain ⟨hclock, helapsed, hstatus, m, hflight, hexit⟩ := h
          refine ⟨.last hsteps (.exit m hexit hflight.enabled hflight.moved) hstatus, ?_,
            .inr ⟨hstatus, m, s, hflight, helapsed.symm⟩⟩
          obtain ⟨t', ht', hnow'⟩ := htimed'
          exact ⟨t', hclock.trans ht', by rw [helapsed]; exact hnow.trans hnow'⟩
      | none =>
        -- The objective is dispatched; the loop goes on if the campaign still runs.
        have hcleared : Cleared site campaign sur args s id objective budget :=
          ⟨hhead, hsignals, hreviewed, hbudget, now, proposed, hnow, hproposed, hreason⟩
        dsimp only
        rw [post_bind]
        refine post_mono (fun r s' g' h => ?_)
          (dispatchObjective_post hrest hids hc hbase hcleared)
        cases r with
        | error e => exact h
        | ok budget' =>
          obtain ⟨hclock, b, r, rfl, rfl, hdispatch, hdispatched, helapsed, hflight⟩ := h
          have hbnow : sur.Elapses b.elapsedSeconds now := by rwa [helapsed]
          have htimed : Timed sur timing g' b.elapsedSeconds := by
            obtain ⟨t', ht', hnow'⟩ := htimed'
            exact ⟨t', hclock.trans ht', hbnow.trans hnow'⟩
          dsimp only
          refine elapsed_post htimed fun t' v hv htimed => ?_
          rw [post_modify_bind, post_bind]
          refine ((hflight.tick t').retime hflight.moved.updated hv).touchAndSave_post hids
            fun now' _ hrest'' hmoved => ?_
          dsimp only
          rw [post_get_bind]
          have helapsed'' : (CampaignState.savedAt { s' with
            lastUpdatedTime := s'.lastUpdatedTime, elapsedSeconds := v } now').elapsedSeconds = v := rfl
          generalize CampaignState.savedAt { s' with
            lastUpdatedTime := s'.lastUpdatedTime, elapsedSeconds := v } now' = s''
            at hrest'' hmoved helapsed'' ⊢
          have htimed'' : Timed sur timing ((g'.tick t').save s'') s''.elapsedSeconds := by
            rw [helapsed'']
            exact htimed
          have hturn : Turn site campaign sur c s s'' :=
            .dispatch b r hdispatch hdispatched hflight.enabled hmoved
          by_cases hrunning'' : s''.currentStatus = .running
          · rw [if_pos hrunning'']
            have hbudget'' : BudgetAt site campaign args s'' r.budget := by
              obtain ⟨args', _, _, hc', hcleared', hdispatches⟩ := hflight.enabled
              obtain rfl : args = args' := Option.some.inj (hc.symm.trans hc')
              exact hcleared'.budgetAt.result hdispatches hmoved hrunning''
            have hpending'' : s''.pendingModules = s.pendingModules.erase r.id :=
              (hmoved.pending_of_running hrunning'').trans (by rw [hdispatched.pending_of_dispatch])
            have hupto'' : Upto site.rt ordered rest s''.pendingModules := by
              rw [hpending'']
              exact hupto.tail hid (List.erase_subset)
                (hrest.persisted.ledger.not_mem_erase hids r.id)
            refine post_mono (fun r s₂ g₂ h => ?_)
              (ih hrest'' hrunning'' htimed'' hbudget'' hupto'')
            cases r with
            | error e => exact h
            | ok _ => exact ⟨.turn hsteps hturn hrunning'' h.1, h.2⟩
          · rw [if_neg hrunning'']
            exact ⟨.last hsteps hturn hrunning'', htimed'', .inl hrest''⟩

end loop

end Aotp.Campaign
