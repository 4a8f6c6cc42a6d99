import Aotp.Campaign.Success

/-!
# A stop that races with the loop

* `runFlag`, `stopFlag` — what an invocation and a stop write into the stop flag.
* `invocation_keeps` — **an invocation never saves a requested stop**: it reads the checkpoint once,
  and from then on saves what it holds in memory.
* `stopHonoured_iff` — over every interleaving of an invocation and a stop, the stop is honoured
  exactly when the invocation has made its last save before the stop returns, and recorded its last
  result before the stop appends its event; `stop_lost` is one that is not.
-/

namespace Aotp.Campaign

open PyData Aotp.Gate Effects HashChain

variable (site : Site) (campaign : Dict)

/-! ### The flag in memory -/

/-- A requested stop shows in the status. -/
def Honest (s : CampaignState) : Prop :=
  s.operatorStopRequested = true → s.currentStatus = .stoppedByOperator

/-- The monitor of an invocation: no checkpoint it saves has the flag, and it hashes none. -/
def runFlag : Monitor Op Res Unit where
  allowed _
    | .saveCheckpoint s => s.operatorStopRequested = false
    | .checkpointSha256 => False
    | _ => True
  legal _
    | .loadCheckpoint, b => ∀ s, b = some s → Honest s
    | _, _ => True
  next _ _ _ := ()

/-- The monitor of a stop: every checkpoint it saves has the flag, and its event is the only one. -/
def stopFlag : Monitor Op Res Unit where
  allowed _
    | .saveCheckpoint s => s.operatorStopRequested = true ∧ s.currentStatus = .stoppedByOperator
    | .appendLog e => e.eventType = .str "operator_stop"
    | _ => True
  legal _ _ _ := True
  next _ _ _ := ()

/-- No stop is requested in the state. -/
def Unstopped (s : CampaignState) (_ : Unit) : Prop := s.operatorStopRequested = false

theorem flag_call (o : Op) (h : runFlag.allowed () o) :
    Keeps runFlag Unstopped (call o : Code CampaignState (Res o)) :=
  keeps_call fun _ _ hs => ⟨h, fun _ _ => hs⟩

section keeps

variable {site} {args : RunArgs} {base : PurePath} {objective : Dict} {id : String}

theorem append_keeps (a : EventArgs) : Keeps runFlag Unstopped (appendCampaignEvent site a) := by
  rw [appendCampaignEvent]
  refine keeps_get_bind fun s _ => ?_
  refine keeps_bind (flag_call _ trivial) fun eid => keeps_bind (flag_call _ trivial) fun now => ?_
  refine keeps_bind (keeps_attempt _) fun _ => keeps_bind (flag_call _ trivial) fun _ => ?_
  exact keeps_modify fun _ _ h => h

theorem touch_keeps : Keeps runFlag Unstopped touch :=
  keeps_bind (flag_call _ trivial) fun _ => keeps_modify fun _ _ h => h

theorem saveState_keeps : Keeps runFlag Unstopped saveState := by
  rw [saveState]
  refine keeps_get_bind fun s hs => keeps_bind (flag_call _ (hs.elim fun _ h => h)) fun _ => ?_
  exact keeps_bind (keeps_attempt _) fun _ => keeps_modify fun _ _ h => h

theorem touchAndSave_keeps : Keeps runFlag Unstopped touchAndSave :=
  keeps_bind touch_keeps fun _ => saveState_keeps

theorem writeIteration_keeps (manifest : Dict) (record : Option Dict) :
    Keeps runFlag Unstopped (writeIteration site base manifest record) := by
  rw [writeIteration]
  refine keeps_get_bind fun s _ => keeps_bind (flag_call _ trivial) fun _ => ?_
  exact keeps_bind (keeps_attempt _) fun _ => keeps_attempt _

theorem recordFuzzingConditionStop_keeps (signals : List String) : Keeps runFlag Unstopped
    (recordFuzzingConditionStop site args base objective id signals) := by
  rw [recordFuzzingConditionStop]
  refine keeps_get_bind fun s _ => keeps_bind (flag_call _ trivial) fun _ => ?_
  refine keeps_bind (keeps_attempt _) fun _ => keeps_bind (writeIteration_keeps _ _) fun _ => ?_
  refine keeps_bind (keeps_attempt _) fun _ => ?_
  exact keeps_bind (keeps_modify fun _ _ h => h) fun _ => append_keeps _

theorem recordPanelLockoutPause_keeps :
    Keeps runFlag Unstopped (recordPanelLockoutPause site args base objective id) := by
  rw [recordPanelLockoutPause]
  refine keeps_get_bind fun s _ => keeps_bind (flag_call _ trivial) fun _ => ?_
  refine keeps_bind (keeps_attempt _) fun _ => keeps_bind (writeIteration_keeps _ _) fun _ => ?_
  exact keeps_bind (keeps_modify fun _ _ h => h) fun _ => append_keeps _

theorem recordPreExecutionStop_keeps (reason : String) :
    Keeps runFlag Unstopped (recordPreExecutionStop site args base objective id reason) := by
  rw [recordPreExecutionStop]
  refine keeps_get_bind fun s _ => keeps_bind (flag_call _ trivial) fun _ => ?_
  refine keeps_bind (keeps_attempt _) fun _ => keeps_bind (writeIteration_keeps _ _) fun _ => ?_
  refine keeps_bind (keeps_attempt _) fun _ => ?_
  exact keeps_bind (keeps_modify fun _ _ h => h) fun _ => append_keeps _

theorem executeAllowed_keeps (decision : PolicyDecision) :
    Keeps runFlag Unstopped (executeAllowed site args objective decision) := by
  rw [executeAllowed]
  refine keeps_ite (keeps_bind (flag_call _ trivial) fun _ => ?_) (keeps_pure _)
  exact keeps_bind (keeps_attempt _) fun _ => keeps_pure _

theorem dispatchEvidence_keeps (decision : PolicyDecision) (result : Option ExecutionResult) :
    Keeps runFlag Unstopped (dispatchEvidence site args base objective id decision result) := by
  rw [dispatchEvidence]
  refine keeps_get_bind fun s _ => keeps_bind (flag_call _ trivial) fun _ => ?_
  refine keeps_bind (keeps_attempt _) fun _ => ?_
  cases result with
  | none => exact writeIteration_keeps _ _
  | some r => exact keeps_bind (keeps_attempt _) fun _ => writeIteration_keeps _ _

theorem pauseAfter_keeps (iterationId phase reason evidence note : String) : Keeps runFlag Unstopped
    (pauseAfter site iterationId id phase reason evidence note objective) :=
  keeps_bind (keeps_modify fun _ _ h => h) fun _ => append_keeps _

theorem settleObjective_keeps (iterationId evidence : String) (decision : PolicyDecision)
    (outcome : Verdict) : Keeps runFlag Unstopped
      (settleObjective site iterationId id evidence objective decision outcome) := by
  rw [settleObjective]
  refine keeps_ite (pauseAfter_keeps _ _ _ _ _) (keeps_ite ?_ (keeps_ite (pauseAfter_keeps _ _ _ _ _) ?_))
  all_goals
    refine keeps_get_bind fun s _ => keeps_bind (keeps_attempt _) fun _ => ?_
    exact keeps_modify fun _ _ h => h

theorem dispatchObjective_keeps (budget : SafetyBudget) :
    Keeps runFlag Unstopped (dispatchObjective site args base budget objective id) := by
  rw [dispatchObjective]
  refine keeps_bind (keeps_modify fun _ _ h => h) fun _ => keeps_bind touch_keeps fun _ => ?_
  refine keeps_bind saveState_keeps fun _ => keeps_get_bind fun s _ => ?_
  refine keeps_bind (flag_call _ trivial) fun _ => keeps_bind (keeps_attempt _) fun _ => ?_
  refine keeps_bind (executeAllowed_keeps _) fun _ => ?_
  refine keeps_bind (dispatchEvidence_keeps _ _) fun _ => keeps_bind (keeps_attempt _) fun _ => ?_
  refine keeps_bind (keeps_attempt _) fun _ => keeps_bind (keeps_modify fun _ _ h => h) fun _ => ?_
  refine keeps_bind (append_keeps _) fun _ => keeps_bind (keeps_modify fun _ _ h => h) fun _ => ?_
  exact keeps_bind (settleObjective_keeps _ _ _ _) fun _ => keeps_pure _

theorem elapsed_keeps (timing : Timing) : Keeps runFlag Unstopped (elapsed timing) :=
  keeps_bind (flag_call _ trivial) fun _ => keeps_pure _

theorem prepareObjective_keeps (configured : Dict) :
    Keeps runFlag Unstopped (prepareObjective configured id) := by
  rw [prepareObjective]
  refine keeps_get_bind fun s _ => ?_
  dsimp only
  split
  · exact keeps_bind (flag_call _ trivial) fun _ => keeps_pure _
  · exact keeps_pure _

/-- **The loop keeps the flag as it is.** -/
theorem runLoop_keeps (timing : Timing) (budget : SafetyBudget) (steps : ℤ) (rest : List Dict) :
    Keeps runFlag Unstopped (runLoop site args base timing budget steps rest) := by
  induction rest generalizing budget steps with
  | nil => exact keeps_pure _
  | cons configured rest ih =>
    rw [runLoop]
    refine keeps_bind (keeps_attempt _) fun oid => keeps_get_bind fun s _ => ?_
    refine keeps_ite (keeps_bind (prepareObjective_keeps _) fun objective => ?_) (ih _ _)
    refine keeps_ite (keeps_pure _) (keeps_ite ?_ (keeps_ite ?_ ?_))
    · exact keeps_bind (recordFuzzingConditionStop_keeps _) fun _ => touchAndSave_keeps
    · exact keeps_bind recordPanelLockoutPause_keeps fun _ => touchAndSave_keeps
    refine keeps_bind (elapsed_keeps _) fun now => keeps_bind (keeps_attempt _) fun proposed => ?_
    refine keeps_bind (keeps_attempt _) fun reason => keeps_ite ?_ ?_
    · exact keeps_bind (keeps_modify fun _ _ h => h) fun _ => recordPreExecutionStop_keeps _
    cases reason with
    | some reason =>
      exact keeps_bind (keeps_modify fun _ _ h => h) fun _ => recordPreExecutionStop_keeps _
    | none =>
      refine keeps_bind (dispatchObjective_keeps _) fun budget => ?_
      refine keeps_bind (elapsed_keeps _) fun now => ?_
      refine keeps_bind (keeps_modify fun _ _ h => h) fun _ => ?_
      refine keeps_bind touchAndSave_keeps fun _ => keeps_get_bind fun s _ => ?_
      exact keeps_ite (ih _ _) (keeps_pure _)

theorem verifyStateEventLog_keeps (s : CampaignState) :
    Keeps runFlag Unstopped (verifyStateEventLog site s) := by
  rw [verifyStateEventLog]
  refine keeps_bind (keeps_attempt _) fun _ => keeps_bind (flag_call _ trivial) fun _ => ?_
  refine keeps_bind (keeps_attempt _) fun failures => keeps_ite ?_ (keeps_pure _)
  exact keeps_bind (flag_call _ trivial) fun _ => keeps_attempt _

/-- **An invocation never saves a requested stop.** -/
theorem invocation_keeps (p : CampaignDefinition) : Keeps runFlag Unstopped (do
    beginInvocation site
    continueCampaign site args campaign p) := by
  refine keeps_bind ?_ fun _ => ?_
  · rw [beginInvocation]
    refine keeps_get_bind fun s _ => keeps_bind ?_ fun _ => keeps_bind ?_ fun _ => ?_
    · exact keeps_ite (append_keeps _) (keeps_bind (verifyStateEventLog_keeps s) fun _ => keeps_attempt _)
    · exact keeps_ite (append_keeps _) (keeps_pure _)
    · exact keeps_bind (keeps_modify fun _ _ h => h) fun _ => touchAndSave_keeps
  · rw [continueCampaign]
    refine keeps_get_bind fun s _ => keeps_bind (keeps_attempt _) fun _ => ?_
    refine keeps_bind (flag_call _ trivial) fun _ => keeps_bind (keeps_attempt _) fun _ => ?_
    refine keeps_bind (keeps_attempt _) fun _ => keeps_bind (keeps_attempt _) fun _ => ?_
    refine keeps_bind (runLoop_keeps _ _ _ _) fun _ => ?_
    rw [finishInvocation]
    refine keeps_bind (elapsed_keeps _) fun _ => keeps_bind (keeps_modify fun _ _ h => h) fun _ => ?_
    refine keeps_get_bind fun s _ => ?_
    split
    · refine keeps_bind (keeps_modify fun _ _ h => h) fun _ => ?_
      exact keeps_bind (append_keeps _) fun _ => touchAndSave_keeps
    · exact touchAndSave_keeps

end keeps

/-! ### The two calls -/

variable {site campaign}

/-- The checks of a resume refuse a stopped campaign. -/
theorem validateResumeInputs_flag {s : CampaignState} (hs : Honest s) {α : Type}
    {k : Unit → Code Unit α}
    (hk : Unstopped s () → Post runFlag (k ()) () (fun _ _ _ => True) ()) :
    Post runFlag (validateResumeInputs site s campaign >>= k) () (fun _ _ _ => True) () := by
  rw [validateResumeInputs, bind_assoc]
  refine post_call_bind trivial fun _ _ => ?_
  rw [bind_assoc]
  refine post_attempt_bind (fun _ _ => ?_) fun _ _ => trivial
  rw [bind_assoc]
  refine post_attempt_bind (fun _ _ => ?_) fun _ _ => trivial
  rw [bind_assoc]
  refine post_attempt_bind (fun _ _ => ?_) fun _ _ => trivial
  rw [bind_assoc]
  refine post_attempt_bind (fun _ _ => ?_) fun _ _ => trivial
  rw [bind_assoc]
  refine post_attempt_bind (fun _ _ => ?_) fun _ _ => trivial
  rw [bind_assoc]
  refine post_attempt_bind (fun _ _ => ?_) fun _ _ => trivial
  refine post_attempt_bind (fun _ hstatus => hk ?_) fun _ _ => trivial
  rw [guardE_eq_ok] at hstatus
  cases hflag : s.operatorStopRequested with
  | false => exact hflag
  | true =>
    rw [hs hflag] at hstatus
    exact absurd hstatus (by decide)

theorem initializeState_flag {scope : Dict} {α : Type} {k : CampaignState → Code Unit α}
    (hk : ∀ s, Unstopped s () → Post runFlag (k s) () (fun _ _ _ => True) ()) :
    Post runFlag (initializeState site scope campaign >>= k) () (fun _ _ _ => True) () := by
  rw [initializeState, bind_assoc]
  refine post_attempt_bind (fun _ _ => ?_) fun _ _ => trivial
  rw [bind_assoc]
  refine post_call_bind trivial fun _ _ => ?_
  rw [bind_assoc]
  refine post_attempt_bind (fun _ _ => ?_) fun _ _ => trivial
  rw [bind_assoc]
  refine post_attempt_bind (fun _ _ => ?_) fun _ _ => trivial
  rw [bind_assoc]
  refine post_call_bind trivial fun _ _ => ?_
  rw [bind_assoc]
  refine post_attempt_bind (fun _ _ => ?_) fun _ _ => trivial
  rw [bind_assoc]
  refine post_attempt_bind (fun _ _ => ?_) fun _ _ => trivial
  refine post_attempt_bind (fun s hs => hk s ?_) fun _ _ => trivial
  simp only [initialState, bind_eq_ok] at hs
  obtain ⟨_, -, _, -, hs⟩ := hs
  cases hs
  rfl

/-- An invocation never saves a requested stop, wherever its state comes from. -/
theorem runCampaign_flag {args : RunArgs} {state : Option CampaignState}
    (hstate : ∀ s, state = some s → Honest s) :
    Post runFlag (runCampaign site args campaign state) () (fun _ _ _ => True) () := by
  rw [runCampaign]
  refine post_attempt_bind (fun p _ => ?_) fun _ _ => trivial
  have hinvocation : ∀ s, Unstopped s () → Post runFlag (within s do
      beginInvocation site
      continueCampaign site args campaign p) () (fun _ _ _ => True) () := by
    intro s hs
    refine post_within (post_mono (fun r _ _ _ => ?_) (invocation_keeps campaign p s () hs))
    cases r <;> trivial
  cases state with
  | some s =>
    rw [post_pure_bind]
    exact validateResumeInputs_flag (hstate s rfl) (hinvocation s)
  | none =>
    refine initializeState_flag fun s hs => ?_
    refine validateResumeInputs_flag (fun hflag => absurd (hs.symm.trans hflag) Bool.false_ne_true) fun _ => ?_
    rw [if_pos (show Option.isNone none = true from rfl), requireNoFiles, bind_assoc]
    refine post_call_bind trivial fun _ _ => ?_
    rw [bind_assoc]
    refine post_attempt_bind (fun _ _ => ?_) fun _ _ => trivial
    rw [bind_assoc]
    refine post_attempt_bind (fun _ _ => ?_) fun _ _ => trivial
    rw [bind_assoc]
    refine post_call_bind trivial fun _ _ => ?_
    exact post_attempt_bind (fun _ _ => hinvocation s hs) fun _ _ => trivial

theorem invocation_flag {c : Call} {args : RunArgs} (hc : c.args? = some args) :
    Post runFlag (c.perform site campaign) () (fun _ _ _ => True) () := by
  cases c with
  | start args =>
    have hnone : ∀ s, none = some s → Honest s := by
      rintro s ⟨⟩
    exact runCampaign_flag hnone
  | resume args =>
    rw [Call.perform, loadState, bind_assoc]
    refine post_call_bind trivial fun b hb => ?_
    cases b with
    | none => trivial
    | some s =>
      dsimp only
      rw [post_pure_bind]
      have hsome : ∀ s', some s = some s' → Honest s' := by
        rintro s' ⟨⟩
        exact hb s rfl
      exact runCampaign_flag hsome
  | review data => cases hc
  | stop => cases hc

/-- **A stop saves what it is for**, and appends its one event. -/
theorem stop_flag : Post stopFlag (Call.stop.perform site campaign) () (fun _ _ _ => True) () := by
  show Post stopFlag (onLoaded (requestOperatorStop site)) () _ ()
  rw [onLoaded, loadState, bind_assoc]
  refine post_call_bind trivial fun b _ => ?_
  cases b with
  | none => trivial
  | some s =>
    dsimp only
    rw [post_pure_bind]
    refine post_within ?_
    rw [requestOperatorStop, post_get_bind]
    refine post_attempt_bind (fun _ _ => ?_) fun _ _ => trivial
    rw [post_modify_bind, post_get_bind, appendCampaignEvent, bind_assoc, post_get_bind, bind_assoc]
    refine post_call_bind trivial fun _ _ => ?_
    rw [bind_assoc]
    refine post_call_bind trivial fun _ _ => ?_
    rw [bind_assoc]
    refine post_attempt_bind (fun _ _ => ?_) fun _ _ => trivial
    rw [bind_assoc]
    refine post_call_bind rfl fun _ _ => ?_
    rw [post_modify_bind, touchAndSave, touch, bind_assoc]
    refine post_call_bind trivial fun _ _ => ?_
    rw [post_modify_bind, saveState, post_get_bind]
    refine post_call_bind ⟨rfl, rfl⟩ fun _ _ => ?_
    exact post_attempt_bind (fun _ _ => trivial) fun _ _ => trivial

/-! ### The race -/

/-- **The stop is honoured** in an interleaving of an invocation (left) and a stop (right): once the
stop has returned every checkpoint that is persisted records it, and after its event no result is
recorded. -/
structure StopHonoured (l : List (Step ⊕ Step)) : Prop where
  checkpoints : ∀ l₁ l₂, l = l₁ ++ l₂ → right l₂ = [] → ∀ s ∈ savesOf (left l₂),
    s.operatorStopRequested = true ∧ s.currentStatus = .stoppedByOperator
  results : ∀ l₁ e u l₂, l = l₁ ++ .inr ⟨.appendLog e, u⟩ :: l₂ → ∀ e' ∈ appendsOf (merged l₂),
    e'.eventType ≠ .str "objective_result"

/-- The invocation is past what a stop could lose: when it saves a checkpoint, the stop has not
returned yet; when it records a result, the stop has not appended its event yet. -/
structure PastRace (l : List (Step ⊕ Step)) : Prop where
  saves : ∀ l₁ s u l₂, l = l₁ ++ .inl ⟨.saveCheckpoint s, .ok u⟩ :: l₂ → right l₂ ≠ []
  results : ∀ l₁ e u l₂, l = l₁ ++ .inl ⟨.appendLog e, u⟩ :: l₂ →
    e.eventType = .str "objective_result" → appendsOf (right l₁) = []

theorem mem_left {γ : Type} {l : List (γ ⊕ γ)} {x : γ} : x ∈ left l ↔ .inl x ∈ l := by
  simp [left, Sum.getLeft?_eq_some_iff]

theorem mem_right {γ : Type} {l : List (γ ⊕ γ)} {x : γ} : x ∈ right l ↔ .inr x ∈ l := by
  simp [right, Sum.getRight?_eq_some_iff]

/-- What the two calls write, as the iff needs it. -/
structure RaceWrites (l : List (Step ⊕ Step)) : Prop where
  run : ∀ s r, .inl ⟨.saveCheckpoint s, r⟩ ∈ l → s.operatorStopRequested = false
  stop : ∀ e u, .inr ⟨.appendLog e, u⟩ ∈ l → e.eventType = .str "operator_stop"

/-- **The stop is honoured exactly when the invocation is past the race.** -/
theorem RaceWrites.iff {l : List (Step ⊕ Step)} (h : RaceWrites l) :
    StopHonoured l ↔ PastRace l := by
  constructor
  · rintro ⟨hcheckpoints, hresults⟩
    refine ⟨?_, ?_⟩
    · rintro l₁ s u l₂ rfl hright
      have hmem : s.saved ∈ savesOf (left (.inl ⟨.saveCheckpoint s, .ok u⟩ :: l₂)) :=
        mem_savesOf_iff.mpr ⟨s, u, mem_left.mpr List.mem_cons_self, rfl⟩
      obtain ⟨hflag, -⟩ := hcheckpoints l₁ _ rfl hright _ hmem
      have hrun := h.run s (.ok u) (by simp)
      exact absurd (hrun.symm.trans hflag) (by decide)
    · rintro l₁ e u l₂ rfl htype
      rw [List.eq_nil_iff_forall_not_mem]
      intro e' he'
      obtain ⟨u', hstep⟩ := mem_appendsOf_iff.mp he'
      obtain ⟨l₃, l₄, rfl⟩ := List.append_of_mem (mem_right.mp hstep)
      refine hresults l₃ e' u' (l₄ ++ .inl ⟨.appendLog e, u⟩ :: l₂) (by simp) e ?_ htype
      exact mem_appendsOf_iff.mpr ⟨u, mem_merged.mpr (.inl (mem_left.mpr (by simp)))⟩
  · rintro ⟨hsaves, hresults⟩
    refine ⟨?_, ?_⟩
    · rintro l₁ l₂ rfl hright s hs
      obtain ⟨t, u, hstep, rfl⟩ := mem_savesOf_iff.mp hs
      obtain ⟨l₃, l₄, rfl⟩ := List.append_of_mem (mem_left.mp hstep)
      refine absurd ?_ (hsaves (l₁ ++ l₃) t u l₄ (by simp))
      rw [right_append] at hright
      exact (List.append_eq_nil_iff.mp hright).2
    · rintro l₁ e u l₂ rfl e' he' htype
      obtain ⟨u', hstep⟩ := mem_appendsOf_iff.mp he'
      rcases mem_merged.mp hstep with hstep | hstep
      · obtain ⟨l₃, l₄, rfl⟩ := List.append_of_mem (mem_left.mp hstep)
        have hnone := hresults (l₁ ++ .inr ⟨.appendLog e, u⟩ :: l₃) e' u' l₄ (by simp) htype
        have hmem : e ∈ appendsOf (right (l₁ ++ .inr ⟨.appendLog e, u⟩ :: l₃)) :=
          mem_appendsOf_iff.mpr ⟨u, mem_right.mpr (by simp)⟩
        rw [hnone] at hmem
        cases hmem
      · have hstop := h.stop e' u' (by simp [mem_right.mp hstep])
        rw [hstop] at htype
        exact absurd (Json.str.inj htype) (by decide)

/-! ### Every checkpoint of a history is honest -/

/-- The monitor of a call without effects. -/
def idleMonitor : Monitor Op Res Unit where
  allowed _
    | .saveCheckpoint _ => False
    | .appendLog _ => False
    | _ => True
  legal _
    | .loadCheckpoint, b => b = none
    | _, _ => True
  next _ _ _ := ()

/-- Without a checkpoint, nothing is done under a campaign that is not accepted. -/
theorem unaccepted_idle {e : Exc} (hp : parseCampaign campaign = .error e) (c : Call) :
    Post idleMonitor (c.perform site campaign) () (fun _ _ _ => True) () := by
  have hload : ∀ {α : Type} (k : CampaignState → Code Unit α),
      Post idleMonitor (loadState >>= k) () (fun _ _ _ => True) () := by
    intro α k
    rw [loadState, bind_assoc]
    refine post_call_bind trivial fun b hb => ?_
    obtain rfl : b = none := hb
    trivial
  cases c with
  | start args =>
    show Post idleMonitor (runCampaign site args campaign none) () _ ()
    rw [runCampaign, hp]
    refine post_attempt_bind (fun _ hok => ?_) fun _ _ => trivial
    cases hok
  | resume args => exact hload _
  | review data => exact hload _
  | stop => exact hload _

theorem History.honest {sur : Surroundings} {hist : List (Call × List Step)} {w : World}
    (h : History site campaign sur hist w) : ∀ s, w.checkpoint = some s → Honest s := by
  cases hp : parseCampaign campaign with
  | ok p =>
    obtain ⟨objectives, hshape⟩ := campaignShape_of_parse hp
    exact fun s hs => ((h.atRest hshape).persisted s hs).ledger.operatorStop
  | error e =>
    suffices hnone : w.checkpoint = none by simp [hnone]
    induction h with
    | nil => rfl
    | snoc _ ran ih =>
      have hstep : ∀ (m : Unit) (w : World) (o : Op) (r : Res o), w.checkpoint = none →
          idleMonitor.allowed m o → (Campaign.world site.rt).legal w o r → idleMonitor.legal m o r ∧
            ((Campaign.world site.rt).next w o r).checkpoint = none := by
        intro _ w o r hw ha hl
        cases o with
        | loadCheckpoint => exact ⟨hl.trans hw, hw⟩
        | saveCheckpoint s => exact ha.elim
        | appendLog e => exact ha.elim
        | _ => exact ⟨trivial, hw⟩
      exact (wp_simulates idleMonitor hstep (unaccepted_idle hp _) ih ran.reach ran.legal).2.2.2

/-- **When a stop is honoured.** From any history, over every interleaving of an invocation of the
loop, cut anywhere, with a stop that returns: the stop is honoured if and only if the invocation is
past what a stop could lose. -/
theorem stopHonoured_iff {sur : Surroundings} {hist : List (Call × List Step)} {w : World}
    (h : History site campaign sur hist w) {c : Call} {args : RunArgs} (hc : c.args? = some args)
    {l : List (Step ⊕ Step)} {q : Prog Op Res (Except Exc CampaignState × Unit)} {s : CampaignState}
    (hrun : Reach (Proc.start (c.perform site campaign) ()) (left l) q)
    (hstop : Reach (Proc.start (Call.stop.perform site campaign) ()) (right l)
      (.pure (.ok s, ())))
    (hlegal : (world site.rt).Legal w (merged l)) : StopHonoured l ↔ PastRace l := by
  have hleft : ∀ (m n : Unit) (w : World) (o : Op) (r : Res o),
      (∀ s, w.checkpoint = some s → Honest s) → runFlag.allowed m o → (world site.rt).legal w o r →
      runFlag.legal m o r ∧ ∀ s, ((world site.rt).next w o r).checkpoint = some s → Honest s := by
    intro _ _ w o r hw ha hl
    cases o with
    | loadCheckpoint => exact ⟨fun s hs => hw s (hl.symm.trans hs), hw⟩
    | saveCheckpoint s =>
      cases r with
      | error e => exact ⟨trivial, hw⟩
      | ok u =>
        refine ⟨trivial, ?_⟩
        rintro _ ⟨⟩ hflag
        exact absurd (ha.symm.trans hflag) (by decide)
    | _ => exact ⟨trivial, hw⟩
  have hright : ∀ (m n : Unit) (w : World) (o : Op) (r : Res o),
      (∀ s, w.checkpoint = some s → Honest s) → stopFlag.allowed n o → (world site.rt).legal w o r →
      stopFlag.legal n o r ∧ ∀ s, ((world site.rt).next w o r).checkpoint = some s → Honest s := by
    intro _ _ w o r hw ha hl
    cases o with
    | saveCheckpoint s =>
      cases r with
      | error e => exact ⟨trivial, hw⟩
      | ok u =>
        refine ⟨trivial, ?_⟩
        rintro _ ⟨⟩ -
        exact ha.2
    | _ => exact ⟨trivial, hw⟩
  obtain ⟨⟨hruns, -⟩, ⟨hstops, -⟩, -⟩ := wp_interleaves hleft hright
    (@invocation_flag site campaign c args hc) stop_flag h.honest hrun hstop hlegal
  refine RaceWrites.iff ⟨fun s r hmem => ?_, fun e u hmem => ?_⟩
  · obtain ⟨l₁, l₂, hl⟩ := List.append_of_mem (mem_left.mpr hmem)
    rw [hl] at hruns
    exact Monitor.Allowed.of_append runFlag hruns
  · obtain ⟨l₁, l₂, hl⟩ := List.append_of_mem (mem_right.mpr hmem)
    rw [hl] at hstops
    exact Monitor.Allowed.of_append stopFlag hstops

/-! ### A stop that is lost -/

/-- A stop between the two saves of a first invocation. -/
theorem Startable.race {f : Frozen} {args : RunArgs} {p : CampaignDefinition} {s : CampaignState}
    (h : Startable site f args campaign p s) :
    ∃ (tr₁ tr₂ trStop : List Step) (q : _) (s₂ sStop : CampaignState),
    let l : List (Step ⊕ Step) := tr₁.map .inl ++ trStop.map .inr ++ tr₂.map .inl
    Reach (Proc.start ((Call.start args).perform site campaign) ()) (left l) q ∧
      Reach (Proc.start (Call.stop.perform site campaign) ()) (right l) (.pure (.ok sStop, ())) ∧
      (world site.rt).Legal World.empty (merged l) ∧ effectsOf tr₂ = [.save s₂] ∧
      s₂.currentStatus = .running ∧ s₂.operatorStopRequested = false := by
  obtain ⟨objectives, hshape⟩ := campaignShape_of_parse h.parsed
  obtain ⟨e, s₁, s₂, tr₁, tr₂, -, htr, h₁, h₂, hlegal₂, hrunning, hrunning₂, hflag₂⟩ := h.trace
  obtain ⟨hran, -⟩ :=
    @Frozen.ran site campaign f _ f.within_open h.timestamp (.start args) World.empty
  rw [htr] at hran
  -- The first save is what the stop loads.
  obtain ⟨q', hcut⟩ := hran.cut
  obtain ⟨-, -, -, htracks⟩ := hcut.conforms hshape .empty
  have hcheckpoint : ((world site.rt).run World.empty tr₁).checkpoint = some s₁ := by
    rw [world_run, h₁]
    rfl
  have hpersisted : Persisted site (objectives.map rawId) s₁ :=
    htracks.persisted s₁ (htracks.checkpoint.symm.trans hcheckpoint)
  obtain ⟨_, sStop, _, _, hok, -⟩ := @stop_trace site campaign f _ hshape.goodIds s₁ hpersisted
    hrunning h.timestamp _ hcheckpoint
  obtain ⟨hstop, -⟩ := @Frozen.ran site campaign f _ f.within_open h.timestamp .stop
    ((world site.rt).run World.empty tr₁)
  refine ⟨tr₁, tr₂, (f.call site campaign .stop ((world site.rt).run World.empty tr₁)).1,
    .pure (f.call site campaign (.start args) World.empty).2.1, s₂, sStop, ?_, ?_, ?_, h₂, hrunning₂,
    hflag₂⟩
  · simpa [left_append] using hran.reach
  · have hresult : (f.call site campaign .stop ((world site.rt).run World.empty tr₁)).2.1 =
      (.ok sStop, ()) := Prod.ext hok rfl
    have hreach := hstop.reach
    rw [hresult] at hreach
    simpa [right_append] using hreach
  · have hfirst := ((Monitor.legal_append _).mp hran.legal).1
    simp only [merged_append, merged_inl, merged_inr, List.append_assoc]
    exact (Monitor.legal_append _).mpr ⟨hfirst, (Monitor.legal_append _).mpr
      ⟨hstop.legal, hlegal₂ _⟩⟩

/-- **A stop can be lost**: a first invocation saves, the stop returns, and the invocation saves
again what it has in memory. -/
theorem stop_lost : ∃ (l : List (Step ⊕ Step)) (q : _) (s : CampaignState),
    Reach (Proc.start ((Call.start idleArgs).perform idleSite (sampleCampaign [sampleObjective])) ())
      (left l) q ∧
    Reach (Proc.start (Call.stop.perform idleSite (sampleCampaign [sampleObjective])) ()) (right l)
      (.pure (.ok s, ())) ∧
    (world idleSite.rt).Legal World.empty (merged l) ∧ ¬ StopHonoured l := by
  obtain ⟨p, s, h⟩ := idle_startable
  obtain ⟨tr₁, tr₂, trStop, q, s₂, sStop, hrun, hstop, hlegal, heffects, -, hflag⟩ := h.race
  refine ⟨_, q, sStop, hrun, hstop, hlegal, fun hhonoured => ?_⟩
  have hmem : s₂ ∈ savesOf (left (tr₂.map (Sum.inl : Step → Step ⊕ Step))) := by
    simp [savesOf, heffects]
  obtain ⟨hflag₂, -⟩ := hhonoured.checkpoints _ _ rfl (right_inl tr₂) s₂ hmem
  exact absurd (hflag.symm.trans hflag₂) (by decide)

/-- The same race, by the condition. -/
theorem stopHonoured_iff_idle : ∃ l : List (Step ⊕ Step),
    (world idleSite.rt).Legal World.empty (merged l) ∧ (StopHonoured l ↔ PastRace l) := by
  obtain ⟨p, s, h⟩ := idle_startable
  obtain ⟨tr₁, tr₂, trStop, q, s₂, sStop, hrun, hstop, hlegal, -⟩ := h.race
  exact ⟨_, hlegal, @stopHonoured_iff idleSite (sampleCampaign [sampleObjective]) openSurroundings _ _
    .nil _ idleArgs rfl _ q sStop hrun hstop hlegal⟩

end Aotp.Campaign
