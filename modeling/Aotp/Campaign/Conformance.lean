import Aotp.Campaign.Progress

/-!
# Every call conforms to the machine

* `beginInvocation_post`, `finishInvocation_post` — the code around the loop.
* `runCampaign_post`, `applyReviewDecision_post`, `requestOperatorStop_post` — the three operations.
* `perform_post` — **every call commits enabled moves only, and leaves no event behind its
  checkpoint**, whether it returns or raises; an invocation that returns is an `Invocation` of the
  machine.
-/

namespace Aotp.Campaign

open PyData Aotp.Gate Effects HashChain

variable (site : Site) (campaign : Dict) (sur : Surroundings) (c : Call)

/-! ### The invocation -/

section invocation

variable {site campaign sur c} {ids : List String} {s : CampaignState} {g : Progress}
  {args : RunArgs}

/-- A call has ended at rest, or has raised with nothing written behind the checkpoint. -/
def CallPost (site : Site) (ids : List String) (P : CampaignState → Prop) (r : Except Exc Unit)
    (s' : CampaignState) (g' : Progress) : Prop :=
  match r with
  | .ok _ => Rest site ids g' s' ∧ P s'
  | .error _ => g'.pending = []

theorem CallPost.mono {site : Site} {ids : List String} {P P' : CampaignState → Prop}
    (hP : ∀ s', P s' → P' s') {r : Except Exc Unit} {s' : CampaignState} {g' : Progress}
    (h : CallPost site ids P r s' g') : CallPost site ids P' r s' g' := by
  cases r with
  | error e => exact h
  | ok _ => exact ⟨h.1, hP s' h.2⟩

/-- An end that completes nothing changes the times only. -/
theorem Moved.finish_idle (h : ¬ (s.currentStatus = .running ∧ s.pendingModules = []))
    {now : String} {e : ℚ} {revision : ℤ} (hnow : timestampValid site.rt now = true)
    (he : sur.Elapses s.elapsedSeconds e) (hrevision : s.stateRevision ≤ revision) :
    Moved site sur .finish s { s with
      lastUpdatedTime := now, elapsedSeconds := e, stateRevision := revision } := by
  refine ⟨[], now, e, revision, ?_, hnow, he, hrevision, ?_⟩
  · simp [Move.events, h]
  · simp [Move.after, h, CampaignState.logged]

theorem finishInvocation_post (hids : GoodIds ids) (hc : c.args? = some args) {timing : Timing}
    (htimed : Timed sur timing g s.elapsedSeconds)
    (h : Rest site ids g s ∨ s.currentStatus ≠ .running ∧ ∃ m b,
      InFlight site campaign sur c ids g m b s ∧ b.elapsedSeconds = s.elapsedSeconds) :
    Post (commits site campaign sur c) (finishInvocation site timing) s
      (CallPost site ids fun s' => Moved site sur .finish s s') g := by
  rw [finishInvocation]
  refine elapsed_post htimed fun t v hv _ => ?_
  rw [post_modify_bind, post_get_bind]
  by_cases hdone : s.currentStatus = .running ∧ s.pendingModules = []
  · -- Nothing is left: the campaign is complete.
    have hrest : Rest site ids g s := h.resolve_right fun h => h.1 hdone.1
    have hm : Move.finish.Enabled site campaign sur c s :=
      ⟨⟨args, hc⟩, hrest.persisted.notPlanned⟩
    obtain ⟨path, hpath⟩ := hrest.path
    rw [if_pos hdone, post_modify_bind, post_bind]
    refine append_post hpath fun eid enow => ?_
    have hafter : Move.finish.after s =
        { s with currentStatus := .completed, currentObjectiveId := none } := if_pos hdone
    have hevents : Move.finish.events s =
        [{ eventType := "campaign_completed", outcome := "completed"
           details := [("iterations", .int (s.nextIteration - 1))] }] := if_pos hdone
    have hflight := ((InFlight.of_one hrest hm hevents eid enow).tick t).retime
      hrest.persisted.updated hv
    rw [hafter] at hflight
    exact hflight.touchAndSave_post hids fun now _ hrest' hmoved => ⟨hrest', hmoved⟩
  · rw [if_neg hdone]
    rcases h with hrest | ⟨hstatus, m, b, hflight, helapsed⟩
    · have hm : Move.finish.Enabled site campaign sur c s :=
        ⟨⟨args, hc⟩, hrest.persisted.notPlanned⟩
      have hflight := InFlight.of_none hrest hm (if_neg hdone)
      rw [show Move.finish.after s = s from if_neg hdone] at hflight
      exact ((hflight.tick t).retime hrest.persisted.updated hv).touchAndSave_post hids
        fun now _ hrest' hmoved => ⟨hrest', hmoved⟩
    · refine ((hflight.tick t).retime hflight.moved.updated (helapsed ▸ hv)).touchAndSave_post hids
        fun now hnow hrest' _ => ⟨hrest', ?_⟩
      exact .finish_idle hdone hnow hv (by show s.stateRevision ≤ s.stateRevision + 1; omega)

/-- A verification reads the log and changes nothing. -/
theorem verifyStateEventLog_post {S α : Type} {t : S} {f : List String → Code S α}
    {Q : Except Exc α → S → Progress → Prop}
    (hok : ∀ failures path, resolveEventLog site s = .ok path →
      Post (commits site campaign sur c) (f failures) t Q g)
    (herror : ∀ e, Q (.error e) t g) :
    Post (commits site campaign sur c) (verifyStateEventLog site s >>= f) t Q g := by
  rw [verifyStateEventLog, bind_assoc]
  refine post_attempt_bind (fun path hpath => ?_) fun e _ => herror e
  rw [bind_assoc]
  refine post_call_bind trivial fun file _ => ?_
  rw [bind_assoc]
  refine post_attempt_bind (fun failures _ => ?_) fun e _ => herror e
  split_ifs
  · rw [bind_assoc]
    refine post_call_bind trivial fun again _ => ?_
    exact post_attempt_bind (fun failures _ => hok failures path hpath) fun e _ => herror e
  · exact hok failures path hpath

/-- The log is begun or verified. -/
theorem beginLog_post {Q : Except Exc Unit → CampaignState → Progress → Prop}
    (hok : ∀ path entries g', resolveEventLog site s = .ok path →
      entries.map Entry.args = startedEvents s →
      (s.logged site.rt entries).events = s.events ++ g'.pending → g'.base = g.base →
      g'.clock = g.clock → Q (.ok ()) (s.logged site.rt entries) g')
    (herror : ∀ e, Q (.error e) s g) (hpending : g.pending = []) :
    Post (commits site campaign sur c) (beginLog site s) s Q g := by
  rw [beginLog]
  by_cases hevents : s.events.isEmpty = true
  · rw [if_pos hevents]
    refine append_post_or (fun id now path hpath => ?_) herror
    refine hok path [⟨id, now, _⟩] _ hpath (if_pos hevents).symm ?_ rfl rfl
    show s.events ++ [_] = s.events ++ (g.pending ++ [_])
    rw [hpending, List.nil_append]
  · rw [if_neg hevents]
    refine verifyStateEventLog_post (fun failures path hpath => ?_) herror
    rw [requireVerified, post_attempt]
    cases guardE failures.isEmpty _ with
    | error e => exact herror e
    | ok _ =>
      refine hok path [] g hpath (if_neg hevents).symm ?_ rfl rfl
      rw [hpending, List.append_nil]
      rfl

/-- A resume is recorded after the log has been begun or verified. -/
theorem recordResume_post {entries : List Entry} {path : String}
    (hpath : resolveEventLog site s = .ok path)
    {Q : Except Exc Unit → CampaignState → Progress → Prop}
    (hevents : (s.logged site.rt entries).events = s.events ++ g.pending)
    (hok : ∀ more g', more.map Entry.args = resumedEvents s →
      (s.logged site.rt (entries ++ more)).events = s.events ++ g'.pending →
      g'.base = g.base → g'.clock = g.clock →
      Q (.ok ()) (s.logged site.rt (entries ++ more)) g') :
    Post (commits site campaign sur c) (recordResume site s) (s.logged site.rt entries) Q g := by
  rw [recordResume]
  by_cases hready : s.currentStatus = .readyToResume
  · rw [if_pos hready]
    have hpath' : resolveEventLog site (s.logged site.rt entries) = .ok path := by
      obtain ⟨es, hash, heq, -⟩ := logged_spec site.rt s entries
      rw [heq]
      exact hpath
    refine append_post hpath' fun id now => ?_
    let x : Entry := ⟨id, now, { eventType := "campaign_resumed", outcome := "running" }⟩
    have hlogged := logged_append site.rt s entries [x]
    have hevents' : (s.logged site.rt (entries ++ [x])).events = s.events ++
        (g.push (nextEvent site.rt (s.logged site.rt entries) id now x.args)).pending := by
      rw [hlogged]
      show (s.logged site.rt entries).events ++ [_] = s.events ++ (g.pending ++ [_])
      rw [hevents, List.append_assoc]
    have hok := hok [x] _ (if_pos hready).symm hevents' rfl rfl
    rwa [hlogged] at hok
  · rw [if_neg hready, post_pure]
    have hok := hok [] g (if_neg hready).symm (by rwa [List.append_nil]) rfl rfl
    rwa [List.append_nil] at hok

/-- **The beginning of an invocation.** -/
theorem beginInvocation_post (hids : GoodIds ids) (hc : c.args? = some args)
    (horigin : g.Origin site campaign s) (hs : Coherent site ids s) (hpending : g.pending = [])
    (hstatus : s.currentStatus = .running ∨ s.currentStatus = .readyToResume ∨
      s.currentStatus = .planned) {Q : Except Exc Unit → CampaignState → Progress → Prop}
    (hok : ∀ s' g', Rest site ids g' s' → Moved site sur .begin s s' →
      s'.currentStatus = .running → Q (.ok ()) s' g')
    (herror : ∀ e, Q (.error e) s g) :
    Post (commits site campaign sur c) (beginInvocation site) s Q g := by
  rw [beginInvocation, post_get_bind, post_bind]
  refine beginLog_post (fun path entries g₁ hpath hargs hevents hbase _ => ?_) herror hpending
  dsimp only
  rw [post_bind]
  refine recordResume_post hpath hevents fun more g₂ hmore hevents₂ hbase₂ _ => ?_
  dsimp only
  rw [post_modify_bind]
  have hm : Move.begin.Enabled site campaign sur c s := ⟨⟨args, hc⟩, hstatus, path, hpath⟩
  have hall : (entries ++ more).map Entry.args = Move.begin.events s := by
    rw [List.map_append, hargs, hmore]
    rfl
  have hmoved : Moved site sur .begin s ((Move.begin.after s).logged site.rt (entries ++ more)) :=
    .of_logged hs.updated hall
  rw [show (Move.begin.after s).logged site.rt (entries ++ more) = _ from
    logged_status site.rt s .running (entries ++ more)] at hmoved
  have hflight : InFlight site campaign sur c ids g₂ .begin s _ :=
    ⟨?_, hs, hm, hmoved, hevents₂⟩
  · exact hflight.touchAndSave_post hids fun now _ hrest hmoved => hok _ _ hrest hmoved rfl
  · rw [Progress.Origin, hbase₂, hbase]
    exact horigin

/-- From the first save of an invocation to its last. -/
theorem continueCampaign_post (hids : GoodIds ids) (hc : c.args? = some args)
    {parsed : CampaignDefinition} (hparsed : parseCampaign campaign = .ok parsed)
    (hrest : Rest site ids g s) (hrunning : s.currentStatus = .running) :
    Post (commits site campaign sur c) (continueCampaign site args campaign parsed) s
      (CallPost site ids fun s' => ∃ s₀, Loops site campaign sur c args 0 s s₀ ∧
        Moved site sur .finish s₀ s') g := by
  rw [continueCampaign, post_get_bind]
  refine post_attempt_bind (fun budget hbudget => ?_) fun _ _ => hrest.pending
  refine post_call_bind trivial fun started _ => ?_
  refine post_attempt_bind (fun base hbase => ?_) fun _ _ => hrest.pending
  refine post_attempt_bind (fun objectives hraw => ?_) fun _ _ => hrest.pending
  refine post_attempt_bind (fun ordered hschedule => ?_) fun _ _ => hrest.pending
  have htimed : Timed sur ⟨started, s.elapsedSeconds⟩ (g.tick started) s.elapsedSeconds :=
    ⟨started, rfl, by simp, fun _ => by simp⟩
  rw [post_bind]
  refine post_mono (fun r s₀ g₀ h => ?_) (runLoop_post hids hc hbase hraw hschedule
    (hrest.tick started) hrunning htimed ⟨parsed, hparsed, hbudget⟩ fun _ _ => rfl)
  cases r with
  | error e => exact h
  | ok _ =>
    obtain ⟨hloops, htimed₀, hend⟩ := h
    refine post_mono (fun r s' g' h => ?_) (finishInvocation_post hids hc htimed₀ hend)
    cases r with
    | error e => exact h
    | ok _ => exact ⟨h.1, s₀, hloops, h.2⟩

end invocation

/-! ### The operations -/

section operations

variable {site campaign sur c} {ids : List String} {s : CampaignState} {g : Progress}

/-- An operation that returns a state has come to rest with it. -/
def ReturnPost (site : Site) (ids : List String) (P : CampaignState → Prop)
    (r : Except Exc CampaignState) (g' : Progress) : Prop :=
  match r with
  | .ok s' => Rest site ids g' s' ∧ P s'
  | .error _ => g'.pending = []

/-- The state of a new campaign. -/
theorem initializeState_post {α : Type} {scope : Dict} {f : CampaignState → Code Unit α}
    {Q : Except Exc α → Unit → Progress → Prop}
    (hok : ∀ s, Initial site campaign s → Post (commits site campaign sur c) (f s) () Q g)
    (herror : ∀ e, Q (.error e) () g) :
    Post (commits site campaign sur c) (initializeState site scope campaign >>= f) () Q g := by
  rw [initializeState, bind_assoc]
  refine post_attempt_bind (fun parsed hparsed => ?_) fun e _ => herror e
  rw [bind_assoc]
  refine utcNow_post fun now hnow => ?_
  rw [bind_assoc]
  refine post_attempt_bind (fun objectives hraw => ?_) fun e _ => herror e
  rw [bind_assoc]
  refine post_attempt_bind (fun ordered hschedule => ?_) fun e _ => herror e
  rw [bind_assoc]
  refine post_call_bind trivial fun scopeText _ => ?_
  rw [bind_assoc]
  refine post_attempt_bind (fun text _ => ?_) fun e _ => herror e
  rw [bind_assoc]
  refine post_attempt_bind (fun objectiveIds hids => ?_) fun e _ => herror e
  exact post_attempt_bind (fun s hs => hok s ⟨scope, parsed, objectives, ordered, objectiveIds, now,
    text, hparsed, hraw, hschedule, hids, hnow, hs⟩) fun e _ => herror e

/-- The checks of a resume let executable states through only. -/
theorem validateResumeInputs_post {α : Type} {f : Unit → Code Unit α}
    {Q : Except Exc α → Unit → Progress → Prop}
    (hok : s.currentStatus = .running ∨ s.currentStatus = .readyToResume ∨
      s.currentStatus = .planned → Post (commits site campaign sur c) (f ()) () Q g)
    (herror : ∀ e, Q (.error e) () g) :
    Post (commits site campaign sur c) (validateResumeInputs site s campaign >>= f) () Q g := by
  rw [validateResumeInputs, bind_assoc]
  refine post_call_bind trivial fun scopeText _ => ?_
  rw [bind_assoc]
  refine post_attempt_bind (fun text _ => ?_) fun e _ => herror e
  rw [bind_assoc]
  refine post_attempt_bind (fun _ _ => ?_) fun e _ => herror e
  rw [bind_assoc]
  refine post_attempt_bind (fun _ _ => ?_) fun e _ => herror e
  rw [bind_assoc]
  refine post_attempt_bind (fun objectives _ => ?_) fun e _ => herror e
  rw [bind_assoc]
  refine post_attempt_bind (fun ids _ => ?_) fun e _ => herror e
  rw [bind_assoc]
  refine post_attempt_bind (fun _ _ => ?_) fun e _ => herror e
  refine post_attempt_bind (fun _ hstatus => hok ?_) fun e _ => herror e
  simpa [guardE_eq_ok, or_assoc] using hstatus

/-- The files are looked for, for a new campaign. -/
theorem requireNoFiles_post {α : Type} {f : Unit → Code Unit α}
    {Q : Except Exc α → Unit → Progress → Prop}
    (hok : g.base = none → Post (commits site campaign sur c) (f ()) () Q g)
    (herror : ∀ e, Q (.error e) () g) :
    Post (commits site campaign sur c) (requireNoFiles site s >>= f) () Q g := by
  rw [requireNoFiles, bind_assoc]
  refine post_call_bind trivial fun checkpoint hcheckpoint => ?_
  rw [bind_assoc]
  refine post_attempt_bind (fun _ hnone => ?_) fun e _ => herror e
  rw [bind_assoc]
  refine post_attempt_bind (fun _ _ => ?_) fun e _ => herror e
  rw [bind_assoc]
  refine post_call_bind trivial fun log _ => ?_
  refine post_attempt_bind (fun _ _ => hok ?_) fun e _ => herror e
  obtain rfl : checkpoint = g.base.isSome := hcheckpoint
  simpa [guardE_eq_ok] using hnone

/-- From the first event to the last save. -/
theorem invocation_post (hids : GoodIds ids) {args : RunArgs} (hc : c.args? = some args)
    {parsed : CampaignDefinition} (hparsed : parseCampaign campaign = .ok parsed)
    (horigin : g.Origin site campaign s) (hs : Coherent site ids s) (hpending : g.pending = [])
    (hstatus : s.currentStatus = .running ∨ s.currentStatus = .readyToResume ∨
      s.currentStatus = .planned) :
    Post (commits site campaign sur c) (do
      beginInvocation site
      continueCampaign site args campaign parsed) s
      (CallPost site ids (Invocation site campaign sur c args s)) g := by
  rw [post_bind]
  refine beginInvocation_post hids hc horigin hs hpending hstatus
    (fun s₀ g₀ hrest hmoved hrunning => ?_) fun _ => hpending
  refine post_mono (fun r s' g' h => ?_) (continueCampaign_post hids hc hparsed hrest hrunning)
  cases r with
  | error e => exact h
  | ok _ =>
    obtain ⟨hrest', s₁, hloops, hfinish⟩ := h
    exact ⟨hrest', s₀, s₁, hmoved, hloops, hfinish⟩

/-- **One invocation of a campaign.** -/
theorem runCampaign_post (hids : GoodIds ids) {args : RunArgs} (hc : c.args? = some args)
    {state : Option CampaignState} (hpending : g.pending = [])
    (hsome : ∀ s, state = some s → g.base = some s ∧ Coherent site ids s)
    (hinitial : ∀ s, Initial site campaign s → Coherent site ids s) :
    Post (commits site campaign sur c) (runCampaign site args campaign state) ()
      (fun r _ g' => ReturnPost site ids (fun s' => ∃ b, g.Origin site campaign b ∧
        Invocation site campaign sur c args b s') r g') g := by
  rw [runCampaign]
  refine post_attempt_bind (fun parsed hparsed => ?_) fun _ _ => hpending
  cases state with
  | some s =>
    obtain ⟨hbase, hcoherent⟩ := hsome s rfl
    rw [post_pure_bind]
    refine validateResumeInputs_post (fun hstatus => ?_) fun _ => hpending
    refine post_within (post_mono (fun r s' g' h => ?_)
      (invocation_post hids hc hparsed (.inl hbase) hcoherent hpending hstatus))
    cases r with
    | error e => exact h
    | ok _ => exact ⟨h.1, s, .inl hbase, h.2⟩
  | none =>
    refine initializeState_post (fun s hs => ?_) fun _ => hpending
    refine validateResumeInputs_post (fun hstatus => ?_) fun _ => hpending
    refine requireNoFiles_post (fun hbase => ?_) fun _ => hpending
    refine post_within (post_mono (fun r s' g' h => ?_)
      (invocation_post hids hc hparsed (.inr ⟨hbase, hs⟩) (hinitial s hs) hpending hstatus))
    cases r with
    | error e => exact h
    | ok _ => exact ⟨h.1, s, .inr ⟨hbase, hs⟩, h.2⟩

/-- The checks of a decision let it through for the current objective only. -/
theorem checkReview_post {α : Type} {review : ReviewDecision} {f : Unit → Code CampaignState α}
    {Q : Except Exc α → CampaignState → Progress → Prop} (hc : c.args? = none)
    (hok : s.currentObjectiveId = some review.objectiveId →
      Post (commits site campaign sur c) (f ()) s Q g)
    (herror : ∀ e, Q (.error e) s g) :
    Post (commits site campaign sur c) (checkReview site review >>= f) s Q g := by
  rw [checkReview, bind_assoc, post_get_bind, bind_assoc]
  refine post_call_bind (fun args hargs => nomatch hc.symm.trans hargs) fun now _ => ?_
  rw [bind_assoc]
  refine post_attempt_bind (fun decidedAt _ => ?_) fun e _ => herror e
  rw [bind_assoc]
  refine post_attempt_bind (fun _ _ => ?_) fun e _ => herror e
  rw [bind_assoc]
  refine post_call_bind trivial fun digest _ => ?_
  rw [bind_assoc]
  refine post_attempt_bind (fun digest _ => ?_) fun e _ => herror e
  rw [bind_assoc]
  refine post_attempt_bind (fun _ _ => ?_) fun e _ => herror e
  rw [bind_assoc]
  refine post_attempt_bind (fun _ _ => ?_) fun e _ => herror e
  rw [bind_assoc]
  refine post_attempt_bind (fun _ hcurrent => ?_) fun e _ => herror e
  refine post_attempt_bind (fun _ _ => hok ?_) fun e _ => herror e
  rw [guardE_eq_ok, beq_iff_eq] at hcurrent
  exact hcurrent.symm

/-- The state of a review when its decision has been recorded. -/
def CampaignState.decided (rt : Runtime) (s : CampaignState) (r : ReviewDecision) (eid now : String)
    (a : EventArgs) : CampaignState :=
  let t := { s with
    pendingReview := none
    stopConditionHistory := s.stopConditionHistory ++
      [r.objectiveId ++ ": review " ++ r.decision ++ " (" ++ r.decisionId ++ ")"] }
  t.withEvent rt (nextEvent rt t eid now a)

/-- **Where a reviewed objective goes**, whoever watches. -/
theorem settleReview_post {σ : Type} {M : Monitor Op Res σ} {m : σ} {rt : Runtime}
    {r : ReviewDecision} (hsettles : Settleable s r) {α : Type} {f : Unit → Code CampaignState α}
    {eid now : String} {a : EventArgs} {Q : Except Exc α → CampaignState → σ → Prop}
    (h : Post M (f ()) ((s.reviewed r).withEvent rt (nextEvent rt s eid now a)) Q m) :
    Post M (settleReview r s.reviewPhase >>= f) (s.decided rt r eid now a) Q m := by
  have hpending (hid : r.objectiveId ∈ s.pendingModules) :
      removeFrom (s.decided rt r eid now a).pendingModules r.objectiveId =
        .ok (s.pendingModules.erase r.objectiveId) := removeFrom_of_mem hid
  rw [settleReview]
  rcases reviewed_cases hsettles with
    ⟨hd, hp, h'⟩ | ⟨hd, hp, hid, h'⟩ | ⟨hd, hid, h'⟩ | ⟨ha, hd, hid, h'⟩ <;> rw [h'] at h
  · rw [if_pos hd, approveObjective, approvePhase, hp, bind_assoc, bind_assoc, post_get_bind,
      if_pos (by simp), post_modify_bind, post_modify_bind]
    exact h
  · rw [if_pos hd, approveObjective, approvePhase, hp, bind_assoc, bind_assoc, post_get_bind,
      if_neg (by simp), if_pos (by simp), bind_assoc]
    refine post_attempt_ok (hpending hid) ?_
    rw [post_modify_bind, post_modify_bind]
    exact h
  · rw [if_neg (by simp [hd]), if_pos hd, stopObjective, bind_assoc, post_get_bind, bind_assoc]
    refine post_attempt_ok (hpending hid) ?_
    rw [post_modify_bind]
    exact h
  · rw [if_neg ha, if_neg hd, bind_assoc, post_modify_bind, stopObjective, bind_assoc,
      post_get_bind, bind_assoc]
    have hpending' : removeFrom { s.decided rt r eid now a with
        operatorStopRequested := true }.pendingModules r.objectiveId =
        .ok (s.pendingModules.erase r.objectiveId) := hpending hid
    refine post_attempt_ok hpending' ?_
    rw [post_modify_bind]
    exact h

/-- **One review decision.** -/
theorem applyReviewDecision_post (hids : GoodIds ids) {data : Dict} (hc : c = .review data)
    (hrest : Rest site ids g s) :
    Post (commits site campaign sur c) (applyReviewDecision site data) s
      (CallPost site ids fun s' => ∃ r, Moved site sur (.review r) s s') g := by
  rw [applyReviewDecision, post_get_bind]
  refine post_attempt_bind (fun _ hpaused => ?_) fun _ _ => hrest.pending
  refine verifyStateEventLog_post (fun failures path hpath => ?_) fun _ => hrest.pending
  rw [requireVerified]
  refine post_attempt_bind (fun _ _ => ?_) fun _ _ => hrest.pending
  refine post_attempt_bind (fun review hreview => ?_) fun _ _ => hrest.pending
  refine checkReview_post (hc ▸ rfl) (fun hcurrent => ?_) fun _ => hrest.pending
  simp only [guardE_eq_ok, Bool.and_eq_true, beq_iff_eq] at hpaused
  have hm : (Move.review review).Enabled site campaign sur c s :=
    ⟨⟨data, hc, hreview⟩, hpaused.1, hpaused.2, hcurrent⟩
  dsimp only
  rw [post_modify_bind, post_bind]
  refine append_post hpath fun eid now => ?_
  dsimp only
  refine settleReview_post (hrest.persisted.ledger.settleable hpaused.1 hcurrent) ?_
  have hflight := InFlight.of_one hrest hm rfl eid now
  obtain ⟨hevents, hlast, -⟩ := (Move.review review).after_log s
  rw [nextEvent_congr hevents hlast] at hflight
  exact hflight.touchAndSave_post hids fun _ _ hrest' hmoved => ⟨hrest', review, hmoved⟩

theorem requestOperatorStop_post (hids : GoodIds ids) (hc : c = .stop) (hrest : Rest site ids g s) :
    Post (commits site campaign sur c) (requestOperatorStop site) s
      (CallPost site ids fun _ => True) g := by
  obtain ⟨path, hpath⟩ := hrest.path
  rw [requestOperatorStop, post_get_bind]
  refine post_attempt_bind (fun _ hstatus => ?_) fun _ _ => hrest.pending
  simp only [guardE_eq_ok, Bool.and_eq_true, bne_iff_ne] at hstatus
  have hm : Move.stop.Enabled site campaign sur c s :=
    ⟨hc, hstatus.1, hstatus.2, hrest.persisted.notPlanned⟩
  rw [post_modify_bind, post_get_bind, post_bind]
  refine append_post hpath fun eid now => ?_
  exact (InFlight.of_one hrest hm rfl eid now).touchAndSave_post hids
    fun _ _ hrest' _ => ⟨hrest', trivial⟩

theorem loadState_post {S α : Type} {t : S} {f : CampaignState → Code S α}
    {Q : Except Exc α → S → Progress → Prop}
    (hok : ∀ s, g.base = some s → Post (commits site campaign sur c) (f s) t Q g)
    (herror : ∀ e, Q (.error e) t g) :
    Post (commits site campaign sur c) (loadState >>= f) t Q g := by
  rw [loadState, bind_assoc]
  refine post_call_bind trivial fun r hr => ?_
  cases r with
  | some s =>
    dsimp only
    rw [post_pure_bind]
    exact hok s hr.symm
  | none =>
    dsimp only
    rw [post_throw_bind]
    exact herror _

theorem onLoaded_post {d : Code CampaignState Unit} {P : CampaignState → Prop}
    (hpending : g.pending = [])
    (h : ∀ s, g.base = some s →
      Post (commits site campaign sur c) d s (CallPost site ids P) g) :
    Post (commits site campaign sur c) (onLoaded d) ()
      (fun r _ g' => ReturnPost site ids P r g') g := by
  refine loadState_post (fun s hs => post_within (post_mono (fun r s' g' h => ?_) (h s hs)))
    fun _ => hpending
  cases r with
  | error e => exact h
  | ok _ => exact h

/-- **Every call conforms to the machine**: from a persisted checkpoint, or none, it commits enabled
moves only, and ends with no event behind its checkpoint. -/
theorem perform_post {p : CampaignDefinition} {objectives : List Dict}
    (hshape : CampaignShape campaign p objectives) (hpending : g.pending = [])
    (hbase : ∀ b, g.base = some b → Persisted site (objectives.map rawId) b) :
    Post (commits site campaign sur c) (c.perform site campaign) () (fun r _ g' =>
      ReturnPost site (objectives.map rawId) (fun s' => ∀ args, c.args? = some args →
        ∃ b, g.Origin site campaign b ∧ Invocation site campaign sur c args b s') r g') g := by
  have hids := hshape.goodIds
  have hinitial : ∀ s, Initial site campaign s → Coherent site (objectives.map rawId) s :=
    fun s hs => hs.coherent hshape
  have hrest : ∀ s, g.base = some s → Rest site (objectives.map rawId) g s :=
    fun s hs => ⟨hs, hpending, hbase s hs⟩
  -- An invocation is one with the arguments of the call.
  have hargs : ∀ {args : RunArgs} {r : Except Exc CampaignState} {g' : Progress},
      c.args? = some args → ReturnPost site (objectives.map rawId) (fun s' => ∃ b,
        g.Origin site campaign b ∧ Invocation site campaign sur c args b s') r g' →
      ReturnPost site (objectives.map rawId) (fun s' => ∀ args, c.args? = some args →
        ∃ b, g.Origin site campaign b ∧ Invocation site campaign sur c args b s') r g' := by
    intro args r g' hc h
    cases r with
    | error e => exact h
    | ok s' =>
      refine ⟨h.1, fun args' hc' => ?_⟩
      obtain rfl := Option.some.inj (hc.symm.trans hc')
      exact h.2
  have hnone : ∀ {r : Except Exc CampaignState} {g' : Progress}, c.args? = none →
      ReturnPost site (objectives.map rawId) (fun _ => True) r g' →
      ReturnPost site (objectives.map rawId) (fun s' => ∀ args, c.args? = some args →
        ∃ b, g.Origin site campaign b ∧ Invocation site campaign sur c args b s') r g' := by
    intro r g' hc h
    cases r with
    | error e => exact h
    | ok s' => exact ⟨h.1, fun args hc' => nomatch hc.symm.trans hc'⟩
  cases c with
  | start args =>
    have hstart : ∀ s, none = some s → g.base = some s ∧ Coherent site (objectives.map rawId) s := by
      rintro s ⟨⟩
    exact post_mono (fun r _ g' h => hargs rfl h)
      (runCampaign_post hids rfl hpending hstart hinitial)
  | resume args =>
    refine loadState_post (fun s hs => ?_) fun _ => hpending
    have hresume : ∀ s', some s = some s' →
        g.base = some s' ∧ Coherent site (objectives.map rawId) s' := by
      rintro s' ⟨⟩
      exact ⟨hs, (hbase s hs).toCoherent⟩
    exact post_mono (fun r _ g' h => hargs rfl h)
      (runCampaign_post hids rfl hpending hresume hinitial)
  | review data =>
    exact post_mono (fun r _ g' h => hnone rfl h)
      (onLoaded_post hpending fun s hs => post_mono (fun _ _ _ h => h.mono fun _ _ => trivial)
        (applyReviewDecision_post hids rfl (hrest s hs)))
  | stop =>
    exact post_mono (fun r _ g' h => hnone rfl h)
      (onLoaded_post hpending fun s hs => requestOperatorStop_post hids rfl (hrest s hs))

end operations

end Aotp.Campaign
