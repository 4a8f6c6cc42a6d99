import Aotp.Campaign.History

/-!
# Calls that succeed

The specifications of the calls say what holds if they return. In a frozen world they do return:

* `startIdle_succeeds` — **a new campaign begins**, and rests as running when it has no steps to
  take.
* `stop_succeeds` — **a persisted campaign that is not closed can be stopped**.
-/

namespace Aotp.Campaign

open PyData Aotp.Gate Effects HashChain

variable {site : Site} {campaign : Dict} {f : Frozen} {args : RunArgs}

/-! ### Quiet steps -/

/-- Steps that neither read nor write the two files. -/
structure Quiet (rt : Runtime) (tr : List Step) : Prop where
  effects : effectsOf tr = []
  legal : ∀ w, (world rt).Legal w tr

theorem effectsOf_append (tr tr' : List Step) :
    effectsOf (tr ++ tr') = effectsOf tr ++ effectsOf tr' :=
  List.filterMap_append

theorem appendsOf_append (tr tr' : List Step) :
    appendsOf (tr ++ tr') = appendsOf tr ++ appendsOf tr' := by
  unfold appendsOf effectsOf
  rw [List.filterMap_append, List.filterMap_append]

theorem savesOf_append (tr tr' : List Step) :
    savesOf (tr ++ tr') = savesOf tr ++ savesOf tr' := by
  unfold savesOf effectsOf
  rw [List.filterMap_append, List.filterMap_append]

theorem world_run (rt : Runtime) (w : World) (tr : List Step) :
    (world rt).run w tr = (effectsOf tr).foldl World.apply w := by
  induction tr generalizing w with
  | nil => rfl
  | cons x tr ih =>
    rw [Monitor.run_cons, ih]
    obtain ⟨o, r⟩ := x
    have hnext : (world rt).next w o r = ((effectOf ⟨o, r⟩).map w.apply).getD w := by
      simp only [world]
      cases effectOf ⟨o, r⟩ <;> rfl
    rw [hnext]
    cases h : effectOf ⟨o, r⟩ with
    | none =>
      rw [effectsOf, effectsOf, List.filterMap_cons_none h]
      rfl
    | some e =>
      rw [effectsOf, effectsOf, List.filterMap_cons_some h, List.foldl_cons]
      rfl

namespace Quiet

variable {rt : Runtime}

theorem nil : Quiet rt [] := ⟨rfl, fun _ => trivial⟩

theorem append {tr tr' : List Step} (h : Quiet rt tr) (h' : Quiet rt tr') :
    Quiet rt (tr ++ tr') := by
  refine ⟨by rw [effectsOf_append, h.effects, h'.effects]; rfl, fun w => ?_⟩
  exact (Monitor.legal_append _).mpr ⟨h.legal w, h'.legal _⟩

theorem utcNow {t : String} (h : timestampValid rt t = true) : Quiet rt [⟨.utcNow, t⟩] :=
  ⟨rfl, fun _ => ⟨h, trivial⟩⟩

theorem clock (t : ℚ) : Quiet rt [⟨.clock, t⟩] := ⟨rfl, fun _ => ⟨trivial, trivial⟩⟩

theorem resolveArtifact (artifact path : String) : Quiet rt [⟨.resolveArtifact artifact, path⟩] :=
  ⟨rfl, fun _ => ⟨trivial, trivial⟩⟩

end Quiet

/-! ### The rules of a frozen world -/

section rules

variable {S α : Type} {s : S} {w : World} {tr : List Step}

/-- An operation is answered. -/
theorem frozen_call {o : Op} (r : Res o) (hr : f.answer site.rt w o = r) {k : Res o → Code S α}
    {Q : Except Exc α → S → World × List Step → Prop}
    (h : Post (f.monitor site.rt) (k r) s Q ((world site.rt).next w o r, tr ++ [⟨o, r⟩])) :
    Post (f.monitor site.rt) (call o >>= k) s Q (w, tr) :=
  post_call_bind trivial fun r' hr' => by
    obtain rfl : r' = r := hr'.trans hr
    exact h

/-- A pure part that does not raise. -/
theorem frozen_attempt {β : Type} {x : Except Exc β} {b : β} (hx : x = .ok b) {k : β → Code S α}
    {Q : Except Exc α → S → World × List Step → Prop}
    (h : Post (f.monitor site.rt) (k b) s Q (w, tr)) :
    Post (f.monitor site.rt) (attempt x >>= k) s Q (w, tr) := by
  rw [hx, post_bind, post_attempt]
  exact h

/-- A check that passes. -/
theorem frozen_guard {b : Bool} (hb : b = true) {e : Exc} {k : Unit → Code S α}
    {Q : Except Exc α → S → World × List Step → Prop}
    (h : Post (f.monitor site.rt) (k ()) s Q (w, tr)) :
    Post (f.monitor site.rt) (attempt (guardE b e) >>= k) s Q (w, tr) :=
  frozen_attempt (guardE_eq_ok.mpr hb) h

theorem frozen_append {a : EventArgs} {s : CampaignState} {path : String}
    (hpath : resolveEventLog site s = .ok path)
    {Q : Except Exc Unit → CampaignState → World × List Step → Prop}
    (h : let e := nextEvent site.rt s f.uuid f.timestamp a
      Q (.ok ()) (s.withEvent site.rt e) (w.apply (.append e),
        tr ++ [⟨.uuid4, f.uuid⟩, ⟨.utcNow, f.timestamp⟩, ⟨.appendLog e, ()⟩])) :
    Post (f.monitor site.rt) (appendCampaignEvent site a) s Q (w, tr) := by
  rw [appendCampaignEvent, post_get_bind]
  refine frozen_call f.uuid rfl (frozen_call f.timestamp rfl (frozen_attempt hpath ?_))
  refine frozen_call () rfl ?_
  rw [List.append_assoc, List.append_assoc]
  exact h

theorem frozen_touchAndSave {s : CampaignState}
    (hvalid : validateState site.rt { s with lastUpdatedTime := f.timestamp } = .ok ())
    {Q : Except Exc Unit → CampaignState → World × List Step → Prop}
    (h : Q (.ok ()) (s.savedAt f.timestamp) (w.apply (.save (s.savedAt f.timestamp)),
      tr ++ [⟨.utcNow, f.timestamp⟩,
        ⟨.saveCheckpoint { s with lastUpdatedTime := f.timestamp }, .ok ()⟩])) :
    Post (f.monitor site.rt) touchAndSave s Q (w, tr) := by
  rw [touchAndSave, touch, bind_assoc]
  refine frozen_call f.timestamp rfl ?_
  rw [post_modify_bind, saveState, post_get_bind]
  have hanswer : f.answer site.rt w (.saveCheckpoint { s with lastUpdatedTime := f.timestamp }) =
    Except.ok () := hvalid
  refine frozen_call _ hanswer (frozen_attempt rfl ?_)
  rw [List.append_assoc]
  exact h

end rules

/-! ### Calls in a frozen world -/

/-- A frozen world is one of the given surroundings. -/
structure Frozen.Within (f : Frozen) (sur : Surroundings) : Prop where
  observes : sur.observes ⟨f.instant, f.insideWorkspace⟩
  files : sur.files f.files
  resolves : ∀ artifact, sur.resolves artifact (f.resolveArtifact artifact)

theorem Frozen.within_open (f : Frozen) : f.Within openSurroundings :=
  ⟨trivial, trivial, fun _ => trivial⟩

/-- The clock of a frozen world stands still. -/
theorem Frozen.exec_ambient {sur : Surroundings} (h : f.Within sur) {α : Type} (p : Prog Op Res α)
    (w : World) {t : Option ℚ} (ht : ∀ t₀, t = some t₀ → t₀ = f.clock) :
    (ambient sur).Legal t (f.exec site.rt p w).1 := by
  induction p generalizing w t with
  | pure a => trivial
  | op o k ih =>
    cases o with
    | clock =>
      refine ⟨fun t₀ ht₀ => ?_, ih _ _ fun t₀ ht₀ => (Option.some.inj ht₀).symm⟩
      rw [ht t₀ ht₀]
      exact .refl sur _
    | observe => exact ⟨h.observes, ih _ _ ht⟩
    | artifactFiles => exact ⟨h.files, ih _ _ ht⟩
    | resolveArtifact artifact => exact ⟨h.resolves artifact, ih _ _ ht⟩
    | _ => exact ⟨trivial, ih _ _ ht⟩

/-- The run of a call in a frozen world. -/
def Frozen.call (f : Frozen) (site : Site) (campaign : Dict) (c : Call) (w : World) :
    List Step × (Except Exc CampaignState × Unit) × World :=
  f.exec site.rt (Proc.start (c.perform site campaign) ()) w

/-- **A call in a frozen world is a call.** -/
theorem Frozen.ran {sur : Surroundings} (h : f.Within sur)
    (hnow : timestampValid site.rt f.timestamp = true) (c : Call) (w : World) :
    Ran site campaign sur c w (f.call site campaign c w).1 (.pure (f.call site campaign c w).2.1) ∧
      (world site.rt).run w (f.call site campaign c w).1 = (f.call site campaign c w).2.2 := by
  obtain ⟨hreach, hlegal, hrun⟩ := Frozen.exec_legal hnow (Proc.start (c.perform site campaign) ()) w
  exact ⟨⟨hreach, hlegal, Frozen.exec_ambient h _ w nofun⟩, hrun⟩

/-- A history goes on with a call in a frozen world. -/
theorem History.frozen {sur : Surroundings} {hist : List (Call × List Step)} {w : World}
    (hist' : History site campaign sur hist w) (h : f.Within sur)
    (hnow : timestampValid site.rt f.timestamp = true) (c : Call) :
    History site campaign sur (hist ++ [(c, (f.call site campaign c w).1)])
      (f.call site campaign c w).2.2 := by
  obtain ⟨hran, hrun⟩ := Frozen.ran h hnow c w
  exact hrun ▸ hist'.snoc hran

/-! ### A campaign without steps -/

/-- The loop takes no step when it has none to take. -/
theorem runLoop_idle (hsteps : args.maxSteps = some 0) {base : PurePath} {timing : Timing}
    {budget : SafetyBudget} {ids : List String} {rest : List Dict}
    (hids : idsOf site rest = .ok ids) {s : CampaignState} {w : World} {tr : List Step}
    {Q : Except Exc Unit → CampaignState → World × List Step → Prop}
    (h : ∀ quiet, Quiet site.rt quiet → Q (.ok ()) s (w, tr ++ quiet)) :
    Post (f.monitor site.rt) (runLoop site args base timing budget 0 rest) s Q (w, tr) := by
  replace hids := mapM_eq_ok.mp hids
  induction hids with
  | nil =>
    have h := h [] .nil
    rwa [List.append_nil] at h
  | @cons configured id rest ids hid _ ih =>
    rw [runLoop]
    refine frozen_attempt hid ?_
    rw [post_get_bind]
    by_cases hpending : id ∈ s.pendingModules
    swap
    · rw [if_neg hpending]
      exact ih
    rw [if_pos hpending, prepareObjective, bind_assoc, post_get_bind]
    have hspent : stepsSpent args 0 = true := by simp [stepsSpent, hsteps]
    dsimp only
    generalize (if id ∈ s.reviewedObjectives then dset configured "human_approved" (.bool true)
      else configured) = objective
    have hquiet : Q (.ok ()) s (w, tr) := by
      have h := h [] .nil
      rwa [List.append_nil] at h
    -- Only an SBOM objective with a text for its artifact asks the world.
    cases hasCategory objective "sbom_review" with
    | false =>
      dsimp only
      rw [post_pure_bind, if_pos hspent]
      exact hquiet
    | true =>
      cases dget objective "artifact" with
      | str artifact =>
        dsimp only
        rw [bind_assoc]
        refine frozen_call (f.resolveArtifact artifact) rfl ?_
        rw [post_pure_bind, if_pos hspent]
        exact h _ (.resolveArtifact artifact _)
      | _ =>
        dsimp only
        rw [post_pure_bind, if_pos hspent]
        exact hquiet

/-- What a first invocation needs to begin, beside an accepted campaign. -/
structure Beginnable (site : Site) (f : Frozen) (args : RunArgs) (campaign : Dict)
    (p : CampaignDefinition) (s : CampaignState) : Prop where
  timestamp : timestampValid site.rt f.timestamp = true
  parsed : parseCampaign campaign = .ok p
  state : ∃ objectives ordered ids, rawObjectives campaign = .ok objectives ∧
    schedule site.rt objectives = .ok ordered ∧ idsOf site ordered = .ok ids ∧
    initialState site args.scope campaign p f.timestamp f.scopeText ids = .ok s
  path : ∃ path, resolveEventLog site s = .ok path

/-- What a first invocation without steps needs beside an accepted campaign. -/
structure Startable (site : Site) (f : Frozen) (args : RunArgs) (campaign : Dict)
    (p : CampaignDefinition) (s : CampaignState) : Prop where
  idle : args.maxSteps = some 0
  timestamp : timestampValid site.rt f.timestamp = true
  parsed : parseCampaign campaign = .ok p
  state : ∃ objectives ordered ids, rawObjectives campaign = .ok objectives ∧
    schedule site.rt objectives = .ok ordered ∧ idsOf site ordered = .ok ids ∧
    initialState site args.scope campaign p f.timestamp f.scopeText ids = .ok s
  pending : s.pendingModules ≠ []
  path : ∃ path, resolveEventLog site s = .ok path
  budget : ∃ budget, budgetOf site p.limits args.scope s = .ok budget
  base : ∃ base, baseEvidence site args.scope = .ok base

theorem Startable.beginnable {p : CampaignDefinition} {s : CampaignState}
    (h : Startable site f args campaign p s) : Beginnable site f args campaign p s :=
  ⟨h.timestamp, h.parsed, h.state, h.path⟩

section start

variable {p : CampaignDefinition} {s : CampaignState} {objectives : List Dict}

theorem Beginnable.initial (h : Beginnable site f args campaign p s) : Initial site campaign s := by
  obtain ⟨objectives, ordered, ids, hraw, hschedule, hids, hs⟩ := h.state
  exact ⟨args.scope, p, objectives, ordered, ids, f.timestamp, f.scopeText, h.parsed, hraw,
    hschedule, hids, h.timestamp, hs⟩

theorem Beginnable.planned (h : Beginnable site f args campaign p s) :
    s.currentStatus = .planned ∧ s.operatorStopRequested = false := by
  obtain ⟨_, _, _, -, -, -, hs⟩ := h.state
  simp only [initialState, bind_eq_ok] at hs
  obtain ⟨_, -, _, -, hs⟩ := hs
  cases hs
  exact ⟨rfl, rfl⟩

/-- The event that begins a campaign. -/
def startEvent (site : Site) (f : Frozen) (s : CampaignState) : CampaignEvent :=
  nextEvent site.rt s f.uuid f.timestamp
    { eventType := "campaign_started", outcome := "planned"
      details := [("campaign_definition_hash", .str s.campaignDefinitionHash)] }

/-- The state of a campaign that has begun. -/
def startedState (site : Site) (f : Frozen) (s : CampaignState) : CampaignState :=
  { s.withEvent site.rt (startEvent site f s) with currentStatus := .running }

theorem Beginnable.persisted (h : Beginnable site f args campaign p s)
    (hshape : CampaignShape campaign p objectives) (now : String)
    (hnow : timestampValid site.rt now = true) :
    Persisted site (objectives.map rawId) { startedState site f s with lastUpdatedTime := now } := by
  have hcoherent := h.initial.coherent hshape
  have hevents : s.events = [] := h.initial.events
  have hplanned : s.currentStatus = .planned := h.planned.1
  have hm : Move.begin.Enabled site campaign openSurroundings (.start args) s :=
    ⟨⟨args, rfl⟩, .inr (.inr hplanned), h.path⟩
  have hargs : [Entry.mk f.uuid f.timestamp
      { eventType := "campaign_started", outcome := "planned"
        details := [("campaign_definition_hash", .str s.campaignDefinitionHash)] }].map Entry.args =
      Move.begin.events s := by
    simp [Move.events, startedEvents, resumedEvents, hevents, hplanned]
  have hmoved : Moved site openSurroundings .begin s (startedState site f s) :=
    .of_logged hcoherent.updated hargs
  exact hcoherent.moved hshape.goodIds hm (hmoved.retime hnow (.refl _ _) le_rfl)

/-- Saving what may be persisted. -/
theorem frozen_save (hshape : CampaignShape campaign p objectives)
    (h : ∀ now, timestampValid site.rt now = true →
      Persisted site (objectives.map rawId) { s with lastUpdatedTime := now })
    (hnow : timestampValid site.rt f.timestamp = true) {w : World} {tr : List Step}
    {Q : Except Exc Unit → CampaignState → World × List Step → Prop}
    (hq : Q (.ok ()) (s.savedAt f.timestamp) (w.apply (.save (s.savedAt f.timestamp)),
      tr ++ [⟨.utcNow, f.timestamp⟩,
        ⟨.saveCheckpoint { s with lastUpdatedTime := f.timestamp }, .ok ()⟩])) :
    Post (f.monitor site.rt) touchAndSave s Q (w, tr) :=
  frozen_touchAndSave ((validateState_eq_ok site.rt).mpr ((h _ hnow).valid hshape.goodIds)) hq

/-- The checks of a resume accept the state of a new campaign. -/
theorem Beginnable.resumes (h : Beginnable site f args campaign p s)
    (hshape : CampaignShape campaign p objectives) {α : Type} {k : Unit → Code Unit α} {w : World}
    {tr : List Step} {Q : Except Exc α → Unit → World × List Step → Prop}
    (hk : Post (f.monitor site.rt) (k ()) () Q (w, tr ++ [⟨.readScope, .ok f.scopeText⟩])) :
    Post (f.monitor site.rt) (validateResumeInputs site s campaign >>= k) () Q (w, tr) := by
  have hperm := (h.initial.coherent hshape).ledger.perm
  obtain ⟨_, _, _, -, -, -, hs⟩ := h.state
  simp only [initialState, bind_eq_ok] at hs
  obtain ⟨_, -, _, -, hs⟩ := hs
  cases hs
  rw [validateResumeInputs, bind_assoc]
  refine frozen_call (Except.ok f.scopeText) rfl ?_
  rw [bind_assoc]
  refine frozen_attempt rfl ?_
  rw [bind_assoc]
  refine frozen_guard (beq_self_eq_true _) ?_
  rw [bind_assoc]
  refine frozen_guard (beq_self_eq_true _) ?_
  rw [bind_assoc]
  refine frozen_attempt hshape.raw ?_
  rw [bind_assoc]
  refine frozen_attempt (hshape.idsOf site) ?_
  rw [bind_assoc]
  refine frozen_guard ?_ (frozen_guard rfl hk)
  rw [List.all_eq_true]
  exact fun x hx => decide_eq_true (hperm.subset hx)

/-- **An invocation without steps goes on**, from a running state with something pending, and saves
once. It does not read the files. -/
theorem continueIdle_succeeds (hshape : CampaignShape campaign p objectives)
    (hidle : args.maxSteps = some 0) (hnow : timestampValid site.rt f.timestamp = true)
    (hbudget : ∃ budget, budgetOf site p.limits args.scope s = .ok budget)
    (hbase : ∃ base, baseEvidence site args.scope = .ok base)
    {ordered : List Dict} {ids : List String} (hschedule : schedule site.rt objectives = .ok ordered)
    (hids : idsOf site ordered = .ok ids) (hs : Persisted site (objectives.map rawId) s)
    (hrunning : s.currentStatus = .running) (hpending : s.pendingModules ≠ []) {w : World}
    {tr : List Step} :
    Post (f.monitor site.rt) (continueCampaign site args campaign p) s (fun r s₂ m =>
      r = .ok () ∧ s₂.currentStatus = .running ∧
        s₂.operatorStopRequested = s.operatorStopRequested ∧ ∃ tr₂, m.2 = tr ++ tr₂ ∧
          effectsOf tr₂ = [.save s₂] ∧ ∀ w, (world site.rt).Legal w tr₂) (w, tr) := by
  obtain ⟨budget, hbudget⟩ := hbudget
  obtain ⟨base, hbase⟩ := hbase
  rw [continueCampaign, post_get_bind]
  refine frozen_attempt hbudget (frozen_call f.clock rfl ?_)
  refine frozen_attempt hbase (frozen_attempt hshape.raw (frozen_attempt hschedule ?_))
  rw [post_bind]
  refine runLoop_idle hidle hids fun quiet hquiet => ?_
  dsimp only
  rw [finishInvocation, elapsed, bind_assoc]
  refine frozen_call f.clock rfl ?_
  rw [post_pure_bind, post_modify_bind, post_get_bind, if_neg fun h => hpending h.2]
  have helapsed : s.elapsedSeconds + (f.clock - f.clock) = s.elapsedSeconds := by simp
  rw [helapsed]
  have hsaved : Persisted site (objectives.map rawId) { s with lastUpdatedTime := f.timestamp } :=
    ⟨⟨hs.ledger.of_after _ _ _ _ _, hs.header.of_after _ _ _ _ _, hs.log.of_fields rfl rfl,
      hs.lastHash, hnow, hs.elapsed, hs.revision, hs.begun⟩, hs.notPlanned⟩
  have hvalid : validateState site.rt { s with lastUpdatedTime := f.timestamp } = .ok () :=
    (validateState_eq_ok site.rt).mpr (hsaved.valid hshape.goodIds)
  refine @frozen_touchAndSave site f _ _ s hvalid _ ?_
  have hlast : ∀ w, (world site.rt).Legal w [⟨.utcNow, f.timestamp⟩,
      ⟨.saveCheckpoint { s with lastUpdatedTime := f.timestamp }, .ok ()⟩] :=
    fun w => ⟨hnow, hvalid.symm, trivial⟩
  have hquiet' := ((Quiet.clock f.clock).append hquiet).append (.clock f.clock)
  refine ⟨rfl, hrunning, rfl, _ ++ _, ?_, ?_, fun w => (Monitor.legal_append _).mpr
    ⟨hquiet'.legal w, hlast _⟩⟩
  · simp only [List.append_assoc]
  · rw [effectsOf_append, hquiet'.effects]
    rfl

/-- **A new campaign begins**: it appends one event and saves once, and goes on from there. -/
theorem Beginnable.begins (h : Beginnable site f args campaign p s)
    (hshape : CampaignShape campaign p objectives)
    {Q : Except Exc CampaignState → Unit → World × List Step → Prop}
    (hk : ∀ tr₁, effectsOf tr₁ =
        [.append (startEvent site f s), .save ((startedState site f s).savedAt f.timestamp)] →
      Post (f.monitor site.rt) (continueCampaign site args campaign p)
        ((startedState site f s).savedAt f.timestamp) (fun r s₂ m =>
          match r with
          | .ok _ => Q (.ok s₂) () m
          | .error e => Q (.error e) () m)
        ((World.empty.apply (.append (startEvent site f s))).apply
          (.save ((startedState site f s).savedAt f.timestamp)), tr₁)) :
    Post (f.monitor site.rt) (runCampaign site args campaign none) () Q (World.empty, []) := by
  have hevents : s.events = [] := h.initial.events
  have hplanned : s.currentStatus = .planned := h.planned.1
  have hpersisted := h.persisted hshape
  obtain ⟨objectives', ordered, ids, hraw, hschedule, hids, hs⟩ := h.state
  obtain rfl : objectives' = objectives := Except.ok.inj (hraw.symm.trans hshape.raw)
  obtain ⟨path, hpath⟩ := h.path
  rw [runCampaign]
  refine frozen_attempt h.parsed ?_
  dsimp only
  -- The state is made.
  rw [initializeState, bind_assoc]
  refine frozen_attempt h.parsed ?_
  rw [bind_assoc]
  refine frozen_call f.timestamp rfl ?_
  rw [bind_assoc]
  refine frozen_attempt hraw ?_
  rw [bind_assoc]
  refine frozen_attempt hschedule ?_
  rw [bind_assoc]
  refine frozen_call (Except.ok f.scopeText) rfl ?_
  rw [bind_assoc]
  refine frozen_attempt rfl ?_
  rw [bind_assoc]
  refine frozen_attempt hids (frozen_attempt hs ?_)
  refine h.resumes hshape ?_
  -- No file stands in its way.
  rw [if_pos (show Option.isNone none = true from rfl), requireNoFiles, bind_assoc]
  refine frozen_call false rfl ?_
  rw [bind_assoc]
  refine frozen_guard rfl ?_
  rw [bind_assoc]
  refine frozen_attempt hpath ?_
  rw [bind_assoc]
  refine frozen_call false rfl (frozen_guard rfl (post_within ?_))
  -- The first event, and the first save.
  rw [beginInvocation, bind_assoc, post_get_bind, bind_assoc, beginLog, if_pos (by simp [hevents]),
    post_bind]
  refine frozen_append hpath ?_
  dsimp only
  rw [recordResume, if_neg (by simp [hplanned]), bind_assoc, post_pure_bind, bind_assoc,
    post_modify_bind, post_bind]
  refine @frozen_save site campaign f p (startedState site f s) objectives' hshape hpersisted
    h.timestamp _ _ _ ?_
  refine post_mono (fun r s' m hq => ?_) (hk _ ?_)
  · cases r with
    | ok u => exact hq
    | error e => exact hq
  · rfl

/-- **A new campaign begins**, and rests as running: it appends one event and saves twice. What
follows the first save does not read the files. -/
theorem startIdle_succeeds (h : Startable site f args campaign p s) :
    Post (f.monitor site.rt) ((Call.start args).perform site campaign) () (fun r _ m =>
      ∃ e s₁ s₂ tr₁ tr₂, r = .ok s₂ ∧ m.2 = tr₁ ++ tr₂ ∧
        effectsOf tr₁ = [.append e, .save s₁] ∧ effectsOf tr₂ = [.save s₂] ∧
        (∀ w, (world site.rt).Legal w tr₂) ∧ s₁.currentStatus = .running ∧
        s₂.currentStatus = .running ∧ s₂.operatorStopRequested = false) (World.empty, []) := by
  obtain ⟨objectives, hshape⟩ := campaignShape_of_parse h.parsed
  have hbegin := h.beginnable
  obtain ⟨objectives', ordered, ids, hraw, hschedule, hids, -⟩ := h.state
  obtain rfl : objectives' = objectives := Except.ok.inj (hraw.symm.trans hshape.raw)
  show Post _ (runCampaign site args campaign none) () _ _
  refine hbegin.begins hshape fun tr₁ heffects₁ => ?_
  have hrest : Persisted site (objectives'.map rawId) ((startedState site f s).savedAt f.timestamp) :=
    (hbegin.persisted hshape _ h.timestamp).saved
  have hbudget : ∃ budget, budgetOf site p.limits args.scope
    ((startedState site f s).savedAt f.timestamp) = .ok budget := h.budget
  refine post_mono (fun r s₂ m hm => ?_) (continueIdle_succeeds hshape h.idle h.timestamp hbudget
    h.base hschedule hids hrest rfl h.pending)
  obtain ⟨rfl, hrunning, hflag, tr₂, htr, heffects, hlegal⟩ := hm
  exact ⟨_, _, s₂, tr₁, tr₂, rfl, htr, heffects₁, heffects, hlegal, rfl, hrunning,
    hflag.trans hbegin.planned.2⟩

end start

/-! ### A stop -/

/-- **A persisted campaign that is not closed can be stopped**: the stop appends its event, then
saves a state that records it. -/
theorem stop_succeeds {ids : List String} (hids : GoodIds ids) {b : CampaignState}
    (hb : Persisted site ids b) (hcompleted : b.currentStatus ≠ .completed)
    (hstopped : b.currentStatus ≠ .stoppedByOperator)
    (hnow : timestampValid site.rt f.timestamp = true) {w : World} (hw : w.checkpoint = some b) :
    Post (f.monitor site.rt) (Call.stop.perform site campaign) () (fun r _ m =>
      ∃ e s tr₁ tr₂, r = .ok s ∧ m.2 = tr₁ ++ tr₂ ∧ effectsOf tr₁ = [.append e] ∧
        effectsOf tr₂ = [.save s] ∧ s.operatorStopRequested = true ∧
        s.currentStatus = .stoppedByOperator) (w, []) := by
  obtain ⟨path, hpath⟩ := (hb.begun hb.notPlanned).2
  have hm : Move.stop.Enabled site campaign openSurroundings .stop b :=
    ⟨rfl, hcompleted, hstopped, hb.notPlanned⟩
  let a : EventArgs := { eventType := "operator_stop", objectiveId := b.operatorStopped.currentObjectiveId
                         outcome := "stopped_by_operator" }
  let t := b.operatorStopped
  have hmoved : Moved site openSurroundings .stop b
      (t.withEvent site.rt (nextEvent site.rt t f.uuid f.timestamp a)) := by
    have hargs : [Entry.mk f.uuid f.timestamp a].map Entry.args = Move.stop.events b := rfl
    exact .of_logged hb.updated hargs
  have hsaved := hb.toCoherent.moved hids hm (hmoved.retime hnow (.refl _ _) le_rfl)
  show Post _ (onLoaded (requestOperatorStop site)) () _ _
  rw [onLoaded, loadState, bind_assoc]
  have hanswer : f.answer site.rt w .loadCheckpoint = some b := hw
  refine frozen_call (some b) hanswer ?_
  dsimp only
  rw [post_pure_bind]
  refine post_within ?_
  rw [requestOperatorStop, post_get_bind]
  refine frozen_guard (by simp [hcompleted, hstopped]) ?_
  rw [post_modify_bind, post_get_bind, post_bind]
  have hpath' : resolveEventLog site t = .ok path := hpath
  refine frozen_append hpath' ?_
  refine @frozen_touchAndSave site f _ _ (t.withEvent site.rt
    (nextEvent site.rt t f.uuid f.timestamp a))
    ((validateState_eq_ok site.rt).mpr (hsaved.valid hids)) _ ?_
  exact ⟨_, _, _, _, rfl, rfl, rfl, rfl, rfl, rfl⟩

/-! ### A campaign that has begun -/

section begun

variable {p : CampaignDefinition} {s : CampaignState}

/-- The steps of a first invocation, as far as its first save and from there on. -/
theorem Startable.trace (h : Startable site f args campaign p s) :
    ∃ e s₁ s₂ tr₁ tr₂, (f.call site campaign (.start args) World.empty).2.1.1 = .ok s₂ ∧
      (f.call site campaign (.start args) World.empty).1 = tr₁ ++ tr₂ ∧
      effectsOf tr₁ = [.append e, .save s₁] ∧ effectsOf tr₂ = [.save s₂] ∧
      (∀ w, (world site.rt).Legal w tr₂) ∧ s₁.currentStatus = .running ∧
      s₂.currentStatus = .running ∧ s₂.operatorStopRequested = false :=
  Frozen.exec_of_post (startIdle_succeeds h)

/-- A campaign that has begun is at rest, with its last save for a checkpoint. -/
theorem Startable.history (h : Startable site f args campaign p s) {sur : Surroundings}
    (hf : f.Within sur) : ∃ tr e s₁ s₂ w, History site campaign sur [(.start args, tr)] w ∧
      effectsOf tr = [.append e, .save s₁, .save s₂] ∧ w.checkpoint = some s₂ ∧
      s₂.currentStatus = .running := by
  have hist := @History.frozen site campaign f sur _ _ .nil hf h.timestamp (.start args)
  obtain ⟨e, s₁, s₂, tr₁, tr₂, -, htr, h₁, h₂, -, -, hrunning, -⟩ := h.trace
  have heffects : effectsOf (f.call site campaign (.start args) World.empty).1 =
      [.append e, .save s₁, .save s₂] := by
    rw [htr, effectsOf_append, h₁, h₂]
    rfl
  refine ⟨_, e, s₁, s₂, _, hist, heffects, ?_, hrunning⟩
  obtain ⟨-, hrun⟩ := @Frozen.ran site campaign f sur hf h.timestamp (.start args)
    World.empty
  rw [← hrun, world_run, heffects]
  rfl

/-- The steps of a stop, as far as its event and from there on. -/
theorem stop_trace {ids : List String} (hids : GoodIds ids) {b : CampaignState}
    (hb : Persisted site ids b) (hrunning : b.currentStatus = .running)
    (hnow : timestampValid site.rt f.timestamp = true) {w : World} (hw : w.checkpoint = some b) :
    ∃ e s tr₁ tr₂, (f.call site campaign .stop w).2.1.1 = .ok s ∧
      (f.call site campaign .stop w).1 = tr₁ ++ tr₂ ∧ effectsOf tr₁ = [.append e] ∧
      effectsOf tr₂ = [.save s] ∧ s.operatorStopRequested = true ∧
      s.currentStatus = .stoppedByOperator :=
  Frozen.exec_of_post (stop_succeeds hids hb (by simp [hrunning]) (by simp [hrunning]) hnow hw)

end begun

/-! ### A concrete campaign -/

/-- Whether a first invocation without steps has what it needs. -/
def canStart (site : Site) (f : Frozen) (args : RunArgs) (campaign : Dict) : Except Exc Bool := do
  let p ← parseCampaign campaign
  let objectives ← rawObjectives campaign
  let ordered ← schedule site.rt objectives
  let ids ← idsOf site ordered
  let s ← initialState site args.scope campaign p f.timestamp f.scopeText ids
  let _ ← resolveEventLog site s
  let _ ← budgetOf site p.limits args.scope s
  let _ ← baseEvidence site args.scope
  pure (!s.pendingModules.isEmpty && timestampValid site.rt f.timestamp &&
    decide (args.maxSteps = some 0))

theorem startable_of_canStart (h : canStart site f args campaign = .ok true) :
    ∃ p s, Startable site f args campaign p s := by
  simp only [canStart, bind_eq_ok] at h
  obtain ⟨p, hp, objectives, hraw, ordered, hschedule, ids, hids, s, hs, path, hpath, budget,
    hbudget, base, hbase, h⟩ := h
  simp only [pure, Except.pure, Except.ok.injEq, Bool.and_eq_true, Bool.not_eq_true',
    decide_eq_true_eq] at h
  obtain ⟨⟨hpending, hnow⟩, hidle⟩ := h
  exact ⟨p, s, hidle, hnow, hp, ⟨objectives, ordered, ids, hraw, hschedule, hids, hs⟩,
    by simpa using hpending, ⟨path, hpath⟩, ⟨budget, hbudget⟩, ⟨base, hbase⟩⟩

/-- The arguments of an invocation without steps. -/
def idleArgs : RunArgs := { scope := sampleScope, maxSteps := some 0 }

/-- The digests of a campaign, its scope file, its first event and the stop that follows it. -/
def idleDigests : List (Json × String) :=
  let started := draftEvent sampleStart sampleWorld.uuid sampleTime
    { eventType := "campaign_started", outcome := "planned"
      details := [("campaign_definition_hash",
        .str "fad00f50c2f5dd858e1160b13aada5f60b12b3cd54f86cb09fa88c9509d2bd9a")] }
  let stopped := draftEvent { sampleStart with
      events := [started]
      lastEventHash := some "9033a2186b5c67867cd88f53d5a2fd943b7fb76055571cc370cb177512e36805" }
    sampleWorld.uuid sampleTime { eventType := "operator_stop", outcome := "stopped_by_operator" }
  [(.obj (sampleCampaign [sampleObjective]),
      "fad00f50c2f5dd858e1160b13aada5f60b12b3cd54f86cb09fa88c9509d2bd9a"),
    (.obj sampleScope, "450721a8969b20df94f5d3c96c47d41163af5348e06de764ffeba89f096a7e37"),
    (started.payload, "9033a2186b5c67867cd88f53d5a2fd943b7fb76055571cc370cb177512e36805"),
    (stopped.payload, "49b1249f1975c749164c68bc4f62d21520f8291b14348937575abe79bf8bb520")]

/-- The circumstances of the campaign. -/
def idleSite : Site := sampleSite idleDigests (by decide +kernel)

/-- The campaign can be started. -/
theorem idle_startable :
    ∃ p s, Startable idleSite sampleWorld idleArgs (sampleCampaign [sampleObjective]) p s :=
  startable_of_canStart (by decide +kernel)

end Aotp.Campaign
