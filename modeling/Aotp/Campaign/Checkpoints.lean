import Aotp.Campaign.Success

/-!
# The checkpoints of a history

* `checkpoints_disposed` — **every checkpoint holds every objective in exactly one list**, and its
  status agrees with the lists; no save is refused.
* `history_verifies` — **between two calls the log verifies against the checkpoint**.
* `crash_verifies_iff` — a call that dies leaves the two files in step exactly when its last
  durable effect is a checkpoint; `stop_crash` is a call that dies between its two writes.
-/

namespace Aotp.Campaign

open PyData Aotp.Gate Effects HashChain

variable {site : Site} {campaign : Dict} {sur : Surroundings} {c : Call} {w : World}
  {p : CampaignDefinition} {hist : List (Call × List Step)} {tr : List Step}
  {q : Prog Op Res (Except Exc CampaignState × Unit)}

/-! ### Dispositions -/

/-- **The disposition of the objectives** in a checkpoint: each is in exactly one of the four lists,
no list names another one, and status and current objective agree with them. -/
structure Disposition (ids : List String) (s : CampaignState) : Prop where
  nodup : s.completedModules.Nodup ∧ s.pendingModules.Nodup ∧ s.skippedModules.Nodup ∧
    s.stoppedModules.Nodup
  disjoint : s.completedModules.Disjoint s.pendingModules ∧
    s.completedModules.Disjoint s.skippedModules ∧ s.completedModules.Disjoint s.stoppedModules ∧
    s.pendingModules.Disjoint s.skippedModules ∧ s.pendingModules.Disjoint s.stoppedModules ∧
    s.skippedModules.Disjoint s.stoppedModules
  union : ∀ id, id ∈ ids ↔ id ∈ s.completedModules ∨ id ∈ s.pendingModules ∨
    id ∈ s.skippedModules ∨ id ∈ s.stoppedModules
  whileOpen : s.currentStatus = .planned ∨ s.currentStatus = .running ∨
    s.currentStatus = .readyToResume → s.stoppedModules = [] ∧ s.skippedModules = []
  whilePaused : s.currentStatus = .pausedForHumanReview →
    ∃ id, s.currentObjectiveId = some id ∧ id ∈ s.pendingModules

theorem Coherent.disposition {ids : List String} {s : CampaignState} (h : Coherent site ids s)
    (hids : GoodIds ids) : Disposition ids s := by
  have hvalid := h.valid hids
  refine ⟨hvalid.nodup, hvalid.disjoint, fun id => ?_, fun hopen => ⟨?_, h.ledger.skipped⟩,
    fun hpaused => ?_⟩
  · rw [← h.ledger.perm.mem_iff]
    simp [CampaignState.allModules]
  · exact h.ledger.stopped (by tauto)
  · obtain ⟨id, hid, -⟩ := h.ledger.paused hpaused
    exact ⟨id, hid, h.ledger.current id hid⟩

theorem mem_savesOf {s : CampaignState} (h : s ∈ savesOf tr) :
    ∃ tr₁ tr₂ t u, tr = tr₁ ++ ⟨.saveCheckpoint t, .ok u⟩ :: tr₂ ∧ s = t.saved := by
  obtain ⟨t, u, hstep, rfl⟩ := mem_savesOf_iff.mp h
  obtain ⟨tr₁, tr₂, rfl⟩ := List.append_of_mem hstep
  exact ⟨tr₁, tr₂, t, u, rfl, rfl⟩

/-- **Every checkpoint of every history is disposed of in full, and no save is refused.** The ids
are those of the raw campaign, which the lists hold untrimmed. -/
theorem checkpoints_disposed (hp : parseCampaign campaign = .ok p)
    (h : History site campaign sur hist w) :
    ∃ objectives, rawObjectives campaign = .ok objectives ∧ ∀ x ∈ hist,
      (∀ s ∈ savesOf x.2, Disposition (objectives.map rawId) s) ∧
      ∀ s r, (⟨.saveCheckpoint s, r⟩ : Step) ∈ x.2 → r = .ok () := by
  obtain ⟨objectives, hshape⟩ := campaignShape_of_parse hp
  refine ⟨objectives, hshape.raw, fun x hx => ?_⟩
  obtain ⟨c, tr⟩ := x
  obtain ⟨w', r', hw', hran⟩ := h.call hshape hx
  refine ⟨fun s hs => ?_, fun s r hstep => ?_⟩
  · obtain ⟨tr₁, tr₂, t, u, htr, rfl⟩ := mem_savesOf hs
    dsimp only at htr hran
    rw [htr] at hran
    obtain ⟨-, -, hpersisted, -⟩ := hran.saves hshape hw'
    exact hpersisted.saved.disposition hshape.goodIds
  · obtain ⟨tr₁, tr₂, htr⟩ := List.append_of_mem hstep
    dsimp only at htr hran
    rw [htr] at hran
    exact (hran.saves hshape hw').2.2.2

/-- A campaign that has begun has saved twice, each time in full. -/
theorem checkpoints_disposed_idle : ∃ tr e s₁ s₂ w objectives,
    History idleSite (sampleCampaign [sampleObjective]) openSurroundings [(.start idleArgs, tr)] w ∧
    effectsOf tr = [.append e, .save s₁, .save s₂] ∧
    rawObjectives (sampleCampaign [sampleObjective]) = .ok objectives ∧
    ∀ x ∈ [(Call.start idleArgs, tr)], (∀ s ∈ savesOf x.2, Disposition (objectives.map rawId) s) ∧
      ∀ s r, (⟨.saveCheckpoint s, r⟩ : Step) ∈ x.2 → r = .ok () := by
  obtain ⟨p, s, hstart⟩ := idle_startable
  obtain ⟨tr, e, s₁, s₂, w, h, heffects, -, -⟩ := hstart.history sampleWorld.within_open
  obtain ⟨objectives, hraw, hall⟩ := checkpoints_disposed hstart.parsed h
  exact ⟨tr, e, s₁, s₂, w, objectives, h, heffects, hraw, hall⟩

/-! ### Log and checkpoint -/

theorem eventsOfFile_logOf {es : List CampaignEvent} (hes : es ≠ []) :
    eventsOfFile (logOf es) = some es := by
  rw [logOf, if_neg hes]
  exact eventsOfLines_map_line es

/-- The log of the events of a persisted state verifies against it. -/
theorem Persisted.verifies {ids : List String} {s : CampaignState} (h : Persisted site ids s) :
    verifyStateLog site s (logOf s.events) = .ok [] := by
  obtain ⟨hne, path, hpath⟩ := h.begun h.notPlanned
  rw [logOf, if_neg hne]
  exact h.log.verifies hne hpath

/-- **Log and checkpoint stay in step.** Between two calls of a history the log file verifies
against the checkpoint: its events are numbered from 1, each names the hash of the one before it,
and their count and their last hash are those of the checkpoint. -/
theorem history_verifies (hp : parseCampaign campaign = .ok p)
    (h : History site campaign sur hist w) {s : CampaignState} (hs : w.checkpoint = some s) :
    verifyStateLog site s w.log = .ok [] ∧ ∃ es, eventsOfFile w.log = some es ∧
      Numbered 1 es ∧ SelfHashed site.rt es ∧
      Linked (chainDigest site.rt) CampaignEvent.previousEventHash .null es ∧
      es.length = s.events.length ∧
      tip (chainDigest site.rt) .null es = optText s.lastEventHash := by
  obtain ⟨objectives, hshape⟩ := campaignShape_of_parse hp
  have hrest := h.atRest hshape
  have hpersisted := hrest.persisted s hs
  have hlog : w.log = logOf s.events := by
    rw [hrest.log, Progress.committed, World.progress, hs]
  obtain ⟨hne, -⟩ := hpersisted.begun hpersisted.notPlanned
  rw [hlog]
  exact ⟨hpersisted.verifies, s.events, eventsOfFile_logOf hne, hpersisted.log.chained.numbered,
    hpersisted.log.chained.selfHashed, hpersisted.log.chained.linked, rfl, hpersisted.log.tip_eq⟩

/-- The log of a campaign that has begun verifies. -/
theorem history_verifies_idle : ∃ hist w s,
    History idleSite (sampleCampaign [sampleObjective]) openSurroundings hist w ∧
    w.checkpoint = some s ∧ verifyStateLog idleSite s w.log = .ok [] := by
  obtain ⟨p, s, hstart⟩ := idle_startable
  obtain ⟨tr, e, s₁, s₂, w, h, -, hs, -⟩ := hstart.history sampleWorld.within_open
  exact ⟨_, w, s₂, h, hs, (history_verifies hstart.parsed h hs).1⟩

/-! ### Crashes -/

/-- What the last durable effect says about the progress of a call. -/
theorem progress_of_effects (g : Progress) (tr : List Step) :
    let g' := (commits site campaign sur c).run g tr
    match (effectsOf tr).getLast? with
    | none => g'.pending = g.pending ∧ g'.base = g.base
    | some (.append _) => g'.pending ≠ []
    | some (.save s) => g'.pending = [] ∧ g'.base = some s := by
  induction tr using List.reverseRecOn with
  | nil => exact ⟨rfl, rfl⟩
  | append_singleton tr x ih =>
    obtain ⟨o, r⟩ := x
    have hrun : (commits site campaign sur c).run g (tr ++ [⟨o, r⟩]) =
      (commits site campaign sur c).next ((commits site campaign sur c).run g tr) o r := by
      rw [Monitor.run_append]
      rfl
    rw [hrun, effectsOf_append]
    -- A step without a durable effect leaves base and pending events alone.
    have hquiet : effectOf ⟨o, r⟩ = none → effectsOf [⟨o, r⟩] = [] := fun h =>
      List.filterMap_cons_none h
    cases o with
    | appendLog e =>
      have heffect : effectsOf [(⟨.appendLog e, r⟩ : Step)] = [.append e] := rfl
      rw [heffect, List.getLast?_concat]
      exact List.concat_ne_nil _ _
    | saveCheckpoint s =>
      cases r with
      | ok u =>
        have heffect : effectsOf [(⟨.saveCheckpoint s, .ok u⟩ : Step)] = [.save s.saved] := rfl
        rw [heffect, List.getLast?_concat]
        exact ⟨rfl, rfl⟩
      | error e =>
        rw [hquiet rfl, List.append_nil]
        exact ih
    | _ =>
      rw [hquiet rfl, List.append_nil]
      exact ih

/-- **Events behind the checkpoint** make the log longer than the checkpoint says. -/
theorem Tracks.not_verifies {ids : List String} {g : Progress} {t : Option ℚ}
    (h : Tracks site ids g (w, t)) (hpending : g.pending ≠ []) :
    ¬ ∃ s, w.checkpoint = some s ∧ verifyStateLog site s w.log = .ok [] := by
  rintro ⟨s, hs, hverified⟩
  have hlog : w.log = logOf (g.committed ++ g.pending) := h.log
  have hcommitted : g.committed = s.events := by
    rw [Progress.committed, ← h.checkpoint]
    simp [hs]
  rw [hlog] at hverified
  obtain ⟨-, es, hes, -, -, -, hlength⟩ := (verifyStateLog_eq_nil site).mp hverified
  have hne : g.committed ++ g.pending ≠ [] := by simp [hpending]
  obtain rfl := Option.some.inj ((eventsOfFile_logOf hne).symm.trans hes)
  rw [List.length_append, hcommitted] at hlength
  exact hpending (List.length_eq_zero_iff.mp (by omega))

/-- **When a crash leaves the files in step.** A call of a history dies after at least one durable
effect. The checkpoint and the log it leaves verify together exactly when the last durable effect
is a checkpoint: between the append of an event and the save that follows it, they do not. -/
theorem crash_verifies_iff (hp : parseCampaign campaign = .ok p)
    (h : History site campaign sur hist w) (hran : Ran site campaign sur c w tr q)
    (heffects : effectsOf tr ≠ []) :
    (∃ s, ((world site.rt).run w tr).checkpoint = some s ∧
      verifyStateLog site s ((world site.rt).run w tr).log = .ok []) ↔
    ∃ s, (effectsOf tr).getLast? = some (.save s) := by
  obtain ⟨objectives, hshape⟩ := campaignShape_of_parse hp
  obtain ⟨-, -, -, htracks⟩ := hran.conforms hshape (h.atRest hshape)
  have hprogress := @progress_of_effects site campaign sur c w.progress tr
  generalize (commits site campaign sur c).run w.progress tr = g at htracks hprogress
  have hlast := List.getLast?_eq_some_getLast heffects
  generalize (effectsOf tr).getLast heffects = last at hlast
  rw [hlast] at hprogress ⊢
  cases last with
  | append e => simpa using htracks.not_verifies hprogress
  | save s =>
    obtain ⟨hpending, hbase⟩ := hprogress
    have hlog : ((world site.rt).run w tr).log = logOf s.events := by
      have hlog : _ = logOf (g.committed ++ g.pending) := htracks.log
      rw [hpending, List.append_nil, Progress.committed, hbase] at hlog
      exact hlog
    refine iff_of_true ⟨s, htracks.checkpoint.trans hbase, ?_⟩ ⟨s, rfl⟩
    rw [hlog]
    exact (htracks.persisted s hbase).verifies

/-- A stop that dies between its two writes: the event is appended, and the checkpoint is not
saved. -/
theorem Startable.stopDies {f : Frozen} {args : RunArgs} {s : CampaignState}
    (hstart : Startable site f args campaign p s) :
    ∃ tr₀ w tr q e, History site campaign openSurroundings [(.start args, tr₀)] w ∧
      Ran site campaign openSurroundings .stop w tr q ∧ effectsOf tr = [.append e] := by
  obtain ⟨objectives, hshape⟩ := campaignShape_of_parse hstart.parsed
  obtain ⟨tr₀, e, s₁, s₂, w, h, -, hs, hrunning⟩ := hstart.history f.within_open
  obtain ⟨e', s', tr, tr', -, htr, heffect, -⟩ := @stop_trace site campaign f _ hshape.goodIds s₂
    ((h.atRest hshape).persisted s₂ hs) hrunning hstart.timestamp w hs
  have hran := (@Frozen.ran site campaign f _ f.within_open hstart.timestamp .stop w).1
  rw [htr] at hran
  obtain ⟨q, hcut⟩ := hran.cut
  exact ⟨tr₀, w, tr, q, e', h, hcut, heffect⟩

/-- **A stop can die with the files out of step**: after the append of its event, the log is one
event longer than the checkpoint says. -/
theorem stop_crash : ∃ tr₀ w tr q e,
    History idleSite (sampleCampaign [sampleObjective]) openSurroundings
      [(.start idleArgs, tr₀)] w ∧
    Ran idleSite (sampleCampaign [sampleObjective]) openSurroundings .stop w tr q ∧
    effectsOf tr = [.append e] ∧ ¬ ∃ s, ((world idleSite.rt).run w tr).checkpoint = some s ∧
      verifyStateLog idleSite s ((world idleSite.rt).run w tr).log = .ok [] := by
  obtain ⟨p, s, hstart⟩ := idle_startable
  obtain ⟨tr₀, w, tr, q, e, h, hran, heffect⟩ := hstart.stopDies
  obtain ⟨objectives, hshape⟩ := campaignShape_of_parse hstart.parsed
  obtain ⟨-, -, -, htracks⟩ := hran.conforms hshape (h.atRest hshape)
  have hprogress := @progress_of_effects idleSite (sampleCampaign [sampleObjective])
    openSurroundings .stop w.progress tr
  rw [heffect] at hprogress
  exact ⟨tr₀, w, tr, q, e, h, hran, heffect, htracks.not_verifies hprogress⟩

/-- The same stop, by the condition. -/
theorem crash_verifies_iff_stop : ∃ tr₀ w tr q,
    History idleSite (sampleCampaign [sampleObjective]) openSurroundings
      [(.start idleArgs, tr₀)] w ∧
    Ran idleSite (sampleCampaign [sampleObjective]) openSurroundings .stop w tr q ∧
    ((∃ s, ((world idleSite.rt).run w tr).checkpoint = some s ∧
      verifyStateLog idleSite s ((world idleSite.rt).run w tr).log = .ok []) ↔
      ∃ s, (effectsOf tr).getLast? = some (.save s)) := by
  obtain ⟨p, s, hstart⟩ := idle_startable
  obtain ⟨tr₀, w, tr, q, e, h, hran, heffect⟩ := hstart.stopDies
  exact ⟨tr₀, w, tr, q, h, hran, crash_verifies_iff hstart.parsed h hran (by simp [heffect])⟩

end Aotp.Campaign
