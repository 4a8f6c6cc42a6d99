import Aotp.Campaign.Success
import Aotp.Campaign.TamperEvidence

/-!
# A campaign that pauses

* `Pausable` — what a campaign of one objective needs to come to a pause before the objective is
  dispatched: a control panel with a lockout risk that no human has reviewed.
* `lockoutPause_succeeds` — **its first invocation pauses it**, in a frozen world.
* `Pausable.history` — so there is a history that ends in a paused checkpoint.
-/

namespace Aotp.Campaign

open PyData Aotp.Gate Effects HashChain

variable {site : Site} {campaign : Dict} {f : Frozen} {args : RunArgs} {p : CampaignDefinition}
  {s : CampaignState} {id : String} {configured : Dict} {base : PurePath} {evidence : String}

/-- What is recorded of a pause before dispatch.
Source: `campaign_loop._record_panel_lockout_pause` -/
def lockoutManifest (site : Site) (objective : Dict) : ManifestInput :=
  { tool := "panel-lockout-risk-gate", verdict := .manualReview
    moduleName := moduleNameOf site objective, executionMode := "not_executed"
    policyDecision := "paused by authentication_lockout_risk"
    responseMetadata := [("stop_condition", .str "authentication_lockout_risk"),
      ("status", .str "paused before execution for explicit human review")]
    withWstgMapping := false }

/-- What a campaign of one objective needs to come to a pause before the objective is dispatched. -/
structure Pausable (site : Site) (f : Frozen) (args : RunArgs) (campaign : Dict)
    (p : CampaignDefinition) (s : CampaignState) (id : String) (configured : Dict)
    (base : PurePath) (evidence : String) : Prop where
  beginnable : Beginnable site f args campaign p s
  steps : args.maxSteps = none
  budget : ∃ budget, budgetOf site p.limits args.scope s = .ok budget
  workspace : baseEvidence site args.scope = .ok base
  ordered : ∃ objectives, rawObjectives campaign = .ok objectives ∧
    schedule site.rt objectives = .ok [configured]
  named : objectiveIdOf site.rt configured = .ok id
  pending : id ∈ s.pendingModules
  unreviewed : s.reviewedObjectives = []
  plain : hasCategory configured "sbom_review" = false
  noSignals : collectFuzzingStopSignals configured = []
  lockout : panelLockoutRiskDetected configured = true
  manifest : ∃ m, manifestOf site s args.scope configured f.timestamp id
    (lockoutManifest site configured) = .ok m
  relative : relativeEvidence site (evidenceDir base s) = .ok evidence
  written : ∀ directory manifest record, f.evidence directory manifest record = .ok ()

section pausing

/-- The pause is an enabled move of the campaign that has begun. -/
theorem Pausable.enabled (h : Pausable site f args campaign p s id configured base evidence) :
    (Move.lockoutPause id evidence (moduleNameOf site configured)).Enabled site campaign
      openSurroundings (.start args) ((startedState site f s).savedAt f.timestamp) := by
  obtain ⟨objectives, hraw, hschedule⟩ := h.ordered
  have hunreviewed : id ∉ s.reviewedObjectives := by simp [h.unreviewed]
  have hnext : nextObjective site.rt s.pendingModules [configured] = some (id, configured) := by
    simp [nextObjective, h.named, h.pending]
  have hmarked : marked s.reviewedObjectives id configured = configured := by
    simp [marked, h.unreviewed]
  have hprepared : Prepared openSurroundings s.reviewedObjectives id configured configured := by
    unfold Prepared artifactOf
    rw [hmarked, h.plain]
  exact ⟨args, configured, rfl, ⟨rfl, objectives, _, _, hraw, hschedule, hnext, hprepared⟩,
    ⟨base, h.workspace, h.relative⟩, h.noSignals, h.lockout, hunreviewed, rfl⟩

/-- The event of the pause. -/
def lockoutEvent (site : Site) (f : Frozen) (b : CampaignState) (id evidence moduleName : String) :
    CampaignEvent :=
  nextEvent site.rt (b.pausedBefore id evidence) f.uuid f.timestamp
    { eventType := "campaign_paused", iterationId := fmt04 b.nextIteration, objectiveId := some id
      moduleName := some moduleName
      policyDecision := some "paused by authentication_lockout_risk"
      outcome := "paused_for_human_review", evidenceDirectory := some evidence
      details := [("phase", .str "pre_execution"),
        ("stop_condition", .str "authentication_lockout_risk")] }

/-- The paused state, before its save. -/
def lockedState (site : Site) (f : Frozen) (b : CampaignState) (id evidence moduleName : String) :
    CampaignState :=
  (b.pausedBefore id evidence).withEvent site.rt (lockoutEvent site f b id evidence moduleName)

/-- The pause leaves a state that may be persisted. -/
theorem lockedState_persisted {ids : List String} {b : CampaignState} {moduleName : String}
    (hids : GoodIds ids) (hb : Persisted site ids b)
    (hm : (Move.lockoutPause id evidence moduleName).Enabled site campaign openSurroundings
      (.start args) b) {now : String} (hnow : timestampValid site.rt now = true) :
    Persisted site ids { lockedState site f b id evidence moduleName with lastUpdatedTime := now } := by
  have hmoved : Moved site openSurroundings (.lockoutPause id evidence moduleName) b
      (lockedState site f b id evidence moduleName) := by
    have hargs : [Entry.mk f.uuid f.timestamp
        { eventType := "campaign_paused", iterationId := fmt04 b.nextIteration, objectiveId := some id
          moduleName := some moduleName
          policyDecision := some "paused by authentication_lockout_risk"
          outcome := "paused_for_human_review", evidenceDirectory := some evidence
          details := [("phase", .str "pre_execution"),
            ("stop_condition", .str "authentication_lockout_risk")] }].map Entry.args =
      (Move.lockoutPause id evidence moduleName).events b := rfl
    exact .of_logged hb.updated hargs
  exact hb.toCoherent.moved hids hm (hmoved.retime hnow (.refl _ _) le_rfl)

/-- The pause is recorded and saved. -/
theorem recordLockout_succeeds {ids : List String} {b : CampaignState} (hids : GoodIds ids)
    (hb : Persisted site ids b)
    (hm : (Move.lockoutPause id evidence (moduleNameOf site configured)).Enabled site campaign
      openSurroundings (.start args) b)
    (hnow : timestampValid site.rt f.timestamp = true) {manifest : Dict}
    (hmanifest : manifestOf site b args.scope configured f.timestamp id
      (lockoutManifest site configured) = .ok manifest)
    (hrelative : relativeEvidence site (evidenceDir base b) = .ok evidence)
    (hwritten : ∀ directory manifest record, f.evidence directory manifest record = .ok ())
    {w : World} {tr : List Step} {Q : Except Exc Unit → CampaignState → World × List Step → Prop}
    (h : ∀ tr', Q (.ok ())
      ((lockedState site f b id evidence (moduleNameOf site configured)).savedAt f.timestamp)
      ((w.apply (.append (lockoutEvent site f b id evidence (moduleNameOf site configured)))).apply
        (.save ((lockedState site f b id evidence (moduleNameOf site configured)).savedAt
          f.timestamp)), tr')) :
    Post (f.monitor site.rt) (do
      recordPanelLockoutPause site args base configured id
      touchAndSave) b Q (w, tr) := by
  obtain ⟨-, path, hpath⟩ := hb.begun hb.notPlanned
  have hpath' : resolveEventLog site (b.pausedBefore id evidence) = .ok path := hpath
  have hpersisted := @lockedState_persisted site campaign f args id evidence ids b _ hids hb hm _ hnow
  rw [recordPanelLockoutPause, bind_assoc, post_get_bind, bind_assoc]
  refine frozen_call f.timestamp rfl ?_
  rw [bind_assoc]
  refine frozen_attempt hmanifest ?_
  rw [bind_assoc, writeIteration, bind_assoc, post_get_bind, bind_assoc]
  have hanswer : f.answer site.rt w (.writeEvidence (evidenceDir base b).text manifest none) =
    Except.ok () := hwritten _ _ _
  refine frozen_call (Except.ok ()) hanswer ?_
  rw [bind_assoc]
  refine frozen_attempt rfl (frozen_attempt hrelative ?_)
  rw [bind_assoc, post_modify_bind, post_bind]
  refine frozen_append hpath' ?_
  refine frozen_touchAndSave ((validateState_eq_ok site.rt).mpr (hpersisted.valid hids)) ?_
  exact h _

/-- **The campaign pauses**, once it has begun. -/
theorem lockoutPause_succeeds {b : CampaignState} {ids : List String} {budget : SafetyBudget}
    {objectives : List Dict} (hids : GoodIds ids) (hb : Persisted site ids b)
    (hm : (Move.lockoutPause id evidence (moduleNameOf site configured)).Enabled site campaign
      openSurroundings (.start args) b)
    (hnow : timestampValid site.rt f.timestamp = true) (hsteps : args.maxSteps = none)
    (hbudget : budgetOf site p.limits args.scope b = .ok budget)
    (hbase : baseEvidence site args.scope = .ok base)
    (hraw : rawObjectives campaign = .ok objectives)
    (hordered : schedule site.rt objectives = .ok [configured])
    (hnamed : objectiveIdOf site.rt configured = .ok id) (hpending : id ∈ b.pendingModules)
    (hunreviewed : id ∉ b.reviewedObjectives)
    (hplain : hasCategory configured "sbom_review" = false)
    (hsignals : collectFuzzingStopSignals configured = [])
    (hlockout : panelLockoutRiskDetected configured = true) {manifest : Dict}
    (hmanifest : manifestOf site b args.scope configured f.timestamp id
      (lockoutManifest site configured) = .ok manifest)
    (hrelative : relativeEvidence site (evidenceDir base b) = .ok evidence)
    (hwritten : ∀ directory manifest record, f.evidence directory manifest record = .ok ())
    {w : World} {tr : List Step} :
    Post (f.monitor site.rt) (continueCampaign site args campaign p) b (fun r s₂ m =>
      r = .ok () ∧ s₂.currentStatus = .pausedForHumanReview ∧ s₂.currentObjectiveId = some id ∧
        s₂.campaignId = b.campaignId ∧ s₂.operatorAlias = b.operatorAlias ∧
        s₂.stateRevision = b.stateRevision + 2 ∧ m.1.checkpoint = some s₂) (w, tr) := by
  have hspent : stepsSpent args 0 = false := by simp [stepsSpent, hsteps]
  have hlocked := @lockedState_persisted site campaign f args id evidence ids b _ hids hb hm _ hnow
  unfold continueCampaign
  rw [post_get_bind]
  refine frozen_attempt hbudget (frozen_call f.clock rfl ?_)
  refine frozen_attempt hbase (frozen_attempt hraw (frozen_attempt hordered ?_))
  rw [runLoop, post_bind]
  refine frozen_attempt hnamed ?_
  rw [post_get_bind, if_pos hpending, prepareObjective, bind_assoc, post_get_bind,
    if_neg hunreviewed]
  dsimp only
  rw [hplain]
  dsimp only
  rw [post_pure_bind, hspent, if_neg (by simp), hsignals, if_neg (by simp), hlockout,
    if_pos (by simp [hunreviewed])]
  refine recordLockout_succeeds hids hb hm hnow hmanifest hrelative hwritten fun tr' => ?_
  -- the end of the invocation saves the paused state again
  dsimp only
  rw [finishInvocation, elapsed, bind_assoc]
  refine frozen_call f.clock rfl ?_
  rw [post_pure_bind, post_modify_bind, post_get_bind, if_neg (by rintro ⟨hrunning, -⟩; cases hrunning)]
  have helapsed : b.elapsedSeconds + (f.clock - f.clock) = b.elapsedSeconds := by simp
  rw [helapsed]
  have hvalid : validateState site.rt { ((lockedState site f b id evidence
      (moduleNameOf site configured)).savedAt f.timestamp) with lastUpdatedTime := f.timestamp } =
      .ok () := (validateState_eq_ok site.rt).mpr (hlocked.saved.valid hids)
  refine frozen_touchAndSave hvalid ⟨rfl, rfl, rfl, rfl, rfl, ?_, rfl⟩
  show b.stateRevision + 1 + 1 = b.stateRevision + 2
  omega

/-- **A campaign that comes to a pause** ends its first invocation in a paused checkpoint. -/
theorem Pausable.history (h : Pausable site f args campaign p s id configured base evidence) :
    ∃ b, History site campaign openSurroundings
        [(.start args, (f.call site campaign (.start args) World.empty).1)]
        (f.call site campaign (.start args) World.empty).2.2 ∧
      (f.call site campaign (.start args) World.empty).2.2.checkpoint = some b ∧
      b.currentStatus = .pausedForHumanReview ∧ b.currentObjectiveId = some id ∧
      b.campaignId = s.campaignId ∧ b.operatorAlias = s.operatorAlias ∧
      b.stateRevision = s.stateRevision + 3 := by
  have hbegin := h.beginnable
  have hnow := hbegin.timestamp
  obtain ⟨objectives, hshape⟩ := campaignShape_of_parse hbegin.parsed
  have hb : Persisted site (objectives.map rawId) ((startedState site f s).savedAt f.timestamp) :=
    (hbegin.persisted hshape _ hnow).saved
  obtain ⟨budget, hbudget⟩ := h.budget
  obtain ⟨objectives', hraw, hordered⟩ := h.ordered
  obtain ⟨manifest, hmanifest⟩ := h.manifest
  have hunreviewed : id ∉ ((startedState site f s).savedAt f.timestamp).reviewedObjectives := by
    show id ∉ s.reviewedObjectives
    simp [h.unreviewed]
  have hpost : Post (f.monitor site.rt) ((Call.start args).perform site campaign) ()
      (fun _ _ m => ∃ b, m.1.checkpoint = some b ∧ b.currentStatus = .pausedForHumanReview ∧
        b.currentObjectiveId = some id ∧ b.campaignId = s.campaignId ∧
        b.operatorAlias = s.operatorAlias ∧ b.stateRevision = s.stateRevision + 3)
      (World.empty, []) := by
    show Post _ (runCampaign site args campaign none) () _ _
    refine hbegin.begins hshape fun tr₁ _ => ?_
    refine post_mono (fun r s₂ m hm => ?_) (@lockoutPause_succeeds site campaign f args p id configured
      base evidence _ _ budget objectives' hshape.goodIds hb h.enabled hnow h.steps hbudget
      h.workspace hraw hordered h.named h.pending hunreviewed h.plain h.noSignals h.lockout manifest
      hmanifest h.relative h.written _ tr₁)
    obtain ⟨rfl, hpaused, hcurrent, hcampaign, hoperator, hrevision, hcheckpoint⟩ := hm
    refine ⟨s₂, hcheckpoint, hpaused, hcurrent, hcampaign, hoperator, ?_⟩
    have hstarted : ((startedState site f s).savedAt f.timestamp).stateRevision =
      s.stateRevision + 1 := rfl
    omega
  obtain ⟨b, hcheckpoint, hrest⟩ := Frozen.exec_of_post hpost
  exact ⟨b, History.frozen .nil f.within_open hnow (.start args), hcheckpoint, hrest⟩

end pausing

/-! ### A concrete campaign -/

/-- Whether a campaign of one objective comes to a pause before the objective is dispatched, with the
objective, the campaign and its operator. -/
def canPause (site : Site) (f : Frozen) (args : RunArgs) (campaign : Dict) :
    Except Exc (Bool × String × String × String) := do
  let p ← parseCampaign campaign
  let objectives ← rawObjectives campaign
  let ordered ← schedule site.rt objectives
  let ids ← idsOf site ordered
  let s ← initialState site args.scope campaign p f.timestamp f.scopeText ids
  let _ ← resolveEventLog site s
  let _ ← budgetOf site p.limits args.scope s
  let base ← baseEvidence site args.scope
  let _ ← relativeEvidence site (evidenceDir base s)
  match ordered with
  | [configured] =>
    let id ← objectiveIdOf site.rt configured
    let _ ← manifestOf site s args.scope configured f.timestamp id (lockoutManifest site configured)
    pure (decide (args.maxSteps = none) && timestampValid site.rt f.timestamp &&
      decide (id ∈ s.pendingModules) && !hasCategory configured "sbom_review" &&
      (collectFuzzingStopSignals configured).isEmpty && panelLockoutRiskDetected configured,
      id, s.campaignId, s.operatorAlias)
  | _ => pure (false, "", "", "")

theorem pausable_of_canPause {campaignId operatorAlias : String}
    (h : canPause site f args campaign = .ok (true, id, campaignId, operatorAlias))
    (hwritten : ∀ directory manifest record, f.evidence directory manifest record = .ok ()) :
    ∃ p s configured base evidence, Pausable site f args campaign p s id configured base evidence ∧
      s.campaignId = campaignId ∧ s.operatorAlias = operatorAlias ∧ s.stateRevision = 0 := by
  simp only [canPause, bind_eq_ok] at h
  obtain ⟨p, hp, objectives, hraw, ordered, hordered, ids, hids, s, hs, path, hpath, budget,
    hbudget, base, hbase, evidence, hrelative, h⟩ := h
  match ordered, h, hordered, hids with
  | [configured], h, hordered, hids =>
    simp only [bind_eq_ok] at h
    obtain ⟨id', hnamed, manifest, hmanifest, h⟩ := h
    simp only [pure, Except.pure, Except.ok.injEq, Prod.mk.injEq, Bool.and_eq_true,
      Bool.not_eq_true', decide_eq_true_eq, List.isEmpty_iff] at h
    obtain ⟨⟨⟨⟨⟨⟨hsteps, hnow⟩, hpending⟩, hplain⟩, hsignals⟩, hlockout⟩, rfl, hcampaign,
      hoperator⟩ := h
    have hnew : s.reviewedObjectives = [] ∧ s.stateRevision = 0 := by
      simp only [initialState, bind_eq_ok] at hs
      obtain ⟨_, -, _, -, hs⟩ := hs
      cases hs
      exact ⟨rfl, rfl⟩
    have hbegin : Beginnable site f args campaign p s :=
      ⟨hnow, hp, ⟨objectives, _, ids, hraw, hordered, hids, hs⟩, ⟨path, hpath⟩⟩
    exact ⟨p, s, configured, base, evidence, ⟨hbegin, hsteps, ⟨budget, hbudget⟩, hbase,
      ⟨objectives, hraw, hordered⟩, hnamed, hpending, hnew.1, hplain, hsignals, hlockout,
      ⟨manifest, hmanifest⟩, hrelative, hwritten⟩, hcampaign, hoperator, hnew.2⟩

/-- A panel objective with a lockout risk. -/
def lockoutObjective : Dict :=
  [("id", .str "admin-panel"), ("title", .str "Plan a panel observation"),
    ("module", .str "service_control_panel"), ("category", .str "service_control_panel"),
    ("action", .str "plan_panel_target_metadata"), ("target_alias", .str "local-placeholder"),
    ("priority", .int 10), ("depends_on", .arr []), ("requires_human_approval", .bool false),
    ("parameters", .obj [("request_budget", .int 0)]),
    ("panel_alias", .str "example-admin-panel"), ("panel_type", .str "admin_panel"),
    ("requested_observations", .arr [.str "login_exposure_metadata"]),
    ("safe_observation_only", .bool true), ("lockout_risk_detected", .bool true)]

/-- The arguments of an invocation with any number of steps. -/
def lockoutArgs : RunArgs := { scope := sampleScope }

/-- The digests of the campaign, its scope file, its first two events, and the events of two
decisions that may follow them. -/
def lockoutDigests : List (Json × String) :=
  let started := draftEvent sampleStart sampleWorld.uuid sampleTime
    { eventType := "campaign_started", outcome := "planned"
      details := [("campaign_definition_hash",
        .str "a4825dcaba28d0efcdbd20fcf5d5da4c5771807d75ec94e0806f661b0b55b4a7")] }
  let paused := draftEvent { sampleStart with
      events := [started]
      lastEventHash := some "988a08cf396eebb53dfffd2d72dd680b6bd44cb395fd0f2953bedcbfe96910b7" }
    sampleWorld.uuid sampleTime
    { eventType := "campaign_paused", iterationId := "0001", objectiveId := some "admin-panel"
      moduleName := some "service_control_panel"
      policyDecision := some "paused by authentication_lockout_risk"
      outcome := "paused_for_human_review"
      evidenceDirectory := some ".aotp/evidence/example-dry-run/0001"
      details := [("phase", .str "pre_execution"),
        ("stop_condition", .str "authentication_lockout_risk")] }
  let decided (id decision : String) := draftEvent { sampleStart with
      events := [started, paused]
      lastEventHash := some "59bd23ba876fa8b1fba04e8d6e78e4ea271c518b0b5ea6cafd063e7903019f94" }
    sampleWorld.uuid sampleTime
    { eventType := "review_decision", iterationId := "0001", objectiveId := some "admin-panel"
      outcome := decision, details := [("decision_id", .str id), ("phase", .str "pre_execution")] }
  [(.obj (sampleCampaign [lockoutObjective]),
      "a4825dcaba28d0efcdbd20fcf5d5da4c5771807d75ec94e0806f661b0b55b4a7"),
    (.obj sampleScope, "450721a8969b20df94f5d3c96c47d41163af5348e06de764ffeba89f096a7e37"),
    (started.payload, "988a08cf396eebb53dfffd2d72dd680b6bd44cb395fd0f2953bedcbfe96910b7"),
    (paused.payload, "59bd23ba876fa8b1fba04e8d6e78e4ea271c518b0b5ea6cafd063e7903019f94"),
    ((decided "decision-1" "approved").payload,
      "0d885a2f9d9ccc8f586b158f86795f0deffd67872abb4383b38c3f998d363b65"),
    ((decided "decision-2" "denied").payload,
      "533985e237ffe997f2f75659d4ea2549965955e7f8c77bf3427e9d9352d16d24")]

/-- The circumstances of the campaign. -/
def lockoutSite : Site := sampleSite lockoutDigests (by decide +kernel)

/-- The campaign comes to a pause. -/
theorem lockout_canPause :
    canPause lockoutSite sampleWorld lockoutArgs (sampleCampaign [lockoutObjective]) =
      .ok (true, "admin-panel", "example-dry-run", "example-operator") := by
  decide +kernel

end Aotp.Campaign
