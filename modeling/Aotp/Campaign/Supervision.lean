import Aotp.Campaign.Agreement
import Aotp.Campaign.Budgets
import Aotp.Campaign.Pausing
import Aotp.Gate.Objections

/-!
# Human approval

* `Milestone` — the kinds of events an objective has at most one of: a pause before it runs, a pause
  after it has run, an allowed result.
* `Milestone.Done` — what a state says of an objective that has come to one; `Milestone.fresh`,
  `Milestone.Done.after` — it does not come to it again.
* `Supervised` — in a state, no objective has come to a milestone twice, and whatever is reviewed has
  been approved by an event; `Reached.supervised` — **every state a campaign comes to is such**.
* `neverBypassed` — **what needs a human runs after its approval**, in every history whose invocations
  notice the panels at risk; `approval_bypassed` — one between blanks is not noticed, and runs.
-/

namespace Aotp.Campaign

open PyData Aotp.Gate Effects

/-! ### Milestones -/

/-- The value is the given text. -/
def isText : Json → String → Bool
  | .str s, t => s == t
  | _, _ => false

/-- The phase of a review that an event names. -/
def CampaignEvent.phase (e : CampaignEvent) : Json :=
  match e.details with
  | .obj m => dget m "phase"
  | _ => .null

/-- A human has approved the objective before it ran. -/
structure CampaignEvent.Approves (e : CampaignEvent) (id : String) : Prop where
  eventType : e.IsOf "review_decision"
  objectiveId : e.objectiveId = .str id
  outcome : e.outcome = .str "approved"
  phase : e.phase = .str "pre_execution"

/-- The kinds of events that an objective has at most one of. -/
inductive Milestone where
  | prePause
  | postPause
  | allowedResult

namespace Milestone

/-- Whether the type, the decision and the phase of an event make it one of the kind. -/
def marks : Milestone → Json → Json → Json → Bool
  | .prePause, eventType, _, phase =>
    isText eventType "campaign_paused" && isText phase "pre_execution"
  | .postPause, eventType, _, phase =>
    isText eventType "campaign_paused" && isText phase "post_execution"
  | .allowedResult, eventType, decision, _ =>
    isText eventType "objective_result" && isText decision "allowed"

/-- The objective that comes to the milestone with an event. -/
def idOf (k : Milestone) (e : CampaignEvent) : Option String :=
  match e.objectiveId with
  | .str id => if k.marks e.eventType e.policyDecision e.phase then some id else none
  | _ => none

/-- The objectives that have come to the milestone. -/
def ids (k : Milestone) (es : List CampaignEvent) : List String := es.filterMap k.idOf

/-- The objective that comes to the milestone with the event of some arguments. -/
def idOfArgs (k : Milestone) (a : EventArgs) : Option String :=
  if k.marks (.str a.eventType) (optText a.policyDecision) (dget a.details "phase")
    then a.objectiveId else none

/-- The objective that comes to the milestone with a move. -/
def reachedBy : Milestone → Move → Option String
  | .prePause, .result r => if humanGateOnly r.decision then some r.id else none
  | .postPause, .result r =>
    if r.decision.allowed ∧ r.outcome = .manualReview then some r.id else none
  | .allowedResult, .result r => if r.decision.summary = "allowed" then some r.id else none
  | .prePause, .lockoutPause id _ _ => some id
  | _, _ => none

variable {k : Milestone}

theorem idOf_records {e : CampaignEvent} {a : EventArgs} (h : e.Records a) :
    k.idOf e = k.idOfArgs a := by
  unfold idOf idOfArgs CampaignEvent.phase
  rw [h.objectiveId, h.eventType, h.policyDecision, h.details]
  cases a.objectiveId with
  | none =>
    show none = if _ then none else none
    split_ifs <;> rfl
  | some id => rfl

theorem ids_records {es : List CampaignEvent} {as : List EventArgs}
    (h : List.Forall₂ CampaignEvent.Records es as) : k.ids es = as.filterMap k.idOfArgs := by
  unfold ids
  induction h with
  | nil => rfl
  | cons hrecords _ ih => rw [List.filterMap_cons, List.filterMap_cons, idOf_records hrecords, ih]

theorem ids_append (es es' : List CampaignEvent) : k.ids (es ++ es') = k.ids es ++ k.ids es' :=
  List.filterMap_append

theorem denied_of_humanGateOnly {d : PolicyDecision} (h : humanGateOnly d = true) :
    d.allowed = false := by
  simp only [humanGateOnly, Bool.and_eq_true, Bool.not_eq_true'] at h
  exact h.1

theorem ids_resultEvents (b : CampaignState) (r : Dispatched) :
    (resultEvents b r).filterMap k.idOfArgs = (k.reachedBy (.result r)).toList := by
  unfold resultEvents
  cases k with
  | allowedResult =>
    by_cases hsummary : r.decision.summary = "allowed" <;> split_ifs <;>
      simp [idOfArgs, marks, isText, reachedBy, resultArgs, pauseArgs, optText, hsummary]
  | prePause =>
    by_cases hhuman : humanGateOnly r.decision = true
    · simp [idOfArgs, marks, isText, reachedBy, resultArgs, pauseArgs, hhuman, dget, dget?]
    · split_ifs <;>
        simp [idOfArgs, marks, isText, reachedBy, resultArgs, pauseArgs, hhuman, dget, dget?]
  | postPause =>
    by_cases hhuman : humanGateOnly r.decision = true
    · simp [idOfArgs, marks, isText, reachedBy, resultArgs, pauseArgs, hhuman,
        denied_of_humanGateOnly hhuman, dget, dget?]
    · cases hallowed : r.decision.allowed <;> by_cases hmanual : r.outcome = .manualReview <;>
        simp [idOfArgs, marks, isText, reachedBy, resultArgs, pauseArgs, hhuman, hallowed, hmanual,
          dget, dget?]

/-- The events of a move, as milestones. -/
theorem ids_events (m : Move) (b : CampaignState) :
    (m.events b).filterMap k.idOfArgs = (k.reachedBy m).toList := by
  cases m with
  | result r => exact ids_resultEvents b r
  | begin =>
    simp only [Move.events, startedEvents, resumedEvents]
    split_ifs <;> cases k <;> simp [idOfArgs, marks, isText, reachedBy]
  | finish =>
    simp only [Move.events]
    split_ifs <;> cases k <;> simp [idOfArgs, marks, isText, reachedBy]
  | dispatch id => cases k <;> rfl
  | _ => cases k <;> simp [Move.events, idOfArgs, marks, isText, reachedBy, dget, dget?]

end Milestone

/-! ### What is done -/

/-- The campaign is paused on the objective. -/
def CampaignState.PausedOn (s : CampaignState) (id : String) : Prop :=
  s.currentStatus = .pausedForHumanReview ∧ s.currentObjectiveId = some id

/-- **An objective that has come to a milestone** is pending no more, or the campaign is paused on
it; or it was paused before it ran, and has been reviewed since. -/
def Milestone.Done : Milestone → String → CampaignState → Prop
  | .prePause, id, s => id ∉ s.pendingModules ∨ id ∈ s.reviewedObjectives ∨ s.PausedOn id
  | _, id, s => id ∉ s.pendingModules ∨ s.PausedOn id ∧ s.reviewPhase = .str "post_execution"

namespace Milestone.Done

variable {k : Milestone} {ids : List String} {id id' : String} {b s : CampaignState}

theorem of_gone (h : id ∉ s.pendingModules) : k.Done id s := by
  cases k <;> exact .inl h

/-- The pending objectives become fewer and the reviewed ones more, while the campaign runs. -/
theorem kept (h : k.Done id b) (hb : ¬ b.PausedOn id)
    (hpending : s.pendingModules ⊆ b.pendingModules)
    (hreviewed : b.reviewedObjectives ⊆ s.reviewedObjectives) : k.Done id s := by
  cases k with
  | prePause =>
    rcases h with h | h | h
    · exact .inl fun hmem => h (hpending hmem)
    · exact .inr (.inl (hreviewed h))
    · exact absurd h hb
  | _ =>
    rcases h with h | ⟨h, -⟩
    · exact .inl fun hmem => h (hpending hmem)
    · exact absurd h hb

/-- The objective the campaign was at is pending no more. -/
theorem released (h : k.Done id b) (hb : Ledger ids b) (hids : GoodIds ids)
    (hcurrent : b.currentObjectiveId = some id')
    (hpending : s.pendingModules = b.pendingModules.erase id')
    (hreviewed : s.reviewedObjectives = b.reviewedObjectives) : k.Done id s := by
  by_cases hpaused : b.PausedOn id
  · obtain rfl : id' = id := Option.some.inj (hcurrent.symm.trans hpaused.2)
    refine of_gone ?_
    rw [hpending]
    exact hb.not_mem_erase hids id'
  · refine h.kept hpaused ?_ ?_
    · rw [hpending]
      exact List.erase_subset
    · rw [hreviewed]
      exact fun _ hmem => hmem

variable {site : Site} {campaign : Dict} {sur : Surroundings} {c : Call} {m : Move}

/-- A decision on the objective the campaign is paused on. -/
theorem reviewed (h : k.Done id b) (hb : Ledger ids b) (hids : GoodIds ids) {r : ReviewDecision}
    (hpaused : b.currentStatus = .pausedForHumanReview)
    (hcurrent : b.currentObjectiveId = some r.objectiveId) : k.Done id (b.reviewed r) := by
  rcases reviewed_cases (hb.settleable hpaused hcurrent) with ⟨-, hphase, h'⟩ | ⟨-, -, -, h'⟩ |
    ⟨-, -, h'⟩ | ⟨-, -, -, h'⟩ <;> rw [h']
  · -- approved to run: it stays pending, and is reviewed
    have hmem : b.reviewedObjectives ⊆ (b.approvedToRun r).reviewedObjectives ∧
        r.objectiveId ∈ (b.approvedToRun r).reviewedObjectives := by
      unfold CampaignState.approvedToRun
      dsimp only
      split_ifs with hin
      · exact ⟨fun _ hx => hx, hin⟩
      · exact ⟨List.subset_append_left _ _, List.mem_append_right _ (List.mem_singleton_self _)⟩
    by_cases hon : b.PausedOn id
    · obtain rfl : r.objectiveId = id := Option.some.inj (hcurrent.symm.trans hon.2)
      cases k with
      | prePause => exact .inr (.inl hmem.2)
      | _ =>
        rcases h with h | ⟨-, hpost⟩
        · exact .inl h
        · rw [hphase] at hpost
          exact absurd (Json.str.inj hpost) (by decide)
    · exact h.kept hon (fun _ hx => hx) hmem.1
  · exact h.released hb hids hcurrent rfl rfl
  · exact h.released hb hids hcurrent rfl rfl
  · exact h.released hb hids hcurrent rfl rfl

/-- **What is done stays done.** -/
theorem after (h : k.Done id b) (hb : Ledger ids b) (hids : GoodIds ids)
    (hm : m.Enabled site campaign sur c b) : k.Done id (m.after b) := by
  have hrunning (hs : b.currentStatus = .running) : ¬ b.PausedOn id := by
    rintro ⟨hp, -⟩
    rw [hs] at hp
    cases hp
  cases m with
  | begin =>
    refine h.kept ?_ (fun _ hx => hx) (fun _ hx => hx)
    rintro ⟨hp, -⟩
    rcases hm.2.1 with hs | hs | hs <;> · rw [hs] at hp; cases hp
  | dispatch id' =>
    obtain ⟨_, _, _, -, hcleared⟩ := hm
    exact h.kept (hrunning hcleared.head.running) (fun _ hx => hx) (fun _ hx => hx)
  | result r =>
    obtain ⟨_, _, _, -, hcleared, -⟩ := hm
    have hnot := hrunning hcleared.head.running
    simp only [Move.after]
    rcases settled_cases b r with ⟨-, h'⟩ | ⟨-, -, h'⟩ | ⟨-, -, h'⟩ | ⟨-, -, h'⟩ <;> rw [h']
    · exact h.kept hnot (fun _ hx => hx) (fun _ hx => hx)
    · exact h.kept hnot (List.erase_subset) (fun _ hx => hx)
    · exact h.kept hnot (fun _ hx => hx) (fun _ hx => hx)
    · exact h.kept hnot (List.erase_subset) (fun _ hx => hx)
  | fuzzingStop id' evidence signals =>
    obtain ⟨_, _, -, hhead, -⟩ := hm
    exact h.kept (hrunning hhead.running) (List.erase_subset) (fun _ hx => hx)
  | lockoutPause id' evidence moduleName =>
    obtain ⟨_, _, -, hhead, -⟩ := hm
    exact h.kept (hrunning hhead.running) (fun _ hx => hx) (fun _ hx => hx)
  | budgetStop id' evidence moduleName reason =>
    obtain ⟨_, _, _, -, hhead, -⟩ := hm
    exact h.kept (hrunning hhead.running) (List.erase_subset) (fun _ hx => hx)
  | finish =>
    simp only [Move.after]
    split_ifs with hdone
    · refine of_gone ?_
      show id ∉ b.pendingModules
      rw [hdone.2]
      exact List.not_mem_nil
    · exact h
  | review r => exact h.reviewed hb hids hm.2.1 hm.2.2.2
  | stop =>
    simp only [Move.after]
    cases hcurrent : b.currentObjectiveId with
    | none =>
      refine h.kept ?_ ?_ (fun _ hx => hx)
      · rintro ⟨-, hc⟩
        rw [hcurrent] at hc
        cases hc
      · simp [CampaignState.operatorStopped, CampaignState.hasCurrent, isAbsent, hcurrent]
    | some id' =>
      refine h.released hb hids hcurrent ?_ rfl
      simp [CampaignState.operatorStopped, CampaignState.hasCurrent, isAbsent, hcurrent,
        hb.current_ne_empty hids hcurrent]

end Milestone.Done

/-! ### The objective at hand -/

section

variable {site : Site} {campaign : Dict} {sur : Surroundings} {c : Call} {b s : CampaignState}
  {m : Move} {k : Milestone} {p : CampaignDefinition} {objectives : List Dict} {id : String}
  {objective configured : Dict} {reviewed : List String}

/-- The objective a campaign comes to is one of its own, as an invocation sees it. -/
theorem Head.of_campaign (h : Head site campaign sur b id objective)
    (hshape : CampaignShape campaign p objectives) :
    ∃ o ∈ objectives, rawId o = id ∧ Prepared sur b.reviewedObjectives id o objective := by
  obtain ⟨objectives', ordered, o, hraw, hschedule, hnext, hprepared⟩ := h.next
  obtain rfl : objectives' = objectives := Except.ok.inj (hraw.symm.trans hshape.raw)
  obtain ⟨-, hmem, hid⟩ := nextObjective_mem hnext
  have ho : o ∈ objectives' := (schedule_perm hschedule (hshape.rawIds_nodup site.rt)).subset hmem
  obtain ⟨q, -, hq⟩ := hshape.shape_of_mem ho
  exact ⟨o, ho, Except.ok.inj ((hq.objectiveIdOf site.rt).symm.trans hid), hprepared⟩

/-- **It is marked as approved** exactly when it has been reviewed. -/
theorem Prepared.reviewed_iff (h : Prepared sur reviewed id configured objective)
    {q : CampaignObjective} (hq : ObjectiveShape configured q) :
    (dget objective "human_approved").truthy = true ↔ id ∈ reviewed := by
  have hsame : dget objective "human_approved" =
      dget (marked reviewed id configured) "human_approved" := by
    unfold Prepared at h
    split at h
    · obtain ⟨path, -, rfl⟩ := h
      exact dget_dset_of_ne _ _ (by decide)
    · rw [h]
  rw [hsame, marked]
  split_ifs with hid
  · simp [hid, Json.truthy]
  · simp [hid, hq.absent (show "human_approved" ∉ objectiveFields by decide), Json.truthy]

theorem Cleared.not_paused {args : RunArgs} {budget : SafetyBudget}
    (h : Cleared site campaign sur args b id objective budget) (id' : String) :
    ¬ b.PausedOn id' := by
  rintro ⟨hpaused, -⟩
  rw [h.head.running] at hpaused
  cases hpaused

/-- **An objective that comes to a milestone has not come to it before.** -/
theorem Milestone.fresh (hm : m.Enabled site campaign sur c b)
    (hshape : CampaignShape campaign p objectives) (h : k.reachedBy m = some id) :
    ¬ k.Done id b := by
  cases m with
  | result r =>
    obtain ⟨args, objective, budget, -, hcleared, hdispatches⟩ := hm
    have hpending := hcleared.head.pending
    cases k with
    | prePause =>
      simp only [reachedBy] at h
      split_ifs at h with hgate
      obtain rfl := Option.some.inj h
      rintro (hgone | hreviewed | hpaused)
      · exact hgone hpending
      · -- the gate does not ask again
        obtain ⟨snapshot, -, hdecision⟩ := hdispatches.decided
        obtain ⟨o, ho, -, hprepared⟩ := hcleared.head.of_campaign hshape
        obtain ⟨q, -, hq⟩ := hshape.shape_of_mem ho
        simp only [humanGateOnly, Bool.and_eq_true, beq_iff_eq] at hgate
        have hasked := (humanApproval_asked hdecision hgate.2).2
        rw [(hprepared.reviewed_iff hq).mpr hreviewed] at hasked
        cases hasked
      · exact hcleared.not_paused _ hpaused
    | _ =>
      simp only [reachedBy] at h
      split_ifs at h
      obtain rfl := Option.some.inj h
      rintro (hgone | ⟨hpaused, -⟩)
      · exact hgone hpending
      · exact hcleared.not_paused _ hpaused
  | lockoutPause id' evidence moduleName =>
    obtain ⟨args, objective, -, hhead, -, -, -, hunreviewed, -⟩ := hm
    cases k with
    | prePause =>
      obtain rfl := Option.some.inj h
      rintro (hgone | hreviewed | ⟨hpaused, -⟩)
      · exact hgone hhead.pending
      · exact hunreviewed hreviewed
      · rw [hhead.running] at hpaused
        cases hpaused
    | _ => cases h
  | _ => cases k <;> cases h

/-- **It is done with it then.** -/
theorem Milestone.done_of_reached {ids : List String} (hm : m.Enabled site campaign sur c b)
    (hb : Ledger ids b) (hids : GoodIds ids) (h : k.reachedBy m = some id) :
    k.Done id (m.after b) := by
  cases m with
  | result r =>
    obtain ⟨args, objective, budget, -, -, hdispatches⟩ := hm
    have hcurrent := hdispatches.current
    obtain ⟨snapshot, -, hdecision⟩ := hdispatches.decided
    have hgate (hallowed : r.decision.allowed = true) : humanGateOnly r.decision ≠ true := by
      intro hgate
      rw [denied_of_humanGateOnly hgate] at hallowed
      cases hallowed
    simp only [Move.after]
    cases k with
    | prePause =>
      simp only [reachedBy] at h
      split_ifs at h with hasked
      obtain rfl := Option.some.inj h
      rcases settled_cases b r with ⟨-, h'⟩ | ⟨hnot, -⟩ | ⟨hallowed, -⟩ | ⟨hallowed, -⟩
      · rw [h']
        exact .inr (.inr ⟨rfl, hcurrent⟩)
      · rw [hasked] at hnot
        cases hnot
      · exact absurd hasked (hgate hallowed)
      · exact absurd hasked (hgate hallowed)
    | postPause =>
      simp only [reachedBy] at h
      split_ifs at h with hmanual
      obtain rfl := Option.some.inj h
      rcases settled_cases b r with ⟨hasked, -⟩ | ⟨-, hdenied, -⟩ | ⟨-, -, h'⟩ | ⟨-, hother, -⟩
      · exact absurd hasked (hgate hmanual.1)
      · rw [hmanual.1] at hdenied
        cases hdenied
      · rw [h']
        exact .inr ⟨⟨rfl, hcurrent⟩, rfl⟩
      · exact absurd hmanual.2 hother
    | allowedResult =>
      simp only [reachedBy] at h
      split_ifs at h with hsaid
      obtain rfl := Option.some.inj h
      have hallowed : r.decision.allowed = true := (summary_eq_allowed hdecision).mp hsaid
      rcases settled_cases b r with ⟨hasked, -⟩ | ⟨-, hdenied, -⟩ | ⟨-, -, h'⟩ | ⟨-, -, h'⟩
      · exact absurd hasked (hgate hallowed)
      · rw [hallowed] at hdenied
        cases hdenied
      · rw [h']
        exact .inr ⟨⟨rfl, hcurrent⟩, rfl⟩
      · rw [h']
        exact .inl (hb.not_mem_erase hids r.id)
  | lockoutPause id' evidence moduleName =>
    cases k with
    | prePause =>
      obtain rfl := Option.some.inj h
      exact .inr (.inr ⟨rfl, rfl⟩)
    | _ => cases h
  | _ => cases k <;> cases h

end

/-! ### Supervised states -/

/-- **What human supervision leaves in a state.** -/
structure Supervised (s : CampaignState) : Prop where
  once : ∀ k : Milestone, (k.ids s.events).Nodup
  done : ∀ (k : Milestone), ∀ id ∈ k.ids s.events, k.Done id s
  approved : ∀ id ∈ s.reviewedObjectives, ∃ e ∈ s.events, e.Approves id

section

variable {site : Site} {campaign : Dict} {sur : Surroundings} {c : Call} {b s : CampaignState}
  {m : Move} {p : CampaignDefinition} {objectives : List Dict} {id : String}

/-- Only a decision makes an objective reviewed: one that approves it before it runs. -/
theorem Move.Enabled.reviewed (hm : m.Enabled site campaign sur c b) {ids : List String}
    (hb : Ledger ids b) (hid : id ∈ (m.after b).reviewedObjectives) :
    id ∈ b.reviewedObjectives ∨ ∃ r, m = .review r ∧ r.decision = "approved" ∧
      r.objectiveId = id ∧ b.reviewPhase = .str "pre_execution" := by
  cases m with
  | result r =>
    simp only [Move.after] at hid
    rcases settled_cases b r with ⟨-, h'⟩ | ⟨-, -, h'⟩ | ⟨-, -, h'⟩ | ⟨-, -, h'⟩ <;>
      rw [h'] at hid <;> exact .inl hid
  | finish =>
    simp only [Move.after] at hid
    split_ifs at hid <;> exact .inl hid
  | review r =>
    simp only [Move.after] at hid
    rcases reviewed_cases (hb.settleable hm.2.1 hm.2.2.2) with ⟨hyes, hphase, h'⟩ | ⟨-, -, -, h'⟩ |
      ⟨-, -, h'⟩ | ⟨-, -, -, h'⟩ <;> rw [h'] at hid
    · by_cases hbefore : id ∈ b.reviewedObjectives
      · exact .inl hbefore
      · refine .inr ⟨r, rfl, hyes, ?_, hphase⟩
        unfold CampaignState.approvedToRun at hid
        dsimp only at hid
        split_ifs at hid
        · exact absurd hid hbefore
        · rcases List.mem_append.mp hid with hid | hid
          · exact absurd hid hbefore
          · exact (List.mem_singleton.mp hid).symm
    · exact .inl hid
    · exact .inl hid
    · exact .inl hid
  | _ => exact .inl hid

/-- **Every enabled move keeps a state supervised.** -/
theorem Supervised.moved (hb : Supervised b) (hledger : Ledger (objectives.map rawId) b)
    (hshape : CampaignShape campaign p objectives) (hm : m.Enabled site campaign sur c b)
    (h : Moved site sur m b s) : Supervised s := by
  obtain ⟨es, hash, now, elapsed, revision, rfl, hes, -⟩ := h.spec
  have hnew (k : Milestone) : k.ids es = (k.reachedBy m).toList := by
    rw [Milestone.ids_records hes, Milestone.ids_events]
  refine ⟨fun k => ?_, fun k id hid => ?_, fun id hid => ?_⟩
  · show (k.ids (b.events ++ es)).Nodup
    rw [Milestone.ids_append, hnew, List.nodup_append']
    refine ⟨hb.once k, ?_, ?_⟩
    · cases k.reachedBy m <;> simp
    · intro id hbefore hreached
      exact Milestone.fresh hm hshape (Option.mem_toList.mp hreached) (hb.done k id hbefore)
  · have hlater : k.Done id (m.after b) := by
      have hsplit : id ∈ k.ids b.events ++ k.ids es := by
        rw [← Milestone.ids_append]
        exact hid
      rcases List.mem_append.mp hsplit with hbefore | hreached
      · exact (hb.done k id hbefore).after hledger hshape.goodIds hm
      · rw [hnew] at hreached
        exact Milestone.done_of_reached hm hledger hshape.goodIds (Option.mem_toList.mp hreached)
    cases k <;> exact hlater
  · rcases hm.reviewed hledger hid with hbefore | ⟨r, rfl, hyes, rfl, hphase⟩
    · obtain ⟨e, he, happroves⟩ := hb.approved id hbefore
      exact ⟨e, List.mem_append_left _ he, happroves⟩
    · obtain ⟨e, he, hrecords⟩ := forall₂_exists hes.flip (List.mem_singleton_self _)
      refine ⟨e, List.mem_append_right _ he, hrecords.eventType, hrecords.objectiveId, ?_, ?_⟩
      · rw [hrecords.outcome, hyes]
      · unfold CampaignEvent.phase
        rw [hrecords.details, ← hphase]
        rfl

/-- **Every state a campaign comes to is supervised.** -/
theorem Reached.supervised (h : Reached site campaign sur s)
    (hshape : CampaignShape campaign p objectives) : Supervised s := by
  induction h with
  | initial h =>
    have hevents : _ = [] := h.events
    obtain ⟨_, _, _, _, _, _, _, -, -, -, -, -, h⟩ := h
    simp only [initialState, bind_eq_ok] at h
    obtain ⟨_, -, _, -, h⟩ := h
    cases h
    exact ⟨fun k => List.nodup_nil, fun k id hid => absurd hid List.not_mem_nil,
      fun id hid => absurd hid List.not_mem_nil⟩
  | moved hb hm h ih => exact ih.moved (hb.coherent hshape).ledger hshape hm h

end

/-! ### Histories -/

/-- A control panel that would lock its accounts. -/
structure AtRisk (o : Dict) : Prop where
  panel : ∃ s, dget o "module" = .str s ∧ strip s = "service_control_panel"
  lockout : dget o "lockout_risk_detected" = .bool true

/-- A human has to approve the objective before the invocation may run it. -/
def NeedsApproval (args : RunArgs) (o : Dict) : Prop :=
  dget o "requires_human_approval" = .bool true ∧ args.live = false ∨ AtRisk o

/-- The result of a dispatch that the gate allowed. -/
structure CampaignEvent.AllowedResult (e : CampaignEvent) (id : String) : Prop where
  eventType : e.IsOf "objective_result"
  objectiveId : e.objectiveId = .str id
  policyDecision : e.policyDecision = .str "allowed"

/-- **Human approval is never bypassed**: an objective that needs it has an allowed result only after
an approval, and every objective comes to a milestone at most once. -/
structure NeverBypassed (objectives : List Dict) (hist : List (Call × List Step)) : Prop where
  approvedFirst : ∀ hist₁ c args tr₁ e res tr₂ hist₂ o,
    hist = hist₁ ++ (c, tr₁ ++ ⟨.appendLog e, res⟩ :: tr₂) :: hist₂ → c.args? = some args →
    o ∈ objectives → e.AllowedResult (rawId o) → NeedsApproval args o →
      ∃ e' ∈ appendsOf (stepsOf hist₁ ++ tr₁), e'.Approves (rawId o)
  once : ∀ k : Milestone, (k.ids (appendsOf (stepsOf hist))).Nodup

/-- Where the loop or the gate of a scope sees that a panel is at risk: its module or its category is
written as the loop looks for it, or the gate denies its category as it is written. -/
def Noticed (scope o : Dict) : Prop :=
  panelLockoutRiskDetected o = true ∨ categoryReasons scope o ≠ .ok []

section

variable {site : Site} {campaign : Dict} {sur : Surroundings} {c : Call} {b : CampaignState}
  {p : CampaignDefinition} {objectives : List Dict} {args : RunArgs} {r : Dispatched} {o : Dict}

/-- **What is dispatched and allowed has been reviewed**, where it has to be. -/
theorem reviewed_of_dispatched (hm : (Move.result r).Enabled site campaign sur c b)
    (hshape : CampaignShape campaign p objectives) (hc : c.args? = some args)
    (hsaid : r.decision.summary = "allowed") (ho : o ∈ objectives) (hid : rawId o = r.id)
    (hneeds : NeedsApproval args o) (hnoticed : AtRisk o → Noticed args.scope o) :
    r.id ∈ b.reviewedObjectives := by
  obtain ⟨args', objective, budget, hc', hcleared, hdispatches⟩ := hm
  obtain rfl : args' = args := Option.some.inj (hc'.symm.trans hc)
  obtain ⟨o', ho', hid', hprepared⟩ := hcleared.head.of_campaign hshape
  obtain rfl : o' = o := by
    have hnodup : (objectives.map rawId).Nodup := hshape.ids_nodup
    exact List.inj_on_of_nodup_map hnodup ho' ho (hid'.trans hid.symm)
  obtain ⟨q, -, hq⟩ := hshape.shape_of_mem ho
  obtain ⟨snapshot, -, hdecision⟩ := hdispatches.decided
  have hallowed : r.decision.allowed = true := (summary_eq_allowed hdecision).mp hsaid
  obtain ⟨_, -, hdry, -⟩ := evaluate_allows site.rt hdecision hallowed
  obtain ⟨target, hclear⟩ := dryReasons_eq_nil site.rt hdry
  rcases hneeds with ⟨hrequires, hdryRun⟩ | hrisk
  · -- the gate has not asked for a human
    have happroval := hclear.ofApproval
    simp only [approvalReasons, reasonWhen_eq_nil] at happroval
    rw [hprepared.dget_eq (by decide) (by decide), hrequires] at happroval
    refine (hprepared.reviewed_iff hq).mp ?_
    simpa [Json.truthy, gateInput, hdryRun] using happroval
  · rcases hnoticed hrisk with hseen | hlisted
    · refine hcleared.noLockout ?_
      unfold panelLockoutRiskDetected isPanel at hseen ⊢
      simpa only [hprepared.dget_eq (show "module" ≠ "human_approved" by decide) (by decide),
        hprepared.dget_eq (show "category" ≠ "human_approved" by decide) (by decide),
        hprepared.dget_eq (show "lockout_risk_detected" ≠ "human_approved" by decide) (by decide)]
        using hseen
    · -- the gate has let the category pass
      have hcategory := hclear.ofCategory
      refine absurd ?_ hlisted
      unfold categoryReasons categoryOf at hcategory ⊢
      simpa only [hprepared.dget_eq (show "module" ≠ "human_approved" by decide) (by decide),
        hprepared.dget_eq (show "category" ≠ "human_approved" by decide) (by decide)] using hcategory

/-- Only a review appends a decision. -/
theorem Ran.review_of_decision {w : World} {tr : List Step} {res : Except Exc CampaignState × Unit}
    (h : Ran site campaign sur c w tr (.pure res)) (hshape : CampaignShape campaign p objectives)
    (hw : AtRest site (objectives.map rawId) w) {e : CampaignEvent} (he : e ∈ appendsOf tr)
    (htype : e.IsOf "review_decision") : ∃ data, c = .review data := by
  obtain ⟨u, hstep⟩ := mem_appendsOf_iff.mp he
  obtain ⟨tr₁, tr₂, rfl⟩ := List.append_of_mem hstep
  obtain ⟨b, m, a, -, hm, ha, hrecords⟩ := h.recorded hshape hw
  obtain ⟨r, rfl⟩ := Move.review_of_mem ha (hrecords.isOf.mp htype)
  obtain ⟨⟨data, hdata, -⟩, -⟩ := hm
  exact ⟨data, hdata⟩

/-- **Human approval is never bypassed** in a history whose invocations notice every panel at risk. -/
theorem neverBypassed (hp : parseCampaign campaign = .ok p)
    (hraw : rawObjectives campaign = .ok objectives) {hist : List (Call × List Step)} {w : World}
    (h : History site campaign sur hist w)
    (hnoticed : ∀ x ∈ hist, ∀ args, x.1.args? = some args → ∀ o ∈ objectives, AtRisk o →
      Noticed args.scope o) :
    NeverBypassed objectives hist := by
  obtain ⟨objectives', hshape⟩ := campaignShape_of_parse hp
  obtain rfl : objectives' = objectives := Except.ok.inj (hshape.raw.symm.trans hraw)
  refine ⟨?_, fun k => ?_⟩
  · intro hist₁ c args tr₁ e res tr₂ hist₂ o hhist hc ho he hneeds
    obtain ⟨w₁, end₁, hist', ran⟩ := h.split hhist
    have hw := hist'.atRest hshape
    obtain ⟨b, m, a, horigin, hm, ha, hrecords⟩ := ran.recorded hshape hw
    obtain ⟨r, rfl, rfl⟩ := Move.result_of_mem ha (hrecords.isOf.mp he.eventType)
    have hid : rawId o = r.id := by
      have hsame := he.objectiveId.symm.trans hrecords.objectiveId
      exact Json.str.inj hsame
    have hsaid : r.decision.summary = "allowed" := by
      have hsame := he.policyDecision.symm.trans hrecords.policyDecision
      exact (Json.str.inj hsame).symm
    have hreviewed := reviewed_of_dispatched hm hshape hc hsaid ho hid hneeds
      (hnoticed _ (by rw [hhist]; exact List.mem_append_right _ List.mem_cons_self) args hc o ho)
    -- the state has been approved by an event of the log, which the history has written
    obtain ⟨q, hcut⟩ := ran.cut
    obtain ⟨-, hallowed, -⟩ := hcut.conforms hshape hw
    have hreached := horigin.reached (reached_of_allowed hallowed (hist'.reached hshape))
    obtain ⟨e', he', happroves⟩ := (hreached.supervised hshape).approved r.id hreviewed
    refine ⟨e', ?_, hid ▸ happroves⟩
    have hwritten := written_of_allowed hallowed
    rw [World.written, ← hist'.appends_committed hshape, ← appendsOf_append] at hwritten
    rw [← hwritten]
    refine List.mem_append_left _ ?_
    unfold Progress.committed
    rcases horigin with hbase | ⟨hbase, hinitial⟩
    · rw [hbase]
      exact he'
    · have hempty : b.events = [] := hinitial.events
      rw [hempty] at he'
      cases he'
  · rw [h.appends_committed hshape]
    unfold Progress.committed World.progress
    cases hcheckpoint : w.checkpoint with
    | none => exact List.nodup_nil
    | some b => exact ((h.reached hshape b hcheckpoint).supervised hshape).once k

end

/-! ### A panel between blanks -/

/-- The panel at risk, with a blank before its module and its category. -/
def paddedObjective : Dict :=
  dset (dset lockoutObjective "module" (.str " service_control_panel")) "category"
    (.str " service_control_panel")

/-- An invocation whose scope lists the category in the same way. -/
def paddedArgs : RunArgs :=
  { scope := dset sampleScope "allowed_categories" (.arr [.str " service_control_panel"]) }

/-- The steps of the invocation, what it returns, and the files it leaves. -/
def paddedCall : List Step × (Except Exc CampaignState × Unit) × World :=
  sampleWorld.call (sampleSite [] noDigests_hex) (sampleCampaign [paddedObjective]) (.start paddedArgs)
    World.empty

/-- The gate allows the panel. -/
theorem padded_runs :
    ((appendsOf paddedCall.1).any fun e => isText e.eventType "objective_result" &&
      isText e.objectiveId "admin-panel" && isText e.policyDecision "allowed") = true := by
  decide +kernel

theorem isText_iff {v : Json} {t : String} : isText v t = true ↔ v = .str t := by
  cases v <;> simp [isText]

/-- The panel runs without an approval. -/
theorem approval_bypassed :
    ¬ ∀ (site : Site) (campaign : Dict) (sur : Surroundings) (p : CampaignDefinition)
        (objectives : List Dict) (hist : List (Call × List Step)) (w : World),
      parseCampaign campaign = .ok p → rawObjectives campaign = .ok objectives →
        History site campaign sur hist w → NeverBypassed objectives hist := by
  intro hclaim
  obtain ⟨p, hp⟩ : ∃ p, parseCampaign (sampleCampaign [paddedObjective]) = .ok p := by
    have haccepted : (parseCampaign (sampleCampaign [paddedObjective])).toOption.isSome := by
      decide +kernel
    cases hp : parseCampaign (sampleCampaign [paddedObjective]) with
    | error e => simp [hp, Except.toOption] at haccepted
    | ok p => exact ⟨p, rfl⟩
  have hnow : timestampValid (sampleSite [] rfl).rt sampleWorld.timestamp = true := by decide +kernel
  have hist : History (sampleSite [] rfl) (sampleCampaign [paddedObjective]) openSurroundings
      [(.start paddedArgs, paddedCall.1)] _ :=
    History.frozen .nil sampleWorld.within_open hnow (.start paddedArgs)
  have hnever := hclaim _ _ _ p [paddedObjective] _ _ hp rfl hist
  obtain ⟨e, he, hmarks⟩ := List.any_eq_true.mp padded_runs
  simp only [Bool.and_eq_true, isText_iff] at hmarks
  obtain ⟨⟨htype, hid⟩, hallowed⟩ := hmarks
  obtain ⟨u, hstep⟩ := mem_appendsOf_iff.mp he
  obtain ⟨tr₁, tr₂, hsplit⟩ := List.append_of_mem hstep
  obtain ⟨e', he', happroves⟩ := hnever.approvedFirst [] (.start paddedArgs) paddedArgs tr₁ e u tr₂
    [] paddedObjective (by rw [hsplit]; rfl) rfl List.mem_cons_self ⟨htype, hid, hallowed⟩
    (.inr ⟨⟨_, rfl, by decide +kernel⟩, rfl⟩)
  -- a start appends no decision
  obtain ⟨objectives, hshape⟩ := campaignShape_of_parse hp
  have hmem : e' ∈ appendsOf paddedCall.1 := by
    rw [hsplit, appendsOf_append]
    exact List.mem_append_left _ he'
  obtain ⟨data, hdata⟩ := (Frozen.ran sampleWorld.within_open hnow (.start paddedArgs)
    World.empty).1.review_of_decision hshape .empty hmem happroves.eventType
  cases hdata

/-- The panel at risk whose module is written as the loop looks for it. -/
theorem neverBypassed_lockout : NeverBypassed [lockoutObjective]
    [(.start lockoutArgs, (sampleWorld.call lockoutSite (sampleCampaign [lockoutObjective])
      (.start lockoutArgs) World.empty).1)] := by
  obtain ⟨p, s, configured, base, evidence, hpausable, -⟩ :=
    pausable_of_canPause lockout_canPause fun _ _ _ => rfl
  have hbegin := hpausable.beginnable
  have hist : History lockoutSite (sampleCampaign [lockoutObjective]) openSurroundings _ _ :=
    History.frozen .nil sampleWorld.within_open hbegin.timestamp (.start lockoutArgs)
  refine neverBypassed hbegin.parsed rfl hist ?_
  intro x hx args hargs o ho _
  rw [List.mem_singleton.mp ho]
  exact .inl (by decide +kernel)

end Aotp.Campaign
