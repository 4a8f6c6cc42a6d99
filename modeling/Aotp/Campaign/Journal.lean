import Aotp.Campaign.Checkpoints

/-!
# What is written at a moment of a history

* `Reached` — the states enabled moves lead to from a new campaign; `Reached.coherent`.
* `stepsOf`, `checkpointAt` — a history as one trace, and the checkpoint after a part of it.
* `Commit.recorded`, `Ran.recorded` — an appended event is one of a move that is enabled in the
  checkpoint of that moment.
* `History.moment` — a moment of a history is a moment of one of its calls.
* `History.recorded`, `History.result` — **whatever a history appends, and the results it appends**.
-/

namespace Aotp.Campaign

open PyData Aotp.Gate Effects HashChain

variable (site : Site) (campaign : Dict) (sur : Surroundings)

/-- **The states a campaign can come to.** -/
inductive Reached : CampaignState → Prop
  | initial {b : CampaignState} (h : Initial site campaign b) : Reached b
  | moved {c : Call} {m : Move} {b s : CampaignState} (hb : Reached b)
      (hm : m.Enabled site campaign sur c b) (h : Moved site sur m b s) : Reached s

/-- The steps of a history, in order. -/
def stepsOf (hist : List (Call × List Step)) : List Step := hist.flatMap Prod.snd

/-- The checkpoint that is on disk after some steps from a world without files. -/
def checkpointAt (tr : List Step) : Option CampaignState :=
  ((world site.rt).run World.empty tr).checkpoint

variable {site campaign sur} {c : Call} {g : Progress} {w : World} {p : CampaignDefinition}
  {objectives : List Dict} {tr tr₁ tr₂ : List Step} {s : CampaignState}

theorem Initial.status (h : Initial site campaign s) : s.currentStatus = .planned := by
  obtain ⟨_, _, _, _, _, _, _, -, -, -, -, -, h⟩ := h
  simp only [initialState, bind_eq_ok] at h
  obtain ⟨_, -, _, -, h⟩ := h
  cases h
  rfl

theorem Reached.coherent (h : Reached site campaign sur s)
    (hshape : CampaignShape campaign p objectives) : Coherent site (objectives.map rawId) s := by
  induction h with
  | initial h => exact h.coherent hshape
  | moved hb hm h ih => exact (ih.moved hshape.goodIds hm h).toCoherent

/-! ### The events of one call -/

theorem Progress.Origin.reached {b : CampaignState} (h : g.Origin site campaign b)
    (hg : ∀ b, g.base = some b → Reached site campaign sur b) : Reached site campaign sur b := by
  rcases h with hbase | ⟨-, hinitial⟩
  · exact hg b hbase
  · exact .initial hinitial

/-- What a call writes is reached. -/
theorem reached_of_allowed (ha : (commits site campaign sur c).Allowed g tr)
    (hg : ∀ b, g.base = some b → Reached site campaign sur b) :
    ∀ b, ((commits site campaign sur c).run g tr).base = some b → Reached site campaign sur b := by
  induction tr generalizing g with
  | nil => exact hg
  | cons step tr ih =>
    obtain ⟨o, r⟩ := step
    obtain ⟨hallowed, hrest⟩ := ha
    refine ih hrest ?_
    cases o with
    | saveCheckpoint s =>
      cases r with
      | error e => exact hg
      | ok u =>
        obtain ⟨b, m, horigin, hm, hmoved, -⟩ := hallowed
        intro b' hb'
        cases hb'
        exact .moved (horigin.reached hg) hm hmoved.saved
    | _ => exact hg

/-- An event has been written for a move that is enabled in the state the next checkpoint is
derived from. -/
def Recorded (site : Site) (campaign : Dict) (sur : Surroundings) (c : Call) (g : Progress)
    (e : CampaignEvent) : Prop :=
  ∃ b m a, g.Origin site campaign b ∧ Move.Enabled site campaign sur c b m ∧ a ∈ m.events b ∧
    e.Records a

/-- A commit accounts for every event appended before it. -/
theorem Commit.recorded (h : Commit site campaign sur c g s) {e : CampaignEvent}
    (he : e ∈ g.pending) : Recorded site campaign sur c g e := by
  obtain ⟨b, m, horigin, hm, hmoved, hevents⟩ := h
  obtain ⟨es, hash, now, elapsed, revision, heq, hrecords, -⟩ := hmoved.spec
  have hsame : s.events = b.events ++ es := by rw [heq]
  have hes : es = g.pending := List.append_cancel_left (hsame.symm.trans hevents)
  subst hes
  obtain ⟨a, ha, hrecord⟩ := forall₂_exists hrecords he
  exact ⟨b, m, a, horigin, hm, ha, hrecord⟩

/-- A call that comes to rest accounts for every event it has appended. -/
theorem recorded_of_pending (ha : (commits site campaign sur c).Allowed g tr)
    (hend : ((commits site campaign sur c).run g tr).pending = []) {e : CampaignEvent}
    (he : e ∈ g.pending) : Recorded site campaign sur c g e := by
  induction tr generalizing g with
  | nil =>
    have hnil : g.pending = [] := hend
    rw [hnil] at he
    cases he
  | cons step tr ih =>
    obtain ⟨o, r⟩ := step
    obtain ⟨hallowed, hrest⟩ := ha
    cases o with
    | saveCheckpoint s => exact Commit.recorded hallowed he
    | appendLog e' =>
      have hlater : Recorded site campaign sur c (g.push e') e :=
        ih hrest hend (List.mem_append_left _ he)
      exact hlater
    | clock =>
      have hlater : Recorded site campaign sur c (g.tick r) e := ih hrest hend he
      exact hlater
    | _ => exact ih hrest hend he

/-- **Every event a call appends** is one of a move that is enabled in the checkpoint of that
moment. -/
theorem Ran.recorded {e : CampaignEvent} {r : Res (.appendLog e)}
    {res : Except Exc CampaignState × Unit}
    (h : Ran site campaign sur c w (tr₁ ++ ⟨.appendLog e, r⟩ :: tr₂) (.pure res))
    (hshape : CampaignShape campaign p objectives) (hw : AtRest site (objectives.map rawId) w) :
    Recorded site campaign sur c ((commits site campaign sur c).run w.progress tr₁) e := by
  obtain ⟨-, hallowed, hend, -⟩ := h.conforms hshape hw
  have hpending : ((commits site campaign sur c).run w.progress
      (tr₁ ++ ⟨.appendLog e, r⟩ :: tr₂)).pending = [] := by
    obtain ⟨res | res, u⟩ := res
    · exact hend
    · exact hend.1.pending
  rw [Monitor.run_append] at hpending
  obtain ⟨-, hrest⟩ := (Monitor.allowed_append _).mp hallowed
  exact recorded_of_pending hrest.2 hpending (List.mem_append_right _ (List.mem_singleton_self e))

/-! ### Moments of a history -/

/-- What the checkpoint holds is reached. -/
theorem History.reached {hist : List (Call × List Step)} (h : History site campaign sur hist w)
    (hshape : CampaignShape campaign p objectives) :
    ∀ b, w.checkpoint = some b → Reached site campaign sur b := by
  induction h with
  | nil => exact fun b hb => nomatch hb
  | snoc hist ran ih =>
    intro b hb
    obtain ⟨-, hallowed, -, htracks⟩ := ran.conforms hshape (hist.atRest hshape)
    refine reached_of_allowed hallowed ih b ?_
    exact htracks.checkpoint.symm.trans hb

theorem History.world {hist : List (Call × List Step)} (h : History site campaign sur hist w) :
    (Campaign.world site.rt).run World.empty (stepsOf hist) = w := by
  induction h with
  | nil => rfl
  | snoc hist ran ih =>
    rw [stepsOf, List.flatMap_append, Monitor.run_append]
    have hw := ih
    rw [stepsOf] at hw
    rw [hw]
    simp

/-- A history up to one of its calls is a history, in whose world the call ran. -/
theorem History.split {hist hist₁ hist₂ : List (Call × List Step)} {x : Call × List Step}
    (h : History site campaign sur hist w) (hhist : hist = hist₁ ++ x :: hist₂) :
    ∃ w₁ res, History site campaign sur hist₁ w₁ ∧ Ran site campaign sur x.1 w₁ x.2 (.pure res) := by
  induction h generalizing hist₂ with
  | nil => simp at hhist
  | @snoc hist w c tr res hist' ran ih =>
    rcases List.eq_nil_or_concat hist₂ with rfl | ⟨hist₃, y, rfl⟩
    · obtain ⟨rfl, hx⟩ := List.append_inj' hhist rfl
      obtain rfl := List.singleton_inj.mp hx
      exact ⟨w, res, hist', ran⟩
    · rw [List.concat_eq_append, ← List.cons_append, ← List.append_assoc] at hhist
      exact ih (List.append_inj' hhist rfl).1

/-- **A moment of a history is a moment of one of its calls**, which ran in a world at rest. -/
theorem History.moment {hist : List (Call × List Step)} (h : History site campaign sur hist w)
    (hshape : CampaignShape campaign p objectives) {step : Step}
    (hsteps : stepsOf hist = tr₁ ++ step :: tr₂) :
    ∃ c w' tr tr' res, AtRest site (objectives.map rawId) w' ∧
      (∀ b, w'.checkpoint = some b → Reached site campaign sur b) ∧
      Ran site campaign sur c w' (tr ++ step :: tr') (.pure res) ∧
      (Campaign.world site.rt).run World.empty tr₁ = (Campaign.world site.rt).run w' tr := by
  induction h generalizing tr₂ with
  | nil =>
    have hnil : ([] : List Step) = tr₁ ++ step :: tr₂ := hsteps
    simp at hnil
  | @snoc hist w c tr res hist' ran ih =>
    have hsplit : stepsOf hist ++ tr = tr₁ ++ step :: tr₂ := by
      rw [← hsteps, stepsOf, stepsOf, List.flatMap_append]
      simp
    rcases List.append_eq_append_iff.mp hsplit with ⟨tr', htr₁, htr⟩ | ⟨tr', hhist, hrest⟩
    · -- the moment is one of the last call
      subst htr₁
      rw [htr] at ran
      refine ⟨c, w, tr', tr₂, res, hist'.atRest hshape, hist'.reached hshape, ran, ?_⟩
      rw [Monitor.run_append, hist'.world]
    · cases tr' with
      | nil =>
        rw [List.append_nil] at hhist
        rw [List.nil_append] at hrest
        subst hrest
        refine ⟨c, w, [], tr₂, res, hist'.atRest hshape, hist'.reached hshape, ran, ?_⟩
        rw [← hhist, hist'.world]
        rfl
      | cons step' tr' =>
        rw [List.cons_append, List.cons.injEq] at hrest
        obtain ⟨rfl, -⟩ := hrest
        exact ih hhist

/-- **Whatever a history appends** is an event of a move that is enabled in the checkpoint of that
moment, or in the state of a new campaign when there is none. -/
theorem History.recorded {hist : List (Call × List Step)} (h : History site campaign sur hist w)
    (hshape : CampaignShape campaign p objectives) {e : CampaignEvent} {r : Res (.appendLog e)}
    (hsteps : stepsOf hist = tr₁ ++ ⟨.appendLog e, r⟩ :: tr₂) :
    ∃ c b m a, Reached site campaign sur b ∧
      (checkpointAt site tr₁ = some b ∨ checkpointAt site tr₁ = none ∧ Initial site campaign b) ∧
      Move.Enabled site campaign sur c b m ∧ a ∈ m.events b ∧ e.Records a := by
  obtain ⟨c, w', tr, tr', res, hw', hreached, ran, hworld⟩ := h.moment hshape hsteps
  obtain ⟨b, m, a, horigin, hm, ha, hrecords⟩ := ran.recorded hshape hw'
  obtain ⟨q, hcut⟩ := ran.cut
  obtain ⟨-, hallowed, -, htracks⟩ := hcut.conforms hshape hw'
  have hbase : checkpointAt site tr₁ =
      ((commits site campaign sur c).run w'.progress tr).base := by
    rw [checkpointAt, hworld]
    exact htracks.checkpoint
  refine ⟨c, b, m, a, horigin.reached (reached_of_allowed hallowed hreached), ?_, hm, ha, hrecords⟩
  rw [hbase]
  exact horigin

/-- **Every checkpoint of a history is reached.** -/
theorem History.saves_reached {hist : List (Call × List Step)}
    (h : History site campaign sur hist w) (hshape : CampaignShape campaign p objectives)
    (hs : s ∈ savesOf (stepsOf hist)) : Reached site campaign sur s := by
  obtain ⟨tr₁, tr₂, t, u, hsteps, rfl⟩ := mem_savesOf hs
  obtain ⟨c, w', tr, tr', res, hw', hreached, ran, -⟩ := h.moment hshape hsteps
  obtain ⟨⟨b, m, horigin, hm, hmoved, -⟩, -⟩ := ran.saves hshape hw'
  obtain ⟨q, hcut⟩ := ran.cut
  obtain ⟨-, hallowed, -⟩ := hcut.conforms hshape hw'
  exact .moved (horigin.reached (reached_of_allowed hallowed hreached)) hm hmoved.saved

/-! ### Results -/

/-- An event of the given type. -/
def CampaignEvent.IsOf (e : CampaignEvent) (eventType : String) : Prop :=
  e.eventType = .str eventType

theorem CampaignEvent.Records.isOf {e : CampaignEvent} {a : EventArgs} (h : e.Records a)
    {eventType : String} : e.IsOf eventType ↔ a.eventType = eventType := by
  unfold CampaignEvent.IsOf
  rw [h.eventType]
  simp

/-- **What a move appends**: the result of a dispatch, a decision of a review, or neither. -/
theorem Move.cases_of_mem {m : Move} {b : CampaignState} {a : EventArgs} (ha : a ∈ m.events b) :
    (∃ r, m = .result r ∧ a = resultArgs b r) ∨ (∃ r, m = .review r) ∨
      a.eventType ≠ "objective_result" ∧ a.eventType ≠ "review_decision" := by
  cases m with
  | result r =>
    rcases List.mem_cons.mp ha with rfl | ha
    · exact .inl ⟨r, rfl, rfl⟩
    · refine .inr (.inr ?_)
      split_ifs at ha
      · rw [List.mem_singleton.mp ha]
        simp [pauseArgs]
      · cases ha
      · rw [List.mem_singleton.mp ha]
        simp [pauseArgs]
      · cases ha
  | review r => exact .inr (.inl ⟨r, rfl⟩)
  | begin =>
    refine .inr (.inr ?_)
    simp only [Move.events, startedEvents, resumedEvents] at ha
    split_ifs at ha <;> simp at ha <;> rcases ha with rfl | rfl <;> simp
  | dispatch id => cases ha
  | finish =>
    refine .inr (.inr ?_)
    simp only [Move.events] at ha
    split_ifs at ha
    · rw [List.mem_singleton.mp ha]
      simp
    · cases ha
  | _ =>
    refine .inr (.inr ?_)
    rw [List.mem_singleton.mp ha]
    simp

/-- Only a dispatch appends a result. -/
theorem Move.result_of_mem {m : Move} {b : CampaignState} {a : EventArgs} (ha : a ∈ m.events b)
    (htype : a.eventType = "objective_result") : ∃ r, m = .result r ∧ a = resultArgs b r := by
  rcases Move.cases_of_mem ha with hresult | ⟨r, rfl⟩ | ⟨hnot, -⟩
  · exact hresult
  · rw [List.mem_singleton.mp ha] at htype
    simp at htype
  · exact absurd htype hnot

/-- Only a review appends a decision. -/
theorem Move.review_of_mem {m : Move} {b : CampaignState} {a : EventArgs} (ha : a ∈ m.events b)
    (htype : a.eventType = "review_decision") : ∃ r, m = .review r := by
  rcases Move.cases_of_mem ha with ⟨r, rfl, rfl⟩ | hreview | ⟨-, hnot⟩
  · simp [resultArgs] at htype
  · exact hreview
  · exact absurd htype hnot

/-- **A result is appended** for an objective that is dispatched from the checkpoint of that
moment. -/
theorem History.result {hist : List (Call × List Step)} (h : History site campaign sur hist w)
    (hshape : CampaignShape campaign p objectives) {e : CampaignEvent} {res : Res (.appendLog e)}
    (hsteps : stepsOf hist = tr₁ ++ ⟨.appendLog e, res⟩ :: tr₂) (he : e.IsOf "objective_result") :
    ∃ c b r, Reached site campaign sur b ∧ checkpointAt site tr₁ = some b ∧
      (Move.result r).Enabled site campaign sur c b ∧ e.Records (resultArgs b r) := by
  obtain ⟨c, b, m, a, hreached, hat, hm, ha, hrecords⟩ := h.recorded hshape hsteps
  obtain ⟨r, rfl, rfl⟩ := Move.result_of_mem ha (hrecords.isOf.mp he)
  refine ⟨c, b, r, hreached, ?_, hm, hrecords⟩
  rcases hat with hat | ⟨-, hinitial⟩
  · exact hat
  · -- a new campaign does not run yet
    obtain ⟨args, objective, budget, -, hcleared, -⟩ := hm
    have hplanned := hinitial.status
    rw [hcleared.head.running] at hplanned
    cases hplanned

end Aotp.Campaign
