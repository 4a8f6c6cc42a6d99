import Aotp.Campaign.Pausing
import Aotp.Campaign.Reviews

/-!
# Two reviews at once

Two presentations of review documents that name the same checkpoint, interleaved step by step.

* `Ready`, `review_trace` — the steps of a review that writes: what it has read before it appends,
  and that it reads nothing afterwards.
* `Blind` — one of them does not see what the other writes; `Blind.legal` — **its steps are then
  those of a review alone**.
* `review_accepts` — a review alone that has nothing to object to writes.
* `Blind.of_first`, `blind_of_seen` — if both write, neither has seen the other.
* `conflictingReviews_iff` — **when at most one takes effect**.
-/

namespace Aotp.Campaign

open PyData Aotp.Gate Effects HashChain

/-! ### The steps of a review -/

/-- The decision fits the checkpoint, at the instant `now`.
Source: `campaign_control.apply_review_decision`, the checks after the digest and before it -/
structure Fits (rt : Runtime) (b : CampaignState) (r : ReviewDecision) (now : ℤ) : Prop where
  decided : ∃ t, parseTime rt r.decidedAtUtc = .ok t ∧ t ≤ now
  campaign : r.campaignId = b.campaignId
  objective : b.currentObjectiveId = some r.objectiveId
  operator : r.operatorAlias = b.operatorAlias

/-- The steps of a review until it appends its event: the checkpoint it has loaded is paused, its log
compares, the digest is the one the decision names, and the decision fits. -/
structure Ready (site : Site) (data : Dict) (b : CampaignState) (r : ReviewDecision) (f : LogFile)
    (tr : List Step) : Prop where
  steps : ∃ f₀ o u t, tr = [⟨.loadCheckpoint, some b⟩, ⟨.readLog, f₀⟩, ⟨.readLog, f⟩, ⟨.observe, o⟩,
    ⟨.checkpointSha256, .ok r.stateSha256⟩, ⟨.uuid4, u⟩, ⟨.utcNow, t⟩] ∧ Fits site.rt b r o.now
  parsed : parseReviewDecision data = .ok r
  paused : b.currentStatus = .pausedForHumanReview
  compared : compareTail b f = .ok []

/-- Steps that read neither file: the time, and saves. -/
def Settling (tr : List Step) : Prop := ∀ x ∈ tr, x.1 = .utcNow ∨ ∃ s, x.1 = .saveCheckpoint s

/-- The steps of a review that writes. -/
def Writes (site : Site) (data : Dict) (b : CampaignState) (r : ReviewDecision) (f : LogFile)
    (tr : List Step) : Prop :=
  ∃ pre e rest, Ready site data b r f pre ∧ Settling rest ∧ tr = pre ++ ⟨.appendLog e, ()⟩ :: rest

/-- The monitor that remembers the steps. -/
def recorder : Monitor Op Res (List Step) where
  allowed _ _ := True
  legal _ _ _ := True
  next m o r := m ++ [⟨o, r⟩]

theorem recorder_run (m tr : List Step) : recorder.run m tr = m ++ tr := by
  induction tr generalizing m with
  | nil => simp
  | cons x tr ih =>
    rw [Monitor.run_cons, ih]
    simp [recorder]

theorem recorder_legal (m tr : List Step) : recorder.Legal m tr := by
  induction tr generalizing m with
  | nil => trivial
  | cons x tr ih => exact ⟨trivial, ih _⟩

section steps

variable {site : Site} {data : Dict} {b : CampaignState} {r : ReviewDecision} {f : LogFile}
  {tr : List Step}

theorem Ready.effects (h : Ready site data b r f tr) : effectsOf tr = [] := by
  obtain ⟨f₀, o, u, t, rfl, -⟩ := h.steps
  rfl

theorem Settling.append {tr' : List Step} (h : Settling tr) (h' : Settling tr') :
    Settling (tr ++ tr') := by
  intro x hx
  rcases List.mem_append.mp hx with hx | hx
  · exact h x hx
  · exact h' x hx

/-- The review has appended its event, and saved nothing yet. -/
def Appended (site : Site) (data : Dict) (b : CampaignState) (r : ReviewDecision) (f : LogFile)
    (_ : CampaignState) (m : List Step) : Prop :=
  ∃ pre e rest, Ready site data b r f pre ∧ Settling rest ∧ effectsOf rest = [] ∧
    m = pre ++ ⟨.appendLog e, ()⟩ :: rest

theorem appended_modify (g : CampaignState → CampaignState) :
    Keeps recorder (Appended site data b r f) (modify g : Code CampaignState Unit) :=
  keeps_modify fun _ _ h => h

theorem stopObjective_appended (id : String) (status : Status) :
    Keeps recorder (Appended site data b r f) (stopObjective id status) := by
  unfold stopObjective
  apply keeps_get_bind
  intro s _
  exact keeps_bind (keeps_attempt _) fun _ => appended_modify _

/-- Deciding where the objective goes takes no steps. -/
theorem settleReview_appended (review : ReviewDecision) (phase : Json) :
    Keeps recorder (Appended site data b r f) (settleReview review phase) := by
  unfold settleReview approveObjective approvePhase
  apply keeps_ite
  · apply keeps_bind
    · apply keeps_get_bind
      intro s _
      refine keeps_ite (appended_modify _) (keeps_ite ?_ (keeps_throw _))
      exact keeps_bind (keeps_attempt _) fun _ => appended_modify _
    · intro _
      exact appended_modify _
  · refine keeps_ite (stopObjective_appended _ _) ?_
    exact keeps_bind (appended_modify _) fun _ => stopObjective_appended _ _

/-- How a review ends: it has raised and written nothing, or it has appended its event; and if it
has saved too, it returns. -/
def ReviewEnd {α : Type} (site : Site) (data : Dict) (res : Except Exc α) (m : List Step) : Prop :=
  ((∃ e, res = .error e) ∧ effectsOf m = []) ∨
    ∃ b r f pre e rest, Ready site data b r f pre ∧ Settling rest ∧
      m = pre ++ ⟨.appendLog e, ()⟩ :: rest ∧ ((∃ s, res = .ok s) ∨ effectsOf rest = [])

/-- The save that ends a review. -/
theorem touchAndSave_appended {s : CampaignState} {m : List Step}
    (h : Appended site data b r f s m) :
    Post recorder touchAndSave s (fun res _ m' => ReviewEnd site data res m') m := by
  obtain ⟨pre, e, rest, hready, hsettling, hquiet, rfl⟩ := h
  unfold touchAndSave touch saveState
  rw [bind_assoc]
  refine post_call_bind trivial fun now _ => ?_
  rw [post_modify_bind, post_get_bind]
  refine post_call_bind trivial fun written _ => ?_
  -- what follows the event is the time and the save
  have htail : Settling (rest ++ [⟨.utcNow, now⟩, ⟨.saveCheckpoint { s with lastUpdatedTime := now },
      written⟩]) := by
    refine hsettling.append ?_
    intro x hx
    rcases List.mem_cons.mp hx with rfl | hx
    · exact Or.inl rfl
    · rw [List.mem_singleton.mp hx]
      exact Or.inr ⟨_, rfl⟩
  refine post_attempt_bind (fun _ _ => ?_) fun e' hwritten => ?_
  · refine Or.inr ⟨b, r, f, pre, e, _, hready, htail, ?_, Or.inl ⟨(), rfl⟩⟩
    simp [recorder]
  · refine Or.inr ⟨b, r, f, pre, e, _, hready, htail, ?_, Or.inr ?_⟩
    · simp [recorder]
    · rw [effectsOf_append, hquiet, hwritten]
      rfl

/-- The append of a review that is ready. -/
theorem appendDecision_appended {s : CampaignState} {a : EventArgs} {m : List Step}
    (hready : ∀ u t, Ready site data b r f (m ++ [⟨.uuid4, u⟩, ⟨.utcNow, t⟩]))
    {α : Type} {k : Unit → Code CampaignState α}
    {Q : Except Exc α → CampaignState → List Step → Prop}
    (hok : ∀ s' m', Appended site data b r f s' m' → Post recorder (k ()) s' Q m')
    (herror : ∀ e m', effectsOf m' = [] → Q (.error e) s m') :
    Post recorder (appendCampaignEvent site a >>= k) s Q m := by
  unfold appendCampaignEvent
  rw [bind_assoc, post_get_bind, bind_assoc]
  refine post_call_bind trivial fun u _ => ?_
  rw [bind_assoc]
  refine post_call_bind trivial fun t _ => ?_
  have hready := hready u t
  rw [bind_assoc]
  refine post_attempt_bind (fun _ _ => ?_) fun e _ => herror e _ ?_
  swap
  · simpa [recorder] using hready.effects
  rw [bind_assoc]
  refine post_call_bind trivial fun _ _ => ?_
  rw [post_modify_bind]
  have hnone : Settling [] := by
    intro x hx
    cases hx
  refine hok _ _ ⟨_, nextEvent site.rt s u t a, [], hready, hnone, rfl, ?_⟩
  simp [recorder]

theorem applyReviewDecision_trace (b : CampaignState) :
    Post recorder (applyReviewDecision site data) b (fun res _ m => ReviewEnd site data res m)
      [⟨.loadCheckpoint, some b⟩] := by
  have herror (e : Exc) (m : List Step) (hm : effectsOf m = []) :
      ReviewEnd site data (.error e : Except Exc Unit) m := Or.inl ⟨⟨e, rfl⟩, hm⟩
  unfold applyReviewDecision
  rw [post_get_bind]
  refine post_attempt_bind (fun _ hpaused => ?_) fun e _ => herror e _ rfl
  unfold verifyStateEventLog
  rw [bind_assoc]
  refine post_attempt_bind (fun path _ => ?_) fun e _ => herror e _ rfl
  rw [bind_assoc]
  refine post_call_bind trivial fun f₀ _ => ?_
  rw [bind_assoc]
  refine post_attempt_bind (fun failures₀ _ => ?_) fun e _ => herror e _ rfl
  -- without failures on its own the log is read again, and compared
  cases hempty : failures₀.isEmpty with
  | false =>
    rw [if_neg (by simp), post_pure_bind, requireVerified, hempty]
    refine post_attempt_bind (fun _ hnone => ?_) fun e _ => herror e _ rfl
    cases hnone
  | true =>
    rw [if_pos rfl, bind_assoc]
    refine post_call_bind trivial fun f _ => ?_
    refine post_attempt_bind (fun failures hcompared => ?_) fun e _ => herror e _ rfl
    unfold requireVerified
    refine post_attempt_bind (fun _ hverified => ?_) fun e _ => herror e _ rfl
    refine post_attempt_bind (fun r hparsed => ?_) fun e _ => herror e _ rfl
    unfold checkReview
    rw [bind_assoc, post_get_bind, bind_assoc]
    refine post_call_bind trivial fun o _ => ?_
    rw [bind_assoc]
    refine post_attempt_bind (fun t hdecided => ?_) fun e _ => herror e _ rfl
    rw [bind_assoc]
    refine post_attempt_bind (fun _ htime => ?_) fun e _ => herror e _ rfl
    rw [bind_assoc]
    refine post_call_bind trivial fun answer _ => ?_
    rw [bind_assoc]
    refine post_attempt_bind (fun digest hdigest => ?_) fun e _ => herror e _ rfl
    rw [bind_assoc]
    refine post_attempt_bind (fun _ hmatches => ?_) fun e _ => herror e _ rfl
    rw [bind_assoc]
    refine post_attempt_bind (fun _ hcampaign => ?_) fun e _ => herror e _ rfl
    rw [bind_assoc]
    refine post_attempt_bind (fun _ hobjective => ?_) fun e _ => herror e _ rfl
    refine post_attempt_bind (fun _ hoperator => ?_) fun e _ => herror e _ rfl
    -- every check has passed
    simp only [guardE_eq_ok, Bool.and_eq_true, beq_iff_eq, decide_eq_true_eq, List.isEmpty_iff]
      at hpaused hverified htime hmatches hcampaign hobjective hoperator
    have hfits : Fits site.rt b r o.now :=
      ⟨⟨t, hdecided, htime⟩, hcampaign, hobjective.symm, hoperator⟩
    rw [hdigest, ← hmatches]
    rw [post_modify_bind]
    have hready (u t : String) : Ready site data b r f ([⟨.loadCheckpoint, some b⟩, ⟨.readLog, f₀⟩,
        ⟨.readLog, f⟩, ⟨.observe, o⟩, ⟨.checkpointSha256, .ok r.stateSha256⟩] ++
          [⟨.uuid4, u⟩, ⟨.utcNow, t⟩]) :=
      ⟨⟨f₀, o, u, t, rfl, hfits⟩, hparsed, hpaused.1, hverified ▸ hcompared⟩
    refine appendDecision_appended hready (fun s' m' happended => ?_) fun e m' hm => herror e m' hm
    refine post_seq _ (settleReview_appended _ _ s' m' happended) (fun _ s'' m'' h => ?_) ?_
    · exact touchAndSave_appended h
    · rintro e s'' m'' ⟨pre, event, rest, hready, hsettling, hquiet, rfl⟩
      exact Or.inr ⟨b, r, f, pre, event, rest, hready, hsettling, rfl, Or.inr hquiet⟩

/-- **The steps of a review**, whatever it is answered: it raises and has written nothing, or it was
ready when it appended its event, and has read nothing since. -/
theorem review_trace (campaign : Dict) :
    Post recorder ((Call.review data).perform site campaign) ()
      (fun res _ m => ReviewEnd site data res m) [] := by
  show Post recorder (onLoaded (applyReviewDecision site data)) () _ []
  unfold onLoaded loadState
  rw [bind_assoc]
  refine post_call_bind trivial fun b _ => ?_
  cases b with
  | none => exact Or.inl ⟨⟨_, rfl⟩, rfl⟩
  | some b =>
    dsimp only
    rw [post_pure_bind]
    apply post_within
    refine post_mono (fun res s' m h => ?_) (applyReviewDecision_trace b)
    rcases h with ⟨⟨e, rfl⟩, hm⟩ | ⟨b', r, f, pre, e, rest, hready, hsettling, hm, hend⟩
    · exact Or.inl ⟨⟨e, rfl⟩, hm⟩
    · cases res with
      | error e' =>
        refine Or.inr ⟨b', r, f, pre, e, rest, hready, hsettling, hm, Or.inr ?_⟩
        exact hend.resolve_left nofun
      | ok u => exact Or.inr ⟨b', r, f, pre, e, rest, hready, hsettling, hm, Or.inl ⟨s', rfl⟩⟩

/-- A review to its end, as a list of steps. -/
theorem reviewEnd_of_reach {campaign : Dict} {res : Except Exc CampaignState × Unit}
    (h : Reach (Proc.start ((Call.review data).perform site campaign) ()) tr (.pure res)) :
    ReviewEnd site data res.1 tr := by
  obtain ⟨-, hend⟩ := wp_sound recorder (review_trace campaign) h (recorder_legal [] tr)
  rw [recorder_run] at hend
  exact hend

end steps

/-! ### What one sees of the other -/

/-- The operations that read the event log. -/
def Op.ReadsLog : Op → Prop
  | .readLog => True
  | .logExists => True
  | _ => False

/-- The operations that read the checkpoint. -/
def Op.ReadsCheckpoint : Op → Prop
  | .loadCheckpoint => True
  | .checkpointExists => True
  | .checkpointSha256 => True
  | _ => False

/-- **The first of two interleaved calls does not see what the second writes**: whenever it reads the
log the other has appended nothing, and whenever it reads the checkpoint the other has saved
nothing. -/
structure Blind (l : List (Step ⊕ Step)) : Prop where
  log : ∀ l₁ o r l₂, l = l₁ ++ .inl ⟨o, r⟩ :: l₂ → o.ReadsLog → appendsOf (right l₁) = []
  checkpoint : ∀ l₁ o r l₂, l = l₁ ++ .inl ⟨o, r⟩ :: l₂ → o.ReadsCheckpoint →
    savesOf (right l₁) = []

/-- The same interleaving, told from the other side. -/
def swapped (l : List (Step ⊕ Step)) : List (Step ⊕ Step) := l.map Sum.swap

section blind

variable {site : Site} {l l₁ l₂ : List (Step ⊕ Step)} {w : World} {tr : List Step}

@[simp] theorem swapped_append (l l' : List (Step ⊕ Step)) :
    swapped (l ++ l') = swapped l ++ swapped l' := List.map_append

@[simp] theorem swapped_swapped (l : List (Step ⊕ Step)) : swapped (swapped l) = l := by
  simp [swapped, Function.comp_def]

@[simp] theorem left_swapped (l : List (Step ⊕ Step)) : left (swapped l) = right l := by
  simp only [swapped, left, right, List.filterMap_map]
  congr 1
  funext x
  cases x <;> rfl

@[simp] theorem right_swapped (l : List (Step ⊕ Step)) : right (swapped l) = left l := by
  simp only [swapped, left, right, List.filterMap_map]
  congr 1
  funext x
  cases x <;> rfl

@[simp] theorem merged_swapped (l : List (Step ⊕ Step)) : merged (swapped l) = merged l := by
  simp only [swapped, merged, List.map_map]
  congr 1
  funext x
  cases x <;> rfl

/-- What only the first one does is done in the order it does it. -/
theorem filterMap_merged {γ : Type} (g : Step → Option γ) (h : (right l).filterMap g = []) :
    (merged l).filterMap g = (left l).filterMap g := by
  induction l with
  | nil => rfl
  | cons x l ih =>
    cases x with
    | inl x =>
      have hrest := ih h
      show (x :: merged l).filterMap g = (x :: left l).filterMap g
      rw [List.filterMap_cons, List.filterMap_cons, hrest]
    | inr x =>
      have hcons : (x :: right l).filterMap g = [] := h
      rw [List.filterMap_eq_nil_iff] at hcons
      have hnone : g x = none := hcons x List.mem_cons_self
      have hrest := ih (List.filterMap_eq_nil_iff.mpr fun y hy => hcons y (List.mem_cons_of_mem _ hy))
      show (x :: merged l).filterMap g = (left l).filterMap g
      rw [List.filterMap_cons_none hnone, hrest]

theorem appendsOf_merged (h : appendsOf (right l) = []) : appendsOf (merged l) = appendsOf (left l) := by
  unfold appendsOf effectsOf at h ⊢
  rw [List.filterMap_filterMap] at h ⊢
  rw [List.filterMap_filterMap]
  exact filterMap_merged _ h

theorem savesOf_merged (h : savesOf (right l) = []) : savesOf (merged l) = savesOf (left l) := by
  unfold savesOf effectsOf at h ⊢
  rw [List.filterMap_filterMap] at h ⊢
  rw [List.filterMap_filterMap]
  exact filterMap_merged _ h

/-- The log depends on what has been appended only. -/
theorem run_log (tr : List Step) : ((world site.rt).run w tr).log =
    (appendsOf tr).foldl (fun f e => f.append e.line) w.log := by
  rw [world_run]
  unfold appendsOf
  generalize effectsOf tr = effects
  induction effects generalizing w with
  | nil => rfl
  | cons x effects ih =>
    rw [List.foldl_cons, ih]
    cases x with
    | append e => rfl
    | save s => rfl

/-- The checkpoint depends on what has been saved only. -/
theorem run_checkpoint (tr : List Step) : ((world site.rt).run w tr).checkpoint =
    (savesOf tr).foldl (fun _ s => some s) w.checkpoint := by
  rw [world_run]
  unfold savesOf
  generalize effectsOf tr = effects
  induction effects generalizing w with
  | nil => rfl
  | cons x effects ih =>
    rw [List.foldl_cons, ih]
    cases x with
    | append e => rfl
    | save s => rfl

/-- The log a call has left, if only it has appended. -/
theorem run_log_left (h : appendsOf (right l) = []) :
    ((world site.rt).run w (merged l)).log = ((world site.rt).run w (left l)).log := by
  rw [run_log, run_log, appendsOf_merged h]

/-- The checkpoint a call has left, if only it has saved. -/
theorem run_checkpoint_left (h : savesOf (right l) = []) :
    ((world site.rt).run w (merged l)).checkpoint = ((world site.rt).run w (left l)).checkpoint := by
  rw [run_checkpoint, run_checkpoint, savesOf_merged h]

theorem Blind.of_append (h : Blind (l₁ ++ l₂)) : Blind l₁ := by
  refine ⟨fun a o r z hl => ?_, fun a o r z hl => ?_⟩
  · exact h.log a o r (z ++ l₂) (by rw [hl]; simp)
  · exact h.checkpoint a o r (z ++ l₂) (by rw [hl]; simp)

/-- Whether the log is there depends on the log alone. -/
theorem legal_logExists {rt : Runtime} {w w' : World} (h : w.log = w'.log) {r : Res .logExists}
    (hlegal : (world rt).legal w .logExists r) : (world rt).legal w' .logExists r := by
  cases w
  cases w'
  cases h
  exact hlegal

/-- **A call that is blind to the other one runs as if it were alone.** -/
theorem Blind.legal (h : Blind l) (hlegal : (world site.rt).Legal w (merged l)) :
    (world site.rt).Legal w (left l) := by
  induction l using List.reverseRecOn with
  | nil => trivial
  | append_singleton l x ih =>
    rw [merged_append] at hlegal
    obtain ⟨hbefore, hnow⟩ := (Monitor.legal_append _).mp hlegal
    have halone := ih h.of_append hbefore
    rw [left_append]
    refine (Monitor.legal_append _).mpr ⟨halone, ?_⟩
    cases x with
    | inr x => trivial
    | inl x =>
      refine ⟨?_, trivial⟩
      have hanswer := hnow.1
      have hlog (hreads : x.1.ReadsLog) : ((world site.rt).run w (merged l)).log =
          ((world site.rt).run w (left l)).log := run_log_left (h.log l x.1 x.2 [] rfl hreads)
      have hcheckpoint (hreads : x.1.ReadsCheckpoint) :
          ((world site.rt).run w (merged l)).checkpoint =
            ((world site.rt).run w (left l)).checkpoint :=
        run_checkpoint_left (h.checkpoint l x.1 x.2 [] rfl hreads)
      obtain ⟨o, r⟩ := x
      cases o with
      | readLog => exact Eq.trans hanswer (hlog trivial)
      | logExists => exact legal_logExists (hlog trivial) hanswer
      | loadCheckpoint => exact Eq.trans hanswer (hcheckpoint trivial)
      | checkpointExists =>
        exact Eq.trans hanswer (congrArg Option.isSome (hcheckpoint trivial))
      | _ => exact hanswer

end blind

/-! ### A review alone -/

/-- The decision has nothing to object to on a paused checkpoint, whenever the review looks at the
time. -/
structure Acceptable (rt : Runtime) (b : CampaignState) (r : ReviewDecision) (tr : List Step) :
    Prop where
  paused : b.currentStatus = .pausedForHumanReview
  fits : ∀ o, (⟨.observe, o⟩ : Step) ∈ tr → Fits rt b r o.now

/-- The monitor of a review that nothing happens to, not even its own append. -/
def calm (rt : Runtime) (b : CampaignState) (r : ReviewDecision) (digest : String) :
    Monitor Op Res Unit where
  allowed _ _ := True
  legal _
    | .loadCheckpoint, s => s = some b
    | .readLog, f => f = logOf b.events
    | .checkpointSha256, d => d = .ok digest
    | .observe, o => Fits rt b r o.now
    | .appendLog _, _ => False
    | _, _ => True
  next _ _ _ := ()

section alone

variable {site : Site} {campaign : Dict} {w : World} {p : CampaignDefinition}
  {objectives : List Dict} {b : CampaignState} {r : ReviewDecision} {data : Dict} {tr : List Step}
  {ids : List String} {res : Except Exc CampaignState × Unit}

/-- A check that passes. -/
theorem post_guard_ok {S β σ : Type} {M : Monitor Op Res σ} {x : Bool} (hx : x = true) {e : Exc}
    {k : Unit → Code S β} {s : S} {m : σ} {Q : Except Exc β → S → σ → Prop}
    (h : Post M (k ()) s Q m) : Post M (attempt (guardE x e) >>= k) s Q m :=
  post_attempt_ok (guardE_eq_ok.mpr hx) h

/-- The log of a checkpoint verifies against it. -/
theorem verify_accepts (hb : Persisted site ids b) {α : Type} {k : List String → Code CampaignState α}
    {Q : Except Exc α → CampaignState → Unit → Prop} {digest : String}
    (h : Post (calm site.rt b r digest) (k []) b Q ()) :
    Post (calm site.rt b r digest) (verifyStateEventLog site b >>= k) b Q () := by
  have hverifies := hb.verifies
  unfold verifyStateLog at hverifies
  obtain ⟨path, hpath, hverifies⟩ := bind_eq_ok.mp hverifies
  obtain ⟨failures, hfailures, hcompared⟩ := bind_eq_ok.mp hverifies
  have hempty : failures.isEmpty = true := by
    by_contra hnot
    rw [if_neg hnot] at hcompared
    cases hcompared
    exact hnot rfl
  rw [if_pos hempty] at hcompared
  unfold verifyStateEventLog
  rw [bind_assoc]
  refine post_attempt_ok hpath ?_
  rw [bind_assoc]
  refine post_call_bind trivial fun f hf => ?_
  obtain rfl : f = logOf b.events := hf
  rw [bind_assoc]
  refine post_attempt_ok hfailures ?_
  rw [if_pos hempty, bind_assoc]
  refine post_call_bind trivial fun f hf => ?_
  obtain rfl : f = logOf b.events := hf
  exact post_attempt_ok hcompared h

/-- The checks of a decision that fits pass. -/
theorem checkReview_accepts {α : Type} {k : Unit → Code CampaignState α}
    {Q : Except Exc α → CampaignState → Unit → Prop}
    (h : Post (calm site.rt b r r.stateSha256) (k ()) b Q ()) :
    Post (calm site.rt b r r.stateSha256) (checkReview site r >>= k) b Q () := by
  unfold checkReview
  rw [bind_assoc, post_get_bind, bind_assoc]
  refine post_call_bind trivial fun o ho => ?_
  obtain ⟨⟨t, hdecided, htime⟩, hcampaign, hobjective, hoperator⟩ : Fits site.rt b r o.now := ho
  rw [bind_assoc]
  refine post_attempt_ok hdecided ?_
  rw [bind_assoc]
  refine post_guard_ok (decide_eq_true htime) ?_
  rw [bind_assoc]
  refine post_call_bind trivial fun answer hanswer => ?_
  obtain rfl : answer = .ok r.stateSha256 := hanswer
  rw [bind_assoc]
  refine post_attempt_ok rfl ?_
  rw [bind_assoc]
  refine post_guard_ok (beq_self_eq_true _) ?_
  rw [bind_assoc]
  refine post_guard_ok (beq_iff_eq.mpr hcampaign) ?_
  rw [bind_assoc]
  refine post_guard_ok (beq_iff_eq.mpr hobjective.symm) ?_
  exact post_guard_ok (beq_iff_eq.mpr hoperator) h

/-- **A review with nothing to object to writes**: without its append it does not end. -/
theorem review_accepts (campaign : Dict) (hids : GoodIds ids) (hb : Persisted site ids b)
    (hpaused : b.currentStatus = .pausedForHumanReview) (hparsed : parseReviewDecision data = .ok r) :
    Post (calm site.rt b r r.stateSha256) ((Call.review data).perform site campaign) ()
      (fun _ _ _ => False) () := by
  have hpending : b.hasPendingReview = true := ((hb.valid hids).whenPaused hpaused).2
  obtain ⟨-, path, hpath⟩ := hb.begun hb.notPlanned
  show Post _ (onLoaded (applyReviewDecision site data)) () _ ()
  unfold onLoaded loadState
  rw [bind_assoc]
  refine post_call_bind trivial fun s hs => ?_
  obtain rfl : s = some b := hs
  dsimp only
  rw [post_pure_bind]
  apply post_within
  unfold applyReviewDecision
  rw [post_get_bind]
  refine post_guard_ok (by rw [hpaused, hpending]; rfl) (verify_accepts hb ?_)
  refine post_guard_ok rfl (post_attempt_ok hparsed (checkReview_accepts ?_))
  dsimp only
  rw [post_modify_bind]
  unfold appendCampaignEvent
  rw [bind_assoc, post_get_bind, bind_assoc]
  refine post_call_bind trivial fun _ _ => ?_
  rw [bind_assoc]
  refine post_call_bind trivial fun _ _ => ?_
  rw [bind_assoc]
  refine post_attempt_ok (show resolveEventLog site _ = .ok path from hpath) ?_
  rw [bind_assoc]
  refine post_call_bind trivial fun _ hnever => ?_
  exact hnever.elim

/-- **A review alone with nothing to object to writes.** -/
theorem review_writes (hids : GoodIds ids) (hw : AtRest site ids w) (hb : w.checkpoint = some b)
    (hparsed : parseReviewDecision data = .ok r) (haccept : Acceptable site.rt b r tr)
    (hreach : Reach (Proc.start ((Call.review data).perform site campaign) ()) tr (.pure res))
    (hlegal : (world site.rt).Legal w tr)
    (hsha : ∀ d, (⟨.checkpointSha256, d⟩ : Step) ∈ tr → effectsOf tr = [] → d = .ok r.stateSha256) :
    effectsOf tr ≠ [] := by
  intro hquiet
  have hanswers := legal_of_quiet hlegal hquiet
  have hlog : w.log = logOf b.events := by
    have hlog := hw.log
    unfold World.progress Progress.committed at hlog
    rwa [hb] at hlog
  have hcalm : (calm site.rt b r r.stateSha256).Legal () tr := by
    refine Monitor.legal_of_still _ (fun _ _ => rfl) fun x hx => ?_
    have hanswer := hanswers x hx
    obtain ⟨o, d⟩ := x
    cases o with
    | loadCheckpoint => exact Eq.trans hanswer hb
    | readLog => exact Eq.trans hanswer hlog
    | checkpointSha256 => exact hsha d hx hquiet
    | observe => exact haccept.fits d hx
    | appendLog e =>
      have heffect : Effect.append e ∈ effectsOf tr := List.mem_filterMap.mpr ⟨_, hx, rfl⟩
      rw [hquiet] at heffect
      cases heffect
    | _ => trivial
  obtain ⟨-, hnever⟩ := wp_sound _ (review_accepts campaign hids (hw.persisted b hb) haccept.paused
    hparsed) hreach hcalm
  exact hnever

/-- No clock is read: the surroundings have no say. -/
theorem ambient_open {t : Option ℚ} (h : ∀ x ∈ tr, x.1 ≠ .clock) :
    (ambient openSurroundings).Legal t tr := by
  induction tr generalizing t with
  | nil => trivial
  | cons x tr ih =>
    have hrest (t : Option ℚ) := @ih t fun y hy => h y (List.mem_cons_of_mem _ hy)
    have hx := h x List.mem_cons_self
    obtain ⟨o, d⟩ := x
    cases o with
    | clock => exact absurd rfl hx
    | _ => exact ⟨trivial, hrest _⟩

/-- A review that writes is a call, in any surroundings. -/
theorem Writes.ran {f : LogFile} (h : Writes site data b r f tr)
    (hreach : Reach (Proc.start ((Call.review data).perform site campaign) ()) tr (.pure res))
    (hlegal : (world site.rt).Legal w tr) :
    Ran site campaign openSurroundings (.review data) w tr (.pure res) := by
  refine ⟨hreach, hlegal, ambient_open fun x hx hclock => ?_⟩
  obtain ⟨pre, e, rest, hready, hsettling, rfl⟩ := h
  obtain ⟨f₀, o, u, t, rfl, -⟩ := hready.steps
  rcases List.mem_append.mp hx with hx | hx
  · simp only [List.mem_cons, List.not_mem_nil, or_false] at hx
    rcases hx with rfl | rfl | rfl | rfl | rfl | rfl | rfl <;> cases hclock
  · rcases List.mem_cons.mp hx with rfl | hx
    · cases hclock
    · rcases hsettling x hx with hnow | ⟨s, hsave⟩
      · exact nomatch hnow.symm.trans hclock
      · exact nomatch hsave.symm.trans hclock

/-- **A review alone that writes returns.** -/
theorem Ran.wins (h : Ran site campaign openSurroundings (.review data) w tr (.pure res))
    (hshape : CampaignShape campaign p objectives) (hw : AtRest site (objectives.map rawId) w)
    (hwrites : effectsOf tr ≠ []) : ∃ s, res.1 = .ok s := by
  rcases reviewEnd_of_reach h.reach with ⟨-, hquiet⟩ | ⟨b, r, f, pre, e, rest, hready, -, htr, hend⟩
  · exact absurd hquiet hwrites
  · refine hend.resolve_right fun hquiet => ?_
    -- the event would be left behind the checkpoint
    obtain ⟨-, -, hrest, -⟩ := h.conforms hshape hw
    have hpending : ((commits site campaign openSurroundings (.review data)).run w.progress
        tr).pending = [] := by
      obtain ⟨res | res, u⟩ := res
      · exact hrest
      · exact hrest.1.pending
    have heffects : effectsOf tr = [.append e] := by
      have hcons : effectsOf (⟨.appendLog e, ()⟩ :: rest) = .append e :: effectsOf rest := rfl
      rw [htr, effectsOf_append, hready.effects, hcons, hquiet]
      rfl
    have hlast := @progress_of_effects site campaign openSurroundings (.review data) w.progress tr
    rw [heffects] at hlast
    exact hlast hpending

/-- Every checkpoint a call saves has a later revision than the one it began with. -/
theorem Ran.saves_later {c : Call} {sur : Surroundings}
    {q : Prog Op Res (Except Exc CampaignState × Unit)} (h : Ran site campaign sur c w tr q)
    (hshape : CampaignShape campaign p objectives) (hw : AtRest site (objectives.map rawId) w)
    (hb : w.checkpoint = some b) {s : CampaignState} (hs : s ∈ savesOf tr) :
    b.stateRevision < s.stateRevision := by
  obtain ⟨tr₁, tr₂, t, u, rfl, rfl⟩ := mem_savesOf hs
  have hcut : tr₁ ++ ⟨.saveCheckpoint t, .ok u⟩ :: tr₂ =
      (tr₁ ++ [⟨.saveCheckpoint t, .ok u⟩]) ++ tr₂ := by simp
  rw [hcut] at h
  obtain ⟨q', hran⟩ := h.cut
  obtain ⟨-, hallowed, -, htracks⟩ := hran.conforms hshape hw
  have hbase : w.progress.base = some b := hb
  obtain ⟨b', hb', -, hlt⟩ := revision_of_allowed hallowed hbase
  have hsaved : ((world site.rt).run w (tr₁ ++ [⟨.saveCheckpoint t, .ok u⟩])).checkpoint =
      some t.saved := by
    rw [Monitor.run_append]
    rfl
  have hsame : some t.saved = some b' := hsaved.symm.trans (htracks.checkpoint.trans hb')
  obtain rfl := Option.some.inj hsame
  refine hlt ?_
  rw [savesOf_append]
  exact List.append_ne_nil_of_right_ne_nil _ (List.cons_ne_nil _ _)

end alone

/-! ### Two reviews -/

section race

variable {site : Site} {campaign : Dict} {w : World} {p : CampaignDefinition}
  {objectives : List Dict} {b b' : CampaignState} {r : ReviewDecision} {f : LogFile} {data : Dict}
  {l l₁ l₂ m₁ m₂ : List (Step ⊕ Step)} {tr rest pre : List Step} {e : CampaignEvent}
  {digestOf : CampaignState → String}

/-- Where a step of the first call stands among those of both. -/
theorem left_split {L₁ L₂ : List Step} {y : Step} (h : left l = L₁ ++ y :: L₂) :
    ∃ m₁ m₂, l = m₁ ++ .inl y :: m₂ ∧ left m₁ = L₁ ∧ left m₂ = L₂ := by
  induction l generalizing L₁ with
  | nil =>
    have hnil : L₁ ++ y :: L₂ = [] := h.symm
    simp at hnil
  | cons x l ih =>
    cases x with
    | inr x =>
      obtain ⟨m₁, m₂, rfl, hm₁, hm₂⟩ := ih h
      exact ⟨.inr x :: m₁, m₂, rfl, hm₁, hm₂⟩
    | inl x =>
      have hcons : x :: left l = L₁ ++ y :: L₂ := h
      cases L₁ with
      | nil =>
        obtain ⟨rfl, hrest⟩ := List.cons_eq_cons.mp hcons
        exact ⟨[], l, rfl, rfl, hrest⟩
      | cons a L₁ =>
        obtain ⟨rfl, hrest⟩ := List.cons_eq_cons.mp hcons
        obtain ⟨m₁, m₂, rfl, hm₁, hm₂⟩ := ih hrest
        exact ⟨.inl x :: m₁, m₂, rfl, congrArg (x :: ·) hm₁, hm₂⟩

/-- Steps of one call stand in the order it takes them. -/
theorem prefix_of_left_le {x y : Step} (h : l = l₁ ++ .inl x :: l₂) (h' : l = m₁ ++ .inl y :: m₂)
    (hle : (left l₁).length ≤ (left m₁).length) : ∃ z, m₁ = l₁ ++ z := by
  rcases List.append_eq_append_iff.mp (h.symm.trans h') with ⟨z, hz, -⟩ | ⟨z, hz, hrest⟩
  · exact ⟨z, hz⟩
  · cases z with
    | nil => exact ⟨[], by simpa using hz.symm⟩
    | cons v z =>
      obtain ⟨rfl, -⟩ := List.cons_eq_cons.mp hrest
      have hlength : (left l₁).length = (left m₁).length + (left (.inl y :: z)).length := by
        rw [hz, left_append, List.length_append]
      have hcons : left (.inl y :: z) = y :: left z := rfl
      rw [hcons, List.length_cons] at hlength
      omega

/-- Where a review that writes reads the files. -/
theorem Ready.reads (h : Ready site data b r f pre) (hrest : Settling rest) {L₁ L₂ : List Step}
    {o : Op} {d : Res o} (heq : L₁ ++ ⟨o, d⟩ :: L₂ = pre ++ ⟨.appendLog e, ()⟩ :: rest) :
    (o.ReadsLog → L₁.length ≤ 2) ∧ (o.ReadsCheckpoint → L₁.length ≤ 4) := by
  obtain ⟨f₀, obs, u, t, rfl, -⟩ := h.steps
  have hlater (n : ℕ) (hn : n ≤ L₁.length) :
      (⟨o, d⟩ : Step) ∈ (L₁ ++ ⟨o, d⟩ :: L₂).drop n := by
    rw [List.drop_append_of_le_length hn]
    exact List.mem_append_right _ List.mem_cons_self
  rw [heq] at hlater
  have hsettled (hmem : (⟨o, d⟩ : Step) ∈ rest) : ¬ o.ReadsLog ∧ ¬ o.ReadsCheckpoint := by
    rcases hrest _ hmem with hnow | ⟨s, hsave⟩
    · obtain rfl : o = .utcNow := hnow
      exact ⟨id, id⟩
    · obtain rfl : o = .saveCheckpoint s := hsave
      exact ⟨id, id⟩
  refine ⟨fun hreads => ?_, fun hreads => ?_⟩
  · by_contra hlt
    have hmem := hlater 3 (by omega)
    simp only [List.cons_append, List.nil_append, List.drop_succ_cons, List.drop_zero,
      List.mem_cons] at hmem
    rcases hmem with hx | hx | hx | hx | hx | hx
    iterate 5
      cases hx
      exact hreads
    exact (hsettled hx).1 hreads
  · by_contra hlt
    have hmem := hlater 5 (by omega)
    simp only [List.cons_append, List.nil_append, List.drop_succ_cons, List.drop_zero,
      List.mem_cons] at hmem
    rcases hmem with hx | hx | hx | hx
    iterate 3
      cases hx
      exact hreads
    exact (hsettled hx).2 hreads

theorem appendsOf_of_quiet (h : effectsOf tr = []) : appendsOf tr = [] := by
  unfold appendsOf
  rw [h]
  rfl

theorem savesOf_of_quiet (h : effectsOf tr = []) : savesOf tr = [] := by
  unfold savesOf
  rw [h]
  rfl

/-- **The first to append is blind to the other.** -/
theorem Blind.of_first (hready : Ready site data b r f pre) (hrest : Settling rest)
    (hl : l = l₁ ++ .inl ⟨.appendLog e, ()⟩ :: l₂) (hpre : left l₁ = pre) (hleft : left l₂ = rest)
    (hquiet : effectsOf (right l₁) = []) : Blind l := by
  have hlength : (left l₁).length = 7 := by
    obtain ⟨f₀, o, u, t, rfl, -⟩ := hready.steps
    rw [hpre]
    rfl
  have hsteps : left l = pre ++ ⟨.appendLog e, ()⟩ :: rest := by
    rw [hl, left_append, hpre]
    exact congrArg (fun x => pre ++ ⟨.appendLog e, ()⟩ :: x) hleft
  have hsplit (a : List (Step ⊕ Step)) (o : Op) (d : Res o) (z : List (Step ⊕ Step))
      (hz : l = a ++ .inl ⟨o, d⟩ :: z) : left a ++ ⟨o, d⟩ :: left z =
        pre ++ ⟨.appendLog e, ()⟩ :: rest := by
    rw [← hsteps, hz, left_append]
    rfl
  have hbefore (a : List (Step ⊕ Step)) (o : Op) (d : Res o) (z : List (Step ⊕ Step))
      (hz : l = a ++ .inl ⟨o, d⟩ :: z) (hle : (left a).length ≤ 4) : effectsOf (right a) = [] := by
    obtain ⟨z', rfl⟩ := prefix_of_left_le hz hl (by omega)
    rw [right_append, effectsOf_append] at hquiet
    exact (List.append_eq_nil_iff.mp hquiet).1
  refine ⟨fun a o d z hz hreads => ?_, fun a o d z hz hreads => ?_⟩
  · have hle := (hready.reads hrest (hsplit a o d z hz)).1 hreads
    exact appendsOf_of_quiet (hbefore a o d z hz (by omega))
  · have hle := (hready.reads hrest (hsplit a o d z hz)).2 hreads
    exact savesOf_of_quiet (hbefore a o d z hz hle)

/-- The log a call has left, if only the other one has appended. -/
theorem run_log_right (h : appendsOf (left l) = []) :
    ((world site.rt).run w (merged l)).log = ((world site.rt).run w (right l)).log := by
  have hswapped := @run_log_left site (swapped l) w (by rwa [right_swapped])
  rwa [merged_swapped, left_swapped] at hswapped

theorem run_checkpoint_right (h : savesOf (left l) = []) :
    ((world site.rt).run w (merged l)).checkpoint = ((world site.rt).run w (right l)).checkpoint := by
  have hswapped := @run_checkpoint_left site (swapped l) w (by rwa [right_swapped])
  rwa [merged_swapped, left_swapped] at hswapped

/-- The last checkpoint saved is the one that is there. -/
theorem checkpoint_of_saves (h : savesOf tr ≠ []) :
    ∃ s ∈ savesOf tr, ((world site.rt).run w tr).checkpoint = some s := by
  obtain ⟨ss, s, hs⟩ := (List.eq_nil_or_concat (savesOf tr)).resolve_left h
  refine ⟨s, by simp [hs], ?_⟩
  rw [run_checkpoint, hs, List.concat_eq_append, List.foldl_append]
  rfl

theorem foldl_logOf (es es' : List CampaignEvent) :
    es'.foldl (fun f e => f.append e.line) (logOf es) = logOf (es ++ es') := by
  induction es' generalizing es with
  | nil => simp
  | cons e es' ih =>
    rw [List.foldl_cons, logOf_append, ih]
    simp

/-- A log that compares has as many lines as the checkpoint counts. -/
theorem compareTail_length {es : List CampaignEvent} (h : compareTail b (logOf es) = .ok []) :
    es.length = b.events.length := by
  unfold logOf at h
  split_ifs at h with hes
  · cases h
  · unfold compareTail at h
    have hlast : (es.map CampaignEvent.line).getLast? =
        some (some (es.getLast hes).toJson) := by
      rw [List.getLast?_map, List.getLast?_eq_some_getLast hes]
      rfl
    simp only [hlast] at h
    obtain ⟨m, -, h⟩ := bind_eq_ok.mp h
    have hnil := (List.append_eq_nil_iff.mp (Except.ok.inj h)).2
    unfold reasonWhen at hnil
    split_ifs at hnil with hcount
    simpa using hcount

/-- **A review that writes has seen nothing of the other one**, whose checkpoints have digests of
their own: it would have found the log too long, or the digest changed. -/
theorem Blind.of_seen (hready : Ready site data b' r f pre) (hrest : Settling rest)
    (hsteps : left l = pre ++ ⟨.appendLog e, ()⟩ :: rest)
    (hlegal : (world site.rt).Legal w (merged l)) (hb : w.checkpoint = some b)
    (hlog : w.log = logOf b.events) (hbound : r.stateSha256 = digestOf b)
    (hsha : ∀ m₁ d m₂, l = m₁ ++ .inl ⟨.checkpointSha256, d⟩ :: m₂ →
      d = digestAnswer digestOf ((world site.rt).run w (merged m₁)).checkpoint)
    (hlater : ∀ s ∈ savesOf (right l), digestOf s ≠ digestOf b) : Blind l := by
  have hcompared := hready.compared
  obtain ⟨f₀, o, u, t, hpre, -⟩ := hready.steps
  have hreads := @Ready.reads site b' r f data rest pre e hready hrest
  rw [← hsteps] at hreads
  rw [hpre] at hsteps
  have hanswer (m₁ : List (Step ⊕ Step)) (x : Step) (m₂ : List (Step ⊕ Step))
      (hm : l = m₁ ++ .inl x :: m₂) :
      (world site.rt).legal ((world site.rt).run w (merged m₁)) x.1 x.2 := by
    rw [hm, merged_append] at hlegal
    exact ((Monitor.legal_append _).mp hlegal).2.1
  -- when it asks for the digest, the other one has saved nothing
  obtain ⟨m₁, m₂, hm, hleft, -⟩ := @left_split l [⟨.loadCheckpoint, some b'⟩, ⟨.readLog, f₀⟩,
    ⟨.readLog, f⟩, ⟨.observe, o⟩] _ _ hsteps
  have hsaves : savesOf (right m₁) = [] := by
    by_contra hne
    obtain ⟨s, hs, hcheckpoint⟩ := @checkpoint_of_saves site w _ hne
    have hdigest := hsha m₁ _ m₂ hm
    rw [run_checkpoint_right (by rw [hleft]; rfl), hcheckpoint] at hdigest
    refine hlater s ?_ ((Except.ok.inj hdigest).symm.trans hbound)
    rw [hm, right_append, savesOf_append]
    exact List.mem_append_left _ hs
  -- so it has loaded the checkpoint both started from
  obtain ⟨k₁, k₂, hk, hleftk, -⟩ := @left_split l [] _ _ hsteps
  have hloaded : b' = b := by
    have hload : some b' = ((world site.rt).run w (merged k₁)).checkpoint := hanswer k₁ _ k₂ hk
    obtain ⟨z, rfl⟩ := prefix_of_left_le hk hm (by rw [hleftk, hleft]; exact Nat.zero_le _)
    rw [right_append, savesOf_append] at hsaves
    have hnone : savesOf (right k₁) = [] := (List.append_eq_nil_iff.mp hsaves).1
    rw [run_checkpoint_right (by rw [hleftk]; rfl), run_checkpoint, hnone] at hload
    exact Option.some.inj (hload.trans hb)
  -- and the log it has compared is as long as the checkpoint says
  obtain ⟨n₁, n₂, hn, hleftn, -⟩ := @left_split l [⟨.loadCheckpoint, some b'⟩, ⟨.readLog, f₀⟩] _ _
    hsteps
  have happends : appendsOf (right n₁) = [] := by
    have hread : f = ((world site.rt).run w (merged n₁)).log := hanswer n₁ _ n₂ hn
    rw [run_log_right (by rw [hleftn]; rfl), run_log, hlog, foldl_logOf] at hread
    rw [hread, hloaded] at hcompared
    have hlength := compareTail_length hcompared
    rw [List.length_append] at hlength
    exact List.length_eq_zero_iff.mp (by omega)
  have hsplit (a : List (Step ⊕ Step)) (o : Op) (d : Res o) (z : List (Step ⊕ Step))
      (hz : l = a ++ .inl ⟨o, d⟩ :: z) : left a ++ ⟨o, d⟩ :: left z = left l := by
    rw [hz, left_append]
    rfl
  refine ⟨fun a o d z hz hlogs => ?_, fun a o d z hz hchecks => ?_⟩
  · have hle := (hreads (hsplit a o d z hz)).1 hlogs
    obtain ⟨z', rfl⟩ := prefix_of_left_le hz hn (by rw [hleftn]; exact hle)
    rw [right_append, appendsOf_append] at happends
    exact (List.append_eq_nil_iff.mp happends).1
  · have hle := (hreads (hsplit a o d z hz)).2 hchecks
    obtain ⟨z', rfl⟩ := prefix_of_left_le hz hm (by rw [hleft]; exact hle)
    rw [right_append, savesOf_append] at hsaves
    exact (List.append_eq_nil_iff.mp hsaves).1

/-- **One of the two is the first to append.** -/
theorem first_append {x y : Step} {pre' rest' : List Step} (hl : left l = pre ++ x :: rest)
    (hr : right l = pre' ++ y :: rest') (hpre : effectsOf pre = []) (hpre' : effectsOf pre' = []) :
    (∃ a z, l = a ++ .inl x :: z ∧ left a = pre ∧ left z = rest ∧ effectsOf (right a) = []) ∨
      ∃ a z, swapped l = a ++ .inl y :: z ∧ left a = pre' ∧ left z = rest' ∧
        effectsOf (right a) = [] := by
  obtain ⟨a, z, ha, hleft, hrest⟩ := left_split hl
  rw [← left_swapped] at hr
  obtain ⟨a', z', ha', hleft', hrest'⟩ := left_split hr
  have hback : l = swapped a' ++ .inr y :: swapped z' := by
    rw [← swapped_swapped l, ha', swapped_append]
    rfl
  rcases List.append_eq_append_iff.mp (ha.symm.trans hback) with ⟨c, hc, -⟩ | ⟨c, hc, -⟩
  · refine Or.inl ⟨a, z, ha, hleft, hrest, ?_⟩
    have hwhole : right a ++ right c = pre' := by
      rw [← right_append, ← hc, right_swapped, hleft']
    rw [← hwhole, effectsOf_append] at hpre'
    exact (List.append_eq_nil_iff.mp hpre').1
  · refine Or.inr ⟨a', z', ha', hleft', hrest', ?_⟩
    have hwhole : right a' ++ left c = pre := by
      rw [← left_swapped, ← left_append, ← hc, hleft]
    rw [← hwhole, effectsOf_append] at hpre
    exact (List.append_eq_nil_iff.mp hpre).1

/-- The circumstances of two calls over one checkpoint. -/
structure Race (site : Site) (digestOf : CampaignState → String) (ids : List String) (w : World)
    (b : CampaignState) (l : List (Step ⊕ Step)) : Prop where
  rest : AtRest site ids w
  checkpoint : w.checkpoint = some b
  legal : (world site.rt).Legal w (merged l)
  sha : ∀ tr₁ d tr₂, merged l = tr₁ ++ ⟨.checkpointSha256, d⟩ :: tr₂ →
    d = digestAnswer digestOf ((world site.rt).run w tr₁).checkpoint
  free : ∀ s ∈ savesOf (merged l), digestOf s = digestOf b → s.stateRevision = b.stateRevision

/-- The first of two calls presents a decision bound to the checkpoint. -/
structure Presents (site : Site) (campaign : Dict) (digestOf : CampaignState → String)
    (b : CampaignState) (data : Dict) (r : ReviewDecision)
    (res : Except Exc CampaignState × Unit) (l : List (Step ⊕ Step)) : Prop where
  reach : Reach (Proc.start ((Call.review data).perform site campaign) ()) (left l) (.pure res)
  parsed : parseReviewDecision data = .ok r
  bound : r.stateSha256 = digestOf b

variable {ids : List String} {r₁ r₂ : ReviewDecision} {data₁ data₂ : Dict}
  {res res₁ res₂ : Except Exc CampaignState × Unit}

theorem Race.swapped (h : Race site digestOf ids w b l) :
    Race site digestOf ids w b (swapped l) := by
  refine ⟨h.rest, h.checkpoint, ?_, ?_, ?_⟩
  · rw [merged_swapped]
    exact h.legal
  · rw [merged_swapped]
    exact h.sha
  · rw [merged_swapped]
    exact h.free

theorem Race.log (h : Race site digestOf ids w b l) : w.log = logOf b.events := by
  have hlog := h.rest.log
  unfold World.progress Progress.committed at hlog
  rwa [h.checkpoint] at hlog

theorem Presents.wrote (h : Presents site campaign digestOf b data r res l)
    (hwrites : effectsOf (left l) ≠ []) : ∃ b' f pre e rest, Ready site data b' r f pre ∧
      Settling rest ∧ left l = pre ++ ⟨.appendLog e, ()⟩ :: rest := by
  rcases reviewEnd_of_reach h.reach with ⟨-, hquiet⟩ | ⟨b', r', f, pre, e, rest, hready, hrest, hsteps, -⟩
  · exact absurd hquiet hwrites
  · obtain rfl : r' = r := Except.ok.inj (hready.parsed.symm.trans h.parsed)
    exact ⟨b', f, pre, e, rest, hready, hrest, hsteps⟩

/-- A blind presentation that writes is a call of its own. -/
theorem Presents.ran (h : Presents site campaign digestOf b data r res l)
    (hrace : Race site digestOf ids w b l) (hblind : Blind l) (hwrites : effectsOf (left l) ≠ []) :
    Ran site campaign openSurroundings (.review data) w (left l) (.pure res) := by
  obtain ⟨b', f, pre, e, rest, hready, hrest, hsteps⟩ := h.wrote hwrites
  exact Writes.ran ⟨pre, e, rest, hready, hrest, hsteps⟩ h.reach (hblind.legal hrace.legal)

/-- A blind presentation that writes had nothing to object to. -/
theorem Presents.acceptable (h : Presents site campaign digestOf b data r res l)
    (hrace : Race site digestOf ids w b l) (hblind : Blind l) (hwrites : effectsOf (left l) ≠ []) :
    Acceptable site.rt b r (left l) := by
  obtain ⟨b', f, pre, e, rest, hready, hrest, hsteps⟩ := h.wrote hwrites
  have halone := hblind.legal hrace.legal
  have hpaused := hready.paused
  obtain ⟨f₀, o, u, t, rfl, hfits⟩ := hready.steps
  rw [hsteps] at halone ⊢
  have hloaded : some b' = w.checkpoint := halone.1
  obtain rfl : b' = b := Option.some.inj (hloaded.trans hrace.checkpoint)
  refine ⟨hpaused, fun o' ho' => ?_⟩
  rcases List.mem_append.mp ho' with hmem | hmem
  · simp only [List.mem_cons, List.not_mem_nil, or_false] at hmem
    rcases hmem with hx | hx | hx | hx | hx | hx | hx <;> cases hx
    exact hfits
  · rcases List.mem_cons.mp hmem with hx | hx
    · cases hx
    · rcases hrest _ hx with hnow | ⟨s, hsave⟩
      · cases hnow
      · cases hsave

/-- **If both write, neither has seen the other**, told from the side of the first to append. -/
theorem blind_of_first (h₁ : Presents site campaign digestOf b data₁ r₁ res₁ l)
    (h₂ : Presents site campaign digestOf b data₂ r₂ res₂ (swapped l))
    (hshape : CampaignShape campaign p objectives)
    (hrace : Race site digestOf (objectives.map rawId) w b l)
    (hwrites : effectsOf (right l) ≠ []) {b₁ : CampaignState} (hready : Ready site data₁ b₁ r₁ f pre)
    (hrest : Settling rest) (hl : l = l₁ ++ .inl ⟨.appendLog e, ()⟩ :: l₂) (hpre : left l₁ = pre)
    (hleft : left l₂ = rest) (hquiet : effectsOf (right l₁) = []) :
    Blind l ∧ Blind (Campaign.swapped l) := by
  have hblind : Blind l := .of_first hready hrest hl hpre hleft hquiet
  refine ⟨hblind, ?_⟩
  have hwrites₁ : effectsOf (left l) ≠ [] := by
    rw [hl, left_append, effectsOf_append]
    exact List.append_ne_nil_of_right_ne_nil _ (List.cons_ne_nil _ _)
  have hran := h₁.ran hrace hblind hwrites₁
  rw [← left_swapped] at hwrites
  obtain ⟨b', f', pre', e', rest', hready', hrest', hsteps'⟩ := h₂.wrote hwrites
  have hrace' := hrace.swapped
  refine .of_seen hready' hrest' hsteps' hrace'.legal hrace'.checkpoint hrace'.log h₂.bound ?_ ?_
  · intro m₁ d m₂ hm
    refine hrace'.sha (merged m₁) d (merged m₂) ?_
    rw [hm, merged_append]
    rfl
  · rw [right_swapped]
    intro s hs hdigest
    have hlater := hran.saves_later hshape hrace.rest hrace.checkpoint hs
    have hmerged : s ∈ savesOf (merged l) := by
      unfold savesOf at hs ⊢
      obtain ⟨x, hx, hsx⟩ := List.mem_filterMap.mp hs
      unfold effectsOf at hx ⊢
      obtain ⟨y, hy, hxy⟩ := List.mem_filterMap.mp hx
      exact List.mem_filterMap.mpr ⟨x, List.mem_filterMap.mpr
        ⟨y, mem_merged.mpr (Or.inl hy), hxy⟩, hsx⟩
    have hsame := hrace.free s hmerged hdigest
    omega

/-- **If both write, neither has seen the other.** -/
theorem blind_of_both (h₁ : Presents site campaign digestOf b data₁ r₁ res₁ l)
    (h₂ : Presents site campaign digestOf b data₂ r₂ res₂ (swapped l))
    (hshape : CampaignShape campaign p objectives)
    (hrace : Race site digestOf (objectives.map rawId) w b l)
    (hwrites₁ : effectsOf (left l) ≠ []) (hwrites₂ : effectsOf (right l) ≠ []) :
    Blind l ∧ Blind (swapped l) := by
  obtain ⟨b₁, f₁, pre₁, e₁, rest₁, hready₁, hrest₁, hsteps₁⟩ := h₁.wrote hwrites₁
  have hwrites₂' := hwrites₂
  rw [← left_swapped] at hwrites₂'
  obtain ⟨b₂, f₂, pre₂, e₂, rest₂, hready₂, hrest₂, hsteps₂⟩ := h₂.wrote hwrites₂'
  rw [left_swapped] at hsteps₂
  rcases first_append hsteps₁ hsteps₂ hready₁.effects hready₂.effects with
    ⟨a, z, hl, hpre, hleft, hquiet⟩ | ⟨a, z, hl, hpre, hleft, hquiet⟩
  · exact blind_of_first h₁ h₂ hshape hrace hwrites₂ hready₁ hrest₁ hl hpre hleft hquiet
  · have h₁' : Presents site campaign digestOf b data₁ r₁ res₁ (swapped (swapped l)) := by
      rw [swapped_swapped]
      exact h₁
    rw [← right_swapped] at hwrites₁
    have hboth := blind_of_first h₂ h₁' hshape hrace.swapped hwrites₁ hready₂ hrest₂ hl hpre hleft
      hquiet
    rw [swapped_swapped] at hboth
    exact hboth.symm

/-- Who does not write is not seen. -/
theorem Blind.of_quiet (h : effectsOf (right l) = []) : Blind l := by
  have hbefore (a z : List (Step ⊕ Step)) (x : Step) (hl : l = a ++ .inl x :: z) :
      effectsOf (right a) = [] := by
    rw [hl, right_append, effectsOf_append] at h
    exact (List.append_eq_nil_iff.mp h).1
  refine ⟨fun a o d z hl _ => ?_, fun a o d z hl _ => ?_⟩
  · exact appendsOf_of_quiet (hbefore a z _ hl)
  · exact savesOf_of_quiet (hbefore a z _ hl)

/-- The log verifies against the checkpoint. -/
def Verifies (site : Site) (w : World) : Prop :=
  ∃ s, w.checkpoint = some s ∧ verifyStateLog site s w.log = .ok []

theorem AtRest.verifies (h : AtRest site ids w) (hb : w.checkpoint = some b) : Verifies site w := by
  refine ⟨b, hb, ?_⟩
  have hlog := h.log
  unfold World.progress Progress.committed at hlog
  rw [hb] at hlog
  rw [hlog]
  exact (h.persisted b hb).verifies

/-- **If the other one does not write, the files verify in the end.** -/
theorem verifies_of_quiet (h₁ : Presents site campaign digestOf b data₁ r₁ res₁ l)
    (hshape : CampaignShape campaign p objectives)
    (hrace : Race site digestOf (objectives.map rawId) w b l) (hquiet : effectsOf (right l) = []) :
    Verifies site ((world site.rt).run w (merged l)) := by
  have hlog := @run_log_left site l w (appendsOf_of_quiet hquiet)
  have hcheckpoint := @run_checkpoint_left site l w (savesOf_of_quiet hquiet)
  suffices halone : Verifies site ((world site.rt).run w (left l)) by
    obtain ⟨s, hs, hverifies⟩ := halone
    exact ⟨s, hcheckpoint.trans hs, by rw [hlog]; exact hverifies⟩
  by_cases hwrites : effectsOf (left l) = []
  · rw [world_quiet hwrites]
    exact hrace.rest.verifies hrace.checkpoint
  · have hran := h₁.ran hrace (.of_quiet hquiet) hwrites
    obtain ⟨s, hs⟩ : ∃ s, ((world site.rt).run w (left l)).checkpoint = some s := by
      by_cases hsaves : savesOf (left l) = []
      · rw [run_checkpoint, hsaves]
        exact ⟨b, hrace.checkpoint⟩
      · obtain ⟨s, -, hs⟩ := @checkpoint_of_saves site w _ hsaves
        exact ⟨s, hs⟩
    exact (hran.atRest hshape hrace.rest).verifies hs

/-- A call has taken effect and returned. -/
def TakesEffect (tr : List Step) (res : Except Exc CampaignState × Unit) : Prop :=
  effectsOf tr ≠ [] ∧ ∃ s, res.1 = .ok s

/-- At most one of two calls takes effect and returns, and the files verify in the end. -/
structure AtMostOne (site : Site) (w : World) (l : List (Step ⊕ Step))
    (res₁ res₂ : Except Exc CampaignState × Unit) : Prop where
  one : ¬ (TakesEffect (left l) res₁ ∧ TakesEffect (right l) res₂)
  verifies : Verifies site ((world site.rt).run w (merged l))

/-- A presentation with nothing to object to that is blind to the other one writes. -/
theorem Presents.writes (h : Presents site campaign digestOf b data r res l)
    (hshape : CampaignShape campaign p objectives)
    (hrace : Race site digestOf (objectives.map rawId) w b l) (hblind : Blind l)
    (haccept : Acceptable site.rt b r (left l)) : effectsOf (left l) ≠ [] := by
  refine review_writes hshape.goodIds hrace.rest hrace.checkpoint h.parsed haccept h.reach
    (hblind.legal hrace.legal) ?_
  intro d hd hquiet
  obtain ⟨L₁, L₂, hL⟩ := List.append_of_mem hd
  obtain ⟨m₁, m₂, hm, hleft, -⟩ := left_split hL
  have hanswer := hrace.sha (merged m₁) d (merged m₂) (by rw [hm, merged_append]; rfl)
  have hsaved : savesOf (right m₁) = [] := hblind.checkpoint m₁ _ d m₂ hm trivial
  have hnone : savesOf (left m₁) = [] := by
    rw [hL, effectsOf_append, ← hleft] at hquiet
    exact savesOf_of_quiet (List.append_eq_nil_iff.mp hquiet).1
  rw [run_checkpoint_left hsaved, run_checkpoint, hnone] at hanswer
  rw [hanswer, h.bound]
  show digestAnswer digestOf w.checkpoint = _
  rw [hrace.checkpoint]
  rfl

/-- **When at most one of two reviews takes effect.** Two presentations of decisions that name the
checkpoint of a history, interleaved in any way, to their ends: both take effect if and only if both
decisions fit the checkpoint and neither presentation sees what the other writes. Otherwise the
files verify in the end. -/
theorem conflictingReviews_iff (hp : parseCampaign campaign = .ok p) {sur : Surroundings}
    {hist : List (Call × List Step)} (h : History site campaign sur hist w)
    (hb : w.checkpoint = some b) (hparsed₁ : parseReviewDecision data₁ = .ok r₁)
    (hparsed₂ : parseReviewDecision data₂ = .ok r₂) (hbound₁ : r₁.stateSha256 = digestOf b)
    (hbound₂ : r₂.stateSha256 = digestOf b)
    (hrun₁ : Reach (Proc.start ((Call.review data₁).perform site campaign) ()) (left l) (.pure res₁))
    (hrun₂ : Reach (Proc.start ((Call.review data₂).perform site campaign) ()) (right l)
      (.pure res₂))
    (hlegal : (world site.rt).Legal w (merged l))
    (hsha : HashesCheckpoint digestOf site (stepsOf hist ++ merged l))
    (hfree : CollisionFree digestOf (stepsOf hist ++ merged l)) :
    AtMostOne site w l res₁ res₂ ↔
      ¬ ((Blind l ∧ Blind (swapped l)) ∧
        Acceptable site.rt b r₁ (left l) ∧ Acceptable site.rt b r₂ (right l)) := by
  obtain ⟨objectives, hshape⟩ := campaignShape_of_parse hp
  have hrace : Race site digestOf (objectives.map rawId) w b l := by
    refine ⟨h.atRest hshape, hb, hlegal, ?_, ?_⟩
    · intro tr₁ d tr₂ hm
      have hanswer := hsha (stepsOf hist ++ tr₁) d tr₂ (by rw [hm]; simp)
      unfold checkpointAt at hanswer
      rwa [Monitor.run_append, h.world] at hanswer
    · intro s hs hdigest
      have hmem : b ∈ savesOf (stepsOf hist) := by
        have hat := h.world
        have hcheckpoint : ((world site.rt).run World.empty (stepsOf hist)).checkpoint = some b := by
          rw [hat]
          exact hb
        exact (mem_savesOf_of_checkpoint hcheckpoint).resolve_left nofun
      refine hfree s ?_ b ?_ hdigest
      · rw [savesOf_append]
        exact List.mem_append_right _ hs
      · rw [savesOf_append]
        exact List.mem_append_left _ hmem
  have h₁ : Presents site campaign digestOf b data₁ r₁ res₁ l := ⟨hrun₁, hparsed₁, hbound₁⟩
  have h₂ : Presents site campaign digestOf b data₂ r₂ res₂ (swapped l) := by
    refine ⟨?_, hparsed₂, hbound₂⟩
    rw [left_swapped]
    exact hrun₂
  constructor
  · rintro ⟨hone, -⟩ ⟨⟨hblind₁, hblind₂⟩, haccept₁, haccept₂⟩
    rw [← left_swapped] at haccept₂
    have hwrites₁ := h₁.writes hshape hrace hblind₁ haccept₁
    have hwrites₂ := h₂.writes hshape hrace.swapped hblind₂ haccept₂
    have hwins₁ := (h₁.ran hrace hblind₁ hwrites₁).wins hshape hrace.rest hwrites₁
    have hwins₂ := (h₂.ran hrace.swapped hblind₂ hwrites₂).wins hshape hrace.rest hwrites₂
    rw [left_swapped] at hwrites₂
    exact hone ⟨⟨hwrites₁, hwins₁⟩, hwrites₂, hwins₂⟩
  · intro hnot
    by_cases hwrites₁ : effectsOf (left l) = []
    · have hquiet : effectsOf (right (swapped l)) = [] := by
        rw [right_swapped]
        exact hwrites₁
      refine ⟨fun hboth => hboth.1.1 hwrites₁, ?_⟩
      have hverifies := verifies_of_quiet h₂ hshape hrace.swapped hquiet
      rwa [merged_swapped] at hverifies
    · by_cases hwrites₂ : effectsOf (right l) = []
      · exact ⟨fun hboth => hboth.2.1 hwrites₂, verifies_of_quiet h₁ hshape hrace hwrites₂⟩
      · -- both write: then nothing stood in the way of either
        obtain ⟨hblind₁, hblind₂⟩ := blind_of_both h₁ h₂ hshape hrace hwrites₁ hwrites₂
        have haccept₁ := h₁.acceptable hrace hblind₁ hwrites₁
        rw [← left_swapped] at hwrites₂
        have haccept₂ := h₂.acceptable hrace.swapped hblind₂ hwrites₂
        rw [left_swapped] at haccept₂
        exact absurd ⟨⟨hblind₁, hblind₂⟩, haccept₁, haccept₂⟩ hnot

end race

/-! ### Two reviews that both take effect -/

/-- The monitor of a world that answers with the digest of its checkpoint. -/
def hashes (digestOf : CampaignState → String) (rt : Runtime) : Monitor Op Res World where
  allowed _ _ := True
  legal w
    | .checkpointSha256, r => r = digestAnswer digestOf w.checkpoint
    | _, _ => True
  next := (world rt).next

section lost

variable {site : Site} {campaign : Dict} {f : Frozen} {w : World} {p : CampaignDefinition}
  {b : CampaignState} {r₁ r₂ : ReviewDecision} {data data₁ data₂ : Dict} {tr rest : List Step}
  {digestOf : CampaignState → String}

theorem hashes_run (w : World) (tr : List Step) :
    (hashes digestOf site.rt).run w tr = (world site.rt).run w tr := rfl

theorem hashesCheckpoint_of_legal (h : (hashes digestOf site.rt).Legal World.empty tr) :
    HashesCheckpoint digestOf site tr := by
  rintro tr₁ r tr₂ rfl
  exact ((Monitor.legal_append _).mp h).2.1

/-- A frozen world that hashes its checkpoint answers so. -/
theorem Frozen.hashes (hf : f.checkpointSha256 = digestAnswer digestOf) (c : Call) (w : World) :
    (Campaign.hashes digestOf site.rt).Legal w (f.call site campaign c w).1 := by
  have hanswers : ∀ w o, (Campaign.hashes digestOf site.rt).legal w o (f.answer site.rt w o) := by
    intro w o
    cases o with
    | checkpointSha256 => exact congrFun hf w.checkpoint
    | _ => trivial
  exact (Effects.exec_legal (Campaign.hashes digestOf site.rt) (f.answer site.rt) hanswers
    (Proc.start (c.perform site campaign) ()) w).1

/-- The time and the saves do not ask the files. -/
theorem Settling.legal (h : Settling rest) (hlegal : (world site.rt).Legal w rest) (w' : World) :
    (world site.rt).Legal w' rest ∧ (hashes digestOf site.rt).Legal w' rest := by
  induction rest generalizing w w' with
  | nil => exact ⟨trivial, trivial⟩
  | cons x rest ih =>
    have hrest : Settling rest := fun y hy => h y (List.mem_cons_of_mem _ hy)
    obtain ⟨hnow, hlater⟩ := hlegal
    have htail := ih hrest hlater ((world site.rt).next w' x.1 x.2)
    have hx := h x List.mem_cons_self
    obtain ⟨o, d⟩ := x
    rcases hx with ho | ⟨s, ho⟩
    · obtain rfl : o = .utcNow := ho
      exact ⟨⟨hnow, htail.1⟩, trivial, htail.2⟩
    · obtain rfl : o = .saveCheckpoint s := ho
      exact ⟨⟨hnow, htail.1⟩, trivial, htail.2⟩

/-- A decision that fits is taken, in a frozen world. -/
theorem Frozen.review_writes (hf : f.checkpointSha256 = digestAnswer digestOf)
    (hnow : timestampValid site.rt f.timestamp = true) {objectives : List Dict}
    (hshape : CampaignShape campaign p objectives) (hw : AtRest site (objectives.map rawId) w)
    (hb : w.checkpoint = some b) (hpaused : b.currentStatus = .pausedForHumanReview)
    (hparsed : parseReviewDecision data = .ok r₁) (hbound : r₁.stateSha256 = digestOf b)
    (hfits : Fits site.rt b r₁ f.instant) :
    effectsOf (f.call site campaign (.review data) w).1 ≠ [] := by
  obtain ⟨hran, -⟩ := @Frozen.ran site campaign f openSurroundings f.within_open hnow (.review data) w
  have hobserved (o : Snapshot) (ho : (⟨.observe, o⟩ : Step) ∈
      (f.call site campaign (.review data) w).1) : o.now = f.instant := by
    obtain ⟨hmonitor, -⟩ := Effects.exec_legal (W := World)
      { world site.rt with legal := fun w o r => r = f.answer site.rt w o } (f.answer site.rt)
      (fun _ _ => rfl) (Proc.start ((Call.review data).perform site campaign) ()) w
    obtain ⟨tr₁, tr₂, -, hanswer⟩ := Monitor.Legal.of_mem _ hmonitor ho
    exact congrArg Snapshot.now hanswer
  have haccept : Acceptable site.rt b r₁ (f.call site campaign (.review data) w).1 :=
    ⟨hpaused, fun o ho => by rw [hobserved o ho]; exact hfits⟩
  refine Campaign.review_writes hshape.goodIds hw hb hparsed haccept hran.reach hran.legal ?_
  intro d hd hquiet
  obtain ⟨tr₁, tr₂, htr, hanswer⟩ := Monitor.Legal.of_mem _
    (@Frozen.hashes site campaign f digestOf hf (.review data) w) hd
  rw [htr, effectsOf_append] at hquiet
  rw [hashes_run, world_quiet (List.append_eq_nil_iff.mp hquiet).1] at hanswer
  have hdigest : d = digestAnswer digestOf w.checkpoint := hanswer
  rw [hdigest, hb, hbound]
  rfl

/-- **Two reviews can both take effect**: one makes its checks, the other one runs, and the first one
goes on. -/
theorem reviews_both (hf : f.checkpointSha256 = digestAnswer digestOf)
    (hnow : timestampValid site.rt f.timestamp = true) {objectives : List Dict}
    (hshape : CampaignShape campaign p objectives) (hw : AtRest site (objectives.map rawId) w)
    (hb : w.checkpoint = some b) (hpaused : b.currentStatus = .pausedForHumanReview)
    (hparsed₁ : parseReviewDecision data₁ = .ok r₁) (hbound₁ : r₁.stateSha256 = digestOf b)
    (hfits₁ : Fits site.rt b r₁ f.instant) (hparsed₂ : parseReviewDecision data₂ = .ok r₂)
    (hbound₂ : r₂.stateSha256 = digestOf b) (hfits₂ : Fits site.rt b r₂ f.instant) :
    ∃ (l : List (Step ⊕ Step)) (res₁ res₂ : Except Exc CampaignState × Unit),
      Reach (Proc.start ((Call.review data₁).perform site campaign) ()) (left l) (.pure res₁) ∧
      Reach (Proc.start ((Call.review data₂).perform site campaign) ()) (right l) (.pure res₂) ∧
      (world site.rt).Legal w (merged l) ∧ (hashes digestOf site.rt).Legal w (merged l) ∧
      ¬ AtMostOne site w l res₁ res₂ := by
  obtain ⟨hran₁, -⟩ := @Frozen.ran site campaign f openSurroundings f.within_open hnow
    (.review data₁) w
  obtain ⟨hran₂, -⟩ := @Frozen.ran site campaign f openSurroundings f.within_open hnow
    (.review data₂) w
  have hwrites₁ := @Frozen.review_writes site campaign f w p b r₁ data₁ digestOf hf hnow objectives
    hshape hw hb hpaused hparsed₁ hbound₁ hfits₁
  have hwrites₂ := @Frozen.review_writes site campaign f w p b r₂ data₂ digestOf hf hnow objectives
    hshape hw hb hpaused hparsed₂ hbound₂ hfits₂
  have hwins₁ := hran₁.wins hshape hw hwrites₁
  have hwins₂ := hran₂.wins hshape hw hwrites₂
  have hhashes₁ := @Frozen.hashes site campaign f digestOf hf (.review data₁) w
  have hhashes₂ := @Frozen.hashes site campaign f digestOf hf (.review data₂) w
  generalize hcall₁ : f.call site campaign (.review data₁) w = out₁ at *
  generalize hcall₂ : f.call site campaign (.review data₂) w = out₂ at *
  rcases reviewEnd_of_reach hran₁.reach with ⟨-, hquiet⟩ | ⟨b', r', g, pre, e, rest, hready, hrest,
    htr, -⟩
  · exact absurd hquiet hwrites₁
  · let l : List (Step ⊕ Step) :=
      pre.map .inl ++ out₂.1.map .inr ++ (⟨.appendLog e, ()⟩ :: rest).map .inl
    have hleft : left l = out₁.1 := by
      show left (pre.map .inl ++ out₂.1.map .inr ++ (⟨.appendLog e, ()⟩ :: rest).map .inl) = _
      rw [left_append, left_append, left_inl, left_inr, left_inl, htr, List.append_nil]
    have hright : right l = out₂.1 := by
      show right (pre.map .inl ++ out₂.1.map .inr ++ (⟨.appendLog e, ()⟩ :: rest).map .inl) = _
      rw [right_append, right_append, right_inl, right_inr, right_inl, List.nil_append,
        List.append_nil]
    have hmerged : merged l = pre ++ (out₂.1 ++ ⟨.appendLog e, ()⟩ :: rest) := by
      show merged (pre.map .inl ++ out₂.1.map .inr ++ (⟨.appendLog e, ()⟩ :: rest).map .inl) = _
      rw [merged_append, merged_append, merged_inl, merged_inr, merged_inl, List.append_assoc]
    have hlegal₁ := hran₁.legal
    rw [htr] at hlegal₁ hhashes₁
    obtain ⟨hpre, -, hafter⟩ := (Monitor.legal_append _).mp hlegal₁
    obtain ⟨hprehash, -⟩ := (Monitor.legal_append _).mp hhashes₁
    have hstill : (world site.rt).run w pre = w := world_quiet hready.effects
    have hsettled (w' : World) := @Settling.legal site _ rest digestOf hrest hafter w'
    refine ⟨l, out₁.2.1, out₂.2.1, ?_, ?_, ?_, ?_, ?_⟩
    · rw [hleft]
      exact hran₁.reach
    · rw [hright]
      exact hran₂.reach
    · rw [hmerged]
      refine (Monitor.legal_append _).mpr ⟨hpre, ?_⟩
      rw [hstill]
      exact (Monitor.legal_append _).mpr ⟨hran₂.legal, trivial, (hsettled _).1⟩
    · rw [hmerged]
      refine (Monitor.legal_append _).mpr ⟨hprehash, ?_⟩
      rw [hashes_run, hstill]
      exact (Monitor.legal_append _).mpr ⟨hhashes₂, trivial, (hsettled _).2⟩
    · intro hmost
      refine hmost.one ⟨?_, ?_⟩
      · rw [hleft]
        exact ⟨hwrites₁, hwins₁⟩
      · rw [hright]
        exact ⟨hwrites₂, hwins₂⟩

/-- A campaign that has come to a pause, and two decisions on it that race. -/
theorem Pausable.race {args : RunArgs} {s : CampaignState} {id evidence : String} {configured : Dict}
    {base : PurePath} (h : Pausable site f args campaign p s id configured base evidence)
    (hf : f.checkpointSha256 = digestAnswer digestOf) (hparsed₁ : parseReviewDecision data₁ = .ok r₁)
    (hparsed₂ : parseReviewDecision data₂ = .ok r₂)
    (hfits : ∀ b : CampaignState, b.campaignId = s.campaignId → b.operatorAlias = s.operatorAlias →
      b.currentObjectiveId = some id → b.stateRevision = s.stateRevision + 3 →
      (r₁.stateSha256 = digestOf b ∧ Fits site.rt b r₁ f.instant) ∧
        r₂.stateSha256 = digestOf b ∧ Fits site.rt b r₂ f.instant) :
    ∃ tr w b l res₁ res₂, History site campaign openSurroundings [(.start args, tr)] w ∧
      w.checkpoint = some b ∧ r₁.stateSha256 = digestOf b ∧ r₂.stateSha256 = digestOf b ∧
      Reach (Proc.start ((Call.review data₁).perform site campaign) ()) (left l) (.pure res₁) ∧
      Reach (Proc.start ((Call.review data₂).perform site campaign) ()) (right l) (.pure res₂) ∧
      (world site.rt).Legal w (merged l) ∧
      HashesCheckpoint digestOf site (stepsOf [(.start args, tr)] ++ merged l) ∧
      ¬ AtMostOne site w l res₁ res₂ := by
  obtain ⟨b, hist, hb, hpaused, hcurrent, hcampaign, hoperator, hrevision⟩ := h.history
  obtain ⟨objectives, hshape⟩ := campaignShape_of_parse h.beginnable.parsed
  obtain ⟨⟨hbound₁, hfits₁⟩, hbound₂, hfits₂⟩ := hfits b hcampaign hoperator hcurrent hrevision
  obtain ⟨l, res₁, res₂, hrun₁, hrun₂, hlegal, hhashes, hboth⟩ := reviews_both hf
    h.beginnable.timestamp hshape (hist.atRest hshape) hb hpaused hparsed₁ hbound₁ hfits₁ hparsed₂
    hbound₂ hfits₂
  refine ⟨_, _, b, l, res₁, res₂, hist, hb, hbound₁, hbound₂, hrun₁, hrun₂, hlegal, ?_, hboth⟩
  refine hashesCheckpoint_of_legal ((Monitor.legal_append _).mpr ⟨?_, ?_⟩)
  · have hstart := @Frozen.hashes site campaign f digestOf hf (.start args) World.empty
    simpa [stepsOf] using hstart
  · rw [hashes_run, hist.world]
    exact hhashes

end lost

/-! ### A concrete race -/

/-- Digests that tell the revisions of checkpoints apart. -/
def revisionDigest (s : CampaignState) : String :=
  String.ofList (List.replicate 60 '0') ++ fmt04 (Encodable.encode s.stateRevision)

theorem revisionDigest_injective {s t : CampaignState} (h : revisionDigest s = revisionDigest t) :
    s.stateRevision = t.stateRevision := by
  have hlist := congrArg String.toList h
  unfold revisionDigest at hlist
  rw [String.toList_append, String.toList_append] at hlist
  exact Encodable.encode_injective
    (fmt04_injective (String.toList_injective (List.append_cancel_left hlist)))

/-- The circumstances of the concrete campaign, with those digests. -/
def raceWorld : Frozen := { sampleWorld with checkpointSha256 := digestAnswer revisionDigest }

/-- A decision on the panel objective, bound to the third checkpoint. -/
def sampleReview (id decision : String) : Dict :=
  [("schema_version", .str "1.0"), ("decision_id", .str id), ("campaign_id", .str "example-dry-run"),
    ("objective_id", .str "admin-panel"), ("operator_alias", .str "example-operator"),
    ("decision", .str decision), ("decided_at_utc", .str sampleTime),
    ("state_sha256", .str "0000000000000000000000000000000000000000000000000000000000000006"),
    ("reason", .str "Reviewed.")]

/-- The decision a sample review is read as. -/
def sampleDecision (id decision : String) : ReviewDecision :=
  ⟨id, "example-dry-run", "admin-panel", "example-operator", decision, sampleTime,
    "0000000000000000000000000000000000000000000000000000000000000006", "Reviewed."⟩

theorem parse_approved : parseReviewDecision (sampleReview "decision-1" "approved") =
    .ok (sampleDecision "decision-1" "approved") := by
  rfl

theorem parse_denied : parseReviewDecision (sampleReview "decision-2" "denied") =
    .ok (sampleDecision "decision-2" "denied") := by
  rfl

/-- The sample campaign, paused, and two decisions on it that race. -/
theorem sample_race : ∃ p tr w b l res₁ res₂,
    parseCampaign (sampleCampaign [lockoutObjective]) = .ok p ∧
    History lockoutSite (sampleCampaign [lockoutObjective]) openSurroundings
      [(.start lockoutArgs, tr)] w ∧
    w.checkpoint = some b ∧
    (sampleDecision "decision-1" "approved").stateSha256 = revisionDigest b ∧
    (sampleDecision "decision-2" "denied").stateSha256 = revisionDigest b ∧
    Reach (Proc.start ((Call.review (sampleReview "decision-1" "approved")).perform lockoutSite
      (sampleCampaign [lockoutObjective])) ()) (left l) (.pure res₁) ∧
    Reach (Proc.start ((Call.review (sampleReview "decision-2" "denied")).perform lockoutSite
      (sampleCampaign [lockoutObjective])) ()) (right l) (.pure res₂) ∧
    (world lockoutSite.rt).Legal w (merged l) ∧
    HashesCheckpoint revisionDigest lockoutSite (stepsOf [(.start lockoutArgs, tr)] ++ merged l) ∧
    ¬ AtMostOne lockoutSite w l res₁ res₂ := by
  have hcan : canPause lockoutSite raceWorld lockoutArgs (sampleCampaign [lockoutObjective]) =
    .ok (true, "admin-panel", "example-dry-run", "example-operator") := lockout_canPause
  obtain ⟨p, s, configured, base, evidence, hpausable, hcampaign, hoperator, hrevision⟩ :=
    pausable_of_canPause hcan fun _ _ _ => rfl
  have htime : parseTime lockoutSite.rt sampleTime = .ok 0 := by decide +kernel
  have hworld : raceWorld.checkpointSha256 = digestAnswer revisionDigest := rfl
  have hfits (id decision : String) (b : CampaignState) (hcampaign' : b.campaignId = s.campaignId)
      (hoperator' : b.operatorAlias = s.operatorAlias)
      (hcurrent : b.currentObjectiveId = some "admin-panel")
      (hrevision' : b.stateRevision = s.stateRevision + 3) :
      (sampleDecision id decision).stateSha256 = revisionDigest b ∧
        Fits lockoutSite.rt b (sampleDecision id decision) raceWorld.instant := by
    refine ⟨?_, ⟨0, htime, le_rfl⟩, (hcampaign'.trans hcampaign).symm, hcurrent,
      (hoperator'.trans hoperator).symm⟩
    have hthree : b.stateRevision = 3 := by omega
    unfold revisionDigest
    rw [hthree]
    rfl
  obtain ⟨tr, w, b, l, res₁, res₂, hrace⟩ := hpausable.race hworld parse_approved parse_denied
    fun b h₁ h₂ h₃ h₄ => ⟨hfits _ _ b h₁ h₂ h₃ h₄, hfits _ _ b h₁ h₂ h₃ h₄⟩
  exact ⟨p, tr, w, b, l, res₁, res₂, hpausable.beginnable.parsed, hrace⟩

/-- **Conflicting reviews can both win**: an approval and a denial of one paused objective, bound to
the same checkpoint, both take effect. -/
theorem reviews_bothWin : ∃ hist w b l res₁ res₂,
    History lockoutSite (sampleCampaign [lockoutObjective]) openSurroundings hist w ∧
    w.checkpoint = some b ∧
    parseReviewDecision (sampleReview "decision-1" "approved") =
      .ok (sampleDecision "decision-1" "approved") ∧
    parseReviewDecision (sampleReview "decision-2" "denied") =
      .ok (sampleDecision "decision-2" "denied") ∧
    (sampleDecision "decision-1" "approved").stateSha256 = revisionDigest b ∧
    (sampleDecision "decision-2" "denied").stateSha256 = revisionDigest b ∧
    Reach (Proc.start ((Call.review (sampleReview "decision-1" "approved")).perform lockoutSite
      (sampleCampaign [lockoutObjective])) ()) (left l) (.pure res₁) ∧
    Reach (Proc.start ((Call.review (sampleReview "decision-2" "denied")).perform lockoutSite
      (sampleCampaign [lockoutObjective])) ()) (right l) (.pure res₂) ∧
    (world lockoutSite.rt).Legal w (merged l) ∧
    HashesCheckpoint revisionDigest lockoutSite (stepsOf hist ++ merged l) ∧
    CollisionFree revisionDigest (stepsOf hist ++ merged l) ∧ ¬ AtMostOne lockoutSite w l res₁ res₂ := by
  obtain ⟨p, tr, w, b, l, res₁, res₂, -, hist, hb, hbound₁, hbound₂, hrun₁, hrun₂, hlegal, hsha,
    hboth⟩ := sample_race
  exact ⟨_, w, b, l, res₁, res₂, hist, hb, parse_approved, parse_denied, hbound₁, hbound₂, hrun₁,
    hrun₂, hlegal, hsha, fun s _ t _ hst => revisionDigest_injective hst, hboth⟩

/-- The same race, by the condition. -/
theorem conflictingReviews_iff_sample : ∃ w b l res₁ res₂,
    AtMostOne lockoutSite w l res₁ res₂ ↔
      ¬ ((Blind l ∧ Blind (swapped l)) ∧
        Acceptable lockoutSite.rt b (sampleDecision "decision-1" "approved") (left l) ∧
        Acceptable lockoutSite.rt b (sampleDecision "decision-2" "denied") (right l)) := by
  obtain ⟨p, tr, w, b, l, res₁, res₂, hparsed, hist, hb, hbound₁, hbound₂, hrun₁, hrun₂, hlegal,
    hsha, -⟩ := sample_race
  exact ⟨w, b, l, res₁, res₂, conflictingReviews_iff hparsed hist hb parse_approved parse_denied
    hbound₁ hbound₂ hrun₁ hrun₂ hlegal hsha fun s _ t _ hst => revisionDigest_injective hst⟩

end Aotp.Campaign
