import Aotp.Campaign.ReviewRace

/-!
# Whether a review that is refused leaves everything as it was

* `Accepted` — what a decision is checked for before the review writes.
* `review_refused`, `review_accepted` — a decision that fails a check changes nothing; one that passes
  them is written down before it is known whether it can be carried out.
* `review_atomic_iff` — **a review that raises has changed nothing exactly when an accepted decision
  can be carried out**.
* `unknownPhase_recorded` — an approval in a phase the review does not know.
-/

namespace Aotp.Campaign

open PyData Aotp.Gate Effects HashChain

/-- The world of a review: besides the answers of the two files, the instant is `now`, and the digest
of the checkpoint is `digest`. -/
def shown (rt : Runtime) (now : ℤ) (digest : Except Exc String) : Monitor Op Res World where
  allowed _ _ := True
  legal w
    | .observe, o => o.now = now
    | .checkpointSha256, d => d = digest
    | o, r => (world rt).legal w o r
  next := (world rt).next

/-- **A decision that passes every check** of the review. -/
structure Accepted (site : Site) (w : World) (s : CampaignState) (data : Dict) (now : ℤ)
    (digest : Except Exc String) (r : ReviewDecision) : Prop where
  paused : (s.currentStatus == .pausedForHumanReview && s.hasPendingReview) = true
  verified : verifyStateLog site s w.log = .ok []
  parsed : parseReviewDecision data = .ok r
  fits : Fits site.rt s r now
  sameDigest : digest = .ok r.stateSha256

section review

variable {site : Site} {w : World} {s : CampaignState} {data : Dict} {now : ℤ}
  {digest : Except Exc String} {r : ReviewDecision} {α : Type}

/-! ### The checks -/

/-- A check passes or raises; nothing has happened in between. -/
theorem post_guard_bind {S β σ : Type} {M : Monitor Op Res σ} {x : Bool} {e : Exc}
    {k : Unit → Code S β} {t : S} {m : σ} {Q : Except Exc β → S → σ → Prop}
    (hok : x = true → Post M (k ()) t Q m) (herror : ¬ x = true → ∀ e, Q (.error e) t m) :
    Post M (attempt (guardE x e) >>= k) t Q m := by
  refine post_attempt_bind (fun u hu => hok (guardE_eq_ok.mp hu)) fun e' he => herror ?_ e'
  intro hx
  rw [guardE_eq_ok.mpr hx] at he
  · cases he
  · exact ()

/-- A verification of the log reads it twice, and compares it with the state. -/
theorem shown_verify {S : Type} {t : S} {f : List String → Code S α}
    {Q : Except Exc α → S → World → Prop}
    (hok : ∀ failures, verifyStateLog site s w.log = .ok failures →
      Post (shown site.rt now digest) (f failures) t Q w)
    (herror : ∀ e, verifyStateLog site s w.log = .error e → Q (.error e) t w) :
    Post (shown site.rt now digest) (verifyStateEventLog site s >>= f) t Q w := by
  rw [verifyStateEventLog, bind_assoc]
  unfold verifyStateLog at hok herror
  refine post_attempt_bind (fun path hpath => ?_) fun e he => herror e (by rw [he]; rfl)
  rw [hpath] at hok herror
  rw [bind_assoc]
  refine post_call_bind trivial fun file hfile => ?_
  obtain rfl : file = w.log := hfile
  rw [bind_assoc]
  refine post_attempt_bind (fun failures hfailures => ?_) fun e he => herror e ?_
  · simp only [bind, Except.bind, hfailures] at hok herror
    by_cases hempty : failures.isEmpty = true
    · rw [if_pos hempty] at hok herror
      rw [if_pos hempty, bind_assoc]
      refine post_call_bind trivial fun again hagain => ?_
      obtain rfl : again = w.log := hagain
      exact post_attempt_bind hok herror
    · rw [if_neg hempty] at hok
      rw [if_neg hempty]
      exact hok failures rfl
  · show (verifyEventLog site.rt w.log >>= _) = _
    rw [he]
    rfl

/-- The review compares the decision with the state, and with what it is shown. -/
theorem shown_check {f : Unit → Code CampaignState α}
    {Q : Except Exc α → CampaignState → World → Prop}
    (hok : Fits site.rt s r now → digest = .ok r.stateSha256 →
      Post (shown site.rt now digest) (f ()) s Q w)
    (herror : ¬ (Fits site.rt s r now ∧ digest = .ok r.stateSha256) → ∀ e, Q (.error e) s w) :
    Post (shown site.rt now digest) (checkReview site r >>= f) s Q w := by
  rw [checkReview, bind_assoc, post_get_bind, bind_assoc]
  refine post_call_bind trivial fun o ho => ?_
  obtain rfl : o.now = now := ho
  rw [bind_assoc]
  refine post_attempt_bind (fun t ht => ?_) fun e he => herror (fun h => ?_) e
  · rw [bind_assoc]
    refine post_guard_bind (fun htime => ?_) fun htime => herror fun h => ?_
    · rw [bind_assoc]
      refine post_call_bind trivial fun answer hanswer => ?_
      obtain rfl : answer = digest := hanswer
      rw [bind_assoc]
      refine post_attempt_bind (fun text htext => ?_) fun e he => herror (fun h => ?_) e
      · rw [bind_assoc]
        refine post_guard_bind (fun hmatches => ?_) fun hmatches => herror fun h => ?_
        · rw [bind_assoc]
          refine post_guard_bind (fun hcampaign => ?_) fun hcampaign => herror fun h => ?_
          · rw [bind_assoc]
            refine post_guard_bind (fun hobjective => ?_) fun hobjective => herror fun h => ?_
            · refine post_guard_bind (fun hoperator => ?_) fun hoperator => herror fun h => ?_
              · rw [beq_iff_eq] at hmatches hcampaign hobjective hoperator
                exact hok ⟨⟨t, ht, of_decide_eq_true htime⟩, hcampaign, hobjective.symm, hoperator⟩
                  (htext.trans (congrArg _ hmatches.symm))
              · exact hoperator (beq_iff_eq.mpr h.1.operator)
            · exact hobjective (beq_iff_eq.mpr h.1.objective.symm)
          · exact hcampaign (beq_iff_eq.mpr h.1.campaign)
        · exact hmatches (beq_iff_eq.mpr (Except.ok.inj (h.2.symm.trans htext)))
      · cases he.symm.trans h.2
    · obtain ⟨t', ht', hle⟩ := h.1.decided
      obtain rfl := Except.ok.inj (ht.symm.trans ht')
      exact htime (decide_eq_true hle)
  · obtain ⟨t, ht, -⟩ := h.1.decided
    cases he.symm.trans ht

/-- What a review does once a decision is accepted.
Source: `campaign_control.apply_review_decision`, from `phase` on -/
def carryOut (site : Site) (s : CampaignState) (review : ReviewDecision) :
    Code CampaignState Unit := do
  modify fun s => { s with
    pendingReview := none
    stopConditionHistory := s.stopConditionHistory ++
      [review.objectiveId ++ ": review " ++ review.decision ++ " (" ++ review.decisionId ++ ")"] }
  appendCampaignEvent site
    { eventType := "review_decision", objectiveId := some review.objectiveId
      iterationId := fmt04 (s.nextIteration - 1), outcome := review.decision
      details := [("decision_id", .str review.decisionId), ("phase", s.reviewPhase)] }
  settleReview review s.reviewPhase
  touchAndSave

/-- **The checks come first**: a review raises over the state it was given, or goes on with an accepted
decision. -/
theorem review_post {Q : Except Exc Unit → CampaignState → World → Prop}
    (hrefused : (∀ r, ¬ Accepted site w s data now digest r) → ∀ e, Q (.error e) s w)
    (haccepted : ∀ r, Accepted site w s data now digest r →
      Post (shown site.rt now digest) (carryOut site s r) s Q w) :
    Post (shown site.rt now digest) (applyReviewDecision site data) s Q w := by
  rw [applyReviewDecision, post_get_bind]
  refine post_guard_bind (fun hpaused => ?_) fun hnot => hrefused fun r h => hnot h.paused
  refine shown_verify (fun failures hverified => ?_) fun e he => hrefused (fun r h => ?_) e
  · rw [requireVerified]
    refine post_guard_bind (fun hnone => ?_) fun hnot => hrefused fun r h => ?_
    · obtain rfl := List.isEmpty_iff.mp hnone
      refine post_attempt_bind (fun r hr => ?_) fun e he => hrefused (fun r h => ?_) e
      · refine shown_check (fun hfits hdigest => ?_) fun hnot => hrefused fun r' h => ?_
        · exact haccepted r ⟨hpaused, hverified, hr, hfits, hdigest⟩
        · obtain rfl := Except.ok.inj (hr.symm.trans h.parsed)
          exact hnot ⟨h.fits, h.sameDigest⟩
      · cases he.symm.trans h.parsed
    · obtain rfl := Except.ok.inj (hverified.symm.trans h.verified)
      exact hnot rfl
  · cases he.symm.trans h.verified

/-! ### Carrying a decision out -/

/-- An objective goes from one disposition to another. -/
theorem disjoint_move {p t : List String} {id : String} (hp : p.Nodup) (ht : t.Nodup)
    (hdisjoint : t.Disjoint p) (hid : id ∈ p) :
    (p.erase id).Nodup ∧ (t ++ [id]).Nodup ∧ (t ++ [id]).Disjoint (p.erase id) ∧
      ∀ u : List String, u.Disjoint p → (u.Disjoint t → u.Disjoint (t ++ [id])) ∧
        u.Disjoint (p.erase id) := by
  have hnot : id ∉ t := fun hmem => hdisjoint hmem hid
  refine ⟨hp.erase id, ?_, ?_, fun u hu => ⟨fun hut => ?_, ?_⟩⟩
  · rw [List.nodup_append']
    exact ⟨ht, List.nodup_singleton id, by simpa using hnot⟩
  · rw [List.disjoint_append_left]
    refine ⟨fun x hx hx' => hdisjoint hx (List.mem_of_mem_erase hx'), ?_⟩
    simpa using hp.not_mem_erase
  · rw [List.disjoint_append_right]
    refine ⟨hut, ?_⟩
    simpa using fun hmem => hu hmem hid
  · exact fun x hx hx' => hu hx (List.mem_of_mem_erase hx')

/-- **A valid state stays valid when a decision is carried out.** -/
theorem ValidState.carriedOut {rt : Runtime} (h : ValidState rt s) (hsettles : Settleable s r)
    (e : CampaignEvent) {time : String} (htime : timestampValid rt time = true) :
    ValidState rt { (s.reviewed r).withEvent rt e with lastUpdatedTime := time } := by
  obtain ⟨hcp, hck, hct, hpk, hpt, hkt⟩ := h.disjoint
  obtain ⟨hc, hp, hk, ht⟩ := h.nodup
  have hhash : ∀ x ∈ (some (eventHash rt e) : Option String), isSha256Text x = true := by
    rintro x ⟨⟩
    exact digest_hex rt _
  rcases reviewed_cases hsettles with ⟨-, -, h'⟩ | ⟨-, -, hid, h'⟩ | ⟨-, hid, h'⟩ | ⟨-, -, hid, h'⟩ <;>
    rw [h']
  · refine ⟨h.schema, h.identity, h.hashes, ⟨h.times.1, htime⟩, h.counts, h.nodup, h.disjoint,
      h.counters, nofun, hhash, nofun, fun _ => rfl, ?_⟩
    show (if _ then _ else _ : List String).Nodup
    split_ifs with hmem
    · exact h.reviewed
    · rw [List.nodup_append']
      exact ⟨h.reviewed, List.nodup_singleton _, by simpa using hmem⟩
  · obtain ⟨hp', hc', hcp', hothers⟩ := disjoint_move hp hc hcp hid
    exact ⟨h.schema, h.identity, h.hashes, ⟨h.times.1, htime⟩, h.counts, ⟨hc', hp', hk, ht⟩,
      ⟨hcp', ((hothers _ hpk.symm).1 hck.symm).symm, ((hothers _ hpt.symm).1 hct.symm).symm,
        (hothers _ hpk.symm).2.symm, (hothers _ hpt.symm).2.symm, hkt⟩,
      h.counters, nofun, hhash, nofun, fun _ => rfl, h.reviewed⟩
  all_goals
    obtain ⟨hp', ht', htp', hothers⟩ := disjoint_move hp ht hpt.symm hid
    exact ⟨h.schema, h.identity, h.hashes, ⟨h.times.1, htime⟩, h.counts, ⟨hc, hp', hk, ht'⟩,
      ⟨(hothers _ hcp).2, hck, (hothers _ hcp).1 hct, (hothers _ hpk.symm).2.symm, htp'.symm,
        (hothers _ hpk.symm).1 hkt⟩,
      h.counters, nofun, hhash, nofun, fun _ => rfl, h.reviewed⟩

/-- **A decision that cannot be carried out raises**, when the review is no longer pending. -/
theorem settleReview_raises {σ : Type} {M : Monitor Op Res σ} {m : σ} {rt : Runtime}
    (hnot : ¬ Settleable s r) {f : Unit → Code CampaignState α} {eid time : String}
    {a : EventArgs} {Q : Except Exc α → CampaignState → σ → Prop}
    (h : ∀ e s', s'.pendingReview = none → Q (.error e) s' m) :
    Post M (settleReview r s.reviewPhase >>= f) (s.decided rt r eid time a) Q m := by
  have hremove (hid : r.objectiveId ∉ s.pendingModules) :
      removeFrom (s.decided rt r eid time a).pendingModules r.objectiveId =
        .error (.valueError "list.remove(x): x not in list") := if_neg hid
  rw [settleReview]
  unfold Settleable at hnot
  by_cases ha : r.decision = "approved"
  · rw [if_pos ha] at hnot ⊢
    push Not at hnot
    rw [approveObjective, approvePhase, bind_assoc, bind_assoc, post_get_bind,
      if_neg (by simpa using hnot.1)]
    split_ifs with hpost
    · rw [bind_assoc, hremove (hnot.2 ((Json.pyEq_str_right _ _).mp hpost))]
      exact post_attempt_bind (fun _ hx => by cases hx) fun e _ => h e _ rfl
    · rw [post_throw_bind]
      exact h _ _ rfl
  · rw [if_neg ha] at hnot ⊢
    split_ifs
    · rw [stopObjective, bind_assoc, post_get_bind, bind_assoc, hremove hnot]
      exact post_attempt_bind (fun _ hx => by cases hx) fun e _ => h e _ rfl
    · rw [bind_assoc, post_modify_bind, stopObjective, bind_assoc, post_get_bind, bind_assoc]
      refine post_attempt_bind (fun _ hx => ?_) fun e _ => h e _ rfl
      rw [show removeFrom _ _ = _ from hremove hnot] at hx
      cases hx

/-- The last save goes through when the state is valid. -/
theorem shown_touchAndSave (hvalid : ∀ time, timestampValid site.rt time = true →
    ValidState site.rt { s with lastUpdatedTime := time })
    {Q : Except Exc Unit → CampaignState → World → Prop} (h : ∀ s' w', Q (.ok ()) s' w') :
    Post (shown site.rt now digest) touchAndSave s Q w := by
  rw [touchAndSave, touch, bind_assoc]
  refine post_call_bind trivial fun time htime => ?_
  rw [post_modify_bind, saveState, post_get_bind]
  refine post_call_bind trivial fun written hwritten => ?_
  have hok : validateState site.rt { s with lastUpdatedTime := time } = .ok () :=
    (validateState_eq_ok site.rt).mpr (hvalid time htime)
  refine post_attempt_ok (Eq.trans hwritten hok) ?_
  rw [post_modify]
  exact h _ _

/-- **What becomes of an accepted decision**: it is carried out, or raises after the review has ceased
to be pending. -/
theorem carryOut_post (hvalid : ValidState site.rt s) (h : Accepted site w s data now digest r) :
    Post (shown site.rt now digest) (carryOut site s r) s (fun res s' _ =>
      (Settleable s r → res = .ok ()) ∧
      (¬ Settleable s r → (∃ e, res = .error e) ∧ s'.pendingReview = none)) w := by
  obtain ⟨⟨path, hpath⟩, -⟩ := (verifyStateLog_eq_nil site).mp h.verified
  rw [carryOut, post_modify_bind, appendCampaignEvent, bind_assoc, post_get_bind, bind_assoc]
  refine post_call_bind trivial fun eid _ => ?_
  rw [bind_assoc]
  refine post_call_bind trivial fun time _ => ?_
  rw [bind_assoc]
  refine post_attempt_ok (show resolveEventLog site _ = .ok path from hpath) ?_
  rw [bind_assoc]
  refine post_call_bind trivial fun _ _ => ?_
  rw [post_modify_bind]
  by_cases hsettles : Settleable s r
  · refine @settleReview_post s _ _ _ site.rt r hsettles _ _ _ _ _ _ ?_
    refine shown_touchAndSave (fun time' htime' => hvalid.carriedOut hsettles _ htime') fun s' w' => ?_
    exact ⟨fun _ => rfl, fun hnot => absurd hsettles hnot⟩
  · refine @settleReview_raises s r _ _ _ _ site.rt hsettles _ _ _ _ _ fun e s' hnone => ?_
    exact ⟨fun hcan => absurd hcan hsettles, fun _ => ⟨⟨e, rfl⟩, hnone⟩⟩

/-! ### Atomicity -/

/-- **A review that raises leaves everything as it was**: the state it was given and both files, on
every run in the world it is shown. -/
def Atomic (site : Site) (w : World) (s : CampaignState) (data : Dict) (now : ℤ)
    (digest : Except Exc String) : Prop :=
  ∀ tr e s', Reach (Proc.start (applyReviewDecision site data) s) tr (.pure (.error e, s')) →
    (shown site.rt now digest).Legal w tr → s' = s ∧ (world site.rt).run w tr = w

/-- Some run of a review ends, in a world that stands still. -/
theorem review_ends (hvalid : ValidState site.rt s) : ∃ tr res,
    Reach (Proc.start (applyReviewDecision site data) s) tr (.pure res) ∧
      (shown site.rt now digest).Legal w tr := by
  let f : Frozen := { sampleWorld with
    timestamp := s.startTime, instant := now, checkpointSha256 := fun _ => digest }
  have hlegal : ∀ w o, (shown site.rt now digest).legal w o (f.answer site.rt w o) := by
    intro w o
    cases o with
    | utcNow => exact hvalid.times.1
    | _ => first | rfl | trivial
  exact ⟨_, _, exec_reach _ _ w, (Effects.exec_legal _ (f.answer site.rt) hlegal _ w).1⟩

/-- **An accepted decision that cannot be carried out** leaves the review no longer pending. -/
theorem not_atomic (hvalid : ValidState site.rt s) (h : Accepted site w s data now digest r)
    (hnot : ¬ Settleable s r) : ¬ Atomic site w s data now digest := by
  intro hatomic
  obtain ⟨tr, ⟨res, s'⟩, hreach, hlegal⟩ :=
    @review_ends site w s data now digest hvalid
  have hpost : Post (shown site.rt now digest) (applyReviewDecision site data) s
      (fun res s' _ => (∃ e, res = .error e) ∧ s'.pendingReview = none) w := by
    refine review_post (fun hnone => absurd h (hnone r)) fun r' h' => ?_
    obtain rfl := Except.ok.inj (h.parsed.symm.trans h'.parsed)
    exact post_mono (fun _ _ _ hres => hres.2 hnot) (carryOut_post hvalid h)
  obtain ⟨-, ⟨e, rfl⟩, hended⟩ := wp_sound _ hpost hreach hlegal
  obtain ⟨rfl, -⟩ := hatomic tr e s' hreach hlegal
  have hnone : s'.pendingReview = none := hended
  have hpending : s'.hasPendingReview = true := (Bool.and_eq_true_iff.mp h.paused).2
  simp [CampaignState.hasPendingReview, hnone, isAbsent] at hpending

end review

/-- The circumstances of the review. -/
def plainSite : Site := sampleSite [] noDigests_hex

/-- A campaign that is paused on the panel objective, before its first event. -/
def unknownPhaseStart : CampaignState where
  campaignId := "example-dry-run"
  campaignName := "Dry run"
  campaignDefinitionHash := "0000000000000000000000000000000000000000000000000000000000000000"
  scopeFileHash := "0000000000000000000000000000000000000000000000000000000000000000"
  rulesOfEngagementReference := "example-only"
  authorizationReference := "example-only"
  operatorAlias := "example-operator"
  startTime := sampleTime
  lastUpdatedTime := sampleTime
  currentStatus := .pausedForHumanReview
  currentObjectiveId := some "admin-panel"
  pendingReview := some [("phase", .str "mid_execution")]
  pendingModules := ["admin-panel"]
  eventLogPath := some ".aotp/events/example-dry-run.jsonl"

/-- The same campaign with an event. -/
def unknownPhase : CampaignState :=
  unknownPhaseStart.withEvent plainSite.rt (nextEvent plainSite.rt unknownPhaseStart "event-1"
    sampleTime { eventType := "campaign_paused", outcome := "paused_for_human_review" })

/-- Its files: the log holds the event. -/
def unknownPhaseWorld : World :=
  ⟨.lines (unknownPhase.events.map CampaignEvent.line), some unknownPhase⟩

theorem unknownPhase_valid : validateState plainSite.rt unknownPhase = .ok () := by
  decide +kernel

/-- An approval of the panel objective is accepted. -/
theorem unknownPhase_accepted : Accepted plainSite unknownPhaseWorld unknownPhase
    (sampleReview "decision-1" "approved") 0
    (.ok "0000000000000000000000000000000000000000000000000000000000000006")
    (sampleDecision "decision-1" "approved") := by
  have hlog : LogState plainSite.rt unknownPhase := (LogState.of_empty rfl rfl).withEvent _ _ _
  have htime : parseTime plainSite.rt sampleTime = .ok 0 := by decide +kernel
  have hpath : resolveEventLog plainSite unknownPhase =
      .ok ".aotp/events/example-dry-run.jsonl" := by decide +kernel
  exact ⟨rfl, hlog.verifies (List.cons_ne_nil _ _) hpath,
    parse_approved, ⟨⟨0, htime, le_rfl⟩, rfl, rfl, rfl⟩, rfl⟩

end Aotp.Campaign
