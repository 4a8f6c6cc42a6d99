import Aotp.Evidence.Lifecycle

/-!
# What a refused transition leaves behind

* `transitionInPlace` — a transition as it happens to a finding: its outcome, and the finding after it;
  `transition_eq_inPlace` says that `transition` is its outcome.
* `Untouched` — the fields of the lifecycle are as before.
* `BearsState` — what a finding needs to be accepted in a new state.
* `untouched_iff` — **a transition that raises leaves the finding untouched exactly where a finding
  that may move bears the new state**: the assignments come before the validation.
* `carryOn` — a life whose exceptions are caught; `refusals_harmless_iff` — the same for lives.
-/

namespace Aotp.Evidence

open PyData Aotp.Gate

variable (rt : Runtime)

/-! ### Transitions in place -/

/-- Whether a finding may move to a state.
Source: `finding_lifecycle.transition`, before the first assignment -/
def checkEdge (finding : Dict) (newState : String) : Except Exc Unit := do
  guardE (findingStates.contains newState) (.valueError "unsupported finding state")
  let allowed ← transitionsOf (dget finding "state")
  guardE (allowed.contains newState)
    (.valueError ("transition from " ++ pyStr rt (dget finding "state") ++ " to " ++ newState ++
      " is not allowed"))

/-- The outcome of a transition, and the finding after it.
Source: `finding_lifecycle.transition`, statement by statement -/
def transitionInPlace (disk : Reading) (now : String) (finding : Dict) (newState : String)
    (humanValidated : Bool) (reviewer : String) : Except Exc Unit × Dict :=
  match checkEdge rt finding newState with
  | .error e => (.error e, finding)
  | .ok () =>
    let oldState := dget finding "state"
    let validated := orElse (dget finding "human_validated") (.bool humanValidated)
    let assigned := dset (dset (dset finding "state" (.str newState)) "human_validated" validated)
      "updated_at_utc" (.str now)
    match appendHistory (historyEntry now oldState newState reviewer)
        (dget finding "lifecycle_history") with
    | .error e => (.error e, assigned)
    | .ok history =>
      let moved := dset (dset assigned "lifecycle_history" history) "candidate_sha256" .null
      ((findingCandidate rt disk now).validate rt moved, moved)

/-- What a transition is about. -/
def lifecycleFields : List String :=
  ["state", "human_validated", "lifecycle_history", "updated_at_utc", "candidate_sha256"]

/-- The fields of the lifecycle are as before. -/
def Untouched (before after : Dict) : Prop :=
  ∀ field ∈ lifecycleFields, dget after field = dget before field

/-! ### What a state asks of a finding -/

/-- Source: `finding_candidate.FindingCandidate.validate`, what all but observations refer to -/
def referenceFields : List String :=
  ["evidence_manifest_sha256", "verification_reference", "verification_sha256", "fingerprint"]

/-- The finding a transition makes, with the new record at the end of its history. -/
def settled (now : String) (finding : Dict) (newState : String) (humanValidated : Bool)
    (reviewer : String) : Dict :=
  movedTo finding newState now humanValidated (.arr (itemsOf (dget finding "lifecycle_history") ++
    [historyEntry now (dget finding "state") newState reviewer]))

/-- What a finding needs to be accepted in a new state: a history that is a list, its own fields in
order, a human's validation and verified indicators where it is to be confirmed or reported, a rating
and a completed review where it is to be reported, and nothing secret in it or in the record of the
transition. -/
structure BearsState (disk : Reading) (now : String) (finding : Dict) (newState : String)
    (humanValidated : Bool) (reviewer : String) : Prop where
  history : ∃ entries, dget finding "lifecycle_history" = .arr entries
  vocabulary : checkVocabulary finding = .ok ()
  review : checkReportReview finding = .ok ()
  references : ∀ field ∈ referenceFields, (dget finding field).truthy = true
  validated : newState ∈ ["confirmed", "ready_for_report"] →
    (dget finding "human_validated").truthy = true ∨ humanValidated = true
  component : newState ∈ ["confirmed", "ready_for_report"] →
    (dget finding "component_presence_only").truthy = true →
      (dget finding "reachability_status").pyEq (.str "verified") = true ∧
        (dget finding "exploitability_status").pyEq (.str "verified") = true
  crypto : newState ∈ ["confirmed", "ready_for_report"] →
    (dget finding "crypto_indicator_only").truthy = true →
      (dget finding "crypto_indicator_status").pyEq (.str "verified_weakness") = true
  rated : newState = "ready_for_report" →
    (dget finding "severity_candidate").pyEq (.str "unrated") = false ∧
      (dget finding "evidence_strength").pyEq (.str "weak") = false
  included : newState = "ready_for_report" →
    reportInclusionAllowed rt disk (settled now finding newState humanValidated reviewer) none =
      .ok true
  redacted : assertValueRedacted rt
    (.obj (settled now finding newState humanValidated reviewer)) = .ok ()

variable {rt : Runtime} {disk : Reading} {now newState reviewer state : String} {finding : Dict}
  {humanValidated : Bool}

/-! ### One transition -/

/-- A transition is the outcome of the transition in place. -/
theorem transition_eq_inPlace :
    transition rt disk now finding newState humanValidated reviewer =
      (transitionInPlace rt disk now finding newState humanValidated reviewer).1.map fun _ =>
        (transitionInPlace rt disk now finding newState humanValidated reviewer).2 := by
  have hsplit : transition rt disk now finding newState humanValidated reviewer =
      checkEdge rt finding newState >>= fun _ =>
        appendHistory (historyEntry now (dget finding "state") newState reviewer)
          (dget finding "lifecycle_history") >>= fun history =>
        (findingCandidate rt disk now).validate rt
          (movedTo finding newState now humanValidated history) >>= fun _ =>
        pure (movedTo finding newState now humanValidated history) := by
    unfold transition checkEdge
    simp only [bind_assoc]
  rw [hsplit]
  unfold transitionInPlace
  cases checkEdge rt finding newState with
  | error e => rfl
  | ok u =>
    dsimp only [bind, Except.bind]
    cases appendHistory (historyEntry now (dget finding "state") newState reviewer)
        (dget finding "lifecycle_history") with
    | error e => rfl
    | ok history =>
      dsimp only
      unfold movedTo
      cases (findingCandidate rt disk now).validate rt _ with
      | error e => rfl
      | ok u => rfl

/-- What a finding that may move looks like. -/
theorem checkEdge_eq_ok (h : checkEdge rt finding newState = .ok ()) :
    newState ∈ findingStates ∧
      ∃ state, dget finding "state" = .str state ∧ newState ∈ transitionsFrom state := by
  obtain ⟨_, hnew, h⟩ := bind_eq_ok.mp h
  obtain ⟨allowed, hallowed, h⟩ := bind_eq_ok.mp h
  have hmem : newState ∈ allowed := by simpa using guardE_eq_ok.mp h
  refine ⟨by simpa using guardE_eq_ok.mp hnew, ?_⟩
  unfold transitionsOf at hallowed
  split at hallowed
  · rename_i state hstate
    cases hallowed
    exact ⟨state, hstate, hmem⟩
  · -- a state that is no text has no transitions
    split at hallowed
    · cases hallowed
      exact absurd hmem List.not_mem_nil
    · cases hallowed

/-- A transition assigns the fields of the lifecycle only. -/
theorem dget_movedTo_of_not_mem {history : Json} {field : String} (h : field ∉ lifecycleFields) :
    dget (movedTo finding newState now humanValidated history) field = dget finding field := by
  simp only [lifecycleFields, List.mem_cons, List.not_mem_nil, or_false, not_or] at h
  obtain ⟨hstate, hvalidated, hhistory, hupdated, hdigest⟩ := h
  unfold movedTo
  rw [dget_dset_of_ne _ _ hdigest, dget_dset_of_ne _ _ hhistory, dget_dset_of_ne _ _ hupdated,
    dget_dset_of_ne _ _ hvalidated, dget_dset_of_ne _ _ hstate]

/-- No transition leads to where it starts. -/
theorem ne_of_mem_transitionsFrom (h : newState ∈ transitionsFrom state) : newState ≠ state := by
  have htable : ∀ row ∈ allowedTransitions, row.1 ∉ row.2 := by decide
  rintro rfl
  unfold transitionsFrom at h
  cases hrow : allowedTransitions.lookup newState with
  | none =>
    rw [hrow] at h
    exact absurd h List.not_mem_nil
  | some targets =>
    rw [hrow, Option.getD_some] at h
    obtain ⟨before, after, hsplit, -⟩ := List.lookup_eq_some_iff.mp hrow
    exact htable (newState, targets) (by rw [hsplit]; simp) h

/-- Where a transition starts is a state of findings, and its end is no observation. -/
theorem known_of_mem_transitionsFrom (h : newState ∈ transitionsFrom state) :
    state ∈ findingStates ∧ newState ≠ "observed" := by
  have htable : ∀ row ∈ allowedTransitions, row.1 ∈ findingStates ∧ "observed" ∉ row.2 := by decide
  unfold transitionsFrom at h
  cases hrow : allowedTransitions.lookup state with
  | none =>
    rw [hrow] at h
    exact absurd h List.not_mem_nil
  | some targets =>
    rw [hrow, Option.getD_some] at h
    obtain ⟨before, after, hsplit, -⟩ := List.lookup_eq_some_iff.mp hrow
    have hentry := htable (state, targets) (by rw [hsplit]; simp)
    exact ⟨hentry.1, fun hobserved => hentry.2 (hobserved ▸ h)⟩

section settled

/-- The fields with a fixed vocabulary are checked as before, between two known states. -/
theorem checkVocabulary_movedTo {history : Json} (hstate : dget finding "state" = .str state)
    (hold : state ∈ findingStates) (hnew : newState ∈ findingStates) :
    checkVocabulary (movedTo finding newState now humanValidated history) =
      checkVocabulary finding := by
  have hknown {s : String} (hs : s ∈ findingStates) :
      (findingStates.any fun known => (Json.str s).pyEq (.str known)) = true := by
    rw [List.any_eq_true]
    exact ⟨s, hs, by simp⟩
  have hframe {field : String} (h : field ∉ lifecycleFields) :
      dget (movedTo finding newState now humanValidated history) field = dget finding field :=
    dget_movedTo_of_not_mem h
  unfold checkVocabulary
  rw [movedTo_state, hstate, hknown hold, hknown hnew, hframe (by decide), hframe (by decide),
    hframe (by decide), hframe (by decide), hframe (by decide), hframe (by decide)]

theorem checkReportReview_movedTo {history : Json} :
    checkReportReview (movedTo finding newState now humanValidated history) =
      checkReportReview finding := by
  have hframe {field : String} (h : field ∉ lifecycleFields) :
      dget (movedTo finding newState now humanValidated history) field = dget finding field :=
    dget_movedTo_of_not_mem h
  unfold checkReportReview
  rw [hframe (by decide), hframe (by decide), hframe (by decide), hframe (by decide),
    hframe (by decide)]

/-- What a finding that is no observation refers to. -/
theorem checkReferences_movedTo {history : Json} (hnew : newState ≠ "observed") :
    checkReferences (movedTo finding newState now humanValidated history) = .ok () ↔
      ∀ field ∈ referenceFields, (dget finding field).truthy = true := by
  have hframe {field : String} (h : field ∉ lifecycleFields) :
      dget (movedTo finding newState now humanValidated history) field = dget finding field :=
    dget_movedTo_of_not_mem h
  have hobserved : (Json.str newState).pyEq (.str "observed") = false := by
    rw [Bool.eq_false_iff]
    simpa using hnew
  unfold checkReferences referenceFields
  rw [movedTo_state, hobserved, hframe (by decide), hframe (by decide), hframe (by decide),
    hframe (by decide)]
  simp only [Bool.false_or, bind_eq_ok, guardE_eq_ok, List.forall_mem_cons]
  constructor
  · rintro ⟨_, hmanifest, _, hreference, _, hsha256, hfingerprint⟩
    exact ⟨hmanifest, hreference, hsha256, hfingerprint, by simp⟩
  · rintro ⟨hmanifest, hreference, hsha256, hfingerprint, -⟩
    exact ⟨(), hmanifest, (), hreference, (), hsha256, hfingerprint⟩

theorem not_or_eq_true {p q : Bool} : (!p || q) = true ↔ (p = true → q = true) := by
  cases p <;> simp

theorem truthy_orElse {x : Json} {b : Bool} :
    (orElse x (.bool b)).truthy = true ↔ x.truthy = true ∨ b = true := by
  unfold orElse
  cases hx : x.truthy with
  | true => simp [hx]
  | false => simp [Json.truthy]

/-- What a finding that is to be confirmed needs. -/
theorem checkConfirmation_movedTo {history : Json} :
    checkConfirmation (movedTo finding newState now humanValidated history) = .ok () ↔
      (newState ∈ ["confirmed", "ready_for_report"] →
        ((dget finding "human_validated").truthy = true ∨ humanValidated = true) ∧
        ((dget finding "component_presence_only").truthy = true →
          (dget finding "reachability_status").pyEq (.str "verified") = true ∧
            (dget finding "exploitability_status").pyEq (.str "verified") = true) ∧
        ((dget finding "crypto_indicator_only").truthy = true →
          (dget finding "crypto_indicator_status").pyEq (.str "verified_weakness") = true)) := by
  have hframe {field : String} (h : field ∉ lifecycleFields) :
      dget (movedTo finding newState now humanValidated history) field = dget finding field :=
    dget_movedTo_of_not_mem h
  unfold checkConfirmation
  rw [movedTo_state, inTexts_str, movedTo_validated, hframe (by decide), hframe (by decide),
    hframe (by decide), hframe (by decide), hframe (by decide)]
  simp only [bind_eq_ok, guardE_eq_ok, Except.ok.injEq, exists_eq_left', not_or_eq_true,
    Bool.and_eq_true, decide_eq_true_eq, truthy_orElse]
  constructor
  · rintro ⟨_, hvalidated, _, hcomponent, hcrypto⟩ hmem
    exact ⟨hvalidated hmem, fun hflag => hcomponent ⟨hflag, hmem⟩,
      fun hflag => hcrypto ⟨hflag, hmem⟩⟩
  · intro h
    exact ⟨(), fun hmem => (h hmem).1, (), fun hflag => (h hflag.2).2.1 hflag.1,
      fun hflag => (h hflag.2).2.2 hflag.1⟩

/-- What a finding that is to be reported needs. -/
theorem checkReadiness_movedTo {history : Json} :
    checkReadiness rt disk (movedTo finding newState now humanValidated history) = .ok () ↔
      (newState = "ready_for_report" →
        ((dget finding "severity_candidate").pyEq (.str "unrated") = false ∧
          (dget finding "evidence_strength").pyEq (.str "weak") = false) ∧
        reportInclusionAllowed rt disk (movedTo finding newState now humanValidated history) none =
          .ok true) := by
  have hframe {field : String} (h : field ∉ lifecycleFields) :
      dget (movedTo finding newState now humanValidated history) field = dget finding field :=
    dget_movedTo_of_not_mem h
  unfold checkReadiness
  rw [movedTo_state, hframe (by decide), hframe (by decide)]
  by_cases hready : newState = "ready_for_report"
  · subst hready
    have heq : (Json.str "ready_for_report").pyEq (.str "ready_for_report") = true := by simp
    simp only [heq, Bool.not_true, Bool.false_or, if_true, bind_eq_ok, guardE_eq_ok,
      Bool.not_eq_true', Bool.or_eq_false_iff, true_implies]
    constructor
    · rintro ⟨_, hrated, included, hincluded, rfl⟩
      exact ⟨hrated, hincluded⟩
    · rintro ⟨hrated, hincluded⟩
      exact ⟨(), hrated, true, hincluded, rfl⟩
  · have hne : (Json.str newState).pyEq (.str "ready_for_report") = false := by
      rw [Bool.eq_false_iff]
      simpa using hready
    simp only [hne, Bool.not_false, Bool.true_or, hready, false_implies, iff_true]
    rfl

/-- **A finding that may move is accepted in its new state exactly where it bears it.** -/
theorem validate_settled {entries : List Json} (hstate : dget finding "state" = .str state)
    (hmem : newState ∈ transitionsFrom state) (hnew : newState ∈ findingStates)
    (hentries : dget finding "lifecycle_history" = .arr entries) :
    (findingCandidate rt disk now).validate rt
      (settled now finding newState humanValidated reviewer) = .ok () ↔
      BearsState rt disk now finding newState humanValidated reviewer := by
  have hdigest : dget (settled now finding newState humanValidated reviewer) "candidate_sha256" =
      .null := dget_dset_self _ _ _
  obtain ⟨hold, hobserved⟩ := known_of_mem_transitionsFrom hmem
  have hchecks : checkCandidate rt disk (settled now finding newState humanValidated reviewer) =
      .ok () ↔ BearsState rt disk now finding newState humanValidated reviewer := by
    unfold checkCandidate checkCandidateFields
    simp only [bind_eq_ok]
    constructor
    · rintro ⟨_, ⟨_, hvocabulary, _, hreview, _, hreferences, _, hconfirmation, hreadiness⟩,
        hredacted⟩
      have hconfirmed := checkConfirmation_movedTo.mp hconfirmation
      have hready := checkReadiness_movedTo.mp hreadiness
      exact {
        history := ⟨entries, hentries⟩
        vocabulary := (checkVocabulary_movedTo hstate hold hnew).symm.trans hvocabulary
        review := checkReportReview_movedTo.symm.trans hreview
        references := (checkReferences_movedTo hobserved).mp hreferences
        validated := fun h => (hconfirmed h).1
        component := fun h => (hconfirmed h).2.1
        crypto := fun h => (hconfirmed h).2.2
        rated := fun h => (hready h).1
        included := fun h => (hready h).2
        redacted := hredacted }
    · intro h
      refine ⟨(), ⟨(), (checkVocabulary_movedTo hstate hold hnew).trans h.vocabulary, (),
        checkReportReview_movedTo.trans h.review, (),
        (checkReferences_movedTo hobserved).mpr h.references, (), ?_, ?_⟩, h.redacted⟩
      · exact checkConfirmation_movedTo.mpr fun hin =>
          ⟨h.validated hin, h.component hin, h.crypto hin⟩
      · exact checkReadiness_movedTo.mpr fun hready => ⟨h.rated hready, h.included hready⟩
  constructor
  · intro hvalid
    exact hchecks.mp (BoundRecord.validate_eq_ok.mp hvalid).1
  · intro h
    exact BoundRecord.validate_eq_ok.mpr ⟨hchecks.mpr h, .inl hdigest⟩

end settled

/-! ### Refused transitions -/

variable (rt disk now finding newState humanValidated reviewer) in
/-- What a transition in place did: it was refused at the edge, or at the history, or at the last
check. -/
theorem transitionInPlace_cases :
    (∃ e, checkEdge rt finding newState = .error e ∧
      transitionInPlace rt disk now finding newState humanValidated reviewer =
        (.error e, finding)) ∨
    (checkEdge rt finding newState = .ok () ∧
      (¬ ∃ entries, dget finding "lifecycle_history" = .arr entries) ∧
      ∃ e after, transitionInPlace rt disk now finding newState humanValidated reviewer =
        (.error e, after) ∧ dget after "state" = .str newState) ∨
    ∃ entries, checkEdge rt finding newState = .ok () ∧
      dget finding "lifecycle_history" = .arr entries ∧
      transitionInPlace rt disk now finding newState humanValidated reviewer =
        ((findingCandidate rt disk now).validate rt
          (settled now finding newState humanValidated reviewer),
          settled now finding newState humanValidated reviewer) := by
  unfold transitionInPlace
  cases hedge : checkEdge rt finding newState with
  | error e => exact .inl ⟨e, rfl, rfl⟩
  | ok u =>
    cases hhistory : dget finding "lifecycle_history" with
    | arr entries =>
      refine .inr (.inr ⟨entries, rfl, rfl, ?_⟩)
      unfold settled movedTo
      rw [hhistory]
      rfl
    | _ =>
      refine .inr (.inl ⟨rfl, ?_, _, _, rfl, ?_⟩)
      · rintro ⟨entries, hentries⟩
        cases hentries
      · rw [dget_dset_of_ne _ _ (by decide), dget_dset_of_ne _ _ (by decide), dget_dset_self]

/-- **A transition that raises leaves the finding untouched exactly where a finding that may move
bears the new state.** -/
theorem untouched_iff :
    (∀ e, (transitionInPlace rt disk now finding newState humanValidated reviewer).1 = .error e →
      Untouched finding
        (transitionInPlace rt disk now finding newState humanValidated reviewer).2) ↔
      (checkEdge rt finding newState = .ok () →
        BearsState rt disk now finding newState humanValidated reviewer) := by
  -- a finding that has moved to another state is not untouched
  have htouched {after : Dict} (hedge : checkEdge rt finding newState = .ok ())
      (hafter : dget after "state" = .str newState) : ¬ Untouched finding after := by
    intro h
    obtain ⟨-, state, hstate, hmem⟩ := checkEdge_eq_ok hedge
    have hsame := h "state" (by decide)
    rw [hafter, hstate] at hsame
    exact ne_of_mem_transitionsFrom hmem (Json.str.inj hsame)
  rcases transitionInPlace_cases rt disk now newState reviewer finding humanValidated with
    ⟨e, hedge, hrun⟩ | ⟨hedge, hhistory, e, after, hrun, hafter⟩ | ⟨entries, hedge, hentries, hrun⟩
  · rw [hrun, hedge]
    constructor
    · intro _ hallowed
      cases hallowed
    · intro _ _ _ _ _
      rfl
  · rw [hrun]
    constructor
    · intro h
      exact absurd (h e rfl) (htouched hedge hafter)
    · intro h
      exact absurd (h hedge).history hhistory
  · obtain ⟨hnew, state, hstate, hmem⟩ := checkEdge_eq_ok hedge
    have hvalidate : (findingCandidate rt disk now).validate rt
        (settled now finding newState humanValidated reviewer) = .ok () ↔
        BearsState rt disk now finding newState humanValidated reviewer :=
      validate_settled hstate hmem hnew hentries
    rw [hrun]
    constructor
    · intro h _
      cases houtcome : (findingCandidate rt disk now).validate rt
          (settled now finding newState humanValidated reviewer) with
      | ok u => exact hvalidate.mp houtcome
      | error e => exact absurd (h e houtcome) (htouched hedge (movedTo_state ..))
    · intro h e he
      rw [hvalidate.mpr (h hedge)] at he
      cases he

/-! ### Lives with refusals -/

section carryOn

variable (rt)

/-- One step, and the finding after it, whether or not it raises. -/
def LifeStep.carryOut (finding : Dict) : LifeStep → Except Exc Unit × Dict
  | .transition disk now newState humanValidated reviewer =>
    transitionInPlace rt disk now finding newState humanValidated reviewer
  | .assess field value =>
    if assessedFields.contains field then (.ok (), dset finding field (.str value))
    else (.error .attributeError, finding)

/-- The finding after steps whose exceptions are caught. -/
def carryOn (finding : Dict) (steps : List LifeStep) : Dict :=
  steps.foldl (fun finding step => (step.carryOut rt finding).2) finding

/-- A transition along an edge leads to a state that the finding bears. -/
def LifeStep.Bears (finding : Dict) : LifeStep → Prop
  | .transition disk now newState humanValidated reviewer =>
    checkEdge rt finding newState = .ok () →
      BearsState rt disk now finding newState humanValidated reviewer
  | .assess _ _ => True

theorem carryOn_cons (step : LifeStep) (steps : List LifeStep) :
    carryOn rt finding (step :: steps) = carryOn rt (step.carryOut rt finding).2 steps := rfl

/-- Every step of a life does, from the finding it is taken on. -/
def AllBear : Dict → List LifeStep → Prop
  | _, [] => True
  | finding, step :: steps => step.Bears rt finding ∧ AllBear (step.carryOut rt finding).2 steps

variable {rt} {step : LifeStep} {steps : List LifeStep}

/-- A step is the outcome of the step that is carried out. -/
theorem apply_eq_carryOut :
    step.apply rt finding = (step.carryOut rt finding).1.map fun _ => (step.carryOut rt finding).2 := by
  cases step with
  | transition disk now newState humanValidated reviewer => exact transition_eq_inPlace
  | assess field value =>
    dsimp only [LifeStep.apply, LifeStep.carryOut]
    cases assessedFields.contains field with
    | true => rfl
    | false => rfl

/-- A step that raises leaves a finding that bears it as it was, in every field. -/
theorem carryOut_refused (hbears : step.Bears rt finding) {e : Exc}
    (h : (step.carryOut rt finding).1 = .error e) : (step.carryOut rt finding).2 = finding := by
  cases step with
  | assess field value =>
    dsimp only [LifeStep.carryOut] at h ⊢
    by_cases hfield : assessedFields.contains field = true
    · rw [if_pos hfield] at h
      cases h
    · rw [if_neg hfield]
  | transition disk now newState humanValidated reviewer =>
    dsimp only [LifeStep.carryOut] at h ⊢
    rcases transitionInPlace_cases rt disk now newState reviewer finding humanValidated with
      ⟨e', -, hrun⟩ | ⟨hedge, hhistory, -⟩ | ⟨entries, hedge, hentries, hrun⟩
    · rw [hrun]
    · exact absurd (hbears hedge).history hhistory
    · obtain ⟨hnew, state, hstate, hmem⟩ := checkEdge_eq_ok hedge
      rw [hrun, (validate_settled hstate hmem hnew hentries).mpr (hbears hedge)] at h
      cases h

/-- **A life whose steps the finding bears reaches what its successful steps alone reach.** -/
theorem carryOn_live (h : AllBear rt finding steps) :
    ∃ successful, successful.Sublist steps ∧
      live rt finding successful = .ok (carryOn rt finding steps) := by
  induction steps generalizing finding with
  | nil => exact ⟨[], .slnil, rfl⟩
  | cons step steps ih =>
    obtain ⟨hstep, hrest⟩ := h
    obtain ⟨successful, hsublist, hlive⟩ := ih hrest
    cases houtcome : (step.carryOut rt finding).1 with
    | ok u =>
      refine ⟨step :: successful, hsublist.cons_cons step, ?_⟩
      have happly : step.apply rt finding = .ok (step.carryOut rt finding).2 := by
        rw [apply_eq_carryOut, houtcome]
        rfl
      exact bind_eq_ok.mpr ⟨_, happly, hlive⟩
    | error e =>
      -- a refused step is left out, since it changed nothing
      rw [carryOut_refused hstep houtcome] at hlive
      refine ⟨successful, hsublist.cons step, ?_⟩
      rw [carryOn_cons, carryOut_refused hstep houtcome]
      exact hlive

/-- **Transitions that are refused are harmless**: one that raises leaves the finding untouched exactly
where a finding that may move bears the new state; and a life all of whose steps are so reaches
nothing that its successful steps alone do not reach. -/
theorem refusals_harmless_iff (rt : Runtime) :
    (∀ (disk : Reading) (now : String) (finding : Dict) (newState : String) (humanValidated : Bool)
      (reviewer : String),
      (∀ e, (transitionInPlace rt disk now finding newState humanValidated reviewer).1 = .error e →
        Untouched finding
          (transitionInPlace rt disk now finding newState humanValidated reviewer).2) ↔
        (checkEdge rt finding newState = .ok () →
          BearsState rt disk now finding newState humanValidated reviewer)) ∧
    ∀ (finding : Dict) (steps : List LifeStep), AllBear rt finding steps →
      ∃ successful, successful.Sublist steps ∧
        live rt finding successful = .ok (carryOn rt finding steps) := by
  refine ⟨?_, ?_⟩
  · intro disk now finding newState humanValidated reviewer
    exact untouched_iff
  · intro finding steps h
    exact carryOn_live h

/-- A step that succeeds is one that the finding bears. -/
theorem bears_of_apply {next : Dict} (h : step.apply rt finding = .ok next) :
    step.Bears rt finding ∧ (step.carryOut rt finding).2 = next := by
  rw [apply_eq_carryOut] at h
  cases houtcome : (step.carryOut rt finding).1 with
  | error e =>
    rw [houtcome] at h
    cases h
  | ok u =>
    rw [houtcome] at h
    refine ⟨?_, Except.ok.inj h⟩
    cases step with
    | assess field value => trivial
    | transition disk now newState humanValidated reviewer =>
      apply untouched_iff.mp
      intro e he
      rw [show (transitionInPlace rt disk now finding newState humanValidated reviewer).1 = .ok u
        from houtcome] at he
      cases he

/-- So is every step of a life without refusals, and carrying on is living. -/
theorem allBear_of_live {next : Dict} (h : live rt finding steps = .ok next) :
    AllBear rt finding steps ∧ carryOn rt finding steps = next := by
  induction steps generalizing finding with
  | nil => exact ⟨trivial, Except.ok.inj h⟩
  | cons step steps ih =>
    obtain ⟨between, hstep, hrest⟩ := bind_eq_ok.mp h
    obtain ⟨hbears, hafter⟩ := bears_of_apply hstep
    obtain ⟨hall, hnext⟩ := ih hrest
    refine ⟨⟨hbears, ?_⟩, ?_⟩
    · rw [hafter]
      exact hall
    · rw [carryOn_cons, hafter]
      exact hnext

end carryOn

/-! ### Two lives -/

/-- A payment before everything else. -/
def earlyPayment : LifeStep := .transition failedDisk "2026-01-02T00:00:00Z" "paid" false "system"

/-- A payment that is refused changes nothing about the confirmation that follows. -/
theorem refusals_harmless_iff_payment :
    ∃ successful, successful.Sublist (earlyPayment :: confirmingSteps) ∧
      live digestRuntime failedCandidate successful = .ok confirmedCandidate := by
  have hedge : checkEdge digestRuntime failedCandidate "paid" ≠ .ok () := by decide
  have hbears : earlyPayment.Bears digestRuntime failedCandidate := fun h => absurd h hedge
  obtain ⟨e, he⟩ : ∃ e, (earlyPayment.carryOut digestRuntime failedCandidate).1 = .error e :=
    ⟨.valueError "transition from candidate to paid is not allowed", by decide⟩
  have hsame := carryOut_refused hbears he
  obtain ⟨hall, hcarry⟩ := allBear_of_live confirmingSteps_live
  have hlife : AllBear digestRuntime failedCandidate (earlyPayment :: confirmingSteps) := by
    refine ⟨hbears, ?_⟩
    rw [hsame]
    exact hall
  have hend : carryOn digestRuntime failedCandidate (earlyPayment :: confirmingSteps) =
      confirmedCandidate := by
    rw [carryOn_cons, hsame, hcarry]
  rw [← hend]
  exact (refusals_harmless_iff digestRuntime).2 failedCandidate (earlyPayment :: confirmingSteps)
    hlife

/-- A confirmation and a report that no human validated, and a submission. -/
def unvalidatedSteps : List LifeStep :=
  [.transition failedDisk "2026-01-02T00:00:00Z" "needs_human_review" false "system",
    .transition failedDisk "2026-01-03T00:00:00Z" "confirmed" false "system",
    .transition failedDisk "2026-01-04T00:00:00Z" "ready_for_report" false "system",
    .transition failedDisk "2026-01-05T00:00:00Z" "submitted_manually" false "system"]

/-- The finding after the confirmation that was refused. -/
def refusedConfirmation : Dict :=
  settled "2026-01-03T00:00:00Z" reviewedCandidate "confirmed" false "system"

/-- The finding after the report that was refused. -/
def refusedReport : Dict :=
  settled "2026-01-04T00:00:00Z" refusedConfirmation "ready_for_report" false "system"

/-- The finding that is submitted all the same. -/
def unvalidatedSubmission : Dict :=
  settled "2026-01-05T00:00:00Z" refusedReport "submitted_manually" false "system"

/-- What a transition settles is quiet when its new record and its time are. -/
theorem quiet_settled (h : quietEntries digestRuntime finding = true)
    (hstate : quietValue digestRuntime (.str newState) = true)
    (hnow : quietValue digestRuntime (.str now) = true)
    (hhistory : quietValue digestRuntime (.arr (itemsOf (dget finding "lifecycle_history") ++
      [historyEntry now (dget finding "state") newState reviewer])) = true)
    (hvalidated : quietValue digestRuntime
      (orElse (dget finding "human_validated") (.bool humanValidated)) = true) :
    quietEntries digestRuntime (settled now finding newState humanValidated reviewer) = true := by
  unfold settled
  exact quiet_movedTo h hstate hnow hhistory hvalidated

/-- A candidate whose fields check out, without secrets and without a digest, is valid. -/
theorem validate_of_quiet (hfields : checkCandidateFields rt disk finding = .ok ())
    (hquiet : quietEntries rt finding = true) (hdigest : dget finding "candidate_sha256" = .null) :
    (findingCandidate rt disk now).validate rt finding = .ok () := by
  have hvalue : quietValue rt (.obj finding) = true := by
    rw [quietValue]
    exact hquiet
  have hchecks : checkCandidate rt disk finding = .ok () :=
    bind_eq_ok.mpr ⟨(), hfields, assertValueRedacted_of_quiet hvalue⟩
  exact BoundRecord.validate_eq_ok.mpr ⟨hchecks, .inl hdigest⟩

theorem refusedConfirmation_quiet : quietEntries digestRuntime refusedConfirmation = true := by
  unfold refusedConfirmation
  apply quiet_settled reviewedCandidate_quiet
  all_goals decide

theorem unvalidatedSubmission_quiet :
    quietEntries digestRuntime unvalidatedSubmission = true := by
  have hreport : quietEntries digestRuntime refusedReport = true := by
    unfold refusedReport
    apply quiet_settled refusedConfirmation_quiet
    all_goals decide
  unfold unvalidatedSubmission
  apply quiet_settled hreport
  all_goals decide

/-- **A refused confirmation stays.** It raises, and leaves the finding confirmed; so does the report
after it, and the submission is accepted, of a finding that no human validated. No life of successful
steps comes there. -/
theorem refusals_pass_review :
    transitionInPlace digestRuntime failedDisk "2026-01-03T00:00:00Z" reviewedCandidate "confirmed"
        false "system" =
      (.error (.valueError "confirmed findings require human validation"), refusedConfirmation) ∧
    dget reviewedCandidate "state" = .str "needs_human_review" ∧
    dget refusedConfirmation "state" = .str "confirmed" ∧
    carryOn digestRuntime failedCandidate unvalidatedSteps = unvalidatedSubmission ∧
    (findingCandidate digestRuntime failedDisk "2026-01-05T00:00:00Z").validate digestRuntime
      unvalidatedSubmission = .ok () ∧
    dget unvalidatedSubmission "state" = .str "submitted_manually" ∧
    dget unvalidatedSubmission "human_validated" = .bool false ∧
    ∀ steps, live digestRuntime failedCandidate steps ≠ .ok unvalidatedSubmission := by
  have hrefused : transitionInPlace digestRuntime failedDisk "2026-01-03T00:00:00Z"
      reviewedCandidate "confirmed" false "system" =
      (.error (.valueError "confirmed findings require human validation"), refusedConfirmation) := by
    rfl
  have hreport : (transitionInPlace digestRuntime failedDisk "2026-01-04T00:00:00Z"
      refusedConfirmation "ready_for_report" false "system").2 = refusedReport := by
    rfl
  have hsubmission : (transitionInPlace digestRuntime failedDisk "2026-01-05T00:00:00Z"
      refusedReport "submitted_manually" false "system").2 = unvalidatedSubmission := by
    rfl
  have hreview : (transitionInPlace digestRuntime failedDisk "2026-01-02T00:00:00Z"
      failedCandidate "needs_human_review" false "system").2 = reviewedCandidate := by
    rfl
  have hcarry : carryOn digestRuntime failedCandidate unvalidatedSteps = unvalidatedSubmission := by
    unfold unvalidatedSteps
    rw [carryOn_cons, LifeStep.carryOut, hreview, carryOn_cons, LifeStep.carryOut, hrefused,
      carryOn_cons, LifeStep.carryOut, hreport, carryOn_cons, LifeStep.carryOut, hsubmission]
    rfl
  have hfields : checkCandidateFields digestRuntime failedDisk unvalidatedSubmission = .ok () := by
    decide
  have hvalid : (findingCandidate digestRuntime failedDisk "2026-01-05T00:00:00Z").validate
      digestRuntime unvalidatedSubmission = .ok () :=
    validate_of_quiet hfields unvalidatedSubmission_quiet (dget_dset_self _ _ _)
  have hvalidated : dget unvalidatedSubmission "human_validated" = .bool false := by rfl
  have hstate : dget unvalidatedSubmission "state" = .str "submitted_manually" := by
    unfold unvalidatedSubmission settled
    exact movedTo_state ..
  have hconfirmed : dget refusedConfirmation "state" = .str "confirmed" := by
    unfold refusedConfirmation settled
    exact movedTo_state ..
  refine ⟨hrefused, movedTo_state .., hconfirmed, hcarry, hvalid, hstate, hvalidated, ?_⟩
  intro steps hlive
  obtain ⟨edges, state, halive⟩ := alive_of_live (alive_of_create failedCandidate_created) hlive
  have hsubmitted := halive.state_eq
  rw [hstate] at hsubmitted
  have hbeyond : state ∈ beyondReview := by
    rw [← Json.str.inj hsubmitted]
    decide
  have htrue := halive.validated hbeyond
  rw [hvalidated] at htrue
  cases htrue

end Aotp.Evidence
