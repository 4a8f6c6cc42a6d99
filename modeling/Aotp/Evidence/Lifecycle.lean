import Aotp.Evidence.Loaders
import Aotp.Gate.Quiet

/-!
# The lifecycle of a finding

* `createCandidate`, `transition` — a candidate from evidence, and one step of its lifecycle.
* `LifeStep`, `live` — a sequence of steps, with what a reviewer assesses in between.
* `Walk` — a path through the allowed transitions; `History` — the lifecycle history records one.
* `lifecycle_holds` — **the invariant of every lifecycle**: the history is a path from `candidate`
  to the current state, and what is confirmed or beyond was validated by a human, reviewed, and
  is no bare indicator.
-/

namespace Aotp.Evidence

open PyData Aotp.Gate

variable (rt : Runtime)

/-! ### Creation -/

/-- Source: `report_review.ReportReviewGate` -/
structure ReportReviewGate where
  reviewRequired : Bool
  allowed : Bool
  status : String
  reason : String
  reviewer : Json := .null

/-- Source: `report_review.evaluate_report_review_gate` -/
def evaluateReportReviewGate (disk : Reading) (manifest : Dict) (reviewDecision : Option Dict) :
    Except Exc ReportReviewGate := do
  if ← manifestRequiresReportReview manifest then
    match reviewDecision with
    | none =>
      pure ⟨true, false, "excluded_pending_review",
        "panel evidence requires explicit human review before finding candidate creation", .null⟩
    | some decision =>
      (panelReportReviewDecision rt disk.now).validate rt decision
      if (dget decision "evidence_manifest_sha256").pyEq (dget manifest "manifest_sha256") then
        pure ⟨true, true, "candidate_reviewed",
          "panel evidence was explicitly reviewed before finding candidate creation",
          dget decision "reviewer_alias"⟩
      else
        pure ⟨true, false, "excluded_pending_review",
          "panel report review decision does not match the evidence manifest", .null⟩
  else
    pure ⟨false, true, "not_required", "report review is not required for this evidence type",
      .null⟩

/-- The arguments of `create_candidate`. -/
structure CandidateRequest where
  evidencePath : String
  verificationPath : String
  findingId : String
  title : String
  summary : String
  severityCandidate : String := "unrated"
  evidenceStrength : String := "weak"
  reportReviewPath : Option String := none

/-- `"|".join(xs)`, which takes texts only. -/
def joinBars (xs : List Json) : Except Exc String := do
  let texts ← xs.mapM fun x => match x with
    | .str s => pure s
    | _ => throw .typeError
  pure (String.intercalate "|" texts)

/-- Whether a manifest of cryptographic controls records weak-algorithm indicators.
Source: `finding_candidate.create_candidate`, `crypto_indicator_only` -/
def hasWeakIndicators (manifest : Dict) : Except Exc Bool := do
  let metadata ← (dget manifest "response_metadata").attrs
  let record := dgetD metadata "crypto_record" (.obj [])
  pure ((dget manifest "module_name").pyEq (.str "crypto_controls") && isMapping record &&
    (dget (mappingOf record) "weak_algorithm_indicators").truthy)

/-- `x if x is not None else None` of a text. -/
def optional (x : Option String) : Json := match x with
  | some s => .str s
  | none => .null

/-- What `create_candidate` puts together.
Source: `finding_candidate.create_candidate`, the call of `FindingCandidate` -/
def newCandidate (request : CandidateRequest) (now : String) (manifest verification : Dict)
    (gate : ReportReviewGate) (reviewSha256 : Option String) (verificationSha256 fingerprint : String)
    (weakIndicators : Bool) : Dict :=
  let presence := (dget manifest "module_name").pyEq (.str "sbom_review")
  let assessed : Json := .str (if presence then "not_assessed" else "not_applicable")
  [("finding_id", .str request.findingId), ("evidence_reference", .str request.evidencePath),
    ("state", .str "candidate"), ("severity_candidate", .str request.severityCandidate),
    ("confidence", dget verification "confidence"),
    ("evidence_strength", .str request.evidenceStrength), ("human_validated", .bool false),
    ("report_review_required", .bool gate.reviewRequired),
    ("report_review_status", .str gate.status), ("report_reviewer", gate.reviewer),
    ("report_review_reference", optional request.reportReviewPath),
    ("report_review_sha256", optional reviewSha256),
    ("component_presence_only", .bool presence), ("reachability_status", assessed),
    ("exploitability_status", assessed), ("crypto_indicator_only", .bool weakIndicators),
    ("crypto_indicator_status",
      .str (if weakIndicators then "observation_only" else "not_applicable")),
    ("title", .str request.title), ("summary", .str request.summary),
    ("evidence_manifest_sha256", dget manifest "manifest_sha256"),
    ("verification_reference", .str request.verificationPath),
    ("verification_sha256", .str verificationSha256),
    ("target_alias", dget manifest "target_alias"), ("case_id", dget manifest "case_id"),
    ("fingerprint", .str fingerprint), ("created_at_utc", .str now), ("updated_at_utc", .str now),
    ("lifecycle_history", .arr [.obj [("timestamp_utc", .str now), ("from", .str "none"),
      ("to", .str "candidate"), ("reviewer", orElse gate.reviewer (.str "system"))]]),
    ("schema_version", .str "1.0"), ("candidate_sha256", .null)]

/-- The review decision a request names.
Source: `finding_candidate.create_candidate`, `review_decision` -/
def requestedReview (disk : Reading) (request : CandidateRequest) : Except Exc (Option Dict) :=
  match request.reportReviewPath with
  | some path => do
    let decision ← loadReportReviewDecision rt disk path
    pure (some decision)
  | none => pure none

/-- A candidate from a loaded manifest.
Source: `finding_candidate.create_candidate`, all that follows `load_manifest` -/
def promote (disk : Reading) (now : String) (request : CandidateRequest) (manifest : Dict) :
    Except Exc Dict := do
  let verification ← loadVerification rt disk request.verificationPath
  guardE ((dget verification "evidence_manifest_sha256").pyEq (dget manifest "manifest_sha256"))
    (.valueError "verification does not reference the supplied evidence manifest")
  guardE ((dget verification "verdict").pyEq (.str "fail"))
    (.valueError "only a fail verdict can create a finding candidate")
  let reviewDecision ← requestedReview rt disk request
  let gate ← evaluateReportReviewGate rt disk manifest reviewDecision
  guardE gate.allowed (.valueError gate.reason)
  let source ← joinBars [dget manifest "sponsor_alias", dget manifest "target_alias",
    dget manifest "case_id", dget verification "evidence_manifest_sha256"]
  let weakIndicators ← hasWeakIndicators manifest
  let reviewSha256 ← request.reportReviewPath.mapM disk.sha256
  let verificationSha256 ← disk.sha256 request.verificationPath
  let candidate := newCandidate request now manifest verification gate reviewSha256
    verificationSha256 (rt.sha256 source) weakIndicators
  (findingCandidate rt disk now).validate rt candidate
  pure candidate

/-- Source: `finding_candidate.create_candidate` -/
def createCandidate (disk : Reading) (now : String) (request : CandidateRequest) :
    Except Exc Dict := do
  let manifest ← loadManifest rt disk request.evidencePath
  promote rt disk now request manifest

/-! ### Transitions -/

/-- Source: `finding_lifecycle.ALLOWED_TRANSITIONS` -/
def allowedTransitions : List (String × List String) :=
  [("observed", ["candidate", "out_of_scope", "not_security_impacting"]),
    ("candidate", ["needs_reproduction", "needs_human_review", "duplicate_risk"]),
    ("needs_reproduction", ["candidate", "needs_human_review", "not_security_impacting"]),
    ("needs_human_review", ["confirmed", "duplicate_risk", "out_of_scope",
      "not_security_impacting"]),
    ("confirmed", ["ready_for_report"]),
    ("ready_for_report", ["submitted_manually"]),
    ("submitted_manually", ["accepted", "rejected", "duplicate_risk"]),
    ("accepted", ["paid"])]

/-- `ALLOWED_TRANSITIONS.get(state, set())`. -/
def transitionsFrom (state : String) : List String := (allowedTransitions.lookup state).getD []

/-- `ALLOWED_TRANSITIONS.get(finding.state, set())`. -/
def transitionsOf : Json → Except Exc (List String)
  | .str s => pure (transitionsFrom s)
  | x => if x.hashable then pure [] else throw .typeError

/-- The record a transition appends to the history. -/
def historyEntry (now : String) (old : Json) (new reviewer : String) : Json :=
  .obj [("timestamp_utc", .str now), ("from", old), ("to", .str new), ("reviewer", .str reviewer)]

/-- `finding.lifecycle_history.append(entry)`. -/
def appendHistory (entry : Json) : Json → Except Exc Json
  | .arr entries => pure (.arr (entries ++ [entry]))
  | _ => throw .attributeError

/-- The finding after its state has changed.
Source: `finding_lifecycle.transition`, the assignments -/
def movedTo (finding : Dict) (newState now : String) (humanValidated : Bool) (history : Json) :
    Dict :=
  let validated := orElse (dget finding "human_validated") (.bool humanValidated)
  dset (dset (dset (dset (dset finding "state" (.str newState)) "human_validated" validated)
    "updated_at_utc" (.str now)) "lifecycle_history" history) "candidate_sha256" .null

/-- One step of the lifecycle of a finding, at an instant.
Source: `finding_lifecycle.transition` -/
def transition (disk : Reading) (now : String) (finding : Dict) (newState : String)
    (humanValidated : Bool) (reviewer : String) : Except Exc Dict := do
  guardE (findingStates.contains newState) (.valueError "unsupported finding state")
  let oldState := dget finding "state"
  let allowed ← transitionsOf oldState
  guardE (allowed.contains newState)
    (.valueError ("transition from " ++ pyStr rt oldState ++ " to " ++ newState ++
      " is not allowed"))
  let history ← appendHistory (historyEntry now oldState newState reviewer)
    (dget finding "lifecycle_history")
  let moved := movedTo finding newState now humanValidated history
  (findingCandidate rt disk now).validate rt moved
  pure moved

/-! ### Lives -/

/-- What a reviewer assesses on a finding between two transitions. -/
def assessedFields : List String :=
  ["severity_candidate", "confidence", "evidence_strength", "reachability_status",
    "exploitability_status", "crypto_indicator_status"]

/-- A step in the life of a finding: a transition, or the assessment of one field. -/
inductive LifeStep where
  | transition (disk : Reading) (now newState : String) (humanValidated : Bool) (reviewer : String)
  | assess (field value : String)

/-- One step; an assessment is an assignment to a field. -/
def LifeStep.apply (finding : Dict) : LifeStep → Except Exc Dict
  | .transition disk now newState humanValidated reviewer =>
    Evidence.transition rt disk now finding newState humanValidated reviewer
  | .assess field value => do
    guardE (assessedFields.contains field) .attributeError
    pure (dset finding field (.str value))

/-- A sequence of successful steps. -/
def live : Dict → List LifeStep → Except Exc Dict
  | finding, [] => pure finding
  | finding, step :: steps => do
    let next ← step.apply rt finding
    live next steps

/-- No step assesses a field with a value. -/
def NeverAssessed (steps : List LifeStep) (field value : String) : Prop :=
  LifeStep.assess field value ∉ steps

/-! ### The history -/

/-- The states a record of the history leads from and to. -/
def edgeOf : Json → Option (String × String)
  | .obj m =>
    match dget m "from", dget m "to" with
    | .str a, .str b => some (a, b)
    | _, _ => none
  | _ => none

/-- A path through the allowed transitions, edge by edge. -/
def Walk : String → List (String × String) → String → Prop
  | a, [], b => a = b
  | a, (x, y) :: edges, b => x = a ∧ y ∈ transitionsFrom x ∧ Walk y edges b

/-- The history of a finding records its creation and then some edges. -/
def Recounts (finding : Dict) (edges : List (String × String)) : Prop :=
  ∃ first entries, dget finding "lifecycle_history" = .arr (first :: entries) ∧
    edgeOf first = some ("none", "candidate") ∧ entries.map edgeOf = edges.map some

/-- The states that only a confirmed finding can be in. -/
def beyondReview : List String :=
  ["confirmed", "ready_for_report", "submitted_manually", "accepted", "rejected", "paid"]

/-- The invariant of a life. -/
structure Alive (finding : Dict) (edges : List (String × String)) (state : String) : Prop where
  state_eq : dget finding "state" = .str state
  recounts : Recounts finding edges
  walk : Walk "candidate" edges state
  validated_bool : ∃ b, dget finding "human_validated" = .bool b
  validated : state ∈ beyondReview → dget finding "human_validated" = .bool true
  reviewed : state ∈ beyondReview → ("needs_human_review", "confirmed") ∈ edges

/-- What bars a finding from confirmation: a flag of it, until a field has a value. -/
structure Bar where
  flag : String
  field : String
  value : String
  deriving DecidableEq

/-- Source: `finding_candidate.FindingCandidate.validate`, the two checks of bare indicators -/
def bars : List Bar :=
  [⟨"component_presence_only", "reachability_status", "verified"⟩,
    ⟨"component_presence_only", "exploitability_status", "verified"⟩,
    ⟨"crypto_indicator_only", "crypto_indicator_status", "verified_weakness"⟩]

/-- The bar is down: the flag is set and the field has another value. -/
def Bar.Down (bar : Bar) (finding : Dict) : Prop :=
  dget finding bar.flag = .bool true ∧ dget finding bar.field ≠ .str bar.value

variable {rt : Runtime} {disk : Reading} {finding next : Dict}
  {edges : List (String × String)} {state : String}

theorem Walk.concat {a b c : String} (h : Walk a edges b) (hc : c ∈ transitionsFrom b) :
    Walk a (edges ++ [(b, c)]) c := by
  induction edges generalizing a with
  | nil =>
    obtain rfl : a = b := h
    exact ⟨rfl, hc, rfl⟩
  | cons e edges ih =>
    obtain ⟨rfl, hy, hrest⟩ := h
    exact ⟨rfl, hy, ih hrest⟩

/-- **The only way past review** is from `needs_human_review` to `confirmed`. -/
theorem enters_review {new : String} (h : new ∈ transitionsFrom state)
    (hbefore : state ∉ beyondReview) (hafter : new ∈ beyondReview) :
    state = "needs_human_review" ∧ new = "confirmed" := by
  have htable : ∀ row ∈ allowedTransitions, ∀ new ∈ row.2, row.1 ∉ beyondReview →
      new ∈ beyondReview → row.1 = "needs_human_review" ∧ new = "confirmed" := by decide
  unfold transitionsFrom at h
  cases hrow : allowedTransitions.lookup state with
  | none => simp [hrow] at h
  | some targets =>
    rw [hrow, Option.getD_some] at h
    obtain ⟨before, after, hsplit, -⟩ := List.lookup_eq_some_iff.mp hrow
    have hmem : (state, targets) ∈ allowedTransitions := by
      rw [hsplit]
      simp
    exact htable (state, targets) hmem new h hbefore hafter

/-- What the checks ask of a confirmed finding. -/
theorem confirmed_of_checks {m : Dict} (h : checkCandidate rt disk m = .ok ())
    (hstate : dget m "state" = .str "confirmed") :
    (dget m "human_validated").truthy = true ∧ ∀ bar ∈ bars, ¬ bar.Down m := by
  simp only [checkCandidate, checkCandidateFields, bind_eq_ok] at h
  obtain ⟨-, ⟨-, -, -, -, -, -, ⟨⟩, hconfirmation, -⟩, -⟩ := h
  have hin : inTexts (dget m "state") ["confirmed", "ready_for_report"] = .ok true := by
    rw [hstate]
    rfl
  simp only [checkConfirmation, hin, bind_eq_ok, guardE_eq_ok, Except.ok.injEq] at hconfirmation
  obtain ⟨confirmed, rfl, -, hvalidated, -, hpresence, hcrypto⟩ := hconfirmation
  refine ⟨by simpa using hvalidated, ?_⟩
  intro bar hbar hdown
  obtain ⟨hflag, hfield⟩ := hdown
  simp only [bars, List.mem_cons, List.not_mem_nil, or_false] at hbar
  rcases hbar with rfl | rfl | rfl
  · simp only [hflag, Json.truthy] at hpresence
    exact hfield (by simpa using (show _ ∧ _ by simpa using hpresence).1)
  · simp only [hflag, Json.truthy] at hpresence
    exact hfield (by simpa using (show _ ∧ _ by simpa using hpresence).2)
  · simp only [hflag, Json.truthy] at hcrypto
    exact hfield (by simpa using hcrypto)

/-! ### One step -/

/-- What a transition did. -/
theorem transition_eq_ok {now newState reviewer : String} {humanValidated : Bool}
    (hstate : dget finding "state" = .str state)
    (h : transition rt disk now finding newState humanValidated reviewer = .ok next) :
    newState ∈ transitionsFrom state ∧ ∃ entries,
      dget finding "lifecycle_history" = .arr entries ∧
      next = movedTo finding newState now humanValidated
        (.arr (entries ++ [historyEntry now (.str state) newState reviewer])) ∧
      checkCandidate rt disk next = .ok () := by
  simp only [transition, hstate, transitionsOf, bind_eq_ok, guardE_eq_ok, pure, Except.pure,
    Except.ok.injEq] at h
  obtain ⟨-, -, allowed, rfl, -, hallowed, history, hhistory, ⟨⟩, hvalid, rfl⟩ := h
  refine ⟨by simpa using hallowed, ?_⟩
  cases hentries : dget finding "lifecycle_history" with
  | arr entries =>
    rw [hentries] at hhistory
    cases hhistory
    exact ⟨entries, rfl, rfl, (BoundRecord.validate_eq_ok.mp hvalid).1⟩
  | _ =>
    rw [hentries] at hhistory
    cases hhistory

/-- A transition along an edge succeeds when the fields of what it makes check out and nothing in
it is secret. -/
theorem transition_succeeds {now newState reviewer : String} {humanValidated : Bool}
    {entries : List Json} {moved : Dict} (hnew : newState ∈ findingStates)
    (hstate : dget finding "state" = .str state) (hmem : newState ∈ transitionsFrom state)
    (hentries : dget finding "lifecycle_history" = .arr entries)
    (hmoved : movedTo finding newState now humanValidated
      (.arr (entries ++ [historyEntry now (.str state) newState reviewer])) = moved)
    (hdigest : dget moved "candidate_sha256" = .null)
    (hfields : checkCandidateFields rt disk moved = .ok ())
    (hquiet : quietEntries rt moved = true) :
    transition rt disk now finding newState humanValidated reviewer = .ok moved := by
  have hvalue : quietValue rt (.obj moved) = true := by
    rw [quietValue]
    exact hquiet
  have hchecks : checkCandidate rt disk moved = .ok () :=
    bind_eq_ok.mpr ⟨(), hfields, assertValueRedacted_of_quiet hvalue⟩
  simp only [transition, hstate, hentries, transitionsOf, appendHistory, bind_eq_ok, guardE_eq_ok,
    pure, Except.pure, Except.ok.injEq]
  refine ⟨(), by simpa using hnew, _, rfl, (), by simpa using hmem, _, rfl, (), ?_, hmoved⟩
  rw [hmoved]
  exact BoundRecord.validate_eq_ok.mpr ⟨hchecks, .inl hdigest⟩

section movedTo

variable (finding : Dict) (newState now : String) (humanValidated : Bool) (history : Json)

@[simp] theorem movedTo_state :
    dget (movedTo finding newState now humanValidated history) "state" = .str newState := by
  simp [movedTo, dget, dget?_dset]

@[simp] theorem movedTo_history :
    dget (movedTo finding newState now humanValidated history) "lifecycle_history" = history := by
  simp [movedTo, dget, dget?_dset]

@[simp] theorem movedTo_validated :
    dget (movedTo finding newState now humanValidated history) "human_validated" =
      orElse (dget finding "human_validated") (.bool humanValidated) := by
  simp [movedTo, dget, dget?_dset]

/-- A transition leaves the flags and the assessments of a finding alone. -/
theorem movedTo_of_bar {bar : Bar} (hbar : bar ∈ bars) :
    dget (movedTo finding newState now humanValidated history) bar.flag = dget finding bar.flag ∧
    dget (movedTo finding newState now humanValidated history) bar.field =
      dget finding bar.field := by
  simp only [bars, List.mem_cons, List.not_mem_nil, or_false] at hbar
  rcases hbar with rfl | rfl | rfl <;> simp [movedTo, dget, dget?_dset]

end movedTo

theorem edgeOf_historyEntry (now new reviewer : String) :
    edgeOf (historyEntry now (.str state) new reviewer) = some (state, new) := rfl

/-- **A transition keeps the invariant**, and appends its edge. -/
theorem Alive.transition {now newState reviewer : String} {humanValidated : Bool}
    (h : Alive finding edges state)
    (hstep : Evidence.transition rt disk now finding newState humanValidated reviewer = .ok next) :
    Alive next (edges ++ [(state, newState)]) newState := by
  obtain ⟨hmem, entries, hentries, rfl, hchecks⟩ := transition_eq_ok h.state_eq hstep
  obtain ⟨first, rest, hhistory, hfirst, hrest⟩ := h.recounts
  obtain ⟨b, hb⟩ := h.validated_bool
  have hvalidated : orElse (dget finding "human_validated") (.bool humanValidated) =
      .bool (b || humanValidated) := by
    rw [hb]
    cases b <;> rfl
  constructor
  · simp
  · refine ⟨first, rest ++ [historyEntry now (.str state) newState reviewer], ?_, hfirst, ?_⟩
    · rw [hentries] at hhistory
      rw [movedTo_history, Json.arr.inj hhistory]
      rfl
    · rw [List.map_append, List.map_append, hrest]
      rfl
  · exact h.walk.concat hmem
  · exact ⟨_, by rw [movedTo_validated, hvalidated]⟩
  · intro hnew
    by_cases hbefore : state ∈ beyondReview
    · have htrue := h.validated hbefore
      rw [movedTo_validated, htrue]
      rfl
    · obtain ⟨rfl, rfl⟩ := enters_review hmem hbefore hnew
      have hchecked := (confirmed_of_checks hchecks (by simp)).1
      rw [movedTo_validated, hvalidated] at hchecked ⊢
      simpa [Json.truthy] using hchecked
  · intro hnew
    by_cases hbefore : state ∈ beyondReview
    · exact List.mem_append_left _ (h.reviewed hbefore)
    · obtain ⟨rfl, rfl⟩ := enters_review hmem hbefore hnew
      exact List.mem_append_right _ (by simp)

/-- An assessment changes nothing the invariant speaks of. -/
theorem Alive.assess {field value : String} (h : Alive finding edges state)
    (hfield : field ∈ assessedFields) : Alive (dset finding field (.str value)) edges state := by
  have hother : ∀ key ∉ assessedFields, dget (dset finding field (.str value)) key =
      dget finding key := fun key hkey =>
    dget_dset_of_ne _ _ (fun heq => hkey (heq ▸ hfield))
  have hstate := hother "state" (by decide)
  have hvalidated := hother "human_validated" (by decide)
  have hhistory := hother "lifecycle_history" (by decide)
  constructor
  · rw [hstate]; exact h.state_eq
  · unfold Recounts
    rw [hhistory]
    exact h.recounts
  · exact h.walk
  · rw [hvalidated]; exact h.validated_bool
  · rw [hvalidated]; exact h.validated
  · exact h.reviewed

/-- A step that does not assess the field of a bar leaves the bar down. -/
theorem Bar.Down.step {bar : Bar} {step : LifeStep} (hbar : bar ∈ bars) (h : bar.Down finding)
    (hstate : dget finding "state" = .str state) (hstep : step.apply rt finding = .ok next)
    (hnever : step ≠ .assess bar.field bar.value) : bar.Down next := by
  cases step with
  | transition disk now newState humanValidated reviewer =>
    obtain ⟨-, entries, -, rfl, -⟩ := transition_eq_ok hstate hstep
    obtain ⟨hflag, hfield⟩ := movedTo_of_bar finding newState now humanValidated
      (.arr (entries ++ [historyEntry now (.str state) newState reviewer])) hbar
    exact ⟨hflag.trans h.1, hfield ▸ h.2⟩
  | assess field value =>
    simp only [LifeStep.apply, bind_eq_ok, guardE_eq_ok, pure, Except.pure,
      Except.ok.injEq] at hstep
    obtain ⟨-, hfield, rfl⟩ := hstep
    have hflags : ∀ bar ∈ bars, bar.flag ∉ assessedFields := by decide
    have hne : bar.flag ≠ field := fun heq => hflags bar hbar (heq ▸ by simpa using hfield)
    refine ⟨(dget_dset_of_ne _ _ hne).trans h.1, ?_⟩
    by_cases hsame : bar.field = field
    · subst hsame
      rw [dget_dset_self]
      intro heq
      exact hnever (Json.str.inj heq ▸ rfl)
    · rw [dget_dset_of_ne _ _ hsame]
      exact h.2

/-- A finding with a bar down does not get past review. -/
theorem Bar.Down.held {bar : Bar} {step : LifeStep} (hbar : bar ∈ bars) (h : bar.Down next)
    (hstate : dget finding "state" = .str state) (hbefore : state ∉ beyondReview)
    (hstep : step.apply rt finding = .ok next) :
    ∀ new, dget next "state" = .str new → new ∉ beyondReview := by
  intro new hnew hbeyond
  cases step with
  | transition disk now newState humanValidated reviewer =>
    obtain ⟨hmem, entries, -, rfl, hchecks⟩ := transition_eq_ok hstate hstep
    obtain rfl : newState = new := by simpa using hnew
    obtain ⟨-, rfl⟩ := enters_review hmem hbefore hbeyond
    exact (confirmed_of_checks hchecks hnew).2 bar hbar h
  | assess field value =>
    simp only [LifeStep.apply, bind_eq_ok, guardE_eq_ok, pure, Except.pure,
      Except.ok.injEq] at hstep
    obtain ⟨-, hfield, rfl⟩ := hstep
    have hstates : "state" ∉ assessedFields := by decide
    have hne : "state" ≠ field := fun heq => hstates (heq ▸ by simpa using hfield)
    rw [dget_dset_of_ne _ _ hne, hstate] at hnew
    exact hbefore (Json.str.inj hnew ▸ hbeyond)

/-! ### A whole life -/

variable {now : String} {request : CandidateRequest} {created : Dict} {steps : List LifeStep}

/-- What was created was put together from a manifest and its verification. -/
theorem createCandidate_eq_ok (h : createCandidate rt disk now request = .ok created) :
    ∃ manifest verification gate reviewSha256 verificationSha256 fingerprint weakIndicators,
      created = newCandidate request now manifest verification gate reviewSha256
        verificationSha256 fingerprint weakIndicators := by
  simp only [createCandidate, promote, bind_eq_ok, pure, Except.pure, Except.ok.injEq] at h
  obtain ⟨manifest, -, verification, -, -, -, -, -, review, -, gate, -, -, -, source, -,
    weakIndicators, -, reviewSha256, -, verificationSha256, -, -, -, rfl⟩ := h
  exact ⟨manifest, verification, gate, reviewSha256, verificationSha256, rt.sha256 source,
    weakIndicators, rfl⟩

/-- A new candidate is alive, with nothing behind it. -/
theorem alive_of_create (h : createCandidate rt disk now request = .ok created) :
    Alive created [] "candidate" := by
  obtain ⟨manifest, verification, gate, reviewSha256, verificationSha256, fingerprint,
    weakIndicators, rfl⟩ := createCandidate_eq_ok h
  constructor
  · rfl
  · exact ⟨_, [], rfl, rfl, rfl⟩
  · rfl
  · exact ⟨false, rfl⟩
  · intro hbeyond
    exact absurd hbeyond (by decide)
  · intro hbeyond
    exact absurd hbeyond (by decide)

/-- A flagged candidate is created with its bars down. -/
theorem down_of_create (h : createCandidate rt disk now request = .ok created) {bar : Bar}
    (hbar : bar ∈ bars) (hflag : dget created bar.flag = .bool true) : bar.Down created := by
  refine ⟨hflag, ?_⟩
  obtain ⟨manifest, verification, gate, reviewSha256, verificationSha256, fingerprint,
    weakIndicators, rfl⟩ := createCandidate_eq_ok h
  have hassessed : ∀ b : Bool, ∀ s ∈ ["verified", "verified_weakness"],
      (Json.str (if b then "not_assessed" else "not_applicable")) ≠ .str s ∧
      (Json.str (if b then "observation_only" else "not_applicable")) ≠ .str s := by
    intro b s hs
    simp only [List.mem_cons, List.not_mem_nil, or_false] at hs
    rcases hs with rfl | rfl <;> cases b <;> simp
  simp only [bars, List.mem_cons, List.not_mem_nil, or_false] at hbar
  rcases hbar with rfl | rfl | rfl
  · exact (hassessed _ _ (by decide)).1
  · exact (hassessed _ _ (by decide)).1
  · exact (hassessed _ _ (by decide)).2

/-- **Every life keeps the invariant.** -/
theorem alive_of_live (h : Alive created edges state) (hlive : live rt created steps = .ok finding) :
    ∃ edges' state', Alive finding edges' state' := by
  induction steps generalizing created edges state with
  | nil =>
    cases hlive
    exact ⟨edges, state, h⟩
  | cons step steps ih =>
    obtain ⟨next, hstep, hrest⟩ := bind_eq_ok.mp hlive
    cases step with
    | transition disk now newState humanValidated reviewer => exact ih (h.transition hstep) hrest
    | assess field value =>
      simp only [LifeStep.apply, bind_eq_ok, guardE_eq_ok, pure, Except.pure,
        Except.ok.injEq] at hstep
      obtain ⟨-, hfield, rfl⟩ := hstep
      exact ih (h.assess (by simpa using hfield)) hrest

/-- **A bar that is never lifted** keeps a finding from going past review. -/
theorem held_of_live {bar : Bar} (hbar : bar ∈ bars) (h : Alive created edges state)
    (hbefore : state ∉ beyondReview) (hdown : bar.Down created)
    (hnever : NeverAssessed steps bar.field bar.value)
    (hlive : live rt created steps = .ok finding) {new : String}
    (hnew : dget finding "state" = .str new) : new ∉ beyondReview := by
  induction steps generalizing created edges state with
  | nil =>
    cases hlive
    rw [h.state_eq] at hnew
    exact Json.str.inj hnew ▸ hbefore
  | cons step steps ih =>
    obtain ⟨next, hstep, hrest⟩ := bind_eq_ok.mp hlive
    have hother : step ≠ .assess bar.field bar.value := fun heq =>
      hnever (heq ▸ List.mem_cons_self)
    have hdown' : bar.Down next := hdown.step hbar h.state_eq hstep hother
    have hnever' : NeverAssessed steps bar.field bar.value := fun hmem =>
      hnever (List.mem_cons_of_mem _ hmem)
    have hsingle : live rt created [step] = .ok next := by
      rw [live, hstep]
      rfl
    obtain ⟨edges', state', halive⟩ := alive_of_live h hsingle
    exact ih halive (hdown'.held hbar h.state_eq hbefore hstep state' halive.state_eq) hdown'
      hnever' hrest

/-- **The lifecycle of a finding**: after any sequence of successful transitions, and whatever is
assessed in between, the history is a path through the allowed transitions from `candidate` to the
current state; a finding past review was validated by a human and went from `needs_human_review` to
`confirmed`; and a bare component or indicator that was never assessed as verified is not past
review. -/
theorem lifecycle_holds (hcreated : createCandidate rt disk now request = .ok created)
    (hlive : live rt created steps = .ok finding) :
    ∃ edges state, dget finding "state" = .str state ∧ Recounts finding edges ∧
      Walk "candidate" edges state ∧
      (state ∈ beyondReview → dget finding "human_validated" = .bool true ∧
        ("needs_human_review", "confirmed") ∈ edges) ∧
      ∀ bar ∈ bars, dget created bar.flag = .bool true →
        NeverAssessed steps bar.field bar.value → state ∉ beyondReview := by
  have hborn := alive_of_create hcreated
  obtain ⟨edges, state, halive⟩ := alive_of_live hborn hlive
  refine ⟨edges, state, halive.state_eq, halive.recounts, halive.walk,
    fun hbeyond => ⟨halive.validated hbeyond, halive.reviewed hbeyond⟩, ?_⟩
  intro bar hbar hflag hnever
  exact held_of_live hbar hborn (by decide) (down_of_create hcreated hbar hflag) hnever hlive
    halive.state_eq

/-! ### A confirmed finding -/

/-- The digests of three texts, told apart by their lengths. -/
def lengthDigest (n : ℕ) : String :=
  if n = 1034 then "3b378462b570a58792982b3869b3892a8b856280b598ec5f232257ee56af4117"
  else if n = 305 then "d57a32edad7946b9ecae56f5aaab5bf4d5184378be3f2f24b8140d7f2bf11b8d"
  else "17329ee9c2db214ccc7456e34d6c1c5fae5f520a0a6f2318efde4aa5f97c1f2f"

theorem lengthDigest_hex (n : ℕ) : isSha256Text (lengthDigest n) = true := by
  unfold lengthDigest
  split
  · decide
  · split <;> decide

/-- A library with the digests of those texts. -/
def digestRuntime : Runtime where
  lower s := String.ofList (s.toList.map Char.toLower)
  floatRepr _ := "0.0"
  containerRepr _ := "[]"
  isWordChar _ := false
  fromIsoFormat _ := .aware (some 0)
  dateFromIsoFormat _ := none
  intOfText _ := none
  sha256 s := lengthDigest s.toList.length
  sha256_hex _ := lengthDigest_hex _

theorem digestRuntime_sha256 (s : String) :
    digestRuntime.sha256 s = lengthDigest s.toList.length := rfl

/-- The manifest of a failed case. -/
def failedManifest : Dict :=
  [("run_id", .str "run-1"), ("timestamp_utc", .str "2026-01-01T00:00:00Z"),
    ("operator", .str "operator-1"), ("sponsor_alias", .str "sponsor-1"),
    ("target_alias", .str "target-1"), ("authorization_reference", .str "authorization-1"),
    ("rules_of_engagement_reference", .str "rules-1"), ("confidentiality_reference", .null),
    ("case_id", .str "case-1"), ("tool", .str "tool-1"), ("verifier_verdict", .str "fail"),
    ("confidence", .str "low"), ("campaign_id", .null), ("campaign_iteration_id", .null),
    ("parent_test_objective", .null), ("module_name", .null), ("wstg_mapping", .arr []),
    ("artifact_mapping", .arr []), ("target_category", .str "placeholder"),
    ("execution_mode", .str "dry_run"), ("policy_decision", .str "allowed"),
    ("request_count", .int 0), ("request_metadata", .obj []), ("response_metadata", .obj []),
    ("screenshots", .arr []), ("dom_snapshot", .null), ("proxy_capture", .null),
    ("fuzzing_corpus_reference", .null), ("sbom_artifact", .null),
    ("configuration_artifact", .null), ("cryptographic_evidence", .null),
    ("raw_evidence_hash", .null), ("redacted_evidence_hash", .null),
    ("finding_candidate_id", .null), ("report_inclusion_status", .str "excluded_pending_review"),
    ("redaction_status", .str "passed"), ("sha256_hashes", .obj []), ("schema_version", .str "1.0"),
    ("manifest_sha256", .str (lengthDigest 1034)), ("artifacts", .arr [])]

/-- Its verification. -/
def failedVerification : Dict :=
  [("verdict", .str "fail"), ("confidence", .str "low"), ("rationale", .str "reproduced"),
    ("evidence_manifest_sha256", .str (lengthDigest 1034)),
    ("evidence_references", .arr [.str "evidence.json"]), ("verifier", .str "verifier-1"),
    ("verified_at_utc", .str "2026-01-01T00:00:00Z"), ("schema_version", .str "1.0"),
    ("result_sha256", .str (lengthDigest 305))]

/-- A disk that holds both. -/
def failedDisk : Reading where
  content path :=
    if path = "evidence.json" then .ok (.obj failedManifest)
    else if path = "verification.json" then .ok (.obj failedVerification)
    else .error .osError
  sha256 path :=
    if path = "verification.json" then
      .ok "fc0e88503f4b3ae317a548516a99a13894371b1a5093964f3ff9300fe4a0d49b"
    else .error .osError
  now := 0

def failedRequest : CandidateRequest where
  evidencePath := "evidence.json"
  verificationPath := "verification.json"
  findingId := "finding-1"
  title := "Finding"
  summary := "Reproduced."

/-- What the fingerprint of the candidate is made of. -/
def failedSource : String :=
  String.intercalate "|" ["sponsor-1", "target-1", "case-1", lengthDigest 1034]

def failedCandidate : Dict :=
  newCandidate failedRequest "2026-01-01T00:00:00Z" failedManifest failedVerification
    ⟨false, true, "not_required", "report review is not required for this evidence type", .null⟩
    none "fc0e88503f4b3ae317a548516a99a13894371b1a5093964f3ff9300fe4a0d49b" (lengthDigest 90) false

theorem failedManifest_loads :
    loadManifest digestRuntime failedDisk "evidence.json" = .ok failedManifest := by
  have hlength : ((Json.obj (dset failedManifest "manifest_sha256" .null)).dumpChars digestRuntime
      .canonical).length = 1034 := by
    rw [length_dumpChars_obj]
    decide +kernel
  have hvalues : quietValue digestRuntime (.obj failedManifest) = true := by decide +kernel
  have hplain : unescapedValue digestRuntime (.obj failedManifest) = true := by decide +kernel
  have hfields : checkManifestFields digestRuntime failedManifest = .ok () := by decide +kernel
  exact loadManifest_of_quiet digestRuntime_sha256 rfl rfl hfields hvalues hplain (by decide) hlength
    rfl

set_option maxRecDepth 20000 in
theorem failedVerification_loads :
    loadVerification digestRuntime failedDisk "verification.json" = .ok failedVerification := by
  have hlength : ((Json.obj (dset failedVerification "result_sha256" .null)).dumpChars digestRuntime
      .compactAscii).length = 305 := by
    rw [length_dumpChars_obj]
    decide +kernel
  have hvalues : quietValue digestRuntime (.obj failedVerification) = true := by decide +kernel
  have hfields : checkVerificationFields digestRuntime failedVerification = .ok () := by
    decide +kernel
  have hchecks : checkVerification digestRuntime failedVerification = .ok () :=
    bind_eq_ok.mpr ⟨(), hfields, assertValueRedacted_of_quiet hvalues⟩
  exact Loader.invalidAs_eq_ok.mpr
    (Loader.readRecord_of_length digestRuntime_sha256 rfl rfl hchecks hlength rfl)

set_option maxRecDepth 20000 in
theorem failedCandidate_quiet : quietEntries digestRuntime failedCandidate = true := by
  decide +kernel

set_option maxRecDepth 20000 in
theorem failedCandidate_created : createCandidate digestRuntime failedDisk "2026-01-01T00:00:00Z"
    failedRequest = .ok failedCandidate := by
  have hvalues : quietValue digestRuntime (.obj failedCandidate) = true := failedCandidate_quiet
  have hfields : checkCandidateFields digestRuntime failedDisk failedCandidate = .ok () := by
    decide +kernel
  have hchecks : checkCandidate digestRuntime failedDisk failedCandidate = .ok () :=
    bind_eq_ok.mpr ⟨(), hfields, assertValueRedacted_of_quiet hvalues⟩
  have hsource : digestRuntime.sha256 failedSource = lengthDigest 90 := by decide +kernel
  simp only [createCandidate, promote, bind_eq_ok, guardE_eq_ok]
  refine ⟨failedManifest, failedManifest_loads, failedVerification, failedVerification_loads, (),
    by decide, (), by decide, none, rfl, _, rfl, (), rfl, failedSource, rfl, false, rfl, none, rfl,
    _, rfl, (), ?_, ?_⟩
  · rw [hsource]
    exact BoundRecord.validate_eq_ok.mpr ⟨hchecks, .inl rfl⟩
  · rw [hsource]
    rfl

/-- The candidate once a human has to look at it. -/
def reviewedCandidate : Dict :=
  movedTo failedCandidate "needs_human_review" "2026-01-02T00:00:00Z" false
    (.arr (itemsOf (dget failedCandidate "lifecycle_history") ++
      [historyEntry "2026-01-02T00:00:00Z" (.str "candidate") "needs_human_review" "system"]))

/-- The candidate with a rating. -/
def ratedCandidate : Dict := dset reviewedCandidate "severity_candidate" (.str "low")

/-- The candidate a human has confirmed. -/
def confirmedCandidate : Dict :=
  movedTo ratedCandidate "confirmed" "2026-01-03T00:00:00Z" true
    (.arr (itemsOf (dget ratedCandidate "lifecycle_history") ++
      [historyEntry "2026-01-03T00:00:00Z" (.str "needs_human_review") "confirmed" "reviewer-1"]))

def confirmingSteps : List LifeStep :=
  [.transition failedDisk "2026-01-02T00:00:00Z" "needs_human_review" false "system",
    .assess "severity_candidate" "low",
    .transition failedDisk "2026-01-03T00:00:00Z" "confirmed" true "reviewer-1"]

/-- What a transition assigns is quiet when its history and its time are. -/
theorem quiet_movedTo {newState now : String} {humanValidated : Bool} {history : Json}
    (h : quietEntries digestRuntime finding = true)
    (hstate : quietValue digestRuntime (.str newState) = true)
    (hnow : quietValue digestRuntime (.str now) = true)
    (hhistory : quietValue digestRuntime history = true)
    (hvalidated : quietValue digestRuntime
      (orElse (dget finding "human_validated") (.bool humanValidated)) = true) :
    quietEntries digestRuntime (movedTo finding newState now humanValidated history) = true := by
  have hkey : ∀ key ∈ ["state", "human_validated", "updated_at_utc", "lifecycle_history",
      "candidate_sha256"], ∀ v, quietKey digestRuntime key v = true := by
    have hplain : ∀ key ∈ ["state", "human_validated", "updated_at_utc", "lifecycle_history",
        "candidate_sha256"], (quiet key.toList && plainKey digestRuntime key) = true := by
      decide
    intro key hmem v
    have hboth := hplain key hmem
    rw [Bool.and_eq_true] at hboth
    unfold quietKey
    rw [hboth.1, hboth.2, Bool.or_true]
    rfl
  unfold movedTo
  refine quietEntries_dset (quietEntries_dset (quietEntries_dset (quietEntries_dset
    (quietEntries_dset h ?_ hstate) ?_ hvalidated) ?_ hnow) ?_ hhistory) ?_ rfl
  all_goals exact hkey _ (by decide) _

theorem reviewedCandidate_quiet : quietEntries digestRuntime reviewedCandidate = true := by
  unfold reviewedCandidate
  apply quiet_movedTo failedCandidate_quiet
  all_goals decide

set_option maxRecDepth 20000 in
theorem confirmingSteps_live :
    live digestRuntime failedCandidate confirmingSteps = .ok confirmedCandidate := by
  have hrated : quietEntries digestRuntime ratedCandidate = true :=
    quietEntries_dset reviewedCandidate_quiet (by decide) (by decide)
  have hconfirmed : quietEntries digestRuntime confirmedCandidate = true := by
    unfold confirmedCandidate
    apply quiet_movedTo hrated
    all_goals decide
  have hfirst : LifeStep.apply digestRuntime failedCandidate (.transition failedDisk
      "2026-01-02T00:00:00Z" "needs_human_review" false "system") = .ok reviewedCandidate :=
    transition_succeeds (by decide) rfl (by decide) rfl rfl rfl (by decide) reviewedCandidate_quiet
  have hsecond : LifeStep.apply digestRuntime reviewedCandidate
      (.assess "severity_candidate" "low") = .ok ratedCandidate := rfl
  have hthird : LifeStep.apply digestRuntime ratedCandidate (.transition failedDisk
      "2026-01-03T00:00:00Z" "confirmed" true "reviewer-1") = .ok confirmedCandidate :=
    transition_succeeds (by decide) rfl (by decide) rfl rfl rfl (by decide) hconfirmed
  unfold confirmingSteps
  simp only [live, bind_eq_ok]
  exact ⟨_, hfirst, _, hsecond, _, hthird, rfl⟩

/-- A candidate that is reviewed, rated and confirmed. -/
theorem lifecycle_holds_confirmed : ∃ edges, Recounts confirmedCandidate edges ∧
    Walk "candidate" edges "confirmed" ∧ dget confirmedCandidate "human_validated" = .bool true ∧
    ("needs_human_review", "confirmed") ∈ edges := by
  obtain ⟨edges, state, hstate, hrecounts, hwalk, hbeyond, -⟩ :=
    lifecycle_holds failedCandidate_created confirmingSteps_live
  obtain rfl : "confirmed" = state := Json.str.inj hstate
  exact ⟨edges, hrecounts, hwalk, hbeyond (by decide)⟩

end Aotp.Evidence
