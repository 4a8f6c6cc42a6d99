import Aotp.Gate.EvidenceRecords
import Aotp.Tools.Ledger
import Aotp.Wstg.Coverage

/-!
# The next objective of a campaign

* `chooseNextObjective` — the earliest of the objectives a tracker is missing, by phase and
  identifier; the objectives a caller passes are not read.
* `Earliest` — what one choice among given objectives should be; `pursue` — choosing and marking,
  again and again; `Visits` — what that should visit.
* `selects_iff` — **the choices are right exactly where the tracker misses none but given
  objectives**.
-/

namespace Aotp.Wstg

open PyData Aotp.Tools
open Aotp.Gate (orElse)

/-- Source: `wstg.coverage.NextObjectiveDecision` -/
structure NextObjectiveDecision where
  objective : Option WSTGObjective
  action : String
  reason : String
  evidenceInputs : List String

/-- `(phase_order_index(item.phase), item.wstg_id)`. -/
def selectionKey (o : WSTGObjective) : ℕ ×ₗ String := toLex (o.phase.order, o.wstgId)

/-- `item.get("artifact_reference") or item.get("evidence_path") or item.get("objective_id")`. -/
def evidenceRef (item : Dict) : Json :=
  orElse (orElse (dget item "artifact_reference") (dget item "evidence_path"))
    (dget item "objective_id")

/-- Source: `wstg.coverage.choose_next_objective`, `evidence_refs` -/
def evidenceRefs (rt : Runtime) (summaries : List Dict) : List String :=
  (summaries.filter fun item => (evidenceRef item).truthy).map fun item =>
    pyStr rt (evidenceRef item)

/-- `sorted(missing, key=lambda item: (phase_order_index(item.phase), item.wstg_id))`. -/
def sortedByKey (missing : List WSTGObjective) : List WSTGObjective :=
  missing.insertionSort fun a b => selectionKey a ≤ selectionKey b

/-- The next objective of a tracker. The objectives it is called with have no part in it.
Source: `wstg.coverage.choose_next_objective` -/
def chooseNextObjective (rt : Runtime) (_objectives : List WSTGObjective)
    (tracker : CoverageTracker) (evidenceSummaries : List Dict) : NextObjectiveDecision :=
  match sortedByKey tracker.missing with
  | [] => ⟨none, "stop", "all approved WSTG objectives have explicit coverage dispositions",
      evidenceRefs rt evidenceSummaries⟩
  | o :: _ => ⟨some o, "continue", "selected " ++ o.wstgId ++
      " because it is the earliest approved uncovered " ++ o.phase.value ++ " phase objective",
      evidenceRefs rt evidenceSummaries⟩

/-- No final disposition is recorded of an objective. -/
def CoverageTracker.Open (tracker : CoverageTracker) (o : WSTGObjective) : Prop :=
  ∀ d, tracker.dispositionAt o.objectiveId = some d → d.final = false

/-- The least of the given objectives that are open, and a stop where there is none. -/
structure Earliest (tracker : CoverageTracker) (given : List WSTGObjective)
    (decision : NextObjectiveDecision) : Prop where
  stops : decision.action = "stop" ↔ ∀ o ∈ given, ¬ tracker.Open o
  chooses : decision.action ≠ "stop" → decision.objective.isSome = true
  least : ∀ o, decision.objective = some o →
    o ∈ given ∧ tracker.Open o ∧ ∀ o' ∈ given, tracker.Open o' → selectionKey o ≤ selectionKey o'

/-- A final disposition to mark an objective with, and what its record needs. -/
structure FinalMark where
  disposition : CoverageDisposition
  evidenceReferences : List String
  reasons : List String
  final : disposition.final = true
  checked : checkCoverage disposition evidenceReferences reasons = .ok ()

/-- Choosing among given objectives and marking the choice, once for each mark or until a stop:
the objectives visited, and the tracker reached. -/
def pursue (rt : Runtime) (given : List WSTGObjective) :
    CoverageTracker → List FinalMark → List WSTGObjective × CoverageTracker
  | tracker, [] => ([], tracker)
  | tracker, m :: ms =>
    match (chooseNextObjective rt given tracker []).objective with
    | none => ([], tracker)
    | some o =>
      match tracker.mark o m.disposition m.evidenceReferences m.reasons with
      | .error _ => ([], tracker)
      | .ok next => (o :: (pursue rt given next ms).1, (pursue rt given next ms).2)

/-- With a mark for every objective, choosing and marking visits each given open objective once, in
order, and then stops. -/
def Visits (rt : Runtime) (given : List WSTGObjective) (tracker : CoverageTracker) : Prop :=
  ∀ marks : List FinalMark, tracker.objectives.length ≤ marks.length →
    ((pursue rt given tracker marks).1.map WSTGObjective.objectiveId).Nodup ∧
    (∀ o, o ∈ (pursue rt given tracker marks).1 ↔ o ∈ given ∧ tracker.Open o) ∧
    (pursue rt given tracker marks).1.Pairwise (fun a b => selectionKey a ≤ selectionKey b) ∧
    (chooseNextObjective rt given (pursue rt given tracker marks).2 []).action = "stop"

variable {rt : Runtime} {tracker next : CoverageTracker} {given : List WSTGObjective}
  {o : WSTGObjective}

theorem mem_missing : o ∈ tracker.missing ↔ o ∈ tracker.objectives ∧ tracker.Open o := by
  rw [CoverageTracker.missing_eq, CoverageTracker.standingWith, List.mem_filter]
  refine and_congr_right fun _ => ?_
  unfold CoverageTracker.dispositionOr CoverageTracker.Open
  cases tracker.dispositionAt o.objectiveId with
  | none => simp
  | some d => cases d <;> simp [CoverageDisposition.final]

/-! ### One choice -/

theorem choose_of_missing_nil (rt : Runtime) (h : tracker.missing = []) (given : List WSTGObjective)
    (summaries : List Dict) :
    (chooseNextObjective rt given tracker summaries).objective = none ∧
      (chooseNextObjective rt given tracker summaries).action = "stop" := by
  unfold chooseNextObjective
  rw [h]
  exact ⟨rfl, rfl⟩

/-- **What a choice is**: where something is missing, the least of what is. -/
theorem choose_of_missing (rt : Runtime) (h : tracker.missing ≠ []) (given : List WSTGObjective)
    (summaries : List Dict) : ∃ o ∈ tracker.missing,
      (chooseNextObjective rt given tracker summaries).objective = some o ∧
      (chooseNextObjective rt given tracker summaries).action = "continue" ∧
      ∀ o' ∈ tracker.missing, selectionKey o ≤ selectionKey o' := by
  have hmem : ∀ o, o ∈ sortedByKey tracker.missing ↔ o ∈ tracker.missing := fun o =>
    List.mem_insertionSort _
  have hsorted : (sortedByKey tracker.missing).Pairwise fun a b =>
      selectionKey a ≤ selectionKey b :=
    have : Std.Total fun a b : WSTGObjective => selectionKey a ≤ selectionKey b :=
      ⟨fun a b => le_total (selectionKey a) (selectionKey b)⟩
    have : IsTrans WSTGObjective fun a b => selectionKey a ≤ selectionKey b :=
      ⟨fun _ _ _ hab hbc => le_trans hab hbc⟩
    List.pairwise_insertionSort _ _
  unfold chooseNextObjective
  cases hlist : sortedByKey tracker.missing with
  | nil =>
    refine absurd (List.eq_nil_iff_forall_not_mem.mpr fun o ho => ?_) h
    have hin := (hmem o).mpr ho
    rw [hlist] at hin
    cases hin
  | cons o rest =>
    rw [hlist] at hsorted
    refine ⟨o, (hmem o).mp (hlist ▸ List.mem_cons_self), rfl, rfl, ?_⟩
    intro o' ho'
    have hin := (hmem o').mpr ho'
    rw [hlist] at hin
    rcases List.mem_cons.mp hin with rfl | htail
    · exact le_rfl
    · exact List.rel_of_pairwise_cons hsorted htail

/-! ### One mark -/

/-- **A final mark** closes its objective, and nothing else. -/
theorem mark_final (hmem : o ∈ tracker.objectives) (m : FinalMark) :
    ∃ next, tracker.mark o m.disposition m.evidenceReferences m.reasons = .ok next ∧
      next.objectives = tracker.objectives ∧
      next.missing = tracker.missing.filter fun x => x.objectiveId ≠ o.objectiveId := by
  have hid : o.objectiveId ∈ tracker.ids := List.mem_map_of_mem hmem
  obtain ⟨next, hnext⟩ := CoverageTracker.record_of_mem ⟨o.objectiveId, o.wstgId, o.phase,
    m.disposition, m.evidenceReferences, m.reasons, m.checked⟩ hid
  obtain ⟨-, hobjectives, -⟩ := CoverageTracker.record_eq_ok hnext
  refine ⟨next, ?_, hobjectives, ?_⟩
  · rw [CoverageTracker.mark, CoverageRecord.ofObjective_of_check o m.checked]
    exact hnext
  · rw [CoverageTracker.missing_eq, CoverageTracker.missing_eq, CoverageTracker.standingWith,
      CoverageTracker.standingWith, hobjectives, List.filter_filter]
    refine List.filter_congr fun x _ => ?_
    have hfinal := CoverageDisposition.final_iff.mp m.final
    unfold CoverageTracker.dispositionOr
    rw [CoverageTracker.dispositionAt_record hnext]
    by_cases hx : o.objectiveId = x.objectiveId
    · simp [hx, hfinal]
    · simp [hx, Ne.symm hx]

/-! ### Runs -/

/-- **Choosing and marking** visits everything that is missing, once and in order. -/
theorem pursue_spec (rt : Runtime) (given : List WSTGObjective) (marks : List FinalMark)
    (hmarks : tracker.missing.length ≤ marks.length) :
    ((pursue rt given tracker marks).1.map WSTGObjective.objectiveId).Nodup ∧
    (∀ o, o ∈ (pursue rt given tracker marks).1 ↔ o ∈ tracker.missing) ∧
    (pursue rt given tracker marks).1.Pairwise (fun a b => selectionKey a ≤ selectionKey b) ∧
    (pursue rt given tracker marks).2.missing = [] := by
  induction marks generalizing tracker with
  | nil =>
    have hnil : tracker.missing = [] := List.eq_nil_of_length_eq_zero (Nat.le_zero.mp hmarks)
    refine ⟨List.nodup_nil, fun o => ?_, List.Pairwise.nil, hnil⟩
    rw [hnil]
    rfl
  | cons m ms ih =>
    by_cases hnil : tracker.missing = []
    · obtain ⟨hnone, -⟩ := choose_of_missing_nil rt hnil given []
      unfold pursue
      rw [hnone]
      refine ⟨List.nodup_nil, fun o => ?_, List.Pairwise.nil, hnil⟩
      rw [hnil]
    · obtain ⟨o, ho, hchoice, -, hleast⟩ := choose_of_missing rt hnil given []
      obtain ⟨next, hmark, -, hmissing⟩ := mark_final (mem_missing.mp ho).1 m
      have hfewer : next.missing.length < tracker.missing.length := by
        rw [hmissing]
        exact List.length_filter_lt_length_iff_exists.mpr ⟨o, ho, by simp⟩
      have hroom : next.missing.length ≤ ms.length := by
        rw [List.length_cons] at hmarks
        omega
      obtain ⟨hnodup, hmem, hsorted, hend⟩ := ih hroom
      have hother : ∀ x, x ∈ (pursue rt given next ms).1 ↔
          x ∈ tracker.missing ∧ x.objectiveId ≠ o.objectiveId := by
        intro x
        rw [hmem, hmissing, List.mem_filter]
        simp
      have hsame : ∀ x ∈ tracker.missing, x.objectiveId = o.objectiveId → x = o := fun x hx heq =>
        List.inj_on_of_nodup_map tracker.unique (mem_missing.mp hx).1 (mem_missing.mp ho).1 heq
      unfold pursue
      rw [hchoice]
      dsimp only
      rw [hmark]
      dsimp only
      refine ⟨?_, ?_, ?_, hend⟩
      · rw [List.map_cons]
        refine List.nodup_cons.mpr ⟨?_, hnodup⟩
        intro hin
        obtain ⟨x, hx, heq⟩ := List.mem_map.mp hin
        exact ((hother x).mp hx).2 heq
      · intro x
        rw [List.mem_cons, hother]
        constructor
        · rintro (rfl | ⟨hx, -⟩)
          · exact ho
          · exact hx
        · intro hx
          by_cases heq : x.objectiveId = o.objectiveId
          · exact .inl (hsame x hx heq)
          · exact .inr ⟨hx, heq⟩
      · refine List.pairwise_cons.mpr ⟨fun x hx => ?_, hsorted⟩
        exact hleast x ((hother x).mp hx).1

/-- **The choices of a campaign.** Among given objectives of a tracker, the next objective is the
earliest open one, and choosing and marking visits each open one once and in order, exactly where
every open objective of the tracker is given. -/
theorem selects_iff (hdrawn : ∀ o ∈ given, o ∈ tracker.objectives) :
    ((∀ summaries, Earliest tracker given (chooseNextObjective rt given tracker summaries)) ∧
      Visits rt given tracker) ↔
    ∀ o ∈ tracker.objectives, tracker.Open o → o ∈ given := by
  have hroom : ∀ marks : List FinalMark, tracker.objectives.length ≤ marks.length →
      tracker.missing.length ≤ marks.length := fun marks hmarks =>
    (List.length_filter_le _ _).trans hmarks
  constructor
  · rintro ⟨-, hvisits⟩ o ho hopen
    have hmark : FinalMark := ⟨.tested, ["evidence"], [], rfl, rfl⟩
    have hmarks : tracker.objectives.length ≤
        (List.replicate tracker.objectives.length hmark).length := by
      rw [List.length_replicate]
    obtain ⟨-, hmem, -⟩ := pursue_spec rt given _ (hroom _ hmarks)
    obtain ⟨-, hgiven, -⟩ := hvisits _ hmarks
    exact ((hgiven o).mp ((hmem o).mpr (mem_missing.mpr ⟨ho, hopen⟩))).1
  · intro hall
    have hmissing : ∀ o, o ∈ tracker.missing ↔ o ∈ given ∧ tracker.Open o := by
      intro o
      rw [mem_missing]
      constructor
      · rintro ⟨ho, hopen⟩
        exact ⟨hall o ho hopen, hopen⟩
      · rintro ⟨ho, hopen⟩
        exact ⟨hdrawn o ho, hopen⟩
    constructor
    · intro summaries
      by_cases hnil : tracker.missing = []
      · obtain ⟨hnone, hstop⟩ := choose_of_missing_nil rt hnil given summaries
        refine ⟨iff_of_true hstop fun o ho hopen => ?_, fun hgo => absurd hstop hgo, ?_⟩
        · have hin := (hmissing o).mpr ⟨ho, hopen⟩
          rw [hnil] at hin
          cases hin
        · intro o ho
          rw [hnone] at ho
          cases ho
      · obtain ⟨o, ho, hchoice, haction, hleast⟩ :=
          choose_of_missing rt hnil given summaries
        obtain ⟨hgiven, hopen⟩ := (hmissing o).mp ho
        refine ⟨iff_of_false ?_ fun hnone => hnone o hgiven hopen, fun _ => ?_, ?_⟩
        · rw [haction]
          decide
        · rw [hchoice]
          rfl
        · intro x hx
          obtain rfl : o = x := Option.some.inj (hchoice.symm.trans hx)
          exact ⟨hgiven, hopen, fun o' ho' hopen' => hleast o' ((hmissing o').mpr ⟨ho', hopen'⟩)⟩
    · intro marks hmarks
      obtain ⟨hnodup, hmem, hsorted, hend⟩ := pursue_spec rt given marks (hroom marks hmarks)
      refine ⟨hnodup, fun o => (hmem o).trans (hmissing o), hsorted, ?_⟩
      exact (choose_of_missing_nil rt hend given []).2

/-- The objective of a later phase. -/
def loginObjective : WSTGObjective where
  objectiveId := "wstg_v42_athn_01"
  campaignId := "campaign-17"
  targetAlias := "owned-app"
  wstgId := "WSTG-v42-ATHN-01"
  phase := .auth
  family := .authBoundary
  toolName := "auth_boundary"
  arguments := []
  riskTier := "passive"
  evidenceClassification := "restricted"
  evidenceRequired := ["transport"]
  requiresHumanApproval := true
  rationale := "WSTG-v42-ATHN-01 maps to auth phase via auth_boundary"

/-- A tracker of two objectives. -/
def loginTracker : CoverageTracker :=
  ⟨[loginObjective, rootObjective], [], by decide, List.nodup_nil,
    fun _ h => absurd h List.not_mem_nil⟩

/-- The choices among both. -/
theorem selects_iff_both :
    (∀ summaries, Earliest loginTracker [loginObjective, rootObjective]
      (chooseNextObjective sampleRuntime [loginObjective, rootObjective] loginTracker summaries)) ∧
      Visits sampleRuntime [loginObjective, rootObjective] loginTracker :=
  (selects_iff fun _ h => h).mpr fun _ h _ => h

/-- What is chosen when only the later objective is given. -/
def loginChoice : NextObjectiveDecision :=
  chooseNextObjective sampleRuntime [loginObjective] loginTracker []

/-- **A choice outside the given objectives.** -/
theorem choice_not_given :
    (∀ o ∈ [loginObjective], o ∈ loginTracker.objectives) ∧
      loginChoice.objective = some rootObjective ∧
      ¬ Earliest loginTracker [loginObjective] loginChoice := by
  have hchoice : loginChoice.objective = some rootObjective := rfl
  refine ⟨fun o ho => ?_, hchoice, fun h => ?_⟩
  · rw [List.mem_singleton.mp ho]
    exact List.mem_cons_self
  · have hin := (h.least rootObjective hchoice).1
    have hphase : rootObjective.phase = loginObjective.phase :=
      congrArg WSTGObjective.phase (List.mem_singleton.mp hin)
    cases hphase

end Aotp.Wstg
