import Aotp.Lib.Counters
import Aotp.Lib.Tables
import Aotp.Wstg.Objectives

/-!
# The coverage of a campaign

* `CoverageRecord`, `CoverageTracker` — what is recorded about objectives, at most one record for
  each; both carry what their constructors check.
* `gapSummary` — the counts by disposition, the counts by phase and disposition, and the gaps.
* `CoverageCall`, `calls` — a sequence of `record` and `mark` calls; one that raises changes nothing.
  `standing` — the disposition such a sequence leaves an objective with.
* `gapSummary_balances` — **the counts balance exactly where no objective stands recorded as
  deferred**; such an objective is counted with its record and once more with what is missing.
-/

namespace Aotp.Wstg

open PyData Aotp.Tools

/-! ### Records -/

/-- Source: `wstg.coverage.CoverageDisposition` -/
inductive CoverageDisposition where
  | tested
  | skipped
  | denied
  | blocked
  | deferred
  deriving DecidableEq, Repr

namespace CoverageDisposition

/-- Source: `wstg.coverage.CoverageDisposition`, in order -/
def members : List CoverageDisposition := [tested, skipped, denied, blocked, deferred]

/-- Source: `wstg.coverage.CoverageTracker.missing`, the set of dispositions -/
def final (d : CoverageDisposition) : Bool := decide (d ∈ [tested, skipped, denied, blocked])

theorem final_iff {d : CoverageDisposition} : d.final = true ↔ d ≠ deferred := by
  cases d <;> decide

end CoverageDisposition

/-- Source: `wstg.coverage.CoverageRecord.__post_init__` -/
def checkCoverage (disposition : CoverageDisposition) (evidenceReferences reasons : List String) :
    Except Exc Unit := do
  guardE (!(disposition == .tested && evidenceReferences.isEmpty))
    (.valueError "tested coverage records require evidence references")
  guardE (!(disposition != .tested && reasons.isEmpty))
    (.valueError "non-tested coverage records require reasons")

/-- A record its constructor accepts.
Source: `wstg.coverage.CoverageRecord` -/
structure CoverageRecord where
  objectiveId : String
  wstgId : String
  phase : WSTGPhase
  disposition : CoverageDisposition
  evidenceReferences : List String
  reasons : List String
  checked : checkCoverage disposition evidenceReferences reasons = .ok ()

/-- The record of an objective.
Source: `wstg.coverage.CoverageTracker.mark`, the call of `CoverageRecord` -/
def CoverageRecord.ofObjective (objective : WSTGObjective) (disposition : CoverageDisposition)
    (evidenceReferences reasons : List String) : Except Exc CoverageRecord :=
  match h : checkCoverage disposition evidenceReferences reasons with
  | .ok () => .ok ⟨objective.objectiveId, objective.wstgId, objective.phase, disposition,
      evidenceReferences, reasons, h⟩
  | .error e => .error e

/-! ### Trackers -/

/-- The objectives of a tracker and its records, as the entries of `_records`: every record stands
under its own identifier.
Source: `wstg.coverage.CoverageTracker` -/
structure CoverageTracker where
  objectives : List WSTGObjective
  records : List CoverageRecord
  unique : (objectives.map WSTGObjective.objectiveId).Nodup
  single : (records.map CoverageRecord.objectiveId).Nodup
  known : ∀ r ∈ records, r.objectiveId ∈ objectives.map WSTGObjective.objectiveId

namespace CoverageTracker

/-- Source: `wstg.coverage.CoverageTracker.__init__` -/
def init (objectives : List WSTGObjective) : Except Exc CoverageTracker :=
  if h : (objectives.map WSTGObjective.objectiveId).Nodup then
    .ok ⟨objectives, [], h, List.nodup_nil, fun _ hr => absurd hr List.not_mem_nil⟩
  else .error (.valueError "WSTG objective identifiers must be unique")

variable (tracker : CoverageTracker)

/-- `{objective.objective_id for objective in self._objectives}`. -/
def ids : List String := tracker.objectives.map WSTGObjective.objectiveId

/-- `self._records.get(id)`. -/
def recordAt (id : String) : Option CoverageRecord :=
  Table.recordAt CoverageRecord.objectiveId tracker.records id

/-- The disposition an objective is recorded with. -/
def dispositionAt (id : String) : Option CoverageDisposition :=
  (tracker.recordAt id).map CoverageRecord.disposition

/-- Source: `wstg.coverage.CoverageTracker.record` -/
def record (r : CoverageRecord) : Except Exc CoverageTracker :=
  if h : r.objectiveId ∈ tracker.ids then
    .ok { tracker with
      records := Table.put CoverageRecord.objectiveId tracker.records r
      single := Table.nodup_put tracker.single
      known := by
        intro s hs
        rcases Table.mem_put hs with rfl | hmem
        · exact h
        · exact tracker.known s hmem }
  else .error (.valueError "coverage record references an unknown objective")

/-- Source: `wstg.coverage.CoverageTracker.mark` -/
def mark (objective : WSTGObjective) (disposition : CoverageDisposition)
    (evidenceReferences reasons : List String) : Except Exc CoverageTracker := do
  let r ← CoverageRecord.ofObjective objective disposition evidenceReferences reasons
  tracker.record r

/-- The keys of the records with a final disposition.
Source: `wstg.coverage.CoverageTracker.missing`, `tested_or_final` -/
def testedOrFinal : List String :=
  (tracker.records.filter fun r => r.disposition.final).map CoverageRecord.objectiveId

/-- Source: `wstg.coverage.CoverageTracker.missing` -/
def missing : List WSTGObjective :=
  tracker.objectives.filter fun objective => objective.objectiveId ∉ tracker.testedOrFinal

end CoverageTracker

/-! ### The summary -/

/-- What `gap_summary` returns.
Source: `wstg.coverage.CoverageTracker.gap_summary` -/
structure GapSummary where
  totalObjectives : ℕ
  statuses : Counters CoverageDisposition
  phases : WSTGPhase → Counters CoverageDisposition
  gaps : List String

/-- `{disposition.value: 0 for disposition in CoverageDisposition}`. -/
def zeroStatuses : Counters CoverageDisposition := CoverageDisposition.members.map fun d => (d, 0)

/-- Source: `wstg.strategy_map.WSTGPhase`, in order -/
def WSTGPhase.members : List WSTGPhase := [passive, browser, auth, input, validation, report]

namespace CoverageTracker

variable (tracker : CoverageTracker)

/-- `record.disposition if record else CoverageDisposition.DEFERRED`. -/
def dispositionOr (objective : WSTGObjective) : CoverageDisposition :=
  (tracker.dispositionAt objective.objectiveId).getD .deferred

/-- Source: `wstg.coverage.CoverageTracker.gap_summary`, the loop over the objectives -/
def phaseStatus (objectives : List WSTGObjective) (phases : WSTGPhase → Counters CoverageDisposition) :
    WSTGPhase → Counters CoverageDisposition :=
  objectives.foldl (fun phases objective => Function.update phases objective.phase
    ((phases objective.phase).bump (tracker.dispositionOr objective) 1)) phases

/-- Source: `wstg.coverage.CoverageTracker.gap_summary` -/
def gapSummary : GapSummary where
  totalObjectives := tracker.objectives.length
  statuses := (Counters.tally CoverageRecord.disposition tracker.records zeroStatuses).bump
    .deferred tracker.missing.length
  phases := tracker.phaseStatus tracker.objectives fun _ => zeroStatuses
  gaps := tracker.missing.map WSTGObjective.objectiveId

end CoverageTracker

/-- The counts of a disposition over all phases. -/
def GapSummary.phaseCount (summary : GapSummary) (d : CoverageDisposition) : ℕ :=
  (WSTGPhase.members.map fun phase => (summary.phases phase).count d).sum

/-- The counts of a summary sum to its objectives, and agree with those of its phases. -/
def GapSummary.Balanced (summary : GapSummary) : Prop :=
  summary.statuses.total = summary.totalObjectives ∧
    ∀ d, summary.statuses.count d = summary.phaseCount d

/-! ### Calls -/

/-- A call that changes a tracker. -/
inductive CoverageCall where
  | record (r : CoverageRecord)
  | mark (objective : WSTGObjective) (disposition : CoverageDisposition)
    (evidenceReferences reasons : List String)

/-- One call. -/
def CoverageCall.apply (tracker : CoverageTracker) : CoverageCall → Except Exc CoverageTracker
  | .record r => tracker.record r
  | .mark objective disposition evidenceReferences reasons =>
    tracker.mark objective disposition evidenceReferences reasons

/-- A sequence of calls; one that raises leaves the tracker as it is. -/
def CoverageTracker.calls (tracker : CoverageTracker) : List CoverageCall → CoverageTracker
  | [] => tracker
  | call :: rest =>
    match call.apply tracker with
    | .ok next => next.calls rest
    | .error _ => tracker.calls rest

/-- What a call says about an objective: nothing where it names another one, or where the
construction of its record raises. -/
def CoverageCall.dispositionFor (id : String) : CoverageCall → Option CoverageDisposition
  | .record r => if r.objectiveId = id then some r.disposition else none
  | .mark objective disposition evidenceReferences reasons =>
    if objective.objectiveId = id ∧
        checkCoverage disposition evidenceReferences reasons = .ok () then some disposition
    else none

/-- The last thing a sequence of calls says about an objective. -/
def standing (id : String) : List CoverageCall → Option CoverageDisposition
  | [] => none
  | call :: rest => (standing id rest).or (call.dispositionFor id)

variable {tracker next : CoverageTracker} {objectives : List WSTGObjective} {id : String}

/-! ### One call -/

theorem CoverageRecord.ofObjective_eq_ok {objective : WSTGObjective} {d : CoverageDisposition}
    {evidence reasons : List String} {r : CoverageRecord}
    (h : CoverageRecord.ofObjective objective d evidence reasons = .ok r) :
    r.objectiveId = objective.objectiveId ∧ r.disposition = d ∧
      checkCoverage d evidence reasons = .ok () := by
  unfold CoverageRecord.ofObjective at h
  split at h
  · cases h
    exact ⟨rfl, rfl, ‹_›⟩
  · cases h

theorem CoverageRecord.ofObjective_of_check (objective : WSTGObjective) {d : CoverageDisposition}
    {evidence reasons : List String} (h : checkCoverage d evidence reasons = .ok ()) :
    CoverageRecord.ofObjective objective d evidence reasons = .ok ⟨objective.objectiveId,
      objective.wstgId, objective.phase, d, evidence, reasons, h⟩ := by
  unfold CoverageRecord.ofObjective
  split
  · rfl
  · rename_i e heq
    rw [h] at heq
    cases heq

/-- The construction of a record fails with the exception of its checks. -/
theorem CoverageRecord.ofObjective_of_error (objective : WSTGObjective) {d : CoverageDisposition}
    {evidence reasons : List String} {e : Exc} (h : checkCoverage d evidence reasons = .error e) :
    CoverageRecord.ofObjective objective d evidence reasons = .error e := by
  unfold CoverageRecord.ofObjective
  split
  · rename_i heq
    rw [h] at heq
    cases heq
  · rename_i e' heq
    rw [h] at heq
    cases heq
    rfl

namespace CoverageTracker

/-- What `record` does to a tracker. -/
theorem record_eq_ok {r : CoverageRecord} (h : tracker.record r = .ok next) :
    r.objectiveId ∈ tracker.ids ∧ next.objectives = tracker.objectives ∧
      next.records = Table.put CoverageRecord.objectiveId tracker.records r := by
  unfold record at h
  split at h
  · cases h
    exact ⟨‹_›, rfl, rfl⟩
  · cases h

theorem record_of_mem (r : CoverageRecord) (h : r.objectiveId ∈ tracker.ids) :
    ∃ next, tracker.record r = .ok next := by
  unfold record
  rw [dif_pos h]
  exact ⟨_, rfl⟩

theorem dispositionAt_record {r : CoverageRecord} (h : tracker.record r = .ok next) (id : String) :
    next.dispositionAt id =
      if r.objectiveId = id then some r.disposition else tracker.dispositionAt id := by
  obtain ⟨-, -, hrecords⟩ := record_eq_ok h
  unfold dispositionAt recordAt
  rw [hrecords, Table.recordAt_put]
  by_cases hid : r.objectiveId = id
  · rw [if_pos hid, if_pos hid, Option.map_some]
  · rw [if_neg hid, if_neg hid]

end CoverageTracker

theorem CoverageCall.apply_objectives {call : CoverageCall} (h : call.apply tracker = .ok next) :
    next.objectives = tracker.objectives := by
  cases call with
  | record r => exact (CoverageTracker.record_eq_ok h).2.1
  | mark objective d evidence reasons =>
    obtain ⟨r, -, hrecord⟩ := bind_eq_ok.mp h
    exact (CoverageTracker.record_eq_ok hrecord).2.1

/-- **One call** gives every objective the disposition it names for it. -/
theorem CoverageCall.dispositionAt_apply {call : CoverageCall} (h : call.apply tracker = .ok next)
    (id : String) :
    next.dispositionAt id = (call.dispositionFor id).or (tracker.dispositionAt id) := by
  cases call with
  | record r =>
    rw [CoverageTracker.dispositionAt_record h, dispositionFor]
    by_cases hid : r.objectiveId = id
    · rw [if_pos hid, if_pos hid, Option.some_or]
    · rw [if_neg hid, if_neg hid, Option.none_or]
  | mark objective d evidence reasons =>
    obtain ⟨r, hr, hrecord⟩ := bind_eq_ok.mp h
    obtain ⟨hkey, hd, hcheck⟩ := CoverageRecord.ofObjective_eq_ok hr
    rw [CoverageTracker.dispositionAt_record hrecord, dispositionFor, hkey, hd]
    by_cases hid : objective.objectiveId = id
    · rw [if_pos hid, if_pos ⟨hid, hcheck⟩, Option.some_or]
    · rw [if_neg hid, if_neg fun hboth => hid hboth.1, Option.none_or]

/-- A call that raises says nothing about a known objective. -/
theorem CoverageCall.dispositionFor_of_error {call : CoverageCall} {e : Exc}
    (h : call.apply tracker = .error e) (hid : id ∈ tracker.ids) :
    call.dispositionFor id = none := by
  cases call with
  | record r =>
    refine if_neg fun heq => ?_
    obtain ⟨next, hnext⟩ := CoverageTracker.record_of_mem r (heq ▸ hid)
    have hok : tracker.record r = .error e := h
    rw [hnext] at hok
    cases hok
  | mark objective d evidence reasons =>
    refine if_neg fun hboth => ?_
    obtain ⟨heq, hcheck⟩ := hboth
    have hrecorded := CoverageRecord.ofObjective_of_check objective hcheck
    have hmem : objective.objectiveId ∈ tracker.ids := heq ▸ hid
    have herror : tracker.mark objective d evidence reasons = .error e := h
    rw [CoverageTracker.mark, hrecorded] at herror
    have hraised : tracker.record _ = .error e := herror
    obtain ⟨next, hnext⟩ := CoverageTracker.record_of_mem ⟨objective.objectiveId,
      objective.wstgId, objective.phase, d, evidence, reasons, hcheck⟩ hmem
    rw [hnext] at hraised
    cases hraised

/-! ### Sequences of calls -/

theorem CoverageTracker.calls_objectives (seq : List CoverageCall) :
    (tracker.calls seq).objectives = tracker.objectives := by
  induction seq generalizing tracker with
  | nil => rfl
  | cons call rest ih =>
    unfold calls
    split
    · exact ih.trans (CoverageCall.apply_objectives ‹_›)
    · exact ih

/-- **A sequence of calls** leaves every objective with what the last call about it says. -/
theorem CoverageTracker.dispositionAt_calls (hid : id ∈ tracker.ids) (seq : List CoverageCall) :
    (tracker.calls seq).dispositionAt id = (standing id seq).or (tracker.dispositionAt id) := by
  induction seq generalizing tracker with
  | nil => rfl
  | cons call rest ih =>
    unfold calls
    split
    · rename_i next hnext
      have hid' : id ∈ next.ids := by
        unfold ids
        rw [CoverageCall.apply_objectives hnext]
        exact hid
      rw [ih hid', CoverageCall.dispositionAt_apply hnext, standing, Option.or_assoc]
    · rename_i e herror
      rw [ih hid, standing, CoverageCall.dispositionFor_of_error herror hid, Option.or_none]

/-! ### The counts -/

namespace CoverageTracker

variable (tracker : CoverageTracker)

theorem count_zeroStatuses (d : CoverageDisposition) : zeroStatuses.count d = 0 := by
  cases d <;> rfl

/-- The objectives that stand with a disposition; what is not recorded stands deferred. -/
def standingWith (d : CoverageDisposition) : List WSTGObjective :=
  tracker.objectives.filter fun objective => tracker.dispositionOr objective = d

/-- The records of a disposition. -/
def recordsOf (d : CoverageDisposition) : List CoverageRecord :=
  tracker.records.filter fun r => r.disposition = d

/-- **As many records satisfy a predicate as objectives have one that does.** -/
theorem length_filter_records (p : CoverageRecord → Bool) :
    (tracker.records.filter p).length =
      (tracker.objectives.filter fun o => (tracker.recordAt o.objectiveId).any p).length := by
  rw [Table.length_filter_eq tracker.single tracker.unique tracker.known p, List.filter_map,
    List.length_map]
  rfl

/-- What is missing is what stands deferred. -/
theorem missing_eq : tracker.missing = tracker.standingWith .deferred := by
  unfold missing standingWith
  refine List.filter_congr fun o _ => ?_
  have hmem : o.objectiveId ∈ tracker.testedOrFinal ↔ tracker.dispositionOr o ≠ .deferred := by
    unfold testedOrFinal dispositionOr dispositionAt recordAt
    rw [List.mem_map]
    constructor
    · rintro ⟨r, hr, hkey⟩
      obtain ⟨hmem, hfinal⟩ := List.mem_filter.mp hr
      rw [(Table.recordAt_eq_some tracker.single).mpr ⟨hmem, hkey⟩]
      exact CoverageDisposition.final_iff.mp hfinal
    · intro hne
      cases hat : Table.recordAt CoverageRecord.objectiveId tracker.records o.objectiveId with
      | none =>
        rw [hat] at hne
        exact absurd rfl hne
      | some r =>
        rw [hat] at hne
        obtain ⟨hmem, hkey⟩ := (Table.recordAt_eq_some tracker.single).mp hat
        exact ⟨r, List.mem_filter.mpr ⟨hmem, CoverageDisposition.final_iff.mpr hne⟩, hkey⟩
  simp [hmem]

/-- A final disposition is recorded as often as objectives stand with it. -/
theorem length_recordsOf {d : CoverageDisposition} (hd : d ≠ .deferred) :
    (tracker.recordsOf d).length = (tracker.standingWith d).length := by
  unfold recordsOf standingWith
  rw [length_filter_records]
  congr 1
  refine List.filter_congr fun o _ => ?_
  unfold dispositionOr dispositionAt
  cases tracker.recordAt o.objectiveId with
  | none => simp [Ne.symm hd]
  | some r => rfl

theorem count_statuses (d : CoverageDisposition) :
    tracker.gapSummary.statuses.count d = (tracker.recordsOf d).length +
      if d = .deferred then (tracker.standingWith .deferred).length else 0 := by
  have htally : (Counters.tally CoverageRecord.disposition tracker.records zeroStatuses).count d =
      (tracker.recordsOf d).length := by
    rw [Counters.count_tally, count_zeroStatuses, Nat.zero_add]
    rfl
  unfold gapSummary
  rw [Counters.count_bump]
  by_cases hd : d = .deferred
  · subst hd
    rw [if_pos rfl, if_pos rfl, htally, missing_eq]
  · rw [if_neg hd, if_neg hd, htally, Nat.add_zero]

theorem count_phaseStatus (objectives : List WSTGObjective)
    (phases : WSTGPhase → Counters CoverageDisposition) (phase : WSTGPhase)
    (d : CoverageDisposition) :
    (tracker.phaseStatus objectives phases phase).count d = (phases phase).count d +
      (objectives.filter fun o => o.phase = phase ∧ tracker.dispositionOr o = d).length := by
  induction objectives generalizing phases with
  | nil => rfl
  | cons o rest ih =>
    refine (ih _).trans ?_
    dsimp only
    by_cases hphase : o.phase = phase
    · subst hphase
      rw [Function.update_self, Counters.count_bump]
      by_cases hd : tracker.dispositionOr o = d
      · rw [if_pos hd.symm, List.filter_cons_of_pos (by simpa using hd), List.length_cons, hd]
        omega
      · rw [if_neg (Ne.symm hd), List.filter_cons_of_neg (by simpa using hd)]
    · rw [Function.update_of_ne (Ne.symm hphase),
        List.filter_cons_of_neg (by simp [hphase])]

/-- The objectives of a disposition, phase by phase. -/
theorem phaseCount_eq (d : CoverageDisposition) :
    tracker.gapSummary.phaseCount d = (tracker.standingWith d).length := by
  have hsum : ∀ objectives : List WSTGObjective, (WSTGPhase.members.map fun phase =>
      (objectives.filter fun o => o.phase = phase ∧ tracker.dispositionOr o = d).length).sum =
        (objectives.filter fun o => tracker.dispositionOr o = d).length := by
    intro objectives
    induction objectives with
    | nil => rfl
    | cons o rest ih =>
      by_cases hd : tracker.dispositionOr o = d
      · rw [List.filter_cons_of_pos (by simpa using hd), List.length_cons, ← ih]
        cases hphase : o.phase <;>
          simp [WSTGPhase.members, List.filter_cons, hphase, hd] <;> omega
      · rw [List.filter_cons_of_neg (by simpa using hd), ← ih]
        simp [hd]
  unfold GapSummary.phaseCount standingWith gapSummary
  rw [← hsum]
  congr 1
  refine List.map_congr_left fun phase _ => ?_
  rw [count_phaseStatus, count_zeroStatuses, Nat.zero_add]

/-! ### The balance -/

/-- **One summary** balances exactly where nothing is recorded as deferred. -/
theorem balanced_iff : tracker.gapSummary.Balanced ↔ tracker.recordsOf .deferred = [] := by
  constructor
  · rintro ⟨-, hstatuses⟩
    have hdeferred := hstatuses .deferred
    rw [count_statuses, phaseCount_eq, if_pos rfl] at hdeferred
    exact List.eq_nil_of_length_eq_zero (by omega)
  · intro hnone
    constructor
    · have hfinal : tracker.records.filter (fun r => r.disposition ≠ .deferred) = tracker.records := by
        refine List.filter_eq_self.mpr fun r hr => ?_
        have hnot := List.filter_eq_nil_iff.mp hnone r hr
        simpa using hnot
      have hrecords : tracker.records.length = (tracker.objectives.filter fun o =>
          tracker.dispositionOr o ≠ .deferred).length := by
        rw [← hfinal, length_filter_records]
        congr 1
        refine List.filter_congr fun o _ => ?_
        unfold dispositionOr dispositionAt
        cases tracker.recordAt o.objectiveId <;> rfl
      have hsplit := List.length_eq_length_filter_add
        (fun o => decide (tracker.dispositionOr o = .deferred)) (l := tracker.objectives)
      have hzero : zeroStatuses.total = 0 := rfl
      have htotal : tracker.gapSummary.statuses.total =
          tracker.records.length + (tracker.standingWith .deferred).length := by
        unfold gapSummary
        rw [Counters.total_bump, Counters.total_tally, hzero, Nat.zero_add, missing_eq]
      rw [htotal, hrecords, gapSummary, hsplit, Nat.add_comm]
      unfold standingWith
      simp only [ne_eq, decide_not]
    · intro d
      rw [count_statuses, phaseCount_eq]
      by_cases hd : d = .deferred
      · subst hd
        rw [if_pos rfl, hnone, List.length_nil, Nat.zero_add]
      · rw [if_neg hd, Nat.add_zero, length_recordsOf tracker hd]

/-- Something is recorded as deferred exactly where an objective is. -/
theorem recordsOf_eq_nil (d : CoverageDisposition) : tracker.recordsOf d = [] ↔
    ∀ o ∈ tracker.objectives, tracker.dispositionAt o.objectiveId ≠ some d := by
  unfold recordsOf
  rw [← List.length_eq_zero_iff, length_filter_records, List.length_eq_zero_iff,
    List.filter_eq_nil_iff]
  refine forall₂_congr fun o _ => ?_
  unfold dispositionAt
  cases tracker.recordAt o.objectiveId <;> simp

end CoverageTracker

/-- What a summary should say of objectives after a sequence of calls: the counts sum to the
objectives and agree with those of the phases, and the gaps are the objectives that no call leaves
with a final disposition. -/
structure Accounts (objectives : List WSTGObjective) (seq : List CoverageCall)
    (summary : GapSummary) : Prop where
  total : summary.totalObjectives = objectives.length
  balanced : summary.Balanced
  gaps : summary.gaps = (objectives.filter fun o =>
    !(standing o.objectiveId seq).any CoverageDisposition.final).map WSTGObjective.objectiveId

theorem CoverageTracker.init_eq_ok (h : CoverageTracker.init objectives = .ok tracker) :
    tracker.objectives = objectives ∧ tracker.records = [] := by
  unfold init at h
  split at h
  · cases h
    exact ⟨rfl, rfl⟩
  · cases h

/-- What a sequence of calls on a new tracker leaves an objective with. -/
theorem CoverageTracker.dispositionAt_new (h : CoverageTracker.init objectives = .ok tracker)
    {o : WSTGObjective} (ho : o ∈ objectives) (seq : List CoverageCall) :
    (tracker.calls seq).dispositionAt o.objectiveId = standing o.objectiveId seq := by
  obtain ⟨hobjectives, hrecords⟩ := init_eq_ok h
  have hid : o.objectiveId ∈ tracker.ids := by
    unfold ids
    rw [hobjectives]
    exact List.mem_map_of_mem ho
  have hempty : tracker.dispositionAt o.objectiveId = none := by
    unfold dispositionAt recordAt
    rw [hrecords]
    rfl
  rw [dispositionAt_calls hid, hempty, Option.or_none]

/-- **The accounts of a campaign**, after any sequence of calls on a tracker of any objectives,
balance exactly where no objective stands with a record of its deferral. -/
theorem gapSummary_balances (hinit : CoverageTracker.init objectives = .ok tracker)
    (seq : List CoverageCall) :
    Accounts objectives seq (tracker.calls seq).gapSummary ↔
      ∀ o ∈ objectives, standing o.objectiveId seq ≠ some .deferred := by
  obtain ⟨hobjectives, -⟩ := CoverageTracker.init_eq_ok hinit
  have hreached : (tracker.calls seq).objectives = objectives :=
    (CoverageTracker.calls_objectives seq).trans hobjectives
  have hiff : (tracker.calls seq).gapSummary.Balanced ↔
      ∀ o ∈ objectives, standing o.objectiveId seq ≠ some .deferred := by
    rw [CoverageTracker.balanced_iff, CoverageTracker.recordsOf_eq_nil, hreached]
    refine forall₂_congr fun o ho => ?_
    rw [CoverageTracker.dispositionAt_new hinit ho]
  constructor
  · intro haccounts
    exact hiff.mp haccounts.balanced
  · intro hnone
    refine ⟨congrArg List.length hreached, hiff.mpr hnone, ?_⟩
    have hgaps : (tracker.calls seq).gapSummary.gaps =
        (tracker.calls seq).missing.map WSTGObjective.objectiveId := rfl
    rw [hgaps, CoverageTracker.missing_eq, CoverageTracker.standingWith, hreached]
    congr 1
    refine List.filter_congr fun o ho => ?_
    rw [CoverageTracker.dispositionOr, CoverageTracker.dispositionAt_new hinit ho]
    cases standing o.objectiveId seq with
    | none => rfl
    | some d => cases d <;> rfl

/-- The objective of a campaign of one. -/
def rootObjective : WSTGObjective where
  objectiveId := "wstg_v42_info_02"
  campaignId := "campaign-17"
  targetAlias := "owned-app"
  wstgId := "WSTG-v42-INFO-02"
  phase := .passive
  family := .httpMetadata
  toolName := "http_metadata"
  arguments := []
  riskTier := "passive"
  evidenceClassification := "public"
  evidenceRequired := ["headers"]
  requiresHumanApproval := false
  rationale := "WSTG-v42-INFO-02 maps to passive phase via http_metadata"

/-- Its tracker. -/
def rootTracker : CoverageTracker :=
  ⟨[rootObjective], [], List.nodup_singleton _, List.nodup_nil, fun _ h => absurd h List.not_mem_nil⟩

theorem rootTracker_init : CoverageTracker.init [rootObjective] = .ok rootTracker := by
  have hunique : ([rootObjective].map WSTGObjective.objectiveId).Nodup := List.nodup_singleton _
  exact dif_pos hunique

/-- Testing it after a deferral is accounted for. -/
theorem gapSummary_balances_tested :
    Accounts [rootObjective] [.mark rootObjective .deferred [] ["later"],
      .mark rootObjective .tested ["evidence/root.json"] []]
      (rootTracker.calls [.mark rootObjective .deferred [] ["later"],
        .mark rootObjective .tested ["evidence/root.json"] []]).gapSummary :=
  (gapSummary_balances rootTracker_init _).mpr (by decide)

/-- **A deferral is counted twice**: one objective, and two deferred. -/
theorem deferral_counted_twice :
    let seq := [CoverageCall.mark rootObjective .deferred [] ["later"]]
    (rootTracker.calls seq).gapSummary.totalObjectives = 1 ∧
      (rootTracker.calls seq).gapSummary.statuses.count .deferred = 2 ∧
      (rootTracker.calls seq).gapSummary.phaseCount .deferred = 1 ∧
      ¬ Accounts [rootObjective] seq (rootTracker.calls seq).gapSummary := by
  intro seq
  have htotal : (rootTracker.calls seq).gapSummary.totalObjectives = 1 := by decide
  have hstatuses : (rootTracker.calls seq).gapSummary.statuses.total = 2 := by decide
  refine ⟨htotal, by decide, by decide, fun h => ?_⟩
  have hbalanced := h.balanced.1
  rw [htotal, hstatuses] at hbalanced
  cases hbalanced

end Aotp.Wstg
