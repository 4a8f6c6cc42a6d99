import Aotp.Campaign.Definition

/-!
# Dependency-aware scheduling and the safety budget

* `schedule` — the objectives in the order they run: repeatedly the ready one of least priority,
  then least id.
* `schedule_perm` — **a schedule is a permutation of the objectives**.
* `SafetyBudget` — the counters of one invocation with their limits; `denialReason` is the first
  limit that forbids another dispatch, `record` what a dispatch costs.
-/

namespace Aotp.Campaign

open PyData Aotp.Gate

variable (rt : Runtime)

/-! ### Scheduling -/

/-- `str(item["id"])`. -/
def objectiveIdOf (item : Dict) : Except Exc String :=
  match dget? item "id" with
  | some id => .ok (pyStr rt id)
  | none => .error (.keyError "id")

/-- `set(item.get("depends_on", [])) <= completed`. -/
def dependenciesMet (completed : List String) (item : Dict) : Except Exc Bool := do
  let dependencies ← toSet (dgetD item "depends_on" (.arr []))
  pure (dependencies.all fun d => completed.any fun c => Json.pyEq d (.str c))

/-- The sort key of a ready objective: `(int(item.get("priority", 100)), str(item["id"]))`. -/
def scheduleKey (item : Dict) : Except Exc (ℤ × String) := do
  let priority ← pyInt rt (dgetD item "priority" (.int 100))
  let id ← objectiveIdOf rt item
  pure (priority, id)

/-- The order of sort keys. -/
def keyLt (a b : ℤ × String) : Bool := a.1 < b.1 || (a.1 == b.1 && a.2 < b.2)

/-- The entry of least key; the first one among equals. -/
def leastByKey : (ℤ × String) × Dict → List ((ℤ × String) × Dict) → (ℤ × String) × Dict
  | best, [] => best
  | best, x :: xs => leastByKey (if keyLt x.1 best.1 then x else best) xs

/-- The ready objectives among those that remain, each with its sort key. -/
def readyObjectives (completed : List String) : List Dict → Except Exc (List ((ℤ × String) × Dict))
  | [] => .ok []
  | item :: rest => do
    let met ← dependenciesMet completed item
    let others ← readyObjectives completed rest
    if met then
      let key ← scheduleKey rt item
      pure ((key, item) :: others)
    else pure others

/-- The loop of the scheduler. Every turn places one objective, so the number of objectives is
enough fuel.
Source: `scheduler.schedule`, `while remaining` -/
def scheduleLoop : ℕ → List Dict → List String → Except Exc (List Dict)
  | _, [], _ => .ok []
  | 0, _ :: _, _ =>
    .error (.valueError "campaign objectives cannot be scheduled due to dependency cycle")
  | fuel + 1, item :: items, completed => do
    match ← readyObjectives rt completed (item :: items) with
    | [] => throw (.valueError "campaign objectives cannot be scheduled due to dependency cycle")
    | first :: others => do
      let selected := leastByKey first others
      let id := selected.1.2
      let rest ← scheduleLoop fuel
        ((item :: items).filter fun other => objectiveIdOf rt other != .ok id) (id :: completed)
      pure (selected.2 :: rest)

/-- `{str(item["id"]): item for item in objectives}`: the last item of an id, in the place of the
first. -/
def byId : List Dict → Except Exc (List (String × Dict))
  | [] => .ok []
  | item :: rest => do
    let id ← objectiveIdOf rt item
    let others ← byId rest
    match others.lookup id with
    | some later => pure ((id, later) :: others.filter (·.1 != id))
    | none => pure ((id, item) :: others)

/-- Source: `scheduler.schedule` -/
def schedule (objectives : List Dict) : Except Exc (List Dict) := do
  let entries ← byId rt objectives
  scheduleLoop rt entries.length (entries.map Prod.snd) []

/-! ### A schedule is a permutation -/

variable {rt}

theorem mem_readyObjectives {completed : List String} {items : List Dict}
    {ready : List ((ℤ × String) × Dict)} (h : readyObjectives rt completed items = .ok ready)
    {x : (ℤ × String) × Dict} (hx : x ∈ ready) :
    x.2 ∈ items ∧ dependenciesMet completed x.2 = .ok true ∧ scheduleKey rt x.2 = .ok x.1 := by
  induction items generalizing ready with
  | nil =>
    cases h
    cases hx
  | cons item items ih =>
    simp only [readyObjectives, bind_eq_ok] at h
    obtain ⟨met, hmet, others, hothers, h⟩ := h
    cases met with
    | false =>
      cases h
      obtain ⟨h₁, h₂⟩ := ih hothers hx
      exact ⟨List.mem_cons_of_mem _ h₁, h₂⟩
    | true =>
      simp only [if_true, bind_eq_ok] at h
      obtain ⟨key, hkey, h⟩ := h
      cases h
      rcases List.mem_cons.mp hx with rfl | hx
      · exact ⟨List.mem_cons_self, hmet, hkey⟩
      · obtain ⟨h₁, h₂⟩ := ih hothers hx
        exact ⟨List.mem_cons_of_mem _ h₁, h₂⟩

theorem leastByKey_mem (best : (ℤ × String) × Dict) (xs : List ((ℤ × String) × Dict)) :
    leastByKey best xs ∈ best :: xs := by
  induction xs generalizing best with
  | nil => simp [leastByKey]
  | cons x xs ih =>
    rw [leastByKey]
    split
    · exact List.mem_cons_of_mem _ (ih x)
    · rcases List.mem_cons.mp (ih best) with h | h
      · rw [h]
        exact List.mem_cons_self
      · exact List.mem_cons_of_mem _ (List.mem_cons_of_mem _ h)

theorem scheduleKey_id {item : Dict} {key : ℤ × String} (h : scheduleKey rt item = .ok key) :
    objectiveIdOf rt item = .ok key.2 := by
  simp only [scheduleKey, bind_eq_ok] at h
  obtain ⟨priority, -, id, hid, h⟩ := h
  cases h
  exact hid

/-- Taking the one element with a given image out of a list. -/
theorem perm_cons_filter_ne {α β : Type} [DecidableEq β] {f : α → β} {l : List α} {a : α}
    (ha : a ∈ l) (hl : (l.map f).Nodup) : l.Perm (a :: l.filter fun b => f b != f a) := by
  induction l with
  | nil => cases ha
  | cons b l ih =>
    rw [List.map_cons, List.nodup_cons] at hl
    rcases List.mem_cons.mp ha with rfl | ha
    · have hself : l.filter (fun b => f b != f a) = l := by
        rw [List.filter_eq_self]
        intro c hc
        have hne : f c ≠ f a := fun he => hl.1 (he ▸ List.mem_map_of_mem hc)
        simpa using hne
      rw [List.filter_cons_of_neg (by simp), hself]
    · have hne : f b ≠ f a := fun he => hl.1 (he ▸ List.mem_map_of_mem ha)
      rw [List.filter_cons_of_pos (by simpa using hne)]
      exact ((ih ha hl.2).cons b).trans (.swap a b _)

theorem scheduleLoop_perm {fuel : ℕ} {remaining ordered : List Dict} {completed : List String}
    (h : scheduleLoop rt fuel remaining completed = .ok ordered)
    (hids : (remaining.map (objectiveIdOf rt)).Nodup) : ordered.Perm remaining := by
  induction fuel generalizing remaining completed ordered with
  | zero =>
    cases remaining with
    | nil =>
      cases h
      exact .nil
    | cons item items => cases h
  | succ fuel ih =>
    cases remaining with
    | nil =>
      cases h
      exact .nil
    | cons item items =>
      simp only [scheduleLoop, bind_eq_ok] at h
      obtain ⟨ready, hready, h⟩ := h
      cases ready with
      | nil => cases h
      | cons first others =>
        obtain ⟨rest, hrest, h⟩ := bind_eq_ok.mp h
        cases h
        obtain ⟨hmem, -, hkey⟩ := mem_readyObjectives hready (leastByKey_mem first others)
        have hid := scheduleKey_id hkey
        rw [← hid] at hrest
        have hperm := perm_cons_filter_ne hmem hids
        refine .trans (.cons _ (ih hrest ?_)) hperm.symm
        exact hids.sublist (List.filter_sublist.map _)

theorem byId_eq {objectives : List Dict} {entries : List (String × Dict)}
    (h : byId rt objectives = .ok entries) (hids : (objectives.map (objectiveIdOf rt)).Nodup) :
    entries.map Prod.snd = objectives ∧ ∀ e ∈ entries, objectiveIdOf rt e.2 = .ok e.1 := by
  induction objectives generalizing entries with
  | nil =>
    cases h
    exact ⟨rfl, by simp⟩
  | cons item items ih =>
    rw [List.map_cons, List.nodup_cons] at hids
    simp only [byId, bind_eq_ok] at h
    obtain ⟨id, hid, others, hothers, h⟩ := h
    obtain ⟨hmap, hkeys⟩ := ih hothers hids.2
    have hnone : others.lookup id = none := by
      rw [List.lookup_eq_none_iff]
      intro e he
      have hne : id ≠ e.1 := by
        rintro rfl
        refine hids.1 ?_
        rw [hid, ← hkeys e he, ← hmap]
        exact List.mem_map_of_mem (List.mem_map_of_mem he)
      simpa using hne
    rw [hnone] at h
    cases h
    refine ⟨by simp [hmap], ?_⟩
    intro e he
    rcases List.mem_cons.mp he with rfl | he
    · exact hid
    · exact hkeys e he

/-- **A schedule is a permutation of the objectives** when their ids are distinct. -/
theorem schedule_perm {objectives ordered : List Dict} (h : schedule rt objectives = .ok ordered)
    (hids : (objectives.map (objectiveIdOf rt)).Nodup) : ordered.Perm objectives := by
  simp only [schedule, bind_eq_ok] at h
  obtain ⟨entries, hentries, h⟩ := h
  obtain ⟨hmap, -⟩ := byId_eq hentries hids
  rw [hmap] at h
  exact scheduleLoop_perm h hids

/-! ### The safety budget -/

/-- Source: `safety_budget.SafetyBudget` -/
@[ext] structure SafetyBudget where
  maxIterations : ℤ
  maxRuntimeSeconds : ℤ
  maxRequests : ℤ
  maxRequestsPerMinute : ℤ
  maxConsecutiveFailures : ℤ
  iterations : ℤ
  requests : ℤ
  currentMinuteRequests : ℤ
  consecutiveFailures : ℤ
  deriving DecidableEq, Repr

/-- Source: `safety_budget.SafetyBudget.denial_reason` -/
def SafetyBudget.denialReason (b : SafetyBudget) (elapsedSeconds : ℚ) (proposedRequests : ℤ) :
    Except Exc (Option String) :=
  if proposedRequests < 0 then
    .error (.valueError "proposed request count cannot be negative")
  else if b.iterations ≥ b.maxIterations then .ok (some "iteration_limit")
  else if elapsedSeconds ≥ b.maxRuntimeSeconds then .ok (some "runtime_limit")
  else if b.requests + proposedRequests > b.maxRequests then .ok (some "request_limit")
  else if b.currentMinuteRequests + proposedRequests > b.maxRequestsPerMinute then
    .ok (some "rate_limit")
  else if b.consecutiveFailures ≥ b.maxConsecutiveFailures then
    .ok (some "consecutive_failure_limit")
  else .ok none

/-- Source: `safety_budget.SafetyBudget.record` -/
def SafetyBudget.record (b : SafetyBudget) (requestCount : ℤ) (failed : Bool) :
    Except Exc SafetyBudget :=
  if requestCount < 0 then .error (.valueError "request count cannot be negative")
  else .ok { b with
    iterations := b.iterations + 1
    requests := b.requests + requestCount
    currentMinuteRequests := b.currentMinuteRequests + requestCount
    consecutiveFailures := if failed then b.consecutiveFailures + 1 else 0 }

end Aotp.Campaign
