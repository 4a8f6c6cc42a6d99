import Mathlib

/-!
# Tables of records

Records that carry their own keys, at most one a key, in the order the keys first appeared.

* `recordAt` — `records.get(key)`; `put` — `records[key(record)] = record`.
* `recordAt_put`, `filter_put_ne` — a `put` changes the record of one key, and nothing else.
* `length_filter_eq` — **counting through the keys**: as many records satisfy a predicate as there
  are keys, in any set that covers the table, whose record does.
-/

namespace PyData

namespace Table

variable {α κ : Type} [DecidableEq κ] (key : α → κ)

/-- `records.get(k)`. -/
def recordAt (records : List α) (k : κ) : Option α := records.find? fun r => key r = k

/-- `records[key(x)] = x`. -/
def put : List α → α → List α
  | [], x => [x]
  | r :: rs, x => if key r = key x then x :: rs else r :: put rs x

variable {key} {rs : List α} {x r : α} {k : κ}

theorem recordAt_cons (r : α) (rs : List α) (k : κ) :
    recordAt key (r :: rs) k = if key r = k then some r else recordAt key rs k := by
  unfold recordAt
  rw [List.find?_cons]
  by_cases h : key r = k
  · simp [h]
  · simp [h]

theorem recordAt_put (rs : List α) (x : α) (k : κ) :
    recordAt key (put key rs x) k = if key x = k then some x else recordAt key rs k := by
  induction rs with
  | nil => exact recordAt_cons x [] k
  | cons r rs ih =>
    unfold put
    by_cases hr : key r = key x
    · rw [if_pos hr, recordAt_cons, recordAt_cons, hr]
      by_cases hx : key x = k
      · rw [if_pos hx, if_pos hx]
      · rw [if_neg hx, if_neg hx, if_neg hx]
    · rw [if_neg hr, recordAt_cons, recordAt_cons, ih]
      by_cases hx : key x = k
      · have hne : key r ≠ k := fun heq => hr (heq.trans hx.symm)
        rw [if_neg hne, if_pos hx, if_pos hx]
      · rw [if_neg hx, if_neg hx]

theorem mem_put (h : r ∈ put key rs x) : r = x ∨ r ∈ rs := by
  induction rs with
  | nil => exact .inl (List.mem_singleton.mp h)
  | cons s rs ih =>
    unfold put at h
    by_cases hs : key s = key x
    · rw [if_pos hs] at h
      exact (List.mem_cons.mp h).imp id fun hmem => List.mem_cons_of_mem _ hmem
    · rw [if_neg hs] at h
      rcases List.mem_cons.mp h with rfl | hmem
      · exact .inr List.mem_cons_self
      · exact (ih hmem).imp id fun hmem => List.mem_cons_of_mem _ hmem

/-- A `put` leaves the records of the other keys as they are, and in place. -/
theorem filter_put_ne (rs : List α) (x : α) :
    (put key rs x).filter (fun r => key r ≠ key x) = rs.filter fun r => key r ≠ key x := by
  induction rs with
  | nil => simp [put]
  | cons r rs ih =>
    unfold put
    by_cases hr : key r = key x
    · simp [hr]
    · rw [if_neg hr, List.filter_cons, List.filter_cons, ih]

theorem put_of_not_mem (h : key x ∉ rs.map key) : put key rs x = rs ++ [x] := by
  induction rs with
  | nil => rfl
  | cons r rs ih =>
    have hr : key r ≠ key x := fun heq => h (by simp [heq])
    have hrs : key x ∉ rs.map key := fun hmem => h (List.mem_cons_of_mem _ hmem)
    unfold put
    rw [if_neg hr, ih hrs, List.cons_append]

theorem keys_put_of_mem (h : key x ∈ rs.map key) : (put key rs x).map key = rs.map key := by
  induction rs with
  | nil => cases h
  | cons r rs ih =>
    unfold put
    by_cases hr : key r = key x
    · rw [if_pos hr, List.map_cons, List.map_cons, hr]
    · have hrs : key x ∈ rs.map key :=
        (List.mem_cons.mp h).resolve_left fun heq => hr heq.symm
      rw [if_neg hr, List.map_cons, List.map_cons, ih hrs]

/-- A `put` keeps every key single. -/
theorem nodup_put (h : (rs.map key).Nodup) : ((put key rs x).map key).Nodup := by
  by_cases hx : key x ∈ rs.map key
  · rw [keys_put_of_mem hx]
    exact h
  · rw [put_of_not_mem hx, List.map_append]
    refine List.nodup_append.mpr ⟨h, List.nodup_singleton _, ?_⟩
    intro k hk k' hk' heq
    rw [List.map_singleton, List.mem_singleton] at hk'
    exact hx (hk' ▸ heq ▸ hk)

theorem recordAt_eq_some (h : (rs.map key).Nodup) :
    recordAt key rs k = some r ↔ r ∈ rs ∧ key r = k := by
  induction rs with
  | nil => simp [recordAt]
  | cons s rs ih =>
    obtain ⟨hs, hrs⟩ := List.nodup_cons.mp h
    rw [recordAt_cons, List.mem_cons]
    by_cases hk : key s = k
    · rw [if_pos hk, Option.some_inj]
      constructor
      · rintro rfl
        exact ⟨.inl rfl, hk⟩
      · rintro ⟨rfl | hmem, hr⟩
        · rfl
        · exact absurd (List.mem_map.mpr ⟨r, hmem, hr.trans hk.symm⟩) hs
    · rw [if_neg hk, ih hrs]
      constructor
      · rintro ⟨hmem, hr⟩
        exact ⟨.inr hmem, hr⟩
      · rintro ⟨rfl | hmem, hr⟩
        · exact absurd hr hk
        · exact ⟨hmem, hr⟩

/-- After a `put`, its record is the only one of its key. -/
theorem filter_put_eq (h : (rs.map key).Nodup) (x : α) :
    (put key rs x).filter (fun r => key r = key x) = [x] := by
  induction rs with
  | nil => simp [put]
  | cons r rs ih =>
    obtain ⟨hr, hrs⟩ := List.nodup_cons.mp h
    unfold put
    by_cases heq : key r = key x
    · have hnone : rs.filter (fun s => key s = key x) = [] := by
        rw [List.filter_eq_nil_iff]
        intro s hs hsx
        exact hr (List.mem_map.mpr ⟨s, hs, (of_decide_eq_true hsx).trans heq.symm⟩)
      rw [if_pos heq, List.filter_cons_of_pos (by simp), hnone]
    · rw [if_neg heq, List.filter_cons_of_neg (by simpa using heq), ih hrs]

/-- **Counting through the keys.** -/
theorem length_filter_eq {keys : List κ} (h : (rs.map key).Nodup) (hkeys : keys.Nodup)
    (hcovers : ∀ r ∈ rs, key r ∈ keys) (p : α → Bool) :
    (rs.filter p).length = (keys.filter fun k => (recordAt key rs k).any p).length := by
  have hperm : ((rs.filter p).map key).Perm
      (keys.filter fun k => (recordAt key rs k).any p) := by
    refine (List.perm_ext_iff_of_nodup ?_ (hkeys.filter _)).mpr ?_
    · exact h.sublist (List.filter_sublist.map key)
    · intro k
      simp only [List.mem_map, List.mem_filter, Option.any_eq_true, recordAt_eq_some h]
      constructor
      · rintro ⟨r, ⟨hr, hp⟩, rfl⟩
        exact ⟨hcovers r hr, r, ⟨hr, rfl⟩, hp⟩
      · rintro ⟨-, r, ⟨hr, hk⟩, hp⟩
        exact ⟨r, ⟨hr, hp⟩, hk⟩
  rw [← hperm.length_eq, List.length_map]

end Table

end PyData
