import Mathlib

/-!
# Counters by key

A mapping from keys to natural numbers as its entries, in the order the keys first appeared.

* `count` — `counters.get(key, 0)`; `bump` — `counters[key] = counters.get(key, 0) + n`.
* `total` — the sum of all counters; `total_bump` — it grows by exactly what one bump adds.
* `tally` — one bump for each element of a list; `count_tally` — it counts the elements by key.
* `Within` — every counter that has a limit is at most that limit.
-/

namespace PyData

/-- Counters by key, as their entries. -/
abbrev Counters (κ : Type) := List (κ × ℕ)

namespace Counters

variable {κ : Type}

/-- The sum of all counters. -/
def total (c : Counters κ) : ℕ := (c.map Prod.snd).sum

@[simp] theorem total_nil : total ([] : Counters κ) = 0 := rfl

variable [DecidableEq κ]

/-- `counters.get(key, 0)`. -/
def count : Counters κ → κ → ℕ
  | [], _ => 0
  | (k, n) :: rest, key => if key = k then n else count rest key

/-- `counters[key] = counters.get(key, 0) + amount`. -/
def bump : Counters κ → κ → ℕ → Counters κ
  | [], key, amount => [(key, amount)]
  | (k, n) :: rest, key, amount =>
    if key = k then (k, n + amount) :: rest else (k, n) :: bump rest key amount

@[simp] theorem count_nil (key : κ) : count [] key = 0 := rfl

theorem total_bump (c : Counters κ) (key : κ) (amount : ℕ) :
    total (c.bump key amount) = total c + amount := by
  induction c with
  | nil => simp [bump, total]
  | cons e rest ih =>
    obtain ⟨k, n⟩ := e
    simp only [total] at ih
    unfold bump
    split_ifs with hk
    · simp only [total, List.map_cons, List.sum_cons]
      omega
    · simp only [total, List.map_cons, List.sum_cons, ih]
      omega

theorem count_bump (c : Counters κ) (key key' : κ) (amount : ℕ) :
    count (c.bump key amount) key' = if key' = key then count c key + amount else count c key' := by
  induction c with
  | nil =>
    by_cases h : key' = key <;> simp [bump, count, h]
  | cons e rest ih =>
    obtain ⟨k, n⟩ := e
    unfold bump
    by_cases hk : key = k
    · subst hk
      by_cases h : key' = key <;> simp [count, h]
    · by_cases h : key' = k
      · have hne : key' ≠ key := fun heq => hk (heq ▸ h)
        simp [count, hk, h, Ne.symm hk]
      · have hcount : count ((k, n) :: Counters.bump rest key amount) key' =
            count (Counters.bump rest key amount) key' := by simp [count, h]
        rw [if_neg hk, hcount, ih]
        simp [count, hk, h]

/-- `for x in xs: counters[f(x)] += 1`. -/
def tally {α : Type} (f : α → κ) (xs : List α) (c : Counters κ) : Counters κ :=
  xs.foldl (fun c x => c.bump (f x) 1) c

theorem total_tally {α : Type} (f : α → κ) (xs : List α) (c : Counters κ) :
    total (tally f xs c) = total c + xs.length := by
  induction xs generalizing c with
  | nil => rfl
  | cons x xs ih =>
    have hrest : total (tally f xs (c.bump (f x) 1)) = total (c.bump (f x) 1) + xs.length := ih _
    rw [total_bump] at hrest
    rw [List.length_cons]
    exact hrest.trans (by omega)

theorem count_tally {α : Type} (f : α → κ) (xs : List α) (c : Counters κ) (key : κ) :
    count (tally f xs c) key = count c key + (xs.filter fun x => f x = key).length := by
  induction xs generalizing c with
  | nil => rfl
  | cons x xs ih =>
    have hrest : count (tally f xs (c.bump (f x) 1)) key =
        count (c.bump (f x) 1) key + (xs.filter fun x => f x = key).length := ih _
    rw [count_bump] at hrest
    refine hrest.trans ?_
    by_cases hx : f x = key
    · rw [if_pos hx.symm, List.filter_cons_of_pos (by simpa using hx), List.length_cons, hx]
      omega
    · rw [if_neg (Ne.symm hx), List.filter_cons_of_neg (by simpa using hx)]

/-- Every counter that has a limit is at most that limit. -/
def Within (c : Counters κ) (limits : List (κ × ℕ)) : Prop :=
  ∀ key limit, limits.lookup key = some limit → count c key ≤ limit

theorem within_nil (limits : List (κ × ℕ)) : Within [] limits :=
  fun _ _ _ => Nat.zero_le _

/-- A bump that respects the limit of its own key keeps every counter within its limit. -/
theorem Within.bump {c : Counters κ} {limits : List (κ × ℕ)} (h : c.Within limits) {key : κ}
    {amount : ℕ} (hkey : ∀ limit, limits.lookup key = some limit → count c key + amount ≤ limit) :
    (c.bump key amount).Within limits := by
  intro key' limit hlimit
  rw [count_bump]
  split_ifs with hk
  · subst hk
    exact hkey limit hlimit
  · exact h key' limit hlimit

end Counters

end PyData
