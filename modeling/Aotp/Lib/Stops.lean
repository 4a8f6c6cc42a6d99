import Aotp.Lib.Regex

/-!
# Expressions that cannot cross a character

* `Re.avoids` — no class of an expression accepts a character. `run_append_stop` — **then what matches
  before that character does not depend on what comes after it**.
* `Re.Opens` — somewhere an expression matches and leaves a rest with a property; `opens_append_stop`,
  `opens_prev` — a text taken apart at such a character.
* `run_tail_ne_nil` — an expression that ends in a repetition.
* `Re.minLength`, `run_length` — the least number of characters a match takes.
-/

namespace PyData

variable {word : Char → Bool} {stop : Char} {prev prev' : Option Char} {a b cs : List Char}

/-! ### Stops -/

/-- No class of an expression accepts a character. -/
def Re.avoids (c : Char) : Re → Bool
  | .eps => true
  | .cls p => !p c
  | .many _ _ p => !p c
  | .seq a b => a.avoids c && b.avoids c
  | .alt a b => a.avoids c && b.avoids c
  | .wordBoundary => true

/-- What is behind a position is put off. -/
def behind (rest : List Char) (q : Pos) : Pos := (q.1, q.2 ++ rest)

theorem greedy_append_stop {p : Char → Bool} {lo : ℕ} {hi : Option ℕ} (hp : p stop = false) :
    greedy p lo hi prev (a ++ stop :: b) = (greedy p lo hi prev a).map (behind (stop :: b)) := by
  induction a generalizing lo hi prev with
  | nil =>
    simp only [List.nil_append, greedy, hp, Bool.false_and, Bool.false_eq_true, if_false]
    split_ifs <;> rfl
  | cons c a ih =>
    simp only [List.cons_append, greedy]
    split_ifs with hgo hlo hlo
    · rw [List.map_append, ih]
      rfl
    · rw [List.map_append, ih]
      rfl
    · rfl
    · rfl

/-- **What matches before a stop does not depend on what comes after it.** -/
theorem run_append_stop {e : Re} (hword : word stop = false) (he : e.avoids stop = true) :
    e.run word (prev, a ++ stop :: b) = (e.run word (prev, a)).map (behind (stop :: b)) := by
  induction e generalizing prev a with
  | eps => rfl
  | cls p =>
    have hp : p stop = false := by simpa [Re.avoids] using he
    cases a with
    | nil => simp [Re.run, hp]
    | cons c a =>
      simp only [List.cons_append, Re.run]
      split_ifs <;> rfl
  | many lo hi p => exact greedy_append_stop (by simpa [Re.avoids] using he)
  | seq e₁ e₂ ih₁ ih₂ =>
    simp only [Re.avoids, Bool.and_eq_true] at he
    simp only [Re.run]
    rw [ih₁ he.1, List.flatMap_map, List.map_flatMap]
    congr 1
    funext q
    exact ih₂ he.2
  | alt e₁ e₂ ih₁ ih₂ =>
    simp only [Re.avoids, Bool.and_eq_true] at he
    simp only [Re.run]
    rw [ih₁ he.1, ih₂ he.2, List.map_append]
  | wordBoundary =>
    have hhead : (a ++ stop :: b).head?.any word = a.head?.any word := by
      cases a with
      | nil => simpa using hword
      | cons c a => rfl
    simp only [Re.run, hhead]
    split_ifs <;> rfl

/-- Two positions that differ before the text only, and there only in a way no boundary sees. -/
def Alike (word : Char → Bool) (q q' : Pos) : Prop := q.1.any word = q'.1.any word ∧ q.2 = q'.2

theorem forall₂_alike_refl (qs : List Pos) : List.Forall₂ (Alike word) qs qs :=
  List.forall₂_same.mpr fun _ _ => ⟨rfl, rfl⟩

/-- **What comes before the text is only looked at by boundaries.** -/
theorem run_alike {e : Re} {q q' : Pos} (h : Alike word q q') :
    List.Forall₂ (Alike word) (e.run word q) (e.run word q') := by
  induction e generalizing q q' with
  | eps => exact .cons h .nil
  | cls p =>
    obtain ⟨prev, cs⟩ := q
    obtain ⟨prev', cs'⟩ := q'
    obtain ⟨-, rfl⟩ := h
    cases cs with
    | nil => exact .nil
    | cons c cs => exact forall₂_alike_refl _
  | many lo hi p =>
    obtain ⟨prev, cs⟩ := q
    obtain ⟨prev', cs'⟩ := q'
    obtain ⟨hprev, rfl⟩ := h
    have hhere : ∀ cs, List.Forall₂ (Alike word) (if lo = 0 then [(prev, cs)] else [])
        (if lo = 0 then [(prev', cs)] else []) := by
      intro cs
      split_ifs
      · exact .cons ⟨hprev, rfl⟩ .nil
      · exact .nil
    cases cs with
    | nil => exact hhere []
    | cons c cs =>
      simp only [Re.run, greedy]
      split_ifs with hgo hlo hlo
      · exact List.rel_append (forall₂_alike_refl _) (.cons ⟨hprev, rfl⟩ .nil)
      · exact forall₂_alike_refl _
      · exact .cons ⟨hprev, rfl⟩ .nil
      · exact .nil
  | seq e₁ e₂ ih₁ ih₂ => exact List.rel_flatMap (ih₁ h) fun _ _ h' => ih₂ h'
  | alt e₁ e₂ ih₁ ih₂ => exact List.rel_append (ih₁ h) (ih₂ h)
  | wordBoundary =>
    obtain ⟨prev, cs⟩ := q
    obtain ⟨prev', cs'⟩ := q'
    obtain ⟨hprev, rfl⟩ := h
    have hprev' : prev.any word = prev'.any word := hprev
    simp only [Re.run, hprev']
    split_ifs
    · exact .cons ⟨hprev, rfl⟩ .nil
    · exact .nil

/-! ### Somewhere in a text -/

/-- Somewhere in the text an expression matches and leaves a rest with a property. -/
def Re.Opens (word : Char → Bool) (e : Re) (P : List Char → Prop) :
    Option Char → List Char → Prop
  | prev, [] => ∃ q ∈ e.run word (prev, []), P q.2
  | prev, c :: cs => (∃ q ∈ e.run word (prev, c :: cs), P q.2) ∨ Opens word e P (some c) cs

variable {e : Re} {P Q : List Char → Prop}

theorem searchFrom_iff_opens {e' : Re} (h : ∀ pos, e'.run word pos ≠ [] ↔
    ∃ q ∈ e.run word pos, P q.2) : e'.searchFrom word prev cs = true ↔ e.Opens word P prev cs := by
  induction cs generalizing prev with
  | nil => simp [Re.searchFrom, Re.Opens, ← h]
  | cons c cs ih => simp [Re.searchFrom, Re.Opens, ← h, ih]

theorem opens_congr (h : ∀ r, P r ↔ Q r) : e.Opens word P prev cs ↔ e.Opens word Q prev cs := by
  rw [funext fun r => propext (h r)]

theorem opens_or : e.Opens word (fun r => P r ∨ Q r) prev cs ↔
    e.Opens word P prev cs ∨ e.Opens word Q prev cs := by
  induction cs generalizing prev with
  | nil =>
    simp only [Re.Opens, and_or_left, exists_or]
  | cons c cs ih =>
    simp only [Re.Opens, and_or_left, exists_or, ih]
    exact or_or_or_comm

/-- **A text taken apart at a stop.** -/
theorem opens_append_stop (hword : word stop = false) (he : e.avoids stop = true) :
    e.Opens word P prev (a ++ stop :: b) ↔
      e.Opens word (fun r => P (r ++ stop :: b)) prev a ∨ e.Opens word P (some stop) b := by
  have hrun (prev : Option Char) (a : List Char) : (∃ q ∈ e.run word (prev, a ++ stop :: b), P q.2) ↔
      ∃ q ∈ e.run word (prev, a), P (q.2 ++ stop :: b) := by
    rw [run_append_stop hword he]
    simp only [List.mem_map, exists_exists_and_eq_and, behind]
  induction a generalizing prev with
  | nil => rw [List.nil_append, Re.Opens, Re.Opens, ← hrun prev [], List.nil_append]
  | cons c a ih =>
    rw [List.cons_append, Re.Opens, Re.Opens, ← hrun prev (c :: a), List.cons_append, or_assoc]
    exact or_congr Iff.rfl ih

/-- What comes before the text matters to boundaries only. -/
theorem opens_prev (h : prev.any word = prev'.any word) :
    e.Opens word P prev cs ↔ e.Opens word P prev' cs := by
  have hrun (cs : List Char) : (∃ q ∈ e.run word (prev, cs), P q.2) ↔
      ∃ q ∈ e.run word (prev', cs), P q.2 := by
    have halike := run_alike (e := e) (show Alike word (prev, cs) (prev', cs) from ⟨h, rfl⟩)
    generalize e.run word (prev, cs) = qs at halike
    generalize e.run word (prev', cs) = qs' at halike
    induction halike with
    | nil => rfl
    | cons hq _ ih =>
      rw [List.exists_mem_cons_iff, List.exists_mem_cons_iff, hq.2]
      exact or_congr Iff.rfl ih
  cases cs with
  | nil => exact hrun []
  | cons c cs => exact or_congr (hrun _) Iff.rfl

/-- Nowhere in a text without matches. -/
theorem not_opens (h : ∀ prev t, t <:+ cs → e.run word (prev, t) = []) :
    ¬ e.Opens word P prev cs := by
  induction cs generalizing prev with
  | nil =>
    rintro ⟨q, hq, -⟩
    rw [h prev [] (List.suffix_refl _)] at hq
    cases hq
  | cons c cs ih =>
    rintro (⟨q, hq, -⟩ | hrest)
    · rw [h prev _ (List.suffix_refl _)] at hq
      cases hq
    · exact ih (fun prev t ht => h prev t (ht.trans (List.suffix_cons c cs))) hrest

/-! ### Expressions that end in a repetition -/

theorem run_seqRe_append {es fs : List Re} {pos : Pos} : (seqRe (es ++ fs)).run word pos =
    ((seqRe es).run word pos).flatMap ((seqRe fs).run word) := by
  induction es generalizing pos with
  | nil => simp [seqRe, Re.run]
  | cons e es ih =>
    show (e.run word pos).flatMap ((seqRe (es ++ fs)).run word) =
      ((e.run word pos).flatMap ((seqRe es).run word)).flatMap _
    rw [List.flatMap_assoc]
    congr 1
    funext q
    exact ih

theorem greedy_ne_nil {p : Char → Bool} {lo : ℕ} :
    greedy p lo none prev cs ≠ [] ↔ lo ≤ (cs.takeWhile p).length := by
  induction cs generalizing lo prev with
  | nil =>
    rw [greedy]
    split_ifs with h <;> simp [h]
  | cons c cs ih =>
    rw [greedy]
    have hnone : ((none : Option ℕ) != some 0) = true := rfl
    simp only [hnone, Bool.and_true, Option.map_none]
    by_cases hp : p c = true
    · rw [if_pos hp, List.takeWhile_cons_of_pos hp, List.length_cons, ne_eq, List.append_eq_nil_iff,
        not_and_or, ← ne_eq, ih]
      split_ifs with hlo
      · simp [hlo]
      · simp
    · rw [if_neg hp, List.takeWhile_cons_of_neg hp]
      split_ifs with hlo <;> simp [hlo]

/-- **An expression that ends in a repetition** matches where its head does and enough follows. -/
theorem run_tail_ne_nil {es : List Re} {p : Char → Bool} {lo : ℕ} {pos : Pos} :
    (seqRe (es ++ [atLeast lo p])).run word pos ≠ [] ↔
      ∃ q ∈ (seqRe es).run word pos, lo ≤ (q.2.takeWhile p).length := by
  have htail (q : Pos) : (seqRe [atLeast lo p]).run word q ≠ [] ↔
      lo ≤ (q.2.takeWhile p).length := by
    rw [← @greedy_ne_nil q.1 q.2 p lo]
    simp [seqRe, Re.run, atLeast]
  rw [run_seqRe_append, ne_eq, List.flatMap_eq_nil_iff]
  push Not
  simp only [← htail]

/-! ### The length of a match -/

/-- The least number of characters a match takes. -/
def Re.minLength : Re → ℕ
  | .eps => 0
  | .cls _ => 1
  | .many lo _ _ => lo
  | .seq a b => a.minLength + b.minLength
  | .alt a b => min a.minLength b.minLength
  | .wordBoundary => 0

theorem greedy_length {p : Char → Bool} {lo : ℕ} {hi : Option ℕ} {q : Pos}
    (h : q ∈ greedy p lo hi prev cs) : q.2.length + lo ≤ cs.length := by
  induction cs generalizing lo hi prev with
  | nil =>
    rw [greedy] at h
    split_ifs at h with hlo
    · obtain rfl := List.mem_singleton.mp h
      simp [hlo]
    · cases h
  | cons c cs ih =>
    have hhere : q ∈ (if lo = 0 then [(prev, c :: cs)] else [] : List Pos) →
        q.2.length + lo ≤ (c :: cs).length := by
      intro hq
      split_ifs at hq with hlo
      · obtain rfl := List.mem_singleton.mp hq
        simp [hlo]
      · cases hq
    rw [greedy] at h
    split_ifs at h with hgo hlo hlo
    · rcases List.mem_append.mp h with h | h
      · have hle := ih h
        rw [List.length_cons]
        omega
      · exact hhere (by rw [if_pos hlo]; exact h)
    · have hle := ih (List.append_nil _ ▸ h)
      rw [List.length_cons]
      omega
    · exact hhere (by rw [if_pos hlo]; exact h)
    · cases h

/-- **A match takes at least so many characters.** -/
theorem run_length {pos q : Pos} (h : q ∈ e.run word pos) :
    q.2.length + e.minLength ≤ pos.2.length := by
  induction e generalizing pos q with
  | eps =>
    obtain rfl := List.mem_singleton.mp h
    exact le_refl _
  | cls p =>
    obtain ⟨prev, cs⟩ := pos
    cases cs with
    | nil => cases h
    | cons c cs =>
      simp only [Re.run] at h
      split_ifs at h
      · obtain rfl := List.mem_singleton.mp h
        exact le_refl _
      · cases h
  | many lo hi p => exact greedy_length h
  | seq e₁ e₂ ih₁ ih₂ =>
    obtain ⟨q', hq', hq⟩ := List.mem_flatMap.mp h
    have h₁ := ih₁ hq'
    have h₂ := ih₂ hq
    rw [Re.minLength]
    omega
  | alt e₁ e₂ ih₁ ih₂ =>
    rw [Re.minLength]
    rcases List.mem_append.mp h with h | h
    · have h₁ := ih₁ h
      omega
    · have h₂ := ih₂ h
      omega
  | wordBoundary =>
    obtain ⟨prev, cs⟩ := pos
    simp only [Re.run] at h
    split_ifs at h
    · obtain rfl := List.mem_singleton.mp h
      exact le_refl _
    · cases h

end PyData
