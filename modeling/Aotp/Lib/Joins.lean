import Mathlib

/-!
# Joined parts

Three parts are joined by a separator, which counts as blank; none of them is blank all through.

* `append_cons_cases` — two ways to cut a list at a separator.
* `Unbroken` — the first part has a separator only after blanks, the second none, the third one only
  before blanks.
* `joined_unique` — unbroken parts are the only ones that join to what they join to.
* `joined_ambiguous` — other parts can be cut elsewhere.
* `joined_unique_iff` — **parts are read off what they join to exactly where they are unbroken**.
-/

namespace PyData

variable {α : Type} {sep : α} {blank : α → Prop}

/-- Of two cuts of a list at a separator, both are the same, or the second comes later, or earlier. -/
theorem append_cons_cases {x y x' y' : List α} (h : x ++ sep :: y = x' ++ sep :: y') :
    (x = x' ∧ y = y') ∨ (∃ t, x' = x ++ sep :: t ∧ y = t ++ sep :: y') ∨
      ∃ t, x = x' ++ sep :: t ∧ y' = t ++ sep :: y := by
  rcases List.append_eq_append_iff.mp h with ⟨t, hx, hy⟩ | ⟨t, hx, hy⟩
  · cases t with
    | nil =>
      rw [List.append_nil] at hx
      exact .inl ⟨hx.symm, (List.cons.inj hy).2⟩
    | cons a t =>
      obtain ⟨rfl, hrest⟩ := List.cons.inj hy
      exact .inr (.inl ⟨t, hx, hrest⟩)
  · cases t with
    | nil =>
      rw [List.append_nil] at hx
      exact .inl ⟨hx, (List.cons.inj hy).2.symm⟩
    | cons a t =>
      obtain ⟨rfl, hrest⟩ := List.cons.inj hy
      exact .inr (.inr ⟨t, hx, hrest⟩)

/-- A cut before the first separator is the only one of its kind. -/
theorem append_cons_inj {x y x' y' : List α} (hx : sep ∉ x) (hx' : sep ∉ x')
    (h : x ++ sep :: y = x' ++ sep :: y') : x = x' ∧ y = y' := by
  rcases append_cons_cases h with heq | ⟨t, ht, -⟩ | ⟨t, ht, -⟩
  · exact heq
  · rw [ht] at hx'
    exact absurd (List.mem_append_right _ (List.mem_cons_self ..)) hx'
  · rw [ht] at hx
    exact absurd (List.mem_append_right _ (List.mem_cons_self ..)) hx

/-- So is a cut after the last one. -/
theorem append_cons_inj_last {x y x' y' : List α} (hy : sep ∉ y) (hy' : sep ∉ y')
    (h : x ++ sep :: y = x' ++ sep :: y') : x = x' ∧ y = y' := by
  rcases append_cons_cases h with heq | ⟨t, -, ht⟩ | ⟨t, -, ht⟩
  · exact heq
  · rw [ht] at hy
    exact absurd (List.mem_append_right _ (List.mem_cons_self ..)) hy
  · rw [ht] at hy'
    exact absurd (List.mem_append_right _ (List.mem_cons_self ..)) hy'

/-- Three parts, joined. -/
def joinThree (sep : α) (x y z : List α) : List α := x ++ sep :: (y ++ sep :: z)

/-- A part that is not blank all through. -/
def Filled (blank : α → Prop) (x : List α) : Prop := ∃ c ∈ x, ¬ blank c

/-- The separators of the three parts have nothing but blanks outside the second part and the text
next to it. -/
structure Unbroken (sep : α) (blank : α → Prop) (x y z : List α) : Prop where
  first : ∀ u v, x = u ++ sep :: v → ¬ Filled blank u
  second : sep ∉ y
  third : ∀ u v, z = u ++ sep :: v → ¬ Filled blank v

theorem Filled.append_right {x : List α} (h : Filled blank x) (y : List α) :
    Filled blank (x ++ y) := by
  obtain ⟨c, hc, hblank⟩ := h
  exact ⟨c, List.mem_append_left _ hc, hblank⟩

theorem Filled.append_left {y : List α} (h : Filled blank y) (x : List α) :
    Filled blank (x ++ y) := by
  obtain ⟨c, hc, hblank⟩ := h
  exact ⟨c, List.mem_append_right _ hc, hblank⟩

theorem Filled.cons {y : List α} (h : Filled blank y) (a : α) : Filled blank (a :: y) :=
  h.append_left [a]

/-- One side of a blank separator is filled. -/
theorem Filled.cases_sep {u v : List α} (hsep : blank sep) (h : Filled blank (u ++ sep :: v)) :
    Filled blank u ∨ Filled blank v := by
  obtain ⟨c, hc, hblank⟩ := h
  rcases List.mem_append.mp hc with hc | hc
  · exact .inl ⟨c, hc, hblank⟩
  · rcases List.mem_cons.mp hc with rfl | hc
    · exact absurd hsep hblank
    · exact .inr ⟨c, hc, hblank⟩

section

variable {x y z x' y' z' : List α}

/-- **Unbroken parts are the only ones that join to what they join to.** A cut that comes later than
the first one leaves, behind the third part's own text, a whole filled part; one that comes earlier
leaves a filled part before the text of the first. -/
theorem joined_unique (h : Unbroken sep blank x y z) (hx' : Filled blank x')
    (hz' : Filled blank z') (hjoin : joinThree sep x y z = joinThree sep x' y' z') :
    x = x' ∧ y = y' ∧ z = z' := by
  rcases append_cons_cases hjoin with ⟨rfl, hrest⟩ | ⟨t, -, hrest⟩ | ⟨t, hx, -⟩
  · rcases append_cons_cases hrest with ⟨rfl, rfl⟩ | ⟨t, -, hz⟩ | ⟨t, hy, -⟩
    · exact ⟨rfl, rfl, rfl⟩
    · exact absurd hz' (h.third t z' hz)
    · exact absurd (hy ▸ List.mem_append_right _ (List.mem_cons_self ..)) h.second
  · rcases append_cons_cases hrest with ⟨-, hz⟩ | ⟨s, -, hz⟩ | ⟨s, hy, -⟩
    · exact absurd hz' (h.third y' z' hz)
    · exact absurd ((hz'.cons sep).append_left y') (h.third s _ hz)
    · exact absurd (hy ▸ List.mem_append_right _ (List.mem_cons_self ..)) h.second
  · exact absurd hx' (h.first x' t hx)

/-- Parts that are not unbroken can be cut elsewhere. -/
theorem joined_ambiguous (hsep : blank sep) (hx : Filled blank x) (hy : Filled blank y)
    (hz : Filled blank z) (h : ¬ Unbroken sep blank x y z) :
    ∃ x' y' z', Filled blank x' ∧ Filled blank y' ∧ Filled blank z' ∧
      joinThree sep x' y' z' = joinThree sep x y z ∧ ¬ (x' = x ∧ y' = y ∧ z' = z) := by
  have hlonger (u v : List α) : u ≠ u ++ sep :: v := by
    intro heq
    have hlength := congrArg List.length heq
    rw [List.length_append, List.length_cons] at hlength
    omega
  by_cases hfirst : ∀ u v, x = u ++ sep :: v → ¬ Filled blank u
  · by_cases hthird : ∀ u v, z = u ++ sep :: v → ¬ Filled blank v
    · have hsecond : sep ∈ y := by
        by_contra hsecond
        exact h ⟨hfirst, hsecond, hthird⟩
      obtain ⟨u, v, rfl⟩ := List.append_of_mem hsecond
      rcases hy.cases_sep hsep with hu | hv
      · -- the end of the second part goes to the third
        refine ⟨x, u, v ++ sep :: z, hx, hu, (hz.cons sep).append_left v, ?_, ?_⟩
        · unfold joinThree
          rw [List.append_assoc, List.cons_append]
        · exact fun heq => hlonger u v heq.2.1
      · -- its start goes to the first
        refine ⟨x ++ sep :: u, v, z, hx.append_right _, hv, hz, ?_, ?_⟩
        · unfold joinThree
          rw [List.append_assoc, List.append_assoc, List.cons_append, List.cons_append]
        · exact fun heq => hlonger x u heq.1.symm
    · push Not at hthird
      obtain ⟨u, v, rfl, hv⟩ := hthird
      refine ⟨x, y ++ sep :: u, v, hx, hy.append_right _, hv, ?_, ?_⟩
      · unfold joinThree
        rw [List.append_assoc, List.cons_append]
      · exact fun heq => hlonger y u heq.2.1.symm
  · push Not at hfirst
    obtain ⟨u, v, rfl, hu⟩ := hfirst
    refine ⟨u, v ++ sep :: y, z, hu, (hy.cons sep).append_left v, hz, ?_, ?_⟩
    · unfold joinThree
      rw [List.append_assoc, List.append_assoc, List.cons_append, List.cons_append]
    · exact fun heq => hlonger u v heq.1

/-- **Parts are read off what they join to exactly where they are unbroken.** -/
theorem joined_unique_iff (hsep : blank sep) (hx : Filled blank x) (hy : Filled blank y)
    (hz : Filled blank z) :
    (∀ x' y' z', Filled blank x' → Filled blank y' → Filled blank z' →
      joinThree sep x' y' z' = joinThree sep x y z → x' = x ∧ y' = y ∧ z' = z) ↔
      Unbroken sep blank x y z := by
  constructor
  · intro hunique
    by_contra hbroken
    obtain ⟨x', y', z', hx', hy', hz', hjoin, hne⟩ := joined_ambiguous hsep hx hy hz hbroken
    exact hne (hunique x' y' z' hx' hy' hz' hjoin)
  · intro hunbroken x' y' z' hx' _ hz' hjoin
    obtain ⟨h₁, h₂, h₃⟩ := joined_unique hunbroken hx' hz' hjoin.symm
    exact ⟨h₁.symm, h₂.symm, h₃.symm⟩

end

end PyData
