import Mathlib

/-!
# Lists in which dependencies come first

* `Settled` — every element of a list has its dependencies behind it.
* `Settled.exists_free` — among any elements of such a list there is one that depends on none of
  them, so nothing that settles a list can be stuck.
-/

namespace PyData

variable {α : Type} {deps : α → List α}

/-- Every element has its dependencies further down the list. -/
def Settled (deps : α → List α) : List α → Prop
  | [] => True
  | x :: xs => (∀ d ∈ deps x, d ∈ xs) ∧ Settled deps xs

/-- **Some element of a kind depends on none of that kind.** The induction is on the list: the
deepest one has only elements of other kinds behind it. -/
theorem Settled.exists_free {l : List α} (h : Settled deps l) {R : α → Prop}
    (hsome : ∃ x ∈ l, R x) : ∃ x ∈ l, R x ∧ ∀ d ∈ deps x, ¬ R d := by
  induction l with
  | nil =>
    obtain ⟨x, hx, -⟩ := hsome
    cases hx
  | cons y ys ih =>
    obtain ⟨hy, hys⟩ := h
    by_cases hdeeper : ∃ x ∈ ys, R x
    · obtain ⟨x, hx, hR, hfree⟩ := ih hys hdeeper
      exact ⟨x, List.mem_cons_of_mem _ hx, hR, hfree⟩
    · obtain ⟨x, hx, hR⟩ := hsome
      rcases List.mem_cons.mp hx with rfl | hx
      · exact ⟨x, List.mem_cons_self, hR, fun d hd hRd => hdeeper ⟨d, hy d hd, hRd⟩⟩
      · exact absurd ⟨x, hx, hR⟩ hdeeper

end PyData
