import Mathlib

/-!
# Hash chains

A chain is a list of entries, each naming the digest of the entry before it and the first one a
fixed `start`.

* `Linked` — the entries name each other's digests; `tip` is the digest the next entry must name.
* `linked_append` — a chain grows at its end by an entry that names the tip.
* `linked_unique` — **two chains with the same tip are the same chain**, read through any `view`
  of the entries on which the digest is free of collisions between the two.
-/

namespace HashChain

variable {P H V : Type} (digest : P → H) (prev : P → H)

/-- Every entry names the digest of the one before it, the first one names `start`. -/
def Linked : H → List P → Prop
  | _, [] => True
  | start, p :: ps => prev p = start ∧ Linked (digest p) ps

/-- The digest of the last entry, `start` when there is none. -/
def tip : H → List P → H
  | start, [] => start
  | _, p :: ps => tip (digest p) ps

variable {digest prev}

@[simp] theorem linked_nil (start : H) : Linked digest prev start [] := trivial

@[simp] theorem linked_cons {start : H} {p : P} {ps : List P} :
    Linked digest prev start (p :: ps) ↔ prev p = start ∧ Linked digest prev (digest p) ps :=
  Iff.rfl

@[simp] theorem tip_nil (start : H) : tip digest start [] = start := rfl

@[simp] theorem tip_cons (start : H) (p : P) (ps : List P) :
    tip digest start (p :: ps) = tip digest (digest p) ps := rfl

theorem tip_append (start : H) (ps qs : List P) :
    tip digest start (ps ++ qs) = tip digest (tip digest start ps) qs := by
  induction ps generalizing start with
  | nil => rfl
  | cons p ps ih => exact ih (digest p)

theorem tip_concat (start : H) (ps : List P) (p : P) :
    tip digest start (ps ++ [p]) = digest p := by
  rw [tip_append]
  rfl

/-- A chain splits at any entry: the rest is a chain from the tip of the first part. -/
theorem linked_append {start : H} {ps qs : List P} :
    Linked digest prev start (ps ++ qs) ↔
      Linked digest prev start ps ∧ Linked digest prev (tip digest start ps) qs := by
  induction ps generalizing start with
  | nil => simp
  | cons p ps ih => simp [ih, and_assoc]

theorem linked_concat {start : H} {ps : List P} {p : P} :
    Linked digest prev start (ps ++ [p]) ↔
      Linked digest prev start ps ∧ prev p = tip digest start ps := by
  simp [linked_append]

/-- **Tamper evidence.** Two chains from the same start with the same tip agree entry by entry
under `view`, when no digest is the start, when `view` determines which digest an entry names, and
when entries of the two chains with one digest have one view. The induction runs backwards from the
tip: the last entries share their digest, hence their view, hence the tip of what is before them. -/
theorem linked_unique {view : P → V} {start : H} {ps qs : List P}
    (hstart : ∀ p, digest p ≠ start) (hview : ∀ p q, view p = view q → prev p = prev q)
    (hcoll : ∀ p ∈ ps, ∀ q ∈ qs, digest p = digest q → view p = view q)
    (hps : Linked digest prev start ps) (hqs : Linked digest prev start qs)
    (htip : tip digest start ps = tip digest start qs) : ps.map view = qs.map view := by
  induction ps using List.reverseRecOn generalizing qs with
  | nil =>
    rcases List.eq_nil_or_concat' qs with rfl | ⟨qs, q, rfl⟩
    · rfl
    · rw [tip_nil, tip_concat] at htip
      exact absurd htip.symm (hstart q)
  | append_singleton ps p ih =>
    rcases List.eq_nil_or_concat' qs with rfl | ⟨qs, q, rfl⟩
    · rw [tip_nil, tip_concat] at htip
      exact absurd htip (hstart p)
    · rw [linked_concat] at hps hqs
      rw [tip_concat, tip_concat] at htip
      have hlast : view p = view q := hcoll p (by simp) q (by simp) htip
      have hbefore : tip digest start ps = tip digest start qs := by
        rw [← hps.2, ← hqs.2]
        exact hview p q hlast
      have hinit : ps.map view = qs.map view :=
        ih (fun p hp q hq => hcoll p (by simp [hp]) q (by simp [hq])) hps.1 hqs.1 hbefore
      rw [List.map_append, List.map_append, hinit]
      simp [hlast]

end HashChain
