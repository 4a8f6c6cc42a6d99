import Mathlib

/-!
# Directories and their manifests

A program writes files by name, and keeps the digest of each under the name it wrote it by. Several
names may stand for one place.

* `Filed` — each digest of the manifest is that of the file its name stands for, and some files hold
  what was written last.
* `Filed.write` — **a file more**, under a name that none of the kept files has.
* `Filed.restateAll` — digests read off the directory itself.
-/

namespace Manifests

variable {κ π γ δ : Type*}

/-- **The manifest says what the directory holds.** `names` are the names in use: no two of them stand
for one place. `kept` are files with their contents. -/
structure Filed (names : Set κ) (locate : κ → π) (digest : γ → δ) (files : π → Option γ)
    (manifest : κ → Option δ) (kept : List (κ × γ)) : Prop where
  digests : ∀ k d, manifest k = some d →
    k ∈ names ∧ ∃ content, files (locate k) = some content ∧ d = digest content
  contents : ∀ e ∈ kept, e.1 ∈ names ∧ files (locate e.1) = some e.2 ∧ (manifest e.1).isSome = true

variable {names : Set κ} {locate : κ → π} {digest : γ → δ} {files : π → Option γ}
  {manifest : κ → Option δ} {kept : List (κ × γ)}

theorem Filed.empty : Filed names locate digest files (fun _ => none) [] :=
  ⟨fun _ _ h => absurd h (Option.some_ne_none _).symm, fun _ h => absurd h List.not_mem_nil⟩

section write

variable [DecidableEq κ]

/-- **A file more**: what is written under a name of its own leaves the kept files alone. -/
theorem Filed.write [DecidableEq π] (hinj : Set.InjOn locate names)
    (h : Filed names locate digest files manifest kept) {k : κ} (hk : k ∈ names) {content : γ}
    (hnew : k ∉ kept.map Prod.fst) :
    Filed names locate digest (Function.update files (locate k) (some content))
      (Function.update manifest k (some (digest content))) (kept ++ [(k, content)]) := by
  have hother : ∀ k' ∈ names, k' ≠ k →
      Function.update files (locate k) (some content) (locate k') = files (locate k') := by
    intro k' hk' hne
    rw [Function.update_of_ne]
    exact fun heq => hne (hinj hk' hk heq)
  constructor
  · intro k' d hd
    by_cases heq : k' = k
    · subst heq
      rw [Function.update_self] at hd
      exact ⟨hk, content, Function.update_self .., (Option.some.inj hd).symm⟩
    · rw [Function.update_of_ne heq] at hd
      obtain ⟨hk', content', hfile, hdigest⟩ := h.digests k' d hd
      exact ⟨hk', content', by rw [hother k' hk' heq, hfile], hdigest⟩
  · intro e he
    rcases List.mem_append.mp he with he | he
    · obtain ⟨hname, hfile, hsome⟩ := h.contents e he
      have hne : e.1 ≠ k := fun heq => hnew (heq ▸ List.mem_map_of_mem he)
      refine ⟨hname, by rw [hother e.1 hname hne, hfile], ?_⟩
      rw [Function.update_of_ne hne]
      exact hsome
    · obtain rfl := List.mem_singleton.mp he
      exact ⟨hk, Function.update_self .., by rw [Function.update_self]; rfl⟩

/-- A digest read off the directory. -/
theorem Filed.restate (h : Filed names locate digest files manifest kept) {k : κ} {d : δ}
    (hk : k ∈ names) (hd : ∃ content, files (locate k) = some content ∧ d = digest content) :
    Filed names locate digest files (Function.update manifest k (some d)) kept := by
  constructor
  · intro k' d' hd'
    by_cases heq : k' = k
    · subst heq
      rw [Function.update_self] at hd'
      obtain rfl := Option.some.inj hd'
      exact ⟨hk, hd⟩
    · rw [Function.update_of_ne heq] at hd'
      exact h.digests k' d' hd'
  · intro e he
    obtain ⟨hname, hheld, hsome⟩ := h.contents e he
    refine ⟨hname, hheld, ?_⟩
    by_cases heq : e.1 = k
    · rw [heq, Function.update_self]
      rfl
    · rw [Function.update_of_ne heq]
      exact hsome

/-- The digests of a whole listing. -/
theorem Filed.restateAll (h : Filed names locate digest files manifest kept) {found : List (κ × δ)}
    (hfound : ∀ e ∈ found, e.1 ∈ names ∧
      ∃ content, files (locate e.1) = some content ∧ e.2 = digest content) :
    Filed names locate digest files
      (found.foldl (fun manifest e => Function.update manifest e.1 (some e.2)) manifest) kept := by
  induction found generalizing manifest with
  | nil => exact h
  | cons e found ih =>
    rw [List.forall_mem_cons] at hfound
    exact ih (h.restate hfound.1.1 hfound.1.2) hfound.2

end write

end Manifests
