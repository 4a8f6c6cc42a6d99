import Aotp.Lib.Text

/-!
# Numbered directories

* `fmt04_injective` — `f"{n:04d}"` of two natural numbers differs when they do.
* `lastComponent` — what follows the last slash of a text; `lastComponent_text` — the text of a path
  ends with its last component.
* `relative_last` — so does the text of a path relative to a root, unless it is the root itself.
-/

namespace PyData

/-! ### Numbers -/

/-- The digits of a natural number, padded to four. -/
theorem fmt04_natCast (n : ℕ) :
    (fmt04 n).toList = List.replicate (4 - (Nat.toDigits 10 n).length) '0' ++ Nat.toDigits 10 n := by
  unfold fmt04
  have hneg : ¬ ((n : ℤ) < 0) := by omega
  simp only [if_neg hneg, Int.natAbs_natCast, Nat.toList_repr, String.toList_ofList]

/-- The number is read back from its padded digits. -/
theorem ofDigitChars_fmt04 (n : ℕ) : Nat.ofDigitChars 10 (fmt04 n).toList 0 = n := by
  rw [fmt04_natCast, Nat.ofDigitChars_append, Nat.ofDigitChars_replicate_zero, Nat.mul_zero,
    Nat.ofDigitChars_ten_toDigits]

theorem fmt04_injective {m n : ℕ} (h : fmt04 m = fmt04 n) : m = n := by
  have hm := ofDigitChars_fmt04 m
  rw [h, ofDigitChars_fmt04] at hm
  exact hm.symm

/-- Padded digits are digits. -/
theorem isDigit_of_mem_fmt04 {n : ℕ} {c : Char} (h : c ∈ (fmt04 n).toList) : c.isDigit = true := by
  rw [fmt04_natCast] at h
  rcases List.mem_append.1 h with h | h
  · rw [List.eq_of_mem_replicate h]
    rfl
  · exact Nat.isDigit_of_mem_toDigits (by decide) (by decide) h

theorem fmt04_ne_nil (n : ℕ) : (fmt04 n).toList ≠ [] := by
  rw [fmt04_natCast]
  intro h
  exact Nat.toDigits_ne_nil (List.append_eq_nil_iff.1 h).2

/-! ### Path texts -/

/-- What follows the last slash of a text. -/
def lastComponent (s : String) : List Char := (s.toList.reverse.takeWhile (· != '/')).reverse

/-- A plain name: one path component other than `.`. -/
structure PlainName (s : String) : Prop where
  ne_nil : s.toList ≠ []
  noSlash : ∀ c ∈ s.toList, c ≠ '/'
  ne_dot : s.toList ≠ ['.']

theorem fmt04_plain (n : ℕ) : PlainName (fmt04 n) where
  ne_nil := fmt04_ne_nil n
  noSlash := by
    rintro c hc rfl
    exact absurd (isDigit_of_mem_fmt04 hc) (by decide)
  ne_dot := by
    intro h
    have hmem : '.' ∈ (fmt04 n).toList := by
      rw [h]
      exact List.mem_singleton_self _
    exact absurd (isDigit_of_mem_fmt04 hmem) (by decide)

section splitOnSep

variable {α : Type} [DecidableEq α] {sep : α}

theorem splitOnSep_of_not_mem {l : List α} (h : ∀ c ∈ l, c ≠ sep) : splitOnSep sep l = [l] := by
  induction l with
  | nil => rfl
  | cons c l ih =>
    rw [List.forall_mem_cons] at h
    unfold splitOnSep
    rw [ih h.2]
    simp only [if_neg h.1]

theorem splitOnSep_ne_nil (sep : α) (l : List α) : splitOnSep sep l ≠ [] := by
  induction l with
  | nil => simp [splitOnSep]
  | cons c l ih =>
    unfold splitOnSep
    split
    · simp
    · split <;> simp

theorem splitOnSep_cons_sep (rest : List α) :
    splitOnSep sep (sep :: rest) = [] :: splitOnSep sep rest := by
  rw [splitOnSep]
  cases hrest : splitOnSep sep rest with
  | nil => exact absurd hrest (splitOnSep_ne_nil sep rest)
  | cons x xs => simp

/-- The components of two texts around a separator are those of the first, then those of the
second. -/
theorem splitOnSep_append_sep (l rest : List α) :
    splitOnSep sep (l ++ sep :: rest) = splitOnSep sep l ++ splitOnSep sep rest := by
  induction l with
  | nil => exact splitOnSep_cons_sep rest
  | cons c l ih =>
    rw [List.cons_append, splitOnSep, ih, splitOnSep]
    cases hl : splitOnSep sep l with
    | nil => exact absurd hl (splitOnSep_ne_nil sep l)
    | cons x xs =>
      by_cases hc : c = sep
      · simp [hc]
      · simp [hc]

/-- The first component, and the components of what follows its separator. -/
theorem splitOnSep_append {l rest : List α} (h : ∀ c ∈ l, c ≠ sep) :
    splitOnSep sep (l ++ sep :: rest) = l :: splitOnSep sep rest := by
  rw [splitOnSep_append_sep, splitOnSep_of_not_mem h, List.singleton_append]

/-- No component holds the separator. -/
theorem not_mem_of_mem_splitOnSep {l part : List α} (hpart : part ∈ splitOnSep sep l) :
    sep ∉ part := by
  induction l generalizing part with
  | nil =>
    rw [splitOnSep, List.mem_singleton] at hpart
    rw [hpart]
    exact List.not_mem_nil
  | cons c l ih =>
    rw [splitOnSep] at hpart
    cases hl : splitOnSep sep l with
    | nil => exact absurd hl (splitOnSep_ne_nil sep l)
    | cons x xs =>
      rw [hl] at ih hpart
      by_cases hc : c = sep
      · simp only [if_pos hc] at hpart
        rcases List.mem_cons.mp hpart with rfl | hpart
        · exact List.not_mem_nil
        · exact ih hpart
      · simp only [if_neg hc] at hpart
        rcases List.mem_cons.mp hpart with rfl | hpart
        · intro hsep
          rcases List.mem_cons.mp hsep with hsep | hsep
          · exact hc hsep.symm
          · exact ih (List.mem_cons_self ..) hsep
        · exact ih (List.mem_cons_of_mem _ hpart)

/-- Components joined by their separator are the text. -/
theorem intercalate_splitOnSep (sep : α) (l : List α) :
    List.intercalate [sep] (splitOnSep sep l) = l := by
  induction l with
  | nil => rfl
  | cons c l ih =>
    unfold splitOnSep
    cases hl : splitOnSep sep l with
    | nil => exact absurd hl (splitOnSep_ne_nil sep l)
    | cons x xs =>
      rw [hl] at ih
      by_cases hc : c = sep
      · simp only [if_pos hc]
        rw [List.intercalate_cons_cons, ih, hc]
        rfl
      · simp only [if_neg hc]
        cases xs with
        | nil => simpa [List.intercalate] using ih
        | cons y ys =>
          rw [List.intercalate_cons_cons] at ih ⊢
          rw [← ih]
          simp

/-- A text is determined by its components. -/
theorem splitOnSep_injective (sep : α) : Function.Injective (splitOnSep sep) := by
  intro l m h
  rw [← intercalate_splitOnSep sep l, h, intercalate_splitOnSep]

end splitOnSep

/-- A plain name is one path component. -/
theorem PlainName.pathParts {s : String} (h : PlainName s) : pathParts s = [s] := by
  unfold PyData.pathParts
  rw [splitOnSep_of_not_mem h.noSlash]
  have hfilter : [s.toList].filter (fun c => !c.isEmpty && c != ['.']) = [s.toList] := by
    simp [h.ne_nil, h.ne_dot]
  rw [hfilter, List.map_cons, List.map_nil, String.ofList_toList]

theorem PlainName.not_absolute {s : String} (h : PlainName s) : isAbsolute s = false := by
  unfold isAbsolute
  cases hs : s.toList with
  | nil => rfl
  | cons c cs =>
    have hc : c ≠ '/' := h.noSlash c (by rw [hs]; exact List.mem_cons_self)
    simp [hc]

theorem PlainName.join {s : String} (h : PlainName s) (p : PurePath) :
    p.join s = ⟨p.absolute, p.parts ++ [s]⟩ := by
  unfold PurePath.join
  rw [if_neg (by simp [h.not_absolute]), h.pathParts]

theorem lastComponent_of_suffix {t : String} {pre name : List Char} (hname : ∀ c ∈ name, c ≠ '/')
    (h : t.toList = pre ++ name) (hpre : pre = [] ∨ pre.getLast? = some '/') :
    lastComponent t = name := by
  unfold lastComponent
  rw [h, List.reverse_append, List.takeWhile_append_of_pos]
  · rcases hpre with rfl | hpre
    · simp
    · obtain ⟨pre', rfl⟩ := List.getLast?_eq_some_iff.1 hpre
      simp
  · intro c hc
    simpa using hname c (List.mem_reverse.1 hc)

/-- A text that joins components with slashes ends with the last one. -/
theorem intercalate_concat (ps : List String) (s : String) :
    ∃ pre : List Char, (String.intercalate "/" (ps ++ [s])).toList = pre ++ s.toList ∧
      (pre = [] ∨ pre.getLast? = some '/') := by
  have hslash : "/".toList = ['/'] := by decide
  induction ps with
  | nil => exact ⟨[], by simp, Or.inl rfl⟩
  | cons p ps ih =>
    obtain ⟨pre, hpre, hlast⟩ := ih
    refine ⟨p.toList ++ ('/' :: pre), ?_, Or.inr ?_⟩
    · rw [String.toList_intercalate] at hpre ⊢
      rw [List.cons_append, List.map_cons, List.intercalate_cons_of_ne_nil (by simp), hpre, hslash]
      simp
    · rcases hlast with rfl | hlast
      · simp
      · obtain ⟨pre', rfl⟩ := List.getLast?_eq_some_iff.1 hlast
        rw [List.getLast?_append_of_ne_nil _ (List.cons_ne_nil _ _), List.getLast?_eq_some_iff]
        exact ⟨'/' :: pre', rfl⟩

/-- The text of a path ends with its last component. -/
theorem lastComponent_text {s : String} (h : PlainName s) (p : PurePath) (ps : List String)
    (hparts : p.parts = ps ++ [s]) : lastComponent p.text = s.toList := by
  obtain ⟨pre, hpre, hlast⟩ := intercalate_concat ps s
  unfold PurePath.text
  rw [hparts]
  split_ifs with habsolute hempty
  · refine @lastComponent_of_suffix _ ('/' :: pre) _ h.noSlash ?_ (Or.inr ?_)
    · rw [String.toList_append, hpre]
      rfl
    · rcases hlast with rfl | hlast
      · rfl
      · obtain ⟨pre', rfl⟩ := List.getLast?_eq_some_iff.1 hlast
        rw [List.getLast?_eq_some_iff]
        exact ⟨'/' :: pre', rfl⟩
  · simp at hempty
  · exact lastComponent_of_suffix h.noSlash hpre hlast

/-- The name a relative path text ends with; the text `.` stands for the root. -/
def nameUnder (root : PurePath) (t : String) : Option (List Char) :=
  if t = "." then root.parts.getLast?.map String.toList else some (lastComponent t)

/-- **A path that ends with a plain name, relative to a root, tells that name.** -/
theorem nameUnder_relative {s : String} (h : PlainName s) {p q root : PurePath} {ps : List String}
    (hparts : p.parts = ps ++ [s]) (hq : p.relativeTo root = some q) :
    nameUnder root q.text = some s.toList := by
  unfold PurePath.relativeTo at hq
  split_ifs at hq with hcond
  rw [Bool.and_eq_true, List.isPrefixOf_iff_prefix] at hcond
  obtain ⟨-, rest, hrest⟩ := hcond
  cases hq
  have hdrop : p.parts.drop root.parts.length = rest := by
    rw [← hrest, List.drop_left]
  rw [hdrop]
  rcases List.eq_nil_or_concat rest with rfl | ⟨rest', x, rfl⟩
  · -- the path is the root itself
    have hdot : (PurePath.mk false []).text = "." := rfl
    rw [hdot, nameUnder, if_pos rfl]
    rw [List.append_nil] at hrest
    rw [hrest, hparts]
    simp
  · have hx : x = s := by
      rw [hparts, List.concat_eq_append, ← List.append_assoc] at hrest
      exact (List.append_inj' hrest rfl).2 |> List.singleton_inj.1
    subst hx
    rw [List.concat_eq_append]
    have hlast := lastComponent_text h ⟨false, rest' ++ [x]⟩ rest' rfl
    have hne : (PurePath.mk false (rest' ++ [x])).text ≠ "." := by
      intro hdot
      rw [hdot] at hlast
      have hdots : lastComponent "." = ['.'] := by decide
      rw [hdots] at hlast
      exact h.ne_dot hlast.symm
    rw [nameUnder, if_neg hne, hlast]

end PyData
