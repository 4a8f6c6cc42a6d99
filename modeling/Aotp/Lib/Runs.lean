import Aotp.Lib.Regex

/-!
# Runs

A match that begins at a certain place and goes on as long as a class of characters does.

* `startsFrom`, `starts` — where the matches of a text begin, one after the other.
* `Inside` — a place in the run of a match that begins before it.
* `mem_starts` — **matches begin wherever they can, but not inside each other**.
* `finditer_runs` — an expression that matches such runs finds those that begin there.
-/

namespace PyData

/-! ### Where matches begin -/

section starts

variable {α : Type*} (p : α → Bool) (begins : List α → Bool)

/-- The rests of a text at which its matches begin; `inside` says that the text goes on with the run of
a match. -/
def startsFrom : Bool → List α → List (List α)
  | _, [] => []
  | inside, c :: cs =>
    if inside && p c then startsFrom true cs
    else if begins (c :: cs) then (c :: cs) :: startsFrom true cs
    else startsFrom false cs

/-- The rests of a text at which its matches begin. -/
def starts (text : List α) : List (List α) := startsFrom p begins false text

/-- A match could begin before this place, and its run goes on up to it. -/
def Inside (text t : List α) : Prop :=
  ∃ q, q ≠ [] ∧ q ++ t <:+ text ∧ begins (q ++ t) = true ∧ ∀ c ∈ q, p c = true

/-- The same, where the text goes on with the run of a match. -/
def Covered (inside : Bool) (text t : List α) : Prop :=
  (inside = true ∧ ∃ q, text = q ++ t ∧ ∀ c ∈ q, p c = true) ∨ Inside p begins text t

variable {p begins} {inside : Bool} {text t : List α} {c : α} {cs : List α}

theorem suffix_cons_append {q : List α} (h : q ++ t <:+ c :: cs) :
    q ++ t = c :: cs ∨ q ++ t <:+ cs := List.suffix_cons_iff.mp h

theorem Inside.cons (h : Inside p begins cs t) (c : α) : Inside p begins (c :: cs) t := by
  obtain ⟨q, hne, hsuffix, hbegins, hall⟩ := h
  exact ⟨q, hne, hsuffix.trans (List.suffix_cons c cs), hbegins, hall⟩

/-- What goes on from the first element is covered, where the first element is. -/
theorem covered_cons_of_run (hc : p c = true) (ht : t <:+ cs) :
    Covered p begins true (c :: cs) t ↔ Covered p begins true cs t := by
  constructor
  · rintro (⟨-, q, heq, hall⟩ | ⟨q, hne, hsuffix, hbegins, hall⟩)
    · cases q with
      | nil =>
        have hlength := ht.length_le
        rw [List.nil_append] at heq
        rw [← heq, List.length_cons] at hlength
        omega
      | cons c' q =>
        obtain ⟨rfl, rfl⟩ := List.cons.inj heq
        exact .inl ⟨rfl, q, rfl, fun x hx => hall x (List.mem_cons_of_mem _ hx)⟩
    · obtain ⟨c', q, rfl⟩ := List.exists_cons_of_ne_nil hne
      rcases suffix_cons_append hsuffix with heq | hsuffix
      · obtain ⟨rfl, rfl⟩ := List.cons.inj heq
        exact .inl ⟨rfl, q, rfl, fun x hx => hall x (List.mem_cons_of_mem _ hx)⟩
      · exact .inr ⟨c' :: q, hne, hsuffix, hbegins, hall⟩
  · rintro (⟨-, q, rfl, hall⟩ | hinside)
    · exact .inl ⟨rfl, c :: q, rfl, List.forall_mem_cons.mpr ⟨hc, hall⟩⟩
    · exact .inr (hinside.cons c)

/-- A match that begins at the first element covers what goes on from it. -/
theorem covered_cons_of_begins (hc : p c = true) (hbegins : begins (c :: cs) = true)
    (ht : t <:+ cs) : Covered p begins false (c :: cs) t ↔ Covered p begins true cs t := by
  constructor
  · rintro (⟨hfalse, -⟩ | hinside)
    · cases hfalse
    · exact (covered_cons_of_run hc ht).mp (.inr hinside)
  · rintro (⟨-, q, rfl, hall⟩ | hinside)
    · exact .inr ⟨c :: q, List.cons_ne_nil _ _, List.suffix_refl _, hbegins,
        List.forall_mem_cons.mpr ⟨hc, hall⟩⟩
    · exact .inr (hinside.cons c)

/-- Where no match goes on and none begins, nothing is covered by the first element. -/
theorem covered_cons_of_none (hgo : ¬ (inside = true ∧ p c = true))
    (hbegins : begins (c :: cs) = false) (ht : t <:+ cs) :
    Covered p begins inside (c :: cs) t ↔ Covered p begins false cs t := by
  constructor
  · rintro (⟨hinside, q, heq, hall⟩ | ⟨q, hne, hsuffix, hstart, hall⟩)
    · cases q with
      | nil =>
        have hlength := ht.length_le
        rw [List.nil_append] at heq
        rw [← heq, List.length_cons] at hlength
        omega
      | cons c' q =>
        obtain ⟨rfl, rfl⟩ := List.cons.inj heq
        exact absurd ⟨hinside, hall c List.mem_cons_self⟩ hgo
    · rcases suffix_cons_append hsuffix with heq | hsuffix
      · rw [heq, hbegins] at hstart
        cases hstart
      · exact .inr ⟨q, hne, hsuffix, hstart, hall⟩
  · rintro (⟨hfalse, -⟩ | hinside)
    · cases hfalse
    · exact .inr (hinside.cons c)

/-- The text itself is covered only by a match that goes on. -/
theorem not_inside_self (text : List α) : ¬ Inside p begins text text := by
  rintro ⟨q, hne, hsuffix, -, -⟩
  have hlength := hsuffix.length_le
  have hpos := List.length_pos_iff.mpr hne
  rw [List.length_append] at hlength
  omega

/-- **Where matches begin.** The induction is on the text: the first element goes on with the run of a
match, begins one, or does neither. -/
theorem mem_startsFrom (hhead : ∀ c cs, begins (c :: cs) = true → p c = true)
    (hnil : begins [] = false) : t ∈ startsFrom p begins inside text ↔
      t <:+ text ∧ begins t = true ∧ ¬ Covered p begins inside text t := by
  induction text generalizing inside with
  | nil =>
    constructor
    · exact fun h => absurd h List.not_mem_nil
    · rintro ⟨hsuffix, hbegins, -⟩
      rw [List.suffix_nil.mp hsuffix, hnil] at hbegins
      cases hbegins
  | cons c cs ih =>
    have hfirst : t <:+ c :: cs ↔ t = c :: cs ∨ t <:+ cs := List.suffix_cons_iff
    unfold startsFrom
    by_cases hgo : inside = true ∧ p c = true
    · obtain ⟨rfl, hc⟩ := hgo
      rw [hc, Bool.and_self, if_pos rfl, ih, hfirst]
      constructor
      · rintro ⟨hsuffix, hbegins, hnot⟩
        exact ⟨.inr hsuffix, hbegins, (covered_cons_of_run hc hsuffix).not.mpr hnot⟩
      · rintro ⟨rfl | hsuffix, hbegins, hnot⟩
        · exact absurd (.inl ⟨rfl, [], rfl, by simp⟩) hnot
        · exact ⟨hsuffix, hbegins, (covered_cons_of_run hc hsuffix).not.mp hnot⟩
    · have hgo' : ¬ (inside && p c) = true := by rwa [Bool.and_eq_true]
      rw [if_neg hgo', hfirst]
      by_cases hbegins : begins (c :: cs) = true
      · have hc := hhead c cs hbegins
        obtain rfl : inside = false := by
          cases inside with
          | false => rfl
          | true => exact absurd ⟨rfl, hc⟩ hgo
        rw [if_pos hbegins, List.mem_cons, ih]
        constructor
        · rintro (rfl | ⟨hsuffix, hstart, hnot⟩)
          · refine ⟨.inl rfl, hbegins, ?_⟩
            rintro (⟨hfalse, -⟩ | hinside)
            · cases hfalse
            · exact not_inside_self _ hinside
          · exact ⟨.inr hsuffix, hstart, (covered_cons_of_begins hc hbegins hsuffix).not.mpr hnot⟩
        · rintro ⟨rfl | hsuffix, hstart, hnot⟩
          · exact .inl rfl
          · exact .inr ⟨hsuffix, hstart, (covered_cons_of_begins hc hbegins hsuffix).not.mp hnot⟩
      · rw [if_neg hbegins, ih]
        rw [Bool.not_eq_true] at hbegins
        constructor
        · rintro ⟨hsuffix, hstart, hnot⟩
          exact ⟨.inr hsuffix, hstart, (covered_cons_of_none hgo hbegins hsuffix).not.mpr hnot⟩
        · rintro ⟨rfl | hsuffix, hstart, hnot⟩
          · rw [hbegins] at hstart
            cases hstart
          · exact ⟨hsuffix, hstart, (covered_cons_of_none hgo hbegins hsuffix).not.mp hnot⟩

/-- **Matches begin wherever they can, but not inside each other.** -/
theorem mem_starts (hhead : ∀ c cs, begins (c :: cs) = true → p c = true)
    (hnil : begins [] = false) : t ∈ starts p begins text ↔
      t <:+ text ∧ begins t = true ∧ ¬ Inside p begins text t := by
  have hcovered : Covered p begins false text t ↔ Inside p begins text t := by
    unfold Covered
    simp
  unfold starts
  rw [mem_startsFrom hhead hnil, hcovered]

/-- The run of a match is left out. -/
theorem startsFrom_run (cs : List α) :
    startsFrom p begins true cs = startsFrom p begins false (cs.dropWhile p) := by
  induction cs with
  | nil => rfl
  | cons c cs ih =>
    by_cases hc : p c = true
    · rw [List.dropWhile_cons_of_pos hc, ← ih, startsFrom, hc, Bool.and_self, if_pos rfl]
    · rw [List.dropWhile_cons_of_neg hc, startsFrom, startsFrom]
      rw [Bool.not_eq_true] at hc
      rw [hc, Bool.and_false, Bool.and_false]

end starts

/-! ### Literal texts and repetitions -/

variable {word : Char → Bool} {p : Char → Bool} {begins : List Char → Bool} {e : Re}
  {prev : Option Char} {cs : List Char}

/-- A literal text matches where it stands. -/
theorem run_litRe (s : String) (prev : Option Char) (rest : List Char) :
    ∃ prev', (litRe false s).run word (prev, s.toList ++ rest) = [(prev', rest)] := by
  unfold litRe
  induction s.toList generalizing prev with
  | nil => exact ⟨prev, rfl⟩
  | cons c l ih =>
    obtain ⟨prev', hrun⟩ := ih (some c)
    refine ⟨prev', ?_⟩
    simp only [List.foldr_cons, List.cons_append, Re.run, Bool.false_eq_true, if_false, beq_self_eq_true,
      if_true, List.flatMap_singleton]
    exact hrun

/-- It matches nowhere else. -/
theorem eq_of_mem_run_litRe {s : String} {q : Pos} (h : q ∈ (litRe false s).run word (prev, cs)) :
    cs = s.toList ++ q.2 := by
  unfold litRe at h
  generalize s.toList = l at h ⊢
  induction l generalizing prev cs with
  | nil =>
    obtain rfl := List.mem_singleton.mp h
    rfl
  | cons c l ih =>
    obtain ⟨q', hq', hq⟩ := List.mem_flatMap.mp h
    cases cs with
    | nil => cases hq'
    | cons x cs =>
      simp only [Re.run, Bool.false_eq_true, if_false, beq_iff_eq] at hq'
      split_ifs at hq' with hx
      · obtain rfl := List.mem_singleton.mp hq'
        rw [hx, ih hq]
        rfl
      · cases hq'

/-- A character that may be there is taken first. -/
theorem run_optional_cons {c : Char} (hc : p c = true) :
    (PyData.optional p).run word (prev, c :: cs) = [(some c, cs), (prev, c :: cs)] := by
  have hstop : greedy p 0 (some 0) (some c) cs = [(some c, cs)] := by
    cases cs with
    | nil => rfl
    | cons x cs => simp [greedy]
  simp only [PyData.optional, Re.run, greedy, hc]
  exact congrArg (· ++ [(prev, c :: cs)]) hstop

theorem run_optional_of_none (h : cs.head?.any p = false) :
    (PyData.optional p).run word (prev, cs) = [(prev, cs)] := by
  cases cs with
  | nil => rfl
  | cons c cs =>
    have hc : p c = false := h
    simp [PyData.optional, Re.run, greedy, hc]

/-- **The longest repetition comes first.** -/
theorem greedy_head {lo : ℕ} (h : lo ≤ (cs.takeWhile p).length) :
    ∃ prev' others, greedy p lo none prev cs = (prev', cs.dropWhile p) :: others := by
  induction cs generalizing lo prev with
  | nil =>
    obtain rfl : lo = 0 := Nat.le_zero.mp h
    exact ⟨prev, [], rfl⟩
  | cons c cs ih =>
    rw [greedy]
    by_cases hc : p c = true
    · rw [List.takeWhile_cons_of_pos hc, List.length_cons] at h
      obtain ⟨prev', others, hrest⟩ := @ih (some c) (lo - 1) (by omega)
      refine ⟨prev', others ++ if lo = 0 then [(prev, c :: cs)] else [], ?_⟩
      rw [List.dropWhile_cons_of_pos hc, hc, Option.map_none, hrest]
      rfl
    · rw [List.takeWhile_cons_of_neg hc] at h
      obtain rfl : lo = 0 := Nat.le_zero.mp h
      refine ⟨prev, [], ?_⟩
      rw [Bool.not_eq_true] at hc
      simp [hc]

/-! ### Expressions that match runs -/

/-- An expression that matches where a match can begin, up to the end of the run. -/
structure MatchesRuns (word : Char → Bool) (p : Char → Bool) (begins : List Char → Bool) (e : Re) :
    Prop where
  head : ∀ c cs, begins (c :: cs) = true → p c = true
  found : ∀ prev cs, begins cs = true →
    ∃ prev' others, e.run word (prev, cs) = (prev', cs.dropWhile p) :: others
  none : ∀ prev cs, begins cs = false → e.run word (prev, cs) = []

theorem take_of_dropWhile (cs : List Char) :
    cs.take (cs.length - (cs.dropWhile p).length) = cs.takeWhile p := by
  have hlength : (cs.takeWhile p ++ cs.dropWhile p).length = cs.length := by
    rw [List.takeWhile_append_dropWhile]
  rw [List.length_append] at hlength
  have hcount : cs.length - (cs.dropWhile p).length = (cs.takeWhile p).length := by omega
  rw [hcount]
  exact (List.prefix_iff_eq_take.mp (List.takeWhile_prefix p)).symm

/-- **What such an expression finds.** The induction is on the length that is left. -/
theorem finditerFrom_runs (h : MatchesRuns word p begins e) (fuel : ℕ) (prev : Option Char)
    (cs : List Char) (hfuel : cs.length ≤ fuel) : e.finditerFrom word fuel (prev, cs) =
      (startsFrom p begins false cs).map fun t => String.ofList (t.takeWhile p) := by
  induction fuel generalizing prev cs with
  | zero =>
    obtain rfl := List.length_eq_zero_iff.mp (Nat.le_zero.mp hfuel)
    rfl
  | succ fuel ih =>
    cases cs with
    | nil => rfl
    | cons c cs =>
      rw [List.length_cons] at hfuel
      unfold Re.finditerFrom startsFrom
      cases hbegins : begins (c :: cs) with
      | false =>
        simp only [h.none prev _ hbegins, Bool.false_and, Bool.false_eq_true, if_false]
        exact ih _ _ (by omega)
      | true =>
        obtain ⟨prev', others, hrun⟩ := h.found prev _ hbegins
        have hc := h.head c cs hbegins
        have hrest : ((c :: cs).dropWhile p).length ≤ fuel := by
          rw [List.dropWhile_cons_of_pos hc]
          have hle : (cs.dropWhile p).length ≤ cs.length := (List.dropWhile_suffix p).length_le
          omega
        simp only [hrun, Bool.false_and, Bool.false_eq_true, if_false, if_true, List.map_cons,
          take_of_dropWhile]
        rw [ih prev' _ hrest, startsFrom_run, List.dropWhile_cons_of_pos hc]

theorem finditer_runs (h : MatchesRuns word p begins e) (text : String) : e.finditer word text =
    (starts p begins text.toList).map fun t => String.ofList (t.takeWhile p) :=
  finditerFrom_runs h _ none _ le_rfl

end PyData
