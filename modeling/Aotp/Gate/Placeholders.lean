import Aotp.Gate.Quiet
import Aotp.Lib.Stops

/-!
# Texts with placeholders

* `placeholder`, `joined` — stretches of text with `[redacted]` between them.
* `OpenEnded` — the two secret patterns that a placeholder may be part of: a label, and what follows it.
  `OpenEnded.Awaits` — a stretch whose end is a label that still waits for what follows.
* `clear_joined` — **no pattern matches in the joined text exactly when none matches in a stretch, and
  none but the last awaits anything**.
-/

namespace Aotp.Gate

open PyData

variable {rt : Runtime} {a rest : List Char}

/-- `[redacted]` -/
def placeholder : List Char := "[redacted]".toList

/-- Stretches of text with placeholders between them. -/
def joined : List (List Char) → List Char
  | [] => []
  | [a] => a
  | a :: b :: rest => a ++ placeholder ++ joined (b :: rest)

/-! ### Open ends -/

/-- A pattern that ends in a repetition: a label, and at least so many of some characters. -/
structure OpenEnded where
  label : List Re
  least : ℕ
  accepts : Char → Bool

namespace OpenEnded

def re (x : OpenEnded) : Re := seqRe (x.label ++ [atLeast x.least x.accepts])

/-- A stretch ends in a label, or in a label with too little after it. -/
def Awaits (x : OpenEnded) (word : Char → Bool) (a : List Char) : Prop :=
  (seqRe x.label).Opens word (fun r => r.length < x.least ∧ r.all x.accepts = true) none a

end OpenEnded

/-- The pattern of cookies. -/
def cookieHeader : OpenEnded where
  label := [.wordBoundary, altRe [litRe true "cookie", litRe true "set-cookie"], atLeast 0 isSpace,
    .cls (· == ':'), atLeast 0 isSpace]
  least := 1
  accepts := fun c => c != '\r' && c != '\n'

/-- The pattern of passwords. -/
def passwordField : OpenEnded where
  label := [.wordBoundary, altRe [litRe true "password", litRe true "passwd", litRe true "pwd"],
    atLeast 0 isSpace, .cls (oneOf ":="), atLeast 0 isSpace]
  least := 4
  accepts := fun c => !isSpace c

/-- The patterns that accept a placeholder. -/
def openEnded : List OpenEnded := [cookieHeader, passwordField]

/-- An expression that neither bracket can be part of. -/
def closed (e : Re) : Bool := e.avoids '[' && e.avoids ']'

/-- Every pattern is closed or open-ended. -/
theorem closed_or_openEnded {p : String × Re} (hp : p ∈ patterns) :
    closed p.2 = true ∨ ∃ x ∈ openEnded, p.2 = x.re := by
  simp only [patterns, List.mem_cons, List.not_mem_nil, or_false] at hp
  rcases hp with rfl | rfl | rfl | rfl | rfl | rfl | rfl | rfl | rfl | rfl | rfl
  case inr.inr.inr.inl => exact .inr ⟨cookieHeader, List.mem_cons_self, rfl⟩
  case inr.inr.inr.inr.inr.inr.inr.inr.inr.inr =>
    exact .inr ⟨passwordField, List.mem_cons_of_mem _ List.mem_cons_self, rfl⟩
  all_goals exact .inl (by decide)

/-- The open-ended ones are among the patterns. -/
theorem re_mem_patterns {x : OpenEnded} (hx : x ∈ openEnded) : ∃ p ∈ patterns, p.2 = x.re := by
  simp only [openEnded, List.mem_cons, List.not_mem_nil, or_false] at hx
  rcases hx with rfl | rfl
  · exact ⟨patterns[3], List.getElem_mem (by decide), rfl⟩
  · exact ⟨patterns[10], List.getElem_mem (by decide), rfl⟩

/-- What an open-ended pattern needs besides. -/
theorem openEnded_spec {x : OpenEnded} (hx : x ∈ openEnded) : closed (seqRe x.label) = true ∧
    Led (seqRe x.label) ∧ x.least ≤ placeholder.length ∧ placeholder.all x.accepts = true := by
  simp only [openEnded, List.mem_cons, List.not_mem_nil, or_false] at hx
  rcases hx with rfl | rfl
  · refine ⟨by decide, ?_, by decide, by decide⟩
    exact (((led_litRe true "cookie" (by decide) (by decide)).alt
      (led_litRe true "set-cookie" (by decide) (by decide))).seq).boundary
  · refine ⟨by decide, ?_, by decide, by decide⟩
    exact (((led_litRe true "password" (by decide) (by decide)).alt
      ((led_litRe true "passwd" (by decide) (by decide)).alt
        (led_litRe true "pwd" (by decide) (by decide)))).seq).boundary

/-! ### Across a placeholder -/

theorem isWord_bracket (rt : Runtime) : isWord rt '[' = false ∧ isWord rt ']' = false := by
  constructor <;> rfl

/-- The text of the placeholder. -/
theorem append_placeholder : a ++ placeholder ++ rest =
    a ++ '[' :: ("redacted".toList ++ ']' :: rest) := by
  rw [List.append_assoc]
  rfl

/-- **A closed expression across a placeholder** that it has nothing to do with. -/
theorem opens_placeholder {e : Re} {P : List Char → Prop} (he : closed e = true)
    (hnone : ∀ prev t, t <:+ "redacted".toList → e.run (isWord rt) (prev, t) = []) :
    e.Opens (isWord rt) P none (a ++ placeholder ++ rest) ↔
      e.Opens (isWord rt) (fun r => P (r ++ placeholder ++ rest)) none a ∨
        e.Opens (isWord rt) P none rest := by
  simp only [closed, Bool.and_eq_true] at he
  obtain ⟨hopening, hclosing⟩ := isWord_bracket rt
  rw [append_placeholder, opens_append_stop hopening he.1, opens_append_stop hclosing he.2,
    or_iff_right (not_opens hnone),
    opens_prev (show (some ']').any (isWord rt) = (none : Option Char).any (isWord rt) from hclosing)]
  simp only [append_placeholder]

/-- Enough is accepted after a label, or the placeholder adds what is missing. -/
theorem takeWhile_placeholder {p : Char → Bool} {least : ℕ} {r : List Char}
    (hleast : least ≤ placeholder.length) (hall : placeholder.all p = true) :
    least ≤ ((r ++ placeholder ++ rest).takeWhile p).length ↔
      least ≤ (r.takeWhile p).length ∨ r.length < least ∧ r.all p = true := by
  have hplaceholder : (placeholder ++ rest).takeWhile p = placeholder ++ rest.takeWhile p :=
    List.takeWhile_append_of_pos (List.all_eq_true.mp hall)
  rw [List.append_assoc]
  by_cases hr : r.all p = true
  · have hself : r.takeWhile p = r := List.takeWhile_eq_self_iff.mpr (List.all_eq_true.mp hr)
    rw [List.takeWhile_append_of_pos (List.all_eq_true.mp hr), hplaceholder, hself]
    simp only [List.length_append, hr, and_true]
    omega
  · have hshort : (r.takeWhile p).length ≠ r.length := by
      intro hlength
      have hself : r.takeWhile p = r :=
        (List.takeWhile_prefix p).eq_of_length hlength
      exact hr (List.all_eq_true.mpr (List.takeWhile_eq_self_iff.mp hself))
    rw [List.takeWhile_append, if_neg hshort]
    simp [hr]

/-! ### Clear texts -/

/-- No pattern matches anywhere. -/
def Clear (rt : Runtime) (cs : List Char) : Prop :=
  ∀ p ∈ patterns, p.2.searchFrom (isWord rt) none cs = false

theorem findings_eq_nil {text : String} : findings rt text = [] ↔ Clear rt text.toList := by
  unfold findings Clear
  rw [sortedTexts_eq_nil, List.map_eq_nil_iff, List.filter_eq_nil_iff]
  simp only [Bool.not_eq_true]
  rfl

theorem searchFrom_iff {e : Re} {cs : List Char} : e.searchFrom (isWord rt) none cs = true ↔
    e.Opens (isWord rt) (fun _ => True) none cs :=
  searchFrom_iff_opens fun _ => ⟨fun h => (List.exists_mem_of_ne_nil _ h).imp fun _ hq => ⟨hq, trivial⟩,
    fun ⟨_, hq, _⟩ => List.ne_nil_of_mem hq⟩

theorem openEnded_searchFrom_iff {x : OpenEnded} {cs : List Char} :
    x.re.searchFrom (isWord rt) none cs = true ↔
      (seqRe x.label).Opens (isWord rt) (fun r => x.least ≤ (r.takeWhile x.accepts).length) none cs :=
  searchFrom_iff_opens fun _ => run_tail_ne_nil

theorem quiet_redacted : quiet "redacted".toList = true := by decide

/-- A closed pattern matches on one side of a placeholder or on the other. -/
theorem searchFrom_closed {p : String × Re} (hp : p ∈ patterns) (hclosed : closed p.2 = true) :
    p.2.searchFrom (isWord rt) none (a ++ placeholder ++ rest) = true ↔
      p.2.searchFrom (isWord rt) none a = true ∨ p.2.searchFrom (isWord rt) none rest = true := by
  rw [searchFrom_iff, searchFrom_iff, searchFrom_iff]
  exact opens_placeholder hclosed fun prev t ht => run_of_quiet quiet_redacted ht hp prev

/-- An open-ended one may also match where the stretch before the placeholder awaits it. -/
theorem searchFrom_openEnded {x : OpenEnded} (hx : x ∈ openEnded) :
    x.re.searchFrom (isWord rt) none (a ++ placeholder ++ rest) = true ↔
      (x.re.searchFrom (isWord rt) none a = true ∨ x.Awaits (isWord rt) a) ∨
        x.re.searchFrom (isWord rt) none rest = true := by
  obtain ⟨hclosed, hled, hleast, hall⟩ := openEnded_spec hx
  have hleadless : leadless ("redacted".toList.map code) = true := by decide
  have hnone : ∀ prev t, t <:+ "redacted".toList → (seqRe x.label).run (isWord rt) (prev, t) = [] := by
    intro prev t ht
    by_contra hrun
    obtain ⟨w, hw, hprefix⟩ := hled _ _ hrun
    exact not_prefix_of_leadless hleadless (ht.map code) hw hprefix
  rw [openEnded_searchFrom_iff, openEnded_searchFrom_iff, openEnded_searchFrom_iff,
    opens_placeholder hclosed hnone, opens_congr fun r => takeWhile_placeholder hleast hall, opens_or]
  rfl

/-- **A text is clear across a placeholder** when both sides are and the first awaits nothing. -/
theorem clear_placeholder : Clear rt (a ++ placeholder ++ rest) ↔
    Clear rt a ∧ (∀ x ∈ openEnded, ¬ x.Awaits (isWord rt) a) ∧ Clear rt rest := by
  have hfalse {e : Re} {cs : List Char} : e.searchFrom (isWord rt) none cs = false ↔
      ¬ e.searchFrom (isWord rt) none cs = true := (Bool.not_eq_true _).symm ▸ Iff.rfl
  simp only [Clear, hfalse]
  constructor
  · intro h
    refine ⟨fun p hp hmatch => h p hp ?_, fun x hx hawaits => ?_, fun p hp hmatch => h p hp ?_⟩
    · rcases closed_or_openEnded hp with hclosed | ⟨x, hx, hre⟩
      · exact (searchFrom_closed hp hclosed).mpr (.inl hmatch)
      · rw [hre] at hmatch ⊢
        exact (searchFrom_openEnded hx).mpr (.inl (.inl hmatch))
    · obtain ⟨p, hp, hre⟩ := re_mem_patterns hx
      refine h p hp ?_
      rw [hre]
      exact (searchFrom_openEnded hx).mpr (.inl (.inr hawaits))
    · rcases closed_or_openEnded hp with hclosed | ⟨x, hx, hre⟩
      · exact (searchFrom_closed hp hclosed).mpr (.inr hmatch)
      · rw [hre] at hmatch ⊢
        exact (searchFrom_openEnded hx).mpr (.inr hmatch)
  · rintro ⟨ha, hawaits, hrest⟩ p hp hmatch
    rcases closed_or_openEnded hp with hclosed | ⟨x, hx, hre⟩
    · rcases (searchFrom_closed hp hclosed).mp hmatch with hmatch | hmatch
      · exact ha p hp hmatch
      · exact hrest p hp hmatch
    · rw [hre] at hmatch
      rcases (searchFrom_openEnded hx).mp hmatch with (hmatch | hopen) | hmatch
      · exact ha p hp (hre ▸ hmatch)
      · exact hawaits x hx hopen
      · exact hrest p hp (hre ▸ hmatch)

/-- **No pattern matches in the joined text exactly when none matches in a stretch, and none but the
last awaits anything.** -/
theorem clear_joined {stretches : List (List Char)} (hne : stretches ≠ []) :
    Clear rt (joined stretches) ↔ (∀ a ∈ stretches, Clear rt a) ∧
      ∀ a ∈ stretches.dropLast, ∀ x ∈ openEnded, ¬ x.Awaits (isWord rt) a := by
  induction stretches with
  | nil => exact absurd rfl hne
  | cons a stretches ih =>
    cases stretches with
    | nil => simp [joined]
    | cons b rest =>
      have hrest := ih (List.cons_ne_nil b rest)
      rw [joined, clear_placeholder, List.dropLast_cons_cons]
      constructor
      · rintro ⟨ha, hawaits, hclear⟩
        obtain ⟨hall, hothers⟩ := hrest.mp hclear
        exact ⟨List.forall_mem_cons.mpr ⟨ha, hall⟩, List.forall_mem_cons.mpr ⟨hawaits, hothers⟩⟩
      · rintro ⟨hall, hawaits⟩
        obtain ⟨ha, hall⟩ := List.forall_mem_cons.mp hall
        obtain ⟨hfirst, hothers⟩ := List.forall_mem_cons.mp hawaits
        exact ⟨ha, hfirst, hrest.mpr ⟨hall, hothers⟩⟩

end Aotp.Gate
