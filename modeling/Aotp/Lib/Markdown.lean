import Aotp.Lib.Text

/-!
# Documents in Markdown

* `textLines` — the lines of a text; `joinLines` — a text of lines; `headingLevel` — the level of the
  heading that a line is.
* `Part` — a line of a document, with the text in it that was recorded elsewhere, if there is any.
* `kept_iff` — **the lines of a document are its parts, and its headings are its own, exactly where
  each recorded text is one line, and no heading if it stands alone**.
* `trimParts` — the parts without the white space at the end of the document.
-/

namespace PyData

/-! ### Lines -/

/-- A line feed or a carriage return. -/
def isLineEnd (c : Char) : Bool := c == '\n' || c == '\r'

/-- The lines of a text, without their ends. -/
def textLines : List Char → List (List Char)
  | [] => [[]]
  | c :: cs =>
    if isLineEnd c then [] :: textLines cs
    else match textLines cs with
      | [] => [[c]]
      | line :: lines => (c :: line) :: lines

/-- A text of one line. -/
def OneLine (s : List Char) : Prop := ∀ c ∈ s, isLineEnd c = false

/-- `"\n".join(lines)`. -/
def joinLines (lines : List (List Char)) : List Char := List.intercalate ['\n'] lines

instance : DecidablePred OneLine := fun s =>
  decidable_of_iff (s.all (fun c => !isLineEnd c) = true) (by simp [OneLine])

theorem oneLine_nil : OneLine [] := fun _ hc => absurd hc List.not_mem_nil

theorem oneLine_cons {c : Char} {s : List Char} :
    OneLine (c :: s) ↔ isLineEnd c = false ∧ OneLine s := List.forall_mem_cons

theorem oneLine_append {s t : List Char} : OneLine (s ++ t) ↔ OneLine s ∧ OneLine t :=
  List.forall_mem_append

theorem OneLine.of_subset {s t : List Char} (h : OneLine t) (hsub : s ⊆ t) : OneLine s :=
  fun c hc => h c (hsub hc)

theorem textLines_ne_nil (s : List Char) : textLines s ≠ [] := by
  cases s with
  | nil => exact List.cons_ne_nil _ _
  | cons c cs =>
    unfold textLines
    split
    · exact List.cons_ne_nil _ _
    · split
      · exact List.cons_ne_nil _ _
      · exact List.cons_ne_nil _ _

theorem textLines_cons_of_not_end {c : Char} (h : isLineEnd c = false) {cs line : List Char}
    {lines : List (List Char)} (hcs : textLines cs = line :: lines) :
    textLines (c :: cs) = (c :: line) :: lines := by
  rw [textLines, if_neg (Bool.eq_false_iff.mp h), hcs]

theorem textLines_of_oneLine {s : List Char} (h : OneLine s) : textLines s = [s] := by
  induction s with
  | nil => rfl
  | cons c s ih =>
    obtain ⟨hc, hs⟩ := oneLine_cons.mp h
    exact textLines_cons_of_not_end hc (ih hs)

/-- A line, its end, and the lines after it. -/
theorem textLines_append_cons {s : List Char} (h : OneLine s) {c : Char} (hc : isLineEnd c = true)
    (t : List Char) : textLines (s ++ c :: t) = s :: textLines t := by
  induction s with
  | nil => rw [List.nil_append, textLines, if_pos hc]
  | cons d s ih =>
    obtain ⟨hd, hs⟩ := oneLine_cons.mp h
    exact textLines_cons_of_not_end hd (ih hs)

theorem oneLine_of_mem_textLines {s line : List Char} (h : line ∈ textLines s) : OneLine line := by
  induction s generalizing line with
  | nil =>
    rw [List.mem_singleton.mp h]
    exact oneLine_nil
  | cons c cs ih =>
    by_cases hc : isLineEnd c = true
    · rw [textLines, if_pos hc] at h
      rcases List.mem_cons.mp h with rfl | hmem
      · exact oneLine_nil
      · exact ih hmem
    · obtain ⟨first, lines, hlines⟩ := List.exists_cons_of_ne_nil (textLines_ne_nil cs)
      rw [textLines_cons_of_not_end (Bool.eq_false_iff.mpr hc) hlines] at h
      rw [hlines] at ih
      rcases List.mem_cons.mp h with rfl | hmem
      · exact oneLine_cons.mpr ⟨Bool.eq_false_iff.mpr hc, ih (List.mem_cons_self ..)⟩
      · exact ih (List.mem_cons_of_mem _ hmem)

theorem joinLines_cons_cons (line next : List Char) (lines : List (List Char)) :
    joinLines (line :: next :: lines) = line ++ '\n' :: joinLines (next :: lines) := by
  unfold joinLines
  rw [List.intercalate_cons_cons, List.append_assoc]
  rfl

theorem joinLines_singleton (line : List Char) : joinLines [line] = line := by
  unfold joinLines
  simp [List.intercalate]

theorem textLines_joinLines {lines : List (List Char)} (h : ∀ line ∈ lines, OneLine line)
    (hne : lines ≠ []) : textLines (joinLines lines) = lines := by
  induction lines with
  | nil => exact absurd rfl hne
  | cons line lines ih =>
    rw [List.forall_mem_cons] at h
    cases lines with
    | nil =>
      rw [joinLines_singleton]
      exact textLines_of_oneLine h.1
    | cons next lines =>
      rw [joinLines_cons_cons, textLines_append_cons h.1 rfl, ih h.2 (List.cons_ne_nil _ _)]

/-- A text of lines, and one more line that is empty. -/
theorem joinLines_concat_nil {lines : List (List Char)} (hne : lines ≠ []) :
    joinLines (lines ++ [[]]) = joinLines lines ++ ['\n'] := by
  induction lines with
  | nil => exact absurd rfl hne
  | cons line lines ih =>
    cases lines with
    | nil =>
      show joinLines [line, []] = joinLines [line] ++ ['\n']
      rw [joinLines_cons_cons, joinLines_singleton, joinLines_singleton]
    | cons next lines =>
      rw [List.cons_append, List.cons_append, joinLines_cons_cons, joinLines_cons_cons,
        ← List.cons_append, ih (List.cons_ne_nil _ _), List.append_assoc, List.cons_append]

/-- Two texts of lines, one after the other. -/
theorem joinLines_append {lines lines' : List (List Char)} (hne : lines ≠ []) (hne' : lines' ≠ []) :
    joinLines (lines ++ lines') = joinLines lines ++ '\n' :: joinLines lines' := by
  induction lines with
  | nil => exact absurd rfl hne
  | cons line lines ih =>
    cases lines with
    | nil =>
      obtain ⟨next, rest, rfl⟩ := List.exists_cons_of_ne_nil hne'
      rw [joinLines_singleton]
      exact joinLines_cons_cons line next rest
    | cons next lines =>
      rw [List.cons_append, List.cons_append, joinLines_cons_cons, joinLines_cons_cons,
        ← List.cons_append, ih (List.cons_ne_nil _ _), List.append_assoc, List.cons_append]

/-- A text of blocks of lines is the text of all their lines. -/
theorem joinLines_map_joinLines {blocks : List (List (List Char))} (h : ∀ block ∈ blocks, block ≠ []) :
    joinLines (blocks.map joinLines) = joinLines blocks.flatten := by
  induction blocks with
  | nil => rfl
  | cons block blocks ih =>
    rw [List.forall_mem_cons] at h
    cases blocks with
    | nil => rw [List.map_singleton, joinLines_singleton, List.flatten_singleton]
    | cons next blocks =>
      have hrest : (next :: blocks).flatten ≠ [] := by
        intro hnil
        exact h.2 next (List.mem_cons_self ..) (List.flatten_eq_nil_iff.mp hnil next (List.mem_cons_self ..))
      rw [List.map_cons, List.map_cons, joinLines_cons_cons, ← List.map_cons, ih h.2,
        List.flatten_cons (l := block), joinLines_append h.1 hrest]

/-! ### Headings -/

/-- A text without the spaces at its start, at most so many of them. -/
def dropSpaces : ℕ → List Char → List Char
  | n + 1, ' ' :: cs => dropSpaces n cs
  | _, cs => cs

/-- What has to follow the marks of a heading: a blank, or nothing. -/
def endsMarks : List Char → Bool
  | [] => true
  | c :: _ => c == ' ' || c == '\t'

/-- The level of the heading that a line is: one to six number signs after at most three spaces. -/
def headingLevel (line : List Char) : Option ℕ :=
  let body := dropSpaces 3 line
  let level := (body.takeWhile (· == '#')).length
  if decide (1 ≤ level) && decide (level ≤ 6) && endsMarks (body.drop level) then some level else none

def isHeading (line : List Char) : Bool := (headingLevel line).isSome

/-- A line that starts with another character is no heading. -/
theorem headingLevel_cons {c : Char} (hspace : c ≠ ' ') (hmark : c ≠ '#') (s : List Char) :
    headingLevel (c :: s) = none := by
  have hbody : dropSpaces 3 (c :: s) = c :: s := by
    unfold dropSpaces
    split
    · rename_i heq
      exact absurd (List.cons.inj heq).1 hspace
    · rfl
  have hmarks : (c :: s).takeWhile (· == '#') = [] := by simp [hmark]
  simp only [headingLevel, hbody, hmarks]
  rfl

/-- Marks and a space make a heading of any text. -/
theorem headingLevel_marks {n : ℕ} (hpos : 1 ≤ n) (hle : n ≤ 6) (s : List Char) :
    headingLevel (List.replicate n '#' ++ ' ' :: s) = some n := by
  have hbody : dropSpaces 3 (List.replicate n '#' ++ ' ' :: s) =
      List.replicate n '#' ++ ' ' :: s := by
    obtain ⟨m, rfl⟩ := Nat.exists_eq_add_of_le' hpos
    rfl
  have hmarks : (List.replicate n '#' ++ ' ' :: s).takeWhile (· == '#') =
      List.replicate n '#' := by
    rw [List.takeWhile_append_of_pos (by simp)]
    simp
  simp only [headingLevel, hbody, hmarks, List.length_replicate]
  simp [hpos, hle, endsMarks]

/-! ### Parts -/

/-- A line of a document. -/
inductive Part where
  /-- A line of the document's own. -/
  | own (line : List Char)
  /-- A recorded text between backticks, after a label. -/
  | quoted (label recorded : List Char)
  /-- A recorded text that stands alone. -/
  | standing (recorded : List Char)

/-- The text of a part. -/
def Part.line : Part → List Char
  | own line => line
  | quoted label recorded => label ++ ['\x60'] ++ recorded ++ ['\x60']
  | standing recorded => recorded

/-- The recorded text of a part is one line, and no heading if it stands alone. -/
def Part.Plain : Part → Prop
  | own _ => True
  | quoted _ recorded => OneLine recorded
  | standing recorded => OneLine recorded ∧ headingLevel recorded = none

/-- What a document takes care of itself. -/
def Part.Regular : Part → Prop
  | own line => OneLine line
  | quoted label _ => OneLine label ∧ ∀ s, headingLevel (label ++ s) = none
  | standing _ => True

/-- The line of a part that is one of the document's own. -/
def Part.own? : Part → Option (List Char)
  | own line => some line
  | _ => none

/-- The lines of the document's own. -/
def ownLines (parts : List Part) : List (List Char) := parts.filterMap Part.own?

theorem Part.Plain.oneLine {p : Part} (hregular : p.Regular) (h : p.Plain) : OneLine p.line := by
  cases p with
  | own line => exact hregular
  | quoted label recorded =>
    have htick : OneLine ['\x60'] := by
      intro c hc
      rw [List.mem_singleton.mp hc]
      rfl
    exact oneLine_append.mpr ⟨oneLine_append.mpr ⟨oneLine_append.mpr ⟨hregular.1, htick⟩, h⟩, htick⟩
  | standing recorded => exact h.1

/-- A part that is one line is plain, unless it is a heading that stands alone. -/
theorem Part.plain_of_oneLine {p : Part} (h : OneLine p.line)
    (hheading : ∀ recorded, p = .standing recorded → headingLevel recorded = none) : p.Plain := by
  cases p with
  | own line => trivial
  | quoted label recorded => exact (oneLine_append.mp (oneLine_append.mp h).1).2
  | standing recorded => exact ⟨h, hheading recorded rfl⟩

/-- A quoted text is no heading. -/
theorem isHeading_quoted {label recorded : List Char} (h : (Part.quoted label recorded).Regular) :
    isHeading (Part.quoted label recorded).line = false := by
  have hnone := h.2 (['\x60'] ++ recorded ++ ['\x60'])
  unfold isHeading
  show (headingLevel (label ++ ['\x60'] ++ recorded ++ ['\x60'])).isSome = false
  rw [List.append_assoc, List.append_assoc, ← List.append_assoc ['\x60'], hnone]
  rfl

/-- Whether a part is a recorded text that stands alone, and is a heading. -/
def Part.forgesHeading : Part → Bool
  | standing recorded => isHeading recorded
  | _ => false

/-- The headings among the lines of parts: the document's own, and forged ones. -/
theorem countP_isHeading {parts : List Part} (h : ∀ p ∈ parts, p.Regular) :
    (parts.map Part.line).countP isHeading =
      (ownLines parts).countP isHeading + parts.countP Part.forgesHeading := by
  induction parts with
  | nil => rfl
  | cons p parts ih =>
    rw [List.forall_mem_cons] at h
    have hrest := ih h.2
    rw [List.map_cons, List.countP_cons, List.countP_cons, hrest]
    cases p with
    | own line =>
      show _ = (line :: ownLines parts).countP isHeading + (_ + 0)
      rw [List.countP_cons]
      show _ + (if isHeading line = true then 1 else 0) = _
      omega
    | quoted label recorded =>
      rw [isHeading_quoted h.1]
      rfl
    | standing recorded =>
      show _ = (ownLines parts).countP isHeading + (_ + if isHeading recorded = true then 1 else 0)
      show _ + (if isHeading recorded = true then 1 else 0) = _
      omega

theorem filter_isHeading {parts : List Part} (h : ∀ p ∈ parts, p.Regular)
    (hplain : ∀ p ∈ parts, p.Plain) :
    (parts.map Part.line).filter isHeading = (ownLines parts).filter isHeading := by
  induction parts with
  | nil => rfl
  | cons p parts ih =>
    rw [List.forall_mem_cons] at h hplain
    have hrest := ih h.2 hplain.2
    cases p with
    | own line =>
      show (line :: parts.map Part.line).filter isHeading = (line :: ownLines parts).filter isHeading
      rw [List.filter_cons, List.filter_cons, hrest]
    | quoted label recorded =>
      rw [List.map_cons, List.filter_cons, isHeading_quoted h.1]
      exact hrest
    | standing recorded =>
      have hnone : isHeading (Part.standing recorded).line = false := by
        show (headingLevel recorded).isSome = false
        rw [hplain.1.2]
        rfl
      rw [List.map_cons, List.filter_cons, hnone]
      exact hrest

/-- **The lines of a document are its parts, and its headings are its own, exactly where each
recorded text is one line, and no heading if it stands alone.** -/
theorem kept_iff {parts : List Part} (h : ∀ p ∈ parts, p.Regular) (hne : parts ≠ []) :
    (textLines (joinLines (parts.map Part.line)) = parts.map Part.line ∧
      (textLines (joinLines (parts.map Part.line))).filter isHeading =
        (ownLines parts).filter isHeading) ↔ ∀ p ∈ parts, p.Plain := by
  constructor
  · rintro ⟨hlines, hheadings⟩ p hp
    rw [hlines] at hheadings
    have hline : OneLine p.line := by
      apply oneLine_of_mem_textLines
      rw [hlines]
      exact List.mem_map_of_mem hp
    apply Part.plain_of_oneLine hline
    rintro recorded rfl
    have hcount := countP_isHeading h
    rw [List.countP_eq_length_filter, hheadings, ← List.countP_eq_length_filter] at hcount
    have hnone : parts.countP Part.forgesHeading = 0 := by omega
    have hnot := List.countP_eq_zero.mp hnone _ hp
    simpa [Part.forgesHeading, isHeading] using hnot
  · intro hplain
    have hlines : textLines (joinLines (parts.map Part.line)) = parts.map Part.line := by
      apply textLines_joinLines
      · intro line hline
        obtain ⟨p, hp, rfl⟩ := List.mem_map.mp hline
        exact (hplain p hp).oneLine (h p hp)
      · simpa using hne
    rw [hlines]
    exact ⟨rfl, filter_isHeading h hplain⟩

/-- The end of the last line begins one more. -/
theorem textLines_concat {c : Char} (hc : isLineEnd c = true) (s : List Char) :
    textLines (s ++ [c]) = textLines s ++ [[]] := by
  induction s with
  | nil => exact textLines_append_cons oneLine_nil hc []
  | cons d s ih =>
    obtain ⟨line, lines, hlines⟩ := List.exists_cons_of_ne_nil (textLines_ne_nil s)
    rw [List.cons_append]
    by_cases hd : isLineEnd d = true
    · rw [textLines, if_pos hd, ih, textLines, if_pos hd, List.cons_append]
    · have hd := Bool.eq_false_iff.mpr hd
      rw [hlines, List.cons_append] at ih
      rw [textLines_cons_of_not_end hd ih, textLines_cons_of_not_end hd hlines, List.cons_append]

/-! ### White space at the end -/

/-- A part without the white space at its end. -/
def Part.trimmed : Part → Part
  | own line => own (line.rdropWhile isSpace)
  | quoted label recorded => quoted label recorded
  | standing recorded => standing (recorded.rdropWhile isSpace)

/-- The parts of a document without the white space at its end. -/
def trimParts : List Part → List Part
  | [] => []
  | p :: parts =>
    match trimParts parts with
    | [] => if p.trimmed.line = [] then [] else [p.trimmed]
    | q :: rest => p :: q :: rest

theorem Part.line_trimmed (p : Part) : p.trimmed.line = p.line.rdropWhile isSpace := by
  cases p with
  | own line => rfl
  | quoted label recorded =>
    have htick : ¬ isSpace '\x60' = true := by decide
    exact (List.rdropWhile_concat_neg isSpace (label ++ ['\x60'] ++ recorded) '\x60' htick).symm
  | standing recorded => rfl

theorem trimParts_cons_of_nil {parts : List Part} (h : trimParts parts = []) (p : Part) :
    trimParts (p :: parts) = if p.trimmed.line = [] then [] else [p.trimmed] := by
  rw [trimParts, h]

theorem trimParts_cons_of_ne_nil {parts : List Part} (h : trimParts parts ≠ []) (p : Part) :
    trimParts (p :: parts) = p :: trimParts parts := by
  obtain ⟨q, rest, hq⟩ := List.exists_cons_of_ne_nil h
  rw [trimParts, hq]

theorem trimParts_append {parts : List Part} (h : trimParts parts ≠ []) (before : List Part) :
    trimParts (before ++ parts) = before ++ trimParts parts := by
  induction before with
  | nil => rfl
  | cons p before ih =>
    have hne : trimParts (before ++ parts) ≠ [] := by
      rw [ih]
      exact List.append_ne_nil_of_right_ne_nil _ h
    rw [List.cons_append, trimParts_cons_of_ne_nil hne, ih, List.cons_append]

/-- A visible line is kept. -/
theorem trimParts_ne_nil {parts : List Part} {p : Part} (hmem : p ∈ parts)
    (hvisible : p.trimmed.line ≠ []) : trimParts parts ≠ [] := by
  induction parts with
  | nil => cases hmem
  | cons q parts ih =>
    by_cases hnil : trimParts parts = []
    · rcases List.mem_cons.mp hmem with rfl | hmem
      · rw [trimParts_cons_of_nil hnil, if_neg hvisible]
        exact List.cons_ne_nil _ _
      · exact absurd hnil (ih hmem)
    · rw [trimParts_cons_of_ne_nil hnil]
      exact List.cons_ne_nil _ _

/-- A part that is kept is one of the parts, perhaps trimmed. -/
theorem mem_trimParts {parts : List Part} {p : Part} (h : p ∈ trimParts parts) :
    ∃ q ∈ parts, p = q ∨ p = q.trimmed := by
  induction parts with
  | nil => cases h
  | cons q parts ih =>
    by_cases hnil : trimParts parts = []
    · rw [trimParts_cons_of_nil hnil] at h
      split at h
      · cases h
      · exact ⟨q, List.mem_cons_self .., .inr (List.mem_singleton.mp h)⟩
    · rw [trimParts_cons_of_ne_nil hnil] at h
      rcases List.mem_cons.mp h with rfl | hmem
      · exact ⟨p, List.mem_cons_self .., .inl rfl⟩
      · obtain ⟨r, hr, heq⟩ := ih hmem
        exact ⟨r, List.mem_cons_of_mem _ hr, heq⟩

theorem Part.Regular.trimmed {p : Part} (h : p.Regular) : p.trimmed.Regular := by
  cases p with
  | own line => exact OneLine.of_subset h (List.rdropWhile_prefix isSpace line).subset
  | quoted label recorded => exact h
  | standing recorded => trivial

theorem regular_trimParts {parts : List Part} (h : ∀ p ∈ parts, p.Regular) :
    ∀ p ∈ trimParts parts, p.Regular := by
  intro p hp
  obtain ⟨q, hq, rfl | rfl⟩ := mem_trimParts hp
  · exact h p hq
  · exact (h q hq).trimmed

/-- The text of a document ends in a visible character. -/
theorem joinLines_trimParts_ne_nil {parts : List Part} (h : trimParts parts ≠ []) :
    joinLines ((trimParts parts).map Part.line) ≠ [] := by
  cases parts with
  | nil => exact absurd rfl h
  | cons p parts =>
    by_cases hnil : trimParts parts = []
    · rw [trimParts_cons_of_nil hnil] at h ⊢
      split
      · rename_i hblank
        rw [if_pos hblank] at h
        exact absurd rfl h
      · rename_i hline
        rw [List.map_singleton, joinLines_singleton]
        exact hline
    · obtain ⟨q, rest, hq⟩ := List.exists_cons_of_ne_nil hnil
      rw [trimParts_cons_of_ne_nil hnil, hq, List.map_cons, List.map_cons, joinLines_cons_cons]
      simp

theorem rdropWhile_append_cons {s t : List Char} (c : Char) (hc : isSpace c = true) :
    (s ++ c :: t).rdropWhile isSpace =
      if t.rdropWhile isSpace = [] then s.rdropWhile isSpace else s ++ c :: t.rdropWhile isSpace := by
  induction t using List.reverseRecOn with
  | nil =>
    rw [List.rdropWhile_concat_pos isSpace s c hc]
    simp
  | append_singleton t d ih =>
    have hshape : s ++ c :: (t ++ [d]) = (s ++ c :: t) ++ [d] := by simp
    rw [hshape]
    by_cases hd : isSpace d = true
    · rw [List.rdropWhile_concat_pos isSpace _ d hd, List.rdropWhile_concat_pos isSpace t d hd, ih]
    · rw [List.rdropWhile_concat_neg isSpace _ d hd, List.rdropWhile_concat_neg isSpace t d hd,
        if_neg (by simp), ← hshape]

/-- **The text of the parts, without the white space at its end.** -/
theorem joinLines_trimParts (parts : List Part) :
    joinLines ((trimParts parts).map Part.line) =
      (joinLines (parts.map Part.line)).rdropWhile isSpace := by
  induction parts with
  | nil => rfl
  | cons p parts ih =>
    cases parts with
    | nil =>
      rw [trimParts_cons_of_nil rfl, List.map_singleton, joinLines_singleton, ← Part.line_trimmed]
      split
      · rename_i hblank
        rw [hblank]
        rfl
      · rw [List.map_singleton, joinLines_singleton]
    | cons q parts =>
      have hsplit : joinLines ((p :: q :: parts).map Part.line) =
          p.line ++ '\n' :: joinLines ((q :: parts).map Part.line) := joinLines_cons_cons _ _ _
      rw [hsplit, rdropWhile_append_cons '\n' (by decide), ← ih]
      by_cases hnil : trimParts (q :: parts) = []
      · have hempty : joinLines (([] : List Part).map Part.line) = [] := rfl
        rw [trimParts_cons_of_nil hnil, hnil, ← Part.line_trimmed, if_pos hempty]
        split
        · rename_i hblank
          rw [hblank]
          rfl
        · rw [List.map_singleton, joinLines_singleton]
      · rw [trimParts_cons_of_ne_nil hnil, if_neg (joinLines_trimParts_ne_nil hnil)]
        obtain ⟨r, rest, hr⟩ := List.exists_cons_of_ne_nil hnil
        rw [hr]
        exact joinLines_cons_cons _ _ _

end PyData
