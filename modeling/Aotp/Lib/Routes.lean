import Aotp.Lib.Paths

/-!
# Normal paths

* `octets` — a text in UTF-8; `percentDecode` — `%XX` decoded, once.
* `removeDotSegments` — the `.` and `..` segments of an absolute path removed.
* `normalPath` — decoded, then without dot segments.
* `climb` — where a walk of segments ends: how far above its start, and below what.
* `foldl_enter` — a walk from a directory ends where its climb says.
* `normalPath_isPrefix_iff` — **a path that continues a directory normalises into that directory
  exactly where the continuation, walked on its own, goes back into what it climbed out of**.
-/

namespace PyData

/-! ### Decoding -/

/-- The octets of a text in UTF-8. -/
def octets (s : List Char) : List UInt8 := s.flatMap String.utf8EncodeChar

/-- The octet of `/`. -/
def slash : UInt8 := 47

/-- The octet of `%`. -/
def percent : UInt8 := 37

/-- The octet of `.`. -/
def dot : UInt8 := 46

/-- The value of a hexadecimal digit. -/
def hexValue (b : UInt8) : Option UInt8 :=
  if 48 ≤ b ∧ b ≤ 57 then some (b - 48)
  else if 65 ≤ b ∧ b ≤ 70 then some (b - 55)
  else if 97 ≤ b ∧ b ≤ 102 then some (b - 87)
  else none

/-- The octet two hexadecimal digits spell. -/
def hexOctet (high low : UInt8) : Option UInt8 :=
  match hexValue high, hexValue low with
  | some h, some l => some (16 * h + l)
  | _, _ => none

/-- The octet an escape stands for. -/
def escapedOctet (a b c : UInt8) : Option UInt8 := if a = percent then hexOctet b c else none

/-- Percent-decoding: a `%` that two digits do not follow stays. -/
def percentDecode : List UInt8 → List UInt8
  | [] => []
  | [a] => [a]
  | [a, b] => [a, b]
  | a :: b :: c :: rest =>
    match escapedOctet a b c with
    | some octet => octet :: percentDecode rest
    | none => a :: percentDecode (b :: c :: rest)

theorem octets_append (s t : List Char) : octets (s ++ t) = octets s ++ octets t :=
  List.flatMap_append

theorem octets_cons (c : Char) (s : List Char) :
    octets (c :: s) = String.utf8EncodeChar c ++ octets s :=
  List.flatMap_cons

@[simp] theorem octets_slash : octets ['/'] = [slash] := by decide

theorem percentDecode_cons_of_ne {a : UInt8} (ha : a ≠ percent) (l : List UInt8) :
    percentDecode (a :: l) = a :: percentDecode l := by
  match l with
  | [] => rfl
  | [b] => rfl
  | b :: c :: rest =>
    have hescape : escapedOctet a b c = none := if_neg ha
    simp only [percentDecode, hescape]

theorem hexOctet_slash_left (c : UInt8) : hexOctet slash c = none := by
  have hslash : hexValue slash = none := by decide
  simp only [hexOctet, hslash]

theorem hexOctet_slash_right (b : UInt8) : hexOctet b slash = none := by
  have hslash : hexValue slash = none := by decide
  unfold hexOctet
  rw [hslash]
  cases hexValue b <;> rfl

theorem escapedOctet_eq_none {a b c : UInt8} (h : hexOctet b c = none) :
    escapedOctet a b c = none := by
  unfold escapedOctet
  rw [h, ite_self]

/-- A slash is part of no escape, so both sides of it are decoded on their own. -/
theorem percentDecode_append_slash (l rest : List UInt8) :
    percentDecode (l ++ slash :: rest) = percentDecode l ++ slash :: percentDecode rest := by
  have hslash (rest : List UInt8) : percentDecode (slash :: rest) = slash :: percentDecode rest :=
    percentDecode_cons_of_ne (by decide) rest
  have hone (a : UInt8) (rest : List UInt8) :
      percentDecode (a :: slash :: rest) = a :: slash :: percentDecode rest := by
    cases rest with
    | nil => rfl
    | cons c rest =>
      rw [percentDecode, escapedOctet_eq_none (hexOctet_slash_left c)]
      rw [hslash]
  induction l using percentDecode.induct with
  | case1 => exact hslash rest
  | case2 a => exact hone a rest
  | case3 a b =>
    show percentDecode (a :: b :: slash :: rest) = a :: b :: slash :: percentDecode rest
    rw [percentDecode, escapedOctet_eq_none (hexOctet_slash_right b)]
    rw [hone]
  | case4 a b c l octet hoctet ih =>
    simp only [List.cons_append, percentDecode, hoctet]
    rw [ih]
  | case5 a b c l hnone ih =>
    simp only [List.cons_append, percentDecode, hnone]
    rw [List.cons_append, List.cons_append] at ih
    rw [ih]

/-! ### Dot segments -/

/-- Whether a segment is `.` or `..`. -/
def isDots (segment : List UInt8) : Bool := segment == [dot] || segment == [dot, dot]

/-- The directory a segment leads to: `.` stays, `..` goes back, a name goes down. -/
def enter (directory : List (List UInt8)) (segment : List UInt8) : List (List UInt8) :=
  if segment = [dot] then directory
  else if segment = [dot, dot] then directory.dropLast
  else directory ++ [segment]

/-- The segments that lead to a directory: a last segment does only where it is a dot segment. -/
def leading (segments : List (List UInt8)) : List (List UInt8) :=
  segments.dropLast ++ segments.getLast?.toList.filter isDots

/-- The name in the directory: the last segment, unless it is a dot segment. -/
def final (segments : List (List UInt8)) : List UInt8 :=
  (segments.getLast?.filter fun segment => !isDots segment).getD []

/-- A directory and a name in it, as an absolute path. -/
def pathText (directory : List (List UInt8)) (name : List UInt8) : List UInt8 :=
  slash :: (directory.flatMap (· ++ [slash]) ++ name)

/-- The segments of an absolute path. -/
def segments (path : List UInt8) : List (List UInt8) := (splitOnSep slash path).tail

/-- The directory an absolute path leads to. -/
def directoryOf (path : List UInt8) : List (List UInt8) := (leading (segments path)).foldl enter []

/-- An absolute path without its `.` and `..` segments. -/
def removeDotSegments (path : List UInt8) : List UInt8 :=
  pathText (directoryOf path) (final (segments path))

/-- A path decoded, then without dot segments. -/
def normalPath (path : List UInt8) : List UInt8 := removeDotSegments (percentDecode path)

/-! ### Walks -/

/-- Where a walk is, seen from its start: how many directories above it, and below which. -/
structure Climb where
  above : ℕ
  below : List (List UInt8)
  deriving DecidableEq, Repr

/-- One segment of a walk. -/
def Climb.enter (climb : Climb) (segment : List UInt8) : Climb :=
  if segment = [dot] then climb
  else if segment = [dot, dot] then
    if climb.below = [] then ⟨climb.above + 1, []⟩ else ⟨climb.above, climb.below.dropLast⟩
  else ⟨climb.above, climb.below ++ [segment]⟩

/-- The end of a walk. -/
def climb (segments : List (List UInt8)) : Climb := segments.foldl Climb.enter ⟨0, []⟩

/-- A position, from a start. -/
def Climb.seenFrom (climb : Climb) (start : List (List UInt8)) : List (List UInt8) :=
  start.take (start.length - climb.above) ++ climb.below

theorem enter_seenFrom (climb : Climb) (start : List (List UInt8)) (segment : List UInt8) :
    PyData.enter (climb.seenFrom start) segment = (climb.enter segment).seenFrom start := by
  unfold PyData.enter Climb.enter
  by_cases hdot : segment = [dot]
  · rw [if_pos hdot, if_pos hdot]
  · rw [if_neg hdot, if_neg hdot]
    by_cases hdots : segment = [dot, dot]
    · rw [if_pos hdots, if_pos hdots]
      unfold Climb.seenFrom
      by_cases hbelow : climb.below = []
      · -- above its start, or at it, a walk goes one directory further up
        rw [if_pos hbelow, hbelow, List.append_nil, List.append_nil, List.dropLast_eq_take,
          List.take_take, List.length_take]
        congr 1
        show min _ _ = start.length - (climb.above + 1)
        omega
      · rw [if_neg hbelow]
        exact List.dropLast_append_of_ne_nil hbelow
    · rw [if_neg hdots, if_neg hdots]
      exact List.append_assoc ..

/-- **A walk from a directory ends where its climb says.** -/
theorem foldl_enter (start segments : List (List UInt8)) :
    segments.foldl enter start = (climb segments).seenFrom start := by
  have hrun (c : Climb) :
      segments.foldl enter (c.seenFrom start) = (segments.foldl Climb.enter c).seenFrom start := by
    induction segments generalizing c with
    | nil => rfl
    | cons segment segments ih =>
      rw [List.foldl_cons, List.foldl_cons, enter_seenFrom]
      exact ih (c.enter segment)
  have hstart : (⟨0, []⟩ : Climb).seenFrom start = start := by
    unfold Climb.seenFrom
    rw [Nat.sub_zero, List.take_length, List.append_nil]
  unfold climb
  rw [← hrun ⟨0, []⟩, hstart]

/-- A walk goes back into what it climbed out of, when there is anything. -/
def Climb.Returns (climb : Climb) (start : List (List UInt8)) : Prop :=
  start.drop (start.length - climb.above) <+: climb.below

instance (climb : Climb) (start : List (List UInt8)) : Decidable (climb.Returns start) :=
  inferInstanceAs (Decidable (_ <+: _))

/-- A walk that never climbs above its start goes back into it. -/
theorem Climb.returns_of_above_eq_zero {climb : Climb} {start : List (List UInt8)}
    (h : climb.above = 0) : climb.Returns start := by
  unfold Climb.Returns
  rw [h, Nat.sub_zero, List.drop_length]
  exact List.nil_prefix

theorem Climb.isPrefix_seenFrom {climb : Climb} {start : List (List UInt8)} :
    start <+: climb.seenFrom start ↔ climb.Returns start := by
  have hcancel : start.take (start.length - climb.above) ++
      start.drop (start.length - climb.above) <+:
        start.take (start.length - climb.above) ++ climb.below ↔
      start.drop (start.length - climb.above) <+: climb.below :=
    List.prefix_append_right_inj _
  rwa [List.take_append_drop] at hcancel

/-! ### Paths in a directory -/

theorem slash_not_mem_of_mem_foldl_enter {start segments : List (List UInt8)}
    (hstart : ∀ part ∈ start, slash ∉ part) (hsegments : ∀ part ∈ segments, slash ∉ part) :
    ∀ part ∈ segments.foldl enter start, slash ∉ part := by
  induction segments generalizing start with
  | nil => exact hstart
  | cons segment segments ih =>
    rw [List.foldl_cons]
    apply ih ?_ fun part hpart => hsegments part (List.mem_cons_of_mem _ hpart)
    intro part hpart
    unfold enter at hpart
    split at hpart
    · exact hstart part hpart
    · split at hpart
      · exact hstart part (List.dropLast_subset _ hpart)
      · rcases List.mem_append.mp hpart with hpart | hpart
        · exact hstart part hpart
        · rw [List.mem_singleton.mp hpart]
          exact hsegments segment (List.mem_cons_self ..)

/-- Names that a slash closes are read off the text one by one. -/
theorem append_slash_isPrefix {name other rest tail : List UInt8} (hname : slash ∉ name)
    (hother : slash ∉ other) :
    name ++ slash :: rest <+: other ++ slash :: tail ↔ name = other ∧ rest <+: tail := by
  induction name generalizing other with
  | nil =>
    cases other with
    | nil => simp
    | cons b other =>
      rw [List.mem_cons, not_or] at hother
      simp [hother.1]
  | cons a name ih =>
    rw [List.mem_cons, not_or] at hname
    cases other with
    | nil => simp [Ne.symm hname.1]
    | cons b other =>
      rw [List.mem_cons, not_or] at hother
      rw [List.cons_append, List.cons_append, List.cons_prefix_cons, ih hname.2 hother.2,
        List.cons.injEq, and_assoc]

theorem not_append_slash_isPrefix {name rest other : List UInt8} (hother : slash ∉ other) :
    ¬ name ++ slash :: rest <+: other := by
  intro h
  apply hother
  apply h.subset
  exact List.mem_append_right _ (List.mem_cons_self ..)

/-- **A path is in a directory exactly where its own directory is below it.** -/
theorem pathText_isPrefix {start directory : List (List UInt8)} {name : List UInt8}
    (hstart : ∀ part ∈ start, slash ∉ part) (hdirectory : ∀ part ∈ directory, slash ∉ part)
    (hname : slash ∉ name) :
    pathText start [] <+: pathText directory name ↔ start <+: directory := by
  unfold pathText
  rw [List.cons_prefix_cons, List.append_nil]
  simp only [true_and]
  induction start generalizing directory with
  | nil => simp
  | cons part start ih =>
    rw [List.forall_mem_cons] at hstart
    rw [List.flatMap_cons, List.append_assoc, List.singleton_append]
    cases directory with
    | nil =>
      rw [List.flatMap_nil, List.nil_append]
      simp [not_append_slash_isPrefix hname]
    | cons other directory =>
      rw [List.forall_mem_cons] at hdirectory
      rw [List.flatMap_cons, List.append_assoc, List.append_assoc, List.singleton_append,
        append_slash_isPrefix hstart.1 hdirectory.1, List.cons_prefix_cons,
        ih hstart.2 hdirectory.2]

/-! ### Continuations -/

theorem leading_append {a b : List (List UInt8)} (hb : b ≠ []) :
    leading (a ++ b) = a ++ leading b := by
  unfold leading
  rw [List.dropLast_append_of_ne_nil hb, List.getLast?_append_of_ne_nil a hb, List.append_assoc]

theorem final_append {a b : List (List UInt8)} (hb : b ≠ []) : final (a ++ b) = final b := by
  unfold final
  rw [List.getLast?_append_of_ne_nil a hb]

theorem mem_of_mem_leading {segments : List (List UInt8)} {part : List UInt8}
    (hpart : part ∈ leading segments) : part ∈ segments := by
  rcases List.mem_append.mp hpart with hpart | hpart
  · exact List.dropLast_subset _ hpart
  · have hlast := (List.mem_filter.mp hpart).1
    exact List.mem_of_getLast? (Option.mem_toList.mp hlast)

theorem slash_not_mem_directoryOf (path : List UInt8) : ∀ part ∈ directoryOf path, slash ∉ part := by
  apply slash_not_mem_of_mem_foldl_enter
  · intro part hpart
    exact absurd hpart List.not_mem_nil
  · intro part hpart
    exact not_mem_of_mem_splitOnSep (List.mem_of_mem_tail (mem_of_mem_leading hpart))

theorem slash_not_mem_final (path : List UInt8) : slash ∉ final (segments path) := by
  unfold final
  cases hlast : (segments path).getLast? with
  | none => exact List.not_mem_nil
  | some last =>
    have hmem : last ∈ splitOnSep slash path := List.mem_of_mem_tail (List.mem_of_getLast? hlast)
    rw [Option.filter_some]
    split
    · exact not_mem_of_mem_splitOnSep hmem
    · exact List.not_mem_nil

/-- The segments of a path that continues a directory. -/
theorem segments_append (start rest : List UInt8) :
    segments (start ++ slash :: rest) = segments start ++ splitOnSep slash rest := by
  unfold segments
  rw [splitOnSep_append_sep, List.tail_append_of_ne_nil (splitOnSep_ne_nil slash start)]

/-- How a continuation walks, decoded. -/
def climbOf (rest : List UInt8) : Climb := climb (leading (splitOnSep slash (percentDecode rest)))

/-- The directory of a path that continues another is where the continuation walks from there. -/
theorem directoryOf_append (start rest : List UInt8) :
    directoryOf (start ++ slash :: rest) =
      (climb (leading (splitOnSep slash rest))).seenFrom (directoryOf (start ++ [slash])) := by
  have hstart : directoryOf (start ++ [slash]) = (segments start).foldl enter [] := by
    unfold directoryOf
    rw [segments_append]
    have hnil : leading (splitOnSep slash ([] : List UInt8)) = [] := by decide
    rw [leading_append (splitOnSep_ne_nil _ _), hnil, List.append_nil]
  rw [hstart]
  unfold directoryOf
  rw [segments_append, leading_append (splitOnSep_ne_nil _ _), List.foldl_append, foldl_enter]

theorem final_directory (start : List UInt8) : final (segments (start ++ [slash])) = [] := by
  have hnil : final (splitOnSep slash ([] : List UInt8)) = [] := by decide
  rw [segments_append, final_append (splitOnSep_ne_nil _ _), hnil]

/-- **A path that continues a directory normalises into that directory exactly where the
continuation, walked on its own, goes back into what it climbed out of.** -/
theorem normalPath_isPrefix_iff (start rest : List UInt8) :
    normalPath (start ++ [slash]) <+: normalPath (start ++ slash :: rest) ↔
      (climbOf rest).Returns (directoryOf (percentDecode (start ++ [slash]))) := by
  have hdirectory : percentDecode (start ++ [slash]) = percentDecode start ++ [slash] :=
    percentDecode_append_slash start []
  unfold normalPath removeDotSegments climbOf
  rw [percentDecode_append_slash start rest, hdirectory, final_directory]
  rw [pathText_isPrefix (slash_not_mem_directoryOf _) (slash_not_mem_directoryOf _)
    (slash_not_mem_final _)]
  rw [directoryOf_append (percentDecode start) (percentDecode rest)]
  exact Climb.isPrefix_seenFrom

/-! ### Plain paths -/

/-- An absolute path without escapes and dot segments. -/
structure PlainPath (path : List UInt8) : Prop where
  absolute : path.head? = some slash
  no_escape : percent ∉ path
  no_dots : ∀ segment ∈ segments path, isDots segment = false

theorem percentDecode_plain {l : List UInt8} (h : percent ∉ l) : percentDecode l = l := by
  induction l with
  | nil => rfl
  | cons a l ih =>
    rw [List.mem_cons, not_or] at h
    rw [percentDecode_cons_of_ne (Ne.symm h.1), ih h.2]

theorem foldl_enter_names {start segments : List (List UInt8)}
    (h : ∀ segment ∈ segments, isDots segment = false) :
    segments.foldl enter start = start ++ segments := by
  induction segments generalizing start with
  | nil => rw [List.foldl_nil, List.append_nil]
  | cons segment segments ih =>
    rw [List.forall_mem_cons] at h
    have hname := h.1
    simp only [isDots, Bool.or_eq_false_iff, beq_eq_false_iff_ne] at hname
    have henter : enter start segment = start ++ [segment] := by
      unfold enter
      rw [if_neg hname.1, if_neg hname.2]
    rw [List.foldl_cons, henter, ih h.2, List.append_assoc, List.singleton_append]

/-- Directories and a name, written out, are the segments joined by slashes. -/
theorem flatMap_append_last (init : List (List UInt8)) (last : List UInt8) :
    init.flatMap (· ++ [slash]) ++ last = List.intercalate [slash] (init ++ [last]) := by
  induction init with
  | nil => simp [List.intercalate]
  | cons part init ih =>
    rw [List.flatMap_cons, List.append_assoc, ih, List.cons_append,
      List.intercalate_cons_of_ne_nil (by simp)]

/-- **A plain path is normal.** -/
theorem normalPath_plain {path : List UInt8} (h : PlainPath path) : normalPath path = path := by
  obtain ⟨rest, rfl⟩ : ∃ rest, path = slash :: rest := by
    cases path with
    | nil => exact absurd h.absolute (by simp)
    | cons a rest =>
      have ha : a = slash := by simpa using h.absolute
      exact ⟨rest, by rw [ha]⟩
  have hsegments : segments (slash :: rest) = splitOnSep slash rest := by
    unfold segments
    rw [splitOnSep_cons_sep, List.tail_cons]
  obtain ⟨init, last, hsplit⟩ : ∃ init last, splitOnSep slash rest = init ++ [last] :=
    ⟨_, _, (List.dropLast_append_getLast (splitOnSep_ne_nil slash rest)).symm⟩
  have hdots := h.no_dots
  rw [hsegments, hsplit] at hdots
  have hlast : isDots last = false := hdots last (by simp)
  have hleading : leading (init ++ [last]) = init := by
    unfold leading
    rw [List.dropLast_concat, List.getLast?_concat]
    simp [hlast]
  have hfinal : final (init ++ [last]) = last := by
    unfold final
    rw [List.getLast?_concat]
    simp [Option.filter_some, hlast]
  unfold normalPath removeDotSegments directoryOf
  rw [percentDecode_plain h.no_escape, hsegments, hsplit, hleading, hfinal,
    foldl_enter_names fun segment hsegment => hdots segment (List.mem_append_left _ hsegment)]
  unfold pathText
  rw [List.nil_append, flatMap_append_last, ← hsplit, intercalate_splitOnSep]

end PyData
