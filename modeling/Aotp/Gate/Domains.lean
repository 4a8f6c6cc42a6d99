import Aotp.Gate.Containment
import Aotp.Lib.Paths

/-!
# Domains and their patterns, label by label

The gate compares texts: a domain passes a wildcard pattern when its text ends with a dot and the
text behind the wildcard. What is meant is the domain's labels.

* `labels`, `IsHostname` — the labels of a domain name, and what makes them those of a host.
* `MatchesLabels` — the pattern names the domain, label by label.
* `domainAllowed_exact_iff` — the gate accepts what the labels say exactly when the domain is a
  hostname, or its text is not accepted at all.
-/

namespace Aotp.Gate

open PyData

/-! ### Labels -/

/-- The labels of a domain name. -/
def labels (s : List Char) : List (List Char) := splitOnSep '.' s

/-- A character of a label: an ASCII letter in lower case, a digit or a hyphen. -/
def isLabelChar (c : Char) : Bool := isLowerChar c || isDigitChar c || c == '-'

/-- A label of a hostname: up to 63 such characters, with no hyphen at either end. -/
def isLabel (l : List Char) : Bool :=
  !l.isEmpty && decide (l.length ≤ 63) && l.all isLabelChar && l.head? != some '-' &&
    l.getLast? != some '-'

/-- A name whose labels are those of a host. -/
def IsHostname (s : List Char) : Prop := ∀ l ∈ labels s, isLabel l = true

theorem labels_ne_nil (s : List Char) : labels s ≠ [] := splitOnSep_ne_nil '.' s

/-- The labels of two names with a dot between them. -/
theorem labels_append (s t : List Char) : labels (s ++ '.' :: t) = labels s ++ labels t := by
  unfold labels
  induction s with
  | nil =>
    rw [List.nil_append, splitOnSep]
    cases ht : splitOnSep '.' t with
    | nil => exact absurd ht (splitOnSep_ne_nil '.' t)
    | cons x xs => simp [splitOnSep, ht]
  | cons c s ih =>
    rw [List.cons_append, splitOnSep, ih, splitOnSep]
    cases hs : splitOnSep '.' s with
    | nil => exact absurd hs (splitOnSep_ne_nil '.' s)
    | cons x xs => by_cases hc : c = '.' <;> simp [hc]

/-- A name is its labels with dots between them. -/
theorem intercalate_labels (s : List Char) : List.intercalate ['.'] (labels s) = s :=
  intercalate_splitOnSep '.' s

theorem labels_injective {s t : List Char} (h : labels s = labels t) : s = t := by
  rw [← intercalate_labels s, ← intercalate_labels t, h]

theorem intercalate_dots {xs ys : List (List Char)} (hx : xs ≠ []) (hy : ys ≠ []) :
    List.intercalate ['.'] (xs ++ ys) =
      List.intercalate ['.'] xs ++ '.' :: List.intercalate ['.'] ys := by
  induction xs with
  | nil => exact absurd rfl hx
  | cons x xs ih =>
    cases xs with
    | nil =>
      obtain ⟨y, ys, rfl⟩ := List.exists_cons_of_ne_nil hy
      rw [List.singleton_append, List.intercalate_cons_cons]
      simp [List.intercalate]
    | cons x' xs =>
      rw [List.cons_append, List.cons_append, List.intercalate_cons_cons,
        List.intercalate_cons_cons, ← List.cons_append, ih (List.cons_ne_nil _ _)]
      simp

/-- A text ends with a dot and another name exactly when its labels properly extend those of the
name on the left. -/
theorem extends_iff {s t : List Char} :
    (∃ l, s = l ++ '.' :: t) ↔ ∃ more, more ≠ [] ∧ labels s = more ++ labels t := by
  constructor
  · rintro ⟨l, rfl⟩
    exact ⟨labels l, labels_ne_nil l, labels_append l t⟩
  · rintro ⟨more, hmore, hlabels⟩
    refine ⟨List.intercalate ['.'] more, ?_⟩
    rw [← intercalate_labels s, hlabels, intercalate_dots hmore (labels_ne_nil t),
      intercalate_labels t]

/-! ### Patterns -/

section

variable (rt : Runtime)

/-- A pattern names a domain: it is a wildcard, and the domain's labels properly extend those behind
it; or the labels are the same. -/
def NamesLabels (pattern domain : String) : Prop :=
  match (domainName rt pattern).toList with
  | '*' :: '.' :: parent => ∃ more, more ≠ [] ∧
      labels (domainName rt domain).toList = more ++ labels parent
  | exact => labels (domainName rt domain).toList = labels exact

/-- A hostname that one of the patterns names. -/
def MatchesLabels (domain : String) (patterns : List String) : Prop :=
  IsHostname (domainName rt domain).toList ∧ ∃ p ∈ patterns, NamesLabels rt p domain

variable {rt} {domain pattern : String} {patterns : List String}

/-- A wildcard is no label. -/
theorem not_hostname_wildcard (parent : List Char) : ¬ IsHostname ('*' :: '.' :: parent) := by
  intro h
  have hlabels : labels ('*' :: '.' :: parent) = ['*'] :: labels parent :=
    labels_append ['*'] parent
  have hstar := h ['*'] (by rw [hlabels]; exact List.mem_cons_self)
  exact absurd hstar (by decide)

/-- For a hostname the texts and the labels say the same. -/
theorem covers_iff_names (h : IsHostname (domainName rt domain).toList) :
    Covers rt pattern domain ↔ NamesLabels rt pattern domain := by
  unfold Covers NamesLabels
  split
  · rename_i parent hparent
    rw [hparent, ← extends_iff]
    constructor
    · rintro (hsame | ⟨label, parent', hparent', hdomain⟩)
      · rw [hsame, hparent] at h
        exact absurd h (not_hostname_wildcard parent)
      · obtain rfl : parent = parent' := by simpa using hparent'
        exact ⟨label, hdomain⟩
    · rintro ⟨label, hdomain⟩
      exact .inr ⟨label, parent, rfl, hdomain⟩
  · rename_i hexact
    constructor
    · rintro (hsame | ⟨label, parent, hparent, -⟩)
      · rw [hsame]
      · exact absurd hparent (hexact parent)
    · intro hlabels
      exact .inl (String.toList_injective (labels_injective hlabels))

/-- **Domain matching is exact** exactly when the domain, lower-cased and without trailing dots, is a
hostname, or its text is covered by no pattern. -/
theorem domainAllowed_exact_iff :
    (domainAllowed rt domain patterns = true ↔ MatchesLabels rt domain patterns) ↔
      IsHostname (domainName rt domain).toList ∨ ∀ p ∈ patterns, ¬ Covers rt p domain := by
  rw [domainAllowed_iff]
  by_cases hhost : IsHostname (domainName rt domain).toList
  · have hsame : (∃ p ∈ patterns, Covers rt p domain) ↔ MatchesLabels rt domain patterns := by
      simp only [MatchesLabels, hhost, true_and, covers_iff_names hhost]
    exact iff_of_true hsame (.inl hhost)
  · have hnone : ¬ MatchesLabels rt domain patterns := fun h => hhost h.1
    simp only [hnone, iff_false, hhost, false_or, not_exists, not_and]

end

/-! ### A path in front of the domain -/

/-- The library lower-cases ASCII texts. -/
def domainRuntime : Runtime where
  lower s := String.ofList (s.toList.map Char.toLower)
  floatRepr _ := "0.0"
  containerRepr _ := "[]"
  isWordChar _ := false
  fromIsoFormat _ := .invalid
  dateFromIsoFormat _ := none
  intOfText _ := none
  sha256 _ := String.ofList (List.replicate 64 '0')
  sha256_hex _ := zeroDigest_hex

/-- **What is no hostname passes a wildcard.** -/
theorem path_allowed : ¬ ∀ (rt : Runtime) (domain : String) (patterns : List String),
    domainAllowed rt domain patterns = true ↔ MatchesLabels rt domain patterns := by
  intro hall
  have hallowed : domainAllowed domainRuntime "evil.test/.example.invalid" ["*.example.invalid"] =
    true := by decide
  obtain ⟨hhost, -⟩ := (hall domainRuntime _ _).mp hallowed
  have hlabel : ∃ l ∈ labels (domainName domainRuntime "evil.test/.example.invalid").toList,
      isLabel l = false := ⟨"test/".toList, by decide, by decide⟩
  obtain ⟨l, hl, hnot⟩ := hlabel
  exact absurd (hhost l hl) (by simp [hnot])

end Aotp.Gate
