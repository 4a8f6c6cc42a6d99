import Aotp.Gate.Redaction
import Aotp.Lib.SortedValues

/-!
# Texts the redactor has nothing to say about

* `leads` — how a match of a secret pattern begins, letter case aside; an e-mail address needs `@`.
* `quiet`, `run_of_quiet` — **no pattern matches anywhere** in a text without any of them.
* `quietValue`, `assertValueRedacted_of_quiet` — a value made of such texts passes the redactor.
* `quiet_dumpChars` — **a value made of such texts is written as one**, where nothing is escaped.
-/

namespace Aotp.Gate

open PyData

variable {rt : Runtime} {word : Char → Bool}

/-! ### How a match begins -/

/-- The code of a character, letter case aside. -/
def code (c : Char) : ℕ := (fold c).toNat

/-- The beginnings of the patterns, as texts. -/
def leadTexts : List String :=
  ["akia", "api", "token", "bearer", "cookie", "set-cookie", "session", "sid", "-----begin ", "gh",
    "eyj", "basic", "password", "passwd", "pwd"]

/-- The beginnings of the patterns, as codes. -/
def leads : List (List ℕ) :=
  [[97, 107, 105, 97], [97, 112, 105], [116, 111, 107, 101, 110], [98, 101, 97, 114, 101, 114],
    [99, 111, 111, 107, 105, 101], [115, 101, 116, 45, 99, 111, 111, 107, 105, 101],
    [115, 101, 115, 115, 105, 111, 110], [115, 105, 100],
    [45, 45, 45, 45, 45, 98, 101, 103, 105, 110, 32], [103, 104], [101, 121, 106],
    [98, 97, 115, 105, 99], [112, 97, 115, 115, 119, 111, 114, 100], [112, 97, 115, 115, 119, 100],
    [112, 119, 100]]

theorem leads_eq : leads = leadTexts.map fun s => s.toList.map code := by decide

/-- What matches at a position begins with a word. -/
def Begins (e : Re) (w : List ℕ) : Prop :=
  ∀ word pos, e.run word pos ≠ [] → w <+: pos.2.map code

/-- What matches at a position begins with one of the leads. -/
def Led (e : Re) : Prop := ∀ word pos, e.run word pos ≠ [] → ∃ w ∈ leads, w <+: pos.2.map code

theorem Begins.led {e : Re} {w : List ℕ} (h : Begins e w) (hw : w ∈ leads) : Led e :=
  fun word pos hrun => ⟨w, hw, h word pos hrun⟩

theorem run_seq_ne_nil {a b : Re} {pos : Pos} (h : (Re.seq a b).run word pos ≠ []) :
    ∃ q ∈ a.run word pos, b.run word q ≠ [] := by
  by_contra hnone
  apply h
  simp only [Re.run, List.flatMap_eq_nil_iff]
  intro q hq
  by_contra hrest
  exact hnone ⟨q, hq, hrest⟩

theorem Begins.seq {a b : Re} {w : List ℕ} (h : Begins a w) : Begins (.seq a b) w := by
  intro word pos hrun
  obtain ⟨q, hq, -⟩ := run_seq_ne_nil hrun
  exact h word pos (List.ne_nil_of_mem hq)

theorem Led.seq {a b : Re} (h : Led a) : Led (.seq a b) := by
  intro word pos hrun
  obtain ⟨q, hq, -⟩ := run_seq_ne_nil hrun
  exact h word pos (List.ne_nil_of_mem hq)

theorem Led.alt {a b : Re} (ha : Led a) (hb : Led b) : Led (.alt a b) := by
  intro word pos hrun
  by_cases hleft : a.run word pos = []
  · refine hb word pos fun hright => hrun ?_
    simp [Re.run, hleft, hright]
  · exact ha word pos hleft

/-- A word boundary consumes nothing. -/
theorem Led.boundary {e : Re} (h : Led e) : Led (.seq .wordBoundary e) := by
  intro word pos hrun
  obtain ⟨q, hq, hrest⟩ := run_seq_ne_nil hrun
  obtain ⟨prev, cs⟩ := pos
  have hsame : q = (prev, cs) := by
    simp only [Re.run] at hq
    split at hq <;> simp_all
  subst hsame
  exact h word _ hrest

theorem mem_run_cls {p : Char → Bool} {prev : Option Char} {x : Char} {cs : List Char} {q : Pos} :
    q ∈ (Re.cls p).run word (prev, x :: cs) ↔ p x = true ∧ q = (some x, cs) := by
  simp only [Re.run]
  split <;> simp_all

/-- A literal text begins with itself. -/
theorem begins_litRe (ci : Bool) (s : String) (hfold : ci = true → ∀ c ∈ s.toList, fold c = c) :
    Begins (litRe ci s) (s.toList.map code) := by
  unfold litRe
  generalize s.toList = l at hfold ⊢
  induction l with
  | nil => exact fun _ _ _ => List.nil_prefix
  | cons c l ih =>
    rintro word ⟨prev, cs⟩ hrun
    obtain ⟨q, hq, hrest⟩ := run_seq_ne_nil hrun
    cases cs with
    | nil => simp [Re.run] at hq
    | cons x cs =>
      obtain ⟨hx, rfl⟩ := mem_run_cls.mp hq
      have hcode : code c = code x := by
        unfold code
        cases ci with
        | true =>
          have hfx : fold x = c := by simpa using hx
          rw [hfx, hfold rfl c List.mem_cons_self]
        | false =>
          have hxc : x = c := by simpa using hx
          rw [hxc]
      have htail := ih (fun hci d hd => hfold hci d (List.mem_cons_of_mem _ hd)) word _ hrest
      rw [List.map_cons, List.map_cons, hcode]
      exact (List.prefix_cons_inj _).mpr htail

/-! ### The patterns -/

theorem led_litRe (ci : Bool) (s : String)
    (hfold : (s.toList.all fun c => fold c == c || !ci) = true)
    (hmem : leads.elem (s.toList.map code) = true) : Led (litRe ci s) := by
  refine (begins_litRe ci s fun hci c hc => ?_).led (List.elem_iff.mp hmem)
  have hall := List.all_eq_true.mp hfold c hc
  simpa [hci] using hall

/-- Every pattern but the one of e-mail addresses begins with a lead. -/
theorem led_of_mem {p : String × Re} (hp : p ∈ patterns) (hne : p.1 ≠ "email_address") :
    Led p.2 := by
  simp only [patterns, List.mem_cons, List.not_mem_nil, or_false] at hp
  rcases hp with rfl | rfl | rfl | rfl | rfl | rfl | rfl | rfl | rfl | rfl | rfl
  · exact (led_litRe false "AKIA" (by decide) (by decide)).seq.boundary
  · exact ((led_litRe true "api" (by decide) (by decide)).seq.alt
      (led_litRe true "token" (by decide) (by decide))).seq.boundary
  · exact (led_litRe true "bearer" (by decide) (by decide)).seq.boundary
  · exact ((led_litRe true "cookie" (by decide) (by decide)).alt
      (led_litRe true "set-cookie" (by decide) (by decide))).seq.boundary
  · exact ((led_litRe true "session" (by decide) (by decide)).seq.alt
      (led_litRe true "sid" (by decide) (by decide))).seq.boundary
  · exact (led_litRe false "-----BEGIN " (by decide) (by decide)).seq
  · exact absurd rfl hne
  · exact (led_litRe false "gh" (by decide) (by decide)).seq.boundary
  · exact (led_litRe false "eyJ" (by decide) (by decide)).seq.boundary
  · exact (led_litRe true "basic" (by decide) (by decide)).seq.boundary
  · exact ((led_litRe true "password" (by decide) (by decide)).alt
      ((led_litRe true "passwd" (by decide) (by decide)).alt
        (led_litRe true "pwd" (by decide) (by decide)))).seq.boundary

theorem greedy_suffix {p : Char → Bool} {lo : ℕ} {hi : Option ℕ} {prev : Option Char}
    {cs : List Char} {q : Pos} (h : q ∈ greedy p lo hi prev cs) : q.2 <:+ cs := by
  induction cs generalizing lo hi prev with
  | nil =>
    unfold greedy at h
    split at h
    · obtain rfl := List.mem_singleton.mp h
      exact List.suffix_refl _
    · cases h
  | cons c cs ih =>
    have hhere : ∀ q ∈ (if lo = 0 then [(prev, c :: cs)] else [] : List Pos), q.2 <:+ c :: cs := by
      intro q hq
      split at hq
      · obtain rfl := List.mem_singleton.mp hq
        exact List.suffix_refl _
      · cases hq
    rw [greedy] at h
    by_cases hgo : (p c && hi != some 0) = true
    · rw [if_pos hgo, List.mem_append] at h
      rcases h with h | h
      · exact (ih h).trans (List.suffix_cons c cs)
      · exact hhere q h
    · rw [if_neg hgo] at h
      exact hhere q h

/-- An e-mail address holds an `@`. -/
theorem at_of_email {pos : Pos} (h : (seqRe [.wordBoundary, atLeast 1 (anyCase (alnumOr "._%+-")),
    .cls (· == '@'), atLeast 1 (anyCase (alnumOr ".-")), .cls (· == '.'),
    atLeast 2 (anyCase isLowerChar), .wordBoundary]).run word pos ≠ []) : '@' ∈ pos.2 := by
  obtain ⟨⟨prev, cs⟩, hq, h⟩ := run_seq_ne_nil h
  obtain ⟨⟨prev', cs'⟩, hq', h⟩ := run_seq_ne_nil h
  obtain ⟨q'', hq'', -⟩ := run_seq_ne_nil h
  have hsame : cs = pos.2 := by
    obtain ⟨prev₀, cs₀⟩ := pos
    simp only [Re.run] at hq
    split at hq <;> simp_all
  have hsuffix : cs' <:+ cs := greedy_suffix hq'
  cases cs' with
  | nil => simp [Re.run] at hq''
  | cons x rest =>
    obtain ⟨hx, -⟩ := mem_run_cls.mp hq''
    obtain rfl : x = '@' := by simpa using hx
    rw [← hsame]
    exact hsuffix.subset List.mem_cons_self

/-! ### Quiet texts -/

/-- No lead occurs among the codes. -/
def leadless : List ℕ → Bool
  | [] => true
  | c :: cs => !(leads.any fun w => w.isPrefixOf (c :: cs)) && leadless cs

/-- A text in which no pattern can begin. -/
def quiet (text : List Char) : Bool := !(text.map code).contains 64 && leadless (text.map code)

theorem not_prefix_of_leadless {cs t : List ℕ} (h : leadless cs = true) (ht : t <:+ cs)
    {w : List ℕ} (hw : w ∈ leads) : ¬ w <+: t := by
  induction cs with
  | nil =>
    rw [List.suffix_nil.mp ht]
    intro hstart
    have hne : ∀ w ∈ leads, w ≠ [] := by decide
    exact hne w hw (List.prefix_nil.mp hstart)
  | cons c cs ih =>
    simp only [leadless, Bool.and_eq_true, Bool.not_eq_true'] at h
    rcases List.suffix_cons_iff.mp ht with rfl | ht
    · intro hstart
      have hnone := List.any_eq_false.mp h.1 w hw
      exact hnone (List.isPrefixOf_iff_prefix.mpr hstart)
    · exact ih h.2 ht

/-- **No pattern matches anywhere in a quiet text.** -/
theorem run_of_quiet {text t : List Char} (h : quiet text = true) (ht : t <:+ text)
    {p : String × Re} (hp : p ∈ patterns) (prev : Option Char) : p.2.run word (prev, t) = [] := by
  simp only [quiet, Bool.and_eq_true, Bool.not_eq_true'] at h
  by_contra hrun
  by_cases hemail : p.1 = "email_address"
  · have hat : '@' ∈ t := by
      simp only [patterns, List.mem_cons, List.not_mem_nil, or_false] at hp
      rcases hp with rfl | rfl | rfl | rfl | rfl | rfl | rfl | rfl | rfl | rfl | rfl
      all_goals first | exact absurd hemail (by decide) | exact at_of_email hrun
    have hcode : 64 ∈ text.map code := List.mem_map.mpr ⟨'@', ht.subset hat, by decide⟩
    rw [← List.contains_iff_mem] at hcode
    rw [hcode] at h
    cases h.1
  · obtain ⟨w, hw, hstart⟩ := led_of_mem hp hemail word _ hrun
    exact not_prefix_of_leadless h.2 (ht.map code) hw hstart

theorem searchFrom_of_quiet {text t : List Char} (h : quiet text = true) (ht : t <:+ text)
    {p : String × Re} (hp : p ∈ patterns) (prev : Option Char) :
    p.2.searchFrom word prev t = false := by
  induction t generalizing prev with
  | nil =>
    unfold Re.searchFrom
    rw [run_of_quiet h ht hp]
    rfl
  | cons c cs ih =>
    unfold Re.searchFrom
    rw [run_of_quiet h ht hp, ih ((List.suffix_cons c cs).trans ht)]
    rfl

theorem finditerFrom_of_quiet {text t : List Char} (h : quiet text = true) (ht : t <:+ text)
    {p : String × Re} (hp : p ∈ patterns) (fuel : ℕ) (prev : Option Char) :
    p.2.finditerFrom word fuel (prev, t) = [] := by
  induction fuel generalizing t prev with
  | zero => rfl
  | succ fuel ih =>
    cases t with
    | nil => rfl
    | cons c cs =>
      unfold Re.finditerFrom
      rw [run_of_quiet h ht hp]
      exact ih ((List.suffix_cons c cs).trans ht) _

theorem findings_of_quiet {text : String} (h : quiet text.toList = true) :
    findings rt text = [] := by
  have hnone : (patterns.filter fun p => p.2.search (isWord rt) text) = [] :=
    List.filter_eq_nil_iff.mpr fun p hp => by
      unfold Re.search
      rw [searchFrom_of_quiet h (List.suffix_refl _) hp]
      exact Bool.false_ne_true
  unfold findings
  rw [hnone]
  rfl

theorem assertRedacted_of_quiet {text : String} (h : quiet text.toList = true) :
    assertRedacted rt text = .ok () := by
  unfold assertRedacted
  rw [findings_of_quiet h]
  rfl

theorem scanText_of_quiet {text path : String} (h : quiet text.toList = true) :
    scanText rt text path = [] := by
  unfold scanText
  rw [List.flatMap_eq_nil_iff]
  intro p hp
  unfold Re.finditer
  rw [finditerFrom_of_quiet h (List.suffix_refl _) hp]
  rfl

/-! ### Quiet values -/

/-- Source: `redaction._sensitive_key`, the suffixes that announce a secret -/
def secretSuffixes : List String :=
  ["_access_token", "_client_secret", "_cookie_value", "_credential", "_password", "_private_key",
    "_private_key_material", "_raw_cookie", "_raw_token", "_refresh_token", "_secret",
    "_secret_key", "_session_cookie", "_token_value"]

/-- The sensitive field names, as codes. -/
def sensitiveCodes : List (List ℕ) :=
  [[97, 99, 99, 101, 115, 115, 95, 116, 111, 107, 101, 110], [97, 112, 105, 95, 107, 101, 121],
    [97, 117, 116, 104, 111, 114, 105, 122, 97, 116, 105, 111, 110], [98, 101, 97, 114, 101, 114],
    [99, 108, 105, 101, 110, 116, 95, 115, 101, 99, 114, 101, 116], [99, 111, 111, 107, 105, 101],
    [99, 111, 111, 107, 105, 101, 95, 118, 97, 108, 117, 101],
    [99, 114, 101, 100, 101, 110, 116, 105, 97, 108],
    [99, 114, 101, 100, 101, 110, 116, 105, 97, 108, 115], [99, 115, 114, 102],
    [105, 100, 95, 116, 111, 107, 101, 110], [112, 97, 115, 115, 119, 111, 114, 100],
    [112, 114, 105, 118, 97, 116, 101, 95, 107, 101, 121],
    [112, 114, 105, 118, 97, 116, 101, 95, 107, 101, 121, 95, 109, 97, 116, 101, 114, 105, 97, 108],
    [114, 97, 119, 95, 99, 111, 111, 107, 105, 101], [114, 97, 119, 95, 116, 111, 107, 101, 110],
    [114, 101, 102, 114, 101, 115, 104, 95, 116, 111, 107, 101, 110],
    [115, 101, 99, 114, 101, 116], [115, 101, 99, 114, 101, 116, 95, 107, 101, 121],
    [115, 101, 115, 115, 105, 111, 110],
    [115, 101, 115, 115, 105, 111, 110, 95, 99, 111, 111, 107, 105, 101],
    [115, 101, 115, 115, 105, 111, 110, 95, 105, 100], [116, 111, 107, 101, 110],
    [116, 111, 107, 101, 110, 95, 118, 97, 108, 117, 101]]

/-- The suffixes, as codes. -/
def suffixCodes : List (List ℕ) :=
  [[95, 97, 99, 99, 101, 115, 115, 95, 116, 111, 107, 101, 110],
    [95, 99, 108, 105, 101, 110, 116, 95, 115, 101, 99, 114, 101, 116],
    [95, 99, 111, 111, 107, 105, 101, 95, 118, 97, 108, 117, 101],
    [95, 99, 114, 101, 100, 101, 110, 116, 105, 97, 108],
    [95, 112, 97, 115, 115, 119, 111, 114, 100],
    [95, 112, 114, 105, 118, 97, 116, 101, 95, 107, 101, 121],
    [95, 112, 114, 105, 118, 97, 116, 101, 95, 107, 101, 121, 95, 109, 97, 116, 101, 114, 105, 97, 108],
    [95, 114, 97, 119, 95, 99, 111, 111, 107, 105, 101],
    [95, 114, 97, 119, 95, 116, 111, 107, 101, 110],
    [95, 114, 101, 102, 114, 101, 115, 104, 95, 116, 111, 107, 101, 110],
    [95, 115, 101, 99, 114, 101, 116], [95, 115, 101, 99, 114, 101, 116, 95, 107, 101, 121],
    [95, 115, 101, 115, 115, 105, 111, 110, 95, 99, 111, 111, 107, 105, 101],
    [95, 116, 111, 107, 101, 110, 95, 118, 97, 108, 117, 101]]

theorem sensitiveCodes_eq : sensitiveCodes = sensitiveKeys.map fun s => s.toList.map Char.toNat := by
  decide

theorem suffixCodes_eq : suffixCodes = secretSuffixes.map fun s => s.toList.map Char.toNat := by
  decide

/-- The codes of a field name as it is compared. -/
def keyCodes (rt : Runtime) (key : String) : List ℕ :=
  (rt.lower key).toList.map fun c => if c = '-' then 95 else c.toNat

/-- A field name that announces no secret. -/
def plainKey (rt : Runtime) (key : String) : Bool :=
  let codes := keyCodes rt key
  !(sensitiveCodes.contains codes) && !(suffixCodes.any fun suffix => suffix.isSuffixOf codes)

theorem sensitiveKey_of_plain {key : String} (h : plainKey rt key = true) :
    sensitiveKey rt key = false := by
  simp only [plainKey, Bool.and_eq_true, Bool.not_eq_true'] at h
  obtain ⟨hname, hsuffix⟩ := h
  have hcodes : keyCodes rt key =
      ((rt.lower key).toList.map fun c => if c = '-' then '_' else c).map Char.toNat := by
    unfold keyCodes
    rw [List.map_map]
    apply List.map_congr_left
    intro c _
    by_cases hc : c = '-' <;> simp [hc]
  unfold sensitiveKey
  simp only
  split
  · rfl
  · rw [Bool.or_eq_false_iff]
    constructor
    · rw [← Bool.not_eq_true, List.contains_iff_mem]
      intro hmem
      have hin : keyCodes rt key ∈ sensitiveCodes := by
        rw [sensitiveCodes_eq, hcodes]
        exact List.mem_map.mpr ⟨_, hmem, by rw [String.toList_ofList]⟩
      rw [← List.contains_iff_mem, hname] at hin
      cases hin
    · rw [← Bool.not_eq_true]
      intro hany
      obtain ⟨suffix, hmem, hends⟩ := List.any_eq_true.mp hany
      have hin : suffix.toList.map Char.toNat ∈ suffixCodes := by
        rw [suffixCodes_eq]
        exact List.mem_map.mpr ⟨suffix, hmem, rfl⟩
      have hnot := List.any_eq_false.mp hsuffix _ hin
      apply hnot
      rw [hcodes]
      exact List.isSuffixOf_iff_suffix.mpr ((List.isSuffixOf_iff_suffix.mp hends).map Char.toNat)

/-- A field name that says nothing, of a field that holds no secret. -/
def quietKey (rt : Runtime) (key : String) (item : Json) : Bool :=
  quiet key.toList && (isEmptyValue item || plainKey rt key)

mutual

/-- A value made of quiet texts. -/
def quietValue (rt : Runtime) : Json → Bool
  | .obj entries => quietEntries rt entries
  | .arr items => quietItems rt items
  | .str s => quiet s.toList
  | _ => true

def quietEntries (rt : Runtime) : List (String × Json) → Bool
  | [] => true
  | (key, item) :: rest => quietKey rt key item && quietValue rt item && quietEntries rt rest

def quietItems (rt : Runtime) : List Json → Bool
  | [] => true
  | item :: rest => quietValue rt item && quietItems rt rest

end

/-- A quiet assignment to a quiet mapping. -/
theorem quietEntries_dset {m : Dict} {key : String} {v : Json} (h : quietEntries rt m = true)
    (hkey : quietKey rt key v = true) (hv : quietValue rt v = true) :
    quietEntries rt (dset m key v) = true := by
  induction m with
  | nil => simp [dset, quietEntries, hkey, hv]
  | cons e m ih =>
    obtain ⟨k, w⟩ := e
    simp only [quietEntries, Bool.and_eq_true] at h
    unfold dset
    split
    · simp [quietEntries, hkey, hv, h.2]
    · simp [quietEntries, h.1.1, h.1.2, ih h.2]

theorem quietItems_append {xs ys : List Json} (hxs : quietItems rt xs = true)
    (hys : quietItems rt ys = true) : quietItems rt (xs ++ ys) = true := by
  induction xs with
  | nil => exact hys
  | cons x xs ih =>
    simp only [quietItems, Bool.and_eq_true] at hxs
    simp [quietItems, hxs.1, ih hxs.2]

theorem scanKey_of_quiet {path key : String} {item : Json} (h : quietKey rt key item = true) :
    scanKey rt path key item = (path ++ "." ++ key, []) := by
  simp only [quietKey, Bool.and_eq_true, Bool.or_eq_true] at h
  have hfield : (sensitiveKey rt key && !isEmptyValue item && !redactedPlaceholder item) =
      false := by
    rcases h.2 with hempty | hplain
    · simp [hempty]
    · simp [sensitiveKey_of_plain hplain]
  unfold scanKey
  simp only [findings_of_quiet h.1, hfield]
  rfl

mutual

theorem scanValue_of_quiet : ∀ (x : Json) (path : String), quietValue rt x = true →
    scanValue rt x path = []
  | .obj entries, path, h => by
    rw [scanValue, scanEntries_of_quiet entries path h]
    rfl
  | .arr items, path, h => by
    rw [scanValue, scanItems_of_quiet items 0 path h]
    rfl
  | .str s, path, h => by
    rw [scanValue, scanText_of_quiet h]
    rfl
  | .null, _, _ | .bool _, _, _ | .int _, _, _ | .float _, _, _ => by rfl

theorem scanEntries_of_quiet : ∀ (entries : List (String × Json)) (path : String),
    quietEntries rt entries = true → scanEntries rt entries path = []
  | [], _, _ => by rfl
  | (key, item) :: rest, path, h => by
    simp only [quietEntries, Bool.and_eq_true] at h
    rw [scanEntries, scanKey_of_quiet h.1.1]
    simp only [scanValue_of_quiet item _ h.1.2, scanEntries_of_quiet rest path h.2]
    rfl

theorem scanItems_of_quiet : ∀ (items : List Json) (i : ℕ) (path : String),
    quietItems rt items = true → scanItems rt i items path = []
  | [], _, _, _ => by rfl
  | item :: rest, i, path, h => by
    simp only [quietItems, Bool.and_eq_true] at h
    rw [scanItems, scanValue_of_quiet item _ h.1, scanItems_of_quiet rest _ path h.2]
    rfl

end

/-- **A quiet value passes the redactor.** -/
theorem assertValueRedacted_of_quiet {x : Json} (h : quietValue rt x = true) :
    assertValueRedacted rt x = .ok () := by
  unfold assertValueRedacted
  rw [scanValue_of_quiet x _ h]
  rfl

/-! ### Quiet values are written as quiet texts -/

/-- A character that no lead holds, and no e-mail address needs. -/
def Mute (c : Char) : Prop := code c ≠ 64 ∧ ∀ w ∈ leads, code c ∉ w

/-- A character that no lead begins with, and no e-mail address needs. -/
def NoHead (c : Char) : Prop := code c ≠ 64 ∧ ∀ w ∈ leads, w.head? ≠ some (code c)

theorem leadless_iff {cs : List ℕ} : leadless cs = true ↔ ∀ w ∈ leads, ¬ w <:+: cs := by
  have hne : ∀ w ∈ leads, w ≠ [] := by decide
  induction cs with
  | nil =>
    refine iff_of_true rfl fun w hw hinfix => hne w hw ?_
    exact List.infix_nil.mp hinfix
  | cons c cs ih =>
    simp only [leadless, Bool.and_eq_true, Bool.not_eq_true', ih, List.any_eq_false,
      List.isPrefixOf_iff_prefix, List.infix_cons_iff, not_or]
    exact ⟨fun h w hw => ⟨h.1 w hw, h.2 w hw⟩, fun h => ⟨fun w hw => (h w hw).1, fun w hw => (h w hw).2⟩⟩

theorem quiet_iff {text : List Char} :
    quiet text = true ↔ 64 ∉ text.map code ∧ ∀ w ∈ leads, ¬ w <:+: text.map code := by
  unfold quiet
  rw [Bool.and_eq_true, leadless_iff, Bool.not_eq_true', ← Bool.not_eq_true, List.contains_iff_mem]

/-- A character that no lead holds keeps what stands on its sides apart. -/
theorem quiet_cut {c : Char} (hc : Mute c) {xs ys : List Char} (hxs : quiet xs = true)
    (hys : quiet ys = true) : quiet (xs ++ c :: ys) = true := by
  rw [quiet_iff] at hxs hys ⊢
  rw [List.map_append, List.map_cons]
  constructor
  · rw [List.mem_append, List.mem_cons]
    rintro (hmem | hmem | hmem)
    · exact hxs.1 hmem
    · exact hc.1 hmem.symm
    · exact hys.1 hmem
  · intro w hw hinfix
    have hstart : ∀ {t : List ℕ}, t <+: code c :: ys.map code → (∀ x ∈ t, x ∈ w) → t = [] := by
      intro t ht hsub
      cases t with
      | nil => rfl
      | cons x t =>
        obtain ⟨rfl, -⟩ := List.cons_prefix_cons.mp ht
        exact absurd (hsub _ List.mem_cons_self) (hc.2 w hw)
    rcases List.infix_append_iff.mp hinfix with hleft | hright | ⟨s, t, rfl, hs, ht⟩
    · exact hxs.2 w hw hleft
    · rcases List.infix_cons_iff.mp hright with hhead | htail
      · rw [hstart hhead fun _ hx => hx] at hw
        exact absurd hw (by decide)
      · exact hys.2 w hw htail
    · obtain rfl := hstart ht fun x hx => List.mem_append_right s hx
      rw [List.append_nil] at hw
      exact hxs.2 s hw hs.isInfix

/-- A character that no lead begins with may stand in front. -/
theorem quiet_cons {c : Char} (hc : NoHead c) {xs : List Char} (h : quiet xs = true) :
    quiet (c :: xs) = true := by
  rw [quiet_iff] at h ⊢
  rw [List.map_cons]
  constructor
  · rw [List.mem_cons, not_or]
    exact ⟨hc.1.symm, h.1⟩
  · intro w hw hinfix
    rcases List.infix_cons_iff.mp hinfix with hstart | htail
    · cases w with
      | nil => exact absurd hw (by decide)
      | cons x w =>
        obtain ⟨rfl, -⟩ := List.cons_prefix_cons.mp hstart
        exact hc.2 _ hw rfl
    · exact h.2 w hw htail

/-- A character that is written as it stands. -/
def unescaped (c : Char) : Bool :=
  decide (32 ≤ c.toNat) && decide (c.toNat < 127) && c.toNat != 34 && c.toNat != 92

theorem escapeChar_unescaped {ascii : Bool} {c : Char} (h : unescaped c = true) :
    escapeChar ascii c = [c] := by
  simp only [unescaped, Bool.and_eq_true, decide_eq_true_eq, bne_iff_ne] at h
  obtain ⟨⟨⟨hlow, hhigh⟩, hquote⟩, hslash⟩ := h
  have hnotQuote : c ≠ '"' := by
    rintro rfl
    exact hquote rfl
  have hnotSlash : c ≠ '\\' := by
    rintro rfl
    exact hslash rfl
  have hascii : ¬ (ascii && decide (c.toNat ≥ 127)) = true := by
    simp only [Bool.and_eq_true, decide_eq_true_eq]
    omega
  unfold escapeChar
  rw [if_neg hnotQuote, if_neg hnotSlash, if_neg (by omega), if_neg (by omega), if_neg (by omega),
    if_neg (by omega), if_neg (by omega), if_neg (by omega), if_neg hascii]

/-- A text that is written as it stands. -/
def unescapedText (s : String) : Bool := s.toList.all unescaped

theorem quiet_dumpText {ascii : Bool} {s : String} (h : quiet s.toList = true)
    (hplain : unescapedText s = true) : quiet (dumpText ascii s) = true := by
  have hquote : Mute '"' := ⟨by decide, by decide⟩
  have hwritten : s.toList.flatMap (escapeChar ascii) = s.toList := by
    have hall := List.all_eq_true.mp hplain
    rw [List.flatMap_congr fun c hc => escapeChar_unescaped (hall c hc)]
    exact List.flatMap_singleton' _
  unfold dumpText
  rw [hwritten]
  exact @quiet_cut '"' hquote [] _ rfl (quiet_cut hquote h rfl)

mutual

/-- A value whose texts are written as they stand, and whose numbers are quiet. -/
def unescapedValue (rt : Runtime) : Json → Bool
  | .obj entries => unescapedEntries rt entries
  | .arr items => unescapedItems rt items
  | .str s => unescapedText s
  | .int n => quiet (toString n).toList
  | .float q => quiet (rt.floatRepr q).toList
  | _ => true

def unescapedEntries (rt : Runtime) : List (String × Json) → Bool
  | [] => true
  | (key, item) :: rest => unescapedText key && unescapedValue rt item && unescapedEntries rt rest

def unescapedItems (rt : Runtime) : List Json → Bool
  | [] => true
  | item :: rest => unescapedValue rt item && unescapedItems rt rest

end

section written

variable {style : DumpStyle}

theorem quiet_comma {xs ys : List Char} (hxs : quiet xs = true) (hys : quiet ys = true) :
    quiet (xs ++ (style.comma ++ ys)) = true := by
  have hcomma : Mute ',' := ⟨by decide, by decide⟩
  unfold DumpStyle.comma
  split
  · exact quiet_cut hcomma hxs hys
  · exact quiet_cut hcomma hxs (quiet_cons ⟨by decide, by decide⟩ hys)

theorem quiet_colon {xs ys : List Char} (hxs : quiet xs = true) (hys : quiet ys = true) :
    quiet (xs ++ (style.colon ++ ys)) = true := by
  have hcolon : Mute ':' := ⟨by decide, by decide⟩
  unfold DumpStyle.colon
  split
  · exact quiet_cut hcolon hxs hys
  · exact quiet_cut hcolon hxs (quiet_cons ⟨by decide, by decide⟩ hys)

theorem quiet_parts {parts : List (List Char)} (h : ∀ part ∈ parts, quiet part = true) :
    quiet (List.intersperse style.comma parts).flatten = true := by
  induction parts with
  | nil => rfl
  | cons part parts ih =>
    rw [List.forall_mem_cons] at h
    cases parts with
    | nil => simpa using h.1
    | cons next rest =>
      rw [List.intersperse_cons_cons, List.flatten_cons, List.flatten_cons]
      exact quiet_comma h.1 (ih h.2)

/-- Quiet parts between brackets. -/
theorem quiet_bracketed {opening closing : Char} (ho : Mute opening) (hc : Mute closing)
    {parts : List (List Char)} (h : ∀ part ∈ parts, quiet part = true) :
    quiet (opening :: ((List.intersperse style.comma parts).flatten ++ [closing])) = true :=
  @quiet_cut opening ho [] _ rfl (quiet_cut hc (quiet_parts h) rfl)

mutual

/-- **A quiet value is written as a quiet text**, where nothing is escaped. -/
theorem quiet_dumpChars : ∀ x : Json, quietValue rt x = true → unescapedValue rt x = true →
    quiet (x.dumpChars rt style) = true
  | .null, _, _ => by
    unfold Json.dumpChars
    decide
  | .bool true, _, _ => by
    unfold Json.dumpChars
    decide
  | .bool false, _, _ => by
    unfold Json.dumpChars
    decide
  | .int n, _, hplain => hplain
  | .float q, _, hplain => hplain
  | .str s, hquiet, hplain => quiet_dumpText hquiet hplain
  | .arr items, hquiet, hplain => by
    unfold Json.dumpChars
    exact quiet_bracketed ⟨by decide, by decide⟩ ⟨by decide, by decide⟩
      (quiet_dumpItems items hquiet hplain)
  | .obj entries, hquiet, hplain => by
    unfold Json.dumpChars
    refine quiet_bracketed ⟨by decide, by decide⟩ ⟨by decide, by decide⟩ ?_
    intro part hpart
    obtain ⟨e, he, rfl⟩ := List.mem_map.mp hpart
    obtain ⟨⟨key, item⟩, hmem, rfl⟩ := List.mem_map.mp ((dumpEntries_perm rt style entries).subset he)
    obtain ⟨hkey, hitem⟩ := quiet_dumpEntries entries hquiet hplain key item hmem
    rw [List.append_assoc]
    exact quiet_colon hkey hitem

theorem quiet_dumpEntries : ∀ entries : List (String × Json), quietEntries rt entries = true →
    unescapedEntries rt entries = true → ∀ key item, (key, item) ∈ entries →
    quiet (dumpText style.ascii key) = true ∧ quiet (item.dumpChars rt style) = true
  | [], _, _ => fun _ _ hmem => absurd hmem List.not_mem_nil
  | (key, item) :: rest, hquiet, hplain => by
    simp only [quietEntries, unescapedEntries, quietKey, Bool.and_eq_true] at hquiet hplain
    intro key' item' hmem
    rcases List.mem_cons.mp hmem with heq | hmem
    · cases heq
      exact ⟨quiet_dumpText hquiet.1.1.1 hplain.1.1, quiet_dumpChars item hquiet.1.2 hplain.1.2⟩
    · exact quiet_dumpEntries rest hquiet.2 hplain.2 key' item' hmem

theorem quiet_dumpItems : ∀ items : List Json, quietItems rt items = true →
    unescapedItems rt items = true → ∀ part ∈ dumpItems rt style items, quiet part = true
  | [], _, _ => fun _ hmem => absurd hmem List.not_mem_nil
  | item :: rest, hquiet, hplain => by
    simp only [quietItems, unescapedItems, Bool.and_eq_true] at hquiet hplain
    intro part hpart
    rcases List.mem_cons.mp hpart with rfl | hpart
    · exact quiet_dumpChars item hquiet.1 hplain.1
    · exact quiet_dumpItems rest hquiet.2 hplain.2 part hpart

end

theorem assertRedacted_dumps {x : Json} (h : quietValue rt x = true)
    (hplain : unescapedValue rt x = true) : assertRedacted rt (x.dumps rt style) = .ok () := by
  apply assertRedacted_of_quiet
  rw [Json.dumps, String.toList_ofList]
  exact quiet_dumpChars x h hplain

end written

end Aotp.Gate
