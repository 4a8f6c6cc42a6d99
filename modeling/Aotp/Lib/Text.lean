import Aotp.Lib.Json

/-!
# Texts, ordered collections and the standard library

* `strip` — `str.strip()` over Python's white space; `strip_strip` is its idempotence.
* `fromkeys`, `sortedTexts`, `joined` — `dict.fromkeys`, `sorted(set(…))` and `", ".join(…)`.
* `isAbsolute`, `pathParts`, `PurePath` — paths without a file system, on POSIX.
* `Json.dumps` — `json.dumps(x, sort_keys=True, …)`, canonical (`compact`) or spaced.
* `Runtime` — the library functions a program calls but does not define: case folding, number
  formatting, timestamp parsing and SHA-256. Nothing is assumed of them but the shape of a digest.
-/

namespace PyData

/-! ### White space -/

/-- `c.isspace()`, for the code points Python counts as white space. -/
def isSpace (c : Char) : Bool :=
  let n := c.toNat
  (9 ≤ n && n ≤ 13) || (28 ≤ n && n ≤ 32) || n == 0x85 || n == 0xA0 || n == 0x1680 ||
    (0x2000 ≤ n && n ≤ 0x200A) || n == 0x2028 || n == 0x2029 || n == 0x202F || n == 0x205F ||
    n == 0x3000

/-- Both ends of a list trimmed of the elements satisfying `p`. -/
def trim {α : Type} (p : α → Bool) (l : List α) : List α :=
  ((l.dropWhile p).reverse.dropWhile p).reverse

/-- `s.strip()`. -/
def strip (s : String) : String := String.ofList (trim isSpace s.toList)

/-- `s.rstrip(c)` for one character. -/
def rstripChar (c : Char) (s : String) : String :=
  String.ofList ((s.toList.reverse.dropWhile (· == c)).reverse)

theorem dropWhile_eq_self_of_head {α : Type} {p : α → Bool} {l : List α}
    (h : ∀ a ∈ l.head?, p a = false) : l.dropWhile p = l := by
  cases l with
  | nil => rfl
  | cons a l => simp [h a (by simp)]

theorem head?_dropWhile {α : Type} (p : α → Bool) (l : List α) :
    ∀ a ∈ (l.dropWhile p).head?, p a = false := by
  induction l with
  | nil => simp
  | cons b l ih =>
    by_cases hb : p b = true
    · rw [List.dropWhile_cons, if_pos hb]
      exact ih
    · rw [List.dropWhile_cons, if_neg hb]
      intro a ha
      have hab : b = a := by simpa using ha
      rw [← hab]
      exact eq_false_of_ne_true hb

/-- Trimming on the right keeps the first element, when anything is left. -/
theorem head?_rtrim {α : Type} (p : α → Bool) (l : List α) :
    ∀ a ∈ ((l.reverse.dropWhile p).reverse).head?, a ∈ l.head? := by
  intro a ha
  have hsuf : l.reverse.dropWhile p <:+ l.reverse := List.dropWhile_suffix p
  have hpre : (l.reverse.dropWhile p).reverse <+: l := by
    have := List.reverse_prefix.mpr hsuf
    simpa using this
  obtain ⟨t, ht⟩ := hpre
  rw [← ht]
  cases h : (l.reverse.dropWhile p).reverse with
  | nil => simp [h] at ha
  | cons b r => rw [h] at ha; simpa using ha

theorem trim_trim {α : Type} (p : α → Bool) (l : List α) : trim p (trim p l) = trim p l := by
  have hleft : (trim p l).dropWhile p = trim p l := by
    apply dropWhile_eq_self_of_head
    intro a ha
    exact head?_dropWhile p l a (head?_rtrim p (l.dropWhile p) a ha)
  have hright : (trim p l).reverse.dropWhile p = (trim p l).reverse := by
    apply dropWhile_eq_self_of_head
    intro a ha
    have h := head?_dropWhile p (l.dropWhile p).reverse
    simp only [trim, List.reverse_reverse] at ha
    exact h a ha
  show ((((trim p l).dropWhile p).reverse).dropWhile p).reverse = trim p l
  rw [hleft, hright, List.reverse_reverse]

@[simp] theorem strip_strip (s : String) : strip (strip s) = strip s := by
  simp [strip, trim_trim]

/-- A text made of white space only is empty once stripped, and only such a text. -/
theorem strip_empty : strip "" = "" := by decide

theorem trim_eq_nil_iff {α : Type} {p : α → Bool} {l : List α} :
    trim p l = [] ↔ ∀ a ∈ l, p a = true := by
  unfold trim
  rw [List.reverse_eq_nil_iff, List.dropWhile_eq_nil_iff]
  constructor
  · intro h
    have hnil : l.dropWhile p = [] := by
      cases hl : l.dropWhile p with
      | nil => rfl
      | cons a rest =>
        have hhead := head?_dropWhile p l a (by rw [hl]; rfl)
        rw [h a (by rw [hl]; simp)] at hhead
        cases hhead
    exact List.dropWhile_eq_nil_iff.mp hnil
  · intro h a ha
    exact h a ((List.dropWhile_suffix p).subset (List.mem_reverse.mp ha))

theorem strip_eq_empty_iff {s : String} : strip s = "" ↔ ∀ c ∈ s.toList, isSpace c = true := by
  rw [← trim_eq_nil_iff, ← String.toList_inj, strip, String.toList_ofList]
  exact Iff.rfl

/-! ### Ordered sets of texts -/

/-- `list(dict.fromkeys(xs))`: the first occurrence of each element, in order. -/
def fromkeys {α : Type} [DecidableEq α] : List α → List α
  | [] => []
  | x :: xs => x :: (fromkeys xs).filter (· ≠ x)

section fromkeys

variable {α : Type} [DecidableEq α]

@[simp] theorem mem_fromkeys {x : α} {xs : List α} : x ∈ fromkeys xs ↔ x ∈ xs := by
  induction xs with
  | nil => simp [fromkeys]
  | cons y ys ih =>
    simp only [fromkeys, List.mem_cons, List.mem_filter, ih, decide_eq_true_eq]
    by_cases h : x = y <;> simp [h]

theorem nodup_fromkeys (xs : List α) : (fromkeys xs).Nodup := by
  induction xs with
  | nil => exact List.nodup_nil
  | cons y ys ih =>
    refine List.nodup_cons.mpr ⟨?_, ih.filter _⟩
    simp [List.mem_filter]

theorem fromkeys_eq_self {xs : List α} (h : xs.Nodup) : fromkeys xs = xs := by
  induction xs with
  | nil => rfl
  | cons y ys ih =>
    rw [List.nodup_cons] at h
    rw [fromkeys, ih h.2, List.filter_eq_self.mpr]
    intro a ha
    have hay : a ≠ y := fun hay => h.1 (hay ▸ ha)
    simpa using hay

@[simp] theorem fromkeys_eq_nil {xs : List α} : fromkeys xs = [] ↔ xs = [] := by
  cases xs <;> simp [fromkeys]

/-- The passage through a dictionary changes a list only when it repeats an element. -/
theorem fromkeys_eq_self_iff {xs : List α} : fromkeys xs = xs ↔ xs.Nodup :=
  ⟨fun h => h ▸ nodup_fromkeys xs, fromkeys_eq_self⟩

end fromkeys

/-- `sorted(set(xs))` on texts. -/
def sortedTexts (xs : List String) : List String := (fromkeys xs).insertionSort (· ≤ ·)

@[simp] theorem mem_sortedTexts {x : String} {xs : List String} : x ∈ sortedTexts xs ↔ x ∈ xs := by
  simp [sortedTexts]

@[simp] theorem sortedTexts_eq_nil {xs : List String} : sortedTexts xs = [] ↔ xs = [] := by
  rw [← List.length_eq_zero_iff, sortedTexts, List.length_insertionSort, List.length_eq_zero_iff,
    fromkeys_eq_nil]

/-- `", ".join(xs)`. -/
def joined (xs : List String) : String := String.intercalate ", " xs

/-- `"; ".join(xs)`. -/
def joinedReasons (xs : List String) : String := String.intercalate "; " xs

/-! ### POSIX paths -/

/-- The pieces of a list between the separators. -/
def splitOnSep {α : Type} [DecidableEq α] (sep : α) : List α → List (List α)
  | [] => [[]]
  | c :: cs =>
    match splitOnSep sep cs with
    | [] => [[c]]
    | p :: ps => if c = sep then [] :: p :: ps else (c :: p) :: ps

/-- `Path(p).is_absolute()`. -/
def isAbsolute (p : String) : Bool := p.toList.head? == some '/'

/-- The named components of `Path(p).parts`: empty ones and `.` disappear, `..` stays. -/
def pathParts (p : String) : List String :=
  ((splitOnSep '/' p.toList).filter fun c => !c.isEmpty && c != ['.']).map String.ofList

/-- `path.is_absolute() or ".." in path.parts`. -/
def leavesDirectory (p : String) : Bool := isAbsolute p || (pathParts p).contains ".."

/-- A pure POSIX path: its components, and whether it starts at the root. -/
structure PurePath where
  absolute : Bool
  parts : List String
  deriving DecidableEq, Repr

namespace PurePath

/-- `Path(text)`. -/
def ofText (text : String) : PurePath := ⟨isAbsolute text, pathParts text⟩

/-- `path / text`: an absolute right side replaces the left one. -/
def join (p : PurePath) (text : String) : PurePath :=
  if isAbsolute text then ofText text else ⟨p.absolute, p.parts ++ pathParts text⟩

/-- `str(path)`. -/
def text (p : PurePath) : String :=
  if p.absolute then "/" ++ String.intercalate "/" p.parts
  else if p.parts.isEmpty then "." else String.intercalate "/" p.parts

/-- `path.relative_to(root)`, by components; `none` where it raises. -/
def relativeTo (p root : PurePath) : Option PurePath :=
  if p.absolute == root.absolute && root.parts.isPrefixOf p.parts then
    some ⟨false, p.parts.drop root.parts.length⟩
  else none

end PurePath

/-! ### Numbers as text -/

/-- `f"{n:04d}"`. -/
def fmt04 (n : ℤ) : String :=
  let digits := (Nat.repr n.natAbs).toList
  if n < 0 then String.ofList ('-' :: (List.replicate (3 - digits.length) '0' ++ digits))
  else String.ofList (List.replicate (4 - digits.length) '0' ++ digits)

/-- `c in "0123456789abcdef"`. -/
def isLowerHex (c : Char) : Bool := ('0' ≤ c && c ≤ '9') || ('a' ≤ c && c ≤ 'f')

/-- A first character of `[a-z0-9]`, then at most 127 of `[a-z0-9._-]`. -/
def isAlias (s : List Char) : Bool :=
  let head c := ('a' ≤ c && c ≤ 'z') || ('0' ≤ c && c ≤ '9')
  s.head?.any head && s.all (fun c => head c || c == '.' || c == '_' || c == '-') &&
    s.length ≤ 128

/-- 64 lower-case hexadecimal digits. -/
def isSha256Text (s : String) : Bool := s.toList.length == 64 && s.toList.all isLowerHex

/-- A digest, to name one. -/
theorem zeroDigest_hex : isSha256Text (String.ofList (List.replicate 64 '0')) = true := by decide

/-! ### The standard library -/

/-- What `datetime.fromisoformat` makes of a text: nothing, a naive time, or an aware one with its
UTC instant in microseconds; `none` where the conversion to UTC leaves the representable range. -/
inductive IsoTime where
  | invalid
  | naive
  | aware (utc : Option ℤ)
  deriving DecidableEq, Repr

/-- The library functions the program calls. -/
structure Runtime where
  /-- `str.lower` -/
  lower : String → String
  /-- `float.__repr__` -/
  floatRepr : ℚ → String
  /-- `str` of a list or a mapping -/
  containerRepr : Json → String
  /-- `\w`, beyond ASCII -/
  isWordChar : Char → Bool
  /-- `datetime.fromisoformat` -/
  fromIsoFormat : String → IsoTime
  /-- `date.fromisoformat`, as a day number from the epoch -/
  dateFromIsoFormat : String → Option ℤ
  /-- `int(text)` -/
  intOfText : String → Option ℤ
  /-- `hashlib.sha256(text.encode()).hexdigest()` -/
  sha256 : String → String
  /-- A digest is 64 lower-case hexadecimal digits. -/
  sha256_hex : ∀ s, isSha256Text (sha256 s) = true

/-- `str(x)`. -/
def pyStr (rt : Runtime) : Json → String
  | .null => "None"
  | .bool true => "True"
  | .bool false => "False"
  | .int n => toString n
  | .float q => rt.floatRepr q
  | .str s => s
  | x => rt.containerRepr x

/-- `int(x)`: floats are truncated towards zero. -/
def pyInt (rt : Runtime) : Json → Except Exc ℤ
  | .bool b => .ok (if b then 1 else 0)
  | .int n => .ok n
  | .float q => .ok (q.num.tdiv q.den)
  | .str s =>
    match rt.intOfText s with
    | some n => .ok n
    | none => .error (.valueError "invalid literal for int() with base 10")
  | _ => .error .typeError

/-! ### Serialisation -/

/-- One of the sixteen hexadecimal digits. -/
def hexDigit (n : ℕ) : Char := "0123456789abcdef".toList.getD n '0'

/-- `\uXXXX`. -/
def unicodeEscape (n : ℕ) : List Char :=
  ['\\', 'u', hexDigit (n / 4096 % 16), hexDigit (n / 256 % 16), hexDigit (n / 16 % 16),
    hexDigit (n % 16)]

/-- One character of a JSON string; above the basic plane an ASCII escape is a surrogate pair. -/
def escapeChar (ascii : Bool) (c : Char) : List Char :=
  let n := c.toNat
  if c = '"' then ['\\', '"']
  else if c = '\\' then ['\\', '\\']
  else if n = 10 then ['\\', 'n']
  else if n = 13 then ['\\', 'r']
  else if n = 9 then ['\\', 't']
  else if n = 12 then ['\\', 'f']
  else if n = 8 then ['\\', 'b']
  else if n < 32 then unicodeEscape n
  else if ascii && n ≥ 127 then
    if n = 127 then [c]
    else if n < 65536 then unicodeEscape n
    else
      let m := n - 65536
      unicodeEscape (55296 + m / 1024) ++ unicodeEscape (56320 + m % 1024)
  else [c]

/-- A JSON string literal. -/
def dumpText (ascii : Bool) (s : String) : List Char :=
  '"' :: (s.toList.flatMap (escapeChar ascii) ++ ['"'])

/-- How `json.dumps` writes: `compact` is `separators=(",", ":")`, `ascii` is `ensure_ascii`. -/
structure DumpStyle where
  compact : Bool
  ascii : Bool

/-- `separators=(",", ":"), ensure_ascii=False`: the text that is hashed. -/
def DumpStyle.canonical : DumpStyle := ⟨true, false⟩

/-- `separators=(",", ":")`: hashed as ASCII. -/
def DumpStyle.compactAscii : DumpStyle := ⟨true, true⟩

/-- The defaults: the text that is searched for secrets. -/
def DumpStyle.spaced : DumpStyle := ⟨false, true⟩

def DumpStyle.comma (style : DumpStyle) : List Char := if style.compact then [','] else [',', ' ']

def DumpStyle.colon (style : DumpStyle) : List Char := if style.compact then [':'] else [':', ' ']

/-- Insert an entry of a mapping, already serialised, in the order of the keys. -/
def insertEntry (e : String × List Char) : List (String × List Char) → List (String × List Char)
  | [] => [e]
  | f :: fs => if e.1 ≤ f.1 then e :: f :: fs else f :: insertEntry e fs

mutual

/-- `json.dumps(x, sort_keys=True)`, as a list of characters. -/
def Json.dumpChars (rt : Runtime) (style : DumpStyle) : Json → List Char
  | .null => "null".toList
  | .bool true => "true".toList
  | .bool false => "false".toList
  | .int n => (toString n).toList
  | .float q => (rt.floatRepr q).toList
  | .str s => dumpText style.ascii s
  | .arr items => '[' :: ((List.intersperse style.comma (dumpItems rt style items)).flatten ++ [']'])
  | .obj entries =>
    let written := (dumpEntries rt style entries).map fun e =>
      dumpText style.ascii e.1 ++ style.colon ++ e.2
    '{' :: ((List.intersperse style.comma written).flatten ++ ['}'])

/-- The items of a list, each serialised. -/
def dumpItems (rt : Runtime) (style : DumpStyle) : List Json → List (List Char)
  | [] => []
  | x :: xs => Json.dumpChars rt style x :: dumpItems rt style xs

/-- The entries of a mapping, sorted by key, each value serialised. -/
def dumpEntries (rt : Runtime) (style : DumpStyle) :
    List (String × Json) → List (String × List Char)
  | [] => []
  | (k, v) :: rest => insertEntry (k, Json.dumpChars rt style v) (dumpEntries rt style rest)

end

/-- `json.dumps(x, sort_keys=True)`. -/
def Json.dumps (rt : Runtime) (style : DumpStyle) (x : Json) : String :=
  String.ofList (x.dumpChars rt style)

/-- `hashlib.sha256(json.dumps(x, sort_keys=True, separators=(",", ":"), ensure_ascii=False))`. -/
def digest (rt : Runtime) (x : Json) : String := rt.sha256 (x.dumps rt .canonical)

theorem digest_hex (rt : Runtime) (x : Json) : isSha256Text (digest rt x) = true :=
  rt.sha256_hex _

end PyData
