import Aotp.Lib.Text

/-!
# Backtracking regular expressions

The fragment of Python's `re` in which only single-character classes repeat.

* `Re` — an expression; `Re.run` gives the ways to match it at a position, in the order a
  backtracking matcher tries them, so that its first answer is the match `re` reports.
* `Re.search` — whether it matches anywhere; `Re.finditer` — the non-overlapping matches.
* `fold`, `anyCase` — matching without regard to case, with the four non-ASCII letters Python
  folds into ASCII.
-/

namespace PyData

/-- A regular expression. `many lo hi p` is `p{lo,hi}`, unbounded when `hi` is `none`. -/
inductive Re where
  | eps
  | cls (p : Char → Bool)
  | many (lo : ℕ) (hi : Option ℕ) (p : Char → Bool)
  | seq (a b : Re)
  | alt (a b : Re)
  | wordBoundary

/-- A position in the text: the character before it and what follows. -/
abbrev Pos := Option Char × List Char

/-- The greedy repetitions of one class: the longest first. -/
def greedy (p : Char → Bool) : ℕ → Option ℕ → Option Char → List Char → List Pos
  | lo, _, prev, [] => if lo = 0 then [(prev, [])] else []
  | lo, hi, prev, c :: cs =>
    let here : List Pos := if lo = 0 then [(prev, c :: cs)] else []
    if p c && hi != some 0 then greedy p (lo - 1) (hi.map (· - 1)) (some c) cs ++ here else here

namespace Re

variable (word : Char → Bool)

/-- The positions after a match, in the order of backtracking. -/
def run : Re → Pos → List Pos
  | eps, pos => [pos]
  | cls _, (_, []) => []
  | cls p, (_, c :: cs) => if p c then [(some c, cs)] else []
  | many lo hi p, (prev, cs) => greedy p lo hi prev cs
  | seq a b, pos => (run a pos).flatMap (run b)
  | alt a b, pos => run a pos ++ run b pos
  | wordBoundary, (prev, cs) =>
    if prev.any word != cs.head?.any word then [(prev, cs)] else []

/-- `pattern.search(text)`, from a position on. -/
def searchFrom (e : Re) : Option Char → List Char → Bool
  | prev, [] => !(e.run word (prev, [])).isEmpty
  | prev, c :: cs => !(e.run word (prev, c :: cs)).isEmpty || searchFrom e (some c) cs

/-- `pattern.search(text) is not None`. -/
def search (e : Re) (text : String) : Bool := e.searchFrom word none text.toList

/-- The non-overlapping matches from a position on; each is at least one character long, so the
fuel is the length of what is left. -/
def finditerFrom (e : Re) : ℕ → Pos → List String
  | 0, _ => []
  | _ + 1, (_, []) => []
  | fuel + 1, (prev, c :: cs) =>
    match e.run word (prev, c :: cs) with
    | [] => finditerFrom e fuel (some c, cs)
    | (prev', rest) :: _ =>
      String.ofList ((c :: cs).take ((c :: cs).length - rest.length)) ::
        finditerFrom e fuel (prev', rest)

/-- `[m.group(0) for m in pattern.finditer(text)]`. -/
def finditer (e : Re) (text : String) : List String :=
  e.finditerFrom word text.toList.length (none, text.toList)

end Re

/-! ### Building expressions -/

/-- The letter a case-insensitive match compares: `İ`, `ı`, `ſ` and the Kelvin sign are ASCII
letters to it. -/
def fold (c : Char) : Char :=
  if c.toNat = 0x130 ∨ c.toNat = 0x131 then 'i'
  else if c.toNat = 0x17F then 's'
  else if c.toNat = 0x212A then 'k'
  else c.toLower

/-- A class of lower-case letters and other characters, matched in any case. -/
def anyCase (p : Char → Bool) (c : Char) : Bool := p (fold c)

/-- A literal text; `ci` disregards case. -/
def litRe (ci : Bool) (s : String) : Re :=
  s.toList.foldr (fun c e => .seq (.cls fun x => if ci then fold x == c else x == c) e) .eps

/-- Several expressions in a row. -/
def seqRe (es : List Re) : Re := es.foldr .seq .eps

/-- Several alternatives, the first one preferred. -/
def altRe : List Re → Re
  | [] => .eps
  | [e] => e
  | e :: es => .alt e (altRe es)

/-- `e?` -/
def optRe (e : Re) : Re := .alt e .eps

/-- `p{n,}` -/
def atLeast (n : ℕ) (p : Char → Bool) : Re := .many n none p

/-- `p{n}` -/
def exactly (n : ℕ) (p : Char → Bool) : Re := .many n (some n) p

/-- `p?` -/
def optional (p : Char → Bool) : Re := .many 0 (some 1) p

def isDigitChar (c : Char) : Bool := '0' ≤ c && c ≤ '9'
def isUpperChar (c : Char) : Bool := 'A' ≤ c && c ≤ 'Z'
def isLowerChar (c : Char) : Bool := 'a' ≤ c && c ≤ 'z'
def isAlnumChar (c : Char) : Bool := isDigitChar c || isUpperChar c || isLowerChar c

/-- One of the characters of a text. -/
def oneOf (s : String) (c : Char) : Bool := s.toList.contains c

/-- `[A-Za-z0-9…]` with further characters. -/
def alnumOr (s : String) (c : Char) : Bool := isAlnumChar c || oneOf s c

/-- `\w` -/
def isWord (rt : Runtime) (c : Char) : Bool :=
  if c.toNat < 128 then isAlnumChar c || c == '_' else rt.isWordChar c

end PyData
