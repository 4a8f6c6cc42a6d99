import Mathlib

/-!
# JSON values with Python's dynamic operations

* `Json` — a value as `json.loads` or `yaml.safe_load` hands it over; an object is its list of
  entries, read through `dget`, so that only the first entry of a key is ever seen.
* `Exc` — the exceptions the dynamic operations raise.
* `truthy`, `pyEq`, `inSet`, `toSet`, `pyIn`, `attrs` — `bool(x)`, `x == y`, `x in {…}`, `set(x)`,
  `x in y` and the attribute access `x.get`, each with the exception Python raises on a value of
  the wrong shape.
-/

namespace PyData

/-- The exceptions of the dynamic operations. `custom` is a class a program derives from
`ValueError`. -/
inductive Exc where
  | valueError (msg : String)
  | custom (cls msg : String)
  | typeError
  | attributeError
  | keyError (key : String)
  | overflowError
  | osError
  deriving DecidableEq, Repr

/-- `isinstance(exc, ValueError)`. -/
def Exc.isValueError : Exc → Bool
  | .valueError _ => true
  | .custom _ _ => true
  | _ => false

/-- `str(exc)`, for the exceptions whose text is the program's own. -/
def Exc.text : Exc → String
  | .valueError msg => msg
  | .custom _ msg => msg
  | .keyError key => key
  | _ => ""

/-- A JSON value. Floats are exact rationals; NaN and the infinities are not JSON. -/
inductive Json where
  | null
  | bool (b : Bool)
  | int (n : ℤ)
  | float (q : ℚ)
  | str (s : String)
  | arr (items : List Json)
  | obj (entries : List (String × Json))
  deriving Inhabited

/-- A mapping with text keys, as its entries. -/
abbrev Dict := List (String × Json)

/-! ### Reading a mapping -/

/-- `m.get(k)` as an option: `none` when the key is missing. -/
def dget? (m : Dict) (k : String) : Option Json := m.lookup k

/-- `m.get(k)`, which is `None` on a missing key. -/
def dget (m : Dict) (k : String) : Json := (dget? m k).getD .null

/-- `m.get(k, default)`. -/
def dgetD (m : Dict) (k : String) (default : Json) : Json := (dget? m k).getD default

/-- `k in m`. -/
def dhas (m : Dict) (k : String) : Bool := (dget? m k).isSome

/-- The keys of a mapping. -/
def dkeys (m : Dict) : List String := m.map Prod.fst

/-- `m[k] = v`: the value in place when the key is there, a new last entry otherwise. -/
def dset : Dict → String → Json → Dict
  | [], k, v => [(k, v)]
  | (k', w) :: m, k, v => if k = k' then (k, v) :: m else (k', w) :: dset m k v

@[simp] theorem dget?_nil (k : String) : dget? [] k = none := rfl

theorem dget?_cons (k k' : String) (v : Json) (m : Dict) :
    dget? ((k', v) :: m) k = if k = k' then some v else dget? m k := by
  by_cases h : k = k'
  · simp [dget?, h]
  · have hne : (k == k') = false := by simpa using h
    simp [dget?, List.lookup_cons, h, hne]

theorem dget?_dset (m : Dict) (k k' : String) (v : Json) :
    dget? (dset m k v) k' = if k' = k then some v else dget? m k' := by
  induction m with
  | nil => simp [dset, dget?_cons]
  | cons e m ih =>
    obtain ⟨k₀, w⟩ := e
    by_cases hk : k = k₀
    · subst hk
      simp only [dset, if_true, dget?_cons]
      split_ifs <;> rfl
    · simp only [dset, if_neg hk, dget?_cons, ih]
      by_cases hk' : k' = k₀
      · subst hk'; simp [Ne.symm hk]
      · simp [hk']

@[simp] theorem dget_dset_self (m : Dict) (k : String) (v : Json) : dget (dset m k v) k = v := by
  simp [dget, dget?_dset]

theorem dget?_dset_of_ne (m : Dict) {k k' : String} (v : Json) (h : k' ≠ k) :
    dget? (dset m k v) k' = dget? m k' := by
  simp [dget?_dset, h]

theorem dget_dset_of_ne (m : Dict) {k k' : String} (v : Json) (h : k' ≠ k) :
    dget (dset m k v) k' = dget m k' := by
  simp [dget, dget?_dset_of_ne m v h]

/-- A key that is not among the keys is missing. -/
theorem dget?_eq_none_of_not_mem {m : Dict} {k : String} (h : k ∉ dkeys m) : dget? m k = none := by
  induction m with
  | nil => rfl
  | cons e m ih =>
    obtain ⟨k', v⟩ := e
    simp only [dkeys, List.map_cons, List.mem_cons, not_or] at h
    rw [dget?_cons, if_neg h.1]
    exact ih h.2

/-! ### Truth, equality, membership -/

/-- An entry put in its place among entries sorted by key. -/
def insertByKey (e : String × Json) : Dict → Dict
  | [] => [e]
  | f :: fs => if e.1 ≤ f.1 then e :: f :: fs else f :: insertByKey e fs

namespace Json

/-- `bool(x)`. -/
def truthy : Json → Bool
  | null => false
  | bool b => b
  | int n => n != 0
  | float q => q != 0
  | str s => s != ""
  | arr items => !items.isEmpty
  | obj entries => !entries.isEmpty

/-- Whether `hash(x)` succeeds: lists and mappings are unhashable. -/
def hashable : Json → Bool
  | arr _ => false
  | obj _ => false
  | _ => true

/-- The value of a number; `True` and `False` count as `1` and `0`. -/
def num? : Json → Option ℚ
  | bool b => some (if b then 1 else 0)
  | int n => some n
  | float q => some q
  | _ => none

mutual

/-- `x == y`. -/
def pyEq : Json → Json → Bool
  | .null, .null => true
  | .str a, .str b => a == b
  | .arr a, .arr b => pyEqList a b
  | .obj a, .obj b => a.length == b.length && pyEqEntries a b
  | .bool a, y => y.num? == some (if a then 1 else 0)
  | .int a, y => y.num? == some (a : ℚ)
  | .float a, y => y.num? == some a
  | _, _ => false

def pyEqList : List Json → List Json → Bool
  | [], [] => true
  | x :: xs, y :: ys => pyEq x y && pyEqList xs ys
  | _, _ => false

def pyEqEntries : List (String × Json) → List (String × Json) → Bool
  | [], _ => true
  | (k, v) :: rest, b =>
    (match b.lookup k with
      | some w => pyEq v w
      | none => false) && pyEqEntries rest b

end

@[simp] theorem pyEq_str_left (s : String) (x : Json) : pyEq (str s) x = true ↔ x = str s := by
  cases x with
  | str t => simp [pyEq, @eq_comm String s]
  | _ => simp [pyEq]

@[simp] theorem pyEq_str_right (s : String) (x : Json) : pyEq x (str s) = true ↔ x = str s := by
  cases x <;> simp [pyEq, num?]

mutual

/-- The value with the entries of every mapping sorted by key. -/
def sorted : Json → Json
  | .arr items => .arr (sortedItems items)
  | .obj entries => .obj (sortedEntries entries)
  | x => x

def sortedItems : List Json → List Json
  | [] => []
  | x :: xs => sorted x :: sortedItems xs

def sortedEntries : List (String × Json) → List (String × Json)
  | [] => []
  | (k, v) :: rest => insertByKey (k, sorted v) (sortedEntries rest)

end

/-- **Two values are the same JSON value**: equal up to the order of the keys of mappings. -/
def Same (x y : Json) : Prop := x.sorted = y.sorted

theorem Same.refl (x : Json) : Same x x := rfl

/-- `x.get`: the entries of a mapping, `AttributeError` on anything else. -/
def attrs : Json → Except Exc Dict
  | obj m => .ok m
  | _ => .error .attributeError

/-- The text of a text value. -/
def text? : Json → Option String
  | str s => some s
  | _ => none

/-- `iter(x)`: the items of a list, the keys of a mapping, the characters of a text. -/
def iter : Json → Except Exc (List Json)
  | arr items => .ok items
  | obj m => .ok ((dkeys m).map str)
  | str s => .ok (s.toList.map fun c => str (String.singleton c))
  | _ => .error .typeError

end Json

/-- `x in s` for a set `s`: the value is hashed first. -/
def inSet (x : Json) (s : List Json) : Except Exc Bool :=
  if x.hashable then .ok (s.any (Json.pyEq x)) else .error .typeError

/-- `x in s` for a set of texts. -/
def inTexts (x : Json) (s : List String) : Except Exc Bool := inSet x (s.map .str)

/-- `set(x)`: every element is hashed. -/
def toSet (x : Json) : Except Exc (List Json) := do
  let items ← x.iter
  if items.all Json.hashable then pure items else throw .typeError

/-- `x in y` for a list, a mapping or a text `y`. -/
def pyIn (x y : Json) : Except Exc Bool :=
  match y with
  | .arr items => .ok (items.any (Json.pyEq x))
  | .obj m => inTexts x (dkeys m)
  | .str t =>
    match x with
    | .str s => .ok (decide (s.toList <:+: t.toList))
    | _ => .error .typeError
  | _ => .error .typeError

/-- `isinstance(x, int)`; `True` and `False` are integers to Python. -/
def asInt : Json → Option ℤ
  | .int n => some n
  | .bool b => some (if b then 1 else 0)
  | _ => none

theorem inTexts_str (s : String) (l : List String) :
    inTexts (.str s) l = .ok (decide (s ∈ l)) := by
  simp only [inTexts, inSet, Json.hashable, if_true, List.any_map]
  congr 1
  rw [Bool.eq_iff_iff]
  simp [List.any_eq_true]

/-- Membership in a set of texts never raises on a hashable value, and only texts are members. -/
theorem inTexts_of_hashable {x : Json} (h : x.hashable = true) (l : List String) :
    inTexts x l = .ok (l.any fun s => Json.pyEq x (.str s)) := by
  simp only [inTexts, inSet, h, if_true, List.any_map]
  rfl

theorem inTexts_of_not_hashable {x : Json} (h : x.hashable = false) (l : List String) :
    inTexts x l = .error .typeError := by
  simp [inTexts, inSet, h]

/-! ### Sequencing computations that may raise -/

section except

variable {ε α β : Type}

theorem bind_eq_ok {x : Except ε α} {f : α → Except ε β} {b : β} :
    (x >>= f) = .ok b ↔ ∃ a, x = .ok a ∧ f a = .ok b := by
  cases x <;> simp [bind, Except.bind]

theorem bind_eq_error {x : Except ε α} {f : α → Except ε β} {e : ε} :
    (x >>= f) = .error e ↔ x = .error e ∨ ∃ a, x = .ok a ∧ f a = .error e := by
  cases x <;> simp [bind, Except.bind]

/-- `raise` unless the check holds. -/
def guardE (c : Bool) (e : ε) : Except ε Unit := if c then .ok () else .error e

theorem guardE_eq_ok {c : Bool} {e : ε} {u : Unit} : guardE c e = .ok u ↔ c = true := by
  cases c <;> simp [guardE]

/-- `[f(i, x) for i, x in enumerate(xs, start)]`, stopping at the first exception. -/
def mapIdxE (f : ℕ → α → Except ε β) : ℕ → List α → Except ε (List β)
  | _, [] => .ok []
  | i, x :: xs => do
    let y ← f i x
    let ys ← mapIdxE f (i + 1) xs
    pure (y :: ys)

/-- An element on one side has a partner on the other. -/
theorem forall₂_exists {R : α → β → Prop} {xs : List α} {ys : List β} (h : List.Forall₂ R xs ys)
    {x : α} (hx : x ∈ xs) : ∃ y ∈ ys, R x y := by
  induction h with
  | nil => cases hx
  | cons hxy _ ih =>
    rcases List.mem_cons.mp hx with rfl | hx
    · exact ⟨_, List.mem_cons_self, hxy⟩
    · obtain ⟨y, hy, hR⟩ := ih hx
      exact ⟨y, List.mem_cons_of_mem _ hy, hR⟩

/-- `List.mapM` succeeds when every element does. -/
theorem mapM_eq_ok {f : α → Except ε β} {xs : List α} {ys : List β} :
    xs.mapM f = .ok ys ↔ List.Forall₂ (fun x y => f x = .ok y) xs ys := by
  induction xs generalizing ys with
  | nil =>
    rw [List.mapM_nil, List.forall₂_nil_left_iff]
    exact ⟨fun h => (Except.ok.inj h).symm, fun h => h ▸ rfl⟩
  | cons x xs ih =>
    rw [List.mapM_cons, List.forall₂_cons_left_iff, bind_eq_ok]
    constructor
    · rintro ⟨y, hy, h⟩
      obtain ⟨ys', hys, h⟩ := bind_eq_ok.mp h
      exact ⟨y, ys', hy, ih.mp hys, (Except.ok.inj h).symm⟩
    · rintro ⟨y, ys', hy, hys, rfl⟩
      exact ⟨y, hy, bind_eq_ok.mpr ⟨ys', ih.mpr hys, rfl⟩⟩

/-- Every element of a successful pass was accepted at some index. -/
theorem forall₂_of_mapIdxE {f : ℕ → α → Except ε β} {i : ℕ} {xs : List α} {ys : List β}
    (h : mapIdxE f i xs = .ok ys) : List.Forall₂ (fun x y => ∃ j, f j x = .ok y) xs ys := by
  induction xs generalizing i ys with
  | nil =>
    simp only [mapIdxE, Except.ok.injEq] at h
    subst h
    exact .nil
  | cons x xs ih =>
    simp only [mapIdxE, bind_eq_ok] at h
    obtain ⟨y, hy, ys', hys, h⟩ := h
    simp only [pure, Except.pure, Except.ok.injEq] at h
    subst h
    exact .cons ⟨i, hy⟩ (ih hys)

end except

end PyData
