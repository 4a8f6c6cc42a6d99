import Aotp.Lib.Text

/-!
# Checked reading of configuration values

* `requireMapping`, `requireList`, `requireText`, `requireBool`, `requirePositiveInt`,
  `requireNonNegativeInt`, `requireTextList` — a value of the wanted shape, or a `ConfigError` that
  names the field.
* `rejectUnknown`, `validateUnique` — no other keys, no repetitions.
* For each of them, what a successful reading says about the value (`requireText_eq_ok` and so on).
-/

namespace Aotp.Gate

open PyData

/-- `ConfigError`, a `ValueError`.
Source: `config.ConfigError` -/
def configError (msg : String) : Exc := .custom "ConfigError" msg

/-- Source: `config.require_mapping` -/
def requireMapping (value : Json) (field : String) : Except Exc Dict :=
  match value with
  | .obj m => .ok m
  | _ => .error (configError (field ++ " must be a mapping"))

/-- Source: `config.require_list` -/
def requireList (value : Json) (field : String) : Except Exc (List Json) :=
  match value with
  | .arr items => .ok items
  | _ => .error (configError (field ++ " must be a list"))

/-- The trimmed text.
Source: `config.require_text` -/
def requireText (value : Json) (field : String) : Except Exc String :=
  match value with
  | .str s =>
    if strip s = "" then .error (configError (field ++ " must be non-empty text"))
    else .ok (strip s)
  | _ => .error (configError (field ++ " must be non-empty text"))

/-- Source: `config.require_bool` -/
def requireBool (value : Json) (field : String) : Except Exc Bool :=
  match value with
  | .bool b => .ok b
  | _ => .error (configError (field ++ " must be true or false"))

/-- Source: `config.require_positive_int` -/
def requirePositiveInt (value : Json) (field : String) : Except Exc ℤ :=
  match value with
  | .int n =>
    if 0 < n then .ok n else .error (configError (field ++ " must be a positive integer"))
  | _ => .error (configError (field ++ " must be a positive integer"))

/-- Source: `config.require_non_negative_int` -/
def requireNonNegativeInt (value : Json) (field : String) : Except Exc ℤ :=
  match value with
  | .int n =>
    if 0 ≤ n then .ok n else .error (configError (field ++ " must be a non-negative integer"))
  | _ => .error (configError (field ++ " must be a non-negative integer"))

/-- `f"{field}[{index}]"`. -/
def indexed (field : String) (index : ℕ) : String := field ++ "[" ++ Nat.repr index ++ "]"

/-- The trimmed texts.
Source: `config.require_text_list` -/
def requireTextList (value : Json) (field : String) (allowEmpty : Bool) :
    Except Exc (List String) := do
  let values ← requireList value field
  guardE (allowEmpty || !values.isEmpty) (configError (field ++ " must not be empty"))
  mapIdxE (fun index item => requireText item (indexed field index)) 0 values

/-- Source: `config._reject_unknown` -/
def rejectUnknown (mapping : Dict) (allowed : List String) (field : String) : Except Exc Unit :=
  let unknown := sortedTexts ((dkeys mapping).filter (· ∉ allowed))
  guardE unknown.isEmpty
    (configError (field ++ " contains unknown fields: " ++ joined unknown))

/-- Source: `config._validate_unique` -/
def validateUnique (values : List String) (field : String) : Except Exc Unit :=
  guardE (decide values.Nodup) (configError (field ++ " must not contain duplicates"))

/-! ### What a successful reading says -/

theorem requireMapping_eq_ok {v : Json} {field : String} {m : Dict} :
    requireMapping v field = .ok m ↔ v = .obj m := by
  cases v <;> simp [requireMapping]

theorem requireList_eq_ok {v : Json} {field : String} {items : List Json} :
    requireList v field = .ok items ↔ v = .arr items := by
  cases v <;> simp [requireList]

theorem requireText_eq_ok {v : Json} {field t : String} :
    requireText v field = .ok t ↔ ∃ s, v = .str s ∧ strip s = t ∧ t ≠ "" := by
  cases v with
  | str s =>
    by_cases hs : strip s = ""
    · simp only [requireText, if_pos hs, reduceCtorEq, Json.str.injEq, false_iff]
      rintro ⟨s', rfl, rfl, hne⟩
      exact hne hs
    · simp only [requireText, if_neg hs, Except.ok.injEq, Json.str.injEq]
      constructor
      · rintro rfl
        exact ⟨s, rfl, rfl, hs⟩
      · rintro ⟨s', rfl, rfl, -⟩
        rfl
  | _ => simp [requireText]

theorem requireBool_eq_ok {v : Json} {field : String} {b : Bool} :
    requireBool v field = .ok b ↔ v = .bool b := by
  cases v <;> simp [requireBool]

theorem requirePositiveInt_eq_ok {v : Json} {field : String} {n : ℤ} :
    requirePositiveInt v field = .ok n ↔ v = .int n ∧ 0 < n := by
  cases v with
  | int k =>
    by_cases hk : 0 < k
    · simp only [requirePositiveInt, if_pos hk, Except.ok.injEq, Json.int.injEq]
      constructor
      · rintro rfl
        exact ⟨rfl, hk⟩
      · rintro ⟨rfl, -⟩
        rfl
    · simp only [requirePositiveInt, if_neg hk, reduceCtorEq, Json.int.injEq, false_iff]
      rintro ⟨rfl, h⟩
      exact hk h
  | _ => simp [requirePositiveInt]

theorem requireNonNegativeInt_eq_ok {v : Json} {field : String} {n : ℤ} :
    requireNonNegativeInt v field = .ok n ↔ v = .int n ∧ 0 ≤ n := by
  cases v with
  | int k =>
    by_cases hk : 0 ≤ k
    · simp only [requireNonNegativeInt, if_pos hk, Except.ok.injEq, Json.int.injEq]
      constructor
      · rintro rfl
        exact ⟨rfl, hk⟩
      · rintro ⟨rfl, -⟩
        rfl
    · simp only [requireNonNegativeInt, if_neg hk, reduceCtorEq, Json.int.injEq, false_iff]
      rintro ⟨rfl, h⟩
      exact hk h
  | _ => simp [requireNonNegativeInt]

/-- The items are texts, and the result is their trimmed forms, none of them empty. -/
def TrimsTo (items : List Json) (ts : List String) : Prop :=
  List.Forall₂ (fun x t => ∃ s, x = Json.str s ∧ strip s = t ∧ t ≠ "") items ts

theorem requireTextList_eq_ok {v : Json} {field : String} {allowEmpty : Bool} {ts : List String}
    (h : requireTextList v field allowEmpty = .ok ts) :
    ∃ items, v = .arr items ∧ TrimsTo items ts ∧ (allowEmpty = true ∨ items ≠ []) := by
  simp only [requireTextList, bind_eq_ok, requireList_eq_ok, guardE_eq_ok] at h
  obtain ⟨items, rfl, _, hempty, hmap⟩ := h
  refine ⟨items, rfl, ?_, ?_⟩
  · exact (forall₂_of_mapIdxE hmap).imp fun x t ⟨_, hx⟩ => requireText_eq_ok.mp hx
  · rcases Bool.or_eq_true_iff.mp hempty with h | h
    · exact .inl h
    · exact .inr (by simpa using h)

theorem rejectUnknown_eq_ok {m : Dict} {allowed : List String} {field : String} {u : Unit} :
    rejectUnknown m allowed field = .ok u ↔ ∀ k ∈ dkeys m, k ∈ allowed := by
  simp only [rejectUnknown, guardE_eq_ok, List.isEmpty_iff, sortedTexts_eq_nil,
    List.filter_eq_nil_iff, decide_eq_true_eq, not_not]

theorem validateUnique_eq_ok {values : List String} {field : String} {u : Unit} :
    validateUnique values field = .ok u ↔ values.Nodup := by
  simp [validateUnique, guardE_eq_ok]

namespace TrimsTo

variable {items : List Json} {ts : List String}

/-- Every item is a text whose trimmed form is among the results. -/
theorem of_mem (h : TrimsTo items ts) {x : Json} (hx : x ∈ items) :
    ∃ s, x = .str s ∧ strip s ∈ ts ∧ strip s ≠ "" := by
  induction h with
  | nil => cases hx
  | cons hxy _ ih =>
    obtain ⟨s, rfl, rfl, hne⟩ := hxy
    rcases List.mem_cons.mp hx with rfl | hx
    · exact ⟨s, rfl, by simp, hne⟩
    · obtain ⟨s', rfl, hs', hne'⟩ := ih hx
      exact ⟨s', rfl, by simp [hs'], hne'⟩

/-- Every result is the trimmed form of an item. -/
theorem mem_iff (h : TrimsTo items ts) {t : String} :
    t ∈ ts ↔ ∃ s, Json.str s ∈ items ∧ strip s = t := by
  induction h with
  | nil => simp
  | cons hxy _ ih =>
    obtain ⟨s, rfl, rfl, hne⟩ := hxy
    simp only [List.mem_cons, ih, Json.str.injEq]
    constructor
    · rintro (rfl | ⟨s', hs', rfl⟩)
      · exact ⟨s, .inl rfl, rfl⟩
      · exact ⟨s', .inr hs', rfl⟩
    · rintro ⟨s', rfl | hs', rfl⟩
      · exact .inl rfl
      · exact .inr ⟨s', hs', rfl⟩

/-- The items are hashable, so they make a set. -/
theorem toSet (h : TrimsTo items ts) : PyData.toSet (.arr items) = .ok items := by
  have hall : items.all Json.hashable = true := by
    rw [List.all_eq_true]
    intro x hx
    obtain ⟨s, rfl, -⟩ := h.of_mem hx
    rfl
  simp [PyData.toSet, Json.iter, bind, Except.bind, hall, pure, Except.pure]

/-- `collect` reads the same texts. -/
theorem texts_eq (h : TrimsTo items ts) (p : String → Bool) :
    (items.filterMap fun x => match x with
      | .str s => if p (strip s) then some (strip s) else none
      | _ => none) = ts.filter p := by
  induction h with
  | nil => rfl
  | cons hxy _ ih =>
    obtain ⟨s, rfl, rfl, -⟩ := hxy
    by_cases hp : p (strip s) = true
    · simp [hp, ih]
    · simp [hp, ih]

end TrimsTo

end Aotp.Gate
