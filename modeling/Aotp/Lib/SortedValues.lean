import Aotp.Lib.Text

/-!
# Values with sorted keys

`Json.sorted` puts the entries of every mapping of a value in the order of their keys. What a program
reads of a value stays the same:

* `dkeys_sortedEntries`, `dget_sortedEntries` — the keys of a mapping and its entries, each sorted.
* `truthy_sorted`, `num?_sorted`, `sorted_of_hashable` — truth, numbers, values with a hash.
* `sorted_sorted` — the sorted value is sorted.
* `dumps_sorted` — **a serialisation that sorts keys is that of the sorted value**.
* `length_dumpChars_value` — the length of the text of a mapping, by the value under one key.

`Json.dumpsIndented` is the serialisation with one entry to a line.
-/

namespace PyData

/-! ### Entries by key -/

/-- Elements with different keys are put in their places in any order. -/
theorem orderedInsert_comm {α κ : Type*} [LinearOrder κ] (key : α → κ) {e f : α}
    (h : ¬ key e ≤ key f) (l : List α) :
    (l.orderedInsert (fun a b => key a ≤ key b) e).orderedInsert (fun a b => key a ≤ key b) f =
      (l.orderedInsert (fun a b => key a ≤ key b) f).orderedInsert (fun a b => key a ≤ key b) e := by
  have hfe : key f ≤ key e := le_of_not_ge h
  induction l with
  | nil => simp only [List.orderedInsert, if_pos hfe, if_neg h]
  | cons g l ih =>
    by_cases heg : key e ≤ key g
    · have hfg : key f ≤ key g := le_trans hfe heg
      simp only [List.orderedInsert, if_pos heg, if_pos hfg, if_pos hfe, if_neg h]
    · by_cases hfg : key f ≤ key g
      · simp only [List.orderedInsert, if_neg heg, if_pos hfg, if_neg h]
      · simp only [List.orderedInsert, if_neg heg, if_neg hfg, ih]

theorem insertByKey_eq (e : String × Json) (m : Dict) :
    insertByKey e m = List.orderedInsert (fun a b => a.1 ≤ b.1) e m := by
  induction m with
  | nil => rfl
  | cons f m ih => simp only [insertByKey, List.orderedInsert, ih]

theorem insertByKey_perm (e : String × Json) (m : Dict) : (insertByKey e m).Perm (e :: m) := by
  rw [insertByKey_eq]
  exact List.perm_orderedInsert _ e m

theorem dkeys_sortedEntries (m : Dict) : (dkeys (Json.sortedEntries m)).Perm (dkeys m) := by
  induction m with
  | nil => exact List.Perm.refl _
  | cons e m ih =>
    obtain ⟨k, v⟩ := e
    have hkeys := (insertByKey_perm (k, v.sorted) (Json.sortedEntries m)).map Prod.fst
    exact hkeys.trans (ih.cons k)

theorem dget?_insertByKey (e : String × Json) (m : Dict) (k : String) :
    dget? (insertByKey e m) k = if k = e.1 then some e.2 else dget? m k := by
  obtain ⟨k', v⟩ := e
  induction m with
  | nil => exact dget?_cons k k' v []
  | cons f m ih =>
    obtain ⟨k₀, w⟩ := f
    unfold insertByKey
    by_cases hle : k' ≤ k₀
    · rw [if_pos hle]
      exact dget?_cons k k' v _
    · rw [if_neg hle, dget?_cons, dget?_cons, ih]
      by_cases hk : k = k₀
      · -- an entry before the new one has another key
        have hne : k ≠ k' := by
          rintro rfl
          exact hle (hk ▸ le_refl _)
        rw [if_pos hk, if_neg hne, if_pos hk]
      · rw [if_neg hk, if_neg hk]

theorem dget?_sortedEntries (m : Dict) (k : String) :
    dget? (Json.sortedEntries m) k = (dget? m k).map Json.sorted := by
  induction m with
  | nil => rfl
  | cons e m ih =>
    obtain ⟨k', v⟩ := e
    rw [Json.sortedEntries, dget?_insertByKey, dget?_cons, ih]
    split <;> rfl

/-- A value under a key, of a mapping with sorted keys. -/
theorem dget_sortedEntries (m : Dict) (k : String) :
    dget (Json.sortedEntries m) k = (dget m k).sorted := by
  unfold dget
  rw [dget?_sortedEntries]
  cases dget? m k <;> rfl

namespace Json

/-! ### What a program reads -/

theorem sortedItems_eq_map (items : List Json) : sortedItems items = items.map sorted := by
  induction items with
  | nil => rfl
  | cons x items ih => rw [sortedItems, ih, List.map_cons]

theorem length_sortedEntries (m : Dict) : (sortedEntries m).length = m.length := by
  have hkeys := (dkeys_sortedEntries m).length_eq
  unfold dkeys at hkeys
  rwa [List.length_map, List.length_map] at hkeys

@[simp] theorem truthy_sorted (x : Json) : x.sorted.truthy = x.truthy := by
  cases x with
  | arr items => cases items <;> rfl
  | obj m =>
    have hempty : (sortedEntries m).isEmpty = m.isEmpty := by
      rw [Bool.eq_iff_iff, List.isEmpty_iff_length_eq_zero, List.isEmpty_iff_length_eq_zero,
        length_sortedEntries]
    simp only [sorted, truthy, hempty]
  | _ => rfl

@[simp] theorem num?_sorted (x : Json) : x.sorted.num? = x.num? := by
  cases x <;> rfl

/-- A value with a hash holds no mapping. -/
theorem sorted_of_hashable {x : Json} (h : x.hashable = true) : x.sorted = x := by
  cases x with
  | arr items => cases h
  | obj m => cases h
  | _ => rfl

@[simp] theorem hashable_sorted (x : Json) : x.sorted.hashable = x.hashable := by
  cases x <;> rfl

/-- A value is a text exactly where its sorted one is. -/
@[simp] theorem sorted_eq_str {x : Json} {s : String} : x.sorted = .str s ↔ x = .str s := by
  cases x <;> simp [sorted]

@[simp] theorem sorted_eq_null {x : Json} : x.sorted = .null ↔ x = .null := by
  cases x <;> simp [sorted]

theorem sortedEntries_insertByKey (k : String) (v : Json) (m : Dict) :
    sortedEntries (insertByKey (k, v) m) = insertByKey (k, v.sorted) (sortedEntries m) := by
  induction m with
  | nil => rfl
  | cons f m ih =>
    obtain ⟨k₀, w⟩ := f
    show sortedEntries (if k ≤ k₀ then _ else _) = _
    by_cases hle : k ≤ k₀
    · rw [if_pos hle]
      rfl
    · have hkeys : ¬ (k, v.sorted).1 ≤ (k₀, w.sorted).1 := hle
      rw [if_neg hle, sortedEntries, ih, sortedEntries]
      simp only [insertByKey_eq]
      exact orderedInsert_comm Prod.fst hkeys _

mutual

/-- The sorted value is sorted. -/
theorem sorted_sorted (x : Json) : x.sorted.sorted = x.sorted := by
  cases x with
  | arr items =>
    show arr (sortedItems (sortedItems items)) = arr (sortedItems items)
    rw [sortedItems_sortedItems items]
  | obj m =>
    show obj (sortedEntries (sortedEntries m)) = obj (sortedEntries m)
    rw [sortedEntries_sortedEntries m]
  | _ => rfl

theorem sortedItems_sortedItems (items : List Json) :
    sortedItems (sortedItems items) = sortedItems items := by
  cases items with
  | nil => rfl
  | cons x items => rw [sortedItems, sortedItems, sorted_sorted x, sortedItems_sortedItems items]

theorem sortedEntries_sortedEntries (m : Dict) :
    sortedEntries (sortedEntries m) = sortedEntries m := by
  match m with
  | [] => rfl
  | (k, v) :: m =>
    rw [sortedEntries, sortedEntries_insertByKey, sorted_sorted v, sortedEntries_sortedEntries m]

end

end Json

/-! ### Serialisation -/

theorem insertEntry_eq (e : String × List Char) (l : List (String × List Char)) :
    insertEntry e l = l.orderedInsert (fun a b => a.1 ≤ b.1) e := by
  induction l with
  | nil => rfl
  | cons f l ih => simp only [insertEntry, List.orderedInsert, ih]

section dumps

variable (rt : Runtime) (style : DumpStyle)

/-- An entry is serialised where its key belongs, wherever it stood. -/
theorem dumpEntries_insertByKey (k : String) (v : Json) (m : Dict) :
    dumpEntries rt style (insertByKey (k, v) m) =
      insertEntry (k, v.dumpChars rt style) (dumpEntries rt style m) := by
  induction m with
  | nil => rfl
  | cons f m ih =>
    obtain ⟨k₀, w⟩ := f
    unfold insertByKey
    by_cases hle : k ≤ k₀
    · rw [if_pos hle]
      rfl
    · rw [if_neg hle, dumpEntries, ih, dumpEntries]
      simp only [insertEntry_eq]
      exact orderedInsert_comm Prod.fst hle _

mutual

/-- **A serialisation that sorts keys is that of the sorted value.** -/
theorem dumpChars_sorted (x : Json) : x.sorted.dumpChars rt style = x.dumpChars rt style := by
  cases x with
  | arr items =>
    unfold Json.sorted Json.dumpChars
    rw [dumpItems_sorted items]
  | obj m =>
    unfold Json.sorted Json.dumpChars
    rw [dumpEntries_sorted m]
  | _ => rfl

theorem dumpItems_sorted (items : List Json) :
    dumpItems rt style (Json.sortedItems items) = dumpItems rt style items := by
  cases items with
  | nil => rfl
  | cons x items =>
    unfold Json.sortedItems dumpItems
    rw [dumpChars_sorted x, dumpItems_sorted items]

theorem dumpEntries_sorted (m : Dict) :
    dumpEntries rt style (Json.sortedEntries m) = dumpEntries rt style m := by
  match m with
  | [] => rfl
  | (k, v) :: m =>
    unfold Json.sortedEntries
    rw [dumpEntries_insertByKey, dumpEntries, dumpChars_sorted v, dumpEntries_sorted m]

end

theorem dumps_sorted (x : Json) : x.sorted.dumps rt style = x.dumps rt style := by
  unfold Json.dumps
  rw [dumpChars_sorted]

theorem digest_sorted (x : Json) : digest rt x.sorted = digest rt x := by
  unfold digest
  rw [dumps_sorted]

/-! ### The length of a text -/

/-- The entries as they are serialised, in any order. -/
theorem dumpEntries_perm (m : Dict) :
    (dumpEntries rt style m).Perm (m.map fun e => (e.1, e.2.dumpChars rt style)) := by
  induction m with
  | nil => exact List.Perm.refl _
  | cons e m ih =>
    obtain ⟨k, v⟩ := e
    rw [dumpEntries, insertEntry_eq, List.map_cons]
    exact (List.perm_orderedInsert _ _ _).trans (ih.cons _)

theorem length_flatten_intersperse {α : Type*} (sep : List α) (parts : List (List α)) :
    ((List.intersperse sep parts).flatten).length =
      (parts.map List.length).sum + (parts.length - 1) * sep.length := by
  induction parts with
  | nil => simp
  | cons part parts ih =>
    cases parts with
    | nil => simp
    | cons next parts =>
      rw [List.intersperse_cons_cons, List.flatten_cons, List.flatten_cons, List.length_append,
        List.length_append, ih]
      simp only [List.map_cons, List.sum_cons, List.length_cons, Nat.add_sub_cancel, Nat.succ_mul]
      omega

/-- The length of an entry, with its key. -/
def entryLength (e : String × Json) : ℕ :=
  (dumpText style.ascii e.1 ++ style.colon ++ e.2.dumpChars rt style).length

theorem length_dumpChars_obj (m : Dict) : ((Json.obj m).dumpChars rt style).length =
    2 + (m.map (entryLength rt style)).sum + (m.length - 1) * style.comma.length := by
  let write (e : String × List Char) : List Char := dumpText style.ascii e.1 ++ style.colon ++ e.2
  have hperm := dumpEntries_perm rt style m
  have hsum : (((dumpEntries rt style m).map write).map List.length).sum =
      (m.map (entryLength rt style)).sum := by
    rw [((hperm.map write).map List.length).sum_eq, List.map_map, List.map_map]
    rfl
  have hlength : ((dumpEntries rt style m).map write).length = m.length := by
    rw [List.length_map, hperm.length_eq, List.length_map]
  have htext : (Json.obj m).dumpChars rt style =
      '{' :: ((List.intersperse style.comma ((dumpEntries rt style m).map write)).flatten ++ ['}']) :=
    rfl
  rw [htext, List.length_cons, List.length_append, length_flatten_intersperse, hsum, hlength,
    List.length_singleton]
  omega

/-- The text of a mapping is as much longer as the text of one of its values. -/
theorem length_dumpChars_value (before after : Dict) (k : String) :
    ∃ n, ∀ v, ((Json.obj (before ++ (k, v) :: after)).dumpChars rt style).length =
      n + (v.dumpChars rt style).length := by
  refine ⟨((Json.obj (before ++ (k, .null) :: after)).dumpChars rt style).length - 4, ?_⟩
  intro v
  have hnull : (Json.null.dumpChars rt style).length = 4 := rfl
  simp only [length_dumpChars_obj, List.map_append, List.map_cons, List.sum_append, List.sum_cons,
    List.length_append, List.length_cons, entryLength, hnull]
  omega

end dumps

/-! ### Indented serialisation -/

/-- A line break, and two blanks for each level. -/
def lineBreak (level : ℕ) : List Char := '\n' :: List.replicate (2 * level) ' '

/-- Parts one to a line, between two brackets; without parts the brackets alone. -/
def bracketed (opening closing : Char) (level : ℕ) (parts : List (List Char)) : List Char :=
  if parts.isEmpty then [opening, closing]
  else opening :: (lineBreak (level + 1) ++
    (List.intersperse (',' :: lineBreak (level + 1)) parts).flatten ++ lineBreak level ++ [closing])

mutual

/-- `json.dumps(x, indent=2, sort_keys=True)`, at a level, as a list of characters. -/
def Json.layout (rt : Runtime) (level : ℕ) : Json → List Char
  | .arr items => bracketed '[' ']' level (layoutItems rt (level + 1) items)
  | .obj entries =>
    bracketed '{' '}' level ((layoutEntries rt (level + 1) entries).map fun e =>
      dumpText true e.1 ++ [':', ' '] ++ e.2)
  | x => x.dumpChars rt .spaced

/-- The items of a list, each laid out. -/
def layoutItems (rt : Runtime) (level : ℕ) : List Json → List (List Char)
  | [] => []
  | x :: xs => Json.layout rt level x :: layoutItems rt level xs

/-- The entries of a mapping, sorted by key, each value laid out. -/
def layoutEntries (rt : Runtime) (level : ℕ) : List (String × Json) → List (String × List Char)
  | [] => []
  | (k, v) :: rest => insertEntry (k, Json.layout rt level v) (layoutEntries rt level rest)

end

/-- `json.dumps(x, indent=2, sort_keys=True)`. -/
def Json.dumpsIndented (rt : Runtime) (x : Json) : String := String.ofList (x.layout rt 0)

end PyData
