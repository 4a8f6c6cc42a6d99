import Aotp.Checkpoint.StateFile

/-!
# The round trip of a state

* `validateState_sorted` — a valid state with its mappings in another order is valid.
* `loadState_saveState` — **a valid state that is saved is loaded again**, one revision higher.
* `loadState_eq_ok` — what is loaded is the payload of an envelope with its digest, and valid.
* `loaded_unique` — **under one digest one state is loaded**.
-/

namespace Aotp.Checkpoint

open PyData
open Aotp.Evidence (pyLen allHex isDigestValue require require_eq_ok textOf distinct)

variable {rt : Runtime} {x y : Json} {items : List Json}

/-! ### What is iterated over -/

theorem sortedItems_of_hashable (h : ∀ item ∈ items, item.hashable = true) :
    Json.sortedItems items = items := by
  rw [Json.sortedItems_eq_map]
  calc items.map Json.sorted = items.map id :=
        List.map_congr_left fun item hitem => Json.sorted_of_hashable (h item hitem)
    _ = items := List.map_id items

/-- Hashable items are iterated over all the same, but for the order of the keys of a mapping, which
are texts. -/
theorem iter_sorted (hx : x.iter = .ok items) (hitems : ∀ item ∈ items, item.hashable = true) :
    x.sorted.iter = .ok items ∨
      ∃ keys keys' : List String, items = keys.map Json.str ∧ x.sorted.iter = .ok (keys'.map Json.str) ∧
        keys'.Perm keys := by
  cases x with
  | arr entries =>
    cases hx
    left
    show Except.ok (Json.sortedItems items) = _
    rw [sortedItems_of_hashable hitems]
  | obj m =>
    cases hx
    exact .inr ⟨dkeys m, dkeys (Json.sortedEntries m), rfl, rfl, dkeys_sortedEntries m⟩
  | str s => exact .inl hx
  | _ => cases hx

/-- So the items are the same ones, and as many. -/
theorem iter_sorted_perm (hx : x.iter = .ok items)
    (hitems : ∀ item ∈ items, item.hashable = true) :
    ∃ items', x.sorted.iter = .ok items' ∧ items'.Perm items := by
  rcases iter_sorted hx hitems with hsame | ⟨keys, keys', rfl, hkeys, hperm⟩
  · exact ⟨items, hsame, List.Perm.refl items⟩
  · exact ⟨keys'.map Json.str, hkeys, hperm.map Json.str⟩

/-! ### Checks of one value -/

theorem allHex_eq_true : allHex items = .ok true ↔
    ∀ item ∈ items, pyIn item (.str "0123456789abcdef") = .ok true := by
  induction items with
  | nil => simp [allHex, pure, Except.pure]
  | cons item items ih =>
    unfold allHex
    rw [bind_eq_ok, List.forall_mem_cons]
    constructor
    · rintro ⟨b, hb, hrest⟩
      cases b with
      | true => exact ⟨hb, ih.mp hrest⟩
      | false => cases hrest
    · rintro ⟨hitem, hrest⟩
      exact ⟨true, hitem, ih.mpr hrest⟩

/-- Only texts are part of a text. -/
theorem hashable_of_pyIn {s : String} {b : Bool} (h : pyIn x (.str s) = .ok b) :
    x.hashable = true := by
  cases x with
  | str t => rfl
  | _ => cases h

theorem pyLen_eq_ok {n : ℕ} : pyLen x = .ok n ↔ ∃ items, x.iter = .ok items ∧ items.length = n := by
  unfold pyLen
  rw [bind_eq_ok]
  constructor
  · rintro ⟨items, hitems, hlength⟩
    exact ⟨items, hitems, Except.ok.inj hlength⟩
  · rintro ⟨items, hitems, rfl⟩
    exact ⟨items, hitems, rfl⟩

theorem isDigestValue_eq_true : isDigestValue x = .ok true ↔
    ∃ items, x.iter = .ok items ∧ items.length = 64 ∧
      ∀ item ∈ items, pyIn item (.str "0123456789abcdef") = .ok true := by
  unfold isDigestValue
  rw [bind_eq_ok]
  constructor
  · rintro ⟨n, hn, h⟩
    obtain ⟨items, hitems, rfl⟩ := pyLen_eq_ok.mp hn
    by_cases hlength : items.length = 64
    · rw [if_neg (not_not_intro hlength), hitems] at h
      exact ⟨items, hitems, hlength, allHex_eq_true.mp h⟩
    · rw [if_pos hlength] at h
      cases h
  · rintro ⟨items, hitems, hlength, hhex⟩
    refine ⟨64, pyLen_eq_ok.mpr ⟨items, hitems, hlength⟩, ?_⟩
    rw [if_neg (by simp), hitems]
    exact allHex_eq_true.mpr hhex

theorem isDigestValue_sorted (h : isDigestValue x = .ok true) :
    isDigestValue x.sorted = .ok true := by
  obtain ⟨items, hitems, hlength, hhex⟩ := isDigestValue_eq_true.mp h
  obtain ⟨items', hitems', hperm⟩ :=
    iter_sorted_perm hitems fun item hitem => hashable_of_pyIn (hhex item hitem)
  refine isDigestValue_eq_true.mpr ⟨items', hitems', hperm.length_eq.trans hlength, ?_⟩
  intro item hitem
  exact hhex item (hperm.mem_iff.mp hitem)

theorem isDigestOrNone_sorted (h : isDigestOrNone x = .ok true) :
    isDigestOrNone x.sorted = .ok true := by
  cases x with
  | null => rfl
  | str s => exact h
  | arr items => exact isDigestValue_sorted h
  | obj m => exact isDigestValue_sorted h
  | _ => cases h

theorem toSet_eq_ok {elements : List Json} : toSet x = .ok elements ↔
    x.iter = .ok elements ∧ ∀ item ∈ elements, item.hashable = true := by
  unfold toSet
  rw [bind_eq_ok]
  constructor
  · rintro ⟨items, hitems, h⟩
    split at h
    · rename_i hall
      cases h
      exact ⟨hitems, List.all_eq_true.mp hall⟩
    · cases h
  · rintro ⟨hiter, hall⟩
    refine ⟨elements, hiter, ?_⟩
    rw [if_pos (List.all_eq_true.mpr hall)]
    rfl

theorem distinct_cons (item : Json) (items : List Json) :
    distinct (item :: items) = if items.any item.pyEq then distinct items else distinct items + 1 :=
  rfl

/-- As many classes as items: no item equals a later one. -/
theorem distinct_le (items : List Json) : distinct items ≤ items.length := by
  induction items with
  | nil => exact le_refl _
  | cons item items ih =>
    rw [distinct_cons, List.length_cons]
    split
    · omega
    · omega

theorem length_eq_distinct_iff :
    items.length = distinct items ↔ items.Pairwise fun a b => a.pyEq b = false := by
  induction items with
  | nil => simp [distinct]
  | cons item items ih =>
    have hle := distinct_le items
    rw [List.pairwise_cons, ← ih, distinct_cons, List.length_cons]
    by_cases hany : items.any item.pyEq = true
    · rw [if_pos hany]
      obtain ⟨other, hother, heq⟩ := List.any_eq_true.mp hany
      constructor
      · intro hlength
        omega
      · rintro ⟨hnone, -⟩
        rw [hnone other hother] at heq
        cases heq
    · rw [if_neg hany]
      have hnone : ∀ other ∈ items, item.pyEq other = false := by
        intro other hother
        rw [Bool.eq_false_iff]
        intro heq
        exact hany (List.any_eq_true.mpr ⟨other, hother, heq⟩)
      constructor
      · intro hlength
        exact ⟨hnone, by omega⟩
      · rintro ⟨-, hlength⟩
        omega

theorem unrepeated_eq_true : unrepeated x = .ok true ↔
    ∃ elements, toSet x = .ok elements ∧ elements.Pairwise fun a b => a.pyEq b = false := by
  unfold unrepeated
  simp only [bind_eq_ok]
  constructor
  · rintro ⟨n, hn, elements, helements, h⟩
    obtain ⟨items, hitems, rfl⟩ := pyLen_eq_ok.mp hn
    have hsame : items = elements := by
      have hiter := (toSet_eq_ok.mp helements).1
      rw [hitems] at hiter
      exact Except.ok.inj hiter
    subst hsame
    refine ⟨items, helements, length_eq_distinct_iff.mp ?_⟩
    simpa using Except.ok.inj h
  · rintro ⟨elements, helements, hpairwise⟩
    have hiter := (toSet_eq_ok.mp helements).1
    refine ⟨elements.length, pyLen_eq_ok.mpr ⟨elements, hiter, rfl⟩, elements, helements, ?_⟩
    have hlength := length_eq_distinct_iff.mpr hpairwise
    show Except.ok (elements.length == distinct elements) = _
    rw [← hlength]
    simp

/-- Texts are compared as texts. -/
theorem pyEq_strs {a b : String} : (Json.str a).pyEq (.str b) = false ↔ a ≠ b := by
  rw [Bool.eq_false_iff, Ne, Json.pyEq_str_left, Json.str.injEq]
  exact not_congr eq_comm

theorem pairwise_strs {texts : List String} :
    (texts.map Json.str).Pairwise (fun a b => a.pyEq b = false) ↔ texts.Nodup := by
  rw [List.pairwise_map]
  exact List.Pairwise.iff fun _ _ => pyEq_strs

theorem unrepeated_sorted (h : unrepeated x = .ok true) : unrepeated x.sorted = .ok true := by
  obtain ⟨elements, helements, hpairwise⟩ := unrepeated_eq_true.mp h
  obtain ⟨hiter, hhashable⟩ := toSet_eq_ok.mp helements
  apply unrepeated_eq_true.mpr
  rcases iter_sorted hiter hhashable with hsame | ⟨keys, keys', rfl, hkeys, hperm⟩
  · exact ⟨elements, toSet_eq_ok.mpr ⟨hsame, hhashable⟩, hpairwise⟩
  · have hnodup : keys'.Nodup := hperm.nodup_iff.mpr (pairwise_strs.mp hpairwise)
    refine ⟨keys'.map Json.str, toSet_eq_ok.mpr ⟨hkeys, ?_⟩, pairwise_strs.mpr hnodup⟩
    intro item hitem
    obtain ⟨key, -, rfl⟩ := List.mem_map.mp hitem
    rfl

theorem overlapOf_eq_nil : overlapOf x y = .ok [] ↔
    ∃ first second, toSet x = .ok first ∧ toSet y = .ok second ∧
      ∀ a ∈ first, ∀ b ∈ second, a.pyEq b = false := by
  unfold overlapOf
  simp only [bind_eq_ok]
  constructor
  · rintro ⟨first, hfirst, second, hsecond, h⟩
    refine ⟨first, second, hfirst, hsecond, ?_⟩
    intro a ha b hb
    have hnone := List.filter_eq_nil_iff.mp (Except.ok.inj h) a ha
    rw [Bool.eq_false_iff]
    intro heq
    exact hnone (List.any_eq_true.mpr ⟨b, hb, heq⟩)
  · rintro ⟨first, second, hfirst, hsecond, h⟩
    refine ⟨first, hfirst, second, hsecond, congrArg Except.ok (List.filter_eq_nil_iff.mpr ?_)⟩
    intro a ha hany
    obtain ⟨b, hb, heq⟩ := List.any_eq_true.mp hany
    rw [h a ha b hb] at heq
    cases heq

theorem toSet_sorted {elements : List Json} (h : toSet x = .ok elements) :
    ∃ elements', toSet x.sorted = .ok elements' ∧ elements'.Perm elements := by
  obtain ⟨hiter, hhashable⟩ := toSet_eq_ok.mp h
  obtain ⟨elements', helements', hperm⟩ := iter_sorted_perm hiter hhashable
  refine ⟨elements', toSet_eq_ok.mpr ⟨helements', ?_⟩, hperm⟩
  intro item hitem
  exact hhashable item (hperm.mem_iff.mp hitem)

theorem overlapOf_sorted (h : overlapOf x y = .ok []) : overlapOf x.sorted y.sorted = .ok [] := by
  obtain ⟨first, second, hfirst, hsecond, hnone⟩ := overlapOf_eq_nil.mp h
  obtain ⟨first', hfirst', hperm⟩ := toSet_sorted hfirst
  obtain ⟨second', hsecond', hperm'⟩ := toSet_sorted hsecond
  refine overlapOf_eq_nil.mpr ⟨first', second', hfirst', hsecond', ?_⟩
  intro a ha b hb
  exact hnone a (hperm.mem_iff.mp ha) b (hperm'.mem_iff.mp hb)

theorem isCount_sorted : isCount x.sorted = isCount x := by
  cases x <;> rfl

theorem isCounter_sorted (h : isCounter x = true) : isCounter x.sorted = true := by
  cases x with
  | obj m =>
    apply List.all_eq_true.mpr
    have hcounts : ∀ e ∈ m, isCount e.2 = true := List.all_eq_true.mp h
    clear h
    induction m with
    | nil => exact fun e he => absurd he List.not_mem_nil
    | cons e m ih =>
      obtain ⟨k, v⟩ := e
      rw [List.forall_mem_cons] at hcounts
      intro f hf
      rcases List.mem_cons.mp ((insertByKey_perm _ _).mem_iff.mp hf) with rfl | hf
      · exact isCount_sorted.trans hcounts.1
      · exact ih hcounts.2 f hf
  | _ => cases h

theorem timestampValidValue_sorted (h : timestampValidValue rt x = .ok true) :
    timestampValidValue rt x.sorted = .ok true := by
  cases x with
  | str s => exact h
  | _ => cases h

theorem atLeast_sorted {bound : ℤ} : atLeast bound x.sorted = atLeast bound x := by
  unfold atLeast
  rw [Json.num?_sorted]

theorem andThen_eq_true {a b : Except Exc Bool} :
    andThen a b = .ok true ↔ a = .ok true ∧ b = .ok true := by
  unfold andThen
  rw [bind_eq_ok]
  constructor
  · rintro ⟨c, hc, h⟩
    cases c with
    | true => exact ⟨hc, h⟩
    | false => cases h
  · rintro ⟨ha, hb⟩
    exact ⟨true, ha, hb⟩

theorem inTexts_sorted {texts : List String} (h : inTexts x texts = .ok true) :
    inTexts x.sorted texts = .ok true := by
  have hhashable : x.hashable = true := by
    by_contra hnot
    rw [inTexts_of_not_hashable (eq_false_of_ne_true hnot)] at h
    cases h
  rw [Json.sorted_of_hashable hhashable]
  exact h

theorem pyEq_str_sorted {s : String} : x.sorted.pyEq (.str s) = x.pyEq (.str s) := by
  rw [Bool.eq_iff_iff, Json.pyEq_str_right, Json.pyEq_str_right, Json.sorted_eq_str]

/-! ### Checks of a state -/

section dispositions

variable {m : Dict}

theorem checkDuplicates_eq_ok {names : List (String × String)} :
    checkDuplicates m names = .ok () ↔
      ∀ name ∈ names, unrepeated (dget m name.2) = .ok true := by
  induction names with
  | nil => simp [checkDuplicates, pure, Except.pure]
  | cons name names ih =>
    simp only [checkDuplicates, bind_eq_ok, require_eq_ok, exists_const, ih, List.forall_mem_cons]

theorem checkOverlapWith_eq_ok {left : String × String} {names : List (String × String)}
    {u : Unit} : checkOverlapWith m left names = .ok u ↔
      ∀ right ∈ names, overlapOf (dget m left.2) (dget m right.2) = .ok [] := by
  induction names with
  | nil => simp [checkOverlapWith, pure, Except.pure]
  | cons right names ih =>
    simp only [checkOverlapWith, bind_eq_ok, guardE_eq_ok, exists_const, ih, List.forall_mem_cons,
      List.isEmpty_iff]
    constructor
    · rintro ⟨overlap, hoverlap, rfl, hrest⟩
      exact ⟨hoverlap, hrest⟩
    · rintro ⟨hoverlap, hrest⟩
      exact ⟨[], hoverlap, rfl, hrest⟩

theorem checkOverlaps_eq_ok {names : List (String × String)} :
    checkOverlaps m names = .ok () ↔
      names.Pairwise fun left right => overlapOf (dget m left.2) (dget m right.2) = .ok [] := by
  induction names with
  | nil => simp [checkOverlaps, pure, Except.pure]
  | cons left names ih =>
    simp only [checkOverlaps, bind_eq_ok, checkOverlapWith_eq_ok, exists_const, ih,
      List.pairwise_cons]

end dispositions

section sorted

variable {m m' : Dict} (hm : ∀ field, dget m' field = (dget m field).sorted)
include hm

theorem checkFields_sorted (h : checkFields rt m = .ok ()) : checkFields rt m' = .ok () := by
  simp only [checkFields, bind_eq_ok, guardE_eq_ok, require_eq_ok, andThen_eq_true] at h ⊢
  obtain ⟨_, hschema, _, hidentity, _, hdefinition, _, hscope, _, hstatus, _, ⟨hstart, hupdated⟩, _,
    ⟨hrevision, hiteration, helapsed⟩, hfailures⟩ := h
  simp only [hm, pyEq_str_sorted, Json.truthy_sorted, atLeast_sorted]
  exact ⟨(), hschema, (), hidentity, (), isDigestValue_sorted hdefinition, (),
    isDigestValue_sorted hscope, (), inTexts_sorted hstatus, (),
    ⟨timestampValidValue_sorted hstart, timestampValidValue_sorted hupdated⟩, (),
    ⟨hrevision, hiteration, helapsed⟩, hfailures⟩

theorem checkDuplicates_sorted {names : List (String × String)}
    (h : checkDuplicates m names = .ok ()) : checkDuplicates m' names = .ok () := by
  rw [checkDuplicates_eq_ok] at h ⊢
  intro name hname
  rw [hm]
  exact unrepeated_sorted (h name hname)

theorem checkOverlaps_sorted {names : List (String × String)}
    (h : checkOverlaps m names = .ok ()) : checkOverlaps m' names = .ok () := by
  rw [checkOverlaps_eq_ok] at h ⊢
  apply h.imp
  intro left right hnone
  rw [hm, hm]
  exact overlapOf_sorted hnone

theorem checkCounters_sorted {name : String} (h : checkCounters m name = .ok ()) :
    checkCounters m' name = .ok () := by
  unfold checkCounters at h ⊢
  rw [hm]
  exact guardE_eq_ok.mpr (isCounter_sorted (guardE_eq_ok.mp h))

theorem checkPendingReview_sorted (h : checkPendingReview m = .ok ()) :
    checkPendingReview m' = .ok () := by
  unfold checkPendingReview at h ⊢
  rw [hm, hm, hm, pyEq_str_sorted, Json.truthy_sorted, Json.truthy_sorted]
  split at h
  · rename_i hpaused
    rw [if_pos hpaused]
    exact h
  · rename_i hpaused
    rw [if_neg hpaused]
    cases hreview : dget m "pending_review" with
    | null => rfl
    | _ =>
      rw [hreview] at h
      cases h

theorem checkStatus_sorted (h : checkStatus m = .ok ()) : checkStatus m' = .ok () := by
  simp only [checkStatus, bind_eq_ok, guardE_eq_ok, require_eq_ok] at h ⊢
  obtain ⟨_, hcompleted, _, hhash, _, hreview, hreviewed⟩ := h
  simp only [hm, pyEq_str_sorted, Json.truthy_sorted]
  exact ⟨(), hcompleted, (), isDigestOrNone_sorted hhash, (), checkPendingReview_sorted hm hreview,
    unrepeated_sorted hreviewed⟩

/-- **A valid state with its mappings in another order is valid.** -/
theorem checkAttributes_sorted (h : checkAttributes rt m = .ok ()) :
    checkAttributes rt m' = .ok () := by
  simp only [checkAttributes, bind_eq_ok] at h ⊢
  obtain ⟨_, hfields, _, hduplicates, _, hoverlaps, _, hrequests, _, hendpoints, _, hrates,
    hstatus⟩ := h
  exact ⟨(), checkFields_sorted hm hfields, (), checkDuplicates_sorted hm hduplicates, (),
    checkOverlaps_sorted hm hoverlaps, (), checkCounters_sorted hm hrequests, (),
    checkCounters_sorted hm hendpoints, (), checkCounters_sorted hm hrates,
    checkStatus_sorted hm hstatus⟩

end sorted

/-! ### Instances -/

theorem make_eq_ok {payload : Dict} {s : StateRecord} :
    StateRecord.make payload = .ok s ↔ construct stateFields payload = .ok s.attributes := by
  unfold StateRecord.make
  constructor
  · intro h
    split at h
    · rename_i attributes hattributes
      cases h
      exact hattributes
    · cases h
  · intro h
    split
    · rename_i attributes hattributes
      rw [h] at hattributes
      cases hattributes
      rfl
    · rename_i e he
      rw [h] at he
      cases he

theorem dget?_map_names (value : String → Json) (names : List String) (k : String) :
    dget? (names.map fun name => (name, value name)) k =
      if k ∈ names then some (value k) else none := by
  induction names with
  | nil => rfl
  | cons name names ih =>
    rw [List.map_cons, dget?_cons, ih]
    by_cases hk : k = name
    · simp [hk]
    · simp [hk]

theorem mem_dkeys_iff {m : Dict} {k : String} : k ∈ dkeys m ↔ ∃ v, dget? m k = some v := by
  induction m with
  | nil => simp [dkeys]
  | cons e m ih =>
    obtain ⟨k', w⟩ := e
    rw [dget?_cons]
    show k ∈ k' :: dkeys m ↔ _
    rw [List.mem_cons, ih]
    by_cases hk : k = k'
    · simp [hk]
    · simp [hk]

/-- An instance from one value for each field. -/
theorem construct_of_perm {fields : List DataField} {given : Dict}
    (h : (dkeys given).Perm (fields.map (·.name))) :
    construct fields given = .ok (fields.map fun f => (f.name, dget given f.name)) := by
  have hknown : (given.all fun e => fields.any fun f => f.name == e.1) = true := by
    apply List.all_eq_true.mpr
    intro e he
    have hkey : e.1 ∈ fields.map (·.name) := h.mem_iff.mp (List.mem_map_of_mem he)
    obtain ⟨f, hf, hname⟩ := List.mem_map.mp hkey
    exact List.any_eq_true.mpr ⟨f, hf, by simpa using hname⟩
  have hvalues : ∀ f ∈ fields, f.value given = .ok (dget given f.name) := by
    intro f hf
    have hkey : f.name ∈ dkeys given := h.mem_iff.mpr (List.mem_map_of_mem hf)
    obtain ⟨v, hv⟩ := mem_dkeys_iff.mp hkey
    unfold DataField.value dget
    rw [hv]
    rfl
  unfold construct
  rw [bind_eq_ok]
  refine ⟨(), guardE_eq_ok.mpr hknown, mapM_eq_ok.mpr ?_⟩
  clear h hknown
  induction fields with
  | nil => exact .nil
  | cons f fields ih =>
    rw [List.forall_mem_cons] at hvalues
    refine .cons ?_ (ih hvalues.2)
    rw [hvalues.1]
    rfl

/-- A missing field reads as nothing. -/
theorem StateRecord.get_of_not_mem (s : StateRecord) {field : String} (h : field ∉ fieldNames) :
    s.get field = .null := by
  unfold StateRecord.get dget
  rw [dget?_eq_none_of_not_mem (s.complete ▸ h)]
  rfl

/-- **The payload with its keys sorted gives the instance with its values sorted.** -/
theorem make_sorted (s : StateRecord) :
    ∃ loaded, StateRecord.make (Json.sortedEntries s.attributes) = .ok loaded ∧
      ∀ field, loaded.get field = (s.get field).sorted := by
  have hkeys : (dkeys (Json.sortedEntries s.attributes)).Perm (stateFields.map (·.name)) := by
    have hperm := dkeys_sortedEntries s.attributes
    rw [s.complete] at hperm
    exact hperm
  have hconstruct := construct_of_perm hkeys
  refine ⟨⟨_, dkeys_of_construct hconstruct⟩, make_eq_ok.mpr hconstruct, ?_⟩
  intro field
  have hread : dget? (stateFields.map fun f =>
      (f.name, dget (Json.sortedEntries s.attributes) f.name)) field =
      if field ∈ fieldNames then some (dget (Json.sortedEntries s.attributes) field) else none := by
    have hnames := dget?_map_names (fun name => dget (Json.sortedEntries s.attributes) name)
      fieldNames field
    unfold fieldNames at hnames
    rw [List.map_map] at hnames
    exact hnames
  show (dget? (stateFields.map fun f =>
    (f.name, dget (Json.sortedEntries s.attributes) f.name)) field).getD .null = _
  rw [hread]
  by_cases hfield : field ∈ fieldNames
  · rw [if_pos hfield]
    exact dget_sortedEntries s.attributes field
  · rw [if_neg hfield, s.get_of_not_mem hfield]
    rfl

/-! ### Saving and loading -/

/-- Two instances hold the same values, but for the order of the keys of mappings. -/
def StateRecord.Same (s t : StateRecord) : Prop := ∀ field, (s.get field).Same (t.get field)

/-- A valid state has a number for its revision. -/
theorem revision_of_valid {s : StateRecord} (h : validateState rt s = .ok ()) :
    ∃ q, (s.get "state_revision").num? = some q ∧ ((0 : ℤ) : ℚ) ≤ q := by
  simp only [validateState, checkAttributes, checkFields, bind_eq_ok, require_eq_ok,
    andThen_eq_true] at h
  obtain ⟨_, ⟨_, -, _, -, _, -, _, -, _, -, _, -, _, ⟨hrevision, -⟩, -⟩, -⟩ := h
  unfold atLeast at hrevision
  split at hrevision
  · rename_i q hq
    exact ⟨q, hq, of_decide_eq_true (Except.ok.inj hrevision)⟩
  · cases hrevision

theorem succNumber_of_num {x : Json} {q : ℚ} (h : x.num? = some q) :
    ∃ y, succNumber x = .ok y ∧ y.num? = some (q + 1) := by
  cases x with
  | bool b =>
    refine ⟨_, rfl, ?_⟩
    cases Option.some.inj h
    cases b
    · show some ((1 : ℤ) : ℚ) = some (0 + 1)
      rw [Int.cast_one, zero_add]
    · show some ((2 : ℤ) : ℚ) = some (1 + 1)
      rw [Int.cast_two, one_add_one_eq_two]
  | int n =>
    refine ⟨_, rfl, ?_⟩
    cases Option.some.inj h
    show some (((n + 1 : ℤ) : ℚ)) = some ((n : ℚ) + 1)
    rw [Int.cast_add, Int.cast_one]
  | float r =>
    refine ⟨_, rfl, ?_⟩
    cases Option.some.inj h
    rfl
  | _ => cases h

/-- Saving changes the revision, and only that. -/
theorem bump_of_num {s : StateRecord} {q : ℚ} (h : (s.get "state_revision").num? = some q) :
    ∃ bumped, s.bump = .ok bumped ∧ (bumped.get "state_revision").num? = some (q + 1) ∧
      ∀ field ≠ "state_revision", bumped.get field = s.get field := by
  obtain ⟨revision, hrevision, hnumber⟩ := succNumber_of_num h
  refine ⟨s.set "state_revision" revision (by decide), ?_, ?_, ?_⟩
  · unfold StateRecord.bump
    rw [hrevision]
    rfl
  · show (dget (dset s.attributes "state_revision" revision) "state_revision").num? = _
    rw [dget_dset_self]
    exact hnumber
  · intro field hfield
    exact dget_dset_of_ne s.attributes revision hfield

/-- The check looks at the revision only to see that it is not negative. -/
theorem checkAttributes_of_revision {m m' : Dict}
    (hm : ∀ field, field ≠ "state_revision" → dget m' field = dget m field)
    (hrevision : atLeast 0 (dget m' "state_revision") = .ok true)
    (h : checkAttributes rt m = .ok ()) : checkAttributes rt m' = .ok () := by
  simp only [checkAttributes, bind_eq_ok] at h ⊢
  obtain ⟨_, hfields, _, hduplicates, _, hoverlaps, _, hrequests, _, hendpoints, _, hrates,
    hstatus⟩ := h
  refine ⟨(), ?_, (), ?_, (), ?_, (), ?_, (), ?_, (), ?_, ?_⟩
  · simp only [checkFields, bind_eq_ok, require_eq_ok, andThen_eq_true] at hfields ⊢
    obtain ⟨_, hschema, _, hidentity, _, hdefinition, _, hscope, _, hstatus, _, htimes, _,
      ⟨-, hcounts⟩, hfailures⟩ := hfields
    simp (disch := decide) only [hm]
    exact ⟨(), hschema, (), hidentity, (), hdefinition, (), hscope, (), hstatus, (), htimes, (),
      ⟨hrevision, hcounts⟩, hfailures⟩
  · unfold dispositionNames at hduplicates ⊢
    simp only [checkDuplicates] at hduplicates ⊢
    simp (disch := decide) only [hm]
    exact hduplicates
  · unfold dispositionNames at hoverlaps ⊢
    simp only [checkOverlaps, checkOverlapWith] at hoverlaps ⊢
    simp (disch := decide) only [hm]
    exact hoverlaps
  · unfold checkCounters at hrequests ⊢
    simp (disch := decide) only [hm]
    exact hrequests
  · unfold checkCounters at hendpoints ⊢
    simp (disch := decide) only [hm]
    exact hendpoints
  · unfold checkCounters at hrates ⊢
    simp (disch := decide) only [hm]
    exact hrates
  · unfold checkStatus checkPendingReview at hstatus ⊢
    simp (disch := decide) only [hm]
    exact hstatus

/-- **A valid state can be saved**, one revision higher, and is valid then. -/
theorem bump_of_valid {s : StateRecord} (h : validateState rt s = .ok ()) :
    ∃ bumped q, s.bump = .ok bumped ∧ validateState rt bumped = .ok () ∧
      (s.get "state_revision").num? = some q ∧ (bumped.get "state_revision").num? = some (q + 1) ∧
      ∀ field ≠ "state_revision", bumped.get field = s.get field := by
  obtain ⟨q, hq, hnonneg⟩ := revision_of_valid h
  obtain ⟨bumped, hbump, hnumber, hothers⟩ := bump_of_num hq
  refine ⟨bumped, q, hbump, ?_, hq, hnumber, hothers⟩
  apply checkAttributes_of_revision hothers ?_ h
  have hread : (dget bumped.attributes "state_revision").num? = some (q + 1) := hnumber
  have hbound : ((0 : ℤ) : ℚ) ≤ q + 1 := by
    rw [Int.cast_zero] at hnonneg ⊢
    exact add_nonneg hnonneg zero_le_one
  unfold atLeast
  rw [hread]
  exact congrArg Except.ok (decide_eq_true hbound)

/-- The state that is loaded, beside the one that was saved: **the same, one revision higher**. -/
structure OneHigher (s loaded : StateRecord) : Prop where
  revision : ∃ q, (s.get "state_revision").num? = some q ∧
    (loaded.get "state_revision").num? = some (q + 1)
  others : ∀ field ≠ "state_revision", (loaded.get field).Same (s.get field)

/-- `json.loads` gives back what `json.dump` wrote: of a mapping, its keys as they were sorted. -/
def Lossless (rt : Runtime) (loads : String → Except Exc Json) (s : StateRecord) : Prop :=
  loads (fileText rt s) = .ok (envelopeOf rt s).sorted

theorem validateState_sorted {s loaded : StateRecord}
    (hread : ∀ field, loaded.get field = (s.get field).sorted) (h : validateState rt s = .ok ()) :
    validateState rt loaded = .ok () :=
  checkAttributes_sorted hread h

variable {loads : String → Except Exc Json}

/-- The envelope as it is read: the payload with sorted keys, and its digest. -/
theorem envelopeOf_sorted (rt : Runtime) (s : StateRecord) :
    ∃ entries, (envelopeOf rt s).sorted = .obj entries ∧
      dget entries "schema_version" = .str "1.0" ∧
      dget entries "state" = .obj (Json.sortedEntries s.attributes) ∧
      dget entries "sha256" = .str (digest rt (.obj (Json.sortedEntries s.attributes))) := by
  have hdigest : digest rt (.obj (Json.sortedEntries s.attributes)) = digest rt s.payload :=
    digest_sorted rt s.payload
  refine ⟨_, rfl, ?_, ?_, ?_⟩
  · rw [dget_sortedEntries]
    rfl
  · rw [dget_sortedEntries]
    rfl
  · rw [dget_sortedEntries, hdigest]
    rfl

/-- What is accepted: the payload of an envelope that records its digest, and a valid state. -/
structure Accepted (rt : Runtime) (envelope : Json) (payload : Dict) (s : StateRecord) : Prop where
  entries : ∃ m, envelope = .obj m ∧ dget m "schema_version" = .str "1.0" ∧
    dget m "state" = .obj payload ∧ dget m "sha256" = .str (digest rt (.obj payload))
  made : StateRecord.make payload = .ok s
  valid : validateState rt s = .ok ()

theorem readEnvelope_eq_ok {file : Except Exc String} {envelope : Json} :
    readEnvelope loads file = .ok envelope ↔ ∃ content, file = .ok content ∧
      loads content = .ok envelope := by
  unfold readEnvelope
  constructor
  · intro h
    split at h
    · cases h
    · cases h
    · rename_i content
      split at h
      · cases h
      · exact ⟨content, rfl, h⟩
  · rintro ⟨content, rfl, h⟩
    simp only [h]

theorem envelopeEntries_eq_ok {envelope : Json} {m : Dict} :
    envelopeEntries envelope = .ok m ↔
      envelope = .obj m ∧ dget m "schema_version" = .str "1.0" := by
  cases envelope with
  | obj entries =>
    simp only [envelopeEntries, bind_eq_ok, guardE_eq_ok, Json.pyEq_str_right]
    constructor
    · rintro ⟨_, hschema, h⟩
      cases h
      exact ⟨rfl, hschema⟩
    · rintro ⟨h, hschema⟩
      cases h
      exact ⟨(), hschema, rfl⟩
  | _ => simp [envelopeEntries]

theorem payloadOf_eq_ok {m payload : Dict} :
    payloadOf rt m = .ok payload ↔
      dget m "state" = .obj payload ∧ dget m "sha256" = .str (digest rt (.obj payload)) := by
  unfold payloadOf
  cases hstate : dget m "state" with
  | obj entries =>
    simp only [bind_eq_ok, guardE_eq_ok, Json.pyEq_str_right]
    constructor
    · rintro ⟨_, hdigest, h⟩
      cases h
      exact ⟨rfl, hdigest⟩
    · rintro ⟨h, hdigest⟩
      cases h
      exact ⟨(), hdigest, rfl⟩
  | _ => simp

theorem constructState_eq_ok {payload : Dict} {s : StateRecord} :
    constructState payload = .ok s ↔ StateRecord.make payload = .ok s := by
  unfold constructState
  split
  · rename_i h
    rw [h]
    constructor
    · intro h
      cases h
    · intro h
      cases h
  · exact Iff.rfl

/-- **What is loaded**: the payload of an envelope that records its digest, and a valid state. -/
theorem loadState_eq_ok {file : Except Exc String} {s : StateRecord} :
    loadState rt loads file = .ok s ↔ ∃ content envelope payload, file = .ok content ∧
      loads content = .ok envelope ∧ Accepted rt envelope payload s := by
  simp only [loadState, bind_eq_ok, readEnvelope_eq_ok, envelopeEntries_eq_ok, payloadOf_eq_ok,
    constructState_eq_ok]
  constructor
  · rintro ⟨envelope, ⟨content, hfile, hloads⟩, m, ⟨henvelope, hschema⟩, payload,
      ⟨hstate, hdigest⟩, s', hmade, _, hvalid, h⟩
    cases h
    exact ⟨content, envelope, payload, hfile, hloads,
      ⟨⟨m, henvelope, hschema, hstate, hdigest⟩, hmade, hvalid⟩⟩
  · rintro ⟨content, envelope, payload, hfile, hloads,
      ⟨⟨m, henvelope, hschema, hstate, hdigest⟩, hmade, hvalid⟩⟩
    exact ⟨envelope, ⟨content, hfile, hloads⟩, m, ⟨henvelope, hschema⟩, payload,
      ⟨hstate, hdigest⟩, s, hmade, (), hvalid, rfl⟩

theorem saveState_eq_ok {s bumped : StateRecord} (hvalid : validateState rt s = .ok ())
    (hbump : s.bump = .ok bumped) : saveState rt s = .ok (bumped, fileText rt bumped) := by
  unfold saveState
  rw [hvalid]
  show (s.bump >>= fun bumped => pure (bumped, fileText rt bumped)) = _
  rw [hbump]
  rfl

/-- **A valid state that is saved is loaded again**, one revision higher. -/
theorem loadState_saveState {s : StateRecord} (hvalid : validateState rt s = .ok ())
    (hlossless : ∀ bumped, s.bump = .ok bumped → Lossless rt loads bumped) :
    ∃ bumped loaded, saveState rt s = .ok (bumped, fileText rt bumped) ∧
      loadState rt loads (.ok (fileText rt bumped)) = .ok loaded ∧ loaded.Same bumped ∧
      OneHigher s loaded := by
  obtain ⟨bumped, q, hbump, hbumped, hrevision, hsucc, hothers⟩ := bump_of_valid hvalid
  obtain ⟨loaded, hmade, hread⟩ := make_sorted bumped
  obtain ⟨entries, henvelope, hschema, hstate, hdigest⟩ := envelopeOf_sorted rt bumped
  have haccepted : Accepted rt (.obj entries) (Json.sortedEntries bumped.attributes) loaded :=
    ⟨⟨entries, rfl, hschema, hstate, hdigest⟩, hmade, validateState_sorted hread hbumped⟩
  have hloads : loads (fileText rt bumped) = .ok (.obj entries) := by
    rw [← henvelope]
    exact hlossless bumped hbump
  have hsame : loaded.Same bumped := by
    intro field
    unfold Json.Same
    rw [hread, Json.sorted_sorted]
  refine ⟨bumped, loaded, saveState_eq_ok hvalid hbump,
    loadState_eq_ok.mpr ⟨_, _, _, rfl, hloads, haccepted⟩, hsame, ⟨⟨q, hrevision, ?_⟩, ?_⟩⟩
  · rw [hread, Json.num?_sorted]
    exact hsucc
  · intro field hfield
    rw [← hothers field hfield]
    exact hsame field

/-! ### Edited files -/

/-- The texts of two payloads do not collide under SHA-256. -/
def CollisionFree (rt : Runtime) (payload edited : Dict) : Prop :=
  digest rt (.obj payload) = digest rt (.obj edited) →
    (Json.obj payload).dumps rt .canonical = (Json.obj edited).dumps rt .canonical

/-- Two payloads with one text are one payload. -/
def EncodedApart (rt : Runtime) (payload edited : Dict) : Prop :=
  (Json.obj payload).dumps rt .canonical = (Json.obj edited).dumps rt .canonical →
    (Json.obj payload).Same (.obj edited)

/-- An edited file: under the recorded digest stands another payload. -/
structure Edited (envelope edited : Json) (payload payload' : Dict) : Prop where
  entries : ∃ m m', envelope = .obj m ∧ edited = .obj m' ∧ dget m "state" = .obj payload ∧
    dget m' "state" = .obj payload' ∧ dget m' "sha256" = dget m "sha256"
  differ : ¬ (Json.obj payload).Same (.obj payload')

/-- **Under one digest one payload is accepted.** -/
theorem not_accepted_of_edited {envelope edited : Json} {payload payload' payload'' : Dict}
    {s s' : StateRecord} (haccepted : Accepted rt envelope payload s)
    (hedited : Edited envelope edited payload payload')
    (hfree : CollisionFree rt payload payload') (happart : EncodedApart rt payload payload') :
    ¬ Accepted rt edited payload'' s' := by
  intro haccepted'
  obtain ⟨m, henvelope, -, hstate, hdigest⟩ := haccepted.entries
  obtain ⟨m', hedit, -, hstate', hdigest'⟩ := haccepted'.entries
  obtain ⟨⟨n, n', hn, hn', -, hother, hkept⟩, hdiffer⟩ := hedited
  cases hn.symm.trans henvelope
  cases hn'.symm.trans hedit
  cases hother.symm.trans hstate'
  rw [hdigest, hdigest'] at hkept
  exact hdiffer (happart (hfree (Json.str.inj hkept).symm))

/-- The loading of a text that is not accepted is refused. -/
theorem refused_of_not_accepted {content : String} {envelope : Json}
    (hloads : loads content = .ok envelope)
    (h : ∀ payload s, ¬ Accepted rt envelope payload s) :
    ∃ e, loadState rt loads (.ok content) = .error e := by
  cases hload : loadState rt loads (.ok content) with
  | error e => exact ⟨e, rfl⟩
  | ok s =>
    obtain ⟨content', envelope', payload, hcontent, hloads', haccepted⟩ := loadState_eq_ok.mp hload
    cases hcontent
    rw [hloads] at hloads'
    cases hloads'
    exact absurd haccepted (h payload s)

end Aotp.Checkpoint
