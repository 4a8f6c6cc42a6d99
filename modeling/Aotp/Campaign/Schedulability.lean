import Aotp.Lib.Dependencies
import Aotp.Campaign.Dependencies
import Aotp.Campaign.Agreement

/-!
# Every accepted campaign can be scheduled, if its ids are written alike

The parser searches the dependency graph over trimmed ids, the scheduler looks for the untrimmed ones.

* `visit_settled`, `settled_of_parse` — **the parser's search settles the graph**: its ids come in an
  order with the dependencies behind.
* `WellScheduled` — what a schedule should be.
* `schedule_iff` — an accepted campaign is scheduled so exactly when every dependency is written
  like the id it names.
-/

namespace Aotp.Campaign

open PyData Gate

variable {rt : Runtime}

/-! ### The parser's search -/

section search

variable {objectives : List CampaignObjective}

/-- What one visit does to the visited ids. -/
def Visits (objectives : List CampaignObjective) (ids visited visited' : List String) : Prop :=
  Settled (dependenciesOf objectives) visited → Settled (dependenciesOf objectives) visited' ∧
    visited ⊆ visited' ∧ ∀ id ∈ ids, id ∈ visited'

/-- Visits one after the other. -/
theorem visits_of_foldlM {f : List String → String → Except Exc (List String)}
    (hf : ∀ visited id visited', f visited id = .ok visited' →
      Visits objectives [id] visited visited') {ids visited visited' : List String}
    (h : ids.foldlM f visited = .ok visited') : Visits objectives ids visited visited' := by
  induction ids generalizing visited with
  | nil =>
    cases h
    exact fun hsettled => ⟨hsettled, List.Subset.refl _, by simp⟩
  | cons id ids ih =>
    rw [List.foldlM_cons] at h
    obtain ⟨next, hnext, hrest⟩ := bind_eq_ok.mp h
    intro hsettled
    obtain ⟨hsettled', hsub, hid⟩ := hf _ _ _ hnext hsettled
    obtain ⟨hfinal, hsub', hids⟩ := ih hrest hsettled'
    refine ⟨hfinal, List.Subset.trans hsub hsub', ?_⟩
    intro other hother
    rcases List.mem_cons.mp hother with rfl | hother
    · exact hsub' (hid other List.mem_cons_self)
    · exact hids other hother

/-- **A visit settles what it visits**: an id is added when its dependencies are. The induction is on
the fuel. -/
theorem visit_settled {fuel : ℕ} {visiting visited visited' : List String} {id : String}
    (h : visit objectives fuel visiting visited id = .ok visited') :
    Visits objectives [id] visited visited' := by
  induction fuel generalizing visiting visited visited' id with
  | zero => cases h
  | succ fuel ih =>
    unfold visit at h
    split_ifs at h with hvisiting hvisited
    · cases h
      exact fun hsettled => ⟨hsettled, List.Subset.refl _, by simpa using hvisited⟩
    · obtain ⟨next, hnext, h⟩ := bind_eq_ok.mp h
      cases h
      intro hsettled
      obtain ⟨hnextSettled, hsub, hdeps⟩ :=
        visits_of_foldlM (fun _ _ _ hvisit => ih hvisit) hnext hsettled
      exact ⟨⟨hdeps, hnextSettled⟩, List.Subset.trans hsub (List.subset_cons_self _ _), by simp⟩

/-- Nothing in a checked list depends on an unknown id. -/
theorem known_of_checkDependencies {ids : List String} {os : List CampaignObjective}
    (h : checkDependencies ids os = .ok ()) : ∀ o ∈ os, ∀ d ∈ o.dependsOn, d ∈ ids := by
  induction os with
  | nil => simp
  | cons o os ih =>
    simp only [checkDependencies, bind_eq_ok, guardE_eq_ok] at h
    obtain ⟨-, hunknown, -, -, hrest⟩ := h
    intro o' ho' d hd
    rcases List.mem_cons.mp ho' with rfl | ho'
    · by_contra hnot
      have hmem : d ∈ sortedTexts (o'.dependsOn.filter (· ∉ ids)) :=
        mem_sortedTexts.mpr (List.mem_filter.mpr ⟨hd, by simpa using hnot⟩)
      rw [List.isEmpty_iff.mp hunknown] at hmem
      cases hmem
    · exact ih hrest o' ho' d hd

/-- **An accepted graph**: the ids can be settled, and nothing depends on an unknown one. -/
theorem settled_of_validate (h : validateDependencyGraph objectives = .ok ()) :
    (∃ settled, Settled (dependenciesOf objectives) settled ∧
      ∀ o ∈ objectives, o.objectiveId ∈ settled) ∧
    ∀ o ∈ objectives, ∀ d ∈ o.dependsOn, d ∈ objectives.map (·.objectiveId) := by
  simp only [validateDependencyGraph, bind_eq_ok] at h
  obtain ⟨_, hchecked, settled, hvisits, -⟩ := h
  obtain ⟨hsettled, -, hids⟩ := visits_of_foldlM (fun _ _ _ hvisit => visit_settled hvisit) hvisits
    trivial
  exact ⟨⟨settled, hsettled, fun o ho => hids _ (List.mem_map_of_mem ho)⟩,
    known_of_checkDependencies hchecked⟩

theorem settled_of_parse {campaign : Dict} {p : CampaignDefinition}
    (h : parseCampaign campaign = .ok p) : validateDependencyGraph p.objectives = .ok () := by
  simp only [parseCampaign, bind_eq_ok] at h
  obtain ⟨_, -, _, -, _, -, _, -, _, -, _, -, limits, -, _, -, stops, -, ps, hps, _, -, h⟩ := h
  obtain rfl := Except.ok.inj h
  simp only [parseObjectives, bind_eq_ok] at hps
  obtain ⟨_, -, _, -, ps', -, _, -, u, hgraph, hps⟩ := hps
  obtain rfl := Except.ok.inj hps
  exact hgraph

/-- The dependencies of an objective are found under its id. -/
theorem dependenciesOf_eq (hdistinct : (objectives.map (·.objectiveId)).Nodup)
    {o : CampaignObjective} (ho : o ∈ objectives) :
    dependenciesOf objectives o.objectiveId = o.dependsOn := by
  unfold dependenciesOf
  induction objectives with
  | nil => cases ho
  | cons x xs ih =>
    rw [List.map_cons, List.nodup_cons] at hdistinct
    rw [List.find?_cons]
    rcases List.mem_cons.mp ho with rfl | ho
    · simp
    · have hne : x.objectiveId ≠ o.objectiveId := fun he =>
        hdistinct.1 (he ▸ List.mem_map_of_mem ho)
      have hfalse : (x.objectiveId == o.objectiveId) = false := by simpa using hne
      rw [hfalse]
      exact ih hdistinct.2 ho

end search

/-! ### The least ready objective -/

/-- The priority the scheduler goes by. -/
def priorityOf (o : Dict) : ℤ :=
  match dget o "priority" with
  | .int n => n
  | _ => 100

/-- The sort key of an accepted objective. -/
def keyOf (o : Dict) : ℤ × String := (priorityOf o, rawId o)

theorem keyLt_iff {a b : ℤ × String} : keyLt a b = true ↔ a.1 < b.1 ∨ a.1 = b.1 ∧ a.2 < b.2 := by
  simp [keyLt]

theorem keyLt_eq_false {a b : ℤ × String} :
    keyLt b a = false ↔ a.1 < b.1 ∨ a.1 = b.1 ∧ a.2 ≤ b.2 := by
  rw [← Bool.not_eq_true, keyLt_iff, not_or, not_and, not_lt, String.not_lt]
  constructor
  · rintro ⟨hle, htext⟩
    rcases hle.lt_or_eq with hlt | heq
    · exact .inl hlt
    · exact .inr ⟨heq, htext heq.symm⟩
  · rintro (hlt | ⟨heq, htext⟩)
    · exact ⟨hlt.le, fun h => absurd h hlt.ne'⟩
    · exact ⟨heq.le, fun _ => htext⟩

theorem keyLt_trans_not {a b c : ℤ × String} (hab : keyLt b a = false) (hbc : keyLt c b = false) :
    keyLt c a = false := by
  rw [keyLt_eq_false] at hab hbc ⊢
  rcases hab with hab | ⟨hab, hab'⟩
  · rcases hbc with hbc | ⟨hbc, -⟩
    · exact .inl (hab.trans hbc)
    · exact .inl (hbc ▸ hab)
  · rcases hbc with hbc | ⟨hbc, hbc'⟩
    · exact .inl (hab ▸ hbc)
    · exact .inr ⟨hab.trans hbc, String.le_trans hab' hbc'⟩

theorem keyLt_irrefl (a : ℤ × String) : keyLt a a = false :=
  keyLt_eq_false.mpr (.inr ⟨rfl, String.le_refl _⟩)

theorem keyLt_asymm {a b : ℤ × String} (h : keyLt a b = true) : keyLt b a = false := by
  rw [keyLt_iff] at h
  rw [keyLt_eq_false]
  rcases h with h | ⟨heq, h⟩
  · exact .inl h
  · exact .inr ⟨heq, String.not_lt.mp (String.lt_asymm h)⟩

/-- Distinct ids are ordered one way or the other. -/
theorem keyLt_of_not {a b : ℤ × String} (h : keyLt b a = false) (hne : a.2 ≠ b.2) :
    keyLt a b = true := by
  rw [keyLt_eq_false] at h
  rw [keyLt_iff]
  rcases h with h | ⟨heq, hle⟩
  · exact .inl h
  · refine .inr ⟨heq, ?_⟩
    by_contra hnot
    exact hne (String.le_antisymm hle (String.not_lt.mp hnot))

/-- Nothing among the candidates has a smaller key. -/
theorem leastByKey_least (best : (ℤ × String) × Dict) (xs : List ((ℤ × String) × Dict)) :
    ∀ x ∈ best :: xs, keyLt x.1 (leastByKey best xs).1 = false := by
  induction xs generalizing best with
  | nil =>
    intro x hx
    obtain rfl := List.mem_singleton.mp hx
    exact keyLt_irrefl _
  | cons y ys ih =>
    rw [leastByKey]
    have hnext : ∀ x ∈ [best, y], keyLt x.1 (if keyLt y.1 best.1 then y else best).1 = false := by
      intro x hx
      simp only [List.mem_cons, List.not_mem_nil, or_false] at hx
      by_cases hlt : keyLt y.1 best.1 = true
      · rw [if_pos hlt]
        rcases hx with rfl | rfl
        · exact keyLt_asymm hlt
        · exact keyLt_irrefl _
      · rw [if_neg hlt]
        rcases hx with rfl | rfl
        · exact keyLt_irrefl _
        · simpa using hlt
    intro x hx
    rcases List.mem_cons.mp hx with rfl | hx
    · exact keyLt_trans_not (ih _ _ List.mem_cons_self) (hnext x List.mem_cons_self)
    · rcases List.mem_cons.mp hx with rfl | hx
      · exact keyLt_trans_not (ih _ _ List.mem_cons_self)
          (hnext x (List.mem_cons_of_mem _ List.mem_cons_self))
      · exact ih _ x (List.mem_cons_of_mem _ hx)

/-! ### Ready objectives -/

section ready

variable {q : CampaignObjective} {o : Dict} {completed : List String}

theorem dependsOn_strs (h : ObjectiveShape o q) :
    dgetD o "depends_on" (.arr []) = .arr ((dependsOnTexts o).map .str) ∧
      (dependsOnTexts o).map strip = q.dependsOn := by
  obtain ⟨items, hitems, htrims⟩ := h.dependsOn
  obtain ⟨ss, rfl, hstrip, -⟩ := strs_of_trims htrims
  have hget : dgetD o "depends_on" (.arr []) = .arr (ss.map .str) := dgetD_eq hitems (by simp)
  have htexts : dependsOnTexts o = ss := by
    unfold dependsOnTexts
    rw [hget]
    exact filterMap_text_map ss
  rw [htexts]
  exact ⟨hget, hstrip⟩

theorem dependenciesMet_eq (h : ObjectiveShape o q) :
    dependenciesMet completed o = .ok (decide (∀ d ∈ dependsOnTexts o, d ∈ completed)) := by
  unfold dependenciesMet
  rw [(dependsOn_strs h).1, toSet_strs]
  show Except.ok _ = _
  rw [Except.ok.injEq, Bool.eq_iff_iff, decide_eq_true_eq, List.all_eq_true]
  constructor
  · intro hall d hd
    obtain ⟨c, hc, heq⟩ := List.any_eq_true.mp (hall _ (List.mem_map_of_mem hd))
    rw [Json.pyEq_str_left, Json.str.injEq] at heq
    exact heq ▸ hc
  · intro hall x hx
    obtain ⟨d, hd, rfl⟩ := List.mem_map.mp hx
    exact List.any_eq_true.mpr ⟨d, hall d hd, by simp⟩

theorem scheduleKey_eq (h : ObjectiveShape o q) : scheduleKey rt o = .ok (keyOf o) := by
  have hpriority : dgetD o "priority" (.int 100) = .int q.priority :=
    dgetD_eq h.priority.1 (by simp)
  have hkey : priorityOf o = q.priority := by simp [priorityOf, h.priority.1]
  unfold scheduleKey keyOf
  rw [hpriority, h.objectiveIdOf rt, hkey]
  rfl

/-- The ready ones among accepted objectives, with their keys. -/
theorem readyObjectives_eq {items : List Dict}
    (h : ∀ o ∈ items, ∃ q, ObjectiveShape o q) :
    readyObjectives rt completed items = .ok ((items.filter fun o =>
      decide (∀ d ∈ dependsOnTexts o, d ∈ completed)).map fun o => (keyOf o, o)) := by
  induction items with
  | nil => rfl
  | cons o items ih =>
    obtain ⟨q, hq⟩ := h o List.mem_cons_self
    rw [readyObjectives, dependenciesMet_eq hq, ih fun o ho => h o (List.mem_cons_of_mem _ ho)]
    simp only [bind, Except.bind]
    by_cases hmet : ∀ d ∈ dependsOnTexts o, d ∈ completed
    · rw [if_pos (by simpa using hmet), scheduleKey_eq hq, List.filter_cons_of_pos (by simpa using hmet)]
      rfl
    · rw [if_neg (by simpa using hmet), List.filter_cons_of_neg (by simpa using hmet)]
      rfl

end ready

/-! ### A turn of the scheduler -/

section turn

variable {fuel : ℕ} {remaining ordered : List Dict} {completed : List String} {item : Dict}

/-- Everything an objective depends on is among the completed ids. -/
def Met (completed : List String) (o : Dict) : Prop := ∀ d ∈ dependsOnTexts o, d ∈ completed

instance (completed : List String) : DecidablePred (Met completed) := fun _ =>
  inferInstanceAs (Decidable (∀ _ ∈ _, _))

/-- The objective a turn selects from accepted ones. -/
def selected (completed : List String) (remaining : List Dict) : Option Dict :=
  match (remaining.filter (Met completed ·)).map fun o => (keyOf o, o) with
  | [] => none
  | first :: others => some (leastByKey first others).2

/-- **What a turn selects**: a remaining objective that is ready, and no ready one comes before. -/
theorem selected_spec (h : selected completed remaining = some item) :
    item ∈ remaining ∧ Met completed item ∧
      ∀ other ∈ remaining, Met completed other → keyLt (keyOf other) (keyOf item) = false := by
  unfold selected at h
  have hmem : ∀ x, x ∈ (remaining.filter (Met completed ·)).map (fun o => (keyOf o, o)) ↔
      ∃ o ∈ remaining, Met completed o ∧ (keyOf o, o) = x := by
    simp [and_assoc]
  generalize (remaining.filter (Met completed ·)).map (fun o => (keyOf o, o)) = ready at h hmem
  cases ready with
  | nil => cases h
  | cons first others =>
    obtain rfl := Option.some.inj h
    obtain ⟨o, ho, hmet, heq⟩ := (hmem _).mp (leastByKey_mem first others)
    rw [← heq]
    refine ⟨ho, hmet, fun other hother hmet' => ?_⟩
    have hleast := leastByKey_least first others _ ((hmem _).mpr ⟨other, hother, hmet', rfl⟩)
    rw [← heq] at hleast
    exact hleast

theorem selected_of_met {o : Dict} (ho : o ∈ remaining) (hmet : Met completed o) :
    ∃ item, selected completed remaining = some item := by
  unfold selected
  have hmem : (keyOf o, o) ∈ (remaining.filter (Met completed ·)).map (fun o => (keyOf o, o)) :=
    List.mem_map_of_mem (List.mem_filter.mpr ⟨ho, by simpa using hmet⟩)
  generalize (remaining.filter (Met completed ·)).map (fun o => (keyOf o, o)) = ready at hmem
  cases ready with
  | nil => cases hmem
  | cons first others => exact ⟨_, rfl⟩

/-- The objectives that remain after a turn. -/
def afterTurn (rt : Runtime) (item : Dict) (remaining : List Dict) : List Dict :=
  remaining.filter fun other => objectiveIdOf rt other != .ok (rawId item)

/-- **A turn over accepted objectives**: it places what is selected, or cannot go on. -/
theorem scheduleLoop_succ (h : ∀ o ∈ remaining, ∃ q, ObjectiveShape o q) (hne : remaining ≠ []) :
    scheduleLoop rt (fuel + 1) remaining completed =
      match selected completed remaining with
      | none =>
        .error (.valueError "campaign objectives cannot be scheduled due to dependency cycle")
      | some item =>
        (scheduleLoop rt fuel (afterTurn rt item remaining) (rawId item :: completed)).map
          (item :: ·) := by
  cases remaining with
  | nil => exact absurd rfl hne
  | cons o os =>
    rw [scheduleLoop, readyObjectives_eq h]
    simp only [bind, Except.bind]
    have hmem : ∀ x ∈ ((o :: os).filter (Met completed ·)).map (fun o => (keyOf o, o)),
        x.1 = keyOf x.2 := by
      intro x hx
      obtain ⟨o, -, rfl⟩ := List.mem_map.mp hx
      rfl
    have hready : ((o :: os).filter fun o => decide (∀ d ∈ dependsOnTexts o, d ∈ completed)).map
        (fun o => (keyOf o, o)) = ((o :: os).filter (Met completed ·)).map fun o => (keyOf o, o) := rfl
    rw [hready]
    unfold selected
    generalize ((o :: os).filter (Met completed ·)).map (fun o => (keyOf o, o)) = ready at hmem
    cases ready with
    | nil => rfl
    | cons first others =>
      have hid : (leastByKey first others).1.2 = rawId (leastByKey first others).2 := by
        rw [hmem _ (leastByKey_mem first others)]
        rfl
      simp only [hid]
      rfl

/-- A turn takes out what it selects. -/
theorem mem_afterTurn {o q} (h : ObjectiveShape o q) :
    o ∈ afterTurn rt item remaining ↔ o ∈ remaining ∧ rawId o ≠ rawId item := by
  rw [afterTurn, List.mem_filter, h.objectiveIdOf rt]
  simp

theorem length_afterTurn_lt (rt : Runtime) {q} (hitem : item ∈ remaining) (h : ObjectiveShape item q) :
    (afterTurn rt item remaining).length < remaining.length :=
  List.length_filter_lt_length_iff_exists.mpr ⟨item, hitem, by simp [h.objectiveIdOf rt]⟩

end turn

/-! ### Schedules of accepted campaigns -/

section accepted

variable {campaign : Dict} {p : CampaignDefinition} {objectives : List Dict} {fuel : ℕ}
  {remaining ordered pre post : List Dict} {completed : List String} {item : Dict}

theorem CampaignShape.shape_of_subset (h : CampaignShape campaign p objectives)
    (hsub : remaining ⊆ objectives) : ∀ o ∈ remaining, ∃ q, ObjectiveShape o q := by
  intro o ho
  obtain ⟨q, -, hq⟩ := h.shape_of_mem (hsub ho)
  exact ⟨q, hq⟩

/-- Every dependency is, letter by letter, the id of an objective. -/
def WrittenAlike (objectives : List Dict) : Prop :=
  ∀ o ∈ objectives, ∀ d ∈ dependsOnTexts o, d ∈ objectives.map rawId

/-- **Some remaining objective is ready**, as long as one remains: the parser has settled the graph. -/
theorem exists_met (hshape : CampaignShape campaign p objectives)
    (hgraph : validateDependencyGraph p.objectives = .ok ()) (halike : WrittenAlike objectives)
    (hsub : remaining ⊆ objectives)
    (hdone : ∀ o ∈ objectives, o ∈ remaining ∨ rawId o ∈ completed) (hne : remaining ≠ []) :
    ∃ o ∈ remaining, Met completed o := by
  obtain ⟨⟨settled, hsettled, hall⟩, -⟩ := settled_of_validate hgraph
  have hsome : ∃ id ∈ settled, ∃ o ∈ remaining, strip (rawId o) = id := by
    obtain ⟨o, ho⟩ := List.exists_mem_of_ne_nil _ hne
    obtain ⟨q, hq, hoq⟩ := hshape.shape_of_mem (hsub ho)
    exact ⟨q.objectiveId, hall q hq, o, ho, hoq.strip_rawId.1⟩
  obtain ⟨id, -, ⟨o, ho, rfl⟩, hfree⟩ := hsettled.exists_free hsome
  refine ⟨o, ho, ?_⟩
  intro d hd
  obtain ⟨q, hq, hoq⟩ := hshape.shape_of_mem (hsub ho)
  rw [hoq.strip_rawId.1, dependenciesOf_eq hshape.distinct hq, ← (dependsOn_strs hoq).2] at hfree
  obtain ⟨o', ho', rfl⟩ := List.mem_map.mp (halike o (hsub ho) d hd)
  rcases hdone o' ho' with hremains | hcompleted
  · exact absurd ⟨o', hremains, rfl⟩ (hfree _ (List.mem_map_of_mem hd))
  · exact hcompleted

/-- **The scheduler goes through.** The induction is on the fuel; every turn finds a ready objective
and takes it out. -/
theorem scheduleLoop_ok (hshape : CampaignShape campaign p objectives)
    (hgraph : validateDependencyGraph p.objectives = .ok ()) (halike : WrittenAlike objectives)
    (hsub : remaining ⊆ objectives)
    (hdone : ∀ o ∈ objectives, o ∈ remaining ∨ rawId o ∈ completed)
    (hfuel : remaining.length ≤ fuel) :
    ∃ ordered, scheduleLoop rt fuel remaining completed = .ok ordered := by
  induction fuel generalizing remaining completed with
  | zero =>
    obtain rfl := List.length_eq_zero_iff.mp (Nat.le_zero.mp hfuel)
    exact ⟨[], rfl⟩
  | succ fuel ih =>
    by_cases hne : remaining = []
    · subst hne
      exact ⟨[], rfl⟩
    obtain ⟨o, ho, hmet⟩ := exists_met hshape hgraph halike hsub hdone hne
    obtain ⟨item, hitem⟩ := selected_of_met ho hmet
    obtain ⟨hmem, -, -⟩ := selected_spec hitem
    have hshapes : ∀ o ∈ remaining, ∃ q, ObjectiveShape o q := hshape.shape_of_subset hsub
    obtain ⟨q, hq⟩ := hshapes item hmem
    have hsub' : afterTurn rt item remaining ⊆ objectives := fun o ho =>
      hsub (List.mem_of_mem_filter ho)
    have hdone' : ∀ o ∈ objectives,
        o ∈ afterTurn rt item remaining ∨ rawId o ∈ rawId item :: completed := by
      intro o ho
      obtain ⟨q', -, hq'⟩ := hshape.shape_of_mem ho
      rcases hdone o ho with hremains | hcompleted
      · by_cases heq : rawId o = rawId item
        · exact .inr (heq ▸ List.mem_cons_self)
        · exact .inl ((mem_afterTurn hq').mpr ⟨hremains, heq⟩)
      · exact .inr (List.mem_cons_of_mem _ hcompleted)
    have hlt := length_afterTurn_lt rt hmem hq
    obtain ⟨rest, hrest⟩ := ih hsub' hdone' (by omega)
    refine ⟨item :: rest, ?_⟩
    rw [scheduleLoop_succ hshapes hne, hitem]
    show (scheduleLoop rt fuel _ _).map _ = _
    rw [hrest]
    rfl

/-- A schedule begins with what its first turn selects. -/
theorem scheduleLoop_eq_cons (hshapes : ∀ o ∈ remaining, ∃ q, ObjectiveShape o q)
    (h : scheduleLoop rt fuel remaining completed = .ok (item :: ordered)) :
    selected completed remaining = some item ∧ ∃ fuel',
      scheduleLoop rt fuel' (afterTurn rt item remaining) (rawId item :: completed) = .ok ordered := by
  have hne : remaining ≠ [] := by
    rintro rfl
    cases fuel <;> cases h
  cases fuel with
  | zero =>
    cases remaining with
    | nil => exact absurd rfl hne
    | cons o os => cases h
  | succ fuel =>
    rw [scheduleLoop_succ hshapes hne] at h
    cases hsel : selected completed remaining with
    | none =>
      rw [hsel] at h
      cases h
    | some first =>
      rw [hsel] at h
      replace h : (scheduleLoop rt fuel (afterTurn rt first remaining)
          (rawId first :: completed)).map (first :: ·) = .ok (item :: ordered) := h
      cases hrest : scheduleLoop rt fuel (afterTurn rt first remaining)
          (rawId first :: completed) with
      | error e =>
        rw [hrest] at h
        cases h
      | ok rest =>
        rw [hrest] at h
        cases h
        exact ⟨rfl, fuel, hrest⟩

/-- **No position holds a ready objective that another ready one precedes.** The induction is on the
objectives placed before the position. -/
theorem scheduleLoop_least (hshapes : ∀ o ∈ remaining, ∃ q, ObjectiveShape o q)
    (hids : (remaining.map (objectiveIdOf rt)).Nodup)
    (h : scheduleLoop rt fuel remaining completed = .ok (pre ++ item :: post))
    {other : Dict} (hother : other ∈ post) (hmet : Met (pre.map rawId ++ completed) other) :
    keyLt (keyOf item) (keyOf other) = true := by
  induction pre generalizing fuel remaining completed with
  | nil =>
    have hperm : (item :: post).Perm remaining := scheduleLoop_perm h hids
    obtain ⟨hsel, -, -⟩ := scheduleLoop_eq_cons hshapes h
    obtain ⟨hmem, -, hleast⟩ := selected_spec hsel
    have hremains : other ∈ remaining := hperm.subset (List.mem_cons_of_mem _ hother)
    refine keyLt_of_not (hleast other hremains hmet) ?_
    intro hsame
    obtain ⟨q, hq⟩ := hshapes item hmem
    obtain ⟨q', hq'⟩ := hshapes other hremains
    have hnodup := (hperm.map (objectiveIdOf rt)).nodup_iff.mpr hids
    rw [List.map_cons, List.nodup_cons] at hnodup
    refine hnodup.1 ?_
    have hsame' : rawId item = rawId other := hsame
    rw [hq.objectiveIdOf rt, hsame', ← hq'.objectiveIdOf rt]
    exact List.mem_map_of_mem hother
  | cons first pre ih =>
    obtain ⟨-, fuel', hrest⟩ := scheduleLoop_eq_cons hshapes h
    have hafter : (afterTurn rt first remaining).Sublist remaining := List.filter_sublist
    refine ih (fun o ho => hshapes o (hafter.subset ho)) (hids.sublist (hafter.map _)) hrest ?_
    intro d hd
    have hplaced := hmet d hd
    simp only [List.map_cons, List.mem_append, List.mem_cons] at hplaced ⊢
    tauto

/-- The scheduler's loop starts with the objectives. -/
theorem schedule_eq (hshape : CampaignShape campaign p objectives) :
    schedule rt objectives = scheduleLoop rt objectives.length objectives [] := by
  have hbyId : ∀ os : List Dict, (∀ o ∈ os, ∃ q, ObjectiveShape o q) →
      ∃ entries, byId rt os = .ok entries := by
    intro os hos
    induction os with
    | nil => exact ⟨[], rfl⟩
    | cons o os ih =>
      obtain ⟨q, hq⟩ := hos o List.mem_cons_self
      obtain ⟨entries, hentries⟩ := ih fun o ho => hos o (List.mem_cons_of_mem _ ho)
      rw [byId, hq.objectiveIdOf rt, hentries]
      simp only [bind, Except.bind]
      cases entries.lookup (rawId o) with
      | none => exact ⟨_, rfl⟩
      | some later => exact ⟨_, rfl⟩
  obtain ⟨entries, hentries⟩ :=
    hbyId objectives (hshape.shape_of_subset (List.Subset.refl _))
  obtain ⟨hmap, -⟩ := byId_eq hentries (hshape.rawIds_nodup rt)
  have hlength : entries.length = objectives.length := by rw [← hmap, List.length_map]
  rw [schedule, hentries]
  show scheduleLoop rt entries.length (entries.map Prod.snd) [] = _
  rw [hmap, hlength]

/-- **What a schedule should be**: the objectives in some order, each after its dependencies, each the
least by priority and id of those whose dependencies have been placed. -/
structure WellScheduled (rt : Runtime) (objectives ordered : List Dict) : Prop where
  returned : schedule rt objectives = .ok ordered
  perm : ordered.Perm objectives
  dependencies : ∀ pre item post, ordered = pre ++ item :: post →
    ∀ d ∈ dependsOnTexts item, d ∈ pre.map rawId
  least : ∀ pre item post, ordered = pre ++ item :: post → ∀ other ∈ post,
    (∀ d ∈ dependsOnTexts other, d ∈ pre.map rawId) → keyLt (keyOf item) (keyOf other) = true

theorem wellScheduled_of_schedule (hshape : CampaignShape campaign p objectives)
    (h : schedule rt objectives = .ok ordered) : WellScheduled rt objectives ordered := by
  have hperm : ordered.Perm objectives := schedule_perm h (hshape.rawIds_nodup rt)
  refine ⟨h, hperm, ?_, ?_⟩
  · rintro pre item post rfl d hd
    obtain ⟨placed, hplaced, hmet⟩ := schedule_met h
    obtain ⟨q, -, hq⟩ := hshape.shape_of_mem
      (hperm.subset (List.mem_append_right _ List.mem_cons_self))
    obtain ⟨o, ho, hid⟩ := forall₂_exists hplaced.flip (mem_of_dependenciesMet hq hmet hd)
    obtain ⟨q', -, hq'⟩ := hshape.shape_of_mem (hperm.subset (List.mem_append_left _ ho))
    obtain rfl : rawId o = d := Except.ok.inj ((hq'.objectiveIdOf rt).symm.trans hid)
    exact List.mem_map_of_mem ho
  · rintro pre item post rfl other hother hmet
    rw [schedule_eq hshape] at h
    refine scheduleLoop_least (hshape.shape_of_subset (List.Subset.refl _))
      (hshape.rawIds_nodup rt) h hother ?_
    rw [List.append_nil]
    exact hmet

theorem WellScheduled.writtenAlike (h : WellScheduled rt objectives ordered) :
    WrittenAlike objectives := by
  intro o ho d hd
  obtain ⟨pre, post, hsplit⟩ := List.append_of_mem (h.perm.symm.subset ho)
  have hplaced := h.dependencies pre o post hsplit d hd
  have hmem : d ∈ ordered.map rawId := by
    rw [hsplit, List.map_append]
    exact List.mem_append_left _ hplaced
  exact (h.perm.map rawId).subset hmem

end accepted

/-- An objective whose id has blanks around it. -/
def blankedIdObjective : Dict :=
  [("id", .str " first "), ("title", .str "Plan a security-header observation"),
    ("module", .str "wstg_webapp"), ("category", .str "wstg_webapp"),
    ("action", .str "observe_security_headers"), ("target_alias", .str "local-placeholder"),
    ("priority", .int 10), ("depends_on", .arr []), ("requires_human_approval", .bool false),
    ("parameters", .obj [("request_budget", .int 0)])]

/-- An objective that depends on it. -/
def dependentObjective : Dict :=
  [("id", .str "second"), ("title", .str "Plan a security-header observation"),
    ("module", .str "wstg_webapp"), ("category", .str "wstg_webapp"),
    ("action", .str "observe_security_headers"), ("target_alias", .str "local-placeholder"),
    ("priority", .int 20), ("depends_on", .arr [.str "first"]),
    ("requires_human_approval", .bool false), ("parameters", .obj [("request_budget", .int 0)])]

end Aotp.Campaign
