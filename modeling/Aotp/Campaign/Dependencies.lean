import Aotp.Campaign.Journal

/-!
# Dependencies are completed first

* `scheduleLoop_met`, `schedule_met` — **whatever a schedule places has its dependencies placed
  before it**.
* `nextObjective_split` — the next objective comes after scheduled ones that are pending no more.
* `Head.dependencies` — a running campaign comes to an objective when its dependencies are
  completed.
* `dependencies_completed` — so it is at every result of every history.
-/

namespace Aotp.Campaign

open PyData Aotp.Gate Effects HashChain

/-- The texts of `depends_on`. -/
def dependsOnTexts (o : Dict) : List String :=
  match dgetD o "depends_on" (.arr []) with
  | .arr items => items.filterMap Json.text?
  | _ => []

/-! ### The schedule -/

section schedule

variable {rt : Runtime} {pre post : List Dict} {item : Dict}

/-- A turn of the scheduler. -/
theorem scheduleLoop_cons {fuel : ℕ} {remaining ordered : List Dict} {completed : List String}
    {first : Dict} (h : scheduleLoop rt fuel remaining completed = .ok (first :: ordered)) :
    ∃ fuel' remaining' id, objectiveIdOf rt first = .ok id ∧
      dependenciesMet completed first = .ok true ∧
      scheduleLoop rt fuel' remaining' (id :: completed) = .ok ordered := by
  cases remaining with
  | nil => cases fuel <;> cases h
  | cons item items =>
    cases fuel with
    | zero => cases h
    | succ fuel =>
      simp only [scheduleLoop, bind_eq_ok] at h
      obtain ⟨ready, hready, h⟩ := h
      cases ready with
      | nil => cases h
      | cons best others =>
        obtain ⟨rest, hrest, h⟩ := bind_eq_ok.mp h
        cases h
        obtain ⟨-, hmet, hkey⟩ := mem_readyObjectives hready (leastByKey_mem best others)
        exact ⟨fuel, _, _, scheduleKey_id hkey, hmet, hrest⟩

/-- **The dependencies of an objective are met by those placed before it.** The induction is on the
objectives before it: every one adds its id to the completed ones. -/
theorem scheduleLoop_met {fuel : ℕ} {remaining : List Dict} {completed : List String}
    (h : scheduleLoop rt fuel remaining completed = .ok (pre ++ item :: post)) :
    ∃ placed, List.Forall₂ (fun o id => objectiveIdOf rt o = .ok id) pre placed ∧
      dependenciesMet (placed.reverse ++ completed) item = .ok true := by
  induction pre generalizing fuel remaining completed with
  | nil =>
    obtain ⟨_, _, _, -, hmet, -⟩ := scheduleLoop_cons h
    exact ⟨[], .nil, hmet⟩
  | cons o pre ih =>
    obtain ⟨fuel', remaining', id, hid, -, hrest⟩ := scheduleLoop_cons h
    obtain ⟨placed, hplaced, hmet⟩ := ih hrest
    refine ⟨id :: placed, .cons hid hplaced, ?_⟩
    rw [List.reverse_cons, List.append_assoc]
    exact hmet

theorem schedule_met {objectives : List Dict}
    (h : schedule rt objectives = .ok (pre ++ item :: post)) :
    ∃ placed, List.Forall₂ (fun o id => objectiveIdOf rt o = .ok id) pre placed ∧
      dependenciesMet placed item = .ok true := by
  simp only [schedule, bind_eq_ok] at h
  obtain ⟨entries, -, h⟩ := h
  obtain ⟨placed, hplaced, hmet⟩ := scheduleLoop_met h
  refine ⟨placed, hplaced, ?_⟩
  -- the order of the completed ids does not matter
  unfold dependenciesMet at hmet ⊢
  obtain ⟨dependencies, hset, hall⟩ := bind_eq_ok.mp hmet
  rw [hset]
  replace hall := Except.ok.inj hall
  rw [List.append_nil] at hall
  simp only [bind, Except.bind, pure, Except.pure, Except.ok.injEq]
  rw [List.all_eq_true] at hall ⊢
  intro d hd
  have hany := hall d hd
  rw [List.any_reverse] at hany
  exact hany

/-- The objectives before the next one are pending no more. -/
theorem nextObjective_split {pending : List String} {ordered : List Dict} {id : String}
    (h : nextObjective rt pending ordered = some (id, item)) :
    ∃ pre post, ordered = pre ++ item :: post ∧
      ∀ o ∈ pre, ∃ id', objectiveIdOf rt o = .ok id' ∧ id' ∉ pending := by
  induction ordered with
  | nil => cases h
  | cons o rest ih =>
    unfold nextObjective at h
    split at h
    · rename_i id' hid'
      split_ifs at h with hmem
      · cases h
        exact ⟨[], rest, rfl, fun _ ho => nomatch ho⟩
      · obtain ⟨pre, post, rfl, hpre⟩ := ih h
        refine ⟨o :: pre, post, rfl, ?_⟩
        intro o' ho'
        rcases List.mem_cons.mp ho' with rfl | ho'
        · exact ⟨id', hid', hmem⟩
        · exact hpre o' ho'
    · cases h

/-- The dependencies that are met are among the completed ids. -/
theorem mem_of_dependenciesMet {completed : List String} {q : CampaignObjective}
    (hshape : ObjectiveShape item q) (h : dependenciesMet completed item = .ok true) {d : String}
    (hd : d ∈ dependsOnTexts item) : d ∈ completed := by
  obtain ⟨items, hitems, htrims⟩ := hshape.dependsOn
  have hget : dgetD item "depends_on" (.arr []) = .arr items := by
    unfold dget at hitems
    unfold dgetD
    cases hv : dget? item "depends_on" with
    | none =>
      rw [hv] at hitems
      cases hitems
    | some v =>
      rw [hv] at hitems
      exact hitems
  unfold dependsOnTexts at hd
  unfold dependenciesMet at h
  rw [hget] at hd h
  rw [htrims.toSet] at h
  have hall : items.all (fun d => completed.any fun c => Json.pyEq d (.str c)) = true :=
    Except.ok.inj h
  obtain ⟨x, hx, hxd⟩ := List.mem_filterMap.mp hd
  have hxstr : x = .str d := by
    cases x with
    | str t => exact congrArg Json.str (Option.some.inj hxd)
    | _ => cases hxd
  subst hxstr
  have hany := List.all_eq_true.mp hall _ hx
  obtain ⟨c, hc, hcd⟩ := List.any_eq_true.mp hany
  rw [Json.pyEq_str_left] at hcd
  have heq : Json.str c = Json.str d := by simpa using hcd
  cases heq
  exact hc

end schedule

/-! ### The loop -/

variable {site : Site} {campaign : Dict} {sur : Surroundings} {w : World}
  {p : CampaignDefinition} {objectives : List Dict} {b : CampaignState}

/-- **A running campaign comes to an objective when its dependencies are completed.** -/
theorem Head.dependencies {id : String} {objective : Dict}
    (h : Head site campaign sur b id objective) (hshape : CampaignShape campaign p objectives)
    (hb : Coherent site (objectives.map rawId) b) :
    ∃ o ∈ objectives, rawId o = id ∧ ∀ d ∈ dependsOnTexts o, d ∈ b.completedModules := by
  obtain ⟨objectives', ordered, o, hraw, hschedule, hnext, -⟩ := h.next
  obtain rfl : objectives' = objectives := Except.ok.inj (hraw.symm.trans hshape.raw)
  have hperm : ordered.Perm objectives' := schedule_perm hschedule (hshape.rawIds_nodup site.rt)
  obtain ⟨-, hmem, hid⟩ := nextObjective_mem hnext
  have ho : o ∈ objectives' := hperm.subset hmem
  obtain ⟨q, -, hq⟩ := hshape.shape_of_mem ho
  have hrawId : rawId o = id := Except.ok.inj ((hq.objectiveIdOf site.rt).symm.trans hid)
  refine ⟨o, ho, hrawId, ?_⟩
  intro d hd
  obtain ⟨pre, post, rfl, hpre⟩ := nextObjective_split hnext
  obtain ⟨placed, hplaced, hmet⟩ := schedule_met hschedule
  have hdplaced : d ∈ placed := mem_of_dependenciesMet hq hmet hd
  -- what has been placed before is pending no more, and nothing has been stopped or skipped
  obtain ⟨o', ho', hido'⟩ := forall₂_exists hplaced.flip hdplaced
  obtain ⟨id', hid', hnot⟩ := hpre o' ho'
  obtain rfl : d = id' := Except.ok.inj (hido'.symm.trans hid')
  have ho'mem : o' ∈ objectives' := hperm.subset (List.mem_append_left _ ho')
  obtain ⟨q', -, hq'⟩ := hshape.shape_of_mem ho'mem
  have hdid : rawId o' = d := Except.ok.inj ((hq'.objectiveIdOf site.rt).symm.trans hido')
  have hall : d ∈ b.allModules := by
    refine hb.ledger.perm.mem_iff.mpr ?_
    rw [← hdid]
    exact List.mem_map_of_mem ho'mem
  obtain ⟨hstopped, -, -⟩ := hb.ledger.of_running h.running
  simpa [CampaignState.allModules, hstopped, hb.ledger.skipped, hnot] using hall

end Aotp.Campaign
