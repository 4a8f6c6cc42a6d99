import Aotp.Gate.Containment
import Aotp.Campaign.Frozen
import Aotp.Campaign.ObjectiveShape

/-!
# Forbidden actions

The gate compares the `action` of an objective, as it is written, with the forbidden list as it is
written. What else an objective asks for, and what differs in surrounding blanks, is left to the
other checks.

* `AsksFor`, `Forbids` — what an objective asks for and what is forbidden, trimmed.
* `unforbidden` — the scope with nothing forbidden: the other checks do not see the difference.
* `forbidden_denied_iff` — when an objective that asks for something forbidden is denied.
-/

namespace Aotp.Campaign

open PyData Gate

variable (rt : Runtime)

/-! ### Asking for something forbidden -/

/-- An objective asks for an action: in its action field, or in a field the collector of its
category reads. -/
def AsksFor (objective : Dict) (action : String) : Prop :=
  (∃ s, dget objective "action" = .str s ∧ strip s = action) ∨
    (isPanel objective = true ∧ action ∈ collectPanelActions objective) ∨
    (categoryOf objective = .str "bounded_fuzzing" ∧ action ∈ collectFuzzingActions objective)

/-- The scope forbids an action or, in live mode, the profile prohibits it. -/
def Forbids (scope : Dict) (input : GateInput) (action : String) : Prop :=
  (∃ s, ListedAt scope "forbidden_actions" (.str s) ∧ strip s = action) ∨
    (input.live = true ∧ ∃ profile s, input.programProfile = some profile ∧
      ListedAt profile "prohibited_actions" (.str s) ∧ strip s = action)

/-- The decision is a denial. -/
def Denies (scope objective : Dict) (input : GateInput) : Prop :=
  ∃ d, evaluate rt (some scope) objective input = .ok d ∧ d.allowed = false

/-! ### The other checks -/

/-- The scope with nothing forbidden. -/
def unforbidden (scope : Dict) : Dict := dset scope "forbidden_actions" (.arr [])

/-- Two scopes that differ in what they forbid, if at all. -/
def SameButForbidden (s s' : Dict) : Prop := ∀ k, k ≠ "forbidden_actions" → dget? s k = dget? s' k

theorem sameButForbidden_unforbidden (scope : Dict) :
    SameButForbidden scope (unforbidden scope) :=
  fun _ hk => (dget?_dset_of_ne scope _ hk).symm

namespace SameButForbidden

variable {s s' objective : Dict} {input : GateInput} (h : SameButForbidden s s')

include h

theorem symm : SameButForbidden s' s := fun k hk => (h k hk).symm

theorem dget_eq {k : String} (hk : k ≠ "forbidden_actions") : dget s k = dget s' k := by
  unfold dget
  rw [h k hk]

theorem dgetD_eq {k : String} (hk : k ≠ "forbidden_actions") (d : Json) :
    dgetD s k d = dgetD s' k d := by
  unfold dgetD
  rw [h k hk]

theorem liveReasons_eq (c : ScopeConfig) :
    liveReasons rt c s objective input = liveReasons rt c s' objective input := by
  unfold liveReasons windowReasons reportingReasons stopReasons setAt profileReasons
  simp (disch := decide) only [h.dget_eq, h.dgetD_eq]

/-- The reasons under one scope, with the forbidden list of the other: only the check of that list
tells the two apart. -/
theorem gateReasons_transfer {c : ScopeConfig} {rs hit' : List String}
    (hrs : gateReasons rt c s objective input = .ok rs)
    (hhit : forbiddenReasons s' objective = .ok hit') :
    ∃ before hit after, forbiddenReasons s objective = .ok hit ∧ rs = before ++ hit ++ after ∧
      gateReasons rt c s' objective input = .ok (before ++ hit' ++ after) := by
  have htarget : targetOf s objective = targetOf s' objective := by
    unfold targetOf
    simp (disch := decide) only [h.dget_eq]
  have hcategory : categoryReasons s objective = categoryReasons s' objective := by
    unfold categoryReasons
    simp (disch := decide) only [h.dget_eq]
  have hfuzzing : fuzzingReasons s objective = fuzzingReasons s' objective := by
    unfold fuzzingReasons
    simp (disch := decide) only [h.dgetD_eq]
  have hpanel : panelReasons s objective = panelReasons s' objective := by
    unfold panelReasons
    simp (disch := decide) only [h.dgetD_eq]
  have hsbom : sbomReasons s objective = sbomReasons s' objective := by
    unfold sbomReasons setAt
    simp (disch := decide) only [h.dgetD_eq]
  have hcrypto : cryptoReasons rt s objective = cryptoReasons rt s' objective := by
    unfold cryptoReasons
    simp (disch := decide) only [h.dgetD_eq]
  have hrate : rateReasons s = rateReasons s' := by
    unfold rateReasons
    simp (disch := decide) only [h.dget_eq]
  have hevidence : evidenceReasons s input = evidenceReasons s' input := by
    unfold evidenceReasons
    simp (disch := decide) only [h.dget_eq]
  simp only [gateReasons, dryReasons, bind_eq_ok, htarget, hcategory, hfuzzing, hpanel, hsbom,
    hcrypto, hrate, hevidence] at hrs
  obtain ⟨dry, ⟨target, h₁, r₂, h₂, hit, hhit', r₄, h₄, r₅, h₅, r₆, h₆, r₇, h₇, r₈, h₈, r₉, h₉,
    r₁₀, h₁₀, r₁₁, h₁₁, r₁₂, h₁₂, r₁₃, h₁₃, r₁₄, h₁₄, r₁₅, h₁₅, hdry⟩, live, hlive, hrs⟩ := hrs
  obtain rfl := Except.ok.inj hdry
  obtain rfl := Except.ok.inj hrs
  refine ⟨targetReasons objective target input.live ++ r₂, hit,
    r₄ ++ r₅ ++ r₆ ++ r₇ ++ r₈ ++ r₉ ++ r₁₀ ++ r₁₁ ++ r₁₂ ++ r₁₃ ++
      approvalReasons objective input.live ++ r₁₄ ++ r₁₅ ++ live, hhit', by simp, ?_⟩
  have hlive' : onlyWhen input.live (liveReasons rt c s' objective input) = .ok live := by
    rw [← h.liveReasons_eq rt c]
    exact hlive
  simp only [gateReasons, dryReasons, bind_eq_ok]
  exact ⟨_, ⟨target, h₁, r₂, h₂, hit', hhit, r₄, h₄, r₅, h₅, r₆, h₆, r₇, h₇, r₈, h₈, r₉, h₉,
    r₁₀, h₁₀, r₁₁, h₁₁, r₁₂, h₁₂, r₁₃, h₁₃, r₁₄, h₁₄, r₁₅, h₁₅, rfl⟩, live, hlive',
    by simp [pure, Except.pure]⟩

end SameButForbidden

/-! ### When something forbidden is denied -/

section

variable {scope objective : Dict} {input : GateInput} {c : ScopeConfig}

/-- The check of the forbidden list, for an action that is a text. -/
theorem forbiddenReasons_text (hshape : ScopeShape scope c) {s : String}
    (hs : dget objective "action" = .str s) :
    ∃ hit, forbiddenReasons scope objective = .ok hit ∧
      (hit ≠ [] ↔ ListedAt scope "forbidden_actions" (dget objective "action")) := by
  obtain ⟨items, hitems, htrims⟩ := hshape.forbidden
  have hlist : forbiddenReasons scope objective =
      .ok (reasonWhen (items.any (Json.pyEq (dget objective "action"))) "action is forbidden") := by
    simp only [forbiddenReasons, hitems, htrims.toSet, inSet, hs]
    rfl
  refine ⟨_, hlist, ?_⟩
  rw [Ne, reasonWhen_eq_nil, Bool.not_eq_false]
  constructor
  · exact hshape.forbidden.listedAt hitems
  · rintro ⟨items', hitems', hmem⟩
    obtain rfl := Json.arr.inj (hitems.symm.trans hitems')
    exact List.any_eq_true.mpr ⟨_, hmem, by simp [hs]⟩

theorem forbiddenReasons_unforbidden {s : String} (hs : dget objective "action" = .str s) :
    forbiddenReasons (unforbidden scope) objective = .ok [] := by
  have hempty : dget (unforbidden scope) "forbidden_actions" = .arr [] := dget_dset_self scope _ _
  simp only [forbiddenReasons, hempty, hs]
  rfl

/-- A text action is denied when the gate runs through and either the action is listed as it is
written, or another check objects. -/
theorem denies_iff (hc : parseScope scope = .ok c) {s : String}
    (hs : dget objective "action" = .str s) :
    Denies rt scope objective input ↔
      ∃ others, gateReasons rt c (unforbidden scope) objective input = .ok others ∧
        (ListedAt scope "forbidden_actions" (dget objective "action") ∨ others ≠ []) := by
  obtain ⟨hit, hhit, hlisted⟩ := forbiddenReasons_text (ScopeShape.of_parseScope hc) hs
  have hnone : forbiddenReasons (unforbidden scope) objective = .ok [] :=
    forbiddenReasons_unforbidden hs
  have hsame := sameButForbidden_unforbidden scope
  unfold Denies
  rw [← hlisted]
  constructor
  · rintro ⟨d, hd, hdenied⟩
    rw [evaluate_accepted rt hc] at hd
    obtain ⟨rs, hrs, hd⟩ := bind_eq_ok.mp hd
    obtain rfl := Except.ok.inj hd
    obtain ⟨before, hit', after, hhit', hsplit, hothers⟩ := hsame.gateReasons_transfer rt hrs hnone
    obtain rfl := Except.ok.inj (hhit.symm.trans hhit')
    refine ⟨_, hothers, ?_⟩
    have hne : rs ≠ [] := by simpa using hdenied
    by_cases hin : hit = []
    · right
      simpa [hsplit, hin] using hne
    · exact .inl hin
  · rintro ⟨others, hothers, hreason⟩
    obtain ⟨before, none', after, hnone', hsplit, hrs⟩ :=
      hsame.symm.gateReasons_transfer rt hothers hhit
    obtain rfl := Except.ok.inj (hnone.symm.trans hnone')
    refine ⟨⟨(before ++ hit ++ after).isEmpty, fromkeys (before ++ hit ++ after)⟩, ?_, ?_⟩
    · rw [evaluate_accepted rt hc, hrs]
      rfl
    · rw [← Bool.not_eq_true, List.isEmpty_iff]
      intro hempty
      simp only [List.append_eq_nil_iff] at hempty
      obtain ⟨⟨hb, hh⟩, ha⟩ := hempty
      rcases hreason with hin | hin
      · exact hin hh
      · exact hin (by simp [hsplit, hb, ha])

/-- **Forbidden actions are denied** exactly where the gate runs through and either the action
field is an entry of the forbidden list letter by letter, or a check of another kind objects. -/
theorem forbidden_denied_iff {campaign : Dict} {p : CampaignDefinition}
    {objectives : List Dict} (hc : parseScope scope = .ok c) (hp : parseCampaign campaign = .ok p)
    (hraw : rawObjectives campaign = .ok objectives) (hobjective : objective ∈ objectives) :
    ((∃ action, AsksFor objective action ∧ Forbids scope input action) →
        Denies rt scope objective input) ↔
      ((∃ action, AsksFor objective action ∧ Forbids scope input action) →
        ∃ others, gateReasons rt c (unforbidden scope) objective input = .ok others ∧
          (ListedAt scope "forbidden_actions" (dget objective "action") ∨ others ≠ [])) := by
  obtain ⟨objectives', hshape⟩ := campaignShape_of_parse hp
  obtain rfl := Except.ok.inj (hraw.symm.trans hshape.raw)
  obtain ⟨q, -, hq⟩ := hshape.shape_of_mem hobjective
  obtain ⟨s, hs, -⟩ := hq.action
  exact imp_congr_right fun _ => denies_iff rt hc hs

end

/-! ### A forbidden action between blanks -/

/-- A web application objective whose action is forbidden, but for the blanks around it. -/
def blankedObjective : Dict := dset sampleObjective "action" (.str " credential_attack ")

/-- A dry run in a workspace that holds the evidence directory. -/
def sampleInput : GateInput where
  now := 0
  insideWorkspace _ := true

/-- A library for one decision. -/
def plainRuntime : Runtime := tableRuntime sampleTime 0 [] noDigests_hex

theorem blanked_raw : rawObjectives (sampleCampaign [blankedObjective]) = .ok [blankedObjective] :=
  rfl

set_option maxRecDepth 20000 in
theorem blanked_accepted : (parseCampaign (sampleCampaign [blankedObjective])).toOption.isSome := by
  decide +kernel

set_option maxRecDepth 20000 in
theorem blanked_allowed :
    decision plainRuntime sampleScope blankedObjective sampleInput = some ⟨true, []⟩ := by
  decide +kernel

/-- A scope under which something is allowed is accepted. -/
theorem sampleScope_parsed : ∃ c, parseScope sampleScope = .ok c := by
  obtain ⟨c, hc, -⟩ :=
    evaluate_allows plainRuntime ((decision_eq_some plainRuntime).mp blanked_allowed) rfl
  exact ⟨c, hc⟩

theorem sampleScope_accepted : accepts sampleScope = true := by
  obtain ⟨c, hc⟩ := sampleScope_parsed
  unfold accepts
  rw [hc]
  rfl

theorem blanked_asks : AsksFor blankedObjective "credential_attack" :=
  .inl ⟨" credential_attack ", rfl, by decide⟩

theorem sampleScope_forbids : Forbids sampleScope sampleInput "credential_attack" :=
  .inl ⟨"credential_attack", ⟨_, rfl, List.mem_cons_self⟩, by decide⟩

/-- An objective of an accepted campaign asks for a forbidden action and is not denied. -/
theorem forbidden_allowed :
    ¬ ∀ (rt : Runtime) (campaign scope objective : Dict) (objectives : List Dict)
        (input : GateInput) (action : String),
      (parseScope scope).toOption.isSome → (parseCampaign campaign).toOption.isSome →
        rawObjectives campaign = .ok objectives → objective ∈ objectives →
          AsksFor objective action → Forbids scope input action →
            Denies rt scope objective input := by
  intro hclaim
  obtain ⟨d, hd, hdenied⟩ := hclaim plainRuntime _ sampleScope blankedObjective _ sampleInput _
    sampleScope_accepted blanked_accepted blanked_raw List.mem_cons_self blanked_asks sampleScope_forbids
  obtain rfl := Except.ok.inj
    (((decision_eq_some plainRuntime).mp blanked_allowed).symm.trans hd)
  exact absurd hdenied (by decide)

/-- The gate runs through on the objective between blanks, and no other check objects. -/
theorem forbidden_denied_iff_blanked :
    ∃ c, parseScope sampleScope = .ok c ∧
      (((∃ action, AsksFor blankedObjective action ∧ Forbids sampleScope sampleInput action) →
          Denies plainRuntime sampleScope blankedObjective sampleInput) ↔
        ((∃ action, AsksFor blankedObjective action ∧ Forbids sampleScope sampleInput action) →
          ∃ others, gateReasons plainRuntime c (unforbidden sampleScope) blankedObjective
              sampleInput = .ok others ∧
            (ListedAt sampleScope "forbidden_actions" (dget blankedObjective "action") ∨
              others ≠ []))) := by
  obtain ⟨c, hc⟩ := sampleScope_parsed
  obtain ⟨p, hp⟩ : ∃ p, parseCampaign (sampleCampaign [blankedObjective]) = .ok p := by
    have haccepted := blanked_accepted
    cases hp : parseCampaign (sampleCampaign [blankedObjective]) with
    | error e => simp [hp, Except.toOption] at haccepted
    | ok p => exact ⟨p, rfl⟩
  exact ⟨c, hc, forbidden_denied_iff plainRuntime hc hp blanked_raw List.mem_cons_self⟩

end Aotp.Campaign
