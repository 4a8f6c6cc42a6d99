import Aotp.Gate.Complaints
import Aotp.Gate.Tightening

/-!
# What the reasons of the gate say

* `Foreigns`, `Objects` — reasons that are all foreign; a check that gives no others.
* one lemma for each block of the gate: its reasons are foreign, but for that of the human gate.
* `humanApproval_asked` — **a decision that opens the human gate is about an objective nobody has
  approved**, in a dry run.
* `summary_eq_allowed` — **the summary says `"allowed"` of an allowed decision only**.
-/

namespace Aotp.Gate

open PyData

variable {rt : Runtime} {scope objective authorization roe : Dict} {target : Option Dict}

/-! ### Foreign reasons -/

/-- Every reason is foreign. -/
def Foreigns (reasons : List String) : Prop := ∀ r ∈ reasons, Foreign r

theorem foreigns_append {rs rs' : List String} :
    Foreigns (rs ++ rs') ↔ Foreigns rs ∧ Foreigns rs' := List.forall_mem_append

namespace Foreigns

variable {r : String} {rs : List String}

theorem nil : Foreigns [] := fun _ h => nomatch h

theorem singleton (h : Foreign r) : Foreigns [r] := by
  intro r' hr'
  rwa [List.mem_singleton.mp hr']

theorem when (c : Bool) (h : Foreign r) : Foreigns (reasonWhen c r) := by
  cases c
  · exact nil
  · exact singleton h

theorem ifAny (offenders : List String) (h : Foreign r) : Foreigns (reasonIfAny r offenders) := by
  unfold reasonIfAny
  split
  · exact nil
  · exact singleton (h.left _)

theorem ite (c : Prop) [Decidable c] {rs' : List String} (h : Foreigns rs) (h' : Foreigns rs') :
    Foreigns (if c then rs else rs') := by
  split
  · exact h
  · exact h'

theorem fromkeys (h : Foreigns rs) : Foreigns (PyData.fromkeys rs) :=
  fun r hr => h r (mem_fromkeys.mp hr)

end Foreigns

/-- A check gives foreign reasons only. -/
def Objects (x : Except Exc (List String)) : Prop := ∀ rs, x = .ok rs → Foreigns rs

namespace Objects

theorem pure {rs : List String} (h : Foreigns rs) : Objects (Pure.pure rs) := by
  rintro _ ⟨⟩
  exact h

theorem error (e : Exc) : Objects (.error e) := nofun

theorem bind {α : Type} {x : Except Exc α} {f : α → Except Exc (List String)}
    (h : ∀ a, x = .ok a → Objects (f a)) : Objects (x >>= f) := by
  intro rs hrs
  obtain ⟨a, ha, hf⟩ := bind_eq_ok.mp hrs
  exact h a ha rs hf

theorem onlyWhen (c : Bool) {block : Except Exc (List String)} (h : Objects block) :
    Objects (Gate.onlyWhen c block) := by
  cases c
  · exact pure .nil
  · exact h

end Objects

/-! ### The checks of every mode -/

theorem targetReasons_foreigns (live : Bool) : Foreigns (targetReasons objective target live) := by
  unfold targetReasons
  refine foreigns_append.mpr ⟨.when _ ?_, .when _ ?_⟩ <;> exact .lit rfl

theorem categoryReasons_objects : Objects (categoryReasons scope objective) := by
  unfold categoryReasons
  refine .bind fun _ _ => ?_
  have hmismatch (c : Bool) : Foreigns (reasonWhen c "objective category must match module") :=
    .when _ (.lit rfl)
  dsimp only
  split
  · refine .bind fun _ _ => .pure (foreigns_append.mpr ⟨hmismatch _, .when _ ?_⟩)
    exact .lit rfl
  · exact .pure (hmismatch _)

theorem forbiddenReasons_objects : Objects (forbiddenReasons scope objective) :=
  .bind fun _ _ => .bind fun _ _ => .pure (.when _ (.lit rfl))

theorem listedReasons_foreigns {field listField label : String} {rs : List String}
    (h : listedReasons objective target field listField label = .ok rs) (hlabel : Foreign label) :
    Foreigns rs := by
  have hall : Objects (listedReasons objective target field listField label) := by
    unfold listedReasons
    dsimp only
    split
    · cases target with
      | none => exact .pure (.singleton hlabel)
      | some entry => exact .bind fun _ _ => .pure (.when _ hlabel)
    · exact .pure .nil
  exact hall rs h

theorem domainReasons_objects : Objects (domainReasons rt objective target) := by
  have hlabel : Foreign "domain is not explicitly allowlisted" := by exact .lit rfl
  unfold domainReasons
  dsimp only
  split
  · cases target with
    | none => exact .pure (.singleton hlabel)
    | some entry => exact .bind fun _ _ => .bind fun _ _ => .pure (.when _ hlabel)
  · exact .pure .nil

theorem networkReasons_objects (live : Bool) : Objects (networkReasons objective live) := by
  unfold networkReasons
  split
  · refine .bind fun _ _ => ?_
    split
    · refine .pure (foreigns_append.mpr ⟨.when _ ?_, .when _ ?_⟩) <;> exact .lit rfl
    · exact .pure .nil
  · exact .pure .nil

theorem validateCorpusReference_raises (reference : Json) :
    Raises (fun e => Foreign e.text) (validateCorpusReference reference) := by
  unfold validateCorpusReference
  split
  · refine .bind (.guardE _ ?_) fun _ => .bind (.guardE _ ?_) fun _ => .bind (.guardE _ ?_) fun _ =>
      .bind (.guardE _ ?_) fun _ => .bind (.guardE _ ?_) fun _ => .bind (.guardE _ ?_) fun _ =>
      .bind (.guardE _ ?_) fun _ => .bind (.guardE _ ?_) fun _ => .bind (.guardE _ ?_) fun _ =>
      .bind (.guardE _ ?_) fun _ => .pure _
    all_goals exact .lit rfl
  · exact .error (.lit rfl)

theorem payloadClassesOf_foreigns : Foreigns (payloadClassesOf objective).2 := by
  unfold payloadClassesOf
  split
  · split
    · exact .singleton (.lit rfl)
    · split
      · exact .nil
      · exact .singleton (.lit rfl)
  · exact .singleton (.lit rfl)

theorem payloadClassErrors_objects (classes : List String) :
    Objects (payloadClassErrors classes scope) := by
  refine .bind fun _ _ => .pure (foreigns_append.mpr ⟨.ifAny _ ?_, .ifAny _ ?_⟩) <;> exact .lit rfl

theorem payloadCountErrors_objects (classes : List String) :
    Objects (payloadCountErrors objective classes scope) := by
  unfold payloadCountErrors
  split
  · exact .pure (.singleton (.lit rfl))
  · refine .bind fun _ _ => ?_
    split
    · exact .pure (.singleton (.lit rfl))
    · split
      · exact .pure (.singleton (.lit rfl))
      · exact .pure .nil

theorem endpointErrors_objects : Objects (endpointErrors objective scope) := by
  refine .bind fun _ _ => .bind fun _ _ => .pure ?_
  simp only [foreigns_append]
  and_intros
  · exact .ite _ (.singleton (.lit rfl)) .nil
  · exact .ite _ .nil (.singleton (.lit rfl))
  · exact .ifAny _ (.lit rfl)
  · exact .ite _ (.singleton (.lit rfl)) .nil

theorem limitErrors_objects (read : Json → Option ℤ) (wanted field : String) (absent : ℤ) :
    Objects (limitErrors read wanted field absent objective scope) := by
  unfold limitErrors
  split
  · exact .pure (.singleton (.right _ (.lit rfl)))
  · refine .bind fun _ _ => ?_
    split
    · exact .pure (.singleton (.right _ (.lit rfl)))
    · exact .pure .nil

theorem corpusErrors_objects (classes : List String) :
    Objects (corpusErrors objective classes scope) := by
  unfold corpusErrors
  split
  · exact .pure .nil
  · split
    · rename_i e herror
      exact .pure (.singleton (validateCorpusReference_raises _ e herror))
    · split
      · exact .pure .nil
      · refine .bind fun _ _ => .pure ?_
        simp only [foreigns_append]
        and_intros
        · exact .ite _ (.singleton (.lit rfl)) .nil
        · exact .ite _ (.singleton (.lit rfl)) .nil
        · exact .ite _ .nil (.singleton (.lit rfl))

theorem fuzzingBoundaryErrors_objects : Objects (fuzzingBoundaryErrors objective scope) := by
  unfold fuzzingBoundaryErrors
  refine .bind fun _ h₁ => .bind fun _ h₂ => .bind fun _ h₃ => .bind fun _ h₄ => .bind fun _ h₅ =>
    .bind fun _ h₆ => .bind fun _ h₇ => .pure (.fromkeys ?_)
  simp only [foreigns_append]
  exact ⟨⟨⟨⟨⟨⟨⟨⟨payloadClassesOf_foreigns, payloadClassErrors_objects _ _ h₁⟩,
    payloadCountErrors_objects _ _ h₂⟩, endpointErrors_objects _ h₃⟩,
    limitErrors_objects _ _ _ _ _ h₄⟩, limitErrors_objects _ _ _ _ _ h₅⟩, limitErrors_objects _ _ _ _ _ h₆⟩,
    corpusErrors_objects _ _ h₇⟩, .ifAny _ (.lit rfl)⟩

theorem fuzzingReasons_objects : Objects (fuzzingReasons scope objective) := by
  unfold fuzzingReasons
  refine .bind fun fuzzing _ => .bind fun _ _ => .bind fun _ _ => .bind fun boundary hboundary =>
    .pure ?_
  have hfields : Foreigns
      (["payload_budget", "request_budget", "per_endpoint_limit", "max_runtime_seconds"].flatMap
        fun field => reasonWhen (!fuzzingReasons.intAtLeastOne (dget fuzzing field))
          ("fuzzing." ++ field ++ " is missing")) := by
    intro r hr
    obtain ⟨field, -, hr⟩ := List.mem_flatMap.mp hr
    exact Foreigns.when _ (.right _ (.lit rfl)) r hr
  simp only [foreigns_append]
  refine ⟨⟨⟨⟨⟨⟨⟨.when _ ?_, .when _ ?_⟩, .ifAny _ ?_⟩, .ifAny _ ?_⟩, hfields⟩,
    fuzzingBoundaryErrors_objects _ hboundary⟩, .ifAny _ ?_⟩, .when _ ?_⟩ <;> exact .lit rfl

theorem scopedPanelReasons_objects (panel : Dict) :
    Objects (scopedPanelReasons objective panel) := by
  unfold scopedPanelReasons
  refine .bind fun _ _ => .bind fun _ _ => .pure ?_
  simp only [foreigns_append]
  refine ⟨⟨⟨.when _ ?_, .ite _ (.singleton ?_) (.when _ ?_)⟩, .ifAny _ ?_⟩, .ifAny _ ?_⟩ <;>
    exact .lit rfl

theorem panelReasons_objects : Objects (panelReasons scope objective) := by
  unfold panelReasons
  refine .bind fun config _ => .bind fun panels _ => ?_
  have hrest {ofPanel : List String} (h : Foreigns ofPanel) :
      Foreigns (reasonWhen (!(dget config "authorized").truthy)
          "service control panel testing is not explicitly authorized" ++
        ofPanel ++
        reasonIfAny "panel action is denied by safety boundary: " (deniedPanelActions objective) ++
        reasonIfAny "panel observation is not approved as safe: "
          (unsafePanelObservations objective) ++
        reasonWhen ((collectPanelActions objective).contains "plan_safe_panel_observations" &&
            (collectPanelObservations objective).isEmpty)
          "safe panel observation planning requires requested_observations" ++
        reasonWhen (panelLockoutRiskDetected objective &&
            !(dget objective "human_approved").truthy)
          "authentication lockout risk requires human approval") := by
    simp only [foreigns_append]
    refine ⟨⟨⟨⟨⟨.when _ ?_, h⟩, .ifAny _ ?_⟩, .ifAny _ ?_⟩, .when _ ?_⟩, .when _ ?_⟩ <;>
      exact .lit rfl
  dsimp only
  split
  · exact .pure (hrest (.singleton (.lit rfl)))
  · split
    · exact .pure (hrest (.singleton (.lit rfl)))
    · exact .bind fun _ hofPanel => .pure (hrest (scopedPanelReasons_objects _ _ hofPanel))

theorem sbomReasons_objects : Objects (sbomReasons scope objective) := by
  unfold sbomReasons
  refine .bind fun _ _ => ?_
  dsimp only
  split
  · refine .bind fun listed _ => .pure ?_
    simp only [foreigns_append]
    refine ⟨⟨.when _ (.lit rfl), ?_⟩, ?_⟩
    · split
      · exact .when _ (.lit rfl)
      · exact .nil
    · split
      · exact .nil
      · exact .when _ (.lit rfl)
      · exact .singleton (.lit rfl)
  · refine .pure ?_
    simp only [foreigns_append]
    refine ⟨⟨.when _ (.lit rfl), ?_⟩, ?_⟩
    · split
      · exact .when _ (.lit rfl)
      · exact .nil
    · split
      · exact .nil
      · exact .when _ (.lit rfl)
      · exact .singleton (.lit rfl)

theorem pathErrors_foreigns (key : String) (item : Json) : Foreigns (pathErrors key item) := by
  unfold pathErrors
  split
  · split
    · exact .ite _ (.singleton (.lit rfl)) .nil
    · exact .singleton (.lit rfl)
  · exact .nil

theorem forbiddenFields_foreigns (entries : Dict) :
    Foreigns (if (dkeys entries).any (· ∈ forbiddenKeys)
      then ["cryptographic evidence contains forbidden secret fields"] else []) :=
  .ite _ (.singleton (.lit rfl)) .nil

mutual

theorem walkErrors_foreigns : ∀ item : Json, Foreigns (walkErrors item)
  | .obj entries => by
    rw [walkErrors]
    exact foreigns_append.mpr ⟨forbiddenFields_foreigns entries, walkEntries_foreigns entries⟩
  | .arr items => by
    rw [walkErrors]
    exact walkItems_foreigns items
  | .null | .bool _ | .int _ | .float _ | .str _ => .nil

theorem walkEntries_foreigns : ∀ entries : List (String × Json), Foreigns (walkEntries entries)
  | [] => .nil
  | (key, item) :: rest => by
    rw [walkEntries]
    refine foreigns_append.mpr ⟨foreigns_append.mpr ⟨pathErrors_foreigns key item, ?_⟩, ?_⟩
    · exact walkErrors_foreigns item
    · exact walkEntries_foreigns rest

theorem walkItems_foreigns : ∀ items : List Json, Foreigns (walkItems items)
  | [] => .nil
  | item :: rest => by
    rw [walkItems]
    exact foreigns_append.mpr ⟨walkErrors_foreigns item, walkItems_foreigns rest⟩

end

theorem redactionErrors_foreigns (rt : Runtime) (case : Dict) :
    Foreigns (redactionErrors rt case) := by
  have hraises : Raises (fun e => Foreign e.text) (assertRecordRedacted rt (.obj case)) := by
    refine .bind (.guardE _ ?_) fun _ => .guardE _ ?_
    · exact .left (.lit rfl) _
    · exact .left (.lit rfl) _
  unfold redactionErrors
  split
  · exact .nil
  · rename_i e herror
    exact .singleton (hraises e herror)

theorem cryptoEvidenceErrors_foreigns (rt : Runtime) (case : Dict) :
    Foreigns (cryptoEvidenceErrors rt case) := by
  have hkeys (metadata : Json) : Foreigns (keyManagementErrors metadata) := by
    unfold keyManagementErrors
    split
    · refine .ite _ (.singleton ?_) (.ite _ .nil (.singleton ?_)) <;> exact .lit rfl
    · exact .singleton (.lit rfl)
  have hcookies (cookies : List Json) :
      Foreigns (cookies.map fun _ => "cookie evidence must contain attributes only") := by
    intro r hr
    obtain ⟨-, -, rfl⟩ := List.mem_map.mp hr
    exact .lit rfl
  unfold cryptoEvidenceErrors
  refine .fromkeys ?_
  simp only [foreigns_append]
  refine ⟨⟨⟨⟨⟨⟨⟨.ite _ .nil (.singleton ?_), .ite _ .nil (.singleton ?_)⟩,
    .ite _ .nil (.singleton ?_)⟩, .ite _ .nil (.singleton ?_)⟩, hkeys _⟩, hcookies _⟩,
    walkErrors_foreigns _⟩, redactionErrors_foreigns rt case⟩ <;> exact .lit rfl

theorem cryptoActionReasons_objects (action : Json) (crypto : Dict) :
    Objects (cryptoActionReasons rt action crypto) := by
  unfold cryptoActionReasons
  split
  · exact .pure (.singleton (.lit rfl))
  · refine .bind fun _ _ => .bind fun _ _ => ?_
    split
    · exact .pure (.singleton (.lit rfl))
    · exact .bind fun _ _ => .bind fun _ _ => .pure (.when _ (.lit rfl))

theorem cryptoReasons_objects : Objects (cryptoReasons rt scope objective) := by
  rw [cryptoReasons_eq]
  refine .bind fun _ _ => .bind fun _ haction => .pure ?_
  simp only [foreigns_append]
  exact ⟨⟨.when _ (.lit rfl), cryptoActionReasons_objects _ _ _ haction⟩,
    cryptoEvidenceErrors_foreigns rt objective⟩

/-! ### The checks of live mode -/

variable {now : ℤ} {input : GateInput}

theorem parseUtc_foreigns {value : Json} {field : String} {t : Option ℤ} {rs : List String}
    (h : parseUtc rt value field = .ok (t, rs)) : Foreigns rs := by
  have hmissing : Foreigns [field ++ " is missing"] := .singleton (.right _ (.lit rfl))
  unfold parseUtc at h
  split at h
  · split at h
    · cases h
      exact hmissing
    · split at h
      · cases h
        exact .singleton (.right _ (.lit rfl))
      · cases h
        exact .singleton (.right _ (.lit rfl))
      · cases h
        exact .nil
      · cases h
  · cases h
    exact hmissing

theorem parseDate_foreigns (value : Json) (field : String) :
    Foreigns (parseDate rt value field).2 := by
  have hmissing : Foreigns [field ++ " is missing"] := .singleton (.right _ (.lit rfl))
  unfold parseDate
  split
  · split
    · exact hmissing
    · split
      · exact .singleton (.right _ (.lit rfl))
      · exact .nil
  · exact hmissing

theorem profileOf_foreigns {given : Option Dict} {profile : Option ProgramProfile}
    {rs : List String} (h : profileOf given = .ok (profile, rs)) : Foreigns rs := by
  unfold profileOf at h
  split at h
  · cases h
    exact .singleton (.lit rfl)
  · split at h
    · cases h
      exact .nil
    · cases h
      exact .singleton (.left (.lit rfl) _)
    · cases h

theorem authorizationReasons_objects : Objects (authorizationReasons rt authorization roe now) := by
  have hmissing (label : String) (value : Json) :
      Foreigns (reasonWhen (!nonPlaceholder rt value) (label ++ " is missing")) :=
    .when _ (.right _ (.lit rfl))
  unfold authorizationReasons
  refine .bind fun _ _ => .bind fun ⟨_, r₁⟩ h₁ => .bind fun ⟨_, r₂⟩ h₂ => .bind fun ⟨_, r₃⟩ h₃ =>
    .pure ?_
  simp only [foreigns_append]
  refine ⟨⟨⟨⟨⟨⟨⟨⟨⟨⟨⟨⟨.when _ ?_, .when _ ?_⟩, hmissing _ _⟩, hmissing _ _⟩, hmissing _ _⟩,
    hmissing _ _⟩, parseUtc_foreigns h₁⟩, parseUtc_foreigns h₂⟩, parseUtc_foreigns h₃⟩, .when _ ?_⟩,
    .when _ ?_⟩, .when _ ?_⟩, .when _ ?_⟩ <;> exact .lit rfl

theorem roeReasons_objects : Objects (roeReasons rt roe now) := by
  unfold roeReasons
  refine .bind fun ⟨_, r⟩ h => .pure ?_
  simp only [foreigns_append]
  refine ⟨⟨⟨⟨⟨⟨⟨⟨.when _ ?_, parseUtc_foreigns h⟩, .when _ ?_⟩, .when _ ?_⟩, .when _ ?_⟩,
    .when _ ?_⟩, .when _ ?_⟩, .when _ ?_⟩, .when _ ?_⟩ <;> exact .lit rfl

theorem confidentialityReasons_objects : Objects (confidentialityReasons rt authorization) :=
  .bind fun _ _ => .pure (.when _ (.lit rfl))

theorem parsedApprovalReasons_objects {approval : OperatorApproval} {operatorAlias : String} :
    Objects (parsedApprovalReasons rt approval operatorAlias authorization objective input) := by
  unfold parsedApprovalReasons
  refine .bind fun ⟨_, r₁⟩ h₁ => .bind fun ⟨_, r₂⟩ h₂ => .pure ?_
  simp only [foreigns_append]
  refine ⟨⟨⟨⟨⟨⟨⟨⟨⟨parseUtc_foreigns h₁, parseUtc_foreigns h₂⟩, .when _ ?_⟩, .when _ ?_⟩,
    .when _ ?_⟩, .when _ ?_⟩, .when _ ?_⟩, .when _ ?_⟩, .when _ ?_⟩, .when _ ?_⟩ <;> exact .lit rfl

theorem operatorApprovalReasons_objects {operatorAlias : String} :
    Objects (operatorApprovalReasons rt operatorAlias authorization objective input) := by
  have hrest {ofRecord : List String} (h : Foreigns ofRecord) :
      Foreigns (reasonWhen (!input.operatorApproved) "operator approval is missing" ++ ofRecord) :=
    foreigns_append.mpr ⟨.when _ (.lit rfl), h⟩
  unfold operatorApprovalReasons
  dsimp only
  split
  · exact .pure (hrest (.singleton (.lit rfl)))
  · split
    · exact .bind fun _ hrecord => .pure (hrest (parsedApprovalReasons_objects _ hrecord))
    · exact .pure (hrest (.singleton (.left (.lit rfl) _)))
    · exact .error _

theorem windowCheck_foreigns {index : ℕ} {raw : Json} {x : Bool × List String}
    (h : windowCheck rt now index raw = .ok x) : Foreigns x.2 := by
  simp only [windowCheck, bind_eq_ok] at h
  obtain ⟨_, -, ⟨_, r₁⟩, h₁, ⟨_, r₂⟩, h₂, h⟩ := h
  cases h
  simp only [foreigns_append]
  exact ⟨⟨parseUtc_foreigns h₁, parseUtc_foreigns h₂⟩, .when _ (.right _ (.lit rfl))⟩

theorem windowReasons_objects : Objects (windowReasons rt scope now) := by
  unfold windowReasons
  refine .bind fun _ _ => .bind fun checks hchecks => .pure ?_
  have hall : Foreigns (checks.flatMap Prod.snd) := by
    intro r hr
    obtain ⟨x, hx, hr⟩ := List.mem_flatMap.mp hr
    obtain ⟨_, -, _, h⟩ := forall₂_exists (forall₂_of_mapIdxE hchecks).flip hx
    exact windowCheck_foreigns h r hr
  simp only [foreigns_append]
  refine ⟨⟨.when _ ?_, hall⟩, .when _ ?_⟩ <;> exact .lit rfl

theorem reportingReasons_objects : Objects (reportingReasons scope) := by
  unfold reportingReasons
  refine .bind fun _ _ => .pure ?_
  simp only [foreigns_append]
  refine ⟨⟨.when _ ?_, .when _ ?_⟩, .when _ ?_⟩ <;> exact .lit rfl

theorem stopReasons_objects : Objects (stopReasons scope) :=
  .bind fun _ _ => .pure (.ite _ (.singleton (.lit rfl)) (.ifAny _ (.lit rfl)))

theorem scopeProfileReasons_foreigns (profile : ProgramProfile) (parsed : ScopeConfig) :
    Foreigns (scopeProfileReasons profile parsed) := by
  unfold scopeProfileReasons
  simp only [foreigns_append]
  refine ⟨⟨⟨⟨⟨⟨⟨⟨⟨.when _ ?_, .when _ ?_⟩, .when _ ?_⟩, .when _ ?_⟩, .when _ ?_⟩, .ifAny _ ?_⟩,
    .ifAny _ ?_⟩, .ifAny _ ?_⟩, .ifAny _ ?_⟩, .ifAny _ ?_⟩ <;> exact .lit rfl

theorem objectiveProfileReasons_foreigns (profile : ProgramProfile) :
    Foreigns (objectiveProfileReasons profile objective) := by
  unfold objectiveProfileReasons
  simp only [foreigns_append]
  refine ⟨⟨⟨⟨.when _ ?_, .when _ ?_⟩, .when _ ?_⟩, .when _ ?_⟩, .when _ ?_⟩ <;> exact .lit rfl

theorem profileReasons_objects {profile : ProgramProfile} {document : Dict} {parsed : ScopeConfig} :
    Objects (profileReasons rt profile document parsed scope authorization roe objective now) := by
  unfold profileReasons
  refine .bind fun _ _ => .bind fun _ _ => ?_
  split
  · split
    · refine .pure ?_
      simp only [foreigns_append]
      refine ⟨⟨⟨⟨⟨⟨scopeProfileReasons_foreigns _ _, .when _ ?_⟩, .when _ ?_⟩,
        parseDate_foreigns _ _⟩, .when _ ?_⟩, objectiveProfileReasons_foreigns _⟩, .when _ ?_⟩ <;>
        exact .lit rfl
    · exact .error _
  · exact .error _

theorem liveReasons_objects (parsed : ScopeConfig) :
    Objects (liveReasons rt parsed scope objective input) := by
  unfold liveReasons
  refine .bind fun _ _ => .bind fun _ _ => .bind fun ⟨profile, ofProfile⟩ h₁ => .bind fun r₂ h₂ =>
    .bind fun r₃ h₃ => .bind fun r₄ h₄ => .bind fun r₅ h₅ => .bind fun r₆ h₆ => .bind fun r₇ h₇ =>
    .bind fun r₈ h₈ => ?_
  have hrest {ofMatch : List String} (h : Foreigns ofMatch) :
      Foreigns (ofProfile ++ r₂ ++ r₃ ++ r₄ ++ r₅ ++ r₆ ++ r₇ ++ r₈ ++ ofMatch) := by
    simp only [foreigns_append]
    exact ⟨⟨⟨⟨⟨⟨⟨⟨profileOf_foreigns h₁, authorizationReasons_objects _ h₂⟩,
      roeReasons_objects _ h₃⟩, confidentialityReasons_objects _ h₄⟩,
      operatorApprovalReasons_objects _ h₅⟩, windowReasons_objects _ h₆⟩,
      reportingReasons_objects _ h₇⟩, stopReasons_objects _ h₈⟩, h⟩
  dsimp only
  split
  · exact .bind fun _ hmatch => .pure (hrest (profileReasons_objects _ hmatch))
  · exact .pure (hrest .nil)

/-! ### All checks -/

theorem rateReasons_objects : Objects (rateReasons scope) :=
  .bind fun _ _ => .pure (.when _ (.lit rfl))

theorem evidenceReasons_objects : Objects (evidenceReasons scope input) := by
  unfold evidenceReasons
  refine .bind fun _ _ => ?_
  split
  · refine .pure (foreigns_append.mpr ⟨.when _ ?_, .when _ ?_⟩) <;> exact .lit rfl
  · exact .error _

/-- **The reasons of the gate** are foreign, but for that of the human gate. -/
theorem dryReasons_foreign {rs : List String} (h : dryReasons rt scope objective input = .ok rs)
    {r : String} (hr : r ∈ rs) : Foreign r ∨ r ∈ approvalReasons objective input.live := by
  simp only [dryReasons, bind_eq_ok] at h
  obtain ⟨target, -, category, hcategory, action, haction, service, hservice, api, hapi,
    environment, henvironment, account, haccount, domain, hdomain, network, hnetwork, fuzzing,
    hfuzzing, panel, hpanel, sbom, hsbom, crypto, hcrypto, rate, hrate, evidence, hevidence, h⟩ := h
  rw [← Except.ok.inj h] at hr
  by_cases happroval : r ∈ approvalReasons objective input.live
  · exact .inr happroval
  refine .inl ?_
  simp only [List.mem_append, happroval, or_false] at hr
  rcases hr with ((((((((((((((hr | hr) | hr) | hr) | hr) | hr) | hr) | hr) | hr) | hr) | hr) | hr) |
    hr) | hr) | hr)
  · exact targetReasons_foreigns _ r hr
  · exact categoryReasons_objects _ hcategory r hr
  · exact forbiddenReasons_objects _ haction r hr
  · exact listedReasons_foreigns hservice (.lit rfl) r hr
  · exact listedReasons_foreigns hapi (.lit rfl) r hr
  · exact listedReasons_foreigns henvironment (.lit rfl) r hr
  · exact listedReasons_foreigns haccount (.lit rfl) r hr
  · exact domainReasons_objects _ hdomain r hr
  · exact networkReasons_objects _ _ hnetwork r hr
  · exact Objects.onlyWhen _ fuzzingReasons_objects _ hfuzzing r hr
  · exact Objects.onlyWhen _ panelReasons_objects _ hpanel r hr
  · exact Objects.onlyWhen _ sbomReasons_objects _ hsbom r hr
  · exact Objects.onlyWhen _ cryptoReasons_objects _ hcrypto r hr
  · exact rateReasons_objects _ hrate r hr
  · exact evidenceReasons_objects _ hevidence r hr

/-- **The reasons of the gate** are foreign, but for that of the human gate. -/
theorem gateReasons_foreign {parsed : ScopeConfig} {rs : List String}
    (h : gateReasons rt parsed scope objective input = .ok rs) {r : String} (hr : r ∈ rs) :
    Foreign r ∨ r ∈ approvalReasons objective input.live := by
  simp only [gateReasons, bind_eq_ok] at h
  obtain ⟨dry, hdry, live, hlive, h⟩ := h
  rw [← Except.ok.inj h] at hr
  rcases List.mem_append.mp hr with hr | hr
  · exact dryReasons_foreign hdry hr
  · exact .inl (Objects.onlyWhen _ (liveReasons_objects parsed) _ hlive r hr)

theorem mem_approvalReasons {live : Bool} {r : String} (h : r ∈ approvalReasons objective live) :
    r = humanReason ∧ live = false ∧ (dget objective "human_approved").truthy = false := by
  unfold approvalReasons reasonWhen at h
  split at h
  · rename_i hasked
    simp only [Bool.and_eq_true, Bool.not_eq_true'] at hasked
    exact ⟨List.mem_singleton.mp h, hasked.1.2, hasked.2⟩
  · cases h

/-- **The reasons of a decision** are foreign, but for that of the human gate. -/
theorem evaluate_foreign {d : PolicyDecision}
    (h : evaluate rt (some scope) objective input = .ok d) :
    (d.allowed = false → d.reasons ≠ []) ∧
      ∀ r ∈ d.reasons, Foreign r ∨ r ∈ approvalReasons objective input.live := by
  simp only [evaluate] at h
  split at h
  · rename_i msg herror
    cases h
    refine ⟨fun _ => List.cons_ne_nil _ _, fun r hr => .inl ?_⟩
    obtain ⟨msg', hmsg, hforeign⟩ := Raises.parseScope scope _ herror
    cases hmsg
    rwa [List.mem_singleton.mp hr]
  · cases h
  · obtain ⟨rs, hrs, h⟩ := bind_eq_ok.mp h
    cases h
    refine ⟨fun hne hnil => ?_, fun r hr => gateReasons_foreign hrs (mem_fromkeys.mp hr)⟩
    rw [fromkeys_eq_nil.mp hnil] at hne
    exact absurd hne (by decide)

/-- **The human gate is opened** for an objective nobody has approved, in a dry run. -/
theorem humanApproval_asked {d : PolicyDecision}
    (h : evaluate rt (some scope) objective input = .ok d) (hd : d.reasons = [humanReason]) :
    input.live = false ∧ (dget objective "human_approved").truthy = false := by
  rcases (evaluate_foreign h).2 humanReason (by rw [hd]; exact List.mem_singleton_self _) with
    hforeign | happroval
  · exact absurd rfl hforeign.ne_humanReason
  · exact (mem_approvalReasons happroval).2

/-- Two reasons are joined with a semicolon. -/
theorem semicolon_mem (r r' : String) (rs : List String) :
    ';' ∈ (joinedReasons (r :: r' :: rs)).toList := by
  rw [joinedReasons, String.intercalate_cons_cons]
  simp

/-- **The summary says `"allowed"` of an allowed decision only.** -/
theorem summary_eq_allowed {d : PolicyDecision}
    (h : evaluate rt (some scope) objective input = .ok d) :
    d.summary = "allowed" ↔ d.allowed = true := by
  unfold PolicyDecision.summary
  cases hallowed : d.allowed with
  | true => simp
  | false =>
    obtain ⟨hne, hforeign⟩ := evaluate_foreign h
    simp only [Bool.false_eq_true, if_false, iff_false]
    cases hreasons : d.reasons with
    | nil => exact absurd hreasons (hne hallowed)
    | cons r rs =>
      cases rs with
      | nil =>
        have hone : joinedReasons [r] = r := by simp [joinedReasons]
        rw [hone]
        rcases hforeign r (by rw [hreasons]; exact List.mem_singleton_self r) with hr | hr
        · exact hr.ne_allowed
        · rw [(mem_approvalReasons hr).1]
          decide
      | cons r' rs =>
        intro hsaid
        have hmem : ';' ∈ (joinedReasons (r :: r' :: rs)).toList := semicolon_mem r r' rs
        rw [hsaid] at hmem
        revert hmem
        decide

end Aotp.Gate
