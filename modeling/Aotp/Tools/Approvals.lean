import Aotp.Tools.Ledger

/-!
# Approval-required tiers

* `NativeToolSpec.postInit` — the checks of a tool's declaration.
* `Approved`, `NamesKey`, `Clears` — the approval a call needs, and everything else it needs.
* `evaluateSpec_allowed_iff`, `execute_started_iff` — what an allowed, and what a started call
  amounts to.
* `approved_iff` — **a tool of an approval-required tier runs unapproved exactly where it names no
  approval key** and nothing else stops the call.
-/

namespace Aotp.Tools

open PyData

/-- Source: `tool_registry.NativeToolSpec.__post_init__`; a fixed cost is a natural number by its
type -/
def NativeToolSpec.postInit (spec : NativeToolSpec) : Except Exc Unit := do
  guardE (safeComponent spec.name.toList)
    (registryError "native tool name must be a safe identifier")
  guardE (decide (spec.evidenceClassification ∈ ["public", "restricted", "secret"]))
    (registryError "unsupported evidence classification")
  guardE (decide ((spec.arguments.map (·.name)).Nodup))
    (registryError "native tool argument names must be unique")

/-- The rules of engagement hold an approval under a key the tool names. -/
def Approved (spec : NativeToolSpec) (roe : RulesOfEngagement) : Prop :=
  ∃ key, spec.requiredApprovalKey = some key ∧ (roe.approvalFor key).isSome = true

/-- The tool names an approval key the registry will look up, or one there is an approval for. -/
def NamesKey (spec : NativeToolSpec) (roe : RulesOfEngagement) : Prop :=
  ∃ key, spec.requiredApprovalKey = some key ∧
    (key ≠ "" ∨ (roe.approvalFor key).isSome = true)

/-- The approval check of the registry does not object. -/
def ApprovalMet (spec : NativeToolSpec) (roe : RulesOfEngagement) : Prop :=
  spec.riskTier.requiresHumanApproval = true → ∀ key, spec.requiredApprovalKey = some key →
    key ≠ "" → (roe.approvalFor key).isSome = true

/-- Every check of a call but the approval passes. -/
structure Clears (spec : NativeToolSpec) (call : NativeToolCall) (roe : RulesOfEngagement)
    (budget : RequestBudget) : Prop where
  campaign : call.campaignId = roe.campaignId
  target : call.targetAlias = roe.targetAlias
  tool : roe.allowsToolName spec.name = true
  tier : roe.allowsRiskTier spec.riskTier = true
  classification : spec.evidenceClassification ∈ roe.evidenceClassifications
  arguments : spec.validateArguments call.arguments = []
  scope : scopeReasons spec call roe = .ok []
  cost : ∃ n, spec.costFor call.arguments = .ok n ∧
    (budget.check spec.name spec.riskTier n).allowed = true

variable {rt : Runtime} {urls : Urls} {registry : NativeToolRegistry} {call : NativeToolCall}
  {roe : RulesOfEngagement} {budget : RequestBudget} {workspace : Option Draw}
  {spec : NativeToolSpec}

theorem reasonWhen_eq_nil {c : Bool} {reason : String} : reasonWhen c reason = [] ↔ c = false := by
  cases c <;> simp [reasonWhen]

/-- The rules of engagement and the declaration do not object to a call. -/
theorem boundaryReasons_eq_nil : boundaryReasons spec call roe = [] ↔
    call.campaignId = roe.campaignId ∧ call.targetAlias = roe.targetAlias ∧
    roe.allowsToolName spec.name = true ∧ roe.allowsRiskTier spec.riskTier = true ∧
    ApprovalMet spec roe ∧ spec.evidenceClassification ∈ roe.evidenceClassifications ∧
    spec.validateArguments call.arguments = [] := by
  have happroval : (spec.riskTier.requiresHumanApproval &&
      spec.requiredApprovalKey.any fun key => key != "" && (roe.approvalFor key).isNone) = false ↔
      ApprovalMet spec roe := by
    unfold ApprovalMet
    cases spec.riskTier.requiresHumanApproval with
    | false => simp
    | true =>
      cases spec.requiredApprovalKey with
      | none => simp
      | some key =>
        simp only [Option.any_some, Bool.true_and, forall_const, Option.some.injEq, forall_eq']
        cases roe.approvalFor key <;> simp
  unfold boundaryReasons
  simp only [List.append_eq_nil_iff, reasonWhen_eq_nil, happroval, and_assoc]
  simp

/-- The cost resolves, and adds no reason. -/
theorem costOrReason_eq_ok_nil {arguments : Json} {n : ℕ} :
    costOrReason spec arguments = .ok (n, []) ↔ spec.costFor arguments = .ok n := by
  unfold costOrReason
  cases spec.costFor arguments with
  | ok m => simp
  | error e =>
    simp only [reduceCtorEq, iff_false]
    split_ifs <;> simp

/-- **The registry allows a call of a tool** exactly where the approval check does not object and
every other check passes. -/
theorem evaluateSpec_allowed_iff :
    (∃ decision, evaluateSpec spec call roe budget = .ok decision ∧ decision.allowed = true) ↔
      ApprovalMet spec roe ∧ Clears spec call roe budget := by
  constructor
  · rintro ⟨decision, h, hallowed⟩
    unfold evaluateSpec at h
    obtain ⟨scope, hscope, h⟩ := bind_eq_ok.1 h
    obtain ⟨⟨n, costReasons⟩, hcost, h⟩ := bind_eq_ok.1 h
    cases h
    simp only [ToolCallDecision.allowed] at hallowed
    split_ifs at hallowed with hreasons
    · rw [List.isEmpty_iff, List.append_eq_nil_iff, List.append_eq_nil_iff] at hreasons
      obtain ⟨⟨hboundary, rfl⟩, rfl⟩ := hreasons
      obtain ⟨hcampaign, htarget, htool, htier, happroval, hclass, harguments⟩ :=
        boundaryReasons_eq_nil.mp hboundary
      exact ⟨happroval, hcampaign, htarget, htool, htier, hclass, harguments, hscope,
        n, costOrReason_eq_ok_nil.mp hcost, hallowed⟩
    · exact absurd hallowed hreasons
  · rintro ⟨happroval, h⟩
    obtain ⟨n, hcost, hcheck⟩ := h.cost
    have hboundary : boundaryReasons spec call roe = [] := boundaryReasons_eq_nil.mpr
      ⟨h.campaign, h.target, h.tool, h.tier, happroval, h.classification, h.arguments⟩
    refine ⟨⟨(budget.check spec.name spec.riskTier n).reasons, spec.name, some spec.riskTier, n,
      some spec.evidenceClassification⟩, ?_, hcheck⟩
    unfold evaluateSpec
    rw [h.scope, costOrReason_eq_ok_nil.mpr hcost, hboundary]
    rfl

/-- A call is decided by the declaration of its tool. -/
theorem NativeToolRegistry.evaluate_of_find (hfind : registry.find call.toolName = some spec) :
    registry.evaluate call roe budget = evaluateSpec spec call roe budget := by
  unfold NativeToolRegistry.evaluate
  rw [hfind]

/-- **A call starts its executor** exactly where the tool has one and the registry allows the
call. -/
theorem execute_started_iff (hfind : registry.find call.toolName = some spec) :
    (execute rt urls registry call roe budget workspace).started = true ↔
      spec.executor.isSome = true ∧ ApprovalMet spec roe ∧ Clears spec call roe budget := by
  rw [← evaluateSpec_allowed_iff]
  have heval : registry.evaluate call roe budget = evaluateSpec spec call roe budget :=
    NativeToolRegistry.evaluate_of_find hfind
  cases hdecision : evaluateSpec spec call roe budget with
  | error e =>
    have hrun : execute rt urls registry call roe budget workspace =
        ⟨budget, [], .error (.raised e)⟩ := by
      unfold execute
      rw [heval, hdecision]
    rw [hrun]
    simp [Run.started]
  | ok decision =>
    rw [hdecision] at heval
    cases hallowed : decision.allowed with
    | false =>
      rw [execute_of_denied heval hallowed, refuse_not_started]
      simp [hallowed]
    | true =>
      cases hexec : spec.executor with
      | none =>
        rw [execute_of_no_executor heval hallowed hfind hexec]
        simp [Run.started]
      | some executor =>
        rw [execute_of_executor heval hallowed hfind hexec, finish_started]
        simp [hallowed]

/-- **When approval-required tiers run approved.** A call never starts the executor of an
approval-required tool without an approval the tool names, exactly where the tool names a key that
is looked up, or something else stops the call. -/
theorem approved_iff (rt : Runtime) (urls : Urls) (registry : NativeToolRegistry)
    (call : NativeToolCall) (roe : RulesOfEngagement) (budget : RequestBudget)
    (workspace : Option Draw) :
    (∀ spec, registry.find call.toolName = some spec →
        spec.riskTier.requiresHumanApproval = true →
        (execute rt urls registry call roe budget workspace).started = true →
        Approved spec roe) ↔
      ∀ spec, registry.find call.toolName = some spec →
        spec.riskTier.requiresHumanApproval = true →
        NamesKey spec roe ∨ spec.executor = none ∨ ¬ Clears spec call roe budget := by
  refine forall_congr' fun spec => forall_congr' fun hfind => forall_congr' fun htier => ?_
  rw [execute_started_iff hfind]
  constructor
  · intro h
    by_contra hnot
    push Not at hnot
    obtain ⟨hkey, hexec, hclears⟩ := hnot
    have hmet : ApprovalMet spec roe := fun _ key hnamed hne => absurd ⟨key, hnamed, .inl hne⟩ hkey
    obtain ⟨key, hnamed, happroved⟩ := h ⟨Option.isSome_iff_ne_none.mpr hexec, hmet, hclears⟩
    exact hkey ⟨key, hnamed, .inr happroved⟩
  · rintro (⟨key, hnamed, hkey⟩ | hexec | hclears) ⟨hsome, hmet, hclears'⟩
    · rcases hkey with hne | happroved
      · exact ⟨key, hnamed, hmet htier key hnamed hne⟩
      · exact ⟨key, hnamed, happroved⟩
    · rw [hexec] at hsome
      cases hsome
    · exact absurd hclears' hclears

/-! ### A tool without an approval key -/

/-- A fingerprinting tool that names no approval key. -/
def keylessSpec : NativeToolSpec where
  name := "service_probe"
  riskTier := .serviceFingerprint
  arguments := []
  requestCost := .fixed 1
  evidenceClassification := "restricted"
  executor := some fun _ => .ok (.json (.obj []))

/-- Rules of engagement that allow the tool, and hold no approval. -/
def keylessRoe : RulesOfEngagement where
  campaignId := "campaign-1"
  targetAlias := "target-1"
  allowedToolNames := ["service_probe"]
  allowedRiskTiers := [.serviceFingerprint]
  allowedHosts := ["example.com"]

/-- **The tool runs unapproved**, although its tier requires a human approval. -/
theorem keyless_unapproved : ¬ ∀ (rt : Runtime) (urls : Urls) (registry : NativeToolRegistry)
    (call : NativeToolCall) (roe : RulesOfEngagement) (budget : RequestBudget)
    (workspace : Option Draw), (∀ spec ∈ registry, spec.postInit = .ok ()) →
      ∀ spec, registry.find call.toolName = some spec →
        spec.riskTier.requiresHumanApproval = true →
        (execute rt urls registry call roe budget workspace).started = true →
        Approved spec roe := by
  intro hclaim
  have haccepted : ∀ spec ∈ [keylessSpec], spec.postInit = .ok () := by
    intro spec hspec
    obtain rfl := List.mem_singleton.mp hspec
    decide
  obtain ⟨key, hkey, -⟩ := hclaim sampleRuntime sampleUrls [keylessSpec] (sampleCall "service_probe")
    keylessRoe { maxRequests := 1 } none haccepted keylessSpec rfl rfl (by decide)
  cases hkey

end Aotp.Tools
