import Aotp.Tools.Roe

/-!
# The native tool registry

* `ToolArgument`, `NativeToolSpec`, `NativeToolCall` — a tool's declaration and a call of it.
* `validateArguments`, `costFor` — the argument reasons and the request cost of a call.
* `NativeToolRegistry.evaluate` — the decision about a call; a scope validator or a cost function
  can raise through it.
* `urlScopeValidator`, `tlsScopeValidator`, `hostPortScopeValidator` — the validators of the
  default registry.
-/

namespace Aotp.Tools

open PyData

/-- The types an argument can be declared with. -/
inductive PyType where
  | str
  | int
  | float
  | bool
  | dict
  | list
  deriving DecidableEq, Repr

/-- `isinstance(value, t)`; a truth value is an `int`. -/
def PyType.isInstance : PyType → Json → Bool
  | str, .str _ => true
  | int, .int _ => true
  | int, .bool _ => true
  | float, .float _ => true
  | bool, .bool _ => true
  | dict, .obj _ => true
  | list, .arr _ => true
  | _, _ => false

/-- `isinstance(value, bool)`. -/
def isBool : Json → Bool
  | .bool _ => true
  | _ => false

/-- One type, or a tuple of types. -/
inductive ValueType where
  | one (t : PyType)
  | anyOf (ts : List PyType)
  deriving DecidableEq, Repr

/-- `isinstance(value, value_type)`. -/
def ValueType.isInstance : ValueType → Json → Bool
  | one t, value => t.isInstance value
  | anyOf ts, value => ts.any (·.isInstance value)

/-- Source: `tool_registry.ToolArgument` -/
structure ToolArgument where
  name : String
  valueType : ValueType
  required : Bool := true

/-- Source: `tool_registry.ToolArgument.validate` -/
def ToolArgument.validate (a : ToolArgument) (arguments : Dict) : List String :=
  match dget? arguments a.name with
  | none => if a.required then ["missing required argument: " ++ a.name] else []
  | some value =>
    if (isBool value && a.valueType == .one .int) || !a.valueType.isInstance value then
      ["argument has invalid type: " ++ a.name]
    else []

/-- A fixed request cost, or a function of the arguments.
Source: `tool_registry.RequestCost` -/
inductive RequestCost where
  | fixed (n : ℕ)
  | computed (cost : Json → Except Exc Json)

/-- What a tool hands back: a JSON value, or one that is none. -/
inductive Returned where
  | json (value : Json)
  | other

/-- One run of an executor: it returns or it raises. -/
abbrev ExecutorRun := Except Exc Returned

/-- The declaration of a tool, with the fields the registry reads.
Source: `tool_registry.NativeToolSpec` -/
structure NativeToolSpec where
  name : String
  riskTier : ToolRiskTier
  arguments : List ToolArgument
  requestCost : RequestCost
  evidenceClassification : String
  executor : Option (Json → ExecutorRun) := none
  scopeValidator : Option (Json → RulesOfEngagement → Except Exc (List String)) := none
  requiredApprovalKey : Option String := none

/-- Source: `tool_registry.ToolRegistryError` -/
def registryError (msg : String) : Exc := .custom "ToolRegistryError" msg

/-- `isinstance(exc, ToolRegistryError)`. -/
def isRegistryError : Exc → Bool
  | .custom cls _ => cls == "ToolRegistryError"
  | _ => false

/-- Source: `tool_registry.NativeToolSpec.validate_arguments` -/
def NativeToolSpec.validateArguments (spec : NativeToolSpec) : Json → List String
  | .obj arguments =>
    let unknown := sortedTexts ((dkeys arguments).filter (· ∉ spec.arguments.map (·.name)))
    (if unknown.isEmpty then [] else ["unknown tool arguments: " ++ joined unknown]) ++
      spec.arguments.flatMap (·.validate arguments)
  | _ => ["tool arguments must be a mapping"]

/-- A resolved cost, when it is a natural number. -/
def naturalCost : Json → Except Exc ℕ
  | .int n =>
    if 0 ≤ n then .ok n.toNat
    else .error (registryError "native tool request cost resolved to an invalid value")
  | _ => .error (registryError "native tool request cost resolved to an invalid value")

/-- Source: `tool_registry.NativeToolSpec.cost_for` -/
def NativeToolSpec.costFor (spec : NativeToolSpec) (arguments : Json) : Except Exc ℕ :=
  match spec.requestCost with
  | .fixed n => .ok n
  | .computed cost => cost arguments >>= naturalCost

/-- Source: `tool_registry.NativeToolCall` -/
structure NativeToolCall where
  campaignId : String
  targetAlias : String
  toolName : String
  arguments : Json
  proposalId : String := "manual"
  requestedBy : String := "agent"

/-- A decision is its reasons: it allows when there is none.
Source: `tool_registry.ToolCallDecision` -/
structure ToolCallDecision where
  reasons : List String
  toolName : String
  riskTier : Option ToolRiskTier
  requestCount : ℕ
  evidenceClassification : Option String
  deriving DecidableEq, Repr

/-- Source: `tool_registry.ToolCallDecision.allowed` -/
def ToolCallDecision.allowed (d : ToolCallDecision) : Bool := d.reasons.isEmpty

/-- Source: `tool_registry.ToolCallDecision.summary` -/
def ToolCallDecision.summary (d : ToolCallDecision) : String :=
  if d.allowed then "allowed" else joinedReasons d.reasons

/-- The registered tools, by name; `register` refuses a second tool of one name.
Source: `tool_registry.NativeToolRegistry` -/
abbrev NativeToolRegistry := List NativeToolSpec

/-- Source: `tool_registry.NativeToolRegistry._specs`, `get` -/
def NativeToolRegistry.find (registry : NativeToolRegistry) (toolName : String) :
    Option NativeToolSpec := registry.find? (·.name == toolName)

/-- Source: `tool_registry.NativeToolRegistry.resolve` -/
def NativeToolRegistry.resolve (registry : NativeToolRegistry) (toolName : String) :
    Except Exc NativeToolSpec :=
  match registry.find toolName with
  | some spec => .ok spec
  | none => .error (registryError ("unregistered native tool: " ++ toolName))

/-- One reason when a condition holds. -/
def reasonWhen (c : Bool) (reason : String) : List String := if c then [reason] else []

/-- The reasons the rules of engagement and the declaration of the tool give against a call.
Source: `tool_registry.NativeToolRegistry.evaluate`, up to `validate_arguments` -/
def boundaryReasons (spec : NativeToolSpec) (call : NativeToolCall) (roe : RulesOfEngagement) :
    List String :=
  reasonWhen (call.campaignId != roe.campaignId) "tool call campaign does not match active ROE" ++
  reasonWhen (call.targetAlias != roe.targetAlias)
    "tool call target alias is outside active ROE" ++
  reasonWhen (!roe.allowsToolName spec.name) "native tool is not allowed by ROE" ++
  reasonWhen (!roe.allowsRiskTier spec.riskTier) "native tool risk tier is not allowed by ROE" ++
  reasonWhen (spec.riskTier.requiresHumanApproval &&
      spec.requiredApprovalKey.any fun key => key != "" && (roe.approvalFor key).isNone)
    "required human approval reference is missing" ++
  reasonWhen (spec.evidenceClassification ∉ roe.evidenceClassifications)
    "tool evidence classification is not allowed by ROE" ++
  spec.validateArguments call.arguments

/-- The reasons of the scope validator of the tool, if it has one. -/
def scopeReasons (spec : NativeToolSpec) (call : NativeToolCall) (roe : RulesOfEngagement) :
    Except Exc (List String) :=
  match spec.scopeValidator with
  | some validate => validate call.arguments roe
  | none => .ok []

/-- The resolved cost, or the reason that there is none; any other exception escapes. -/
def costOrReason (spec : NativeToolSpec) (arguments : Json) : Except Exc (ℕ × List String) :=
  match spec.costFor arguments with
  | .ok n => .ok (n, [])
  | .error e => if isRegistryError e then .ok (0, [e.text]) else .error e

/-- The decision about a call of a registered tool.
Source: `tool_registry.NativeToolRegistry.evaluate`, past the lookup -/
def evaluateSpec (spec : NativeToolSpec) (call : NativeToolCall) (roe : RulesOfEngagement)
    (budget : RequestBudget) : Except Exc ToolCallDecision := do
  let scope ← scopeReasons spec call roe
  let (requestCount, costReasons) ← costOrReason spec call.arguments
  let reasons := boundaryReasons spec call roe ++ scope ++ costReasons
  let final :=
    if reasons.isEmpty then (budget.check spec.name spec.riskTier requestCount).reasons else reasons
  return ⟨final, spec.name, some spec.riskTier, requestCount, some spec.evidenceClassification⟩

/-- Source: `tool_registry.NativeToolRegistry.evaluate` -/
def NativeToolRegistry.evaluate (registry : NativeToolRegistry) (call : NativeToolCall)
    (roe : RulesOfEngagement) (budget : RequestBudget) : Except Exc ToolCallDecision :=
  match registry.find call.toolName with
  | none => .ok ⟨["native tool is not registered"], call.toolName, none, 0, none⟩
  | some spec => evaluateSpec spec call roe budget

/-! ### The scope validators of the default registry -/

/-- `isinstance(port, int) and not isinstance(port, bool)`, and not an allowed port. -/
def portRefused (roe : RulesOfEngagement) : Json → Bool
  | .int port => !roe.allowsPort port
  | _ => false

/-- Source: `tool_registry._url_scope_validator` -/
def urlScopeValidator (rt : Runtime) (urls : Urls) (argumentName : String) (arguments : Json)
    (roe : RulesOfEngagement) : Except Exc (List String) := do
  let m ← arguments.attrs
  let refused ← roe.allowsUrl rt urls (pyStr rt (dgetD m argumentName (.str "")))
  return refused.toList

/-- Source: `tool_registry._tls_scope_validator` -/
def tlsScopeValidator (rt : Runtime) (arguments : Json) (roe : RulesOfEngagement) :
    Except Exc (List String) := do
  let m ← arguments.attrs
  let host := pyStr rt (dgetD m "host" (.str ""))
  let serverName := pyStr rt (dgetD m "server_name" (.str ""))
  return reasonWhen (host != serverName) "TLS server_name must match host" ++
    reasonWhen (!roe.allowsHost rt host) "TLS host is outside ROE scope" ++
    reasonWhen (portRefused roe (dget m "port")) "TLS port is outside ROE scope"

/-- Source: `tool_registry._host_port_scope_validator` -/
def hostPortScopeValidator (rt : Runtime) (arguments : Json) (roe : RulesOfEngagement) :
    Except Exc (List String) := do
  let m ← arguments.attrs
  let host := pyStr rt (dgetD m "host" (.str ""))
  return reasonWhen (!roe.allowsHost rt host) "host is outside ROE scope" ++
    reasonWhen (portRefused roe (dget m "port")) "port is outside ROE scope"

/-! ### What a decision says about the budget -/

variable {registry : NativeToolRegistry} {call : NativeToolCall} {roe : RulesOfEngagement}
  {budget : RequestBudget} {decision : ToolCallDecision}

theorem NativeToolRegistry.find_name {spec : NativeToolSpec} {toolName : String}
    (h : registry.find toolName = some spec) : spec.name = toolName := by
  have hname := List.find?_some h
  simpa using hname

/-- An allowed call is one of a registered tool whose cost resolves and fits the budget. -/
theorem NativeToolRegistry.evaluate_allowed
    (h : registry.evaluate call roe budget = .ok decision) (hallowed : decision.allowed = true) :
    ∃ spec, registry.find call.toolName = some spec ∧
      spec.costFor call.arguments = .ok decision.requestCount ∧
      (budget.check spec.name spec.riskTier decision.requestCount).allowed = true := by
  unfold NativeToolRegistry.evaluate at h
  cases hfind : registry.find call.toolName with
  | none =>
    rw [hfind] at h
    cases h
    simp [ToolCallDecision.allowed] at hallowed
  | some spec =>
    rw [hfind] at h
    unfold evaluateSpec at h
    obtain ⟨scope, -, h⟩ := bind_eq_ok.1 h
    obtain ⟨⟨n, costReasons⟩, hcost, h⟩ := bind_eq_ok.1 h
    cases h
    simp only [ToolCallDecision.allowed] at hallowed
    split_ifs at hallowed with hreasons
    · refine ⟨spec, rfl, ?_, hallowed⟩
      -- no reason is left, so the cost did not come from a caught error
      unfold costOrReason at hcost
      cases hfor : spec.costFor call.arguments with
      | ok m =>
        rw [hfor] at hcost
        cases hcost
        rfl
      | error e =>
        rw [hfor] at hcost
        simp only at hcost
        split_ifs at hcost with he
        cases hcost
        simp at hreasons
    · exact absurd hallowed (by simpa using hreasons)

end Aotp.Tools
