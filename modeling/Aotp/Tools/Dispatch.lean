import Aotp.Tools.Registry

/-!
# Executing a governed tool call

* `safeTool`, `artifactName` — the file name of an evidence record; `safeComponent` — the check of
  the workspace.
* `redactToolArguments`, `deniedToolCallRecord`, `executedToolCallRecord` — the records.
* `execute` — one call: the budget afterwards, the steps taken in order, the outcome.
* `execute_cases` — a call starts its executor and is charged for it, or does neither.
-/

namespace Aotp.Tools

open PyData

/-! ### Evidence records -/

/-- A character of `[a-z0-9._-]`. -/
def isSlugChar (c : Char) : Bool :=
  ('a' ≤ c && c ≤ 'z') || ('0' ≤ c && c ≤ '9') || c == '.' || c == '_' || c == '-'

/-- `re.sub(r"[^a-z0-9._-]+", "-", text)`: one dash for each run of other characters; `inRun` says
that the dash of the current run is out already. -/
def dashRuns : Bool → List Char → List Char
  | _, [] => []
  | inRun, c :: cs =>
    if isSlugChar c then c :: dashRuns false cs
    else if inRun then dashRuns true cs
    else '-' :: dashRuns true cs

/-- Source: `tool_registry.write_denied_tool_call_evidence`, `safe_tool` -/
def safeTool (rt : Runtime) (toolName : String) : List Char :=
  match trim (· == '-') (dashRuns false (rt.lower toolName).toList) with
  | [] => "tool".toList
  | slug => slug

/-- Twelve lower-case hexadecimal digits.
Source: `uuid.uuid4().hex[:12]` -/
structure Token where
  digits : List Char
  length_eq : digits.length = 12
  hex : ∀ c ∈ digits, isLowerHex c = true

/-- `f"{kind}-{safe_tool}-{token}"`. -/
def artifactName (rt : Runtime) (kind toolName : String) (token : Token) : List Char :=
  kind.toList ++ '-' :: (safeTool rt toolName ++ '-' :: token.digits)

/-- A first character of `[a-z0-9]`. -/
def isSlugHead (c : Char) : Bool := ('a' ≤ c && c ≤ 'z') || ('0' ≤ c && c ≤ '9')

/-- Source: `agent_workspace._safe_component`, `SAFE_COMPONENT` -/
def safeComponent (name : List Char) : Bool :=
  name.head?.any isSlugHead && name.all isSlugChar && name.length ≤ 128

/-- Source: `agent_workspace.AgentWorkspaceError` -/
def workspaceError (msg : String) : Exc := .custom "AgentWorkspaceError" msg

/-- Source: `tool_registry._redact_tool_arguments`, `sensitive_names` -/
def sensitiveNames : List String :=
  ["authorization", "bearer", "cookie", "password", "secret", "session", "token"]

/-- A key that announces a secret. -/
def sensitiveName (rt : Runtime) (key : String) : Bool :=
  sensitiveNames.any fun marker => decide (marker.toList <:+: (rt.lower key).toList)

/-- One argument as the record shows it.
Source: `tool_registry._redact_tool_arguments`, the loop body -/
def redactArgument (rt : Runtime) (urls : Urls) (entry : String × Json) :
    Except Exc (String × Json) :=
  if sensitiveName rt entry.1 then .ok (entry.1, .str "<redacted>")
  else
    match entry.2 with
    | .str value =>
      urls.urlsplit value >>= fun parsed =>
        if parsed.scheme != "" && (parsed.username.isSome || parsed.password.isSome) then
          .ok (entry.1, .str "<redacted-url-credentials>")
        else .ok entry
    | _ => .ok entry

/-- Source: `tool_registry._redact_tool_arguments` -/
def redactToolArguments (rt : Runtime) (urls : Urls) (arguments : Json) : Except Exc Dict := do
  let m ← arguments.attrs
  m.mapM (redactArgument rt urls)

/-- What one evidence record draws from its surroundings: the random token and the time.
Source: `uuid.uuid4`, `evidence.utc_now` -/
structure Draw where
  token : Token
  now : String

/-- The value of an optional text. -/
def optText : Option String → Json
  | some s => .str s
  | none => .null

/-- The fields both records share, up to the arguments.
Source: `tool_registry.denied_tool_call_record`, `executed_tool_call_record` -/
def recordHead (draw : Draw) (call : NativeToolCall) (roe : RulesOfEngagement)
    (proposalArguments : Dict) : Dict :=
  [("schema_version", .str "1.0"), ("timestamp_utc", .str draw.now),
    ("campaign_id", .str call.campaignId), ("active_campaign_id", .str roe.campaignId),
    ("target_alias", .str call.targetAlias), ("active_target_alias", .str roe.targetAlias),
    ("tool_name", .str call.toolName), ("proposal_id", .str call.proposalId),
    ("requested_by", .str call.requestedBy), ("proposal_arguments", .obj proposalArguments)]

/-- Source: `tool_registry.denied_tool_call_record` -/
def deniedToolCallRecord (rt : Runtime) (urls : Urls) (draw : Draw) (call : NativeToolCall)
    (decision : ToolCallDecision) (roe : RulesOfEngagement) : Except Exc Dict := do
  let arguments ← redactToolArguments rt urls call.arguments
  return recordHead draw call roe arguments ++
    [("allowed", .bool false), ("executed", .bool false),
      ("risk_tier", optText (decision.riskTier.map (·.value))),
      ("request_count", .int decision.requestCount),
      ("denial_reasons", .arr (decision.reasons.map .str)),
      ("policy_decision", .str decision.summary)]

/-- Source: `tool_registry.executed_tool_call_record` -/
def executedToolCallRecord (rt : Runtime) (urls : Urls) (draw : Draw) (call : NativeToolCall)
    (decision : ToolCallDecision) (roe : RulesOfEngagement) (result : Json) :
    Except Exc Dict := do
  let arguments ← redactToolArguments rt urls call.arguments
  return recordHead draw call roe arguments ++
    [("allowed", .bool true), ("executed", .bool true),
      ("risk_tier", optText (decision.riskTier.map (·.value))),
      ("request_count", .int decision.requestCount),
      ("evidence_classification", optText decision.evidenceClassification),
      ("policy_decision", .str decision.summary), ("result", result)]

/-! ### One call -/

/-- Which record a step wrote. -/
inductive RecordKind where
  | denied
  | executed
  deriving DecidableEq, Repr

/-- The first part of the file name. -/
def RecordKind.text : RecordKind → String
  | denied => "denied"
  | executed => "executed"

/-- A step of a call that others can see. -/
inductive Step where
  /-- the budget was charged -/
  | consumed (requestCount : ℕ)
  /-- the executor was called -/
  | started (arguments : Json)
  /-- a record was written to the evidence area -/
  | wrote (kind : RecordKind) (name : List Char) (record : Dict)

/-- How a call fails: `ToolExecutionDenied`, or another exception. -/
inductive Failure where
  | denied (summary : String)
  | raised (e : Exc)

/-- Source: `tool_registry.NativeToolResult` -/
structure NativeToolResult where
  toolName : String
  riskTier : ToolRiskTier
  requestCount : ℕ
  evidenceClassification : String
  result : Returned
  evidencePath : Option (List Char)

/-- One finished call. -/
structure Run where
  budget : RequestBudget
  steps : List Step
  outcome : Except Failure NativeToolResult

/-- Source: `agent_workspace.AgentCampaignWorkspace.write_json`, in the evidence area -/
def writeJson (kind : RecordKind) (name : List Char) (record : Dict) : Except Exc Step :=
  if safeComponent name then .ok (.wrote kind name record)
  else .error (workspaceError "artifact name must be a safe lowercase path component")

/-- Source: `tool_registry.write_denied_tool_call_evidence` -/
def writeDeniedToolCallEvidence (rt : Runtime) (urls : Urls) (draw : Draw) (call : NativeToolCall)
    (decision : ToolCallDecision) (roe : RulesOfEngagement) : Except Exc Step := do
  let record ← deniedToolCallRecord rt urls draw call decision roe
  writeJson .denied (artifactName rt "denied" call.toolName draw.token) record

/-- A value that is no JSON is refused by `json.dumps`, past the name check.
Source: `tool_registry.write_executed_tool_call_evidence` -/
def writeExecutedToolCallEvidence (rt : Runtime) (urls : Urls) (draw : Draw) (call : NativeToolCall)
    (decision : ToolCallDecision) (roe : RulesOfEngagement) (result : Returned) :
    Except Exc Step :=
  match result with
  | .json value => do
    let record ← executedToolCallRecord rt urls draw call decision roe value
    writeJson .executed (artifactName rt "executed" call.toolName draw.token) record
  | .other => do
    let _ ← executedToolCallRecord rt urls draw call decision roe .null
    let _ ← writeJson .executed (artifactName rt "executed" call.toolName draw.token) []
    .error .typeError

/-- The denied half of a call.
Source: `tool_registry.NativeToolRegistry.execute`, the first branch -/
def refuse (rt : Runtime) (urls : Urls) (call : NativeToolCall) (roe : RulesOfEngagement)
    (budget : RequestBudget) (workspace : Option Draw) (decision : ToolCallDecision) : Run :=
  match workspace with
  | none => ⟨budget, [], .error (.denied decision.summary)⟩
  | some draw =>
    match writeDeniedToolCallEvidence rt urls draw call decision roe with
    | .error e => ⟨budget, [], .error (.raised e)⟩
    | .ok step => ⟨budget, [step], .error (.denied decision.summary)⟩

/-- The half of a call past `consume`, from the executor's run on.
Source: `tool_registry.NativeToolRegistry.execute`, from `spec.executor(call.arguments)` -/
def finish (rt : Runtime) (urls : Urls) (call : NativeToolCall) (roe : RulesOfEngagement)
    (budget : RequestBudget) (workspace : Option Draw) (decision : ToolCallDecision)
    (spec : NativeToolSpec) (ran : ExecutorRun) : Run :=
  let begun := [.consumed decision.requestCount, .started call.arguments]
  let result (returned : Returned) (path : Option (List Char)) : NativeToolResult :=
    ⟨spec.name, spec.riskTier, decision.requestCount, spec.evidenceClassification, returned, path⟩
  match ran with
  | .error e => ⟨budget, begun, .error (.raised e)⟩
  | .ok returned =>
    match workspace with
    | none => ⟨budget, begun, .ok (result returned none)⟩
    | some draw =>
      match writeExecutedToolCallEvidence rt urls draw call decision roe returned with
      | .error e => ⟨budget, begun, .error (.raised e)⟩
      | .ok step =>
        ⟨budget, begun ++ [step],
          .ok (result returned (some (artifactName rt "executed" call.toolName draw.token)))⟩

/-- The allowed half of a call.
Source: `tool_registry.NativeToolRegistry.execute`, past the first branch -/
def dispatch (rt : Runtime) (urls : Urls) (registry : NativeToolRegistry) (call : NativeToolCall)
    (roe : RulesOfEngagement) (budget : RequestBudget) (workspace : Option Draw)
    (decision : ToolCallDecision) : Run :=
  match registry.resolve call.toolName with
  | .error e => ⟨budget, [], .error (.raised e)⟩
  | .ok spec =>
    match spec.executor with
    | none =>
      ⟨budget, [], .error (.raised (registryError
        ("native tool has no executor: " ++ call.toolName)))⟩
    | some executor =>
      let (consumed, spent) := budget.consume spec.name spec.riskTier decision.requestCount
      if consumed.allowed then
        finish rt urls call roe spent workspace decision spec (executor call.arguments)
      else
        ⟨spent, [], .error (.raised (registryError "request budget changed before consume"))⟩

/-- Source: `tool_registry.NativeToolRegistry.execute` -/
def execute (rt : Runtime) (urls : Urls) (registry : NativeToolRegistry) (call : NativeToolCall)
    (roe : RulesOfEngagement) (budget : RequestBudget) (workspace : Option Draw) : Run :=
  match registry.evaluate call roe budget with
  | .error e => ⟨budget, [], .error (.raised e)⟩
  | .ok decision =>
    if decision.allowed then dispatch rt urls registry call roe budget workspace decision
    else refuse rt urls call roe budget workspace decision

/-! ### What a call does -/

/-- The executor was called. -/
def Step.isStart : Step → Bool
  | .started _ => true
  | _ => false

/-- A record of the given kind was written. -/
def Step.isRecord (kind : RecordKind) : Step → Bool
  | .wrote k _ _ => k == kind
  | _ => false

/-- The executor of the call was started. -/
def Run.started (r : Run) : Bool := r.steps.any Step.isStart

variable {rt : Runtime} {urls : Urls} {registry : NativeToolRegistry} {call : NativeToolCall}
  {roe : RulesOfEngagement} {budget : RequestBudget} {workspace : Option Draw}
  {decision : ToolCallDecision} {spec : NativeToolSpec} {ran : ExecutorRun}

theorem writeJson_eq_ok {kind : RecordKind} {name : List Char} {record : Dict} {step : Step} :
    writeJson kind name record = .ok step ↔
      safeComponent name = true ∧ step = .wrote kind name record := by
  unfold writeJson
  split_ifs with h
  · simp [h, eq_comm]
  · simp [h]

theorem refuse_budget : (refuse rt urls call roe budget workspace decision).budget = budget := by
  unfold refuse
  rcases workspace with _ | draw
  · rfl
  · simp only
    cases writeDeniedToolCallEvidence rt urls draw call decision roe <;> rfl

theorem writeDenied_isStart {draw : Draw} {step : Step}
    (h : writeDeniedToolCallEvidence rt urls draw call decision roe = .ok step) :
    step.isStart = false ∧ step.isRecord .denied = true ∧ step.isRecord .executed = false := by
  unfold writeDeniedToolCallEvidence at h
  obtain ⟨record, -, hwrite⟩ := bind_eq_ok.1 h
  obtain ⟨-, rfl⟩ := writeJson_eq_ok.1 hwrite
  exact ⟨rfl, rfl, rfl⟩

theorem refuse_not_started :
    (refuse rt urls call roe budget workspace decision).started = false := by
  unfold refuse
  rcases workspace with _ | draw
  · rfl
  · simp only
    cases hwrite : writeDeniedToolCallEvidence rt urls draw call decision roe with
    | error e => rfl
    | ok step => simp [Run.started, (writeDenied_isStart hwrite).1]

theorem finish_budget :
    (finish rt urls call roe budget workspace decision spec ran).budget = budget := by
  unfold finish
  rcases ran with e | returned
  · rfl
  · rcases workspace with _ | draw
    · rfl
    · simp only
      cases writeExecutedToolCallEvidence rt urls draw call decision roe returned <;> rfl

/-- Past `consume` the first two steps are the charge and the start. -/
theorem finish_steps :
    ∃ rest, (finish rt urls call roe budget workspace decision spec ran).steps =
      .consumed decision.requestCount :: .started call.arguments :: rest ∧
      rest.all (!·.isStart) = true := by
  unfold finish
  rcases ran with e | returned
  · exact ⟨[], rfl, rfl⟩
  · rcases workspace with _ | draw
    · exact ⟨[], rfl, rfl⟩
    · simp only
      cases hwrite : writeExecutedToolCallEvidence rt urls draw call decision roe returned with
      | error e => exact ⟨[], rfl, rfl⟩
      | ok step =>
        refine ⟨[step], rfl, ?_⟩
        unfold writeExecutedToolCallEvidence at hwrite
        rcases returned with value | _
        · obtain ⟨record, -, hjson⟩ := bind_eq_ok.1 hwrite
          obtain ⟨-, rfl⟩ := writeJson_eq_ok.1 hjson
          rfl
        · obtain ⟨-, -, hrest⟩ := bind_eq_ok.1 hwrite
          obtain ⟨-, -, herror⟩ := bind_eq_ok.1 hrest
          cases herror

theorem finish_started :
    (finish rt urls call roe budget workspace decision spec ran).started = true := by
  obtain ⟨rest, hsteps, -⟩ := @finish_steps rt urls call roe budget workspace decision spec ran
  simp [Run.started, hsteps, Step.isStart]

/-- An allowed call of a tool with an executor is charged and started. -/
theorem execute_of_executor (h : registry.evaluate call roe budget = .ok decision)
    (hallowed : decision.allowed = true) (hfind : registry.find call.toolName = some spec)
    {executor : Json → ExecutorRun} (hexec : spec.executor = some executor) :
    execute rt urls registry call roe budget workspace =
      finish rt urls call roe (budget.spend spec.name spec.riskTier decision.requestCount)
        workspace decision spec (executor call.arguments) := by
  obtain ⟨spec', hfind', -, hcheck⟩ := NativeToolRegistry.evaluate_allowed h hallowed
  rw [hfind] at hfind'
  cases hfind'
  unfold execute
  rw [h]
  simp only [hallowed, if_true]
  unfold dispatch NativeToolRegistry.resolve
  rw [hfind]
  simp only [hexec, RequestBudget.consume_of_allowed hcheck, hcheck, if_true]

/-- An allowed call of a tool without an executor is a configuration error. -/
theorem execute_of_no_executor (h : registry.evaluate call roe budget = .ok decision)
    (hallowed : decision.allowed = true) (hfind : registry.find call.toolName = some spec)
    (hexec : spec.executor = none) :
    execute rt urls registry call roe budget workspace =
      ⟨budget, [], .error (.raised (registryError
        ("native tool has no executor: " ++ call.toolName)))⟩ := by
  unfold execute
  rw [h]
  simp only [hallowed, if_true]
  unfold dispatch NativeToolRegistry.resolve
  rw [hfind]
  simp only [hexec]

theorem execute_of_denied (h : registry.evaluate call roe budget = .ok decision)
    (hdenied : decision.allowed = false) :
    execute rt urls registry call roe budget workspace =
      refuse rt urls call roe budget workspace decision := by
  unfold execute
  rw [h]
  simp [hdenied]

/-- A call is charged exactly when its executor starts, with the resolved cost of its arguments;
a call that does not start it leaves the budget as it was. -/
theorem execute_cases :
    ((execute rt urls registry call roe budget workspace).started = false ∧
      (execute rt urls registry call roe budget workspace).budget = budget) ∨
    ∃ spec n, registry.find call.toolName = some spec ∧ spec.costFor call.arguments = .ok n ∧
      (budget.check spec.name spec.riskTier n).allowed = true ∧
      (execute rt urls registry call roe budget workspace).started = true ∧
      (execute rt urls registry call roe budget workspace).budget =
        budget.spend spec.name spec.riskTier n := by
  cases h : registry.evaluate call roe budget with
  | error e =>
    left
    have hrun : execute rt urls registry call roe budget workspace =
        ⟨budget, [], .error (.raised e)⟩ := by unfold execute; rw [h]
    rw [hrun]
    exact ⟨rfl, rfl⟩
  | ok decision =>
    cases hallowed : decision.allowed with
    | false =>
      left
      rw [execute_of_denied h hallowed]
      exact ⟨refuse_not_started, refuse_budget⟩
    | true =>
      obtain ⟨spec, hfind, hcost, hcheck⟩ := NativeToolRegistry.evaluate_allowed h hallowed
      cases hexec : spec.executor with
      | none =>
        left
        rw [execute_of_no_executor h hallowed hfind hexec]
        exact ⟨rfl, rfl⟩
      | some executor =>
        right
        refine ⟨spec, decision.requestCount, hfind, hcost, hcheck, ?_, ?_⟩
        · rw [execute_of_executor h hallowed hfind hexec]
          exact finish_started
        · rw [execute_of_executor h hallowed hfind hexec]
          exact finish_budget

end Aotp.Tools
