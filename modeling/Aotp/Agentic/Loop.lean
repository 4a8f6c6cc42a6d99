import Aotp.Agentic.Proposals
import Aotp.Lib.Effects

/-!
# The agentic campaign loop

* `Op`, `Res` — what the loop asks of the supervisor, the tools and the workspace; the answers are
  arbitrary.
* `runIteration` — propose, gate, budget, invoke, record; `runAgenticCampaign` — the whole run.
* `summarizeToolResult` — what of a result goes back to the model.
-/

namespace Aotp.Agentic

open PyData Aotp.Tools Effects

/-! ### The surroundings of the loop -/

/-- What a tool hands back.
Source: `agent_tools.http_metadata.ToolExecutionResult` -/
structure ToolExecutionResult where
  toolName : String
  requestCount : ℤ
  result : Json

/-- What running a tool raises. -/
inductive ToolFailure where
  /-- `ToolExecutionDenied` -/
  | denied (summary : String)
  /-- `NativeToolError` -/
  | nativeTool (msg : String)
  | exc (e : Exc)

/-- The failures the loop records: `KeyError`, `TypeError`, `ValueError`, `NativeToolError` and
`ToolRegistryError`. -/
def ToolFailure.isBounded : ToolFailure → Bool
  | denied _ => false
  | nativeTool _ => true
  | exc (.keyError _) => true
  | exc .typeError => true
  | exc e => e.isValueError

/-- What the loop raises. -/
inductive Raised where
  /-- `AgenticCampaignError` -/
  | campaign (msg : String)
  | tool (e : ToolFailure)
  | exc (e : Exc)

/-- What is written to the workspace: its path from the workspace, and the SHA-256 of its bytes. -/
structure Artifact where
  path : String
  sha256 : String

/-- Source: `evidence_summarizer.EvidenceSummary` -/
structure EvidenceSummary where
  iteration : ℕ
  objectiveId : String
  toolName : String
  artifactReference : String
  artifactSha256 : String
  requestCount : ℤ
  observations : Json

/-- Source: `evidence_summarizer.EvidenceSummary.as_dict` -/
def EvidenceSummary.asDict (s : EvidenceSummary) : Json :=
  .obj [("iteration", .int s.iteration), ("objective_id", .str s.objectiveId),
    ("tool_name", .str s.toolName), ("classification", .str "public"),
    ("artifact_reference", .str s.artifactReference), ("artifact_sha256", .str s.artifactSha256),
    ("request_count", .int s.requestCount), ("observations", s.observations),
    ("limitations", .arr
      [.str "Metadata-only observation does not by itself establish a vulnerability.",
        .str ("No credential, state-changing action, payload injection, or exploitation was " ++
          "used.")])]

/-- What the loop asks of its surroundings. -/
inductive Op where
  /-- `supervisor.start()` -/
  | start
  /-- `supervisor.propose(…)` -/
  | propose (targetAlias : String) (remaining : List CampaignObjective) (summaries : List Json)
  /-- A call of the tool executor, or of the registry where none is given. -/
  | invoke (proposal : ModelProposal)
  /-- `workspace.write_json` and `workspace.write_text`, past the check of the name -/
  | write (area name : String) (content : Json)
  /-- `utc_now()` -/
  | utcNow

/-- The answers. -/
abbrev Res : Op → Type
  | .start => Except Exc Json
  | .propose _ _ _ => Except Exc ModelProposal
  | .invoke _ => Except ToolFailure ToolExecutionResult
  | .write _ _ _ => Except Exc Artifact
  | .utcNow => String

/-- A performed operation. -/
abbrev Step := Effects.Step Op Res

/-- The variables of the loop.
Source: `agentic_campaign_loop.run_agentic_campaign` -/
structure LoopState where
  completed : List String := []
  summaries : List EvidenceSummary := []
  requestCount : ℤ := 0

/-- Code of the loop. -/
abbrev Code := Proc Op Res Raised LoopState

/-! ### Summaries -/

/-- `payload.get(key)`, for some keys. -/
def picked (payload : Dict) (keys : List String) : Dict := keys.map fun k => (k, dget payload k)

/-- One check of a well-known text.
Source: `evidence_summarizer.summarize_tool_result`, the second branch -/
def summarizeCheck (item : Dict) : Except Exc Json := do
  let headers ← (dgetD item "headers" (.obj [])).attrs
  pure (.obj [("url", dget item "url"), ("status", dget item "status"),
    ("content_type", dget headers "content-type"), ("body_sha256", dget item "body_sha256"),
    ("body_truncated", dget item "body_truncated")])

/-- The mappings among some values. -/
def mappings (items : List Json) : List Dict :=
  items.filterMap fun
    | .obj m => some m
    | _ => none

/-- Source: `evidence_summarizer.summarize_tool_result`, `observations` -/
def observationsOf (r : ToolExecutionResult) : Except Exc Json :=
  if r.toolName = "http_metadata" then do
    let payload ← r.result.attrs
    pure (.obj [("status", dget payload "status"),
      ("headers", dgetD payload "headers" (.obj [])),
      ("body_bytes_observed", dget payload "body_bytes_observed"),
      ("body_sha256", dget payload "body_sha256"),
      ("body_truncated", dget payload "body_truncated")])
  else if r.toolName = "well_known_text" then do
    let payload ← r.result.attrs
    let items ← (dgetD payload "checks" (.arr [])).iter
    let checks ← (mappings items).mapM summarizeCheck
    pure (.obj [("checks", .arr checks)])
  else if r.toolName = "tls_metadata" then do
    let payload ← r.result.attrs
    pure (.obj (picked payload ["tls_version", "cipher", "certificate_sha256", "subject", "issuer",
      "not_before", "not_after", "subject_alt_names"]))
  else .error (.valueError "unsupported Sprint 14 tool result")

/-- Source: `evidence_summarizer.summarize_tool_result` -/
def summarizeToolResult (iteration : ℕ) (objectiveId : String) (r : ToolExecutionResult)
    (artifact : Artifact) : Except Exc EvidenceSummary := do
  let observations ← observationsOf r
  pure ⟨iteration, objectiveId, r.toolName, artifact.path, artifact.sha256, r.requestCount,
    observations⟩

/-! ### The parts of an iteration -/

/-- Raise what a pure part raises. -/
def lift {α : Type} (x : Except Exc α) : Code α := attempt (x.mapError Raised.exc)

/-- `f"iteration-{iteration:02d}-{suffix}"`. -/
def iterationName (iteration : ℕ) (suffix : String) : String :=
  let digits := (Nat.repr iteration).toList
  "iteration-" ++ String.ofList (List.replicate (2 - digits.length) '0' ++ digits) ++ "-" ++ suffix

/-- Write one artifact, when its name is a safe path component.
Source: `agent_workspace.AgentCampaignWorkspace.write_json`, `write_text` -/
def write (area name : String) (content : Json) : Code Artifact := do
  lift (guardE (safeComponent name.toList)
    (workspaceError "artifact name must be a safe lowercase path component"))
  let written ← call (Op.write area name content)
  lift written

/-- Write one record with the time.
Source: `agentic_campaign_loop`, the `write_json` calls -/
def record (area name : String) (fields : Dict) : Code Artifact := do
  let now ← call Op.utcNow
  write area name (.obj ([("schema_version", .str "1.0"), ("timestamp_utc", .str now)] ++ fields))

/-- The proposal of an iteration; a supervisor that fails ends the campaign.
Source: `agentic_campaign_loop.run_agentic_campaign`, `supervisor.propose` -/
def propose (policy : AgentCampaignPolicy) (iteration : ℕ) (s : LoopState) :
    Code ModelProposal := do
  let answer ← call (Op.propose policy.targetAlias (policy.remaining s.completed)
    (s.summaries.map EvidenceSummary.asDict))
  match answer with
  | .ok proposal => pure proposal
  | .error _ =>
    let _ ← record "evidence" (iterationName iteration "model-failed")
      [("iteration", .int iteration), ("executed", .bool false),
        ("result", .str "Deep Agent did not return a valid structured proposal")]
    throw (.campaign "Deep Agent did not return a valid structured proposal")

/-- A denied proposal is recorded, and ends the campaign.
Source: `agentic_campaign_loop._write_denial` -/
def deny {α : Type} (iteration : ℕ) (proposal : ModelProposal) (decision : ProposalDecision)
    (msg : String) : Code α := do
  let _ ← record "evidence" (iterationName iteration "denied")
    [("iteration", .int iteration), ("proposal", .obj proposal.modelDump),
      ("policy_decision", .str decision.summary), ("executed", .bool false)]
  throw (.campaign msg)

/-- Source: `agentic_campaign_loop.run_agentic_campaign`, `predicted_requests` -/
def predictedRequests : ToolName → ℤ
  | .wellKnownText => 2
  | _ => 1

/-- The tool is run; a failure is recorded where it is a bounded one, and ends the campaign.
Source: `agentic_campaign_loop.run_agentic_campaign`, the second `try` -/
def invokeTool (iteration : ℕ) (proposal : ModelProposal) : Code ToolExecutionResult := do
  let answer ← call (Op.invoke proposal)
  match answer with
  | .ok result => pure result
  | .error (.denied _) => throw (.campaign "governed native tool was denied by registry")
  | .error e =>
    if e.isBounded then
      let _ ← record "evidence" (iterationName iteration "failed")
        [("iteration", .int iteration), ("proposal", .obj proposal.modelDump),
          ("policy_decision", .str "allowed"), ("executed", .bool true),
          ("result", .str "bounded native tool failed")]
      throw (.campaign "bounded native tool failed")
    else throw (.tool e)

/-- `completed.add(id)`. -/
def addTo (completed : List String) (id : String) : List String :=
  if id ∈ completed then completed else completed ++ [id]

/-- The result is checked against the proposal, counted, and written down.
Source: `agentic_campaign_loop.run_agentic_campaign`, past the second `try` -/
def recordResult (policy : AgentCampaignPolicy) (iteration : ℕ) (proposal : ModelProposal)
    (decision : ProposalDecision) (result : ToolExecutionResult) : Code Unit := do
  attempt (guardE (result.toolName == proposal.toolName.value)
    (.campaign "native tool result identity does not match proposal"))
  attempt (guardE (result.requestCount == predictedRequests proposal.toolName)
    (.campaign "native tool request count violates its registered contract"))
  modify fun s => { s with requestCount := s.requestCount + result.requestCount }
  let artifact ← record "evidence" (iterationName iteration proposal.objectiveId)
    [("campaign_id", .str policy.campaignId),
      ("authorization_reference", .str policy.authorizationReference),
      ("iteration", .int iteration), ("proposal", .obj proposal.modelDump),
      ("policy_decision", .str decision.summary), ("request_count", .int result.requestCount),
      ("classification", .str "public"), ("result", result.result)]
  let summary ← lift (summarizeToolResult iteration proposal.objectiveId result artifact)
  modify fun s => { s with
    summaries := s.summaries ++ [summary]
    completed := addTo s.completed proposal.objectiveId }
  let s ← get
  let _ ← record "state" "campaign"
    [("campaign_id", .str policy.campaignId), ("status", .str "running"),
      ("iterations", .int iteration), ("request_count", .int s.requestCount),
      ("completed_objectives", .arr ((sortedTexts s.completed).map .str)),
      ("evidence_summaries", .arr (s.summaries.map EvidenceSummary.asDict))]

/-! ### The run -/

/-- One iteration.
Source: `agentic_campaign_loop.run_agentic_campaign`, the body of the loop -/
def runIteration (policy : AgentCampaignPolicy) (iteration : ℕ) : Code Unit := do
  let s ← get
  if (policy.remaining s.completed).isEmpty then
    throw (.campaign "campaign exhausted objectives before iteration limit")
  else
    let proposal ← propose policy iteration s
    let decision := evaluateModelProposal proposal policy s.completed
    if !decision.allowed then
      deny iteration proposal decision
        ("model proposal denied by campaign policy: " ++ decision.summary)
    else if policy.maxRequests < s.requestCount + predictedRequests proposal.toolName then
      deny iteration proposal ⟨["campaign request budget exceeded"]⟩
        "campaign request budget exceeded"
    else
      let result ← invokeTool iteration proposal
      recordResult policy iteration proposal decision result

/-- The iterations, one after another. -/
def runIterations (policy : AgentCampaignPolicy) : List ℕ → Code Unit
  | [] => pure ()
  | i :: rest => do
    runIteration policy i
    runIterations policy rest

/-- Source: `agentic_campaign_loop.AgenticCampaignResult`, up to where it is kept -/
structure AgenticCampaignResult where
  campaignId : String
  status : String
  iterations : ℕ
  requestCount : ℤ
  completedObjectives : List String
  evidenceSummaries : List EvidenceSummary
  report : Artifact

/-- The lines of the report.
Source: `agentic_campaign_loop._due_diligence_report` -/
def dueDiligenceReport (rt : Runtime) (policy : AgentCampaignPolicy)
    (summaries : List EvidenceSummary) : List String :=
  ["# Sprint 14 Agentic Campaign Due Diligence", "",
    "- Campaign: `" ++ policy.campaignId ++ "`",
    "- Target alias: `" ++ policy.targetAlias ++ "`",
    "- Authorization reference: `" ++ policy.authorizationReference ++ "`",
    "- Iterations completed: " ++ toString summaries.length,
    "- Requests used: " ++ toString (summaries.map (·.requestCount)).sum, "", "## Evidence", ""] ++
  summaries.flatMap (fun s =>
    ["### Iteration " ++ toString s.iteration ++ ": " ++ s.objectiveId, "",
      "- Tool: `" ++ s.toolName ++ "`", "- Classification: `public`",
      "- Artifact: `" ++ s.artifactReference ++ "`", "- SHA256: `" ++ s.artifactSha256 ++ "`",
      "- Observations: `" ++ s.observations.dumps rt .spaced ++ "`", ""]) ++
  ["## Conclusion", "",
    "The campaign completed the approved metadata objectives. These observations do not " ++
      "establish a vulnerability. No credentials, state-changing actions, payload injection, " ++
      "or exploitation were used. Any finding requires separate evidence and review.", ""]

/-- **A run of the agentic campaign.** The iterations are numbered from one.
Source: `agentic_campaign_loop.run_agentic_campaign` -/
def runAgenticCampaign (rt : Runtime) (policy : AgentCampaignPolicy) :
    Code AgenticCampaignResult := do
  let started ← call Op.start
  let status ← lift started
  let _ ← record "state" "supervisor"
    [("status", status), ("campaign_id", .str policy.campaignId),
      ("target_alias", .str policy.targetAlias)]
  runIterations policy (List.range' 1 policy.maxIterations.toNat)
  let s ← get
  attempt (guardE (s.completed.length == 3 && s.requestCount == 4)
    (.campaign "Sprint 14 campaign did not complete its bounded contract"))
  let report ← write "reports" "due-diligence"
    (.str (String.intercalate "\n" (dueDiligenceReport rt policy s.summaries)))
  let result : AgenticCampaignResult := ⟨policy.campaignId, "completed", s.summaries.length,
    s.requestCount, sortedTexts s.completed, s.summaries, report⟩
  let _ ← write "state" "campaign-result" (.obj
    [("campaign_id", .str result.campaignId), ("status", .str result.status),
      ("iterations", .int result.iterations), ("request_count", .int result.requestCount),
      ("completed_objectives", .arr (result.completedObjectives.map .str)),
      ("evidence_summaries", .arr (result.evidenceSummaries.map EvidenceSummary.asDict)),
      ("report_path", .str result.report.path)])
  pure result

end Aotp.Agentic
