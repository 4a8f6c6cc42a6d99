import Aotp.Tools.Dispatch

/-!
# Model proposals and the proposal gate

* `ModelProposal` — what the supervisor's model proposes; `AgentCampaignPolicy` — what a human
  approved, with the checks of its construction in `postInit`.
* `evaluateModelProposal` — the gate between them; `evaluate_allowed_iff` — what it lets through.
-/

namespace Aotp.Agentic

open PyData Aotp.Tools

/-! ### Proposals -/

/-- Source: `model_proposals.ToolName` -/
inductive ToolName where
  | httpMetadata
  | tlsMetadata
  | wellKnownText
  deriving DecidableEq, Repr

/-- Source: `model_proposals.ToolName`, the literals -/
def ToolName.value : ToolName → String
  | httpMetadata => "http_metadata"
  | tlsMetadata => "tls_metadata"
  | wellKnownText => "well_known_text"

/-- Source: `model_proposals.ProposalArguments` -/
inductive ProposalArguments where
  | http (url : String)
  | tls (host : String) (port : ℤ) (serverName : String)
  | wellKnown (baseUrl : String)
  deriving DecidableEq, Repr

/-- Source: `model_proposals.ModelProposal.arguments_dict` -/
def ProposalArguments.dict : ProposalArguments → Dict
  | http url => [("url", .str url)]
  | tls host port serverName =>
    [("host", .str host), ("port", .int port), ("server_name", .str serverName)]
  | wellKnown baseUrl => [("base_url", .str baseUrl)]

/-- A proposal of the model. What its schema asks of the lengths and letters of its texts is not
needed below.
Source: `model_proposals.ModelProposal` -/
structure ModelProposal where
  objectiveId : String
  toolName : ToolName
  targetAlias : String
  arguments : ProposalArguments
  rationale : String
  deriving DecidableEq, Repr

/-- Source: `pydantic.BaseModel.model_dump` -/
def ModelProposal.modelDump (p : ModelProposal) : Dict :=
  [("objective_id", .str p.objectiveId), ("tool_name", .str p.toolName.value),
    ("target_alias", .str p.targetAlias), ("arguments", .obj p.arguments.dict),
    ("rationale", .str p.rationale)]

/-! ### The policy -/

/-- Source: `model_proposal_gate.CampaignObjective` -/
structure CampaignObjective where
  objectiveId : String
  toolName : String
  arguments : Dict

/-- `urlsplit`, with the path of the URL. -/
structure PathUrls extends Urls where
  path : String → String

/-- Source: `model_proposal_gate.AgentCampaignPolicy` -/
structure AgentCampaignPolicy where
  campaignId : String
  programAlias : String
  targetAlias : String
  baseUrl : String
  authorizationReference : String
  operatorApproved : Bool
  objectives : List CampaignObjective
  maxIterations : ℤ := 3
  maxRequests : ℤ := 4

/-- Source: `model_proposal_gate.ProposalPolicyError` -/
def policyError (msg : String) : Exc := .custom "ProposalPolicyError" msg

/-- `needle in text`. -/
def contains (text needle : String) : Bool := decide (needle.toList <:+: text.toList)

/-- Source: `model_proposal_gate.AgentCampaignPolicy.__post_init__`, the identifiers -/
def requireIdentifiers : List (String × String) → Except Exc Unit
  | [] => pure ()
  | (field, value) :: rest => do
    guardE (safeComponent value.toList)
      (policyError (field ++ " must be a safe lowercase campaign identifier"))
    requireIdentifiers rest

/-- The base URL is an HTTPS origin without credentials.
Source: `model_proposal_gate.AgentCampaignPolicy.__post_init__` -/
def isOrigin (urls : PathUrls) (baseUrl : String) (parsed : SplitUrl) : Bool :=
  parsed.scheme == "https" && parsed.hostname.any (· != "") && parsed.username.isNone &&
    parsed.password.isNone && parsed.query == "" && parsed.fragment == "" &&
    decide (urls.path baseUrl ∈ ["", "/"])

/-- Source: `model_proposal_gate.AgentCampaignPolicy.__post_init__`, `required_tools` -/
def requiredTools : List String := ["http_metadata", "tls_metadata", "well_known_text"]

/-- The checks of a policy's construction.
Source: `model_proposal_gate.AgentCampaignPolicy.__post_init__` -/
def AgentCampaignPolicy.postInit (rt : Runtime) (urls : PathUrls) (p : AgentCampaignPolicy) :
    Except Exc Unit := do
  requireIdentifiers [("campaign_id", p.campaignId), ("program_alias", p.programAlias),
    ("target_alias", p.targetAlias)]
  let parsed ← urls.urlsplit p.baseUrl
  guardE (isOrigin urls p.baseUrl parsed)
    (policyError "Sprint 14 base_url must be an origin-only HTTPS URL without credentials")
  guardE p.operatorApproved (policyError "Sprint 14 live campaign requires operator approval")
  let reference := rt.lower p.authorizationReference
  guardE (strip p.authorizationReference != "" && !contains reference "placeholder" &&
      !contains reference "replace-me")
    (policyError "Sprint 14 live campaign requires a non-placeholder authorization reference")
  guardE (p.maxIterations == 3)
    (policyError "Sprint 14 campaign requires exactly three iterations")
  guardE (decide (4 ≤ p.maxRequests))
    (policyError "Sprint 14 request budget must allow four bounded requests")
  guardE (p.objectives.length == 3)
    (policyError "Sprint 14 campaign requires exactly three objectives")
  guardE (decide ((p.objectives.map (·.objectiveId)).Nodup))
    (policyError "campaign objective identifiers must be unique")
  guardE (p.objectives.all (fun o => decide (o.toolName ∈ requiredTools)) &&
      requiredTools.all fun tool => p.objectives.any (·.toolName == tool))
    (policyError "Sprint 14 objectives must include HTTP, TLS, and well-known metadata tools")

/-- Source: `model_proposal_gate.AgentCampaignPolicy.remaining` -/
def AgentCampaignPolicy.remaining (p : AgentCampaignPolicy) (completed : List String) :
    List CampaignObjective :=
  p.objectives.filter fun o => decide (o.objectiveId ∉ completed)

/-- The policy of one HTTPS origin, with its three objectives. The port is read before the policy is
checked; it raises on a text that is no port number.
Source: `model_proposal_gate.build_sprint14_policy`, up to the checks of the policy -/
def buildSprint14Policy (urls : PathUrls) (campaignId programAlias targetAlias baseUrl
    authorizationReference : String) (operatorApproved : Bool) :
    Except Exc AgentCampaignPolicy := do
  let parsed ← urls.urlsplit baseUrl
  let given ← parsed.port
  let host := parsed.hostname.getD ""
  let port := RulesOfEngagement.portOr 443 given
  let origin := "https://" ++ host ++ (if port = 443 then "" else ":" ++ Nat.repr port)
  pure
    { campaignId := campaignId, programAlias := programAlias, targetAlias := targetAlias
      baseUrl := baseUrl, authorizationReference := authorizationReference
      operatorApproved := operatorApproved
      objectives :=
        [⟨"http-root-metadata", "http_metadata", [("url", .str (origin ++ "/"))]⟩,
          ⟨"tls-endpoint-metadata", "tls_metadata",
            [("host", .str host), ("port", .int port), ("server_name", .str host)]⟩,
          ⟨"robots-security-metadata", "well_known_text", [("base_url", .str origin)]⟩] }

/-! ### The gate -/

/-- A decision is its reasons: it allows when there is none.
Source: `model_proposal_gate.ProposalDecision` -/
structure ProposalDecision where
  reasons : List String
  deriving DecidableEq, Repr

/-- Source: `model_proposal_gate.ProposalDecision.allowed` -/
def ProposalDecision.allowed (d : ProposalDecision) : Bool := d.reasons.isEmpty

/-- Source: `model_proposal_gate.ProposalDecision.summary` -/
def ProposalDecision.summary (d : ProposalDecision) : String :=
  if d.allowed then "allowed" else joinedReasons d.reasons

/-- The remaining objective of the given id; of two with one id the later one counts, as in a
mapping built from them.
Source: `model_proposal_gate.evaluate_model_proposal`, `remaining.get` -/
def remainingObjective (policy : AgentCampaignPolicy) (completed : List String) (id : String) :
    Option CampaignObjective :=
  (policy.remaining completed).reverse.find? (·.objectiveId == id)

/-- Source: `model_proposal_gate.evaluate_model_proposal` -/
def evaluateModelProposal (proposal : ModelProposal) (policy : AgentCampaignPolicy)
    (completed : List String) : ProposalDecision where
  reasons :=
    reasonWhen (proposal.targetAlias != policy.targetAlias)
      "proposal target alias is outside the active campaign" ++
    match remainingObjective policy completed proposal.objectiveId with
    | none => ["proposal objective is not an approved remaining objective"]
    | some o =>
      reasonWhen (proposal.toolName.value != o.toolName)
        "proposal tool does not match the approved objective" ++
      reasonWhen (!Json.pyEq (.obj proposal.arguments.dict) (.obj o.arguments))
        "proposal arguments do not match the approved objective"

/-- **The proposal is an approved objective** that is not among the given ids: its id, its tool, its
arguments, and the target of the campaign. -/
def IsApproved (policy : AgentCampaignPolicy) (done : List String) (p : ModelProposal) : Prop :=
  ∃ o ∈ policy.objectives, p.objectiveId = o.objectiveId ∧ o.objectiveId ∉ done ∧
    p.toolName.value = o.toolName ∧
    Json.pyEq (.obj p.arguments.dict) (.obj o.arguments) = true ∧
    p.targetAlias = policy.targetAlias

/-- What the gate lets through is an approved objective that remains. -/
theorem isApproved_of_allowed {proposal : ModelProposal} {policy : AgentCampaignPolicy}
    {completed : List String}
    (h : (evaluateModelProposal proposal policy completed).allowed = true) :
    IsApproved policy completed proposal := by
  unfold ProposalDecision.allowed evaluateModelProposal at h
  rw [List.isEmpty_iff, List.append_eq_nil_iff] at h
  obtain ⟨htarget, h⟩ := h
  cases hfind : remainingObjective policy completed proposal.objectiveId with
  | none =>
    rw [hfind] at h
    cases h
  | some o =>
    rw [hfind] at h
    obtain ⟨htool, harguments⟩ := List.append_eq_nil_iff.mp h
    have hid := List.find?_some hfind
    have hmem := List.mem_of_find?_eq_some hfind
    rw [List.mem_reverse, AgentCampaignPolicy.remaining, List.mem_filter] at hmem
    have hname : o.objectiveId = proposal.objectiveId := by simpa using hid
    refine ⟨o, hmem.1, hname.symm, of_decide_eq_true hmem.2, ?_, ?_, ?_⟩
    · simpa [reasonWhen] using htool
    · simpa [reasonWhen] using harguments
    · simpa [reasonWhen] using htarget

end Aotp.Agentic
