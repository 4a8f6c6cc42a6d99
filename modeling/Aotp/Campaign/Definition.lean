import Aotp.Gate.Config

/-!
# Campaign definitions

* `parseCampaign` — a campaign document, field by field, or the error that names the field.
* `validateDependencyGraph` — the dependencies are known, not reflexive, and acyclic; the depth
  first search carries the visiting and visited sets of the source.
* `rawObjectives` — the objectives as the campaign loop reads them, untyped.
-/

namespace Aotp.Campaign

open PyData Aotp.Gate

/-- Source: `campaign.SUPPORTED_MODULES` -/
def supportedModules : List String :=
  ["wstg_webapp", "service_control_panel", "bounded_fuzzing", "sbom_review", "crypto_controls"]

/-- Source: `campaign.SUPPORTED_STOP_CONDITIONS` -/
def supportedStopConditions : List String :=
  ["operator_stop", "policy_denial", "human_review", "rate_limit", "iteration_limit",
    "runtime_limit", "request_limit", "target_instability", "authentication_lockout_risk",
    "response_size_limit", "retry_limit", "redaction_failure"]

/-- Source: `campaign.CampaignLimits` -/
structure CampaignLimits where
  maxIterations : ℤ
  maxRuntimeSeconds : ℤ
  maxRequests : ℤ
  maxConsecutiveFailures : ℤ
  deriving DecidableEq, Repr

/-- Source: `campaign.CampaignObjective` -/
structure CampaignObjective where
  objectiveId : String
  title : String
  module : String
  category : String
  action : String
  targetAlias : String
  priority : ℤ
  dependsOn : List String
  requiresHumanApproval : Bool
  data : Dict

/-- Source: `campaign.CampaignDefinition` -/
structure CampaignDefinition where
  campaignId : String
  name : String
  description : String
  limits : CampaignLimits
  stopConditions : List String
  objectives : List CampaignObjective

/-! ### The dependency graph -/

/-- The dependencies of an objective, by id.
Source: `campaign._validate_dependency_graph`, `by_id` -/
def dependenciesOf (objectives : List CampaignObjective) (id : String) : List String :=
  match objectives.find? (·.objectiveId == id) with
  | some o => o.dependsOn
  | none => []

/-- Depth first search from one id. The fuel bounds the depth: every nested visit adds a new id to
`visiting`, so the number of objectives is enough.
Source: `campaign._validate_dependency_graph`, `visit` -/
def visit (objectives : List CampaignObjective) :
    ℕ → List String → List String → String → Except Exc (List String)
  | 0, _, _, id => .error (configError ("campaign objective dependency cycle includes: " ++ id))
  | fuel + 1, visiting, visited, id =>
    if id ∈ visiting then
      .error (configError ("campaign objective dependency cycle includes: " ++ id))
    else if id ∈ visited then .ok visited
    else do
      let visited' ← (dependenciesOf objectives id).foldlM
        (fun visited dependency => visit objectives fuel (id :: visiting) visited dependency) visited
      pure (id :: visited')

/-- The checks of one objective's dependencies.
Source: `campaign._validate_dependency_graph` -/
def checkDependencies (ids : List String) : List CampaignObjective → Except Exc Unit
  | [] => pure ()
  | o :: rest => do
    let unknown := sortedTexts (o.dependsOn.filter (· ∉ ids))
    guardE unknown.isEmpty
      (configError ("objective " ++ o.objectiveId ++ " has unknown dependencies: " ++
        joined unknown))
    guardE (decide (o.objectiveId ∉ o.dependsOn))
      (configError ("objective " ++ o.objectiveId ++ " cannot depend on itself"))
    checkDependencies ids rest

/-- Source: `campaign._validate_dependency_graph` -/
def validateDependencyGraph (objectives : List CampaignObjective) : Except Exc Unit := do
  let ids := objectives.map (·.objectiveId)
  checkDependencies ids objectives
  let _ ← ids.foldlM (visit objectives (ids.length + 1) []) []

/-! ### One objective -/

/-- Source: `campaign.parse_campaign`, `allowed_objective_fields` -/
def objectiveFields : List String :=
  ["id", "title", "module", "category", "action", "target_alias", "target_category", "domain",
    "service", "api", "environment", "account_alias", "artifact", "state_changing",
    "wstg_mapping", "artifact_mapping", "priority", "depends_on", "requires_human_approval",
    "parameters", "panel_alias", "panel_type", "requested_actions", "requested_observations",
    "safe_observation_only", "lockout_risk_detected", "payload_classes", "payload_count",
    "endpoint_request_budgets", "max_response_bytes", "max_retries", "max_runtime_seconds",
    "corpus_reference", "detected_stop_signals", "tls_evidence", "cookie_attributes",
    "token_configuration", "weak_algorithm_indicators", "key_management_metadata"]

/-- A check of a field that may be absent.
Source: `campaign.parse_campaign`, `if "…" in objective` -/
def whenPresent (objective : Dict) (key : String) (check : Json → Except Exc Unit) :
    Except Exc Unit :=
  match dget? objective key with
  | some v => check v
  | none => pure ()

/-- A check that only some modules need. -/
def checkWhen (condition : Bool) (check : Except Exc Unit) : Except Exc Unit :=
  if condition then check else pure ()

/-- A list of texts that is only checked. -/
def checkTextList (value : Json) (field : String) (allowEmpty : Bool) : Except Exc Unit := do
  let _ ← requireTextList value field allowEmpty

/-- Source: `campaign.parse_campaign`, `request_budget` -/
def checkParameters (objective : Dict) (field : String) : Except Exc Unit := do
  let parameters ← requireMapping (dget objective "parameters") (field ++ ".parameters")
  guardE (nonNegativeInt? (dget parameters "request_budget")).isSome
    (configError (field ++ ".parameters.request_budget must be a non-negative integer"))

/-- Source: `campaign.parse_campaign`, `service_control_panel` -/
def checkPanelObjective (objective : Dict) (field : String) : Except Exc Unit := do
  let _ ← requireText (dget objective "panel_alias") (field ++ ".panel_alias")
  let _ ← requireText (dget objective "panel_type") (field ++ ".panel_type")
  checkTextList (dget objective "requested_observations") (field ++ ".requested_observations") false
  whenPresent objective "requested_actions" fun v =>
    checkTextList v (field ++ ".requested_actions") true
  let _ ← requireBool (dget objective "safe_observation_only") (field ++ ".safe_observation_only")
  whenPresent objective "lockout_risk_detected" fun v => do
    let _ ← requireBool v (field ++ ".lockout_risk_detected")

/-- Source: `campaign.parse_campaign`, `endpoint_request_budgets` -/
def checkEndpoints (field : String) : Dict → Except Exc Unit
  | [] => pure ()
  | (endpoint, count) :: rest => do
    let _ ← requireText (.str endpoint) (field ++ ".endpoint_request_budgets key")
    let _ ← requirePositiveInt count (field ++ ".endpoint_request_budgets." ++ endpoint)
    checkEndpoints field rest

/-- Source: `campaign.parse_campaign`, `detected_stop_signals` -/
def checkStopSignals (field : String) (value : Json) : Except Exc Unit := do
  let signals ← requireTextList value (field ++ ".detected_stop_signals") true
  let unsupported := sortedTexts (signals.filter (· ∉ fuzzingStopSignals))
  guardE unsupported.isEmpty
    (configError (field ++ ".detected_stop_signals contains unsupported signals: " ++
      joined unsupported))

/-- Source: `campaign.parse_campaign`, `bounded_fuzzing` -/
def checkFuzzingObjective (objective : Dict) (field : String) : Except Exc Unit := do
  checkTextList (dget objective "payload_classes") (field ++ ".payload_classes") false
  let _ ← requirePositiveInt (dget objective "payload_count") (field ++ ".payload_count")
  let budgets ← requireMapping (dget objective "endpoint_request_budgets")
    (field ++ ".endpoint_request_budgets")
  guardE (!budgets.isEmpty) (configError (field ++ ".endpoint_request_budgets must not be empty"))
  checkEndpoints field budgets
  let _ ← requirePositiveInt (dget objective "max_response_bytes") (field ++ ".max_response_bytes")
  let _ ← requireNonNegativeInt (dget objective "max_retries") (field ++ ".max_retries")
  let _ ← requirePositiveInt (dget objective "max_runtime_seconds")
    (field ++ ".max_runtime_seconds")
  whenPresent objective "corpus_reference" fun v => do
    let _ ← requireMapping v (field ++ ".corpus_reference")
  whenPresent objective "detected_stop_signals" (checkStopSignals field)

/-- Source: `campaign.parse_campaign`, one entry of `objectives` -/
def parseObjective (index : ℕ) (rawObjective : Json) : Except Exc CampaignObjective := do
  let field := indexed "objectives" index
  let objective ← requireMapping rawObjective field
  rejectUnknown objective objectiveFields field
  let module ← requireText (dget objective "module") (field ++ ".module")
  guardE (decide (module ∈ supportedModules))
    (configError (field ++ ".module is unsupported: " ++ module))
  let category ← requireText (dget objective "category") (field ++ ".category")
  guardE (category == module) (configError (field ++ ".category must match module"))
  let dependsOn ← requireTextList (dget objective "depends_on") (field ++ ".depends_on") true
  guardE (decide dependsOn.Nodup)
    (configError (field ++ ".depends_on must not contain duplicates"))
  checkParameters objective field
  whenPresent objective "wstg_mapping" fun v => checkTextList v (field ++ ".wstg_mapping") true
  whenPresent objective "artifact_mapping" fun v =>
    checkTextList v (field ++ ".artifact_mapping") true
  checkWhen (module == "service_control_panel") (checkPanelObjective objective field)
  checkWhen (module == "bounded_fuzzing") (checkFuzzingObjective objective field)
  let objectiveId ← requireText (dget objective "id") (field ++ ".id")
  let title ← requireText (dget objective "title") (field ++ ".title")
  let action ← requireText (dget objective "action") (field ++ ".action")
  let targetAlias ← requireText (dget objective "target_alias") (field ++ ".target_alias")
  let priority ← requirePositiveInt (dget objective "priority") (field ++ ".priority")
  let approval ← requireBool (dget objective "requires_human_approval")
    (field ++ ".requires_human_approval")
  pure ⟨objectiveId, title, module, category, action, targetAlias, priority, dependsOn, approval,
    objective⟩

/-! ### The campaign -/

/-- Source: `campaign.parse_campaign`, `limits` -/
def parseLimits (data : Dict) : Except Exc CampaignLimits := do
  let raw ← requireMapping (dget data "limits") "limits"
  rejectUnknown raw ["max_iterations", "max_runtime_seconds", "max_requests",
    "max_consecutive_failures"] "limits"
  let iterations ← requirePositiveInt (dget raw "max_iterations") "limits.max_iterations"
  let runtime ← requirePositiveInt (dget raw "max_runtime_seconds") "limits.max_runtime_seconds"
  let requests ← requirePositiveInt (dget raw "max_requests") "limits.max_requests"
  let failures ← requirePositiveInt (dget raw "max_consecutive_failures")
    "limits.max_consecutive_failures"
  pure ⟨iterations, runtime, requests, failures⟩

/-- Source: `campaign.parse_campaign`, `execution` -/
def checkExecution (data : Dict) : Except Exc Unit := do
  let execution ← requireMapping (dget data "execution") "execution"
  rejectUnknown execution ["default_mode", "continue_on_inconclusive", "pause_on_manual_review",
    "stop_on_policy_denial"] "execution"
  let mode ← requireText (dget execution "default_mode") "execution.default_mode"
  guardE (mode == "dry_run") (configError "campaign execution.default_mode must be dry_run")
  let _ ← requireBool (dget execution "continue_on_inconclusive")
    "execution.continue_on_inconclusive"
  let pause ← requireBool (dget execution "pause_on_manual_review")
    "execution.pause_on_manual_review"
  let stop ← requireBool (dget execution "stop_on_policy_denial")
    "execution.stop_on_policy_denial"
  guardE (pause && stop)
    (configError "campaigns must pause on manual review and stop on policy denial")

/-- Source: `campaign.parse_campaign`, `stop_conditions` -/
def parseStopConditions (data : Dict) : Except Exc (List String) := do
  let stops ← requireTextList (dget data "stop_conditions") "stop_conditions" false
  validateUnique stops "stop_conditions"
  let unsupported := sortedTexts (stops.filter (· ∉ supportedStopConditions))
  guardE unsupported.isEmpty
    (configError ("unsupported campaign stop conditions: " ++ joined unsupported))
  let missing := sortedTexts (["operator_stop", "policy_denial", "human_review"].filter (· ∉ stops))
  guardE missing.isEmpty
    (configError ("campaign is missing mandatory stop conditions: " ++ joined missing))
  pure stops

/-- Source: `campaign.parse_campaign`, `required_fuzzing_stops` -/
def requiredFuzzingStops : List String :=
  ["authentication_lockout_risk", "request_limit", "response_size_limit", "retry_limit",
    "runtime_limit", "target_instability"]

/-- The stop conditions that the modules of a campaign require.
Source: `campaign.parse_campaign` -/
def checkModuleStops (objectives : List CampaignObjective) (stops : List String) :
    Except Exc Unit := do
  guardE (!objectives.any (·.module == "service_control_panel") ||
      stops.contains "authentication_lockout_risk")
    (configError
      "service control panel campaigns require authentication_lockout_risk stop condition")
  let missing := sortedTexts (requiredFuzzingStops.filter (· ∉ stops))
  guardE (!objectives.any (·.module == "bounded_fuzzing") || missing.isEmpty)
    (configError ("bounded fuzzing campaign is missing required stop conditions: " ++
      joined missing))

/-- The objectives of a campaign, with their ids and their graph checked.
Source: `campaign.parse_campaign`, `objectives` -/
def parseObjectives (data : Dict) : Except Exc (List CampaignObjective) := do
  let raw ← requireList (dget data "objectives") "objectives"
  guardE (!raw.isEmpty) (configError "campaign objectives must not be empty")
  let objectives ← mapIdxE parseObjective 0 raw
  guardE (decide (objectives.map (·.objectiveId)).Nodup)
    (configError "campaign objective ids must not contain duplicates")
  validateDependencyGraph objectives
  pure objectives

/-- Source: `campaign.parse_campaign` -/
def parseCampaign (data : Dict) : Except Exc CampaignDefinition := do
  rejectUnknown data ["schema_version", "campaign_id", "name", "description", "limits",
    "execution", "stop_conditions", "objectives"] "campaign"
  let version ← requireText (dget data "schema_version") "schema_version"
  guardE (version == "1.0") (configError ("unsupported campaign schema_version: " ++ version))
  let campaignId ← requireText (dget data "campaign_id") "campaign_id"
  let name ← requireText (dget data "name") "name"
  let description ← requireText (dget data "description") "description"
  let limits ← parseLimits data
  checkExecution data
  let stops ← parseStopConditions data
  let objectives ← parseObjectives data
  checkModuleStops objectives stops
  pure ⟨campaignId, name, description, limits, stops, objectives⟩

end Aotp.Campaign
