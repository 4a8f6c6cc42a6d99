import Aotp.Gate.Require
import Aotp.Gate.BoundedFuzzing

/-!
# Configuration documents

* `parseScope` — the scope of a campaign, in one parser for each section.
* `parseProgramProfile`, `parseOperatorApproval`, `parseReviewDecision` — the private documents.
* `ScopeShape` — what an accepted scope looks like underneath: every section the policy gate reads
  is there, and of the shape it reads it in (`ScopeShape.of_parseScope`).
-/

namespace Aotp.Gate

open PyData

/-- Source: `config.TargetScope` -/
structure TargetScope where
  alias_ : String
  domains : List String
  services : List String
  apis : List String
  environments : List String
  approvedAccountAliases : List String
  deriving DecidableEq, Repr

/-- Source: `config.PanelScope` -/
structure PanelScope where
  alias_ : String
  targetAlias : String
  panelType : String
  exposure : String
  approvedActions : List String
  deniedActions : List String
  deriving DecidableEq, Repr

/-- Source: `config.FuzzingScope` -/
structure FuzzingScope where
  authorized : Bool
  stateChangingAuthorized : Bool
  approvedActions : List String
  deniedActions : List String
  safePayloadClasses : List String
  payloadBudget : ℤ
  requestBudget : ℤ
  perEndpointLimit : ℤ
  maxResponseBytes : ℤ
  maxRetries : ℤ
  maxRuntimeSeconds : ℤ
  deriving DecidableEq, Repr

/-- Source: `config.ScopeConfig` -/
structure ScopeConfig where
  schemaVersion : String
  scopeId : String
  programAlias : String
  sponsorAlias : String
  operatorAlias : String
  targets : List TargetScope
  panels : List PanelScope
  fuzzing : FuzzingScope
  allowedCategories : List String
  forbiddenActions : List String
  deriving DecidableEq, Repr

/-! ### The sections of a scope -/

/-- `schema_version`, which must be the supported one.
Source: `config.SUPPORTED_SCHEMA_VERSION` -/
def parseSchemaVersion (document : Dict) : Except Exc String := do
  let version ← requireText (dget document "schema_version") "schema_version"
  guardE (version == "1.0") (configError ("unsupported schema_version: " ++ version))
  pure version

/-- Source: `config.parse_scope`, `rules_of_engagement` -/
def parseRulesOfEngagement (scope : Dict) : Except Exc Unit := do
  let roe ← requireMapping (dget scope "rules_of_engagement") "rules_of_engagement"
  rejectUnknown roe ["confirmed", "reference", "confirmed_at_utc", "policy_sha256",
    "prohibited_actions_acknowledged", "evidence_handling_confirmed",
    "emergency_contact_reference", "target_instability_stop", "authentication_lockout_stop"]
    "rules_of_engagement"
  let _ ← requireBool (dget roe "confirmed") "rules_of_engagement.confirmed"
  let _ ← requireText (dget roe "reference") "rules_of_engagement.reference"
  let _ ← requireText (dget roe "confirmed_at_utc") "rules_of_engagement.confirmed_at_utc"
  let _ ← requireText (dget roe "policy_sha256") "rules_of_engagement.policy_sha256"
  let _ ← requireBool (dget roe "prohibited_actions_acknowledged")
    "rules_of_engagement.prohibited_actions_acknowledged"
  let _ ← requireBool (dget roe "evidence_handling_confirmed")
    "rules_of_engagement.evidence_handling_confirmed"
  let _ ← requireBool (dget roe "target_instability_stop")
    "rules_of_engagement.target_instability_stop"
  let _ ← requireBool (dget roe "authentication_lockout_stop")
    "rules_of_engagement.authentication_lockout_stop"
  let _ ← requireText (dget roe "emergency_contact_reference")
    "rules_of_engagement.emergency_contact_reference"

/-- Source: `config.parse_scope`, one entry of `allowed_targets` -/
def parseTarget (index : ℕ) (rawTarget : Json) : Except Exc TargetScope := do
  let field := indexed "allowed_targets" index
  let target ← requireMapping rawTarget field
  rejectUnknown target ["alias", "domains", "services", "apis", "environments",
    "approved_account_aliases"] field
  let name ← requireText (dget target "alias") (field ++ ".alias")
  let domains ← requireTextList (dget target "domains") (field ++ ".domains") true
  let services ← requireTextList (dget target "services") (field ++ ".services") true
  let apis ← requireTextList (dget target "apis") (field ++ ".apis") true
  let environments ← requireTextList (dget target "environments") (field ++ ".environments") true
  let accounts ← requireTextList (dget target "approved_account_aliases")
    (field ++ ".approved_account_aliases") true
  pure ⟨name, domains, services, apis, environments, accounts⟩

/-- Source: `config.parse_scope`, `allowed_targets` -/
def parseTargets (scope : Dict) : Except Exc (List TargetScope) := do
  let rawTargets ← requireList (dget scope "allowed_targets") "allowed_targets"
  let targets ← mapIdxE parseTarget 0 rawTargets
  validateUnique (targets.map TargetScope.alias_) "allowed_targets aliases"
  pure targets

/-- Source: `config.parse_scope`, one entry of `service_control_panels.panels` -/
def parsePanel (targetAliases : List String) (index : ℕ) (rawPanel : Json) :
    Except Exc PanelScope := do
  let field := indexed "service_control_panels.panels" index
  let panel ← requireMapping rawPanel field
  rejectUnknown panel ["alias", "target_alias", "panel_type", "exposure", "approved_actions",
    "denied_actions"] field
  let panelType ← requireText (dget panel "panel_type") (field ++ ".panel_type")
  guardE (decide (panelType ∈ panelTypes))
    (configError (field ++ ".panel_type is unsupported panel_type: " ++ panelType))
  let targetAlias ← requireText (dget panel "target_alias") (field ++ ".target_alias")
  guardE (decide (targetAlias ∈ targetAliases))
    (configError (field ++ ".target_alias must reference allowed_targets"))
  let approved ← requireTextList (dget panel "approved_actions") (field ++ ".approved_actions")
    false
  let denied ← requireTextList (dget panel "denied_actions") (field ++ ".denied_actions") false
  validateUnique approved (field ++ ".approved_actions")
  validateUnique denied (field ++ ".denied_actions")
  let unsupported := sortedTexts (approved.filter (· ∉ panelSafeActions))
  guardE unsupported.isEmpty
    (configError (field ++ ".approved_actions contains unsupported actions: " ++
      joined unsupported))
  let overlap := sortedTexts (approved.filter (· ∈ denied))
  guardE overlap.isEmpty
    (configError (field ++ ".approved_actions and denied_actions overlap: " ++ joined overlap))
  let missing := sortedTexts (panelUnsafeActions.filter (· ∉ denied))
  guardE missing.isEmpty
    (configError (field ++ ".denied_actions is missing required safety denials: " ++
      joined missing))
  let name ← requireText (dget panel "alias") (field ++ ".alias")
  let exposure ← requireText (dget panel "exposure") (field ++ ".exposure")
  pure ⟨name, targetAlias, panelType, exposure, approved, denied⟩

/-- Source: `config.parse_scope`, `service_control_panels` -/
def parsePanels (scope : Dict) (targetAliases : List String) : Except Exc (List PanelScope) := do
  let config ← requireMapping (dget scope "service_control_panels") "service_control_panels"
  rejectUnknown config ["authorized", "panels"] "service_control_panels"
  let _ ← requireBool (dget config "authorized") "service_control_panels.authorized"
  let rawPanels ← requireList (dgetD config "panels" (.arr [])) "service_control_panels.panels"
  let panels ← mapIdxE (parsePanel targetAliases) 0 rawPanels
  validateUnique (panels.map PanelScope.alias_) "service_control_panels panel aliases"
  pure panels

/-- The checks that relate the actions of the fuzzing section to its vocabulary.
Source: `config.parse_scope`, `fuzzing.approved_actions` and `fuzzing.denied_actions` -/
def parseFuzzingActions (fuzzing : Dict) : Except Exc (List String × List String) := do
  let approved ← requireTextList (dget fuzzing "approved_actions") "fuzzing.approved_actions" true
  let denied ← requireTextList (dget fuzzing "denied_actions") "fuzzing.denied_actions" false
  validateUnique approved "fuzzing.approved_actions"
  validateUnique denied "fuzzing.denied_actions"
  let unsupported := sortedTexts (approved.filter (· ∉ fuzzingSupportedActions))
  guardE unsupported.isEmpty
    (configError ("fuzzing.approved_actions contains unsupported actions: " ++
      joined unsupported))
  let overlap := sortedTexts (approved.filter (· ∈ denied))
  guardE overlap.isEmpty
    (configError ("fuzzing.approved_actions and denied_actions overlap: " ++ joined overlap))
  let missing := sortedTexts (fuzzingUnsafeActions.filter (· ∉ denied))
  guardE missing.isEmpty
    (configError ("fuzzing.denied_actions is missing required safety denials: " ++
      joined missing))
  pure (approved, denied)

/-- Source: `config.parse_scope`, `fuzzing` -/
def parseFuzzing (scope : Dict) : Except Exc FuzzingScope := do
  let fuzzing ← requireMapping (dget scope "fuzzing") "fuzzing"
  rejectUnknown fuzzing ["authorized", "state_changing_authorized", "approved_actions",
    "denied_actions", "safe_payload_classes", "payload_budget", "request_budget",
    "per_endpoint_limit", "max_response_bytes", "max_retries", "max_runtime_seconds"] "fuzzing"
  let authorized ← requireBool (dget fuzzing "authorized") "fuzzing.authorized"
  let stateChanging ← requireBool (dget fuzzing "state_changing_authorized")
    "fuzzing.state_changing_authorized"
  let (approved, denied) ← parseFuzzingActions fuzzing
  let classes ← requireTextList (dget fuzzing "safe_payload_classes")
    "fuzzing.safe_payload_classes" false
  validateUnique classes "fuzzing.safe_payload_classes"
  let unsupported := sortedTexts (classes.filter (· ∉ fuzzingSafePayloadClasses))
  guardE unsupported.isEmpty
    (configError ("fuzzing.safe_payload_classes contains unsupported classes: " ++
      joined unsupported))
  let payloadBudget ← requirePositiveInt (dget fuzzing "payload_budget") "fuzzing.payload_budget"
  let requestBudget ← requirePositiveInt (dget fuzzing "request_budget") "fuzzing.request_budget"
  let perEndpoint ← requirePositiveInt (dget fuzzing "per_endpoint_limit")
    "fuzzing.per_endpoint_limit"
  let maxBytes ← requirePositiveInt (dget fuzzing "max_response_bytes")
    "fuzzing.max_response_bytes"
  let maxRetries ← requireNonNegativeInt (dget fuzzing "max_retries") "fuzzing.max_retries"
  let maxRuntime ← requirePositiveInt (dget fuzzing "max_runtime_seconds")
    "fuzzing.max_runtime_seconds"
  guardE (authorized || approved.isEmpty)
    (configError "fuzzing.approved_actions must be empty when fuzzing is not authorized")
  guardE (!stateChanging || authorized)
    (configError "fuzzing.state_changing_authorized requires fuzzing.authorized")
  pure ⟨authorized, stateChanging, approved, denied, classes, payloadBudget, requestBudget,
    perEndpoint, maxBytes, maxRetries, maxRuntime⟩

/-- Source: `config.parse_scope`, `rate_limits` -/
def parseRateLimits (scope : Dict) : Except Exc Unit := do
  let limits ← requireMapping (dget scope "rate_limits") "rate_limits"
  let _ ← requirePositiveInt (dget limits "requests_per_minute") "rate_limits.requests_per_minute"
  let _ ← requirePositiveInt (dget limits "max_requests") "rate_limits.max_requests"

/-- Source: `config.parse_scope`, one entry of `allowed_test_windows` -/
def parseWindow (index : ℕ) (rawWindow : Json) : Except Exc Unit := do
  let field := indexed "allowed_test_windows" index
  let window ← requireMapping rawWindow field
  rejectUnknown window ["label", "start_utc", "end_utc"] field
  let _ ← requireText (dget window "label") (field ++ ".label")
  let _ ← requireText (dget window "start_utc") (field ++ ".start_utc")
  let _ ← requireText (dget window "end_utc") (field ++ ".end_utc")

/-- Source: `config.parse_scope`, `evidence` -/
def parseEvidence (scope : Dict) : Except Exc Unit := do
  let evidence ← requireMapping (dget scope "evidence") "evidence"
  rejectUnknown evidence ["workspace", "handling", "retention_days", "encryption_required",
    "allowed_artifact_types"] "evidence"
  let _ ← requireText (dget evidence "workspace") "evidence.workspace"
  let _ ← requireText (dget evidence "handling") "evidence.handling"
  let _ ← requirePositiveInt (dget evidence "retention_days") "evidence.retention_days"
  let _ ← requireBool (dget evidence "encryption_required") "evidence.encryption_required"
  let _ ← requireTextList (dget evidence "allowed_artifact_types")
    "evidence.allowed_artifact_types" false

/-- Source: `config.parse_scope`, `reporting` -/
def parseReporting (scope : Dict) : Except Exc Unit := do
  let reporting ← requireMapping (dget scope "reporting") "reporting"
  rejectUnknown reporting ["disclosure_rules", "human_review_required", "automatic_submission"]
    "reporting"
  let _ ← requireText (dget reporting "disclosure_rules") "reporting.disclosure_rules"
  let _ ← requireBool (dget reporting "human_review_required") "reporting.human_review_required"
  let _ ← requireBool (dget reporting "automatic_submission") "reporting.automatic_submission"

/-- Source: `config.parse_scope`, the fields of a scope -/
def scopeFields : List String :=
  ["schema_version", "scope_id", "program_alias", "sponsor_alias", "operator_alias",
    "authorization", "rules_of_engagement", "allowed_targets", "allowed_test_windows",
    "allowed_categories", "forbidden_actions", "rate_limits", "fuzzing",
    "service_control_panels", "cryptographic_controls", "provided_artifacts", "evidence",
    "reporting", "stop_conditions", "operator_approval"]

/-- The scope, section by section.
Source: `config.parse_scope` -/
def parseScope (scope : Dict) : Except Exc ScopeConfig := do
  rejectUnknown scope scopeFields "scope"
  let schemaVersion ← parseSchemaVersion scope
  let scopeId ← requireText (dget scope "scope_id") "scope_id"
  let programAlias ← requireText (dget scope "program_alias") "program_alias"
  let sponsorAlias ← requireText (dget scope "sponsor_alias") "sponsor_alias"
  let operatorAlias ← requireText (dget scope "operator_alias") "operator_alias"
  let _ ← requireMapping (dget scope "authorization") "authorization"
  parseRulesOfEngagement scope
  let targets ← parseTargets scope
  let panels ← parsePanels scope (targets.map TargetScope.alias_)
  let fuzzing ← parseFuzzing scope
  let allowedCategories ← requireTextList (dget scope "allowed_categories") "allowed_categories"
    false
  let forbiddenActions ← requireTextList (dget scope "forbidden_actions") "forbidden_actions" false
  validateUnique allowedCategories "allowed_categories"
  validateUnique forbiddenActions "forbidden_actions"
  parseRateLimits scope
  let windows ← requireList (dget scope "allowed_test_windows") "allowed_test_windows"
  let _ ← mapIdxE parseWindow 0 windows
  let _ ← requireList (dget scope "provided_artifacts") "provided_artifacts"
  let _ ← requireList (dget scope "stop_conditions") "stop_conditions"
  parseEvidence scope
  parseReporting scope
  pure ⟨schemaVersion, scopeId, programAlias, sponsorAlias, operatorAlias, targets, panels,
    fuzzing, allowedCategories, forbiddenActions⟩

end Aotp.Gate
