import Aotp.Gate.Config

/-!
# The private documents of an operator

* `parseProgramProfile` — the profile of the program under test.
* `parseOperatorApproval` — the approval a live run needs.
* `parseReviewDecision` — a decision on a paused campaign.
-/

namespace Aotp.Gate

open PyData

/-- Source: `config.ProgramPolicyChecklist` -/
structure ProgramPolicyChecklist where
  policyAccepted : Bool
  safeHarborReviewed : Bool
  disclosureRulesReviewed : Bool
  stopConditionsReviewed : Bool
  deriving DecidableEq, Repr

/-- Source: `config.ProgramProfile` -/
structure ProgramProfile where
  profileId : String
  programAlias : String
  inScopeAssetAliases : List String
  outOfScopeAssetAliases : List String
  prohibitedActions : List String
  allowedTestingCategories : List String
  forbiddenTestingCategories : List String
  policyChecklist : ProgramPolicyChecklist
  deriving DecidableEq, Repr

/-- Source: `config.OperatorApproval` -/
structure OperatorApproval where
  approvalId : String
  operatorAlias : String
  decision : String
  approvedAtUtc : String
  validUntilUtc : String
  scopeSha256 : String
  authorizationReference : String
  objectiveIds : List String
  campaignIds : List String
  deriving DecidableEq, Repr

/-- Source: `config.ReviewDecision` -/
structure ReviewDecision where
  decisionId : String
  campaignId : String
  objectiveId : String
  operatorAlias : String
  decision : String
  decidedAtUtc : String
  stateSha256 : String
  reason : String
  deriving DecidableEq, Repr

/-- Several text fields in a row, each under its own name. -/
def requireTexts (document : Dict) : List String → Except Exc Unit
  | [] => pure ()
  | field :: rest => do
    let _ ← requireText (dget document field) field
    requireTexts document rest

/-- Source: `config.parse_program_profile`, the fields of a profile -/
def profileFields : List String :=
  ["schema_version", "profile_id", "data_classification", "program_alias", "platform_reference",
    "accepted_policy_date", "authorization_reference", "safe_harbor_reference", "policy_sha256",
    "confidentiality_reference", "in_scope_asset_aliases", "out_of_scope_asset_aliases",
    "prohibited_actions", "rate_limits", "allowed_testing_categories",
    "forbidden_testing_categories", "report_format_expectations", "disclosure_rules",
    "emergency_stop_condition", "sensitive_workflow_notes", "policy_checklist"]

/-- Source: `config.parse_program_profile`, `policy_checklist` -/
def parsePolicyChecklist (profile : Dict) : Except Exc ProgramPolicyChecklist := do
  let raw ← requireMapping (dget profile "policy_checklist") "policy_checklist"
  rejectUnknown raw ["policy_accepted", "safe_harbor_reviewed", "disclosure_rules_reviewed",
    "stop_conditions_reviewed"] "policy_checklist"
  let accepted ← requireBool (dget raw "policy_accepted") "policy_checklist.policy_accepted"
  let harbor ← requireBool (dget raw "safe_harbor_reviewed")
    "policy_checklist.safe_harbor_reviewed"
  let disclosure ← requireBool (dget raw "disclosure_rules_reviewed")
    "policy_checklist.disclosure_rules_reviewed"
  let stops ← requireBool (dget raw "stop_conditions_reviewed")
    "policy_checklist.stop_conditions_reviewed"
  pure ⟨accepted, harbor, disclosure, stops⟩

/-- Source: `config.parse_program_profile` -/
def parseProgramProfile (profile : Dict) : Except Exc ProgramProfile := do
  rejectUnknown profile profileFields "program profile"
  let _ ← parseSchemaVersion profile
  let profileId ← requireText (dget profile "profile_id") "profile_id"
  let classification ← requireText (dget profile "data_classification") "data_classification"
  guardE (classification == "private") (configError "data_classification must be private")
  let programAlias ← requireText (dget profile "program_alias") "program_alias"
  requireTexts profile ["platform_reference", "accepted_policy_date", "authorization_reference",
    "safe_harbor_reference", "policy_sha256", "confidentiality_reference",
    "report_format_expectations", "disclosure_rules", "emergency_stop_condition",
    "sensitive_workflow_notes"]
  let rateLimits ← requireMapping (dget profile "rate_limits") "rate_limits"
  let _ ← requirePositiveInt (dget rateLimits "requests_per_minute")
    "rate_limits.requests_per_minute"
  let inScope ← requireTextList (dget profile "in_scope_asset_aliases") "in_scope_asset_aliases"
    false
  let outOfScope ← requireTextList (dget profile "out_of_scope_asset_aliases")
    "out_of_scope_asset_aliases" true
  let prohibited ← requireTextList (dget profile "prohibited_actions") "prohibited_actions" false
  let allowed ← requireTextList (dget profile "allowed_testing_categories")
    "allowed_testing_categories" false
  let forbidden ← requireTextList (dget profile "forbidden_testing_categories")
    "forbidden_testing_categories" true
  let checklist ← parsePolicyChecklist profile
  validateUnique inScope "in_scope_asset_aliases"
  validateUnique outOfScope "out_of_scope_asset_aliases"
  validateUnique prohibited "prohibited_actions"
  validateUnique allowed "allowed_testing_categories"
  validateUnique forbidden "forbidden_testing_categories"
  let overlap := sortedTexts (inScope.filter (· ∈ outOfScope))
  guardE overlap.isEmpty
    (configError ("asset aliases cannot be both in and out of scope: " ++ joined overlap))
  let categories := sortedTexts (allowed.filter (· ∈ forbidden))
  guardE categories.isEmpty (configError
    ("testing categories cannot be both allowed and forbidden: " ++ joined categories))
  pure ⟨profileId, programAlias, inScope, outOfScope, prohibited, allowed, forbidden, checklist⟩

/-- Source: `config.parse_operator_approval` -/
def parseOperatorApproval (approval : Dict) : Except Exc OperatorApproval := do
  rejectUnknown approval ["schema_version", "approval_id", "operator_alias", "decision",
    "approved_at_utc", "valid_until_utc", "scope_sha256", "authorization_reference",
    "objective_ids", "campaign_ids"] "operator approval"
  let _ ← parseSchemaVersion approval
  let decision ← requireText (dget approval "decision") "decision"
  guardE (decide (decision ∈ ["approved", "denied"]))
    (configError "decision must be approved or denied")
  let objectiveIds ← requireTextList (dget approval "objective_ids") "objective_ids" true
  let campaignIds ← requireTextList (dget approval "campaign_ids") "campaign_ids" true
  validateUnique objectiveIds "objective_ids"
  validateUnique campaignIds "campaign_ids"
  guardE (!objectiveIds.isEmpty || !campaignIds.isEmpty)
    (configError "operator approval must name at least one objective or campaign")
  let approvalId ← requireText (dget approval "approval_id") "approval_id"
  let operatorAlias ← requireText (dget approval "operator_alias") "operator_alias"
  let approvedAt ← requireText (dget approval "approved_at_utc") "approved_at_utc"
  let validUntil ← requireText (dget approval "valid_until_utc") "valid_until_utc"
  let scopeSha256 ← requireText (dget approval "scope_sha256") "scope_sha256"
  let reference ← requireText (dget approval "authorization_reference") "authorization_reference"
  pure ⟨approvalId, operatorAlias, decision, approvedAt, validUntil, scopeSha256, reference,
    objectiveIds, campaignIds⟩

/-- Source: `config.parse_review_decision` -/
def parseReviewDecision (review : Dict) : Except Exc ReviewDecision := do
  rejectUnknown review ["schema_version", "decision_id", "campaign_id", "objective_id",
    "operator_alias", "decision", "decided_at_utc", "state_sha256", "reason"] "review decision"
  let _ ← parseSchemaVersion review
  let decision ← requireText (dget review "decision") "decision"
  guardE (decide (decision ∈ ["approved", "denied", "stop"]))
    (configError "review decision must be approved, denied, or stop")
  let stateSha256 ← requireText (dget review "state_sha256") "state_sha256"
  guardE (isSha256Text stateSha256)
    (configError "state_sha256 must be a lowercase SHA256 digest")
  let decisionId ← requireText (dget review "decision_id") "decision_id"
  let campaignId ← requireText (dget review "campaign_id") "campaign_id"
  let objectiveId ← requireText (dget review "objective_id") "objective_id"
  let operatorAlias ← requireText (dget review "operator_alias") "operator_alias"
  let decidedAt ← requireText (dget review "decided_at_utc") "decided_at_utc"
  let reason ← requireText (dget review "reason") "reason"
  pure ⟨decisionId, campaignId, objectiveId, operatorAlias, decision, decidedAt, stateSha256,
    reason⟩

end Aotp.Gate
