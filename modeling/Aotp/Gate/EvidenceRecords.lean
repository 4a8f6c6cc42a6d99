import Aotp.Gate.SbomReview

/-!
# The evidence records of panel and fuzzing plans

* `buildPanelEvidenceRecord`, `validatePanelEvidenceRecord` — the record of planned panel
  observations and its check.
* `buildFuzzingEvidenceRecord`, `validateFuzzingEvidenceRecord` — the record of a bounded fuzzing
  plan and its check.
-/

namespace Aotp.Gate

open PyData

variable (rt : Runtime)

/-- What an adapter result contributes to a record. -/
structure RecordInput where
  policyDecision : String
  executionMode : String
  tool : String
  requestCount : ℤ
  responseMetadata : Dict

/-! ### Panel evidence -/

/-- Source: `panel_evidence._text` -/
def filledText (default : String) : Json → String
  | .str s => if strip s = "" then default else strip s
  | _ => default

/-- Source: `panel_evidence._planned_observation_ids` -/
def plannedObservationIds (plan : Dict) : List String :=
  (itemsOf (dgetD plan "planned_observations" (.arr []))).filterMap fun
    | .obj item =>
      match dget item "observation_id" with
      | .str s => if strip s = "" then none else some s
      | _ => none
    | _ => none

/-- The entries of a mapping, none for any other value. -/
def mappingOf : Json → Dict
  | .obj m => m
  | _ => []

/-- `first or second`. -/
def orElse (first second : Json) : Json := if first.truthy then first else second

/-- The record before it is checked.
Source: `panel_evidence.build_panel_evidence_record` -/
def panelRecordOf (case : Dict) (input : RecordInput) : Dict :=
  let plan := mappingOf (dgetD input.responseMetadata "observation_plan" (.obj []))
  let planned := plannedObservationIds plan
  [("schema_version", .str "1.0"),
    ("record_type", .str "service_control_panel_evidence_record"),
    ("case_id", .str (filledText "unknown" (dget case "id"))),
    ("module", .str (filledText "service_control_panel" (dget case "module"))),
    ("category", .str (filledText "service_control_panel" (dget case "category"))),
    ("target_alias", .str (filledText "none" (dget case "target_alias"))),
    ("target_category", .str (filledText "placeholder" (dget case "target_category"))),
    ("panel_alias", .str (filledText "none" (dget case "panel_alias"))),
    ("panel_type", .str (filledText "unknown" (dget case "panel_type"))),
    ("policy_decision", .str input.policyDecision),
    ("execution_mode", .str input.executionMode),
    ("tool", .str input.tool),
    ("request_count", .int input.requestCount),
    ("network_silent", .bool (isTrue (dget plan "network_silent") && input.requestCount == 0)),
    ("safe_observation_only", .bool (isTrue (dget case "safe_observation_only"))),
    ("requested_observations",
      .arr ((collectTextValues (dget case "requested_observations")).map .str)),
    ("planned_observations", .arr (planned.map .str)),
    ("observation_count", .int planned.length),
    ("supported_observations", .arr ((sortedTexts panelSafeObservations).map .str)),
    ("observation_plan", .obj plan),
    ("credential_material", dgetD plan "credential_material" (.str "not_collected")),
    ("screenshots", dgetD plan "screenshots" (.arr [])),
    ("captures", dgetD plan "captures" (.arr [])),
    ("finding_claims", dgetD plan "finding_claims" (.arr [])),
    ("report_inclusion_status", .str "excluded_pending_review"),
    ("redaction_status", .str "passed"),
    ("evidence_mappings", .arr ((collectTextValues
      (orElse (dget case "evidence_mappings") (dget case "artifact_mapping"))).map .str)),
    ("safety_boundary", .obj [("login_attempts", .str "not_performed"),
      ("credential_checks", .str "not_performed"),
      ("default_password_checks", .str "not_performed"),
      ("crawling", .str "not_performed"),
      ("mutation", .str "not_performed"),
      ("network_requests", .int 0),
      ("findings", .str "not_created")]),
    ("no_private_material", .str ("No private scope, target, credential, screenshot, finding, " ++
      "report, trace, generated capture, campaign memory, or real evidence was committed."))]

/-- Source: `panel_evidence.validate_panel_evidence_record`, `required_text` -/
def panelRequiredText : List String :=
  ["case_id", "module", "category", "target_alias", "panel_alias", "panel_type",
    "policy_decision", "execution_mode", "tool", "report_inclusion_status", "redaction_status"]

/-- Source: `panel_evidence.validate_panel_evidence_record` -/
def validatePanelEvidenceRecord (record : Dict) : Except Exc Unit := do
  guardE (Json.pyEq (dget record "schema_version") (.str "1.0"))
    (.valueError "unsupported panel evidence schema version")
  guardE (Json.pyEq (dget record "record_type") (.str "service_control_panel_evidence_record"))
    (.valueError "unsupported panel evidence record type")
  let missing := panelRequiredText.filter fun name => !isNonEmptyText (dget record name)
  guardE missing.isEmpty
    (.valueError ("required panel evidence fields are missing: " ++ joined missing))
  guardE (Json.pyEq (dget record "category") (.str "service_control_panel"))
    (.valueError "panel evidence is only valid for service control panel cases")
  guardE (["dry_run", "live_stub", "not_executed"].any fun mode =>
      Json.pyEq (dget record "execution_mode") (.str mode))
    (.valueError "unsupported panel evidence execution mode")
  guardE (Json.pyEq (dget record "report_inclusion_status") (.str "excluded_pending_review"))
    (.valueError "panel evidence records must not be report-ready findings")
  guardE (Json.pyEq (dget record "redaction_status") (.str "passed"))
    (.valueError "panel evidence redaction did not pass")
  guardE (isTrue (dget record "network_silent"))
    (.valueError "panel evidence must be network silent")
  guardE (Json.pyEq (dget record "request_count") (.int 0))
    (.valueError "panel evidence request_count must be zero")
  guardE (isTrue (dget record "safe_observation_only"))
    (.valueError "panel evidence must be safe observation only")
  guardE (Json.pyEq (dget record "credential_material") (.str "not_collected"))
    (.valueError "panel evidence must not collect credential material")
  guardE (isEmptyList (dget record "screenshots"))
    (.valueError "panel evidence must not include screenshots")
  guardE (isEmptyList (dget record "captures"))
    (.valueError "panel evidence must not include captures")
  guardE (isEmptyList (dget record "finding_claims"))
    (.valueError "panel evidence must not include finding claims")
  let requested := dget record "requested_observations"
  let planned := dget record "planned_observations"
  guardE (isList requested && !(itemsOf requested).isEmpty)
    (.valueError "panel evidence requested_observations must not be empty")
  guardE (isList planned && !(itemsOf planned).isEmpty)
    (.valueError "panel evidence planned_observations must not be empty")
  let observations ← toSet requested
  let unsupported ← allTexts (observations.filter fun x =>
    !panelSafeObservations.any fun o => Json.pyEq x (.str o))
  guardE unsupported.isEmpty (.valueError
    ("panel evidence requested unsupported observations: " ++ joined (sortedTexts unsupported)))
  guardE (Json.pyEq planned requested)
    (.valueError "panel evidence planned observations must match requested observations")
  guardE (match dget record "safety_boundary" with
      | .obj boundary => Json.pyEq (dget boundary "network_requests") (.int 0)
      | _ => false)
    (.valueError "panel evidence safety boundary is invalid")
  assertRecordRedacted rt (.obj record)

/-- Source: `panel_evidence.build_panel_evidence_record` -/
def buildPanelEvidenceRecord (case : Dict) (input : RecordInput) : Except Exc Dict := do
  validatePanelEvidenceRecord rt (panelRecordOf case input)
  pure (panelRecordOf case input)

/-! ### Fuzzing evidence -/

/-- The record before it is checked.
Source: `fuzzing_evidence.build_fuzzing_evidence_record` -/
def fuzzingRecordOf (case plan : Dict) (input : RecordInput) : Dict :=
  [("schema_version", .str "1.0"),
    ("record_type", .str "bounded_fuzzing_evidence_record"),
    ("case_id", .str (strip (pyStr rt (dgetD case "id" (.str ""))))),
    ("module", .str (strip (pyStr rt (dgetD case "module" (.str ""))))),
    ("target_alias", .str (strip (pyStr rt (dgetD case "target_alias" (.str ""))))),
    ("api", .str (strip (pyStr rt (dgetD case "api" (.str ""))))),
    ("policy_decision", .str input.policyDecision),
    ("execution_mode", .str input.executionMode),
    ("tool", .str input.tool),
    ("request_count", .int input.requestCount),
    ("network_silent", .bool (isTrue (dget plan "network_silent") && input.requestCount == 0)),
    ("payload_classes", dget plan "payload_classes"),
    ("payload_count", dget plan "payload_count"),
    ("endpoint_request_budgets", dget plan "endpoint_request_budgets"),
    ("planned_request_count", dget plan "planned_request_count"),
    ("max_response_bytes", dget plan "max_response_bytes"),
    ("max_retries", dget plan "max_retries"),
    ("max_runtime_seconds", dget plan "max_runtime_seconds"),
    ("corpus_reference", dget plan "corpus_reference"),
    ("detected_stop_signals", dget plan "detected_stop_signals"),
    ("payload_values", .str "not_recorded"),
    ("report_inclusion_status", .str "excluded_pending_review"),
    ("redaction_status", .str "passed")]

/-- `isinstance(x, str) and x`, for one required field.
Source: `fuzzing_evidence.validate_fuzzing_evidence_record` -/
def requireRecordText (record : Dict) (field : String) : Except Exc Unit :=
  guardE (isNonEmptyText (dget record field))
    (.valueError ("fuzzing evidence " ++ field ++ " is missing"))

/-- `isinstance(x, int)` at least `least`; `True` counts as `1`. -/
def intAtLeast (least : ℤ) (x : Json) : Bool := (asInt x).any (least ≤ ·)

/-- One endpoint of a record. -/
def recordEndpointValid (e : String × Json) : Bool := e.1 != "" && (positiveInt? e.2).isSome

/-- `isinstance(reference, …)`: a missing reference is fine, another one is checked. -/
def validateOptionalReference (reference : Json) : Except Exc Unit :=
  match reference with
  | .null => pure ()
  | reference => do
    let _ ← validateCorpusReference reference
    pure ()

/-- Source: `fuzzing_evidence.validate_fuzzing_evidence_record` -/
def validateFuzzingEvidenceRecord (record : Dict) : Except Exc Unit := do
  guardE (Json.pyEq (dget record "schema_version") (.str "1.0"))
    (.valueError "unsupported fuzzing evidence schema")
  guardE (Json.pyEq (dget record "record_type") (.str "bounded_fuzzing_evidence_record"))
    (.valueError "unsupported fuzzing evidence record type")
  requireRecordText record "case_id"
  requireRecordText record "module"
  requireRecordText record "target_alias"
  requireRecordText record "api"
  requireRecordText record "policy_decision"
  requireRecordText record "execution_mode"
  requireRecordText record "tool"
  guardE (Json.pyEq (dget record "module") (.str "bounded_fuzzing"))
    (.valueError "fuzzing evidence module is invalid")
  guardE (isTrue (dget record "network_silent") && Json.pyEq (dget record "request_count") (.int 0))
    (.valueError "fuzzing evidence must be network silent")
  guardE (Json.pyEq (dget record "payload_values") (.str "not_recorded"))
    (.valueError "fuzzing evidence must not contain payload values")
  guardE (Json.pyEq (dget record "report_inclusion_status") (.str "excluded_pending_review"))
    (.valueError "fuzzing evidence must remain excluded pending review")
  guardE (Json.pyEq (dget record "redaction_status") (.str "passed"))
    (.valueError "fuzzing evidence redaction did not pass")
  let classes := dget record "payload_classes"
  guardE (isList classes && !(itemsOf classes).isEmpty)
    (.valueError "fuzzing evidence payload_classes are invalid")
  let set ← toSet classes
  guardE (set.all fun x => fuzzingSafePayloadClasses.any fun c => Json.pyEq x (.str c))
    (.valueError "fuzzing evidence contains unsafe payload classes")
  guardE (intAtLeast 1 (dget record "payload_count"))
    (.valueError "fuzzing evidence payload_count is invalid")
  let budgets := mappingOf (dget record "endpoint_request_budgets")
  guardE (!budgets.isEmpty) (.valueError "fuzzing evidence endpoint budgets are invalid")
  guardE (budgets.all recordEndpointValid)
    (.valueError "fuzzing evidence endpoint budgets are invalid")
  guardE (Json.pyEq (dget record "planned_request_count") (.int (plannedRequests budgets)))
    (.valueError "fuzzing evidence request count mapping is invalid")
  guardE (intAtLeast 1 (dget record "max_response_bytes"))
    (.valueError "fuzzing evidence max_response_bytes is invalid")
  guardE (intAtLeast 1 (dget record "max_runtime_seconds"))
    (.valueError "fuzzing evidence max_runtime_seconds is invalid")
  guardE (intAtLeast 0 (dget record "max_retries"))
    (.valueError "fuzzing evidence max_retries is invalid")
  guardE (isEmptyList (dget record "detected_stop_signals"))
    (.valueError "executed fuzzing plans must not contain stop signals")
  validateOptionalReference (dget record "corpus_reference")
  assertRecordRedacted rt (.obj record)

/-- Source: `fuzzing_evidence.build_fuzzing_evidence_record` -/
def buildFuzzingEvidenceRecord (case : Dict) (input : RecordInput) : Except Exc Dict := do
  let .obj plan := dget input.responseMetadata "fuzzing_plan"
    | throw (.valueError "fuzzing evidence requires a dry-run plan")
  validateFuzzingEvidenceRecord rt (fuzzingRecordOf rt case plan input)
  pure (fuzzingRecordOf rt case plan input)

end Aotp.Gate
