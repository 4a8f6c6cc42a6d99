import Aotp.Gate.ControlPanel

/-!
# Bounded fuzzing: vocabulary, boundary errors, dry-run plan

* `collectFuzzingActions`, `collectFuzzingStopSignals` — what an objective asks for and what it
  reports as detected.
* `validateCorpusReference` — the corpus reference, or the error.
* `fuzzingBoundaryErrors` — every way an objective leaves the fuzzing limits of a scope.
* `buildFuzzingDryRunPlan` — the plan, or the error.
-/

namespace Aotp.Gate

open PyData

/-- Source: `bounded_fuzzing.FUZZING_SUPPORTED_ACTIONS` -/
def fuzzingSupportedActions : List String := ["active_fuzzing", "plan_bounded_fuzzing"]

/-- Source: `bounded_fuzzing.FUZZING_UNSAFE_ACTIONS` -/
def fuzzingUnsafeActions : List String :=
  ["authentication_abuse", "destructive_fuzzing", "high_volume_fuzzing", "kyc_workflow_fuzzing",
    "payment_workflow_fuzzing", "recovery_workflow_fuzzing", "support_workflow_fuzzing"]

/-- Source: `bounded_fuzzing.FUZZING_SAFE_PAYLOAD_CLASSES` -/
def fuzzingSafePayloadClasses : List String :=
  ["boundary_value", "empty_value", "encoded_literal", "format_literal", "type_variation"]

/-- Source: `bounded_fuzzing.FUZZING_STOP_SIGNALS` -/
def fuzzingStopSignals : List String :=
  ["authentication_lockout_risk", "response_size_limit", "retry_limit", "runtime_limit",
    "target_instability"]

/-- Source: `bounded_fuzzing.collect_fuzzing_actions` -/
def collectFuzzingActions (objective : Dict) : List String :=
  fromkeys (collectTextValues (dget objective "action") ++
    collectTextValues (dget objective "requested_actions"))

/-- Source: `bounded_fuzzing.collect_fuzzing_stop_signals` -/
def collectFuzzingStopSignals (objective : Dict) : List String :=
  match dgetD objective "detected_stop_signals" (.arr []) with
  | .arr items => fromkeys (trimmedTexts items)
  | _ => []

/-- The value of a strictly positive integer; `True` is not one.
Source: `bounded_fuzzing._positive_int` -/
def positiveInt? : Json → Option ℤ
  | .int n => if 0 < n then some n else none
  | _ => none

/-- Source: `bounded_fuzzing._non_negative_int` -/
def nonNegativeInt? : Json → Option ℤ
  | .int n => if 0 ≤ n then some n else none
  | _ => none

/-- `n > y` for an integer `n`: `TypeError` unless `y` is a number. -/
def intGt (n : ℤ) (y : Json) : Except Exc Bool :=
  match y.num? with
  | some q => .ok (decide (q < n))
  | none => .error .typeError

/-- `set(mapping) == expected`. -/
def sameKeys (m : Dict) (expected : List String) : Bool :=
  (dkeys m).all (· ∈ expected) && expected.all (· ∈ dkeys m)

/-- `isinstance(x, str) and x.strip()`. -/
def isFilledText : Json → Bool
  | .str s => strip s != ""
  | _ => false

/-- `isinstance(x, str)` of 64 lower-case hexadecimal digits. -/
def isDigestText : Json → Bool
  | .str s => isSha256Text s
  | _ => false

/-- The mapping behind a corpus reference.
Source: `bounded_fuzzing.validate_corpus_reference` -/
def validateCorpusReference (reference : Json) : Except Exc Dict := do
  let .obj m := reference
    | throw (.valueError "fuzzing corpus reference must be a mapping")
  guardE (sameKeys m ["schema_version", "alias", "sha256", "size_bytes", "payload_count",
      "payload_class", "source"])
    (.valueError "fuzzing corpus reference fields are invalid")
  guardE (Json.pyEq (dget m "schema_version") (.str "1.0"))
    (.valueError "unsupported fuzzing corpus reference schema")
  guardE (isFilledText (dget m "alias")) (.valueError "fuzzing corpus reference alias is missing")
  guardE (isFilledText (dget m "payload_class"))
    (.valueError "fuzzing corpus reference payload_class is missing")
  guardE (isFilledText (dget m "source"))
    (.valueError "fuzzing corpus reference source is missing")
  guardE (isDigestText (dget m "sha256"))
    (.valueError "fuzzing corpus reference SHA256 is invalid")
  guardE (nonNegativeInt? (dget m "size_bytes")).isSome
    (.valueError "fuzzing corpus reference size_bytes is invalid")
  guardE (positiveInt? (dget m "payload_count")).isSome
    (.valueError "fuzzing corpus reference payload_count is invalid")
  guardE (fuzzingSafePayloadClasses.any fun c => Json.pyEq (dget m "payload_class") (.str c))
    (.valueError "fuzzing corpus reference payload_class is unsafe")
  guardE (Json.pyEq (dget m "source") (.str "external_private_corpus"))
    (.valueError "fuzzing corpus reference source is invalid")
  pure m

/-! ### Boundary errors -/

/-- The requested payload classes with the error of an unusable list; the list counts as empty
then.
Source: `bounded_fuzzing.fuzzing_boundary_errors` -/
def payloadClassesOf (objective : Dict) : List String × List String :=
  match dget objective "payload_classes" with
  | .arr items =>
    if items.isEmpty then ([], ["fuzzing payload_classes must not be empty"])
    else if items.all isFilledText then (items.filterMap Json.text?, [])
    else ([], ["fuzzing payload_classes must contain non-empty text"])
  | _ => ([], ["fuzzing payload_classes must not be empty"])

/-- One reason when a list of offenders is not empty. -/
def reasonIfAny (label : String) (offenders : List String) : List String :=
  if offenders.isEmpty then [] else [label ++ joined (sortedTexts offenders)]

/-- Source: `bounded_fuzzing.fuzzing_boundary_errors`, the payload classes -/
def payloadClassErrors (classes : List String) (scope : Dict) : Except Exc (List String) := do
  let approved ← toSet (dgetD scope "safe_payload_classes" (.arr []))
  pure (reasonIfAny "fuzzing payload class is not approved as safe: "
      (classes.filter (· ∉ fuzzingSafePayloadClasses)) ++
    reasonIfAny "fuzzing payload class is not explicitly approved by scope: "
      (classes.filter fun c => !approved.any (Json.pyEq (.str c))))

/-- Source: `bounded_fuzzing.fuzzing_boundary_errors`, the payload count -/
def payloadCountErrors (objective : Dict) (classes : List String) (scope : Dict) :
    Except Exc (List String) :=
  match positiveInt? (dget objective "payload_count") with
  | none => pure ["fuzzing payload_count must be a positive integer"]
  | some n => do
    if ← intGt n (dgetD scope "payload_budget" (.int 0)) then
      pure ["fuzzing payload_count exceeds scope payload_budget"]
    else if ((fromkeys classes).length : ℤ) > n then
      pure ["fuzzing payload_count is smaller than the payload class count"]
    else pure []

/-- The endpoint budgets, empty when they are unusable. -/
def endpointBudgetsOf (objective : Dict) : Dict :=
  match dget objective "endpoint_request_budgets" with
  | .obj m => m
  | _ => []

/-- The sum of the budgets that are positive integers. -/
def plannedRequests (budgets : Dict) : ℤ :=
  (budgets.filterMap fun e => positiveInt? e.2).sum

/-- `alias.strip()` and a positive count, for one endpoint. -/
def endpointValid (e : String × Json) : Bool := strip e.1 != "" && (positiveInt? e.2).isSome

/-- The endpoints over the limit; the limit is only read when a budget is compared with it. -/
def exceededEndpoints (limit : Json) : Dict → Except Exc (List String)
  | [] => .ok []
  | (endpoint, count) :: rest => do
    match positiveInt? count with
    | none => exceededEndpoints limit rest
    | some n =>
      let exceeded ← intGt n limit
      let others ← exceededEndpoints limit rest
      pure (if exceeded then endpoint :: others else others)

/-- Source: `bounded_fuzzing.fuzzing_boundary_errors`, the endpoint budgets -/
def endpointErrors (objective : Dict) (scope : Dict) : Except Exc (List String) := do
  let budgets := endpointBudgetsOf objective
  let exceeded ← exceededEndpoints (dgetD scope "per_endpoint_limit" (.int 0)) budgets
  let overPlan ← intGt (plannedRequests budgets) (dgetD scope "request_budget" (.int 0))
  pure ((if budgets.isEmpty then ["fuzzing endpoint_request_budgets must not be empty"] else []) ++
    (if budgets.all endpointValid then [] else ["fuzzing endpoint request budgets are invalid"]) ++
    reasonIfAny "fuzzing endpoint budget exceeds per_endpoint_limit: " exceeded ++
    (if overPlan then ["fuzzing planned requests exceed scope request_budget"] else []))

/-- One numeric limit of an objective against the scope's.
Source: `bounded_fuzzing.fuzzing_boundary_errors`, `max_response_bytes` to `max_retries` -/
def limitErrors (read : Json → Option ℤ) (wanted field : String) (absent : ℤ)
    (objective scope : Dict) : Except Exc (List String) :=
  match read (dget objective field) with
  | none => pure ["fuzzing " ++ field ++ " must be a " ++ wanted ++ " integer"]
  | some n => do
    if ← intGt n (dgetD scope field (.int absent)) then
      pure ["fuzzing " ++ field ++ " exceeds scope limit"]
    else pure []

/-- Source: `bounded_fuzzing.fuzzing_boundary_errors`, the corpus reference -/
def corpusErrors (objective : Dict) (classes : List String) (scope : Dict) :
    Except Exc (List String) :=
  match dget objective "corpus_reference" with
  | .null => pure []
  | reference =>
    match validateCorpusReference reference with
    | .error e => pure [e.text]
    | .ok m =>
      match positiveInt? (dget m "payload_count") with
      | none => pure []
      | some n => do
        let overBudget ← intGt n (dgetD scope "payload_budget" (.int 0))
        let overCount := (positiveInt? (dget objective "payload_count")).any (· < n)
        let requested := classes.any fun c => Json.pyEq (dget m "payload_class") (.str c)
        pure ((if overBudget then ["fuzzing corpus payload_count exceeds scope payload_budget"]
            else []) ++
          (if overCount then ["fuzzing corpus payload_count exceeds objective payload_count"]
            else []) ++
          (if requested then [] else ["fuzzing corpus payload_class is not requested"]))

/-- Source: `bounded_fuzzing.fuzzing_boundary_errors`, the stop signals -/
def stopSignalErrors (objective : Dict) : List String :=
  reasonIfAny "fuzzing stop signal is unsupported: "
    ((collectFuzzingStopSignals objective).filter (· ∉ fuzzingStopSignals))

/-- Every way an objective leaves the fuzzing limits of a scope.
Source: `bounded_fuzzing.fuzzing_boundary_errors` -/
def fuzzingBoundaryErrors (objective scope : Dict) : Except Exc (List String) := do
  let (classes, unusable) := payloadClassesOf objective
  let inClasses ← payloadClassErrors classes scope
  let inCount ← payloadCountErrors objective classes scope
  let inEndpoints ← endpointErrors objective scope
  let inBytes ← limitErrors positiveInt? "positive" "max_response_bytes" 0 objective scope
  let inRuntime ← limitErrors positiveInt? "positive" "max_runtime_seconds" 0 objective scope
  let inRetries ← limitErrors nonNegativeInt? "non-negative" "max_retries" (-1) objective scope
  let inCorpus ← corpusErrors objective classes scope
  pure (fromkeys (unusable ++ inClasses ++ inCount ++ inEndpoints ++ inBytes ++ inRuntime ++
    inRetries ++ inCorpus ++ stopSignalErrors objective))

/-! ### The dry-run plan -/

/-- The texts of a list that must hold nothing else: `sorted` and `join` refuse other values. -/
def allTexts (items : List Json) : Except Exc (List String) :=
  if items.all fun x => x.text?.isSome then .ok (items.filterMap Json.text?)
  else .error .typeError

/-- The elements of a list outside the safe payload classes. -/
def unsupportedClasses (items : List Json) : Except Exc (List String) := do
  let set ← toSet (.arr items)
  allTexts (set.filter fun x => !fuzzingSafePayloadClasses.any fun c => Json.pyEq x (.str c))

/-- `dict(sorted(mapping.items()))`, for distinct keys. -/
def sortEntries (m : Dict) : Dict := m.insertionSort fun a b => a.1 ≤ b.1

/-- Source: `bounded_fuzzing.build_fuzzing_dry_run_plan` -/
def buildFuzzingDryRunPlan (rt : Runtime) (objective : Dict) : Except Exc Dict := do
  let budgets := endpointBudgetsOf objective
  guardE (!budgets.isEmpty) (.valueError "fuzzing endpoint_request_budgets must not be empty")
  guardE (budgets.all endpointValid) (.valueError "fuzzing endpoint request budgets are invalid")
  let classes := match dget objective "payload_classes" with
    | .arr items => items
    | _ => []
  guardE (!classes.isEmpty) (.valueError "fuzzing payload_classes must not be empty")
  let unsupported ← unsupportedClasses classes
  guardE unsupported.isEmpty (.valueError ("fuzzing payload class is not approved as safe: " ++
    joined (sortedTexts unsupported)))
  let some count := positiveInt? (dget objective "payload_count")
    | throw (.valueError "fuzzing payload_count must be a positive integer")
  guardE (decide (((fromkeys (classes.filterMap Json.text?)).length : ℤ) ≤ count))
    (.valueError "fuzzing payload_count is smaller than the payload class count")
  guardE (positiveInt? (dget objective "max_response_bytes")).isSome
    (.valueError "fuzzing max_response_bytes must be a positive integer")
  guardE (positiveInt? (dget objective "max_runtime_seconds")).isSome
    (.valueError "fuzzing max_runtime_seconds must be a positive integer")
  guardE (nonNegativeInt? (dget objective "max_retries")).isSome
    (.valueError "fuzzing max_retries must be a non-negative integer")
  let corpusReference := dget objective "corpus_reference"
  unless corpusReference matches .null do
    let _ ← validateCorpusReference corpusReference
  let signals := collectFuzzingStopSignals objective
  let unknown := signals.filter (· ∉ fuzzingStopSignals)
  guardE unknown.isEmpty
    (.valueError ("fuzzing stop signal is unsupported: " ++ joined (sortedTexts unknown)))
  guardE signals.isEmpty
    (.valueError ("fuzzing stop condition detected: " ++ joined (sortedTexts signals)))
  pure [("target_alias", .str (pyStr rt (dgetD objective "target_alias" (.str "")))),
    ("api", .str (pyStr rt (dgetD objective "api" (.str "")))),
    ("payload_classes", .arr classes),
    ("payload_count", .int count),
    ("endpoint_request_budgets", .obj (sortEntries budgets)),
    ("planned_request_count", .int (plannedRequests budgets)),
    ("max_response_bytes", dget objective "max_response_bytes"),
    ("max_retries", dget objective "max_retries"),
    ("max_runtime_seconds", dget objective "max_runtime_seconds"),
    ("corpus_reference", corpusReference),
    ("detected_stop_signals", .arr (signals.map .str)),
    ("execution", .str "not_executed"),
    ("network_silent", .bool true),
    ("request_count", .int 0),
    ("payload_values", .str "not_recorded")]

end Aotp.Gate
