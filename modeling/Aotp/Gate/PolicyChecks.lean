import Aotp.Gate.PrivateDocuments
import Aotp.Gate.CryptoReview

/-!
# The checks of the policy gate in every mode

* `PolicyDecision`, `GateInput` — a decision, and what an evaluation is given beyond scope and
  objective.
* `dryReasons` — the reasons against an objective that every mode looks for, one function for each
  block of the source. Each raises where its dynamic operations do.
-/

namespace Aotp.Gate

open PyData

/-- Source: `policy_gate.PolicyDecision` -/
structure PolicyDecision where
  allowed : Bool
  reasons : List String
  deriving DecidableEq, Repr

/-- Source: `policy_gate.PolicyDecision.summary` -/
def PolicyDecision.summary (d : PolicyDecision) : String :=
  if d.allowed then "allowed" else joinedReasons d.reasons

/-- The arguments of one evaluation beyond scope and objective, with the instant it is made at and
what the file system says about the evidence directory.
Source: `policy_gate.evaluate` -/
structure GateInput where
  programProfile : Option Dict := none
  operatorApproval : Option Dict := none
  scopeSha256 : Option String := none
  campaignId : Option String := none
  live : Bool := false
  operatorApproved : Bool := false
  redactionPassed : Bool := true
  /-- The instant in UTC, in microseconds. -/
  now : ℤ
  /-- `_inside(evidence_path, root)` for a configured evidence directory. -/
  insideWorkspace : String → Bool

variable (rt : Runtime)

/-! ### Small readers -/

/-- One reason when a condition holds. -/
def reasonWhen (condition : Bool) (reason : String) : List String :=
  if condition then [reason] else []

/-- `s.replace("Z", "+00:00")`. -/
def zuluToOffset (s : String) : String :=
  String.ofList (s.toList.flatMap fun c => if c = 'Z' then "+00:00".toList else [c])

/-- The texts that mark a placeholder.
Source: `policy_gate._non_placeholder` -/
def placeholderMarkers : List String := ["replace-me", "placeholder", "example-only"]

/-- Source: `policy_gate._non_placeholder` -/
def nonPlaceholder : Json → Bool
  | .str s =>
    strip s != "" && placeholderMarkers.all fun marker =>
      !decide (marker.toList <:+: (rt.lower s).toList)
  | _ => false

/-- The instant of a timestamp, or the reason it has none; a time outside the representable range
raises.
Source: `policy_gate._parse_utc` -/
def parseUtc (value : Json) (field : String) : Except Exc (Option ℤ × List String) :=
  match value with
  | .str s =>
    if strip s = "" then .ok (none, [field ++ " is missing"])
    else match rt.fromIsoFormat (zuluToOffset s) with
      | .invalid => .ok (none, [field ++ " is not a valid ISO-8601 timestamp"])
      | .naive => .ok (none, [field ++ " must include a timezone"])
      | .aware (some t) => .ok (some t, [])
      | .aware none => .error .overflowError
  | _ => .ok (none, [field ++ " is missing"])

/-- Source: `policy_gate._parse_date` -/
def parseDate (value : Json) (field : String) : Option ℤ × List String :=
  match value with
  | .str s =>
    if strip s = "" then (none, [field ++ " is missing"])
    else match rt.dateFromIsoFormat s with
      | none => (none, [field ++ " is not a valid ISO date"])
      | some d => (some d, [])
  | _ => (none, [field ++ " is missing"])

/-- Source: `policy_gate._domain_allowed` -/
def domainAllowed (domain : String) (patterns : List String) : Bool :=
  let candidate := rstripChar '.' (rt.lower domain)
  patterns.any fun rawPattern =>
    let pattern := rstripChar '.' (rt.lower rawPattern)
    if "*.".toList.isPrefixOf pattern.toList then
      let suffix := pattern.toList.drop 2
      ('.' :: suffix).isSuffixOf candidate.toList && candidate.toList != suffix
    else candidate == pattern

/-- `x in tuple_of_texts`: no hashing, so nothing raises. -/
def inTuple (x : Json) (texts : List String) : Bool := texts.any fun t => Json.pyEq x (.str t)

/-- The patterns of a target; `.lower()` refuses what is not a text. -/
def patternTexts (items : List Json) : Except Exc (List String) :=
  if items.all fun x => x.text?.isSome then .ok (items.filterMap Json.text?)
  else .error .attributeError

/-- `next((entry for entry in entries if isinstance(entry, dict) and entry.get("alias") == x),
None)`. -/
def findByAlias (entries : List Json) (x : Json) : Option Dict :=
  entries.findSome? fun
    | .obj entry => if Json.pyEq (dget entry "alias") x then some entry else none
    | _ => none

/-- `objective.get("category") or module`. -/
def categoryOf (objective : Dict) : Json :=
  if (dget objective "category").truthy then dget objective "category" else dget objective "module"

/-! ### Checks of every mode -/

/-- The target of an objective. -/
def targetOf (scope objective : Dict) : Except Exc (Option Dict) := do
  let entries ← (dget scope "allowed_targets").iter
  pure (findByAlias entries (dget objective "target_alias"))

/-- Source: `policy_gate.evaluate`, `target_alias` -/
def targetReasons (objective : Dict) (target : Option Dict) (live : Bool) : List String :=
  let named := (dget objective "target_alias").truthy
  reasonWhen (named && target.isNone) "target is not explicitly allowlisted" ++
    reasonWhen (live && !named) "live objective target alias is missing"

/-- Source: `policy_gate.evaluate`, `module` and `category` -/
def categoryReasons (scope objective : Dict) : Except Exc (List String) := do
  let allowed ← toSet (dget scope "allowed_categories")
  let module := dget objective "module"
  let category := categoryOf objective
  let mismatch := reasonWhen (module.truthy && category.truthy && !Json.pyEq module category)
    "objective category must match module"
  if category.truthy then
    let listed ← inSet category allowed
    pure (mismatch ++ reasonWhen (!listed) "test category is not explicitly allowlisted")
  else pure mismatch

/-- Source: `policy_gate.evaluate`, `forbidden_actions` -/
def forbiddenReasons (scope objective : Dict) : Except Exc (List String) := do
  let forbidden ← toSet (dget scope "forbidden_actions")
  let hit ← inSet (dget objective "action") forbidden
  pure (reasonWhen hit "action is forbidden")

/-- One property of an objective against the list of its target.
Source: `policy_gate.evaluate`, `service` to `account_alias` -/
def listedReasons (objective : Dict) (target : Option Dict) (field listField label : String) :
    Except Exc (List String) :=
  let value := dget objective field
  if value.truthy then
    match target with
    | none => pure [label]
    | some entry => do
      let listed ← pyIn value (dgetD entry listField (.arr []))
      pure (reasonWhen (!listed) label)
  else pure []

/-- Source: `policy_gate.evaluate`, `domain` -/
def domainReasons (objective : Dict) (target : Option Dict) : Except Exc (List String) :=
  let domain := dget objective "domain"
  let label := "domain is not explicitly allowlisted"
  if domain.truthy then
    match target with
    | none => pure [label]
    | some entry => do
      let items ← (dgetD entry "domains" (.arr [])).iter
      let domains ← patternTexts items
      pure (reasonWhen (!domainAllowed rt (pyStr rt domain) domains) label)
  else pure []

/-- Source: `policy_gate.evaluate`, `network_categories` -/
def networkReasons (objective : Dict) (live : Bool) : Except Exc (List String) :=
  if live then do
    let network ← inTexts (categoryOf objective)
      ["wstg_webapp", "service_control_panel", "bounded_fuzzing"]
    if network then
      pure (reasonWhen (!(dget objective "domain").truthy)
          "live network objective domain is missing" ++
        reasonWhen (!(dget objective "service").truthy)
          "live network objective service is missing")
    else pure []
  else pure []

/-- The set of a list that stands under a key. -/
def setAt (m : Dict) (key : String) : Except Exc (List Json) := toSet (dgetD m key (.arr []))

/-- A text is an element of a set. -/
def memSet (s : List Json) (t : String) : Bool := s.any (Json.pyEq (.str t))

/-- Source: `policy_gate.evaluate`, `bounded_fuzzing` -/
def fuzzingReasons (scope objective : Dict) : Except Exc (List String) := do
  let fuzzing ← (dgetD scope "fuzzing" (.obj [])).attrs
  let requested := collectFuzzingActions objective
  let approved ← setAt fuzzing "approved_actions"
  let denied ← setAt fuzzing "denied_actions"
  let boundary ← fuzzingBoundaryErrors objective fuzzing
  pure (reasonWhen (!(dget fuzzing "authorized").truthy) "fuzzing is not explicitly authorized" ++
    reasonWhen requested.isEmpty "fuzzing action is missing" ++
    reasonIfAny "fuzzing action is explicitly denied by scope: "
      (requested.filter (memSet denied)) ++
    reasonIfAny "fuzzing action is not explicitly approved: "
      (requested.filter fun a => !memSet approved a && !memSet denied a) ++
    (["payload_budget", "request_budget", "per_endpoint_limit", "max_runtime_seconds"].flatMap
      fun field => reasonWhen (!intAtLeastOne (dget fuzzing field))
        ("fuzzing." ++ field ++ " is missing")) ++
    boundary ++
    reasonIfAny "fuzzing stop condition detected: " (collectFuzzingStopSignals objective) ++
    reasonWhen ((dget objective "state_changing").truthy &&
        !(dget fuzzing "state_changing_authorized").truthy)
      "state-changing fuzzing is not explicitly authorized")
where
  /-- `isinstance(x, int) and x > 0`. -/
  intAtLeastOne (x : Json) : Bool := (asInt x).any (1 ≤ ·)

/-- The checks against the panel an objective names.
Source: `policy_gate.evaluate`, `service_control_panel` -/
def scopedPanelReasons (objective panel : Dict) : Except Exc (List String) := do
  let approved ← setAt panel "approved_actions"
  let denials ← setAt panel "denied_actions"
  let requested := collectPanelActions objective
  let panelType := dget objective "panel_type"
  pure (reasonWhen (!Json.pyEq (dget objective "target_alias") (dget panel "target_alias"))
      "panel target alias does not match objective" ++
    (if !panelType.truthy then ["panel type is missing"]
      else reasonWhen (!Json.pyEq panelType (dget panel "panel_type"))
        "panel type does not match scoped panel") ++
    reasonIfAny "panel action is explicitly denied by scope: "
      (requested.filter (memSet denials)) ++
    reasonIfAny "panel action is not explicitly approved: "
      (requested.filter fun a => !memSet approved a && !(deniedPanelActions objective).contains a &&
        !memSet denials a))

/-- Source: `policy_gate.evaluate`, `service_control_panel` -/
def panelReasons (scope objective : Dict) : Except Exc (List String) := do
  let config ← (dgetD scope "service_control_panels" (.obj [])).attrs
  let panels ← (dgetD config "panels" (.arr [])).iter
  let panelAlias := dget objective "panel_alias"
  let ofPanel ←
    if !panelAlias.truthy then pure ["panel alias is missing"]
    else match findByAlias panels panelAlias with
      | none => pure ["panel alias is not explicitly allowlisted"]
      | some panel => scopedPanelReasons objective panel
  pure (reasonWhen (!(dget config "authorized").truthy)
      "service control panel testing is not explicitly authorized" ++
    ofPanel ++
    reasonIfAny "panel action is denied by safety boundary: " (deniedPanelActions objective) ++
    reasonIfAny "panel observation is not approved as safe: "
      (unsafePanelObservations objective) ++
    reasonWhen ((collectPanelActions objective).contains "plan_safe_panel_observations" &&
        (collectPanelObservations objective).isEmpty)
      "safe panel observation planning requires requested_observations" ++
    reasonWhen (panelLockoutRiskDetected objective && !(dget objective "human_approved").truthy)
      "authentication lockout risk requires human approval")

/-- Source: `policy_gate.evaluate`, `sbom_review` -/
def sbomReasons (scope objective : Dict) : Except Exc (List String) := do
  let provided ← setAt scope "provided_artifacts"
  let artifact := dget objective "artifact"
  let listed ← if artifact.truthy then inSet artifact provided else pure false
  pure (reasonWhen (!listed) "SBOM or configuration artifact was not provided" ++
    (match artifact with
      | .str p => reasonWhen (leavesDirectory p) "provided artifact path must remain relative"
      | _ => []) ++
    (match dget objective "vulnerability_data_source" with
      | .null => []
      | .obj source => reasonWhen (!isFalse (dget source "network_lookup"))
          "vulnerability mapping requires an offline configured data source"
      | _ => ["vulnerability mapping requires an offline configured data source"]))

/-- Source: `policy_gate.evaluate`, `crypto_controls` -/
def cryptoReasons (scope objective : Dict) : Except Exc (List String) := do
  let crypto ← (dgetD scope "cryptographic_controls" (.obj [])).attrs
  let action := dget objective "action"
  let ofAction ←
    if !action.truthy then pure ["cryptographic controls action is missing"]
    else do
      let denied ← setAt crypto "denied_actions"
      let refused ← inSet action denied
      if refused || cryptoActionIsUnsafe rt action then
        pure ["cryptographic controls action is explicitly denied"]
      else do
        let approved ← setAt crypto "approved_actions"
        let listed ← inSet action approved
        pure (reasonWhen (!listed) "cryptographic controls action is not explicitly approved")
  pure (reasonWhen (!(dget crypto "authorized").truthy)
      "cryptographic controls review is not explicitly scoped" ++
    ofAction ++ cryptoEvidenceErrors rt objective)

/-- The block of one category, when the objective belongs to it. -/
def onlyWhen (condition : Bool) (block : Except Exc (List String)) : Except Exc (List String) :=
  if condition then block else pure []

/-- Source: `policy_gate.evaluate`, `requires_human_approval` -/
def approvalReasons (objective : Dict) (live : Bool) : List String :=
  reasonWhen ((dget objective "requires_human_approval").truthy && !live &&
    !(dget objective "human_approved").truthy) "human approval is required"

/-- Source: `policy_gate.evaluate`, `rate_limits` -/
def rateReasons (scope : Dict) : Except Exc (List String) := do
  let limits ← (dget scope "rate_limits").attrs
  let positive field := (asInt (dget limits field)).any (1 ≤ ·)
  pure (reasonWhen (limits.isEmpty || !(positive "requests_per_minute" && positive "max_requests"))
    "rate limits are missing or invalid")

/-- Source: `policy_gate.evaluate`, `evidence` -/
def evidenceReasons (scope : Dict) (input : GateInput) : Except Exc (List String) := do
  let evidence ← (dget scope "evidence").attrs
  match dget evidence "workspace" with
  | .str workspace =>
    pure (reasonWhen (!input.insideWorkspace workspace)
        "evidence directory is outside the configured workspace" ++
      reasonWhen (!input.redactionPassed) "redaction checks failed")
  | _ => throw .typeError

/-- The checks of every mode, in the order of the source.
Source: `policy_gate.evaluate`, up to `if live` -/
def dryReasons (scope objective : Dict) (input : GateInput) : Except Exc (List String) := do
  let target ← targetOf scope objective
  let category := categoryOf objective
  let is (name : String) := Json.pyEq category (.str name)
  let ofCategory ← categoryReasons scope objective
  let ofAction ← forbiddenReasons scope objective
  let ofService ← listedReasons objective target "service" "services"
    "service is not explicitly allowlisted"
  let ofApi ← listedReasons objective target "api" "apis" "API is not explicitly allowlisted"
  let ofEnvironment ← listedReasons objective target "environment" "environments"
    "environment is not explicitly allowlisted"
  let ofAccount ← listedReasons objective target "account_alias" "approved_account_aliases"
    "test account is not explicitly approved"
  let ofDomain ← domainReasons rt objective target
  let ofNetwork ← networkReasons objective input.live
  let ofFuzzing ← onlyWhen (is "bounded_fuzzing") (fuzzingReasons scope objective)
  let ofPanel ← onlyWhen (is "service_control_panel" ||
    Json.pyEq (dget objective "module") (.str "service_control_panel")) (panelReasons scope objective)
  let ofSbom ← onlyWhen (is "sbom_review") (sbomReasons scope objective)
  let ofCrypto ← onlyWhen (is "crypto_controls") (cryptoReasons rt scope objective)
  let ofRate ← rateReasons scope
  let ofEvidence ← evidenceReasons scope input
  pure (targetReasons objective target input.live ++ ofCategory ++ ofAction ++ ofService ++ ofApi ++
    ofEnvironment ++ ofAccount ++ ofDomain ++ ofNetwork ++ ofFuzzing ++ ofPanel ++ ofSbom ++
    ofCrypto ++ approvalReasons objective input.live ++ ofRate ++ ofEvidence)

end Aotp.Gate
