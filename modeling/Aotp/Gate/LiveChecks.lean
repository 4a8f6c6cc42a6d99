import Aotp.Gate.PolicyChecks

/-!
# The checks of the policy gate in live mode

* `authorizationReasons`, `roeReasons`, `operatorApprovalReasons`, `windowReasons`,
  `reportingReasons`, `profileReasons` — one function for each block of the source.
* `liveReasons` — all of them, in the order of the source.
-/

namespace Aotp.Gate

open PyData

variable (rt : Runtime)

/-- Two instants that are both known, compared. -/
def bothKnown (test : ℤ → ℤ → Bool) : Option ℤ → Option ℤ → Bool
  | some a, some b => test a b
  | _, _ => false

/-- The profile, or the reason there is none.
Source: `policy_gate.evaluate`, `program_profile` -/
def profileOf (profile : Option Dict) : Except Exc (Option ProgramProfile × List String) :=
  match profile with
  | none => .ok (none, ["private program profile is missing"])
  | some document =>
    match parseProgramProfile document with
    | .ok parsed => .ok (some parsed, [])
    | .error (.custom "ConfigError" msg) => .ok (none, ["program profile is invalid: " ++ msg])
    | .error e => .error e

/-- Source: `policy_gate.evaluate`, `authorization` -/
def authorizationReasons (authorization roe : Dict) (now : ℤ) : Except Exc (List String) := do
  let kind ← inTexts (dget authorization "type") ["bug_bounty_program", "written_authorization",
    "evaluator_authorization", "client_authorization"]
  let (issuedAt, r₁) ← parseUtc rt (dget authorization "issued_at_utc")
    "authorization issued_at_utc"
  let (validFrom, r₂) ← parseUtc rt (dget authorization "valid_from_utc")
    "authorization valid_from_utc"
  let (validUntil, r₃) ← parseUtc rt (dget authorization "valid_until_utc")
    "authorization valid_until_utc"
  let missing (label : String) (value : Json) :=
    reasonWhen (!nonPlaceholder rt value) (label ++ " is missing")
  pure (reasonWhen (!(dget authorization "live_authorized").truthy)
      "live mode lacks explicit live authorization" ++
    reasonWhen (!kind) "authorization type is missing or unsupported" ++
    missing "authorization reference" (dget authorization "reference") ++
    missing "bug bounty style agreement or equivalent authorization reference"
      (dget authorization "agreement_reference") ++
    missing "program profile reference" (dget authorization "program_profile_reference") ++
    missing "rules-of-engagement reference" (dget roe "reference") ++
    r₁ ++ r₂ ++ r₃ ++
    reasonWhen (bothKnown (fun a b => a > b) issuedAt validFrom)
      "authorization was issued after its validity start" ++
    reasonWhen (bothKnown (fun a b => a ≥ b) validFrom validUntil)
      "authorization validity interval is invalid" ++
    reasonWhen (validFrom.any (now < ·)) "authorization is not yet valid" ++
    reasonWhen (validUntil.any (now ≥ ·)) "authorization has expired")

/-- `re.fullmatch(r"[0-9a-f]{64}", value)` of a text.
Source: `policy_gate._valid_sha256` -/
def validSha256 (value : Json) : Bool := isDigestText value

/-- Source: `policy_gate.evaluate`, `roe` -/
def roeReasons (roe : Dict) (now : ℤ) : Except Exc (List String) := do
  let (confirmedAt, r) ← parseUtc rt (dget roe "confirmed_at_utc")
    "rules-of-engagement confirmed_at_utc"
  let unset (field reason : String) := reasonWhen (!(dget roe field).truthy) reason
  pure (unset "confirmed" "rules-of-engagement confirmation is missing" ++ r ++
    reasonWhen (confirmedAt.any (· > now)) "rules-of-engagement confirmation is in the future" ++
    reasonWhen (!validSha256 (dget roe "policy_sha256"))
      "rules-of-engagement policy SHA256 is missing or invalid" ++
    unset "prohibited_actions_acknowledged" "prohibited actions were not acknowledged" ++
    unset "evidence_handling_confirmed" "evidence handling requirements were not confirmed" ++
    reasonWhen (!nonPlaceholder rt (dget roe "emergency_contact_reference"))
      "emergency contact reference is missing" ++
    unset "target_instability_stop" "target instability stop is not confirmed" ++
    unset "authentication_lockout_stop" "authentication lockout stop is not confirmed")

/-- Source: `policy_gate.evaluate`, `confidentiality` -/
def confidentialityReasons (authorization : Dict) : Except Exc (List String) := do
  let confidentiality ← (dgetD authorization "confidentiality" (.obj [])).attrs
  pure (reasonWhen ((dget confidentiality "required").truthy &&
      (!(dget confidentiality "confirmed").truthy ||
        !nonPlaceholder rt (dget confidentiality "reference")))
    "required confidentiality confirmation is missing")

/-- The checks of a parsed approval.
Source: `policy_gate.evaluate`, `parsed_approval` -/
def parsedApprovalReasons (approval : OperatorApproval) (operatorAlias : String)
    (authorization objective : Dict) (input : GateInput) : Except Exc (List String) := do
  let (approvedAt, r₁) ← parseUtc rt (.str approval.approvedAtUtc)
    "operator approval approved_at_utc"
  let (expires, r₂) ← parseUtc rt (.str approval.validUntilUtc)
    "operator approval valid_until_utc"
  let objectiveId := dget objective "id"
  let objectiveApproved := objectiveId.truthy && inTuple objectiveId approval.objectiveIds
  let campaignApproved := input.campaignId.any fun id =>
    id != "" && approval.campaignIds.contains id
  pure (r₁ ++ r₂ ++
    reasonWhen (approval.decision != "approved") "operator approval decision is not approved" ++
    reasonWhen (approvedAt.any (· > input.now)) "operator approval is not yet valid" ++
    reasonWhen (expires.any (input.now ≥ ·)) "operator approval has expired" ++
    reasonWhen (bothKnown (fun a b => a ≥ b) approvedAt expires)
      "operator approval validity interval is invalid" ++
    reasonWhen (approval.operatorAlias != operatorAlias)
      "operator approval alias does not match scope" ++
    reasonWhen (!Json.pyEq (.str approval.authorizationReference) (dget authorization "reference"))
      "operator approval authorization reference does not match scope" ++
    reasonWhen (!isSha256Text approval.scopeSha256 ||
        input.scopeSha256 != some approval.scopeSha256)
      "operator approval scope SHA256 does not match scope file" ++
    reasonWhen (!objectiveApproved && !campaignApproved)
      "operator approval does not cover this objective or campaign")

/-- Source: `policy_gate.evaluate`, `operator_approval` -/
def operatorApprovalReasons (operatorAlias : String) (authorization objective : Dict)
    (input : GateInput) : Except Exc (List String) := do
  let ofRecord ← match input.operatorApproval with
    | none => pure ["private operator approval record is missing"]
    | some document =>
      match parseOperatorApproval document with
      | .ok approval => parsedApprovalReasons rt approval operatorAlias authorization objective input
      | .error (.custom "ConfigError" msg) =>
        pure ["operator approval record is invalid: " ++ msg]
      | .error e => throw e
  pure (reasonWhen (!input.operatorApproved) "operator approval is missing" ++ ofRecord)

/-- One test window: whether it is open now, and its reasons.
Source: `policy_gate.evaluate`, `windows` -/
def windowCheck (now : ℤ) (index : ℕ) (raw : Json) : Except Exc (Bool × List String) := do
  let window ← raw.attrs
  let field := indexed "allowed_test_windows" index
  let (start, r₁) ← parseUtc rt (dget window "start_utc") (field ++ ".start_utc")
  let (stop, r₂) ← parseUtc rt (dget window "end_utc") (field ++ ".end_utc")
  let empty := bothKnown (fun a b => a ≥ b) start stop
  let open_ := bothKnown (fun a b => a ≤ now && now < b) start stop
  pure (!empty && open_, r₁ ++ r₂ ++ reasonWhen empty (field ++ " interval is invalid"))

/-- Source: `policy_gate.evaluate`, `windows` -/
def windowReasons (scope : Dict) (now : ℤ) : Except Exc (List String) := do
  let windows ← (dgetD scope "allowed_test_windows" (.arr [])).iter
  let checks ← mapIdxE (windowCheck rt now) 0 windows
  pure (reasonWhen windows.isEmpty "allowed test windows are missing" ++
    checks.flatMap Prod.snd ++
    reasonWhen (!windows.isEmpty && !checks.any Prod.fst)
      "current time is outside all allowed test windows")

/-- Source: `policy_gate.evaluate`, `reporting` -/
def reportingReasons (scope : Dict) : Except Exc (List String) := do
  let reporting ← (dgetD scope "reporting" (.obj [])).attrs
  pure (reasonWhen (!(dget reporting "disclosure_rules").truthy)
      "reporting and disclosure rules are missing" ++
    reasonWhen (!(dget reporting "human_review_required").truthy)
      "human report review is not required" ++
    reasonWhen (dget reporting "automatic_submission").truthy
      "automatic report submission is forbidden")

/-- Source: `policy_gate.evaluate`, `required_stops` -/
def requiredStops : List String :=
  ["operator_stop", "policy_denial", "instability", "authentication_lockout_risk",
    "redaction_failure"]

/-- Source: `policy_gate.evaluate`, `stop_conditions` -/
def stopReasons (scope : Dict) : Except Exc (List String) := do
  let stops ← setAt scope "stop_conditions"
  pure (if stops.isEmpty then ["emergency stop conditions are missing"]
    else reasonIfAny "required stop conditions are missing: "
      (requiredStops.filter fun s => !memSet stops s))

/-- The checks of the scope against a parsed profile.
Source: `policy_gate.evaluate`, `parsed_profile` -/
def scopeProfileReasons (profile : ProgramProfile) (scope : ScopeConfig) : List String :=
  let checklist := profile.policyChecklist
  let targets := scope.targets.map TargetScope.alias_
  reasonWhen (!checklist.policyAccepted) "program policy acceptance is not confirmed" ++
    reasonWhen (!checklist.safeHarborReviewed) "program safe harbor review is not confirmed" ++
    reasonWhen (!checklist.disclosureRulesReviewed)
      "program disclosure rules review is not confirmed" ++
    reasonWhen (!checklist.stopConditionsReviewed)
      "program stop conditions review is not confirmed" ++
    reasonWhen (profile.programAlias != scope.programAlias)
      "program profile alias does not match scope" ++
    reasonIfAny "scope contains program out-of-scope asset aliases: "
      (targets.filter (· ∈ profile.outOfScopeAssetAliases)) ++
    reasonIfAny "scope contains asset aliases not approved by program profile: "
      (targets.filter (· ∉ profile.inScopeAssetAliases)) ++
    reasonIfAny "scope contains program-forbidden testing categories: "
      (scope.allowedCategories.filter (· ∈ profile.forbiddenTestingCategories)) ++
    reasonIfAny "scope contains testing categories not approved by program profile: "
      (scope.allowedCategories.filter (· ∉ profile.allowedTestingCategories)) ++
    reasonIfAny "scope omits program-prohibited actions: "
      (profile.prohibitedActions.filter (· ∉ scope.forbiddenActions))

/-- The checks of the objective against a parsed profile.
Source: `policy_gate.evaluate`, `parsed_profile` -/
def objectiveProfileReasons (profile : ProgramProfile) (objective : Dict) : List String :=
  let target := dget objective "target_alias"
  let category := categoryOf objective
  reasonWhen (target.truthy && inTuple target profile.outOfScopeAssetAliases)
      "target is explicitly out of scope in program profile" ++
    reasonWhen (target.truthy && !inTuple target profile.inScopeAssetAliases)
      "target is not in scope in program profile" ++
    reasonWhen (category.truthy && inTuple category profile.forbiddenTestingCategories)
      "test category is forbidden by program profile" ++
    reasonWhen (category.truthy && !inTuple category profile.allowedTestingCategories)
      "test category is not allowed by program profile" ++
    reasonWhen (inTuple (dget objective "action") profile.prohibitedActions)
      "action is prohibited by program profile"

/-- The number of microseconds in a day. -/
def microsecondsPerDay : ℤ := 86400000000

/-- Source: `policy_gate.evaluate`, `parsed_profile` -/
def profileReasons (profile : ProgramProfile) (document : Dict) (parsedScope : ScopeConfig)
    (scope authorization roe objective : Dict) (now : ℤ) : Except Exc (List String) := do
  let (accepted, r) := parseDate rt (dget document "accepted_policy_date")
    "program profile accepted_policy_date"
  let limits ← (dget scope "rate_limits").attrs
  let profileLimits ← (dget document "rate_limits").attrs
  let some rate := (dget limits "requests_per_minute").num? | throw .typeError
  let some profileRate := (dget profileLimits "requests_per_minute").num? | throw .typeError
  pure (scopeProfileReasons profile parsedScope ++
    reasonWhen (!Json.pyEq (dget authorization "reference")
        (dget document "authorization_reference"))
      "authorization reference does not match program profile" ++
    reasonWhen (!Json.pyEq (dget roe "policy_sha256") (dget document "policy_sha256"))
      "rules-of-engagement policy SHA256 does not match program profile" ++
    r ++
    reasonWhen (accepted.any (· > now.fdiv microsecondsPerDay))
      "program policy acceptance date is in the future" ++
    objectiveProfileReasons profile objective ++
    reasonWhen (decide (profileRate < rate)) "scope rate limit exceeds program profile limit")

/-- The checks of live mode, in the order of the source.
Source: `policy_gate.evaluate`, `if live` -/
def liveReasons (parsedScope : ScopeConfig) (scope objective : Dict) (input : GateInput) :
    Except Exc (List String) := do
  let authorization ← (dget scope "authorization").attrs
  let roe ← (dget scope "rules_of_engagement").attrs
  let (profile, ofProfile) ← profileOf input.programProfile
  let ofAuthorization ← authorizationReasons rt authorization roe input.now
  let ofRoe ← roeReasons rt roe input.now
  let ofConfidentiality ← confidentialityReasons rt authorization
  let ofApproval ← operatorApprovalReasons rt parsedScope.operatorAlias authorization objective input
  let ofWindows ← windowReasons rt scope input.now
  let ofReporting ← reportingReasons scope
  let ofStops ← stopReasons scope
  let ofMatch ← match profile, input.programProfile with
    | some parsed, some document =>
      profileReasons rt parsed document parsedScope scope authorization roe objective input.now
    | _, _ => pure []
  pure (ofProfile ++ ofAuthorization ++ ofRoe ++ ofConfidentiality ++ ofApproval ++ ofWindows ++
    ofReporting ++ ofStops ++ ofMatch)

end Aotp.Gate
