import Aotp.Tools.Registry

/-!
# WSTG objectives

* `WSTGStrategyEntry`, `strategyMap` — the entries of a strategy map, with the checks of their
  construction.
* `WSTGCampaignScope` — the scope of one campaign; `origin`, `host`, `port` are read off its base
  URL.
* `generateWstgObjectives` — the objectives of the entries the scope and the rules of engagement
  let through, up to the limit of the scope.
-/

namespace Aotp.Wstg

open PyData Aotp.Tools

/-! ### Strategy maps -/

/-- Source: `wstg.strategy_map.WSTGPhase` -/
inductive WSTGPhase where
  | passive
  | browser
  | auth
  | input
  | validation
  | report
  deriving DecidableEq, Repr

/-- Source: `wstg.strategy_map.WSTGPhase`, the values -/
def WSTGPhase.value : WSTGPhase → String
  | passive => "passive"
  | browser => "browser"
  | auth => "auth"
  | input => "input"
  | validation => "validation"
  | report => "report"

/-- Source: `wstg.strategy_map._PHASE_ORDER` -/
def WSTGPhase.order : WSTGPhase → ℕ
  | passive => 0
  | browser => 1
  | auth => 2
  | input => 3
  | validation => 4
  | report => 5

/-- Source: `wstg.strategy_map.ExecutableFamily` -/
inductive ExecutableFamily where
  | httpMetadata
  | tlsMetadata
  | wellKnownText
  | playwrightPassiveMetadata
  | zapPassiveBaseline
  | authBoundary
  | sessionManagement
  | errorHandling
  | inputBoundary
  | coverageReport
  deriving DecidableEq, Repr

/-- Source: `wstg.strategy_map.ExecutableFamily`, the values -/
def ExecutableFamily.value : ExecutableFamily → String
  | httpMetadata => "http_metadata"
  | tlsMetadata => "tls_metadata"
  | wellKnownText => "well_known_text"
  | playwrightPassiveMetadata => "playwright_passive_metadata"
  | zapPassiveBaseline => "zap_passive_baseline"
  | authBoundary => "auth_boundary"
  | sessionManagement => "session_management"
  | errorHandling => "error_handling"
  | inputBoundary => "input_boundary"
  | coverageReport => "coverage_report"

/-- Source: `wstg.strategy_map.WSTGStrategyEntry` -/
structure WSTGStrategyEntry where
  wstgId : String
  version : String
  category : String
  name : String
  phase : WSTGPhase
  family : ExecutableFamily
  toolName : String
  riskTier : ToolRiskTier
  evidenceClassification : String
  evidenceRequired : List String
  requiresHumanApproval : Bool := false
  defaultArguments : Dict := []

/-- `c in "0123456789"`. -/
def isDigit (c : Char) : Bool := '0' ≤ c && c ≤ '9'

/-- `[A-Z]`. -/
def isCapital (c : Char) : Bool := 'A' ≤ c && c ≤ 'Z'

/-- What follows the version in a WSTG identifier: `-[A-Z]{4}-[0-9]{2}`. -/
def isIdTail : List Char → Bool
  | ['-', a, b, c, d, '-', x, y] => [a, b, c, d].all isCapital && [x, y].all isDigit
  | _ => false

/-- Source: `wstg.strategy_map._WSTG_ID_RE` -/
def isWstgId (id : List Char) : Bool :=
  match id with
  | 'W' :: 'S' :: 'T' :: 'G' :: '-' :: 'v' :: rest =>
    let digits := rest.takeWhile isDigit
    !digits.isEmpty && isIdTail (rest.dropWhile isDigit)
  | _ => false

/-- Source: `wstg.strategy_map.WSTGStrategyError` -/
def strategyError (msg : String) : Exc := .custom "WSTGStrategyError" msg

/-- What the construction of an entry consults: `str.isupper`, and the catalog, by id, with the
category and the title of a case.
Source: `wstg.catalog.WSTG_V42_CATALOG` -/
structure WstgLibrary where
  isupper : String → Bool
  caseById : String → Except Exc (String × String)

/-- The checks of an entry of a version with a catalog. -/
def checkCatalog (lib : WstgLibrary) (e : WSTGStrategyEntry) : Except Exc Unit :=
  if e.version = "v42" then
    match lib.caseById e.wstgId with
    | .error err => .error (strategyError err.text)
    | .ok (category, title) => do
      guardE (category == e.category)
        (strategyError "strategy entry category must match the canonical WSTG catalog")
      guardE (title == e.name)
        (strategyError "strategy entry name must match the canonical OWASP WSTG title")
  else pure ()

/-- Source: `wstg.strategy_map.WSTGStrategyEntry.__post_init__` -/
def WSTGStrategyEntry.postInit (lib : WstgLibrary) (e : WSTGStrategyEntry) : Except Exc Unit := do
  guardE (isWstgId e.wstgId.toList)
    (strategyError "wstg_id must be version-qualified, for example WSTG-v42-INFO-02")
  guardE (decide (e.version.toList <:+: e.wstgId.toList))
    (strategyError "entry version must appear in the WSTG identifier")
  guardE (e.category.toList.length == 4 && lib.isupper e.category)
    (strategyError "WSTG category must be a four-character uppercase code")
  guardE (strip e.name != "") (strategyError "WSTG entry name is required")
  guardE (decide (e.evidenceClassification ∈
      ["public", "restricted", "secret", "poc_sensitive", "recipient_only"]))
    (strategyError "unsupported evidence classification")
  guardE (!e.evidenceRequired.isEmpty)
    (strategyError "at least one evidence requirement is required")
  checkCatalog lib e

/-- The order of a strategy map: by phase, then by identifier.
Source: `wstg.strategy_map.WSTGStrategyEntry.sort_key` -/
def WSTGStrategyEntry.le (a b : WSTGStrategyEntry) : Bool :=
  if a.phase.order ≠ b.phase.order then a.phase.order ≤ b.phase.order
  else decide (a.wstgId ≤ b.wstgId)

/-- No identifier occurs twice.
Source: `wstg.strategy_map.WSTGStrategyMap.__init__`, `seen` -/
def rejectDuplicates (seen : List String) : List WSTGStrategyEntry → Except Exc Unit
  | [] => pure ()
  | e :: es => do
    guardE (decide (e.wstgId ∉ seen)) (strategyError ("duplicate WSTG identifier: " ++ e.wstgId))
    rejectDuplicates (e.wstgId :: seen) es

/-- The entries of a strategy map, in order.
Source: `wstg.strategy_map.WSTGStrategyMap` -/
def strategyMap (entries : List WSTGStrategyEntry) : Except Exc (List WSTGStrategyEntry) := do
  let ordered := entries.insertionSort fun a b => a.le b = true
  guardE (!ordered.isEmpty) (strategyError "at least one WSTG strategy entry is required")
  rejectDuplicates [] ordered
  pure ordered

/-! ### The scope of a campaign -/

/-- Source: `wstg.objective_generator.WSTGCampaignScope` -/
structure WSTGCampaignScope where
  campaignId : String
  targetAlias : String
  baseUrl : String
  authorizationReference : String
  operatorApproved : Bool
  allowedPhases : List WSTGPhase
  approvedFamilies : List ExecutableFamily
  authenticated : Bool := false
  allowSessionMaterial : Bool := false
  allowInputBoundary : Bool := false
  allowBrowser : Bool := true
  allowActiveValidation : Bool := false
  maxObjectives : ℤ := 20

/-- Source: `wstg.objective_generator.WSTGObjectiveError` -/
def objectiveError (msg : String) : Exc := .custom "WSTGObjectiveError" msg

variable (rt : Runtime) (urls : Urls)

namespace WSTGCampaignScope

variable (scope : WSTGCampaignScope)

/-- Source: `wstg.objective_generator.WSTGCampaignScope.__post_init__` -/
def postInit : Except Exc Unit := do
  guardE (isAlias scope.campaignId.toList)
    (objectiveError "campaign_id must be a safe lowercase identifier")
  guardE (isAlias scope.targetAlias.toList)
    (objectiveError "target_alias must be a safe lowercase identifier")
  let parsed ← urls.urlsplit scope.baseUrl
  guardE (decide (parsed.scheme ∈ ["http", "https"]) && parsed.hostname.any (· != ""))
    (objectiveError "base_url must be an absolute http or https URL")
  guardE (parsed.username.isNone && parsed.password.isNone)
    (objectiveError "base_url credentials are not allowed")
  guardE (parsed.query == "" && parsed.fragment == "")
    (objectiveError "base_url query and fragment are not allowed")
  guardE (strip scope.authorizationReference != "")
    (objectiveError "authorization_reference is required")
  guardE scope.operatorApproved (objectiveError "operator approval is required")
  guardE (!scope.allowedPhases.isEmpty) (objectiveError "at least one WSTG phase must be allowed")
  guardE (!scope.approvedFamilies.isEmpty)
    (objectiveError "at least one executable family must be approved")
  guardE (decide (1 ≤ scope.maxObjectives)) (objectiveError "max_objectives must be positive")

/-- `443 if parsed.scheme == "https" else 80`. -/
def defaultPort (parsed : SplitUrl) : ℕ := if parsed.scheme = "https" then 443 else 80

/-- Source: `wstg.objective_generator.WSTGCampaignScope.origin` -/
def origin : Except Exc String := do
  let parsed ← urls.urlsplit scope.baseUrl
  let port ← parsed.port
  let suffix := match port with
    | some p => if p ≠ 0 ∧ p ≠ defaultPort parsed then ":" ++ Nat.repr p else ""
    | none => ""
  pure (parsed.scheme ++ "://" ++ parsed.hostname.getD "None" ++ suffix)

/-- Source: `wstg.objective_generator.WSTGCampaignScope.host` -/
def host : Except Exc String := do
  let parsed ← urls.urlsplit scope.baseUrl
  match parsed.hostname with
  | some h => pure h
  | none => throw (objectiveError "base_url host is missing")

/-- Source: `wstg.objective_generator.WSTGCampaignScope.port` -/
def port : Except Exc ℕ := do
  let parsed ← urls.urlsplit scope.baseUrl
  let given ← parsed.port
  pure (RulesOfEngagement.portOr (defaultPort parsed) given)

end WSTGCampaignScope

/-! ### Generation -/

/-- Source: `wstg.objective_generator.WSTGObjective` -/
structure WSTGObjective where
  objectiveId : String
  campaignId : String
  targetAlias : String
  wstgId : String
  phase : WSTGPhase
  family : ExecutableFamily
  toolName : String
  arguments : Dict
  riskTier : String
  evidenceClassification : String
  evidenceRequired : List String
  requiresHumanApproval : Bool
  rationale : String

/-- Source: `wstg.objective_generator._entry_allowed` -/
def entryAllowed (e : WSTGStrategyEntry) (scope : WSTGCampaignScope) : Bool :=
  decide (e.phase ∈ scope.allowedPhases) &&
  decide (e.family ∈ scope.approvedFamilies) &&
  !(e.phase == .browser && !scope.allowBrowser) &&
  !(e.family == .authBoundary && !scope.authenticated) &&
  !(e.family == .sessionManagement && !scope.allowSessionMaterial) &&
  !(e.family == .inputBoundary && !scope.allowInputBoundary) &&
  !(e.phase == .validation && !scope.allowActiveValidation)

/-- `{**base, **defaults}`. -/
def merged (base defaults : Dict) : Dict := defaults.foldl (fun m e => dset m e.1 e.2) base

/-- The arguments of the objective of an entry: the later ones win.
Source: `wstg.objective_generator._arguments_for` -/
def argumentsFor (e : WSTGStrategyEntry) (scope : WSTGCampaignScope) : Except Exc Dict :=
  match e.family with
  | .httpMetadata | .playwrightPassiveMetadata => do
    let origin ← scope.origin urls
    pure [("url", .str (origin ++ "/"))]
  | .wellKnownText => do
    let origin ← scope.origin urls
    pure [("base_url", .str origin)]
  | .tlsMetadata => do
    let host ← scope.host urls
    let port ← scope.port urls
    pure [("host", .str host), ("port", .int port), ("server_name", .str host)]
  | .zapPassiveBaseline => do
    let origin ← scope.origin urls
    pure (merged [("target_url", .str (origin ++ "/"))] e.defaultArguments)
  | _ => do
    let origin ← scope.origin urls
    pure (merged [("target_alias", .str scope.targetAlias), ("base_url", .str origin),
      ("wstg_id", .str e.wstgId)] e.defaultArguments)

/-- The arguments that are URLs. -/
def urlKeys : List String := ["url", "base_url", "target_url"]

/-- The reasons against the URLs of an objective.
Source: `wstg.objective_generator._roe_reasons`, the loop -/
def urlReasons (arguments : Dict) (roe : RulesOfEngagement) : List String → Except Exc (List String)
  | [] => pure []
  | key :: keys => do
    let here ← match dget? arguments key with
      | some value => roe.allowsUrl rt urls (pyStr rt value)
      | none => pure none
    let rest ← urlReasons arguments roe keys
    pure (here.toList ++ rest)

/-- Source: `wstg.objective_generator._roe_reasons` -/
def roeReasons (e : WSTGStrategyEntry) (arguments : Dict) (roe : RulesOfEngagement) :
    Except Exc (List String) := do
  let ofUrls ← urlReasons rt urls arguments roe urlKeys
  pure (reasonWhen (!(roe.allowsToolName e.toolName || roe.allowsToolName e.family.value))
      "tool or executable family is not allowed by ROE" ++
    reasonWhen (!roe.allowsRiskTier e.riskTier) "risk tier is not allowed by ROE" ++
    reasonWhen (e.evidenceClassification ∉ roe.evidenceClassifications)
      "evidence classification is not allowed by ROE" ++ ofUrls ++
    reasonWhen ((dget? arguments "host").any fun v => !roe.allowsHost rt (pyStr rt v))
      "host is outside ROE scope" ++
    reasonWhen ((dget? arguments "port").any fun v => (asInt v).any fun p => !roe.allowsPort p)
      "port is outside ROE scope")

/-- The reasons of the rules of engagement, where there are any. -/
def optionalReasons (roe : Option RulesOfEngagement) (e : WSTGStrategyEntry) (arguments : Dict) :
    Except Exc (List String) :=
  match roe with
  | some roe => roeReasons rt urls e arguments roe
  | none => pure []

/-- Source: `wstg.objective_generator._objective_id` -/
def objectiveId (e : WSTGStrategyEntry) : String :=
  String.ofList ((rt.lower e.wstgId).toList.map fun c => if c = '-' then '_' else c)

/-- The objective of an entry.
Source: `wstg.objective_generator.generate_wstg_objectives`, the call of `WSTGObjective` -/
def objectiveOf (scope : WSTGCampaignScope) (e : WSTGStrategyEntry) (arguments : Dict) :
    WSTGObjective where
  objectiveId := objectiveId rt e
  campaignId := scope.campaignId
  targetAlias := scope.targetAlias
  wstgId := e.wstgId
  phase := e.phase
  family := e.family
  toolName := e.toolName
  arguments := arguments
  riskTier := e.riskTier.value
  evidenceClassification := e.evidenceClassification
  evidenceRequired := e.evidenceRequired
  requiresHumanApproval := e.requiresHumanApproval
  rationale := e.wstgId ++ " maps to " ++ e.phase.value ++ " phase via " ++ e.family.value

/-- The objectives of some entries, while there is room for them.
Source: `wstg.objective_generator.generate_wstg_objectives`, the loop -/
def generateFrom (scope : WSTGCampaignScope) (roe : Option RulesOfEngagement) :
    ℕ → List WSTGStrategyEntry → Except Exc (List WSTGObjective)
  | _, [] => pure []
  | 0, _ :: _ => pure []
  | room + 1, e :: es =>
    if entryAllowed e scope then do
      let arguments ← argumentsFor urls e scope
      let reasons ← optionalReasons rt urls roe e arguments
      if reasons.isEmpty then do
        let rest ← generateFrom scope roe room es
        pure (objectiveOf rt scope e arguments :: rest)
      else generateFrom scope roe (room + 1) es
    else generateFrom scope roe (room + 1) es

/-- **The objectives of a strategy map** in a scope, under optional rules of engagement.
Source: `wstg.objective_generator.generate_wstg_objectives` -/
def generateWstgObjectives (scope : WSTGCampaignScope) (entries : List WSTGStrategyEntry)
    (roe : Option RulesOfEngagement) : Except Exc (List WSTGObjective) :=
  generateFrom rt urls scope roe scope.maxObjectives.toNat entries

end Aotp.Wstg
