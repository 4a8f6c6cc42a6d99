import Aotp.Tools.Budget

/-!
# Rules of engagement

* `SplitUrl`, `Urls` — what `urlsplit` makes of a text, and the function itself.
* `RulesOfEngagement` — the authority boundary of one campaign, with its checks.
* `allowsUrl` — the URL check; reading the port is the one step of it that can raise.
-/

namespace Aotp.Tools

open PyData

/-- The parts of a URL. The port is read last and raises on a text that is no port number.
Source: `urllib.parse.SplitResult`, as the program reads it -/
structure SplitUrl where
  scheme : String
  hostname : Option String := none
  port : Except Exc (Option ℕ) := .ok none
  username : Option String := none
  password : Option String := none
  query : String := ""
  fragment : String := ""

/-- `urllib.parse.urlsplit`, which raises `ValueError` on a malformed authority. -/
structure Urls where
  urlsplit : String → Except Exc SplitUrl

/-- The authority boundary of one campaign, with the fields the registry reads.
Source: `roe.RulesOfEngagement` -/
structure RulesOfEngagement where
  campaignId : String
  targetAlias : String
  allowedToolNames : List String
  allowedRiskTiers : List ToolRiskTier
  allowedHosts : List String
  allowedPorts : List ℕ := []
  allowedSchemes : List String := ["https"]
  approvalReferences : List (String × String) := []
  evidenceClassifications : List String := ["public", "restricted"]

namespace RulesOfEngagement

/-- Source: `roe.RulesOfEngagement.allows_tool_name` -/
def allowsToolName (roe : RulesOfEngagement) (toolName : String) : Bool :=
  toolName ∈ roe.allowedToolNames

/-- Source: `roe.RulesOfEngagement.allows_risk_tier` -/
def allowsRiskTier (roe : RulesOfEngagement) (tier : ToolRiskTier) : Bool :=
  tier ∈ roe.allowedRiskTiers

/-- Source: `roe.RulesOfEngagement.approval_for` -/
def approvalFor (roe : RulesOfEngagement) (key : String) : Option String :=
  (roe.approvalReferences.lookup key).filter fun value => strip value != ""

/-- `host.lower().rstrip(".")`. -/
def normalHost (rt : Runtime) (host : String) : String := rstripChar '.' (rt.lower host)

/-- Source: `roe.RulesOfEngagement.allows_host` -/
def allowsHost (rt : Runtime) (roe : RulesOfEngagement) (host : String) : Bool :=
  normalHost rt host ∈ roe.allowedHosts.map (normalHost rt)

/-- Source: `roe.RulesOfEngagement.allows_port` -/
def allowsPort (roe : RulesOfEngagement) (port : ℤ) : Bool :=
  roe.allowedPorts.isEmpty || roe.allowedPorts.any fun p => (p : ℤ) = port

/-- `parsed.hostname` is there, not empty and allowed. -/
def allowsHostname (rt : Runtime) (roe : RulesOfEngagement) (hostname : Option String) : Bool :=
  hostname.any fun h => h != "" && roe.allowsHost rt h

/-- `parsed.port or default_port`. -/
def portOr (default : ℕ) : Option ℕ → ℕ
  | some 0 | none => default
  | some port => port

/-- The reason a URL is refused, if it is.
Source: `roe.RulesOfEngagement.allows_url` -/
def allowsUrl (rt : Runtime) (urls : Urls) (roe : RulesOfEngagement) (url : String) :
    Except Exc (Option String) := do
  let parsed ← urls.urlsplit url
  if !decide (parsed.scheme ∈ roe.allowedSchemes) then
    return some "URL scheme is not allowed by ROE"
  if !roe.allowsHostname rt parsed.hostname then
    return some "URL host is outside ROE scope"
  let port ← parsed.port
  if !roe.allowsPort (portOr (if parsed.scheme = "https" then 443 else 80) port) then
    return some "URL port is outside ROE scope"
  if parsed.username.isSome || parsed.password.isSome then
    return some "URL credentials are denied"
  if parsed.query != "" || parsed.fragment != "" then
    return some "URL query and fragment are denied for governed tools"
  return none

end RulesOfEngagement

end Aotp.Tools
