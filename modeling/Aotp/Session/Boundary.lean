import Aotp.Gate.PolicyChecks

/-!
# Authenticated session boundaries

* `AllowedRoute` — one route, which carries the checks of its construction;
  `AllowedRoute.matchesRequest` — whether it permits a request.
* `AuthenticatedSessionBoundary` — the account and route scope of authenticated work; `postInit` — its
  construction, `scopeBinding` — the digest of what it is bound to, `authorizeRoute` — its decision on
  a request.
* `authorizeRoute_matches` — a decision permits a request only where an allowed route does.
-/

namespace Aotp.Session

open PyData
open Aotp.Gate (zuluToOffset)

/-- What the sessions consult of the standard library: `datetime.fromisoformat`, `str.upper` and
`hashlib.sha256(text.encode("utf-8")).hexdigest()`. -/
structure SessionLibrary where
  fromIsoFormat : String → IsoTime
  upper : String → String
  sha256 : String → String

/-- Source: `auth_session.AuthSessionError` -/
def sessionError (msg : String) : Exc := .custom "AuthSessionError" msg

/-! ### Routes -/

/-- Source: `auth_session._SAFE_METHODS` -/
def safeMethods : List String := ["GET", "HEAD", "POST", "PUT", "PATCH", "DELETE", "OPTIONS"]

/-- `".." in value or "\\" in value or any(c in value for c in "\n\r\t")`. -/
def unsafePath (value : List Char) : Bool :=
  decide (['.', '.'] <:+: value) || value.contains '\\' ||
    ['\n', '\r', '\t'].any fun c => value.contains c

/-- `value.endswith("/*")`. -/
def endsWithWildcard (value : List Char) : Bool := decide (['/', '*'] <:+ value)

/-- Source: `auth_session._validate_path_pattern` -/
def validatePathPattern (value : String) : Except Exc Unit := do
  guardE (value.toList.head? == some '/') (sessionError "route path patterns must start with slash")
  guardE (!unsafePath value.toList) (sessionError "route path pattern is unsafe")
  guardE (!value.toList.contains '*' || endsWithWildcard value.toList)
    (sessionError "wildcards are allowed only as trailing /*")

/-- Source: `auth_session._validate_route_path` -/
def validateRoutePath (value : String) : Except Exc Unit := do
  guardE (value.toList.head? == some '/') (sessionError "route path must start with slash")
  guardE (!(unsafePath value.toList || value.toList.contains '*'))
    (sessionError "route path is unsafe")

/-- `not normalized or any(method not in _SAFE_METHODS for method in normalized)`, denied. -/
def methodsSafe (normalized : List String) : Bool :=
  !normalized.isEmpty && normalized.all fun method => safeMethods.contains method

/-- Source: `auth_session.AllowedRoute`, with what `__post_init__` asks of it -/
structure AllowedRoute where
  pathPattern : String
  methods : List String
  pattern_safe : validatePathPattern pathPattern = .ok ()
  methods_safe : methodsSafe methods = true

namespace AllowedRoute

/-- Source: `auth_session.AllowedRoute.__post_init__` -/
def make (lib : SessionLibrary) (pathPattern : String) (methods : List String) :
    Except Exc AllowedRoute :=
  match hpattern : validatePathPattern pathPattern with
  | .error e => .error e
  | .ok () =>
    let normalized := fromkeys (methods.map lib.upper)
    if hmethods : methodsSafe normalized = true then
      .ok ⟨pathPattern, normalized, hpattern, hmethods⟩
    else .error (sessionError "allowed route methods are unsafe")

variable (route : AllowedRoute)

/-- `self.path_pattern[:-1]`. -/
def wildcardPrefix : List Char := route.pathPattern.toList.dropLast

/-- Source: `auth_session.AllowedRoute.matches` -/
def matchesRequest (lib : SessionLibrary) (method path : String) : Except Exc Bool :=
  if route.methods.contains (lib.upper method) then do
    validateRoutePath path
    if endsWithWildcard route.pathPattern.toList then
      pure (route.wildcardPrefix.isPrefixOf path.toList)
    else pure (path == route.pathPattern)
  else pure false

end AllowedRoute

/-! ### Boundaries -/

/-- Source: `auth_session.AuthState` -/
inductive AuthState where
  | unauthenticated
  | authenticated
  | postLogout
  deriving DecidableEq, Repr

/-- Source: `auth_session.AuthState`, by value -/
def AuthState.ofText (value : String) : Except Exc AuthState :=
  if value = "unauthenticated" then .ok .unauthenticated
  else if value = "authenticated" then .ok .authenticated
  else if value = "post_logout" then .ok .postLogout
  else .error (.valueError ("'" ++ value ++ "' is not a valid AuthState"))

/-- Source: `auth_session.AuthenticatedSessionBoundary` -/
structure AuthenticatedSessionBoundary where
  campaignId : String
  operatorAlias : String
  targetAlias : String
  accountAlias : String
  authorizationReference : String
  approvalReference : String
  rulesOfEngagementReference : String
  scopeSha256 : String
  approvalScopeSha256 : String
  approvalOperatorAlias : String
  approvalExpiresUtc : String
  approvedPermissions : List String
  allowedRoutes : List AllowedRoute
  allowedAuthStates : List AuthState := [.authenticated]
  storagePolicy : String := "public_metadata_only"
  evidenceClassification : String := "restricted"
  active : Bool := true
  serviceAlias : Option String := none

/-- Source: `auth_session._safe_alias` -/
def safeAlias (value field : String) : Except Exc Unit :=
  guardE (isAlias value.toList) (sessionError (field ++ " must be a safe lowercase alias"))

/-- `if self.service_alias is not None: _safe_alias(self.service_alias, "service_alias")`. -/
def safeServiceAlias (serviceAlias : Option String) : Except Exc Unit :=
  match serviceAlias with
  | some service => safeAlias service "service_alias"
  | none => pure ()

/-- The check of one reference: some text besides white space. -/
def requireReference (value field : String) : Except Exc Unit :=
  guardE (strip value != "") (sessionError (field ++ " is required"))

/-- The check of one digest. -/
def requireDigest (value field : String) : Except Exc Unit :=
  guardE (isSha256Text value) (sessionError (field ++ " must be a lowercase SHA256 digest"))

/-- Source: `auth_session._parse_future_utc` -/
def parseFutureUtc (lib : SessionLibrary) (now : ℤ) (value : String) : Except Exc Unit :=
  match lib.fromIsoFormat (zuluToOffset value) with
  | .invalid => .error (sessionError "approval expiry must be ISO-8601")
  | .naive => .error (sessionError "approval expiry must include timezone")
  | .aware none => .error .overflowError
  | .aware (some utc) => guardE (decide (now < utc)) (sessionError "approval is expired")

/-- Source: `auth_session.AuthenticatedSessionBoundary.__post_init__`, `storage_policy` -/
def storagePolicies : List String :=
  ["vaulted", "memory_only", "do_not_store", "public_metadata_only"]

/-- Source: `auth_session.AuthenticatedSessionBoundary.__post_init__`, `evidence_classification` -/
def evidenceClassifications : List String :=
  ["public", "restricted", "poc_sensitive", "recipient_only"]

/-- What a route is asked about. -/
structure RouteRequest where
  method : String
  path : String
  targetAlias : String
  accountAlias : String
  authState : String := "authenticated"

/-- Source: `auth_session.AuthenticatedRouteDecision` -/
structure AuthenticatedRouteDecision where
  allowed : Bool
  routePath : String
  method : String
  reasons : List String
  deriving DecidableEq, Repr

namespace AuthenticatedSessionBoundary

variable (lib : SessionLibrary) (now : ℤ) (b : AuthenticatedSessionBoundary)

/-- Source: `auth_session.AuthenticatedSessionBoundary.__post_init__` -/
def postInit : Except Exc Unit := do
  safeAlias b.campaignId "campaign_id"
  safeAlias b.operatorAlias "operator_alias"
  safeAlias b.targetAlias "target_alias"
  safeAlias b.accountAlias "account_alias"
  safeServiceAlias b.serviceAlias
  requireReference b.authorizationReference "authorization_reference"
  requireReference b.approvalReference "approval_reference"
  requireReference b.rulesOfEngagementReference "rules_of_engagement_reference"
  requireDigest b.scopeSha256 "scope_sha256"
  requireDigest b.approvalScopeSha256 "approval_scope_sha256"
  guardE (b.scopeSha256 == b.approvalScopeSha256)
    (sessionError "approval does not match scope digest")
  guardE (b.operatorAlias == b.approvalOperatorAlias)
    (sessionError "approval does not match operator")
  guardE (b.approvedPermissions.contains "authenticated_testing")
    (sessionError "approval is missing authenticated_testing permission")
  guardE (!b.allowedRoutes.isEmpty)
    (sessionError "at least one authenticated route must be allowed")
  guardE (!b.allowedAuthStates.isEmpty) (sessionError "at least one auth state must be allowed")
  parseFutureUtc lib now b.approvalExpiresUtc
  guardE (storagePolicies.contains b.storagePolicy)
    (sessionError "unsupported authenticated storage policy")
  guardE (evidenceClassifications.contains b.evidenceClassification)
    (sessionError "unsupported evidence classification")

/-- The fields a scope binding joins.
Source: `auth_session.AuthenticatedSessionBoundary.scope_binding` -/
def boundFields : List String :=
  [b.campaignId, b.operatorAlias, b.targetAlias, b.accountAlias, b.authorizationReference,
    b.approvalReference, b.rulesOfEngagementReference, b.scopeSha256]

/-- The text whose digest is the scope binding. -/
def bindingText : String := String.intercalate "\n" b.boundFields

/-- Source: `auth_session.AuthenticatedSessionBoundary.scope_binding` -/
def scopeBinding : String := lib.sha256 b.bindingText

/-- Source: `auth_session.AuthenticatedSessionBoundary.assert_active` -/
def assertActive : Except Exc Unit := do
  guardE b.active (sessionError "authenticated session boundary is inactive")
  parseFutureUtc lib now b.approvalExpiresUtc

/-- `except AuthSessionError as exc: reasons.append(str(exc))`. -/
def activeReasons : Except Exc (List String) :=
  match b.assertActive lib now with
  | .ok () => .ok []
  | .error (.custom cls msg) =>
    if cls = "AuthSessionError" then .ok [msg] else .error (.custom cls msg)
  | .error e => .error e

/-- `any(route.matches(method, path) for route in routes)`. -/
def anyMatches (method path : String) : List AllowedRoute → Except Exc Bool
  | [] => pure false
  | route :: rest => do
    if ← route.matchesRequest lib method path then pure true else anyMatches method path rest

/-- Source: `auth_session.AuthenticatedSessionBoundary.authorize_route` -/
def authorizeRoute (request : RouteRequest) : Except Exc AuthenticatedRouteDecision := do
  let inactive ← b.activeReasons lib now
  let crossing := (if request.targetAlias ≠ b.targetAlias then
    ["target alias crosses authenticated session boundary"] else []) ++
    (if request.accountAlias ≠ b.accountAlias then
      ["account alias crosses authenticated session boundary"] else [])
  let parsedState ← AuthState.ofText request.authState
  let stateReasons := if b.allowedAuthStates.contains parsedState then []
    else ["auth state is not allowed by boundary"]
  let routeAllowed ← anyMatches lib request.method request.path b.allowedRoutes
  let reasons := inactive ++ crossing ++ stateReasons ++
    (if routeAllowed then [] else ["route is outside authenticated route scope"])
  let decision : AuthenticatedRouteDecision :=
    { allowed := reasons.isEmpty
      routePath := request.path
      method := lib.upper request.method
      reasons := if reasons.isEmpty then ["allowed"] else reasons }
  guardE decision.allowed (sessionError (joinedReasons decision.reasons))
  pure decision

variable {lib now b}

theorem anyMatches_eq_true {method path : String} {routes : List AllowedRoute}
    (h : anyMatches lib method path routes = .ok true) :
    ∃ route ∈ routes, route.matchesRequest lib method path = .ok true := by
  induction routes with
  | nil => cases h
  | cons route routes ih =>
    obtain ⟨matched, hmatched, hrest⟩ := bind_eq_ok.mp h
    cases matched with
    | true => exact ⟨route, List.mem_cons_self .., hmatched⟩
    | false =>
      obtain ⟨other, hother, hmatches⟩ := ih hrest
      exact ⟨other, List.mem_cons_of_mem _ hother, hmatches⟩

/-- **A decision permits a request only where an allowed route does.** -/
theorem authorizeRoute_matches {request : RouteRequest} {decision : AuthenticatedRouteDecision}
    (h : b.authorizeRoute lib now request = .ok decision) :
    ∃ route ∈ b.allowedRoutes,
      route.matchesRequest lib request.method request.path = .ok true := by
  unfold authorizeRoute at h
  obtain ⟨inactive, -, h⟩ := bind_eq_ok.mp h
  obtain ⟨parsedState, -, h⟩ := bind_eq_ok.mp h
  obtain ⟨routeAllowed, hroutes, h⟩ := bind_eq_ok.mp h
  obtain ⟨_, hallowed, -⟩ := bind_eq_ok.mp h
  cases routeAllowed with
  | true => exact anyMatches_eq_true hroutes
  | false =>
    -- the reason that no route matched keeps the decision from being allowed
    have hempty := guardE_eq_ok.mp hallowed
    simp at hempty

end AuthenticatedSessionBoundary

/-! ### Accepted boundaries -/

/-- What the construction of a boundary makes sure of, as far as its scope binding is concerned. -/
structure Sound (b : AuthenticatedSessionBoundary) : Prop where
  campaign : isAlias b.campaignId.toList = true
  operator : isAlias b.operatorAlias.toList = true
  target : isAlias b.targetAlias.toList = true
  account : isAlias b.accountAlias.toList = true
  authorization : strip b.authorizationReference ≠ ""
  approval : strip b.approvalReference ≠ ""
  rules : strip b.rulesOfEngagementReference ≠ ""
  scope : isSha256Text b.scopeSha256 = true

variable {lib : SessionLibrary} {now : ℤ} {b : AuthenticatedSessionBoundary}

theorem requireReference_eq_ok {value field : String} {u : Unit} :
    requireReference value field = .ok u ↔ strip value ≠ "" := by
  unfold requireReference
  rw [guardE_eq_ok, bne_iff_ne]

theorem sound_of_postInit (h : b.postInit lib now = .ok ()) : Sound b := by
  unfold AuthenticatedSessionBoundary.postInit at h
  obtain ⟨_, hcampaign, h⟩ := bind_eq_ok.mp h
  obtain ⟨_, hoperator, h⟩ := bind_eq_ok.mp h
  obtain ⟨_, htarget, h⟩ := bind_eq_ok.mp h
  obtain ⟨_, haccount, h⟩ := bind_eq_ok.mp h
  obtain ⟨_, -, h⟩ := bind_eq_ok.mp h
  obtain ⟨_, hauthorization, h⟩ := bind_eq_ok.mp h
  obtain ⟨_, happroval, h⟩ := bind_eq_ok.mp h
  obtain ⟨_, hrules, h⟩ := bind_eq_ok.mp h
  obtain ⟨_, hscope, -⟩ := bind_eq_ok.mp h
  exact {
    campaign := guardE_eq_ok.mp hcampaign
    operator := guardE_eq_ok.mp hoperator
    target := guardE_eq_ok.mp htarget
    account := guardE_eq_ok.mp haccount
    authorization := requireReference_eq_ok.mp hauthorization
    approval := requireReference_eq_ok.mp happroval
    rules := requireReference_eq_ok.mp hrules
    scope := guardE_eq_ok.mp hscope }

/-- The construction looks at the references only to see that there are some. -/
theorem postInit_references (authorization approval rules : String)
    (hauthorization : strip authorization ≠ "") (happroval : strip approval ≠ "")
    (hrules : strip rules ≠ "") (h : b.postInit lib now = .ok ()) :
    ({ b with
      authorizationReference := authorization
      approvalReference := approval
      rulesOfEngagementReference := rules } : AuthenticatedSessionBoundary).postInit lib now =
      .ok () := by
  have hsound := sound_of_postInit h
  have hold (value field : String) (hvalue : strip value ≠ "") :
      requireReference value field = .ok () := requireReference_eq_ok.mpr hvalue
  unfold AuthenticatedSessionBoundary.postInit at h ⊢
  rw [hold _ _ hsound.authorization, hold _ _ hsound.approval, hold _ _ hsound.rules] at h
  rw [hold _ _ hauthorization, hold _ _ happroval, hold _ _ hrules]
  exact h

end Aotp.Session
