import Aotp.Tools.RoeUrls

/-!
# The requests of a live campaign

* `CampaignTargetRuntime`, `postInit` — the boundary of a live campaign, and the checks of its
  constructor.
* `requests` — what the default opener of `urllib` sends for one URL, response by response: it
  follows redirects.
* `executorRequests` — what the executor of an action causes to be sent.
* `OnOrigin`, `StaysHome` — a URL of the campaign's own server; responses that redirect nowhere else.
* `live_requests_iff` — **the requests stay on the approved origin exactly when no redirect that is
  followed leaves it**; `redirected_away` — one that does.
-/

namespace Aotp.Wstg

open PyData Aotp.Tools

/-! ### The runtime of a target -/

/-- `urllib.parse`, as live campaigns use it. -/
structure LiveUrls extends UrlLibrary where
  /-- `urlsplit(url).netloc` and `urlsplit(url).path` -/
  netloc : String → String
  path : String → String
  /-- A location as the opener joins it: taken apart, put together and quoted. -/
  requote : String → String

/-- The boundary of one live campaign, with the fields its constructor checks.
Source: `target_runtime.CampaignTargetRuntime` -/
structure CampaignTargetRuntime where
  targetAlias : String
  baseUrl : String
  authorizationReference : String
  networkExposure : String
  implementedLiveTarget : Bool
  resetRequiredBeforeCampaign : Bool
  safePaths : List String
  allowedMethods : List String := ["GET"]
  maxReadyTests : Option ℤ := some 30
  maxActions : ℤ := 12

/-- A failed check of the constructor. -/
def targetRuntimeError (message : String) : Exc := .custom "TargetRuntimeError" message

/-- Source: `target_runtime._validate_safe_path` -/
def validateSafePath (lib : LiveUrls) (path : String) : Except Exc Unit := do
  let parsed ← lib.urlsplit path
  guardE (parsed.scheme == "" && lib.netloc path == "")
    (targetRuntimeError "safe paths must be relative to the approved target origin")
  guardE ("/".toList.isPrefixOf path.toList) (targetRuntimeError "safe paths must start with /")
  guardE (!(splitOnSep '/' (lib.path path).toList).contains "..".toList)
    (targetRuntimeError "path traversal segments are not allowed in safe paths")

namespace CampaignTargetRuntime

/-- `upper` is `str.upper`.
Source: `target_runtime.CampaignTargetRuntime.__post_init__` -/
def postInit (lib : LiveUrls) (upper : String → String) (runtime : CampaignTargetRuntime) :
    Except Exc Unit := do
  guardE (safeComponent runtime.targetAlias.toList)
    (targetRuntimeError "target_alias must be a safe lowercase identifier")
  let parsed ← lib.urlsplit runtime.baseUrl
  guardE (["http", "https"].contains parsed.scheme && parsed.hostname.any (· != ""))
    (targetRuntimeError "base_url must be an absolute http or https URL")
  guardE (parsed.username.isNone && parsed.password.isNone)
    (targetRuntimeError "base_url credentials are not allowed")
  guardE (parsed.query == "" && parsed.fragment == "")
    (targetRuntimeError "base_url query and fragment are not allowed")
  guardE (["loopback-only", "authorized-external", "internal-sow"].contains runtime.networkExposure)
    (targetRuntimeError "unsupported network exposure")
  guardE (runtime.networkExposure != "loopback-only" ||
      [some "127.0.0.1", some "localhost"].contains parsed.hostname)
    (targetRuntimeError "loopback-only targets must use localhost or 127.0.0.1")
  guardE runtime.implementedLiveTarget
    (targetRuntimeError "target runtime is not implemented for live execution")
  guardE runtime.resetRequiredBeforeCampaign
    (targetRuntimeError "live target runtimes must require reset before campaign")
  guardE (strip runtime.authorizationReference != "")
    (targetRuntimeError "authorization_reference is required")
  guardE (!runtime.safePaths.isEmpty)
    (targetRuntimeError "safe_paths are required for bounded execution")
  guardE (runtime.allowedMethods.all fun method => method == upper method)
    (targetRuntimeError "allowed methods must be uppercase")
  guardE (runtime.allowedMethods.contains "GET")
    (targetRuntimeError "GET must remain available for passive discovery")
  guardE (decide (1 ≤ runtime.maxActions) && decide (runtime.maxActions ≤ 100))
    (targetRuntimeError "max_actions must be between 1 and 100")
  guardE (runtime.maxReadyTests.all fun n => decide (1 ≤ n) && decide (n ≤ 97))
    (targetRuntimeError "max_ready_tests must be between 1 and the WSTG catalog size")
  runtime.safePaths.forM (validateSafePath lib)

/-- Source: `target_runtime.CampaignTargetRuntime.normalized_base_url` -/
def normalizedBaseUrl (runtime : CampaignTargetRuntime) : String :=
  if "/".toList.isSuffixOf runtime.baseUrl.toList then runtime.baseUrl else runtime.baseUrl ++ "/"

end CampaignTargetRuntime

/-! ### The opener -/

/-- A response, as far as the opener looks at it: `location` is the header of that name, or `uri`. -/
structure Response where
  status : ℕ
  location : Option String := none

/-- The statuses that redirect a `GET`. -/
def redirectCodes : List ℕ := [301, 302, 303, 307, 308]

/-- The URL a response redirects to, if an HTTP request follows: a location of another kind is an
error, or opened without one.
Source: `urllib.request.HTTPRedirectHandler`, its documentation -/
def redirectTarget (lib : LiveUrls) (url : String) (response : Response) : Option String :=
  if response.status ∈ redirectCodes then
    response.location.bind fun location =>
      match lib.urlsplit location with
      | .ok parsed =>
        if ["http", "https", ""].contains parsed.scheme then
          some (lib.urljoin url (lib.requote location))
        else none
      | .error _ => none
  else none

/-- The opener gives up: one URL four times, or ten URLs.
Source: `urllib.request.HTTPRedirectHandler`, its documentation -/
def exhausted (visited : List String) (next : String) : Bool :=
  decide (4 ≤ visited.count next) || decide (10 ≤ visited.dedup.length)

/-- The URLs that are requested, given the responses in order: the server may also stop answering. -/
def requests (lib : LiveUrls) (visited : List String) (url : String) : List Response → List String
  | [] => [url]
  | response :: rest =>
    url ::
      match redirectTarget lib url response with
      | some next =>
        if exhausted visited next then [] else requests lib (next :: visited) next rest
      | none => []

/-! ### The executor -/

/-- An action, with the fields the executor reads.
Source: `execution_planner.CampaignAction` -/
structure CampaignAction where
  method : String
  path : String

/-- A failure of a live campaign. -/
def liveError (message : String) : Exc := .custom "WSTGLiveCampaignError" message

/-- Source: `wstg_live_campaign._same_origin_url` -/
def sameOriginUrl (lib : LiveUrls) (baseUrl path : String) : Except Exc String := do
  let candidate := lib.urljoin baseUrl path
  let base ← lib.urlsplit baseUrl
  let parsed ← lib.urlsplit candidate
  let port ← parsed.port
  let basePort ← base.port
  guardE (parsed.scheme == base.scheme && parsed.hostname == base.hostname && port == basePort)
    (liveError "derived URL escaped the approved target origin")
  pure candidate

/-- What executing an action causes to be sent, given the responses.
Source: `wstg_live_campaign.default_http_get_executor` -/
def executorRequests (lib : LiveUrls) (runtime : CampaignTargetRuntime) (action : CampaignAction)
    (responses : List Response) : Except Exc (List String) := do
  guardE (action.method == "GET" && runtime.safePaths.contains action.path)
    (liveError "executor only accepts planned safe GET actions")
  let url ← sameOriginUrl lib runtime.normalizedBaseUrl action.path
  pure (requests lib [] url responses)

/-! ### The origin -/

/-- The port a URL is reached at. -/
def portOf (parts : SplitUrl) (port : Option ℕ) : ℕ :=
  port.getD (if parts.scheme = "https" then 443 else 80)

/-- **A URL of the campaign's own server**: the same scheme, host and port. -/
def OnOrigin (lib : LiveUrls) (runtime : CampaignTargetRuntime) (url : String) : Prop :=
  ∃ own parts ownPort port, lib.urlsplit runtime.baseUrl = .ok own ∧ lib.urlsplit url = .ok parts ∧
    own.port = .ok ownPort ∧ parts.port = .ok port ∧ parts.scheme = own.scheme ∧
    parts.hostname = own.hostname ∧ portOf parts port = portOf own ownPort

/-- **No redirect that is followed leaves the origin.** -/
def StaysHome (lib : LiveUrls) (runtime : CampaignTargetRuntime) (visited : List String)
    (url : String) : List Response → Prop
  | [] => True
  | response :: rest => ∀ next, redirectTarget lib url response = some next →
      exhausted visited next = false →
      OnOrigin lib runtime next ∧ StaysHome lib runtime (next :: visited) next rest

section origin

variable {lib : LiveUrls} {runtime : CampaignTargetRuntime} {url : String} {visited : List String}
  {responses : List Response}

/-- **What the opener requests** is on the origin if it begins there and stays. The induction is on
the responses. -/
theorem requests_onOrigin : (∀ u ∈ requests lib visited url responses, OnOrigin lib runtime u) ↔
    OnOrigin lib runtime url ∧ StaysHome lib runtime visited url responses := by
  induction responses generalizing visited url with
  | nil => simp [requests, StaysHome]
  | cons response rest ih =>
    rw [requests, List.forall_mem_cons, StaysHome]
    refine and_congr_right fun _ => ?_
    cases htarget : redirectTarget lib url response with
    | none => simp
    | some next =>
      by_cases hexhausted : exhausted visited next = true
      · simp [hexhausted]
      · rw [Bool.not_eq_true] at hexhausted
        simp only [hexhausted, Bool.false_eq_true, if_false, Option.some.injEq, forall_eq']
        rw [ih]
        exact ⟨fun h _ => h, fun h => h trivial⟩

/-- The library leaves the server of a base URL alone when a slash is put behind it. -/
def KeepsServer (lib : LiveUrls) (runtime : CampaignTargetRuntime) : Prop :=
  ∀ parts, lib.urlsplit runtime.baseUrl = .ok parts → parts.hostname.any (· != "") = true →
    ∃ parts', lib.urlsplit runtime.normalizedBaseUrl = .ok parts' ∧ SameServer parts parts'

/-- **The first URL is on the origin**: the executor checks it. -/
theorem sameOriginUrl_onOrigin {upper : String → String} {path : String}
    (hruntime : runtime.postInit lib upper = .ok ()) (hlib : KeepsServer lib runtime)
    (h : sameOriginUrl lib runtime.normalizedBaseUrl path = .ok url) :
    OnOrigin lib runtime url := by
  simp only [CampaignTargetRuntime.postInit, bind_eq_ok, guardE_eq_ok, Bool.and_eq_true] at hruntime
  obtain ⟨_, -, own, hown, _, ⟨-, hhost⟩, -⟩ := hruntime
  obtain ⟨base, hbase, hserver⟩ := hlib own hown hhost
  simp only [sameOriginUrl, bind_eq_ok, guardE_eq_ok, Bool.and_eq_true, beq_iff_eq] at h
  obtain ⟨base', hbase', parts, hparts, port, hport, basePort, hbasePort, _,
    ⟨⟨hscheme, hhostname⟩, hports⟩, hurl⟩ := h
  obtain rfl : base = base' := Except.ok.inj (hbase.symm.trans hbase')
  obtain rfl := Except.ok.inj hurl
  refine ⟨own, parts, basePort, port, hown, hparts, hserver.port.symm.trans hbasePort, hport,
    hscheme.trans hserver.scheme, hhostname.trans hserver.hostname, ?_⟩
  unfold portOf
  rw [hscheme, hserver.scheme, hports]

end origin

/-- **The requests of an action stay on the approved origin exactly when no redirect that is followed
leaves it.** -/
theorem live_requests_iff {lib : LiveUrls} {runtime : CampaignTargetRuntime}
    {upper : String → String} {action : CampaignAction} {responses : List Response}
    {urls : List String} (hruntime : runtime.postInit lib upper = .ok ())
    (hlib : KeepsServer lib runtime)
    (hurls : executorRequests lib runtime action responses = .ok urls) :
    (∀ url ∈ urls, OnOrigin lib runtime url) ↔
      StaysHome lib runtime [] (lib.urljoin runtime.normalizedBaseUrl action.path) responses := by
  simp only [executorRequests, bind_eq_ok] at hurls
  obtain ⟨_, -, url, hurl, hurls⟩ := hurls
  obtain rfl := Except.ok.inj hurls
  have hfirst := sameOriginUrl_onOrigin hruntime hlib hurl
  have hjoined : lib.urljoin runtime.normalizedBaseUrl action.path = url := by
    simp only [sameOriginUrl, bind_eq_ok] at hurl
    obtain ⟨_, -, _, -, _, -, _, -, _, -, h⟩ := hurl
    exact Except.ok.inj h
  rw [requests_onOrigin, hjoined]
  exact ⟨fun h => h.2, fun h => ⟨hfirst, h⟩⟩

/-! ### A redirect to another server -/

/-- A library that reads the URLs of two servers. -/
def twoServers : LiveUrls where
  urlsplit url :=
    if "http://localhost:3000".toList.isPrefixOf url.toList then
      .ok { scheme := "http", hostname := some "localhost", port := .ok (some 3000) }
    else if url = "http://example.org/" then
      .ok { scheme := "http", hostname := some "example.org" }
    else .ok { scheme := "" }
  urljoin _ reference :=
    if "/".toList.isPrefixOf reference.toList then "http://localhost:3000" ++ reference
    else reference
  netloc _ := ""
  path url := url
  requote url := url

/-- The runtime of a local target. -/
def localRuntime : CampaignTargetRuntime where
  targetAlias := "local-target"
  baseUrl := "http://localhost:3000"
  authorizationReference := "authorization-1"
  networkExposure := "loopback-only"
  implementedLiveTarget := true
  resetRequiredBeforeCampaign := true
  safePaths := ["/"]

/-- The target answers with a redirect to another server, which answers. -/
def awayResponses : List Response :=
  [{ status := 302, location := some "http://example.org/" }, { status := 200 }]

theorem localRuntime_constructed : localRuntime.postInit twoServers id = .ok () := by
  decide

theorem localRuntime_keepsServer : KeepsServer twoServers localRuntime := by
  intro parts hparts _
  have hsplit : twoServers.urlsplit localRuntime.baseUrl =
    .ok { scheme := "http", hostname := some "localhost", port := .ok (some 3000) } := by rfl
  obtain rfl := Except.ok.inj (hsplit.symm.trans hparts)
  exact ⟨_, rfl, ⟨rfl, rfl, rfl, rfl, rfl⟩⟩

theorem awayRequests : executorRequests twoServers localRuntime ⟨"GET", "/"⟩ awayResponses =
    .ok ["http://localhost:3000/", "http://example.org/"] := by
  decide

/-- **A redirect to another server is followed.** -/
theorem redirected_away : ¬ ∀ (lib : LiveUrls) (runtime : CampaignTargetRuntime)
    (upper : String → String) (action : CampaignAction) (responses : List Response)
    (urls : List String), runtime.postInit lib upper = .ok () → KeepsServer lib runtime →
    executorRequests lib runtime action responses = .ok urls →
    ∀ url ∈ urls, OnOrigin lib runtime url := by
  intro hclaim
  have hon := hclaim twoServers localRuntime id ⟨"GET", "/"⟩ awayResponses _ localRuntime_constructed
    localRuntime_keepsServer awayRequests "http://example.org/" (by simp)
  obtain ⟨own, parts, _, _, hown, hparts, -, -, -, hhost, -⟩ := hon
  obtain rfl := Except.ok.inj hown
  obtain rfl := Except.ok.inj hparts
  exact absurd hhost (by decide)

/-- The two requests stay on the origin exactly if the redirect does. -/
theorem live_requests_iff_away :
    (∀ url ∈ ["http://localhost:3000/", "http://example.org/"],
        OnOrigin twoServers localRuntime url) ↔
      StaysHome twoServers localRuntime []
        (twoServers.urljoin localRuntime.normalizedBaseUrl "/") awayResponses :=
  live_requests_iff localRuntime_constructed localRuntime_keepsServer awayRequests

end Aotp.Wstg
