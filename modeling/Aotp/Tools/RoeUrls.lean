import Aotp.Tools.Ledger

/-!
# What the rules of engagement contain a URL to

* `RulesOfEngagement.postInit` — the checks of the constructor.
* `UrlLibrary`, `wellKnownUrls` — `urljoin` next to `urlsplit`, and the URLs that are derived from an
  allowed one.
* `SameServer`, `JoinsAt` — what the library is relied on for at one URL.
* `allowsUrl_eq_none` — what an allowed URL is; it depends on the server, the query and the fragment
  alone.
* `contained_iff` — **an allowed URL is within the rules exactly where it does not name port 0**, or
  no port is restricted.
-/

namespace Aotp.Tools

open PyData

/-! ### The constructor -/

/-- Source: `roe._is_single_host` -/
def isSingleHost (host : String) : Bool :=
  host != "" && host.toList.all fun c => !(['/', '*', ' ', '\t', '\n', '\r'].contains c)

/-- A failed check of the constructor. -/
def roeError (message : String) : Exc := .custom "RulesOfEngagementError" message

/-- Ports are natural numbers and tiers have been read by their types.
Source: `roe.RulesOfEngagement.__post_init__` -/
def RulesOfEngagement.postInit (roe : RulesOfEngagement) (authorizationReference : String)
    (operatorApproved : Bool) : Except Exc Unit := do
  guardE (roe.campaignId != "" && roe.targetAlias != "")
    (roeError "campaign_id and target_alias are required")
  guardE (strip authorizationReference != "") (roeError "authorization_reference is required")
  guardE operatorApproved (roeError "operator approval is required before tool use")
  guardE (!roe.allowedToolNames.isEmpty) (roeError "at least one native tool must be allowed")
  guardE (!roe.allowedRiskTiers.isEmpty)
    (roeError "at least one native tool risk tier must be allowed")
  guardE (!roe.allowedHosts.isEmpty) (roeError "at least one scoped host must be allowed")
  guardE (roe.allowedPorts.all fun port => decide (1 ≤ port) && decide (port ≤ 65535))
    (roeError "allowed ports must be integers from 1 to 65535")
  guardE (roe.allowedHosts.all isSingleHost) (roeError "allowed hosts must be exact single hosts")
  guardE (roe.allowedSchemes.all fun scheme => ["http", "https"].contains scheme)
    (roeError "allowed schemes must be http or https")
  guardE (roe.evidenceClassifications.all fun c => ["public", "restricted", "secret"].contains c)
    (roeError "unsupported evidence classification")

/-! ### Derived URLs -/

/-- `urllib.parse`, as the tools use it. -/
structure UrlLibrary extends Urls where
  urljoin : String → String → String

/-- The URL a tool is given.
Source: `http_metadata._validate_url` -/
def validateUrl (urls : Urls) (value : String) : Except Exc String := do
  let parsed ← urls.urlsplit value
  guardE (["http", "https"].contains parsed.scheme && parsed.hostname.any (· != "") &&
      parsed.username.isNone && parsed.password.isNone && parsed.query == "" &&
      parsed.fragment == "")
    (.custom "NativeToolError"
      "HTTP metadata URL must be credential-free HTTP or HTTPS without query or fragment")
  pure value

/-- The paths a server is asked for. -/
def wellKnownPaths : List String := ["robots.txt", ".well-known/security.txt"]

/-- `base_url.rstrip("/") + "/"`. -/
def originOf (baseUrl : String) : String := rstripChar '/' baseUrl ++ "/"

/-- The URLs that are fetched for a base URL.
Source: `http_metadata.fetch_well_known_metadata` -/
def wellKnownUrls (lib : UrlLibrary) (baseUrl : String) : Except Exc (List String) := do
  let url ← validateUrl lib.toUrls baseUrl
  pure (wellKnownPaths.map (lib.urljoin (originOf url)))

/-- Two URLs name the same server in the same way. -/
structure SameServer (a b : SplitUrl) : Prop where
  scheme : b.scheme = a.scheme
  hostname : b.hostname = a.hostname
  port : b.port = a.port
  username : b.username = a.username
  password : b.password = a.password

/-- What the library is relied on for at a URL with a host: a slash behind it leaves the server alone,
and so does joining a plain relative path, which drops query and fragment.
Source: `urllib.parse.urljoin`, its documentation -/
structure UrlLibrary.JoinsAt (lib : UrlLibrary) (url : String) : Prop where
  slash : ∀ parts, lib.urlsplit url = .ok parts → parts.hostname.any (· != "") = true →
    ∃ parts', lib.urlsplit (originOf url) = .ok parts' ∧ SameServer parts parts'
  join : ∀ parts, lib.urlsplit (originOf url) = .ok parts → parts.hostname.any (· != "") = true →
    parts.scheme = "http" ∨ parts.scheme = "https" → ∀ path ∈ wellKnownPaths, ∃ parts',
      lib.urlsplit (lib.urljoin (originOf url) path) = .ok parts' ∧ SameServer parts parts' ∧
        parts'.query = "" ∧ parts'.fragment = ""

section allowed

variable {rt : Runtime} {urls : Urls} {roe : RulesOfEngagement} {url : String} {parts : SplitUrl}

/-- The port a URL is reached at: the default one of its scheme when it names none, or names 0. -/
def effectivePort (parts : SplitUrl) (port : Option ℕ) : ℕ :=
  RulesOfEngagement.portOr (if parts.scheme = "https" then 443 else 80) port

theorem allowsPort_eq_true {port : ℕ} :
    roe.allowsPort port = true ↔ roe.allowedPorts = [] ∨ port ∈ roe.allowedPorts := by
  simp only [RulesOfEngagement.allowsPort, Bool.or_eq_true, List.isEmpty_iff, List.any_eq_true,
    decide_eq_true_eq, Int.natCast_inj, exists_eq_right]

/-- **What an allowed URL is.** -/
structure AllowedUrl (rt : Runtime) (roe : RulesOfEngagement) (parts : SplitUrl) : Prop where
  scheme : parts.scheme ∈ roe.allowedSchemes
  hostname : roe.allowsHostname rt parts.hostname = true
  port : ∃ port, parts.port = .ok port ∧ roe.allowsPort (effectivePort parts port) = true
  noCredentials : parts.username = none ∧ parts.password = none
  noQuery : parts.query = "" ∧ parts.fragment = ""

theorem allowsUrl_eq_none :
    roe.allowsUrl rt urls url = .ok none ↔ ∃ parts, urls.urlsplit url = .ok parts ∧
      AllowedUrl rt roe parts := by
  unfold RulesOfEngagement.allowsUrl
  cases hsplit : urls.urlsplit url with
  | error e =>
    simp only [bind, Except.bind]
    exact ⟨nofun, fun ⟨_, h, _⟩ => nomatch h⟩
  | ok parts =>
    have hport : ∀ port, effectivePort parts port =
      RulesOfEngagement.portOr (if parts.scheme = "https" then 443 else 80) port := fun _ => rfl
    simp only [bind, Except.bind, Except.ok.injEq, exists_eq_left', pure, Except.pure]
    by_cases hscheme : parts.scheme ∈ roe.allowedSchemes
    · by_cases hhost : roe.allowsHostname rt parts.hostname = true
      · cases hp : parts.port with
        | error e =>
          simp only [hscheme, hhost, decide_true, Bool.not_true, Bool.false_eq_true, if_false]
          exact ⟨nofun, fun h => by obtain ⟨port, hport, -⟩ := h.port; rw [hp] at hport; cases hport⟩
        | ok port =>
          simp only [hscheme, hhost, decide_true, Bool.not_true, Bool.false_eq_true, if_false]
          rw [← hport port]
          constructor
          · intro h
            have hallowed : roe.allowsPort (effectivePort parts port) = true := by
              by_contra hnot
              rw [Bool.not_eq_true] at hnot
              rw [hnot] at h
              cases h
            simp only [hallowed, Bool.not_true, Bool.false_eq_true, if_false] at h
            have hcredentials : parts.username = none ∧ parts.password = none := by
              by_contra hnot
              rw [not_and_or, ← ne_eq, ← ne_eq, Option.ne_none_iff_isSome,
                Option.ne_none_iff_isSome, ← Bool.or_eq_true] at hnot
              rw [if_pos hnot] at h
              cases h
            rw [hcredentials.1, hcredentials.2] at h
            refine ⟨hscheme, hhost, ⟨port, hp, hallowed⟩, hcredentials, ?_⟩
            by_contra hnot
            rw [not_and_or, ← ne_eq, ← ne_eq, ← bne_iff_ne, ← bne_iff_ne, ← Bool.or_eq_true] at hnot
            simp [hnot] at h
          · intro h
            obtain ⟨port', hport', hallowed⟩ := h.port
            obtain rfl := Except.ok.inj (hp.symm.trans hport')
            simp [hallowed, h.noCredentials, h.noQuery]
      · simp only [hscheme, hhost, decide_true, Bool.not_true, Bool.false_eq_true, if_false,
          Bool.not_false, if_true]
        exact ⟨nofun, fun h => absurd h.hostname hhost⟩
    · simp only [hscheme, decide_false, Bool.not_false, if_true]
      exact ⟨nofun, fun h => absurd h.scheme hscheme⟩

/-- Naming the same server is all that matters, once query and fragment are gone. -/
theorem AllowedUrl.sameServer (h : AllowedUrl rt roe parts) {parts' : SplitUrl}
    (hsame : SameServer parts parts') (hquery : parts'.query = "" ∧ parts'.fragment = "") :
    AllowedUrl rt roe parts' := by
  have heffective : ∀ port, effectivePort parts' port = effectivePort parts port := by
    intro port
    unfold effectivePort
    rw [hsame.scheme]
  refine ⟨hsame.scheme ▸ h.scheme, hsame.hostname ▸ h.hostname, ?_, ?_, hquery⟩
  · obtain ⟨port, hport, hallowed⟩ := h.port
    exact ⟨port, hsame.port.trans hport, by rw [heffective]; exact hallowed⟩
  · exact ⟨hsame.username.trans h.noCredentials.1, hsame.password.trans h.noCredentials.2⟩

theorem AllowedUrl.host_ne_empty (h : AllowedUrl rt roe parts) :
    parts.hostname.any (· != "") = true := by
  have hhost := h.hostname
  unfold RulesOfEngagement.allowsHostname at hhost
  cases hname : parts.hostname with
  | none =>
    rw [hname] at hhost
    cases hhost
  | some name =>
    rw [hname, Option.any_some, Bool.and_eq_true] at hhost
    exact hhost.1

end allowed

/-! ### Containment -/

section contained

variable {rt : Runtime} {roe : RulesOfEngagement} {url reference : String} {approved : Bool}
  {lib : UrlLibrary} {parts : SplitUrl}

/-- **A URL is within the rules**: its scheme, its host and the port it names are allowed, it carries
nothing else, and what is derived from it is allowed as well. -/
structure Contained (rt : Runtime) (lib : UrlLibrary) (roe : RulesOfEngagement) (url : String)
    (parts : SplitUrl) : Prop where
  scheme : parts.scheme ∈ roe.allowedSchemes
  host : ∃ host, parts.hostname = some host ∧ ∃ allowed ∈ roe.allowedHosts,
    RulesOfEngagement.normalHost rt host = RulesOfEngagement.normalHost rt allowed
  port : roe.allowedPorts ≠ [] → ∃ port, parts.port = .ok port ∧
    port.getD (if parts.scheme = "https" then 443 else 80) ∈ roe.allowedPorts
  bare : parts.username = none ∧ parts.password = none ∧ parts.query = "" ∧ parts.fragment = ""
  derived : ∃ derived, wellKnownUrls lib url = .ok derived ∧
    ∀ url' ∈ derived, roe.allowsUrl rt lib.toUrls url' = .ok none

/-- The constructor's checks that matter to a URL. -/
theorem postInit_spec (h : roe.postInit reference approved = .ok ()) :
    (∀ port ∈ roe.allowedPorts, 1 ≤ port) ∧
      ∀ scheme ∈ roe.allowedSchemes, scheme = "http" ∨ scheme = "https" := by
  simp only [RulesOfEngagement.postInit, bind_eq_ok, guardE_eq_ok] at h
  obtain ⟨-, -, -, -, -, -, -, -, -, -, -, -, -, hports, -, -, -, hschemes, -⟩ := h
  rw [List.all_eq_true] at hports hschemes
  refine ⟨fun port hport => ?_, fun scheme hscheme => ?_⟩
  · have hrange := hports port hport
    rw [Bool.and_eq_true] at hrange
    exact of_decide_eq_true hrange.1
  · simpa using hschemes scheme hscheme

/-- The URLs that are derived from an allowed one are allowed. -/
theorem AllowedUrl.derived (h : AllowedUrl rt roe parts) (hlib : lib.JoinsAt url)
    (hsplit : lib.urlsplit url = .ok parts)
    (hschemes : ∀ scheme ∈ roe.allowedSchemes, scheme = "http" ∨ scheme = "https") :
    ∃ derived, wellKnownUrls lib url = .ok derived ∧
      ∀ url' ∈ derived, roe.allowsUrl rt lib.toUrls url' = .ok none := by
  have hscheme := hschemes _ h.scheme
  have hvalid : validateUrl lib.toUrls url = .ok url := by
    unfold validateUrl
    rw [hsplit]
    simp [bind, Except.bind, guardE, pure, Except.pure, hscheme, h.host_ne_empty, h.noCredentials,
      h.noQuery]
  refine ⟨wellKnownPaths.map (lib.urljoin (originOf url)), ?_, ?_⟩
  · rw [wellKnownUrls, hvalid]
    rfl
  intro url' hurl'
  obtain ⟨path, hpath, rfl⟩ := List.mem_map.1 hurl'
  obtain ⟨origin, horigin, hsame⟩ := hlib.slash parts hsplit h.host_ne_empty
  have hhost : origin.hostname.any (· != "") = true := by
    rw [hsame.hostname]
    exact h.host_ne_empty
  obtain ⟨parts', hjoined, hsame', hquery⟩ :=
    hlib.join origin horigin hhost (hsame.scheme ▸ hscheme) path hpath
  have hserver : SameServer parts parts' :=
    ⟨hsame'.scheme.trans hsame.scheme, hsame'.hostname.trans hsame.hostname,
      hsame'.port.trans hsame.port, hsame'.username.trans hsame.username,
      hsame'.password.trans hsame.password⟩
  exact allowsUrl_eq_none.mpr ⟨parts', hjoined, h.sameServer hserver hquery⟩

end contained

/-- **An allowed URL is within the rules exactly where it does not name port 0**, or no port is
restricted: port 0 is taken for no port at all. -/
theorem contained_iff (rt : Runtime) (lib : UrlLibrary) {roe : RulesOfEngagement}
    {url reference : String} {approved : Bool} {parts : SplitUrl}
    (hroe : roe.postInit reference approved = .ok ()) (hlib : lib.JoinsAt url)
    (hsplit : lib.urlsplit url = .ok parts) (hallowed : roe.allowsUrl rt lib.toUrls url = .ok none) :
    Contained rt lib roe url parts ↔ parts.port ≠ .ok (some 0) ∨ roe.allowedPorts = [] := by
  obtain ⟨hports, hschemes⟩ := postInit_spec hroe
  obtain ⟨parts', hsplit', h⟩ := allowsUrl_eq_none.mp hallowed
  obtain rfl : parts = parts' := Except.ok.inj (hsplit.symm.trans hsplit')
  obtain ⟨port, hport, hinside⟩ := h.port
  constructor
  · intro hcontained
    by_contra hnot
    rw [not_or, not_not] at hnot
    obtain ⟨port', hport', hmem⟩ := hcontained.port hnot.2
    obtain rfl := Except.ok.inj (hnot.1.symm.trans hport')
    exact absurd (hports 0 hmem) (by decide)
  · intro hcond
    refine ⟨h.scheme, ?_, fun hrestricted => ⟨port, hport, ?_⟩,
      ⟨h.noCredentials.1, h.noCredentials.2, h.noQuery⟩, h.derived hlib hsplit hschemes⟩
    · have hhost := h.hostname
      unfold RulesOfEngagement.allowsHostname at hhost
      obtain ⟨host, hname, hhost⟩ := (Option.any_eq_true _ _).mp hhost
      rw [Bool.and_eq_true] at hhost
      have hlisted := of_decide_eq_true hhost.2
      obtain ⟨allowed, hmem, hsame⟩ := List.mem_map.1 hlisted
      exact ⟨host, hname, allowed, hmem, hsame.symm⟩
    · have hnonzero : port ≠ some 0 := by
        rintro rfl
        exact hcond.elim (fun hne => hne hport) hrestricted
      have heffective : effectivePort parts port =
          port.getD (if parts.scheme = "https" then 443 else 80) := by
        rcases port with _ | _ | port
        · rfl
        · exact absurd rfl hnonzero
        · rfl
      rw [heffective] at hinside
      exact (allowsPort_eq_true.mp hinside).resolve_left hrestricted

/-! ### A URL that names port 0 -/

/-- A library that reads the URLs of one server, as it names port 0. -/
def portZeroLibrary : UrlLibrary where
  urlsplit url :=
    if "https://example.com:0/".toList.isPrefixOf url.toList then
      .ok { scheme := "https", hostname := some "example.com", port := .ok (some 0) }
    else .error (.valueError "not a URL of the server")
  urljoin base path := base ++ path

/-- Rules of engagement for the default port of the server. -/
def httpsOnlyRoe : RulesOfEngagement where
  campaignId := "campaign-1"
  targetAlias := "target-1"
  allowedToolNames := ["well_known_text"]
  allowedRiskTiers := [.passiveMetadata]
  allowedHosts := ["example.com"]
  allowedPorts := [443]

theorem httpsOnly_constructed : httpsOnlyRoe.postInit "authorization-1" true = .ok () := by
  decide

theorem portZero_joinsAt : portZeroLibrary.JoinsAt "https://example.com:0/" := by
  have horigin : originOf "https://example.com:0/" = "https://example.com:0/" := by decide
  refine ⟨fun parts hparts _ => ⟨parts, by rw [horigin, hparts], ⟨rfl, rfl, rfl, rfl, rfl⟩⟩, ?_⟩
  intro parts hparts _ _ path hpath
  rw [horigin] at hparts ⊢
  have hsplit : portZeroLibrary.urlsplit "https://example.com:0/" =
    .ok { scheme := "https", hostname := some "example.com", port := .ok (some 0) } := by rfl
  obtain rfl := Except.ok.inj (hsplit.symm.trans hparts)
  refine ⟨_, ?_, ⟨rfl, rfl, rfl, rfl, rfl⟩, rfl, rfl⟩
  simp only [wellKnownPaths, List.mem_cons, List.not_mem_nil, or_false] at hpath
  rcases hpath with rfl | rfl <;> rfl

theorem portZero_allowed : httpsOnlyRoe.allowsUrl sampleRuntime portZeroLibrary.toUrls
    "https://example.com:0/" = .ok none := by
  decide

/-- **A URL that names port 0 is allowed** where only port 443 is. -/
theorem portZero_uncontained : ¬ ∀ (rt : Runtime) (lib : UrlLibrary) (roe : RulesOfEngagement)
    (url reference : String) (approved : Bool) (parts : SplitUrl),
    roe.postInit reference approved = .ok () → lib.JoinsAt url → lib.urlsplit url = .ok parts →
    roe.allowsUrl rt lib.toUrls url = .ok none → Contained rt lib roe url parts := by
  intro hclaim
  have hcontained := hclaim sampleRuntime portZeroLibrary httpsOnlyRoe "https://example.com:0/"
    "authorization-1" true _ httpsOnly_constructed portZero_joinsAt rfl portZero_allowed
  obtain ⟨port, hport, hmem⟩ := hcontained.port (List.cons_ne_nil _ _)
  obtain rfl := Except.ok.inj hport
  exact absurd hmem (by decide)

/-- The URL is within the rules exactly if it does not name port 0. -/
theorem contained_iff_portZero :
    Contained sampleRuntime portZeroLibrary httpsOnlyRoe "https://example.com:0/"
        { scheme := "https", hostname := some "example.com", port := .ok (some 0) } ↔
      (.ok (some 0) : Except Exc (Option ℕ)) ≠ .ok (some 0) ∨ httpsOnlyRoe.allowedPorts = [] :=
  contained_iff sampleRuntime portZeroLibrary httpsOnly_constructed portZero_joinsAt rfl
    portZero_allowed

end Aotp.Tools
