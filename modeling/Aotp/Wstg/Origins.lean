import Aotp.Agentic.Proposals
import Aotp.Gate.Complaints
import Aotp.Wstg.EnginePlan
import Aotp.Wstg.LiveRequests

/-!
# The origins of campaigns

* `OriginOwner` — the four classes that hold a base URL and give its origin.
* `OriginOwner.postInit`, `OriginOwner.checkBase`, `OriginOwner.origin` — their constructors, the
  part of these that reads the base URL, and their origins.
* `OriginHolds` — an accepted base URL is given back by its origin, and a refused one is refused with
  the error of the class.
* `originHolds_iff` — **that holds exactly where the base URL can be split, and, once it is accepted,
  its port can be read and is not 0 and its host holds no colon and no opening bracket**.
-/

namespace Aotp.Wstg

open PyData Aotp.Tools Aotp.Agentic
open Aotp.Gate (Raises)

/-! ### Four classes -/

/-- Source: `target_runtime.CampaignTargetRuntime.origin` -/
def CampaignTargetRuntime.origin (urls : Urls) (runtime : CampaignTargetRuntime) :
    Except Exc String := webOrigin urls runtime.baseUrl

/-- Source: `model_proposal_gate.AgentCampaignPolicy.origin` -/
def policyOrigin (urls : Urls) (policy : AgentCampaignPolicy) : Except Exc String :=
  webOrigin urls policy.baseUrl

/-- What the constructors consult besides `urlsplit`. -/
structure OriginLibrary where
  hosts : HostLibrary
  runtime : Runtime
  upper : String → String
  urljoin : String → String → String
  requote : String → String

namespace OriginLibrary

variable (lib : OriginLibrary)

/-- `urlsplit`. -/
def urls : Urls := splitUrls lib.hosts

/-- `urlsplit`, with the path. -/
def pathUrls : PathUrls where
  urlsplit := lib.urls.urlsplit
  path url := match PyData.urlsplit lib.hosts url with
    | .ok parts => String.ofList parts.path
    | .error _ => ""

/-- `urllib.parse`, as live campaigns use it. -/
def liveUrls : LiveUrls where
  urlsplit := lib.urls.urlsplit
  urljoin := lib.urljoin
  netloc url := match PyData.urlsplit lib.hosts url with
    | .ok parts => String.ofList parts.netloc
    | .error _ => ""
  path := lib.pathUrls.path
  requote := lib.requote

end OriginLibrary

/-- A value of one of the four classes, before its construction is checked. -/
inductive OriginOwner where
  | scope (scope : WSTGCampaignScope)
  | profile (profile : WSTGEngineProfile)
  | runtime (runtime : CampaignTargetRuntime)
  | policy (policy : AgentCampaignPolicy)

namespace OriginOwner

variable (lib : OriginLibrary)

def baseUrl : OriginOwner → String
  | scope s => s.baseUrl
  | profile p => p.baseUrl
  | runtime r => r.baseUrl
  | policy p => p.baseUrl

/-- The error of a class. -/
def error : OriginOwner → String → Exc
  | scope _ => objectiveError
  | profile _ => engineError
  | runtime _ => targetRuntimeError
  | policy _ => policyError

/-- The constructor. -/
def postInit : OriginOwner → Except Exc Unit
  | scope s => s.postInit lib.urls
  | profile p => p.postInit lib.urls
  | runtime r => r.postInit lib.liveUrls lib.upper
  | policy p => p.postInit lib.runtime lib.pathUrls

/-- The origin. -/
def origin : OriginOwner → Except Exc String
  | scope s => s.origin lib.urls
  | profile p => p.origin lib.urls
  | runtime r => r.origin lib.urls
  | policy p => policyOrigin lib.urls p

/-- The identifiers, which a constructor looks at first. -/
def identifiers : OriginOwner → Except Exc Unit
  | scope s => do
    guardE (isAlias s.campaignId.toList)
      (objectiveError "campaign_id must be a safe lowercase identifier")
    guardE (isAlias s.targetAlias.toList)
      (objectiveError "target_alias must be a safe lowercase identifier")
  | profile p => do
    guardE (isAlias p.campaignId.toList)
      (engineError "campaign_id must be a safe lowercase identifier")
    guardE (isAlias p.targetAlias.toList)
      (engineError "target_alias must be a safe lowercase identifier")
  | runtime r => guardE (safeComponent r.targetAlias.toList)
      (targetRuntimeError "target_alias must be a safe lowercase identifier")
  | policy p => requireIdentifiers [("campaign_id", p.campaignId), ("program_alias", p.programAlias),
      ("target_alias", p.targetAlias)]

/-- What a constructor asks of the parts of a base URL. -/
def checkParts (owner : OriginOwner) (parsed : SplitUrl) : Except Exc Unit :=
  match owner with
  | policy p => guardE (isOrigin lib.pathUrls p.baseUrl parsed)
      (policyError "Sprint 14 base_url must be an origin-only HTTPS URL without credentials")
  | _ => checkWebUrl owner.error parsed

/-- The constructor as far as the base URL. -/
def checkBase (owner : OriginOwner) : Except Exc SplitUrl := do
  owner.identifiers
  let parsed ← lib.urls.urlsplit owner.baseUrl
  owner.checkParts lib parsed
  pure parsed

end OriginOwner

variable {lib : OriginLibrary} {owner : OriginOwner} {parsed : SplitUrl}

/-- **A constructor checks the base URL first**, and then the rest. -/
theorem postInit_eq_checkBase (lib : OriginLibrary) (owner : OriginOwner) :
    ∃ rest : SplitUrl → Except Exc Unit, owner.postInit lib = owner.checkBase lib >>= rest := by
  cases owner with
  | scope s =>
    refine ⟨?scopeRest, ?eq⟩
    case eq =>
      simp only [OriginOwner.postInit, OriginOwner.checkBase, OriginOwner.identifiers,
        OriginOwner.checkParts, OriginOwner.error, OriginOwner.baseUrl, checkWebUrl,
        WSTGCampaignScope.postInit, bind_assoc, pure_bind]
      rfl
  | profile p =>
    refine ⟨?profileRest, ?eq⟩
    case eq =>
      simp only [OriginOwner.postInit, OriginOwner.checkBase, OriginOwner.identifiers,
        OriginOwner.checkParts, OriginOwner.error, OriginOwner.baseUrl, checkWebUrl,
        WSTGEngineProfile.postInit, bind_assoc, pure_bind]
      rfl
  | runtime r =>
    refine ⟨?runtimeRest, ?eq⟩
    case eq =>
      simp only [OriginOwner.postInit, OriginOwner.checkBase, OriginOwner.identifiers,
        OriginOwner.checkParts, OriginOwner.error, OriginOwner.baseUrl, checkWebUrl,
        CampaignTargetRuntime.postInit, List.contains_eq_mem, bind_assoc, pure_bind]
      rfl
  | policy p =>
    refine ⟨?policyRest, ?eq⟩
    case eq =>
      simp only [OriginOwner.postInit, OriginOwner.checkBase, OriginOwner.identifiers,
        OriginOwner.checkParts, OriginOwner.baseUrl, AgentCampaignPolicy.postInit, bind_assoc,
        pure_bind]
      rfl

/-- What is refused for its base URL is refused. -/
theorem postInit_of_checkBase_error {e : Exc} (h : owner.checkBase lib = .error e) :
    owner.postInit lib = .error e := by
  obtain ⟨rest, heq⟩ := postInit_eq_checkBase lib owner
  rw [heq, h]
  rfl

theorem origin_eq_webOrigin (lib : OriginLibrary) (owner : OriginOwner) :
    owner.origin lib = webOrigin lib.urls owner.baseUrl := by
  cases owner <;> rfl

/-- What is accepted of the parts of a base URL is a web URL. -/
theorem webUrl_of_checkParts (h : owner.checkParts lib parsed = .ok ()) : WebUrl parsed := by
  have hweb : ∀ error, checkWebUrl error parsed = .ok () → WebUrl parsed := by
    intro error hcheck
    simp only [checkWebUrl, bind_eq_ok, guardE_eq_ok, Bool.and_eq_true, decide_eq_true_eq,
      List.mem_cons, List.not_mem_nil, or_false] at hcheck
    obtain ⟨-, ⟨hscheme, hname⟩, -, ⟨huser, -⟩, -⟩ := hcheck
    exact ⟨hscheme, hname, Option.isNone_iff_eq_none.mp huser⟩
  cases owner with
  | scope s => exact hweb _ h
  | profile p => exact hweb _ h
  | runtime r => exact hweb _ h
  | policy p =>
    have horigin := guardE_eq_ok.mp h
    simp only [isOrigin, Bool.and_eq_true, beq_iff_eq] at horigin
    obtain ⟨⟨⟨⟨⟨⟨hscheme, hname⟩, huser⟩, -⟩, -⟩, -⟩, -⟩ := horigin
    exact ⟨.inr hscheme, hname, Option.isNone_iff_eq_none.mp huser⟩

theorem checkBase_eq_ok : owner.checkBase lib = .ok parsed ↔ owner.identifiers = .ok () ∧
    lib.urls.urlsplit owner.baseUrl = .ok parsed ∧ owner.checkParts lib parsed = .ok () := by
  simp only [OriginOwner.checkBase, bind_eq_ok, pure, Except.pure, Except.ok.injEq]
  constructor
  · rintro ⟨⟨⟩, hids, parsed', hsplit, ⟨⟩, hparts, rfl⟩
    exact ⟨hids, hsplit, hparts⟩
  · rintro ⟨hids, hsplit, hparts⟩
    exact ⟨(), hids, parsed, hsplit, (), hparts, rfl⟩

/-- **The base URL of an accepted value** is a web URL. -/
theorem webUrl_of_postInit (h : owner.postInit lib = .ok ()) :
    ∃ parsed, lib.urls.urlsplit owner.baseUrl = .ok parsed ∧ WebUrl parsed := by
  obtain ⟨rest, heq⟩ := postInit_eq_checkBase lib owner
  rw [heq] at h
  obtain ⟨parsed, hbase, -⟩ := bind_eq_ok.mp h
  obtain ⟨-, hsplit, hparts⟩ := checkBase_eq_ok.mp hbase
  exact ⟨parsed, hsplit, webUrl_of_checkParts hparts⟩

/-! ### Errors -/

/-- An error of the class itself. -/
def OriginOwner.Own (owner : OriginOwner) (e : Exc) : Prop := ∃ msg, e = owner.error msg

theorem error_ne_valueError (owner : OriginOwner) (msg text : String) :
    owner.error msg ≠ .valueError text := by
  cases owner <;> exact nofun

theorem raises_identifiers (owner : OriginOwner) : Raises owner.Own owner.identifiers := by
  cases owner with
  | scope s => exact .bind (.guardE _ ⟨_, rfl⟩) fun _ => .guardE _ ⟨_, rfl⟩
  | profile p => exact .bind (.guardE _ ⟨_, rfl⟩) fun _ => .guardE _ ⟨_, rfl⟩
  | runtime r => exact .guardE _ ⟨_, rfl⟩
  | policy p =>
    exact .bind (.guardE _ ⟨_, rfl⟩) fun _ => .bind (.guardE _ ⟨_, rfl⟩) fun _ =>
      .bind (.guardE _ ⟨_, rfl⟩) fun _ => .pure ()

theorem raises_checkParts (owner : OriginOwner) (parsed : SplitUrl) :
    Raises owner.Own (owner.checkParts lib parsed) := by
  have hweb : ∀ {P : Exc → Prop} (error : String → Exc), (∀ msg, P (error msg)) →
      Raises P (checkWebUrl error parsed) := fun error h =>
    .bind (.guardE _ (h _)) fun _ => .bind (.guardE _ (h _)) fun _ => .guardE _ (h _)
  cases owner with
  | policy p => exact .guardE _ ⟨_, rfl⟩
  | scope s => exact hweb _ fun msg => ⟨msg, rfl⟩
  | profile p => exact hweb _ fun msg => ⟨msg, rfl⟩
  | runtime r => exact hweb _ fun msg => ⟨msg, rfl⟩

/-- **Splitting a URL raises a plain `ValueError`** and nothing else. -/
theorem raises_urlsplit (hosts : HostLibrary) (url : String) :
    Raises (fun e => ∃ text, e = .valueError text) ((splitUrls hosts).urlsplit url) := by
  have hbrackets : ∀ netloc, Raises (fun e => ∃ text, e = .valueError text)
      (checkBrackets hosts netloc) := by
    intro netloc
    refine .bind (.guardE _ ⟨_, rfl⟩) fun _ => ?_
    split
    · unfold checkBracketedHost
      split
      · exact .guardE _ ⟨_, rfl⟩
      · exact .guardE _ ⟨_, rfl⟩
    · exact .pure ()
  refine .bind ?_ fun _ => .pure _
  exact .bind (hbrackets _) fun _ => .bind (.guardE _ ⟨_, rfl⟩) fun _ => .pure _

/-- **The errors about base URLs** are those of the class exactly where the URL can be split, once the
identifiers are in order. -/
theorem own_iff (lib : OriginLibrary) (owner : OriginOwner) :
    Raises owner.Own (owner.checkBase lib) ↔
      (owner.identifiers = .ok () → ∃ parsed, lib.urls.urlsplit owner.baseUrl = .ok parsed) := by
  constructor
  · intro howns hids
    cases hsplit : lib.urls.urlsplit owner.baseUrl with
    | ok parsed => exact ⟨parsed, rfl⟩
    | error e =>
      have hbase : owner.checkBase lib = .error e := by
        unfold OriginOwner.checkBase
        rw [hids, hsplit]
        rfl
      obtain ⟨msg, hmsg⟩ := howns e hbase
      obtain ⟨text, htext⟩ := raises_urlsplit lib.hosts owner.baseUrl e hsplit
      exact absurd (hmsg.symm.trans htext) (error_ne_valueError owner msg text)
  · intro hsplits
    cases hids : owner.identifiers with
    | error e =>
      intro e' he'
      unfold OriginOwner.checkBase at he'
      rw [hids] at he'
      cases he'
      exact raises_identifiers owner e hids
    | ok u =>
      obtain ⟨parsed, hsplit⟩ := hsplits hids
      unfold OriginOwner.checkBase
      rw [hids, hsplit]
      exact .bind (.pure u) fun _ => .bind (.pure parsed) fun parsed =>
        .bind (raises_checkParts owner parsed) fun _ => .pure parsed

/-! ### The round trip -/

/-- An accepted base URL is given back by its origin, and one that is refused is refused with the
error of the class. -/
structure OriginHolds (lib : OriginLibrary) (owner : OriginOwner) : Prop where
  gives : owner.postInit lib = .ok () → GivesBack lib.urls owner.baseUrl (owner.origin lib)
  refuses : Raises owner.Own (owner.checkBase lib)

/-- **The origins of the four classes.** -/
theorem originHolds_iff (hlib : lib.hosts.Lawful) (owner : OriginOwner) :
    OriginHolds lib owner ↔
      (owner.identifiers = .ok () → ∃ parsed, lib.urls.urlsplit owner.baseUrl = .ok parsed) ∧
      (owner.postInit lib = .ok () →
        ∀ parsed, lib.urls.urlsplit owner.baseUrl = .ok parsed → Restorable parsed) := by
  have hgives : (owner.postInit lib = .ok () →
      GivesBack lib.urls owner.baseUrl (owner.origin lib)) ↔
      (owner.postInit lib = .ok () →
        ∀ parsed, lib.urls.urlsplit owner.baseUrl = .ok parsed → Restorable parsed) := by
    refine imp_congr_right fun haccepted => ?_
    obtain ⟨parsed, hsplit, hweb⟩ := webUrl_of_postInit haccepted
    rw [origin_eq_webOrigin, OriginLibrary.urls, givesBack_iff hlib hsplit hweb]
    constructor
    · intro hrestorable parsed' hsplit'
      obtain rfl : parsed = parsed' := Except.ok.inj (hsplit.symm.trans hsplit')
      exact hrestorable
    · intro hall
      exact hall parsed hsplit
  constructor
  · rintro ⟨hback, howns⟩
    exact ⟨(own_iff lib owner).mp howns, hgives.mp hback⟩
  · rintro ⟨hsplits, hrestorable⟩
    exact ⟨hgives.mpr hrestorable, (own_iff lib owner).mpr hsplits⟩

theorem plainHosts_lawful : plainHosts.Lawful where
  lower_lower _ := rfl
  reserved _ _ hc _ := hc
  expanding _ _ _ hexpands := by simp [HostLibrary.expanding, plainHosts] at hexpands

/-- The library of the examples. -/
def plainOrigins : OriginLibrary where
  hosts := plainHosts
  runtime := sampleRuntime
  upper s := s
  urljoin base _ := base
  requote s := s

/-- A scope with a base URL. -/
def scopeOf (baseUrl : String) : WSTGCampaignScope where
  campaignId := "campaign-17"
  targetAlias := "owned-app"
  baseUrl := baseUrl
  authorizationReference := "authz-17"
  operatorApproved := true
  allowedPhases := [.passive]
  approvedFamilies := [.httpMetadata]

/-- The parts of a base URL with a port. -/
def portParts : SplitResult :=
  ⟨"http", "example.test:8080".toList, ['/', 'x'], [], []⟩

theorem portParts_split :
    PyData.urlsplit plainHosts "http://example.test:8080/x" = .ok portParts := by decide

/-- A host and a port are given back. -/
theorem originHolds_iff_plain :
    OriginHolds plainOrigins (.scope (scopeOf "http://example.test:8080/x")) := by
  have hsplit : plainOrigins.urls.urlsplit "http://example.test:8080/x" =
      .ok (toSplitUrl plainHosts portParts) := splitUrls_eq_ok.mpr ⟨portParts, portParts_split, rfl⟩
  have hport : portParts.port plainHosts = .ok (some 8080) := by decide
  have hhost : portParts.hostname plainHosts = some "example.test" := by decide
  refine (originHolds_iff plainHosts_lawful _).mpr ⟨fun _ => ⟨_, hsplit⟩, fun _ parsed hparsed => ?_⟩
  obtain rfl := Except.ok.inj (hsplit.symm.trans hparsed)
  refine ⟨⟨some 8080, hport, by decide⟩, fun host hsome => ?_⟩
  obtain rfl := Option.some.inj (hhost.symm.trans hsome)
  decide

/-- The parts of a base URL with an address in brackets. -/
def addressParts : SplitResult := ⟨"http", "[::1]:8080".toList, [], [], []⟩

theorem addressParts_split :
    PyData.urlsplit plainHosts "http://[::1]:8080" = .ok addressParts := by decide

/-- The parts of its origin. -/
def addressBack : SplitResult := ⟨"http", "::1:8080".toList, [], [], []⟩

/-- **An address loses its brackets**: the base URL is accepted, and the host of its origin is not the
address. A port that is none makes the origin of an accepted base URL raise, and a bracket that is not
closed is no error of the class. -/
theorem address_unbracketed :
    (scopeOf "http://[::1]:8080").postInit plainOrigins.urls = .ok () ∧
      (scopeOf "http://[::1]:8080").origin plainOrigins.urls = .ok "http://::1:8080" ∧
      PyData.urlsplit plainHosts "http://::1:8080" = .ok addressBack ∧
      addressParts.hostname plainHosts = some "::1" ∧ addressBack.hostname plainHosts = none ∧
      ¬ OriginHolds plainOrigins (.scope (scopeOf "http://[::1]:8080")) ∧
      (scopeOf "http://example.test:99999").postInit plainOrigins.urls = .ok () ∧
      (scopeOf "http://example.test:99999").origin plainOrigins.urls =
        .error (.valueError "Port out of range 0-65535") ∧
      (scopeOf "http://[::1").postInit plainOrigins.urls = .error (.valueError "Invalid IPv6 URL") := by
  have haccepted : (scopeOf "http://[::1]:8080").postInit plainOrigins.urls = .ok () := by
    decide
  have horigin : (scopeOf "http://[::1]:8080").origin plainOrigins.urls = .ok "http://::1:8080" := by
    decide
  have hback : PyData.urlsplit plainHosts "http://::1:8080" = .ok addressBack := by decide
  have hname : addressParts.hostname plainHosts = some "::1" := by decide
  have hnone : addressBack.hostname plainHosts = none := by decide
  refine ⟨haccepted, horigin, hback, hname, hnone, fun h => ?_, by decide, by decide,
    by decide⟩
  obtain ⟨text, parsed, back, -, htext, hparsed, hsplit, -, hsame, -⟩ := h.gives haccepted
  obtain rfl := Except.ok.inj (horigin.symm.trans htext)
  obtain rfl := Except.ok.inj
    ((splitUrls_eq_ok.mpr ⟨addressParts, addressParts_split, rfl⟩).symm.trans hparsed)
  obtain rfl := Except.ok.inj ((splitUrls_eq_ok.mpr ⟨addressBack, hback, rfl⟩).symm.trans hsplit)
  have hnames : addressBack.hostname plainHosts = addressParts.hostname plainHosts := hsame
  rw [hname, hnone] at hnames
  cases hnames

end Aotp.Wstg
