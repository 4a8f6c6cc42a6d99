import Aotp.Lib.SortedValues
import Aotp.Wstg.ActionPlan
import Aotp.Wstg.Observations

/-!
# The records of a live campaign

* `CampaignDecision`, `CampaignFinding`, `ProofRequest` — what a campaign records, with the checks of
  their constructors.
* `buildProofRequests` — requests for what no observation supports, up to a limit.
* `extractSurface`, `candidateFindings` — what is derived from the observations.
* `renderReport` — the report of a campaign.
* `buildProofRequests_eq_ok` — **the requests are those of the first ready tests that are not
  observed**; `ready_accounted` — **each ready test is observed or requested, unless the limit is
  reached**, and none is both.
-/

namespace Aotp.Wstg

open PyData Aotp.Tools

/-! ### Decisions and findings -/

/-- Source: `campaigns.campaign_state.CampaignStateError` -/
def campaignStateError (message : String) : Exc := .custom "CampaignStateError" message

/-- A list of texts. -/
def jsonTexts (xs : List String) : Json := .arr (xs.map .str)

/-- Source: `campaigns.campaign_state._ALLOWED_DECISION_STATUSES` -/
inductive DecisionStatus where
  | planned
  | started
  | completed
  | blocked
  | denied
  | observedError
  deriving DecidableEq, Repr

def DecisionStatus.value : DecisionStatus → String
  | .planned => "planned"
  | .started => "started"
  | .completed => "completed"
  | .blocked => "blocked"
  | .denied => "denied"
  | .observedError => "observed_error"

/-- Source: `campaigns.campaign_state.CampaignDecision` -/
structure CampaignDecision where
  step : ℕ
  agent : String
  action : String
  reason : String
  status : DecisionStatus
  wstgIds : List String := []
  evidenceRefs : List String := []

/-- Source: `campaigns.campaign_state.CampaignDecision.__post_init__` -/
def CampaignDecision.postInit (d : CampaignDecision) : Except Exc Unit := do
  guardE (decide (1 ≤ d.step)) (campaignStateError "decision step must be positive")
  guardE (strip d.agent != "" && strip d.action != "" && strip d.reason != "")
    (campaignStateError "decision agent, action, and reason are required")

/-- Source: `campaigns.campaign_state.CampaignDecision.as_dict` -/
def CampaignDecision.asDict (d : CampaignDecision) : Json :=
  .obj [("step", .int d.step), ("agent", .str d.agent), ("action", .str d.action),
    ("reason", .str d.reason), ("status", .str d.status.value), ("wstg_ids", jsonTexts d.wstgIds),
    ("evidence_refs", jsonTexts d.evidenceRefs)]

/-- Source: `campaigns.campaign_state._ALLOWED_FINDING_STATES` -/
inductive FindingState where
  | observed
  | candidate
  | needsMoreEvidence
  | needsHumanApproval
  | validated
  | rejectedFalsePositive
  | duplicate
  | outOfScope
  | reportReady
  deriving DecidableEq, Repr

def FindingState.value : FindingState → String
  | .observed => "observed"
  | .candidate => "candidate"
  | .needsMoreEvidence => "needs_more_evidence"
  | .needsHumanApproval => "needs_human_approval"
  | .validated => "validated"
  | .rejectedFalsePositive => "rejected_false_positive"
  | .duplicate => "duplicate"
  | .outOfScope => "out_of_scope"
  | .reportReady => "report_ready"

/-- Source: `campaigns.campaign_state.CampaignFinding` -/
structure CampaignFinding where
  findingId : String
  title : String
  state : FindingState
  severity : String
  confidence : String
  wstgIds : List String
  evidenceRefs : List String
  rationale : String
  nextStep : String

/-- Source: `campaigns.campaign_state.CampaignFinding.__post_init__` -/
def CampaignFinding.postInit (f : CampaignFinding) : Except Exc Unit := do
  guardE (strip f.findingId != "" && strip f.title != "")
    (campaignStateError "finding id and title are required")
  guardE (!([.candidate, .validated, .reportReady].contains f.state && f.evidenceRefs.isEmpty))
    (campaignStateError "candidate, validated, and report-ready findings require evidence")
  guardE (strip f.rationale != "" && strip f.nextStep != "")
    (campaignStateError "finding rationale and next step are required")

/-- Source: `campaigns.campaign_state.CampaignFinding.as_dict` -/
def CampaignFinding.asDict (f : CampaignFinding) : Json :=
  .obj [("finding_id", .str f.findingId), ("title", .str f.title), ("state", .str f.state.value),
    ("severity", .str f.severity), ("confidence", .str f.confidence),
    ("wstg_ids", jsonTexts f.wstgIds), ("evidence_refs", jsonTexts f.evidenceRefs),
    ("rationale", .str f.rationale), ("next_step", .str f.nextStep)]

/-! ### Proof requests -/

/-- Source: `campaigns.proof_requests.ProofRequestError` -/
def proofRequestError (message : String) : Exc := .custom "ProofRequestError" message

/-- Source: `campaigns.proof_requests.ProofRequest.__post_init__`, `status` -/
inductive ProofStatus where
  | needsMoreEvidence
  | needsHumanApproval
  | blocked
  deriving DecidableEq, Repr

def ProofStatus.value : ProofStatus → String
  | .needsMoreEvidence => "needs_more_evidence"
  | .needsHumanApproval => "needs_human_approval"
  | .blocked => "blocked"

/-- Source: `campaigns.proof_requests.ProofRequest` -/
structure ProofRequest where
  proofRequestId : String
  objectiveId : String
  wstgId : String
  reason : String
  missingEvidence : List String
  requestedAgent : String
  status : ProofStatus := .needsMoreEvidence

/-- Source: `campaigns.proof_requests.ProofRequest.__post_init__` -/
def ProofRequest.postInit (r : ProofRequest) : Except Exc Unit := do
  guardE (safeComponent r.proofRequestId.toList)
    (proofRequestError "proof_request_id must be a safe lowercase identifier")
  guardE (strip r.objectiveId != "" && strip r.wstgId != "")
    (proofRequestError "objective_id and wstg_id are required")
  guardE (strip r.reason != "" && strip r.requestedAgent != "")
    (proofRequestError "proof request reason and requested agent are required")
  guardE (!r.missingEvidence.isEmpty) (proofRequestError "missing evidence list is required")

/-- Source: `campaigns.proof_requests.ProofRequest.as_dict` -/
def ProofRequest.asDict (r : ProofRequest) : Json :=
  .obj [("proof_request_id", .str r.proofRequestId), ("objective_id", .str r.objectiveId),
    ("wstg_id", .str r.wstgId), ("reason", .str r.reason),
    ("missing_evidence", jsonTexts r.missingEvidence), ("requested_agent", .str r.requestedAgent),
    ("status", .str r.status.value)]

/-- `part in text`. -/
def hasPart (part text : String) : Bool := decide (part.toList <:+: text.toList)

/-- Source: `campaigns.proof_requests._agent_for_wstg_id` -/
def agentForWstgId (wstgId : String) : String :=
  if hasPart "-CLNT-" wstgId then "browser-workflow-agent"
  else if hasPart "-APIT-" wstgId then "api-discovery-agent"
  else if hasPart "-ATHN-" wstgId || hasPart "-SESS-" wstgId || hasPart "-ATHZ-" wstgId then
    "authenticated-workflow-agent"
  else if hasPart "-INPV-" wstgId || hasPart "-BUSL-" wstgId then "validation-agent"
  else "campaign-lead-agent"

/-- Source: `wstg.engine.WSTGPlannedTest.wstg_id` -/
def WSTGPlannedTest.wstgId (item : WSTGPlannedTest) : String := item.testCase.val.wstgId

/-- The request for a planned test; the replacement of hyphens by hyphens changes nothing.
Source: `campaigns.proof_requests.build_proof_requests`, the call of `ProofRequest` -/
def proofRequestFor (lower : String → String) (item : WSTGPlannedTest) : ProofRequest where
  proofRequestId := "proof-" ++ lower item.wstgId
  objectiveId := item.objectiveId
  wstgId := item.wstgId
  reason := "ready WSTG objective has not yet been supported by evidence in this campaign loop"
  missingEvidence := item.testCase.val.evidenceRequired
  requestedAgent := agentForWstgId item.wstgId

/-- Source: `campaigns.proof_requests.build_proof_requests`, the loop -/
def proofRequestsFrom (lower : String → String) (observed : List String) (limit : ℤ) :
    List ProofRequest → List WSTGPlannedTest → Except Exc (List ProofRequest)
  | requests, [] => pure requests
  | requests, item :: rest =>
    if limit ≤ requests.length then pure requests
    else if item.wstgId ∈ observed then proofRequestsFrom lower observed limit requests rest
    else do
      (proofRequestFor lower item).postInit
      proofRequestsFrom lower observed limit (requests ++ [proofRequestFor lower item]) rest

/-- Source: `campaigns.proof_requests.build_proof_requests` -/
def buildProofRequests (lower : String → String) (plan : WSTGEnginePlan) (observed : List String)
    (limit : ℤ) : Except Exc (List ProofRequest) :=
  proofRequestsFrom lower observed limit [] (readyTests plan.plannedTests)

/-! ### The surface of a page -/

/-- The library functions of a live campaign. `startTags` is what `html.parser.HTMLParser` reports of
a text: its start tags, with the names and values of their attributes. -/
structure LiveLibrary where
  host : HostLibrary
  rt : Runtime
  startTags : String → List (String × List (String × Option String))

/-- Source: `wstg_live_campaign._SurfaceParser` -/
structure Surface where
  links : List String := []
  scripts : List String := []
  forms : List (String × String) := []
  pageMeta : Dict := []
  markers : List String := []

/-- `{key.lower(): value or "" for key, value in attrs}.get(name)`, or the default. -/
def attributeOf (rt : Runtime) (attrs : List (String × Option String)) (name default : String) :
    String :=
  match attrs.reverse.find? fun a => rt.lower a.1 == name with
  | some a => a.2.getD ""
  | none => default

/-- Source: `wstg_live_campaign._SurfaceParser.handle_starttag` -/
def Surface.startTag (rt : Runtime) (surface : Surface) (tag : String)
    (attrs : List (String × Option String)) : Surface :=
  let value := attributeOf rt attrs
  let surface := if rt.lower tag == "a" && value "href" "" != "" then
    { surface with links := surface.links ++ [value "href" ""] } else surface
  let surface := if rt.lower tag == "script" && value "src" "" != "" then
    { surface with scripts := surface.scripts ++ [value "src" ""] } else surface
  let surface := if rt.lower tag == "form" then
    { surface with forms := surface.forms ++ [(rt.lower (value "method" "get"), value "action" "")] }
    else surface
  let key := if value "name" "" != "" then value "name" ""
    else if value "property" "" != "" then value "property" "" else value "http-equiv" ""
  if rt.lower tag == "meta" && key != "" then
    { surface with pageMeta := dset surface.pageMeta (rt.lower key) (.str (value "content" "")) }
  else surface

/-- Source: `wstg_live_campaign.WSTGLiveObservation.ok` -/
def WSTGLiveObservation.ok (o : WSTGLiveObservation) : Bool :=
  decide (200 ≤ o.statusCode) && decide (o.statusCode < 400) && o.error.isNone

/-- Source: `wstg_live_campaign._extract_surface` -/
def extractSurface (lib : LiveLibrary) (rootObservation : Option WSTGLiveObservation) : Surface :=
  match rootObservation with
  | none => {}
  | some root =>
    if !root.ok then {}
    else
      let parsed : Surface := (lib.startTags root.bodyExcerpt).foldl
        (fun surface tag => surface.startTag lib.rt tag.1 tag.2) {}
      let lowered := lib.rt.lower root.bodyExcerpt
      { links := sortedTexts parsed.links
        scripts := sortedTexts parsed.scripts
        forms := parsed.forms
        pageMeta := parsed.pageMeta
        markers :=
          (if hasPart "app-root" lowered then ["single-page-application-marker"] else []) ++
            (if hasPart "juice shop" lowered then ["benchmark-identity-marker"] else []) }

/-- The mapping `_extract_surface` returns; that of `meta` is sorted where it is written. -/
def Surface.asDict (s : Surface) : Json :=
  .obj [("links", jsonTexts s.links), ("scripts", jsonTexts s.scripts),
    ("forms", .arr (s.forms.map fun f => .obj [("method", .str f.1), ("action", .str f.2)])),
    ("meta", .obj s.pageMeta), ("markers", jsonTexts s.markers)]

/-! ### Candidate findings -/

/-- The first observation of the root, if there is one.
Source: `wstg_live_campaign`, `next(…)` -/
def rootObservation (host : HostLibrary) :
    List WSTGLiveObservation → Except Exc (Option WSTGLiveObservation)
  | [] => pure none
  | o :: rest => do
    let parts ← urlsplit host o.url
    if parts.path = [] ∨ parts.path = ['/'] then pure (some o) else rootObservation host rest

/-- Source: `wstg_live_campaign._missing_security_headers` -/
def missingSecurityHeaders (rt : Runtime) (headers : List (String × String)) : List String :=
  ["content-security-policy", "x-content-type-options", "referrer-policy"].filter fun name =>
    !(headers.map fun h => rt.lower h.1).contains name

/-- Source: `wstg_live_campaign._looks_like_json` -/
def looksLikeJson (rt : Runtime) (o : WSTGLiveObservation) : Bool :=
  hasPart "json" (rt.lower o.contentType) ||
    (o.bodyExcerpt.toList.dropWhile isSpace).head?.any fun c => c == '{' || c == '['

/-- Source: `wstg_live_campaign._candidate_findings`, the first finding -/
def headerFinding (actionId : String) : CampaignFinding where
  findingId := "candidate-security-header-gaps"
  title := "Security header gaps observed on root response"
  state := .candidate
  severity := "low"
  confidence := "medium"
  wstgIds := ["WSTG-v42-CONF-01"]
  evidenceRefs := ["observations/" ++ actionId ++ ".json"]
  rationale := "The root response did not include every baseline hardening header expected in a web " ++
    "application configuration review."
  nextStep := "Collect browser and proxy evidence before this can become a validated finding."

/-- Source: `wstg_live_campaign._candidate_findings`, the second finding -/
def apiFinding : CampaignFinding where
  findingId := "observed-api-surface"
  title := "API surface observed during governed WSTG discovery"
  state := .observed
  severity := "informational"
  confidence := "high"
  wstgIds := ["WSTG-v42-INFO-06", "WSTG-v42-APIT-01"]
  evidenceRefs := ["observations/http-observations.json"]
  rationale := "At least one read-only API endpoint returned a JSON-like response inside the approved " ++
    "target scope."
  nextStep := "Use the API discovery agent to collect route provenance and validation evidence before " ++
    "impact is claimed."

/-- Source: `wstg_live_campaign._candidate_findings`, the third finding -/
def browserFinding : CampaignFinding where
  findingId := "browser-workflow-proof-required"
  title := "Client-side application surface requires stateful browser proof"
  state := .needsMoreEvidence
  severity := "informational"
  confidence := "medium"
  wstgIds := ["WSTG-v42-CLNT-01", "WSTG-v42-CLNT-04"]
  evidenceRefs := ["surface/discovered-surface.json"]
  rationale := "The campaign observed client-side assets that require browser-backed workflow evidence " ++
    "before validation."
  nextStep := "Assign the browser workflow agent to collect DOM, route, storage, and interaction evidence."

/-- Source: `wstg_live_campaign._candidate_findings` -/
def candidateFindings (lib : LiveLibrary) (observations : List WSTGLiveObservation)
    (surface : Surface) : Except Exc (List CampaignFinding) := do
  let root ← rootObservation lib.host observations
  let headers := (root.toList.filter fun o => !(missingSecurityHeaders lib.rt o.headers).isEmpty).map
    fun o => headerFinding o.actionId
  let api := if observations.any (looksLikeJson lib.rt) then [apiFinding] else []
  let browser := if surface.scripts.isEmpty && surface.forms.isEmpty && surface.links.isEmpty then []
    else [browserFinding]
  let findings := headers ++ api ++ browser
  findings.forM CampaignFinding.postInit
  pure findings

/-! ### The report -/

/-- The lines of one finding.
Source: `wstg_live_campaign._render_report`, the first loop -/
def findingLines (f : CampaignFinding) : List String :=
  ["### " ++ f.title, "", "State: `" ++ f.state.value ++ "`", "Severity: `" ++ f.severity ++ "`",
    "Confidence: `" ++ f.confidence ++ "`", "WSTG: " ++ joined f.wstgIds,
    "Evidence: " ++ joined f.evidenceRefs, "Next step: " ++ f.nextStep, ""]

/-- The lines of a benchmark comparison; an empty one has none.
Source: `wstg_live_campaign._render_report`, `benchmark` -/
def benchmarkLines (rt : Runtime) (benchmark : Option Dict) : Except Exc (List String) :=
  match benchmark with
  | none | some [] => pure []
  | some comparison => do
    let coverage ← (dgetD comparison "coverage" (.obj [])).attrs
    pure ["", "## Benchmark comparison", "",
      "Detected: " ++ pyStr rt (dgetD coverage "detected" (.str "n/a")),
      "Missed: " ++ pyStr rt (dgetD coverage "missed" (.str "n/a"))]

/-- What a report shows. -/
structure ReportInput where
  campaignId : String
  targetAlias : String
  planTotal : ℕ
  readyTotal : ℕ
  observations : List WSTGLiveObservation
  findings : List CampaignFinding
  proofRequests : List ProofRequest
  benchmark : Option Dict

/-- Source: `wstg_live_campaign._render_report` -/
def renderReport (rt : Runtime) (input : ReportInput) : Except Exc String := do
  let comparison ← benchmarkLines rt input.benchmark
  let lines :=
    ["# Generic WSTG campaign report: " ++ input.campaignId, "",
      "Target: `" ++ input.targetAlias ++ "`",
      "Planned WSTG tests: " ++ toString input.planTotal,
      "Ready WSTG tests: " ++ toString input.readyTotal,
      "Executed governed actions: " ++ toString input.observations.length,
      "Candidate or observed findings: " ++ toString input.findings.length,
      "Proof requests: " ++ toString input.proofRequests.length, "", "## Boundary", "",
      "This Sprint 19 harness runs bounded read-only campaign actions and records missing proof " ++
        "instead of validating unsupported exploit claims.", "", "## Findings", ""] ++
    (if input.findings.isEmpty then
      ["No candidate findings were produced by this bounded campaign slice."] else []) ++
    input.findings.flatMap findingLines ++
    ["## Proof requests", ""] ++
    (input.proofRequests.take 10).map (fun r =>
      "- `" ++ r.wstgId ++ "`: " ++ r.reason ++ " (" ++ r.requestedAgent ++ ")") ++
    comparison ++ [""]
  pure (String.intercalate "\n" lines)

/-! ### What is requested -/

/-- Ready tests that nothing observed supports. -/
def unsupported (observed : List String) (tests : List WSTGPlannedTest) : List WSTGPlannedTest :=
  tests.filter fun item => item.wstgId ∉ observed

variable {lower : String → String} {observed : List String} {limit : ℤ}

theorem proofRequestsFrom_eq_ok {tests : List WSTGPlannedTest} {requests out : List ProofRequest}
    (h : proofRequestsFrom lower observed limit requests tests = .ok out) :
    out = requests ++ ((unsupported observed tests).take (limit - (requests.length : ℤ)).toNat).map
      (proofRequestFor lower) := by
  induction tests generalizing requests with
  | nil =>
    rw [proofRequestsFrom] at h
    obtain rfl : requests = out := Except.ok.inj h
    simp [unsupported]
  | cons item rest ih =>
    rw [proofRequestsFrom] at h
    split_ifs at h with hfull hseen
    · obtain rfl : requests = out := Except.ok.inj h
      have hnone : (limit - (requests.length : ℤ)).toNat = 0 := by omega
      rw [hnone, List.take_zero, List.map_nil, List.append_nil]
    · have hskip : unsupported observed (item :: rest) = unsupported observed rest :=
        List.filter_cons_of_neg (by simpa using hseen)
      rw [hskip]
      exact ih h
    · obtain ⟨_, -, h⟩ := bind_eq_ok.mp h
      have hkeep : unsupported observed (item :: rest) = item :: unsupported observed rest :=
        List.filter_cons_of_pos (by simpa using hseen)
      have hroom : (limit - (requests.length : ℤ)).toNat =
          (limit - ((requests ++ [proofRequestFor lower item]).length : ℤ)).toNat + 1 := by
        rw [List.length_append, List.length_singleton]
        omega
      rw [ih h, hkeep, hroom, List.take_succ_cons, List.map_cons, List.append_assoc,
        List.singleton_append]

/-- **The requests are those of the first ready tests that are not observed.** -/
theorem buildProofRequests_eq_ok {plan : WSTGEnginePlan} {requests : List ProofRequest}
    (h : buildProofRequests lower plan observed limit = .ok requests) :
    requests = ((unsupported observed (readyTests plan.plannedTests)).take limit.toNat).map
      (proofRequestFor lower) := by
  have hrequests := proofRequestsFrom_eq_ok h
  rwa [List.length_nil, Nat.cast_zero, sub_zero, List.nil_append] at hrequests

/-- **Each ready test is accounted for**: it is observed or requested, unless the limit is reached; none
is both. -/
structure Accounted (ready : List WSTGPlannedTest) (observed : List String) (limit : ℤ)
    (requests : List ProofRequest) : Prop where
  bounded : (requests.length : ℤ) ≤ limit
  covered : ∀ item ∈ ready, item.wstgId ∈ observed ∨
    (∃ r ∈ requests, r.wstgId = item.wstgId ∧ r.objectiveId = item.objectiveId ∧
      r.missingEvidence = item.testCase.val.evidenceRequired) ∨ (requests.length : ℤ) = limit
  requested : ∀ r ∈ requests, r.status = .needsMoreEvidence ∧ r.wstgId ∉ observed ∧
    ∃ item ∈ ready, item.wstgId = r.wstgId ∧ item.objectiveId = r.objectiveId

theorem ready_accounted {plan : WSTGEnginePlan} {requests : List ProofRequest} (hlimit : 0 ≤ limit)
    (h : buildProofRequests lower plan observed limit = .ok requests) :
    Accounted (readyTests plan.plannedTests) observed limit requests := by
  have hmem : ∀ item, item ∈ unsupported observed (readyTests plan.plannedTests) ↔
      item ∈ readyTests plan.plannedTests ∧ item.wstgId ∉ observed := by
    intro item
    rw [unsupported, List.mem_filter, decide_eq_true_eq]
  rw [buildProofRequests_eq_ok h]
  refine ⟨?_, fun item hitem => ?_, fun r hr => ?_⟩
  · rw [List.length_map, List.length_take]
    omega
  · by_cases hseen : item.wstgId ∈ observed
    · exact Or.inl hseen
    refine Or.inr ?_
    rw [List.length_map, List.length_take]
    rcases Nat.lt_or_ge limit.toNat (unsupported observed (readyTests plan.plannedTests)).length with
      hlong | hshort
    · exact Or.inr (by omega)
    · rw [List.take_of_length_le hshort]
      exact Or.inl ⟨proofRequestFor lower item,
        List.mem_map_of_mem ((hmem item).mpr ⟨hitem, hseen⟩), rfl, rfl, rfl⟩
  · obtain ⟨item, hitem, rfl⟩ := List.mem_map.mp hr
    obtain ⟨hready, hunseen⟩ := (hmem item).mp (List.mem_of_mem_take hitem)
    exact ⟨rfl, hunseen, item, hready, rfl, rfl⟩

end Aotp.Wstg
