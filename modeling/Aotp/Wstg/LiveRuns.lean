import Aotp.Lib.Manifests
import Aotp.Wstg.LiveCampaign

/-!
# Runs of a live campaign

The executor and the directory answer as they like, but for what a file system promises: a file that
is written holds what was written, and a listing shows the files there are.

* `LiveSeen` — what a trace shows: the files, what was written, which actions were asked for and
  answered.
* `MayFetch`, `MayWrite` — what the harness may do next; `evidence` — the monitor that asks for it.
* `Recorded` — the digests of the writer are those of the files; `Standing` — the variables of the
  harness agree with what has been seen.
* `runAction_standing` is the step lemma of the loop, `runActions_standing` its run lemma.
* `evidence_allowed` — **at every cut**: actions are taken in the order of the queue, each after the
  evidence of all earlier ones; nothing is written outside the directory, and no file twice but
  `SHA256SUMS`.
* `run_concluded` — what a campaign that returns has left behind.
-/

namespace Aotp.Wstg

open PyData Aotp.Tools Effects Manifests

/-! ### What a trace shows -/

/-- The files below the root, by the components of their paths. -/
abbrev Files := List String → Option StoredFile

/-- What has been seen of a campaign. -/
structure LiveSeen where
  files : Files
  /-- The places written to, in order. -/
  written : List (List String) := []
  fetches : List PlannedAction := []
  /-- The actions that were answered, with their observations. -/
  answered : List (PlannedAction × WSTGLiveObservation) := []

/-- After a file is written. -/
def LiveSeen.wrote (m : LiveSeen) (parts : List String) (content : String) : LiveSeen :=
  { m with
    files := Function.update m.files parts (some (.text content))
    written := m.written ++ [parts] }

/-- After one more step. -/
def LiveSeen.after (m : LiveSeen) : LiveStep → LiveSeen
  | ⟨.fetch action, .ok observation⟩ =>
    { m with
      fetches := m.fetches ++ [action]
      answered := m.answered ++ [(action, observation)] }
  | ⟨.fetch action, .error _⟩ => { m with fetches := m.fetches ++ [action] }
  | ⟨.write parts content, .written _⟩ => m.wrote parts content
  | ⟨.write parts _, .failed left _⟩ => { m with files := Function.update m.files parts left }
  | ⟨.listing, _⟩ => m

/-- **A listing of the files**: those that are not named `SHA256SUMS`, each once and with its digest. -/
structure Lists (rt : Runtime) (files : Files) (found : List (List String × String)) : Prop where
  nodup : (found.map Prod.fst).Nodup
  digests : ∀ f ∈ found, ∃ file, files f.1 = some file ∧ f.2 = file.sha256 rt
  complete : ∀ parts, parts ∈ found.map Prod.fst ↔
    (files parts).isSome = true ∧ parts.getLast? ≠ some "SHA256SUMS"
  /-- A path is made of plain components. -/
  named : ∀ f ∈ found, pathParts (relativeName f.1) = f.1

/-! ### What the harness may do -/

/-- A campaign as the configuration has it planned. -/
structure Planned (lib : LiveLibrary) (catalog : WSTGCatalog) (config : WSTGLiveCampaignConfig)
    (campaign : PlannedCampaign) : Prop where
  configured : campaign.config = config
  plan : ∃ profile,
    config.targetRuntime.buildWstgProfile (splitUrls lib.host) config.campaignId = .ok profile ∧
      buildWstgEnginePlan (splitUrls lib.host) profile catalog = .ok campaign.plan
  queue : planCampaignActions lib.host campaign.plan config.targetRuntime.toCampaignTargetRuntime =
    .ok campaign.queue

/-- The file of the plan. -/
def planFile (rt : Runtime) (campaign : PlannedCampaign) : String × String :=
  ("campaign/plan.json", jsonText rt campaign.plan.asDict)

/-- The file of the queue of actions. -/
def queueFile (rt : Runtime) (campaign : PlannedCampaign) : String × String :=
  ("campaign/action-queue.json", jsonText rt campaign.queue.asDict)

/-- The file of an observation. -/
def observationFile (rt : Runtime) (e : PlannedAction × WSTGLiveObservation) : String × String :=
  (observationName e.1, jsonText rt e.2.asDict)

/-- A file is there as it was written. -/
def Holds (files : Files) (file : String × String) : Prop :=
  files (pathParts file.1) = some (.text file.2)

/-- **The action may be taken**: the plan and the queue are on disk, every earlier action is answered
and its observation on disk, and the action is the next one of the queue. -/
structure MayFetch (rt : Runtime) (campaign : PlannedCampaign) (m : LiveSeen)
    (action : PlannedAction) : Prop where
  plan : Holds m.files (planFile rt campaign)
  queue : Holds m.files (queueFile rt campaign)
  answered : m.answered.map Prod.fst = m.fetches
  evidence : ∀ e ∈ m.answered, Holds m.files (observationFile rt e)
  next : m.fetches ++ [action] <+: campaign.actions

/-- **The place may be written to**: it is below the root, and nothing has been written there, unless
it is that of the digests. -/
structure MayWrite (m : LiveSeen) (parts : List String) : Prop where
  named : ∃ relative, parts = pathParts relative
  inside : ".." ∉ parts
  fresh : parts ∉ m.written ∨ parts = ["SHA256SUMS"]

/-- The monitor of a campaign. The executor may answer anything. -/
def evidence (lib : LiveLibrary) (catalog : WSTGCatalog) (config : WSTGLiveCampaignConfig) :
    Monitor LiveOp LiveRes LiveSeen where
  allowed m
    | .fetch action => ∃ campaign, Planned lib catalog config campaign ∧
        MayFetch lib.rt campaign m action
    | .write parts _ => MayWrite m parts
    | .listing => True
  legal m
    | .write _ content, .written sha256 => sha256 = lib.rt.sha256 content
    | .listing, .ok found => Lists lib.rt m.files found
    | _, _ => True
  next m o r := m.after ⟨o, r⟩

/-! ### Names of files -/

/-- Names that stand for places by themselves: no component is empty or a dot. -/
def plainPaths : Set String := {k | relativeName (pathParts k) = k}

theorem pathParts_injOn : Set.InjOn pathParts plainPaths := by
  intro k hk l hl h
  have hk' : relativeName (pathParts k) = k := hk
  have hl' : relativeName (pathParts l) = l := hl
  rw [← hk', h, hl']

/-- The files of a campaign, but for those of the observations. -/
def fixedNames : List String :=
  ["campaign/plan.json", "campaign/action-queue.json", "surface/discovered-surface.json",
    "findings/candidate-findings.json", "proof-requests/proof-requests.json",
    "reports/benchmark-comparison.json", "state/campaign-state.json", "agent-decisions.jsonl",
    "observations/http-observations.json", "reports/campaign-report.md",
    "state/final-campaign-state.json", "SHA256SUMS", "campaign-result.json"]

theorem fixedName_plain {k : String} (hk : k ∈ fixedNames) : k ∈ plainPaths := by
  have hall : ∀ k ∈ fixedNames, relativeName (pathParts k) = k := by decide +kernel
  exact hall k hk

/-- A text of the characters of identifiers. -/
def Slug (s : String) : Prop := ∀ c ∈ s.toList, isSlugChar c = true

theorem Slug.noSlash {s : String} (h : Slug s) : ∀ c ∈ s.toList, c ≠ '/' := by
  rintro c hc rfl
  exact absurd (h _ hc) (by decide)

/-- The components of two paths, one after the other. -/
theorem pathParts_append_sep (a b : String) :
    pathParts (a ++ "/" ++ b) = pathParts a ++ pathParts b := by
  have hslash : "/".toList = ['/'] := by decide
  unfold pathParts
  rw [String.toList_append, String.toList_append, hslash, List.append_assoc, List.singleton_append,
    splitOnSep_append_sep, List.filter_append, List.map_append]

/-- The file of an observation has a plain name. -/
theorem plainName_observation {id : String} (h : Slug id) : PlainName (id ++ ".json") where
  ne_nil := by
    rw [String.toList_append]
    exact List.append_ne_nil_of_right_ne_nil _ (by decide)
  noSlash := by
    intro c hc
    rw [String.toList_append] at hc
    rcases List.mem_append.mp hc with hc | hc
    · exact h.noSlash c hc
    · rintro rfl
      exact absurd hc (by decide)
  ne_dot := by
    rw [String.toList_append]
    intro heq
    have hlength := congrArg List.length heq
    have hfive : ".json".toList.length = 5 := by decide
    rw [List.length_append, hfive, List.length_singleton] at hlength
    omega

/-- The components of the name of an observation. -/
theorem pathParts_observationName {action : PlannedAction} (h : Slug action.actionId) :
    pathParts (observationName action) = ["observations", action.actionId ++ ".json"] := by
  have hname : observationName action = "observations" ++ "/" ++ (action.actionId ++ ".json") := by
    have hfront : "observations/" = "observations" ++ "/" := by decide
    rw [observationName, hfront, String.append_assoc]
  have hdirectory : pathParts "observations" = ["observations"] := by decide
  rw [hname, pathParts_append_sep, hdirectory, (plainName_observation h).pathParts,
    List.singleton_append]

theorem observationName_plain {action : PlannedAction} (h : Slug action.actionId) :
    observationName action ∈ plainPaths := by
  show relativeName (pathParts (observationName action)) = observationName action
  rw [pathParts_observationName h]
  rfl

theorem observationName_injective {a b : PlannedAction} (h : observationName a = observationName b) :
    a.actionId = b.actionId := by
  have hchars := congrArg String.toList h
  unfold observationName at hchars
  simp only [String.toList_append, List.append_assoc] at hchars
  have hids := List.append_cancel_left hchars
  exact String.toList_inj.mp (List.append_cancel_right hids)

/-- The name of an observation tells itself from those of the other files. -/
theorem observationName_not_mem {action : PlannedAction}
    (h : "http-get-".toList <+: action.actionId.toList) : observationName action ∉ fixedNames := by
  intro hmem
  have hothers : ∀ k ∈ fixedNames, ¬ "observations/http-get-".toList <+: k.toList := by
    decide +kernel
  obtain ⟨rest, hrest⟩ := h
  refine hothers _ hmem ⟨rest ++ ".json".toList, ?_⟩
  have hfront : "observations/http-get-".toList = "observations/".toList ++ "http-get-".toList := by
    decide
  unfold observationName
  rw [String.toList_append, String.toList_append, hfront, ← hrest]
  simp only [List.append_assoc]

/-! ### The queue -/

section queue

variable {lib : LiveLibrary} {catalog : WSTGCatalog} {config : WSTGLiveCampaignConfig}
  {campaign : PlannedCampaign}

/-- The planned actions have the identifiers of their indexes, which are safe. -/
theorem actionIds_of_mapIdxE {host : HostLibrary} {plan : WSTGEnginePlan} {paths : List String}
    {start : ℕ} {actions : List PlannedAction}
    (h : mapIdxE (planAction host plan) start paths = .ok actions) :
    actions.map PlannedAction.actionId = (List.range' start actions.length).map actionId ∧
      ∀ action ∈ actions, Slug action.actionId := by
  induction paths generalizing start actions with
  | nil =>
    obtain rfl : [] = actions := Except.ok.inj h
    exact ⟨rfl, List.forall_mem_nil _⟩
  | cons path paths ih =>
    simp only [mapIdxE, bind_eq_ok, planAction] at h
    obtain ⟨action, ⟨_, hchecked, hplanned⟩, rest, hrest, h⟩ := h
    obtain rfl := Except.ok.inj hplanned
    obtain rfl := Except.ok.inj h
    obtain ⟨hids, hslugs⟩ := ih hrest
    simp only [PlannedAction.postInit, bind_eq_ok, guardE_eq_ok] at hchecked
    obtain ⟨_, hsafe, -⟩ := hchecked
    unfold safeComponent at hsafe
    simp only [Bool.and_eq_true, List.all_eq_true] at hsafe
    refine ⟨?_, List.forall_mem_cons.mpr ⟨hsafe.1.2, hslugs⟩⟩
    rw [List.map_cons, hids, List.length_cons, List.range'_succ, List.map_cons]
    rfl

/-- A slice is a prefix. -/
theorem isPrefix_sliceTo {α : Type} (items : List α) (stop : ℤ) : sliceTo items stop <+: items := by
  unfold sliceTo
  split_ifs
  · exact List.take_prefix ..
  · exact List.take_prefix ..

theorem Planned.actionIds (h : Planned lib catalog config campaign) :
    (campaign.queue.actions.map PlannedAction.actionId =
      (List.range' 1 campaign.queue.actions.length).map actionId) ∧
      ∀ action ∈ campaign.queue.actions, Slug action.actionId := by
  have hqueue := h.queue
  unfold planCampaignActions at hqueue
  simp only [bind_eq_ok] at hqueue
  obtain ⟨_, -, actions, hactions, hqueue⟩ := hqueue
  have heq : ⟨actions, blockedObjectives campaign.plan⟩ = campaign.queue := Except.ok.inj hqueue
  rw [← heq]
  exact actionIds_of_mapIdxE hactions

theorem mem_queue {action : PlannedAction} (ha : action ∈ campaign.actions) :
    action ∈ campaign.queue.actions :=
  (isPrefix_sliceTo _ _).subset ha

theorem Planned.slug (h : Planned lib catalog config campaign) {action : PlannedAction}
    (ha : action ∈ campaign.actions) : Slug action.actionId :=
  h.actionIds.2 action (mem_queue ha)

theorem Planned.numbered (h : Planned lib catalog config campaign) {action : PlannedAction}
    (ha : action ∈ campaign.actions) : "http-get-".toList <+: action.actionId.toList := by
  have hmem : action.actionId ∈ campaign.queue.actions.map PlannedAction.actionId :=
    List.mem_map_of_mem (mem_queue ha)
  rw [h.actionIds.1] at hmem
  obtain ⟨index, -, hindex⟩ := List.mem_map.mp hmem
  rw [← hindex, actionId_eq]
  exact List.prefix_append ..

theorem Planned.nodup (h : Planned lib catalog config campaign) :
    (campaign.actions.map PlannedAction.actionId).Nodup := by
  have hall : (campaign.queue.actions.map PlannedAction.actionId).Nodup := by
    rw [h.actionIds.1]
    exact List.Nodup.map actionId_injective List.nodup_range'
  exact hall.sublist ((isPrefix_sliceTo _ _).sublist.map _)

end queue

/-! ### The evidence writer -/

section writer

variable {lib : LiveLibrary} {catalog : WSTGCatalog} {config : WSTGLiveCampaignConfig}
  {rt : Runtime} {artifacts : Dict} {s : LiveState} {m : LiveSeen} {kept : List (String × String)}
  {k content : String}

theorem dget?_dset_eq_update (d : Dict) (k : String) (v : Json) :
    dget? (dset d k v) = Function.update (dget? d) k (some v) := by
  funext k'
  rw [dget?_dset, Function.update_apply]

/-- **The digests of the writer are those of the files**, and what was written is there. -/
structure Recorded (rt : Runtime) (artifacts : Dict) (m : LiveSeen)
    (kept : List (String × String)) : Prop where
  filed : Filed plainPaths pathParts (fun file => Json.str (file.sha256 rt)) m.files
    (dget? artifacts) (kept.map fun e => (e.1, .text e.2))
  written : m.written = kept.map fun e => pathParts e.1

theorem Recorded.start (files : Files) : Recorded rt [] { files := files } [] :=
  ⟨Filed.empty, rfl⟩

theorem Recorded.plain (h : Recorded rt artifacts m kept) {e : String × String} (he : e ∈ kept) :
    e.1 ∈ plainPaths :=
  (h.filed.contents _ (List.mem_map_of_mem he)).1

theorem Recorded.holds (h : Recorded rt artifacts m kept) {e : String × String} (he : e ∈ kept) :
    Holds m.files e :=
  (h.filed.contents _ (List.mem_map_of_mem he)).2.1

theorem Recorded.fresh (h : Recorded rt artifacts m kept) (hk : k ∈ plainPaths)
    (hnew : k ∉ kept.map Prod.fst) : pathParts k ∉ m.written := by
  rw [h.written]
  intro hmem
  obtain ⟨e, he, heq⟩ := List.mem_map.mp hmem
  exact hnew (pathParts_injOn (h.plain he) hk heq ▸ List.mem_map_of_mem he)

/-- The state of the writer after a file is written. -/
def LiveState.wrote (s : LiveState) (rt : Runtime) (k content : String) : LiveState :=
  { s with artifacts := dset s.artifacts k (.str (rt.sha256 content)) }

theorem Recorded.wrote (h : Recorded rt s.artifacts m kept) (hk : k ∈ plainPaths)
    (hnew : k ∉ kept.map Prod.fst) :
    Recorded rt (s.wrote rt k content).artifacts (m.wrote (pathParts k) content)
      (kept ++ [(k, content)]) := by
  constructor
  · have hnew' : k ∉ (kept.map fun e => (e.1, StoredFile.text e.2)).map Prod.fst := by
      rw [List.map_map]
      exact hnew
    have hwrite := @Filed.write _ _ _ _ _ _ _ _ _ _ _ _ pathParts_injOn h.filed _ hk (.text content) hnew'
    show Filed _ _ _ _ (dget? (dset s.artifacts k _)) _
    rw [dget?_dset_eq_update, List.map_append]
    exact hwrite
  · show m.written ++ [pathParts k] = _
    rw [h.written, List.map_append]
    rfl

/-- What may be written is written, or the harness raises. -/
theorem writeText_ensures {Q : String → LiveState → LiveSeen → Prop}
    (hmay : ".." ∉ pathParts k → MayWrite m (pathParts k))
    (hQ : Q k (s.wrote lib.rt k content) (m.wrote (pathParts k) content)) :
    Ensures (evidence lib catalog config) (writeText k content) s Q m := by
  unfold writeText
  refine ensures_attempt_bind fun parts hparts => ?_
  simp only [safePath, bind_eq_ok, guardE_eq_ok] at hparts
  obtain ⟨_, hinside, hparts⟩ := hparts
  obtain rfl : pathParts k = parts := Except.ok.inj hparts
  refine ensures_call_bind (hmay ?_) fun answer hanswer => ?_
  · intro hdots
    simp [leavesDirectory, hdots] at hinside
  cases answer with
  | written sha256 =>
    obtain rfl : sha256 = lib.rt.sha256 content := hanswer
    exact ensures_modify_bind (ensures_pure hQ)
  | failed left e => exact ensures_throw

/-- **A new file**: its digest is kept beside those of the others. -/
theorem writeText_wrote (h : Recorded lib.rt s.artifacts m kept) (hk : k ∈ plainPaths)
    (hnew : k ∉ kept.map Prod.fst) :
    Ensures (evidence lib catalog config) (writeText k content) s (fun ref s' m' =>
      ref = k ∧ s' = s.wrote lib.rt k content ∧ m' = m.wrote (pathParts k) content ∧
        Recorded lib.rt s'.artifacts m' (kept ++ [(k, content)])) m :=
  writeText_ensures (fun hinside => ⟨⟨k, rfl⟩, hinside, Or.inl (h.fresh hk hnew)⟩)
    ⟨rfl, rfl, rfl, h.wrote hk hnew⟩

end writer

/-! ### The variables agree with what has been seen -/

/-- The first decision of a campaign. -/
def openingDecision : CampaignDecision where
  step := 1
  agent := "campaign-lead-agent"
  action := "build_generic_wstg_plan"
  reason := "generic WSTG planning must complete before live target interaction"
  status := .completed
  evidenceRefs := ["campaign/plan.json", "campaign/action-queue.json"]

/-- The decisions of the actions that were answered. -/
def takenDecisions (answered : List (PlannedAction × WSTGLiveObservation)) :
    List CampaignDecision :=
  answered.mapIdx fun i e => takenDecision (i + 2) e.1 e.2

/-- **A log that is in order**: its steps are numbered from one, none is left open, and the evidence of
each is among some files. -/
structure Logged (decisions : List CampaignDecision) (names : List String) : Prop where
  steps : decisions.map CampaignDecision.step = List.range' 1 decisions.length
  settled : ∀ d ∈ decisions, d.status ≠ .started
  evidence : ∀ d ∈ decisions, d.evidenceRefs ≠ [] ∧ ∀ ref ∈ d.evidenceRefs, ref ∈ names

theorem Logged.mono {decisions : List CampaignDecision} {names more : List String}
    (h : Logged decisions names) (hsub : ∀ k ∈ names, k ∈ more) : Logged decisions more :=
  ⟨h.steps, h.settled, fun d hd =>
    ⟨(h.evidence d hd).1, fun ref href => hsub ref ((h.evidence d hd).2 ref href)⟩⟩

theorem Logged.nil {names : List String} : Logged [] names :=
  ⟨rfl, List.forall_mem_nil _, List.forall_mem_nil _⟩

/-- One more decision. -/
theorem Logged.concat {decisions : List CampaignDecision} {names : List String}
    {d : CampaignDecision} (h : Logged decisions names) (hstep : d.step = decisions.length + 1)
    (hsettled : d.status ≠ .started)
    (hrefs : d.evidenceRefs ≠ [] ∧ ∀ ref ∈ d.evidenceRefs, ref ∈ names) :
    Logged (decisions ++ [d]) names := by
  refine ⟨?_, fun d' hd' => ?_, fun d' hd' => ?_⟩
  · rw [List.map_append, h.steps, List.length_append, List.length_singleton, List.range'_concat,
      List.map_singleton, hstep, Nat.one_mul, Nat.add_comm 1]
  · rcases List.mem_append.mp hd' with hd' | hd'
    · exact h.settled d' hd'
    · rwa [List.mem_singleton.mp hd']
  · rcases List.mem_append.mp hd' with hd' | hd'
    · exact h.evidence d' hd'
    · rwa [List.mem_singleton.mp hd']

/-- The files of the plan and of the observations. -/
def actionFiles (rt : Runtime) (campaign : PlannedCampaign)
    (answered : List (PlannedAction × WSTGLiveObservation)) : List (String × String) :=
  planFile rt campaign :: queueFile rt campaign :: answered.map (observationFile rt)

/-- What a campaign has to show so far. -/
structure Account where
  answered : List (PlannedAction × WSTGLiveObservation) := []
  /-- The files written, in order. -/
  kept : List (String × String) := []
  /-- The decisions after those of the actions. -/
  closing : List CampaignDecision := []
  findings : List CampaignFinding := []
  requests : List ProofRequest := []

/-- The log of decisions. -/
def Account.decisions (acc : Account) : List CampaignDecision :=
  openingDecision :: (takenDecisions acc.answered ++ acc.closing)

/-- **The variables of the harness agree with what has been seen.** -/
structure Standing (lib : LiveLibrary) (acc : Account) (s : LiveState) (m : LiveSeen) : Prop where
  recorded : Recorded lib.rt s.artifacts m acc.kept
  fetches : m.fetches = acc.answered.map Prod.fst
  answered : m.answered = acc.answered
  observations : s.observations = acc.answered.map Prod.snd
  executed : s.executedActions = acc.answered.length
  observed : s.observedWstgIds = acc.answered.flatMap fun e => e.2.wstgIds
  decisions : s.decisions = acc.decisions
  findings : s.findingIds = acc.findings.map CampaignFinding.findingId
  requests : s.proofRequestIds = acc.requests.map ProofRequest.proofRequestId
  logged : Logged acc.decisions (acc.kept.map Prod.fst)

section standing

variable {lib : LiveLibrary} {catalog : WSTGCatalog} {config : WSTGLiveCampaignConfig}
  {campaign : PlannedCampaign} {answered : List (PlannedAction × WSTGLiveObservation)}
  {acc : Account} {s : LiveState} {m : LiveSeen} {k content : String}

/-- One more file. -/
def Account.file (acc : Account) (k content : String) : Account :=
  { acc with kept := acc.kept ++ [(k, content)] }

/-- A new file leaves the variables in agreement. -/
theorem writeText_standing (h : Standing lib acc s m) (hk : k ∈ plainPaths)
    (hnew : k ∉ acc.kept.map Prod.fst) :
    Ensures (evidence lib catalog config) (writeText k content) s (fun ref s' m' =>
      ref = k ∧ s' = s.wrote lib.rt k content ∧ Standing lib (acc.file k content) s' m') m := by
  refine ensures_mono (writeText_wrote h.recorded hk hnew) ?_
  rintro ref s' m' ⟨rfl, rfl, rfl, hrecorded⟩
  have hlogged : Logged acc.decisions ((acc.kept ++ [(ref, content)]).map Prod.fst) := by
    refine h.logged.mono fun name hname => ?_
    rw [List.map_append]
    exact List.mem_append_left _ hname
  exact ⟨rfl, rfl, hrecorded, h.fetches, h.answered, h.observations, h.executed, h.observed,
    h.decisions, h.findings, h.requests, hlogged⟩

/-- The state after one more decision. -/
def LiveState.decided (s : LiveState) (d : CampaignDecision) : LiveState :=
  { s with decisions := s.decisions ++ [d] }

/-- One more decision. -/
def Account.decide (acc : Account) (d : CampaignDecision) : Account :=
  { acc with closing := acc.closing ++ [d] }

/-- A completed decision, with the next step. -/
theorem conclude_ensures {agent action reason : String} {ids refs : List String}
    {Q : Unit → LiveState → LiveSeen → Prop}
    (hQ : Q () (s.decided { step := s.decisions.length + 1, agent := agent, action := action
                            reason := reason, status := .completed, wstgIds := ids
                            evidenceRefs := refs }) m) :
    Ensures (evidence lib catalog config) (conclude agent action reason ids refs) s Q m :=
  ensures_get_bind (ensures_attempt_bind fun _ _ => ensures_modify hQ)

/-- A completed decision, whose evidence is on disk. -/
theorem conclude_standing {agent action reason : String} {ids refs : List String}
    (h : Standing lib acc s m) (hrefs : refs ≠ [] ∧ ∀ ref ∈ refs, ref ∈ acc.kept.map Prod.fst) :
    Ensures (evidence lib catalog config) (conclude agent action reason ids refs) s
      (fun _ s' m' => ∃ d, s' = s.decided d ∧ Standing lib (acc.decide d) s' m') m := by
  refine conclude_ensures ⟨_, rfl, ?_⟩
  have hdecisions (d : CampaignDecision) : (acc.decide d).decisions = acc.decisions ++ [d] := by
    simp only [Account.decisions, Account.decide, List.cons_append, List.append_assoc]
  have hstep : s.decisions.length + 1 = acc.decisions.length + 1 := by rw [h.decisions]
  exact
    { recorded := h.recorded
      fetches := h.fetches
      answered := h.answered
      observations := h.observations
      executed := h.executed
      observed := h.observed
      decisions := by
        rw [hdecisions, ← h.decisions]
        rfl
      findings := h.findings
      requests := h.requests
      logged := by
        rw [hdecisions]
        exact h.logged.concat hstep (fun hopen => by cases hopen) hrefs }

/-! ### Planning, and the loop -/

/-- What there is to show in front of an action. -/
def actionAccount (rt : Runtime) (campaign : PlannedCampaign)
    (answered : List (PlannedAction × WSTGLiveObservation)) : Account where
  answered := answered
  kept := actionFiles rt campaign answered

theorem preparePlan_standing {files : Files} :
    Ensures (evidence lib catalog config) (preparePlan lib catalog config) {}
      (fun campaign s m => Planned lib catalog config campaign ∧
        Standing lib (actionAccount lib.rt campaign []) s m) { files := files } := by
  have hplan : "campaign/plan.json" ∈ plainPaths := fixedName_plain (by simp [fixedNames])
  have hqueue : "campaign/action-queue.json" ∈ plainPaths := fixedName_plain (by simp [fixedNames])
  unfold preparePlan
  refine ensures_attempt_bind fun profile hprofile => ?_
  refine ensures_attempt_bind fun plan hplanned => ?_
  refine ensures_bind (writeText_wrote (.start files) hplan List.not_mem_nil) ?_
  rintro planRef s₁ m₁ ⟨rfl, rfl, rfl, hrecorded⟩
  refine ensures_attempt_bind fun queue hqueued => ?_
  refine ensures_bind (writeText_wrote hrecorded hqueue (by simp)) ?_
  rintro queueRef s₂ m₂ ⟨rfl, rfl, rfl, hrecorded⟩
  refine ensures_bind (conclude_ensures (Q := fun _ s' m' => s' = _ ∧ m' = _) ⟨rfl, rfl⟩) ?_
  rintro _ s₃ m₃ ⟨rfl, rfl⟩
  refine ensures_pure ⟨⟨rfl, ⟨profile, hprofile, hplanned⟩, hqueued⟩, ?_⟩
  exact
    { recorded := hrecorded
      fetches := rfl
      answered := rfl
      observations := rfl
      executed := rfl
      observed := rfl
      decisions := rfl
      findings := rfl
      requests := rfl
      logged := Logged.nil.concat rfl (fun hopen => by cases hopen)
        ⟨List.cons_ne_nil _ _, fun _ href => href⟩ }

/-- What is on disk when an action is due. -/
theorem Standing.mayFetch {action : PlannedAction}
    (h : Standing lib (actionAccount lib.rt campaign answered) s m)
    (hnext : answered.map Prod.fst ++ [action] <+: campaign.actions) :
    MayFetch lib.rt campaign m action where
  plan := h.recorded.holds List.mem_cons_self
  queue := h.recorded.holds (List.mem_cons_of_mem _ List.mem_cons_self)
  answered := by rw [h.answered, h.fetches]
  evidence := by
    intro e he
    rw [h.answered] at he
    exact h.recorded.holds
      (List.mem_cons_of_mem _ (List.mem_cons_of_mem _ (List.mem_map_of_mem he)))
  next := by rw [h.fetches]; exact hnext

/-- The file of the next observation is a new one. -/
theorem Planned.observation_fresh {action : PlannedAction}
    (hplanned : Planned lib catalog config campaign)
    (hnext : answered.map Prod.fst ++ [action] <+: campaign.actions) :
    observationName action ∉ (actionFiles lib.rt campaign answered).map Prod.fst := by
  have haction : action ∈ campaign.actions := hnext.subset (by simp)
  have hothers := observationName_not_mem (hplanned.numbered haction)
  intro hmem
  rw [actionFiles, List.map_cons, List.map_cons, List.mem_cons, List.mem_cons, List.map_map] at hmem
  rcases hmem with heq | heq | hmem
  · exact hothers (by rw [heq]; exact List.mem_cons_self)
  · exact hothers (by rw [heq]; exact List.mem_cons_of_mem _ List.mem_cons_self)
  · obtain ⟨e, he, heq⟩ := List.mem_map.mp hmem
    have hids : e.1.actionId = action.actionId := observationName_injective heq
    have hnodup := hplanned.nodup.sublist (hnext.sublist.map PlannedAction.actionId)
    rw [List.map_append, List.map_singleton] at hnodup
    have hnot := (List.nodup_append.mp hnodup).2.2 e.1.actionId
      (List.mem_map_of_mem (List.mem_map_of_mem he)) action.actionId (List.mem_singleton_self _)
    exact hnot hids

theorem takenDecisions_concat (e : PlannedAction × WSTGLiveObservation) :
    takenDecisions (answered ++ [e]) =
      takenDecisions answered ++ [takenDecision (answered.length + 2) e.1 e.2] := by
  rw [takenDecisions, takenDecisions, List.mapIdx_concat]

/-- **One round of the loop**: the action is due, and once it is answered its observation is on disk. -/
theorem runAction_standing {action : PlannedAction}
    (hplanned : Planned lib catalog config campaign)
    (h : Standing lib (actionAccount lib.rt campaign answered) s m)
    (hnext : answered.map Prod.fst ++ [action] <+: campaign.actions) :
    Ensures (evidence lib catalog config) (runAction lib action) s (fun _ s' m' =>
      ∃ observation, Standing lib
        (actionAccount lib.rt campaign (answered ++ [(action, observation)])) s' m') m := by
  have haction : action ∈ campaign.actions := hnext.subset (by simp)
  have hfresh := @Planned.observation_fresh lib _ _ _ _ _ hplanned hnext
  have hplain := observationName_plain (hplanned.slug haction)
  unfold runAction
  refine ensures_get_bind (ensures_attempt_bind fun _ _ => ensures_modify_bind ?_)
  refine ensures_call_bind ⟨campaign, hplanned, h.mayFetch hnext⟩ fun answer _ => ?_
  refine ensures_attempt_bind fun observation hanswer => ?_
  subst hanswer
  refine ensures_modify_bind ?_
  refine ensures_bind (writeText_wrote ⟨h.recorded.filed, h.recorded.written⟩ hplain hfresh) ?_
  rintro _ s' m' ⟨-, rfl, rfl, hrecorded⟩
  refine ensures_modify_bind (ensures_attempt_bind fun _ _ => ensures_modify ?_)
  refine ⟨observation, ?_⟩
  have hfiles : (actionAccount lib.rt campaign answered).kept ++
      [(observationName action, jsonText lib.rt observation.asDict)] =
        (actionAccount lib.rt campaign (answered ++ [(action, observation)])).kept := by
    simp only [actionAccount, actionFiles, List.map_append, List.cons_append]
    rfl
  have hlog (all : List (PlannedAction × WSTGLiveObservation)) :
      (actionAccount lib.rt campaign all).decisions = openingDecision :: takenDecisions all := by
    rw [Account.decisions, actionAccount, List.append_nil]
  have hlength : s.decisions.length + 1 = answered.length + 2 := by
    rw [h.decisions, hlog, List.length_cons, takenDecisions, List.length_mapIdx]
  have hdecisions : (s.decisions ++ [startedDecision (s.decisions.length + 1) action]).dropLast ++
      [takenDecision (s.decisions.length + 1) action observation] =
        (actionAccount lib.rt campaign (answered ++ [(action, observation)])).decisions := by
    rw [List.dropLast_concat, hlength, h.decisions, hlog, hlog, takenDecisions_concat,
      List.cons_append]
  rw [hfiles] at hrecorded
  exact
    { recorded := hrecorded
      fetches := by
        show m.fetches ++ [action] = _
        rw [h.fetches, actionAccount, actionAccount, List.map_append]
        rfl
      answered := by
        show m.answered ++ [(action, observation)] = _
        rw [h.answered]
        rfl
      observations := by
        show s.observations ++ [observation] = _
        rw [h.observations, actionAccount, actionAccount, List.map_append]
        rfl
      executed := by
        show s.executedActions + 1 = _
        rw [h.executed, actionAccount, actionAccount, List.length_append]
        rfl
      observed := by
        show s.observedWstgIds ++ observation.wstgIds = _
        rw [h.observed, actionAccount, actionAccount, List.flatMap_append, List.flatMap_singleton]
      decisions := hdecisions
      findings := h.findings
      requests := h.requests
      logged := by
        rw [hlog, takenDecisions_concat, ← List.cons_append, ← hlog answered]
        rw [← hfiles, List.map_append]
        refine (h.logged.mono fun _ => List.mem_append_left _).concat ?_ ?_ ?_
        · rw [← h.decisions]
          exact hlength.symm
        · unfold takenDecision
          split_ifs <;> exact fun hopen => by cases hopen
        · exact ⟨List.cons_ne_nil _ _, fun _ => List.mem_append_right _⟩ }

/-- **The whole loop**: every action of the queue that is within the bound has been answered. -/
theorem runActions_standing {actions : List PlannedAction}
    (hplanned : Planned lib catalog config campaign)
    (h : Standing lib (actionAccount lib.rt campaign answered) s m)
    (hrest : answered.map Prod.fst ++ actions = campaign.actions) :
    Ensures (evidence lib catalog config) (runActions lib actions) s (fun _ s' m' =>
      ∃ all, all.map Prod.fst = campaign.actions ∧
        Standing lib (actionAccount lib.rt campaign all) s' m') m := by
  induction actions generalizing answered s m with
  | nil =>
    rw [List.append_nil] at hrest
    exact ensures_pure ⟨answered, hrest, h⟩
  | cons action actions ih =>
    have hnext : answered.map Prod.fst ++ [action] <+: campaign.actions :=
      ⟨actions, by rw [← hrest, List.append_assoc, List.singleton_append]⟩
    refine ensures_bind (runAction_standing hplanned h hnext) ?_
    rintro _ s' m' ⟨observation, h'⟩
    refine ih h' ?_
    rw [← hrest, List.map_append, List.append_assoc]
    rfl

/-! ### The rest of a campaign -/

/-- **Every action is answered**; `later` are the files since then. -/
structure Concluding (lib : LiveLibrary) (catalog : WSTGCatalog) (config : WSTGLiveCampaignConfig)
    (campaign : PlannedCampaign) (acc : Account) (later : List (String × String)) (s : LiveState)
    (m : LiveSeen) : Prop where
  planned : Planned lib catalog config campaign
  complete : acc.answered.map Prod.fst = campaign.actions
  kept : acc.kept = actionFiles lib.rt campaign acc.answered ++ later
  standing : Standing lib acc s m

variable {later : List (String × String)}

/-- The names of the files since then are not those of the actions. -/
theorem Concluding.fresh (h : Concluding lib catalog config campaign acc later s m)
    (hk : k ∈ fixedNames.drop 2) (hnew : k ∉ later.map Prod.fst) :
    k ∉ acc.kept.map Prod.fst := by
  have hfixed : k ∈ fixedNames := List.mem_of_mem_drop hk
  have hfirst : ∀ k ∈ fixedNames.drop 2, k ≠ "campaign/plan.json" ∧
      k ≠ "campaign/action-queue.json" := by decide +kernel
  rw [h.kept, List.map_append, List.mem_append]
  rintro (hmem | hmem)
  · rw [actionFiles, List.map_cons, List.map_cons, List.mem_cons, List.mem_cons,
      List.map_map] at hmem
    rcases hmem with heq | heq | hmem
    · exact (hfirst k hk).1 heq
    · exact (hfirst k hk).2 heq
    · obtain ⟨e, he, heq⟩ := List.mem_map.mp hmem
      have haction : e.1 ∈ campaign.actions := by
        rw [← h.complete]
        exact List.mem_map_of_mem he
      have hname : observationName e.1 = k := heq
      exact observationName_not_mem (h.planned.numbered haction) (hname ▸ hfixed)
  · exact hnew hmem

/-- One of the files of the package. -/
theorem Concluding.write (h : Concluding lib catalog config campaign acc later s m)
    (hk : k ∈ fixedNames.drop 2) (hnew : k ∉ later.map Prod.fst) :
    Ensures (evidence lib catalog config) (writeText k content) s (fun ref s' m' =>
      ref = k ∧ s' = s.wrote lib.rt k content ∧
        Concluding lib catalog config campaign (acc.file k content) (later ++ [(k, content)]) s' m')
      m := by
  have hplain := fixedName_plain (List.mem_of_mem_drop hk)
  refine ensures_mono (writeText_standing h.standing hplain (h.fresh hk hnew)) ?_
  rintro ref s' m' ⟨rfl, rfl, hstanding⟩
  refine ⟨rfl, rfl, h.planned, h.complete, ?_, hstanding⟩
  rw [Account.file, h.kept, List.append_assoc]

/-- One of the decisions about the package. -/
theorem Concluding.conclude {agent action reason : String} {ids refs : List String}
    (h : Concluding lib catalog config campaign acc later s m)
    (hrefs : refs ≠ [] ∧ ∀ ref ∈ refs, ref ∈ later.map Prod.fst) :
    Ensures (evidence lib catalog config) (conclude agent action reason ids refs) s
      (fun _ s' m' => ∃ d, s' = s.decided d ∧
        Concluding lib catalog config campaign (acc.decide d) later s' m') m := by
  have hall : ∀ ref ∈ refs, ref ∈ acc.kept.map Prod.fst := by
    intro ref href
    rw [h.kept, List.map_append]
    exact List.mem_append_right _ (hrefs.2 ref href)
  refine ensures_mono (conclude_standing h.standing ⟨hrefs.1, hall⟩) ?_
  rintro _ s' m' ⟨d, rfl, hstanding⟩
  exact ⟨d, rfl, h.planned, h.complete, h.kept, hstanding⟩

/-- The surface that the observations show. -/
def SurfaceOf (lib : LiveLibrary) (observations : List WSTGLiveObservation) (surface : Surface) :
    Prop :=
  ∃ root, rootObservation lib.host observations = .ok root ∧ surface = extractSurface lib root

/-- The file of the surface. -/
def surfaceFile (rt : Runtime) (surface : Surface) : String × String :=
  ("surface/discovered-surface.json", jsonText rt surface.asDict)

/-- The file of the findings. -/
def findingsFile (rt : Runtime) (findings : List CampaignFinding) : String × String :=
  ("findings/candidate-findings.json", jsonText rt (.arr (findings.map CampaignFinding.asDict)))

/-- The file of the proof requests. -/
def requestsFile (rt : Runtime) (requests : List ProofRequest) : String × String :=
  ("proof-requests/proof-requests.json", jsonText rt (.arr (requests.map ProofRequest.asDict)))

theorem deriveSurface_concluding (h : Concluding lib catalog config campaign acc [] s m) :
    Ensures (evidence lib catalog config) (deriveSurface lib) s (fun surface s' m' =>
      SurfaceOf lib (acc.answered.map Prod.snd) surface ∧ ∃ d,
        Concluding lib catalog config campaign
          ((acc.file (surfaceFile lib.rt surface).1 (surfaceFile lib.rt surface).2).decide d)
          [surfaceFile lib.rt surface] s' m') m := by
  have hk : "surface/discovered-surface.json" ∈ fixedNames.drop 2 := by simp [fixedNames]
  unfold deriveSurface
  refine ensures_get_bind (ensures_attempt_bind fun root hroot => ?_)
  rw [h.standing.observations] at hroot
  refine ensures_bind (h.write hk List.not_mem_nil) ?_
  rintro ref s' m' ⟨rfl, -, h'⟩
  refine ensures_bind (h'.conclude ⟨List.cons_ne_nil _ _, fun _ href => href⟩) ?_
  rintro _ s'' m'' ⟨d, -, h''⟩
  exact ensures_pure ⟨⟨root, hroot, rfl⟩, d, h''⟩

/-- Findings are named in the state. -/
theorem Concluding.found {findings : List CampaignFinding}
    (h : Concluding lib catalog config campaign acc later s m) :
    Concluding lib catalog config campaign { acc with findings := acc.findings ++ findings } later
      { s with findingIds := s.findingIds ++ findings.map CampaignFinding.findingId } m := by
  refine ⟨h.planned, h.complete, h.kept, h.standing.recorded, h.standing.fetches,
    h.standing.answered, h.standing.observations, h.standing.executed, h.standing.observed,
    h.standing.decisions, ?_, h.standing.requests, h.standing.logged⟩
  rw [List.map_append, h.standing.findings]

/-- Proof requests are named in the state. -/
theorem Concluding.requested {requests : List ProofRequest}
    (h : Concluding lib catalog config campaign acc later s m) :
    Concluding lib catalog config campaign { acc with requests := acc.requests ++ requests } later
      { s with proofRequestIds := s.proofRequestIds ++ requests.map ProofRequest.proofRequestId }
      m := by
  refine ⟨h.planned, h.complete, h.kept, h.standing.recorded, h.standing.fetches,
    h.standing.answered, h.standing.observations, h.standing.executed, h.standing.observed,
    h.standing.decisions, h.standing.findings, ?_, h.standing.logged⟩
  rw [List.map_append, h.standing.requests]

theorem bindFindings_concluding {surface : Surface}
    (h : Concluding lib catalog config campaign acc later s m)
    (hnew : "findings/candidate-findings.json" ∉ later.map Prod.fst) :
    Ensures (evidence lib catalog config) (bindFindings lib surface) s (fun findings s' m' =>
      candidateFindings lib (acc.answered.map Prod.snd) surface = .ok findings ∧ ∃ acc',
        Concluding lib catalog config campaign acc' (later ++ [findingsFile lib.rt findings]) s' m' ∧
          acc'.answered = acc.answered ∧ acc'.findings = acc.findings ++ findings ∧
            acc'.requests = acc.requests) m := by
  have hk : "findings/candidate-findings.json" ∈ fixedNames.drop 2 := by simp [fixedNames]
  unfold bindFindings
  refine ensures_get_bind (ensures_attempt_bind fun findings hfindings => ?_)
  rw [h.standing.observations] at hfindings
  refine ensures_bind (h.write hk hnew) ?_
  rintro ref s' m' ⟨rfl, -, h'⟩
  refine ensures_modify_bind (ensures_bind (h'.found.conclude ⟨List.cons_ne_nil _ _, ?_⟩) ?_)
  · intro ref href
    rw [List.mem_singleton.mp href, List.map_append]
    exact List.mem_append_right _ (List.mem_singleton_self _)
  · rintro _ s'' m'' ⟨d, -, h''⟩
    exact ensures_pure ⟨hfindings, _, h'', rfl, rfl, rfl⟩

theorem requestProof_concluding (h : Concluding lib catalog config campaign acc later s m)
    (hnew : "proof-requests/proof-requests.json" ∉ later.map Prod.fst) :
    Ensures (evidence lib catalog config) (requestProof lib campaign) s (fun requests s' m' =>
      buildProofRequests lib.rt.lower campaign.plan (acc.answered.flatMap fun e => e.2.wstgIds)
        config.proofRequestLimit = .ok requests ∧ ∃ acc',
          Concluding lib catalog config campaign acc' (later ++ [requestsFile lib.rt requests]) s' m' ∧
            acc'.answered = acc.answered ∧ acc'.findings = acc.findings ∧
              acc'.requests = acc.requests ++ requests) m := by
  have hk : "proof-requests/proof-requests.json" ∈ fixedNames.drop 2 := by simp [fixedNames]
  unfold requestProof
  refine ensures_get_bind (ensures_attempt_bind fun requests hrequests => ?_)
  rw [h.standing.observed, h.planned.configured] at hrequests
  refine ensures_bind (h.write hk hnew) ?_
  rintro ref s' m' ⟨rfl, -, h'⟩
  refine ensures_modify_bind (ensures_bind (h'.requested.conclude ⟨List.cons_ne_nil _ _, ?_⟩) ?_)
  · intro ref href
    rw [List.mem_singleton.mp href, List.map_append]
    exact List.mem_append_right _ (List.mem_singleton_self _)
  · rintro _ s'' m'' ⟨d, -, h''⟩
    exact ensures_pure ⟨hrequests, _, h'', rfl, rfl, rfl⟩

/-- The file of the log of decisions. -/
def decisionsFile (rt : Runtime) (decisions : List CampaignDecision) : String × String :=
  ("agent-decisions.jsonl",
    String.join ((decisions.map CampaignDecision.asDict).map fun row =>
      row.dumps rt .spaced ++ "\n"))

/-- The file of all observations. -/
def observationsFile (rt : Runtime) (observations : List WSTGLiveObservation) : String × String :=
  ("observations/http-observations.json",
    jsonText rt (.arr (observations.map WSTGLiveObservation.asDict)))

/-- The file of the last state. -/
def finalStateFile (rt : Runtime) (campaign : PlannedCampaign) (s : LiveState) : String × String :=
  ("state/final-campaign-state.json", jsonText rt (campaign.stateDict s))

/-- What is written does not show in the state of a campaign. -/
theorem finalStateFile_wrote {rt rt' : Runtime} :
    finalStateFile rt campaign (s.wrote rt' k content) = finalStateFile rt campaign s :=
  rfl

theorem writePackage_concluding {findings : List CampaignFinding} {requests : List ProofRequest}
    (h : Concluding lib catalog config campaign acc later s m)
    (hnew : ∀ k ∈ (fixedNames.drop 5).take 6, k ∉ later.map Prod.fst) :
    Ensures (evidence lib catalog config) (writePackage lib campaign findings requests) s
      (fun r s' m' => r.2 = "state/final-campaign-state.json" ∧
        ∃ acc' benchmark state report last,
          Concluding lib catalog config campaign acc'
            (later ++ [("reports/benchmark-comparison.json", benchmark),
              ("state/campaign-state.json", state), decisionsFile lib.rt acc.decisions,
              observationsFile lib.rt (acc.answered.map Prod.snd),
              ("reports/campaign-report.md", report), finalStateFile lib.rt campaign s']) s' m' ∧
            acc'.answered = acc.answered ∧ acc'.findings = acc.findings ∧
              acc'.requests = acc.requests ∧ acc'.decisions = acc.decisions ++ [last]) m := by
  have hname : ∀ k ∈ (fixedNames.drop 5).take 6, k ∈ fixedNames.drop 2 := by decide +kernel
  have hall : (fixedNames.drop 5).take 6 = ["reports/benchmark-comparison.json",
    "state/campaign-state.json", "agent-decisions.jsonl", "observations/http-observations.json",
    "reports/campaign-report.md", "state/final-campaign-state.json"] := rfl
  rw [hall] at hname hnew
  simp only [List.forall_mem_cons] at hname hnew
  obtain ⟨hn₁, hn₂, hn₃, hn₄, hn₅, hn₆, -⟩ := hname
  obtain ⟨hf₁, hf₂, hf₃, hf₄, hf₅, hf₆, -⟩ := hnew
  unfold writePackage
  refine ensures_get_bind (ensures_attempt_bind fun benchmark _ => ?_)
  refine ensures_bind (h.write hn₁ hf₁) ?_
  rintro _ s₁ m₁ ⟨rfl, -, h₁⟩
  refine ensures_bind (h₁.write hn₂ (by simpa using hf₂)) ?_
  rintro _ s₂ m₂ ⟨rfl, -, h₂⟩
  refine ensures_bind (h₂.write hn₃ (by simpa using hf₃)) ?_
  rintro _ s₃ m₃ ⟨rfl, -, h₃⟩
  refine ensures_bind (h₃.write hn₄ (by simpa using hf₄)) ?_
  rintro _ s₄ m₄ ⟨rfl, -, h₄⟩
  refine ensures_attempt_bind fun report _ => ?_
  refine ensures_bind (h₄.write hn₅ (by simpa using hf₅)) ?_
  rintro _ s₅ m₅ ⟨rfl, -, h₅⟩
  refine ensures_bind (h₅.conclude ⟨List.cons_ne_nil _ _, ?_⟩) ?_
  · intro ref href
    simp only [List.map_append, List.map_singleton, List.append_assoc]
    exact List.mem_append_right _ href
  rintro _ s₆ m₆ ⟨d, -, h₆⟩
  refine ensures_get_bind (ensures_bind (h₆.write hn₆ (by simpa using hf₆)) ?_)
  rintro _ s₇ m₇ ⟨rfl, rfl, h₇⟩
  simp only [List.append_assoc, List.cons_append, List.nil_append] at h₇
  rw [h.standing.decisions, h.standing.observations] at h₇
  refine ensures_pure ⟨rfl, ?_⟩
  rw [finalStateFile_wrote]
  refine ⟨_, _, _, _, d, h₇, rfl, rfl, rfl, ?_⟩
  simp only [Account.decisions, Account.decide, Account.file, List.cons_append, List.append_assoc]

end standing

/-! ### The digests of the package -/

section digests

variable {lib : LiveLibrary} {catalog : WSTGCatalog} {config : WSTGLiveCampaignConfig}
  {rt : Runtime} {files : Files} {found : List (List String × String)} {artifacts : Dict}
  {s : LiveState} {m : LiveSeen} {kept : List (String × String)}

theorem dget?_listed : dget? (listed artifacts found) =
    (found.map fun f => (relativeName f.1, Json.str f.2)).foldl
      (fun (manifest : String → Option Json) e => Function.update manifest e.1 (some e.2))
      (dget? artifacts) := by
  induction found generalizing artifacts with
  | nil => rfl
  | cons f found ih =>
    rw [List.map_cons, List.foldl_cons, ← dget?_dset_eq_update]
    exact ih

/-- The digests of a listing are those of the files. -/
theorem Recorded.listed (h : Recorded rt artifacts m kept) (hlists : Lists rt m.files found) :
    Recorded rt (listed artifacts found) m kept := by
  refine ⟨?_, h.written⟩
  rw [dget?_listed]
  refine h.filed.restateAll fun e he => ?_
  obtain ⟨f, hf, rfl⟩ := List.mem_map.mp he
  have hplace : pathParts (relativeName f.1) = f.1 := hlists.named f hf
  obtain ⟨file, hfile, hdigest⟩ := hlists.digests f hf
  refine ⟨?_, file, ?_, by rw [hdigest]⟩
  · show relativeName (pathParts (relativeName f.1)) = relativeName f.1
    rw [hplace]
  · show m.files (pathParts (relativeName f.1)) = some file
    rw [hplace, hfile]

/-- The place of the digests. -/
theorem pathParts_sums : pathParts "SHA256SUMS" = ["SHA256SUMS"] := by decide

/-- A listing does not show the file of the digests. -/
theorem Lists.wrote {content : String} (h : Lists rt m.files found) :
    Lists rt (m.wrote (pathParts "SHA256SUMS") content).files found := by
  have hother : ∀ parts : List String, parts.getLast? ≠ some "SHA256SUMS" →
      (m.wrote (pathParts "SHA256SUMS") content).files parts = m.files parts := by
    intro parts hparts
    refine Function.update_of_ne ?_ _ _
    rintro rfl
    rw [pathParts_sums] at hparts
    exact hparts rfl
  have hnamed : ∀ f ∈ found, f.1.getLast? ≠ some "SHA256SUMS" := fun f hf =>
    ((h.complete f.1).mp (List.mem_map_of_mem hf)).2
  refine ⟨h.nodup, fun f hf => ?_, fun parts => ?_, h.named⟩
  · rw [hother f.1 (hnamed f hf)]
    exact h.digests f hf
  · rw [h.complete]
    refine and_congr_left fun hparts => ?_
    rw [hother parts hparts]

/-- The state of the writer after the digests are written. -/
def LiveState.sealed (s : LiveState) (rt : Runtime) (found : List (List String × String)) :
    LiveState :=
  LiveState.wrote { s with artifacts := listed s.artifacts found } rt "SHA256SUMS" (sumsText found)

theorem writeSha256s_ensures {Q : String → LiveState → LiveSeen → Prop}
    (hQ : ∀ found, Lists lib.rt m.files found → Q "SHA256SUMS" (s.sealed lib.rt found)
      (m.wrote (pathParts "SHA256SUMS") (sumsText found))) :
    Ensures (evidence lib catalog config) writeSha256s s Q m := by
  unfold writeSha256s
  refine ensures_call_bind trivial fun answer hanswer => ensures_attempt_bind fun found hfound => ?_
  subst hfound
  refine ensures_modify_bind (writeText_ensures (fun hinside => ⟨⟨_, rfl⟩, hinside, Or.inr pathParts_sums⟩) ?_)
  exact hQ found hanswer

/-- A file with another name is not that of the digests. -/
theorem Holds.wrote {e : String × String} {content : String} (h : Holds m.files e)
    (hplain : e.1 ∈ plainPaths) (hne : e.1 ≠ "SHA256SUMS") :
    Holds (m.wrote (pathParts "SHA256SUMS") content).files e := by
  have hsums : "SHA256SUMS" ∈ plainPaths := fixedName_plain (by simp [fixedNames])
  refine (Function.update_of_ne ?_ _ _).trans h
  exact fun heq => hne (pathParts_injOn hplain hsums heq)

/-- Setting what is there already changes nothing. -/
theorem dget?_dset_dget {d : Dict} {k : String} (hk : (dget? d k).isSome = true) (k' : String) :
    dget? (dset d k (dget d k)) k' = dget? d k' := by
  rw [dget?_dset]
  split_ifs with heq
  · obtain ⟨v, hv⟩ := Option.isSome_iff_exists.mp hk
    rw [heq, dget, hv]
    rfl
  · rfl

/-- What a listing shows has a digest. -/
theorem isSome_listed {k : String} (h : (dget? artifacts k).isSome = true ∨
    k ∈ found.map fun f => relativeName f.1) : (dget? (listed artifacts found) k).isSome = true := by
  induction found generalizing artifacts with
  | nil => exact h.resolve_right List.not_mem_nil
  | cons f found ih =>
    refine ih ?_
    rw [List.map_cons, List.mem_cons] at h
    by_cases heq : k = relativeName f.1
    · rw [heq, dget?_dset, if_pos rfl]
      exact Or.inl rfl
    · rw [dget?_dset_of_ne _ _ heq]
      exact h.imp_right fun hmem => hmem.resolve_left heq

/-- **The digests certify the package.** -/
structure Certified (rt : Runtime) (result : WSTGLiveCampaignResult) (m : LiveSeen) : Prop where
  /-- `SHA256SUMS` lists the files as they are. -/
  sums : ∃ found, Lists rt m.files found ∧ Holds m.files ("SHA256SUMS", sumsText found)
  /-- So does the result, but for the two files that are written after it is made. -/
  sound : ∀ k d, dget? result.artifacts k = some d → k ≠ "SHA256SUMS" → k ≠ "campaign-result.json" →
    ∃ file, m.files (pathParts k) = some file ∧ d = .str (file.sha256 rt)
  complete : ∀ parts file, m.files parts = some file → parts.getLast? ≠ some "SHA256SUMS" →
    parts ≠ ["campaign-result.json"] →
      dget? result.artifacts (relativeName parts) = some (.str (file.sha256 rt))

/-- The file of the result. -/
def resultFile (rt : Runtime) (result : WSTGLiveCampaignResult) : String × String :=
  ("campaign-result.json", jsonText rt result.asDict)

theorem sealPackage_ensures {campaign : PlannedCampaign} {acc : Account}
    {later : List (String × String)} {findings : List CampaignFinding}
    {requests : List ProofRequest} {benchmark : Option Dict} {k : String}
    (h : Concluding lib catalog config campaign acc later s m)
    (hnew : ∀ k ∈ ["SHA256SUMS", "campaign-result.json"], k ∉ later.map Prod.fst)
    (hk : k ∈ acc.kept.map Prod.fst) :
    Ensures (evidence lib catalog config)
      (sealPackage lib campaign findings requests benchmark k) s (fun result _ m' =>
        result.requestCount = acc.answered.length ∧
          result.observedWstgIds = sortedTexts (acc.answered.flatMap fun e => e.2.wstgIds) ∧
          result.decisions = acc.decisions ∧
          result.observations = acc.answered.map Prod.snd ∧ result.findings = findings ∧
          result.proofRequests = requests ∧ m'.fetches = m.fetches ∧ m'.answered = m.answered ∧
          (∀ e ∈ acc.kept, Holds m'.files e) ∧ Holds m'.files (resultFile lib.rt result) ∧
          Certified lib.rt result m') m := by
  obtain ⟨hsums, hresult, -⟩ := by simpa only [List.forall_mem_cons] using hnew
  have hsumsFresh := h.fresh (by simp [fixedNames]) hsums
  have hresultFresh := h.fresh (by simp [fixedNames]) hresult
  have hsumsPlain : "SHA256SUMS" ∈ plainPaths := fixedName_plain (by simp [fixedNames])
  have hresultPlain : "campaign-result.json" ∈ plainPaths := fixedName_plain (by simp [fixedNames])
  unfold sealPackage
  refine ensures_bind (writeSha256s_ensures (Q := fun _ s' m' => ∃ found, Lists lib.rt m.files found ∧
    s' = s.sealed lib.rt found ∧ m' = m.wrote (pathParts "SHA256SUMS") (sumsText found))
    fun found hfound => ⟨found, hfound, rfl, rfl⟩) ?_
  rintro _ s₁ m₁ ⟨found, hfound, hs₁, hm₁⟩
  have hlisted := h.standing.recorded.listed hfound
  have hrecorded : Recorded lib.rt s₁.artifacts m₁ (acc.kept ++ [("SHA256SUMS", sumsText found)]) := by
    rw [hs₁, hm₁]
    exact @Recorded.wrote _ { s with artifacts := listed s.artifacts found } _ _ _ _ hlisted
      hsumsPlain hsumsFresh
  have hresultNew : "campaign-result.json" ∉
      (acc.kept ++ [("SHA256SUMS", sumsText found)]).map Prod.fst := by
    rw [List.map_append, List.mem_append, not_or]
    exact ⟨hresultFresh, by simp⟩
  refine ensures_get_bind (ensures_bind (writeText_wrote hrecorded hresultPlain hresultNew) ?_)
  rintro _ s₂ m₂ ⟨-, -, hm₂, hrecorded₂⟩
  refine ensures_bind (writeSha256s_ensures (Q := fun _ _ m' => ∃ found, Lists lib.rt m₂.files found ∧
    m' = m₂.wrote (pathParts "SHA256SUMS") (sumsText found))
    fun found hfound => ⟨found, hfound, rfl⟩) ?_
  rintro _ s₃ m₃ ⟨found₂, hfound₂, rfl⟩
  -- the two files that change after the result is made
  have hsame : ∀ parts, parts ≠ pathParts "SHA256SUMS" → parts ≠ pathParts "campaign-result.json" →
      (m₂.wrote (pathParts "SHA256SUMS") (sumsText found₂)).files parts = m₁.files parts := by
    intro parts hne hne'
    refine (Function.update_of_ne hne _ _).trans ?_
    rw [hm₂]
    exact Function.update_of_ne hne' _ _
  have hkeys : (dget? s₁.artifacts k).isSome = true := by
    obtain ⟨e, he, rfl⟩ := List.mem_map.mp hk
    exact (hrecorded.filed.contents _
      (List.mem_map_of_mem (List.mem_append_left _ he))).2.2
  refine ensures_pure ⟨?_, ?_, ?_, ?_, rfl, rfl, ?_, ?_, fun e he => ?_, ?_, ?_⟩
  · rw [hs₁]
    show s.observations.length = _
    rw [h.standing.observations, List.length_map]
  · rw [hs₁, ← h.standing.observed]
    rfl
  · rw [hs₁, ← h.standing.decisions]
    rfl
  · rw [hs₁, ← h.standing.observations]
    rfl
  · rw [hm₂, hm₁]
    rfl
  · rw [hm₂, hm₁]
    rfl
  · have hheld := hrecorded₂.holds (List.mem_append_left _ (List.mem_append_left _ he))
    have hname : e.1 ∈ acc.kept.map Prod.fst := List.mem_map_of_mem he
    exact hheld.wrote (h.standing.recorded.plain he) fun heq => hsumsFresh (heq ▸ hname)
  · have hheld := hrecorded₂.holds (List.mem_append_right _ (List.mem_singleton_self _))
    exact hheld.wrote hresultPlain (by simp)
  · refine ⟨⟨found₂, hfound₂.wrote, Function.update_self ..⟩, fun name d hd hne hne' => ?_,
      fun parts file hfile hlast hne => ?_⟩
    · rw [dget?_dset_dget hkeys] at hd
      obtain ⟨hname, file, hfile, rfl⟩ := hrecorded.filed.digests name d hd
      refine ⟨file, ?_, rfl⟩
      rw [hsame]
      · exact hfile
      · exact fun heq => hne (pathParts_injOn hname hsumsPlain heq)
      · exact fun heq => hne' (pathParts_injOn hname hresultPlain heq)
    · have hresultParts : pathParts "campaign-result.json" = ["campaign-result.json"] := by decide
      have hnotSums : parts ≠ pathParts "SHA256SUMS" := by
        rintro rfl
        rw [pathParts_sums] at hlast
        exact hlast rfl
      have hfile₁ := (hsame parts hnotSums (hresultParts ▸ hne)).symm.trans hfile
      have hfile₀ : m.files parts = some file := by
        rw [← hfile₁, hm₁]
        exact (Function.update_of_ne hnotSums _ _).symm
      -- the first listing shows the file
      obtain ⟨f, hf, rfl⟩ := List.mem_map.mp
        ((hfound.complete parts).mpr ⟨by rw [hfile₀]; rfl, hlast⟩)
      have hsome : (dget? s₁.artifacts (relativeName f.1)).isSome = true := by
        have hshown : (dget? (listed s.artifacts found) (relativeName f.1)).isSome = true :=
          isSome_listed (Or.inr (List.mem_map_of_mem hf))
        rw [hs₁]
        show (dget? (dset _ _ _) _).isSome = true
        rw [dget?_dset]
        split_ifs
        · rfl
        · exact hshown
      obtain ⟨d, hd⟩ := Option.isSome_iff_exists.mp hsome
      obtain ⟨-, content, hcontent, rfl⟩ := hrecorded.filed.digests _ d hd
      rw [hfound.named f hf, hfile₁] at hcontent
      obtain rfl := Option.some.inj hcontent
      rw [dget?_dset_dget hkeys, hd]

end digests

/-! ### The whole campaign -/

/-- **The package shows what is returned**: the files hold the plan, the observations, the findings and
the requests of the result. The log of decisions was written before its last one. -/
structure Package (rt : Runtime) (campaign : PlannedCampaign) (result : WSTGLiveCampaignResult)
    (m : LiveSeen) : Prop where
  plan : Holds m.files (planFile rt campaign)
  queue : Holds m.files (queueFile rt campaign)
  each : ∀ e ∈ m.answered, Holds m.files (observationFile rt e)
  observations : Holds m.files (observationsFile rt result.observations)
  findings : Holds m.files (findingsFile rt result.findings)
  requests : Holds m.files (requestsFile rt result.proofRequests)
  decisions : Holds m.files (decisionsFile rt result.decisions.dropLast)
  state : ∃ s : LiveState, Holds m.files (finalStateFile rt campaign s) ∧
    s.decisions = result.decisions ∧ s.executedActions = result.requestCount ∧
    sortedTexts s.observedWstgIds = result.observedWstgIds ∧
    s.findingIds = result.findings.map CampaignFinding.findingId ∧
    s.proofRequestIds = result.proofRequests.map ProofRequest.proofRequestId
  result : Holds m.files (resultFile rt result)

/-- **What a campaign that returns has left behind.** -/
structure Outcome (lib : LiveLibrary) (catalog : WSTGCatalog) (config : WSTGLiveCampaignConfig)
    (campaign : PlannedCampaign) (result : WSTGLiveCampaignResult) (m : LiveSeen) : Prop where
  planned : Planned lib catalog config campaign
  complete : m.answered.map Prod.fst = campaign.actions
  fetches : m.fetches = campaign.actions
  observations : result.observations = m.answered.map Prod.snd
  requestCount : result.requestCount = campaign.actions.length
  observed : result.observedWstgIds = sortedTexts (m.answered.flatMap fun e => e.2.wstgIds)
  decisions : ∃ closing, result.decisions = openingDecision :: (takenDecisions m.answered ++ closing)
  logged : ∃ names, Logged result.decisions names ∧
    ∀ name ∈ names, (m.files (pathParts name)).isSome = true
  findings : ∃ surface, SurfaceOf lib result.observations surface ∧
    candidateFindings lib result.observations surface = .ok result.findings ∧
    Holds m.files (surfaceFile lib.rt surface)
  requests : buildProofRequests lib.rt.lower campaign.plan
    (m.answered.flatMap fun e => e.2.wstgIds) config.proofRequestLimit = .ok result.proofRequests
  package : Package lib.rt campaign result m
  certified : Certified lib.rt result m

section runs

variable {lib : LiveLibrary} {catalog : WSTGCatalog} {config : WSTGLiveCampaignConfig}
  {files : Files}

/-- **The whole run**, part by part. -/
theorem run_ensures : Ensures (evidence lib catalog config) (runWstgLiveCampaign lib catalog config) {}
    (fun result _ m => ∃ campaign, Outcome lib catalog config campaign result m)
    { files := files } := by
  unfold runWstgLiveCampaign
  refine ensures_bind preparePlan_standing ?_
  rintro campaign s₁ m₁ ⟨hplanned, h₁⟩
  refine ensures_bind (runActions_standing hplanned h₁ rfl) ?_
  rintro _ s₂ m₂ ⟨all, hall, h₂⟩
  have hloop : Concluding lib catalog config campaign (actionAccount lib.rt campaign all) [] s₂ m₂ :=
    ⟨hplanned, hall, (List.append_nil _).symm, h₂⟩
  refine ensures_bind (deriveSurface_concluding hloop) ?_
  rintro surface s₃ m₃ ⟨hsurface, d, h₃⟩
  refine ensures_bind (bindFindings_concluding h₃ (by simp [surfaceFile])) ?_
  rintro findings s₄ m₄ ⟨hfindings, acc₄, h₄, ha₄, hf₄, hr₄⟩
  replace ha₄ : acc₄.answered = all := ha₄
  replace hf₄ : acc₄.findings = findings := hf₄
  replace hr₄ : acc₄.requests = [] := hr₄
  refine ensures_bind (requestProof_concluding h₄ (by simp [surfaceFile, findingsFile])) ?_
  rintro requests s₅ m₅ ⟨hrequests, acc₅, h₅, ha₅, hf₅, hr₅⟩
  rw [ha₄] at hrequests ha₅
  rw [hf₄] at hf₅
  rw [hr₄, List.nil_append] at hr₅
  have hpackage : ∀ k ∈ (fixedNames.drop 5).take 6, k ∉ (fixedNames.drop 2).take 3 := by
    decide +kernel
  have hseal : ∀ k ∈ ["SHA256SUMS", "campaign-result.json"], k ∉ (fixedNames.drop 2).take 9 := by
    decide +kernel
  refine ensures_bind (writePackage_concluding h₅ hpackage) ?_
  rintro ⟨benchmark, ref⟩ s₆ m₆ ⟨href, acc₆, before, state, report, last, h₆, ha₆, hf₆, hr₆, hd₆⟩
  obtain rfl : ref = "state/final-campaign-state.json" := href
  rw [ha₅] at ha₆
  rw [hf₅] at hf₆
  rw [hr₅] at hr₆
  have hkept := h₆.kept
  rw [ha₆, ha₅] at hkept
  refine ensures_mono (sealPackage_ensures h₆ hseal ?_) ?_
  · rw [hkept]
    simp [finalStateFile]
  rintro result s₇ m₇ ⟨hcount, hobserved, hdecisions, hobservations, rfl, rfl, hfetches, hreplies,
    hheld, hresult, hcertified⟩
  have hanswered : m₇.answered = all := by rw [hreplies, h₆.standing.answered, ha₆]
  rw [ha₆] at hcount hobserved hobservations
  have hlater : ∀ e ∈ ([surfaceFile lib.rt surface, findingsFile lib.rt result.findings,
      requestsFile lib.rt result.proofRequests, decisionsFile lib.rt acc₅.decisions,
      observationsFile lib.rt (all.map Prod.snd), finalStateFile lib.rt campaign s₆] :
        List (String × String)), Holds m₇.files e := by
    intro e he
    refine hheld e ?_
    rw [hkept]
    refine List.mem_append_right _ ?_
    simp only [List.mem_cons, List.mem_append, List.not_mem_nil, or_false] at he ⊢
    tauto
  simp only [List.forall_mem_cons] at hlater
  obtain ⟨hsurfaceFile, hfindingsFile, hrequestsFile, hdecisionsFile, hobservationsFile, hstateFile,
    -⟩ := hlater
  have hactions : ∀ e ∈ actionFiles lib.rt campaign all, Holds m₇.files e := fun e he =>
    hheld e (by rw [hkept]; exact List.mem_append_left _ he)
  have hlogged := h₆.standing.logged
  rw [← hdecisions] at hlogged
  exact ⟨campaign,
    { planned := hplanned
      complete := by rw [hanswered, hall]
      fetches := by rw [hfetches, h₆.standing.fetches, ha₆, hall]
      observations := by rw [hanswered, hobservations]
      requestCount := by rw [hcount, ← hall, List.length_map]
      observed := by rw [hobserved, hanswered]
      decisions := ⟨acc₆.closing, by rw [hdecisions, Account.decisions, ha₆, hanswered]⟩
      logged := ⟨_, hlogged, fun name hname => by
        obtain ⟨e, he, rfl⟩ := List.mem_map.mp hname
        have hfile : Holds m₇.files e := hheld e he
        rw [hfile]
        rfl⟩
      findings := ⟨surface, hobservations ▸ hsurface, hobservations ▸ hfindings, hsurfaceFile⟩
      requests := by rw [hanswered]; exact hrequests
      package :=
        { plan := hactions _ List.mem_cons_self
          queue := hactions _ (List.mem_cons_of_mem _ List.mem_cons_self)
          each := fun e he => hactions _
            (List.mem_cons_of_mem _ (List.mem_cons_of_mem _ (List.mem_map_of_mem (hanswered ▸ he))))
          observations := hobservations ▸ hobservationsFile
          findings := hfindingsFile
          requests := hrequestsFile
          decisions := by
            rw [hdecisions, hd₆, List.dropLast_concat]
            exact hdecisionsFile
          state := ⟨s₆, hstateFile, by rw [h₆.standing.decisions, hdecisions],
            by rw [h₆.standing.executed, hcount, ha₆],
            by rw [h₆.standing.observed, hobserved, ha₆],
            by rw [h₆.standing.findings, hf₆], by rw [h₆.standing.requests, hr₆]⟩
          result := hresult }
      certified := hcertified }⟩

end runs

end Aotp.Wstg
