import Aotp.Wstg.LiveRuns

/-!
# What a live campaign promises

For any executor and any directory that keeps what is written, at every cut of a run:

* `fetch_after_evidence` — **no action without the evidence of those before it**: the plan, the queue
  and every earlier observation are on disk, and the action is the next one of the queue.
* `evidence_immutable` — nothing is written outside the directory, and no evidence changes again.

And where a campaign returns:

* `decisions_accounted` — its log is numbered, none of its decisions is open, and each has its evidence
  on disk.
* `package_faithful` — the files are those of what it returns.
* `digests_certify` — the digests are those of the files.
* `proof_accounted` — each ready test is observed or requested, up to the limit.
* `findings_supported` — no finding is more than a candidate, and what it rests on is on disk.
-/

namespace Aotp.Wstg

open PyData Aotp.Tools Effects Manifests

/-- What a trace shows of a campaign that finds some files. -/
def shown (files : Files) (tr : List LiveStep) : LiveSeen :=
  tr.foldl LiveSeen.after { files := files }

/-- The run of a campaign. -/
def campaignRun (lib : LiveLibrary) (catalog : WSTGCatalog) (config : WSTGLiveCampaignConfig) :
    Prog LiveOp LiveRes (Except Exc WSTGLiveCampaignResult × LiveState) :=
  Proc.start (runWstgLiveCampaign lib catalog config) {}

variable {lib : LiveLibrary} {catalog : WSTGCatalog} {config : WSTGLiveCampaignConfig}
  {files : Files} {tr tr₁ tr₂ : List LiveStep}
  {p : Prog LiveOp LiveRes (Except Exc WSTGLiveCampaignResult × LiveState)}
  {result : WSTGLiveCampaignResult} {s : LiveState}

theorem shown_eq_run : shown files tr = (evidence lib catalog config).run { files := files } tr :=
  rfl

/-! ### A run -/

theorem splitOnSep_intercalate {l : List (List Char)} (hne : l ≠ []) (h : ∀ part ∈ l, '/' ∉ part) :
    splitOnSep '/' (List.intercalate ['/'] l) = l := by
  induction l with
  | nil => exact absurd rfl hne
  | cons part rest ih =>
    rw [List.forall_mem_cons] at h
    have hplain : ∀ c ∈ part, c ≠ '/' := fun c hc heq => h.1 (heq ▸ hc)
    cases rest with
    | nil =>
      rw [List.intercalate_singleton]
      exact splitOnSep_of_not_mem hplain
    | cons next rest =>
      rw [List.intercalate_cons_cons, List.append_assoc, List.singleton_append,
        splitOnSep_append hplain, ih (List.cons_ne_nil _ _) h.2]

/-- The name of a place stands for it. -/
theorem pathParts_relativeName (k : String) :
    pathParts (relativeName (pathParts k)) = pathParts k := by
  have hslash : "/".toList = ['/'] := by decide
  have hparts : ∀ l : List (List Char), (∀ part ∈ l, '/' ∉ part) →
      (∀ part ∈ l, (!part.isEmpty && part != ['.']) = true) →
      pathParts (relativeName (l.map String.ofList)) = l.map String.ofList := by
    intro l hplain hkept
    unfold pathParts relativeName
    rw [String.toList_intercalate, hslash, List.map_map]
    have hid : l.map (String.toList ∘ String.ofList) = l := by
      simp [Function.comp_def, String.toList_ofList]
    rw [hid]
    by_cases hnil : l = []
    · rw [hnil]
      decide
    · rw [splitOnSep_intercalate hnil hplain, List.filter_eq_self.mpr hkept]
  unfold pathParts
  refine hparts _ (fun part hpart => ?_) fun part hpart => (List.mem_filter.mp hpart).2
  exact not_mem_of_mem_splitOnSep (List.mem_filter.mp hpart).1

/-- The files written so far, but for the digests. -/
def honestListing (rt : Runtime) (m : LiveSeen) : List (List String × String) :=
  (m.written.dedup.filter fun parts => parts.getLast? != some "SHA256SUMS").map fun parts =>
    (parts, ((m.files parts).map (StoredFile.sha256 rt)).getD "")

/-- An answer to an action. -/
def rootReply (action : PlannedAction) : WSTGLiveObservation where
  actionId := action.actionId
  method := "GET"
  url := "http://localhost:3000/"
  statusCode := 200
  reason := "OK"
  headers := []
  contentType := "text/html"
  bodySha256 := "0"
  bodyExcerpt := ""
  bodySizeBytes := 0
  elapsedMs := 1
  wstgIds := action.wstgIds

/-- Surroundings that answer each action, keep each file and show what there is. -/
def honestAnswer (rt : Runtime) (m : LiveSeen) : (o : LiveOp) → LiveRes o
  | .fetch action => .ok (rootReply action)
  | .write _ content => .written (rt.sha256 content)
  | .listing => .ok (honestListing rt m)

/-- The files are those that were written, and the answers name their actions. -/
structure Tidy (m : LiveSeen) : Prop where
  places : ∀ parts, (m.files parts).isSome = true ↔ parts ∈ m.written
  named : ∀ parts ∈ m.written, pathParts (relativeName parts) = parts
  replies : ∀ e ∈ m.answered, e.2.actionId = e.1.actionId

theorem Tidy.lists {rt : Runtime} {m : LiveSeen} (h : Tidy m) :
    Lists rt m.files (honestListing rt m) := by
  have hfst : (honestListing rt m).map Prod.fst =
      m.written.dedup.filter fun parts => parts.getLast? != some "SHA256SUMS" := by
    rw [honestListing, List.map_map]
    exact List.map_id _
  refine ⟨?_, fun f hf => ?_, fun parts => ?_, fun f hf => ?_⟩
  · rw [hfst]
    exact (List.nodup_dedup _).filter _
  · obtain ⟨parts, hparts, rfl⟩ := List.mem_map.mp hf
    have hwritten := List.mem_dedup.mp (List.mem_filter.mp hparts).1
    obtain ⟨file, hfile⟩ := Option.isSome_iff_exists.mp ((h.places parts).mpr hwritten)
    exact ⟨file, hfile, by simp [hfile]⟩
  · rw [hfst, List.mem_filter, List.mem_dedup, ← h.places, bne_iff_ne]
  · have hmem : f.1 ∈ (honestListing rt m).map Prod.fst := List.mem_map_of_mem hf
    rw [hfst] at hmem
    exact h.named _ (List.mem_dedup.mp (List.mem_filter.mp hmem).1)

/-- The surroundings, as a monitor. -/
def honest (rt : Runtime) : Monitor LiveOp LiveRes LiveSeen where
  allowed _ _ := True
  legal m o r := r = honestAnswer rt m o
  next m o r := m.after ⟨o, r⟩

/-- One step of a run in them. -/
theorem honest_step {m : LiveSeen} {o : LiveOp} {r : LiveRes o} (h : Tidy m)
    (hallowed : (evidence lib catalog config).allowed m o) (hr : r = honestAnswer lib.rt m o) :
    (evidence lib catalog config).legal m o r ∧ Tidy (m.after ⟨o, r⟩) := by
  subst hr
  cases o with
  | fetch action =>
    refine ⟨trivial, h.places, h.named, fun e he => ?_⟩
    rcases List.mem_append.mp he with he | he
    · exact h.replies e he
    · rw [List.mem_singleton.mp he]
      rfl
  | listing => exact ⟨h.lists, h⟩
  | write parts content =>
    obtain ⟨relative, rfl⟩ := (show MayWrite m parts from hallowed).named
    refine ⟨rfl, fun parts => ?_, fun parts hparts => ?_, h.replies⟩
    · show (Function.update m.files _ _ parts).isSome = true ↔ parts ∈ m.written ++ [_]
      rw [List.mem_append, List.mem_singleton, ← h.places]
      by_cases heq : parts = pathParts relative
      · rw [heq, Function.update_self]
        simp
      · rw [Function.update_of_ne heq]
        simp [heq]
    · rcases List.mem_append.mp hparts with hparts | hparts
      · exact h.named parts hparts
      · rw [List.mem_singleton.mp hparts]
        exact pathParts_relativeName relative

/-- The run of a campaign in such surroundings, in an empty directory. -/
def honestEnd (lib : LiveLibrary) (catalog : WSTGCatalog) (config : WSTGLiveCampaignConfig) :
    List LiveStep × (Except Exc WSTGLiveCampaignResult × LiveState) × LiveSeen :=
  exec (fun m o => (honestAnswer lib.rt m o, m.after ⟨o, honestAnswer lib.rt m o⟩))
    (campaignRun lib catalog config) { files := fun _ => none }

/-- Whether a step asks for an action. -/
def isFetch : LiveStep → Bool
  | ⟨.fetch _, _⟩ => true
  | _ => false

/-- Whether the run returns, and asks for an action on the way. -/
def returnsAfterFetch (lib : LiveLibrary) (catalog : WSTGCatalog)
    (config : WSTGLiveCampaignConfig) : Bool :=
  (honestEnd lib catalog config).2.1.1.toOption.isSome &&
    (honestEnd lib catalog config).1.any isFetch

/-- A campaign that returns there is a run that the theorems speak of. -/
theorem honest_run (h : returnsAfterFetch lib catalog config = true) : ∃ tr result s,
    Reach (campaignRun lib catalog config) tr (.pure (.ok result, s)) ∧
      (evidence lib catalog config).Legal { files := fun _ => none } tr ∧
      (∃ tr₁ action answer tr₂, tr = tr₁ ++ ⟨.fetch action, answer⟩ :: tr₂) ∧
      ∀ e ∈ (shown (fun _ => none) tr).answered, e.2.actionId = e.1.actionId := by
  rw [returnsAfterFetch, Bool.and_eq_true] at h
  obtain ⟨hsome, hany⟩ := h
  have hreach : Reach (campaignRun lib catalog config) (honestEnd lib catalog config).1
      (.pure (honestEnd lib catalog config).2.1) := exec_reach _ _ _
  have hhonest := (exec_legal (honest lib.rt) (honestAnswer lib.rt) (fun _ _ => rfl)
    (campaignRun lib catalog config) { files := fun _ => none }).1
  have hempty : Tidy { files := fun _ => none } :=
    ⟨fun parts => by simp, List.forall_mem_nil _, List.forall_mem_nil _⟩
  obtain ⟨hlegal, -, -, -, htidy⟩ := wp_simulates (evidence lib catalog config)
    (W := honest lib.rt) (R := fun m w => m = w ∧ Tidy m) (fun m w o r hR hallowed hr => by
      obtain ⟨rfl, htidy⟩ := hR
      obtain ⟨hlegal, htidy'⟩ := honest_step htidy hallowed hr
      exact ⟨hlegal, rfl, htidy'⟩) run_ensures.post ⟨rfl, hempty⟩ hreach hhonest
  obtain ⟨step, hstep, hfetch⟩ := List.any_eq_true.mp hany
  obtain ⟨before, after, htr⟩ := List.append_of_mem hstep
  generalize (honestEnd lib catalog config).2.1 = out at hsome hreach
  obtain ⟨_ | result, s⟩ := out
  · cases hsome
  obtain ⟨action | _ | _, answer⟩ := step
  · exact ⟨_, result, s, hreach, hlegal, ⟨before, action, answer, after, htr⟩, htidy.replies⟩
  · cases hfetch
  · cases hfetch

/-- A library for texts that need none of the rarer cases. -/
def sampleLive : LiveLibrary where
  host := plainHosts
  rt := Tools.sampleRuntime
  startTags _ := []

/-- A local target with one path. -/
def sampleTarget : LiveTarget where
  targetAlias := "local-target"
  baseUrl := "http://localhost:3000"
  authorizationReference := "authorization-1"
  networkExposure := "loopback-only"
  implementedLiveTarget := true
  resetRequiredBeforeCampaign := true
  safePaths := ["/"]

/-- A campaign that asks for one proof. -/
def sampleConfig : WSTGLiveCampaignConfig where
  evidenceDir := "/evidence"
  targetRuntime := sampleTarget
  proofRequestLimit := 1

set_option maxRecDepth 100000 in
theorem sample_returns : returnsAfterFetch sampleLive sampleCatalog sampleConfig = true := by
  decide +kernel

theorem sample_run : ∃ tr result s,
    Reach (campaignRun sampleLive sampleCatalog sampleConfig) tr (.pure (.ok result, s)) ∧
      (evidence sampleLive sampleCatalog sampleConfig).Legal { files := fun _ => none } tr ∧
      (∃ tr₁ action answer tr₂, tr = tr₁ ++ ⟨.fetch action, answer⟩ :: tr₂) ∧
      ∀ e ∈ (shown (fun _ => none) tr).answered, e.2.actionId = e.1.actionId :=
  honest_run sample_returns

/-! ### At every cut -/

/-- Every operation is one the harness may perform. -/
theorem run_allowed (hr : Reach (campaignRun lib catalog config) tr p)
    (hl : (evidence lib catalog config).Legal { files := files } tr) :
    (evidence lib catalog config).Allowed { files := files } tr :=
  (ensures_sound run_ensures hr hl).1

/-- **No action without the evidence of those before it.** -/
theorem fetch_after_evidence (hr : Reach (campaignRun lib catalog config) tr p)
    (hl : (evidence lib catalog config).Legal { files := files } tr) {action : PlannedAction}
    {answer : Except Exc WSTGLiveObservation}
    (htr : tr = tr₁ ++ ⟨.fetch action, answer⟩ :: tr₂) :
    ∃ campaign, Planned lib catalog config campaign ∧
      MayFetch lib.rt campaign (shown files tr₁) action := by
  have hallowed := run_allowed hr hl
  rw [htr] at hallowed
  exact hallowed.of_append

theorem sample_fetch_after_evidence : ∃ tr₁ action campaign,
    Planned sampleLive sampleCatalog sampleConfig campaign ∧
      MayFetch sampleLive.rt campaign (shown (fun _ => none) tr₁) action := by
  obtain ⟨tr, result, s, hr, hl, ⟨tr₁, action, answer, tr₂, htr⟩, -⟩ := sample_run
  exact ⟨tr₁, action, fetch_after_evidence hr hl htr⟩

/-- What is written once is not written again. -/
theorem files_of_allowed {m : LiveSeen} (hallowed : (evidence lib catalog config).Allowed m tr)
    {parts : List String} (hparts : parts ∈ m.written) (hne : parts ≠ ["SHA256SUMS"]) :
    ((evidence lib catalog config).run m tr).files parts = m.files parts := by
  induction tr generalizing m with
  | nil => rfl
  | cons step tr ih =>
    obtain ⟨o, r⟩ := step
    obtain ⟨hnow, hlater⟩ := hallowed
    have hkept : parts ∈ ((evidence lib catalog config).next m o r).written ∧
        ((evidence lib catalog config).next m o r).files parts = m.files parts := by
      cases o with
      | fetch action => cases r <;> exact ⟨hparts, rfl⟩
      | listing => exact ⟨hparts, rfl⟩
      | write parts' content =>
        have hother : parts ≠ parts' := by
          rintro rfl
          rcases (show MayWrite m parts from hnow).fresh with hfresh | hsums
          · exact hfresh hparts
          · exact hne hsums
        cases r with
        | written sha256 => exact ⟨List.mem_append_left _ hparts, Function.update_of_ne hother _ _⟩
        | failed left e => exact ⟨hparts, Function.update_of_ne hother _ _⟩
    rw [Monitor.run_cons, ih hlater hkept.1]
    exact hkept.2

/-- **Nothing is written outside the directory, and no evidence changes again**, but for the list of the
digests. -/
theorem evidence_immutable (hr : Reach (campaignRun lib catalog config) tr p)
    (hl : (evidence lib catalog config).Legal { files := files } tr) :
    (∀ parts content answer, (⟨.write parts content, answer⟩ : LiveStep) ∈ tr → ".." ∉ parts) ∧
      ∀ tr₁ tr₂, tr = tr₁ ++ tr₂ → ∀ parts ∈ (shown files tr₁).written,
        parts ≠ ["SHA256SUMS"] → (shown files tr).files parts = (shown files tr₁).files parts := by
  have hallowed := run_allowed hr hl
  constructor
  · intro parts content answer hmem
    obtain ⟨before, after, rfl⟩ := List.append_of_mem hmem
    exact (show MayWrite _ parts from hallowed.of_append).inside
  · rintro before after rfl parts hparts hne
    have hrest := ((evidence lib catalog config).allowed_append.mp hallowed).2
    rw [@shown_eq_run lib catalog config, Monitor.run_append]
    exact files_of_allowed hrest hparts hne

theorem sample_evidence_immutable : ∃ tr result s,
    Reach (campaignRun sampleLive sampleCatalog sampleConfig) tr (.pure (.ok result, s)) ∧
      ∀ tr₁ tr₂, tr = tr₁ ++ tr₂ → ∀ parts ∈ (shown (fun _ => none) tr₁).written,
        parts ≠ ["SHA256SUMS"] →
          (shown (fun _ => none) tr).files parts = (shown (fun _ => none) tr₁).files parts := by
  obtain ⟨tr, result, s, hr, hl, -⟩ := sample_run
  exact ⟨tr, result, s, hr, (evidence_immutable hr hl).2⟩

/-! ### Where a campaign returns -/

/-- What it leaves behind. -/
theorem run_outcome (hr : Reach (campaignRun lib catalog config) tr (.pure (.ok result, s)))
    (hl : (evidence lib catalog config).Legal { files := files } tr) :
    ∃ campaign, Outcome lib catalog config campaign result (shown files tr) :=
  (ensures_sound run_ensures hr hl).2 result s rfl

/-- **A log that accounts for the campaign.** -/
structure LoggedRun (result : WSTGLiveCampaignResult) (m : LiveSeen) : Prop where
  numbered : result.decisions.map CampaignDecision.step = List.range' 1 result.decisions.length
  settled : ∀ d ∈ result.decisions, d.status ≠ .started
  evidenced : ∀ d ∈ result.decisions, d.evidenceRefs ≠ [] ∧
    ∀ ref ∈ d.evidenceRefs, (m.files (pathParts ref)).isSome = true
  /-- Each action has its decision, which tells whether the observation was a good one. -/
  actions : ∀ i e, m.answered[i]? = some e → ∃ d, result.decisions[i + 1]? = some d ∧
    d.action = e.1.actionType ∧ (d.status = .completed ↔ e.2.ok = true) ∧
    d.evidenceRefs = [observationName e.1]

/-- **The log accounts for the whole campaign.** -/
theorem decisions_accounted (hr : Reach (campaignRun lib catalog config) tr (.pure (.ok result, s)))
    (hl : (evidence lib catalog config).Legal { files := files } tr) :
    LoggedRun result (shown files tr) := by
  obtain ⟨campaign, houtcome⟩ := run_outcome hr hl
  obtain ⟨names, hlogged, hnames⟩ := houtcome.logged
  obtain ⟨closing, hdecisions⟩ := houtcome.decisions
  refine ⟨hlogged.steps, hlogged.settled, fun d hd => ⟨(hlogged.evidence d hd).1, fun ref href =>
    hnames ref ((hlogged.evidence d hd).2 ref href)⟩, fun i e he => ?_⟩
  have hi : i < (takenDecisions (shown files tr).answered).length := by
    rw [takenDecisions, List.length_mapIdx]
    exact (List.getElem?_eq_some_iff.mp he).1
  refine ⟨takenDecision (i + 2) e.1 e.2, ?_, rfl, ?_, rfl⟩
  · rw [hdecisions, List.getElem?_cons_succ, List.getElem?_append_left hi, takenDecisions,
      List.getElem?_mapIdx, he]
    rfl
  · show (if e.2.ok = true then DecisionStatus.completed else .observedError) = .completed ↔ _
    split_ifs with hok
    · exact iff_of_true rfl hok
    · exact iff_of_false (fun hstatus => by cases hstatus) hok

theorem sample_decisions_accounted : ∃ tr result s,
    Reach (campaignRun sampleLive sampleCatalog sampleConfig) tr (.pure (.ok result, s)) ∧
      LoggedRun result (shown (fun _ => none) tr) := by
  obtain ⟨tr, result, s, hr, hl, -⟩ := sample_run
  exact ⟨tr, result, s, hr, decisions_accounted hr hl⟩

/-- **The files are those of what is returned.** -/
theorem package_faithful (hr : Reach (campaignRun lib catalog config) tr (.pure (.ok result, s)))
    (hl : (evidence lib catalog config).Legal { files := files } tr) :
    ∃ campaign, Planned lib catalog config campaign ∧
      Package lib.rt campaign result (shown files tr) := by
  obtain ⟨campaign, houtcome⟩ := run_outcome hr hl
  exact ⟨campaign, houtcome.planned, houtcome.package⟩

theorem sample_package_faithful : ∃ tr result campaign,
    Planned sampleLive sampleCatalog sampleConfig campaign ∧
      Package sampleLive.rt campaign result (shown (fun _ => none) tr) := by
  obtain ⟨tr, result, s, hr, hl, -⟩ := sample_run
  exact ⟨tr, result, package_faithful hr hl⟩

/-- **The digests are those of the files.** -/
theorem digests_certify (hr : Reach (campaignRun lib catalog config) tr (.pure (.ok result, s)))
    (hl : (evidence lib catalog config).Legal { files := files } tr) :
    Certified lib.rt result (shown files tr) := by
  obtain ⟨campaign, houtcome⟩ := run_outcome hr hl
  exact houtcome.certified

theorem sample_digests_certify : ∃ tr result s,
    Reach (campaignRun sampleLive sampleCatalog sampleConfig) tr (.pure (.ok result, s)) ∧
      Certified sampleLive.rt result (shown (fun _ => none) tr) := by
  obtain ⟨tr, result, s, hr, hl, -⟩ := sample_run
  exact ⟨tr, result, s, hr, digests_certify hr hl⟩

/-- **Each ready test is accounted for**, in the result of an accepted configuration. -/
theorem proof_accounted (hconfig : config.postInit = .ok ())
    (hr : Reach (campaignRun lib catalog config) tr (.pure (.ok result, s)))
    (hl : (evidence lib catalog config).Legal { files := files } tr) :
    ∃ campaign, Planned lib catalog config campaign ∧
      Accounted (readyTests campaign.plan.plannedTests) result.observedWstgIds
        config.proofRequestLimit result.proofRequests := by
  obtain ⟨campaign, houtcome⟩ := run_outcome hr hl
  simp only [WSTGLiveCampaignConfig.postInit, bind_eq_ok, guardE_eq_ok, Bool.and_eq_true,
    decide_eq_true_eq] at hconfig
  obtain ⟨_, -, _, -, hlimit⟩ := hconfig
  have haccounted := ready_accounted (by omega) houtcome.requests
  have hobserved : ∀ id, id ∈ result.observedWstgIds ↔
      id ∈ (shown files tr).answered.flatMap fun e => e.2.wstgIds := by
    intro id
    rw [houtcome.observed, mem_sortedTexts]
  refine ⟨campaign, houtcome.planned, haccounted.bounded, fun item hitem => ?_, fun r hr => ?_⟩
  · rw [hobserved]
    exact haccounted.covered item hitem
  · rw [hobserved]
    exact haccounted.requested r hr

theorem sample_proof_accounted : ∃ (result : WSTGLiveCampaignResult)
    (campaign : PlannedCampaign),
    Planned sampleLive sampleCatalog sampleConfig campaign ∧
      Accounted (readyTests campaign.plan.plannedTests) result.observedWstgIds
        sampleConfig.proofRequestLimit result.proofRequests := by
  obtain ⟨tr, result, s, hr, hl, -⟩ := sample_run
  exact ⟨result, proof_accounted (by decide) hr hl⟩

/-- **What a finding rests on**, as it is on disk. -/
inductive Supported (lib : LiveLibrary) (result : WSTGLiveCampaignResult) (files : Files)
    (f : CampaignFinding) : Prop
  /-- A header is missing from the first observation of the root. -/
  | headers (o : WSTGLiveObservation)
      (root : rootObservation lib.host result.observations = .ok (some o))
      (missing : missingSecurityHeaders lib.rt o.headers ≠ []) (state : f.state = .candidate)
      (evidence : f.evidenceRefs = ["observations/" ++ o.actionId ++ ".json"])
      (held : Holds files ("observations/" ++ o.actionId ++ ".json", jsonText lib.rt o.asDict))
  /-- An answer looks like JSON. -/
  | json (o : WSTGLiveObservation) (mem : o ∈ result.observations)
      (looks : looksLikeJson lib.rt o = true) (state : f.state = .observed)
      (evidence : f.evidenceRefs = ["observations/http-observations.json"])
      (held : Holds files (observationsFile lib.rt result.observations))
  /-- The page has links, scripts or forms. -/
  | page (surface : Surface) (derived : SurfaceOf lib result.observations surface)
      (shows : surface.scripts ≠ [] ∨ surface.forms ≠ [] ∨ surface.links ≠ [])
      (state : f.state = .needsMoreEvidence)
      (evidence : f.evidenceRefs = ["surface/discovered-surface.json"])
      (held : Holds files (surfaceFile lib.rt surface))

theorem rootObservation_mem {host : HostLibrary} {observations : List WSTGLiveObservation}
    {o : WSTGLiveObservation} (h : rootObservation host observations = .ok (some o)) :
    o ∈ observations := by
  induction observations with
  | nil => cases h
  | cons first rest ih =>
    rw [rootObservation] at h
    obtain ⟨parts, -, h⟩ := bind_eq_ok.mp h
    split_ifs at h
    · cases h
      exact List.mem_cons_self
    · exact List.mem_cons_of_mem _ (ih h)

/-- **No finding is more than a candidate, and what it rests on is on disk**, for an executor that names
the actions it answers. -/
theorem findings_supported (hr : Reach (campaignRun lib catalog config) tr (.pure (.ok result, s)))
    (hl : (evidence lib catalog config).Legal { files := files } tr)
    (hnamed : ∀ e ∈ (shown files tr).answered, e.2.actionId = e.1.actionId) :
    ∀ f ∈ result.findings, Supported lib result (shown files tr).files f := by
  obtain ⟨campaign, houtcome⟩ := run_outcome hr hl
  obtain ⟨surface, hsurface, hfindings, hsurfaceFile⟩ := houtcome.findings
  intro f hf
  simp only [candidateFindings, bind_eq_ok] at hfindings
  obtain ⟨root, hroot, _, -, hfindings⟩ := hfindings
  obtain hfindings := Except.ok.inj hfindings
  rw [← hfindings, List.mem_append, List.mem_append] at hf
  rcases hf with (hf | hf) | hf
  · obtain ⟨o, ho, rfl⟩ := List.mem_map.mp hf
    obtain ⟨ho, hmissing⟩ := List.mem_filter.mp ho
    obtain rfl : root = some o := Option.mem_toList.mp ho
    have hmem := rootObservation_mem hroot
    rw [houtcome.observations] at hmem
    obtain ⟨e, he, rfl⟩ := List.mem_map.mp hmem
    have hheld := houtcome.package.each e he
    refine .headers e.2 hroot (by simpa using hmissing) rfl rfl ?_
    rw [hnamed e he]
    exact hheld
  · split_ifs at hf with hany
    · obtain rfl := List.mem_singleton.mp hf
      obtain ⟨o, ho, hlooks⟩ := List.any_eq_true.mp hany
      exact .json o ho hlooks rfl rfl houtcome.package.observations
    · cases hf
  · split_ifs at hf with hempty
    · cases hf
    · obtain rfl := List.mem_singleton.mp hf
      refine .page surface hsurface ?_ rfl rfl hsurfaceFile
      simp only [Bool.and_eq_true, List.isEmpty_iff, not_and_or] at hempty
      tauto

theorem sample_findings_supported : ∃ tr result s,
    Reach (campaignRun sampleLive sampleCatalog sampleConfig) tr (.pure (.ok result, s)) ∧
      ∀ f ∈ result.findings,
        Supported sampleLive result (shown (fun _ => none) tr).files f := by
  obtain ⟨tr, result, s, hr, hl, -, hnamed⟩ := sample_run
  exact ⟨tr, result, s, hr, findings_supported hr hl hnamed⟩

end Aotp.Wstg
