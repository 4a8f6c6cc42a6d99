import Aotp.Lib.UrlJoin
import Aotp.Wstg.EnginePlan
import Aotp.Wstg.LiveRequests

/-!
# The actions of a live campaign

* `PlannedAction`, `PlannedAction.postInit` — an action, and the checks of its constructor.
* `planCampaignActions` — one action for each safe path of the runtime, up to its bound.
* `liveUrls` — `urllib.parse`, as the constructor of the runtime uses it; `sameOriginUrlOf` — the URL of
  an action, where joining may fail.
* `PathsAgree` — planning succeeds with these actions, and each has a URL on the server of the runtime.
* `pathsAgree_iff` — **it is so exactly where no component `..` stands in the query or the fragment of a
  path that is taken, and the port of the base URL can be read**: the constructor of an action splits
  its whole path at slashes, that of the runtime the path of the URL.
-/

namespace Aotp.Wstg

open PyData Aotp.Tools

/-! ### Actions -/

/-- A failed check of an action. -/
def plannerError (message : String) : Exc := .custom "ExecutionPlannerError" message

/-- An action, with all its fields.
Source: `execution_planner.CampaignAction` -/
structure PlannedAction extends CampaignAction where
  actionId : String
  actionType : String
  toolName : String
  wstgIds : List String
  objectiveIds : List String
  reason : String
  requiresHumanApproval : Bool := false
  stateChanging : Bool := false

namespace PlannedAction

/-- `not path.startswith("/") or ".." in path.split("/")`, denied. -/
def safeRelative (path : String) : Bool :=
  "/".toList.isPrefixOf path.toList && !(splitOnSep '/' path.toList).contains "..".toList

/-- Source: `execution_planner.CampaignAction.__post_init__` -/
def postInit (action : PlannedAction) : Except Exc Unit := do
  guardE (safeComponent action.actionId.toList)
    (plannerError "action_id must be a safe lowercase identifier")
  guardE (action.actionType == "http_get")
    (plannerError "Sprint 19 generic harness only plans http_get actions")
  guardE (action.method == "GET")
    (plannerError "Sprint 19 generic harness only allows GET actions")
  guardE (!action.stateChanging)
    (plannerError "state-changing actions are not allowed in Sprint 19")
  guardE (!action.requiresHumanApproval) (plannerError
    "approval-required actions must wait for later controlled action chain support")
  guardE (safeRelative action.path) (plannerError "action path must be a safe relative path")
  guardE (!action.wstgIds.isEmpty) (plannerError "action must map to at least one WSTG id")
  guardE (strip action.reason != "") (plannerError "action reason is required")

end PlannedAction

/-! ### Planning -/

/-- A planned test that is not ready, as the plan of the actions shows it. -/
structure BlockedObjective where
  objectiveId : String
  wstgId : String
  disposition : WSTGPlanDisposition
  reasons : List String

/-- Source: `execution_planner.ExecutionPlan` -/
structure ExecutionPlan where
  actions : List PlannedAction
  blockedObjectives : List BlockedObjective

/-- `f"http-get-{index:02d}"`. -/
def actionId (index : ℕ) : String :=
  let digits := (Nat.repr index).toList
  "http-get-" ++ String.ofList (List.replicate (2 - digits.length) '0' ++ digits)

/-- Source: `execution_planner._wstg_ids_for_path` -/
def wstgIdsForPath (lib : HostLibrary) (path : String) : List String :=
  if path = "/" then ["WSTG-v42-INFO-02", "WSTG-v42-INFO-05", "WSTG-v42-INFO-08"]
  else if path ∈ ["/robots.txt", "/sitemap.xml"] then ["WSTG-v42-INFO-03", "WSTG-v42-INFO-06"]
  else if "/api/".toList <:+: (lib.lower path).toList ∨
      "/rest/".toList.isPrefixOf path.toList = true then ["WSTG-v42-INFO-06", "WSTG-v42-APIT-01"]
  else ["WSTG-v42-INFO-06"]

/-- The ready test of a case: the last one, if there are several.
Source: `execution_planner.plan_campaign_actions`, `ready_by_id` -/
def readyById (plan : WSTGEnginePlan) (wstgId : String) : Option WSTGPlannedTest :=
  (readyTests plan.plannedTests).reverse.find? fun item => item.testCase.val.wstgId == wstgId

/-- The action of a path, before its checks.
Source: `execution_planner.plan_campaign_actions`, the call of `CampaignAction` -/
def actionFor (lib : HostLibrary) (plan : WSTGEnginePlan) (index : ℕ) (path : String) :
    PlannedAction where
  actionId := actionId index
  actionType := "http_get"
  toolName := "http_metadata"
  method := "GET"
  path := path
  wstgIds := wstgIdsForPath lib path
  objectiveIds := (wstgIdsForPath lib path).filterMap fun wstgId =>
    (readyById plan wstgId).map WSTGPlannedTest.objectiveId
  reason := "GET " ++ path ++
    " is same-origin, read-only, and mapped to executable WSTG discovery evidence"

/-- Source: `execution_planner.plan_campaign_actions`, the body of the loop -/
def planAction (lib : HostLibrary) (plan : WSTGEnginePlan) (index : ℕ) (path : String) :
    Except Exc PlannedAction := do
  (actionFor lib plan index path).postInit
  pure (actionFor lib plan index path)

/-- `items[:stop]`. -/
def sliceTo {α : Type} (items : List α) (stop : ℤ) : List α :=
  if stop < 0 then items.take (items.length - stop.natAbs) else items.take stop.toNat

/-- Source: `execution_planner.plan_campaign_actions`, `blocked` -/
def blockedObjectives (plan : WSTGEnginePlan) : List BlockedObjective :=
  (plan.plannedTests.filter fun item => item.disposition ≠ .ready).map fun item =>
    ⟨item.objectiveId, item.testCase.val.wstgId, item.disposition, item.reasons⟩

/-- Source: `execution_planner.plan_campaign_actions` -/
def planCampaignActions (lib : HostLibrary) (plan : WSTGEnginePlan)
    (runtime : CampaignTargetRuntime) : Except Exc ExecutionPlan := do
  guardE runtime.implementedLiveTarget
    (targetRuntimeError "target runtime is not live-executable")
  let actions ← mapIdxE (planAction lib plan) 1 (sliceTo runtime.safePaths runtime.maxActions)
  pure ⟨actions, blockedObjectives plan⟩

/-! ### URLs -/

/-- `urllib.parse`, as live campaigns use it; what joining, the network location and the path are is
told where splitting succeeds. -/
def liveUrls (lib : HostLibrary) (requote : String → String) : LiveUrls where
  toUrls := splitUrls lib
  urljoin base url := match urljoin lib base url with
    | .ok joined => joined
    | .error _ => url
  netloc url := match PyData.urlsplit lib url with
    | .ok parts => String.ofList parts.netloc
    | .error _ => ""
  path url := match PyData.urlsplit lib url with
    | .ok parts => String.ofList parts.path
    | .error _ => ""
  requote := requote

/-- The URL of an action, where joining may fail.
Source: `wstg_live_campaign._same_origin_url` -/
def sameOriginUrlOf (lib : HostLibrary) (baseUrl path : String) : Except Exc String := do
  let candidate ← urljoin lib baseUrl path
  let base ← PyData.urlsplit lib baseUrl
  let parsed ← PyData.urlsplit lib candidate
  let port ← parsed.port lib
  let basePort ← base.port lib
  guardE (parsed.scheme == base.scheme && parsed.hostname lib == base.hostname lib &&
      port == basePort)
    (liveError "derived URL escaped the approved target origin")
  pure candidate

/-! ### What should be planned -/

/-- Planning succeeds with one `GET` for each safe path in order, up to the bound; their identifiers
differ, and each path has a URL on the server of the runtime. -/
def PathsAgree (lib : HostLibrary) (runtime : CampaignTargetRuntime) (plan : WSTGEnginePlan) : Prop :=
  ∃ result, planCampaignActions lib plan runtime = .ok result ∧
    result.actions.map (fun action => action.path) =
      runtime.safePaths.take runtime.maxActions.toNat ∧
    (∀ action ∈ result.actions, action.method = "GET") ∧
    (result.actions.map PlannedAction.actionId).Nodup ∧
    ∀ action ∈ result.actions, ∃ url,
      sameOriginUrlOf lib runtime.normalizedBaseUrl action.path = .ok url

/-- The characters that end the path of a URL. -/
def inPath (c : Char) : Bool := c != '?' && c != '#'

/-- The query and the fragment of a path, with the characters in front of them. -/
def beyondPath (path : String) : List Char := path.toList.dropWhile inPath

/-- The paths that are taken have no component `..` in their queries and fragments. -/
def PlainQueries (runtime : CampaignTargetRuntime) : Prop :=
  ∀ path ∈ runtime.safePaths.take runtime.maxActions.toNat,
    "..".toList ∉ splitOnSep '/' (beyondPath path)

/-- The port of a URL can be read. -/
def PortReadable (lib : HostLibrary) (url : String) : Prop :=
  ∃ parts port, PyData.urlsplit lib url = .ok parts ∧ parts.port lib = .ok port

variable {lib : HostLibrary} {requote upper : String → String} {runtime : CampaignTargetRuntime}
  {plan : WSTGEnginePlan} {path : String} {parts : SplitResult}

/-! ### The paths the runtime accepts -/

/-- What the constructor of the runtime knows of a path. -/
structure SafePath (lib : HostLibrary) (path : String) (parts : SplitResult) : Prop where
  split : PyData.urlsplit lib path = .ok parts
  scheme : parts.scheme = ""
  netloc : parts.netloc = []
  root : "/".toList.isPrefixOf path.toList = true
  components : "..".toList ∉ splitOnSep '/' parts.path

theorem safePath_of_accepted (h : validateSafePath (liveUrls lib requote) path = .ok ()) :
    ∃ parts, SafePath lib path parts := by
  simp only [validateSafePath, bind_eq_ok, guardE_eq_ok, Bool.and_eq_true, beq_iff_eq] at h
  obtain ⟨parsed, hparsed, _, ⟨hscheme, hnetloc⟩, _, hroot, hcomponents⟩ := h
  obtain ⟨parts, hsplit, rfl⟩ := splitUrls_eq_ok.mp hparsed
  refine ⟨parts, hsplit, hscheme, ?_, hroot, ?_⟩
  · unfold liveUrls at hnetloc
    simp only [hsplit] at hnetloc
    have hchars := congrArg String.toList hnetloc
    rw [String.toList_ofList] at hchars
    exact hchars
  · unfold liveUrls at hcomponents
    simp only [hsplit, String.toList_ofList] at hcomponents
    simpa using hcomponents

/-- The path of a URL ends before its query and its fragment. -/
theorem before_before (l : List Char) : before '?' (before '#' l) = l.takeWhile inPath := by
  unfold before
  rw [List.takeWhile_takeWhile]
  congr 1
  funext c
  unfold inPath
  rw [Bool.decide_and, Bool.decide_eq_true, Bool.decide_eq_true]

/-- Cutting at a character that a text does not hold changes nothing. -/
theorem ite_before (c : Char) (l : List Char) :
    (if l.contains c = true then before c l else l) = before c l := by
  by_cases hc : l.contains c = true
  · rw [if_pos hc]
  · rw [if_neg hc, before_of_not_mem (by simpa using hc)]

/-- The network location and the path of a URL. -/
theorem netloc_path_of_urlsplit {url : String} (h : PyData.urlsplit lib url = .ok parts) :
    parts.netloc = (splitNetloc (splitScheme (cleaned url.toList)).2).1 ∧
      parts.path = (splitNetloc (splitScheme (cleaned url.toList)).2).2.takeWhile inPath := by
  unfold PyData.urlsplit at h
  simp only [bind_eq_ok, ite_before] at h
  obtain ⟨⟨⟩, -, ⟨⟩, -, hparts⟩ := h
  cases hparts
  exact ⟨rfl, before_before _⟩

theorem SafePath.eq_cons (h : SafePath lib path parts) : ∃ rest, path.toList = '/' :: rest := by
  have hslash : "/".toList = ['/'] := by decide
  obtain ⟨rest, hrest⟩ := List.isPrefixOf_iff_prefix.mp h.root
  rw [hslash] at hrest
  exact ⟨rest, hrest.symm⟩

/-- A text that begins with a slash has no scheme, and nothing is left out in front of it. -/
theorem splitScheme_root (rest : List Char) :
    splitScheme (cleaned ('/' :: rest)) =
      ("", '/' :: rest.filter fun c => !unsafeChars.contains c) := by
  have hcleaned : cleaned ('/' :: rest) = '/' :: rest.filter fun c => !unsafeChars.contains c := by
    unfold cleaned
    rw [List.dropWhile_cons_of_neg (by decide), List.filter_cons, if_pos (by decide)]
  have hnone : hasScheme ('/' :: rest.filter fun c => !unsafeChars.contains c) = false := by
    unfold hasScheme before
    rw [List.takeWhile_cons_of_pos (by decide)]
    simp [isAsciiAlpha, Char.isAlpha, Char.isUpper, Char.isLower]
  rw [hcleaned]
  unfold splitScheme
  rw [hnone]
  rfl

/-- **The path of an accepted text** is the text up to its query and its fragment, but for the
characters that are left out and two slashes in front. -/
theorem SafePath.path_eq (h : SafePath lib path parts) : ∃ lead, (lead = [] ∨ lead = ['/', '/']) ∧
    (path.toList.filter fun c => !unsafeChars.contains c).takeWhile inPath = lead ++ parts.path := by
  obtain ⟨rest, hrest⟩ := h.eq_cons
  have hfilter : path.toList.filter (fun c => !unsafeChars.contains c) =
      '/' :: rest.filter fun c => !unsafeChars.contains c := by
    rw [hrest, List.filter_cons, if_pos (by decide)]
  obtain ⟨hnetloc, hpath⟩ := netloc_path_of_urlsplit h.split
  rw [hrest, splitScheme_root] at hnetloc hpath
  rw [h.netloc] at hnetloc
  rw [hfilter, hpath]
  -- two slashes in front are those of an empty network location
  unfold splitNetloc at hnetloc ⊢
  split at hnetloc
  · rename_i more hmore
    dsimp only at hnetloc hmore
    have hall : more.dropWhile (fun c => !locationEnds.contains c) = more := by
      have hwhole := @List.takeWhile_append_dropWhile _ (fun c => !locationEnds.contains c) more
      rw [← hnetloc] at hwhole
      exact hwhole
    refine ⟨['/', '/'], Or.inr rfl, ?_⟩
    rw [hmore, hall]
    rfl
  · exact ⟨[], Or.inl rfl, rfl⟩

/-- The part of an accepted text before its query and its fragment has no component `..`. -/
theorem SafePath.front (h : SafePath lib path parts) :
    "..".toList ∉ splitOnSep '/' (path.toList.takeWhile inPath) := by
  intro hmem
  obtain ⟨lead, hlead, hpath⟩ := h.path_eq
  have hkept : ∀ c, inPath c = false → (!unsafeChars.contains c) = true := by
    intro c hc
    unfold inPath at hc
    by_cases hq : c = '?'
    · rw [hq]
      decide
    · have hf : c = '#' := by simpa [hq] using hc
      rw [hf]
      decide
  have hin : "..".toList ∈ splitOnSep '/' (lead ++ parts.path) := by
    rw [← hpath, takeWhile_filter hkept, splitOnSep_filter (by decide)]
    exact List.mem_map.mpr ⟨_, hmem, by decide⟩
  rcases hlead with rfl | rfl
  · exact h.components hin
  · rw [List.cons_append, List.cons_append, splitOnSep_cons_sep, splitOnSep_cons_sep] at hin
    have hne : "..".toList ≠ [] := by decide
    simp only [List.mem_cons, hne, false_or, List.nil_append] at hin
    exact h.components hin

/-- **Which components an accepted text has**: those `..` are in its query and its fragment. -/
theorem SafePath.components_iff (h : SafePath lib path parts) :
    "..".toList ∈ splitOnSep '/' path.toList ↔ "..".toList ∈ splitOnSep '/' (beyondPath path) := by
  have hfront := h.front
  have hwhole : path.toList.takeWhile inPath ++ beyondPath path = path.toList :=
    List.takeWhile_append_dropWhile
  cases hbeyond : beyondPath path with
  | nil =>
    rw [hbeyond, List.append_nil] at hwhole
    rw [hwhole] at hfront
    exact ⟨fun hmem => absurd hmem hfront, fun hmem => absurd hmem (by decide)⟩
  | cons c rest =>
    have hend : inPath c = false := by
      have hhead := List.head?_dropWhile_not inPath path.toList
      unfold beyondPath at hbeyond
      rw [hbeyond] at hhead
      exact hhead
    have hslash : c ≠ '/' := by
      rintro rfl
      exact absurd hend (by decide)
    have hdot : c ∉ "..".toList := by
      intro hmem
      have hdots : "..".toList = ['.', '.'] := by decide
      rw [hdots] at hmem
      obtain rfl : c = '.' := by simpa using hmem
      exact absurd hend (by decide)
    rw [hbeyond] at hwhole
    rw [← hwhole]
    exact mem_splitOnSep_append_iff hslash hdot hfront

/-! ### The actions that are planned -/

theorem actionId_eq (index : ℕ) : (actionId index).toList = "http-get-".toList ++
    (List.replicate (2 - (Nat.toDigits 10 index).length) '0' ++ Nat.toDigits 10 index) := by
  unfold actionId
  simp only [String.toList_append, String.toList_ofList, Nat.toList_repr]

/-- Identifiers of different indexes differ. -/
theorem actionId_injective : Function.Injective actionId := by
  intro m n h
  have hchars := congrArg String.toList h
  rw [actionId_eq, actionId_eq] at hchars
  have hnumbers := congrArg (fun l => Nat.ofDigitChars 10 l 0) (List.append_cancel_left hchars)
  simpa only [Nat.ofDigitChars_append, Nat.ofDigitChars_replicate_zero, Nat.mul_zero,
    Nat.ofDigitChars_ten_toDigits] using hnumbers

/-- An identifier of a small index is a safe one. -/
theorem safeComponent_actionId {index : ℕ} (h : index < 10 ^ 3) :
    safeComponent (actionId index).toList = true := by
  have hslug : ∀ c, c.isDigit = true → isSlugChar c = true := by
    intro c hc
    have hbounds : '0' ≤ c ∧ c ≤ '9' := by
      simpa [Char.isDigit, Char.le_def, UInt32.le_iff_toNat_le] using hc
    unfold isSlugChar
    simp [hbounds.1, hbounds.2]
  have hshort : (Nat.toDigits 10 index).length ≤ 3 :=
    (Nat.length_toDigits_le_iff (by decide) (by decide)).mpr h
  have hfront : "http-get-".toList = ['h', 't', 't', 'p', '-', 'g', 'e', 't', '-'] := by decide
  unfold safeComponent
  rw [actionId_eq, hfront]
  simp only [Bool.and_eq_true, decide_eq_true_eq, List.all_append]
  refine ⟨⟨by rfl, by decide, ?_, ?_⟩, ?_⟩
  · rw [List.all_eq_true]
    intro c hc
    rw [List.eq_of_mem_replicate hc]
    decide
  · rw [List.all_eq_true]
    intro c hc
    exact hslug c (Nat.isDigit_of_mem_toDigits (by decide) (by decide) hc)
  · simp only [List.length_append, List.length_replicate, List.length_cons, List.length_nil]
    omega

theorem wstgIdsForPath_ne_nil (lib : HostLibrary) (path : String) :
    (wstgIdsForPath lib path).isEmpty = false := by
  unfold wstgIdsForPath
  split_ifs <;> rfl

/-- **Which actions the constructor accepts**: the index being small, those of a safe path. -/
theorem planAction_eq_ok {index : ℕ} (h : index < 10 ^ 3) {action : PlannedAction} :
    planAction lib plan index path = .ok action ↔
      PlannedAction.safeRelative path = true ∧ action = actionFor lib plan index path := by
  have hreason : strip (actionFor lib plan index path).reason ≠ "" := by
    intro hempty
    have hblank := strip_eq_empty_iff.mp hempty 'G'
    have hmem : 'G' ∈ (actionFor lib plan index path).reason.toList := by
      simp [actionFor, String.toList_append]
    exact absurd (hblank hmem) (by decide)
  unfold planAction PlannedAction.postInit
  simp only [bind_eq_ok, guardE_eq_ok, pure, Except.pure, Except.ok.injEq]
  constructor
  · rintro ⟨_, ⟨_, -, _, -, _, -, _, -, _, -, _, hpath, -⟩, rfl⟩
    exact ⟨hpath, rfl⟩
  · rintro ⟨hpath, rfl⟩
    have hids : (!(actionFor lib plan index path).wstgIds.isEmpty) = true := by
      rw [Bool.not_eq_true', actionFor]
      exact wstgIdsForPath_ne_nil lib path
    exact ⟨(), ⟨(), safeComponent_actionId h, (), rfl, (), rfl, (), rfl, (), rfl, (), hpath, (), hids,
      bne_iff_ne.mpr hreason⟩, rfl⟩

/-- The result of a loop whose body gives a value exactly where its element passes a check. -/
theorem mapIdxE_iff {α β : Type} {f : ℕ → α → Except Exc β} {g : ℕ → α → β} {check : α → Bool}
    {bound : ℕ} (hf : ∀ i < bound, ∀ x y, f i x = .ok y ↔ check x = true ∧ y = g i x) {xs : List α}
    {start : ℕ} (hbound : start + xs.length ≤ bound) {ys : List β} :
    mapIdxE f start xs = .ok ys ↔
      (∀ x ∈ xs, check x = true) ∧ ys = (xs.zipIdx start).map fun p => g p.2 p.1 := by
  induction xs generalizing start ys with
  | nil =>
    rw [mapIdxE, Except.ok.injEq]
    exact ⟨fun h => ⟨List.forall_mem_nil _, h.symm⟩, fun h => h.2.symm⟩
  | cons x xs ih =>
    rw [List.length_cons] at hbound
    have hhead := hf start (by omega) x
    simp only [mapIdxE, bind_eq_ok, hhead, @ih (start + 1) (by omega), pure, Except.pure,
      Except.ok.injEq, List.forall_mem_cons, List.zipIdx_cons, List.map_cons]
    constructor
    · rintro ⟨y, ⟨hx, rfl⟩, ys, ⟨hxs, rfl⟩, rfl⟩
      exact ⟨⟨hx, hxs⟩, rfl⟩
    · rintro ⟨⟨hx, hxs⟩, rfl⟩
      exact ⟨_, ⟨hx, rfl⟩, _, ⟨hxs, rfl⟩, rfl⟩

/-! ### The URLs of the actions -/

/-- What the constructor of the runtime knows of its base URL, and what a slash behind it leaves
alone. -/
structure BaseUrl (lib : HostLibrary) (runtime : CampaignTargetRuntime) (own base : SplitResult) :
    Prop where
  split : PyData.urlsplit lib runtime.baseUrl = .ok own
  normalized : PyData.urlsplit lib runtime.normalizedBaseUrl = .ok base
  scheme : base.scheme = own.scheme
  netloc : base.netloc = own.netloc
  web : base.scheme = "http" ∨ base.scheme = "https"
  ne_nil : base.netloc ≠ []

/-- A URL with a host has a network location. -/
theorem netloc_ne_nil (h : (parts.hostname lib).any (· != "") = true) : parts.netloc ≠ [] := by
  intro hnil
  unfold SplitResult.hostname SplitResult.rawHost SplitResult.hostinfo at h
  rw [hnil] at h
  cases h

theorem baseUrl_of_accepted (h : runtime.postInit (liveUrls lib requote) upper = .ok ()) :
    ∃ own base, BaseUrl lib runtime own base := by
  simp only [CampaignTargetRuntime.postInit, bind_eq_ok, guardE_eq_ok, Bool.and_eq_true] at h
  obtain ⟨_, -, parsed, hparsed, _, ⟨hweb, hhost⟩, -⟩ := h
  obtain ⟨own, hown, rfl⟩ := splitUrls_eq_ok.mp hparsed
  have hscheme : own.scheme = "http" ∨ own.scheme = "https" := by
    simpa [toSplitUrl] using hweb
  have hne : own.netloc ≠ [] := netloc_ne_nil hhost
  have hnamed : own.scheme ≠ "" := by
    rcases hscheme with hs | hs <;> rw [hs] <;> decide
  by_cases hslash : "/".toList.isSuffixOf runtime.baseUrl.toList = true
  · have hnormal : runtime.normalizedBaseUrl = runtime.baseUrl := if_pos hslash
    exact ⟨own, own, hown, hnormal ▸ hown, rfl, rfl, hscheme, hne⟩
  · have hnormal : runtime.normalizedBaseUrl = runtime.baseUrl ++ "/" := if_neg hslash
    have hchars : runtime.normalizedBaseUrl.toList = runtime.baseUrl.toList ++ ['/'] := by
      rw [hnormal, String.toList_append]
      rfl
    have hfollows : Follows ['/'] := by
      intro c hc
      cases hc
      decide
    obtain ⟨base, hbase, hs, hn⟩ := urlsplit_append hown hnamed hne hfollows hchars
    exact ⟨own, base, hown, hbase, hs, hn, hs ▸ hscheme, hn ▸ hne⟩

/-- **The URL of an accepted path is on the server of the runtime**: it is derived exactly where the
port can be read. -/
theorem sameOriginUrlOf_iff {own base : SplitResult} (hbase : BaseUrl lib runtime own base)
    (hpath : SafePath lib path parts) :
    (∃ url, sameOriginUrlOf lib runtime.normalizedBaseUrl path = .ok url) ↔
      ∃ port, own.port lib = .ok port := by
  have hrelative : usesRelative.contains base.scheme = true := by
    rcases hbase.web with hs | hs <;> rw [hs] <;> decide
  have hlocated : usesNetloc.contains base.scheme = true := by
    rcases hbase.web with hs | hs <;> rw [hs] <;> decide
  obtain ⟨joined, joinedParts, hjoin, hsplit, hscheme, hnetloc⟩ :=
    urlsplit_urljoin hbase.normalized hrelative hlocated hbase.ne_nil hpath.split hpath.scheme
      hpath.netloc (String.ofList_toList).symm (plainScheme_of_web hbase.web)
  -- host and port are read off the network location, which is the same in all three
  have hhost : joinedParts.hostname lib = base.hostname lib := by
    unfold SplitResult.hostname SplitResult.rawHost SplitResult.hostinfo
    rw [hnetloc]
  have hport : joinedParts.port lib = own.port lib := by
    unfold SplitResult.port SplitResult.rawPort SplitResult.hostinfo
    rw [hnetloc, hbase.netloc]
  have hbasePort : base.port lib = own.port lib := by
    unfold SplitResult.port SplitResult.rawPort SplitResult.hostinfo
    rw [hbase.netloc]
  unfold sameOriginUrlOf
  simp only [bind, Except.bind, hjoin, hbase.normalized, hsplit, hport, hbasePort, hscheme, hhost]
  cases own.port lib with
  | error e => simp
  | ok port => simp [guardE, pure, Except.pure]

/-! ### The runtime and the planner -/

theorem forM_eq_ok {α : Type} {f : α → Except Exc Unit} {xs : List α} :
    xs.forM f = .ok () ↔ ∀ x ∈ xs, f x = .ok () := by
  induction xs with
  | nil => exact ⟨fun _ => List.forall_mem_nil _, fun _ => rfl⟩
  | cons x xs ih =>
    change (f x >>= fun _ => xs.forM f) = .ok () ↔ _
    rw [bind_eq_ok, List.forall_mem_cons, ← ih]
    exact ⟨fun ⟨_, hx, hxs⟩ => ⟨hx, hxs⟩, fun ⟨hx, hxs⟩ => ⟨(), hx, hxs⟩⟩

/-- What else the constructor of the runtime knows. -/
structure Bounded (lib : HostLibrary) (runtime : CampaignTargetRuntime) : Prop where
  implemented : runtime.implementedLiveTarget = true
  paths : runtime.safePaths ≠ []
  least : 1 ≤ runtime.maxActions
  most : runtime.maxActions ≤ 100
  safe : ∀ path ∈ runtime.safePaths, ∃ parts, SafePath lib path parts

theorem bounded_of_accepted (h : runtime.postInit (liveUrls lib requote) upper = .ok ()) :
    Bounded lib runtime := by
  simp only [CampaignTargetRuntime.postInit, bind_eq_ok, guardE_eq_ok, Bool.and_eq_true,
    decide_eq_true_eq, forM_eq_ok] at h
  obtain ⟨_, -, _, -, _, -, _, -, _, -, _, -, _, -, _, himplemented, _, -, _, -, _, hpaths, _, -, _, -, _,
    hactions, _, -, hsafe⟩ := h
  refine ⟨himplemented, ?_, hactions.1, hactions.2, fun path hpath =>
    safePath_of_accepted (hsafe path hpath)⟩
  intro hnil
  rw [hnil] at hpaths
  cases hpaths

/-- A safe path of the runtime is one of an action exactly where it has no component `..`. -/
theorem SafePath.safeRelative_iff (h : SafePath lib path parts) :
    PlannedAction.safeRelative path = true ↔
      "..".toList ∉ splitOnSep '/' (beyondPath path) := by
  rw [← h.components_iff]
  unfold PlannedAction.safeRelative
  rw [h.root]
  simp

/-- **What planning gives**: an action for each path that is taken, if all are paths of actions. -/
theorem planCampaignActions_eq_ok (h : Bounded lib runtime) {result : ExecutionPlan} :
    planCampaignActions lib plan runtime = .ok result ↔ PlainQueries runtime ∧
      result = ⟨((runtime.safePaths.take runtime.maxActions.toNat).zipIdx 1).map fun p =>
        actionFor lib plan p.2 p.1, blockedObjectives plan⟩ := by
  have htaken : sliceTo runtime.safePaths runtime.maxActions =
      runtime.safePaths.take runtime.maxActions.toNat := by
    have hleast := h.least
    exact if_neg (by omega)
  have hshort : 1 + (runtime.safePaths.take runtime.maxActions.toNat).length ≤ 101 := by
    have hmost := h.most
    rw [List.length_take]
    omega
  have hbody : ∀ i < 101, ∀ path action, planAction lib plan i path = .ok action ↔
      PlannedAction.safeRelative path = true ∧ action = actionFor lib plan i path := by
    intro i hi path action
    exact planAction_eq_ok (by omega)
  have hplain : PlainQueries runtime ↔ ∀ path ∈ runtime.safePaths.take runtime.maxActions.toNat,
      PlannedAction.safeRelative path = true := by
    refine forall₂_congr fun path hpath => ?_
    obtain ⟨parts, hsafe⟩ := h.safe path (List.mem_of_mem_take hpath)
    exact hsafe.safeRelative_iff.symm
  unfold planCampaignActions
  simp only [bind_eq_ok, guardE_eq_ok, htaken, mapIdxE_iff hbody hshort, hplain, pure, Except.pure,
    Except.ok.injEq]
  constructor
  · rintro ⟨_, -, _, ⟨hpaths, rfl⟩, rfl⟩
    exact ⟨hpaths, rfl⟩
  · rintro ⟨hpaths, rfl⟩
    exact ⟨(), h.implemented, _, ⟨hpaths, rfl⟩, rfl⟩

/-- **The runtime and the planner agree on paths exactly where no component `..` stands in the query or
the fragment of a path that is taken, and the port of the base URL can be read.** -/
theorem pathsAgree_iff (hruntime : runtime.postInit (liveUrls lib requote) upper = .ok ()) :
    PathsAgree lib runtime plan ↔
      PlainQueries runtime ∧ PortReadable lib runtime.baseUrl := by
  have hbounded := bounded_of_accepted hruntime
  obtain ⟨own, base, hbase⟩ := baseUrl_of_accepted hruntime
  have hport : PortReadable lib runtime.baseUrl ↔ ∃ port, own.port lib = .ok port := by
    unfold PortReadable
    simp only [hbase.split, Except.ok.injEq, exists_eq_left', exists_and_left]
  -- every path that is taken has a URL exactly where the port can be read
  have hurl : ∀ path ∈ runtime.safePaths.take runtime.maxActions.toNat,
      (∃ url, sameOriginUrlOf lib runtime.normalizedBaseUrl path = .ok url) ↔
        ∃ port, own.port lib = .ok port := by
    intro path hpath
    obtain ⟨parts, hsafe⟩ := hbounded.safe path (List.mem_of_mem_take hpath)
    exact sameOriginUrlOf_iff hbase hsafe
  unfold PathsAgree
  simp only [planCampaignActions_eq_ok hbounded, hport]
  constructor
  · rintro ⟨_, ⟨hplain, rfl⟩, -, -, -, hurls⟩
    refine ⟨hplain, ?_⟩
    -- at least one path is taken
    cases htaken : runtime.safePaths.take runtime.maxActions.toNat with
    | nil =>
      have hleast := hbounded.least
      rcases List.take_eq_nil_iff.mp htaken with hzero | hnil
      · omega
      · exact absurd hnil hbounded.paths
    | cons path rest =>
      rw [htaken] at hurl hurls
      exact (hurl path List.mem_cons_self).mp (hurls _ (by
        rw [List.zipIdx_cons, List.map_cons]
        exact List.mem_cons_self))
  · rintro ⟨hplain, hread⟩
    refine ⟨_, ⟨hplain, rfl⟩, ?_, ?_, ?_, ?_⟩
    · rw [List.map_map]
      exact List.zipIdx_map_fst 1 _
    · intro action haction
      obtain ⟨p, -, rfl⟩ := List.mem_map.mp haction
      rfl
    · have hindexes : ((runtime.safePaths.take runtime.maxActions.toNat).zipIdx 1).map
          (actionId ∘ Prod.snd) = ((List.range' 1
            (runtime.safePaths.take runtime.maxActions.toNat).length).map actionId) := by
        rw [← List.map_map, List.zipIdx_map_snd]
      rw [List.map_map]
      have hnodup := List.Nodup.map actionId_injective
        (List.nodup_range' : (List.range' 1
          (runtime.safePaths.take runtime.maxActions.toNat).length).Nodup)
      rw [← hindexes] at hnodup
      exact hnodup
    · intro action haction
      obtain ⟨p, hp, rfl⟩ := List.mem_map.mp haction
      exact (hurl p.1 (List.fst_mem_of_mem_zipIdx hp)).mpr hread

/-! ### A query that is taken for a path -/

/-- A plan of no tests. -/
def emptyPlan : WSTGEnginePlan :=
  ⟨"campaign-17", "local-target", "http://localhost:3000/", "authorization-1", "v42", []⟩

/-- A local runtime with some paths. -/
def runtimeWith (paths : List String) : CampaignTargetRuntime :=
  { localRuntime with safePaths := paths }

/-- A runtime that can be planned for. -/
theorem searchRuntime_accepted :
    (runtimeWith ["/", "/rest/products/search?q="]).postInit (liveUrls plainHosts id) id = .ok () := by
  decide

theorem pathsAgree_iff_search :
    PathsAgree plainHosts (runtimeWith ["/", "/rest/products/search?q="]) emptyPlan ↔
      PlainQueries (runtimeWith ["/", "/rest/products/search?q="]) ∧
        PortReadable plainHosts (runtimeWith ["/", "/rest/products/search?q="]).baseUrl :=
  pathsAgree_iff searchRuntime_accepted

theorem nextRuntime_accepted :
    (runtimeWith ["/login?next=/../admin"]).postInit (liveUrls plainHosts id) id = .ok () := by
  decide

theorem nextRuntime_fails :
    (planCampaignActions plainHosts emptyPlan (runtimeWith ["/login?next=/../admin"])).map
      (fun _ => ()) = .error (plannerError "action path must be a safe relative path") := by
  decide

/-- **A runtime that is accepted and cannot be planned for**: the query of its path holds a component
`..`. -/
theorem query_disagrees : ¬ ∀ (lib : HostLibrary) (requote upper : String → String)
    (runtime : CampaignTargetRuntime) (plan : WSTGEnginePlan),
    runtime.postInit (liveUrls lib requote) upper = .ok () → PathsAgree lib runtime plan := by
  intro hclaim
  obtain ⟨result, hplan, -⟩ := hclaim plainHosts id id _ emptyPlan nextRuntime_accepted
  have hfails := nextRuntime_fails
  rw [hplan] at hfails
  cases hfails

/-! ### The library of live campaigns -/

/-- The two readings of the URL of an action are one where joining succeeds. -/
theorem sameOriginUrl_liveUrls {baseUrl url : String} (h : urljoin lib baseUrl path = .ok url) :
    sameOriginUrl (liveUrls lib requote) baseUrl path = sameOriginUrlOf lib baseUrl path := by
  have hjoin : (liveUrls lib requote).urljoin baseUrl path = url := by
    unfold liveUrls
    simp only [h]
  unfold sameOriginUrl sameOriginUrlOf
  rw [hjoin, h]
  unfold liveUrls splitUrls
  simp only [bind, Except.bind]
  cases PyData.urlsplit lib baseUrl with
  | error e => rfl
  | ok base =>
    cases PyData.urlsplit lib url with
    | error e => rfl
    | ok parsed => rfl

/-- **The library keeps the server of an accepted base URL**, with a slash behind it. -/
theorem keepsServer_liveUrls (h : runtime.postInit (liveUrls lib requote) upper = .ok ()) :
    KeepsServer (liveUrls lib requote) runtime := by
  intro parsed hparsed _
  obtain ⟨own, base, hbase⟩ := baseUrl_of_accepted h
  obtain ⟨own', hown', rfl⟩ := splitUrls_eq_ok.mp hparsed
  obtain rfl : own = own' := Except.ok.inj (hbase.split.symm.trans hown')
  refine ⟨toSplitUrl lib base, splitUrls_eq_ok.mpr ⟨base, hbase.normalized, rfl⟩, hbase.scheme, ?_, ?_,
    ?_, ?_⟩
  · unfold toSplitUrl SplitResult.hostname SplitResult.rawHost SplitResult.hostinfo
    rw [hbase.netloc]
  · unfold toSplitUrl SplitResult.port SplitResult.rawPort SplitResult.hostinfo
    rw [hbase.netloc]
  · unfold toSplitUrl SplitResult.username
    rw [hbase.netloc]
  · unfold toSplitUrl SplitResult.password
    rw [hbase.netloc]

end Aotp.Wstg
