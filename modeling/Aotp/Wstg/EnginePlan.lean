import Aotp.Tools.Origins
import Aotp.Wstg.Catalog

/-!
# The plan of a campaign

* `WSTGEngineProfile` — the bounds of a plan, with the checks of its construction.
* `planningReasons` — the reasons against one case; `buildWstgEnginePlan` — one planned test for each
  case of a catalog, with a counter of the ready ones.
* `PlansWell` — what a plan should be: complete, in order, the first eligible cases ready, and no
  destructive one.
* `plansWell_iff` — **a plan is that exactly where the origin can be read and no destructive case
  without reasons against it stands in the way of an eligible one**: such a case uses up the counter,
  although it is denied.
-/

namespace Aotp.Wstg

open PyData Aotp.Tools

/-! ### Profiles -/

/-- Source: `wstg.engine.WSTGEngineError` -/
def engineError (msg : String) : Exc := .custom "WSTGEngineError" msg

/-- Source: `wstg.engine.WSTGEngineProfile` -/
structure WSTGEngineProfile where
  campaignId : String
  targetAlias : String
  baseUrl : String
  authorizationReference : String
  operatorApproved : Bool
  allowedSafetyTiers : List WSTGSafetyTier
  allowedAdapterFamilies : List WSTGAdapterFamily
  allowedCategories : Option (List String) := none
  authenticated : Bool := false
  multiRole : Bool := false
  privileged : Bool := false
  sourceAssisted : Bool := false
  allowIntrusiveActive : Bool := false
  maxReadyTests : Option ℤ := none

/-- The checks of a base URL, which three classes share.
Source: `wstg.engine.WSTGEngineProfile.__post_init__`, `parsed` -/
def checkWebUrl (error : String → Exc) (parsed : SplitUrl) : Except Exc Unit := do
  guardE (decide (parsed.scheme ∈ ["http", "https"]) && parsed.hostname.any (· != ""))
    (error "base_url must be an absolute http or https URL")
  guardE (parsed.username.isNone && parsed.password.isNone)
    (error "base_url credentials are not allowed")
  guardE (parsed.query == "" && parsed.fragment == "")
    (error "base_url query and fragment are not allowed")

namespace WSTGEngineProfile

/-- Source: `wstg.engine.WSTGEngineProfile.__post_init__` -/
def postInit (urls : Urls) (profile : WSTGEngineProfile) : Except Exc Unit := do
  guardE (isAlias profile.campaignId.toList)
    (engineError "campaign_id must be a safe lowercase identifier")
  guardE (isAlias profile.targetAlias.toList)
    (engineError "target_alias must be a safe lowercase identifier")
  let parsed ← urls.urlsplit profile.baseUrl
  checkWebUrl engineError parsed
  guardE (strip profile.authorizationReference != "")
    (engineError "authorization_reference is required")
  guardE profile.operatorApproved (engineError "operator approval is required")
  guardE (!profile.allowedSafetyTiers.isEmpty)
    (engineError "at least one safety tier must be allowed")
  guardE (!profile.allowedAdapterFamilies.isEmpty)
    (engineError "at least one adapter family must be allowed")
  guardE (profile.maxReadyTests.all fun n => decide (1 ≤ n))
    (engineError "max_ready_tests must be positive when provided")

/-- Source: `wstg.engine.WSTGEngineProfile.origin` -/
def origin (urls : Urls) (profile : WSTGEngineProfile) : Except Exc String :=
  webOrigin urls profile.baseUrl

end WSTGEngineProfile

/-! ### Plans -/

/-- Source: `wstg.engine.WSTGPlanDisposition` -/
inductive WSTGPlanDisposition where
  | ready
  | deferred
  | denied
  deriving DecidableEq, Repr

/-- Source: `wstg.engine.WSTGPlannedTest` -/
structure WSTGPlannedTest where
  objectiveId : String
  testCase : AcceptedCase
  disposition : WSTGPlanDisposition
  reasons : List String
  arguments : List (String × String)

/-- Source: `wstg.engine._auth_reasons` -/
def authReasons (profile : WSTGEngineProfile) (case : AcceptedCase) : List String :=
  match case.val.authRequirement with
  | .anonymous => []
  | .authenticated =>
    if profile.authenticated then [] else ["authenticated context required"]
  | .multiRole =>
    if profile.multiRole then [] else ["multi-role authorization context required"]
  | .privileged =>
    if profile.privileged then [] else ["privileged authorization context required"]
  | .sourceAssisted =>
    if profile.sourceAssisted then [] else ["source-assisted context required"]

/-- Source: `wstg.engine._planning_reasons` -/
def planningReasons (profile : WSTGEngineProfile) (case : AcceptedCase) : List String :=
  reasonWhen (profile.allowedCategories.any fun categories => case.val.category ∉ categories)
      "category not selected for this campaign" ++
    reasonWhen (case.val.adapterFamily ∉ profile.allowedAdapterFamilies)
      "adapter family not approved for this campaign" ++
    reasonWhen (case.val.safetyTier ∉ profile.allowedSafetyTiers)
      "safety tier not approved for this campaign" ++
    reasonWhen (case.val.safetyTier == .intrusiveActive && !profile.allowIntrusiveActive)
      "intrusive active testing requires explicit campaign approval" ++
    authReasons profile case

/-- The reason against a case beyond the limit. -/
def limitReason : String := "ready test limit reached for this campaign slice"

/-- The limit of a profile is reached. -/
def limitReached (profile : WSTGEngineProfile) (readyCount : ℕ) : Bool :=
  profile.maxReadyTests.any fun n => decide (n ≤ (readyCount : ℤ))

/-- The disposition of a case, its reasons, and the counter after it.
Source: `wstg.engine.build_wstg_engine_plan`, the loop up to the check of destructive cases -/
def dispose (profile : WSTGEngineProfile) (readyCount : ℕ) (case : AcceptedCase) :
    WSTGPlanDisposition × List String × ℕ :=
  let reasons := planningReasons profile case
  if !reasons.isEmpty then (.deferred, reasons, readyCount)
  else if limitReached profile readyCount then (.deferred, reasons ++ [limitReason], readyCount)
  else (.ready, reasons, readyCount + 1)

/-- A destructive case, by its tier. -/
def isDestructive (case : AcceptedCase) : Bool := case.val.safetyTier == .destructiveDenied

/-- The planned test of a case.
Source: `wstg.engine.build_wstg_engine_plan`, the call of `WSTGPlannedTest` -/
def plannedTest (profile : WSTGEngineProfile) (origin : String) (readyCount : ℕ)
    (case : AcceptedCase) : WSTGPlannedTest :=
  let (disposition, reasons, _) := dispose profile readyCount case
  { objectiveId := profile.campaignId ++ ":" ++ case.val.wstgId
    testCase := case
    disposition := if isDestructive case then .denied else disposition
    reasons := if isDestructive case then reasons ++ ["destructive testing is denied by policy"]
      else reasons
    arguments := [("base_url", profile.baseUrl), ("origin", origin),
      ("target_alias", profile.targetAlias),
      ("authorization_reference", profile.authorizationReference), ("wstg_id", case.val.wstgId),
      ("source_url", case.val.sourceUrl)] }

/-- The planned tests of some cases, with the counter before them; the origin is read for each.
Source: `wstg.engine.build_wstg_engine_plan`, the loop -/
def planFrom (urls : Urls) (profile : WSTGEngineProfile) :
    ℕ → List AcceptedCase → Except Exc (List WSTGPlannedTest)
  | _, [] => pure []
  | readyCount, case :: rest => do
    let origin ← profile.origin urls
    let tests ← planFrom urls profile (dispose profile readyCount case).2.2 rest
    pure (plannedTest profile origin readyCount case :: tests)

/-- Source: `wstg.engine.WSTGEnginePlan` -/
structure WSTGEnginePlan where
  campaignId : String
  targetAlias : String
  baseUrl : String
  authorizationReference : String
  catalogVersion : String
  plannedTests : List WSTGPlannedTest

/-- Source: `wstg.engine.build_wstg_engine_plan` -/
def buildWstgEnginePlan (urls : Urls) (profile : WSTGEngineProfile) (catalog : WSTGCatalog) :
    Except Exc WSTGEnginePlan := do
  let tests ← planFrom urls profile 0 catalog.cases
  pure ⟨profile.campaignId, profile.targetAlias, profile.baseUrl, profile.authorizationReference,
    "v42", tests⟩

/-- Source: `wstg.engine.WSTGEnginePlan.ready_tests` -/
def readyTests (tests : List WSTGPlannedTest) : List WSTGPlannedTest :=
  tests.filter fun t => t.disposition = .ready

/-! ### What a plan should be -/

/-- No planning reason stands against a case. -/
def reasonless (profile : WSTGEngineProfile) (case : AcceptedCase) : Bool :=
  (planningReasons profile case).isEmpty

/-- A case is not destructive, and no planning reason stands against it. -/
def eligible (profile : WSTGEngineProfile) (case : AcceptedCase) : Bool :=
  !isDestructive case && reasonless profile case

/-- The first cases up to the limit of a profile, or all. -/
def upToLimit (profile : WSTGEngineProfile) (cases : List AcceptedCase) : List AcceptedCase :=
  match profile.maxReadyTests with
  | some n => cases.take n.toNat
  | none => cases

/-- A plan has one test for each case in order; the ready ones are the first eligible cases up to the
limit; a destructive case is denied; and no case is deferred for the limit while fewer cases are
ready. -/
structure PlansWell (profile : WSTGEngineProfile) (catalog : WSTGCatalog)
    (tests : List WSTGPlannedTest) : Prop where
  complete : tests.map WSTGPlannedTest.testCase = catalog.cases
  ready : (readyTests tests).map WSTGPlannedTest.testCase =
    upToLimit profile (catalog.cases.filter (eligible profile))
  denied : ∀ t ∈ tests, isDestructive t.testCase = true → t.disposition = .denied
  limited : ∀ pre t post, tests = pre ++ t :: post → t.disposition = .deferred →
    limitReason ∈ t.reasons → limitReached profile (readyTests pre).length = true

/-- No eligible case for which there is room among the eligible ones comes after so many cases without
reasons, destructive ones included, that the limit is reached. -/
def Unhindered (profile : WSTGEngineProfile) (cases : List AcceptedCase) : Prop :=
  ∀ pre case post, cases = pre ++ case :: post → eligible profile case = true →
    limitReached profile (pre.filter (eligible profile)).length = false →
    limitReached profile (pre.filter (reasonless profile)).length = false

/-! ### Picking cases -/

/-- The eligible cases for which there is room, where some cases use it up. -/
def pickFrom (profile : WSTGEngineProfile) (uses : AcceptedCase → Bool) :
    ℕ → List AcceptedCase → List AcceptedCase
  | _, [] => []
  | used, case :: rest =>
    (if eligible profile case && !limitReached profile used then [case] else []) ++
      pickFrom profile uses (used + if uses case then 1 else 0) rest

section pick

variable {profile : WSTGEngineProfile} {m n : ℕ} {cases : List AcceptedCase} {case : AcceptedCase}

theorem limitReached_mono (h : m ≤ n) (hm : limitReached profile m = true) :
    limitReached profile n = true := by
  unfold limitReached at hm ⊢
  cases hmax : profile.maxReadyTests with
  | none =>
    rw [hmax] at hm
    cases hm
  | some k =>
    rw [hmax] at hm
    have hk : k ≤ (m : ℤ) := of_decide_eq_true hm
    exact decide_eq_true (by omega)

theorem eligible_reasonless (h : eligible profile case = true) :
    reasonless profile case = true := by
  unfold eligible at h
  rw [Bool.and_eq_true] at h
  exact h.2

theorem pickFrom_cons (uses : AcceptedCase → Bool) (n : ℕ) (case : AcceptedCase)
    (rest : List AcceptedCase) : pickFrom profile uses n (case :: rest) =
      (if eligible profile case && !limitReached profile n then [case] else []) ++
        pickFrom profile uses (n + if uses case then 1 else 0) rest := rfl

/-- Beyond the limit nothing is picked. -/
theorem pickFrom_reached {uses : AcceptedCase → Bool} (h : limitReached profile n = true) :
    pickFrom profile uses n cases = [] := by
  induction cases generalizing n with
  | nil => rfl
  | cons case rest ih =>
    rw [pickFrom_cons, h, ih (limitReached_mono (Nat.le_add_right _ _) h)]
    simp

/-- What is picked when eligible cases use up the room: the first of them. -/
theorem pickFrom_eligible_some {k : ℤ} (hmax : profile.maxReadyTests = some k) (m : ℕ)
    (cases : List AcceptedCase) : pickFrom profile (eligible profile) m cases =
      (cases.filter (eligible profile)).take (k.toNat - m) := by
  have hreached : ∀ m : ℕ, limitReached profile m = decide (k ≤ (m : ℤ)) := by
    intro m
    unfold limitReached
    rw [hmax]
    rfl
  induction cases generalizing m with
  | nil => simp [pickFrom]
  | cons case rest ih =>
    rw [pickFrom_cons, ih, hreached]
    by_cases hcase : eligible profile case = true
    · rw [List.filter_cons_of_pos hcase, if_pos hcase]
      by_cases hk : k ≤ (m : ℤ)
      · have hzero : k.toNat - m = 0 := by omega
        have hzero' : k.toNat - (m + 1) = 0 := by omega
        simp [hk, hzero, hzero']
      · have hsucc : k.toNat - m = (k.toNat - (m + 1)) + 1 := by omega
        rw [hsucc, List.take_succ_cons]
        simp [hcase, hk]
    · rw [List.filter_cons_of_neg hcase, if_neg hcase, Nat.add_zero]
      simp [hcase]

theorem pickFrom_eligible_none (hmax : profile.maxReadyTests = none) (m : ℕ)
    (cases : List AcceptedCase) :
    pickFrom profile (eligible profile) m cases = cases.filter (eligible profile) := by
  have hreached : ∀ m : ℕ, limitReached profile m = false := by
    intro m
    unfold limitReached
    rw [hmax]
    rfl
  induction cases generalizing m with
  | nil => rfl
  | cons case rest ih =>
    rw [pickFrom_cons, ih, hreached, List.filter_cons]
    by_cases hcase : eligible profile case = true <;> simp [hcase]

/-- The first eligible cases up to the limit are what is picked. -/
theorem upToLimit_eq (profile : WSTGEngineProfile) (cases : List AcceptedCase) :
    upToLimit profile (cases.filter (eligible profile)) =
      pickFrom profile (eligible profile) 0 cases := by
  unfold upToLimit
  cases hmax : profile.maxReadyTests with
  | none => rw [pickFrom_eligible_none hmax]
  | some k => rw [pickFrom_eligible_some hmax, Nat.sub_zero]

/-- Every split of a list is at its head or in its tail. -/
theorem forall_split_cons {P : List AcceptedCase → AcceptedCase → Prop} :
    (∀ pre c post, case :: cases = pre ++ c :: post → P pre c) ↔
      P [] case ∧ ∀ pre c post, cases = pre ++ c :: post → P (case :: pre) c := by
  constructor
  · intro h
    refine ⟨h [] case cases rfl, fun pre c post heq => h (case :: pre) c post ?_⟩
    rw [heq, List.cons_append]
  · rintro ⟨hhead, htail⟩ pre c post heq
    cases pre with
    | nil =>
      obtain ⟨rfl, -⟩ := List.cons.inj heq
      exact hhead
    | cons x pre =>
      obtain ⟨rfl, hrest⟩ := List.cons.inj heq
      exact htail pre c post hrest

/-- **The two ways of using up the room pick the same** exactly where every eligible case that has
room the one way has it the other way. -/
theorem pickFrom_eq_iff (hle : m ≤ n) :
    pickFrom profile (reasonless profile) n cases = pickFrom profile (eligible profile) m cases ↔
      ∀ pre case post, cases = pre ++ case :: post → eligible profile case = true →
        limitReached profile (m + (pre.filter (eligible profile)).length) = false →
        limitReached profile (n + (pre.filter (reasonless profile)).length) = false := by
  induction cases generalizing m n with
  | nil => simp [pickFrom]
  | cons case rest ih =>
    rw [forall_split_cons (P := fun pre case => eligible profile case = true →
        limitReached profile (m + (pre.filter (eligible profile)).length) = false →
        limitReached profile (n + (pre.filter (reasonless profile)).length) = false)]
    have hcount : ∀ (p : AcceptedCase → Bool) (k : ℕ) (pre : List AcceptedCase),
        k + ((case :: pre).filter p).length = (k + if p case then 1 else 0) + (pre.filter p).length := by
      intro p k pre
      cases hp : p case
      · simp [hp]
      · simp [hp]
        omega
    simp only [hcount]
    have hnext : (m + if eligible profile case then 1 else 0) ≤
        n + if reasonless profile case then 1 else 0 := by
      by_cases hcase : eligible profile case = true
      · rw [if_pos hcase, if_pos (eligible_reasonless hcase)]
        omega
      · rw [if_neg hcase]
        omega
    rw [← ih hnext, pickFrom_cons, pickFrom_cons]
    by_cases hcase : eligible profile case = true
    · cases hm : limitReached profile m with
      | true => simp [hm, limitReached_mono hle hm]
      | false =>
        cases hn : limitReached profile n with
        | true =>
          have hnone : pickFrom profile (reasonless profile)
              (n + if reasonless profile case then 1 else 0) rest = [] :=
            pickFrom_reached (limitReached_mono (Nat.le_add_right _ _) hn)
          simp [hcase, hm, hn, hnone]
        | false => simp [hcase, hm, hn]
    · simp [hcase]

end pick

/-! ### The counter -/

/-- The planned tests of some cases, once the origin is read. -/
def testsFrom (profile : WSTGEngineProfile) (origin : String) :
    ℕ → List AcceptedCase → List WSTGPlannedTest
  | _, [] => []
  | readyCount, case :: rest => plannedTest profile origin readyCount case ::
      testsFrom profile origin (dispose profile readyCount case).2.2 rest

section plan

variable {urls : Urls} {profile : WSTGEngineProfile} {origin : String} {cases : List AcceptedCase}
  {case : AcceptedCase} {n used : ℕ}

theorem planFrom_of_origin (h : profile.origin urls = .ok origin) (n : ℕ)
    (cases : List AcceptedCase) :
    planFrom urls profile n cases = .ok (testsFrom profile origin n cases) := by
  induction cases generalizing n with
  | nil => rfl
  | cons case rest ih =>
    unfold planFrom
    rw [h]
    simp only [bind, Except.bind, ih]
    rfl

/-- A plan of any case reads the origin. -/
theorem origin_of_planFrom {tests : List WSTGPlannedTest} (hne : cases ≠ [])
    (h : planFrom urls profile n cases = .ok tests) : ∃ origin, profile.origin urls = .ok origin := by
  obtain ⟨case, rest, rfl⟩ := List.exists_cons_of_ne_nil hne
  obtain ⟨origin, horigin, -⟩ := bind_eq_ok.mp h
  exact ⟨origin, horigin⟩

theorem map_testCase_testsFrom (n : ℕ) (cases : List AcceptedCase) :
    (testsFrom profile origin n cases).map WSTGPlannedTest.testCase = cases := by
  induction cases generalizing n with
  | nil => rfl
  | cons case rest ih =>
    unfold testsFrom
    rw [List.map_cons, ih]
    rfl

/-- **What a case is planned as.** -/
theorem disposition_plannedTest (origin : String) (n : ℕ) (case : AcceptedCase) :
    (plannedTest profile origin n case).disposition =
      if isDestructive case then .denied
      else if reasonless profile case && !limitReached profile n then .ready else .deferred := by
  unfold plannedTest reasonless
  by_cases hdestructive : isDestructive case = true
  · simp only [hdestructive, if_true]
  · by_cases hreasons : (planningReasons profile case).isEmpty = true
    · by_cases hlimit : limitReached profile n = true
      · simp [dispose, hdestructive, hreasons, hlimit]
      · simp [dispose, hdestructive, hreasons, hlimit]
    · simp [dispose, hdestructive, hreasons]

/-- The counter goes up with every case without reasons, until the limit is reached. -/
theorem counter_dispose (n : ℕ) (case : AcceptedCase) : (dispose profile n case).2.2 =
    if reasonless profile case && !limitReached profile n then n + 1 else n := by
  unfold dispose reasonless
  by_cases hreasons : (planningReasons profile case).isEmpty = true
  · by_cases hlimit : limitReached profile n = true
    · simp [hreasons, hlimit]
    · simp [hreasons, hlimit]
  · simp [hreasons]

/-- The counter and the number of cases without reasons, as far as the limit goes. -/
def Counts (profile : WSTGEngineProfile) (counter used : ℕ) : Prop :=
  counter ≤ used ∧ (limitReached profile counter = false → counter = used)

theorem Counts.reached_iff (h : Counts profile n used) :
    limitReached profile n = limitReached profile used := by
  obtain ⟨hle, heq⟩ := h
  cases hn : limitReached profile n with
  | true => exact (limitReached_mono hle hn).symm
  | false => rw [← heq hn, hn]

/-- **One case** keeps the counter in step. -/
theorem Counts.dispose (h : Counts profile n used) (case : AcceptedCase) :
    Counts profile (dispose profile n case).2.2 (used + if reasonless profile case then 1 else 0) := by
  obtain ⟨hle, heq⟩ := h
  rw [counter_dispose]
  by_cases hcase : reasonless profile case = true
  · cases hn : limitReached profile n with
    | true =>
      rw [if_neg (by simp), if_pos hcase]
      refine ⟨by omega, fun hnot => ?_⟩
      rw [hn] at hnot
      cases hnot
    | false =>
      rw [if_pos (by simp [hcase]), if_pos hcase, heq hn]
      exact ⟨le_rfl, fun _ => rfl⟩
  · rw [if_neg (by simp [hcase]), if_neg hcase, Nat.add_zero]
    exact ⟨hle, heq⟩

/-- **The ready tests** are what cases without reasons leave room for. -/
theorem readyTests_testsFrom (h : Counts profile n used) :
    (readyTests (testsFrom profile origin n cases)).map WSTGPlannedTest.testCase =
      pickFrom profile (reasonless profile) used cases := by
  induction cases generalizing n used with
  | nil => rfl
  | cons case rest ih =>
    have hrest := ih (h.dispose case)
    unfold readyTests at hrest ⊢
    unfold testsFrom
    rw [pickFrom_cons, ← hrest, List.filter_cons, disposition_plannedTest, ← h.reached_iff]
    unfold eligible
    cases isDestructive case <;> cases reasonless profile case <;>
      cases limitReached profile n <;> rfl

/-- A split of the tests is a split of the cases. -/
theorem testsFrom_split {pre post : List WSTGPlannedTest} {t : WSTGPlannedTest}
    (hcounts : Counts profile n used) (h : testsFrom profile origin n cases = pre ++ t :: post) :
    ∃ before case after m, cases = before ++ case :: after ∧
      pre = testsFrom profile origin n before ∧ t = plannedTest profile origin m case ∧
      Counts profile m (used + (before.filter (reasonless profile)).length) := by
  induction cases generalizing pre n used with
  | nil => simp [testsFrom] at h
  | cons case rest ih =>
    unfold testsFrom at h
    cases pre with
    | nil =>
      obtain ⟨rfl, -⟩ := List.cons.inj h
      exact ⟨[], case, rest, n, rfl, rfl, rfl, hcounts⟩
    | cons s pre =>
      obtain ⟨rfl, hrest⟩ := List.cons.inj h
      obtain ⟨before, c, after, m, rfl, rfl, rfl, hm⟩ := ih (hcounts.dispose case) hrest
      refine ⟨case :: before, c, after, m, rfl, rfl, rfl, ?_⟩
      rw [List.filter_cons]
      by_cases hcase : reasonless profile case = true
      · rw [if_pos hcase] at hm ⊢
        rw [List.length_cons, Nat.add_comm _ 1, ← Nat.add_assoc]
        exact hm
      · rw [if_neg hcase] at hm ⊢
        exact hm

/-- The limit is no planning reason. -/
theorem limitReason_not_mem (profile : WSTGEngineProfile) (case : AcceptedCase) :
    limitReason ∉ planningReasons profile case := by
  have hwhen : ∀ (b : Bool) (text : String), limitReason ≠ text → limitReason ∉ reasonWhen b text := by
    intro b text hne hmem
    unfold reasonWhen at hmem
    split at hmem
    · exact hne (List.mem_singleton.mp hmem)
    · cases hmem
  have hauth : limitReason ∉ authReasons profile case := by
    have htexts : ∀ text ∈ authReasons profile case, text ≠ limitReason := by
      intro text htext
      unfold authReasons at htext
      split at htext
      · cases htext
      all_goals
        split at htext
        · cases htext
        · rw [List.mem_singleton.mp htext]
          decide
    exact fun hmem => htexts _ hmem rfl
  unfold planningReasons
  simp only [List.mem_append, not_or]
  exact ⟨⟨⟨⟨hwhen _ _ (by decide), hwhen _ _ (by decide)⟩, hwhen _ _ (by decide)⟩,
    hwhen _ _ (by decide)⟩, hauth⟩

/-- **A case deferred for the limit** is eligible, and the limit is reached. -/
theorem limited_plannedTest (hdeferred : (plannedTest profile origin n case).disposition = .deferred)
    (hreason : limitReason ∈ (plannedTest profile origin n case).reasons) :
    eligible profile case = true ∧ limitReached profile n = true := by
  rw [disposition_plannedTest] at hdeferred
  by_cases hdestructive : isDestructive case = true
  · rw [if_pos hdestructive] at hdeferred
    cases hdeferred
  · rw [if_neg hdestructive] at hdeferred
    by_cases hreasons : (planningReasons profile case).isEmpty = true
    · have hready : reasonless profile case = true := hreasons
      rw [hready, Bool.true_and] at hdeferred
      unfold eligible
      rw [hready, Bool.and_true]
      refine ⟨by simpa using hdestructive, ?_⟩
      by_contra hlimit
      rw [Bool.not_eq_true] at hlimit
      rw [hlimit] at hdeferred
      cases hdeferred
    · have htexts : (plannedTest profile origin n case).reasons = planningReasons profile case := by
        simp [plannedTest, dispose, hdestructive, hreasons]
      rw [htexts] at hreason
      exact absurd hreason (limitReason_not_mem profile case)

theorem counts_zero (profile : WSTGEngineProfile) : Counts profile 0 0 := ⟨le_rfl, fun _ => rfl⟩

/-- **The ready tests are the first eligible cases** exactly where no destructive case hinders one. -/
theorem ready_iff (origin : String) : (readyTests (testsFrom profile origin 0 cases)).map WSTGPlannedTest.testCase =
    upToLimit profile (cases.filter (eligible profile)) ↔ Unhindered profile cases := by
  rw [readyTests_testsFrom (counts_zero profile), upToLimit_eq, pickFrom_eq_iff le_rfl]
  simp only [Nat.zero_add]
  rfl

/-- As many first eligible cases are ready as the limit asks for, once it is reached. -/
theorem limitReached_upToLimit (h : limitReached profile cases.length = true) :
    limitReached profile (upToLimit profile cases).length = true := by
  unfold limitReached at h ⊢
  unfold upToLimit
  cases hmax : profile.maxReadyTests with
  | none =>
    rw [hmax] at h
    cases h
  | some k =>
    rw [hmax] at h
    have hk : k ≤ (cases.length : ℤ) := of_decide_eq_true h
    refine decide_eq_true ?_
    rw [List.length_take]
    omega

theorem Unhindered.of_append {before after : List AcceptedCase}
    (h : Unhindered profile (before ++ after)) : Unhindered profile before := by
  intro pre case post heq
  refine h pre case (post ++ after) ?_
  rw [heq, List.append_assoc, List.cons_append]

/-- **A plan of a catalog.** It is what it should be exactly where the origin of the profile can be
read and no destructive case hinders an eligible one. -/
theorem plansWell_iff (urls : Urls) (profile : WSTGEngineProfile) (catalog : WSTGCatalog) :
    (∃ plan, buildWstgEnginePlan urls profile catalog = .ok plan ∧
      PlansWell profile catalog plan.plannedTests) ↔
    (∃ origin, profile.origin urls = .ok origin) ∧ Unhindered profile catalog.cases := by
  constructor
  · rintro ⟨plan, hplan, hwell⟩
    obtain ⟨tests, htests, hplan⟩ := bind_eq_ok.mp hplan
    cases hplan
    obtain ⟨origin, horigin⟩ := origin_of_planFrom catalog.ne_nil htests
    rw [planFrom_of_origin horigin] at htests
    cases htests
    exact ⟨⟨origin, horigin⟩, (ready_iff origin).mp hwell.ready⟩
  · rintro ⟨⟨origin, horigin⟩, hfree⟩
    refine ⟨_, bind_eq_ok.mpr ⟨_, planFrom_of_origin horigin 0 catalog.cases, rfl⟩, ?_⟩
    refine ⟨map_testCase_testsFrom 0 catalog.cases, (ready_iff origin).mpr hfree, ?_, ?_⟩
    · intro t ht hdestructive
      obtain ⟨pre, post, hsplit⟩ := List.append_of_mem ht
      obtain ⟨-, case, -, m, -, -, rfl, -⟩ := testsFrom_split (counts_zero profile) hsplit
      have hcase : isDestructive case = true := hdestructive
      rw [disposition_plannedTest, if_pos hcase]
    · intro pre t post hsplit hdeferred hreason
      obtain ⟨before, case, after, m, hcases, rfl, rfl, hcounts⟩ :=
        testsFrom_split (counts_zero profile) hsplit
      obtain ⟨heligible, hlimit⟩ := limited_plannedTest hdeferred hreason
      rw [hcounts.reached_iff, Nat.zero_add] at hlimit
      have hroom : limitReached profile (before.filter (eligible profile)).length = true := by
        by_contra hnot
        rw [Bool.not_eq_true] at hnot
        rw [hfree before case after hcases heligible hnot] at hlimit
        cases hlimit
      have hbefore : Unhindered profile before := (hcases ▸ hfree : Unhindered profile
        (before ++ case :: after)).of_append
      have hready := (ready_iff origin).mpr hbefore
      rw [← List.length_map (f := WSTGPlannedTest.testCase), hready]
      exact limitReached_upToLimit hroom

end plan

/-! ### A destructive case in the way -/

/-- Two digits. -/
def twoDigits (n : ℕ) : List Char := [Nat.digitChar (n / 10), Nat.digitChar (n % 10)]

/-- The letters of the categories, in order. -/
def categoryLetters : List (List Char) :=
  [['I', 'N', 'F', 'O'], ['C', 'O', 'N', 'F'], ['I', 'D', 'N', 'T'], ['A', 'T', 'H', 'N'],
    ['A', 'T', 'H', 'Z'], ['S', 'E', 'S', 'S'], ['I', 'N', 'P', 'V'], ['E', 'R', 'R', 'H'],
    ['C', 'R', 'Y', 'P'], ['B', 'U', 'S', 'L'], ['C', 'L', 'N', 'T'], ['A', 'P', 'I', 'T']]

/-- The category and the number of a case, in its identifier. -/
def sampleTail (e : ℕ × ℕ) : List Char :=
  (categoryLetters[e.1]?).getD [] ++ '-' :: twoDigits e.2

/-- The identifier of a case, by the position of its category and its number. -/
def sampleId (e : ℕ × ℕ) : List Char :=
  ['W', 'S', 'T', 'G', '-', 'v', '4', '2', '-'] ++ sampleTail e

/-- A case; the first one of all is destructive. -/
def sampleCase (e : ℕ × ℕ) : WSTGTestCase where
  wstgId := String.ofList (sampleId e)
  version := "v42"
  category := ((categoryNames.map Prod.fst)[e.1]?).getD ""
  categoryName := ((categoryNames.map Prod.snd)[e.1]?).getD ""
  sequence := e.2
  title := "Test"
  sourceUrl := "https://owasp.org/www-project-web-security-testing-guide/v42/"
  safetyTier := if e = (0, 1) then .destructiveDenied else .passive
  authRequirement := .anonymous
  adapterFamily := .http
  evidenceRequired := ["response"]

/-- The position of the category and the number of every case. -/
def samplePairs : List (ℕ × ℕ) :=
  expectedCategoryCounts.zipIdx.flatMap fun e => (List.range e.1.2).map fun n => (e.2, n + 1)

theorem sampleCase_accepted (e : ℕ × ℕ) (he : e ∈ samplePairs) :
    (sampleCase e).postInit = .ok () := by
  have hid : ∀ e ∈ samplePairs, isWstgId (sampleId e) = true := by decide
  have hcategory : ∀ e ∈ samplePairs, (sampleCase e).category ∈ categoryNames.map Prod.fst ∧
      categoryNames.lookup (sampleCase e).category = some (sampleCase e).categoryName ∧
      1 ≤ (sampleCase e).sequence := by decide
  have hversion : "v42".toList <:+: sampleId e :=
    ⟨['W', 'S', 'T', 'G', '-'], '-' :: sampleTail e, by simp [sampleId]⟩
  have hdigits : isVersion "v42".toList = true := by decide
  have htitle : (strip "Test" != "") = true := by decide
  have hguide : "/www-project-web-security-testing-guide/v42/".toList <:+:
      "https://owasp.org/www-project-web-security-testing-guide/v42/".toList := by decide
  obtain ⟨hname, hnamed, hsequence⟩ := hcategory e he
  unfold WSTGTestCase.postInit
  simp only [bind_eq_ok, guardE_eq_ok, decide_eq_true_eq]
  refine ⟨(), ?_, (), hdigits, (), ?_, (), hname, (), hnamed, (), hsequence, (), htitle, (), hguide,
    rfl⟩
  · have hletters : (sampleCase e).wstgId.toList = sampleId e := String.toList_ofList
    rw [hletters]
    exact hid e he
  · have hletters : (sampleCase e).wstgId.toList = sampleId e := String.toList_ofList
    rw [hletters]
    exact hversion

/-- The cases of a catalog. -/
def sampleCases : List AcceptedCase :=
  samplePairs.pmap (fun e h => ⟨sampleCase e, h⟩) sampleCase_accepted

theorem map_val_sampleCases {β : Type} (f : WSTGTestCase → β) :
    (sampleCases.map fun c => f c.val) = samplePairs.map fun e => f (sampleCase e) := by
  unfold sampleCases
  rw [List.map_pmap]
  exact List.pmap_eq_map (f := fun e => f (sampleCase e)) sampleCase_accepted

theorem sampleCases_ordered : sampleCases.Pairwise fun a b => sortKey a ≤ sortKey b := by
  have hkeys : ∀ e ∈ samplePairs,
      (expectedCategoryCounts.map Prod.fst).idxOf (sampleCase e).category = e.1 := by decide
  have hpairs : samplePairs.Pairwise fun a b => a.1 < b.1 ∨ a.1 = b.1 ∧ a.2 ≤ b.2 := by
    decide
  refine (List.pairwise_pmap sampleCase_accepted).mpr ?_
  refine hpairs.imp_of_mem ?_
  intro a b ha hb hle _ _
  unfold sortKey
  rw [Prod.Lex.toLex_le_toLex, hkeys a ha, hkeys b hb]
  refine hle.imp id fun hsame => ⟨hsame.1, ?_⟩
  exact Int.ofNat_le.mpr hsame.2

theorem sampleCases_unique : (sampleCases.map fun c => c.val.wstgId).Nodup := by
  have htails : (samplePairs.map sampleTail).Nodup := by decide
  rw [map_val_sampleCases WSTGTestCase.wstgId]
  have heq : (samplePairs.map fun e => (sampleCase e).wstgId) =
      (samplePairs.map sampleTail).map fun tail =>
        String.ofList (['W', 'S', 'T', 'G', '-', 'v', '4', '2', '-'] ++ tail) := by
    rw [List.map_map]
    rfl
  rw [heq]
  exact htails.map fun _ _ h => List.append_cancel_left (String.ofList_injective h)

theorem sampleCases_complete : countsMatch sampleCases = true := by
  have hcounts : (expectedCategoryCounts.all fun e =>
      ((samplePairs.map fun p => (sampleCase p).category).countP fun c => c == e.1) == e.2) = true := by
    decide
  unfold countsMatch
  rw [← map_val_sampleCases WSTGTestCase.category] at hcounts
  simp only [List.countP_map, Function.comp_def] at hcounts
  exact hcounts

/-- A catalog whose first case is destructive. -/
def sampleCatalog : WSTGCatalog where
  cases := sampleCases
  ordered := sampleCases_ordered
  ne_nil := List.cons_ne_nil _ _
  unique := sampleCases_unique
  complete := sampleCases_complete

/-- A profile that allows the tier of destructive cases, and one ready test. -/
def sampleProfile : WSTGEngineProfile where
  campaignId := "campaign-17"
  targetAlias := "owned-app"
  baseUrl := "https://example.test"
  authorizationReference := "authz-17"
  operatorApproved := true
  allowedSafetyTiers := [.passive, .destructiveDenied]
  allowedAdapterFamilies := [.http]
  maxReadyTests := some 1

/-- A library for plain hosts in lower case. -/
def plainHosts : HostLibrary where
  lower s := s
  expands _ := false
  isIPv6 s := decide (':' ∈ s.toList)
  repr s := "'" ++ s ++ "'"

theorem sampleProfile_accepted : sampleProfile.postInit (splitUrls plainHosts) = .ok () := by
  decide

theorem sampleProfile_origin :
    sampleProfile.origin (splitUrls plainHosts) = .ok "https://example.test" := by decide

/-- The planned tests of the catalog. -/
def sampleTests : List WSTGPlannedTest :=
  testsFrom sampleProfile "https://example.test" 0 sampleCatalog.cases

/-- **A destructive case in the way**: the profile and the catalog are accepted, and yet no test of
their plan is ready. -/
theorem destructive_hinders : sampleProfile.postInit (splitUrls plainHosts) = .ok () ∧
    WSTGCatalog.init sampleCatalog.cases = .ok sampleCatalog ∧
    ∃ plan, buildWstgEnginePlan (splitUrls plainHosts) sampleProfile sampleCatalog = .ok plan ∧
      readyTests plan.plannedTests = [] ∧
      ¬ PlansWell sampleProfile sampleCatalog plan.plannedTests := by
  have hnone : readyTests sampleTests = [] :=
    List.isEmpty_iff.mp (by decide : (readyTests sampleTests).isEmpty = true)
  have hfirst : (upToLimit sampleProfile
      (sampleCatalog.cases.filter (eligible sampleProfile))).length = 1 := by decide
  refine ⟨sampleProfile_accepted, WSTGCatalog.init_cases _, _, bind_eq_ok.mpr
    ⟨_, planFrom_of_origin sampleProfile_origin 0 sampleCatalog.cases, rfl⟩, hnone, ?_⟩
  intro hwell
  have hready := congrArg List.length hwell.ready
  rw [hfirst, List.length_map] at hready
  have hempty : (readyTests sampleTests).length = 1 := hready
  rw [hnone] at hempty
  cases hempty

end Aotp.Wstg
