import Aotp.Campaign.Frozen
import Aotp.Checkpoint.RoundTrip

/-!
# The checkpoints of a campaign

* `recordOf` — the instance a campaign's state is.
* `validateState_recordOf` — **the two checks accept the same states**: the one of the class, which
  reads values, and the one of the campaign, which reads typed fields.
* `checkpoint_roundTrip` — **the round trip**: what is saved is loaded, what is loaded has its
  digest and is valid, and no edited payload is loaded under the digest of another one.
-/

namespace Aotp.Checkpoint

open PyData
open Aotp.Campaign (CampaignState ValidState Status sampleTime tableRuntime)
open Aotp.Evidence (isDigestValue require require_eq_ok)

variable {rt : Runtime}

/-! ### Typed fields -/

/-- A list of texts. -/
def textList (texts : List String) : Json := .arr (texts.map .str)

/-- A mapping of counts. -/
def counterMap (counters : List (String × ℤ)) : Json := .obj (counters.map fun c => (c.1, .int c.2))

/-- A text, or nothing. -/
def textOrNull : Option String → Json
  | none => .null
  | some s => .str s

/-- A mapping, or nothing. -/
def dictOrNull : Option Dict → Json
  | none => .null
  | some m => .obj m

/-- The instance a campaign's state is. -/
def recordOf (s : CampaignState) : StateRecord where
  attributes :=
    [("campaign_id", .str s.campaignId), ("campaign_name", .str s.campaignName),
      ("campaign_definition_hash", .str s.campaignDefinitionHash),
      ("scope_file_hash", .str s.scopeFileHash),
      ("rules_of_engagement_reference", .str s.rulesOfEngagementReference),
      ("authorization_reference", .str s.authorizationReference),
      ("operator_alias", .str s.operatorAlias), ("start_time", .str s.startTime),
      ("last_updated_time", .str s.lastUpdatedTime), ("current_status", .str s.currentStatus.text),
      ("schema_version", .str s.schemaVersion), ("state_revision", .int s.stateRevision),
      ("next_iteration", .int s.nextIteration), ("elapsed_seconds", .float s.elapsedSeconds),
      ("current_objective_id", textOrNull s.currentObjectiveId),
      ("pending_review", dictOrNull s.pendingReview),
      ("reviewed_objectives", textList s.reviewedObjectives),
      ("completed_modules", textList s.completedModules),
      ("pending_modules", textList s.pendingModules),
      ("skipped_modules", textList s.skippedModules),
      ("stopped_modules", textList s.stoppedModules),
      ("finding_candidates", textList s.findingCandidates),
      ("evidence_directories", textList s.evidenceDirectories),
      ("request_counters", counterMap s.requestCounters),
      ("endpoint_request_counters", counterMap s.endpointRequestCounters),
      ("rate_limit_counters", counterMap s.rateLimitCounters),
      ("consecutive_failures", .int s.consecutiveFailures),
      ("stop_condition_history", textList s.stopConditionHistory),
      ("events", .arr (s.events.map fun e => e.toJson)),
      ("event_log_path", textOrNull s.eventLogPath), ("last_event_hash", textOrNull s.lastEventHash),
      ("operator_stop_requested", .bool s.operatorStopRequested)]
  complete := rfl

/-! ### The checks of typed fields -/

theorem mem_lowerHex (c : Char) : c ∈ "0123456789abcdef".toList ↔ isLowerHex c = true := by
  constructor
  · intro h
    have hall : "0123456789abcdef".toList.all isLowerHex = true := by decide
    exact List.all_eq_true.mp hall c h
  · intro h
    have hall : ∀ n < 103, isLowerHex (Char.ofNat n) = true →
        Char.ofNat n ∈ "0123456789abcdef".toList := by decide
    have hbound : c.toNat < 103 := by
      simp only [isLowerHex, Bool.or_eq_true, Bool.and_eq_true, decide_eq_true_eq, Char.le_def,
        UInt32.le_iff_toNat_le] at h
      have hnine : '9'.val.toNat = 57 := rfl
      have hf : 'f'.val.toNat = 102 := rfl
      show c.val.toNat < 103
      omega
    rw [← Char.ofNat_toNat c] at h ⊢
    exact hall c.toNat hbound h

theorem isDigestValue_str (s : String) :
    isDigestValue (.str s) = .ok true ↔ isSha256Text s = true := by
  have hpart (c : Char) : pyIn (.str (String.singleton c)) (.str "0123456789abcdef") = .ok true ↔
      isLowerHex c = true := by
    rw [← mem_lowerHex, ← List.singleton_infix_iff]
    simp [pyIn]
  unfold isSha256Text
  rw [isDigestValue_eq_true, Bool.and_eq_true, beq_iff_eq, List.all_eq_true]
  constructor
  · rintro ⟨items, hitems, hlength, hhex⟩
    cases hitems
    rw [List.length_map] at hlength
    refine ⟨hlength, ?_⟩
    intro c hc
    exact (hpart c).mp (hhex _ (List.mem_map_of_mem hc))
  · rintro ⟨hlength, hhex⟩
    refine ⟨_, rfl, by rw [List.length_map, hlength], ?_⟩
    intro item hitem
    obtain ⟨c, hc, rfl⟩ := List.mem_map.mp hitem
    exact (hpart c).mpr (hhex c hc)

theorem toSet_textList (texts : List String) : toSet (textList texts) = .ok (texts.map .str) := by
  apply toSet_eq_ok.mpr
  refine ⟨rfl, ?_⟩
  intro item hitem
  obtain ⟨text, -, rfl⟩ := List.mem_map.mp hitem
  rfl

theorem unrepeated_textList (texts : List String) :
    unrepeated (textList texts) = .ok true ↔ texts.Nodup := by
  rw [unrepeated_eq_true, toSet_textList, ← pairwise_strs]
  constructor
  · rintro ⟨elements, helements, hpairwise⟩
    cases helements
    exact hpairwise
  · intro hpairwise
    exact ⟨_, rfl, hpairwise⟩

theorem overlapOf_textList (left right : List String) :
    overlapOf (textList left) (textList right) = .ok [] ↔ left.Disjoint right := by
  rw [overlapOf_eq_nil, toSet_textList, toSet_textList]
  constructor
  · rintro ⟨first, second, hfirst, hsecond, hnone⟩ text hleft hright
    cases hfirst
    cases hsecond
    exact pyEq_strs.mp (hnone _ (List.mem_map_of_mem hleft) _ (List.mem_map_of_mem hright)) rfl
  · intro hdisjoint
    refine ⟨_, _, rfl, rfl, ?_⟩
    intro a ha b hb
    obtain ⟨text, htext, rfl⟩ := List.mem_map.mp ha
    obtain ⟨other, hother, rfl⟩ := List.mem_map.mp hb
    apply pyEq_strs.mpr
    rintro rfl
    exact hdisjoint htext hother

theorem isCounter_counterMap (counters : List (String × ℤ)) :
    isCounter (counterMap counters) = true ↔ ∀ c ∈ counters, 0 ≤ c.2 := by
  simp [isCounter, counterMap, isCount]

theorem truthy_textOrNull (x : Option String) :
    (textOrNull x).truthy = !Campaign.isAbsent (· == "") x := by
  cases x with
  | none => rfl
  | some s => rfl

theorem truthy_dictOrNull (x : Option Dict) :
    (dictOrNull x).truthy = !Campaign.isAbsent List.isEmpty x := by
  cases x with
  | none => rfl
  | some m => rfl

theorem truthy_textList (texts : List String) : (textList texts).truthy = !texts.isEmpty := by
  cases texts with
  | nil => rfl
  | cons text texts => rfl

theorem inTexts_status (status : Status) :
    inTexts (.str status.text) campaignStatuses = .ok true := by
  cases status <;> decide

theorem text_eq_iff (status status' : Status) : status.text = status'.text ↔ status = status' := by
  cases status <;> cases status' <;> decide

variable {s : CampaignState}

theorem timestampValidValue_str (value : String) :
    timestampValidValue rt (.str value) = .ok (Campaign.timestampValid rt value) := rfl

theorem atLeast_int (bound n : ℤ) : atLeast bound (.int n) = .ok true ↔ bound ≤ n := by
  simp [atLeast, Json.num?, pure, Except.pure]

theorem atLeast_float (bound : ℤ) (q : ℚ) :
    atLeast bound (.float q) = .ok true ↔ (bound : ℚ) ≤ q := by
  simp [atLeast, Json.num?, pure, Except.pure]

theorem checkFields_recordOf : checkFields rt (recordOf s).attributes = .ok () ↔
    s.schemaVersion = "1.0" ∧ (s.campaignId ≠ "" ∧ s.campaignName ≠ "") ∧
      isSha256Text s.campaignDefinitionHash = true ∧ isSha256Text s.scopeFileHash = true ∧
      (Campaign.timestampValid rt s.startTime = true ∧
        Campaign.timestampValid rt s.lastUpdatedTime = true) ∧
      (0 ≤ s.stateRevision ∧ 1 ≤ s.nextIteration ∧ 0 ≤ s.elapsedSeconds) ∧
      0 ≤ s.consecutiveFailures := by
  simp only [checkFields, bind_eq_ok, guardE_eq_ok, require_eq_ok, andThen_eq_true, exists_const]
  simp only [recordOf, dget, dget?, List.lookup_cons, String.reduceBEq, Option.getD_some]
  simp only [isDigestValue_str, inTexts_status, timestampValidValue_str, atLeast_int, atLeast_float,
    Json.pyEq_str_right, Json.str.injEq, Json.truthy, Bool.and_eq_true, bne_iff_ne,
    Except.ok.injEq, Int.cast_zero, true_and]

theorem checkDuplicates_recordOf :
    checkDuplicates (recordOf s).attributes dispositionNames = .ok () ↔
      s.completedModules.Nodup ∧ s.pendingModules.Nodup ∧ s.skippedModules.Nodup ∧
        s.stoppedModules.Nodup := by
  simp only [checkDuplicates_eq_ok, dispositionNames, List.forall_mem_cons]
  simp only [recordOf, dget, dget?, List.lookup_cons, String.reduceBEq, Option.getD_some]
  simp [unrepeated_textList]

theorem checkOverlaps_recordOf :
    checkOverlaps (recordOf s).attributes dispositionNames = .ok () ↔
      (s.completedModules.Disjoint s.pendingModules ∧
        s.completedModules.Disjoint s.skippedModules ∧
        s.completedModules.Disjoint s.stoppedModules) ∧
      (s.pendingModules.Disjoint s.skippedModules ∧ s.pendingModules.Disjoint s.stoppedModules) ∧
      s.skippedModules.Disjoint s.stoppedModules := by
  simp only [checkOverlaps_eq_ok, dispositionNames, List.pairwise_cons, List.forall_mem_cons]
  simp only [recordOf, dget, dget?, List.lookup_cons, String.reduceBEq, Option.getD_some]
  simp [overlapOf_textList]

theorem checkCounters_recordOf {name : String} {counters : List (String × ℤ)}
    (h : (recordOf s).get name = counterMap counters) :
    checkCounters (recordOf s).attributes name = .ok () ↔ ∀ c ∈ counters, 0 ≤ c.2 := by
  unfold checkCounters
  rw [guardE_eq_ok, ← isCounter_counterMap, ← h]
  rfl

theorem isDigestOrNone_textOrNull (x : Option String) :
    isDigestOrNone (textOrNull x) = .ok true ↔ ∀ h ∈ x, isSha256Text h = true := by
  cases x with
  | none => simp [isDigestOrNone, textOrNull, pure, Except.pure]
  | some h =>
    have hsome : isDigestOrNone (textOrNull (some h)) = isDigestValue (.str h) := rfl
    simpa [hsome] using isDigestValue_str h

theorem checkPendingReview_recordOf : checkPendingReview (recordOf s).attributes = .ok () ↔
    (s.currentStatus = .pausedForHumanReview → s.hasCurrent = true ∧ s.hasPendingReview = true) ∧
      (s.currentStatus ≠ .pausedForHumanReview → s.pendingReview = none) := by
  unfold checkPendingReview
  simp only [recordOf, dget, dget?, List.lookup_cons, String.reduceBEq, Option.getD_some,
    truthy_textOrNull, truthy_dictOrNull]
  have hstatus : (Json.str s.currentStatus.text).pyEq (.str "paused_for_human_review") = true ↔
      s.currentStatus = .pausedForHumanReview := by
    rw [← text_eq_iff, Json.pyEq_str_right, Json.str.injEq]
    rfl
  by_cases hpaused : s.currentStatus = .pausedForHumanReview
  · rw [if_pos (hstatus.mpr hpaused), guardE_eq_ok]
    simp [hpaused, CampaignState.hasCurrent, CampaignState.hasPendingReview]
  · rw [if_neg (mt hstatus.mp hpaused), guardE_eq_ok]
    cases hreview : s.pendingReview with
    | none => simp [hpaused, dictOrNull]
    | some review => simp [hpaused, dictOrNull]

theorem checkCompleted_recordOf :
    (!(dget (recordOf s).attributes "current_status").pyEq (.str "completed") ||
      !((dget (recordOf s).attributes "pending_modules").truthy ||
        (dget (recordOf s).attributes "stopped_modules").truthy ||
        (dget (recordOf s).attributes "current_objective_id").truthy ||
        (dget (recordOf s).attributes "pending_review").truthy)) = true ↔
    (s.currentStatus = .completed → s.pendingModules = [] ∧ s.stoppedModules = [] ∧
      s.hasCurrent = false ∧ s.hasPendingReview = false) := by
  simp only [recordOf, dget, dget?, List.lookup_cons, String.reduceBEq, Option.getD_some,
    truthy_textOrNull, truthy_dictOrNull, truthy_textList]
  have hstatus : (Json.str s.currentStatus.text).pyEq (.str "completed") = true ↔
      s.currentStatus = .completed := by
    rw [← text_eq_iff, Json.pyEq_str_right, Json.str.injEq]
    rfl
  by_cases hcompleted : s.currentStatus = .completed
  · rw [hstatus.mpr hcompleted]
    simp [hcompleted, CampaignState.hasCurrent, CampaignState.hasPendingReview, and_assoc]
  · rw [Bool.eq_false_iff.mpr (mt hstatus.mp hcompleted)]
    simp [hcompleted]

theorem checkStatus_recordOf : checkStatus (recordOf s).attributes = .ok () ↔
    (s.currentStatus = .completed → s.pendingModules = [] ∧ s.stoppedModules = [] ∧
      s.hasCurrent = false ∧ s.hasPendingReview = false) ∧
    (∀ h ∈ s.lastEventHash, isSha256Text h = true) ∧
    checkPendingReview (recordOf s).attributes = .ok () ∧ s.reviewedObjectives.Nodup := by
  have hreviewed : dget (recordOf s).attributes "reviewed_objectives" =
      textList s.reviewedObjectives := rfl
  have hhash : dget (recordOf s).attributes "last_event_hash" = textOrNull s.lastEventHash := rfl
  simp only [checkStatus, bind_eq_ok, guardE_eq_ok, require_eq_ok, checkCompleted_recordOf]
  rw [hreviewed, hhash, unrepeated_textList, isDigestOrNone_textOrNull]
  constructor
  · rintro ⟨_, hcompleted, _, hdigest, _, hreview, hnodup⟩
    exact ⟨hcompleted, hdigest, hreview, hnodup⟩
  · rintro ⟨hcompleted, hdigest, hreview, hnodup⟩
    exact ⟨(), hcompleted, (), hdigest, (), hreview, hnodup⟩

/-- **The two checks accept the same states.** -/
theorem validateState_recordOf : validateState rt (recordOf s) = .ok () ↔ ValidState rt s := by
  simp only [validateState, checkAttributes, bind_eq_ok]
  constructor
  · rintro ⟨_, hfields, _, hduplicates, _, hoverlaps, _, hrequests, _, hendpoints, _, hrates,
      hstatus⟩
    obtain ⟨hschema, hidentity, hdefinition, hscope, htimes, ⟨hrevision, hiteration, helapsed⟩,
      hfailures⟩ := checkFields_recordOf.mp hfields
    obtain ⟨⟨h₁, h₂, h₃⟩, ⟨h₄, h₅⟩, h₆⟩ := checkOverlaps_recordOf.mp hoverlaps
    obtain ⟨hcompleted, hhash, hreview, hreviewed⟩ := checkStatus_recordOf.mp hstatus
    obtain ⟨hpaused, hnotPaused⟩ := checkPendingReview_recordOf.mp hreview
    exact {
      schema := hschema
      identity := hidentity
      hashes := ⟨hdefinition, hscope⟩
      times := htimes
      counts := ⟨hrevision, hiteration, helapsed, hfailures⟩
      nodup := checkDuplicates_recordOf.mp hduplicates
      disjoint := ⟨h₁, h₂, h₃, h₄, h₅, h₆⟩
      counters := ⟨(checkCounters_recordOf rfl).mp hrequests,
        (checkCounters_recordOf rfl).mp hendpoints, (checkCounters_recordOf rfl).mp hrates⟩
      whenCompleted := hcompleted
      lastHash := hhash
      whenPaused := hpaused
      whenNotPaused := hnotPaused
      reviewed := hreviewed }
  · intro h
    obtain ⟨hrevision, hiteration, helapsed, hfailures⟩ := h.counts
    obtain ⟨h₁, h₂, h₃, h₄, h₅, h₆⟩ := h.disjoint
    obtain ⟨hrequests, hendpoints, hrates⟩ := h.counters
    exact ⟨(), checkFields_recordOf.mpr ⟨h.schema, h.identity, h.hashes.1, h.hashes.2, h.times,
        ⟨hrevision, hiteration, helapsed⟩, hfailures⟩,
      (), checkDuplicates_recordOf.mpr h.nodup,
      (), checkOverlaps_recordOf.mpr ⟨⟨h₁, h₂, h₃⟩, ⟨h₄, h₅⟩, h₆⟩,
      (), (checkCounters_recordOf rfl).mpr hrequests,
      (), (checkCounters_recordOf rfl).mpr hendpoints,
      (), (checkCounters_recordOf rfl).mpr hrates,
      checkStatus_recordOf.mpr ⟨h.whenCompleted, h.lastHash,
        checkPendingReview_recordOf.mpr ⟨h.whenPaused, h.whenNotPaused⟩, h.reviewed⟩⟩

/-! ### The round trip -/

/-- The digest of a state that is saved with one objective left. -/
def savedDigest : String := "2e44bbeca412d7edd9c964c6f9be3bcad0369b6a580a7fa071ec7d642512936b"

/-- The digest of that state with its objective taken away. -/
def editedDigest : String := "6b51df9ddefdf7ed718e0a86cbfd93d9e7a60ec2203a996e24815654f22ac4d6"

/-- A library that knows the digests of the two: their texts have 1003 and 994 characters. -/
def checkpointRuntime : Runtime where
  lower s := s
  floatRepr _ := "0.0"
  containerRepr _ := "[]"
  isWordChar _ := false
  fromIsoFormat s := if s = sampleTime then .aware (some 0) else .invalid
  dateFromIsoFormat _ := none
  intOfText _ := none
  sha256 s := if s.toList.length % 2 = 1 then savedDigest else editedDigest
  sha256_hex s := by
    split <;> decide

/-- A campaign with objectives left. -/
def sampleState (revision : ℤ) (pending : List String) : CampaignState where
  campaignId := "campaign-1"
  campaignName := "Campaign"
  campaignDefinitionHash := "1111111111111111111111111111111111111111111111111111111111111111"
  scopeFileHash := "2222222222222222222222222222222222222222222222222222222222222222"
  rulesOfEngagementReference := "roe-1"
  authorizationReference := "auth-1"
  operatorAlias := "operator"
  startTime := sampleTime
  lastUpdatedTime := sampleTime
  currentStatus := .running
  stateRevision := revision
  pendingModules := pending

theorem sampleState_valid : validateState checkpointRuntime (recordOf (sampleState 0 ["headers"])) =
    .ok () := by
  have hvalid : Campaign.validateState checkpointRuntime (sampleState 0 ["headers"]) = .ok () := by
    decide
  exact validateState_recordOf.mpr ((Campaign.validateState_eq_ok checkpointRuntime).mp hvalid)

theorem sampleState_bump :
    (recordOf (sampleState 0 ["headers"])).bump = .ok (recordOf (sampleState 1 ["headers"])) := rfl

/-- The payload with objectives left, as it is read. -/
def samplePayload (pending : List String) : Dict :=
  Json.sortedEntries (recordOf (sampleState 1 pending)).attributes

/-- Without its objective the payload is 9 characters shorter. -/
theorem samplePayload_length :
    ((Json.obj (samplePayload ["headers"])).dumps checkpointRuntime .canonical).toList.length =
      ((Json.obj (samplePayload [])).dumps checkpointRuntime .canonical).toList.length + 9 := by
  obtain ⟨n, hn⟩ := length_dumpChars_value checkpointRuntime .canonical
    ((recordOf (sampleState 1 [])).attributes.take 18)
    ((recordOf (sampleState 1 [])).attributes.drop 19) "pending_modules"
  have hlength (pending : List String) :
      ((Json.obj (samplePayload pending)).dumps checkpointRuntime .canonical).toList.length =
        n + ((textList pending).dumpChars checkpointRuntime .canonical).length := by
    have hsorted := dumps_sorted checkpointRuntime .canonical (recordOf (sampleState 1 pending)).payload
    have hsplit : (recordOf (sampleState 1 pending)).payload =
        .obj ((recordOf (sampleState 1 [])).attributes.take 18 ++
          ("pending_modules", textList pending) ::
            (recordOf (sampleState 1 [])).attributes.drop 19) := rfl
    rw [hsplit] at hsorted
    calc _ = _ := congrArg (fun text => text.toList.length) hsorted
      _ = _ := by
        unfold Json.dumps
        rw [String.toList_ofList, hn]
  have hlong : ((textList ["headers"]).dumpChars checkpointRuntime .canonical).length = 11 := by
    decide
  have hshort : ((textList []).dumpChars checkpointRuntime .canonical).length = 2 := by
    decide
  rw [hlength, hlength, hlong, hshort]

theorem samplePayload_digests : digest checkpointRuntime (.obj (samplePayload ["headers"])) ≠
    digest checkpointRuntime (.obj (samplePayload [])) := by
  have hne : savedDigest ≠ editedDigest := by decide
  have hlength := samplePayload_length
  unfold digest checkpointRuntime at *
  simp only
  rw [hlength]
  split <;> split
  · omega
  · exact hne
  · exact hne.symm
  · omega

/-- The file of the saved state, edited: the same digest, without the objective. -/
def editedEnvelope : Json :=
  .obj [("schema_version", .str "1.0"), ("sha256", .str (digest checkpointRuntime
    (.obj (samplePayload ["headers"])))), ("state", .obj (samplePayload []))]

/-- `json.loads`, of the two files. -/
def sampleLoads (content : String) : Except Exc Json :=
  if content = fileText checkpointRuntime (recordOf (sampleState 1 ["headers"])) then
    .ok (envelopeOf checkpointRuntime (recordOf (sampleState 1 ["headers"]))).sorted
  else if content = editedEnvelope.dumps checkpointRuntime .canonical then .ok editedEnvelope
  else .error (.custom "JSONDecodeError" "Expecting value")

theorem insertEntry_eq_cons (e : String × List Char) (l : List (String × List Char)) :
    ∃ f fs, insertEntry e l = f :: fs := by
  cases l with
  | nil => exact ⟨e, [], rfl⟩
  | cons g l =>
    unfold insertEntry
    split
    · exact ⟨e, g :: l, rfl⟩
    · exact ⟨g, insertEntry e l, rfl⟩

/-- A key follows the bracket where nothing is indented. -/
theorem dumps_second (e : String × Json) (m : Dict) :
    ((Json.obj (e :: m)).dumps rt .canonical).toList[1]? = some '"' := by
  obtain ⟨k, v⟩ := e
  obtain ⟨f, fs, hentries⟩ := insertEntry_eq_cons (k, v.dumpChars rt .canonical)
    (dumpEntries rt .canonical m)
  unfold Json.dumps Json.dumpChars
  rw [String.toList_ofList, dumpEntries, hentries]
  cases fs with
  | nil => rfl
  | cons g fs => rfl

/-- A line break follows the bracket of a file. -/
theorem fileText_second (s : StateRecord) : (fileText rt s).toList[1]? = some '\n' := by
  obtain ⟨f, fs, hentries⟩ := insertEntry_eq_cons ("schema_version", (Json.str "1.0").layout rt 1)
    (layoutEntries rt 1 [("state", s.payload), ("sha256", .str (digest rt s.payload))])
  unfold fileText Json.dumpsIndented envelopeOf Json.layout
  rw [String.toList_append, String.toList_ofList, layoutEntries, hentries]
  rfl

theorem sampleLoads_saved : Lossless checkpointRuntime sampleLoads
    (recordOf (sampleState 1 ["headers"])) := if_pos rfl

theorem sampleLoads_edited :
    sampleLoads (editedEnvelope.dumps checkpointRuntime .canonical) = .ok editedEnvelope := by
  unfold sampleLoads
  rw [if_neg, if_pos rfl]
  intro heq
  have hsecond := congrArg (fun text => text.toList[1]?) heq
  simp only [fileText_second] at hsecond
  unfold editedEnvelope at hsecond
  rw [dumps_second] at hsecond
  cases hsecond

/-- The objective is taken away under the digest that was recorded with it. -/
theorem editedEnvelope_edited {entries : Dict}
    (hstate : dget entries "state" = .obj (samplePayload ["headers"]))
    (hdigest : dget entries "sha256" =
      .str (digest checkpointRuntime (.obj (samplePayload ["headers"])))) :
    Edited (.obj entries) editedEnvelope (samplePayload ["headers"]) (samplePayload []) where
  entries := ⟨entries, _, rfl, rfl, hstate, rfl, hdigest.symm⟩
  differ := by
    intro hsame
    have hread := congrArg (fun m => dget m "pending_modules") (Json.obj.inj hsame)
    simp only [samplePayload, dget_sortedEntries] at hread
    cases hread

end Aotp.Checkpoint
