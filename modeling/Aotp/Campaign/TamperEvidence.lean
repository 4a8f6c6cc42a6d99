import Aotp.Campaign.Events
import Aotp.Campaign.Frozen
import Aotp.Lib.SortedValues

/-!
# Tamper evidence of the event log

* `LogState` — the events a state counts are chained, and the hash it holds is their tip;
  `LogState.withEvent` is its preservation by an append.
* `appendAll_spec` — a sequence of appends leaves exactly the appended events, chained.
* `eventLog_tamperEvident` — **a log file that verifies against a state holds the events that were
  appended to reach it**, event by event and field by field.
-/

namespace Aotp.Campaign

open PyData Aotp.Gate Effects HashChain

/-! ### The events a state counts -/

/-- The events a state counts are chained, and the hash it holds is their tip. -/
structure LogState (rt : Runtime) (s : CampaignState) : Prop where
  chained : Chained rt s.events
  tip_eq : tip (chainDigest rt) .null s.events = optText s.lastEventHash

variable {rt : Runtime}

theorem numbered_append {n : ℤ} {es : List CampaignEvent} {e : CampaignEvent} :
    Numbered n (es ++ [e]) ↔
      Numbered n es ∧ Json.pyEq e.sequence (.int (n + es.length)) = true := by
  induction es generalizing n with
  | nil => simp [Numbered]
  | cons e' es ih =>
    simp only [List.cons_append, Numbered, ih, and_assoc, List.length_cons]
    rw [show n + 1 + (es.length : ℤ) = n + ((es.length + 1 : ℕ) : ℤ) by push_cast; omega]

/-- The payload of an event does not hold its own hash. -/
@[simp] theorem eventHash_nextEvent (s : CampaignState) (id now : String) (a : EventArgs) :
    eventHash rt (nextEvent rt s id now a) = eventHash rt (draftEvent s id now a) := rfl

/-- The next event depends on the events a state counts and on the hash it holds. -/
theorem nextEvent_congr {s t : CampaignState} (hevents : s.events = t.events)
    (hlast : s.lastEventHash = t.lastEventHash) {id now : String} {a : EventArgs} :
    nextEvent rt s id now a = nextEvent rt t id now a := by
  simp only [nextEvent, draftEvent, hevents, hlast]

/-- A state without events is chained. -/
theorem LogState.of_empty {s : CampaignState} (h : s.events = []) (h' : s.lastEventHash = none) :
    LogState rt s := by
  refine ⟨⟨?_, ?_, ?_⟩, ?_⟩
  · rw [h]
    trivial
  · simp [SelfHashed, h]
  · rw [h]
    trivial
  · rw [h, h']
    rfl

/-- **An append keeps the events chained.** -/
theorem LogState.withEvent {s : CampaignState} (h : LogState rt s) (id now : String)
    (a : EventArgs) : LogState rt (s.withEvent rt (nextEvent rt s id now a)) := by
  refine ⟨⟨?_, ?_, ?_⟩, ?_⟩
  · refine numbered_append.mpr ⟨h.chained.numbered, ?_⟩
    simp [nextEvent, draftEvent, Json.pyEq, Json.num?, add_comm]
  · intro e he
    rcases List.mem_append.mp he with he | he
    · exact h.chained.selfHashed e he
    · rw [List.mem_singleton.mp he]
      rfl
  · exact linked_concat.mpr ⟨h.chained.linked, h.tip_eq.symm⟩
  · exact tip_concat _ _ _

/-- **The log that holds the events a state counts verifies against it.** -/
theorem LogState.verifies {site : Site} {s : CampaignState} (h : LogState site.rt s)
    (hne : s.events ≠ []) {path : String} (hpath : resolveEventLog site s = .ok path) :
    verifyStateLog site s (.lines (s.events.map CampaignEvent.line)) = .ok [] :=
  (verifyStateLog_eq_nil site).mpr ⟨⟨path, hpath⟩, s.events, eventsOfLines_map_line _, hne,
    h.chained, h.tip_eq, rfl⟩

/-! ### Sequences of appends -/

/-- The events a program has appended. -/
def appendMonitor : Monitor Op Res (List CampaignEvent) where
  allowed _ _ := True
  legal _ _ _ := True
  next es o r := es ++ appendsOf [⟨o, r⟩]

theorem appendsOf_cons (x : Step) (tr : List Step) :
    appendsOf (x :: tr) = appendsOf [x] ++ appendsOf tr := by
  simp only [appendsOf, effectsOf]
  rw [← List.filterMap_append, ← List.filterMap_append, List.singleton_append]

theorem appendMonitor_run (es : List CampaignEvent) (tr : List Step) :
    appendMonitor.run es tr = es ++ appendsOf tr := by
  induction tr generalizing es with
  | nil => simp [appendsOf, effectsOf]
  | cons x tr ih =>
    rw [Monitor.run_cons, ih, appendsOf_cons x tr, ← List.append_assoc]
    rfl

theorem appendMonitor_legal (es : List CampaignEvent) (tr : List Step) :
    appendMonitor.Legal es tr := by
  induction tr generalizing es with
  | nil => trivial
  | cons x tr ih => exact ⟨trivial, ih _⟩

variable (site : Site)

/-- A sequence of appends to one state. -/
def appendAll : List EventArgs → Code CampaignState Unit
  | [] => pure ()
  | a :: rest => do
    appendCampaignEvent site a
    appendAll rest

/-- One append: the new event is the state's next one, and the state counts it. -/
theorem appendCampaignEvent_spec {s : CampaignState} {es : List CampaignEvent} (a : EventArgs) :
    Post appendMonitor (appendCampaignEvent site a) s (fun r s' es' =>
      r = .ok () → ∃ id now, s' = s.withEvent site.rt (nextEvent site.rt s id now a) ∧
        es' = es ++ [nextEvent site.rt s id now a]) es := by
  simp only [appendCampaignEvent, post_bind, post_get, post_call, post_attempt, post_modify]
  refine ⟨trivial, fun id _ => ⟨trivial, fun now _ => ?_⟩⟩
  cases resolveEventLog site s with
  | error e => simp
  | ok path =>
    refine ⟨trivial, fun _ _ _ => ⟨id, now, rfl, ?_⟩⟩
    show es ++ [] ++ [] ++ [nextEvent site.rt s id now a] = _
    simp

/-- **A sequence of appends** leaves the events it appended, chained. -/
theorem appendAll_spec {s : CampaignState} (hs : LogState site.rt s) (args : List EventArgs)
    {es : List CampaignEvent} (hes : s.events = es) :
    Post appendMonitor (appendAll site args) s (fun r s' es' =>
      r = .ok () → LogState site.rt s' ∧ s'.events = es') es := by
  induction args generalizing s es with
  | nil => exact fun _ => ⟨hs, hes⟩
  | cons a args ih =>
    refine post_seq _ (appendCampaignEvent_spec site a) ?_ ?_
    · intro _ s' es' h
      obtain ⟨id, now, rfl, rfl⟩ := h rfl
      exact ih (hs.withEvent id now a) (by simp [CampaignState.withEvent, hes])
    · rintro e s' es' - ⟨⟩

/-! ### Tamper evidence -/

/-- The canonical text that is hashed for an event. -/
def CampaignEvent.canonical (rt : Runtime) (e : CampaignEvent) : String :=
  e.payload.dumps rt .canonical

/-- The fields of an event, in the order of the class. -/
def CampaignEvent.fields (e : CampaignEvent) : List Json :=
  [e.sequence, e.eventId, e.iterationId, e.timestampUtc, e.eventType, e.objectiveId, e.moduleName,
    e.policyDecision, e.outcome, e.evidenceDirectory, e.details, e.previousEventHash, e.eventHash]

/-- **Two events agree field by field**, each field as a JSON value. -/
def SameEvent (p q : CampaignEvent) : Prop :=
  p.fields.map Json.sorted = q.fields.map Json.sorted

theorem payload_sorted (e : CampaignEvent) : e.payload.sorted =
    .obj [("details", e.details.sorted), ("event_id", e.eventId.sorted),
      ("event_type", e.eventType.sorted), ("evidence_directory", e.evidenceDirectory.sorted),
      ("iteration_id", e.iterationId.sorted), ("module_name", e.moduleName.sorted),
      ("objective_id", e.objectiveId.sorted), ("outcome", e.outcome.sorted),
      ("policy_decision", e.policyDecision.sorted),
      ("previous_event_hash", e.previousEventHash.sorted), ("sequence", e.sequence.sorted),
      ("timestamp_utc", e.timestampUtc.sorted)] := by
  simp [CampaignEvent.payload, Json.sorted, Json.sortedEntries, insertByKey]

/-- Equal payloads and equal hashes are equal events. -/
theorem sameEvent_of_payload {p q : CampaignEvent} (h : Json.Same p.payload q.payload)
    (hhash : p.eventHash = q.eventHash) : SameEvent p q := by
  rw [Json.Same, payload_sorted, payload_sorted] at h
  simp only [Json.obj.injEq, List.cons.injEq, Prod.mk.injEq, true_and, and_true] at h
  obtain ⟨h₁, h₂, h₃, h₄, h₅, h₆, h₇, h₈, h₉, h₁₀, h₁₁, h₁₂⟩ := h
  simp [SameEvent, CampaignEvent.fields, *]

/-- A chain stays one when the hashes its entries name are read in sorted form: they are texts. -/
theorem linked_sorted {start : Option String} {es : List CampaignEvent}
    (h : Linked (chainDigest rt) CampaignEvent.previousEventHash (optText start) es) :
    Linked (chainDigest rt) (fun e => e.previousEventHash.sorted) (optText start) es := by
  induction es generalizing start with
  | nil => trivial
  | cons e es ih =>
    refine ⟨?_, @ih (some _) h.2⟩
    show e.previousEventHash.sorted = optText start
    rw [show e.previousEventHash = optText start from h.1]
    cases start <;> rfl

/-- **Two chained logs with one tip hold the same events**, when SHA-256 does not collide on the
canonical texts of their events and the canonical text determines the JSON value. -/
theorem chained_unique {es fs : List CampaignEvent} (hes : Chained rt es) (hfs : Chained rt fs)
    (htip : tip (chainDigest rt) .null es = tip (chainDigest rt) .null fs)
    (hsha : ∀ p ∈ es, ∀ q ∈ fs, rt.sha256 (p.canonical rt) = rt.sha256 (q.canonical rt) →
      p.canonical rt = q.canonical rt)
    (hcanon : ∀ p ∈ es, ∀ q ∈ fs, p.canonical rt = q.canonical rt →
      Json.Same p.payload q.payload) :
    List.Forall₂ SameEvent es fs := by
  -- The entries are compared by sorted payload and hash; the former determines the hash they name.
  let prev : CampaignEvent → Json := fun e => e.previousEventHash.sorted
  let view : CampaignEvent → Json × Json := fun e => (e.payload.sorted, chainDigest rt e)
  have hview : ∀ p q : CampaignEvent, view p = view q → prev p = prev q := by
    intro p q h
    have hpayload := (Prod.mk.injEq _ _ _ _ ▸ h).1
    rw [payload_sorted, payload_sorted] at hpayload
    simp only [Json.obj.injEq, List.cons.injEq, Prod.mk.injEq, true_and, and_true] at hpayload
    exact hpayload.2.2.2.2.2.2.2.2.2.1
  have hcoll : ∀ p ∈ es, ∀ q ∈ fs, chainDigest rt p = chainDigest rt q → view p = view q := by
    intro p hp q hq h
    have hdigest : rt.sha256 (p.canonical rt) = rt.sha256 (q.canonical rt) := Json.str.inj h
    exact Prod.ext (hcanon p hp q hq (hsha p hp q hq hdigest)) h
  have hes' : Linked (chainDigest rt) prev .null es := @linked_sorted rt none es hes.linked
  have hfs' : Linked (chainDigest rt) prev .null fs := @linked_sorted rt none fs hfs.linked
  have hmap : es.map view = fs.map view :=
    linked_unique (fun p => by simp [chainDigest]) hview hcoll hes' hfs' htip
  have hlen : es.length = fs.length := by simpa using congrArg List.length hmap
  refine List.forall₂_iff_get.mpr ⟨hlen, fun i hi hi' => ?_⟩
  have hi_eq : view (es.get ⟨i, hi⟩) = view (fs.get ⟨i, hi'⟩) := by
    have := congrArg (·[i]?) hmap
    simpa [hi, hi'] using this
  refine sameEvent_of_payload (congrArg Prod.fst hi_eq) ?_
  rw [hes.selfHashed _ (List.get_mem es _), hfs.selfHashed _ (List.get_mem fs _)]
  exact congrArg Prod.snd hi_eq

/-- A state reached by appends counts the events that were appended. -/
theorem appendAll_sound {s₀ s : CampaignState} {args : List EventArgs} {tr : List Step}
    (hevents : s₀.events = []) (hhash : s₀.lastEventHash = none)
    (hreach : Reach (Proc.start (appendAll site args) s₀) tr (.pure (.ok (), s))) :
    LogState site.rt s ∧ s.events = appendsOf tr := by
  have hspec := appendAll_spec site (LogState.of_empty hevents hhash) args hevents
  obtain ⟨-, hend⟩ := wp_sound appendMonitor hspec hreach (appendMonitor_legal _ _)
  have hend := hend rfl
  rwa [appendMonitor_run, List.nil_append] at hend

/-- **Tamper evidence of the event log.** A state is reached from a fresh one by a sequence of
appends. Whatever its log file holds, if it verifies against the state then the events parsed from
it are the appended ones, event by event and field by field. SHA-256 does not collide on the
canonical texts of the events involved, and canonical JSON is injective on their payloads. -/
theorem eventLog_tamperEvident {s₀ s : CampaignState} {args : List EventArgs} {tr : List Step}
    {file : LogFile} (hevents : s₀.events = []) (hhash : s₀.lastEventHash = none)
    (hreach : Reach (Proc.start (appendAll site args) s₀) tr (.pure (.ok (), s)))
    (hverified : verifyStateLog site s file = .ok [])
    (hsha : ∀ p ∈ appendsOf tr, ∀ q ∈ (eventsOfFile file).getD [],
      site.rt.sha256 (p.canonical site.rt) = site.rt.sha256 (q.canonical site.rt) →
        p.canonical site.rt = q.canonical site.rt)
    (hcanon : ∀ p ∈ appendsOf tr, ∀ q ∈ (eventsOfFile file).getD [],
      p.canonical site.rt = q.canonical site.rt → Json.Same p.payload q.payload) :
    ∃ es, eventsOfFile file = some es ∧ List.Forall₂ SameEvent (appendsOf tr) es := by
  obtain ⟨hstate, happended⟩ := appendAll_sound site hevents hhash hreach
  obtain ⟨-, es, hes, -, hchained, htip, -⟩ := (verifyStateLog_eq_nil site).mp hverified
  rw [hes] at hsha hcanon
  refine ⟨es, hes, ?_⟩
  rw [← happended] at hsha hcanon ⊢
  exact chained_unique hstate.chained hchained (hstate.tip_eq.trans htip.symm) hsha hcanon

/-! ### A log of two events -/

/-- A campaign before its first event. -/
def sampleStart : CampaignState where
  campaignId := "campaign-1"
  campaignName := "Campaign"
  campaignDefinitionHash := ""
  scopeFileHash := ""
  rulesOfEngagementReference := "roe-1"
  authorizationReference := "auth-1"
  operatorAlias := "operator"
  startTime := sampleTime
  lastUpdatedTime := sampleTime
  currentStatus := .planned
  eventLogPath := some ".aotp/events/campaign-1.jsonl"

/-- The arguments of its two events. -/
def sampleArgs : List EventArgs :=
  [{ eventType := "campaign_started", outcome := "planned" },
    { eventType := "campaign_resumed", outcome := "running" }]

/-- The digests of the two events: the second one names the first one's. -/
def sampleDigests : List (Json × String) :=
  let first := draftEvent sampleStart sampleWorld.uuid sampleTime
    { eventType := "campaign_started", outcome := "planned" }
  let second := draftEvent { sampleStart with
      events := [first]
      lastEventHash := some "5c2c6886e2661c22515b2e1ff52f17809aa2a56d858aced505954ffe985ec733" }
    sampleWorld.uuid sampleTime { eventType := "campaign_resumed", outcome := "running" }
  [(first.payload, "5c2c6886e2661c22515b2e1ff52f17809aa2a56d858aced505954ffe985ec733"),
    (second.payload, "2eaa947bca8e6e6d52c0e2be0a6f4c8420460e142d0dc2d6117e6b812214e707")]

/-- The circumstances of the two events. -/
def sampleLogSite : Site := sampleSite sampleDigests (by decide +kernel)

/-- The two appends, in a world that stands still. -/
def sampleAppends : List Step × (Except Exc Unit × CampaignState) × World :=
  sampleWorld.exec sampleLogSite.rt
    (Proc.start (appendAll sampleLogSite sampleArgs) sampleStart) World.empty

/-- The log file with the two events. -/
def sampleFile : LogFile := .lines ((appendsOf sampleAppends.1).map CampaignEvent.line)

mutual

/-- How a value is written depends on the library through its floats only. -/
theorem dumpChars_congr {rt rt' : Runtime} (hfloat : rt.floatRepr = rt'.floatRepr)
    (style : DumpStyle) : ∀ x : Json, x.dumpChars rt style = x.dumpChars rt' style
  | .null | .bool true | .bool false | .int _ | .str _ => by
    unfold Json.dumpChars
    rfl
  | .float q => by
    unfold Json.dumpChars
    rw [hfloat]
  | .arr items => by
    unfold Json.dumpChars
    rw [dumpItems_congr hfloat style items]
  | .obj entries => by
    unfold Json.dumpChars
    rw [dumpEntries_congr hfloat style entries]

theorem dumpItems_congr {rt rt' : Runtime} (hfloat : rt.floatRepr = rt'.floatRepr)
    (style : DumpStyle) : ∀ items : List Json, dumpItems rt style items = dumpItems rt' style items
  | [] => rfl
  | x :: xs => by
    rw [dumpItems, dumpItems, dumpChars_congr hfloat style x, dumpItems_congr hfloat style xs]

theorem dumpEntries_congr {rt rt' : Runtime} (hfloat : rt.floatRepr = rt'.floatRepr)
    (style : DumpStyle) : ∀ entries : List (String × Json),
      dumpEntries rt style entries = dumpEntries rt' style entries
  | [] => rfl
  | (k, v) :: rest => by
    rw [dumpEntries, dumpEntries, dumpChars_congr hfloat style v,
      dumpEntries_congr hfloat style rest]

end

theorem dumps_sampleRuntime {digests : List (Json × String)}
    (h : (digests.all fun e => isSha256Text e.2) = true) (style : DumpStyle) (x : Json) :
    x.dumps (sampleRuntime digests h) style = x.dumps (tableRuntime sampleTime 0 [] rfl) style := by
  unfold Json.dumps
  rw [@dumpChars_congr (sampleRuntime digests h) (tableRuntime sampleTime 0 [] rfl) rfl style x]

/-- The digest of the first text of a table. -/
theorem digest_sampleRuntime_head {x : Json} {d : String} {rest : List (Json × String)}
    (h : (((x, d) :: rest).all fun e => isSha256Text e.2) = true) :
    digest (sampleRuntime ((x, d) :: rest) h) x = d := by
  unfold digest
  rw [dumps_sampleRuntime]
  simp [sampleRuntime, tableRuntime, tableSha256]

/-- The digest of another text is found in the rest. -/
theorem digest_sampleRuntime_tail {x y : Json} {d e : String} {rest : List (Json × String)}
    (h : (((x, d) :: (y, e) :: rest).all fun e => isSha256Text e.2) = true)
    (hne : (y.dumpChars (tableRuntime sampleTime 0 [] rfl) .canonical).length ≠
      (x.dumpChars (tableRuntime sampleTime 0 [] rfl) .canonical).length) :
    digest (sampleRuntime ((x, d) :: (y, e) :: rest) h) y = e := by
  have hother : y.dumps (tableRuntime sampleTime 0 [] rfl) .canonical ≠
      x.dumps (tableRuntime sampleTime 0 [] rfl) .canonical := by
    intro heq
    have hchars := congrArg String.toList heq
    rw [Json.dumps, Json.dumps, String.toList_ofList, String.toList_ofList] at hchars
    exact hne (congrArg List.length hchars)
  unfold digest
  rw [dumps_sampleRuntime]
  show (List.lookup (y.dumps (tableRuntime sampleTime 0 [] rfl) .canonical)
    ((x.dumps (tableRuntime sampleTime 0 [] rfl) .canonical, d) ::
      (y.dumps (tableRuntime sampleTime 0 [] rfl) .canonical, e) :: _)).getD _ = e
  rw [List.lookup_cons, beq_eq_false_iff_ne.mpr hother]
  simp only [List.lookup_cons_self, Option.getD_some]

theorem sampleDigests_hex : (sampleDigests.all fun e => isSha256Text e.2) = true := by
  decide +kernel

/-- The digests of the two events differ. -/
theorem sampleAppends_digests_nodup :
    ((appendsOf sampleAppends.1).map (eventHash sampleLogSite.rt)).Nodup := by
  let first := draftEvent sampleStart sampleWorld.uuid sampleTime
    { eventType := "campaign_started", outcome := "planned" }
  let second (hash : String) := draftEvent
    { sampleStart with
      events := [first]
      lastEventHash := some hash }
    sampleWorld.uuid sampleTime { eventType := "campaign_resumed", outcome := "running" }
  have hfirst : eventHash sampleLogSite.rt first =
      "5c2c6886e2661c22515b2e1ff52f17809aa2a56d858aced505954ffe985ec733" :=
    digest_sampleRuntime_head sampleDigests_hex
  have hsecond : eventHash sampleLogSite.rt
        (second "5c2c6886e2661c22515b2e1ff52f17809aa2a56d858aced505954ffe985ec733") =
      "2eaa947bca8e6e6d52c0e2be0a6f4c8420460e142d0dc2d6117e6b812214e707" := by
    refine digest_sampleRuntime_tail sampleDigests_hex ?_
    rw [CampaignEvent.payload, CampaignEvent.payload, length_dumpChars_obj, length_dumpChars_obj]
    decide +kernel
  have hmap : (appendsOf sampleAppends.1).map (eventHash sampleLogSite.rt) =
      [eventHash sampleLogSite.rt first,
        eventHash sampleLogSite.rt (second (eventHash sampleLogSite.rt first))] := rfl
  rw [hmap, hfirst, hsecond]
  decide +kernel

/-- The file with the two events verifies, and holds them. -/
theorem eventLog_tamperEvident_twoEvents : ∃ es, eventsOfFile sampleFile = some es ∧
    List.Forall₂ SameEvent (appendsOf sampleAppends.1) es := by
  have hfile : eventsOfFile sampleFile = some (appendsOf sampleAppends.1) :=
    eventsOfLines_map_line _
  have hsame : ∀ p ∈ appendsOf sampleAppends.1, ∀ q ∈ (eventsOfFile sampleFile).getD [],
      eventHash sampleLogSite.rt p = eventHash sampleLogSite.rt q → p = q := by
    rw [hfile]
    exact fun p hp q hq h => List.inj_on_of_nodup_map sampleAppends_digests_nodup hp hq h
  obtain ⟨s, hs, hpath, hne⟩ : ∃ s, sampleAppends.2.1 = (.ok (), s) ∧
      resolveEventLog sampleLogSite s = .ok ".aotp/events/campaign-1.jsonl" ∧ s.events ≠ [] :=
    ⟨_, rfl, by decide +kernel, List.cons_ne_nil _ _⟩
  have hreach : Reach (Proc.start (appendAll sampleLogSite sampleArgs) sampleStart)
      sampleAppends.1 (.pure sampleAppends.2.1) := exec_reach _ _ _
  rw [hs] at hreach
  obtain ⟨hstate, happended⟩ := appendAll_sound sampleLogSite rfl rfl hreach
  have hverified : verifyStateLog sampleLogSite s sampleFile = .ok [] := by
    rw [sampleFile, ← happended]
    exact hstate.verifies hne hpath
  refine eventLog_tamperEvident sampleLogSite rfl rfl hreach hverified ?_ ?_
  · intro p hp q hq h
    rw [hsame p hp q hq h]
  · intro p hp q hq h
    rw [hsame p hp q hq (congrArg sampleLogSite.rt.sha256 h)]
    rfl

end Aotp.Campaign
