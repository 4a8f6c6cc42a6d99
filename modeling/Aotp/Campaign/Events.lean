import Aotp.Campaign.World
import Aotp.Lib.HashChain

/-!
# The hash-chained event log

* `appendCampaignEvent` — the next event, chained to the last one, appended to file and state.
* `verifyEventLog`, `verifyStateLog` — the failures of a log file, on its own and against a state;
  `verifyStateEventLog` is the code that reads the file twice.
* `Chained` — a list of events is numbered from 1 and hash-chained; `verifyEventLog_eq_nil` and
  `verifyStateLog_eq_nil` say that **verification without failures means a chained log**.
-/

namespace Aotp.Campaign

open PyData Aotp.Gate Effects HashChain

variable (site : Site)

/-! ### Appending -/

/-- Source: `campaign_events._event_hash` -/
def eventHash (rt : Runtime) (e : CampaignEvent) : String := digest rt e.payload

/-- The event log of a state, inside the workspace.
Source: `campaign_events.resolve_event_log` -/
def resolveEventLog (s : CampaignState) : Except Exc String :=
  match s.eventLogPath with
  | none => .error (.valueError "campaign state has no event log path")
  | some path =>
    if path = "" then .error (.valueError "campaign state has no event log path")
    else if isAbsolute path then .error (.valueError "campaign event log path must be relative")
    else if site.logEscapes path then
      .error (.valueError "campaign event log path escapes workspace")
    else .ok path

/-- The arguments of an event.
Source: `campaign_events.append_campaign_event` -/
structure EventArgs where
  eventType : String
  outcome : String
  objectiveId : Option String := none
  moduleName : Option String := none
  policyDecision : Option String := none
  evidenceDirectory : Option String := none
  iterationId : String := "0000"
  details : Dict := []

/-- An optional text as a JSON value. -/
def optText : Option String → Json
  | none => .null
  | some s => .str s

/-- The event before its own hash is known. -/
def draftEvent (s : CampaignState) (id now : String) (a : EventArgs) : CampaignEvent where
  sequence := .int (s.events.length + 1)
  eventId := .str id
  iterationId := .str a.iterationId
  timestampUtc := .str now
  eventType := .str a.eventType
  objectiveId := optText a.objectiveId
  moduleName := optText a.moduleName
  policyDecision := optText a.policyDecision
  outcome := .str a.outcome
  evidenceDirectory := optText a.evidenceDirectory
  details := .obj a.details
  previousEventHash := optText s.lastEventHash
  eventHash := .null

/-- The event that is appended to a state: numbered, chained, and carrying its own hash. -/
def nextEvent (rt : Runtime) (s : CampaignState) (id now : String) (a : EventArgs) : CampaignEvent :=
  { draftEvent s id now a with eventHash := .str (eventHash rt (draftEvent s id now a)) }

/-- The state once an event is appended. -/
def CampaignState.withEvent (rt : Runtime) (s : CampaignState) (e : CampaignEvent) : CampaignState :=
  { s with events := s.events ++ [e], lastEventHash := some (eventHash rt e) }

/-- Source: `campaign_events.append_campaign_event` -/
def appendCampaignEvent (a : EventArgs) : Code CampaignState Unit := do
  let s ← get
  let id ← call .uuid4
  let now ← call .utcNow
  let event := nextEvent site.rt s id now a
  let _ ← attempt (resolveEventLog site s)
  call (Op.appendLog event)
  modify fun s => s.withEvent site.rt event

/-! ### Verifying -/

/-- Source: `campaign_state.CampaignEvent`, the fields without a default -/
def eventRequiredFields : List String :=
  ["sequence", "event_id", "iteration_id", "timestamp_utc", "event_type", "objective_id",
    "module_name", "policy_decision", "outcome", "evidence_directory"]

/-- Source: `campaign_state.CampaignEvent`, all fields -/
def eventFields : List String :=
  eventRequiredFields ++ ["details", "previous_event_hash", "event_hash"]

/-- `CampaignEvent(**json.loads(line))`; `none` where it raises.
Source: `campaign_events.verify_event_log` -/
def eventOfLine : LogLine → Option CampaignEvent
  | some (.obj m) =>
    if (dkeys m).all (· ∈ eventFields) && eventRequiredFields.all (dhas m) then
      some
        { sequence := dget m "sequence", eventId := dget m "event_id"
          iterationId := dget m "iteration_id", timestampUtc := dget m "timestamp_utc"
          eventType := dget m "event_type", objectiveId := dget m "objective_id"
          moduleName := dget m "module_name", policyDecision := dget m "policy_decision"
          outcome := dget m "outcome", evidenceDirectory := dget m "evidence_directory"
          details := dgetD m "details" (.obj [])
          previousEventHash := dget m "previous_event_hash", eventHash := dget m "event_hash" }
    else none
  | _ => none

/-- `f"line {n} {text}"`. -/
def lineFailure (n : ℕ) (text : String) : String := "line " ++ Nat.repr n ++ " " ++ text

/-- The failures from one line on, given the hash and the sequence it must carry.
Source: `campaign_events.verify_event_log`, the loop -/
def verifyLines (rt : Runtime) : ℕ → Json → ℤ → List LogLine → List String
  | _, _, _, [] => []
  | n, previousHash, expected, line :: rest =>
    match eventOfLine line with
    | none => lineFailure n "is invalid" :: verifyLines rt (n + 1) previousHash expected rest
    | some event =>
      reasonWhen (!Json.pyEq event.sequence (.int expected))
          (lineFailure n "sequence is not contiguous") ++
        reasonWhen (!Json.pyEq event.previousEventHash previousHash)
          (lineFailure n "previous hash does not match") ++
        reasonWhen (!Json.pyEq event.eventHash (.str (eventHash rt event)))
          (lineFailure n "event hash does not match") ++
        verifyLines rt (n + 1) event.eventHash (expected + 1) rest

/-- Source: `campaign_events.verify_event_log` -/
def verifyEventLog (rt : Runtime) : LogFile → Except Exc (List String)
  | .missing => .ok ["campaign event log does not exist"]
  | .unreadable => .ok ["campaign event log could not be read"]
  | .notText => .error (.valueError "invalid utf-8")
  | .lines [] => .ok ["campaign event log is empty"]
  | .lines lines => .ok (verifyLines rt 1 .null 1 lines)

/-- The comparison of a state with the last line and the number of lines.
Source: `campaign_events.verify_state_event_log` -/
def compareTail (s : CampaignState) : LogFile → Except Exc (List String)
  | .lines lines =>
    match lines.getLast? with
    | none => .error (.custom "IndexError" "list index out of range")
    | some none => .error (.custom "JSONDecodeError" "invalid line")
    | some (some final) => do
      let m ← final.attrs
      pure (reasonWhen (!Json.pyEq (dget m "event_hash") (optText s.lastEventHash))
          "campaign state last event hash does not match event log" ++
        reasonWhen (decide (lines.length ≠ s.events.length))
          "campaign state event count does not match event log")
  | .notText => .error (.valueError "invalid utf-8")
  | _ => .error .osError

/-- The failures of a state against one content of its log file. -/
def verifyStateLog (s : CampaignState) (file : LogFile) : Except Exc (List String) := do
  let _ ← resolveEventLog site s
  let failures ← verifyEventLog site.rt file
  if failures.isEmpty then compareTail s file else pure failures

/-- Source: `campaign_events.verify_state_event_log` -/
def verifyStateEventLog {S : Type} (s : CampaignState) : Code S (List String) := do
  let _ ← attempt (resolveEventLog site s)
  let file ← call .readLog
  let failures ← attempt (verifyEventLog site.rt file)
  if failures.isEmpty then
    let again ← call .readLog
    attempt (compareTail s again)
  else pure failures

/-! ### Chained events -/

/-- The hash an event names, as the chain compares it. -/
def chainDigest (rt : Runtime) (e : CampaignEvent) : Json := .str (eventHash rt e)

/-- Numbered from `n` on. -/
def Numbered : ℤ → List CampaignEvent → Prop
  | _, [] => True
  | n, e :: es => Json.pyEq e.sequence (.int n) = true ∧ Numbered (n + 1) es

/-- Every event carries its own hash. -/
def SelfHashed (rt : Runtime) (es : List CampaignEvent) : Prop :=
  ∀ e ∈ es, e.eventHash = .str (eventHash rt e)

/-- **A chained list of events**: numbered from 1, each carrying its own hash and naming that of
the event before it. -/
structure Chained (rt : Runtime) (es : List CampaignEvent) : Prop where
  numbered : Numbered 1 es
  selfHashed : SelfHashed rt es
  linked : Linked (chainDigest rt) CampaignEvent.previousEventHash .null es

theorem pyEq_optText {x : Json} {h : Option String} :
    Json.pyEq x (optText h) = true ↔ x = optText h := by
  cases h with
  | some s => simp [optText]
  | none => cases x <;> simp [optText, Json.pyEq, Json.num?]

/-- The events of a log, one for each line; `none` when a line is not an event. -/
def eventsOfLines : List LogLine → Option (List CampaignEvent)
  | [] => some []
  | line :: rest => do
    let e ← eventOfLine line
    let es ← eventsOfLines rest
    some (e :: es)

/-- The sequence of events parsed from a log file. -/
def eventsOfFile : LogFile → Option (List CampaignEvent)
  | .lines lines => eventsOfLines lines
  | _ => none

theorem eventsOfLines_cons {line : LogLine} {lines : List LogLine} {es : List CampaignEvent} :
    eventsOfLines (line :: lines) = some es ↔
      ∃ e es', eventOfLine line = some e ∧ eventsOfLines lines = some es' ∧ es = e :: es' := by
  simp only [eventsOfLines, Option.bind_eq_bind, Option.bind_eq_some_iff, Option.some.injEq]
  constructor
  · rintro ⟨e, he, es', hes, rfl⟩
    exact ⟨e, es', he, hes, rfl⟩
  · rintro ⟨e, es', he, hes, rfl⟩
    exact ⟨e, he, es', hes, rfl⟩

/-- Reading a line back gives the event that was written. -/
@[simp] theorem eventOfLine_line (e : CampaignEvent) : eventOfLine e.line = some e := rfl

@[simp] theorem eventsOfLines_map_line (es : List CampaignEvent) :
    eventsOfLines (es.map CampaignEvent.line) = some es := by
  induction es with
  | nil => rfl
  | cons e es ih => exact eventsOfLines_cons.mpr ⟨e, es, eventOfLine_line e, ih, rfl⟩

theorem eventsOfLines_length {lines : List LogLine} {es : List CampaignEvent}
    (h : eventsOfLines lines = some es) : lines.length = es.length := by
  induction lines generalizing es with
  | nil =>
    cases h
    rfl
  | cons line lines ih =>
    obtain ⟨e, es', -, hes, rfl⟩ := eventsOfLines_cons.mp h
    simp [ih hes]

/-- **The lines that verify** are events with the expected numbers, links and hashes. The hash that
one line hands to the next is the text of a digest, so the loose comparisons of the source decide
equality. -/
theorem verifyLines_eq_nil {rt : Runtime} {n : ℕ} {previous : Option String} {expected : ℤ}
    {lines : List LogLine} :
    verifyLines rt n (optText previous) expected lines = [] ↔
      ∃ es, eventsOfLines lines = some es ∧ Numbered expected es ∧ SelfHashed rt es ∧
        Linked (chainDigest rt) CampaignEvent.previousEventHash (optText previous) es := by
  induction lines generalizing n previous expected with
  | nil =>
    refine ⟨fun _ => ⟨[], rfl, trivial, by simp [SelfHashed], trivial⟩, fun _ => rfl⟩
  | cons line lines ih =>
    unfold verifyLines
    split
    · rename_i hnone
      simp only [reduceCtorEq, false_iff, not_exists, not_and]
      intro es hes
      obtain ⟨e, -, he, -⟩ := eventsOfLines_cons.mp hes
      rw [hnone] at he
      cases he
    · rename_i event hevent
      have ih' {n : ℕ} {h : String} {expected : ℤ} := @ih n (some h) expected
      simp only [List.append_eq_nil_iff, reasonWhen, ite_eq_right_iff, imp_false,
        Bool.not_eq_true, Bool.not_eq_false', List.cons_ne_nil, Json.pyEq_str_right, pyEq_optText]
      constructor
      · rintro ⟨⟨⟨hseq, hprev⟩, hhash⟩, hrest⟩
        rw [hhash] at hrest
        obtain ⟨es, hes, hnum, hself, hlink⟩ := ih'.mp hrest
        refine ⟨event :: es, eventsOfLines_cons.mpr ⟨event, es, hevent, hes, rfl⟩, ⟨hseq, hnum⟩, ?_,
          hprev, hlink⟩
        intro e he
        rcases List.mem_cons.mp he with rfl | he
        · exact hhash
        · exact hself e he
      · rintro ⟨es, hes, hnum, hself, hlink⟩
        obtain ⟨e, es', he, hes', rfl⟩ := eventsOfLines_cons.mp hes
        rw [hevent] at he
        cases he
        have hhash := hself event List.mem_cons_self
        refine ⟨⟨⟨hnum.1, hlink.1⟩, hhash⟩, ?_⟩
        rw [hhash]
        exact ih'.mpr
          ⟨es', hes', hnum.2, fun e he => hself e (List.mem_cons_of_mem _ he), hlink.2⟩

/-- **A log file that verifies** is a non-empty chained list of events. -/
theorem verifyEventLog_eq_nil {rt : Runtime} {file : LogFile} :
    verifyEventLog rt file = .ok [] ↔
      ∃ es, eventsOfFile file = some es ∧ es ≠ [] ∧ Chained rt es := by
  cases file with
  | lines l =>
    cases l with
    | nil => simp [verifyEventLog, eventsOfFile, eventsOfLines]
    | cons line lines =>
      simp only [verifyEventLog, Except.ok.injEq, eventsOfFile]
      rw [show (Json.null) = optText none from rfl, verifyLines_eq_nil]
      constructor
      · rintro ⟨es, hes, hnum, hself, hlink⟩
        refine ⟨es, hes, ?_, hnum, hself, hlink⟩
        obtain ⟨e, es', -, -, rfl⟩ := eventsOfLines_cons.mp hes
        simp
      · rintro ⟨es, hes, -, h⟩
        exact ⟨es, hes, h.numbered, h.selfHashed, h.linked⟩
  | _ => simp [verifyEventLog, eventsOfFile]

/-- The hash field of the last line is the tip of the chain. -/
theorem getLast?_eventOfLine {lines : List LogLine} {es : List CampaignEvent}
    (h : eventsOfLines lines = some es) (hne : es ≠ []) :
    ∃ m, lines.getLast? = some (some (.obj m)) ∧
      ∃ e, es.getLast? = some e ∧ dget m "event_hash" = e.eventHash := by
  induction lines generalizing es with
  | nil =>
    cases h
    exact absurd rfl hne
  | cons line lines ih =>
    obtain ⟨e, es', he, hes, rfl⟩ := eventsOfLines_cons.mp h
    cases es' with
    | nil =>
      have hnil : lines = [] := by
        have := eventsOfLines_length hes
        simpa using this
      subst hnil
      unfold eventOfLine at he
      split at he
      · rename_i m
        split_ifs at he
        cases he
        exact ⟨m, rfl, _, rfl, rfl⟩
      · cases he
    | cons e' es' =>
      obtain ⟨m, hm, e'', he'', hhash⟩ := ih hes (by simp)
      have hcons : lines ≠ [] := by
        rintro rfl
        cases hes
      obtain ⟨line', lines', rfl⟩ := List.exists_cons_of_ne_nil hcons
      exact ⟨m, by simpa using hm, e'', by simpa using he'', hhash⟩

theorem tip_eq_getLast {rt : Runtime} {start : Json} {es : List CampaignEvent} {e : CampaignEvent}
    (h : es.getLast? = some e) : tip (chainDigest rt) start es = chainDigest rt e := by
  obtain ⟨es', rfl⟩ := List.getLast?_eq_some_iff.mp h
  exact tip_concat start es' e

/-- **Verification without failures**: the file is a non-empty chained list of events, as many as
the state counts, ending in the hash the state holds. -/
theorem verifyStateLog_eq_nil {s : CampaignState} {file : LogFile} :
    verifyStateLog site s file = .ok [] ↔
      (∃ path, resolveEventLog site s = .ok path) ∧
      ∃ es, eventsOfFile file = some es ∧ es ≠ [] ∧ Chained site.rt es ∧
        tip (chainDigest site.rt) .null es = optText s.lastEventHash ∧
        es.length = s.events.length := by
  simp only [verifyStateLog, bind_eq_ok]
  constructor
  · rintro ⟨path, hpath, failures, hfailures, h⟩
    cases failures with
    | cons f fs => cases h
    | nil =>
      refine ⟨⟨path, hpath⟩, ?_⟩
      obtain ⟨es, hes, hne, hchained⟩ := verifyEventLog_eq_nil.mp hfailures
      refine ⟨es, hes, hne, hchained, ?_⟩
      cases file with
      | lines lines =>
        obtain ⟨m, hm, e, he, hhash⟩ := getLast?_eventOfLine hes hne
        have hlen := eventsOfLines_length hes
        simp only [List.isEmpty_nil, if_true, compareTail, hm, Json.attrs] at h
        obtain ⟨m', hm', h⟩ := bind_eq_ok.mp h
        cases hm'
        simp only [pure, Except.pure, Except.ok.injEq, List.append_eq_nil_iff, reasonWhen,
          ite_eq_right_iff, imp_false, Bool.not_eq_true, Bool.not_eq_false', List.cons_ne_nil,
          pyEq_optText, decide_eq_false_iff_not, not_not] at h
        rw [tip_eq_getLast he, ← h.1, hhash]
        refine ⟨?_, by omega⟩
        exact (hchained.selfHashed e (List.mem_of_getLast? he)).symm
      | _ => cases hes
  · rintro ⟨⟨path, hpath⟩, es, hes, hne, hchained, htip, hlength⟩
    refine ⟨path, hpath, [], verifyEventLog_eq_nil.mpr ⟨es, hes, hne, hchained⟩, ?_⟩
    cases file with
    | lines lines =>
      obtain ⟨m, hm, e, he, hhash⟩ := getLast?_eventOfLine hes hne
      have hlen := eventsOfLines_length hes
      have hself := hchained.selfHashed e (List.mem_of_getLast? he)
      rw [tip_eq_getLast he] at htip
      have hlast : dget m "event_hash" = optText s.lastEventHash := by
        rw [hhash, hself]
        exact htip
      have hcount : lines.length = s.events.length := by omega
      simp only [List.isEmpty_nil, if_true, compareTail, hm, Json.attrs]
      refine bind_eq_ok.mpr ⟨m, rfl, ?_⟩
      simp [reasonWhen, pyEq_optText.mpr hlast, hcount, pure, Except.pure]
    | _ => cases hes

end Aotp.Campaign
