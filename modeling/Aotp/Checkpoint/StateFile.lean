import Aotp.Campaign.State
import Aotp.Evidence.Records
import Aotp.Lib.SortedValues

/-!
# The state file of a campaign

* `StateRecord` — an instance of the state's class: any value in each of its fields.
* `validateState` — the check of a state, which reads its fields as they come.
* `saveState`, `loadState` — the file of a state, and the state of a file.
* `loadState_eq_ok` — **what is loaded** is the payload of an envelope with its digest, and valid.
-/

namespace Aotp.Checkpoint

open PyData
open Aotp.Campaign (timestampValid)
open Aotp.Evidence (pyLen isDigestValue require textOf distinct text none')

/-! ### Instances -/

/-- Source: `campaign_state.CampaignState` -/
def stateFields : List DataField :=
  [⟨"campaign_id", none⟩, ⟨"campaign_name", none⟩, ⟨"campaign_definition_hash", none⟩,
    ⟨"scope_file_hash", none⟩, ⟨"rules_of_engagement_reference", none⟩,
    ⟨"authorization_reference", none⟩, ⟨"operator_alias", none⟩, ⟨"start_time", none⟩,
    ⟨"last_updated_time", none⟩, ⟨"current_status", none⟩, ⟨"schema_version", text "1.0"⟩,
    ⟨"state_revision", some (.int 0)⟩, ⟨"next_iteration", some (.int 1)⟩,
    ⟨"elapsed_seconds", some (.float 0)⟩, ⟨"current_objective_id", none'⟩,
    ⟨"pending_review", none'⟩, ⟨"reviewed_objectives", some (.arr [])⟩,
    ⟨"completed_modules", some (.arr [])⟩, ⟨"pending_modules", some (.arr [])⟩,
    ⟨"skipped_modules", some (.arr [])⟩, ⟨"stopped_modules", some (.arr [])⟩,
    ⟨"finding_candidates", some (.arr [])⟩, ⟨"evidence_directories", some (.arr [])⟩,
    ⟨"request_counters", some (.obj [("total", .int 0)])⟩,
    ⟨"endpoint_request_counters", some (.obj [])⟩,
    ⟨"rate_limit_counters", some (.obj [("current_minute", .int 0)])⟩,
    ⟨"consecutive_failures", some (.int 0)⟩, ⟨"stop_condition_history", some (.arr [])⟩,
    ⟨"events", some (.arr [])⟩, ⟨"event_log_path", none'⟩, ⟨"last_event_hash", none'⟩,
    ⟨"operator_stop_requested", some (.bool false)⟩]

/-- The names of the fields, in order. -/
def fieldNames : List String := stateFields.map (·.name)

/-- An instance of the class: a value for each field. The class checks none of them.
Source: `campaign_state.CampaignState` -/
structure StateRecord where
  attributes : Dict
  complete : dkeys attributes = fieldNames

/-- The value of a field. -/
def StateRecord.get (s : StateRecord) (field : String) : Json := dget s.attributes field

/-- Instances keep the order of the fields. -/
theorem dkeys_of_construct {fields : List DataField} {given attributes : Dict}
    (h : construct fields given = .ok attributes) : dkeys attributes = fields.map (·.name) := by
  simp only [construct, bind_eq_ok, mapM_eq_ok] at h
  obtain ⟨-, -, hall⟩ := h
  induction hall with
  | nil => rfl
  | cons hfield _ ih =>
    obtain ⟨v, -, hpair⟩ := hfield
    cases hpair
    show _ :: dkeys _ = _ :: _
    rw [ih]

/-- `CampaignState(**payload)`. -/
def StateRecord.make (payload : Dict) : Except Exc StateRecord :=
  match h : construct stateFields payload with
  | .ok attributes => .ok ⟨attributes, dkeys_of_construct h⟩
  | .error e => .error e

theorem dkeys_dset_of_mem {m : Dict} {k : String} (h : k ∈ dkeys m) (v : Json) :
    dkeys (dset m k v) = dkeys m := by
  induction m with
  | nil => exact absurd h List.not_mem_nil
  | cons e m ih =>
    obtain ⟨k', w⟩ := e
    unfold dset
    by_cases hk : k = k'
    · rw [if_pos hk, hk]
      rfl
    · rw [if_neg hk]
      have hmem : k ∈ dkeys m := by
        rcases List.mem_cons.mp h with heq | hmem
        · exact absurd heq hk
        · exact hmem
      show k' :: dkeys (dset m k v) = k' :: dkeys m
      rw [ih hmem]

/-- `state.field = value`. -/
def StateRecord.set (s : StateRecord) (field : String) (value : Json) (h : field ∈ fieldNames) :
    StateRecord where
  attributes := dset s.attributes field value
  complete := by
    rw [dkeys_dset_of_mem (s.complete ▸ h), s.complete]

/-! ### Validation -/

variable (rt : Runtime)

/-- Source: `campaign_state.CAMPAIGN_STATUSES` -/
def campaignStatuses : List String :=
  ["planned", "running", "paused_for_human_review", "ready_to_resume", "completed",
    "stopped_by_policy", "stopped_by_operator", "stopped_by_budget", "stopped_by_condition",
    "failed"]

/-- Source: `campaign_state._timestamp_valid` -/
def timestampValidValue (value : Json) : Except Exc Bool := do
  let s ← textOf value
  pure (timestampValid rt s)

/-- `not (x < bound)`. -/
def atLeast (bound : ℤ) (x : Json) : Except Exc Bool :=
  match x.num? with
  | some q => pure (decide ((bound : ℚ) ≤ q))
  | none => throw .typeError

/-- `a and b`, where `b` is evaluated only if `a` holds. -/
def andThen (a b : Except Exc Bool) : Except Exc Bool := do
  if ← a then b else pure false

/-- `len(values) == len(set(values))`. -/
def unrepeated (values : Json) : Except Exc Bool := do
  let length ← pyLen values
  let elements ← toSet values
  pure (length == distinct elements)

/-- The four dispositions of a state, by name.
Source: `campaign_state.validate_state`, `dispositions` -/
def dispositionNames : List (String × String) :=
  [("completed", "completed_modules"), ("pending", "pending_modules"),
    ("skipped", "skipped_modules"), ("stopped", "stopped_modules")]

/-- The check that each disposition has no repetitions. -/
def checkDuplicates (m : Dict) : List (String × String) → Except Exc Unit
  | [] => pure ()
  | (name, field) :: rest => do
    require (unrepeated (dget m field)) (name ++ " objective list contains duplicates")
    checkDuplicates m rest

/-- `set(left) & set(right)`. -/
def overlapOf (left right : Json) : Except Exc (List Json) := do
  let first ← toSet left
  let second ← toSet right
  pure (first.filter fun x => second.any x.pyEq)

/-- `raise ValueError(f"… {', '.join(sorted(overlap))}")`: only texts can be joined. -/
def overlapError (left right : String) (overlap : List Json) : Exc :=
  match overlap.mapM Json.text? with
  | some texts => .valueError ("objective disposition overlap between " ++ left ++ " and " ++ right ++
      ": " ++ joined (sortedTexts texts))
  | none => .typeError

/-- The check of one disposition against those after it. -/
def checkOverlapWith (m : Dict) (left : String × String) : List (String × String) → Except Exc Unit
  | [] => pure ()
  | right :: rest => do
    let overlap ← overlapOf (dget m left.2) (dget m right.2)
    guardE overlap.isEmpty (overlapError left.1 right.1 overlap)
    checkOverlapWith m left rest

/-- The check of every pair of dispositions. -/
def checkOverlaps (m : Dict) : List (String × String) → Except Exc Unit
  | [] => pure ()
  | left :: rest => do
    checkOverlapWith m left rest
    checkOverlaps m rest

/-- `isinstance(value, int) and not isinstance(value, bool) and value >= 0`. -/
def isCount : Json → Bool
  | .int n => decide (0 ≤ n)
  | _ => false

/-- A mapping of counts. -/
def isCounter : Json → Bool
  | .obj m => m.all fun e => isCount e.2
  | _ => false

/-- The check of one family of counters. -/
def checkCounters (m : Dict) (name : String) : Except Exc Unit :=
  guardE (isCounter (dget m name)) (.valueError (name ++ " values must be non-negative integers"))

/-- The checks of single fields.
Source: `campaign_state.validate_state`, up to the dispositions -/
def checkFields (m : Dict) : Except Exc Unit := do
  guardE ((dget m "schema_version").pyEq (.str "1.0"))
    (.valueError ("unsupported campaign state schema: " ++ pyStr rt (dget m "schema_version")))
  guardE ((dget m "campaign_id").truthy && (dget m "campaign_name").truthy)
    (.valueError "campaign state identity is missing")
  require (isDigestValue (dget m "campaign_definition_hash"))
    "campaign_definition_hash must be a lowercase SHA256 digest"
  require (isDigestValue (dget m "scope_file_hash"))
    "scope_file_hash must be a lowercase SHA256 digest"
  require (inTexts (dget m "current_status") campaignStatuses)
    ("unsupported campaign status: " ++ pyStr rt (dget m "current_status"))
  require (andThen (timestampValidValue rt (dget m "start_time"))
      (timestampValidValue rt (dget m "last_updated_time")))
    "campaign state timestamps must be timezone-aware ISO-8601 values"
  require (andThen (atLeast 0 (dget m "state_revision"))
      (andThen (atLeast 1 (dget m "next_iteration")) (atLeast 0 (dget m "elapsed_seconds"))))
    "campaign state revision, iteration, and elapsed time cannot be negative"
  require (atLeast 0 (dget m "consecutive_failures")) "consecutive failures cannot be negative"

/-- `x is None or …`, for a digest. -/
def isDigestOrNone : Json → Except Exc Bool
  | .null => pure true
  | hash => isDigestValue hash

/-- A review is pending exactly while the campaign is paused for it.
Source: `campaign_state.validate_state`, the paused status -/
def checkPendingReview (m : Dict) : Except Exc Unit :=
  if (dget m "current_status").pyEq (.str "paused_for_human_review") then
    guardE ((dget m "current_objective_id").truthy && (dget m "pending_review").truthy)
      (.valueError "paused campaign state requires a current objective and pending review")
  else
    guardE (dget m "pending_review" matches .null)
      (.valueError "pending review is only valid while paused for human review")

/-- What the status asks of the other fields.
Source: `campaign_state.validate_state`, from the completed status on -/
def checkStatus (m : Dict) : Except Exc Unit := do
  guardE (!(dget m "current_status").pyEq (.str "completed") || !((dget m "pending_modules").truthy ||
      (dget m "stopped_modules").truthy || (dget m "current_objective_id").truthy ||
      (dget m "pending_review").truthy))
    (.valueError "completed campaign state cannot retain pending, stopped, or current objectives")
  require (isDigestOrNone (dget m "last_event_hash"))
    "last_event_hash must be a lowercase SHA256 digest"
  checkPendingReview m
  require (unrepeated (dget m "reviewed_objectives")) "reviewed objective list contains duplicates"

/-- The checks of the attributes of a state. -/
def checkAttributes (m : Dict) : Except Exc Unit := do
  checkFields rt m
  checkDuplicates m dispositionNames
  checkOverlaps m dispositionNames
  checkCounters m "request_counters"
  checkCounters m "endpoint_request_counters"
  checkCounters m "rate_limit_counters"
  checkStatus m

/-- Source: `campaign_state.validate_state` -/
def validateState (s : StateRecord) : Except Exc Unit := checkAttributes rt s.attributes

/-! ### The file -/

/-- `x + 1`. -/
def succNumber : Json → Except Exc Json
  | .bool b => pure (.int (if b then 2 else 1))
  | .int n => pure (.int (n + 1))
  | .float q => pure (.float (q + 1))
  | _ => throw .typeError

/-- `state.state_revision += 1`. -/
def StateRecord.bump (s : StateRecord) : Except Exc StateRecord := do
  let revision ← succNumber (s.get "state_revision")
  pure (s.set "state_revision" revision (by decide))

/-- `asdict(state)`. -/
def StateRecord.payload (s : StateRecord) : Json := .obj s.attributes

/-- What is written of a state.
Source: `campaign_state.save_state`, `envelope` -/
def envelopeOf (s : StateRecord) : Json :=
  .obj [("schema_version", .str "1.0"), ("state", s.payload), ("sha256", .str (digest rt s.payload))]

/-- The text of a state file. -/
def fileText (s : StateRecord) : String := (envelopeOf rt s).dumpsIndented rt ++ "\n"

/-- The state after it is saved, and the text of its file, where no file operation fails.
Source: `campaign_state.save_state` -/
def saveState (s : StateRecord) : Except Exc (StateRecord × String) := do
  validateState rt s
  let bumped ← s.bump
  pure (bumped, fileText rt bumped)

/-- `except (OSError, json.JSONDecodeError) as exc: raise ValueError(…)`; the path is left out of the
message. -/
def readEnvelope (loads : String → Except Exc Json) (file : Except Exc String) : Except Exc Json :=
  match file with
  | .error .osError => .error (.valueError "campaign state could not be read")
  | .error e => .error e
  | .ok content =>
    match loads content with
    | .error (.custom "JSONDecodeError" _) => .error (.valueError "campaign state could not be read")
    | x => x

/-- `except TypeError as exc: raise ValueError("campaign state fields are invalid")`. -/
def constructState (payload : Dict) : Except Exc StateRecord :=
  match StateRecord.make payload with
  | .error .typeError => .error (.valueError "campaign state fields are invalid")
  | x => x

/-- The entries of a mapping; the integrity check fails on anything else. -/
def payloadOf (envelope : Dict) : Except Exc Dict :=
  match dget envelope "state" with
  | .obj payload => do
    guardE ((dget envelope "sha256").pyEq (.str (digest rt (.obj payload))))
      (.valueError "campaign state integrity check failed")
    pure payload
  | _ => .error (.valueError "campaign state integrity check failed")

/-- The entries of an envelope of the known schema. -/
def envelopeEntries (envelope : Json) : Except Exc Dict :=
  match envelope with
  | .obj m => do
    guardE ((dget m "schema_version").pyEq (.str "1.0"))
      (.valueError "campaign state envelope is missing or unsupported")
    pure m
  | _ => .error (.valueError "campaign state envelope is missing or unsupported")

/-- The state of a file; `loads` is `json.loads`.
Source: `campaign_state.load_state` -/
def loadState (loads : String → Except Exc Json) (file : Except Exc String) :
    Except Exc StateRecord := do
  let envelope ← readEnvelope loads file
  let entries ← envelopeEntries envelope
  let payload ← payloadOf rt entries
  let state ← constructState payload
  validateState rt state
  pure state

end Aotp.Checkpoint
