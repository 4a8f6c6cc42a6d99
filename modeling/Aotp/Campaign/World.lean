import Aotp.Campaign.State
import Aotp.Gate.Executor
import Aotp.Lib.Effects

/-!
# The world of a campaign

* `Op`, `Res` — what campaign code asks of the world, and the answers: the clock, the file system
  around the campaign, the two durable files, and the evidence directory.
* `Site` — the fixed circumstances of a campaign: the library, the workspace, and where its event
  log resolves to.
* `World`, `world` — the two durable files, and the monitor that says which answers they give and
  what each operation does to them. The append and the replacement of the checkpoint are the only
  durable effects.
-/

namespace Aotp.Campaign

open PyData Aotp.Gate Effects

/-- The circumstances that do not change during a campaign. -/
structure Site where
  rt : Runtime
  /-- `str(uuid.uuid5(uuid.NAMESPACE_URL, key))` -/
  uuid5 : String → String
  /-- The resolved workspace. -/
  root : PurePath
  /-- Whether the resolved event log path lies outside the workspace. -/
  logEscapes : String → Bool

/-- One line of the event log, as `json.loads` reads it; `none` where it does not. -/
abbrev LogLine := Option Json

/-- What is found at the path of the event log. -/
inductive LogFile where
  | missing
  /-- `OSError` on reading. -/
  | unreadable
  /-- Bytes that are not UTF-8. -/
  | notText
  | lines (lines : List LogLine)

/-- What the policy gate sees of the world. -/
structure Snapshot where
  now : ℤ
  insideWorkspace : String → Bool

/-- What campaign code asks of the world. -/
inductive Op where
  /-- `datetime.now(UTC).isoformat()` -/
  | utcNow
  /-- `str(uuid.uuid4())` -/
  | uuid4
  /-- `time.monotonic()` -/
  | clock
  /-- The contents of the scope file. -/
  | readScope
  | checkpointExists
  | logExists
  | readLog
  /-- The SHA-256 of the checkpoint's bytes. -/
  | checkpointSha256
  /-- `load_state(state_path)`; `none` where it raises. -/
  | loadCheckpoint
  /-- `datetime.now(UTC)`, and the resolved evidence directory. -/
  | observe
  /-- The first candidate path of an artifact that is a file. -/
  | resolveArtifact (artifact : String)
  /-- The files that artifacts resolve to. -/
  | artifactFiles
  /-- The manifest of an iteration, with the record of its category; writing validates both. -/
  | writeEvidence (directory : String) (manifest : Dict) (record : Option Dict)
  /-- The append of one line to the event log, flushed and synced. -/
  | appendLog (event : CampaignEvent)
  /-- The validation of a state and the atomic replacement of the checkpoint by it. -/
  | saveCheckpoint (state : CampaignState)

/-- The answers of the world. -/
abbrev Res : Op → Type
  | .utcNow => String
  | .uuid4 => String
  | .clock => ℚ
  | .readScope => Except Exc String
  | .checkpointExists => Bool
  | .logExists => Bool
  | .readLog => LogFile
  | .checkpointSha256 => Except Exc String
  | .loadCheckpoint => Option CampaignState
  | .observe => Snapshot
  | .resolveArtifact _ => String
  | .artifactFiles => String → SbomFile
  | .writeEvidence _ _ _ => Except Exc Unit
  | .appendLog _ => Unit
  | .saveCheckpoint _ => Except Exc Unit

/-- Campaign code over a mutable value of type `S`. -/
abbrev Code (S : Type) := Proc Op Res Exc S

/-- A performed operation. -/
abbrev Step := Effects.Step Op Res

/-! ### Durable effects -/

/-- The state as the checkpoint holds it: saving advances the revision.
Source: `campaign_state.save_state` -/
def CampaignState.saved (s : CampaignState) : CampaignState :=
  { s with stateRevision := s.stateRevision + 1 }

/-- The durable effect of a step: an appended event, or a replaced checkpoint. -/
inductive Effect where
  | append (event : CampaignEvent)
  | save (state : CampaignState)

/-- The durable effect of a step, if it has one; a rejected save has none. -/
def effectOf : Step → Option Effect
  | ⟨.appendLog e, _⟩ => some (.append e)
  | ⟨.saveCheckpoint s, .ok _⟩ => some (.save s.saved)
  | _ => none

/-- The durable effects of a trace, in order. -/
def effectsOf (tr : List Step) : List Effect := tr.filterMap effectOf

/-- The events a trace appends. -/
def appendsOf (tr : List Step) : List CampaignEvent :=
  (effectsOf tr).filterMap fun
    | .append e => some e
    | .save _ => none

/-- The checkpoints a trace persists. -/
def savesOf (tr : List Step) : List CampaignState :=
  (effectsOf tr).filterMap fun
    | .save s => some s
    | .append _ => none

theorem mem_savesOf_iff {tr : List Step} {s : CampaignState} :
    s ∈ savesOf tr ↔ ∃ t u, (⟨.saveCheckpoint t, .ok u⟩ : Step) ∈ tr ∧ s = t.saved := by
  simp only [savesOf, effectsOf, List.mem_filterMap]
  constructor
  · rintro ⟨e, ⟨⟨o, r⟩, hstep, heffect⟩, hsave⟩
    cases o with
    | saveCheckpoint t =>
      cases r with
      | error e => cases heffect
      | ok u =>
        cases heffect
        cases hsave
        exact ⟨t, u, hstep, rfl⟩
    | appendLog e =>
      cases heffect
      cases hsave
    | _ => cases heffect
  · rintro ⟨t, u, hstep, rfl⟩
    exact ⟨.save t.saved, ⟨_, hstep, rfl⟩, rfl⟩

theorem mem_appendsOf_iff {tr : List Step} {e : CampaignEvent} :
    e ∈ appendsOf tr ↔ ∃ u, (⟨.appendLog e, u⟩ : Step) ∈ tr := by
  simp only [appendsOf, effectsOf, List.mem_filterMap]
  constructor
  · rintro ⟨x, ⟨⟨o, r⟩, hstep, heffect⟩, happend⟩
    cases o with
    | appendLog e' =>
      cases heffect
      cases happend
      exact ⟨r, hstep⟩
    | saveCheckpoint t =>
      cases r with
      | error e' => cases heffect
      | ok u =>
        cases heffect
        cases happend
    | _ => cases heffect
  · rintro ⟨u, hstep⟩
    exact ⟨.append e, ⟨_, hstep, rfl⟩, rfl⟩

/-! ### The two files -/

/-- The durable files of a campaign. -/
structure World where
  log : LogFile
  checkpoint : Option CampaignState

/-- Before the campaign: neither file exists. -/
def World.empty : World := ⟨.missing, none⟩

/-- The line of the log that records an event.
Source: `campaign_events.append_campaign_event`, `json.dumps(asdict(event), sort_keys=True)` -/
def CampaignEvent.line (e : CampaignEvent) : LogLine := some e.toJson

/-- The log with one more line. -/
def LogFile.append : LogFile → LogLine → LogFile
  | .lines l, line => .lines (l ++ [line])
  | .missing, line => .lines [line]
  | f, _ => f

/-- The files after a durable effect. -/
def World.apply (w : World) : Effect → World
  | .append e => { w with log := w.log.append e.line }
  | .save s => { w with checkpoint := some s }

/-- The answers the files give, and what a step does to them. A timestamp is one the checkpoint
accepts. -/
def world (rt : Runtime) : Monitor Op Res World where
  allowed _ _ := True
  legal w
    | .utcNow, t => timestampValid rt t = true
    | .checkpointExists, b => b = w.checkpoint.isSome
    | .logExists, b => b = (match w.log with | .missing => false | _ => true)
    | .readLog, f => f = w.log
    | .loadCheckpoint, s => s = w.checkpoint
    | .saveCheckpoint s, r => r = validateState rt s
    | _, _ => True
  next w o r := match effectOf ⟨o, r⟩ with
    | some e => w.apply e
    | none => w

end Aotp.Campaign
