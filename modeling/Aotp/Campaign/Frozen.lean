import Aotp.Campaign.Loop

/-!
# A world that stands still

* `Frozen` — everything the world answers besides the two files, held constant.
* `Frozen.exec` — the run of a program against it; `Frozen.exec_legal` — **its answers are ones the
  world can give**.
* `tableRuntime` — a library for concrete runs: ASCII case folding, one known timestamp, and
  SHA-256 by a table of digests. `sampleSite` and `sampleWorld` are the circumstances of such runs.
-/

namespace Aotp.Campaign

open PyData Aotp.Gate Effects

/-- Everything the world answers besides the two files, held constant. -/
structure Frozen where
  /-- `datetime.now(UTC).isoformat()` -/
  timestamp : String
  /-- The same instant, in microseconds. -/
  instant : ℤ
  clock : ℚ
  uuid : String
  scopeText : String
  insideWorkspace : String → Bool
  resolveArtifact : String → String
  files : String → SbomFile
  /-- Whether writing the evidence of an iteration succeeds. -/
  evidence : String → Dict → Option Dict → Except Exc Unit
  /-- The SHA-256 of the checkpoint's bytes. -/
  checkpointSha256 : Option CampaignState → Except Exc String

/-- The answer of a frozen world. -/
def Frozen.answer (rt : Runtime) (f : Frozen) (w : World) : (o : Op) → Res o
  | .utcNow => f.timestamp
  | .uuid4 => f.uuid
  | .clock => f.clock
  | .readScope => .ok f.scopeText
  | .checkpointExists => w.checkpoint.isSome
  | .logExists => match w.log with | .missing => false | _ => true
  | .readLog => w.log
  | .checkpointSha256 => f.checkpointSha256 w.checkpoint
  | .loadCheckpoint => w.checkpoint
  | .observe => ⟨f.instant, f.insideWorkspace⟩
  | .resolveArtifact artifact => f.resolveArtifact artifact
  | .artifactFiles => f.files
  | .writeEvidence directory manifest record => f.evidence directory manifest record
  | .appendLog _ => ()
  | .saveCheckpoint s => validateState rt s

theorem Frozen.answer_legal {rt : Runtime} {f : Frozen}
    (h : timestampValid rt f.timestamp = true) (w : World) (o : Op) :
    (world rt).legal w o (f.answer rt w o) := by
  cases o <;> first | exact h | trivial

/-- The run of a program in a frozen world. -/
def Frozen.exec {α : Type} (rt : Runtime) (f : Frozen) (p : Prog Op Res α) (w : World) :
    List Step × α × World :=
  Effects.exec (fun w o => (f.answer rt w o, (world rt).next w o (f.answer rt w o))) p w

/-- **A frozen world is a world**: its runs are runs, with answers the two files can give. -/
theorem Frozen.exec_legal {α : Type} {rt : Runtime} {f : Frozen}
    (h : timestampValid rt f.timestamp = true) (p : Prog Op Res α) (w : World) :
    Reach p (f.exec rt p w).1 (.pure (f.exec rt p w).2.1) ∧
      (world rt).Legal w (f.exec rt p w).1 ∧
      (world rt).run w (f.exec rt p w).1 = (f.exec rt p w).2.2 :=
  ⟨exec_reach _ p w, Effects.exec_legal (world rt) (f.answer rt) (f.answer_legal h) p w⟩

/-- The monitor of a frozen world: every operation has one answer. It remembers the steps. -/
def Frozen.monitor (rt : Runtime) (f : Frozen) : Monitor Op Res (World × List Step) where
  allowed _ _ := True
  legal m o r := r = f.answer rt m.1 o
  next m o r := ((world rt).next m.1 o r, m.2 ++ [⟨o, r⟩])

theorem Frozen.exec_of_wp {α : Type} {rt : Runtime} {f : Frozen} {p : Prog Op Res α} {w : World}
    {tr : List Step} {Q : α → World × List Step → Prop} (h : wp (f.monitor rt) p Q (w, tr)) :
    Q (f.exec rt p w).2.1 ((f.exec rt p w).2.2, tr ++ (f.exec rt p w).1) := by
  induction p generalizing w tr with
  | pure a =>
    show Q a (w, tr ++ [])
    rwa [List.append_nil]
  | op o k ih =>
    have hrest := ih (f.answer rt w o) (h.2 _ rfl)
    rwa [List.append_assoc] at hrest

/-- **What holds whenever a program ends in a frozen world** holds of its run. -/
theorem Frozen.exec_of_post {S α : Type} {rt : Runtime} {f : Frozen} {c : Code S α} {s : S}
    {w : World} {Q : Except Exc α → S → World × List Step → Prop}
    (h : Post (f.monitor rt) c s Q (w, [])) :
    Q (f.exec rt (Proc.start c s) w).2.1.1 (f.exec rt (Proc.start c s) w).2.1.2
      ((f.exec rt (Proc.start c s) w).2.2, (f.exec rt (Proc.start c s) w).1) :=
  Frozen.exec_of_wp h

/-! ### A library for concrete runs -/

/-- Lower-case letters for the upper-case ones of ASCII. -/
def asciiLower (s : String) : String := String.ofList (s.toList.map Char.toLower)

/-- The digest of a text in a table of known digests. -/
def tableSha256 (table : List (String × String)) (s : String) : String :=
  (table.lookup s).getD (String.ofList (List.replicate 64 '0'))

/-- A table without entries holds hexadecimal digests only. -/
theorem noDigests_hex {α : Type} : (([] : List (α × String)).all fun e => isSha256Text e.2) = true :=
  rfl

/-- A library that knows the digests of a table, and one timestamp with its instant. -/
def tableRuntime (timestamp : String) (instant : ℤ) (table : List (String × String))
    (h : (table.all fun e => isSha256Text e.2) = true) : Runtime where
  lower := asciiLower
  floatRepr _ := "0.0"
  containerRepr _ := "[]"
  isWordChar _ := false
  fromIsoFormat s := if s = timestamp then .aware (some instant) else .invalid
  dateFromIsoFormat _ := none
  intOfText _ := none
  sha256 := tableSha256 table
  sha256_hex := by
    intro s
    unfold tableSha256
    cases hs : table.lookup s with
    | none => decide
    | some d =>
      rw [List.all_eq_true] at h
      obtain ⟨l₁, l₂, hl, -⟩ := List.lookup_eq_some_iff.mp hs
      exact h (s, d) (by simp [hl])

/-- The instant of the concrete runs. -/
def sampleTime : String := "2026-01-01T00:00:00+00:00"

/-- A library that knows the digests of some canonical JSON texts. -/
def sampleRuntime (digests : List (Json × String))
    (h : (digests.all fun e => isSha256Text e.2) = true) : Runtime :=
  tableRuntime sampleTime 0
    (digests.map fun e => (e.1.dumps (tableRuntime sampleTime 0 [] rfl) .canonical, e.2))
    (by simpa using h)

/-- A workspace for the concrete runs. -/
def sampleSite (digests : List (Json × String))
    (h : (digests.all fun e => isSha256Text e.2) = true) : Site where
  rt := sampleRuntime digests h
  uuid5 _ := "00000000-0000-5000-8000-000000000000"
  root := PurePath.ofText "/workspace"
  logEscapes _ := false

/-! ### Documents for concrete runs -/

/-- A scope without live authorization, with one target and one panel. -/
def sampleScope : Dict :=
  [("schema_version", .str "1.0"), ("scope_id", .str "example-dry-run"),
    ("program_alias", .str "example-program"), ("sponsor_alias", .str "example-sponsor"),
    ("operator_alias", .str "example-operator"),
    ("authorization", .obj [("live_authorized", .bool false), ("type", .str "bug_bounty_program"),
      ("reference", .str "example-only"),
      ("confidentiality", .obj [("required", .bool false), ("confirmed", .bool false),
        ("reference", .null)])]),
    ("rules_of_engagement", .obj [("confirmed", .bool false), ("reference", .str "example-only"),
      ("confirmed_at_utc", .str "2000-01-01T00:00:00Z"), ("policy_sha256", .str "unset"),
      ("prohibited_actions_acknowledged", .bool false),
      ("evidence_handling_confirmed", .bool false),
      ("emergency_contact_reference", .str "example-only"), ("target_instability_stop", .bool true),
      ("authentication_lockout_stop", .bool true)]),
    ("allowed_targets", .arr [.obj [("alias", .str "local-placeholder"),
      ("domains", .arr [.str "example.invalid"]), ("services", .arr [.str "https"]),
      ("apis", .arr [.str "placeholder-api"]), ("environments", .arr []),
      ("approved_account_aliases", .arr [])]]),
    ("allowed_test_windows", .arr []),
    ("allowed_categories", .arr (supportedModules.map .str)),
    ("forbidden_actions", .arr [.str "credential_attack", .str "destructive_payload"]),
    ("rate_limits", .obj [("requests_per_minute", .int 1), ("max_requests", .int 5)]),
    ("fuzzing", .obj [("authorized", .bool false), ("state_changing_authorized", .bool false),
      ("approved_actions", .arr []), ("denied_actions", .arr (fuzzingUnsafeActions.map .str)),
      ("safe_payload_classes", .arr [.str "boundary_value"]), ("payload_budget", .int 1),
      ("request_budget", .int 1), ("per_endpoint_limit", .int 1),
      ("max_response_bytes", .int 65536), ("max_retries", .int 0),
      ("max_runtime_seconds", .int 1)]),
    ("service_control_panels", .obj [("authorized", .bool true), ("panels", .arr [.obj
      [("alias", .str "example-admin-panel"), ("target_alias", .str "local-placeholder"),
        ("panel_type", .str "admin_panel"), ("exposure", .str "placeholder_only"),
        ("approved_actions", .arr [.str "plan_panel_target_metadata"]),
        ("denied_actions", .arr (panelUnsafeActions.map .str))]])]),
    ("provided_artifacts", .arr [.str "artifacts/sbom.placeholder.json"]),
    ("evidence", .obj [("workspace", .str ".aotp/evidence"), ("handling", .str "local-redacted"),
      ("retention_days", .int 1), ("encryption_required", .bool false),
      ("allowed_artifact_types", .arr [.str "evidence_manifest"])]),
    ("reporting", .obj [("disclosure_rules", .str "human-review-required"),
      ("human_review_required", .bool true), ("automatic_submission", .bool false)]),
    ("stop_conditions", .arr [.str "operator_stop"])]

/-- A web application objective. -/
def sampleObjective : Dict :=
  [("id", .str "security-headers"), ("title", .str "Plan a security-header observation"),
    ("module", .str "wstg_webapp"), ("category", .str "wstg_webapp"),
    ("action", .str "observe_security_headers"), ("target_alias", .str "local-placeholder"),
    ("priority", .int 10), ("depends_on", .arr []), ("requires_human_approval", .bool false),
    ("parameters", .obj [("request_budget", .int 0)])]

/-- A campaign with some objectives. -/
def sampleCampaign (objectives : List Dict) : Dict :=
  [("schema_version", .str "1.0"), ("campaign_id", .str "example-dry-run"),
    ("name", .str "Dry run"), ("description", .str "Plans inert objectives."),
    ("limits", .obj [("max_iterations", .int 3), ("max_runtime_seconds", .int 30),
      ("max_requests", .int 3), ("max_consecutive_failures", .int 1)]),
    ("execution", .obj [("default_mode", .str "dry_run"), ("continue_on_inconclusive", .bool true),
      ("pause_on_manual_review", .bool true), ("stop_on_policy_denial", .bool true)]),
    ("stop_conditions", .arr ([.str "operator_stop", .str "policy_denial", .str "human_review",
      .str "authentication_lockout_risk"])),
    ("objectives", .arr (objectives.map .obj))]

/-- The circumstances of the concrete runs: the scope file holds the scope, as canonical JSON,
writing evidence succeeds, and no artifact is there. -/
def sampleWorld : Frozen where
  timestamp := sampleTime
  instant := 0
  clock := 0
  uuid := "11111111-1111-4111-8111-111111111111"
  scopeText := (Json.obj sampleScope).dumps (tableRuntime sampleTime 0 [] rfl) .canonical
  insideWorkspace _ := true
  resolveArtifact artifact := artifact
  files _ := .notRegular
  evidence _ _ _ := .ok ()
  checkpointSha256 _ := .error .osError

end Aotp.Campaign
