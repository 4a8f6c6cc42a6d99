import Aotp.Lib.Text

/-!
# Service control panels: vocabulary, collectors, dry-run plan

* `panelSafeActions`, `panelUnsafeActions`, `panelSafeObservations` — the vocabulary.
* `collectPanelActions`, `collectPanelObservations` — what an objective asks for, trimmed and
  without repetitions.
* `buildPanelDryRunObservationPlan` — the plan of safe observations, or the error.
* `panelLockoutRiskDetected` — the pre-execution lockout signal.
-/

namespace Aotp.Gate

open PyData

/-- Source: `control_panel.PANEL_TYPES` -/
def panelTypes : List String :=
  ["admin_panel", "service_console", "monitoring_panel", "mail_admin_interface", "ci_cd_panel",
    "cloud_console_placeholder", "generic_management_interface"]

/-- The safe observations with what is recorded of each.
Source: `control_panel.PANEL_OBSERVATION_DESCRIPTIONS` -/
def panelObservationDescriptions : List (String × String) :=
  [("default_page_metadata",
      "Record placeholder metadata about whether a default panel landing page is in scope."),
   ("indexing_metadata",
      "Record placeholder metadata about indexing exposure without crawling the panel."),
   ("login_exposure_metadata",
      "Record placeholder metadata about login surface exposure without submitting credentials."),
   ("response_header_metadata",
      "Record placeholder metadata for response security headers without sending a request."),
   ("tls_configuration_metadata",
      "Record placeholder metadata for TLS review without opening a network connection."),
   ("version_banner_metadata",
      "Record placeholder metadata for visible version banners without exploitation claims.")]

/-- Source: `control_panel.PANEL_SAFE_OBSERVATIONS` -/
def panelSafeObservations : List String :=
  ["default_page_metadata", "indexing_metadata", "login_exposure_metadata",
    "response_header_metadata", "tls_configuration_metadata", "version_banner_metadata"]

/-- Source: `control_panel.PANEL_SAFE_ACTIONS` -/
def panelSafeActions : List String := ["plan_panel_target_metadata", "plan_safe_panel_observations"]

/-- Source: `control_panel.PANEL_UNSAFE_ACTIONS` -/
def panelUnsafeActions : List String :=
  ["brute_force", "credential_attack", "credential_guessing", "credential_stuffing",
    "default_password_check", "destructive_action", "destructive_panel_action", "login_attempt",
    "lockout_triggering", "panel_crawl", "password_spraying", "session_hijacking", "token_replay",
    "unsafe_crawling"]

/-- The trimmed non-empty texts of a list of values; anything else is skipped. -/
def trimmedTexts (items : List Json) : List String :=
  items.filterMap fun
    | .str s => if strip s = "" then none else some (strip s)
    | _ => none

/-- Source: `control_panel._collect_text_values` -/
def collectTextValues : Json → List String
  | .str s => if strip s = "" then [] else [strip s]
  | .arr items => trimmedTexts items
  | _ => []

/-- Source: `control_panel.collect_panel_actions` -/
def collectPanelActions (objective : Dict) : List String :=
  fromkeys (collectTextValues (dget objective "action") ++
    collectTextValues (dget objective "panel_action") ++
    collectTextValues (dget objective "requested_actions"))

/-- Source: `control_panel.collect_panel_observations` -/
def collectPanelObservations (objective : Dict) : List String :=
  fromkeys (collectTextValues (dget objective "panel_observation") ++
    collectTextValues (dget objective "requested_observations"))

/-- Source: `control_panel.denied_panel_actions` -/
def deniedPanelActions (objective : Dict) : List String :=
  (collectPanelActions objective).filter (· ∈ panelUnsafeActions)

/-- Source: `control_panel.unsafe_panel_observations` -/
def unsafePanelObservations (objective : Dict) : List String :=
  (collectPanelObservations objective).filter (· ∉ panelSafeObservations)

/-- One planned observation. -/
def plannedObservation (observation : String) : Json :=
  .obj [("observation_id", .str observation),
    ("description", .str ((panelObservationDescriptions.lookup observation).getD
      "Unsupported observation was not executed.")),
    ("execution", .str "not_executed"),
    ("evidence_placeholder", .str (observation ++ "_placeholder")),
    ("safety_boundary",
      .str "metadata placeholder only; no login, crawl, mutation, or network request")]

/-- The plan of the requested observations; unsupported ones and an empty request are errors.
Source: `control_panel.build_panel_dry_run_observation_plan` -/
def buildPanelDryRunObservationPlan (rt : Runtime) (objective : Dict) : Except Exc Dict := do
  let requested := collectPanelObservations objective
  guardE (!requested.isEmpty)
    (.valueError "safe panel observation planning requires requested_observations")
  let unsupported := unsafePanelObservations objective
  guardE unsupported.isEmpty
    (.valueError ("safe panel observation planning received unsupported observations: " ++
      joined unsupported))
  pure [("panel_alias", .str (pyStr rt (dgetD objective "panel_alias" (.str "")))),
    ("panel_type", .str (pyStr rt (dgetD objective "panel_type" (.str "")))),
    ("target_alias", .str (pyStr rt (dgetD objective "target_alias" (.str "")))),
    ("planned_observations", .arr (requested.map plannedObservation)),
    ("network_silent", .bool true),
    ("request_count", .int 0),
    ("credential_material", .str "not_collected"),
    ("screenshots", .arr []),
    ("captures", .arr []),
    ("finding_claims", .arr []),
    ("denied_runtime_behaviors", .arr ((sortedTexts panelUnsafeActions).map .str))]

/-- The objective is a panel objective as the gate and the loop decide it, by the texts as they
stand.
Source: `control_panel.panel_lockout_risk_detected`, `is_panel` -/
def isPanel (objective : Dict) : Bool :=
  Json.pyEq (dget objective "module") (.str "service_control_panel") ||
    Json.pyEq (dget objective "category") (.str "service_control_panel")

/-- `x is True`. -/
def isTrue : Json → Bool
  | .bool b => b
  | _ => false

/-- Source: `control_panel.panel_lockout_risk_detected` -/
def panelLockoutRiskDetected (objective : Dict) : Bool :=
  isPanel objective && isTrue (dget objective "lockout_risk_detected")

/-! ### What the collectors return -/

theorem mem_trimmedTexts {t : String} {items : List Json} :
    t ∈ trimmedTexts items ↔ ∃ s, Json.str s ∈ items ∧ strip s = t ∧ t ≠ "" := by
  simp only [trimmedTexts, List.mem_filterMap]
  constructor
  · rintro ⟨x, hx, ht⟩
    cases x with
    | str s =>
      by_cases hs : strip s = ""
      · simp [hs] at ht
      · simp only [if_neg hs, Option.some.injEq] at ht
        exact ⟨s, hx, ht, ht ▸ hs⟩
    | _ => simp at ht
  · rintro ⟨s, hs, rfl, hne⟩
    exact ⟨.str s, hs, by simp [hne]⟩

/-- Every collected value is trimmed and not empty. -/
theorem collectTextValues_trimmed {t : String} {v : Json} (h : t ∈ collectTextValues v) :
    strip t = t ∧ t ≠ "" := by
  cases v with
  | str s =>
    by_cases hs : strip s = ""
    · simp [collectTextValues, hs] at h
    · simp only [collectTextValues, if_neg hs, List.mem_singleton] at h
      subst h
      exact ⟨strip_strip s, hs⟩
  | arr items =>
    obtain ⟨s, -, rfl, hne⟩ := mem_trimmedTexts.mp h
    exact ⟨strip_strip s, hne⟩
  | _ => simp [collectTextValues] at h

theorem nodup_collectPanelObservations (objective : Dict) :
    (collectPanelObservations objective).Nodup := nodup_fromkeys _

theorem isPanel_iff {objective : Dict} :
    isPanel objective = true ↔ dget objective "module" = .str "service_control_panel" ∨
      dget objective "category" = .str "service_control_panel" := by
  simp [isPanel]

end Aotp.Gate
