import Aotp.Lib.Dataclass
import Aotp.Gate.PolicyChecks
import Aotp.Gate.EvidenceRecords

/-!
# The records of evidence, review, reporting and submission

* `evidenceManifest`, `verificationResult`, `findingCandidate`, `panelReportReviewDecision`,
  `reportPackageManifest`, `submissionApproval` — the six dataclasses, with their fields, defaults
  and checks.
* `manifestDigest`, `verificationDigest`, `candidateDigest`, … — the digest each of them stores.

An attribute of a record is any JSON value: a dataclass does not check the types of its fields.
-/

namespace Aotp.Evidence

open PyData Aotp.Gate

variable (rt : Runtime)

/-! ### Checks that several records share -/

/-- `len(x)`. -/
def pyLen (x : Json) : Except Exc ℕ := do
  let items ← x.iter
  pure items.length

/-- `any(character not in "0123456789abcdef" for character in x)`, negated: it stops at the first
other character. -/
def allHex : List Json → Except Exc Bool
  | [] => pure true
  | c :: cs => do
    if ← pyIn c (.str "0123456789abcdef") then allHex cs else pure false

/-- 64 items, each of them a hexadecimal digit. -/
def isDigestValue (x : Json) : Except Exc Bool := do
  if (← pyLen x) ≠ 64 then pure false
  else
    let items ← x.iter
    allHex items

/-- `if condition: raise ValueError(msg)`, where the condition is computed. -/
def require (condition : Except Exc Bool) (msg : String) : Except Exc Unit := do
  guardE (← condition) (.valueError msg)

theorem require_eq_ok {condition : Except Exc Bool} {msg : String} {u : Unit} :
    require condition msg = .ok u ↔ condition = .ok true := by
  simp only [require, bind_eq_ok, guardE_eq_ok]
  constructor
  · rintro ⟨b, hb, rfl⟩
    exact hb
  · intro h
    exact ⟨true, h, rfl⟩

/-- The method call of a text, `AttributeError` on anything else. -/
def textOf : Json → Except Exc String
  | .str s => pure s
  | _ => throw .attributeError

/-- `datetime.fromisoformat(x.replace("Z", "+00:00"))`, which has to be an aware time. -/
def awareTime (x : Json) (invalid naive : String) : Except Exc (Option ℤ) := do
  let s ← textOf x
  match rt.fromIsoFormat (zuluToOffset s) with
  | .invalid => throw (.valueError invalid)
  | .naive => throw (.valueError naive)
  | .aware utc => pure utc

/-- `except (AttributeError, ValueError) as exc: raise ValueError(msg)`. -/
def attributeAsValue (msg : String) (x : Except Exc (Option ℤ)) : Except Exc (Option ℤ) :=
  match x with
  | .error .attributeError => throw (.valueError msg)
  | y => y

/-- `pattern.fullmatch(x)`, for a pattern on texts. -/
def fullmatch (pattern : String → Bool) : Json → Except Exc Bool
  | .str s => pure (pattern s)
  | _ => throw .typeError

/-- `len(set(xs))`, where equal values have equal hashes. -/
def distinct : List Json → ℕ
  | [] => 0
  | x :: xs => if xs.any x.pyEq then distinct xs else distinct xs + 1

/-- A reviewer that is a program.
Source: `report_review.PanelReportReviewDecision.validate` and
`submission_gate.SubmissionApproval.validate` -/
def isAutomation (reviewers : List String) (reviewer : String) : Bool :=
  reviewers.contains reviewer || endsWithAny reviewer.toList ["-bot", "_bot"]

/-- `text`, as a default value. -/
def text (s : String) : Option Json := some (.str s)

/-- `None`, as a default value. -/
def none' : Option Json := some .null

/-! ### Evidence manifests -/

/-- Source: `evidence.EvidenceManifest` -/
def manifestFields : List DataField :=
  [⟨"run_id", none⟩, ⟨"timestamp_utc", none⟩, ⟨"operator", none⟩, ⟨"sponsor_alias", none⟩,
    ⟨"target_alias", none⟩, ⟨"authorization_reference", none⟩,
    ⟨"rules_of_engagement_reference", none⟩, ⟨"confidentiality_reference", none⟩,
    ⟨"case_id", none⟩, ⟨"tool", none⟩, ⟨"verifier_verdict", none⟩, ⟨"confidence", none⟩,
    ⟨"campaign_id", none'⟩, ⟨"campaign_iteration_id", none'⟩, ⟨"parent_test_objective", none'⟩,
    ⟨"module_name", none'⟩, ⟨"wstg_mapping", some (.arr [])⟩, ⟨"artifact_mapping", some (.arr [])⟩,
    ⟨"target_category", text "placeholder"⟩, ⟨"execution_mode", text "dry_run"⟩,
    ⟨"policy_decision", text "allowed"⟩, ⟨"request_count", some (.int 0)⟩,
    ⟨"request_metadata", some (.obj [])⟩, ⟨"response_metadata", some (.obj [])⟩,
    ⟨"screenshots", some (.arr [])⟩, ⟨"dom_snapshot", none'⟩, ⟨"proxy_capture", none'⟩,
    ⟨"fuzzing_corpus_reference", none'⟩, ⟨"sbom_artifact", none'⟩,
    ⟨"configuration_artifact", none'⟩, ⟨"cryptographic_evidence", none'⟩,
    ⟨"raw_evidence_hash", none'⟩, ⟨"redacted_evidence_hash", none'⟩,
    ⟨"finding_candidate_id", none'⟩, ⟨"report_inclusion_status", text "excluded_pending_review"⟩,
    ⟨"redaction_status", text "passed"⟩, ⟨"sha256_hashes", some (.obj [])⟩,
    ⟨"schema_version", text "1.0"⟩, ⟨"manifest_sha256", none'⟩, ⟨"artifacts", some (.arr [])⟩]

/-- Source: `verifier.Verdict`, the values -/
def verdicts : List String := ["pass", "fail", "inconclusive", "manual_review", "stopped_by_policy"]

/-- Source: `verifier.Confidence`, the values -/
def confidences : List String := ["not_assessed", "low", "medium", "high"]

/-- Source: `evidence.EvidenceManifest.validate`, `required` -/
def requiredEvidence : List String :=
  ["run_id", "timestamp_utc", "operator", "sponsor_alias", "target_alias",
    "authorization_reference", "rules_of_engagement_reference", "case_id", "tool", "confidence"]

/-- Source: `evidence.EvidenceManifest.validate`, the loop over `sha256_hashes` -/
def checkHashes : Dict → Except Exc Unit
  | [] => pure ()
  | (relative, digest) :: rest => do
    guardE (!leavesDirectory relative)
      (.valueError "artifact hash paths must remain relative to evidence directory")
    require (isDigestValue digest) "artifact hashes must be lowercase SHA256 digests"
    checkHashes rest

/-- Source: `evidence.EvidenceManifest.validate`, `required_artifact` -/
def artifactFields : List String :=
  ["artifact_id", "role", "path", "redacted_path", "media_type", "size_bytes", "raw_sha256",
    "redacted_sha256", "redaction_status"]

/-- Source: `evidence.EvidenceManifest.validate`, one entry of `artifacts` -/
def checkArtifact (index : ℕ) (artifact : Json) : Except Exc Unit := do
  match artifact with
  | .obj m =>
    guardE ((dkeys m).all artifactFields.contains && artifactFields.all (dkeys m).contains)
      (.valueError ("artifacts[" ++ Nat.repr index ++ "] fields are invalid"))
    guardE (["path", "redacted_path"].all fun field => !leavesDirectory (pyStr rt (dget m field)))
      (.valueError "artifact paths must remain relative to evidence directory")
    guardE ((asInt (dget m "size_bytes")).any fun n => 0 ≤ n)
      (.valueError "artifact size must be a non-negative integer")
    require (isDigestValue (dget m "raw_sha256"))
      "artifact hashes must be lowercase SHA256 digests"
    require (isDigestValue (dget m "redacted_sha256"))
      "artifact hashes must be lowercase SHA256 digests"
  | _ => throw (.valueError ("artifacts[" ++ Nat.repr index ++ "] must be a mapping"))

/-- A non-negative integer that is no truth value. -/
def isCount : Json → Bool
  | .int n => 0 ≤ n
  | _ => false

/-- The fields of a manifest.
Source: `evidence.EvidenceManifest.validate` -/
def checkManifestFields (m : Dict) : Except Exc Unit := do
  guardE ((dget m "schema_version").pyEq (.str "1.0"))
    (.valueError "unsupported evidence schema version")
  require (inTexts (dget m "verifier_verdict") verdicts) "unsupported verifier verdict"
  let missing := requiredEvidence.filter fun name => !isNonEmptyText (dget m name)
  guardE missing.isEmpty
    (.valueError ("required evidence fields are missing: " ++ joined missing))
  let _ ← awareTime rt (dget m "timestamp_utc") "evidence timestamp is invalid"
    "evidence timestamp must include a timezone"
  guardE (isCount (dget m "request_count"))
    (.valueError "request_count must be a non-negative integer")
  require (inTexts (dget m "confidence") confidences) "unsupported evidence confidence"
  require (inTexts (dget m "execution_mode") ["dry_run", "live_stub", "not_executed", "live"])
    "unsupported evidence execution mode"
  require (inTexts (dget m "report_inclusion_status")
    ["excluded_pending_review", "excluded", "candidate", "included"])
    "unsupported report inclusion status"
  let hashes ← (dget m "sha256_hashes").attrs
  checkHashes hashes
  let artifacts ← (dget m "artifacts").iter
  let _ ← mapIdxE (checkArtifact rt) 0 artifacts

/-- Source: `evidence.EvidenceManifest.validate`, but its comparison of digests -/
def checkManifest (m : Dict) : Except Exc Unit := do
  checkManifestFields rt m
  assertRedacted rt ((Json.obj m).dumps rt .spaced)
  assertValueRedacted rt (.obj m)
  guardE ((dget m "redaction_status").pyEq (.str "passed"))
    (.valueError "evidence redaction did not pass")

/-- Source: `evidence.EvidenceManifest` -/
def evidenceManifest : BoundRecord where
  fields := manifestFields
  digestField := "manifest_sha256"
  style := .canonical
  checks := checkManifest rt
  mismatch := "evidence manifest integrity check failed"

/-- Source: `evidence.manifest_digest` -/
def manifestDigest (m : Dict) : String := (evidenceManifest rt).digest rt m

/-! ### Verification results -/

/-- Source: `verifier.VerificationResult` -/
def verificationFields : List DataField :=
  [⟨"verdict", none⟩, ⟨"confidence", none⟩, ⟨"rationale", none⟩,
    ⟨"evidence_manifest_sha256", none⟩, ⟨"evidence_references", none⟩, ⟨"verifier", none⟩,
    ⟨"verified_at_utc", none⟩, ⟨"schema_version", text "1.0"⟩, ⟨"result_sha256", none'⟩]

/-- The fields of a verification result.
Source: `verifier.VerificationResult.validate` -/
def checkVerificationFields (m : Dict) : Except Exc Unit := do
  guardE ((dget m "schema_version").pyEq (.str "1.0"))
    (.valueError "unsupported verification schema")
  require (inTexts (dget m "verdict") verdicts) "unsupported verifier verdict"
  require (inTexts (dget m "confidence") confidences) "unsupported verifier confidence"
  guardE ((dget m "rationale").truthy && (dget m "verifier").truthy)
    (.valueError "verification rationale and verifier are required")
  require (isDigestValue (dget m "evidence_manifest_sha256"))
    "verification requires a valid evidence manifest SHA256"
  let decided ← inTexts (dget m "verdict") ["pass", "fail"]
  guardE (!decided || (dget m "evidence_references").truthy)
    (.valueError "pass and fail verdicts require evidence references")
  let given ← pyLen (dget m "evidence_references")
  let references ← toSet (dget m "evidence_references")
  guardE (distinct references == given)
    (.valueError "verification evidence references must be unique")
  let _ ← awareTime rt (dget m "verified_at_utc") "verification timestamp is invalid"
    "verification timestamp must include a timezone"

/-- Source: `verifier.VerificationResult.validate`, but its comparison of digests -/
def checkVerification (m : Dict) : Except Exc Unit := do
  checkVerificationFields rt m
  assertValueRedacted rt (.obj m)

/-- Source: `verifier.VerificationResult` -/
def verificationResult : BoundRecord where
  fields := verificationFields
  digestField := "result_sha256"
  style := .compactAscii
  checks := checkVerification rt
  mismatch := "verification result integrity check failed"

/-- Source: `verifier.verification_digest` -/
def verificationDigest (m : Dict) : String := (verificationResult rt).digest rt m

/-! ### Report review decisions -/

/-- Source: `report_review._text` -/
def reviewText : Json → String
  | .null => ""
  | x => strip (pyStr rt x)

/-- Source: `report_review.PanelReportReviewDecision` -/
def decisionFields : List DataField :=
  [⟨"decision_id", none⟩, ⟨"evidence_manifest_sha256", none⟩, ⟨"reviewer_alias", none⟩,
    ⟨"decision", none⟩, ⟨"decided_at_utc", none⟩, ⟨"rationale", none⟩,
    ⟨"schema_version", text "1.0"⟩, ⟨"decision_sha256", none'⟩]

/-- Source: `report_review.AUTOMATION_REVIEWERS` -/
def reviewAutomation : List String :=
  ["", "system", "automation", "automated", "bot", "ci", "ci-bot", "github-actions"]

/-- `not decided_at.astimezone(UTC) > now`; the conversion may leave the representable range. -/
def notAfter (now : ℤ) : Option ℤ → Except Exc Bool
  | some t => pure (decide (t ≤ now))
  | none => throw .overflowError

/-- The checks of a decision that is validated at a given instant.
Source: `report_review.PanelReportReviewDecision.validate`, but its comparison of digests -/
def checkReviewDecision (now : ℤ) (m : Dict) : Except Exc Unit := do
  guardE ((dget m "schema_version").pyEq (.str "1.0"))
    (.valueError "unsupported panel report review schema")
  let missing := ["decision_id", "reviewer_alias", "decided_at_utc", "rationale"].filter
    fun name => reviewText rt (dget m name) == ""
  guardE missing.isEmpty
    (.valueError ("panel report review fields are missing: " ++ joined missing))
  guardE ((dget m "decision").pyEq (.str "approved_for_candidate"))
    (.valueError "panel report review decision is not approved for candidate creation")
  let reviewer ← textOf (dget m "reviewer_alias")
  guardE (!isAutomation reviewAutomation (rt.lower (strip reviewer)))
    (.valueError "panel evidence review requires a named human reviewer")
  require (isDigestValue (dget m "evidence_manifest_sha256"))
    "panel report review requires a valid evidence manifest SHA256"
  let decidedAt ← awareTime rt (dget m "decided_at_utc") "panel report review timestamp is invalid"
    "panel report review timestamp must include a timezone"
  require (notAfter now decidedAt) "panel report review timestamp is in the future"
  assertValueRedacted rt (.obj m)

/-- Source: `report_review.PanelReportReviewDecision` -/
def panelReportReviewDecision (now : ℤ) : BoundRecord where
  fields := decisionFields
  digestField := "decision_sha256"
  style := .compactAscii
  checks := checkReviewDecision rt now
  mismatch := "panel report review integrity check failed"

/-- Source: `report_review.report_review_digest` -/
def reportReviewDigest (m : Dict) : String := (panelReportReviewDecision rt 0).digest rt m

/-- `isinstance(x, dict)`. -/
def isMapping : Json → Bool
  | .obj _ => true
  | _ => false

/-- The files a check reads, and the instant it is made at. -/
structure Reading where
  /-- `json.loads(Path(path).read_text())` -/
  content : String → Except Exc Json
  /-- `sha256_file(path)` -/
  sha256 : String → Except Exc String
  /-- `datetime.now(UTC)` -/
  now : ℤ

/-- `except (OSError, TypeError, ValueError, json.JSONDecodeError) as exc: raise ValueError(…)`. -/
def invalidAs (what path : String) {α : Type} (x : Except Exc α) : Except Exc α :=
  match x with
  | .ok a => .ok a
  | .error e =>
    if e.isValueError || e == .osError || e == .typeError then
      .error (.valueError (what ++ " is invalid: " ++ path ++ ": " ++ e.text))
    else .error e

/-- `cls(**json.loads(…))`, validated: keyword arguments have to be a mapping. -/
def readRecord (kind : BoundRecord) (content : Except Exc Json) : Except Exc Dict := do
  match ← content with
  | .obj given => kind.read rt given
  | _ => throw .typeError

/-- Source: `report_review.load_report_review_decision` -/
def loadReportReviewDecision (disk : Reading) (path : String) : Except Exc Dict :=
  invalidAs "panel report review decision" path
    (readRecord rt (panelReportReviewDecision rt disk.now) (disk.content path))

/-- Source: `report_review.PANEL_EVIDENCE_MODULE` -/
def panelEvidenceModule : String := "service_control_panel"

/-- Source: `report_review.PANEL_EVIDENCE_ARTIFACT_ROLE` -/
def panelEvidenceArtifactRole : String := "service_control_panel_evidence_record"

/-- The manifest is that of panel evidence.
Source: `report_review.manifest_requires_report_review` -/
def manifestRequiresReportReview (manifest : Dict) : Except Exc Bool := do
  if (dget manifest "module_name").pyEq (.str panelEvidenceModule) then pure true
  else if isMapping (dget (mappingOf (dget manifest "response_metadata")) "observation_plan") then
    pure true
  else
    let artifacts ← (dget manifest "artifacts").iter
    pure (artifacts.any fun artifact =>
      (dget (mappingOf artifact) "role").pyEq (.str panelEvidenceArtifactRole))

/-- The review decision a candidate refers to is its own, and that of its manifest.
Source: `report_review.report_inclusion_allowed`, the block that reads the decision -/
def reviewMatches (disk : Reading) (candidate : Dict) (manifest : Option Dict)
    (reference sha256 : String) : Except Exc Bool := do
  let decision ← loadReportReviewDecision rt disk reference
  let digest ← disk.sha256 reference
  pure (digest == sha256 &&
    (dget decision "evidence_manifest_sha256").pyEq (dget candidate "evidence_manifest_sha256") &&
    (manifest.all fun m =>
      (dget decision "evidence_manifest_sha256").pyEq (dget m "manifest_sha256")) &&
    (dget decision "reviewer_alias").pyEq (dget candidate "report_reviewer"))

/-- Source: `report_review.report_inclusion_allowed` -/
def reportInclusionAllowed (disk : Reading) (candidate : Dict) (manifest : Option Dict) :
    Except Exc Bool := do
  let reviewRequired ← match manifest with
    | some m => manifestRequiresReportReview m
    | none => pure (dget candidate "report_review_required").truthy
  if !reviewRequired then pure true
  else if !((dget candidate "report_review_required").truthy &&
      (dget candidate "state").pyEq (.str "ready_for_report") &&
      (dget candidate "human_validated").truthy &&
      (dget candidate "report_review_status").pyEq (.str "candidate_reviewed") &&
      reviewText rt (dget candidate "report_reviewer") != "") then pure false
  else
    let reference := reviewText rt (dget candidate "report_review_reference")
    let sha256 := reviewText rt (dget candidate "report_review_sha256")
    if reference == "" || sha256 == "" then pure false
    else
      match reviewMatches rt disk candidate manifest reference sha256 with
      | .ok b => pure b
      | .error e => if e.isValueError || e == .osError then pure false else throw e

/-! ### Finding candidates -/

/-- Source: `finding_candidate.FINDING_STATES` -/
def findingStates : List String :=
  ["observed", "candidate", "needs_reproduction", "needs_human_review", "confirmed",
    "duplicate_risk", "out_of_scope", "not_security_impacting", "ready_for_report",
    "submitted_manually", "accepted", "rejected", "paid"]

/-- The fields of a candidate created at an instant.
Source: `finding_candidate.FindingCandidate` -/
def candidateFields (utcNow : String) : List DataField :=
  [⟨"finding_id", none⟩, ⟨"evidence_reference", none⟩, ⟨"state", text "observed"⟩,
    ⟨"severity_candidate", text "unrated"⟩, ⟨"confidence", text "low"⟩,
    ⟨"evidence_strength", text "weak"⟩, ⟨"human_validated", some (.bool false)⟩,
    ⟨"report_review_required", some (.bool false)⟩, ⟨"report_review_status", text "not_required"⟩,
    ⟨"report_reviewer", none'⟩, ⟨"report_review_reference", none'⟩,
    ⟨"report_review_sha256", none'⟩, ⟨"component_presence_only", some (.bool false)⟩,
    ⟨"reachability_status", text "not_applicable"⟩,
    ⟨"exploitability_status", text "not_applicable"⟩,
    ⟨"crypto_indicator_only", some (.bool false)⟩,
    ⟨"crypto_indicator_status", text "not_applicable"⟩, ⟨"title", text "Unreviewed observation"⟩,
    ⟨"summary", text "Evidence requires review."⟩, ⟨"evidence_manifest_sha256", none'⟩,
    ⟨"verification_reference", none'⟩, ⟨"verification_sha256", none'⟩, ⟨"target_alias", none'⟩,
    ⟨"case_id", none'⟩, ⟨"fingerprint", none'⟩, ⟨"created_at_utc", text utcNow⟩,
    ⟨"updated_at_utc", text utcNow⟩, ⟨"lifecycle_history", some (.arr [])⟩,
    ⟨"schema_version", text "1.0"⟩, ⟨"candidate_sha256", none'⟩]

/-- The fields with a fixed vocabulary.
Source: `finding_candidate.FindingCandidate.validate` -/
def checkVocabulary (m : Dict) : Except Exc Unit := do
  guardE ((dget m "schema_version").pyEq (.str "1.0"))
    (.valueError "unsupported finding candidate schema")
  guardE (findingStates.any fun state => (dget m "state").pyEq (.str state))
    (.valueError "unsupported finding state")
  guardE (dget m "evidence_reference").truthy
    (.valueError "finding candidate requires evidence")
  require (inTexts (dget m "severity_candidate")
    ["unrated", "informational", "low", "medium", "high", "critical"])
    "unsupported severity candidate"
  require (inTexts (dget m "confidence") ["low", "medium", "high"])
    "unsupported finding confidence"
  require (inTexts (dget m "evidence_strength") ["weak", "medium", "strong"])
    "unsupported evidence strength"
  require (inTexts (dget m "report_review_status")
    ["not_required", "candidate_reviewed", "excluded_pending_review"])
    "unsupported report review status"

/-- The review of evidence that requires one.
Source: `finding_candidate.FindingCandidate.validate` -/
def checkReportReview (m : Dict) : Except Exc Unit := do
  let required := (dget m "report_review_required").truthy
  guardE (!required || (dget m "report_review_status").pyEq (.str "candidate_reviewed"))
    (.valueError "panel evidence requires completed report review")
  guardE (!required || (dget m "report_reviewer").truthy)
    (.valueError "panel evidence requires a report reviewer")
  guardE (!required || ((dget m "report_review_reference").truthy &&
      (dget m "report_review_sha256").truthy))
    (.valueError "panel evidence requires an integrity-bound report review decision")

/-- What every finding but a bare observation refers to.
Source: `finding_candidate.FindingCandidate.validate` -/
def checkReferences (m : Dict) : Except Exc Unit := do
  let observed := (dget m "state").pyEq (.str "observed")
  guardE (observed || (dget m "evidence_manifest_sha256").truthy)
    (.valueError "finding candidate requires evidence manifest hash")
  guardE (observed || (dget m "verification_reference").truthy)
    (.valueError "finding candidate requires verification reference")
  guardE (observed || (dget m "verification_sha256").truthy)
    (.valueError "finding candidate requires verification hash")
  guardE (observed || (dget m "fingerprint").truthy)
    (.valueError "finding candidate requires fingerprint")

/-- What a confirmed finding needs.
Source: `finding_candidate.FindingCandidate.validate` -/
def checkConfirmation (m : Dict) : Except Exc Unit := do
  let confirmed ← inTexts (dget m "state") ["confirmed", "ready_for_report"]
  guardE (!confirmed || (dget m "human_validated").truthy)
    (.valueError "confirmed findings require human validation")
  guardE (!((dget m "component_presence_only").truthy && confirmed) ||
      ((dget m "reachability_status").pyEq (.str "verified") &&
        (dget m "exploitability_status").pyEq (.str "verified")))
    (.valueError "component presence alone cannot become a confirmed security risk")
  guardE (!((dget m "crypto_indicator_only").truthy && confirmed) ||
      (dget m "crypto_indicator_status").pyEq (.str "verified_weakness"))
    (.valueError "cryptographic indicators require verified evidence before confirmation")

/-- What a report-ready finding needs.
Source: `finding_candidate.FindingCandidate.validate` -/
def checkReadiness (disk : Reading) (m : Dict) : Except Exc Unit := do
  let ready := (dget m "state").pyEq (.str "ready_for_report")
  guardE (!ready || !((dget m "severity_candidate").pyEq (.str "unrated") ||
      (dget m "evidence_strength").pyEq (.str "weak")))
    (.valueError "report-ready findings require rated severity and stronger evidence")
  let included ← if ready then reportInclusionAllowed rt disk m none else pure true
  guardE included (.valueError "report-ready findings require completed report review")

/-- The fields of a candidate.
Source: `finding_candidate.FindingCandidate.validate` -/
def checkCandidateFields (disk : Reading) (m : Dict) : Except Exc Unit := do
  checkVocabulary m
  checkReportReview m
  checkReferences m
  checkConfirmation m
  checkReadiness rt disk m

/-- Source: `finding_candidate.FindingCandidate.validate`, but its comparison of digests -/
def checkCandidate (disk : Reading) (m : Dict) : Except Exc Unit := do
  checkCandidateFields rt disk m
  assertValueRedacted rt (.obj m)

/-- The dataclass of candidates, as it is at an instant.
Source: `finding_candidate.FindingCandidate` -/
def findingCandidate (disk : Reading) (utcNow : String) : BoundRecord where
  fields := candidateFields utcNow
  digestField := "candidate_sha256"
  style := .compactAscii
  checks := checkCandidate rt disk
  mismatch := "finding candidate integrity check failed"

/-- Source: `finding_candidate.candidate_digest` -/
def candidateDigest (disk : Reading) (m : Dict) : String :=
  (findingCandidate rt disk "").digest rt m

/-! ### Report packages -/

/-- Source: `report_package.ReportPackageManifest` -/
def packageFields : List DataField :=
  [⟨"package_id", none⟩, ⟨"created_at_utc", none⟩, ⟨"draft_report", none⟩,
    ⟨"draft_report_sha256", none⟩, ⟨"evidence_manifest_sha256", none⟩, ⟨"status", text "draft"⟩,
    ⟨"human_review_required", some (.bool true)⟩, ⟨"review_status", text "pending_human_review"⟩,
    ⟨"submission_mode", text "manual_only"⟩, ⟨"schema_version", text "1.0"⟩,
    ⟨"package_sha256", none'⟩]

/-- Source: `report_package.ReportPackageManifest.validate`, the check of each reference -/
def allFullmatch (pattern : String → Bool) : List Json → Except Exc Bool
  | [] => pure true
  | x :: xs => do
    if ← fullmatch pattern x then allFullmatch pattern xs else pure false

/-- Source: `report_package.ReportPackageManifest.validate`, but its comparison of digests -/
def checkPackage (m : Dict) : Except Exc Unit := do
  guardE ((dget m "schema_version").pyEq (.str "1.0"))
    (.valueError "unsupported report package schema")
  require (fullmatch (fun s => isAlias s.toList) (dget m "package_id"))
    "package_id must be an alias"
  let _ ← attributeAsValue "created_at_utc is invalid"
    (awareTime rt (dget m "created_at_utc") "created_at_utc is invalid"
      "created_at_utc must include a timezone")
  guardE ((dget m "draft_report").pyEq (.str "draft-report.md"))
    (.valueError "draft_report must use the package-local draft name")
  require (fullmatch isSha256Text (dget m "draft_report_sha256"))
    "draft_report_sha256 is invalid"
  guardE (dget m "evidence_manifest_sha256").truthy
    (.valueError "report package requires evidence references")
  let references ← toSet (dget m "evidence_manifest_sha256")
  let given ← pyLen (dget m "evidence_manifest_sha256")
  guardE (distinct references == given)
    (.valueError "evidence references must not contain duplicates")
  let items ← (dget m "evidence_manifest_sha256").iter
  require (allFullmatch isSha256Text items) "evidence references must be SHA256 values"
  guardE ((dget m "status").pyEq (.str "draft") && (dget m "human_review_required").truthy &&
      (dget m "review_status").pyEq (.str "pending_human_review") &&
      (dget m "submission_mode").pyEq (.str "manual_only"))
    (.valueError "report package must remain a human-reviewed manual draft")
  assertValueRedacted rt (.obj m)

/-- Source: `report_package.ReportPackageManifest` -/
def reportPackageManifest : BoundRecord where
  fields := packageFields
  digestField := "package_sha256"
  style := .compactAscii
  checks := checkPackage rt
  mismatch := "report package integrity check failed"

/-- Source: `report_package.package_digest` -/
def packageDigest (m : Dict) : String := (reportPackageManifest rt).digest rt m

/-! ### Submission approvals -/

/-- Source: `submission_gate.SubmissionApproval` -/
def approvalFields : List DataField :=
  [⟨"decision_id", none⟩, ⟨"report_package_sha256", none⟩, ⟨"reviewer_alias", none⟩,
    ⟨"decision", none⟩, ⟨"decided_at_utc", none⟩, ⟨"rationale", none⟩,
    ⟨"schema_version", text "1.0"⟩, ⟨"decision_sha256", none'⟩]

/-- Source: `submission_gate.AUTOMATION_REVIEWERS` -/
def submissionAutomation : List String :=
  ["automation", "automated", "bot", "ci", "ci-bot", "system"]

/-- Source: `submission_gate.SubmissionApproval.validate`, but its comparison of digests -/
def checkApproval (m : Dict) : Except Exc Unit := do
  guardE ((dget m "schema_version").pyEq (.str "1.0"))
    (.valueError "unsupported submission approval schema")
  require (fullmatch (fun s => isAlias s.toList) (dget m "decision_id"))
    "decision_id must be an alias"
  require (fullmatch isSha256Text (dget m "report_package_sha256"))
    "report_package_sha256 must be a SHA256 value"
  let given ← textOf (dget m "reviewer_alias")
  let reviewer := rt.lower (strip given)
  guardE (isAlias reviewer.toList && !isAutomation submissionAutomation reviewer)
    (.valueError "manual submission approval requires a named human reviewer")
  require (inTexts (dget m "decision") ["approved_for_manual_submission", "rejected"])
    "submission approval decision is unsupported"
  let _ ← attributeAsValue "decided_at_utc is invalid"
    (awareTime rt (dget m "decided_at_utc") "decided_at_utc is invalid"
      "decided_at_utc must include a timezone")
  guardE ((dget m "rationale").text?.any fun s => strip s != "")
    (.valueError "submission approval rationale is required")
  assertValueRedacted rt (.obj m)

/-- Source: `submission_gate.SubmissionApproval` -/
def submissionApproval : BoundRecord where
  fields := approvalFields
  digestField := "decision_sha256"
  style := .compactAscii
  checks := checkApproval rt
  mismatch := "submission approval integrity check failed"

/-- Source: `submission_gate.approval_digest` -/
def approvalDigest (m : Dict) : String := (submissionApproval rt).digest rt m

end Aotp.Evidence
