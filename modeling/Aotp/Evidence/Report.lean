import Aotp.Evidence.Loaders
import Aotp.Gate.SbomReview

/-!
# Reports

* `Archive` — the evidence and findings directories of a report, and what is found in them.
* `verifyEvidenceDirectory` — the failures of the manifests and artifacts of the directory.
* `panelRecord`, `sbomRecord`, `cryptoRecord` — the record a manifest registers for the report.
* `includes` — whether a finding enters the report; `draftOf` — what the report is made of.
* `generateMarkdown` — the report.
-/

namespace Aotp.Evidence

open PyData Aotp.Gate

/-- What is found at a path below the directory of a manifest. -/
structure FoundFile where
  /-- `path.resolve()` stays below that directory -/
  inside : Bool
  /-- `path.is_file()` -/
  isFile : Bool
  /-- `path.is_symlink()`, once it is resolved -/
  isSymlink : Bool
  /-- `sha256_file(path)` -/
  sha256 : Except Exc String
  /-- `path.stat().st_size` -/
  size : ℕ
  /-- `json.loads(path.read_text())` -/
  content : Except Exc Json

/-- The directories of a report. -/
structure Archive extends Reading where
  /-- `sorted(evidence_root.rglob("evidence.json"))`; nothing unless the root is a directory -/
  manifestPaths : List String
  /-- `sorted(findings_directory.rglob("*.json"))`; nothing without a directory -/
  findingPaths : List String
  /-- `manifest_path.parent / relative` -/
  found : String → String → FoundFile
  /-- The clock, while a finding is loaded -/
  utcNow : String → String

variable (rt : Runtime) (archive : Archive)

/-! ### Verification -/

/-- `manifest_path.parent / x`. -/
def fileAt (path : String) : Json → Except Exc FoundFile
  | .str relative => pure (archive.found path relative)
  | _ => throw .typeError

/-- The artifacts of a loaded manifest, each of them a mapping. -/
def artifactsOf (manifest : Dict) : List Dict :=
  (itemsOf (dget manifest "artifacts")).map mappingOf

/-- A failure, unless the condition holds. -/
def failUnless (msg : String) (condition : Except Exc Bool) : Except Exc (List String) := do
  if ← condition then pure [] else pure [msg]

/-- One entry of `sha256_hashes`.
Source: `evidence.verify_evidence_directory` -/
def hashFailures (path : String) (e : String × Json) : Except Exc (List String) :=
  failUnless ("artifact hash mismatch: " ++ e.1) do
    let file := archive.found path e.1
    if !file.isFile then pure false
    else
      let digest ← file.sha256
      pure (e.2.pyEq (.str digest))

/-- A regular file with the digest.
Source: `evidence.verify_evidence_directory` -/
def isIntact (file : FoundFile) (expected : Json) : Except Exc Bool := do
  if !file.isFile || file.isSymlink then pure false
  else
    let digest ← file.sha256
    pure (expected.pyEq (.str digest))

/-- The file of an artifact.
Source: `evidence.verify_evidence_directory`, `artifact_path` -/
def rawFailures (path : String) (artifact : Dict) : Except Exc (List String) := do
  let file ← fileAt archive path (dget artifact "path")
  if !file.inside then
    pure ["artifact path escapes evidence directory: " ++ pyStr rt (dget artifact "path")]
  else
    failUnless ("artifact verification failed: " ++ pyStr rt (dget artifact "path")) do
      if ← isIntact file (dget artifact "raw_sha256") then
        pure ((dget artifact "size_bytes").pyEq (.int file.size))
      else pure false

/-- The redacted file of an artifact, unless it is the file itself.
Source: `evidence.verify_evidence_directory`, `redacted_path` -/
def redactedFailures (path : String) (artifact : Dict) : Except Exc (List String) := do
  let raw ← fileAt archive path (dget artifact "path")
  if !raw.inside then pure []
  else
    let file ← fileAt archive path (dget artifact "redacted_path")
    failUnless
      ("redacted artifact verification failed: " ++ pyStr rt (dget artifact "redacted_path")) do
      if (dget artifact "redacted_path").pyEq (dget artifact "path") then pure true
      else isIntact file (dget artifact "redacted_sha256")

/-- The failures found one after the other, and the exception that ended the search. -/
def untilRaised : List (Except Exc (List String)) → List String × Option Exc
  | [] => ([], none)
  | .error e :: _ => ([], some e)
  | .ok failures :: rest => (failures ++ (untilRaised rest).1, (untilRaised rest).2)

/-- `except (OSError, TypeError, ValueError, json.JSONDecodeError) as exc`, after some failures.
Source: `evidence.verify_evidence_directory` -/
def withRaised (path : String) (failures : List String) (e : Exc) : Except Exc (List String) :=
  if e.isValueError || e == .osError || e == .typeError then
    .ok (failures ++ [path ++ ": " ++ e.text])
  else .error e

/-- The failures of one manifest.
Source: `evidence.verify_evidence_directory` -/
def manifestFailures (path : String) : Except Exc (List String) :=
  match loadManifest rt archive.toReading path with
  | .error e => withRaised path [] e
  | .ok manifest =>
    match untilRaised
      ((mappingOf (dget manifest "sha256_hashes")).map (hashFailures archive path) ++
        (artifactsOf manifest).flatMap fun artifact =>
          [rawFailures rt archive path artifact, redactedFailures rt archive path artifact]) with
    | (failures, none) => .ok failures
    | (failures, some e) => withRaised path failures e

/-- Source: `evidence.verify_evidence_directory` -/
def verifyEvidenceDirectory : Except Exc (List String) :=
  if archive.manifestPaths = [] then .ok ["no evidence manifests found"]
  else do
    let failures ← archive.manifestPaths.mapM (manifestFailures rt archive)
    pure failures.flatten

/-! ### Registered records -/

/-- A manifest of the directory, with its path. -/
abbrev Entry := String × Dict

/-- Source: `reporter.generate_markdown`, `manifest_entries` -/
def loadEntries : Except Exc (List Entry) :=
  archive.manifestPaths.mapM fun path => do
    let manifest ← loadManifest rt archive.toReading path
    pure (path, manifest)

/-- `[artifact for artifact in manifest.artifacts if artifact.get("role") == role]`. -/
def withRole (role : String) (manifest : Dict) : List Dict :=
  (artifactsOf manifest).filter fun artifact => (dget artifact "role").pyEq (.str role)

/-- `json.loads((manifest_path.parent / artifact["redacted_path"]).read_text())`. -/
def artifactContent (path : String) (artifact : Dict) : Except Exc Json := do
  let file ← fileAt archive path (dget artifact "redacted_path")
  file.content

/-- `record[key]`. -/
def itemOf (record : Dict) (key : String) : Except Exc Json :=
  match dget? record key with
  | some v => .ok v
  | none => .error (.keyError key)

/-- `except (OSError, json.JSONDecodeError)`, around the reading of a panel record. -/
def panelContent (content : Except Exc Json) : Except Exc Dict :=
  match content with
  | .ok (.obj record) => .ok record
  | .ok _ => .error (.valueError "panel evidence record is invalid")
  | .error e =>
    if e.isValueError || e == .osError then
      .error (.valueError "panel evidence record is invalid")
    else .error e

/-- The panel record of a manifest, if it is one of panel evidence and registers one.
Source: `reporter.generate_markdown`, the loop over `panel_records` -/
def panelRecord (entry : Entry) : Except Exc (Option Dict) := do
  if ← manifestRequiresReportReview entry.2 then
    let metadata ← (dget entry.2 "response_metadata").attrs
    let artifacts := withRole panelEvidenceArtifactRole entry.2
    guardE (!isMapping (dget metadata "observation_plan") || artifacts.length == 1)
      (.valueError ("panel evidence " ++ pyStr rt (dget entry.2 "case_id") ++
        " requires exactly one panel evidence record"))
    match artifacts with
    | [] => pure none
    | [artifact] =>
      let record ← panelContent (artifactContent archive entry.1 artifact)
      validatePanelEvidenceRecord rt record
      let caseId ← itemOf record "case_id"
      let targetAlias ← itemOf record "target_alias"
      guardE (caseId.pyEq (dget entry.2 "case_id") && targetAlias.pyEq (dget entry.2 "target_alias"))
        (.valueError "panel evidence record does not match its manifest")
      pure (some record)
    | _ => throw (.valueError ("panel evidence " ++ pyStr rt (dget entry.2 "case_id") ++
        " has duplicate panel evidence records"))
  else pure none

/-- The component record of a manifest, if it registers one.
Source: `reporter.generate_markdown`, the loop over `sbom_records` -/
def sbomRecord (entry : Entry) : Except Exc (Option Dict) :=
  match withRole "sbom_component_evidence" entry.2 with
  | [] => pure none
  | [artifact] => do
    let content ← artifactContent archive entry.1 artifact
    let record ← content.attrs
    validateSbomRecord rt record
    let artifactAlias ← itemOf record "artifact_alias"
    guardE (artifactAlias.pyEq (dget entry.2 "sbom_artifact"))
      (.valueError "SBOM evidence record does not match its manifest")
    pure (some record)
  | _ => throw (.valueError "SBOM evidence requires exactly one component record")

/-- The record of cryptographic controls of a manifest, if it registers one: the first one, where it
registers several.
Source: `reporter.generate_markdown`, the loop over `crypto_records` -/
def cryptoRecord (entry : Entry) : Except Exc (Option Dict) :=
  match withRole "cryptographic_controls_evidence" entry.2 with
  | [] => pure none
  | artifact :: _ => do
    let content ← artifactContent archive entry.1 artifact
    let record ← content.attrs
    validateCryptoRecord rt record
    pure (some record)

/-- `manifest.manifest_sha256 or ""`. -/
def hashKey (manifest : Dict) : Json := orElse (dget manifest "manifest_sha256") (.str "")

/-- The records of one kind, by the hash of their manifest; a later one replaces an earlier one. -/
abbrev Registered := List (Json × Dict)

/-- The records that the manifests register, in order. -/
def registered (record : Entry → Except Exc (Option Dict)) : List Entry → Except Exc Registered
  | [] => pure []
  | entry :: entries => do
    let found ← record entry
    let rest ← registered record entries
    pure ((found.map fun r => (hashKey entry.2, r)).toList ++ rest)

/-- `records.get(key)`. -/
def recordAt (records : Registered) (key : Json) : Option Dict :=
  (records.reverse.find? fun r => r.1.pyEq key).map Prod.snd

/-! ### Findings -/

/-- The manifest a hash names; a later one replaces an earlier one.
Source: `reporter.generate_markdown`, `manifests_by_hash` -/
def namedEntry (entries : List Entry) (hash : Json) : Option Entry :=
  entries.reverse.find? fun entry => (dget entry.2 "manifest_sha256").pyEq hash

/-- Source: `reporter.generate_markdown`, `sbom_risk_allowed` -/
def sbomRiskAllowed (candidate manifest : Dict) : Bool :=
  !(dget manifest "module_name").pyEq (.str "sbom_review") ||
    ((dget candidate "component_presence_only").truthy &&
      (dget candidate "reachability_status").pyEq (.str "verified") &&
      (dget candidate "exploitability_status").pyEq (.str "verified"))

/-- Source: `reporter.generate_markdown`, `crypto_risk_allowed` -/
def cryptoRiskAllowed (cryptoRecords : Registered) (candidate manifest : Dict) : Bool :=
  let record := (recordAt cryptoRecords (hashKey manifest)).getD []
  !(dget manifest "module_name").pyEq (.str "crypto_controls") ||
    !(dget record "weak_algorithm_indicators").truthy ||
    ((dget candidate "crypto_indicator_only").truthy &&
      (dget candidate "crypto_indicator_status").pyEq (.str "verified_weakness"))

/-- Whether a finding enters the report.
Source: `reporter.generate_markdown` -/
def includes (cryptoRecords : Registered) (candidate manifest : Dict) : Except Exc Bool := do
  if (dget candidate "state").pyEq (.str "ready_for_report") then
    let allowed ← reportInclusionAllowed rt archive.toReading candidate (some manifest)
    pure (allowed && sbomRiskAllowed candidate manifest &&
      cryptoRiskAllowed cryptoRecords candidate manifest)
  else pure false

/-- The finding of a file, and whether it enters the report.
Source: `reporter.generate_markdown`, the loop over the findings -/
def judgeFinding (entries : List Entry) (cryptoRecords : Registered) (path : String) :
    Except Exc (Dict × Bool) := do
  let candidate ← loadCandidate rt archive.toReading (archive.utcNow path) path
  let hash := dget candidate "evidence_manifest_sha256"
  guardE hash.hashable .typeError
  match namedEntry entries hash with
  | none => throw (.valueError ("finding " ++ pyStr rt (dget candidate "finding_id") ++
      " references evidence outside the report set"))
  | some entry =>
    let included ← includes rt archive cryptoRecords candidate entry.2
    pure (candidate, included)

/-- What a report is made of. -/
structure ReportDraft where
  entries : List Entry
  panelRecords : Registered
  sbomRecords : Registered
  cryptoRecords : Registered
  judged : List (Dict × Bool)

/-- The findings the report renders.
Source: `reporter.generate_markdown`, `ready_candidates` -/
def ReportDraft.ready (draft : ReportDraft) : List Dict := (draft.judged.filter Prod.snd).map Prod.fst

/-- Source: `reporter.generate_markdown`, up to the text -/
def draftOf : Except Exc ReportDraft := do
  let failures ← verifyEvidenceDirectory rt archive
  guardE failures.isEmpty
    (.valueError ("evidence verification failed: " ++ joinedReasons failures))
  let entries ← loadEntries rt archive
  let panelRecords ← registered (panelRecord rt archive) entries
  let sbomRecords ← registered (sbomRecord rt archive) entries
  let cryptoRecords ← registered (cryptoRecord rt archive) entries
  let judged ← archive.findingPaths.mapM (judgeFinding rt archive entries cryptoRecords)
  pure ⟨entries, panelRecords, sbomRecords, cryptoRecords, judged⟩

/-! ### Text -/

/-- Source: `reporter._text` -/
def reportText (x : Json) : String :=
  strip (String.ofList ((pyStr rt x).toList.map fun c => if c = '\r' ∨ c = '\n' then ' ' else c))

/-- A line of the report: a label and a value. -/
def labelled (label value : String) : String := "- " ++ label ++ ": " ++ value

/-- A value in backticks. -/
def ticked (value : String) : String := String.ofList ['\x60'] ++ value ++ String.ofList ['\x60']

/-- `separator.join(x)`. -/
def joinItems (separator : String) (x : Json) : Except Exc String := do
  let items ← x.iter
  let texts ← allTexts items
  pure (String.intercalate separator texts)

/-- `data.get(key, default)`, as a text of the report. -/
def fieldText (data : Dict) (key : String) (default : Json) : String :=
  reportText rt (dgetD data key default)

/-- Source: `reporter._render_evidence`, the lines of the manifest -/
def manifestLines (data : Dict) : Except Exc (List String) := do
  let mappings := orElse (orElse (dget data "wstg_mapping") (dget data "artifact_mapping")) (.arr [])
  let shown ← if mappings.truthy then joinItems ", " mappings else pure "none recorded"
  pure ["### Case " ++ ticked (fieldText rt data "case_id" (.str "unknown")), "",
    labelled "Verdict" (ticked (fieldText rt data "verifier_verdict" (.str "unknown"))),
    labelled "Target alias" (ticked (fieldText rt data "target_alias" (.str "unknown"))),
    labelled "Module" (ticked (reportText rt (orElse (dget data "module_name")
      (.str "not recorded")))),
    labelled "Tool" (ticked (fieldText rt data "tool" (.str "unknown"))),
    labelled "Confidence" (ticked (fieldText rt data "confidence" (.str "unknown"))),
    labelled "Evidence mappings" (ticked (reportText rt (.str shown))),
    labelled "Redaction" (ticked (fieldText rt data "redaction_status" (.str "unknown"))),
    labelled "Manifest SHA256" (ticked (fieldText rt data "manifest_sha256" (.str "unknown")))]

/-- Source: `reporter._render_evidence`, the lines of a panel record -/
def panelLines (record : Dict) : Except Exc (List String) := do
  let panelAlias ← itemOf record "panel_alias"
  let panelType ← itemOf record "panel_type"
  let networkSilent ← itemOf record "network_silent"
  let requestCount ← itemOf record "request_count"
  let planned ← itemOf record "planned_observations"
  let shown ← joinItems ", " planned
  let status ← itemOf record "report_inclusion_status"
  pure ["", "#### Captured service control panel fields", "",
    labelled "Panel alias" (ticked (reportText rt panelAlias)),
    labelled "Panel type" (ticked (reportText rt panelType)),
    labelled "Network silent" (ticked (pyStr rt networkSilent)),
    labelled "Request count" (ticked (pyStr rt requestCount)),
    labelled "Planned observations" (ticked (reportText rt (.str shown))),
    labelled "Evidence status" (ticked (reportText rt status))]

/-- The lines of one component.
Source: `reporter._render_evidence` -/
def componentLines (component : Json) : Except Exc (List String) := do
  let c ← component.attrs
  let name ← itemOf c "name"
  let version ← itemOf c "version"
  let presence ← itemOf c "presence"
  let reachability ← itemOf c "reachability"
  let exploitability ← itemOf c "exploitability"
  let sha256 ← itemOf c "source_artifact_sha256"
  pure ["- " ++ ticked (reportText rt name) ++ " version " ++ ticked (reportText rt version),
    "  - Presence: " ++ ticked (pyStr rt presence),
    "  - Reachability: " ++ ticked (pyStr rt reachability),
    "  - Exploitability: " ++ ticked (pyStr rt exploitability),
    "  - Source SHA256: " ++ ticked (pyStr rt sha256)]

/-- A line that has to be a text to be joined with the others. -/
def textLine : Json → Except Exc String
  | .str s => pure s
  | _ => throw .typeError

/-- Source: `reporter._render_evidence`, the lines of a component record -/
def sbomLines (record : Dict) : Except Exc (List String) := do
  let components ← itemOf record "components"
  let items ← components.iter
  let shown ← items.mapM (componentLines rt)
  let caveat ← itemOf record "caveat"
  let line ← textLine caveat
  pure (["", "#### Recorded SBOM components", ""] ++ shown.flatten ++ ["", line])

/-- Source: `reporter._render_evidence`, the lines of a record of cryptographic controls -/
def cryptoLines (record : Dict) : Except Exc (List String) := do
  let tlsEvidence ← itemOf record "tls_evidence"
  let tls ← tlsEvidence.attrs
  let cookieAttributes ← itemOf record "cookie_attributes"
  let cookies ← pyLen cookieAttributes
  let tokenConfiguration ← itemOf record "token_configuration"
  let token ← tokenConfiguration.attrs
  let weakIndicators ← itemOf record "weak_algorithm_indicators"
  let indicators ← pyLen weakIndicators
  let privateMaterial ← itemOf record "private_material"
  let caveat ← itemOf record "caveat"
  let line ← textLine caveat
  pure ["", "#### Recorded cryptographic controls", "",
    labelled "TLS protocol" (ticked (reportText rt (dget tls "protocol"))),
    labelled "Certificate signature algorithm"
      (ticked (reportText rt (dget tls "signature_algorithm"))),
    labelled "Cookie attribute records" (ticked (toString cookies)),
    labelled "Token algorithm setting" (ticked (reportText rt (dget token "algorithm"))),
    labelled "Weak algorithm indicators" (ticked (toString indicators)),
    labelled "Private material" (ticked (pyStr rt privateMaterial)), "", line]

/-- The lines of a record that may be missing. -/
def optionalLines (lines : Dict → Except Exc (List String)) :
    Option Dict → Except Exc (List String)
  | none => pure []
  | some record => lines record

/-- Source: `reporter._render_evidence` -/
def renderEvidence (draft : ReportDraft) (entry : Entry) : Except Exc String := do
  let head ← manifestLines rt entry.2
  let panel ← optionalLines (panelLines rt) (recordAt draft.panelRecords (hashKey entry.2))
  let sbom ← optionalLines (sbomLines rt) (recordAt draft.sbomRecords (hashKey entry.2))
  let crypto ← optionalLines (cryptoLines rt) (recordAt draft.cryptoRecords (hashKey entry.2))
  pure (String.intercalate "\n" (head ++ panel ++ sbom ++ crypto))

/-- Source: `reporter._render_candidate` -/
def renderCandidate (candidate : Dict) : String :=
  let shown key := ticked (reportText rt (dget candidate key))
  let plain key := ticked (pyStr rt (dget candidate key))
  String.intercalate "\n"
    ["## " ++ reportText rt (dget candidate "title"), "",
      labelled "Finding ID" (shown "finding_id"), labelled "State" (plain "state"),
      labelled "Target alias" (shown "target_alias"), labelled "Case ID" (shown "case_id"),
      labelled "Severity candidate" (plain "severity_candidate"),
      labelled "Confidence" (plain "confidence"),
      labelled "Evidence strength" (plain "evidence_strength"),
      labelled "Report review required" (plain "report_review_required"),
      labelled "Report review status" (shown "report_review_status"),
      labelled "Report reviewer" (shown "report_reviewer"),
      labelled "Report review SHA256" (shown "report_review_sha256"),
      labelled "Evidence manifest SHA256" (plain "evidence_manifest_sha256"),
      labelled "Fingerprint" (plain "fingerprint"), "", "### Recorded summary", "",
      reportText rt (dget candidate "summary")]

/-- The findings of a report.
Source: `reporter.generate_markdown` -/
def findingLines (draft : ReportDraft) : List String :=
  if draft.ready = [] then
    ["## Finding candidates", "",
      "No evidence-bound candidate has completed human review for report inclusion.", ""]
  else draft.ready.map fun candidate => renderCandidate rt candidate ++ "\n"

/-- Source: `reporter.generate_markdown`, the text -/
def renderReport (draft : ReportDraft) : Except Exc String := do
  let appendix ← draft.entries.mapM (renderEvidence rt draft)
  let lines := ["# AOTP human-review draft", "",
    "This draft is generated only from integrity-verified evidence and report-ready finding " ++
      "candidates. It does not infer vulnerabilities, impact, exploitability, affected assets, " ++
      "or remediation.", "",
    "Verified evidence records: " ++ ticked (toString draft.entries.length),
    "Report-ready findings: " ++ ticked (toString draft.ready.length),
    "Excluded non-ready candidates: " ++
      ticked (toString (draft.judged.length - draft.ready.length)), ""] ++
    findingLines rt draft ++ ["## Evidence appendix", ""] ++ appendix.map (· ++ "\n")
  let body := (String.intercalate "\n" lines).toList
  pure (String.ofList (body.reverse.dropWhile isSpace).reverse ++ "\n")

/-- Source: `reporter.generate_markdown` -/
def generateMarkdown : Except Exc String := do
  let draft ← draftOf rt archive
  renderReport rt draft

end Aotp.Evidence
