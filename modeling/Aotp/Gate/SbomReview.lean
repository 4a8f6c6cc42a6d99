import Aotp.Gate.CryptoReview

/-!
# Offline review of provided dependency artifacts

* `SbomFile` — what reading an artifact from disk gives.
* `ingestSbomArtifact` — the component record of an artifact, or the error.
* `validateSbomRecord` — the check the record passes when it is built and when it is written.
-/

namespace Aotp.Gate

open PyData

/-- What is found at the path of an artifact.
Source: `sbom_review.ingest_sbom_artifact` -/
inductive SbomFile where
  /-- A symbolic link, or no regular file. -/
  | notRegular
  /-- Over the local size limit. -/
  | tooLarge
  /-- Unreadable, or not JSON. -/
  | notJson
  /-- A document, with the digest of the file's bytes. -/
  | document (content : Json) (sha256 : String)

variable (rt : Runtime)

/-- `_digest(raw)`, with ASCII escapes.
Source: `sbom_review._digest` -/
def sbomDigest (raw : Json) : String := rt.sha256 (raw.dumps rt ⟨true, true⟩)

/-- `isinstance(x, str) and x`. -/
def isNonEmptyText : Json → Bool
  | .str s => s != ""
  | _ => false

/-- The record of one component.
Source: `sbom_review.ingest_sbom_artifact` -/
def sbomComponent (artifactAlias sha256 : String) (index : ℕ) (raw : Json) : Except Exc Json := do
  let .obj m := raw
    | throw (.valueError ("SBOM component " ++ Nat.repr index ++ " is not a mapping"))
  let name := dget m "name"
  let version := dget m "version"
  guardE (isNonEmptyText name && isNonEmptyText version)
    (.valueError ("SBOM component " ++ Nat.repr index ++ " is missing name or version"))
  let purl := dget m "purl"
  pure (.obj [("name", name), ("version", version),
    ("package_url", if purl.text?.isSome then purl else .null),
    ("source_artifact", .str artifactAlias),
    ("source_artifact_sha256", .str sha256),
    ("component_sha256", .str (sbomDigest rt raw)),
    ("presence", .str "observed"),
    ("reachability", .str "not_assessed"),
    ("exploitability", .str "not_assessed"),
    ("vulnerability_mappings", .arr [])])

/-- Source: `sbom_review.VULNERABILITY_MAPPING_CONTRACT` -/
def vulnerabilityMappingContract : Json :=
  .obj [("mode", .str "configured_local_data_source_only"),
    ("network_lookup", .bool false),
    ("required_fields", .arr [.str "source_alias", .str "source_version", .str "source_sha256"]),
    ("automatic_exploitability_claims", .bool false)]

/-- `component.get(field) == []`. -/
def isEmptyList : Json → Bool
  | .arr items => items.isEmpty
  | _ => false

/-- The check of one component against its record.
Source: `sbom_review.validate_sbom_record` -/
def validateSbomComponent (record : Dict) (component : Json) : Except Exc Unit := do
  let c ← component.attrs
  guardE (Json.pyEq (dget c "presence") (.str "observed"))
    (.valueError "SBOM component presence is invalid")
  guardE (Json.pyEq (dget c "reachability") (.str "not_assessed"))
    (.valueError "SBOM reachability cannot be inferred")
  guardE (Json.pyEq (dget c "exploitability") (.str "not_assessed"))
    (.valueError "SBOM exploitability cannot be inferred")
  guardE (isEmptyList (dget c "vulnerability_mappings"))
    (.valueError "SBOM vulnerability mappings require a configured data source")
  guardE (Json.pyEq (dget c "source_artifact") (dget record "artifact_alias"))
    (.valueError "SBOM component source alias is invalid")
  guardE (Json.pyEq (dget c "source_artifact_sha256") (dget record "artifact_sha256"))
    (.valueError "SBOM component source hash is invalid")
  guardE (isDigestText (dget c "source_artifact_sha256"))
    (.valueError "SBOM component source_artifact_sha256 is invalid")
  guardE (isDigestText (dget c "component_sha256"))
    (.valueError "SBOM component component_sha256 is invalid")

/-- The check of every component, in order. -/
def validateSbomComponents (record : Dict) : List Json → Except Exc Unit
  | [] => pure ()
  | component :: rest => do
    validateSbomComponent record component
    validateSbomComponents record rest

/-- Source: `sbom_review.validate_sbom_record` -/
def validateSbomRecord (record : Dict) : Except Exc Unit := do
  guardE (Json.pyEq (dget record "record_type") (.str "sbom_component_evidence") &&
      Json.pyEq (dget record "schema_version") (.str "1.0"))
    (.valueError "unsupported SBOM evidence record")
  let components := dget record "components"
  guardE (isList components &&
      Json.pyEq (dget record "component_count") (.int (itemsOf components).length))
    (.valueError "SBOM component count is invalid")
  guardE (isTrue (dget record "network_silent") && Json.pyEq (dget record "request_count") (.int 0))
    (.valueError "SBOM review must remain network silent")
  validateSbomComponents record (itemsOf components)
  assertValueRedacted rt (.obj record)

/-- The record of an artifact's components, before it is checked. -/
def sbomRecordOf (artifactAlias sha256 : String) (components : List Json) : Dict :=
  [("schema_version", .str "1.0"),
    ("record_type", .str "sbom_component_evidence"),
    ("artifact_alias", .str artifactAlias),
    ("artifact_sha256", .str sha256),
    ("component_count", .int components.length),
    ("components", .arr components),
    ("vulnerability_mapping_contract", vulnerabilityMappingContract),
    ("network_silent", .bool true),
    ("request_count", .int 0),
    ("caveat", .str "Component presence does not establish reachability or exploitability.")]

/-- Source: `sbom_review.ingest_sbom_artifact` -/
def ingestSbomArtifact (file : SbomFile) (artifactAlias : String) : Except Exc Dict :=
  match file with
  | .notRegular =>
    .error (.valueError "provided SBOM artifact must be a regular non-symlink file")
  | .tooLarge => .error (.valueError "provided SBOM artifact exceeds the local size limit")
  | .notJson => .error (.valueError "provided SBOM artifact is not valid JSON")
  | .document content sha256 =>
    match content with
    | .obj document => do
      let .arr raws := dget document "components"
        | throw (.valueError "provided SBOM artifact has no component inventory")
      let components ← mapIdxE (sbomComponent rt artifactAlias sha256) 0 raws
      validateSbomRecord rt (sbomRecordOf artifactAlias sha256 components)
      pure (sbomRecordOf artifactAlias sha256 components)
    | _ => .error (.valueError "provided SBOM artifact has no component inventory")

end Aotp.Gate
