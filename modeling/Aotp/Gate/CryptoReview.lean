import Aotp.Gate.Redaction
import Aotp.Gate.BoundedFuzzing

/-!
# Cryptographic controls review

* `cryptoActionIsUnsafe` — the actions the review never performs.
* `cryptoEvidenceErrors` — what is wrong with the evidence an objective provides.
* `buildCryptoRecord`, `validateCryptoRecord` — the evidence record and its check.
-/

namespace Aotp.Gate

open PyData

/-- Source: `crypto_review.CRYPTO_UNSAFE_ACTIONS` -/
def cryptoUnsafeActions : List String :=
  ["decryption_attempt", "destructive_crypto_testing", "key_extraction", "live_crypto_probe",
    "live_tls_probe", "private_key_extraction", "secret_bruteforce", "token_replay"]

/-- Source: `crypto_review.crypto_action_is_unsafe`, the markers -/
def cryptoUnsafeMarkers : List String :=
  ["brute_force", "bruteforce", "decrypt", "destructive", "extract", "live_probe", "live_tls",
    "probe_live", "replay"]

/-- Source: `crypto_review.TLS_FIELDS` -/
def tlsFields : List String :=
  ["protocol", "certificate_subject_alias", "certificate_issuer_alias", "public_key_algorithm",
    "public_key_bits", "signature_algorithm"]

/-- Source: `crypto_review.COOKIE_FIELDS` -/
def cookieFields : List String := ["cookie_alias", "secure", "http_only", "same_site", "host_only"]

/-- Source: `crypto_review.TOKEN_FIELDS` -/
def tokenFields : List String :=
  ["algorithm", "issuer_validation", "audience_validation", "expiration_validation",
    "key_source_alias"]

/-- Source: `crypto_review.KEY_MANAGEMENT_FIELDS` -/
def keyManagementFields : List String :=
  ["provider_alias", "storage_type", "rotation_configured", "private_material_present"]

/-- Source: `crypto_review.FORBIDDEN_KEYS` -/
def forbiddenKeys : List String :=
  ["cookie_value", "key_material", "private_key", "private_key_material", "private_material",
    "raw_cookie", "raw_token", "secret", "token", "token_value", "value"]

variable (rt : Runtime)

/-- Source: `crypto_review.crypto_action_is_unsafe` -/
def cryptoActionIsUnsafe : Json → Bool
  | .str action =>
    let normalized := (rt.lower (strip action)).toList.map fun c => if c = '-' then '_' else c
    cryptoUnsafeActions.contains (String.ofList normalized) ||
      cryptoUnsafeMarkers.any fun marker => decide (marker.toList <:+: normalized)
  | _ => false

/-- `isinstance(x, dict) and set(x) == fields`. -/
def hasFields (fields : List String) : Json → Bool
  | .obj m => sameKeys m fields
  | _ => false

/-- `x is False`. -/
def isFalse : Json → Bool
  | .bool b => !b
  | _ => false

/-- The error of a field that names a path.
Source: `crypto_review.crypto_evidence_errors`, `walk` -/
def pathErrors (key : String) (item : Json) : List String :=
  if endsWithAny key.toList ["_path"] || key == "artifact" || key == "path" then
    match item with
    | .str p =>
      if leavesDirectory p then ["cryptographic evidence path must remain relative"] else []
    | _ => ["cryptographic evidence path must be text"]
  else []

mutual

/-- Source: `crypto_review.crypto_evidence_errors`, `walk` -/
def walkErrors : Json → List String
  | .obj entries =>
    (if (dkeys entries).any (· ∈ forbiddenKeys)
      then ["cryptographic evidence contains forbidden secret fields"] else []) ++
      walkEntries entries
  | .arr items => walkItems items
  | _ => []

def walkEntries : List (String × Json) → List String
  | [] => []
  | (key, item) :: rest => pathErrors key item ++ walkErrors item ++ walkEntries rest

def walkItems : List Json → List String
  | [] => []
  | item :: rest => walkErrors item ++ walkItems rest

end

/-- The error of the redaction checks, as one more reason. -/
def redactionErrors (case : Dict) : List String :=
  match assertRecordRedacted rt (.obj case) with
  | .ok _ => []
  | .error e => [e.text]

/-- The items of a list, none for any other value. -/
def itemsOf : Json → List Json
  | .arr items => items
  | _ => []

/-- `isinstance(x, list)`. -/
def isList : Json → Bool
  | .arr _ => true
  | _ => false

/-- The error of the key management metadata.
Source: `crypto_review.crypto_evidence_errors` -/
def keyManagementErrors : Json → List String
  | .obj m =>
    if !sameKeys m keyManagementFields then
      ["key management metadata is missing or contains unsupported fields"]
    else if isFalse (dget m "private_material_present") then []
    else ["private key material is forbidden"]
  | _ => ["key management metadata is missing or contains unsupported fields"]

/-- What is wrong with the evidence of an objective.
Source: `crypto_review.crypto_evidence_errors` -/
def cryptoEvidenceErrors (case : Dict) : List String :=
  let cookies := dget case "cookie_attributes"
  let indicators := dgetD case "weak_algorithm_indicators" (.arr [])
  fromkeys (
    (if hasFields tlsFields (dget case "tls_evidence") then []
      else ["TLS evidence is missing or contains unsupported fields"]) ++
    (if isList cookies then [] else ["cookie attribute evidence is missing"]) ++
    (if hasFields tokenFields (dget case "token_configuration") then []
      else ["token configuration evidence is missing or contains unsupported fields"]) ++
    (if isList indicators then [] else ["weak algorithm indicators are invalid"]) ++
    keyManagementErrors (dget case "key_management_metadata") ++
    ((itemsOf cookies).filter fun c => !hasFields cookieFields c).map
      (fun _ => "cookie evidence must contain attributes only") ++
    walkErrors (.obj case) ++ redactionErrors rt case)

/-- `isinstance(indicator, dict) and indicator.get("status") == "observation_only"`. -/
def isObservation : Json → Bool
  | .obj m => Json.pyEq (dget m "status") (.str "observation_only")
  | _ => false

/-- Source: `crypto_review.validate_crypto_record` -/
def validateCryptoRecord (record : Dict) : Except Exc Unit := do
  guardE (Json.pyEq (dget record "record_type") (.str "cryptographic_controls_evidence"))
    (.valueError "unsupported cryptographic evidence record")
  guardE (isTrue (dget record "network_silent") && Json.pyEq (dget record "request_count") (.int 0))
    (.valueError "cryptographic review must remain network silent")
  guardE (Json.pyEq (dget record "private_material") (.str "not_collected"))
    (.valueError "private cryptographic material is forbidden")
  let indicators ← (dgetD record "weak_algorithm_indicators" (.arr [])).iter
  guardE (indicators.all isObservation)
    (.valueError "weak algorithm indicators must remain observations")
  assertRecordRedacted rt (.obj record)

/-- The record as it stands before it is checked. -/
def cryptoRecordOf (case : Dict) : Dict :=
  [("schema_version", .str "1.0"),
    ("record_type", .str "cryptographic_controls_evidence"),
    ("case_id", .str (pyStr rt (dgetD case "id" (.str "")))),
    ("tls_evidence", dget case "tls_evidence"),
    ("cookie_attributes", dget case "cookie_attributes"),
    ("token_configuration", dget case "token_configuration"),
    ("weak_algorithm_indicators", dgetD case "weak_algorithm_indicators" (.arr [])),
    ("key_management_metadata", dget case "key_management_metadata"),
    ("network_silent", .bool true),
    ("request_count", .int 0),
    ("private_material", .str "not_collected"),
    ("caveat", .str ("Indicators are observations, not confirmed weaknesses, " ++
      "until evidence and human review establish impact."))]

/-- Source: `crypto_review.build_crypto_record` -/
def buildCryptoRecord (case : Dict) : Except Exc Dict := do
  let errors := cryptoEvidenceErrors rt case
  guardE errors.isEmpty (.valueError (joinedReasons errors))
  validateCryptoRecord rt (cryptoRecordOf rt case)
  pure (cryptoRecordOf rt case)

end Aotp.Gate
