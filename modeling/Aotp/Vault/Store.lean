import Aotp.Vault.Classifier
import Aotp.Vault.Handles

/-!
# The sensitive vault

* `VaultLibrary` — Fernet, the digest of bytes and their decoding.
* `SensitiveVault` — the files of a vault; `store`, `metadata`, `readRaw`, `appendAccessLog` — its
  operations.
-/

namespace Aotp.Vault

open PyData

abbrev Bytes := List UInt8

/-- What the vault calls but does not define. -/
structure VaultLibrary where
  /-- `Fernet.encrypt`, with the draw of its time and initialisation vector -/
  encrypt : ℕ → Bytes → Bytes
  /-- `Fernet.decrypt`; `none` is `InvalidToken` -/
  decrypt : Bytes → Option Bytes
  /-- `hashlib.sha256(data).hexdigest()` -/
  sha256 : Bytes → String
  /-- `data.decode("utf-8", "replace")` -/
  decode : Bytes → String

/-- Decryption undoes encryption. -/
def VaultLibrary.Inverts (lib : VaultLibrary) : Prop :=
  ∀ draw data, lib.decrypt (lib.encrypt draw data) = some data

/-- Source: `sensitive_vault.SensitiveVaultError` -/
def vaultError (msg : String) : Exc := .custom "SensitiveVaultError" msg

/-- The files of a vault, the last one written first: ciphertext and metadata by handle id, and the
records of the access log. A metadata file is the JSON value that is read back from it.
Source: `sensitive_vault.SensitiveVault` -/
structure SensitiveVault where
  campaignId : String
  ciphertext : List (String × Bytes) := []
  records : List (String × Json) := []
  accessLog : List Json := []

/-- What is handed over to be stored. -/
inductive Payload where
  | bytes (data : Bytes)
  | text (s : String)

/-- `payload.encode("utf-8") if isinstance(payload, str) else bytes(payload)`. -/
def Payload.data : Payload → Bytes
  | bytes data => data
  | text s => s.toUTF8.data.toList

/-- A call of `store`, with what the library answers it: the generated id, the draw of the
encryption and the time. -/
structure StoreCall where
  payload : Payload
  classification : Option String := none
  artifactKind : String
  purpose : String
  metadata : Dict := []
  handleId : String
  draw : ℕ
  now : String

variable (rt : Runtime) (lib : VaultLibrary)

/-- Source: `sensitive_vault._safe_component` -/
def safeName (value field : String) : Except Exc String := do
  guardE (value != "") (vaultError (field ++ " is required"))
  guardE (!(value.toList.any (oneOf "/\\ \t\n\r")) && !(decide ("..".toList <:+: value.toList)))
    (vaultError (field ++ " is not safe"))
  pure value

/-- Source: `sensitive_vault._safe_purpose` -/
def safePurpose (value : String) : Except Exc String := do
  guardE (strip value != "") (vaultError "purpose is required")
  guardE (value.toList.length ≤ 512) (vaultError "purpose is too long")
  pure (strip value)

/-- A mapping without sensitive markers; reading its text back gives the same mapping.
Source: `sensitive_vault._safe_metadata` -/
def safeMetadata (value : Dict) : Except Exc Dict := do
  let classified := classifyText rt ((Json.obj value).dumps rt .spaced) "vault metadata"
  guardE (!classified.classification.vaultRequired)
    (vaultError "vault metadata cannot contain raw sensitive material")
  pure value

/-- The classification something is stored under: the given one, or the one it calls for.
Source: `sensitive_vault.SensitiveVault.store`, `chosen` -/
def chosenClassification (call : StoreCall) : Except Exc EvidenceClassification :=
  match call.classification with
  | some value => parseClassification value
  | none => .ok (classifyText rt (lib.decode call.payload.data)
      (call.artifactKind ++ " " ++ call.purpose)).classification

/-- What `store` checks before it writes anything.
Source: `sensitive_vault.SensitiveVault.store` -/
def checkStore (vault : SensitiveVault) (call : StoreCall) : Except Exc VaultHandle := do
  let chosen ← chosenClassification rt lib call
  guardE chosen.mayStore (vaultError "do_not_store material cannot be persisted")
  guardE (chosen != .isPublic)
    (vaultError "public material belongs in normal evidence, not the sensitive vault")
  let kind ← safeName call.artifactKind "artifact_kind"
  let _ ← safeMetadata rt call.metadata
  VaultHandle.make vault.campaignId call.handleId chosen.value kind

/-- The metadata of a stored payload.
Source: `sensitive_vault.VaultRecord.as_dict` -/
def recordOf (handle : VaultHandle) (call : StoreCall) (purpose : String) (token : Bytes) : Dict :=
  [("schema_version", .str "1.0"), ("handle", .obj handle.asDict), ("created_at_utc", .str call.now),
    ("classification", .str handle.classification), ("artifact_kind", .str handle.artifactKind),
    ("purpose", .str purpose), ("plaintext_sha256", .str (lib.sha256 call.payload.data)),
    ("plaintext_size_bytes", .int call.payload.data.length),
    ("ciphertext_sha256", .str (lib.sha256 token)), ("metadata", .obj call.metadata)]

/-- The vault after a call, and the handle it returns. The ciphertext is written before the purpose
is checked.
Source: `sensitive_vault.SensitiveVault.store` -/
def store (vault : SensitiveVault) (call : StoreCall) : SensitiveVault × Except Exc VaultHandle :=
  match checkStore rt lib vault call with
  | .error e => (vault, .error e)
  | .ok handle =>
    let token := lib.encrypt call.draw call.payload.data
    let written := { vault with ciphertext := (handle.handleId, token) :: vault.ciphertext }
    match safePurpose call.purpose with
    | .error e => (written, .error e)
    | .ok purpose =>
      ({ written with
        records := (handle.handleId, .obj (recordOf lib handle call purpose token)) :: vault.records },
       .ok handle)

/-! ### Reading -/

/-- How a caller names a stored payload. -/
inductive HandleRef where
  | handle (h : VaultHandle)
  | uri (s : String)

/-- `parse_vault_handle(handle) if isinstance(handle, str) else handle`. -/
def HandleRef.parsed : HandleRef → Except Exc VaultHandle
  | handle h => .ok h
  | uri s => parseVaultHandle s

/-- Source: `sensitive_vault.SensitiveVault._validate_handle` -/
def validateHandle (vault : SensitiveVault) (ref : HandleRef) : Except Exc VaultHandle := do
  let parsed ← ref.parsed
  guardE (parsed.campaignId == vault.campaignId)
    (vaultError "vault handle belongs to a different campaign")
  pure parsed

/-- `x[key]`. -/
def item (x : Json) (key : String) : Except Exc Json :=
  match x with
  | .obj m =>
    match dget? m key with
    | some v => .ok v
    | none => .error (.keyError key)
  | _ => .error .typeError

/-- `parse_vault_handle(x)`, which is no handle unless `x` is a text. -/
def parseHandleValue : Json → Except Exc VaultHandle
  | .str s => parseVaultHandle s
  | _ => .error (handleError "vault handle must use the vault:// scheme")

/-- `dict(x)`, as far as it raises: a mapping, or pairs, or nothing. -/
def dictOf (x : Json) : Except Exc Json :=
  match x with
  | .obj _ => .ok x
  | .arr items =>
    if items.all fun pair => match pair with
      | .arr [key, _] => key.hashable
      | .str s => s.toList.length == 2
      | .obj m => m.length == 2
      | _ => false
    then .ok x else .error (.valueError "dictionary update sequence is invalid")
  | .str s => if s = "" then .ok x else .error (.valueError "dictionary update sequence is invalid")
  | _ => .error .typeError

/-- Source: `sensitive_vault.VaultRecord`, as `metadata` reads it -/
structure VaultRecord where
  handle : VaultHandle
  createdAtUtc : Json
  classification : Json
  artifactKind : Json
  purpose : Json
  plaintextSha256 : Json
  plaintextSizeBytes : Json
  ciphertextSha256 : Json
  metadata : Json

/-- The record in the metadata file of a handle.
Source: `sensitive_vault.SensitiveVault.metadata`, after the file is read -/
def readRecord (parsed : VaultHandle) (data : Json) : Except Exc VaultRecord := do
  let m ← data.attrs
  guardE ((dget m "schema_version").pyEq (.str "1.0"))
    (vaultError "unsupported vault metadata schema")
  let named ← item data "handle"
  let uri ← item named "uri"
  let recordHandle ← parseHandleValue uri
  guardE (recordHandle == parsed) (vaultError "vault metadata handle mismatch")
  let createdAtUtc ← item data "created_at_utc"
  let classification ← item data "classification"
  let artifactKind ← item data "artifact_kind"
  let purpose ← item data "purpose"
  let plaintextSha256 ← item data "plaintext_sha256"
  let plaintextSizeBytes ← item data "plaintext_size_bytes"
  let ciphertextSha256 ← item data "ciphertext_sha256"
  let metadata ← dictOf (dgetD m "metadata" (.obj []))
  pure ⟨recordHandle, createdAtUtc, classification, artifactKind, purpose, plaintextSha256,
    plaintextSizeBytes, ciphertextSha256, metadata⟩

/-- Source: `sensitive_vault.SensitiveVault.metadata` -/
def metadata (vault : SensitiveVault) (ref : HandleRef) : Except Exc VaultRecord := do
  let parsed ← validateHandle vault ref
  match vault.records.lookup parsed.handleId with
  | none => throw (vaultError "vault metadata cannot be read")
  | some data => readRecord parsed data

/-- The payload of a ciphertext file, checked against its record.
Source: `sensitive_vault.SensitiveVault.read_raw`, after the metadata is read -/
def openPayload (record : VaultRecord) : Option Bytes → Except Exc Bytes
  | none => throw .osError
  | some token => do
    guardE (record.ciphertextSha256.pyEq (.str (lib.sha256 token)))
      (vaultError "vault ciphertext integrity check failed")
    match lib.decrypt token with
    | none => throw (vaultError "vault ciphertext authentication failed")
    | some payload => do
      guardE (record.plaintextSha256.pyEq (.str (lib.sha256 payload)))
        (vaultError "vault plaintext digest mismatch")
      pure payload

/-- Source: `sensitive_vault.SensitiveVault.read_raw` -/
def readRaw (vault : SensitiveVault) (ref : HandleRef) : Except Exc Bytes := do
  let parsed ← validateHandle vault ref
  let record ← metadata vault (.handle parsed)
  openPayload lib record (vault.ciphertext.lookup parsed.handleId)

/-- The vault with one more record in its access log.
Source: `sensitive_vault.SensitiveVault.append_access_log`; the records appended here carry their
own schema version and time -/
def appendAccessLog (vault : SensitiveVault) (record : Dict) : Except Exc SensitiveVault := do
  let safe ← safeMetadata rt record
  pure { vault with accessLog := vault.accessLog ++ [.obj safe] }

end Aotp.Vault
