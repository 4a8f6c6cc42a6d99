import Aotp.Lib.Regex

/-!
# The redaction check at every output boundary

* `patterns` — the secret patterns; `findings` — the names of those that match a text.
* `sensitiveKey` — whether a field name announces a secret.
* `scanValue` — every finding in a JSON value, by path, kind and digest.
* `assertRedacted`, `assertValueRedacted` — the two checks an evidence record must pass.
-/

namespace Aotp.Gate

open PyData

/-- The Python class a secret pattern is searched with: name and expression.
Source: `redaction.PATTERNS` -/
def patterns : List (String × Re) :=
  let b := Re.wordBoundary
  let ws := atLeast 0 isSpace
  let sign := Re.cls (oneOf ":=")
  let dashed := optional (oneOf "_-")
  let ci := litRe true
  let cs := litRe false
  [("aws_access_key", seqRe [b, cs "AKIA", exactly 16 fun c => isDigitChar c || isUpperChar c, b]),
   ("api_key", seqRe [b, altRe [seqRe [ci "api", dashed, ci "key"], ci "token"], ws, sign, ws,
      atLeast 12 (anyCase (alnumOr "_./+-"))]),
   ("bearer_token", seqRe [b, ci "bearer", atLeast 1 isSpace,
      atLeast 8 (anyCase (alnumOr "._~+/=-"))]),
   ("cookie", seqRe [b, altRe [ci "cookie", ci "set-cookie"], ws, .cls (· == ':'), ws,
      atLeast 1 fun c => c != '\r' && c != '\n']),
   ("session_id", seqRe [b, altRe [seqRe [ci "session", dashed, ci "id"], ci "sid"], ws, sign, ws,
      atLeast 8 (anyCase (alnumOr "._~+/=-"))]),
   ("private_key", seqRe [cs "-----BEGIN ", optRe (altRe [cs "RSA ", cs "EC ", cs "OPENSSH "]),
      cs "PRIVATE KEY-----"]),
   ("email_address", seqRe [b, atLeast 1 (anyCase (alnumOr "._%+-")), .cls (· == '@'),
      atLeast 1 (anyCase (alnumOr ".-")), .cls (· == '.'), atLeast 2 (anyCase isLowerChar), b]),
   ("github_token", seqRe [b, cs "gh", .cls (oneOf "pousr"), .cls (· == '_'),
      atLeast 20 isAlnumChar, b]),
   ("jwt", seqRe [b, cs "eyJ", atLeast 5 (alnumOr "_-"), .cls (· == '.'), atLeast 5 (alnumOr "_-"),
      .cls (· == '.'), atLeast 5 (alnumOr "_-"), b]),
   ("basic_authorization", seqRe [b, ci "basic", atLeast 1 isSpace,
      atLeast 8 (anyCase (alnumOr "+/="))]),
   ("password", seqRe [b, altRe [ci "password", ci "passwd", ci "pwd"], ws, sign, ws,
      atLeast 4 fun c => !isSpace c])]

/-- Source: `redaction.SENSITIVE_KEYS` -/
def sensitiveKeys : List String :=
  ["access_token", "api_key", "authorization", "bearer", "client_secret", "cookie", "cookie_value",
    "credential", "credentials", "csrf", "id_token", "password", "private_key",
    "private_key_material", "raw_cookie", "raw_token", "refresh_token", "secret", "secret_key",
    "session", "session_cookie", "session_id", "token", "token_value"]

/-- A place where a value holds what it should not.
Source: `redaction.RedactionFinding` -/
structure RedactionFinding where
  path : String
  kind : String
  valueSha256 : String
  deriving DecidableEq, Repr

variable (rt : Runtime)

/-- The kinds of secret a text holds, sorted.
Source: `redaction.findings` -/
def findings (text : String) : List String :=
  sortedTexts ((patterns.filter fun p => p.2.search (isWord rt) text).map Prod.fst)

/-- Source: `redaction.assert_redacted` -/
def assertRedacted (text : String) : Except Exc Unit :=
  let kinds := findings rt text
  guardE kinds.isEmpty (.valueError ("redaction check failed: " ++ joined kinds))

/-- `s.endswith(suffixes)`. -/
def endsWithAny (s : List Char) (suffixes : List String) : Bool :=
  suffixes.any fun suffix => suffix.toList.isSuffixOf s

/-- Whether a field name announces a secret; references, aliases and digests do not.
Source: `redaction._sensitive_key` -/
def sensitiveKey (key : String) : Bool :=
  let normalized := (rt.lower key).toList.map fun c => if c = '-' then '_' else c
  if endsWithAny normalized ["_reference", "_alias", "_status", "_hash", "_sha256"] then false
  else sensitiveKeys.contains (String.ofList normalized) ||
    endsWithAny normalized ["_access_token", "_client_secret", "_cookie_value", "_credential",
      "_password", "_private_key", "_private_key_material", "_raw_cookie", "_raw_token",
      "_refresh_token", "_secret", "_secret_key", "_session_cookie", "_token_value"]

/-- Source: `redaction._redacted_placeholder` -/
def redactedPlaceholder : Json → Bool
  | .str s => "[REDACTED".toList.isPrefixOf s.toList && "]".toList.isSuffixOf s.toList
  | _ => false

/-- `item in (None, "", [], {})`. -/
def isEmptyValue : Json → Bool
  | .null => true
  | .str s => s == ""
  | .arr items => items.isEmpty
  | .obj entries => entries.isEmpty
  | _ => false

/-- The order of findings: by path, then kind, then digest. -/
def RedactionFinding.le (a b : RedactionFinding) : Bool :=
  if a.path ≠ b.path then decide (a.path ≤ b.path)
  else if a.kind ≠ b.kind then decide (a.kind ≤ b.kind)
  else decide (a.valueSha256 ≤ b.valueSha256)

/-- `sorted(set(results), key=…)`. -/
def sortFindings (results : List RedactionFinding) : List RedactionFinding :=
  (fromkeys results).insertionSort fun a b => a.le b = true

/-- The findings of one text. -/
def scanText (text path : String) : List RedactionFinding :=
  patterns.flatMap fun p =>
    (p.2.finditer (isWord rt) text).map fun m => ⟨path, p.1, rt.sha256 m⟩

/-- The findings of one field name, and of its value when the name announces a secret. -/
def scanKey (path key : String) (item : Json) : String × List RedactionFinding :=
  let keyMatches := findings rt key
  let itemPath := if keyMatches.isEmpty then path ++ "." ++ key else path ++ ".[redacted-key]"
  let inKey := keyMatches.map fun kind => ⟨path ++ ".[redacted-key]", kind, rt.sha256 key⟩
  let inField := if sensitiveKey rt key && !isEmptyValue item && !redactedPlaceholder item
    then [⟨itemPath, "sensitive_field", rt.sha256 (pyStr rt item)⟩] else []
  (itemPath, inKey ++ inField)

mutual

/-- Every finding in a value.
Source: `redaction.scan_value` -/
def scanValue : Json → String → List RedactionFinding
  | .obj entries, path => sortFindings (scanEntries entries path)
  | .arr items, path => sortFindings (scanItems 0 items path)
  | .str s, path => sortFindings (scanText rt s path)
  | _, _ => []

def scanEntries : List (String × Json) → String → List RedactionFinding
  | [], _ => []
  | (key, item) :: rest, path =>
    let (itemPath, here) := scanKey rt path key item
    here ++ scanValue item itemPath ++ scanEntries rest path

def scanItems : ℕ → List Json → String → List RedactionFinding
  | _, [], _ => []
  | i, item :: rest, path =>
    scanValue item (path ++ "[" ++ Nat.repr i ++ "]") ++ scanItems (i + 1) rest path

end

/-- Source: `redaction.assert_value_redacted` -/
def assertValueRedacted (value : Json) : Except Exc Unit :=
  let found := scanValue rt value "$"
  guardE found.isEmpty (.valueError ("redaction check failed: " ++
    joined (found.map fun m => m.path ++ ":" ++ m.kind)))

/-- Both checks an evidence record passes before it is written: over its text and over its
values. -/
def assertRecordRedacted (record : Json) : Except Exc Unit := do
  assertRedacted rt (record.dumps rt .spaced)
  assertValueRedacted rt record

/-- The redactor finds nothing in a record. -/
def RedactorSilent (record : Json) : Prop := assertRecordRedacted rt record = .ok ()

end Aotp.Gate
