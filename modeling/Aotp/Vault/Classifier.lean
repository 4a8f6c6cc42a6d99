import Aotp.Lib.Regex

/-!
# Classification of sensitive evidence

* `EvidenceClassification` — how sensitive a piece of evidence is; `vaultRequired`, `mayStore` — what
  that means for its storage.
* `classifyText` — the classification of a text by the markers in it and in its context.
-/

namespace Aotp.Vault

open PyData

/-- Source: `evidence_classifier.EvidenceClassification` -/
inductive EvidenceClassification where
  | isPublic
  | restricted
  | secret
  | pocSensitive
  | recipientOnly
  | doNotStore
  deriving DecidableEq, Repr

namespace EvidenceClassification

/-- Source: `evidence_classifier.EvidenceClassification`, the values -/
def value : EvidenceClassification → String
  | isPublic => "public"
  | restricted => "restricted"
  | secret => "secret"
  | pocSensitive => "poc_sensitive"
  | recipientOnly => "recipient_only"
  | doNotStore => "do_not_store"

def all : List EvidenceClassification :=
  [isPublic, restricted, secret, pocSensitive, recipientOnly, doNotStore]

/-- Source: `evidence_classifier._STORAGE_ALLOWED` -/
def mayStore (c : EvidenceClassification) : Bool := c != doNotStore

/-- Source: `evidence_classifier.policy_for_classification`, `vault_required` -/
def vaultRequired (c : EvidenceClassification) : Bool := c != isPublic && c != restricted

theorem value_injective {a b : EvidenceClassification} (h : a.value = b.value) : a = b := by
  cases a <;> cases b <;> first | rfl | (revert h; decide)

end EvidenceClassification

/-- Source: `evidence_classifier.EvidenceClassificationError` -/
def classificationError (msg : String) : Exc := .custom "EvidenceClassificationError" msg

/-- Source: `evidence_classifier.parse_classification`, on a text -/
def parseClassification (value : String) : Except Exc EvidenceClassification :=
  match EvidenceClassification.all.find? fun c => c.value == value with
  | some c => .ok c
  | none => .error (classificationError ("unsupported evidence classification: " ++ value))

/-! ### Markers -/

/-- `[_ -]?` -/
def gap : Re := optional (oneOf "_ -")

/-- `[_-]?` -/
def dash : Re := optional (oneOf "_-")

/-- `[\"\']?` -/
def quote : Re := optional (oneOf "\"'")

/-- `\s*` -/
def blanks : Re := atLeast 0 isSpace

/-- A value of `[A-Za-z0-9._~+/=-]{8,}`. -/
def tokenValue : Re := atLeast 8 (anyCase (alnumOr "._~+/=-"))

/-- Source: `evidence_classifier._SECRET_PATTERNS` -/
def secretPatterns : List (String × Re) :=
  let b := Re.wordBoundary
  let ci := litRe true
  let sign := Re.cls (oneOf ":=")
  let colon := Re.cls (· == ':')
  let ink c := !isSpace c
  [("private_key_marker", seqRe [ci "begin", atLeast 1 isSpace,
      optRe (altRe [seqRe [ci "rsa", atLeast 1 isSpace], seqRe [ci "ec", atLeast 1 isSpace],
        seqRe [ci "openssh", atLeast 1 isSpace]]), ci "private", atLeast 1 isSpace, ci "key"]),
   ("bearer_token", seqRe [ci "authorization", blanks, colon, blanks, ci "bearer",
      atLeast 1 isSpace, tokenValue]),
   ("cookie_header", seqRe [ci "cookie", blanks, colon, blanks, atLeast 1 ink]),
   ("password_assignment", seqRe [b, ci "pass", optRe (ci "word"), b, blanks, sign, blanks,
      atLeast 6 ink]),
   ("api_key_assignment", seqRe [b, ci "api", dash, ci "key", b, blanks, sign, blanks, tokenValue]),
   ("session_identifier", seqRe [b, ci "session", dash, ci "id", b, quote, blanks, sign, blanks,
      quote, tokenValue]),
   ("csrf_token", seqRe [b, ci "csrf", dash, ci "token", b, quote, blanks, sign, blanks, quote,
      tokenValue])]

/-- Source: `evidence_classifier._POC_PATTERNS` -/
def pocPatterns : List (String × Re) :=
  let b := Re.wordBoundary
  let ci := litRe true
  [("poc_material", seqRe [b, altRe [seqRe [ci "proof", gap, ci "of", gap, ci "concept"], ci "poc",
      seqRe [ci "replay", gap, ci "step", optRe (ci "s")]], b]),
   ("exploit_input", seqRe [b, altRe [seqRe [ci "exploit", gap, ci "input"],
      seqRe [ci "validation", gap, ci "payload"]], b])]

/-- Source: `evidence_classifier._RECIPIENT_PATTERNS` -/
def recipientPatterns : List (String × Re) :=
  let b := Re.wordBoundary
  let ci := litRe true
  [("recipient_only_marker", seqRe [b, ci "recipient", gap, ci "only", b]),
   ("triager_private_marker", seqRe [b, ci "triager", gap, ci "private", b])]

/-- Source: `evidence_classifier._DO_NOT_STORE_PATTERNS` -/
def doNotStorePatterns : List (String × Re) :=
  let b := Re.wordBoundary
  let ci := litRe true
  [("do_not_store_marker", seqRe [b, ci "do", gap, ci "not", gap, ci "store", b]),
   ("memory_only_marker", seqRe [b, ci "memory", gap, ci "only", b])]

variable (rt : Runtime)

/-- The names of the patterns that match. -/
def marks (patterns : List (String × Re)) (text : String) : List String :=
  (patterns.filter fun p => p.2.search (isWord rt) text).map Prod.fst

/-- Source: `evidence_classifier.ClassificationResult`, without what `policy_for_classification`
derives from the classification -/
structure ClassificationResult where
  classification : EvidenceClassification
  reasons : List String

/-- The classification the markers of a text call for, the most sensitive ones first.
Source: `evidence_classifier.classify_text`, the branches over the patterns -/
def marked (doNotStore secrets pocs recipients : List String) :
    EvidenceClassification × List String :=
  if doNotStore ≠ [] then (.doNotStore, doNotStore.take 1)
  else
    (if secrets ≠ [] then .secret
      else if pocs ≠ [] then .pocSensitive
      else if recipients ≠ [] then .recipientOnly
      else .isPublic,
    secrets ++ pocs ++ recipients)

/-- Source: `evidence_classifier.classify_text`, on a decoded text -/
def classifyText (text context : String) : ClassificationResult :=
  let haystack := context ++ "\n" ++ text
  let (classification, matched) := marked (marks rt doNotStorePatterns haystack)
    (marks rt secretPatterns haystack) (marks rt pocPatterns haystack)
    (marks rt recipientPatterns haystack)
  if matched = [] ∧ strip context ≠ "" then ⟨.restricted, ["contextual_campaign_evidence"]⟩
  else ⟨classification, if matched = [] then ["no_sensitive_marker"] else matched⟩

end Aotp.Vault
