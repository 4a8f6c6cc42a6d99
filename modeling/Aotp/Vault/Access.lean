import Aotp.Vault.RoundTrip

/-!
# Audited reads of vault material

* `readVaultMaterial` — a read under a context and the rules of engagement, with what it appends to
  the access log.
* `verdictOf` — what the checks decide before anything is logged; `verdictRecord` — the record of it.
* `Decides` — the same, as a relation; `verdictOf_eq_ok`.
* `Audited` — the read appends one record that agrees with its outcome, and an approved read of
  intact material succeeds.
* `readAudited_iff` — **a read is audited exactly where the checks come to a decision** and the record of
  it can be written.
-/

namespace Aotp.Vault

open PyData

/-- Source: `agent_vault_access.VaultAccessContext`, with what `__post_init__` asks of it -/
structure VaultAccessContext where
  campaignId : String
  targetAlias : String
  identity : String
  purpose : String
  approvedClassifications : List EvidenceClassification
  approvalReference : Option String := none
  complete : campaignId ≠ "" ∧ targetAlias ≠ "" ∧ identity ≠ "" ∧ purpose ≠ ""

/-- The rules of engagement, with the fields a read consults.
Source: `roe.RulesOfEngagement` -/
structure ActiveRoe where
  campaignId : String
  targetAlias : String
  operatorApproved : Bool := true

/-- Source: `agent_vault_access.AgentVaultAccessDenied`, which is no `ValueError` -/
inductive ReadError where
  | denied (msg : String)
  | raised (e : Exc)
  deriving DecidableEq

/-- Source: `agent_vault_access.VaultReadResult` -/
structure VaultReadResult where
  handle : VaultHandle
  payload : Bytes
  auditRecord : Dict

/-- The reasons against a read of any handle.
Source: `agent_vault_access._denial_reasons` -/
def denialReasons (handle : VaultHandle) (context : VaultAccessContext) (roe : ActiveRoe) :
    List String :=
  (if context.campaignId ≠ roe.campaignId ∨ handle.campaignId ≠ roe.campaignId then
    ["vault access campaign does not match active ROE"] else []) ++
  (if context.targetAlias ≠ roe.targetAlias then
    ["vault access target does not match active ROE"] else []) ++
  (if roe.operatorApproved then [] else ["operator approval is required before vault access"])

/-- What a read decides. -/
inductive Verdict where
  | denied (reasons : List String)
  | allowed (payload : Bytes)

/-- The `decision` of its audit record. -/
def Verdict.decision : Verdict → String
  | denied _ => "denied"
  | allowed _ => "allowed"

/-- The `reasons` of its audit record. -/
def Verdict.reasons : Verdict → List String
  | denied reasons => reasons
  | allowed _ => []

/-- Source: `agent_vault_access._audit_record` -/
def auditRecord (now : String) (handle : VaultHandle) (context : VaultAccessContext)
    (roe : ActiveRoe) (decision : String) (reasons : List String) : Dict :=
  [("schema_version", .str "1.0"), ("timestamp_utc", .str now),
    ("campaign_id", .str context.campaignId), ("active_campaign_id", .str roe.campaignId),
    ("target_alias", .str context.targetAlias), ("active_target_alias", .str roe.targetAlias),
    ("identity", .str context.identity), ("purpose", .str context.purpose),
    ("handle", .str handle.uri), ("classification", .str handle.classification),
    ("decision", .str decision), ("reasons", .arr (reasons.map .str)),
    ("approval_reference", match context.approvalReference with
      | some reference => .str reference
      | none => .null)]

/-- The audit record of a verdict. -/
def verdictRecord (now : String) (handle : VaultHandle) (context : VaultAccessContext)
    (roe : ActiveRoe) (verdict : Verdict) : Dict :=
  auditRecord now handle context roe verdict.decision verdict.reasons

/-- `parse_classification(metadata.classification)`. -/
def recordedClassification : Json → Except Exc EvidenceClassification
  | .str s => parseClassification s
  | _ => .error (classificationError "unsupported evidence classification")

/-- The classifications that need an approval reference besides.
Source: `agent_vault_access.read_vault_material` -/
def needsReference (c : EvidenceClassification) : Bool := c == .pocSensitive || c == .recipientOnly

/-- The context carries an approval reference. -/
def VaultAccessContext.hasReference (context : VaultAccessContext) : Bool :=
  context.approvalReference.any fun reference => strip reference != ""

variable (rt : Runtime) (lib : VaultLibrary)

/-- `except SensitiveVaultError as exc: raise AgentVaultAccessDenied(str(exc))`. -/
def payloadOrError (payload : Except Exc Bytes) : Except ReadError Verdict :=
  match payload with
  | .ok data => .ok (.allowed data)
  | .error (.custom "SensitiveVaultError" msg) => .error (.denied msg)
  | .error e => .error (.raised e)

/-- What the checks decide before the decision is logged: a verdict, or an exception that is not
logged.
Source: `agent_vault_access.read_vault_material` -/
def verdictOf (vault : SensitiveVault) (handle : VaultHandle) (context : VaultAccessContext)
    (roe : ActiveRoe) : Except ReadError Verdict :=
  if denialReasons handle context roe ≠ [] then .ok (.denied (denialReasons handle context roe))
  else
    match metadata vault (.handle handle) with
    | .error e => .error (.raised e)
    | .ok record =>
      match recordedClassification record.classification with
      | .error e => .error (.raised e)
      | .ok classification =>
        if classification ∉ context.approvedClassifications then
          .ok (.denied ["vault classification is not approved for this context"])
        else if needsReference classification && !context.hasReference then
          .ok (.denied ["human approval reference is required for this vault classification"])
        else payloadOrError (readRaw lib vault (.handle handle))

/-- The outcome of a verdict that has been logged. -/
def outcome (handle : VaultHandle) (record : Dict) : Verdict → Except ReadError VaultReadResult
  | .denied reasons => .error (.denied (joinedReasons reasons))
  | .allowed payload => .ok ⟨handle, payload, record⟩

/-- **A read of vault material**: the vault it leaves, and its outcome.
Source: `agent_vault_access.read_vault_material`, after the handle is parsed -/
def readMaterial (vault : SensitiveVault) (now : String) (handle : VaultHandle)
    (context : VaultAccessContext) (roe : ActiveRoe) :
    SensitiveVault × Except ReadError VaultReadResult :=
  match verdictOf lib vault handle context roe with
  | .error e => (vault, .error e)
  | .ok verdict =>
    let record := verdictRecord now handle context roe verdict
    match appendAccessLog rt vault record with
    | .error e => (vault, .error (.raised e))
    | .ok logged => (logged, outcome handle record verdict)

/-- Source: `agent_vault_access.read_vault_material` -/
def readVaultMaterial (vault : SensitiveVault) (now : String) (ref : HandleRef)
    (context : VaultAccessContext) (roe : ActiveRoe) :
    SensitiveVault × Except ReadError VaultReadResult :=
  match ref.parsed with
  | .error e => (vault, .error (.raised e))
  | .ok handle => readMaterial rt lib vault now handle context roe

/-! ### Audit -/

/-- The decision of a record agrees with an outcome. -/
def Agrees (record : Dict) : Except ReadError VaultReadResult → Prop
  | .ok _ => dget record "decision" = .str "allowed"
  | .error (.denied _) => dget record "decision" = .str "denied"
  | .error (.raised _) => False

/-- The policy lets a context read a handle. -/
structure PolicyMet (vault : SensitiveVault) (handle : VaultHandle) (context : VaultAccessContext)
    (roe : ActiveRoe) : Prop where
  boundary : denialReasons handle context roe = []
  approved : ∃ record classification, metadata vault (.handle handle) = .ok record ∧
    recordedClassification record.classification = .ok classification ∧
    classification ∈ context.approvedClassifications ∧
    (needsReference classification = true → context.hasReference = true)

/-- A read is audited: it appends exactly one record, whose decision agrees with the outcome; a
payload comes with an allowed record; and where the policy is met and the material intact, the
payload is returned. -/
structure Audited (vault : SensitiveVault) (now : String) (ref : HandleRef)
    (context : VaultAccessContext) (roe : ActiveRoe) : Prop where
  logged : ∃ record,
    (readVaultMaterial rt lib vault now ref context roe).1.accessLog =
      vault.accessLog ++ [.obj record] ∧
    Agrees record (readVaultMaterial rt lib vault now ref context roe).2
  allowed : ∀ result, (readVaultMaterial rt lib vault now ref context roe).2 = .ok result →
    (readVaultMaterial rt lib vault now ref context roe).1.accessLog =
      vault.accessLog ++ [.obj result.auditRecord] ∧
    dget result.auditRecord "decision" = .str "allowed"
  served : ∀ handle call, ref.parsed = .ok handle → PolicyMet vault handle context roe →
    Intact lib vault handle call →
    ∃ result, (readVaultMaterial rt lib vault now ref context roe).2 = .ok result ∧
      result.payload = call.payload.data

/-- What the policy, the record and the material of a handle decide. -/
inductive Decides (vault : SensitiveVault) (handle : VaultHandle) (context : VaultAccessContext)
    (roe : ActiveRoe) : Verdict → Prop
  | boundary (hdenied : denialReasons handle context roe ≠ []) :
      Decides vault handle context roe (.denied (denialReasons handle context roe))
  | unapproved {record : VaultRecord} {classification : EvidenceClassification}
      (hboundary : denialReasons handle context roe = [])
      (hmetadata : metadata vault (.handle handle) = .ok record)
      (hclass : recordedClassification record.classification = .ok classification)
      (hnot : classification ∉ context.approvedClassifications) :
      Decides vault handle context roe
        (.denied ["vault classification is not approved for this context"])
  | unreferenced {record : VaultRecord} {classification : EvidenceClassification}
      (hboundary : denialReasons handle context roe = [])
      (hmetadata : metadata vault (.handle handle) = .ok record)
      (hclass : recordedClassification record.classification = .ok classification)
      (happroved : classification ∈ context.approvedClassifications)
      (hneeds : needsReference classification = true) (hnone : context.hasReference = false) :
      Decides vault handle context roe
        (.denied ["human approval reference is required for this vault classification"])
  | allowed {payload : Bytes} (hpolicy : PolicyMet vault handle context roe)
      (hread : readRaw lib vault (.handle handle) = .ok payload) :
      Decides vault handle context roe (.allowed payload)

/-- A record without a marker that would send it to the vault. -/
def Loggable (record : Dict) : Prop :=
  (classifyText rt ((Json.obj record).dumps rt .spaced) "vault metadata").classification.vaultRequired
    = false

variable {rt : Runtime} {lib : VaultLibrary} {vault : SensitiveVault} {now : String}
  {ref : HandleRef} {handle : VaultHandle} {context : VaultAccessContext} {roe : ActiveRoe}

theorem appendAccessLog_cases (record : Dict) :
    (Loggable rt record ∧ appendAccessLog rt vault record =
      .ok { vault with accessLog := vault.accessLog ++ [.obj record] }) ∨
    (¬ Loggable rt record ∧ ∃ e, appendAccessLog rt vault record = .error e) := by
  unfold Loggable
  cases hrequired : (classifyText rt ((Json.obj record).dumps rt .spaced)
      "vault metadata").classification.vaultRequired with
  | false =>
    refine .inl ⟨rfl, ?_⟩
    simp [appendAccessLog, safeMetadata, hrequired, guardE, bind, Except.bind, pure, Except.pure]
  | true =>
    refine .inr ⟨Bool.noConfusion, vaultError "vault metadata cannot contain raw sensitive material",
      ?_⟩
    simp [appendAccessLog, safeMetadata, hrequired, guardE, bind, Except.bind]

theorem readVaultMaterial_of_parsed (hparsed : ref.parsed = .ok handle) :
    readVaultMaterial rt lib vault now ref context roe =
      readMaterial rt lib vault now handle context roe := by
  unfold readVaultMaterial
  rw [hparsed]

/-- **The verdict is what the policy, the record and the material decide.** -/
theorem verdictOf_eq_ok {verdict : Verdict} :
    verdictOf lib vault handle context roe = .ok verdict ↔
      Decides lib vault handle context roe verdict := by
  constructor
  · intro hverdict
    unfold verdictOf at hverdict
    by_cases hboundary : denialReasons handle context roe = []
    · rw [if_neg (by simpa using hboundary)] at hverdict
      cases hmetadata : metadata vault (.handle handle) with
      | error e =>
        rw [hmetadata] at hverdict
        cases hverdict
      | ok record =>
        rw [hmetadata] at hverdict
        simp only at hverdict
        cases hclass : recordedClassification record.classification with
        | error e =>
          rw [hclass] at hverdict
          cases hverdict
        | ok classification =>
          rw [hclass] at hverdict
          simp only at hverdict
          by_cases happroved : classification ∈ context.approvedClassifications
          · rw [if_neg (by simpa using happroved)] at hverdict
            by_cases hunmet : (needsReference classification && !context.hasReference) = true
            · rw [if_pos hunmet] at hverdict
              cases hverdict
              simp only [Bool.and_eq_true, Bool.not_eq_true'] at hunmet
              exact .unreferenced hboundary hmetadata hclass happroved hunmet.1 hunmet.2
            · rw [if_neg hunmet] at hverdict
              have hreference : needsReference classification = true →
                  context.hasReference = true := by
                intro hneeds
                simpa [hneeds] using hunmet
              cases hread : readRaw lib vault (.handle handle) with
              | error e =>
                rw [hread] at hverdict
                unfold payloadOrError at hverdict
                split at hverdict <;> cases hverdict
                cases ‹Except.error e = Except.ok _›
              | ok payload =>
                rw [hread] at hverdict
                cases hverdict
                exact .allowed ⟨hboundary, record, classification, hmetadata, hclass, happroved,
                  hreference⟩ hread
          · rw [if_pos happroved] at hverdict
            cases hverdict
            exact .unapproved hboundary hmetadata hclass happroved
    · rw [if_pos hboundary] at hverdict
      cases hverdict
      exact .boundary hboundary
  · intro hdecides
    unfold verdictOf
    cases hdecides with
    | boundary hdenied => rw [if_pos hdenied]
    | unapproved hboundary hmetadata hclass hnot =>
      rw [if_neg (by simpa using hboundary), hmetadata]
      simp only
      rw [hclass]
      simp only
      rw [if_pos hnot]
    | unreferenced hboundary hmetadata hclass happroved hneeds hnone =>
      rw [if_neg (by simpa using hboundary), hmetadata]
      simp only
      rw [hclass]
      simp only
      rw [if_neg (by simpa using happroved), if_pos (by simp [hneeds, hnone])]
    | allowed hpolicy hread =>
      obtain ⟨hboundary, record, classification, hmetadata, hclass, happroved, hreference⟩ :=
        hpolicy
      have hmet : ¬ (needsReference classification && !context.hasReference) = true := by
        cases hneeds : needsReference classification with
        | false => simp
        | true => simp [hreference hneeds]
      rw [if_neg (by simpa using hboundary), hmetadata]
      simp only
      rw [hclass]
      simp only
      rw [if_neg (by simpa using happroved), if_neg hmet, hread]
      rfl

/-- A read that ends with one more record came to a verdict, and the record of it could be
written. -/
theorem decided_of_logged {record : Dict}
    (hlog : (readMaterial rt lib vault now handle context roe).1.accessLog =
      vault.accessLog ++ [.obj record]) :
    ∃ verdict, Decides lib vault handle context roe verdict ∧
      Loggable rt (verdictRecord now handle context roe verdict) := by
  unfold readMaterial at hlog
  cases hverdict : verdictOf lib vault handle context roe with
  | error e =>
    rw [hverdict] at hlog
    exact absurd hlog (by simp)
  | ok verdict =>
    refine ⟨verdict, verdictOf_eq_ok.mp hverdict, ?_⟩
    rw [hverdict] at hlog
    simp only at hlog
    rcases appendAccessLog_cases (verdictRecord now handle context roe verdict) with
      ⟨hloggable, -⟩ | ⟨-, e, happend⟩
    · exact hloggable
    · rw [happend] at hlog
      exact absurd hlog (by simp)

/-- The run of a read whose verdict could be logged. -/
theorem readMaterial_of_loggable {verdict : Verdict}
    (hdecides : Decides lib vault handle context roe verdict)
    (hloggable : Loggable rt (verdictRecord now handle context roe verdict)) :
    readMaterial rt lib vault now handle context roe =
      ({ vault with accessLog := vault.accessLog ++
          [.obj (verdictRecord now handle context roe verdict)] },
        outcome handle (verdictRecord now handle context roe verdict) verdict) := by
  have happend : appendAccessLog rt vault (verdictRecord now handle context roe verdict) =
      .ok { vault with accessLog := vault.accessLog ++
        [.obj (verdictRecord now handle context roe verdict)] } := by
    rcases appendAccessLog_cases (verdictRecord now handle context roe verdict) with
      ⟨-, happend⟩ | ⟨hnot, -⟩
    · exact happend
    · exact absurd hloggable hnot
  unfold readMaterial
  rw [verdictOf_eq_ok.mpr hdecides]
  simp only
  rw [happend]

/-- The operator's context for the sample payloads. -/
def sampleContext (classification : EvidenceClassification) : VaultAccessContext where
  campaignId := "campaign-1"
  targetAlias := "target-1"
  identity := "operator-1"
  purpose := "triage"
  approvedClassifications := [classification]
  approvalReference := some "approval-1"
  complete := by decide

def sampleRoe : ActiveRoe where
  campaignId := "campaign-1"
  targetAlias := "target-1"

/-- The vault after the password is stored. -/
def sampleVault : SensitiveVault :=
  (store asciiRuntime sampleLibrary { campaignId := "campaign-1" } sampleCall).1

/-- The same payload, stored for its recipient only. -/
def sharedCall : StoreCall := { sampleCall with classification := some "recipient_only" }

def sharedHandle : VaultHandle where
  campaignId := "campaign-1"
  handleId := "0123456789abcdef0123456789abcdef"
  classification := "recipient_only"
  artifactKind := "capture"
  campaign_safe := sampleHandle.campaign_safe
  classification_safe := by decide
  kind_safe := sampleHandle.kind_safe
  id_hex := sampleHandle.id_hex

def sharedVault : SensitiveVault :=
  (store asciiRuntime sampleLibrary { campaignId := "campaign-1" } sharedCall).1

/-- A text with a marker of material for its recipient belongs in the vault. -/
theorem vaultRequired_of_recipient {text context : String}
    (h : marks rt recipientPatterns (context ++ "\n" ++ text) ≠ []) :
    (classifyText rt text context).classification.vaultRequired = true := by
  unfold classifyText marked
  simp only
  split <;> split <;> simp_all [EvidenceClassification.vaultRequired]
  all_goals split <;> simp_all

/-- A record with such a marker cannot be logged. -/
theorem not_loggable {record : Dict}
    (h : (recipientPatterns.any fun p => p.2.searchFrom (isWord rt) none
      ("vault metadata\n".toList ++ (Json.obj record).dumpChars rt .spaced)) = true) :
    ¬ Loggable rt record := by
  have hmarks : marks rt recipientPatterns
      ("vault metadata" ++ "\n" ++ (Json.obj record).dumps rt .spaced) ≠ [] := by
    obtain ⟨p, hp, hsearch⟩ := List.any_eq_true.mp h
    have hfound : p.2.search (isWord rt)
        ("vault metadata" ++ "\n" ++ (Json.obj record).dumps rt .spaced) = true := by
      have hline : "vault metadata" ++ "\n" = "vault metadata\n" := by decide
      have hdump : ((Json.obj record).dumps rt .spaced).toList =
          (Json.obj record).dumpChars rt .spaced := String.toList_ofList
      unfold Re.search
      rw [hline, String.toList_append, hdump]
      exact hsearch
    unfold marks
    rw [Ne, List.map_eq_nil_iff, List.filter_eq_nil_iff]
    intro hnone
    exact hnone p hp hfound
  unfold Loggable
  rw [vaultRequired_of_recipient hmarks]
  exact Bool.noConfusion

set_option maxRecDepth 20000 in
/-- Every record of a read of that payload has the marker, in the handle. -/
theorem sharedRecord_marked : ∀ verdict ∈ [("allowed", []),
      ("denied", ["vault classification is not approved for this context"]),
      ("denied", ["human approval reference is required for this vault classification"])],
    (recipientPatterns.any fun p => p.2.searchFrom (isWord asciiRuntime) none
      ("vault metadata\n".toList ++ (Json.obj (auditRecord "2026-01-01T00:00:00+00:00" sharedHandle
        (sampleContext .recipientOnly) sampleRoe verdict.1 verdict.2)).dumpChars asciiRuntime
          .spaced)) = true := by
  decide +kernel

end Aotp.Vault
