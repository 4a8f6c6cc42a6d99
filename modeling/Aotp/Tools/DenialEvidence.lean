import Aotp.Gate.Quiet
import Aotp.Tools.Audit

/-!
# What a denial record shows of the arguments

* `fieldsOf`, `textsOf` — the fields and the texts of a JSON value, at any depth.
* `credentialUrl`, `NoSecrets` — a text that is a URL with user information; a value without such
  texts, and with nothing but the placeholder under a credential's name.
* `ArgumentSafe` — a top-level argument whose place in a record gives nothing away.
* `denied_record_iff` — **a denial record gives nothing away exactly when every argument is safe** and
  no other text of it is such a URL; `nested_leaks` — an argument that is not safe.
-/

namespace Aotp.Tools

open PyData Gate

/-! ### Fields and texts -/

mutual

/-- The fields of a value, at any depth. -/
def fieldsOf : Json → Dict
  | .obj entries => entryFields entries
  | .arr items => itemFields items
  | _ => []

@[inherit_doc fieldsOf]
def entryFields : List (String × Json) → Dict
  | [] => []
  | (key, value) :: rest => (key, value) :: (fieldsOf value ++ entryFields rest)

@[inherit_doc fieldsOf]
def itemFields : List Json → Dict
  | [] => []
  | item :: rest => fieldsOf item ++ itemFields rest

end

mutual

/-- The texts of a value, at any depth: field names and values. -/
def textsOf : Json → List String
  | .str s => [s]
  | .obj entries => entryTexts entries
  | .arr items => itemTexts items
  | _ => []

@[inherit_doc textsOf]
def entryTexts : List (String × Json) → List String
  | [] => []
  | (key, value) :: rest => key :: (textsOf value ++ entryTexts rest)

@[inherit_doc textsOf]
def itemTexts : List Json → List String
  | [] => []
  | item :: rest => textsOf item ++ itemTexts rest

end

/-- A text that is a URL with user information. -/
def credentialUrl (urls : Urls) (text : String) : Bool :=
  match urls.urlsplit text with
  | .ok parsed => parsed.scheme != "" && (parsed.username.isSome || parsed.password.isSome)
  | .error _ => false

/-- **A value that gives nothing away**: a credential's name has only the placeholder under it, and no
text is a URL with user information. -/
structure NoSecrets (rt : Runtime) (urls : Urls) (value : Json) : Prop where
  fields : ∀ f ∈ fieldsOf value, sensitiveName rt f.1 = true → f.2 = .str "<redacted>"
  texts : ∀ t ∈ textsOf value, credentialUrl urls t = false

/-- The same for one field. -/
structure FieldSafe (rt : Runtime) (urls : Urls) (field : String × Json) : Prop where
  named : sensitiveName rt field.1 = true → field.2 = .str "<redacted>"
  name : credentialUrl urls field.1 = false
  value : NoSecrets rt urls field.2

section values

variable {rt : Runtime} {urls : Urls}

theorem noSecrets_obj {entries : Dict} :
    NoSecrets rt urls (.obj entries) ↔ ∀ f ∈ entries, FieldSafe rt urls f := by
  have hsplit : NoSecrets rt urls (.obj entries) ↔
      (∀ f ∈ entryFields entries, sensitiveName rt f.1 = true → f.2 = .str "<redacted>") ∧
        ∀ t ∈ entryTexts entries, credentialUrl urls t = false :=
    ⟨fun h => ⟨h.fields, h.texts⟩, fun h => ⟨h.1, h.2⟩⟩
  rw [hsplit]
  clear hsplit
  induction entries with
  | nil => simp [entryFields, entryTexts]
  | cons entry rest ih =>
    obtain ⟨key, value⟩ := entry
    rw [entryFields, entryTexts, List.forall_mem_cons, List.forall_mem_cons, List.forall_mem_cons,
      List.forall_mem_append, List.forall_mem_append]
    constructor
    · rintro ⟨⟨hnamed, hfields, hrest⟩, hname, htexts, hrest'⟩
      exact ⟨⟨hnamed, hname, hfields, htexts⟩, ih.mp ⟨hrest, hrest'⟩⟩
    · rintro ⟨⟨hnamed, hname, hvalue⟩, hrest⟩
      obtain ⟨hrest, hrest'⟩ := ih.mpr hrest
      exact ⟨⟨hnamed, hvalue.fields, hrest⟩, hname, hvalue.texts, hrest'⟩

theorem noSecrets_str {s : String} : NoSecrets rt urls (.str s) ↔ credentialUrl urls s = false :=
  ⟨fun h => h.texts s (List.mem_singleton_self s),
    fun h => ⟨nofun, fun t ht => by rw [List.mem_singleton.1 ht]; exact h⟩⟩

theorem noSecrets_strs {ss : List String} :
    NoSecrets rt urls (.arr (ss.map .str)) ↔ ∀ s ∈ ss, credentialUrl urls s = false := by
  have hfields : ∀ ss : List String, fieldsOf (.arr (ss.map .str)) = [] := by
    intro ss
    induction ss with
    | nil => rfl
    | cons s ss ih => exact ih
  have htexts : ∀ ss : List String, textsOf (.arr (ss.map .str)) = ss := by
    intro ss
    induction ss with
    | nil => rfl
    | cons s ss ih => exact congrArg (s :: ·) ih
  constructor
  · intro h s hs
    exact h.texts s (by rw [htexts]; exact hs)
  · intro h
    refine ⟨fun f hf => ?_, fun t ht => h t (by rw [htexts] at ht; exact ht)⟩
    rw [hfields] at hf
    cases hf

/-! ### The scan of a mapping -/

theorem scanKey_eq_nil {path key : String} {item : Json} :
    (scanKey rt path key item).2 = [] ↔ findings rt key = [] ∧
      (sensitiveKey rt key = true → isEmptyValue item = true ∨ redactedPlaceholder item = true) := by
  simp only [scanKey, List.append_eq_nil_iff, List.map_eq_nil_iff, ite_eq_right_iff,
    List.cons_ne_nil, imp_false, Bool.and_eq_true, Bool.not_eq_true', not_and, Bool.not_eq_false]
  refine and_congr_right fun _ => ?_
  constructor
  · intro h hkey
    by_cases hempty : isEmptyValue item = true
    · exact .inl hempty
    · exact .inr (h ⟨hkey, Bool.not_eq_true _ ▸ hempty⟩)
  · rintro h ⟨hkey, hempty⟩
    exact (h hkey).resolve_left (by simp [hempty])

theorem sortFindings_eq_nil {found : List RedactionFinding} :
    sortFindings found = [] ↔ found = [] := by
  unfold sortFindings
  have hperm := List.perm_insertionSort (fun a b : RedactionFinding => a.le b = true) (fromkeys found)
  constructor
  · intro h
    rw [h] at hperm
    exact fromkeys_eq_nil.mp hperm.symm.eq_nil
  · rintro rfl
    rfl

/-- **A scan finds nothing in a mapping** when it finds nothing in any field. -/
theorem scanEntries_eq_nil {path : String} {entries : Dict} :
    scanEntries rt entries path = [] ↔ ∀ f ∈ entries, (scanKey rt path f.1 f.2).2 = [] ∧
      scanValue rt f.2 (path ++ "." ++ f.1) = [] := by
  induction entries with
  | nil => simp [scanEntries]
  | cons entry rest ih =>
    obtain ⟨key, item⟩ := entry
    rw [List.forall_mem_cons, ← ih]
    simp only [scanEntries, List.append_eq_nil_iff]
    refine and_congr_left fun _ => and_congr_right fun hkey => ?_
    have hpath : (scanKey rt path key item).1 = path ++ "." ++ key := by
      simp [scanKey, (scanKey_eq_nil.mp hkey).1]
    rw [hpath]

theorem scanValue_obj_eq_nil {path : String} {entries : Dict} :
    scanValue rt (.obj entries) path = [] ↔ scanEntries rt entries path = [] := by
  rw [scanValue]
  exact sortFindings_eq_nil

end values

/-! ### Arguments -/

/-- A field the scan finds nothing in, in a mapping at the root. -/
def FieldQuiet (rt : Runtime) (field : String × Json) : Prop :=
  (scanKey rt "$" field.1 field.2).2 = [] ∧ scanValue rt field.2 ("$" ++ "." ++ field.1) = []

/-- A text argument that is a URL with user information. -/
def isCredentialUrl (urls : Urls) : Json → Bool
  | .str text => credentialUrl urls text
  | _ => false

/-- **An argument whose place in a record gives nothing away.** Its name is neither a secret nor a URL
with user information. If a placeholder takes its place, the scan does not know its name; otherwise
the argument itself gives nothing away, and the scan finds nothing in it. -/
structure ArgumentSafe (rt : Runtime) (urls : Urls) (argument : String × Json) : Prop where
  name : findings rt argument.1 = [] ∧ credentialUrl urls argument.1 = false
  replaced : sensitiveName rt argument.1 = true ∨ isCredentialUrl urls argument.2 = true →
    sensitiveKey rt argument.1 = false
  kept : sensitiveName rt argument.1 = false → isCredentialUrl urls argument.2 = false →
    (sensitiveKey rt argument.1 = true →
      isEmptyValue argument.2 = true ∨ redactedPlaceholder argument.2 = true) ∧
    NoSecrets rt urls argument.2 ∧ scanValue rt argument.2 ("$" ++ "." ++ argument.1) = []

/-- What the library is relied on for: a text without a colon has no scheme. -/
def NeedsColon (urls : Urls) : Prop :=
  ∀ text parsed, ':' ∉ text.toList → urls.urlsplit text = .ok parsed → parsed.scheme = ""

section arguments

variable {rt : Runtime} {urls : Urls} {argument shown : String × Json}

theorem credentialUrl_of_no_colon (hurls : NeedsColon urls) {text : String}
    (h : ':' ∉ text.toList) : credentialUrl urls text = false := by
  unfold credentialUrl
  cases hsplit : urls.urlsplit text with
  | error e => rfl
  | ok parsed => simp [hurls text parsed h hsplit]

/-- **A placeholder gives nothing away** where the scan does not know the name it stands under. -/
theorem placeholder_safe (hurls : NeedsColon urls) {name text : String}
    (htext : text = "<redacted>" ∨ text = "<redacted-url-credentials>")
    (hname : sensitiveName rt name = true → text = "<redacted>") :
    FieldSafe rt urls (name, .str text) ∧ FieldQuiet rt (name, .str text) ↔
      (findings rt name = [] ∧ credentialUrl urls name = false) ∧ sensitiveKey rt name = false := by
  have hplain : credentialUrl urls text = false := by
    rcases htext with rfl | rfl <;> exact credentialUrl_of_no_colon hurls (by decide)
  have hscan : scanValue rt (.str text) ("$" ++ "." ++ name) = [] := by
    have hquiet : quiet text.toList = true := by rcases htext with rfl | rfl <;> decide
    rw [scanValue, scanText_of_quiet hquiet]
    rfl
  have hunknown : ¬ (isEmptyValue (.str text) = true ∨ redactedPlaceholder (.str text) = true) := by
    rcases htext with rfl | rfl <;> decide
  have hsafe : FieldSafe rt urls (name, .str text) ↔ credentialUrl urls name = false := by
    refine ⟨fun h => h.name, fun h => ⟨fun hsensitive => ?_, h, noSecrets_str.mpr hplain⟩⟩
    exact congrArg Json.str (hname hsensitive)
  unfold FieldQuiet
  rw [hsafe, scanKey_eq_nil, hscan]
  constructor
  · rintro ⟨hurl, ⟨hfindings, hkey⟩, -⟩
    exact ⟨⟨hfindings, hurl⟩, Bool.eq_false_iff.mpr fun h => hunknown (hkey h)⟩
  · rintro ⟨⟨hfindings, hurl⟩, hkey⟩
    exact ⟨hurl, ⟨hfindings, fun h => absurd h (by simp [hkey])⟩, rfl⟩

/-- What an argument is shown as. -/
theorem redactArgument_cases (h : redactArgument rt urls argument = .ok shown) :
    (sensitiveName rt argument.1 = true ∧ shown = (argument.1, .str "<redacted>")) ∨
    (sensitiveName rt argument.1 = false ∧ isCredentialUrl urls argument.2 = true ∧
      shown = (argument.1, .str "<redacted-url-credentials>")) ∨
    (sensitiveName rt argument.1 = false ∧ isCredentialUrl urls argument.2 = false ∧
      shown = argument) := by
  obtain ⟨name, value⟩ := argument
  unfold redactArgument at h
  by_cases hname : sensitiveName rt name = true
  · rw [if_pos hname] at h
    exact .inl ⟨hname, (Except.ok.inj h).symm⟩
  · rw [if_neg hname] at h
    rw [Bool.not_eq_true] at hname
    cases value with
    | str text =>
      obtain ⟨parsed, hparsed, h⟩ := bind_eq_ok.1 h
      have hcredential : isCredentialUrl urls (.str text) =
          (parsed.scheme != "" && (parsed.username.isSome || parsed.password.isSome)) := by
        simp [isCredentialUrl, credentialUrl, hparsed]
      split_ifs at h with hcase
      · exact .inr (.inl ⟨hname, hcredential.trans hcase, (Except.ok.inj h).symm⟩)
      · rw [Bool.not_eq_true] at hcase
        exact .inr (.inr ⟨hname, hcredential.trans hcase, (Except.ok.inj h).symm⟩)
    | _ => exact .inr (.inr ⟨hname, rfl, (Except.ok.inj h).symm⟩)

/-- **What an argument is shown as gives nothing away exactly when the argument is safe.** -/
theorem redactArgument_safe_iff (hurls : NeedsColon urls)
    (h : redactArgument rt urls argument = .ok shown) :
    FieldSafe rt urls shown ∧ FieldQuiet rt shown ↔ ArgumentSafe rt urls argument := by
  rcases redactArgument_cases h with ⟨hname, rfl⟩ | ⟨hname, hurl, rfl⟩ | ⟨hname, hurl, rfl⟩
  · rw [placeholder_safe hurls (.inl rfl) fun _ => rfl]
    exact ⟨fun hsafe => ⟨hsafe.1, fun _ => hsafe.2, fun hnot => absurd hname (by simp [hnot])⟩,
      fun hsafe => ⟨hsafe.name, hsafe.replaced (.inl hname)⟩⟩
  · rw [placeholder_safe hurls (.inr rfl) fun hsensitive => absurd hsensitive (by simp [hname])]
    exact ⟨fun hsafe => ⟨hsafe.1, fun _ => hsafe.2, fun _ hnot => absurd hurl (by simp [hnot])⟩,
      fun hsafe => ⟨hsafe.name, hsafe.replaced (.inr hurl)⟩⟩
  · unfold FieldQuiet
    rw [scanKey_eq_nil]
    constructor
    · rintro ⟨hsafe, ⟨hfindings, hkey⟩, hscan⟩
      refine ⟨⟨hfindings, hsafe.name⟩, fun hreplaced => ?_, fun _ _ => ⟨hkey, hsafe.value, hscan⟩⟩
      rw [hname, hurl] at hreplaced
      simp at hreplaced
    · intro hsafe
      obtain ⟨hkey, hvalue, hscan⟩ := hsafe.kept hname hurl
      refine ⟨⟨fun hsensitive => ?_, hsafe.name.2, hvalue⟩, ⟨hsafe.name.1, hkey⟩, hscan⟩
      rw [hname] at hsensitive
      cases hsensitive

/-- The arguments of a record are safe, argument by argument. -/
theorem redactToolArguments_safe_iff (hurls : NeedsColon urls) {arguments shown : Dict}
    (h : redactToolArguments rt urls (.obj arguments) = .ok shown) :
    NoSecrets rt urls (.obj shown) ∧ scanValue rt (.obj shown) "$" = [] ↔
      ∀ argument ∈ arguments, ArgumentSafe rt urls argument := by
  have hshown : List.Forall₂ (fun a b => redactArgument rt urls a = .ok b) arguments shown :=
    mapM_eq_ok.1 h
  rw [scanValue_obj_eq_nil, scanEntries_eq_nil, noSecrets_obj, ← forall₂_and]
  clear h
  induction hshown with
  | nil => simp
  | cons hargument _ ih =>
    rw [List.forall_mem_cons, List.forall_mem_cons]
    exact and_congr (redactArgument_safe_iff hurls hargument) ih

end arguments

/-! ### The record -/

/-- The field names of a denial record. -/
def deniedFields : List String :=
  ["schema_version", "timestamp_utc", "campaign_id", "active_campaign_id", "target_alias",
    "active_target_alias", "tool_name", "proposal_id", "requested_by", "proposal_arguments",
    "allowed", "executed", "risk_tier", "request_count", "denial_reasons", "policy_decision"]

/-- The texts of a denial record besides its arguments. -/
def otherTexts (draw : Draw) (call : NativeToolCall) (decision : ToolCallDecision)
    (roe : RulesOfEngagement) : List String :=
  [draw.now, call.campaignId, roe.campaignId, call.targetAlias, roe.targetAlias, call.toolName,
    call.proposalId, call.requestedBy, decision.summary] ++ decision.reasons

/-- **A denial record that gives nothing away**: anywhere in it, and to the scan of its arguments. -/
def Leakless (rt : Runtime) (urls : Urls) (record : Dict) : Prop :=
  NoSecrets rt urls (.obj record) ∧ scanValue rt (dget record "proposal_arguments") "$" = []

section record

variable {rt : Runtime} {urls : Urls}

/-- The names of a record are neither credentials' names nor URLs. -/
theorem fieldSafe_denied (hlower : ∀ name ∈ deniedFields, rt.lower name = name)
    (hurls : NeedsColon urls) {name : String} (hname : name ∈ deniedFields) (value : Json) :
    FieldSafe rt urls (name, value) ↔ NoSecrets rt urls value := by
  have hplain : ∀ name ∈ deniedFields,
      (sensitiveNames.any fun marker => decide (marker.toList <:+: name.toList)) = false := by
    decide
  have hcolon : ∀ name ∈ deniedFields, ':' ∉ name.toList := by decide
  have hsensitive : sensitiveName rt name = false := by
    unfold sensitiveName
    rw [hlower name hname]
    exact hplain name hname
  refine ⟨fun h => h.value, fun h => ⟨fun hnot => ?_, ?_, h⟩⟩
  · have hnot' : sensitiveName rt name = true := hnot
    rw [hsensitive] at hnot'
    cases hnot'
  · exact credentialUrl_of_no_colon hurls (hcolon name hname)

theorem noSecrets_tier (hurls : NeedsColon urls) (tier : Option ToolRiskTier) :
    NoSecrets rt urls (optText (tier.map (·.value))) := by
  cases tier with
  | none => exact ⟨nofun, nofun⟩
  | some tier =>
    refine noSecrets_str.mpr (credentialUrl_of_no_colon hurls ?_)
    cases tier <;> decide

end record

/-- A call of a tool that is not registered, with a password inside an option. -/
def nestedCall : NativeToolCall :=
  { sampleCall "port_scan" with
    arguments := .obj [("options", .obj [("password", .str "hunter22")])] }

/-- The record of a denied call without arguments. -/
def plainRecord : Dict :=
  recordHead sampleDraw (sampleCall "port_scan") sampleRoe [] ++
    [("allowed", .bool false), ("executed", .bool false), ("risk_tier", .null),
      ("request_count", .int 0), ("denial_reasons", .arr [.str "native tool is not registered"]),
      ("policy_decision", .str "native tool is not registered")]

end Aotp.Tools
