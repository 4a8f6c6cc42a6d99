import Aotp.Lib.Paths

/-!
# Vault handles

* `VaultHandle` — a handle, which carries the checks of its construction; `uri` — its text.
* `parseVaultHandle` — the handle a text spells.
* `parseVaultHandle_eq_ok` — **a text spells exactly the handle whose text it is**.
-/

namespace Aotp.Vault

open PyData

/-- Source: `vault_handles._HANDLE_ID` -/
def isHandleId (s : List Char) : Bool := s.length == 32 && s.all isLowerHex

/-- Source: `vault_handles.VaultHandle`, with what `__post_init__` asks of it -/
structure VaultHandle where
  campaignId : String
  handleId : String
  classification : String
  artifactKind : String
  campaign_safe : isAlias campaignId.toList = true
  classification_safe : isAlias classification.toList = true
  kind_safe : isAlias artifactKind.toList = true
  id_hex : isHandleId handleId.toList = true
  deriving DecidableEq

/-- Source: `vault_handles.VaultHandleError` -/
def handleError (msg : String) : Exc := .custom "VaultHandleError" msg

/-- Source: `vault_handles.VaultHandle.__post_init__` -/
def VaultHandle.make (campaignId handleId classification artifactKind : String) :
    Except Exc VaultHandle :=
  if hcampaign : isAlias campaignId.toList = true then
    if hclassification : isAlias classification.toList = true then
      if hkind : isAlias artifactKind.toList = true then
        if hid : isHandleId handleId.toList = true then
          .ok ⟨campaignId, handleId, classification, artifactKind, hcampaign, hclassification, hkind,
            hid⟩
        else .error (handleError "handle_id must be a 32 character lowercase hex value")
      else .error (handleError "artifact_kind is not a safe handle component")
    else .error (handleError "classification is not a safe handle component")
  else .error (handleError "campaign_id is not a safe handle component")

namespace VaultHandle

variable (h : VaultHandle)

/-- The scheme of handles.
Source: `vault_handles.parse_vault_handle`, `prefix` -/
def scheme : List Char := "vault://".toList

/-- Source: `vault_handles.VaultHandle.uri` -/
def uri : String :=
  "vault://" ++ h.campaignId ++ "/" ++ h.classification ++ "/" ++ h.artifactKind ++ "/" ++
    h.handleId

/-- Source: `vault_handles.VaultHandle.as_dict` -/
def asDict : Dict :=
  [("uri", .str h.uri), ("campaign_id", .str h.campaignId), ("handle_id", .str h.handleId),
    ("classification", .str h.classification), ("artifact_kind", .str h.artifactKind)]

end VaultHandle

/-- Source: `vault_handles.parse_vault_handle`, on a text -/
def parseVaultHandle (uri : String) : Except Exc VaultHandle :=
  if VaultHandle.scheme.isPrefixOf uri.toList then
    match splitOnSep '/' (uri.toList.drop VaultHandle.scheme.length) with
    | [campaign, classification, kind, id] =>
      VaultHandle.make (String.ofList campaign) (String.ofList id) (String.ofList classification)
        (String.ofList kind)
    | _ => .error (handleError "vault handle has an invalid component count")
  else .error (handleError "vault handle must use the vault:// scheme")

variable {h h' : VaultHandle}

theorem VaultHandle.make_eq_ok {campaignId handleId classification artifactKind : String} :
    VaultHandle.make campaignId handleId classification artifactKind = .ok h ↔
      h.campaignId = campaignId ∧ h.handleId = handleId ∧ h.classification = classification ∧
        h.artifactKind = artifactKind := by
  unfold VaultHandle.make
  constructor
  · intro hmake
    split at hmake
    · split at hmake
      · split at hmake
        · split at hmake
          · cases hmake
            exact ⟨rfl, rfl, rfl, rfl⟩
          · cases hmake
        · cases hmake
      · cases hmake
    · cases hmake
  · rintro ⟨rfl, rfl, rfl, rfl⟩
    rw [dif_pos h.campaign_safe, dif_pos h.classification_safe, dif_pos h.kind_safe,
      dif_pos h.id_hex]

/-! ### Components -/

/-- An alias has no slash. -/
theorem noSlash_of_isAlias {s : List Char} (hs : isAlias s = true) : ∀ c ∈ s, c ≠ '/' := by
  rintro c hc rfl
  simp only [isAlias, Bool.and_eq_true] at hs
  have hslash := List.all_eq_true.mp hs.1.2 '/' hc
  revert hslash
  decide

theorem noSlash_of_isHandleId {s : List Char} (hs : isHandleId s = true) : ∀ c ∈ s, c ≠ '/' := by
  rintro c hc rfl
  simp only [isHandleId, Bool.and_eq_true] at hs
  have hslash := List.all_eq_true.mp hs.2 '/' hc
  revert hslash
  decide

/-- The text of a handle, as characters. -/
theorem uri_toList : h.uri.toList = VaultHandle.scheme ++ (h.campaignId.toList ++ '/' ::
    (h.classification.toList ++ '/' :: (h.artifactKind.toList ++ '/' :: h.handleId.toList))) := by
  have hslash : "/".toList = ['/'] := by decide
  unfold VaultHandle.uri VaultHandle.scheme
  simp only [String.toList_append, hslash, List.append_assoc, List.cons_append, List.nil_append]

/-- **The text of a handle spells it.** -/
theorem parseVaultHandle_uri (h : VaultHandle) : parseVaultHandle h.uri = .ok h := by
  have hsplit : splitOnSep '/' (h.campaignId.toList ++ '/' :: (h.classification.toList ++ '/' ::
      (h.artifactKind.toList ++ '/' :: h.handleId.toList))) =
      [h.campaignId.toList, h.classification.toList, h.artifactKind.toList, h.handleId.toList] := by
    rw [splitOnSep_append (noSlash_of_isAlias h.campaign_safe),
      splitOnSep_append (noSlash_of_isAlias h.classification_safe),
      splitOnSep_append (noSlash_of_isAlias h.kind_safe),
      splitOnSep_of_not_mem (noSlash_of_isHandleId h.id_hex)]
  have hprefix : VaultHandle.scheme.isPrefixOf h.uri.toList = true := by
    rw [uri_toList, List.isPrefixOf_iff_prefix]
    exact List.prefix_append _ _
  unfold parseVaultHandle
  rw [if_pos hprefix, uri_toList, List.drop_left, hsplit]
  simp only [String.ofList_toList]
  exact VaultHandle.make_eq_ok.mpr ⟨rfl, rfl, rfl, rfl⟩

/-- **A text spells exactly the handle whose text it is.** -/
theorem parseVaultHandle_eq_ok {uri : String} : parseVaultHandle uri = .ok h ↔ uri = h.uri := by
  constructor
  · intro hparse
    unfold parseVaultHandle at hparse
    split at hparse
    · rename_i hprefix
      split at hparse
      · rename_i campaign classification kind id hparts
        obtain ⟨hc, hi, hcl, hk⟩ := VaultHandle.make_eq_ok.mp hparse
        obtain ⟨rest, hrest⟩ := List.isPrefixOf_iff_prefix.mp hprefix
        rw [← hrest, List.drop_left] at hparts
        have hjoin := intercalate_splitOnSep '/' rest
        rw [hparts] at hjoin
        apply String.toList_inj.mp
        rw [uri_toList, hc, hi, hcl, hk, ← hrest, ← hjoin]
        simp
      · cases hparse
    · cases hparse
  · rintro rfl
    exact parseVaultHandle_uri h

/-- Two handles with one text are one handle. -/
theorem uri_injective (heq : h.uri = h'.uri) : h = h' := by
  have hparse := parseVaultHandle_uri h
  rw [heq, parseVaultHandle_uri h'] at hparse
  exact (Except.ok.inj hparse).symm

end Aotp.Vault
