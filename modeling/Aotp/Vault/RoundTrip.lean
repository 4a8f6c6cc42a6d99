import Aotp.Vault.Store

/-!
# The vault gives back what was stored

* `storeAll` — a sequence of calls, each with the vault it finds.
* `Kept` — the invariant: what a call returned a handle for is readable, and nothing else is
  recorded.
* `Kept.store` — one call keeps it, when its id is new.
* `roundTrip` — **every returned handle reads back the bytes stored under it**, by itself and by its
  text, and no other handle or text reads anything.
-/

namespace Aotp.Vault

open PyData

/-- A sequence of calls: the vault they leave, and what each of them returned. -/
def storeAll (rt : Runtime) (lib : VaultLibrary) :
    SensitiveVault → List StoreCall → SensitiveVault × List (StoreCall × Except Exc VaultHandle)
  | vault, [] => (vault, [])
  | vault, call :: calls =>
    let (next, result) := store rt lib vault call
    let (final, results) := storeAll rt lib next calls
    (final, (call, result) :: results)

/-- A handle that was returned, with the bytes stored under it. -/
abbrev Stored := VaultHandle × Bytes

/-- What the successful calls stored. -/
def storedBy (results : List (StoreCall × Except Exc VaultHandle)) : List Stored :=
  results.filterMap fun r => match r.2 with
    | .ok handle => some (handle, r.1.payload.data)
    | .error _ => none

/-- The invariant of a vault, for what was stored in it. -/
structure Kept (lib : VaultLibrary) (vault : SensitiveVault) (stored : List Stored) : Prop where
  readable : ∀ s ∈ stored, readRaw lib vault (.handle s.1) = .ok s.2
  recorded : ∀ id data, vault.records.lookup id = some data → ∃ s ∈ stored, s.1.handleId = id ∧
    ∀ h record, readRecord h data = .ok record → h = s.1

variable {rt : Runtime} {lib : VaultLibrary} {vault vault' : SensitiveVault} {stored : List Stored}
  {call : StoreCall} {handle h : VaultHandle}

/-! ### Reads -/

/-- A read by the text of a handle is a read by the handle. -/
theorem readRaw_uri (h : VaultHandle) :
    readRaw lib vault (.uri h.uri) = readRaw lib vault (.handle h) := by
  have hparsed : (HandleRef.uri h.uri).parsed = (HandleRef.handle h).parsed :=
    parseVaultHandle_uri h
  unfold readRaw validateHandle
  rw [hparsed]

/-- What a read does, as far as it depends on the vault. -/
theorem readRaw_eq : readRaw lib vault (.handle h) =
    if h.campaignId = vault.campaignId then
      match vault.records.lookup h.handleId with
      | none => .error (vaultError "vault metadata cannot be read")
      | some data => do
        let record ← readRecord h data
        openPayload lib record (vault.ciphertext.lookup h.handleId)
    else .error (vaultError "vault handle belongs to a different campaign") := by
  have hvalid : validateHandle vault (.handle h) = if h.campaignId = vault.campaignId then .ok h
      else .error (vaultError "vault handle belongs to a different campaign") := by
    by_cases hsame : h.campaignId = vault.campaignId
    · simp [validateHandle, HandleRef.parsed, guardE, hsame, bind, Except.bind, pure, Except.pure]
    · simp [validateHandle, HandleRef.parsed, guardE, hsame, bind, Except.bind]
  unfold readRaw metadata
  rw [hvalid]
  by_cases hsame : h.campaignId = vault.campaignId
  · rw [if_pos hsame, if_pos hsame]
    cases hfile : vault.records.lookup h.handleId with
    | none => simp [hvalid, hsame, hfile, bind, Except.bind, throw, throwThe, MonadExceptOf.throw]
    | some data => simp [hvalid, hsame, hfile, bind, Except.bind]
  · rw [if_neg hsame, if_neg hsame]
    rfl

/-- **A read depends on the two files of its handle only.** -/
theorem readRaw_congr (hcampaign : vault'.campaignId = vault.campaignId)
    (hcipher : vault'.ciphertext.lookup h.handleId = vault.ciphertext.lookup h.handleId)
    (hrecords : vault'.records.lookup h.handleId = vault.records.lookup h.handleId) :
    readRaw lib vault' (.handle h) = readRaw lib vault (.handle h) := by
  rw [readRaw_eq, readRaw_eq, hcampaign, hcipher, hrecords]

/-- What a successful read found. -/
theorem readRaw_eq_ok {payload : Bytes} (hread : readRaw lib vault (.handle h) = .ok payload) :
    h.campaignId = vault.campaignId ∧ ∃ data record,
      vault.records.lookup h.handleId = some data ∧ readRecord h data = .ok record := by
  rw [readRaw_eq] at hread
  by_cases hsame : h.campaignId = vault.campaignId
  · refine ⟨hsame, ?_⟩
    rw [if_pos hsame] at hread
    cases hdata : vault.records.lookup h.handleId with
    | none => simp [hdata] at hread
    | some data =>
      rw [hdata] at hread
      obtain ⟨record, hrecord, -⟩ := bind_eq_ok.mp hread
      exact ⟨data, record, rfl, hrecord⟩
  · rw [if_neg hsame] at hread
    cases hread

/-- What the record of a stored payload says. -/
def recordRead (lib : VaultLibrary) (handle : VaultHandle) (call : StoreCall) (purpose : String)
    (token : Bytes) : VaultRecord :=
  ⟨handle, .str call.now, .str handle.classification, .str handle.artifactKind, .str purpose,
    .str (lib.sha256 call.payload.data), .int call.payload.data.length, .str (lib.sha256 token),
    .obj call.metadata⟩

/-- The record written for a handle is read by that handle only. -/
theorem readRecord_recordOf {purpose : String} {token : Bytes} {record : VaultRecord} :
    readRecord h (.obj (recordOf lib handle call purpose token)) = .ok record ↔
      h = handle ∧ record = recordRead lib handle call purpose token := by
  have huri : parseHandleValue (.str handle.uri) = .ok handle := parseVaultHandle_uri handle
  have hread : readRecord h (.obj (recordOf lib handle call purpose token)) =
      guardE (handle == h) (vaultError "vault metadata handle mismatch") >>= fun _ =>
        .ok (recordRead lib handle call purpose token) := by
    have hschema : (Json.str "1.0").pyEq (.str "1.0") = true := by simp
    simp [readRecord, recordOf, recordRead, VaultHandle.asDict, item, Json.attrs, dget, dgetD,
      dget?_cons, huri, hschema, guardE, dictOf, bind, Except.bind, pure, Except.pure]
  rw [hread]
  simp only [bind_eq_ok, guardE_eq_ok, Except.ok.injEq, beq_iff_eq]
  constructor
  · rintro ⟨_, hsame, hrecord⟩
    exact ⟨hsame.symm, hrecord.symm⟩
  · rintro ⟨rfl, rfl⟩
    exact ⟨(), rfl, rfl⟩

/-! ### One call -/

/-- What a call did to the vault. -/
theorem store_cases {result : Except Exc VaultHandle}
    (hstore : store rt lib vault call = (vault', result)) :
    (∃ e, result = .error e ∧ vault'.campaignId = vault.campaignId ∧
      vault'.records = vault.records ∧
      ∀ id, id ≠ call.handleId → vault'.ciphertext.lookup id = vault.ciphertext.lookup id) ∨
    ∃ handle purpose, result = .ok handle ∧ handle.handleId = call.handleId ∧
      handle.campaignId = vault.campaignId ∧
      vault' = { vault with
        ciphertext := (call.handleId, lib.encrypt call.draw call.payload.data) :: vault.ciphertext
        records := (call.handleId, .obj (recordOf lib handle call purpose
          (lib.encrypt call.draw call.payload.data))) :: vault.records } := by
  unfold store at hstore
  cases hchecked : checkStore rt lib vault call with
  | error e =>
    rw [hchecked] at hstore
    cases hstore
    exact .inl ⟨e, rfl, rfl, rfl, fun _ _ => rfl⟩
  | ok handle =>
    have hfields : handle.campaignId = vault.campaignId ∧ handle.handleId = call.handleId := by
      simp only [checkStore, bind_eq_ok, guardE_eq_ok] at hchecked
      obtain ⟨chosen, -, -, -, -, -, kind, -, -, -, hmake⟩ := hchecked
      obtain ⟨hcampaign, hid, -⟩ := VaultHandle.make_eq_ok.mp hmake
      exact ⟨hcampaign, hid⟩
    rw [hchecked] at hstore
    simp only at hstore
    cases hpurpose : safePurpose call.purpose with
    | error e =>
      rw [hpurpose] at hstore
      cases hstore
      refine .inl ⟨e, rfl, rfl, rfl, fun id hid => ?_⟩
      have hne : (id == handle.handleId) = false := by
        rw [hfields.2]
        simpa using hid
      simp [List.lookup_cons, hne]
    | ok purpose =>
      rw [hpurpose] at hstore
      cases hstore
      refine .inr ⟨handle, purpose, rfl, hfields.2, hfields.1, ?_⟩
      rw [hfields.2]

/-- The record and the ciphertext that a call left are in the vault. -/
structure Intact (lib : VaultLibrary) (vault : SensitiveVault) (handle : VaultHandle)
    (call : StoreCall) : Prop where
  campaign : handle.campaignId = vault.campaignId
  ciphertext : vault.ciphertext.lookup handle.handleId =
    some (lib.encrypt call.draw call.payload.data)
  record : ∃ purpose, vault.records.lookup handle.handleId =
    some (.obj (recordOf lib handle call purpose (lib.encrypt call.draw call.payload.data)))

/-- What a call stored is read back as long as it is intact. -/
theorem Intact.readRaw (hinverts : lib.Inverts) (h : Intact lib vault handle call) :
    Vault.readRaw lib vault (.handle handle) = .ok call.payload.data := by
  obtain ⟨purpose, hlookup⟩ := h.record
  have hrecord : readRecord handle (.obj (recordOf lib handle call purpose
      (lib.encrypt call.draw call.payload.data))) = .ok (recordRead lib handle call purpose
        (lib.encrypt call.draw call.payload.data)) := readRecord_recordOf.mpr ⟨rfl, rfl⟩
  rw [readRaw_eq, if_pos h.campaign, hlookup, h.ciphertext]
  refine bind_eq_ok.mpr ⟨_, hrecord, ?_⟩
  simp [openPayload, recordRead, hinverts call.draw call.payload.data, guardE, bind, Except.bind,
    pure, Except.pure]

theorem lookup_of_ne {α : Type} {id id' : String} {x : α} {l : List (String × α)} (h : id ≠ id') :
    List.lookup id ((id', x) :: l) = l.lookup id := by
  have hne : (id == id') = false := by simpa using h
  rw [List.lookup_cons, hne]

/-- The id of what one call stored is the one generated for it. -/
theorem storedBy_single {result : Except Exc VaultHandle}
    (hstore : store rt lib vault call = (vault', result)) :
    ∀ s ∈ storedBy [(call, result)], s.1.handleId = call.handleId := by
  intro s hs
  rcases store_cases hstore with ⟨e, rfl, -⟩ | ⟨handle, purpose, rfl, hid, -⟩
  · cases hs
  · obtain rfl := List.mem_singleton.mp hs
    exact hid

/-- **One call keeps the invariant**, when its id is new. -/
theorem Kept.store {result : Except Exc VaultHandle} (hinverts : lib.Inverts)
    (h : Kept lib vault stored) (hfresh : ∀ s ∈ stored, s.1.handleId ≠ call.handleId)
    (hstore : Vault.store rt lib vault call = (vault', result)) :
    Kept lib vault' (stored ++ storedBy [(call, result)]) := by
  rcases store_cases hstore with ⟨e, rfl, hcampaign, hrecords, hcipher⟩ |
    ⟨handle, purpose, rfl, hid, hcampaign, hvault⟩
  · have hnone : stored ++ storedBy [(call, .error e)] = stored := List.append_nil stored
    rw [hnone]
    constructor
    · intro s hs
      rw [readRaw_congr hcampaign (hcipher _ (hfresh s hs)) (by rw [hrecords])]
      exact h.readable s hs
    · rw [hrecords]
      exact h.recorded
  · constructor
    · intro s hs
      rcases List.mem_append.mp hs with hs | hs
      · have hread : readRaw lib vault' (.handle s.1) = readRaw lib vault (.handle s.1) := by
          apply readRaw_congr <;> rw [hvault]
          · exact lookup_of_ne (hfresh s hs)
          · exact lookup_of_ne (hfresh s hs)
        rw [hread]
        exact h.readable s hs
      · obtain rfl := List.mem_singleton.mp hs
        have hintact : Intact lib vault' handle call := by
          constructor
          · rw [hvault, hcampaign]
          · rw [hvault, hid]
            exact List.lookup_cons_self
          · refine ⟨purpose, ?_⟩
            rw [hvault, hid]
            exact List.lookup_cons_self
        exact hintact.readRaw hinverts
    · intro id data hlookup
      rw [hvault] at hlookup
      by_cases hsame : id = call.handleId
      · rw [hsame, List.lookup_cons_self, Option.some.injEq] at hlookup
        refine ⟨(handle, call.payload.data), List.mem_append_right _ List.mem_cons_self,
          hid.trans hsame.symm, ?_⟩
        intro h' record hread
        rw [← hlookup] at hread
        exact (readRecord_recordOf.mp hread).1
      · rw [lookup_of_ne hsame] at hlookup
        obtain ⟨s, hs, hid', hnames⟩ := h.recorded id data hlookup
        exact ⟨s, List.mem_append_left _ hs, hid', hnames⟩

/-! ### A sequence of calls -/

theorem storedBy_append (xs ys : List (StoreCall × Except Exc VaultHandle)) :
    storedBy (xs ++ ys) = storedBy xs ++ storedBy ys :=
  List.filterMap_append

/-- **A sequence of calls with distinct ids keeps the invariant.** -/
theorem Kept.storeAll {calls : List StoreCall} (hinverts : lib.Inverts) (h : Kept lib vault stored)
    (hfresh : ∀ s ∈ stored, s.1.handleId ∉ calls.map (·.handleId))
    (hids : (calls.map (·.handleId)).Nodup) :
    Kept lib (Vault.storeAll rt lib vault calls).1
      (stored ++ storedBy (Vault.storeAll rt lib vault calls).2) := by
  induction calls generalizing vault stored with
  | nil =>
    show Kept lib vault (stored ++ [])
    rw [List.append_nil]
    exact h
  | cons call calls ih =>
    rw [List.map_cons, List.nodup_cons] at hids
    cases hstore : Vault.store rt lib vault call with
    | mk next result =>
    have hkept : Kept lib next (stored ++ storedBy [(call, result)]) :=
      h.store hinverts (fun s hs heq => hfresh s hs (heq ▸ List.mem_cons_self)) hstore
    have hrest := ih hkept (by
      intro s hs
      rcases List.mem_append.mp hs with hs | hs
      · exact fun hmem => hfresh s hs (List.mem_cons_of_mem _ hmem)
      · rw [storedBy_single hstore s hs]
        exact hids.1) hids.2
    have hrun : Vault.storeAll rt lib vault (call :: calls) =
        ((Vault.storeAll rt lib next calls).1,
          (call, result) :: (Vault.storeAll rt lib next calls).2) := by
      rw [Vault.storeAll, hstore]
    rw [hrun]
    have happend := storedBy_append [(call, result)] (Vault.storeAll rt lib next calls).2
    rw [List.singleton_append] at happend
    rw [happend, ← List.append_assoc]
    exact hrest

theorem mem_storedBy {results : List (StoreCall × Except Exc VaultHandle)} {s : Stored} :
    s ∈ storedBy results ↔
      ∃ call, (call, .ok s.1) ∈ results ∧ call.payload.data = s.2 := by
  unfold storedBy
  rw [List.mem_filterMap]
  constructor
  · rintro ⟨⟨call, result⟩, hmem, heq⟩
    cases result with
    | error e => cases heq
    | ok handle =>
      cases heq
      exact ⟨call, hmem, rfl⟩
  · rintro ⟨call, hmem, hdata⟩
    refine ⟨(call, .ok s.1), hmem, ?_⟩
    show some (s.1, call.payload.data) = some s
    rw [hdata]

/-- A handle the calls returned, for a call. -/
def Returned (results : List (StoreCall × Except Exc VaultHandle)) (handle : VaultHandle) : Prop :=
  ∃ call, (call, .ok handle) ∈ results

/-- **The vault gives back what was stored**: after any sequence of calls with distinct generated
ids on a new vault, each returned handle reads exactly the bytes of its call, by itself and by its
text, and its text spells it; any other handle, and any other text, is rejected. -/
theorem roundTrip {calls : List StoreCall} {campaignId : String} (hinverts : lib.Inverts)
    (hids : (calls.map (·.handleId)).Nodup)
    {results : List (StoreCall × Except Exc VaultHandle)}
    (hrun : storeAll rt lib { campaignId := campaignId } calls = (vault, results)) :
    (∀ call handle, (call, .ok handle) ∈ results →
      readRaw lib vault (.handle handle) = .ok call.payload.data ∧
      readRaw lib vault (.uri handle.uri) = .ok call.payload.data ∧
      parseVaultHandle handle.uri = .ok handle) ∧
    (∀ h, ¬ Returned results h → ∃ e, readRaw lib vault (.handle h) = .error e) ∧
    ∀ uri, (∀ handle, Returned results handle → uri ≠ handle.uri) →
      ∃ e, readRaw lib vault (.uri uri) = .error e := by
  have hnew : Kept lib { campaignId := campaignId } [] := by
    constructor
    · intro s hs
      cases hs
    · intro id data hlookup
      cases hlookup
  have hkept : Kept lib (storeAll rt lib { campaignId := campaignId } calls).1
      ([] ++ storedBy (storeAll rt lib { campaignId := campaignId } calls).2) :=
    hnew.storeAll hinverts (by intro s hs; cases hs) hids
  rw [hrun, List.nil_append] at hkept
  have hrejected : ∀ h, ¬ Returned results h → ∃ e, readRaw lib vault (.handle h) = .error e := by
    intro h hother
    cases hread : readRaw lib vault (.handle h) with
    | error e => exact ⟨e, rfl⟩
    | ok payload =>
      obtain ⟨-, data, record, hlookup, hrecord⟩ := readRaw_eq_ok hread
      obtain ⟨s, hs, -, hnames⟩ := hkept.recorded _ _ hlookup
      obtain ⟨call, hmem, -⟩ := mem_storedBy.mp hs
      exact absurd ⟨call, hnames h record hrecord ▸ hmem⟩ hother
  refine ⟨?_, hrejected, ?_⟩
  · intro call handle hmem
    have hread := hkept.readable (handle, call.payload.data) (mem_storedBy.mpr ⟨call, hmem, rfl⟩)
    exact ⟨hread, (readRaw_uri handle).trans hread, parseVaultHandle_uri handle⟩
  · intro uri hother
    cases hparse : parseVaultHandle uri with
    | error e =>
      refine ⟨e, ?_⟩
      have hparsed : (HandleRef.uri uri).parsed = .error e := hparse
      unfold readRaw validateHandle
      rw [hparsed]
      rfl
    | ok h =>
      have huri := parseVaultHandle_eq_ok.mp hparse
      rw [huri, readRaw_uri]
      exact hrejected h fun hreturned => hother h hreturned huri

/-! ### A stored password -/

/-- The bytes of an ASCII text. -/
def ascii (s : String) : Bytes := s.toList.map fun c => UInt8.ofNat c.toNat

/-- A payload, and its token under the key of the bytes 0 to 31 at the start of 2026. -/
def samplePayload : Bytes := ascii "password=abcdefghi123456"

def sampleToken : Bytes :=
  ascii ("gAAAAABpVbkAAAAAAAAAAAAAAAAAAAAAAAsEuewIXq8eqaMq4GhGBt7PHTl_kF3s" ++
    "STWS4y0k1dv7qsv6vFxXJ7O-PpsB8e9c80VZh1WRRz1zt4J2JLuSkDk=")

/-- A library that knows the token of one payload and the digests of both; another payload is marked
with a zero byte, which no token begins with. -/
def markingLibrary (known token : Bytes) (sha256 : ℕ → String) : VaultLibrary where
  encrypt draw data := if draw = 0 ∧ data = known then token else 0 :: data
  decrypt given :=
    if given = token then some known
    else match given with
      | 0 :: data => some data
      | _ => none
  sha256 data := sha256 data.length
  decode data := String.ofList (data.map fun b => Char.ofNat b.toNat)

theorem markingLibrary_inverts {known token : Bytes} {sha256 : ℕ → String}
    (hhead : token.head? ≠ some 0) : (markingLibrary known token sha256).Inverts := by
  intro draw data
  have hmarked : 0 :: data ≠ token := by
    rintro rfl
    exact hhead rfl
  by_cases hknown : draw = 0 ∧ data = known
  · simp [markingLibrary, hknown]
  · simp [markingLibrary, hknown, hmarked]

def sampleLibrary : VaultLibrary :=
  markingLibrary samplePayload sampleToken fun n =>
    if n = 120 then "19e381e66108c2ac66b37da65a327b7057a9f4bb75cfecbe4f54aa77ab1fe9f7"
    else "f27411b040732bd54a114c662b0cb56c31124d2d2ec51298e5d55391df0ab6d0"

theorem sampleLibrary_inverts : sampleLibrary.Inverts :=
  markingLibrary_inverts (by decide +kernel)

def sampleCall : StoreCall where
  payload := .bytes samplePayload
  classification := some "secret"
  artifactKind := "capture"
  purpose := "review"
  handleId := "0123456789abcdef0123456789abcdef"
  draw := 0
  now := "2026-01-01T00:00:00+00:00"

/-- The handle the call returns. -/
def sampleHandle : VaultHandle where
  campaignId := "campaign-1"
  handleId := "0123456789abcdef0123456789abcdef"
  classification := "secret"
  artifactKind := "capture"
  campaign_safe := by decide
  classification_safe := by decide
  kind_safe := by decide
  id_hex := by decide

/-- A library of texts in ASCII. -/
def asciiRuntime : Runtime where
  lower s := String.ofList (s.toList.map Char.toLower)
  floatRepr _ := "0.0"
  containerRepr _ := "[]"
  isWordChar _ := false
  fromIsoFormat _ := .invalid
  dateFromIsoFormat _ := none
  intOfText _ := none
  sha256 _ := String.ofList (List.replicate 64 '0')
  sha256_hex _ := zeroDigest_hex

set_option maxRecDepth 20000 in
theorem sampleCall_admitted :
    checkStore asciiRuntime sampleLibrary { campaignId := "campaign-1" } sampleCall =
      .ok sampleHandle := by
  decide +kernel

/-- The password is read back under its handle and under the text of it. -/
theorem roundTrip_sample : ∃ vault results,
    storeAll asciiRuntime sampleLibrary { campaignId := "campaign-1" } [sampleCall] =
      (vault, results) ∧
    readRaw sampleLibrary vault (.handle sampleHandle) = .ok samplePayload ∧
    readRaw sampleLibrary vault (.uri sampleHandle.uri) = .ok samplePayload := by
  have hstored : (store asciiRuntime sampleLibrary { campaignId := "campaign-1" } sampleCall).2 =
      .ok sampleHandle := by
    unfold store
    rw [sampleCall_admitted]
    rfl
  have hids : ([sampleCall].map (·.handleId)).Nodup := List.nodup_singleton _
  cases hrun : storeAll asciiRuntime sampleLibrary { campaignId := "campaign-1" } [sampleCall] with
  | mk vault results =>
    have hreturned : (sampleCall, .ok sampleHandle) ∈ results := by
      have hresults := congrArg Prod.snd hrun
      simp only [storeAll, hstored] at hresults
      rw [← hresults]
      exact List.mem_cons_self
    obtain ⟨hread, huri, -⟩ := (roundTrip sampleLibrary_inverts hids hrun).1 _ _ hreturned
    exact ⟨vault, results, rfl, hread, huri⟩

end Aotp.Vault
