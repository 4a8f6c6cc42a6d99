import Aotp.Gate.Require
import Aotp.Lib.Framing

/-!
# The digests of template bundles

* `hashTemplateBundle`, `verifyTemplateSource` — the digest of a file or of a directory, and the
  comparison with the registered one.
* `bundleStream` — what is hashed of a directory: each path and each content behind its length.
* `held` — the files of a directory, as relative paths with contents.
* `stream_injective` — **the stream of a directory determines what the directory holds**.
* `bundleHash_injective` — so does its digest, where SHA-256 does not collide on the two streams.
-/

namespace Aotp.Templates

open PyData Aotp.Gate Framing

/-! ### Bundles -/

/-- What `rglob("*")` yields below a directory: the names of the path, relative to the directory,
whether it is a file, and what reading it gives. A name whose bytes are no UTF-8 has no encoding, so
that a directory with one is refused. -/
structure BundleItem where
  parts : List String
  isFile : Bool
  content : Except Exc (List UInt8)

/-- What stands at a path. -/
inductive BundleKind where
  | file (content : Except Exc (List UInt8))
  | directory (items : List BundleItem)
  | missing

structure Bundle where
  path : String
  kind : BundleKind

/-- `item.relative_to(bundle).as_posix()`. -/
def BundleItem.relative (item : BundleItem) : String := String.intercalate "/" item.parts

/-- `text.encode()`. -/
def encode (text : String) : List UInt8 := text.toByteArray.data.toList

/-- `len(data).to_bytes(8, "big") + data`. -/
def framed (data : List UInt8) : Except Exc (List UInt8) := do
  guardE (decide (data.length < 256 ^ 8)) .overflowError
  pure (lengthPrefixed 8 data)

/-- What one file adds to the digest.
Source: `template_registry.hash_template_bundle`, the loop -/
def itemStream (item : BundleItem) : Except Exc (List UInt8) := do
  let relative ← framed (encode item.relative)
  let content ← item.content
  let framedContent ← framed content
  pure (relative ++ framedContent)

/-- `sorted(item for item in bundle.rglob("*") if item.is_file())`. -/
def filesOf (items : List BundleItem) : List BundleItem :=
  (items.filter fun item => item.isFile).insertionSort fun a b => a.parts ≤ b.parts

/-- What is hashed of a directory.
Source: `template_registry.hash_template_bundle`, the updates of `digest` -/
def bundleStream (items : List BundleItem) : Except Exc (List UInt8) := do
  let streams ← (filesOf items).mapM itemStream
  pure streams.flatten

section digest

variable (sha256 : List UInt8 → String)

/-- Source: `template_registry.hash_template_bundle` -/
def hashTemplateBundle (bundle : Bundle) : Except Exc String :=
  match bundle.kind with
  | .file content => do
    let bytes ← content
    pure (sha256 bytes)
  | .missing => throw (configError ("template bundle does not exist: " ++ bundle.path))
  | .directory items => do
    guardE (!(filesOf items).isEmpty)
      (configError ("template bundle directory is empty: " ++ bundle.path))
    let stream ← bundleStream items
    pure (sha256 stream)

/-- The fields of a registered source that its verification reads.
Source: `template_registry.TemplateSource` -/
structure TemplateSource where
  kind : String
  licenseReviewed : Bool
  enabled : Bool
  localPath : String
  sha256 : String
  signatureRequired : Bool

/-- `isinstance(exc, (ConfigError, OSError))`. -/
def isReported : Exc → Bool
  | .custom cls _ => cls == "ConfigError"
  | .osError => true
  | _ => false

/-- The failure of a bundle with another digest. -/
def digestMismatch : String := "template bundle SHA256 does not match registry"

/-- What the digest of a bundle says against a source.
Source: `template_registry.verify_template_source`, the `try` statement -/
def digestFailures (source : TemplateSource) (bundle : Bundle) : Except Exc (List String) :=
  match hashTemplateBundle sha256 bundle with
  | .ok actual => pure (if actual = source.sha256 then [] else [digestMismatch])
  | .error e => if isReported e then pure [e.text] else throw e

/-- `bundleAt` is what stands at a path below the directory of the registry.
Source: `template_registry.verify_template_source` -/
def verifyTemplateSource (source : TemplateSource) (bundleAt : String → Bundle) :
    Except Exc (List String) := do
  let disabled := if source.enabled then [] else ["template source is disabled"]
  let unreviewed :=
    if source.licenseReviewed then [] else ["template source license has not been reviewed"]
  let digest ← digestFailures sha256 source (bundleAt source.localPath)
  let unsigned :=
    if source.kind = "nuclei_yaml" ∧ source.signatureRequired = false then
      ["Nuclei template sources must require signatures"]
    else []
  pure (disabled ++ unreviewed ++ digest ++ unsigned)

/-- SHA-256 has no collision between the streams of two directories. -/
def CollisionFree (items items' : List BundleItem) : Prop :=
  ∀ stream stream', bundleStream items = .ok stream → bundleStream items' = .ok stream' →
    sha256 stream = sha256 stream' → stream = stream'

end digest

/-- The files of a directory: relative paths with contents. -/
def held (items : List BundleItem) : Set (String × List UInt8) :=
  { p | ∃ item ∈ items, item.isFile = true ∧ item.relative = p.1 ∧ item.content = .ok p.2 }

/-! ### The stream of a directory -/

theorem encode_injective : Function.Injective encode := by
  intro s t heq
  apply String.toByteArray_inj.mp
  apply ByteArray.ext
  exact Array.toList_inj.mp heq

/-- A path and a content that fit behind their lengths. -/
def Fits (p : String × List UInt8) : Prop :=
  (encode p.1).length < 256 ^ 8 ∧ p.2.length < 256 ^ 8

/-- A path and a content as they are hashed. -/
def pairStream (p : String × List UInt8) : List UInt8 :=
  lengthPrefixed 8 (encode p.1) ++ lengthPrefixed 8 p.2

theorem framed_pairStream : Framed Fits pairStream :=
  ((framed_lengthPrefixed 8).comp encode_injective).seq (framed_lengthPrefixed 8)

theorem pairStream_ne_nil (p : String × List UInt8) : pairStream p ≠ [] :=
  List.append_ne_nil_of_left_ne_nil (lengthPrefixed_ne_nil (by decide) _) _

theorem framed_eq_ok {data bytes : List UInt8} :
    framed data = .ok bytes ↔ data.length < 256 ^ 8 ∧ bytes = lengthPrefixed 8 data := by
  unfold framed
  simp only [bind_eq_ok, guardE_eq_ok, decide_eq_true_eq, pure, Except.pure, Except.ok.injEq]
  constructor
  · rintro ⟨-, hlength, heq⟩
    exact ⟨hlength, heq.symm⟩
  · rintro ⟨hlength, heq⟩
    exact ⟨(), hlength, heq.symm⟩

/-- **What a file adds to the digest** is its path and its content, each behind its length. -/
theorem itemStream_eq_ok {item : BundleItem} {bytes : List UInt8} :
    itemStream item = .ok bytes ↔ ∃ content, item.content = .ok content ∧
      Fits (item.relative, content) ∧ bytes = pairStream (item.relative, content) := by
  unfold itemStream
  simp only [bind_eq_ok, framed_eq_ok, pure, Except.pure, Except.ok.injEq]
  constructor
  · rintro ⟨_, ⟨hpath, rfl⟩, content, hcontent, _, ⟨hlength, rfl⟩, rfl⟩
    exact ⟨content, hcontent, ⟨hpath, hlength⟩, rfl⟩
  · rintro ⟨content, hcontent, ⟨hpath, hlength⟩, rfl⟩
    exact ⟨_, ⟨hpath, rfl⟩, content, hcontent, _, ⟨hlength, rfl⟩, rfl⟩

theorem mem_filesOf {items : List BundleItem} {item : BundleItem} :
    item ∈ filesOf items ↔ item ∈ items ∧ item.isFile = true := by
  unfold filesOf
  rw [(List.perm_insertionSort _ _).mem_iff, List.mem_filter]

/-- The files of a list, as paths with contents, where all of them can be read. -/
theorem mapM_itemStream {files : List BundleItem} {streams : List (List UInt8)}
    (h : files.mapM itemStream = .ok streams) :
    ∃ pairs : List (String × List UInt8), (∀ p ∈ pairs, Fits p) ∧ streams = pairs.map pairStream ∧
      ∀ p, p ∈ pairs ↔ ∃ item ∈ files, item.relative = p.1 ∧ item.content = .ok p.2 := by
  rw [mapM_eq_ok] at h
  induction h with
  | nil => exact ⟨[], by simp, rfl, by simp⟩
  | @cons item bytes _ _ hitem _ ih =>
    obtain ⟨content, hcontent, hfits, rfl⟩ := itemStream_eq_ok.mp hitem
    obtain ⟨pairs, hall, rfl, hmem⟩ := ih
    refine ⟨(item.relative, content) :: pairs, List.forall_mem_cons.mpr ⟨hfits, hall⟩, rfl, ?_⟩
    intro p
    rw [List.mem_cons, hmem]
    simp only [List.exists_mem_cons_iff]
    constructor
    · rintro (rfl | hrest)
      · exact .inl ⟨rfl, hcontent⟩
      · exact .inr hrest
    · rintro (⟨hpath, hread⟩ | hrest)
      · rw [hcontent, Except.ok.injEq] at hread
        exact .inl (Prod.ext hpath.symm hread.symm)
      · exact .inr hrest

theorem bundleStream_pairs {items : List BundleItem} {stream : List UInt8}
    (h : bundleStream items = .ok stream) :
    ∃ pairs : List (String × List UInt8), (∀ p ∈ pairs, Fits p) ∧
      stream = (pairs.map pairStream).flatten ∧ held items = { p | p ∈ pairs } := by
  simp only [bundleStream, bind_eq_ok, pure, Except.pure, Except.ok.injEq] at h
  obtain ⟨streams, hstreams, rfl⟩ := h
  obtain ⟨pairs, hfits, rfl, hmem⟩ := mapM_itemStream hstreams
  refine ⟨pairs, hfits, rfl, ?_⟩
  ext p
  show (∃ item ∈ items, item.isFile = true ∧ item.relative = p.1 ∧ item.content = .ok p.2) ↔
    p ∈ pairs
  rw [hmem]
  constructor
  · rintro ⟨item, hitem, hfile, hrest⟩
    exact ⟨item, mem_filesOf.mpr ⟨hitem, hfile⟩, hrest⟩
  · rintro ⟨item, hitem, hrest⟩
    obtain ⟨hin, hfile⟩ := mem_filesOf.mp hitem
    exact ⟨item, hin, hfile, hrest⟩

/-- **The stream of a directory determines what the directory holds.** -/
theorem stream_injective {items items' : List BundleItem} {stream : List UInt8}
    (h : bundleStream items = .ok stream) (h' : bundleStream items' = .ok stream) :
    held items = held items' := by
  obtain ⟨pairs, hfits, hstream, hheld⟩ := bundleStream_pairs h
  obtain ⟨pairs', hfits', hstream', hheld'⟩ := bundleStream_pairs h'
  have hsame : pairs = pairs' := by
    apply framed_pairStream.flatten (fun p _ => pairStream_ne_nil p) hfits hfits'
    rw [← hstream, ← hstream']
  rw [hheld, hheld', hsame]

/-! ### The digest of a directory -/

variable {sha256 : List UInt8 → String} {items items' : List BundleItem} {path path' digest : String}

theorem hash_directory (h : hashTemplateBundle sha256 ⟨path, .directory items⟩ = .ok digest) :
    ∃ stream, bundleStream items = .ok stream ∧ digest = sha256 stream := by
  unfold hashTemplateBundle at h
  simp only [bind_eq_ok, pure, Except.pure, Except.ok.injEq] at h
  obtain ⟨⟨⟩, -, stream, hstream, hdigest⟩ := h
  exact ⟨stream, hstream, hdigest.symm⟩

theorem held_of_digest (hfree : CollisionFree sha256 items items')
    (h : hashTemplateBundle sha256 ⟨path, .directory items⟩ = .ok digest)
    (h' : hashTemplateBundle sha256 ⟨path', .directory items'⟩ = .ok digest) :
    held items = held items' := by
  obtain ⟨stream, hstream, hdigest⟩ := hash_directory h
  obtain ⟨stream', hstream', hdigest'⟩ := hash_directory h'
  have hsame : stream = stream' := by
    apply hfree stream stream' hstream hstream'
    rw [← hdigest, ← hdigest']
  exact stream_injective hstream (hsame ▸ hstream')

/-- A bundle without a failure of its digest has the registered one. -/
theorem digest_of_verified {source : TemplateSource} {bundleAt : String → Bundle}
    {failures : List String} (h : verifyTemplateSource sha256 source bundleAt = .ok failures)
    (hmatches : digestMismatch ∉ failures)
    (hhashed : ∀ e, hashTemplateBundle sha256 (bundleAt source.localPath) = .error e →
      e.text ∉ failures) :
    hashTemplateBundle sha256 (bundleAt source.localPath) = .ok source.sha256 := by
  simp only [verifyTemplateSource, bind_eq_ok, pure, Except.pure, Except.ok.injEq] at h
  obtain ⟨reported, hdigest, rfl⟩ := h
  simp only [List.mem_append, not_or] at hmatches hhashed
  unfold digestFailures at hdigest
  cases hhash : hashTemplateBundle sha256 (bundleAt source.localPath) with
  | ok actual =>
    rw [hhash] at hdigest
    by_cases hsame : actual = source.sha256
    · rw [hsame]
    · simp only [if_neg hsame, pure, Except.pure, Except.ok.injEq] at hdigest
      subst hdigest
      exact absurd List.mem_cons_self hmatches.1.2
  | error e =>
    rw [hhash] at hdigest
    simp only at hdigest
    split at hdigest
    · cases hdigest
      exact absurd List.mem_cons_self (hhashed e hhash).1.2
    · cases hdigest

/-- **Template bundle hashing is injective**: two directories with one digest hold the same files, and
the verification of a source reports no failure of the digest of a directory only if it holds what
the directory holds that the registered digest was computed from. -/
theorem bundleHash_injective
    (hregistered : hashTemplateBundle sha256 ⟨path', .directory items'⟩ = .ok digest)
    (hfree : CollisionFree sha256 items items') :
    (hashTemplateBundle sha256 ⟨path, .directory items⟩ = .ok digest → held items = held items') ∧
    ∀ source bundleAt failures, source.sha256 = digest →
      bundleAt source.localPath = ⟨path, .directory items⟩ →
      verifyTemplateSource sha256 source bundleAt = .ok failures → digestMismatch ∉ failures →
      (∀ e, hashTemplateBundle sha256 (bundleAt source.localPath) = .error e →
        e.text ∉ failures) →
      held items = held items' := by
  constructor
  · intro h
    exact held_of_digest hfree h hregistered
  · intro source bundleAt failures hsource hbundle hverify hmatches hhashed
    have hdigest := digest_of_verified hverify hmatches hhashed
    rw [hbundle, hsource] at hdigest
    exact held_of_digest hfree hdigest hregistered

/-! ### Two listings of a directory -/

/-- A digest that shows what it is computed from. -/
def plainDigest (bytes : List UInt8) : String := String.ofList (bytes.map fun b => Char.ofNat b.toNat)

def ruleFile : BundleItem := ⟨["rules", "a.yaml"], true, .ok [105, 100]⟩

def rulesDirectory : BundleItem := ⟨["rules"], false, .error .osError⟩

theorem bundleHash_injective_listings : ∃ digest,
    hashTemplateBundle plainDigest ⟨"a", .directory [rulesDirectory, ruleFile]⟩ = .ok digest ∧
    hashTemplateBundle plainDigest ⟨"b", .directory [ruleFile]⟩ = .ok digest ∧
    held [rulesDirectory, ruleFile] = held [ruleFile] := by
  have hfile : ∃ stream, itemStream ruleFile = .ok stream :=
    ⟨_, itemStream_eq_ok.mpr ⟨[105, 100], rfl, ⟨by decide +kernel, by decide⟩, rfl⟩⟩
  obtain ⟨stream, hstream⟩ := hfile
  have hfree : CollisionFree plainDigest [rulesDirectory, ruleFile] [ruleFile] := by
    intro s s' hs hs' _
    exact Except.ok.inj (hs.symm.trans hs')
  have hone : hashTemplateBundle plainDigest ⟨"b", .directory [ruleFile]⟩ =
      .ok (plainDigest [stream].flatten) := by
    have hread : bundleStream [ruleFile] = .ok [stream].flatten :=
      bind_eq_ok.mpr ⟨[stream], mapM_eq_ok.mpr (.cons hstream .nil), rfl⟩
    exact bind_eq_ok.mpr ⟨(), rfl, bind_eq_ok.mpr ⟨_, hread, rfl⟩⟩
  have hother : hashTemplateBundle plainDigest ⟨"a", .directory [rulesDirectory, ruleFile]⟩ =
      .ok (plainDigest [stream].flatten) := hone
  exact ⟨_, hother, hone, (bundleHash_injective hone hfree).1 hother⟩

end Aotp.Templates
