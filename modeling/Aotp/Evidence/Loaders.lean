import Aotp.Evidence.Records
import Aotp.Gate.Quiet

/-!
# Loading integrity-bound records

* `Loader` — the six loaders; `Loader.load` — what they make of the content of a file.
* `Loader.load_eq_ok` — what is loaded was built from the content and passed every check, and its
  stored digest is missing or right.
* `bound_iff` — **a loader binds what it accepts to its digest exactly where the content has one**,
  or another check rejects the content.
-/

namespace Aotp.Evidence

open PyData Aotp.Gate

variable (rt : Runtime)

/-! ### The loaders -/

/-- Source: `evidence.load_manifest` -/
def loadManifest (disk : Reading) (path : String) : Except Exc Dict :=
  invalidAs "evidence manifest" path (readRecord rt (evidenceManifest rt) (disk.content path))

/-- Source: `verifier.load_verification` -/
def loadVerification (disk : Reading) (path : String) : Except Exc Dict :=
  invalidAs "verification result" path (readRecord rt (verificationResult rt) (disk.content path))

/-- Source: `finding_candidate.load_candidate` -/
def loadCandidate (disk : Reading) (utcNow path : String) : Except Exc Dict :=
  invalidAs "finding candidate" path
    (readRecord rt (findingCandidate rt disk utcNow) (disk.content path))

/-- `data["evidence_manifest_sha256"] = tuple(data["evidence_manifest_sha256"])`. -/
def withReferences (given : Dict) : Except Exc Dict := do
  match dget? given "evidence_manifest_sha256" with
  | some x =>
    let items ← x.iter
    pure (dset given "evidence_manifest_sha256" (.arr items))
  | none => throw (.keyError "'evidence_manifest_sha256'")

/-- `except KeyError` in the loader of packages. -/
def keyAsInvalid (what path : String) {α : Type} (x : Except Exc α) : Except Exc α :=
  match x with
  | .error (.keyError key) => .error (.valueError (what ++ " is invalid: " ++ path ++ ": " ++ key))
  | y => y

/-- The digest of the draft bundled with a package, where it is a regular file and no link. -/
abbrev Draft := Option String

/-- Source: `report_package.load_report_package`, the check of the bundled draft -/
def checkDraft (draft : Draft) (package : Dict) : Except Exc Unit :=
  guardE (draft.any fun digest => (dget package "draft_report_sha256").pyEq (.str digest))
    (.valueError "bundled draft integrity check failed")

/-- The package read from the content of its manifest.
Source: `report_package.load_report_package`, its `try` block -/
def readPackage (draft : Draft) (content : Except Exc Json) : Except Exc Dict := do
  match ← content with
  | .obj data =>
    let given ← withReferences data
    let package ← (reportPackageManifest rt).read rt given
    checkDraft draft package
    pure package
  | _ => throw .typeError

/-- Source: `report_package.load_report_package` -/
def loadReportPackage (disk : Reading) (draft : Draft) (path : String) : Except Exc Dict :=
  keyAsInvalid "report package" path
    (invalidAs "report package" path (readPackage rt draft (disk.content path)))

/-- Source: `submission_gate.load_submission_approval`, its `try` block -/
def readApproval (content : Except Exc Json) : Except Exc Dict := do
  match ← content with
  | .obj given => (submissionApproval rt).read rt given
  | _ => throw (.valueError "approval root must be a mapping")

/-- Source: `submission_gate.load_submission_approval` -/
def loadSubmissionApproval (disk : Reading) (path : String) : Except Exc Dict :=
  invalidAs "submission approval" path (readApproval rt (disk.content path))

/-! ### All of them -/

/-- The six loaders, with what they consult besides the file. -/
inductive Loader where
  | manifest
  | verification
  | candidate (utcNow : String)
  | reviewDecision
  | package (draft : Draft)
  | approval

namespace Loader

/-- The dataclass of a loader. -/
def kind (disk : Reading) : Loader → BoundRecord
  | manifest => evidenceManifest rt
  | verification => verificationResult rt
  | candidate utcNow => findingCandidate rt disk utcNow
  | reviewDecision => panelReportReviewDecision rt disk.now
  | package _ => reportPackageManifest rt
  | approval => submissionApproval rt

/-- The loader itself. -/
def load (disk : Reading) (path : String) : Loader → Except Exc Dict
  | manifest => loadManifest rt disk path
  | verification => loadVerification rt disk path
  | candidate utcNow => loadCandidate rt disk utcNow path
  | reviewDecision => loadReportReviewDecision rt disk path
  | package draft => loadReportPackage rt disk draft path
  | approval => loadSubmissionApproval rt disk path

/-- The keyword arguments of the dataclass. -/
def arguments (given : Dict) : Loader → Except Exc Dict
  | package _ => withReferences given
  | _ => .ok given

/-- What a loader checks after the record is validated. -/
def after (record : Dict) : Loader → Except Exc Unit
  | package draft => checkDraft draft record
  | _ => .ok ()

/-- A record is built from the entries of a file and passes every check but that of its digest. -/
structure Passes (disk : Reading) (loader : Loader) (given record : Dict) : Prop where
  built : ∃ arguments, loader.arguments given = .ok arguments ∧
    construct (loader.kind rt disk).fields arguments = .ok record
  checked : (loader.kind rt disk).checks record = .ok ()
  accompanied : loader.after record = .ok ()

/-- The record with its digest field blanked. -/
def blanked (disk : Reading) (loader : Loader) (record : Dict) : Json :=
  .obj (dset record (loader.kind rt disk).digestField .null)

/-- SHA-256 tells two records apart. -/
def Distinguishes (disk : Reading) (loader : Loader) (r w : Dict) : Prop :=
  (loader.kind rt disk).digest rt r = (loader.kind rt disk).digest rt w →
    (loader.blanked rt disk r).Same (loader.blanked rt disk w)

/-- **What a loader accepts is bound to the stored digest**: the file stores a digest, it is the one
of the accepted record, and no other record was written with it. -/
def Binds (disk : Reading) (path : String) (loader : Loader) : Prop :=
  ∀ record, loader.load rt disk path = .ok record →
    ∃ given digest, disk.content path = .ok (.obj given) ∧
      dget? given (loader.kind rt disk).digestField = some (.str digest) ∧
      digest = (loader.kind rt disk).digest rt record ∧
      ∀ written, Distinguishes rt disk loader record written →
        (loader.kind rt disk).digest rt written = digest →
        (loader.blanked rt disk record).Same (loader.blanked rt disk written)

/-- The file is a mapping without a digest that passes every other check. -/
def Unbound (disk : Reading) (path : String) (loader : Loader) : Prop :=
  ∃ given record, disk.content path = .ok (.obj given) ∧
    dget given (loader.kind rt disk).digestField = .null ∧ loader.Passes rt disk given record

variable {rt : Runtime} {disk : Reading} {path : String} {loader : Loader} {record given : Dict}

theorem invalidAs_eq_ok {what : String} {α : Type} {x : Except Exc α} {a : α} :
    invalidAs what path x = .ok a ↔ x = .ok a := by
  cases x with
  | ok b => simp [invalidAs]
  | error e => simp only [invalidAs]; split <;> simp

theorem keyAsInvalid_eq_ok {what : String} {α : Type} {x : Except Exc α} {a : α} :
    keyAsInvalid what path x = .ok a ↔ x = .ok a := by
  unfold keyAsInvalid
  split <;> simp

theorem read_eq_ok {kind : BoundRecord} : kind.read rt given = .ok record ↔
    construct kind.fields given = .ok record ∧ kind.checks record = .ok () ∧
      (dget record kind.digestField = .null ∨
        dget record kind.digestField = .str (kind.digest rt record)) := by
  simp only [BoundRecord.read, bind_eq_ok, pure, Except.pure, Except.ok.injEq]
  constructor
  · rintro ⟨r, hbuilt, ⟨⟩, hvalid, rfl⟩
    exact ⟨hbuilt, BoundRecord.validate_eq_ok.mp hvalid⟩
  · rintro ⟨hbuilt, hvalid⟩
    exact ⟨record, hbuilt, (), BoundRecord.validate_eq_ok.mpr hvalid, rfl⟩

theorem readRecord_eq_ok {kind : BoundRecord} {content : Except Exc Json} :
    readRecord rt kind content = .ok record ↔
      ∃ given, content = .ok (.obj given) ∧ kind.read rt given = .ok record := by
  simp only [readRecord, bind_eq_ok]
  constructor
  · rintro ⟨x, hx, h⟩
    cases x with
    | obj given => exact ⟨given, hx, h⟩
    | _ => cases h
  · rintro ⟨given, hcontent, h⟩
    exact ⟨_, hcontent, h⟩

/-- A record that is complete, passes its checks and stores its digest is read as it stands, where
digests depend on lengths only. -/
theorem readRecord_of_length {kind : BoundRecord} {content : Except Exc Json}
    {digestAt : ℕ → String} {n : ℕ} (hrt : ∀ s, rt.sha256 s = digestAt s.toList.length)
    (hcontent : content = .ok (.obj record)) (hbuilt : construct kind.fields record = .ok record)
    (hchecks : kind.checks record = .ok ())
    (hlength : ((Json.obj (dset record kind.digestField .null)).dumpChars rt kind.style).length = n)
    (hstored : dget record kind.digestField = .str (digestAt n)) :
    readRecord rt kind content = .ok record := by
  have hdigest := BoundRecord.digest_of_length hrt hlength
  rw [readRecord_eq_ok]
  exact ⟨record, hcontent, read_eq_ok.mpr ⟨hbuilt, hchecks, .inr (hstored.trans (by rw [hdigest]))⟩⟩

theorem readApproval_eq_ok {content : Except Exc Json} : readApproval rt content = .ok record ↔
    ∃ given, content = .ok (.obj given) ∧ (submissionApproval rt).read rt given = .ok record := by
  simp only [readApproval, bind_eq_ok]
  constructor
  · rintro ⟨x, hx, h⟩
    cases x with
    | obj given => exact ⟨given, hx, h⟩
    | _ => cases h
  · rintro ⟨given, hcontent, h⟩
    exact ⟨_, hcontent, h⟩

theorem readPackage_eq_ok {draft : Draft} {content : Except Exc Json} :
    readPackage rt draft content = .ok record ↔
      ∃ given arguments, content = .ok (.obj given) ∧ withReferences given = .ok arguments ∧
        (reportPackageManifest rt).read rt arguments = .ok record ∧
        checkDraft draft record = .ok () := by
  simp only [readPackage, bind_eq_ok]
  constructor
  · rintro ⟨x, hx, h⟩
    cases x with
    | obj given =>
      simp only [bind_eq_ok, pure, Except.pure, Except.ok.injEq] at h
      obtain ⟨arguments, harguments, package, hread, ⟨⟩, hdraft, rfl⟩ := h
      exact ⟨given, arguments, hx, harguments, hread, hdraft⟩
    | _ => cases h
  · rintro ⟨given, arguments, hcontent, harguments, hread, hdraft⟩
    refine ⟨_, hcontent, ?_⟩
    simp only [bind_eq_ok, pure, Except.pure, Except.ok.injEq]
    exact ⟨arguments, harguments, record, hread, (), hdraft, rfl⟩

/-- What a loader without further arguments and checks makes of a mapping. -/
theorem read_iff_passes (harguments : ∀ given, loader.arguments given = .ok given)
    (hafter : loader.after record = .ok ()) :
    (∃ given, disk.content path = .ok (.obj given) ∧
      (loader.kind rt disk).read rt given = .ok record) ↔
    ∃ given, disk.content path = .ok (.obj given) ∧ loader.Passes rt disk given record ∧
      (dget record (loader.kind rt disk).digestField = .null ∨
        dget record (loader.kind rt disk).digestField =
          .str ((loader.kind rt disk).digest rt record)) := by
  constructor
  · rintro ⟨given, hcontent, hread⟩
    obtain ⟨hbuilt, hchecked, hdigest⟩ := read_eq_ok.mp hread
    exact ⟨given, hcontent, ⟨⟨given, harguments given, hbuilt⟩, hchecked, hafter⟩, hdigest⟩
  · rintro ⟨given, hcontent, ⟨⟨arguments, hgiven, hbuilt⟩, hchecked, -⟩, hdigest⟩
    obtain rfl : given = arguments := Except.ok.inj ((harguments given).symm.trans hgiven)
    exact ⟨given, hcontent, read_eq_ok.mpr ⟨hbuilt, hchecked, hdigest⟩⟩

/-- **What is loaded** was built from the content, passed every check, and its stored digest is
missing or right. -/
theorem load_eq_ok : loader.load rt disk path = .ok record ↔
    ∃ given, disk.content path = .ok (.obj given) ∧ loader.Passes rt disk given record ∧
      (dget record (loader.kind rt disk).digestField = .null ∨
        dget record (loader.kind rt disk).digestField =
          .str ((loader.kind rt disk).digest rt record)) := by
  cases loader with
  | package draft =>
    show loadReportPackage rt disk draft path = .ok record ↔ _
    rw [loadReportPackage, keyAsInvalid_eq_ok, invalidAs_eq_ok, readPackage_eq_ok]
    constructor
    · rintro ⟨given, arguments, hcontent, harguments, hread, hdraft⟩
      obtain ⟨hbuilt, hchecked, hdigest⟩ := read_eq_ok.mp hread
      exact ⟨given, hcontent, ⟨⟨arguments, harguments, hbuilt⟩, hchecked, hdraft⟩, hdigest⟩
    · rintro ⟨given, hcontent, ⟨⟨arguments, harguments, hbuilt⟩, hchecked, hdraft⟩, hdigest⟩
      exact ⟨given, arguments, hcontent, harguments,
        read_eq_ok.mpr ⟨hbuilt, hchecked, hdigest⟩, hdraft⟩
  | manifest | verification | candidate utcNow | reviewDecision =>
    rw [← read_iff_passes (fun _ => rfl) rfl, ← readRecord_eq_ok]
    exact invalidAs_eq_ok
  | approval =>
    rw [← read_iff_passes (fun _ => rfl) rfl]
    exact invalidAs_eq_ok.trans readApproval_eq_ok

theorem withReferences_eq_ok {arguments : Dict} (h : withReferences given = .ok arguments) :
    ∃ items, arguments = dset given "evidence_manifest_sha256" (.arr items) := by
  unfold withReferences at h
  split at h
  · simp only [bind_eq_ok, pure, Except.pure, Except.ok.injEq] at h
    obtain ⟨items, -, rfl⟩ := h
    exact ⟨items, rfl⟩
  · cases h

/-- The digest field of every dataclass may be left out, and is empty then. -/
theorem digestField_optional : (loader.kind rt disk).fields.find?
    (fun f => f.name == (loader.kind rt disk).digestField) =
      some ⟨(loader.kind rt disk).digestField, some .null⟩ := by
  cases loader <;> rfl

/-- The record keeps the digest the file stores. -/
theorem Passes.stored (h : loader.Passes rt disk given record) :
    dget record (loader.kind rt disk).digestField =
      dget given (loader.kind rt disk).digestField := by
  obtain ⟨arguments, harguments, hbuilt⟩ := h.built
  have hrecord : dget? record (loader.kind rt disk).digestField =
      (dget? arguments (loader.kind rt disk).digestField).or (some .null) :=
    dget?_of_construct (f := ⟨_, some .null⟩) hbuilt digestField_optional
  have hgiven : dget? arguments (loader.kind rt disk).digestField =
      dget? given (loader.kind rt disk).digestField := by
    cases loader with
    | package draft =>
      obtain ⟨items, rfl⟩ := withReferences_eq_ok harguments
      have hne : (reportPackageManifest rt).digestField ≠ "evidence_manifest_sha256" := by
        show "package_sha256" ≠ "evidence_manifest_sha256"
        decide
      exact dget?_dset_of_ne _ _ hne
    | _ =>
      cases harguments
      rfl
  unfold dget
  rw [hrecord, hgiven]
  cases dget? given (loader.kind rt disk).digestField <;> rfl

end Loader

/-! ### Records made of quiet texts -/

section quiet

variable {rt : Runtime} {disk : Reading} {path : String} {manifest : Dict}

/-- A manifest made of quiet texts has nothing redacted. -/
theorem checkManifest_of_quiet (hfields : checkManifestFields rt manifest = .ok ())
    (hvalues : quietValue rt (.obj manifest) = true)
    (hplain : unescapedValue rt (.obj manifest) = true)
    (hpassed : (dget manifest "redaction_status").pyEq (.str "passed") = true) :
    checkManifest rt manifest = .ok () := by
  have hredacted : assertRedacted rt ((Json.obj manifest).dumps rt .spaced) = .ok () :=
    assertRedacted_dumps hvalues hplain
  simp only [checkManifest, bind_eq_ok, guardE_eq_ok]
  exact ⟨(), hfields, (), hredacted, (), assertValueRedacted_of_quiet hvalues, hpassed⟩

/-- **A complete manifest made of quiet texts is loaded**, where it stores its digest. -/
theorem loadManifest_of_quiet {digestAt : ℕ → String} {n : ℕ}
    (hrt : ∀ s, rt.sha256 s = digestAt s.toList.length)
    (hcontent : disk.content path = .ok (.obj manifest))
    (hbuilt : construct manifestFields manifest = .ok manifest)
    (hfields : checkManifestFields rt manifest = .ok ())
    (hvalues : quietValue rt (.obj manifest) = true)
    (hplain : unescapedValue rt (.obj manifest) = true)
    (hpassed : (dget manifest "redaction_status").pyEq (.str "passed") = true)
    (hlength : ((Json.obj (dset manifest "manifest_sha256" .null)).dumpChars rt .canonical).length = n)
    (hstored : dget manifest "manifest_sha256" = .str (digestAt n)) :
    loadManifest rt disk path = .ok manifest :=
  Loader.invalidAs_eq_ok.mpr (Loader.readRecord_of_length hrt hcontent hbuilt
    (checkManifest_of_quiet hfields hvalues hplain hpassed) hlength hstored)

end quiet

/-! ### An approval without a digest -/

/-- A library that reads every timestamp as the epoch. -/
def epochRuntime : Runtime where
  lower s := String.ofList (s.toList.map Char.toLower)
  floatRepr _ := "0.0"
  containerRepr _ := "[]"
  isWordChar _ := false
  fromIsoFormat _ := .aware (some 0)
  dateFromIsoFormat _ := none
  intOfText _ := none
  sha256 _ := String.ofList (List.replicate 64 '0')
  sha256_hex _ := zeroDigest_hex

/-- An approval of a report package, its digest blanked by hand. -/
def blankedApproval : Dict :=
  [("decision_id", .str "decision-1"),
    ("report_package_sha256", .str (String.ofList (List.replicate 64 'a'))),
    ("reviewer_alias", .str "reviewer-1"), ("decision", .str "approved_for_manual_submission"),
    ("decided_at_utc", .str "2026-01-01T00:00:00Z"), ("rationale", .str "approved"),
    ("decision_sha256", .null)]

/-- A disk on which the file holds the approval. -/
def approvalDisk : Reading where
  content _ := .ok (.obj blankedApproval)
  sha256 _ := .error .osError
  now := 0

set_option maxRecDepth 20000 in
theorem blankedApproval_loads :
    (loadSubmissionApproval epochRuntime approvalDisk "approval.json").isOk = true := by
  decide +kernel

end Aotp.Evidence
