import Aotp.Evidence.Report
import Aotp.Gate.Quiet
import Aotp.Lib.SortedValues

/-!
# What a report says about its findings

* `Supported` — a finding that is ready, reviewed and rated, and whose evidence allows it.
* `mem_ready` — the findings of a report are those that pass its filters.
* `recordAt_crypto` — the filter on cryptographic controls reads the first record a manifest
  registers.
* `sound_iff` — **every finding of a report is supported exactly where no record after the first one
  lists indicators that the first one does not**.
-/

namespace Aotp.Evidence

open PyData Aotp.Gate

variable (rt : Runtime) (archive : Archive)

/-- There is a valid review decision that is the finding's own, and that of its manifest. -/
def Reviewed (candidate : Dict) (hash : String) : Prop :=
  ∃ decision, loadReportReviewDecision rt archive.toReading
      (reviewText rt (dget candidate "report_review_reference")) = .ok decision ∧
    archive.sha256 (reviewText rt (dget candidate "report_review_reference")) =
      .ok (reviewText rt (dget candidate "report_review_sha256")) ∧
    dget decision "evidence_manifest_sha256" = .str hash ∧
    dget decision "reviewer_alias" = dget candidate "report_reviewer"

/-- A record of cryptographic controls that the manifest registers lists indicators. -/
def RegistersIndicators (entry : Entry) : Prop :=
  ∃ artifact ∈ withRole "cryptographic_controls_evidence" entry.2, ∃ record,
    artifactContent archive entry.1 artifact = .ok (.obj record) ∧
    (dget record "weak_algorithm_indicators").truthy = true

/-- The manifest of the verified evidence set that a finding names, and what it asks for. -/
structure EvidencedBy (entries : List Entry) (candidate : Dict) (entry : Entry) (hash : String) :
    Prop where
  named : namedEntry entries (.str hash) = some entry
  finding_hash : dget candidate "evidence_manifest_sha256" = .str hash
  manifest_hash : dget entry.2 "manifest_sha256" = .str hash
  verified : verifyEvidenceDirectory rt archive = .ok []
  present : entry.1 ∈ archive.manifestPaths
  loaded : loadManifest rt archive.toReading entry.1 = .ok entry.2
  reviewed : manifestRequiresReportReview entry.2 = .ok true → Reviewed rt archive candidate hash
  reachable : dget entry.2 "module_name" = .str "sbom_review" →
    dget candidate "reachability_status" = .str "verified" ∧
      dget candidate "exploitability_status" = .str "verified"
  weak : dget entry.2 "module_name" = .str "crypto_controls" →
    RegistersIndicators archive entry →
    dget candidate "crypto_indicator_status" = .str "verified_weakness"

/-- A finding that may be reported. -/
structure Supported (entries : List Entry) (candidate : Dict) : Prop where
  ready : dget candidate "state" = .str "ready_for_report"
  validated : (dget candidate "human_validated").truthy = true
  rated : ∃ severity ∈ ["informational", "low", "medium", "high", "critical"],
    dget candidate "severity_candidate" = .str severity
  strong : ∃ strength ∈ ["medium", "strong"], dget candidate "evidence_strength" = .str strength
  evidenced : ∃ entry hash, EvidencedBy rt archive entries candidate entry hash

/-- Whenever a report is generated, every finding it renders is supported. -/
def Sound : Prop :=
  ∀ text draft, generateMarkdown rt archive = .ok text → draftOf rt archive = .ok draft →
    ∀ candidate ∈ draft.ready, Supported rt archive draft.entries candidate

/-- A manifest of cryptographic controls lists indicators in a registered record, but not in the
first one, while the finding's own status is another one than that of a verified weakness. -/
structure Masked (candidate : Dict) (entry : Entry) : Prop where
  crypto : dget entry.2 "module_name" = .str "crypto_controls"
  first : ∀ artifact rest record,
    withRole "cryptographic_controls_evidence" entry.2 = artifact :: rest →
    artifactContent archive entry.1 artifact = .ok (.obj record) →
    (dget record "weak_algorithm_indicators").truthy = false
  other : RegistersIndicators archive entry
  unverified : dget candidate "crypto_indicator_status" ≠ .str "verified_weakness"

/-- A finding that passes the other filters names a manifest with masked indicators. -/
def Masks : Prop :=
  ∃ entries, loadEntries rt archive = .ok entries ∧ ∃ path ∈ archive.findingPaths,
    ∃ candidate entry, loadCandidate rt archive.toReading (archive.utcNow path) path =
      .ok candidate ∧
    namedEntry entries (dget candidate "evidence_manifest_sha256") = some entry ∧
    dget candidate "state" = .str "ready_for_report" ∧
    reportInclusionAllowed rt archive.toReading candidate (some entry.2) = .ok true ∧
    sbomRiskAllowed candidate entry.2 = true ∧ Masked archive candidate entry

variable {rt : Runtime} {archive : Archive} {entries : List Entry} {entry : Entry}
  {candidate : Dict} {records : Registered} {draft : ReportDraft} {path hash : String}

/-! ### What the checks of a finding say -/

/-- A member of a set of texts is one of them. -/
theorem mem_of_inTexts {x : Json} {texts : List String} (h : inTexts x texts = .ok true) :
    ∃ s ∈ texts, x = .str s := by
  cases hx : x.hashable with
  | false =>
    rw [inTexts_of_not_hashable hx] at h
    cases h
  | true =>
    rw [inTexts_of_hashable hx, Except.ok.injEq, List.any_eq_true] at h
    obtain ⟨s, hs, heq⟩ := h
    exact ⟨s, hs, (Json.pyEq_str_right s x).mp heq⟩

/-- What the checks ask of a finding that is ready. -/
theorem ready_of_checks (h : checkCandidate rt archive.toReading candidate = .ok ())
    (hready : dget candidate "state" = .str "ready_for_report") :
    (dget candidate "human_validated").truthy = true ∧
    (∃ severity ∈ ["informational", "low", "medium", "high", "critical"],
      dget candidate "severity_candidate" = .str severity) ∧
    (∃ strength ∈ ["medium", "strong"], dget candidate "evidence_strength" = .str strength) ∧
    (dget candidate "evidence_manifest_sha256").truthy = true := by
  simp only [checkCandidate, checkCandidateFields, bind_eq_ok] at h
  obtain ⟨⟨⟩, ⟨⟨⟩, hvocabulary, ⟨⟩, -, ⟨⟩, hreferences, ⟨⟩, hconfirmation, hreadiness⟩, -⟩ := h
  have hstate : (dget candidate "state").pyEq (.str "ready_for_report") = true := by
    rw [hready]
    simp
  have hnot : (dget candidate "state").pyEq (.str "observed") = false := by
    rw [hready]
    decide
  have hconfirmed : inTexts (dget candidate "state") ["confirmed", "ready_for_report"] =
      .ok true := by
    rw [hready]
    rfl
  simp only [checkVocabulary, bind_eq_ok, guardE_eq_ok, require_eq_ok] at hvocabulary
  obtain ⟨⟨⟩, -, ⟨⟩, -, ⟨⟩, -, ⟨⟩, hseverity, ⟨⟩, -, ⟨⟩, hstrength, -⟩ := hvocabulary
  simp only [checkReferences, hnot, bind_eq_ok, guardE_eq_ok, Bool.false_or] at hreferences
  obtain ⟨⟨⟩, hhash, -⟩ := hreferences
  simp only [checkConfirmation, hconfirmed, bind_eq_ok, guardE_eq_ok, Except.ok.injEq]
    at hconfirmation
  obtain ⟨confirmed, rfl, ⟨⟩, hvalidated, -⟩ := hconfirmation
  simp only [checkReadiness, hstate, bind_eq_ok, guardE_eq_ok] at hreadiness
  obtain ⟨⟨⟩, hrated, -⟩ := hreadiness
  have hunrated : ¬ dget candidate "severity_candidate" = .str "unrated" ∧
      ¬ dget candidate "evidence_strength" = .str "weak" := by
    simpa [← Json.pyEq_str_right] using hrated
  refine ⟨by simpa using hvalidated, ?_, ?_, hhash⟩
  · obtain ⟨severity, hmem, heq⟩ := mem_of_inTexts hseverity
    rcases List.mem_cons.mp hmem with rfl | hmem
    · exact absurd heq hunrated.1
    · exact ⟨severity, hmem, heq⟩
  · obtain ⟨strength, hmem, heq⟩ := mem_of_inTexts hstrength
    rcases List.mem_cons.mp hmem with rfl | hmem
    · exact absurd heq hunrated.2
    · exact ⟨strength, hmem, heq⟩

/-- A loaded finding passes its checks. -/
theorem checks_of_loadCandidate {utcNow : String}
    (h : loadCandidate rt archive.toReading utcNow path = .ok candidate) :
    checkCandidate rt archive.toReading candidate = .ok () := by
  have hload : Loader.load rt archive.toReading path (.candidate utcNow) = .ok candidate := h
  obtain ⟨given, -, hpasses, -⟩ := Loader.load_eq_ok.mp hload
  exact hpasses.checked

/-- The hash of a loaded manifest is a text, if it is there. -/
theorem hash_of_loadManifest {manifest : Dict}
    (h : loadManifest rt archive.toReading path = .ok manifest) :
    dget manifest "manifest_sha256" = .null ∨ ∃ s, dget manifest "manifest_sha256" = .str s := by
  have hload : Loader.load rt archive.toReading path .manifest = .ok manifest := h
  obtain ⟨given, -, -, hnull | hdigest⟩ := Loader.load_eq_ok.mp hload
  · exact .inl hnull
  · exact .inr ⟨_, hdigest⟩

/-- The reviewer of a loaded decision is a text. -/
theorem reviewer_of_loadReview {decision : Dict}
    (h : loadReportReviewDecision rt archive.toReading path = .ok decision) :
    ∃ reviewer, dget decision "reviewer_alias" = .str reviewer := by
  have hload : Loader.load rt archive.toReading path .reviewDecision = .ok decision := h
  obtain ⟨given, -, hpasses, -⟩ := Loader.load_eq_ok.mp hload
  have hchecks : checkReviewDecision rt archive.now decision = .ok () := hpasses.checked
  simp only [checkReviewDecision, bind_eq_ok] at hchecks
  obtain ⟨⟨⟩, -, ⟨⟩, -, ⟨⟩, -, reviewer, hreviewer, -⟩ := hchecks
  cases halias : dget decision "reviewer_alias" with
  | str s => exact ⟨s, rfl⟩
  | _ =>
    rw [halias] at hreviewer
    cases hreviewer

/-- What lets in a finding whose evidence requires a review. -/
theorem reviewed_of_allowed {manifest : Dict}
    (h : reportInclusionAllowed rt archive.toReading candidate (some manifest) = .ok true)
    (hrequired : manifestRequiresReportReview manifest = .ok true)
    (hhash : dget candidate "evidence_manifest_sha256" = .str hash) :
    Reviewed rt archive candidate hash := by
  simp only [reportInclusionAllowed, hrequired, bind_eq_ok, Except.ok.injEq] at h
  obtain ⟨required, rfl, h⟩ := h
  simp only [Bool.not_true, Bool.false_eq_true, if_false] at h
  split at h
  · cases h
  · split at h
    · cases h
    · cases hmatches : reviewMatches rt archive.toReading candidate (some manifest)
          (reviewText rt (dget candidate "report_review_reference"))
          (reviewText rt (dget candidate "report_review_sha256")) with
      | error e =>
        rw [hmatches] at h
        simp only at h
        split at h <;> cases h
      | ok b =>
        rw [hmatches] at h
        obtain rfl : b = true := Except.ok.inj h
        simp only [reviewMatches, bind_eq_ok, pure, Except.pure, Except.ok.injEq,
          Bool.and_eq_true, beq_iff_eq] at hmatches
        obtain ⟨decision, hload, digest, hdigest, ⟨⟨hsame, hevidence⟩, -⟩, hreviewer⟩ := hmatches
        obtain ⟨reviewer, halias⟩ := reviewer_of_loadReview hload
        rw [hhash, Json.pyEq_str_right] at hevidence
        rw [halias, Json.pyEq_str_left] at hreviewer
        exact ⟨decision, hload, hsame ▸ hdigest, hevidence, halias.trans hreviewer.symm⟩

/-! ### The entries of the evidence set -/

/-- The entries are the manifests of the directory. -/
theorem mem_of_loadEntries (h : loadEntries rt archive = .ok entries) (hmem : entry ∈ entries) :
    entry.1 ∈ archive.manifestPaths ∧ loadManifest rt archive.toReading entry.1 = .ok entry.2 := by
  obtain ⟨path, hpath, hload⟩ := forall₂_exists (mapM_eq_ok.mp h).flip hmem
  simp only [bind_eq_ok, pure, Except.pure, Except.ok.injEq] at hload
  obtain ⟨manifest, hmanifest, rfl⟩ := hload
  exact ⟨hpath, hmanifest⟩

/-- The entry a hash names is the last one with it. -/
theorem namedEntry_eq_some {x : Json} (h : namedEntry entries x = some entry) :
    (dget entry.2 "manifest_sha256").pyEq x = true ∧ ∃ before after,
      entries = before ++ entry :: after ∧
      ∀ e ∈ after, (dget e.2 "manifest_sha256").pyEq x = false := by
  unfold namedEntry at h
  rw [List.find?_eq_some_iff_append] at h
  obtain ⟨hmatches, after, before, hreverse, hafter⟩ := h
  refine ⟨hmatches, before.reverse, after.reverse, ?_, ?_⟩
  · have hsplit := congrArg List.reverse hreverse
    simpa using hsplit
  · intro e he
    simpa using hafter e (List.mem_reverse.mp he)

theorem registered_append {record : Entry → Except Exc (Option Dict)} {xs ys : List Entry} :
    registered record (xs ++ ys) = .ok records ↔ ∃ first second,
      registered record xs = .ok first ∧ registered record ys = .ok second ∧
        records = first ++ second := by
  induction xs generalizing records with
  | nil =>
    constructor
    · intro h
      exact ⟨[], records, rfl, h, rfl⟩
    · rintro ⟨first, second, hfirst, hsecond, rfl⟩
      cases hfirst
      exact hsecond
  | cons x xs ih =>
    simp only [List.cons_append, registered, bind_eq_ok, ih, pure, Except.pure, Except.ok.injEq]
    constructor
    · rintro ⟨found, hfound, _, ⟨first, second, hfirst, hsecond, rfl⟩, rfl⟩
      exact ⟨_, second, ⟨found, hfound, first, hfirst, rfl⟩, hsecond, (List.append_assoc _ _ _).symm⟩
    · rintro ⟨_, second, ⟨found, hfound, first, hfirst, rfl⟩, hsecond, rfl⟩
      exact ⟨found, hfound, _, ⟨first, second, hfirst, hsecond, rfl⟩,
        (List.append_assoc _ _ _).symm⟩

theorem registered_singleton {record : Entry → Except Exc (Option Dict)} {found : Option Dict}
    (h : record entry = .ok found) :
    registered record [entry] = .ok (found.map fun r => (hashKey entry.2, r)).toList := by
  simp [registered, h, bind, Except.bind, pure, Except.pure]

/-- The key of a registered record is that of its manifest. -/
theorem mem_registered {record : Entry → Except Exc (Option Dict)} {r : Json × Dict}
    (h : registered record entries = .ok records) (hr : r ∈ records) :
    ∃ e ∈ entries, r.1 = hashKey e.2 := by
  induction entries generalizing records with
  | nil =>
    cases h
    cases hr
  | cons e entries ih =>
    simp only [registered, bind_eq_ok, pure, Except.pure, Except.ok.injEq] at h
    obtain ⟨found, -, rest, hrest, rfl⟩ := h
    rcases List.mem_append.mp hr with hr | hr
    · cases found with
      | none => cases hr
      | some r' =>
        obtain rfl := List.mem_singleton.mp hr
        exact ⟨e, List.mem_cons_self, rfl⟩
    · obtain ⟨e', he', hkey⟩ := ih hrest hr
      exact ⟨e', List.mem_cons_of_mem _ he', hkey⟩

/-- The key of a manifest with a hash is that hash. -/
theorem hashKey_of_hash {manifest : Dict} (h : dget manifest "manifest_sha256" = .str hash)
    (hne : hash ≠ "") : hashKey manifest = .str hash := by
  unfold hashKey orElse
  rw [h, if_pos (by simpa [Json.truthy] using hne)]

/-- No other manifest has it for its key. -/
theorem hashKey_ne {manifest : Dict} (h : dget manifest "manifest_sha256" ≠ .str hash)
    (hne : hash ≠ "") : hashKey manifest ≠ .str hash := by
  unfold hashKey orElse
  split
  · exact h
  · intro heq
    exact hne (Json.str.inj heq).symm

/-- **The record of a named manifest is the one it registers.** -/
theorem recordAt_registered {record : Entry → Except Exc (Option Dict)} {r : Dict}
    (h : registered record entries = .ok records) (hne : hash ≠ "")
    (hnamed : namedEntry entries (.str hash) = some entry) (hrecord : record entry = .ok (some r)) :
    recordAt records (.str hash) = some r := by
  obtain ⟨hhash, before, after, rfl, hafter⟩ := namedEntry_eq_some hnamed
  rw [Json.pyEq_str_right] at hhash
  obtain ⟨first, second, -, hsecond, rfl⟩ := registered_append.mp h
  simp only [registered, bind_eq_ok, hrecord, pure, Except.pure, Except.ok.injEq] at hsecond
  obtain ⟨found, rfl, rest, hrest, rfl⟩ := hsecond
  have hnone : ∀ r' ∈ rest, r'.1 ≠ .str hash := by
    intro r' hr'
    obtain ⟨e, he, hkey⟩ := mem_registered hrest hr'
    have hother : dget e.2 "manifest_sha256" ≠ .str hash := by
      intro heq
      exact absurd ((Json.pyEq_str_right hash _).mpr heq) (Bool.eq_false_iff.mp (hafter e he))
    rw [hkey]
    exact hashKey_ne hother hne
  have hlast : rest.reverse.find? (fun r' => r'.1.pyEq (.str hash)) = none := by
    rw [List.find?_eq_none]
    intro r' hr'
    simpa using hnone r' (List.mem_reverse.mp hr')
  unfold recordAt
  simp [hashKey_of_hash hhash hne, List.find?_append, hlast]

theorem record_of_registered {record : Entry → Except Exc (Option Dict)}
    (h : registered record entries = .ok records) (hmem : entry ∈ entries) :
    ∃ found, record entry = .ok found := by
  induction entries generalizing records with
  | nil => cases hmem
  | cons e entries ih =>
    simp only [registered, bind_eq_ok, pure, Except.pure, Except.ok.injEq] at h
    obtain ⟨found, hfound, rest, hrest, -⟩ := h
    rcases List.mem_cons.mp hmem with rfl | hmem
    · exact ⟨found, hfound⟩
    · exact ih hrest hmem

/-! ### The draft -/

/-- What a draft was made from. -/
theorem draftOf_eq_ok (h : draftOf rt archive = .ok draft) :
    verifyEvidenceDirectory rt archive = .ok [] ∧ loadEntries rt archive = .ok draft.entries ∧
      registered (cryptoRecord rt archive) draft.entries = .ok draft.cryptoRecords ∧
      archive.findingPaths.mapM (judgeFinding rt archive draft.entries draft.cryptoRecords) =
        .ok draft.judged := by
  simp only [draftOf, bind_eq_ok, guardE_eq_ok, pure, Except.pure, Except.ok.injEq] at h
  obtain ⟨failures, hverify, ⟨⟩, hnone, entries, hentries, -, -, -, -, crypto, hcrypto, judged,
    hjudged, rfl⟩ := h
  obtain rfl := List.isEmpty_iff.mp hnone
  exact ⟨hverify, hentries, hcrypto, hjudged⟩

/-- What lets a finding in. -/
theorem includes_eq_true {manifest : Dict} :
    includes rt archive records candidate manifest = .ok true ↔
      dget candidate "state" = .str "ready_for_report" ∧
      reportInclusionAllowed rt archive.toReading candidate (some manifest) = .ok true ∧
      sbomRiskAllowed candidate manifest = true ∧
      cryptoRiskAllowed records candidate manifest = true := by
  unfold includes
  by_cases hready : dget candidate "state" = .str "ready_for_report"
  · have hstate : (dget candidate "state").pyEq (.str "ready_for_report") = true :=
      (Json.pyEq_str_right _ _).mpr hready
    rw [if_pos hstate]
    simp only [bind_eq_ok, pure, Except.pure, Except.ok.injEq, Bool.and_eq_true]
    constructor
    · rintro ⟨allowed, hallowed, ⟨rfl, hsbom⟩, hcrypto⟩
      exact ⟨hready, hallowed, hsbom, hcrypto⟩
    · rintro ⟨-, hallowed, hsbom, hcrypto⟩
      exact ⟨true, hallowed, ⟨rfl, hsbom⟩, hcrypto⟩
  · have hstate : ¬ (dget candidate "state").pyEq (.str "ready_for_report") = true := by
      rw [Json.pyEq_str_right]
      exact hready
    rw [if_neg hstate]
    constructor
    · intro h
      cases h
    · rintro ⟨h, -⟩
      exact absurd h hready

/-- What is known of a finding that was judged. -/
theorem judgeFinding_eq_ok {included : Bool}
    (h : judgeFinding rt archive entries records path = .ok (candidate, included)) :
    loadCandidate rt archive.toReading (archive.utcNow path) path = .ok candidate ∧
      ∃ entry, namedEntry entries (dget candidate "evidence_manifest_sha256") = some entry ∧
        includes rt archive records candidate entry.2 = .ok included := by
  simp only [judgeFinding, bind_eq_ok, guardE_eq_ok] at h
  obtain ⟨loaded, hload, ⟨⟩, -, h⟩ := h
  cases hnamed : namedEntry entries (dget loaded "evidence_manifest_sha256") with
  | none =>
    rw [hnamed] at h
    cases h
  | some entry =>
    rw [hnamed] at h
    simp only [bind_eq_ok, pure, Except.pure, Except.ok.injEq, Prod.mk.injEq] at h
    obtain ⟨included', hincludes, rfl, rfl⟩ := h
    exact ⟨hload, entry, hnamed, hincludes⟩

/-- **The findings of a report are those that pass its filters.** -/
theorem mem_ready (h : draftOf rt archive = .ok draft) (hmem : candidate ∈ draft.ready) :
    ∃ path ∈ archive.findingPaths, ∃ entry,
      loadCandidate rt archive.toReading (archive.utcNow path) path = .ok candidate ∧
      namedEntry draft.entries (dget candidate "evidence_manifest_sha256") = some entry ∧
      includes rt archive draft.cryptoRecords candidate entry.2 = .ok true := by
  obtain ⟨-, -, -, hjudged⟩ := draftOf_eq_ok h
  obtain ⟨⟨judged, included⟩, hfiltered, rfl⟩ := List.mem_map.mp hmem
  obtain ⟨hmem', hincluded⟩ := List.mem_filter.mp hfiltered
  obtain ⟨path, hpath, hjudge⟩ := forall₂_exists (mapM_eq_ok.mp hjudged).flip hmem'
  obtain ⟨hload, entry, hnamed, hincludes⟩ := judgeFinding_eq_ok hjudge
  obtain rfl : included = true := hincluded
  exact ⟨path, hpath, entry, hload, hnamed, hincludes⟩

/-- A finding that passes the filters is in the report. -/
theorem ready_of_includes (h : draftOf rt archive = .ok draft) (hpath : path ∈ archive.findingPaths)
    (hload : loadCandidate rt archive.toReading (archive.utcNow path) path = .ok candidate)
    (hnamed : namedEntry draft.entries (dget candidate "evidence_manifest_sha256") = some entry)
    (hincludes : includes rt archive draft.cryptoRecords candidate entry.2 = .ok true) :
    candidate ∈ draft.ready := by
  obtain ⟨-, -, -, hjudged⟩ := draftOf_eq_ok h
  obtain ⟨⟨judged, included⟩, hmem, hjudge⟩ := forall₂_exists (mapM_eq_ok.mp hjudged) hpath
  obtain ⟨hload', entry', hnamed', hincludes'⟩ := judgeFinding_eq_ok hjudge
  obtain rfl : candidate = judged := Except.ok.inj (hload.symm.trans hload')
  obtain rfl : entry = entry' := Option.some.inj (hnamed.symm.trans hnamed')
  obtain rfl : true = included := Except.ok.inj (hincludes.symm.trans hincludes')
  exact List.mem_map.mpr ⟨_, List.mem_filter.mpr ⟨hmem, rfl⟩, rfl⟩

/-- **The filter on cryptographic controls reads the first record a manifest registers.** -/
theorem recordAt_crypto (h : draftOf rt archive = .ok draft) (hne : hash ≠ "")
    (hnamed : namedEntry draft.entries (.str hash) = some entry)
    (hregisters : RegistersIndicators archive entry) :
    ∃ artifact rest record,
      withRole "cryptographic_controls_evidence" entry.2 = artifact :: rest ∧
      artifactContent archive entry.1 artifact = .ok (.obj record) ∧
      recordAt draft.cryptoRecords (hashKey entry.2) = some record := by
  obtain ⟨-, -, hcrypto, -⟩ := draftOf_eq_ok h
  obtain ⟨hhash, before, after, hentries, -⟩ := namedEntry_eq_some hnamed
  rw [Json.pyEq_str_right] at hhash
  have hmem : entry ∈ draft.entries := by
    rw [hentries]
    simp
  obtain ⟨found, hfound⟩ := record_of_registered hcrypto hmem
  obtain ⟨artifact', hartifact', -⟩ := hregisters
  cases hrole : withRole "cryptographic_controls_evidence" entry.2 with
  | nil =>
    rw [hrole] at hartifact'
    cases hartifact'
  | cons artifact rest =>
    have hrecord := hfound
    unfold cryptoRecord at hrecord
    rw [hrole] at hrecord
    simp only [bind_eq_ok, pure, Except.pure, Except.ok.injEq] at hrecord
    obtain ⟨content, hcontent, record, hattrs, ⟨⟩, -, rfl⟩ := hrecord
    cases content with
    | obj m =>
      cases hattrs
      refine ⟨artifact, rest, record, rfl, hcontent, ?_⟩
      rw [hashKey_of_hash hhash hne]
      exact recordAt_registered hcrypto hne hnamed hfound
    | _ => cases hattrs

/-- The manifest a finding names, with the hash of both. -/
theorem hash_of_named (h : draftOf rt archive = .ok draft)
    (htruthy : (dget candidate "evidence_manifest_sha256").truthy = true)
    (hnamed : namedEntry draft.entries (dget candidate "evidence_manifest_sha256") = some entry) :
    ∃ hash, hash ≠ "" ∧ dget candidate "evidence_manifest_sha256" = .str hash ∧
      dget entry.2 "manifest_sha256" = .str hash ∧ entry.1 ∈ archive.manifestPaths ∧
      loadManifest rt archive.toReading entry.1 = .ok entry.2 := by
  obtain ⟨-, hentries, -, -⟩ := draftOf_eq_ok h
  obtain ⟨hsame, before, after, hsplit, -⟩ := namedEntry_eq_some hnamed
  have hmem : entry ∈ draft.entries := by
    rw [hsplit]
    simp
  obtain ⟨hpath, hload⟩ := mem_of_loadEntries hentries hmem
  rcases hash_of_loadManifest hload with hnull | ⟨hash, hhash⟩
  · rw [hnull] at hsame
    cases hfinding : dget candidate "evidence_manifest_sha256" with
    | null =>
      rw [hfinding] at htruthy
      cases htruthy
    | _ =>
      rw [hfinding] at hsame
      simp [Json.pyEq] at hsame
  · rw [hhash, Json.pyEq_str_left] at hsame
    refine ⟨hash, ?_, hsame, hhash, hpath, hload⟩
    rintro rfl
    rw [hsame] at htruthy
    cases htruthy

/-- A finding in a report is supported, if the indicators its manifest registers are not masked. -/
theorem supported_of_unmasked (h : draftOf rt archive = .ok draft)
    (hload : loadCandidate rt archive.toReading (archive.utcNow path) path = .ok candidate)
    (hnamed : namedEntry draft.entries (dget candidate "evidence_manifest_sha256") = some entry)
    (hincludes : includes rt archive draft.cryptoRecords candidate entry.2 = .ok true)
    (hunmasked : ¬ Masked archive candidate entry) :
    Supported rt archive draft.entries candidate := by
  obtain ⟨hready, hallowed, hsbom, hcrypto⟩ := includes_eq_true.mp hincludes
  obtain ⟨hvalidated, hrated, hstrong, htruthy⟩ :=
    ready_of_checks (checks_of_loadCandidate hload) hready
  obtain ⟨hash, hne, hhash, hmanifest, hpath, hloaded⟩ := hash_of_named h htruthy hnamed
  obtain ⟨hverified, -⟩ := draftOf_eq_ok h
  have hself : ∀ s : String, (Json.str s).pyEq (.str s) = true :=
    fun s => (Json.pyEq_str_left s _).mpr rfl
  rw [hhash] at hnamed
  refine ⟨hready, hvalidated, hrated, hstrong, entry, hash, hnamed, hhash, hmanifest, hverified,
    hpath, hloaded, fun hrequired => reviewed_of_allowed hallowed hrequired hhash, ?_, ?_⟩
  · intro hmodule
    have hallows : (dget candidate "component_presence_only").truthy = true ∧
        dget candidate "reachability_status" = .str "verified" ∧
        dget candidate "exploitability_status" = .str "verified" := by
      simpa [sbomRiskAllowed, hmodule, hself, and_assoc] using hsbom
    exact hallows.2
  · intro hmodule hregisters
    by_contra hstatus
    obtain ⟨artifact, rest, record, hrole, hcontent, hat⟩ :=
      recordAt_crypto h hne hnamed hregisters
    have hlists : (dget record "weak_algorithm_indicators").truthy = false := by
      simpa [cryptoRiskAllowed, hmodule, hself, hat, hstatus] using hcrypto
    refine hunmasked ⟨hmodule, ?_, hregisters, hstatus⟩
    intro artifact' rest' record' hrole' hcontent'
    rw [hrole, List.cons.injEq] at hrole'
    obtain ⟨rfl, -⟩ := hrole'
    rw [hcontent] at hcontent'
    cases hcontent'
    exact hlists

/-- **Every finding of a report is supported exactly where no manifest masks its indicators**: where
no finding that passes the other filters, and has another status than that of a verified weakness,
names a manifest of cryptographic controls that registers indicators, but none in its first
record. -/
theorem sound_iff {text : String} (hreturned : generateMarkdown rt archive = .ok text) :
    Sound rt archive ↔ ¬ Masks rt archive := by
  constructor
  · rintro hsound ⟨entries, hentries, path, hpath, candidate, entry, hload, hnamed, hready, hallowed,
      hsbom, hmasked⟩
    obtain ⟨draft, hdraft, -⟩ := bind_eq_ok.mp hreturned
    obtain ⟨-, hentries', -, -⟩ := draftOf_eq_ok hdraft
    obtain rfl : entries = draft.entries := Except.ok.inj (hentries.symm.trans hentries')
    obtain ⟨-, -, -, htruthy⟩ := ready_of_checks (checks_of_loadCandidate hload) hready
    obtain ⟨hash, hne, hhash, -⟩ := hash_of_named hdraft htruthy hnamed
    have hnamed' : namedEntry draft.entries (.str hash) = some entry := hhash ▸ hnamed
    obtain ⟨artifact, rest, record, hrole, hcontent, hat⟩ :=
      recordAt_crypto hdraft hne hnamed' hmasked.other
    have hcrypto : cryptoRiskAllowed draft.cryptoRecords candidate entry.2 = true := by
      simp [cryptoRiskAllowed, hat, hmasked.first artifact rest record hrole hcontent]
    have hmem : candidate ∈ draft.ready := ready_of_includes hdraft hpath hload hnamed
      (includes_eq_true.mpr ⟨hready, hallowed, hsbom, hcrypto⟩)
    obtain ⟨entry', hash', hevidenced⟩ := (hsound text draft hreturned hdraft candidate hmem).evidenced
    obtain rfl : hash' = hash := Json.str.inj (hevidenced.finding_hash.symm.trans hhash)
    obtain rfl : entry' = entry := Option.some.inj (hevidenced.named.symm.trans hnamed')
    exact hmasked.unverified (hevidenced.weak hmasked.crypto hmasked.other)
  · intro hunmasked text draft hreturned hdraft candidate hmem
    obtain ⟨path, hpath, entry, hload, hnamed, hincludes⟩ := mem_ready hdraft hmem
    obtain ⟨hready, hallowed, hsbom, -⟩ := includes_eq_true.mp hincludes
    obtain ⟨-, hentries, -, -⟩ := draftOf_eq_ok hdraft
    refine supported_of_unmasked hdraft hload hnamed hincludes fun hmasked => hunmasked ?_
    exact ⟨draft.entries, hentries, path, hpath, candidate, entry, hload, hnamed, hready, hallowed,
      hsbom, hmasked⟩

/-! ### A second record -/

/-- The digests of two texts, told apart by their lengths. -/
def reportDigest (n : ℕ) : String :=
  if n = 1761 then "fb5c5247ec4f8d677656e029c3880ec9aa8bee2270402734b8e9c515df1ff223"
  else "8fdff1aa65cf30dd16b1355aad262bfd8fd5f68bd383573ff4a9639788b507c1"

theorem reportDigest_hex (n : ℕ) : isSha256Text (reportDigest n) = true := by
  unfold reportDigest
  split <;> decide

/-- A library with the digests of those texts. -/
def reportRuntime : Runtime :=
  { epochRuntime with
    sha256 s := reportDigest s.toList.length
    sha256_hex _ := reportDigest_hex _ }

theorem reportRuntime_sha256 (s : String) :
    reportRuntime.sha256 s = reportDigest s.toList.length := rfl

/-- A record of cryptographic controls with some indicators. -/
def controlsRecord (indicators : List Json) : Dict :=
  [("record_type", .str "cryptographic_controls_evidence"), ("tls_evidence", .obj []),
    ("cookie_attributes", .arr []), ("token_configuration", .obj []),
    ("weak_algorithm_indicators", .arr indicators), ("network_silent", .bool true),
    ("request_count", .int 0), ("private_material", .str "not_collected"),
    ("caveat", .str "Observed.")]

/-- The record that the report reads. -/
def firstRecord : Dict := controlsRecord []

/-- The record that lists an indicator. -/
def secondRecord : Dict :=
  controlsRecord [.obj [("algorithm", .str "md5"), ("status", .str "observation_only")]]

/-- The registration of a record. -/
def controlsArtifact (name file sha256 : String) (size : ℕ) : Dict :=
  [("artifact_id", .str name), ("role", .str "cryptographic_controls_evidence"),
    ("path", .str file), ("redacted_path", .str file),
    ("media_type", .str "application/json"), ("size_bytes", .int size),
    ("raw_sha256", .str sha256), ("redacted_sha256", .str sha256),
    ("redaction_status", .str "passed")]

def firstArtifact : Dict :=
  controlsArtifact "first" "first.json"
    "2f589e5b99ad86db6ff7ab56bee9bbec2bc85dd5e4310c559b994b02d25cfca2" 280

def secondArtifact : Dict :=
  controlsArtifact "second" "second.json"
    "08e9481c08ade9245187ce945ea467c0f730b9cb9039309414cf6cb9d063e0de" 356

/-- A manifest of cryptographic controls that registers both. -/
def controlsManifest : Dict :=
  [("run_id", .str "run-1"), ("timestamp_utc", .str "2026-01-01T00:00:00Z"),
    ("operator", .str "operator-1"), ("sponsor_alias", .str "sponsor-1"),
    ("target_alias", .str "target-1"), ("authorization_reference", .str "authorization-1"),
    ("rules_of_engagement_reference", .str "rules-1"), ("confidentiality_reference", .null),
    ("case_id", .str "case-1"), ("tool", .str "tool-1"), ("verifier_verdict", .str "fail"),
    ("confidence", .str "low"), ("campaign_id", .null), ("campaign_iteration_id", .null),
    ("parent_test_objective", .null), ("module_name", .str "crypto_controls"),
    ("wstg_mapping", .arr []), ("artifact_mapping", .arr []),
    ("target_category", .str "placeholder"), ("execution_mode", .str "dry_run"),
    ("policy_decision", .str "allowed"), ("request_count", .int 0), ("request_metadata", .obj []),
    ("response_metadata", .obj []), ("screenshots", .arr []), ("dom_snapshot", .null),
    ("proxy_capture", .null), ("fuzzing_corpus_reference", .null), ("sbom_artifact", .null),
    ("configuration_artifact", .null), ("cryptographic_evidence", .null),
    ("raw_evidence_hash", .null), ("redacted_evidence_hash", .null),
    ("finding_candidate_id", .null), ("report_inclusion_status", .str "excluded_pending_review"),
    ("redaction_status", .str "passed"), ("sha256_hashes", .obj []), ("schema_version", .str "1.0"),
    ("manifest_sha256", .str (reportDigest 1761)),
    ("artifacts", .arr [.obj firstArtifact, .obj secondArtifact])]

/-- A finding that names the manifest and nowhere speaks of its indicators. -/
def controlsFinding : Dict :=
  [("finding_id", .str "finding-1"), ("evidence_reference", .str "evidence.json"),
    ("state", .str "ready_for_report"), ("severity_candidate", .str "low"),
    ("confidence", .str "low"), ("evidence_strength", .str "medium"),
    ("human_validated", .bool true), ("report_review_required", .bool false),
    ("report_review_status", .str "not_required"), ("report_reviewer", .null),
    ("report_review_reference", .null), ("report_review_sha256", .null),
    ("component_presence_only", .bool false), ("reachability_status", .str "not_applicable"),
    ("exploitability_status", .str "not_applicable"), ("crypto_indicator_only", .bool false),
    ("crypto_indicator_status", .str "not_applicable"), ("title", .str "Finding"),
    ("summary", .str "Reproduced."), ("evidence_manifest_sha256", .str (reportDigest 1761)),
    ("verification_reference", .str "verification.json"),
    ("verification_sha256",
      .str "4183b7793fd28ba47ea9e79e7697f2915da218567e6657a158b51bd14bce91cd"),
    ("target_alias", .str "target-1"), ("case_id", .str "case-1"),
    ("fingerprint", .str "e9fea336cdd78a63f92ed5ce63a4f0a08a55f6b4b083d0727aaf674be61289c3"),
    ("created_at_utc", .str "2026-01-01T00:00:00+00:00"),
    ("updated_at_utc", .str "2026-01-02T00:00:00+00:00"), ("lifecycle_history", .arr []),
    ("schema_version", .str "1.0"), ("candidate_sha256", .str (reportDigest 1080))]

/-- A file next to the manifest. -/
def controlsFile (record : Dict) (sha256 : String) (size : ℕ) : FoundFile :=
  ⟨true, true, false, .ok sha256, size, .ok (.obj record)⟩

/-- The directories of the report. -/
def controlsArchive : Archive where
  content path :=
    if path = "evidence.json" then .ok (.obj controlsManifest)
    else if path = "finding.json" then .ok (.obj controlsFinding)
    else .error .osError
  sha256 _ := .error .osError
  now := 0
  manifestPaths := ["evidence.json"]
  findingPaths := ["finding.json"]
  found _ relative :=
    if relative = "first.json" then controlsFile firstRecord
      "2f589e5b99ad86db6ff7ab56bee9bbec2bc85dd5e4310c559b994b02d25cfca2" 280
    else if relative = "second.json" then controlsFile secondRecord
      "08e9481c08ade9245187ce945ea467c0f730b9cb9039309414cf6cb9d063e0de" 356
    else ⟨true, false, false, .error .osError, 0, .error .osError⟩
  utcNow _ := "2026-01-03T00:00:00+00:00"

/-- Directories with the manifest, its records and one finding. -/
structure HoldsControls (archive : Archive) : Prop where
  manifest : archive.content "evidence.json" = .ok (.obj controlsManifest)
  manifestPaths : archive.manifestPaths = ["evidence.json"]
  findingPaths : archive.findingPaths = ["finding.json"]
  found : archive.found = controlsArchive.found

theorem controlsArchive_holds : HoldsControls controlsArchive := ⟨rfl, rfl, rfl, rfl⟩

theorem controlsManifest_loads (h : HoldsControls archive) :
    loadManifest reportRuntime archive.toReading "evidence.json" = .ok controlsManifest := by
  have hlength : ((Json.obj (dset controlsManifest "manifest_sha256" .null)).dumpChars reportRuntime
      .canonical).length = 1761 := by
    rw [length_dumpChars_obj]
    decide +kernel
  have hvalues : quietValue reportRuntime (.obj controlsManifest) = true := by decide +kernel
  have hplain : unescapedValue reportRuntime (.obj controlsManifest) = true := by decide +kernel
  have hfields : checkManifestFields reportRuntime controlsManifest = .ok () := by decide +kernel
  exact loadManifest_of_quiet reportRuntime_sha256 h.manifest rfl hfields hvalues hplain (by decide)
    hlength rfl

set_option maxRecDepth 20000 in
theorem controlsFinding_quiet : quietEntries reportRuntime controlsFinding = true := by
  decide +kernel

set_option maxRecDepth 20000 in
theorem controlsFinding_loads :
    loadCandidate reportRuntime controlsArchive.toReading "2026-01-03T00:00:00+00:00"
      "finding.json" = .ok controlsFinding := by
  have hlength : ((Json.obj (dset controlsFinding "candidate_sha256" .null)).dumpChars reportRuntime
      .compactAscii).length = 1080 := by
    rw [length_dumpChars_obj]
    decide +kernel
  have hvalues : quietValue reportRuntime (.obj controlsFinding) = true := controlsFinding_quiet
  have hfields : checkCandidateFields reportRuntime controlsArchive.toReading controlsFinding =
      .ok () := by decide +kernel
  have hchecks : checkCandidate reportRuntime controlsArchive.toReading controlsFinding = .ok () :=
    bind_eq_ok.mpr ⟨(), hfields, assertValueRedacted_of_quiet hvalues⟩
  exact Loader.invalidAs_eq_ok.mpr
    (Loader.readRecord_of_length reportRuntime_sha256 rfl rfl hchecks hlength rfl)

set_option maxRecDepth 20000 in
theorem firstRecord_valid : validateCryptoRecord reportRuntime firstRecord = .ok () := by
  decide +kernel

/-- What the report is made of. -/
def controlsDraft : ReportDraft where
  entries := [("evidence.json", controlsManifest)]
  panelRecords := []
  sbomRecords := []
  cryptoRecords := [(.str (reportDigest 1761), firstRecord)]
  judged := [(controlsFinding, true)]

/-- The same with another finding. -/
def draftWith (finding : Dict) : ReportDraft := { controlsDraft with judged := [(finding, true)] }

theorem controlsManifest_artifacts :
    artifactsOf controlsManifest = [firstArtifact, secondArtifact] := by
  have hartifacts : dget controlsManifest "artifacts" =
      .arr [.obj firstArtifact, .obj secondArtifact] := by
    simp [controlsManifest, dget, dget?_cons]
  unfold artifactsOf
  rw [hartifacts]
  rfl

theorem controlsManifest_registers :
    withRole "cryptographic_controls_evidence" controlsManifest =
      [firstArtifact, secondArtifact] := by
  have hrole : ∀ name file sha256 size, dget (controlsArtifact name file sha256 size) "role" =
      .str "cryptographic_controls_evidence" := by
    intro name file sha256 size
    simp [controlsArtifact, dget, dget?_cons]
  unfold withRole
  rw [controlsManifest_artifacts]
  exact List.filter_eq_self.mpr (by simp [firstArtifact, secondArtifact, hrole])

/-- A registered record that is there as registered. -/
theorem controlsArtifact_intact {name file sha256 : String} {size : ℕ} {record : Dict}
    (hfound : archive.found "evidence.json" file = controlsFile record sha256 size) :
    rawFailures reportRuntime archive "evidence.json"
        (controlsArtifact name file sha256 size) = .ok [] ∧
      redactedFailures reportRuntime archive "evidence.json"
        (controlsArtifact name file sha256 size) = .ok [] := by
  have hsize : (Json.int size).pyEq (.int size) = true := by simp [Json.pyEq, Json.num?]
  constructor
  · simp [rawFailures, controlsArtifact, dget, dget?_cons, fileAt, hfound, controlsFile, isIntact,
      failUnless, hsize, pure, Except.pure, bind, Except.bind]
  · simp [redactedFailures, controlsArtifact, dget, dget?_cons, fileAt, hfound, controlsFile,
      failUnless, pure, Except.pure, bind, Except.bind]

/-- A loaded manifest without hashes of its own has no failures where its artifacts have none. -/
theorem manifestFailures_of_artifacts {manifest : Dict}
    (hload : loadManifest rt archive.toReading path = .ok manifest)
    (hhashes : dget manifest "sha256_hashes" = .obj [])
    (hartifacts : ∀ artifact ∈ artifactsOf manifest,
      rawFailures rt archive path artifact = .ok [] ∧
        redactedFailures rt archive path artifact = .ok []) :
    manifestFailures rt archive path = .ok [] := by
  have hchecks : ∀ artifacts : List Dict, (∀ artifact ∈ artifacts,
      rawFailures rt archive path artifact = .ok [] ∧
        redactedFailures rt archive path artifact = .ok []) →
      untilRaised (artifacts.flatMap fun artifact => [rawFailures rt archive path artifact,
        redactedFailures rt archive path artifact]) = ([], none) := by
    intro artifacts
    induction artifacts with
    | nil => exact fun _ => rfl
    | cons artifact artifacts ih =>
      intro hall
      rw [List.forall_mem_cons] at hall
      obtain ⟨⟨hraw, hredacted⟩, hrest⟩ := hall
      rw [List.flatMap_cons, hraw, hredacted]
      simp [untilRaised, ih hrest]
  unfold manifestFailures
  rw [hload]
  simp only
  rw [hhashes, mappingOf, List.map_nil, List.nil_append, hchecks _ hartifacts]

theorem controlsArchive_verifies (h : HoldsControls archive) :
    verifyEvidenceDirectory reportRuntime archive = .ok [] := by
  have hfirst : rawFailures reportRuntime archive "evidence.json" firstArtifact = .ok [] ∧
      redactedFailures reportRuntime archive "evidence.json" firstArtifact = .ok [] := by
    have hfound : archive.found "evidence.json" "first.json" = controlsFile firstRecord
        "2f589e5b99ad86db6ff7ab56bee9bbec2bc85dd5e4310c559b994b02d25cfca2" 280 := by
      rw [h.found]
      simp [controlsArchive]
    exact controlsArtifact_intact hfound
  have hsecond : rawFailures reportRuntime archive "evidence.json" secondArtifact = .ok [] ∧
      redactedFailures reportRuntime archive "evidence.json" secondArtifact = .ok [] := by
    have hfound : archive.found "evidence.json" "second.json" = controlsFile secondRecord
        "08e9481c08ade9245187ce945ea467c0f730b9cb9039309414cf6cb9d063e0de" 356 := by
      rw [h.found]
      simp [controlsArchive]
    exact controlsArtifact_intact hfound
  have hhashes : dget controlsManifest "sha256_hashes" = .obj [] := by
    simp [controlsManifest, dget, dget?_cons]
  have hmanifest : manifestFailures reportRuntime archive "evidence.json" = .ok [] := by
    refine manifestFailures_of_artifacts (controlsManifest_loads h) hhashes ?_
    rw [controlsManifest_artifacts]
    simp only [List.forall_mem_cons]
    exact ⟨hfirst, hsecond, fun _ hnone => absurd hnone List.not_mem_nil⟩
  unfold verifyEvidenceDirectory
  rw [h.manifestPaths, if_neg (List.cons_ne_nil _ _), List.mapM_cons, List.mapM_nil, hmanifest]
  rfl

theorem controlsManifest_key : hashKey controlsManifest = .str (reportDigest 1761) := by
  refine hashKey_of_hash ?_ (by decide)
  simp [controlsManifest, dget, dget?_cons]

theorem controlsManifest_module :
    dget controlsManifest "module_name" = .str "crypto_controls" := by
  simp [controlsManifest, dget, dget?_cons]

/-- The manifest is none of panel evidence. -/
theorem controlsManifest_unreviewed : manifestRequiresReportReview controlsManifest = .ok false := by
  have hmetadata : dget controlsManifest "response_metadata" = .obj [] := by
    simp [controlsManifest, dget, dget?_cons]
  have hartifacts : dget controlsManifest "artifacts" =
      .arr [.obj firstArtifact, .obj secondArtifact] := by
    simp [controlsManifest, dget, dget?_cons]
  unfold manifestRequiresReportReview
  rw [controlsManifest_module, hmetadata, hartifacts]
  simp [panelEvidenceModule, panelEvidenceArtifactRole, mappingOf, isMapping, Json.iter,
    firstArtifact, secondArtifact, controlsArtifact, dget, dget?_cons, Json.pyEq, pure, Except.pure,
    bind, Except.bind]

/-- A finding that is ready and names the manifest. -/
structure NamesControls (archive : Archive) (finding : Dict) : Prop where
  loads : loadCandidate reportRuntime archive.toReading (archive.utcNow "finding.json")
    "finding.json" = .ok finding
  hash : dget finding "evidence_manifest_sha256" = .str (reportDigest 1761)
  ready : dget finding "state" = .str "ready_for_report"

theorem controlsFinding_names : NamesControls controlsArchive controlsFinding := by
  refine ⟨controlsFinding_loads, ?_, ?_⟩
  · simp [controlsFinding, dget, dget?_cons]
  · simp [controlsFinding, dget, dget?_cons]

variable {finding : Dict}

theorem finding_judged (hnames : NamesControls archive finding) :
    judgeFinding reportRuntime archive controlsDraft.entries controlsDraft.cryptoRecords
      "finding.json" = .ok (finding, true) := by
  have hnamed : namedEntry controlsDraft.entries (dget finding "evidence_manifest_sha256") =
      some ("evidence.json", controlsManifest) := by
    unfold namedEntry
    have hsame : (dget controlsManifest "manifest_sha256").pyEq
        (dget finding "evidence_manifest_sha256") = true := by
      rw [hnames.hash]
      simp [controlsManifest, dget, dget?_cons]
    exact List.find?_cons_of_pos hsame
  have hincludes : includes reportRuntime archive controlsDraft.cryptoRecords finding
      controlsManifest = .ok true := by
    have hallowed : reportInclusionAllowed reportRuntime archive.toReading finding
        (some controlsManifest) = .ok true := by
      refine bind_eq_ok.mpr ⟨false, controlsManifest_unreviewed, ?_⟩
      simp only [Bool.not_false, if_true]
      rfl
    have hat : recordAt controlsDraft.cryptoRecords (hashKey controlsManifest) =
        some firstRecord := by
      rw [controlsManifest_key]
      simp [recordAt, controlsDraft]
    have hnone : (dget firstRecord "weak_algorithm_indicators").truthy = false := by
      simp [firstRecord, controlsRecord, dget, dget?_cons, Json.truthy]
    refine includes_eq_true.mpr ⟨hnames.ready, hallowed, ?_, ?_⟩
    · simp [sbomRiskAllowed, controlsManifest_module, Json.pyEq]
    · simp [cryptoRiskAllowed, hat, hnone]
  have hhashable : (dget finding "evidence_manifest_sha256").hashable = true := by
    rw [hnames.hash]
    rfl
  simp only [judgeFinding, bind_eq_ok, guardE_eq_ok]
  refine ⟨finding, hnames.loads, (), hhashable, ?_⟩
  rw [hnamed]
  exact bind_eq_ok.mpr ⟨true, hincludes, rfl⟩

theorem draftWith_drawn (h : HoldsControls archive) (hnames : NamesControls archive finding) :
    draftOf reportRuntime archive = .ok (draftWith finding) := by
  have hentries : loadEntries reportRuntime archive = .ok controlsDraft.entries := by
    unfold loadEntries
    rw [h.manifestPaths, List.mapM_cons, List.mapM_nil, controlsManifest_loads h]
    rfl
  have hpanel : panelRecord reportRuntime archive ("evidence.json", controlsManifest) =
      .ok none := by
    unfold panelRecord
    rw [controlsManifest_unreviewed]
    rfl
  have hsbom : sbomRecord reportRuntime archive ("evidence.json", controlsManifest) = .ok none := by
    have hnone : withRole "sbom_component_evidence" controlsManifest = [] := by
      unfold withRole
      rw [controlsManifest_artifacts]
      simp [firstArtifact, secondArtifact, controlsArtifact, dget, dget?_cons, Json.pyEq]
    unfold sbomRecord
    rw [hnone]
    rfl
  have hcrypto : cryptoRecord reportRuntime archive ("evidence.json", controlsManifest) =
      .ok (some firstRecord) := by
    have hcontent : artifactContent archive "evidence.json" firstArtifact =
        .ok (.obj firstRecord) := by
      simp [artifactContent, firstArtifact, controlsArtifact, dget, dget?_cons, fileAt, h.found,
        controlsArchive, controlsFile, pure, Except.pure, bind, Except.bind]
    unfold cryptoRecord
    rw [controlsManifest_registers]
    refine bind_eq_ok.mpr ⟨_, hcontent, bind_eq_ok.mpr ⟨_, rfl, ?_⟩⟩
    exact bind_eq_ok.mpr ⟨(), firstRecord_valid, rfl⟩
  simp only [draftOf, bind_eq_ok, guardE_eq_ok]
  refine ⟨[], controlsArchive_verifies h, (), rfl, controlsDraft.entries, hentries, [], ?_, [], ?_,
    controlsDraft.cryptoRecords, ?_, [(finding, true)], ?_, rfl⟩
  · exact registered_singleton hpanel
  · exact registered_singleton hsbom
  · have hregistered := registered_singleton hcrypto
    rw [controlsManifest_key] at hregistered
    exact hregistered
  · rw [h.findingPaths, List.mapM_cons, List.mapM_nil, finding_judged hnames]
    rfl

theorem draftWith_renders : ∃ text, renderReport reportRuntime (draftWith finding) = .ok text := by
  have hwstg : dget controlsManifest "wstg_mapping" = .arr [] := by
    simp [controlsManifest, dget, dget?_cons]
  have hmapping : dget controlsManifest "artifact_mapping" = .arr [] := by
    simp [controlsManifest, dget, dget?_cons]
  obtain ⟨head, hhead⟩ : ∃ lines, manifestLines reportRuntime controlsManifest = .ok lines := by
    unfold manifestLines
    rw [hwstg, hmapping]
    exact ⟨_, rfl⟩
  obtain ⟨crypto, hcrypto⟩ : ∃ lines, cryptoLines reportRuntime firstRecord = .ok lines := by
    simp [cryptoLines, itemOf, firstRecord, controlsRecord, dget?_cons, Json.attrs, pyLen, Json.iter,
      textLine, pure, Except.pure, bind, Except.bind]
  have hat : recordAt (draftWith finding).cryptoRecords (hashKey controlsManifest) =
      some firstRecord := by
    rw [controlsManifest_key]
    simp [recordAt, draftWith, controlsDraft]
  have hevidence : renderEvidence reportRuntime (draftWith finding)
      ("evidence.json", controlsManifest) =
        .ok (String.intercalate "\n" (head ++ [] ++ [] ++ crypto)) := by
    unfold renderEvidence
    rw [hat]
    refine bind_eq_ok.mpr ⟨head, hhead, bind_eq_ok.mpr ⟨[], rfl, bind_eq_ok.mpr ⟨[], rfl, ?_⟩⟩⟩
    exact bind_eq_ok.mpr ⟨crypto, hcrypto, rfl⟩
  have hentries : (draftWith finding).entries = [("evidence.json", controlsManifest)] := rfl
  unfold renderReport
  rw [hentries, List.mapM_cons, List.mapM_nil, hevidence]
  exact ⟨_, rfl⟩

theorem controlsDraft_drawn : draftOf reportRuntime controlsArchive = .ok controlsDraft :=
  draftWith_drawn controlsArchive_holds controlsFinding_names

/-- The report is generated. -/
theorem controlsArchive_reported :
    ∃ text, generateMarkdown reportRuntime controlsArchive = .ok text := by
  obtain ⟨text, htext⟩ := @draftWith_renders controlsFinding
  exact ⟨text, bind_eq_ok.mpr ⟨controlsDraft, controlsDraft_drawn, htext⟩⟩

theorem sound_iff_controls : ∃ text, generateMarkdown reportRuntime controlsArchive = .ok text ∧
    (Sound reportRuntime controlsArchive ↔ ¬ Masks reportRuntime controlsArchive) := by
  obtain ⟨text, htext⟩ := controlsArchive_reported
  exact ⟨text, htext, sound_iff htext⟩

/-- **The second record's indicator reaches a report unverified.** -/
theorem report_unsound : ¬ ∀ (rt : Runtime) (archive : Archive), Sound rt archive := by
  intro hall
  obtain ⟨text, htext⟩ := controlsArchive_reported
  have hmem : controlsFinding ∈ controlsDraft.ready := List.mem_singleton_self _
  obtain ⟨entry, hash, hevidenced⟩ := (hall reportRuntime controlsArchive text controlsDraft htext
    controlsDraft_drawn controlsFinding hmem).evidenced
  have hentry : entry = ("evidence.json", controlsManifest) :=
    List.mem_singleton.mp (List.mem_of_find?_eq_some hevidenced.named)
  have hregisters : RegistersIndicators controlsArchive entry := by
    refine ⟨secondArtifact, ?_, secondRecord, ?_, ?_⟩
    · rw [hentry, controlsManifest_registers]
      exact List.mem_cons_of_mem _ List.mem_cons_self
    · rw [hentry]
      simp [artifactContent, secondArtifact, controlsArtifact, dget, dget?_cons, fileAt,
        controlsArchive, controlsFile, pure, Except.pure, bind, Except.bind]
    · simp [secondRecord, controlsRecord, dget, dget?_cons, Json.truthy]
  have hstatus := hevidenced.weak (by rw [hentry]; exact controlsManifest_module) hregisters
  simp [controlsFinding, dget, dget?_cons] at hstatus

end Aotp.Evidence
