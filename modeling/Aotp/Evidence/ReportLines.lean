import Aotp.Evidence.ReportSound
import Aotp.Lib.Markdown

/-!
# The lines of a report

* `reportParts` — the lines of a report, each with the recorded text that it shows as it stands.
* `renderReport_parts` — a report is the text of these lines.
* `Unforged` — its lines and its headings are the report's own, one heading of the second level for
  each finding and one for the appendix.
* `unforged_iff` — **a report is unforged exactly where each recorded text that it shows as it stands
  is one line, and no heading if it stands alone**.
-/

namespace Aotp.Evidence

open PyData Aotp.Gate

section parts

variable (rt : Runtime)

/-! ### The lines of a report -/

/-- A line of the report's own. -/
def ownLine (line : String) : Part := .own line.toList

/-- A value that is shown as it stands, after a label. -/
def shownAs (label : String) (x : Json) : Part := .quoted label.toList (pyStr rt x).toList

/-- Source: `reporter._render_candidate` -/
def candidateParts (candidate : Dict) : List Part :=
  let lined label key := ownLine (labelled label (ticked (reportText rt (dget candidate key))))
  let plain label key := shownAs rt ("- " ++ label ++ ": ") (dget candidate key)
  [ownLine ("## " ++ reportText rt (dget candidate "title")), ownLine "",
    lined "Finding ID" "finding_id", plain "State" "state", lined "Target alias" "target_alias",
    lined "Case ID" "case_id", plain "Severity candidate" "severity_candidate",
    plain "Confidence" "confidence", plain "Evidence strength" "evidence_strength",
    plain "Report review required" "report_review_required",
    lined "Report review status" "report_review_status", lined "Report reviewer" "report_reviewer",
    lined "Report review SHA256" "report_review_sha256",
    plain "Evidence manifest SHA256" "evidence_manifest_sha256", plain "Fingerprint" "fingerprint",
    ownLine "", ownLine "### Recorded summary", ownLine "",
    .standing (reportText rt (dget candidate "summary")).toList]

/-- Source: `reporter._render_evidence`, the lines of a panel record -/
def panelParts (record : Dict) : Except Exc (List Part) := do
  let panelAlias ← itemOf record "panel_alias"
  let panelType ← itemOf record "panel_type"
  let networkSilent ← itemOf record "network_silent"
  let requestCount ← itemOf record "request_count"
  let planned ← itemOf record "planned_observations"
  let shown ← joinItems ", " planned
  let status ← itemOf record "report_inclusion_status"
  pure [ownLine "", ownLine "#### Captured service control panel fields", ownLine "",
    ownLine (labelled "Panel alias" (ticked (reportText rt panelAlias))),
    ownLine (labelled "Panel type" (ticked (reportText rt panelType))),
    shownAs rt ("- " ++ "Network silent" ++ ": ") networkSilent,
    shownAs rt ("- " ++ "Request count" ++ ": ") requestCount,
    ownLine (labelled "Planned observations" (ticked (reportText rt (.str shown)))),
    ownLine (labelled "Evidence status" (ticked (reportText rt status)))]

/-- The lines of one component.
Source: `reporter._render_evidence` -/
def componentParts (component : Json) : Except Exc (List Part) := do
  let c ← component.attrs
  let name ← itemOf c "name"
  let version ← itemOf c "version"
  let presence ← itemOf c "presence"
  let reachability ← itemOf c "reachability"
  let exploitability ← itemOf c "exploitability"
  let sha256 ← itemOf c "source_artifact_sha256"
  pure [ownLine ("- " ++ ticked (reportText rt name) ++ " version " ++
      ticked (reportText rt version)),
    shownAs rt "  - Presence: " presence, shownAs rt "  - Reachability: " reachability,
    shownAs rt "  - Exploitability: " exploitability, shownAs rt "  - Source SHA256: " sha256]

/-- Source: `reporter._render_evidence`, the lines of a component record -/
def sbomParts (record : Dict) : Except Exc (List Part) := do
  let components ← itemOf record "components"
  let items ← components.iter
  let shown ← items.mapM (componentParts rt)
  let caveat ← itemOf record "caveat"
  let line ← textLine caveat
  pure ([ownLine "", ownLine "#### Recorded SBOM components", ownLine ""] ++ shown.flatten ++
    [ownLine "", .standing line.toList])

/-- Source: `reporter._render_evidence`, the lines of a record of cryptographic controls -/
def cryptoParts (record : Dict) : Except Exc (List Part) := do
  let tlsEvidence ← itemOf record "tls_evidence"
  let tls ← tlsEvidence.attrs
  let cookieAttributes ← itemOf record "cookie_attributes"
  let cookies ← pyLen cookieAttributes
  let tokenConfiguration ← itemOf record "token_configuration"
  let token ← tokenConfiguration.attrs
  let weakIndicators ← itemOf record "weak_algorithm_indicators"
  let indicators ← pyLen weakIndicators
  let privateMaterial ← itemOf record "private_material"
  let caveat ← itemOf record "caveat"
  let line ← textLine caveat
  pure [ownLine "", ownLine "#### Recorded cryptographic controls", ownLine "",
    ownLine (labelled "TLS protocol" (ticked (reportText rt (dget tls "protocol")))),
    ownLine (labelled "Certificate signature algorithm"
      (ticked (reportText rt (dget tls "signature_algorithm")))),
    ownLine (labelled "Cookie attribute records" (ticked (toString cookies))),
    ownLine (labelled "Token algorithm setting" (ticked (reportText rt (dget token "algorithm")))),
    ownLine (labelled "Weak algorithm indicators" (ticked (toString indicators))),
    shownAs rt ("- " ++ "Private material" ++ ": ") privateMaterial, ownLine "",
    .standing line.toList]

/-- The lines of a record that may be missing. -/
def optionalParts (parts : Dict → Except Exc (List Part)) : Option Dict → Except Exc (List Part)
  | none => pure []
  | some record => parts record

/-- The lines of one manifest, with its records, and an empty one.
Source: `reporter._render_evidence` -/
def evidenceParts (draft : ReportDraft) (entry : Entry) : Except Exc (List Part) := do
  let head ← manifestLines rt entry.2
  let panel ← optionalParts (panelParts rt) (recordAt draft.panelRecords (hashKey entry.2))
  let sbom ← optionalParts (sbomParts rt) (recordAt draft.sbomRecords (hashKey entry.2))
  let crypto ← optionalParts (cryptoParts rt) (recordAt draft.cryptoRecords (hashKey entry.2))
  pure (head.map ownLine ++ panel ++ sbom ++ crypto ++ [ownLine ""])

/-- Source: `reporter.generate_markdown`, the first lines -/
def headParts (draft : ReportDraft) : List Part :=
  [ownLine "# AOTP human-review draft", ownLine "",
    ownLine
      ("This draft is generated only from integrity-verified evidence and report-ready finding " ++
        "candidates. It does not infer vulnerabilities, impact, exploitability, affected assets, " ++
        "or remediation."), ownLine "",
    ownLine ("Verified evidence records: " ++ ticked (toString draft.entries.length)),
    ownLine ("Report-ready findings: " ++ ticked (toString draft.ready.length)),
    ownLine ("Excluded non-ready candidates: " ++
      ticked (toString (draft.judged.length - draft.ready.length))), ownLine ""]

/-- The lines of the findings, in blocks.
Source: `reporter.generate_markdown` -/
def findingBlocks (draft : ReportDraft) : List (List Part) :=
  if draft.ready = [] then
    [[ownLine "## Finding candidates"], [ownLine ""],
      [ownLine "No evidence-bound candidate has completed human review for report inclusion."],
      [ownLine ""]]
  else draft.ready.map fun candidate => candidateParts rt candidate ++ [ownLine ""]

/-- The lines of a report.
Source: `reporter.generate_markdown`, the text -/
def reportParts (draft : ReportDraft) : Except Exc (List Part) := do
  let appendix ← draft.entries.mapM (evidenceParts rt draft)
  pure (headParts draft ++ (findingBlocks rt draft).flatten ++
    [ownLine "## Evidence appendix", ownLine ""] ++ appendix.flatten)

end parts

/-- The lines of a text are the parts of a report, its headings are the report's own, and of the second
level there is one for each finding, or one that there is none, and one for the appendix. -/
structure Unforged (draft : ReportDraft) (parts : List Part) (text : String) : Prop where
  lines : textLines text.toList = parts.map Part.line ++ [[]]
  headings : (textLines text.toList).filter isHeading = (ownLines parts).filter isHeading
  levelTwo : (textLines text.toList).countP (fun line => headingLevel line == some 2) =
    max 1 draft.ready.length + 1

variable {rt : Runtime} {draft : ReportDraft}

/-! ### The text of the lines -/

/-- The lines of some parts, as texts. -/
def partTexts (parts : List Part) : List String := parts.map fun p => String.ofList p.line

@[simp] theorem partTexts_nil : partTexts [] = [] := rfl

@[simp] theorem partTexts_cons (p : Part) (parts : List Part) :
    partTexts (p :: parts) = String.ofList p.line :: partTexts parts := rfl

@[simp] theorem partTexts_append (parts parts' : List Part) :
    partTexts (parts ++ parts') = partTexts parts ++ partTexts parts' := List.map_append

@[simp] theorem text_ownLine (line : String) : String.ofList (ownLine line).line = line :=
  String.ofList_toList

@[simp] theorem text_shownAs (label : String) (x : Json) :
    String.ofList (shownAs rt label x).line = label ++ ticked (pyStr rt x) := by
  unfold shownAs Part.line ticked
  apply String.toList_inj.mp
  simp

@[simp] theorem text_standing (recorded : String) :
    String.ofList (Part.standing recorded.toList).line = recorded := String.ofList_toList

theorem toList_intercalate (parts : List Part) :
    (String.intercalate "\n" (partTexts parts)).toList = joinLines (parts.map Part.line) := by
  rw [String.toList_intercalate]
  unfold joinLines partTexts
  rw [List.map_map]
  congr 1
  apply List.map_congr_left
  intro p _
  exact String.toList_ofList

/-- The text of a block of lines, with a line break after it. -/
theorem toList_block {parts : List Part} (hne : parts ≠ []) :
    (String.intercalate "\n" (partTexts parts) ++ "\n").toList =
      joinLines ((parts ++ [ownLine ""]).map Part.line) := by
  rw [String.toList_append, toList_intercalate, List.map_append]
  exact (joinLines_concat_nil (by simpa using hne)).symm

theorem renderCandidate_parts (candidate : Dict) :
    renderCandidate rt candidate = String.intercalate "\n" (partTexts (candidateParts rt candidate)) := by
  unfold renderCandidate candidateParts labelled
  simp only [partTexts_cons, partTexts_nil, text_ownLine, text_shownAs, text_standing]

theorem panelLines_parts {record : Dict} {lines : List String}
    (h : panelLines rt record = .ok lines) :
    ∃ parts, panelParts rt record = .ok parts ∧ partTexts parts = lines := by
  simp only [panelLines, bind_eq_ok] at h
  obtain ⟨panelAlias, h₁, panelType, h₂, networkSilent, h₃, requestCount, h₄, planned, h₅, shown, h₆,
    status, h₇, hlines⟩ := h
  cases hlines
  simp only [panelParts, bind_eq_ok]
  refine ⟨_, ⟨panelAlias, h₁, panelType, h₂, networkSilent, h₃, requestCount, h₄, planned, h₅, shown,
    h₆, status, h₇, rfl⟩, ?_⟩
  simp only [partTexts_cons, partTexts_nil, text_ownLine, text_shownAs, labelled]

theorem componentLines_parts {component : Json} {lines : List String}
    (h : componentLines rt component = .ok lines) :
    ∃ parts, componentParts rt component = .ok parts ∧ partTexts parts = lines := by
  simp only [componentLines, bind_eq_ok] at h
  obtain ⟨c, h₁, name, h₂, version, h₃, presence, h₄, reachability, h₅, exploitability, h₆, sha256, h₇,
    hlines⟩ := h
  cases hlines
  simp only [componentParts, bind_eq_ok]
  refine ⟨_, ⟨c, h₁, name, h₂, version, h₃, presence, h₄, reachability, h₅, exploitability, h₆, sha256,
    h₇, rfl⟩, ?_⟩
  simp only [partTexts_cons, partTexts_nil, text_ownLine, text_shownAs]

theorem componentLines_mapM {items : List Json} {shown : List (List String)}
    (h : items.mapM (componentLines rt) = .ok shown) :
    ∃ parts, items.mapM (componentParts rt) = .ok parts ∧ partTexts parts.flatten = shown.flatten := by
  rw [mapM_eq_ok] at h
  induction h with
  | nil => exact ⟨[], rfl, rfl⟩
  | cons hfirst _ ih =>
    obtain ⟨first, hparts, htexts⟩ := componentLines_parts hfirst
    obtain ⟨rest, hrest, hall⟩ := ih
    refine ⟨first :: rest, mapM_eq_ok.mpr (.cons hparts (mapM_eq_ok.mp hrest)), ?_⟩
    rw [List.flatten_cons, List.flatten_cons, partTexts_append, htexts, hall]

theorem sbomLines_parts {record : Dict} {lines : List String}
    (h : sbomLines rt record = .ok lines) :
    ∃ parts, sbomParts rt record = .ok parts ∧ partTexts parts = lines := by
  simp only [sbomLines, bind_eq_ok] at h
  obtain ⟨components, h₁, items, h₂, shown, h₃, caveat, h₄, line, h₅, hlines⟩ := h
  cases hlines
  obtain ⟨parts, hparts, htexts⟩ := componentLines_mapM h₃
  simp only [sbomParts, bind_eq_ok]
  refine ⟨_, ⟨components, h₁, items, h₂, parts, hparts, caveat, h₄, line, h₅, rfl⟩, ?_⟩
  simp only [partTexts_append, partTexts_cons, partTexts_nil, text_ownLine, text_standing, htexts]

theorem cryptoLines_parts {record : Dict} {lines : List String}
    (h : cryptoLines rt record = .ok lines) :
    ∃ parts, cryptoParts rt record = .ok parts ∧ partTexts parts = lines := by
  simp only [cryptoLines, bind_eq_ok] at h
  obtain ⟨tlsEvidence, h₁, tls, h₂, cookieAttributes, h₃, cookies, h₄, tokenConfiguration, h₅, token,
    h₆, weakIndicators, h₇, indicators, h₈, privateMaterial, h₉, caveat, h₁₀, line, h₁₁, hlines⟩ := h
  cases hlines
  simp only [cryptoParts, bind_eq_ok]
  refine ⟨_, ⟨tlsEvidence, h₁, tls, h₂, cookieAttributes, h₃, cookies, h₄, tokenConfiguration, h₅,
    token, h₆, weakIndicators, h₇, indicators, h₈, privateMaterial, h₉, caveat, h₁₀, line, h₁₁, rfl⟩,
    ?_⟩
  simp only [partTexts_cons, partTexts_nil, text_ownLine, text_shownAs, text_standing, labelled]

theorem optionalLines_parts {lines : Dict → Except Exc (List String)}
    {parts : Dict → Except Exc (List Part)} {found : Option Dict} {texts : List String}
    (hparts : ∀ record texts, lines record = .ok texts →
      ∃ ps, parts record = .ok ps ∧ partTexts ps = texts)
    (h : optionalLines lines found = .ok texts) :
    ∃ ps, optionalParts parts found = .ok ps ∧ partTexts ps = texts := by
  cases found with
  | none =>
    cases h
    exact ⟨[], rfl, rfl⟩
  | some record => exact hparts record texts h

theorem partTexts_ownLines (lines : List String) : partTexts (lines.map ownLine) = lines := by
  induction lines with
  | nil => rfl
  | cons line lines ih => rw [List.map_cons, partTexts_cons, text_ownLine, ih]

theorem renderEvidence_parts {entry : Entry} {text : String}
    (h : renderEvidence rt draft entry = .ok text) :
    ∃ parts, evidenceParts rt draft entry = .ok (parts ++ [ownLine ""]) ∧
      text = String.intercalate "\n" (partTexts parts) := by
  simp only [renderEvidence, bind_eq_ok] at h
  obtain ⟨head, hhead, panel, hpanel, sbom, hsbom, crypto, hcrypto, htext⟩ := h
  cases htext
  obtain ⟨panelPs, hpanel', rfl⟩ := optionalLines_parts (fun _ _ => panelLines_parts) hpanel
  obtain ⟨sbomPs, hsbom', rfl⟩ := optionalLines_parts (fun _ _ => sbomLines_parts) hsbom
  obtain ⟨cryptoPs, hcrypto', rfl⟩ := optionalLines_parts (fun _ _ => cryptoLines_parts) hcrypto
  refine ⟨head.map ownLine ++ panelPs ++ sbomPs ++ cryptoPs, ?_, ?_⟩
  · simp only [evidenceParts, bind_eq_ok]
    exact ⟨head, hhead, panelPs, hpanel', sbomPs, hsbom', cryptoPs, hcrypto', rfl⟩
  · simp only [partTexts_append, partTexts_ownLines]

/-! ### Blocks of lines -/

/-- The texts of blocks of lines. -/
def BlockTexts (texts : List String) (blocks : List (List Part)) : Prop :=
  texts.map String.toList = blocks.map fun block => joinLines (block.map Part.line)

theorem BlockTexts.append {texts texts' : List String} {blocks blocks' : List (List Part)}
    (h : BlockTexts texts blocks) (h' : BlockTexts texts' blocks') :
    BlockTexts (texts ++ texts') (blocks ++ blocks') := by
  unfold BlockTexts at *
  rw [List.map_append, List.map_append, h, h']

theorem blockTexts_singles (parts : List Part) :
    BlockTexts (partTexts parts) (parts.map fun p => [p]) := by
  unfold BlockTexts partTexts
  rw [List.map_map, List.map_map]
  apply List.map_congr_left
  intro p _
  show (String.ofList p.line).toList = joinLines [p.line]
  rw [String.toList_ofList, joinLines_singleton]

/-- A text of blocks is the text of all their lines. -/
theorem BlockTexts.toList {texts : List String} {blocks : List (List Part)}
    (h : BlockTexts texts blocks) (hne : ∀ block ∈ blocks, block ≠ []) :
    (String.intercalate "\n" texts).toList = joinLines (blocks.flatten.map Part.line) := by
  have hblocks : ∀ lines ∈ blocks.map (List.map Part.line), lines ≠ [] := by
    intro lines hlines
    obtain ⟨block, hblock, rfl⟩ := List.mem_map.mp hlines
    simpa using hne block hblock
  have hjoined := joinLines_map_joinLines hblocks
  rw [List.map_map, ← List.map_flatten] at hjoined
  rw [String.toList_intercalate, h, ← hjoined]
  rfl

theorem candidateParts_ne_nil (rt : Runtime) (candidate : Dict) :
    candidateParts rt candidate ≠ [] := List.cons_ne_nil _ _

theorem findingLines_blocks : BlockTexts (findingLines rt draft) (findingBlocks rt draft) := by
  unfold findingLines findingBlocks
  by_cases hready : draft.ready = []
  · have hsingles := blockTexts_singles [ownLine "## Finding candidates", ownLine "",
      ownLine "No evidence-bound candidate has completed human review for report inclusion.",
      ownLine ""]
    simp only [partTexts_cons, partTexts_nil, text_ownLine, List.map_cons, List.map_nil] at hsingles
    rw [if_pos hready, if_pos hready]
    exact hsingles
  · rw [if_neg hready, if_neg hready]
    unfold BlockTexts
    rw [List.map_map, List.map_map]
    apply List.map_congr_left
    intro candidate _
    have hblock := toList_block (candidateParts_ne_nil rt candidate)
    rw [Function.comp_apply, Function.comp_apply, renderCandidate_parts, hblock]

theorem findingBlocks_ne_nil : ∀ block ∈ findingBlocks rt draft, block ≠ [] := by
  unfold findingBlocks
  split
  · simp
  · intro block hblock
    obtain ⟨candidate, -, rfl⟩ := List.mem_map.mp hblock
    exact List.append_ne_nil_of_left_ne_nil (candidateParts_ne_nil rt candidate) _

theorem manifestLines_case {data : Dict} {lines : List String}
    (h : manifestLines rt data = .ok lines) :
    "### Case " ++ ticked (fieldText rt data "case_id" (.str "unknown")) ∈ lines := by
  unfold manifestLines at h
  simp only at h
  split at h
  · obtain ⟨shown, -, hlines⟩ := bind_eq_ok.mp h
    cases hlines
    exact List.mem_cons_self ..
  · cases h
    exact List.mem_cons_self ..

theorem evidence_blocks {entries : List Entry} {texts : List String}
    (h : entries.mapM (renderEvidence rt draft) = .ok texts) :
    ∃ blocks, entries.mapM (evidenceParts rt draft) = .ok blocks ∧
      BlockTexts (texts.map (· ++ "\n")) blocks ∧ ∀ block ∈ blocks, block ≠ [] := by
  rw [mapM_eq_ok] at h
  induction h with
  | nil => exact ⟨[], rfl, rfl, by simp⟩
  | cons hfirst _ ih =>
    obtain ⟨parts, hparts, rfl⟩ := renderEvidence_parts hfirst
    obtain ⟨blocks, hblocks, htexts, hne⟩ := ih
    have hparts_ne : parts ≠ [] := by
      simp only [evidenceParts, bind_eq_ok] at hparts
      obtain ⟨head, hhead, panel, -, sbom, -, crypto, -, heq⟩ := hparts
      have hsame := List.append_cancel_right (Except.ok.inj heq)
      rw [← hsame]
      simp [List.ne_nil_of_mem (manifestLines_case hhead)]
    refine ⟨(parts ++ [ownLine ""]) :: blocks,
      mapM_eq_ok.mpr (.cons hparts (mapM_eq_ok.mp hblocks)), ?_, ?_⟩
    · unfold BlockTexts at htexts ⊢
      rw [List.map_cons, List.map_cons, List.map_cons, toList_block hparts_ne, htexts]
    · rw [List.forall_mem_cons]
      exact ⟨List.append_ne_nil_of_left_ne_nil hparts_ne _, hne⟩

theorem partTexts_headParts : partTexts (headParts draft) =
    ["# AOTP human-review draft", "",
      "This draft is generated only from integrity-verified evidence and report-ready finding " ++
        "candidates. It does not infer vulnerabilities, impact, exploitability, affected assets, " ++
        "or remediation.", "",
      "Verified evidence records: " ++ ticked (toString draft.entries.length),
      "Report-ready findings: " ++ ticked (toString draft.ready.length),
      "Excluded non-ready candidates: " ++
        ticked (toString (draft.judged.length - draft.ready.length)), ""] := by
  simp only [headParts, partTexts_cons, partTexts_nil, text_ownLine]

/-- **A report is the text of its lines**, without the white space at its end. -/
theorem renderReport_parts {text : String} (h : renderReport rt draft = .ok text) :
    ∃ parts, reportParts rt draft = .ok parts ∧
      text.toList = joinLines ((trimParts parts).map Part.line) ++ ['\n'] := by
  simp only [renderReport, bind_eq_ok] at h
  obtain ⟨appendix, happendix, htext⟩ := h
  obtain ⟨blocks, hblocks, htexts, hne⟩ := evidence_blocks happendix
  have hall := (((blockTexts_singles (headParts draft)).append
    (findingLines_blocks : BlockTexts (findingLines rt draft) (findingBlocks rt draft))).append
      (blockTexts_singles [ownLine "## Evidence appendix", ownLine ""])).append htexts
  have hall_ne : ∀ block ∈ ((headParts draft).map fun p => [p]) ++ findingBlocks rt draft ++
      ([ownLine "## Evidence appendix", ownLine ""].map fun p => [p]) ++ blocks, block ≠ [] := by
    intro block hblock
    rcases List.mem_append.mp hblock with hblock | hblock
    · rcases List.mem_append.mp hblock with hblock | hblock
      · rcases List.mem_append.mp hblock with hblock | hblock
        · obtain ⟨p, -, rfl⟩ := List.mem_map.mp hblock
          exact List.cons_ne_nil _ _
        · exact findingBlocks_ne_nil block hblock
      · obtain ⟨p, -, rfl⟩ := List.mem_map.mp hblock
        exact List.cons_ne_nil _ _
    · exact hne block hblock
  have hbody := hall.toList hall_ne
  rw [partTexts_headParts] at hbody
  simp only [partTexts_cons, partTexts_nil, text_ownLine] at hbody
  have hflatten : (((headParts draft).map fun p => [p]) ++ findingBlocks rt draft ++
      ([ownLine "## Evidence appendix", ownLine ""].map fun p => [p]) ++ blocks).flatten =
        headParts draft ++ (findingBlocks rt draft).flatten ++
          [ownLine "## Evidence appendix", ownLine ""] ++ blocks.flatten := by
    have hsingles (parts : List Part) : (parts.map fun p => [p]).flatten = parts :=
      List.flatMap_singleton' parts
    rw [List.flatten_append, List.flatten_append, List.flatten_append, hsingles, hsingles]
  have hbreak : "\n".toList = ['\n'] := by decide
  refine ⟨_, bind_eq_ok.mpr ⟨blocks, hblocks, rfl⟩, ?_⟩
  rw [joinLines_trimParts, ← hflatten, ← hbody]
  rw [← Except.ok.inj htext, String.toList_append, String.toList_ofList, hbreak]
  unfold List.rdropWhile
  rfl

/-! ### The report's own lines -/

theorem trim_subset {α : Type} (p : α → Bool) (l : List α) : trim p l ⊆ l := by
  intro a ha
  have hright := (List.dropWhile_suffix p).subset (List.mem_reverse.mp ha)
  exact (List.dropWhile_suffix p).subset (List.mem_reverse.mp hright)

theorem oneLine_reportText (x : Json) : OneLine (reportText rt x).toList := by
  unfold reportText strip
  rw [String.toList_ofList, String.toList_ofList]
  apply OneLine.of_subset _ (trim_subset isSpace _)
  intro c hc
  obtain ⟨d, -, rfl⟩ := List.mem_map.mp hc
  split
  · decide
  · rename_i hnot
    rw [not_or] at hnot
    simp [isLineEnd, hnot.1, hnot.2]

theorem oneLine_nat (n : ℕ) : OneLine (toString n).toList := by
  intro c hc
  have hdigit : c.isDigit = true := by
    have hrepr : (toString n).toList = Nat.toDigits 10 n := by
      show (Nat.repr n).toList = _
      unfold Nat.repr
      exact String.toList_ofList
    rw [hrepr] at hc
    exact Nat.isDigit_of_mem_toDigits (by decide) (by decide) hc
  have hreturn : c ≠ '\r' := by
    rintro rfl
    exact absurd hdigit (by decide)
  have hfeed : c ≠ '\n' := by
    rintro rfl
    exact absurd hdigit (by decide)
  simp [isLineEnd, hreturn, hfeed]

/-- A line that is one line, no heading of the second level, and has no white space at its end. -/
structure Minor (line : String) : Prop where
  oneLine : OneLine line.toList
  level : headingLevel line.toList ≠ some 2
  settled : line.toList.rdropWhile isSpace = line.toList

theorem toList_ticked (value : String) : (ticked value).toList = '\x60' :: (value.toList ++ ['\x60']) := by
  unfold ticked
  simp

theorem minor_ticked {before value : String} (hbefore : OneLine before.toList)
    (hvalue : OneLine value.toList) (hlevel : headingLevel (before ++ ticked value).toList ≠ some 2) :
    Minor (before ++ ticked value) where
  oneLine := by
    rw [String.toList_append, toList_ticked]
    have htick : isLineEnd '\x60' = false := by decide
    exact oneLine_append.mpr ⟨hbefore, oneLine_cons.mpr ⟨htick,
      oneLine_append.mpr ⟨hvalue, oneLine_cons.mpr ⟨htick, oneLine_nil⟩⟩⟩⟩
  level := hlevel
  settled := by
    have htick : ¬ isSpace '\x60' = true := by decide
    have hshape : (before ++ ticked value).toList =
        (before.toList ++ '\x60' :: value.toList) ++ ['\x60'] := by
      rw [String.toList_append, toList_ticked, List.append_assoc, List.cons_append]
    rw [hshape]
    exact List.rdropWhile_concat_neg isSpace _ '\x60' htick

/-- A list item is no heading. -/
theorem headingLevel_item (s : List Char) : headingLevel ("- ".toList ++ s) = none := by
  have hitem : "- ".toList = ['-', ' '] := by decide
  rw [hitem]
  exact headingLevel_cons (by decide) (by decide) _

theorem oneLine_label {label : String} (h : OneLine label.toList) :
    OneLine ("- " ++ label ++ ": ").toList := by
  rw [String.toList_append, String.toList_append]
  exact oneLine_append.mpr ⟨oneLine_append.mpr ⟨by decide, h⟩, by decide⟩

theorem headingLevel_labelled (label value : String) :
    headingLevel (labelled label value).toList = none := by
  unfold labelled
  rw [String.toList_append, String.toList_append, String.toList_append, List.append_assoc,
    List.append_assoc]
  exact headingLevel_item _

theorem minor_labelled {label value : String} (hlabel : OneLine label.toList)
    (hvalue : OneLine value.toList) : Minor (labelled label (ticked value)) := by
  apply minor_ticked (oneLine_label hlabel) hvalue
  have hnone := headingLevel_labelled label (ticked value)
  unfold labelled at hnone
  rw [hnone]
  decide

theorem minor_empty : Minor "" := ⟨by decide, by decide, rfl⟩

theorem headingLevel_title (title : String) : headingLevel ("## " ++ title).toList = some 2 := by
  have hmarks : "## ".toList = List.replicate 2 '#' ++ [' '] := by decide
  rw [String.toList_append, hmarks, List.append_assoc]
  exact headingLevel_marks (by decide) (by decide) _

theorem minor_case (value : String) (hvalue : OneLine value.toList) :
    Minor ("### Case " ++ ticked value) := by
  apply minor_ticked (by decide) hvalue
  have hmarks : "### Case ".toList = List.replicate 3 '#' ++ ' ' :: "Case ".toList := by decide
  rw [String.toList_append, hmarks, List.append_assoc, List.cons_append,
    headingLevel_marks (by decide) (by decide)]
  decide

/-- A part that takes care of itself and adds no heading of the second level. -/
def MinorPart : Part → Prop
  | .own line => OneLine line ∧ headingLevel line ≠ some 2 ∧ line.rdropWhile isSpace = line
  | p => p.Regular

theorem Minor.part {line : String} (h : Minor line) : MinorPart (ownLine line) :=
  ⟨h.oneLine, h.level, h.settled⟩

theorem minor_shownAs {label : String} {x : Json} (hlabel : OneLine label.toList)
    (hnone : ∀ s, headingLevel (label.toList ++ s) = none) : MinorPart (shownAs rt label x) :=
  ⟨hlabel, hnone⟩

/-- A value that is shown as it stands, in an item of a list. -/
theorem minor_item {label : String} {x : Json} (hlabel : OneLine label.toList) :
    MinorPart (shownAs rt ("- " ++ label ++ ": ") x) := by
  apply minor_shownAs (oneLine_label hlabel)
  intro s
  rw [String.toList_append, String.toList_append, List.append_assoc, List.append_assoc]
  exact headingLevel_item _

/-- A value that is shown as it stands, below an item. -/
theorem minor_nested {label : String} {x : Json} (hlabel : OneLine label.toList)
    (hstart : label.toList.take 3 = [' ', ' ', '-']) : MinorPart (shownAs rt label x) := by
  apply minor_shownAs hlabel
  intro s
  rw [← List.take_append_drop 3 label.toList, hstart]
  rfl

theorem minor_section {line : String} (hline : OneLine line.toList)
    (hlevel : headingLevel line.toList = some 4) (hsettled : line.toList.rdropWhile isSpace = line.toList) :
    Minor line := by
  refine ⟨hline, ?_, hsettled⟩
  rw [hlevel]
  decide

theorem manifestLines_minor {data : Dict} {lines : List String}
    (h : manifestLines rt data = .ok lines) : ∀ line ∈ lines, Minor line := by
  have hall : ∀ shown : String, ∀ line ∈
      ["### Case " ++ ticked (fieldText rt data "case_id" (.str "unknown")), "",
        labelled "Verdict" (ticked (fieldText rt data "verifier_verdict" (.str "unknown"))),
        labelled "Target alias" (ticked (fieldText rt data "target_alias" (.str "unknown"))),
        labelled "Module" (ticked (reportText rt (orElse (dget data "module_name")
          (.str "not recorded")))),
        labelled "Tool" (ticked (fieldText rt data "tool" (.str "unknown"))),
        labelled "Confidence" (ticked (fieldText rt data "confidence" (.str "unknown"))),
        labelled "Evidence mappings" (ticked (reportText rt (.str shown))),
        labelled "Redaction" (ticked (fieldText rt data "redaction_status" (.str "unknown"))),
        labelled "Manifest SHA256" (ticked (fieldText rt data "manifest_sha256" (.str "unknown")))],
      Minor line := by
    intro shown
    simp only [List.forall_mem_cons]
    exact ⟨minor_case _ (oneLine_reportText _), minor_empty,
      minor_labelled (by decide) (oneLine_reportText _),
      minor_labelled (by decide) (oneLine_reportText _),
      minor_labelled (by decide) (oneLine_reportText _),
      minor_labelled (by decide) (oneLine_reportText _),
      minor_labelled (by decide) (oneLine_reportText _),
      minor_labelled (by decide) (oneLine_reportText _),
      minor_labelled (by decide) (oneLine_reportText _),
      minor_labelled (by decide) (oneLine_reportText _), by simp⟩
  unfold manifestLines at h
  simp only at h
  split at h
  · obtain ⟨shown, -, hlines⟩ := bind_eq_ok.mp h
    cases hlines
    exact hall shown
  · cases h
    exact hall "none recorded"

theorem panelParts_minor {record : Dict} {parts : List Part}
    (h : panelParts rt record = .ok parts) : ∀ p ∈ parts, MinorPart p := by
  simp only [panelParts, bind_eq_ok] at h
  obtain ⟨_, -, _, -, _, -, _, -, _, -, _, -, _, -, hparts⟩ := h
  cases hparts
  simp only [List.forall_mem_cons]
  exact ⟨minor_empty.part, (minor_section (by decide) (by decide) (by decide)).part, minor_empty.part,
    (minor_labelled (by decide) (oneLine_reportText _)).part,
    (minor_labelled (by decide) (oneLine_reportText _)).part, minor_item (by decide),
    minor_item (by decide), (minor_labelled (by decide) (oneLine_reportText _)).part,
    (minor_labelled (by decide) (oneLine_reportText _)).part, by simp⟩

theorem componentParts_minor {component : Json} {parts : List Part}
    (h : componentParts rt component = .ok parts) : ∀ p ∈ parts, MinorPart p := by
  simp only [componentParts, bind_eq_ok] at h
  obtain ⟨_, -, name, -, version, -, _, -, _, -, _, -, _, -, hparts⟩ := h
  cases hparts
  have hbefore : OneLine ("- " ++ ticked (reportText rt name) ++ " version ").toList := by
    rw [String.toList_append, String.toList_append, toList_ticked]
    have htick : isLineEnd '\x60' = false := by decide
    exact oneLine_append.mpr ⟨oneLine_append.mpr ⟨by decide, oneLine_cons.mpr ⟨htick,
      oneLine_append.mpr ⟨oneLine_reportText name, oneLine_cons.mpr ⟨htick, oneLine_nil⟩⟩⟩⟩,
      by decide⟩
  have hname : Minor ("- " ++ ticked (reportText rt name) ++ " version " ++
      ticked (reportText rt version)) := by
    apply minor_ticked hbefore (oneLine_reportText version)
    rw [String.toList_append, String.toList_append, String.toList_append, List.append_assoc,
      List.append_assoc, headingLevel_item]
    decide
  simp only [List.forall_mem_cons]
  exact ⟨hname.part, minor_nested (by decide) (by decide), minor_nested (by decide) (by decide),
    minor_nested (by decide) (by decide), minor_nested (by decide) (by decide), by simp⟩

theorem componentParts_mapM_minor {items : List Json} {blocks : List (List Part)}
    (h : items.mapM (componentParts rt) = .ok blocks) : ∀ p ∈ blocks.flatten, MinorPart p := by
  rw [mapM_eq_ok] at h
  induction h with
  | nil => simp
  | cons hfirst _ ih =>
    rw [List.flatten_cons]
    exact List.forall_mem_append.mpr ⟨componentParts_minor hfirst, ih⟩

theorem sbomParts_minor {record : Dict} {parts : List Part}
    (h : sbomParts rt record = .ok parts) : ∀ p ∈ parts, MinorPart p := by
  simp only [sbomParts, bind_eq_ok] at h
  obtain ⟨_, -, items, -, blocks, hblocks, _, -, line, -, hparts⟩ := h
  cases hparts
  simp only [List.forall_mem_append, List.forall_mem_cons]
  exact ⟨⟨⟨minor_empty.part, (minor_section (by decide) (by decide) (by decide)).part,
    minor_empty.part, by simp⟩, componentParts_mapM_minor hblocks⟩, minor_empty.part, trivial, by simp⟩

theorem cryptoParts_minor {record : Dict} {parts : List Part}
    (h : cryptoParts rt record = .ok parts) : ∀ p ∈ parts, MinorPart p := by
  simp only [cryptoParts, bind_eq_ok] at h
  obtain ⟨_, -, _, -, _, -, cookies, -, _, -, _, -, _, -, indicators, -, _, -, _, -, line, -, hparts⟩ := h
  cases hparts
  simp only [List.forall_mem_cons]
  exact ⟨minor_empty.part, (minor_section (by decide) (by decide) (by decide)).part, minor_empty.part,
    (minor_labelled (by decide) (oneLine_reportText _)).part,
    (minor_labelled (by decide) (oneLine_reportText _)).part,
    (minor_labelled (by decide) (oneLine_nat cookies)).part,
    (minor_labelled (by decide) (oneLine_reportText _)).part,
    (minor_labelled (by decide) (oneLine_nat indicators)).part, minor_item (by decide),
    minor_empty.part, trivial, by simp⟩

theorem optionalParts_minor {parts : Dict → Except Exc (List Part)} {found : Option Dict}
    {ps : List Part} (hparts : ∀ record ps, parts record = .ok ps → ∀ p ∈ ps, MinorPart p)
    (h : optionalParts parts found = .ok ps) : ∀ p ∈ ps, MinorPart p := by
  cases found with
  | none =>
    cases h
    simp
  | some record => exact hparts record ps h

theorem evidenceParts_minor {entry : Entry} {parts : List Part}
    (h : evidenceParts rt draft entry = .ok parts) : ∀ p ∈ parts, MinorPart p := by
  simp only [evidenceParts, bind_eq_ok] at h
  obtain ⟨head, hhead, panel, hpanel, sbom, hsbom, crypto, hcrypto, hparts⟩ := h
  cases hparts
  have hminor := manifestLines_minor hhead
  have hown : ∀ p ∈ head.map ownLine, MinorPart p := by
    intro p hp
    obtain ⟨line, hline, rfl⟩ := List.mem_map.mp hp
    exact (hminor line hline).part
  simp only [List.forall_mem_append, List.forall_mem_cons]
  exact ⟨⟨⟨⟨hown, optionalParts_minor (fun _ _ => panelParts_minor) hpanel⟩,
    optionalParts_minor (fun _ _ => sbomParts_minor) hsbom⟩,
    optionalParts_minor (fun _ _ => cryptoParts_minor) hcrypto⟩, minor_empty.part, by simp⟩

theorem appendix_minor {entries : List Entry} {blocks : List (List Part)}
    (h : entries.mapM (evidenceParts rt draft) = .ok blocks) : ∀ p ∈ blocks.flatten, MinorPart p := by
  rw [mapM_eq_ok] at h
  induction h with
  | nil => simp
  | cons hfirst _ ih =>
    rw [List.flatten_cons]
    exact List.forall_mem_append.mpr ⟨evidenceParts_minor hfirst, ih⟩

theorem MinorPart.regular {p : Part} (h : MinorPart p) : p.Regular := by
  cases p with
  | own line => exact h.1
  | quoted label recorded => exact h
  | standing recorded => exact h

theorem oneLine_counted {label : String} (h : OneLine label.toList) (n : ℕ) :
    OneLine (label ++ ticked (toString n)).toList := by
  rw [String.toList_append, toList_ticked]
  have htick : isLineEnd '\x60' = false := by decide
  exact oneLine_append.mpr ⟨h, oneLine_cons.mpr ⟨htick,
    oneLine_append.mpr ⟨oneLine_nat n, oneLine_cons.mpr ⟨htick, oneLine_nil⟩⟩⟩⟩

theorem headParts_regular : ∀ p ∈ headParts draft, p.Regular := by
  have hnotice :
      OneLine ("This draft is generated only from integrity-verified evidence and report-ready finding " ++
        "candidates. It does not infer vulnerabilities, impact, exploitability, affected assets, " ++
        "or remediation.").toList := by
    rw [String.toList_append, String.toList_append]
    exact oneLine_append.mpr ⟨oneLine_append.mpr ⟨by decide, by decide⟩, by decide⟩
  have htitle : OneLine "# AOTP human-review draft".toList := by decide
  unfold headParts
  simp only [List.forall_mem_cons]
  exact ⟨htitle, oneLine_nil, hnotice, oneLine_nil, oneLine_counted (by decide) _,
    oneLine_counted (by decide) _, oneLine_counted (by decide) _, oneLine_nil, by simp⟩

theorem candidateParts_regular (candidate : Dict) :
    ∀ p ∈ candidateParts rt candidate, p.Regular := by
  have htitle : OneLine ("## " ++ reportText rt (dget candidate "title")).toList := by
    rw [String.toList_append]
    exact oneLine_append.mpr ⟨by decide, oneLine_reportText _⟩
  have hlined {label : String} (hlabel : OneLine label.toList) (x : Json) :
      (ownLine (labelled label (ticked (reportText rt x)))).Regular :=
    (minor_labelled hlabel (oneLine_reportText x)).oneLine
  have hplain {label : String} (hlabel : OneLine label.toList) (x : Json) :
      (shownAs rt ("- " ++ label ++ ": ") x).Regular :=
    (minor_item hlabel : MinorPart (shownAs rt ("- " ++ label ++ ": ") x)).regular
  have hsummary : OneLine "### Recorded summary".toList := by decide
  unfold candidateParts
  simp only [List.forall_mem_cons]
  exact ⟨htitle, oneLine_nil, hlined (by decide) _, hplain (by decide) _, hlined (by decide) _,
    hlined (by decide) _, hplain (by decide) _, hplain (by decide) _, hplain (by decide) _,
    hplain (by decide) _, hlined (by decide) _, hlined (by decide) _, hlined (by decide) _,
    hplain (by decide) _, hplain (by decide) _, oneLine_nil, hsummary, oneLine_nil, trivial, by simp⟩

theorem findingBlocks_regular : ∀ p ∈ (findingBlocks rt draft).flatten, p.Regular := by
  unfold findingBlocks
  split
  · have hheading : OneLine "## Finding candidates".toList := by decide
    have hnone : OneLine
        "No evidence-bound candidate has completed human review for report inclusion.".toList := by
      decide
    simp only [List.flatten_cons, List.flatten_nil, List.cons_append, List.nil_append,
      List.forall_mem_cons]
    exact ⟨hheading, oneLine_nil, hnone, oneLine_nil, by simp⟩
  · intro p hp
    obtain ⟨block, hblock, hp⟩ := List.mem_flatten.mp hp
    obtain ⟨candidate, -, rfl⟩ := List.mem_map.mp hblock
    rcases List.mem_append.mp hp with hp | hp
    · exact candidateParts_regular candidate p hp
    · rw [List.mem_singleton.mp hp]
      exact oneLine_nil

theorem reportParts_regular {parts : List Part} (h : reportParts rt draft = .ok parts) :
    ∀ p ∈ parts, p.Regular := by
  simp only [reportParts, bind_eq_ok] at h
  obtain ⟨blocks, hblocks, hparts⟩ := h
  cases hparts
  have happendix : OneLine "## Evidence appendix".toList := by decide
  simp only [List.forall_mem_append, List.forall_mem_cons]
  exact ⟨⟨⟨headParts_regular, findingBlocks_regular⟩, happendix, oneLine_nil, by simp⟩,
    fun p hp => (appendix_minor hblocks p hp).regular⟩

/-! ### Headings of the second level -/

/-- The headings of the second level among the report's own lines. -/
def levelTwo (parts : List Part) : ℕ :=
  (ownLines parts).countP fun line => headingLevel line == some 2

theorem levelTwo_append (parts parts' : List Part) :
    levelTwo (parts ++ parts') = levelTwo parts + levelTwo parts' := by
  unfold levelTwo ownLines
  rw [List.filterMap_append, List.countP_append]

theorem levelTwo_own (line : String) (parts : List Part) :
    levelTwo (ownLine line :: parts) =
      levelTwo parts + if headingLevel line.toList = some 2 then 1 else 0 := by
  show ((line.toList :: ownLines parts).countP fun line => headingLevel line == some 2) = _
  rw [List.countP_cons]
  simp [levelTwo]

theorem levelTwo_shown (label : String) (x : Json) (parts : List Part) :
    levelTwo (shownAs rt label x :: parts) = levelTwo parts := rfl

theorem levelTwo_standing (recorded : List Char) (parts : List Part) :
    levelTwo (.standing recorded :: parts) = levelTwo parts := rfl

theorem levelTwo_nil : levelTwo [] = 0 := rfl

theorem levelTwo_minor {parts : List Part} (h : ∀ p ∈ parts, MinorPart p) :
    levelTwo (trimParts parts) = 0 := by
  have hkept : ∀ p ∈ trimParts parts, MinorPart p := by
    intro p hp
    obtain ⟨q, hq, rfl | rfl⟩ := mem_trimParts hp
    · exact h p hq
    · have hminor := h q hq
      cases q with
      | own line =>
        show MinorPart (.own (line.rdropWhile isSpace))
        rw [hminor.2.2]
        exact hminor
      | quoted label recorded => exact hminor
      | standing recorded => trivial
  unfold levelTwo
  rw [List.countP_eq_zero]
  intro line hline
  obtain ⟨p, hp, hown⟩ := List.mem_filterMap.mp hline
  have hminor := hkept p hp
  cases p with
  | own own =>
    cases Option.some.inj hown
    simpa using hminor.2.1
  | quoted label recorded => cases hown
  | standing recorded => cases hown

theorem levelTwo_candidate (candidate : Dict) :
    levelTwo (candidateParts rt candidate ++ [ownLine ""]) = 1 := by
  have hempty : headingLevel "".toList = none := rfl
  have hsummary : headingLevel "### Recorded summary".toList = some 3 := by decide
  unfold candidateParts
  simp only [List.cons_append, List.nil_append, levelTwo_own, levelTwo_shown, levelTwo_standing,
    levelTwo_nil, headingLevel_labelled, headingLevel_title, hempty, hsummary]
  rfl

theorem levelTwo_findings : levelTwo (findingBlocks rt draft).flatten = max 1 draft.ready.length := by
  unfold findingBlocks
  by_cases hready : draft.ready = []
  · have hheading : headingLevel "## Finding candidates".toList = some 2 := by decide
    have hempty : headingLevel "".toList = none := rfl
    have hnone : headingLevel
        "No evidence-bound candidate has completed human review for report inclusion.".toList =
        none := by decide
    rw [if_pos hready, hready]
    simp only [List.flatten_cons, List.flatten_nil, List.cons_append, List.nil_append, levelTwo_own,
      levelTwo_nil, hheading, hempty, hnone]
    rfl
  · have hcount (ready : List Dict) : levelTwo
        (ready.map fun candidate => candidateParts rt candidate ++ [ownLine ""]).flatten =
          ready.length := by
      induction ready with
      | nil => rfl
      | cons candidate ready ih =>
        rw [List.map_cons, List.flatten_cons, levelTwo_append, levelTwo_candidate, ih,
          List.length_cons]
        omega
    have hpos : 1 ≤ draft.ready.length := List.length_pos_iff.mpr hready
    rw [if_neg hready, hcount]
    omega

/-- A line that starts with another character is no heading. -/
theorem headingLevel_append (before : String) (c : Char) (h : before.toList.head? = some c)
    (hspace : c ≠ ' ') (hmark : c ≠ '#') (after : String) :
    headingLevel (before ++ after).toList = none := by
  obtain ⟨rest, hrest⟩ := List.head?_eq_some_iff.mp h
  rw [String.toList_append, hrest]
  exact headingLevel_cons hspace hmark _

theorem levelTwo_head : levelTwo (headParts draft) = 0 := by
  have htitle : headingLevel "# AOTP human-review draft".toList = some 1 := by decide
  have hempty : headingLevel "".toList = none := rfl
  have hdraft : headingLevel
      ("This draft is generated only from integrity-verified evidence and report-ready finding " ++
        "candidates. It does not infer vulnerabilities, impact, exploitability, affected assets, " ++
        "or remediation.").toList = none := by
    rw [String.append_assoc]
    exact headingLevel_append _ 'T' (by decide) (by decide) (by decide) _
  have hverified := headingLevel_append "Verified evidence records: " 'V' (by decide) (by decide)
    (by decide)
  have hfindings := headingLevel_append "Report-ready findings: " 'R' (by decide) (by decide)
    (by decide)
  have hexcluded := headingLevel_append "Excluded non-ready candidates: " 'E' (by decide) (by decide)
    (by decide)
  unfold headParts
  simp only [levelTwo_own, levelTwo_nil, htitle, hempty, hverified, hfindings, hexcluded, hdraft]
  rfl

/-- What comes before the manifests ends in a visible line after all. -/
theorem trimParts_report {blocks : List (List Part)} (hne : trimParts blocks.flatten ≠ []) :
    trimParts (headParts draft ++ (findingBlocks rt draft).flatten ++
      [ownLine "## Evidence appendix", ownLine ""] ++ blocks.flatten) =
    headParts draft ++ (findingBlocks rt draft).flatten ++
      [ownLine "## Evidence appendix", ownLine ""] ++ trimParts blocks.flatten :=
  trimParts_append hne _

theorem trimParts_evidence {entries : List Entry} (hentries : entries ≠ [])
    {blocks : List (List Part)} (h : entries.mapM (evidenceParts rt draft) = .ok blocks) :
    trimParts blocks.flatten ≠ [] := by
  obtain ⟨entry, rest, rfl⟩ := List.exists_cons_of_ne_nil hentries
  cases mapM_eq_ok.mp h with
  | cons hfirst _ =>
    rename_i block blocks _
    simp only [evidenceParts, bind_eq_ok] at hfirst
    obtain ⟨head, hhead, panel, -, sbom, -, crypto, -, hblock⟩ := hfirst
    have hcase := manifestLines_case hhead
    have hminor := manifestLines_minor hhead _ hcase
    have hmem : ownLine ("### Case " ++ ticked (fieldText rt entry.2 "case_id" (.str "unknown"))) ∈
        (block :: blocks).flatten := by
      cases hblock
      apply List.mem_flatten.mpr
      refine ⟨_, List.mem_cons_self .., ?_⟩
      simp only [List.mem_append]
      exact .inl (.inl (.inl (.inl (List.mem_map_of_mem hcase))))
    apply trimParts_ne_nil hmem
    show List.rdropWhile isSpace _ ≠ []
    rw [hminor.settled, String.toList_append]
    exact List.append_ne_nil_of_left_ne_nil (by decide) _

theorem levelTwo_report {entries : List Entry} (hentries : entries ≠ [])
    {blocks : List (List Part)} (h : entries.mapM (evidenceParts rt draft) = .ok blocks) :
    levelTwo (trimParts (headParts draft ++ (findingBlocks rt draft).flatten ++
      [ownLine "## Evidence appendix", ownLine ""] ++ blocks.flatten)) =
        max 1 draft.ready.length + 1 := by
  have happendix : headingLevel "## Evidence appendix".toList = some 2 := by decide
  have hempty : headingLevel "".toList = none := rfl
  rw [trimParts_report (trimParts_evidence hentries h), levelTwo_append, levelTwo_append,
    levelTwo_append, levelTwo_head, levelTwo_findings, levelTwo_minor (appendix_minor h),
    levelTwo_own, levelTwo_own, levelTwo_nil, happendix, hempty]
  simp

theorem countP_filter_isHeading (lines : List (List Char)) :
    (lines.filter isHeading).countP (fun line => headingLevel line == some 2) =
      lines.countP fun line => headingLevel line == some 2 := by
  rw [List.countP_filter]
  apply List.countP_congr
  intro line _
  rw [Bool.and_eq_true, beq_iff_eq]
  constructor
  · exact And.left
  · intro hlevel
    refine ⟨hlevel, ?_⟩
    unfold isHeading
    rw [hlevel]
    rfl

/-! ### Reports without forged lines -/

/-- The texts of a finding that are shown as they stand are one line, and its summary, which stands
alone, is no heading. -/
structure PlainFinding (rt : Runtime) (candidate : Dict) : Prop where
  shown : ∀ key ∈ ["state", "severity_candidate", "confidence", "evidence_strength",
    "report_review_required", "evidence_manifest_sha256", "fingerprint"],
    OneLine (pyStr rt (dget candidate key)).toList
  summary : headingLevel (reportText rt (dget candidate "summary")).toList = none

/-- The texts that a report shows as they stand are one line, and no heading if they stand alone: those
of its findings and those of the records of its manifests, without the white space at the end of the
report. -/
structure PlainTexts (rt : Runtime) (draft : ReportDraft) : Prop where
  findings : ∀ candidate ∈ draft.ready, PlainFinding rt candidate
  records : ∀ blocks, draft.entries.mapM (evidenceParts rt draft) = .ok blocks →
    ∀ p ∈ trimParts blocks.flatten, p.Plain

theorem plain_candidate (candidate : Dict) :
    (∀ p ∈ candidateParts rt candidate ++ [ownLine ""], p.Plain) ↔ PlainFinding rt candidate := by
  have hplain (label : String) (key : String) :
      (shownAs rt ("- " ++ label ++ ": ") (dget candidate key)).Plain ↔
        OneLine (pyStr rt (dget candidate key)).toList := Iff.rfl
  have hsummary : (Part.standing (reportText rt (dget candidate "summary")).toList).Plain ↔
      headingLevel (reportText rt (dget candidate "summary")).toList = none :=
    ⟨And.right, fun h => ⟨oneLine_reportText _, h⟩⟩
  have hown (line : String) : (ownLine line).Plain := trivial
  unfold candidateParts
  simp only [List.forall_mem_append, List.forall_mem_cons, hplain, hsummary, hown, true_and,
    List.not_mem_nil, IsEmpty.forall_iff, implies_true, and_true]
  constructor
  · rintro ⟨hstate, hseverity, hconfidence, hstrength, hrequired, hmanifest, hfingerprint, hheading⟩
    refine ⟨?_, hheading⟩
    simp only [List.forall_mem_cons]
    exact ⟨hstate, hseverity, hconfidence, hstrength, hrequired, hmanifest, hfingerprint, by simp⟩
  · intro h
    have hshown := h.shown
    simp only [List.forall_mem_cons] at hshown
    obtain ⟨hstate, hseverity, hconfidence, hstrength, hrequired, hmanifest, hfingerprint, -⟩ := hshown
    exact ⟨hstate, hseverity, hconfidence, hstrength, hrequired, hmanifest, hfingerprint, h.summary⟩

theorem plain_findings : (∀ p ∈ (findingBlocks rt draft).flatten, p.Plain) ↔
    ∀ candidate ∈ draft.ready, PlainFinding rt candidate := by
  unfold findingBlocks
  by_cases hready : draft.ready = []
  · rw [if_pos hready, hready]
    have hown (line : String) : (ownLine line).Plain := trivial
    simp [hown]
  · rw [if_neg hready]
    constructor
    · intro h candidate hcandidate
      apply (plain_candidate candidate).mp
      intro p hp
      exact h p (List.mem_flatten.mpr ⟨_, List.mem_map_of_mem hcandidate, hp⟩)
    · intro h p hp
      obtain ⟨block, hblock, hp⟩ := List.mem_flatten.mp hp
      obtain ⟨candidate, hcandidate, rfl⟩ := List.mem_map.mp hblock
      exact (plain_candidate candidate).mpr (h candidate hcandidate) p hp

theorem plain_iff (hentries : draft.entries ≠ []) {parts : List Part}
    (h : reportParts rt draft = .ok parts) :
    (∀ p ∈ trimParts parts, p.Plain) ↔ PlainTexts rt draft := by
  simp only [reportParts, bind_eq_ok] at h
  obtain ⟨blocks, hblocks, hparts⟩ := h
  have hown (line : String) : (ownLine line).Plain := trivial
  have hhead : ∀ p ∈ headParts draft, p.Plain := by
    unfold headParts
    simp [hown]
  rw [← Except.ok.inj hparts, trimParts_report (trimParts_evidence hentries hblocks)]
  simp only [List.forall_mem_append, plain_findings]
  constructor
  · rintro ⟨⟨⟨-, hfindings⟩, -⟩, hrecords⟩
    refine ⟨hfindings, ?_⟩
    intro blocks' hblocks'
    rw [hblocks] at hblocks'
    cases hblocks'
    exact hrecords
  · intro h
    refine ⟨⟨⟨hhead, h.findings⟩, ?_⟩, h.records blocks hblocks⟩
    simp [hown]

theorem unforged_of_render {text : String} (hentries : draft.entries ≠ [])
    (h : renderReport rt draft = .ok text) :
    ∃ parts, reportParts rt draft = .ok parts ∧
      (Unforged draft (trimParts parts) text ↔ PlainTexts rt draft) := by
  obtain ⟨parts, hparts, htext⟩ := renderReport_parts h
  refine ⟨parts, hparts, ?_⟩
  have hregular := regular_trimParts (reportParts_regular hparts)
  have hcount : levelTwo (trimParts parts) = max 1 draft.ready.length + 1 := by
    simp only [reportParts, bind_eq_ok] at hparts
    obtain ⟨blocks, hblocks, hparts⟩ := hparts
    cases hparts
    exact levelTwo_report hentries hblocks
  have hne : trimParts parts ≠ [] := by
    intro hnil
    rw [hnil, levelTwo_nil] at hcount
    omega
  have hlines : textLines text.toList =
      textLines (joinLines ((trimParts parts).map Part.line)) ++ [[]] := by
    rw [htext]
    exact textLines_concat (by decide) _
  have hempty : isHeading [] = false := rfl
  have hheadings : (textLines text.toList).filter isHeading =
      (textLines (joinLines ((trimParts parts).map Part.line))).filter isHeading := by
    rw [hlines, List.filter_append, List.filter_singleton, hempty]
    exact List.append_nil _
  rw [← plain_iff hentries hparts, ← kept_iff hregular hne]
  constructor
  · intro hunforged
    refine ⟨?_, hheadings ▸ hunforged.headings⟩
    exact List.append_cancel_right (hlines.symm.trans hunforged.lines)
  · rintro ⟨hkept, howned⟩
    have hfiltered := hheadings.trans howned
    refine ⟨by rw [hlines, hkept], hfiltered, ?_⟩
    rw [← countP_filter_isHeading, hfiltered, countP_filter_isHeading]
    exact hcount

/-- A report has a manifest. -/
theorem entries_ne_nil {archive : Archive} (h : draftOf rt archive = .ok draft) :
    draft.entries ≠ [] := by
  obtain ⟨hverify, hentries, -, -⟩ := draftOf_eq_ok h
  intro hnil
  rw [hnil] at hentries
  have hpaths : archive.manifestPaths = [] := by
    unfold loadEntries at hentries
    cases hlist : archive.manifestPaths with
    | nil => rfl
    | cons path paths =>
      rw [hlist] at hentries
      cases mapM_eq_ok.mp hentries
  unfold verifyEvidenceDirectory at hverify
  rw [if_pos hpaths] at hverify
  cases hverify

/-- **A report is unforged exactly where each recorded text that it shows as it stands is one line,
and no heading if it stands alone.** -/
theorem unforged_iff {archive : Archive} {text : String}
    (hreturned : generateMarkdown rt archive = .ok text) :
    ∃ draft parts, draftOf rt archive = .ok draft ∧ reportParts rt draft = .ok parts ∧
      (Unforged draft (trimParts parts) text ↔ PlainTexts rt draft) := by
  obtain ⟨draft, hdraft, htext⟩ := bind_eq_ok.mp hreturned
  obtain ⟨parts, hparts, hiff⟩ := unforged_of_render (entries_ne_nil hdraft) htext
  exact ⟨draft, parts, hdraft, hparts, hiff⟩

theorem unforged_iff_controls : ∃ text draft parts,
    generateMarkdown reportRuntime controlsArchive = .ok text ∧
      draftOf reportRuntime controlsArchive = .ok draft ∧
      reportParts reportRuntime draft = .ok parts ∧
      (Unforged draft (trimParts parts) text ↔ PlainTexts reportRuntime draft) := by
  obtain ⟨text, htext⟩ := controlsArchive_reported
  obtain ⟨draft, parts, hdraft, hparts, hiff⟩ := unforged_iff htext
  exact ⟨text, draft, parts, htext, hdraft, hparts, hiff⟩

/-! ### A forged finding -/

/-- The finding without a digest of its own, and with a heading after its fingerprint. -/
def forgedFinding : Dict :=
  dset (dset controlsFinding "fingerprint" (.str "fingerprint-1\n\n## Forged finding"))
    "candidate_sha256" .null

/-- The directories with it. -/
def forgedArchive : Archive :=
  { controlsArchive with
    content path :=
      if path = "finding.json" then .ok (.obj forgedFinding) else controlsArchive.content path }

theorem forgedArchive_holds : HoldsControls forgedArchive := ⟨rfl, rfl, rfl, rfl⟩

set_option maxRecDepth 20000 in
theorem forgedFinding_quiet : quietEntries reportRuntime forgedFinding = true := by
  have hfingerprint : quietEntries reportRuntime
      (dset controlsFinding "fingerprint" (.str "fingerprint-1\n\n## Forged finding")) = true :=
    quietEntries_dset controlsFinding_quiet (by decide) (by decide)
  exact quietEntries_dset hfingerprint (by decide) rfl

set_option maxRecDepth 20000 in
theorem forgedFinding_names : NamesControls forgedArchive forgedFinding := by
  have hvalues : quietValue reportRuntime (.obj forgedFinding) = true := forgedFinding_quiet
  have hfields : checkCandidateFields reportRuntime forgedArchive.toReading forgedFinding =
      .ok () := by decide
  have hchecks : checkCandidate reportRuntime forgedArchive.toReading forgedFinding = .ok () :=
    bind_eq_ok.mpr ⟨(), hfields, assertValueRedacted_of_quiet hvalues⟩
  have hcontent : forgedArchive.content "finding.json" = .ok (.obj forgedFinding) := by
    simp [forgedArchive]
  refine ⟨?_, ?_, ?_⟩
  · apply Loader.invalidAs_eq_ok.mpr
    apply Loader.readRecord_eq_ok.mpr
    refine ⟨forgedFinding, hcontent, ?_⟩
    exact Loader.read_eq_ok.mpr ⟨rfl, hchecks, .inl rfl⟩
  · rfl
  · rfl

/-- Its fingerprint is not one line. -/
theorem forgedFinding_not_plain : ¬ PlainFinding reportRuntime forgedFinding := by
  intro hplain
  have hfingerprint : dget forgedFinding "fingerprint" =
      .str "fingerprint-1\n\n## Forged finding" := rfl
  have hline := hplain.shown "fingerprint" (by simp)
  rw [hfingerprint] at hline
  exact absurd hline (by decide)

/-- **A recorded fingerprint forges a finding**, as the report shows it. -/
theorem report_forged : ¬ ∀ (rt : Runtime) (archive : Archive) (text : String)
    (draft : ReportDraft) (parts : List Part), generateMarkdown rt archive = .ok text →
      draftOf rt archive = .ok draft → reportParts rt draft = .ok parts →
      Unforged draft (trimParts parts) text := by
  intro hall
  have hdraft := draftWith_drawn forgedArchive_holds forgedFinding_names
  obtain ⟨text, htext⟩ := @draftWith_renders forgedFinding
  obtain ⟨parts, hparts, hiff⟩ := unforged_of_render (entries_ne_nil hdraft) htext
  have hunforged := hall reportRuntime forgedArchive text (draftWith forgedFinding) parts
    (bind_eq_ok.mpr ⟨_, hdraft, htext⟩) hdraft hparts
  have hmem : forgedFinding ∈ (draftWith forgedFinding).ready := List.mem_singleton_self _
  exact forgedFinding_not_plain ((hiff.mp hunforged).findings forgedFinding hmem)

end Aotp.Evidence
