import Aotp.Wstg.Objectives

/-!
# The catalog of test cases

* `WSTGTestCase` — one test case, with the checks of its construction.
* `WSTGCatalog` — a complete set of cases in order: its constructor sorts them, and refuses a
  duplicate and a category that has another number of cases than expected.
* `WSTGCatalog.init_cases` — a catalog is what its constructor makes of its cases.
-/

namespace Aotp.Wstg

open PyData Aotp.Tools

/-- Source: `wstg.catalog.WSTGSafetyTier` -/
inductive WSTGSafetyTier where
  | passive
  | safeActive
  | intrusiveActive
  | destructiveDenied
  deriving DecidableEq, Repr

/-- Source: `wstg.catalog.WSTGAuthRequirement` -/
inductive WSTGAuthRequirement where
  | anonymous
  | authenticated
  | multiRole
  | privileged
  | sourceAssisted
  deriving DecidableEq, Repr

/-- Source: `wstg.catalog.WSTGAdapterFamily` -/
inductive WSTGAdapterFamily where
  | http
  | browser
  | proxy
  | tls
  | api
  | sourceReview
  | manual
  | multiStep
  deriving DecidableEq, Repr

/-- Source: `wstg.catalog.WSTGCatalogError` -/
def catalogError (msg : String) : Exc := .custom "WSTGCatalogError" msg

/-- Source: `wstg.catalog._CATEGORY_NAMES` -/
def categoryNames : List (String × String) :=
  [("INFO", "Information Gathering"),
    ("CONF", "Configuration and Deployment Management Testing"),
    ("IDNT", "Identity Management Testing"), ("ATHN", "Authentication Testing"),
    ("ATHZ", "Authorization Testing"), ("SESS", "Session Management Testing"),
    ("INPV", "Input Validation Testing"), ("ERRH", "Testing for Error Handling"),
    ("CRYP", "Testing for Weak Cryptography"), ("BUSL", "Business Logic Testing"),
    ("CLNT", "Client-side Testing"), ("APIT", "API Testing")]

/-- Source: `wstg.catalog._EXPECTED_CATEGORY_COUNTS` -/
def expectedCategoryCounts : List (String × ℕ) :=
  [("INFO", 10), ("CONF", 11), ("IDNT", 5), ("ATHN", 10), ("ATHZ", 4), ("SESS", 9), ("INPV", 19),
    ("ERRH", 2), ("CRYP", 4), ("BUSL", 9), ("CLNT", 13), ("APIT", 1)]

/-- Source: `wstg.catalog.WSTGTestCase` -/
structure WSTGTestCase where
  wstgId : String
  version : String
  category : String
  categoryName : String
  sequence : ℤ
  title : String
  sourceUrl : String
  safetyTier : WSTGSafetyTier
  authRequirement : WSTGAuthRequirement
  adapterFamily : WSTGAdapterFamily
  evidenceRequired : List String

/-- Source: `wstg.catalog._WSTG_VERSION_RE` -/
def isVersion (version : List Char) : Bool :=
  match version with
  | 'v' :: digits => !digits.isEmpty && digits.all isDigit
  | _ => false

/-- Source: `wstg.catalog.WSTGTestCase.__post_init__` -/
def WSTGTestCase.postInit (c : WSTGTestCase) : Except Exc Unit := do
  guardE (isWstgId c.wstgId.toList)
    (catalogError "wstg_id must be version-qualified, for example WSTG-v42-INFO-02")
  guardE (isVersion c.version.toList)
    (catalogError "version must be a compact WSTG version such as v42")
  guardE (decide (c.version.toList <:+: c.wstgId.toList))
    (catalogError "test case version must appear in the WSTG identifier")
  guardE (decide (c.category ∈ categoryNames.map Prod.fst))
    (catalogError ("unknown WSTG category: " ++ c.category))
  guardE (decide (categoryNames.lookup c.category = some c.categoryName))
    (catalogError "category_name must match the canonical category map")
  guardE (decide (1 ≤ c.sequence)) (catalogError "sequence must be positive")
  guardE (strip c.title != "") (catalogError "WSTG title is required")
  guardE (decide ("/www-project-web-security-testing-guide/v42/".toList <:+: c.sourceUrl.toList))
    (catalogError "source_url must reference the OWASP WSTG v4.2 guide")
  guardE (!c.evidenceRequired.isEmpty) (catalogError "evidence_required must not be empty")

/-- A case its constructor accepts. -/
abbrev AcceptedCase := { c : WSTGTestCase // c.postInit = .ok () }

/-- `(categories.index(self.category), self.sequence)`.
Source: `wstg.catalog.WSTGTestCase.sort_key` -/
def sortKey (c : AcceptedCase) : ℕ ×ₗ ℤ :=
  toLex ((expectedCategoryCounts.map Prod.fst).idxOf c.val.category, c.val.sequence)

/-- `sorted(cases, key=lambda item: item.sort_key)`. -/
def orderedCases (cases : List AcceptedCase) : List AcceptedCase :=
  cases.insertionSort fun a b => sortKey a ≤ sortKey b

/-- As many cases of a category as are expected. -/
def countsMatch (cases : List AcceptedCase) : Bool :=
  expectedCategoryCounts.all fun e => (cases.countP fun c => c.val.category == e.1) == e.2

/-- The cases of a catalog.
Source: `wstg.catalog.WSTGCatalog` -/
structure WSTGCatalog where
  cases : List AcceptedCase
  ordered : cases.Pairwise fun a b => sortKey a ≤ sortKey b
  ne_nil : cases ≠ []
  unique : (cases.map fun c => c.val.wstgId).Nodup
  complete : countsMatch cases = true

theorem orderedCases_pairwise (cases : List AcceptedCase) :
    (orderedCases cases).Pairwise fun a b => sortKey a ≤ sortKey b :=
  have : Std.Total fun a b : AcceptedCase => sortKey a ≤ sortKey b :=
    ⟨fun a b => le_total (sortKey a) (sortKey b)⟩
  have : IsTrans AcceptedCase fun a b => sortKey a ≤ sortKey b :=
    ⟨fun _ _ _ hab hbc => le_trans hab hbc⟩
  List.pairwise_insertionSort _ _

/-- The first identifier that occurs twice.
Source: `wstg.catalog.WSTGCatalog.__init__`, `seen` -/
def firstDuplicate (seen : List String) : List AcceptedCase → Option String
  | [] => none
  | c :: cs => if c.val.wstgId ∈ seen then some c.val.wstgId else firstDuplicate (c.val.wstgId :: seen) cs

/-- `f"{counts!r}"`. -/
def countsText (cases : List AcceptedCase) : String :=
  "\x7b" ++ String.intercalate ", " (expectedCategoryCounts.map fun e =>
    "'" ++ e.1 ++ "': " ++ Nat.repr (cases.countP fun c => c.val.category == e.1)) ++ "\x7d"

/-- Source: `wstg.catalog.WSTGCatalog.__init__` -/
def WSTGCatalog.init (cases : List AcceptedCase) : Except Exc WSTGCatalog :=
  if h : orderedCases cases ≠ [] then
    if h' : ((orderedCases cases).map fun c => c.val.wstgId).Nodup then
      if h'' : countsMatch (orderedCases cases) = true then
        .ok ⟨orderedCases cases, orderedCases_pairwise cases, h, h', h''⟩
      else .error (catalogError
        ("incomplete WSTG v4.2 catalog: " ++ countsText (orderedCases cases)))
    else .error (catalogError
      ("duplicate WSTG identifier: " ++ (firstDuplicate [] (orderedCases cases)).getD ""))
  else .error (catalogError "at least one WSTG test case is required")

/-- **Every catalog is what its constructor makes of its cases.** -/
theorem WSTGCatalog.init_cases (catalog : WSTGCatalog) :
    WSTGCatalog.init catalog.cases = .ok catalog := by
  obtain ⟨cases, hordered, hne, hunique, hcomplete⟩ := catalog
  have hsorted : orderedCases cases = cases := hordered.insertionSort_eq
  unfold init
  simp only [hsorted]
  rw [dif_pos hne, dif_pos hunique, dif_pos hcomplete]

end Aotp.Wstg
