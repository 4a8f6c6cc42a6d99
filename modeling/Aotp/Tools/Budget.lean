import Aotp.Lib.Counters
import Aotp.Lib.Text

/-!
# The request budget of governed native tools

* `ToolRiskTier`, `requiresHumanApproval` — the risk tiers and which of them need an approval.
* `RequestBudget` — the limits and the three counters; `check`, `consume` — the budget decision,
  and the counters moved by it.
* `Balanced` — the invariant of the counters: the total is the sum over the tools and the sum over
  the tiers, and no counter is past its limit.
-/

namespace Aotp.Tools

open PyData

/-- Source: `tool_risk_tiers.ToolRiskTier` -/
inductive ToolRiskTier where
  | passiveMetadata
  | passiveBrowser
  | passiveScanner
  | serviceFingerprint
  | authenticatedSafe
  | intrusiveValidation
  | exploitationValidation
  deriving DecidableEq, Repr

/-- Source: `tool_risk_tiers.ToolRiskTier`, the values -/
def ToolRiskTier.value : ToolRiskTier → String
  | passiveMetadata => "passive_metadata"
  | passiveBrowser => "passive_browser"
  | passiveScanner => "passive_scanner"
  | serviceFingerprint => "service_fingerprint"
  | authenticatedSafe => "authenticated_safe"
  | intrusiveValidation => "intrusive_validation"
  | exploitationValidation => "exploitation_validation"

/-- Source: `tool_risk_tiers.RISK_TIER_DEFINITIONS`, `requires_human_approval` -/
def ToolRiskTier.requiresHumanApproval : ToolRiskTier → Bool
  | passiveMetadata | passiveBrowser | passiveScanner => false
  | serviceFingerprint | authenticatedSafe | intrusiveValidation | exploitationValidation => true

/-- A budget decision is its reasons: it allows when there is none.
Source: `request_budget.BudgetDecision` -/
structure BudgetDecision where
  reasons : List String
  deriving DecidableEq, Repr

/-- Source: `request_budget.BudgetDecision.allowed` -/
def BudgetDecision.allowed (d : BudgetDecision) : Bool := d.reasons.isEmpty

/-- The limits of a budget and its counters. Limits are natural numbers: `__post_init__` refuses
every other one.
Source: `request_budget.RequestBudget` -/
structure RequestBudget where
  maxRequests : ℕ
  perToolLimits : List (String × ℕ) := []
  perRiskTierLimits : List (ToolRiskTier × ℕ) := []
  usedRequests : ℕ := 0
  usedByTool : Counters String := []
  usedByRiskTier : Counters ToolRiskTier := []
  deriving DecidableEq, Repr

namespace RequestBudget

/-- Whether a limit, where there is one, is exceeded. -/
def exceeds (limit : Option ℕ) (used : ℕ) : Bool := limit.any (· < used)

/-- Source: `request_budget.RequestBudget.check`, for a request count that is a natural number -/
def check (b : RequestBudget) (toolName : String) (tier : ToolRiskTier) (requestCount : ℕ) :
    BudgetDecision where
  reasons :=
    (if b.maxRequests < b.usedRequests + requestCount then ["campaign request budget exceeded"]
      else []) ++
    (if exceeds (b.perToolLimits.lookup toolName) (b.usedByTool.count toolName + requestCount) then
      ["tool request budget exceeded"] else []) ++
    (if exceeds (b.perRiskTierLimits.lookup tier) (b.usedByRiskTier.count tier + requestCount) then
      ["risk-tier request budget exceeded"] else [])

/-- The budget with all three counters moved. -/
def spend (b : RequestBudget) (toolName : String) (tier : ToolRiskTier) (requestCount : ℕ) :
    RequestBudget :=
  { b with
    usedRequests := b.usedRequests + requestCount
    usedByTool := b.usedByTool.bump toolName requestCount
    usedByRiskTier := b.usedByRiskTier.bump tier requestCount }

/-- Source: `request_budget.RequestBudget.consume` -/
def consume (b : RequestBudget) (toolName : String) (tier : ToolRiskTier) (requestCount : ℕ) :
    BudgetDecision × RequestBudget :=
  let decision := b.check toolName tier requestCount
  if decision.allowed then (decision, b.spend toolName tier requestCount) else (decision, b)

/-- The counters agree with each other and respect every limit. -/
structure Balanced (b : RequestBudget) : Prop where
  byTool : b.usedRequests = b.usedByTool.total
  byTier : b.usedRequests = b.usedByRiskTier.total
  within : b.usedRequests ≤ b.maxRequests
  toolWithin : b.usedByTool.Within b.perToolLimits
  tierWithin : b.usedByRiskTier.Within b.perRiskTierLimits

/-- A budget nothing was taken from.
Source: `request_budget.RequestBudget`, the defaults of the counters -/
structure Fresh (b : RequestBudget) : Prop where
  used : b.usedRequests = 0
  tools : b.usedByTool = []
  tiers : b.usedByRiskTier = []

variable {b : RequestBudget} {toolName : String} {tier : ToolRiskTier} {n : ℕ}

theorem Fresh.balanced (h : b.Fresh) : b.Balanced where
  byTool := by rw [h.used, h.tools]; rfl
  byTier := by rw [h.used, h.tiers]; rfl
  within := by rw [h.used]; exact Nat.zero_le _
  toolWithin := by rw [h.tools]; exact Counters.within_nil _
  tierWithin := by rw [h.tiers]; exact Counters.within_nil _

theorem exceeds_eq_false {limit : Option ℕ} {used : ℕ} :
    exceeds limit used = false ↔ ∀ l, limit = some l → used ≤ l := by
  cases limit with
  | none => simp [exceeds]
  | some l => simp [exceeds]

/-- An allowed request fits into the total and into the limits of its tool and its tier. -/
theorem check_allowed_iff : (b.check toolName tier n).allowed = true ↔
    b.usedRequests + n ≤ b.maxRequests ∧
    (∀ limit, b.perToolLimits.lookup toolName = some limit →
      b.usedByTool.count toolName + n ≤ limit) ∧
    (∀ limit, b.perRiskTierLimits.lookup tier = some limit →
      b.usedByRiskTier.count tier + n ≤ limit) := by
  rw [← exceeds_eq_false, ← exceeds_eq_false]
  unfold check BudgetDecision.allowed
  simp only [List.isEmpty_iff, List.append_eq_nil_iff, ite_eq_right_iff, List.cons_ne_nil, imp_false,
    not_lt, Bool.not_eq_true, and_assoc]

theorem consume_of_allowed (h : (b.check toolName tier n).allowed = true) :
    b.consume toolName tier n = (b.check toolName tier n, b.spend toolName tier n) := by
  unfold consume
  rw [if_pos h]

/-- Spending an allowed request keeps the counters balanced. -/
theorem Balanced.spend (hb : b.Balanced) (h : (b.check toolName tier n).allowed = true) :
    (b.spend toolName tier n).Balanced := by
  obtain ⟨hmax, htool, htier⟩ := check_allowed_iff.1 h
  refine ⟨?_, ?_, hmax, hb.toolWithin.bump htool, hb.tierWithin.bump htier⟩
  · have hsum := Counters.total_bump b.usedByTool toolName n
    have hused := hb.byTool
    show b.usedRequests + n = (b.usedByTool.bump toolName n).total
    omega
  · have hsum := Counters.total_bump b.usedByRiskTier tier n
    have hused := hb.byTier
    show b.usedRequests + n = (b.usedByRiskTier.bump tier n).total
    omega

end RequestBudget

end Aotp.Tools
