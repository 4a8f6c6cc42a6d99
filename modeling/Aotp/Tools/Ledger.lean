import Aotp.Tools.Dispatch

/-!
# The ledger of tool requests over a sequence of calls

* `Invocation` — one call with everything it is given; `trials` — a sequence of calls on one
  budget, each with the budget it found.
* `startedCost` — the resolved cost of the calls whose executor was started.
* `Ledger` — the invariant of the sequence; `Ledger.trial` — one call keeps it.
* `ledger_holds` — the counters after any sequence of calls from a fresh budget.
-/

namespace Aotp.Tools

open PyData

/-- One call of `execute`, with all it is given but the budget. -/
structure Invocation where
  registry : NativeToolRegistry
  call : NativeToolCall
  roe : RulesOfEngagement
  workspace : Option Draw

/-- The request cost the tool of a call resolves for its arguments. -/
def Invocation.cost (i : Invocation) : ℕ :=
  match i.registry.find i.call.toolName with
  | none => 0
  | some spec => (spec.costFor i.call.arguments).toOption.getD 0

/-- A finished call, with the budget it found. -/
structure Trial where
  invocation : Invocation
  before : RequestBudget
  run : Run

section ledger

variable (rt : Runtime) (urls : Urls)

/-- One call on a budget. -/
def Invocation.trial (i : Invocation) (budget : RequestBudget) : Trial :=
  ⟨i, budget, execute rt urls i.registry i.call i.roe budget i.workspace⟩

/-- The calls of a sequence, one after the other on one budget. -/
def trials : RequestBudget → List Invocation → List Trial
  | _, [] => []
  | budget, i :: rest => i.trial rt urls budget :: trials (i.trial rt urls budget).run.budget rest

/-- The budget after a sequence of calls. -/
def budgetAfter (budget : RequestBudget) (calls : List Invocation) : RequestBudget :=
  calls.foldl (fun b i => (i.trial rt urls b).run.budget) budget

/-- The total cost of the calls whose executor was started. -/
def startedCost (ts : List Trial) : ℕ :=
  ((ts.filter (·.run.started)).map (·.invocation.cost)).sum

variable {rt urls}

/-- A budget that came out of another by calls of the given total cost: same limits, balanced
counters, and the cost added. -/
structure Ledger (start budget : RequestBudget) (cost : ℕ) : Prop where
  balanced : budget.Balanced
  used : budget.usedRequests = start.usedRequests + cost
  maxRequests : budget.maxRequests = start.maxRequests
  perTool : budget.perToolLimits = start.perToolLimits
  perTier : budget.perRiskTierLimits = start.perRiskTierLimits

theorem Ledger.start {budget : RequestBudget} (h : budget.Balanced) : Ledger budget budget 0 :=
  ⟨h, rfl, rfl, rfl, rfl⟩

/-- What one call does to the budget: nothing when its executor is not started, its cost when it
is, and that cost was allowed. -/
theorem trial_cases (i : Invocation) (budget : RequestBudget) :
    ((i.trial rt urls budget).run.started = false ∧
      (i.trial rt urls budget).run.budget = budget) ∨
    ∃ toolName tier, (budget.check toolName tier i.cost).allowed = true ∧
      (i.trial rt urls budget).run.started = true ∧
      (i.trial rt urls budget).run.budget = budget.spend toolName tier i.cost := by
  rcases @execute_cases rt urls i.registry i.call i.roe budget i.workspace with
    hidle | ⟨spec, n, hfind, hcost, hcheck, hstarted, hbudget⟩
  · exact Or.inl hidle
  · have hn : i.cost = n := by
      unfold Invocation.cost
      rw [hfind]
      simp [hcost, Except.toOption]
    subst hn
    exact Or.inr ⟨spec.name, spec.riskTier, hcheck, hstarted, hbudget⟩

/-- One call keeps the ledger. -/
theorem Ledger.trial {start budget : RequestBudget} {cost : ℕ} (h : Ledger start budget cost)
    (i : Invocation) :
    Ledger start (i.trial rt urls budget).run.budget
      (cost + startedCost [i.trial rt urls budget]) := by
  rcases @trial_cases rt urls i budget with ⟨hidle, hbudget⟩ | ⟨name, tier, hcheck, hstart, hbudget⟩
  · have hzero : startedCost [i.trial rt urls budget] = 0 := by simp [startedCost, hidle]
    rw [hbudget, hzero]
    exact h
  · have hcost : startedCost [i.trial rt urls budget] = i.cost := by
      have hinv : (i.trial rt urls budget).invocation = i := rfl
      simp [startedCost, hstart, hinv]
    rw [hbudget, hcost]
    refine ⟨h.balanced.spend hcheck, ?_, h.maxRequests, h.perTool, h.perTier⟩
    have hused := h.used
    show budget.usedRequests + i.cost = _
    omega

theorem startedCost_cons (t : Trial) (ts : List Trial) :
    startedCost (t :: ts) = startedCost [t] + startedCost ts := by
  unfold startedCost
  cases h : t.run.started <;> simp [h]

/-- A sequence of calls keeps the ledger. -/
theorem Ledger.trials {start : RequestBudget} (calls : List Invocation) :
    ∀ {budget : RequestBudget} {cost : ℕ}, Ledger start budget cost →
      Ledger start (budgetAfter rt urls budget calls)
        (cost + startedCost (trials rt urls budget calls)) := by
  induction calls with
  | nil =>
    intro budget cost h
    simpa [Aotp.Tools.trials, budgetAfter, startedCost] using h
  | cons i rest ih =>
    intro budget cost h
    have hstep : Ledger start (i.trial rt urls budget).run.budget
        (cost + startedCost [i.trial rt urls budget]) := h.trial i
    have hrest := ih hstep
    have hsplit : startedCost (Aotp.Tools.trials rt urls budget (i :: rest)) =
        startedCost [i.trial rt urls budget] +
          startedCost (Aotp.Tools.trials rt urls (i.trial rt urls budget).run.budget rest) :=
      startedCost_cons _ _
    rw [hsplit, ← Nat.add_assoc]
    exact hrest

/-- In a sequence of calls, one that does not start its executor leaves the budget as it found
it. -/
theorem trials_unchanged (calls : List Invocation) :
    ∀ budget, ∀ t ∈ trials rt urls budget calls, t.run.started = false →
      t.run.budget = t.before := by
  induction calls with
  | nil =>
    intro budget t ht
    cases ht
  | cons i rest ih =>
    intro budget t ht hidle
    rcases List.mem_cons.1 ht with rfl | ht
    · rcases @trial_cases rt urls i budget with ⟨-, hbudget⟩ | ⟨-, -, -, hstart, -⟩
      · exact hbudget
      · rw [hstart] at hidle
        cases hidle
    · exact ih _ t ht hidle

end ledger

variable {rt : Runtime} {urls : Urls}

/-- After any sequence of calls from a fresh budget the total is the sum over the tools, the sum
over the tiers and the cost of exactly the calls that started their executor; it is at most
`max_requests`, every tool and every tier is within its limit, and every call that did not start
its executor left the budget as it found it. -/
theorem ledger_holds {budget : RequestBudget} (hfresh : budget.Fresh) (calls : List Invocation) :
    (budgetAfter rt urls budget calls).usedRequests =
        (budgetAfter rt urls budget calls).usedByTool.total ∧
      (budgetAfter rt urls budget calls).usedRequests =
        (budgetAfter rt urls budget calls).usedByRiskTier.total ∧
      (budgetAfter rt urls budget calls).usedRequests =
        startedCost (trials rt urls budget calls) ∧
      (budgetAfter rt urls budget calls).usedRequests ≤ budget.maxRequests ∧
      (∀ tool limit, budget.perToolLimits.lookup tool = some limit →
        (budgetAfter rt urls budget calls).usedByTool.count tool ≤ limit) ∧
      (∀ tier limit, budget.perRiskTierLimits.lookup tier = some limit →
        (budgetAfter rt urls budget calls).usedByRiskTier.count tier ≤ limit) ∧
      ∀ t ∈ trials rt urls budget calls, t.run.started = false → t.run.budget = t.before := by
  have h : Ledger budget (budgetAfter rt urls budget calls)
      (0 + startedCost (trials rt urls budget calls)) :=
    (Ledger.start hfresh.balanced).trials calls
  refine ⟨h.balanced.byTool, h.balanced.byTier, ?_, ?_, ?_, ?_, trials_unchanged calls budget⟩
  · rw [h.used, hfresh.used, Nat.zero_add, Nat.zero_add]
  · rw [← h.maxRequests]
    exact h.balanced.within
  · rw [← h.perTool]
    exact h.balanced.toolWithin
  · rw [← h.perTier]
    exact h.balanced.tierWithin

/-! ### A run -/

/-- The library functions on texts that need none of their rarer cases: lower case is ASCII. -/
def sampleRuntime : Runtime where
  lower := fun s => String.ofList (s.toList.map Char.toLower)
  floatRepr := fun _ => "0.0"
  containerRepr := fun _ => "{}"
  isWordChar := fun _ => false
  fromIsoFormat := fun _ => .invalid
  dateFromIsoFormat := fun _ => none
  intOfText := fun _ => none
  sha256 := fun _ => String.ofList (List.replicate 64 '0')
  sha256_hex := fun _ => zeroDigest_hex

/-- `urlsplit` on texts without a scheme. -/
def sampleUrls : Urls where
  urlsplit := fun _ => .ok { scheme := "" }

/-- Two tools of one tier, the second of which raises. -/
def sampleRegistry : NativeToolRegistry :=
  [{ name := "http_metadata", riskTier := .passiveMetadata, arguments := [], requestCost := .fixed 1,
     evidenceClassification := "public", executor := some fun _ => .ok (.json (.obj [])) },
   { name := "well_known_text", riskTier := .passiveMetadata, arguments := [],
     requestCost := .computed fun _ => .ok (.int 2), evidenceClassification := "public",
     executor := some fun _ => .error .osError }]

def sampleRoe : RulesOfEngagement where
  campaignId := "campaign-1"
  targetAlias := "target-1"
  allowedToolNames := ["http_metadata", "well_known_text"]
  allowedRiskTiers := [.passiveMetadata]
  allowedHosts := ["example.com"]

def sampleCall (toolName : String) : NativeToolCall where
  campaignId := "campaign-1"
  targetAlias := "target-1"
  toolName := toolName
  arguments := .obj []

/-- Four calls on a budget of four requests: the third finds too little left, the fourth names no
registered tool. -/
def sampleCalls : List Invocation :=
  ["http_metadata", "well_known_text", "well_known_text", "shell"].map fun name =>
    ⟨sampleRegistry, sampleCall name, sampleRoe, none⟩

example : (budgetAfter sampleRuntime sampleUrls { maxRequests := 4 } sampleCalls).usedByTool =
    [("http_metadata", 1), ("well_known_text", 2)] := by decide

theorem ledger_holds_sample :
    (budgetAfter sampleRuntime sampleUrls { maxRequests := 4 } sampleCalls).usedRequests = 3 ∧
      (budgetAfter sampleRuntime sampleUrls { maxRequests := 4 } sampleCalls).usedRequests ≤ 4 :=
  ⟨by decide, (ledger_holds ⟨rfl, rfl, rfl⟩ sampleCalls).2.2.2.1⟩

end Aotp.Tools
