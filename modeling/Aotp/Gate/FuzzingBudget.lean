import Aotp.Gate.Tightening
import Aotp.Lib.Counters

/-!
# The request budget of bounded fuzzing

* `FuzzingRequestBudget.postInit`, `FuzzingRequestBudget.reserve` — the limits, and the reservation
  of requests for one endpoint.
* `Kept` — the total is the sum over the endpoints, and both stay within their limits.
* `Kept.reserve`, `Kept.reserveAll` — a reservation keeps this; **so does every sequence of them**.
* `reserveAll_succeeds` — reservations for different endpoints succeed where their sum and each of them
  is within its limit.
* `fuzzingBudget_holds` — **both, and an objective without boundary errors can reserve its endpoint
  budgets in any order**.
-/

namespace Aotp.Gate

open PyData

/-! ### The budget -/

/-- Source: `bounded_fuzzing.FuzzingRequestBudget` -/
structure FuzzingRequestBudget where
  totalLimit : ℕ
  perEndpointLimit : ℕ
  totalRequests : ℕ := 0
  endpointRequests : Counters String := []

namespace FuzzingRequestBudget

/-- A fresh budget with these limits.
Source: `bounded_fuzzing.FuzzingRequestBudget.__post_init__` -/
def postInit (totalLimit perEndpointLimit : Json) : Except Exc FuzzingRequestBudget := do
  let some total := positiveInt? totalLimit
    | throw (.valueError "fuzzing total request limit must be positive")
  let some perEndpoint := positiveInt? perEndpointLimit
    | throw (.valueError "fuzzing per-endpoint request limit must be positive")
  guardE (decide (perEndpoint ≤ total))
    (.valueError "fuzzing per-endpoint limit cannot exceed total limit")
  pure { totalLimit := total.toNat, perEndpointLimit := perEndpoint.toNat }

/-- The checks of a reservation, and the endpoint and the count that pass them.
Source: `bounded_fuzzing.FuzzingRequestBudget.reserve`, before its assignments -/
def checkReserve (b : FuzzingRequestBudget) (endpointAlias count : Json) :
    Except Exc (String × ℕ) := do
  let some endpoint := endpointAlias.text? | throw .attributeError
  guardE (strip endpoint != "") (.valueError "fuzzing endpoint alias is missing")
  let some requests := positiveInt? count
    | throw (.valueError "fuzzing request count must be positive")
  guardE (decide (b.endpointRequests.count endpoint + requests.toNat ≤ b.perEndpointLimit))
    (.valueError "fuzzing per-endpoint request limit exceeded")
  guardE (decide (b.totalRequests + requests.toNat ≤ b.totalLimit))
    (.valueError "fuzzing total request limit exceeded")
  pure (endpoint, requests.toNat)

/-- Source: `bounded_fuzzing.FuzzingRequestBudget.reserve`, its assignments -/
def take (b : FuzzingRequestBudget) (endpoint : String) (requests : ℕ) : FuzzingRequestBudget :=
  { b with
    endpointRequests := b.endpointRequests.bump endpoint requests
    totalRequests := b.totalRequests + requests }

/-- What a reservation answers, and the budget after it.
Source: `bounded_fuzzing.FuzzingRequestBudget.reserve` -/
def reserve (b : FuzzingRequestBudget) (endpointAlias count : Json) :
    Except Exc Unit × FuzzingRequestBudget :=
  match b.checkReserve endpointAlias count with
  | .error e => (.error e, b)
  | .ok (endpoint, requests) => (.ok (), b.take endpoint requests)

/-- The budget after several reservations, each of which may fail. -/
def reserveAll (b : FuzzingRequestBudget) (calls : List (Json × Json)) : FuzzingRequestBudget :=
  calls.foldl (fun b call => (b.reserve call.1 call.2).2) b

/-- What the reservations answer, in order. -/
def answers : FuzzingRequestBudget → List (Json × Json) → List (Except Exc Unit)
  | _, [] => []
  | b, call :: rest => (b.reserve call.1 call.2).1 :: answers (b.reserve call.1 call.2).2 rest

/-- The total is the sum over the endpoints, and both are within their limits. -/
structure Kept (b : FuzzingRequestBudget) : Prop where
  sum : b.totalRequests = b.endpointRequests.total
  total : b.totalRequests ≤ b.totalLimit
  endpoints : ∀ endpoint, b.endpointRequests.count endpoint ≤ b.perEndpointLimit

variable {b : FuzzingRequestBudget} {endpointAlias count : Json}

/-! ### Reservations -/

/-- **What a reservation does**: it fails and changes nothing, or it takes requests that fit. -/
theorem reserve_cases (b : FuzzingRequestBudget) (endpointAlias count : Json) :
    (∃ e, b.reserve endpointAlias count = (.error e, b)) ∨
    ∃ endpoint requests, b.reserve endpointAlias count = (.ok (), b.take endpoint requests) ∧
      b.endpointRequests.count endpoint + requests ≤ b.perEndpointLimit ∧
      b.totalRequests + requests ≤ b.totalLimit := by
  unfold reserve
  cases hcheck : b.checkReserve endpointAlias count with
  | error e => exact .inl ⟨e, rfl⟩
  | ok taken =>
    obtain ⟨endpoint, requests⟩ := taken
    refine .inr ⟨endpoint, requests, rfl, ?_⟩
    unfold checkReserve at hcheck
    cases htext : endpointAlias.text? with
    | none =>
      rw [htext] at hcheck
      cases hcheck
    | some s =>
      rw [htext] at hcheck
      obtain ⟨⟨⟩, -, hcheck⟩ := bind_eq_ok.mp hcheck
      cases hcount : positiveInt? count with
      | none =>
        rw [hcount] at hcheck
        cases hcheck
      | some n =>
        rw [hcount] at hcheck
        simp only [bind_eq_ok, guardE_eq_ok, decide_eq_true_eq] at hcheck
        obtain ⟨⟨⟩, hendpoint, ⟨⟩, htotal, htaken⟩ := hcheck
        cases htaken
        exact ⟨hendpoint, htotal⟩

theorem Kept.take {endpoint : String} {requests : ℕ} (h : b.Kept)
    (hendpoint : b.endpointRequests.count endpoint + requests ≤ b.perEndpointLimit)
    (htotal : b.totalRequests + requests ≤ b.totalLimit) : (b.take endpoint requests).Kept := by
  refine ⟨?_, htotal, ?_⟩
  · have hsum := Counters.total_bump b.endpointRequests endpoint requests
    have hused := h.sum
    show b.totalRequests + requests = (b.endpointRequests.bump endpoint requests).total
    omega
  · intro other
    show (b.endpointRequests.bump endpoint requests).count other ≤ b.perEndpointLimit
    rw [Counters.count_bump]
    split_ifs with hother
    · exact hendpoint
    · exact h.endpoints other

/-- A reservation keeps the budget. -/
theorem Kept.reserve (h : b.Kept) (endpointAlias count : Json) :
    (b.reserve endpointAlias count).2.Kept := by
  rcases reserve_cases b endpointAlias count with
    ⟨e, heq⟩ | ⟨endpoint, requests, heq, hendpoint, htotal⟩
  · rw [heq]
    exact h
  · rw [heq]
    exact h.take hendpoint htotal

/-- It leaves the limits alone. -/
theorem reserve_limits (b : FuzzingRequestBudget) (endpointAlias count : Json) :
    (b.reserve endpointAlias count).2.totalLimit = b.totalLimit ∧
      (b.reserve endpointAlias count).2.perEndpointLimit = b.perEndpointLimit := by
  rcases reserve_cases b endpointAlias count with ⟨e, heq⟩ | ⟨endpoint, requests, heq, -, -⟩
  · rw [heq]
    exact ⟨rfl, rfl⟩
  · rw [heq]
    exact ⟨rfl, rfl⟩

/-- A reservation that fails changes nothing. -/
theorem reserve_failed {e : Exc} (h : (b.reserve endpointAlias count).1 = .error e) :
    (b.reserve endpointAlias count).2 = b := by
  rcases reserve_cases b endpointAlias count with ⟨e', heq⟩ | ⟨endpoint, requests, heq, -, -⟩
  · rw [heq]
  · rw [heq] at h
    cases h

/-- **So does every sequence of reservations.** The induction is on the calls. -/
theorem Kept.reserveAll (h : b.Kept) (calls : List (Json × Json)) : (b.reserveAll calls).Kept := by
  induction calls generalizing b with
  | nil => exact h
  | cons call rest ih => exact ih (h.reserve call.1 call.2)

theorem reserveAll_limits (b : FuzzingRequestBudget) (calls : List (Json × Json)) :
    (b.reserveAll calls).totalLimit = b.totalLimit ∧
      (b.reserveAll calls).perEndpointLimit = b.perEndpointLimit := by
  induction calls generalizing b with
  | nil => exact ⟨rfl, rfl⟩
  | cons call rest ih =>
    obtain ⟨htotal, hendpoint⟩ := reserve_limits b call.1 call.2
    obtain ⟨htotal', hendpoint'⟩ := ih (b.reserve call.1 call.2).2
    exact ⟨htotal'.trans htotal, hendpoint'.trans hendpoint⟩

/-! ### Fresh budgets -/

theorem positiveInt?_eq_some {x : Json} {n : ℤ} :
    positiveInt? x = some n ↔ x = .int n ∧ 0 < n := by
  constructor
  · intro h
    cases x with
    | int k =>
      simp only [positiveInt?] at h
      split_ifs at h with hpos
      cases h
      exact ⟨rfl, hpos⟩
    | _ => cases h
  · rintro ⟨rfl, hpos⟩
    exact if_pos hpos

/-- **What a constructor accepts**: positive limits, the second no larger than the first. -/
theorem postInit_eq_ok {totalLimit perEndpointLimit : Json}
    (h : postInit totalLimit perEndpointLimit = .ok b) :
    ∃ total perEndpoint : ℕ, totalLimit = .int total ∧ perEndpointLimit = .int perEndpoint ∧
      b = { totalLimit := total, perEndpointLimit := perEndpoint } := by
  unfold postInit at h
  cases htotal : positiveInt? totalLimit with
  | none =>
    rw [htotal] at h
    cases h
  | some total =>
    rw [htotal] at h
    cases hendpoint : positiveInt? perEndpointLimit with
    | none =>
      rw [hendpoint] at h
      cases h
    | some perEndpoint =>
      rw [hendpoint] at h
      simp only [bind_eq_ok, guardE_eq_ok] at h
      obtain ⟨⟨⟩, -, hbudget⟩ := h
      cases hbudget
      obtain ⟨rfl, hpos⟩ := positiveInt?_eq_some.mp htotal
      obtain ⟨rfl, hpos'⟩ := positiveInt?_eq_some.mp hendpoint
      refine ⟨total.toNat, perEndpoint.toNat, ?_, ?_, rfl⟩
      · rw [Int.toNat_of_nonneg hpos.le]
      · rw [Int.toNat_of_nonneg hpos'.le]

theorem kept_fresh (totalLimit perEndpointLimit : ℕ) :
    Kept { totalLimit := totalLimit, perEndpointLimit := perEndpointLimit } :=
  ⟨rfl, Nat.zero_le _, fun _ => Nat.zero_le _⟩

/-! ### The budgets of an objective -/

/-- The endpoint budgets of an objective, as reservations. -/
def reservationsOf (budgets : Dict) : List (Json × Json) := budgets.map fun e => (.str e.1, e.2)

/-- A reservation that fits succeeds. -/
theorem reserve_fits {e : String × Json} {n : ℤ} (hname : strip e.1 ≠ "")
    (hcount : positiveInt? e.2 = some n)
    (hendpoint : b.endpointRequests.count e.1 + n.toNat ≤ b.perEndpointLimit)
    (htotal : b.totalRequests + n.toNat ≤ b.totalLimit) :
    b.reserve (.str e.1) e.2 = (.ok (), b.take e.1 n.toNat) := by
  have hcheck : b.checkReserve (.str e.1) e.2 = .ok (e.1, n.toNat) := by
    unfold checkReserve
    rw [hcount]
    simp only [Json.text?, bind_eq_ok, guardE_eq_ok, bne_iff_ne, decide_eq_true_eq]
    exact ⟨(), hname, (), hendpoint, (), htotal, rfl⟩
  unfold reserve
  rw [hcheck]

theorem plannedRequests_cons {e : String × Json} {n : ℤ} (h : positiveInt? e.2 = some n)
    (rest : Dict) : plannedRequests (e :: rest) = n + plannedRequests rest := by
  unfold plannedRequests
  simp only [List.filterMap_cons, h, List.sum_cons]

theorem plannedRequests_nonneg (budgets : Dict) : 0 ≤ plannedRequests budgets := by
  apply List.sum_nonneg
  intro n hn
  obtain ⟨e, -, he⟩ := List.mem_filterMap.mp hn
  exact (positiveInt?_eq_some.mp he).2.le

/-- **Reservations for different endpoints succeed**, where none of these has one yet, each count is
within its limit and their sum within what is left. The induction is on the endpoints. -/
theorem answers_fit {order : Dict} (hkeys : (dkeys order).Nodup)
    (hvalid : ∀ e ∈ order, endpointValid e = true)
    (hnew : ∀ e ∈ order, b.endpointRequests.count e.1 = 0)
    (hendpoint : ∀ e ∈ order, ∀ n, positiveInt? e.2 = some n → n ≤ b.perEndpointLimit)
    (htotal : b.totalRequests + plannedRequests order ≤ b.totalLimit) :
    ∀ answer ∈ b.answers (reservationsOf order), answer = .ok () := by
  induction order generalizing b with
  | nil => exact fun _ hnone => absurd hnone List.not_mem_nil
  | cons e rest ih =>
    rw [List.forall_mem_cons] at hvalid hnew hendpoint
    obtain ⟨hfirst, hrest⟩ := hvalid
    obtain ⟨hfresh, hothers⟩ := hnew
    obtain ⟨hlimit, hlimits⟩ := hendpoint
    simp only [dkeys, List.map_cons, List.nodup_cons] at hkeys
    simp only [endpointValid, Bool.and_eq_true, bne_iff_ne] at hfirst
    obtain ⟨n, hcount⟩ := Option.isSome_iff_exists.mp hfirst.2
    have hpos := (positiveInt?_eq_some.mp hcount).2
    have hplanned := plannedRequests_nonneg rest
    rw [plannedRequests_cons hcount] at htotal
    have hwithin := hlimit n hcount
    have hreserve : b.reserve (.str e.1) e.2 = (.ok (), b.take e.1 n.toNat) := by
      apply reserve_fits hfirst.1 hcount
      · omega
      · omega
    have htaken : ∀ e' ∈ rest, (b.take e.1 n.toNat).endpointRequests.count e'.1 = 0 := by
      intro e' he'
      have hne : e'.1 ≠ e.1 := fun heq => hkeys.1 (heq ▸ List.mem_map_of_mem he')
      show (b.endpointRequests.bump e.1 n.toNat).count e'.1 = 0
      rw [Counters.count_bump, if_neg hne]
      exact hothers e' he'
    have hleft : ((b.take e.1 n.toNat).totalRequests : ℤ) + plannedRequests rest ≤
        (b.take e.1 n.toNat).totalLimit := by
      show ((b.totalRequests + n.toNat : ℕ) : ℤ) + plannedRequests rest ≤ b.totalLimit
      omega
    show ∀ answer ∈ (b.reserve (.str e.1) e.2).1 ::
      (b.reserve (.str e.1) e.2).2.answers (reservationsOf rest), answer = .ok ()
    rw [hreserve, List.forall_mem_cons]
    exact ⟨rfl, ih hkeys.2 hrest htaken hlimits hleft⟩

/-- **What an objective without boundary errors declares**: endpoints with positive counts, each within
the limit of an endpoint and all together within that of the scope. -/
theorem endpoints_of_no_errors {objective scope : Dict} {total perEndpoint : ℤ}
    (h : fuzzingBoundaryErrors objective scope = .ok [])
    (htotal : dgetD scope "request_budget" (.int 0) = .int total)
    (hendpoint : dgetD scope "per_endpoint_limit" (.int 0) = .int perEndpoint) :
    (∀ e ∈ endpointBudgetsOf objective, endpointValid e = true) ∧
    (∀ e ∈ endpointBudgetsOf objective, ∀ n, positiveInt? e.2 = some n → n ≤ perEndpoint) ∧
    plannedRequests (endpointBudgetsOf objective) ≤ total := by
  simp only [fuzzingBoundaryErrors, bind_eq_ok] at h
  obtain ⟨inClasses, -, inCount, -, inEndpoints, hendpoints, inBytes, -, inRuntime, -, inRetries, -,
    inCorpus, -, hnone⟩ := h
  have hall := fromkeys_eq_nil.mp (Except.ok.inj hnone)
  simp only [List.append_eq_nil_iff] at hall
  obtain ⟨⟨⟨⟨⟨⟨-, rfl⟩, -⟩, -⟩, -⟩, -⟩, -⟩ := hall
  simp only [endpointErrors, htotal, hendpoint, exceededEndpoints_int, intGt_int, bind_eq_ok] at hendpoints
  obtain ⟨exceeded, hexceeded, overPlan, hoverPlan, hnil⟩ := hendpoints
  cases hexceeded
  cases hoverPlan
  have hparts := Except.ok.inj hnil
  simp only [List.append_eq_nil_iff, reasonIfAny_eq_nil, List.map_eq_nil_iff,
    List.filter_eq_nil_iff] at hparts
  obtain ⟨⟨⟨-, hvalid⟩, hexceeded⟩, hplan⟩ := hparts
  refine ⟨?_, ?_, ?_⟩
  · split_ifs at hvalid with hall
    exact List.all_eq_true.mp hall
  · intro e he n hcount
    have hnot := hexceeded e he
    rw [hcount, Option.any_some, decide_eq_true_eq] at hnot
    omega
  · split_ifs at hplan with hover
    rw [decide_eq_true_eq] at hover
    omega

/-- **The request budget of bounded fuzzing.** Over every sequence of reservations from a fresh budget
the total is the sum over the endpoints, both stay within their limits, and a reservation that fails
changes nothing; and the endpoint budgets of an objective without boundary errors, under names that
are different as those of any mapping, can be reserved in any order. -/
theorem fuzzingBudget_holds {totalLimit perEndpointLimit : Json}
    (hfresh : postInit totalLimit perEndpointLimit = .ok b) :
    (∀ calls, (b.reserveAll calls).Kept ∧ (b.reserveAll calls).totalLimit = b.totalLimit ∧
      (b.reserveAll calls).perEndpointLimit = b.perEndpointLimit ∧
      ∀ endpointAlias count e, ((b.reserveAll calls).reserve endpointAlias count).1 = .error e →
        ((b.reserveAll calls).reserve endpointAlias count).2 = b.reserveAll calls) ∧
    ∀ objective scope, fuzzingBoundaryErrors objective scope = .ok [] →
      dgetD scope "request_budget" (.int 0) = totalLimit →
      dgetD scope "per_endpoint_limit" (.int 0) = perEndpointLimit →
      (dkeys (endpointBudgetsOf objective)).Nodup →
      ∀ order, order.Perm (endpointBudgetsOf objective) →
        ∀ answer ∈ b.answers (reservationsOf order), answer = .ok () := by
  obtain ⟨total, perEndpoint, htotal, hendpoint, rfl⟩ := postInit_eq_ok hfresh
  constructor
  · intro calls
    obtain ⟨htotal, hendpoint⟩ := reserveAll_limits _ calls
    exact ⟨(kept_fresh total perEndpoint).reserveAll calls, htotal, hendpoint,
      fun _ _ _ => reserve_failed⟩
  · intro objective scope hnone htotal' hendpoint' hkeys order hperm
    obtain ⟨hvalid, hlimits, hplan⟩ := endpoints_of_no_errors hnone (htotal'.trans htotal)
      (hendpoint'.trans hendpoint)
    have hsame : plannedRequests order = plannedRequests (endpointBudgetsOf objective) :=
      (hperm.filterMap _).sum_eq
    have horder : (dkeys order).Nodup := (hperm.map Prod.fst).nodup_iff.mpr hkeys
    apply answers_fit horder
    · intro e he
      exact hvalid e (hperm.mem_iff.mp he)
    · intro e _
      rfl
    · intro e he n hcount
      exact hlimits e (hperm.mem_iff.mp he) n hcount
    · rw [hsame]
      show (0 : ℤ) + plannedRequests (endpointBudgetsOf objective) ≤ total
      omega

/-! ### An objective with two endpoints -/

def sampleScope : Dict :=
  [("safe_payload_classes", .arr [.str "boundary_value"]), ("payload_budget", .int 1),
    ("per_endpoint_limit", .int 2), ("request_budget", .int 3), ("max_response_bytes", .int 1),
    ("max_runtime_seconds", .int 1), ("max_retries", .int 0)]

def sampleObjective : Dict :=
  [("payload_classes", .arr [.str "boundary_value"]), ("payload_count", .int 1),
    ("endpoint_request_budgets", .obj [("login", .int 2), ("search", .int 1)]),
    ("max_response_bytes", .int 1), ("max_runtime_seconds", .int 1), ("max_retries", .int 0)]

theorem fuzzingBudget_holds_sample : ∃ b, postInit (.int 3) (.int 2) = .ok b ∧
    ∀ answer ∈ b.answers [(.str "search", .int 1), (.str "login", .int 2)], answer = .ok () := by
  have hfresh : postInit (.int 3) (.int 2) = .ok { totalLimit := 3, perEndpointLimit := 2 } := rfl
  refine ⟨_, hfresh, ?_⟩
  exact (fuzzingBudget_holds hfresh).2 sampleObjective sampleScope (by decide +kernel) rfl rfl
    (by decide) [("search", .int 1), ("login", .int 2)] (List.Perm.swap _ _ _)

end FuzzingRequestBudget

end Aotp.Gate
