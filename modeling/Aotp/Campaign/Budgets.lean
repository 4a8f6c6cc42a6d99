import Aotp.Campaign.Journal
import Aotp.Lib.Paths

/-!
# Budgets over a whole history

* `CampaignEvent.isResult`, `resultCount` — the results among some events.
* `Spent` — the invariant of a campaign's spending: one evidence directory an iteration, named by its
  number, and no more results than iterations; `Spent.moved` — every enabled move keeps it.
* `appends_committed` — the events a history has appended are those of its last checkpoint.
* `Carried` — the iterations of an invocation's budget, counted from its first state.
* `budgets_hold` — **budgets hold across resumes**.
-/

namespace Aotp.Campaign

open PyData Aotp.Gate Effects HashChain

/-! ### Results -/

/-- The event is a result. -/
def CampaignEvent.isResult (e : CampaignEvent) : Bool :=
  match e.eventType with
  | .str t => t == "objective_result"
  | _ => false

/-- The number of results among some events. -/
def resultCount (es : List CampaignEvent) : ℕ := es.countP CampaignEvent.isResult

theorem CampaignEvent.Records.isResult {e : CampaignEvent} {a : EventArgs} (h : e.Records a) :
    e.isResult = (a.eventType == "objective_result") := by
  unfold CampaignEvent.isResult
  rw [h.eventType]

theorem resultCount_append (es es' : List CampaignEvent) :
    resultCount (es ++ es') = resultCount es + resultCount es' := List.countP_append

theorem resultCount_records {es : List CampaignEvent} {as : List EventArgs}
    (h : List.Forall₂ CampaignEvent.Records es as) :
    resultCount es = as.countP (·.eventType == "objective_result") := by
  unfold resultCount
  induction h with
  | nil => rfl
  | cons hrecords _ ih => rw [List.countP_cons, List.countP_cons, ih, hrecords.isResult]

/-- A dispatch appends one result. -/
theorem countP_result (b : CampaignState) (r : Dispatched) :
    ((Move.result r).events b).countP (·.eventType == "objective_result") = 1 := by
  simp only [Move.events, resultEvents]
  rw [List.countP_cons]
  have hrest : (if humanGateOnly r.decision = true then [pauseArgs b r "pre_execution"]
      else if (!r.decision.allowed) = true then []
      else if r.outcome = .manualReview then [pauseArgs b r "post_execution"]
      else []).countP (·.eventType == "objective_result") = 0 := by
    rw [List.countP_eq_zero]
    intro a ha
    split_ifs at ha
    · rw [List.mem_singleton.mp ha]
      simp [pauseArgs]
    · cases ha
    · rw [List.mem_singleton.mp ha]
      simp [pauseArgs]
    · cases ha
  rw [hrest]
  simp [resultArgs]

/-- No other move appends one. -/
theorem countP_not_result {m : Move} (b : CampaignState) (h : ∀ r, m ≠ .result r) :
    (m.events b).countP (·.eventType == "objective_result") = 0 := by
  rw [List.countP_eq_zero]
  intro a ha htype
  obtain ⟨r, hr, -⟩ := Move.result_of_mem ha (by simpa using htype)
  exact h r hr

/-! ### What a campaign has spent -/

/-- The name of the evidence directory of the iteration after `i` others. -/
def iterationName (i : ℕ) : Option (List Char) := some (fmt04 ((i + 1 : ℕ) : ℤ)).toList

theorem iterationName_injective : Function.Injective iterationName := by
  intro i j h
  have htexts : fmt04 ((i + 1 : ℕ) : ℤ) = fmt04 ((j + 1 : ℕ) : ℤ) :=
    String.toList_injective (Option.some.inj h)
  have hsucc := fmt04_injective htexts
  omega

/-- **What a campaign has spent**: one evidence directory for each iteration that has begun, named
by its number, no more results than iterations, and no more than the limit. -/
structure Spent (site : Site) (limit : ℤ) (s : CampaignState) : Prop where
  iteration : s.nextIteration = s.evidenceDirectories.length + 1
  named : s.evidenceDirectories.map (nameUnder site.root) =
    (List.range s.evidenceDirectories.length).map iterationName
  results : resultCount s.events ≤ s.evidenceDirectories.length
  within : (resultCount s.events : ℤ) ≤ limit

variable {site : Site} {campaign : Dict} {sur : Surroundings} {c : Call} {g : Progress} {w : World}
  {p : CampaignDefinition} {objectives : List Dict} {b s : CampaignState} {m : Move}
  {args : RunArgs} {limit : ℤ} {tr tr₁ tr₂ : List Step}

theorem Spent.nodup (h : Spent site limit s) : s.evidenceDirectories.Nodup := by
  refine List.Nodup.of_map (nameUnder site.root) ?_
  rw [h.named]
  exact List.nodup_range.map iterationName_injective

/-- The evidence directory of an iteration is named by its number. -/
theorem EvidenceAt.name {evidence : String} (h : EvidenceAt site args b evidence) {n : ℕ}
    (hn : b.nextIteration = n) : nameUnder site.root evidence = some (fmt04 n).toList := by
  obtain ⟨base, -, hrelative⟩ := h
  have hplain := fmt04_plain n
  have hdir : evidenceDir base b =
      ⟨(base.join b.campaignId).absolute, (base.join b.campaignId).parts ++ [fmt04 n]⟩ := by
    unfold evidenceDir
    rw [hn, hplain.join]
  unfold relativeEvidence at hrelative
  cases hq : (evidenceDir base b).relativeTo site.root with
  | none =>
    rw [hq] at hrelative
    cases hrelative
  | some q =>
    rw [hq] at hrelative
    cases hrelative
    rw [hdir] at hq
    exact nameUnder_relative hplain rfl hq

/-- The directory of the next iteration is none of those recorded. -/
theorem Spent.evidence_fresh (h : Spent site limit b) {evidence : String}
    (he : EvidenceAt site args b evidence) : evidence ∉ b.evidenceDirectories := by
  have hname : nameUnder site.root evidence = iterationName b.evidenceDirectories.length :=
    he.name (by rw [h.iteration]; push_cast; rfl)
  intro hmem
  have hlisted : nameUnder site.root evidence ∈
      (List.range b.evidenceDirectories.length).map iterationName := by
    rw [← h.named]
    exact List.mem_map_of_mem hmem
  obtain ⟨i, hi, hieq⟩ := List.mem_map.mp hlisted
  rw [hname] at hieq
  have hsame : i = b.evidenceDirectories.length := iterationName_injective hieq
  rw [List.mem_range] at hi
  omega

/-- What a move records: nothing, or the evidence directory of one iteration. -/
theorem Move.Enabled.evidence (hm : m.Enabled site campaign sur c b)
    (hfresh : ∀ args e, EvidenceAt site args b e → e ∉ b.evidenceDirectories) :
    ((m.after b).evidenceDirectories = b.evidenceDirectories ∧
      (m.after b).nextIteration = b.nextIteration ∧ ∀ r, m ≠ .result r) ∨
    ∃ args e, EvidenceAt site args b e ∧
      (m.after b).evidenceDirectories = b.evidenceDirectories ++ [e] ∧
      (m.after b).nextIteration = b.nextIteration + 1 := by
  cases m with
  | result r =>
    obtain ⟨args, objective, budget, -, -, hdispatches⟩ := hm
    refine Or.inr ⟨args, r.evidence, hdispatches.evidence, ?_⟩
    have hnot := hfresh args r.evidence hdispatches.evidence
    simp only [Move.after]
    rcases settled_cases b r with ⟨-, h'⟩ | ⟨-, -, h'⟩ | ⟨-, -, h'⟩ | ⟨-, -, h'⟩ <;> rw [h'] <;>
      exact ⟨if_neg hnot, rfl⟩
  | fuzzingStop id evidence signals =>
    obtain ⟨args, objective, -, -, hevidence, -⟩ := hm
    exact Or.inr ⟨args, evidence, hevidence, rfl, rfl⟩
  | lockoutPause id evidence moduleName =>
    obtain ⟨args, objective, -, -, hevidence, -⟩ := hm
    exact Or.inr ⟨args, evidence, hevidence, rfl, rfl⟩
  | budgetStop id evidence moduleName reason =>
    obtain ⟨args, objective, budget, -, -, hevidence, -⟩ := hm
    exact Or.inr ⟨args, evidence, hevidence, rfl, rfl⟩
  | finish =>
    have hnot : ∀ r, Move.finish ≠ .result r := by
      rintro r ⟨⟩
    refine Or.inl ?_
    simp only [Move.after]
    split_ifs <;> exact ⟨rfl, rfl, hnot⟩
  | review r =>
    have hnot : ∀ r', Move.review r ≠ .result r' := by
      rintro r' ⟨⟩
    refine Or.inl ?_
    simp only [Move.after, CampaignState.reviewed]
    split_ifs <;> exact ⟨rfl, rfl, hnot⟩
  | begin =>
    have hnot : ∀ r, Move.begin ≠ .result r := by
      rintro r ⟨⟩
    exact Or.inl ⟨rfl, rfl, hnot⟩
  | dispatch id =>
    have hnot : ∀ r, Move.dispatch id ≠ .result r := by
      rintro r ⟨⟩
    exact Or.inl ⟨rfl, rfl, hnot⟩
  | stop =>
    have hnot : ∀ r, Move.stop ≠ .result r := by
      rintro r ⟨⟩
    exact Or.inl ⟨rfl, rfl, hnot⟩

/-- **A cleared dispatch has an iteration left.** -/
theorem Cleared.iteration_left {id : String} {objective : Dict} {budget : SafetyBudget}
    (h : Cleared site campaign sur args b id objective budget)
    (hp : parseCampaign campaign = .ok p) : b.nextIteration - 1 < p.limits.maxIterations := by
  obtain ⟨parsed, hparsed, hbudget⟩ := h.budgetAt
  obtain rfl : parsed = p := Except.ok.inj (hparsed.symm.trans hp)
  obtain ⟨_, _, total, minute, -, -, rfl⟩ := budgetOf_eq_ok hbudget
  obtain ⟨now, proposed, -, -, hreason⟩ := h.affordable
  by_contra hnone
  rw [not_lt] at hnone
  unfold SafetyBudget.denialReason at hreason
  by_cases hneg : proposed < 0
  · rw [if_pos hneg] at hreason
    cases hreason
  · rw [if_neg hneg, if_pos hnone] at hreason
    cases hreason

/-- **Every enabled move keeps what has been spent in order.** -/
theorem Spent.moved (hb : Spent site p.limits.maxIterations b) (hp : parseCampaign campaign = .ok p)
    (hm : m.Enabled site campaign sur c b) (h : Moved site sur m b s) :
    Spent site p.limits.maxIterations s := by
  obtain ⟨es, hash, now, elapsed, revision, rfl, hes, -⟩ := h.spec
  have hcount := resultCount_records hes
  rcases hm.evidence fun args e he => hb.evidence_fresh he with
    ⟨hdirectories, hnext, hnot⟩ | ⟨args, e, he, hdirectories, hnext⟩
  · rw [countP_not_result b hnot] at hcount
    refine ⟨?_, ?_, ?_, ?_⟩
    · show (m.after b).nextIteration = ((m.after b).evidenceDirectories.length : ℤ) + 1
      rw [hnext, hdirectories, hb.iteration]
    · show (m.after b).evidenceDirectories.map _ = _
      rw [hdirectories]
      exact hb.named
    · show resultCount (b.events ++ es) ≤ (m.after b).evidenceDirectories.length
      rw [resultCount_append, hcount, hdirectories]
      exact hb.results
    · show (resultCount (b.events ++ es) : ℤ) ≤ _
      rw [resultCount_append, hcount]
      exact hb.within
  · have hle : resultCount es ≤ 1 := by
      rw [hcount]
      by_cases hr : ∃ r, m = .result r
      · obtain ⟨r, rfl⟩ := hr
        exact le_of_eq (countP_result b r)
      · rw [countP_not_result b fun r hmr => hr ⟨r, hmr⟩]
        exact Nat.zero_le 1
    refine ⟨?_, ?_, ?_, ?_⟩
    · show (m.after b).nextIteration = ((m.after b).evidenceDirectories.length : ℤ) + 1
      rw [hnext, hdirectories, hb.iteration, List.length_append, List.length_singleton]
      push_cast
      rfl
    · show (m.after b).evidenceDirectories.map _ =
        (List.range (m.after b).evidenceDirectories.length).map _
      have hname : nameUnder site.root _ = iterationName b.evidenceDirectories.length :=
        he.name (by rw [hb.iteration]; push_cast; rfl)
      rw [hdirectories, List.map_append, hb.named, List.length_append, List.length_singleton,
        List.range_succ, List.map_append, List.map_singleton, List.map_singleton, hname]
    · show resultCount (b.events ++ es) ≤ (m.after b).evidenceDirectories.length
      rw [resultCount_append, hdirectories, List.length_append, List.length_singleton]
      exact Nat.add_le_add hb.results hle
    · show (resultCount (b.events ++ es) : ℤ) ≤ _
      rw [resultCount_append]
      by_cases hr : ∃ r, m = .result r
      · -- a dispatch was cleared, so an iteration was left
        obtain ⟨r, rfl⟩ := hr
        obtain ⟨_, _, _, -, hcleared, -⟩ := hm
        have hleft := hcleared.iteration_left hp
        have hresults := hb.results
        rw [hb.iteration] at hleft
        push_cast
        omega
      · rw [hcount, countP_not_result b fun r hmr => hr ⟨r, hmr⟩]
        exact hb.within

theorem limits_positive (hp : parseCampaign campaign = .ok p) : 0 < p.limits.maxIterations := by
  simp only [parseCampaign, bind_eq_ok] at hp
  obtain ⟨_, -, _, -, _, -, _, -, _, -, _, -, limits, hlimits, _, -, _, -, _, -, _, -, hp⟩ := hp
  cases hp
  simp only [parseLimits, bind_eq_ok, requirePositiveInt_eq_ok] at hlimits
  obtain ⟨_, -, _, -, iterations, ⟨-, hpositive⟩, _, -, _, -, _, -, hlimits⟩ := hlimits
  cases hlimits
  exact hpositive

theorem Initial.spent (h : Initial site campaign s) (hp : parseCampaign campaign = .ok p) :
    Spent site p.limits.maxIterations s := by
  have hevents : s.events = [] := h.events
  obtain ⟨_, _, _, _, _, _, _, -, -, -, -, -, h⟩ := h
  simp only [initialState, bind_eq_ok] at h
  obtain ⟨_, -, _, -, h⟩ := h
  have hpositive := limits_positive hp
  cases h
  exact ⟨rfl, rfl, Nat.zero_le _, le_of_lt hpositive⟩

theorem Reached.spent (h : Reached site campaign sur s) (hp : parseCampaign campaign = .ok p) :
    Spent site p.limits.maxIterations s := by
  induction h with
  | initial h => exact h.spent hp
  | moved hb hm h ih => exact ih.moved hp hm h

/-! ### The events of a history -/

/-- The events of a checkpoint and those appended since. -/
def Progress.written (g : Progress) : List CampaignEvent := g.committed ++ g.pending

/-- A commit leaves the same events in the checkpoint. -/
theorem Commit.written (h : Commit site campaign sur c g s) :
    (g.save s.saved).written = g.written := by
  obtain ⟨b, m, horigin, -, -, hevents⟩ := h
  have hcommitted : g.committed = b.events := by
    unfold Progress.committed
    rcases horigin with hbase | ⟨hbase, hinitial⟩
    · rw [hbase]
    · have hempty : b.events = [] := hinitial.events
      rw [hbase, hempty]
  unfold Progress.written
  rw [hcommitted, ← hevents]
  exact List.append_nil _

/-- **What a call has written** is what it started from and what it has appended. -/
theorem written_of_allowed (ha : (commits site campaign sur c).Allowed g tr) :
    ((commits site campaign sur c).run g tr).written = g.written ++ appendsOf tr := by
  induction tr generalizing g with
  | nil => exact (List.append_nil _).symm
  | cons step tr ih =>
    obtain ⟨o, r⟩ := step
    obtain ⟨hallowed, hrest⟩ := ha
    have hcons : appendsOf (⟨o, r⟩ :: tr) = appendsOf [⟨o, r⟩] ++ appendsOf tr :=
      appendsOf_append [⟨o, r⟩] tr
    have hlater := ih hrest
    rw [hcons, ← List.append_assoc]
    refine hlater.trans (congrArg (· ++ appendsOf tr) ?_)
    cases o with
    | appendLog e =>
      show g.committed ++ (g.pending ++ [e]) = g.committed ++ g.pending ++ [e]
      rw [List.append_assoc]
    | saveCheckpoint s =>
      have hnone : appendsOf [⟨.saveCheckpoint s, r⟩] = [] := by cases r <;> rfl
      rw [hnone, List.append_nil]
      cases r with
      | error e => rfl
      | ok u => exact Commit.written hallowed
    | _ => exact (List.append_nil _).symm

theorem World.written (w : World) : w.progress.written = w.progress.committed :=
  List.append_nil _

/-- **The events a history has appended** are those of its last checkpoint. -/
theorem History.appends_committed {hist : List (Call × List Step)}
    (h : History site campaign sur hist w) (hshape : CampaignShape campaign p objectives) :
    appendsOf (stepsOf hist) = w.progress.committed := by
  induction h with
  | nil => rfl
  | @snoc hist w c tr res hist' ran ih =>
    obtain ⟨-, hallowed, hend, htracks⟩ := ran.conforms hshape (hist'.atRest hshape)
    have hwritten := written_of_allowed hallowed
    have hpending : ((commits site campaign sur c).run w.progress tr).pending = [] := by
      obtain ⟨res | res, u⟩ := res
      · exact hend
      · exact hend.1.pending
    have hbase : ((Campaign.world site.rt).run w tr).checkpoint =
        ((commits site campaign sur c).run w.progress tr).base := htracks.checkpoint
    have hsteps : stepsOf (hist ++ [(c, tr)]) = stepsOf hist ++ tr := by
      unfold stepsOf
      rw [List.flatMap_append]
      simp
    rw [hsteps, appendsOf_append, ih, ← World.written, ← hwritten]
    unfold Progress.written
    rw [hpending, List.append_nil]
    exact congrArg (fun base => Progress.committed { base := base }) hbase.symm

/-! ### The budget of an invocation -/

/-- A campaign that an invocation may go on with. -/
def CampaignState.IsOpen (s : CampaignState) : Prop :=
  s.currentStatus = .running ∨ s.currentStatus = .readyToResume ∨ s.currentStatus = .planned

/-- **The iterations an invocation carries**: as long as the campaign is open, they have grown by one
with each result since it had begun `n` of them and had `k` results. -/
def Carried (n : ℤ) (k : ℕ) (b : CampaignState) : Prop :=
  b.IsOpen → b.nextIteration + k = n + resultCount b.events

/-- The moves of an invocation keep it: those that spend an iteration without a result close the
campaign, and nothing opens it again. -/
theorem Carried.moved {n : ℤ} {k : ℕ} (hb : Carried n k b) (hc : c.args? = some args)
    (hm : m.Enabled site campaign sur c b) (h : Moved site sur m b s) : Carried n k s := by
  obtain ⟨es, hash, now, elapsed, revision, rfl, hes, -⟩ := h.spec
  have hcount := resultCount_records hes
  have hsame (hopen : b.IsOpen) (hnext : (m.after b).nextIteration = b.nextIteration)
      (hnot : ∀ r, m ≠ .result r) :
      (m.after b).nextIteration + k = n + resultCount (b.events ++ es) := by
    rw [hnext, resultCount_append, hcount, countP_not_result b hnot, hb hopen]
    simp
  intro hopen
  cases m with
  | begin =>
    have hnot : ∀ r, Move.begin ≠ .result r := by
      rintro r ⟨⟩
    exact hsame hm.2.1 rfl hnot
  | dispatch id =>
    have hnot : ∀ r, Move.dispatch id ≠ .result r := by
      rintro r ⟨⟩
    exact hsame hopen rfl hnot
  | result r =>
    obtain ⟨args', objective, budget, -, hcleared, hdispatches⟩ := hm
    have hrunning : b.IsOpen := Or.inl hcleared.head.running
    have hbefore := hb hrunning
    have hnext : ((Move.result r).after b).nextIteration = b.nextIteration + 1 := by
      simp only [Move.after]
      rcases settled_cases b r with ⟨-, h'⟩ | ⟨-, -, h'⟩ | ⟨-, -, h'⟩ | ⟨-, -, h'⟩ <;> rw [h'] <;> rfl
    show ((Move.result r).after b).nextIteration + _ = _ + (resultCount (b.events ++ es) : ℤ)
    rw [hnext, resultCount_append, hcount, countP_result]
    push_cast
    omega
  | fuzzingStop id evidence signals => exact absurd hopen (by simp [CampaignState.IsOpen, Move.after])
  | lockoutPause id evidence moduleName =>
    exact absurd hopen (by simp [CampaignState.IsOpen, Move.after, CampaignState.pausedBefore])
  | budgetStop id evidence moduleName reason =>
    exact absurd hopen (by simp [CampaignState.IsOpen, Move.after])
  | finish =>
    have hnot : ∀ r, Move.finish ≠ .result r := by
      rintro r ⟨⟩
    by_cases hdone : b.currentStatus = .running ∧ b.pendingModules = []
    · refine absurd hopen ?_
      simp [CampaignState.IsOpen, Move.after, hdone]
    · have hafter : Move.finish.after b = b := if_neg hdone
      have hopen' : b.IsOpen := by
        rw [hafter] at hopen
        exact hopen
      exact hsame hopen' (by rw [hafter]) hnot
  | review r =>
    obtain ⟨⟨data, hdata, -⟩, -⟩ := hm
    rw [hdata] at hc
    cases hc
  | stop =>
    rw [hm.1] at hc
    cases hc

/-- The number of the next iteration in the last checkpoint. -/
def Progress.nextIteration (g : Progress) : ℤ :=
  match g.base with
  | some b => b.nextIteration
  | none => 1

theorem Progress.Origin.carried (h : g.Origin site campaign b) :
    Carried g.nextIteration (resultCount g.committed) b := by
  intro hopen
  unfold Progress.nextIteration Progress.committed
  rcases h with hbase | ⟨hbase, hinitial⟩
  · rw [hbase]
  · have hempty : b.events = [] := hinitial.events
    obtain ⟨_, _, _, _, _, _, _, -, -, -, -, -, h⟩ := hinitial
    simp only [initialState, bind_eq_ok] at h
    obtain ⟨_, -, _, -, h⟩ := h
    rw [hbase, hempty]
    cases h
    rfl

/-- An invocation carries its iterations to every checkpoint it writes. -/
theorem carried_of_allowed {n : ℤ} {k : ℕ} (hc : c.args? = some args)
    (ha : (commits site campaign sur c).Allowed g tr)
    (hg : ∀ b, g.Origin site campaign b → Carried n k b) :
    ∀ b, ((commits site campaign sur c).run g tr).base = some b → Carried n k b := by
  induction tr generalizing g with
  | nil => exact fun b hb => hg b (Or.inl hb)
  | cons step tr ih =>
    obtain ⟨o, r⟩ := step
    obtain ⟨hallowed, hrest⟩ := ha
    refine ih hrest ?_
    cases o with
    | saveCheckpoint s =>
      cases r with
      | error e => exact hg
      | ok u =>
        obtain ⟨b, m, horigin, hm, hmoved, -⟩ := hallowed
        have hcarried := (hg b horigin).moved hc hm hmoved.saved
        rintro b' (hb' | ⟨hnone, -⟩)
        · cases hb'
          exact hcarried
        · cases hnone
    | _ => exact hg

/-! ### Dispatches -/

/-- `int(scope["rate_limits"]["max_requests"])`. -/
def scopeMaxRequests (site : Site) (scope : Dict) : Except Exc ℤ := do
  let rates ← subscript (.obj scope) "rate_limits"
  let maxRequests ← subscript rates "max_requests"
  pyInt site.rt maxRequests

theorem budgetOf_maxRequests {limits : CampaignLimits} {scope : Dict} {budget : SafetyBudget}
    (h : budgetOf site limits scope b = .ok budget) :
    ∃ n, scopeMaxRequests site scope = .ok n ∧ budget.maxRequests = min limits.maxRequests n := by
  simp only [budgetOf, bind_eq_ok] at h
  obtain ⟨rates, hrates, maxRequests, hmax, n, hn, _, -, _, -, _, -, _, -, h⟩ := h
  cases h
  refine ⟨n, ?_, rfl⟩
  unfold scopeMaxRequests
  rw [hrates]
  show (subscript rates "max_requests" >>= pyInt site.rt) = .ok n
  rw [hmax]
  exact hn

/-- A budget that gives no reason can afford the requests. -/
theorem requests_of_denialReason {budget : SafetyBudget} {now : ℚ} {proposed : ℤ}
    (h : budget.denialReason now proposed = .ok none) :
    budget.requests + proposed ≤ budget.maxRequests := by
  by_contra hmore
  rw [not_le] at hmore
  unfold SafetyBudget.denialReason at h
  by_cases hneg : proposed < 0
  · rw [if_pos hneg] at h
    cases h
  · rw [if_neg hneg] at h
    by_cases hiterations : budget.iterations ≥ budget.maxIterations
    · rw [if_pos hiterations] at h
      cases h
    · rw [if_neg hiterations] at h
      by_cases hruntime : now ≥ budget.maxRuntimeSeconds
      · rw [if_pos hruntime] at h
        cases h
      · rw [if_neg hruntime, if_pos hmore] at h
        cases h

/-- The iterations of the budget an invocation carries: those of the checkpoint it starts from, and
one for each result it has appended. -/
def carriedIterations (start : Option CampaignState) (tr : List Step) : ℤ :=
  (match start with
    | some b => b.nextIteration - 1
    | none => 0) + resultCount (appendsOf tr)

/-- **What is known whenever the gate is asked** about the objective `id`, with the checkpoint `b`:
the budget is the one the checkpoint implies and the one the invocation carries, and it affords the
requests the objective declares. -/
def Afforded (site : Site) (campaign : Dict) (sur : Surroundings) (limits : CampaignLimits)
    (args : RunArgs) (start : Option CampaignState) (tr : List Step) (b : CampaignState) : Prop :=
  ∃ id objective budget proposed total n, b.currentObjectiveId = some id ∧
    Head site campaign sur b id objective ∧ budgetOf site limits args.scope b = .ok budget ∧
    budget.iterations = b.nextIteration - 1 ∧ budget.iterations = carriedIterations start tr ∧
    proposedRequests site objective = .ok proposed ∧
    counterAt b.requestCounters "total" = .ok total ∧ scopeMaxRequests site args.scope = .ok n ∧
    total + proposed ≤ min limits.maxRequests n

theorem Ran.afforded {o : Snapshot} {q : Prog Op Res (Except Exc CampaignState × Unit)}
    (h : Ran site campaign sur c w (tr₁ ++ ⟨.observe, o⟩ :: tr₂) q)
    (hp : parseCampaign campaign = .ok p) (hshape : CampaignShape campaign p objectives)
    (hw : AtRest site (objectives.map rawId) w) (hc : c.args? = some args) :
    ∃ b, ((world site.rt).run w tr₁).checkpoint = some b ∧
      Afforded site campaign sur p.limits args w.checkpoint tr₁ b := by
  obtain ⟨-, hallowed, -, -⟩ := h.conforms hshape hw
  have hasked : Dispatching site campaign sur args
      ((commits site campaign sur c).run w.progress tr₁) :=
    Monitor.Allowed.of_append (commits site campaign sur c) hallowed args hc
  obtain ⟨b, id, objective, budget, hbase, hpending, hcurrent, hcleared⟩ := hasked
  obtain ⟨q', hcut⟩ := h.cut
  obtain ⟨-, hallowed₁, -, htracks⟩ := hcut.conforms hshape hw
  refine ⟨b, htracks.checkpoint.trans hbase, ?_⟩
  obtain ⟨parsed, hparsed, hbudget⟩ := hcleared.budgetAt
  obtain rfl : parsed = p := Except.ok.inj (hparsed.symm.trans hp)
  obtain ⟨now, proposed, -, hproposed, hreason⟩ := hcleared.affordable
  obtain ⟨n, hn, hmax⟩ := budgetOf_maxRequests hbudget
  obtain ⟨_, _, total, minute, htotal, -, hfields⟩ := budgetOf_eq_ok hbudget
  have hiterations : budget.iterations = b.nextIteration - 1 := by rw [hfields]
  have hrequests : budget.requests = total := by rw [hfields]
  have hafford := requests_of_denialReason hreason
  rw [hrequests, hmax] at hafford
  refine ⟨id, objective, budget, proposed, total, n, hcurrent, hcleared.head, hbudget, hiterations,
    ?_, hproposed, htotal, hn, hafford⟩
  -- the checkpoint has the events of the call so far, and its iterations have grown with the results
  have hcarried := carried_of_allowed hc hallowed₁
    (fun b' (hb' : w.progress.Origin site campaign b') => hb'.carried) b hbase
    (Or.inl hcleared.head.running)
  have hwritten := written_of_allowed hallowed₁
  have hevents : b.events = w.progress.committed ++ appendsOf tr₁ := by
    rw [← World.written, ← hwritten]
    unfold Progress.written Progress.committed
    rw [hpending, hbase, List.append_nil]
  have hstart : w.progress.nextIteration - 1 + resultCount (appendsOf tr₁) =
      carriedIterations w.checkpoint tr₁ := by
    unfold carriedIterations Progress.nextIteration World.progress
    cases w.checkpoint <;> simp
  rw [hevents, resultCount_append] at hcarried
  rw [hiterations, ← hstart]
  push_cast at hcarried
  omega

end Aotp.Campaign
