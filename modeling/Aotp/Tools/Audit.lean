import Aotp.Tools.Ledger

/-!
# When a tool call leaves its audit record

* `Dispatched`, `Refused` — the two ways a call in a workspace may end; `Audited` — exactly one of
  them.
* `safeComponent_artifactName` — the name of a record is accepted exactly when it is short enough.
* `Redactable` — the arguments a record can be made of; `redactToolArguments_isOk`.
* `Judged` — the calls `evaluate` decides about without raising.
* `audited_iff` — the calls that are audited; `longName_unaudited` — one that is not.
-/

namespace Aotp.Tools

open PyData

/-! ### File names -/

theorem isSlugChar_of_mem_dashRuns {cs : List Char} :
    ∀ {inRun : Bool} {c : Char}, c ∈ dashRuns inRun cs → isSlugChar c = true := by
  induction cs with
  | nil =>
    intro inRun c hc
    cases hc
  | cons d cs ih =>
    intro inRun c hc
    unfold dashRuns at hc
    split_ifs at hc with hslug hrun
    · rcases List.mem_cons.1 hc with rfl | hc
      · exact hslug
      · exact ih hc
    · exact ih hc
    · rcases List.mem_cons.1 hc with rfl | hc
      · decide
      · exact ih hc

theorem mem_of_mem_trim {α : Type} {p : α → Bool} {l : List α} {a : α} (h : a ∈ trim p l) :
    a ∈ l := by
  unfold trim at h
  have hsub := (List.dropWhile_sublist p (l := (l.dropWhile p).reverse)).subset
  have hmem : a ∈ (l.dropWhile p).reverse := hsub (List.mem_reverse.1 h)
  exact (List.dropWhile_sublist p (l := l)).subset (List.mem_reverse.1 hmem)

theorem isSlugChar_of_mem_safeTool {rt : Runtime} {toolName : String} {c : Char}
    (h : c ∈ safeTool rt toolName) : isSlugChar c = true := by
  unfold safeTool at h
  split at h
  · have htool : "tool".toList.all isSlugChar = true := by decide
    exact List.all_eq_true.1 htool c h
  · exact isSlugChar_of_mem_dashRuns (mem_of_mem_trim h)

theorem isSlugChar_of_isLowerHex {c : Char} (h : isLowerHex c = true) : isSlugChar c = true := by
  unfold isLowerHex at h
  unfold isSlugChar
  simp only [Bool.or_eq_true, Bool.and_eq_true, decide_eq_true_eq] at h ⊢
  rcases h with hdigit | ⟨hlo, hhi⟩
  · exact Or.inl (Or.inl (Or.inl (Or.inr hdigit)))
  · have hfz : 'f' ≤ 'z' := by decide
    have hz : c ≤ 'z' := Char.le_trans hhi hfz
    exact Or.inl (Or.inl (Or.inl (Or.inl ⟨hlo, hz⟩)))

/-- The name of a record is a safe component exactly when it has at most 128 characters. -/
theorem safeComponent_artifactName (rt : Runtime) (kind : RecordKind) (toolName : String)
    (token : Token) :
    safeComponent (artifactName rt kind.text toolName token) = true ↔
      kind.text.toList.length + (safeTool rt toolName).length + 14 ≤ 128 := by
  have hhead : (artifactName rt kind.text toolName token).head?.any isSlugHead = true := by
    cases kind <;> rfl
  have hkind : kind.text.toList.all isSlugChar = true := by
    cases kind <;> decide
  have hall : (artifactName rt kind.text toolName token).all isSlugChar = true := by
    unfold artifactName
    rw [List.all_append, hkind, Bool.true_and, List.all_eq_true]
    intro c hc
    rcases List.mem_cons.1 hc with rfl | hc
    · decide
    · rcases List.mem_append.1 hc with hc | hc
      · exact isSlugChar_of_mem_safeTool hc
      · rcases List.mem_cons.1 hc with rfl | hc
        · decide
        · exact isSlugChar_of_isLowerHex (token.hex c hc)
  have hlength : (artifactName rt kind.text toolName token).length =
      kind.text.toList.length + (safeTool rt toolName).length + 14 := by
    simp only [artifactName, List.length_append, List.length_cons, token.length_eq]
    omega
  unfold safeComponent
  rw [hhead, hall, hlength]
  simp

/-! ### Arguments -/

/-- The arguments a record can be made of: a mapping, whose texts under unremarkable keys are texts
`urlsplit` reads. -/
def Redactable (rt : Runtime) (urls : Urls) (arguments : Json) : Prop :=
  ∃ m, arguments = .obj m ∧ ∀ key value, (key, .str value) ∈ m → sensitiveName rt key = false →
    ∃ parsed, urls.urlsplit value = .ok parsed

variable {rt : Runtime} {urls : Urls}

theorem redactArgument_isOk (entry : String × Json) :
    (∃ e, redactArgument rt urls entry = .ok e) ↔
      ∀ value, entry.2 = .str value → sensitiveName rt entry.1 = false →
        ∃ parsed, urls.urlsplit value = .ok parsed := by
  obtain ⟨key, json⟩ := entry
  unfold redactArgument
  by_cases hkey : sensitiveName rt key = true
  · simp [hkey]
  · rw [if_neg hkey]
    rw [Bool.not_eq_true] at hkey
    cases json with
    | str value =>
      cases hsplit : urls.urlsplit value with
      | error e =>
        simp only [Except.bind, bind, hsplit]
        constructor
        · rintro ⟨e', he'⟩
          cases he'
        · intro h
          obtain ⟨parsed, hparsed⟩ := h value rfl hkey
          rw [hsplit] at hparsed
          cases hparsed
      | ok parsed =>
        constructor
        · rintro - value' hvalue -
          cases hvalue
          exact ⟨parsed, hsplit⟩
        · intro _
          simp only [Except.bind, bind, hsplit]
          split_ifs
          · exact ⟨_, rfl⟩
          · exact ⟨_, rfl⟩
    | _ => exact ⟨fun _ _ h => Json.noConfusion h, fun _ => ⟨_, rfl⟩⟩

/-- `mapM` succeeds exactly when it does on every element. -/
theorem mapM_isOk {α β ε : Type} {f : α → Except ε β} (xs : List α) :
    (∃ ys, xs.mapM f = .ok ys) ↔ ∀ x ∈ xs, ∃ y, f x = .ok y := by
  induction xs with
  | nil => exact ⟨fun _ _ h => absurd h List.not_mem_nil, fun _ => ⟨[], rfl⟩⟩
  | cons x xs ih =>
    rw [List.forall_mem_cons, ← ih, List.mapM_cons]
    constructor
    · rintro ⟨ys, h⟩
      obtain ⟨y, hy, h⟩ := bind_eq_ok.1 h
      obtain ⟨zs, hzs, -⟩ := bind_eq_ok.1 h
      exact ⟨⟨y, hy⟩, zs, hzs⟩
    · rintro ⟨⟨y, hy⟩, zs, hzs⟩
      exact ⟨y :: zs, by rw [hy, hzs]; rfl⟩

theorem redactToolArguments_isOk (arguments : Json) :
    (∃ m, redactToolArguments rt urls arguments = .ok m) ↔ Redactable rt urls arguments := by
  unfold redactToolArguments Redactable
  cases arguments with
  | obj m =>
    show (∃ m', m.mapM (redactArgument rt urls) = .ok m') ↔ _
    rw [mapM_isOk]
    constructor
    · intro h
      refine ⟨m, rfl, ?_⟩
      intro key value hmem
      exact (redactArgument_isOk _).1 (h _ hmem) value rfl
    · rintro ⟨m', hm', h⟩ ⟨key, json⟩ hmem
      cases hm'
      refine (redactArgument_isOk _).2 ?_
      intro value hvalue
      subst hvalue
      exact h key value hmem
  | _ =>
    constructor
    · rintro ⟨m, hm⟩
      cases hm
    · rintro ⟨m, hm, -⟩
      cases hm

/-! ### Records -/

variable {registry : NativeToolRegistry} {call : NativeToolCall} {roe : RulesOfEngagement}
  {budget : RequestBudget} {draw : Draw} {decision : ToolCallDecision}

/-- The denial record is written exactly when the arguments can be redacted and the name of the
tool is short enough. -/
theorem writeDenied_isOk :
    (∃ step, writeDeniedToolCallEvidence rt urls draw call decision roe = .ok step) ↔
      Redactable rt urls call.arguments ∧ (safeTool rt call.toolName).length ≤ 108 := by
  rw [← redactToolArguments_isOk]
  have hname := safeComponent_artifactName rt .denied call.toolName draw.token
  have hsix : RecordKind.denied.text.toList.length = 6 := by decide
  rw [hsix] at hname
  unfold writeDeniedToolCallEvidence deniedToolCallRecord
  constructor
  · rintro ⟨step, h⟩
    obtain ⟨record, hrecord, hwrite⟩ := bind_eq_ok.1 h
    obtain ⟨m, hm, -⟩ := bind_eq_ok.1 hrecord
    have hsafe := hname.1 (writeJson_eq_ok.1 hwrite).1
    exact ⟨⟨m, hm⟩, by omega⟩
  · rintro ⟨⟨m, hm⟩, hlength⟩
    rw [hm]
    exact ⟨_, writeJson_eq_ok.2 ⟨hname.2 (by omega), rfl⟩⟩

/-- The record of a call whose executor returned JSON is written exactly when the arguments can be
redacted and the name of the tool is short enough. -/
theorem writeExecuted_isOk {value : Json} :
    (∃ step, writeExecutedToolCallEvidence rt urls draw call decision roe (.json value) =
        .ok step) ↔
      Redactable rt urls call.arguments ∧ (safeTool rt call.toolName).length ≤ 106 := by
  rw [← redactToolArguments_isOk]
  have hname := safeComponent_artifactName rt .executed call.toolName draw.token
  have height : RecordKind.executed.text.toList.length = 8 := by decide
  rw [height] at hname
  unfold writeExecutedToolCallEvidence executedToolCallRecord
  constructor
  · rintro ⟨step, h⟩
    obtain ⟨record, hrecord, hwrite⟩ := bind_eq_ok.1 h
    obtain ⟨m, hm, -⟩ := bind_eq_ok.1 hrecord
    have hsafe := hname.1 (writeJson_eq_ok.1 hwrite).1
    exact ⟨⟨m, hm⟩, by omega⟩
  · rintro ⟨⟨m, hm⟩, hlength⟩
    simp only [hm]
    exact ⟨_, writeJson_eq_ok.2 ⟨hname.2 (by omega), rfl⟩⟩

theorem writeExecuted_kind {value : Json} {step : Step}
    (h : writeExecutedToolCallEvidence rt urls draw call decision roe (.json value) = .ok step) :
    step.isStart = false ∧ step.isRecord .executed = true ∧ step.isRecord .denied = false := by
  unfold writeExecutedToolCallEvidence at h
  obtain ⟨record, -, hwrite⟩ := bind_eq_ok.1 h
  obtain ⟨-, rfl⟩ := writeJson_eq_ok.1 hwrite
  exact ⟨rfl, rfl, rfl⟩

/-! ### Two ways to end -/

/-- The number of records of a kind among some steps. -/
def recordCount (kind : RecordKind) (steps : List Step) : ℕ := steps.countP (·.isRecord kind)

/-- The executor was started once, right after the cost of the call was consumed, and if it
returned a JSON object, then exactly one executed record was written and no other. -/
def Dispatched (registry : NativeToolRegistry) (call : NativeToolCall) (budget : RequestBudget)
    (run : Run) : Prop :=
  ∃ spec executor n rest, registry.find call.toolName = some spec ∧
    spec.executor = some executor ∧ spec.costFor call.arguments = .ok n ∧
    run.budget = budget.spend spec.name spec.riskTier n ∧
    run.steps = .consumed n :: .started call.arguments :: rest ∧
    rest.all (!·.isStart) = true ∧
    ∀ result, executor call.arguments = .ok (.json (.obj result)) →
      recordCount .executed rest = 1 ∧ recordCount .denied rest = 0

/-- `ToolExecutionDenied` was raised, exactly one record was written and it is a denial record, the
executor was not started and the budget is as it was. -/
def Refused (budget : RequestBudget) (run : Run) : Prop :=
  (∃ summary, run.outcome = .error (.denied summary)) ∧ recordCount .denied run.steps = 1 ∧
    recordCount .executed run.steps = 0 ∧ run.started = false ∧ run.budget = budget

/-- Exactly one of the two happened. -/
def Audited (registry : NativeToolRegistry) (call : NativeToolCall) (budget : RequestBudget)
    (run : Run) : Prop :=
  Xor (Dispatched registry call budget run) (Refused budget run)

theorem Dispatched.started {run : Run} (h : Dispatched registry call budget run) :
    run.started = true := by
  obtain ⟨spec, executor, n, rest, -, -, -, -, hsteps, -, -⟩ := h
  simp [Run.started, hsteps, Step.isStart]

theorem audited_of_started {run : Run} (h : run.started = true) :
    Audited registry call budget run ↔ Dispatched registry call budget run := by
  have hnot : ¬Refused budget run := by
    rintro ⟨-, -, -, hidle, -⟩
    rw [h] at hidle
    cases hidle
  unfold Audited
  rw [xor_iff_or_and_not_and]
  tauto

theorem audited_of_not_started {run : Run} (h : run.started = false) :
    Audited registry call budget run ↔ Refused budget run := by
  have hnot : ¬Dispatched registry call budget run := by
    intro hd
    rw [hd.started] at h
    cases h
  unfold Audited
  rw [xor_iff_or_and_not_and]
  tauto

/-! ### The exact condition -/

/-- `evaluate` does not raise: neither the scope validator of the tool does, nor its cost function
with anything but a `ToolRegistryError`. -/
def Judged (registry : NativeToolRegistry) (call : NativeToolCall) (roe : RulesOfEngagement) :
    Prop :=
  ∀ spec, registry.find call.toolName = some spec →
    (∃ reasons, scopeReasons spec call roe = .ok reasons) ∧
      ∀ e, spec.costFor call.arguments = .error e → isRegistryError e = true

/-- `evaluate` allows the call. -/
def Allows (registry : NativeToolRegistry) (call : NativeToolCall) (roe : RulesOfEngagement)
    (budget : RequestBudget) : Prop :=
  ∃ decision, registry.evaluate call roe budget = .ok decision ∧ decision.allowed = true

/-- The calls that leave their record: `evaluate` does not raise on them; a denied call has
arguments that can be redacted and a tool name of at most 108 characters in the file name; an
allowed call is one of a tool with an executor, and if that returns a JSON object, then the
arguments can be redacted and the tool name has at most 106 characters in the file name. -/
structure Auditable (rt : Runtime) (urls : Urls) (registry : NativeToolRegistry)
    (call : NativeToolCall) (roe : RulesOfEngagement) (budget : RequestBudget) : Prop where
  judged : Judged registry call roe
  denied : ¬Allows registry call roe budget →
    Redactable rt urls call.arguments ∧ (safeTool rt call.toolName).length ≤ 108
  allowed : Allows registry call roe budget → ∀ spec, registry.find call.toolName = some spec →
    ∃ executor, spec.executor = some executor ∧
      ∀ result, executor call.arguments = .ok (.json (.obj result)) →
        Redactable rt urls call.arguments ∧ (safeTool rt call.toolName).length ≤ 106

theorem costOrReason_isOk {spec : NativeToolSpec} {arguments : Json} :
    (∃ r, costOrReason spec arguments = .ok r) ↔
      ∀ e, spec.costFor arguments = .error e → isRegistryError e = true := by
  unfold costOrReason
  cases hcost : spec.costFor arguments with
  | ok n =>
    refine ⟨fun _ e he => ?_, fun _ => ⟨_, rfl⟩⟩
    cases he
  | error e =>
    simp only
    split_ifs with he
    · refine ⟨fun _ e' he' => ?_, fun _ => ⟨_, rfl⟩⟩
      cases he'
      exact he
    · constructor
      · rintro ⟨r, hr⟩
        cases hr
      · intro h
        exact absurd (h e rfl) he

theorem evaluate_isOk :
    (∃ decision, registry.evaluate call roe budget = .ok decision) ↔ Judged registry call roe := by
  unfold NativeToolRegistry.evaluate Judged
  cases hfind : registry.find call.toolName with
  | none =>
    refine ⟨fun _ spec h => ?_, fun _ => ⟨_, rfl⟩⟩
    cases h
  | some spec =>
    unfold evaluateSpec
    constructor
    · rintro ⟨decision, h⟩ spec' hspec
      cases hspec
      obtain ⟨reasons, hscope, h⟩ := bind_eq_ok.1 h
      obtain ⟨r, hr, -⟩ := bind_eq_ok.1 h
      exact ⟨⟨reasons, hscope⟩, costOrReason_isOk.1 ⟨r, hr⟩⟩
    · intro h
      obtain ⟨⟨reasons, hscope⟩, hcost⟩ := h spec rfl
      obtain ⟨⟨n, costReasons⟩, hr⟩ := costOrReason_isOk.2 hcost
      simp only [hscope, hr]
      exact ⟨_, rfl⟩

/-- A call `evaluate` raises on starts nothing and writes nothing. -/
theorem execute_of_raise {e : Exc} {workspace : Option Draw}
    (h : registry.evaluate call roe budget = .error e) :
    execute rt urls registry call roe budget workspace = ⟨budget, [], .error (.raised e)⟩ := by
  unfold execute
  rw [h]

theorem not_refused_of_raise {e : Exc} : ¬Refused budget ⟨budget, [], .error (.raised e)⟩ := by
  rintro ⟨⟨summary, h⟩, -⟩
  cases h

/-- A denied call is audited exactly when its record can be written. -/
theorem refused_iff :
    Refused budget (refuse rt urls call roe budget (some draw) decision) ↔
      Redactable rt urls call.arguments ∧ (safeTool rt call.toolName).length ≤ 108 := by
  rw [← @writeDenied_isOk rt urls call roe draw decision]
  unfold refuse
  cases hwrite : writeDeniedToolCallEvidence rt urls draw call decision roe with
  | error e =>
    constructor
    · intro h
      simp only [hwrite] at h
      exact absurd h not_refused_of_raise
    · rintro ⟨step, h⟩
      cases h
  | ok step =>
    obtain ⟨hstart, hdenied, hexecuted⟩ := writeDenied_isStart hwrite
    simp only [hwrite]
    refine ⟨fun _ => ⟨step, rfl⟩, fun _ => ⟨⟨_, rfl⟩, ?_, ?_, ?_, rfl⟩⟩
    · simp [recordCount, hdenied]
    · simp [recordCount, hexecuted]
    · simp [Run.started, hstart]

/-- A started call is audited exactly when the record of a returned JSON object can be written. -/
theorem dispatched_iff {spec : NativeToolSpec} {executor : Json → ExecutorRun}
    (hfind : registry.find call.toolName = some spec) (hexec : spec.executor = some executor)
    (hcost : spec.costFor call.arguments = .ok decision.requestCount) :
    Dispatched registry call budget
        (finish rt urls call roe (budget.spend spec.name spec.riskTier decision.requestCount)
          (some draw) decision spec (executor call.arguments)) ↔
      ∀ result, executor call.arguments = .ok (.json (.obj result)) →
        Redactable rt urls call.arguments ∧ (safeTool rt call.toolName).length ≤ 106 := by
  constructor
  · rintro ⟨spec', executor', n, rest, hfind', hexec', -, -, hsteps, -, hrecords⟩ result hresult
    rw [hfind] at hfind'
    cases hfind'
    rw [hexec] at hexec'
    cases hexec'
    obtain ⟨hone, -⟩ := hrecords result hresult
    rw [← @writeExecuted_isOk rt urls call roe draw decision (.obj result)]
    by_contra hnone
    -- without the record nothing follows the start
    unfold finish at hsteps
    rw [hresult] at hsteps
    cases hwrite : writeExecutedToolCallEvidence rt urls draw call decision roe
        (.json (.obj result)) with
    | ok step => exact hnone ⟨step, hwrite⟩
    | error e =>
      simp only [hwrite, List.cons.injEq] at hsteps
      obtain ⟨-, -, rfl⟩ := hsteps
      simp [recordCount] at hone
  · intro h
    obtain ⟨rest, hsteps, hrest⟩ := @finish_steps rt urls call roe
      (budget.spend spec.name spec.riskTier decision.requestCount) (some draw) decision spec
      (executor call.arguments)
    refine ⟨spec, executor, decision.requestCount, rest, hfind, hexec, hcost, finish_budget,
      hsteps, hrest, ?_⟩
    intro result hresult
    obtain ⟨step, hwrite⟩ := (@writeExecuted_isOk rt urls call roe draw decision
      (.obj result)).2 (h result hresult)
    obtain ⟨-, hexecuted, hdenied⟩ := writeExecuted_kind hwrite
    unfold finish at hsteps
    rw [hresult] at hsteps
    simp only [hwrite, List.cons_append, List.nil_append, List.cons.injEq] at hsteps
    obtain ⟨-, -, rfl⟩ := hsteps
    simp [recordCount, hexecuted, hdenied]

theorem allows_iff (h : registry.evaluate call roe budget = .ok decision) :
    Allows registry call roe budget ↔ decision.allowed = true := by
  constructor
  · rintro ⟨decision', h', hallowed⟩
    rw [h] at h'
    cases h'
    exact hallowed
  · intro hallowed
    exact ⟨decision, h, hallowed⟩

/-- A call in a workspace ends in one of the two ways exactly when `evaluate` does not raise on it,
an allowed call has an executor to start, and the record it owes can be written. -/
theorem audited_iff (rt : Runtime) (urls : Urls) (registry : NativeToolRegistry)
    (call : NativeToolCall) (roe : RulesOfEngagement) (budget : RequestBudget) (draw : Draw) :
    Audited registry call budget (execute rt urls registry call roe budget (some draw)) ↔
      Auditable rt urls registry call roe budget := by
  cases h : registry.evaluate call roe budget with
  | error e =>
    have hjudged : ¬Judged registry call roe := by
      rw [← @evaluate_isOk registry call roe budget, h]
      rintro ⟨decision, hdecision⟩
      cases hdecision
    rw [execute_of_raise h, audited_of_not_started rfl]
    exact ⟨fun hr => absurd hr not_refused_of_raise, fun ha => absurd ha.judged hjudged⟩
  | ok decision =>
    have hjudged : Judged registry call roe := evaluate_isOk.1 ⟨decision, h⟩
    have hallows := allows_iff h
    cases hallowed : decision.allowed with
    | false =>
      have hnot : ¬Allows registry call roe budget := by
        rw [hallows, hallowed]
        decide
      rw [execute_of_denied h hallowed, audited_of_not_started refuse_not_started, refused_iff]
      exact ⟨fun hr => ⟨hjudged, fun _ => hr, fun ha => absurd ha hnot⟩, fun ha => ha.denied hnot⟩
    | true =>
      have hyes : Allows registry call roe budget := hallows.2 hallowed
      obtain ⟨spec, hfind, hcost, -⟩ := NativeToolRegistry.evaluate_allowed h hallowed
      cases hexec : spec.executor with
      | none =>
        rw [execute_of_no_executor h hallowed hfind hexec, audited_of_not_started rfl]
        refine ⟨fun hr => absurd hr not_refused_of_raise, fun ha => ?_⟩
        obtain ⟨executor, hsome, -⟩ := ha.allowed hyes spec hfind
        rw [hexec] at hsome
        cases hsome
      | some executor =>
        rw [execute_of_executor h hallowed hfind hexec, audited_of_started finish_started,
          dispatched_iff hfind hexec hcost]
        constructor
        · intro hr
          refine ⟨hjudged, fun hno => absurd hyes hno, fun _ spec' hfind' => ?_⟩
          rw [hfind] at hfind'
          cases hfind'
          exact ⟨executor, hexec, hr⟩
        · intro ha
          obtain ⟨executor', hexec', hr⟩ := ha.allowed hyes spec hfind
          rw [hexec] at hexec'
          cases hexec'
          exact hr

/-- A token. -/
def sampleDraw : Draw where
  token := ⟨List.replicate 12 '0', rfl, fun _ hc => by rw [List.eq_of_mem_replicate hc]; rfl⟩
  now := "2026-01-01T00:00:00Z"

/-- An unregistered tool name of 109 letters is denied, but its denial record is not written: the
workspace refuses the file name, and the exception of the workspace escapes instead of
`ToolExecutionDenied`. -/
theorem longName_unaudited :
    ¬Audited sampleRegistry (sampleCall (String.ofList (List.replicate 109 'a')))
      { maxRequests := 1 }
      (execute sampleRuntime sampleUrls sampleRegistry
        (sampleCall (String.ofList (List.replicate 109 'a'))) sampleRoe { maxRequests := 1 }
        (some sampleDraw)) := by
  have hdenied : execute sampleRuntime sampleUrls sampleRegistry
      (sampleCall (String.ofList (List.replicate 109 'a'))) sampleRoe { maxRequests := 1 }
      (some sampleDraw) = refuse sampleRuntime sampleUrls
        (sampleCall (String.ofList (List.replicate 109 'a'))) sampleRoe { maxRequests := 1 }
        (some sampleDraw) ⟨["native tool is not registered"],
          String.ofList (List.replicate 109 'a'), none, 0, none⟩ :=
    execute_of_denied (by rfl) rfl
  rw [hdenied, audited_of_not_started refuse_not_started, refused_iff]
  rintro ⟨-, hlength⟩
  revert hlength
  decide +kernel

end Aotp.Tools
