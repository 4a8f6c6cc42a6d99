import Aotp.Agentic.Loop
import Aotp.Tools.Ledger

/-!
# The agentic loop contains its model

* `Seen`, `seen` — what a trace shows of the tools: the proposals run, the objectives done, the
  requests spent.
* `MayInvoke` — the calls the policy permits; `watch` — the monitor that asks for it.
* `Sound` — the variables of the loop agree with what has been seen; `runIteration_sound` is the
  step lemma, `runIterations_sound` the run lemma.
* `agentic_contained` — **whatever the supervisor proposes and the tools return**.
-/

namespace Aotp.Agentic

open PyData Aotp.Tools Effects

/-! ### What a trace shows -/

/-- The calls of the tools so far. -/
structure Seen where
  calls : List ModelProposal := []
  /-- The objectives whose tool has returned. -/
  done : List String := []
  requests : ℤ := 0

/-- After one more step. -/
def Seen.after (m : Seen) : Step → Seen
  | ⟨.invoke p, .ok r⟩ => ⟨m.calls ++ [p], m.done ++ [p.objectiveId], m.requests + r.requestCount⟩
  | ⟨.invoke p, .error _⟩ => { m with calls := m.calls ++ [p] }
  | _ => m

/-- What a trace shows. -/
def seen (tr : List Step) : Seen := tr.foldl Seen.after {}

/-- **The call is permitted**: it is an approved objective that has not been run, and its requests
are within the budget of the campaign. -/
structure MayInvoke (policy : AgentCampaignPolicy) (m : Seen) (p : ModelProposal) : Prop where
  approved : IsApproved policy (m.calls.map (·.objectiveId)) p
  affordable : m.requests + predictedRequests p.toolName ≤ policy.maxRequests

/-- The monitor of the tools: every answer is legal. -/
def watch (policy : AgentCampaignPolicy) : Monitor Op Res Seen where
  allowed m
    | .invoke p => MayInvoke policy m p
    | _ => True
  legal _ _ _ := True
  next m o r := m.after ⟨o, r⟩

variable {policy : AgentCampaignPolicy}

theorem watch_legal (m : Seen) (tr : List Step) : (watch policy).Legal m tr := by
  induction tr generalizing m with
  | nil => trivial
  | cons step tr ih => exact ⟨trivial, ih _⟩

theorem watch_run (tr : List Step) : (watch policy).run {} tr = seen tr := rfl

/-! ### The loop agrees with what has been seen -/

/-- **The variables of the loop** say which objectives were run, and what they cost. -/
structure Sound (policy : AgentCampaignPolicy) (s : LoopState) (m : Seen) : Prop where
  calls : m.calls.map (·.objectiveId) = s.completed
  done : m.done = s.completed
  requests : m.requests = s.requestCount
  nodup : s.completed.Nodup
  approved : ∀ id ∈ s.completed, id ∈ policy.objectives.map (·.objectiveId)

theorem Sound.start : Sound policy {} {} := ⟨rfl, rfl, rfl, List.nodup_nil, nofun⟩

/-- Writing a record shows nothing of the tools. -/
theorem record_keeps (R : LoopState → Seen → Prop) (area name : String) (fields : Dict) :
    Keeps (watch policy) R (record area name fields) := by
  unfold record write lift
  refine keeps_bind (keeps_call fun s m h => ⟨trivial, fun _ _ => h⟩) fun now => ?_
  refine keeps_bind (keeps_attempt _) fun _ => ?_
  refine keeps_bind (keeps_call fun s m h => ⟨trivial, fun _ _ => h⟩) fun written => ?_
  exact keeps_attempt _

/-- A record followed by an exception never comes back. -/
theorem record_throw {α : Type} {s : LoopState} {m : Seen} {area name : String} {fields : Dict}
    {e : Raised} {Q : Except Raised α → LoopState → Seen → Prop}
    (hQ : ∀ e s' m', Q (.error e) s' m') :
    Post (watch policy) (record area name fields >>= fun _ => throw e) s Q m := by
  refine post_seq (fun _ _ _ => True) ?_ (fun _ s' m' _ => hQ e s' m') fun e' s' m' _ => hQ e' s' m'
  exact record_keeps (fun _ _ => True) area name fields s m trivial

/-- A denial never comes back. -/
theorem deny_never {α : Type} {s : LoopState} {m : Seen} {i : ℕ} {proposal : ModelProposal}
    {decision : ProposalDecision} {msg : String} {Q : Except Raised α → LoopState → Seen → Prop}
    (hQ : ∀ e s' m', Q (.error e) s' m') :
    Post (watch policy) (deny i proposal decision msg : Code α) s Q m :=
  record_throw hQ

/-- A proposal is asked for without running a tool. -/
theorem propose_spec {s : LoopState} {m : Seen} (i : ℕ) (h : Sound policy s m) :
    Post (watch policy) (propose policy i s) s
      (fun r s' m' => ∀ p, r = .ok p → s' = s ∧ Sound policy s m') m := by
  unfold propose
  refine post_call_bind trivial fun answer _ => ?_
  cases answer with
  | ok p =>
    intro p' _
    exact ⟨rfl, h⟩
  | error e => exact record_throw fun _ _ _ _ hok => by cases hok

/-- A permitted tool that returns has been seen; one that fails never comes back. -/
theorem invokeTool_spec {s : LoopState} {m : Seen} (i : ℕ) {p : ModelProposal}
    (h : MayInvoke policy m p) :
    Post (watch policy) (invokeTool i p) s
      (fun r s' m' => ∀ result, r = .ok result → s' = s ∧ m' = m.after ⟨.invoke p, .ok result⟩)
      m := by
  unfold invokeTool
  refine post_call_bind h fun answer _ => ?_
  cases answer with
  | ok result =>
    intro result' hok
    obtain rfl := Except.ok.inj hok
    exact ⟨rfl, rfl⟩
  | error e =>
    have hrecord : ∀ (b : Bool) (e' : Raised), Post (watch policy)
        (if b then (do
          let _ ← record "evidence" (iterationName i "failed")
            [("iteration", .int i), ("proposal", .obj p.modelDump),
              ("policy_decision", .str "allowed"), ("executed", .bool true),
              ("result", .str "bounded native tool failed")]
          throw (.campaign "bounded native tool failed"))
          else throw e' : Code ToolExecutionResult) s
        (fun r s' m' => ∀ result, r = .ok result →
          s' = s ∧ m' = m.after ⟨.invoke p, .ok result⟩)
        (m.after ⟨.invoke p, .error e⟩) := by
      intro b e'
      cases b with
      | true => exact record_throw fun _ _ _ _ hok => by cases hok
      | false => exact fun _ hok => by cases hok
    cases e with
    | denied summary => exact fun _ hok => by cases hok
    | nativeTool msg => exact hrecord _ _
    | exc e => exact hrecord _ _

/-- **What is left of an iteration once its tool has returned**: the objective is completed, and its
requests are counted. -/
theorem recordResult_spec {s : LoopState} {m : Seen} (i : ℕ) {p : ModelProposal}
    {decision : ProposalDecision} {result : ToolExecutionResult} (h : Sound policy s m)
    (hnew : p.objectiveId ∉ s.completed)
    (happroved : p.objectiveId ∈ policy.objectives.map (·.objectiveId)) :
    Post (watch policy) (recordResult policy i p decision result) s
      (fun r s' m' => r = .ok () → Sound policy s' m') (m.after ⟨.invoke p, .ok result⟩) := by
  unfold recordResult
  refine post_attempt_bind (fun _ _ => ?_) fun _ _ hok => by cases hok
  refine post_attempt_bind (fun _ _ => ?_) fun _ _ hok => by cases hok
  rw [post_modify_bind]
  -- from here on only the two records and the summary can raise
  let counted : LoopState := { s with requestCount := s.requestCount + result.requestCount }
  refine post_seq (fun _ s' m' => s' = counted ∧ m' = m.after ⟨.invoke p, .ok result⟩)
    (record_keeps _ _ _ _ _ _ ⟨rfl, rfl⟩) ?_ fun _ _ _ _ hok => by cases hok
  rintro artifact _ _ ⟨rfl, rfl⟩
  refine post_attempt_bind (fun summary _ => ?_) fun _ _ hok => by cases hok
  rw [post_modify_bind, post_get_bind]
  refine post_seq (fun _ s' m' => Sound policy s' m') (record_keeps _ _ _ _ _ _ ?_)
    (fun _ _ _ h _ => h) fun _ _ _ _ hok => by cases hok
  have hadd : addTo s.completed p.objectiveId = s.completed ++ [p.objectiveId] := if_neg hnew
  refine ⟨?_, ?_, ?_, ?_, ?_⟩
  · show (m.calls ++ [p]).map _ = addTo s.completed p.objectiveId
    rw [hadd, List.map_append, h.calls]
    rfl
  · show m.done ++ [p.objectiveId] = addTo s.completed p.objectiveId
    rw [hadd, h.done]
  · show m.requests + result.requestCount = s.requestCount + result.requestCount
    rw [h.requests]
  · show (addTo s.completed p.objectiveId).Nodup
    rw [hadd]
    exact List.nodup_append.mpr ⟨h.nodup, List.nodup_singleton _, fun a ha b hb heq =>
      hnew (by rwa [← List.mem_singleton.mp hb, ← heq])⟩
  · intro id hid
    have hid' : id ∈ addTo s.completed p.objectiveId := hid
    rw [hadd, List.mem_append, List.mem_singleton] at hid'
    rcases hid' with hid' | rfl
    · exact h.approved id hid'
    · exact happroved

/-- **One iteration**: every tool it runs is permitted, and if it comes to its end the loop agrees
with what has been seen. -/
theorem runIteration_sound {s : LoopState} {m : Seen} (i : ℕ) (h : Sound policy s m) :
    Post (watch policy) (runIteration policy i) s
      (fun r s' m' => r = .ok () → Sound policy s' m') m := by
  unfold runIteration
  rw [post_get_bind]
  split_ifs with hremaining
  · exact fun hok => by cases hok
  refine post_seq _ (propose_spec i h) ?_ fun _ _ _ _ hok => by cases hok
  intro p s' m' hproposed
  obtain ⟨rfl, h'⟩ := hproposed p rfl
  dsimp only
  split_ifs with hdecision hbudget
  · exact deny_never fun _ _ _ hok => by cases hok
  · exact deny_never fun _ _ _ hok => by cases hok
  have hgate : IsApproved policy s'.completed p := isApproved_of_allowed (by simpa using hdecision)
  have hmay : MayInvoke policy m' p := by
    refine ⟨?_, ?_⟩
    · rw [h'.calls]
      exact hgate
    · rw [h'.requests]
      exact not_lt.mp hbudget
  obtain ⟨o, ho, hid, hnew, -⟩ := hgate
  refine post_seq _ (invokeTool_spec i hmay) ?_ fun _ _ _ _ hok => by cases hok
  intro result s'' m'' hinvoked
  obtain ⟨rfl, rfl⟩ := hinvoked result rfl
  refine recordResult_spec i h' ?_ ?_
  · rw [hid]
    exact hnew
  · rw [hid]
    exact List.mem_map_of_mem ho

/-- **All iterations**, by induction on those left. -/
theorem runIterations_sound {s : LoopState} {m : Seen} (is : List ℕ) (h : Sound policy s m) :
    Post (watch policy) (runIterations policy is) s
      (fun r s' m' => r = .ok () → Sound policy s' m') m := by
  induction is generalizing s m with
  | nil => exact fun _ => h
  | cons i is ih =>
    unfold runIterations
    exact post_seq _ (runIteration_sound i h) (fun _ _ _ h' => ih (h' rfl))
      fun _ _ _ _ hok => by cases hok

/-- Every approved objective is done. -/
def AllDone (policy : AgentCampaignPolicy) (m : Seen) : Prop :=
  ∀ o ∈ policy.objectives, o.objectiveId ∈ m.done

/-- As many objectives done as there are, none of them twice: all of them. -/
theorem Sound.allDone {s : LoopState} {m : Seen} (h : Sound policy s m)
    (hlength : s.completed.length = policy.objectives.length) : AllDone policy m := by
  have hsub : s.completed.Subperm (policy.objectives.map (·.objectiveId)) :=
    List.subperm_of_subset h.nodup h.approved
  have hperm : s.completed.Perm (policy.objectives.map (·.objectiveId)) :=
    hsub.perm_of_length_le (by rw [List.length_map, hlength])
  intro o ho
  rw [h.done]
  exact hperm.mem_iff.mpr (List.mem_map_of_mem ho)

/-- **The whole run.** -/
theorem runAgenticCampaign_sound (rt : Runtime) (hthree : policy.objectives.length = 3) :
    Post (watch policy) (runAgenticCampaign rt policy) {}
      (fun r _ m' => ∀ result, r = .ok result → AllDone policy m') {} := by
  unfold runAgenticCampaign
  refine post_call_bind trivial fun started _ => ?_
  refine post_attempt_bind (fun status _ => ?_) fun _ _ _ hok => by cases hok
  refine post_seq (fun _ s' m' => Sound policy s' m') (record_keeps _ _ _ _ _ _ Sound.start) ?_
    fun _ _ _ _ _ hok => by cases hok
  intro _ s m h
  refine post_seq _ (runIterations_sound _ h) ?_ fun _ _ _ _ _ hok => by cases hok
  intro _ s m h
  replace h := h rfl
  rw [post_get_bind]
  refine post_attempt_bind (fun _ hcontract => ?_) fun _ _ _ hok => by cases hok
  have hcompleted : s.completed.length = 3 := by
    have hboth := guardE_eq_ok.mp hcontract
    simp only [Bool.and_eq_true, beq_iff_eq] at hboth
    exact hboth.1
  have hdone : AllDone policy m := h.allDone (hcompleted.trans hthree.symm)
  have hkeeps : ∀ area name content, Keeps (watch policy) (fun _ m' => AllDone policy m')
      (write area name content) := by
    intro area name content
    unfold write lift
    refine keeps_bind (keeps_attempt _) fun _ => ?_
    exact keeps_bind (keeps_call fun s m h => ⟨trivial, fun _ _ => h⟩) fun _ => keeps_attempt _
  refine post_seq _ (hkeeps _ _ _ s m hdone) ?_ fun _ _ _ _ _ hok => by cases hok
  intro report s' m' hdone'
  refine post_seq _ (hkeeps _ _ _ s' m' hdone') ?_ fun _ _ _ _ _ hok => by cases hok
  exact fun _ _ _ h _ _ => h

/-- An accepted policy has three objectives. -/
theorem length_of_postInit {rt : Runtime} {urls : PathUrls}
    (hp : policy.postInit rt urls = .ok ()) : policy.objectives.length = 3 := by
  simp only [AgentCampaignPolicy.postInit, bind_eq_ok, guardE_eq_ok, exists_const] at hp
  obtain ⟨-, _, -, -, -, -, -, -, -, hthree, -⟩ := hp
  simpa using hthree

/-- **The agentic loop contains its model.** Cut anywhere, whatever the supervisor has proposed and
the tools have returned, every call of a tool was one of an approved objective that no earlier call
was of, with its tool, its arguments and the target of the campaign, and within the request budget;
and a run that returns completed has done every approved objective. -/
theorem agentic_contained {rt : Runtime} {urls : PathUrls}
    (hp : policy.postInit rt urls = .ok ()) {tr : List Step}
    {q : Prog Op Res (Except Raised AgenticCampaignResult × LoopState)}
    (h : Reach (Proc.start (runAgenticCampaign rt policy) {}) tr q) :
    (∀ tr₁ p r tr₂, tr = tr₁ ++ ⟨.invoke p, r⟩ :: tr₂ → MayInvoke policy (seen tr₁) p) ∧
      ∀ result s, q = .pure (.ok result, s) → result.status = "completed" →
        AllDone policy (seen tr) := by
  obtain ⟨hallowed, hend⟩ := wp_sound (watch policy)
    (runAgenticCampaign_sound rt (length_of_postInit hp)) h (watch_legal _ _)
  refine ⟨?_, ?_⟩
  · rintro tr₁ p r tr₂ rfl
    exact Monitor.Allowed.of_append (watch policy) hallowed
  · rintro result s rfl -
    exact hend result rfl

/-! ### A run -/

/-- `urlsplit` of one origin. -/
def originUrls : PathUrls where
  urlsplit _ := .ok { scheme := "https", hostname := some "example.com" }
  path _ := "/"

/-- The policy of the origin. -/
def samplePolicy : Except Exc AgentCampaignPolicy :=
  buildSprint14Policy originUrls "campaign-1" "program-1" "target-1" "https://example.com/" "ref-1"
    true

/-- The proposal that copies an objective. -/
def copied (o : CampaignObjective) : ModelProposal :=
  let (tool, arguments) : ToolName × ProposalArguments :=
    if o.toolName = "tls_metadata" then (.tlsMetadata, .tls "example.com" 443 "example.com")
    else if o.toolName = "well_known_text" then
      (.wellKnownText, .wellKnown "https://example.com")
    else (.httpMetadata, .http "https://example.com/")
  ⟨o.objectiveId, tool, "target-1", arguments, "next"⟩

/-- A supervisor that copies the last remaining objective, tools that return, a workspace that
writes. -/
def obliging (_ : Unit) : (o : Op) → Res o × Unit
  | .start => (.ok (.obj []), ())
  | .propose _ remaining _ =>
    (match remaining.getLast? with
      | some o => .ok (copied o)
      | none => .error .typeError, ())
  | .invoke p => (.ok ⟨p.toolName.value, predictedRequests p.toolName, .obj []⟩, ())
  | .write _ name _ => (.ok ⟨name, ""⟩, ())
  | .utcNow => ("2026-01-01T00:00:00+00:00", ())

set_option maxRecDepth 20000 in
/-- The policy is accepted, and the run comes to its end. -/
theorem obliging_completes : (samplePolicy.toOption.any fun policy =>
    (policy.postInit sampleRuntime originUrls).toOption.isSome &&
      (exec obliging (Proc.start (runAgenticCampaign sampleRuntime policy) {}) ()).2.1.1.toOption.any
        fun result => result.status == "completed") = true := by
  decide +kernel

/-- A run that completes. -/
theorem agentic_contained_obliging : ∃ policy tr result s,
    Reach (Proc.start (runAgenticCampaign sampleRuntime policy) {}) tr
      (.pure (.ok result, s)) ∧ AllDone policy (seen tr) := by
  have hruns := obliging_completes
  cases hpolicy : samplePolicy with
  | error e =>
    rw [hpolicy] at hruns
    cases hruns
  | ok policy =>
    rw [hpolicy] at hruns
    simp only [Except.toOption, Option.any_some, Bool.and_eq_true] at hruns
    obtain ⟨haccepted, hresult⟩ := hruns
    have hp : policy.postInit sampleRuntime originUrls = .ok () := by
      cases hinit : policy.postInit sampleRuntime originUrls with
      | ok u => rfl
      | error e =>
        rw [hinit] at haccepted
        cases haccepted
    have hreach := exec_reach obliging (Proc.start (runAgenticCampaign sampleRuntime policy) {}) ()
    cases hend : (exec obliging (Proc.start (runAgenticCampaign sampleRuntime policy) {}) ()).2.1 with
    | mk r s =>
      rw [hend] at hresult hreach
      cases r with
      | error e => cases hresult
      | ok result =>
        refine ⟨policy, _, result, s, hreach, ?_⟩
        exact (agentic_contained hp hreach).2 result s rfl (by simpa using hresult)

end Aotp.Agentic
