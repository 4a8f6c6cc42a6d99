import Aotp.Campaign.Conformance

/-!
# Histories of a campaign

* `Ran` — one call in a world: a trace of its code with answers the world can give, cut anywhere.
* `History` — calls one after another, each to its end, from a world without files.
* `Tracks` — the two files hold what a call has committed: the log is the events of the checkpoint
  and those appended since.
* `Ran.tracks`, `History.tracks` — **this holds at every cut of every call of every history**.
-/

namespace Aotp.Campaign

open PyData Aotp.Gate Effects HashChain

/-! ### The world around a call -/

/-- What the world may answer besides the two files: the clock of an invocation grows. -/
def ambient (sur : Surroundings) : Monitor Op Res (Option ℚ) where
  allowed _ _ := True
  legal t₀
    | .clock, t => ∀ t', t₀ = some t' → sur.Elapses t' t
    | .observe, o => sur.observes o
    | .artifactFiles, f => sur.files f
    | .resolveArtifact artifact, path => sur.resolves artifact path
    | _, _ => True
  next t₀
    | .clock, t => some t
    | _, _ => t₀

variable (site : Site) (campaign : Dict) (sur : Surroundings)

/-- **A call in a world**, performed as far as `tr`, with `q` left of it. -/
structure Ran (c : Call) (w : World) (tr : List Step)
    (q : Prog Op Res (Except Exc CampaignState × Unit)) : Prop where
  reach : Reach (Proc.start (c.perform site campaign) ()) tr q
  legal : (world site.rt).Legal w tr
  ambient : (ambient sur).Legal none tr

/-- **A history**: calls one after another, each to its end. -/
inductive History : List (Call × List Step) → World → Prop
  | nil : History [] World.empty
  | snoc {h : List (Call × List Step)} {w : World} {c : Call} {tr : List Step}
      {r : Except Exc CampaignState × Unit} (hist : History h w)
      (ran : Ran site campaign sur c w tr (.pure r)) :
      History (h ++ [(c, tr)]) ((world site.rt).run w tr)

/-! ### What the files hold -/

/-- The log file with some events; there is none without events. -/
def logOf (es : List CampaignEvent) : LogFile :=
  if es = [] then .missing else .lines (es.map CampaignEvent.line)

theorem logOf_append (es : List CampaignEvent) (e : CampaignEvent) :
    (logOf es).append e.line = logOf (es ++ [e]) := by
  cases es with
  | nil => rfl
  | cons e' es => simp [logOf, LogFile.append]

/-- The events of the last checkpoint. -/
def Progress.committed (g : Progress) : List CampaignEvent :=
  match g.base with
  | some b => b.events
  | none => []

/-- **The files hold what has been committed**, and the clock is that of the call. -/
structure Tracks (ids : List String) (g : Progress) (w : World × Option ℚ) : Prop where
  checkpoint : w.1.checkpoint = g.base
  log : w.1.log = logOf (g.committed ++ g.pending)
  clock : w.2 = g.clock
  persisted : ∀ b, g.base = some b → Persisted site ids b

variable {site campaign sur} {ids : List String} {c : Call} {g : Progress} {w : World}

/-- What a commit leaves. -/
theorem Commit.persisted {p : CampaignDefinition} {objectives : List Dict}
    (hshape : CampaignShape campaign p objectives) {s : CampaignState}
    (h : Commit site campaign sur c g s)
    (hg : ∀ b, g.base = some b → Persisted site (objectives.map rawId) b) :
    Persisted site (objectives.map rawId) s ∧ s.events = g.committed ++ g.pending := by
  obtain ⟨b, m, horigin, hm, hmoved, hevents⟩ := h
  rcases horigin with hbase | ⟨hbase, hinitial⟩
  · refine ⟨(hg b hbase).toCoherent.moved hshape.goodIds hm hmoved, ?_⟩
    rw [hevents, Progress.committed, hbase]
  · refine ⟨(hinitial.coherent hshape).moved hshape.goodIds hm hmoved, ?_⟩
    have hempty : b.events = [] := hinitial.events
    rw [hevents, Progress.committed, hbase, hempty]

/-- **A step of a call**: the world's answer is one the monitor expects, and the files follow. -/
theorem Tracks.step {p : CampaignDefinition} {objectives : List Dict}
    (hshape : CampaignShape campaign p objectives) {x : World × Option ℚ} {o : Op} {r : Res o}
    (h : Tracks site (objectives.map rawId) g x) (ha : (commits site campaign sur c).allowed g o)
    (hl : ((world site.rt).prod (Campaign.ambient sur)).legal x o r) :
    (commits site campaign sur c).legal g o r ∧
      Tracks site (objectives.map rawId) ((commits site campaign sur c).next g o r)
        (((world site.rt).prod (Campaign.ambient sur)).next x o r) := by
  obtain ⟨hw, hamb⟩ := hl
  have hsame : Tracks site (objectives.map rawId) g x := h
  cases o with
  | clock =>
    refine ⟨fun t₀ ht₀ => hamb t₀ (h.clock.trans ht₀), h.checkpoint, h.log, rfl, h.persisted⟩
  | appendLog e =>
    refine ⟨trivial, h.checkpoint, ?_, h.clock, h.persisted⟩
    show (x.1.log.append e.line) = logOf (g.committed ++ (g.pending ++ [e]))
    rw [h.log, logOf_append, List.append_assoc]
  | saveCheckpoint s =>
    obtain ⟨hpersisted, hevents⟩ := ha.persisted hshape h.persisted
    refine ⟨hw, ?_⟩
    cases r with
    | error e => exact hsame
    | ok u =>
      refine ⟨rfl, ?_, h.clock, ?_⟩
      · show x.1.log = logOf (s.events ++ [])
        rw [h.log, hevents, List.append_nil]
      · rintro b ⟨⟩
        exact hpersisted.saved
  | utcNow => exact ⟨hw, hsame⟩
  | loadCheckpoint => exact ⟨hw.trans h.checkpoint, hsame⟩
  | checkpointExists => exact ⟨hw.trans (congrArg Option.isSome h.checkpoint), hsame⟩
  | observe => exact ⟨hamb, hsame⟩
  | artifactFiles => exact ⟨hamb, hsame⟩
  | resolveArtifact artifact => exact ⟨hamb, hsame⟩
  | uuid4 => exact ⟨trivial, hsame⟩
  | readScope => exact ⟨trivial, hsame⟩
  | logExists => exact ⟨trivial, hsame⟩
  | readLog => exact ⟨trivial, hsame⟩
  | checkpointSha256 => exact ⟨trivial, hsame⟩
  | writeEvidence directory manifest record => exact ⟨trivial, hsame⟩

/-! ### Calls and histories -/

/-- The progress a call starts from. -/
def World.progress (w : World) : Progress := { base := w.checkpoint }

/-- The files between two calls: the log is the events of the checkpoint. -/
structure AtRest (site : Site) (ids : List String) (w : World) : Prop where
  log : w.log = logOf w.progress.committed
  persisted : ∀ b, w.checkpoint = some b → Persisted site ids b

theorem AtRest.empty : AtRest site ids World.empty := by
  refine ⟨?_, fun b hb => ?_⟩
  · show LogFile.missing = logOf []
    rw [logOf, if_pos rfl]
  · cases hb

theorem AtRest.tracks (h : AtRest site ids w) : Tracks site ids w.progress (w, none) := by
  refine ⟨rfl, ?_, rfl, h.persisted⟩
  show w.log = logOf (_ ++ [])
  rw [List.append_nil]
  exact h.log

theorem Tracks.atRest {t : Option ℚ} (h : Tracks site ids g (w, t)) (hpending : g.pending = []) :
    AtRest site ids w := by
  have hbase : w.checkpoint = g.base := h.checkpoint
  refine ⟨?_, fun b hb => h.persisted b (hbase.symm.trans hb)⟩
  have hlog : w.log = logOf (g.committed ++ g.pending) := h.log
  rw [hlog, hpending, List.append_nil, Progress.committed, Progress.committed, World.progress, hbase]

variable {p : CampaignDefinition} {objectives : List Dict} {tr : List Step}
  {q : Prog Op Res (Except Exc CampaignState × Unit)}

/-- **A call, cut anywhere**: what it has saved was allowed, the files hold what it has committed,
and what is left of it will come to rest. -/
theorem Ran.conforms (h : Ran site campaign sur c w tr q) (hshape : CampaignShape campaign p objectives)
    (hw : AtRest site (objectives.map rawId) w) :
    let g := (commits site campaign sur c).run w.progress tr
    (commits site campaign sur c).Legal w.progress tr ∧
      (commits site campaign sur c).Allowed w.progress tr ∧
      wp (commits site campaign sur c) q (fun r g' => ReturnPost site (objectives.map rawId)
        (fun s' => ∀ args, c.args? = some args → ∃ b, w.progress.Origin site campaign b ∧
          Invocation site campaign sur c args b s') r.1 g') g ∧
      Tracks site (objectives.map rawId) g
        ((world site.rt).run w tr, (Campaign.ambient sur).run none tr) := by
  have hlegal := (Monitor.prod_legal (world site.rt) (Campaign.ambient sur)).mpr
    ⟨h.legal, h.ambient⟩
  have hsim := wp_simulates (commits site campaign sur c)
    (fun m x o r hR ha hl => hR.step hshape ha hl)
    (perform_post hshape rfl hw.persisted) hw.tracks h.reach hlegal
  rwa [Monitor.prod_run] at hsim

/-- A call may be cut anywhere. -/
theorem Ran.cut {tr' : List Step} (h : Ran site campaign sur c w (tr ++ tr') q) :
    ∃ q', Ran site campaign sur c w tr q' := by
  obtain ⟨q', hreach, -⟩ := h.reach.cut
  exact ⟨q', hreach, ((Monitor.legal_append _).mp h.legal).1, ((Monitor.legal_append _).mp h.ambient).1⟩

/-- **Every save of a call** commits what an enabled move leaves, and succeeds. -/
theorem Ran.saves {tr' : List Step} {s : CampaignState} {r : Except Exc Unit}
    (h : Ran site campaign sur c w (tr ++ ⟨.saveCheckpoint s, r⟩ :: tr') q)
    (hshape : CampaignShape campaign p objectives) (hw : AtRest site (objectives.map rawId) w) :
    let g := (commits site campaign sur c).run w.progress tr
    Commit site campaign sur c g s ∧ (∀ b, g.base = some b → Persisted site (objectives.map rawId) b) ∧
      Persisted site (objectives.map rawId) s ∧ r = .ok () := by
  obtain ⟨-, hallowed, -⟩ := h.conforms hshape hw
  have hcommit : Commit site campaign sur c _ s :=
    Monitor.Allowed.of_append (commits site campaign sur c) hallowed
  obtain ⟨q', hcut⟩ := h.cut
  obtain ⟨-, -, -, htracks⟩ := hcut.conforms hshape hw
  obtain ⟨hpersisted, -⟩ := hcommit.persisted hshape htracks.persisted
  refine ⟨hcommit, htracks.persisted, hpersisted, ?_⟩
  have hr : r = validateState site.rt s := ((Monitor.legal_append _).mp h.legal).2.1
  exact hr.trans ((validateState_eq_ok site.rt).mpr (hpersisted.valid hshape.goodIds))

/-- A call that has ended leaves the files at rest. -/
theorem Ran.atRest {r : Except Exc CampaignState × Unit}
    (h : Ran site campaign sur c w tr (.pure r)) (hshape : CampaignShape campaign p objectives)
    (hw : AtRest site (objectives.map rawId) w) :
    AtRest site (objectives.map rawId) ((world site.rt).run w tr) := by
  obtain ⟨-, -, hend, htracks⟩ := h.conforms hshape hw
  refine htracks.atRest ?_
  obtain ⟨r | r, u⟩ := r
  · exact hend
  · exact hend.1.pending

/-- **Between two calls of a history the files are at rest.** -/
theorem History.atRest {hist : List (Call × List Step)} (h : History site campaign sur hist w)
    (hshape : CampaignShape campaign p objectives) : AtRest site (objectives.map rawId) w := by
  induction h with
  | nil => exact .empty
  | snoc _ ran ih => exact ran.atRest hshape ih

/-- Every call of a history ran in a world at rest. -/
theorem History.call {hist : List (Call × List Step)} (h : History site campaign sur hist w)
    (hshape : CampaignShape campaign p objectives) {x : Call × List Step} (hx : x ∈ hist) :
    ∃ w' r, AtRest site (objectives.map rawId) w' ∧ Ran site campaign sur x.1 w' x.2 (.pure r) := by
  induction h with
  | nil => cases hx
  | snoc hist ran ih =>
    rcases List.mem_append.mp hx with hx | hx
    · exact ih hx
    · obtain rfl := List.mem_singleton.mp hx
      exact ⟨_, _, hist.atRest hshape, ran⟩

end Aotp.Campaign
