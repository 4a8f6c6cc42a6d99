import Mathlib

/-!
# Programs with effects, their traces, and monitors

* `Prog Op Res α` — a program over the operations `Op`, each answered by a value of `Res o`; the
  monad of such programs is lawful.
* `Reach p tr q` — `p` performs the steps `tr` and is left with `q`. A run cut short is a trace
  whose `q` is not finished.
* `Monitor` — an automaton that watches the steps: which answers are `legal`, which operations it
  has `allowed`, and its `next` state. `wp` is the weakest precondition against a monitor, and
  `wp_sound` turns it into a statement about every trace: **every step the program performs is
  allowed, at every cut**.
* `simulates` — two monitors that watch the same trace, related at every step.
* `Proc` — programs that carry a state and may raise; the state survives the exception. `Post` is
  `wp` for them; `Ensures` speaks of what they return.
* `exec` — the run of a program against a deterministic environment.
* `left`, `right` — the two sides of an interleaving, a list of tagged steps.
-/

namespace Effects

variable {Op : Type} {Res : Op → Type} {α β : Type}

/-! ### Programs -/

/-- A program that asks for operations and goes on with their answers. -/
inductive Prog (Op : Type) (Res : Op → Type) (α : Type) where
  | pure (a : α)
  | op (o : Op) (k : Res o → Prog Op Res α)

/-- A performed operation with its answer. -/
abbrev Step (Op : Type) (Res : Op → Type) := (o : Op) × Res o

namespace Prog

/-- Sequencing. -/
def bind (f : α → Prog Op Res β) : Prog Op Res α → Prog Op Res β
  | .pure a => f a
  | .op o k => .op o fun r => bind f (k r)

instance : Monad (Prog Op Res) where
  pure := .pure
  bind p f := p.bind f

/-- Perform one operation. -/
def perform (o : Op) : Prog Op Res (Res o) := .op o .pure

@[simp] theorem pure_bind' (a : α) (f : α → Prog Op Res β) :
    (Prog.pure a : Prog Op Res α) >>= f = f a := rfl

@[simp] theorem op_bind (o : Op) (k : Res o → Prog Op Res α) (f : α → Prog Op Res β) :
    (Prog.op o k) >>= f = .op o fun r => k r >>= f := rfl

theorem bind_pure' (p : Prog Op Res α) : p >>= Prog.pure = p := by
  induction p with
  | pure a => rfl
  | op o k ih =>
    simp only [op_bind]
    congr 1
    funext r
    exact ih r

theorem bind_assoc' {γ : Type} (p : Prog Op Res α) (f : α → Prog Op Res β)
    (g : β → Prog Op Res γ) : p >>= f >>= g = p >>= fun a => f a >>= g := by
  induction p with
  | pure a => rfl
  | op o k ih =>
    simp only [op_bind]
    congr 1
    funext r
    exact ih r

instance : LawfulMonad (Prog Op Res) := LawfulMonad.mk' _ bind_pure' (fun _ _ => rfl) bind_assoc'

end Prog

/-! ### Traces -/

/-- `p` performs `tr` and is left with `q`. -/
inductive Reach : Prog Op Res α → List (Step Op Res) → Prog Op Res α → Prop
  | refl (p : Prog Op Res α) : Reach p [] p
  | step {o : Op} {k : Res o → Prog Op Res α} {r : Res o} {tr : List (Step Op Res)}
      {q : Prog Op Res α} : Reach (k r) tr q → Reach (.op o k) (⟨o, r⟩ :: tr) q

theorem Reach.append {p q r : Prog Op Res α} {tr tr' : List (Step Op Res)}
    (h : Reach p tr q) (h' : Reach q tr' r) : Reach p (tr ++ tr') r := by
  induction h with
  | refl => exact h'
  | step _ ih => exact .step (ih h')

/-- A trace may be cut anywhere. -/
theorem Reach.cut {p r : Prog Op Res α} {tr tr' : List (Step Op Res)}
    (h : Reach p (tr ++ tr') r) : ∃ q, Reach p tr q ∧ Reach q tr' r := by
  induction tr generalizing p with
  | nil => exact ⟨p, .refl p, h⟩
  | cons s tr ih =>
    cases h with
    | step h =>
      obtain ⟨q, hq, hr⟩ := ih h
      exact ⟨q, .step hq, hr⟩

/-- A program is deterministic: its steps tell what it is left with. -/
theorem Reach.unique {p q q' : Prog Op Res α} {tr : List (Step Op Res)} (h : Reach p tr q)
    (h' : Reach p tr q') : q = q' := by
  induction h with
  | refl =>
    cases h' with
    | refl => rfl
  | step _ ih =>
    cases h' with
    | step h' => exact ih h'

/-! ### Monitors -/

/-- An automaton over the steps of a program. -/
structure Monitor (Op : Type) (Res : Op → Type) (σ : Type) where
  /-- The operations the program may perform. -/
  allowed : σ → Op → Prop
  /-- The answers the environment may give. -/
  legal : σ → (o : Op) → Res o → Prop
  /-- The state after a step. -/
  next : σ → (o : Op) → Res o → σ

namespace Monitor

variable {σ τ : Type} (M : Monitor Op Res σ) (N : Monitor Op Res τ)

/-- The state after a trace. -/
def run (m : σ) (tr : List (Step Op Res)) : σ := tr.foldl (fun m s => M.next m s.1 s.2) m

/-- Every answer of the trace is legal. -/
def Legal : σ → List (Step Op Res) → Prop
  | _, [] => True
  | m, ⟨o, r⟩ :: tr => M.legal m o r ∧ Legal (M.next m o r) tr

/-- Every operation of the trace is allowed. -/
def Allowed : σ → List (Step Op Res) → Prop
  | _, [] => True
  | m, ⟨o, r⟩ :: tr => M.allowed m o ∧ Allowed (M.next m o r) tr

@[simp] theorem run_nil (m : σ) : M.run m [] = m := rfl

@[simp] theorem run_cons (m : σ) (s : Step Op Res) (tr : List (Step Op Res)) :
    M.run m (s :: tr) = M.run (M.next m s.1 s.2) tr := rfl

theorem run_append (m : σ) (tr tr' : List (Step Op Res)) :
    M.run m (tr ++ tr') = M.run (M.run m tr) tr' := by
  simp [run, List.foldl_append]

theorem legal_append {m : σ} {tr tr' : List (Step Op Res)} :
    M.Legal m (tr ++ tr') ↔ M.Legal m tr ∧ M.Legal (M.run m tr) tr' := by
  induction tr generalizing m with
  | nil => simp [Legal]
  | cons s tr ih => simp [Legal, ih, and_assoc]

theorem allowed_append {m : σ} {tr tr' : List (Step Op Res)} :
    M.Allowed m (tr ++ tr') ↔ M.Allowed m tr ∧ M.Allowed (M.run m tr) tr' := by
  induction tr generalizing m with
  | nil => simp [Allowed]
  | cons s tr ih => simp [Allowed, ih, and_assoc]

/-- **Two monitors on one trace**: a relation that every step legal for both and allowed by the
first preserves holds to the end of the trace. -/
theorem simulates {R : σ → τ → Prop}
    (hstep : ∀ m n o r, R m n → M.allowed m o → M.legal m o r → N.legal n o r →
      R (M.next m o r) (N.next n o r))
    {m : σ} {n : τ} {tr : List (Step Op Res)} (h : R m n) (ha : M.Allowed m tr)
    (hm : M.Legal m tr) (hn : N.Legal n tr) : R (M.run m tr) (N.run n tr) := by
  induction tr generalizing m n with
  | nil => exact h
  | cons s tr ih => exact ih (hstep m n s.1 s.2 h ha.1 hm.1 hn.1) ha.2 hm.2 hn.2

/-- Two monitors watching together. -/
def prod : Monitor Op Res (σ × τ) where
  allowed m o := M.allowed m.1 o ∧ N.allowed m.2 o
  legal m o r := M.legal m.1 o r ∧ N.legal m.2 o r
  next m o r := (M.next m.1 o r, N.next m.2 o r)

theorem prod_run (m : σ) (n : τ) (tr : List (Step Op Res)) :
    (M.prod N).run (m, n) tr = (M.run m tr, N.run n tr) := by
  induction tr generalizing m n with
  | nil => rfl
  | cons s tr ih => exact ih _ _

theorem prod_legal {m : σ} {n : τ} {tr : List (Step Op Res)} :
    (M.prod N).Legal (m, n) tr ↔ M.Legal m tr ∧ N.Legal n tr := by
  induction tr generalizing m n with
  | nil => simp [Legal]
  | cons s tr ih =>
    show (M.legal m s.1 s.2 ∧ N.legal n s.1 s.2) ∧ (M.prod N).Legal (_, _) tr ↔ _
    rw [ih]
    simp only [Legal]
    tauto

/-- For a monitor that stands still a trace is legal when its steps are. -/
theorem legal_of_still {m : σ} (hstill : ∀ o r, M.next m o r = m) {tr : List (Step Op Res)}
    (h : ∀ x ∈ tr, M.legal m x.1 x.2) : M.Legal m tr := by
  induction tr with
  | nil => trivial
  | cons x tr ih =>
    refine ⟨h x List.mem_cons_self, ?_⟩
    rw [hstill]
    exact ih fun y hy => h y (List.mem_cons_of_mem _ hy)

/-- Every step of a legal trace is legal where it happens. -/
theorem Legal.of_mem {m : σ} {tr : List (Step Op Res)} (h : M.Legal m tr) {s : Step Op Res}
    (hs : s ∈ tr) : ∃ tr₁ tr₂, tr = tr₁ ++ s :: tr₂ ∧ M.legal (M.run m tr₁) s.1 s.2 := by
  obtain ⟨tr₁, tr₂, rfl⟩ := List.append_of_mem hs
  exact ⟨tr₁, tr₂, rfl, (M.legal_append.mp h).2.1⟩

/-- Every step of an allowed trace is allowed where it happens. -/
theorem Allowed.of_append {m : σ} {tr₁ tr₂ : List (Step Op Res)} {s : Step Op Res}
    (h : M.Allowed m (tr₁ ++ s :: tr₂)) : M.allowed (M.run m tr₁) s.1 :=
  (M.allowed_append.mp h).2.1

end Monitor

/-! ### Weakest preconditions -/

section wp

variable {σ : Type} (M : Monitor Op Res σ)

/-- Every operation `p` performs is allowed, and `Q` holds if it finishes. -/
def wp : Prog Op Res α → (α → σ → Prop) → σ → Prop
  | .pure a, Q, m => Q a m
  | .op o k, Q, m => M.allowed m o ∧ ∀ r, M.legal m o r → wp (k r) Q (M.next m o r)

@[simp] theorem wp_pure (a : α) (Q : α → σ → Prop) (m : σ) :
    wp M (Prog.pure a : Prog Op Res α) Q m = Q a m := rfl

@[simp] theorem wp_op (o : Op) (k : Res o → Prog Op Res α) (Q : α → σ → Prop) (m : σ) :
    wp M (Prog.op o k) Q m =
      (M.allowed m o ∧ ∀ r, M.legal m o r → wp M (k r) Q (M.next m o r)) := rfl

@[simp] theorem wp_bind (p : Prog Op Res α) (f : α → Prog Op Res β) (Q : β → σ → Prop) (m : σ) :
    wp M (p >>= f) Q m ↔ wp M p (fun a m' => wp M (f a) Q m') m := by
  induction p generalizing m with
  | pure a => rfl
  | op o k ih => simp only [Prog.op_bind, wp_op, ih]

theorem wp_mono {p : Prog Op Res α} {Q Q' : α → σ → Prop} {m : σ}
    (h : ∀ a m', Q a m' → Q' a m') (hp : wp M p Q m) : wp M p Q' m := by
  induction p generalizing m with
  | pure a => exact h a m hp
  | op o k ih => exact ⟨hp.1, fun r hr => ih r (hp.2 r hr)⟩

/-- **Soundness**: along every trace with legal answers every operation is allowed, and what is
left still meets its precondition. -/
theorem wp_sound {p q : Prog Op Res α} {Q : α → σ → Prop} {m : σ} {tr : List (Step Op Res)}
    (hp : wp M p Q m) (hr : Reach p tr q) (hl : M.Legal m tr) :
    M.Allowed m tr ∧ wp M q Q (M.run m tr) := by
  induction hr generalizing m with
  | refl p => exact ⟨trivial, hp⟩
  | step h ih =>
    obtain ⟨ha, hq⟩ := ih (hp.2 _ hl.1) hl.2
    exact ⟨⟨hp.1, ha⟩, hq⟩

/-- **Soundness in a world**: the world `W` answers, and a relation between the monitor and the
world makes the answers legal for the monitor. The relation holds at every cut. -/
theorem wp_simulates {τ : Type} {W : Monitor Op Res τ} {R : σ → τ → Prop}
    (hstep : ∀ m w o r, R m w → M.allowed m o → W.legal w o r →
      M.legal m o r ∧ R (M.next m o r) (W.next w o r))
    {p q : Prog Op Res α} {Q : α → σ → Prop} {m : σ} {w : τ} {tr : List (Step Op Res)}
    (hp : wp M p Q m) (hR : R m w) (hr : Reach p tr q) (hw : W.Legal w tr) :
    M.Legal m tr ∧ M.Allowed m tr ∧ wp M q Q (M.run m tr) ∧ R (M.run m tr) (W.run w tr) := by
  induction hr generalizing m w with
  | refl p => exact ⟨trivial, trivial, hp, hR⟩
  | step h ih =>
    obtain ⟨hlegal, hR'⟩ := hstep _ _ _ _ hR hp.1 hw.1
    obtain ⟨hl, ha, hq, hrel⟩ := ih (hp.2 _ hlegal) hR' hw.2
    exact ⟨⟨hlegal, hl⟩, ⟨hp.1, ha⟩, hq, hrel⟩

end wp

/-! ### Programs with a state that may raise -/

section proc

variable {ε S σ : Type}

/-- A program over a mutable state `S` that may raise `ε`; the state survives the exception. -/
abbrev Proc (Op : Type) (Res : Op → Type) (ε S : Type) := ExceptT ε (StateT S (Prog Op Res))

/-- Perform one operation. -/
def call (o : Op) : Proc Op Res ε S (Res o) :=
  ExceptT.lift (StateT.lift (Prog.perform o))

/-- A pure computation that may raise. -/
def attempt (x : Except ε α) : Proc Op Res ε S α := ExceptT.mk (pure x)

/-- The program started in a state. -/
def Proc.start (c : Proc Op Res ε S α) (s : S) : Prog Op Res (Except ε α × S) := c.run.run s

/-- A part of a program over a state of its own, which it returns; its exceptions pass through. -/
def within {T : Type} (t : T) (c : Proc Op Res ε T Unit) : Proc Op Res ε S T :=
  ExceptT.mk (StateT.lift (do
    let r ← Proc.start c t
    match r with
    | (.ok _, t') => pure (.ok t')
    | (.error e, _) => pure (.error e)))

/-- `Q` holds of the result, of the state and of the monitor whenever `c`, started in `s`, ends. -/
def Post (M : Monitor Op Res σ) (c : Proc Op Res ε S α) (s : S)
    (Q : Except ε α → S → σ → Prop) (m : σ) : Prop :=
  wp M (Proc.start c s) (fun r m' => Q r.1 r.2 m') m

variable {M : Monitor Op Res σ} {s : S} {m : σ}

@[simp] theorem post_pure (a : α) (Q : Except ε α → S → σ → Prop) :
    Post M (pure a : Proc Op Res ε S α) s Q m ↔ Q (.ok a) s m := Iff.rfl

@[simp] theorem post_throw (e : ε) (Q : Except ε α → S → σ → Prop) :
    Post M (throw e : Proc Op Res ε S α) s Q m ↔ Q (.error e) s m := Iff.rfl

@[simp] theorem post_get (Q : Except ε S → S → σ → Prop) :
    Post M (get : Proc Op Res ε S S) s Q m ↔ Q (.ok s) s m := Iff.rfl

@[simp] theorem post_modify (f : S → S) (Q : Except ε Unit → S → σ → Prop) :
    Post M (modify f : Proc Op Res ε S Unit) s Q m ↔ Q (.ok ()) (f s) m := Iff.rfl

@[simp] theorem post_attempt (x : Except ε α) (Q : Except ε α → S → σ → Prop) :
    Post M (attempt x : Proc Op Res ε S α) s Q m ↔ Q x s m := Iff.rfl

@[simp] theorem post_call (o : Op) (Q : Except ε (Res o) → S → σ → Prop) :
    Post M (call o : Proc Op Res ε S (Res o)) s Q m ↔
      M.allowed m o ∧ ∀ r, M.legal m o r → Q (.ok r) s (M.next m o r) := Iff.rfl

theorem start_bind (c : Proc Op Res ε S α) (f : α → Proc Op Res ε S β) (s : S) :
    Proc.start (c >>= f) s = Proc.start c s >>= fun r =>
      match r with
      | (.ok a, s') => Proc.start (f a) s'
      | (.error e, s') => Prog.pure (.error e, s') := by
  show (Proc.start c s).bind _ = (Proc.start c s).bind _
  congr 1
  funext r
  rcases r with ⟨r | r, s'⟩ <;> rfl

theorem post_bind (c : Proc Op Res ε S α) (f : α → Proc Op Res ε S β)
    (Q : Except ε β → S → σ → Prop) :
    Post M (c >>= f) s Q m ↔ Post M c s (fun r s' m' =>
      match r with
      | .ok a => Post M (f a) s' Q m'
      | .error e => Q (.error e) s' m') m := by
  simp only [Post, start_bind, wp_bind]
  refine ⟨wp_mono M ?_, wp_mono M ?_⟩ <;>
  · rintro ⟨r | r, s'⟩ m' h <;> exact h

theorem post_mono {c : Proc Op Res ε S α} {Q Q' : Except ε α → S → σ → Prop}
    (h : ∀ r s' m', Q r s' m' → Q' r s' m') (hc : Post M c s Q m) : Post M c s Q' m :=
  wp_mono M (fun r m' => h r.1 r.2 m') hc

/-- Sequencing by the specification of the first part. -/
theorem post_seq {c : Proc Op Res ε S α} {f : α → Proc Op Res ε S β}
    {Q : Except ε β → S → σ → Prop} (R : Except ε α → S → σ → Prop) (hc : Post M c s R m)
    (hok : ∀ a s' m', R (.ok a) s' m' → Post M (f a) s' Q m')
    (herr : ∀ e s' m', R (.error e) s' m' → Q (.error e) s' m') : Post M (c >>= f) s Q m := by
  rw [post_bind]
  refine post_mono (fun r s' m' h => ?_) hc
  cases r with
  | ok a => exact hok a s' m' h
  | error e => exact herr e s' m' h

/-! The rules for the head of a sequence. -/

@[simp] theorem post_pure_bind (a : α) (f : α → Proc Op Res ε S β)
    (Q : Except ε β → S → σ → Prop) : Post M (pure a >>= f) s Q m ↔ Post M (f a) s Q m := by
  rw [post_bind, post_pure]

@[simp] theorem post_throw_bind (e : ε) (f : α → Proc Op Res ε S β)
    (Q : Except ε β → S → σ → Prop) : Post M (throw e >>= f) s Q m ↔ Q (.error e) s m := by
  rw [post_bind, post_throw]

@[simp] theorem post_get_bind (f : S → Proc Op Res ε S β) (Q : Except ε β → S → σ → Prop) :
    Post M (get >>= f) s Q m ↔ Post M (f s) s Q m := by
  rw [post_bind, post_get]

@[simp] theorem post_modify_bind (g : S → S) (f : Unit → Proc Op Res ε S β)
    (Q : Except ε β → S → σ → Prop) :
    Post M (modify g >>= f) s Q m ↔ Post M (f ()) (g s) Q m := by
  rw [post_bind, post_modify]

/-- A pure part either goes on or raises; nothing has happened in between. -/
theorem post_attempt_bind {x : Except ε α} {f : α → Proc Op Res ε S β}
    {Q : Except ε β → S → σ → Prop} (hok : ∀ a, x = .ok a → Post M (f a) s Q m)
    (herror : ∀ e, x = .error e → Q (.error e) s m) : Post M (attempt x >>= f) s Q m := by
  rw [post_bind, post_attempt]
  cases x with
  | ok a => exact hok a rfl
  | error e => exact herror e rfl

/-- A pure part that does not raise. -/
theorem post_attempt_ok {x : Except ε α} {a : α} (hx : x = .ok a) {f : α → Proc Op Res ε S β}
    {Q : Except ε β → S → σ → Prop} (h : Post M (f a) s Q m) :
    Post M (attempt x >>= f) s Q m := by
  rw [hx, post_bind, post_attempt]
  exact h

theorem post_call_bind {o : Op} {f : Res o → Proc Op Res ε S β} {Q : Except ε β → S → σ → Prop}
    (hallowed : M.allowed m o)
    (h : ∀ r, M.legal m o r → Post M (f r) s Q (M.next m o r)) :
    Post M (call o >>= f) s Q m := by
  rw [post_bind, post_call]
  exact ⟨hallowed, h⟩

/-- The result of an inner part is the state it ends in; the outer state is untouched. -/
theorem post_within {T : Type} {t : T} {c : Proc Op Res ε T Unit}
    {Q : Except ε T → S → σ → Prop}
    (h : Post M c t (fun r t' m' => match r with
      | .ok _ => Q (.ok t') s m'
      | .error e => Q (.error e) s m') m) : Post M (within t c) s Q m := by
  have hstart : Proc.start (within t c) s = Proc.start c t >>= fun r =>
      (match r with
        | (.ok _, t') => (pure (.ok t') : Prog Op Res (Except ε T))
        | (.error e, _) => pure (.error e)) >>= fun x => pure (x, s) := by
    show (Proc.start c t >>= _) >>= _ = _
    rw [bind_assoc]
  rw [Post, hstart, wp_bind]
  refine wp_mono M ?_ h
  rintro ⟨r | r, t'⟩ m' hr <;> exact hr

theorem post_within_bind {T : Type} {t : T} {c : Proc Op Res ε T Unit}
    {f : T → Proc Op Res ε S β} {Q : Except ε β → S → σ → Prop}
    (h : Post M c t (fun r t' m' => match r with
      | .ok _ => Post M (f t') s Q m'
      | .error e => Q (.error e) s m') m) : Post M (within t c >>= f) s Q m := by
  rw [post_bind]
  exact post_within h

end proc

/-! ### Results -/

section ensures

variable {ε S σ : Type} {M : Monitor Op Res σ} {s : S} {m : σ} {P : α → S → σ → Prop}
  {Q : β → S → σ → Prop}

/-- **`c`, started in `s`, either raises or returns with `P`**, which speaks of its result, of the
state and of the monitor. A structure, so that a goal about a program is not evaluated. -/
structure Ensures (M : Monitor Op Res σ) (c : Proc Op Res ε S α) (s : S) (P : α → S → σ → Prop)
    (m : σ) : Prop where
  post : Post M c s (fun r s' m' => ∀ a, r = .ok a → P a s' m') m

theorem ensures_pure {a : α} (h : P a s m) : Ensures M (pure a : Proc Op Res ε S α) s P m := by
  refine ⟨fun a' hok => ?_⟩
  obtain rfl := Except.ok.inj hok
  exact h

theorem ensures_throw {e : ε} : Ensures M (throw e : Proc Op Res ε S α) s P m := by
  refine ⟨fun a hok => ?_⟩
  cases hok

theorem ensures_modify {g : S → S} {P : Unit → S → σ → Prop} (h : P () (g s) m) :
    Ensures M (modify g : Proc Op Res ε S Unit) s P m :=
  ⟨fun _ _ => h⟩

theorem ensures_mono {P' : α → S → σ → Prop} {c : Proc Op Res ε S α} (hc : Ensures M c s P m)
    (h : ∀ a s' m', P a s' m' → P' a s' m') : Ensures M c s P' m :=
  ⟨post_mono (fun _ s' m' hP a hok => h a s' m' (hP a hok)) hc.post⟩

/-! The rules for the head of a sequence. -/

/-- Sequencing by the specification of the first part; nothing is said of what raises. -/
theorem ensures_bind {c : Proc Op Res ε S α} {f : α → Proc Op Res ε S β} (hc : Ensures M c s P m)
    (hf : ∀ a s' m', P a s' m' → Ensures M (f a) s' Q m') : Ensures M (c >>= f) s Q m := by
  refine ⟨post_seq _ hc.post (fun a s' m' h => (hf a s' m' (h a rfl)).post) ?_⟩
  intro e s' m' _ b hok
  cases hok

theorem ensures_attempt_bind {x : Except ε α} {f : α → Proc Op Res ε S β}
    (h : ∀ a, x = .ok a → Ensures M (f a) s Q m) : Ensures M (attempt x >>= f) s Q m := by
  refine ⟨post_attempt_bind (fun a hx => (h a hx).post) fun e _ b hok => ?_⟩
  cases hok

theorem ensures_get_bind {f : S → Proc Op Res ε S β} (h : Ensures M (f s) s Q m) :
    Ensures M (get >>= f) s Q m :=
  ⟨(post_get_bind f _).mpr h.post⟩

theorem ensures_modify_bind {g : S → S} {f : Unit → Proc Op Res ε S β}
    (h : Ensures M (f ()) (g s) Q m) : Ensures M (modify g >>= f) s Q m :=
  ⟨(post_modify_bind g f _).mpr h.post⟩

theorem ensures_call_bind {o : Op} {f : Res o → Proc Op Res ε S β} (hallowed : M.allowed m o)
    (h : ∀ r, M.legal m o r → Ensures M (f r) s Q (M.next m o r)) :
    Ensures M (call o >>= f) s Q m :=
  ⟨post_call_bind hallowed fun r hr => (h r hr).post⟩

/-- **Along every trace with legal answers every operation is allowed**, and `P` holds where the program
returns. -/
theorem ensures_sound {c : Proc Op Res ε S α} (h : Ensures M c s P m) {tr : List (Step Op Res)}
    {p : Prog Op Res (Except ε α × S)} (hr : Reach (Proc.start c s) tr p) (hl : M.Legal m tr) :
    M.Allowed m tr ∧ ∀ a s', p = .pure (.ok a, s') → P a s' (M.run m tr) := by
  obtain ⟨hallowed, hrest⟩ := wp_sound M h.post hr hl
  refine ⟨hallowed, fun a s' hp => ?_⟩
  subst hp
  exact hrest a rfl

end ensures

/-! ### Invariants of programs with a state -/

section keeps

variable {ε S σ : Type} {M : Monitor Op Res σ} {P : S → σ → Prop}

/-- **The program keeps `P`**, of its state and the monitor, whether it ends or raises. -/
def Keeps (M : Monitor Op Res σ) (P : S → σ → Prop) (c : Proc Op Res ε S α) : Prop :=
  ∀ s m, P s m → Post M c s (fun _ s' m' => P s' m') m

theorem keeps_pure (a : α) : Keeps M P (pure a : Proc Op Res ε S α) := fun _ _ h => h

theorem keeps_throw (e : ε) : Keeps M P (throw e : Proc Op Res ε S α) := fun _ _ h => h

theorem keeps_attempt (x : Except ε α) : Keeps M P (attempt x : Proc Op Res ε S α) :=
  fun _ _ h => h

theorem keeps_modify {f : S → S} (h : ∀ s m, P s m → P (f s) m) :
    Keeps M P (modify f : Proc Op Res ε S Unit) := fun s m => h s m

theorem keeps_call {o : Op} (h : ∀ s m, P s m → M.allowed m o ∧ ∀ r, M.legal m o r →
    P s (M.next m o r)) : Keeps M P (call o : Proc Op Res ε S (Res o)) := fun s m => h s m

theorem keeps_bind {c : Proc Op Res ε S α} {f : α → Proc Op Res ε S β} (hc : Keeps M P c)
    (hf : ∀ a, Keeps M P (f a)) : Keeps M P (c >>= f) := fun s m h =>
  post_seq _ (hc s m h) (fun a s' m' h' => hf a s' m' h') fun _ _ _ h' => h'

/-- The state that is read has the property. -/
theorem keeps_get_bind {f : S → Proc Op Res ε S β}
    (hf : ∀ s, (∃ m, P s m) → Keeps M P (f s)) : Keeps M P (get >>= f) := fun s m h => by
  rw [post_get_bind]
  exact hf s ⟨m, h⟩ s m h

theorem keeps_ite {b : Prop} [Decidable b] {c d : Proc Op Res ε S α} (hc : Keeps M P c)
    (hd : Keeps M P d) : Keeps M P (if b then c else d) := by
  split
  · exact hc
  · exact hd

end keeps

/-! ### Runs against a deterministic environment -/

section exec

variable {W : Type}

/-- The run of a program against an environment that answers from its state `W`: the trace, the
result, and the environment at the end. -/
def exec (env : W → (o : Op) → Res o × W) : Prog Op Res α → W → List (Step Op Res) × α × W
  | .pure a, w => ([], a, w)
  | .op o k, w =>
    let (r, w') := env w o
    let (tr, a, w'') := exec env (k r) w'
    (⟨o, r⟩ :: tr, a, w'')

/-- **Every program ends** against an environment that answers. -/
theorem exec_reach (env : W → (o : Op) → Res o × W) (p : Prog Op Res α) (w : W) :
    Reach p (exec env p w).1 (.pure (exec env p w).2.1) := by
  induction p generalizing w with
  | pure a => exact .refl _
  | op o k ih => exact .step (ih _ _)

/-- An environment that follows a monitor gives legal answers, and ends in the monitor's state. -/
theorem exec_legal (M : Monitor Op Res W) (answer : W → (o : Op) → Res o)
    (hlegal : ∀ w o, M.legal w o (answer w o)) (p : Prog Op Res α) (w : W) :
    let out := exec (fun w o => (answer w o, M.next w o (answer w o))) p w
    M.Legal w out.1 ∧ M.run w out.1 = out.2.2 := by
  induction p generalizing w with
  | pure a => exact ⟨trivial, rfl⟩
  | op o k ih =>
    obtain ⟨hl, hr⟩ := ih (answer w o) (M.next w o (answer w o))
    exact ⟨⟨hlegal w o, hl⟩, hr⟩

end exec

/-! ### Interleavings -/

section interleave

variable {γ : Type}

/-- The steps of the first of two interleaved lists. -/
def left (l : List (γ ⊕ γ)) : List γ := l.filterMap Sum.getLeft?

/-- The steps of the second of two interleaved lists. -/
def right (l : List (γ ⊕ γ)) : List γ := l.filterMap Sum.getRight?

/-- Both, in the order they happen. -/
def merged (l : List (γ ⊕ γ)) : List γ := l.map (Sum.elim id id)

theorem left_append (l l' : List (γ ⊕ γ)) : left (l ++ l') = left l ++ left l' := by
  simp [left]

theorem right_append (l l' : List (γ ⊕ γ)) : right (l ++ l') = right l ++ right l' := by
  simp [right]

theorem merged_append (l l' : List (γ ⊕ γ)) : merged (l ++ l') = merged l ++ merged l' := by
  simp [merged]

/-! The steps of one side alone. -/

@[simp] theorem left_inl (l : List γ) : left (l.map (Sum.inl : γ → γ ⊕ γ)) = l := by
  simp [left, List.filterMap_map, Function.comp_def]

@[simp] theorem left_inr (l : List γ) : left (l.map (Sum.inr : γ → γ ⊕ γ)) = [] := by
  simp [left, List.filterMap_map, Function.comp_def]

@[simp] theorem right_inl (l : List γ) : right (l.map (Sum.inl : γ → γ ⊕ γ)) = [] := by
  simp [right, List.filterMap_map, Function.comp_def]

@[simp] theorem right_inr (l : List γ) : right (l.map (Sum.inr : γ → γ ⊕ γ)) = l := by
  simp [right, List.filterMap_map, Function.comp_def]

@[simp] theorem merged_inl (l : List γ) : merged (l.map (Sum.inl : γ → γ ⊕ γ)) = l := by
  simp [merged, Function.comp_def]

@[simp] theorem merged_inr (l : List γ) : merged (l.map (Sum.inr : γ → γ ⊕ γ)) = l := by
  simp [merged, Function.comp_def]

/-- A step of an interleaving is a step of one of its sides. -/
theorem mem_merged {l : List (γ ⊕ γ)} {x : γ} :
    x ∈ merged l ↔ x ∈ left l ∨ x ∈ right l := by
  induction l with
  | nil => simp [merged, left, right]
  | cons y l ih =>
    cases y with
    | inl y =>
      have h : merged (Sum.inl y :: l) = y :: merged l := rfl
      have hl : left (Sum.inl y :: l) = y :: left l := rfl
      have hr : right (Sum.inl y :: l) = right l := rfl
      rw [h, hl, hr, List.mem_cons, List.mem_cons, ih, or_assoc]
    | inr y =>
      have h : merged (Sum.inr y :: l) = y :: merged l := rfl
      have hl : left (Sum.inr y :: l) = left l := rfl
      have hr : right (Sum.inr y :: l) = y :: right l := rfl
      rw [h, hl, hr, List.mem_cons, List.mem_cons, ih]
      tauto

/-- **Two programs in one world**: their steps are interleaved, the world answers both, and a
relation between the two monitors and the world makes the answers legal for each of them. -/
theorem wp_interleaves {σ σ' τ : Type} {M : Monitor Op Res σ} {N : Monitor Op Res σ'}
    {W : Monitor Op Res τ} {R : σ → σ' → τ → Prop}
    (hleft : ∀ m n w o r, R m n w → M.allowed m o → W.legal w o r →
      M.legal m o r ∧ R (M.next m o r) n (W.next w o r))
    (hright : ∀ m n w o r, R m n w → N.allowed n o → W.legal w o r →
      N.legal n o r ∧ R m (N.next n o r) (W.next w o r))
    {l : List (Step Op Res ⊕ Step Op Res)} {p q : Prog Op Res α} {p' q' : Prog Op Res β}
    {Q : α → σ → Prop} {Q' : β → σ' → Prop} {m : σ} {n : σ'} {w : τ} (hp : wp M p Q m)
    (hp' : wp N p' Q' n) (hR : R m n w) (hr : Reach p (left l) q) (hr' : Reach p' (right l) q')
    (hw : W.Legal w (merged l)) :
    (M.Allowed m (left l) ∧ wp M q Q (M.run m (left l))) ∧
      (N.Allowed n (right l) ∧ wp N q' Q' (N.run n (right l))) ∧
      R (M.run m (left l)) (N.run n (right l)) (W.run w (merged l)) := by
  induction l generalizing p p' m n w with
  | nil =>
    cases hr
    cases hr'
    exact ⟨⟨trivial, hp⟩, ⟨trivial, hp'⟩, hR⟩
  | cons x l ih =>
    cases x with
    | inl x =>
      cases hr with
      | @step o k r =>
        obtain ⟨hlegal, hR⟩ := hleft m n w o r hR hp.1 hw.1
        obtain ⟨⟨ha, hq⟩, hrest⟩ := ih (hp.2 r hlegal) hp' hR ‹_› hr' hw.2
        exact ⟨⟨⟨hp.1, ha⟩, hq⟩, hrest⟩
    | inr x =>
      cases hr' with
      | @step o k r =>
        obtain ⟨hlegal, hR⟩ := hright m n w o r hR hp'.1 hw.1
        obtain ⟨hfirst, ⟨ha, hq⟩, hrest⟩ := ih hp (hp'.2 r hlegal) hR hr ‹_› hw.2
        exact ⟨hfirst, ⟨⟨hp'.1, ha⟩, hq⟩, hrest⟩

end interleave

end Effects
