import Mathlib.Tactic

/-!
Programs made of atomic statements: the language the services are written in.

A program issues statements one at a time (an SQL statement, a Redis command, a Kafka write, a
read of the clock) and goes on with the answer, which may be an exception.  What happens
between two statements is ordinary computation and takes no step.

* `Signature`, `Prog`: the statements with the types of their answers, and the programs over
  them, with exceptions.  `Prog.attempt` is the `try` whose handler sees the exception.
* `Exec`, `Prog.eval`: the meaning of each statement on a store, and the run of a program in
  which every statement takes effect.
* `Fate`, `Prog.run`: the run in an environment that decides for each statement whether it
  completes, fails (with or without having taken effect) or never happens because the process
  dies; the run records the statements it has issued.
* `Prog.wp`: the precondition of a run under a given set of fates, for what holds when the
  program ends and what holds if it dies, with one rule for each construct.
-/

namespace Statement

/-- The statements a program may issue, each with the type of its answer. -/
structure Signature where
  Stmt : Type
  Answer : Stmt → Type

/-- Programs over a signature that return an `α` or raise an `ε`. -/
inductive Prog (S : Signature) (ε α : Type) : Type where
  | ret (a : α)
  | raise (e : ε)
  | call (c : S.Stmt) (k : Except ε (S.Answer c) → Prog S ε α)

variable {S : Signature} {ε α β σ : Type}

namespace Prog

/-- Run `p`, then `f` on what it returns; an exception skips `f`. -/
def bind : Prog S ε α → (α → Prog S ε β) → Prog S ε β
  | ret a, f => f a
  | raise e, _ => raise e
  | call c k, f => call c fun r => bind (k r) f

instance : Monad (Prog S ε) where
  pure := ret
  bind := bind

/-- Issue one statement and return its answer, raising the exception it raises. -/
def issue (c : S.Stmt) : Prog S ε (S.Answer c) :=
  call c fun
    | .ok a => ret a
    | .error e => raise e

/-- `try p`: the exception, if one is raised, becomes a value for the handler to look at. -/
def attempt : Prog S ε α → Prog S ε (Except ε α)
  | ret a => ret (.ok a)
  | raise e => ret (.error e)
  | call c k => call c fun r => attempt (k r)

/-- The statement the program is about to issue. -/
def next : Prog S ε α → Option S.Stmt
  | ret _ => none
  | raise _ => none
  | call c _ => some c

@[simp] lemma pure_eq (a : α) : (pure a : Prog S ε α) = ret a := rfl

@[simp] lemma bind_eq (p : Prog S ε α) (f : α → Prog S ε β) : p >>= f = p.bind f := rfl

@[simp] lemma ret_bind (a : α) (f : α → Prog S ε β) : (ret a).bind f = f a := rfl

@[simp] lemma raise_bind (e : ε) (f : α → Prog S ε β) : (raise e).bind f = raise e := rfl

@[simp] lemma call_bind (c : S.Stmt) (k : Except ε (S.Answer c) → Prog S ε α)
    (f : α → Prog S ε β) : (call c k).bind f = call c fun r => (k r).bind f := rfl

/-- Returning what a program returns adds nothing. -/
lemma bind_ret (p : Prog S ε α) : p.bind ret = p := by
  induction p with
  | ret a => rfl
  | raise e => rfl
  | call c k ih => exact congrArg (call c) (funext ih)

@[simp] lemma attempt_ret (a : α) : (ret a : Prog S ε α).attempt = ret (.ok a) := rfl

@[simp] lemma attempt_raise (e : ε) : (raise e : Prog S ε α).attempt = ret (.error e) := rfl

@[simp] lemma attempt_call (c : S.Stmt) (k : Except ε (S.Answer c) → Prog S ε α) :
    (call c k).attempt = call c fun r => (k r).attempt := rfl

@[simp] lemma next_call (c : S.Stmt) (k : Except ε (S.Answer c) → Prog S ε α) :
    (call c k).next = some c := rfl

end Prog

/-! ### Runs in which every statement takes effect -/

/-- The meaning of the statements: the answer of each and the store it leaves.  An answer may be
an exception, as for an update that violates a constraint. -/
abbrev Exec (S : Signature) (ε σ : Type) := (c : S.Stmt) → σ → Except ε (S.Answer c) × σ

namespace Prog

variable (x : Exec S ε σ)

/-- The result of a program and the store it leaves. -/
def eval : Prog S ε α → σ → Except ε α × σ
  | ret a, s => (.ok a, s)
  | raise e, s => (.error e, s)
  | call c k, s => eval (k (x c s).1) (x c s).2

@[simp] lemma eval_ret (a : α) (s : σ) : (ret a : Prog S ε α).eval x s = (.ok a, s) := rfl

@[simp] lemma eval_raise (e : ε) (s : σ) :
    (raise e : Prog S ε α).eval x s = (.error e, s) := rfl

@[simp] lemma eval_call (c : S.Stmt) (k : Except ε (S.Answer c) → Prog S ε α) (s : σ) :
    (call c k).eval x s = (k (x c s).1).eval x (x c s).2 := rfl

/-- The run of a sequence is the run of its first part followed by that of the rest. -/
lemma eval_bind (p : Prog S ε α) (f : α → Prog S ε β) (s : σ) :
    (p.bind f).eval x s =
      match p.eval x s with
      | (.ok a, s') => (f a).eval x s'
      | (.error e, s') => (.error e, s') := by
  induction p generalizing s with
  | ret a => rfl
  | raise e => rfl
  | call c k ih => exact ih _ _

/-- A first part that returns, and the rest. -/
lemma eval_bind_of_ok {p : Prog S ε α} {s s' : σ} {a : α} (hp : p.eval x s = (.ok a, s'))
    (f : α → Prog S ε β) : (p.bind f).eval x s = (f a).eval x s' := by
  rw [eval_bind, hp]

/-- One statement, and what is done with its answer. -/
lemma eval_issue_bind (c : S.Stmt) (f : S.Answer c → Prog S ε β) (s : σ) :
    ((issue c).bind f).eval x s =
      match x c s with
      | (.ok a, s') => (f a).eval x s'
      | (.error e, s') => (.error e, s') := by
  rw [issue, call_bind, eval_call]
  rcases x c s with ⟨r, s'⟩
  cases r with
  | ok a => rfl
  | error e => rfl

/-- What every statement preserves, every program preserves. -/
lemma eval_preserves {I : σ → Prop} (hI : ∀ c s, I s → I (x c s).2) (p : Prog S ε α) {s : σ}
    (h : I s) : I (p.eval x s).2 := by
  induction p generalizing s with
  | ret a => exact h
  | raise e => exact h
  | call c k ih => exact ih _ (hI c s h)

/-- A `try` never raises, and leaves the store its body leaves. -/
@[simp] lemma eval_attempt (p : Prog S ε α) (s : σ) :
    p.attempt.eval x s = (.ok (p.eval x s).1, (p.eval x s).2) := by
  induction p generalizing s with
  | ret a => rfl
  | raise e => rfl
  | call c k ih => exact ih _ _

/-- A `try` and its handlers. -/
lemma eval_attempt_bind (p : Prog S ε α) (f : Except ε α → Prog S ε β) (s : σ) :
    (p.attempt.bind f).eval x s = (f (p.eval x s).1).eval x (p.eval x s).2 := by
  rw [eval_bind, eval_attempt]

/-- One statement on its own. -/
@[simp] lemma eval_issue (c : S.Stmt) (s : σ) : (issue c : Prog S ε _).eval x s = x c s := by
  rw [issue, eval_call]
  rcases x c s with ⟨r, s'⟩
  cases r with
  | ok a => rfl
  | error e => rfl

end Prog

/-! ### Runs with failures and crashes -/

/-- What becomes of a statement: it completes, it raises `e` (having taken effect or not), or
the process dies before it. -/
inductive Fate (ε : Type) where
  | completes
  | fails (e : ε) (applied : Bool)
  | dies

/-- One statement of a run with the answer the program saw. -/
structure Entry (S : Signature) (ε : Type) where
  stmt : S.Stmt
  answer : Except ε (S.Answer stmt)

/-- The statements a run has issued so far, oldest first. -/
abbrev Log (S : Signature) (ε : Type) := List (Entry S ε)

/-- An environment decides the fate of each statement, from the log so far. -/
abbrev Env (S : Signature) (ε : Type) := Log S ε → S.Stmt → Fate ε

/-- How a run ends. -/
inductive Outcome (ε α : Type) where
  | returned (a : α)
  | raised (e : ε)
  | died
  deriving DecidableEq

/-- A run: its end, the statements it issued and the store it leaves. -/
structure Run (S : Signature) (ε α σ : Type) where
  outcome : Outcome ε α
  log : Log S ε
  store : σ

namespace Prog

variable (x : Exec S ε σ) (env : Env S ε)

/-- The run of a program from a log and a store in an environment. -/
def run : Prog S ε α → Log S ε → σ → Run S ε α σ
  | ret a, l, s => ⟨.returned a, l, s⟩
  | raise e, l, s => ⟨.raised e, l, s⟩
  | call c k, l, s =>
      match env l c with
      | .completes => run (k (x c s).1) (l ++ [⟨c, (x c s).1⟩]) (x c s).2
      | .fails e applied =>
          run (k (.error e)) (l ++ [⟨c, .error e⟩]) (if applied then (x c s).2 else s)
      | .dies => ⟨.died, l, s⟩

@[simp] lemma run_ret (a : α) (l : Log S ε) (s : σ) :
    (ret a : Prog S ε α).run x env l s = ⟨.returned a, l, s⟩ := rfl

@[simp] lemma run_raise (e : ε) (l : Log S ε) (s : σ) :
    (raise e : Prog S ε α).run x env l s = ⟨.raised e, l, s⟩ := rfl

lemma run_call (c : S.Stmt) (k : Except ε (S.Answer c) → Prog S ε α) (l : Log S ε) (s : σ) :
    (call c k).run x env l s =
      match env l c with
      | .completes => (k (x c s).1).run x env (l ++ [⟨c, (x c s).1⟩]) (x c s).2
      | .fails e applied =>
          (k (.error e)).run x env (l ++ [⟨c, .error e⟩]) (if applied then (x c s).2 else s)
      | .dies => ⟨.died, l, s⟩ := by
  rw [run]

/-- The run of a sequence: the rest runs when the first part returned. -/
lemma run_bind (p : Prog S ε α) (f : α → Prog S ε β) (l : Log S ε) (s : σ) :
    (p.bind f).run x env l s =
      match p.run x env l s with
      | ⟨.returned a, l', s'⟩ => (f a).run x env l' s'
      | ⟨.raised e, l', s'⟩ => ⟨.raised e, l', s'⟩
      | ⟨.died, l', s'⟩ => ⟨.died, l', s'⟩ := by
  induction p generalizing l s with
  | ret a => rfl
  | raise e => rfl
  | call c k ih =>
      rw [call_bind, run_call, run_call]
      cases env l c with
      | completes => exact ih _ _ _
      | fails e applied => exact ih _ _ _
      | dies => rfl

/-- One statement in a `try`, and what is done with its answer or exception. -/
lemma run_try_issue (c : S.Stmt) (k : Except ε (S.Answer c) → Prog S ε α) (l : Log S ε) (s : σ) :
    ((issue c).attempt.bind k).run x env l s =
      match env l c with
      | .completes => (k (x c s).1).run x env (l ++ [⟨c, (x c s).1⟩]) (x c s).2
      | .fails e applied =>
          (k (.error e)).run x env (l ++ [⟨c, .error e⟩]) (if applied then (x c s).2 else s)
      | .dies => ⟨.died, l, s⟩ := by
  rw [issue, attempt_call, call_bind, run_call]
  cases env l c with
  | completes =>
      cases (x c s).1 with
      | ok a => rfl
      | error e => rfl
  | fails e applied => rfl
  | dies => rfl

/-- One statement, and what is done with its answer. -/
lemma run_issue_bind (c : S.Stmt) (k : S.Answer c → Prog S ε α) (l : Log S ε) (s : σ) :
    ((issue c).bind k).run x env l s =
      match env l c with
      | .completes =>
          match (x c s).1 with
          | .ok a => (k a).run x env (l ++ [⟨c, .ok a⟩]) (x c s).2
          | .error e => ⟨.raised e, l ++ [⟨c, .error e⟩], (x c s).2⟩
      | .fails e applied =>
          ⟨.raised e, l ++ [⟨c, .error e⟩], if applied then (x c s).2 else s⟩
      | .dies => ⟨.died, l, s⟩ := by
  rw [issue, call_bind, run_call]
  cases env l c with
  | completes =>
      dsimp only
      cases (x c s).1 with
      | ok a => rfl
      | error e => rfl
  | fails e applied => rfl
  | dies => rfl

/-- When every statement completes, the run is the evaluation. -/
lemma run_eq_eval (henv : ∀ l c, env l c = .completes) (p : Prog S ε α) (l : Log S ε) (s : σ) :
    (p.run x env l s).outcome =
        (match (p.eval x s).1 with
        | .ok a => .returned a
        | .error e => .raised e)
      ∧ (p.run x env l s).store = (p.eval x s).2 := by
  induction p generalizing l s with
  | ret a => exact ⟨rfl, rfl⟩
  | raise e => exact ⟨rfl, rfl⟩
  | call c k ih =>
      rw [run_call, henv l c]
      exact ih _ _ _

/-- What every statement preserves, every run does, failures and crashes included. -/
lemma run_preserves {I : σ → Prop} (hI : ∀ c s, I s → I (x c s).2) (p : Prog S ε α) (l : Log S ε)
    {s : σ} (h : I s) : I (p.run x env l s).store := by
  induction p generalizing l s with
  | ret a => exact h
  | raise e => exact h
  | call c k ih =>
      rw [run_call]
      cases env l c with
      | completes => exact ih _ _ (hI c s h)
      | fails e applied =>
          refine ih _ _ ?_
          split
          · exact hI c s h
          · exact h
      | dies => exact h

end Prog

/-- The environment in which nothing fails and the process dies before its `n`-th statement, if it
gets that far. -/
def crashAt (n : ℕ) : Env S ε := fun l _ => if l.length = n then .dies else .completes

/-- Nothing fails; the process may die before any statement. -/
def crashOnly (_ : S.Stmt) (f : Fate ε) : Prop := f = .completes ∨ f = .dies

lemma crashOnly_crashAt (n : ℕ) (l : Log S ε) (c : S.Stmt) :
    crashOnly c (crashAt n l c : Fate ε) := by
  rw [crashAt]
  split
  · exact .inr rfl
  · exact .inl rfl

/-! ### Preconditions -/

namespace Prog

variable (x : Exec S ε σ) (allow : S.Stmt → Fate ε → Prop)

/-- The weakest precondition of a run in which every statement meets a fate that `allow`
permits: `Q` holds of the result and the store if the program ends, `C` of the store if the
process dies. -/
def wp (Q : Except ε α → σ → Prop) (C : σ → Prop) : Prog S ε α → σ → Prop
  | ret a, s => Q (.ok a) s
  | raise e, s => Q (.error e) s
  | call c k, s =>
      (allow c .completes → wp Q C (k (x c s).1) (x c s).2)
        ∧ (∀ e applied, allow c (.fails e applied) →
            wp Q C (k (.error e)) (if applied then (x c s).2 else s))
        ∧ (allow c .dies → C s)

variable {x allow}

@[simp] lemma wp_ret (Q : Except ε α → σ → Prop) (C : σ → Prop) (a : α) (s : σ) :
    wp x allow Q C (ret a) s ↔ Q (.ok a) s := Iff.rfl

@[simp] lemma wp_raise (Q : Except ε α → σ → Prop) (C : σ → Prop) (e : ε) (s : σ) :
    wp x allow Q C (raise e) s ↔ Q (.error e) s := Iff.rfl

/-- The rule of consequence. -/
lemma wp_mono {Q Q' : Except ε α → σ → Prop} {C C' : σ → Prop}
    (hQ : ∀ r s, Q r s → Q' r s) (hC : ∀ s, C s → C' s) {p : Prog S ε α} {s : σ}
    (h : wp x allow Q C p s) : wp x allow Q' C' p s := by
  induction p generalizing s with
  | ret a => exact hQ _ _ h
  | raise e => exact hQ _ _ h
  | call c k ih =>
      obtain ⟨hok, hfail, hdie⟩ := h
      exact ⟨fun ha => ih _ (hok ha), fun e b ha => ih _ (hfail e b ha), fun ha => hC _ (hdie ha)⟩

/-- The rule for a sequence: the precondition of the rest is the postcondition of the first
part. -/
lemma wp_bind {Q : Except ε β → σ → Prop} {C : σ → Prop} {p : Prog S ε α}
    {f : α → Prog S ε β} {s : σ}
    (h : wp x allow (fun r s' => match r with
      | .ok a => wp x allow Q C (f a) s'
      | .error e => Q (.error e) s') C p s) :
    wp x allow Q C (p.bind f) s := by
  induction p generalizing s with
  | ret a => exact h
  | raise e => exact h
  | call c k ih =>
      obtain ⟨hok, hfail, hdie⟩ := h
      exact ⟨fun ha => ih _ (hok ha), fun e b ha => ih _ (hfail e b ha), hdie⟩

/-- The rule for `try`: the postcondition of the body holds of the exception or value it is
turned into. -/
lemma wp_attempt {Q : Except ε (Except ε α) → σ → Prop} {C : σ → Prop} {p : Prog S ε α} {s : σ}
    (h : wp x allow (fun r s' => Q (.ok r) s') C p s) : wp x allow Q C p.attempt s := by
  induction p generalizing s with
  | ret a => exact h
  | raise e => exact h
  | call c k ih =>
      obtain ⟨hok, hfail, hdie⟩ := h
      exact ⟨fun ha => ih _ (hok ha), fun e b ha => ih _ (hfail e b ha), hdie⟩

/-- The rule for one statement whose answer is known, where nothing fails. -/
lemma wp_issue {Q : Except ε α → σ → Prop} {C : σ → Prop} {c : S.Stmt} {s s' : σ}
    {p : Prog S ε α} {k : S.Answer c → Prog S ε α} {a : S.Answer c} (hp : p = (issue c).bind k)
    (hx : x c s = (.ok a, s')) (hok : wp x crashOnly Q C (k a) s') (hdie : C s) :
    wp x crashOnly Q C p s := by
  rw [hp]
  refine ⟨fun _ => ?_, fun e applied h => ?_, fun _ => hdie⟩
  · rw [hx]
    exact hok
  · rcases h with h | h <;> cases h

/-- The rule for one statement in a `try`. -/
lemma wp_try_issue {Q : Except ε α → σ → Prop} {C : σ → Prop} {c : S.Stmt} {s s' : σ}
    {p : Prog S ε α} {k : Except ε (S.Answer c) → Prog S ε α} {r : Except ε (S.Answer c)}
    (hp : p = (issue c).attempt.bind k) (hx : x c s = (r, s'))
    (hok : wp x crashOnly Q C (k r) s') (hdie : C s) : wp x crashOnly Q C p s := by
  rw [hp]
  refine ⟨fun _ => ?_, fun e applied h => ?_, fun _ => hdie⟩
  · rw [hx]
    cases r with
    | ok a => exact hok
    | error e => exact hok
  · rcases h with h | h <;> cases h

/-- **Soundness**: a run in an environment whose fates are allowed ends in the postcondition. -/
theorem wp_run {env : Env S ε} (henv : ∀ l c, allow c (env l c)) {Q : Except ε α → σ → Prop}
    {C : σ → Prop} {p : Prog S ε α} {s : σ} (h : wp x allow Q C p s) (l : Log S ε) :
    match (p.run x env l s).outcome with
    | .returned a => Q (.ok a) (p.run x env l s).store
    | .raised e => Q (.error e) (p.run x env l s).store
    | .died => C (p.run x env l s).store := by
  induction p generalizing l s with
  | ret a => exact h
  | raise e => exact h
  | call c k ih =>
      obtain ⟨hok, hfail, hdie⟩ := h
      have hc := henv l c
      rw [run_call]
      cases hf : env l c with
      | completes => exact ih _ (hok (hf ▸ hc)) _
      | fails e applied => exact ih _ (hfail e applied (hf ▸ hc)) _
      | dies => exact hdie (hf ▸ hc)

end Prog

end Statement
