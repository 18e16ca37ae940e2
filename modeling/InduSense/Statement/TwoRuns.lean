import InduSense.Statement.Program

/-!
Two runs of one program side by side, from two stores.

* `Prog.Lockstep`: the two runs get the same answer to every statement; with one rule for each
  construct.
* `Prog.Lockstep.eval`: the two runs then have the same result, and leave stores that are related
  as the guarantee says.
-/

namespace Statement

variable {S : Signature} {ε α β σ : Type}

namespace Prog

/-- The runs from two stores get the same answers, and their common result and the stores they
leave satisfy `Q`. -/
def Lockstep (x : Exec S ε σ) (Q : Except ε α → σ → σ → Prop) : Prog S ε α → σ → σ → Prop
  | ret a, s, s' => Q (.ok a) s s'
  | raise e, s, s' => Q (.error e) s s'
  | call c k, s, s' =>
      (x c s).1 = (x c s').1 ∧ Lockstep x Q (k (x c s).1) (x c s).2 (x c s').2

variable {x : Exec S ε σ} {s s' : σ}

@[simp] lemma lockstep_ret (Q : Except ε α → σ → σ → Prop) (a : α) :
    Lockstep x Q (ret a) s s' ↔ Q (.ok a) s s' := Iff.rfl

@[simp] lemma lockstep_raise (Q : Except ε α → σ → σ → Prop) (e : ε) :
    Lockstep x Q (raise e) s s' ↔ Q (.error e) s s' := Iff.rfl

/-- The rule for one statement and what is done with its answer. -/
lemma lockstep_issue_bind {Q : Except ε β → σ → σ → Prop} {c : S.Stmt}
    {f : S.Answer c → Prog S ε β} (hanswer : (x c s).1 = (x c s').1)
    (hok : ∀ a, (x c s).1 = .ok a → Lockstep x Q (f a) (x c s).2 (x c s').2)
    (herr : ∀ e, (x c s).1 = .error e → Q (.error e) (x c s).2 (x c s').2) :
    Lockstep x Q ((issue c).bind f) s s' := by
  refine ⟨hanswer, ?_⟩
  cases h : (x c s).1 with
  | ok a => exact hok a h
  | error e => exact herr e h

/-- The rule for one statement. -/
lemma lockstep_issue {c : S.Stmt} {Q : Except ε (S.Answer c) → σ → σ → Prop}
    (hanswer : (x c s).1 = (x c s').1) (h : Q (x c s).1 (x c s).2 (x c s').2) :
    Lockstep x Q (issue c) s s' := by
  refine ⟨hanswer, ?_⟩
  revert h
  cases (x c s).1 with
  | ok a => exact id
  | error e => exact id

/-- The rule for a sequence. -/
lemma lockstep_bind {Q : Except ε β → σ → σ → Prop} {p : Prog S ε α} {f : α → Prog S ε β}
    (h : Lockstep x (fun r t t' => match r with
      | .ok a => Lockstep x Q (f a) t t'
      | .error e => Q (.error e) t t') p s s') : Lockstep x Q (p.bind f) s s' := by
  induction p generalizing s s' with
  | ret a => exact h
  | raise e => exact h
  | call c k ih => exact ⟨h.1, ih _ h.2⟩

/-- The rule for a `try` and its handlers. -/
lemma lockstep_attempt_bind {Q : Except ε β → σ → σ → Prop} {p : Prog S ε α}
    {f : Except ε α → Prog S ε β} (h : Lockstep x (fun r t t' => Lockstep x Q (f r) t t') p s s') :
    Lockstep x Q (p.attempt.bind f) s s' := by
  induction p generalizing s s' with
  | ret a => exact h
  | raise e => exact h
  | call c k ih => exact ⟨h.1, ih _ h.2⟩

lemma Lockstep.mono {Q Q' : Except ε α → σ → σ → Prop} {p : Prog S ε α}
    (h : Lockstep x Q p s s') (hQ : ∀ r t t', Q r t t' → Q' r t t') : Lockstep x Q' p s s' := by
  induction p generalizing s s' with
  | ret a => exact hQ _ _ _ h
  | raise e => exact hQ _ _ _ h
  | call c k ih => exact ⟨h.1, ih _ h.2⟩

/-- Runs in lockstep have the same result. -/
theorem Lockstep.eval {Q : Except ε α → σ → σ → Prop} {p : Prog S ε α}
    (h : Lockstep x Q p s s') :
    (p.eval x s).1 = (p.eval x s').1 ∧ Q (p.eval x s).1 (p.eval x s).2 (p.eval x s').2 := by
  induction p generalizing s s' with
  | ret a => exact ⟨rfl, h⟩
  | raise e => exact ⟨rfl, h⟩
  | call c k ih =>
      rw [eval_call, eval_call, ← h.1]
      exact ih _ h.2

end Prog

end Statement
