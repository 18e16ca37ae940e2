import InduSense.Statement.Program

/-!
Programs whose statements are carried out by programs.

* `Prog.implement`: each statement of a program becomes the program that carries it out.
* `implement_bind`, `implement_attempt`, `implement_issue`: the statements are all that changes.
-/

namespace Statement

variable {S T : Signature} {ε α β : Type}

namespace Prog

/-- A `try` that is handled by a `try` raises no more than it does. -/
lemma attempt_bind_attempt (p : Prog S ε α) (f : Except ε α → Prog S ε β) :
    (p.attempt.bind f).attempt = p.attempt.bind fun r => (f r).attempt := by
  induction p with
  | ret a => rfl
  | raise e => rfl
  | call c k ih => exact congrArg (call c) (funext ih)

/-- One `try` and one handler after the other. -/
lemma attempt_bind_bind {γ : Type} (p : Prog S ε α) (f : Except ε α → Prog S ε β)
    (g : β → Prog S ε γ) : (p.attempt.bind f).bind g = p.attempt.bind fun r => (f r).bind g := by
  induction p with
  | ret a => rfl
  | raise e => rfl
  | call c k ih => exact congrArg (call c) (funext ih)

/-- A `try` whose handler passes everything on. -/
lemma attempt_bind_pass (p : Prog S ε α) :
    (p.attempt.bind fun r => match r with
      | .ok a => ret a
      | .error e => raise e) = p := by
  induction p with
  | ret a => rfl
  | raise e => rfl
  | call c k ih => exact congrArg (call c) (funext ih)

/-- Each statement becomes the program that carries it out, and raises what that raises. -/
def implement (impl : (c : S.Stmt) → Prog T ε (S.Answer c)) : Prog S ε α → Prog T ε α
  | ret a => ret a
  | raise e => raise e
  | call c k => (impl c).attempt.bind fun r => (k r).implement impl

variable (impl : (c : S.Stmt) → Prog T ε (S.Answer c))

@[simp] lemma implement_ret (a : α) : (ret a : Prog S ε α).implement impl = ret a := rfl

@[simp] lemma implement_raise (e : ε) : (raise e : Prog S ε α).implement impl = raise e := rfl

@[simp] lemma implement_issue (c : S.Stmt) : (issue c : Prog S ε _).implement impl = impl c := by
  rw [issue, implement]
  refine Eq.trans (congrArg _ (funext fun r => ?_)) (attempt_bind_pass (impl c))
  cases r <;> rfl

@[simp] lemma implement_bind (p : Prog S ε α) (f : α → Prog S ε β) :
    (p.bind f).implement impl = (p.implement impl).bind fun a => (f a).implement impl := by
  induction p with
  | ret a => rfl
  | raise e => rfl
  | call c k ih =>
      rw [call_bind, implement, implement, attempt_bind_bind]
      exact congrArg _ (funext ih)

@[simp] lemma implement_attempt (p : Prog S ε α) :
    p.attempt.implement impl = (p.implement impl).attempt := by
  induction p with
  | ret a => rfl
  | raise e => rfl
  | call c k ih =>
      rw [attempt_call, implement, implement, attempt_bind_attempt]
      exact congrArg _ (funext ih)

end Prog

end Statement
