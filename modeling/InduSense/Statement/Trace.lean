import InduSense.Statement.Guarantee

/-!
The statements a program issues when nothing fails.

* `Prog.trace`: these statements, in their order; `trace_bind`, `trace_attempt`, `trace_issue`: one
  rule for each construct.
* `run_log_eq_trace`: they are the log of a run in which every statement completes.
* `mem_log_of_ensures`: what a program guarantees of its statements holds of those of its runs.
-/

namespace Statement

variable {S : Signature} {ε α β σ : Type}

namespace Prog

variable (x : Exec S ε σ)

/-- The statements of the evaluation of a program. -/
def trace : Prog S ε α → σ → List S.Stmt
  | ret _, _ => []
  | raise _, _ => []
  | call c k, s => c :: trace (k (x c s).1) (x c s).2

variable {x}

@[simp] lemma trace_ret (a : α) (s : σ) : (ret a : Prog S ε α).trace x s = [] := rfl

@[simp] lemma trace_raise (e : ε) (s : σ) : (raise e : Prog S ε α).trace x s = [] := rfl

/-- The statements of a sequence: those of the rest come after those of the first part. -/
lemma trace_bind (p : Prog S ε α) (f : α → Prog S ε β) (s : σ) :
    (p.bind f).trace x s = p.trace x s ++
      match p.eval x s with
      | (.ok a, s') => (f a).trace x s'
      | (.error _, _) => [] := by
  induction p generalizing s with
  | ret a => rfl
  | raise e => rfl
  | call c k ih => exact congrArg (List.cons c) (ih _ _)

@[simp] lemma trace_issue (c : S.Stmt) (s : σ) : (issue c : Prog S ε _).trace x s = [c] := by
  rw [issue, trace]
  cases (x c s).1 with
  | ok a => rfl
  | error e => rfl

@[simp] lemma trace_attempt (p : Prog S ε α) (s : σ) : p.attempt.trace x s = p.trace x s := by
  induction p generalizing s with
  | ret a => rfl
  | raise e => rfl
  | call c k ih => exact congrArg (List.cons c) (ih _ _)

/-- A sequence begins with its first part. -/
lemma mem_trace_bind_left {p : Prog S ε α} {f : α → Prog S ε β} {s : σ} {c : S.Stmt}
    (h : c ∈ p.trace x s) : c ∈ (p.bind f).trace x s := by
  rw [trace_bind]
  exact List.mem_append_left _ h

/-- A sequence whose first part returns goes on with the rest. -/
lemma mem_trace_bind_right {p : Prog S ε α} {f : α → Prog S ε β} {s s' : σ} {a : α}
    (hp : p.eval x s = (.ok a, s')) {c : S.Stmt} (h : c ∈ (f a).trace x s') :
    c ∈ (p.bind f).trace x s := by
  rw [trace_bind, hp]
  exact List.mem_append_right _ h

/-- The log of a run in which every statement completes. -/
lemma run_log_eq_trace {env : Env S ε} (henv : ∀ l c, env l c = .completes) (p : Prog S ε α)
    (l : Log S ε) (s : σ) :
    (p.run x env l s).log.map Entry.stmt = l.map Entry.stmt ++ p.trace x s := by
  induction p generalizing l s with
  | ret a => exact (List.append_nil _).symm
  | raise e => exact (List.append_nil _).symm
  | call c k ih =>
      rw [run_call, henv, trace]
      refine (ih _ _ _).trans ?_
      rw [List.map_append, List.append_assoc]
      rfl

/-- What a program guarantees of its statements holds of those of its runs. -/
lemma mem_log_of_ensures {P : S.Stmt → Prop} {p : Prog S ε α} (hp : Ensures (fun _ c => P c) p)
    {env : Env S ε} {s : σ} {e : Entry S ε} (he : e ∈ (p.run x env [] s).log) : P e.stmt := by
  suffices ∀ l, Follows (fun _ c => P c) (fun _ _ => True) p l → (∀ e ∈ l, P e.stmt) →
      ∀ e ∈ (p.run x env l s).log, P e.stmt from
    this [] (hp []) (fun e he => absurd he List.not_mem_nil) e he
  clear hp he
  induction p generalizing s with
  | ret a => exact fun l _ hl => hl
  | raise e => exact fun l _ hl => hl
  | call c k ih =>
      intro l hf hl
      have hl' : ∀ r, ∀ e ∈ l ++ [(⟨c, r⟩ : Entry S ε)], P e.stmt := by
        intro r e he
        rcases List.mem_append.mp he with he | he
        · exact hl e he
        · rw [List.mem_singleton.mp he]
          exact hf.1
      rw [run_call]
      cases env l c with
      | completes => exact ih _ _ (hf.2 _) (hl' _)
      | fails e applied => exact ih _ _ (hf.2 _) (hl' _)
      | dies => exact hl

end Prog

end Statement
