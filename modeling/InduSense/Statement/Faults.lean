import InduSense.Statement.Program

/-!
Runs in which the fate of each statement is given by its number.

* `Env.ofFates`: such an environment.
* `FailsOr`: one of some statements fails while those before it complete, or all complete.
* `Prog.RaisesWith`: the program raises, and the exception and the store satisfy a property;
  `raisesWith_call`, and `raisesWith_call_iff` for a row of statements that the store answers.
-/

namespace Statement

variable {S : Signature} {ε α σ : Type}

/-- The fate of the statement with the number `n`. -/
def Env.ofFates (f : ℕ → Fate ε) : Env S ε := fun l _ => f l.length

/-- Of the `k` statements from the `n`-th on one fails, and those before it complete; or all of them
complete, and then `R`. -/
def FailsOr (f : ℕ → Fate ε) (R : Prop) : ℕ → ℕ → Prop
  | _, 0 => R
  | n, k + 1 => (∃ e applied, f n = .fails e applied) ∨ f n = .completes ∧ FailsOr f R (n + 1) k

namespace Prog

variable (x : Exec S ε σ) (env : Env S ε) (B : ε → σ → Prop)

/-- The program raises, and leaves a store that is bad for its exception. -/
def RaisesWith (p : Prog S ε α) (l : Log S ε) (s : σ) : Prop :=
  ∃ e, (p.run x env l s).outcome = .raised e ∧ B e (p.run x env l s).store

variable {x B} {f : ℕ → Fate ε} {l : Log S ε} {s : σ} {n : ℕ}

@[simp] lemma raisesWith_ret (a : α) : RaisesWith x env B (ret a : Prog S ε α) l s ↔ False :=
  iff_of_false (fun ⟨_, h, _⟩ => by cases h) id

@[simp] lemma raisesWith_raise (e : ε) :
    RaisesWith x env B (raise e : Prog S ε α) l s ↔ B e s := by
  constructor
  · rintro ⟨e', h, hB⟩
    cases h
    exact hB
  · exact fun hB => ⟨e, rfl, hB⟩

/-- One statement, and what is done with its answer. -/
lemma raisesWith_call (hn : l.length = n) {c : S.Stmt}
    {k : Except ε (S.Answer c) → Prog S ε α} :
    RaisesWith x (.ofFates f) B (call c k) l s
      ↔ (∃ e applied, f n = .fails e applied
          ∧ RaisesWith x (.ofFates f) B (k (.error e)) (l ++ [⟨c, .error e⟩])
            (if applied then (x c s).2 else s))
        ∨ f n = .completes
          ∧ RaisesWith x (.ofFates f) B (k (x c s).1) (l ++ [⟨c, (x c s).1⟩]) (x c s).2 := by
  have hfate : (Env.ofFates f : Env S ε) l c = f n := congrArg f hn
  simp only [RaisesWith, run_call, hfate]
  cases f n with
  | completes => simp
  | fails e applied =>
      constructor
      · exact fun h => .inl ⟨e, applied, rfl, h⟩
      · rintro (⟨e', applied', heq, h⟩ | ⟨heq, -⟩)
        · cases heq
          exact h
        · cases heq
  | dies => simp

/-- A statement that the store answers, where both the store before it and the store after it are
bad, and any exception ends the program. -/
lemma raisesWith_call_iff (hn : l.length = n) {c : S.Stmt} {a : S.Answer c} {s' : σ} {R : Prop}
    {j : ℕ} {k : Except ε (S.Answer c) → Prog S ε α} (hx : x c s = (.ok a, s'))
    (hraise : ∀ e, k (.error e) = raise e)
    (hB : ∀ e applied, f n = .fails e applied → B e s ∧ B e s')
    (hrest : ∀ l', l'.length = n + 1 →
      (RaisesWith x (.ofFates f) B (k (.ok a)) l' s' ↔ FailsOr f R (n + 1) j)) :
    RaisesWith x (.ofFates f) B (call c k) l s ↔ FailsOr f R n (j + 1) := by
  have hnext : (l ++ [⟨c, .ok a⟩] : Log S ε).length = n + 1 := by simp [hn]
  rw [raisesWith_call hn, FailsOr, hx]
  refine or_congr (exists₂_congr fun e applied => ?_) (and_congr_right fun _ => hrest _ hnext)
  rw [hraise, raisesWith_raise, and_iff_left_iff_imp]
  intro hfails
  cases applied with
  | false => exact (hB e false hfails).1
  | true => exact (hB e true hfails).2

end Prog

end Statement
