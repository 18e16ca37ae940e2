import InduSense.Statement.Guarantee

/-!
What a run that raises leaves behind, where a statement that fails does nothing; and programs that
raise only what they were answered.

* `CleanFailure`: the fates of a statement that completes, or fails and does nothing.
* `Prog.RaisesOnly`: if the program raises, the log and the store satisfy a property, with one
  rule for each construct.
* `Prog.Relays`: the program issues only some statements, and raises only what one of them was
  answered with; `Relays.followsIn`: what its logs look like when it ends.
-/

namespace Statement

variable {S : Signature} {ε α β σ : Type}

/-- The statement completes, or fails and does nothing. -/
def CleanFailure (fate : Fate ε) : Prop := fate = .completes ∨ ∃ e, fate = .fails e false

namespace Prog

variable (x : Exec S ε σ) (P : Log S ε → σ → Prop)

/-- Wherever its statements fail, without effect, the program raises only with a log and a store
that satisfy `P`. -/
def RaisesOnly (p : Prog S ε α) (l : Log S ε) (s : σ) : Prop :=
  ∀ env : Env S ε, (∀ l c, CleanFailure (env l c)) → ∀ e, (p.run x env l s).outcome = .raised e →
    P (p.run x env l s).log (p.run x env l s).store

variable {x P} {l : Log S ε} {s : σ}

lemma raisesOnly_ret (a : α) : RaisesOnly x P (ret a : Prog S ε α) l s := by
  intro env _ e h
  cases h

lemma raisesOnly_raise (e : ε) (h : P l s) : RaisesOnly x P (raise e : Prog S ε α) l s :=
  fun _ _ _ _ => h

/-- The rule for one statement and what is done with its answer: it fails, it is refused, or the
rest follows. -/
lemma raisesOnly_issue_bind {c : S.Stmt} {k : S.Answer c → Prog S ε α}
    (hfail : ∀ e, P (l ++ [⟨c, .error e⟩]) s)
    (herr : ∀ e s', x c s = (.error e, s') → P (l ++ [⟨c, .error e⟩]) s')
    (hok : ∀ a s', x c s = (.ok a, s') → RaisesOnly x P (k a) (l ++ [⟨c, .ok a⟩]) s') :
    RaisesOnly x P ((issue c).bind k) l s := by
  intro env henv e h
  rw [run_issue_bind] at h ⊢
  rcases henv l c with hfate | ⟨e', hfate⟩
  · rw [hfate] at h ⊢
    cases hx : x c s with
    | mk r s' =>
        cases r with
        | ok a =>
            rw [hx] at h
            exact hok a s' hx env henv e h
        | error e' => exact herr e' s' hx
  · rw [hfate]
    exact hfail e'

/-- The rule for one statement on its own. -/
lemma raisesOnly_issue {c : S.Stmt} (hfail : ∀ e, P (l ++ [⟨c, .error e⟩]) s)
    (herr : ∀ e s', x c s = (.error e, s') → P (l ++ [⟨c, .error e⟩]) s') :
    RaisesOnly x P (issue c) l s := by
  rw [← bind_ret (issue c)]
  exact raisesOnly_issue_bind hfail herr fun a _ _ => raisesOnly_ret a

/-- The rule for a sequence. -/
lemma raisesOnly_bind {p : Prog S ε α} {f : α → Prog S ε β} (hp : RaisesOnly x P p l s)
    (hf : ∀ a l' s', RaisesOnly x P (f a) l' s') : RaisesOnly x P (p.bind f) l s := by
  intro env henv e h
  have hraised := hp env henv
  rw [run_bind] at h ⊢
  cases hrun : p.run x env l s with
  | mk outcome l' s' =>
      rw [hrun] at h hraised
      cases outcome with
      | returned a => exact hf a l' s' env henv e h
      | raised e' => exact hraised e' rfl
      | died => cases h

/-- The rule of consequence. -/
lemma RaisesOnly.mono {P' : Log S ε → σ → Prop} (hP : ∀ l s, P l s → P' l s) {p : Prog S ε α}
    (h : RaisesOnly x P p l s) : RaisesOnly x P' p l s :=
  fun env henv e hraised => hP _ _ (h env henv e hraised)

/-! ### Passing exceptions on -/

/-- Each statement satisfies `P`, and the program raises nothing but the answer of one. -/
def Relays (P : S.Stmt → Prop) : Prog S ε α → Prop
  | ret _ => True
  | raise _ => False
  | call c k => P c ∧ (∀ a, Relays P (k (.ok a))) ∧ ∀ e, k (.error e) = raise e

section Relays

variable {P : S.Stmt → Prop}

lemma relays_ret (a : α) : Relays P (ret a : Prog S ε α) := trivial

lemma relays_issue {c : S.Stmt} (h : P c) : Relays P (issue c : Prog S ε _) :=
  ⟨h, fun _ => trivial, fun _ => rfl⟩

lemma relays_bind {p : Prog S ε α} {f : α → Prog S ε β} (hp : Relays P p)
    (hf : ∀ a, Relays P (f a)) : Relays P (p.bind f) := by
  induction p with
  | ret a => exact hf a
  | raise e => exact hp.elim
  | call c k ih =>
      refine ⟨hp.1, fun a => ih _ (hp.2.1 a), fun e => ?_⟩
      change (k (.error e)).bind f = raise e
      rw [hp.2.2 e]
      rfl

/-- The log of such a program is extended by its statements; when it raises, the last of them was
answered with the exception. -/
lemma Relays.followsIn {A : (c : S.Stmt) → Except ε (S.Answer c) → Prop}
    {Q : Log S ε → S.Stmt → Prop} {R : Log S ε → Except ε α → Prop} {p : Prog S ε α} {l : Log S ε}
    (hp : Relays P p) (hQ : ∀ l c, P c → Q l c) (hok : ∀ a l', ExtendedBy P l l' → R l' (.ok a))
    (herr : ∀ c e l', ExtendedBy P l l' → P c → A c (.error e) →
      R (l' ++ [⟨c, .error e⟩]) (.error e)) : FollowsIn A Q R p l := by
  suffices ∀ l', ExtendedBy P l l' → FollowsIn A Q R p l' from this l (.refl l)
  induction p with
  | ret a => exact fun l' hl => hok a l' hl
  | raise e => exact hp.elim
  | call c k ih =>
      refine fun l' hl => ⟨hQ l' c hp.1, fun r hr => ?_⟩
      cases r with
      | ok a => exact ih _ (hp.2.1 a) _ (hl.concat hp.1)
      | error e =>
          rw [hp.2.2 e]
          exact herr c e l' hl hp.1 hr

end Relays

end Prog

end Statement
