import InduSense.Statement.Interleave

/-!
Programs in the sessions of one database server.

Unlike the statements of a `Pool` that always go through, a statement may have to wait for the
transaction of another session, and it may fail at any time, which ends the transaction of its own
session.

* `Server`: what a statement does in a session, and what a failure leaves.
* `Turn`, `Pool.turn`, `Pool.serve`: runs of the programs under a schedule of turns.
* `Server.Outcome`: what a turn can make of a statement; `Pool.turn_cases`: all that a turn can do.
* `Pool.serve_preserves`, `Pool.GuaranteesIn.answered`: what every turn keeps.
-/

namespace Statement

variable {S : Signature} {ε α σ ι E : Type}

/-- A server with the sessions `ι`: what a statement does in a session, if it does not have to wait,
and what is left when the transaction of a session ends without a commit. -/
structure Server (S : Signature) (ε σ ι : Type) where
  exec : ι → (c : S.Stmt) → σ → Option (Except ε (S.Answer c) × σ)
  abort : ι → σ → σ

/-- One turn of a schedule: the next statement of a session is tried, or it fails, or something
happens outside of the sessions. -/
inductive Turn (ι ε E : Type) where
  | tries (i : ι)
  | fails (i : ι) (e : ε)
  | outside (e : E)
  deriving DecidableEq

/-- What a turn can make of the statement of a session: its answer, and the store. -/
def Server.Outcome (server : Server S ε σ ι) (i : ι) (c : S.Stmt) (s : σ)
    (r : Except ε (S.Answer c)) (s' : σ) : Prop :=
  server.exec i c s = some (r, s') ∨ (∃ e, r = .error e) ∧ s' = server.abort i s

namespace Pool

variable [DecidableEq ι] (server : Server S ε σ ι) (tick : E → σ → σ)

/-- The pool after the statement of a session got an answer. -/
def answered (p : Pool S ε α σ ι) (i : ι) (c : S.Stmt)
    (k : Except ε (S.Answer c) → Prog S ε α) (r : Except ε (S.Answer c)) (s : σ) :
    Pool S ε α σ ι where
  store := s
  todo := Function.update p.todo i (k r)
  seen := Function.update p.seen i (p.seen i ++ [⟨c, r⟩])

/-- One turn of the pool. -/
def turn (p : Pool S ε α σ ι) : Turn ι ε E → Pool S ε α σ ι
  | .outside e => { p with store := tick e p.store }
  | .tries i =>
      match p.todo i with
      | .call c k =>
          match server.exec i c p.store with
          | some (r, s) => p.answered i c k r s
          | none => p
      | _ => p
  | .fails i e =>
      match p.todo i with
      | .call c k => p.answered i c k (.error e) (server.abort i p.store)
      | _ => p

/-- The pool after a schedule. -/
def serve (turns : List (Turn ι ε E)) (p : Pool S ε α σ ι) : Pool S ε α σ ι :=
  turns.foldl (turn server tick) p

/-- All that a turn can do: an outside event acts on the store alone; a session that has ended or
has to wait stays as it is; any other gets an answer. -/
lemma turn_cases (p : Pool S ε α σ ι) (m : Turn ι ε E) :
    (∃ e, p.turn server tick m = { p with store := tick e p.store })
      ∨ p.turn server tick m = p
      ∨ ∃ i c k r s, p.todo i = .call c k ∧ server.Outcome i c p.store r s
          ∧ p.turn server tick m = p.answered i c k r s := by
  cases m with
  | outside e => exact .inl ⟨e, rfl⟩
  | tries i =>
      rw [turn]
      split
      · rename_i c k hc
        split
        · rename_i r s hexec
          exact .inr (.inr ⟨i, c, k, r, s, hc, .inl hexec, rfl⟩)
        · exact .inr (.inl rfl)
      · exact .inr (.inl rfl)
  | fails i e =>
      rw [turn]
      split
      · rename_i c k hc
        exact .inr (.inr ⟨i, c, k, .error e, _, hc, .inr ⟨⟨e, rfl⟩, rfl⟩, rfl⟩)
      · exact .inr (.inl rfl)

/-- What every turn preserves, every schedule preserves. -/
lemma serve_preserves {server : Server S ε σ ι} {tick : E → σ → σ} {I : Pool S ε α σ ι → Prop}
    (hI : ∀ p m, I p → I (p.turn server tick m)) (turns : List (Turn ι ε E))
    {p : Pool S ε α σ ι} (h : I p) : I (p.serve server tick turns) := by
  induction turns generalizing p with
  | nil => exact h
  | cons m ms ih => exact ih (hI p m h)

/-- An answer keeps the guarantees if it is one of those that they are made for. -/
lemma GuaranteesIn.answered {A : (c : S.Stmt) → Except ε (S.Answer c) → Prop}
    {Q : ι → Log S ε → S.Stmt → Prop} {R : ι → Log S ε → Except ε α → Prop}
    {p : Pool S ε α σ ι} (h : p.GuaranteesIn A Q R) {i : ι} {c : S.Stmt}
    {k : Except ε (S.Answer c) → Prog S ε α} (hc : p.todo i = .call c k)
    {r : Except ε (S.Answer c)} (hr : A c r) (s : σ) :
    (p.answered i c k r s).GuaranteesIn A Q R := by
  intro j
  rw [Pool.answered]
  by_cases hj : j = i
  · subst hj
    obtain ⟨hlawful, hfollows⟩ := h j
    rw [hc] at hfollows
    dsimp only
    rw [Function.update_self, Function.update_self]
    exact ⟨Prog.lawful_concat.mpr ⟨hlawful, hfollows.1⟩, hfollows.2 r hr⟩
  · dsimp only
    rw [Function.update_of_ne hj, Function.update_of_ne hj]
    exact h j

end Pool

end Statement
