import Mathlib.Algebra.BigOperators.Pi
import Mathlib.Algebra.Order.BigOperators.Group.Finset
import InduSense.Statement.Interleave

/-!
What programs side by side have written, read off their logs.

* `flaky`: a store whose statements meet the faults of a stream.
* `Pool.total`: the sum of a measure over the logs of all programs; `total_step`.
* `Pool.ledger_bounds`: a ledger in the store to which a statement adds no less and no more than two
  measures of it stays between their totals, in every interleaving.
-/

namespace Statement

variable {S : Signature} {ε α σ ι E M δ : Type}

/-! ### Faults -/

/-- A store whose next statements meet the faults of a stream: where there is one, the statement is
answered with an exception, and has been carried out or not. -/
def flaky (x : Exec S ε σ) (err : δ → ε) : Exec S ε (σ × (ℕ → Option (δ × Bool))) := fun c s =>
  match s.2 0 with
  | none => ((x c s.1).1, (x c s.1).2, fun n => s.2 (n + 1))
  | some (e, applied) =>
      (.error (err e), if applied then (x c s.1).2 else s.1, fun n => s.2 (n + 1))

/-- A statement is answered by the store, or by a fault. -/
lemma flaky_cases (x : Exec S ε σ) (err : δ → ε) (c : S.Stmt)
    (s : σ × (ℕ → Option (δ × Bool))) :
    ((flaky x err c s).1 = (x c s.1).1 ∧ (flaky x err c s).2.1 = (x c s.1).2)
      ∨ (∃ e, (flaky x err c s).1 = .error (err e))
        ∧ ((flaky x err c s).2.1 = (x c s.1).2 ∨ (flaky x err c s).2.1 = s.1) := by
  rw [flaky]
  cases s.2 0 with
  | none => exact .inl ⟨rfl, rfl⟩
  | some fault =>
      obtain ⟨e, applied⟩ := fault
      refine .inr ⟨⟨e, rfl⟩, ?_⟩
      cases applied with
      | true => exact .inl rfl
      | false => exact .inr rfl

/-! ### Ledgers -/

namespace Pool

variable [Fintype ι] [AddCommMonoid M]

/-- The sum of a measure over the logs. -/
def total (g : Entry S ε → M) (p : Pool S ε α σ ι) : M := ∑ i, ((p.seen i).map g).sum

variable {g : Entry S ε → M}

lemma total_start (calls : ι → Prog S ε α) (s : σ) : (start calls s).total g = 0 := by
  simp [total, start]

variable [DecidableEq ι] {x : Exec S ε σ} {tick : E → σ → σ}

/-- A statement adds its own measure. -/
lemma total_update (p : Pool S ε α σ ι) (i : ι) (e : Entry S ε) :
    ∑ j, ((Function.update p.seen i (p.seen i ++ [e]) j).map g).sum = p.total g + g e := by
  have hpoint : ∀ j, ((Function.update p.seen i (p.seen i ++ [e]) j).map g).sum
      = ((p.seen j).map g).sum + if j = i then g e else 0 := by
    intro j
    by_cases hj : j = i
    · subst hj
      simp
    · simp [hj]
  simp only [hpoint, Finset.sum_add_distrib, Finset.sum_ite_eq', Finset.mem_univ, if_true, total]

omit [Fintype ι] [AddCommMonoid M] [DecidableEq ι] in
/-- The measure of a log that counts what its entries amount to. -/
lemma sum_map_toList {β : Type} (f : Entry S ε → Option β) (l : Log S ε) :
    (l.map fun e => (((f e).toList : List β) : Multiset β)).sum = (l.filterMap f : List β) := by
  induction l with
  | nil => rfl
  | cons e l ih =>
      rw [List.map_cons, List.sum_cons, ih]
      cases h : f e with
      | none => simp [h]
      | some b => simp [h]

section Bounds

variable [PartialOrder M] [IsOrderedAddMonoid M] {L : σ → M} {lo hi : Entry S ε → M}

/-- A ledger is between the totals of two measures, from what it held at first on. -/
def Between (L : σ → M) (base : M) (lo hi : Entry S ε → M) (p : Pool S ε α σ ι) : Prop :=
  base + p.total lo ≤ L p.store ∧ L p.store ≤ base + p.total hi

/-- **One step keeps the bounds.** -/
lemma Between.step (hexec : ∀ c s, L s + lo ⟨c, (x c s).1⟩ ≤ L (x c s).2
      ∧ L (x c s).2 ≤ L s + hi ⟨c, (x c s).1⟩)
    (htick : ∀ e s, L (tick e s) = L s) {base : M} {p : Pool S ε α σ ι}
    (h : p.Between L base lo hi) (m : Move ι E) : (p.step x tick m).Between L base lo hi := by
  obtain ⟨hlo, hhi⟩ := h
  rcases step_cases x tick p m with ⟨e, rfl, hs⟩ | ⟨i, rfl, -, hs⟩ | ⟨i, c, k, rfl, -, -, hs⟩
  · rw [hs]
    exact ⟨hlo.trans_eq (htick e p.store).symm, (htick e p.store).trans_le hhi⟩
  · rw [hs]
    exact ⟨hlo, hhi⟩
  · rw [hs]
    obtain ⟨hadds, hbounds⟩ := hexec c p.store
    constructor
    · calc base + ∑ j, ((Function.update p.seen i _ j).map lo).sum
          = base + p.total lo + lo ⟨c, (x c p.store).1⟩ := by rw [total_update, add_assoc]
        _ ≤ L p.store + lo ⟨c, (x c p.store).1⟩ := by gcongr
        _ ≤ L (x c p.store).2 := hadds
    · calc L (x c p.store).2 ≤ L p.store + hi ⟨c, (x c p.store).1⟩ := hbounds
        _ ≤ base + p.total hi + hi ⟨c, (x c p.store).1⟩ := by gcongr
        _ = base + ∑ j, ((Function.update p.seen i _ j).map hi).sum := by
          rw [total_update, add_assoc]

variable (L lo hi) in
/-- **A ledger and the logs**: in every interleaving, the ledger holds no less and no more than what
the logs account for. -/
theorem ledger_bounds (hexec : ∀ c s, L s + lo ⟨c, (x c s).1⟩ ≤ L (x c s).2
      ∧ L (x c s).2 ≤ L s + hi ⟨c, (x c s).1⟩)
    (htick : ∀ e s, L (tick e s) = L s) (calls : ι → Prog S ε α) (s : σ)
    (sched : List (Move ι E)) : ((start calls s).exec x tick sched).Between L (L s) lo hi := by
  refine exec_preserves (fun p m h => h.step hexec htick m) sched ⟨?_, ?_⟩
  · rw [total_start, add_zero]
    exact le_rfl
  · rw [total_start, add_zero]
    exact le_rfl

end Bounds

end Pool

end Statement
