import Mathlib.Tactic

/-!
Runs of a labelled transition function under a schedule: what holds of every step and of every
state on the way.

* `EachStep`, `EachState`: a condition on every step, or a property of every state, of a run.
* `eachState_iff`: the states on the way are those reached by the prefixes of the schedule.
* `eachState_of_eachStep`, `eachState_of_step`, `eachStep_of_eachState`: the induction rules.
-/

namespace Statement

variable {State Label : Type} (step : State → Label → State)

/-- The condition `C` holds of every step of the run: of the state before it and its label. -/
def EachStep (C : State → Label → Prop) : List Label → State → Prop
  | [], _ => True
  | m :: ms, s => C s m ∧ EachStep C ms (step s m)

/-- The property `I` holds of every state the run passes through, first and last included. -/
def EachState (I : State → Prop) : List Label → State → Prop
  | [], s => I s
  | m :: ms, s => I s ∧ EachState I ms (step s m)

instance [∀ s m, Decidable (C s m)] : ∀ (sched : List Label) (s : State),
    Decidable (EachStep step C sched s)
  | [], _ => isTrue trivial
  | _ :: _, _ => @instDecidableAnd _ _ _ (instDecidableEachStep _ _)

variable {step} {I J : State → Prop} {C C' : State → Label → Prop}

lemma EachState.head {sched : List Label} {s : State} (h : EachState step I sched s) : I s := by
  cases sched with
  | nil => exact h
  | cons m ms => exact h.1

/-- The run passes through the states its schedule reaches part of the way. -/
lemma eachState_iff {sched : List Label} {s : State} :
    EachState step I sched s ↔ ∀ l, l <+: sched → I (l.foldl step s) := by
  induction sched generalizing s with
  | nil => simp [EachState]
  | cons m ms ih =>
      rw [EachState, ih]
      constructor
      · rintro ⟨h0, hs⟩ l hl
        cases l with
        | nil => exact h0
        | cons m' l' =>
            obtain ⟨rfl, hl'⟩ := List.cons_prefix_cons.mp hl
            exact hs l' hl'
      · intro h
        refine ⟨h [] List.nil_prefix, fun l hl => ?_⟩
        exact h (m :: l) (List.cons_prefix_cons.mpr ⟨rfl, hl⟩)

/-- The last state of a run. -/
lemma EachState.last {sched : List Label} {s : State} (h : EachState step I sched s) :
    I (sched.foldl step s) :=
  eachState_iff.mp h sched (List.prefix_refl _)

lemma EachState.mono (hIJ : ∀ s, I s → J s) {sched : List Label} {s : State}
    (h : EachState step I sched s) : EachState step J sched s := by
  rw [eachState_iff] at h ⊢
  exact fun l hl => hIJ _ (h l hl)

/-- A run in two parts. -/
lemma eachStep_append {l₁ l₂ : List Label} {s : State} :
    EachStep step C (l₁ ++ l₂) s ↔ EachStep step C l₁ s ∧ EachStep step C l₂ (l₁.foldl step s) := by
  induction l₁ generalizing s with
  | nil => simp [EachStep]
  | cons m ms ih => rw [List.cons_append, EachStep, EachStep, ih, List.foldl_cons, and_assoc]

/-- A condition on every step of a run holds on every step of its beginning. -/
lemma EachStep.take_append {l sched : List Label} {s : State} (h : EachStep step C sched s)
    (hl : l <+: sched) : EachStep step C l s := by
  obtain ⟨t, rfl⟩ := hl
  exact (eachStep_append.mp h).1

/-- The steps of a run are taken from the states its prefixes reach. -/
lemma eachStep_iff {sched : List Label} {s : State} :
    EachStep step C sched s ↔ ∀ l m, l ++ [m] <+: sched → C (l.foldl step s) m := by
  induction sched generalizing s with
  | nil => simp [EachStep]
  | cons m ms ih =>
      rw [EachStep, ih]
      constructor
      · rintro ⟨h0, hs⟩ l m' hl
        cases l with
        | nil =>
            obtain ⟨rfl, -⟩ := List.cons_prefix_cons.mp hl
            exact h0
        | cons a l' =>
            obtain ⟨rfl, hl'⟩ := List.cons_prefix_cons.mp hl
            exact hs l' m' hl'
      · intro h
        refine ⟨h [] m (List.cons_prefix_cons.mpr ⟨rfl, List.nil_prefix⟩), fun l m' hl => ?_⟩
        exact h (m :: l) m' (List.cons_prefix_cons.mpr ⟨rfl, hl⟩)

/-- A condition that the moves of a schedule meet in every state. -/
lemma eachStep_of_forall {sched : List Label} (h : ∀ m ∈ sched, ∀ s, C s m) (s : State) :
    EachStep step C sched s := by
  induction sched generalizing s with
  | nil => trivial
  | cons m ms ih =>
      exact ⟨h m List.mem_cons_self s, ih (fun m' hm' => h m' (List.mem_cons_of_mem _ hm')) _⟩

/-- **Induction along a run whose steps all meet a condition**: an invariant `J` of every step,
together with the condition, carries `I` from each state to the next. -/
theorem eachState_of_eachStep (hJ : ∀ s m, J s → J (step s m))
    (hstep : ∀ s m, J s → I s → C s m → I (step s m)) {sched : List Label} {s : State}
    (hj : J s) (hi : I s) (hC : EachStep step C sched s) : EachState step I sched s := by
  induction sched generalizing s with
  | nil => exact hi
  | cons m ms ih => exact ⟨hi, ih (hJ s m hj) (hstep s m hj hi hC.1) hC.2⟩

/-- **Induction along a run**: what every step keeps holds throughout. -/
theorem eachState_of_step (hstep : ∀ s m, I s → I (step s m)) {s : State} (hi : I s)
    (sched : List Label) : EachState step I sched s := by
  induction sched generalizing s with
  | nil => exact hi
  | cons m ms ih => exact ⟨hi, ih (hstep s m hi)⟩

/-- The converse rule: where the property holds throughout, so does any condition that a step
between two states with the property cannot break. -/
theorem eachStep_of_eachState (hJ : ∀ s m, J s → J (step s m))
    (hstep : ∀ s m, J s → I s → I (step s m) → C s m) {sched : List Label} {s : State}
    (hj : J s) (h : EachState step I sched s) : EachStep step C sched s := by
  induction sched generalizing s with
  | nil => trivial
  | cons m ms ih => exact ⟨hstep s m hj h.1 h.2.head, ih (hJ s m hj) h.2⟩

/-- A property that a step keeps from a state with `I` may be added to `I`. -/
theorem EachState.and_of_step {K : State → Prop} (hJ : ∀ s m, J s → J (step s m))
    (hstep : ∀ s m, J s → I s → K s → K (step s m)) {sched : List Label} {s : State} (hj : J s)
    (hk : K s) (h : EachState step I sched s) : EachState step (fun s => I s ∧ K s) sched s := by
  induction sched generalizing s with
  | nil => exact ⟨h, hk⟩
  | cons m ms ih => exact ⟨⟨h.1, hk⟩, ih (hJ s m hj) (hstep s m hj h.1 hk) h.2⟩

/-- A condition on steps implies another when an invariant makes it. -/
theorem EachStep.mono (hJ : ∀ s m, J s → J (step s m)) (hC : ∀ s m, J s → C s m → C' s m)
    {sched : List Label} {s : State} (hj : J s) (h : EachStep step C sched s) :
    EachStep step C' sched s := by
  induction sched generalizing s with
  | nil => trivial
  | cons m ms ih => exact ⟨hC s m hj h.1, ih (hJ s m hj) h.2⟩

/-- A condition on steps that carries an invariant along gives any other that follows from both. -/
theorem EachStep.carry (hstep : ∀ s m, I s → C s m → I (step s m) ∧ C' s m) {sched : List Label}
    {s : State} (hi : I s) (h : EachStep step C sched s) : EachStep step C' sched s := by
  induction sched generalizing s with
  | nil => trivial
  | cons m ms ih => exact ⟨(hstep s m hi h.1).2, ih (hstep s m hi h.1).1 h.2⟩

/-- A condition on steps may be replaced by one that an invariant makes equivalent. -/
theorem eachStep_congr (hJ : ∀ s m, J s → J (step s m)) (hC : ∀ s m, J s → (C s m ↔ C' s m))
    {sched : List Label} {s : State} (hj : J s) :
    EachStep step C sched s ↔ EachStep step C' sched s := by
  induction sched generalizing s with
  | nil => exact Iff.rfl
  | cons m ms ih => exact and_congr (hC s m hj) (ih (hJ s m hj))

/-- The same, for an invariant that only the steps with the condition keep. -/
theorem eachStep_congr_of_step (hC : ∀ s m, I s → (C s m ↔ C' s m))
    (hstep : ∀ s m, I s → C s m → I (step s m)) {sched : List Label} {s : State} (hi : I s) :
    EachStep step C sched s ↔ EachStep step C' sched s := by
  induction sched generalizing s with
  | nil => exact Iff.rfl
  | cons m ms ih =>
      refine (and_congr_right fun hm => ih (hstep s m hi hm)).trans ?_
      exact and_congr_left fun _ => hC s m hi

/-- What holds at the end of a run and not at its start has come to hold by one of its steps. -/
lemma exists_moment {P : State → Prop} {sched : List Label} {s : State} (hstart : ¬ P s)
    (hend : P (sched.foldl step s)) :
    ∃ l m, l ++ [m] <+: sched ∧ ¬ P (l.foldl step s) ∧ P (step (l.foldl step s) m) := by
  induction sched generalizing s with
  | nil => exact absurd hend hstart
  | cons m ms ih =>
      by_cases hfirst : P (step s m)
      · exact ⟨[], m, List.cons_prefix_cons.mpr ⟨rfl, List.nil_prefix⟩, hstart, hfirst⟩
      · obtain ⟨l, m', hl, hbefore, hafter⟩ := ih hfirst hend
        exact ⟨m :: l, m', List.cons_prefix_cons.mpr ⟨rfl, hl⟩, hbefore, hafter⟩

end Statement
