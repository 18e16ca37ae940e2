import InduSense.Statement.Guarantee
import InduSense.Statement.Schedule

/-!
Programs running side by side on one store: each statement is atomic, and between two
statements of one program any number of statements of the others may run.

* `Pool`, `Move`, `Pool.step`, `Pool.exec`: any family of programs on a store, and its run under
  a schedule, which says whose statement is next or what happens to the store from outside
  (time passing).  A program that is never scheduled again has crashed.
* `Pool.step_cases`: all that a step can do; `Pool.exec_preserves`: what every step preserves.
* `Pool.Guarantees`: the guarantees of the programs, which every step keeps (`Guarantees.step`) and
  every next statement (`Guarantees.next`) and every result (`Guarantees.returned`) meets;
  `Pool.Follows` is the case of one guarantee on the statements of all.
* `Pool.GuaranteesIn`: the same for the answers the store can give.
* `Pool.exists_ended`: every program ends if it is scheduled often enough.
* `Pool.Honest`: the logs hold the answers the store gave.
-/

namespace Statement

variable {S : Signature} {ε α β σ ι E : Type}

/-- Programs running side by side: the store, what each has left to do, and the statements
each has issued with the answers it saw. -/
structure Pool (S : Signature) (ε α σ ι : Type) where
  store : σ
  todo : ι → Prog S ε α
  seen : ι → Log S ε

/-- One move of a schedule: a statement of the program `i`, or an event outside of them. -/
inductive Move (ι E : Type) where
  | thread (i : ι)
  | outside (e : E)
  deriving DecidableEq

/-- The numerals that name three threads in a schedule. -/
instance instNeZeroThree : NeZero 3 := ⟨by decide⟩

namespace Pool

/-- The pool before the first statement. -/
def start (calls : ι → Prog S ε α) (s : σ) : Pool S ε α σ ι := ⟨s, calls, fun _ => []⟩

/-- The statement the program `i` is about to issue, if it has not ended. -/
def next (p : Pool S ε α σ ι) (i : ι) : Option S.Stmt := (p.todo i).next

variable [DecidableEq ι] (x : Exec S ε σ) (tick : E → σ → σ)

/-- One move of the pool; scheduling a program that has ended changes nothing. -/
def step (p : Pool S ε α σ ι) : Move ι E → Pool S ε α σ ι
  | .outside e => { p with store := tick e p.store }
  | .thread i =>
      match p.todo i with
      | .call c k =>
          { store := (x c p.store).2
            todo := Function.update p.todo i (k (x c p.store).1)
            seen := Function.update p.seen i (p.seen i ++ [⟨c, (x c p.store).1⟩]) }
      | _ => p

/-- The pool after a schedule. -/
def exec (sched : List (Move ι E)) (p : Pool S ε α σ ι) : Pool S ε α σ ι :=
  sched.foldl (step x tick) p

@[simp] lemma exec_nil (p : Pool S ε α σ ι) : p.exec x tick [] = p := rfl

@[simp] lemma exec_cons (m : Move ι E) (ms : List (Move ι E)) (p : Pool S ε α σ ι) :
    p.exec x tick (m :: ms) = (p.step x tick m).exec x tick ms := rfl

lemma exec_append (l₁ l₂ : List (Move ι E)) (p : Pool S ε α σ ι) :
    p.exec x tick (l₁ ++ l₂) = (p.exec x tick l₁).exec x tick l₂ := by
  rw [exec, exec, exec, List.foldl_append]

/-- What every move preserves, every schedule preserves. -/
lemma exec_preserves {x : Exec S ε σ} {tick : E → σ → σ} {I : Pool S ε α σ ι → Prop}
    (hI : ∀ p m, I p → I (p.step x tick m)) (sched : List (Move ι E)) {p : Pool S ε α σ ι}
    (h : I p) : I (p.exec x tick sched) := by
  induction sched generalizing p with
  | nil => exact h
  | cons m ms ih => exact ih (hI p m h)

@[simp] lemma step_outside (e : E) (p : Pool S ε α σ ι) :
    p.step x tick (.outside e) = { p with store := tick e p.store } := rfl

/-- The move of a program that is about to issue `c`. -/
lemma step_call {p : Pool S ε α σ ι} {i : ι} {c : S.Stmt}
    {k : Except ε (S.Answer c) → Prog S ε α} (h : p.todo i = .call c k) :
    p.step x tick (.thread i) =
      { store := (x c p.store).2
        todo := Function.update p.todo i (k (x c p.store).1)
        seen := Function.update p.seen i (p.seen i ++ [⟨c, (x c p.store).1⟩]) } := by
  rw [step, h]

/-- All that a step can do: an outside event acts on the store alone; a program that has ended
does nothing; any other issues one statement and goes on with its answer. -/
lemma step_cases (p : Pool S ε α σ ι) (m : Move ι E) :
    (∃ e, m = .outside e ∧ p.step x tick m = { p with store := tick e p.store })
      ∨ (∃ i, m = .thread i ∧ p.next i = none ∧ p.step x tick m = p)
      ∨ ∃ i c k, m = .thread i ∧ p.todo i = .call c k ∧ p.next i = some c
          ∧ p.step x tick m =
            { store := (x c p.store).2
              todo := Function.update p.todo i (k (x c p.store).1)
              seen := Function.update p.seen i (p.seen i ++ [⟨c, (x c p.store).1⟩]) } := by
  cases m with
  | outside e => exact .inl ⟨e, rfl, rfl⟩
  | thread i =>
      cases h : p.todo i with
      | ret a => exact .inr (.inl ⟨i, rfl, by rw [next, h]; rfl, by rw [step, h]⟩)
      | raise e => exact .inr (.inl ⟨i, rfl, by rw [next, h]; rfl, by rw [step, h]⟩)
      | call c k =>
          exact .inr (.inr ⟨i, c, k, rfl, h, by rw [next, h]; rfl, step_call x tick h⟩)

/-- What a program has seen changes only when it issues a statement itself. -/
lemma seen_step (p : Pool S ε α σ ι) (m : Move ι E) (j : ι) :
    (p.step x tick m).seen j = p.seen j
      ∨ ∃ c, m = .thread j ∧ p.next j = some c
          ∧ (p.step x tick m).seen j = p.seen j ++ [⟨c, (x c p.store).1⟩]
          ∧ (p.step x tick m).store = (x c p.store).2 := by
  rcases step_cases x tick p m with ⟨e, rfl, hs⟩ | ⟨i, rfl, -, hs⟩ | ⟨i, c, k, rfl, -, hnext, hs⟩
  · exact .inl rfl
  · exact .inl (by rw [hs])
  · rw [hs]
    by_cases hj : j = i
    · subst hj
      exact .inr ⟨c, rfl, hnext, Function.update_self .., rfl⟩
    · exact .inl (Function.update_of_ne hj ..)

/-- What a program has seen it has seen for good. -/
lemma seen_prefix_step (p : Pool S ε α σ ι) (m : Move ι E) (j : ι) :
    p.seen j <+: (p.step x tick m).seen j := by
  rcases seen_step x tick p m j with h | ⟨c, -, -, h, -⟩
  · rw [h]
  · rw [h]
    exact List.prefix_append _ _

end Pool

/-! ### Guarantees in every interleaving -/

namespace Pool

variable [DecidableEq ι] {x : Exec S ε σ} {tick : E → σ → σ}

/-- Each program `i` of the pool guarantees `Q i` of what it has left to do, from its own log on,
and `R i` of its end. -/
def Guarantees (Q : ι → Log S ε → S.Stmt → Prop) (R : ι → Log S ε → Except ε α → Prop)
    (p : Pool S ε α σ ι) : Prop :=
  ∀ i, Prog.Follows (Q i) (R i) (p.todo i) (p.seen i)

section Guarantees

variable {Q : ι → Log S ε → S.Stmt → Prop} {R : ι → Log S ε → Except ε α → Prop}

/-- A step keeps the guarantee: the program that moves goes on with one more entry in its log,
the others have neither moved nor seen anything. -/
lemma Guarantees.step {p : Pool S ε α σ ι} (h : p.Guarantees Q R) (m : Move ι E) :
    (p.step x tick m).Guarantees Q R := by
  rcases step_cases x tick p m with ⟨e, rfl, hs⟩ | ⟨i, rfl, -, hs⟩ | ⟨i, c, k, rfl, hc, -, hs⟩
  · rw [hs]; exact h
  · rw [hs]; exact h
  · rw [hs]
    intro j
    by_cases hj : j = i
    · subst hj
      have hi := h j
      rw [hc] at hi
      simpa using hi.2 _
    · simpa [Function.update_of_ne hj] using h j

omit [DecidableEq ι] in
/-- The next statement of a program satisfies the guarantee with the log it has seen. -/
lemma Guarantees.next {p : Pool S ε α σ ι} (h : p.Guarantees Q R) {i : ι} {c : S.Stmt}
    (hc : p.next i = some c) : Q i (p.seen i) c := by
  have hi := h i
  cases hp : p.todo i with
  | ret a => rw [Pool.next, hp] at hc; exact absurd hc (by simp [Prog.next])
  | raise e => rw [Pool.next, hp] at hc; exact absurd hc (by simp [Prog.next])
  | call c' k =>
      rw [Pool.next, hp, Prog.next_call, Option.some.injEq] at hc
      subst hc
      rw [hp] at hi
      exact hi.1

omit [DecidableEq ι] in
/-- A program that has returned satisfies the guarantee with the log it has seen. -/
lemma Guarantees.returned {p : Pool S ε α σ ι} (h : p.Guarantees Q R) {i : ι} {a : α}
    (ha : p.todo i = .ret a) : R i (p.seen i) (.ok a) := by
  have hi := h i
  rw [ha] at hi
  exact hi

end Guarantees

variable {Q : Log S ε → S.Stmt → Prop}

/-- Each program of the pool guarantees `Q` of what it has left to do, from its own log on. -/
def Follows (Q : Log S ε → S.Stmt → Prop) (p : Pool S ε α σ ι) : Prop :=
  ∀ i, Prog.Follows Q (fun _ _ => True) (p.todo i) (p.seen i)

/-- A step keeps the guarantee. -/
lemma Follows.step {p : Pool S ε α σ ι} (h : p.Follows Q) (m : Move ι E) :
    (p.step x tick m).Follows Q :=
  Guarantees.step (Q := fun _ => Q) (R := fun _ _ _ => True) h m

omit [DecidableEq ι] in
/-- The next statement of a program satisfies the guarantee with the log it has seen. -/
lemma Follows.next {p : Pool S ε α σ ι} (h : p.Follows Q) {i : ι} {c : S.Stmt}
    (hc : p.next i = some c) : Q (p.seen i) c :=
  Guarantees.next (Q := fun _ => Q) (R := fun _ _ _ => True) h hc

/-- Each program `i` of the pool guarantees `Q i` and `R i` for the answers in `A`, and its log so
far satisfies `Q i`. -/
def GuaranteesIn (A : (c : S.Stmt) → Except ε (S.Answer c) → Prop)
    (Q : ι → Log S ε → S.Stmt → Prop) (R : ι → Log S ε → Except ε α → Prop)
    (p : Pool S ε α σ ι) : Prop :=
  ∀ i, Prog.Lawful (Q i) (p.seen i) ∧ Prog.FollowsIn A (Q i) (R i) (p.todo i) (p.seen i)

section GuaranteesIn

variable {A : (c : S.Stmt) → Except ε (S.Answer c) → Prop} {Q : ι → Log S ε → S.Stmt → Prop}
  {R : ι → Log S ε → Except ε α → Prop}

omit [DecidableEq ι] in
/-- Programs with the guarantee have it before their first statement. -/
lemma guaranteesIn_start {calls : ι → Prog S ε α} {s : σ}
    (h : ∀ i, Prog.FollowsIn A (Q i) (R i) (calls i) []) : (start calls s).GuaranteesIn A Q R :=
  fun i => ⟨Prog.lawful_nil, h i⟩

/-- A step keeps the guarantee where the store gives answers in `A` only. -/
lemma GuaranteesIn.step (hA : ∀ c s, A c (x c s).1) {p : Pool S ε α σ ι}
    (h : p.GuaranteesIn A Q R) (m : Move ι E) : (p.step x tick m).GuaranteesIn A Q R := by
  rcases step_cases x tick p m with ⟨e, rfl, hs⟩ | ⟨i, rfl, -, hs⟩ | ⟨i, c, k, rfl, hc, -, hs⟩
  · rw [hs]; exact h
  · rw [hs]; exact h
  · rw [hs]
    intro j
    by_cases hj : j = i
    · subst hj
      obtain ⟨hlawful, hfollows⟩ := h j
      rw [hc] at hfollows
      simpa using And.intro (Prog.lawful_concat.mpr ⟨hlawful, hfollows.1⟩)
        (hfollows.2 _ (hA c p.store))
    · simpa [Function.update_of_ne hj] using h j

/-- So does a run. -/
lemma GuaranteesIn.exec (hA : ∀ c s, A c (x c s).1) {p : Pool S ε α σ ι}
    (h : p.GuaranteesIn A Q R) (sched : List (Move ι E)) :
    (p.exec x tick sched).GuaranteesIn A Q R :=
  exec_preserves (fun _ m hp => hp.step hA m) sched h

omit [DecidableEq ι] in
/-- The next statement of a program satisfies the guarantee with the log it has seen. -/
lemma GuaranteesIn.next {p : Pool S ε α σ ι} (h : p.GuaranteesIn A Q R) {i : ι} {c : S.Stmt}
    (hc : p.next i = some c) : Q i (p.seen i) c := by
  have hfollows := (h i).2
  cases hp : p.todo i with
  | ret a => rw [Pool.next, hp] at hc; cases hc
  | raise e => rw [Pool.next, hp] at hc; cases hc
  | call c' k =>
      rw [Pool.next, hp, Prog.next_call, Option.some.injEq] at hc
      subst hc
      rw [hp] at hfollows
      exact hfollows.1

omit [DecidableEq ι] in
/-- A program that has ended satisfies the guarantee with the log it has seen. -/
lemma GuaranteesIn.ended {p : Pool S ε α σ ι} (h : p.GuaranteesIn A Q R) {i : ι} :
    (∀ a, p.todo i = .ret a → R i (p.seen i) (.ok a))
      ∧ ∀ e, p.todo i = .raise e → R i (p.seen i) (.error e) := by
  obtain ⟨-, hfollows⟩ := h i
  refine ⟨fun a ha => ?_, fun e he => ?_⟩
  · rwa [ha] at hfollows
  · rwa [he] at hfollows

end GuaranteesIn

/-- A program that is scheduled often enough ends. -/
lemma exists_ended (x : Exec S ε σ) (tick : E → σ → σ) (p : Pool S ε α σ ι) (i : ι) :
    ∃ n, (p.exec x tick (List.replicate n (.thread i))).next i = none := by
  suffices ∀ (q : Prog S ε α) (p : Pool S ε α σ ι), p.todo i = q →
      ∃ n, (p.exec x tick (List.replicate n (.thread i))).next i = none from this _ p rfl
  intro q
  induction q with
  | ret a => exact fun p hp => ⟨0, by rw [List.replicate_zero, exec_nil, next, hp]; rfl⟩
  | raise e => exact fun p hp => ⟨0, by rw [List.replicate_zero, exec_nil, next, hp]; rfl⟩
  | call c k ih =>
      intro p hp
      obtain ⟨n, hn⟩ := ih (x c p.store).1 (p.step x tick (.thread i))
        (by rw [step_call x tick hp]; exact Function.update_self ..)
      exact ⟨n + 1, by rwa [List.replicate_succ, exec_cons]⟩

/-- Every answer in the logs is one that the store gave. -/
def Honest (x : Exec S ε σ) (p : Pool S ε α σ ι) : Prop :=
  ∀ i, ∀ e ∈ p.seen i, ∃ s, e.answer = (x e.stmt s).1

omit [DecidableEq ι] in
lemma honest_start (calls : ι → Prog S ε α) (s : σ) : (start calls s).Honest x :=
  fun _ e he => by cases he

lemma Honest.step {p : Pool S ε α σ ι} (h : p.Honest x) (m : Move ι E) :
    (p.step x tick m).Honest x := by
  intro i e he
  rcases seen_step x tick p m i with hs | ⟨c, -, -, hs, -⟩
  · rw [hs] at he
    exact h i e he
  · rw [hs] at he
    rcases List.mem_append.mp he with he | he
    · exact h i e he
    · rw [List.mem_singleton] at he
      subst he
      exact ⟨p.store, rfl⟩

end Pool

end Statement
