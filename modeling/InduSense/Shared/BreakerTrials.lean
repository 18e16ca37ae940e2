import InduSense.Shared.BreakerCalls

/-!
The trials of a circuit breaker.

* `step_flights`: what a step does to the breaker and to the calls in flight.
* `never_wedged`: a half-open breaker waits for a call in flight, and an idle one lets a call
  through once its cooldown has elapsed.
* `NoStaleResult`: a call admitted by the closed breaker does not record its result while a trial
  is under way, nor a success while the breaker is cooling.
* `one_trial`: under that condition there is at most one trial at a time, and nothing closes the
  breaker while it is cooling.
-/

namespace InduSense

namespace BreakerCalls

open Statement (Pool Move EachStep EachState eachState_of_eachStep)

variable {ι : Type} [DecidableEq ι]

/-! ### What a step does -/

/-- Nobody takes off or lands, and the breaker stays as it is. -/
structure Quiet (p p' : Calls ι) : Prop where
  breaker : p'.store.breaker = p.store.breaker
  inFlight : ∀ j, InFlight p' j ↔ InFlight p j
  trials : ∀ j, TrialInFlight p' j ↔ TrialInFlight p j

/-- The closed breaker lets the call `i` through. -/
structure Admits (p p' : Calls ι) (i : ι) : Prop where
  found : p.store.breaker.state = .CLOSED
  breaker : p'.store.breaker = p.store.breaker
  inFlight : ∀ j, InFlight p' j ↔ j = i ∨ InFlight p j
  trials : ∀ j, TrialInFlight p' j ↔ TrialInFlight p j

/-- The open breaker lets the call `i` through as a trial. -/
structure Tries (p p' : Calls ι) (i : ι) : Prop where
  found : p.store.breaker.state = .OPEN
  elapsed : p.store.breaker.cooldown ≤ p.store.now - p.store.breaker.openedAt
  breaker : p'.store.breaker = { p.store.breaker with state := .HALF_OPEN }
  inFlight : ∀ j, InFlight p' j ↔ j = i ∨ InFlight p j
  trials : ∀ j, TrialInFlight p' j ↔ j = i ∨ TrialInFlight p j

/-- The call `i` records its result. -/
structure Records (p p' : Calls ι) (i : ι) : Prop where
  breaker : (p.next i = some .recordSuccess ∧ p'.store.breaker = p.store.breaker.recordSuccess)
    ∨ (p.next i = some .recordFailure
        ∧ p'.store.breaker = p.store.breaker.recordFailure p.store.now)
  was : InFlight p i
  inFlight : ∀ j, InFlight p' j ↔ j ≠ i ∧ InFlight p j
  trials : ∀ j, TrialInFlight p' j ↔ j ≠ i ∧ TrialInFlight p j

/-- A step that adds `e` to the log of the call `i` leaves the logs of the others. -/
lemma flights_of_seen {p p' : Calls ι} {i : ι} {e : Statement.Entry Breaking PyError}
    (hseen : p'.seen = Function.update p.seen i (p.seen i ++ [e])) :
    p'.seen i = p.seen i ++ [e]
      ∧ ∀ j, j ≠ i → (InFlight p' j ↔ InFlight p j) ∧ (TrialInFlight p' j ↔ TrialInFlight p j) := by
  refine ⟨by rw [hseen, Function.update_self], fun j hj => ?_⟩
  have hother : p'.seen j = p.seen j := by rw [hseen, Function.update_of_ne hj]
  rw [TrialInFlight, TrialInFlight, InFlight, InFlight, hother]
  exact ⟨Iff.rfl, Iff.rfl⟩

/-- A step after which the call `i` has done nothing that counts. -/
lemma quiet_of_seen {p p' : Calls ι} {i : ι} {e : Statement.Entry Breaking PyError}
    (hbreaker : p'.store.breaker = p.store.breaker)
    (hseen : p'.seen = Function.update p.seen i (p.seen i ++ [e]))
    (ha : admits e = false) (ht : admitsTrial e = false) (hr : records e = false) :
    Quiet p p' := by
  obtain ⟨hself, hother⟩ := flights_of_seen hseen
  have hin : InFlight p' i ↔ InFlight p i := by
    rw [InFlight, InFlight, hself, inFlight_append ha hr]
  have htr : TrialInFlight p' i ↔ TrialInFlight p i := by
    rw [TrialInFlight, TrialInFlight, hin, hself, List.any_append, List.any_cons, ht]
    simp
  refine ⟨hbreaker, fun j => ?_, fun j => ?_⟩
  · by_cases hj : j = i
    · rw [hj, hin]
    · exact (hother j hj).1
  · by_cases hj : j = i
    · rw [hj, htr]
    · exact (hother j hj).2

/-- A step in which the call `i` is let through, having found the breaker in a given state. -/
lemma admitted_of_seen {p p' : Calls ι} {i : ι} {found : BreakerState}
    (hseen : p'.seen = Function.update p.seen i (p.seen i ++ [⟨.allow, .ok (true, found)⟩]))
    (hnew : p.seen i = []) :
    (∀ j, InFlight p' j ↔ j = i ∨ InFlight p j)
      ∧ ∀ j, TrialInFlight p' j ↔ (j = i ∧ found = .OPEN) ∨ TrialInFlight p j := by
  obtain ⟨hself, hother⟩ := flights_of_seen hseen
  rw [hnew, List.nil_append] at hself
  have hold : ¬ InFlight p i := by simp [InFlight, inFlight, hnew]
  have hin : InFlight p' i := by simp [InFlight, inFlight, hself, admits, records]
  have htr : TrialInFlight p' i ↔ found = .OPEN := by simp [TrialInFlight, hin, hself, admitsTrial]
  constructor
  · intro j
    by_cases hj : j = i
    · subst hj
      exact iff_of_true hin (.inl rfl)
    · rw [(hother j hj).1]
      exact ⟨.inr, fun h => h.resolve_left hj⟩
  · intro j
    by_cases hj : j = i
    · subst hj
      rw [htr]
      exact ⟨fun h => .inl ⟨rfl, h⟩, fun h => h.elim And.right fun h' => absurd h'.1 hold⟩
    · rw [(hother j hj).2]
      exact ⟨.inr, fun h => h.resolve_left fun h' => hj h'.1⟩

/-- A step in which the call `i` records its result. -/
lemma recorded_of_seen {p p' : Calls ι} {i : ι} {e : Statement.Entry Breaking PyError}
    (hseen : p'.seen = Function.update p.seen i (p.seen i ++ [e])) (hr : records e = true) :
    (∀ j, InFlight p' j ↔ j ≠ i ∧ InFlight p j)
      ∧ ∀ j, TrialInFlight p' j ↔ j ≠ i ∧ TrialInFlight p j := by
  obtain ⟨hself, hother⟩ := flights_of_seen hseen
  have hin : ¬ InFlight p' i := by simp [InFlight, hself, inFlight_append_record hr]
  constructor
  · intro j
    by_cases hj : j = i
    · subst hj
      exact iff_of_false hin fun h => h.1 rfl
    · rw [(hother j hj).1]
      exact ⟨fun h => ⟨hj, h⟩, And.right⟩
  · intro j
    by_cases hj : j = i
    · subst hj
      exact iff_of_false (fun h => hin h.1) fun h => h.1 rfl
    · rw [(hother j hj).2]
      exact ⟨fun h => ⟨hj, h⟩, And.right⟩

/-- All that a step can do to the breaker and the calls in flight. -/
lemma step_flights {p : Calls ι} (h : p.Follows RecordsOnce) (m : Move ι Weather) :
    Quiet p (step p m)
      ∨ ∃ i, m = .thread i
        ∧ (Admits p (step p m) i ∨ Tries p (step p m) i ∨ Records p (step p m) i) := by
  rcases Pool.step_cases World.exec World.weather p m with
    ⟨e, rfl, hs⟩ | ⟨i, rfl, -, hs⟩ | ⟨i, c, k, rfl, -, hnext, hs⟩
  · refine .inl ⟨?_, fun j => Iff.rfl, fun j => Iff.rfl⟩
    cases e with
    | elapse dt => rfl
    | answer reply => rfl
  · rw [step, hs]
    exact .inl ⟨rfl, fun j => Iff.rfl, fun j => Iff.rfl⟩
  · have hg := h.next hnext
    have hstore := congrArg Pool.store hs
    have hseen := congrArg Pool.seen hs
    cases c with
    | allow =>
        rcases CircuitBreaker.allow_cases p.store.breaker p.store.now with
          ⟨hfound, hallow⟩ | ⟨hfound, helapsed, hallow⟩ | ⟨-, hallow⟩ | ⟨-, hallow⟩
        · simp only [World.exec, hallow, hfound] at hstore hseen
          obtain ⟨hin, htr⟩ := admitted_of_seen hseen hg
          exact .inr ⟨i, rfl, .inl ⟨hfound, by rw [hstore], hin, fun j => by simp [htr j]⟩⟩
        · simp only [World.exec, hallow, hfound] at hstore hseen
          obtain ⟨hin, htr⟩ := admitted_of_seen hseen hg
          exact .inr ⟨i, rfl, .inr (.inl
            ⟨hfound, helapsed, by rw [hstore], hin, fun j => by simp [htr j]⟩)⟩
        · simp only [World.exec, hallow] at hstore hseen
          exact .inl (quiet_of_seen (by rw [hstore]) hseen rfl rfl rfl)
        · simp only [World.exec, hallow] at hstore hseen
          exact .inl (quiet_of_seen (by rw [hstore]) hseen rfl rfl rfl)
    | recordSuccess =>
        obtain ⟨hin, htr⟩ := recorded_of_seen hseen rfl
        exact .inr ⟨i, rfl, .inr (.inr ⟨.inl ⟨hnext, by rw [hstore]; rfl⟩, hg, hin, htr⟩)⟩
    | recordFailure =>
        obtain ⟨hin, htr⟩ := recorded_of_seen hseen rfl
        exact .inr ⟨i, rfl, .inr (.inr ⟨.inr ⟨hnext, by rw [hstore]; rfl⟩, hg, hin, htr⟩)⟩
    | tryWrite => exact .inl (quiet_of_seen (by rw [hstore]; rfl) hseen rfl rfl rfl)
    | sleep delay =>
        refine .inl (quiet_of_seen ?_ hseen rfl rfl rfl)
        rw [hstore, World.exec]
        split <;> rfl

/-! ### The breaker never wedges -/

/-- The calls after a schedule, on a breaker that has just been made. -/
def after (calls : ι → Call) (threshold : ℤ) (cooldown : Time) (sched : List (Move ι Weather)) :
    Calls ι :=
  (start calls (World.init threshold cooldown)).exec World.exec World.weather sched

/-- A step opens the breaker, or opens it anew: it records a failure and leaves the breaker open. -/
def Opens (p : Calls ι) (m : Move ι Weather) : Prop :=
  (∃ i, m = .thread i ∧ p.next i = some .recordFailure)
    ∧ (step p m).store.breaker.state = .OPEN

omit [DecidableEq ι] in
lemma recordsOnce_start (calls : ι → Call) (w : World) :
    (start calls w).Follows RecordsOnce :=
  fun i => (recordsOnce_prog (calls i)).mono fun _ _ _ => trivial

/-- A half-open breaker waits for a call in flight. -/
def Awaits (p : Calls ι) : Prop := p.store.breaker.state = .HALF_OPEN → ∃ i, InFlight p i

/-- The call that is waited for stays in flight until some result is recorded, and any result
leaves the half-open state. -/
lemma awaits_step {p : Calls ι} (h : p.Follows RecordsOnce) (hp : Awaits p) (m : Move ι Weather) :
    Awaits (step p m) := by
  intro hhalf
  rcases step_flights h m with hq | ⟨i, -, ha | ht | hr⟩
  · rw [hq.breaker] at hhalf
    obtain ⟨j, hj⟩ := hp hhalf
    exact ⟨j, (hq.inFlight j).mpr hj⟩
  · exact ⟨i, (ha.inFlight i).mpr (.inl rfl)⟩
  · exact ⟨i, (ht.inFlight i).mpr (.inl rfl)⟩
  · exfalso
    rcases hr.breaker with ⟨-, hb⟩ | ⟨-, hb⟩
    · rw [hb] at hhalf
      cases hhalf
    · rw [hb] at hhalf
      rcases CircuitBreaker.recordFailure_cases p.store.breaker p.store.now with
        ⟨hopen, -⟩ | ⟨hne, hsame, -⟩
      · rw [hopen] at hhalf
        cases hhalf
      · exact hne (hsame ▸ hhalf)

/-- No step changes the cooldown. -/
lemma cooldown_step {p : Calls ι} (h : p.Follows RecordsOnce) (m : Move ι Weather) :
    (step p m).store.breaker.cooldown = p.store.breaker.cooldown := by
  rcases step_flights h m with hq | ⟨i, -, ha | ht | hr⟩
  · rw [hq.breaker]
  · rw [ha.breaker]
  · rw [ht.breaker]
  · rcases hr.breaker with ⟨-, hb⟩ | ⟨-, hb⟩
    · rw [hb]
      rfl
    · rw [hb, CircuitBreaker.recordFailure_cooldown]

/-- A breaker that is open after a step was opened by it, as of then, or was open before it, since
the same time. -/
lemma open_step {p : Calls ι} (h : p.Follows RecordsOnce) {m : Move ι Weather}
    (hopen : (step p m).store.breaker.state = .OPEN) :
    (Opens p m ∧ (step p m).store.breaker.openedAt = p.store.now)
      ∨ (p.store.breaker.state = .OPEN
          ∧ (step p m).store.breaker.openedAt = p.store.breaker.openedAt) := by
  rcases step_flights h m with hq | ⟨i, hm, ha | ht | hr⟩
  · rw [hq.breaker] at hopen ⊢
    exact .inr ⟨hopen, rfl⟩
  · rw [ha.breaker] at hopen ⊢
    exact .inr ⟨hopen, rfl⟩
  · rw [ht.breaker] at hopen
    cases hopen
  · rcases hr.breaker with ⟨-, hb⟩ | ⟨hnext, hb⟩
    · rw [hb] at hopen
      cases hopen
    · rcases CircuitBreaker.recordFailure_cases p.store.breaker p.store.now with
        ⟨-, hat⟩ | ⟨-, hsame, hat⟩
      · exact .inl ⟨⟨⟨i, hm, hnext⟩, hopen⟩, by rw [hb, hat]⟩
      · rw [hb] at hopen ⊢
        exact .inr ⟨hsame ▸ hopen, hat⟩

/-- What holds after every schedule: a half-open breaker waits for a call in flight, and an open one
has been open since one of the steps that opened it. -/
lemma after_sound (calls : ι → Call) (threshold : ℤ) (cooldown : Time)
    (sched : List (Move ι Weather)) :
    (after calls threshold cooldown sched).Follows RecordsOnce
      ∧ Awaits (after calls threshold cooldown sched)
      ∧ (after calls threshold cooldown sched).store.breaker.cooldown = cooldown
      ∧ ((after calls threshold cooldown sched).store.breaker.state = .OPEN →
          ∃ l m, l ++ [m] <+: sched ∧ Opens (after calls threshold cooldown l) m
            ∧ (after calls threshold cooldown sched).store.breaker.openedAt
              = (after calls threshold cooldown l).store.now) := by
  induction sched using List.reverseRecOn with
  | nil => exact ⟨recordsOnce_start calls _, fun h => (by cases h), rfl, fun h => (by cases h)⟩
  | append_singleton sched m ih =>
      obtain ⟨hfollows, hawaits, hcool, hopened⟩ := ih
      have hlast : after calls threshold cooldown (sched ++ [m])
          = step (after calls threshold cooldown sched) m :=
        Pool.exec_append World.exec World.weather sched [m] _
      rw [hlast]
      refine ⟨hfollows.step m, awaits_step hfollows hawaits m, ?_, fun hopen => ?_⟩
      · rw [cooldown_step hfollows m, hcool]
      · rcases open_step hfollows hopen with ⟨hopens, hat⟩ | ⟨hwas, hat⟩
        · exact ⟨sched, m, List.prefix_refl _, hopens, hat⟩
        · obtain ⟨l, m', hl, hopens, hat'⟩ := hopened hwas
          exact ⟨l, m', hl.trans (List.prefix_append _ _), hopens, hat.trans hat'⟩

/-- **The breaker never wedges.** While it is half-open some call that was let through has not
recorded its result; so when no call is in flight it is closed or open, and lets a call through once
its cooldown has elapsed since every step that opened it. -/
theorem never_wedged (calls : ι → Call) (threshold : ℤ) (cooldown : Time)
    (sched : List (Move ι Weather)) :
    ((after calls threshold cooldown sched).store.breaker.state = .HALF_OPEN →
        ∃ i, InFlight (after calls threshold cooldown sched) i)
      ∧ ((∀ i, ¬ InFlight (after calls threshold cooldown sched) i) →
        ((after calls threshold cooldown sched).store.breaker.state = .CLOSED
          ∨ (after calls threshold cooldown sched).store.breaker.state = .OPEN)
        ∧ ((∀ l m, l ++ [m] <+: sched → Opens (after calls threshold cooldown l) m →
              (after calls threshold cooldown l).store.now + cooldown
                ≤ (after calls threshold cooldown sched).store.now) →
            ((after calls threshold cooldown sched).store.breaker.allow
              (after calls threshold cooldown sched).store.now).1 = true)) := by
  obtain ⟨-, hawaits, hcool, hopened⟩ := after_sound calls threshold cooldown sched
  refine ⟨hawaits, fun hidle => ⟨?_, fun helapsed => ?_⟩⟩
  · cases hs : (after calls threshold cooldown sched).store.breaker.state with
    | CLOSED => exact .inl rfl
    | OPEN => exact .inr rfl
    | HALF_OPEN =>
        obtain ⟨i, hi⟩ := hawaits hs
        exact absurd hi (hidle i)
  · rcases CircuitBreaker.allow_cases (after calls threshold cooldown sched).store.breaker
        (after calls threshold cooldown sched).store.now with
      ⟨-, hallow⟩ | ⟨-, -, hallow⟩ | ⟨hhalf, -⟩ | ⟨⟨hopen, hcooling⟩, -⟩
    · rw [hallow]
    · rw [hallow]
    · obtain ⟨i, hi⟩ := hawaits hhalf
      exact absurd hi (hidle i)
    · exfalso
      obtain ⟨l, m, hl, hopens, hat⟩ := hopened hopen
      have hle := helapsed l m hl hopens
      rw [hcool] at hcooling
      linarith

/-! ### One trial at a time -/

/-- At most one trial is in flight. -/
def AtMostOneTrial (p : Calls ι) : Prop := ∀ i j, TrialInFlight p i → TrialInFlight p j → i = j

/-- The step does not close a breaker that is cooling. -/
def KeepsCooling (p : Calls ι) (m : Move ι Weather) : Prop :=
  p.store.breaker.Cooling p.store.now → (step p m).store.breaker.state ≠ .CLOSED

/-- An operation that does not record a result while the breaker is half-open, nor a success while
it is cooling. -/
def Timely (b : CircuitBreaker) (now : Time) : Option Stmt → Prop
  | some .recordSuccess => b.state ≠ .HALF_OPEN ∧ ¬ b.Cooling now
  | some .recordFailure => b.state ≠ .HALF_OPEN
  | _ => True

instance (b : CircuitBreaker) (now : Time) : ∀ c, Decidable (Timely b now c)
  | some .recordSuccess => inferInstanceAs (Decidable (_ ∧ _))
  | some .recordFailure => inferInstanceAs (Decidable (_ ≠ _))
  | some .allow => isTrue trivial
  | some .tryWrite => isTrue trivial
  | some (.sleep _) => isTrue trivial
  | none => isTrue trivial

/-- Only the trial itself records its result while the breaker is half-open, and nobody records a
success while it is cooling. -/
def NoStaleResult (p : Calls ι) : Move ι Weather → Prop
  | .outside _ => True
  | .thread i =>
      (p.seen i).any admitsTrial = true ∨ Timely p.store.breaker p.store.now (p.next i)

omit [DecidableEq ι] in
instance (p : Calls ι) : ∀ m, Decidable (NoStaleResult p m)
  | .outside _ => isTrue trivial
  | .thread _ => inferInstanceAs (Decidable (_ ∨ _))

/-- The only trials in flight are those the half-open breaker waits for, and there is one of
them. -/
structure OneTrial (p : Calls ι) : Prop where
  unique : AtMostOneTrial p
  awaited : ∀ i, TrialInFlight p i → p.store.breaker.state = .HALF_OPEN

omit [DecidableEq ι] in
/-- A call that meets the condition and records a result while the breaker is half-open is the trial
it waits for. -/
lemma trial_of_records {p p' : Calls ι} {i : ι} (hC : NoStaleResult p (.thread i))
    (hr : Records p p' i) (hhalf : p.store.breaker.state = .HALF_OPEN) : TrialInFlight p i := by
  refine ⟨hr.was, hC.resolve_right fun h => ?_⟩
  rcases hr.breaker with ⟨hnext, -⟩ | ⟨hnext, -⟩
  · rw [hnext] at h
    exact h.1 hhalf
  · rw [hnext] at h
    exact h hhalf

/-- Every step that meets the condition keeps to one trial. -/
lemma oneTrial_step {p : Calls ι} (h : p.Follows RecordsOnce) (hp : OneTrial p)
    {m : Move ι Weather} (hC : NoStaleResult p m) : OneTrial (step p m) := by
  obtain ⟨huniq, hawait⟩ := hp
  rcases step_flights h m with hq | ⟨i, rfl, ha | ht | hr⟩
  · refine ⟨fun j k hj hk => huniq j k ((hq.trials j).mp hj) ((hq.trials k).mp hk), fun j hj => ?_⟩
    rw [hq.breaker]
    exact hawait j ((hq.trials j).mp hj)
  · refine ⟨fun j k hj hk => huniq j k ((ha.trials j).mp hj) ((ha.trials k).mp hk), fun j hj => ?_⟩
    rw [ha.breaker]
    exact hawait j ((ha.trials j).mp hj)
  · -- the breaker was open, so no trial was in flight before
    have hnone : ∀ j, ¬ TrialInFlight p j := by
      intro j hj
      have hhalf := hawait j hj
      rw [ht.found] at hhalf
      cases hhalf
    have hself : ∀ j, TrialInFlight (step p (.thread i)) j → j = i :=
      fun j hj => ((ht.trials j).mp hj).resolve_right (hnone j)
    exact ⟨fun j k hj hk => (hself j hj).trans (hself k hk).symm, fun j hj => by rw [ht.breaker]⟩
  · -- a trial in flight would be the one that lands
    have hnone : ∀ j, ¬ TrialInFlight (step p (.thread i)) j := by
      intro j hj
      obtain ⟨hne, hj⟩ := (hr.trials j).mp hj
      exact hne (huniq j i hj (trial_of_records hC hr (hawait j hj)))
    exact ⟨fun j k hj => absurd hj (hnone j), fun j hj => absurd hj (hnone j)⟩

/-- A step that meets the condition does not close a cooling breaker. -/
lemma keepsCooling_step {p : Calls ι} (h : p.Follows RecordsOnce) (hp : OneTrial p)
    {m : Move ι Weather} (hC : NoStaleResult p m) : KeepsCooling p m := by
  intro hcooling hclosed
  obtain ⟨hopen, hnow⟩ := hcooling
  rcases step_flights h m with hq | ⟨i, rfl, ha | ht | hr⟩
  · rw [hq.breaker, hopen] at hclosed
    cases hclosed
  · rw [ha.breaker, hopen] at hclosed
    cases hclosed
  · rw [ht.breaker] at hclosed
    cases hclosed
  · rcases hr.breaker with ⟨hnext, -⟩ | ⟨-, hb⟩
    · rcases hC with htrial | hfresh
      · have hhalf := hp.awaited i ⟨hr.was, htrial⟩
        rw [hopen] at hhalf
        cases hhalf
      · rw [hnext] at hfresh
        exact hfresh.2 ⟨hopen, hnow⟩
    · rw [hb] at hclosed
      rcases CircuitBreaker.recordFailure_cases p.store.breaker p.store.now with
        ⟨hstate, -⟩ | ⟨-, hsame, -⟩
      · rw [hstate] at hclosed
        cases hclosed
      · rw [hsame, hopen] at hclosed
        cases hclosed

/-- **One trial at a time.** In every run in which no call but a trial records its result while the
breaker is half-open, nor a success while it is cooling, at most one trial is in flight in every
state, and no step closes the breaker while it is cooling. -/
theorem one_trial (calls : ι → Call) (threshold : ℤ) (cooldown : Time)
    (sched : List (Move ι Weather))
    (h : EachStep step NoStaleResult sched (start calls (World.init threshold cooldown))) :
    EachState step AtMostOneTrial sched (start calls (World.init threshold cooldown))
      ∧ EachStep step KeepsCooling sched (start calls (World.init threshold cooldown)) := by
  have hstart : OneTrial (start calls (World.init threshold cooldown)) :=
    ⟨fun i j hi => (by cases hi.1), fun i hi => (by cases hi.1)⟩
  constructor
  · refine EachState.mono (I := OneTrial) (fun p hp => hp.unique) ?_
    exact eachState_of_eachStep (J := fun p => p.Follows RecordsOnce) (fun p m hp => hp.step m)
      (fun p m hp hone hC => oneTrial_step hp hone hC) (recordsOnce_start calls _) hstart h
  · refine h.carry (I := fun p => p.Follows RecordsOnce ∧ OneTrial p) (fun p m hp hC => ?_)
      ⟨recordsOnce_start calls _, hstart⟩
    exact ⟨⟨hp.1.step m, oneTrial_step hp.1 hp.2 hC⟩, keepsCooling_step hp.1 hp.2 hC⟩

/-- A write to Kafka that is tried once. -/
def kafkaWrite : Call where
  refused := ⟨.kafkaPublishError, "circuit breaker open for kafka topic telemetry.raw"⟩
  maxRetries := 1
  retryDelay := 1000000

/-- The answer of a broker that is down. -/
def brokerDown : Except PyError Unit := .error ⟨.kafkaPublishError, "broker down"⟩

/-- A write fails and trips the breaker; after the cooldown the next is let through as the trial,
and closes the breaker; a third goes through. -/
def tripAndRecover : List (Move (Fin 3) Weather) :=
  [.outside (.answer brokerDown), .thread 0, .thread 0, .thread 0, .outside (.elapse 30000000),
    .outside (.answer (.ok ())), .thread 1, .thread 1, .thread 1, .thread 2, .thread 2, .thread 2]

/-- That run has one trial at a time. -/
theorem one_trial_tripAndRecover :
    EachState step AtMostOneTrial tripAndRecover
        (start (fun _ => kafkaWrite) (World.init 1 (seconds 30)))
      ∧ EachStep step KeepsCooling tripAndRecover
        (start (fun _ => kafkaWrite) (World.init 1 (seconds 30))) :=
  one_trial (fun _ => kafkaWrite) 1 (seconds 30) tripAndRecover (by decide +kernel)

/-- Three writes are let through.  The first fails and trips the breaker, and the second closes it
again at once.  A fourth write fails and trips the breaker; after the cooldown a fifth is the trial,
but the failure of the third opens the breaker anew, and after a second cooldown a sixth write is
let through as a trial beside the fifth. -/
def staleResults : List (Move (Fin 6) Weather) :=
  [.thread 0, .thread 1, .thread 2, .outside (.answer brokerDown), .thread 0, .thread 0,
    .outside (.answer (.ok ())), .thread 1, .thread 1, .thread 3, .outside (.answer brokerDown),
    .thread 3, .thread 3, .outside (.elapse 30000000), .thread 4, .thread 2, .thread 2,
    .outside (.elapse 30000000), .thread 5]

instance (p : Calls ι) (i : ι) : Decidable (InFlight p i) :=
  inferInstanceAs (Decidable (_ = true))

instance (p : Calls ι) (i : ι) : Decidable (TrialInFlight p i) :=
  inferInstanceAs (Decidable (_ ∧ _))

instance (p : Calls ι) (m : Move ι Weather) : Decidable (KeepsCooling p m) :=
  inferInstanceAs (Decidable (_ → _))

/-- **Two trials at a time**, and a breaker that is closed while it is cooling. -/
theorem two_trials :
    ¬ EachState step AtMostOneTrial staleResults
        (start (fun _ => kafkaWrite) (World.init 1 (seconds 30)))
      ∧ ¬ EachStep step KeepsCooling staleResults
        (start (fun _ => kafkaWrite) (World.init 1 (seconds 30))) := by
  constructor
  · intro h
    have hboth : (4 : Fin 6) = 5 := h.last 4 5 (by decide +kernel) (by decide +kernel)
    exact absurd hboth (by decide)
  · decide +kernel

end BreakerCalls

end InduSense
