import InduSense.Statement.Interleave
import InduSense.Shared.Values

/-!
`produce_and_wait` of `kafka_producer.py`: any number of calls on one producer of the workers.

* `Producer`, `exec`, `outside`: the messages that wait for a report, the reports, the calls of
  `flush` under way; reports come in while one of them serves the callbacks.
* `produceAndWait`: a call; `Stage`: how far it has come, `stage_step`.
* `ReturnsRightly`, `RaisesRightly`: what a call says of its own message.
* `FindsNoOther`: a flush that returns for an acknowledged message finds no other message;
  `produce_and_wait_rightly_iff`.
-/

namespace InduSense

namespace Flushes

open Statement (Signature Exec Pool Move EachStep EachState eachState_iff eachStep_congr)

variable {ι : Type}

/-! ### One producer -/

/-- What a call asks of the producer, of its own message `i`; `flush` returns in a step of its own,
with the number of the messages that are still outstanding. -/
inductive Stmt (ι : Type) where
  | produce (i : ι)
  | flush (i : ι) (timeout : Time)
  | flushed (i : ι)
  | resultErr (i : ι)
  deriving DecidableEq

/-- What each of them is answered with. -/
abbrev Stmt.Answer : Stmt ι → Type
  | produce _ => Unit
  | flush _ _ => Unit
  | flushed _ => ℕ
  | resultErr _ => Option PyError

/-- The signature of the operations. -/
abbrev Producing (ι : Type) : Signature := ⟨Stmt ι, Stmt.Answer⟩

/-- Make one of them. -/
abbrev issue (c : Stmt ι) : Statement.Prog (Producing ι) PyError c.Answer :=
  @Statement.Prog.issue (Producing ι) PyError c

/-- A producer: its queue holds `capacity` messages, a message is outstanding until its callback has
run, which puts the error of the report, if there is one, into the `result` of its call. -/
structure Producer (ι : Type) where
  now : Time
  capacity : ℕ
  outstanding : List ι
  result : ι → Option (Option PyError)
  flushing : List (ι × Time)

/-- A new producer. -/
def Producer.init (ι : Type) (capacity : ℕ) : Producer ι := ⟨0, capacity, [], fun _ => none, []⟩

variable [DecidableEq ι]

/-- What each operation does.  A call of `flush` is under way until it returns. -/
def exec : Exec (Producing ι) PyError (Producer ι)
  | .produce i, w =>
      if w.outstanding.length < w.capacity then
        (.ok (), { w with outstanding := w.outstanding ++ [i] })
      else (.error ⟨.external, "Local: Queue full"⟩, w)
  | .flush i timeout, w => (.ok (), { w with flushing := w.flushing ++ [(i, w.now + timeout)] })
  | .flushed i, w =>
      (.ok w.outstanding.length, { w with flushing := w.flushing.filter fun f => f.1 ≠ i })
  | .resultErr i, w => (.ok (w.result i).join, w)

/-- What happens outside of the calls: time passes, and the broker reports on a message. -/
inductive Outside (ι : Type) where
  | elapse (dt : ℕ)
  | report (i : ι) (err : Option PyError)
  deriving DecidableEq

/-- The effect of it.  A report is served while some call of `flush` is under way. -/
def outside : Outside ι → Producer ι → Producer ι
  | .elapse dt, w => { w with now := w.now + dt }
  | .report i err, w =>
      if i ∈ w.outstanding ∧ w.flushing ≠ [] then
        { w with
          outstanding := w.outstanding.filter fun j => j ≠ i
          result := Function.update w.result i (some err) }
      else w

/-! ### Calls -/

/-- The arguments of a call. -/
structure Call where
  topic : String
  timeout : Time := seconds 10

section Call

variable (call : Call) (i : ι)

omit [DecidableEq ι]

/-- What a call makes of the number of messages that are outstanding when its flush returns. -/
def check (remaining : ℕ) : Statement.Prog (Producing ι) PyError Unit :=
  if 0 < remaining then
    Statement.Prog.raise ⟨.kafkaPublishError,
      "kafka produce to " ++ call.topic ++ " timed out waiting for delivery ("
        ++ toString remaining ++ " message(s) still outstanding)"⟩
  else do
    match ← issue (.resultErr i) with
    | some err =>
        Statement.Prog.raise
          ⟨.kafkaPublishError, "kafka produce to " ++ call.topic ++ " failed: " ++ err.message⟩
    | none => return ()

/-- A call while its flush is under way. -/
def wait : Statement.Prog (Producing ι) PyError Unit := do
  let remaining ← issue (.flushed i)
  check call i remaining

/-- A call that has produced its message. -/
def flushAndWait : Statement.Prog (Producing ι) PyError Unit := do
  issue (.flush i call.timeout)
  wait call i

/-- `produce_and_wait`, with the message `i`. -/
def produceAndWait : Statement.Prog (Producing ι) PyError Unit := do
  issue (.produce i)
  flushAndWait call i

end Call

/-- Calls running on one producer, each with a message of its own. -/
abbrev Calls (ι : Type) := Pool (Producing ι) PyError Unit (Producer ι) ι

/-- One operation of one call, or an event outside of them. -/
abbrev step : Calls ι → Move ι (Outside ι) → Calls ι := Pool.step exec outside

omit [DecidableEq ι] in
/-- The calls before their first operations. -/
abbrev start (calls : ι → Call) (capacity : ℕ) : Calls ι :=
  Pool.start (fun i => produceAndWait (calls i) i) (Producer.init ι capacity)

/-! ### What a call says of its message -/

/-- The broker has acknowledged the message. -/
def Acknowledged (w : Producer ι) (i : ι) : Prop := w.result i = some none

/-- The program has raised. -/
def Raised {S : Signature} {ε α : Type} : Statement.Prog S ε α → Prop
  | .raise _ => True
  | _ => False

/-- Every call that has returned has its message acknowledged. -/
def ReturnsRightly (p : Calls ι) : Prop := ∀ i, p.todo i = .ret () → Acknowledged p.store i

/-- A step in which a call raises finds its message failed, or not reported yet. -/
def RaisesRightly (p : Calls ι) (m : Move ι (Outside ι)) : Prop :=
  ∀ i, m = .thread i → ¬ Raised (p.todo i) → Raised ((step p m).todo i) → ¬ Acknowledged p.store i

/-- A flush that returns for a message that has been acknowledged finds no other message. -/
def FindsNoOther (p : Calls ι) (m : Move ι (Outside ι)) : Prop :=
  ∀ i, m = .thread i → p.next i = some (.flushed i) → Acknowledged p.store i →
    p.store.outstanding = []

/-- `flush` returns when the queue is empty or its timeout has expired. -/
def Timely (p : Calls ι) (m : Move ι (Outside ι)) : Prop :=
  ∀ i, m = .thread i → p.next i = some (.flushed i) →
    p.store.outstanding = [] ∨ ∃ f ∈ p.store.flushing, f.1 = i ∧ f.2 ≤ p.store.now

/-! ### How far a call has come -/

/-- How far a call has come, and what is known of its message then: it waits for its report, or has
it. -/
inductive Stage (call : Call) (i : ι) (w : Producer ι) :
    Statement.Prog (Producing ι) PyError Unit → Prop
  | new (hresult : w.result i = none) (hout : i ∉ w.outstanding) :
      Stage call i w (produceAndWait call i)
  | produced (h : i ∈ w.outstanding ↔ w.result i = none) : Stage call i w (flushAndWait call i)
  | waiting (h : i ∈ w.outstanding ↔ w.result i = none) : Stage call i w (wait call i)
  | reported (hresult : w.result i ≠ none) (hout : i ∉ w.outstanding) :
      Stage call i w (check call i 0)
  | returned (hresult : Acknowledged w i) (hout : i ∉ w.outstanding) : Stage call i w (.ret ())
  | raised (e : PyError) : Stage call i w (.raise e)

/-- Nothing has happened to the message. -/
structure Untouched (i : ι) (w w' : Producer ι) : Prop where
  outstanding : i ∈ w'.outstanding ↔ i ∈ w.outstanding
  result : w'.result i = w.result i

omit [DecidableEq ι] in
lemma Stage.of_untouched {call : Call} {i : ι} {w w' : Producer ι}
    {q : Statement.Prog (Producing ι) PyError Unit} (h : Stage call i w q)
    (hw : Untouched i w w') : Stage call i w' q := by
  cases h with
  | new hresult hout => exact .new (hw.result.trans hresult) (mt hw.outstanding.mp hout)
  | produced h => exact .produced (by rwa [hw.outstanding, hw.result])
  | waiting h => exact .waiting (by rwa [hw.outstanding, hw.result])
  | reported hresult hout =>
      exact .reported (by rwa [hw.result]) (mt hw.outstanding.mp hout)
  | returned hresult hout =>
      exact .returned (hw.result.trans hresult) (mt hw.outstanding.mp hout)
  | raised e => exact .raised e

/-- An operation concerns no message but the one it produces. -/
lemma exec_untouched (c : Stmt ι) (w : Producer ι) {j : ι} (hj : c ≠ .produce j) :
    Untouched j w (exec c w).2 := by
  cases c with
  | produce i =>
      have hne : j ≠ i := fun h => hj (h ▸ rfl)
      rw [exec]
      split
      · exact ⟨by simp [hne], rfl⟩
      · exact ⟨Iff.rfl, rfl⟩
  | flush i timeout => exact ⟨Iff.rfl, rfl⟩
  | flushed i => exact ⟨Iff.rfl, rfl⟩
  | resultErr i => exact ⟨Iff.rfl, rfl⟩

/-- A report comes in for a message that waits for it, and no other is concerned. -/
lemma Stage.outside {call : Call} {i : ι} {w : Producer ι}
    {q : Statement.Prog (Producing ι) PyError Unit} (h : Stage call i w q) (e : Outside ι) :
    Stage call i (Flushes.outside e w) q := by
  cases e with
  | elapse dt => exact h.of_untouched ⟨Iff.rfl, rfl⟩
  | report j err =>
      rw [Flushes.outside]
      split
      · rename_i hserved
        by_cases hij : i = j
        · subst hij
          cases h with
          | new hresult hout => exact absurd hserved.1 hout
          | produced h => exact .produced (by simp)
          | waiting h => exact .waiting (by simp)
          | reported hresult hout => exact absurd hserved.1 hout
          | returned hresult hout => exact absurd hserved.1 hout
          | raised e => exact .raised e
        · exact h.of_untouched ⟨by simp [hij], Function.update_of_ne hij ..⟩
      · exact h

/-- One step of a call that has not ended: it goes on to its next stage, no other message is
concerned, and it raises for an acknowledged message exactly if its flush returns beside others. -/
structure Proceeds (call : Call) (i : ι) (w : Producer ι) (c : Stmt ι)
    (q : Statement.Prog (Producing ι) PyError Unit) : Prop where
  own : ∀ j, j ≠ i → c ≠ .produce j
  stage : Stage call i (exec c w).2 q
  raised : Acknowledged w i → (Raised q ↔ c = .flushed i ∧ w.outstanding ≠ [])

lemma Stage.proceeds {call : Call} {i : ι} {w : Producer ι} {c : Stmt ι}
    {k : Except PyError c.Answer → Statement.Prog (Producing ι) PyError Unit}
    (h : Stage call i w (.call c k)) : Proceeds call i w c (k (exec c w).1) := by
  generalize hq : (.call c k : Statement.Prog (Producing ι) PyError Unit) = q at h
  cases h with
  | new hresult hout =>
      cases hq
      have hnone : ¬ Acknowledged w i := fun h => by cases hresult.symm.trans h
      refine ⟨fun j hj h => hj (Stmt.produce.inj h).symm, ?_, fun h => absurd h hnone⟩
      rw [exec]
      split
      · exact .produced (by simp [hresult])
      · exact .raised _
  | produced h =>
      cases hq
      exact ⟨fun j _ h => (by cases h), .waiting h, fun _ => ⟨False.elim, fun h => (by cases h.1)⟩⟩
  | waiting h =>
      cases hq
      have hanswer : (exec (.flushed i) w).1 = .ok w.outstanding.length := rfl
      refine ⟨fun j _ h => (by cases h), ?_, fun _ => ?_⟩
      · rw [hanswer]
        cases hw : w.outstanding with
        | nil =>
            rw [hw] at h
            have hout : i ∉ w.outstanding := hw ▸ List.not_mem_nil
            exact .reported (fun hresult => List.not_mem_nil (h.mpr hresult)) hout
        | cons m ms => exact .raised _
      · rw [hanswer]
        cases hw : w.outstanding with
        | nil => exact ⟨False.elim, fun h => absurd rfl h.2⟩
        | cons m ms => exact iff_of_true trivial ⟨rfl, List.cons_ne_nil _ _⟩
  | reported hresult hout =>
      cases hq
      have hanswer : (exec (.resultErr i) w).1 = .ok (w.result i).join := rfl
      refine ⟨fun j _ h => (by cases h), ?_, fun hack => ?_⟩
      · rw [hanswer]
        cases hw : w.result i with
        | none => exact absurd hw hresult
        | some err =>
            cases err with
            | none => exact .returned hw hout
            | some e => exact .raised _
      · rw [hanswer, show w.result i = some none from hack]
        exact ⟨False.elim, fun h => by cases h.1⟩
  | returned hresult hout => cases hq
  | raised e => cases hq

/-! ### Runs -/

/-- Every call is at some stage. -/
def Staged (calls : ι → Call) (p : Calls ι) : Prop := ∀ i, Stage (calls i) i p.store (p.todo i)

omit [DecidableEq ι] in
lemma staged_start (calls : ι → Call) (capacity : ℕ) : Staged calls (start calls capacity) :=
  fun _ => .new rfl List.not_mem_nil

lemma Staged.step {calls : ι → Call} {p : Calls ι} (h : Staged calls p)
    (m : Move ι (Outside ι)) : Staged calls (step p m) := by
  rcases Pool.step_cases exec outside p m with
    ⟨e, rfl, -⟩ | ⟨i, rfl, -, hs⟩ | ⟨i, c, k, rfl, hc, -, hs⟩
  · exact fun i => (h i).outside e
  · rw [Flushes.step, hs]
    exact h
  · have hi := h i
    rw [hc] at hi
    rw [Flushes.step, hs]
    intro j
    by_cases hj : j = i
    · subst hj
      dsimp only
      rw [Function.update_self]
      exact hi.proceeds.stage
    · dsimp only
      rw [Function.update_of_ne hj]
      exact (h j).of_untouched (exec_untouched c p.store (hi.proceeds.own j hj))

omit [DecidableEq ι] in
/-- A call that has returned had its message acknowledged. -/
lemma Staged.returnsRightly {calls : ι → Call} {p : Calls ι} (h : Staged calls p) :
    ReturnsRightly p := by
  intro i hi
  have hstage := h i
  rw [hi] at hstage
  generalize hq : (.ret () : Statement.Prog (Producing ι) PyError Unit) = q at hstage
  cases hstage with
  | returned hresult hout => exact hresult
  | _ => cases hq

/-- A call raises for an acknowledged message exactly if its flush returns beside others. -/
lemma Staged.raisesRightly_iff {calls : ι → Call} {p : Calls ι} (h : Staged calls p)
    (m : Move ι (Outside ι)) : RaisesRightly p m ↔ FindsNoOther p m := by
  rcases Pool.step_cases exec outside p m with
    ⟨e, rfl, -⟩ | ⟨i, rfl, hnext, hs⟩ | ⟨i, c, k, rfl, hc, hnext, hs⟩
  · exact iff_of_true (fun i hi => by cases hi) fun i hi => by cases hi
  · constructor
    · rintro - j hj hflushed
      cases hj
      rw [hnext] at hflushed
      cases hflushed
    · rintro - j hj hrunning hraised
      rw [Flushes.step, hs] at hraised
      exact absurd hraised hrunning
  · have hi := h i
    rw [hc] at hi
    have hrunning : ¬ Raised (p.todo i) := by rw [hc]; exact id
    have hafter : (Flushes.step p (.thread i)).todo i = k (exec c p.store).1 := by
      rw [Flushes.step, hs]
      exact Function.update_self ..
    constructor
    · intro hright j hj hflushed hack
      cases hj
      obtain rfl : c = .flushed i := Option.some_injective _ (hnext.symm.trans hflushed)
      by_contra hother
      refine hright i rfl hrunning ?_ hack
      rw [hafter]
      exact (hi.proceeds.raised hack).mpr ⟨rfl, hother⟩
    · intro hfinds j hj _ hraised hack
      cases hj
      rw [hafter] at hraised
      obtain ⟨rfl, hother⟩ := (hi.proceeds.raised hack).mp hraised
      exact hother (hfinds i rfl hnext hack)

/-- **What the calls say of their messages.**  In every run a call that has returned has its message
acknowledged; and no call raises for a message that has been acknowledged exactly if every flush
that returns for such a message finds no other message outstanding. -/
theorem produce_and_wait_rightly_iff (calls : ι → Call) (capacity : ℕ)
    (sched : List (Move ι (Outside ι))) :
    EachState step ReturnsRightly sched (start calls capacity)
      ∧ (EachStep step RaisesRightly sched (start calls capacity)
        ↔ EachStep step FindsNoOther sched (start calls capacity)) := by
  have hstart := staged_start calls capacity
  constructor
  · refine eachState_iff.mpr fun l _ => ?_
    have hreached : Staged calls ((start calls capacity).exec exec outside l) :=
      Pool.exec_preserves (fun p m hp => hp.step m) l hstart
    exact hreached.returnsRightly
  · exact eachStep_congr (fun p m hp => hp.step m) (fun p m hp => hp.raisesRightly_iff m) hstart

instance {S : Signature} {ε α : Type} : ∀ q : Statement.Prog S ε α, Decidable (Raised q)
  | .ret _ => isFalse id
  | .raise _ => isTrue trivial
  | .call _ _ => isFalse id

instance (w : Producer ι) (i : ι) : Decidable (Acknowledged w i) :=
  inferInstanceAs (Decidable (_ = _))

instance [Fintype ι] (p : Calls ι) (m : Move ι (Outside ι)) : Decidable (RaisesRightly p m) :=
  inferInstanceAs (Decidable (∀ _, _ → _ → _ → ¬ _))

instance [Fintype ι] (p : Calls ι) (m : Move ι (Outside ι)) : Decidable (Timely p m) :=
  inferInstanceAs (Decidable (∀ _, _ → (_ : Option (Stmt ι)) = _ → _ ∨ _))

/-- While the first call waits, a second worker produces its message.  The first message is
acknowledged, the second is not, and the timeout of the first call expires. -/
def besideAnother : List (Move Bool (Outside Bool)) :=
  [.thread false, .thread false, .outside (.elapse 9000000), .thread true, .thread true,
    .outside (.report false none), .outside (.elapse 1000000), .thread false]

/-- The first call times out, with its message acknowledged. -/
theorem acknowledged_times_out :
    EachStep step Timely besideAnother (start (fun _ => ⟨"telemetry.raw", seconds 10⟩) 100000)
      ∧ ¬ EachStep step RaisesRightly besideAnother
        (start (fun _ => ⟨"telemetry.raw", seconds 10⟩) 100000) := by
  decide +kernel

end Flushes

end InduSense
