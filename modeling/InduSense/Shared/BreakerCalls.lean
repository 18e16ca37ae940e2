import InduSense.Statement.Interleave
import InduSense.Shared.Reliability

/-!
Any number of calls through one circuit breaker, their operations interleaved in any order.

* `Stmt`, `World`, `World.exec`: the operations of the breaker, each under its lock; a try of the
  write and a sleep, which take as long as they take; and what the dependency answers.
* `Call`, `Calls`: a protected write, and any number of them on one breaker.
* `InFlight`, `TrialInFlight`: a call that has been let through and has not recorded its result yet,
  and one that was let through as the trial.
* `RecordsOnce`: what every call guarantees of its records.
-/

namespace InduSense

namespace BreakerCalls

open Statement (Signature Exec Log Entry Pool Move)
open Statement.Prog (Follows follows_bind follows_issue_bind follows_attempt follows_issue)

/-! ### Operations -/

/-- What a call asks of its breaker, of the dependency and of the clock. -/
inductive Stmt where
  | allow
  | recordSuccess
  | recordFailure
  | tryWrite
  | sleep (delay : Time)
  deriving DecidableEq

/-- What each of them is answered with.  Beside what `allow()` returns, its answer says in which
state it found the breaker; no call looks at that. -/
abbrev Stmt.Answer : Stmt → Type
  | allow => Bool × BreakerState
  | recordSuccess => Unit
  | recordFailure => Unit
  | tryWrite => Unit
  | sleep _ => Unit

/-- The signature of the operations. -/
abbrev Breaking : Signature := ⟨Stmt, Stmt.Answer⟩

/-- Make one of them. -/
abbrev issue (c : Stmt) : Statement.Prog Breaking PyError c.Answer :=
  @Statement.Prog.issue Breaking PyError c

/-- The breaker, the clock, and what the dependency answers to a write at present. -/
structure World where
  breaker : CircuitBreaker
  now : Time
  reply : Except PyError Unit

/-- A breaker as `CircuitBreaker(threshold, cooldown_seconds)` makes it. -/
def World.init (threshold : ℤ) (cooldown : Time) : World := ⟨{ threshold, cooldown }, 0, .ok ()⟩

/-- What each operation does.  `time.sleep` raises on a negative delay. -/
def World.exec : Exec Breaking PyError World
  | .allow, w =>
      (.ok ((w.breaker.allow w.now).1, w.breaker.state),
        { w with breaker := (w.breaker.allow w.now).2 })
  | .recordSuccess, w => (.ok (), { w with breaker := w.breaker.recordSuccess })
  | .recordFailure, w => (.ok (), { w with breaker := w.breaker.recordFailure w.now })
  | .tryWrite, w => (w.reply, w)
  | .sleep delay, w =>
      if delay < 0 then (.error ⟨.valueError, "sleep length must be non-negative"⟩, w)
      else (.ok (), w)

/-- What happens outside of the calls: time passes, the dependency changes its answer. -/
inductive Weather where
  | elapse (dt : ℕ)
  | answer (reply : Except PyError Unit)

/-- The effect of it. -/
def World.weather : Weather → World → World
  | .elapse dt, w => { w with now := w.now + dt }
  | .answer reply, w => { w with reply }

/-! ### Calls -/

/-- A protected write, by what it raises when it is refused and its settings for retries. -/
structure Call where
  refused : PyError
  maxRetries : ℤ
  retryDelay : Time

/-- The breaker's operations as a sink uses them. -/
def Call.protection (call : Call) : Protection Breaking where
  allow := do
    let (admitted, _) ← issue .allow
    return admitted
  recordSuccess := issue .recordSuccess
  recordFailure := issue .recordFailure
  sleep delay := issue (.sleep delay)
  maxRetries := call.maxRetries
  retryDelay := call.retryDelay

/-- The program of a call. -/
def Call.prog (call : Call) : Statement.Prog Breaking PyError Unit :=
  call.protection.write call.refused (issue .tryWrite)

/-- Calls running on one breaker. -/
abbrev Calls (ι : Type) := Pool Breaking PyError Unit World ι

variable {ι : Type} [DecidableEq ι]

/-- One operation of one call, or a change outside of them. -/
abbrev step : Calls ι → Move ι Weather → Calls ι := Pool.step World.exec World.weather

omit [DecidableEq ι] in
/-- The calls before their first operations. -/
abbrev start (calls : ι → Call) (w : World) : Calls ι := Pool.start (fun i => (calls i).prog) w

/-! ### Calls in flight -/

/-- A call is let through. -/
def admits (e : Entry Breaking PyError) : Bool :=
  match e with
  | ⟨.allow, .ok (admitted, _)⟩ => admitted
  | _ => false

/-- A call is let through as the trial of a breaker that was open. -/
def admitsTrial (e : Entry Breaking PyError) : Bool :=
  match e with
  | ⟨.allow, .ok (admitted, found)⟩ => admitted && decide (found = .OPEN)
  | _ => false

/-- A call records its result. -/
def records (e : Entry Breaking PyError) : Bool :=
  match e with
  | ⟨.recordSuccess, _⟩ => true
  | ⟨.recordFailure, _⟩ => true
  | _ => false

/-- A call with this log has been let through and has not recorded its result. -/
def inFlight (l : Log Breaking PyError) : Bool := l.any admits && !l.any records

/-- The call has been let through and has not recorded its result. -/
def InFlight (p : Calls ι) (i : ι) : Prop := inFlight (p.seen i) = true

/-- The call has been let through as a trial and has not recorded its result. -/
def TrialInFlight (p : Calls ι) (i : ι) : Prop :=
  InFlight p i ∧ (p.seen i).any admitsTrial = true

/-- A call asks first of all to be let through, and records a result only while it is in flight. -/
def RecordsOnce (l : Log Breaking PyError) : Stmt → Prop
  | .allow => l = []
  | .recordSuccess => inFlight l = true
  | .recordFailure => inFlight l = true
  | _ => True

/-- Neither a try of the write nor a sleep changes what is in flight. -/
lemma inFlight_append {l : Log Breaking PyError} {e : Entry Breaking PyError}
    (ha : admits e = false) (hr : records e = false) : inFlight (l ++ [e]) = inFlight l := by
  rw [inFlight, inFlight, List.any_append, List.any_append, List.any_cons, List.any_cons, ha, hr]
  simp

/-- A record ends the flight. -/
lemma inFlight_append_record {l : Log Breaking PyError} {e : Entry Breaking PyError}
    (hr : records e = true) : inFlight (l ++ [e]) = false := by
  rw [inFlight, List.any_append, List.any_append, List.any_cons, List.any_cons, hr]
  simp

/-- The retries leave the call in flight. -/
lemma recordsOnce_retryAttempts (call : Call) (n : ℕ) (delay : Time) {l : Log Breaking PyError}
    (hl : inFlight l = true) :
    Follows RecordsOnce (fun l' _ => inFlight l' = true)
      (retryAttempts call.protection.sleep (issue .tryWrite) n delay) l := by
  induction n generalizing delay l with
  | zero => exact hl
  | succ n ih =>
      refine follows_bind (follows_attempt ?_)
      refine follows_issue (S := Breaking) (c := .tryWrite) trivial fun r => ?_
      have hl' : inFlight (l ++ [⟨.tryWrite, r⟩]) = true := by rw [inFlight_append rfl rfl, hl]
      cases r with
      | ok u => exact hl'
      | error exc =>
          dsimp only
          split
          · exact hl'
          · refine follows_issue_bind trivial (fun u => ?_) fun e => ?_
            · exact ih _ (by rw [inFlight_append rfl rfl, hl'])
            · rw [inFlight_append rfl rfl, hl']

/-- **Every call records its result once**, while it is in flight, and a call that has ended is no
longer in flight. -/
theorem recordsOnce_prog (call : Call) :
    Follows RecordsOnce (fun l _ => inFlight l = false) call.prog [] := by
  refine follows_bind (follows_issue_bind rfl (fun answer => ?_) fun e => rfl)
  obtain ⟨admitted, found⟩ := answer
  cases admitted with
  | false => exact rfl
  | true =>
      refine follows_bind (follows_attempt
        ((recordsOnce_retryAttempts call _ _ rfl).mono fun l r hl => ?_))
      cases r with
      | ok u =>
          exact follows_issue (S := Breaking) (c := .recordSuccess) hl fun r =>
            inFlight_append_record rfl
      | error exc =>
          exact follows_issue_bind hl (fun u => inFlight_append_record rfl)
            fun e => inFlight_append_record rfl

end BreakerCalls

end InduSense
