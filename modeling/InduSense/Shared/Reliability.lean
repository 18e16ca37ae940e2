import InduSense.Statement.Guarantee
import InduSense.Shared.Values

/-!
Retries and circuit breakers: `shared/reliability.py`, and how the sinks wire them together.

* `retryWithBackoff`: attempts with a doubling delay.
* `CircuitBreaker`: CLOSED, OPEN and HALF_OPEN, with `allow`, `recordSuccess` and `recordFailure`.
* `Protection.write`: `protected_write` of the Kafka clients and `_write_with_protection` of the
  Kafka and InfluxDB sinks.
* `followsIn_retryAttempts`, `Protection.followsIn_write`: what holds when a protected write ends.
-/

namespace InduSense

open Statement (Signature Prog)
open Statement.Prog (attempt)

variable {S : Signature}

/-! ### Retries -/

/-- The attempts that are left of `retry_with_backoff`, and the delay after the next one. -/
def retryAttempts (sleep : Time → Prog S PyError Unit) (fn : Prog S PyError Unit) :
    ℕ → Time → Prog S PyError Unit
  | 0, _ => Prog.raise ⟨.assertionError, ""⟩
  | n + 1, delay => do
      match ← attempt fn with
      | .ok () => return ()
      | .error exc =>
          if exc.kind = .errPermanent ∨ n = 0 then Prog.raise exc
          else do
            sleep delay
            retryAttempts sleep fn n (delay * 2)

/-- `retry_with_backoff`. -/
def retryWithBackoff (sleep : Time → Prog S PyError Unit) (maxAttempts : ℤ) (baseDelay : Time)
    (fn : Prog S PyError Unit) : Prog S PyError Unit :=
  retryAttempts sleep fn maxAttempts.toNat baseDelay

/-! ### Circuit breakers -/

/-- `_BreakerState`. -/
inductive BreakerState where
  | CLOSED
  | OPEN
  | HALF_OPEN
  deriving DecidableEq

/-- `CircuitBreaker`. -/
structure CircuitBreaker where
  state : BreakerState := .CLOSED
  consecutiveFails : ℤ := 0
  threshold : ℤ
  cooldown : Time
  openedAt : Time := 0
  deriving DecidableEq

namespace CircuitBreaker

/-- `CircuitBreaker.allow`, with the breaker it leaves. -/
def allow (b : CircuitBreaker) (now : Time) : Bool × CircuitBreaker :=
  match b.state with
  | .CLOSED => (true, b)
  | .HALF_OPEN => (false, b)
  | .OPEN =>
      if b.cooldown ≤ now - b.openedAt then (true, { b with state := .HALF_OPEN }) else (false, b)

/-- `CircuitBreaker.record_success`. -/
def recordSuccess (b : CircuitBreaker) : CircuitBreaker :=
  { b with consecutiveFails := 0, state := .CLOSED }

/-- `CircuitBreaker.record_failure`. -/
def recordFailure (b : CircuitBreaker) (now : Time) : CircuitBreaker :=
  if b.state = .HALF_OPEN then { b with state := .OPEN, openedAt := now }
  else
    let b := { b with consecutiveFails := b.consecutiveFails + 1 }
    if b.threshold ≤ b.consecutiveFails then { b with state := .OPEN, openedAt := now } else b

/-- The breaker is open and its cooldown has not elapsed. -/
def Cooling (b : CircuitBreaker) (now : Time) : Prop :=
  b.state = .OPEN ∧ now - b.openedAt < b.cooldown

instance (b : CircuitBreaker) (now : Time) : Decidable (b.Cooling now) :=
  inferInstanceAs (Decidable (_ ∧ _))

@[simp] lemma recordSuccess_state (b : CircuitBreaker) : b.recordSuccess.state = .CLOSED := rfl

/-- A failure leaves the settings as they are. -/
lemma recordFailure_settings (b : CircuitBreaker) (now : Time) :
    (b.recordFailure now).threshold = b.threshold
      ∧ (b.recordFailure now).cooldown = b.cooldown := by
  rw [recordFailure]
  split
  · exact ⟨rfl, rfl⟩
  · dsimp only
    split <;> exact ⟨rfl, rfl⟩

@[simp] lemma recordFailure_threshold (b : CircuitBreaker) (now : Time) :
    (b.recordFailure now).threshold = b.threshold := (b.recordFailure_settings now).1

@[simp] lemma recordFailure_cooldown (b : CircuitBreaker) (now : Time) :
    (b.recordFailure now).cooldown = b.cooldown := (b.recordFailure_settings now).2

/-- A call is let through by a closed breaker, or as the trial of one whose cooldown has
elapsed. -/
lemma allow_cases (b : CircuitBreaker) (now : Time) :
    (b.state = .CLOSED ∧ b.allow now = (true, b))
      ∨ (b.state = .OPEN ∧ b.cooldown ≤ now - b.openedAt
          ∧ b.allow now = (true, { b with state := .HALF_OPEN }))
      ∨ (b.state = .HALF_OPEN ∧ b.allow now = (false, b))
      ∨ (b.Cooling now ∧ b.allow now = (false, b)) := by
  rw [allow, Cooling]
  cases hs : b.state with
  | CLOSED => exact .inl ⟨rfl, rfl⟩
  | HALF_OPEN => exact .inr (.inr (.inl ⟨rfl, rfl⟩))
  | OPEN =>
      dsimp only
      split
      · rename_i hcool
        exact .inr (.inl ⟨rfl, hcool, rfl⟩)
      · rename_i hcool
        exact .inr (.inr (.inr ⟨⟨rfl, not_le.mp hcool⟩, rfl⟩))

/-- A failure leaves the breaker open, as of now, or as it was but for the count of failures. -/
lemma recordFailure_cases (b : CircuitBreaker) (now : Time) :
    ((b.recordFailure now).state = .OPEN ∧ (b.recordFailure now).openedAt = now)
      ∨ (b.state ≠ .HALF_OPEN ∧ (b.recordFailure now).state = b.state
          ∧ (b.recordFailure now).openedAt = b.openedAt) := by
  rw [recordFailure]
  split
  · exact .inl ⟨rfl, rfl⟩
  · rename_i hhalf
    dsimp only
    split
    · exact .inl ⟨rfl, rfl⟩
    · exact .inr ⟨hhalf, rfl, rfl⟩

end CircuitBreaker

/-! ### Protected writes -/

/-- What a sink writes through: the operations of its breaker, a sleep, and its settings. -/
structure Protection (S : Signature) where
  allow : Prog S PyError Bool
  recordSuccess : Prog S PyError Unit
  recordFailure : Prog S PyError Unit
  sleep : Time → Prog S PyError Unit
  maxRetries : ℤ
  retryDelay : Time

/-- `protected_write`: `refused` is what it raises when the breaker lets no call through. -/
def Protection.write (p : Protection S) (refused : PyError) (fn : Prog S PyError Unit) :
    Prog S PyError Unit := do
  if ← p.allow then
    match ← attempt (retryWithBackoff p.sleep p.maxRetries p.retryDelay fn) with
    | .error exc => do
        p.recordFailure
        Prog.raise exc
    | .ok () => p.recordSuccess
  else Prog.raise refused

/-! ### What holds when a protected write ends -/

section Follows

open Statement (Log)
open Statement.Prog (FollowsIn)

variable {A : (c : S.Stmt) → Except PyError (S.Answer c) → Prop}
  {Q : Log S PyError → S.Stmt → Prop} {trying written : Log S PyError → Prop}
  {fn : Prog S PyError Unit}

/-- Where a write ends: it is written, or it has failed and could be tried again. -/
def WriteEnds (trying written : Log S PyError → Prop) (l : Log S PyError) :
    Except PyError Unit → Prop
  | .ok () => written l
  | .error _ => trying l

/-- Where each attempt ends with the record written, or as it started, so do all of them. -/
lemma followsIn_retryAttempts {sleep : Time → Prog S PyError Unit}
    (hsleep : ∀ delay l, trying l → FollowsIn A Q (fun l' _ => trying l') (sleep delay) l)
    (hfn : ∀ l, trying l → FollowsIn A Q (WriteEnds trying written) fn l) (n : ℕ) (delay : Time)
    {l : Log S PyError} (hl : trying l) :
    FollowsIn A Q (WriteEnds trying written) (retryAttempts sleep fn n delay) l := by
  induction n generalizing delay l with
  | zero => exact hl
  | succ n ih =>
      refine (hfn l hl).attempt_bind fun l' r hr => ?_
      cases r with
      | ok u => exact hr
      | error exc =>
          dsimp only
          split
          · exact hr
          · exact (hsleep delay l' hr).bind (fun l'' _ hl'' => ih _ hl'') fun l'' _ hl'' => hl''

/-- The same of a protected write. -/
lemma Protection.followsIn_write (p : Protection S) (refused : PyError)
    (hallow : ∀ l, trying l → FollowsIn A Q (fun l' _ => trying l') p.allow l)
    (hsleep : ∀ delay l, trying l → FollowsIn A Q (fun l' _ => trying l') (p.sleep delay) l)
    (hfailure : ∀ l, trying l → FollowsIn A Q (fun l' _ => trying l') p.recordFailure l)
    (hsuccess : ∀ l, written l → FollowsIn A Q (WriteEnds trying written) p.recordSuccess l)
    (hfn : ∀ l, trying l → FollowsIn A Q (WriteEnds trying written) fn l)
    {l : Log S PyError} (hl : trying l) :
    FollowsIn A Q (WriteEnds trying written) (p.write refused fn) l := by
  refine (hallow l hl).bind (fun l₁ admitted hl₁ => ?_) fun l₁ _ hl₁ => hl₁
  cases admitted with
  | false => exact hl₁
  | true =>
      refine (followsIn_retryAttempts hsleep hfn _ _ hl₁).attempt_bind fun l₂ r hr => ?_
      cases r with
      | ok u => exact hsuccess l₂ hr
      | error exc => exact (hfailure l₂ hr).bind (fun l₃ _ hl₃ => hl₃) fun l₃ _ hl₃ => hl₃

end Follows

end InduSense
