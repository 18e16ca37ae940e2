import InduSense.Shared.BreakerCalls

/-!
Protected writes, one after the other, and the rule they follow.

* `World`, `World.exec`: one circuit breaker and the clock, with the outcomes of the attempts of the
  current call, in any order.
* `protectedWrite`, `run`: a call, and any number of them.
* `Admits`: the rule, which looks at the calls of the past only; `Attempted`, `attemptTrace`: what
  an admitted call does.
* `Tracks`: how the breaker keeps the past; `tracks_run`, `protected_write_refines`: it follows the
  rule.
-/

namespace InduSense

namespace ProtectedWrites

open BreakerCalls (Breaking Call)
open Statement (Exec)
open Statement.Prog (eval_attempt_bind eval_issue_bind)

/-! ### Calls -/

/-- What a call does to the dependency and to its own thread. -/
inductive Event where
  | tried
  | slept (delay : Time)
  deriving DecidableEq

/-- The breaker and the clock; of the current call the outcomes of its attempts and the time they
take, the number of attempts so far, and all it has done. -/
structure World where
  breaker : CircuitBreaker
  now : Time
  outcomes : ℕ → Except PyError Unit
  pauses : ℕ → ℕ
  tries : ℕ
  trace : List Event

/-- A call that arrives some time after the end of the one before it. -/
structure Arrival where
  gap : ℕ
  topic : String
  outcomes : ℕ → Except PyError Unit
  pauses : ℕ → ℕ

/-- The settings of `KafkaIO`. -/
structure Config where
  maxRetries : ℤ := 5
  retryDelay : Time := seconds 1
  breakerFailureThreshold : ℤ := 5
  breakerCooldown : Time := seconds 15

namespace World

/-- A breaker that has just been made. -/
def init (cfg : Config) : World where
  breaker := { threshold := cfg.breakerFailureThreshold, cooldown := cfg.breakerCooldown }
  now := 0
  outcomes := fun _ => .ok ()
  pauses := fun _ => 0
  tries := 0
  trace := []

/-- A call arrives. -/
def arrive (w : World) (a : Arrival) : World where
  breaker := w.breaker
  now := w.now + a.gap
  outcomes := a.outcomes
  pauses := a.pauses
  tries := 0
  trace := []

/-- What each operation does. -/
def exec : Exec Breaking PyError World
  | .allow, w =>
      (.ok ((w.breaker.allow w.now).1, w.breaker.state),
        { w with breaker := (w.breaker.allow w.now).2 })
  | .recordSuccess, w => (.ok (), { w with breaker := w.breaker.recordSuccess })
  | .recordFailure, w => (.ok (), { w with breaker := w.breaker.recordFailure w.now })
  | .tryWrite, w =>
      (w.outcomes w.tries,
        { w with
          now := w.now + w.pauses w.tries
          tries := w.tries + 1
          trace := w.trace ++ [.tried] })
  | .sleep delay, w =>
      if delay < 0 then (.error ⟨.valueError, "sleep length must be non-negative"⟩, w)
      else (.ok (), { w with now := w.now + delay, trace := w.trace ++ [.slept delay] })

end World

/-- What a refused call raises. -/
def refused (topic : String) : PyError :=
  ⟨.kafkaPublishError, "circuit breaker open for kafka topic " ++ topic⟩

/-- `KafkaIO.protected_write`. -/
def protectedWrite (cfg : Config) (topic : String) : Statement.Prog Breaking PyError Unit :=
  (⟨refused topic, cfg.maxRetries, cfg.retryDelay⟩ : Call).prog

/-- One call, from its arrival to its end. -/
def perform (cfg : Config) (w : World) (a : Arrival) : Except PyError Unit × World :=
  (protectedWrite cfg a.topic).eval World.exec (w.arrive a)

/-- What can be said of a call afterwards; a failure with the time at which it was recorded. -/
inductive Past where
  | rejected
  | succeeded
  | failed (recordedAt : Time)
  deriving DecidableEq

/-- A call that has not tried to write was rejected. -/
def pastOf (ended : Except PyError Unit × World) : Past :=
  if ended.2.trace = [] then .rejected
  else match ended.1 with
    | .ok () => .succeeded
    | .error _ => .failed ended.2.now

/-- The world after some calls, and what they were. -/
def run (cfg : Config) (arrivals : List Arrival) : World × List Past :=
  arrivals.foldl
    (fun (w, past) a => ((perform cfg w a).2, past ++ [pastOf (perform cfg w a)]))
    (World.init cfg, [])

/-! ### The rule -/

/-- The failures since the last success. -/
def failuresSince (past : List Past) : ℕ :=
  past.foldl
    (fun n p => match p with
      | .rejected => n
      | .succeeded => 0
      | .failed _ => n + 1) 0

/-- The time at which the last failure was recorded. -/
def lastFailure (past : List Past) : Option Time :=
  past.foldl
    (fun t p => match p with
      | .failed recordedAt => some recordedAt
      | _ => t) none

/-- The rule: a call is admitted if too few calls have failed since the last success, or the last
failure is long enough ago. -/
def Admits (cfg : Config) (past : List Past) (now : Time) : Prop :=
  failuresSince past < cfg.breakerFailureThreshold
    ∨ ∃ t, lastFailure past = some t ∧ cfg.breakerCooldown ≤ now - t

/-- No attempt follows on this outcome. -/
def Decisive (r : Except PyError Unit) : Prop :=
  r = .ok () ∨ ∃ exc, r = .error exc ∧ exc.kind = .errPermanent

/-- The number of attempts: up to the first decisive outcome, and `limit` at the most. -/
structure Attempted (outcomes : ℕ → Except PyError Unit) (limit k : ℕ) : Prop where
  pos : 1 ≤ k
  le : k ≤ limit
  undecided : ∀ i, i + 1 < k → ¬ Decisive (outcomes i)
  last : k = limit ∨ Decisive (outcomes (k - 1))

/-- Attempts with doubling delays between them. -/
def attemptTrace (base : Time) (k : ℕ) : List Event :=
  (List.range k).flatMap fun i =>
    (if i = 0 then [] else [.slept (base * 2 ^ (i - 1))]) ++ [.tried]

@[simp] lemma attemptTrace_one (base : Time) : attemptTrace base 1 = [.tried] := rfl

lemma attemptTrace_succ (base : Time) {k : ℕ} (hk : 1 ≤ k) :
    attemptTrace base (k + 1) = .tried :: .slept base :: attemptTrace (base * 2) k := by
  obtain ⟨k, rfl⟩ := Nat.exists_eq_add_of_le' hk
  rw [attemptTrace, attemptTrace, List.range_succ_eq_map, List.flatMap_cons, List.flatMap_map,
    List.range_succ_eq_map, List.flatMap_cons, List.flatMap_cons, List.flatMap_map,
    List.flatMap_map]
  simp [pow_succ, mul_assoc, mul_comm]

/-- The first attempt, and no other. -/
lemma attempted_one {outcomes : ℕ → Except PyError Unit} {limit : ℕ} (hlimit : 1 ≤ limit)
    (h : 1 = limit ∨ Decisive (outcomes 0)) : Attempted outcomes limit 1 :=
  ⟨le_rfl, hlimit, fun i hi => absurd hi (by omega), h⟩

/-- The first attempt, and those after it. -/
lemma Attempted.succ {outcomes : ℕ → Except PyError Unit} {limit k : ℕ}
    (h : Attempted (fun i => outcomes (1 + i)) limit k) (hfirst : ¬ Decisive (outcomes 0)) :
    Attempted outcomes (limit + 1) (k + 1) := by
  refine ⟨by omega, Nat.succ_le_succ h.le, fun i hi => ?_, ?_⟩
  · cases i with
    | zero => exact hfirst
    | succ i =>
        rw [Nat.add_comm]
        exact h.undecided i (by omega)
  · refine h.last.imp (congrArg Nat.succ) fun hlast => ?_
    have hk : 1 + (k - 1) = k + 1 - 1 := by have := h.pos; omega
    rwa [hk] at hlast

/-! ### The attempts of an admitted call -/

/-- An attempt has been made. -/
def World.tried (w : World) : World :=
  { w with
    now := w.now + w.pauses w.tries
    tries := w.tries + 1
    trace := w.trace ++ [.tried] }

/-- A delay has been slept. -/
def World.slept (w : World) (delay : Time) : World :=
  { w with now := w.now + delay, trace := w.trace ++ [.slept delay] }

/-- The last attempt that is made. -/
lemma retryAttempts_eval_last (call : Call) {n : ℕ} (delay : Time) {w : World}
    (h : n = 0 ∨ Decisive (w.outcomes w.tries)) :
    (retryAttempts call.protection.sleep (BreakerCalls.issue .tryWrite) (n + 1) delay).eval
      World.exec w = (w.outcomes w.tries, w.tried) := by
  rw [retryAttempts, Statement.Prog.bind_eq, eval_attempt_bind, Statement.Prog.eval_issue,
    World.exec, ← World.tried]
  dsimp only
  cases hr : w.outcomes w.tries with
  | ok u => rfl
  | error exc =>
      have hlast : exc.kind = .errPermanent ∨ n = 0 := by
        rcases h with h | h | ⟨exc', h, hkind⟩
        · exact .inr h
        · cases hr.symm.trans h
        · cases hr.symm.trans h
          exact .inl hkind
      dsimp only
      rw [if_pos hlast]
      rfl

/-- An attempt that others follow. -/
lemma retryAttempts_eval_next (call : Call) {n : ℕ} {delay : Time} (hdelay : 0 ≤ delay) {w : World}
    (hn : n ≠ 0) (h : ¬ Decisive (w.outcomes w.tries)) :
    (retryAttempts call.protection.sleep (BreakerCalls.issue .tryWrite) (n + 1) delay).eval
        World.exec w
      = (retryAttempts call.protection.sleep (BreakerCalls.issue .tryWrite) n (delay * 2)).eval
        World.exec (w.tried.slept delay) := by
  rw [retryAttempts, Statement.Prog.bind_eq, eval_attempt_bind, Statement.Prog.eval_issue,
    World.exec, ← World.tried]
  dsimp only
  cases hr : w.outcomes w.tries with
  | ok u => exact absurd (.inl hr) h
  | error exc =>
      have hnext : ¬ (exc.kind = .errPermanent ∨ n = 0) := by
        rintro (hkind | hzero)
        · exact h (.inr ⟨exc, hr, hkind⟩)
        · exact hn hzero
      dsimp only
      rw [if_neg hnext, Statement.Prog.bind_eq]
      refine (eval_issue_bind _ _ _ _).trans ?_
      rw [World.exec, if_neg (not_lt.mpr hdelay)]
      rfl

/-- **The retries make the attempts**, with doubling delays, and end as the last of them does. -/
theorem retryAttempts_eval (call : Call) (n : ℕ) {delay : Time} (hdelay : 0 ≤ delay) (w : World) :
    ∃ k w', Attempted (fun i => w.outcomes (w.tries + i)) (n + 1) k
      ∧ (retryAttempts call.protection.sleep (BreakerCalls.issue .tryWrite) (n + 1) delay).eval
          World.exec w = (w.outcomes (w.tries + (k - 1)), w')
      ∧ w'.trace = w.trace ++ attemptTrace delay k ∧ w'.breaker = w.breaker := by
  induction n generalizing delay w with
  | zero =>
      exact ⟨1, w.tried, attempted_one le_rfl (.inl rfl),
        retryAttempts_eval_last call delay (.inl rfl), rfl, rfl⟩
  | succ n ih =>
      by_cases hdecisive : Decisive (w.outcomes w.tries)
      · exact ⟨1, w.tried, attempted_one (by omega) (.inr hdecisive),
          retryAttempts_eval_last call delay (.inr hdecisive), rfl, rfl⟩
      · obtain ⟨k, w', hk, heval, htrace, hbreaker⟩ :=
          ih (mul_nonneg hdelay zero_le_two) (w.tried.slept delay)
        have hshift : ∀ i, (w.tried.slept delay).outcomes ((w.tried.slept delay).tries + i)
            = w.outcomes (w.tries + (1 + i)) := fun i => by
          rw [← Nat.add_assoc]
          rfl
        simp only [hshift] at hk heval
        have hsucc : Attempted (fun i => w.outcomes (w.tries + i)) (n + 1 + 1) (k + 1) :=
          hk.succ hdecisive
        refine ⟨k + 1, w', hsucc, ?_, ?_, hbreaker⟩
        · rw [retryAttempts_eval_next call hdelay (Nat.succ_ne_zero n) hdecisive, heval]
          have hlast : 1 + (k - 1) = k + 1 - 1 := by have := hk.pos; omega
          rw [hlast]
        · rw [htrace, attemptTrace_succ delay hk.pos]
          simp [World.tried, World.slept]

/-! ### One call -/

/-- The breaker is asked. -/
lemma allow_eval (call : Call) {w : World} {admitted : Bool} {b : CircuitBreaker}
    (h : w.breaker.allow w.now = (admitted, b)) :
    call.protection.allow.eval World.exec w = (.ok admitted, { w with breaker := b }) := by
  have hallow : call.protection.allow.eval World.exec w
      = (.ok (w.breaker.allow w.now).1, { w with breaker := (w.breaker.allow w.now).2 }) := rfl
  rw [hallow, h]

/-- A call that the breaker refuses. -/
lemma perform_of_refused (cfg : Config) {w : World} {a : Arrival}
    (h : w.breaker.allow (w.now + a.gap) = (false, w.breaker)) :
    perform cfg w a = (.error (refused a.topic), w.arrive a) := by
  rw [perform, protectedWrite, Call.prog, Protection.write, Statement.Prog.bind_eq,
    Statement.Prog.eval_bind_of_ok World.exec (allow_eval _ (w := w.arrive a) h)]
  rfl

/-- The attempts of a call that the breaker lets through, and what it records of them. -/
lemma perform_of_allowed {cfg : Config} (hretries : 1 ≤ cfg.maxRetries)
    (hdelay : 0 ≤ cfg.retryDelay) {w : World} {a : Arrival} {b : CircuitBreaker}
    (h : w.breaker.allow (w.now + a.gap) = (true, b)) :
    ∃ k, Attempted a.outcomes cfg.maxRetries.toNat k
      ∧ (perform cfg w a).1 = a.outcomes (k - 1)
      ∧ (perform cfg w a).2.trace = attemptTrace cfg.retryDelay k
      ∧ (perform cfg w a).2.breaker = match (perform cfg w a).1 with
        | .ok () => b.recordSuccess
        | .error _ => b.recordFailure (perform cfg w a).2.now := by
  obtain ⟨n, hn⟩ : ∃ n, cfg.maxRetries.toNat = n + 1 :=
    Nat.exists_eq_succ_of_ne_zero (by omega)
  obtain ⟨k, w', hk, heval, htrace, hbreaker⟩ := retryAttempts_eval
    ⟨refused a.topic, cfg.maxRetries, cfg.retryDelay⟩ n hdelay { w.arrive a with breaker := b }
  have hfirst : ∀ i, (w.arrive a).outcomes ((w.arrive a).tries + i) = a.outcomes i := fun i =>
    congrArg a.outcomes (Nat.zero_add i)
  simp only [hfirst] at hk heval
  have hperform : perform cfg w a = match a.outcomes (k - 1) with
      | .ok () => (.ok (), { w' with breaker := b.recordSuccess })
      | .error exc => (.error exc, { w' with breaker := b.recordFailure w'.now }) := by
    rw [perform, protectedWrite, Call.prog, Protection.write, Statement.Prog.bind_eq,
      Statement.Prog.eval_bind_of_ok World.exec (allow_eval _ (w := w.arrive a) h)]
    dsimp only
    rw [if_pos rfl, Statement.Prog.bind_eq, eval_attempt_bind, retryWithBackoff]
    simp only [Call.protection] at heval ⊢
    rw [hn, heval, ← show w'.breaker = b from hbreaker]
    cases a.outcomes (k - 1) with
    | ok u => rfl
    | error exc => rfl
  refine ⟨k, hn ▸ hk, ?_⟩
  rw [hperform]
  cases a.outcomes (k - 1) with
  | ok u => exact ⟨rfl, htrace, rfl⟩
  | error exc => exact ⟨rfl, htrace, rfl⟩

lemma attemptTrace_ne_nil (base : Time) {k : ℕ} (hk : 1 ≤ k) : attemptTrace base k ≠ [] := by
  obtain ⟨k, rfl⟩ := Nat.exists_eq_add_of_le' hk
  cases k with
  | zero => exact List.cons_ne_nil _ _
  | succ k =>
      rw [attemptTrace_succ base (Nat.le_add_left 1 k)]
      exact List.cons_ne_nil _ _

/-! ### The breaker keeps the past -/

/-- How the breaker keeps the past: closed it counts the failures since the last success, open it
knows when the last of them was recorded. -/
inductive Tracks (cfg : Config) (past : List Past) (b : CircuitBreaker) : Prop
  | closed (hstate : b.state = .CLOSED) (hfails : b.consecutiveFails = failuresSince past)
      (hfew : failuresSince past < cfg.breakerFailureThreshold)
  | opened (hstate : b.state = .OPEN) (hmany : cfg.breakerFailureThreshold ≤ failuresSince past)
      (hlast : lastFailure past = some b.openedAt)

@[simp] lemma failuresSince_append (past : List Past) (p : Past) :
    failuresSince (past ++ [p]) = match p with
      | .rejected => failuresSince past
      | .succeeded => 0
      | .failed _ => failuresSince past + 1 := by
  rw [failuresSince, List.foldl_append]
  cases p <;> rfl

@[simp] lemma lastFailure_append (past : List Past) (p : Past) :
    lastFailure (past ++ [p]) = match p with
      | .failed recordedAt => some recordedAt
      | _ => lastFailure past := by
  rw [lastFailure, List.foldl_append]
  cases p <;> rfl

/-- The settings a breaker was made with. -/
structure Made (cfg : Config) (b : CircuitBreaker) : Prop where
  threshold : b.threshold = cfg.breakerFailureThreshold
  cooldown : b.cooldown = cfg.breakerCooldown

@[simp] lemma Made.recordSuccess {cfg : Config} {b : CircuitBreaker} (h : Made cfg b) :
    Made cfg b.recordSuccess := ⟨h.threshold, h.cooldown⟩

@[simp] lemma Made.recordFailure {cfg : Config} {b : CircuitBreaker} (h : Made cfg b)
    (now : Time) : Made cfg (b.recordFailure now) :=
  ⟨(b.recordFailure_threshold now).trans h.threshold,
    (b.recordFailure_cooldown now).trans h.cooldown⟩

/-- A success closes the breaker, with no failure to count. -/
lemma tracks_recordSuccess {cfg : Config} (hthreshold : 1 ≤ cfg.breakerFailureThreshold)
    (past : List Past) (b : CircuitBreaker) :
    Tracks cfg (past ++ [.succeeded]) b.recordSuccess := by
  refine .closed rfl ?_ ?_
  · simp [CircuitBreaker.recordSuccess]
  · rw [failuresSince_append]
    exact hthreshold

/-- A failure of a closed breaker is counted, and the one that is too many opens it. -/
lemma tracks_recordFailure_of_closed {cfg : Config} {past : List Past} {b : CircuitBreaker}
    (hmade : Made cfg b) (hstate : b.state = .CLOSED)
    (hfails : b.consecutiveFails = failuresSince past) (t : Time) :
    Tracks cfg (past ++ [.failed t]) (b.recordFailure t) := by
  have hcount : b.consecutiveFails + 1 = (failuresSince (past ++ [.failed t]) : ℤ) := by
    simp only [failuresSince_append]
    omega
  have hhalf : b.state ≠ .HALF_OPEN := by simp [hstate]
  rw [CircuitBreaker.recordFailure, if_neg hhalf]
  dsimp only
  split
  · rename_i hmany
    refine .opened rfl ?_ (lastFailure_append past _)
    rwa [hcount, hmade.threshold] at hmany
  · rename_i hfew
    refine .closed hstate hcount ?_
    rw [hcount, hmade.threshold] at hfew
    omega

/-- A failed trial opens the breaker again. -/
lemma tracks_recordFailure_of_trial {cfg : Config} {past : List Past} {b : CircuitBreaker}
    (hstate : b.state = .HALF_OPEN) (hmany : cfg.breakerFailureThreshold ≤ failuresSince past)
    (t : Time) : Tracks cfg (past ++ [.failed t]) (b.recordFailure t) := by
  rw [CircuitBreaker.recordFailure, if_pos hstate]
  refine .opened rfl ?_ (lastFailure_append past _)
  simp only [failuresSince_append]
  omega

/-- **The breaker admits by the rule**; whatever becomes of the call it lets through, it keeps. -/
lemma Tracks.allow {cfg : Config} (hthreshold : 1 ≤ cfg.breakerFailureThreshold)
    {past : List Past} {b : CircuitBreaker} (hmade : Made cfg b) (h : Tracks cfg past b)
    (now : Time) :
    (Admits cfg past now ∧ ∃ b', b.allow now = (true, b') ∧ Made cfg b'
        ∧ Tracks cfg (past ++ [.succeeded]) b'.recordSuccess
        ∧ ∀ t, Tracks cfg (past ++ [.failed t]) (b'.recordFailure t))
      ∨ (¬ Admits cfg past now ∧ b.allow now = (false, b)) := by
  cases h with
  | closed hstate hfails hfew =>
      have hallow : b.allow now = (true, b) := by rw [CircuitBreaker.allow, hstate]
      exact .inl ⟨.inl hfew, b, hallow, hmade, tracks_recordSuccess hthreshold past b,
        tracks_recordFailure_of_closed hmade hstate hfails⟩
  | opened hstate hmany hlast =>
      rw [CircuitBreaker.allow, hstate]
      dsimp only
      by_cases hcool : b.cooldown ≤ now - b.openedAt
      · rw [if_pos hcool]
        refine .inl ⟨.inr ⟨b.openedAt, hlast, hmade.cooldown ▸ hcool⟩, _, rfl,
          ⟨hmade.threshold, hmade.cooldown⟩, tracks_recordSuccess hthreshold past _,
          tracks_recordFailure_of_trial rfl hmany⟩
      · rw [if_neg hcool]
        refine .inr ⟨?_, rfl⟩
        rintro (hfew | ⟨t, ht, hlong⟩)
        · exact absurd hfew (not_lt.mpr hmany)
        · obtain rfl : t = b.openedAt := Option.some_injective _ (ht.symm.trans hlast)
          exact hcool (hmade.cooldown ▸ hlong)

/-! ### Runs -/

lemma run_append (cfg : Config) (arrivals : List Arrival) (a : Arrival) :
    run cfg (arrivals ++ [a])
      = ((perform cfg (run cfg arrivals).1 a).2,
          (run cfg arrivals).2 ++ [pastOf (perform cfg (run cfg arrivals).1 a)]) := by
  rw [run, List.foldl_append]
  rfl

/-- A call that has been rejected is not counted, and does not touch the breaker. -/
lemma Tracks.rejected {cfg : Config} {past : List Past} {b : CircuitBreaker}
    (h : Tracks cfg past b) : Tracks cfg (past ++ [.rejected]) b := by
  cases h with
  | closed hstate hfails hfew =>
      exact .closed hstate (by rwa [failuresSince_append]) (by rwa [failuresSince_append])
  | opened hstate hmany hlast =>
      exact .opened hstate (by rwa [failuresSince_append]) (by rwa [lastFailure_append])

/-- **After any calls the breaker keeps their past.** -/
theorem tracks_run {cfg : Config} (hretries : 1 ≤ cfg.maxRetries) (hdelay : 0 ≤ cfg.retryDelay)
    (hthreshold : 1 ≤ cfg.breakerFailureThreshold) (arrivals : List Arrival) :
    Made cfg (run cfg arrivals).1.breaker
      ∧ Tracks cfg (run cfg arrivals).2 (run cfg arrivals).1.breaker := by
  induction arrivals using List.reverseRecOn with
  | nil => exact ⟨⟨rfl, rfl⟩, .closed rfl rfl hthreshold⟩
  | append_singleton arrivals a ih =>
      obtain ⟨hmade, htracks⟩ := ih
      rw [run_append]
      generalize (run cfg arrivals).1 = w at hmade htracks ⊢
      rcases htracks.allow hthreshold hmade (w.now + a.gap) with
        ⟨-, b, hallow, hb, hsuccess, hfailure⟩ | ⟨-, hallow⟩
      · obtain ⟨k, hk, -, htrace, hbreaker⟩ := perform_of_allowed hretries hdelay hallow
        have hmet : (perform cfg w a).2.trace ≠ [] := htrace ▸ attemptTrace_ne_nil _ hk.pos
        rw [pastOf, if_neg hmet]
        dsimp only
        rw [hbreaker]
        cases (perform cfg w a).1 with
        | ok u => exact ⟨hb.recordSuccess, hsuccess⟩
        | error exc => exact ⟨hb.recordFailure _, hfailure _⟩
      · rw [perform_of_refused cfg hallow]
        exact ⟨hmade, htracks.rejected⟩

/-- **A protected write follows the rule**: after any calls one after the other, the next call is
let through exactly if the rule admits it.  It then makes its attempts and ends as the last of them
does; else it does nothing, and nothing changes. -/
theorem protected_write_refines {cfg : Config} (hretries : 1 ≤ cfg.maxRetries)
    (hdelay : 0 ≤ cfg.retryDelay) (hthreshold : 1 ≤ cfg.breakerFailureThreshold)
    (arrivals : List Arrival) (a : Arrival) :
    let (w, past) := run cfg arrivals
    (Admits cfg past (w.now + a.gap) →
      ∃ k, Attempted a.outcomes cfg.maxRetries.toNat k
        ∧ (perform cfg w a).1 = a.outcomes (k - 1)
        ∧ (perform cfg w a).2.trace = attemptTrace cfg.retryDelay k)
      ∧ (¬ Admits cfg past (w.now + a.gap) →
        perform cfg w a = (.error (refused a.topic), w.arrive a)) := by
  dsimp only
  obtain ⟨hmade, htracks⟩ := tracks_run hretries hdelay hthreshold arrivals
  rcases htracks.allow hthreshold hmade ((run cfg arrivals).1.now + a.gap) with
    ⟨hadmits, b, hallow, -⟩ | ⟨hadmits, hallow⟩
  · refine ⟨fun _ => ?_, fun h => absurd hadmits h⟩
    obtain ⟨k, hk, hresult, htrace, -⟩ := perform_of_allowed hretries hdelay hallow
    exact ⟨k, hk, hresult, htrace⟩
  · exact ⟨fun h => absurd h hadmits, fun _ => perform_of_refused cfg hallow⟩

/-- A call on a broker that does not answer. -/
def downArrival : Arrival where
  gap := 1000000
  topic := "test-topic"
  outcomes := fun _ => .error ⟨.runtimeError, "broker unreachable"⟩
  pauses := fun _ => 0

/-- One failure opens the breaker, and the call of a second later is rejected. -/
theorem protected_write_refines_down :
    let cfg : Config := { maxRetries := 1, breakerFailureThreshold := 1 }
    perform cfg (run cfg [downArrival]).1 downArrival
      = (.error (refused "test-topic"), (run cfg [downArrival]).1.arrive downArrival) := by
  refine (protected_write_refines (by decide) (by decide) (by decide) [downArrival]
    downArrival).2 ?_
  rintro (hfew | ⟨t, ht, hlong⟩)
  · exact absurd hfew (by decide +kernel)
  · obtain rfl : (1000000 : Time) = t := Option.some_injective _ (Eq.trans (by decide +kernel) ht)
    exact absurd hlong (by decide +kernel)

end ProtectedWrites

end InduSense
