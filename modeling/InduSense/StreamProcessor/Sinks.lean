import InduSense.Statement.Implement
import InduSense.Shared.Reliability
import InduSense.StreamProcessor.SilentLoss

/-!
The stream processor with its sinks as they are: `influx.py` and `kafka_io.py`, where a write is
retried behind a circuit breaker, and what is left of it in `processMessage`, where it is one
request.

* `SinkStmt`, `Sinks`, `Sinks.exec`: the operations of the breakers, the sleeps, and the single
  attempts, which fail and take time; `Sinks.start`: a new process.
* `sinks`: the methods of `InfluxSink` and `KafkaIO`; `handle`, `receive`: the handler over them.
* `Tried`, `tried_write`: what a write behind its breaker comes to.
-/

namespace InduSense

namespace StreamProcessor

open Statement (Signature Exec Reply)
open Statement.Prog (attempt implement)

variable {R Payload : Type}

/-! ### The sinks -/

/-- `Config`, as far as the sinks read it. -/
structure SinkConfig where
  topicProcessed : String := "telemetry.processed"
  influxMaxRetries : ℤ := 5
  influxRetryBaseDelay : Time := seconds 1
  kafkaMaxRetries : ℤ := 5
  kafkaRetryBaseDelay : Time := seconds 1
  breakerFailureThreshold : ℤ := 5
  breakerCooldown : Time := seconds 15

/-- What the handler and its sinks ask: a request of the handler, or one attempt at it; the
operations of the breakers; and sleep. -/
inductive SinkStmt (R : Type) where
  | request (c : Stmt R)
  | influxAllow
  | influxSuccess
  | influxFailure
  | kafkaAllow
  | kafkaSuccess
  | kafkaFailure
  | sleep (delay : Time)

/-- What each of them is answered with. -/
abbrev SinkStmt.Answer : SinkStmt R → Type
  | request c => c.Answer
  | influxAllow => Bool
  | influxSuccess => Unit
  | influxFailure => Unit
  | kafkaAllow => Bool
  | kafkaSuccess => Unit
  | kafkaFailure => Unit
  | sleep _ => Unit

/-- The signature of the requests. -/
abbrev Sinking (R : Type) : Signature := ⟨SinkStmt R, SinkStmt.Answer⟩

/-- Programs over them. -/
abbrev Sinking.Prog (R α : Type) := Statement.Prog (Sinking R) PyError α

/-- Make one of them. -/
abbrev Sinking.issue (c : SinkStmt R) : Sinking.Prog R c.Answer :=
  @Statement.Prog.issue (Sinking R) PyError c

/-- What happens to the attempts of a delivery: the reply to the `n`-th and the time it takes, and
what the window flusher, which writes to InfluxDB too, has done to the breaker before it. -/
structure Circumstances where
  replies : ℕ → Reply PyError
  pauses : ℕ → ℕ
  flusher : ℕ → CircuitBreaker → CircuitBreaker

/-- The world of the handler, its breakers, and the number of attempts made since the message was
delivered. -/
structure Sinks (R : Type) where
  world : World R
  influx : CircuitBreaker
  kafka : CircuitBreaker
  attempts : ℕ
  circumstances : Circumstances

/-- Nothing happens to the attempts. -/
def Circumstances.calm : Circumstances := ⟨fun _ => .answers, fun _ => 0, fun _ breaker => breaker⟩

/-- A process that has just started, with the keys that are in Redis. -/
def Sinks.start (scfg : SinkConfig) (maxWindow now : Time) (redis : String → Option Time) :
    Sinks R where
  world := { World.init maxWindow with now, redis }
  influx := { threshold := scfg.breakerFailureThreshold, cooldown := scfg.breakerCooldown }
  kafka := { threshold := scfg.breakerFailureThreshold, cooldown := scfg.breakerCooldown }
  attempts := 0
  circumstances := .calm

/-- What happens in the memory of the process, and always is carried out. -/
def InMemory : Stmt R → Bool
  | .recordSample _ _ _ => true
  | .utcNow => true
  | _ => false

namespace Sinks

/-- The world after an attempt, which takes its time. -/
def attempted (s : Sinks R) (world : World R) : Sinks R :=
  { s with world := world.tick (s.circumstances.pauses s.attempts), attempts := s.attempts + 1 }

/-- What each operation does. -/
def exec : Exec (Sinking R) PyError (Sinks R)
  | .request c, s =>
      if InMemory c then ((World.exec c s.world).1, { s with world := (World.exec c s.world).2 })
      else match s.circumstances.replies s.attempts with
        | .answers => ((World.exec c s.world).1, s.attempted (World.exec c s.world).2)
        | .fails e applied =>
            (.error e, s.attempted (if applied then (World.exec c s.world).2 else s.world))
  | .influxAllow, s =>
      let breaker := s.circumstances.flusher s.attempts s.influx
      (.ok (breaker.allow s.world.now).1, { s with influx := (breaker.allow s.world.now).2 })
  | .influxSuccess, s => (.ok (), { s with influx := s.influx.recordSuccess })
  | .influxFailure, s => (.ok (), { s with influx := s.influx.recordFailure s.world.now })
  | .kafkaAllow, s =>
      (.ok (s.kafka.allow s.world.now).1, { s with kafka := (s.kafka.allow s.world.now).2 })
  | .kafkaSuccess, s => (.ok (), { s with kafka := s.kafka.recordSuccess })
  | .kafkaFailure, s => (.ok (), { s with kafka := s.kafka.recordFailure s.world.now })
  | .sleep delay, s =>
      if delay < 0 then (.error ⟨.valueError, "sleep length must be non-negative"⟩, s)
      else (.ok (), { s with world := s.world.tick delay.toNat })

end Sinks

section Methods

variable (scfg : SinkConfig)

open Sinking (issue)

/-- The protection of `InfluxSink._write_with_protection`. -/
def influxProtection : Protection (Sinking R) where
  allow := issue .influxAllow
  recordSuccess := issue .influxSuccess
  recordFailure := issue .influxFailure
  sleep delay := issue (.sleep delay)
  maxRetries := scfg.influxMaxRetries
  retryDelay := scfg.influxRetryBaseDelay

/-- The protection of `KafkaIO.protected_write`. -/
def kafkaProtection : Protection (Sinking R) where
  allow := issue .kafkaAllow
  recordSuccess := issue .kafkaSuccess
  recordFailure := issue .kafkaFailure
  sleep delay := issue (.sleep delay)
  maxRetries := scfg.kafkaMaxRetries
  retryDelay := scfg.kafkaRetryBaseDelay

/-- How each request of the handler is carried out: `InfluxSink.write_raw_point` and
`KafkaIO.publish_processed` are protected, the others are made once. -/
def sinks : (c : Stmt R) → Sinking.Prog R c.Answer
  | .writeRawPoint key t value =>
      (influxProtection scfg).write ⟨.runtimeError, "circuit breaker open for influxdb"⟩
        (issue (.request (.writeRawPoint key t value)))
  | .publishProcessed key evt =>
      (kafkaProtection scfg).write
        ⟨.kafkaPublishError, "circuit breaker open for kafka topic " ++ scfg.topicProcessed⟩
        (issue (.request (.publishProcessed key evt)))
  | .setNx key ex => issue (.request (.setNx key ex))
  | .recordSample key t value => issue (.request (.recordSample key t value))
  | .produceDeadLetter key record => issue (.request (.produceDeadLetter key record))
  | .utcNow => issue (.request .utcNow)

/-- `_process_message`, over the sinks. -/
def handle (cfg : Config) (codec : Codec Payload (NormalizedTelemetryEvent R)) (msg : Payload) :
    Sinking.Prog R Bool :=
  (processMessage cfg codec msg).implement (sinks scfg)

/-- A message is delivered some time after the last one was dealt with. -/
structure Arrival where
  elapsed : ℕ
  circumstances : Circumstances

/-- The message arrives. -/
def Sinks.arrive (s : Sinks R) (a : Arrival) : Sinks R :=
  { s with world := s.world.tick a.elapsed, attempts := 0, circumstances := a.circumstances }

/-- The handling of a delivery. -/
def receive (cfg : Config) (codec : Codec Payload (NormalizedTelemetryEvent R)) (msg : Payload)
    (s : Sinks R) (a : Arrival) : Except PyError Bool × Sinks R :=
  (handle scfg cfg codec msg).eval Sinks.exec (s.arrive a)

end Methods

/-! ### Protected writes -/

section Writes

variable {add : World R → World R} {w : World R} {s : Sinks R} {n : ℕ}

/-- Time that passes in two parts. -/
lemma tick_tick (a b : ℕ) (w : World R) : (w.tick a).tick b = w.tick (a + b) := by
  rw [World.tick, World.tick, World.tick, Nat.cast_add, ← add_assoc]

/-- What attempts at adding something come to: at most `n` of them have added it, one of them if
they are reported to have succeeded, and time has passed. -/
def Tried (add : World R → World R) (n : ℕ) (w : World R) (ended : Except PyError Unit × Sinks R) :
    Prop :=
  ∃ k dt, k ≤ n ∧ (ended.1 = .ok () → 0 < k) ∧ ended.2.world = (add^[k] w).tick dt

/-- Adding does not depend on the time. -/
def Timeless (add : World R → World R) : Prop := ∀ w dt, add (w.tick dt) = (add w).tick dt

lemma Timeless.iterate (h : Timeless add) (k : ℕ) (w : World R) (dt : ℕ) :
    add^[k] (w.tick dt) = (add^[k] w).tick dt := by
  induction k generalizing w with
  | zero => rfl
  | succ k ih => rw [Function.iterate_succ_apply, Function.iterate_succ_apply, h, ih]

/-- The attempts that follow one that has added, or not. -/
lemma Tried.after (h : Timeless add) {j dt : ℕ} {w' : World R} (hw' : w' = (add^[j] w).tick dt)
    {ended : Except PyError Unit × Sinks R} (htried : Tried add n w' ended) (hj : j ≤ 1) :
    Tried add (n + 1) w ended := by
  obtain ⟨k, dt', hk, hok, hended⟩ := htried
  refine ⟨k + j, dt + dt', by omega, fun hr => Nat.add_pos_left (hok hr) _, ?_⟩
  rw [hended, hw', h.iterate, tick_tick, ← Function.iterate_add_apply]

lemma Tried.mono {m : ℕ} {ended : Except PyError Unit × Sinks R} (h : Tried add n w ended)
    (hle : n ≤ m) : Tried add m w ended := by
  obtain ⟨k, dt, hk, hok, hended⟩ := h
  exact ⟨k, dt, hk.trans hle, hok, hended⟩

/-- A sleep only takes time. -/
lemma eval_sleep (delay : Time) (s : Sinks R) :
    ∃ r dt, ((Sinking.issue (.sleep delay) : Sinking.Prog R Unit).eval Sinks.exec s)
        = (r, { s with world := s.world.tick dt }) := by
  rw [Statement.Prog.eval_issue, Sinks.exec]
  split
  · exact ⟨_, 0, by rw [World.tick, Nat.cast_zero, add_zero]⟩
  · exact ⟨_, _, rfl⟩

/-- **Attempts with delays.** -/
lemma tried_retryAttempts {fn : Sinking.Prog R Unit} (h : Timeless add)
    (hfn : ∀ s, Tried add 1 s.world (fn.eval Sinks.exec s)) (n : ℕ) (delay : Time) (s : Sinks R) :
    Tried add n s.world
      ((retryAttempts (fun delay => Sinking.issue (.sleep delay)) fn n delay).eval Sinks.exec
        s) := by
  induction n generalizing delay s with
  | zero =>
      refine ⟨0, 0, le_rfl, fun h => (by cases h), ?_⟩
      rw [World.tick, Nat.cast_zero, add_zero]
      rfl
  | succ n ih =>
      rw [retryAttempts, Statement.Prog.bind_eq, Statement.Prog.eval_attempt_bind]
      have hfirst := hfn s
      rcases hend : fn.eval Sinks.exec s with ⟨r, s'⟩
      rw [hend] at hfirst
      cases r with
      | ok u => exact hfirst.mono (Nat.le_add_left 1 n)
      | error exc =>
          obtain ⟨j, dt, hj, -, hworld⟩ := hfirst
          dsimp only
          split
          · exact ⟨j, dt, hj.trans (Nat.le_add_left 1 n), fun h => (by cases h), hworld⟩
          · obtain ⟨r, dt', hsleep⟩ := eval_sleep delay s'
            rw [Statement.Prog.bind_eq, Statement.Prog.eval_bind, hsleep]
            have hslept : s'.world.tick dt' = (add^[j] s.world).tick (dt + dt') := by
              rw [hworld, tick_tick]
            cases r with
            | ok u =>
                exact (ih (delay * 2) { s' with world := s'.world.tick dt' }).after h hslept hj
            | error exc' =>
                exact ⟨j, _, hj.trans (Nat.le_add_left 1 n), fun h => (by cases h), hslept⟩

/-- The operations of a breaker leave the world as it is. -/
structure Protects (p : Protection (Sinking R)) : Prop where
  allow : ∀ s, ∃ admitted s', p.allow.eval Sinks.exec s = (.ok admitted, s') ∧ s'.world = s.world
  recordSuccess : ∀ s, ∃ s', p.recordSuccess.eval Sinks.exec s = (.ok (), s') ∧ s'.world = s.world
  recordFailure : ∀ s, ∃ s', p.recordFailure.eval Sinks.exec s = (.ok (), s') ∧ s'.world = s.world
  sleep : p.sleep = fun delay => Sinking.issue (.sleep delay)

lemma protects_influx (scfg : SinkConfig) :
    Protects (influxProtection scfg : Protection (Sinking R)) where
  allow _ := ⟨_, _, Statement.Prog.eval_issue _ _ _, rfl⟩
  recordSuccess _ := ⟨_, Statement.Prog.eval_issue _ _ _, rfl⟩
  recordFailure _ := ⟨_, Statement.Prog.eval_issue _ _ _, rfl⟩
  sleep := rfl

lemma protects_kafka (scfg : SinkConfig) :
    Protects (kafkaProtection scfg : Protection (Sinking R)) where
  allow _ := ⟨_, _, Statement.Prog.eval_issue _ _ _, rfl⟩
  recordSuccess _ := ⟨_, Statement.Prog.eval_issue _ _ _, rfl⟩
  recordFailure _ := ⟨_, Statement.Prog.eval_issue _ _ _, rfl⟩
  sleep := rfl

/-- **A protected write**, whatever the breaker says. -/
lemma tried_write {p : Protection (Sinking R)} (hp : Protects p) {fn : Sinking.Prog R Unit}
    (h : Timeless add) (hfn : ∀ s, Tried add 1 s.world (fn.eval Sinks.exec s)) (refused : PyError)
    (s : Sinks R) :
    Tried add p.maxRetries.toNat s.world ((p.write refused fn).eval Sinks.exec s) := by
  obtain ⟨admitted, s₁, hallow, hworld⟩ := hp.allow s
  rw [Protection.write, Statement.Prog.bind_eq, Statement.Prog.eval_bind, hallow]
  dsimp only
  cases admitted with
  | false =>
      refine ⟨0, 0, Nat.zero_le _, fun h => (by cases h), ?_⟩
      rw [World.tick, Nat.cast_zero, add_zero]
      exact hworld
  | true =>
      rw [if_pos rfl, Statement.Prog.bind_eq, Statement.Prog.eval_attempt_bind, retryWithBackoff,
        hp.sleep]
      have htried := tried_retryAttempts h hfn p.maxRetries.toNat p.retryDelay s₁
      rcases hend : (retryAttempts (fun delay => Sinking.issue (.sleep delay)) fn p.maxRetries.toNat
        p.retryDelay).eval Sinks.exec s₁ with ⟨r, s₂⟩
      rw [hend] at htried
      obtain ⟨k, dt, hk, hok, hworld₂⟩ := htried
      rw [hworld] at hworld₂
      cases r with
      | ok u =>
          obtain ⟨s₃, hrecord, hworld₃⟩ := hp.recordSuccess s₂
          dsimp only
          rw [hrecord]
          exact ⟨k, dt, hk, hok, hworld₃.trans hworld₂⟩
      | error exc =>
          obtain ⟨s₃, hrecord, hworld₃⟩ := hp.recordFailure s₂
          dsimp only
          rw [Statement.Prog.bind_eq, Statement.Prog.eval_bind, hrecord]
          exact ⟨k, dt, hk, fun h => (by cases h), hworld₃.trans hworld₂⟩

end Writes

end StreamProcessor

end InduSense
