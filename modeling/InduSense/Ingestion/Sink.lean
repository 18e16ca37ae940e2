import InduSense.Statement.ClaimFirst
import InduSense.Statement.Interleave
import InduSense.Shared.Reliability
import InduSense.Ingestion.Validate

/-!
The Kafka side of ingestion: `kafka_producer.py`, with the queue of `mqtt_client.py`.

* `Stmt`, `World`, `World.exec`: the requests to Kafka, the circuit breaker, the queue of messages
  and the clock.
* `publishTelemetry`, `publishMachineEvent`, `deadLetterValidationFailure`: the methods of
  `KafkaSink`.
* `followsIn_writeWithProtection`: a write ends with the record written, or as it started.
-/

namespace InduSense

namespace Ingestion

open Statement (Signature Exec Reply)
open Statement.Prog (attempt)

/-- `InboundMessage`; `receipt` is its place in the order in which the network thread has put
messages into the queue, and stands for its `ack` closure. -/
structure InboundMessage (Payload : Type) where
  topic : String
  payload : Payload
  receipt : ℕ

/-- The settings of `KafkaSink`. -/
structure Config where
  topicTelemetryRaw : String := "telemetry.raw"
  topicDeviceEvents : String := "device.events"
  topicDeadLetter : String := "dead-letter"
  queueCapacity : ℤ := 10000
  kafkaMaxRetries : ℤ := 5
  kafkaRetryBaseDelay : Time := seconds 1
  breakerFailureThreshold : ℤ := 5
  breakerCooldown : Time := seconds 15

/-! ### Requests -/

/-- What a worker asks of the queue, the breaker, Kafka, MQTT, `uuid` and the clock.  A record for
`telemetry.raw` goes with the receipt of the message it comes from. -/
inductive Stmt (R Payload : Type) where
  | shutdownIsSet
  | jobsGet
  | allow
  | recordSuccess
  | recordFailure
  | sleep (delay : Time)
  | produceTelemetry (receipt : ℕ) (key : String) (evt : NormalizedTelemetryEvent R)
  | produceMachineEvent (key : String) (evt : NormalizedMachineEvent)
  | produceDeadLetter (key : String) (record : DeadLetterRecord)
  | ack (receipt : ℕ)
  | uuid4
  | utcNow

/-- What each of them is answered with; `jobs.get` answers nothing where it raises `Empty`. -/
abbrev Stmt.Answer {R Payload : Type} : Stmt R Payload → Type
  | shutdownIsSet => Bool
  | jobsGet => Option (InboundMessage Payload)
  | allow => Bool
  | recordSuccess => Unit
  | recordFailure => Unit
  | sleep _ => Unit
  | produceTelemetry _ _ _ => Unit
  | produceMachineEvent _ _ => Unit
  | produceDeadLetter _ _ => Unit
  | ack _ => Unit
  | uuid4 => String
  | utcNow => Time

/-- The signature of the requests. -/
abbrev Ingesting (R Payload : Type) : Signature := ⟨Stmt R Payload, Stmt.Answer⟩

/-- Programs over them. -/
abbrev Ingesting.Prog (R Payload α : Type) := Statement.Prog (Ingesting R Payload) PyError α

/-- Make one of them. -/
abbrev Ingesting.issue {R Payload : Type} (c : Stmt R Payload) :
    Ingesting.Prog R Payload c.Answer :=
  @Statement.Prog.issue (Ingesting R Payload) PyError c

/-- The queue, with the number of messages put into it; the breaker; the clock; what Kafka replies
on each topic at present; and what has been written, acknowledged and drawn. -/
structure World (R Payload : Type) where
  shutdown : Bool
  queue : List (InboundMessage Payload)
  received : ℕ
  breaker : CircuitBreaker
  now : Time
  telemetryReply : Reply PyError
  eventsReply : Reply PyError
  deadLetterReply : Reply PyError
  telemetryRaw : List (ℕ × String × NormalizedTelemetryEvent R)
  deviceEvents : List (String × NormalizedMachineEvent)
  deadLetters : List (String × DeadLetterRecord)
  acked : List ℕ
  nextUuid : ℕ

/-- What a request to Kafka is answered with. -/
def answerOf : Reply PyError → Except PyError Unit
  | .answers => .ok ()
  | .fails e _ => .error e

/-- A topic after a request to add a record, which may be added although the request fails. -/
def append {α : Type} (reply : Reply PyError) (topic : List α) (record : α) : List α :=
  if reply.applied then topic ++ [record] else topic

namespace World

variable {R Payload : Type}

/-- A process that has just started. -/
def init (cfg : Config) : World R Payload where
  shutdown := false
  queue := []
  received := 0
  breaker := { threshold := cfg.breakerFailureThreshold, cooldown := cfg.breakerCooldown }
  now := 0
  telemetryReply := .answers
  eventsReply := .answers
  deadLetterReply := .answers
  telemetryRaw := []
  deviceEvents := []
  deadLetters := []
  acked := []
  nextUuid := 0

/-- What each request does. -/
def exec : Exec (Ingesting R Payload) PyError (World R Payload)
  | .shutdownIsSet, w => (.ok w.shutdown, w)
  | .jobsGet, w =>
      match w.queue with
      | [] => (.ok none, w)
      | job :: queue => (.ok (some job), { w with queue })
  | .allow, w =>
      (.ok (w.breaker.allow w.now).1, { w with breaker := (w.breaker.allow w.now).2 })
  | .recordSuccess, w => (.ok (), { w with breaker := w.breaker.recordSuccess })
  | .recordFailure, w => (.ok (), { w with breaker := w.breaker.recordFailure w.now })
  | .sleep delay, w =>
      if delay < 0 then (.error ⟨.valueError, "sleep length must be non-negative"⟩, w)
      else (.ok (), w)
  | .produceTelemetry receipt key evt, w =>
      (answerOf w.telemetryReply,
        { w with telemetryRaw := append w.telemetryReply w.telemetryRaw (receipt, key, evt) })
  | .produceMachineEvent key evt, w =>
      (answerOf w.eventsReply,
        { w with deviceEvents := append w.eventsReply w.deviceEvents (key, evt) })
  | .produceDeadLetter key record, w =>
      (answerOf w.deadLetterReply,
        { w with deadLetters := append w.deadLetterReply w.deadLetters (key, record) })
  | .ack receipt, w => (.ok (), { w with acked := w.acked ++ [receipt] })
  | .uuid4, w => (.ok (toString w.nextUuid), { w with nextUuid := w.nextUuid + 1 })
  | .utcNow, w => (.ok w.now, w)

/-- What happens outside of the workers: a message arrives, time passes, Kafka changes its replies,
the process is asked to shut down. -/
inductive Outside (Payload : Type) where
  | receive (topic : String) (payload : Payload)
  | elapse (dt : ℕ)
  | replies (telemetry events deadLetter : Reply PyError)
  | shutdown

/-- The effect of it.  The handler of `_subscribe` puts a message into the queue unless the queue is
full or the process is shutting down. -/
def outside (cfg : Config) : Outside Payload → World R Payload → World R Payload
  | .receive topic payload, w =>
      if w.shutdown ∨ (0 < cfg.queueCapacity ∧ cfg.queueCapacity ≤ w.queue.length) then w
      else { w with queue := w.queue ++ [⟨topic, payload, w.received⟩], received := w.received + 1 }
  | .elapse dt, w => { w with now := w.now + dt }
  | .replies telemetry events deadLetter, w =>
      { w with telemetryReply := telemetry, eventsReply := events, deadLetterReply := deadLetter }
  | .shutdown, w => { w with shutdown := true }

end World

/-! ### The sink -/

section Sink

variable {R Payload : Type} (cfg : Config)

open Ingesting (issue)

/-- `utc_now()`, as the wire carries it. -/
def utcDatetime (now : Time) : Datetime := ⟨now + 62135596800000000, some 0⟩

/-- The breaker and the retries of the sink. -/
def protection : Protection (Ingesting R Payload) where
  allow := issue .allow
  recordSuccess := issue .recordSuccess
  recordFailure := issue .recordFailure
  sleep delay := issue (.sleep delay)
  maxRetries := cfg.kafkaMaxRetries
  retryDelay := cfg.kafkaRetryBaseDelay

/-- `KafkaSink._write_with_protection`. -/
def writeWithProtection (topic : String) (produceAndWait : Ingesting.Prog R Payload Unit) :
    Ingesting.Prog R Payload Unit :=
  (protection cfg).write
    ⟨.kafkaPublishError, "circuit breaker open for kafka topic " ++ topic⟩ produceAndWait

/-- `KafkaSink._dead_letter`. -/
def deadLetter (rawPayload : String) (cause : PyError) (errorType : ErrorType)
    (stage correlationId sourceTopic : String) : Ingesting.Prog R Payload Unit := do
  let timestamp ← issue .utcNow
  match ← attempt (issue (.produceDeadLetter correlationId
      { originalPayload := rawPayload, error := cause.message, errorType, service := "ingestion",
        processingStage := stage, retryCount := cfg.kafkaMaxRetries, timestamp, correlationId,
        sourceTopic })) with
  | .ok () => return ()
  | .error exc =>
      Statement.Prog.raise ⟨.kafkaPublishError, "dead-letter write also failed: " ++ exc.message⟩

/-- The part `KafkaSink.publish_telemetry` and `KafkaSink.publish_machine_event` share: a write that
fails for good is dead-lettered. -/
def publish (topic : String) (produceAndWait : Ingesting.Prog R Payload Unit)
    (rawPayload correlationId sourceTopic : String) : Ingesting.Prog R Payload Unit := do
  match ← attempt (writeWithProtection cfg topic produceAndWait) with
  | .ok () => return ()
  | .error exc =>
      deadLetter cfg rawPayload exc .TRANSIENT_ERROR "kafka_publish" correlationId sourceTopic

/-- `KafkaSink.publish_telemetry`. -/
def publishTelemetry (receipt : ℕ) (key : String) (evt : NormalizedTelemetryEvent R)
    (rawPayload sourceTopic : String) : Ingesting.Prog R Payload Unit :=
  publish cfg cfg.topicTelemetryRaw (issue (.produceTelemetry receipt key evt)) rawPayload
    evt.correlationId sourceTopic

/-- `KafkaSink.publish_machine_event`. -/
def publishMachineEvent (key : String) (evt : NormalizedMachineEvent)
    (rawPayload sourceTopic : String) : Ingesting.Prog R Payload Unit :=
  publish cfg cfg.topicDeviceEvents (issue (.produceMachineEvent key evt)) rawPayload
    evt.correlationId sourceTopic

/-- `KafkaSink.dead_letter_validation_failure`. -/
def deadLetterValidationFailure (rawPayload : String) (validationErr : PyError)
    (correlationId sourceTopic : String) : Ingesting.Prog R Payload Unit :=
  deadLetter cfg rawPayload validationErr .VALIDATION_ERROR "validation" correlationId sourceTopic

/-! ### What holds when a write ends -/

/-- What a protected write asks for besides the record. -/
def Overhead : Stmt R Payload → Prop
  | .allow => True
  | .recordSuccess => True
  | .recordFailure => True
  | .sleep _ => True
  | _ => False

open Statement (Log)
open Statement.Prog (FollowsIn Possible followsIn_issue)

/-- A write ends with the record written, or as it started, where this holds of one attempt. -/
lemma followsIn_writeWithProtection
    {Q : Log (Ingesting R Payload) PyError → Stmt R Payload → Prop}
    {trying written : Log (Ingesting R Payload) PyError → Prop}
    {topic : String} {fn : Ingesting.Prog R Payload Unit} (hQ : ∀ l c, Overhead c → Q l c)
    (htrying : ∀ l e, Overhead e.stmt → trying l → trying (l ++ [e]))
    (hwritten : ∀ l r, written l → written (l ++ [⟨.recordSuccess, r⟩]))
    (hfn : ∀ l, trying l → FollowsIn (Possible World.exec) Q (WriteEnds trying written) fn l)
    {l : Log (Ingesting R Payload) PyError} (hl : trying l) :
    FollowsIn (Possible World.exec) Q (WriteEnds trying written)
      (writeWithProtection cfg topic fn) l := by
  refine (protection cfg).followsIn_write _ (fun l hl => ?_) (fun delay l hl => ?_)
    (fun l hl => ?_) (fun l hl => ?_) hfn hl
  · exact followsIn_issue (hQ l .allow trivial) fun r _ =>
      htrying l ⟨.allow, r⟩ trivial hl
  · exact followsIn_issue (hQ l (.sleep delay) trivial) fun r _ =>
      htrying l ⟨.sleep delay, r⟩ trivial hl
  · exact followsIn_issue (hQ l .recordFailure trivial) fun r _ =>
      htrying l ⟨.recordFailure, r⟩ trivial hl
  · refine followsIn_issue (S := Ingesting R Payload) (c := .recordSuccess)
      (hQ l .recordSuccess trivial) fun r hr => ?_
    -- the breaker always takes the result
    obtain ⟨w, rfl⟩ := hr
    exact hwritten _ _ hl

end Sink

end Ingestion

end InduSense
