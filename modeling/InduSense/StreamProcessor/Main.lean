import InduSense.Statement.ClaimFirst
import InduSense.StreamProcessor.Series

/-!
The stream processor: `services/stream-processor/main.py`, with the requests of `dedup.py`,
`influx.py` and `kafka_io.py`.

* `Stmt`, `World`, `World.exec`: the requests to Redis, InfluxDB and Kafka, the clock, and the
  in-memory series.
* `processMessage`: the message handler.

A write behind a circuit breaker and retries is one request: it succeeds or raises, and when it
raises it may have been carried out.
-/

namespace InduSense

namespace StreamProcessor

open Statement (Signature Exec)
open Statement.Prog (attempt)

variable {R : Type}

/-- `Config`, as far as the handler reads it. -/
structure Config where
  dedupTtlSeconds : ℤ

/-- `load_config` in an empty environment. -/
def Config.default : Config where
  dedupTtlSeconds := 3600

/-! ### Requests -/

/-- The requests the handler makes. -/
inductive Stmt (R : Type) where
  | setNx (key : String) (ex : ℤ)
  | writeRawPoint (key : SeriesKey) («at» : Timestamp) (value : R)
  | recordSample (key : SeriesKey) («at» : Timestamp) (value : R)
  | publishProcessed (key : String) (evt : NormalizedTelemetryEvent R)
  | produceDeadLetter (key : String) (record : DeadLetterRecord)
  | utcNow
  deriving DecidableEq

/-- What each request is answered with. -/
abbrev Stmt.Answer : Stmt R → Type
  | setNx _ _ => Bool
  | writeRawPoint _ _ _ => Unit
  | recordSample _ _ _ => Unit
  | publishProcessed _ _ => Unit
  | produceDeadLetter _ _ => Unit
  | utcNow => Time

/-- The signature of the requests. -/
abbrev Streaming (R : Type) : Signature := ⟨Stmt R, Stmt.Answer⟩

/-- Programs over them. -/
abbrev Streaming.Prog (R α : Type) := Statement.Prog (Streaming R) PyError α

/-- Make one of them. -/
abbrev Streaming.issue (c : Stmt R) : Streaming.Prog R c.Answer :=
  @Statement.Prog.issue (Streaming R) PyError c

/-- The clock, the keys of Redis with their expiry, the series in memory, the points and the
messages written. -/
structure World (R : Type) where
  now : Time
  redis : String → Option Time
  registry : SeriesRegistry R
  rawPoints : List (SeriesKey × Timestamp × R)
  processedTopic : List (String × NormalizedTelemetryEvent R)
  deadLetters : List (String × DeadLetterRecord)

namespace World

/-- A process that has just started, on empty stores. -/
def init (maxWindow : Time) : World R := ⟨0, fun _ => none, ⟨maxWindow, []⟩, [], [], []⟩

/-- The passage of `dt` microseconds. -/
def tick (dt : ℕ) (w : World R) : World R := { w with now := w.now + dt }

/-- A key of Redis exists. -/
def live (w : World R) (key : String) : Bool :=
  match w.redis key with
  | some expiry => decide (w.now < expiry)
  | none => false

/-- `SET key 1 EX ex NX`. -/
def setNx (key : String) (ex : ℤ) (w : World R) : Except PyError Bool × World R :=
  if ex ≤ 0 then (.error ⟨.external, "invalid expire time in 'set' command"⟩, w)
  else if w.live key then (.ok false, w)
  else (.ok true, { w with redis := Function.update w.redis key (some (w.now + seconds ex)) })

/-- What each request does. -/
def exec : Exec (Streaming R) PyError (World R)
  | .setNx key ex, w => w.setNx key ex
  | .writeRawPoint key t value, w =>
      (.ok (), { w with rawPoints := w.rawPoints ++ [(key, t, value)] })
  | .recordSample key t value, w =>
      ((w.registry.record key t value).1,
        { w with registry := (w.registry.record key t value).2 })
  | .publishProcessed key evt, w =>
      (.ok (), { w with processedTopic := w.processedTopic ++ [(key, evt)] })
  | .produceDeadLetter key record, w =>
      (.ok (), { w with deadLetters := w.deadLetters ++ [(key, record)] })
  | .utcNow, w => (.ok w.now, w)

end World

/-! ### The handler -/

section Handler

variable {Payload : Type}

open Streaming (issue)

/-- The key of `Deduplicator.claim`. -/
def dedupKey (eventId : String) : String := "dedup:telemetry:" ++ eventId

/-- `Deduplicator.claim`. -/
def claim (cfg : Config) (eventId : String) : Streaming.Prog R Bool :=
  issue (.setNx (dedupKey eventId) cfg.dedupTtlSeconds)

/-- `KafkaIO.dead_letter`. -/
def deadLetter (rawPayload : String) (cause : PyError) (stage correlationId : String) :
    Streaming.Prog R Unit := do
  let timestamp ← issue .utcNow
  issue (.produceDeadLetter correlationId
    { originalPayload := rawPayload, error := cause.message, errorType := .TRANSIENT_ERROR,
      service := "stream-processor", processingStage := stage, retryCount := 0,
      timestamp, correlationId, sourceTopic := "telemetry.raw" })

/-- What the handler returns when it has to give a message up: whether it could dead-letter it. -/
def deadLetterOrHold (rawPayload : String) (cause : PyError) (stage correlationId : String) :
    Streaming.Prog R Bool := do
  match ← attempt (deadLetter rawPayload cause stage correlationId) with
  | .error _ => return false
  | .ok () => return true

/-- The series of an event. -/
def seriesKey (evt : NormalizedTelemetryEvent R) : SeriesKey where
  factoryId := evt.factoryId
  productionLineId := evt.productionLineId
  machineId := evt.machineId
  deviceId := evt.deviceId
  sensorId := evt.sensorId
  metric := evt.metric

/-- The part of `_process_message` that follows a successful claim. -/
def processClaimed (rawPayload : String) (evt : NormalizedTelemetryEvent R) :
    Streaming.Prog R Bool := do
  match ← attempt (issue (.writeRawPoint (seriesKey evt) evt.timestamp evt.value)) with
  | .error exc => deadLetterOrHold rawPayload exc "influxdb_write" evt.eventId
  | .ok () =>
      issue (.recordSample (seriesKey evt) evt.timestamp evt.value)
      match ← attempt (issue (.publishProcessed evt.deviceId evt)) with
      | .error exc => deadLetterOrHold rawPayload exc "republish_processed" evt.eventId
      | .ok () => return true

/-- `_process_message`. -/
def processMessage (cfg : Config) (codec : Codec Payload (NormalizedTelemetryEvent R))
    (msg : Payload) : Streaming.Prog R Bool :=
  match codec.parse msg with
  | .error exc => deadLetterOrHold (codec.text msg) exc "unmarshal" ""
  | .ok evt => do
      match ← attempt (claim cfg evt.eventId) with
      | .error _ => return false
      | .ok false => return true
      | .ok true => processClaimed (codec.text msg) evt

end Handler

end StreamProcessor

end InduSense
