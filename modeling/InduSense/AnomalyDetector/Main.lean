import InduSense.Statement.ClaimFirst
import InduSense.AnomalyDetector.Features

/-!
The anomaly detector: `services/anomaly-detector/main.py`, with the requests of `idempotency.py`
and `kafka_io.py`.

* `Stmt`, `World`, `World.exec`: the claim in Postgres, the writes to Kafka, the clock, and the
  detectors in memory.
* `processMessage`: the message handler.

The detectors in memory are behind locks, so each use of one is a single step.
-/

namespace InduSense

namespace AnomalyDetector

open Statement (Signature Exec)
open Statement.Prog (attempt)

/-! ### Requests -/

/-- What the handler asks of Postgres, Kafka, the clock and the detectors in memory. -/
inductive Stmt (R : Type) where
  | insertIdempotencyKey (key scope : String)
  | lookup (deviceId : String)
  | featuresFor (machineType : String)
  | updateTracker (deviceId metric : String) (value : R)
  | observe (deviceId machineType metric : String) (value : R) (featureOrder : List String)
  | getForest (machineType : String)
  | uuid4
  | utcNow
  | publishAnomaly (key : String) (evt : AnomalyDetected R)
  | produceDeadLetter (key : String) (record : DeadLetterRecord)

/-- What each request is answered with. -/
abbrev Stmt.Answer {R : Type} : Stmt R → Type
  | insertIdempotencyKey _ _ => Bool
  | lookup _ => Option (DeviceInfo R)
  | featuresFor _ => List String
  | updateTracker _ _ _ => R × ℤ
  | observe _ _ _ _ _ => Option (List R)
  | getForest _ => Option (IsolationForest R)
  | uuid4 => String
  | utcNow => Time
  | publishAnomaly _ _ => Unit
  | produceDeadLetter _ _ => Unit

/-- The signature of the requests. -/
abbrev Detecting (R : Type) : Signature := ⟨Stmt R, Stmt.Answer⟩

/-- Programs over them. -/
abbrev Detecting.Prog (R α : Type) := Statement.Prog (Detecting R) PyError α

/-- Make one of them. -/
abbrev Detecting.issue {R : Type} (c : Stmt R) : Detecting.Prog R c.Answer :=
  @Statement.Prog.issue (Detecting R) PyError c

/-- The clock, the table `idempotency_keys` by scope and key, the memory of the process, the
messages written, and the number of ids drawn. -/
structure World (R : Type) where
  now : Time
  idempotencyKeys : List (String × String)
  catalog : Catalog R
  trackers : StatisticalTrackers R
  features : FeatureStore R
  forests : String → Option (IsolationForest R)
  nextUuid : ℕ
  anomaliesTopic : List (String × AnomalyDetected R)
  deadLetters : List (String × DeadLetterRecord)

variable {R : Type} [Field R] [LinearOrder R]

namespace World

/-- A process that has just started with a catalog, on empty tables and topics. -/
def init (cfg : Config R) (catalog : Catalog R) : World R where
  now := 0
  idempotencyKeys := []
  catalog := catalog
  trackers := .init cfg.ewmaAlpha
  features := .init cfg.forestTrainingBufferSize
  forests := fun _ => none
  nextUuid := 0
  anomaliesTopic := []
  deadLetters := []

omit [Field R] [LinearOrder R] in
/-- The passage of `dt` microseconds. -/
def tick (dt : ℕ) (w : World R) : World R := { w with now := w.now + dt }

/-- What each request does.  `INSERT … ON CONFLICT (scope, key) DO NOTHING RETURNING id` answers
whether a row came back. -/
def exec (math : PyMath R) : Exec (Detecting R) PyError (World R)
  | .insertIdempotencyKey key scope, w =>
      if (scope, key) ∈ w.idempotencyKeys then (.ok false, w)
      else (.ok true, { w with idempotencyKeys := w.idempotencyKeys ++ [(scope, key)] })
  | .lookup deviceId, w => (.ok (w.catalog.lookup deviceId), w)
  | .featuresFor machineType, w => (.ok (w.catalog.featuresFor machineType), w)
  | .updateTracker deviceId metric value, w =>
      ((w.trackers.update math deviceId metric value).1,
        { w with trackers := (w.trackers.update math deviceId metric value).2 })
  | .observe deviceId machineType metric value featureOrder, w =>
      (.ok (w.features.observe deviceId machineType metric value featureOrder).1,
        { w with
          features := (w.features.observe deviceId machineType metric value featureOrder).2 })
  | .getForest machineType, w => (.ok (w.forests machineType), w)
  | .uuid4, w => (.ok (toString w.nextUuid), { w with nextUuid := w.nextUuid + 1 })
  | .utcNow, w => (.ok w.now, w)
  | .publishAnomaly key evt, w =>
      (.ok (), { w with anomaliesTopic := w.anomaliesTopic ++ [(key, evt)] })
  | .produceDeadLetter key record, w =>
      (.ok (), { w with deadLetters := w.deadLetters ++ [(key, record)] })

end World

/-! ### The handler -/

section Handler

variable {Payload : Type} (math : PyMath R) (cfg : Config R)

open Detecting (issue)

/-- `ANOMALY_DEDUP_SCOPE`. -/
def anomalyDedupScope : String := "anomaly_detection"

omit [Field R] [LinearOrder R] in
/-- `claim_telemetry_event_once`. -/
def claimTelemetryEventOnce (eventId : String) : Detecting.Prog R Bool :=
  issue (.insertIdempotencyKey eventId anomalyDedupScope)

omit [Field R] [LinearOrder R] in
/-- The row of an event is there. -/
def claimed (eventId : String) (w : World R) : Bool :=
  decide ((anomalyDedupScope, eventId) ∈ w.idempotencyKeys)

omit [Field R] [LinearOrder R] in
/-- `KafkaIO.dead_letter`. -/
def deadLetter (rawPayload : String) (cause : PyError) (stage correlationId : String) :
    Detecting.Prog R Unit := do
  let timestamp ← issue .utcNow
  issue (.produceDeadLetter correlationId
    { originalPayload := rawPayload, error := cause.message, errorType := .TRANSIENT_ERROR,
      service := "anomaly-detector", processingStage := stage, retryCount := 0,
      timestamp, correlationId, sourceTopic := "telemetry.processed" })

omit [Field R] [LinearOrder R] in
/-- What the handler returns when it has to give a message up: whether it could dead-letter it. -/
def deadLetterOrHold (rawPayload : String) (cause : PyError) (stage correlationId : String) :
    Detecting.Prog R Bool := do
  match ← attempt (deadLetter rawPayload cause stage correlationId) with
  | .error _ => return false
  | .ok () => return true

/-- The exceptions of pure code. -/
def ofExcept {α : Type} : Except PyError α → Detecting.Prog R α
  | .ok a => return a
  | .error e => Statement.Prog.raise e

/-- The forest's score of a reading, if its device is known, its vector complete and its machine
type has a forest. -/
def forestScore (evt : NormalizedTelemetryEvent R) (info : Option (DeviceInfo R))
    (featureOrder : List String) : Detecting.Prog R (Option R) :=
  match info with
  | none => return none
  | some info => do
      match ← issue (.observe evt.deviceId info.machineType evt.metric evt.value featureOrder) with
      | none => return none
      | some vector =>
          match ← issue (.getForest info.machineType) with
          | none => return none
          | some forest => return some (← ofExcept (forest.score math vector))

/-- The feature order the handler uses for a device. -/
def featureOrderOf (info : Option (DeviceInfo R)) : Detecting.Prog R (List String) :=
  match info with
  | none => return []
  | some info => issue (.featuresFor info.machineType)

/-- The detection part of `_process_message`. -/
def detect (evt : NormalizedTelemetryEvent R) : Detecting.Prog R (List (Detection R)) := do
  let info ← issue (.lookup evt.deviceId)
  let featureOrder ← featureOrderOf info
  let (zScore, sampleCount) ← issue (.updateTracker evt.deviceId evt.metric evt.value)
  let score ← forestScore math evt info featureOrder
  ofExcept (runDetectors math cfg evt.value (info.bind fun i => i.ranges evt.metric) zScore
    sampleCount score)

/-- The record of the detections on an event. -/
def anomalyOf (evt : NormalizedTelemetryEvent R) (results : List (Detection R))
    (anomalyId : String) (detectedAt : Time) : AnomalyDetected R :=
  let (severity, score, methods, reason) := combineDetections results
  { anomalyId, eventId := evt.eventId, organizationId := evt.organizationId,
    factoryId := evt.factoryId, productionLineId := evt.productionLineId,
    machineId := evt.machineId, deviceId := evt.deviceId, sensorId := evt.sensorId,
    metric := evt.metric, value := evt.value, severity, score, methods, reason, detectedAt }

/-- The last part of `_process_message`: publish the anomaly, or give the message up. -/
def report (rawPayload : String) (evt : NormalizedTelemetryEvent R)
    (results : List (Detection R)) : Detecting.Prog R Bool := do
  let anomalyId ← issue .uuid4
  let detectedAt ← issue .utcNow
  match ← attempt (issue
      (.publishAnomaly evt.deviceId (anomalyOf evt results anomalyId detectedAt))) with
  | .error exc => deadLetterOrHold rawPayload exc "publish_anomaly" evt.eventId
  | .ok () => return true

/-- The part of `_process_message` that follows a successful claim. -/
def processClaimed (rawPayload : String) (evt : NormalizedTelemetryEvent R) :
    Detecting.Prog R Bool := do
  let results ← detect math cfg evt
  if results = [] then return true else report rawPayload evt results

/-- `_process_message`. -/
def processMessage (codec : Codec Payload (NormalizedTelemetryEvent R)) (msg : Payload) :
    Detecting.Prog R Bool :=
  match codec.parse msg with
  | .error exc => deadLetterOrHold (codec.text msg) exc "unmarshal" ""
  | .ok evt => do
      match ← attempt (claimTelemetryEventOnce evt.eventId) with
      | .error _ => return false
      | .ok false => return true
      | .ok true => processClaimed math cfg (codec.text msg) evt

end Handler

end AnomalyDetector

end InduSense
