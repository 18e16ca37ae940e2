import InduSense.Statement.Consumer
import InduSense.StreamProcessor.SilentLoss
import InduSense.AnomalyDetector.LostAnomaly
import InduSense.AlertService.CrashSafety

/-!
The Kafka consumer loops: `_consume_loop` of the stream processor and of the anomaly detector,
`_consume_anomalies` and `_consume_device_events` of the alert service.

* `StreamProcessor.consumeLoop`, `AnomalyDetector.consumeLoop`, `AlertService.consumeAnomalies`,
  `AlertService.consumeDeviceEvents`: the loops, which differ only in their handlers and in what a
  restart forgets.
* `consumeLoops_noLoss`: none of them loses a message in a run in which no message is polled past a
  held one.
* `held_message_committed`: each of them, over one outage and two messages.

A poll that raises or returns nothing, and the log lines, change nothing.
-/

namespace InduSense

open Statement (Consumer EachStep EachState Env)
open Statement.Consumer (NoLoss NothingHeld start)

/-! ### The loops -/

/-- `_consume_loop` of the stream processor; the series are in memory. -/
def StreamProcessor.consumeLoop {R Payload : Type} (cfg : StreamProcessor.Config)
    (codec : Codec Payload (NormalizedTelemetryEvent R)) :
    Consumer (StreamProcessor.Streaming R) PyError (StreamProcessor.World R) Payload where
  exec := StreamProcessor.World.exec
  program _ msg := StreamProcessor.processMessage cfg codec msg
  restart w := { w with registry := ⟨w.registry.maxWindow, []⟩ }

/-- `_consume_loop` of the anomaly detector; the detectors' state is in memory. -/
def AnomalyDetector.consumeLoop {R Payload : Type} [Field R] [LinearOrder R]
    (math : AnomalyDetector.PyMath R) (cfg : AnomalyDetector.Config R)
    (codec : Codec Payload (NormalizedTelemetryEvent R)) :
    Consumer (AnomalyDetector.Detecting R) PyError (AnomalyDetector.World R) Payload where
  exec := AnomalyDetector.World.exec math
  program _ msg := AnomalyDetector.processMessage math cfg codec msg
  restart w :=
    { w with
      trackers := .init cfg.ewmaAlpha
      features := .init cfg.forestTrainingBufferSize
      forests := fun _ => none }

namespace AlertService

/-- What the loops of the alert service work with: the rules read last, and the world. -/
structure Service where
  rules : RuleCache
  world : World

/-- The statements act on the world. -/
def Service.exec : Statement.Exec Alerting PyError Service := fun c s =>
  ((World.exec c s.world).1, { s with world := (World.exec c s.world).2 })

variable {Payload : Type}

/-- `_consume_anomalies`; the counts are in memory. -/
def consumeAnomalies (cfg : Config) (providers : List NotificationProvider)
    (codec : Codec Payload (AnomalyDetected ℚ)) : Consumer Alerting PyError Service Payload where
  exec := Service.exec
  program s msg := processAnomaly cfg s.rules providers codec msg
  restart s := { s with world := { s.world with counter := .init } }

/-- `_consume_device_events`. -/
def consumeDeviceEvents (cfg : Config) (providers : List NotificationProvider)
    (codec : Codec Payload NormalizedMachineEvent) :
    Consumer Alerting PyError Service Payload where
  exec := Service.exec
  program s msg := processDeviceEvent cfg s.rules providers codec msg
  restart s := { s with world := { s.world with counter := .init } }

end AlertService

/-! ### Runs in which nothing is polled past a held message -/

/-- **When the loops lose no message.** For each loop, in a run in which a message is polled only
when none before it is held, every committed offset is that of a message once reported done. -/
theorem consumeLoops_noLoss {R Reading Detected Observed : Type} [Field R] [LinearOrder R]
    (math : AnomalyDetector.PyMath R) (streaming : StreamProcessor.Config)
    (detecting : AnomalyDetector.Config R) (alerting : AlertService.Config)
    (providers : List NotificationProvider)
    (readings : Codec Reading (NormalizedTelemetryEvent R))
    (anomalies : Codec Detected (AnomalyDetected ℚ))
    (events : Codec Observed NormalizedMachineEvent)
    (raw processed : List Reading) (detected : List Detected) (observed : List Observed) :
    (∀ w sched,
        EachStep ((StreamProcessor.consumeLoop streaming readings).step raw) NothingHeld sched
          (start w) →
        EachState ((StreamProcessor.consumeLoop streaming readings).step raw) NoLoss sched
          (start w))
      ∧ (∀ w sched,
        EachStep ((AnomalyDetector.consumeLoop math detecting readings).step processed) NothingHeld
          sched (start w) →
        EachState ((AnomalyDetector.consumeLoop math detecting readings).step processed) NoLoss
          sched (start w))
      ∧ (∀ s sched,
        EachStep ((AlertService.consumeAnomalies alerting providers anomalies).step detected)
          NothingHeld sched (start s) →
        EachState ((AlertService.consumeAnomalies alerting providers anomalies).step detected)
          NoLoss sched (start s))
      ∧ ∀ s sched,
        EachStep ((AlertService.consumeDeviceEvents alerting providers events).step observed)
          NothingHeld sched (start s) →
        EachState ((AlertService.consumeDeviceEvents alerting providers events).step observed)
          NoLoss sched (start s) := by
  refine ⟨?_, ?_, ?_, ?_⟩
  · intro w sched h
    exact Statement.Consumer.noLoss_of_nothingHeld _ raw w sched h
  · intro w sched h
    exact Statement.Consumer.noLoss_of_nothingHeld _ processed w sched h
  · intro s sched h
    exact Statement.Consumer.noLoss_of_nothingHeld _ detected s sched h
  · intro s sched h
    exact Statement.Consumer.noLoss_of_nothingHeld _ observed s sched h

/-! ### One outage and two messages -/

/-- The environment in which the statements of a kind fail, and all others complete. -/
def outage {S : Statement.Signature} (down : S.Stmt → Bool) : Env S PyError := fun _ c =>
  if down c then .fails ⟨.external, "connection refused"⟩ false else .completes

/-- The environment in which all statements complete. -/
def allUp {S : Statement.Signature} : Env S PyError := fun _ _ => .completes

/-- Redis is down. -/
def redisDown : StreamProcessor.Stmt ℚ → Bool
  | .setNx _ _ => true
  | _ => false

/-- The anomaly detector's Postgres is down. -/
def claimsDown : AnomalyDetector.Stmt ℚ → Bool
  | .insertIdempotencyKey _ _ => true
  | _ => false

/-- Postgres and the dead-letter topic of the alert service are down. -/
def alertingDown : Stmt → Bool
  | .selectLatestAlert _ _ => true
  | .produceDeadLetter _ _ => true
  | _ => false

/-- A poll during an outage, and then a poll without one. -/
def outageOnce {S : Statement.Signature} {σ : Type} (down : S.Stmt → Bool) :
    List (Consumer.Event S PyError σ) :=
  [.poll (outage down) true, .poll allUp true]

/-- The same with a restart in between. -/
def outageRestart {S : Statement.Signature} {σ : Type} (down : S.Stmt → Bool) :
    List (Consumer.Event S PyError σ) :=
  [.poll (outage down) true, .restart, .poll allUp true, .poll allUp true]

/-- The stream processor's loop on readings. -/
def readingsLoop := StreamProcessor.consumeLoop .default
  (.plain "reading" : Codec _ (NormalizedTelemetryEvent ℚ))

/-- Two readings of the pump. -/
def pumpReadings : List (NormalizedTelemetryEvent ℚ) :=
  [StreamProcessor.pumpReading, { StreamProcessor.pumpReading with eventId := "e2" }]

/-- The anomaly detector's loop on readings. -/
def detectionLoop := AnomalyDetector.consumeLoop AnomalyDetector.ratMath .default
  (.plain "reading" : Codec _ (NormalizedTelemetryEvent ℚ))

/-- The alert service's loop on anomalies. -/
def anomaliesLoop := AlertService.consumeAnomalies .default [.console]
  (.plain "anomaly" : Codec _ (AnomalyDetected ℚ))

/-- Two anomalies of the pump. -/
def pumpAnomalies : List (AnomalyDetected ℚ) :=
  [AlertService.hotPump, { AlertService.hotPump with anomalyId := "a2", eventId := "e2" }]

/-- The alert service's loop on device events. -/
def deviceEventsLoop := AlertService.consumeDeviceEvents .default [.console]
  (.plain "event" : Codec _ NormalizedMachineEvent)

/-- Two stops of the pump's machine. -/
def pumpStops : List NormalizedMachineEvent :=
  [AlertService.pumpStopped, { AlertService.pumpStopped with correlationId := "c2" }]

/-- The alert service has just started, with the seeded rules. -/
def freshService : AlertService.Service := ⟨AlertService.seededRules, .empty⟩

/-- With a restart after the outage, no loop loses a message. -/
theorem consumeLoops_noLoss_outageRestart :
    EachState (readingsLoop.step pumpReadings) NoLoss (outageRestart redisDown)
        (start StreamProcessor.fresh)
      ∧ EachState (detectionLoop.step pumpReadings) NoLoss (outageRestart claimsDown)
        (start AnomalyDetector.fresh)
      ∧ EachState (anomaliesLoop.step pumpAnomalies) NoLoss (outageRestart alertingDown)
        (start freshService)
      ∧ EachState (deviceEventsLoop.step pumpStops) NoLoss (outageRestart alertingDown)
        (start freshService) := by
  have noLoss := consumeLoops_noLoss AnomalyDetector.ratMath .default .default .default [.console]
    (.plain "reading") (.plain "anomaly") (.plain "event") pumpReadings pumpReadings pumpAnomalies
    pumpStops
  exact ⟨noLoss.1 _ _ (by decide +kernel), noLoss.2.1 _ _ (by decide +kernel),
    noLoss.2.2.1 _ _ (by decide +kernel), noLoss.2.2.2 _ _ (by decide +kernel)⟩

/-- Two messages are committed, and only the second was ever reported done. -/
abbrev FirstLost {σ : Type} (s : Consumer.State σ) : Prop :=
  s.committed = 2 ∧ s.reported = [1] ∧ ¬ NoLoss s

/-- Without one, each loop commits past the message it has held. -/
theorem held_message_committed :
    FirstLost ((outageOnce redisDown).foldl (readingsLoop.step pumpReadings)
        (start StreamProcessor.fresh))
      ∧ FirstLost ((outageOnce claimsDown).foldl (detectionLoop.step pumpReadings)
        (start AnomalyDetector.fresh))
      ∧ FirstLost ((outageOnce alertingDown).foldl (anomaliesLoop.step pumpAnomalies)
        (start freshService))
      ∧ FirstLost ((outageOnce alertingDown).foldl (deviceEventsLoop.step pumpStops)
        (start freshService)) := by
  decide +kernel

end InduSense
