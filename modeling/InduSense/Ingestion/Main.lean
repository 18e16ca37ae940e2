import InduSense.Ingestion.Sink

/-!
Ingestion: `services/ingestion/main.py`.

* `processMessage`: what is done with one message, by its topic.
* `worker`: the loop of a worker thread.
-/

namespace InduSense

namespace Ingestion

open Statement.Prog (attempt)
open Ingesting (issue)

variable {R Payload : Type}

/-- How the payloads of messages are read and printed. -/
structure Codecs (R Payload : Type) where
  /-- `TelemetryEvent.model_validate_json(job.payload)`. -/
  telemetry : Payload → Except PyError (TelemetryEvent R)
  /-- `MachineEvent.model_validate_json(job.payload)`. -/
  machineEvent : Payload → Except PyError MachineEvent
  /-- `job.payload.decode("utf-8", errors="replace")`. -/
  text : Payload → String

variable (py : PyText R) (codecs : Codecs R Payload) (cfg : Config)

/-- The end of a message that is malformed or invalid: it is acknowledged once it is
dead-lettered. -/
def rejectMessage (job : InboundMessage Payload) (exc : PyError) (correlationId : String) :
    Ingesting.Prog R Payload Unit := do
  match ← attempt (deadLetterValidationFailure cfg (codecs.text job.payload) exc correlationId
      job.topic) with
  | .error _ => return ()
  | .ok () => issue (.ack job.receipt)

/-- The end of a message that is published: it is acknowledged unless the publication fails with a
`KafkaPublishError`; any other exception goes through. -/
def finishMessage (job : InboundMessage Payload) (published : Ingesting.Prog R Payload Unit) :
    Ingesting.Prog R Payload Unit := do
  match ← attempt published with
  | .error exc =>
      if exc.kind = .kafkaPublishError then return () else Statement.Prog.raise exc
  | .ok () => issue (.ack job.receipt)

/-- What is published of a telemetry event. -/
def normalizedTelemetry (raw : TelemetryEvent R) (now : Time) : NormalizedTelemetryEvent R :=
  { raw with correlationId := raw.eventId, ingestedAt := utcDatetime now }

/-- What is published of a machine event. -/
def normalizedMachineEvent (raw : MachineEvent) (correlationId : String) (now : Time) :
    NormalizedMachineEvent :=
  { raw with correlationId, ingestedAt := utcDatetime now }

/-- `_handle_telemetry`. -/
def handleTelemetry (job : InboundMessage Payload) : Ingesting.Prog R Payload Unit :=
  match codecs.telemetry job.payload with
  | .error exc => do
      let correlationId ← issue .uuid4
      rejectMessage codecs cfg job exc correlationId
  | .ok raw =>
      match validateTelemetry py raw with
      | .error exc =>
          if exc.kind = .valueError then rejectMessage codecs cfg job exc raw.eventId
          else Statement.Prog.raise exc
      | .ok () => do
          let now ← issue .utcNow
          finishMessage job (publishTelemetry cfg job.receipt raw.deviceId
            (normalizedTelemetry raw now) (codecs.text job.payload) job.topic)

/-- `_handle_machine_event`. -/
def handleMachineEvent (job : InboundMessage Payload) : Ingesting.Prog R Payload Unit :=
  match codecs.machineEvent job.payload with
  | .error exc => do
      let correlationId ← issue .uuid4
      rejectMessage codecs cfg job exc correlationId
  | .ok raw => do
      let correlationId ← issue .uuid4
      match validateMachineEvent py raw with
      | .error exc =>
          if exc.kind = .valueError then rejectMessage codecs cfg job exc correlationId
          else Statement.Prog.raise exc
      | .ok () => do
          let now ← issue .utcNow
          finishMessage job (publishMachineEvent cfg raw.deviceId
            (normalizedMachineEvent raw correlationId now) (codecs.text job.payload) job.topic)

/-- `_process_message`. -/
def processMessage (job : InboundMessage Payload) : Ingesting.Prog R Payload Unit :=
  if endsWith job.topic "/telemetry" then handleTelemetry py codecs cfg job
  else if endsWith job.topic "/status" then handleMachineEvent py codecs cfg job
  else if endsWith job.topic "/events" then handleMachineEvent py codecs cfg job
  else issue (.ack job.receipt)

/-- The second loop of `_worker`, which empties the queue, up to a number of rounds. -/
def drain : ℕ → Ingesting.Prog R Payload Unit
  | 0 => return ()
  | n + 1 => do
      match ← issue .jobsGet with
      | none => return ()
      | some job => do
          processMessage py codecs cfg job
          drain n

/-- `_worker`, up to a number of rounds of its loops. -/
def worker : ℕ → Ingesting.Prog R Payload Unit
  | 0 => return ()
  | n + 1 => do
      if ← issue .shutdownIsSet then drain py codecs cfg n
      else
        match ← issue .jobsGet with
        | none => worker n
        | some job => do
            processMessage py codecs cfg job
            worker n

end Ingestion

end InduSense
