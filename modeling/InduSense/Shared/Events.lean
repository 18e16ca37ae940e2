import InduSense.Shared.Values

/-!
The wire formats of `shared/events.py`, as the services read and write them.

Readings are of an arbitrary type `R`: a finite Python float is a rational, and most of the
pipeline only passes it on.
-/

namespace InduSense

/-- The severities of the `CHECK` constraints on rules, alerts and incidents. -/
inductive Severity where
  | INFO
  | WARNING
  | HIGH
  | CRITICAL
  deriving DecidableEq

/-- The severity as the text the code interpolates. -/
def Severity.text : Severity → String
  | INFO => "INFO"
  | WARNING => "WARNING"
  | HIGH => "HIGH"
  | CRITICAL => "CRITICAL"

/-- The statuses of the `CHECK` constraint on `alerts`. -/
inductive AlertStatus where
  | OPEN
  | ACKNOWLEDGED
  | SUPPRESSED
  | RESOLVED
  deriving DecidableEq

/-- The status as the column stores it. -/
def AlertStatus.text : AlertStatus → String
  | OPEN => "OPEN"
  | ACKNOWLEDGED => "ACKNOWLEDGED"
  | SUPPRESSED => "SUPPRESSED"
  | RESOLVED => "RESOLVED"

/-- `ALERT_EVENT_*`. -/
inductive AlertEventType where
  | CREATED
  | ESCALATED
  | RESOLVED
  deriving DecidableEq

/-- Ids that the database generates (`gen_random_uuid()`); the model draws them from a
counter. -/
abbrev AlertId := ℕ

/-- See `AlertId`. -/
abbrev IncidentId := ℕ

/-- `TelemetryEvent`. -/
structure TelemetryEvent (R : Type) where
  eventId : String := ""
  organizationId : String := ""
  factoryId : String := ""
  productionLineId : String := ""
  machineId : String := ""
  deviceId : String := ""
  sensorId : String := ""
  timestamp : Option Datetime := none
  sequenceNumber : ℤ := 0
  metric : String := ""
  value : R
  unit : String := ""
  deriving DecidableEq

/-- `SCHEMA_VERSION`. -/
def schemaVersion : ℤ := 1

/-- `NormalizedTelemetryEvent`. -/
structure NormalizedTelemetryEvent (R : Type) extends TelemetryEvent R where
  correlationId : String
  ingestedAt : Datetime
  schemaVersion : ℤ := InduSense.schemaVersion
  deriving DecidableEq

/-- `MachineEvent`. -/
structure MachineEvent where
  organizationId : String := ""
  factoryId : String := ""
  machineId : String := ""
  deviceId : String := ""
  sensorId : String := ""
  status : String := ""
  eventType : String := ""
  timestamp : Option Datetime := none
  deriving DecidableEq

/-- `NormalizedMachineEvent`. -/
structure NormalizedMachineEvent extends MachineEvent where
  correlationId : String
  ingestedAt : Datetime
  schemaVersion : ℤ := InduSense.schemaVersion
  deriving DecidableEq

/-- `ERROR_TYPE_*`. -/
inductive ErrorType where
  | VALIDATION_ERROR
  | TRANSIENT_ERROR
  deriving DecidableEq

/-- `DeadLetterRecord`. -/
structure DeadLetterRecord where
  originalPayload : String
  error : String
  errorType : ErrorType
  service : String
  processingStage : String
  retryCount : ℤ
  timestamp : Time
  correlationId : String
  sourceTopic : String
  deriving DecidableEq

/-- `AnomalyDetected`.  `detected_at` is always written by `utc_now()`. -/
structure AnomalyDetected (R : Type) where
  anomalyId : String
  eventId : String
  organizationId : String
  factoryId : String
  productionLineId : String
  machineId : String
  deviceId : String
  sensorId : String
  metric : String
  value : R
  severity : Severity
  score : R
  methods : List String
  reason : String
  detectedAt : Time
  deriving DecidableEq

/-- `AlertEvent`. -/
structure AlertEvent where
  alertId : Option AlertId
  eventType : AlertEventType
  organizationId : String
  alertRuleId : String := ""
  factoryId : String := ""
  machineId : String := ""
  deviceId : String := ""
  sensorId : String := ""
  severity : Severity
  status : AlertStatus
  title : String
  description : String
  escalationLevel : ℕ
  triggeredAt : Option Time
  timestamp : Time
  deriving DecidableEq

/-- A message as a consumer receives it. `msg.value()` is decoded by a `Codec`. -/
structure Codec (Payload Event : Type) where
  /-- `model_validate_json(msg.value())`. -/
  parse : Payload → Except PyError Event
  /-- `msg.value().decode("utf-8", errors="replace")`. -/
  text : Payload → String

/-- Messages that carry an event as it is, all with one text. -/
def Codec.plain {Event : Type} (text : String) : Codec Event Event := ⟨.ok, fun _ => text⟩

/-- `_null_if_empty`. -/
def nullIfEmpty (s : String) : Option String := if s = "" then none else some s

end InduSense
