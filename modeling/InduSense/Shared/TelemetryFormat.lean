import InduSense.Shared.WireFormat

/-!
The JSON of telemetry and of machine statuses: `TelemetryEvent`, `NormalizedTelemetryEvent` and
`MachineStatusEvent` of `shared/events.py`.

* `TelemetryEvent.modelDumpJson`, `modelValidateJson`, and those of the normalized event.
* `MachineStatusEvent.modelValidateJson_modelDumpJson`: a status reads as a `MachineEvent`.
* `TelemetryEvent.modelValidateJson_modelDumpJson`,
  `NormalizedTelemetryEvent.modelValidateJson_modelDumpJson`: a model reads back what it wrote.
-/

namespace InduSense

/-- A `float`, with what pydantic makes of a value that is no number. -/
def readFloat (coerceFloat : JsonValue → Except (String × String) ℚ) (name : String) :
    JsonValue → Validated ℚ
  | .float x => .ok x
  | .int n => .ok n
  | v => (coerceFloat v).mapError fun (type, msg) => [⟨type, name, msg⟩]

namespace TelemetryEvent

variable (ser : Serializers) (coerceFloat : JsonValue → Except (String × String) ℚ)

/-- The fields of a `TelemetryEvent`, as `model_dump_json` writes them. -/
def items (evt : TelemetryEvent ℚ) : List (Σ _ : String, JsonValue) :=
  [⟨"event_id", .str evt.eventId⟩, ⟨"organization_id", .str evt.organizationId⟩,
    ⟨"factory_id", .str evt.factoryId⟩, ⟨"production_line_id", .str evt.productionLineId⟩,
    ⟨"machine_id", .str evt.machineId⟩, ⟨"device_id", .str evt.deviceId⟩,
    ⟨"sensor_id", .str evt.sensorId⟩,
    ⟨"timestamp", (evt.timestamp.map fun t => .str (ser.isoformat t)).getD .null⟩,
    ⟨"sequence_number", .int evt.sequenceNumber⟩, ⟨"metric", .str evt.metric⟩,
    ⟨"value", .float evt.value⟩, ⟨"unit", .str evt.unit⟩]

lemma keys_items (evt : TelemetryEvent ℚ) : (evt.items ser).keys =
    ["event_id", "organization_id", "factory_id", "production_line_id", "machine_id", "device_id",
      "sensor_id", "timestamp", "sequence_number", "metric", "value", "unit"] := rfl

/-- The dict `TelemetryEvent.model_dump_json` writes. -/
def modelDump (evt : TelemetryEvent ℚ) : Dict :=
  ⟨evt.items ser, by rw [List.NodupKeys, keys_items]; decide⟩

/-- `TelemetryEvent.model_dump_json`. -/
def modelDumpJson (evt : TelemetryEvent ℚ) : String := ser.dumps (evt.modelDump ser)

/-- The validation of a dict as a `TelemetryEvent`: other keys are ignored. -/
def validate (d : Dict) : Validated (TelemetryEvent ℚ) :=
  Validated.ap (Validated.ap (Validated.ap (Validated.ap (Validated.ap (Validated.ap (Validated.ap
    (Validated.ap (Validated.ap (Validated.ap (Validated.ap (Validated.ap (.ok TelemetryEvent.mk)
    (textOf d "event_id")) (textOf d "organization_id")) (textOf d "factory_id"))
    (textOf d "production_line_id")) (textOf d "machine_id")) (textOf d "device_id"))
    (textOf d "sensor_id")) (withDefault d "timestamp" none (readTimestamp ser "timestamp")))
    (withDefault d "sequence_number" 0 (readInt ser "sequence_number"))) (textOf d "metric"))
    (withDefault d "value" 0 (readFloat coerceFloat "value"))) (textOf d "unit")

/-- `TelemetryEvent.model_validate_json`. -/
def modelValidateJson (text : String) : Validated (TelemetryEvent ℚ) := do
  let d ← ser.loads text
  validate ser coerceFloat d

/-- The times of an event. -/
def times (evt : TelemetryEvent ℚ) : List Datetime := evt.timestamp.toList

end TelemetryEvent

namespace NormalizedTelemetryEvent

variable (ser : Serializers) (coerceFloat : JsonValue → Except (String × String) ℚ)

/-- The fields of a `NormalizedTelemetryEvent`, as `model_dump_json` writes them. -/
def items (evt : NormalizedTelemetryEvent ℚ) : List (Σ _ : String, JsonValue) :=
  evt.toTelemetryEvent.items ser ++ [⟨"correlation_id", .str evt.correlationId⟩,
    ⟨"ingested_at", .str (ser.isoformat evt.ingestedAt)⟩,
    ⟨"schema_version", .int evt.schemaVersion⟩]

lemma keys_items (evt : NormalizedTelemetryEvent ℚ) : (evt.items ser).keys =
    ["event_id", "organization_id", "factory_id", "production_line_id", "machine_id", "device_id",
      "sensor_id", "timestamp", "sequence_number", "metric", "value", "unit", "correlation_id",
      "ingested_at", "schema_version"] := rfl

/-- The dict `NormalizedTelemetryEvent.model_dump_json` writes. -/
def modelDump (evt : NormalizedTelemetryEvent ℚ) : Dict :=
  ⟨evt.items ser, by rw [List.NodupKeys, keys_items]; decide⟩

/-- `NormalizedTelemetryEvent.model_dump_json`. -/
def modelDumpJson (evt : NormalizedTelemetryEvent ℚ) : String := ser.dumps (evt.modelDump ser)

/-- The validation of a dict as a `NormalizedTelemetryEvent`. -/
def validate (d : Dict) : Validated (NormalizedTelemetryEvent ℚ) :=
  Validated.ap (Validated.ap (Validated.ap
    (Validated.ap (.ok NormalizedTelemetryEvent.mk) (TelemetryEvent.validate ser coerceFloat d))
    (required d "correlation_id" (readStr "correlation_id")))
    (required d "ingested_at" (readDatetime ser "ingested_at")))
    (withDefault d "schema_version" InduSense.schemaVersion (readInt ser "schema_version"))

/-- `NormalizedTelemetryEvent.model_validate_json`. -/
def modelValidateJson (text : String) : Validated (NormalizedTelemetryEvent ℚ) := do
  let d ← ser.loads text
  validate ser coerceFloat d

/-- The times of an event. -/
def times (evt : NormalizedTelemetryEvent ℚ) : List Datetime :=
  evt.ingestedAt :: evt.toTelemetryEvent.times

end NormalizedTelemetryEvent

section RoundTrip

variable {ser : Serializers} {coerceFloat : JsonValue → Except (String × String) ℚ}

/-- A dict that starts with the fields of an event is validated as the event. -/
lemma TelemetryEvent.validate_items {evt : TelemetryEvent ℚ}
    (h : ∀ t ∈ evt.times, ser.datetime (.str (ser.isoformat t)) = .ok t) {d : Dict}
    {more : List (Σ _ : String, JsonValue)} (hd : d.entries = evt.items ser ++ more) :
    validate ser coerceFloat d = .ok evt := by
  obtain ⟨entries, hnodup⟩ := d
  dsimp only at hd
  subst hd
  have htimestamp : withDefault (⟨evt.items ser ++ more, hnodup⟩ : Dict) "timestamp" none
      (readTimestamp ser "timestamp") = .ok evt.timestamp := readTimestamp_written h "timestamp"
  rw [validate, htimestamp]
  rfl

/-- **A `TelemetryEvent` reads back as it was written.** -/
lemma TelemetryEvent.modelValidateJson_modelDumpJson (evt : TelemetryEvent ℚ)
    (h : ser.RoundTrips (evt.modelDump ser) evt.times) :
    modelValidateJson ser coerceFloat (evt.modelDumpJson ser) = .ok evt := by
  rw [modelValidateJson, modelDumpJson, h.json]
  exact validate_items h.datetime (List.append_nil _).symm

/-- **A `NormalizedTelemetryEvent` reads back as it was written.** -/
lemma NormalizedTelemetryEvent.modelValidateJson_modelDumpJson (evt : NormalizedTelemetryEvent ℚ)
    (h : ser.RoundTrips (evt.modelDump ser) evt.times) :
    modelValidateJson ser coerceFloat (evt.modelDumpJson ser) = .ok evt := by
  have hbase : TelemetryEvent.validate ser coerceFloat (evt.modelDump ser)
      = .ok evt.toTelemetryEvent :=
    TelemetryEvent.validate_items (fun t ht => h.datetime t (List.mem_cons_of_mem _ ht)) rfl
  have hingested := h.datetime evt.ingestedAt List.mem_cons_self
  rw [modelValidateJson, modelDumpJson, h.json]
  change validate ser coerceFloat (evt.modelDump ser) = _
  have hcorrelation : (evt.modelDump ser).lookup "correlation_id"
      = some (.str evt.correlationId) := rfl
  have hat : (evt.modelDump ser).lookup "ingested_at"
      = some (.str (ser.isoformat evt.ingestedAt)) := rfl
  have hversion : (evt.modelDump ser).lookup "schema_version"
      = some (.int evt.schemaVersion) := rfl
  rw [validate, hbase, required, required, withDefault, hcorrelation, hat, hversion]
  dsimp only
  rw [readDatetime, hingested]
  rfl

end RoundTrip

/-! ### Statuses -/

/-- `MachineStatusEvent`. -/
structure MachineStatusEvent where
  organizationId : String := ""
  factoryId : String := ""
  machineId : String := ""
  status : String := ""
  timestamp : Option Datetime := none
  deriving DecidableEq

namespace MachineStatusEvent

variable (ser : Serializers)

/-- The fields of a `MachineStatusEvent`, as `model_dump_json` writes them. -/
def items (evt : MachineStatusEvent) : List (Σ _ : String, JsonValue) :=
  [⟨"organization_id", .str evt.organizationId⟩, ⟨"factory_id", .str evt.factoryId⟩,
    ⟨"machine_id", .str evt.machineId⟩, ⟨"status", .str evt.status⟩,
    ⟨"timestamp", (evt.timestamp.map fun t => .str (ser.isoformat t)).getD .null⟩]

lemma keys_items (evt : MachineStatusEvent) : (evt.items ser).keys =
    ["organization_id", "factory_id", "machine_id", "status", "timestamp"] := rfl

/-- The dict `MachineStatusEvent.model_dump_json` writes. -/
def modelDump (evt : MachineStatusEvent) : Dict :=
  ⟨evt.items ser, by rw [List.NodupKeys, keys_items]; decide⟩

/-- `MachineStatusEvent.model_dump_json`. -/
def modelDumpJson (evt : MachineStatusEvent) : String := ser.dumps (evt.modelDump ser)

/-- The times of a status. -/
def times (evt : MachineStatusEvent) : List Datetime := evt.timestamp.toList

/-- The machine event with the fields of a status. -/
def machineEvent (evt : MachineStatusEvent) : MachineEvent where
  organizationId := evt.organizationId
  factoryId := evt.factoryId
  machineId := evt.machineId
  status := evt.status
  timestamp := evt.timestamp

variable {ser}

/-- **A status reads as a `MachineEvent`** without the fields it lacks. -/
lemma modelValidateJson_modelDumpJson (evt : MachineStatusEvent)
    (h : ser.RoundTrips (evt.modelDump ser) evt.times) :
    MachineEvent.modelValidateJson ser (evt.modelDumpJson ser) = .ok evt.machineEvent := by
  have hcarries : MachineEvent.Carries ser (evt.modelDump ser) evt.machineEvent :=
    ⟨rfl, rfl, rfl, rfl, rfl, rfl, rfl, readTimestamp_written h.datetime "timestamp"⟩
  rw [MachineEvent.modelValidateJson, modelDumpJson, h.json]
  exact hcarries.validate

end MachineStatusEvent

end InduSense
