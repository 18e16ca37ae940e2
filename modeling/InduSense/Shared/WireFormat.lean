import Mathlib.Data.List.AList
import InduSense.Shared.Events

/-!
The JSON of machine events: `MachineEvent.model_dump_json` of `shared/events.py`, which drops empty
fields, and the `model_validate_json` of both models.

* `JsonValue`, `Dict`: a dict of JSON values, in the order of its keys.
* `Serializers`: what `json`, the `datetime` serializer and the validators of pydantic answer;
  `Serializers.RoundTrips`: they read back what they wrote.
* `dropEmpty`, `truthy_of_lookup_dropEmpty`: what is left of the optional fields is not empty;
  `textOf_dropEmpty`: a field that reads as a text reads as the same text when it is
  dropped for being empty.
* `MachineEvent.Carries`: a dict has the fields of an event.
* `machineEvent_round_trip`: both models read back what they wrote, and the base model reads the
  base fields.
-/

namespace InduSense

/-- A JSON value. -/
inductive JsonValue where
  | null
  | bool (b : Bool)
  | int (n : ℤ)
  | float (x : ℚ)
  | str (s : String)
  | array (items : List JsonValue)
  | object (items : List (String × JsonValue))

/-- `bool(v)`. -/
def JsonValue.truthy : JsonValue → Bool
  | null => false
  | bool b => b
  | int n => n ≠ 0
  | float x => x ≠ 0
  | str s => s ≠ ""
  | array items => !items.isEmpty
  | object items => !items.isEmpty

/-- A dict with text keys, in the order of their insertion. -/
abbrev Dict := AList fun _ : String => JsonValue

/-- One of the errors of a `ValidationError`: its type, the field and the message. -/
structure ErrorDetails where
  type : String
  loc : String
  msg : String
  deriving DecidableEq

/-- What the libraries answer: `json.dumps` with compact separators, the object a JSON text parses
to, a `datetime` as `model_dump(mode="json")` writes it, and the validation of a `datetime`, and of
an `int` given by something else than an integer, which fail with a type and a message. -/
structure Serializers where
  dumps : Dict → String
  loads : String → Except (List ErrorDetails) Dict
  isoformat : Datetime → String
  datetime : JsonValue → Except (String × String) Datetime
  coerceInt : JsonValue → Except (String × String) ℤ

/-- The serializers read back the dict and the times they wrote. -/
structure Serializers.RoundTrips (ser : Serializers) (d : Dict) (times : List Datetime) :
    Prop where
  json : ser.loads (ser.dumps d) = .ok d
  datetime : ∀ t ∈ times, ser.datetime (.str (ser.isoformat t)) = .ok t

/-! ### Validation -/

/-- A value, or all that is wrong with it. -/
abbrev Validated (α : Type) := Except (List ErrorDetails) α

/-- Two validations, with the errors of both. -/
def Validated.ap {α β : Type} (f : Validated (α → β)) (x : Validated α) : Validated β :=
  match f, x with
  | .ok f, .ok a => .ok (f a)
  | .ok _, .error errors => .error errors
  | .error errors, .ok _ => .error errors
  | .error errors, .error more => .error (errors ++ more)

section Fields

variable {α : Type} (ser : Serializers) (d : Dict) (name : String)

/-- A `str`. -/
def readStr : JsonValue → Validated String
  | .str s => .ok s
  | _ => .error [⟨"string_type", name, "Input should be a valid string"⟩]

/-- A `datetime`. -/
def readDatetime (v : JsonValue) : Validated Datetime :=
  (ser.datetime v).mapError fun (type, msg) => [⟨type, name, msg⟩]

/-- A `datetime | None`. -/
def readTimestamp : JsonValue → Validated (Option Datetime)
  | .null => .ok none
  | v => (readDatetime ser name v).map some

/-- An `int`. -/
def readInt : JsonValue → Validated ℤ
  | .int n => .ok n
  | v => (ser.coerceInt v).mapError fun (type, msg) => [⟨type, name, msg⟩]

/-- A field with a default. -/
def withDefault (default : α) (read : JsonValue → Validated α) : Validated α :=
  match d.lookup name with
  | none => .ok default
  | some v => read v

/-- A field without one. -/
def required (read : JsonValue → Validated α) : Validated α :=
  match d.lookup name with
  | none => .error [⟨"missing", name, "Field required"⟩]
  | some v => read v

/-- A `str = ""`. -/
def textOf : Validated String := withDefault d name "" (readStr name)

end Fields

/-! ### Dropped fields -/

/-- `if not d.get(key): d.pop(key, None)`. -/
def dropIfEmpty (d : Dict) (key : String) : Dict :=
  if (d.lookup key).any JsonValue.truthy then d else d.erase key

/-- The fields `model_dump_json` drops when they are empty. -/
def optionalFields : List String := ["device_id", "sensor_id", "status", "event_type"]

/-- The loop of `model_dump_json`. -/
def dropEmpty (d : Dict) : Dict := optionalFields.foldl dropIfEmpty d

lemma lookup_dropIfEmpty_of_ne (d : Dict) {key name : String} (h : name ≠ key) :
    (dropIfEmpty d key).lookup name = d.lookup name := by
  rw [dropIfEmpty]
  split
  · rfl
  · exact AList.lookup_erase_ne h

lemma lookup_foldl_dropIfEmpty (d : Dict) {fields : List String} {name : String}
    (h : name ∉ fields) : (fields.foldl dropIfEmpty d).lookup name = d.lookup name := by
  induction fields generalizing d with
  | nil => rfl
  | cons key fields ih =>
      rw [List.mem_cons, not_or] at h
      rw [List.foldl_cons, ih _ h.2, lookup_dropIfEmpty_of_ne d h.1]

/-- The other fields stay. -/
lemma lookup_dropEmpty_of_notMem (d : Dict) {name : String} (h : name ∉ optionalFields) :
    (dropEmpty d).lookup name = d.lookup name :=
  lookup_foldl_dropIfEmpty d h

/-- An optional field that is left is not empty. -/
lemma truthy_of_lookup_dropEmpty {d : Dict} {name : String} (hname : name ∈ optionalFields)
    {v : JsonValue} (h : (dropEmpty d).lookup name = some v) : v.truthy = true := by
  rw [dropEmpty] at h
  generalize optionalFields = fields at hname h
  induction fields generalizing d with
  | nil => cases hname
  | cons key fields ih =>
      rw [List.foldl_cons] at h
      by_cases hrest : name ∈ fields
      · exact ih hrest h
      · rw [lookup_foldl_dropIfEmpty _ hrest] at h
        rcases List.mem_cons.mp hname with rfl | hmem
        · rw [dropIfEmpty] at h
          split at h
          · rename_i hany
            simpa [h] using hany
          · rw [AList.lookup_erase] at h
            cases h
        · exact absurd hmem hrest

/-- What is dropped reads as the default: the only falsy text is the empty one. -/
lemma textOf_dropIfEmpty {d : Dict} {name s : String} (h : textOf d name = .ok s)
    (key : String) : textOf (dropIfEmpty d key) name = .ok s := by
  by_cases hkey : name = key
  · subst hkey
    rw [dropIfEmpty]
    split
    · exact h
    · rename_i hfalsy
      rw [textOf, withDefault, AList.lookup_erase]
      rw [textOf, withDefault] at h
      cases hv : d.lookup name with
      | none => rwa [hv] at h
      | some v =>
          rw [hv] at h hfalsy
          cases v with
          | str t =>
              have hempty : t = "" := by simpa [JsonValue.truthy] using hfalsy
              have hs : t = s := Except.ok.inj h
              rw [← hs, hempty]
          | _ => cases h
  · rwa [textOf, withDefault, lookup_dropIfEmpty_of_ne d hkey]

lemma textOf_dropEmpty {d : Dict} {name s : String} (h : textOf d name = .ok s) :
    textOf (dropEmpty d) name = .ok s := by
  rw [dropEmpty]
  generalize optionalFields = fields
  induction fields generalizing d with
  | nil => exact h
  | cons key fields ih => exact ih (textOf_dropIfEmpty h key)

/-! ### The models -/

namespace MachineEvent

variable (ser : Serializers)

/-- The fields of a `MachineEvent`, as `model_dump(mode="json")` writes them. -/
def items (evt : MachineEvent) : List (Σ _ : String, JsonValue) :=
  [⟨"organization_id", .str evt.organizationId⟩, ⟨"factory_id", .str evt.factoryId⟩,
    ⟨"machine_id", .str evt.machineId⟩, ⟨"device_id", .str evt.deviceId⟩,
    ⟨"sensor_id", .str evt.sensorId⟩, ⟨"status", .str evt.status⟩,
    ⟨"event_type", .str evt.eventType⟩,
    ⟨"timestamp", (evt.timestamp.map fun t => .str (ser.isoformat t)).getD .null⟩]

lemma keys_items (evt : MachineEvent) : (evt.items ser).keys =
    ["organization_id", "factory_id", "machine_id", "device_id", "sensor_id", "status",
      "event_type", "timestamp"] := rfl

/-- `MachineEvent.model_dump(mode="json")`. -/
def modelDump (evt : MachineEvent) : Dict :=
  ⟨evt.items ser, by rw [List.NodupKeys, keys_items]; decide⟩

/-- `MachineEvent.model_dump_json`. -/
def modelDumpJson (evt : MachineEvent) : String := ser.dumps (dropEmpty (evt.modelDump ser))

/-- The validation of a dict as a `MachineEvent`: other keys are ignored. -/
def validate (d : Dict) : Validated MachineEvent :=
  Validated.ap (Validated.ap (Validated.ap (Validated.ap (Validated.ap (Validated.ap (Validated.ap
    (Validated.ap (.ok MachineEvent.mk) (textOf d "organization_id")) (textOf d "factory_id"))
    (textOf d "machine_id")) (textOf d "device_id")) (textOf d "sensor_id")) (textOf d "status"))
    (textOf d "event_type")) (withDefault d "timestamp" none (readTimestamp ser "timestamp"))

/-- `MachineEvent.model_validate_json`. -/
def modelValidateJson (text : String) : Validated MachineEvent := do
  let d ← ser.loads text
  validate ser d

/-- The times of an event. -/
def times (evt : MachineEvent) : List Datetime := evt.timestamp.toList

end MachineEvent

namespace NormalizedMachineEvent

variable (ser : Serializers)

/-- The fields of a `NormalizedMachineEvent`, as `model_dump(mode="json")` writes them. -/
def items (evt : NormalizedMachineEvent) : List (Σ _ : String, JsonValue) :=
  evt.toMachineEvent.items ser ++ [⟨"correlation_id", .str evt.correlationId⟩,
    ⟨"ingested_at", .str (ser.isoformat evt.ingestedAt)⟩,
    ⟨"schema_version", .int evt.schemaVersion⟩]

lemma keys_items (evt : NormalizedMachineEvent) : (evt.items ser).keys =
    ["organization_id", "factory_id", "machine_id", "device_id", "sensor_id", "status",
      "event_type", "timestamp", "correlation_id", "ingested_at", "schema_version"] := rfl

/-- `NormalizedMachineEvent.model_dump(mode="json")`. -/
def modelDump (evt : NormalizedMachineEvent) : Dict :=
  ⟨evt.items ser, by rw [List.NodupKeys, keys_items]; decide⟩

/-- `NormalizedMachineEvent.model_dump_json`, which is inherited. -/
def modelDumpJson (evt : NormalizedMachineEvent) : String :=
  ser.dumps (dropEmpty (evt.modelDump ser))

/-- The validation of a dict as a `NormalizedMachineEvent`. -/
def validate (d : Dict) : Validated NormalizedMachineEvent :=
  Validated.ap (Validated.ap (Validated.ap
    (Validated.ap (.ok NormalizedMachineEvent.mk) (MachineEvent.validate ser d))
    (required d "correlation_id" (readStr "correlation_id")))
    (required d "ingested_at" (readDatetime ser "ingested_at")))
    (withDefault d "schema_version" InduSense.schemaVersion (readInt ser "schema_version"))

/-- `NormalizedMachineEvent.model_validate_json`. -/
def modelValidateJson (text : String) : Validated NormalizedMachineEvent := do
  let d ← ser.loads text
  validate ser d

/-- The times of an event. -/
def times (evt : NormalizedMachineEvent) : List Datetime :=
  evt.ingestedAt :: evt.toMachineEvent.times

end NormalizedMachineEvent

/-! ### The round trip -/

section RoundTrip

variable {ser : Serializers}

/-- A dict has the fields of an event. -/
structure MachineEvent.Carries (ser : Serializers) (d : Dict) (evt : MachineEvent) : Prop where
  organizationId : textOf d "organization_id" = .ok evt.organizationId
  factoryId : textOf d "factory_id" = .ok evt.factoryId
  machineId : textOf d "machine_id" = .ok evt.machineId
  deviceId : textOf d "device_id" = .ok evt.deviceId
  sensorId : textOf d "sensor_id" = .ok evt.sensorId
  status : textOf d "status" = .ok evt.status
  eventType : textOf d "event_type" = .ok evt.eventType
  timestamp : withDefault d "timestamp" none (readTimestamp ser "timestamp") = .ok evt.timestamp

lemma MachineEvent.Carries.validate {d : Dict} {evt : MachineEvent} (h : Carries ser d evt) :
    validate ser d = .ok evt := by
  rw [MachineEvent.validate, h.organizationId, h.factoryId, h.machineId, h.deviceId, h.sensorId,
    h.status, h.eventType, h.timestamp]
  rfl

/-- It still has them when the empty ones are dropped. -/
lemma MachineEvent.Carries.dropEmpty {d : Dict} {evt : MachineEvent} (h : Carries ser d evt) :
    Carries ser (dropEmpty d) evt where
  organizationId := textOf_dropEmpty h.organizationId
  factoryId := textOf_dropEmpty h.factoryId
  machineId := textOf_dropEmpty h.machineId
  deviceId := textOf_dropEmpty h.deviceId
  sensorId := textOf_dropEmpty h.sensorId
  status := textOf_dropEmpty h.status
  eventType := textOf_dropEmpty h.eventType
  timestamp := by
    rw [withDefault, lookup_dropEmpty_of_notMem d (by decide)]
    exact h.timestamp

/-- A time that is read back is read back as a timestamp. -/
lemma readTimestamp_written {timestamp : Option Datetime}
    (h : ∀ t ∈ timestamp.toList, ser.datetime (.str (ser.isoformat t)) = .ok t) (name : String) :
    readTimestamp ser name ((timestamp.map fun t => .str (ser.isoformat t)).getD .null)
      = .ok timestamp := by
  cases timestamp with
  | none => rfl
  | some t =>
      have ht := h t (List.mem_singleton_self t)
      show (readDatetime ser name (.str (ser.isoformat t))).map some = _
      rw [readDatetime, ht]
      rfl

/-- The dump of an event has its fields, whatever follows them. -/
lemma MachineEvent.carries_items {evt : MachineEvent}
    (h : ∀ t ∈ evt.times, ser.datetime (.str (ser.isoformat t)) = .ok t) {d : Dict}
    {more : List (Σ _ : String, JsonValue)} (hd : d.entries = evt.items ser ++ more) :
    Carries ser d evt := by
  obtain ⟨entries, hnodup⟩ := d
  dsimp only at hd
  subst hd
  exact ⟨rfl, rfl, rfl, rfl, rfl, rfl, rfl, readTimestamp_written h "timestamp"⟩

/-- What a normalized event dumps to is validated as the event. -/
lemma NormalizedMachineEvent.validate_modelDump {evt : NormalizedMachineEvent}
    (h : ∀ t ∈ evt.times, ser.datetime (.str (ser.isoformat t)) = .ok t) :
    validate ser (dropEmpty (evt.modelDump ser)) = .ok evt := by
  have hbase : MachineEvent.validate ser (dropEmpty (evt.modelDump ser))
      = .ok evt.toMachineEvent :=
    (MachineEvent.carries_items (fun t ht => h t (List.mem_cons_of_mem _ ht))
      rfl).dropEmpty.validate
  have hingested := h evt.ingestedAt List.mem_cons_self
  rw [validate, hbase, required, required, withDefault,
    lookup_dropEmpty_of_notMem _ (by decide), lookup_dropEmpty_of_notMem _ (by decide),
    lookup_dropEmpty_of_notMem _ (by decide)]
  have hcorrelation : (evt.modelDump ser).lookup "correlation_id"
      = some (.str evt.correlationId) := rfl
  have hat : (evt.modelDump ser).lookup "ingested_at"
      = some (.str (ser.isoformat evt.ingestedAt)) := rfl
  have hversion : (evt.modelDump ser).lookup "schema_version"
      = some (.int evt.schemaVersion) := rfl
  rw [hcorrelation, hat, hversion]
  dsimp only
  rw [readDatetime, hingested]
  rfl

lemma MachineEvent.modelValidateJson_modelDumpJson (evt : MachineEvent)
    (h : ser.RoundTrips (dropEmpty (evt.modelDump ser)) evt.times) :
    modelValidateJson ser (evt.modelDumpJson ser) = .ok evt := by
  rw [modelValidateJson, modelDumpJson, h.json]
  exact (carries_items h.datetime (List.append_nil _).symm).dropEmpty.validate

lemma NormalizedMachineEvent.modelValidateJson_modelDumpJson (evt : NormalizedMachineEvent)
    (h : ser.RoundTrips (dropEmpty (evt.modelDump ser)) evt.times) :
    modelValidateJson ser (evt.modelDumpJson ser) = .ok evt := by
  rw [modelValidateJson, modelDumpJson, h.json]
  exact validate_modelDump h.datetime

/-- The base model reads the base fields. -/
lemma NormalizedMachineEvent.base_modelValidateJson_modelDumpJson (evt : NormalizedMachineEvent)
    (h : ser.RoundTrips (dropEmpty (evt.modelDump ser)) evt.times) :
    MachineEvent.modelValidateJson ser (evt.modelDumpJson ser) = .ok evt.toMachineEvent := by
  rw [MachineEvent.modelValidateJson, modelDumpJson, h.json]
  exact (MachineEvent.carries_items (fun t ht => h.datetime t (List.mem_cons_of_mem _ ht))
    rfl).dropEmpty.validate

/-- The codec of messages that carry a normalized event, with the exception a failed validation
raises. -/
def NormalizedMachineEvent.codec (ser : Serializers)
    (exception : List ErrorDetails → PyError) : Codec String NormalizedMachineEvent where
  parse text := (modelValidateJson ser text).mapError exception
  text text := text

/-- A consumer reads the event that was published. -/
lemma NormalizedMachineEvent.codec_parse (evt : NormalizedMachineEvent)
    (h : ser.RoundTrips (dropEmpty (evt.modelDump ser)) evt.times)
    (exception : List ErrorDetails → PyError) :
    (codec ser exception).parse (evt.modelDumpJson ser) = .ok evt := by
  rw [codec]
  dsimp only
  rw [evt.modelValidateJson_modelDumpJson h]
  rfl

end RoundTrip

/-- **The round trip of machine events**: where the serializers read back what they wrote, both
models read back the event they dumped, and dump it as the same text again; and the base model reads
the base fields of a normalized event. -/
theorem machineEvent_round_trip (ser : Serializers) :
    (∀ evt : MachineEvent, ser.RoundTrips (dropEmpty (evt.modelDump ser)) evt.times →
      MachineEvent.modelValidateJson ser (evt.modelDumpJson ser) = .ok evt
        ∧ (MachineEvent.modelValidateJson ser (evt.modelDumpJson ser)).map
            (MachineEvent.modelDumpJson ser) = .ok (evt.modelDumpJson ser))
      ∧ ∀ evt : NormalizedMachineEvent,
        ser.RoundTrips (dropEmpty (evt.modelDump ser)) evt.times →
        NormalizedMachineEvent.modelValidateJson ser (evt.modelDumpJson ser) = .ok evt
          ∧ (NormalizedMachineEvent.modelValidateJson ser (evt.modelDumpJson ser)).map
              (NormalizedMachineEvent.modelDumpJson ser) = .ok (evt.modelDumpJson ser)
          ∧ MachineEvent.modelValidateJson ser (evt.modelDumpJson ser)
            = .ok evt.toMachineEvent := by
  constructor
  · intro evt h
    have hread : MachineEvent.modelValidateJson ser (evt.modelDumpJson ser) = .ok evt :=
      evt.modelValidateJson_modelDumpJson h
    exact ⟨hread, by rw [hread]; rfl⟩
  · intro evt h
    have hread : NormalizedMachineEvent.modelValidateJson ser (evt.modelDumpJson ser) = .ok evt :=
      evt.modelValidateJson_modelDumpJson h
    exact ⟨hread, by rw [hread]; rfl, evt.base_modelValidateJson_modelDumpJson h⟩

/-! ### An event on the wire -/

/-- A machine that stops, as the contract tests have it. -/
def stoppedEvent : NormalizedMachineEvent where
  organizationId := "22222222-2222-2222-2222-222222222222"
  factoryId := "33333333-3333-3333-3333-333333333333"
  machineId := "55555555-5555-5555-5555-555555555555"
  deviceId := "66666666-6666-6666-6666-666666666666"
  eventType := "MACHINE_STOPPED"
  timestamp := some ⟨63909167400000000, some 0⟩
  correlationId := "88888888-8888-8888-8888-888888888888"
  ingestedAt := ⟨63909167400000000, some 0⟩

/-- Its text. -/
def stoppedText : String :=
  "\x7b\"organization_id\":\"22222222-2222-2222-2222-222222222222\","
    ++ "\"factory_id\":\"33333333-3333-3333-3333-333333333333\","
    ++ "\"machine_id\":\"55555555-5555-5555-5555-555555555555\","
    ++ "\"device_id\":\"66666666-6666-6666-6666-666666666666\","
    ++ "\"event_type\":\"MACHINE_STOPPED\",\"timestamp\":\"2026-03-15T10:30:00Z\","
    ++ "\"correlation_id\":\"88888888-8888-8888-8888-888888888888\","
    ++ "\"ingested_at\":\"2026-03-15T10:30:00Z\",\"schema_version\":1\x7d"

/-- The text of a member of a flat object, whose texts need no escapes. -/
def memberText (entry : Σ _ : String, JsonValue) : String :=
  "\"" ++ entry.1 ++ "\":" ++ match entry.2 with
    | .str s => "\"" ++ s ++ "\""
    | .int n => toString n
    | _ => "null"

/-- The object it parses to. -/
def stoppedDict : Dict :=
  ⟨[⟨"organization_id", .str "22222222-2222-2222-2222-222222222222"⟩,
      ⟨"factory_id", .str "33333333-3333-3333-3333-333333333333"⟩,
      ⟨"machine_id", .str "55555555-5555-5555-5555-555555555555"⟩,
      ⟨"device_id", .str "66666666-6666-6666-6666-666666666666"⟩,
      ⟨"event_type", .str "MACHINE_STOPPED"⟩, ⟨"timestamp", .str "2026-03-15T10:30:00Z"⟩,
      ⟨"correlation_id", .str "88888888-8888-8888-8888-888888888888"⟩,
      ⟨"ingested_at", .str "2026-03-15T10:30:00Z"⟩, ⟨"schema_version", .int 1⟩],
    by unfold List.NodupKeys List.keys; decide⟩

/-- Serializers that know this event only. -/
def stoppedSerializers : Serializers where
  dumps d := "\x7b" ++ ",".intercalate (d.entries.map memberText) ++ "\x7d"
  loads text :=
    if text = stoppedText then .ok stoppedDict
    else .error [⟨"json_invalid", "", "Invalid JSON"⟩]
  isoformat _ := "2026-03-15T10:30:00Z"
  datetime
    | .str "2026-03-15T10:30:00Z" => .ok stoppedEvent.ingestedAt
    | _ => .error ("datetime_parsing", "Input should be a valid datetime")
  coerceInt _ := .error ("int_type", "Input should be a valid integer")

/-- The dict that is dumped, without the two fields that are empty. -/
lemma dropEmpty_modelDump_stoppedEvent :
    dropEmpty (stoppedEvent.modelDump stoppedSerializers) = stoppedDict := rfl

/-- The text of the contract. -/
lemma modelDumpJson_stoppedEvent :
    stoppedEvent.modelDumpJson stoppedSerializers = stoppedText := by
  decide +kernel

theorem machineEvent_round_trip_stopped :
    NormalizedMachineEvent.modelValidateJson stoppedSerializers stoppedText = .ok stoppedEvent
      ∧ MachineEvent.modelValidateJson stoppedSerializers stoppedText
        = .ok stoppedEvent.toMachineEvent := by
  have h := (machineEvent_round_trip stoppedSerializers).2 stoppedEvent
  rw [modelDumpJson_stoppedEvent, dropEmpty_modelDump_stoppedEvent] at h
  have htrips : stoppedSerializers.RoundTrips stoppedDict stoppedEvent.times := by
    refine ⟨?_, fun t ht => ?_⟩
    · have htext : stoppedSerializers.dumps stoppedDict = stoppedText := by decide +kernel
      rw [htext, stoppedSerializers]
      dsimp only
      rw [if_pos rfl]
    · have hsame : t = stoppedEvent.ingestedAt := by
        revert t
        decide
      rw [hsame]
      rfl
  exact ⟨(h htrips).1, (h htrips).2.2⟩

end InduSense
