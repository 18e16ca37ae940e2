import InduSense.Shared.Events
import InduSense.Shared.Uuid

/-!
What ingestion accepts: `services/ingestion/validate.py`.

* `PyText`: the functions of Python that the checks rest on.
* `validateTelemetry`, `validateMachineEvent`: the checks, in their order.
* `validateTelemetry_ok_iff`: what telemetry has to be to pass; `AcceptedTelemetry` has passed.
* `valueError_of_validateTelemetry`, `valueError_of_validateMachineEvent`: a check fails with a
  `ValueError` only.
-/

namespace InduSense

namespace Ingestion

variable {R : Type}

/-- What Python makes of texts and numbers: `uuid.UUID(s)`, which raises a `ValueError` with a
message; `repr(s)`; `math.isnan(x)`, `math.isinf(x)` and `str(x)`. -/
structure PyText (R : Type) where
  uuid : String → Except String Unit
  repr : String → String
  isnan : R → Bool
  isinf : R → Bool
  str : R → String

/-- The functions with `uuid.UUID` as it is. -/
def PyText.ofUnicode (u : PyUnicode) (isnan isinf : R → Bool) (str : R → String) : PyText R where
  uuid s := (Uuid.parse u s).map fun _ => ()
  repr := u.repr
  isnan := isnan
  isinf := isinf
  str := str

/-- `VALID_METRICS`. -/
def validMetrics : List String :=
  ["temperature", "vibration", "pressure", "rpm", "current", "voltage", "power", "humidity",
    "acoustic_level"]

/-- `raise ValueError(message)`. -/
def valueError (message : String) : Except PyError Unit := .error ⟨.valueError, message⟩

variable (py : PyText R)

/-- `require_uuid`. -/
def requireUuid (field value : String) : Except PyError Unit :=
  if value = "" then valueError (field ++ " must not be empty")
  else
    match py.uuid value with
    | .ok () => .ok ()
    | .error exc =>
        valueError (field ++ " " ++ py.repr value ++ " is not a valid UUID: " ++ exc)

/-- A condition whose failure raises. -/
def require (condition : Bool) (message : String) : Except PyError Unit :=
  if condition then .ok () else valueError message

/-- `validate_telemetry`. -/
def validateTelemetry (evt : TelemetryEvent R) : Except PyError Unit := do
  requireUuid py "event_id" evt.eventId
  requireUuid py "organization_id" evt.organizationId
  requireUuid py "factory_id" evt.factoryId
  requireUuid py "production_line_id" evt.productionLineId
  requireUuid py "machine_id" evt.machineId
  requireUuid py "device_id" evt.deviceId
  requireUuid py "sensor_id" evt.sensorId
  require evt.timestamp.isSome "timestamp must not be empty"
  require (evt.sequenceNumber ≠ 0) "sequence_number must be present and greater than zero"
  require (evt.metric ∈ validMetrics)
    ("metric " ++ py.repr evt.metric ++ " is not a recognized sensor metric")
  require (!(py.isnan evt.value || py.isinf evt.value))
    ("value must be a finite number, got " ++ py.str evt.value)
  require (evt.unit ≠ "") "unit must not be empty"

/-- `validate_machine_event`. -/
def validateMachineEvent (evt : MachineEvent) : Except PyError Unit := do
  requireUuid py "organization_id" evt.organizationId
  requireUuid py "factory_id" evt.factoryId
  requireUuid py "machine_id" evt.machineId
  require evt.timestamp.isSome "timestamp must not be empty"
  require (evt.status ≠ "" || evt.eventType ≠ "")
    "machine event must set either status or event_type"

/-- A check that fails with a `ValueError` only. -/
def OnlyValueError (r : Except PyError Unit) : Prop :=
  ∀ exc, r = .error exc → exc.kind = .valueError

omit py in
lemma OnlyValueError.bind {r : Except PyError Unit} {f : Unit → Except PyError Unit}
    (hr : OnlyValueError r) (hf : OnlyValueError (f ())) : OnlyValueError (r >>= f) := by
  cases r with
  | error exc => exact fun exc' h => hr exc' h
  | ok u => exact hf

omit py in
lemma onlyValueError_require (condition : Bool) (message : String) :
    OnlyValueError (require condition message) := by
  intro exc h
  rw [require] at h
  split at h
  · cases h
  · cases h
    rfl

lemma onlyValueError_requireUuid (field value : String) :
    OnlyValueError (requireUuid py field value) := by
  intro exc h
  rw [requireUuid] at h
  split at h
  · cases h
    rfl
  · split at h
    · cases h
    · cases h
      rfl

/-- **Telemetry fails its checks with a `ValueError` only.** -/
theorem valueError_of_validateTelemetry (evt : TelemetryEvent R) :
    OnlyValueError (validateTelemetry py evt) := by
  rw [validateTelemetry]
  refine (onlyValueError_requireUuid py _ _).bind ?_
  refine (onlyValueError_requireUuid py _ _).bind ?_
  refine (onlyValueError_requireUuid py _ _).bind ?_
  refine (onlyValueError_requireUuid py _ _).bind ?_
  refine (onlyValueError_requireUuid py _ _).bind ?_
  refine (onlyValueError_requireUuid py _ _).bind ?_
  refine (onlyValueError_requireUuid py _ _).bind ?_
  refine (onlyValueError_require _ _).bind ?_
  refine (onlyValueError_require _ _).bind ?_
  refine (onlyValueError_require _ _).bind ?_
  exact (onlyValueError_require _ _).bind (onlyValueError_require _ _)

/-- **A machine event fails its checks with a `ValueError` only.** -/
theorem valueError_of_validateMachineEvent (evt : MachineEvent) :
    OnlyValueError (validateMachineEvent py evt) := by
  rw [validateMachineEvent]
  refine (onlyValueError_requireUuid py _ _).bind ?_
  refine (onlyValueError_requireUuid py _ _).bind ?_
  refine (onlyValueError_requireUuid py _ _).bind ?_
  exact (onlyValueError_require _ _).bind (onlyValueError_require _ _)

/-! ### What passes -/

omit py in
lemma require_ok_iff (condition : Bool) (message : String) :
    require condition message = .ok () ↔ condition = true := by
  rw [require]
  cases condition with
  | false => exact ⟨nofun, nofun⟩
  | true => exact ⟨fun _ => rfl, fun _ => rfl⟩

lemma requireUuid_ok_iff (field value : String) :
    requireUuid py field value = .ok () ↔ value ≠ "" ∧ py.uuid value = .ok () := by
  rw [requireUuid]
  by_cases hempty : value = ""
  · rw [if_pos hempty]
    exact ⟨nofun, fun h => absurd hempty h.1⟩
  · rw [if_neg hempty]
    cases py.uuid value with
    | error exc => exact ⟨nofun, fun h => nomatch h.2⟩
    | ok u => exact ⟨fun _ => ⟨hempty, rfl⟩, fun _ => rfl⟩

/-- **What telemetry has to be to pass its checks.** -/
theorem validateTelemetry_ok_iff (evt : TelemetryEvent R) :
    validateTelemetry py evt = .ok () ↔
      (∀ id ∈ [evt.eventId, evt.organizationId, evt.factoryId, evt.productionLineId,
          evt.machineId, evt.deviceId, evt.sensorId], id ≠ "" ∧ py.uuid id = .ok ())
        ∧ evt.timestamp.isSome = true ∧ evt.sequenceNumber ≠ 0 ∧ evt.metric ∈ validMetrics
        ∧ (py.isnan evt.value || py.isinf evt.value) = false ∧ evt.unit ≠ "" := by
  simp only [validateTelemetry, bind_ok_iff, requireUuid_ok_iff, require_ok_iff,
    List.forall_mem_cons, List.not_mem_nil, false_imp_iff, implies_true, and_true, and_assoc,
    decide_eq_true_eq, Bool.not_eq_true', ne_eq]

/-- Telemetry that has passed its checks. -/
structure AcceptedTelemetry where
  evt : TelemetryEvent R
  accepted : validateTelemetry py evt = .ok ()

/-- The timestamp of accepted telemetry. -/
lemma AcceptedTelemetry.exists_timestamp (tel : AcceptedTelemetry py) :
    ∃ d, tel.evt.timestamp = some d :=
  Option.isSome_iff_exists.mp ((validateTelemetry_ok_iff py tel.evt).mp tel.accepted).2.1

end Ingestion

end InduSense
