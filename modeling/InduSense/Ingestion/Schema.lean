import InduSense.Ingestion.Validate
import InduSense.Shared.UuidInput

/-!
The checks of ingestion against the schema that the services behind it rely on.

* `MeetsSchema`: the schema of telemetry.
* `validateTelemetry_of_meetsSchema`: the checks let through all that meets it.
* `Slips`, `Caught`: what they miss, and what they do not; `acceptsExactly_iff`.
* `onlyPython_urn`: every UUID can be written so that `uuid.UUID` reads it and Postgres does not.
-/

namespace InduSense

namespace Ingestion

variable {R : Type} (u : PyUnicode) (isnan isinf : R → Bool) (str : R → String)

/-- The seven id fields. -/
abbrev ids (evt : TelemetryEvent R) : List String :=
  [evt.eventId, evt.organizationId, evt.factoryId, evt.productionLineId, evt.machineId,
    evt.deviceId, evt.sensorId]

/-- The schema of telemetry. -/
structure MeetsSchema (evt : TelemetryEvent R) : Prop where
  ids : ∀ id ∈ ids evt, (uuidIn id).isSome = true
  timestamp : evt.timestamp.isSome = true
  sequenceNumber : 0 < evt.sequenceNumber
  metric : evt.metric ∈ validMetrics
  value : (isnan evt.value || isinf evt.value) = false
  unit : evt.unit ≠ ""

/-- The checks let the event through if and only if it meets the schema. -/
def AcceptsExactly (evt : TelemetryEvent R) : Prop :=
  validateTelemetry (.ofUnicode u isnan isinf str) evt = .ok () ↔ MeetsSchema isnan isinf evt

/-- `uuid.UUID` reads the text and Postgres does not. -/
def OnlyPython (s : String) : Prop := (Uuid.parse u s).isOk = true ∧ uuidIn s = none

/-- What the checks do not look at: the sign of the sequence number, and how an id is written. -/
def Slips (evt : TelemetryEvent R) : Prop :=
  evt.sequenceNumber < 0 ∨ ∃ id ∈ ids evt, OnlyPython u id

/-- What they do: an id that is none in Python either, no timestamp, the sequence number 0, an
unknown metric, a value that is not finite, no unit. -/
def Caught (evt : TelemetryEvent R) : Prop :=
  (∃ id ∈ ids evt, (Uuid.parse u id).isOk = false) ∨ evt.timestamp = none
    ∨ evt.sequenceNumber = 0 ∨ evt.metric ∉ validMetrics
    ∨ (isnan evt.value || isinf evt.value) = true ∨ evt.unit = ""

/-! ### What the checks let through -/

/-- No text of a UUID is empty. -/
lemma ne_empty_of_parse {s : String} (h : (Uuid.parse u s).isOk = true) : s ≠ "" := by
  rintro rfl
  have hempty : Uuid.parse u "" = .error "badly formed hexadecimal UUID string" := rfl
  rw [hempty] at h
  cases h

lemma isOk_of_uuidIn {s : String} (h : (uuidIn s).isSome = true) :
    (Uuid.parse u s).isOk = true := by
  obtain ⟨v, hv⟩ := Option.isSome_iff_exists.mp h
  rw [parse_of_uuidIn u hv]
  rfl

variable {u isnan isinf str} {evt : TelemetryEvent R}

/-- What passes the checks is what none of them catches. -/
lemma validateTelemetry_ok_iff_not_caught :
    validateTelemetry (.ofUnicode u isnan isinf str) evt = .ok () ↔ ¬ Caught u isnan isinf evt := by
  have hid : ∀ s : String, s ≠ "" ∧ (PyText.ofUnicode u isnan isinf str).uuid s = .ok ()
      ↔ (Uuid.parse u s).isOk = true := by
    intro s
    have huuid : (PyText.ofUnicode u isnan isinf str).uuid s
        = (Uuid.parse u s).map fun _ => () := rfl
    rw [huuid]
    constructor
    · rintro ⟨-, h⟩
      cases hs : Uuid.parse u s with
      | ok v => rfl
      | error e =>
          rw [hs] at h
          cases h
    · intro h
      refine ⟨ne_empty_of_parse u h, ?_⟩
      cases hs : Uuid.parse u s with
      | ok v => rfl
      | error e =>
          rw [hs] at h
          cases h
  rw [validateTelemetry_ok_iff, Caught]
  simp only [hid, not_or, not_exists, not_and, Bool.not_eq_false, Bool.not_eq_true, not_not,
    ne_eq, Option.isSome_iff_ne_none]
  rfl

/-- **The checks let through all that meets the schema.** -/
theorem validateTelemetry_of_meetsSchema (h : MeetsSchema isnan isinf evt) :
    validateTelemetry (.ofUnicode u isnan isinf str) evt = .ok () := by
  rw [validateTelemetry_ok_iff_not_caught]
  rintro (⟨id, hid, hparse⟩ | hnone | hzero | hmetric | hvalue | hunit)
  · rw [isOk_of_uuidIn u (h.ids id hid)] at hparse
    cases hparse
  · have htimestamp := h.timestamp
    rw [hnone] at htimestamp
    cases htimestamp
  · exact absurd h.sequenceNumber (by rw [hzero]; decide)
  · exact hmetric h.metric
  · rw [h.value] at hvalue
    cases hvalue
  · exact h.unit hunit

/-- What passes the checks without a slip meets the schema. -/
lemma meetsSchema_of_not_slips (hcaught : ¬ Caught u isnan isinf evt) (hslips : ¬ Slips u evt) :
    MeetsSchema isnan isinf evt := by
  simp only [Caught, not_or, not_exists, not_and, Bool.not_eq_false, Bool.not_eq_true, not_not]
    at hcaught
  obtain ⟨hids, htimestamp, hzero, hmetric, hvalue, hunit⟩ := hcaught
  simp only [Slips, OnlyPython, not_or, not_exists, not_and, not_lt] at hslips
  refine ⟨fun id hid => ?_, Option.isSome_iff_ne_none.mpr htimestamp, ?_, hmetric, hvalue, hunit⟩
  · exact Option.isSome_iff_ne_none.mpr (hslips.2 id hid (hids id hid))
  · exact lt_of_le_of_ne hslips.1 (Ne.symm hzero)

/-- What meets the schema does not slip. -/
lemma not_slips_of_meetsSchema (h : MeetsSchema isnan isinf evt) : ¬ Slips u evt := by
  rintro (hneg | ⟨id, hid, -, hnone⟩)
  · exact absurd h.sequenceNumber (not_lt_of_gt hneg)
  · have hsome := h.ids id hid
    rw [hnone] at hsome
    cases hsome

/-- **When the checks accept exactly the schema**: an event with a negative sequence number or an id
that only Python reads is caught by another check. -/
theorem acceptsExactly_iff :
    AcceptsExactly u isnan isinf str evt ↔ (Slips u evt → Caught u isnan isinf evt) := by
  rw [AcceptsExactly, validateTelemetry_ok_iff_not_caught]
  constructor
  · intro h hslips
    by_contra hcaught
    exact not_slips_of_meetsSchema (h.mp hcaught) hslips
  · intro h
    refine ⟨fun hcaught => meetsSchema_of_not_slips hcaught fun hslips => hcaught (h hslips), ?_⟩
    intro hmeets
    have hok : validateTelemetry (.ofUnicode u isnan isinf str) evt = .ok () :=
      validateTelemetry_of_meetsSchema hmeets
    exact validateTelemetry_ok_iff_not_caught.mp hok

/-! ### What slips through -/

/-- **Every UUID can be written so that only Python reads it**: as a URN. -/
theorem onlyPython_urn (u : PyUnicode) (v : Uuid) : OnlyPython u ("urn:uuid:" ++ v.str) := by
  have hchars : ("urn:uuid:" ++ v.str).toList = "urn:uuid:".toList ++ v.strChars := by
    rw [String.toList_append, Uuid.str]
    exact congrArg _ String.toList_ofList
  have hu : 'u' ∉ v.strChars := fun h => (Uuid.plain_of_mem_strChars h).1 rfl
  have hurn : removeAll "urn:".toList 0 v.strChars = v.strChars := Uuid.removeAll_eq_self hu
  have huuid : removeAll "uuid:".toList 0 v.strChars = v.strChars := Uuid.removeAll_eq_self hu
  have hfirst : removeAll "urn:".toList 0 ("urn:uuid:".toList ++ v.strChars)
      = "uuid:".toList ++ v.strChars := by
    simpa [removeAll] using hurn
  have hsecond : removeAll "uuid:".toList 0 ("uuid:".toList ++ v.strChars) = v.strChars := by
    simpa [removeAll] using huuid
  have hhex : Uuid.hexOf ("urn:uuid:" ++ v.str) = Uuid.hexOf v.str := by
    have hstr : v.str.toList = v.strChars := String.toList_ofList
    rw [Uuid.hexOf, Uuid.hexOf, hchars, hfirst, hsecond, hstr, hurn, huuid]
  constructor
  · have hparse : Uuid.parse u ("urn:uuid:" ++ v.str) = Uuid.parse u v.str := by
      rw [Uuid.parse, Uuid.parse, hhex]
    rw [hparse, Uuid.parse_str]
    rfl
  · rw [uuidIn, hchars]
    rfl

/-- Telemetry that counts downwards. -/
def countedBackwards : TelemetryEvent ℚ where
  eventId := "5f0c1e5e-0000-4000-8000-000000000001"
  organizationId := "5f0c1e5e-0000-4000-8000-000000000002"
  factoryId := "5f0c1e5e-0000-4000-8000-000000000003"
  productionLineId := "5f0c1e5e-0000-4000-8000-000000000004"
  machineId := "5f0c1e5e-0000-4000-8000-000000000005"
  deviceId := "5f0c1e5e-0000-4000-8000-000000000006"
  sensorId := "5f0c1e5e-0000-4000-8000-000000000007"
  timestamp := some ⟨63839707200000000, some 0⟩
  sequenceNumber := -1
  metric := "temperature"
  value := 20
  unit := "celsius"

/-- **A negative sequence number is let through.** -/
theorem negative_sequence_number :
    ¬ AcceptsExactly ⟨fun _ => false, fun _ => none, id⟩ (fun _ => false) (fun _ => false)
      (fun _ => "") countedBackwards := by
  intro h
  have haccepted : validateTelemetry (.ofUnicode ⟨fun _ => false, fun _ => none, id⟩
      (fun _ => false) (fun _ => false) fun _ => "") countedBackwards = .ok () := by
    decide +kernel
  exact absurd (h.mp haccepted).sequenceNumber (by decide)

end Ingestion

end InduSense
