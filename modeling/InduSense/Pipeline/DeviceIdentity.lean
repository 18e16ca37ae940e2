import InduSense.AlertService.Main
import InduSense.AnomalyDetector.Main
import InduSense.AnomalyDetector.Refresh
import InduSense.Ingestion.Main
import InduSense.StreamProcessor.Main

/-!
Whether the services recognise a device by its id.

* `Recognised`: two readings of one device and metric belong to one series, one tracker and one
  dedupe key, and the catalog knows the device, if it lists it.
* `recognised_iff`: that is so when the two ids are spelt alike, and as the catalog spells them.

Ingestion accepts every text that `uuid.UUID` reads, and passes it on as it is.
-/

namespace InduSense

namespace Pipeline

open AlertService (anomalyDedupeKey)
open AnomalyDetector (Catalog CatalogRow Detection StatisticalTrackers anomalyOf)
open Ingestion (AcceptedTelemetry PyText normalizedTelemetry)
open StreamProcessor (seriesKey)

/-- The key of a tracker of the anomaly detector. -/
def trackerKey (deviceId metric : String) : String := deviceId ++ "|" ++ metric

/-- Readings of a device: their series, their trackers and the dedupe keys of the anomalies found in
them are the same, and a catalog that lists the device gives its info for both. -/
structure Recognised (rows : List (CatalogRow ℚ)) (device : Uuid) (e₁ e₂ : TelemetryEvent ℚ) :
    Prop where
  series : ∀ t₁ t₂, (seriesKey (normalizedTelemetry e₁ t₁)).id
    = (seriesKey (normalizedTelemetry e₂ t₂)).id
  tracker : trackerKey e₁.deviceId e₁.metric = trackerKey e₂.deviceId e₂.metric
  dedupeKey : ∀ t₁ t₂ (results₁ results₂ : List (Detection ℚ)) id₁ id₂ at₁ at₂,
    anomalyDedupeKey (anomalyOf (normalizedTelemetry e₁ t₁) results₁ id₁ at₁)
      = anomalyDedupeKey (anomalyOf (normalizedTelemetry e₂ t₂) results₂ id₂ at₂)
  listed : device ∈ rows.map CatalogRow.deviceId →
    (Catalog.refresh rows).lookup e₁.deviceId = Catalog.infoOf rows device
      ∧ (Catalog.refresh rows).lookup e₂.deviceId = Catalog.infoOf rows device

variable {u : PyUnicode} {isnan isinf : ℚ → Bool} {str : ℚ → String}

/-- A listed device is found under one of the texts that denote it. -/
lemma lookup_eq_infoOf_iff {rows : List (CatalogRow ℚ)} {device : Uuid} {s : String}
    (hs : Uuid.parse u s = .ok device) (hlisted : device ∈ rows.map CatalogRow.deviceId) :
    (Catalog.refresh rows).lookup s = Catalog.infoOf rows device ↔ s = device.str := by
  constructor
  · intro hlookup
    by_contra hne
    -- no device prints as this text, since it would be read back as that device
    have hother : ∀ device' : Uuid, s ≠ device'.str := by
      rintro device' rfl
      rw [Uuid.parse_str] at hs
      cases hs
      exact hne rfl
    have hsome := (Catalog.infoOf_isSome_iff rows device).mpr hlisted
    rw [← hlookup, Catalog.lookup_refresh_of_ne rows hother] at hsome
    exact Bool.false_ne_true hsome
  · rintro rfl
    exact Catalog.lookup_refresh rows device

/-- **When a device is recognised**: its id is spelt alike in both readings, and as `str()` prints
it if the catalog lists it. -/
theorem recognised_iff (rows : List (CatalogRow ℚ))
    (e₁ e₂ : AcceptedTelemetry (PyText.ofUnicode u isnan isinf str)) {device : Uuid}
    (h₁ : Uuid.parse u e₁.evt.deviceId = .ok device)
    (h₂ : Uuid.parse u e₂.evt.deviceId = .ok device) (hmetric : e₁.evt.metric = e₂.evt.metric) :
    Recognised rows device e₁.evt e₂.evt ↔
      e₁.evt.deviceId = e₂.evt.deviceId
        ∧ (device ∈ rows.map CatalogRow.deviceId → e₁.evt.deviceId = device.str) := by
  constructor
  · intro h
    refine ⟨?_, fun hlisted => (lookup_eq_infoOf_iff h₁ hlisted).mp (h.listed hlisted).1⟩
    have htracker := h.tracker
    rw [trackerKey, trackerKey, hmetric] at htracker
    exact (String.append_left_inj "|").mp ((String.append_left_inj e₂.evt.metric).mp htracker)
  · rintro ⟨hspelt, hcanonical⟩
    refine ⟨fun t₁ t₂ => ?_, ?_, fun t₁ t₂ _ _ _ _ _ _ => ?_, fun hlisted => ⟨?_, ?_⟩⟩
    · show e₁.evt.deviceId ++ "|" ++ e₁.evt.metric = e₂.evt.deviceId ++ "|" ++ e₂.evt.metric
      rw [hspelt, hmetric]
    · rw [hspelt, hmetric]
    · show e₁.evt.deviceId ++ ":" ++ e₁.evt.metric = e₂.evt.deviceId ++ ":" ++ e₂.evt.metric
      rw [hspelt, hmetric]
    · exact (lookup_eq_infoOf_iff h₁ hlisted).mpr (hcanonical hlisted)
    · exact (lookup_eq_infoOf_iff h₂ hlisted).mpr (hspelt ▸ hcanonical hlisted)

/-! ### A device that writes its id in upper case -/

/-- ASCII alone. -/
def asciiUnicode : PyUnicode := ⟨fun _ => false, fun _ => none, fun s => "'" ++ s ++ "'"⟩

/-- Texts and numbers, all of them finite. -/
abbrev finiteText : PyText ℚ :=
  .ofUnicode asciiUnicode (fun _ => false) (fun _ => false) fun _ => "0"

/-- The id of a pump. -/
def pumpId : Uuid := ⟨0x5f0c1e5e0000400080000000000000ab, by decide⟩

/-- A temperature of the pump, which spells its id in some way. -/
def pumpReading (deviceId : String) : TelemetryEvent ℚ where
  eventId := "5f0c1e5e-0000-4000-8000-000000000001"
  organizationId := "5f0c1e5e-0000-4000-8000-000000000002"
  factoryId := "5f0c1e5e-0000-4000-8000-000000000003"
  productionLineId := "5f0c1e5e-0000-4000-8000-000000000004"
  machineId := "5f0c1e5e-0000-4000-8000-000000000005"
  deviceId := deviceId
  sensorId := "5f0c1e5e-0000-4000-8000-000000000007"
  timestamp := some ⟨63839707200000000, some 0⟩
  sequenceNumber := 1
  metric := "temperature"
  value := 20
  unit := "celsius"

/-- In lower case, as the database prints it. -/
def lowerReading : AcceptedTelemetry finiteText :=
  ⟨pumpReading "5f0c1e5e-0000-4000-8000-0000000000ab", by decide +kernel⟩

/-- In upper case. -/
def upperReading : AcceptedTelemetry finiteText :=
  ⟨pumpReading "5F0C1E5E-0000-4000-8000-0000000000AB", by decide +kernel⟩

/-- The catalog lists the pump. -/
def pumpRows : List (CatalogRow ℚ) := [⟨pumpId, "pump", "temperature", ⟨0, 100⟩⟩]

/-- Readings in lower case are recognised. -/
theorem recognised_iff_lower : Recognised pumpRows pumpId lowerReading.evt lowerReading.evt :=
  (recognised_iff pumpRows lowerReading lowerReading (by decide +kernel) (by decide +kernel)
    rfl).mpr ⟨rfl, fun _ => by decide +kernel⟩

/-- **The same device in upper case is another one**: its readings make a series of their own, and
the catalog does not know it. -/
theorem upper_case_unrecognised :
    Uuid.parse asciiUnicode upperReading.evt.deviceId
        = Uuid.parse asciiUnicode lowerReading.evt.deviceId
      ∧ upperReading.evt.metric = lowerReading.evt.metric
      ∧ ¬ Recognised pumpRows pumpId upperReading.evt lowerReading.evt
      ∧ (Catalog.refresh pumpRows).lookup upperReading.evt.deviceId = none := by
  have hparse : Uuid.parse asciiUnicode upperReading.evt.deviceId = .ok pumpId := by
    decide +kernel
  refine ⟨by decide +kernel, rfl, fun h => ?_, Catalog.lookup_refresh_of_ne _ ?_⟩
  · have htracker := h.tracker
    revert htracker
    decide +kernel
  · intro device heq
    have hdevice := Uuid.parse_str asciiUnicode device
    rw [← heq, hparse] at hdevice
    cases hdevice
    revert heq
    decide +kernel

end Pipeline

end InduSense
