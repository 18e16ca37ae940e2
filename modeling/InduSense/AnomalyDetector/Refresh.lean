import InduSense.AnomalyDetector.Features
import InduSense.Shared.Uuid

/-!
The refresh of the catalog: `Catalog.refresh` of `catalog.py`.

* `CatalogRow`, `Catalog.refresh`: the rows of the query, and the snapshot made of them.
* `lookup_refresh`: a device is found under the canonical text of its id, and under no other.
* `featuresFor_refresh`: the feature order of a machine type lists the metrics of its sensors, each
  once, in one order.
-/

namespace InduSense

namespace AnomalyDetector

variable {R : Type}

/-- A row of `_CATALOG_QUERY`: one for each sensor of a device. -/
structure CatalogRow (R : Type) where
  deviceId : Uuid
  machineType : String
  metric : String
  range : MetricRange R

namespace Catalog

/-- One turn of the loop over the rows: the device is keyed by the text of its id. -/
def addRow (devices : String → Option (DeviceInfo R)) (row : CatalogRow R) :
    String → Option (DeviceInfo R) :=
  let info := (devices row.deviceId.str).getD ⟨row.machineType, fun _ => none⟩
  Function.update devices row.deviceId.str
    (some { info with ranges := Function.update info.ranges row.metric (some row.range) })

lemma addRow_self (devices : String → Option (DeviceInfo R)) (row : CatalogRow R) :
    addRow devices row row.deviceId.str =
      some { (devices row.deviceId.str).getD ⟨row.machineType, fun _ => none⟩ with
        ranges := Function.update
          ((devices row.deviceId.str).getD ⟨row.machineType, fun _ => none⟩).ranges row.metric
          (some row.range) } := by
  rw [addRow, Function.update_self]

lemma addRow_of_ne (devices : String → Option (DeviceInfo R)) {row : CatalogRow R} {s : String}
    (hs : s ≠ row.deviceId.str) : addRow devices row s = devices s := by
  rw [addRow, Function.update_of_ne hs]

/-- The metrics of the rows of a machine type. -/
def metricsOf (rows : List (CatalogRow R)) (machineType : String) : List String :=
  (rows.filter fun row => row.machineType = machineType).map CatalogRow.metric

/-- `sorted(metrics)`, of the metrics as a set. -/
def sortedMetrics (metrics : List String) : List String := metrics.dedup.insertionSort (· ≤ ·)

/-- `Catalog.refresh`: the snapshot it leaves. -/
def refresh (rows : List (CatalogRow R)) : Catalog R where
  devices := rows.foldl addRow fun _ => none
  featureOrder machineType :=
    if metricsOf rows machineType = [] then none
    else some (sortedMetrics (metricsOf rows machineType))

/-! ### Devices -/

/-- What the rows say about a device: the machine type of its first row, and for each metric the
range of its last. -/
def infoOf (rows : List (CatalogRow R)) (device : Uuid) : Option (DeviceInfo R) :=
  match rows.filter fun row => row.deviceId = device with
  | [] => none
  | first :: rest => some
      ⟨first.machineType, fun metric =>
        (((first :: rest).filter fun row => row.metric = metric).getLast?).map CatalogRow.range⟩

lemma infoOf_concat_of_ne (rows : List (CatalogRow R)) {row : CatalogRow R} {device : Uuid}
    (hne : row.deviceId ≠ device) : infoOf (rows ++ [row]) device = infoOf rows device := by
  have hrow : [row].filter (fun row => row.deviceId = device) = [] := by simp [hne]
  rw [infoOf, infoOf, List.filter_append, hrow, List.append_nil]

lemma infoOf_concat_self (rows : List (CatalogRow R)) (row : CatalogRow R) :
    infoOf (rows ++ [row]) row.deviceId =
      some { (infoOf rows row.deviceId).getD ⟨row.machineType, fun _ => none⟩ with
        ranges := Function.update
          ((infoOf rows row.deviceId).getD ⟨row.machineType, fun _ => none⟩).ranges row.metric
          (some row.range) } := by
  have hrow : [row].filter (fun row' => row'.deviceId = row.deviceId) = [row] := by simp
  rw [infoOf, infoOf, List.filter_append, hrow]
  cases hrows : rows.filter fun row' => row'.deviceId = row.deviceId with
  | nil =>
      refine congrArg some (congrArg (DeviceInfo.mk _) (funext fun metric => ?_))
      by_cases hm : row.metric = metric
      · subst hm
        simp
      · simp [hm, Function.update_of_ne (Ne.symm hm)]
  | cons first rest =>
      refine congrArg some (congrArg (DeviceInfo.mk _) (funext fun metric => ?_))
      show (((first :: rest ++ [row]).filter fun row => row.metric = metric).getLast?).map
        CatalogRow.range = _
      rw [List.filter_append]
      by_cases hm : row.metric = metric
      · subst hm
        simp
      · simp [hm, Function.update_of_ne (Ne.symm hm)]

/-- The devices after the loop: those of the rows, each under the text of its id. -/
lemma devices_refresh (rows : List (CatalogRow R)) :
    (∀ device : Uuid, (refresh rows).devices device.str = infoOf rows device)
      ∧ ∀ s, (∀ device : Uuid, s ≠ device.str) → (refresh rows).devices s = none := by
  induction rows using List.reverseRecOn with
  | nil => exact ⟨fun _ => rfl, fun _ _ => rfl⟩
  | append_singleton rows row ih =>
      have hstep : (refresh (rows ++ [row])).devices = addRow (refresh rows).devices row := by
        simp only [refresh, List.foldl_append, List.foldl_cons, List.foldl_nil]
      rw [hstep]
      refine ⟨fun device => ?_, fun s hs => ?_⟩
      · by_cases heq : row.deviceId = device
        · subst heq
          rw [addRow_self, ih.1, infoOf_concat_self]
        · have hne : device.str ≠ row.deviceId.str := fun h => heq (Uuid.str_injective h).symm
          rw [addRow_of_ne _ hne, ih.1, infoOf_concat_of_ne rows heq]
      · rw [addRow_of_ne _ (hs row.deviceId)]
        exact ih.2 s hs

/-- **A device is found under the canonical text of its id.** -/
theorem lookup_refresh (rows : List (CatalogRow R)) (device : Uuid) :
    (refresh rows).lookup device.str = infoOf rows device :=
  (devices_refresh rows).1 device

/-- No other text is found. -/
theorem lookup_refresh_of_ne (rows : List (CatalogRow R)) {s : String}
    (hs : ∀ device : Uuid, s ≠ device.str) : (refresh rows).lookup s = none :=
  (devices_refresh rows).2 s hs

lemma infoOf_isSome_iff (rows : List (CatalogRow R)) (device : Uuid) :
    (infoOf rows device).isSome = true ↔ device ∈ rows.map CatalogRow.deviceId := by
  rw [infoOf, List.mem_map]
  cases hrows : rows.filter fun row => row.deviceId = device with
  | nil =>
      refine iff_of_false Bool.false_ne_true fun ⟨row, hrow, heq⟩ => ?_
      exact absurd heq (by simpa using List.filter_eq_nil_iff.mp hrows row hrow)
  | cons first rest =>
      have hfirst := List.mem_filter.mp (hrows ▸ List.mem_cons_self)
      exact iff_of_true rfl ⟨first, hfirst.1, of_decide_eq_true hfirst.2⟩

/-! ### Feature orders -/

lemma sortedMetrics_eq_nil_iff (metrics : List String) :
    sortedMetrics metrics = [] ↔ metrics = [] := by
  rw [sortedMetrics, ← List.length_eq_zero_iff, List.length_insertionSort,
    List.length_eq_zero_iff, List.dedup_eq_nil]

/-- **The feature order of a machine type.** -/
theorem featuresFor_refresh (rows : List (CatalogRow R)) (machineType : String) :
    (refresh rows).featuresFor machineType = sortedMetrics (metricsOf rows machineType) := by
  rw [featuresFor, refresh]
  dsimp only
  by_cases hnil : metricsOf rows machineType = []
  · rw [if_pos hnil, (sortedMetrics_eq_nil_iff _).mpr hnil]
    rfl
  · rw [if_neg hnil]
    rfl

lemma mem_sortedMetrics {metrics : List String} {metric : String} :
    metric ∈ sortedMetrics metrics ↔ metric ∈ metrics := by
  rw [sortedMetrics, List.mem_insertionSort, List.mem_dedup]

lemma nodup_sortedMetrics (metrics : List String) : (sortedMetrics metrics).Nodup :=
  (List.perm_insertionSort _ _).nodup_iff.mpr (List.nodup_dedup _)

end Catalog

end AnomalyDetector

end InduSense
