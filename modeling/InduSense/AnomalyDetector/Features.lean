import InduSense.AnomalyDetector.Detectors

/-!
What the anomaly detector knows about devices: `catalog.py` and `featurestore.py`.

* `Catalog`: the snapshot of machine types, operating ranges and feature orders.
* `FeatureStore.observe`: the last known values of a device, and the training buffers;
  `observe_cases`: all that it does.
-/

namespace InduSense

namespace AnomalyDetector

variable {R : Type}

/-- `DeviceInfo`. -/
structure DeviceInfo (R : Type) where
  machineType : String
  ranges : String → Option (MetricRange R)

/-- The snapshot `Catalog.refresh` has taken last. -/
structure Catalog (R : Type) where
  devices : String → Option (DeviceInfo R)
  featureOrder : String → Option (List String)

/-- `Catalog.lookup`. -/
def Catalog.lookup (cat : Catalog R) (deviceId : String) : Option (DeviceInfo R) :=
  cat.devices deviceId

/-- `Catalog.features_for`. -/
def Catalog.featuresFor (cat : Catalog R) (machineType : String) : List String :=
  (cat.featureOrder machineType).getD []

/-- `FeatureStore`. -/
structure FeatureStore (R : Type) where
  latest : String → String → Option R
  trainingData : String → Option (List (List R))
  bufferSize : ℤ

namespace FeatureStore

/-- A store that has seen nothing. -/
def init (bufferSize : ℤ) : FeatureStore R := ⟨fun _ _ => none, fun _ => none, bufferSize⟩

/-- A training buffer cut to its last `bufferSize` vectors. -/
def trimmed (bufferSize : ℤ) (buf : List (List R)) : List (List R) :=
  if bufferSize < buf.length then buf.drop (buf.length - bufferSize).toNat else buf

/-- `FeatureStore.observe`: the vector of the device, once it has a value for each feature, with
the store it leaves. -/
def observe (fs : FeatureStore R) (deviceId machineType metric : String) (value : R)
    (featureOrder : List String) : Option (List R) × FeatureStore R :=
  let values := Function.update (fs.latest deviceId) metric (some value)
  let fs := { fs with latest := Function.update fs.latest deviceId values }
  if featureOrder = [] then (none, fs)
  else
    match featureOrder.mapM values with
    | none => (none, fs)
    | some vector =>
        let buf := (fs.trainingData machineType).getD [] ++ [vector]
        (some vector,
          { fs with trainingData :=
              Function.update fs.trainingData machineType (some (trimmed fs.bufferSize buf)) })

end FeatureStore

/-- All that `observe` does: the value becomes the latest of its metric; if the device has one of
each feature, the vector of them joins the buffer of the machine type. -/
lemma observe_cases (fs : FeatureStore R) (device machineType metric : String) (value : R)
    (order : List String) :
    (fs.observe device machineType metric value order).2.latest =
        Function.update fs.latest device (Function.update (fs.latest device) metric (some value))
      ∧ (fs.observe device machineType metric value order).2.bufferSize = fs.bufferSize
      ∧ (((order = [] ∨ order.mapM (Function.update (fs.latest device) metric (some value)) = none)
          ∧ (fs.observe device machineType metric value order).1 = none
          ∧ (fs.observe device machineType metric value order).2.trainingData = fs.trainingData)
        ∨ ∃ vector, order ≠ []
          ∧ order.mapM (Function.update (fs.latest device) metric (some value)) = some vector
          ∧ (fs.observe device machineType metric value order).1 = some vector
          ∧ (fs.observe device machineType metric value order).2.trainingData =
            Function.update fs.trainingData machineType (some (FeatureStore.trimmed fs.bufferSize
              ((fs.trainingData machineType).getD [] ++ [vector])))) := by
  rw [FeatureStore.observe]
  dsimp only
  by_cases hnil : order = []
  · rw [if_pos hnil]
    exact ⟨rfl, rfl, .inl ⟨.inl hnil, rfl, rfl⟩⟩
  · rw [if_neg hnil]
    cases hvector : order.mapM (Function.update (fs.latest device) metric (some value)) with
    | none => exact ⟨rfl, rfl, .inl ⟨.inr rfl, rfl, rfl⟩⟩
    | some vector => exact ⟨rfl, rfl, .inr ⟨vector, hnil, rfl, rfl, rfl⟩⟩

end AnomalyDetector

end InduSense
