import InduSense.AnomalyDetector.Features

/-!
What the feature store holds after any calls of `observe`.

* `Observation`, `FeatureStore.after`: a call, and the store after some of them.
* `latestReading`: the value a device has reported last of a metric; `emitted`: the vectors the
  calls have returned for a machine type.
* `latest_after`, `trainingSnapshot_after`: the store holds these, the buffers cut to their ends.
* `observe_history`: the law of the store.
-/

namespace InduSense

namespace AnomalyDetector

variable {R : Type}

/-- The arguments of a call of `FeatureStore.observe`. -/
structure Observation (R : Type) where
  deviceId : String
  machineType : String
  metric : String
  value : R
  featureOrder : List String

/-- The value a device has reported last of a metric. -/
def latestReading (os : List (Observation R)) (deviceId metric : String) : Option R :=
  (os.filter fun o => o.deviceId = deviceId ∧ o.metric = metric).getLast?.map Observation.value

namespace FeatureStore

/-- A call of `observe`. -/
def call (fs : FeatureStore R) (o : Observation R) : Option (List R) × FeatureStore R :=
  fs.observe o.deviceId o.machineType o.metric o.value o.featureOrder

/-- The store after some calls. -/
def after (fs : FeatureStore R) (os : List (Observation R)) : FeatureStore R :=
  os.foldl (fun fs o => (fs.call o).2) fs

/-- The vectors that some calls return for a machine type. -/
def emitted (fs : FeatureStore R) : List (Observation R) → String → List (List R)
  | [], _ => []
  | o :: os, machineType =>
      (if o.machineType = machineType then (fs.call o).1.toList else [])
        ++ emitted (fs.call o).2 os machineType

/-- `FeatureStore.training_snapshot`. -/
def trainingSnapshot (fs : FeatureStore R) (machineType : String) : List (List R) :=
  (fs.trainingData machineType).getD []

/-! ### Calls one after the other -/

lemma after_append (fs : FeatureStore R) (os more : List (Observation R)) :
    fs.after (os ++ more) = (fs.after os).after more :=
  List.foldl_append

lemma after_concat (fs : FeatureStore R) (os : List (Observation R)) (o : Observation R) :
    fs.after (os ++ [o]) = ((fs.after os).call o).2 :=
  after_append fs os [o]

lemma emitted_append (fs : FeatureStore R) (os more : List (Observation R))
    (machineType : String) :
    fs.emitted (os ++ more) machineType
      = fs.emitted os machineType ++ (fs.after os).emitted more machineType := by
  induction os generalizing fs with
  | nil => rfl
  | cons o os ih => rw [List.cons_append, emitted, emitted, ih, List.append_assoc]; rfl

@[simp] lemma after_bufferSize (fs : FeatureStore R) (os : List (Observation R)) :
    (fs.after os).bufferSize = fs.bufferSize := by
  induction os using List.reverseRecOn with
  | nil => rfl
  | append_singleton os o ih =>
      rw [after_concat, ← ih]
      exact (observe_cases _ _ _ _ _ _).2.1

/-! ### The latest values -/

/-- A call makes its value the latest of its metric. -/
lemma latestReading_concat (os : List (Observation R)) (o : Observation R) :
    latestReading (os ++ [o]) = Function.update (latestReading os) o.deviceId
      (Function.update (latestReading os o.deviceId) o.metric (some o.value)) := by
  funext device metric
  by_cases hdevice : device = o.deviceId
  · subst hdevice
    rw [Function.update_self]
    by_cases hmetric : metric = o.metric
    · subst hmetric
      rw [Function.update_self]
      simp [latestReading]
    · rw [Function.update_of_ne hmetric]
      simp [latestReading, Ne.symm hmetric]
  · rw [Function.update_of_ne hdevice]
    simp [latestReading, Ne.symm hdevice]

/-- A metric has a value once the device has reported it. -/
lemma isSome_latestReading (os : List (Observation R)) (device metric : String) :
    (latestReading os device metric).isSome
      ↔ ∃ o ∈ os, o.deviceId = device ∧ o.metric = metric := by
  rw [latestReading, Option.isSome_map, List.getLast?_isSome, Ne, List.filter_eq_nil_iff]
  push Not
  simp

/-- The store holds the latest values. -/
lemma latest_after (bufferSize : ℤ) (os : List (Observation R)) :
    ((init bufferSize).after os).latest = latestReading os := by
  induction os using List.reverseRecOn with
  | nil => rfl
  | append_singleton os o ih =>
      rw [after_concat, latestReading_concat, ← ih]
      exact (observe_cases _ _ _ _ _ _).1

/-- What is found for each of a list, found for all of them. -/
lemma mapM_eq_some_iff {α β : Type} {f : α → Option β} {l : List α} {bs : List β} :
    l.mapM f = some bs ↔ l.map f = bs.map some := by
  induction l generalizing bs with
  | nil => cases bs <;> simp
  | cons a l ih =>
      rw [List.mapM_cons, List.map_cons]
      cases hf : f a with
      | none => cases bs <;> simp
      | some b => cases bs <;> simp [Option.bind_eq_some_iff, ih, and_comm]

lemma exists_mapM_eq_some_iff {α β : Type} {f : α → Option β} {l : List α} :
    (∃ bs, l.mapM f = some bs) ↔ ∀ a ∈ l, (f a).isSome := by
  induction l with
  | nil => simp
  | cons a l ih =>
      rw [List.forall_mem_cons, ← ih, List.mapM_cons]
      cases f a with
      | none => simp
      | some b => simp [Option.bind_eq_some_iff]

/-- What a call returns, by the latest values of its device. -/
lemma call_fst (bufferSize : ℤ) (os : List (Observation R)) (o : Observation R) :
    (((init bufferSize).after os).call o).1
      = if o.featureOrder = [] then none
        else o.featureOrder.mapM (latestReading (os ++ [o]) o.deviceId) := by
  have hvalues : latestReading (os ++ [o]) o.deviceId
      = Function.update (latestReading os o.deviceId) o.metric (some o.value) := by
    rw [latestReading_concat, Function.update_self]
  obtain ⟨-, -, hcases⟩ := observe_cases ((init bufferSize).after os) o.deviceId o.machineType
    o.metric o.value o.featureOrder
  rw [latest_after, ← hvalues] at hcases
  rcases hcases with ⟨hnone, hresult, -⟩ | ⟨vector, hne, hvector, hresult, -⟩
  · rw [call, hresult]
    rcases hnone with hnil | hnone
    · rw [if_pos hnil]
    · rw [hnone, ite_self]
  · rw [call, hresult, if_neg hne, hvector]

/-! ### The buffers -/

/-- A buffer is cut to its end. -/
lemma trimmed_eq_drop (bufferSize : ℕ) (buf : List (List R)) :
    trimmed bufferSize buf = buf.drop (buf.length - bufferSize) := by
  rw [trimmed]
  split
  · congr 1
    omega
  · rename_i hle
    rw [show buf.length - bufferSize = 0 by omega, List.drop_zero]

/-- Cutting before and after something is added comes to cutting after it. -/
lemma drop_drop_append {α : Type} (n : ℕ) (l more : List α) :
    (l.drop (l.length - n) ++ more).drop ((l.drop (l.length - n) ++ more).length - n)
      = (l ++ more).drop ((l ++ more).length - n) := by
  rw [← List.drop_append_of_le_length (by omega), List.drop_drop]
  congr 1
  simp only [List.length_append, List.length_drop]
  omega

/-- A call adds the vector it returns to the buffer of its machine type. -/
lemma trainingSnapshot_call {fs : FeatureStore R} {bufferSize : ℕ}
    (hsize : fs.bufferSize = bufferSize) {machineType : String}
    (hfits : (fs.trainingSnapshot machineType).length ≤ bufferSize) (o : Observation R) :
    (fs.call o).2.trainingSnapshot machineType
      = (fs.trainingSnapshot machineType ++ fs.emitted [o] machineType).drop
          ((fs.trainingSnapshot machineType ++ fs.emitted [o] machineType).length
            - bufferSize) := by
  obtain ⟨-, -, hcases⟩ := observe_cases fs o.deviceId o.machineType o.metric o.value
    o.featureOrder
  have hsame : (fs.call o).2.trainingData machineType = fs.trainingData machineType →
      fs.emitted [o] machineType = [] → (fs.call o).2.trainingSnapshot machineType
      = (fs.trainingSnapshot machineType ++ fs.emitted [o] machineType).drop
          ((fs.trainingSnapshot machineType ++ fs.emitted [o] machineType).length
            - bufferSize) := by
    intro hdata hnone
    rw [hnone, List.append_nil, Nat.sub_eq_zero_of_le hfits, List.drop_zero, trainingSnapshot,
      hdata, trainingSnapshot]
  rcases hcases with ⟨-, hresult, hdata⟩ | ⟨vector, -, -, hresult, hdata⟩
  · exact hsame (congrFun hdata machineType) (by simp [emitted, call, hresult])
  · by_cases hmachine : o.machineType = machineType
    · have hnew : fs.emitted [o] machineType = [vector] := by
        rw [emitted, if_pos hmachine, call, hresult]
        rfl
      rw [hnew, ← trimmed_eq_drop, ← hsize, trainingSnapshot, call, hdata, hmachine,
        Function.update_self]
      rfl
    · refine hsame ?_ (by simp [emitted, hmachine])
      rw [call, hdata, Function.update_of_ne (Ne.symm hmachine)]

/-- **The buffers hold the ends of what was emitted.** -/
theorem trainingSnapshot_after (bufferSize : ℕ) (os : List (Observation R))
    (machineType : String) :
    ((init bufferSize).after os).trainingSnapshot machineType
      = ((init bufferSize).emitted os machineType).drop
          (((init bufferSize).emitted os machineType).length - bufferSize) := by
  induction os using List.reverseRecOn with
  | nil => exact List.drop_nil.symm
  | append_singleton os o ih =>
      have hfits : (((init bufferSize).after os).trainingSnapshot machineType).length
          ≤ bufferSize := by
        rw [ih, List.length_drop]
        omega
      rw [after_concat, trainingSnapshot_call (after_bufferSize _ os) hfits, ih, drop_drop_append,
        emitted_append]

/-- More calls cut the oldest vectors and add theirs. -/
lemma trainingSnapshot_after_append (bufferSize : ℕ) (os more : List (Observation R))
    (machineType : String) :
    ((init bufferSize).after (os ++ more)).trainingSnapshot machineType
      = (((init bufferSize).after os).trainingSnapshot machineType
            ++ ((init bufferSize).after os).emitted more machineType).drop
          ((((init bufferSize).after os).trainingSnapshot machineType
            ++ ((init bufferSize).after os).emitted more machineType).length - bufferSize) := by
  rw [trainingSnapshot_after, trainingSnapshot_after, emitted_append, drop_drop_append]

end FeatureStore

open FeatureStore (init)

/-- **The law of the feature store**, for any calls of any devices, machine types and metrics: a
call returns a vector if its feature order is not empty and its device has reported each metric of
it; the vector lists the latest values; the snapshot of a machine type is the end of the vectors
emitted for it; other devices and other machine types are left alone; and later calls only cut the
oldest vectors of a buffer and add their own. -/
theorem observe_history (bufferSize : ℕ) (os : List (Observation R)) :
    (∀ o : Observation R,
        ((∃ vector, (((init bufferSize).after os).call o).1 = some vector)
            ↔ o.featureOrder ≠ [] ∧ ∀ m ∈ o.featureOrder,
                ∃ r ∈ os ++ [o], r.deviceId = o.deviceId ∧ r.metric = m)
          ∧ ∀ vector, (((init bufferSize).after os).call o).1 = some vector →
              o.featureOrder.map (latestReading (os ++ [o]) o.deviceId) = vector.map some)
      ∧ (∀ machineType, ((init bufferSize).after os).trainingSnapshot machineType
          = ((init bufferSize).emitted os machineType).drop
              (((init bufferSize).emitted os machineType).length
                - min ((init bufferSize).emitted os machineType).length bufferSize))
      ∧ (∀ o next : Observation R, next.deviceId ≠ o.deviceId →
          (((init bufferSize).after (os ++ [o])).call next).1
            = (((init bufferSize).after os).call next).1)
      ∧ (∀ (o : Observation R) (machineType : String), machineType ≠ o.machineType →
          ((init bufferSize).after (os ++ [o])).trainingSnapshot machineType
            = ((init bufferSize).after os).trainingSnapshot machineType)
      ∧ ∀ (more : List (Observation R)) (machineType : String), ∃ k,
          ((init bufferSize).after (os ++ more)).trainingSnapshot machineType
            = (((init bufferSize).after os).trainingSnapshot machineType
                ++ ((init bufferSize).after os).emitted more machineType).drop k := by
  refine ⟨fun o => ⟨?_, fun vector h => ?_⟩, fun machineType => ?_, fun o next hother => ?_,
    fun o machineType hother => ?_, fun more machineType => ?_⟩
  · rw [FeatureStore.call_fst]
    by_cases hnil : o.featureOrder = []
    · simp [hnil]
    · rw [if_neg hnil, FeatureStore.exists_mapM_eq_some_iff]
      simp only [FeatureStore.isSome_latestReading, ne_eq, hnil, not_false_eq_true, true_and]
  · rw [FeatureStore.call_fst] at h
    split at h
    · cases h
    · exact FeatureStore.mapM_eq_some_iff.mp h
  · rw [FeatureStore.trainingSnapshot_after]
    congr 1
    omega
  · have hlatest : latestReading (os ++ [o] ++ [next]) next.deviceId
        = latestReading (os ++ [next]) next.deviceId := by
      rw [FeatureStore.latestReading_concat (os ++ [o]), Function.update_self,
        FeatureStore.latestReading_concat os o, Function.update_of_ne hother,
        FeatureStore.latestReading_concat os next, Function.update_self]
    rw [FeatureStore.call_fst, FeatureStore.call_fst, hlatest]
  · rw [FeatureStore.trainingSnapshot_after, FeatureStore.trainingSnapshot_after,
      FeatureStore.emitted_append]
    simp [FeatureStore.emitted, Ne.symm hother]
  · exact ⟨_, FeatureStore.trainingSnapshot_after_append bufferSize os more machineType⟩

end AnomalyDetector

end InduSense
