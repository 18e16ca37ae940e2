import InduSense.AnomalyDetector.Detectors
import InduSense.Numeric.ExponentialAverage
import InduSense.Shared.Keys

/-!
The baseline of a series: what the trackers of `stats.py` hold after any sequence of updates.

* `samplesOf`: the values of one series among the updates of all of them.
* `EWMATracker.update_ofSamples`: one update of one tracker, by the recurrences of the mean and of
  the variance.
* `updates_trackers`: after any updates, the tracker of a series is the one of its own samples.
* `update_baseline`: the z-score and the count that come back, and what the baseline is.
-/

namespace InduSense

namespace AnomalyDetector

open Numeric (expWeight expMean expVariance expMean_append expVariance_append expMean_singleton
  expVariance_singleton expVariance_nonneg expMean_mem_Icc sum_expWeight)

variable {R : Type} [Field R] [LinearOrder R]

/-- The arguments of one call of `StatisticalTrackers.update`. -/
structure TrackerUpdate (R : Type) where
  deviceId : String
  metric : String
  value : R

/-- The trackers after some calls. -/
def StatisticalTrackers.updates (math : PyMath R) (t : StatisticalTrackers R)
    (us : List (TrackerUpdate R)) : StatisticalTrackers R :=
  us.foldl (fun t u => (t.update math u.deviceId u.metric u.value).2) t

omit [Field R] [LinearOrder R] in
/-- The values of one series among the calls. -/
def samplesOf (deviceId metric : String) (us : List (TrackerUpdate R)) : List R :=
  (us.filter fun u => u.deviceId = deviceId ∧ u.metric = metric).map TrackerUpdate.value

/-- The z-score of a value against the samples before it. -/
def baselineZScore (math : PyMath R) (α : R) (xs : List R) (value : R) : R :=
  if xs = [] then 0
  else
    let stddev := math.sqrt (expVariance α xs)
    if 0 < stddev then (value - expMean α xs) / stddev else 0

omit [LinearOrder R] in
/-- The tracker of a series, if it has samples. -/
def EWMATracker.ofSamples (α : R) : List R → Option (EWMATracker R)
  | [] => none
  | x :: xs => some
      { alpha := α
        mean := expMean α (x :: xs)
        variance := expVariance α (x :: xs)
        sampleCount := (x :: xs).length
        initialized := true }

omit [LinearOrder R] in
lemma EWMATracker.ofSamples_of_ne {α : R} {xs : List R} (hxs : xs ≠ []) :
    ofSamples α xs = some ⟨α, expMean α xs, expVariance α xs, xs.length, true⟩ := by
  cases xs with
  | nil => exact absurd rfl hxs
  | cons x xs => rfl

variable [IsStrictOrderedRing R] {α : R}

/-- One update of the tracker of some samples. -/
theorem EWMATracker.update_ofSamples (math : PyMath R) (h0 : 0 ≤ α) (h1 : α ≤ 1) (xs : List R)
    (value : R) :
    (((ofSamples α xs).getD (.init α)).update math value).1
        = .ok (baselineZScore math α xs value, xs.length + 1)
      ∧ some (((ofSamples α xs).getD (.init α)).update math value).2
        = ofSamples α (xs ++ [value]) := by
  by_cases hxs : xs = []
  · subst hxs
    refine ⟨rfl, ?_⟩
    rw [List.nil_append, ofSamples_of_ne (List.cons_ne_nil _ _), expMean_singleton,
      expVariance_singleton]
    rfl
  · have hvariance : ¬ expVariance α xs < 0 := not_lt.mpr (expVariance_nonneg h0 h1 xs)
    have hne : xs ++ [value] ≠ [] := List.append_ne_nil_of_right_ne_nil _ (List.cons_ne_nil _ _)
    rw [ofSamples_of_ne hxs, ofSamples_of_ne hne, expMean_append α hxs, expVariance_append α hxs,
      Option.getD_some, update, if_neg (by simp), if_neg hvariance, baselineZScore, if_neg hxs]
    refine ⟨rfl, ?_⟩
    rw [List.length_append, List.length_singleton, Nat.cast_add, Nat.cast_one]

omit [Field R] [LinearOrder R] [IsStrictOrderedRing R] in
lemma samplesOf_append_same (us : List (TrackerUpdate R)) {u : TrackerUpdate R}
    {deviceId metric : String} (hu : u.deviceId = deviceId ∧ u.metric = metric) :
    samplesOf deviceId metric (us ++ [u]) = samplesOf deviceId metric us ++ [u.value] := by
  simp [samplesOf, hu]

omit [Field R] [LinearOrder R] [IsStrictOrderedRing R] in
lemma samplesOf_append_other (us : List (TrackerUpdate R)) {u : TrackerUpdate R}
    {deviceId metric : String} (hu : ¬ (u.deviceId = deviceId ∧ u.metric = metric)) :
    samplesOf deviceId metric (us ++ [u]) = samplesOf deviceId metric us := by
  simp [samplesOf, List.filter_append, hu]

omit [IsStrictOrderedRing R] in
/-- An update of another series leaves the tracker of a series alone. -/
lemma update_trackers_other (math : PyMath R) (t : StatisticalTrackers R) {u : TrackerUpdate R}
    {deviceId metric : String} (hu : '|' ∉ u.deviceId.toList) (hid : '|' ∉ deviceId.toList)
    (hother : ¬ (u.deviceId = deviceId ∧ u.metric = metric)) :
    (t.update math u.deviceId u.metric u.value).2.trackers (deviceId ++ "|" ++ metric)
      = t.trackers (deviceId ++ "|" ++ metric) := by
  refine Function.update_of_ne ?_ _ _
  intro hkey
  exact hother ((append_separator_inj hu hid).mp hkey.symm)

omit [IsStrictOrderedRing R] in
lemma updates_append (math : PyMath R) (t : StatisticalTrackers R) (us : List (TrackerUpdate R))
    (u : TrackerUpdate R) :
    t.updates math (us ++ [u])
      = ((t.updates math us).update math u.deviceId u.metric u.value).2 := by
  simp [StatisticalTrackers.updates]

omit [IsStrictOrderedRing R] in
@[simp] lemma updates_alpha (math : PyMath R) (t : StatisticalTrackers R)
    (us : List (TrackerUpdate R)) : (t.updates math us).alpha = t.alpha := by
  induction us using List.reverseRecOn with
  | nil => rfl
  | append_singleton us u ih => rw [updates_append, ← ih]; rfl

/-- **The trackers after any updates**: each is the one of the samples of its own series. -/
theorem updates_trackers (math : PyMath R) (h0 : 0 ≤ α) (h1 : α ≤ 1)
    (us : List (TrackerUpdate R)) (hus : ∀ u ∈ us, '|' ∉ u.deviceId.toList)
    {deviceId : String} (hid : '|' ∉ deviceId.toList) (metric : String) :
    ((StatisticalTrackers.init α).updates math us).trackers (deviceId ++ "|" ++ metric)
      = EWMATracker.ofSamples α (samplesOf deviceId metric us) := by
  induction us using List.reverseRecOn with
  | nil => rfl
  | append_singleton us u ih =>
      have ih := ih fun v hv => hus v (List.mem_append_left _ hv)
      have hu : '|' ∉ u.deviceId.toList := hus u (by simp)
      rw [updates_append]
      by_cases hsame : u.deviceId = deviceId ∧ u.metric = metric
      · rw [samplesOf_append_same us hsame, ← (EWMATracker.update_ofSamples math h0 h1 _ _).2,
          ← ih, ← hsame.1, ← hsame.2]
        show Function.update _ _ _ _ = _
        rw [Function.update_self, updates_alpha]
        rfl
      · rw [samplesOf_append_other us hsame, update_trackers_other math _ hu hid hsame, ih]

omit [Field R] [IsStrictOrderedRing R] in
lemma exists_extremes {xs : List R} (hxs : xs ≠ []) :
    ∃ lo ∈ xs, ∃ hi ∈ xs, ∀ x ∈ xs, x ∈ Set.Icc lo hi := by
  have hne : xs.toFinset.Nonempty := by simpa using hxs
  obtain ⟨lo, hlo, hmin⟩ := xs.toFinset.exists_min_image id hne
  obtain ⟨hi, hhi, hmax⟩ := xs.toFinset.exists_max_image id hne
  simp only [List.mem_toFinset] at hlo hhi hmin hmax
  exact ⟨lo, hlo, hi, hhi, fun x hx => ⟨hmin x hx, hmax x hx⟩⟩

/-- **The tracker of a series is its exponentially weighted baseline**, after any updates of any
series: its mean and its variance are the weighted ones of the samples of the series, whose weights
sum to one; the next sample is judged against them, and other series do not count. -/
theorem update_baseline (math : PyMath R) (h0 : 0 ≤ α) (h1 : α ≤ 1)
    (us : List (TrackerUpdate R)) (hus : ∀ u ∈ us, '|' ∉ u.deviceId.toList)
    (deviceId metric : String) (hid : '|' ∉ deviceId.toList) :
    let t := (StatisticalTrackers.init α).updates math us
    let xs := samplesOf deviceId metric us
    t.trackers (deviceId ++ "|" ++ metric) = EWMATracker.ofSamples α xs
      ∧ (∀ value, (t.update math deviceId metric value).1
          = .ok (baselineZScore math α xs value, xs.length + 1))
      ∧ (∀ u : TrackerUpdate R, '|' ∉ u.deviceId.toList →
          ¬ (u.deviceId = deviceId ∧ u.metric = metric) →
          (t.update math u.deviceId u.metric u.value).2.trackers (deviceId ++ "|" ++ metric)
            = t.trackers (deviceId ++ "|" ++ metric))
      ∧ (xs ≠ [] → ∑ i ∈ Finset.range xs.length, expWeight α xs.length i = 1
          ∧ 0 ≤ expVariance α xs
          ∧ ∃ lo ∈ xs, ∃ hi ∈ xs, (∀ x ∈ xs, x ∈ Set.Icc lo hi)
              ∧ expMean α xs ∈ Set.Icc lo hi) := by
  intro t xs
  have htracker : t.trackers (deviceId ++ "|" ++ metric) = EWMATracker.ofSamples α xs :=
    updates_trackers math h0 h1 us hus hid metric
  refine ⟨htracker, fun value => ?_, fun u hu hother =>
    update_trackers_other math t hu hid hother, fun hxs => ?_⟩
  · rw [← (EWMATracker.update_ofSamples math h0 h1 xs value).1, ← htracker]
    show (((t.trackers (deviceId ++ "|" ++ metric)).getD (.init t.alpha)).update math value).1 = _
    rw [updates_alpha]
    rfl
  · obtain ⟨lo, hlo, hi, hhi, hbounds⟩ := exists_extremes hxs
    exact ⟨sum_expWeight α (by simpa using hxs), expVariance_nonneg h0 h1 xs, lo, hlo, hi, hhi,
      hbounds, expMean_mem_Icc h0 h1 hxs hbounds⟩

/-! ### Two pumps and their temperatures -/

/-- Square roots of `0` and of `1`. -/
def unitMath : PyMath ℚ := ⟨id, id, id, fun _ _ => ""⟩

/-- Three readings of two pumps. -/
def twoPumps : List (TrackerUpdate ℚ) :=
  [⟨"pump-1", "temperature", 0⟩, ⟨"pump-2", "temperature", 70⟩, ⟨"pump-1", "temperature", 2⟩]

theorem update_baseline_pump :
    samplesOf "pump-1" "temperature" twoPumps = [0, 2]
      ∧ (((StatisticalTrackers.init (1 / 2)).updates unitMath twoPumps).update unitMath "pump-1"
          "temperature" 4).1 = .ok (3, 3) := by
  have hsamples : samplesOf "pump-1" "temperature" twoPumps = [0, 2] := by decide +kernel
  have h := (update_baseline unitMath (α := (1 / 2 : ℚ)) (by norm_num) (by norm_num) twoPumps
    (by decide +kernel) "pump-1" "temperature" (by decide +kernel)).2.1 4
  rw [hsamples] at h
  refine ⟨hsamples, h.trans ?_⟩
  decide +kernel

end AnomalyDetector

end InduSense
