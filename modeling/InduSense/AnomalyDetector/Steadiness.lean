import InduSense.AnomalyDetector.Severities

/-!
Two series with one mean, and one reading judged against both.

* `stddevOf`, `Spikes`: the standard deviation of a series, and the statistical level on a reading.
* `fires_iff`: when it fires; never on a series without deviation, whose z-scores are zero.
* `steadier_fires_iff`: of two series with the same mean and as many samples, what fires on the one
  fires on the steadier one, unless that one has no deviation at all.
-/

namespace InduSense

namespace AnomalyDetector

open Numeric (expMean expVariance)

variable {R : Type} [Field R] [LinearOrder R]

/-- The standard deviation of the samples of a series, as the tracker takes it. -/
def stddevOf (math : PyMath R) (α : R) (xs : List R) : R := math.sqrt (expVariance α xs)

/-- The statistical level fires on a reading of a series: on the z-score and the count that the
trackers return for it. -/
def Spikes (math : PyMath R) (cfg : Config R) (t : StatisticalTrackers R)
    (deviceId metric : String) (value : R) : Prop :=
  ∃ zScore sampleCount severity score, (t.update math deviceId metric value).1
      = .ok (zScore, sampleCount)
    ∧ statCheck zScore sampleCount cfg.minSamplesForZscore cfg.zscoreThreshold
      = .ok (some (severity, score))

variable [IsStrictOrderedRing R] {α : R}

/-- The statistical check fires on enough samples and a z-score from the threshold on. -/
lemma statCheck_eq_some_iff {threshold : R} (hthreshold : 0 < threshold) (z : R)
    (sampleCount minSamples : ℤ) :
    (∃ severity score, statCheck z sampleCount minSamples threshold = .ok (some (severity, score)))
      ↔ minSamples ≤ sampleCount ∧ threshold ≤ |z| := by
  rw [statCheck_eq hthreshold]
  by_cases hquiet : sampleCount < minSamples ∨ |z| < threshold
  · rw [if_pos hquiet]
    rw [← not_lt, ← not_lt, ← not_or]
    exact iff_of_false (by rintro ⟨_, _, h⟩; cases h) (not_not.mpr hquiet)
  · rw [if_neg hquiet]
    rw [not_or, not_lt, not_lt] at hquiet
    exact iff_of_true ⟨_, _, rfl⟩ hquiet

/-- The z-score reaches the threshold where the series has a deviation, and the reading is that many
deviations away from the mean. -/
lemma le_abs_baselineZScore_iff (math : PyMath R) {threshold : R} (hthreshold : 0 < threshold)
    {xs : List R} (hxs : xs ≠ []) (value : R) :
    threshold ≤ |baselineZScore math α xs value|
      ↔ 0 < stddevOf math α xs ∧ threshold * stddevOf math α xs ≤ |value - expMean α xs| := by
  have hzScore : baselineZScore math α xs value
      = if 0 < stddevOf math α xs then (value - expMean α xs) / stddevOf math α xs else 0 := by
    rw [baselineZScore, if_neg hxs]
    rfl
  rw [hzScore]
  by_cases hpos : 0 < stddevOf math α xs
  · rw [if_pos hpos, abs_div, abs_of_pos hpos, le_div_iff₀ hpos]
    exact ⟨fun h => ⟨hpos, h⟩, And.right⟩
  · rw [if_neg hpos, abs_zero]
    exact iff_of_false (not_le.mpr hthreshold) fun h => hpos h.1

/-- **When the statistical level fires** after any updates: on a series with enough samples and a
deviation, where the reading is the threshold's number of deviations away from the mean. -/
theorem fires_iff (math : PyMath R) {cfg : Config R} (hthreshold : 0 < cfg.zscoreThreshold)
    (h0 : 0 ≤ α) (h1 : α ≤ 1) {us : List (TrackerUpdate R)}
    (hus : ∀ u ∈ us, '|' ∉ u.deviceId.toList) {deviceId : String} (hid : '|' ∉ deviceId.toList)
    (metric : String) (value : R) :
    Spikes math cfg ((StatisticalTrackers.init α).updates math us) deviceId metric value
      ↔ samplesOf deviceId metric us ≠ []
        ∧ cfg.minSamplesForZscore ≤ (samplesOf deviceId metric us).length + 1
        ∧ 0 < stddevOf math α (samplesOf deviceId metric us)
        ∧ cfg.zscoreThreshold * stddevOf math α (samplesOf deviceId metric us)
          ≤ |value - expMean α (samplesOf deviceId metric us)| := by
  have hupdate := (update_baseline math h0 h1 us hus deviceId metric hid).2.1 value
  have hfires : Spikes math cfg ((StatisticalTrackers.init α).updates math us) deviceId metric value
      ↔ cfg.minSamplesForZscore ≤ (samplesOf deviceId metric us).length + 1
        ∧ cfg.zscoreThreshold ≤ |baselineZScore math α (samplesOf deviceId metric us) value| := by
    rw [← statCheck_eq_some_iff hthreshold]
    constructor
    · rintro ⟨zScore, sampleCount, severity, score, hu, hcheck⟩
      cases hu.symm.trans hupdate
      exact ⟨severity, score, hcheck⟩
    · rintro ⟨severity, score, hcheck⟩
      exact ⟨_, _, severity, score, hupdate, hcheck⟩
  rw [hfires]
  by_cases hxs : samplesOf deviceId metric us = []
  · have hzero : |baselineZScore math α (samplesOf deviceId metric us) value| = 0 := by
      rw [baselineZScore, if_pos hxs, abs_zero]
    rw [hzero]
    exact iff_of_false (fun h => absurd h.2 (not_le.mpr hthreshold)) fun h => h.1 hxs
  · rw [le_abs_baselineZScore_iff math hthreshold hxs]
    exact ⟨fun h => ⟨hxs, h⟩, And.right⟩

/-- **What fires on a series fires on a steadier one, if that one has a deviation**: for series with
the same mean and as many samples, after any updates of any series. -/
theorem steadier_fires_iff (math : PyMath R) {cfg : Config R}
    (hthreshold : 0 < cfg.zscoreThreshold) (h0 : 0 ≤ α) (h1 : α ≤ 1)
    {us : List (TrackerUpdate R)} (hus : ∀ u ∈ us, '|' ∉ u.deviceId.toList)
    {steady noisy : String} (hsteady : '|' ∉ steady.toList) (hnoisy : '|' ∉ noisy.toList)
    {metric metric' : String}
    (hmean : expMean α (samplesOf steady metric us) = expMean α (samplesOf noisy metric' us))
    (hcount : (samplesOf steady metric us).length = (samplesOf noisy metric' us).length)
    (hstddev : stddevOf math α (samplesOf steady metric us)
      ≤ stddevOf math α (samplesOf noisy metric' us)) {value : R}
    (hfires : Spikes math cfg ((StatisticalTrackers.init α).updates math us) noisy metric' value) :
    Spikes math cfg ((StatisticalTrackers.init α).updates math us) steady metric value
      ↔ 0 < stddevOf math α (samplesOf steady metric us) := by
  rw [fires_iff math hthreshold h0 h1 hus hnoisy] at hfires
  rw [fires_iff math hthreshold h0 h1 hus hsteady]
  obtain ⟨hne, henough, -, hfar⟩ := hfires
  refine ⟨fun h => h.2.2.1, fun hpos => ⟨?_, ?_, hpos, ?_⟩⟩
  · rw [ne_eq, ← List.length_eq_zero_iff] at hne ⊢
    rwa [hcount]
  · rwa [hcount]
  · calc cfg.zscoreThreshold * stddevOf math α (samplesOf steady metric us)
        ≤ cfg.zscoreThreshold * stddevOf math α (samplesOf noisy metric' us) :=
          mul_le_mul_of_nonneg_left hstddev hthreshold.le
      _ ≤ |value - expMean α (samplesOf steady metric us)| := by rwa [hmean]

/-! ### Three pumps around one temperature -/

/-- Three samples are enough. -/
def eagerConfig : Config ℚ := { Config.default with minSamplesForZscore := 3 }

/-- The temperature of one pump is constant, those of the others move about it. -/
def threePumps : List (TrackerUpdate ℚ) :=
  [⟨"pump-1", "temperature", 5⟩, ⟨"pump-1", "temperature", 5⟩, ⟨"pump-2", "temperature", 4⟩,
    ⟨"pump-2", "temperature", 6⟩, ⟨"pump-3", "temperature", 6⟩, ⟨"pump-3", "temperature", 4⟩]

/-- The trackers of the three pumps. -/
def threeTrackers : StatisticalTrackers ℚ :=
  (StatisticalTrackers.init (1 / 2)).updates unitMath threePumps

lemma fires_noisy : Spikes unitMath eagerConfig threeTrackers "pump-2" "temperature" 10 :=
  ⟨5, 3, .CRITICAL, 5 / 6, by decide +kernel, by decide +kernel⟩

theorem steadier_fires_iff_pump :
    Spikes unitMath eagerConfig threeTrackers "pump-3" "temperature" 10
      ↔ 0 < stddevOf unitMath (1 / 2) (samplesOf "pump-3" "temperature" threePumps) := by
  have hthreshold : 0 < eagerConfig.zscoreThreshold := by decide
  have h0 : (0 : ℚ) ≤ 1 / 2 := by norm_num
  have h1 : (1 / 2 : ℚ) ≤ 1 := by norm_num
  exact steadier_fires_iff unitMath hthreshold h0 h1 (by decide +kernel) (by decide +kernel)
    (by decide +kernel) (by decide +kernel) (by decide +kernel) (by decide +kernel) fires_noisy

/-- **The constant series hides the jump** that fires on a series with the same mean, as many
samples and a deviation: its deviation is zero, and so is every z-score on it. -/
theorem constant_series_hides_jump :
    expMean (1 / 2) (samplesOf "pump-1" "temperature" threePumps)
        = expMean (1 / 2) (samplesOf "pump-2" "temperature" threePumps)
      ∧ (samplesOf "pump-1" "temperature" threePumps).length
        = (samplesOf "pump-2" "temperature" threePumps).length
      ∧ stddevOf unitMath (1 / 2) (samplesOf "pump-1" "temperature" threePumps)
        ≤ stddevOf unitMath (1 / 2) (samplesOf "pump-2" "temperature" threePumps)
      ∧ Spikes unitMath eagerConfig threeTrackers "pump-2" "temperature" 10
      ∧ ¬ Spikes unitMath eagerConfig threeTrackers "pump-1" "temperature" 10 := by
  refine ⟨by decide +kernel, by decide +kernel, by decide +kernel, fires_noisy, ?_⟩
  rintro ⟨zScore, sampleCount, severity, score, hupdate, hcheck⟩
  have hquiet : (threeTrackers.update unitMath "pump-1" "temperature" 10).1 = .ok (0, 3) := by
    decide +kernel
  cases hupdate.symm.trans hquiet
  have hnone : statCheck (0 : ℚ) 3 eagerConfig.minSamplesForZscore eagerConfig.zscoreThreshold
      = .ok none := by decide +kernel
  cases hcheck.symm.trans hnone

end AnomalyDetector

end InduSense
