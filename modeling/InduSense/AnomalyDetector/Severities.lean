import InduSense.AnomalyDetector.Baseline
import InduSense.Lists.Extremes

/-!
Worse readings, and the record several detections are folded into.

* `judge`: the detections of one reading against the baseline of its series.
* `NotMilder`: what a check reports of one reading is reported at least as severely of another;
  `ruleCheck_notMilder_above`, `statCheck_notMilder`: so it is of a reading further out.
* `isGreatest_score`, `isGreatest_severity`: `combine_detections` takes maxima.
* `worse_not_milder`: a worse reading never looks milder.
-/

namespace InduSense

namespace AnomalyDetector

open InduSense.Lists (isGreatest_foldl_max isGreatest_of_insert)

variable {R : Type} [Field R] [LinearOrder R]

/-- The detections of one reading: the z-score of it against the tracker of its series, and the
three levels. -/
def judge (math : PyMath R) (cfg : Config R) (tracker : EWMATracker R)
    (range : Option (MetricRange R)) (forestScore : Option R) (value : R) :
    Except PyError (List (Detection R)) := do
  let (zScore, sampleCount) ← (tracker.update math value).1
  runDetectors math cfg value range zScore sampleCount forestScore

/-! ### Bands -/

omit [Field R] in
/-- A ladder of two thresholds, in any order. -/
def ladder (critical high x : R) : Severity :=
  if critical ≤ x then .CRITICAL else if high ≤ x then .HIGH else .WARNING

omit [Field R] in
lemma ladder_mono (critical high : R) {x y : R} (h : x ≤ y) :
    severityRank (ladder critical high x) ≤ severityRank (ladder critical high y) := by
  rw [ladder, ladder]
  by_cases hcritical : critical ≤ x
  · rw [if_pos hcritical, if_pos (hcritical.trans h)]
  · rw [if_neg hcritical]
    by_cases hhigh : high ≤ x
    · rw [if_pos hhigh, if_pos (hhigh.trans h)]
      split <;> decide
    · rw [if_neg hhigh]
      split
      · decide
      · split <;> decide

lemma overshootSeverity_eq (x : R) : overshootSeverity x = ladder (1 / 2) (1 / 5) x := rfl

/-! ### One check on two readings -/

omit [Field R] in
/-- What is reported of one reading is reported of the other, with a severity and a score at least
as high. -/
def NotMilder (a b : Option (Severity × R)) : Prop :=
  ∀ p ∈ a, ∃ q ∈ b, severityRank p.1 ≤ severityRank q.1 ∧ p.2 ≤ q.2

omit [Field R] in
lemma notMilder_refl (a : Option (Severity × R)) : NotMilder a a :=
  fun p hp => ⟨p, hp, le_rfl, le_rfl⟩

omit [Field R] in
lemma notMilder_some {s s' : Severity} {x x' : R} (hs : severityRank s ≤ severityRank s')
    (hx : x ≤ x') : NotMilder (some (s, x)) (some (s', x')) := by
  intro p hp
  cases hp
  exact ⟨_, rfl, hs, hx⟩

variable [IsStrictOrderedRing R]

lemma clamp01_mono {x y : R} (h : x ≤ y) : clamp01 x ≤ clamp01 y := by
  have hmax : ∀ v : R, clamp01 v = max 0 (min v 1) := by
    intro v
    rw [clamp01]
    split_ifs with hneg hone
    · rw [min_eq_left (hneg.le.trans zero_le_one), max_eq_left hneg.le]
    · rw [min_eq_right hone.le, max_eq_right zero_le_one]
    · rw [min_eq_left (not_lt.mp hone), max_eq_right (not_lt.mp hneg)]
  rw [hmax, hmax]
  exact max_le_max le_rfl (min_le_min h le_rfl)

lemma clamp01_nonneg (x : R) : 0 ≤ clamp01 x := by
  rw [clamp01]
  split_ifs with hneg hone
  · exact le_rfl
  · exact zero_le_one
  · exact not_lt.mp hneg

/-- Overshoots by more are not milder. -/
lemma overshoot_notMilder {span x y : R} (hspan : 0 < span) (h : x ≤ y) :
    NotMilder (some (overshootSeverity (x / span), clamp01 (x / span)))
      (some (overshootSeverity (y / span), clamp01 (y / span))) := by
  have hdiv : x / span ≤ y / span := div_le_div_of_nonneg_right h hspan.le
  rw [overshootSeverity_eq, overshootSeverity_eq]
  exact notMilder_some (ladder_mono _ _ hdiv) (clamp01_mono hdiv)

/-- The rule on a reading from the maximum on, and a higher one. -/
lemma ruleCheck_notMilder_above {r : MetricRange R} {v v' : R} (hmax : r.max ≤ v) (hv : v ≤ v') :
    NotMilder (ruleCheck v r) (ruleCheck v' r) := by
  rw [ruleCheck, ruleCheck]
  dsimp only
  split
  · exact notMilder_refl none
  · rename_i hspan
    rw [not_le] at hspan
    by_cases habove : r.max < v
    · rw [if_pos habove, if_pos (habove.trans_le hv)]
      exact overshoot_notMilder hspan (sub_le_sub_right hv _)
    · have hmin : ¬ v < r.min := not_lt.mpr ((sub_pos.mp hspan).le.trans hmax)
      rw [if_neg habove, if_neg hmin]
      rintro p ⟨⟩

/-- The rule on a reading from the minimum down, and a lower one. -/
lemma ruleCheck_notMilder_below {r : MetricRange R} {v v' : R} (hmin : v ≤ r.min) (hv : v' ≤ v) :
    NotMilder (ruleCheck v r) (ruleCheck v' r) := by
  rw [ruleCheck, ruleCheck]
  dsimp only
  split
  · exact notMilder_refl none
  · rename_i hspan
    rw [not_le] at hspan
    have hmax : ∀ x, x ≤ r.min → ¬ r.max < x := fun x hx =>
      not_lt.mpr (hx.trans (sub_pos.mp hspan).le)
    rw [if_neg (hmax v hmin), if_neg (hmax v' (hv.trans hmin))]
    by_cases hbelow : v < r.min
    · rw [if_pos hbelow, if_pos (hv.trans_lt hbelow)]
      exact overshoot_notMilder hspan (sub_le_sub_left hv _)
    · rw [if_neg hbelow]
      rintro p ⟨⟩

/-- The statistical check, with a threshold it can divide by. -/
lemma statCheck_eq {threshold : R} (hthreshold : 0 < threshold) (z : R)
    (sampleCount minSamples : ℤ) :
    statCheck z sampleCount minSamples threshold
      = .ok (if sampleCount < minSamples ∨ |z| < threshold then none
          else some (ladder (threshold * (16 / 10)) (threshold * (13 / 10)) |z|,
            clamp01 (|z| / (threshold * 2)))) := by
  have hdouble : threshold * 2 ≠ 0 := (mul_pos hthreshold two_pos).ne'
  rw [statCheck]
  by_cases hfew : sampleCount < minSamples
  · rw [if_pos hfew, if_pos (.inl hfew)]
  · rw [if_neg hfew]
    dsimp only
    by_cases hquiet : |z| < threshold
    · rw [if_pos hquiet, if_pos (.inr hquiet)]
    · rw [if_neg hquiet, if_neg hdouble, if_neg (not_or.mpr ⟨hfew, hquiet⟩)]
      rfl

/-- The statistical check on a z-score, and one further from zero. -/
lemma statCheck_notMilder {z z' threshold : R} (hthreshold : 0 < threshold) (hz : |z| ≤ |z'|)
    (sampleCount minSamples : ℤ) :
    ∃ a b, statCheck z sampleCount minSamples threshold = .ok a
      ∧ statCheck z' sampleCount minSamples threshold = .ok b ∧ NotMilder a b := by
  refine ⟨_, _, statCheck_eq hthreshold z _ _, statCheck_eq hthreshold z' _ _, ?_⟩
  by_cases hquiet : sampleCount < minSamples ∨ |z| < threshold
  · rw [if_pos hquiet]
    rintro p ⟨⟩
  · have hquiet' : ¬ (sampleCount < minSamples ∨ |z'| < threshold) := by
      rw [not_or, not_lt, not_lt] at hquiet ⊢
      exact ⟨hquiet.1, hquiet.2.trans hz⟩
    rw [if_neg hquiet, if_neg hquiet']
    refine notMilder_some (ladder_mono _ _ hz) (clamp01_mono ?_)
    exact div_le_div_of_nonneg_right hz (mul_pos hthreshold two_pos).le

/-- The z-score of a value against a baseline. -/
def zScoreOf (math : PyMath R) (tracker : EWMATracker R) (value : R) : R :=
  if ¬ tracker.initialized then 0
  else if 0 < math.sqrt tracker.variance then (value - tracker.mean) / math.sqrt tracker.variance
  else 0

omit [IsStrictOrderedRing R] in
/-- What `update` returns of a value. -/
lemma update_fst (math : PyMath R) {tracker : EWMATracker R} (hvariance : 0 ≤ tracker.variance)
    (value : R) :
    (tracker.update math value).1 = .ok (zScoreOf math tracker value,
      if ¬ tracker.initialized then 1 else tracker.sampleCount + 1) := by
  rw [EWMATracker.update, zScoreOf]
  by_cases hinit : ¬ tracker.initialized
  · rw [if_pos hinit, if_pos hinit, if_pos hinit]
  · rw [if_neg hinit, if_neg (not_lt.mpr hvariance), if_neg hinit, if_neg hinit]

/-- One reading lies at least as far from the mean as another, on the same side. -/
lemma abs_zScoreOf_le (math : PyMath R) (tracker : EWMATracker R) {v v' : R}
    (h : |v - tracker.mean| ≤ |v' - tracker.mean|) :
    |zScoreOf math tracker v| ≤ |zScoreOf math tracker v'| := by
  rw [zScoreOf, zScoreOf]
  split
  · exact le_refl |(0 : R)|
  · split
    · rw [abs_div, abs_div]
      exact div_le_div_of_nonneg_right h (abs_nonneg _)
    · exact le_refl |(0 : R)|

/-! ### All detections of two readings -/

omit [Field R] [IsStrictOrderedRing R] in
/-- Each detection has a counterpart by the same method, with a severity and a score at least as
high. -/
def Covers (ds' ds : List (Detection R)) : Prop :=
  ∀ d ∈ ds, ∃ d' ∈ ds', d'.method = d.method
    ∧ severityRank d.severity ≤ severityRank d'.severity ∧ d.score ≤ d'.score

omit [Field R] [IsStrictOrderedRing R] in
lemma Covers.append {ds₁ ds₁' ds₂ ds₂' : List (Detection R)} (h₁ : Covers ds₁' ds₁)
    (h₂ : Covers ds₂' ds₂) : Covers (ds₁' ++ ds₂') (ds₁ ++ ds₂) := by
  intro d hd
  rcases List.mem_append.mp hd with hd | hd
  · obtain ⟨d', hd', h⟩ := h₁ d hd
    exact ⟨d', List.mem_append_left _ hd', h⟩
  · obtain ⟨d', hd', h⟩ := h₂ d hd
    exact ⟨d', List.mem_append_right _ hd', h⟩

omit [Field R] [IsStrictOrderedRing R] in
lemma NotMilder.covers {a b : Option (Severity × R)} (h : NotMilder a b) (method : Method)
    (reason reason' : String) :
    Covers (detection method reason' b) (detection method reason a) := by
  cases a with
  | none => exact fun d hd => absurd hd List.not_mem_nil
  | some p =>
      obtain ⟨q, hq, hseverity, hscore⟩ := h p rfl
      cases hq
      intro d hd
      cases List.mem_singleton.mp hd
      exact ⟨_, List.mem_singleton_self _, rfl, hseverity, hscore⟩

/-- `value'` is at least as far out as `value`: upwards from the mean and the maximum, or downwards
from the mean and the minimum. -/
inductive FurtherOut (tracker : EWMATracker R) (range : Option (MetricRange R)) (v v' : R) : Prop
  | above (hmean : tracker.mean ≤ v) (hmax : ∀ r ∈ range, r.max ≤ v) (hv : v ≤ v')
  | below (hmean : v ≤ tracker.mean) (hmin : ∀ r ∈ range, v ≤ r.min) (hv : v' ≤ v)

lemma FurtherOut.abs_le {tracker : EWMATracker R} {range : Option (MetricRange R)} {v v' : R}
    (h : FurtherOut tracker range v v') : |v - tracker.mean| ≤ |v' - tracker.mean| := by
  cases h with
  | above hmean hmax hv =>
      rw [abs_of_nonneg (sub_nonneg.mpr hmean), abs_of_nonneg (sub_nonneg.mpr (hmean.trans hv))]
      exact sub_le_sub_right hv _
  | below hmean hmin hv =>
      rw [abs_of_nonpos (sub_nonpos.mpr hmean), abs_of_nonpos (sub_nonpos.mpr (hv.trans hmean))]
      exact neg_le_neg (sub_le_sub_right hv _)

lemma FurtherOut.ruleCheck {tracker : EWMATracker R} {range : Option (MetricRange R)} {v v' : R}
    (h : FurtherOut tracker range v v') {r : MetricRange R} (hr : r ∈ range) :
    NotMilder (ruleCheck v r) (ruleCheck v' r) := by
  cases h with
  | above hmean hmax hv => exact ruleCheck_notMilder_above (hmax r hr) hv
  | below hmean hmin hv => exact ruleCheck_notMilder_below (hmin r hr) hv

/-- The detections of a reading further out cover those of the other. -/
lemma judge_covers (math : PyMath R) {cfg : Config R} (hthreshold : 0 < cfg.zscoreThreshold)
    {tracker : EWMATracker R} (hvariance : 0 ≤ tracker.variance)
    {range : Option (MetricRange R)} (forestScore : Option R) {v v' : R}
    (h : FurtherOut tracker range v v') :
    ∃ ds ds', judge math cfg tracker range forestScore v = .ok ds
      ∧ judge math cfg tracker range forestScore v' = .ok ds' ∧ Covers ds' ds := by
  obtain ⟨a, b, ha, hb, hab⟩ := statCheck_notMilder hthreshold
    (abs_zScoreOf_le math tracker h.abs_le)
    (if ¬ tracker.initialized then 1 else tracker.sampleCount + 1) cfg.minSamplesForZscore
  rw [judge, judge, update_fst math hvariance, update_fst math hvariance]
  simp only [bind, Except.bind, runDetectors, ha, hb]
  refine ⟨_, _, rfl, rfl, ((?_ : Covers _ _).append (hab.covers _ _ _)).append ?_⟩
  · cases range with
    | none => exact fun d hd => absurd hd List.not_mem_nil
    | some r => exact (h.ruleCheck rfl).covers _ _ _
  · cases forestScore with
    | none => exact fun d hd => absurd hd List.not_mem_nil
    | some score => exact (notMilder_refl _).covers _ _ _

/-- The scores of what is reported are not negative, if that of the forest is not. -/
lemma judge_score_nonneg (math : PyMath R) {cfg : Config R} (hthreshold : 0 < cfg.zscoreThreshold)
    {tracker : EWMATracker R} {range : Option (MetricRange R)} {forestScore : Option R}
    (hforest : ∀ score ∈ forestScore, 0 ≤ score) {value : R} {ds : List (Detection R)}
    (hds : judge math cfg tracker range forestScore value = .ok ds) :
    ∀ d ∈ ds, 0 ≤ d.score := by
  have hdetection : ∀ (method : Method) (reason : String) (a : Option (Severity × R)),
      (∀ p ∈ a, 0 ≤ p.2) → ∀ d ∈ detection method reason a, 0 ≤ d.score := by
    intro method reason a ha d hd
    cases a with
    | none => exact absurd hd List.not_mem_nil
    | some p =>
        cases List.mem_singleton.mp hd
        exact ha p rfl
  rw [judge] at hds
  obtain ⟨⟨zScore, sampleCount⟩, -, hds⟩ := bind_eq_ok_iff.mp hds
  change runDetectors math cfg value range zScore sampleCount forestScore = .ok ds at hds
  simp only [runDetectors, statCheck_eq hthreshold, bind, Except.bind] at hds
  cases hds
  refine List.forall_mem_append.mpr ⟨List.forall_mem_append.mpr ⟨?_, ?_⟩, ?_⟩
  · cases range with
    | none => exact fun d hd => absurd hd List.not_mem_nil
    | some r =>
        refine hdetection _ _ _ fun p hp => ?_
        rw [ruleCheck] at hp
        dsimp only at hp
        split_ifs at hp <;> cases hp <;> exact clamp01_nonneg _
  · refine hdetection _ _ _ fun p hp => ?_
    split_ifs at hp <;> cases hp
    exact clamp01_nonneg _
  · cases forestScore with
    | none => exact fun d hd => absurd hd List.not_mem_nil
    | some score =>
        refine hdetection _ _ _ fun p hp => ?_
        rw [isolationCheck] at hp
        split_ifs at hp <;> cases hp <;> exact hforest score rfl

/-! ### The record they are folded into -/

section Combine

omit [IsStrictOrderedRing R]

/-- One more detection: a severity or a score that is higher replaces the one so far. -/
lemma combineDetections_append (ds : List (Detection R)) (d : Detection R) :
    (combineDetections (ds ++ [d])).1
        = (if severityRank (combineDetections ds).1 < severityRank d.severity then d.severity
          else (combineDetections ds).1)
      ∧ (combineDetections (ds ++ [d])).2.1 = max (combineDetections ds).2.1 d.score := by
  rw [combineDetections, List.foldl_append, List.foldl_cons, List.foldl_nil, ← combineDetections]
  rw [max_def_lt]
  exact ⟨rfl, rfl⟩

lemma combineDetections_score (ds : List (Detection R)) :
    (combineDetections ds).2.1 = ds.foldl (fun score d => max score d.score) 0 := by
  induction ds using List.reverseRecOn with
  | nil => rfl
  | append_singleton ds d ih =>
      rw [(combineDetections_append ds d).2, ih, List.foldl_append, List.foldl_cons,
        List.foldl_nil]

lemma combineDetections_severity (ds : List (Detection R)) :
    severityRank (combineDetections ds).1
      = ds.foldl (fun rank d => max rank (severityRank d.severity)) 0 := by
  induction ds using List.reverseRecOn with
  | nil => rfl
  | append_singleton ds d ih =>
      rw [(combineDetections_append ds d).1, List.foldl_append, List.foldl_cons, List.foldl_nil,
        ← ih]
      split
      · rename_i hlt
        exact (max_eq_right hlt.le).symm
      · rename_i hge
        exact (max_eq_left (not_lt.mp hge)).symm

/-- The score is the greatest of zero and the scores. -/
theorem isGreatest_score (ds : List (Detection R)) :
    IsGreatest (insert 0 {x | ∃ d ∈ ds, d.score = x}) (combineDetections ds).2.1 := by
  rw [combineDetections_score]
  exact isGreatest_foldl_max _ _ ds

/-- The rank of the severity is the greatest of that of INFO and those of the severities. -/
theorem isGreatest_severity (ds : List (Detection R)) :
    IsGreatest (insert 0 {n | ∃ d ∈ ds, severityRank d.severity = n})
      (severityRank (combineDetections ds).1) := by
  rw [combineDetections_severity]
  exact isGreatest_foldl_max _ _ ds

lemma severityRank_injective : Function.Injective severityRank := by
  intro a b h
  cases a <;> cases b <;> first | rfl | cases h

/-- Neither the severity nor the score depends on the order of the detections. -/
lemma combineDetections_perm {ds ds' : List (Detection R)} (h : ds.Perm ds') :
    (combineDetections ds).1 = (combineDetections ds').1
      ∧ (combineDetections ds).2.1 = (combineDetections ds').2.1 := by
  constructor
  · refine severityRank_injective ((isGreatest_severity ds).unique ?_)
    simp only [h.mem_iff]
    exact isGreatest_severity ds'
  · refine (isGreatest_score ds).unique ?_
    simp only [h.mem_iff]
    exact isGreatest_score ds'

/-- Detections that cover others are combined into a record at least as severe. -/
lemma Covers.combineDetections {ds ds' : List (Detection R)} (h : Covers ds' ds) :
    severityRank (combineDetections ds).1 ≤ severityRank (AnomalyDetector.combineDetections ds').1
      ∧ (AnomalyDetector.combineDetections ds).2.1
        ≤ (AnomalyDetector.combineDetections ds').2.1 := by
  constructor
  · rcases (isGreatest_severity ds).1 with hzero | ⟨d, hd, hd'⟩
    · rw [hzero]
      exact Nat.zero_le _
    · obtain ⟨d', hmem, -, hseverity, -⟩ := h d hd
      rw [← hd']
      exact hseverity.trans ((isGreatest_severity ds').2 (.inr ⟨d', hmem, rfl⟩))
  · rcases (isGreatest_score ds).1 with hzero | ⟨d, hd, hd'⟩
    · rw [hzero]
      exact (isGreatest_score ds').2 (.inl rfl)
    · obtain ⟨d', hmem, -, -, hscore⟩ := h d hd
      rw [← hd']
      exact hscore.trans ((isGreatest_score ds').2 (.inr ⟨d', hmem, rfl⟩))

end Combine

/-! ### Worse readings -/

/-- **A worse reading never looks milder**: all methods that report a reading report one further
out, and the record it is combined into has a severity and a score at least as high.  The severity
and the score of a record do not depend on the order of its detections, and are the maxima over
them; scores are never negative, as the score of a forest is not. -/
theorem worse_not_milder (math : PyMath R) {cfg : Config R} (hthreshold : 0 < cfg.zscoreThreshold)
    {tracker : EWMATracker R} (hvariance : 0 ≤ tracker.variance) :
    (∀ (range : Option (MetricRange R)) (forestScore : Option R) (v v' : R),
        FurtherOut tracker range v v' →
          ∃ ds ds', judge math cfg tracker range forestScore v = .ok ds
            ∧ judge math cfg tracker range forestScore v' = .ok ds'
            ∧ (∀ m ∈ ds.map Detection.method, m ∈ ds'.map Detection.method)
            ∧ severityRank (combineDetections ds).1 ≤ severityRank (combineDetections ds').1
            ∧ (combineDetections ds).2.1 ≤ (combineDetections ds').2.1)
      ∧ (∀ ds ds' : List (Detection R), ds.Perm ds' →
          (combineDetections ds).1 = (combineDetections ds').1
            ∧ (combineDetections ds).2.1 = (combineDetections ds').2.1)
      ∧ (∀ ds : List (Detection R), ds ≠ [] →
          IsGreatest {n | ∃ d ∈ ds, severityRank d.severity = n}
            (severityRank (combineDetections ds).1))
      ∧ (∀ ds : List (Detection R), ds ≠ [] → (∀ d ∈ ds, 0 ≤ d.score) →
          IsGreatest {x | ∃ d ∈ ds, d.score = x} (combineDetections ds).2.1)
      ∧ ∀ (range : Option (MetricRange R)) (forestScore : Option R) (v : R)
          (ds : List (Detection R)), (∀ score ∈ forestScore, 0 ≤ score) →
          judge math cfg tracker range forestScore v = .ok ds → ∀ d ∈ ds, 0 ≤ d.score := by
  refine ⟨fun range forestScore v v' h => ?_, fun ds ds' => combineDetections_perm,
    fun ds hne => ?_, fun ds hne hscores => ?_, fun range forestScore v ds hforest => ?_⟩
  · obtain ⟨ds, ds', hds, hds', hcovers⟩ :=
      judge_covers math hthreshold hvariance forestScore h
    refine ⟨ds, ds', hds, hds', fun m hm => ?_, hcovers.combineDetections⟩
    obtain ⟨d, hd, rfl⟩ := List.mem_map.mp hm
    obtain ⟨d', hd', hmethod, -⟩ := hcovers d hd
    exact List.mem_map.mpr ⟨d', hd', hmethod⟩
  · exact isGreatest_of_insert hne (fun _ _ => Nat.zero_le _) (isGreatest_severity ds)
  · exact isGreatest_of_insert hne hscores (isGreatest_score ds)
  · exact judge_score_nonneg math hthreshold hforest

/-- A series of forty samples with mean zero and variance one. -/
def fortySamples : EWMATracker ℚ := ⟨1 / 10, 0, 1, 40, true⟩

theorem worse_not_milder_spike :
    ∃ ds ds', judge unitMath .default fortySamples (some ⟨-5, 5⟩) none 6 = .ok ds
      ∧ judge unitMath .default fortySamples (some ⟨-5, 5⟩) none 20 = .ok ds'
      ∧ (∀ m ∈ ds.map Detection.method, m ∈ ds'.map Detection.method)
      ∧ severityRank (combineDetections ds).1 ≤ severityRank (combineDetections ds').1
      ∧ (combineDetections ds).2.1 ≤ (combineDetections ds').2.1 := by
  have hthreshold : 0 < (Config.default : Config ℚ).zscoreThreshold := by decide
  have hvariance : 0 ≤ fortySamples.variance := by decide
  refine (worse_not_milder unitMath hthreshold hvariance).1 _ none 6 20
    (.above (by decide) ?_ (by decide))
  rintro r ⟨⟩
  decide

end AnomalyDetector

end InduSense
