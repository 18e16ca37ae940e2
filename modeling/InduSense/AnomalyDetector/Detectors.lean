import InduSense.Shared.Events

/-!
The three detection levels: `rules.py`, `stats.py`, `isolationforest.py` and `detect.py`.

* `PyMath`: what the code uses of `math` and of float formatting.
* `ruleCheck`; `EWMATracker.update`, `statCheck`; `IsolationForest.score`, `isolationCheck`.
* `runDetectors`, `combineDetections`: all that fired, folded into one record.

Readings are of an ordered field `R`, so what is proved about them holds of any arithmetic whose
rounding the code does not depend on.
-/

namespace InduSense

namespace AnomalyDetector

/-- The functions of `math`, and the text of a number with `digits` decimals. -/
structure PyMath (R : Type) where
  sqrt : R → R
  log : R → R
  /-- `math.pow(2, x)`. -/
  pow2 : R → R
  /-- `f"{x:.{digits}f}"`. -/
  fixed : ℕ → R → String

/-- `Config`, as far as the detectors read it. -/
structure Config (R : Type) where
  ewmaAlpha : R
  zscoreThreshold : R
  minSamplesForZscore : ℤ
  forestTrainingBufferSize : ℤ
  forestScoreThreshold : R

variable {R : Type} [Field R]

/-- `load_config` in an empty environment. -/
def Config.default : Config R where
  ewmaAlpha := 1 / 10
  zscoreThreshold := 3
  minSamplesForZscore := 30
  forestTrainingBufferSize := 512
  forestScoreThreshold := 62 / 100

variable [LinearOrder R]

/-! ### Level 1: operating ranges -/

/-- `MetricRange`. -/
structure MetricRange (R : Type) where
  min : R
  max : R
  deriving DecidableEq

/-- `clamp01`. -/
def clamp01 (v : R) : R := if v < 0 then 0 else if 1 < v then 1 else v

/-- The severity of an overshoot. -/
def overshootSeverity (overshoot : R) : Severity :=
  if 1 / 2 ≤ overshoot then .CRITICAL
  else if 1 / 5 ≤ overshoot then .HIGH
  else .WARNING

/-- `rule_check`: the severity and the score, if the check fired. -/
def ruleCheck (value : R) (r : MetricRange R) : Option (Severity × R) :=
  let span := r.max - r.min
  if span ≤ 0 then none
  else if r.max < value then
    let overshoot := (value - r.max) / span
    some (overshootSeverity overshoot, clamp01 overshoot)
  else if value < r.min then
    let overshoot := (r.min - value) / span
    some (overshootSeverity overshoot, clamp01 overshoot)
  else none

/-! ### Level 2: the EWMA z-score -/

/-- `EWMATracker`. -/
structure EWMATracker (R : Type) where
  alpha : R
  mean : R
  variance : R
  sampleCount : ℤ
  initialized : Bool
  deriving DecidableEq

namespace EWMATracker

/-- A tracker without samples. -/
def init (alpha : R) : EWMATracker R := ⟨alpha, 0, 0, 0, false⟩

/-- `EWMATracker.update`: the z-score against the baseline before the sample and the number of
samples, with the tracker it leaves. -/
def update (math : PyMath R) (tracker : EWMATracker R) (value : R) :
    Except PyError (R × ℤ) × EWMATracker R :=
  if ¬ tracker.initialized then
    (.ok (0, 1),
      { tracker with mean := value, variance := 0, initialized := true, sampleCount := 1 })
  else if tracker.variance < 0 then (.error ⟨.valueError, "math domain error"⟩, tracker)
  else
    let stddev := math.sqrt tracker.variance
    let zScore := if 0 < stddev then (value - tracker.mean) / stddev else 0
    let delta := value - tracker.mean
    (.ok (zScore, tracker.sampleCount + 1),
      { tracker with
        mean := tracker.mean + tracker.alpha * delta
        variance := (1 - tracker.alpha) * (tracker.variance + tracker.alpha * delta * delta)
        sampleCount := tracker.sampleCount + 1 })

end EWMATracker

/-- `StatisticalTrackers`. -/
structure StatisticalTrackers (R : Type) where
  alpha : R
  trackers : String → Option (EWMATracker R)

namespace StatisticalTrackers

/-- No series yet. -/
def init (alpha : R) : StatisticalTrackers R := ⟨alpha, fun _ => none⟩

/-- `StatisticalTrackers.update`, with the trackers it leaves. -/
def update (math : PyMath R) (t : StatisticalTrackers R) (deviceId metric : String) (value : R) :
    Except PyError (R × ℤ) × StatisticalTrackers R :=
  let key := deviceId ++ "|" ++ metric
  let (result, tracker) := ((t.trackers key).getD (.init t.alpha)).update math value
  (result, { t with trackers := Function.update t.trackers key (some tracker) })

end StatisticalTrackers

/-- `stat_check`. -/
def statCheck (zScore : R) (sampleCount minSamples : ℤ) (threshold : R) :
    Except PyError (Option (Severity × R)) :=
  if sampleCount < minSamples then .ok none
  else
    let absZ := |zScore|
    if absZ < threshold then .ok none
    else if threshold * 2 = 0 then .error ⟨.zeroDivisionError, "float division by zero"⟩
    else
      let severity : Severity :=
        if threshold * (16 / 10) ≤ absZ then .CRITICAL
        else if threshold * (13 / 10) ≤ absZ then .HIGH
        else .WARNING
      .ok (some (severity, clamp01 (absZ / (threshold * 2))))

/-! ### Level 3: the isolation forest -/

/-- `_ITreeNode`. -/
inductive ITree (R : Type) where
  | leaf (size : ℕ)
  | node (splitFeature : ℕ) (splitValue : R) (left right : ITree R)

/-- `average_path_length_normalizer`. -/
def averagePathLengthNormalizer (math : PyMath R) (n : ℕ) : R :=
  if n ≤ 1 then 0
  else if n = 2 then 1
  else
    let harmonic := math.log ((n : R) - 1) + 5772156649 / 10000000000
    2 * harmonic - 2 * ((n : R) - 1) / n

/-- `_path_length`; a vector too short for a split raises. -/
def pathLength (math : PyMath R) (x : List R) : ITree R → ℕ → Except PyError R
  | .leaf size, depth => .ok (depth + averagePathLengthNormalizer math size)
  | .node splitFeature splitValue left right, depth =>
      match x[splitFeature]? with
      | none => .error ⟨.indexError, "list index out of range"⟩
      | some v =>
          if v < splitValue then pathLength math x left (depth + 1)
          else pathLength math x right (depth + 1)

/-- `IsolationForest`, as far as it is scored. -/
structure IsolationForest (R : Type) where
  trees : List (ITree R)
  avgPathNormC : R

/-- `IsolationForest.score`. -/
def IsolationForest.score (math : PyMath R) (forest : IsolationForest R) (x : List R) :
    Except PyError R :=
  if forest.trees = [] ∨ forest.avgPathNormC = 0 then .ok 0
  else do
    let lengths ← forest.trees.mapM fun tree => pathLength math x tree 0
    let avgPath := lengths.sum / (forest.trees.length : R)
    return math.pow2 (-avgPath / forest.avgPathNormC)

/-- `isolation_check`. -/
def isolationCheck (score threshold : R) : Option (Severity × R) :=
  if score < threshold then none
  else
    let severity : Severity :=
      if 3 / 4 ≤ score then .CRITICAL
      else if threshold + 6 / 100 ≤ score then .HIGH
      else .WARNING
    some (severity, score)

/-! ### All three -/

/-- The methods of detection. -/
inductive Method where
  | RULE
  | STATISTICAL
  | ISOLATION_FOREST
  deriving DecidableEq

/-- The method as the text of the record. -/
def Method.text : Method → String
  | RULE => "RULE"
  | STATISTICAL => "STATISTICAL"
  | ISOLATION_FOREST => "ISOLATION_FOREST"

/-- `Detection`. -/
structure Detection (R : Type) where
  method : Method
  severity : Severity
  score : R
  reason : String
  deriving DecidableEq

/-- `_SEVERITY_RANK`. -/
def severityRank : Severity → ℕ
  | .INFO => 0
  | .WARNING => 1
  | .HIGH => 2
  | .CRITICAL => 3

/-- The detection of one level, if it fired. -/
def detection (method : Method) (reason : String) :
    Option (Severity × R) → List (Detection R)
  | none => []
  | some (severity, score) => [⟨method, severity, score, reason⟩]

/-- `run_detectors`; the range and the forest's score may be missing. -/
def runDetectors (math : PyMath R) (cfg : Config R) (value : R) (range : Option (MetricRange R))
    (zScore : R) (sampleCount : ℤ) (forestScore : Option R) :
    Except PyError (List (Detection R)) := do
  let byRule := match range with
    | none => []
    | some r => detection .RULE ("value " ++ math.fixed 2 value
        ++ " outside safe operating range [" ++ math.fixed 2 r.min ++ ", " ++ math.fixed 2 r.max
        ++ "]") (ruleCheck value r)
  let byStat := detection .STATISTICAL ("z-score " ++ math.fixed 2 zScore ++ " exceeds threshold "
    ++ math.fixed 2 cfg.zscoreThreshold ++ " against rolling baseline")
    (← statCheck zScore sampleCount cfg.minSamplesForZscore cfg.zscoreThreshold)
  let byForest := match forestScore with
    | none => []
    | some score => detection .ISOLATION_FOREST ("isolation forest anomaly score "
        ++ math.fixed 3 score ++ " exceeds threshold " ++ math.fixed 3 cfg.forestScoreThreshold)
        (isolationCheck score cfg.forestScoreThreshold)
  return byRule ++ byStat ++ byForest

/-- `combine_detections`: the severity, the score, the methods and the reason. -/
def combineDetections (results : List (Detection R)) : Severity × R × List String × String :=
  results.foldl
    (fun (severity, score, methods, reason) r =>
      (if severityRank severity < severityRank r.severity then r.severity else severity,
        if score < r.score then r.score else score,
        methods ++ [r.method.text],
        if reason = "" then r.reason else reason ++ "; " ++ r.reason))
    (.INFO, 0, [], "")

end AnomalyDetector

end InduSense
