import Mathlib.Algebra.Order.Round
import InduSense.Shared.Events

/-!
What the simulator draws for a sensor and a machine: `simulator/sensorgen.py`, `faults.py` and
`machine.py`.

* `Random`: a generator of random numbers, `random.Random`.
* `SensorGenerator.next`: the next reading.
* `decideFaults`, `sensorShouldFail`, `shouldToggle`: the faults.

Floats are exact here, as in the rest of the pipeline.
-/

namespace InduSense

namespace Simulator

/-- `random.Random`: what `random()` and `gauss(0, 1)` return, with the generator they leave. -/
structure Random (G : Type) where
  random : G → ℚ × G
  gauss : G → ℚ × G
  random_nonneg : ∀ g, 0 ≤ (random g).1
  random_lt_one : ∀ g, (random g).1 < 1

variable {G : Type} (rng : Random G)

/-! ### Readings -/

/-- `DRIFT_MAX_STEP`. -/
def driftMaxStep : ℚ := 1 / 100

/-- `REVERSION_PULL`. -/
def reversionPull : ℚ := 5 / 100

/-- `NOISE_FRACTION`. -/
def noiseFraction : ℚ := 1 / 100

/-- `SPIKE_MIN_FRAC`. -/
def spikeMinFrac : ℚ := 3 / 10

/-- `SPIKE_MAX_FRAC`. -/
def spikeMaxFrac : ℚ := 9 / 10

/-- `clamp`. -/
def clamp (v lo hi : ℚ) : ℚ := if v < lo then lo else if hi < v then hi else v

/-- `round(x)`: to the nearest integer, a tie to the even one. -/
def roundHalfEven (x : ℚ) : ℤ :=
  if Int.fract x = 1 / 2 then if Even ⌊x⌋ then ⌊x⌋ else ⌊x⌋ + 1 else round x

/-- `SensorGenerator`, without the generator of random numbers it shares with its sensor. -/
structure SensorGenerator where
  min : ℚ
  max : ℚ
  baseline : ℚ
  driftStep : ℚ
  anomalyRate : ℚ

namespace SensorGenerator

/-- `SensorGenerator.__init__`. -/
def init (lo hi anomalyRate : ℚ) : SensorGenerator := ⟨lo, hi, (lo + hi) / 2, 0, anomalyRate⟩

/-- `_mid`. -/
def mid (gen : SensorGenerator) : ℚ := (gen.min + gen.max) / 2

/-- `range_span`. -/
def rangeSpan (gen : SensorGenerator) : ℚ := gen.max - gen.min

/-- The drift of the baseline, by one draw. -/
def drift (gen : SensorGenerator) (draw : ℚ) : SensorGenerator :=
  let driftStep := gen.driftStep + (draw * 2 - 1) * driftMaxStep * gen.rangeSpan
  let pull := (gen.mid - gen.baseline) * reversionPull
  { gen with
    driftStep
    baseline := clamp (gen.baseline + (driftStep * (1 / 10) + pull)) gen.min gen.max }

/-- The spike of an anomaly, by the draws of its magnitude and its sign. -/
def spike (gen : SensorGenerator) (magnitude sign : ℚ) : ℚ :=
  (if 1 / 2 ≤ sign then 1 else -1)
    * ((spikeMinFrac + magnitude * (spikeMaxFrac - spikeMinFrac)) * gen.rangeSpan)

/-- `SensorGenerator.next`: the reading, whether it is an anomaly, and what is left. -/
def next (gen : SensorGenerator) (g : G) : (ℚ × Bool) × SensorGenerator × G :=
  let (draw, g) := rng.random g
  let gen := gen.drift draw
  let (noise, g) := rng.gauss g
  let value := gen.baseline + noise * noiseFraction * gen.rangeSpan
  let (anomaly, g) := rng.random g
  if anomaly < gen.anomalyRate then
    let (magnitude, g) := rng.random g
    let (sign, g) := rng.random g
    (((roundHalfEven ((value + gen.spike magnitude sign) * 100) : ℚ) / 100, true), gen, g)
  else (((roundHalfEven (value * 100) : ℚ) / 100, false), gen, g)

end SensorGenerator

/-! ### Faults -/

/-- The settings of the simulator that its sensors read. -/
structure Config where
  anomalyRate : ℚ := 2 / 100
  duplicateRate : ℚ := 1 / 100
  outOfOrderRate : ℚ := 2 / 100
  networkDelayRate : ℚ := 3 / 100
  sensorFailureRate : ℚ := 5 / 1000
  publisherWorkers : ℕ := 32
  queueCapacity : ℤ := 20000

/-- `FaultDecision`. -/
structure FaultDecision where
  duplicate : Bool := false
  outOfOrder : Bool := false
  delayed : Bool := false
  delayFor : ℚ := 0
  deriving DecidableEq

/-- `decide_faults`. -/
def decideFaults (cfg : Config) (g : G) : FaultDecision × G :=
  let (draw, g) := rng.random g
  let d : FaultDecision := { duplicate := draw < cfg.duplicateRate }
  let (draw, g) := rng.random g
  let (d, g) :=
    if draw < cfg.networkDelayRate then
      let (jitter, g) := rng.random g
      ({ d with delayed := true, delayFor := 1 / 10 + jitter * (49 / 10) }, g)
    else (d, g)
  let (draw, g) := rng.random g
  if draw < cfg.outOfOrderRate then
    let d := { d with outOfOrder := true }
    (if d.delayed then d else { d with delayed := true, delayFor := 1 / 2 }, g)
  else (d, g)

/-- `sensor_should_fail`. -/
def sensorShouldFail (currentlyFailed : Bool) (failureRate : ℚ) (g : G) : Bool × G :=
  let (draw, g) := rng.random g
  if currentlyFailed then (1 / 10 ≤ draw, g) else (draw < failureRate, g)

/-- `should_toggle`. -/
def shouldToggle (running : Bool) (g : G) : Bool × G :=
  let (draw, g) := rng.random g
  if running then (draw < 5 / 10000, g) else (draw < 5 / 100, g)

end Simulator

end InduSense
