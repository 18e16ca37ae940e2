import InduSense.Shared.Events

/-!
The series of recent samples: `window.py` and `registry.py` of the stream processor.

* `Timestamp`: the timestamp of an event, which may be missing, with its comparisons.
* `SeriesBuffer.add`: insertion by event time, with the trim.
* `SeriesRegistry.record`: one buffer for each device and metric.

An exception part of the way leaves what has been written up to there.
-/

namespace InduSense

/-- `timestamp: datetime | None`. -/
abbrev Timestamp := Option Datetime

namespace Timestamp

/-- `type(t).__name__`, as the messages show it. -/
def typeName : Timestamp → String
  | none => "NoneType"
  | some _ => "datetime.datetime"

/-- `a > b`. -/
def gt : Timestamp → Timestamp → Except PyError Bool
  | some a, some b => a.gt b
  | a, b => .error ⟨.typeError, "'>' not supported between instances of '" ++ typeName a
      ++ "' and '" ++ typeName b ++ "'"⟩

/-- `a < b`. -/
def lt : Timestamp → Timestamp → Except PyError Bool
  | some a, some b => b.gt a
  | a, b => .error ⟨.typeError, "'<' not supported between instances of '" ++ typeName a
      ++ "' and '" ++ typeName b ++ "'"⟩

/-- `t - delta`. -/
def sub (delta : Time) : Timestamp → Except PyError Timestamp
  | some d => (d.sub delta).map some
  | none => .error ⟨.typeError,
      "unsupported operand type(s) for -: 'NoneType' and 'datetime.timedelta'"⟩

end Timestamp

namespace StreamProcessor

variable {R : Type}

/-- `Sample`. -/
structure Sample (R : Type) where
  «at» : Timestamp
  value : R
  deriving DecidableEq

/-- `SeriesBuffer`: the samples, oldest first, and `_max_window`. -/
structure SeriesBuffer (R : Type) where
  maxWindow : Time
  samples : List (Sample R) := []
  deriving DecidableEq

namespace SeriesBuffer

/-- The first loop of `add`, from the newest sample down: skip what is newer. -/
def insertByTime (s : Sample R) : List (Sample R) → Except PyError (List (Sample R))
  | [] => .ok [s]
  | x :: older => do
      if ← Timestamp.gt x.at s.at then return x :: (← insertByTime s older)
      else return s :: x :: older

/-- The second loop of `add`, from the oldest sample up: drop what is before the cutoff. -/
def dropOld (cutoff : Timestamp) : List (Sample R) → Except PyError (List (Sample R))
  | [] => .ok []
  | x :: newer => do
      if ← Timestamp.lt x.at cutoff then dropOld cutoff newer else return x :: newer

/-- The trim of `add`, against the newest sample. -/
def trim (maxWindow : Time) (newest : Sample R) (samples : List (Sample R)) :
    Except PyError (List (Sample R)) := do
  let cutoff ← Timestamp.sub maxWindow newest.at
  dropOld cutoff samples

/-- `SeriesBuffer.add`, with the buffer it leaves. -/
def add (buf : SeriesBuffer R) («at» : Timestamp) (value : R) :
    Except PyError Unit × SeriesBuffer R :=
  match insertByTime ⟨«at», value⟩ buf.samples.reverse with
  | .error e => (.error e, buf)
  | .ok [] => (.ok (), buf)
  | .ok (newest :: older) =>
      let samples := (newest :: older).reverse
      match trim buf.maxWindow newest samples with
      | .error e => (.error e, { buf with samples := samples })
      | .ok kept => (.ok (), { buf with samples := kept })

end SeriesBuffer

/-- `SeriesKey`. -/
structure SeriesKey where
  factoryId : String := ""
  productionLineId : String := ""
  machineId : String := ""
  deviceId : String := ""
  sensorId : String := ""
  metric : String := ""
  deriving DecidableEq

/-- `SeriesKey.id`. -/
def SeriesKey.id (key : SeriesKey) : String := key.deviceId ++ "|" ++ key.metric

/-- `TrackedSeries`. -/
structure TrackedSeries (R : Type) where
  key : SeriesKey
  buf : SeriesBuffer R
  deriving DecidableEq

/-- `SeriesRegistry`: the tracked series, in the order they were first seen. -/
structure SeriesRegistry (R : Type) where
  maxWindow : Time
  series : List (TrackedSeries R) := []
  deriving DecidableEq

namespace SeriesRegistry

/-- The series of an id: of the key that was recorded first. -/
def find (registry : SeriesRegistry R) (id : String) : Option (TrackedSeries R) :=
  registry.series.find? fun s => s.key.id = id

/-- The buffers with the one of an id replaced. -/
def setBuf (registry : SeriesRegistry R) (id : String) (buf : SeriesBuffer R) :
    SeriesRegistry R :=
  { registry with
    series := registry.series.map fun s => if s.key.id = id then { s with buf := buf } else s }

/-- `SeriesRegistry.record`, with the registry it leaves. -/
def record (registry : SeriesRegistry R) (key : SeriesKey) («at» : Timestamp) (value : R) :
    Except PyError Unit × SeriesRegistry R :=
  match registry.find key.id with
  | some s =>
      let (result, buf) := s.buf.add «at» value
      (result, registry.setBuf key.id buf)
  | none =>
      let (result, buf) := SeriesBuffer.add ⟨registry.maxWindow, []⟩ «at» value
      (result, { registry with series := registry.series ++ [⟨key, buf⟩] })

end SeriesRegistry

end StreamProcessor

end InduSense
