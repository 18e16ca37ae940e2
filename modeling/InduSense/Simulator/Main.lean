import InduSense.Simulator.Sensors
import InduSense.Ingestion.Sink
import InduSense.Shared.TelemetryFormat

/-!
The simulator: `simulator/main.py`, with the catalog of `loader.py`.

* `loadSensorCatalog`: the sensors, with the ids and checks of their tables.
* `runSensor`, `runMachineController`: one round of the loops of the tasks, which run one at a time
  on the event loop; `Output.actions`: what they do there.
* `Simulation`, `Simulation.step`: the event loop, its sleeping tasks, the queue, and the threads
  that publish, under any schedule.
-/

namespace InduSense

namespace Simulator

/-! ### The catalog -/

/-- A row of the query of `load_sensor_catalog`.  The ids are UUIDs, and `sensors.metric` has a
`CHECK` constraint. -/
structure SensorRow where
  organizationId : Uuid
  factoryId : Uuid
  productionLineId : Uuid
  machineId : Uuid
  deviceId : Uuid
  sensorId : Uuid
  metric : { metric : String // metric ∈ Ingestion.validMetrics }
  unit : String
  minOperatingValue : Option ℚ
  maxOperatingValue : Option ℚ

/-- `SensorCatalogEntry`. -/
structure SensorCatalogEntry where
  organizationId : String
  factoryId : String
  productionLineId : String
  machineId : String
  deviceId : String
  sensorId : String
  metric : String
  unit : String
  minValue : ℚ
  maxValue : ℚ

/-- The entry of a row, with the defaults of the query. -/
def SensorRow.entry (r : SensorRow) : SensorCatalogEntry where
  organizationId := r.organizationId.str
  factoryId := r.factoryId.str
  productionLineId := r.productionLineId.str
  machineId := r.machineId.str
  deviceId := r.deviceId.str
  sensorId := r.sensorId.str
  metric := r.metric
  unit := r.unit
  minValue := r.minOperatingValue.getD 0
  maxValue := r.maxOperatingValue.getD 100

/-- `load_sensor_catalog`, of the rows in the order of their ids. -/
def loadSensorCatalog (rows : List SensorRow) (limit : ℕ) : List SensorCatalogEntry :=
  (rows.take limit).map SensorRow.entry

/-! ### What is published -/

/-- The models the simulator publishes. -/
inductive PayloadModel where
  | telemetry (evt : TelemetryEvent ℚ)
  | machineEvent (evt : MachineEvent)
  | machineStatus (evt : MachineStatusEvent)
  deriving DecidableEq

/-- `PublishJob`, before its payload is dumped as JSON. -/
structure PublishJob where
  topic : String
  payload : PayloadModel
  deriving DecidableEq

namespace SensorCatalogEntry

variable (entry : SensorCatalogEntry)

/-- `telemetry_topic`. -/
def telemetryTopic : String :=
  "factory/" ++ entry.factoryId ++ "/machine/" ++ entry.machineId ++ "/sensor/" ++ entry.sensorId
    ++ "/telemetry"

/-- `events_topic`. -/
def eventsTopic : String :=
  "factory/" ++ entry.factoryId ++ "/machine/" ++ entry.machineId ++ "/events"

/-- `status_topic`. -/
def statusTopic : String :=
  "factory/" ++ entry.factoryId ++ "/machine/" ++ entry.machineId ++ "/status"

end SensorCatalogEntry

/-- `Stats`. -/
structure Stats where
  published : ℕ := 0
  duplicates : ℕ := 0
  delayed : ℕ := 0
  outOfOrder : ℕ := 0
  anomalies : ℕ := 0
  dropped : ℕ := 0
  sensorFailed : ℕ := 0
  publishErrs : ℕ := 0
  deriving DecidableEq

/-- The names of the counters that the event loop increments itself. -/
inductive StatsField where
  | duplicates
  | delayed
  | outOfOrder
  | anomalies
  | sensorFailed
  deriving DecidableEq

/-- `Stats.inc` of one of them. -/
def Stats.inc (stats : Stats) : StatsField → Stats
  | .duplicates => { stats with duplicates := stats.duplicates + 1 }
  | .delayed => { stats with delayed := stats.delayed + 1 }
  | .outOfOrder => { stats with outOfOrder := stats.outOfOrder + 1 }
  | .anomalies => { stats with anomalies := stats.anomalies + 1 }
  | .sensorFailed => { stats with sensorFailed := stats.sensorFailed + 1 }

/-! ### The tasks -/

/-- What a task does on the event loop: it increments a counter, puts a job into the queue unless
the queue is full, or creates the task `delayed_send` of a reading. -/
inductive Action where
  | inc (field : StatsField)
  | enqueue (job : PublishJob)
  | delayedSend (job : PublishJob) (duplicate : Bool)
  deriving DecidableEq

/-- A reading is sent, twice if it is a duplicate. -/
def sends (job : PublishJob) (duplicate : Bool) : List Action :=
  .enqueue job :: if duplicate then [.inc .duplicates, .enqueue job] else []

/-- `_publish_event`. -/
def publishEvent (evt : TelemetryEvent ℚ) (topic : String) (fd : FaultDecision) : List Action :=
  if fd.delayed then
    .inc .delayed :: ((if fd.outOfOrder then [.inc .outOfOrder] else [])
      ++ [.delayedSend ⟨topic, .telemetry evt⟩ fd.duplicate])
  else sends ⟨topic, .telemetry evt⟩ fd.duplicate

/-- The machine event of a sensor that fails or recovers. -/
def sensorEvent (entry : SensorCatalogEntry) (failed : Bool) (now : Datetime) : PublishJob :=
  ⟨entry.eventsTopic, .machineEvent
    { organizationId := entry.organizationId, factoryId := entry.factoryId,
      machineId := entry.machineId, deviceId := entry.deviceId, sensorId := entry.sensorId,
      eventType := if failed then "SENSOR_FAILURE" else "SENSOR_RECOVERED",
      timestamp := some now }⟩

/-- The reading of a sensor. -/
def sensorReading (entry : SensorCatalogEntry) (eventId : Uuid) (now : Datetime) (seq : ℤ)
    (value : ℚ) : TelemetryEvent ℚ where
  eventId := eventId.str
  organizationId := entry.organizationId
  factoryId := entry.factoryId
  productionLineId := entry.productionLineId
  machineId := entry.machineId
  deviceId := entry.deviceId
  sensorId := entry.sensorId
  timestamp := some now
  sequenceNumber := seq
  metric := entry.metric
  value := value
  unit := entry.unit

/-- `new_status`. -/
def newStatus (running : Bool) : String := if running then "RUNNING" else "STOPPED"

/-- The status message of a machine that stops or starts. -/
def statusMessage (entry : SensorCatalogEntry) (running : Bool) (now : Datetime) : PublishJob :=
  ⟨entry.statusTopic, .machineStatus
    { organizationId := entry.organizationId, factoryId := entry.factoryId,
      machineId := entry.machineId, status := newStatus running, timestamp := some now }⟩

/-- Its machine event. -/
def machineMessage (entry : SensorCatalogEntry) (running : Bool) (now : Datetime) : PublishJob :=
  ⟨entry.eventsTopic, .machineEvent
    { organizationId := entry.organizationId, factoryId := entry.factoryId,
      machineId := entry.machineId, deviceId := entry.deviceId,
      eventType := "MACHINE_" ++ newStatus running, timestamp := some now }⟩

/-- What a round of a task comes to. -/
inductive Output where
  | sensorFailed (entry : SensorCatalogEntry) (now : Datetime)
  | sensorRecovered (entry : SensorCatalogEntry) (now : Datetime)
  | anomaly
  | reading (evt : TelemetryEvent ℚ) (topic : String) (fd : FaultDecision)
  | machineChanged (entry : SensorCatalogEntry) (running : Bool) (now : Datetime)

/-- What the task does then. -/
def Output.actions : Output → List Action
  | sensorFailed entry now => [.inc .sensorFailed, .enqueue (sensorEvent entry true now)]
  | sensorRecovered entry now => [.enqueue (sensorEvent entry false now)]
  | anomaly => [.inc .anomalies]
  | reading evt topic fd => publishEvent evt topic fd
  | machineChanged entry running now =>
      [.enqueue (statusMessage entry running now), .enqueue (machineMessage entry running now)]

/-- The local variables of `_run_sensor`. -/
structure SensorState (G : Type) where
  rng : G
  gen : SensorGenerator
  seq : ℤ
  failed : Bool

variable {G : Type} (rng : Random G) (cfg : Config)

/-- One round of the loop of `_run_sensor`, after its wait. -/
def runSensor (entry : SensorCatalogEntry) (running : Bool) (eventId : Uuid) (now : Datetime)
    (s : SensorState G) : SensorState G × List Output :=
  -- the draw of `jitter()`
  let (_, g) := rng.random s.rng
  if running then
    let (failed, g) := sensorShouldFail rng s.failed cfg.sensorFailureRate g
    let change : List Output :=
      if failed = s.failed then []
      else if failed then [.sensorFailed entry now] else [.sensorRecovered entry now]
    if failed then ({ s with rng := g, failed }, change)
    else
      let seq := s.seq + 1
      let ((value, isAnomaly), gen, g) := s.gen.next rng g
      let (fd, g) := decideFaults rng cfg g
      ({ rng := g, gen, seq, failed },
        change ++ ((if isAnomaly then [.anomaly] else [])
          ++ [.reading (sensorReading entry eventId now seq value) entry.telemetryTopic fd]))
  else ({ s with rng := g }, [])

/-- One round of the loop of `_run_machine_controller`: whether the machine runs from now on. -/
def runMachineController (entry : SensorCatalogEntry) (running : Bool) (now : Datetime) (g : G) :
    Bool × G × List Output :=
  let (toggle, g) := shouldToggle rng running g
  if toggle then (!running, g, [.machineChanged entry (!running) now]) else (running, g, [])

/-! ### The simulation -/

/-- The state of a simulation: the local variables of the tasks of the sensors, by their place in
the catalog; the `MachineController`s and the random numbers of their tasks, by device id; what the
task that has the event loop has yet to do; the tasks `delayed_send` that sleep; the queue, the jobs
that threads are publishing, and the counters.  The last five fields are not the program's: they
say what the tasks have come to, and what has become of their jobs. -/
structure Simulation (G : Type) where
  sensors : ℕ → SensorState G
  running : String → Bool
  controllers : String → G
  todo : List Action
  sleeping : List (PublishJob × Bool)
  queue : List PublishJob
  publishing : List PublishJob
  stats : Stats
  shutdown : Bool
  now : Time
  history : List Output
  cancelled : List (PublishJob × Bool)
  refused : List PublishJob
  published : List PublishJob
  failed : List PublishJob

/-- One move of a simulation. -/
inductive SimulationMove where
  /-- The task of a sensor wakes up; `uuid.uuid4()` is to return `eventId`. -/
  | sensor (i : ℕ) (eventId : Uuid)
  /-- The task of a machine wakes up, by the place of the entry it was created for. -/
  | machine (i : ℕ)
  /-- A task `delayed_send` wakes up. -/
  | wake (k : ℕ)
  /-- The task that has the event loop goes on. -/
  | loop
  /-- A thread takes a job from the queue. -/
  | take
  /-- A thread is done with a job, which is published or raises. -/
  | done (k : ℕ) (ok : Bool)
  | elapse (dt : ℕ)
  | shutdown
  /-- `asyncio.run` returns and cancels the tasks that sleep. -/
  | close

namespace Simulation

/-- `enqueue`: the queue may be full. -/
def enqueue (s : Simulation G) (job : PublishJob) : Simulation G :=
  if 0 < cfg.queueCapacity ∧ cfg.queueCapacity ≤ s.queue.length then
    { s with
      stats := { s.stats with dropped := s.stats.dropped + 1 }
      refused := s.refused ++ [job] }
  else { s with queue := s.queue ++ [job] }

/-- One action. -/
def act (s : Simulation G) : Action → Simulation G
  | .inc field => { s with stats := s.stats.inc field }
  | .enqueue job => s.enqueue cfg job
  | .delayedSend job duplicate => { s with sleeping := s.sleeping ++ [(job, duplicate)] }

variable (catalog : List SensorCatalogEntry)

/-- The state after a move.  A task wakes up only while the event loop is idle; after a shutdown the
tasks of sensors and machines return. -/
def step (s : Simulation G) : SimulationMove → Simulation G
  | .sensor i eventId =>
      match catalog[i]? with
      | none => s
      | some entry =>
          if s.todo ≠ [] ∨ s.shutdown then s
          else
            let (sensor, outputs) := runSensor rng cfg entry (s.running entry.deviceId) eventId
              (Ingestion.utcDatetime s.now) (s.sensors i)
            { s with
              sensors := Function.update s.sensors i sensor
              todo := outputs.flatMap Output.actions
              history := s.history ++ outputs }
  | .machine i =>
      match catalog[i]? with
      | none => s
      | some entry =>
          if s.todo ≠ [] ∨ s.shutdown ∨ ((catalog.take i).any fun e => e.deviceId = entry.deviceId)
          then s
          else
            let (running, g, outputs) := runMachineController rng entry (s.running entry.deviceId)
              (Ingestion.utcDatetime s.now) (s.controllers entry.deviceId)
            { s with
              running := Function.update s.running entry.deviceId running
              controllers := Function.update s.controllers entry.deviceId g
              todo := outputs.flatMap Output.actions
              history := s.history ++ outputs }
  | .wake k =>
      if s.todo ≠ [] then s
      else
        match s.sleeping[k]? with
        | none => s
        | some (job, duplicate) =>
            { s with sleeping := s.sleeping.eraseIdx k, todo := sends job duplicate }
  | .loop =>
      match s.todo with
      | [] => s
      | action :: todo => ({ s with todo }).act cfg action
  | .take =>
      match s.queue with
      | [] => s
      | job :: queue =>
          if s.publishing.length < cfg.publisherWorkers then
            { s with queue, publishing := s.publishing ++ [job] }
          else s
  | .done k ok =>
      match s.publishing[k]? with
      | none => s
      | some job =>
          let s := { s with publishing := s.publishing.eraseIdx k }
          if ok then
            { s with
              stats := { s.stats with published := s.stats.published + 1 }
              published := s.published ++ [job] }
          else
            { s with
              stats := { s.stats with publishErrs := s.stats.publishErrs + 1 }
              failed := s.failed ++ [job] }
  | .elapse dt => { s with now := s.now + dt }
  | .shutdown => { s with shutdown := true }
  | .close =>
      if s.todo = [] ∧ s.shutdown then
        { s with sleeping := [], cancelled := s.cancelled ++ s.sleeping }
      else s

/-- A simulation that has just started, with the random numbers of its tasks. -/
def start (sensors : ℕ → G) (controllers : String → G) : Simulation G where
  sensors i :=
    { rng := sensors i
      gen := match catalog[i]? with
        | some entry => SensorGenerator.init entry.minValue entry.maxValue cfg.anomalyRate
        | none => SensorGenerator.init 0 0 cfg.anomalyRate
      seq := 0
      failed := false }
  running _ := true
  controllers := controllers
  todo := []
  sleeping := []
  queue := []
  publishing := []
  stats := {}
  shutdown := false
  now := 0
  history := []
  cancelled := []
  refused := []
  published := []
  failed := []

end Simulation

end Simulator

end InduSense
