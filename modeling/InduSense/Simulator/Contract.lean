import InduSense.Ingestion.Acks
import InduSense.Ingestion.Requests
import InduSense.Ingestion.Schema
import InduSense.Simulator.Protocol

/-!
The simulator and ingestion: what one publishes, the other takes.

* `topicMatches`, `subscriptions`: the topics of `_subscribe`.
* `PayloadModel.modelDumpJson`, `wireCodecs`: the payloads, as one side writes and the other reads
  them.
* `Message`, `messages_step`: all the messages the simulator sends.
* `FromSimulator`: the requests ingestion makes for them; `asks_fromSimulator`.
* `simulator_accepted`: what becomes of them in every run of the two.
-/

namespace InduSense

namespace Simulator

open Ingestion (InboundMessage Codecs PyText calls)
open Statement (Entry Log Move Pool)

variable {G : Type} {rng : Random G} {cfg : Config} {catalog : List SensorCatalogEntry}

/-! ### Topics -/

/-- The levels of a topic against those of a filter, in which `+` stands for any one level. -/
def levelsMatch : List (List Char) → List (List Char) → Bool
  | [], [] => true
  | level :: filter, level' :: topic =>
      (level = ['+'] || level = level') && levelsMatch filter topic
  | _, _ => false

/-- `topic_matches_sub`, of filters without `#`. -/
def topicMatches (filter topic : String) : Bool :=
  levelsMatch (filter.toList.splitOn '/') (topic.toList.splitOn '/')

/-- The filters of `_subscribe`. -/
def subscriptions : List String :=
  ["factory/+/machine/+/sensor/+/telemetry", "factory/+/machine/+/status",
    "factory/+/machine/+/events"]

/-- A printed UUID is one level. -/
lemma slash_notMem_str (v : Uuid) : '/' ∉ v.str.toList := by
  intro h
  rw [show v.str.toList = v.strChars from String.toList_ofList] at h
  rcases Uuid.mem_strChars h with h | h
  · obtain ⟨d, hd, hslash⟩ := List.mem_map.mp h
    have hdigit := hexDigit_digitChar (hexDigits_lt hd)
    rw [hslash] at hdigit
    cases hdigit
  · cases h

/-- The levels of a telemetry topic. -/
lemma levels_telemetryTopic {entry : SensorCatalogEntry} (hf : '/' ∉ entry.factoryId.toList)
    (hm : '/' ∉ entry.machineId.toList) (hs : '/' ∉ entry.sensorId.toList) :
    entry.telemetryTopic.toList.splitOn '/' = ["factory".toList, entry.factoryId.toList,
      "machine".toList, entry.machineId.toList, "sensor".toList, entry.sensorId.toList,
      "telemetry".toList] := by
  have hlevels : entry.telemetryTopic.toList = ['/'].intercalate ["factory".toList,
      entry.factoryId.toList, "machine".toList, entry.machineId.toList, "sensor".toList,
      entry.sensorId.toList, "telemetry".toList] := by
    simp only [SensorCatalogEntry.telemetryTopic, String.toList_append, List.append_assoc]
    rfl
  rw [hlevels, List.splitOn_intercalate]
  · simp only [List.forall_mem_cons, List.not_mem_nil, false_imp_iff, implies_true, and_true]
    exact ⟨by decide, hf, by decide, hm, by decide, hs, by decide⟩
  · exact List.cons_ne_nil _ _

/-- The levels of the other two topics. -/
lemma levels_machineTopic {f m last suffix : String} (hf : '/' ∉ f.toList) (hm : '/' ∉ m.toList)
    (hlast : '/' ∉ last.toList) (hsuffix : suffix.toList = '/' :: last.toList) :
    ("factory/" ++ f ++ "/machine/" ++ m ++ suffix).toList.splitOn '/' =
      ["factory".toList, f.toList, "machine".toList, m.toList, last.toList] := by
  have hlevels : ("factory/" ++ f ++ "/machine/" ++ m ++ suffix).toList
      = ['/'].intercalate ["factory".toList, f.toList, "machine".toList, m.toList,
        last.toList] := by
    simp only [String.toList_append, List.append_assoc, List.intercalate, List.intersperse,
      List.flatten_cons, List.flatten_nil, List.append_nil, hsuffix]
    rfl
  rw [hlevels, List.splitOn_intercalate]
  · simp only [List.forall_mem_cons, List.not_mem_nil, false_imp_iff, implies_true, and_true]
    exact ⟨by decide, hf, by decide, hm, hlast⟩
  · exact List.cons_ne_nil _ _

lemma endsWith_append (s suffix : String) : endsWith (s ++ suffix) suffix = true := by
  rw [endsWith, List.isSuffixOf_iff_suffix, String.toList_append]
  exact List.suffix_append _ _

/-- A text ends with one of two suffixes of which neither is part of the other. -/
lemma endsWith_append_eq_false (s : String) {suffix other : String}
    (h : ¬ other.toList <:+ suffix.toList) (h' : ¬ suffix.toList <:+ other.toList) :
    endsWith (s ++ suffix) other = false := by
  rw [endsWith, Bool.eq_false_iff, Ne, List.isSuffixOf_iff_suffix, String.toList_append]
  intro hother
  rcases le_total other.toList.length suffix.toList.length with hle | hle
  · exact h (List.suffix_of_suffix_length_le hother (List.suffix_append _ _) hle)
  · exact h' (List.suffix_of_suffix_length_le (List.suffix_append _ _) hother hle)

/-! ### Payloads -/

section Payloads

variable (ser : Serializers) (coerceFloat : JsonValue → Except (String × String) ℚ)

/-- The dict a payload is dumped as. -/
def PayloadModel.modelDump : PayloadModel → Dict
  | telemetry evt => evt.modelDump ser
  | machineEvent evt => dropEmpty (evt.modelDump ser)
  | machineStatus evt => evt.modelDump ser

/-- The times of a payload. -/
def PayloadModel.times : PayloadModel → List Datetime
  | telemetry evt => evt.times
  | machineEvent evt => evt.times
  | machineStatus evt => evt.times

/-- `payload.model_dump_json()`. -/
def PayloadModel.modelDumpJson (payload : PayloadModel) : String :=
  ser.dumps (payload.modelDump ser)

/-- The event `MachineEvent.model_validate_json` makes of a payload. -/
def PayloadModel.asMachineEvent : PayloadModel → Option MachineEvent
  | telemetry _ => none
  | machineEvent evt => some evt
  | machineStatus evt => some evt.machineEvent

/-- The models of ingestion, with the exception a failed validation raises. -/
def wireCodecs (exception : List ErrorDetails → PyError) : Codecs ℚ String where
  telemetry text := (TelemetryEvent.modelValidateJson ser coerceFloat text).mapError exception
  machineEvent text := (MachineEvent.modelValidateJson ser text).mapError exception
  text text := text

/-- The checks of ingestion, of numbers that are all finite. -/
abbrev finiteChecks (u : PyUnicode) (str : ℚ → String) : PyText ℚ :=
  .ofUnicode u (fun _ => false) (fun _ => false) str

end Payloads

/-! ### What is sent -/

/-- The messages the simulator sends, of the rows its catalog was loaded from. -/
inductive Message (rows : List SensorRow) : PublishJob → Prop
  | sensorEvent {r : SensorRow} (hr : r ∈ rows) (failed : Bool) (now : Datetime) :
      Message rows (sensorEvent r.entry failed now)
  | reading {r : SensorRow} (hr : r ∈ rows) (eventId : Uuid) (now : Datetime) {seq : ℤ}
      (hseq : 0 < seq) (value : ℚ) :
      Message rows ⟨r.entry.telemetryTopic,
        .telemetry (sensorReading r.entry eventId now seq value)⟩
  | status {r : SensorRow} (hr : r ∈ rows) (running : Bool) (now : Datetime) :
      Message rows (statusMessage r.entry running now)
  | machineEvent {r : SensorRow} (hr : r ∈ rows) (running : Bool) (now : Datetime) :
      Message rows (machineMessage r.entry running now)

/-- All that was sent so far is a message, and no counter of readings is negative. -/
structure Messages (rows : List SensorRow) (s : Simulation G) : Prop where
  counts : ∀ i, 0 ≤ (s.sensors i).seq
  sent : ∀ o ∈ s.history, ∀ job ∈ o.copies, Message rows job

lemma mem_copiesOf {job : PublishJob} {send : PublishJob × Bool} (h : job ∈ copiesOf send) :
    job = send.1 := by
  obtain ⟨sent, duplicate⟩ := send
  cases duplicate <;> simpa [copiesOf] using h

variable {rows : List SensorRow} {limit : ℕ}

/-- An entry of the catalog is that of a row. -/
lemma exists_row {i : ℕ} {entry : SensorCatalogEntry}
    (hi : (loadSensorCatalog rows limit)[i]? = some entry) : ∃ r ∈ rows, r.entry = entry := by
  obtain ⟨r, hr, hentry⟩ := List.mem_map.mp (List.mem_of_getElem? hi)
  exact ⟨r, List.mem_of_mem_take hr, hentry⟩

variable (rng cfg) in
/-- A round of a sensor's task sends messages. -/
lemma messages_runSensor {r : SensorRow} (hr : r ∈ rows) (running : Bool) (eventId : Uuid)
    (now : Datetime) {sensor : SensorState G} (hseq : 0 ≤ sensor.seq) :
    let round := runSensor rng cfg r.entry running eventId now sensor
    0 ≤ round.1.seq ∧ ∀ o ∈ round.2, ∀ job ∈ o.copies, Message rows job := by
  dsimp only
  rcases runSensor_cases rng cfg r.entry running eventId now sensor with
    ⟨hout, -, hs⟩ | ⟨-, -, hout, -, hs⟩ | ⟨-, -, hs, anomaly, value, fd, ha, hout⟩
  · rw [hout, hs]
    exact ⟨hseq, fun o ho => by cases ho⟩
  · rw [hout, hs]
    refine ⟨hseq, fun o ho job hjob => ?_⟩
    obtain rfl := List.mem_singleton.mp ho
    obtain rfl := List.mem_singleton.mp hjob
    exact .sensorEvent hr true now
  · rw [hout, hs]
    refine ⟨by omega, fun o ho job hjob => ?_⟩
    rcases List.mem_append.mp ho with ho | ho
    · split at ho
      · obtain rfl := List.mem_singleton.mp ho
        obtain rfl := List.mem_singleton.mp hjob
        exact .sensorEvent hr false now
      · cases ho
    · rcases List.mem_append.mp ho with ho | ho
      · rcases ha with rfl | rfl
        · cases ho
        · obtain rfl := List.mem_singleton.mp ho
          cases hjob
      · obtain rfl := List.mem_singleton.mp ho
        obtain rfl := mem_copiesOf hjob
        exact .reading hr eventId now (by omega) value

/-- **Every move sends messages only.** -/
lemma messages_step {s : Simulation G} (h : Messages rows s) (m : SimulationMove) :
    Messages rows (s.step rng cfg (loadSensorCatalog rows limit) m) := by
  rcases step_cases rng cfg (loadSensorCatalog rows limit) s m with ⟨hhistory, hsensors, -⟩ |
    ⟨i, entry, eventId, hi, hhistory, hsensors, -⟩ | ⟨i, entry, hi, hhistory, hsensors, -⟩
  · refine ⟨?_, ?_⟩
    · rw [hsensors]
      exact h.counts
    · rw [hhistory]
      exact h.sent
  · obtain ⟨r, hr, rfl⟩ := exists_row hi
    have hround := messages_runSensor rng cfg hr (s.running r.entry.deviceId) eventId
      (Ingestion.utcDatetime s.now) (h.counts i)
    refine ⟨fun j => ?_, fun o ho => ?_⟩
    · rw [hsensors]
      by_cases hij : j = i
      · rw [hij, Function.update_self]
        exact hround.1
      · rw [Function.update_of_ne hij]
        exact h.counts j
    · rw [hhistory] at ho
      rcases List.mem_append.mp ho with ho | ho
      · exact h.sent o ho
      · exact hround.2 o ho
  · obtain ⟨r, hr, rfl⟩ := exists_row hi
    refine ⟨?_, fun o ho job hjob => ?_⟩
    · rw [hsensors]
      exact h.counts
    · rw [hhistory] at ho
      rcases List.mem_append.mp ho with ho | ho
      · exact h.sent o ho job hjob
      · obtain rfl := List.mem_singleton.mp ho
        rcases List.mem_cons.mp hjob with rfl | hjob
        · exact .status hr _ _
        · obtain rfl := List.mem_singleton.mp hjob
          exact .machineEvent hr _ _

/-! ### What ingestion makes of it -/

section Accepted

variable {ser : Serializers} {coerceFloat : JsonValue → Except (String × String) ℚ}
  {exception : List ErrorDetails → PyError} {u : PyUnicode} {str : ℚ → String}

/-- A printed UUID is accepted as one. -/
lemma uuid_ok_str (v : Uuid) : v.str ≠ "" ∧ (finiteChecks u str).uuid v.str = .ok () := by
  have hparse := Uuid.parse_str u v
  have huuid : ∀ s, (finiteChecks u str).uuid s = (Uuid.parse u s).map fun _ => () :=
    fun _ => rfl
  refine ⟨Ingestion.ne_empty_of_parse u (by rw [hparse]; rfl), ?_⟩
  rw [huuid, hparse]
  rfl

/-- The checks let the readings through. -/
lemma validate_sensorReading {r : SensorRow} (hunit : r.unit ≠ "") (eventId : Uuid)
    (now : Datetime) {seq : ℤ} (hseq : 0 < seq) (value : ℚ) :
    Ingestion.validateTelemetry (finiteChecks u str)
      (sensorReading r.entry eventId now seq value) = .ok () := by
  have hids : ∀ v : Uuid, v.str ≠ "" ∧ (finiteChecks u str).uuid v.str = .ok () := uuid_ok_str
  rw [Ingestion.validateTelemetry_ok_iff]
  refine ⟨?_, rfl, hseq.ne', r.metric.2, rfl, hunit⟩
  simp only [List.forall_mem_cons, List.not_mem_nil, false_imp_iff, implies_true, and_true]
  exact ⟨hids eventId, hids r.organizationId, hids r.factoryId, hids r.productionLineId,
    hids r.machineId, hids r.deviceId, hids r.sensorId⟩

/-- They let through machine events of a row that say something. -/
lemma validate_machineEvent {evt : MachineEvent} {r : SensorRow}
    (horg : evt.organizationId = r.organizationId.str) (hfactory : evt.factoryId = r.factoryId.str)
    (hmachine : evt.machineId = r.machineId.str) (hat : evt.timestamp.isSome = true)
    (htells : evt.status ≠ "" ∨ evt.eventType ≠ "") :
    Ingestion.validateMachineEvent (finiteChecks u str) evt = .ok () := by
  rw [Ingestion.validateMachineEvent, bind_ok_iff, Ingestion.requireUuid_ok_iff, horg]
  refine ⟨uuid_ok_str _, ?_⟩
  rw [bind_ok_iff, Ingestion.requireUuid_ok_iff, hfactory]
  refine ⟨uuid_ok_str _, ?_⟩
  rw [bind_ok_iff, Ingestion.requireUuid_ok_iff, hmachine]
  refine ⟨uuid_ok_str _, ?_⟩
  rw [bind_ok_iff, Ingestion.require_ok_iff, Ingestion.require_ok_iff]
  exact ⟨hat, by simpa using htells⟩

/-- The telemetry record a reading comes to: the reading as it was taken, under the id of its
device, with its own id to trace it by. -/
structure FromReading (sent : List PublishJob) (key : String)
    (evt : NormalizedTelemetryEvent ℚ) : Prop where
  sent : ∃ topic, ⟨topic, .telemetry evt.toTelemetryEvent⟩ ∈ sent
  key : key = evt.deviceId
  correlationId : evt.correlationId = evt.eventId

/-- The record an event or a status comes to. -/
structure FromEvent (sent : List PublishJob) (key : String) (evt : NormalizedMachineEvent) :
    Prop where
  sent : ∃ job ∈ sent, job.payload.asMachineEvent = some evt.toMachineEvent
  key : key = evt.deviceId

/-- What ingestion asks for, for the messages of the simulator: their records, and dead letters for
failures that pass only. -/
def FromSimulator (sent : List PublishJob) : Ingestion.Stmt ℚ String → Prop
  | .produceTelemetry _ key evt => FromReading sent key evt
  | .produceMachineEvent key evt => FromEvent sent key evt
  | .produceDeadLetter _ record => record.errorType = .TRANSIENT_ERROR
  | _ => True

lemma ordinary_fromSimulator (sent : List PublishJob) (job : InboundMessage String) :
    Ingestion.Ordinary (FromSimulator sent) job where
  ack := trivial
  utcNow := trivial
  uuid4 := trivial
  overhead c hc := by cases c <;> trivial
  transient _ _ h := h

/-- A message of the simulator as it arrives. -/
structure Arrives (ser : Serializers) (sent : List PublishJob) (msg : InboundMessage String)
    (job : PublishJob) : Prop where
  sent : job ∈ sent
  topic : msg.topic = job.topic
  payload : msg.payload = job.payload.modelDumpJson ser

variable {sent : List PublishJob} {msg : InboundMessage String} {ingestion : Ingestion.Config}
  {l : Log (Ingestion.Ingesting ℚ String) PyError}

/-- The call for a reading. -/
lemma asks_reading {topic : String} {evt : TelemetryEvent ℚ}
    (harrives : Arrives ser sent msg ⟨topic, .telemetry evt⟩)
    (htrips : ser.RoundTrips (evt.modelDump ser) evt.times)
    (htopic : endsWith topic "/telemetry" = true)
    (hvalid : Ingestion.validateTelemetry (finiteChecks u str) evt = .ok ()) :
    Ingestion.Asks (FromSimulator sent) (Ingestion.processMessage (finiteChecks u str)
      (wireCodecs ser coerceFloat exception) ingestion msg) l := by
  have hread : (wireCodecs ser coerceFloat exception).telemetry msg.payload = .ok evt := by
    rw [harrives.payload]
    change (TelemetryEvent.modelValidateJson ser coerceFloat (evt.modelDumpJson ser)).mapError
      exception = _
    rw [evt.modelValidateJson_modelDumpJson htrips]
    rfl
  exact Ingestion.asks_telemetry (ordinary_fromSimulator sent msg) (harrives.topic ▸ htopic) hread
    hvalid fun _ _ => ⟨⟨topic, harrives.sent⟩, rfl, rfl⟩

/-- The call for a status or an event. -/
lemma asks_event {topic : String} {payload : PayloadModel} {evt : MachineEvent}
    (harrives : Arrives ser sent msg ⟨topic, payload⟩)
    (hread : MachineEvent.modelValidateJson ser (payload.modelDumpJson ser) = .ok evt)
    (hpayload : payload.asMachineEvent = some evt) (hnone : endsWith topic "/telemetry" = false)
    (htopic : endsWith topic "/status" = true ∨ endsWith topic "/events" = true)
    (hvalid : Ingestion.validateMachineEvent (finiteChecks u str) evt = .ok ()) :
    Ingestion.Asks (FromSimulator sent) (Ingestion.processMessage (finiteChecks u str)
      (wireCodecs ser coerceFloat exception) ingestion msg) l := by
  have hcodec : (wireCodecs ser coerceFloat exception).machineEvent msg.payload = .ok evt := by
    rw [harrives.payload]
    change (MachineEvent.modelValidateJson ser (payload.modelDumpJson ser)).mapError exception = _
    rw [hread]
    rfl
  exact Ingestion.asks_machineEvent (ordinary_fromSimulator sent msg) (harrives.topic ▸ hnone)
    (harrives.topic ▸ htopic) hcodec hvalid fun _ _ => ⟨⟨_, harrives.sent, hpayload⟩, rfl⟩

/-- **The call for a message of the simulator.** -/
lemma asks_fromSimulator {rows : List SensorRow} {job : PublishJob} (hjob : Message rows job)
    (hunit : ∀ r ∈ rows, r.unit ≠ "") (harrives : Arrives ser sent msg job)
    (htrips : ser.RoundTrips (job.payload.modelDump ser) job.payload.times) :
    Ingestion.Asks (FromSimulator sent) (Ingestion.processMessage (finiteChecks u str)
      (wireCodecs ser coerceFloat exception) ingestion msg) l := by
  have hchange : ∀ failed : Bool,
      (if failed then "SENSOR_FAILURE" else "SENSOR_RECOVERED") ≠ "" := by
    decide
  have hstatus : ∀ running, newStatus running ≠ "" := by decide
  have hmachine : ∀ running, "MACHINE_" ++ newStatus running ≠ "" := by decide
  cases hjob with
  | sensorEvent hr failed now =>
      exact asks_event harrives (MachineEvent.modelValidateJson_modelDumpJson _ htrips) rfl
        (endsWith_append_eq_false _ (by decide) (by decide)) (.inr (endsWith_append _ _))
        (validate_machineEvent rfl rfl rfl rfl (.inr (hchange failed)))
  | reading hr eventId now hseq value =>
      exact asks_reading harrives htrips (endsWith_append _ _)
        (validate_sensorReading (hunit _ hr) eventId now hseq value)
  | status hr running now =>
      exact asks_event harrives (MachineStatusEvent.modelValidateJson_modelDumpJson _ htrips) rfl
        (endsWith_append_eq_false _ (by decide) (by decide)) (.inl (endsWith_append _ _))
        (validate_machineEvent rfl rfl rfl rfl (.inl (hstatus running)))
  | machineEvent hr running now =>
      exact asks_event harrives (MachineEvent.modelValidateJson_modelDumpJson _ htrips) rfl
        (endsWith_append_eq_false _ (by decide) (by decide)) (.inr (endsWith_append _ _))
        (validate_machineEvent rfl rfl rfl rfl (.inr (hmachine running)))

end Accepted

/-! ### The two together -/

/-- The topics of a row are those ingestion subscribes to. -/
lemma topicMatches_topics (r : SensorRow) :
    topicMatches "factory/+/machine/+/sensor/+/telemetry" r.entry.telemetryTopic = true
      ∧ topicMatches "factory/+/machine/+/status" r.entry.statusTopic = true
      ∧ topicMatches "factory/+/machine/+/events" r.entry.eventsTopic = true := by
  have htelemetry : r.entry.telemetryTopic.toList.splitOn '/' = _ :=
    levels_telemetryTopic (slash_notMem_str r.factoryId) (slash_notMem_str r.machineId)
      (slash_notMem_str r.sensorId)
  have hstatus : r.entry.statusTopic.toList.splitOn '/' = _ :=
    levels_machineTopic (slash_notMem_str r.factoryId) (slash_notMem_str r.machineId)
      (by decide : '/' ∉ "status".toList) rfl
  have hevents : r.entry.eventsTopic.toList.splitOn '/' = _ :=
    levels_machineTopic (slash_notMem_str r.factoryId) (slash_notMem_str r.machineId)
      (by decide : '/' ∉ "events".toList) rfl
  have hsensorFilter : "factory/+/machine/+/sensor/+/telemetry".toList.splitOn '/'
      = ["factory".toList, ['+'], "machine".toList, ['+'], "sensor".toList, ['+'],
        "telemetry".toList] := by decide
  have hstatusFilter : "factory/+/machine/+/status".toList.splitOn '/'
      = ["factory".toList, ['+'], "machine".toList, ['+'], "status".toList] := by decide
  have heventsFilter : "factory/+/machine/+/events".toList.splitOn '/'
      = ["factory".toList, ['+'], "machine".toList, ['+'], "events".toList] := by decide
  refine ⟨?_, ?_, ?_⟩
  · rw [topicMatches, hsensorFilter, htelemetry]
    simp [levelsMatch]
  · rw [topicMatches, hstatusFilter, hstatus]
    simp [levelsMatch]
  · rw [topicMatches, heventsFilter, hevents]
    simp [levelsMatch]

/-- A message of the simulator is on a topic ingestion subscribes to. -/
lemma exists_subscription {rows : List SensorRow} {job : PublishJob} (h : Message rows job) :
    ∃ filter ∈ subscriptions, topicMatches filter job.topic = true := by
  cases h with
  | @sensorEvent r hr failed now =>
      exact ⟨_, by simp [subscriptions], (topicMatches_topics r).2.2⟩
  | @machineEvent r hr running now =>
      exact ⟨_, by simp [subscriptions], (topicMatches_topics r).2.2⟩
  | @reading r hr eventId now _ hseq value =>
      exact ⟨_, by simp [subscriptions], (topicMatches_topics r).1⟩
  | @status r hr running now =>
      exact ⟨_, by simp [subscriptions], (topicMatches_topics r).2.1⟩

/-- The messages that may have reached the broker. -/
def Simulation.sent (s : Simulation G) : List PublishJob := s.published ++ s.failed

variable (rng cfg rows limit) in
/-- The simulator sends messages only, in every run. -/
lemma message_of_sent (sensors : ℕ → G) (controllers : String → G) (sched : List SimulationMove)
    {job : PublishJob}
    (hjob : job ∈ (sched.foldl (Simulation.step rng cfg (loadSensorCatalog rows limit))
      (Simulation.start cfg (loadSensorCatalog rows limit) sensors controllers)).sent) :
    Message rows job := by
  have hstart : Messages rows
      (Simulation.start cfg (loadSensorCatalog rows limit) sensors controllers) :=
    ⟨fun i => le_refl 0, fun o ho => by cases ho⟩
  have hrun : Statement.EachState (Simulation.step rng cfg (loadSensorCatalog rows limit))
      (fun s => Accounted cfg s ∧ Messages rows s) sched _ :=
    Statement.eachState_of_step (I := fun s => Accounted cfg s ∧ Messages rows s)
      (fun s m h => ⟨accounted_step h.1 m, messages_step h.2 m⟩)
      ⟨accounted_start sensors controllers, hstart⟩ sched
  obtain ⟨haccounted, hmessages⟩ := hrun.last
  have hplace : job ∈ (sched.foldl (Simulation.step rng cfg (loadSensorCatalog rows limit))
      (Simulation.start cfg (loadSensorCatalog rows limit) sensors controllers)).places := by
    simp only [Simulation.places, Multiset.mem_add, Multiset.mem_coe]
    rcases List.mem_append.mp hjob with hjob | hjob
    · exact .inl (.inr hjob)
    · exact .inr hjob
  rw [← haccounted.jobs, Multiset.mem_coe, List.mem_flatMap] at hplace
  obtain ⟨o, ho, hcopy⟩ := hplace
  exact hmessages.sent o ho job hcopy

/-- A consumer of `telemetry.raw` reads the reading that was sent. -/
def Reads (ser : Serializers) (coerceFloat : JsonValue → Except (String × String) ℚ)
    (sent : List PublishJob) (evt : NormalizedTelemetryEvent ℚ) : Prop :=
  ∃ topic reading, ⟨topic, .telemetry reading⟩ ∈ sent
    ∧ (NormalizedTelemetryEvent.modelValidateJson ser coerceFloat (evt.modelDumpJson ser)).map
        NormalizedTelemetryEvent.toTelemetryEvent = .ok reading

lemma FromReading.reads {ser : Serializers}
    {coerceFloat : JsonValue → Except (String × String) ℚ} {sent : List PublishJob} {key : String}
    {evt : NormalizedTelemetryEvent ℚ} (h : FromReading sent key evt)
    (htrips : ser.RoundTrips (evt.modelDump ser) evt.times) : Reads ser coerceFloat sent evt := by
  obtain ⟨topic, hsent⟩ := h.sent
  refine ⟨topic, evt.toTelemetryEvent, hsent, ?_⟩
  rw [evt.modelValidateJson_modelDumpJson htrips]
  rfl

variable {ι : Type} [DecidableEq ι]

variable (rng cfg) in
/-- **Ingestion takes all that the simulator sends**: in every run of the simulator its messages are
on topics ingestion subscribes to; and in every run of ingestion over them, whatever fails, it adds
to the topics only their readings and events as they were taken, and dead letters for failures that
pass, so that none is rejected as invalid; and what its consumers read is the reading that was sent.
-/
theorem simulator_accepted (ser : Serializers)
    (coerceFloat : JsonValue → Except (String × String) ℚ)
    (exception : List ErrorDetails → PyError) (u : PyUnicode) (str : ℚ → String)
    (ingestion : Ingestion.Config) (rows : List SensorRow) (hunit : ∀ r ∈ rows, r.unit ≠ "")
    (limit : ℕ) (sensors : ℕ → G) (controllers : String → G) (sched : List SimulationMove)
    {sent : List PublishJob}
    (hsent : sent = (sched.foldl (Simulation.step rng cfg (loadSensorCatalog rows limit))
      (Simulation.start cfg (loadSensorCatalog rows limit) sensors controllers)).sent)
    (htrips : ∀ job ∈ sent, ser.RoundTrips (job.payload.modelDump ser) job.payload.times)
    (msgs : ι → InboundMessage String) (harrives : ∀ i, ∃ job, Arrives ser sent (msgs i) job)
    (w : Ingestion.World ℚ String)
    (more : List (Move ι (Ingestion.World.Outside String))) :
    let store := (calls (finiteChecks u str) (wireCodecs ser coerceFloat exception) ingestion msgs w
      more).store
    (∀ job ∈ sent, ∃ filter ∈ subscriptions, topicMatches filter job.topic = true)
      ∧ Ingestion.OnlyAsked (FromSimulator sent) w store
      ∧ ∀ record ∈ store.telemetryRaw, record ∈ w.telemetryRaw
        ∨ (ser.RoundTrips (record.2.2.modelDump ser) record.2.2.times →
            Reads ser coerceFloat sent record.2.2) := by
  have hmessage : ∀ job ∈ sent, Message rows job := fun job hjob =>
    message_of_sent rng cfg rows limit sensors controllers sched (hsent ▸ hjob)
  have hasked : Ingestion.OnlyAsked (FromSimulator sent) w
      (calls (finiteChecks u str) (wireCodecs ser coerceFloat exception) ingestion msgs w
        more).store := by
    refine Ingestion.onlyAsked_exec (fun i => ?_) w more
    obtain ⟨job, hjob⟩ := harrives i
    exact asks_fromSimulator (hmessage job hjob.sent) hunit hjob (htrips job hjob.sent)
  refine ⟨fun job hjob => exists_subscription (hmessage job hjob), hasked, fun record hrecord => ?_⟩
  exact (hasked.telemetryRaw record hrecord).imp_right fun h => h.reads

/-! ### A reading on its way -/

/-- A generator that always draws the middle. -/
def middling : Random Unit where
  random g := (1 / 2, g)
  gauss g := (0, g)
  random_nonneg _ := by norm_num
  random_lt_one _ := by norm_num

/-- The reading. -/
def firstReading : PublishJob :=
  ⟨thermometer.entry.telemetryTopic,
    .telemetry (sensorReading thermometer.entry firstId (Ingestion.utcDatetime 0) 1 20)⟩

/-- The dict it is dumped as. -/
def firstDict : Dict :=
  ⟨[⟨"event_id", .str firstId.str⟩, ⟨"organization_id", .str thermometer.organizationId.str⟩,
      ⟨"factory_id", .str thermometer.factoryId.str⟩,
      ⟨"production_line_id", .str thermometer.productionLineId.str⟩,
      ⟨"machine_id", .str thermometer.machineId.str⟩,
      ⟨"device_id", .str thermometer.deviceId.str⟩,
      ⟨"sensor_id", .str thermometer.sensorId.str⟩,
      ⟨"timestamp", .str "1970-01-01T00:00:00Z"⟩, ⟨"sequence_number", .int 1⟩,
      ⟨"metric", .str "temperature"⟩, ⟨"value", .float 20⟩, ⟨"unit", .str "celsius"⟩],
    by unfold List.NodupKeys List.keys; decide⟩

/-- The text of a member, whose number is whole. -/
def wholeMember (entry : Σ _ : String, JsonValue) : String :=
  match entry.2 with
  | .float x => "\"" ++ entry.1 ++ "\":" ++ toString x.num ++ ".0"
  | _ => memberText entry

/-- The text of a flat object. -/
def flatText (d : Dict) : String :=
  "\x7b" ++ ",".intercalate (d.entries.map wholeMember) ++ "\x7d"

/-- Serializers that know this reading only. -/
def firstSerializers : Serializers where
  dumps := flatText
  loads text :=
    if text = flatText firstDict then .ok firstDict
    else .error [⟨"json_invalid", "", "Invalid JSON"⟩]
  isoformat _ := "1970-01-01T00:00:00Z"
  datetime
    | .str "1970-01-01T00:00:00Z" => .ok (Ingestion.utcDatetime 0)
    | _ => .error ("datetime_parsing", "Input should be a valid datetime")
  coerceInt _ := .error ("int_type", "Input should be a valid integer")

/-- The thermometer takes a reading, and a thread publishes it. -/
def firstRun : List SimulationMove := [.sensor 0 firstId, .loop, .take, .done 0 true]

lemma sent_firstRun :
    (firstRun.foldl (Simulation.step middling {} (loadSensorCatalog [thermometer] 1))
      (Simulation.start {} (loadSensorCatalog [thermometer] 1) (fun _ => ()) fun _ => ())).sent
        = [firstReading] := by
  decide +kernel

/-- It is dumped as the dict, and read back. -/
lemma roundTrips_firstReading : firstSerializers.RoundTrips
    (firstReading.payload.modelDump firstSerializers) firstReading.payload.times := by
  have hdict : firstReading.payload.modelDump firstSerializers = firstDict := rfl
  refine ⟨?_, fun t ht => ?_⟩
  · rw [hdict]
    dsimp only [firstSerializers]
    rw [if_pos rfl]
  · obtain rfl := List.mem_singleton.mp ht
    rfl

/-- As it arrives. -/
def firstMessage : InboundMessage String where
  topic := firstReading.topic
  payload := firstReading.payload.modelDumpJson firstSerializers
  receipt := 0

/-- What becomes of it. -/
def firstStore : Ingestion.World ℚ String :=
  (calls (finiteChecks ⟨fun _ => false, fun _ => none, id⟩ fun _ => "")
    (wireCodecs firstSerializers (fun _ => .error ("float_type", "")) fun _ => ⟨.valueError, ""⟩)
    {} (fun _ : Unit => firstMessage) (.init {}) (List.replicate 9 (.thread ()))).store

theorem simulator_accepted_firstRun :
    (firstStore.telemetryRaw.length = 1 ∧ firstStore.acked = [0])
      ∧ ∀ record ∈ firstStore.telemetryRaw, FromReading [firstReading] record.2.1 record.2.2 := by
  have h : Ingestion.OnlyAsked (FromSimulator [firstReading]) (.init {}) firstStore :=
    (simulator_accepted middling {} firstSerializers (fun _ => .error ("float_type", ""))
      (fun _ => ⟨.valueError, ""⟩) ⟨fun _ => false, fun _ => none, id⟩ (fun _ => "") {}
      [thermometer] (fun r hr => by rw [List.mem_singleton.mp hr]; decide) 1 (fun _ => ())
      (fun _ => ()) firstRun sent_firstRun.symm
      (fun job hjob => by rw [List.mem_singleton.mp hjob]; exact roundTrips_firstReading)
      (fun _ : Unit => firstMessage)
      (fun _ => ⟨firstReading, List.mem_singleton_self _, rfl, rfl⟩) (.init {})
      (List.replicate 9 (.thread ()))).2.1
  refine ⟨by decide +kernel, fun record hrecord => ?_⟩
  rcases h.telemetryRaw record hrecord with hold | hfrom
  · cases hold
  · exact hfrom

end Simulator

end InduSense
