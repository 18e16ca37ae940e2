import InduSense.Consumption.Loops
import InduSense.Ingestion.Acks
import InduSense.Statement.Trace
import InduSense.StreamProcessor.Poison
import InduSense.Text.Utf8

/-!
Whether a dropped message can be read back from its dead-letter record.

* `Services`, `Dropped`: a service drops a message after it has dead-lettered it.
* `originalPayload_of_dropped`: the record holds the text of the payload, with U+FFFD in the place
  of what is not UTF-8.
* `dropped_of_malformed`: what is not UTF-8 is dropped so by each of the services.
* `recoverable_iff`: the payload can be read back when it is the UTF-8 of a text without U+FFFD, and
  not otherwise.
-/

namespace InduSense

namespace Pipeline

open Statement (Consumer Entry Env Move Signature)
open Statement.Prog (Ensures ensures_attempt ensures_bind ensures_issue ensures_ret
  mem_log_of_ensures)
open Ingestion (InboundMessage)

/-! ### Payloads and their texts -/

/-- `payload.decode("utf-8", errors="replace")`. -/
def decodeReplacing (payload : List UInt8) : String := String.ofList (Utf8.decode payload)

/-- `model_validate_json`: what it reads is UTF-8. -/
structure JsonParser (Event : Type) where
  parse : List UInt8 → Except PyError Event
  wellFormed : ∀ {payload event}, parse payload = .ok event → Utf8.WellFormed payload

/-- How a consumer reads and prints the payloads of messages. -/
def JsonParser.codec {Event : Type} (parser : JsonParser Event) : Codec (List UInt8) Event :=
  ⟨parser.parse, decodeReplacing⟩

/-- What is not UTF-8 is not read. -/
lemma JsonParser.exists_error {Event : Type} (parser : JsonParser Event) {payload : List UInt8}
    (h : ¬ Utf8.WellFormed payload) : ∃ exc, parser.parse payload = .error exc := by
  cases hparse : parser.parse payload with
  | ok event => exact absurd (parser.wellFormed hparse) h
  | error exc => exact ⟨exc, rfl⟩

/-! ### Dropped messages -/

/-- What the services run with. -/
structure Services (R : Type) where
  py : Ingestion.PyText R
  math : AnomalyDetector.PyMath R
  ingestion : Ingestion.Config
  streaming : StreamProcessor.Config
  detecting : AnomalyDetector.Config R
  alerting : AlertService.Config
  providers : List NotificationProvider
  telemetry : JsonParser (TelemetryEvent R)
  machineEvent : JsonParser MachineEvent
  normalizedTelemetry : JsonParser (NormalizedTelemetryEvent R)
  anomaly : JsonParser (AnomalyDetected ℚ)
  normalizedMachineEvent : JsonParser NormalizedMachineEvent

/-- Where a service takes its messages from: the subscriptions of ingestion, and the topics of the
consumers. -/
inductive Input where
  | mqtt
  | telemetryRaw
  | telemetryProcessed
  | anomalies
  | deviceEvents

/-- A consumer reports a message done after the record is on the dead-letter topic, whatever its
requests meet. -/
def Drops {S : Signature} {σ : Type} (c : Consumer S PyError σ (List UInt8))
    (letter : String → DeadLetterRecord → S.Stmt) (payload : List UInt8)
    (record : DeadLetterRecord) : Prop :=
  ∃ (env : Env S PyError) (s : Consumer.State σ) (key : String)
    (a : S.Answer (letter key record)),
    (c.runOn env s payload).outcome = .returned true
      ∧ ⟨letter key record, .ok a⟩ ∈ (c.runOn env s payload).log

namespace Services

variable {R : Type} (s : Services R)

/-- How ingestion reads and prints the payloads of messages. -/
def codecs : Ingestion.Codecs R (List UInt8) where
  telemetry := s.telemetry.parse
  machineEvent := s.machineEvent.parse
  text := decodeReplacing

/-- A message with this payload is dropped after it is dead-lettered with this record.  Ingestion
acknowledges it, among any number of messages and whatever its requests meet. -/
def Dropped [Field R] [LinearOrder R] :
    Input → List UInt8 → DeadLetterRecord → Prop
  | .mqtt, payload, record =>
      ∃ (msgs : ℕ → InboundMessage (List UInt8)) (w : Ingestion.World R (List UInt8))
        (sched : List (Move ℕ (Ingestion.World.Outside (List UInt8)))) (i : ℕ) (key : String)
        (receipt : ℕ),
        (msgs i).payload = payload
          ∧ ⟨.produceDeadLetter key record, .ok ()⟩
              ∈ (Ingestion.calls s.py s.codecs s.ingestion msgs w sched).seen i
          ∧ ⟨.ack receipt, .ok ()⟩
              ∈ (Ingestion.calls s.py s.codecs s.ingestion msgs w sched).seen i
  | .telemetryRaw, payload, record =>
      Drops (StreamProcessor.consumeLoop s.streaming s.normalizedTelemetry.codec)
        .produceDeadLetter payload record
  | .telemetryProcessed, payload, record =>
      Drops (AnomalyDetector.consumeLoop s.math s.detecting s.normalizedTelemetry.codec)
        .produceDeadLetter payload record
  | .anomalies, payload, record =>
      Drops (AlertService.consumeAnomalies s.alerting s.providers s.anomaly.codec)
        .produceDeadLetter payload record
  | .deviceEvents, payload, record =>
      Drops (AlertService.consumeDeviceEvents s.alerting s.providers s.normalizedMachineEvent.codec)
        .produceDeadLetter payload record

end Services

/-! ### What the handlers write -/

/-- A record that is written has this text. -/
def Carries {Stmt : Type} (letter : String → DeadLetterRecord → Stmt) (text : String) (c : Stmt) :
    Prop :=
  ∀ key record, c = letter key record → record.originalPayload = text

section Ensures

variable {R : Type} {text : String} {cause : PyError} {stage correlationId sourceTopic : String}

lemma carries_streamProcessor_deadLetterOrHold :
    Ensures (fun _ => Carries (StreamProcessor.Stmt.produceDeadLetter (R := R)) text)
      (StreamProcessor.deadLetterOrHold text cause stage correlationId) := by
  refine ensures_bind (ensures_attempt ?_) fun written => ?_
  · refine ensures_bind (ensures_issue (by rintro _ key record ⟨⟩)) fun now => ?_
    refine ensures_issue fun _ key record h => ?_
    cases h
    rfl
  · cases written with
    | ok u => exact ensures_ret _
    | error exc => exact ensures_ret _

/-- The handler of the stream processor. -/
lemma carries_streamProcessor (cfg : StreamProcessor.Config)
    (codec : Codec (List UInt8) (NormalizedTelemetryEvent R)) (payload : List UInt8) :
    Ensures (fun _ => Carries StreamProcessor.Stmt.produceDeadLetter (codec.text payload))
      (StreamProcessor.processMessage cfg codec payload) := by
  rw [StreamProcessor.processMessage]
  cases codec.parse payload with
  | error exc => exact carries_streamProcessor_deadLetterOrHold
  | ok evt =>
      refine ensures_bind (ensures_attempt (ensures_issue (by rintro _ key record ⟨⟩)))
        fun claimed => ?_
      cases claimed with
      | error exc => exact ensures_ret _
      | ok isNew =>
          cases isNew with
          | false => exact ensures_ret _
          | true =>
              refine ensures_bind (ensures_attempt (ensures_issue (by rintro _ key record ⟨⟩)))
                fun written => ?_
              cases written with
              | error exc => exact carries_streamProcessor_deadLetterOrHold
              | ok u =>
                  refine ensures_bind (ensures_issue (by rintro _ key record ⟨⟩)) fun _ => ?_
                  refine ensures_bind (ensures_attempt (ensures_issue (by rintro _ key record ⟨⟩)))
                    fun published => ?_
                  cases published with
                  | error exc => exact carries_streamProcessor_deadLetterOrHold
                  | ok u => exact ensures_ret _

lemma carries_anomalyDetector_deadLetterOrHold :
    Ensures (fun _ => Carries (AnomalyDetector.Stmt.produceDeadLetter (R := R)) text)
      (AnomalyDetector.deadLetterOrHold text cause stage correlationId) := by
  refine ensures_bind (ensures_attempt ?_) fun written => ?_
  · refine ensures_bind (ensures_issue (by rintro _ key record ⟨⟩)) fun now => ?_
    refine ensures_issue fun _ key record h => ?_
    cases h
    rfl
  · cases written with
    | ok u => exact ensures_ret _
    | error exc => exact ensures_ret _

/-- The handler of the anomaly detector. -/
lemma carries_anomalyDetector [Field R] [LinearOrder R] (math : AnomalyDetector.PyMath R)
    (cfg : AnomalyDetector.Config R) (codec : Codec (List UInt8) (NormalizedTelemetryEvent R))
    (payload : List UInt8) :
    Ensures (fun _ => Carries AnomalyDetector.Stmt.produceDeadLetter (codec.text payload))
      (AnomalyDetector.processMessage math cfg codec payload) := by
  rw [AnomalyDetector.processMessage]
  cases codec.parse payload with
  | error exc => exact carries_anomalyDetector_deadLetterOrHold
  | ok evt =>
      refine ensures_bind (ensures_attempt (ensures_issue (by rintro _ key record ⟨⟩)))
        fun claimed => ?_
      cases claimed with
      | error exc => exact ensures_ret _
      | ok isNew =>
          cases isNew with
          | false => exact ensures_ret _
          | true =>
              refine ensures_bind (fun l => ?_) fun results => ?_
              · refine (AnomalyDetector.ensures_detect math cfg evt).follows (fun _ c hc => ?_) l
                rintro key record rfl
                cases hc
              · split
                · exact ensures_ret _
                · refine ensures_bind (ensures_issue (by rintro _ key record ⟨⟩)) fun _ => ?_
                  refine ensures_bind (ensures_issue (by rintro _ key record ⟨⟩)) fun _ => ?_
                  refine ensures_bind (ensures_attempt (ensures_issue (by rintro _ key record ⟨⟩)))
                    fun published => ?_
                  cases published with
                  | error exc => exact carries_anomalyDetector_deadLetterOrHold
                  | ok u => exact ensures_ret _

lemma carries_alertService_dlqOrHold :
    Ensures (fun _ => Carries Stmt.produceDeadLetter text)
      (AlertService.dlqOrHold text cause stage correlationId sourceTopic) := by
  refine ensures_bind (ensures_attempt ?_) fun written => ?_
  · refine ensures_bind (ensures_issue (by rintro _ key record ⟨⟩)) fun now => ?_
    refine ensures_issue fun _ key record h => ?_
    cases h
    rfl
  · cases written with
    | ok u => exact ensures_ret _
    | error exc => exact ensures_ret _

lemma carries_publishAndNotify (providers : List NotificationProvider) (a : AlertService.Alert)
    (ruleId : String) (eventType : AlertEventType) (isEscalation : Bool) :
    Ensures (fun _ => Carries Stmt.produceDeadLetter text)
      (AlertService.publishAndNotify providers a ruleId eventType isEscalation) := by
  refine ensures_bind (ensures_issue (by rintro _ key record ⟨⟩)) fun _ => ?_
  refine ensures_bind (ensures_attempt (ensures_issue (by rintro _ key record ⟨⟩))) fun _ => ?_
  induction providers with
  | nil => exact ensures_ret _
  | cons p providers ih =>
      exact ensures_bind (ensures_attempt (ensures_issue (by rintro _ key record ⟨⟩)))
        fun _ => ih

lemma carries_openOrAttachIncident (alert : AlertService.Alert) :
    Ensures (fun _ => Carries Stmt.produceDeadLetter text)
      (AlertService.openOrAttachIncident alert) := by
  refine ensures_bind (ensures_attempt (Incidents.Store.ensures_openOrAttach ?_))
    fun _ => ensures_ret _
  rintro l c hc key record rfl
  cases hc

/-- An alert that is due is announced without a record, or the message is dead-lettered. -/
lemma carries_createAlert (providers : List NotificationProvider) (rule : AlertService.AlertRule)
    (alert : AlertService.Alert) (dedupeKey : String) :
    Ensures (fun _ => Carries Stmt.produceDeadLetter text)
      (AlertService.createAlert providers rule alert dedupeKey text correlationId sourceTopic) := by
  refine ensures_bind (ensures_attempt (AlertService.ensures_createIfDue ?_)) fun created => ?_
  · rintro l c hc key record rfl
    cases hc
  · match created with
    | .error exc => exact ensures_bind carries_alertService_dlqOrHold fun _ => ensures_ret _
    | .ok (.CREATED, some created) =>
        refine ensures_bind (carries_openOrAttachIncident created) fun _ => ?_
        exact ensures_bind (carries_publishAndNotify _ _ _ _ _) fun _ => ensures_ret _
    | .ok (.CREATED, none) => exact ensures_ret _
    | .ok (.SUPPRESSED_COOLDOWN, _) => exact ensures_ret _
    | .ok (.SUPPRESSED_OPEN, _) => exact ensures_ret _

/-- The handler of anomalies. -/
lemma carries_processAnomaly (cfg : AlertService.Config) (rules : AlertService.RuleCache)
    (providers : List NotificationProvider) (codec : Codec (List UInt8) (AnomalyDetected ℚ))
    (payload : List UInt8) :
    Ensures (fun _ => Carries Stmt.produceDeadLetter (codec.text payload))
      (AlertService.processAnomaly cfg rules providers codec payload) := by
  rw [AlertService.processAnomaly]
  cases codec.parse payload with
  | error exc => exact carries_alertService_dlqOrHold
  | ok anomaly =>
      dsimp only
      induction rules.rulesFor anomaly.organizationId anomaly.metric with
      | nil => exact ensures_ret _
      | cons rule rest ih =>
          refine ensures_bind ?_ fun returned => ?_
          · rw [AlertService.evaluateRule]
            split
            · refine ensures_bind ?_ fun count => ?_
              · rw [AlertService.countInWindow]
                split
                · exact ensures_issue (by rintro _ key record ⟨⟩)
                · exact ensures_ret _
              · split
                · exact carries_createAlert _ _ _ _
                · exact ensures_ret _
            · exact ensures_ret _
          · cases returned with
            | some commit => exact ensures_ret _
            | none => exact ih

/-- The handler of device events. -/
lemma carries_processDeviceEvent (cfg : AlertService.Config) (rules : AlertService.RuleCache)
    (providers : List NotificationProvider) (codec : Codec (List UInt8) NormalizedMachineEvent)
    (payload : List UInt8) :
    Ensures (fun _ => Carries Stmt.produceDeadLetter (codec.text payload))
      (AlertService.processDeviceEvent cfg rules providers codec payload) := by
  rw [AlertService.processDeviceEvent]
  cases codec.parse payload with
  | error exc => exact carries_alertService_dlqOrHold
  | ok evt =>
      dsimp only
      split
      · exact ensures_ret _
      · split
        · exact ensures_ret _
        · exact ensures_bind (carries_createAlert _ _ _ _) fun _ => ensures_ret _

end Ensures

/-! ### What the record of a dropped message holds -/

/-- A consumer whose handler writes records with this text only. -/
lemma Drops.originalPayload {S : Signature} {σ : Type} {c : Consumer S PyError σ (List UInt8)}
    {letter : String → DeadLetterRecord → S.Stmt} {payload : List UInt8} {record : DeadLetterRecord}
    {text : String} (h : Drops c letter payload record)
    (hcarries : ∀ s, Ensures (fun _ => Carries letter text) (c.program s payload)) :
    record.originalPayload = text := by
  obtain ⟨env, s, key, a, -, hmem⟩ := h
  exact mem_log_of_ensures (hcarries s.service) hmem key record rfl

namespace Services

variable {R : Type} [Field R] [LinearOrder R] {s : Services R} {input : Input}
  {payload : List UInt8} {record : DeadLetterRecord}

/-- **The record of a dropped message holds the text of its payload.** -/
theorem originalPayload_of_dropped (h : s.Dropped input payload record) :
    record.originalPayload = decodeReplacing payload := by
  cases input with
  | mqtt =>
      obtain ⟨msgs, w, sched, i, key, receipt, rfl, hmem, -⟩ := h
      have hpool := Ingestion.guaranteesIn_calls s.py s.codecs s.ingestion msgs w sched
      exact (Ingestion.own_of_lawful (hpool i).1 _ hmem).1
  | telemetryRaw =>
      exact h.originalPayload fun _ =>
        carries_streamProcessor s.streaming s.normalizedTelemetry.codec payload
  | telemetryProcessed =>
      exact h.originalPayload fun _ =>
        carries_anomalyDetector s.math s.detecting s.normalizedTelemetry.codec payload
  | anomalies =>
      exact h.originalPayload fun service =>
        carries_processAnomaly s.alerting service.rules s.providers s.anomaly.codec payload
  | deviceEvents =>
      exact h.originalPayload fun service =>
        carries_processDeviceEvent s.alerting service.rules s.providers
          s.normalizedMachineEvent.codec payload

/-- The record of a message that a consumer cannot read, written at the start of the clock. -/
def unreadable (service sourceTopic : String) (payload : List UInt8) (exc : PyError) :
    DeadLetterRecord where
  originalPayload := decodeReplacing payload
  error := exc.message
  errorType := .TRANSIENT_ERROR
  service := service
  processingStage := "unmarshal"
  retryCount := 0
  timestamp := 0
  correlationId := ""
  sourceTopic := sourceTopic

omit [Field R] [LinearOrder R] in
/-- A handler that writes a record and reports the message done. -/
lemma drops_of_run {S : Signature} {σ : Type} {c : Consumer S PyError σ (List UInt8)}
    {letter : String → DeadLetterRecord → S.Stmt} {key : String}
    {a : S.Answer (letter key record)} (log : Statement.Log S PyError) (service : σ)
    (hrun : ∃ store, (c.program service payload).run c.exec (fun _ _ => .completes) [] service
      = ⟨.returned true, log, store⟩) (hmem : ⟨letter key record, .ok a⟩ ∈ log) :
    Drops c letter payload record := by
  obtain ⟨store, hrun⟩ := hrun
  refine ⟨fun _ _ => .completes, Consumer.start service, key, a, ?_⟩
  show ((c.program service payload).run c.exec (fun _ _ => .completes) [] service).outcome = _
    ∧ _ ∈ ((c.program service payload).run c.exec (fun _ _ => .completes) [] service).log
  rw [hrun]
  exact ⟨rfl, hmem⟩

/-- **What is not UTF-8 is dropped**, by each of the services. -/
theorem dropped_of_malformed (s : Services R) (input : Input) (h : ¬ Utf8.WellFormed payload) :
    ∃ record, s.Dropped input payload record := by
  cases input with
  | mqtt =>
      obtain ⟨exc, hexc⟩ := s.telemetry.exists_error h
      let job : InboundMessage (List UInt8) := ⟨"factory/f/machine/m/telemetry", payload, 0⟩
      have hprog : Ingestion.processMessage s.py s.codecs s.ingestion job =
          (Ingestion.Ingesting.issue .uuid4).bind
            (Ingestion.rejectMessage s.codecs s.ingestion job exc) := by
        rw [Ingestion.processMessage,
          if_pos (show endsWith "factory/f/machine/m/telemetry" "/telemetry" = true by decide),
          Ingestion.handleTelemetry, show s.codecs.telemetry job.payload = .error exc from hexc]
        rfl
      let record : DeadLetterRecord :=
        { unreadable "ingestion" job.topic payload exc with
          errorType := .VALIDATION_ERROR, processingStage := "validation",
          retryCount := s.ingestion.kafkaMaxRetries, correlationId := toString 0 }
      refine ⟨record, fun _ => job, .init s.ingestion, List.replicate 4 (.thread 0), 0, toString 0,
        0, rfl, ?_⟩
      rw [Ingestion.calls, hprog]
      exact ⟨List.mem_cons_of_mem _ (List.mem_cons_of_mem _ List.mem_cons_self),
        List.mem_cons_of_mem _ (List.mem_cons_of_mem _ (List.mem_cons_of_mem _
          List.mem_cons_self))⟩
  | telemetryRaw =>
      obtain ⟨exc, hexc⟩ := s.normalizedTelemetry.exists_error h
      have hprog : StreamProcessor.processMessage s.streaming s.normalizedTelemetry.codec payload =
          StreamProcessor.deadLetterOrHold (decodeReplacing payload) exc "unmarshal" "" := by
        rw [StreamProcessor.processMessage,
          show s.normalizedTelemetry.codec.parse payload = .error exc from hexc]
        rfl
      refine ⟨unreadable "stream-processor" "telemetry.raw" payload exc,
        drops_of_run [⟨.utcNow, .ok 0⟩, ⟨.produceDeadLetter "" _, .ok ()⟩]
          (StreamProcessor.World.init 0) ?_ (List.mem_cons_of_mem _ List.mem_cons_self)⟩
      show ∃ store, (StreamProcessor.processMessage s.streaming s.normalizedTelemetry.codec
        payload).run _ _ _ _ = ⟨_, _, store⟩
      rw [hprog]
      exact ⟨_, rfl⟩
  | telemetryProcessed =>
      obtain ⟨exc, hexc⟩ := s.normalizedTelemetry.exists_error h
      have hprog : AnomalyDetector.processMessage s.math s.detecting s.normalizedTelemetry.codec
            payload =
          AnomalyDetector.deadLetterOrHold (decodeReplacing payload) exc "unmarshal" "" := by
        rw [AnomalyDetector.processMessage,
          show s.normalizedTelemetry.codec.parse payload = .error exc from hexc]
        rfl
      refine ⟨unreadable "anomaly-detector" "telemetry.processed" payload exc,
        drops_of_run [⟨.utcNow, .ok 0⟩, ⟨.produceDeadLetter "" _, .ok ()⟩]
          (AnomalyDetector.World.init s.detecting ⟨fun _ => none, fun _ => none⟩) ?_
          (List.mem_cons_of_mem _ List.mem_cons_self)⟩
      show ∃ store, (AnomalyDetector.processMessage s.math s.detecting s.normalizedTelemetry.codec
        payload).run _ _ _ _ = ⟨_, _, store⟩
      rw [hprog]
      exact ⟨_, rfl⟩
  | anomalies =>
      obtain ⟨exc, hexc⟩ := s.anomaly.exists_error h
      have hprog : AlertService.processAnomaly s.alerting freshService.rules s.providers
            s.anomaly.codec payload =
          AlertService.dlqOrHold (decodeReplacing payload) exc "unmarshal" ""
            s.alerting.topicAnomalies := by
        rw [AlertService.processAnomaly, show s.anomaly.codec.parse payload = .error exc from hexc]
        rfl
      refine ⟨unreadable "alert-service" s.alerting.topicAnomalies payload exc,
        drops_of_run [⟨.utcNow, .ok 0⟩, ⟨.produceDeadLetter "" _, .ok ()⟩] freshService ?_
          (List.mem_cons_of_mem _ List.mem_cons_self)⟩
      show ∃ store, (AlertService.processAnomaly s.alerting freshService.rules s.providers
        s.anomaly.codec payload).run _ _ _ _ = ⟨_, _, store⟩
      rw [hprog]
      exact ⟨_, rfl⟩
  | deviceEvents =>
      obtain ⟨exc, hexc⟩ := s.normalizedMachineEvent.exists_error h
      have hprog : AlertService.processDeviceEvent s.alerting freshService.rules s.providers
            s.normalizedMachineEvent.codec payload =
          AlertService.dlqOrHold (decodeReplacing payload) exc "unmarshal" ""
            s.alerting.topicDeviceEvents := by
        rw [AlertService.processDeviceEvent,
          show s.normalizedMachineEvent.codec.parse payload = .error exc from hexc]
        rfl
      refine ⟨unreadable "alert-service" s.alerting.topicDeviceEvents payload exc,
        drops_of_run [⟨.utcNow, .ok 0⟩, ⟨.produceDeadLetter "" _, .ok ()⟩] freshService ?_
          (List.mem_cons_of_mem _ List.mem_cons_self)⟩
      show ∃ store, (AlertService.processDeviceEvent s.alerting freshService.rules s.providers
        s.normalizedMachineEvent.codec payload).run _ _ _ _ = ⟨_, _, store⟩
      rw [hprog]
      exact ⟨_, rfl⟩

/-! ### Reading a payload back -/

/-- No other payload that is dropped leaves a record with the same `original_payload`. -/
def Recoverable (s : Services R) (payload : List UInt8) (record : DeadLetterRecord) : Prop :=
  ∀ input other record', s.Dropped input other record' →
    record'.originalPayload = record.originalPayload → other = payload

/-- Equal texts are texts of the same characters. -/
lemma decodeReplacing_eq_iff {payload other : List UInt8} :
    decodeReplacing other = decodeReplacing payload ↔ Utf8.decode other = Utf8.decode payload :=
  String.ofList_inj

/-- **When a dropped payload can be read back from its record**: when it is the UTF-8 of a text
without U+FFFD, and not otherwise. -/
theorem recoverable_iff (h : s.Dropped input payload record) :
    s.Recoverable payload record
      ↔ ∃ text, Utf8.replacement ∉ text ∧ payload = Utf8.encode text := by
  rw [← Utf8.replacement_notMem_decode_iff]
  constructor
  · intro hrecoverable hmem
    obtain ⟨other, hne, hmalformed, hdecode⟩ := Utf8.exists_same_text hmem
    obtain ⟨record', hdropped⟩ := dropped_of_malformed s input hmalformed
    refine hne (hrecoverable input other record' hdropped ?_)
    rw [originalPayload_of_dropped hdropped, originalPayload_of_dropped h]
    exact decodeReplacing_eq_iff.mpr hdecode
  · intro hmem input' other record' hdropped heq
    rw [originalPayload_of_dropped hdropped, originalPayload_of_dropped h] at heq
    exact Utf8.eq_of_decode_eq hmem (decodeReplacing_eq_iff.mp heq)

end Services

/-! ### A letter, and what may follow it -/

/-- A parser on what is not JSON. -/
def notJson {Event : Type} : JsonParser Event where
  parse _ := .error ⟨.valueError, "Invalid JSON"⟩
  wellFormed h := nomatch h

/-- The services with their default settings. -/
def services : Services ℚ where
  py := StreamProcessor.asciiText
  math := AnomalyDetector.ratMath
  ingestion := {}
  streaming := .default
  detecting := .default
  alerting := .default
  providers := [.console]
  telemetry := notJson
  machineEvent := notJson
  normalizedTelemetry := notJson
  anomaly := notJson
  normalizedMachineEvent := notJson

/-- A letter alone can be read back. -/
theorem recoverable_letter :
    services.Recoverable [0x61] (Services.unreadable "stream-processor" "telemetry.raw" [0x61]
      ⟨.valueError, "Invalid JSON"⟩) := by
  have hdropped : services.Dropped .telemetryRaw [0x61] (Services.unreadable "stream-processor"
      "telemetry.raw" [0x61] ⟨.valueError, "Invalid JSON"⟩) :=
    Services.drops_of_run [⟨.utcNow, .ok 0⟩, ⟨.produceDeadLetter "" _, .ok ()⟩]
      (StreamProcessor.World.init 0) ⟨_, rfl⟩ (List.mem_cons_of_mem _ List.mem_cons_self)
  exact (Services.recoverable_iff hdropped).mpr ⟨['a'], by decide, by decide⟩

/-- **Two payloads with one text**: a letter followed by the byte `FF`, and by the byte `FE`. -/
theorem payloads_confused :
    ∃ record record', services.Dropped .mqtt [0x61, 0xFF] record
      ∧ services.Dropped .mqtt [0x61, 0xFE] record'
      ∧ record.originalPayload = record'.originalPayload := by
  have hFF : ¬ Utf8.WellFormed [0x61, 0xFF] := Utf8.not_wellFormed_around (b := 0xFF) rfl ['a'] []
  have hFE : ¬ Utf8.WellFormed [0x61, 0xFE] := Utf8.not_wellFormed_around (b := 0xFE) rfl ['a'] []
  obtain ⟨record, hrecord⟩ := Services.dropped_of_malformed services .mqtt hFF
  obtain ⟨record', hrecord'⟩ := Services.dropped_of_malformed services .mqtt hFE
  refine ⟨record, record', hrecord, hrecord', ?_⟩
  rw [Services.originalPayload_of_dropped hrecord, Services.originalPayload_of_dropped hrecord']
  exact Services.decodeReplacing_eq_iff.mpr (by decide)

end Pipeline

end InduSense
