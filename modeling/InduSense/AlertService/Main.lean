import InduSense.Shared.Incidents
import InduSense.AlertService.Rules
import InduSense.AlertService.Store

/-!
The alert service: `services/alert-service/main.py`, `notify.py`, and the writes of `kafka_io.py`.

* `processAnomaly`, `processDeviceEvent`: the two message handlers.
* `escalationSweep`: one round of `_run_escalation_sweeper`.
* `ensures_createIfDue`, `ensures_publishAndNotify`: which statements the creation and the
  announcement of an alert can issue.
-/

namespace InduSense

open Alerting (issue)
open Statement.Prog (attempt Ensures ensures_issue ensures_bind ensures_ret ensures_attempt)

namespace AlertService

/-- `Config`, as far as the handlers and the sweeper read it. -/
structure Config where
  topicAnomalies : String
  topicDeviceEvents : String
  escalationAfterSeconds : ℤ
  notificationConsoleEnabled : Bool
  notificationWebhookUrl : String

/-- `load_config` in an empty environment. -/
def Config.default : Config where
  topicAnomalies := "anomalies.detected"
  topicDeviceEvents := "device.events"
  escalationAfterSeconds := 900
  notificationConsoleEnabled := true
  notificationWebhookUrl := ""

/-- `_build_providers`. -/
def buildProviders (cfg : Config) : List NotificationProvider :=
  (if cfg.notificationConsoleEnabled then [.console] else [])
    ++ if cfg.notificationWebhookUrl = "" then [] else [.webhook cfg.notificationWebhookUrl]

/-- `KafkaIO.dead_letter`. -/
def deadLetter (rawPayload : String) (cause : PyError) (stage correlationId sourceTopic : String) :
    Alerting.Prog Unit := do
  let timestamp ← issue .utcNow
  issue (.produceDeadLetter correlationId
    { originalPayload := rawPayload, error := cause.message, errorType := .TRANSIENT_ERROR,
      service := "alert-service", processingStage := stage, retryCount := 0,
      timestamp, correlationId, sourceTopic })

/-- `_dlq_or_hold`. -/
def dlqOrHold (payload : String) (cause : PyError) (stage correlationId sourceTopic : String) :
    Alerting.Prog Bool := do
  match ← attempt (deadLetter payload cause stage correlationId sourceTopic) with
  | .error _ => return false
  | .ok () => return true

/-- `notify_all`: one provider's failure never blocks another's. -/
def notifyAll (n : Notification) : List NotificationProvider → Alerting.Prog Unit
  | [] => return ()
  | p :: providers => do
      let _ ← attempt (issue (.send p n))
      notifyAll n providers

/-- The event `_publish_and_notify` publishes. -/
def alertEvent (a : Alert) (ruleId : String) (eventType : AlertEventType) (timestamp : Time) :
    AlertEvent where
  alertId := a.id
  eventType := eventType
  organizationId := a.organizationId
  alertRuleId := ruleId
  factoryId := a.factoryId
  machineId := a.machineId
  deviceId := a.deviceId
  sensorId := a.sensorId
  severity := a.severity
  status := .OPEN
  title := a.title
  description := a.description
  escalationLevel := a.escalationLevel
  triggeredAt := a.triggeredAt
  timestamp := timestamp

/-- The notification `_publish_and_notify` sends. -/
def notification (a : Alert) (isEscalation : Bool) : Notification where
  alertId := a.id
  title := a.title
  description := a.description
  severity := a.severity
  machineId := a.machineId
  deviceId := a.deviceId
  triggeredAt := a.triggeredAt
  isEscalation := isEscalation

/-- `_publish_and_notify`. -/
def publishAndNotify (providers : List NotificationProvider) (a : Alert) (ruleId : String)
    (eventType : AlertEventType) (isEscalation : Bool) : Alerting.Prog Unit := do
  let timestamp ← issue .utcNow
  let _ ← attempt (issue (.publishAlert a.deviceId (alertEvent a ruleId eventType timestamp)))
  notifyAll (notification a isEscalation) providers

/-- The `AlertRef` of an alert. -/
def Alert.ref (alert : Alert) : Incidents.AlertRef where
  id := alert.id
  organizationId := alert.organizationId
  severity := alert.severity
  factoryId := alert.factoryId
  machineId := alert.machineId
  deviceId := alert.deviceId
  sensorId := alert.sensorId
  title := alert.title
  description := alert.description

/-- `_open_or_attach_incident`. -/
def openOrAttachIncident (alert : Alert) : Alerting.Prog Unit := do
  let _ ← attempt (Incidents.Store.openOrAttach alert.ref)
  return ()

/-- What both handlers do with an alert that is due: create it, link it and announce it, or
dead-letter the message.  `some` is the value the handler returns at once. -/
def createAlert (providers : List NotificationProvider) (rule : AlertRule) (alert : Alert)
    (dedupeKey payload correlationId sourceTopic : String) : Alerting.Prog (Option Bool) := do
  match ← attempt (AlertStore.createIfDue rule.id rule.cooldownSeconds alert dedupeKey) with
  | .error exc =>
      let commit ← dlqOrHold payload exc "create_alert" correlationId sourceTopic
      return some commit
  | .ok (.CREATED, some created) =>
      openOrAttachIncident created
      publishAndNotify providers created rule.id .CREATED false
      return none
  | .ok _ => return none

section Handlers

variable {Payload : Type} (cfg : Config) (rules : RuleCache)
  (providers : List NotificationProvider)

/-- The alert an anomaly raises under a rule. -/
def anomalyAlert (rule : AlertRule) (anomaly : AnomalyDetected ℚ) : Alert where
  organizationId := anomaly.organizationId
  severity := rule.severity
  factoryId := anomaly.factoryId
  machineId := anomaly.machineId
  deviceId := anomaly.deviceId
  sensorId := anomaly.sensorId
  title := rule.name
  description := anomaly.reason

/-- The dedupe key of the alerts an anomaly raises. -/
def anomalyDedupeKey (anomaly : AnomalyDetected ℚ) : String :=
  anomaly.deviceId ++ ":" ++ anomaly.metric

/-- The key an anomaly is counted under for a rule. -/
def countKey (rule : AlertRule) (anomaly : AnomalyDetected ℚ) : String :=
  rule.id ++ "|" ++ anomaly.deviceId

/-- The count of a rule whose scope matches, with this anomaly recorded. -/
def countInWindow (rule : AlertRule) (anomaly : AnomalyDetected ℚ) : Alerting.Prog ℕ :=
  if rule.condition = .ANOMALY_COUNT then
    issue (.recordAnomaly (countKey rule anomaly) anomaly.detectedAt rule.windowSeconds)
  else return 0

/-- One round of the loop over rules. -/
def evaluateRule (payload : String) (anomaly : AnomalyDetected ℚ) (rule : AlertRule) :
    Alerting.Prog (Option Bool) :=
  if rule.scopeMatches anomaly.machineId anomaly.deviceId anomaly.sensorId then do
    let count ← countInWindow rule anomaly
    if conditionMatches rule anomaly.value count then
      createAlert providers rule (anomalyAlert rule anomaly) (anomalyDedupeKey anomaly) payload
        anomaly.eventId cfg.topicAnomalies
    else return none
  else return none

/-- The loop over rules. -/
def evaluateRules (payload : String) (anomaly : AnomalyDetected ℚ) :
    List AlertRule → Alerting.Prog Bool
  | [] => return true
  | rule :: rest => do
      match ← evaluateRule cfg providers payload anomaly rule with
      | some shouldCommit => return shouldCommit
      | none => evaluateRules payload anomaly rest

/-- `_process_anomaly`. -/
def processAnomaly (codec : Codec Payload (AnomalyDetected ℚ)) (msg : Payload) :
    Alerting.Prog Bool :=
  match codec.parse msg with
  | .error exc => dlqOrHold (codec.text msg) exc "unmarshal" "" cfg.topicAnomalies
  | .ok anomaly =>
      evaluateRules cfg providers (codec.text msg) anomaly
        (rules.rulesFor anomaly.organizationId anomaly.metric)

/-- `MACHINE_SHUTDOWN_METRIC`. -/
def machineShutdownMetric : String := "machine_status"

/-- The alert an unexpected shutdown raises. -/
def shutdownAlert (rule : AlertRule) (evt : NormalizedMachineEvent) : Alert where
  organizationId := evt.organizationId
  severity := rule.severity
  factoryId := evt.factoryId
  machineId := evt.machineId
  deviceId := evt.deviceId
  title := "Unexpected machine shutdown"
  description := "machine " ++ evt.machineId ++ " stopped unexpectedly"

/-- `_process_device_event`. -/
def processDeviceEvent (codec : Codec Payload NormalizedMachineEvent) (msg : Payload) :
    Alerting.Prog Bool :=
  match codec.parse msg with
  | .error exc => dlqOrHold (codec.text msg) exc "unmarshal" "" cfg.topicDeviceEvents
  | .ok evt =>
      if evt.eventType ≠ "MACHINE_STOPPED" then return true
      else
        match rules.rulesFor evt.organizationId machineShutdownMetric with
        | [] => return true
        | rule :: _ => do
            let returned ← createAlert providers rule (shutdownAlert rule evt)
              ("shutdown:" ++ evt.machineId) (codec.text msg) evt.correlationId
              cfg.topicDeviceEvents
            return returned.getD true

end Handlers

/-! ### Escalation -/

/-- The loop over the candidates of a sweep. -/
def escalateAll (providers : List NotificationProvider) : List Alert → Alerting.Prog Unit
  | [] => return ()
  | a :: candidates =>
      let newSeverity := nextSeverity a.severity
      if newSeverity = a.severity then escalateAll providers candidates
      else do
        match ← attempt (AlertStore.escalate a.id newSeverity) with
        | .error _ => escalateAll providers candidates
        | .ok () =>
            publishAndNotify providers
              { a with severity := newSeverity, escalationLevel := a.escalationLevel + 1 }
              "" .ESCALATED true
            escalateAll providers candidates

/-- One round of `_run_escalation_sweeper`. -/
def escalationSweep (cfg : Config) (providers : List NotificationProvider) :
    Alerting.Prog Unit := do
  match ← attempt (AlertStore.dueForEscalation cfg.escalationAfterSeconds) with
  | .error _ => return ()
  | .ok candidates => escalateAll providers candidates

/-! ### The statements of a creation -/

section Guarantees

variable {Q : Statement.Log Alerting PyError → Stmt → Prop}

lemma ensures_createIfDue (hQ : ∀ l c, c.creates = true → Q l c) {ruleId dedupeKey : String}
    {cooldownSeconds : ℤ} {alert : Alert} :
    Ensures Q (AlertStore.createIfDue ruleId cooldownSeconds alert dedupeKey) := by
  have hinsert : Ensures Q (AlertStore.insert ruleId alert dedupeKey) := by
    refine ensures_bind (ensures_issue fun l => hQ l _ rfl) fun inserted => ?_
    cases inserted with
    | none => exact ensures_ret _
    | some row => exact ensures_ret _
  refine ensures_bind (ensures_issue fun l => hQ l _ rfl) fun row => ?_
  cases row with
  | none => exact hinsert
  | some last =>
      dsimp only
      split
      · exact ensures_ret _
      · refine ensures_bind (ensures_issue fun l => hQ l _ rfl) fun now => ?_
        split
        · exact ensures_ret _
        · exact hinsert

variable (hQ : ∀ l c, c.announces = true → Q l c)
include hQ

lemma ensures_notifyAll {n : Notification} {providers : List NotificationProvider} :
    Ensures Q (notifyAll n providers) := by
  induction providers with
  | nil => exact ensures_ret _
  | cons p providers ih =>
      exact ensures_bind (ensures_attempt (ensures_issue fun l => hQ l _ rfl)) fun _ => ih

lemma ensures_publishAndNotify {providers : List NotificationProvider} {a : Alert}
    {ruleId : String} {eventType : AlertEventType} {isEscalation : Bool} :
    Ensures Q (publishAndNotify providers a ruleId eventType isEscalation) := by
  refine ensures_bind (ensures_issue fun l => hQ l _ rfl) fun now => ?_
  exact ensures_bind (ensures_attempt (ensures_issue fun l => hQ l _ rfl))
    fun _ => ensures_notifyAll hQ

lemma ensures_openOrAttachIncident {alert : Alert} : Ensures Q (openOrAttachIncident alert) :=
  ensures_bind (ensures_attempt (Incidents.Store.ensures_openOrAttach fun l c hc =>
    hQ l c (Stmt.announces_of_links hc))) fun _ => ensures_ret _

lemma ensures_dlqOrHold {payload : String} {cause : PyError}
    {stage correlationId sourceTopic : String} :
    Ensures Q (dlqOrHold payload cause stage correlationId sourceTopic) := by
  refine ensures_bind (ensures_attempt ?_) fun r => ?_
  · exact ensures_bind (ensures_issue fun l => hQ l _ rfl) fun now =>
      ensures_issue fun l => hQ l _ rfl
  · cases r with
    | ok a => exact ensures_ret _
    | error e => exact ensures_ret _

end Guarantees

end AlertService

end InduSense
