import InduSense.Alerting.Statements

/-!
Incident lifecycle management: `shared/incidents.py`.

* `validTransitions`, `isValidTransition`: the state machine.
* `Incidents.Store`: `openOrAttach`, `transition`, `assign`, `resolve`, `get`, `list`, `listEvents`.

* `ensures_openOrAttach`, `ensures_transition`, `ensures_assign`, `ensures_resolve`: which
  statements the operations can issue.

Both services build their store without a publisher, so `_publish` returns at once and has no
counterpart here.
-/

namespace InduSense

open Alerting (issue raise)
open Statement.Prog (Ensures ensures_issue ensures_bind ensures_ret ensures_raise)

namespace Incidents

/-- `AlertRef`. -/
structure AlertRef where
  id : Option AlertId
  organizationId : String
  severity : Severity
  factoryId : String := ""
  machineId : String := ""
  deviceId : String := ""
  sensorId : String := ""
  title : String := ""
  description : String := ""

/-- The text of an alert id. -/
def alertIdText (id : Option AlertId) : String := (id.map toString).getD ""

/-- `_VALID_TRANSITIONS`. -/
def validTransitions : IncidentStatus → List IncidentStatus
  | .OPEN => [.ACKNOWLEDGED, .INVESTIGATING, .RESOLVED]
  | .ACKNOWLEDGED => [.INVESTIGATING, .RESOLVED]
  | .INVESTIGATING => [.RESOLVED]
  | .RESOLVED => [.CLOSED, .INVESTIGATING]
  | .CLOSED => []

/-- `is_valid_transition`. -/
def isValidTransition (fromStatus toStatus : IncidentStatus) : Bool :=
  (validTransitions fromStatus).contains toStatus

namespace Store

/-- `_log_event`. -/
def logEvent (incidentId : IncidentId) (eventType : IncidentEventType)
    (actorUserId : Option String) (oldValue newValue note : String) : Alerting.Prog Unit :=
  issue (.insertIncidentEvent
    { incidentId, eventType, actorUserId, note,
      oldValue := nullIfEmpty oldValue, newValue := nullIfEmpty newValue })

/-- The note of the event that attaches an alert to an incident. -/
def attachedNote (alertId : Option AlertId) (severity : Severity) (title : String) : String :=
  "alert " ++ alertIdText alertId ++ " (" ++ severity.text ++ ") attached: " ++ title

/-- The values of the incident an alert opens. -/
def newIncident (alert : AlertRef) : NewIncident where
  organizationId := alert.organizationId
  alertId := alert.id
  factoryId := nullIfEmpty alert.factoryId
  machineId := nullIfEmpty alert.machineId
  deviceId := nullIfEmpty alert.deviceId
  sensorId := nullIfEmpty alert.sensorId
  severity := alert.severity
  title := alert.title
  description := alert.description

/-- `Store.open_or_attach`. -/
def openOrAttach (alert : AlertRef) : Alerting.Prog (IncidentId × Bool) := do
  match ← issue (.selectActiveIncident alert.machineId) with
  | some existingId =>
      logEvent existingId .ALERT_ATTACHED none "" ""
        (attachedNote alert.id alert.severity alert.title)
      return (existingId, false)
  | none =>
      match ← issue (.insertIncident (newIncident alert)) with
      | none =>
          -- Lost a race with a concurrent insert for the same open incident.
          match ← issue (.selectActiveIncident alert.machineId) with
          | none =>
              raise ⟨.runtimeError, "resolve incident creation race for machine "
                ++ alert.machineId ++ ": no incident found"⟩
          | some existing => return (existing, false)
      | some incidentId =>
          logEvent incidentId .STATUS_CHANGE none "" "OPEN"
            ("incident opened from alert " ++ alertIdText alert.id)
          return (incidentId, true)

/-- `Store.transition`. -/
def transition (incidentId : IncidentId) (newStatus : String) (actorUserId : Option String)
    (note : String) : Alerting.Prog Unit := do
  match ← issue (.selectIncidentStatus incidentId) with
  | none =>
      raise ⟨.runtimeError, "load incident " ++ toString incidentId ++ ": not found"⟩
  | some currentStatus =>
      -- A text that names no status is in no row of the table.
      match (IncidentStatus.ofText newStatus).filter (isValidTransition currentStatus) with
      | none =>
          raise ⟨.valueError, "invalid incident transition " ++ currentStatus.text ++ " -> "
            ++ newStatus⟩
      | some status => do
          issue (.updateIncidentStatus incidentId status)
          logEvent incidentId .STATUS_CHANGE actorUserId currentStatus.text newStatus note

/-- `Store.assign`. -/
def assign (incidentId : IncidentId) (userId : String) (actorUserId : Option String) :
    Alerting.Prog Unit := do
  issue (.updateAssignedTo incidentId userId)
  logEvent incidentId .ASSIGNMENT actorUserId "" userId ("assigned to technician " ++ userId)

/-- `Store.resolve`. -/
def resolve (incidentId : IncidentId) (resolutionNotes : String) (actorUserId : Option String) :
    Alerting.Prog Unit := do
  issue (.updateResolutionNotes incidentId resolutionNotes)
  transition incidentId "RESOLVED" actorUserId resolutionNotes

/-- `Store.get`. -/
def get (orgId : String) (incidentId : IncidentId) : Alerting.Prog (Option IncidentRow) :=
  issue (.selectIncident incidentId orgId)

/-- `Store.list`. -/
def list (orgId statusFilter : String) (limit offset : ℕ) : Alerting.Prog (List IncidentRow) :=
  issue (.selectIncidents orgId statusFilter limit offset)

/-- `Store.list_events`. -/
def listEvents (incidentId : IncidentId) : Alerting.Prog (List IncidentEventRow) :=
  issue (.selectIncidentEvents incidentId)

section Guarantees

variable {Q : Statement.Log Alerting PyError → Stmt → Prop}

lemma ensures_logEvent (hQ : ∀ l v, Q l (.insertIncidentEvent v)) {incidentId : IncidentId}
    {eventType : IncidentEventType} {actorUserId : Option String}
    {oldValue newValue note : String} :
    Ensures Q (logEvent incidentId eventType actorUserId oldValue newValue note) :=
  ensures_issue fun l => hQ l _

/-- Linking issues no statement but those that link an alert. -/
lemma ensures_openOrAttach (hQ : ∀ l c, c.links = true → Q l c) {alert : AlertRef} :
    Ensures Q (openOrAttach alert) := by
  have hlog : ∀ l v, Q l (.insertIncidentEvent v) := fun l v => hQ l _ rfl
  refine ensures_bind (ensures_issue fun l => hQ l _ rfl) fun row => ?_
  cases row with
  | some existingId => exact ensures_bind (ensures_logEvent hlog) fun _ => ensures_ret _
  | none =>
      refine ensures_bind (ensures_issue fun l => hQ l _ rfl) fun inserted => ?_
      cases inserted with
      | some incidentId => exact ensures_bind (ensures_logEvent hlog) fun _ => ensures_ret _
      | none =>
          refine ensures_bind (ensures_issue fun l => hQ l _ rfl) fun existing => ?_
          cases existing with
          | none => exact ensures_raise _
          | some existing => exact ensures_ret _

variable {incidentId : IncidentId} {actorUserId : Option String}

/-- A transition reads the status of its incident, updates it, and logs the change. -/
lemma ensures_transition (hread : ∀ l, Q l (.selectIncidentStatus incidentId))
    (hupdate : ∀ l status, Q l (.updateIncidentStatus incidentId status))
    (hlog : ∀ l v, v.incidentId = incidentId → v.eventType = .STATUS_CHANGE →
      Q l (.insertIncidentEvent v)) {newStatus note : String} :
    Ensures Q (transition incidentId newStatus actorUserId note) := by
  refine ensures_bind (ensures_issue hread) fun row => ?_
  cases row with
  | none => exact ensures_raise _
  | some currentStatus =>
      dsimp only
      split
      · exact ensures_raise _
      · exact ensures_bind (ensures_issue fun l => hupdate l _) fun _ =>
          ensures_issue fun l => hlog l _ rfl rfl

/-- An assignment sets the assignee of its incident and logs it. -/
lemma ensures_assign {userId : String} (hassign : ∀ l, Q l (.updateAssignedTo incidentId userId))
    (hlog : ∀ l v, v.incidentId = incidentId → v.eventType = .ASSIGNMENT →
      Q l (.insertIncidentEvent v)) :
    Ensures Q (assign incidentId userId actorUserId) :=
  ensures_bind (ensures_issue hassign) fun _ => ensures_issue fun l => hlog l _ rfl rfl

/-- A resolution writes its notes before its transition. -/
lemma ensures_resolve {resolutionNotes : String}
    (hnotes : ∀ l, Q l (.updateResolutionNotes incidentId resolutionNotes))
    (htransition : Ensures Q (transition incidentId "RESOLVED" actorUserId resolutionNotes)) :
    Ensures Q (resolve incidentId resolutionNotes actorUserId) :=
  ensures_bind (ensures_issue hnotes) fun _ => htransition

end Guarantees

end Store

end Incidents

end InduSense
