import InduSense.Statement.Interleave
import InduSense.Alerting.AlertTable
import InduSense.Alerting.IncidentTable

/-!
The statements of the alert service and the API on alerts and incidents: SQL on Postgres with
autocommit, Kafka writes, notifications, the clock and the in-memory anomaly counter.

* `Stmt`, `Alerting`: the statements and their answers.
* `World`, `World.exec`: what they act on, and what they do.
* `World.exec_alerts`, `World.exec_incidents`: all that a statement can do to either table.

A non-empty id is taken to be a well-formed `uuid`; the empty text is not one, so comparing
a `uuid` column with it is an error.
-/

namespace InduSense

open Statement (Signature Exec)

/-! ### What the statements act on -/

/-- `Notification`. -/
structure Notification where
  alertId : Option AlertId
  title : String
  description : String
  severity : Severity
  machineId : String
  deviceId : String
  triggeredAt : Option Time
  isEscalation : Bool
  deriving DecidableEq

/-- The notification providers. -/
inductive NotificationProvider where
  | console
  | webhook (url : String)
  deriving DecidableEq

/-- `AnomalyCountTracker._seen`, with `get(key, [])` for its reads. -/
abbrev AnomalyCountTracker := String → List Time

namespace AnomalyCountTracker

/-- The tracker of a process that has just started. -/
def init : AnomalyCountTracker := fun _ => []

/-- `AnomalyCountTracker.record`: the number of occurrences from `window_seconds` before `at`
on, this one included, and the trimmed tracker. -/
def record (seen : AnomalyCountTracker) (key : String) («at» : Time) (windowSeconds : ℤ) :
    ℕ × AnomalyCountTracker :=
  let cutoff := «at» - seconds windowSeconds
  let times := (seen key).filter (fun t => cutoff ≤ t) ++ [«at»]
  (times.length, Function.update seen key times)

end AnomalyCountTracker

/-- The values of the `INSERT INTO incident_events`. -/
structure NewIncidentEvent where
  incidentId : IncidentId
  eventType : IncidentEventType
  actorUserId : Option String
  oldValue : Option String
  newValue : Option String
  note : String
  deriving DecidableEq

/-- The database, the topics written, the notifications sent, the clock, and the memory of the
alert service. -/
structure World where
  alerts : AlertTable
  incidents : IncidentTable
  incidentEvents : List IncidentEventRow
  now : Time
  counter : AnomalyCountTracker
  alertsTopic : List (String × AlertEvent)
  notifications : List (NotificationProvider × Notification)
  deadLetters : List (String × DeadLetterRecord)

/-- Fresh tables, with the clock at the epoch. -/
def World.empty : World := ⟨.empty, .empty, [], 0, .init, [], [], []⟩

/-- The passage of `dt` microseconds. -/
def World.tick (dt : ℕ) (w : World) : World := { w with now := w.now + dt }

/-! ### The statements -/

/-- The statements issued on alerts and incidents. -/
inductive Stmt where
  | selectLatestAlert (ruleId dedupeKey : String)
  | insertAlert (v : NewAlert)
  | selectDueForEscalation (afterSeconds : ℤ)
  | escalateAlert (alertId : Option AlertId) (newSeverity : Severity)
  | acknowledgeAlert (id : AlertId) (organizationId : String)
  | selectAlerts (organizationId statusFilter severityFilter : String) (limit offset : ℕ)
  | selectAlert (id : AlertId) (organizationId : String)
  | selectActiveIncident (machineId : String)
  | insertIncident (v : NewIncident)
  | selectIncidentStatus (incidentId : IncidentId)
  | selectIncident (incidentId : IncidentId) (orgId : String)
  | selectIncidents (orgId statusFilter : String) (limit offset : ℕ)
  | selectIncidentEvents (incidentId : IncidentId)
  | updateIncidentStatus (incidentId : IncidentId) (newStatus : IncidentStatus)
  | updateAssignedTo (incidentId : IncidentId) (userId : String)
  | updateResolutionNotes (incidentId : IncidentId) (resolutionNotes : String)
  | insertIncidentEvent (v : NewIncidentEvent)
  | utcNow
  | recordAnomaly (key : String) (detectedAt : Time) (windowSeconds : ℤ)
  | publishAlert (key : String) (evt : AlertEvent)
  | send (provider : NotificationProvider) (n : Notification)
  | produceDeadLetter (key : String) (record : DeadLetterRecord)
  deriving DecidableEq

/-- The statements that create an alert if it is due. -/
def Stmt.creates : Stmt → Bool
  | selectLatestAlert _ _ => true
  | insertAlert _ => true
  | utcNow => true
  | _ => false

/-- The statements that link an alert to an incident and announce it, or dead-letter a message. -/
def Stmt.announces : Stmt → Bool
  | selectActiveIncident _ => true
  | insertIncident _ => true
  | insertIncidentEvent _ => true
  | utcNow => true
  | publishAlert _ _ => true
  | send _ _ => true
  | produceDeadLetter _ _ => true
  | _ => false

/-- The statements among these that link the alert. -/
def Stmt.links : Stmt → Bool
  | selectActiveIncident _ => true
  | insertIncident _ => true
  | insertIncidentEvent _ => true
  | _ => false

lemma Stmt.announces_of_links {c : Stmt} (h : c.links = true) : c.announces = true := by
  cases c with
  | selectActiveIncident machineId => rfl
  | insertIncident v => rfl
  | insertIncidentEvent v => rfl
  | _ => cases h

/-- What each statement answers. -/
abbrev Stmt.Answer : Stmt → Type
  | selectLatestAlert _ _ => Option (AlertStatus × Time)
  | insertAlert _ => Option (AlertId × Time)
  | selectDueForEscalation _ => List AlertRow
  | escalateAlert _ _ => Unit
  | acknowledgeAlert _ _ => ℕ
  | selectAlerts _ _ _ _ _ => List AlertRow
  | selectAlert _ _ => Option AlertRow
  | selectActiveIncident _ => Option IncidentId
  | insertIncident _ => Option IncidentId
  | selectIncidentStatus _ => Option IncidentStatus
  | selectIncident _ _ => Option IncidentRow
  | selectIncidents _ _ _ _ => List IncidentRow
  | selectIncidentEvents _ => List IncidentEventRow
  | updateIncidentStatus _ _ => Unit
  | updateAssignedTo _ _ => Unit
  | updateResolutionNotes _ _ => Unit
  | insertIncidentEvent _ => Unit
  | utcNow => Time
  | recordAnomaly _ _ _ => ℕ
  | publishAlert _ _ => Unit
  | send _ _ => Unit
  | produceDeadLetter _ _ => Unit

/-- The signature of the statements on alerts and incidents. -/
abbrev Alerting : Signature := ⟨Stmt, Stmt.Answer⟩

/-- Programs over them. -/
abbrev Alerting.Prog (α : Type) := Statement.Prog Alerting PyError α

/-- Issue one of them. -/
abbrev Alerting.issue (c : Stmt) : Alerting.Prog c.Answer :=
  @Statement.Prog.issue Alerting PyError c

/-- Raise an exception. -/
abbrev Alerting.raise {α : Type} (e : PyError) : Alerting.Prog α := Statement.Prog.raise e

namespace World

/-- What each statement does. -/
def exec : Exec Alerting PyError World
  | .selectLatestAlert ruleId dedupeKey, w =>
      (.ok ((w.alerts.latest ruleId dedupeKey).map fun r => (r.status, r.triggeredAt)), w)
  | .insertAlert v, w =>
      (.ok (w.alerts.insertAlert v w.now).1, { w with alerts := (w.alerts.insertAlert v w.now).2 })
  | .selectDueForEscalation afterSeconds, w =>
      (.ok (w.alerts.rows.filter fun r => r.Due w.now afterSeconds), w)
  | .escalateAlert alertId newSeverity, w =>
      (.ok (), { w with alerts := w.alerts.escalateAlert alertId newSeverity w.now })
  | .acknowledgeAlert id organizationId, w =>
      (.ok (w.alerts.acknowledgeAlert id organizationId).1,
        { w with alerts := (w.alerts.acknowledgeAlert id organizationId).2 })
  | .selectAlerts organizationId statusFilter severityFilter limit offset, w =>
      (.ok (w.alerts.list organizationId statusFilter severityFilter limit offset), w)
  | .selectAlert id organizationId, w =>
      (.ok ((w.alerts.find id).filter fun r => r.organizationId = organizationId), w)
  | .selectActiveIncident machineId, w =>
      if machineId = "" then
        (.error ⟨.external, "invalid input syntax for type uuid: \"\""⟩, w)
      else (.ok ((w.incidents.activeFor machineId).map IncidentRow.id), w)
  | .insertIncident v, w =>
      (.ok (w.incidents.insertIncident v w.now).1,
        { w with incidents := (w.incidents.insertIncident v w.now).2 })
  | .selectIncidentStatus incidentId, w =>
      (.ok ((w.incidents.find incidentId).map IncidentRow.status), w)
  | .selectIncident incidentId orgId, w =>
      (.ok ((w.incidents.find incidentId).filter fun r => r.organizationId = orgId), w)
  | .selectIncidents orgId statusFilter limit offset, w =>
      (.ok (w.incidents.list orgId statusFilter limit offset), w)
  | .selectIncidentEvents incidentId, w =>
      (.ok (listEvents w.incidentEvents incidentId), w)
  | .updateIncidentStatus incidentId newStatus, w =>
      ((w.incidents.updateStatus incidentId newStatus w.now).1,
        { w with incidents := (w.incidents.updateStatus incidentId newStatus w.now).2 })
  | .updateAssignedTo incidentId userId, w =>
      (.ok (), { w with incidents := w.incidents.updateAssignedTo incidentId userId })
  | .updateResolutionNotes incidentId resolutionNotes, w =>
      (.ok (), { w with incidents := w.incidents.updateResolutionNotes incidentId resolutionNotes })
  | .insertIncidentEvent v, w =>
      (.ok (), { w with incidentEvents := w.incidentEvents ++
        [⟨v.incidentId, v.eventType, v.actorUserId, v.oldValue, v.newValue, v.note, w.now⟩] })
  | .utcNow, w => (.ok w.now, w)
  | .recordAnomaly key detectedAt windowSeconds, w =>
      (.ok (w.counter.record key detectedAt windowSeconds).1,
        { w with counter := (w.counter.record key detectedAt windowSeconds).2 })
  | .publishAlert key evt, w => (.ok (), { w with alertsTopic := w.alertsTopic ++ [(key, evt)] })
  | .send provider n, w =>
      (.ok (), { w with notifications := w.notifications ++ [(provider, n)] })
  | .produceDeadLetter key record, w =>
      (.ok (), { w with deadLetters := w.deadLetters ++ [(key, record)] })

/-- No statement sets the clock. -/
@[simp] lemma exec_now (c : Stmt) (w : World) : (exec c w).2.now = w.now := by
  cases c with
  | selectActiveIncident machineId => simp only [exec]; split <;> rfl
  | _ => rfl

/-- All that a statement can do to the alerts: nothing, or one of its three writers. -/
lemma exec_alerts (c : Stmt) (w : World) :
    (exec c w).2.alerts = w.alerts
      ∨ (∃ v, c = .insertAlert v
          ∧ (exec c w).2.alerts.rows = w.alerts.rows ++ [.opened v w.now w.alerts.nextId]
          ∧ (exec c w).2.alerts.nextId = w.alerts.nextId + 1
          ∧ (exec (.insertAlert v) w).1 = .ok (some (w.alerts.nextId, w.now))
          ∧ ∀ r ∈ w.alerts.rows, r.HasKey v.alertRuleId v.dedupeKey → r.status ≠ .OPEN)
      ∨ (∃ id sev, c = .escalateAlert id sev
          ∧ (exec c w).2.alerts.rows = w.alerts.rows.map (.escalated id sev w.now)
          ∧ (exec c w).2.alerts.nextId = w.alerts.nextId)
      ∨ ∃ id org, c = .acknowledgeAlert id org
          ∧ (exec c w).2.alerts.rows = w.alerts.rows.map (.acknowledged id org)
          ∧ (exec c w).2.alerts.nextId = w.alerts.nextId := by
  cases c with
  | insertAlert v =>
      rcases w.alerts.insertAlert_cases v w.now with ⟨t', h, hrows, hnext, hopen⟩ | ⟨h, -⟩
      · refine .inr (.inl ⟨v, rfl, ?_, ?_, ?_, hopen⟩)
        · simp only [exec, h, hrows]
        · simp only [exec, h, hnext]
        · simp only [exec, h]
      · exact .inl (by simp only [exec, h])
  | escalateAlert id sev =>
      exact .inr (.inr (.inl ⟨id, sev, rfl, AlertTable.escalateAlert_rows ..⟩))
  | acknowledgeAlert id org =>
      exact .inr (.inr (.inr ⟨id, org, rfl, AlertTable.acknowledgeAlert_rows ..⟩))
  | selectActiveIncident machineId =>
      refine .inl ?_
      simp only [exec]
      split <;> rfl
  | _ => exact .inl rfl

/-- A statement other than a status update leaves every incident's status as it is. -/
lemma exec_incident_status {c : Stmt} {w : World}
    (hc : ∀ id new, c ≠ .updateIncidentStatus id new) {r r' : IncidentRow}
    (hr : r ∈ w.incidents.rows) (hr' : r' ∈ (exec c w).2.incidents.rows) (hid : r'.id = r.id) :
    r'.status = r.status := by
  have same : ∀ f : IncidentRow → IncidentRow, (∀ a, (f a).id = a.id) →
      (∀ a, (f a).status = a.status) → r' ∈ w.incidents.rows.map f → r'.status = r.status := by
    intro f hfid hfst hmem
    obtain ⟨a, ha, rfl⟩ := List.mem_map.mp hmem
    have har : a = r := w.incidents.eq_of_id_eq ha hr ((hfid a).symm.trans hid)
    rw [hfst, har]
  have unchanged : (exec c w).2.incidents = w.incidents → r'.status = r.status := by
    intro h
    refine same id (fun _ => rfl) (fun _ => rfl) ?_
    rw [List.map_id, ← h]
    exact hr'
  cases c with
  | updateIncidentStatus id new => exact absurd rfl (hc id new)
  | updateAssignedTo id userId =>
      refine same (.withAssignedTo id userId) (IncidentRow.withAssignedTo_id id userId)
        (IncidentRow.withAssignedTo_status id userId) ?_
      rw [← IncidentTable.updateAssignedTo_rows]
      exact hr'
  | updateResolutionNotes id notes =>
      refine same (.withResolutionNotes id notes) (IncidentRow.withResolutionNotes_id id notes)
        (IncidentRow.withResolutionNotes_status id notes) ?_
      rw [← IncidentTable.updateResolutionNotes_rows]
      exact hr'
  | insertIncident v =>
      rcases w.incidents.insertIncident_cases v w.now with ⟨t', h, hrows⟩ | ⟨h, -⟩
      · simp only [exec, h, hrows, List.mem_append, List.mem_singleton] at hr'
        rcases hr' with hr' | rfl
        · rw [w.incidents.eq_of_id_eq hr' hr hid]
        · -- The new row's id is not yet in the table.
          have hlt := w.incidents.id_lt r hr
          rw [← hid] at hlt
          exact absurd hlt (Nat.lt_irrefl _)
      · exact unchanged (by simp only [exec, h])
  | selectActiveIncident machineId =>
      refine unchanged ?_
      simp only [exec]
      split <;> rfl
  | _ => exact unchanged rfl

/-- No statement deletes an incident, or changes the alert that opened it. -/
lemma exec_incident_kept (c : Stmt) {w : World} {r : IncidentRow} (hr : r ∈ w.incidents.rows) :
    ∃ r' ∈ (exec c w).2.incidents.rows, r'.id = r.id ∧ r'.alertId = r.alertId := by
  have mapped : ∀ f : IncidentRow → IncidentRow, (∀ a, (f a).id = a.id) →
      (∀ a, (f a).alertId = a.alertId) → (exec c w).2.incidents.rows = w.incidents.rows.map f →
      ∃ r' ∈ (exec c w).2.incidents.rows, r'.id = r.id ∧ r'.alertId = r.alertId := by
    intro f hid halert h
    exact ⟨f r, h ▸ List.mem_map_of_mem hr, hid r, halert r⟩
  have unchanged : (exec c w).2.incidents = w.incidents →
      ∃ r' ∈ (exec c w).2.incidents.rows, r'.id = r.id ∧ r'.alertId = r.alertId :=
    fun h => ⟨r, h ▸ hr, rfl, rfl⟩
  cases c with
  | updateIncidentStatus id new =>
      rcases w.incidents.updateStatus_cases id new w.now with ⟨t', h, hrows⟩ | h
      · exact mapped _ (IncidentRow.withStatus_id id new w.now)
          (IncidentRow.withStatus_alertId id new w.now) (by simp only [exec, h, hrows])
      · exact unchanged (by simp only [exec, h])
  | updateAssignedTo id userId =>
      exact mapped _ (IncidentRow.withAssignedTo_id id userId)
        (IncidentRow.withAssignedTo_alertId id userId) (IncidentTable.updateAssignedTo_rows ..)
  | updateResolutionNotes id notes =>
      exact mapped _ (IncidentRow.withResolutionNotes_id id notes)
        (IncidentRow.withResolutionNotes_alertId id notes)
        (IncidentTable.updateResolutionNotes_rows ..)
  | insertIncident v =>
      rcases w.incidents.insertIncident_cases v w.now with ⟨t', h, hrows⟩ | ⟨h, -⟩
      · refine ⟨r, ?_, rfl, rfl⟩
        simp only [exec, h, hrows]
        exact List.mem_append_left _ hr
      · exact unchanged (by simp only [exec, h])
  | selectActiveIncident machineId =>
      refine unchanged ?_
      simp only [exec]
      split <;> rfl
  | _ => exact unchanged rfl

/-- No statement deletes an incident. -/
lemma exec_incident_persists (c : Stmt) {w : World} {r : IncidentRow}
    (hr : r ∈ w.incidents.rows) : ∃ r' ∈ (exec c w).2.incidents.rows, r'.id = r.id := by
  obtain ⟨r', hr', hid, -⟩ := exec_incident_kept c hr
  exact ⟨r', hr', hid⟩

/-- No statement deletes an event of an incident. -/
lemma exec_incidentEvents (c : Stmt) {w : World} {e : IncidentEventRow}
    (he : e ∈ w.incidentEvents) : e ∈ (exec c w).2.incidentEvents := by
  cases c with
  | insertIncidentEvent v => exact List.mem_append_left _ he
  | selectActiveIncident machineId =>
      simp only [exec]
      split <;> exact he
  | _ => exact he

end World

end InduSense
