import InduSense.Statement.Table
import InduSense.Shared.Events

/-!
The tables `incidents` and `incident_events` (migrations 5 and 10), with the statements that
write them.

* `IncidentStatus`, `IncidentRow`, `IncidentEventRow`: statuses and rows.
* `listEvents`: the events of an incident.
* `IncidentTable`: incidents with `idx_incidents_one_active_per_machine`; `insertIncident`,
  `updateStatus`, `updateAssignedTo`, `updateResolutionNotes` are its writers.
-/

namespace InduSense

open Statement (Table page)

/-- The statuses of the `CHECK` constraint on `incidents`. -/
inductive IncidentStatus where
  | OPEN
  | ACKNOWLEDGED
  | INVESTIGATING
  | RESOLVED
  | CLOSED
  deriving DecidableEq

namespace IncidentStatus

/-- The status as the column stores it. -/
def text : IncidentStatus → String
  | OPEN => "OPEN"
  | ACKNOWLEDGED => "ACKNOWLEDGED"
  | INVESTIGATING => "INVESTIGATING"
  | RESOLVED => "RESOLVED"
  | CLOSED => "CLOSED"

/-- The status a text names, if any. -/
def ofText (s : String) : Option IncidentStatus :=
  [OPEN, ACKNOWLEDGED, INVESTIGATING, RESOLVED, CLOSED].find? fun t => t.text = s

/-- `status IN ('OPEN', 'ACKNOWLEDGED', 'INVESTIGATING')`. -/
def active : IncidentStatus → Bool
  | OPEN => true
  | ACKNOWLEDGED => true
  | INVESTIGATING => true
  | RESOLVED => false
  | CLOSED => false

@[simp] lemma ofText_text (s : IncidentStatus) : ofText s.text = some s := by
  cases s <;> decide

end IncidentStatus

/-- A row of `incidents`. -/
structure IncidentRow where
  id : IncidentId
  organizationId : String
  alertId : Option AlertId
  factoryId : Option String
  machineId : Option String
  deviceId : Option String
  sensorId : Option String
  severity : Severity
  status : IncidentStatus
  title : String
  description : String
  assignedTo : Option String
  resolutionNotes : Option String
  openedAt : Time
  resolvedAt : Option Time
  closedAt : Option Time
  deriving DecidableEq

/-- The values of the `INSERT INTO incidents`. -/
structure NewIncident where
  organizationId : String
  alertId : Option AlertId
  factoryId : Option String
  machineId : Option String
  deviceId : Option String
  sensorId : Option String
  severity : Severity
  title : String
  description : String
  deriving DecidableEq

/-- The event types of the `CHECK` constraint on `incident_events`. -/
inductive IncidentEventType where
  | STATUS_CHANGE
  | COMMENT
  | ASSIGNMENT
  | ALERT_ATTACHED
  deriving DecidableEq

/-- A row of `incident_events`; the rows are kept in the order of their insertion. -/
structure IncidentEventRow where
  incidentId : IncidentId
  eventType : IncidentEventType
  actorUserId : Option String
  oldValue : Option String
  newValue : Option String
  note : String
  createdAt : Time
  deriving DecidableEq

/-- The query of `Store.list_events`. -/
def listEvents (rows : List IncidentEventRow) (incidentId : IncidentId) :
    List IncidentEventRow :=
  (rows.filter fun e => e.incidentId = incidentId).insertionSort
    fun a b => a.createdAt ≤ b.createdAt

namespace IncidentRow

/-- The row is the active incident of a machine; a `NULL` machine equals no machine. -/
abbrev ActiveFor (r : IncidentRow) (machineId : Option String) : Prop :=
  r.status.active ∧ r.machineId = machineId ∧ machineId ≠ none

/-- Two rows clash on `idx_incidents_one_active_per_machine`. -/
abbrev Clash (a b : IncidentRow) : Prop :=
  a.ActiveFor b.machineId ∧ b.status.active

/-- The row an insertion makes. -/
def opened (v : NewIncident) (now : Time) (id : IncidentId) : IncidentRow where
  id := id
  organizationId := v.organizationId
  alertId := v.alertId
  factoryId := v.factoryId
  machineId := v.machineId
  deviceId := v.deviceId
  sensorId := v.sensorId
  severity := v.severity
  status := .OPEN
  title := v.title
  description := v.description
  assignedTo := none
  resolutionNotes := none
  openedAt := now
  resolvedAt := none
  closedAt := none

/-- `SET status = %s` with the timestamp `transition` adds for the new status, on one row. -/
def withStatus (id : IncidentId) (status : IncidentStatus) (now : Time) (r : IncidentRow) :
    IncidentRow :=
  if r.id = id then
    match status with
    | .RESOLVED => { r with status := status, resolvedAt := some now }
    | .CLOSED => { r with status := status, closedAt := some now }
    | _ => { r with status := status }
  else r

/-- `SET assigned_to = %s`, on one row. -/
def withAssignedTo (id : IncidentId) (userId : String) (r : IncidentRow) : IncidentRow :=
  if r.id = id then { r with assignedTo := some userId } else r

/-- `SET resolution_notes = %s`, on one row. -/
def withResolutionNotes (id : IncidentId) (notes : String) (r : IncidentRow) : IncidentRow :=
  if r.id = id then { r with resolutionNotes := some notes } else r

@[simp] lemma withStatus_id (id : IncidentId) (status : IncidentStatus) (now : Time)
    (r : IncidentRow) : (r.withStatus id status now).id = r.id := by
  unfold withStatus
  split
  · cases status <;> rfl
  · rfl

@[simp] lemma withStatus_alertId (id : IncidentId) (status : IncidentStatus) (now : Time)
    (r : IncidentRow) : (r.withStatus id status now).alertId = r.alertId := by
  unfold withStatus
  split
  · cases status <;> rfl
  · rfl

@[simp] lemma withStatus_machineId (id : IncidentId) (status : IncidentStatus) (now : Time)
    (r : IncidentRow) : (r.withStatus id status now).machineId = r.machineId := by
  unfold withStatus
  split
  · cases status <;> rfl
  · rfl

/-- The status a status update leaves. -/
lemma withStatus_status (id : IncidentId) (status : IncidentStatus) (now : Time)
    (r : IncidentRow) :
    (r.withStatus id status now).status = if r.id = id then status else r.status := by
  unfold withStatus
  split
  · cases status <;> rfl
  · rfl

@[simp] lemma withStatus_organizationId (id : IncidentId) (status : IncidentStatus) (now : Time)
    (r : IncidentRow) : (r.withStatus id status now).organizationId = r.organizationId := by
  unfold withStatus
  split
  · cases status <;> rfl
  · rfl

@[simp] lemma withAssignedTo_organizationId (id : IncidentId) (userId : String)
    (r : IncidentRow) : (r.withAssignedTo id userId).organizationId = r.organizationId := by
  rw [withAssignedTo]; split <;> rfl

@[simp] lemma withResolutionNotes_organizationId (id : IncidentId) (notes : String)
    (r : IncidentRow) : (r.withResolutionNotes id notes).organizationId = r.organizationId := by
  rw [withResolutionNotes]; split <;> rfl

@[simp] lemma withAssignedTo_id (id : IncidentId) (userId : String) (r : IncidentRow) :
    (r.withAssignedTo id userId).id = r.id := by
  rw [withAssignedTo]; split <;> rfl

@[simp] lemma withAssignedTo_status (id : IncidentId) (userId : String) (r : IncidentRow) :
    (r.withAssignedTo id userId).status = r.status := by
  rw [withAssignedTo]; split <;> rfl

@[simp] lemma withAssignedTo_machineId (id : IncidentId) (userId : String) (r : IncidentRow) :
    (r.withAssignedTo id userId).machineId = r.machineId := by
  rw [withAssignedTo]; split <;> rfl

@[simp] lemma withAssignedTo_alertId (id : IncidentId) (userId : String) (r : IncidentRow) :
    (r.withAssignedTo id userId).alertId = r.alertId := by
  rw [withAssignedTo]; split <;> rfl

@[simp] lemma withResolutionNotes_alertId (id : IncidentId) (notes : String) (r : IncidentRow) :
    (r.withResolutionNotes id notes).alertId = r.alertId := by
  rw [withResolutionNotes]; split <;> rfl

@[simp] lemma withResolutionNotes_id (id : IncidentId) (notes : String) (r : IncidentRow) :
    (r.withResolutionNotes id notes).id = r.id := by
  rw [withResolutionNotes]; split <;> rfl

@[simp] lemma withResolutionNotes_status (id : IncidentId) (notes : String) (r : IncidentRow) :
    (r.withResolutionNotes id notes).status = r.status := by
  rw [withResolutionNotes]; split <;> rfl

@[simp] lemma withResolutionNotes_machineId (id : IncidentId) (notes : String)
    (r : IncidentRow) : (r.withResolutionNotes id notes).machineId = r.machineId := by
  rw [withResolutionNotes]; split <;> rfl

end IncidentRow

/-- The table `incidents`. -/
abbrev IncidentTable := Table IncidentRow IncidentRow.id IncidentRow.Clash

namespace IncidentTable

/-- `SELECT id … WHERE machine_id = %s AND status IN (…)`. -/
def activeFor (t : IncidentTable) (machineId : String) : Option IncidentRow :=
  t.rows.find? fun r => r.ActiveFor (some machineId)

/-- The query of `Store.list`. -/
def list (t : IncidentTable) (orgId statusFilter : String) (limit offset : ℕ) :
    List IncidentRow :=
  page (fun a b => b.openedAt ≤ a.openedAt) limit offset (t.rows.filter fun r =>
    r.organizationId = orgId ∧ (statusFilter = "" ∨ r.status.text = statusFilter))

/-- `INSERT INTO incidents … ON CONFLICT … DO NOTHING RETURNING id`. -/
def insertIncident (t : IncidentTable) (v : NewIncident) (now : Time) :
    Option IncidentId × IncidentTable :=
  match t.insert (IncidentRow.opened v now) fun _ => rfl with
  | some t' => (some t.nextId, t')
  | none => (none, t)

/-- What the unique index answers to an update that would violate it. -/
def secondActive : PyError :=
  ⟨.uniqueViolation, "duplicate key value violates unique constraint "
    ++ "\"idx_incidents_one_active_per_machine\""⟩

/-- The `UPDATE` of `Store.transition`, which the unique index may refuse. -/
def updateStatus (t : IncidentTable) (id : IncidentId) (status : IncidentStatus) (now : Time) :
    Except PyError Unit × IncidentTable :=
  match t.modify (IncidentRow.withStatus id status now) (IncidentRow.withStatus_id id status now)
    with
  | some t' => (.ok (), t')
  | none => (.error secondActive, t)

/-- The `UPDATE` of `Store.assign`. -/
def updateAssignedTo (t : IncidentTable) (id : IncidentId) (userId : String) : IncidentTable :=
  (t.modify (IncidentRow.withAssignedTo id userId)
    (IncidentRow.withAssignedTo_id id userId)).getD t

/-- The first `UPDATE` of `Store.resolve`. -/
def updateResolutionNotes (t : IncidentTable) (id : IncidentId) (notes : String) :
    IncidentTable :=
  (t.modify (IncidentRow.withResolutionNotes id notes)
    (IncidentRow.withResolutionNotes_id id notes)).getD t

/-- An insertion appends its row unless the machine has an active incident. -/
lemma insertIncident_cases (t : IncidentTable) (v : NewIncident) (now : Time) :
    (∃ t' : IncidentTable, t.insertIncident v now = (some t.nextId, t')
        ∧ t'.rows = t.rows ++ [.opened v now t.nextId])
      ∨ t.insertIncident v now = (none, t) ∧ ∃ r ∈ t.rows, r.ActiveFor v.machineId := by
  unfold insertIncident
  cases h : t.insert (IncidentRow.opened v now) fun _ => rfl with
  | some t' => exact .inl ⟨t', rfl, (Table.insert_eq_some h).1⟩
  | none =>
      obtain ⟨r, hr, hc, -⟩ := Table.insert_eq_none_iff.mp h
      exact .inr ⟨rfl, r, hr, hc⟩

/-- A status update changes the row it is about, or is refused and changes nothing. -/
lemma updateStatus_cases (t : IncidentTable) (id : IncidentId) (status : IncidentStatus)
    (now : Time) :
    (∃ t' : IncidentTable, t.updateStatus id status now = (.ok (), t')
        ∧ t'.rows = t.rows.map (IncidentRow.withStatus id status now))
      ∨ t.updateStatus id status now = (.error secondActive, t) := by
  unfold updateStatus
  cases h : t.modify (IncidentRow.withStatus id status now)
      (IncidentRow.withStatus_id id status now) with
  | some t' => exact .inl ⟨t', rfl, (Table.modify_eq_some h).1⟩
  | none => exact .inr rfl

/-- A status update is refused when it would make a second active incident of a machine. -/
lemma updateStatus_refused {t : IncidentTable} {r r' : IncidentRow} (hr : r ∈ t.rows)
    (hr' : r' ∈ t.rows) (hne : r'.id ≠ r.id) {status : IncidentStatus} (hs : status.active = true)
    (hactive : r'.ActiveFor r.machineId) (now : Time) :
    t.updateStatus r.id status now = (.error secondActive, t) := by
  have hsymm : ∀ a b : IncidentRow, a.Clash b → b.Clash a := by
    rintro a b ⟨⟨ha, hm, hn⟩, hb⟩
    exact ⟨⟨hb, hm.symm, hm ▸ hn⟩, ha⟩
  have hclash : (r.withStatus r.id status now).Clash (r'.withStatus r.id status now) := by
    refine ⟨⟨?_, ?_, ?_⟩, ?_⟩
    · rw [IncidentRow.withStatus_status, if_pos rfl, hs]
    · rw [IncidentRow.withStatus_machineId, IncidentRow.withStatus_machineId, hactive.2.1]
    · rw [IncidentRow.withStatus_machineId, hactive.2.1]
      exact hactive.2.2
    · rw [IncidentRow.withStatus_status, if_neg hne]
      exact hactive.1
  have hnone := Table.modify_eq_none (t := t) (IncidentRow.withStatus_id r.id status now) hsymm
    hr hr' (fun h => hne (h ▸ rfl)) hclash
  rw [updateStatus, hnone]

/-- A status update with no such incident goes through. -/
lemma updateStatus_accepted {t : IncidentTable} {r : IncidentRow} (hr : r ∈ t.rows)
    {status : IncidentStatus}
    (h : ∀ r' ∈ t.rows, r'.id ≠ r.id → status.active = true → ¬ r'.ActiveFor r.machineId)
    (now : Time) :
    ∃ t' : IncidentTable, t.updateStatus r.id status now = (.ok (), t')
      ∧ t'.rows = t.rows.map (IncidentRow.withStatus r.id status now) := by
  rcases t.updateStatus_cases r.id status now with hok | he
  · exact hok
  · exfalso
    have hpair : (t.rows.map (IncidentRow.withStatus r.id status now)).Pairwise
        fun a b => ¬ a.Clash b := by
      rw [List.pairwise_map]
      have hnodup : t.rows.Pairwise fun a b => a.id ≠ b.id := List.pairwise_map.mp t.ids_nodup
      refine (hnodup.and t.no_clash).imp_of_mem ?_
      rintro a b ha hb ⟨hab, hclash⟩ ⟨⟨hact, hm, hn⟩, hact'⟩
      rw [IncidentRow.withStatus_status] at hact hact'
      rw [IncidentRow.withStatus_machineId, IncidentRow.withStatus_machineId] at hm
      rw [IncidentRow.withStatus_machineId] at hn
      by_cases haid : a.id = r.id
      · have hbid : b.id ≠ r.id := fun hb' => hab (haid.trans hb'.symm)
        rw [if_pos haid] at hact
        rw [if_neg hbid] at hact'
        have har : a = r := t.eq_of_id_eq ha hr haid
        subst har
        exact h b hb hbid hact ⟨hact', hm.symm, hm ▸ hn⟩
      · rw [if_neg haid] at hact
        by_cases hbid : b.id = r.id
        · rw [if_pos hbid] at hact'
          have hbr : b = r := t.eq_of_id_eq hb hr hbid
          subst hbr
          exact h a ha haid hact' ⟨hact, hm, hn⟩
        · rw [if_neg hbid] at hact'
          exact hclash ⟨⟨hact, hm, hn⟩, hact'⟩
    rw [updateStatus, Table.modify, dif_pos hpair] at he
    cases he

/-- Assignments always go through. -/
@[simp] lemma updateAssignedTo_rows (t : IncidentTable) (id : IncidentId) (userId : String) :
    (t.updateAssignedTo id userId).rows = t.rows.map (IncidentRow.withAssignedTo id userId) := by
  obtain ⟨t', h⟩ := t.modify_isSome (IncidentRow.withAssignedTo_id id userId) (by
      intro a b
      simp [IncidentRow.Clash, IncidentRow.ActiveFor])
  rw [updateAssignedTo, h]
  exact (Table.modify_eq_some h).1

/-- Notes always go through. -/
@[simp] lemma updateResolutionNotes_rows (t : IncidentTable) (id : IncidentId)
    (notes : String) :
    (t.updateResolutionNotes id notes).rows
      = t.rows.map (IncidentRow.withResolutionNotes id notes) := by
  obtain ⟨t', h⟩ := t.modify_isSome (IncidentRow.withResolutionNotes_id id notes) (by
      intro a b
      simp [IncidentRow.Clash, IncidentRow.ActiveFor])
  rw [updateResolutionNotes, h]
  exact (Table.modify_eq_some h).1

/-- There is no active incident of a machine only when no row is one. -/
lemma activeFor_eq_none_iff {t : IncidentTable} {machineId : String} :
    t.activeFor machineId = none ↔ ∀ r ∈ t.rows, ¬ r.ActiveFor (some machineId) := by
  simp only [activeFor, List.find?_eq_none, decide_eq_true_eq]

end IncidentTable

end InduSense
