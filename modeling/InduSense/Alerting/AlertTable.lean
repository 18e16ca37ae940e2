import InduSense.Statement.Table
import InduSense.Shared.Events

/-!
The table `alerts` (migrations 4 and 9), with the statements that write it.

* `AlertRow`, `NewAlert`: a row, and the values of an insertion.
* `AlertTable`: alerts with their generated id and the partial unique index
  `idx_alerts_open_dedupe`; `insertAlert`, `escalateAlert`, `acknowledgeAlert` are the three
  statements of the system that write it, `latest` the one `create_if_due` reads.

Ids of rows in tables outside the model (organizations, rules, machines, devices, users) are
the text the messages and requests carry.
-/

namespace InduSense

open Statement (Table page)

/-- A row of `alerts`. -/
structure AlertRow where
  id : AlertId
  organizationId : String
  alertRuleId : String
  factoryId : Option String
  machineId : Option String
  deviceId : Option String
  sensorId : Option String
  severity : Severity
  status : AlertStatus
  title : String
  description : String
  dedupeKey : String
  triggeredAt : Time
  resolvedAt : Option Time
  escalationLevel : ℕ
  lastEscalatedAt : Option Time
  deriving DecidableEq

/-- The values of the `INSERT INTO alerts`. -/
structure NewAlert where
  organizationId : String
  alertRuleId : String
  factoryId : Option String
  machineId : Option String
  deviceId : Option String
  sensorId : Option String
  severity : Severity
  title : String
  description : String
  dedupeKey : String
  deriving DecidableEq

namespace AlertRow

/-- The row belongs to the key of a rule and a dedupe key. -/
abbrev HasKey (r : AlertRow) (ruleId dedupeKey : String) : Prop :=
  r.alertRuleId = ruleId ∧ r.dedupeKey = dedupeKey

/-- Two rows clash on `idx_alerts_open_dedupe`: both `OPEN`, with the same rule and key. -/
abbrev Clash (a b : AlertRow) : Prop :=
  a.status = .OPEN ∧ b.status = .OPEN ∧ a.HasKey b.alertRuleId b.dedupeKey

/-- The row an insertion makes: the columns not given take their defaults. -/
def opened (v : NewAlert) (now : Time) (id : AlertId) : AlertRow where
  id := id
  organizationId := v.organizationId
  alertRuleId := v.alertRuleId
  factoryId := v.factoryId
  machineId := v.machineId
  deviceId := v.deviceId
  sensorId := v.sensorId
  severity := v.severity
  status := .OPEN
  title := v.title
  description := v.description
  dedupeKey := v.dedupeKey
  triggeredAt := now
  resolvedAt := none
  escalationLevel := 0
  lastEscalatedAt := none

/-- `SET severity = %s, escalation_level = escalation_level + 1, last_escalated_at = now()
WHERE id = %s`, on one row. -/
def escalated (id : Option AlertId) (severity : Severity) (now : Time) (r : AlertRow) : AlertRow :=
  if some r.id = id then
    { r with severity := severity, escalationLevel := r.escalationLevel + 1,
             lastEscalatedAt := some now }
  else r

/-- The rows the acknowledgement of an alert by an organization applies to. -/
abbrev Acknowledges (id : AlertId) (org : String) (r : AlertRow) : Prop :=
  r.id = id ∧ r.organizationId = org ∧ r.status = .OPEN

/-- `SET status = 'ACKNOWLEDGED' WHERE id = %s AND organization_id = %s AND status = 'OPEN'`, on
one row. -/
def acknowledged (id : AlertId) (org : String) (r : AlertRow) : AlertRow :=
  if r.Acknowledges id org then { r with status := .ACKNOWLEDGED } else r

/-- The candidates of an escalation sweep: `OPEN`, escalated less than twice, and unattended for
more than `after` seconds. -/
abbrev Due (now : Time) (after : ℤ) (r : AlertRow) : Prop :=
  r.status = .OPEN ∧ r.escalationLevel < 2
    ∧ r.lastEscalatedAt.getD r.triggeredAt < now - seconds after

@[simp] lemma escalated_id (id : Option AlertId) (severity : Severity) (now : Time)
    (r : AlertRow) : (r.escalated id severity now).id = r.id := by
  rw [escalated]; split <;> rfl

@[simp] lemma escalated_status (id : Option AlertId) (severity : Severity) (now : Time)
    (r : AlertRow) : (r.escalated id severity now).status = r.status := by
  rw [escalated]; split <;> rfl

@[simp] lemma escalated_alertRuleId (id : Option AlertId) (severity : Severity) (now : Time)
    (r : AlertRow) : (r.escalated id severity now).alertRuleId = r.alertRuleId := by
  rw [escalated]; split <;> rfl

@[simp] lemma escalated_dedupeKey (id : Option AlertId) (severity : Severity) (now : Time)
    (r : AlertRow) : (r.escalated id severity now).dedupeKey = r.dedupeKey := by
  rw [escalated]; split <;> rfl

/-- A row the update is not about keeps every column. -/
lemma escalated_of_ne {id : Option AlertId} {r : AlertRow} (h : some r.id ≠ id)
    (severity : Severity) (now : Time) : r.escalated id severity now = r := by
  rw [escalated, if_neg h]

/-- The row the update is about. -/
lemma escalated_of_eq {id : Option AlertId} {r : AlertRow} (h : some r.id = id)
    (severity : Severity) (now : Time) :
    r.escalated id severity now =
      { r with severity := severity, escalationLevel := r.escalationLevel + 1,
               lastEscalatedAt := some now } := by
  rw [escalated, if_pos h]

@[simp] lemma acknowledged_id (id : AlertId) (org : String) (r : AlertRow) :
    (r.acknowledged id org).id = r.id := by
  rw [acknowledged]; split <;> rfl

@[simp] lemma acknowledged_alertRuleId (id : AlertId) (org : String) (r : AlertRow) :
    (r.acknowledged id org).alertRuleId = r.alertRuleId := by
  rw [acknowledged]; split <;> rfl

@[simp] lemma acknowledged_dedupeKey (id : AlertId) (org : String) (r : AlertRow) :
    (r.acknowledged id org).dedupeKey = r.dedupeKey := by
  rw [acknowledged]; split <;> rfl

@[simp] lemma acknowledged_severity (id : AlertId) (org : String) (r : AlertRow) :
    (r.acknowledged id org).severity = r.severity := by
  rw [acknowledged]; split <;> rfl

@[simp] lemma acknowledged_escalationLevel (id : AlertId) (org : String) (r : AlertRow) :
    (r.acknowledged id org).escalationLevel = r.escalationLevel := by
  rw [acknowledged]; split <;> rfl

@[simp] lemma acknowledged_lastEscalatedAt (id : AlertId) (org : String) (r : AlertRow) :
    (r.acknowledged id org).lastEscalatedAt = r.lastEscalatedAt := by
  rw [acknowledged]; split <;> rfl

/-- An acknowledgement keeps a status or turns `OPEN` into `ACKNOWLEDGED`. -/
lemma acknowledged_status (id : AlertId) (org : String) (r : AlertRow) :
    (r.acknowledged id org).status = r.status
      ∨ r.status = .OPEN ∧ (r.acknowledged id org).status = .ACKNOWLEDGED := by
  unfold acknowledged
  split
  · rename_i h
    exact .inr ⟨h.2.2, rfl⟩
  · exact .inl rfl

/-- An acknowledged row is `OPEN` afterwards only if it was before. -/
lemma status_of_acknowledged_open {id : AlertId} {org : String} {r : AlertRow}
    (h : (r.acknowledged id org).status = .OPEN) : r.status = .OPEN := by
  rcases r.acknowledged_status id org with hs | ⟨hs, -⟩
  · rwa [hs] at h
  · exact hs

end AlertRow

/-- The table `alerts`. -/
abbrev AlertTable := Table AlertRow AlertRow.id AlertRow.Clash

namespace AlertTable

/-- The rows of a rule and a dedupe key. -/
def withKey (t : AlertTable) (ruleId dedupeKey : String) : List AlertRow :=
  t.rows.filter fun r => r.HasKey ruleId dedupeKey

/-- `ORDER BY triggered_at DESC LIMIT 1`: the first of the rows triggered last. -/
def lastTriggered : List AlertRow → Option AlertRow
  | [] => none
  | r :: rs =>
      match lastTriggered rs with
      | none => some r
      | some r' => if r.triggeredAt < r'.triggeredAt then some r' else some r

/-- The row `create_if_due` looks at. -/
def latest (t : AlertTable) (ruleId dedupeKey : String) : Option AlertRow :=
  lastTriggered (t.withKey ruleId dedupeKey)

/-- The query of `list_alerts`. -/
def list (t : AlertTable) (organizationId statusFilter severityFilter : String)
    (limit offset : ℕ) : List AlertRow :=
  page (fun a b => b.triggeredAt ≤ a.triggeredAt) limit offset (t.rows.filter fun r =>
    r.organizationId = organizationId ∧ (statusFilter = "" ∨ r.status.text = statusFilter)
      ∧ (severityFilter = "" ∨ r.severity.text = severityFilter))

/-- `INSERT INTO alerts … ON CONFLICT … DO NOTHING RETURNING id, triggered_at`. -/
def insertAlert (t : AlertTable) (v : NewAlert) (now : Time) :
    Option (AlertId × Time) × AlertTable :=
  match t.insert (AlertRow.opened v now) fun _ => rfl with
  | some t' => (some (t.nextId, now), t')
  | none => (none, t)

/-- The `UPDATE` of `AlertStore.escalate`. -/
def escalateAlert (t : AlertTable) (id : Option AlertId) (severity : Severity) (now : Time) :
    AlertTable :=
  (t.modify (AlertRow.escalated id severity now) (AlertRow.escalated_id id severity now)).getD t

/-- The `UPDATE` of `acknowledge_alert`, with its `rowcount`. -/
def acknowledgeAlert (t : AlertTable) (id : AlertId) (org : String) : ℕ × AlertTable :=
  (t.rows.countP fun r => r.Acknowledges id org,
    (t.modify (AlertRow.acknowledged id org) (AlertRow.acknowledged_id id org)).getD t)

/-- An insertion appends its row unless an `OPEN` row has the same key. -/
lemma insertAlert_cases (t : AlertTable) (v : NewAlert) (now : Time) :
    (∃ t' : AlertTable, t.insertAlert v now = (some (t.nextId, now), t')
        ∧ t'.rows = t.rows ++ [.opened v now t.nextId] ∧ t'.nextId = t.nextId + 1
        ∧ ∀ r ∈ t.rows, r.HasKey v.alertRuleId v.dedupeKey → r.status ≠ .OPEN)
      ∨ t.insertAlert v now = (none, t)
        ∧ ∃ r ∈ t.rows, r.HasKey v.alertRuleId v.dedupeKey ∧ r.status = .OPEN := by
  unfold insertAlert
  cases h : t.insert (AlertRow.opened v now) fun _ => rfl with
  | some t' =>
      obtain ⟨hrows, hnext, hclash⟩ := Table.insert_eq_some h
      refine .inl ⟨t', rfl, hrows, hnext, fun r hr hk ho => ?_⟩
      exact hclash r hr ⟨ho, rfl, hk⟩
  | none =>
      obtain ⟨r, hr, ho, -, hk⟩ := Table.insert_eq_none_iff.mp h
      exact .inr ⟨rfl, r, hr, hk, ho⟩

/-- Every escalation goes through: it keeps statuses and keys. -/
@[simp] lemma escalateAlert_rows (t : AlertTable) (id : Option AlertId) (severity : Severity)
    (now : Time) :
    (t.escalateAlert id severity now).rows = t.rows.map (AlertRow.escalated id severity now)
      ∧ (t.escalateAlert id severity now).nextId = t.nextId := by
  obtain ⟨t', h⟩ := t.modify_isSome (AlertRow.escalated_id id severity now) (by
      intro a b
      simp [AlertRow.Clash, AlertRow.HasKey])
  rw [escalateAlert, h]
  exact Table.modify_eq_some h

/-- Every acknowledgement goes through: it only takes rows off the index. -/
@[simp] lemma acknowledgeAlert_rows (t : AlertTable) (id : AlertId) (org : String) :
    (t.acknowledgeAlert id org).2.rows = t.rows.map (AlertRow.acknowledged id org)
      ∧ (t.acknowledgeAlert id org).2.nextId = t.nextId := by
  obtain ⟨t', h⟩ := t.modify_isSome (AlertRow.acknowledged_id id org) (by
      rintro a b ⟨ha, hb, hk⟩
      refine ⟨AlertRow.status_of_acknowledged_open ha, AlertRow.status_of_acknowledged_open hb, ?_⟩
      simpa [AlertRow.HasKey] using hk)
  rw [acknowledgeAlert, h]
  exact Table.modify_eq_some h

lemma mem_of_lastTriggered {l : List AlertRow} {r : AlertRow} (h : lastTriggered l = some r) :
    r ∈ l := by
  induction l with
  | nil => cases h
  | cons a l ih =>
      rw [lastTriggered] at h
      cases hl : lastTriggered l with
      | none =>
          rw [hl, Option.some.injEq] at h
          exact h ▸ List.mem_cons_self
      | some r' =>
          rw [hl] at h
          dsimp only at h
          split at h
          · cases h
            exact List.mem_cons_of_mem _ (ih hl)
          · cases h
            exact List.mem_cons_self

lemma lastTriggered_eq_none_iff {l : List AlertRow} : lastTriggered l = none ↔ l = [] := by
  cases l with
  | nil => simp [lastTriggered]
  | cons a l =>
      cases hl : lastTriggered l with
      | none => simp [lastTriggered, hl]
      | some r' => simp only [lastTriggered, hl]; split <;> simp

/-- The latest row of a key is a row of that key. -/
lemma mem_of_latest_eq_some {t : AlertTable} {ruleId dedupeKey : String} {r : AlertRow}
    (h : t.latest ruleId dedupeKey = some r) : r ∈ t.rows ∧ r.HasKey ruleId dedupeKey := by
  have hmem := mem_of_lastTriggered h
  rw [withKey, List.mem_filter] at hmem
  exact ⟨hmem.1, by simpa using hmem.2⟩

/-- There is no latest row only when the key has no row. -/
lemma latest_eq_none_iff {t : AlertTable} {ruleId dedupeKey : String} :
    t.latest ruleId dedupeKey = none ↔ ∀ r ∈ t.rows, ¬ r.HasKey ruleId dedupeKey := by
  rw [latest, lastTriggered_eq_none_iff, withKey, List.filter_eq_nil_iff]
  simp only [decide_eq_true_eq]

/-- A row of a key that has no open one goes in. -/
lemma insertAlert_of_none_open {t : AlertTable} {v : NewAlert}
    (h : ∀ r ∈ t.rows, r.HasKey v.alertRuleId v.dedupeKey → r.status ≠ .OPEN) (now : Time) :
    (t.insertAlert v now).1 = some (t.nextId, now)
      ∧ (t.insertAlert v now).2.rows = t.rows ++ [.opened v now t.nextId] := by
  rcases t.insertAlert_cases v now with ⟨t', ht, hrows, -⟩ | ⟨-, r, hr, hk, hopen⟩
  · rw [ht]
    exact ⟨rfl, hrows⟩
  · exact absurd hopen (h r hr hk)

/-- The first row of a key goes in. -/
lemma insertAlert_of_latest_eq_none {t : AlertTable} {v : NewAlert}
    (h : t.latest v.alertRuleId v.dedupeKey = none) (now : Time) :
    (t.insertAlert v now).1 = some (t.nextId, now)
      ∧ (t.insertAlert v now).2.rows = t.rows ++ [.opened v now t.nextId] :=
  insertAlert_of_none_open (fun r hr hk => absurd hk (latest_eq_none_iff.mp h r hr)) now

end AlertTable

end InduSense
