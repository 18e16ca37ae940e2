import InduSense.Alerting.Statements

/-!
The tables of alerts and incidents with the users they refer to (migrations 2 and 5).

* `UserRow`, `Records`: the tables, with the reference of an incident to its assignee.
* `Records.exec`: the statements, with the references they are checked against.
* `Records.exec_of_refusal`, `exec_of_accepted`: what a statement does when a reference is
  missing, and when none is.
-/

namespace InduSense

open Statement (Exec)

namespace World

/-- An assignee after a statement was one before, or is the one the statement sets. -/
lemma exec_assignedTo (c : Stmt) {w : World} {r' : IncidentRow}
    (hr' : r' ∈ (exec c w).2.incidents.rows) {u : String} (hu : r'.assignedTo = some u) :
    (∃ r ∈ w.incidents.rows, r.assignedTo = some u)
      ∨ ∃ r ∈ w.incidents.rows, c = .updateAssignedTo r.id u := by
  have mapped : ∀ f : IncidentRow → IncidentRow, (∀ a, (f a).assignedTo = a.assignedTo) →
      r' ∈ w.incidents.rows.map f → ∃ r ∈ w.incidents.rows, r.assignedTo = some u := by
    intro f hf hmem
    obtain ⟨r, hr, rfl⟩ := List.mem_map.mp hmem
    exact ⟨r, hr, (hf r).symm.trans hu⟩
  cases c with
  | updateAssignedTo id userId =>
      have hmem : r' ∈ w.incidents.rows.map (IncidentRow.withAssignedTo id userId) := by
        rw [← IncidentTable.updateAssignedTo_rows]
        exact hr'
      obtain ⟨r, hr, rfl⟩ := List.mem_map.mp hmem
      rw [IncidentRow.withAssignedTo] at hu
      split at hu
      · rename_i hid
        exact .inr ⟨r, hr, by rw [hid, Option.some.inj hu]⟩
      · exact .inl ⟨r, hr, hu⟩
  | updateResolutionNotes id notes =>
      refine .inl (mapped (IncidentRow.withResolutionNotes id notes) (fun a => ?_) ?_)
      · rw [IncidentRow.withResolutionNotes]; split <;> rfl
      · rw [← IncidentTable.updateResolutionNotes_rows]
        exact hr'
  | updateIncidentStatus id status =>
      refine .inl ?_
      rcases w.incidents.updateStatus_cases id status w.now with ⟨t', h, hrows⟩ | h
      · refine mapped (IncidentRow.withStatus id status w.now) (fun a => ?_) ?_
        · unfold IncidentRow.withStatus
          split
          · cases status <;> rfl
          · rfl
        · simp only [exec, h, hrows] at hr'
          exact hr'
      · exact ⟨r', by simpa only [exec, h] using hr', hu⟩
  | insertIncident v =>
      refine .inl ?_
      rcases w.incidents.insertIncident_cases v w.now with ⟨t', h, hrows⟩ | ⟨h, -⟩
      · simp only [exec, h, hrows, List.mem_append, List.mem_singleton] at hr'
        rcases hr' with hr' | rfl
        · exact ⟨r', hr', hu⟩
        · cases hu
      · exact ⟨r', by simpa only [exec, h] using hr', hu⟩
  | selectActiveIncident machineId =>
      refine .inl ⟨r', ?_, hu⟩
      simp only [exec] at hr'
      split at hr' <;> exact hr'
  | _ => exact .inl ⟨r', hr', hu⟩

end World

namespace Api

/-- A row of `users`, as far as incidents and their events refer to it. -/
structure UserRow where
  id : String
  organizationId : String
  deriving DecidableEq

/-- The tables of the alert and incident routes; who an incident is assigned to is a user. -/
@[ext] structure Records where
  users : List UserRow
  world : World
  assignees : ∀ r ∈ world.incidents.rows, ∀ u ∈ r.assignedTo, u ∈ users.map UserRow.id

namespace Records

/-- Fresh tables. -/
def empty (users : List UserRow) : Records := ⟨users, .empty, by simp [World.empty]⟩

/-- The passage of `dt` microseconds. -/
def tick (dt : ℕ) (db : Records) : Records := { db with world := db.world.tick dt }

/-- There is such an incident, of whichever organization. -/
def HasIncident (db : Records) (id : IncidentId) : Prop := ∃ r ∈ db.world.incidents.rows, r.id = id

instance (db : Records) (id : IncidentId) : Decidable (db.HasIncident id) :=
  inferInstanceAs (Decidable (∃ r ∈ db.world.incidents.rows, r.id = id))

/-- There is such a user, of whichever organization. -/
def HasUser (db : Records) (id : String) : Prop := id ∈ db.users.map UserRow.id

instance (db : Records) (id : String) : Decidable (db.HasUser id) :=
  inferInstanceAs (Decidable (id ∈ db.users.map UserRow.id))

/-- What a reference to a row that does not exist raises. -/
def missingReference (table : String) : PyError :=
  ⟨.external, "insert or update on table \"" ++ table ++ "\" violates foreign key constraint"⟩

/-- The error of the reference a statement would violate, if there is one: `assigned_to` of the
row it updates, `incident_id` and `actor_user_id` of the event it inserts. -/
def refusal (db : Records) : Stmt → Option PyError
  | .updateAssignedTo incidentId userId =>
      if db.HasIncident incidentId ∧ ¬ db.HasUser userId then some (missingReference "incidents")
      else none
  | .insertIncidentEvent v =>
      if db.HasIncident v.incidentId ∧ ∀ u ∈ v.actorUserId, db.HasUser u then none
      else some (missingReference "incident_events")
  | _ => none

/-- What each statement of the API does. -/
def exec : Exec Alerting PyError Records := fun c db =>
  match h : db.refusal c with
  | some e => (.error e, db)
  | none =>
      ((World.exec c db.world).1,
        { users := db.users
          world := (World.exec c db.world).2
          assignees := by
            intro r' hr' u hu
            rcases World.exec_assignedTo c hr' hu with ⟨r, hr, hru⟩ | ⟨r, hr, rfl⟩
            · exact db.assignees r hr u hru
            · by_contra hmissing
              rw [refusal, if_pos ⟨⟨r, hr, rfl⟩, hmissing⟩] at h
              cases h })

variable {db : Records} {c : Stmt}

/-- A statement that refers to nothing is refused and changes nothing. -/
lemma exec_of_refusal {e : PyError} (h : db.refusal c = some e) : exec c db = (.error e, db) := by
  rw [exec]
  split
  · rename_i e' h'
    rw [Option.some.inj (h'.symm.trans h)]
  · rename_i h'
    cases h'.symm.trans h

/-- Any other does what it does on the tables alone. -/
lemma exec_of_accepted (h : db.refusal c = none) :
    (exec c db).1 = (World.exec c db.world).1 ∧ (exec c db).2.users = db.users
      ∧ (exec c db).2.world = (World.exec c db.world).2 := by
  rw [exec]
  split
  · rename_i e h'
    cases h'.symm.trans h
  · exact ⟨rfl, rfl, rfl⟩

/-- A statement that only reads. -/
lemma exec_of_read (h : db.refusal c = none) (hread : (World.exec c db.world).2 = db.world) :
    exec c db = ((World.exec c db.world).1, db) := by
  obtain ⟨hans, husers, hworld⟩ := exec_of_accepted h
  exact Prod.ext hans (Records.ext husers (hworld.trans hread))

/-- The query for the status of an incident. -/
lemma exec_selectIncidentStatus (id : IncidentId) :
    exec (.selectIncidentStatus id) db
      = (.ok ((db.world.incidents.find id).map IncidentRow.status), db) :=
  exec_of_read rfl rfl

/-- The query for the active incident of a machine, which fails on an empty id. -/
lemma exec_selectActiveIncident (machineId : String) :
    exec (.selectActiveIncident machineId) db
      = ((World.exec (.selectActiveIncident machineId) db.world).1, db) := by
  refine exec_of_read rfl ?_
  rw [World.exec]
  split <;> rfl

/-- No statement writes the users. -/
@[simp] lemma exec_users (c : Stmt) (db : Records) : (exec c db).2.users = db.users := by
  cases h : db.refusal c with
  | some e => rw [exec_of_refusal h]
  | none => exact (exec_of_accepted h).2.1

/-- No statement sets the clock. -/
@[simp] lemma exec_now (c : Stmt) (db : Records) :
    (exec c db).2.world.now = db.world.now := by
  cases h : db.refusal c with
  | some e => rw [exec_of_refusal h]
  | none => rw [(exec_of_accepted h).2.2, World.exec_now]

end Records

end Api

end InduSense
