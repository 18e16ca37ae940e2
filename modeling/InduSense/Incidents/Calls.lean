import InduSense.Api.RecordsTenancy

/-!
What the calls of the incident store do to the database, one call after the other.

* `Leaves`: the incidents and the events after a call.
* `transition_cases`, `eval_resolve`, `assign_cases`, `openOrAttach_cases`: what each of the four
  operations can do; a transition that is not rejected `Moves` its incident.
* `Call`, `Turn`, `Turn.run`: a call of one of the operations, and the database after it.

A call that changes something and then finds that its event may not refer to its actor raises with
the change in place: every statement is committed on its own.
-/

namespace InduSense

open Api (Records)
open Api.Records (HasUser eventRow missingReference exec_of_refusal exec_of_accepted exec_of_read
  exec_selectIncidentStatus exec_selectActiveIncident)
open IncidentTable (secondActive)
open Statement (Prog.bind Prog.eval Prog.eval_issue_bind Prog.eval_issue Prog.eval_bind)

namespace Incidents

/-! ### Statements -/

/-- The users are the same, the incidents are `rows`, and `events` have been added. -/
structure Leaves (db : Records) (rows : List IncidentRow) (events : List IncidentEventRow)
    (db' : Records) : Prop where
  users : db'.users = db.users
  now : db'.world.now = db.world.now
  rows : db'.world.incidents.rows = rows
  events : db'.world.incidentEvents = db.world.incidentEvents ++ events

variable {db : Records}

/-- Nothing has happened. -/
lemma Leaves.refl (db : Records) : Leaves db db.world.incidents.rows [] db :=
  ⟨rfl, rfl, rfl, (List.append_nil _).symm⟩

lemma Leaves.trans {rows rows' : List IncidentRow} {events events' : List IncidentEventRow}
    {db' db'' : Records} (h : Leaves db rows events db') (h' : Leaves db' rows' events' db'') :
    Leaves db rows' (events ++ events') db'' where
  users := h'.users.trans h.users
  now := h'.now.trans h.now
  rows := h'.rows
  events := by rw [h'.events, h.events, List.append_assoc]

lemma Leaves.events_eq {rows : List IncidentRow} {db' : Records} (h : Leaves db rows [] db') :
    db'.world.incidentEvents = db.world.incidentEvents := by
  rw [h.events, List.append_nil]

lemma Leaves.hasUser_iff {rows : List IncidentRow} {events : List IncidentEventRow}
    {db' : Records} (h : Leaves db rows events db') (u : String) :
    db'.HasUser u ↔ db.HasUser u := by
  rw [HasUser, HasUser, h.users]

/-- A statement whose references are there does what it does on the tables alone. -/
lemma leaves_of_accepted (c : Stmt) (hc : db.refusal c = none) {rows : List IncidentRow}
    {events : List IncidentEventRow} (hrows : (World.exec c db.world).2.incidents.rows = rows)
    (hevents : (World.exec c db.world).2.incidentEvents = db.world.incidentEvents ++ events) :
    ∃ db', Records.exec c db = ((World.exec c db.world).1, db') ∧ Leaves db rows events db' := by
  obtain ⟨hans, husers, hworld⟩ := exec_of_accepted hc
  refine ⟨(Records.exec c db).2, Prod.ext hans rfl, husers, ?_, ?_, ?_⟩
  · rw [hworld, World.exec_now]
  · rw [hworld, hrows]
  · rw [hworld, hevents]

/-- A status update is refused when another incident is active on the machine. -/
lemma updateIncidentStatus_cases {r : IncidentRow} (hr : r ∈ db.world.incidents.rows)
    (status : IncidentStatus) :
    (db.Blocked r.id status
        ∧ ∃ db', Records.exec (.updateIncidentStatus r.id status) db = (.error secondActive, db')
          ∧ Leaves db db.world.incidents.rows [] db')
      ∨ ¬ db.Blocked r.id status
        ∧ ∃ db', Records.exec (.updateIncidentStatus r.id status) db = (.ok (), db')
          ∧ Leaves db (db.world.incidents.rows.map (.withStatus r.id status db.world.now)) []
            db' := by
  have hevents : (World.exec (.updateIncidentStatus r.id status) db.world).2.incidentEvents
      = db.world.incidentEvents ++ [] := (List.append_nil _).symm
  by_cases hblocked : db.Blocked r.id status
  · have hrefused : db.world.incidents.updateStatus r.id status db.world.now
        = (.error secondActive, db.world.incidents) := by
      obtain ⟨hactive, r₀, hr₀, hid, r', hr', hne, hr'active⟩ := hblocked
      rw [db.world.incidents.eq_of_id_eq hr₀ hr hid] at hr'active
      exact IncidentTable.updateStatus_refused hr hr' hne hactive hr'active _
    have hrows : (World.exec (.updateIncidentStatus r.id status) db.world).2.incidents.rows
        = db.world.incidents.rows := by rw [World.exec, hrefused]
    obtain ⟨db', hexec, hleaves⟩ :=
      leaves_of_accepted (.updateIncidentStatus r.id status) rfl hrows hevents
    refine .inl ⟨hblocked, db', ?_, hleaves⟩
    rw [hexec, World.exec, hrefused]
  · have hfree : ∀ r' ∈ db.world.incidents.rows, r'.id ≠ r.id → status.active = true →
        ¬ r'.ActiveFor r.machineId :=
      fun r' hr' hne hactive hr'active =>
        hblocked ⟨hactive, r, hr, rfl, r', hr', hne, hr'active⟩
    obtain ⟨t', hup, hrows⟩ := IncidentTable.updateStatus_accepted hr hfree db.world.now
    have hrows' : (World.exec (.updateIncidentStatus r.id status) db.world).2.incidents.rows
        = db.world.incidents.rows.map (.withStatus r.id status db.world.now) := by
      rw [World.exec, hup, hrows]
    obtain ⟨db', hexec, hleaves⟩ :=
      leaves_of_accepted (.updateIncidentStatus r.id status) rfl hrows' hevents
    refine .inr ⟨hblocked, db', ?_, hleaves⟩
    rw [hexec, World.exec, hup]

/-- An event is refused when its incident or its actor does not exist. -/
lemma insertIncidentEvent_cases (db : Records) (v : NewIncidentEvent) :
    ((db.HasIncident v.incidentId ∧ ∀ u ∈ v.actorUserId, db.HasUser u)
        ∧ ∃ db', Records.exec (.insertIncidentEvent v) db = (.ok (), db')
          ∧ Leaves db db.world.incidents.rows [eventRow v db.world.now] db')
      ∨ ¬ (db.HasIncident v.incidentId ∧ ∀ u ∈ v.actorUserId, db.HasUser u)
        ∧ Records.exec (.insertIncidentEvent v) db
          = (.error (missingReference "incident_events"), db) := by
  by_cases hknown : db.HasIncident v.incidentId ∧ ∀ u ∈ v.actorUserId, db.HasUser u
  · exact .inl ⟨hknown, leaves_of_accepted (.insertIncidentEvent v) (if_pos hknown) rfl rfl⟩
  · exact .inr ⟨hknown, exec_of_refusal (if_neg hknown)⟩

/-- An assignment is refused when there is such an incident but no such user. -/
lemma updateAssignedTo_cases (db : Records) (id : IncidentId) (userId : String) :
    (db.HasIncident id ∧ ¬ db.HasUser userId
        ∧ Records.exec (.updateAssignedTo id userId) db
          = (.error (missingReference "incidents"), db))
      ∨ (db.HasIncident id → db.HasUser userId)
        ∧ ∃ db', Records.exec (.updateAssignedTo id userId) db = (.ok (), db')
          ∧ Leaves db (db.world.incidents.rows.map (.withAssignedTo id userId)) [] db' := by
  by_cases hrefused : db.HasIncident id ∧ ¬ db.HasUser userId
  · exact .inl ⟨hrefused.1, hrefused.2, exec_of_refusal (if_pos hrefused)⟩
  · refine .inr ⟨fun h => by_contra fun hu => hrefused ⟨h, hu⟩, ?_⟩
    exact leaves_of_accepted (.updateAssignedTo id userId) (if_neg hrefused)
      (IncidentTable.updateAssignedTo_rows ..) (List.append_nil _).symm

/-- A new incident is refused when another one is active on its machine. -/
lemma insertIncident_leaves (db : Records) (v : NewIncident) :
    (∃ db', Records.exec (.insertIncident v) db = (.ok (some db.world.incidents.nextId), db')
        ∧ Leaves db (db.world.incidents.rows
          ++ [.opened v db.world.now db.world.incidents.nextId]) [] db')
      ∨ (∃ r ∈ db.world.incidents.rows, r.ActiveFor v.machineId)
        ∧ ∃ db', Records.exec (.insertIncident v) db = (.ok none, db')
          ∧ Leaves db db.world.incidents.rows [] db' := by
  have hevents : (World.exec (.insertIncident v) db.world).2.incidentEvents
      = db.world.incidentEvents ++ [] := (List.append_nil _).symm
  rcases db.world.incidents.insertIncident_cases v db.world.now with
    ⟨t', hins, hrows⟩ | ⟨hins, hactive⟩
  · have hrows' : (World.exec (.insertIncident v) db.world).2.incidents.rows
        = db.world.incidents.rows ++ [.opened v db.world.now db.world.incidents.nextId] := by
      rw [World.exec, hins, hrows]
    obtain ⟨db', hexec, hleaves⟩ := leaves_of_accepted (.insertIncident v) rfl hrows' hevents
    refine .inl ⟨db', ?_, hleaves⟩
    rw [hexec, World.exec, hins]
  · have hrows' : (World.exec (.insertIncident v) db.world).2.incidents.rows
        = db.world.incidents.rows := by rw [World.exec, hins]
    obtain ⟨db', hexec, hleaves⟩ := leaves_of_accepted (.insertIncident v) rfl hrows' hevents
    refine .inr ⟨hactive, db', ?_, hleaves⟩
    rw [hexec, World.exec, hins]

/-- Notes are never refused. -/
lemma updateResolutionNotes_leaves (db : Records) (id : IncidentId) (notes : String) :
    ∃ db', Records.exec (.updateResolutionNotes id notes) db = (.ok (), db')
      ∧ Leaves db (db.world.incidents.rows.map (.withResolutionNotes id notes)) [] db' :=
  leaves_of_accepted (.updateResolutionNotes id notes) rfl
    (IncidentTable.updateResolutionNotes_rows ..) (List.append_nil _).symm

/-! ### The operations of the store -/

/-- The row `_log_event` inserts. -/
def logged (now : Time) (incidentId : IncidentId) (eventType : IncidentEventType)
    (actorUserId : Option String) (oldValue newValue note : String) : IncidentEventRow :=
  eventRow { incidentId, eventType, actorUserId, note,
             oldValue := nullIfEmpty oldValue, newValue := nullIfEmpty newValue } now

/-- An event is written unless its incident or its actor does not exist. -/
lemma logEvent_cases (db : Records) (incidentId : IncidentId) (eventType : IncidentEventType)
    (actorUserId : Option String) (oldValue newValue note : String) :
    ((db.HasIncident incidentId ∧ ∀ u ∈ actorUserId, db.HasUser u)
        ∧ ∃ db', (Store.logEvent incidentId eventType actorUserId oldValue newValue note).eval
            Records.exec db = (.ok (), db')
          ∧ Leaves db db.world.incidents.rows
            [logged db.world.now incidentId eventType actorUserId oldValue newValue note] db')
      ∨ ¬ (db.HasIncident incidentId ∧ ∀ u ∈ actorUserId, db.HasUser u)
        ∧ (Store.logEvent incidentId eventType actorUserId oldValue newValue note).eval
            Records.exec db = (.error (missingReference "incident_events"), db) := by
  rw [Store.logEvent, Prog.eval_issue]
  exact insertIncidentEvent_cases db ⟨incidentId, eventType, actorUserId, nullIfEmpty oldValue,
    nullIfEmpty newValue, note⟩

/-- An incident that is moved or assigned is still there. -/
lemma hasIncident_of_map {db' : Records} {r : IncidentRow} (hr : r ∈ db.world.incidents.rows)
    {f : IncidentRow → IncidentRow} (hf : ∀ a, (f a).id = a.id)
    {events : List IncidentEventRow}
    (h : Leaves db (db.world.incidents.rows.map f) events db') : db'.HasIncident r.id := by
  refine ⟨f r, ?_, hf r⟩
  rw [h.rows]
  exact List.mem_map_of_mem hr

section Transition

variable {id : IncidentId} {newStatus : String} (actorUserId : Option String) (note : String)
  {r : IncidentRow} {status : IncidentStatus}

/-- There is nothing to move. -/
lemma eval_transition_missing (hfind : db.world.incidents.find id = none) :
    (Store.transition id newStatus actorUserId note).eval Records.exec db
      = (.error ⟨.runtimeError, "load incident " ++ toString id ++ ": not found"⟩, db) := by
  show Prog.eval _ (Prog.bind _ _) db = _
  rw [Prog.eval_issue_bind, exec_selectIncidentStatus, hfind]
  rfl

/-- The move is not one of the state machine. -/
lemma eval_transition_invalid (hfind : db.world.incidents.find id = some r)
    (h : (IncidentStatus.ofText newStatus).filter (isValidTransition r.status) = none) :
    (Store.transition id newStatus actorUserId note).eval Records.exec db
      = (.error ⟨.valueError, "invalid incident transition " ++ r.status.text ++ " -> "
        ++ newStatus⟩, db) := by
  show Prog.eval _ (Prog.bind _ _) db = _
  rw [Prog.eval_issue_bind, exec_selectIncidentStatus, hfind, Option.map_some]
  dsimp only
  rw [h]
  rfl

/-- It is, and the two writes follow. -/
lemma eval_transition_valid (hfind : db.world.incidents.find id = some r)
    (h : (IncidentStatus.ofText newStatus).filter (isValidTransition r.status) = some status) :
    (Store.transition id newStatus actorUserId note).eval Records.exec db
      = Prog.eval Records.exec
        (Prog.bind (Alerting.issue (.updateIncidentStatus id status)) fun _ =>
          Store.logEvent id .STATUS_CHANGE actorUserId r.status.text newStatus note) db := by
  show Prog.eval _ (Prog.bind _ _) db = _
  rw [Prog.eval_issue_bind, exec_selectIncidentStatus, hfind, Option.map_some]
  dsimp only
  rw [h]
  rfl

end Transition

/-- An incident is moved, and the move is logged if its actor exists. -/
structure Moves (db : Records) (id : IncidentId) (newStatus : String)
    (actorUserId : Option String) (note : String) (r : IncidentRow) (status : IncidentStatus)
    (out : Except PyError Unit × Records) : Prop where
  mem : r ∈ db.world.incidents.rows
  id_eq : r.id = id
  named : IncidentStatus.ofText newStatus = some status
  valid : isValidTransition r.status status = true
  free : ¬ db.Blocked id status
  outcome : (∀ u ∈ actorUserId, db.HasUser u) ∧ out.1 = .ok ()
      ∧ Leaves db (db.world.incidents.rows.map (.withStatus id status db.world.now))
        [logged db.world.now id .STATUS_CHANGE actorUserId r.status.text newStatus note] out.2
    ∨ (¬ ∀ u ∈ actorUserId, db.HasUser u)
      ∧ out.1 = .error (missingReference "incident_events")
      ∧ Leaves db (db.world.incidents.rows.map (.withStatus id status db.world.now)) [] out.2

/-- A transition is rejected, with no row or event touched, or moves its incident. -/
lemma transition_cases (db : Records) (id : IncidentId) (newStatus : String)
    (actorUserId : Option String) (note : String) :
    ((∀ r ∈ db.world.incidents.rows, r.id = id → ∀ status,
          IncidentStatus.ofText newStatus = some status →
          isValidTransition r.status status = true → db.Blocked id status)
        ∧ ∃ e db', (Store.transition id newStatus actorUserId note).eval Records.exec db
            = (.error e, db')
          ∧ Leaves db db.world.incidents.rows [] db')
      ∨ ∃ r status, Moves db id newStatus actorUserId note r status
          ((Store.transition id newStatus actorUserId note).eval Records.exec db) := by
  cases hfind : db.world.incidents.find id with
  | none =>
      refine .inl ⟨fun r hr hid => ?_, _, db,
        eval_transition_missing actorUserId note hfind, Leaves.refl db⟩
      exact absurd hid (by simpa using List.find?_eq_none.mp hfind r hr)
  | some r =>
      have hr : r ∈ db.world.incidents.rows := List.mem_of_find?_eq_some hfind
      obtain rfl : r.id = id := by simpa using List.find?_some hfind
      cases hfilter : (IncidentStatus.ofText newStatus).filter (isValidTransition r.status) with
      | none =>
          refine .inl ⟨fun r' hr' hid status hst hvalid => ?_, _, db,
            eval_transition_invalid actorUserId note hfind hfilter, Leaves.refl db⟩
          rw [db.world.incidents.eq_of_id_eq hr' hr hid] at hvalid
          rw [hst, Option.filter_some_pos hvalid] at hfilter
          cases hfilter
      | some status =>
          obtain ⟨hst, hvalid⟩ := Option.filter_eq_some_iff.mp hfilter
          have heval := eval_transition_valid actorUserId note hfind hfilter
          rw [Prog.eval_issue_bind] at heval
          rcases updateIncidentStatus_cases hr status with
            ⟨hblocked, db', hexec, hleaves⟩ | ⟨hfree, db₁, hexec, hmoved⟩
          · rw [hexec] at heval
            refine .inl ⟨fun r' hr' hid status' hst' _ => ?_, _, db', heval, hleaves⟩
            obtain rfl : status = status' := Option.some.inj (hst.symm.trans hst')
            exact hblocked
          · rw [hexec] at heval
            refine .inr ⟨r, status, hr, rfl, hst, hvalid, hfree, ?_⟩
            have hthere := hasIncident_of_map hr
              (IncidentRow.withStatus_id r.id status db.world.now) hmoved
            have hknown : (∀ u ∈ actorUserId, db₁.HasUser u) ↔ ∀ u ∈ actorUserId, db.HasUser u :=
              forall₂_congr fun u _ => hmoved.hasUser_iff u
            rw [heval]
            rcases logEvent_cases db₁ r.id .STATUS_CHANGE actorUserId r.status.text newStatus
                note with ⟨⟨-, hactor⟩, db', hlog, hlogged⟩ | ⟨hunknown, hlog⟩
            · have htrans := hmoved.trans hlogged
              rw [hmoved.rows, hmoved.now, List.nil_append] at htrans
              exact .inl ⟨hknown.mp hactor, congrArg Prod.fst hlog,
                (congrArg Prod.snd hlog).symm ▸ htrans⟩
            · exact .inr ⟨fun h => hunknown ⟨hthere, hknown.mpr h⟩, congrArg Prod.fst hlog,
                (congrArg Prod.snd hlog).symm ▸ hmoved⟩

/-- A resolution writes its notes, and goes on as a transition. -/
lemma eval_resolve (db : Records) (id : IncidentId) (notes : String)
    (actorUserId : Option String) :
    ∃ db', Leaves db (db.world.incidents.rows.map (.withResolutionNotes id notes)) [] db'
      ∧ (Store.resolve id notes actorUserId).eval Records.exec db
        = (Store.transition id "RESOLVED" actorUserId notes).eval Records.exec db' := by
  obtain ⟨db', hexec, hleaves⟩ := updateResolutionNotes_leaves db id notes
  refine ⟨db', hleaves, ?_⟩
  show Prog.eval _ (Prog.bind _ _) db = _
  rw [Prog.eval_issue_bind, hexec]

/-- An assignment is rejected, with no row or event touched, or assigns its incident to a user;
then the event is missing if its actor is no user. -/
lemma assign_cases (db : Records) (id : IncidentId) (userId : String)
    (actorUserId : Option String) :
    ((db.HasIncident id → ¬ db.HasUser userId)
        ∧ ∃ e db', (Store.assign id userId actorUserId).eval Records.exec db = (.error e, db')
          ∧ Leaves db db.world.incidents.rows [] db')
      ∨ db.HasIncident id ∧ db.HasUser userId
        ∧ ((∃ db', (Store.assign id userId actorUserId).eval Records.exec db = (.ok (), db')
            ∧ Leaves db (db.world.incidents.rows.map (.withAssignedTo id userId))
              [logged db.world.now id .ASSIGNMENT actorUserId "" userId
                ("assigned to technician " ++ userId)] db')
          ∨ ∃ e db', (Store.assign id userId actorUserId).eval Records.exec db = (.error e, db')
            ∧ Leaves db (db.world.incidents.rows.map (.withAssignedTo id userId)) [] db') := by
  have heval : (Store.assign id userId actorUserId).eval Records.exec db
      = Prog.eval Records.exec (Prog.bind (Alerting.issue (.updateAssignedTo id userId)) fun _ =>
        Store.logEvent id .ASSIGNMENT actorUserId "" userId
          ("assigned to technician " ++ userId)) db := rfl
  rw [Prog.eval_issue_bind] at heval
  rw [heval]
  rcases updateAssignedTo_cases db id userId with ⟨-, hunknown, hexec⟩ | ⟨huser, db₁, hexec, hset⟩
  · rw [hexec]
    exact .inl ⟨fun _ => hunknown, _, db, rfl, Leaves.refl db⟩
  · rw [hexec]
    by_cases hid : db.HasIncident id
    · obtain ⟨r, hr, rfl⟩ := hid
      refine .inr ⟨⟨r, hr, rfl⟩, huser ⟨r, hr, rfl⟩, ?_⟩
      rcases logEvent_cases db₁ r.id .ASSIGNMENT actorUserId "" userId
          ("assigned to technician " ++ userId) with ⟨-, db', hlog, hlogged⟩ | ⟨-, hlog⟩
      · have htrans := hset.trans hlogged
        rw [hset.rows, hset.now, List.nil_append] at htrans
        exact .inl ⟨db', hlog, htrans⟩
      · exact .inr ⟨_, db₁, hlog, hset⟩
    · -- Without such an incident no row changes, and the event has nothing to refer to.
      have hsame : db.world.incidents.rows.map (IncidentRow.withAssignedTo id userId)
          = db.world.incidents.rows := by
        refine (List.map_congr_left fun r hr => if_neg fun h => hid ⟨r, hr, h⟩).trans ?_
        exact List.map_id _
      rw [hsame] at hset
      have hgone : ¬ db₁.HasIncident id := by
        rintro ⟨r, hr, hrid⟩
        rw [hset.rows] at hr
        exact hid ⟨r, hr, hrid⟩
      rcases logEvent_cases db₁ id .ASSIGNMENT actorUserId "" userId
          ("assigned to technician " ++ userId) with ⟨hin, -⟩ | ⟨-, hlog⟩
      · exact absurd hin.1 hgone
      · exact .inl ⟨fun h => absurd h hid, _, db₁, hlog, hset⟩

/-- An alert whose machine has an active incident is attached to it. -/
lemma eval_openOrAttach_attached {alert : AlertRef} {r : IncidentRow}
    (hmachine : alert.machineId ≠ "")
    (hactive : db.world.incidents.activeFor alert.machineId = some r) :
    ∃ db', (Store.openOrAttach alert).eval Records.exec db = (.ok (r.id, false), db')
      ∧ Leaves db db.world.incidents.rows
        [logged db.world.now r.id .ALERT_ATTACHED none "" ""
          (Store.attachedNote alert.id alert.severity alert.title)] db' := by
  have hthere : db.HasIncident r.id := ⟨r, List.mem_of_find?_eq_some hactive, rfl⟩
  rcases logEvent_cases db r.id .ALERT_ATTACHED none "" ""
      (Store.attachedNote alert.id alert.severity alert.title) with
    ⟨-, db', hlog, hlogged⟩ | ⟨hunknown, -⟩
  · refine ⟨db', ?_, hlogged⟩
    show Prog.eval _ (Prog.bind _ _) db = _
    rw [Prog.eval_issue_bind, exec_selectActiveIncident, World.exec, if_neg hmachine, hactive]
    show Prog.eval _ (Prog.bind _ _) db = _
    rw [Prog.eval_bind, hlog]
    rfl
  · exact absurd ⟨hthere, fun u hu => absurd hu (Option.not_mem_none u)⟩ hunknown

/-- An alert whose machine has none opens one. -/
lemma eval_openOrAttach_opened {alert : AlertRef} (hmachine : alert.machineId ≠ "")
    (hactive : db.world.incidents.activeFor alert.machineId = none) :
    ∃ db', (Store.openOrAttach alert).eval Records.exec db
        = (.ok (db.world.incidents.nextId, true), db')
      ∧ Leaves db (db.world.incidents.rows
          ++ [.opened (Store.newIncident alert) db.world.now db.world.incidents.nextId])
        [logged db.world.now db.world.incidents.nextId .STATUS_CHANGE none "" "OPEN"
          ("incident opened from alert " ++ alertIdText alert.id)] db' := by
  have hnew : (Store.newIncident alert).machineId = some alert.machineId := if_neg hmachine
  rcases insertIncident_leaves db (Store.newIncident alert) with
    ⟨db₁, hinsert, hopened⟩ | ⟨⟨r, hr, hact⟩, -⟩
  · have hthere : db₁.HasIncident db.world.incidents.nextId := by
      refine ⟨.opened (Store.newIncident alert) db.world.now db.world.incidents.nextId, ?_, rfl⟩
      rw [hopened.rows]
      exact List.mem_append_right _ (List.mem_singleton.mpr rfl)
    rcases logEvent_cases db₁ db.world.incidents.nextId .STATUS_CHANGE none "" "OPEN"
        ("incident opened from alert " ++ alertIdText alert.id) with
      ⟨-, db', hlog, hlogged⟩ | ⟨hunknown, -⟩
    · have htrans := hopened.trans hlogged
      rw [hopened.rows, hopened.now, List.nil_append] at htrans
      refine ⟨db', ?_, htrans⟩
      show Prog.eval _ (Prog.bind _ _) db = _
      rw [Prog.eval_issue_bind, exec_selectActiveIncident, World.exec, if_neg hmachine, hactive]
      show Prog.eval _ (Prog.bind _ _) db = _
      rw [Prog.eval_issue_bind, hinsert]
      show Prog.eval _ (Prog.bind _ _) db₁ = _
      rw [Prog.eval_bind, hlog]
      rfl
    · exact absurd ⟨hthere, fun u hu => absurd hu (Option.not_mem_none u)⟩ hunknown
  · rw [hnew] at hact
    exact absurd hact (IncidentTable.activeFor_eq_none_iff.mp hactive r hr)

/-- Linking an alert is rejected, with no row or event touched, or attaches the alert to the
incident that is active on its machine, or opens one. -/
lemma openOrAttach_cases (db : Records) (alert : AlertRef) :
    (∃ e, (Store.openOrAttach alert).eval Records.exec db = (.error e, db))
      ∨ (∃ r ∈ db.world.incidents.rows, r.ActiveFor (some alert.machineId)
        ∧ ∃ db', (Store.openOrAttach alert).eval Records.exec db = (.ok (r.id, false), db')
          ∧ Leaves db db.world.incidents.rows
            [logged db.world.now r.id .ALERT_ATTACHED none "" ""
              (Store.attachedNote alert.id alert.severity alert.title)] db')
      ∨ (∀ r ∈ db.world.incidents.rows, ¬ r.ActiveFor (some alert.machineId))
        ∧ ∃ db', (Store.openOrAttach alert).eval Records.exec db
            = (.ok (db.world.incidents.nextId, true), db')
          ∧ Leaves db (db.world.incidents.rows
              ++ [.opened (Store.newIncident alert) db.world.now db.world.incidents.nextId])
            [logged db.world.now db.world.incidents.nextId .STATUS_CHANGE none "" "OPEN"
              ("incident opened from alert " ++ alertIdText alert.id)] db' := by
  by_cases hmachine : alert.machineId = ""
  · refine .inl ⟨⟨.external, "invalid input syntax for type uuid: \"\""⟩, ?_⟩
    show Prog.eval _ (Prog.bind _ _) db = _
    rw [Prog.eval_issue_bind, exec_selectActiveIncident, World.exec, if_pos hmachine]
  · refine .inr ?_
    cases hactive : db.world.incidents.activeFor alert.machineId with
    | some r =>
        have hon : r.ActiveFor (some alert.machineId) := by
          simpa only [decide_eq_true_eq] using List.find?_some hactive
        exact .inl ⟨r, List.mem_of_find?_eq_some hactive, hon,
          eval_openOrAttach_attached hmachine hactive⟩
    | none =>
        exact .inr ⟨IncidentTable.activeFor_eq_none_iff.mp hactive,
          eval_openOrAttach_opened hmachine hactive⟩

/-! ### Calls one after the other -/

/-- The calls of the store's writing operations. -/
inductive Call where
  | openOrAttach (alert : AlertRef)
  | transition (incidentId : IncidentId) (newStatus : String) (actorUserId : Option String)
      (note : String)
  | assign (incidentId : IncidentId) (userId : String) (actorUserId : Option String)
  | resolve (incidentId : IncidentId) (resolutionNotes : String) (actorUserId : Option String)

/-- What a call returns: the pair of `open_or_attach`, nothing for the others. -/
abbrev Call.Result : Call → Type
  | openOrAttach _ => IncidentId × Bool
  | transition _ _ _ _ => Unit
  | assign _ _ _ => Unit
  | resolve _ _ _ => Unit

/-- The program of a call. -/
def Call.prog : (call : Call) → Alerting.Prog call.Result
  | openOrAttach alert => Store.openOrAttach alert
  | transition incidentId newStatus actorUserId note =>
      Store.transition incidentId newStatus actorUserId note
  | assign incidentId userId actorUserId => Store.assign incidentId userId actorUserId
  | resolve incidentId resolutionNotes actorUserId =>
      Store.resolve incidentId resolutionNotes actorUserId

/-- A call, `elapsed` microseconds after the one before it. -/
structure Turn where
  elapsed : ℕ
  call : Call

/-- What the call returns or raises, and the database after it. -/
def Turn.outcome (db : Records) (t : Turn) : Except PyError t.call.Result × Records :=
  t.call.prog.eval Records.exec (db.tick t.elapsed)

/-- The database after a call. -/
def Turn.run (db : Records) (t : Turn) : Records := (t.outcome db).2

/-- An alert on the machine `m1`. -/
def pumpAlert (id : AlertId) : AlertRef where
  id := some id
  organizationId := "org"
  severity := .HIGH
  machineId := "m1"

end Incidents

end InduSense
