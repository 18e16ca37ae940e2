import InduSense.Incidents.Calls
import InduSense.Statement.Schedule

/-!
The event log of an incident tells its history.

* `Replays`: status changes that lead, edge by edge, from the opening to a status.
* `Trail`: the invariant of the log; `Trail.kept`, `Trail.moved`, `Trail.opened`: what the
  operations do to it.
* `audit_trail`: after any calls whose events are not refused for their actors, the log of each
  incident replays to its status, and counts the alerts attached to it.
-/

namespace InduSense

open Api (Records)
open Api.Records (missingReference)
open Statement (EachStep)

namespace Incidents

/-! ### The log -/

/-- The status changes of an incident, in the order of the log. -/
def statusChanges (events : List IncidentEventRow) (id : IncidentId) : List IncidentEventRow :=
  events.filter fun e => e.incidentId = id ∧ e.eventType = .STATUS_CHANGE

/-- How many alerts the log has attached to an incident. -/
def attachments (events : List IncidentEventRow) (id : IncidentId) : ℕ :=
  (events.filter fun e => e.incidentId = id ∧ e.eventType = .ALERT_ATTACHED).length

/-- The event `e'` takes up where `e` ends, and its step is an edge of `_VALID_TRANSITIONS`. -/
def Follows (e e' : IncidentEventRow) : Prop :=
  e'.oldValue = e.newValue
    ∧ ∃ s s', isValidTransition s s' = true ∧ e'.oldValue = some s.text
      ∧ e'.newValue = some s'.text

/-- The status changes start with `OPEN`, follow each other, and end with the status. -/
structure Replays (changes : List IncidentEventRow) (status : IncidentStatus) : Prop where
  starts : ∃ e ∈ changes.head?, e.newValue = some "OPEN"
  linked : changes.IsChain Follows
  ends : ∃ e ∈ changes.getLast?, e.newValue = some status.text

lemma statusChanges_append (l l' : List IncidentEventRow) (id : IncidentId) :
    statusChanges (l ++ l') id = statusChanges l id ++ statusChanges l' id :=
  List.filter_append ..

lemma attachments_append (l l' : List IncidentEventRow) (id : IncidentId) :
    attachments (l ++ l') id = attachments l id + attachments l' id := by
  rw [attachments, List.filter_append, List.length_append, attachments, attachments]

/-- An event is in the log of its incident only. -/
lemma statusChanges_logged (now : Time) (id : IncidentId) (eventType : IncidentEventType)
    (actorUserId : Option String) (oldValue newValue note : String) (id' : IncidentId) :
    statusChanges [logged now id eventType actorUserId oldValue newValue note] id'
      = if id = id' ∧ eventType = .STATUS_CHANGE
        then [logged now id eventType actorUserId oldValue newValue note] else [] := by
  rw [statusChanges, List.filter_cons, List.filter_nil]
  exact if_congr decide_eq_true_iff rfl rfl

lemma attachments_logged (now : Time) (id : IncidentId) (eventType : IncidentEventType)
    (actorUserId : Option String) (oldValue newValue note : String) (id' : IncidentId) :
    attachments [logged now id eventType actorUserId oldValue newValue note] id'
      = if id = id' ∧ eventType = .ALERT_ATTACHED then 1 else 0 := by
  rw [attachments, List.filter_cons, List.filter_nil, apply_ite List.length]
  exact if_congr decide_eq_true_iff rfl rfl

/-- The log of a new incident. -/
lemma Replays.opened {e : IncidentEventRow} (h : e.newValue = some "OPEN") :
    Replays [e] .OPEN where
  starts := ⟨e, rfl, h⟩
  linked := List.isChain_singleton e
  ends := ⟨e, rfl, h⟩

/-- A move adds its edge to the log. -/
lemma Replays.moved {changes : List IncidentEventRow} {s s' : IncidentStatus}
    (h : Replays changes s) (hvalid : isValidTransition s s' = true) {e : IncidentEventRow}
    (hold : e.oldValue = some s.text) (hnew : e.newValue = some s'.text) :
    Replays (changes ++ [e]) s' where
  starts := by
    obtain ⟨e₀, he₀, hopen⟩ := h.starts
    exact ⟨e₀, List.mem_head?_append_of_mem_head? he₀, hopen⟩
  linked := by
    refine List.isChain_append.mpr ⟨h.linked, List.isChain_singleton e, ?_⟩
    obtain ⟨e₁, he₁, hlast⟩ := h.ends
    intro e₂ he₂ e' he'
    obtain rfl := Option.mem_unique he₁ he₂
    obtain rfl : e = e' := by simpa using he'
    exact ⟨hold.trans hlast.symm, s, s', hvalid, hold, hnew⟩
  ends := ⟨e, by simp, hnew⟩

/-! ### The invariant -/

/-- The log of every incident replays to its status and attaches as many alerts as counted, and
there is no event of an incident that does not exist. -/
structure Trail (attached : IncidentId → ℕ) (db : Records) : Prop where
  known : ∀ e ∈ db.world.incidentEvents, db.HasIncident e.incidentId
  replays : ∀ r ∈ db.world.incidents.rows,
    Replays (statusChanges db.world.incidentEvents r.id) r.status
  attached_eq : ∀ id, attachments db.world.incidentEvents id = attached id

variable {attached attached' : IncidentId → ℕ} {db db' : Records} {rows : List IncidentRow}
  {events : List IncidentEventRow}

/-- Without a status change every incident keeps its status. -/
lemma Trail.kept (h : Trail attached db) (hleaves : Leaves db rows events db')
    (hkept : ∀ r' ∈ rows, ∃ r ∈ db.world.incidents.rows, r.id = r'.id ∧ r.status = r'.status)
    (hthere : ∀ r ∈ db.world.incidents.rows, ∃ r' ∈ rows, r'.id = r.id)
    (hknown : ∀ e ∈ events, db.HasIncident e.incidentId ∧ e.eventType ≠ .STATUS_CHANGE)
    (hattached : ∀ id, attached' id = attached id + attachments events id) :
    Trail attached' db' where
  known := by
    have hstill : ∀ id, db.HasIncident id → db'.HasIncident id := by
      rintro id ⟨r, hr, rfl⟩
      obtain ⟨r', hr', hid⟩ := hthere r hr
      exact ⟨r', hleaves.rows ▸ hr', hid⟩
    intro e he
    rw [hleaves.events, List.mem_append] at he
    exact he.elim (fun he => hstill _ (h.known e he)) fun he => hstill _ (hknown e he).1
  replays := by
    intro r' hr'
    rw [hleaves.rows] at hr'
    obtain ⟨r, hr, hid, hstatus⟩ := hkept r' hr'
    have hnone : statusChanges events r'.id = [] := by
      refine List.filter_eq_nil_iff.mpr fun e he => ?_
      simp [(hknown e he).2]
    rw [hleaves.events, statusChanges_append, hnone, List.append_nil, ← hid, ← hstatus]
    exact h.replays r hr
  attached_eq := by
    intro id
    rw [hleaves.events, attachments_append, h.attached_eq, hattached]

/-- So it is where the rows are as they were. -/
lemma Trail.sameRows (h : Trail attached db)
    (hleaves : Leaves db db.world.incidents.rows events db')
    (hknown : ∀ e ∈ events, db.HasIncident e.incidentId ∧ e.eventType ≠ .STATUS_CHANGE)
    (hattached : ∀ id, attached' id = attached id + attachments events id) :
    Trail attached' db' :=
  h.kept hleaves (fun r hr => ⟨r, hr, rfl, rfl⟩) (fun r hr => ⟨r, hr, rfl⟩) hknown hattached

/-- And where each row has other columns changed. -/
lemma Trail.mapped (h : Trail attached db) {f : IncidentRow → IncidentRow}
    (hid : ∀ r, (f r).id = r.id) (hstatus : ∀ r, (f r).status = r.status)
    (hleaves : Leaves db (db.world.incidents.rows.map f) events db')
    (hknown : ∀ e ∈ events, db.HasIncident e.incidentId ∧ e.eventType ≠ .STATUS_CHANGE)
    (hattached : ∀ id, attached' id = attached id + attachments events id) :
    Trail attached' db' := by
  refine h.kept hleaves (fun r' hr' => ?_) (fun r hr => ⟨f r, List.mem_map_of_mem hr, hid r⟩)
    hknown hattached
  obtain ⟨r, hr, rfl⟩ := List.mem_map.mp hr'
  exact ⟨r, hr, (hid r).symm, (hstatus r).symm⟩

/-- A move is logged. -/
lemma Trail.moved (h : Trail attached db) {r : IncidentRow} (hr : r ∈ db.world.incidents.rows)
    {status : IncidentStatus} (hvalid : isValidTransition r.status status = true) {now now' : Time}
    {actorUserId : Option String} {note : String}
    (hleaves : Leaves db (db.world.incidents.rows.map (.withStatus r.id status now))
      [logged now' r.id .STATUS_CHANGE actorUserId r.status.text status.text note] db') :
    Trail attached db' where
  known := by
    intro e he
    rw [hleaves.events, List.mem_append, List.mem_singleton] at he
    have hin : db.HasIncident e.incidentId := he.elim (h.known e) fun he => he ▸ ⟨r, hr, rfl⟩
    obtain ⟨r₁, hr₁, hid⟩ := hin
    exact hid ▸ hasIncident_of_map hr₁ (IncidentRow.withStatus_id r.id status now) hleaves
  replays := by
    intro r' hr'
    rw [hleaves.rows] at hr'
    obtain ⟨r₁, hr₁, rfl⟩ := List.mem_map.mp hr'
    rw [IncidentRow.withStatus_id, IncidentRow.withStatus_status, hleaves.events,
      statusChanges_append]
    by_cases hid : r₁.id = r.id
    · obtain rfl := db.world.incidents.eq_of_id_eq hr₁ hr hid
      have htext : ∀ s : IncidentStatus, nullIfEmpty s.text = some s.text := by
        intro s
        cases s <;> rfl
      rw [if_pos rfl, statusChanges_logged, if_pos ⟨rfl, rfl⟩]
      exact (h.replays r₁ hr₁).moved hvalid (htext _) (htext _)
    · rw [if_neg hid, statusChanges_logged, if_neg fun h => hid h.1.symm, List.append_nil]
      exact h.replays r₁ hr₁
  attached_eq := by
    intro id
    rw [hleaves.events, attachments_append, h.attached_eq, attachments_logged,
      if_neg (fun h => nomatch h.2),
      Nat.add_zero]

/-- The log of a new incident begins with its opening. -/
lemma Trail.opened (h : Trail attached db) {v : NewIncident} {now now' : Time}
    {actorUserId : Option String} {note : String}
    (hleaves : Leaves db (db.world.incidents.rows ++ [.opened v now db.world.incidents.nextId])
      [logged now' db.world.incidents.nextId .STATUS_CHANGE actorUserId "" "OPEN" note] db') :
    Trail attached db' where
  known := by
    intro e he
    rw [hleaves.events, List.mem_append, List.mem_singleton] at he
    rcases he with he | rfl
    · obtain ⟨r, hr, hid⟩ := h.known e he
      exact ⟨r, by rw [hleaves.rows]; exact List.mem_append_left _ hr, hid⟩
    · exact ⟨.opened v now db.world.incidents.nextId,
        by rw [hleaves.rows]; exact List.mem_append_right _ (List.mem_singleton.mpr rfl), rfl⟩
  replays := by
    intro r hr
    rw [hleaves.rows, List.mem_append, List.mem_singleton] at hr
    rw [hleaves.events, statusChanges_append]
    rcases hr with hr | rfl
    · have hne : db.world.incidents.nextId ≠ r.id :=
        (db.world.incidents.id_lt r hr).ne'
      rw [statusChanges_logged, if_neg fun h => hne h.1, List.append_nil]
      exact h.replays r hr
    · -- The id is new, so that no event of the log is about it.
      have hnone : statusChanges db.world.incidentEvents db.world.incidents.nextId = [] := by
        refine List.filter_eq_nil_iff.mpr fun e he => ?_
        obtain ⟨r, hr, hid⟩ := h.known e he
        have hlt := db.world.incidents.id_lt r hr
        rw [decide_eq_true_eq, ← hid]
        exact fun hnew => hlt.ne hnew.1
      show Replays (statusChanges _ db.world.incidents.nextId ++ statusChanges _ _) .OPEN
      rw [hnone, List.nil_append, statusChanges_logged, if_pos ⟨rfl, rfl⟩]
      exact Replays.opened rfl
  attached_eq := by
    intro id
    rw [hleaves.events, attachments_append, h.attached_eq, attachments_logged,
      if_neg (fun h => nomatch h.2),
      Nat.add_zero]

/-! ### Runs -/

/-- The incident a call attaches its alert to: it returns `(incident, False)`. -/
def Turn.attachedTo (db : Records) : Turn → Option IncidentId
  | ⟨elapsed, .openOrAttach alert⟩ =>
      match (Turn.outcome db ⟨elapsed, .openOrAttach alert⟩).1 with
      | .ok (id, false) => some id
      | _ => none
  | _ => none

/-- How many of the calls returned `(id, False)`. -/
def attachedCalls (id : IncidentId) : List Turn → Records → ℕ
  | [], _ => 0
  | t :: turns, db =>
      (if t.attachedTo db = some id then 1 else 0) + attachedCalls id turns (t.run db)

/-- Who a call says to act. -/
def Call.actorUserId : Call → Option String
  | openOrAttach _ => none
  | transition _ _ actorUserId _ => actorUserId
  | assign _ _ actorUserId => actorUserId
  | resolve _ _ actorUserId => actorUserId

/-- The database does not fail the call: the event that follows its write is not refused for its
actor. -/
def Turn.FailureFree (db : Records) (t : Turn) : Prop :=
  (t.outcome db).1 = .error (missingReference "incident_events") →
    ∀ u ∈ t.call.actorUserId, db.HasUser u

/-- The call raises. -/
def Turn.Rejected (db : Records) (t : Turn) : Prop := ∃ e, (t.outcome db).1 = .error e

/-- A transition leaves its trail. -/
lemma Trail.transition {db : Records} (h : Trail attached db) (id : IncidentId) (newStatus : String)
    (actorUserId : Option String) (note : String)
    (hfree : ((Store.transition id newStatus actorUserId note).eval Records.exec db).1
      = .error (missingReference "incident_events") → ∀ u ∈ actorUserId, db.HasUser u) :
    Trail attached ((Store.transition id newStatus actorUserId note).eval Records.exec db).2 := by
  rcases transition_cases db id newStatus actorUserId note with
    ⟨-, e, db', heval, hleaves⟩ | ⟨r, status, hmoves⟩
  · rw [heval]
    exact h.sameRows hleaves nofun fun _ => rfl
  · obtain rfl : status.text = newStatus := by
      have hfound := List.find?_some hmoves.named
      rwa [decide_eq_true_eq] at hfound
    obtain rfl := hmoves.id_eq
    rcases hmoves.outcome with ⟨-, -, hleaves⟩ | ⟨hunknown, herr, -⟩
    · exact h.moved hmoves.mem hmoves.valid hleaves
    · exact absurd (hfree herr) hunknown

/-- Linking an alert counts one more alert of the incident it is attached to, if it is. -/
lemma Trail.linked {elapsed : ℕ} {alert : AlertRef} (h : Trail attached (db.tick elapsed)) :
    Trail (fun id => attached id
        + if Turn.attachedTo db ⟨elapsed, .openOrAttach alert⟩ = some id then 1 else 0)
      ((Store.openOrAttach alert).eval Records.exec (db.tick elapsed)).2 := by
  rcases openOrAttach_cases (db.tick elapsed) alert with
    ⟨e, heval⟩ | ⟨r, hr, -, db', heval, hleaves⟩ | ⟨-, db', heval, hleaves⟩
  · have hnone : Turn.attachedTo db ⟨elapsed, .openOrAttach alert⟩ = none := by
      rw [Turn.attachedTo, Turn.outcome, Call.prog, heval]
    rw [heval, hnone]
    exact h
  · have hsome : Turn.attachedTo db ⟨elapsed, .openOrAttach alert⟩ = some r.id := by
      rw [Turn.attachedTo, Turn.outcome, Call.prog, heval]
    rw [heval, hsome]
    refine h.sameRows hleaves ?_ fun id => ?_
    · intro e he
      obtain rfl := List.mem_singleton.mp he
      exact ⟨⟨r, hr, rfl⟩, nofun⟩
    · rw [attachments_logged]
      simp
  · have hnone : Turn.attachedTo db ⟨elapsed, .openOrAttach alert⟩ = none := by
      rw [Turn.attachedTo, Turn.outcome, Call.prog, heval]
    rw [heval, hnone]
    exact h.opened hleaves

/-- An assignment is logged. -/
lemma Trail.assigned (h : Trail attached db) (id : IncidentId) (userId : String)
    (actorUserId : Option String) :
    Trail attached ((Store.assign id userId actorUserId).eval Records.exec db).2 := by
  have hid := IncidentRow.withAssignedTo_id id userId
  have hstatus := IncidentRow.withAssignedTo_status id userId
  rcases assign_cases db id userId actorUserId with
    ⟨-, e, db', heval, hleaves⟩ | ⟨hthere, -, ⟨db', heval, hleaves⟩ | ⟨e, db', heval, hleaves⟩⟩
  · rw [heval]
    exact h.sameRows hleaves nofun fun _ => rfl
  · rw [heval]
    refine h.mapped hid hstatus hleaves ?_ fun id' => ?_
    · intro e he
      obtain rfl := List.mem_singleton.mp he
      exact ⟨hthere, nofun⟩
    · rw [attachments_logged, if_neg fun h => (nomatch h.2)]
      rfl
  · rw [heval]
    exact h.mapped hid hstatus hleaves nofun fun _ => rfl

/-- **What a call does to the trail**: it counts one more alert of the incident it returns, if it
attaches one. -/
lemma Trail.run {db : Records} (h : Trail attached db) {t : Turn} (hfree : t.FailureFree db) :
    Trail (fun id => attached id + if t.attachedTo db = some id then 1 else 0) (t.run db) := by
  have hticked : Trail attached (db.tick t.elapsed) := ⟨h.known, h.replays, h.attached_eq⟩
  obtain ⟨elapsed, call⟩ := t
  cases call with
  | openOrAttach alert => exact hticked.linked
  | transition id newStatus actorUserId note =>
      exact hticked.transition id newStatus actorUserId note hfree
  | assign id userId actorUserId => exact hticked.assigned id userId actorUserId
  | resolve id notes actorUserId =>
      obtain ⟨db₁, hleaves, heval⟩ := eval_resolve (db.tick elapsed) id notes actorUserId
      have hnotes : Trail attached db₁ :=
        hticked.mapped (IncidentRow.withResolutionNotes_id id notes)
          (IncidentRow.withResolutionNotes_status id notes) hleaves nofun fun _ => rfl
      show Trail attached ((Store.resolve id notes actorUserId).eval Records.exec
        (db.tick elapsed)).2
      rw [heval]
      refine hnotes.transition id "RESOLVED" actorUserId notes fun herr u hu => ?_
      rw [hleaves.hasUser_iff]
      exact hfree ((congrArg Prod.fst heval).trans herr) u hu

/-- A transition that raises adds no event. -/
lemma transition_events_of_error {db : Records} {id : IncidentId} {newStatus : String}
    {actorUserId : Option String} {note : String} {e : PyError}
    (h : ((Store.transition id newStatus actorUserId note).eval Records.exec db).1 = .error e) :
    ((Store.transition id newStatus actorUserId note).eval Records.exec db).2.world.incidentEvents
      = db.world.incidentEvents := by
  rcases transition_cases db id newStatus actorUserId note with
    ⟨-, e', db', heval, hleaves⟩ | ⟨r, status, hmoves⟩
  · rw [heval]
    exact hleaves.events_eq
  · rcases hmoves.outcome with ⟨-, hok, -⟩ | ⟨-, -, hleaves⟩
    · cases hok.symm.trans h
    · exact hleaves.events_eq

/-- A call that raises adds no event. -/
lemma events_of_error (db : Records) (call : Call) {e : PyError}
    (h : (call.prog.eval Records.exec db).1 = .error e) :
    (call.prog.eval Records.exec db).2.world.incidentEvents = db.world.incidentEvents := by
  cases call with
  | openOrAttach alert =>
      rw [Call.prog] at h ⊢
      rcases openOrAttach_cases db alert with
        ⟨e, heval⟩ | ⟨r, -, -, db', heval, -⟩ | ⟨-, db', heval, -⟩
      · rw [heval]
      · rw [heval] at h
        cases h
      · rw [heval] at h
        cases h
  | transition id newStatus actorUserId note => exact transition_events_of_error h
  | assign id userId actorUserId =>
      rw [Call.prog] at h ⊢
      rcases assign_cases db id userId actorUserId with
        ⟨-, e, db', heval, hleaves⟩ | ⟨-, -, ⟨db', heval, -⟩ | ⟨e, db', heval, hleaves⟩⟩
      · rw [heval]
        exact hleaves.events_eq
      · rw [heval] at h
        cases h
      · rw [heval]
        exact hleaves.events_eq
  | resolve id notes actorUserId =>
      obtain ⟨db₁, hleaves, heval⟩ := eval_resolve db id notes actorUserId
      rw [Call.prog, heval] at h ⊢
      exact (transition_events_of_error h).trans hleaves.events_eq

/-- The trail after a run. -/
lemma Trail.runs {turns : List Turn} {db : Records} (h : Trail attached db)
    (hfree : EachStep Turn.run (fun db t => t.FailureFree db) turns db) :
    Trail (fun id => attached id + attachedCalls id turns db) (turns.foldl Turn.run db) := by
  induction turns generalizing attached db with
  | nil => exact h
  | cons t turns ih =>
      have hrest := ih (h.run hfree.1) hfree.2
      simp only [Nat.add_assoc] at hrest
      exact hrest

/-- Fresh tables hold nothing. -/
lemma Trail.empty (users : List Api.UserRow) : Trail (fun _ => 0) (Records.empty users) where
  known := fun _ he => absurd he List.not_mem_nil
  replays := fun _ hr => absurd hr List.not_mem_nil
  attached_eq := fun _ => rfl

/-- **Audit-trail replay.** After any calls of the store, valid or not, none of whose events is
refused for its actor: the status changes of each incident replay to its status, its log attaches
an alert for each call that returned `(incident, False)`, and no call that raised added an event. -/
theorem audit_trail (users : List Api.UserRow) (turns : List Turn)
    (hfree : EachStep Turn.run (fun db t => t.FailureFree db) turns (.empty users)) :
    (∀ r ∈ (turns.foldl Turn.run (.empty users)).world.incidents.rows,
        Replays (statusChanges (turns.foldl Turn.run (.empty users)).world.incidentEvents r.id)
          r.status
        ∧ attachments (turns.foldl Turn.run (.empty users)).world.incidentEvents r.id
          = attachedCalls r.id turns (.empty users))
      ∧ EachStep Turn.run (fun db t => t.Rejected db →
          (t.run db).world.incidentEvents = db.world.incidentEvents) turns (.empty users) := by
  have htrail := (Trail.empty users).runs hfree
  simp only [Nat.zero_add] at htrail
  exact ⟨fun r hr => ⟨htrail.replays r hr, htrail.attached_eq r.id⟩,
    hfree.mono (J := fun _ => True) (fun _ _ _ => trivial)
      (fun db t _ _ ⟨_, herr⟩ => events_of_error (db.tick t.elapsed) t.call herr) trivial⟩

/-- Two alerts of a machine, a move that is not valid, one of no incident, a resolution and its
recurrence. -/
def shift : List Turn :=
  [⟨0, .openOrAttach (pumpAlert 0)⟩, ⟨5, .openOrAttach (pumpAlert 1)⟩,
    ⟨1, .transition 0 "CLOSED" (some "anna") ""⟩, ⟨1, .transition 7 "RESOLVED" none ""⟩,
    ⟨2, .resolve 0 "replaced the bearing" (some "anna")⟩,
    ⟨9, .transition 0 "INVESTIGATING" none "it is back"⟩]

theorem audit_trail_shift :
    ∃ r ∈ (shift.foldl Turn.run (.empty [⟨"anna", "org"⟩])).world.incidents.rows,
      Replays (statusChanges (shift.foldl Turn.run (.empty [⟨"anna", "org"⟩])).world.incidentEvents
        r.id) r.status
      ∧ attachments (shift.foldl Turn.run (.empty [⟨"anna", "org"⟩])).world.incidentEvents r.id
        = 1 := by
  have hactors : EachStep Turn.run (fun db t => ∀ u ∈ t.call.actorUserId, db.HasUser u) shift
      (.empty [⟨"anna", "org"⟩]) := by decide +kernel
  have hfree : ∀ (db : Records) (t : Turn), True → (∀ u ∈ t.call.actorUserId, db.HasUser u) →
      t.FailureFree db := fun _ _ _ h _ => h
  have htrail := audit_trail [⟨"anna", "org"⟩] shift
    (hactors.mono (fun _ _ _ => trivial) hfree trivial)
  obtain ⟨r, hr, hone⟩ :
      ∃ r ∈ (shift.foldl Turn.run (.empty [⟨"anna", "org"⟩])).world.incidents.rows,
        attachedCalls r.id shift (.empty [⟨"anna", "org"⟩]) = 1 := by decide +kernel
  exact ⟨r, hr, (htrail.1 r hr).1, (htrail.1 r hr).2.trans hone⟩

end Incidents

end InduSense
