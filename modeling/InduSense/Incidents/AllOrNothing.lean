import InduSense.Incidents.Calls
import InduSense.Statement.Raising

/-!
What a call that raises has done to the tables.

* `Halfway`: the write of a call is there, and not the event that logs it.
* `raises_transition`: a transition that raises has done nothing, or its event failed.
* `raised_leaves`: a call that raises has done nothing, or its event failed and it is halfway;
  a resolution may leave its notes.
* `write_without_event`: a move whose event fails.

The connections are opened with `autocommit=True`: every statement is its own transaction.
-/

namespace InduSense

open Api (Records)
open Api.Records (exec_of_read)
open Statement (Log Env)
open Statement.Prog (RaisesOnly raisesOnly_ret raisesOnly_raise raisesOnly_issue_bind
  raisesOnly_issue raisesOnly_bind)

namespace Incidents

/-- The incidents are `rows`, and no event has been added. -/
def Wrote (db : Records) (rows : List IncidentRow) (db' : Records) : Prop :=
  db'.world.incidents.rows = rows ∧ db'.world.incidentEvents = db.world.incidentEvents

/-- Both tables are as before. -/
def Untouched (db db' : Records) : Prop := Wrote db db.world.incidents.rows db'

/-- The call has made its write, and has not logged it. -/
def Halfway (db : Records) : Call → Records → Prop
  | .openOrAttach alert, db' =>
      Wrote db (db.world.incidents.rows ++ [.opened (Store.newIncident alert) db.world.now
        db.world.incidents.nextId]) db'
  | .transition id newStatus _ _, db' =>
      ∃ status, IncidentStatus.ofText newStatus = some status
        ∧ Wrote db (db.world.incidents.rows.map (.withStatus id status db.world.now)) db'
  | .assign id userId _, db' =>
      Wrote db (db.world.incidents.rows.map (.withAssignedTo id userId)) db'
  | .resolve id notes _, db' =>
      Wrote db ((db.world.incidents.rows.map (.withResolutionNotes id notes)).map
        (.withStatus id .RESOLVED db.world.now)) db'

/-- The call is a resolution, and has written its notes and nothing else. -/
def Noted (db : Records) : Call → Records → Prop
  | .resolve id notes _, db' =>
      Wrote db (db.world.incidents.rows.map (.withResolutionNotes id notes)) db'
  | _, _ => False

/-- The last statement was a failed `INSERT INTO incident_events`. -/
def EventFailed (l : Log Alerting PyError) : Prop :=
  ∃ v e, l.getLast? = some ⟨.insertIncidentEvent v, .error e⟩

/-- The last statement failed. -/
def StatementFailed (l : Log Alerting PyError) : Prop :=
  ∃ c e, l.getLast? = some ⟨c, .error e⟩

/-- There is such an incident, and its move to the status is one of the state machine. -/
def Movable (db : Records) (id : IncidentId) (newStatus : String) : Prop :=
  ∃ r ∈ db.world.incidents.rows, r.id = id ∧ ∃ status, IncidentStatus.ofText newStatus = some status
    ∧ isValidTransition r.status status = true

/-- If the call is a resolution, its incident can be resolved. -/
def Call.Resolvable (db : Records) : Call → Prop
  | .resolve id _ _ => Movable db id "RESOLVED"
  | _ => True

variable {db db₀ : Records} {l : Log Alerting PyError}

lemma Leaves.wrote {rows : List IncidentRow} {db' : Records} (h : Leaves db rows [] db') :
    Wrote db rows db' := ⟨h.rows, h.events_eq⟩

lemma untouched_refl (db : Records) : Untouched db db := (Leaves.refl db).wrote

/-- An event that fails changes nothing. -/
lemma raises_logEvent (incidentId : IncidentId) (eventType : IncidentEventType)
    (actorUserId : Option String) (oldValue newValue note : String) :
    RaisesOnly Records.exec (fun l' db' => EventFailed l' ∧ db' = db)
      (Store.logEvent incidentId eventType actorUserId oldValue newValue note) l db := by
  have hlast : ∀ (v : NewIncidentEvent) (e : PyError),
      EventFailed (l ++ [⟨.insertIncidentEvent v, .error e⟩]) :=
    fun v e => ⟨v, e, List.getLast?_concat⟩
  refine raisesOnly_issue (fun e => ⟨hlast _ e, rfl⟩) fun e db' hexec => ⟨hlast _ e, ?_⟩
  rcases insertIncidentEvent_cases db _ with ⟨-, db₁, hok, -⟩ | ⟨-, hrefused⟩
  · cases hok.symm.trans hexec
  · exact (congrArg Prod.snd (hrefused.symm.trans hexec)).symm

lemma statementFailed_concat (c : Stmt) (e : PyError) :
    StatementFailed (l ++ [⟨c, .error e⟩]) :=
  ⟨c, e, List.getLast?_concat⟩

/-- A statement that reads leaves the tables as they are, whether it fails or not. -/
lemma raises_read {α : Type} {P : Log Alerting PyError → Records → Prop} {c : Stmt}
    (hrefusal : db.refusal c = none) (hread : (World.exec c db.world).2 = db.world)
    {k : c.Answer → Alerting.Prog α} (hP : ∀ l', StatementFailed l' → P l' db)
    (hok : ∀ a, (World.exec c db.world).1 = .ok a → ∀ l', RaisesOnly Records.exec P (k a) l' db) :
    RaisesOnly Records.exec P (Statement.Prog.bind (Alerting.issue c) k) l db := by
  have hexec := exec_of_read hrefusal hread
  refine raisesOnly_issue_bind (fun e => hP _ (statementFailed_concat c e)) (fun e db' h => ?_)
    fun a db' h => ?_
  · obtain rfl : db = db' := congrArg Prod.snd (hexec.symm.trans h)
    exact hP _ (statementFailed_concat c e)
  · obtain rfl : db = db' := congrArg Prod.snd (hexec.symm.trans h)
    exact hok a (congrArg Prod.fst (hexec.symm.trans h)) _

/-- **A transition that raises** has done nothing, as its move is not valid or a statement failed;
or it has moved its incident, and its event failed. -/
lemma raises_transition (db : Records) (id : IncidentId) (newStatus : String)
    (actorUserId : Option String) (note : String) (l : Log Alerting PyError) :
    RaisesOnly Records.exec
      (fun l' db' => Untouched db db' ∧ (Movable db id newStatus → StatementFailed l')
        ∨ EventFailed l' ∧ Halfway db (.transition id newStatus actorUserId note) db')
      (Store.transition id newStatus actorUserId note) l db := by
  refine raises_read rfl rfl (fun _ hfailed => .inl ⟨untouched_refl db, fun _ => hfailed⟩)
    fun row hrow l' => ?_
  rw [World.exec] at hrow
  cases hfind : db.world.incidents.find id with
  | none =>
      rw [hfind] at hrow
      cases hrow
      refine raisesOnly_raise _ (.inl ⟨untouched_refl db, ?_⟩)
      rintro ⟨r, hr, hid, -⟩
      exact absurd hid (by simpa using List.find?_eq_none.mp hfind r hr)
  | some r =>
      rw [hfind] at hrow
      obtain rfl : some r.status = row := Except.ok.inj hrow
      dsimp only
      have hr : r ∈ db.world.incidents.rows := List.mem_of_find?_eq_some hfind
      obtain rfl : r.id = id := by simpa using List.find?_some hfind
      cases hfilter : (IncidentStatus.ofText newStatus).filter (isValidTransition r.status) with
      | none =>
          refine raisesOnly_raise _ (.inl ⟨untouched_refl db, ?_⟩)
          rintro ⟨r', hr', hid, status, hnamed, hvalid⟩
          rw [db.world.incidents.eq_of_id_eq hr' hr hid] at hvalid
          rw [hnamed, Option.filter_some_pos hvalid] at hfilter
          cases hfilter
      | some status =>
          obtain ⟨hnamed, -⟩ := Option.filter_eq_some_iff.mp hfilter
          refine raisesOnly_issue_bind
            (fun e => .inl ⟨untouched_refl db, fun _ => statementFailed_concat _ e⟩)
            (fun e db' hexec => ?_) fun _ db' hexec => ?_
          · rcases updateIncidentStatus_cases hr status with
              ⟨-, db₁, hrefused, hleaves⟩ | ⟨-, db₁, hok, -⟩
            · obtain rfl : db₁ = db' := congrArg Prod.snd (hrefused.symm.trans hexec)
              exact .inl ⟨hleaves.wrote, fun _ => statementFailed_concat _ e⟩
            · cases hok.symm.trans hexec
          · rcases updateIncidentStatus_cases hr status with
              ⟨-, db₁, hrefused, -⟩ | ⟨-, db₁, hok, hleaves⟩
            · cases hrefused.symm.trans hexec
            · obtain rfl : db₁ = db' := congrArg Prod.snd (hok.symm.trans hexec)
              refine (raises_logEvent r.id .STATUS_CHANGE actorUserId r.status.text newStatus
                note).mono ?_
              rintro l'' db'' ⟨hfailed, rfl⟩
              exact .inr ⟨hfailed, status, hnamed, hleaves.wrote⟩

/-- A resolution that raises. -/
lemma raises_resolve (db : Records) {id : IncidentId} (notes : String)
    (actorUserId : Option String) (hmovable : Movable db id "RESOLVED") :
    RaisesOnly Records.exec
      (fun l' db' => Untouched db db'
        ∨ EventFailed l' ∧ Halfway db (.resolve id notes actorUserId) db'
        ∨ StatementFailed l' ∧ Noted db (.resolve id notes actorUserId) db')
      (Store.resolve id notes actorUserId) [] db := by
  obtain ⟨db₁, hok, hleaves⟩ := updateResolutionNotes_leaves db id notes
  refine raisesOnly_issue_bind (fun e => .inl (untouched_refl db)) (fun e db' hexec => ?_)
    fun _ db' hexec => ?_
  · cases hok.symm.trans hexec
  · obtain rfl : db₁ = db' := congrArg Prod.snd (hok.symm.trans hexec)
    have hstill : Movable db₁ id "RESOLVED" := by
      obtain ⟨r, hr, hid, hmove⟩ := hmovable
      refine ⟨r.withResolutionNotes id notes, ?_, ?_, ?_⟩
      · rw [hleaves.rows]
        exact List.mem_map_of_mem hr
      · rw [IncidentRow.withResolutionNotes_id, hid]
      · rw [IncidentRow.withResolutionNotes_status]
        exact hmove
    refine (raises_transition db₁ id "RESOLVED" actorUserId notes _).mono ?_
    rintro l' db' (⟨huntouched, hfailed⟩ | ⟨hfailed, status, hnamed, hmoved⟩)
    · exact .inr (.inr ⟨hfailed hstill, huntouched.1.trans hleaves.rows,
        huntouched.2.trans hleaves.events_eq⟩)
    · obtain rfl : IncidentStatus.RESOLVED = status :=
        Option.some.inj ((IncidentStatus.ofText_text .RESOLVED).symm.trans hnamed)
      rw [hleaves.rows, hleaves.now] at hmoved
      exact .inr (.inl ⟨hfailed, hmoved.1, hmoved.2.trans hleaves.events_eq⟩)

/-- Linking an alert that raises. -/
lemma raises_openOrAttach (db : Records) (alert : AlertRef) :
    RaisesOnly Records.exec
      (fun l' db' => Untouched db db' ∨ EventFailed l' ∧ Halfway db (.openOrAttach alert) db')
      (Store.openOrAttach alert) [] db := by
  have hlogged : ∀ (db₁ : Records) (l' : Log Alerting PyError) (id eventType newValue note)
      (result : IncidentId × Bool), RaisesOnly Records.exec
        (fun l'' db' => EventFailed l'' ∧ db' = db₁)
        (Statement.Prog.bind (Store.logEvent id eventType none "" newValue note)
          fun _ => Statement.Prog.ret result) l' db₁ :=
    fun db₁ l' id eventType newValue note result =>
      raisesOnly_bind (raises_logEvent id eventType none "" newValue note) fun _ _ _ =>
        raisesOnly_ret result
  have hread : ∀ db : Records,
      (World.exec (.selectActiveIncident alert.machineId) db.world).2 = db.world := by
    intro db
    rw [World.exec]
    split <;> rfl
  refine raises_read rfl (hread db) (fun _ _ => .inl (untouched_refl db)) fun row _ l' => ?_
  cases row with
  | some existingId =>
      refine (hlogged db l' existingId .ALERT_ATTACHED "" _ _).mono ?_
      rintro l'' db' ⟨-, rfl⟩
      exact .inl (untouched_refl db')
  | none =>
      rcases insertIncident_leaves db (Store.newIncident alert) with
        ⟨db₁, hok, hopened⟩ | ⟨-, db₁, hok, hleaves⟩
      · refine raisesOnly_issue_bind (fun e => .inl (untouched_refl db)) (fun e db' hexec => ?_)
          fun inserted db' hexec => ?_
        · cases hok.symm.trans hexec
        · cases hok.symm.trans hexec
          refine (hlogged db₁ _ db.world.incidents.nextId .STATUS_CHANGE "OPEN" _ _).mono ?_
          rintro l'' db' ⟨hfailed, rfl⟩
          exact .inr ⟨hfailed, hopened.wrote⟩
      · refine raisesOnly_issue_bind (fun e => .inl (untouched_refl db)) (fun e db' hexec => ?_)
          fun inserted db' hexec => ?_
        · cases hok.symm.trans hexec
        · cases hok.symm.trans hexec
          refine raises_read rfl (hread db₁) (fun _ _ => .inl hleaves.wrote)
            fun existing _ l'' => ?_
          cases existing with
          | none => exact raisesOnly_raise _ (.inl hleaves.wrote)
          | some existing => exact raisesOnly_ret _

/-- **All or nothing, but for the event.** Whichever statements fail, a call that raises has left
both tables as they were; or the `INSERT` of its event failed, and the write before it is there; or
it is a resolution whose second or third statement failed, and its notes are there.  A resolution
of an incident that cannot be resolved is left out. -/
theorem raised_leaves (db : Records) (call : Call) (hcall : call.Resolvable db) :
    RaisesOnly Records.exec
      (fun l db' => Untouched db db' ∨ EventFailed l ∧ Halfway db call db'
        ∨ StatementFailed l ∧ Noted db call db')
      call.prog [] db := by
  cases call with
  | openOrAttach alert =>
      exact (raises_openOrAttach db alert).mono fun l db' h => h.imp_right .inl
  | transition id newStatus actorUserId note =>
      refine (raises_transition db id newStatus actorUserId note []).mono ?_
      exact fun l db' h => h.imp (fun h => h.1) .inl
  | assign id userId actorUserId =>
      refine raisesOnly_issue_bind (fun e => .inl (untouched_refl db)) (fun e db' hexec => ?_)
        fun _ db' hexec => ?_
      · rcases updateAssignedTo_cases db id userId with ⟨-, -, hrefused⟩ | ⟨-, db₁, hok, -⟩
        · obtain rfl : db = db' := congrArg Prod.snd (hrefused.symm.trans hexec)
          exact .inl (untouched_refl db)
        · cases hok.symm.trans hexec
      · rcases updateAssignedTo_cases db id userId with ⟨-, -, hrefused⟩ | ⟨-, db₁, hok, hleaves⟩
        · cases hrefused.symm.trans hexec
        · obtain rfl : db₁ = db' := congrArg Prod.snd (hok.symm.trans hexec)
          refine (raises_logEvent id .ASSIGNMENT actorUserId "" userId _).mono ?_
          rintro l' db' ⟨hfailed, rfl⟩
          exact .inr (.inl ⟨hfailed, hleaves.wrote⟩)
  | resolve id notes actorUserId => exact raises_resolve db notes actorUserId hcall

/-- An incident has been opened. -/
def oneOpen : Records := Turn.run (.empty []) ⟨0, .openOrAttach (pumpAlert 0)⟩

theorem raised_leaves_resolve :
    RaisesOnly Records.exec
      (fun l db' => Untouched oneOpen db'
        ∨ EventFailed l ∧ Halfway oneOpen (.resolve 0 "replaced the bearing" none) db'
        ∨ StatementFailed l ∧ Noted oneOpen (.resolve 0 "replaced the bearing" none) db')
      (Store.resolve 0 "replaced the bearing" none) [] oneOpen := by
  have hresolvable : ∃ r ∈ oneOpen.world.incidents.rows, r.id = 0
      ∧ isValidTransition r.status .RESOLVED = true := by decide +kernel
  obtain ⟨r, hr, hid, hvalid⟩ := hresolvable
  exact raised_leaves oneOpen (.resolve 0 "replaced the bearing" none)
    ⟨r, hr, hid, .RESOLVED, rfl, hvalid⟩

/-- The connection is lost before an event is written. -/
def eventLost : Env Alerting PyError := fun _ c =>
  match c with
  | .insertIncidentEvent _ => .fails ⟨.external, "server closed the connection"⟩ false
  | _ => .completes

/-- **A move without its event**: the transition raises, and the incident has moved. -/
theorem write_without_event :
    ¬ ∀ (db : Records) (call : Call),
      RaisesOnly Records.exec (fun _ db' => Untouched db db') call.prog [] db := by
  intro h
  have hclean : ∀ l c, Statement.CleanFailure (eventLost l c) := by
    intro l c
    cases c <;> first | exact .inl rfl | exact .inr ⟨_, rfl⟩
  have hraised : ((Store.transition 0 "RESOLVED" none "").run Records.exec eventLost []
      oneOpen).outcome = .raised ⟨.external, "server closed the connection"⟩ := by decide +kernel
  have huntouched := (h oneOpen (.transition 0 "RESOLVED" none "") eventLost hclean _ hraised).1
  revert huntouched
  decide +kernel

end Incidents

end InduSense
