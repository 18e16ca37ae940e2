import InduSense.Api.Handlers

/-!
What an organization reads of its incidents while another one acts.

* `Untouched`: the incidents of the other organizations, and their events, are as they were;
  `untouched_exec`: the statements that leave them so.
* `Operation`, `Operation.run`: what is done in the name of an organization: alerts linked to
  incidents and requests to the API.
* `SameView`: what an organization reads through the incident routes is unchanged;
  `same_view_iff`: it is for all others exactly when no alert is attached to an incident of another
  organization.
* `attached_abroad`: an alert of one organization in the history of an incident of another.
-/

namespace InduSense

open Statement (EachStep filter_map_eq)
open Statement.Prog (Ensures ensures_issue ensures_bind ensures_attempt ensures_ret ensures_raise
  eval_of_ensures)
open Incidents (AlertRef Store.newIncident Store.attachedNote Store.openOrAttach)

namespace IncidentTenancy

/-! ### The incidents of other organizations -/

/-- The incidents that do not belong to an organization. -/
def foreign (org : String) (w : World) : List IncidentRow :=
  w.incidents.rows.filter fun r => r.organizationId ≠ org

/-- The events of an incident. -/
def eventsOf (w : World) (id : IncidentId) : List IncidentEventRow :=
  w.incidentEvents.filter fun e => e.incidentId = id

/-- The incidents of the other organizations, and their events, are as they were. -/
structure Untouched (org : String) (w w' : World) : Prop where
  incidents : foreign org w' = foreign org w
  events : ∀ r ∈ foreign org w, eventsOf w' r.id = eventsOf w r.id

variable {org : String}

lemma Untouched.refl (w : World) : Untouched org w w := ⟨rfl, fun _ _ => rfl⟩

lemma Untouched.trans {w w' w'' : World} (h : Untouched org w w') (h' : Untouched org w' w'') :
    Untouched org w w'' where
  incidents := h'.incidents.trans h.incidents
  events := fun r hr => (h'.events r (h.incidents ▸ hr)).trans (h.events r hr)

/-- The incident belongs to no other organization. -/
def Home (org : String) (w : World) (id : IncidentId) : Prop := ∀ r ∈ foreign org w, r.id ≠ id

/-- A statement that writes nothing but an incident of the organization. -/
def StaysHome (org : String) (w : World) : Stmt → Prop
  | .insertIncident v => v.organizationId = org
  | .updateIncidentStatus id _ => Home org w id
  | .updateAssignedTo id _ => Home org w id
  | .updateResolutionNotes id _ => Home org w id
  | .insertIncidentEvent v => Home org w v.incidentId
  | _ => True

/-- An update of one incident of the organization is not seen by the others. -/
lemma foreign_map {w w' : World} {id : IncidentId} (hid : Home org w id)
    {f : IncidentRow → IncidentRow} (horg : ∀ r, (f r).organizationId = r.organizationId)
    (hf : ∀ r, r.id ≠ id → f r = r)
    (hrows : w'.incidents.rows = w.incidents.rows.map f) : foreign org w' = foreign org w := by
  rw [foreign, foreign, hrows]
  refine filter_map_eq (fun r _ => by rw [horg]) fun r hr hother => hf r ?_
  exact hid r (List.mem_filter.mpr ⟨hr, hother⟩)

/-- A statement that stays at home leaves what belongs to the others. -/
lemma untouched_exec {w : World} {c : Stmt} (h : StaysHome org w c) :
    Untouched org w (World.exec c w).2 := by
  have same : (World.exec c w).2.incidents = w.incidents →
      (World.exec c w).2.incidentEvents = w.incidentEvents → Untouched org w (World.exec c w).2 :=
    fun hinc hev => ⟨by rw [foreign, foreign, hinc], fun r _ => by rw [eventsOf, eventsOf, hev]⟩
  cases c with
  | insertIncident v =>
      rcases w.incidents.insertIncident_cases v w.now with ⟨t', hins, hrows⟩ | ⟨hins, -⟩
      · refine ⟨?_, fun _ _ => rfl⟩
        have hnew : (IncidentRow.opened v w.now w.incidents.nextId).organizationId = org := h
        rw [World.exec, foreign, foreign, hins, hrows, List.filter_append]
        simp [hnew]
      · exact same (by rw [World.exec, hins]) rfl
  | updateIncidentStatus id status =>
      rcases w.incidents.updateStatus_cases id status w.now with ⟨t', hup, hrows⟩ | hup
      · refine ⟨foreign_map h (IncidentRow.withStatus_organizationId id status w.now)
          (fun r hr => if_neg hr) ?_, fun _ _ => rfl⟩
        rw [World.exec, hup, hrows]
      · exact same (by rw [World.exec, hup]) rfl
  | updateAssignedTo id userId =>
      exact ⟨foreign_map h (IncidentRow.withAssignedTo_organizationId id userId)
        (fun r hr => if_neg hr) (IncidentTable.updateAssignedTo_rows ..), fun _ _ => rfl⟩
  | updateResolutionNotes id notes =>
      exact ⟨foreign_map h (IncidentRow.withResolutionNotes_organizationId id notes)
        (fun r hr => if_neg hr) (IncidentTable.updateResolutionNotes_rows ..), fun _ _ => rfl⟩
  | insertIncidentEvent v =>
      refine ⟨rfl, fun r hr => ?_⟩
      rw [World.exec, eventsOf, eventsOf, List.filter_append]
      have hne : v.incidentId ≠ r.id := fun heq => h r hr heq.symm
      simp [hne]
  | selectActiveIncident machineId =>
      rw [World.exec]
      split <;> exact Untouched.refl w
  | _ => exact same rfl rfl

/-! ### What is done in the name of an organization -/

/-- An alert of the organization is linked to an incident; a user of the organization makes a
request; time passes. -/
inductive Operation where
  | openOrAttach (alert : AlertRef)
  | listRequest (query : Api.Query)
  | getRequest (id : IncidentId)
  | transitionRequest (id : IncidentId) (status note actorUserId : String)
  | assignRequest (id : IncidentId) (userId actorUserId : String)
  | resolveRequest (id : IncidentId) (resolutionNotes actorUserId : String)
  | elapse (dt : ℕ)

variable (int : String → Option ℤ)

/-- The world after an operation in the name of `org`. -/
def Operation.run (org : String) (w : World) : Operation → World
  | openOrAttach alert =>
      ((Store.openOrAttach { alert with organizationId := org }).eval World.exec w).2
  | listRequest query => ((Api.listIncidents int query ⟨org, ""⟩).eval World.exec w).2
  | getRequest id => ((Api.getIncident id ⟨org, ""⟩).eval World.exec w).2
  | transitionRequest id status note actorUserId =>
      ((Api.transitionIncident id status note ⟨org, actorUserId⟩).eval World.exec w).2
  | assignRequest id userId actorUserId =>
      ((Api.assignIncident id userId ⟨org, actorUserId⟩).eval World.exec w).2
  | resolveRequest id resolutionNotes actorUserId =>
      ((Api.resolveIncident id resolutionNotes ⟨org, actorUserId⟩).eval World.exec w).2
  | elapse dt => w.tick dt

/-- A statement that writes nothing but the incident `id`. -/
def Concerns (id : IncidentId) : Stmt → Prop
  | .insertIncident _ => False
  | .updateIncidentStatus id' _ => id' = id
  | .updateAssignedTo id' _ => id' = id
  | .updateResolutionNotes id' _ => id' = id
  | .insertIncidentEvent v => v.incidentId = id
  | _ => True

/-- A statement about an incident that is at home stays there. -/
lemma staysHome_of_concerns {w : World} {id : IncidentId} (hid : Home org w id) {c : Stmt}
    (hc : Concerns id c) : StaysHome org w c := by
  cases c with
  | insertIncident v => exact hc.elim
  | updateIncidentStatus id' status => exact hc ▸ hid
  | updateAssignedTo id' userId => exact hc ▸ hid
  | updateResolutionNotes id' notes => exact hc ▸ hid
  | insertIncidentEvent v =>
      have hv : v.incidentId = id := hc
      rw [StaysHome, hv]
      exact hid
  | _ => trivial

/-- So does a program of such statements. -/
lemma untouched_eval {α : Type} {p : Alerting.Prog α} {w : World} {id : IncidentId}
    (hid : Home org w id) (hp : Ensures (fun _ c => Concerns id c) p) :
    Untouched org w (p.eval World.exec w).2 := by
  refine eval_of_ensures (I := Untouched org w) (fun c s hc hs => ?_) hp (Untouched.refl w)
  refine hs.trans (untouched_exec (staysHome_of_concerns (fun r hr => hid r ?_) hc))
  rwa [hs.incidents] at hr

/-- A program that only reads. -/
lemma eval_of_reads {α : Type} {p : Alerting.Prog α} {P : Stmt → Prop}
    (hP : ∀ c w, P c → (World.exec c w).2 = w) (hp : Ensures (fun _ c => P c) p) (w : World) :
    (p.eval World.exec w).2 = w :=
  eval_of_ensures (I := fun w' => w' = w) (fun c s hc hs => (hP c s hc).trans hs) hp rfl

lemma concerns_transition {incidentId : IncidentId} {newStatus : String}
    {actorUserId : Option String} {note : String} :
    Ensures (fun _ c => Concerns incidentId c)
      (Incidents.Store.transition incidentId newStatus actorUserId note) :=
  Incidents.Store.ensures_transition (fun _ => trivial) (fun _ _ => rfl) fun _ _ h _ => h

lemma concerns_assign {incidentId : IncidentId} {userId : String} {actorUserId : Option String} :
    Ensures (fun _ c => Concerns incidentId c)
      (Incidents.Store.assign incidentId userId actorUserId) :=
  Incidents.Store.ensures_assign (fun _ => rfl) fun _ _ h _ => h

lemma concerns_resolve {incidentId : IncidentId} {resolutionNotes : String}
    {actorUserId : Option String} :
    Ensures (fun _ c => Concerns incidentId c)
      (Incidents.Store.resolve incidentId resolutionNotes actorUserId) :=
  Incidents.Store.ensures_resolve (fun _ => rfl) concerns_transition

/-- What `Store.get` answers is the incident with the id, if it belongs to the organization. -/
lemma select_eq_some_iff {w : World} {id : IncidentId} {orgId : String} {r : IncidentRow} :
    (World.exec (.selectIncident id orgId) w).1 = .ok (some r)
      ↔ r ∈ w.incidents.rows ∧ r.id = id ∧ r.organizationId = orgId := by
  show Except.ok ((w.incidents.find id).filter fun r => r.organizationId = orgId) = .ok (some r) ↔ _
  rw [Except.ok.injEq, Option.filter_eq_some_iff, decide_eq_true_eq]
  constructor
  · rintro ⟨hfind, horg⟩
    have hid := List.find?_some hfind
    rw [decide_eq_true_eq] at hid
    exact ⟨List.mem_of_find?_eq_some hfind, hid, horg⟩
  · rintro ⟨hr, rfl, horg⟩
    refine ⟨?_, horg⟩
    rcases hfind : w.incidents.find r.id with _ | r'
    · have hnone := List.find?_eq_none.mp hfind r hr
      simp at hnone
    · have hid := List.find?_some hfind
      rw [decide_eq_true_eq] at hid
      rw [w.incidents.eq_of_id_eq (List.mem_of_find?_eq_some hfind) hr hid]

/-- The tenant check answers 404 unless the incident belongs to the caller's organization. -/
lemma eval_requireIncident (id : IncidentId) (claims : Api.Claims) (w : World) :
    (Home claims.organizationId w id
        ∧ (Api.requireIncident id claims).eval World.exec w = (.ok (), w))
      ∨ (Api.requireIncident id claims).eval World.exec w
          = (.error (Api.apiError 404 "NOT_FOUND" "incident does not exist"), w) := by
  show (_ ∧ Statement.Prog.eval World.exec (Statement.Prog.bind _ _) w = _)
    ∨ Statement.Prog.eval World.exec (Statement.Prog.bind _ _) w = _
  rw [Incidents.Store.get, Statement.Prog.eval_issue_bind, World.exec]
  dsimp only
  cases hrow : (w.incidents.find id).filter fun r => r.organizationId = claims.organizationId with
  | none => exact .inr rfl
  | some r =>
      obtain ⟨hr, hid, horg⟩ := select_eq_some_iff.mp (congrArg Except.ok hrow)
      refine .inl ⟨fun r' hr' hid' => ?_, rfl⟩
      obtain ⟨hmem, hother⟩ := List.mem_filter.mp hr'
      rw [w.incidents.eq_of_id_eq hmem hr (hid'.trans hid.symm)] at hother
      simp [horg] at hother

/-- A request about an incident touches it only when it belongs to the caller's organization. -/
lemma untouched_request {id : IncidentId} (claims : Api.Claims) {body : Alerting.Prog Unit}
    (hbody : Ensures (fun _ c => Concerns id c) body) (w : World) :
    Untouched claims.organizationId w
      (((Api.requireIncident id claims).bind fun _ => body).eval World.exec w).2 := by
  rw [Statement.Prog.eval_bind]
  rcases eval_requireIncident id claims w with ⟨hhome, heval⟩ | heval
  · rw [heval]
    exact untouched_eval hhome hbody
  · rw [heval]
    exact Untouched.refl w

/-- What an alert linked to an incident leaves: an event of the incident that is active on its
machine, or an incident of its own. -/
lemma eval_openOrAttach (alert : AlertRef) (w : World) :
    (alert.machineId = "" ∧ ((Store.openOrAttach alert).eval World.exec w).2 = w)
      ∨ (alert.machineId ≠ "" ∧ ∃ r, w.incidents.activeFor alert.machineId = some r
        ∧ ((Store.openOrAttach alert).eval World.exec w).2
          = (World.exec (.insertIncidentEvent ⟨r.id, .ALERT_ATTACHED, none, none, none,
              Store.attachedNote alert.id alert.severity alert.title⟩) w).2)
      ∨ w.incidents.activeFor alert.machineId = none
        ∧ Untouched alert.organizationId w ((Store.openOrAttach alert).eval World.exec w).2 := by
  by_cases hmachine : alert.machineId = ""
  · refine .inl ⟨hmachine, ?_⟩
    show (Statement.Prog.eval World.exec (Statement.Prog.bind _ _) w).2 = w
    rw [Statement.Prog.eval_issue_bind, World.exec, if_pos hmachine]
  · refine .inr ?_
    cases hactive : w.incidents.activeFor alert.machineId with
    | some r =>
        refine .inl ⟨hmachine, r, rfl, ?_⟩
        show (Statement.Prog.eval World.exec (Statement.Prog.bind _ _) w).2 = _
        rw [Statement.Prog.eval_issue_bind, World.exec, if_neg hmachine, hactive]
        rfl
    | none =>
        refine .inr ⟨rfl, ?_⟩
        show Untouched _ w (Statement.Prog.eval World.exec (Statement.Prog.bind _ _) w).2
        rw [Statement.Prog.eval_issue_bind, World.exec, if_neg hmachine, hactive]
        show Untouched _ w (Statement.Prog.eval World.exec (Statement.Prog.bind _ _) w).2
        rw [Statement.Prog.eval_issue_bind]
        have hopen : Untouched alert.organizationId w
            (World.exec (.insertIncident (Store.newIncident alert)) w).2 := untouched_exec rfl
        rcases w.incidents.insertIncident_cases (Store.newIncident alert) w.now with
          ⟨t', hins, -⟩ | ⟨-, r, hr, hact⟩
        · have hexec : World.exec (.insertIncident (Store.newIncident alert)) w
              = (.ok (some w.incidents.nextId), { w with incidents := t' }) := by
            rw [World.exec, hins]
          rw [hexec] at hopen ⊢
          refine hopen.trans (untouched_exec (c := .insertIncidentEvent _) fun r hr hid => ?_)
          rw [hopen.incidents] at hr
          -- the new id is above those of the table
          exact absurd hid (Nat.ne_of_lt (w.incidents.id_lt r (List.mem_filter.mp hr).1))
        · have hmachine' : (Store.newIncident alert).machineId = some alert.machineId :=
            if_neg hmachine
          rw [hmachine'] at hact
          exact absurd hact (IncidentTable.activeFor_eq_none_iff.mp hactive r hr)

/-- Listing the incidents changes nothing. -/
lemma eval_listIncidents (query : Api.Query) (claims : Api.Claims) (w : World) :
    ((Api.listIncidents int query claims).eval World.exec w).2 = w := by
  refine eval_of_reads (P := fun c => ∃ org status limit offset,
    c = .selectIncidents org status limit offset)
    (fun c w ⟨_, _, _, _, hc⟩ => by rw [hc]; rfl) ?_ w
  refine ensures_bind (ensures_bind (ensures_attempt (ensures_issue fun _ => ⟨_, _, _, _, rfl⟩))
    fun r => ?_) fun _ => ensures_ret _
  cases r with
  | ok rows => exact ensures_ret _
  | error e => exact ensures_raise _

/-- Nor does reading one with its history. -/
lemma eval_getIncident (id : IncidentId) (claims : Api.Claims) (w : World) :
    ((Api.getIncident id claims).eval World.exec w).2 = w := by
  refine eval_of_reads (P := fun c => (∃ org, c = .selectIncident id org)
    ∨ c = .selectIncidentEvents id) (fun c w hc => ?_) ?_ w
  · rcases hc with ⟨_, rfl⟩ | rfl <;> rfl
  · refine ensures_bind (ensures_bind (ensures_attempt (ensures_issue fun _ => .inl ⟨_, rfl⟩))
      fun r => ?_) fun row => ?_
    · cases r with
      | ok row => exact ensures_ret _
      | error e => exact ensures_raise _
    · cases row with
      | none => exact ensures_raise _
      | some inc =>
          refine ensures_bind (ensures_bind (ensures_attempt (ensures_issue fun _ => .inr rfl))
            fun r => ?_) fun _ => ensures_ret _
          cases r with
          | ok events => exact ensures_ret _
          | error e => exact ensures_raise _

/-- An alert of the organization is attached to no incident of another. -/
def AttachesAtHome (org : String) (w : World) : Operation → Prop
  | .openOrAttach alert => alert.machineId ≠ "" →
      ∀ r ∈ w.incidents.activeFor alert.machineId, r.organizationId = org
  | _ => True

instance (org : String) (w : World) : ∀ op, Decidable (AttachesAtHome org w op)
  | .openOrAttach alert => inferInstanceAs (Decidable (alert.machineId ≠ "" →
      ∀ r ∈ w.incidents.activeFor alert.machineId, r.organizationId = org))
  | .listRequest _ => isTrue trivial
  | .getRequest _ => isTrue trivial
  | .transitionRequest _ _ _ _ => isTrue trivial
  | .assignRequest _ _ _ => isTrue trivial
  | .resolveRequest _ _ _ => isTrue trivial
  | .elapse _ => isTrue trivial

/-- An operation that attaches at home leaves what belongs to the others. -/
lemma untouched_run {w : World} {op : Operation} (h : AttachesAtHome org w op) :
    Untouched org w (op.run int org w) := by
  cases op with
  | openOrAttach alert =>
      rcases eval_openOrAttach { alert with organizationId := org } w with
        ⟨-, heval⟩ | ⟨hmachine, r, hactive, heval⟩ | ⟨-, huntouched⟩
      · rw [Operation.run, heval]
        exact Untouched.refl w
      · rw [Operation.run, heval]
        refine untouched_exec fun r' hr' hid => ?_
        obtain ⟨hmem, hother⟩ := List.mem_filter.mp hr'
        have hfound : r ∈ w.incidents.rows := List.mem_of_find?_eq_some hactive
        rw [w.incidents.eq_of_id_eq hmem hfound hid] at hother
        have horg : r.organizationId = org := h hmachine r hactive
        simp [horg] at hother
      · exact huntouched
  | listRequest query =>
      rw [Operation.run, eval_listIncidents]
      exact Untouched.refl w
  | getRequest id =>
      rw [Operation.run, eval_getIncident]
      exact Untouched.refl w
  | transitionRequest id status note actorUserId =>
      rw [Operation.run, Api.transitionIncident]
      split
      · exact Untouched.refl w
      · exact untouched_request ⟨org, actorUserId⟩
          (Api.ensures_conflictOnInvalid concerns_transition) w
  | assignRequest id userId actorUserId =>
      rw [Operation.run, Api.assignIncident]
      split
      · exact Untouched.refl w
      · refine untouched_request ⟨org, actorUserId⟩ ?_ w
        refine ensures_bind (ensures_attempt concerns_assign) fun r => ?_
        cases r with
        | ok u => exact ensures_ret _
        | error e => exact ensures_raise _
  | resolveRequest id resolutionNotes actorUserId =>
      exact untouched_request ⟨org, actorUserId⟩
        (Api.ensures_conflictOnInvalid concerns_resolve) w
  | elapse dt => exact ⟨rfl, fun _ _ => rfl⟩

/-! ### What an organization reads -/

/-- What an organization reads through the incident routes is the same: every listing, every
incident, and the history of every incident it can get. -/
structure SameView (org : String) (w w' : World) : Prop where
  list : ∀ statusFilter limit offset,
    ((Incidents.Store.list org statusFilter limit offset).eval World.exec w').1
      = ((Incidents.Store.list org statusFilter limit offset).eval World.exec w).1
  get : ∀ id, ((Incidents.Store.get org id).eval World.exec w').1
    = ((Incidents.Store.get org id).eval World.exec w).1
  listEvents : ∀ id r, ((Incidents.Store.get org id).eval World.exec w).1 = .ok (some r) →
    ((Incidents.Store.listEvents id).eval World.exec w').1
      = ((Incidents.Store.listEvents id).eval World.exec w).1

/-- What belongs to the others, they read. -/
lemma Untouched.sameView {w w' : World} (h : Untouched org w w') {other : String}
    (hother : other ≠ org) : SameView other w w' := by
  have hmem : ∀ r : IncidentRow, r.organizationId = other →
      (r ∈ w'.incidents.rows ↔ r ∈ w.incidents.rows) := by
    intro r hr
    have hin : ∀ v : World, r ∈ foreign org v ↔ r ∈ v.incidents.rows := by
      intro v
      rw [foreign, List.mem_filter]
      simp [hr, hother]
    rw [← hin w', ← hin w, h.incidents]
  refine ⟨fun statusFilter limit offset => ?_, fun id => ?_, fun id r hr => ?_⟩
  · show Except.ok (w'.incidents.list ..) = .ok (w.incidents.list ..)
    have hrows : ∀ v : World, (v.incidents.rows.filter fun r => r.organizationId = other
          ∧ (statusFilter = "" ∨ r.status.text = statusFilter))
        = (foreign org v).filter fun r => r.organizationId = other
          ∧ (statusFilter = "" ∨ r.status.text = statusFilter) := by
      intro v
      rw [foreign, List.filter_filter]
      refine List.filter_congr fun r _ => ?_
      by_cases hr : r.organizationId = other
      · simp [hr, hother]
      · simp [hr]
    rw [IncidentTable.list, IncidentTable.list, hrows w', hrows w, h.incidents]
  · show Except.ok ((w'.incidents.find id).filter _) = .ok ((w.incidents.find id).filter _)
    congr 1
    ext r
    have hiff : ∀ v : World, (World.exec (.selectIncident id other) v).1 = .ok (some r)
        ↔ r ∈ v.incidents.rows ∧ r.id = id ∧ r.organizationId = other :=
      fun v => select_eq_some_iff
    have hsome : ∀ v : World, (v.incidents.find id).filter (fun r => r.organizationId = other)
          = some r
        ↔ r ∈ v.incidents.rows ∧ r.id = id ∧ r.organizationId = other := by
      intro v
      rw [← hiff v]
      exact ⟨congrArg Except.ok, fun h => Except.ok.inj h⟩
    rw [hsome w', hsome w]
    constructor
    · rintro ⟨hr, hid, horg⟩
      exact ⟨(hmem r horg).mp hr, hid, horg⟩
    · rintro ⟨hr, hid, horg⟩
      exact ⟨(hmem r horg).mpr hr, hid, horg⟩
  · obtain ⟨hrow, rfl, horg⟩ := select_eq_some_iff.mp hr
    show Except.ok (InduSense.listEvents ..) = .ok (InduSense.listEvents ..)
    have hforeign : r ∈ foreign org w := by
      rw [foreign, List.mem_filter]
      simp [hrow, horg, hother]
    have hevents := h.events r hforeign
    rw [eventsOf, eventsOf] at hevents
    rw [InduSense.listEvents, InduSense.listEvents, hevents]

/-- An operation never takes an event away. -/
lemma incidentEvents_run (w : World) (op : Operation) (org : String) :
    w.incidentEvents <+: (op.run int org w).incidentEvents := by
  have hexec : ∀ (c : Stmt) (s : World), w.incidentEvents <+: s.incidentEvents →
      w.incidentEvents <+: (World.exec c s).2.incidentEvents := by
    intro c s hs
    cases c with
    | insertIncidentEvent v => exact hs.trans (List.prefix_append _ _)
    | selectActiveIncident machineId =>
        rw [World.exec]
        split <;> exact hs
    | _ => exact hs
  have heval : ∀ {α : Type} (p : Alerting.Prog α),
      w.incidentEvents <+: (p.eval World.exec w).2.incidentEvents :=
    fun p => p.eval_preserves World.exec hexec (List.prefix_refl _)
  cases op with
  | elapse dt => exact List.prefix_refl _
  | _ => exact heval _

/-- No operation takes an incident of another organization away, or changes its organization. -/
lemma foreign_run (w : World) (op : Operation) (org : String) :
    foreign org (op.run int org w) = foreign org w := by
  cases op with
  | openOrAttach alert =>
      rcases eval_openOrAttach { alert with organizationId := org } w with
        ⟨-, heval⟩ | ⟨-, r, -, heval⟩ | ⟨-, huntouched⟩
      · rw [Operation.run, heval]
      · rw [Operation.run, heval]
        rfl
      · exact huntouched.incidents
  | _ => exact (untouched_run int (by trivial)).incidents

/-- Operations that all attach at home leave what belongs to the others. -/
lemma untouched_runs {w : World} {ops : List Operation}
    (h : EachStep (Operation.run int org) (AttachesAtHome org) ops w) :
    Untouched org w (ops.foldl (Operation.run int org) w) := by
  induction ops generalizing w with
  | nil => exact Untouched.refl w
  | cons op ops ih => exact (untouched_run int h.1).trans (ih h.2)

/-- The events of an incident after further operations. -/
lemma length_eventsOf_runs (w : World) (ops : List Operation) (id : IncidentId) :
    (eventsOf w id).length ≤ (eventsOf (ops.foldl (Operation.run int org) w) id).length := by
  induction ops generalizing w with
  | nil => exact le_refl _
  | cons op ops ih =>
      have hstep : (eventsOf w id).length ≤ (eventsOf (op.run int org w) id).length :=
        ((incidentEvents_run int w op org).sublist.filter _).length_le
      exact hstep.trans (ih _)

/-- An alert that is attached abroad adds to the history of an incident of another organization,
for good. -/
lemma attachesAtHome_of_events {w : World} {ops : List Operation}
    (h : ∀ r ∈ foreign org w, (eventsOf (ops.foldl (Operation.run int org) w) r.id).length
      ≤ (eventsOf w r.id).length) :
    EachStep (Operation.run int org) (AttachesAtHome org) ops w := by
  induction ops generalizing w with
  | nil => trivial
  | cons op ops ih =>
      have hstep : ∀ id, (eventsOf w id).length ≤ (eventsOf (op.run int org w) id).length :=
        fun id => ((incidentEvents_run int w op org).sublist.filter _).length_le
      have hrest : ∀ id, (eventsOf (op.run int org w) id).length
          ≤ (eventsOf (ops.foldl (Operation.run int org) (op.run int org w)) id).length :=
        fun id => length_eventsOf_runs int (op.run int org w) ops id
      refine ⟨?_, ih fun r hr => ?_⟩
      · cases op with
        | openOrAttach alert =>
            intro hmachine r hactive
            by_contra habroad
            have hforeign : r ∈ foreign org w := by
              rw [foreign, List.mem_filter]
              exact ⟨List.mem_of_find?_eq_some hactive, by simpa using habroad⟩
            rcases eval_openOrAttach { alert with organizationId := org } w with
              ⟨hempty, -⟩ | ⟨-, r', hactive', heval⟩ | ⟨hnone, -⟩
            · exact hmachine hempty
            · obtain rfl : r' = r := Option.some.inj (hactive'.symm.trans hactive)
              have hmore : (eventsOf (Operation.run int org w (.openOrAttach alert)) r'.id).length
                  = (eventsOf w r'.id).length + 1 := by
                rw [Operation.run, heval, World.exec, eventsOf, eventsOf, List.filter_append]
                simp
              have hle := h r' hforeign
              have hge := hrest r'.id
              rw [List.foldl_cons] at hle
              omega
            · have hnone' : w.incidents.activeFor alert.machineId = none := hnone
              rw [hnone'] at hactive
              cases hactive
        | _ => trivial
      · rw [foreign_run] at hr
        exact (h r hr).trans (hstep r.id)

/-- **What other organizations read of their incidents is unchanged** by a sequence of operations
in the name of one organization if and only if each alert it links finds no active incident of
another organization on its machine. -/
theorem same_view_iff (org : String) (w : World) (ops : List Operation) :
    (∀ other, other ≠ org → SameView other w (ops.foldl (Operation.run int org) w))
      ↔ EachStep (Operation.run int org) (AttachesAtHome org) ops w := by
  constructor
  · intro h
    refine attachesAtHome_of_events int fun r hr => ?_
    obtain ⟨hmem, hother⟩ := List.mem_filter.mp hr
    have hview := h r.organizationId (by simpa using hother)
    have hget : ((Incidents.Store.get r.organizationId r.id).eval World.exec w).1 = .ok (some r) :=
      select_eq_some_iff.mpr ⟨hmem, rfl, rfl⟩
    have hlist : InduSense.listEvents (ops.foldl (Operation.run int org) w).incidentEvents r.id
        = InduSense.listEvents w.incidentEvents r.id := Except.ok.inj (hview.listEvents r.id r hget)
    have hlen := congrArg List.length hlist
    rw [InduSense.listEvents, InduSense.listEvents, List.length_insertionSort,
      List.length_insertionSort] at hlen
    exact le_of_eq hlen
  · exact fun h other hother => (untouched_runs int h).sameView hother

/-- An incident of one organization, opened for its machine. -/
def pumpIncident : World :=
  Operation.run (fun _ => none) "acme" World.empty
    (.openOrAttach { id := some 0, organizationId := "acme", severity := .HIGH, machineId := "m1" })

/-- **An alert of another organization in its history**: the incident is looked up by its machine
only. -/
theorem attached_abroad :
    ¬ ∀ (w : World) (ops : List Operation), SameView "acme" w
      (ops.foldl (Operation.run (fun _ => none) "globex") w) := by
  intro h
  have hview := h pumpIncident [.openOrAttach
    { id := some 7, organizationId := "globex", severity := .WARNING, machineId := "m1",
      title := "vibration" }]
  have hget : ∃ r, ((Incidents.Store.get "acme" 0).eval World.exec pumpIncident).1
      = .ok (some r) := ⟨_, rfl⟩
  obtain ⟨r, hr⟩ := hget
  have hevents := Except.ok.inj (hview.listEvents 0 r hr)
  revert hevents
  decide +kernel

end IncidentTenancy

end InduSense
