import InduSense.Statement.Schedule
import InduSense.Api.SideBySide
import InduSense.Incidents.Calls
import InduSense.Api.Routes

/-!
What the requests of one organization find out about the others.

* `Database.tenant`, `Database.others`: what belongs to an organization, and what does not.
* `Discreet`: a request that finds out the same about the others in two databases.
* `handle_same`: on databases with the same rows of the organization it has the same response and
  leaves the same rows of it; `discreet_of_handle`: only such a request does.
* `trace`, `trace_eq_iff`: sequences of requests.
* `serial_number_disclosed`: a serial number of another organization shows in a status code.
-/

namespace InduSense

namespace Api

open Statement (EachStep)
open Statement.Prog (Lockstep)
open Database (onInventory onRecords)
open IncidentTable (secondActive)
open Incidents (Store.transition Store.assign Store.resolve isValidTransition)

/-- What belongs to an organization, and the instant. -/
structure Tenant where
  inventory : Inventory.Part
  records : Records.Part
  now : Time
  deriving DecidableEq

/-- What belongs to the organization. -/
def Database.tenant (org : String) (d : Database) : Tenant :=
  ⟨d.inventory.part org true, d.records.part org true, d.now⟩

/-- What belongs to the others. -/
def Database.others (org : String) (d : Database) : Inventory.Part × Records.Part :=
  (d.inventory.part org false, d.records.part org false)

/-- The request finds out the same about the other organizations in both databases:

* a provisioning, whether the id or the serial number is taken;
* a listing of the devices on a machine of the organization, those of the others on it;
* a permitted transition of an incident of the organization, whether another incident is active on
  the machine, and if not, whether the actor is a user;
* an assignment, whether the assignee is a user, and if so, whether the actor is;
* a permitted resolution, whether the actor is a user. -/
def Discreet (org userId : String) (d d' : Database) : Request → Prop
  | .provisionDevice req drawn => req.machineId ≠ "" → req.serialNumber ≠ "" →
      d.inventory.ownsMachine org req.machineId = true →
      (d.inventory.Taken drawn.deviceId req.serialNumber
        ↔ d'.inventory.Taken drawn.deviceId req.serialNumber)
  | .listMachineDevices id => d.inventory.ownsMachine org id = true →
      ((d.inventory.foreignOn id org).map deviceDto).Perm
        ((d'.inventory.foreignOn id org).map deviceDto)
  | .transitionIncident id status _ => ∀ r ∈ d.records.ownIncident org id,
      ∀ st ∈ IncidentStatus.ofText status, isValidTransition r.status st = true →
        (d.records.Blocked id st ↔ d'.records.Blocked id st)
          ∧ (¬ d.records.Blocked id st → (d.records.HasUser userId ↔ d'.records.HasUser userId))
  | .assignIncident id assignee => assignee ≠ "" → (d.records.ownIncident org id).isSome = true →
      (d.records.HasUser assignee ↔ d'.records.HasUser assignee)
        ∧ (d.records.HasUser assignee → (d.records.HasUser userId ↔ d'.records.HasUser userId))
  | .resolveIncident id _ => ∀ r ∈ d.records.ownIncident org id,
      isValidTransition r.status .RESOLVED = true →
      (d.records.HasUser userId ↔ d'.records.HasUser userId)
  | _ => True

variable {org userId : String} {d d' : Database}

/-- A database finds out the same as itself. -/
lemma discreet_self (req : Request) : Discreet org userId d d req := by
  cases req with
  | provisionDevice req drawn => exact fun _ _ _ => Iff.rfl
  | listMachineDevices id => exact fun _ => List.Perm.refl _
  | transitionIncident id status note => exact fun _ _ _ _ _ => ⟨Iff.rfl, fun _ => Iff.rfl⟩
  | assignIncident id assignee => exact fun _ _ => ⟨Iff.rfl, fun _ => Iff.rfl⟩
  | resolveIncident id notes => exact fun _ _ _ => Iff.rfl
  | _ => trivial

/-! ### Discreet requests have the same outcome -/

/-- Two outcomes with the same response and the same rows of the organization. -/
structure SameOutcome (org : String) (o o' : Response × Database) : Prop where
  response : o.1 = o'.1
  tenant : o.2.tenant org = o'.2.tenant org

section Forward

variable {α : Type} {statusCode : ℕ} {body : α → Body}

lemma onInventory_same {p : Hierarchy.Prog α} (h : d.tenant org = d'.tenant org)
    (hp : Inventory.Beside org (d.inventory.part org false) d.inventory d'.inventory →
      Lockstep (Inventory.exec d.now)
        (fun _ => Inventory.Beside org (d.inventory.part org false)) p d.inventory d'.inventory) :
    SameOutcome org (onInventory statusCode body p d) (onInventory statusCode body p d')
      ∧ (onInventory statusCode body p d).2.others org = d.others org := by
  have hnow : d.now = d'.now := congrArg Tenant.now h
  obtain ⟨hres, hafter⟩ := (hp ⟨congrArg Tenant.inventory h, rfl⟩).eval
  have hrecords : d.records.part org true = d'.records.part org true := congrArg Tenant.records h
  have hsame : ((p.eval (Inventory.exec d.now) d.inventory).2).part org true
      = ((p.eval (Inventory.exec d.now) d'.inventory).2).part org true := hafter.same
  refine ⟨⟨?_, ?_⟩, ?_⟩
  · rw [onInventory, onInventory, ← hnow, hres]
  · rw [onInventory, onInventory, ← hnow]
    show Tenant.mk _ _ _ = Tenant.mk _ _ _
    rw [hsame, hrecords]
    exact congrArg _ hnow
  · exact congrArg (fun i => (i, d.records.part org false)) hafter.others

lemma onRecords_same {p : Alerting.Prog α} (h : d.tenant org = d'.tenant org)
    (hp : Records.Beside org (d.records.part org false) d.records d'.records →
      Lockstep Records.exec (fun _ => Records.Beside org (d.records.part org false)) p
        d.records d'.records) :
    SameOutcome org (onRecords statusCode body p d) (onRecords statusCode body p d')
      ∧ (onRecords statusCode body p d).2.others org = d.others org := by
  have hbeside : Records.Beside org (d.records.part org false) d.records d'.records :=
    ⟨⟨congrArg Tenant.records h, congrArg Tenant.now h⟩, rfl⟩
  obtain ⟨hres, hafter⟩ := (hp hbeside).eval
  have hinventory : d.inventory.part org true = d'.inventory.part org true :=
    congrArg Tenant.inventory h
  refine ⟨⟨?_, ?_⟩, ?_⟩
  · rw [onRecords, onRecords, hres]
  · show Tenant.mk _ _ _ = Tenant.mk _ _ _
    rw [Tenant.mk.injEq]
    exact ⟨hinventory, hafter.same.part, hafter.same.now⟩
  · exact congrArg (fun i => (d.inventory.part org false, i)) hafter.others

end Forward

section Handle

variable {int : String → Option ℤ} {hashPassword : String → String → String}

/-- The response to a listing of the devices on a machine. -/
lemma handle_listMachineDevices (id : String) (d : Database) :
    handle int hashPassword ⟨org, userId⟩ (.listMachineDevices id) d
      = (⟨200, .devices (paginatedResponse ((d.inventory.machineDevices id org).map deviceDto)
          (d.inventory.machineDevices id org).length 0)⟩, d) := rfl

/-- It is the same exactly when the listed devices are. -/
lemma listMachineDevices_response_iff (h : d.tenant org = d'.tenant org) (id : String) :
    (handle int hashPassword ⟨org, userId⟩ (.listMachineDevices id) d).1
        = (handle int hashPassword ⟨org, userId⟩ (.listMachineDevices id) d').1
      ↔ Discreet org userId d d' (.listMachineDevices id) := by
  have hsame : Inventory.Same org d.inventory d'.inventory := congrArg Tenant.inventory h
  rw [Discreet, ← Inventory.machineDevices_eq_iff hsame, handle_listMachineDevices,
    handle_listMachineDevices]
  constructor
  · intro hresponse
    have hbody : Body.devices _ = Body.devices _ := congrArg Response.body hresponse
    exact congrArg Page.items (Body.devices.inj hbody)
  · intro hrows
    have hlength := congrArg List.length hrows
    rw [List.length_map, List.length_map] at hlength
    rw [hrows, hlength]

/-- **A discreet request has the same outcome** on two databases with the same rows of the
organization, and leaves the rows of the others. -/
theorem handle_same (h : d.tenant org = d'.tenant org) {req : Request}
    (hreq : Discreet org userId d d' req) :
    SameOutcome org (handle int hashPassword ⟨org, userId⟩ req d)
        (handle int hashPassword ⟨org, userId⟩ req d')
      ∧ (handle int hashPassword ⟨org, userId⟩ req d).2.others org = d.others org := by
  cases req with
  | listFactories query => exact onInventory_same h fun hb => lockstep_listFactories hb query
  | getFactory id => exact onInventory_same h fun hb => lockstep_getFactory hb id
  | listProductionLines id =>
      exact onInventory_same h fun hb => lockstep_listProductionLines hb id
  | getMachine id => exact onInventory_same h fun hb => lockstep_getMachine hb id
  | listLineMachines id => exact onInventory_same h fun hb => lockstep_listLineMachines hb id
  | listMachineDevices id =>
      exact ⟨⟨(listMachineDevices_response_iff h id).mpr hreq, h⟩, rfl⟩
  | listDevices query => exact onInventory_same h fun hb => lockstep_listDevices hb query
  | getDevice id => exact onInventory_same h fun hb => lockstep_getDevice hb id
  | listDeviceSensors id => exact onInventory_same h fun hb => lockstep_listDeviceSensors hb id
  | provisionDevice req drawn =>
      exact onInventory_same h fun hb => lockstep_provisionDevice hb hreq
  | rotateCredentials id drawn =>
      exact onInventory_same h fun hb => lockstep_rotateCredentials hb id drawn
  | decommissionDevice id => exact onInventory_same h fun hb => lockstep_decommissionDevice hb id
  | listAlerts query => exact onRecords_same h fun hb => lockstep_listAlerts hb query
  | getAlert id => exact onRecords_same h fun hb => lockstep_getAlert hb id
  | acknowledgeAlert id => exact onRecords_same h fun hb => lockstep_acknowledgeAlert hb id
  | listIncidents query => exact onRecords_same h fun hb => lockstep_listIncidents hb query
  | getIncident id => exact onRecords_same h fun hb => lockstep_getIncident hb id
  | transitionIncident id status note =>
      exact onRecords_same h fun hb => lockstep_transitionIncident hb hreq
  | assignIncident id assignee =>
      exact onRecords_same h fun hb => lockstep_assignIncident hb hreq
  | resolveIncident id notes =>
      exact onRecords_same h fun hb => lockstep_resolveIncident hb hreq

/-! ### Only discreet requests have -/

/-- A provisioning on a machine of the organization is refused exactly when the id or the serial
number is taken. -/
lemma eval_provisionDevice {inv : Inventory} {now : Time}
    {req : ProvisionDeviceRequest} {drawn : Drawn}
    (hmachine : req.machineId ≠ "") (hserial : req.serialNumber ≠ "")
    (hown : inv.ownsMachine org req.machineId = true) :
    ((provisionDevice hashPassword req drawn ⟨org, userId⟩).eval (Inventory.exec now) inv).1
      = if inv.Taken drawn.deviceId req.serialNumber then
          .error (apiError 409 "CONFLICT" "a device with this serial_number already exists")
        else .ok (deviceDto (.provisioned (newDevice hashPassword req drawn ⟨org, userId⟩)),
          drawn.secret) := by
  have hgiven : ¬ (req.machineId = "" ∨ req.serialNumber = "") := by simp [hmachine, hserial]
  rw [provisionDevice, if_neg hgiven]
  show (Statement.Prog.eval _ (Statement.Prog.bind _ _) inv).1 = _
  rw [Statement.Prog.eval_issue_bind]
  have hfound : Inventory.exec now (.machineExists req.machineId org) inv = (.ok true, inv) := by
    rw [Inventory.exec, hown]
  rw [hfound]
  show (Statement.Prog.eval _ (Statement.Prog.bind _ _) inv).1 = _
  rw [Statement.Prog.eval_attempt_bind, Statement.Prog.eval_issue, Inventory.exec]
  rcases inv.insertDevice_cases (newDevice hashPassword req drawn ⟨org, userId⟩) with
    ⟨htaken, hins⟩ | ⟨hfree, inv', hins, -⟩
  · have htaken' : inv.Taken drawn.deviceId req.serialNumber := htaken
    rw [hins, if_pos htaken']
    rfl
  · have hfree' : ¬ inv.Taken drawn.deviceId req.serialNumber := hfree
    rw [hins, if_neg hfree']
    rfl

/-- An event by an actor on an incident that was updated: it is written exactly when the actor is a
user. -/
lemma event_outcome (userId : String) {db db₁ : Records} {v : NewIncidentEvent} {r : IncidentRow}
    (hr : db.ownIncident org v.incidentId = some r) (hv : v.actorUserId = some userId)
    {f : IncidentRow → IncidentRow} (hid : ∀ r, (f r).id = r.id) (husers : db₁.users = db.users)
    (hpart : db₁.part org true =
      { db.part org true with incidents := (db.part org true).incidents.map f }) :
    (Records.exec (.insertIncidentEvent v) db₁).1
        = (if db.HasUser userId then .ok ()
          else .error (Records.missingReference "incident_events"))
      ∧ ((Records.exec (.insertIncidentEvent v) db₁).2.part org true).incidents
        = (db.part org true).incidents.map f := by
  have hown := (Records.owns_of_ownIncident (Records.ownIncident_of_update hid hpart hr)).2.2.2
  have hknown : db₁.HasUser userId ↔ db.HasUser userId := by
    rw [Records.HasUser, Records.HasUser, husers]
  rcases Records.exec_insertIncidentEvent hown with ⟨hu, hexec⟩ | ⟨hu, hans, hpart₁⟩
  · have hunknown : ¬ db.HasUser userId := fun huser => hu fun u huv => by
      rw [hv] at huv
      obtain rfl : userId = u := Option.some.inj huv
      exact hknown.mpr huser
    rw [hexec, if_neg hunknown, hpart]
    exact ⟨rfl, rfl⟩
  · rw [if_pos (hknown.mp (hu userId hv))]
    exact ⟨hans, by rw [hpart₁, hpart]⟩

/-- What a permitted transition of an incident of the organization comes to. -/
lemma transition_outcome (userId note : String) {db : Records} {id : IncidentId}
    {r : IncidentRow} (hr : db.ownIncident org id = some r) {status : String} {st : IncidentStatus}
    (hst : IncidentStatus.ofText status = some st) (hvalid : isValidTransition r.status st = true) :
    (db.Blocked id st
        ∧ ((Store.transition id status (some userId) note).eval Records.exec db).1
          = .error secondActive
        ∧ (((Store.transition id status (some userId) note).eval Records.exec db).2.part
          org true).incidents = (db.part org true).incidents)
      ∨ ¬ db.Blocked id st
        ∧ ((Store.transition id status (some userId) note).eval Records.exec db).1
          = (if db.HasUser userId then .ok ()
            else .error (Records.missingReference "incident_events"))
        ∧ (((Store.transition id status (some userId) note).eval Records.exec db).2.part
          org true).incidents
          = (db.part org true).incidents.map (.withStatus id st db.world.now) := by
  have hown := (Records.owns_of_ownIncident hr).2.2.2
  have hfind : db.world.incidents.find id = some r :=
    (Records.ownIncident_of_owns hown).symm.trans hr
  have hfilter : (IncidentStatus.ofText status).filter (isValidTransition r.status) = some st := by
    rw [hst, Option.filter_some_pos hvalid]
  rw [Incidents.eval_transition_valid _ _ hfind hfilter, Statement.Prog.eval_issue_bind]
  rcases hup : Records.exec (.updateIncidentStatus id st) db with ⟨ans, db₁⟩
  rcases Records.exec_updateIncidentStatus hown st with ⟨hb, hans, hpart⟩ | ⟨hb, hans, hpart⟩
  · rw [hup] at hans hpart
    obtain rfl : ans = .error secondActive := hans
    exact .inl ⟨hb, rfl, congrArg Records.Part.incidents (hpart true)⟩
  · have husers : db₁.users = db.users := by
      have hkept := Records.exec_users (.updateIncidentStatus id st) db
      rwa [hup] at hkept
    rw [hup] at hans hpart
    obtain rfl : ans = .ok () := hans
    dsimp only
    rw [Incidents.Store.logEvent, Statement.Prog.eval_issue]
    exact .inr ⟨hb, event_outcome userId hr rfl (IncidentRow.withStatus_id id st _) husers
      (hpart true)⟩

/-- What an assignment of an incident of the organization comes to. -/
lemma assign_outcome (userId : String) {db : Records} {id : IncidentId} {r : IncidentRow}
    (hr : db.ownIncident org id = some r) (assignee : String) :
    (¬ db.HasUser assignee
        ∧ ((Store.assign id assignee (some userId)).eval Records.exec db).1
          = .error (Records.missingReference "incidents")
        ∧ (((Store.assign id assignee (some userId)).eval Records.exec db).2.part
          org true).incidents = (db.part org true).incidents)
      ∨ db.HasUser assignee
        ∧ ((Store.assign id assignee (some userId)).eval Records.exec db).1
          = (if db.HasUser userId then .ok ()
            else .error (Records.missingReference "incident_events"))
        ∧ (((Store.assign id assignee (some userId)).eval Records.exec db).2.part
          org true).incidents
          = (db.part org true).incidents.map (.withAssignedTo id assignee) := by
  have hown := (Records.owns_of_ownIncident hr).2.2.2
  have heval : (Store.assign id assignee (some userId)).eval Records.exec db
      = Statement.Prog.eval Records.exec
        (Statement.Prog.bind (Alerting.issue (.updateAssignedTo id assignee)) fun _ =>
          Alerting.issue (.insertIncidentEvent
            { incidentId := id, eventType := .ASSIGNMENT, actorUserId := some userId,
              oldValue := nullIfEmpty "", newValue := nullIfEmpty assignee,
              note := "assigned to technician " ++ assignee })) db := rfl
  rw [heval, Statement.Prog.eval_issue_bind]
  rcases hup : Records.exec (.updateAssignedTo id assignee) db with ⟨ans, db₁⟩
  rcases Records.exec_updateAssignedTo hown assignee with ⟨hu, hexec⟩ | ⟨hu, hans, hpart⟩
  · cases hup.symm.trans hexec
    exact .inl ⟨hu, rfl, rfl⟩
  · have husers : db₁.users = db.users := by
      have hkept := Records.exec_users (.updateAssignedTo id assignee) db
      rwa [hup] at hkept
    rw [hup] at hans hpart
    obtain rfl : ans = .ok () := hans
    dsimp only
    rw [Statement.Prog.eval_issue]
    exact .inr ⟨hu, event_outcome userId hr rfl (IncidentRow.withAssignedTo_id id assignee) husers
      (hpart true)⟩

/-- What a permitted resolution of an incident of the organization comes to. -/
lemma resolve_outcome (userId : String) {db : Records} {id : IncidentId} {r : IncidentRow}
    (hr : db.ownIncident org id = some r) (hvalid : isValidTransition r.status .RESOLVED = true)
    (notes : String) :
    ((Store.resolve id notes (some userId)).eval Records.exec db).1
      = if db.HasUser userId then .ok ()
        else .error (Records.missingReference "incident_events") := by
  obtain ⟨hans, hpart⟩ :=
    Records.exec_updateResolutionNotes org db id notes
  have heval : (Store.resolve id notes (some userId)).eval Records.exec db
      = (Store.transition id "RESOLVED" (some userId) notes).eval Records.exec
        (Records.exec (.updateResolutionNotes id notes) db).2 := by
    show Statement.Prog.eval _ (Statement.Prog.bind _ _) db = _
    rw [Statement.Prog.eval_issue_bind]
    rcases hup : Records.exec (.updateResolutionNotes id notes) db with ⟨ans, db₁⟩
    rw [hup] at hans
    obtain rfl : ans = .ok () := hans
    rfl
  have hr₁ := Records.ownIncident_of_update (IncidentRow.withResolutionNotes_id id notes)
    (hpart true) hr
  have hvalid₁ : isValidTransition (r.withResolutionNotes id notes).status .RESOLVED = true := by
    rw [IncidentRow.withResolutionNotes_status]
    exact hvalid
  have hknown : (Records.exec (.updateResolutionNotes id notes) db).2.HasUser userId
      ↔ db.HasUser userId := by
    rw [Records.HasUser, Records.HasUser, Records.exec_users]
  rw [heval]
  have hst : IncidentStatus.ofText "RESOLVED" = some .RESOLVED := rfl
  rcases transition_outcome userId notes hr₁ hst hvalid₁ with ⟨hb, -⟩ | ⟨-, hres, -⟩
  · exact absurd hb.1 Bool.false_ne_true
  · exact hres.trans (if_congr hknown rfl rfl)

/-- The tenant check. -/
lemma eval_requireIncident (db : Records) (id : IncidentId) :
    (requireIncident id ⟨org, userId⟩).eval Records.exec db
      = (if (db.ownIncident org id).isNone then
          .error (apiError 404 "NOT_FOUND" "incident does not exist") else .ok (), db) := by
  show Statement.Prog.eval _ (Statement.Prog.bind _ _) db = _
  rw [Incidents.Store.get, Statement.Prog.eval_issue_bind, Records.exec_selectIncident]
  cases db.ownIncident org id with
  | none => rfl
  | some r => rfl

/-- It lets an incident of the organization through. -/
lemma eval_requireIncident_own {α : Type} {db : Records} {id : IncidentId} {r : IncidentRow}
    (hr : db.ownIncident org id = some r) (body : Alerting.Prog α) :
    (Statement.Prog.bind (requireIncident id ⟨org, userId⟩) fun _ => body).eval Records.exec db
      = body.eval Records.exec db := by
  rw [Statement.Prog.eval_bind, eval_requireIncident, hr]
  rfl

/-- The exceptions of the database pass the handler of refused transitions. -/
lemma eval_conflictOnInvalid {body : Alerting.Prog Unit} {db : Records}
    (h : ∀ e, (body.eval Records.exec db).1 = .error e →
      ¬ (e.kind = .valueError ∨ e.kind = .runtimeError)) :
    (conflictOnInvalid body).eval Records.exec db = body.eval Records.exec db := by
  show Statement.Prog.eval _ (Statement.Prog.bind _ _) db = _
  rw [Statement.Prog.eval_attempt_bind]
  rcases hbody : body.eval Records.exec db with ⟨ans, db₁⟩
  rw [hbody] at h
  cases ans with
  | ok u => rfl
  | error e =>
      dsimp only
      rw [if_neg (h e rfl)]
      rfl

/-- A permitted transition of an incident of the organization is the store's. -/
lemma eval_transitionIncident {db : Records} {id : IncidentId} {r : IncidentRow}
    (hr : db.ownIncident org id = some r) {status note : String} {st : IncidentStatus}
    (hst : IncidentStatus.ofText status = some st) (hvalid : isValidTransition r.status st = true) :
    (transitionIncident id status note ⟨org, userId⟩).eval Records.exec db
      = (Store.transition id status (some userId) note).eval Records.exec db := by
  have hgiven : status ≠ "" := by
    rintro rfl
    cases hst
  rw [transitionIncident, if_neg hgiven]
  refine (eval_requireIncident_own hr _).trans (eval_conflictOnInvalid fun e he => ?_)
  rcases transition_outcome userId note hr hst hvalid with
    ⟨-, hres, -⟩ | ⟨-, hres, -⟩
  · obtain rfl : secondActive = e := Except.error.inj (hres.symm.trans he)
    decide
  · split at hres
    · cases hres.symm.trans he
    · obtain rfl : Records.missingReference "incident_events" = e :=
        Except.error.inj (hres.symm.trans he)
      decide

/-- A permitted resolution is the store's. -/
lemma eval_resolveIncident {db : Records} {id : IncidentId} {r : IncidentRow}
    (hr : db.ownIncident org id = some r) (hvalid : isValidTransition r.status .RESOLVED = true)
    (notes : String) :
    (resolveIncident id notes ⟨org, userId⟩).eval Records.exec db
      = (Store.resolve id notes (some userId)).eval Records.exec db := by
  refine (eval_requireIncident_own hr _).trans (eval_conflictOnInvalid fun e he => ?_)
  have hres := resolve_outcome userId hr hvalid notes
  split at hres
  · cases hres.symm.trans he
  · obtain rfl : Records.missingReference "incident_events" = e :=
      Except.error.inj (hres.symm.trans he)
    decide

/-- An assignment of an incident of the organization is the store's, with every exception an
internal error. -/
lemma eval_assignIncident {db : Records} {id : IncidentId} {r : IncidentRow}
    (hr : db.ownIncident org id = some r) {assignee : String} (hgiven : assignee ≠ "") :
    (assignIncident id assignee ⟨org, userId⟩).eval Records.exec db
      = (match ((Store.assign id assignee (some userId)).eval Records.exec db).1 with
          | .ok () => .ok ()
          | .error _ => .error internalError,
        ((Store.assign id assignee (some userId)).eval Records.exec db).2) := by
  rw [assignIncident, if_neg hgiven]
  refine (eval_requireIncident_own hr _).trans ?_
  show Statement.Prog.eval _ (Statement.Prog.bind _ _) db = _
  rw [Statement.Prog.eval_attempt_bind]
  rcases (Store.assign id assignee (some userId)).eval Records.exec db with ⟨ans, db₁⟩
  cases ans with
  | ok u => rfl
  | error e => rfl

/-- A row that an update of a list leaves. -/
lemma eq_of_map_eq {β : Type} {f : β → β} {l : List β} (h : l.map f = l) {a : β} (ha : a ∈ l) :
    f a = a :=
  List.map_inj_left.mp (h.trans (List.map_id l).symm) a ha

/-- A choice between two different values says which condition holds. -/
lemma iff_of_ite_eq {β : Type} {a b : β} (hab : a ≠ b) {P P' : Prop} [Decidable P] [Decidable P']
    (h : (if P then a else b) = if P' then a else b) : P ↔ P' := by
  by_cases hP : P
  · rw [if_pos hP] at h
    by_cases hP' : P'
    · exact ⟨fun _ => hP', fun _ => hP⟩
    · rw [if_neg hP'] at h
      exact absurd h hab
  · rw [if_neg hP] at h
    by_cases hP' : P'
    · rw [if_pos hP'] at h
      exact absurd h.symm hab
    · exact ⟨fun hp => absurd hp hP, fun hp => absurd hp hP'⟩

/-- A response that says whether an event could be written. -/
lemma iff_of_respond {P P' : Prop} [Decidable P] [Decidable P'] {exc : PyError}
    (hexc : errorResponse exc ≠ ⟨204, .none⟩)
    (h : respond 204 (fun _ : Unit => Body.none) (if P then .ok () else .error exc)
      = respond 204 (fun _ => Body.none) (if P' then .ok () else .error exc)) : P ↔ P' := by
  rw [apply_ite (respond 204 _), apply_ite (respond 204 _)] at h
  exact iff_of_ite_eq hexc.symm h

/-- An incident of the organization is in its part. -/
lemma mem_part_incidents {db : Records} {r : IncidentRow} {id : IncidentId}
    (hr : db.ownIncident org id = some r) : r ∈ (db.part org true).incidents := by
  obtain ⟨hrow, -, horg, -⟩ := Records.owns_of_ownIncident hr
  rw [Records.part, List.mem_filter]
  exact ⟨hrow, by rw [horg, decide_eq_true rfl]; rfl⟩

/-! What the outcome of each request says about the other organizations. -/

section Backward

variable (h : d.tenant org = d'.tenant org)
include h

lemma discreet_provisionDevice {req : ProvisionDeviceRequest} {drawn : Drawn}
    (hout : SameOutcome org (handle int hashPassword ⟨org, userId⟩ (.provisionDevice req drawn) d)
      (handle int hashPassword ⟨org, userId⟩ (.provisionDevice req drawn) d')) :
    Discreet org userId d d' (.provisionDevice req drawn) := by
  intro hmachine hserial hown
  have hown' : d'.inventory.ownsMachine org req.machineId = true := by
    have hinv : Inventory.Same org d.inventory d'.inventory := congrArg Tenant.inventory h
    rw [← hinv.ownsMachine]
    exact hown
  have hresponse : respond 201 (fun r : DeviceDto × String => Body.provisioned r.1 r.2)
        ((provisionDevice hashPassword req drawn ⟨org, userId⟩).eval
          (Inventory.exec d.now) d.inventory).1
      = respond 201 (fun r => Body.provisioned r.1 r.2)
        ((provisionDevice hashPassword req drawn ⟨org, userId⟩).eval
          (Inventory.exec d'.now) d'.inventory).1 := hout.response
  rw [eval_provisionDevice hmachine hserial hown, eval_provisionDevice hmachine hserial hown',
    apply_ite (respond 201 _), apply_ite (respond 201 _)] at hresponse
  refine iff_of_ite_eq (fun hconflict => ?_) hresponse
  cases hconflict

lemma discreet_transitionIncident {id : IncidentId} {status note : String}
    (hout : SameOutcome org
      (handle int hashPassword ⟨org, userId⟩ (.transitionIncident id status note) d)
      (handle int hashPassword ⟨org, userId⟩ (.transitionIncident id status note) d')) :
    Discreet org userId d d' (.transitionIncident id status note) := by
  intro r hr st hst hvalid
  have hincidents : (d.records.part org true).incidents = (d'.records.part org true).incidents :=
    congrArg (fun t => t.records.incidents) h
  have hsame : Records.Same org d.records d'.records :=
    ⟨congrArg Tenant.records h, congrArg Tenant.now h⟩
  have hr' : d'.records.ownIncident org id = some r := (hsame.ownIncident id).symm.trans hr
  have hresponse : respond 204 (fun _ => Body.none)
        ((transitionIncident id status note ⟨org, userId⟩).eval Records.exec d.records).1
      = respond 204 (fun _ => Body.none)
        ((transitionIncident id status note ⟨org, userId⟩).eval Records.exec d'.records).1 :=
    hout.response
  have hleft : (((transitionIncident id status note ⟨org, userId⟩).eval Records.exec
        d.records).2.part org true).incidents
      = (((transitionIncident id status note ⟨org, userId⟩).eval Records.exec
        d'.records).2.part org true).incidents :=
    congrArg (fun t => t.records.incidents) hout.tenant
  rw [eval_transitionIncident hr hst hvalid, eval_transitionIncident hr' hst hvalid]
    at hresponse hleft
  -- a transition changes the status, so one that is refused leaves another row
  have hchanged : ∀ now, (d.records.part org true).incidents.map (.withStatus id st now)
      ≠ (d.records.part org true).incidents := by
    intro now hmap
    have hrow := eq_of_map_eq hmap (mem_part_incidents hr)
    have hstatus := congrArg IncidentRow.status hrow
    rw [IncidentRow.withStatus_status, if_pos (Records.owns_of_ownIncident hr).2.1] at hstatus
    rw [← hstatus] at hvalid
    cases st <;> cases hvalid
  rcases transition_outcome userId note hr hst hvalid with ⟨hb, -, hinc⟩ | ⟨hb, hres, hinc⟩
  · rcases transition_outcome userId note hr' hst hvalid with ⟨hb', -, -⟩ | ⟨-, -, hinc'⟩
    · exact ⟨⟨fun _ => hb', fun _ => hb⟩, fun hfree => absurd hb hfree⟩
    · rw [hinc, hinc', ← hincidents] at hleft
      exact absurd hleft.symm (hchanged _)
  · rcases transition_outcome userId note hr' hst hvalid with ⟨-, -, hinc'⟩ | ⟨hb', hres', -⟩
    · rw [hinc, hinc', ← hincidents] at hleft
      exact absurd hleft (hchanged _)
    · refine ⟨⟨fun hp => absurd hp hb, fun hp => absurd hp hb'⟩, fun _ => ?_⟩
      rw [hres, hres'] at hresponse
      exact iff_of_respond (by decide) hresponse

lemma discreet_assignIncident {id : IncidentId} {assignee : String}
    (hout : SameOutcome org (handle int hashPassword ⟨org, userId⟩ (.assignIncident id assignee) d)
      (handle int hashPassword ⟨org, userId⟩ (.assignIncident id assignee) d')) :
    Discreet org userId d d' (.assignIncident id assignee) := by
  intro hgiven hsome
  obtain ⟨r, hr⟩ := Option.isSome_iff_exists.mp hsome
  have hincidents : (d.records.part org true).incidents = (d'.records.part org true).incidents :=
    congrArg (fun t => t.records.incidents) h
  have hsame : Records.Same org d.records d'.records :=
    ⟨congrArg Tenant.records h, congrArg Tenant.now h⟩
  have hr' : d'.records.ownIncident org id = some r := (hsame.ownIncident id).symm.trans hr
  have hresponse : respond 204 (fun _ => Body.none)
        ((assignIncident id assignee ⟨org, userId⟩).eval Records.exec d.records).1
      = respond 204 (fun _ => Body.none)
        ((assignIncident id assignee ⟨org, userId⟩).eval Records.exec d'.records).1 :=
    hout.response
  have hleft : (((assignIncident id assignee ⟨org, userId⟩).eval Records.exec
        d.records).2.part org true).incidents
      = (((assignIncident id assignee ⟨org, userId⟩).eval Records.exec
        d'.records).2.part org true).incidents :=
    congrArg (fun t => t.records.incidents) hout.tenant
  rw [eval_assignIncident hr hgiven, eval_assignIncident hr' hgiven] at hresponse hleft
  -- an incident that is assigned already is assigned to a user
  have hassigned : (d.records.part org true).incidents.map (.withAssignedTo id assignee)
      = (d.records.part org true).incidents → r.assignedTo = some assignee := by
    intro hmap
    have hrow := congrArg IncidentRow.assignedTo (eq_of_map_eq hmap (mem_part_incidents hr))
    rw [IncidentRow.withAssignedTo, if_pos (Records.owns_of_ownIncident hr).2.1] at hrow
    exact hrow.symm
  rcases assign_outcome userId hr assignee with ⟨hu, -, hinc⟩ | ⟨hu, hres, hinc⟩
  · rcases assign_outcome userId hr' assignee with ⟨hu', -, -⟩ | ⟨-, -, hinc'⟩
    · exact ⟨⟨fun hp => absurd hp hu, fun hp => absurd hp hu'⟩, fun hp => absurd hp hu⟩
    · dsimp only at hleft
      rw [hinc, hinc', ← hincidents] at hleft
      exact absurd (d.records.assignees r (Records.owns_of_ownIncident hr).1 assignee
        (hassigned hleft.symm)) hu
  · rcases assign_outcome userId hr' assignee with ⟨hu', -, hinc'⟩ | ⟨hu', hres', -⟩
    · dsimp only at hleft
      rw [hinc, hinc', ← hincidents] at hleft
      exact absurd (d'.records.assignees r (Records.owns_of_ownIncident hr').1 assignee
        (hassigned hleft)) hu'
    · refine ⟨⟨fun _ => hu', fun _ => hu⟩, fun _ => ?_⟩
      rw [hres, hres'] at hresponse
      by_cases hk : d.records.HasUser userId
      · by_cases hk' : d'.records.HasUser userId
        · exact ⟨fun _ => hk', fun _ => hk⟩
        · rw [if_pos hk, if_neg hk'] at hresponse
          cases hresponse
      · by_cases hk' : d'.records.HasUser userId
        · rw [if_neg hk, if_pos hk'] at hresponse
          cases hresponse
        · exact ⟨fun hp => absurd hp hk, fun hp => absurd hp hk'⟩

lemma discreet_resolveIncident {id : IncidentId} {notes : String}
    (hout : SameOutcome org (handle int hashPassword ⟨org, userId⟩ (.resolveIncident id notes) d)
      (handle int hashPassword ⟨org, userId⟩ (.resolveIncident id notes) d')) :
    Discreet org userId d d' (.resolveIncident id notes) := by
  intro r hr hvalid
  have hsame : Records.Same org d.records d'.records :=
    ⟨congrArg Tenant.records h, congrArg Tenant.now h⟩
  have hr' : d'.records.ownIncident org id = some r := (hsame.ownIncident id).symm.trans hr
  have hresponse : respond 204 (fun _ => Body.none)
        ((resolveIncident id notes ⟨org, userId⟩).eval Records.exec d.records).1
      = respond 204 (fun _ => Body.none)
        ((resolveIncident id notes ⟨org, userId⟩).eval Records.exec d'.records).1 :=
    hout.response
  rw [eval_resolveIncident hr hvalid, eval_resolveIncident hr' hvalid,
    resolve_outcome userId hr hvalid, resolve_outcome userId hr' hvalid] at hresponse
  exact iff_of_respond (by decide) hresponse

end Backward

/-- **Only a discreet request has the same outcome** on two databases with the same rows of the
organization. -/
theorem discreet_of_handle (h : d.tenant org = d'.tenant org) {req : Request}
    (hout : SameOutcome org (handle int hashPassword ⟨org, userId⟩ req d)
      (handle int hashPassword ⟨org, userId⟩ req d')) : Discreet org userId d d' req := by
  cases req with
  | provisionDevice req drawn => exact discreet_provisionDevice h hout
  | listMachineDevices id => exact (listMachineDevices_response_iff h id).mp hout.response
  | transitionIncident id status note => exact discreet_transitionIncident h hout
  | assignIncident id assignee => exact discreet_assignIncident h hout
  | resolveIncident id notes => exact discreet_resolveIncident h hout
  | _ => trivial

end Handle

/-! ### Sequences of requests -/

section Run

variable (int : String → Option ℤ) (hashPassword : String → String → String)

/-- What a sequence of requests shows to the organization: each response, and what belongs to it
after the request. -/
def trace (org : String) : List Visit → Database → List (Response × Tenant)
  | [], _ => []
  | v :: vs, d =>
      ((serve int hashPassword org d v).1, (serve int hashPassword org d v).2.tenant org)
        :: trace org vs (serve int hashPassword org d v).2

/-- The same request on two databases. -/
def serveBoth (org : String) (s : Database × Database) (v : Visit) : Database × Database :=
  ((serve int hashPassword org s.1 v).2, (serve int hashPassword org s.2 v).2)

/-- A request that its user may not make finds out nothing. -/
def DiscreetVisit (org : String) (s : Database × Database) (v : Visit) : Prop :=
  v.request.permission ∈ v.permissions → Discreet org v.userId s.1 s.2 v.request

/-- A request does not find out more later. -/
lemma discreet_tick (dt : ℕ) (req : Request) :
    Discreet org userId (d.tick dt) (d'.tick dt) req ↔ Discreet org userId d d' req := by
  cases req <;> exact Iff.rfl

lemma tenant_tick (h : d.tenant org = d'.tenant org) (dt : ℕ) :
    (d.tick dt).tenant org = (d'.tick dt).tenant org := by
  have hnow : d.now = d'.now := congrArg Tenant.now h
  have hnow' : (d.tick dt).now = (d'.tick dt).now := by
    show d.now + dt = d'.now + dt
    rw [hnow]
  rw [Database.tenant, Database.tenant, hnow', Tenant.mk.injEq]
  exact ⟨congrArg Tenant.inventory h, congrArg Tenant.records h, rfl⟩

/-- A request has the same outcome on two databases with the same rows of the organization exactly
when it finds out the same about the others. -/
lemma serve_same_iff (h : d.tenant org = d'.tenant org) (v : Visit) :
    SameOutcome org (serve int hashPassword org d v) (serve int hashPassword org d' v)
      ↔ DiscreetVisit org (d, d') v := by
  have htick := tenant_tick h v.elapsed
  by_cases hallowed : v.request.permission ∈ v.permissions
  · rw [serve, serve, if_pos hallowed, if_pos hallowed]
    constructor
    · exact fun hout _ => (discreet_tick v.elapsed v.request).mp (discreet_of_handle htick hout)
    · exact fun hdiscreet =>
        (handle_same htick ((discreet_tick v.elapsed v.request).mpr (hdiscreet hallowed))).1
  · rw [serve, serve, if_neg hallowed, if_neg hallowed]
    exact ⟨fun _ h => absurd h hallowed, fun _ => ⟨rfl, htick⟩⟩

/-- A request leaves the rows of the others. -/
lemma serve_others (v : Visit) : (serve int hashPassword org d v).2.others org = d.others org := by
  by_cases hallowed : v.request.permission ∈ v.permissions
  · rw [serve, if_pos hallowed]
    exact (handle_same (d := d.tick v.elapsed) rfl (discreet_self v.request)).2
  · rw [serve, if_neg hallowed]
    rfl

/-- So does a sequence of them. -/
lemma others_run (visits : List Visit) (d : Database) :
    (visits.foldl (fun d v => (serve int hashPassword org d v).2) d).others org
      = d.others org := by
  induction visits generalizing d with
  | nil => rfl
  | cons v vs ih => exact (ih _).trans (serve_others int hashPassword v)

/-- **Two databases that agree on everything that belongs to an organization** show its requests
the same responses, and the same changes to its rows, if and only if each request on the way finds
out the same about the others in both; and no request changes a row of the others. -/
theorem trace_eq_iff (org : String) {d d' : Database} (h : d.tenant org = d'.tenant org)
    (visits : List Visit) :
    (trace int hashPassword org visits d = trace int hashPassword org visits d'
        ↔ EachStep (serveBoth int hashPassword org) (DiscreetVisit org) visits (d, d'))
      ∧ (visits.foldl (fun d v => (serve int hashPassword org d v).2) d).others org
        = d.others org := by
  refine ⟨?_, others_run int hashPassword visits d⟩
  induction visits generalizing d d' with
  | nil => exact ⟨fun _ => trivial, fun _ => rfl⟩
  | cons v vs ih =>
      rw [trace, trace, List.cons.injEq, Prod.mk.injEq, EachStep]
      constructor
      · rintro ⟨⟨hresponse, htenant⟩, hrest⟩
        exact ⟨(serve_same_iff int hashPassword h v).mp ⟨hresponse, htenant⟩,
          (ih htenant).mp hrest⟩
      · rintro ⟨hdiscreet, hrest⟩
        have hout := (serve_same_iff int hashPassword h v).mpr hdiscreet
        exact ⟨⟨hout.response, hout.tenant⟩, (ih hout.tenant).mpr hrest⟩

end Run

/-- An organization with one machine; another one has a device with the serial number, or none. -/
def twoTenants (devices : List DeviceRow) (hids : (devices.map DeviceRow.id).Nodup)
    (hserials : (devices.map DeviceRow.serialNumber).Nodup) : Database where
  inventory :=
    { Inventory.empty with
      factories := [⟨"f1", "acme", "Plant 1", none, "DE"⟩]
      productionLines := [⟨"l1", "f1", "Line 1"⟩]
      machines := [⟨"m1", "l1", "Press 1", "press", .RUNNING⟩]
      devices
      device_ids := hids
      serial_numbers := hserials
      sensor_devices := by simp [Inventory.empty]
      credential_devices := by simp [Inventory.empty] }
  records := .empty []

/-- The serial number is in use elsewhere. -/
def serialElsewhere : Database :=
  twoTenants [⟨"d9", "m9", "globex", "SN-1", .ACTIVE, none, none⟩] (by decide) (by decide)

/-- It is not. -/
def serialFree : Database := twoTenants [] (by decide) (by decide)

/-- The provisioning of a device with it. -/
def provisionSerial : Visit where
  elapsed := 0
  userId := "u1"
  permissions := ["devices:write"]
  request := .provisionDevice { machineId := "m1", serialNumber := "SN-1" } ⟨"d1", "secret", "salt"⟩

theorem trace_eq_iff_provisionSerial :
    (trace (fun _ => none) (· ++ ·) "acme" [provisionSerial] serialElsewhere
        = trace (fun _ => none) (· ++ ·) "acme" [provisionSerial] serialFree
      ↔ EachStep (serveBoth (fun _ => none) (· ++ ·) "acme") (DiscreetVisit "acme")
        [provisionSerial] (serialElsewhere, serialFree))
      ∧ (([provisionSerial].foldl (fun d v => (serve (fun _ => none) (· ++ ·) "acme" d v).2)
        serialElsewhere).others "acme" = serialElsewhere.others "acme") :=
  trace_eq_iff (fun _ => none) (· ++ ·) "acme" (by decide +kernel) [provisionSerial]

/-- **A serial number of another organization in a status code**: `devices.serial_number` is unique
over all of them. -/
theorem serial_number_disclosed :
    ¬ ∀ (d d' : Database) (visits : List Visit), d.tenant "acme" = d'.tenant "acme" →
      trace (fun _ => none) (· ++ ·) "acme" visits d
        = trace (fun _ => none) (· ++ ·) "acme" visits d' := by
  intro h
  have htrace := h serialElsewhere serialFree [provisionSerial] (by decide +kernel)
  have hcodes := congrArg (List.map fun o => o.1.statusCode) htrace
  revert hcodes
  decide +kernel

end Api

end InduSense
