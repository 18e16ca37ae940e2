import InduSense.Api.InventoryTenancy
import InduSense.Api.RecordsTenancy

/-!
One request in the name of an organization, on two databases with the same rows of it.

* `Inventory.Beside`, `Records.Beside`: the two databases, and the rows of the others in the first;
  with the rules for the statements `Within` the organization.
* `lockstep_provisionDevice`, `lockstep_transitionIncident`, `lockstep_assignIncident`,
  `lockstep_resolveIncident`, …: the handlers get the same answers on both, the writing ones if what
  they find out about the others is the same.
-/

namespace InduSense

open Statement.Prog (Lockstep lockstep_issue lockstep_issue_bind lockstep_bind
  lockstep_attempt_bind)

/-! ### The device hierarchy -/

namespace Inventory

/-- Two inventories with the same rows of the organization; the rows of the others in the first
are `others`. -/
structure Beside (org : String) (others : Part) (inv inv' : Inventory) : Prop where
  same : Same org inv inv'
  others : inv.part org false = others

variable {org : String} {others : Part} {inv inv' : Inventory} {now : Time} {β : Type}

lemma Beside.exec (now : Time) {c : HierarchyStmt} (h : Beside org others inv inv')
    (hc : Within org inv c) (hagrees : Agrees inv inv' c) :
    (exec now c inv).1 = (exec now c inv').1
      ∧ Beside org others (Inventory.exec now c inv).2 (Inventory.exec now c inv').2 := by
  obtain ⟨hans, hsame⟩ := exec_same h.same hc hagrees
  exact ⟨hans, hsame, (part_exec hc).trans h.others⟩

/-- The rule for a statement in the name of the organization. -/
lemma Beside.issue_bind {c : HierarchyStmt} {f : c.Answer → Hierarchy.Prog β}
    (h : Beside org others inv inv') (hc : Within org inv c) (hagrees : Agrees inv inv' c)
    (hok : ∀ a, (Inventory.exec now c inv).1 = .ok a →
      Beside org others (Inventory.exec now c inv).2 (Inventory.exec now c inv').2 →
      Lockstep (Inventory.exec now) (fun _ => Beside org others) (f a)
        (Inventory.exec now c inv).2 (Inventory.exec now c inv').2) :
    Lockstep (Inventory.exec now) (fun _ => Beside org others)
      (Statement.Prog.bind (Hierarchy.issue c) f) inv inv' := by
  obtain ⟨hans, hafter⟩ := h.exec now hc hagrees
  exact lockstep_issue_bind hans (fun a ha => hok a ha hafter) fun _ _ => hafter

/-- The rule for such a statement and its handlers. -/
lemma Beside.attempt_bind {c : HierarchyStmt} {f : Except PyError c.Answer → Hierarchy.Prog β}
    (h : Beside org others inv inv') (hc : Within org inv c) (hagrees : Agrees inv inv' c)
    (hf : ∀ r, (Inventory.exec now c inv).1 = r →
      Beside org others (Inventory.exec now c inv).2 (Inventory.exec now c inv').2 →
      Lockstep (Inventory.exec now) (fun _ => Beside org others) (f r)
        (Inventory.exec now c inv).2 (Inventory.exec now c inv').2) :
    Lockstep (Inventory.exec now) (fun _ => Beside org others)
      (Statement.Prog.bind (Hierarchy.issue c).attempt f) inv inv' := by
  obtain ⟨hans, hafter⟩ := h.exec now hc hagrees
  exact lockstep_attempt_bind (lockstep_issue hans (hf _ rfl hafter))

end Inventory

namespace Api

section Hierarchy

variable {org userId : String} {others : Inventory.Part} {inv inv' : Inventory} {now : Time}
  {int : String → Option ℤ} {hashPassword : String → String → String}

open Inventory (Beside)

lemma lockstep_listFactories (h : Beside org others inv inv') (query : Query) :
    Lockstep (Inventory.exec now) (fun _ => Beside org others)
      (listFactories int query ⟨org, userId⟩) inv inv' := by
  refine h.attempt_bind rfl trivial fun r _ _ => ?_
  cases r with
  | ok rows => exact h
  | error e => exact h

lemma lockstep_getFactory (h : Beside org others inv inv') (id : String) :
    Lockstep (Inventory.exec now) (fun _ => Beside org others)
      (getFactory id ⟨org, userId⟩) inv inv' := by
  refine h.issue_bind rfl trivial fun row _ _ => ?_
  cases row with
  | none => exact h
  | some row => exact h

lemma lockstep_listProductionLines (h : Beside org others inv inv') (id : String) :
    Lockstep (Inventory.exec now) (fun _ => Beside org others)
      (listProductionLines id ⟨org, userId⟩) inv inv' := by
  refine h.issue_bind rfl trivial fun found hfound _ => ?_
  obtain rfl : inv.ownsFactory org id = found := Except.ok.inj hfound
  split
  · exact h
  · rename_i hown
    have hown' : inv.ownsFactory org id = true := by simpa using hown
    exact h.issue_bind hown' trivial fun rows _ _ => h

lemma lockstep_getMachine (h : Beside org others inv inv') (id : String) :
    Lockstep (Inventory.exec now) (fun _ => Beside org others)
      (getMachine id ⟨org, userId⟩) inv inv' := by
  refine h.issue_bind rfl trivial fun row _ _ => ?_
  cases row with
  | none => exact h
  | some row => exact h

lemma lockstep_listLineMachines (h : Beside org others inv inv') (id : String) :
    Lockstep (Inventory.exec now) (fun _ => Beside org others)
      (listLineMachines id ⟨org, userId⟩) inv inv' := by
  refine h.issue_bind rfl trivial fun found hfound _ => ?_
  obtain rfl : inv.ownsLine org id = found := Except.ok.inj hfound
  split
  · exact h
  · rename_i hown
    have hown' : inv.ownsLine org id = true := by simpa using hown
    exact h.issue_bind hown' trivial fun rows _ _ => h

lemma lockstep_listDevices (h : Beside org others inv inv') (query : Query) :
    Lockstep (Inventory.exec now) (fun _ => Beside org others)
      (listDevices int query ⟨org, userId⟩) inv inv' := by
  refine h.attempt_bind rfl trivial fun r _ _ => ?_
  cases r with
  | ok rows => exact h
  | error e => exact h

lemma lockstep_getDevice (h : Beside org others inv inv') (id : String) :
    Lockstep (Inventory.exec now) (fun _ => Beside org others)
      (getDevice id ⟨org, userId⟩) inv inv' := by
  refine h.issue_bind rfl trivial fun row _ _ => ?_
  cases row with
  | none => exact h
  | some row => exact h

lemma lockstep_listDeviceSensors (h : Beside org others inv inv') (id : String) :
    Lockstep (Inventory.exec now) (fun _ => Beside org others)
      (listDeviceSensors id ⟨org, userId⟩) inv inv' := by
  refine h.issue_bind rfl trivial fun found hfound _ => ?_
  obtain rfl : inv.ownsDevice org id = found := Except.ok.inj hfound
  split
  · exact h
  · rename_i hown
    have hown' : inv.ownsDevice org id = true := by simpa using hown
    exact h.issue_bind hown' trivial fun rows _ _ => h

/-- Whether the id or the serial number is taken is all that a provisioning finds out. -/
lemma lockstep_provisionDevice (h : Beside org others inv inv') {req : ProvisionDeviceRequest}
    {drawn : Drawn} (htaken : req.machineId ≠ "" → req.serialNumber ≠ "" →
      inv.ownsMachine org req.machineId = true →
      (inv.Taken drawn.deviceId req.serialNumber ↔ inv'.Taken drawn.deviceId req.serialNumber)) :
    Lockstep (Inventory.exec now) (fun _ => Beside org others)
      (provisionDevice hashPassword req drawn ⟨org, userId⟩) inv inv' := by
  rw [provisionDevice]
  split
  · exact h
  · rename_i hgiven
    rw [not_or] at hgiven
    refine h.issue_bind rfl trivial fun found hfound _ => ?_
    obtain rfl : inv.ownsMachine org req.machineId = found := Except.ok.inj hfound
    split
    · exact h
    · rename_i hown
      have hown' : inv.ownsMachine org req.machineId = true := by simpa using hown
      have hagrees : Inventory.Agrees inv inv'
          (.insertDevice (newDevice hashPassword req drawn ⟨org, userId⟩)) :=
        htaken hgiven.1 hgiven.2 hown'
      refine h.attempt_bind rfl hagrees fun r _ hafter => ?_
      cases r with
      | ok row => exact hafter
      | error exc =>
          dsimp only
          split
          · exact hafter
          · exact hafter

lemma lockstep_rotateCredentials (h : Beside org others inv inv') (id : String) (drawn : Drawn) :
    Lockstep (Inventory.exec now) (fun _ => Beside org others)
      (rotateCredentials hashPassword id drawn ⟨org, userId⟩) inv inv' := by
  refine h.issue_bind rfl trivial fun found hfound _ => ?_
  obtain rfl : inv.ownsDevice org id = found := Except.ok.inj hfound
  split
  · exact h
  · rename_i hown
    have hown' : inv.ownsDevice org id = true := by simpa using hown
    refine h.attempt_bind hown' trivial fun r _ hafter => ?_
    cases r with
    | ok u => exact hafter
    | error exc => exact hafter

lemma lockstep_decommissionDevice (h : Beside org others inv inv') (id : String) :
    Lockstep (Inventory.exec now) (fun _ => Beside org others)
      (decommissionDevice id ⟨org, userId⟩) inv inv' := by
  refine h.issue_bind rfl trivial fun rowcount _ hafter => ?_
  split
  · exact hafter
  · exact hafter

end Hierarchy

/-! ### Alerts and incidents -/

namespace Records

/-- Two databases with the same rows of the organization; the rows of the others in the first are
`others`. -/
structure Beside (org : String) (others : Part) (db db' : Records) : Prop where
  same : Same org db db'
  others : db.part org false = others

variable {org : String} {others : Part} {db db' : Records} {β : Type}

lemma Beside.exec {c : Stmt} (h : Beside org others db db') (hc : Within org db c)
    (hagrees : Agrees db db' c) :
    (exec c db).1 = (exec c db').1
      ∧ Beside org others (Records.exec c db).2 (Records.exec c db').2 := by
  obtain ⟨hans, hsame⟩ := exec_same h.same hc hagrees
  exact ⟨hans, hsame, (part_exec hc).trans h.others⟩

/-- The rule for a statement in the name of the organization. -/
lemma Beside.issue_bind {c : Stmt} {f : c.Answer → Alerting.Prog β}
    (h : Beside org others db db') (hc : Within org db c) (hagrees : Agrees db db' c)
    (hok : ∀ a, (Records.exec c db).1 = .ok a →
      Beside org others (Records.exec c db).2 (Records.exec c db').2 →
      Lockstep Records.exec (fun _ => Beside org others) (f a)
        (Records.exec c db).2 (Records.exec c db').2) :
    Lockstep Records.exec (fun _ => Beside org others)
      (Statement.Prog.bind (Alerting.issue c) f) db db' := by
  obtain ⟨hans, hafter⟩ := h.exec hc hagrees
  exact lockstep_issue_bind hans (fun a ha => hok a ha hafter) fun _ _ => hafter

/-- The rule for such a statement as the last one. -/
lemma Beside.issue {c : Stmt} (h : Beside org others db db') (hc : Within org db c)
    (hagrees : Agrees db db' c) :
    Lockstep Records.exec (fun _ => Beside org others) (Alerting.issue c) db db' := by
  obtain ⟨hans, hafter⟩ := h.exec hc hagrees
  exact lockstep_issue hans hafter

/-- The rule for a read whose failure is an internal error. -/
lemma Beside.internalOnError_bind {c : Stmt} {f : c.Answer → Alerting.Prog β}
    (h : Beside org others db db') (hc : Within org db c) (hagrees : Agrees db db' c)
    (hok : ∀ a, (Records.exec c db).1 = .ok a →
      Beside org others (Records.exec c db).2 (Records.exec c db').2 →
      Lockstep Records.exec (fun _ => Beside org others) (f a)
        (Records.exec c db).2 (Records.exec c db').2) :
    Lockstep Records.exec (fun _ => Beside org others)
      (Statement.Prog.bind (internalOnError (Alerting.issue c)) f) db db' := by
  obtain ⟨hans, hafter⟩ := h.exec hc hagrees
  refine lockstep_bind (lockstep_attempt_bind (lockstep_issue hans ?_))
  cases hr : (Records.exec c db).1 with
  | ok a => exact hok a hr hafter
  | error e => exact hafter

end Records

section Incidents

open Records (Beside)
open Incidents (Store.transition Store.assign isValidTransition)

variable {org userId : String} {others : Records.Part} {db db' : Records}
  {int : String → Option ℤ}

lemma lockstep_listAlerts (h : Beside org others db db') (query : Query) :
    Lockstep Records.exec (fun _ => Beside org others)
      (listAlerts int query ⟨org, userId⟩) db db' :=
  h.internalOnError_bind rfl trivial fun _ _ _ => h

lemma lockstep_getAlert (h : Beside org others db db') (id : AlertId) :
    Lockstep Records.exec (fun _ => Beside org others) (getAlert id ⟨org, userId⟩) db db' := by
  refine h.issue_bind rfl trivial fun row _ _ => ?_
  cases row with
  | none => exact h
  | some row => exact h

lemma lockstep_acknowledgeAlert (h : Beside org others db db') (id : AlertId) :
    Lockstep Records.exec (fun _ => Beside org others)
      (acknowledgeAlert id ⟨org, userId⟩) db db' := by
  refine h.issue_bind rfl trivial fun rowcount _ hafter => ?_
  split
  · exact hafter
  · exact hafter

lemma lockstep_listIncidents (h : Beside org others db db') (query : Query) :
    Lockstep Records.exec (fun _ => Beside org others)
      (listIncidents int query ⟨org, userId⟩) db db' :=
  h.internalOnError_bind rfl trivial fun _ _ _ => h

lemma lockstep_getIncident (h : Beside org others db db') (id : IncidentId) :
    Lockstep Records.exec (fun _ => Beside org others) (getIncident id ⟨org, userId⟩) db db' := by
  refine h.internalOnError_bind rfl trivial fun row hrow _ => ?_
  cases row with
  | none => exact h
  | some inc =>
      have hown := (Records.owns_of_ownIncident (Except.ok.inj hrow)).2.2.2
      exact h.internalOnError_bind (c := .selectIncidentEvents id) hown trivial fun events _ _ => h

/-- The tenant check lets through the incidents of the organization. -/
lemma lockstep_requireIncident {α : Type} (h : Beside org others db db') {id : IncidentId}
    {body : Alerting.Prog α} (hbody : ∀ r, db.ownIncident org id = some r →
      Lockstep Records.exec (fun _ => Beside org others) body db db') :
    Lockstep Records.exec (fun _ => Beside org others)
      (Statement.Prog.bind (requireIncident id ⟨org, userId⟩) fun _ => body) db db' := by
  have hans := (h.exec (c := .selectIncident id org) rfl trivial).1
  refine lockstep_bind (lockstep_issue_bind hans (fun row hrow => ?_) fun e _ => h)
  cases row with
  | none => exact h
  | some r => exact hbody r (Except.ok.inj hrow)

/-- Whether another incident is active on the machine, and whether the actor is a user, is all that
a transition finds out. -/
lemma lockstep_transition (h : Beside org others db db') {id : IncidentId} {r : IncidentRow}
    (hr : db.ownIncident org id = some r) {status note : String}
    (hagrees : ∀ st ∈ IncidentStatus.ofText status, isValidTransition r.status st = true →
      (db.Blocked id st ↔ db'.Blocked id st)
        ∧ (¬ db.Blocked id st → (db.HasUser userId ↔ db'.HasUser userId))) :
    Lockstep Records.exec (fun _ => Beside org others)
      (Store.transition id status (some userId) note) db db' := by
  have hown := (Records.owns_of_ownIncident hr).2.2.2
  have hfind : db.world.incidents.find id = some r :=
    (Records.ownIncident_of_owns hown).symm.trans hr
  refine h.issue_bind (c := .selectIncidentStatus id) hown trivial fun current hcurrent _ => ?_
  have hcurrent' : current = some r.status := by
    have hans : (Records.exec (.selectIncidentStatus id) db).1
        = .ok ((db.world.incidents.find id).map IncidentRow.status) := rfl
    rw [hans, hfind] at hcurrent
    exact (Except.ok.inj hcurrent).symm
  subst hcurrent'
  dsimp only
  cases hst : (IncidentStatus.ofText status).filter (isValidTransition r.status) with
  | none => exact h
  | some st =>
      obtain ⟨hst, hvalid⟩ := Option.filter_eq_some_iff.mp hst
      obtain ⟨hblocked, hactor⟩ := hagrees st hst hvalid
      refine h.issue_bind (c := .updateIncidentStatus id st) hown hblocked fun _ hdone hafter => ?_
      have hfree : ¬ db.Blocked id st := by
        intro hb
        have hrefused := (Records.exec_updateIncidentStatus hown st).resolve_right
          fun hf => hf.1 hb
        cases hdone.symm.trans hrefused.2.1
      have hown' : (Records.exec (.updateIncidentStatus id st) db).2.ownsIncident org id
          = true := by
        have hpart := ((Records.exec_updateIncidentStatus hown st).resolve_left
          fun hb => hfree hb.1).2.2 true
        have hr' := Records.ownIncident_of_update (IncidentRow.withStatus_id id st _) hpart hr
        exact (Records.owns_of_ownIncident hr').2.2.2
      refine hafter.issue hown' fun u hu => ?_
      obtain rfl : userId = u := Option.some.inj hu
      have hactor' := hactor hfree
      rw [Records.HasUser, Records.HasUser, Records.exec_users, Records.exec_users]
      exact hactor'

/-- The answers to a refused transition do not depend on the databases. -/
lemma lockstep_conflictOnInvalid {body : Alerting.Prog Unit}
    (h : Lockstep Records.exec (fun _ => Beside org others) body db db') :
    Lockstep Records.exec (fun _ => Beside org others) (conflictOnInvalid body) db db' := by
  refine lockstep_attempt_bind (h.mono fun r t t' ht => ?_)
  cases r with
  | ok u => exact ht
  | error exc =>
      dsimp only
      split
      · exact ht
      · exact ht

lemma lockstep_transitionIncident (h : Beside org others db db') {id : IncidentId}
    {status note : String}
    (hagrees : ∀ r ∈ db.ownIncident org id, ∀ st ∈ IncidentStatus.ofText status,
      isValidTransition r.status st = true → (db.Blocked id st ↔ db'.Blocked id st)
        ∧ (¬ db.Blocked id st → (db.HasUser userId ↔ db'.HasUser userId))) :
    Lockstep Records.exec (fun _ => Beside org others)
      (transitionIncident id status note ⟨org, userId⟩) db db' := by
  rw [transitionIncident]
  split
  · exact h
  · exact lockstep_requireIncident h fun r hr =>
      lockstep_conflictOnInvalid (lockstep_transition h hr (hagrees r hr))

/-- Whether the assignee and the actor are users is all that an assignment finds out. -/
lemma lockstep_assignIncident (h : Beside org others db db') {id : IncidentId} {assignee : String}
    (hagrees : assignee ≠ "" → (db.ownIncident org id).isSome = true →
      (db.HasUser assignee ↔ db'.HasUser assignee)
        ∧ (db.HasUser assignee → (db.HasUser userId ↔ db'.HasUser userId))) :
    Lockstep Records.exec (fun _ => Beside org others)
      (assignIncident id assignee ⟨org, userId⟩) db db' := by
  rw [assignIncident]
  split
  · exact h
  · rename_i hgiven
    refine lockstep_requireIncident h fun r hr => ?_
    obtain ⟨hassignee, hactor⟩ := hagrees hgiven (by rw [hr]; rfl)
    have hown := (Records.owns_of_ownIncident hr).2.2.2
    have hassign : Lockstep Records.exec (fun _ => Beside org others)
        (Store.assign id assignee (some userId)) db db' := by
      refine h.issue_bind (c := .updateAssignedTo id assignee) hown hassignee
        fun _ hdone hafter => ?_
      have hknown : db.HasUser assignee := by
        by_contra hunknown
        have hrefused := (Records.exec_updateAssignedTo hown assignee).resolve_right
          fun hk => hunknown hk.1
        rw [hrefused.2] at hdone
        cases hdone
      have hown' : (Records.exec (.updateAssignedTo id assignee) db).2.ownsIncident org id
          = true := by
        have hpart := ((Records.exec_updateAssignedTo hown assignee).resolve_left
          fun hu => hu.1 hknown).2.2 true
        have hr' := Records.ownIncident_of_update (IncidentRow.withAssignedTo_id id assignee)
          hpart hr
        exact (Records.owns_of_ownIncident hr').2.2.2
      refine hafter.issue hown' fun u hu => ?_
      obtain rfl : userId = u := Option.some.inj hu
      rw [Records.HasUser, Records.HasUser, Records.exec_users, Records.exec_users]
      exact hactor hknown
    refine lockstep_attempt_bind (hassign.mono fun r t t' ht => ?_)
    cases r with
    | ok u => exact ht
    | error e => exact ht

/-- Whether the actor is a user is all that a resolution finds out. -/
lemma lockstep_resolveIncident (h : Beside org others db db') {id : IncidentId} {notes : String}
    (hagrees : ∀ r ∈ db.ownIncident org id, isValidTransition r.status .RESOLVED = true →
      (db.HasUser userId ↔ db'.HasUser userId)) :
    Lockstep Records.exec (fun _ => Beside org others)
      (resolveIncident id notes ⟨org, userId⟩) db db' := by
  refine lockstep_requireIncident h fun r hr => lockstep_conflictOnInvalid ?_
  have hown := (Records.owns_of_ownIncident hr).2.2.2
  refine h.issue_bind (c := .updateResolutionNotes id notes) hown trivial fun _ _ hafter => ?_
  have hpart := (Records.exec_updateResolutionNotes org db id notes).2 true
  have hr' := Records.ownIncident_of_update (IncidentRow.withResolutionNotes_id id notes) hpart hr
  refine lockstep_transition hafter hr' fun st hst hvalid => ?_
  obtain rfl : IncidentStatus.RESOLVED = st := Option.some.inj hst
  rw [IncidentRow.withResolutionNotes_status] at hvalid
  -- a resolved incident is active no more, so the index has nothing to say
  refine ⟨⟨fun hb => absurd hb.1 Bool.false_ne_true, fun hb => absurd hb.1 Bool.false_ne_true⟩,
    fun _ => ?_⟩
  rw [Records.HasUser, Records.HasUser, Records.exec_users, Records.exec_users]
  exact hagrees r hr hvalid

end Incidents

end Api

end InduSense
