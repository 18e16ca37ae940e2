import InduSense.Api.Handlers
import InduSense.Api.Records

/-!
What of the alerts and incidents belongs to an organization, and what its requests make of it.

* `Records.part`: the rows of an organization, or those of the others.
* `Records.Blocked`: another incident is active on the machine.
* `Records.exec_updateIncidentStatus`, `exec_updateAssignedTo`, `exec_insertIncidentEvent`: when
  the writers are refused, and what they make of either part when they are not.
* `Records.Same`, `Records.Within`, `Records.Agrees`, `Records.exec_same`, `Records.part_exec`: as
  for the device hierarchy.
-/

namespace InduSense

open Statement (filter_eq_of_part find?_eq_of_part any_eq_of_part filter_map_comm)
open IncidentTable (secondActive)

namespace Api

namespace Records

/-- Rows of the four tables. -/
structure Part where
  users : List UserRow
  alerts : List AlertRow
  incidents : List IncidentRow
  incidentEvents : List IncidentEventRow
  deriving DecidableEq

/-- An incident of the organization. -/
def ownsIncident (db : Records) (org : String) (id : IncidentId) : Bool :=
  db.world.incidents.rows.any fun r => r.id = id ∧ r.organizationId = org

/-- The incident of the organization that has the id. -/
def ownIncident (db : Records) (org : String) (id : IncidentId) : Option IncidentRow :=
  (db.world.incidents.find id).filter fun r => r.organizationId = org

/-- What belongs to the organization or, where `own` is false, to the others.  An event belongs to
the organization of its incident. -/
def part (db : Records) (org : String) (own : Bool) : Part where
  users := db.users.filter fun u => decide (u.organizationId = org) == own
  alerts := db.world.alerts.rows.filter fun r => decide (r.organizationId = org) == own
  incidents := db.world.incidents.rows.filter fun r => decide (r.organizationId = org) == own
  incidentEvents := db.world.incidentEvents.filter fun e => db.ownsIncident org e.incidentId == own

/-- Two databases agree on everything that belongs to the organization, at the same instant. -/
structure Same (org : String) (db db' : Records) : Prop where
  part : db.part org true = db'.part org true
  now : db.world.now = db'.world.now

/-- The status would make the incident a second active one of its machine. -/
def Blocked (db : Records) (id : IncidentId) (status : IncidentStatus) : Prop :=
  status.active = true ∧ ∃ r ∈ db.world.incidents.rows, r.id = id
    ∧ ∃ r' ∈ db.world.incidents.rows, r'.id ≠ id ∧ r'.ActiveFor r.machineId

instance (db : Records) (id : IncidentId) (status : IncidentStatus) :
    Decidable (db.Blocked id status) :=
  inferInstanceAs (Decidable (status.active = true ∧ ∃ r ∈ db.world.incidents.rows, r.id = id
    ∧ ∃ r' ∈ db.world.incidents.rows, r'.id ≠ id ∧ r'.ActiveFor r.machineId))

variable {org : String} {db db' : Records}

/-! ### What the writers make of either part -/

section Writers

variable {id : IncidentId} {own : Bool}

/-- The incident behind its id. -/
lemma ownsIncident_iff :
    db.ownsIncident org id = true
      ↔ ∃ r ∈ db.world.incidents.rows, r.id = id ∧ r.organizationId = org := by
  simp only [ownsIncident, List.any_eq_true, decide_eq_true_eq]

/-- An update of the incidents in place. -/
lemma part_of_update {f : IncidentRow → IncidentRow} (hid : ∀ r, (f r).id = r.id)
    (horg : ∀ r, (f r).organizationId = r.organizationId) (husers : db'.users = db.users)
    (halerts : db'.world.alerts = db.world.alerts)
    (hrows : db'.world.incidents.rows = db.world.incidents.rows.map f)
    (hevents : db'.world.incidentEvents = db.world.incidentEvents) :
    db'.part org own =
      { db.part org own with incidents := (db.part org own).incidents.map f } := by
  have howns : db'.ownsIncident org = db.ownsIncident org := by
    funext id'
    rw [ownsIncident, ownsIncident, hrows, List.any_map]
    refine congrArg (List.any db.world.incidents.rows) (funext fun r => ?_)
    simp [hid, horg]
  simp only [part, husers, halerts, hrows, hevents, howns]
  rw [filter_map_comm fun r => by rw [horg]]

/-- An update of an incident of the organization is not seen by the others. -/
lemma others_update (hown : db.ownsIncident org id = true) {f : IncidentRow → IncidentRow}
    (hf : ∀ r, r.id ≠ id → f r = r) :
    (db.part org false).incidents.map f = (db.part org false).incidents := by
  obtain ⟨r, hr, hid, horg⟩ := ownsIncident_iff.mp hown
  refine (List.map_congr_left fun r' hr' => hf r' fun hid' => ?_).trans (List.map_id _)
  obtain ⟨hmem, hother⟩ := List.mem_filter.mp hr'
  rw [db.world.incidents.eq_of_id_eq hmem hr (hid'.trans hid.symm), horg] at hother
  simp at hother

/-- A status update is refused when another incident is active on the machine. -/
lemma exec_updateIncidentStatus (hown : db.ownsIncident org id = true) (status : IncidentStatus) :
    (db.Blocked id status ∧ (exec (.updateIncidentStatus id status) db).1 = .error secondActive
        ∧ ∀ own, (exec (.updateIncidentStatus id status) db).2.part org own = db.part org own)
      ∨ ¬ db.Blocked id status ∧ (exec (.updateIncidentStatus id status) db).1 = .ok ()
        ∧ ∀ own, (exec (.updateIncidentStatus id status) db).2.part org own =
          { db.part org own with
            incidents := (db.part org own).incidents.map
              (.withStatus id status db.world.now) } := by
  obtain ⟨hans, husers, hworld⟩ :=
    exec_of_accepted (c := .updateIncidentStatus id status) (show db.refusal _ = none from rfl)
  obtain ⟨r, hr, rfl, -⟩ := ownsIncident_iff.mp hown
  by_cases hblocked : db.Blocked r.id status
  · refine .inl ⟨hblocked, ?_⟩
    obtain ⟨hactive, r₀, hr₀, hid, r', hr', hne, hr'active⟩ := hblocked
    rw [db.world.incidents.eq_of_id_eq hr₀ hr hid] at hr'active
    have hrefused := IncidentTable.updateStatus_refused hr hr' hne hactive hr'active db.world.now
    refine ⟨by rw [hans, World.exec, hrefused], fun own => ?_⟩
    have hsame : (exec (.updateIncidentStatus r.id status) db).2.world = db.world := by
      rw [hworld, World.exec, hrefused]
    simp only [part, ownsIncident, husers, hsame]
  · refine .inr ⟨hblocked, ?_⟩
    have hfree : ∀ r' ∈ db.world.incidents.rows, r'.id ≠ r.id → status.active = true →
        ¬ r'.ActiveFor r.machineId :=
      fun r' hr' hne hactive hr'active =>
        hblocked ⟨hactive, r, hr, rfl, r', hr', hne, hr'active⟩
    obtain ⟨t', hup, hrows⟩ := IncidentTable.updateStatus_accepted hr hfree db.world.now
    refine ⟨by rw [hans, World.exec, hup], fun own => ?_⟩
    refine part_of_update (IncidentRow.withStatus_id r.id status _)
      (IncidentRow.withStatus_organizationId r.id status _) husers ?_ ?_ ?_
    · rw [hworld]
      rfl
    · rw [hworld, World.exec, hup, hrows]
    · rw [hworld]
      rfl

/-- An assignment is refused when there is no such user. -/
lemma exec_updateAssignedTo (hown : db.ownsIncident org id = true) (userId : String) :
    (¬ db.HasUser userId
        ∧ exec (.updateAssignedTo id userId) db = (.error (missingReference "incidents"), db))
      ∨ db.HasUser userId ∧ (exec (.updateAssignedTo id userId) db).1 = .ok ()
        ∧ ∀ own, (exec (.updateAssignedTo id userId) db).2.part org own =
          { db.part org own with
            incidents := (db.part org own).incidents.map (.withAssignedTo id userId) } := by
  by_cases huser : db.HasUser userId
  · refine .inr ⟨huser, ?_⟩
    have haccepted : db.refusal (.updateAssignedTo id userId) = none :=
      if_neg fun h => h.2 huser
    obtain ⟨hans, husers, hworld⟩ := exec_of_accepted haccepted
    refine ⟨hans, fun own => ?_⟩
    refine part_of_update (IncidentRow.withAssignedTo_id id userId)
      (IncidentRow.withAssignedTo_organizationId id userId) husers ?_ ?_ ?_
    · rw [hworld]
      rfl
    · rw [hworld]
      exact IncidentTable.updateAssignedTo_rows ..
    · rw [hworld]
      rfl
  · refine .inl ⟨huser, exec_of_refusal ?_⟩
    obtain ⟨r, hr, hid, -⟩ := ownsIncident_iff.mp hown
    exact if_pos ⟨⟨r, hr, hid⟩, huser⟩

/-- Notes are never refused. -/
lemma exec_updateResolutionNotes (org : String) (db : Records) (id : IncidentId) (notes : String) :
    (exec (.updateResolutionNotes id notes) db).1 = .ok ()
      ∧ ∀ own, (exec (.updateResolutionNotes id notes) db).2.part org own =
        { db.part org own with
          incidents := (db.part org own).incidents.map (.withResolutionNotes id notes) } := by
  obtain ⟨hans, husers, hworld⟩ :=
    exec_of_accepted (c := .updateResolutionNotes id notes) (show db.refusal _ = none from rfl)
  refine ⟨hans, fun own => ?_⟩
  refine part_of_update (IncidentRow.withResolutionNotes_id id notes)
    (IncidentRow.withResolutionNotes_organizationId id notes) husers ?_ ?_ ?_
  · rw [hworld]
    rfl
  · rw [hworld]
    exact IncidentTable.updateResolutionNotes_rows ..
  · rw [hworld]
    rfl

/-- The row of an event. -/
def eventRow (v : NewIncidentEvent) (now : Time) : IncidentEventRow :=
  ⟨v.incidentId, v.eventType, v.actorUserId, v.oldValue, v.newValue, v.note, now⟩

/-- An event is refused when its actor is no user. -/
lemma exec_insertIncidentEvent {v : NewIncidentEvent}
    (hown : db.ownsIncident org v.incidentId = true) :
    ((¬ ∀ u ∈ v.actorUserId, db.HasUser u)
        ∧ exec (.insertIncidentEvent v) db = (.error (missingReference "incident_events"), db))
      ∨ (∀ u ∈ v.actorUserId, db.HasUser u) ∧ (exec (.insertIncidentEvent v) db).1 = .ok ()
        ∧ ∀ own, (exec (.insertIncidentEvent v) db).2.part org own =
          { db.part org own with
            incidentEvents := (db.part org own).incidentEvents
              ++ if own then [eventRow v db.world.now] else [] } := by
  obtain ⟨r, hr, hid, -⟩ := ownsIncident_iff.mp hown
  by_cases hactor : ∀ u ∈ v.actorUserId, db.HasUser u
  · refine .inr ⟨hactor, ?_⟩
    have haccepted : db.refusal (.insertIncidentEvent v) = none :=
      if_pos ⟨⟨r, hr, hid⟩, hactor⟩
    obtain ⟨hans, husers, hworld⟩ := exec_of_accepted haccepted
    refine ⟨hans, fun own => ?_⟩
    have hevents : (exec (.insertIncidentEvent v) db).2.world.incidentEvents
        = db.world.incidentEvents ++ [eventRow v db.world.now] := by
      rw [hworld]
      rfl
    have halerts : (exec (.insertIncidentEvent v) db).2.world.alerts = db.world.alerts := by
      rw [hworld]
      rfl
    have hincidents : (exec (.insertIncidentEvent v) db).2.world.incidents
        = db.world.incidents := by
      rw [hworld]
      rfl
    have howns : (exec (.insertIncidentEvent v) db).2.ownsIncident org = db.ownsIncident org := by
      funext id'
      rw [ownsIncident, ownsIncident, hincidents]
    simp only [part, husers, halerts, hincidents, hevents, howns, List.filter_append,
      List.filter_singleton, eventRow, hown]
    cases own <;> rfl
  · exact .inl ⟨hactor, exec_of_refusal (if_neg fun h => hactor h.2)⟩

/-- An acknowledgement is about an alert of the organization. -/
lemma exec_acknowledgeAlert (org : String) (db : Records) (id : AlertId) :
    (exec (.acknowledgeAlert id org) db).1
        = .ok (db.world.alerts.rows.countP fun r => r.Acknowledges id org)
      ∧ ∀ own, (exec (.acknowledgeAlert id org) db).2.part org own =
        { db.part org own with
          alerts := (db.part org own).alerts.map (.acknowledged id org) } := by
  obtain ⟨hans, husers, hworld⟩ :=
    exec_of_accepted (c := .acknowledgeAlert id org) (show db.refusal _ = none from rfl)
  refine ⟨hans, fun own => ?_⟩
  have halerts : (exec (.acknowledgeAlert id org) db).2.world.alerts.rows
      = db.world.alerts.rows.map (.acknowledged id org) := by
    rw [hworld]
    exact (AlertTable.acknowledgeAlert_rows ..).1
  have hincidents : (exec (.acknowledgeAlert id org) db).2.world.incidents
      = db.world.incidents := by
    rw [hworld]
    rfl
  have hevents : (exec (.acknowledgeAlert id org) db).2.world.incidentEvents
      = db.world.incidentEvents := by
    rw [hworld]
    rfl
  have horg : ∀ r : AlertRow, (r.acknowledged id org).organizationId = r.organizationId := by
    intro r
    rw [AlertRow.acknowledged]
    split <;> rfl
  simp only [part, ownsIncident, husers, halerts, hincidents, hevents]
  rw [filter_map_comm fun r => by rw [horg]]

end Writers

/-! ### What the ownership of a row depends on -/

lemma Same.alerts (h : Same org db db') :
    db.world.alerts.rows.filter (fun r => r.organizationId = org)
      = db'.world.alerts.rows.filter fun r => r.organizationId = org := by
  simpa [Records.part] using congrArg Part.alerts h.part

lemma Same.incidents (h : Same org db db') :
    db.world.incidents.rows.filter (fun r => r.organizationId = org)
      = db'.world.incidents.rows.filter fun r => r.organizationId = org := by
  simpa [Records.part] using congrArg Part.incidents h.part

lemma Same.ownsIncident (h : Same org db db') : db.ownsIncident org = db'.ownsIncident org := by
  funext id
  refine any_eq_of_part h.incidents fun r hr => ?_
  simp only [decide_eq_true_eq] at hr ⊢
  exact hr.2

lemma Same.incidentEvents (h : Same org db db') :
    db.world.incidentEvents.filter (fun e => db.ownsIncident org e.incidentId)
      = db'.world.incidentEvents.filter fun e => db.ownsIncident org e.incidentId := by
  have hevents := congrArg Part.incidentEvents h.part
  simpa [Records.part, ← h.ownsIncident] using hevents

lemma ownIncident_eq (db : Records) (id : IncidentId) :
    db.ownIncident org id = (db.part org true).incidents.find? fun r => r.id = id := by
  rw [ownIncident, Statement.Table.filter_find, part, List.find?_filter]
  refine congrArg (fun p => List.find? p db.world.incidents.rows) (funext fun r => ?_)
  simp [Bool.and_comm]

lemma Same.ownIncident (h : Same org db db') (id : IncidentId) :
    db.ownIncident org id = db'.ownIncident org id := by
  rw [ownIncident_eq, ownIncident_eq, h.part]

/-- What an update makes of an incident of the organization. -/
lemma ownIncident_of_update {f : IncidentRow → IncidentRow} (hid : ∀ r, (f r).id = r.id)
    (hpart : db'.part org true =
      { db.part org true with incidents := (db.part org true).incidents.map f })
    {id : IncidentId} {r : IncidentRow} (hr : db.ownIncident org id = some r) :
    db'.ownIncident org id = some (f r) := by
  have hids : (fun r : IncidentRow => decide (r.id = id)) ∘ f = fun r => decide (r.id = id) := by
    funext r
    simp [hid]
  rw [ownIncident_eq] at hr
  rw [ownIncident_eq, hpart, List.find?_map, hids, hr]
  rfl

/-- What `Store.get` answers. -/
lemma exec_selectIncident (db : Records) (org : String) (id : IncidentId) :
    exec (.selectIncident id org) db = (.ok (db.ownIncident org id), db) :=
  exec_of_read rfl rfl

/-- It is an incident of the organization. -/
lemma owns_of_ownIncident {id : IncidentId} {r : IncidentRow}
    (h : db.ownIncident org id = some r) :
    r ∈ db.world.incidents.rows ∧ r.id = id ∧ r.organizationId = org
      ∧ db.ownsIncident org id = true := by
  obtain ⟨hfind, horg⟩ := Option.filter_eq_some_iff.mp h
  have hr := List.mem_of_find?_eq_some hfind
  have hid : r.id = id := by simpa using List.find?_some hfind
  have horg' : r.organizationId = org := of_decide_eq_true horg
  exact ⟨hr, hid, horg', ownsIncident_iff.mpr ⟨r, hr, hid, horg'⟩⟩

/-- An incident of the organization is found by its id alone. -/
lemma ownIncident_of_owns {id : IncidentId} (hown : db.ownsIncident org id = true) :
    db.ownIncident org id = db.world.incidents.find id := by
  obtain ⟨r, hr, hid, horg⟩ := ownsIncident_iff.mp hown
  rw [ownIncident]
  cases hfind : db.world.incidents.find id with
  | none => rfl
  | some r' =>
      have hid' : r'.id = id := by simpa using List.find?_some hfind
      have heq := db.world.incidents.eq_of_id_eq (List.mem_of_find?_eq_some hfind) hr
        (hid'.trans hid.symm)
      rw [Option.filter_some_pos]
      rw [heq, horg]
      exact decide_eq_true rfl

/-! ### Statements in the name of the organization -/

/-- A statement of the routes that asks for rows of the organization, or is about an incident that
is known to be its own. -/
def Within (org : String) (db : Records) : Stmt → Prop
  | .acknowledgeAlert _ organizationId => organizationId = org
  | .selectAlerts organizationId _ _ _ _ => organizationId = org
  | .selectAlert _ organizationId => organizationId = org
  | .selectIncidentStatus incidentId => db.ownsIncident org incidentId = true
  | .selectIncident _ orgId => orgId = org
  | .selectIncidents orgId _ _ _ => orgId = org
  | .selectIncidentEvents incidentId => db.ownsIncident org incidentId = true
  | .updateIncidentStatus incidentId _ => db.ownsIncident org incidentId = true
  | .updateAssignedTo incidentId _ => db.ownsIncident org incidentId = true
  | .updateResolutionNotes incidentId _ => db.ownsIncident org incidentId = true
  | .insertIncidentEvent v => db.ownsIncident org v.incidentId = true
  | _ => False

/-- What such a statement may still find out about the rest of two databases is the same. -/
def Agrees (db db' : Records) : Stmt → Prop
  | .updateIncidentStatus incidentId status =>
      db.Blocked incidentId status ↔ db'.Blocked incidentId status
  | .updateAssignedTo _ userId => db.HasUser userId ↔ db'.HasUser userId
  | .insertIncidentEvent v => ∀ u ∈ v.actorUserId, (db.HasUser u ↔ db'.HasUser u)
  | _ => True

/-- What a statement in the name of the organization answers, and what it makes of its rows,
depends on these and on what `Agrees` compares. -/
theorem exec_same {c : Stmt} (h : Same org db db') (hc : Within org db c)
    (hagrees : Agrees db db' c) :
    (exec c db).1 = (exec c db').1 ∧ Same org (exec c db).2 (exec c db').2 := by
  have read : (∀ d : Records, d.refusal c = none) → (∀ w, (World.exec c w).2 = w) →
      (World.exec c db.world).1 = (World.exec c db'.world).1 →
      (exec c db).1 = (exec c db').1 ∧ Same org (exec c db).2 (exec c db').2 := by
    intro hrefusal hread hans
    rw [exec_of_read (hrefusal db) (hread _), exec_of_read (hrefusal db') (hread _)]
    exact ⟨hans, h⟩
  have hnow : (exec c db).2.world.now = (exec c db').2.world.now := by
    rw [exec_now, exec_now, h.now]
  cases c with
  | acknowledgeAlert id organizationId =>
      obtain rfl : organizationId = org := hc
      obtain ⟨hans, hpart⟩ := exec_acknowledgeAlert organizationId db id
      obtain ⟨hans', hpart'⟩ := exec_acknowledgeAlert organizationId db' id
      refine ⟨?_, ⟨by rw [hpart, hpart', h.part], hnow⟩⟩
      have hrows : db.world.alerts.rows.filter (fun r => r.Acknowledges id organizationId)
          = db'.world.alerts.rows.filter fun r => r.Acknowledges id organizationId := by
        refine filter_eq_of_part h.alerts fun r hr => ?_
        simp only [decide_eq_true_eq] at hr ⊢
        exact hr.2.1
      rw [hans, hans', List.countP_eq_length_filter, List.countP_eq_length_filter, hrows]
  | selectAlerts organizationId statusFilter severityFilter limit offset =>
      obtain rfl : organizationId = org := hc
      refine read (fun _ => rfl) (fun _ => rfl) (congrArg Except.ok ?_)
      rw [AlertTable.list, AlertTable.list, filter_eq_of_part h.alerts fun r hr => ?_]
      simp only [decide_eq_true_eq] at hr ⊢
      exact hr.1
  | selectAlert id organizationId =>
      obtain rfl : organizationId = org := hc
      refine read (fun _ => rfl) (fun _ => rfl) (congrArg Except.ok ?_)
      rw [Statement.Table.filter_find, Statement.Table.filter_find]
      refine find?_eq_of_part h.alerts fun r hr => ?_
      rw [Bool.and_eq_true] at hr
      exact hr.2
  | selectIncidentStatus incidentId =>
      refine read (fun _ => rfl) (fun _ => rfl) (congrArg Except.ok ?_)
      have hown' : db'.ownsIncident org incidentId = true := h.ownsIncident ▸ hc
      rw [← ownIncident_of_owns hc, ← ownIncident_of_owns hown', h.ownIncident]
  | selectIncident incidentId orgId =>
      obtain rfl : orgId = org := hc
      exact read (fun _ => rfl) (fun _ => rfl) (congrArg Except.ok (h.ownIncident incidentId))
  | selectIncidents orgId statusFilter limit offset =>
      obtain rfl : orgId = org := hc
      refine read (fun _ => rfl) (fun _ => rfl) (congrArg Except.ok ?_)
      rw [IncidentTable.list, IncidentTable.list, filter_eq_of_part h.incidents fun r hr => ?_]
      simp only [decide_eq_true_eq] at hr ⊢
      exact hr.1
  | selectIncidentEvents incidentId =>
      refine read (fun _ => rfl) (fun _ => rfl) (congrArg Except.ok ?_)
      rw [listEvents, listEvents, filter_eq_of_part h.incidentEvents fun e he => ?_]
      rw [of_decide_eq_true he]
      exact hc
  | updateIncidentStatus incidentId status =>
      have hown' : db'.ownsIncident org incidentId = true := h.ownsIncident ▸ hc
      have hiff : db.Blocked incidentId status ↔ db'.Blocked incidentId status := hagrees
      rcases exec_updateIncidentStatus hc status with ⟨hb, hans, hpart⟩ | ⟨hb, hans, hpart⟩
      · obtain ⟨-, hans', hpart'⟩ := (exec_updateIncidentStatus hown' status).resolve_right
          fun hfree => hfree.1 (hiff.mp hb)
        exact ⟨hans.trans hans'.symm, ⟨by rw [hpart, hpart', h.part], hnow⟩⟩
      · obtain ⟨-, hans', hpart'⟩ := (exec_updateIncidentStatus hown' status).resolve_left
          fun hblocked => hb (hiff.mpr hblocked.1)
        rw [← h.now] at hpart'
        exact ⟨hans.trans hans'.symm, ⟨by rw [hpart, hpart', h.part], hnow⟩⟩
  | updateAssignedTo incidentId userId =>
      have hown' : db'.ownsIncident org incidentId = true := h.ownsIncident ▸ hc
      have hiff : db.HasUser userId ↔ db'.HasUser userId := hagrees
      rcases exec_updateAssignedTo hc userId with ⟨hu, hexec⟩ | ⟨hu, hans, hpart⟩
      · have hexec' := ((exec_updateAssignedTo hown' userId).resolve_right
          fun hknown => hu (hiff.mpr hknown.1)).2
        rw [hexec, hexec']
        exact ⟨rfl, h⟩
      · obtain ⟨-, hans', hpart'⟩ := (exec_updateAssignedTo hown' userId).resolve_left
          fun hunknown => hunknown.1 (hiff.mp hu)
        exact ⟨hans.trans hans'.symm, ⟨by rw [hpart, hpart', h.part], hnow⟩⟩
  | updateResolutionNotes incidentId notes =>
      obtain ⟨hans, hpart⟩ := exec_updateResolutionNotes org db incidentId notes
      obtain ⟨hans', hpart'⟩ := exec_updateResolutionNotes org db' incidentId notes
      exact ⟨hans.trans hans'.symm, ⟨by rw [hpart, hpart', h.part], hnow⟩⟩
  | insertIncidentEvent v =>
      have hown' : db'.ownsIncident org v.incidentId = true := h.ownsIncident ▸ hc
      have hiff : (∀ u ∈ v.actorUserId, db.HasUser u) ↔ ∀ u ∈ v.actorUserId, db'.HasUser u :=
        ⟨fun hu u hv => (hagrees u hv).mp (hu u hv), fun hu u hv => (hagrees u hv).mpr (hu u hv)⟩
      rcases exec_insertIncidentEvent hc with ⟨hu, hexec⟩ | ⟨hu, hans, hpart⟩
      · have hexec' := ((exec_insertIncidentEvent hown').resolve_right
          fun hknown => hu (hiff.mpr hknown.1)).2
        rw [hexec, hexec']
        exact ⟨rfl, h⟩
      · obtain ⟨-, hans', hpart'⟩ := (exec_insertIncidentEvent hown').resolve_left
          fun hunknown => hunknown.1 (hiff.mp hu)
        rw [← h.now] at hpart'
        exact ⟨hans.trans hans'.symm, ⟨by rw [hpart, hpart', h.part], hnow⟩⟩
  | _ => exact hc.elim

/-- A statement in the name of the organization leaves the rows of the others. -/
theorem part_exec {c : Stmt} (hc : Within org db c) :
    (exec c db).2.part org false = db.part org false := by
  have read : db.refusal c = none → (World.exec c db.world).2 = db.world →
      (exec c db).2.part org false = db.part org false := by
    intro hrefusal hread
    rw [exec_of_read hrefusal hread]
  cases c with
  | acknowledgeAlert id organizationId =>
      obtain rfl : organizationId = org := hc
      have hothers : (db.part organizationId false).alerts.map (.acknowledged id organizationId)
          = (db.part organizationId false).alerts := by
        refine (List.map_congr_left fun r hr => ?_).trans (List.map_id _)
        refine if_neg fun hack => ?_
        simp [part, hack.2.1] at hr
      rw [(exec_acknowledgeAlert organizationId db id).2, hothers]
  | updateIncidentStatus incidentId status =>
      rcases exec_updateIncidentStatus hc status with ⟨-, -, hpart⟩ | ⟨-, -, hpart⟩
      · exact hpart false
      · rw [hpart, others_update hc (f := .withStatus incidentId status db.world.now)
          fun r hr => if_neg hr]
  | updateAssignedTo incidentId userId =>
      rcases exec_updateAssignedTo hc userId with ⟨-, hexec⟩ | ⟨-, -, hpart⟩
      · rw [hexec]
      · rw [hpart, others_update hc (f := .withAssignedTo incidentId userId)
          fun r hr => if_neg hr]
  | updateResolutionNotes incidentId notes =>
      rw [(exec_updateResolutionNotes org db incidentId notes).2, others_update hc
        (f := .withResolutionNotes incidentId notes) fun r hr => if_neg hr]
  | insertIncidentEvent v =>
      rcases exec_insertIncidentEvent hc with ⟨-, hexec⟩ | ⟨-, -, hpart⟩
      · rw [hexec]
      · rw [hpart]
        simp
  | selectAlerts organizationId statusFilter severityFilter limit offset => exact read rfl rfl
  | selectAlert id organizationId => exact read rfl rfl
  | selectIncidentStatus incidentId => exact read rfl rfl
  | selectIncident incidentId orgId => exact read rfl rfl
  | selectIncidents orgId statusFilter limit offset => exact read rfl rfl
  | selectIncidentEvents incidentId => exact read rfl rfl
  | _ => exact hc.elim

end Records

end Api

end InduSense
