import InduSense.Api.NonInterference
import InduSense.Incidents.Calls

/-!
Whom incidents are assigned to.

* `AllOwn`: every assignee is a user of the organization of the incident.
* `Reassigns`: the one statement that sets an assignee; `allOwn_exec`: the others keep them.
* `Event`, `Event.run`: a request of any user, or an alert linked to an incident.
* `allOwn_run_iff`, `each_allOwn_iff`: the assignees stay within the organizations exactly as long
  as no request assigns an incident to a user of another one.
* `assigned_abroad`: such a request.

`assign_incident` checks that the incident is the caller's, and not that the assignee is.
-/

namespace InduSense

open Incidents (AlertRef Store.openOrAttach Store.transition Store.resolve)
open Statement (EachStep EachState)
open Statement.Prog (Ensures ensures_issue ensures_bind ensures_ret ensures_raise eval_of_ensures)

namespace Api

/-- Every assignee is a user of the organization of the incident. -/
def AllOwn (db : Records) : Prop :=
  ∀ r ∈ db.world.incidents.rows, ∀ u ∈ r.assignedTo, (⟨u, r.organizationId⟩ : UserRow) ∈ db.users

/-- The statement sets an assignee. -/
def Reassigns (c : Stmt) : Prop := ∃ id userId, c = .updateAssignedTo id userId

variable {db : Records}

/-- A row after a statement that sets no assignee has none, or is as a row before it. -/
lemma exec_assignee {c : Stmt} (hc : ¬ Reassigns c) {w : World} {r' : IncidentRow}
    (hr' : r' ∈ (World.exec c w).2.incidents.rows) :
    r'.assignedTo = none ∨ ∃ r ∈ w.incidents.rows,
      r.organizationId = r'.organizationId ∧ r.assignedTo = r'.assignedTo := by
  have mapped : ∀ f : IncidentRow → IncidentRow, (∀ a, (f a).assignedTo = a.assignedTo) →
      (∀ a, (f a).organizationId = a.organizationId) → r' ∈ w.incidents.rows.map f →
      ∃ r ∈ w.incidents.rows, r.organizationId = r'.organizationId
        ∧ r.assignedTo = r'.assignedTo := by
    intro f hassigned horg hmem
    obtain ⟨r, hr, rfl⟩ := List.mem_map.mp hmem
    exact ⟨r, hr, (horg r).symm, (hassigned r).symm⟩
  have same : r' ∈ w.incidents.rows → ∃ r ∈ w.incidents.rows,
      r.organizationId = r'.organizationId ∧ r.assignedTo = r'.assignedTo :=
    fun hr => ⟨r', hr, rfl, rfl⟩
  cases c with
  | updateAssignedTo id userId => exact absurd ⟨id, userId, rfl⟩ hc
  | updateResolutionNotes id notes =>
      refine .inr (mapped (IncidentRow.withResolutionNotes id notes) (fun a => ?_)
        (IncidentRow.withResolutionNotes_organizationId id notes) ?_)
      · rw [IncidentRow.withResolutionNotes]; split <;> rfl
      · rw [← IncidentTable.updateResolutionNotes_rows]
        exact hr'
  | updateIncidentStatus id status =>
      refine .inr ?_
      rcases w.incidents.updateStatus_cases id status w.now with ⟨t', h, hrows⟩ | h
      · refine mapped (IncidentRow.withStatus id status w.now) (fun a => ?_)
          (IncidentRow.withStatus_organizationId id status w.now) ?_
        · unfold IncidentRow.withStatus
          split
          · cases status <;> rfl
          · rfl
        · simp only [World.exec, h, hrows] at hr'
          exact hr'
      · exact same (by simpa only [World.exec, h] using hr')
  | insertIncident v =>
      rcases w.incidents.insertIncident_cases v w.now with ⟨t', h, hrows⟩ | ⟨h, -⟩
      · simp only [World.exec, h, hrows, List.mem_append, List.mem_singleton] at hr'
        rcases hr' with hr' | rfl
        · exact .inr (same hr')
        · exact .inl rfl
      · exact .inr (same (by simpa only [World.exec, h] using hr'))
  | selectActiveIncident machineId =>
      refine .inr (same ?_)
      simp only [World.exec] at hr'
      split at hr' <;> exact hr'
  | _ => exact .inr (same hr')

/-- The other statements keep the assignees within the organizations. -/
lemma allOwn_exec (c : Stmt) (db : Records) (hc : ¬ Reassigns c) (h : AllOwn db) :
    AllOwn (Records.exec c db).2 := by
  cases hrefusal : db.refusal c with
  | some e =>
      rw [Records.exec_of_refusal hrefusal]
      exact h
  | none =>
      obtain ⟨-, husers, hworld⟩ := Records.exec_of_accepted hrefusal
      intro r' hr' u hu
      rw [hworld] at hr'
      rw [husers]
      rcases exec_assignee hc hr' with hnone | ⟨r, hr, horg, hassigned⟩
      · rw [hnone] at hu
        cases hu
      · rw [← hassigned] at hu
        rw [← horg]
        exact h r hr u hu

/-! ### The programs that set no assignee -/

section Keeps

lemma keeps_transition {id : IncidentId} {newStatus : String} {actorUserId : Option String}
    {note : String} :
    Ensures (fun _ c => ¬ Reassigns c) (Store.transition id newStatus actorUserId note) :=
  Incidents.Store.ensures_transition (fun _ => nofun) (fun _ _ => nofun) fun _ _ _ _ => nofun

lemma keeps_resolve {id : IncidentId} {resolutionNotes : String} {actorUserId : Option String} :
    Ensures (fun _ c => ¬ Reassigns c) (Store.resolve id resolutionNotes actorUserId) :=
  Incidents.Store.ensures_resolve (fun _ => nofun) keeps_transition

lemma keeps_acknowledgeAlert {id : AlertId} {claims : Claims} :
    Ensures (fun _ c => ¬ Reassigns c) (acknowledgeAlert id claims) := by
  refine ensures_bind (ensures_issue fun _ => nofun) fun rowcount => ?_
  split
  · exact ensures_raise _
  · exact ensures_ret _

lemma keeps_getAlert {id : AlertId} {claims : Claims} :
    Ensures (fun _ c => ¬ Reassigns c) (getAlert id claims) := by
  refine ensures_bind (ensures_issue fun _ => nofun) fun row => ?_
  cases row with
  | none => exact ensures_raise _
  | some row => exact ensures_ret _

lemma keeps_getIncident {id : IncidentId} {claims : Claims} :
    Ensures (fun _ c => ¬ Reassigns c) (getIncident id claims) := by
  refine ensures_bind (ensures_internalOnError (ensures_issue fun _ => nofun)) fun row => ?_
  cases row with
  | none => exact ensures_raise _
  | some inc =>
      exact ensures_bind (ensures_internalOnError (ensures_issue fun _ => nofun)) fun _ =>
        ensures_ret _

lemma keeps_listAlerts {int : String → Option ℤ} {query : Query} {claims : Claims} :
    Ensures (fun _ c => ¬ Reassigns c) (listAlerts int query claims) :=
  ensures_bind (ensures_internalOnError (ensures_issue fun _ => nofun)) fun _ => ensures_ret _

lemma keeps_listIncidents {int : String → Option ℤ} {query : Query} {claims : Claims} :
    Ensures (fun _ c => ¬ Reassigns c) (listIncidents int query claims) :=
  ensures_bind (ensures_internalOnError (ensures_issue fun _ => nofun)) fun _ => ensures_ret _

lemma keeps_transitionIncident {id : IncidentId} {status note : String} {claims : Claims} :
    Ensures (fun _ c => ¬ Reassigns c) (transitionIncident id status note claims) :=
  ensures_transitionIncident (fun _ => nofun) keeps_transition

lemma keeps_resolveIncident {id : IncidentId} {notes : String} {claims : Claims} :
    Ensures (fun _ c => ¬ Reassigns c) (resolveIncident id notes claims) :=
  ensures_resolveIncident (fun _ => nofun) keeps_resolve

lemma keeps_openOrAttach {alert : AlertRef} :
    Ensures (fun _ c => ¬ Reassigns c) (Store.openOrAttach alert) := by
  refine Incidents.Store.ensures_openOrAttach fun l c hc => ?_
  rintro ⟨id, userId, rfl⟩
  cases hc

end Keeps

/-! ### Requests and alerts -/

/-- A request of a user of an organization, or an alert that is linked to an incident. -/
inductive Event where
  | served (org : String) (visit : Visit)
  | linked (elapsed : ℕ) (alert : AlertRef)

section Run

-- `int`, and `bcrypt.hashpw` of a password and a salt
variable (int : String → Option ℤ) (hashPassword : String → String → String)

/-- The tables after an event. -/
def Event.run (d : Database) : Event → Database
  | .served org visit => (serve int hashPassword org d visit).2
  | .linked elapsed alert =>
      { d.tick elapsed with
        records := ((Store.openOrAttach alert).eval Records.exec (d.tick elapsed).records).2 }

/-- A permitted request assigns an incident of its organization to a user who is not of it. -/
def Event.AssignsAbroad (d : Database) : Event → Prop
  | .served org visit =>
      visit.request.permission ∈ visit.permissions
        ∧ ∃ id userId, visit.request = .assignIncident id userId ∧ userId ≠ ""
          ∧ (d.records.ownIncident org id).isSome = true ∧ d.records.HasUser userId
          ∧ (⟨userId, org⟩ : UserRow) ∉ d.records.users
  | .linked _ _ => False

variable {int hashPassword} {d : Database}

/-- Once an incident of an organization has been assigned, all assignees are within the
organizations exactly when the new one is of this organization. -/
lemma allOwn_withAssignedTo_iff {db db' : Records} (h : AllOwn db) {org : String} {r : IncidentRow}
    (hr : r ∈ db.world.incidents.rows) (horg : r.organizationId = org) {assignee : String}
    {events : List IncidentEventRow}
    (hleaves : Incidents.Leaves db (db.world.incidents.rows.map (.withAssignedTo r.id assignee))
      events db') : AllOwn db' ↔ (⟨assignee, org⟩ : UserRow) ∈ db.users := by
  rw [AllOwn, hleaves.rows, hleaves.users]
  constructor
  · intro hall
    have hown' := hall _ (List.mem_map_of_mem hr) assignee (by
      rw [IncidentRow.withAssignedTo, if_pos rfl]
      exact rfl)
    rwa [IncidentRow.withAssignedTo_organizationId, horg] at hown'
  · -- every row but the incident's own is as before
    intro hmem r' hr' u hu
    obtain ⟨r₀, hr₀, rfl⟩ := List.mem_map.mp hr'
    rw [IncidentRow.withAssignedTo_organizationId]
    rw [IncidentRow.withAssignedTo] at hu
    split at hu
    · rename_i hid
      obtain rfl : assignee = u := Option.some.inj hu
      rw [db.world.incidents.eq_of_id_eq hr₀ hr hid, horg]
      exact hmem
    · exact h r₀ hr₀ u hu

/-- An assignment keeps the assignees within the organizations unless it names a user of another
one. -/
lemma allOwn_assignIncident_iff {db : Records} (h : AllOwn db) (org : String) (id : IncidentId)
    (assignee userId : String) :
    AllOwn ((assignIncident id assignee ⟨org, userId⟩).eval Records.exec db).2
      ↔ ¬ (assignee ≠ "" ∧ (db.ownIncident org id).isSome = true ∧ db.HasUser assignee
        ∧ (⟨assignee, org⟩ : UserRow) ∉ db.users) := by
  by_cases hgiven : assignee = ""
  · rw [assignIncident, if_pos hgiven]
    exact iff_of_true h fun hbad => hbad.1 hgiven
  cases hown : db.ownIncident org id with
  | none =>
      refine iff_of_true ?_ (by simp)
      rw [assignIncident, if_neg hgiven]
      show AllOwn (Statement.Prog.eval _ (Statement.Prog.bind _ _) db).2
      rw [Statement.Prog.eval_bind, eval_requireIncident, hown]
      exact h
  | some r =>
      obtain ⟨hr, rfl, horg, -⟩ := Records.owns_of_ownIncident hown
      rw [eval_assignIncident hown hgiven]
      rcases Incidents.assign_cases db r.id assignee (some userId) with
        ⟨hunknown, e, db', heval, hleaves⟩ | ⟨-, huser, ⟨db', heval, hleaves⟩ |
          ⟨e, db', heval, hleaves⟩⟩
      · rw [heval]
        refine iff_of_true ?_ fun hbad => hunknown ⟨r, hr, rfl⟩ hbad.2.2.1
        intro r' hr' u hu
        rw [hleaves.rows] at hr'
        rw [hleaves.users]
        exact h r' hr' u hu
      · rw [heval, allOwn_withAssignedTo_iff h hr horg hleaves]
        simp [hgiven, huser]
      · rw [heval, allOwn_withAssignedTo_iff h hr horg hleaves]
        simp [hgiven, huser]

/-- **The events that keep the assignees within the organizations.** -/
lemma allOwn_run_iff (h : AllOwn d.records) (event : Event) :
    AllOwn (event.run int hashPassword d).records ↔ ¬ event.AssignsAbroad d := by
  have hkept : ∀ {α : Type} {p : Alerting.Prog α} (elapsed : ℕ),
      Ensures (fun _ c => ¬ Reassigns c) p →
      AllOwn (p.eval Records.exec (d.tick elapsed).records).2 :=
    fun _ hp => eval_of_ensures allOwn_exec hp h
  cases event with
  | linked elapsed alert => exact iff_of_true (hkept elapsed keeps_openOrAttach) id
  | served org visit =>
      obtain ⟨elapsed, userId, permissions, request⟩ := visit
      have hother : (∀ id assignee, request ≠ .assignIncident id assignee) →
          ¬ Event.AssignsAbroad d (.served org ⟨elapsed, userId, permissions, request⟩) :=
        fun hne ⟨_, id, assignee, hreq, _⟩ => hne id assignee hreq
      rw [Event.run, serve]
      by_cases hallowed : request.permission ∈ permissions
      · rw [if_pos hallowed]
        cases request with
        | assignIncident id assignee =>
            have hnow : AllOwn (d.tick elapsed).records := h
            refine (allOwn_assignIncident_iff hnow org id assignee userId).trans (not_congr
              ⟨fun hbad => ⟨hallowed, id, assignee, rfl, hbad⟩, ?_⟩)
            rintro ⟨-, id', assignee', hreq, hbad⟩
            cases hreq
            exact hbad
        | listAlerts query =>
            exact iff_of_true (hkept elapsed keeps_listAlerts) (hother (by rintro _ _ ⟨⟩))
        | getAlert id =>
            exact iff_of_true (hkept elapsed keeps_getAlert) (hother (by rintro _ _ ⟨⟩))
        | acknowledgeAlert id =>
            exact iff_of_true (hkept elapsed keeps_acknowledgeAlert) (hother (by rintro _ _ ⟨⟩))
        | listIncidents query =>
            exact iff_of_true (hkept elapsed keeps_listIncidents) (hother (by rintro _ _ ⟨⟩))
        | getIncident id =>
            exact iff_of_true (hkept elapsed keeps_getIncident) (hother (by rintro _ _ ⟨⟩))
        | transitionIncident id status note =>
            exact iff_of_true (hkept elapsed keeps_transitionIncident) (hother (by rintro _ _ ⟨⟩))
        | resolveIncident id notes =>
            exact iff_of_true (hkept elapsed keeps_resolveIncident) (hother (by rintro _ _ ⟨⟩))
        | _ => exact iff_of_true h (hother (by rintro _ _ ⟨⟩))
      · rw [if_neg hallowed]
        exact iff_of_true h fun hbad => hallowed hbad.1

/-- **Incidents refer to users of their own organization.** In a run from tables without an
incident, every assignee is a user of the organization of the incident in every state if and only
if no permitted request assigns an incident of its organization to a user who is not of it. -/
theorem each_allOwn_iff (int : String → Option ℤ) (hashPassword : String → String → String)
    (inventory : Inventory) (users : List UserRow) (events : List Event) :
    EachState (Event.run int hashPassword) (fun d => AllOwn d.records) events
        ⟨inventory, .empty users⟩
      ↔ EachStep (Event.run int hashPassword) (fun d event => ¬ event.AssignsAbroad d) events
        ⟨inventory, .empty users⟩ := by
  have hfresh : AllOwn (.empty users) := fun r hr => absurd hr List.not_mem_nil
  constructor
  · refine Statement.eachStep_of_eachState (J := fun _ => True) (fun _ _ _ => trivial) ?_ trivial
    exact fun d event _ h h' => (allOwn_run_iff h event).mp h'
  · refine Statement.eachState_of_eachStep (J := fun _ => True) (fun _ _ _ => trivial) ?_ trivial
      hfresh
    exact fun d event _ h hC => (allOwn_run_iff h event).mpr hC

end Run

/-- An alert opens an incident of `acme`, and `acme` assigns it to a user of `globex`. -/
def poaching : List Event :=
  [.linked 0 { id := some 0, organizationId := "acme", severity := .HIGH, machineId := "m1" },
    .served "acme" ⟨5, "anna", ["incidents:manage"], .assignIncident 0 "boris"⟩]

/-- **An incident assigned to a user of another organization.** -/
theorem assigned_abroad :
    ¬ ∀ (int : String → Option ℤ) (hashPassword : String → String → String)
      (inventory : Inventory) (users : List UserRow) (events : List Event),
      AllOwn (events.foldl (Event.run int hashPassword) ⟨inventory, .empty users⟩).records := by
  intro h
  have habroad := h (fun _ => none) (fun password _ => password) .empty
    [⟨"anna", "acme"⟩, ⟨"boris", "globex"⟩] poaching
  obtain ⟨r, hr, hassigned, hforeign⟩ :
      ∃ r ∈ (poaching.foldl (Event.run (fun _ => none) fun password _ => password)
          ⟨.empty, .empty [⟨"anna", "acme"⟩, ⟨"boris", "globex"⟩]⟩).records.world.incidents.rows,
        r.assignedTo = some "boris" ∧ (⟨"boris", r.organizationId⟩ : UserRow) ∉
          (poaching.foldl (Event.run (fun _ => none) fun password _ => password)
            ⟨.empty, .empty [⟨"anna", "acme"⟩, ⟨"boris", "globex"⟩]⟩).records.users := by
    decide +kernel
  exact hforeign (habroad r hr "boris" hassigned)

end Api

end InduSense
