import InduSense.Incidents.Calls
import InduSense.Statement.Schedule

/-!
The timestamps of an incident and its status.

* `Stamped`: `resolved_at` and `closed_at` are set as the status says.
* `stamped_withStatus_iff`: which moves of the state machine keep it.
* `stamped_run_iff`: which calls keep it for all incidents.
* `each_stamped_iff`: it holds throughout a run exactly when no call of the run investigates a
  resolved incident again.
* `resolved_at_of_reopened`: such a run.
-/

namespace InduSense

open Api (Records)
open Statement (EachStep EachState)

namespace Incidents

/-- `resolved_at` is set on a resolved or closed incident only, `closed_at` on a closed one. -/
def Stamped (r : IncidentRow) : Prop :=
  (r.resolvedAt.isSome = true ↔ r.status = .RESOLVED ∨ r.status = .CLOSED)
    ∧ (r.closedAt.isSome = true ↔ r.status = .CLOSED)

instance (r : IncidentRow) : Decidable (Stamped r) :=
  inferInstanceAs (Decidable (_ ∧ _))

/-- The timestamps of every incident agree with its status. -/
def AllStamped (db : Records) : Prop := ∀ r ∈ db.world.incidents.rows, Stamped r

lemma stamped_opened (v : NewIncident) (now : Time) (id : IncidentId) :
    Stamped (.opened v now id) := by
  constructor <;> simp [IncidentRow.opened]

lemma stamped_withAssignedTo (id : IncidentId) (userId : String) (r : IncidentRow) :
    Stamped (r.withAssignedTo id userId) ↔ Stamped r := by
  rw [IncidentRow.withAssignedTo]
  split <;> rfl

lemma stamped_withResolutionNotes (id : IncidentId) (notes : String) (r : IncidentRow) :
    Stamped (r.withResolutionNotes id notes) ↔ Stamped r := by
  rw [IncidentRow.withResolutionNotes]
  split <;> rfl

/-- A move back from `RESOLVED` keeps `resolved_at`; the others set what their status asks for. -/
lemma stamped_withStatus_iff {r : IncidentRow} (h : Stamped r) {status : IncidentStatus}
    (hvalid : isValidTransition r.status status = true) (now : Time) :
    Stamped (r.withStatus r.id status now)
      ↔ ¬ (r.status = .RESOLVED ∧ status = .INVESTIGATING) := by
  obtain ⟨hresolved, hclosed⟩ := h
  unfold IncidentRow.withStatus
  rw [if_pos rfl]
  revert hvalid
  cases hstatus : r.status <;> cases status <;>
    simp [Stamped, hstatus, hresolved, hclosed, isValidTransition, validTransitions]

/-- There is such an incident, it is resolved, and no other one is active on its machine. -/
def Reopenable (db : Records) (id : IncidentId) : Prop :=
  ∃ r ∈ db.world.incidents.rows, r.id = id ∧ r.status = .RESOLVED ∧ ¬ db.Blocked id .INVESTIGATING

/-- The call investigates a resolved incident again. -/
def Turn.Reinvestigates (db : Records) (t : Turn) : Prop :=
  ∃ id actorUserId note, t.call = .transition id "INVESTIGATING" actorUserId note
    ∧ Reopenable db id

variable {db : Records}

/-- A transition keeps the timestamps in line unless it investigates a resolved incident again. -/
lemma stamped_transition_iff (h : AllStamped db) (id : IncidentId) (newStatus : String)
    (actorUserId : Option String) (note : String) :
    AllStamped ((Store.transition id newStatus actorUserId note).eval Records.exec db).2
      ↔ ¬ (newStatus = "INVESTIGATING" ∧ Reopenable db id) := by
  rcases transition_cases db id newStatus actorUserId note with
    ⟨hrejected, e, db', heval, hleaves⟩ | ⟨r, status, hmoves⟩
  · rw [heval]
    refine ⟨?_, fun _ r hr => h r (hleaves.rows ▸ hr)⟩
    rintro - ⟨rfl, r, hr, hid, hresolved, hfree⟩
    refine hfree (hrejected r hr hid .INVESTIGATING (IncidentStatus.ofText_text
      .INVESTIGATING) ?_)
    rw [hresolved]
    rfl
  · have hrows : ((Store.transition id newStatus actorUserId note).eval
        Records.exec db).2.world.incidents.rows
          = db.world.incidents.rows.map (.withStatus id status db.world.now) := by
      rcases hmoves.outcome with ⟨-, -, hleaves⟩ | ⟨-, -, hleaves⟩ <;> exact hleaves.rows
    obtain rfl := hmoves.id_eq
    have hmoved := stamped_withStatus_iff (h r hmoves.mem) hmoves.valid db.world.now
    have hname : newStatus = "INVESTIGATING" ↔ status = .INVESTIGATING := by
      constructor
      · rintro rfl
        exact Option.some.inj (hmoves.named.symm.trans (IncidentStatus.ofText_text .INVESTIGATING))
      · rintro rfl
        simpa [eq_comm, IncidentStatus.text] using List.find?_some hmoves.named
    have hreopen : newStatus = "INVESTIGATING" ∧ Reopenable db r.id
        ↔ r.status = .RESOLVED ∧ status = .INVESTIGATING := by
      constructor
      · rintro ⟨hnew, r', hr', hid, hresolved, -⟩
        rw [db.world.incidents.eq_of_id_eq hr' hmoves.mem hid] at hresolved
        exact ⟨hresolved, hname.mp hnew⟩
      · rintro ⟨hresolved, rfl⟩
        exact ⟨hname.mpr rfl, r, hmoves.mem, rfl, hresolved, hmoves.free⟩
    rw [hreopen, ← hmoved]
    constructor
    · intro hall
      refine hall _ ?_
      rw [hrows]
      exact List.mem_map_of_mem hmoves.mem
    · intro hstamped r' hr'
      rw [hrows] at hr'
      obtain ⟨r₀, hr₀, rfl⟩ := List.mem_map.mp hr'
      by_cases hid : r₀.id = r.id
      · rwa [db.world.incidents.eq_of_id_eq hr₀ hmoves.mem hid]
      · unfold IncidentRow.withStatus
        rw [if_neg hid]
        exact h r₀ hr₀

/-- The timestamps are in line where the rows are as they were. -/
lemma AllStamped.sameRows {db' : Records} {events : List IncidentEventRow} (h : AllStamped db)
    (hleaves : Leaves db db.world.incidents.rows events db') : AllStamped db' :=
  fun r hr => h r (hleaves.rows ▸ hr)

/-- And where each row has other columns changed. -/
lemma AllStamped.mapped {db' : Records} {events : List IncidentEventRow} (h : AllStamped db)
    {f : IncidentRow → IncidentRow} (hf : ∀ r, Stamped (f r) ↔ Stamped r)
    (hleaves : Leaves db (db.world.incidents.rows.map f) events db') : AllStamped db' := by
  intro r hr
  rw [hleaves.rows] at hr
  obtain ⟨r₀, hr₀, rfl⟩ := List.mem_map.mp hr
  exact (hf r₀).mpr (h r₀ hr₀)

/-- Linking an alert keeps them in line. -/
lemma AllStamped.linked (h : AllStamped db) (alert : AlertRef) :
    AllStamped ((Store.openOrAttach alert).eval Records.exec db).2 := by
  rcases openOrAttach_cases db alert with
    ⟨e, heval⟩ | ⟨r, -, -, db', heval, hleaves⟩ | ⟨-, db', heval, hleaves⟩
  · rwa [heval]
  · rw [heval]
    exact h.sameRows hleaves
  · rw [heval]
    intro r hr
    rw [hleaves.rows, List.mem_append, List.mem_singleton] at hr
    rcases hr with hr | rfl
    · exact h r hr
    · exact stamped_opened ..

/-- So does an assignment. -/
lemma AllStamped.assigned (h : AllStamped db) (id : IncidentId) (userId : String)
    (actorUserId : Option String) :
    AllStamped ((Store.assign id userId actorUserId).eval Records.exec db).2 := by
  have hset := stamped_withAssignedTo id userId
  rcases assign_cases db id userId actorUserId with
    ⟨-, e, db', heval, hleaves⟩ | ⟨-, -, ⟨db', heval, hleaves⟩ | ⟨e, db', heval, hleaves⟩⟩
  · rw [heval]
    exact h.sameRows hleaves
  · rw [heval]
    exact h.mapped hset hleaves
  · rw [heval]
    exact h.mapped hset hleaves

/-- And a resolution. -/
lemma AllStamped.resolved (h : AllStamped db) (id : IncidentId) (notes : String)
    (actorUserId : Option String) :
    AllStamped ((Store.resolve id notes actorUserId).eval Records.exec db).2 := by
  obtain ⟨db₁, hleaves, heval⟩ := eval_resolve db id notes actorUserId
  have hnotes : AllStamped db₁ := h.mapped (stamped_withResolutionNotes id notes) hleaves
  rw [heval]
  exact (stamped_transition_iff hnotes id "RESOLVED" actorUserId notes).mpr
    fun hnew => absurd hnew.1 (by decide)

/-- **The calls that keep the timestamps in line** are those that do not investigate a resolved
incident again. -/
lemma stamped_run_iff (h : AllStamped db) (t : Turn) :
    AllStamped (t.run db) ↔ ¬ t.Reinvestigates db := by
  obtain ⟨elapsed, call⟩ := t
  have hnow : AllStamped (db.tick elapsed) := h
  have hother : (∀ id actorUserId note, call ≠ .transition id "INVESTIGATING" actorUserId note) →
      ¬ Turn.Reinvestigates db ⟨elapsed, call⟩ :=
    fun hne ⟨id, actorUserId, note, hcall, _⟩ => hne id actorUserId note hcall
  cases call with
  | openOrAttach alert => exact iff_of_true (hnow.linked alert) (hother nofun)
  | transition id newStatus actorUserId note =>
      have hiff := stamped_transition_iff hnow id newStatus actorUserId note
      refine hiff.trans (not_congr ⟨?_, ?_⟩)
      · rintro ⟨rfl, hopen⟩
        exact ⟨id, actorUserId, note, rfl, hopen⟩
      · rintro ⟨id', actorUserId', note', hcall, hopen⟩
        cases hcall
        exact ⟨rfl, hopen⟩
  | assign id userId actorUserId =>
      exact iff_of_true (hnow.assigned id userId actorUserId) (hother nofun)
  | resolve id notes actorUserId =>
      exact iff_of_true (hnow.resolved id notes actorUserId) (hother nofun)

/-- **Timestamps agree with status.** In a run from fresh tables, `resolved_at` and `closed_at` of
every incident agree with its status in every state if and only if no call of the run investigates
a resolved incident again. -/
theorem each_stamped_iff (users : List Api.UserRow) (turns : List Turn) :
    EachState Turn.run AllStamped turns (.empty users)
      ↔ EachStep Turn.run (fun db t => ¬ t.Reinvestigates db) turns (.empty users) := by
  have hfresh : AllStamped (.empty users) := fun r hr => absurd hr List.not_mem_nil
  constructor
  · refine Statement.eachStep_of_eachState (J := fun _ => True) (fun _ _ _ => trivial) ?_ trivial
    exact fun db t _ h h' => (stamped_run_iff h t).mp h'
  · refine Statement.eachState_of_eachStep (J := fun _ => True) (fun _ _ _ => trivial) ?_ trivial
      hfresh
    exact fun db t _ h hC => (stamped_run_iff h t).mpr hC

/-- An incident is opened, resolved, and investigated again. -/
def reopening : List Turn :=
  [⟨0, .openOrAttach (pumpAlert 0)⟩, ⟨3, .resolve 0 "replaced the bearing" none⟩,
    ⟨9, .transition 0 "INVESTIGATING" none "it is back"⟩]

/-- **An incident under investigation that has a `resolved_at`.** -/
theorem resolved_at_of_reopened :
    ¬ ∀ (users : List Api.UserRow) (turns : List Turn),
      AllStamped (turns.foldl Turn.run (.empty users)) := by
  intro h
  obtain ⟨r, hr, hnot⟩ : ∃ r ∈ (reopening.foldl Turn.run (.empty [])).world.incidents.rows,
      ¬ Stamped r := by decide +kernel
  exact hnot (h [] reopening r hr)

end Incidents

end InduSense
