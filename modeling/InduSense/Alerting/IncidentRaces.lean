import InduSense.Api.Handlers

/-!
Concurrent calls on incidents: any number of store operations and API requests, their
statements interleaved in any order.

* `IncidentCall`, `IncidentCall.prog`: the calls and the programs they run.
* `ChecksTransition`: what every such program guarantees of a status update, namely that its
  last statement read a status from which the update is a valid transition.
* `ValidMoves`: a step changes a status only along an edge of the state machine.
* `HarmlessUpdate`: the condition under which an update based on a stale read is one.
-/

namespace InduSense

open Statement (Log Pool Move EachStep)
open Statement.Prog (Ensures ensures_bind ensures_ret follows_issue_bind)
open Incidents (isValidTransition AlertRef)

namespace IncidentRaces

/-- The calls that act on incidents: the store's operations and the routes over them. -/
inductive IncidentCall where
  | openOrAttach (alert : AlertRef)
  | transition (incidentId : IncidentId) (newStatus : String) (actorUserId : Option String)
      (note : String)
  | assign (incidentId : IncidentId) (userId : String) (actorUserId : Option String)
  | resolve (incidentId : IncidentId) (resolutionNotes : String) (actorUserId : Option String)
  | transitionRequest (id : IncidentId) (status note : String) (claims : Api.Claims)
  | assignRequest (id : IncidentId) (userId : String) (claims : Api.Claims)
  | resolveRequest (id : IncidentId) (resolutionNotes : String) (claims : Api.Claims)

/-- The program of a call. -/
def IncidentCall.prog : IncidentCall → Alerting.Prog Unit
  | openOrAttach alert => do
      let _ ← Incidents.Store.openOrAttach alert
      return ()
  | transition incidentId newStatus actorUserId note =>
      Incidents.Store.transition incidentId newStatus actorUserId note
  | assign incidentId userId actorUserId => Incidents.Store.assign incidentId userId actorUserId
  | resolve incidentId resolutionNotes actorUserId =>
      Incidents.Store.resolve incidentId resolutionNotes actorUserId
  | transitionRequest id status note claims => Api.transitionIncident id status note claims
  | assignRequest id userId claims => Api.assignIncident id userId claims
  | resolveRequest id resolutionNotes claims => Api.resolveIncident id resolutionNotes claims

/-- The calls `ι` running on a world. -/
abbrev Calls (ι : Type) := Pool Alerting PyError Unit World ι

variable {ι : Type} [DecidableEq ι]

/-- One statement of one call, or the passage of time. -/
abbrev step : Calls ι → Move ι ℕ → Calls ι := Pool.step World.exec World.tick

omit [DecidableEq ι] in
/-- The calls before their first statements. -/
abbrev start (calls : ι → IncidentCall) (w : World) : Calls ι :=
  Pool.start (fun i => (calls i).prog) w

/-! ### What a call has read when it updates a status -/

/-- The status of the incident, if reading it was the last thing a call did. -/
def lastRead (l : Log Alerting PyError) (incidentId : IncidentId) : Option IncidentStatus :=
  match l.getLast? with
  | some ⟨.selectIncidentStatus id, .ok (some status)⟩ =>
      if id = incidentId then some status else none
  | _ => none

/-- A status update comes right after a read that makes it valid. -/
def ChecksTransition (l : Log Alerting PyError) : Stmt → Prop
  | .updateIncidentStatus incidentId newStatus =>
      ∃ status, lastRead l incidentId = some status ∧ isValidTransition status newStatus = true
  | _ => True

lemma lastRead_append (l : Log Alerting PyError) (incidentId : IncidentId)
    (status : IncidentStatus) :
    lastRead (l ++ [⟨.selectIncidentStatus incidentId, .ok (some status)⟩]) incidentId
      = some status := by
  rw [lastRead, List.getLast?_concat]
  exact if_pos rfl

/-- Every statement but a status update is free of the requirement. -/
lemma checksTransition_of_ne {c : Stmt} (hc : ∀ id new, c ≠ .updateIncidentStatus id new)
    (l : Log Alerting PyError) : ChecksTransition l c := by
  cases c with
  | updateIncidentStatus id new => exact absurd rfl (hc id new)
  | _ => trivial

lemma checksTransition_of_links (l : Log Alerting PyError) (c : Stmt)
    (hc : c.links = true) : ChecksTransition l c := by
  refine checksTransition_of_ne ?_ l
  rintro id new rfl
  cases hc

lemma checked_logEvent {incidentId : IncidentId} {eventType : IncidentEventType}
    {actorUserId : Option String} {oldValue newValue note : String} :
    Ensures ChecksTransition
      (Incidents.Store.logEvent incidentId eventType actorUserId oldValue newValue note) :=
  Incidents.Store.ensures_logEvent fun _ _ => trivial

/-- The only program that updates a status checks it first. -/
lemma checked_transition {incidentId : IncidentId} {newStatus : String}
    {actorUserId : Option String} {note : String} :
    Ensures ChecksTransition
      (Incidents.Store.transition incidentId newStatus actorUserId note) := by
  intro l
  refine follows_issue_bind trivial (fun row => ?_) fun _ => trivial
  cases row with
  | none => exact trivial
  | some currentStatus =>
      cases h : (IncidentStatus.ofText newStatus).filter (isValidTransition currentStatus) with
      | none =>
          simp only [h]
          exact trivial
      | some status =>
          simp only [h]
          have hvalid : isValidTransition currentStatus status = true :=
            (Option.filter_eq_some_iff.mp h).2
          refine follows_issue_bind ⟨currentStatus, lastRead_append .., hvalid⟩ (fun _ => ?_)
            fun _ => trivial
          exact checked_logEvent _

lemma checked_resolve {incidentId : IncidentId} {resolutionNotes : String}
    {actorUserId : Option String} :
    Ensures ChecksTransition (Incidents.Store.resolve incidentId resolutionNotes actorUserId) :=
  Incidents.Store.ensures_resolve (fun _ => trivial) checked_transition

lemma checked_assign {incidentId : IncidentId} {userId : String} {actorUserId : Option String} :
    Ensures ChecksTransition (Incidents.Store.assign incidentId userId actorUserId) :=
  Incidents.Store.ensures_assign (fun _ => trivial) fun _ _ _ _ => trivial

/-- Every call checks its transitions. -/
lemma checked_prog (call : IncidentCall) : Ensures ChecksTransition call.prog := by
  cases call with
  | openOrAttach alert =>
      exact ensures_bind (Incidents.Store.ensures_openOrAttach checksTransition_of_links)
        fun _ => ensures_ret _
  | transition incidentId newStatus actorUserId note => exact checked_transition
  | assign incidentId userId actorUserId => exact checked_assign
  | resolve incidentId resolutionNotes actorUserId => exact checked_resolve
  | transitionRequest id status note claims =>
      exact Api.ensures_transitionIncident (fun _ => trivial) checked_transition
  | assignRequest id userId claims =>
      exact Api.ensures_assignIncident (fun _ => trivial) checked_assign
  | resolveRequest id resolutionNotes claims =>
      exact Api.ensures_resolveIncident (fun _ => trivial) checked_resolve

/-! ### Status changes -/

/-- The step changes a status only along an edge of the state machine, from the value stored
when it happens. -/
def ValidMoves (p : Calls ι) (m : Move ι ℕ) : Prop :=
  ∀ r ∈ p.store.incidents.rows, ∀ r' ∈ (step p m).store.incidents.rows, r'.id = r.id →
    r'.status = r.status ∨ isValidTransition r.status r'.status = true

instance (p : Calls ι) (m : Move ι ℕ) : Decidable (ValidMoves p m) :=
  inferInstanceAs (Decidable (∀ r ∈ p.store.incidents.rows,
    ∀ r' ∈ (step p m).store.incidents.rows, r'.id = r.id →
      r'.status = r.status ∨ isValidTransition r.status r'.status = true))

/-- Another incident is active on the machine of `r`. -/
def OtherActive (t : IncidentTable) (r : IncidentRow) : Prop :=
  ∃ r' ∈ t.rows, r'.id ≠ r.id ∧ r'.ActiveFor r.machineId

/-- An update of `r` by a call that has read `read` does no harm: the read is not stale, or the
new status is the stored one, or it is one that only `CLOSED` does not lead to, or the unique
index refuses it. -/
def HarmlessUpdate (t : IncidentTable) (read : Option IncidentStatus) (r : IncidentRow)
    (newStatus : IncidentStatus) : Prop :=
  read = some r.status
    ∨ r.status = newStatus
    ∨ r.status ≠ .CLOSED ∧ (newStatus = .INVESTIGATING ∨ newStatus = .RESOLVED)
    ∨ newStatus.active = true ∧ OtherActive t r

/-- No status update of the step does harm. -/
def UpdatesHarmlessly (p : Calls ι) : Move ι ℕ → Prop
  | .outside _ => True
  | .thread i => ∀ incidentId newStatus,
      p.next i = some (.updateIncidentStatus incidentId newStatus) →
      ∀ r ∈ p.store.incidents.rows, r.id = incidentId →
        HarmlessUpdate p.store.incidents (lastRead (p.seen i) incidentId) r newStatus

/-- A status that a valid transition leads to from some status is led to from every other, with
the exceptions that `HarmlessUpdate` names. -/
lemma valid_or_same_iff {read stored new : IncidentStatus} (h : isValidTransition read new = true) :
    new = stored ∨ isValidTransition stored new = true ↔
      read = stored ∨ stored = new
        ∨ stored ≠ .CLOSED ∧ (new = .INVESTIGATING ∨ new = .RESOLVED) := by
  revert h
  cases read <;> cases stored <;> cases new <;> decide

/-- A step that is not a status update changes no status. -/
lemma validMoves_of_ne {p : Calls ι} {m : Move ι ℕ} {c : Stmt}
    (hc : ∀ id new, c ≠ .updateIncidentStatus id new)
    (hs : (step p m).store = (World.exec c p.store).2) : ValidMoves p m := by
  intro r hr r' hr' hid
  rw [hs] at hr'
  exact .inl (World.exec_incident_status hc hr hr' hid)

/-- An update that the index does not refuse leaves the new status. -/
lemma updated_of_not_otherActive {t : IncidentTable} {r : IncidentRow} (hr : r ∈ t.rows)
    {new : IncidentStatus} (h : ¬ (new.active = true ∧ OtherActive t r)) (now : Time) :
    ∃ r' ∈ (t.updateStatus r.id new now).2.rows, r'.id = r.id ∧ r'.status = new := by
  obtain ⟨t', ht', hrows⟩ := IncidentTable.updateStatus_accepted hr
    (fun r' hr' hne hs hact => h ⟨hs, r', hr', hne, hact⟩) now
  refine ⟨r.withStatus r.id new now, ?_, IncidentRow.withStatus_id .., ?_⟩
  · rw [ht', hrows]
    exact List.mem_map_of_mem hr
  · rw [IncidentRow.withStatus_status, if_pos rfl]

/-- An update leaves a row's status as it is, or it is about this row, sets the new status, and
the index had no reason to refuse. -/
lemma updated_cases {w : World} {id : IncidentId} {new : IncidentStatus} {r r' : IncidentRow}
    (hr : r ∈ w.incidents.rows)
    (hr' : r' ∈ (World.exec (.updateIncidentStatus id new) w).2.incidents.rows)
    (hid : r'.id = r.id) :
    r'.status = r.status
      ∨ r.id = id ∧ r'.status = new ∧ ¬ (new.active = true ∧ OtherActive w.incidents r) := by
  have hr'' : r' ∈ (w.incidents.updateStatus id new w.now).2.rows := hr'
  rcases w.incidents.updateStatus_cases id new w.now with ⟨t', h, hrows⟩ | h
  · rw [h, hrows] at hr''
    obtain ⟨a, ha, rfl⟩ := List.mem_map.mp hr''
    rw [IncidentRow.withStatus_id] at hid
    obtain rfl := w.incidents.eq_of_id_eq ha hr hid
    rw [IncidentRow.withStatus_status]
    by_cases haid : a.id = id
    · refine .inr ⟨haid, if_pos haid, ?_⟩
      rintro ⟨hs, b, hb, hne, hact⟩
      have href := IncidentTable.updateStatus_refused hr hb hne hs hact w.now
      rw [haid, h] at href
      cases href
    · exact .inl (if_neg haid)
  · rw [h] at hr''
    rw [w.incidents.eq_of_id_eq hr'' hr hid]
    exact .inl rfl

/-- What one step does: an update whose call has checked its transition is valid exactly when it
does no harm. -/
lemma validMoves_iff {p : Calls ι} (hp : p.Follows ChecksTransition) (m : Move ι ℕ) :
    ValidMoves p m ↔ UpdatesHarmlessly p m := by
  have idle : (step p m).store.incidents = p.store.incidents → ValidMoves p m := by
    intro h r hr r' hr' hid
    rw [h] at hr'
    rw [p.store.incidents.eq_of_id_eq hr' hr hid]
    exact .inl rfl
  rcases Pool.step_cases World.exec World.tick p m with
    ⟨e, rfl, hs⟩ | ⟨i, rfl, hnext, hs⟩ | ⟨i, c, k, rfl, hc, hnext, hs⟩
  · exact ⟨fun _ => trivial, fun _ => idle rfl⟩
  · refine ⟨fun _ incidentId newStatus h => ?_, fun _ => idle (by rw [step, hs])⟩
    rw [hnext] at h
    cases h
  · have hstore : (step p (.thread i)).store = (World.exec c p.store).2 := by rw [step, hs]
    by_cases hu : ∃ id new, c = .updateIncidentStatus id new
    · obtain ⟨id, new, rfl⟩ := hu
      have hcheck := hp.next hnext
      obtain ⟨read, hread, hvalid⟩ := hcheck
      constructor
      · intro hmoves id' new' h r hr hrid
        rw [hnext, Option.some.injEq] at h
        cases h
        rw [hread]
        by_cases hother : new.active = true ∧ OtherActive p.store.incidents r
        · exact .inr (.inr (.inr hother))
        · have hmove := updated_of_not_otherActive hr hother p.store.now
          rw [hrid] at hmove
          obtain ⟨r', hr', hid, hst⟩ := hmove
          have hedge := hmoves r hr r' (by rw [hstore]; exact hr') (hid.trans hrid.symm)
          rw [hst] at hedge
          rcases (valid_or_same_iff hvalid).mp hedge with h | h | h
          · exact .inl (congrArg some h)
          · exact .inr (.inl h)
          · exact .inr (.inr (.inl h))
      · intro hharmless r hr r' hr' hid
        rw [hstore] at hr'
        rcases updated_cases hr hr' hid with hsame | ⟨hrid, hst, hfree⟩
        · exact .inl hsame
        · rw [hst]
          have hread' := hharmless id new hnext r hr hrid
          rw [hread] at hread'
          refine (valid_or_same_iff hvalid).mpr ?_
          rcases hread' with h | h | h | h
          · exact .inl (Option.some.inj h)
          · exact .inr (.inl h)
          · exact .inr (.inr h)
          · exact absurd h hfree
    · have hne : ∀ id new, c ≠ .updateIncidentStatus id new :=
        fun id new h => hu ⟨id, new, h⟩
      refine ⟨fun _ id new h => ?_, fun _ => validMoves_of_ne hne hstore⟩
      rw [hnext, Option.some.injEq] at h
      exact absurd h (hne id new)

/-! ### Runs -/

/-- Once an incident is `CLOSED` it stays `CLOSED` to the end of the run. -/
def ClosedIsTerminal (sched : List (Move ι ℕ)) (p : Calls ι) : Prop :=
  ∀ l₁ l₂, l₁ ++ l₂ <+: sched →
    ∀ r ∈ (p.exec World.exec World.tick l₁).store.incidents.rows, r.status = .CLOSED →
      ∃ r' ∈ (p.exec World.exec World.tick (l₁ ++ l₂)).store.incidents.rows,
        r'.id = r.id ∧ r'.status = .CLOSED

/-- No step deletes an incident. -/
lemma step_incident_persists (p : Calls ι) (m : Move ι ℕ) {r : IncidentRow}
    (hr : r ∈ p.store.incidents.rows) :
    ∃ r' ∈ (step p m).store.incidents.rows, r'.id = r.id := by
  rcases Pool.step_cases World.exec World.tick p m with
    ⟨e, rfl, hs⟩ | ⟨i, rfl, -, hs⟩ | ⟨i, c, k, rfl, -, -, hs⟩
  · exact ⟨r, hr, rfl⟩
  · exact ⟨r, by rw [step, hs]; exact hr, rfl⟩
  · rw [step, hs]
    exact World.exec_incident_persists c hr

/-- There is no edge out of `CLOSED`. -/
lemma closed_step {p : Calls ι} {m : Move ι ℕ} (hm : ValidMoves p m) {id : IncidentId}
    (h : ∃ r ∈ p.store.incidents.rows, r.id = id ∧ r.status = .CLOSED) :
    ∃ r' ∈ (step p m).store.incidents.rows, r'.id = id ∧ r'.status = .CLOSED := by
  obtain ⟨r, hr, rfl, hclosed⟩ := h
  obtain ⟨r', hr', hid⟩ := step_incident_persists p m hr
  refine ⟨r', hr', hid, ?_⟩
  rcases hm r hr r' hr' hid with h | h
  · rw [h, hclosed]
  · rw [hclosed] at h
    cases h

/-- Where every change is along an edge, `CLOSED` is terminal. -/
lemma closedIsTerminal {sched : List (Move ι ℕ)} {p : Calls ι}
    (h : EachStep step ValidMoves sched p) : ClosedIsTerminal sched p := by
  intro l₁ l₂ hl r hr hclosed
  have hl₂ : EachStep step ValidMoves l₂ (p.exec World.exec World.tick l₁) :=
    (Statement.eachStep_append.mp (h.take_append hl)).2
  have hrun := Statement.eachState_of_eachStep (J := fun _ => True)
    (I := fun q : Calls ι => ∃ r' ∈ q.store.incidents.rows, r'.id = r.id ∧ r'.status = .CLOSED)
    (fun _ _ _ => trivial) (fun q m _ hq hm => closed_step hm hq) trivial
    ⟨r, hr, rfl, hclosed⟩ hl₂
  rw [Pool.exec_append]
  exact hrun.last

/-- **The state machine under concurrency.** In a run of any number of calls, every change of an
incident's stored status is along an edge of the state machine exactly when no update based on a
stale read does harm; and then `CLOSED` is terminal. -/
theorem validMoves_run_iff (calls : ι → IncidentCall) (w : World) (sched : List (Move ι ℕ)) :
    (EachStep step ValidMoves sched (start calls w)
        ↔ EachStep step UpdatesHarmlessly sched (start calls w))
      ∧ (EachStep step UpdatesHarmlessly sched (start calls w) →
          ClosedIsTerminal sched (start calls w)) := by
  have hfollows : (start calls w).Follows ChecksTransition := fun i => checked_prog (calls i) []
  have hiff : EachStep step ValidMoves sched (start calls w)
      ↔ EachStep step UpdatesHarmlessly sched (start calls w) :=
    Statement.eachStep_congr (J := Pool.Follows ChecksTransition)
      (fun _ m hq => hq.step m) (fun _ m hq => validMoves_iff hq m) hfollows
  exact ⟨hiff, fun h => closedIsTerminal (hiff.mpr h)⟩

/-- A world with one incident, opened for an alert and then resolved. -/
def oneResolved : World :=
  ((do
    let _ ← Incidents.Store.openOrAttach
      { id := some 0, organizationId := "org", severity := .HIGH, machineId := "m1" }
    Incidents.Store.resolve 0 "replaced the bearing" none :
    Alerting.Prog Unit).eval World.exec World.empty).2

/-- One technician closes the incident while another reopens the investigation. -/
def closeAndReopen : Bool → IncidentCall
  | true => .transition 0 "CLOSED" (some "u1") ""
  | false => .transition 0 "INVESTIGATING" (some "u2") "it is back"

/-- Both calls read `RESOLVED`, then one updates after the other. -/
def closeThenReopen : List (Move Bool ℕ) :=
  [.thread true, .thread false, .thread true, .thread false]

/-- The statuses stored after a part of that schedule. -/
def statusesAfter (n : ℕ) : List IncidentStatus :=
  (((start closeAndReopen oneResolved).exec World.exec World.tick
    (closeThenReopen.take n)).store.incidents.rows).map IncidentRow.status

/-- The incident is `CLOSED` after the third statement and `INVESTIGATING` after the fourth. -/
theorem closed_incident_reopened :
    statusesAfter 3 = [.CLOSED] ∧ statusesAfter 4 = [.INVESTIGATING]
      ∧ ¬ EachStep step ValidMoves closeThenReopen (start closeAndReopen oneResolved) := by
  decide +kernel

end IncidentRaces

end InduSense
