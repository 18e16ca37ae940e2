import InduSense.Alerting.IncidentRaces

/-!
The records of alerts on incidents, under any interleaving of the calls that act on them.

* `recorded`: the incident on which a statement records an alert, as its opener or by an
  `ALERT_ATTACHED` event.
* `Recording`: what `openOrAttach` has done before it records its alert; `follows_openOrAttach`:
  it returns the incident it has recorded its alert on, unless it has lost a race (`LostRace`).
* `Undisturbed`: the condition on a step; `recorded_once`: in a run whose steps all meet it, every
  call that has returned has recorded its alert once, on an incident that was active.
* `unrecorded`: two alerts of a machine, one of which is recorded nowhere.
-/

namespace InduSense

open Statement (Entry Log Pool Move EachStep EachState eachState_of_eachStep)
open Statement.Prog (Ensures FollowsIn Possible ensures_bind ensures_ret followsIn_issue_bind)
open Incidents (AlertRef)
open Incidents.Store (newIncident attachedNote openOrAttach)
open IncidentRaces (IncidentCall)

namespace IncidentRecords

/-! ### The calls and their records -/

/-- The program of a call, with what `openOrAttach` returns. -/
def program : IncidentCall → Alerting.Prog (Option (IncidentId × Bool))
  | .openOrAttach alert => do
      let r ← openOrAttach alert
      return some r
  | call => do
      call.prog
      return none

/-- The calls `ι` running on a world. -/
abbrev Calls (ι : Type) := Pool Alerting PyError (Option (IncidentId × Bool)) World ι

/-- The calls before their first statements. -/
abbrev start {ι : Type} (calls : ι → IncidentCall) (w : World) : Calls ι :=
  Pool.start (fun i => program (calls i)) w

/-- One statement of one call, or the passage of time. -/
abbrev step {ι : Type} [DecidableEq ι] : Calls ι → Move ι ℕ → Calls ι :=
  Pool.step World.exec World.tick

/-- The incident a statement attaches an alert to. -/
def attached : Stmt → Option IncidentId
  | .insertIncidentEvent v => if v.eventType = .ALERT_ATTACHED then some v.incidentId else none
  | _ => none

/-- The incident a statement opens, if the index allows it. -/
def opened : Stmt → Option NewIncident
  | .insertIncident v => some v
  | _ => none

/-- The incident a statement makes inactive. -/
def ended : Stmt → Option IncidentId
  | .updateIncidentStatus id newStatus => if newStatus.active then none else some id
  | _ => none

/-- The incident on which a statement has recorded an alert. -/
def recorded : Entry Alerting PyError → Option IncidentId
  | ⟨.insertIncident _, .ok id⟩ => id
  | ⟨.insertIncidentEvent v, .ok ()⟩ => attached (.insertIncidentEvent v)
  | _ => none

/-- The index has refused to open an incident. -/
def LostRace (l : Log Alerting PyError) : Prop := ∃ v, ⟨.insertIncident v, .ok none⟩ ∈ l

/-- An alert is recorded by `openOrAttach` only, once: as the opener of an incident, or on the
incident it has just found active. -/
def Recording (call : IncidentCall) (l : Log Alerting PyError) : Stmt → Prop
  | .insertIncident v =>
      ∃ alert, call = .openOrAttach alert ∧ v = newIncident alert ∧ l.filterMap recorded = []
  | .insertIncidentEvent v =>
      v.eventType = .ALERT_ATTACHED → ∃ alert, call = .openOrAttach alert
        ∧ v.note = attachedNote alert.id alert.severity alert.title
        ∧ l = [⟨.selectActiveIncident alert.machineId, .ok (some v.incidentId)⟩]
  | _ => True

/-- The end of `openOrAttach`: unless it has lost a race, it has recorded its alert once, on the
incident it returns, and raises no `RuntimeError`. -/
def Links (l : Log Alerting PyError) (r : Except PyError (IncidentId × Bool)) : Prop :=
  LostRace l ∨ (∃ id created, r = .ok (id, created) ∧ l.filterMap recorded = [id])
    ∨ ∃ e, r = .error e ∧ e.kind ≠ .runtimeError

/-- The end of a call. -/
def Ends (call : IncidentCall) (l : Log Alerting PyError)
    (r : Except PyError (Option (IncidentId × Bool))) : Prop :=
  ∀ alert, call = .openOrAttach alert → LostRace l
    ∨ (∃ id created, r = .ok (some (id, created)) ∧ l.filterMap recorded = [id])
    ∨ ∃ e, r = .error e ∧ e.kind ≠ .runtimeError

/-! ### Every call keeps to it -/

lemma follows_openOrAttach (alert : AlertRef) :
    FollowsIn (Possible World.exec) (Recording (.openOrAttach alert)) Links (openOrAttach alert)
      [] := by
  refine followsIn_issue_bind (Q := Recording (.openOrAttach alert)) trivial (fun row _ => ?_)
    fun e he => ?_
  · cases row with
    | some existingId =>
        refine followsIn_issue_bind (Q := Recording (.openOrAttach alert))
          (fun _ => ⟨alert, rfl, rfl, rfl⟩) (fun _ _ => ?_) fun e ⟨w, he⟩ => by cases he
        exact .inr (.inl ⟨_, _, rfl, rfl⟩)
    | none =>
        refine followsIn_issue_bind (Q := Recording (.openOrAttach alert)) ⟨alert, rfl, rfl, rfl⟩
          (fun inserted _ => ?_) fun e ⟨w, he⟩ => by cases he
        cases inserted with
        | some incidentId =>
            refine followsIn_issue_bind (Q := Recording (.openOrAttach alert))
              (fun h => by cases h) (fun _ _ => ?_) fun e ⟨w, he⟩ => by cases he
            exact .inr (.inl ⟨_, _, rfl, rfl⟩)
        | none =>
            have hlost : ∀ e, LostRace (([] ++ [⟨.selectActiveIncident alert.machineId, .ok none⟩])
                ++ [⟨.insertIncident (newIncident alert), .ok none⟩] ++ [e]) :=
              fun e => ⟨newIncident alert, by simp⟩
            refine followsIn_issue_bind (Q := Recording (.openOrAttach alert)) trivial
              (fun existing _ => ?_) fun e _ => .inl (hlost _)
            cases existing with
            | none => exact .inl (hlost _)
            | some existing => exact .inl (hlost _)
  · -- the one exception of a query is that of an empty id
    obtain ⟨w, hw⟩ := he
    rw [World.exec] at hw
    split at hw
    · cases hw
      exact .inr (.inr ⟨_, rfl, by decide⟩)
    · cases hw

/-- A statement that records no alert. -/
def Silent : Stmt → Prop
  | .insertIncident _ => False
  | .insertIncidentEvent v => v.eventType ≠ .ALERT_ATTACHED
  | _ => True

lemma recording_of_silent (call : IncidentCall) (l : Log Alerting PyError) (c : Stmt)
    (hc : Silent c) : Recording call l c := by
  cases c with
  | insertIncident v => exact hc.elim
  | insertIncidentEvent v => exact fun h => absurd h hc
  | _ => trivial

lemma silent_of_eventType (v : NewIncidentEvent) {eventType : IncidentEventType}
    (h : v.eventType = eventType) (hne : eventType ≠ .ALERT_ATTACHED) :
    Silent (.insertIncidentEvent v) := by
  rw [Silent, h]
  exact hne

lemma silent_transition {incidentId : IncidentId} {newStatus : String}
    {actorUserId : Option String} {note : String} :
    Ensures (fun _ c => Silent c)
      (Incidents.Store.transition incidentId newStatus actorUserId note) :=
  Incidents.Store.ensures_transition (fun _ => trivial) (fun _ _ => trivial)
    fun _ v _ h => silent_of_eventType v h (by decide)

lemma silent_assign {incidentId : IncidentId} {userId : String} {actorUserId : Option String} :
    Ensures (fun _ c => Silent c) (Incidents.Store.assign incidentId userId actorUserId) :=
  Incidents.Store.ensures_assign (fun _ => trivial)
    fun _ v _ h => silent_of_eventType v h (by decide)

lemma silent_resolve {incidentId : IncidentId} {resolutionNotes : String}
    {actorUserId : Option String} :
    Ensures (fun _ c => Silent c)
      (Incidents.Store.resolve incidentId resolutionNotes actorUserId) :=
  Incidents.Store.ensures_resolve (fun _ => trivial) silent_transition

/-- No call but `openOrAttach` records an alert. -/
lemma silent_prog {call : IncidentCall} (hcall : ∀ alert, call ≠ .openOrAttach alert) :
    Ensures (fun _ c => Silent c) call.prog := by
  cases call with
  | openOrAttach alert => exact absurd rfl (hcall alert)
  | transition incidentId newStatus actorUserId note => exact silent_transition
  | assign incidentId userId actorUserId => exact silent_assign
  | resolve incidentId resolutionNotes actorUserId => exact silent_resolve
  | transitionRequest id status note claims =>
      exact Api.ensures_transitionIncident (fun _ => trivial) silent_transition
  | assignRequest id userId claims =>
      exact Api.ensures_assignIncident (fun _ => trivial) silent_assign
  | resolveRequest id resolutionNotes claims =>
      exact Api.ensures_resolveIncident (fun _ => trivial) silent_resolve

/-- **What every call does.** -/
theorem follows_program (call : IncidentCall) :
    FollowsIn (Possible World.exec) (Recording call) (Ends call) (program call) [] := by
  by_cases hcall : ∃ alert, call = .openOrAttach alert
  · obtain ⟨alert, rfl⟩ := hcall
    refine (follows_openOrAttach alert).bind (fun l r hr => ?_) fun l e he => ?_
    · rintro _ -
      refine hr.imp_right fun hr => hr.imp (fun ⟨id, created, hr, hl⟩ => ?_)
        fun ⟨e, he, _⟩ => by cases he
      cases hr
      exact ⟨id, created, rfl, hl⟩
    · rintro _ -
      refine he.imp_right fun he => he.imp (fun ⟨id, created, hr, _⟩ => by cases hr)
        fun ⟨e', he, hkind⟩ => ?_
      cases he
      exact ⟨e, rfl, hkind⟩
  · have hother : ∀ alert, call ≠ .openOrAttach alert := fun alert h => hcall ⟨alert, h⟩
    have hprog : program call = call.prog.bind fun _ => Statement.Prog.ret none := by
      cases call with
      | openOrAttach alert => exact absurd rfl (hother alert)
      | _ => rfl
    rw [hprog]
    have hsilent : Ensures (fun _ c => Silent c)
        (call.prog.bind fun _ => Statement.Prog.ret (none : Option (IncidentId × Bool))) :=
      ensures_bind (silent_prog hother) fun _ => ensures_ret _
    refine (hsilent.follows (recording_of_silent call) []).followsIn.mono fun l r _ alert h => ?_
    exact absurd h (hother alert)

/-! ### What a step does -/

/-- The incident is active. -/
def ActiveIn (w : World) (id : IncidentId) : Prop :=
  ∃ r ∈ w.incidents.rows, r.id = id ∧ r.status.active = true

/-- The alert is recorded on the incident: as its opener, or by an event. -/
def Recorded (w : World) (alert : AlertRef) (id : IncidentId) : Prop :=
  (∃ r ∈ w.incidents.rows, r.id = id ∧ r.alertId = alert.id)
    ∨ ∃ e ∈ w.incidentEvents, e.incidentId = id ∧ e.eventType = .ALERT_ATTACHED
      ∧ e.note = attachedNote alert.id alert.severity alert.title

/-- A statement other than one that ends it leaves an active incident active. -/
lemma ActiveIn.exec {w : World} {id : IncidentId} (h : ActiveIn w id) {c : Stmt}
    (hc : ended c ≠ some id) : ActiveIn (World.exec c w).2 id := by
  obtain ⟨r, hr, rfl, hactive⟩ := h
  obtain ⟨r', hr', hid⟩ := World.exec_incident_persists c hr
  refine ⟨r', hr', hid, ?_⟩
  by_cases hu : ∃ id new, c = .updateIncidentStatus id new
  · obtain ⟨id, new, rfl⟩ := hu
    rcases IncidentRaces.updated_cases hr hr' hid with hsame | ⟨hrid, hnew, -⟩
    · rwa [hsame]
    · rw [hnew]
      by_contra hinactive
      exact hc (by rw [ended, if_neg hinactive, hrid])
  · rw [World.exec_incident_status (fun id new h => hu ⟨id, new, h⟩) hr hr' hid]
    exact hactive

/-- What is recorded stays recorded. -/
lemma Recorded.exec {w : World} {alert : AlertRef} {id : IncidentId} (h : Recorded w alert id)
    (c : Stmt) : Recorded (World.exec c w).2 alert id := by
  rcases h with ⟨r, hr, hid, halert⟩ | ⟨e, he, h⟩
  · obtain ⟨r', hr', hid', halert'⟩ := World.exec_incident_kept c hr
    exact .inl ⟨r', hr', hid'.trans hid, halert'.trans halert⟩
  · exact .inr ⟨e, World.exec_incidentEvents c he, h⟩

/-- A statement that opens an incident, and is answered with its id, has recorded its alert on it,
and the incident is active. -/
lemma exec_opens {v : NewIncident} {w : World} {id : IncidentId}
    (h : (World.exec (.insertIncident v) w).1 = .ok (some id)) :
    ∃ r ∈ (World.exec (.insertIncident v) w).2.incidents.rows,
      r.id = id ∧ r.alertId = v.alertId ∧ r.status.active = true := by
  have h' : Except.ok (w.incidents.insertIncident v w.now).1 = .ok (some id) := h
  rw [Except.ok.injEq] at h'
  show ∃ r ∈ (w.incidents.insertIncident v w.now).2.rows, _
  rcases w.incidents.insertIncident_cases v w.now with ⟨t', hins, hrows⟩ | ⟨hins, -⟩
  · rw [hins, Option.some.injEq] at h'
    rw [hins, hrows]
    exact ⟨_, List.mem_append_right _ (List.mem_singleton_self _), h', rfl, rfl⟩
  · rw [hins] at h'
    cases h'

/-- The active incident that a query finds. -/
lemma exec_finds {machineId : String} {w : World} {id : IncidentId}
    (h : (World.exec (.selectActiveIncident machineId) w).1 = .ok (some id)) :
    ActiveIn (World.exec (.selectActiveIncident machineId) w).2 id := by
  rw [World.exec] at h ⊢
  split at h
  · cases h
  · rename_i hmachine
    rw [if_neg hmachine]
    rw [Except.ok.injEq, Option.map_eq_some_iff] at h
    obtain ⟨r, hr, rfl⟩ := h
    have hfound := List.find?_some hr
    rw [decide_eq_true_eq] at hfound
    exact ⟨r, List.mem_of_find?_eq_some hr, rfl, hfound.1⟩

variable {ι : Type} [DecidableEq ι]

/-- The condition on a step: an incident is opened when its machine has no active one, and none is
ended while a call is about to attach its alert to it. -/
def Undisturbed (p : Calls ι) : Move ι ℕ → Prop
  | .outside _ => True
  | .thread i =>
      (∀ v ∈ (p.next i).bind opened, ∀ r ∈ p.store.incidents.rows, ¬ r.ActiveFor v.machineId)
        ∧ ∀ id ∈ (p.next i).bind ended, ∀ j, (p.next j).bind attached ≠ some id

instance [Fintype ι] (p : Calls ι) : ∀ m : Move ι ℕ, Decidable (Undisturbed p m)
  | .outside _ => isTrue trivial
  | .thread i => inferInstanceAs (Decidable
      ((∀ v ∈ (p.next i).bind opened, ∀ r ∈ p.store.incidents.rows, ¬ r.ActiveFor v.machineId)
        ∧ ∀ id ∈ (p.next i).bind ended, ∀ j, (p.next j).bind attached ≠ some id))

/-- The step records an alert, if it records one, on an incident that is active. -/
def RecordsOnActive (p : Calls ι) (m : Move ι ℕ) : Prop :=
  ∀ i e id, (step p m).seen i = p.seen i ++ [e] → recorded e = some id →
    ActiveIn (step p m).store id

/-- Every call to `openOrAttach` that has returned has recorded its alert once, on the incident it
has returned; none has ended by raising a `RuntimeError`. -/
def AllRecorded (calls : ι → IncidentCall) (p : Calls ι) : Prop :=
  ∀ i alert, calls i = .openOrAttach alert →
    (∀ r, p.todo i = .ret r → ∃ id created, r = some (id, created)
      ∧ (p.seen i).filterMap recorded = [id] ∧ Recorded p.store alert id)
    ∧ ∀ e, p.todo i = .raise e → e.kind ≠ .runtimeError

/-- What holds throughout a run whose steps all meet the condition. -/
structure Linking (calls : ι → IncidentCall) (p : Calls ι) : Prop where
  pool : p.GuaranteesIn (Possible World.exec) (fun i => Recording (calls i))
    (fun i => Ends (calls i))
  won : ∀ i, ¬ LostRace (p.seen i)
  active : ∀ i id, (p.next i).bind attached = some id → ActiveIn p.store id
  recorded : ∀ i alert, calls i = .openOrAttach alert →
    ∀ id ∈ (p.seen i).filterMap recorded, Recorded p.store alert id

omit [DecidableEq ι] in
/-- A call that is about to attach its alert has just found the incident. -/
lemma seen_of_attached {calls : ι → IncidentCall} {p : Calls ι}
    (hpool : p.GuaranteesIn (Possible World.exec) (fun i => Recording (calls i))
      (fun i => Ends (calls i))) {i : ι} {id : IncidentId}
    (h : (p.next i).bind attached = some id) :
    ∃ machineId, p.seen i = [⟨.selectActiveIncident machineId, .ok (some id)⟩] := by
  obtain ⟨c, hc, hatt⟩ := Option.bind_eq_some_iff.mp h
  have hrec := hpool.next hc
  cases c with
  | insertIncidentEvent v =>
      rw [attached] at hatt
      split at hatt
      · rename_i htype
        cases hatt
        obtain ⟨alert, -, -, hl⟩ := hrec htype
        exact ⟨alert.machineId, hl⟩
      · cases hatt
  | _ => cases hatt

omit [DecidableEq ι] in
lemma linking_start (calls : ι → IncidentCall) (w : World) : Linking calls (start calls w) where
  pool := Pool.guaranteesIn_start fun i => follows_program (calls i)
  won := fun i ⟨v, hv⟩ => by cases hv
  active := by
    intro i id hid
    obtain ⟨machineId, hseen⟩ := seen_of_attached
      (Pool.guaranteesIn_start fun i => follows_program (calls i)) hid
    cases hseen
  recorded := fun i alert _ id hid => by cases hid

omit [DecidableEq ι] in
/-- What a statement that records an alert leaves: the alert recorded on an active incident. -/
lemma Linking.records {calls : ι → IncidentCall} {p : Calls ι} (h : Linking calls p) {i : ι}
    {c : Stmt} (hc : p.next i = some c) {id : IncidentId}
    (hid : IncidentRecords.recorded ⟨c, (World.exec c p.store).1⟩ = some id) :
    ActiveIn (World.exec c p.store).2 id
      ∧ ∀ alert, calls i = .openOrAttach alert → Recorded (World.exec c p.store).2 alert id := by
  have hrec := h.pool.next hc
  cases c with
  | insertIncident v =>
      obtain ⟨alert, hcall, rfl, -⟩ := hrec
      have hans : (World.exec (.insertIncident (newIncident alert)) p.store).1 = .ok (some id) :=
        congrArg Except.ok hid
      obtain ⟨r, hr, hrid, halert, hactive⟩ := exec_opens hans
      refine ⟨⟨r, hr, hrid, hactive⟩, fun alert' hcall' => .inl ⟨r, hr, hrid, ?_⟩⟩
      rw [hcall] at hcall'
      cases hcall'
      exact halert
  | insertIncidentEvent v =>
      have hatt : attached (.insertIncidentEvent v) = some id := hid
      have hactive := h.active i id (by rw [hc]; exact hatt)
      refine ⟨hactive.exec (fun h => by cases h), fun alert' hcall' => .inr ?_⟩
      rw [attached] at hatt
      split at hatt
      · rename_i htype
        cases hatt
        obtain ⟨alert, hcall, hnote, -⟩ := hrec htype
        rw [hcall] at hcall'
        cases hcall'
        exact ⟨_, List.mem_append_right _ (List.mem_singleton_self _), rfl, htype, hnote⟩
      · cases hatt
  | _ => cases hid

section Step

variable {calls : ι → IncidentCall} {p : Calls ι} {m : Move ι ℕ}

/-- No race is lost where an incident is opened only on a machine without an active one. -/
lemma Linking.won_step (h : Linking calls p) (hC : Undisturbed p m) (j : ι) :
    ¬ LostRace ((step p m).seen j) := by
  rcases Pool.seen_step World.exec World.tick p m j with hseen | ⟨c, rfl, hnext, hseen, -⟩
  · rw [IncidentRecords.step, hseen]
    exact h.won j
  · rw [IncidentRecords.step, hseen]
    rintro ⟨v, hv⟩
    rcases List.mem_append.mp hv with hv | hv
    · exact h.won j ⟨v, hv⟩
    · -- the index refuses only where the machine has an active incident
      rw [List.mem_singleton] at hv
      have hstmt : c = .insertIncident v := congrArg Entry.stmt hv.symm
      subst hstmt
      have hfree := hC.1
      rw [hnext] at hfree
      have hans : Except.ok none = (World.exec (.insertIncident v) p.store).1 := by
        simpa using hv
      rcases p.store.incidents.insertIncident_cases v p.store.now with
        ⟨t', hins, -⟩ | ⟨-, r, hr, hactive⟩
      · rw [World.exec, hins] at hans
        cases hans
      · exact hfree v rfl r hr hactive

/-- The incident a call is about to attach its alert to stays active. -/
lemma Linking.active_step (h : Linking calls p) (hC : Undisturbed p m)
    (hpool : (step p m).GuaranteesIn (Possible World.exec) (fun i => Recording (calls i))
      (fun i => Ends (calls i))) {j : ι} {id : IncidentId}
    (hid : ((step p m).next j).bind attached = some id) : ActiveIn (step p m).store id := by
  rcases Pool.step_cases World.exec World.tick p m with
    ⟨dt, rfl, hs⟩ | ⟨i, rfl, -, hs⟩ | ⟨i, c, k, rfl, -, hnext, hs⟩
  · exact h.active j id hid
  · rw [IncidentRecords.step, hs] at hid ⊢
    exact h.active j id hid
  · have hstore : (step p (.thread i)).store = (World.exec c p.store).2 := by
      rw [IncidentRecords.step, hs]
    rw [hstore]
    by_cases hj : j = i
    · -- its own step has found it
      subst hj
      obtain ⟨machineId, hseen⟩ := seen_of_attached hpool hid
      rw [IncidentRecords.step, hs] at hseen
      dsimp only at hseen
      rw [Function.update_self] at hseen
      have hlast := (List.append_inj' (hseen.trans (List.nil_append _).symm) rfl).2
      rw [List.cons.injEq] at hlast
      have hstmt : c = .selectActiveIncident machineId := congrArg Entry.stmt hlast.1
      subst hstmt
      exact exec_finds (by simpa using hlast.1)
    · have hkeep := hC.2
      rw [hnext] at hkeep
      rw [IncidentRecords.step, hs, Pool.next] at hid
      dsimp only at hid
      rw [Function.update_of_ne hj] at hid
      exact (h.active j id hid).exec fun hended => hkeep id hended j hid

lemma Recorded.step {alert : AlertRef} {id : IncidentId} (h : Recorded p.store alert id) :
    Recorded (step p m).store alert id := by
  rcases Pool.step_cases World.exec World.tick p m with
    ⟨dt, rfl, hs⟩ | ⟨i, rfl, -, hs⟩ | ⟨i, c, k, rfl, -, hnext, hs⟩
  · exact h
  · rwa [IncidentRecords.step, hs]
  · rw [IncidentRecords.step, hs]
    exact h.exec c

/-- What the statements of a call have recorded is recorded. -/
lemma Linking.recorded_step (h : Linking calls p) {j : ι} {alert : AlertRef}
    (hcall : calls j = .openOrAttach alert) {id : IncidentId}
    (hid : id ∈ ((step p m).seen j).filterMap IncidentRecords.recorded) :
    Recorded (step p m).store alert id := by
  rcases Pool.seen_step World.exec World.tick p m j with hseen | ⟨c, rfl, hnext, hseen, hstore⟩
  · rw [IncidentRecords.step, hseen] at hid
    exact (h.recorded j alert hcall id hid).step
  · rw [IncidentRecords.step, hseen, List.filterMap_append] at hid
    rcases List.mem_append.mp hid with hid | hid
    · exact (h.recorded j alert hcall id hid).step
    · have hrec : IncidentRecords.recorded ⟨c, (World.exec c p.store).1⟩ = some id := by
        simpa using hid
      rw [IncidentRecords.step, hstore]
      exact (h.records hnext hrec).2 alert hcall

/-- A step records its alert on an active incident. -/
lemma Linking.recordsOnActive (h : Linking calls p) (m : Move ι ℕ) : RecordsOnActive p m := by
  intro j e id hseen hid
  rcases Pool.seen_step World.exec World.tick p m j with
    hsame | ⟨c, rfl, hnext, hnew, hstore⟩
  · have hlen := congrArg List.length (hsame.symm.trans hseen)
    simp at hlen
  · have he := List.append_cancel_left (hnew.symm.trans hseen)
    rw [List.cons.injEq] at he
    rw [← he.1] at hid
    rw [IncidentRecords.step, hstore]
    exact (h.records hnext hid).1

/-- A step that meets the condition keeps all this. -/
lemma Linking.step (h : Linking calls p) (hC : Undisturbed p m) : Linking calls (step p m) := by
  have hpool : (IncidentRecords.step p m).GuaranteesIn (Possible World.exec)
      (fun i => Recording (calls i)) (fun i => Ends (calls i)) :=
    h.pool.step (fun c w => ⟨w, rfl⟩) m
  exact ⟨hpool, fun j => h.won_step hC j, fun j id hid => h.active_step hC hpool hid,
    fun j alert hcall id hid => h.recorded_step hcall hid⟩

end Step

/-- **Every alert is recorded once**: in a run of any number of calls whose steps all meet the
condition, every call to `openOrAttach` that has returned has recorded its alert exactly once, on
the incident it has returned, and on an incident that was active when the record was written; and
none has raised because of a race. -/
theorem recorded_once (calls : ι → IncidentCall) (w : World) (sched : List (Move ι ℕ))
    (h : EachStep step Undisturbed sched (start calls w)) :
    EachState step (AllRecorded calls) sched (start calls w)
      ∧ EachStep step RecordsOnActive sched (start calls w) := by
  have hstart := linking_start calls w
  constructor
  · refine EachState.mono (I := Linking calls) (fun p hp i alert hcall => ?_)
      (eachState_of_eachStep (J := fun _ => True) (fun _ _ _ => trivial)
        (fun p m _ hp hC => hp.step hC) trivial hstart h)
    refine ⟨fun r hr => ?_, fun e he => ?_⟩
    · rcases (hp.pool.ended.1 r hr) alert hcall with hlost | ⟨id, created, hret, hlog⟩ | ⟨e, he, -⟩
      · exact absurd hlost (hp.won i)
      · cases hret
        refine ⟨id, created, rfl, hlog, hp.recorded i alert hcall id ?_⟩
        rw [hlog]
        exact List.mem_singleton_self _
      · cases he
    · rcases (hp.pool.ended.2 e he) alert hcall with hlost | ⟨id, created, hret, -⟩ | ⟨e', he', hk⟩
      · exact absurd hlost (hp.won i)
      · cases hret
      · cases he'
        exact hk
  · exact h.carry (I := Linking calls)
      (fun p m hp hC => ⟨hp.step hC, hp.recordsOnActive m⟩) hstart

/-! ### An alert is recorded nowhere -/

/-- Two alerts of one machine. -/
def twoAlerts : Bool → IncidentCall
  | true => .openOrAttach
      { id := some 1, organizationId := "org", severity := .HIGH, machineId := "m1",
        title := "temperature" }
  | false => .openOrAttach
      { id := some 2, organizationId := "org", severity := .WARNING, machineId := "m1",
        title := "vibration" }

/-- Both calls find no incident; the first opens one, and the index refuses the second. -/
def bothInsert : List (Move Bool ℕ) :=
  [.thread true, .thread false, .thread true, .thread false, .thread true, .thread false]

/-- The second call starts when the first has opened its incident. -/
def oneAfterTheOther : List (Move Bool ℕ) :=
  [.thread true, .thread true, .thread false, .thread true, .thread false]

/-- One after the other, one alert opens the incident and the other is attached to it. -/
theorem recorded_once_oneAfterTheOther :
    EachState step (AllRecorded twoAlerts) oneAfterTheOther (start twoAlerts World.empty)
      ∧ EachStep step RecordsOnActive oneAfterTheOther (start twoAlerts World.empty) :=
  recorded_once twoAlerts World.empty oneAfterTheOther (by decide +kernel)

/-- What a call has returned. -/
def returned : Alerting.Prog (Option (IncidentId × Bool)) → Option (IncidentId × Bool)
  | .ret r => r
  | _ => none

/-- **An alert is recorded nowhere**: the call that has lost the race returns the incident of the
other. -/
theorem unrecorded :
    ¬ EachState step (AllRecorded twoAlerts) bothInsert (start twoAlerts World.empty) := by
  intro h
  have hlast := (h.last false _ rfl).1
  have hreturned : returned ((bothInsert.foldl step (start twoAlerts World.empty)).todo false)
      = some (0, false) := by decide +kernel
  have hlog : ((bothInsert.foldl step (start twoAlerts World.empty)).seen false).filterMap recorded
      = [] := by decide +kernel
  cases htodo : (bothInsert.foldl step (start twoAlerts World.empty)).todo false with
  | ret r =>
      obtain ⟨id, created, -, hrecorded, -⟩ := hlast r htodo
      rw [hlog] at hrecorded
      cases hrecorded
  | raise e => rw [htodo] at hreturned; cases hreturned
  | call c k => rw [htodo] at hreturned; cases hreturned

end IncidentRecords

end InduSense
