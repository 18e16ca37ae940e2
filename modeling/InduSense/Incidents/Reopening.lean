import InduSense.Incidents.Calls

/-!
Which transitions of the state machine the database lets through.

* `Succeeds`: a transition returns and leaves its incident in the new status.
* `Reopens`: the move of a resolved incident whose machine has another active one.
* `succeeds_iff`: after any calls, a move of the state machine succeeds exactly when it is not such
  a move and its actor, if it has one, is a user.
* `resolved_incident_stuck`: an incident that cannot be reopened.
-/

namespace InduSense

open Api (Records)

namespace Incidents

/-- `Store.transition` returns, and leaves the incident in the status. -/
def Succeeds (db : Records) (id : IncidentId) (status : IncidentStatus)
    (actorUserId : Option String) (note : String) : Prop :=
  ((Store.transition id status.text actorUserId note).eval Records.exec db).1 = .ok ()
    ∧ ∃ r ∈ ((Store.transition id status.text actorUserId note).eval
        Records.exec db).2.world.incidents.rows, r.id = id ∧ r.status = status

/-- A resolved incident is to be investigated again while another one is active on its machine. -/
def Reopens (db : Records) (r : IncidentRow) (status : IncidentStatus) : Prop :=
  r.status = .RESOLVED ∧ status = .INVESTIGATING
    ∧ ∃ r' ∈ db.world.incidents.rows, r'.id ≠ r.id ∧ r'.ActiveFor r.machineId

variable {db : Records} {r : IncidentRow} {status : IncidentStatus}

/-- The unique index blocks no other move: two incidents of a machine are never both active. -/
lemma blocked_iff (hr : r ∈ db.world.incidents.rows)
    (hvalid : isValidTransition r.status status = true) :
    db.Blocked r.id status ↔ Reopens db r status := by
  constructor
  · rintro ⟨hactive, r₀, hr₀, hid, r', hr', hne, hr'active⟩
    obtain rfl := db.world.incidents.eq_of_id_eq hr₀ hr hid
    have hinactive : r₀.status.active = false := by
      by_contra h
      have hr₀active : r₀.status.active = true := by simpa using h
      have hclash : r'.Clash r₀ := ⟨hr'active, hr₀active⟩
      have hsymm : Std.Symm fun a b : IncidentRow => ¬ a.Clash b :=
        ⟨fun a b hab ⟨⟨hb, hm, hn⟩, ha⟩ => hab ⟨⟨ha, hm.symm, hm ▸ hn⟩, hb⟩⟩
      exact db.world.incidents.no_clash.forall hr' hr (fun h => hne (h ▸ rfl)) hclash
    refine ⟨?_, ?_, r', hr', hne, hr'active⟩
    · revert hinactive hvalid
      cases r₀.status <;> cases status <;> decide
    · revert hinactive hvalid hactive
      cases r₀.status <;> cases status <;> decide
  · rintro ⟨-, rfl, r', hr', hne, hr'active⟩
    exact ⟨rfl, r, hr, rfl, r', hr', hne, hr'active⟩

/-- **The moves that succeed.** After any calls of the store, on any number of machines, a move of
the state machine succeeds if and only if it does not reopen an incident beside another active one
of its machine, and its actor, if it has one, is a user. -/
theorem succeeds_iff (users : List Api.UserRow) (turns : List Turn) {r : IncidentRow}
    {status : IncidentStatus}
    (hr : r ∈ (turns.foldl Turn.run (.empty users)).world.incidents.rows)
    (hvalid : isValidTransition r.status status = true) (actorUserId : Option String)
    (note : String) :
    Succeeds (turns.foldl Turn.run (.empty users)) r.id status actorUserId note
      ↔ ¬ Reopens (turns.foldl Turn.run (.empty users)) r status
        ∧ ∀ u ∈ actorUserId, (turns.foldl Turn.run (.empty users)).HasUser u := by
  generalize turns.foldl Turn.run (.empty users) = db at hr ⊢
  rw [← blocked_iff hr hvalid]
  have hnamed : IncidentStatus.ofText status.text = some status := IncidentStatus.ofText_text status
  rcases transition_cases db r.id status.text actorUserId note with
    ⟨hblocked, e, db', heval, -⟩ | ⟨r', status', hmoves⟩
  · have hb := hblocked r hr rfl status hnamed hvalid
    refine ⟨fun hsucc => ?_, fun h => absurd hb h.1⟩
    rw [Succeeds, heval] at hsucc
    cases hsucc.1
  · obtain rfl : status = status' := Option.some.inj (hnamed.symm.trans hmoves.named)
    rcases hmoves.outcome with ⟨hactor, hok, hleaves⟩ | ⟨hunknown, herr, -⟩
    · refine ⟨fun _ => ⟨hmoves.free, hactor⟩,
        fun _ => ⟨hok, r.withStatus r.id status db.world.now, ?_, ?_, ?_⟩⟩
      · rw [hleaves.rows]
        exact List.mem_map_of_mem hr
      · exact IncidentRow.withStatus_id ..
      · rw [IncidentRow.withStatus_status, if_pos rfl]
    · refine ⟨fun hsucc => ?_, fun h => absurd h.2 hunknown⟩
      cases herr.symm.trans hsucc.1

/-- An incident is opened and resolved, and a new alert opens another one. -/
def recurrence : List Turn :=
  [⟨0, .openOrAttach (pumpAlert 0)⟩, ⟨0, .resolve 0 "replaced the bearing" none⟩,
    ⟨0, .openOrAttach (pumpAlert 1)⟩]

/-- Without the new alert the incident is reopened. -/
theorem succeeds_iff_reopened :
    ∃ r ∈ ((recurrence.take 2).foldl Turn.run (.empty [])).world.incidents.rows,
      Succeeds ((recurrence.take 2).foldl Turn.run (.empty [])) r.id .INVESTIGATING none
        "it is back" := by
  obtain ⟨r, hr, hvalid, alone⟩ :
      ∃ r ∈ ((recurrence.take 2).foldl Turn.run (.empty [])).world.incidents.rows,
        isValidTransition r.status .INVESTIGATING = true
          ∧ ∀ r' ∈ ((recurrence.take 2).foldl Turn.run (.empty [])).world.incidents.rows,
            r'.id = r.id := by decide +kernel
  exact ⟨r, hr, (succeeds_iff [] (recurrence.take 2) hr hvalid none "it is back").mpr
    ⟨fun ⟨_, _, r', hr', hne, _⟩ => hne (alone r' hr'), nofun⟩⟩

/-- **A resolved incident that cannot be reopened**: another one has been opened on its machine, and
the unique index refuses the update. -/
theorem resolved_incident_stuck :
    ¬ ∀ (users : List Api.UserRow) (turns : List Turn),
      ∀ r ∈ (turns.foldl Turn.run (.empty users)).world.incidents.rows, ∀ status,
        isValidTransition r.status status = true →
        Succeeds (turns.foldl Turn.run (.empty users)) r.id status none "" := by
  intro h
  obtain ⟨r, hr, hvalid, hraises⟩ :
      ∃ r ∈ (recurrence.foldl Turn.run (.empty [])).world.incidents.rows,
        isValidTransition r.status .INVESTIGATING = true
          ∧ ((Store.transition r.id "INVESTIGATING" none "").eval Records.exec
            (recurrence.foldl Turn.run (.empty []))).1 = .error IncidentTable.secondActive := by
    decide +kernel
  cases hraises.symm.trans (h [] recurrence r hr .INVESTIGATING hvalid).1

end Incidents

end InduSense
