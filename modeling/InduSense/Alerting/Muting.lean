import InduSense.Api.Handlers
import InduSense.AlertService.Main

/-!
Which alert keys can still raise an alert.

* `Operation`, `Operation.apply`: the operations of the system on alerts and incidents, one after
  the other, with the passage of time.
* `NeverResolved`: no alert is ever resolved or suppressed, since no operation writes either
  status.
* `createIfDue_created_iff`: so a key can raise an alert exactly when it never has.
-/

namespace InduSense

open AlertService (Alert AlertStore.createIfDue AlertStore.escalate)
open Incidents (AlertRef)

/-- The operations on alerts and incidents. -/
inductive Operation where
  | createIfDue (ruleId : String) (cooldownSeconds : ℤ) (alert : Alert) (dedupeKey : String)
  | escalate (alertId : Option AlertId) (newSeverity : Severity)
  | acknowledge (id : AlertId) (claims : Api.Claims)
  | openOrAttach (alert : AlertRef)
  | transition (incidentId : IncidentId) (newStatus : String) (actorUserId : Option String)
      (note : String)
  | assign (incidentId : IncidentId) (userId : String) (actorUserId : Option String)
  | resolve (incidentId : IncidentId) (resolutionNotes : String) (actorUserId : Option String)
  | advance (dt : ℕ)

namespace Operation

/-- The world an operation leaves, whatever it returns or raises. -/
def apply (w : World) : Operation → World
  | createIfDue ruleId cooldownSeconds alert dedupeKey =>
      ((AlertStore.createIfDue ruleId cooldownSeconds alert dedupeKey).eval World.exec w).2
  | escalate alertId newSeverity => ((AlertStore.escalate alertId newSeverity).eval World.exec w).2
  | acknowledge id claims => ((Api.acknowledgeAlert id claims).eval World.exec w).2
  | openOrAttach alert => ((Incidents.Store.openOrAttach alert).eval World.exec w).2
  | transition incidentId newStatus actorUserId note =>
      ((Incidents.Store.transition incidentId newStatus actorUserId note).eval World.exec w).2
  | assign incidentId userId actorUserId =>
      ((Incidents.Store.assign incidentId userId actorUserId).eval World.exec w).2
  | resolve incidentId resolutionNotes actorUserId =>
      ((Incidents.Store.resolve incidentId resolutionNotes actorUserId).eval World.exec w).2
  | advance dt => w.tick dt

/-- The world after a sequence of operations. -/
def applyAll (ops : List Operation) (w : World) : World := ops.foldl apply w

/-- What every statement and the passage of time preserve, every sequence of operations does. -/
lemma applyAll_preserves {I : World → Prop} (hexec : ∀ c w, I w → I (World.exec c w).2)
    (htick : ∀ dt w, I w → I (w.tick dt)) (ops : List Operation) {w : World} (h : I w) :
    I (applyAll ops w) := by
  have hprog : ∀ {α : Type} (p : Alerting.Prog α) {w : World}, I w → I (p.eval World.exec w).2 :=
    fun p _ hw => Statement.Prog.eval_preserves World.exec hexec p hw
  induction ops generalizing w with
  | nil => exact h
  | cons op ops ih =>
      refine ih ?_
      cases op with
      | advance dt => exact htick dt w h
      | createIfDue ruleId cooldownSeconds alert dedupeKey => exact hprog _ h
      | escalate alertId newSeverity => exact hprog _ h
      | acknowledge id claims => exact hprog _ h
      | openOrAttach alert => exact hprog _ h
      | transition incidentId newStatus actorUserId note => exact hprog _ h
      | assign incidentId userId actorUserId => exact hprog _ h
      | resolve incidentId resolutionNotes actorUserId => exact hprog _ h

end Operation

/-! ### What no operation changes -/

/-- Every alert is open or acknowledged. -/
def NeverResolved (w : World) : Prop :=
  ∀ r ∈ w.alerts.rows, r.status = .OPEN ∨ r.status = .ACKNOWLEDGED

/-- A key has an alert. -/
def KeyUsed (ruleId dedupeKey : String) (w : World) : Prop :=
  ∃ r ∈ w.alerts.rows, r.HasKey ruleId dedupeKey

/-- No statement resolves or suppresses an alert. -/
lemma NeverResolved.exec (c : Stmt) (w : World) (h : NeverResolved w) :
    NeverResolved (World.exec c w).2 := by
  intro r' hr'
  rcases World.exec_alerts c w with
    hs | ⟨v, rfl, hrows, -⟩ | ⟨id, sev, rfl, hrows, -⟩ | ⟨id, org, rfl, hrows, -⟩
  · exact h r' (hs ▸ hr')
  · rw [hrows] at hr'
    rcases List.mem_append.mp hr' with hr | hr
    · exact h r' hr
    · rw [List.mem_singleton.mp hr]
      exact .inl rfl
  · rw [hrows] at hr'
    obtain ⟨r, hr, rfl⟩ := List.mem_map.mp hr'
    rw [AlertRow.escalated_status]
    exact h r hr
  · rw [hrows] at hr'
    obtain ⟨r, hr, rfl⟩ := List.mem_map.mp hr'
    rcases r.acknowledged_status id org with hst | ⟨-, hst⟩
    · rw [hst]
      exact h r hr
    · exact .inr hst

/-- No statement deletes an alert or changes its key. -/
lemma KeyUsed.exec {ruleId dedupeKey : String} (c : Stmt) (w : World)
    (h : KeyUsed ruleId dedupeKey w) : KeyUsed ruleId dedupeKey (World.exec c w).2 := by
  obtain ⟨r, hr, hk⟩ := h
  rcases World.exec_alerts c w with
    hs | ⟨v, rfl, hrows, -⟩ | ⟨id, sev, rfl, hrows, -⟩ | ⟨id, org, rfl, hrows, -⟩
  · exact ⟨r, hs ▸ hr, hk⟩
  · exact ⟨r, hrows ▸ List.mem_append_left _ hr, hk⟩
  · refine ⟨_, hrows ▸ List.mem_map_of_mem hr, ?_⟩
    rwa [AlertRow.HasKey, AlertRow.escalated_alertRuleId, AlertRow.escalated_dedupeKey]
  · refine ⟨_, hrows ▸ List.mem_map_of_mem hr, ?_⟩
    rwa [AlertRow.HasKey, AlertRow.acknowledged_alertRuleId, AlertRow.acknowledged_dedupeKey]

lemma neverResolved_applyAll (ops : List Operation) :
    NeverResolved (Operation.applyAll ops .empty) := by
  refine Operation.applyAll_preserves NeverResolved.exec (fun dt w h => h) ops ?_
  intro r hr
  cases hr

lemma KeyUsed.applyAll {ruleId dedupeKey : String} (ops : List Operation) {w : World}
    (h : KeyUsed ruleId dedupeKey w) : KeyUsed ruleId dedupeKey (Operation.applyAll ops w) :=
  Operation.applyAll_preserves KeyUsed.exec (fun _ _ h => h) ops h

/-- A key that has an alert has a latest one. -/
lemma KeyUsed.latest {ruleId dedupeKey : String} {w : World} (h : KeyUsed ruleId dedupeKey w) :
    ∃ r ∈ w.alerts.rows, w.alerts.latest ruleId dedupeKey = some r := by
  cases hl : w.alerts.latest ruleId dedupeKey with
  | some r => exact ⟨r, (AlertTable.mem_of_latest_eq_some hl).1, rfl⟩
  | none =>
      obtain ⟨r, hr, hk⟩ := h
      exact absurd hk (AlertTable.latest_eq_none_iff.mp hl r hr)

/-- A key whose alerts are all open or acknowledged is muted: `create_if_due` changes nothing. -/
lemma NeverResolved.muted {w : World} (hw : NeverResolved w) {ruleId dedupeKey : String}
    (h : KeyUsed ruleId dedupeKey w) (cooldownSeconds : ℤ) (alert : Alert) :
    (AlertStore.createIfDue ruleId cooldownSeconds alert dedupeKey).eval World.exec w
      = (.ok (.SUPPRESSED_OPEN, none), w) := by
  obtain ⟨r, hr, hlatest⟩ := h.latest
  refine AlertService.AlertStore.createIfDue_eval_suppressed hlatest ?_ cooldownSeconds alert
  rcases hw r hr with hst | hst
  · rw [hst]
    decide
  · rw [hst]
    decide

/-- From a database the system can reach, an alert is due where its key has none. -/
lemma NeverResolved.due_iff {w : World} (hw : NeverResolved w) {ruleId dedupeKey : String}
    {cooldownSeconds : ℤ} :
    AlertService.AlertStore.Due ruleId cooldownSeconds dedupeKey w
      ↔ w.alerts.latest ruleId dedupeKey = none := by
  refine ⟨fun hdue => ?_, fun h => AlertService.AlertStore.due_of_latest_eq_none h cooldownSeconds⟩
  cases hlatest : w.alerts.latest ruleId dedupeKey with
  | none => rfl
  | some r =>
      have hresolved := (hdue.1 r hlatest).1
      rcases hw r (AlertTable.mem_of_latest_eq_some hlatest).1 with hstatus | hstatus
      · rw [hstatus] at hresolved
        cases hresolved
      · rw [hstatus] at hresolved
        cases hresolved

/-! ### Keys that can raise an alert -/

/-- `create_if_due` for the key would create an alert. -/
def CanCreate (ruleId : String) (cooldownSeconds : ℤ) (alert : Alert) (dedupeKey : String)
    (w : World) : Prop :=
  ∃ created, ((AlertStore.createIfDue ruleId cooldownSeconds alert dedupeKey).eval World.exec w).1
    = .ok (.CREATED, created)

/-- An unused key can raise an alert, and a used one cannot. -/
lemma canCreate_iff {w : World} (hw : NeverResolved w) (ruleId : String) (cooldownSeconds : ℤ)
    (alert : Alert) (dedupeKey : String) :
    CanCreate ruleId cooldownSeconds alert dedupeKey w ↔ ¬ KeyUsed ruleId dedupeKey w := by
  constructor
  · rintro ⟨created, h⟩ hused
    rw [hw.muted hused] at h
    cases h
  · intro hunused
    have hnone : w.alerts.latest ruleId dedupeKey = none :=
      AlertTable.latest_eq_none_iff.mpr fun r hr hk => hunused ⟨r, hr, hk⟩
    exact ⟨_, by rw [AlertService.AlertStore.createIfDue_eval_created hnone]⟩

/-- **Which keys are muted forever.** From any reachable state, some continuation leads to a
state in which `create_if_due` creates an alert for the key exactly when there has been none
yet. -/
theorem createIfDue_created_iff (ops : List Operation) (ruleId : String) (cooldownSeconds : ℤ)
    (alert : Alert) (dedupeKey : String) :
    (∃ more, CanCreate ruleId cooldownSeconds alert dedupeKey
        (Operation.applyAll more (Operation.applyAll ops .empty)))
      ↔ ¬ KeyUsed ruleId dedupeKey (Operation.applyAll ops .empty) := by
  constructor
  · rintro ⟨more, hcan⟩ hused
    have hall : Operation.applyAll more (Operation.applyAll ops .empty)
        = Operation.applyAll (ops ++ more) .empty := (List.foldl_append ..).symm
    refine (canCreate_iff ?_ ruleId cooldownSeconds alert dedupeKey).mp hcan (hused.applyAll more)
    rw [hall]
    exact neverResolved_applyAll _
  · intro hunused
    refine ⟨[], ?_⟩
    exact (canCreate_iff (neverResolved_applyAll ops) ruleId cooldownSeconds alert dedupeKey).mpr
      hunused

/-- An alert is raised and acknowledged. -/
def raisedAndAcknowledged : List Operation :=
  [.createIfDue "rule" 300
      { organizationId := "org", severity := .HIGH, machineId := "m1", deviceId := "d1" }
      "d1:temperature",
    .acknowledge 0 ⟨"org", "u1"⟩]

/-- No continuation raises an alert of that key again. -/
theorem acknowledged_key_muted :
    ¬ ∃ more cooldownSeconds alert, CanCreate "rule" cooldownSeconds alert "d1:temperature"
      (Operation.applyAll more (Operation.applyAll raisedAndAcknowledged .empty)) := by
  have hused : KeyUsed "rule" "d1:temperature"
      (Operation.applyAll raisedAndAcknowledged .empty) := by
    have hrows : (Operation.applyAll raisedAndAcknowledged .empty).alerts.rows.any
        (fun r => decide (r.HasKey "rule" "d1:temperature")) = true := by decide +kernel
    obtain ⟨r, hr, hk⟩ := List.any_eq_true.mp hrows
    exact ⟨r, hr, of_decide_eq_true hk⟩
  rintro ⟨more, cooldownSeconds, alert, hcan⟩
  have hall : Operation.applyAll more (Operation.applyAll raisedAndAcknowledged .empty)
      = Operation.applyAll (raisedAndAcknowledged ++ more) .empty := (List.foldl_append ..).symm
  refine (canCreate_iff ?_ "rule" cooldownSeconds alert "d1:temperature").mp hcan
    (hused.applyAll more)
  rw [hall]
  exact neverResolved_applyAll _

end InduSense
