import InduSense.Alerting.Statements

/-!
Alert persistence, deduplication, cooldown and escalation: `services/alert-service/store.py`.

* `Alert`: an alert in memory; `CreateResult`: how a creation ends.
* `AlertStore`: `createIfDue`, `dueForEscalation`, `escalate`; `nextSeverity`: the ladder.
* `AlertStore.Due`, `createIfDue_cases`: when an alert is due, and what a creation does.
-/

namespace InduSense

open Alerting (issue)

namespace AlertService

/-- `Alert`. -/
structure Alert where
  organizationId : String
  severity : Severity
  factoryId : String := ""
  machineId : String := ""
  deviceId : String := ""
  sensorId : String := ""
  title : String := ""
  description : String := ""
  id : Option AlertId := none
  status : Option AlertStatus := none
  triggeredAt : Option Time := none
  escalationLevel : ℕ := 0
  deriving DecidableEq

/-- `CREATED`, `SUPPRESSED_OPEN`, `SUPPRESSED_COOLDOWN`. -/
inductive CreateResult where
  | CREATED
  | SUPPRESSED_OPEN
  | SUPPRESSED_COOLDOWN
  deriving DecidableEq

/-- The values inserted for an alert. -/
def Alert.values (alert : Alert) (ruleId dedupeKey : String) : NewAlert where
  organizationId := alert.organizationId
  alertRuleId := ruleId
  factoryId := nullIfEmpty alert.factoryId
  machineId := nullIfEmpty alert.machineId
  deviceId := nullIfEmpty alert.deviceId
  sensorId := nullIfEmpty alert.sensorId
  severity := alert.severity
  title := alert.title
  description := alert.description
  dedupeKey := dedupeKey

/-- The alert with what its insertion returned. -/
def Alert.created (alert : Alert) (id : AlertId) (triggeredAt : Time) : Alert :=
  { alert with id := some id, triggeredAt := some triggeredAt, status := some .OPEN }

/-- The alert of a candidate row of the sweep. -/
def Alert.ofRow (r : AlertRow) : Alert where
  organizationId := r.organizationId
  severity := r.severity
  machineId := r.machineId.getD ""
  deviceId := r.deviceId.getD ""
  title := r.title
  description := r.description
  id := some r.id
  triggeredAt := some r.triggeredAt
  escalationLevel := r.escalationLevel

namespace AlertStore

/-- The insertion of `create_if_due`, and what the caller gets. -/
def insert (ruleId : String) (alert : Alert) (dedupeKey : String) :
    Alerting.Prog (CreateResult × Option Alert) := do
  match ← issue (.insertAlert (alert.values ruleId dedupeKey)) with
  | none =>
      -- Lost a race with a concurrent insert for the same open alert.
      return (.SUPPRESSED_OPEN, none)
  | some (id, triggeredAt) => return (.CREATED, some (alert.created id triggeredAt))

/-- `AlertStore.create_if_due`. -/
def createIfDue (ruleId : String) (cooldownSeconds : ℤ) (alert : Alert) (dedupeKey : String) :
    Alerting.Prog (CreateResult × Option Alert) := do
  match ← issue (.selectLatestAlert ruleId dedupeKey) with
  | none => insert ruleId alert dedupeKey
  | some (lastStatus, lastTriggeredAt) =>
      if lastStatus ≠ .RESOLVED then return (.SUPPRESSED_OPEN, none)
      else do
        let now ← issue .utcNow
        if now - lastTriggeredAt < seconds cooldownSeconds then
          return (.SUPPRESSED_COOLDOWN, none)
        else insert ruleId alert dedupeKey

/-- `AlertStore.due_for_escalation`. -/
def dueForEscalation (afterSeconds : ℤ) : Alerting.Prog (List Alert) := do
  let rows ← issue (.selectDueForEscalation afterSeconds)
  return rows.map Alert.ofRow

/-- `AlertStore.escalate`. -/
def escalate (alertId : Option AlertId) (newSeverity : Severity) : Alerting.Prog Unit :=
  issue (.escalateAlert alertId newSeverity)

/-- An alert of a key is due: the latest one, if any, is resolved and its cooldown is over, and
none is open. -/
abbrev Due (ruleId : String) (cooldownSeconds : ℤ) (dedupeKey : String) (w : World) : Prop :=
  (∀ last ∈ w.alerts.latest ruleId dedupeKey,
      last.status = .RESOLVED ∧ seconds cooldownSeconds ≤ w.now - last.triggeredAt)
    ∧ ∀ r ∈ w.alerts.rows, r.HasKey ruleId dedupeKey → r.status ≠ .OPEN

/-- The first alert of a key is due. -/
lemma due_of_latest_eq_none {ruleId dedupeKey : String} {w : World}
    (h : w.alerts.latest ruleId dedupeKey = none) (cooldownSeconds : ℤ) :
    Due ruleId cooldownSeconds dedupeKey w := by
  refine ⟨fun last hlast => ?_, fun r hr hkey => ?_⟩
  · rw [h] at hlast
    cases hlast
  · exact absurd hkey (AlertTable.latest_eq_none_iff.mp h r hr)

section Creation

variable {ruleId dedupeKey : String} {cooldownSeconds : ℤ} {w : World}

/-- While the latest alert of a key is unresolved, nothing is created. -/
lemma createIfDue_eval_suppressed {r : AlertRow}
    (hlatest : w.alerts.latest ruleId dedupeKey = some r) (hr : r.status ≠ .RESOLVED)
    (cooldownSeconds : ℤ) (alert : Alert) :
    (createIfDue ruleId cooldownSeconds alert dedupeKey).eval World.exec w
      = (.ok (.SUPPRESSED_OPEN, none), w) := by
  rw [createIfDue, Statement.Prog.bind_eq, Statement.Prog.eval_issue_bind]
  simp only [World.exec, hlatest, Option.map_some]
  rw [if_pos hr]
  rfl

/-- An alert that is due is created. -/
lemma createIfDue_eval_due (hdue : Due ruleId cooldownSeconds dedupeKey w) (alert : Alert) :
    (createIfDue ruleId cooldownSeconds alert dedupeKey).eval World.exec w
      = (.ok (.CREATED, some (alert.created w.alerts.nextId w.now)),
          { w with alerts := (w.alerts.insertAlert (alert.values ruleId dedupeKey) w.now).2 }) := by
  have hinsert : (insert ruleId alert dedupeKey).eval World.exec w
      = (.ok (.CREATED, some (alert.created w.alerts.nextId w.now)),
          { w with alerts := (w.alerts.insertAlert (alert.values ruleId dedupeKey) w.now).2 }) := by
    rw [insert, Statement.Prog.bind_eq, Statement.Prog.eval_issue_bind, World.exec,
      (AlertTable.insertAlert_of_none_open (v := alert.values ruleId dedupeKey) hdue.2 w.now).1]
    rfl
  rw [createIfDue, Statement.Prog.bind_eq, Statement.Prog.eval_issue_bind, World.exec]
  dsimp only
  cases hlatest : w.alerts.latest ruleId dedupeKey with
  | none => exact hinsert
  | some last =>
      obtain ⟨hresolved, hcooled⟩ := hdue.1 last hlatest
      dsimp only [Option.map_some]
      rw [if_neg (not_not_intro hresolved), Statement.Prog.bind_eq,
        Statement.Prog.eval_issue_bind, World.exec]
      dsimp only
      rw [if_neg (not_lt.mpr hcooled)]
      exact hinsert

/-- The first alert of a key is created. -/
lemma createIfDue_eval_created (hlatest : w.alerts.latest ruleId dedupeKey = none)
    (cooldownSeconds : ℤ) (alert : Alert) :
    (createIfDue ruleId cooldownSeconds alert dedupeKey).eval World.exec w
      = (.ok (.CREATED, some (alert.created w.alerts.nextId w.now)),
          { w with alerts := (w.alerts.insertAlert (alert.values ruleId dedupeKey) w.now).2 }) :=
  createIfDue_eval_due (due_of_latest_eq_none hlatest cooldownSeconds) alert

/-- An alert that is not due changes nothing. -/
lemma createIfDue_eval_not_due (hdue : ¬ Due ruleId cooldownSeconds dedupeKey w)
    (alert : Alert) :
    ∃ result, (createIfDue ruleId cooldownSeconds alert dedupeKey).eval World.exec w
      = (.ok (result, none), w) := by
  have hinsert : (∀ last ∈ w.alerts.latest ruleId dedupeKey,
        last.status = .RESOLVED ∧ seconds cooldownSeconds ≤ w.now - last.triggeredAt) →
      ∃ result, (insert ruleId alert dedupeKey).eval World.exec w = (.ok (result, none), w) := by
    intro hlatest
    rw [insert, Statement.Prog.bind_eq, Statement.Prog.eval_issue_bind, World.exec]
    rcases w.alerts.insertAlert_cases (alert.values ruleId dedupeKey) w.now with
      ⟨-, -, -, -, hclosed⟩ | ⟨h, -⟩
    · exact absurd ⟨hlatest, hclosed⟩ hdue
    · rw [h]
      exact ⟨.SUPPRESSED_OPEN, rfl⟩
  rw [createIfDue, Statement.Prog.bind_eq, Statement.Prog.eval_issue_bind, World.exec]
  dsimp only
  cases hlatest : w.alerts.latest ruleId dedupeKey with
  | none =>
      refine hinsert fun last hlast => ?_
      rw [hlatest] at hlast
      cases hlast
  | some last =>
      dsimp only [Option.map_some]
      split
      · exact ⟨.SUPPRESSED_OPEN, rfl⟩
      · rename_i hresolved
        rw [Statement.Prog.bind_eq, Statement.Prog.eval_issue_bind, World.exec]
        dsimp only
        split
        · exact ⟨.SUPPRESSED_COOLDOWN, rfl⟩
        · rename_i hcooled
          refine hinsert fun r hr => ?_
          rw [hlatest, Option.mem_some_iff] at hr
          exact hr ▸ ⟨not_not.mp hresolved, not_lt.mp hcooled⟩

end Creation

/-- Creation returns: it creates nothing and changes nothing, or creates the alert as a row. -/
lemma createIfDue_cases (ruleId : String) (cooldownSeconds : ℤ) (alert : Alert)
    (dedupeKey : String) (w : World) :
    (∃ result, (createIfDue ruleId cooldownSeconds alert dedupeKey).eval World.exec w
        = (.ok (result, none), w))
      ∨ ∃ t' : AlertTable, (createIfDue ruleId cooldownSeconds alert dedupeKey).eval World.exec w
          = (.ok (.CREATED, some (alert.created w.alerts.nextId w.now)), { w with alerts := t' })
        ∧ t'.rows = w.alerts.rows
          ++ [.opened (alert.values ruleId dedupeKey) w.now w.alerts.nextId] := by
  by_cases hdue : Due ruleId cooldownSeconds dedupeKey w
  · exact .inr ⟨_, createIfDue_eval_due hdue alert,
      (AlertTable.insertAlert_of_none_open (v := alert.values ruleId dedupeKey) hdue.2 w.now).2⟩
  · exact .inl (createIfDue_eval_not_due hdue alert)

end AlertStore

/-- `next_severity`: one rung up `_SEVERITY_LADDER`, if there is one. -/
def nextSeverity : Severity → Severity
  | .WARNING => .HIGH
  | .HIGH => .CRITICAL
  | .CRITICAL => .CRITICAL
  | .INFO => .INFO

end AlertService

end InduSense
