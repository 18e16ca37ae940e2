import InduSense.AlertService.Evaluation
import InduSense.Api.Handlers
import InduSense.Statement.Schedule

/-!
The events published about alerts, compared with the alerts.

* `Snapshot`: an event says of its alert what the row says.
* `Published`: the events added to the topic are snapshots of rows; `published_createAlert`: so they
  are when an alert is created.
* `escalateAll_eval`: the rows and the events of an escalation sweep, all at once.
* `Operation`, `Operation.run`: the operations on alerts, one after the other.
* `each_published_iff`: every event published in a run is a snapshot exactly when every alert that a
  sweep escalates has neither a rule, a factory nor a sensor.
* `escalated_without_rule`: an escalated alert, whose event names no rule.
-/

namespace InduSense

open Statement (EachStep)
open Statement.Prog (Ensures ensures_issue ensures_bind ensures_attempt ensures_ret eval_of_ensures)

namespace AlertService

/-- The event says what the row says; a `NULL` column is the empty string. -/
structure Snapshot (evt : AlertEvent) (row : AlertRow) : Prop where
  alertId : evt.alertId = some row.id
  organizationId : evt.organizationId = row.organizationId
  alertRuleId : evt.alertRuleId = row.alertRuleId
  factoryId : evt.factoryId = row.factoryId.getD ""
  machineId : evt.machineId = row.machineId.getD ""
  deviceId : evt.deviceId = row.deviceId.getD ""
  sensorId : evt.sensorId = row.sensorId.getD ""
  severity : evt.severity = row.severity
  status : evt.status = row.status
  title : evt.title = row.title
  description : evt.description = row.description
  escalationLevel : evt.escalationLevel = row.escalationLevel
  triggeredAt : evt.triggeredAt = some row.triggeredAt

/-- The events added to the topic are snapshots of rows. -/
def Published (w w' : World) : Prop :=
  ∀ e ∈ w'.alertsTopic.drop w.alertsTopic.length, ∃ row ∈ w'.alerts.rows, Snapshot e.2 row

lemma nullIfEmpty_getD (s : String) : (nullIfEmpty s).getD "" = s := by
  rw [nullIfEmpty]
  split
  · rename_i h
    exact h.symm
  · rfl

/-! ### The creation of an alert -/

/-- `Published`, with the events spelled out. -/
def Grown (w w' : World) : Prop :=
  ∃ l, w'.alertsTopic = w.alertsTopic ++ l ∧ ∀ e ∈ l, ∃ row ∈ w'.alerts.rows, Snapshot e.2 row

lemma Grown.published {w w' : World} (h : Grown w w') : Published w w' := by
  obtain ⟨l, htopic, hl⟩ := h
  intro e he
  rw [htopic, List.drop_left] at he
  exact hl e he

lemma Grown.refl (w : World) : Grown w w :=
  ⟨[], (List.append_nil _).symm, fun _ he => absurd he List.not_mem_nil⟩

/-- Later rows are added, and later events are snapshots. -/
lemma Grown.trans {w w' w'' : World} (h : Grown w w') (h' : Grown w' w'')
    (hrows : ∀ row ∈ w'.alerts.rows, row ∈ w''.alerts.rows) : Grown w w'' := by
  obtain ⟨l, htopic, hl⟩ := h
  obtain ⟨l', htopic', hl'⟩ := h'
  refine ⟨l ++ l', by rw [htopic', htopic, List.append_assoc], fun e he => ?_⟩
  rcases List.mem_append.mp he with he | he
  · obtain ⟨row, hrow, hsnap⟩ := hl e he
    exact ⟨row, hrows row hrow, hsnap⟩
  · exact hl' e he

/-- The statement publishes an event. -/
def publishes : Stmt → Bool
  | .publishAlert _ _ => true
  | _ => false

/-- The statement belongs to an announcement and publishes nothing. -/
def Quiet (c : Stmt) : Prop := c.announces = true ∧ publishes c = false

lemma exec_quiet {c : Stmt} (hc : Quiet c) (w : World) :
    (World.exec c w).2.alerts = w.alerts ∧ (World.exec c w).2.alertsTopic = w.alertsTopic
      ∧ (World.exec c w).2.now = w.now := by
  obtain ⟨halerts, -, hnow⟩ := exec_announces hc.1 w
  refine ⟨halerts, ?_, hnow⟩
  cases c with
  | publishAlert key evt => cases hc.2
  | selectActiveIncident machineId =>
      simp only [World.exec]
      split <;> rfl
  | _ => rfl

lemma eval_quiet {α : Type} {p : Alerting.Prog α} (hp : Ensures (fun _ c => Quiet c) p)
    (w : World) :
    (p.eval World.exec w).2.alerts = w.alerts
      ∧ (p.eval World.exec w).2.alertsTopic = w.alertsTopic
      ∧ (p.eval World.exec w).2.now = w.now := by
  refine eval_of_ensures
    (I := fun w' : World =>
      w'.alerts = w.alerts ∧ w'.alertsTopic = w.alertsTopic ∧ w'.now = w.now)
    (fun c s hc hs => ?_) hp ⟨rfl, rfl, rfl⟩
  obtain ⟨halerts, htopic, hnow⟩ := exec_quiet hc s
  exact ⟨halerts.trans hs.1, htopic.trans hs.2.1, hnow.trans hs.2.2⟩

lemma quiet_notifyAll (n : Notification) (providers : List NotificationProvider) :
    Ensures (fun _ c => Quiet c) (notifyAll n providers) := by
  induction providers with
  | nil => exact ensures_ret _
  | cons p providers ih =>
      exact ensures_bind (ensures_attempt (ensures_issue fun _ => ⟨rfl, rfl⟩)) fun _ => ih

lemma quiet_openOrAttachIncident (alert : Alert) :
    Ensures (fun _ c => Quiet c) (openOrAttachIncident alert) := by
  refine ensures_bind (ensures_attempt (Incidents.Store.ensures_openOrAttach fun _ c hc => ?_))
    fun _ => ensures_ret _
  refine ⟨Stmt.announces_of_links hc, ?_⟩
  cases c with
  | publishAlert key evt => cases hc
  | _ => rfl

/-- What an announcement publishes. -/
lemma publishAndNotify_published (providers : List NotificationProvider) (a : Alert)
    (ruleId : String) (eventType : AlertEventType) (isEscalation : Bool) (w : World) :
    ∃ w', (publishAndNotify providers a ruleId eventType isEscalation).eval World.exec w
        = (.ok (), w')
      ∧ w'.alerts = w.alerts ∧ w'.now = w.now
      ∧ w'.alertsTopic = w.alertsTopic ++ [(a.deviceId, alertEvent a ruleId eventType w.now)] := by
  obtain ⟨halerts, htopic, hnow⟩ := eval_quiet
    (quiet_notifyAll (notification a isEscalation) providers)
    { w with alertsTopic :=
      w.alertsTopic ++ [(a.deviceId, alertEvent a ruleId eventType w.now)] }
  refine ⟨_, Prod.ext (publishAndNotify_eval providers a ruleId eventType isEscalation w) rfl,
    ?_, ?_, ?_⟩
  · exact halerts
  · exact hnow
  · exact htopic

/-- The event of a new alert is a snapshot of its row. -/
lemma snapshot_created {alert : Alert} (hlevel : alert.escalationLevel = 0)
    (ruleId dedupeKey : String) (id : AlertId) (now timestamp : Time) :
    Snapshot (alertEvent (alert.created id now) ruleId .CREATED timestamp)
      (.opened (alert.values ruleId dedupeKey) now id) where
  alertId := rfl
  organizationId := rfl
  alertRuleId := rfl
  factoryId := (nullIfEmpty_getD _).symm
  machineId := (nullIfEmpty_getD _).symm
  deviceId := (nullIfEmpty_getD _).symm
  sensorId := (nullIfEmpty_getD _).symm
  severity := rfl
  status := rfl
  title := rfl
  description := rfl
  escalationLevel := hlevel
  triggeredAt := rfl

section Creation

variable (cfg : Config) (providers : List NotificationProvider) (payload : String)

/-- Creating an alert adds its row, and its event, and touches no other row. -/
lemma grown_createAlert (rule : AlertRule) {alert : Alert} (hlevel : alert.escalationLevel = 0)
    (dedupeKey correlationId sourceTopic : String) (w : World) :
    ∃ w', (createAlert providers rule alert dedupeKey payload correlationId sourceTopic).eval
        World.exec w = (.ok none, w')
      ∧ Grown w w' ∧ ∀ row ∈ w.alerts.rows, row ∈ w'.alerts.rows := by
  rw [createAlert, Statement.Prog.bind_eq, Statement.Prog.eval_bind, Statement.Prog.eval_attempt]
  rcases AlertStore.createIfDue_cases rule.id rule.cooldownSeconds alert dedupeKey w with
    ⟨result, heval⟩ | ⟨t', heval, hrows⟩
  · rw [heval]
    cases result <;> exact ⟨w, rfl, .refl w, fun _ h => h⟩
  · rw [heval]
    dsimp only
    set created := alert.created w.alerts.nextId w.now
    obtain ⟨halerts₁, htopic₁, hnow₁⟩ :=
      eval_quiet (quiet_openOrAttachIncident created) { w with alerts := t' }
    have hopen : (openOrAttachIncident created).eval World.exec { w with alerts := t' }
        = (.ok (), ((openOrAttachIncident created).eval World.exec { w with alerts := t' }).2) :=
      Prod.ext (openOrAttachIncident_eval created _) rfl
    rw [Statement.Prog.bind_eq, Statement.Prog.eval_bind_of_ok World.exec hopen]
    obtain ⟨w', hpub, halerts, -, htopic⟩ := publishAndNotify_published providers created rule.id
      .CREATED false ((openOrAttachIncident created).eval World.exec { w with alerts := t' }).2
    have hrows' : w'.alerts.rows = w.alerts.rows
        ++ [.opened (alert.values rule.id dedupeKey) w.now w.alerts.nextId] := by
      rw [halerts, halerts₁]
      exact hrows
    have hgrown : Grown w w' := by
      refine ⟨_, htopic.trans (congrArg (fun l => l ++ _) htopic₁), fun e he => ?_⟩
      obtain rfl := List.mem_singleton.mp he
      refine ⟨_, ?_, snapshot_created hlevel rule.id dedupeKey w.alerts.nextId w.now _⟩
      rw [hrows']
      exact List.mem_append_right _ (List.mem_singleton.mpr rfl)
    refine ⟨w', Statement.Prog.eval_bind_of_ok World.exec hpub _, hgrown, ?_⟩
    intro row hrow
    rw [hrows']
    exact List.mem_append_left _ hrow

/-- A round of the loop over rules. -/
lemma grown_evaluateRule (anomaly : AnomalyDetected ℚ) (rule : AlertRule) (w : World) :
    ∃ w', (evaluateRule cfg providers payload anomaly rule).eval World.exec w = (.ok none, w')
      ∧ Grown w w' ∧ ∀ row ∈ w.alerts.rows, row ∈ w'.alerts.rows := by
  rcases evaluateRule_eval_cases cfg providers payload rule anomaly w with
    ⟨-, heval⟩ | ⟨-, heval⟩
  · obtain ⟨w', hcreate, hgrown, hrows⟩ := grown_createAlert providers payload
      rule (show (anomalyAlert rule anomaly).escalationLevel = 0 from rfl)
      (anomalyDedupeKey anomaly) anomaly.eventId cfg.topicAnomalies { w with
        counter := if InScope rule anomaly then (recorded rule anomaly w.counter).2 else w.counter }
    exact ⟨w', heval.trans hcreate, hgrown, hrows⟩
  · exact ⟨_, heval, .refl w, fun _ h => h⟩

/-- The loop over rules. -/
lemma grown_evaluateRules (anomaly : AnomalyDetected ℚ) (rs : List AlertRule) (w : World) :
    Grown w ((evaluateRules cfg providers payload anomaly rs).eval World.exec w).2
      ∧ ∀ row ∈ w.alerts.rows, row ∈ ((evaluateRules cfg providers payload anomaly rs).eval
          World.exec w).2.alerts.rows := by
  induction rs generalizing w with
  | nil => exact ⟨.refl w, fun _ h => h⟩
  | cons rule rest ih =>
      obtain ⟨w₁, heval, hgrown, hrows⟩ :=
        grown_evaluateRule cfg providers payload anomaly rule w
      rw [evaluateRules, Statement.Prog.bind_eq, Statement.Prog.eval_bind, heval]
      obtain ⟨hgrown', hrows'⟩ := ih w₁
      exact ⟨hgrown.trans hgrown' hrows', fun row hrow => hrows' row (hrows row hrow)⟩

/-- A message that is dead-lettered publishes nothing. -/
lemma grown_dlqOrHold (cause : PyError) (stage correlationId sourceTopic : String) (w : World) :
    Grown w ((dlqOrHold payload cause stage correlationId sourceTopic).eval World.exec w).2 := by
  have hquiet : Ensures (fun _ c => Quiet c)
      (dlqOrHold payload cause stage correlationId sourceTopic) := by
    refine ensures_bind (ensures_attempt (ensures_bind (ensures_issue fun _ => ⟨rfl, rfl⟩)
      fun _ => ensures_issue fun _ => ⟨rfl, rfl⟩)) fun r => ?_
    cases r with
    | ok a => exact ensures_ret _
    | error e => exact ensures_ret _
  obtain ⟨-, htopic, -⟩ := eval_quiet hquiet w
  exact ⟨[], htopic.trans (List.append_nil _).symm, fun _ he => absurd he List.not_mem_nil⟩

end Creation

/-! ### The escalation sweep -/

/-- The alert is raised by a rung. -/
abbrev Raisable (r : AlertRow) : Prop := nextSeverity r.severity ≠ r.severity

/-- The row of an alert the sweep escalates. -/
def raisedRow (now : Time) (r : AlertRow) : AlertRow :=
  r.escalated (some r.id) (nextSeverity r.severity) now

/-- The event the sweep publishes for an alert. -/
def raisedEvent (now : Time) (r : AlertRow) : AlertEvent :=
  alertEvent { Alert.ofRow r with
      severity := nextSeverity r.severity, escalationLevel := r.escalationLevel + 1 }
    "" .ESCALATED now

/-- The rows after the candidates `rs` have been escalated. -/
def raisedRows (rs : List AlertRow) (now : Time) (r : AlertRow) : AlertRow :=
  if r ∈ rs ∧ Raisable r then raisedRow now r else r

/-- One round of the loop over candidates. -/
lemma escalateAll_cons (providers : List NotificationProvider) {r : AlertRow} (hraised : Raisable r)
    (candidates : List Alert) (w : World) :
    ∃ w', (escalateAll providers (Alert.ofRow r :: candidates)).eval World.exec w
        = (escalateAll providers candidates).eval World.exec w'
      ∧ w'.alerts.rows
        = w.alerts.rows.map (.escalated (some r.id) (nextSeverity r.severity) w.now)
      ∧ w'.now = w.now
      ∧ w'.alertsTopic = w.alertsTopic ++ [(r.deviceId.getD "", raisedEvent w.now r)] := by
  obtain ⟨w', hpub, halerts, hnow, htopic⟩ := publishAndNotify_published providers
    { Alert.ofRow r with
      severity := nextSeverity r.severity, escalationLevel := r.escalationLevel + 1 } "" .ESCALATED
    true { w with alerts := w.alerts.escalateAlert (some r.id) (nextSeverity r.severity) w.now }
  refine ⟨w', ?_, ?_, hnow, htopic⟩
  · have hraised' : ¬ nextSeverity (Alert.ofRow r).severity = (Alert.ofRow r).severity := hraised
    rw [escalateAll, if_neg hraised']
    show Statement.Prog.eval _ (Statement.Prog.bind _ _) w = _
    rw [Statement.Prog.eval_attempt_bind, AlertStore.escalate, Statement.Prog.eval_issue]
    exact Statement.Prog.eval_bind_of_ok World.exec hpub _
  · rw [halerts]
    exact (AlertTable.escalateAlert_rows ..).1

/-- The rows after a candidate has been escalated, and then the others. -/
lemma raisedRows_cons {rest : List AlertRow} {r : AlertRow} (hne : ∀ x ∈ rest, x.id ≠ r.id)
    (hraised : Raisable r) (now : Time) {x : AlertRow} (hx : x.id = r.id → x = r) :
    raisedRows rest now (x.escalated (some r.id) (nextSeverity r.severity) now)
      = raisedRows (r :: rest) now x := by
  by_cases hid : x.id = r.id
  · obtain rfl := hx hid
    have hgone : x.escalated (some x.id) (nextSeverity x.severity) now ∉ rest :=
      fun h => hne _ h (AlertRow.escalated_id ..)
    rw [raisedRows, if_neg fun h => hgone h.1, raisedRows, if_pos ⟨List.mem_cons_self, hraised⟩]
    rfl
  · rw [AlertRow.escalated_of_ne fun h => hid (Option.some.inj h), raisedRows, raisedRows]
    refine if_congr (and_congr_left fun _ => ?_) rfl rfl
    rw [List.mem_cons]
    exact ⟨.inr, fun h => h.resolve_left fun h => hid (h ▸ rfl)⟩

/-- A candidate that cannot be raised changes no row. -/
lemma raisedRows_cons_of_not {rest : List AlertRow} {r : AlertRow} (hraised : ¬ Raisable r)
    (now : Time) (x : AlertRow) : raisedRows rest now x = raisedRows (r :: rest) now x := by
  rw [raisedRows, raisedRows]
  refine if_congr (and_congr_left fun hx => ?_) rfl rfl
  rw [List.mem_cons]
  exact ⟨.inr, fun h => h.resolve_left fun h => hraised (h ▸ hx)⟩

/-- **The sweep, all at once**: each candidate that can be raised is, in its row and by an event. -/
lemma escalateAll_eval (providers : List NotificationProvider) (rs : List AlertRow) (w : World)
    (hrs : ∀ r ∈ rs, r ∈ w.alerts.rows) (hnodup : (rs.map AlertRow.id).Nodup) :
    ∃ w', (escalateAll providers (rs.map Alert.ofRow)).eval World.exec w = (.ok (), w')
      ∧ w'.alerts.rows = w.alerts.rows.map (raisedRows rs w.now)
      ∧ w'.alertsTopic = w.alertsTopic ++ (rs.filter fun r => Raisable r).map fun r =>
        (r.deviceId.getD "", raisedEvent w.now r) := by
  induction rs generalizing w with
  | nil =>
      refine ⟨w, rfl, ?_, (List.append_nil _).symm⟩
      refine ((List.map_congr_left fun r _ => if_neg ?_).trans (List.map_id _)).symm
      exact fun h => List.not_mem_nil h.1
  | cons r rest ih =>
      rw [List.map_cons, List.nodup_cons] at hnodup
      obtain ⟨hnew, hnodup⟩ := hnodup
      have hr : r ∈ w.alerts.rows := hrs r List.mem_cons_self
      have hrest : ∀ x ∈ rest, x ∈ w.alerts.rows := fun x hx => hrs x (List.mem_cons_of_mem _ hx)
      have hne : ∀ x ∈ rest, x.id ≠ r.id := fun x hx h => hnew (h ▸ List.mem_map_of_mem hx)
      rw [List.map_cons]
      by_cases hraised : Raisable r
      · obtain ⟨w₁, hround, hrows₁, hnow, htopic₁⟩ :=
          escalateAll_cons providers hraised (rest.map Alert.ofRow) w
        have hrest₁ : ∀ x ∈ rest, x ∈ w₁.alerts.rows := by
          intro x hx
          have hkept := AlertRow.escalated_of_ne (r := x) (fun h => hne x hx (Option.some.inj h))
            (nextSeverity r.severity) w.now
          rw [hrows₁, ← hkept]
          exact List.mem_map_of_mem (hrest x hx)
        obtain ⟨w', heval, hrows, htopic⟩ := ih w₁ hrest₁ hnodup
        refine ⟨w', hround.trans heval, ?_, ?_⟩
        · rw [hrows, hrows₁, List.map_map, hnow]
          exact List.map_congr_left fun x hx =>
            raisedRows_cons hne hraised w.now (w.alerts.eq_of_id_eq hx hr)
        · rw [htopic, htopic₁, hnow, List.filter_cons_of_pos (by simpa using hraised),
            List.map_cons, List.append_assoc]
          rfl
      · have hsame : nextSeverity (Alert.ofRow r).severity = (Alert.ofRow r).severity :=
          not_not.mp hraised
        obtain ⟨w', heval, hrows, htopic⟩ := ih w hrest hnodup
        refine ⟨w', ?_, ?_, ?_⟩
        · rw [← heval, escalateAll]
          exact congrArg (fun p => Statement.Prog.eval World.exec p w) (if_pos hsame)
        · rw [hrows]
          exact List.map_congr_left fun x _ => raisedRows_cons_of_not hraised w.now x
        · rw [htopic, List.filter_cons_of_neg (by simpa using hraised)]

/-- A row whose columns the sweep does not read are empty. -/
def Bare (r : AlertRow) : Prop :=
  r.alertRuleId = "" ∧ r.factoryId.getD "" = "" ∧ r.sensorId.getD "" = ""

/-- The event of a sweep is a snapshot of the row exactly when the row has no rule, no factory and
no sensor: `due_for_escalation` does not select them. -/
lemma snapshot_raised_iff {r : AlertRow} (hopen : r.status = .OPEN) (now : Time) :
    Snapshot (raisedEvent now r) (raisedRow now r) ↔ Bare r := by
  rw [raisedRow, AlertRow.escalated_of_eq rfl]
  constructor
  · intro h
    exact ⟨h.alertRuleId.symm, h.factoryId.symm, h.sensorId.symm⟩
  · rintro ⟨hrule, hfactory, hsensor⟩
    exact ⟨rfl, rfl, hrule.symm, hfactory.symm, rfl, rfl, hsensor.symm, rfl, hopen.symm, rfl, rfl,
      rfl, rfl⟩

/-- The alerts that a sweep escalates. -/
def Escalates (w : World) (cfg : Config) (r : AlertRow) : Prop :=
  r ∈ w.alerts.rows ∧ r.Due w.now cfg.escalationAfterSeconds ∧ Raisable r

/-- **A sweep publishes snapshots** exactly when the alerts it escalates are bare. -/
lemma published_sweep_iff (cfg : Config) (providers : List NotificationProvider) (w : World) :
    Published w ((escalationSweep cfg providers).eval World.exec w).2
      ↔ ∀ r, Escalates w cfg r → Bare r := by
  set due := w.alerts.rows.filter fun r => r.Due w.now cfg.escalationAfterSeconds with hdue
  have hmem : ∀ r, r ∈ due ↔ r ∈ w.alerts.rows ∧ r.Due w.now cfg.escalationAfterSeconds := by
    intro r
    rw [hdue, List.mem_filter, decide_eq_true_eq]
  have hnodup : (due.map AlertRow.id).Nodup :=
    w.alerts.ids_nodup.sublist (List.filter_sublist.map _)
  obtain ⟨w', heval, hrows, htopic⟩ :=
    escalateAll_eval providers due w (fun r hr => ((hmem r).mp hr).1) hnodup
  have hsweep : (escalationSweep cfg providers).eval World.exec w = (.ok (), w') := heval
  have hpublished : w'.alertsTopic.drop w.alertsTopic.length
      = (due.filter fun r => Raisable r).map fun r =>
        (r.deviceId.getD "", raisedEvent w.now r) := by
    rw [htopic, List.drop_left]
  have hraised : ∀ r, Escalates w cfg r → raisedRow w.now r ∈ w'.alerts.rows := by
    rintro r ⟨hr, hd, hup⟩
    rw [hrows]
    refine List.mem_map.mpr ⟨r, hr, ?_⟩
    rw [raisedRows, if_pos ⟨(hmem r).mpr ⟨hr, hd⟩, hup⟩]
  rw [hsweep, Published, hpublished]
  constructor
  · intro hall r hr
    have hevent : (r.deviceId.getD "", raisedEvent w.now r) ∈
        (due.filter fun r => Raisable r).map fun r =>
          (r.deviceId.getD "", raisedEvent w.now r) :=
      List.mem_map_of_mem (List.mem_filter.mpr ⟨(hmem r).mpr ⟨hr.1, hr.2.1⟩, decide_eq_true hr.2.2⟩)
    obtain ⟨row, hrow, hsnap⟩ := hall _ hevent
    -- The row with the id of the event is the one that was escalated.
    have hid : row.id = (raisedRow w.now r).id :=
      (Option.some.inj hsnap.alertId).symm.trans (AlertRow.escalated_id ..).symm
    rw [w'.alerts.eq_of_id_eq hrow (hraised r hr) hid] at hsnap
    exact (snapshot_raised_iff hr.2.1.1 w.now).mp hsnap
  · intro hbare e he
    obtain ⟨r, hr, rfl⟩ := List.mem_map.mp he
    obtain ⟨hr, hup⟩ := List.mem_filter.mp hr
    obtain ⟨hr, hd⟩ := (hmem r).mp hr
    have hesc : Escalates w cfg r := ⟨hr, hd, of_decide_eq_true hup⟩
    exact ⟨_, hraised r hesc, (snapshot_raised_iff hd.1 w.now).mpr (hbare r hesc)⟩

/-! ### Runs -/

/-- The operations on alerts: the two message handlers, with the rules cached at the time, the
acknowledgement of an alert by a user, and the sweep. -/
inductive Operation (Payload : Type) where
  | anomaly (rules : RuleCache) (codec : Codec Payload (AnomalyDetected ℚ)) (msg : Payload)
  | deviceEvent (rules : RuleCache) (codec : Codec Payload NormalizedMachineEvent) (msg : Payload)
  | acknowledge (id : AlertId) (claims : Api.Claims)
  | sweep

/-- An operation, `elapsed` microseconds after the one before it. -/
structure Task (Payload : Type) where
  elapsed : ℕ
  operation : Operation Payload

section Runs

variable {Payload : Type} (cfg : Config) (providers : List NotificationProvider)

/-- The world after an operation. -/
def Operation.run (w : World) : Operation Payload → World
  | anomaly rules codec msg => ((processAnomaly cfg rules providers codec msg).eval World.exec w).2
  | deviceEvent rules codec msg =>
      ((processDeviceEvent cfg rules providers codec msg).eval World.exec w).2
  | acknowledge id claims => ((Api.acknowledgeAlert id claims).eval World.exec w).2
  | sweep => ((escalationSweep cfg providers).eval World.exec w).2

/-- The world after an operation and the time before it. -/
def Task.run (w : World) (t : Task Payload) : World :=
  t.operation.run cfg providers (w.tick t.elapsed)

/-- If the operation is a sweep, the alerts it escalates have no rule, no factory and no sensor. -/
def Task.Bare (w : World) (t : Task Payload) : Prop :=
  match t.operation with
  | .sweep => ∀ r, Escalates (w.tick t.elapsed) cfg r → AlertService.Bare r
  | _ => True

variable {cfg providers}

lemma published_anomaly (rules : RuleCache) (codec : Codec Payload (AnomalyDetected ℚ))
    (msg : Payload) (w : World) :
    Published w ((processAnomaly cfg rules providers codec msg).eval World.exec w).2 := by
  rw [processAnomaly]
  cases codec.parse msg with
  | error exc => exact (grown_dlqOrHold _ exc _ _ _ w).published
  | ok anomaly => exact (grown_evaluateRules cfg providers _ anomaly _ w).1.published

lemma published_deviceEvent (rules : RuleCache) (codec : Codec Payload NormalizedMachineEvent)
    (msg : Payload) (w : World) :
    Published w ((processDeviceEvent cfg rules providers codec msg).eval World.exec w).2 := by
  rw [processDeviceEvent]
  cases codec.parse msg with
  | error exc => exact (grown_dlqOrHold _ exc _ _ _ w).published
  | ok evt =>
      dsimp only
      split
      · exact (Grown.refl w).published
      · split
        · exact (Grown.refl w).published
        · rename_i rule _ _
          obtain ⟨w', heval, hgrown, -⟩ := grown_createAlert providers (codec.text msg) rule
            (show (shutdownAlert rule evt).escalationLevel = 0 from rfl)
            ("shutdown:" ++ evt.machineId) evt.correlationId cfg.topicDeviceEvents w
          rw [Statement.Prog.bind_eq, Statement.Prog.eval_bind_of_ok World.exec heval]
          exact hgrown.published

/-- An acknowledgement publishes nothing. -/
lemma published_acknowledge (id : AlertId) (claims : Api.Claims) (w : World) :
    Published w ((Api.acknowledgeAlert id claims).eval World.exec w).2 := by
  have htopic : ((Api.acknowledgeAlert id claims).eval World.exec w).2.alertsTopic
      = w.alertsTopic := by
    rw [Api.acknowledgeAlert, Statement.Prog.bind_eq, Statement.Prog.eval_issue_bind, World.exec]
    dsimp only
    split <;> rfl
  intro e he
  rw [htopic, List.drop_length] at he
  exact absurd he List.not_mem_nil

/-- **Every event is a full snapshot.** In a run of message handlings, acknowledgements and sweeps
that do not overlap, from any tables, every event an operation publishes is a snapshot of its row
after the operation if and only if every alert a sweep escalates has no rule, no factory and no
sensor. -/
theorem each_published_iff (cfg : Config) (providers : List NotificationProvider)
    (tasks : List (Task Payload)) (w : World) :
    EachStep (Task.run cfg providers)
        (fun w t => Published (w.tick t.elapsed) (t.run cfg providers w)) tasks w
      ↔ EachStep (Task.run cfg providers) (fun w t => t.Bare cfg w) tasks w := by
  refine Statement.eachStep_congr (J := fun _ => True) (fun _ _ _ => trivial)
    (fun w t _ => ?_) trivial
  obtain ⟨elapsed, operation⟩ := t
  cases operation with
  | anomaly rules codec msg => exact iff_of_true (published_anomaly rules codec msg _) trivial
  | deviceEvent rules codec msg =>
      exact iff_of_true (published_deviceEvent rules codec msg _) trivial
  | acknowledge id claims => exact iff_of_true (published_acknowledge id claims _) trivial
  | sweep => exact published_sweep_iff cfg providers (w.tick elapsed)

end Runs

/-! ### An escalated alert -/

/-- The rule `r`, on a bearing temperature above 80. -/
def bearingRule : AlertRule where
  id := "r"
  organizationId := "org"
  name := "bearing too hot"
  metric := "temperature"
  condition := .GREATER_THAN
  thresholdValue := some 80
  severity := .WARNING

/-- A bearing is too hot. -/
def hotBearing : AnomalyDetected ℚ where
  anomalyId := "a"
  eventId := "e"
  organizationId := "org"
  factoryId := "f"
  productionLineId := "l"
  machineId := "m1"
  deviceId := "d"
  sensorId := "s"
  metric := "temperature"
  value := 95
  severity := .HIGH
  score := 1
  methods := ["STATISTICAL"]
  reason := "temperature above normal"
  detectedAt := 0

/-- The anomaly raises an alert. -/
def bearingTask : Task (AnomalyDetected ℚ) :=
  ⟨0, .anomaly ⟨[bearingRule], List.nodup_singleton _⟩ (.plain "") hotBearing⟩

/-- **An event that names no rule**, no factory and no sensor: nobody attends to the alert for
twenty minutes, and it is escalated. -/
theorem escalated_without_rule :
    ¬ ∀ (cfg : Config) (providers : List NotificationProvider)
      (tasks : List (Task (AnomalyDetected ℚ))),
      EachStep (Task.run cfg providers)
        (fun w t => Published (w.tick t.elapsed) (t.run cfg providers w)) tasks .empty := by
  intro h
  have hbare := (published_sweep_iff .default [] _).mp
    (h .default [] [bearingTask, ⟨1200000000, .sweep⟩]).2.1
  obtain ⟨r, hr, hdue, hup, hrule⟩ :
      ∃ r ∈ (bearingTask.run .default [] .empty).alerts.rows,
        r.Due 1200000000 900 ∧ Raisable r ∧ r.alertRuleId = "r" := by
    decide +kernel
  have hempty := (hbare r ⟨hr, hdue, hup⟩).1
  exact absurd (hrule.symm.trans hempty) (by decide)

end AlertService

end InduSense
