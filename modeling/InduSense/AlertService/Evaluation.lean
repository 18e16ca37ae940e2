import InduSense.Alerting.Muting

/-!
The evaluation of the rules on an anomaly.

* `createAlert_eval_due`, `createAlert_eval_not_due`: an alert that is due becomes a row, and one
  that is not changes nothing.
* `activeSeverity`, `linkedTo`: the severity that alerts leave on the incident of their machine.
* `Opens`, `Turn`, `evaluateRule_turn`: what one round of the loop over rules does, on any database.
* `Round`, `Rounds`, `evaluateRules_eval`: the loop, round by round, on a database the system can
  reach.
-/

namespace InduSense

open Statement.Prog (Ensures)

namespace AlertService

/-! ### Announcement and creation -/

/-- Announcements change neither the alerts nor the counter nor the clock. -/
lemma exec_announces {c : Stmt} (hc : c.announces = true) (w : World) :
    (World.exec c w).2.alerts = w.alerts ∧ (World.exec c w).2.counter = w.counter
      ∧ (World.exec c w).2.now = w.now := by
  cases c with
  | selectActiveIncident machineId =>
      simp only [World.exec]
      split
      · exact ⟨rfl, rfl, rfl⟩
      · exact ⟨rfl, rfl, rfl⟩
  | insertIncident v => exact ⟨rfl, rfl, rfl⟩
  | insertIncidentEvent v => exact ⟨rfl, rfl, rfl⟩
  | utcNow => exact ⟨rfl, rfl, rfl⟩
  | publishAlert key evt => exact ⟨rfl, rfl, rfl⟩
  | send provider n => exact ⟨rfl, rfl, rfl⟩
  | produceDeadLetter key record => exact ⟨rfl, rfl, rfl⟩
  | _ => cases hc

/-- Neither do programs that make nothing else. -/
lemma eval_announces {α : Type} {p : Alerting.Prog α}
    (hp : Ensures (fun _ (c : Stmt) => c.announces = true) p) (w : World) :
    (p.eval World.exec w).2.alerts = w.alerts ∧ (p.eval World.exec w).2.counter = w.counter
      ∧ (p.eval World.exec w).2.now = w.now := by
  refine Statement.Prog.eval_of_ensures
    (I := fun w' : World => w'.alerts = w.alerts ∧ w'.counter = w.counter ∧ w'.now = w.now)
    (fun c s hc hs => ?_) hp ⟨rfl, rfl, rfl⟩
  obtain ⟨ha, hcnt, hnow⟩ := exec_announces hc s
  exact ⟨ha.trans hs.1, hcnt.trans hs.2.1, hnow.trans hs.2.2⟩

/-- Linking returns, whatever the incidents are. -/
lemma openOrAttachIncident_eval (alert : Alert) (w : World) :
    ((openOrAttachIncident alert).eval World.exec w).1 = .ok () := by
  rw [openOrAttachIncident, Statement.Prog.bind_eq, Statement.Prog.eval_bind,
    Statement.Prog.eval_attempt]
  rfl

/-- Announcing returns, whatever becomes of the notifications. -/
lemma publishAndNotify_eval (providers : List NotificationProvider) (a : Alert) (ruleId : String)
    (eventType : AlertEventType) (isEscalation : Bool) (w : World) :
    ((publishAndNotify providers a ruleId eventType isEscalation).eval World.exec w).1
      = .ok () := by
  have hnotify : ∀ w, ((notifyAll (notification a isEscalation) providers).eval World.exec w).1
      = .ok () := by
    induction providers with
    | nil => exact fun w => rfl
    | cons p providers ih => exact fun w => ih _
  exact hnotify _

/-- Announcing an alert leaves the incidents. -/
lemma publishAndNotify_incidents (providers : List NotificationProvider) (a : Alert)
    (ruleId : String) (eventType : AlertEventType) (isEscalation : Bool) (w : World) :
    ((publishAndNotify providers a ruleId eventType isEscalation).eval World.exec w).2.incidents
      = w.incidents := by
  have hnotify : ∀ w, ((notifyAll (notification a isEscalation) providers).eval World.exec
      w).2.incidents = w.incidents := by
    induction providers with
    | nil => exact fun w => rfl
    | cons p providers ih => exact fun w => ih _
  exact hnotify _

/-- What a created alert leads to leaves the alerts, the counter and the clock as they are, and the
incidents as its link does. -/
lemma announcement_eval (providers : List NotificationProvider) (created : Alert)
    (ruleId : String) (w : World) :
    ∃ w', (((openOrAttachIncident created).bind fun _ =>
          (publishAndNotify providers created ruleId .CREATED false).bind fun _ =>
            Statement.Prog.ret (none : Option Bool)).eval World.exec w) = (.ok none, w')
      ∧ w'.alerts = w.alerts ∧ w'.counter = w.counter ∧ w'.now = w.now
      ∧ w'.incidents = ((openOrAttachIncident created).eval World.exec w).2.incidents := by
  set w₁ := ((openOrAttachIncident created).eval World.exec w).2
  have hopen : (openOrAttachIncident created).eval World.exec w = (.ok (), w₁) :=
    Prod.ext (openOrAttachIncident_eval created w) rfl
  obtain ⟨ha, hc, hn⟩ :=
    eval_announces (@ensures_openOrAttachIncident _ (fun _ _ h => h) created) w
  set w₂ := ((publishAndNotify providers created ruleId .CREATED false).eval World.exec w₁).2
  have hpublish : (publishAndNotify providers created ruleId .CREATED false).eval World.exec w₁
      = (.ok (), w₂) :=
    Prod.ext (publishAndNotify_eval ..) rfl
  obtain ⟨ha', hc', hn'⟩ := eval_announces (@ensures_publishAndNotify _ (fun _ _ h => h) providers
    created ruleId .CREATED false) w₁
  refine ⟨w₂, ?_, ha'.trans ha, hc'.trans hc, hn'.trans hn,
    publishAndNotify_incidents providers created ruleId .CREATED false w₁⟩
  rw [Statement.Prog.eval_bind_of_ok World.exec hopen,
    Statement.Prog.eval_bind_of_ok World.exec hpublish]
  rfl

/-! ### The incident of a machine -/

/-- The severity of the active incident of a machine, if it has one. -/
def activeSeverity (w : World) (machineId : String) : Option Severity :=
  (w.incidents.activeFor machineId).map IncidentRow.severity

/-- The severity that alerts of a machine leave on its incident, the first of them being of
severity `opened`: an active incident keeps its own, and without a machine there is no incident. -/
def linkedTo (machineId : String) (active opened : Option Severity) : Option Severity :=
  if machineId = "" then active else active.or opened

@[simp] lemma linkedTo_none (machineId : String) (active : Option Severity) :
    linkedTo machineId active none = active := by
  rw [linkedTo, Option.or_none, ite_self]

lemma linkedTo_linkedTo (machineId : String) (active first second : Option Severity) :
    linkedTo machineId (linkedTo machineId active first) second
      = linkedTo machineId active (first.or second) := by
  rw [linkedTo, linkedTo, linkedTo]
  split
  · rfl
  · rw [Option.or_assoc]

/-- Two severities are left alike when the alerts have no say, or say the same. -/
lemma linkedTo_eq_iff {machineId : String} {active first second : Option Severity} :
    linkedTo machineId active first = linkedTo machineId active second
      ↔ machineId = "" ∨ active.isSome ∨ first = second := by
  rw [linkedTo, linkedTo]
  by_cases hm : machineId = ""
  · simp [hm]
  · rw [if_neg hm, if_neg hm]
    cases active with
    | none => simp [hm]
    | some severity => simp

/-- Linking an alert leaves the incidents, or opens one for a machine without an active one. -/
lemma openOrAttach_incidents (alert : Incidents.AlertRef) (w : World) :
    (((Incidents.Store.openOrAttach alert).eval World.exec w).2.incidents = w.incidents
        ∧ (alert.machineId = "" ∨ (activeSeverity w alert.machineId).isSome))
      ∨ (((Incidents.Store.openOrAttach alert).eval World.exec w).2.incidents.rows
          = w.incidents.rows
            ++ [.opened (Incidents.Store.newIncident alert) w.now w.incidents.nextId]
        ∧ alert.machineId ≠ "" ∧ w.incidents.activeFor alert.machineId = none) := by
  rw [Incidents.Store.openOrAttach, Statement.Prog.bind_eq, Statement.Prog.eval_issue_bind]
  by_cases hm : alert.machineId = ""
  · have hsel : World.exec (.selectActiveIncident alert.machineId) w
        = (.error ⟨.external, "invalid input syntax for type uuid: \"\""⟩, w) := if_pos hm
    rw [hsel]
    exact .inl ⟨rfl, .inl hm⟩
  · have hsel : World.exec (.selectActiveIncident alert.machineId) w
        = (.ok ((w.incidents.activeFor alert.machineId).map IncidentRow.id), w) := if_neg hm
    rw [hsel]
    dsimp only
    cases hactive : w.incidents.activeFor alert.machineId with
    | some inc =>
        refine .inl ⟨rfl, .inr ?_⟩
        rw [activeSeverity, hactive]
        rfl
    | none =>
        refine .inr ⟨?_, hm, rfl⟩
        dsimp only [Option.map_none]
        rw [Statement.Prog.bind_eq, Statement.Prog.eval_issue_bind, World.exec]
        rcases w.incidents.insertIncident_cases (Incidents.Store.newIncident alert) w.now with
          ⟨t', ht', hrows⟩ | ⟨-, inc, hinc, hact⟩
        · rw [ht']
          exact hrows
        · -- Without an active incident there is nothing to lose the race to.
          have hmachine : (Incidents.Store.newIncident alert).machineId = some alert.machineId :=
            if_neg hm
          rw [hmachine] at hact
          exact absurd hact (IncidentTable.activeFor_eq_none_iff.mp hactive inc hinc)

/-- An active incident keeps its severity, and a new one takes the alert's. -/
lemma openOrAttachIncident_severity (alert : Alert) (w : World) :
    activeSeverity ((openOrAttachIncident alert).eval World.exec w).2 alert.machineId
      = linkedTo alert.machineId (activeSeverity w alert.machineId) (some alert.severity) := by
  rw [openOrAttachIncident, Statement.Prog.bind_eq, Statement.Prog.eval_attempt_bind]
  rcases openOrAttach_incidents alert.ref w with ⟨hsame, hkept⟩ | ⟨hrows, hm, hnone⟩
  · have hleft : linkedTo alert.machineId (activeSeverity w alert.machineId) (some alert.severity)
        = linkedTo alert.machineId (activeSeverity w alert.machineId) none :=
      linkedTo_eq_iff.mpr (hkept.imp_right .inl)
    rw [hleft, linkedTo_none, activeSeverity, activeSeverity]
    exact congrArg (fun t : IncidentTable => (t.activeFor alert.machineId).map _) hsame
  · have hm' : alert.machineId ≠ "" := hm
    have hnone' : w.incidents.activeFor alert.machineId = none := hnone
    have hmachine : (Incidents.Store.newIncident alert.ref).machineId = some alert.machineId :=
      if_neg hm'
    rw [linkedTo, if_neg hm', activeSeverity, activeSeverity, hnone', Option.map_none,
      Option.none_or, IncidentTable.activeFor]
    show (List.find? _ ((Incidents.Store.openOrAttach alert.ref).eval World.exec
      w).2.incidents.rows).map _ = _
    rw [hrows, List.find?_append]
    rw [IncidentTable.activeFor] at hnone'
    rw [hnone', Option.none_or, List.find?_cons_of_pos]
    · rfl
    · exact decide_eq_true ⟨rfl, hmachine, Option.some_ne_none _⟩

section Creation

variable (providers : List NotificationProvider) (payload : String) {w : World} {rule : AlertRule}
  {dedupeKey : String}

/-- An alert that is due is inserted, linked and announced, and the loop goes on. -/
lemma createAlert_eval_due (hdue : AlertStore.Due rule.id rule.cooldownSeconds dedupeKey w)
    (alert : Alert) (correlationId sourceTopic : String) :
    ∃ w', (createAlert providers rule alert dedupeKey payload correlationId sourceTopic).eval
          World.exec w = (.ok none, w')
      ∧ w'.alerts = (w.alerts.insertAlert (alert.values rule.id dedupeKey) w.now).2
      ∧ w'.counter = w.counter ∧ w'.now = w.now
      ∧ activeSeverity w' alert.machineId
        = linkedTo alert.machineId (activeSeverity w alert.machineId) (some alert.severity) := by
  set created := alert.created w.alerts.nextId w.now
  set w₁ : World :=
    { w with alerts := (w.alerts.insertAlert (alert.values rule.id dedupeKey) w.now).2 }
  obtain ⟨w', heval, halerts, hcounter, hnow, hincidents⟩ :=
    announcement_eval providers created rule.id w₁
  refine ⟨w', ?_, halerts, hcounter, hnow, ?_⟩
  · rw [createAlert, Statement.Prog.bind_eq, Statement.Prog.eval_attempt_bind,
      AlertStore.createIfDue_eval_due hdue]
    exact heval
  · rw [activeSeverity, hincidents]
    exact openOrAttachIncident_severity created w₁

/-- An alert that is not due is suppressed, and the loop goes on. -/
lemma createAlert_eval_not_due (hdue : ¬ AlertStore.Due rule.id rule.cooldownSeconds dedupeKey w)
    (alert : Alert) (correlationId sourceTopic : String) :
    (createAlert providers rule alert dedupeKey payload correlationId sourceTopic).eval World.exec w
      = (.ok none, w) := by
  obtain ⟨result, hcreate⟩ := AlertStore.createIfDue_eval_not_due hdue alert
  rw [createAlert, Statement.Prog.bind_eq, Statement.Prog.eval_attempt_bind, hcreate]
  cases result <;> rfl

end Creation

/-! ### One round of the loop over rules -/

/-- What recording an anomaly for a rule returns, and the counter it leaves. -/
def recorded (rule : AlertRule) (anomaly : AnomalyDetected ℚ) (counter : AnomalyCountTracker) :
    ℕ × AnomalyCountTracker :=
  if rule.condition = .ANOMALY_COUNT then
    counter.record (countKey rule anomaly) anomaly.detectedAt rule.windowSeconds
  else (0, counter)

/-- Another rule's count is kept: the keys differ. -/
lemma recorded_of_id_ne {rule other : AlertRule} (hid : rule.id ≠ other.id)
    (anomaly : AnomalyDetected ℚ) (counter : AnomalyCountTracker) :
    (recorded rule anomaly counter).2 (countKey other anomaly)
      = counter (countKey other anomaly) := by
  have hkey : countKey other anomaly ≠ countKey rule anomaly := by
    rw [countKey, countKey]
    intro h
    exact hid (by simpa [String.append_assoc] using h.symm)
  rw [recorded]
  split
  · exact Function.update_of_ne hkey _ _
  · rfl

/-- A rule's count depends on what is recorded under its own key. -/
lemma recorded_congr {rule : AlertRule} {anomaly : AnomalyDetected ℚ}
    {counter counter' : AnomalyCountTracker}
    (h : counter (countKey rule anomaly) = counter' (countKey rule anomaly)) :
    (recorded rule anomaly counter).1 = (recorded rule anomaly counter').1 := by
  rw [recorded, recorded]
  split
  · rw [AnomalyCountTracker.record, AnomalyCountTracker.record, h]
  · rfl

lemma countInWindow_eval (rule : AlertRule) (anomaly : AnomalyDetected ℚ) (w : World) :
    (countInWindow rule anomaly).eval World.exec w
      = (.ok (recorded rule anomaly w.counter).1,
          { w with counter := (recorded rule anomaly w.counter).2 }) := by
  rw [countInWindow, recorded]
  split
  · rfl
  · rfl

/-- The rule's scope matches the anomaly. -/
abbrev InScope (rule : AlertRule) (anomaly : AnomalyDetected ℚ) : Prop :=
  rule.scopeMatches anomaly.machineId anomaly.deviceId anomaly.sensorId = true

/-- The rule asks for an alert on the anomaly. -/
abbrev Fires (rule : AlertRule) (anomaly : AnomalyDetected ℚ) (counter : AnomalyCountTracker) :
    Prop :=
  InScope rule anomaly
    ∧ conditionMatches rule anomaly.value (recorded rule anomaly counter).1 = true

/-- The values of the alert an anomaly raises under a rule. -/
abbrev anomalyValues (rule : AlertRule) (anomaly : AnomalyDetected ℚ) : NewAlert :=
  (anomalyAlert rule anomaly).values rule.id (anomalyDedupeKey anomaly)

/-- The rule opens an alert on the anomaly. -/
abbrev Opens (rule : AlertRule) (anomaly : AnomalyDetected ℚ) (w : World) : Prop :=
  Fires rule anomaly w.counter
    ∧ AlertStore.Due rule.id rule.cooldownSeconds (anomalyDedupeKey anomaly) w

/-- What one round of the loop does: the anomaly is counted if the scope matches, and the rule may
open an alert, which is linked to the incident of the machine. -/
structure Turn (rule : AlertRule) (anomaly : AnomalyDetected ℚ) (w w' : World) : Prop where
  now : w'.now = w.now
  counter : w'.counter
    = if InScope rule anomaly then (recorded rule anomaly w.counter).2 else w.counter
  alerts : w'.alerts
    = if Opens rule anomaly w then (w.alerts.insertAlert (anomalyValues rule anomaly) w.now).2
      else w.alerts
  severity : activeSeverity w' anomaly.machineId
    = linkedTo anomaly.machineId (activeSeverity w anomaly.machineId)
        (if Opens rule anomaly w then some rule.severity else none)

/-- A round counts the anomaly, and then creates an alert if the rule asks for one. -/
lemma evaluateRule_eval_cases (cfg : Config) (providers : List NotificationProvider)
    (payload : String) (rule : AlertRule) (anomaly : AnomalyDetected ℚ) (w : World) :
    let w₁ : World := { w with
      counter := if InScope rule anomaly then (recorded rule anomaly w.counter).2 else w.counter }
    (Fires rule anomaly w.counter
        ∧ (evaluateRule cfg providers payload anomaly rule).eval World.exec w
          = (createAlert providers rule (anomalyAlert rule anomaly) (anomalyDedupeKey anomaly)
              payload anomaly.eventId cfg.topicAnomalies).eval World.exec w₁)
      ∨ ¬ Fires rule anomaly w.counter
        ∧ (evaluateRule cfg providers payload anomaly rule).eval World.exec w = (.ok none, w₁) := by
  dsimp only
  rw [evaluateRule]
  by_cases hscope : InScope rule anomaly
  · rw [if_pos hscope, if_pos hscope, Statement.Prog.bind_eq, Statement.Prog.eval_bind,
      countInWindow_eval]
    dsimp only
    by_cases hcond : conditionMatches rule anomaly.value (recorded rule anomaly w.counter).1 = true
    · rw [if_pos hcond]
      exact .inl ⟨⟨hscope, hcond⟩, rfl⟩
    · rw [if_neg hcond]
      exact .inr ⟨fun h => hcond h.2, rfl⟩
  · rw [if_neg hscope, if_neg hscope]
    exact .inr ⟨fun h => hscope h.1, rfl⟩

/-- A round goes on to the next rule. -/
lemma evaluateRule_turn (cfg : Config) (providers : List NotificationProvider)
    (payload : String) (rule : AlertRule) (anomaly : AnomalyDetected ℚ) (w : World) :
    ∃ w', (evaluateRule cfg providers payload anomaly rule).eval World.exec w = (.ok none, w')
      ∧ Turn rule anomaly w w' := by
  set w₁ : World := { w with
    counter := if InScope rule anomaly then (recorded rule anomaly w.counter).2 else w.counter }
  -- a round that opens no alert counts the anomaly, and that is all
  have hcounted : ¬ Opens rule anomaly w → Turn rule anomaly w w₁ := by
    intro hopens
    refine ⟨rfl, rfl, ?_, ?_⟩
    · rw [if_neg hopens]
    · rw [if_neg hopens, linkedTo_none]
      rfl
  rcases evaluateRule_eval_cases cfg providers payload rule anomaly w with
    ⟨hfires, heval⟩ | ⟨hfires, heval⟩
  · by_cases hdue : AlertStore.Due rule.id rule.cooldownSeconds (anomalyDedupeKey anomaly) w₁
    · have hopens : Opens rule anomaly w := ⟨hfires, hdue⟩
      obtain ⟨w', hcreate, halerts, hcounter, hnow, hseverity⟩ := createAlert_eval_due
        providers payload hdue (anomalyAlert rule anomaly) anomaly.eventId cfg.topicAnomalies
      refine ⟨w', heval.trans hcreate, hnow, hcounter, ?_, ?_⟩
      · rw [if_pos hopens, halerts]
      · rw [if_pos hopens]
        exact hseverity
    · exact ⟨w₁, heval.trans (createAlert_eval_not_due _ _ hdue _ _ _), hcounted fun h => hdue h.2⟩
  · exact ⟨w₁, heval, hcounted fun h => hfires h.1⟩

/-- The row a round adds, if it adds one. -/
lemma Turn.rows {rule : AlertRule} {anomaly : AnomalyDetected ℚ} {w w' : World}
    (h : Turn rule anomaly w w') : w'.alerts.rows = w.alerts.rows
      ++ if Opens rule anomaly w then
          [.opened (anomalyValues rule anomaly) w.now w.alerts.nextId] else [] := by
  rw [h.alerts]
  split
  · rename_i hopens
    exact (AlertTable.insertAlert_of_none_open (v := anomalyValues rule anomaly)
      hopens.2.2 w.now).2
  · exact (List.append_nil _).symm

/-- A round keeps the counts of the other rules. -/
lemma Turn.counter_other {rule other : AlertRule} (hid : rule.id ≠ other.id)
    {anomaly : AnomalyDetected ℚ} {w w' : World} (h : Turn rule anomaly w w') :
    w'.counter (countKey other anomaly) = w.counter (countKey other anomaly) := by
  rw [h.counter]
  split
  · exact recorded_of_id_ne hid anomaly w.counter
  · rfl

/-- What one round of the loop does: the anomaly is counted if the scope matches, and the rule
opens an alert if it fires and has none for the anomaly's key. -/
structure Round (rule : AlertRule) (anomaly : AnomalyDetected ℚ) (w w' : World) : Prop where
  now : w'.now = w.now
  counter : w'.counter
    = if InScope rule anomaly then (recorded rule anomaly w.counter).2 else w.counter
  alerts : w'.alerts
    = if Fires rule anomaly w.counter
          ∧ w.alerts.latest rule.id (anomalyDedupeKey anomaly) = none then
        (w.alerts.insertAlert (anomalyValues rule anomaly) w.now).2
      else w.alerts

/-- Such a round, from a database the system can reach. -/
lemma Turn.round {rule : AlertRule} {anomaly : AnomalyDetected ℚ} {w w' : World}
    (h : Turn rule anomaly w w') (hw : NeverResolved w) : Round rule anomaly w w' where
  now := h.now
  counter := h.counter
  alerts := h.alerts.trans (if_congr (and_congr_right' hw.due_iff) rfl rfl)

/-! ### The loop -/

/-- The rounds of the loop, from a database the system can reach. -/
inductive Rounds (anomaly : AnomalyDetected ℚ) : List AlertRule → World → World → Prop
  | nil (w : World) : Rounds anomaly [] w w
  | cons {rule : AlertRule} {rest : List AlertRule} {w w₁ w' : World} (hw : NeverResolved w)
      (round : Round rule anomaly w w₁) (rounds : Rounds anomaly rest w₁ w') :
      Rounds anomaly (rule :: rest) w w'

/-- The loop runs through all the rules, and the message is done with. -/
lemma evaluateRules_eval (cfg : Config) (providers : List NotificationProvider) (payload : String)
    (anomaly : AnomalyDetected ℚ) (rs : List AlertRule) {w : World} (hw : NeverResolved w) :
    ∃ w', (evaluateRules cfg providers payload anomaly rs).eval World.exec w = (.ok true, w')
      ∧ Rounds anomaly rs w w' := by
  induction rs generalizing w with
  | nil => exact ⟨w, rfl, .nil w⟩
  | cons rule rest ih =>
      obtain ⟨w₁, heval, hturn⟩ := evaluateRule_turn cfg providers payload rule anomaly w
      have hw₁ : NeverResolved w₁ := by
        have h := Statement.Prog.eval_preserves World.exec NeverResolved.exec
          (evaluateRule cfg providers payload anomaly rule) hw
        rwa [heval] at h
      obtain ⟨w', hrest, hrounds⟩ := ih hw₁
      refine ⟨w', ?_, .cons hw (hturn.round hw) hrounds⟩
      rw [evaluateRules, Statement.Prog.bind_eq, Statement.Prog.eval_bind, heval]
      exact hrest

end AlertService

end InduSense
