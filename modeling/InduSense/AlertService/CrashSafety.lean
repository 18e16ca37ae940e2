import InduSense.AlertService.Main

/-!
Crashes of the alert service while it handles a message, with redeliveries until the message is
committed.

* `Linked`, `Announced`, `Handled`: what is owed to an alert.
* `Grows`: what no statement undoes.
* `Safe`: one attempt at a message leaves every new alert handled, except possibly the last one
  if the process died; each function of the handlers has its rule for it.
* `afterCrashes`: any number of attempts that crash, each followed by a restart.
-/

namespace InduSense

open Statement.Prog (wp wp_bind wp_attempt wp_mono wp_issue wp_try_issue)
open Statement (crashOnly crashAt crashOnly_crashAt)
open Incidents (Store.attachedNote)

namespace AlertService

/-! ### What is owed to an alert -/

/-- An incident was opened by the alert, or an event attaches it to one. -/
def Linked (w : World) (r : AlertRow) : Prop :=
  (∃ inc ∈ w.incidents.rows, inc.alertId = some r.id)
    ∨ ∃ e ∈ w.incidentEvents, e.eventType = .ALERT_ATTACHED
        ∧ e.note = Store.attachedNote (some r.id) r.severity r.title

/-- A `CREATED` event and a notification by every provider were emitted for the alert. -/
def Announced (providers : List NotificationProvider) (w : World) (r : AlertRow) : Prop :=
  (∃ m ∈ w.alertsTopic, m.2.alertId = some r.id ∧ m.2.eventType = .CREATED)
    ∧ ∀ p ∈ providers, ∃ n ∈ w.notifications, n.1 = p ∧ n.2.alertId = some r.id
        ∧ n.2.isEscalation = false

/-- The alert is linked and announced. -/
def Handled (providers : List NotificationProvider) (w : World) (r : AlertRow) : Prop :=
  Linked w r ∧ Announced providers w r

/-- From one world to a later one: incidents keep their openers, and nothing is taken back. -/
structure Grows (w w' : World) : Prop where
  incidents : ∀ inc ∈ w.incidents.rows, ∃ inc' ∈ w'.incidents.rows, inc'.alertId = inc.alertId
  incidentEvents : w.incidentEvents ⊆ w'.incidentEvents
  alertsTopic : w.alertsTopic ⊆ w'.alertsTopic
  notifications : w.notifications ⊆ w'.notifications

lemma Grows.refl (w : World) : Grows w w :=
  ⟨fun inc h => ⟨inc, h, rfl⟩, List.Subset.refl _, List.Subset.refl _, List.Subset.refl _⟩

lemma Grows.trans {w w' w'' : World} (h : Grows w w') (h' : Grows w' w'') : Grows w w'' where
  incidents := by
    intro inc hinc
    obtain ⟨a, ha, haid⟩ := h.incidents inc hinc
    obtain ⟨b, hb, hbid⟩ := h'.incidents a ha
    exact ⟨b, hb, hbid.trans haid⟩
  incidentEvents := List.Subset.trans h.incidentEvents h'.incidentEvents
  alertsTopic := List.Subset.trans h.alertsTopic h'.alertsTopic
  notifications := List.Subset.trans h.notifications h'.notifications

/-- Every statement grows the world. -/
lemma Grows.exec (c : Stmt) (w : World) : Grows w (World.exec c w).2 := by
  have mapped : ∀ {w' : World} (f : IncidentRow → IncidentRow),
      (∀ a, (f a).alertId = a.alertId) → w'.incidents.rows = w.incidents.rows.map f →
      ∀ inc ∈ w.incidents.rows, ∃ inc' ∈ w'.incidents.rows, inc'.alertId = inc.alertId :=
    fun f hf hrows inc hinc => ⟨f inc, hrows ▸ List.mem_map_of_mem hinc, hf inc⟩
  cases c with
  | insertIncident v =>
      refine ⟨fun inc hinc => ?_, List.Subset.refl _, List.Subset.refl _, List.Subset.refl _⟩
      rcases w.incidents.insertIncident_cases v w.now with ⟨t', h, hrows⟩ | ⟨h, -⟩
      · refine ⟨inc, ?_, rfl⟩
        simp only [World.exec, h, hrows]
        exact List.mem_append_left _ hinc
      · refine ⟨inc, ?_, rfl⟩
        simp only [World.exec, h]
        exact hinc
  | updateIncidentStatus id new =>
      refine ⟨?_, List.Subset.refl _, List.Subset.refl _, List.Subset.refl _⟩
      rcases w.incidents.updateStatus_cases id new w.now with ⟨t', h, hrows⟩ | h
      · exact mapped _ (IncidentRow.withStatus_alertId id new w.now)
          (by simp only [World.exec, h, hrows])
      · intro inc hinc
        refine ⟨inc, ?_, rfl⟩
        simp only [World.exec, h]
        exact hinc
  | updateAssignedTo id userId =>
      exact ⟨mapped _ (IncidentRow.withAssignedTo_alertId id userId)
        (IncidentTable.updateAssignedTo_rows ..), List.Subset.refl _, List.Subset.refl _,
        List.Subset.refl _⟩
  | updateResolutionNotes id notes =>
      exact ⟨mapped _ (IncidentRow.withResolutionNotes_alertId id notes)
        (IncidentTable.updateResolutionNotes_rows ..), List.Subset.refl _, List.Subset.refl _,
        List.Subset.refl _⟩
  | selectActiveIncident machineId =>
      simp only [World.exec]
      split <;> exact .refl w
  | insertIncidentEvent v =>
      exact ⟨(Grows.refl w).incidents, List.subset_append_left _ _, List.Subset.refl _,
        List.Subset.refl _⟩
  | publishAlert key evt =>
      exact ⟨(Grows.refl w).incidents, List.Subset.refl _, List.subset_append_left _ _,
        List.Subset.refl _⟩
  | send p n =>
      exact ⟨(Grows.refl w).incidents, List.Subset.refl _, List.Subset.refl _,
        List.subset_append_left _ _⟩
  | _ => exact ⟨(Grows.refl w).incidents, List.Subset.refl _, List.Subset.refl _,
      List.Subset.refl _⟩

/-- What is owed to an alert stays paid. -/
lemma Handled.grows {providers : List NotificationProvider} {w w' : World} {r : AlertRow}
    (h : Handled providers w r) (hg : Grows w w') : Handled providers w' r := by
  obtain ⟨hlinked, ⟨m, hm, hcreated⟩, hsent⟩ := h
  refine ⟨?_, ⟨m, hg.alertsTopic hm, hcreated⟩, fun p hp => ?_⟩
  · rcases hlinked with ⟨inc, hinc, hid⟩ | ⟨e, he, hatt⟩
    · obtain ⟨inc', hinc', hid'⟩ := hg.incidents inc hinc
      exact .inl ⟨inc', hinc', hid'.trans hid⟩
    · exact .inr ⟨e, hg.incidentEvents he, hatt⟩
  · obtain ⟨n, hn, hrest⟩ := hsent p hp
    exact ⟨n, hg.notifications hn, hrest⟩

/-! ### The functions that link and announce -/

section Rules

variable {providers : List NotificationProvider}

/-- The rule for a function that leaves the alerts alone: where it ends or dies, the world has
only grown, and `P` holds at its end. -/
def Leaves {α : Type} (P : World → Prop) (p : Alerting.Prog α) (w : World) : Prop :=
  wp World.exec crashOnly
    (fun r w' => (∃ a, r = .ok a) ∧ w'.alerts = w.alerts ∧ Grows w w' ∧ P w')
    (fun w' => w'.alerts = w.alerts ∧ Grows w w') p w

/-- Linking an alert on a machine: the active incident gets an event, or an incident is opened. -/
lemma leaves_openOrAttach (alert : Incidents.AlertRef) (hm : alert.machineId ≠ "") (w : World) :
    Leaves (fun w' => (∃ inc ∈ w'.incidents.rows, inc.alertId = alert.id)
        ∨ ∃ e ∈ w'.incidentEvents, e.eventType = .ALERT_ATTACHED
            ∧ e.note = Store.attachedNote alert.id alert.severity alert.title)
      (Incidents.Store.openOrAttach alert) w := by
  have hsel : World.exec (.selectActiveIncident alert.machineId) w
      = (.ok ((w.incidents.activeFor alert.machineId).map IncidentRow.id), w) := if_neg hm
  refine wp_issue rfl hsel ?_ ⟨rfl, .refl w⟩
  cases hactive : w.incidents.activeFor alert.machineId with
  | some inc =>
      refine wp_issue rfl rfl ?_ ⟨rfl, .refl w⟩
      refine ⟨⟨_, rfl⟩, rfl, Grows.exec (.insertIncidentEvent _) w, 
        .inr ⟨_, List.mem_append_right _ List.mem_cons_self, rfl, rfl⟩⟩
  | none =>
      have hnone := IncidentTable.activeFor_eq_none_iff.mp hactive
      rcases w.incidents.insertIncident_cases (Incidents.Store.newIncident alert) w.now with
        ⟨t', ht', hrows⟩ | ⟨-, inc, hinc, hact⟩
      · have hins : World.exec (.insertIncident (Incidents.Store.newIncident alert)) w
            = (.ok (some w.incidents.nextId), { w with incidents := t' }) := by
          simp only [World.exec, ht']
        have hgrow : Grows w { w with incidents := t' } := by
          have h := Grows.exec (.insertIncident (Incidents.Store.newIncident alert)) w
          rwa [hins] at h
        refine wp_issue rfl hins ?_ ⟨rfl, .refl w⟩
        refine wp_issue rfl rfl ?_ ⟨rfl, hgrow⟩
        refine ⟨⟨_, rfl⟩, rfl, hgrow.trans (Grows.exec (.insertIncidentEvent _) _),
          .inl ⟨.opened (Incidents.Store.newIncident alert) w.now w.incidents.nextId, ?_, rfl⟩⟩
        · show _ ∈ t'.rows
          rw [hrows]
          exact List.mem_append_right _ List.mem_cons_self
      · -- Without an active incident there is nothing to lose the race to.
        have hmachine : (Incidents.Store.newIncident alert).machineId = some alert.machineId :=
          if_neg hm
        rw [hmachine] at hact
        exact absurd hact (hnone inc hinc)

/-- Notifying every provider. -/
lemma leaves_notifyAll (n : Notification) (w : World) :
    Leaves (fun w' => ∀ p ∈ providers, (p, n) ∈ w'.notifications) (notifyAll n providers) w := by
  induction providers generalizing w with
  | nil => exact ⟨⟨_, rfl⟩, rfl, .refl w, fun p hp => by cases hp⟩
  | cons p providers ih =>
      have hgrow := Grows.exec (.send p n) w
      refine wp_try_issue (S := Alerting) (c := .send p n) rfl rfl ?_ ⟨rfl, .refl w⟩
      refine wp_mono ?_ ?_ (ih (World.exec (.send p n) w).2)
      · rintro r w' ⟨hok, halerts, hg, hsent⟩
        refine ⟨hok, halerts, hgrow.trans hg, fun q hq => ?_⟩
        rcases List.mem_cons.mp hq with rfl | hq
        · exact hg.notifications (List.mem_append_right _ List.mem_cons_self)
        · exact hsent q hq
      · rintro w' ⟨halerts, hg⟩
        exact ⟨halerts, hgrow.trans hg⟩

/-- Announcing an alert: the event is published, and every provider is notified. -/
lemma leaves_publishAndNotify (a : Alert) (ruleId : String) (eventType : AlertEventType)
    (isEscalation : Bool) (w : World) :
    Leaves (fun w' => (∃ m ∈ w'.alertsTopic, m.2.alertId = a.id ∧ m.2.eventType = eventType)
        ∧ ∀ p ∈ providers, (p, notification a isEscalation) ∈ w'.notifications)
      (publishAndNotify providers a ruleId eventType isEscalation) w := by
  have hgrow := Grows.exec (.publishAlert a.deviceId (alertEvent a ruleId eventType w.now)) w
  refine wp_issue (S := Alerting) (c := .utcNow) rfl rfl ?_ ⟨rfl, .refl w⟩
  refine wp_try_issue (S := Alerting) (c := .publishAlert _ _) rfl rfl ?_ ⟨rfl, .refl w⟩
  refine wp_mono ?_ ?_ (leaves_notifyAll (notification a isEscalation) _)
  · rintro r w' ⟨hok, halerts, hg, hsent⟩
    refine ⟨hok, halerts, hgrow.trans hg, ⟨(a.deviceId, alertEvent a ruleId eventType w.now),
      hg.alertsTopic ?_, rfl, rfl⟩, hsent⟩
    exact List.mem_append_right _ List.mem_cons_self
  · rintro w' ⟨halerts, hg⟩
    exact ⟨halerts, hgrow.trans hg⟩

/-- Linking never fails the handler. -/
lemma leaves_openOrAttachIncident (alert : Alert) (hm : alert.machineId ≠ "") (w : World) :
    Leaves (fun w' => (∃ inc ∈ w'.incidents.rows, inc.alertId = alert.id)
        ∨ ∃ e ∈ w'.incidentEvents, e.eventType = .ALERT_ATTACHED
            ∧ e.note = Store.attachedNote alert.id alert.severity alert.title)
      (openOrAttachIncident alert) w := by
  refine wp_bind (wp_attempt (wp_mono ?_ (fun _ h => h) (leaves_openOrAttach alert.ref hm w)))
  rintro r w' ⟨-, halerts, hg, hlinked⟩
  exact ⟨⟨_, rfl⟩, halerts, hg, hlinked⟩

/-- Creating an alert: nothing, or one more row. -/
lemma wp_createIfDue {ruleId dedupeKey : String} {cooldownSeconds : ℤ} {alert : Alert} {w : World}
    {Q : Except PyError (CreateResult × Option Alert) → World → Prop} {C : World → Prop}
    (hsame : ∀ result, Q (.ok (result, none)) w)
    (hcreated : ∀ t : AlertTable,
      t.rows = w.alerts.rows ++ [.opened (alert.values ruleId dedupeKey) w.now w.alerts.nextId] →
      Q (.ok (.CREATED, some (alert.created w.alerts.nextId w.now))) { w with alerts := t })
    (hdie : C w) :
    wp World.exec crashOnly Q C
      (AlertStore.createIfDue ruleId cooldownSeconds alert dedupeKey) w := by
  have hinsert : wp World.exec crashOnly Q C (AlertStore.insert ruleId alert dedupeKey) w := by
    rcases w.alerts.insertAlert_cases (alert.values ruleId dedupeKey) w.now with
      ⟨t, ht, hrows, -⟩ | ⟨ht, -⟩
    · have hins : World.exec (.insertAlert (alert.values ruleId dedupeKey)) w
          = (.ok (some (w.alerts.nextId, w.now)), { w with alerts := t }) := by
        simp only [World.exec, ht]
      exact wp_issue rfl hins (hcreated t hrows) hdie
    · have hins : World.exec (.insertAlert (alert.values ruleId dedupeKey)) w = (.ok none, w) := by
        simp only [World.exec, ht]
      exact wp_issue rfl hins (hsame _) hdie
  refine wp_issue (S := Alerting) (c := .selectLatestAlert _ _) rfl rfl ?_ hdie
  cases w.alerts.latest ruleId dedupeKey with
  | none => exact hinsert
  | some r =>
      rw [Option.map_some]
      dsimp only
      split
      · exact hsame _
      · refine wp_issue (S := Alerting) (c := .utcNow) rfl rfl ?_ hdie
        split
        · exact hsame _
        · exact hinsert

end Rules

/-! ### One attempt at a message -/

/-- Every alert that is new since `w₀` is handled. -/
def NewHandled (providers : List NotificationProvider) (w₀ w : World) : Prop :=
  ∀ r ∈ w.alerts.rows, r ∉ w₀.alerts.rows → Handled providers w r

/-- Every alert that is new since `w₀` is handled, except possibly the last one. -/
def NewHandledButLast (providers : List NotificationProvider) (w₀ w : World) : Prop :=
  ∀ r ∈ w.alerts.rows, r ∉ w₀.alerts.rows →
    Handled providers w r ∨ w.alerts.rows.getLast? = some r

section Attempt

variable {providers : List NotificationProvider} {w₀ w w' : World}

lemma NewHandled.butLast (h : NewHandled providers w₀ w) : NewHandledButLast providers w₀ w :=
  fun r hr hnew => .inl (h r hr hnew)

/-- With the same alerts in a world that has grown, the new ones are still handled. -/
lemma NewHandled.grows (h : NewHandled providers w₀ w) (halerts : w'.alerts = w.alerts)
    (hg : Grows w w') : NewHandled providers w₀ w' := by
  intro r hr hnew
  rw [halerts] at hr
  exact (h r hr hnew).grows hg

/-- With one more alert, all but the last are handled. -/
lemma NewHandled.append (h : NewHandled providers w₀ w) {row : AlertRow}
    (halerts : w'.alerts.rows = w.alerts.rows ++ [row]) (hg : Grows w w') :
    NewHandledButLast providers w₀ w' := by
  intro r hr hnew
  rw [halerts, List.getLast?_concat]
  rw [halerts] at hr
  rcases List.mem_append.mp hr with hr | hr
  · exact .inl ((h r hr hnew).grows hg)
  · rw [List.mem_singleton.mp hr]
    exact .inr rfl

/-- Once the last alert is handled too, all are. -/
lemma NewHandledButLast.complete (h : NewHandledButLast providers w₀ w) {row : AlertRow}
    (hlast : w.alerts.rows.getLast? = some row) (hrow : Handled providers w row) :
    NewHandled providers w₀ w := by
  intro r hr hnew
  rcases h r hr hnew with hhandled | hr'
  · exact hhandled
  · rw [hlast, Option.some.injEq] at hr'
    rw [← hr']
    exact hrow

/-- What one attempt is to achieve: a value to return, with every new alert handled; a death
excuses the last one. -/
def Safe {α : Type} (providers : List NotificationProvider) (w₀ : World) (p : Alerting.Prog α)
    (a : α) : Prop :=
  ∀ w, NewHandled providers w₀ w →
    wp World.exec crashOnly (fun r w' => r = .ok a ∧ NewHandled providers w₀ w')
      (NewHandledButLast providers w₀) p w

lemma safe_createAlert {rule : AlertRule} {alert : Alert} (hm : alert.machineId ≠ "")
    (dedupeKey payload correlationId sourceTopic : String) :
    Safe providers w₀
      (createAlert providers rule alert dedupeKey payload correlationId sourceTopic) none := by
  intro w h
  refine wp_bind (wp_attempt (wp_createIfDue ?_ ?_ h.butLast))
  · intro result
    cases result <;> exact ⟨rfl, h⟩
  · intro t ht
    have hgrow : Grows w { w with alerts := t } :=
      ⟨(Grows.refl w).incidents, List.Subset.refl _, List.Subset.refl _, List.Subset.refl _⟩
    have hlast : ∀ w', w'.alerts = t → Grows { w with alerts := t } w' →
        NewHandledButLast providers w₀ w' :=
      fun w' halerts hg => h.append (by rw [halerts, ht]) (hgrow.trans hg)
    refine wp_bind (wp_mono ?_ ?_ (leaves_openOrAttachIncident (alert.created _ _) hm _))
    · rintro r w₁ ⟨⟨-, rfl⟩, halerts₁, hg₁, hlinked⟩
      refine wp_bind (wp_mono ?_ ?_ (leaves_publishAndNotify _ rule.id .CREATED false w₁))
      · rintro r w₂ ⟨⟨-, rfl⟩, halerts₂, hg₂, hpublished, hsent⟩
        have halerts : w₂.alerts = t := halerts₂.trans halerts₁
        have hrow : Handled providers w₂
            (.opened (alert.values rule.id dedupeKey) w.now w.alerts.nextId) := by
          refine ⟨?_, hpublished, fun p hp => ⟨_, hsent p hp, rfl, rfl, rfl⟩⟩
          rcases hlinked with ⟨inc, hinc, hid⟩ | ⟨e, he, hatt⟩
          · obtain ⟨inc', hinc', hid'⟩ := hg₂.incidents inc hinc
            exact .inl ⟨inc', hinc', hid'.trans hid⟩
          · exact .inr ⟨e, hg₂.incidentEvents he, hatt⟩
        refine ⟨rfl, (hlast w₂ halerts (hg₁.trans hg₂)).complete ?_ hrow⟩
        rw [halerts, ht, List.getLast?_concat]
      · rintro w₂ ⟨halerts₂, hg₂⟩
        exact hlast w₂ (halerts₂.trans halerts₁) (hg₁.trans hg₂)
    · rintro w₁ ⟨halerts₁, hg₁⟩
      exact hlast w₁ halerts₁ hg₁

/-- Dead-lettering commits the message when the write succeeds, and touches no alert. -/
lemma safe_dlqOrHold (payload : String) (cause : PyError)
    (stage correlationId sourceTopic : String) :
    Safe providers w₀ (dlqOrHold payload cause stage correlationId sourceTopic) true := by
  intro w h
  refine wp_bind (wp_attempt ?_)
  refine wp_issue (S := Alerting) (c := .utcNow) rfl rfl ?_ h.butLast
  have hwritten : ∀ v, NewHandled providers w₀ { w with deadLetters := v } := fun v =>
    h.grows rfl ⟨(Grows.refl w).incidents, List.Subset.refl _, List.Subset.refl _,
      List.Subset.refl _⟩
  refine wp_issue (S := Alerting) (c := .produceDeadLetter _ _) (k := Statement.Prog.ret)
    (Statement.Prog.bind_ret _).symm rfl ?_ h.butLast
  exact ⟨rfl, hwritten _⟩

lemma safe_evaluateRule {cfg : Config} {payload : String} {anomaly : AnomalyDetected ℚ}
    (hm : anomaly.machineId ≠ "") (rule : AlertRule) :
    Safe providers w₀ (evaluateRule cfg providers payload anomaly rule) none := by
  have hmatched : ∀ count, Safe providers w₀
      (if conditionMatches rule anomaly.value count then
        createAlert providers rule (anomalyAlert rule anomaly) (anomalyDedupeKey anomaly) payload
          anomaly.eventId cfg.topicAnomalies
      else return none) none := by
    intro count w h
    split
    · exact safe_createAlert hm _ _ _ _ w h
    · exact ⟨rfl, h⟩
  intro w h
  rw [evaluateRule]
  split
  · refine wp_bind ?_
    rw [countInWindow]
    split
    · refine wp_issue (S := Alerting) (c := .recordAnomaly _ _ _) (k := Statement.Prog.ret)
        (Statement.Prog.bind_ret _).symm rfl ?_ h.butLast
      refine hmatched _ _ (h.grows rfl ?_)
      exact ⟨(Grows.refl w).incidents, List.Subset.refl _, List.Subset.refl _,
        List.Subset.refl _⟩
    · exact hmatched 0 w h
  · exact ⟨rfl, h⟩

lemma safe_evaluateRules {cfg : Config} {payload : String} {anomaly : AnomalyDetected ℚ}
    (hm : anomaly.machineId ≠ "") (rules : List AlertRule) :
    Safe providers w₀ (evaluateRules cfg providers payload anomaly rules) true := by
  induction rules with
  | nil => exact fun w h => ⟨rfl, h⟩
  | cons rule rules ih =>
      intro w h
      refine wp_bind (wp_mono ?_ (fun _ hd => hd) (safe_evaluateRule hm rule w h))
      rintro r w' ⟨rfl, h'⟩
      exact ih w' h'

/-- An attempt at an anomaly is safe. -/
lemma safe_processAnomaly {Payload : Type} {cfg : Config} {rules : RuleCache}
    {codec : Codec Payload (AnomalyDetected ℚ)} {msg : Payload}
    (hm : ∀ anomaly, codec.parse msg = .ok anomaly → anomaly.machineId ≠ "") :
    Safe providers w₀ (processAnomaly cfg rules providers codec msg) true := by
  rw [processAnomaly]
  cases hparse : codec.parse msg with
  | error exc => exact safe_dlqOrHold _ _ _ _ _
  | ok anomaly => exact safe_evaluateRules (hm anomaly hparse) _

/-- An attempt at a device event is safe. -/
lemma safe_processDeviceEvent {Payload : Type} {cfg : Config} {rules : RuleCache}
    {codec : Codec Payload NormalizedMachineEvent} {msg : Payload}
    (hm : ∀ evt, codec.parse msg = .ok evt → evt.machineId ≠ "") :
    Safe providers w₀ (processDeviceEvent cfg rules providers codec msg) true := by
  rw [processDeviceEvent]
  cases hparse : codec.parse msg with
  | error exc => exact safe_dlqOrHold _ _ _ _ _
  | ok evt =>
      dsimp only
      split
      · exact fun w h => ⟨rfl, h⟩
      · split
        · exact fun w h => ⟨rfl, h⟩
        · intro w h
          refine wp_bind (wp_mono ?_ (fun _ hd => hd)
            (safe_createAlert (hm evt hparse) _ _ _ _ w h))
          rintro r w' ⟨rfl, h'⟩
          exact ⟨rfl, h'⟩

end Attempt

/-! ### Crashes and redeliveries -/

/-- A crash: the statement it comes before, and the time until the message is redelivered. -/
structure Crash where
  point : ℕ
  downtime : ℕ
  deriving DecidableEq

/-- The world after an attempt that crashes and a restart, which empties the counter. -/
def afterCrash (handler : Alerting.Prog Bool) (w : World) (c : Crash) : World :=
  { (handler.run World.exec (crashAt c.point) [] w).store.tick c.downtime with counter := .init }

/-- The world after any number of attempts that crash. -/
def afterCrashes (handler : Alerting.Prog Bool) (crashes : List Crash) (w : World) : World :=
  crashes.foldl (afterCrash handler) w

/-- The result and the world of the attempt after the crashes, which completes. -/
def redelivered (handler : Alerting.Prog Bool) (crashes : List Crash) (w : World) :
    Except PyError Bool × World :=
  handler.eval World.exec (afterCrashes handler crashes w)

/-- The alert that one of the attempts had inserted last when it crashed, and had not finished
with. -/
def LeftByCrash (providers : List NotificationProvider) (handler : Alerting.Prog Bool)
    (crashes : List Crash) (w : World) (r : AlertRow) : Prop :=
  ∃ before c after, crashes = before ++ c :: after
    ∧ r ∉ (afterCrashes handler before w).alerts.rows
    ∧ (afterCrashes handler (before ++ [c]) w).alerts.rows.getLast? = some r
    ∧ ¬ Handled providers (afterCrashes handler (before ++ [c]) w) r

/-- The message is committed in the end, and every alert it created is handled or was left by one
of the crashes. -/
def CrashSafe (providers : List NotificationProvider) (handler : Alerting.Prog Bool) : Prop :=
  ∀ crashes w, (redelivered handler crashes w).1 = .ok true
    ∧ ∀ r ∈ (redelivered handler crashes w).2.alerts.rows, r ∉ w.alerts.rows →
        Handled providers (redelivered handler crashes w).2 r
          ∨ LeftByCrash providers handler crashes w r

section Runs

variable {providers : List NotificationProvider} {handler : Alerting.Prog Bool}

/-- One attempt that crashes leaves at most the last alert unhandled. -/
lemma newHandledButLast_afterCrash (h : ∀ w₀, Safe providers w₀ handler true) (w : World)
    (c : Crash) : NewHandledButLast providers w (afterCrash handler w c) := by
  have hnone : NewHandled providers w w := fun r hr hnew => absurd hr hnew
  have hrun := Statement.Prog.wp_run (fun l c' => crashOnly_crashAt c.point l c') (h w w hnone) []
  have hstore : NewHandledButLast providers w
      (handler.run World.exec (crashAt c.point) [] w).store := by
    cases hout : (handler.run World.exec (crashAt c.point) [] w).outcome with
    | returned a =>
        rw [hout] at hrun
        exact hrun.2.butLast
    | raised e =>
        rw [hout] at hrun
        exact hrun.2.butLast
    | died =>
        rw [hout] at hrun
        exact hrun
  exact hstore

/-- The attempt that completes commits the message and leaves no alert unhandled. -/
lemma newHandled_eval (h : ∀ w₀, Safe providers w₀ handler true) (w : World) :
    (handler.eval World.exec w).1 = .ok true
      ∧ NewHandled providers w (handler.eval World.exec w).2 := by
  have hnone : NewHandled providers w w := fun r hr hnew => absurd hr hnew
  have hcompletes : ∀ l c, crashOnly c
      ((fun _ _ => .completes : Statement.Env Alerting PyError) l c) := fun _ _ => .inl rfl
  have hrun := Statement.Prog.wp_run hcompletes (h w w hnone) []
  obtain ⟨hout, hstore⟩ := Statement.Prog.run_eq_eval World.exec (fun _ _ => .completes)
    (fun _ _ => rfl) handler [] w
  rw [hout, hstore] at hrun
  cases heval : (handler.eval World.exec w).1 with
  | ok a =>
      rw [heval] at hrun
      exact hrun
  | error e =>
      rw [heval] at hrun
      exact hrun

/-- The later attempts take nothing back. -/
lemma grows_redelivered (crashes : List Crash) (w : World) :
    Grows w (redelivered handler crashes w).2 := by
  have hcrash : ∀ w c, Grows w (afterCrash handler w c) := by
    intro w c
    have hrun := Statement.Prog.run_preserves World.exec (crashAt c.point) (I := Grows w)
      (fun c' s hs => hs.trans (.exec c' s)) handler [] (.refl w)
    exact ⟨hrun.incidents, hrun.incidentEvents, hrun.alertsTopic, hrun.notifications⟩
  have hcrashes : ∀ w, Grows w (afterCrashes handler crashes w) := by
    induction crashes with
    | nil => exact Grows.refl
    | cons c crashes ih => exact fun w => (hcrash w c).trans (ih _)
  exact Statement.Prog.eval_preserves World.exec (I := Grows w)
    (fun c s hs => hs.trans (.exec c s)) handler (hcrashes w)

/-- A handler each of whose attempts is safe is safe over any number of crashes. -/
lemma crashSafe_of_safe (h : ∀ w₀, Safe providers w₀ handler true) :
    CrashSafe providers handler := by
  intro crashes
  induction crashes with
  | nil =>
      intro w
      obtain ⟨hok, hnew⟩ := newHandled_eval h w
      exact ⟨hok, fun r hr hr' => .inl (hnew r hr hr')⟩
  | cons c crashes ih =>
      intro w
      obtain ⟨hok, hrest⟩ := ih (afterCrash handler w c)
      refine ⟨hok, fun r hr hr' => ?_⟩
      by_cases hmem : r ∈ (afterCrash handler w c).alerts.rows
      · have hgrows : Grows (afterCrash handler w c)
            (redelivered handler crashes (afterCrash handler w c)).2 := grows_redelivered crashes _
        by_cases hhandled : Handled providers (afterCrash handler w c) r
        · exact .inl (hhandled.grows hgrows)
        · rcases newHandledButLast_afterCrash h w c r hmem hr' with hdone | hlast
          · exact absurd hdone hhandled
          · exact .inr ⟨[], c, crashes, rfl, hr', hlast, hhandled⟩
      · rcases hrest r hr hmem with hdone | ⟨before, c', after, rfl, hleft⟩
        · exact .inl hdone
        · exact .inr ⟨c :: before, c', after, rfl, hleft⟩

end Runs

/-- **Crash safety of alert creation.** However often the service crashes while it handles a
message that names a machine, once the message has been handled without a crash it is committed,
and every alert it created has an incident, a `CREATED` event and its notifications, except those
that an attempt had inserted last when it crashed. -/
theorem alerts_handled_after_crashes {Payload : Type} (cfg : Config) (rules : RuleCache)
    (providers : List NotificationProvider) (anomalies : Codec Payload (AnomalyDetected ℚ))
    (events : Codec Payload NormalizedMachineEvent) (anomalyMsg eventMsg : Payload)
    (ha : ∀ anomaly, anomalies.parse anomalyMsg = .ok anomaly → anomaly.machineId ≠ "")
    (he : ∀ evt, events.parse eventMsg = .ok evt → evt.machineId ≠ "") :
    CrashSafe providers (processAnomaly cfg rules providers anomalies anomalyMsg)
      ∧ CrashSafe providers (processDeviceEvent cfg rules providers events eventMsg) :=
  ⟨crashSafe_of_safe fun _ => safe_processAnomaly ha,
    crashSafe_of_safe fun _ => safe_processDeviceEvent he⟩

/-- Two of the seeded rules. -/
def seededRules : RuleCache where
  rules :=
    [{ id := "r1", organizationId := "org", name := "High temperature", metric := "temperature",
       condition := .GREATER_THAN, thresholdValue := some 90, severity := .CRITICAL,
       cooldownSeconds := 300, windowSeconds := 300 },
     { id := "r2", organizationId := "org", name := "Unexpected machine shutdown",
       metric := "machine_status", condition := .ANOMALY_COUNT, thresholdValue := some 1,
       severity := .WARNING, cooldownSeconds := 300, windowSeconds := 300 }]
  ids_nodup := by decide

/-- A pump is at 97 degrees. -/
def hotPump : AnomalyDetected ℚ where
  anomalyId := "a1"
  eventId := "e1"
  organizationId := "org"
  factoryId := "f1"
  productionLineId := "l1"
  machineId := "m1"
  deviceId := "d1"
  sensorId := "s1"
  metric := "temperature"
  value := 97
  severity := .HIGH
  score := 1
  methods := ["RULE"]
  reason := "value 97.00 outside safe operating range [10.00, 90.00]"
  detectedAt := 0

/-- Its machine has stopped. -/
def pumpStopped : NormalizedMachineEvent where
  organizationId := "org"
  factoryId := "f1"
  machineId := "m1"
  deviceId := "d1"
  eventType := "MACHINE_STOPPED"
  correlationId := "c1"
  ingestedAt := ⟨0, some 0⟩

/-- A message that decodes to one event. -/
def constCodec {Event : Type} (evt : Event) : Codec Unit Event := ⟨fun _ => .ok evt, fun _ => ""⟩

/-- The hypotheses hold of a message about each of the two. -/
theorem alerts_handled_after_crashes_pump :
    hotPump.machineId ≠ "" ∧ pumpStopped.machineId ≠ ""
      ∧ CrashSafe [.console]
          (processAnomaly .default seededRules [.console] (constCodec hotPump) ())
      ∧ CrashSafe [.console]
          (processDeviceEvent .default seededRules [.console] (constCodec pumpStopped) ()) :=
  ⟨by decide, by decide, alerts_handled_after_crashes .default seededRules [.console]
    (constCodec hotPump) (constCodec pumpStopped) () ()
    (fun anomaly h => Except.ok.inj h ▸ (by decide : hotPump.machineId ≠ ""))
    (fun evt h => Except.ok.inj h ▸ (by decide : pumpStopped.machineId ≠ ""))⟩

/-- A crash right after the insertion leaves the alert of either message without an incident and
without an event, although the message is handled again and committed. -/
theorem alert_lost_by_crash :
    (¬ ∀ r ∈ (redelivered (processAnomaly .default seededRules [.console] (constCodec hotPump) ())
          [⟨2, 0⟩] .empty).2.alerts.rows,
        Handled [.console] (redelivered (processAnomaly .default seededRules [.console]
          (constCodec hotPump) ()) [⟨2, 0⟩] .empty).2 r)
      ∧ ¬ ∀ r ∈ (redelivered (processDeviceEvent .default seededRules [.console]
            (constCodec pumpStopped) ()) [⟨2, 0⟩] .empty).2.alerts.rows,
          Handled [.console] (redelivered (processDeviceEvent .default seededRules [.console]
            (constCodec pumpStopped) ()) [⟨2, 0⟩] .empty).2 r := by
  have lost : ∀ w : World, w.alerts.rows ≠ [] → w.alertsTopic = [] →
      ¬ ∀ r ∈ w.alerts.rows, Handled [.console] w r := by
    intro w hrows htopic h
    obtain ⟨r, hr⟩ := List.exists_mem_of_ne_nil _ hrows
    obtain ⟨-, ⟨m, hm, -⟩, -⟩ := h r hr
    rw [htopic] at hm
    cases hm
  constructor
  · refine lost _ ?_ ?_ <;> decide +kernel
  · refine lost _ ?_ ?_ <;> decide +kernel

end AlertService

end InduSense
