import InduSense.AlertService.Evaluation
import InduSense.Statement.Trace

/-!
The scope of the rules under which alerts are created, on both alert paths.

* `Incoming`: an anomaly, or the unexpected stop of a machine, with its message.
* `Scoped`: alerts are created only under rules in scope, and where a rule applies, one in scope is
  passed to `create_if_due`.
* `scoped_anomaly`: so it is for anomalies.
* `scoped_iff`: for a stopped machine, in any order of the rows, exactly when all the shutdown
  rules of its organization are in scope.
* `shutdown_out_of_scope`: an alert under a rule for another machine.
-/

namespace InduSense

open Statement.Prog (Ensures ensures_issue ensures_bind ensures_attempt ensures_ret
  mem_trace_bind_left mem_trace_bind_right trace_attempt trace_issue mem_log_of_ensures)

namespace AlertService

/-- A message, with the event it carries. -/
structure Received (Payload Event : Type) where
  codec : Codec Payload Event
  msg : Payload
  event : Event
  parsed : codec.parse msg = .ok event

/-- An anomaly, or the unexpected stop of a machine. -/
inductive Incoming (Payload : Type) where
  | anomaly (m : Received Payload (AnomalyDetected ℚ))
  | stopped (m : Received Payload NormalizedMachineEvent)
      (machineStopped : m.event.eventType = "MACHINE_STOPPED")

namespace Incoming

variable {Payload : Type} (cfg : Config) (rules : RuleCache)
  (providers : List NotificationProvider)

/-- The handler of the message. -/
def process : Incoming Payload → Alerting.Prog Bool
  | anomaly m => processAnomaly cfg rules providers m.codec m.msg
  | stopped m _ => processDeviceEvent cfg rules providers m.codec m.msg

/-- The rule's scope matches the machine, the device and the sensor. -/
def InScope (rule : AlertRule) : Incoming Payload → Prop
  | anomaly m => rule.scopeMatches m.event.machineId m.event.deviceId m.event.sensorId = true
  | stopped m _ => rule.scopeMatches m.event.machineId m.event.deviceId m.event.sensorId = true

/-- A rule for the organization and the metric matches in scope and, on the anomaly path, by its
condition. -/
def Matches (w : World) (rule : AlertRule) : Incoming Payload → Prop
  | anomaly m => rule.organizationId = m.event.organizationId ∧ rule.metric = m.event.metric
      ∧ Fires rule m.event w.counter
  | stopped m h => rule.organizationId = m.event.organizationId
      ∧ rule.metric = machineShutdownMetric ∧ InScope rule (stopped m h)

/-- The message is an anomaly, or all the shutdown rules of the organization are in scope. -/
def AllInScope : Incoming Payload → Prop
  | anomaly _ => True
  | stopped m h => ∀ rule ∈ rules.rulesFor m.event.organizationId machineShutdownMetric,
      InScope rule (stopped m h)

/-- Wherever statements fail, an alert is created only under a rule in scope; and if a rule matches
and nothing fails, a rule in scope is passed to `create_if_due`. -/
structure Scoped (w : World) (msg : Incoming Payload) : Prop where
  created : ∀ env v, (∃ e ∈ ((msg.process cfg rules providers).run World.exec env [] w).log,
      e.stmt = .insertAlert v) →
    ∃ rule ∈ rules.rules, rule.id = v.alertRuleId ∧ msg.InScope rule
  passed : (∃ rule ∈ rules.rules, msg.Matches w rule) →
    ∃ rule ∈ rules.rules, msg.InScope rule
      ∧ ∃ dedupeKey, .selectLatestAlert rule.id dedupeKey
        ∈ (msg.process cfg rules providers).trace World.exec w

end Incoming

/-! ### Which rules alerts are created under -/

/-- The statement creates no alert but under a rule with such an id. -/
def CreatesUnder (P : String → Prop) (c : Stmt) : Prop :=
  ∀ v, c = .insertAlert v → P v.alertRuleId

lemma createsUnder_of_announces {P : String → Prop} {c : Stmt} (h : c.announces = true) :
    CreatesUnder P c := by
  rintro v rfl
  cases h

lemma createsUnder_createIfDue (rule : AlertRule) (alert : Alert) (dedupeKey : String)
    {P : String → Prop} (hP : P rule.id) :
    Ensures (fun _ c => CreatesUnder P c)
      (AlertStore.createIfDue rule.id rule.cooldownSeconds alert dedupeKey) := by
  have hinsert : Ensures (fun _ c => CreatesUnder P c)
      (AlertStore.insert rule.id alert dedupeKey) := by
    refine ensures_bind (ensures_issue fun _ v hv => ?_) fun inserted => ?_
    · cases hv
      exact hP
    · cases inserted with
      | none => exact ensures_ret _
      | some row => exact ensures_ret _
  refine ensures_bind (ensures_issue fun _ v hv => by cases hv) fun row => ?_
  cases row with
  | none => exact hinsert
  | some last =>
      dsimp only
      split
      · exact ensures_ret _
      · refine ensures_bind (ensures_issue fun _ v hv => by cases hv) fun now => ?_
        split
        · exact ensures_ret _
        · exact hinsert

lemma createsUnder_createAlert (providers : List NotificationProvider) (rule : AlertRule)
    (alert : Alert) (dedupeKey payload correlationId sourceTopic : String) {P : String → Prop}
    (hP : P rule.id) :
    Ensures (fun _ c => CreatesUnder P c)
      (createAlert providers rule alert dedupeKey payload correlationId sourceTopic) := by
  have hannounce : ∀ (_ : Statement.Log Alerting PyError) (c : Stmt), c.announces = true →
      CreatesUnder P c := fun _ _ h => createsUnder_of_announces h
  refine ensures_bind (ensures_attempt (createsUnder_createIfDue rule alert dedupeKey hP))
    fun r => ?_
  rcases r with exc | ⟨_ | _ | _, _ | created⟩
  · exact ensures_bind (ensures_dlqOrHold hannounce) fun _ => ensures_ret _
  · exact ensures_ret _
  · exact ensures_bind (ensures_openOrAttachIncident hannounce) fun _ =>
      ensures_bind (ensures_publishAndNotify hannounce) fun _ => ensures_ret _
  all_goals exact ensures_ret _

lemma createsUnder_evaluateRules (cfg : Config) (providers : List NotificationProvider)
    (payload : String) (anomaly : AnomalyDetected ℚ) (rs : List AlertRule) :
    Ensures (fun _ c => CreatesUnder (fun id => ∃ rule ∈ rs, rule.id = id ∧ InScope rule anomaly) c)
      (evaluateRules cfg providers payload anomaly rs) := by
  induction rs with
  | nil => exact ensures_ret _
  | cons rule rest ih =>
      have hrest : Ensures (fun _ c => CreatesUnder
          (fun id => ∃ r ∈ rule :: rest, r.id = id ∧ InScope r anomaly) c)
          (evaluateRules cfg providers payload anomaly rest) := by
        refine fun l => ih.follows (fun _ c hc v hv => ?_) l
        obtain ⟨r, hr, h⟩ := hc v hv
        exact ⟨r, List.mem_cons_of_mem _ hr, h⟩
      refine ensures_bind ?_ fun returned => ?_
      · rw [evaluateRule]
        split
        · rename_i hscope
          refine ensures_bind ?_ fun count => ?_
          · rw [countInWindow]
            split
            · exact ensures_issue fun _ v hv => by cases hv
            · exact ensures_ret _
          · split
            · exact createsUnder_createAlert _ _ _ _ _ _ _ ⟨rule, List.mem_cons_self, rfl, hscope⟩
            · exact ensures_ret _
        · exact ensures_ret _
      · cases returned with
        | some shouldCommit => exact ensures_ret _
        | none => exact hrest

/-! ### Which rules are passed on -/

section Passed

variable (cfg : Config) (providers : List NotificationProvider) (payload : String)

/-- The first statement of a creation. -/
lemma select_mem_trace_createAlert (rule : AlertRule) (alert : Alert)
    (dedupeKey correlationId sourceTopic : String) (w : World) :
    .selectLatestAlert rule.id dedupeKey ∈
      (createAlert providers rule alert dedupeKey payload correlationId sourceTopic).trace
        World.exec w := by
  refine mem_trace_bind_left ?_
  rw [trace_attempt]
  exact mem_trace_bind_left (by rw [trace_issue]; exact List.mem_singleton.mpr rfl)

/-- A rule that fires is passed to `create_if_due`, whatever comes before it. -/
lemma select_mem_trace_evaluateRules {anomaly : AnomalyDetected ℚ} {rule : AlertRule}
    {rs : List AlertRule} (hrule : rule ∈ rs) (hnodup : (rs.map AlertRule.id).Nodup) {w : World}
    (hfires : Fires rule anomaly w.counter) :
    .selectLatestAlert rule.id (anomalyDedupeKey anomaly) ∈
      (evaluateRules cfg providers payload anomaly rs).trace World.exec w := by
  induction rs generalizing w with
  | nil => cases hrule
  | cons first rest ih =>
      rw [List.map_cons, List.nodup_cons] at hnodup
      rcases List.mem_cons.mp hrule with rfl | hmem
      · refine mem_trace_bind_left ?_
        rw [evaluateRule, if_pos hfires.1]
        refine mem_trace_bind_right (countInWindow_eval rule anomaly w) ?_
        rw [if_pos hfires.2]
        exact select_mem_trace_createAlert _ _ _ _ _ _ _ _
      · have hne : rule.id ≠ first.id := fun h =>
          hnodup.1 (h ▸ List.mem_map_of_mem hmem)
        obtain ⟨w', heval, hturn⟩ := evaluateRule_turn cfg providers payload first anomaly w
        refine mem_trace_bind_right heval (ih hmem hnodup.2 ⟨hfires.1, ?_⟩)
        rw [recorded_congr (hturn.counter_other hne.symm)]
        exact hfires.2

end Passed

/-! ### The two paths -/

section Paths

open Incoming (Scoped)

variable {Payload : Type} {cfg : Config} {rules : RuleCache}
  {providers : List NotificationProvider}

lemma process_anomaly (m : Received Payload (AnomalyDetected ℚ)) :
    (Incoming.anomaly m).process cfg rules providers
      = evaluateRules cfg providers (m.codec.text m.msg) m.event
        (rules.rulesFor m.event.organizationId m.event.metric) := by
  rw [Incoming.process, processAnomaly, m.parsed]

/-- **The anomaly path** minds the scope. -/
theorem scoped_anomaly (m : Received Payload (AnomalyDetected ℚ)) (w : World) :
    Scoped cfg rules providers w (.anomaly m) where
  created := by
    rintro env v ⟨e, he, hv⟩
    rw [process_anomaly] at he
    obtain ⟨rule, hrule, hid, hscope⟩ :=
      mem_log_of_ensures (createsUnder_evaluateRules cfg providers _ _ _) he v hv
    exact ⟨rule, RuleCache.mem_of_mem_rulesFor hrule, hid, hscope⟩
  passed := by
    rintro ⟨rule, hrule, horg, hmetric, hfires⟩
    refine ⟨rule, hrule, hfires.1, anomalyDedupeKey m.event, ?_⟩
    rw [process_anomaly]
    refine select_mem_trace_evaluateRules cfg providers _ ?_ (rules.rulesFor_ids_nodup _ _) hfires
    rw [← horg, ← hmetric]
    exact RuleCache.mem_rulesFor_self hrule

variable {m : Received Payload NormalizedMachineEvent}
  (h : m.event.eventType = "MACHINE_STOPPED")

/-- Without a shutdown rule nothing happens. -/
lemma process_stopped_nil
    (hnone : rules.rulesFor m.event.organizationId machineShutdownMetric = []) :
    (Incoming.stopped m h).process cfg rules providers = Statement.Prog.ret true := by
  rw [Incoming.process, processDeviceEvent, m.parsed]
  dsimp only
  rw [if_neg (not_not_intro h), hnone]
  rfl

/-- The first shutdown rule is the one an alert is created under. -/
lemma process_stopped_cons {rule : AlertRule} {rest : List AlertRule}
    (hfirst : rules.rulesFor m.event.organizationId machineShutdownMetric = rule :: rest) :
    (Incoming.stopped m h).process cfg rules providers
      = (createAlert providers rule (shutdownAlert rule m.event) ("shutdown:" ++ m.event.machineId)
          (m.codec.text m.msg) m.event.correlationId cfg.topicDeviceEvents).bind
        fun returned => Statement.Prog.ret (returned.getD true) := by
  rw [Incoming.process, processDeviceEvent, m.parsed]
  dsimp only
  rw [if_neg (not_not_intro h), hfirst]
  rfl

/-- The device path minds the scope where all the shutdown rules are in scope. -/
lemma scoped_stopped (hall : (Incoming.stopped m h).AllInScope rules) (w : World) :
    Scoped cfg rules providers w (.stopped m h) := by
  cases hrules : rules.rulesFor m.event.organizationId machineShutdownMetric with
  | nil =>
      constructor
      · rintro env v ⟨e, he, -⟩
        rw [process_stopped_nil h hrules] at he
        cases he
      · rintro ⟨rule, hrule, horg, hmetric, -⟩
        have hmem := RuleCache.mem_rulesFor_self hrule
        rw [horg, hmetric, hrules] at hmem
        cases hmem
  | cons rule rest =>
      have hmem : rule ∈ rules.rulesFor m.event.organizationId machineShutdownMetric := by
        rw [hrules]
        exact List.mem_cons_self
      have hrule := RuleCache.mem_of_mem_rulesFor hmem
      constructor
      · rintro env v ⟨e, he, hv⟩
        rw [process_stopped_cons h hrules] at he
        have hunder := ensures_bind (createsUnder_createAlert providers rule
          (shutdownAlert rule m.event) ("shutdown:" ++ m.event.machineId) (m.codec.text m.msg)
          m.event.correlationId cfg.topicDeviceEvents (P := fun id => rule.id = id) rfl)
          fun returned => ensures_ret (returned.getD true)
        exact ⟨rule, hrule, mem_log_of_ensures hunder he v hv, hall rule hmem⟩
      · intro _
        refine ⟨rule, hrule, hall rule hmem, "shutdown:" ++ m.event.machineId, ?_⟩
        rw [process_stopped_cons h hrules]
        exact mem_trace_bind_left (select_mem_trace_createAlert _ _ _ _ _ _ _ _)

/-- On fresh tables the first shutdown rule creates an alert. -/
lemma insert_mem_log (cfg : Config) (rules : RuleCache) (providers : List NotificationProvider)
    (m : Received Payload NormalizedMachineEvent) (h : m.event.eventType = "MACHINE_STOPPED")
    {rule : AlertRule} {rest : List AlertRule}
    (hfirst : rules.rulesFor m.event.organizationId machineShutdownMetric = rule :: rest) :
    ∃ e ∈ (((Incoming.stopped m h).process cfg rules providers).run World.exec
        (fun _ _ => .completes) [] .empty).log,
      e.stmt = .insertAlert ((shutdownAlert rule m.event).values rule.id
        ("shutdown:" ++ m.event.machineId)) := by
  have hlog := Statement.Prog.run_log_eq_trace (x := World.exec) (fun _ _ => rfl)
    ((Incoming.stopped m h).process cfg rules providers) [] .empty
  refine List.mem_map.mp ?_
  rw [hlog, process_stopped_cons h hfirst]
  refine mem_trace_bind_left (mem_trace_bind_left ?_)
  rw [trace_attempt]
  exact List.mem_cons_of_mem _ List.mem_cons_self

/-- **Alert rules apply in scope on both paths**, in whichever order the rows of the rules are read,
if and only if the message is an anomaly, or all the shutdown rules of its organization are in
scope. -/
theorem scoped_iff (cfg : Config) (rules : RuleCache) (providers : List NotificationProvider)
    (msg : Incoming Payload) :
    (∀ rules' : RuleCache, rules'.rules.Perm rules.rules → ∀ w,
        Scoped cfg rules' providers w msg) ↔ msg.AllInScope rules := by
  cases msg with
  | anomaly m => exact iff_of_true (fun _ _ w => scoped_anomaly m w) trivial
  | stopped m h =>
      constructor
      · intro hscoped rule hrule
        -- The rule may be the first row.
        have hmem := RuleCache.mem_of_mem_rulesFor hrule
        have hperm : (rule :: rules.rules.erase rule).Perm rules.rules :=
          (List.perm_cons_erase hmem).symm
        let rules' : RuleCache :=
          ⟨rule :: rules.rules.erase rule, ((hperm.map AlertRule.id).nodup_iff).mpr rules.ids_nodup⟩
        have hfirst : rules'.rulesFor m.event.organizationId machineShutdownMetric
            = rule :: (rules.rules.erase rule).filter fun rule =>
              rule.organizationId ++ "|" ++ rule.metric
                = m.event.organizationId ++ "|" ++ machineShutdownMetric :=
          List.filter_cons_of_pos (List.mem_filter.mp hrule).2
        obtain ⟨rule', hrule', hid, hscope⟩ := (hscoped rules' hperm .empty).created _ _
          (insert_mem_log cfg rules' providers m h hfirst)
        rwa [← rules'.eq_of_id_eq hrule' List.mem_cons_self hid]
      · intro hall rules' hperm w
        refine scoped_stopped h (fun rule hrule => hall rule ?_) w
        obtain ⟨hmem, hkey⟩ := List.mem_filter.mp hrule
        exact List.mem_filter.mpr ⟨hperm.mem_iff.mp hmem, hkey⟩

end Paths

/-! ### A rule for another machine -/

/-- A shutdown rule for the machine `m2`. -/
def pressRule : AlertRule where
  id := "r"
  organizationId := "org"
  name := "press stopped"
  metric := machineShutdownMetric
  condition := .GREATER_THAN
  severity := .HIGH
  machineId := some "m2"

/-- The machine `m1` has stopped. -/
def m1Stopped : NormalizedMachineEvent where
  organizationId := "org"
  machineId := "m1"
  deviceId := "d"
  eventType := "MACHINE_STOPPED"
  correlationId := "c"
  ingestedAt := ⟨0, some 0⟩

/-- **An alert out of scope**: `m1` stops, and an alert is created under the rule for `m2`. -/
theorem shutdown_out_of_scope :
    ¬ ∀ (cfg : Config) (rules : RuleCache) (providers : List NotificationProvider) (w : World)
      (msg : Incoming NormalizedMachineEvent), msg.Scoped cfg rules providers w := by
  intro h
  let rules : RuleCache := ⟨[pressRule], List.nodup_singleton _⟩
  let m : Received NormalizedMachineEvent NormalizedMachineEvent :=
    ⟨.plain "", m1Stopped, m1Stopped, rfl⟩
  have hcreated := insert_mem_log .default rules [] m rfl rfl
  obtain ⟨rule, hrule, -, hscope⟩ :=
    (h .default rules [] .empty (.stopped m rfl)).created _ _ hcreated
  obtain rfl := List.mem_singleton.mp hrule
  exact absurd hscope (show ¬ pressRule.scopeMatches "m1" "d" "" = true by decide)

end AlertService

end InduSense
