import InduSense.AlertService.Evaluation

/-!
The order of the rows `RuleCache.refresh` reads.

* `Turn.opens_iff`: the rules do not disturb each other's alerts.
* `Outcome`, `evaluateRules_outcome`: what the loop leaves.
* `outcome_of_reorder`: two orders of the rows create the same alerts, and they leave the same
  severity on a new incident when the first rules that open an alert have the same one.
-/

namespace InduSense

/-- The row but for its generated id. -/
def AlertRow.content (r : AlertRow) : AlertRow := { r with id := 0 }

lemma AlertRow.content_opened (v : NewAlert) (now : Time) (id : AlertId) :
    (AlertRow.opened v now id).content = .opened v now 0 := rfl

namespace AlertService

/-! ### The rules among themselves -/

/-- Another rule opens an alert after the round if and only if it would have before. -/
lemma Turn.opens_iff {rule other : AlertRule} (hid : rule.id ≠ other.id)
    {anomaly : AnomalyDetected ℚ} {w w' : World} (h : Turn rule anomaly w w') :
    Opens other anomaly w' ↔ Opens other anomaly w := by
  have hcount : (recorded other anomaly w'.counter).1 = (recorded other anomaly w.counter).1 :=
    recorded_congr (h.counter_other hid)
  set new := if Opens rule anomaly w then
    [AlertRow.opened (anomalyValues rule anomaly) w.now w.alerts.nextId] else [] with hnewdef
  have hrows : w'.alerts.rows = w.alerts.rows ++ new := h.rows
  -- the row the round adds has another key
  have hnew : ∀ r ∈ new, ¬ r.HasKey other.id (anomalyDedupeKey anomaly) := by
    intro r hr hkey
    rw [hnewdef] at hr
    split at hr
    · rw [List.mem_singleton.mp hr] at hkey
      exact hid hkey.1
    · cases hr
  have hnone : new.filter (fun r => r.HasKey other.id (anomalyDedupeKey anomaly)) = [] :=
    List.filter_eq_nil_iff.mpr fun r hr => by simpa using hnew r hr
  have hlatest : w'.alerts.latest other.id (anomalyDedupeKey anomaly)
      = w.alerts.latest other.id (anomalyDedupeKey anomaly) := by
    rw [AlertTable.latest, AlertTable.latest, AlertTable.withKey, AlertTable.withKey, hrows,
      List.filter_append, hnone, List.append_nil]
  have hopen : (∀ r ∈ w'.alerts.rows, r.HasKey other.id (anomalyDedupeKey anomaly) →
        r.status ≠ .OPEN)
      ↔ ∀ r ∈ w.alerts.rows, r.HasKey other.id (anomalyDedupeKey anomaly) → r.status ≠ .OPEN := by
    rw [hrows]
    refine ⟨fun hall r hr => hall r (List.mem_append_left _ hr), fun hall r hr hkey => ?_⟩
    rcases List.mem_append.mp hr with hr | hr
    · exact hall r hr hkey
    · exact absurd hkey (hnew r hr)
  rw [Opens, Opens, Fires, Fires, AlertStore.Due, AlertStore.Due, hcount, hlatest, hopen, h.now]

/-! ### The loop -/

/-- The rules that open an alert on the anomaly, in the order of the rows. -/
def opening (rs : List AlertRule) (anomaly : AnomalyDetected ℚ) (w : World) : List AlertRule :=
  rs.filter fun rule => Opens rule anomaly w

/-- The severity of the first rule that opens an alert, if one does. -/
def firstSeverity (rs : List AlertRule) (anomaly : AnomalyDetected ℚ) (w : World) :
    Option Severity :=
  (opening rs anomaly w).head?.map AlertRule.severity

/-- What the loop leaves: one alert of every rule that opens one, and the incident of the machine
linked to the first of them. -/
structure Outcome (anomaly : AnomalyDetected ℚ) (rs : List AlertRule) (w w' : World) : Prop where
  alerts : ∃ new, w'.alerts.rows = w.alerts.rows ++ new ∧ new.map AlertRow.content
    = (opening rs anomaly w).map fun rule => .opened (anomalyValues rule anomaly) w.now 0
  severity : activeSeverity w' anomaly.machineId
    = linkedTo anomaly.machineId (activeSeverity w anomaly.machineId) (firstSeverity rs anomaly w)

lemma Outcome.nil (anomaly : AnomalyDetected ℚ) (w : World) : Outcome anomaly [] w w where
  alerts := ⟨[], (List.append_nil _).symm, rfl⟩
  severity := (linkedTo_none _ _).symm

/-- One round and the rest of the loop. -/
lemma Outcome.cons {anomaly : AnomalyDetected ℚ} {rule : AlertRule} {rest : List AlertRule}
    {w w₁ w' : World} (hids : ∀ other ∈ rest, rule.id ≠ other.id) (turn : Turn rule anomaly w w₁)
    (outcome : Outcome anomaly rest w₁ w') : Outcome anomaly (rule :: rest) w w' := by
  have hrest : opening rest anomaly w₁ = opening rest anomaly w :=
    List.filter_congr fun other hother => decide_eq_decide.mpr (turn.opens_iff (hids other hother))
  obtain ⟨new, hrows, hnew⟩ := outcome.alerts
  have hseverity := outcome.severity
  rw [firstSeverity, hrest, turn.severity, linkedTo_linkedTo] at hseverity
  rw [hrest, turn.now] at hnew
  rw [turn.rows, List.append_assoc] at hrows
  by_cases hopens : Opens rule anomaly w
  · have hcons : opening (rule :: rest) anomaly w = rule :: opening rest anomaly w :=
      List.filter_cons_of_pos (decide_eq_true hopens)
    rw [if_pos hopens] at hseverity hrows
    refine ⟨⟨_, hrows, ?_⟩, ?_⟩
    · rw [hcons, List.singleton_append, List.map_cons, List.map_cons, AlertRow.content_opened, hnew]
    · rw [hseverity, firstSeverity, hcons]
      rfl
  · have hcons : opening (rule :: rest) anomaly w = opening rest anomaly w :=
      List.filter_cons_of_neg (by simpa using hopens)
    rw [if_neg hopens] at hseverity hrows
    refine ⟨⟨_, hrows, ?_⟩, ?_⟩
    · rw [hcons, List.nil_append, hnew]
    · rw [hseverity, firstSeverity, hcons, Option.none_or]

/-- The loop runs through all the rules, and the message is done with. -/
lemma evaluateRules_outcome (cfg : Config) (providers : List NotificationProvider)
    (payload : String) (anomaly : AnomalyDetected ℚ) {rs : List AlertRule}
    (hids : (rs.map AlertRule.id).Nodup) (w : World) :
    ∃ w', (evaluateRules cfg providers payload anomaly rs).eval World.exec w = (.ok true, w')
      ∧ Outcome anomaly rs w w' := by
  induction rs generalizing w with
  | nil => exact ⟨w, rfl, .nil anomaly w⟩
  | cons rule rest ih =>
      rw [List.map_cons, List.nodup_cons] at hids
      obtain ⟨w₁, heval, hturn⟩ := evaluateRule_turn cfg providers payload rule anomaly w
      obtain ⟨w', hrest, houtcome⟩ := ih hids.2 w₁
      refine ⟨w', ?_, .cons (fun other hother hid => hids.1 ?_) hturn houtcome⟩
      · rw [evaluateRules, Statement.Prog.bind_eq, Statement.Prog.eval_bind, heval]
        exact hrest
      · exact hid ▸ List.mem_map_of_mem hother

/-! ### Two orders of the rows -/

section Orders

variable {Payload : Type} (cfg : Config) (providers : List NotificationProvider)

/-- The database once a message has been processed under some rules. -/
def processed (rules : RuleCache) (codec : Codec Payload (AnomalyDetected ℚ)) (msg : Payload)
    (w : World) : World :=
  ((processAnomaly cfg rules providers codec msg).eval World.exec w).2

/-- Two runs from `w` have created the same alerts: the rows each has appended are the same but for
their ids and their order. -/
def SameAlerts (w w₁ w₂ : World) : Prop :=
  ∃ new₁ new₂, w₁.alerts.rows = w.alerts.rows ++ new₁ ∧ w₂.alerts.rows = w.alerts.rows ++ new₂
    ∧ (new₁.map AlertRow.content).Perm (new₂.map AlertRow.content)

variable {codec : Codec Payload (AnomalyDetected ℚ)} {msg : Payload} {anomaly : AnomalyDetected ℚ}

lemma processed_outcome (rules : RuleCache) (hmsg : codec.parse msg = .ok anomaly) (w : World) :
    Outcome anomaly (rules.rulesFor anomaly.organizationId anomaly.metric) w
      (processed cfg providers rules codec msg w) := by
  obtain ⟨w', heval, houtcome⟩ := evaluateRules_outcome cfg providers (codec.text msg) anomaly
    (rules.rulesFor_ids_nodup anomaly.organizationId anomaly.metric) w
  rw [processed, processAnomaly, hmsg]
  dsimp only
  rw [heval]
  exact houtcome

/-- **Two orders of the rows**: an anomaly creates the same alerts; and it leaves the machine's
active incident with the same severity if and only if there was one before, or the anomaly names no
machine, or the first rules that open an alert have the same severity. -/
theorem outcome_of_reorder {rules rules' : RuleCache} (hrules : rules.rules.Perm rules'.rules)
    (hmsg : codec.parse msg = .ok anomaly) (w : World) :
    SameAlerts w (processed cfg providers rules codec msg w)
        (processed cfg providers rules' codec msg w)
      ∧ (activeSeverity (processed cfg providers rules codec msg w) anomaly.machineId
          = activeSeverity (processed cfg providers rules' codec msg w) anomaly.machineId
        ↔ anomaly.machineId = "" ∨ (activeSeverity w anomaly.machineId).isSome
          ∨ firstSeverity (rules.rulesFor anomaly.organizationId anomaly.metric) anomaly w
            = firstSeverity (rules'.rulesFor anomaly.organizationId anomaly.metric) anomaly w) := by
  have houtcome := processed_outcome cfg providers rules hmsg w
  have houtcome' := processed_outcome cfg providers rules' hmsg w
  constructor
  · obtain ⟨new, hrows, hnew⟩ := houtcome.alerts
    obtain ⟨new', hrows', hnew'⟩ := houtcome'.alerts
    refine ⟨new, new', hrows, hrows', ?_⟩
    rw [hnew, hnew']
    exact ((hrules.filter _).filter _).map _
  · rw [houtcome.severity, houtcome'.severity]
    exact linkedTo_eq_iff

end Orders

/-- A rule on a warm pump. -/
def warmRule : AlertRule :=
  { id := "warm", organizationId := "org", name := "warm", metric := "temperature",
    condition := .GREATER_THAN, thresholdValue := some 70, severity := .WARNING }

/-- A rule on a hot one. -/
def hotRule : AlertRule :=
  { id := "hot", organizationId := "org", name := "hot", metric := "temperature",
    condition := .GREATER_THAN, thresholdValue := some 90, severity := .CRITICAL }

/-- The two rules in one order. -/
def warmFirst : RuleCache := ⟨[warmRule, hotRule], by decide⟩

/-- The two rules in the other order. -/
def hotFirst : RuleCache := ⟨[hotRule, warmRule], by decide⟩

/-- An anomaly of a hot pump. -/
def overheated : AnomalyDetected ℚ :=
  ⟨"a1", "e1", "org", "f1", "l1", "m1", "d1", "s1", "temperature", 95, .WARNING, 1, [], "too hot",
    0⟩

theorem outcome_of_reorder_overheated :
    SameAlerts .empty (processed .default [.console] warmFirst (.plain "") overheated .empty)
        (processed .default [.console] hotFirst (.plain "") overheated .empty)
      ∧ activeSeverity (processed .default [.console] warmFirst (.plain "") overheated .empty) "m1"
        ≠ activeSeverity (processed .default [.console] hotFirst (.plain "") overheated .empty)
          "m1" := by
  have h := @outcome_of_reorder _ .default [.console] (.plain "") overheated overheated warmFirst
    hotFirst (List.Perm.swap hotRule warmRule []) rfl .empty
  exact ⟨h.1, fun hsame => absurd (h.2.mp hsame) (by decide +kernel)⟩

/-- The incident takes the severity of the rule whose row is read first. -/
theorem first_row_sets_severity :
    warmFirst.rules.Perm hotFirst.rules
      ∧ activeSeverity (processed .default [.console] warmFirst (.plain "") overheated .empty) "m1"
        = some .WARNING
      ∧ activeSeverity (processed .default [.console] hotFirst (.plain "") overheated .empty) "m1"
        = some .CRITICAL :=
  ⟨List.Perm.swap hotRule warmRule [], by decide +kernel, by decide +kernel⟩

end AlertService

end InduSense
