import InduSense.Shared.Events

/-!
Alert rules: `rules.py`, `conditions.py`.

* `AlertRule`, `RuleCache`: the active rules; a cache holds the rows of a table with a primary
  key, so its ids are distinct.
* `conditionMatches`: the condition of one rule.
-/

namespace InduSense

namespace AlertService

/-- The conditions of the `CHECK` constraint on `alert_rules`. -/
inductive AlertCondition where
  | GREATER_THAN
  | LESS_THAN
  | OUTSIDE_RANGE
  | ANOMALY_COUNT
  deriving DecidableEq

/-- `AlertRule`. -/
structure AlertRule where
  id : String
  organizationId : String
  name : String
  metric : String
  condition : AlertCondition
  thresholdValue : Option ℚ := none
  thresholdMin : Option ℚ := none
  thresholdMax : Option ℚ := none
  severity : Severity
  cooldownSeconds : ℤ := 0
  windowSeconds : ℤ := 0
  machineId : Option String := none
  deviceId : Option String := none
  sensorId : Option String := none
  deriving DecidableEq

/-- One field of a rule's scope; `None` is a wildcard. -/
def AlertRule.scopeField (field : Option String) (value : String) : Bool :=
  match field with
  | none => true
  | some scope => scope = value

/-- `AlertRule.scope_matches`. -/
def AlertRule.scopeMatches (rule : AlertRule) (machineId deviceId sensorId : String) : Bool :=
  scopeField rule.machineId machineId && scopeField rule.deviceId deviceId
    && scopeField rule.sensorId sensorId

/-- `condition_matches`. -/
def conditionMatches (rule : AlertRule) (value : ℚ) (countInWindow : ℕ) : Bool :=
  match rule.condition with
  | .GREATER_THAN => rule.thresholdValue.any fun t => decide (t < value)
  | .LESS_THAN => rule.thresholdValue.any fun t => decide (value < t)
  | .OUTSIDE_RANGE =>
      match rule.thresholdMin, rule.thresholdMax with
      | some lo, some hi => decide (value < lo) || decide (hi < value)
      | _, _ => false
  | .ANOMALY_COUNT => rule.thresholdValue.any fun t => decide (t ≤ (countInWindow : ℚ))

/-- Only a counting rule looks at the count. -/
lemma conditionMatches_of_ne_count {rule : AlertRule} (h : rule.condition ≠ .ANOMALY_COUNT)
    (value : ℚ) (n m : ℕ) : conditionMatches rule value n = conditionMatches rule value m := by
  rw [conditionMatches, conditionMatches]
  cases hc : rule.condition with
  | ANOMALY_COUNT => exact absurd hc h
  | _ => rfl

/-- A counting rule fires when the count has reached its threshold. -/
lemma conditionMatches_count_iff {rule : AlertRule} (h : rule.condition = .ANOMALY_COUNT)
    (value : ℚ) (n : ℕ) :
    conditionMatches rule value n = true ↔ ∃ t, rule.thresholdValue = some t ∧ t ≤ n := by
  rw [conditionMatches, h]
  simp only [Option.any_eq_true, decide_eq_true_eq]

/-- `RuleCache`: the rows `refresh` has read last. -/
structure RuleCache where
  rules : List AlertRule
  ids_nodup : (rules.map AlertRule.id).Nodup

namespace RuleCache

/-- `RuleCache.rules_for`: the rules filed under the same key, in the order of the rows. -/
def rulesFor (cache : RuleCache) (orgId metric : String) : List AlertRule :=
  cache.rules.filter fun rule => rule.organizationId ++ "|" ++ rule.metric = orgId ++ "|" ++ metric

lemma mem_of_mem_rulesFor {cache : RuleCache} {orgId metric : String} {rule : AlertRule}
    (h : rule ∈ cache.rulesFor orgId metric) : rule ∈ cache.rules :=
  List.mem_of_mem_filter h

/-- A rule is found under its own organization and metric. -/
lemma mem_rulesFor_self {cache : RuleCache} {rule : AlertRule} (h : rule ∈ cache.rules) :
    rule ∈ cache.rulesFor rule.organizationId rule.metric :=
  List.mem_filter.mpr ⟨h, decide_eq_true rfl⟩

/-- The rules of one key have distinct ids. -/
lemma rulesFor_ids_nodup (cache : RuleCache) (orgId metric : String) :
    ((cache.rulesFor orgId metric).map AlertRule.id).Nodup :=
  cache.ids_nodup.sublist (List.filter_sublist.map _)

/-- A rule of the cache is determined by its id. -/
lemma eq_of_id_eq (cache : RuleCache) {a b : AlertRule} (ha : a ∈ cache.rules)
    (hb : b ∈ cache.rules) (h : a.id = b.id) : a = b :=
  List.inj_on_of_nodup_map cache.ids_nodup ha hb h

end RuleCache

end AlertService

end InduSense
