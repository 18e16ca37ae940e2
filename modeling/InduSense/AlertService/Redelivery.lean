import InduSense.AlertService.Evaluation

/-!
Redelivery of anomalies to one process of the alert service.

* `Delivery`, `handleAll`: the handling of a sequence of messages.
* `Idempotent`: a redelivery changes no alert, and a counting rule fires only on as many distinct
  anomalies as its threshold.
* `CountsAtOnce`: the condition on the rules under which that holds, `idempotent_iff`.
* `anomaly_counted_twice`: one anomaly delivered twice, under a rule that asks for two.
-/

namespace InduSense

namespace AlertService

/-! ### Messages -/

/-- A delivery of a message, with the time of its handling. -/
structure Delivery (Payload : Type) where
  receivedAt : Time
  payload : Payload

section Messages

variable {Payload : Type} (cfg : Config) (rules : RuleCache)
  (providers : List NotificationProvider) (codec : Codec Payload (AnomalyDetected ℚ))

/-- The world once a delivery has been handled. -/
def handle (w : World) (d : Delivery Payload) : World :=
  ((processAnomaly cfg rules providers codec d.payload).eval World.exec
    { w with now := d.receivedAt }).2

/-- The world once a sequence of deliveries has been handled. -/
def handleAll (ds : List (Delivery Payload)) (w : World) : World :=
  ds.foldl (handle cfg rules providers codec) w

/-- The anomalies a sequence of deliveries carries. -/
def anomalies (ds : List (Delivery Payload)) : List (AnomalyDetected ℚ) :=
  ds.filterMap fun d => (codec.parse d.payload).toOption

variable {cfg rules providers codec}

lemma handleAll_append (ds ds' : List (Delivery Payload)) (w : World) :
    handleAll cfg rules providers codec (ds ++ ds') w
      = handleAll cfg rules providers codec ds' (handleAll cfg rules providers codec ds w) :=
  List.foldl_append ..

lemma handleAll_cons (d : Delivery Payload) (ds : List (Delivery Payload)) (w : World) :
    handleAll cfg rules providers codec (d :: ds) w
      = handleAll cfg rules providers codec ds (handle cfg rules providers codec w d) := rfl

/-- What every statement preserves, whatever the clock shows, the handling of messages does. -/
lemma handleAll_preserves {I : World → Prop} (hexec : ∀ c w, I w → I (World.exec c w).2)
    (hnow : ∀ t w, I w → I { w with now := t }) (ds : List (Delivery Payload)) {w : World}
    (h : I w) : I (handleAll cfg rules providers codec ds w) := by
  induction ds generalizing w with
  | nil => exact h
  | cons d ds ih => exact ih (Statement.Prog.eval_preserves World.exec hexec _ (hnow _ _ h))

lemma neverResolved_handleAll (ds : List (Delivery Payload)) {w : World} (h : NeverResolved w) :
    NeverResolved (handleAll cfg rules providers codec ds w) :=
  handleAll_preserves NeverResolved.exec (fun _ _ h => h) ds h

lemma keyUsed_handleAll (ds : List (Delivery Payload)) {ruleId dedupeKey : String} {w : World}
    (h : KeyUsed ruleId dedupeKey w) :
    KeyUsed ruleId dedupeKey (handleAll cfg rules providers codec ds w) :=
  handleAll_preserves KeyUsed.exec (fun _ _ h => h) ds h

/-- A message that carries no anomaly changes no alert. -/
lemma handle_of_error {d : Delivery Payload} {e : PyError} (hd : codec.parse d.payload = .error e)
    (w : World) : (handle cfg rules providers codec w d).alerts = w.alerts := by
  rw [handle, processAnomaly, hd]
  exact (eval_announces (ensures_dlqOrHold fun _ _ h => h) _).1

variable (cfg rules providers) in
/-- The handling of an anomaly is the loop over its rules. -/
lemma handle_of_ok {d : Delivery Payload} {a : AnomalyDetected ℚ}
    (hd : codec.parse d.payload = .ok a) {w : World} (hw : NeverResolved w) :
    Rounds a (rules.rulesFor a.organizationId a.metric) { w with now := d.receivedAt }
      (handle cfg rules providers codec w d) := by
  have hw' : NeverResolved { w with now := d.receivedAt } := hw
  obtain ⟨w', heval, hrounds⟩ := evaluateRules_eval cfg providers (codec.text d.payload) a
    (rules.rulesFor a.organizationId a.metric) hw'
  rw [handle, processAnomaly, hd]
  dsimp only
  rw [heval]
  exact hrounds

end Messages

/-! ### What is asked of redeliveries -/

/-- `a'` counts for the rule in its window before `a`, for the same device. -/
abbrev CountsFor (rules : RuleCache) (rule : AlertRule) (a a' : AnomalyDetected ℚ) : Prop :=
  rule ∈ rules.rulesFor a'.organizationId a'.metric ∧ InScope rule a' ∧ a'.deviceId = a.deviceId
    ∧ a.detectedAt - seconds (max 0 rule.windowSeconds) ≤ a'.detectedAt
    ∧ a'.detectedAt ≤ a.detectedAt

/-- The ids of the anomalies among `as` that count for the rule with `a`. -/
def distinctCounted (rules : RuleCache) (rule : AlertRule) (as : List (AnomalyDetected ℚ))
    (a : AnomalyDetected ℚ) : Finset String :=
  ((as.filter fun a' => CountsFor rules rule a a').map AnomalyDetected.anomalyId).toFinset

/-- Evaluation is idempotent under a set of rules. From any state of the database in which no
anomaly has been counted: -/
structure Idempotent (cfg : Config) (rules : RuleCache) (providers : List NotificationProvider) :
    Prop where
  /-- handling a message again, at any later position, changes no alert, now or later; -/
  redelivered : ∀ {Payload : Type} (codec : Codec Payload (AnomalyDetected ℚ))
    (ops : List Operation) (before : List (Delivery Payload)) (d : Delivery Payload)
    (between : List (Delivery Payload)) (again : Delivery Payload)
    (after : List (Delivery Payload)), again.payload = d.payload →
    (handleAll cfg rules providers codec (before ++ d :: between ++ again :: after)
        (Operation.applyAll ops .empty)).alerts
      = (handleAll cfg rules providers codec (before ++ d :: between ++ after)
        (Operation.applyAll ops .empty)).alerts
  /-- and an alert of a counting rule appears only once enough distinct anomalies count. -/
  counted : ∀ {Payload : Type} (codec : Codec Payload (AnomalyDetected ℚ))
    (ops : List Operation) (before : List (Delivery Payload)) (d : Delivery Payload)
    (a : AnomalyDetected ℚ), codec.parse d.payload = .ok a →
    ∀ rule ∈ rules.rules, rule.condition = .ANOMALY_COUNT → ∀ k, rule.thresholdValue = some k →
    ∀ r ∈ (handleAll cfg rules providers codec (before ++ [d])
        (Operation.applyAll ops .empty)).alerts.rows,
      r ∉ (handleAll cfg rules providers codec before
        (Operation.applyAll ops .empty)).alerts.rows →
      r.alertRuleId = rule.id →
      k ≤ (distinctCounted rules rule (anomalies codec (before ++ [d])) a).card

/-- A rule whose count decides nothing: it counts, and one anomaly is enough. -/
def AtOnce (rule : AlertRule) : Prop :=
  rule.condition = .ANOMALY_COUNT → ∀ k, rule.thresholdValue = some k → k ≤ 1

/-- Every counting rule with a threshold has one of at most one. -/
def CountsAtOnce (rules : RuleCache) : Prop := ∀ rule ∈ rules.rules, AtOnce rule

/-! ### Rules whose count decides nothing -/

/-- The anomaly at hand is always counted. -/
lemma one_le_recorded {rule : AlertRule} (h : rule.condition = .ANOMALY_COUNT)
    (a : AnomalyDetected ℚ) (counter : AnomalyCountTracker) :
    1 ≤ (recorded rule a counter).1 := by
  rw [recorded, if_pos h, AnomalyCountTracker.record]
  simp only [List.length_append, List.length_singleton]
  omega

/-- Such a rule fires or not whatever has been counted. -/
lemma AtOnce.fires_iff {rule : AlertRule} (h : AtOnce rule) (a : AnomalyDetected ℚ)
    (counter counter' : AnomalyCountTracker) :
    Fires rule a counter ↔ Fires rule a counter' := by
  have key : ∀ c c', Fires rule a c → Fires rule a c' := by
    rintro c c' ⟨hscope, hcond⟩
    refine ⟨hscope, ?_⟩
    by_cases hcount : rule.condition = .ANOMALY_COUNT
    · obtain ⟨t, ht, -⟩ := (conditionMatches_count_iff hcount a.value _).mp hcond
      refine (conditionMatches_count_iff hcount a.value _).mpr ⟨t, ht, ?_⟩
      have hone : (1 : ℚ) ≤ (recorded rule a c').1 := by
        exact_mod_cast one_le_recorded hcount a c'
      exact (h hcount t ht).trans hone
    · rwa [conditionMatches_of_ne_count hcount]
  exact ⟨key _ _, key _ _⟩

/-- A round uses the rule's key if the rule fires, and no other key. -/
lemma Round.keyUsed_iff {rule : AlertRule} {a : AnomalyDetected ℚ} {w w' : World}
    (h : Round rule a w w') (ruleId dedupeKey : String) :
    KeyUsed ruleId dedupeKey w' ↔ KeyUsed ruleId dedupeKey w
      ∨ (ruleId = rule.id ∧ dedupeKey = anomalyDedupeKey a ∧ Fires rule a w.counter) := by
  have halerts := h.alerts
  split at halerts
  · rename_i hnew
    have hrows := (AlertTable.insertAlert_of_latest_eq_none (v := anomalyValues rule a)
      hnew.2 w.now).2
    rw [← halerts] at hrows
    rw [KeyUsed, hrows]
    constructor
    · rintro ⟨r, hr, hk⟩
      rcases List.mem_append.mp hr with hr | hr
      · exact .inl ⟨r, hr, hk⟩
      · rw [List.mem_singleton.mp hr] at hk
        exact .inr ⟨hk.1.symm, hk.2.symm, hnew.1⟩
    · rintro (⟨r, hr, hk⟩ | ⟨rfl, rfl, -⟩)
      · exact ⟨r, List.mem_append_left _ hr, hk⟩
      · exact ⟨_, List.mem_append_right _ (List.mem_singleton_self _), rfl, rfl⟩
  · rename_i hold
    rw [KeyUsed, halerts]
    refine ⟨.inl, fun hor => ?_⟩
    rcases hor with hused | ⟨rfl, rfl, hfires⟩
    · exact hused
    · by_contra hunused
      exact hold ⟨hfires, AlertTable.latest_eq_none_iff.mpr fun r hr hk => hunused ⟨r, hr, hk⟩⟩

/-- On the same alerts at the same time, such a rule does the same to them. -/
lemma Round.alerts_congr {rule : AlertRule} (hrule : AtOnce rule) {a : AnomalyDetected ℚ}
    {w₁ w₁' w₂ w₂' : World} (h₁ : Round rule a w₁ w₁') (h₂ : Round rule a w₂ w₂')
    (halerts : w₁.alerts = w₂.alerts) (hnow : w₁.now = w₂.now) : w₁'.alerts = w₂'.alerts := by
  rw [h₁.alerts, h₂.alerts, halerts, hnow]
  exact if_congr (and_congr_left' (hrule.fires_iff a _ _)) rfl rfl

lemma Rounds.alerts_congr {a : AnomalyDetected ℚ} {rs : List AlertRule}
    (hrs : ∀ rule ∈ rs, AtOnce rule) {w₁ w₁' w₂ w₂' : World} (h₁ : Rounds a rs w₁ w₁')
    (h₂ : Rounds a rs w₂ w₂') (halerts : w₁.alerts = w₂.alerts) (hnow : w₁.now = w₂.now) :
    w₁'.alerts = w₂'.alerts := by
  induction h₁ generalizing w₂ with
  | nil w =>
      cases h₂
      exact halerts
  | cons hw round rounds ih =>
      cases h₂ with
      | cons hw₂ round₂ rounds₂ =>
          refine ih (fun r hr => hrs r (List.mem_cons_of_mem _ hr)) rounds₂ ?_ ?_
          · exact Round.alerts_congr (hrs _ List.mem_cons_self) round round₂ halerts hnow
          · rw [round.now, round₂.now, hnow]

/-- The loop forgets no key. -/
lemma Rounds.keyUsed {a : AnomalyDetected ℚ} {rs : List AlertRule} {w w' : World}
    (h : Rounds a rs w w') {ruleId dedupeKey : String} (hused : KeyUsed ruleId dedupeKey w) :
    KeyUsed ruleId dedupeKey w' := by
  induction h with
  | nil w => exact hused
  | cons hw round rounds ih => exact ih ((round.keyUsed_iff _ _).mpr (.inl hused))

/-- After the loop the keys of all the rules that fire are used. -/
lemma Rounds.used {a : AnomalyDetected ℚ} {rs : List AlertRule} {w w' : World}
    (h : Rounds a rs w w') (hrs : ∀ rule ∈ rs, AtOnce rule) :
    ∀ rule ∈ rs, ∀ counter, Fires rule a counter → KeyUsed rule.id (anomalyDedupeKey a) w' := by
  induction h with
  | nil w =>
      intro rule hrule
      cases hrule
  | cons hw round rounds ih =>
      intro rule hrule counter hfires
      rcases List.mem_cons.mp hrule with rfl | hrule
      · refine rounds.keyUsed ((round.keyUsed_iff _ _).mpr (.inr ⟨rfl, rfl, ?_⟩))
        exact ((hrs _ List.mem_cons_self).fires_iff a _ _).mp hfires
      · exact ih (fun r hr => hrs r (List.mem_cons_of_mem _ hr)) rule hrule counter hfires

/-- When they are used already, the loop changes no alert. -/
lemma Rounds.muted {a : AnomalyDetected ℚ} {rs : List AlertRule} {w w' : World}
    (h : Rounds a rs w w')
    (hused : ∀ rule ∈ rs, ∀ counter, Fires rule a counter →
      KeyUsed rule.id (anomalyDedupeKey a) w) : w'.alerts = w.alerts := by
  induction h with
  | nil w => rfl
  | @cons rule rest w w₁ w' hw round rounds ih =>
      have hsame : w₁.alerts = w.alerts := by
        rw [round.alerts, if_neg]
        rintro ⟨hfires, hlatest⟩
        obtain ⟨r, hr, hk⟩ := hused _ List.mem_cons_self _ hfires
        exact AlertTable.latest_eq_none_iff.mp hlatest r hr hk
      rw [← hsame]
      refine ih fun r hr counter hfires => ?_
      obtain ⟨row, hrow, hk⟩ := hused r (List.mem_cons_of_mem _ hr) counter hfires
      exact ⟨row, hsame.symm ▸ hrow, hk⟩

/-- The rows the loop adds are of rules whose scope matches. -/
lemma Rounds.mem_rows {a : AnomalyDetected ℚ} {rs : List AlertRule} {w w' : World}
    (h : Rounds a rs w w') {r : AlertRow} (hr : r ∈ w'.alerts.rows) :
    r ∈ w.alerts.rows ∨ ∃ rule ∈ rs, InScope rule a ∧ r.alertRuleId = rule.id := by
  induction h with
  | nil w => exact .inl hr
  | @cons rule rest w w₁ w' hw round rounds ih =>
      rcases ih hr with hr | ⟨rule', hmem, hrule'⟩
      · rw [round.alerts] at hr
        split at hr
        · rename_i hnew
          rw [(AlertTable.insertAlert_of_latest_eq_none (v := anomalyValues rule a)
            hnew.2 w.now).2] at hr
          rcases List.mem_append.mp hr with hr | hr
          · exact .inl hr
          · refine .inr ⟨rule, List.mem_cons_self, hnew.1.1, ?_⟩
            rw [List.mem_singleton.mp hr]
            rfl
        · exact .inl hr
      · exact .inr ⟨rule', List.mem_cons_of_mem _ hmem, hrule'⟩

/-! ### Redelivery under such rules -/

section AtOnceRules

variable {Payload : Type} {cfg : Config} {rules : RuleCache} {providers : List NotificationProvider}
  {codec : Codec Payload (AnomalyDetected ℚ)} (hrules : CountsAtOnce rules)
include hrules

/-- On the same alerts, a delivery does the same to them. -/
lemma handle_alerts_congr (d : Delivery Payload) {w₁ w₂ : World} (hw₁ : NeverResolved w₁)
    (halerts : w₁.alerts = w₂.alerts) :
    (handle cfg rules providers codec w₁ d).alerts
      = (handle cfg rules providers codec w₂ d).alerts := by
  have hw₂ : NeverResolved w₂ := by
    intro r hr
    exact hw₁ r (halerts ▸ hr)
  cases hd : codec.parse d.payload with
  | error e => rw [handle_of_error hd, handle_of_error hd, halerts]
  | ok a =>
      refine Rounds.alerts_congr (fun rule hrule => ?_) (handle_of_ok _ _ _ hd hw₁)
        (handle_of_ok _ _ _ hd hw₂) halerts rfl
      exact hrules rule (RuleCache.mem_of_mem_rulesFor hrule)

/-- So does a sequence of deliveries. -/
lemma handleAll_alerts_congr (ds : List (Delivery Payload)) {w₁ w₂ : World}
    (hw₁ : NeverResolved w₁) (halerts : w₁.alerts = w₂.alerts) :
    (handleAll cfg rules providers codec ds w₁).alerts
      = (handleAll cfg rules providers codec ds w₂).alerts := by
  induction ds generalizing w₁ w₂ with
  | nil => exact halerts
  | cons d ds ih =>
      refine ih ?_ (handle_alerts_congr hrules d hw₁ halerts)
      exact neverResolved_handleAll [d] hw₁

/-- A delivery of a message handled earlier changes no alert. -/
lemma handle_again_alerts {d again : Delivery Payload} (hsame : again.payload = d.payload)
    (between : List (Delivery Payload)) {w : World} (hw : NeverResolved w) :
    (handle cfg rules providers codec
        (handleAll cfg rules providers codec (d :: between) w) again).alerts
      = (handleAll cfg rules providers codec (d :: between) w).alerts := by
  cases hd : codec.parse d.payload with
  | error e => exact handle_of_error (hsame ▸ hd) _
  | ok a =>
      have hw' : NeverResolved (handleAll cfg rules providers codec (d :: between) w) :=
        neverResolved_handleAll _ hw
      refine (handle_of_ok _ _ _ (hsame ▸ hd) hw').muted fun rule hrule counter hfires => ?_
      -- The first delivery has used the key, and nothing since has freed it.
      have hfirst : KeyUsed rule.id (anomalyDedupeKey a)
          (handle cfg rules providers codec w d) :=
        (handle_of_ok _ _ _ hd hw).used (fun r hr => hrules r (RuleCache.mem_of_mem_rulesFor hr))
          rule hrule counter hfires
      exact keyUsed_handleAll between hfirst

/-- **Redelivery changes nothing** when no rule's count decides anything. -/
theorem idempotent_of_countsAtOnce : Idempotent cfg rules providers where
  redelivered := by
    intro Payload codec ops before d between again after hsame
    have hw : NeverResolved (handleAll cfg rules providers codec before
        (Operation.applyAll ops .empty)) :=
      neverResolved_handleAll before (neverResolved_applyAll ops)
    have hw' : NeverResolved (handleAll cfg rules providers codec (d :: between)
        (handleAll cfg rules providers codec before (Operation.applyAll ops .empty))) :=
      neverResolved_handleAll _ hw
    rw [handleAll_append (before ++ d :: between), handleAll_append (before ++ d :: between),
      handleAll_append before (d :: between), handleAll_cons again]
    refine handleAll_alerts_congr hrules after (neverResolved_handleAll [again] hw') ?_
    exact handle_again_alerts hrules hsame between hw
  counted := by
    intro Payload codec ops before d a hd rule hrule hcount k hk r hr hnew hid
    have hw : NeverResolved (handleAll cfg rules providers codec before
        (Operation.applyAll ops .empty)) :=
      neverResolved_handleAll before (neverResolved_applyAll ops)
    rw [handleAll_append] at hr
    rcases (handle_of_ok _ _ _ hd hw).mem_rows hr with hold | ⟨rule', hmem, hscope, hid'⟩
    · exact absurd hold hnew
    · have heq : rule' = rule :=
        rules.eq_of_id_eq (RuleCache.mem_of_mem_rulesFor hmem) hrule (hid'.symm.trans hid)
      subst heq
      have hwindow : a.detectedAt - seconds (max 0 rule'.windowSeconds) ≤ a.detectedAt := by
        have h : (0 : ℤ) ≤ seconds (max 0 rule'.windowSeconds) := by
          rw [seconds]
          positivity
        exact sub_le_self _ h
      set as := anomalies codec (before ++ [d]) with has
      have hself : a.anomalyId ∈ distinctCounted rules rule' as a := by
        rw [distinctCounted, List.mem_toFinset, has]
        refine List.mem_map_of_mem (List.mem_filter.mpr ⟨?_, ?_⟩)
        · refine List.mem_filterMap.mpr ⟨d, List.mem_append_right _ (List.mem_singleton_self d), ?_⟩
          rw [hd]
          rfl
        · exact decide_eq_true ⟨hmem, hscope, rfl, hwindow, le_rfl⟩
      have hcard : (1 : ℚ) ≤ (distinctCounted rules rule' as a).card := by
        exact_mod_cast Finset.card_pos.mpr ⟨_, hself⟩
      exact (hrules rule' hrule hcount k hk).trans hcard

end AtOnceRules

/-! ### A rule that counts to more than one -/

/-- The times a rule has counted, after another anomaly. -/
def timesAfter (rule : AlertRule) (a : AnomalyDetected ℚ) (times : List Time) : List Time :=
  times.filter (fun t => a.detectedAt - seconds rule.windowSeconds ≤ t) ++ [a.detectedAt]

/-- A round of another rule leaves a rule's count as it is: the keys differ. -/
lemma Round.counter_of_id_ne {rule other : AlertRule} (hid : other.id ≠ rule.id)
    {a : AnomalyDetected ℚ} {w w' : World} (h : Round other a w w') :
    w'.counter (countKey rule a) = w.counter (countKey rule a) := by
  rw [h.counter]
  split
  · exact recorded_of_id_ne hid a w.counter
  · rfl

lemma Rounds.counter_of_id_ne {rule : AlertRule} {a : AnomalyDetected ℚ} {rs : List AlertRule}
    (hid : ∀ other ∈ rs, other.id ≠ rule.id) {w w' : World} (h : Rounds a rs w w') :
    w'.counter (countKey rule a) = w.counter (countKey rule a)
      ∧ (KeyUsed rule.id (anomalyDedupeKey a) w' ↔ KeyUsed rule.id (anomalyDedupeKey a) w) := by
  induction h with
  | nil w => exact ⟨rfl, Iff.rfl⟩
  | cons hw round rounds ih =>
      obtain ⟨hcounter, hused⟩ := ih fun r hr => hid r (List.mem_cons_of_mem _ hr)
      have hne := hid _ List.mem_cons_self
      refine ⟨hcounter.trans (round.counter_of_id_ne hne), hused.trans ?_⟩
      rw [round.keyUsed_iff]
      exact ⟨fun h => h.resolve_right fun h => hne h.1.symm, .inl⟩

/-- What the loop does to a counting rule whose scope matches. -/
lemma Rounds.counter_self {rule : AlertRule} (hcount : rule.condition = .ANOMALY_COUNT)
    {a : AnomalyDetected ℚ} (hscope : InScope rule a) {rs : List AlertRule}
    (hnodup : (rs.map AlertRule.id).Nodup) (hmem : rule ∈ rs) {w w' : World}
    (h : Rounds a rs w w') :
    w'.counter (countKey rule a) = timesAfter rule a (w.counter (countKey rule a))
      ∧ (KeyUsed rule.id (anomalyDedupeKey a) w' ↔ KeyUsed rule.id (anomalyDedupeKey a) w
        ∨ conditionMatches rule a.value
            (timesAfter rule a (w.counter (countKey rule a))).length = true) := by
  induction h with
  | nil w => cases hmem
  | @cons head rest w w₁ w' hw round rounds ih =>
      rw [List.map_cons, List.nodup_cons] at hnodup
      rcases List.mem_cons.mp hmem with rfl | hmem
      · have hrest : ∀ other ∈ rest, other.id ≠ rule.id := fun other ho he =>
          hnodup.1 (he ▸ List.mem_map_of_mem ho)
        obtain ⟨hcounter, hused⟩ := rounds.counter_of_id_ne hrest
        have hfires : Fires rule a w.counter ↔ conditionMatches rule a.value
            (timesAfter rule a (w.counter (countKey rule a))).length = true := by
          rw [Fires, recorded, if_pos hcount]
          exact and_iff_right hscope
        refine ⟨?_, ?_⟩
        · rw [hcounter, round.counter, if_pos hscope, recorded, if_pos hcount]
          exact Function.update_self ..
        · rw [hused, round.keyUsed_iff, hfires]
          exact or_congr_right ⟨fun h => h.2.2, fun h => ⟨rfl, rfl, h⟩⟩
      · have hne : head.id ≠ rule.id := fun he => hnodup.1 (he ▸ List.mem_map_of_mem hmem)
        have hsingle : Rounds a [head] w w₁ := .cons hw round (.nil w₁)
        have hhead := hsingle.counter_of_id_ne fun other ho => List.mem_singleton.mp ho ▸ hne
        obtain ⟨hcounter, hused⟩ := ih hnodup.2 hmem
        rw [hhead.1] at hcounter hused
        rw [hhead.2] at hused
        exact ⟨hcounter, hused⟩

/-- An interval no shorter than a rule's window, whatever its sign. -/
def interval (rule : AlertRule) : ℤ := |rule.windowSeconds| + 1

/-- Anomalies for a rule: the first at time 0, the `m`-th later `n - m` intervals after it. -/
def spaced (rule : AlertRule) (n m : ℕ) : AnomalyDetected ℚ where
  anomalyId := toString m
  eventId := toString m
  organizationId := rule.organizationId
  factoryId := ""
  productionLineId := ""
  machineId := rule.machineId.getD ""
  deviceId := rule.deviceId.getD ""
  sensorId := rule.sensorId.getD ""
  metric := rule.metric
  value := 0
  severity := .WARNING
  score := 0
  methods := []
  reason := ""
  detectedAt := if m = 0 then 0 else seconds ((n - m) * interval rule)

lemma inScope_spaced (rule : AlertRule) (n m : ℕ) : InScope rule (spaced rule n m) := by
  have hfield : ∀ field : Option String, AlertRule.scopeField field (field.getD "") = true := by
    intro field
    cases field with
    | none => rfl
    | some scope => exact decide_eq_true rfl
  rw [InScope, AlertRule.scopeMatches, spaced]
  simp only [hfield, Bool.and_self]

section Violation

variable (cfg : Config) {rules : RuleCache} (providers : List NotificationProvider)
  {rule : AlertRule} {n : ℕ}

/-- What the rule has counted of the spaced anomalies. -/
abbrev counted (rule : AlertRule) (n : ℕ) (w : World) : List Time :=
  w.counter (countKey rule (spaced rule n 0))

/-- The rule has raised an alert for them. -/
abbrev Raised (rule : AlertRule) (n : ℕ) (w : World) : Prop :=
  KeyUsed rule.id (anomalyDedupeKey (spaced rule n 0)) w

/-- The delivery of one of them. -/
def spacedDelivery (rule : AlertRule) (n m : ℕ) : Delivery (AnomalyDetected ℚ) :=
  ⟨0, spaced rule n m⟩

/-- The deliveries of the first and of the next `m`. -/
def spacedUpTo (rule : AlertRule) (n m : ℕ) : List (Delivery (AnomalyDetected ℚ)) :=
  spacedDelivery rule n 0 :: (List.range m).map fun i => spacedDelivery rule n (i + 1)

lemma spacedUpTo_succ (rule : AlertRule) (n m : ℕ) :
    spacedUpTo rule n (m + 1) = spacedUpTo rule n m ++ [spacedDelivery rule n (m + 1)] := by
  rw [spacedUpTo, spacedUpTo, List.range_succ, List.map_append]
  rfl

/-- A time at or after the window's start stays, with one more behind it. -/
lemma timesAfter_of_le {a : AnomalyDetected ℚ} {times : List Time}
    (h : ∀ t ∈ times, a.detectedAt - seconds rule.windowSeconds ≤ t) :
    timesAfter rule a times = times ++ [a.detectedAt] := by
  rw [timesAfter, List.filter_eq_self.mpr fun t ht => decide_eq_true (h t ht)]

/-- The windows are shorter than the intervals. -/
lemma window_lt_interval (rule : AlertRule) :
    rule.windowSeconds < interval rule ∧ -rule.windowSeconds < interval rule := by
  have h₁ := le_abs_self rule.windowSeconds
  have h₂ := neg_le_abs rule.windowSeconds
  rw [interval]
  omega

/-- The rule has counted `m` of the spaced anomalies, none earlier than the `m`-th, and has raised
no alert. -/
structure Waiting (rule : AlertRule) (n m : ℕ) (w : World) : Prop where
  neverResolved : NeverResolved w
  length : (counted rule n w).length = m
  later : ∀ t ∈ counted rule n w, seconds ((n - m) * interval rule) ≤ t
  notRaised : ¬ Raised rule n w

variable (hrule : rule ∈ rules.rules) (hcount : rule.condition = .ANOMALY_COUNT) {k : ℚ}
  (hk : rule.thresholdValue = some k)
include hrule hcount hk

/-- The handling of one: it is counted, and the alert is raised when there are enough. -/
lemma handle_spaced (m : ℕ) {w : World} (hw : NeverResolved w) :
    counted rule n (handle cfg rules providers (.plain "") w (spacedDelivery rule n m))
        = timesAfter rule (spaced rule n m) (counted rule n w)
      ∧ (Raised rule n (handle cfg rules providers (.plain "") w (spacedDelivery rule n m))
        ↔ Raised rule n w
          ∨ k ≤ (timesAfter rule (spaced rule n m) (counted rule n w)).length) := by
  have hparse : (Codec.plain "").parse (spacedDelivery rule n m).payload
      = .ok (spaced rule n m) := rfl
  have hrounds := handle_of_ok cfg rules providers hparse hw
  obtain ⟨hcounter, hused⟩ := hrounds.counter_self hcount (inScope_spaced rule n m)
    (rules.rulesFor_ids_nodup _ _) (RuleCache.mem_rulesFor_self hrule)
  refine ⟨hcounter, hused.trans (or_congr_right ?_)⟩
  rw [conditionMatches_count_iff hcount]
  constructor
  · rintro ⟨t, ht, hle⟩
    rw [hk, Option.some.injEq] at ht
    exact ht ▸ hle
  · exact fun hle => ⟨k, hk, hle⟩

/-- After the first anomaly and the second, the first is too old to count. -/
lemma waiting_one (hn : ∀ m : ℕ, m < n → (m : ℚ) < k) (htwo : 1 < n) :
    Waiting rule n 1
      (handleAll cfg rules providers (.plain "") (spacedUpTo rule n 1) .empty) := by
  have hempty : NeverResolved World.empty := fun r hr => by cases hr
  have hfew : ¬ k ≤ ((1 : ℕ) : ℚ) := not_le.mpr (hn 1 htwo)
  have h₀ := handle_spaced cfg providers (n := n) hrule hcount hk 0 hempty
  set w₀ := handle cfg rules providers (.plain "") World.empty (spacedDelivery rule n 0)
  have hw₀ : NeverResolved w₀ := neverResolved_handleAll [spacedDelivery rule n 0] hempty
  have hcounted₀ : counted rule n w₀ = [0] := h₀.1
  have hraised₀ : ¬ Raised rule n w₀ := by
    rw [h₀.2]
    rintro (⟨r, hr, -⟩ | hle)
    · cases hr
    · exact hfew hle
  have h₁ := handle_spaced cfg providers (n := n) hrule hcount hk 1 hw₀
  have hdropped : timesAfter rule (spaced rule n 1) [0] = [(spaced rule n 1).detectedAt] := by
    have hpos : 0 < (spaced rule n 1).detectedAt - seconds rule.windowSeconds := by
      have hn' : (2 : ℤ) ≤ n := by exact_mod_cast htwo
      have hwindow := window_lt_interval rule
      have hmul : interval rule ≤ (n - 1) * interval rule := by nlinarith
      simp only [spaced, seconds, one_ne_zero, if_false, Nat.cast_one]
      linarith
    rw [timesAfter, List.filter_eq_nil_iff.mpr, List.nil_append]
    intro t ht
    rw [List.mem_singleton.mp ht]
    simpa using hpos
  rw [hcounted₀, hdropped] at h₁
  refine ⟨neverResolved_handleAll [spacedDelivery rule n 1] hw₀, congrArg List.length h₁.1,
    fun t ht => ?_, fun h => (h₁.2.mp h).elim hraised₀ hfew⟩
  have ht' : t ∈ [(spaced rule n 1).detectedAt] := h₁.1 ▸ ht
  rw [List.mem_singleton.mp ht']
  simp [spaced]

/-- One more is counted with all those before it, an interval later or more. -/
lemma Waiting.succ (hn : ∀ m : ℕ, m < n → (m : ℚ) < k) {m : ℕ} {w : World}
    (h : Waiting rule n m w) (hlt : m + 1 < n) :
    Waiting rule n (m + 1)
      (handle cfg rules providers (.plain "") w (spacedDelivery rule n (m + 1))) := by
  have hstep := handle_spaced cfg providers (n := n) hrule hcount hk
    (m + 1) h.neverResolved
  have hat : (spaced rule n (m + 1)).detectedAt = seconds ((n - (m + 1)) * interval rule) := by
    simp [spaced]
  have hlater : ∀ t ∈ counted rule n w,
      seconds ((n - (m + 1)) * interval rule) + seconds (interval rule) ≤ t := by
    intro t ht
    calc seconds ((n - (m + 1)) * interval rule) + seconds (interval rule)
        = seconds ((n - m) * interval rule) := by rw [seconds, seconds, seconds]; ring
      _ ≤ t := h.later t ht
  have hwindow := window_lt_interval rule
  rw [timesAfter_of_le fun t ht => ?_] at hstep
  · have hlen : (counted rule n w ++ [(spaced rule n (m + 1)).detectedAt]).length = m + 1 := by
      rw [List.length_append, h.length, List.length_singleton]
    rw [hlen] at hstep
    refine ⟨neverResolved_handleAll [spacedDelivery rule n (m + 1)] h.neverResolved,
      (congrArg List.length hstep.1).trans hlen, fun t ht => ?_,
      fun hr => (hstep.2.mp hr).elim h.notRaised (not_le.mpr (hn _ hlt))⟩
    have ht' : t ∈ counted rule n w ++ [(spaced rule n (m + 1)).detectedAt] := hstep.1 ▸ ht
    push_cast
    rcases List.mem_append.mp ht' with ht' | ht'
    · have hle := hlater t ht'
      have hpos : 0 ≤ seconds (interval rule) := by
        rw [seconds]
        linarith
      linarith
    · rw [List.mem_singleton.mp ht', hat]
  · have hle := hlater t ht
    rw [hat]
    simp only [seconds] at hle ⊢
    linarith

lemma waiting_spacedUpTo (hn : ∀ m : ℕ, m < n → (m : ℚ) < k) (htwo : 1 < n) {m : ℕ} (hm : 1 ≤ m)
    (hlt : m < n) :
    Waiting rule n m
      (handleAll cfg rules providers (.plain "") (spacedUpTo rule n m) .empty) := by
  induction m, hm using Nat.le_induction with
  | base => exact waiting_one cfg providers hrule hcount hk hn htwo
  | succ m hm ih =>
      rw [spacedUpTo_succ, handleAll_append]
      exact (ih (Nat.lt_of_succ_lt hlt)).succ cfg providers hrule hcount hk hn hlt

/-- When one is missing, the first once more makes them enough. -/
lemma Waiting.again {w : World} (h : Waiting rule n (n - 1) w) (hkn : k ≤ n) (htwo : 1 < n) :
    Raised rule n (handle cfg rules providers (.plain "") w (spacedDelivery rule n 0)) := by
  have hstep := handle_spaced cfg providers (n := n) hrule hcount hk 0
    h.neverResolved
  refine hstep.2.mpr (.inr ?_)
  rw [timesAfter_of_le fun t ht => ?_]
  · rw [List.length_append, h.length, List.length_singleton, Nat.sub_add_cancel htwo.le]
    exact hkn
  · have hle := h.later t ht
    have hone : ((n : ℤ) - ((n - 1 : ℕ) : ℤ)) = 1 := by omega
    have hwindow := window_lt_interval rule
    rw [hone, one_mul] at hle
    simp only [spaced, seconds, if_true] at hle ⊢
    linarith

end Violation

/-- **When evaluation is idempotent.** A redelivery changes no alert, and a counting rule fires only
on as many distinct anomalies as its threshold, exactly when no counting rule has a threshold
above one. -/
theorem idempotent_iff (cfg : Config) (rules : RuleCache) (providers : List NotificationProvider) :
    Idempotent cfg rules providers ↔ CountsAtOnce rules := by
  constructor
  · intro hidem rule hrule hcount k hk
    by_contra hlt
    have hlt : 1 < k := not_le.mp hlt
    set n := ⌈k⌉₊ with hn
    have hbelow : ∀ m : ℕ, m < n → (m : ℚ) < k := fun m hm => Nat.lt_ceil.mp hm
    have htwo : 1 < n := Nat.lt_ceil.mpr (by exact_mod_cast hlt)
    have hwaiting := waiting_spacedUpTo cfg providers hrule hcount hk hbelow
      htwo (m := n - 1) (by omega) (by omega)
    have hraised := hwaiting.again cfg providers hrule hcount hk
      (Nat.le_ceil k) htwo
    have hsame := hidem.redelivered (.plain "") [] [] (spacedDelivery rule n 0)
      ((List.range (n - 1)).map fun i => spacedDelivery rule n (i + 1)) (spacedDelivery rule n 0) []
      rfl
    rw [List.nil_append, List.append_nil, handleAll_append] at hsame
    obtain ⟨r, hr, hkey⟩ := hraised
    exact hwaiting.notRaised ⟨r, hsame ▸ hr, hkey⟩
  · exact idempotent_of_countsAtOnce

/-- A rule that asks for two anomalies within five minutes. -/
def twiceRule : AlertRule :=
  { id := "rule", organizationId := "org", name := "two anomalies", metric := "temperature",
    condition := .ANOMALY_COUNT, thresholdValue := some 2, severity := .HIGH, windowSeconds := 300 }

/-- The only rule. -/
def twiceRules : RuleCache := ⟨[twiceRule], by decide⟩

/-- An anomaly of one pump. -/
def pumpAnomaly : Delivery (AnomalyDetected ℚ) :=
  ⟨1000000, ⟨"a1", "e1", "org", "f1", "l1", "m1", "d1", "s1", "temperature", 90, .WARNING, 1,
    ["rule"], "too hot", 0⟩⟩

/-- Delivered once the anomaly raises no alert; delivered twice it does. -/
theorem anomaly_counted_twice :
    (handleAll .default twiceRules [.console] (.plain "") [pumpAnomaly] .empty).alerts.rows = []
      ∧ ((handleAll .default twiceRules [.console] (.plain "") [pumpAnomaly, pumpAnomaly]
          .empty).alerts.rows.map fun r => (r.alertRuleId, r.dedupeKey))
        = [("rule", "d1:temperature")] := by
  decide +kernel

end AlertService

end InduSense
