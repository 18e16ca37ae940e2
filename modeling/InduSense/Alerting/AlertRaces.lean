import InduSense.Api.Handlers
import InduSense.AlertService.Main

/-!
Concurrent calls on alerts: creations, acknowledgements and escalation sweeps, any number of
each, their statements interleaved in any order with the passage of time.

* `AlertCall`, `AlertCall.prog`: the calls and the programs they run.
* `alerts_step`: all that a step can do to the alerts.
* `AtMostOneUnresolved`: the purpose of the deduplication, and `InsertsUnacknowledged`, the
  condition under which it is met.
* `AcknowledgedFrozen`: the purpose of an acknowledgement, and `EscalatesUnacknowledged`, the
  condition under which it is met.
-/

namespace InduSense

open Statement (Pool Move EachStep EachState)
open AlertService (Alert Config)

namespace AlertRaces

/-- The calls that act on alerts: `create_if_due`, an acknowledge request, and one round of the
escalation sweeper. -/
inductive AlertCall where
  | createIfDue (ruleId : String) (cooldownSeconds : ℤ) (alert : Alert) (dedupeKey : String)
  | acknowledge (id : AlertId) (claims : Api.Claims)
  | sweep

/-- The program of a call; the instances of the alert service share their configuration. -/
def AlertCall.prog (cfg : Config) : AlertCall → Alerting.Prog Unit
  | createIfDue ruleId cooldownSeconds alert dedupeKey => do
      let _ ← AlertService.AlertStore.createIfDue ruleId cooldownSeconds alert dedupeKey
      return ()
  | acknowledge id claims => Api.acknowledgeAlert id claims
  | sweep => AlertService.escalationSweep cfg (AlertService.buildProviders cfg)

/-- The calls `ι` running on a world. -/
abbrev Calls (ι : Type) := Pool Alerting PyError Unit World ι

variable {ι : Type} [DecidableEq ι]

/-- One statement of one call, or the passage of time. -/
abbrev step : Calls ι → Move ι ℕ → Calls ι := Pool.step World.exec World.tick

omit [DecidableEq ι] in
/-- The calls before their first statements. -/
abbrev start (cfg : Config) (calls : ι → AlertCall) (w : World) : Calls ι :=
  Pool.start (fun i => (calls i).prog cfg) w

/-- The alerts stored. -/
abbrev alerts (p : Calls ι) : AlertTable := p.store.alerts

/-! ### What a step can do to the alerts -/

/-- A step leaves the alerts alone, or a call inserts, escalates or acknowledges. -/
lemma alerts_step (p : Calls ι) (m : Move ι ℕ) :
    alerts (step p m) = alerts p
      ∨ (∃ i v, m = .thread i ∧ p.next i = some (.insertAlert v)
          ∧ (alerts (step p m)).rows
              = (alerts p).rows ++ [.opened v p.store.now (alerts p).nextId]
          ∧ (alerts (step p m)).nextId = (alerts p).nextId + 1
          ∧ (∀ r ∈ (alerts p).rows, r.HasKey v.alertRuleId v.dedupeKey → r.status ≠ .OPEN)
          ∧ (step p m).seen i = p.seen i
              ++ [⟨.insertAlert v, .ok (some ((alerts p).nextId, p.store.now))⟩])
      ∨ (∃ i id sev, m = .thread i ∧ p.next i = some (.escalateAlert id sev)
          ∧ (alerts (step p m)).rows = (alerts p).rows.map (.escalated id sev p.store.now)
          ∧ (alerts (step p m)).nextId = (alerts p).nextId)
      ∨ ∃ i id org, m = .thread i ∧ p.next i = some (.acknowledgeAlert id org)
          ∧ (alerts (step p m)).rows = (alerts p).rows.map (.acknowledged id org)
          ∧ (alerts (step p m)).nextId = (alerts p).nextId := by
  rcases Pool.step_cases World.exec World.tick p m with
    ⟨e, rfl, hs⟩ | ⟨i, rfl, -, hs⟩ | ⟨i, c, k, rfl, -, hnext, hs⟩
  · exact .inl rfl
  · exact .inl (by rw [step, hs])
  · have hstore : (step p (.thread i)).store = (World.exec c p.store).2 := by rw [step, hs]
    rw [alerts, hstore]
    rcases World.exec_alerts c p.store with
      h | ⟨v, rfl, hrows, hid, hans, hopen⟩ | ⟨id, sev, rfl, hrows, hid⟩
      | ⟨id, org, rfl, hrows, hid⟩
    · exact .inl h
    · refine .inr (.inl ⟨i, v, rfl, hnext, hrows, hid, hopen, ?_⟩)
      rw [step, hs, hans]
      exact Function.update_self ..
    · exact .inr (.inr (.inl ⟨i, id, sev, rfl, hnext, hrows, hid⟩))
    · exact .inr (.inr (.inr ⟨i, id, org, rfl, hnext, hrows, hid⟩))

/-- The escalation of a call that is about to escalate. -/
lemma alerts_step_escalate {p : Calls ι} {i : ι} {id : Option AlertId} {sev : Severity}
    (h : p.next i = some (.escalateAlert id sev)) :
    (alerts (step p (.thread i))).rows = (alerts p).rows.map (.escalated id sev p.store.now) := by
  rcases Pool.step_cases World.exec World.tick p (.thread i) with
    ⟨e, he, -⟩ | ⟨j, hj, hnone, -⟩ | ⟨j, c, k, hj, -, hnext, hs⟩
  · cases he
  · cases hj
    rw [hnone] at h
    cases h
  · cases hj
    rw [hnext, Option.some.injEq] at h
    subst h
    rw [alerts, step, hs]
    exact (AlertTable.escalateAlert_rows ..).1

/-- The insertion of a call that is about to insert: it appends its row, or an alert is open
already and nothing changes. -/
lemma alerts_step_insert {p : Calls ι} {i : ι} {v : NewAlert}
    (h : p.next i = some (.insertAlert v)) :
    (alerts (step p (.thread i))).rows
        = (alerts p).rows ++ [.opened v p.store.now (alerts p).nextId]
      ∨ ∃ r ∈ (alerts p).rows, r.HasKey v.alertRuleId v.dedupeKey ∧ r.status = .OPEN := by
  rcases Pool.step_cases World.exec World.tick p (.thread i) with
    ⟨e, he, -⟩ | ⟨j, hj, hnone, -⟩ | ⟨j, c, k, hj, -, hnext, hs⟩
  · cases he
  · cases hj
    rw [hnone] at h
    cases h
  · cases hj
    rw [hnext, Option.some.injEq] at h
    subst h
    rcases (alerts p).insertAlert_cases v p.store.now with ⟨t', ht', hrows, -⟩ | ⟨-, hopen⟩
    · refine .inl ?_
      rw [alerts, step, hs]
      simp only [World.exec, ht', hrows]
    · exact .inr hopen

/-! ### At most one unresolved alert for a key -/

/-- No two alerts of one key are unresolved. -/
def AtMostOneUnresolved (t : AlertTable) : Prop :=
  t.rows.Pairwise fun a b =>
    ¬ (a.HasKey b.alertRuleId b.dedupeKey ∧ a.status ≠ .RESOLVED ∧ b.status ≠ .RESOLVED)

instance (t : AlertTable) : Decidable (AtMostOneUnresolved t) :=
  inferInstanceAs (Decidable (List.Pairwise _ _))

/-- Every insertion is made while each alert of its key is open or resolved, so that the unique
index covers the ones that are not resolved. -/
def InsertsUnacknowledged (p : Calls ι) : Move ι ℕ → Prop
  | .outside _ => True
  | .thread i => ∀ v, p.next i = some (.insertAlert v) →
      ∀ r ∈ (alerts p).rows, r.HasKey v.alertRuleId v.dedupeKey →
        r.status = .OPEN ∨ r.status = .RESOLVED

/-- Rewriting rows without changing keys, and without unresolving any, keeps the property. -/
lemma atMostOneUnresolved_map {t t' : AlertTable} {f : AlertRow → AlertRow}
    (hrows : t'.rows = t.rows.map f) (hkey : ∀ r, (f r).alertRuleId = r.alertRuleId)
    (hdedupe : ∀ r, (f r).dedupeKey = r.dedupeKey)
    (hstatus : ∀ r, (f r).status ≠ .RESOLVED → r.status ≠ .RESOLVED)
    (h : AtMostOneUnresolved t) : AtMostOneUnresolved t' := by
  rw [AtMostOneUnresolved, hrows, List.pairwise_map]
  refine h.imp fun hab hfab => hab ?_
  obtain ⟨⟨hk, hd⟩, ha, hb⟩ := hfab
  rw [hkey, hkey] at hk
  rw [hdedupe, hdedupe] at hd
  exact ⟨⟨hk, hd⟩, hstatus _ ha, hstatus _ hb⟩

/-- A step that meets the condition keeps the property. -/
lemma atMostOneUnresolved_step {p : Calls ι} {m : Move ι ℕ} (hp : AtMostOneUnresolved (alerts p))
    (hm : InsertsUnacknowledged p m) : AtMostOneUnresolved (alerts (step p m)) := by
  rcases alerts_step p m with
    h | ⟨i, v, rfl, hnext, hrows, -, hopen, -⟩ | ⟨i, id, sev, -, -, hrows, -⟩
    | ⟨i, id, org, -, -, hrows, -⟩
  · rw [h]
    exact hp
  · rw [AtMostOneUnresolved, hrows, List.pairwise_append]
    refine ⟨hp, List.pairwise_singleton _ _, fun a ha b hb => ?_⟩
    rw [List.mem_singleton.mp hb]
    rintro ⟨hk, hunresolved, -⟩
    rcases hm v hnext a ha hk with ho | hres
    · exact hopen a ha hk ho
    · exact hunresolved hres
  · refine atMostOneUnresolved_map hrows ?_ ?_ ?_ hp
    · exact AlertRow.escalated_alertRuleId id sev p.store.now
    · exact AlertRow.escalated_dedupeKey id sev p.store.now
    · intro r hr
      rwa [AlertRow.escalated_status] at hr
  · refine atMostOneUnresolved_map hrows ?_ ?_ ?_ hp
    · exact AlertRow.acknowledged_alertRuleId id org
    · exact AlertRow.acknowledged_dedupeKey id org
    · intro r hr
      rcases r.acknowledged_status id org with h | ⟨h, -⟩
      · rwa [h] at hr
      · rw [h]
        decide

/-- A step between two states with the property meets the condition. -/
lemma insertsUnacknowledged_of_step {p : Calls ι} {m : Move ι ℕ}
    (hp : AtMostOneUnresolved (alerts p)) (hp' : AtMostOneUnresolved (alerts (step p m))) :
    InsertsUnacknowledged p m := by
  cases m with
  | outside e => trivial
  | thread i =>
      intro v hnext r hr hk
      by_contra hst
      rw [not_or] at hst
      rcases alerts_step_insert hnext with hrows | ⟨a, ha, hka, hopen⟩
      · -- The insertion went through beside the unresolved alert.
        rw [AtMostOneUnresolved, hrows, List.pairwise_append] at hp'
        refine hp'.2.2 r hr _ (List.mem_singleton_self _) ⟨hk, hst.2, ?_⟩
        exact AlertStatus.noConfusion
      · -- Two alerts of the key were unresolved already.
        have hne : r ≠ a := fun h => hst.1 (h ▸ hopen)
        have hsymm : Std.Symm fun a b : AlertRow =>
            ¬ (a.HasKey b.alertRuleId b.dedupeKey ∧ a.status ≠ .RESOLVED ∧ b.status ≠ .RESOLVED) :=
          ⟨fun x y hxy ⟨⟨h₁, h₂⟩, hx, hy⟩ => hxy ⟨⟨h₁.symm, h₂.symm⟩, hy, hx⟩⟩
        refine hp.forall hr ha hne ⟨⟨?_, ?_⟩, hst.2, ?_⟩
        · rw [hk.1, hka.1]
        · rw [hk.2, hka.2]
        · rw [hopen]
          decide

/-- **Deduplication under concurrency.** From alerts with at most one unresolved for each key,
a run of any number of calls keeps it so exactly when every insertion is made while no alert of
its key is acknowledged. -/
theorem atMostOneUnresolved_run_iff (cfg : Config) (calls : ι → AlertCall) (w : World)
    (hw : AtMostOneUnresolved w.alerts) (sched : List (Move ι ℕ)) :
    EachState step (fun p => AtMostOneUnresolved (alerts p)) sched (start cfg calls w)
      ↔ EachStep step InsertsUnacknowledged sched (start cfg calls w) := by
  constructor
  · intro h
    exact Statement.eachStep_of_eachState (J := fun _ => True)
      (I := fun p : Calls ι => AtMostOneUnresolved (alerts p)) (fun _ _ _ => trivial)
      (fun _ _ _ hp hp' => insertsUnacknowledged_of_step hp hp') trivial h
  · intro h
    exact Statement.eachState_of_eachStep (J := fun _ => True)
      (I := fun p : Calls ι => AtMostOneUnresolved (alerts p)) (fun _ _ _ => trivial)
      (fun _ _ _ hp hm => atMostOneUnresolved_step hp hm) trivial hw h

/-- The alert of a hot pump. -/
def pumpAlert : Alert where
  organizationId := "org"
  severity := .WARNING
  machineId := "m1"
  deviceId := "d1"
  title := "Temperature high"

/-- Two instances raise the alert of one key, and a technician acknowledges the first. -/
def twoCreations : Fin 3 → AlertCall
  | 0 => .createIfDue "rule" 300 pumpAlert "d1:temperature"
  | 1 => .createIfDue "rule" 300 pumpAlert "d1:temperature"
  | 2 => .acknowledge 0 ⟨"org", "u1"⟩

/-- Both instances find no alert; the second inserts after the acknowledgement. -/
def insertAfterAcknowledge : List (Move (Fin 3) ℕ) :=
  [.thread 0, .thread 1, .thread 0, .thread 2, .thread 1]

/-- The condition on the tables before a run holds of the empty ones. -/
theorem atMostOneUnresolved_run_iff_empty :
    AtMostOneUnresolved World.empty.alerts
      ∧ (EachState step (fun p => AtMostOneUnresolved (alerts p)) insertAfterAcknowledge
            (start .default twoCreations .empty)
          ↔ EachStep step InsertsUnacknowledged insertAfterAcknowledge
            (start .default twoCreations .empty)) :=
  ⟨by decide, atMostOneUnresolved_run_iff .default twoCreations .empty (by decide) _⟩

/-- The second insertion makes a second unresolved alert. -/
theorem acknowledged_alert_duplicated :
    AtMostOneUnresolved World.empty.alerts
      ∧ ¬ AtMostOneUnresolved (alerts
          ((start .default twoCreations .empty).exec World.exec World.tick
            insertAfterAcknowledge)) := by
  decide +kernel

/-! ### Acknowledging stops escalation -/

/-- The columns an escalation writes. -/
abbrev SameEscalation (a b : AlertRow) : Prop :=
  a.severity = b.severity ∧ a.escalationLevel = b.escalationLevel
    ∧ a.lastEscalatedAt = b.lastEscalatedAt

/-- Once an alert is acknowledged, the columns an escalation writes keep their values to the end
of the run. -/
def AcknowledgedFrozen (sched : List (Move ι ℕ)) (p : Calls ι) : Prop :=
  ∀ l₁ l₂, l₁ ++ l₂ <+: sched →
    ∀ r ∈ (alerts (p.exec World.exec World.tick l₁)).rows, r.status = .ACKNOWLEDGED →
      ∃ r' ∈ (alerts (p.exec World.exec World.tick (l₁ ++ l₂))).rows,
        r'.id = r.id ∧ SameEscalation r' r

/-- Every escalation finds its alert not acknowledged, although it does not look. -/
def EscalatesUnacknowledged (p : Calls ι) : Move ι ℕ → Prop
  | .outside _ => True
  | .thread i => ∀ id sev, p.next i = some (.escalateAlert id sev) →
      ∀ r ∈ (alerts p).rows, some r.id = id → r.status ≠ .ACKNOWLEDGED

/-- A step that meets the condition leaves an acknowledged alert acknowledged, with the same
escalation. -/
lemma acknowledged_step {p : Calls ι} {m : Move ι ℕ} (hm : EscalatesUnacknowledged p m)
    {r : AlertRow} (hr : r ∈ (alerts p).rows) (hack : r.status = .ACKNOWLEDGED) :
    ∃ r' ∈ (alerts (step p m)).rows, r'.id = r.id ∧ r'.status = .ACKNOWLEDGED
      ∧ SameEscalation r' r := by
  rcases alerts_step p m with h | ⟨i, v, -, -, h, -⟩ | ⟨i, id, sev, rfl, hnext, h, -⟩
    | ⟨i, id, org, -, -, h, -⟩
  · exact ⟨r, h ▸ hr, rfl, hack, rfl, rfl, rfl⟩
  · exact ⟨r, h ▸ List.mem_append_left _ hr, rfl, hack, rfl, rfl, rfl⟩
  · have hne : some r.id ≠ id := fun hid => hm id sev hnext r hr hid hack
    refine ⟨r, ?_, rfl, hack, rfl, rfl, rfl⟩
    rw [h]
    exact List.mem_map.mpr ⟨r, hr, AlertRow.escalated_of_ne hne sev p.store.now⟩
  · refine ⟨r.acknowledged id org, h ▸ List.mem_map_of_mem hr, AlertRow.acknowledged_id .., ?_,
      AlertRow.acknowledged_severity .., AlertRow.acknowledged_escalationLevel ..,
      AlertRow.acknowledged_lastEscalatedAt ..⟩
    rcases r.acknowledged_status id org with hst | ⟨-, hst⟩
    · rw [hst, hack]
    · exact hst

/-- The escalation of an acknowledged alert changes its level. -/
lemma escalatesUnacknowledged_of_frozen {p : Calls ι} {m : Move ι ℕ}
    (h : ∀ r ∈ (alerts p).rows, r.status = .ACKNOWLEDGED →
      ∃ r' ∈ (alerts (step p m)).rows, r'.id = r.id ∧ SameEscalation r' r) :
    EscalatesUnacknowledged p m := by
  cases m with
  | outside e => trivial
  | thread i =>
      intro id sev hnext r hr hid hack
      obtain ⟨r', hr', hrid, -, hlevel, -⟩ := h r hr hack
      have hrows := alerts_step_escalate hnext
      have hmem : r.escalated id sev p.store.now ∈ (alerts (step p (.thread i))).rows :=
        hrows ▸ List.mem_map_of_mem hr
      have heq : r' = r.escalated id sev p.store.now :=
        (alerts (step p (.thread i))).eq_of_id_eq hr' hmem
          (hrid.trans (AlertRow.escalated_id ..).symm)
      rw [heq, AlertRow.escalated_of_eq hid] at hlevel
      exact absurd hlevel (Nat.succ_ne_self _)

/-- **Acknowledging stops escalation.** In a run of any number of calls, the severity, level and
time of escalation of an alert never change after it is acknowledged, exactly when every
escalation finds its alert not acknowledged. -/
theorem acknowledgedFrozen_run_iff (cfg : Config) (calls : ι → AlertCall) (w : World)
    (sched : List (Move ι ℕ)) :
    AcknowledgedFrozen sched (start cfg calls w)
      ↔ EachStep step EscalatesUnacknowledged sched (start cfg calls w) := by
  constructor
  · intro h
    refine Statement.eachStep_iff.mpr fun l m hl => escalatesUnacknowledged_of_frozen ?_
    intro r hr hack
    have hfrozen := h l [m] hl r hr hack
    rwa [Pool.exec_append] at hfrozen
  · intro h l₁ l₂ hl r hr hack
    have hl₂ := (Statement.eachStep_append.mp (h.take_append hl)).2
    have hrun := Statement.eachState_of_eachStep (J := fun _ => True)
      (I := fun q : Calls ι => ∃ r' ∈ (alerts q).rows, r'.id = r.id ∧ r'.status = .ACKNOWLEDGED
        ∧ SameEscalation r' r) (fun _ _ _ => trivial) (fun q m _ hq hm => by
          obtain ⟨a, ha, haid, hast, h₁, h₂, h₃⟩ := hq
          obtain ⟨b, hb, hbid, hbst, g₁, g₂, g₃⟩ := acknowledged_step hm ha hast
          exact ⟨b, hb, hbid.trans haid, hbst, g₁.trans h₁, g₂.trans h₂, g₃.trans h₃⟩)
      trivial ⟨r, hr, rfl, hack, rfl, rfl, rfl⟩ hl₂
    obtain ⟨r', hr', hid, -, hsame⟩ := hrun.last
    rw [Pool.exec_append]
    exact ⟨r', hr', hid, hsame⟩

/-- An instance raises an alert and sweeps, and a technician acknowledges it. -/
def oneSweep : Fin 3 → AlertCall
  | 0 => .createIfDue "rule" 300 pumpAlert "d1:temperature"
  | 1 => .sweep
  | 2 => .acknowledge 0 ⟨"org", "u1"⟩

/-- The acknowledgement comes between the sweep's `SELECT` and its `UPDATE`. -/
def acknowledgeInSweep : List (Move (Fin 3) ℕ) :=
  [.thread 0, .thread 0, .outside 901000000, .thread 1, .thread 2, .thread 1]

/-- The rows stored after a part of that schedule. -/
def rowsAfter (n : ℕ) : List AlertRow :=
  (alerts ((start .default oneSweep .empty).exec World.exec World.tick
    (acknowledgeInSweep.take n))).rows

/-- The alert is `ACKNOWLEDGED` with severity `WARNING`, and then `HIGH`. -/
theorem acknowledged_alert_escalated :
    ¬ AcknowledgedFrozen acknowledgeInSweep (start .default oneSweep .empty) := by
  have before : ∃ r ∈ rowsAfter 5, r.status = .ACKNOWLEDGED ∧ r.severity = .WARNING := by
    decide +kernel
  have after : ∀ r ∈ rowsAfter 6, r.severity = .HIGH := by
    decide +kernel
  intro h
  obtain ⟨r, hr, hack, hsev⟩ := before
  obtain ⟨r', hr', -, hsame, -⟩ :=
    h (acknowledgeInSweep.take 5) (acknowledgeInSweep.drop 5) (List.prefix_refl _) r hr hack
  rw [hsev, after r' hr'] at hsame
  cases hsame

end AlertRaces

end InduSense
