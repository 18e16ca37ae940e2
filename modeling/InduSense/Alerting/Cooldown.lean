import InduSense.AlertService.Store
import InduSense.Api.Handlers

/-!
From when the cooldown of an alert runs.

* `AlertTable.resolveAlert`: the resolution of an alert; no service resolves one, whoever does sets
  both columns.
* `AlertAction`, `historyOf`: what happens to alerts, in any order.
* `RespectsCooldown`: `create_if_due` waits for the resolution of the alerts of a key, and then for
  the cooldown; `Hasty`: the states in which it does not.
* `newestOpen_historyOf`: only the latest alert of a key is unresolved.
* `respectsCooldown_iff`: the code counts the cooldown from the trigger of the latest alert.
-/

namespace InduSense

open AlertService (Alert CreateResult)

/-! ### Resolutions -/

namespace AlertRow

/-- `SET status = 'RESOLVED', resolved_at = now()`, on a row that is not resolved. -/
def resolved (id : AlertId) (now : Time) (r : AlertRow) : AlertRow :=
  if r.id = id ∧ r.status ≠ .RESOLVED then { r with status := .RESOLVED, resolvedAt := some now }
  else r

@[simp] lemma resolved_id (id : AlertId) (now : Time) (r : AlertRow) :
    (r.resolved id now).id = r.id := by
  rw [resolved]; split <;> rfl

lemma resolved_key (id : AlertId) (now : Time) (r : AlertRow) :
    (r.resolved id now).alertRuleId = r.alertRuleId
      ∧ (r.resolved id now).dedupeKey = r.dedupeKey := by
  rw [resolved]; split <;> exact ⟨rfl, rfl⟩

/-- A row that is not resolved afterwards is as it was. -/
lemma resolved_of_ne {id : AlertId} {now : Time} {r : AlertRow}
    (h : (r.resolved id now).status ≠ .RESOLVED) : r.resolved id now = r := by
  rw [resolved] at h ⊢
  split
  · rw [if_pos ‹_›] at h
    exact absurd rfl h
  · rfl

end AlertRow

/-- The resolution of an alert. -/
def AlertTable.resolveAlert (t : AlertTable) (id : AlertId) (now : Time) : AlertTable :=
  (t.modify (AlertRow.resolved id now) (AlertRow.resolved_id id now)).getD t

/-- Every resolution goes through: it only takes rows off the index. -/
lemma AlertTable.resolveAlert_rows (t : AlertTable) (id : AlertId) (now : Time) :
    (t.resolveAlert id now).rows = t.rows.map (AlertRow.resolved id now) := by
  obtain ⟨t', h⟩ := t.modify_isSome (AlertRow.resolved_id id now) (by
      rintro a b ⟨ha, hb, hk⟩
      have hne : ∀ {r : AlertRow}, (r.resolved id now).status = .OPEN → r.resolved id now = r := by
        intro r hr
        refine AlertRow.resolved_of_ne ?_
        rw [hr]
        decide
      have ha' := hne ha
      have hb' := hne hb
      rw [ha'] at ha hk
      rw [hb'] at hb hk
      exact ⟨ha, hb, hk⟩)
  rw [AlertTable.resolveAlert, h]
  exact (Statement.Table.modify_eq_some h).1

/-! ### Histories -/

/-- What can happen to alerts. -/
inductive AlertAction where
  | createIfDue (ruleId : String) (cooldownSeconds : ℤ) (alert : Alert) (dedupeKey : String)
  | escalate (alertId : Option AlertId) (newSeverity : Severity)
  | acknowledge (id : AlertId) (claims : Api.Claims)
  | resolve (id : AlertId)
  | advance (dt : ℕ)

/-- The world that an event leaves. -/
def AlertAction.apply (w : World) : AlertAction → World
  | createIfDue ruleId cooldownSeconds alert dedupeKey =>
      ((AlertService.AlertStore.createIfDue ruleId cooldownSeconds alert dedupeKey).eval
        World.exec w).2
  | escalate alertId newSeverity =>
      ((AlertService.AlertStore.escalate alertId newSeverity).eval World.exec w).2
  | acknowledge id claims => ((Api.acknowledgeAlert id claims).eval World.exec w).2
  | resolve id => { w with alerts := w.alerts.resolveAlert id w.now }
  | advance dt => w.tick dt

/-- The world after a history. -/
def historyOf (actions : List AlertAction) : World := actions.foldl AlertAction.apply .empty

/-! ### What `create_if_due` decides on -/

section Decision

variable (w : World) (ruleId : String) (cooldownSeconds : ℤ) (alert : Alert) (dedupeKey : String)

/-- `create_if_due`, called now. -/
def createNow : Except PyError (CreateResult × Option Alert) × World :=
  (AlertService.AlertStore.createIfDue ruleId cooldownSeconds alert dedupeKey).eval World.exec w

/-- There is no latest alert, or it is resolved, and was triggered before the cooldown. -/
def Passes : Prop :=
  ∀ last ∈ w.alerts.latest ruleId dedupeKey,
    last.status = .RESOLVED ∧ seconds cooldownSeconds ≤ w.now - last.triggeredAt

/-- No alert of the key is open. -/
def NoneOpen : Prop :=
  ∀ r ∈ w.alerts.rows, r.HasKey ruleId dedupeKey → r.status ≠ .OPEN

/-- The insertion of `create_if_due`. -/
lemma insert_cases :
    (NoneOpen w ruleId dedupeKey ∧ ∃ t' : AlertTable,
        (AlertService.AlertStore.insert ruleId alert dedupeKey).eval World.exec w
          = (.ok (.CREATED, some (alert.created w.alerts.nextId w.now)), { w with alerts := t' })
        ∧ t'.rows = w.alerts.rows
          ++ [.opened (alert.values ruleId dedupeKey) w.now w.alerts.nextId])
      ∨ ¬ NoneOpen w ruleId dedupeKey
        ∧ (AlertService.AlertStore.insert ruleId alert dedupeKey).eval World.exec w
          = (.ok (.SUPPRESSED_OPEN, none), w) := by
  rw [AlertService.AlertStore.insert, Statement.Prog.bind_eq, Statement.Prog.eval_issue_bind,
    World.exec]
  rcases w.alerts.insertAlert_cases (alert.values ruleId dedupeKey) w.now with
    ⟨t', h, hrows, -, hopen⟩ | ⟨h, r, hr, hkey, hopen⟩
  · rw [h]
    exact .inl ⟨hopen, t', rfl, hrows⟩
  · rw [h]
    exact .inr ⟨fun hnone => hnone r hr hkey hopen, rfl⟩

/-- Once the checks have passed, the insertion decides. -/
lemma createNow_of_passes (h : Passes w ruleId cooldownSeconds dedupeKey) :
    createNow w ruleId cooldownSeconds alert dedupeKey
      = (AlertService.AlertStore.insert ruleId alert dedupeKey).eval World.exec w := by
  rw [createNow, AlertService.AlertStore.createIfDue, Statement.Prog.bind_eq,
    Statement.Prog.eval_issue_bind]
  cases hlatest : w.alerts.latest ruleId dedupeKey with
  | none => simp only [World.exec, hlatest, Option.map_none]
  | some last =>
      obtain ⟨hstatus, hcool⟩ := h last hlatest
      simp only [World.exec, hlatest, Option.map_some]
      rw [if_neg (not_not.mpr hstatus), Statement.Prog.bind_eq, Statement.Prog.eval_issue_bind]
      simp only [World.exec]
      rw [if_neg (not_lt.mpr hcool)]

/-- If they have not, nothing is created. -/
lemma createNow_of_not_passes (h : ¬ Passes w ruleId cooldownSeconds dedupeKey) :
    ∃ result, result ≠ .CREATED
      ∧ createNow w ruleId cooldownSeconds alert dedupeKey = (.ok (result, none), w) := by
  cases hlatest : w.alerts.latest ruleId dedupeKey with
  | none =>
      refine absurd (fun last hlast => ?_) h
      rw [hlatest] at hlast
      cases hlast
  | some last =>
      by_cases hstatus : last.status = .RESOLVED
      · have hcool : w.now - last.triggeredAt < seconds cooldownSeconds := by
          by_contra hnot
          refine h fun last' hlast' => ?_
          obtain rfl : last = last' := Option.some.inj (hlatest.symm.trans hlast')
          exact ⟨hstatus, not_lt.mp hnot⟩
        refine ⟨.SUPPRESSED_COOLDOWN, by decide, ?_⟩
        rw [createNow, AlertService.AlertStore.createIfDue, Statement.Prog.bind_eq,
          Statement.Prog.eval_issue_bind]
        simp only [World.exec, hlatest, Option.map_some]
        rw [if_neg (not_not.mpr hstatus), Statement.Prog.bind_eq, Statement.Prog.eval_issue_bind]
        simp only [World.exec]
        rw [if_pos hcool]
        rfl
      · exact ⟨.SUPPRESSED_OPEN, by decide,
          AlertService.AlertStore.createIfDue_eval_suppressed hlatest hstatus cooldownSeconds
            alert⟩

/-- **What `create_if_due` does.** -/
lemma createNow_cases :
    (Passes w ruleId cooldownSeconds dedupeKey ∧ NoneOpen w ruleId dedupeKey
        ∧ ∃ t' : AlertTable, createNow w ruleId cooldownSeconds alert dedupeKey
            = (.ok (.CREATED, some (alert.created w.alerts.nextId w.now)), { w with alerts := t' })
          ∧ t'.rows = w.alerts.rows
            ++ [.opened (alert.values ruleId dedupeKey) w.now w.alerts.nextId])
      ∨ ¬ (Passes w ruleId cooldownSeconds dedupeKey ∧ NoneOpen w ruleId dedupeKey)
        ∧ ∃ result, result ≠ .CREATED
          ∧ createNow w ruleId cooldownSeconds alert dedupeKey = (.ok (result, none), w) := by
  by_cases hpasses : Passes w ruleId cooldownSeconds dedupeKey
  · rw [createNow_of_passes w ruleId cooldownSeconds alert dedupeKey hpasses]
    rcases insert_cases w ruleId alert dedupeKey with ⟨hopen, t', h, hrows⟩ | ⟨hopen, h⟩
    · exact .inl ⟨hpasses, hopen, t', h, hrows⟩
    · exact .inr ⟨fun hboth => hopen hboth.2, .SUPPRESSED_OPEN, by decide, h⟩
  · exact .inr ⟨fun h => hpasses h.1,
      createNow_of_not_passes w ruleId cooldownSeconds alert dedupeKey hpasses⟩

/-- Every alert of the key is resolved, the latest one for at least the cooldown. -/
def Cooled : Prop :=
  (∀ r ∈ w.alerts.rows, r.HasKey ruleId dedupeKey → r.status = .RESOLVED)
    ∧ ∀ last ∈ w.alerts.latest ruleId dedupeKey, ∀ t ∈ last.resolvedAt,
      t + seconds cooldownSeconds ≤ w.now

/-- `create_if_due` creates an alert only if the key has cooled; otherwise it is suppressed and
inserts nothing. -/
structure RespectsCooldown : Prop where
  created : ∀ created, (createNow w ruleId cooldownSeconds alert dedupeKey).1
      = .ok (.CREATED, created) → Cooled w ruleId cooldownSeconds dedupeKey
  suppressed : ¬ Cooled w ruleId cooldownSeconds dedupeKey →
    ∃ result, result ≠ .CREATED
      ∧ createNow w ruleId cooldownSeconds alert dedupeKey = (.ok (result, none), w)

/-- The latest alert is resolved and was triggered before the cooldown, and none is open; but the
latest was resolved within the cooldown, or an alert is not resolved. -/
def Hasty : Prop :=
  (∃ last ∈ w.alerts.latest ruleId dedupeKey,
      last.status = .RESOLVED ∧ seconds cooldownSeconds ≤ w.now - last.triggeredAt)
    ∧ NoneOpen w ruleId dedupeKey
    ∧ ((∃ last ∈ w.alerts.latest ruleId dedupeKey, ∃ t ∈ last.resolvedAt,
          w.now < t + seconds cooldownSeconds)
      ∨ ∃ r ∈ w.alerts.rows, r.HasKey ruleId dedupeKey ∧ r.status ≠ .RESOLVED)

/-- A key that has cooled passes the checks or has been hasty. -/
lemma not_cooled_iff :
    ¬ Cooled w ruleId cooldownSeconds dedupeKey ↔
      (∃ last ∈ w.alerts.latest ruleId dedupeKey, ∃ t ∈ last.resolvedAt,
          w.now < t + seconds cooldownSeconds)
        ∨ ∃ r ∈ w.alerts.rows, r.HasKey ruleId dedupeKey ∧ r.status ≠ .RESOLVED := by
  rw [Cooled, not_and_or, or_comm]
  simp only [not_forall, not_le, exists_prop]

/-- **When the cooldown is respected**, in any state. -/
lemma respects_iff :
    RespectsCooldown w ruleId cooldownSeconds alert dedupeKey
      ↔ ¬ Hasty w ruleId cooldownSeconds dedupeKey := by
  rw [Hasty, ← not_cooled_iff]
  constructor
  · rintro h ⟨⟨last, hlast, hstatus, hcool⟩, hopen, hnot⟩
    have hpasses : Passes w ruleId cooldownSeconds dedupeKey := by
      intro last' hlast'
      obtain rfl : last = last' := Option.some.inj (hlast.symm.trans hlast')
      exact ⟨hstatus, hcool⟩
    rcases createNow_cases w ruleId cooldownSeconds alert dedupeKey with
      ⟨-, -, t', heval, -⟩ | ⟨hno, -⟩
    · exact hnot (h.created _ (by rw [heval]))
    · exact hno ⟨hpasses, hopen⟩
  · intro hhasty
    rcases createNow_cases w ruleId cooldownSeconds alert dedupeKey with
      ⟨hpasses, hopen, t', heval, -⟩ | ⟨-, result, hresult, heval⟩
    · have hcooled : Cooled w ruleId cooldownSeconds dedupeKey := by
        by_contra hnot
        cases hlatest : w.alerts.latest ruleId dedupeKey with
        | some last => exact hhasty ⟨⟨last, hlatest, hpasses last hlatest⟩, hopen, hnot⟩
        | none =>
            have hnone := AlertTable.latest_eq_none_iff.mp hlatest
            refine hnot ⟨fun r hr hkey => absurd hkey (hnone r hr), fun last hlast => ?_⟩
            rw [hlatest] at hlast
            cases hlast
      exact ⟨fun _ _ => hcooled, fun hnot => absurd hcooled hnot⟩
    · refine ⟨fun created h => ?_, fun _ => ⟨result, hresult, heval⟩⟩
      rw [heval] at h
      cases h
      exact absurd rfl hresult

end Decision

/-! ### The alerts of a key over a history -/

section Runs

variable (ruleId dedupeKey : String)

/-- No two alerts of the key were triggered at the same time. -/
def TriggersDiffer (w : World) : Prop :=
  ((w.alerts.withKey ruleId dedupeKey).map AlertRow.triggeredAt).Nodup

/-- No alert of the key was triggered later than now; and one that is not resolved is the latest, if
the triggers differ. -/
structure NewestOpen (w : World) : Prop where
  past : ∀ r ∈ w.alerts.withKey ruleId dedupeKey, r.triggeredAt ≤ w.now
  newest : TriggersDiffer ruleId dedupeKey w →
    ∀ r ∈ w.alerts.withKey ruleId dedupeKey, r.status ≠ .RESOLVED →
      ∀ r' ∈ w.alerts.withKey ruleId dedupeKey, r'.triggeredAt ≤ r.triggeredAt

variable {ruleId dedupeKey} {w w' : World}

/-- An update that keeps the keys and the triggers, and takes no resolution back. -/
lemma NewestOpen.map (h : NewestOpen ruleId dedupeKey w) {f : AlertRow → AlertRow}
    (hrows : w'.alerts.rows = w.alerts.rows.map f) (hnow : w'.now = w.now)
    (hkey : ∀ r, (f r).alertRuleId = r.alertRuleId ∧ (f r).dedupeKey = r.dedupeKey)
    (htriggered : ∀ r, (f r).triggeredAt = r.triggeredAt)
    (hstatus : ∀ r, (f r).status ≠ .RESOLVED → r.status ≠ .RESOLVED) :
    NewestOpen ruleId dedupeKey w' := by
  have hwith : w'.alerts.withKey ruleId dedupeKey
      = (w.alerts.withKey ruleId dedupeKey).map f := by
    rw [AlertTable.withKey, hrows]
    refine Statement.filter_map_comm fun r => ?_
    simp only [AlertRow.HasKey, (hkey r).1, (hkey r).2]
  constructor
  · intro r hr
    rw [hwith] at hr
    obtain ⟨r₀, hr₀, rfl⟩ := List.mem_map.mp hr
    rw [hnow, htriggered]
    exact h.past r₀ hr₀
  · intro hdiffer r hr hopen r' hr'
    rw [TriggersDiffer, hwith, List.map_map, Function.comp_def] at hdiffer
    simp only [htriggered] at hdiffer
    rw [hwith] at hr hr'
    obtain ⟨r₀, hr₀, rfl⟩ := List.mem_map.mp hr
    obtain ⟨r₀', hr₀', rfl⟩ := List.mem_map.mp hr'
    rw [htriggered, htriggered]
    exact h.newest hdiffer r₀ hr₀ (hstatus r₀ hopen) r₀' hr₀'

/-- The latest alert of a key was triggered last. -/
lemma le_of_lastTriggered {l : List AlertRow} {last : AlertRow}
    (h : AlertTable.lastTriggered l = some last) :
    ∀ r ∈ l, r.triggeredAt ≤ last.triggeredAt := by
  induction l generalizing last with
  | nil => cases h
  | cons a l ih =>
      rw [AlertTable.lastTriggered] at h
      cases hl : AlertTable.lastTriggered l with
      | none =>
          rw [hl] at h
          cases h
          rw [AlertTable.lastTriggered_eq_none_iff.mp hl]
          exact List.forall_mem_singleton.mpr le_rfl
      | some a' =>
          rw [hl] at h
          have hrest := ih hl
          dsimp only at h
          split at h
          · cases h
            exact List.forall_mem_cons.mpr ⟨(‹a.triggeredAt < _›).le, hrest⟩
          · cases h
            refine List.forall_mem_cons.mpr ⟨le_rfl, fun r hr => (hrest r hr).trans ?_⟩
            exact not_lt.mp ‹_›

/-- If the latest alert of a key is resolved and the triggers differ, all are. -/
lemma NewestOpen.resolved (h : NewestOpen ruleId dedupeKey w)
    (hdiffer : TriggersDiffer ruleId dedupeKey w)
    (hlast : ∀ last ∈ w.alerts.latest ruleId dedupeKey, last.status = .RESOLVED) :
    ∀ r ∈ w.alerts.withKey ruleId dedupeKey, r.status = .RESOLVED := by
  intro r hr
  by_contra hopen
  cases hlatest : w.alerts.latest ruleId dedupeKey with
  | none =>
      rw [AlertTable.latest, AlertTable.lastTriggered_eq_none_iff] at hlatest
      rw [hlatest] at hr
      cases hr
  | some last =>
      have hmem : last ∈ w.alerts.withKey ruleId dedupeKey :=
        AlertTable.mem_of_lastTriggered hlatest
      have hsame : r.triggeredAt = last.triggeredAt :=
        le_antisymm (le_of_lastTriggered hlatest r hr) (h.newest hdiffer r hr hopen last hmem)
      obtain rfl := List.inj_on_of_nodup_map hdiffer hr hmem hsame
      exact hopen (hlast r hlatest)

/-- The alerts of a key after an insertion. -/
lemma withKey_append (ruleId dedupeKey : String) {t t' : AlertTable} {r : AlertRow}
    (h : t'.rows = t.rows ++ [r]) :
    t'.withKey ruleId dedupeKey
      = t.withKey ruleId dedupeKey ++ if r.HasKey ruleId dedupeKey then [r] else [] := by
  rw [AlertTable.withKey, h, List.filter_append]
  by_cases hkey : r.HasKey ruleId dedupeKey
  · simp [AlertTable.withKey, hkey]
  · simp [AlertTable.withKey, hkey]

/-- An alert that is triggered now, after the latest of its key has been resolved. -/
lemma NewestOpen.append (h : NewestOpen ruleId dedupeKey w) {row : AlertRow}
    (hrows : w'.alerts.rows = w.alerts.rows ++ [row]) (hnow : w'.now = w.now)
    (htriggered : row.triggeredAt = w.now)
    (hlatest : row.HasKey ruleId dedupeKey →
      ∀ last ∈ w.alerts.latest ruleId dedupeKey, last.status = .RESOLVED) :
    NewestOpen ruleId dedupeKey w' := by
  have hwith := withKey_append ruleId dedupeKey hrows
  by_cases hkey : row.HasKey ruleId dedupeKey
  · rw [if_pos hkey] at hwith
    have hpast : ∀ r ∈ w'.alerts.withKey ruleId dedupeKey, r.triggeredAt ≤ w.now := by
      intro r hr
      rw [hwith] at hr
      rcases List.mem_append.mp hr with hr | hr
      · exact h.past r hr
      · rw [List.mem_singleton.mp hr, htriggered]
    refine ⟨fun r hr => hnow ▸ hpast r hr, fun hdiffer r hr hopen r' hr' => ?_⟩
    rw [TriggersDiffer, hwith, List.map_append] at hdiffer
    rw [hwith] at hr
    rcases List.mem_append.mp hr with hr | hr
    · exact absurd (h.resolved hdiffer.of_append_left (hlatest hkey) r hr) hopen
    · rw [List.mem_singleton.mp hr, htriggered]
      exact hpast r' hr'
  · rw [if_neg hkey, List.append_nil] at hwith
    refine ⟨fun r hr => ?_, fun hdiffer r hr hopen r' hr' => ?_⟩
    · rw [hwith] at hr
      rw [hnow]
      exact h.past r hr
    · rw [TriggersDiffer, hwith] at hdiffer
      rw [hwith] at hr hr'
      exact h.newest hdiffer r hr hopen r' hr'

/-- What an action on alerts preserves. -/
lemma NewestOpen.apply (h : NewestOpen ruleId dedupeKey w) (action : AlertAction) :
    NewestOpen ruleId dedupeKey (action.apply w) := by
  cases action with
  | createIfDue ruleId' cooldownSeconds alert dedupeKey' =>
      show NewestOpen ruleId dedupeKey (createNow w ruleId' cooldownSeconds alert dedupeKey').2
      rcases createNow_cases w ruleId' cooldownSeconds alert dedupeKey' with
        ⟨hpasses, -, t', heval, hrows⟩ | ⟨-, result, -, heval⟩
      · rw [heval]
        refine h.append hrows rfl rfl ?_
        rintro ⟨hrule, hdedupe⟩ last hlast
        rw [← hrule, ← hdedupe] at hlast
        exact (hpasses last hlast).1
      · rw [heval]
        exact h
  | escalate alertId newSeverity =>
      refine h.map (f := AlertRow.escalated alertId newSeverity w.now)
        (AlertTable.escalateAlert_rows ..).1 rfl (fun r => ?_) (fun r => ?_) fun r hr => ?_
      · exact ⟨AlertRow.escalated_alertRuleId .., AlertRow.escalated_dedupeKey ..⟩
      · rw [AlertRow.escalated]; split <;> rfl
      · rwa [AlertRow.escalated_status] at hr
  | acknowledge id claims =>
      have hw : ((Api.acknowledgeAlert id claims).eval World.exec w).2
          = { w with alerts := (w.alerts.acknowledgeAlert id claims.organizationId).2 } := by
        rw [Api.acknowledgeAlert, Statement.Prog.bind_eq, Statement.Prog.eval_issue_bind]
        simp only [World.exec]
        split <;> rfl
      show NewestOpen ruleId dedupeKey ((Api.acknowledgeAlert id claims).eval World.exec w).2
      rw [hw]
      refine h.map (f := AlertRow.acknowledged id claims.organizationId)
        (AlertTable.acknowledgeAlert_rows ..).1 rfl (fun r => ?_) (fun r => ?_) fun r hr => ?_
      · exact ⟨AlertRow.acknowledged_alertRuleId .., AlertRow.acknowledged_dedupeKey ..⟩
      · rw [AlertRow.acknowledged]; split <;> rfl
      · rcases r.acknowledged_status id claims.organizationId with hs | ⟨hs, -⟩
        · rwa [hs] at hr
        · rw [hs]
          decide
  | resolve id =>
      refine h.map (f := AlertRow.resolved id w.now) (AlertTable.resolveAlert_rows ..) rfl
        (AlertRow.resolved_key id w.now) (fun r => ?_) fun r hr => ?_
      · rw [AlertRow.resolved]; split <;> rfl
      · rwa [AlertRow.resolved_of_ne hr] at hr
  | advance dt =>
      refine ⟨fun r hr => (h.past r hr).trans ?_, h.newest⟩
      show w.now ≤ w.now + dt
      have : (0 : ℤ) ≤ dt := Int.natCast_nonneg dt
      linarith

/-- **Only the latest alert of a key is unresolved**, after any history. -/
theorem newestOpen_historyOf (ruleId dedupeKey : String) (actions : List AlertAction) :
    NewestOpen ruleId dedupeKey (historyOf actions) := by
  rw [historyOf]
  induction actions using List.reverseRecOn with
  | nil => exact ⟨fun r hr => absurd hr List.not_mem_nil, fun _ r hr => absurd hr List.not_mem_nil⟩
  | append_singleton actions action ih =>
      rw [List.foldl_append]
      exact ih.apply action

end Runs

/-! ### When the cooldown is respected -/

/-- **The cooldown runs from the trigger.**  After any history, `create_if_due` respects the
cooldown exactly when it is not hasty; if no two alerts of the key were triggered at the same time,
unless the latest one is resolved, was triggered before the cooldown, and has been resolved within
it. -/
theorem respectsCooldown_iff (actions : List AlertAction) (ruleId : String) (cooldownSeconds : ℤ)
    (alert : Alert) (dedupeKey : String) :
    let w := historyOf actions
    (RespectsCooldown w ruleId cooldownSeconds alert dedupeKey
        ↔ ¬ Hasty w ruleId cooldownSeconds dedupeKey)
      ∧ (TriggersDiffer ruleId dedupeKey w →
          (RespectsCooldown w ruleId cooldownSeconds alert dedupeKey
            ↔ ¬ ∃ last ∈ w.alerts.latest ruleId dedupeKey, last.status = .RESOLVED
                ∧ last.triggeredAt + seconds cooldownSeconds ≤ w.now
                ∧ ∃ t ∈ last.resolvedAt, w.now < t + seconds cooldownSeconds)) := by
  intro w
  refine ⟨respects_iff w ruleId cooldownSeconds alert dedupeKey, fun hdiffer => ?_⟩
  rw [respects_iff, not_iff_not]
  have hnewest := newestOpen_historyOf ruleId dedupeKey actions
  constructor
  · rintro ⟨⟨last, hlast, hstatus, hcool⟩, -, hrest⟩
    refine ⟨last, hlast, hstatus, by linarith, ?_⟩
    rcases hrest with ⟨last', hlast', hrecent⟩ | ⟨r, hr, hkey, hopen⟩
    · obtain rfl : last = last' := Option.some.inj (hlast.symm.trans hlast')
      exact hrecent
    · refine absurd (hnewest.resolved hdiffer (fun last' hlast' => ?_) r ?_) hopen
      · obtain rfl : last = last' := Option.some.inj (hlast.symm.trans hlast')
        exact hstatus
      · exact List.mem_filter.mpr ⟨hr, decide_eq_true hkey⟩
  · rintro ⟨last, hlast, hstatus, hcool, hrecent⟩
    refine ⟨⟨last, hlast, hstatus, by linarith⟩, fun r hr hkey hopen => ?_,
      .inl ⟨last, hlast, hrecent⟩⟩
    have hresolved := hnewest.resolved hdiffer (fun last' hlast' => by
      obtain rfl : last = last' := Option.some.inj (hlast.symm.trans hlast')
      exact hstatus) r (List.mem_filter.mpr ⟨hr, decide_eq_true hkey⟩)
    rw [hopen] at hresolved
    cases hresolved

/-- An alert stays open for longer than the cooldown, and flaps after its resolution. -/
def flapping : List AlertAction :=
  [.createIfDue "rule" 300
      { organizationId := "org", severity := .HIGH, machineId := "m1", deviceId := "d1" }
      "d1:temperature",
    .advance 400000000, .resolve 0, .advance 10000000]

/-- **Ten seconds after its resolution, the alert is raised again.** -/
theorem flapping_raised_again :
    let alert : Alert :=
      { organizationId := "org", severity := .HIGH, machineId := "m1", deviceId := "d1" }
    (createNow (historyOf flapping) "rule" 300 alert "d1:temperature").1
        = .ok (.CREATED, some (alert.created 1 410000000))
      ∧ ¬ RespectsCooldown (historyOf flapping) "rule" 300 alert "d1:temperature" := by
  intro alert
  have hcreated : (createNow (historyOf flapping) "rule" 300 alert "d1:temperature").1
      = .ok (.CREATED, some (alert.created 1 410000000)) := by decide +kernel
  refine ⟨hcreated, fun h => ?_⟩
  have hlatest : ((historyOf flapping).alerts.latest "rule" "d1:temperature").map
      AlertRow.resolvedAt = some (some 400000000) := by decide +kernel
  obtain ⟨last, hlast, hresolved⟩ := Option.map_eq_some_iff.mp hlatest
  have hcool := (h.created _ hcreated).2 last hlast 400000000 hresolved
  revert hcool
  decide +kernel

end InduSense
