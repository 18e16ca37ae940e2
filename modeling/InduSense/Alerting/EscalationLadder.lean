import InduSense.Alerting.AlertRaces

/-!
The escalation ladder under any number of concurrent sweeps.

* `rung`, `raised`: the ladder, strict at the top.
* `CreatedWith`: the severity an alert was created with, read off the insertion that made it.
* `Ladder`, `SpacedEscalations`: what the severity, the level and the time of escalation of an
  alert have to do with each other.
* `Sweeps`: what a program guarantees of an escalation, namely that it acts on a candidate of its
  own `SELECT`; `Sound`: what follows of every candidate and every creation in any interleaving.
* `EscalatesFresh`: the condition under which the ladder is kept.
-/

namespace InduSense

open Statement (Log Entry Pool Move EachStep EachState)
open Statement.Prog (Follows ensures_issue ensures_bind ensures_ret ensures_raise follows_issue_bind
  follows_bind follows_attempt follows_issue)
open AlertService (Alert Config nextSeverity)

namespace AlertRaces

/-! ### The ladder -/

/-- The next rung of `_SEVERITY_LADDER`. -/
def rung : Severity → Option Severity
  | .WARNING => some .HIGH
  | .HIGH => some .CRITICAL
  | _ => none

/-- A severity raised by a number of rungs, where there are as many. -/
def raised (s : Severity) : ℕ → Option Severity
  | 0 => some s
  | n + 1 => (raised s n).bind rung

/-- `next_severity` climbs a rung exactly when it changes the severity. -/
lemma rung_eq_nextSeverity {s : Severity} (h : nextSeverity s ≠ s) :
    rung s = some (nextSeverity s) := by
  revert h
  cases s <;> decide

/-- How far up the ladder a severity is. -/
def height : Severity → ℕ
  | .INFO => 0
  | .WARNING => 1
  | .HIGH => 2
  | .CRITICAL => 3

lemma height_rung {s t : Severity} (h : rung s = some t) :
    height t = height s + 1 ∧ 1 ≤ height s := by
  cases s <;> cases h <;> decide

lemma height_le (s : Severity) : height s ≤ 3 := by
  cases s <;> decide

/-- Raising a severity by `n` rungs lifts it by `n`. -/
lemma height_raised {s t : Severity} {n : ℕ} (h : raised s n = some t) :
    height t = height s + n ∧ (n = 0 ∨ 1 ≤ height s) := by
  induction n generalizing t with
  | zero =>
      cases h
      exact ⟨rfl, .inl rfl⟩
  | succ n ih =>
      obtain ⟨u, hu, hut⟩ := Option.bind_eq_some_iff.mp h
      obtain ⟨hlift, hlow⟩ := ih hu
      obtain ⟨hstep, hmid⟩ := height_rung hut
      refine ⟨by omega, .inr ?_⟩
      rcases hlow with rfl | hlow
      · omega
      · exact hlow

/-- The ladder has two rungs above its lowest. -/
lemma le_two_of_raised {s t : Severity} {n : ℕ} (h : raised s n = some t) : n ≤ 2 := by
  have hlift := height_raised h
  have htop := height_le t
  omega

/-- How often a severity was raised can be read off the result. -/
lemma raised_injective {s t : Severity} {n m : ℕ} (hn : raised s n = some t)
    (hm : raised s m = some t) : n = m := by
  have h₁ := (height_raised hn).1
  have h₂ := (height_raised hm).1
  omega

/-! ### What a sweep guarantees -/

/-- The candidates of a sweep, if its `SELECT` is the first statement of the log. -/
def candidates (l : Log Alerting PyError) : List AlertRow :=
  match l.head? with
  | some ⟨.selectDueForEscalation _, .ok rows⟩ => rows
  | _ => []

/-- The log of a program that started with a `SELECT` keeps its candidates. -/
lemma candidates_extend {l l' : Log Alerting PyError} (h : l <+: l') (hl : l ≠ []) :
    candidates l' = candidates l := by
  obtain ⟨t, rfl⟩ := h
  cases l with
  | nil => exact absurd rfl hl
  | cons a l => rfl

/-- An escalation raises a candidate by a rung from the severity it was read with, and candidates
are selected with the configured delay. -/
def Sweeps (cfg : Config) (l : Log Alerting PyError) : Stmt → Prop
  | .escalateAlert id newSeverity =>
      ∃ a ∈ candidates l, id = some a.id ∧ rung a.severity = some newSeverity
  | .selectDueForEscalation afterSeconds => afterSeconds = cfg.escalationAfterSeconds
  | _ => True

variable {cfg : Config}

/-- The statements of a creation are free of the requirement. -/
lemma sweeps_of_creates (l : Log Alerting PyError) (c : Stmt) (hc : c.creates = true) :
    Sweeps cfg l c := by
  cases c with
  | escalateAlert id sev => cases hc
  | selectDueForEscalation n => cases hc
  | _ => trivial

/-- So are those of an announcement. -/
lemma sweeps_of_announces (l : Log Alerting PyError) (c : Stmt) (hc : c.announces = true) :
    Sweeps cfg l c := by
  cases c with
  | escalateAlert id sev => cases hc
  | selectDueForEscalation n => cases hc
  | _ => trivial

/-- The loop over candidates escalates nothing else. -/
lemma sweeps_escalateAll {providers : List NotificationProvider} {rows : List AlertRow}
    {l : Log Alerting PyError} (hl : l ≠ []) (hrows : ∀ a ∈ rows, a ∈ candidates l) :
    Follows (Sweeps cfg) (fun _ _ => True)
      (AlertService.escalateAll providers (rows.map Alert.ofRow)) l := by
  induction rows generalizing l with
  | nil => exact trivial
  | cons a rows ih =>
      have hrest : ∀ {l' : Log Alerting PyError}, l <+: l' →
          Follows (Sweeps cfg) (fun _ _ => True)
            (AlertService.escalateAll providers (rows.map Alert.ofRow)) l' := by
        intro l' hpre
        refine ih (fun h => hl (List.prefix_nil.mp (h ▸ hpre))) fun b hb => ?_
        rw [candidates_extend hpre hl]
        exact hrows b (List.mem_cons_of_mem _ hb)
      rw [List.map_cons, AlertService.escalateAll]
      split
      · exact hrest (List.prefix_refl l)
      · rename_i hne
        refine follows_bind (follows_attempt
          (follows_issue (S := Alerting) (c := .escalateAlert _ _) ?_ fun r => ?_))
        · exact ⟨a, hrows a List.mem_cons_self, rfl, rung_eq_nextSeverity hne⟩
        · cases r with
          | error e => exact hrest (List.prefix_append _ _)
          | ok u =>
              refine follows_bind
                ((AlertService.ensures_publishAndNotify sweeps_of_announces _).extends.mono
                  fun l' r h => ?_)
              cases r with
              | error e => trivial
              | ok u => exact hrest ((List.prefix_append _ _).trans h.2)

/-- Every call keeps to what is required of a sweep. -/
lemma sweeps_prog (call : AlertCall) :
    Follows (Sweeps cfg) (fun _ _ => True) (call.prog cfg) [] := by
  cases call with
  | createIfDue ruleId cooldownSeconds alert dedupeKey =>
      exact ensures_bind (AlertService.ensures_createIfDue sweeps_of_creates)
        (fun _ => ensures_ret _) []
  | acknowledge id claims =>
      refine ensures_bind (ensures_issue fun _ => trivial) (fun n => ?_) []
      split
      · exact ensures_raise _
      · exact ensures_ret _
  | sweep =>
      refine follows_bind (follows_attempt (follows_issue_bind rfl (fun rows => ?_) fun e => ?_))
      · exact sweeps_escalateAll (by simp) (fun a ha => ha)
      · trivial

/-! ### What holds of every candidate and every creation -/

variable {ι : Type} [DecidableEq ι]

omit [DecidableEq ι] in
/-- An alert was created with a severity: a call has inserted it and got its id back. -/
def CreatedWith (p : Calls ι) (id : AlertId) (s : Severity) : Prop :=
  ∃ i v t, (⟨.insertAlert v, .ok (some (id, t))⟩ : Entry Alerting PyError) ∈ p.seen i
    ∧ v.severity = s

/-- From one state to a later one, an alert's level does not fall, and while it stays the same so
do the other columns an escalation writes. -/
def Evolves (r r' : AlertRow) : Prop :=
  r'.id = r.id ∧ r.escalationLevel ≤ r'.escalationLevel
    ∧ (r'.escalationLevel = r.escalationLevel → SameEscalation r' r)

lemma Evolves.refl (r : AlertRow) : Evolves r r := ⟨rfl, le_refl _, fun _ => ⟨rfl, rfl, rfl⟩⟩

lemma Evolves.trans {a b c : AlertRow} (hab : Evolves a b) (hbc : Evolves b c) : Evolves a c := by
  obtain ⟨hid, hle, hsame⟩ := hab
  obtain ⟨hid', hle', hsame'⟩ := hbc
  refine ⟨hid'.trans hid, hle.trans hle', fun h => ?_⟩
  have hb : b.escalationLevel = a.escalationLevel := by omega
  obtain ⟨h₁, h₂, h₃⟩ := hsame hb
  obtain ⟨g₁, g₂, g₃⟩ := hsame' (by omega)
  exact ⟨g₁.trans h₁, g₂.trans h₂, g₃.trans h₃⟩

/-- Every alert evolves at every step. -/
lemma evolves_step (p : Calls ι) (m : Move ι ℕ) {r : AlertRow} (hr : r ∈ (alerts p).rows) :
    ∃ r' ∈ (alerts (step p m)).rows, Evolves r r' := by
  rcases alerts_step p m with h | ⟨i, v, -, -, h, -⟩ | ⟨i, id, sev, -, -, h, -⟩
    | ⟨i, id, org, -, -, h, -⟩
  · exact ⟨r, h ▸ hr, .refl r⟩
  · exact ⟨r, h ▸ List.mem_append_left _ hr, .refl r⟩
  · refine ⟨r.escalated id sev p.store.now, h ▸ List.mem_map_of_mem hr, ?_⟩
    by_cases hid : some r.id = id
    · rw [AlertRow.escalated_of_eq hid]
      refine ⟨rfl, Nat.le_succ _, fun hlevel => ?_⟩
      exact absurd hlevel (Nat.succ_ne_self _)
    · rw [AlertRow.escalated_of_ne hid]
      exact .refl r
  · refine ⟨r.acknowledged id org, h ▸ List.mem_map_of_mem hr, ?_⟩
    refine ⟨AlertRow.acknowledged_id .., ?_, fun _ => ⟨?_, ?_, ?_⟩⟩
    · rw [AlertRow.acknowledged_escalationLevel]
    · exact AlertRow.acknowledged_severity ..
    · exact AlertRow.acknowledged_escalationLevel ..
    · exact AlertRow.acknowledged_lastEscalatedAt ..

/-- Time does not run backwards. -/
lemma now_step (p : Calls ι) (m : Move ι ℕ) : p.store.now ≤ (step p m).store.now := by
  rcases Pool.step_cases World.exec World.tick p m with
    ⟨e, rfl, hs⟩ | ⟨i, rfl, -, hs⟩ | ⟨i, c, k, rfl, -, -, hs⟩
  · exact le_add_of_nonneg_right (Int.natCast_nonneg e)
  · rw [step, hs]
  · rw [step, hs, World.exec_now]

/-- The candidates of a call stay, or they have just been selected. -/
lemma candidates_step {p : Calls ι} (hp : p.Follows (Sweeps cfg)) (m : Move ι ℕ) (j : ι) :
    candidates ((step p m).seen j) = candidates (p.seen j)
      ∨ candidates ((step p m).seen j)
          = (alerts p).rows.filter (fun r => r.Due p.store.now cfg.escalationAfterSeconds)
        ∧ alerts (step p m) = alerts p ∧ (step p m).store.now = p.store.now := by
  rcases Pool.seen_step World.exec World.tick p m j with h | ⟨c, -, hnext, hseen, hstore⟩
  · exact .inl (congrArg candidates h)
  · rw [step, hseen]
    by_cases hnil : p.seen j = []
    · rw [hnil, List.nil_append]
      have hguard := hp.next hnext
      cases c with
      | selectDueForEscalation n =>
          have hn : n = cfg.escalationAfterSeconds := hguard
          subst hn
          refine .inr ⟨rfl, ?_, ?_⟩
          · rw [alerts, hstore]
            rfl
          · rw [hstore]
            rfl
      | _ => exact .inl rfl
    · exact .inl (candidates_extend (List.prefix_append _ _) hnil)

/-- What is known of a candidate while its sweep goes on: it was due, and the stored alert has
evolved from it. -/
def Selected (cfg : Config) (p : Calls ι) (a : AlertRow) : Prop :=
  a.lastEscalatedAt.getD a.triggeredAt < p.store.now - seconds cfg.escalationAfterSeconds
    ∧ ∃ r ∈ (alerts p).rows, Evolves a r

/-- The invariant of every interleaving. -/
structure Sound (cfg : Config) (p : Calls ι) : Prop where
  follows : p.Follows (Sweeps cfg)
  created : ∀ r ∈ (alerts p).rows, ∃ s, CreatedWith p r.id s
  created_lt : ∀ id s, CreatedWith p id s → id < (alerts p).nextId
  created_unique : ∀ id s s', CreatedWith p id s → CreatedWith p id s' → s = s'
  selected : ∀ i, ∀ a ∈ candidates (p.seen i), Selected cfg p a
  candidates_nodup : ∀ i, ((candidates (p.seen i)).map AlertRow.id).Nodup

/-- What the calls have seen, they have seen for good. -/
lemma CreatedWith.step {p : Calls ι} {id : AlertId} {s : Severity} (h : CreatedWith p id s)
    (m : Move ι ℕ) : CreatedWith (step p m) id s := by
  obtain ⟨i, v, t, hmem, hs⟩ := h
  exact ⟨i, v, t, (Pool.seen_prefix_step World.exec World.tick p m i).subset hmem, hs⟩

/-- A creation is an old one, or the insertion of this step. -/
lemma createdWith_of_step {p : Calls ι} {m : Move ι ℕ} {id : AlertId} {s : Severity}
    (h : CreatedWith (step p m) id s) :
    CreatedWith p id s
      ∨ id = (alerts p).nextId ∧ (alerts (step p m)).nextId = (alerts p).nextId + 1
        ∧ ∃ i v, m = .thread i ∧ p.next i = some (.insertAlert v) ∧ v.severity = s := by
  obtain ⟨i, v, t, hmem, hs⟩ := h
  rcases Pool.seen_step World.exec World.tick p m i with h | ⟨c, hm, hnext, hseen, hstore⟩
  · exact .inl ⟨i, v, t, h ▸ hmem, hs⟩
  · rw [step, hseen] at hmem
    rcases List.mem_append.mp hmem with hmem | hmem
    · exact .inl ⟨i, v, t, hmem, hs⟩
    · have hentry := List.mem_singleton.mp hmem
      have hc : c = .insertAlert v := (congrArg Entry.stmt hentry).symm
      subst hc
      have hans : (World.exec (.insertAlert v) p.store).1 = .ok (some (id, t)) :=
        (eq_of_heq ((Entry.mk.injEq ..).mp hentry).2).symm
      rcases (alerts p).insertAlert_cases v p.store.now with ⟨t', ht', -, hnext', -⟩ | ⟨hno, -⟩
      · simp only [World.exec, ht', Except.ok.injEq, Option.some.injEq, Prod.mk.injEq] at hans
        refine .inr ⟨hans.1.symm, ?_, i, v, hm, hnext, hs⟩
        rw [alerts, step, hstore]
        simp only [World.exec, ht', hnext']
      · simp only [World.exec, hno] at hans
        cases hans

/-- Ids are handed out in order. -/
lemma nextId_le_step (p : Calls ι) (m : Move ι ℕ) :
    (alerts p).nextId ≤ (alerts (step p m)).nextId := by
  rcases alerts_step p m with h | ⟨i, v, -, -, -, h, -⟩ | ⟨i, id, sev, -, -, -, h⟩
    | ⟨i, id, org, -, -, -, h⟩
  · rw [h]
  · omega
  · omega
  · omega

/-- A candidate stays what it was: time only passes, and its alert only evolves. -/
lemma Selected.step {p : Calls ι} {a : AlertRow} (h : Selected cfg p a) (m : Move ι ℕ) :
    Selected cfg (step p m) a := by
  obtain ⟨hdue, r, hr, hev⟩ := h
  obtain ⟨r', hr', hev'⟩ := evolves_step p m hr
  refine ⟨?_, r', hr', hev.trans hev'⟩
  have hnow := now_step p m
  exact lt_of_lt_of_le hdue (Int.sub_le_sub_right hnow _)

/-- A creation that appends a row is seen by its call. -/
lemma Sound.created_step {p : Calls ι} (h : Sound cfg p) (m : Move ι ℕ) :
    ∀ r ∈ (alerts (step p m)).rows, ∃ s, CreatedWith (step p m) r.id s := by
  have old : ∀ r ∈ (alerts p).rows, ∃ s, CreatedWith (step p m) r.id s := by
    intro r hr
    obtain ⟨s, hs⟩ := h.created r hr
    exact ⟨s, hs.step m⟩
  intro r' hr'
  rcases alerts_step p m with hs | ⟨i, v, -, -, hrows, -, -, hseen⟩ | ⟨i, id, sev, -, -, hrows, -⟩
    | ⟨i, id, org, -, -, hrows, -⟩
  · exact old r' (hs ▸ hr')
  · rw [hrows] at hr'
    rcases List.mem_append.mp hr' with hr | hr
    · exact old r' hr
    · rw [List.mem_singleton.mp hr]
      refine ⟨v.severity, i, v, p.store.now, ?_, rfl⟩
      rw [hseen]
      exact List.mem_append_right _ (List.mem_singleton_self _)
  · rw [hrows] at hr'
    obtain ⟨r, hr, rfl⟩ := List.mem_map.mp hr'
    rw [AlertRow.escalated_id]
    exact old r hr
  · rw [hrows] at hr'
    obtain ⟨r, hr, rfl⟩ := List.mem_map.mp hr'
    rw [AlertRow.acknowledged_id]
    exact old r hr

/-- Every step keeps the invariant. -/
lemma Sound.step {p : Calls ι} (h : Sound cfg p) (m : Move ι ℕ) : Sound cfg (step p m) where
  follows := h.follows.step m
  created := h.created_step m
  created_lt := by
    intro id s hs
    have hle := nextId_le_step p m
    rcases createdWith_of_step hs with hold | ⟨rfl, hnext, -⟩
    · exact lt_of_lt_of_le (h.created_lt id s hold) hle
    · rw [hnext]
      exact Nat.lt_succ_self _
  created_unique := by
    intro id s s' hs hs'
    rcases createdWith_of_step hs with hold | ⟨hid, -, i, v, hm, hi, hv⟩ <;>
      rcases createdWith_of_step hs' with hold' | ⟨hid', -, i', v', hm', hi', hv'⟩
    · exact h.created_unique id s s' hold hold'
    · exact absurd (hid' ▸ h.created_lt id s hold) (Nat.lt_irrefl _)
    · exact absurd (hid ▸ h.created_lt id s' hold') (Nat.lt_irrefl _)
    · -- Both are the insertion of this step.
      rw [hm, Move.thread.injEq] at hm'
      rw [← hm', hi, Option.some.injEq, Stmt.insertAlert.injEq] at hi'
      rw [← hv, ← hv', hi']
  selected := by
    intro j a ha
    rcases candidates_step h.follows m j with hsame | ⟨hnew, halerts, hnow⟩
    · rw [hsame] at ha
      exact (h.selected j a ha).step m
    · rw [hnew, List.mem_filter] at ha
      obtain ⟨hmem, hdue⟩ := ha
      have hdue := of_decide_eq_true hdue
      refine ⟨?_, a, ?_, .refl a⟩
      · rw [hnow]
        exact hdue.2.2
      · rw [halerts]
        exact hmem
  candidates_nodup := by
    intro j
    rcases candidates_step h.follows m j with hsame | ⟨hnew, -⟩
    · rw [hsame]
      exact h.candidates_nodup j
    · rw [hnew]
      exact (alerts p).ids_nodup.sublist (List.filter_sublist.map _)

omit [DecidableEq ι] in
/-- The invariant holds before the first statement on empty tables. -/
lemma sound_start (cfg : Config) (calls : ι → AlertCall) :
    Sound cfg (start cfg calls World.empty) where
  follows := fun i => sweeps_prog (calls i)
  created := by
    intro r hr
    cases hr
  created_lt := by
    rintro id s ⟨i, v, t, hmem, -⟩
    cases hmem
  created_unique := by
    rintro id s s' ⟨i, v, t, hmem, -⟩
    cases hmem
  selected := by
    intro i a ha
    cases ha
  candidates_nodup := fun i => List.nodup_nil

/-! ### The ladder -/

/-- Every alert has been escalated at most twice, and has the severity it was created with raised
by as many rungs. -/
def Ladder (p : Calls ι) : Prop :=
  ∀ r ∈ (alerts p).rows, r.escalationLevel ≤ 2
    ∧ ∃ s, CreatedWith p r.id s ∧ raised s r.escalationLevel = some r.severity

/-- A step that escalates an alert again does so no sooner than the configured delay after the
last time. -/
def SpacedEscalations (cfg : Config) (p : Calls ι) (m : Move ι ℕ) : Prop :=
  ∀ r ∈ (alerts p).rows, ∀ r' ∈ (alerts (step p m)).rows, r'.id = r.id →
    r'.escalationLevel ≠ r.escalationLevel → ∀ t t', r.lastEscalatedAt = some t →
      r'.lastEscalatedAt = some t' → t + seconds cfg.escalationAfterSeconds ≤ t'

/-- Every escalation finds its alert at the level at which its sweep has read it. -/
def EscalatesFresh (p : Calls ι) : Move ι ℕ → Prop
  | .outside _ => True
  | .thread i => ∀ id sev, p.next i = some (.escalateAlert id sev) →
      ∀ a ∈ candidates (p.seen i), some a.id = id →
        ∀ r ∈ (alerts p).rows, r.id = a.id → r.escalationLevel = a.escalationLevel

omit [DecidableEq ι] in
/-- What the invariant and the guarantee say of a call that is about to escalate: its candidate,
and the stored alert that evolved from it. -/
lemma Sound.escalation {p : Calls ι} (h : Sound cfg p) {i : ι} {id : Option AlertId}
    {sev : Severity} (hnext : p.next i = some (.escalateAlert id sev)) :
    ∃ a ∈ candidates (p.seen i), id = some a.id ∧ rung a.severity = some sev
      ∧ a.lastEscalatedAt.getD a.triggeredAt
          < p.store.now - seconds cfg.escalationAfterSeconds
      ∧ ∃ r ∈ (alerts p).rows, Evolves a r := by
  obtain ⟨a, ha, hid, hrung⟩ := h.follows.next hnext
  obtain ⟨hdue, hr⟩ := h.selected i a ha
  exact ⟨a, ha, hid, hrung, hdue, hr⟩

/-- A row after an escalation is the row before, or the escalated one. -/
lemma escalated_cases {p : Calls ι} {i : ι} {id : Option AlertId} {sev : Severity}
    (hnext : p.next i = some (.escalateAlert id sev)) {r' : AlertRow}
    (hr' : r' ∈ (alerts (step p (.thread i))).rows) :
    r' ∈ (alerts p).rows
      ∨ ∃ r ∈ (alerts p).rows, some r.id = id
        ∧ r' = { r with severity := sev, escalationLevel := r.escalationLevel + 1,
                        lastEscalatedAt := some p.store.now } := by
  rw [alerts_step_escalate hnext] at hr'
  obtain ⟨r, hr, rfl⟩ := List.mem_map.mp hr'
  by_cases hid : some r.id = id
  · exact .inr ⟨r, hr, hid, AlertRow.escalated_of_eq hid sev p.store.now⟩
  · rw [AlertRow.escalated_of_ne hid]
    exact .inl hr

/-- A step that meets the condition keeps the ladder. -/
lemma ladder_step {p : Calls ι} {m : Move ι ℕ} (hs : Sound cfg p) (hl : Ladder p)
    (hm : EscalatesFresh p m) : Ladder (step p m) := by
  have old : ∀ r ∈ (alerts p).rows, r.escalationLevel ≤ 2
      ∧ ∃ s, CreatedWith (step p m) r.id s
        ∧ raised s r.escalationLevel = some r.severity := by
    intro r hr
    obtain ⟨hle, s, hc, hraised⟩ := hl r hr
    exact ⟨hle, s, hc.step m, hraised⟩
  intro r' hr'
  rcases alerts_step p m with h | ⟨i, v, rfl, -, hrows, -, -, hseen⟩
    | ⟨i, id, sev, rfl, hnext, -, -⟩ | ⟨i, id, org, -, -, hrows, -⟩
  · exact old r' (h ▸ hr')
  · rw [hrows] at hr'
    rcases List.mem_append.mp hr' with hr | hr
    · exact old r' hr
    · rw [List.mem_singleton.mp hr]
      refine ⟨Nat.zero_le _, v.severity, ⟨i, v, p.store.now, ?_, rfl⟩, rfl⟩
      rw [hseen]
      exact List.mem_append_right _ (List.mem_singleton_self _)
  · rcases escalated_cases hnext hr' with hr | ⟨r, hr, hid, rfl⟩
    · exact old r' hr
    · obtain ⟨a, ha, haid, hrung, -, b, hb, hev⟩ := hs.escalation hnext
      have hra : r.id = a.id := Option.some.inj (hid.trans haid)
      have hrb : b = r := (alerts p).eq_of_id_eq hb hr (hev.1.trans hra.symm)
      subst hrb
      have hfresh := hm id sev hnext a ha haid.symm b hr hra
      have hsev := (hev.2.2 hfresh).1
      obtain ⟨-, s, hc, hraised⟩ := old b hr
      have hnew : raised s (b.escalationLevel + 1) = some sev := by
        rw [raised, hraised, Option.bind_some, hsev, hrung]
      exact ⟨le_two_of_raised hnew, s, hc, hnew⟩
  · rw [hrows] at hr'
    obtain ⟨r, hr, rfl⟩ := List.mem_map.mp hr'
    rw [AlertRow.acknowledged_id, AlertRow.acknowledged_severity,
      AlertRow.acknowledged_escalationLevel]
    exact old r hr

/-- A step that meets the condition spaces escalations. -/
lemma spaced_step {p : Calls ι} {m : Move ι ℕ} (hs : Sound cfg p) (hm : EscalatesFresh p m) :
    SpacedEscalations cfg p m := by
  intro r hr r' hr' hid hlevel t t' ht ht'
  rcases alerts_step p m with h | ⟨i, v, -, -, hrows, -⟩ | ⟨i, id, sev, rfl, hnext, -, -⟩
    | ⟨i, id, org, -, -, hrows, -⟩
  · rw [h] at hr'
    rw [(alerts p).eq_of_id_eq hr' hr hid] at hlevel
    exact absurd rfl hlevel
  · rw [hrows] at hr'
    rcases List.mem_append.mp hr' with hr' | hr'
    · rw [(alerts p).eq_of_id_eq hr' hr hid] at hlevel
      exact absurd rfl hlevel
    · rw [List.mem_singleton.mp hr'] at ht'
      cases ht'
  · rcases escalated_cases hnext hr' with hb | ⟨b, hb, hbid, rfl⟩
    · rw [(alerts p).eq_of_id_eq hb hr hid] at hlevel
      exact absurd rfl hlevel
    · obtain rfl := (alerts p).eq_of_id_eq hb hr hid
      obtain ⟨a, ha, haid, -, hdue, c, hc, hev⟩ := hs.escalation hnext
      have hba : b.id = a.id := Option.some.inj (hbid.trans haid)
      obtain rfl : c = b := (alerts p).eq_of_id_eq hc hr (hev.1.trans hba.symm)
      have hfresh := hm id sev hnext a ha haid.symm c hr hba
      have hlast := (hev.2.2 hfresh).2.2
      rw [← hlast, ht, Option.getD_some] at hdue
      have ht'' : p.store.now = t' := Option.some.inj ht'
      rw [← ht'']
      exact le_of_lt (lt_sub_iff_add_lt.mp hdue)
  · rw [hrows] at hr'
    obtain ⟨b, hb, rfl⟩ := List.mem_map.mp hr'
    rw [AlertRow.acknowledged_id] at hid
    rw [AlertRow.acknowledged_escalationLevel, (alerts p).eq_of_id_eq hb hr hid] at hlevel
    exact absurd rfl hlevel

/-- The severity a candidate was read with is the one its level stands for. -/
def CandidatesOnLadder (p : Calls ι) : Prop :=
  ∀ i, ∀ a ∈ candidates (p.seen i),
    ∃ s, CreatedWith p a.id s ∧ raised s a.escalationLevel = some a.severity

/-- Candidates selected from alerts on the ladder are on the ladder. -/
lemma candidatesOnLadder_step {p : Calls ι} {m : Move ι ℕ} (hs : Sound cfg p) (hl : Ladder p)
    (hc : CandidatesOnLadder p) : CandidatesOnLadder (step p m) := by
  intro j a ha
  rcases candidates_step hs.follows m j with hsame | ⟨hnew, -, -⟩
  · rw [hsame] at ha
    obtain ⟨s, hcs, hraised⟩ := hc j a ha
    exact ⟨s, hcs.step m, hraised⟩
  · rw [hnew, List.mem_filter] at ha
    obtain ⟨-, s, hcs, hraised⟩ := hl a ha.1
    exact ⟨s, hcs.step m, hraised⟩

/-- A step between two states on the ladder meets the condition: the new severity tells how
often the alert had been raised when it was read. -/
lemma escalatesFresh_of_step {p : Calls ι} {m : Move ι ℕ} (hs : Sound cfg p)
    (hc : CandidatesOnLadder p) (hl' : Ladder (step p m)) : EscalatesFresh p m := by
  cases m with
  | outside e => trivial
  | thread i =>
      intro id sev hnext a ha haid r hr hra
      obtain ⟨b, hb, hbid, hrung, -⟩ := hs.escalation hnext
      have hab : a = b :=
        List.inj_on_of_nodup_map (hs.candidates_nodup i) ha hb (Option.some.inj (haid.trans hbid))
      subst hab
      have hmem : r.escalated id sev p.store.now ∈ (alerts (step p (.thread i))).rows :=
        alerts_step_escalate hnext ▸ List.mem_map_of_mem hr
      have hrid : some r.id = id := by rw [hra, haid]
      rw [AlertRow.escalated_of_eq hrid] at hmem
      obtain ⟨-, s, hcs, hraised⟩ := hl' _ hmem
      obtain ⟨s', hcs', hraised'⟩ := hc i a ha
      have hss : s' = s :=
        (hs.step (.thread i)).created_unique a.id s' s (hcs'.step _) (hra ▸ hcs)
      subst hss
      have hsev : raised s' (a.escalationLevel + 1) = some sev := by
        rw [raised, hraised', Option.bind_some, hrung]
      have hlevels : a.escalationLevel + 1 = r.escalationLevel + 1 :=
        raised_injective hsev hraised
      omega

/-- **The escalation ladder under concurrency.** In a run of any number of sweeps, creations and
acknowledgements on empty tables, every alert is on the ladder in every state and its
escalations are spaced by the configured delay, exactly when every escalation finds its alert at
the level at which its sweep has read it. -/
theorem ladder_run_iff (cfg : Config) (calls : ι → AlertCall) (sched : List (Move ι ℕ)) :
    EachState step Ladder sched (start cfg calls .empty)
        ∧ EachStep step (SpacedEscalations cfg) sched (start cfg calls .empty)
      ↔ EachStep step EscalatesFresh sched (start cfg calls .empty) := by
  have hstart := sound_start cfg calls
  constructor
  · rintro ⟨hladder, -⟩
    have hboth := hladder.and_of_step (K := CandidatesOnLadder) (J := Sound cfg)
      (fun _ m h => h.step m) (fun _ _ hs hl hc => candidatesOnLadder_step hs hl hc) hstart
      (fun i a ha => by cases ha)
    exact Statement.eachStep_of_eachState (fun _ m h => Sound.step h m)
      (fun _ _ hs hp hp' => escalatesFresh_of_step hs hp.2 hp'.1) hstart hboth
  · intro h
    refine ⟨?_, h.mono (fun _ m hs => Sound.step hs m) (fun _ _ hs hm => spaced_step hs hm) hstart⟩
    exact Statement.eachState_of_eachStep (fun _ m hs => Sound.step hs m)
      (fun _ _ hs hl hm => ladder_step hs hl hm) hstart (fun r hr => by cases hr) h

/-- An instance raises an alert, and two instances sweep. -/
def twoSweeps : Fin 3 → AlertCall
  | 0 => .createIfDue "rule" 300 pumpAlert "d1:temperature"
  | 1 => .sweep
  | 2 => .sweep

/-- Both sweeps select the alert before either escalates it. -/
def selectTwice : List (Move (Fin 3) ℕ) :=
  [.thread 0, .thread 0, .outside 901000000, .thread 1, .thread 2, .thread 1, .thread 2]

/-- An alert created as a `WARNING` ends as `HIGH` at level 2. -/
theorem alert_escalated_off_ladder :
    ¬ EachState step Ladder selectTwice (start .default twoSweeps .empty) := by
  have last : (alerts ((start .default twoSweeps .empty).exec World.exec World.tick
      selectTwice)).rows.map (fun r => (r.severity, r.escalationLevel)) = [(.HIGH, 2)] := by
    decide +kernel
  have off : ∀ s, raised s 2 ≠ some .HIGH := by
    intro s
    cases s <;> decide
  intro h
  have hmem : (Severity.HIGH, 2) ∈ [(Severity.HIGH, 2)] := List.mem_singleton_self _
  rw [← last] at hmem
  obtain ⟨r, hr, hpair⟩ := List.mem_map.mp hmem
  obtain ⟨hsev, hlevel⟩ := Prod.mk.inj hpair
  obtain ⟨-, s, -, hraised⟩ := h.last r hr
  rw [hsev, hlevel] at hraised
  exact off s hraised

end AlertRaces

end InduSense
