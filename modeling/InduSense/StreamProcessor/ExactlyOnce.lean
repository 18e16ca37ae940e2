import InduSense.Shared.Keys
import InduSense.StreamProcessor.Poison

/-!
Every event counts once: the deliveries of all messages, one after the other, and the buffers they
leave.

* `history`, `worldAfter`: what each delivery has logged, and what they all leave.
* `InTime`: a message is delivered again only while the key of its event is live.
* `counted`: the events whose first delivery that took the key has also written the raw point.
* `deliver_cases`: what one delivery does; `registry_worldAfter`: the registry has recorded the
  counted events, in their order, and nothing else.
* `bufOf_records`: recording goes by series; `exactly_once`.
-/

namespace InduSense

namespace StreamProcessor

open Statement (Reply Run Log Entry)

variable {R Payload : Type}

/-! ### Deliveries of all messages -/

/-- Redis has granted a claim. -/
def claims (l : Log (Streaming R) PyError) : Bool :=
  l.any fun
    | ⟨.setNx _ _, .ok granted⟩ => granted
    | _ => false

/-- A raw point has been written. -/
def writes (l : Log (Streaming R) PyError) : Bool :=
  l.any fun
    | ⟨.writeRawPoint _ _ _, .ok _⟩ => true
    | _ => false

/-- How often `registry.record` has run. -/
def records (l : Log (Streaming R) PyError) : ℕ :=
  l.countP fun
    | ⟨.recordSample _ _ _, _⟩ => true
    | _ => false

/-- A delivered message: the event it carries, if any, and what its handling has logged. -/
structure Handled (R : Type) where
  evt : Option (NormalizedTelemetryEvent R)
  log : Log (Streaming R) PyError

/-- The message carries an event of the id. -/
def Handled.isOf (id : String) (h : Handled R) : Bool := h.evt.any fun evt => evt.eventId = id

/-- The event that the handling has claimed. -/
def Handled.claimed (h : Handled R) : Option (NormalizedTelemetryEvent R) :=
  if claims h.log then h.evt else none

variable (cfg : Config) (codec : Codec Payload (NormalizedTelemetryEvent R))

/-- The messages delivered, each with what its handling has logged. -/
def history : List (Payload × Delivery) → World R → List (Handled R)
  | [], _ => []
  | x :: xs, w =>
      ⟨(codec.parse x.1).toOption, (deliver cfg codec x.1 w x.2).log⟩
        :: history xs (deliver cfg codec x.1 w x.2).store

/-- What the deliveries leave. -/
def worldAfter : List (Payload × Delivery) → World R → World R
  | [], w => w
  | x :: xs, w => worldAfter xs (deliver cfg codec x.1 w x.2).store

/-- The messages with the times of their deliveries. -/
def timed : List (Payload × Delivery) → Time → List (Payload × Time)
  | [], _ => []
  | x :: xs, now => (x.1, now + x.2.elapsed) :: timed xs (now + x.2.elapsed)

/-- Deliveries of one event are less than the lifetime of its key apart. -/
def InTime (ds : List (Payload × Delivery)) (now : Time) : Prop :=
  (timed ds now).Pairwise fun a b => ∀ e₁ e₂, codec.parse a.1 = .ok e₁ → codec.parse b.1 = .ok e₂ →
    e₁.eventId = e₂.eventId → b.2 - a.2 < seconds cfg.dedupTtlSeconds

/-- The events whose first delivery that claimed them has also written the raw point, in the order
of these deliveries; of the events in `seen` there has been one before. -/
def counted : List String → List (Handled R) → List (NormalizedTelemetryEvent R)
  | _, [] => []
  | seen, h :: hs =>
      match h.claimed with
      | none => counted seen hs
      | some evt =>
          if evt.eventId ∈ seen then counted seen hs
          else if writes h.log then evt :: counted (evt.eventId :: seen) hs
          else counted (evt.eventId :: seen) hs

/-! ### One delivery -/

/-- What follows in a log neither claims nor writes nor records, and time, keys and series stay. -/
structure Idle (l : Log (Streaming R) PyError) (w : World R)
    (r : Run (Streaming R) PyError Bool (World R)) : Prop where
  claims : claims r.log = claims l
  writes : writes r.log = writes l
  records : records r.log = records l
  now : r.store.now = w.now
  redis : r.store.redis = w.redis
  registry : r.store.registry = w.registry

/-- Giving a message up. -/
lemma idle_deadLetterOrHold (d : Delivery) (l : Log (Streaming R) PyError) (w : World R)
    (rawPayload : String) (cause : PyError) (stage correlationId : String) :
    Idle l w
      ((deadLetterOrHold rawPayload cause stage correlationId).run World.exec d.env l w) := by
  rw [deadLetterOrHold, deadLetter]
  rcases hd : d.deadLetter with _ | ⟨e, applied⟩
  · constructor <;>
      simp [Statement.Prog.issue, Statement.Prog.run_call, World.exec, hd, Reply.fate, claims,
        writes, records]
  · cases applied <;> constructor <;>
      simp [Statement.Prog.issue, Statement.Prog.run_call, World.exec, hd, Reply.fate, claims,
        writes, records]

/-- Work on a claimed event: the sample is recorded if the raw point has been written. -/
structure Worked (evt : NormalizedTelemetryEvent R) (w : World R)
    (r : Run (Streaming R) PyError Bool (World R)) : Prop where
  claims : claims r.log = true
  now : r.store.now = w.now
  redis : r.store.redis = w.redis
  recorded : writes r.log = true → records r.log = 1
    ∧ r.store.registry = (recordEvent w.registry evt).2
  spared : writes r.log = false → records r.log = 0 ∧ r.store.registry = w.registry

/-- What a message that is given up in the end has been recorded as. -/
lemma Worked.of_idle {evt : NormalizedTelemetryEvent R} {w w' : World R}
    {l : Log (Streaming R) PyError} {r : Run (Streaming R) PyError Bool (World R)}
    (h : Worked evt w ⟨.died, l, w'⟩) (hidle : Idle l w' r) : Worked evt w r where
  claims := hidle.claims.trans h.claims
  now := hidle.now.trans h.now
  redis := hidle.redis.trans h.redis
  recorded hw := by
    rw [hidle.records, hidle.registry]
    exact h.recorded (hidle.writes.symm.trans hw)
  spared hw := by
    rw [hidle.records, hidle.registry]
    exact h.spared (hidle.writes.symm.trans hw)

lemma processClaimed_worked (d : Delivery) (evt : NormalizedTelemetryEvent R) (rawPayload : String)
    (key : String) (ex : ℤ) (w : World R) :
    Worked evt w
      ((processClaimed rawPayload evt).run World.exec d.env [⟨.setNx key ex, .ok true⟩] w) := by
  rw [processClaimed, Statement.Prog.bind_eq, Statement.Prog.run_try_issue, env_writeRawPoint]
  rcases d.influx with _ | ⟨e, applied⟩
  · rw [Reply.fate]
    simp only [World.exec]
    rw [Statement.Prog.bind_eq, Statement.Prog.run_issue_bind, env_recordSample]
    simp only [World.exec]
    rcases hrecord : w.registry.record (seriesKey evt) evt.timestamp evt.value with
      ⟨result, registry⟩
    have hregistry : registry = (recordEvent w.registry evt).2 := by rw [recordEvent, hrecord]
    cases result with
    | error e => exact ⟨rfl, rfl, rfl, fun _ => ⟨rfl, hregistry⟩, fun h => by cases h⟩
    | ok u =>
        dsimp only
        rw [Statement.Prog.bind_eq, Statement.Prog.run_try_issue, env_publishProcessed]
        rcases d.republish with _ | ⟨e, applied⟩
        · exact ⟨rfl, rfl, rfl, fun _ => ⟨rfl, hregistry⟩, fun h => by cases h⟩
        · refine Worked.of_idle ?_ (idle_deadLetterOrHold d _ _ _ _ _ _)
          cases applied with
          | false => exact ⟨rfl, rfl, rfl, fun _ => ⟨rfl, hregistry⟩, fun h => by cases h⟩
          | true => exact ⟨rfl, rfl, rfl, fun _ => ⟨rfl, hregistry⟩, fun h => by cases h⟩
  · refine Worked.of_idle ?_ (idle_deadLetterOrHold d _ _ _ _ _ _)
    cases applied with
    | false => exact ⟨rfl, rfl, rfl, fun h => (by cases h), fun _ => ⟨rfl, rfl⟩⟩
    | true => exact ⟨rfl, rfl, rfl, fun h => (by cases h), fun _ => ⟨rfl, rfl⟩⟩

/-- `SET … NX` keeps the time, the series and the keys that are live. -/
lemma setNx_keeps (w : World R) (key : String) (ex : ℤ) :
    (w.setNx key ex).2.now = w.now ∧ (w.setNx key ex).2.registry = w.registry
      ∧ ∀ k expiry, w.redis k = some expiry → w.now < expiry →
        (w.setNx key ex).2.redis k = some expiry := by
  rw [World.setNx]
  split
  · exact ⟨rfl, rfl, fun _ _ h _ => h⟩
  · split
    · exact ⟨rfl, rfl, fun _ _ h _ => h⟩
    · refine ⟨rfl, rfl, fun k expiry hk hlive => ?_⟩
      have hne : k ≠ key := by
        rintro rfl
        have hkey : w.live k = true := by
          rw [World.live, hk]
          exact decide_eq_true hlive
        contradiction
      rw [← hk]
      exact Function.update_of_ne hne _ _

/-- A delivery that claims nothing at some time keeps the series and the keys that are live. -/
structure Skipped (w : World R) (t : Time) (r : Run (Streaming R) PyError Bool (World R)) :
    Prop where
  claims : claims r.log = false
  records : records r.log = 0
  now : r.store.now = t
  registry : r.store.registry = w.registry
  redis : ∀ key expiry, w.redis key = some expiry → t < expiry → r.store.redis key = some expiry

/-- A delivery that claims an event at some time finds its key free, and works on the event. -/
structure Taken (cfg : Config) (evt : NormalizedTelemetryEvent R) (w : World R) (t : Time)
    (r : Run (Streaming R) PyError Bool (World R)) : Prop where
  free : ∀ expiry, w.redis (dedupKey evt.eventId) = some expiry → ¬ t < expiry
  worked : Worked evt
    { w with
      now := t
      redis := Function.update w.redis (dedupKey evt.eventId)
        (some (t + seconds cfg.dedupTtlSeconds)) } r

/-- **What a delivery does.** -/
theorem deliver_cases (msg : Payload) (w : World R) (d : Delivery) :
    Skipped w (w.now + d.elapsed) (deliver cfg codec msg w d)
      ∨ ∃ evt, codec.parse msg = .ok evt
        ∧ Taken cfg evt w (w.now + d.elapsed) (deliver cfg codec msg w d) := by
  cases hparse : codec.parse msg with
  | error exc =>
      have hdeliver : deliver cfg codec msg w d
          = (deadLetterOrHold (codec.text msg) exc "unmarshal" "").run World.exec d.env []
              (w.tick d.elapsed) := by
        rw [deliver, processMessage, hparse]
      have hidle := idle_deadLetterOrHold (R := R) d [] (w.tick d.elapsed) (codec.text msg) exc
        "unmarshal" ""
      rw [hdeliver]
      refine .inl ⟨hidle.claims, hidle.records, hidle.now, hidle.registry, fun key expiry h _ => ?_⟩
      rw [hidle.redis]
      exact h
  | ok evt =>
      obtain ⟨hnow, hregistry, hlive⟩ :=
        setNx_keeps (w.tick d.elapsed) (dedupKey evt.eventId) cfg.dedupTtlSeconds
      cases hd : d.redis with
      | fails e applied =>
          rw [deliver_of_redis_fails hparse w hd]
          refine .inl ⟨rfl, rfl, ?_, ?_, fun key expiry h hkey => ?_⟩
          · cases applied with
            | false => rfl
            | true => exact hnow
          · cases applied with
            | false => rfl
            | true => exact hregistry
          · cases applied with
            | false => exact h
            | true => exact hlive key expiry h hkey
      | answers =>
          rw [deliver_of_redis_answers hparse w hd]
          by_cases httl : cfg.dedupTtlSeconds ≤ 0
          · rw [World.setNx, if_pos httl]
            exact .inl ⟨rfl, rfl, rfl, rfl, fun _ _ h _ => h⟩
          · rw [World.setNx, if_neg httl]
            cases hkey : (w.tick d.elapsed).live (dedupKey evt.eventId) with
            | true => exact .inl ⟨rfl, rfl, rfl, rfl, fun _ _ h _ => h⟩
            | false =>
                refine .inr ⟨evt, rfl, fun expiry h hlt => ?_, ?_⟩
                · rw [World.live] at hkey
                  have hfind : (w.tick d.elapsed).redis (dedupKey evt.eventId) = some expiry := h
                  rw [hfind] at hkey
                  exact of_decide_eq_false hkey hlt
                · exact processClaimed_worked d evt (codec.text msg) _ _ _

/-! ### All deliveries -/

/-- Later deliveries of the events in `seen` find their keys live. -/
def Covered (seen : List String) (ds : List (Payload × Delivery)) (w : World R) : Prop :=
  ∀ p ∈ timed ds w.now, ∀ evt, codec.parse p.1 = .ok evt → evt.eventId ∈ seen →
    ∃ expiry, w.redis (dedupKey evt.eventId) = some expiry ∧ p.2 < expiry

lemma le_of_mem_timed {ds : List (Payload × Delivery)} {now : Time} {p : Payload × Time}
    (hp : p ∈ timed ds now) : now ≤ p.2 := by
  induction ds generalizing now with
  | nil => cases hp
  | cons x ds ih =>
      have hstep : now ≤ now + x.2.elapsed := by
        have : (0 : ℤ) ≤ x.2.elapsed := Int.natCast_nonneg _
        linarith
      rcases List.mem_cons.mp hp with rfl | hp
      · exact hstep
      · exact hstep.trans (ih hp)

lemma dedupKey_injective : Function.Injective dedupKey :=
  fun _ _ h => (String.append_right_inj _).mp h

variable {cfg codec} {seen : List String} {ds : List (Payload × Delivery)} {x : Payload × Delivery}
  {w : World R}

/-- The first of some deliveries: what it claims has not been claimed before, and is covered from
then on. -/
lemma Covered.step (hcov : Covered codec seen (x :: ds) w)
    (htime : InTime cfg codec (x :: ds) w.now) :
    InTime cfg codec ds (deliver cfg codec x.1 w x.2).store.now ∧
      (Skipped w (w.now + x.2.elapsed) (deliver cfg codec x.1 w x.2)
          ∧ Covered codec seen ds (deliver cfg codec x.1 w x.2).store
        ∨ ∃ evt, codec.parse x.1 = .ok evt ∧ evt.eventId ∉ seen
          ∧ Taken cfg evt w (w.now + x.2.elapsed) (deliver cfg codec x.1 w x.2)
          ∧ Covered codec (evt.eventId :: seen) ds (deliver cfg codec x.1 w x.2).store) := by
  rw [InTime, timed, List.pairwise_cons] at htime
  have hlater : ∀ p ∈ timed ds (w.now + x.2.elapsed), ∀ evt, codec.parse p.1 = .ok evt →
      evt.eventId ∈ seen →
      ∃ expiry, w.redis (dedupKey evt.eventId) = some expiry ∧ p.2 < expiry :=
    fun p hp => hcov p (List.mem_cons_of_mem _ hp)
  rcases deliver_cases cfg codec x.1 w x.2 with hskip | ⟨evt, hparse, htaken⟩
  · rw [hskip.now]
    refine ⟨htime.2, .inl ⟨hskip, fun p hp e he hseen => ?_⟩⟩
    rw [hskip.now] at hp
    obtain ⟨expiry, hkey, hlt⟩ := hlater p hp e he hseen
    exact ⟨expiry, hskip.redis _ _ hkey ((le_of_mem_timed hp).trans_lt hlt), hlt⟩
  · have hnow : (deliver cfg codec x.1 w x.2).store.now = w.now + x.2.elapsed := htaken.worked.now
    rw [hnow]
    refine ⟨htime.2, .inr ⟨evt, hparse, fun hseen => ?_, htaken, fun p hp e he hseen => ?_⟩⟩
    · obtain ⟨expiry, hkey, hlt⟩ := hcov (x.1, w.now + x.2.elapsed) List.mem_cons_self evt hparse
        hseen
      exact htaken.free expiry hkey hlt
    · rw [hnow] at hp
      rw [htaken.worked.redis]
      by_cases hsame : e.eventId = evt.eventId
      · have hlt := htime.1 p hp evt e hparse he hsame.symm
        refine ⟨_, by rw [hsame]; exact Function.update_self _ _ _, ?_⟩
        dsimp only at hlt ⊢
        linarith
      · obtain ⟨expiry, hkey, hlt⟩ := hlater p hp e he
          ((List.mem_cons.mp hseen).resolve_left hsame)
        refine ⟨expiry, ?_, hlt⟩
        rw [← hkey]
        exact Function.update_of_ne (fun h => hsame (dedupKey_injective h)) _ _

/-- **What any deliveries leave in the registry**: the records of the counted events. -/
theorem registry_worldAfter (hcov : Covered codec seen ds w) (htime : InTime cfg codec ds w.now) :
    (worldAfter cfg codec ds w).registry
      = (counted seen (history cfg codec ds w)).foldl (fun registry evt => (recordEvent registry evt).2)
          w.registry := by
  induction ds generalizing seen w with
  | nil => rfl
  | cons x ds ih =>
      obtain ⟨htime', hstep⟩ := hcov.step htime
      rw [worldAfter, history, counted, Handled.claimed]
      rcases hstep with ⟨hskip, hcov'⟩ | ⟨evt, hparse, hseen, htaken, hcov'⟩
      · rw [if_neg (by rw [hskip.claims]; exact Bool.false_ne_true), ih hcov' htime',
          hskip.registry]
      · rw [if_pos htaken.worked.claims, hparse, ih hcov' htime']
        simp only [Except.toOption, if_neg hseen]
        cases hwrites : writes (deliver cfg codec x.1 w x.2).log with
        | true =>
            rw [if_pos rfl, List.foldl_cons, (htaken.worked.recorded hwrites).2]
        | false => rw [if_neg Bool.false_ne_true, (htaken.worked.spared hwrites).2]

/-- **Each event is recorded at most once**, and not at all if it has been claimed before. -/
theorem sum_records_le (hcov : Covered codec seen ds w) (htime : InTime cfg codec ds w.now)
    (id : String) :
    (((history cfg codec ds w).filter (Handled.isOf id)).map fun h => records h.log).sum
      ≤ if id ∈ seen then 0 else 1 := by
  induction ds generalizing seen w with
  | nil => exact Nat.zero_le _
  | cons x ds ih =>
      obtain ⟨htime', hstep⟩ := hcov.step htime
      rw [history, List.filter_cons]
      rcases hstep with ⟨hskip, hcov'⟩ | ⟨evt, hparse, hseen, htaken, hcov'⟩
      · split
        · rw [List.map_cons, List.sum_cons, hskip.records, Nat.zero_add]
          exact ih hcov' htime'
        · exact ih hcov' htime'
      · have ih := ih hcov' htime'
        have hrecords : records (deliver cfg codec x.1 w x.2).log ≤ 1 := by
          cases hwrites : writes (deliver cfg codec x.1 w x.2).log with
          | true => exact (htaken.worked.recorded hwrites).1.le
          | false => exact (htaken.worked.spared hwrites).1.le.trans (Nat.zero_le 1)
        have hof : Handled.isOf id
            (⟨(codec.parse x.1).toOption, (deliver cfg codec x.1 w x.2).log⟩ : Handled R)
              = decide (evt.eventId = id) := by
          rw [Handled.isOf, hparse]
          rfl
        rw [hof]
        by_cases hid : evt.eventId = id
        · subst hid
          rw [if_pos List.mem_cons_self] at ih
          rw [if_pos (decide_eq_true rfl), if_neg hseen, List.map_cons, List.sum_cons]
          dsimp only
          omega
        · rw [if_neg (by simpa using hid)]
          refine ih.trans (le_of_eq (if_congr ?_ rfl rfl))
          rw [List.mem_cons]
          exact or_iff_right (Ne.symm hid)

/-! ### Records by series -/

/-- An event in the buffer of its series. -/
def addEvent (buf : SeriesBuffer R) (evt : NormalizedTelemetryEvent R) : SeriesBuffer R :=
  (buf.add evt.timestamp evt.value).2

@[simp] lemma recordEvent_maxWindow (registry : SeriesRegistry R)
    (evt : NormalizedTelemetryEvent R) :
    (recordEvent registry evt).2.maxWindow = registry.maxWindow := by
  rw [recordEvent, SeriesRegistry.record]
  cases registry.find (seriesKey evt).id with
  | none => rfl
  | some s => rfl

/-- A record goes to the buffer of its series, and to no other. -/
lemma bufOf_recordEvent (registry : SeriesRegistry R) (evt : NormalizedTelemetryEvent R)
    (id : String) :
    (recordEvent registry evt).2.bufOf id
      = if (seriesKey evt).id = id then addEvent (registry.bufOf id) evt
        else registry.bufOf id := by
  rw [SeriesRegistry.bufOf, recordEvent_maxWindow, recordEvent, SeriesRegistry.record,
    SeriesRegistry.find]
  cases hfind : registry.find (seriesKey evt).id with
  | none =>
      rw [SeriesRegistry.find] at hfind
      dsimp only
      rw [List.find?_append]
      by_cases hid : (seriesKey evt).id = id
      · subst hid
        rw [hfind, if_pos rfl, SeriesRegistry.bufOf, SeriesRegistry.find, hfind]
        simp [addEvent]
      · rw [if_neg hid, SeriesRegistry.bufOf, SeriesRegistry.find]
        simp [hid]
  | some s =>
      have hcomp : ((fun s' : TrackedSeries R => decide (s'.key.id = id)) ∘ fun s' =>
          if s'.key.id = (seriesKey evt).id then
            { s' with buf := (s.buf.add evt.timestamp evt.value).2 } else s')
          = fun s' : TrackedSeries R => decide (s'.key.id = id) := by
        funext s'
        simp only [Function.comp_apply]
        split <;> rfl
      simp only [SeriesRegistry.setBuf, List.find?_map]
      rw [hcomp]
      by_cases hid : (seriesKey evt).id = id
      · subst hid
        have hs : s.key.id = (seriesKey evt).id := by simpa using List.find?_some hfind
        rw [if_pos rfl, SeriesRegistry.bufOf, hfind]
        rw [SeriesRegistry.find] at hfind
        rw [hfind, Option.map_some, if_pos hs]
        rfl
      · rw [if_neg hid, SeriesRegistry.bufOf, SeriesRegistry.find]
        cases hother : registry.series.find? fun s => decide (s.key.id = id) with
        | none => rfl
        | some s' =>
            have hs' : s'.key.id = id := by simpa using List.find?_some hother
            rw [Option.map_some, if_neg fun h => hid (h.symm.trans hs')]

/-- The buffer of a series after some records: the ones of its own. -/
lemma bufOf_records (evts : List (NormalizedTelemetryEvent R)) (registry : SeriesRegistry R)
    (id : String) :
    (evts.foldl (fun registry evt => (recordEvent registry evt).2) registry).bufOf id
      = (evts.filter fun evt => decide ((seriesKey evt).id = id)).foldl addEvent
          (registry.bufOf id) := by
  induction evts generalizing registry with
  | nil => rfl
  | cons evt evts ih =>
      rw [List.foldl_cons, ih, bufOf_recordEvent, List.filter_cons]
      by_cases hid : (seriesKey evt).id = id
      · rw [if_pos hid, if_pos (decide_eq_true hid), List.foldl_cons]
      · rw [if_neg hid, if_neg (by simpa using hid)]

/-- The series of a registry differ, and their devices are among those of the events recorded. -/
structure Distinct (P : String → Prop) (registry : SeriesRegistry R) : Prop where
  nodup : (registry.series.map fun s => s.key.id).Nodup
  device : ∀ s ∈ registry.series, P s.key.deviceId

lemma Distinct.recordEvent {P : String → Prop} {registry : SeriesRegistry R}
    (h : Distinct P registry) {evt : NormalizedTelemetryEvent R} (hevt : P evt.deviceId) :
    Distinct P (recordEvent registry evt).2 := by
  rw [StreamProcessor.recordEvent, SeriesRegistry.record]
  cases hfind : registry.find (seriesKey evt).id with
  | none =>
      have hnew : (seriesKey evt).id ∉ registry.series.map fun s => s.key.id := by
        rw [List.mem_map]
        rintro ⟨s, hs, hid⟩
        have := List.find?_eq_none.mp hfind s hs
        exact this (decide_eq_true hid)
      constructor
      · show ((registry.series ++ [_]).map _).Nodup
        rw [List.map_append]
        exact h.nodup.append (List.nodup_singleton _) (by simpa using hnew)
      · intro s hs
        rcases List.mem_append.mp hs with hs | hs
        · exact h.device s hs
        · rw [List.mem_singleton.mp hs]
          exact hevt
  | some s₀ =>
      constructor
      · have hids : ((registry.setBuf (seriesKey evt).id
            (s₀.buf.add evt.timestamp evt.value).2).series.map fun s => s.key.id)
            = registry.series.map fun s => s.key.id := by
          rw [SeriesRegistry.setBuf, List.map_map]
          refine List.map_congr_left fun s _ => ?_
          simp only [Function.comp_apply]
          split <;> rfl
        exact hids ▸ h.nodup
      · intro s hs
        obtain ⟨s₁, hs₁, rfl⟩ := List.mem_map.mp hs
        have := h.device s₁ hs₁
        split <;> exact this

lemma Distinct.records {P : String → Prop} {registry : SeriesRegistry R} (h : Distinct P registry)
    {evts : List (NormalizedTelemetryEvent R)} (hevts : ∀ evt ∈ evts, P evt.deviceId) :
    Distinct P (evts.foldl (fun registry evt => (StreamProcessor.recordEvent registry evt).2)
      registry) := by
  induction evts generalizing registry with
  | nil => exact h
  | cons evt evts ih =>
      rw [List.forall_mem_cons] at hevts
      exact ih (h.recordEvent hevts.1) hevts.2

/-- The buffer of a tracked series is the one its id is looked up by. -/
lemma Distinct.buf_eq {P : String → Prop} {registry : SeriesRegistry R} (h : Distinct P registry)
    {s : TrackedSeries R} (hs : s ∈ registry.series) : s.buf = registry.bufOf s.key.id := by
  have hfind : registry.find s.key.id = some s := by
    rw [SeriesRegistry.find]
    cases hfind : registry.series.find? fun s' => decide (s'.key.id = s.key.id) with
    | none => exact absurd (decide_eq_true rfl) (List.find?_eq_none.mp hfind s hs)
    | some s' =>
        have hid : s'.key.id = s.key.id := by simpa using List.find?_some hfind
        rw [List.inj_on_of_nodup_map h.nodup (List.mem_of_find?_eq_some hfind) hs hid]
  rw [SeriesRegistry.bufOf, hfind]
  rfl

/-- The counted events are among those delivered. -/
lemma mem_of_mem_counted {hs : List (Handled R)} {evt : NormalizedTelemetryEvent R}
    (h : evt ∈ counted seen hs) : ∃ handled ∈ hs, handled.evt = some evt := by
  induction hs generalizing seen with
  | nil => cases h
  | cons handled hs ih =>
      have hlater : ∀ {seen}, evt ∈ counted seen hs →
          ∃ handled' ∈ handled :: hs, handled'.evt = some evt := by
        intro seen h
        obtain ⟨handled', hmem, heq⟩ := ih h
        exact ⟨handled', List.mem_cons_of_mem _ hmem, heq⟩
      rw [counted] at h
      cases hclaimed : handled.claimed with
      | none =>
          rw [hclaimed] at h
          exact hlater h
      | some e =>
          have hevt : handled.evt = some e := by
            rw [Handled.claimed] at hclaimed
            split at hclaimed
            · exact hclaimed
            · cases hclaimed
          rw [hclaimed] at h
          dsimp only at h
          split at h
          · exact hlater h
          · split at h
            · rcases List.mem_cons.mp h with rfl | h
              · exact ⟨handled, List.mem_cons_self, hevt⟩
              · exact hlater h
            · exact hlater h

lemma exists_of_mem_history {h : Handled R} (hmem : h ∈ history cfg codec ds w) :
    ∃ x ∈ ds, h.evt = (codec.parse x.1).toOption := by
  induction ds generalizing w with
  | nil => cases hmem
  | cons x ds ih =>
      rcases List.mem_cons.mp hmem with rfl | hmem
      · exact ⟨x, List.mem_cons_self, rfl⟩
      · obtain ⟨x', hx', heq⟩ := ih hmem
        exact ⟨x', List.mem_cons_of_mem _ hx', heq⟩

/-- The series of a device and a metric, by its id. -/
lemma seriesKey_id_iff {evt : NormalizedTelemetryEvent R} {deviceId metric : String}
    (hevt : '|' ∉ evt.deviceId.toList) (hid : '|' ∉ deviceId.toList) :
    (seriesKey evt).id = deviceId ++ "|" ++ metric
      ↔ evt.deviceId = deviceId ∧ evt.metric = metric :=
  append_separator_inj hevt hid

/-- The buffer built by a fresh `SeriesBuffer` from the events of a device and a metric. -/
def bufferOf (maxWindow : Time) (deviceId metric : String)
    (evts : List (NormalizedTelemetryEvent R)) : SeriesBuffer R :=
  (evts.filter fun evt => decide (evt.deviceId = deviceId ∧ evt.metric = metric)).foldl addEvent
    ⟨maxWindow, []⟩

/-- **Every event counts once.**  Whatever fails, after any deliveries to a new process, none of
which comes after the key of its event has expired, each event has been recorded at most once, and
the buffer of each series is the one built from its own events: those whose first delivery that
claimed them has also written the raw point.  A delivery leaves the other series alone. -/
theorem exactly_once (cfg : Config) (codec : Codec Payload (NormalizedTelemetryEvent R))
    (ds : List (Payload × Delivery)) (w : World R) (hnew : w.registry.series = [])
    (hids : ∀ x ∈ ds, ∀ evt, codec.parse x.1 = .ok evt → '|' ∉ evt.deviceId.toList)
    (htime : InTime cfg codec ds w.now) :
    let hs := history cfg codec ds w
    let registry := (worldAfter cfg codec ds w).registry
    (∀ id, ((hs.filter (Handled.isOf id)).map fun h => records h.log).sum ≤ 1)
      ∧ (∀ deviceId metric, '|' ∉ deviceId.toList →
          registry.bufOf (deviceId ++ "|" ++ metric)
            = bufferOf w.registry.maxWindow deviceId metric (counted [] hs))
      ∧ (∀ s ∈ registry.series,
          s.buf = bufferOf w.registry.maxWindow s.key.deviceId s.key.metric (counted [] hs))
      ∧ ∀ (msg : Payload) (d : Delivery) (w : World R) (evt : NormalizedTelemetryEvent R),
          codec.parse msg = .ok evt → '|' ∉ evt.deviceId.toList →
          ∀ deviceId metric, '|' ∉ deviceId.toList →
            ¬ (evt.deviceId = deviceId ∧ evt.metric = metric) →
            (deliver cfg codec msg w d).store.registry.bufOf (deviceId ++ "|" ++ metric)
              = w.registry.bufOf (deviceId ++ "|" ++ metric) := by
  intro hs registry
  have hcov : Covered codec [] ds w := fun _ _ _ _ hseen => absurd hseen List.not_mem_nil
  have hregistry : registry = _ := registry_worldAfter hcov htime
  have hcounted : ∀ evt ∈ counted [] hs, '|' ∉ evt.deviceId.toList := by
    intro evt hevt
    obtain ⟨h, hmem, heq⟩ := mem_of_mem_counted hevt
    obtain ⟨x, hx, hparse⟩ := exists_of_mem_history hmem
    refine hids x hx evt ?_
    rw [heq] at hparse
    cases hx : codec.parse x.1 with
    | error e =>
        rw [hx] at hparse
        cases hparse
    | ok evt' =>
        rw [hx] at hparse
        cases hparse
        rfl
  have hbuf : ∀ deviceId metric, '|' ∉ deviceId.toList →
      registry.bufOf (deviceId ++ "|" ++ metric)
        = bufferOf w.registry.maxWindow deviceId metric (counted [] hs) := by
    intro deviceId metric hid
    have hempty : w.registry.bufOf (deviceId ++ "|" ++ metric) = ⟨w.registry.maxWindow, []⟩ := by
      rw [SeriesRegistry.bufOf, SeriesRegistry.find, hnew]
      rfl
    rw [hregistry, bufOf_records, hempty, bufferOf]
    congr 1
    exact List.filter_congr fun evt hevt =>
      decide_eq_decide.mpr (seriesKey_id_iff (hcounted evt hevt) hid)
  have hdistinct : Distinct (fun deviceId => '|' ∉ deviceId.toList) registry := by
    rw [hregistry]
    refine Distinct.records ⟨?_, ?_⟩ hcounted
    · rw [hnew]
      exact List.nodup_nil
    · rw [hnew]
      exact fun _ h => absurd h List.not_mem_nil
  refine ⟨fun id => ?_, hbuf, fun s hmem => ?_, fun msg d w evt hparse hevt deviceId metric hid
    hother => ?_⟩
  · exact (sum_records_le hcov htime id).trans (by simp)
  · rw [hdistinct.buf_eq hmem]
    exact hbuf _ _ (hdistinct.device s hmem)
  · rcases deliver_cases cfg codec msg w d with hskip | ⟨evt', hparse', htaken⟩
    · rw [hskip.registry]
    · obtain rfl : evt = evt' := Except.ok.inj (hparse.symm.trans hparse')
      cases hwrites : writes (deliver cfg codec msg w d).log with
      | false => rw [(htaken.worked.spared hwrites).2]
      | true =>
          rw [(htaken.worked.recorded hwrites).2, bufOf_recordEvent,
            if_neg (mt (seriesKey_id_iff hevt hid).mp hother)]

/-! ### A reading that is delivered twice -/

/-- Republishing fails at the first delivery, and so does dead-lettering, so the message comes
again. -/
def republishDownOnce : List (NormalizedTelemetryEvent ℚ × Delivery) :=
  [(pumpReading, ⟨0, .answers, .answers, .fails ⟨.external, "broker down"⟩ false,
      .fails ⟨.external, "broker down"⟩ false⟩),
    (pumpReading, ⟨60000000, .answers, .answers, .answers, .answers⟩)]

/-- The reading counts once. -/
theorem exactly_once_republish :
    counted [] (history .default (.plain "reading") republishDownOnce fresh) = [pumpReading]
      ∧ (worldAfter .default (.plain "reading") republishDownOnce fresh).registry.bufOf
          "d1|temperature" = bufferOf (seconds 900) "d1" "temperature" [pumpReading] := by
  have hcounted : counted [] (history .default (.plain "reading") republishDownOnce fresh)
      = [pumpReading] := by rfl
  have h := (exactly_once .default (.plain "reading") republishDownOnce fresh rfl
    (by
      intro x hx evt hevt
      have hpump : x.1 = pumpReading := by
        rcases List.mem_cons.mp hx with rfl | hx
        · rfl
        · rw [List.mem_singleton.mp hx]
      obtain rfl : x.1 = evt := Except.ok.inj hevt
      rw [hpump]
      decide +kernel)
    (by
      refine List.pairwise_cons.mpr ⟨fun p hp => ?_, List.pairwise_singleton _ _⟩
      intro _ _ _ _ _
      rw [List.mem_singleton.mp hp]
      decide +kernel)).2.1 "d1" "temperature" (by decide +kernel)
  rw [hcounted] at h
  exact ⟨hcounted, h⟩

end StreamProcessor

end InduSense
