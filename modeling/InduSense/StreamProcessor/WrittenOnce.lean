import InduSense.StreamProcessor.SinkRefinement

/-!
What a stream processor has written, recorded and published, over its sinks as they are.

* `Gains`: events whose points are written, those of them that are recorded, and those of these
  that are published; `Gained`: what a run has gained.
* `gained_deliver`, `gained_worldAfter`: what a delivery gains, and what all of them do.
* `written_once`: no event twice, but for the retries of a write.
-/

namespace InduSense

namespace StreamProcessor

open Statement (Reply)
open Lists (Stutter)

variable {R Payload : Type}

/-! ### Gains -/

/-- Events whose raw points are written, of these the ones that are recorded in memory, and of
these the ones that are published. -/
structure Gains (R : Type) where
  written : List (NormalizedTelemetryEvent R)
  recorded : List (NormalizedTelemetryEvent R)
  published : List (NormalizedTelemetryEvent R)
  recorded_sublist : recorded.Sublist written
  published_sublist : published.Sublist recorded

namespace Gains

/-- Nothing is gained. -/
def none : Gains R := ⟨[], [], [], .slnil, .slnil⟩

/-- An event that is written, and no more. -/
def point (evt : NormalizedTelemetryEvent R) : Gains R :=
  ⟨[evt], [], [], List.nil_sublist _, .slnil⟩

/-- An event that is written and recorded, and not published. -/
def sample (evt : NormalizedTelemetryEvent R) : Gains R :=
  ⟨[evt], [evt], [], .refl _, List.nil_sublist _⟩

/-- An event that is published. -/
def all (evt : NormalizedTelemetryEvent R) : Gains R := ⟨[evt], [evt], [evt], .refl _, .refl _⟩

/-- First the one, then the other. -/
def append (g h : Gains R) : Gains R where
  written := g.written ++ h.written
  recorded := g.recorded ++ h.recorded
  published := g.published ++ h.published
  recorded_sublist := g.recorded_sublist.append h.recorded_sublist
  published_sublist := g.published_sublist.append h.published_sublist

end Gains

/-- The raw point of an event. -/
def pointOf (evt : NormalizedTelemetryEvent R) : SeriesKey × Timestamp × R :=
  (seriesKey evt, evt.timestamp, evt.value)

/-- The message an event is published as. -/
def processedOf (evt : NormalizedTelemetryEvent R) : String × NormalizedTelemetryEvent R :=
  (evt.deviceId, evt)

/-- A series of records. -/
def recordEvents (registry : SeriesRegistry R) (evts : List (NormalizedTelemetryEvent R)) :
    SeriesRegistry R :=
  evts.foldl (fun registry evt => (recordEvent registry evt).2) registry

/-- What lies between two worlds. -/
structure Gained (g : Gains R) (w w' : World R) : Prop where
  rawPoints : w'.rawPoints = w.rawPoints ++ g.written.map pointOf
  registry : w'.registry = recordEvents w.registry g.recorded
  processedTopic : w'.processedTopic = w.processedTopic ++ g.published.map processedOf

section Gained

variable {w w' w'' : World R} {g h : Gains R}

lemma Gained.none (hpoints : w'.rawPoints = w.rawPoints) (hregistry : w'.registry = w.registry)
    (hprocessed : w'.processedTopic = w.processedTopic) : Gained .none w w' where
  rawPoints := hpoints.trans (List.append_nil _).symm
  registry := hregistry
  processedTopic := hprocessed.trans (List.append_nil _).symm

lemma Gained.append (hg : Gained g w w') (hh : Gained h w' w'') : Gained (g.append h) w w'' where
  rawPoints := by
    rw [hh.rawPoints, hg.rawPoints, Gains.append, List.map_append, List.append_assoc]
  registry := by
    rw [hh.registry, hg.registry, Gains.append, recordEvents, recordEvents, recordEvents,
      List.foldl_append]
  processedTopic := by
    rw [hh.processedTopic, hg.processedTopic, Gains.append, List.map_append, List.append_assoc]

/-- A message that is given up gains nothing more. -/
lemma Gained.deadLetterOrHold (hg : Gained g w w') (rawPayload : String) (cause : PyError)
    (stage correlationId : String) (d : Delivery) (l : Statement.Log (Streaming R) PyError) :
    Gained g w ((deadLetterOrHold rawPayload cause stage correlationId).run World.exec d.env l
      w').store := by
  rw [(run_deadLetterOrHold rawPayload cause stage correlationId d l w').2]
  split
  · exact ⟨hg.rawPoints, hg.registry, hg.processedTopic⟩
  · exact hg

end Gained

/-! ### One delivery -/

lemma gained_republish (d : Delivery) (evt : NormalizedTelemetryEvent R) (rawPayload : String)
    (l : Statement.Log (Streaming R) PyError) {w w' : World R}
    (hsample : Gained (.sample evt) w w') :
    ∃ g : Gains R, g.written = [evt]
      ∧ Gained g w ((republish rawPayload evt).run World.exec d.env l w').store := by
  have hall : Gained (.all evt) w
      { w' with processedTopic := w'.processedTopic ++ [(evt.deviceId, evt)] } := by
    refine ⟨hsample.rawPoints, hsample.registry, ?_⟩
    rw [hsample.processedTopic, List.append_assoc]
    rfl
  rw [republish, Statement.Prog.bind_eq, Statement.Prog.run_try_issue, env_publishProcessed]
  rcases d.republish with _ | ⟨e, applied⟩
  · exact ⟨.all evt, rfl, hall⟩
  · cases applied with
    | false => exact ⟨.sample evt, rfl, hsample.deadLetterOrHold _ _ _ _ _ _⟩
    | true => exact ⟨.all evt, rfl, hall.deadLetterOrHold _ _ _ _ _ _⟩

lemma gained_processClaimed (d : Delivery) (evt : NormalizedTelemetryEvent R) (rawPayload : String)
    (l : Statement.Log (Streaming R) PyError) (w : World R) :
    ∃ g : Gains R, g.written.Sublist [evt]
      ∧ Gained g w ((processClaimed rawPayload evt).run World.exec d.env l w).store := by
  have hpoint : Gained (.point evt) w (addPoint (seriesKey evt) evt.timestamp evt.value w) :=
    ⟨rfl, rfl, (List.append_nil _).symm⟩
  rw [processClaimed_eq, Statement.Prog.run_try_issue, env_writeRawPoint]
  rcases d.influx with _ | ⟨e, applied⟩
  · simp only [Reply.fate, World.exec]
    rw [recordAndRepublish, Statement.Prog.bind_eq, Statement.Prog.run_issue_bind,
      env_recordSample]
    have hsample : Gained (.sample evt) w
        { addPoint (seriesKey evt) evt.timestamp evt.value w with
          registry := (recordEvent w.registry evt).2 } := ⟨rfl, rfl, (List.append_nil _).symm⟩
    rcases hrecord : w.registry.record (seriesKey evt) evt.timestamp evt.value with ⟨r, registry⟩
    rw [recordEvent, hrecord] at hsample
    simp only [World.exec, hrecord]
    cases r with
    | error e => exact ⟨.sample evt, .refl _, hsample⟩
    | ok u =>
        obtain ⟨g, hwritten, hg⟩ := gained_republish d evt rawPayload _ hsample
        exact ⟨g, hwritten ▸ .refl _, hg⟩
  · cases applied with
    | false =>
        exact ⟨.none, List.nil_sublist _,
          (Gained.none rfl rfl rfl).deadLetterOrHold _ _ _ _ _ _⟩
    | true => exact ⟨.point evt, .refl _, hpoint.deadLetterOrHold _ _ _ _ _ _⟩

/-- `SET … NX` gains nothing. -/
lemma Gained.setNx {g : Gains R} {w w' : World R} (hg : Gained g w w') (key : String) (ex : ℤ) :
    Gained g w (w'.setNx key ex).2 := by
  rw [World.setNx]
  split
  · exact hg
  · split
    · exact hg
    · exact ⟨hg.rawPoints, hg.registry, hg.processedTopic⟩

section Deliveries

variable {cfg : Config} {codec : Codec Payload (NormalizedTelemetryEvent R)}

/-- **What a delivery gains**: nothing, unless it claims an event. -/
lemma gained_deliver (msg : Payload) (w : World R) (d : Delivery) :
    Gained .none w (deliver cfg codec msg w d).store
      ∨ ∃ evt, codec.parse msg = .ok evt ∧ claims (deliver cfg codec msg w d).log = true
        ∧ ∃ g : Gains R, g.written.Sublist [evt]
          ∧ Gained g w (deliver cfg codec msg w d).store := by
  have htick : Gained .none w (w.tick d.elapsed) := .none rfl rfl rfl
  cases hparse : codec.parse msg with
  | error exc =>
      rw [deliver, processMessage, hparse]
      exact .inl (htick.deadLetterOrHold _ _ _ _ _ _)
  | ok evt =>
      have hset := htick.setNx (dedupKey evt.eventId) cfg.dedupTtlSeconds
      cases hd : d.redis with
      | fails e applied =>
          rw [deliver_of_redis_fails hparse w hd]
          cases applied with
          | false => exact .inl htick
          | true => exact .inl hset
      | answers =>
          rw [deliver_of_redis_answers hparse w hd]
          dsimp only
          rcases hclaim : (w.tick d.elapsed).setNx (dedupKey evt.eventId) cfg.dedupTtlSeconds with
            ⟨r, w'⟩
          rw [hclaim] at hset
          cases r with
          | error e => exact .inl hset
          | ok granted =>
              cases granted with
              | false => exact .inl hset
              | true =>
                  obtain ⟨g, hwritten, hg⟩ := gained_processClaimed d evt (codec.text msg)
                    [⟨.setNx (dedupKey evt.eventId) cfg.dedupTtlSeconds, .ok true⟩] w'
                  exact .inr ⟨evt, rfl, (processClaimed_worked d evt _ _ _ w').claims, g, hwritten,
                    hset.append hg⟩

/-! ### All deliveries -/

/-- **What any deliveries gain**: no event twice, and none that has been claimed before. -/
lemma gained_worldAfter {seen : List String} {ds : List (Payload × Delivery)} {w : World R}
    (hcov : Covered codec seen ds w) (htime : InTime cfg codec ds w.now) :
    ∃ g : Gains R, Gained g w (worldAfter cfg codec ds w)
      ∧ (g.written.map fun evt => evt.eventId).Nodup
      ∧ ∀ evt ∈ g.written, evt.eventId ∉ seen ∧ ∃ x ∈ ds, codec.parse x.1 = .ok evt := by
  induction ds generalizing seen w with
  | nil => exact ⟨.none, .none rfl rfl rfl, List.nodup_nil, fun _ h => absurd h List.not_mem_nil⟩
  | cons x ds ih =>
      obtain ⟨htime', hstep⟩ := hcov.step htime
      rcases hstep with ⟨hskip, hcov'⟩ | ⟨evt, hparse, hseen, htaken, hcov'⟩
      · obtain ⟨g, hg, hnodup, hnew⟩ := ih hcov' htime'
        -- What claims nothing gains nothing.
        have hnone : Gained .none w (deliver cfg codec x.1 w x.2).store := by
          rcases gained_deliver x.1 w x.2 with hnone | ⟨evt, -, hclaims, -⟩
          · exact hnone
          · exact absurd (hskip.claims.symm.trans hclaims) Bool.false_ne_true
        refine ⟨g, hnone.append hg, hnodup, fun e he => ?_⟩
        obtain ⟨hnot, x', hx', hparse'⟩ := hnew e he
        exact ⟨hnot, x', List.mem_cons_of_mem _ hx', hparse'⟩
      · obtain ⟨g, hg, hnodup, hnew⟩ := ih hcov' htime'
        obtain ⟨g₀, hsub, hg₀⟩ : ∃ g₀ : Gains R, g₀.written.Sublist [evt]
            ∧ Gained g₀ w (deliver cfg codec x.1 w x.2).store := by
          rcases gained_deliver x.1 w x.2 with hnone | ⟨evt', hparse', -, hg₀⟩
          · exact ⟨.none, List.nil_sublist _, hnone⟩
          · obtain rfl : evt = evt' := Except.ok.inj (hparse.symm.trans hparse')
            exact hg₀
        refine ⟨g₀.append g, hg₀.append hg, ?_, fun e he => ?_⟩
        · have hnot : evt.eventId ∉ g.written.map fun evt => evt.eventId := by
            intro hmem
            obtain ⟨e, he, hid⟩ := List.mem_map.mp hmem
            exact (hnew e he).1 (hid ▸ List.mem_cons_self)
          have hall : (([evt] ++ g.written).map fun evt => evt.eventId).Nodup :=
            List.nodup_cons.mpr ⟨hnot, hnodup⟩
          exact hall.sublist ((hsub.append_right g.written).map _)
        · rcases List.mem_append.mp he with he | he
          · obtain rfl : e = evt := List.mem_singleton.mp (hsub.subset he)
            exact ⟨hseen, x, List.mem_cons_self, hparse⟩
          · obtain ⟨hnot, x', hx', hparse'⟩ := hnew e he
            exact ⟨fun h => hnot (List.mem_cons_of_mem _ h), x', List.mem_cons_of_mem _ hx',
              hparse'⟩

variable (cfg codec)

/-- A delivery takes no time of its own in the model. -/
lemma deliver_now (msg : Payload) (w : World R) (d : Delivery) :
    (deliver cfg codec msg w d).store.now = w.now + d.elapsed := by
  rcases deliver_cases cfg codec msg w d with hskip | ⟨evt, -, htaken⟩
  · exact hskip.now
  · exact htaken.worked.now

lemma timed_eq (ds : List (Payload × Delivery)) (w : World R) :
    timed ds w.now = (delivered cfg codec ds w).map fun x => (x.1, x.2.1) := by
  induction ds generalizing w with
  | nil => rfl
  | cons x ds ih =>
      rw [timed, delivered, List.map_cons, ← ih, deliver_now]

lemma map_fst_delivered (ds : List (Payload × Delivery)) (w : World R) :
    (delivered cfg codec ds w).map Prod.fst = ds.map Prod.fst := by
  induction ds generalizing w with
  | nil => rfl
  | cons x ds ih => rw [delivered, List.map_cons, List.map_cons, ih]

end Deliveries

/-! ### A new process over its sinks -/

section Process

variable (scfg : SinkConfig) (cfg : Config) (codec : Codec Payload (NormalizedTelemetryEvent R))

lemma map_fst_handled (xs : List (Payload × Arrival)) (s : Sinks R) :
    (handled scfg cfg codec xs s).map Prod.fst = xs.map Prod.fst := by
  induction xs generalizing s with
  | nil => rfl
  | cons x xs ih => rw [handled, List.map_cons, List.map_cons, ih]

/-- Deliveries of one event are less than the lifetime of its key apart, by the clock of the
handler. -/
def ArrivesInTime (xs : List (Payload × Arrival)) (s : Sinks R) : Prop :=
  (handled scfg cfg codec xs s).Pairwise fun a b => ∀ e₁ e₂, codec.parse a.1 = .ok e₁ →
    codec.parse b.1 = .ok e₂ → e₁.eventId = e₂.eventId →
      b.2.1 - a.2.1 < seconds cfg.dedupTtlSeconds

/-- **No event is written, recorded or published twice**, but for the retries of a write.  Whatever
becomes of the attempts at the writes and whatever the breakers let through, a new process to which
no message is delivered after the key of its event has expired leaves this: the points of some of
the events delivered, each of one event, in a row at most as often as a write is tried; of these
events, those recorded in the windows, once each and in the same order; and of these, those
published, again in a row at most as often as a write is tried.  InfluxDB answers as if each point
had been written once. -/
theorem written_once (xs : List (Payload × Arrival)) (maxWindow now : Time)
    (redis : String → Option Time)
    (htime : ArrivesInTime scfg cfg codec xs (.start scfg maxWindow now redis)) :
    let after := (sinksAfter scfg cfg codec xs (.start scfg maxWindow now redis)).world
    ∃ g : Gains R, (g.written.map fun evt => evt.eventId).Nodup
      ∧ (∀ evt ∈ g.written, ∃ x ∈ xs, codec.parse x.1 = .ok evt)
      ∧ Stutter (max 1 scfg.influxMaxRetries.toNat) (g.written.map pointOf) after.rawPoints
      ∧ database after.rawPoints = database (g.written.map pointOf)
      ∧ after.registry = recordEvents ⟨maxWindow, []⟩ g.recorded
      ∧ Stutter (max 1 scfg.kafkaMaxRetries.toNat) (g.published.map processedOf)
          after.processedTopic := by
  intro after
  set s : Sinks R := .start scfg maxWindow now redis
  obtain ⟨ds, hdelivered, hafter⟩ := exists_deliveries scfg cfg codec xs (Refines.refl scfg s.world)
  have hin : InTime cfg codec ds s.world.now := by
    rw [InTime, timed_eq cfg codec ds s.world, List.pairwise_map, hdelivered]
    exact htime
  have hcov : Covered codec [] ds s.world := fun _ _ _ _ hseen => absurd hseen List.not_mem_nil
  obtain ⟨g, hg, hnodup, hnew⟩ := gained_worldAfter hcov hin
  have hsame : ds.map Prod.fst = xs.map Prod.fst := by
    rw [← map_fst_delivered cfg codec ds s.world, hdelivered, map_fst_handled]
  have hpoints : (worldAfter cfg codec ds s.world).rawPoints = g.written.map pointOf := hg.rawPoints
  have hprocessed : (worldAfter cfg codec ds s.world).processedTopic
      = g.published.map processedOf := hg.processedTopic
  refine ⟨g, hnodup, fun evt hevt => ?_, hpoints ▸ hafter.rawPoints, hpoints ▸ hafter.database,
    hafter.registry.trans hg.registry, hprocessed ▸ hafter.processedTopic⟩
  -- The model is delivered the same messages.
  obtain ⟨-, x, hx, hparse⟩ := hnew evt hevt
  obtain ⟨y, hy, hyx⟩ := List.mem_map.mp (hsame ▸ List.mem_map_of_mem hx)
  exact ⟨y, hy, hyx ▸ hparse⟩

end Process

/-! ### A reply that is lost -/

/-- InfluxDB carries out the first write and does not answer; the message is delivered again. -/
def lostReply : List (NormalizedTelemetryEvent ℚ × Arrival) :=
  [(pumpReading, ⟨0,
      { Circumstances.calm with
        replies := fun n => if n = 1 then .fails ⟨.external, "timeout"⟩ true else .answers }⟩),
    (pumpReading, ⟨60000000, .calm⟩)]

/-- The point is written a second time, and the event published once. -/
theorem written_once_lost_reply :
    let after := (sinksAfter {} .default (.plain "reading") lostReply
      (.start {} (seconds 900) 0 fun _ => none)).world
    after.rawPoints = [pointOf pumpReading, pointOf pumpReading]
      ∧ after.processedTopic = [processedOf pumpReading]
      ∧ ∃ g : Gains ℚ, (g.written.map fun evt => evt.eventId).Nodup
        ∧ (∀ evt ∈ g.written, ∃ x ∈ lostReply, x.1 = evt)
        ∧ database after.rawPoints = database (g.written.map pointOf) := by
  have htime : ArrivesInTime {} .default (.plain "reading") lostReply
      (.start {} (seconds 900) 0 fun _ => none) := by
    refine List.pairwise_cons.mpr ⟨fun p hp => ?_, List.pairwise_singleton _ _⟩
    intro _ _ _ _ _
    rw [List.mem_singleton.mp hp]
    decide +kernel
  obtain ⟨g, hnodup, hparsed, -, hdatabase, -⟩ := written_once {} .default (.plain "reading")
    lostReply (seconds 900) 0 (fun _ => none) htime
  refine ⟨rfl, rfl, g, hnodup, fun evt hevt => ?_, hdatabase⟩
  obtain ⟨x, hx, hparse⟩ := hparsed evt hevt
  exact ⟨x, hx, Except.ok.inj hparse⟩

end StreamProcessor

end InduSense
