import InduSense.Lists.Stutter
import InduSense.StreamProcessor.ExactlyOnce
import InduSense.StreamProcessor.Sinks

/-!
The handler over its sinks refines its model, in which a write is one request.

* `Refines`: the handler's world and that of its model, up to repeated writes.
* `Matches`: what a part of the handler comes to, and a run of its model.
* `matches_deadLetterOrHold`, `matches_republish`, `matches_processClaimed`, `matches_afterClaim`:
  the parts of the handler, from the last to the first.
* `exists_delivery`: a delivery of the handler is one of the model; `sinks_refine`: so are all of
  them, one after the other.
* `database`: what InfluxDB makes of the points.
-/

namespace InduSense

namespace StreamProcessor

open Statement (Reply Run)
open Statement.Prog (attempt implement)
open Lists (Stutter)

variable {R Payload : Type}

/-! ### The model of the handler -/

/-- A dead letter of the model, and one that was written later. -/
def Later (a b : String × DeadLetterRecord) : Prop :=
  ∃ timestamp, a.2.timestamp ≤ timestamp ∧ b = (a.1, { a.2 with timestamp })

/-- The world of the model and that of the handler: time has passed in writes, and a write may have
been made more than once, in a row. -/
structure Refines (scfg : SinkConfig) (w v : World R) : Prop where
  now : w.now ≤ v.now
  redis : v.redis = w.redis
  registry : v.registry = w.registry
  rawPoints : Stutter (max 1 scfg.influxMaxRetries.toNat) w.rawPoints v.rawPoints
  processedTopic : Stutter (max 1 scfg.kafkaMaxRetries.toNat) w.processedTopic v.processedTopic
  deadLetters : List.Forall₂ Later w.deadLetters v.deadLetters

/-- How a run of the model ends. -/
def ofResult : Except PyError Bool → Statement.Outcome PyError Bool
  | .ok done => .returned done
  | .error e => .raised e

/-- A run of the model, and what the handler comes to. -/
def Matches (scfg : SinkConfig) (run : Run (Streaming R) PyError Bool (World R))
    (ended : Except PyError Bool × Sinks R) : Prop :=
  run.outcome = ofResult ended.1 ∧ Refines scfg run.store ended.2.world

section Model

variable {scfg : SinkConfig} {w v : World R} {s : Sinks R}

lemma Refines.tick (h : Refines scfg w v) (dt : ℕ) : Refines scfg w (v.tick dt) :=
  { h with now := h.now.trans (le_add_of_nonneg_right (Int.natCast_nonneg dt)) }

/-- The reply that stands for what a protected write comes to. -/
def replyOf (r : Except PyError Unit) (k : ℕ) : Reply PyError :=
  match r with
  | .ok () => .answers
  | .error e => .fails e (decide (0 < k))

/-- The point is written. -/
def addPoint (key : SeriesKey) (t : Timestamp) (value : R) (w : World R) : World R :=
  { w with rawPoints := w.rawPoints ++ [(key, t, value)] }

/-- The event is published. -/
def addProcessed (key : String) (evt : NormalizedTelemetryEvent R) (w : World R) : World R :=
  { w with processedTopic := w.processedTopic ++ [(key, evt)] }

lemma iterate_addPoint (key : SeriesKey) (t : Timestamp) (value : R) (k : ℕ) (v : World R) :
    (addPoint key t value)^[k] v
      = { v with rawPoints := v.rawPoints ++ List.replicate k (key, t, value) } := by
  induction k generalizing v with
  | zero => simp
  | succ k ih =>
      rw [Function.iterate_succ_apply, ih, addPoint, List.replicate_succ, List.append_assoc]
      rfl

lemma iterate_addProcessed (key : String) (evt : NormalizedTelemetryEvent R) (k : ℕ)
    (v : World R) :
    (addProcessed key evt)^[k] v
      = { v with processedTopic := v.processedTopic ++ List.replicate k (key, evt) } := by
  induction k generalizing v with
  | zero => simp
  | succ k ih =>
      rw [Function.iterate_succ_apply, ih, addProcessed, List.replicate_succ, List.append_assoc]
      rfl

lemma Refines.addPoint (h : Refines scfg w v) (key : SeriesKey) (t : Timestamp) (value : R) {k : ℕ}
    (hpos : 0 < k) (hk : k ≤ scfg.influxMaxRetries.toNat) :
    Refines scfg (addPoint key t value w) ((StreamProcessor.addPoint key t value)^[k] v) := by
  rw [iterate_addPoint]
  exact { h with rawPoints := .concat _ hpos (hk.trans (le_max_right _ _)) h.rawPoints }

lemma Refines.addProcessed (h : Refines scfg w v) (key : String) (evt : NormalizedTelemetryEvent R)
    {k : ℕ} (hpos : 0 < k) (hk : k ≤ scfg.kafkaMaxRetries.toNat) :
    Refines scfg (addProcessed key evt w) ((StreamProcessor.addProcessed key evt)^[k] v) := by
  rw [iterate_addProcessed]
  exact { h with processedTopic := .concat _ hpos (hk.trans (le_max_right _ _)) h.processedTopic }

/-- What the model makes of the reply. -/
lemma Refines.replyOf {add : World R → World R} (h : Refines scfg w v) {n : ℕ}
    (hadd : ∀ k, 0 < k → k ≤ n → Refines scfg (add w) (add^[k] v)) {r : Except PyError Unit}
    {k : ℕ} (dt : ℕ) (hk : k ≤ n) (hok : r = .ok () → 0 < k) :
    Refines scfg (if (replyOf r k).applied then add w else w) ((add^[k] v).tick dt) := by
  refine Refines.tick ?_ dt
  rcases Nat.eq_zero_or_pos k with rfl | hpos
  · have happlied : (StreamProcessor.replyOf r 0).applied = false := by
      cases r with
      | ok u => exact absurd (hok rfl) (Nat.lt_irrefl 0)
      | error e => rfl
    rw [happlied, if_neg Bool.false_ne_true]
    exact h
  · have happlied : (StreamProcessor.replyOf r k).applied = true := by
      cases r with
      | ok u => rfl
      | error e => exact decide_eq_true hpos
    rw [happlied, if_pos rfl]
    exact hadd k hpos hk

/-! #### Giving a message up -/

/-- The record of a message that is given up. -/
def deadLetterRecord (rawPayload : String) (cause : PyError) (stage correlationId : String)
    (timestamp : Time) : DeadLetterRecord where
  originalPayload := rawPayload
  error := cause.message
  errorType := .TRANSIENT_ERROR
  service := "stream-processor"
  processingStage := stage
  retryCount := 0
  timestamp := timestamp
  correlationId := correlationId
  sourceTopic := "telemetry.raw"

/-- The record is written. -/
def addDeadLetter (rawPayload : String) (cause : PyError) (stage correlationId : String)
    (w : World R) : World R :=
  { w with
    deadLetters := w.deadLetters
      ++ [(correlationId, deadLetterRecord rawPayload cause stage correlationId w.now)] }

lemma Refines.addDeadLetter (h : Refines scfg w v) (rawPayload : String) (cause : PyError)
    (stage correlationId : String) :
    Refines scfg (addDeadLetter rawPayload cause stage correlationId w)
      (StreamProcessor.addDeadLetter rawPayload cause stage correlationId v) :=
  { h with
    deadLetters := List.rel_append h.deadLetters
      (.cons ⟨v.now, h.now, rfl⟩ .nil) }

/-- The model gives a message up. -/
lemma run_deadLetterOrHold (rawPayload : String) (cause : PyError) (stage correlationId : String)
    (d : Delivery) (l : Statement.Log (Streaming R) PyError) (w : World R) :
    ((deadLetterOrHold rawPayload cause stage correlationId).run World.exec d.env l w).outcome
        = .returned d.deadLetter.ok
      ∧ ((deadLetterOrHold rawPayload cause stage correlationId).run World.exec d.env l w).store
        = if d.deadLetter.applied then addDeadLetter rawPayload cause stage correlationId w
          else w := by
  rw [deadLetterOrHold, deadLetter]
  cases hd : d.deadLetter with
  | answers =>
      constructor <;>
        simp [Statement.Prog.issue, Statement.Prog.run_call, World.exec, hd, Reply.fate, Reply.ok,
          Reply.applied, addDeadLetter, deadLetterRecord]
  | fails e applied =>
      cases applied <;> constructor <;>
        simp [Statement.Prog.issue, Statement.Prog.run_call, World.exec, hd, Reply.fate, Reply.ok,
          Reply.applied, addDeadLetter, deadLetterRecord]

lemma implement_deadLetter (rawPayload : String) (cause : PyError) (stage correlationId : String) :
    (deadLetter rawPayload cause stage correlationId : Streaming.Prog R Unit).implement (sinks scfg)
      = (Sinking.issue (.request .utcNow)).bind fun timestamp =>
          Sinking.issue (.request (.produceDeadLetter correlationId
            (deadLetterRecord rawPayload cause stage correlationId timestamp))) := by
  rw [deadLetter, Statement.Prog.bind_eq, Statement.Prog.implement_bind]
  exact congrArg₂ Statement.Prog.bind (Statement.Prog.implement_issue _ _)
    (funext fun timestamp => Statement.Prog.implement_issue _ _)

lemma eval_deadLetter (rawPayload : String) (cause : PyError) (stage correlationId : String)
    (s : Sinks R) :
    ((deadLetter rawPayload cause stage correlationId).implement (sinks scfg)).eval Sinks.exec s
      = (match s.circumstances.replies s.attempts with
          | .answers => .ok ()
          | .fails e _ => .error e,
          s.attempted (if (s.circumstances.replies s.attempts).applied then
            addDeadLetter rawPayload cause stage correlationId s.world else s.world)) := by
  rw [implement_deadLetter, Statement.Prog.eval_issue_bind]
  change Statement.Prog.eval _ (Sinking.issue (.request (.produceDeadLetter correlationId
    (deadLetterRecord rawPayload cause stage correlationId s.world.now)))) s = _
  rw [Statement.Prog.eval_issue]
  simp only [Sinks.exec, InMemory, Bool.false_eq_true, if_false]
  cases s.circumstances.replies s.attempts with
  | answers => rfl
  | fails e applied => cases applied <;> rfl

/-- The handler gives a message up. -/
lemma eval_deadLetterOrHold (rawPayload : String) (cause : PyError) (stage correlationId : String)
    (s : Sinks R) :
    ((deadLetterOrHold rawPayload cause stage correlationId).implement (sinks scfg)).eval Sinks.exec
        s
      = (.ok (s.circumstances.replies s.attempts).ok,
          s.attempted (if (s.circumstances.replies s.attempts).applied then
            addDeadLetter rawPayload cause stage correlationId s.world else s.world)) := by
  rw [deadLetterOrHold, Statement.Prog.bind_eq, Statement.Prog.implement_bind,
    Statement.Prog.implement_attempt, Statement.Prog.eval_attempt_bind, eval_deadLetter]
  cases s.circumstances.replies s.attempts <;> rfl

/-- A message is given up by the handler as by its model. -/
lemma matches_deadLetterOrHold (h : Refines scfg w s.world) (rawPayload : String) (cause : PyError)
    (stage correlationId : String) {d : Delivery}
    (hd : d.deadLetter = s.circumstances.replies s.attempts)
    (l : Statement.Log (Streaming R) PyError) :
    Matches scfg ((deadLetterOrHold rawPayload cause stage correlationId).run World.exec d.env l w)
      (((deadLetterOrHold rawPayload cause stage correlationId).implement (sinks scfg)).eval
        Sinks.exec s) := by
  obtain ⟨houtcome, hstore⟩ := run_deadLetterOrHold rawPayload cause stage correlationId d l w
  rw [Matches, eval_deadLetterOrHold, houtcome, hstore, hd]
  refine ⟨rfl, Refines.tick ?_ _⟩
  split
  · exact h.addDeadLetter rawPayload cause stage correlationId
  · exact h

/-! #### Working on an event -/

/-- One attempt, which its reply decides. -/
lemma tried_attempt {add : World R → World R} {ended : Except PyError Unit × Sinks R}
    (h : ended = (match s.circumstances.replies s.attempts with
      | .answers => .ok ()
      | .fails e _ => .error e,
      s.attempted (if (s.circumstances.replies s.attempts).applied then add s.world
        else s.world))) : Tried add 1 s.world ended := by
  subst h
  cases s.circumstances.replies s.attempts with
  | answers => exact ⟨1, _, le_rfl, fun _ => Nat.one_pos, rfl⟩
  | fails e applied =>
      cases applied with
      | true => exact ⟨1, _, le_rfl, fun h => (by cases h), rfl⟩
      | false => exact ⟨0, _, Nat.zero_le _, fun h => (by cases h), rfl⟩

variable (scfg) in
lemma tried_writeRawPoint (key : SeriesKey) (t : Timestamp) (value : R) (s : Sinks R) :
    Tried (addPoint key t value) scfg.influxMaxRetries.toNat s.world
      ((sinks scfg (.writeRawPoint key t value)).eval Sinks.exec s) := by
  refine tried_write (protects_influx scfg) (fun _ _ => rfl) (fun s => tried_attempt ?_) _ s
  rw [Statement.Prog.eval_issue]
  simp only [Sinks.exec, InMemory, Bool.false_eq_true, if_false]
  cases s.circumstances.replies s.attempts with
  | answers => rfl
  | fails e applied => cases applied <;> rfl

variable (scfg) in
lemma tried_publishProcessed (key : String) (evt : NormalizedTelemetryEvent R) (s : Sinks R) :
    Tried (addProcessed key evt) scfg.kafkaMaxRetries.toNat s.world
      ((sinks scfg (.publishProcessed key evt)).eval Sinks.exec s) := by
  refine tried_write (protects_kafka scfg) (fun _ _ => rfl) (fun s => tried_attempt ?_) _ s
  rw [Statement.Prog.eval_issue]
  simp only [Sinks.exec, InMemory, Bool.false_eq_true, if_false]
  cases s.circumstances.replies s.attempts with
  | answers => rfl
  | fails e applied => cases applied <;> rfl

/-- The last part of the handler. -/
def republish (rawPayload : String) (evt : NormalizedTelemetryEvent R) : Streaming.Prog R Bool := do
  match ← attempt (Streaming.issue (.publishProcessed evt.deviceId evt)) with
  | .error exc => deadLetterOrHold rawPayload exc "republish_processed" evt.eventId
  | .ok () => return true

lemma matches_republish (h : Refines scfg w s.world) (rawPayload : String)
    (evt : NormalizedTelemetryEvent R) :
    ∃ reply deadLetter, ∀ d : Delivery, d.republish = reply → d.deadLetter = deadLetter → ∀ l,
      Matches scfg ((republish rawPayload evt).run World.exec d.env l w)
        (((republish rawPayload evt).implement (sinks scfg)).eval Sinks.exec s) := by
  rcases hwrite : (sinks scfg (.publishProcessed evt.deviceId evt)).eval Sinks.exec s with ⟨r, s'⟩
  have htried := tried_publishProcessed scfg evt.deviceId evt s
  rw [hwrite] at htried
  obtain ⟨k, dt, hk, hok, hworld⟩ := htried
  have hafter := h.replyOf (fun k hpos hk => h.addProcessed evt.deviceId evt hpos hk) dt hk hok
  rw [← hworld] at hafter
  refine ⟨replyOf r k, s'.circumstances.replies s'.attempts, fun d hreply hdead l => ?_⟩
  rw [republish, Statement.Prog.bind_eq, Statement.Prog.run_try_issue, env_publishProcessed, hreply,
    Statement.Prog.implement_bind, Statement.Prog.implement_attempt, Statement.Prog.implement_issue,
    Statement.Prog.eval_attempt_bind, hwrite]
  cases r with
  | ok u => exact ⟨rfl, hafter⟩
  | error e => exact matches_deadLetterOrHold hafter rawPayload e _ _ hdead _

/-- What follows the raw point in the handler. -/
def recordAndRepublish (rawPayload : String) (evt : NormalizedTelemetryEvent R) :
    Streaming.Prog R Bool := do
  Streaming.issue (.recordSample (seriesKey evt) evt.timestamp evt.value)
  republish rawPayload evt

/-- The sample goes into the same series on both sides. -/
lemma Refines.registry_eq (h : Refines scfg w v) (registry : SeriesRegistry R) :
    Refines scfg { w with registry } { v with registry } :=
  { h with registry := rfl }

lemma eval_recordSample (key : SeriesKey) (t : Timestamp) (value : R) (s : Sinks R) :
    (sinks scfg (.recordSample key t value)).eval Sinks.exec s
      = ((s.world.registry.record key t value).1,
          { s with
            world := { s.world with registry := (s.world.registry.record key t value).2 } }) :=
  Statement.Prog.eval_issue Sinks.exec _ s

lemma matches_recordAndRepublish (h : Refines scfg w s.world) (rawPayload : String)
    (evt : NormalizedTelemetryEvent R) :
    ∃ reply deadLetter, ∀ d : Delivery, d.republish = reply → d.deadLetter = deadLetter → ∀ l,
      Matches scfg ((recordAndRepublish rawPayload evt).run World.exec d.env l w)
        (((recordAndRepublish rawPayload evt).implement (sinks scfg)).eval Sinks.exec s) := by
  rcases hrecord : w.registry.record (seriesKey evt) evt.timestamp evt.value with
    ⟨recorded, registry⟩
  obtain ⟨reply, deadLetter, hrest⟩ := matches_republish
    (s := { s with world := { s.world with registry } }) (h.registry_eq registry) rawPayload evt
  refine ⟨reply, deadLetter, fun d hreply hdead l => ?_⟩
  rw [recordAndRepublish, Statement.Prog.bind_eq, Statement.Prog.run_issue_bind, env_recordSample,
    Statement.Prog.implement_bind, Statement.Prog.implement_issue, Statement.Prog.eval_bind,
    eval_recordSample, h.registry, hrecord]
  simp only [World.exec, hrecord]
  cases recorded with
  | ok u => exact hrest d hreply hdead _
  | error e => exact ⟨rfl, h.registry_eq registry⟩

/-- The part of the handler that follows a successful claim, in these terms. -/
lemma processClaimed_eq (rawPayload : String) (evt : NormalizedTelemetryEvent R) :
    processClaimed rawPayload evt
      = (attempt (Streaming.issue (.writeRawPoint (seriesKey evt) evt.timestamp evt.value))).bind
          fun
          | .error exc => deadLetterOrHold rawPayload exc "influxdb_write" evt.eventId
          | .ok () => recordAndRepublish rawPayload evt := rfl

/-- Work on a claimed event. -/
lemma matches_processClaimed (h : Refines scfg w s.world) (rawPayload : String)
    (evt : NormalizedTelemetryEvent R) :
    ∃ influx republish deadLetter, ∀ d : Delivery, d.influx = influx → d.republish = republish →
      d.deadLetter = deadLetter → ∀ l,
        Matches scfg ((processClaimed rawPayload evt).run World.exec d.env l w)
          (((processClaimed rawPayload evt).implement (sinks scfg)).eval Sinks.exec s) := by
  rcases hwrite : (sinks scfg (.writeRawPoint (seriesKey evt) evt.timestamp evt.value)).eval
    Sinks.exec s with ⟨r, s'⟩
  have htried := tried_writeRawPoint scfg (seriesKey evt) evt.timestamp evt.value s
  rw [hwrite] at htried
  obtain ⟨k, dt, hk, hok, hworld⟩ := htried
  have hafter := h.replyOf
    (fun k hpos hk => h.addPoint (seriesKey evt) evt.timestamp evt.value hpos hk) dt hk hok
  rw [← hworld] at hafter
  have heval : ((processClaimed rawPayload evt).implement (sinks scfg)).eval Sinks.exec s
      = ((match r with
          | .error exc => deadLetterOrHold rawPayload exc "influxdb_write" evt.eventId
          | .ok () => recordAndRepublish rawPayload evt).implement (sinks scfg)).eval Sinks.exec
            s' := by
    rw [processClaimed_eq, Statement.Prog.implement_bind, Statement.Prog.implement_attempt,
      Statement.Prog.implement_issue, Statement.Prog.eval_attempt_bind, hwrite]
  rw [heval, processClaimed_eq]
  cases r with
  | error e =>
      refine ⟨replyOf (.error e) k, .answers, s'.circumstances.replies s'.attempts,
        fun d hreply _ hdead l => ?_⟩
      rw [Statement.Prog.run_try_issue, env_writeRawPoint, hreply]
      exact matches_deadLetterOrHold hafter rawPayload e _ _ hdead _
  | ok u =>
      obtain ⟨republished, deadLetter, hrest⟩ := matches_recordAndRepublish hafter rawPayload evt
      refine ⟨.answers, republished, deadLetter, fun d hreply hrep hdead l => ?_⟩
      rw [Statement.Prog.run_try_issue, env_writeRawPoint, hreply]
      exact hrest d hrep hdead _

/-! #### A delivery -/

/-- `SET … NX`, at one time on both sides. -/
lemma Refines.setNx (h : Refines scfg w v) (hnow : w.now = v.now) (key : String) (ex : ℤ) :
    (v.setNx key ex).1 = (w.setNx key ex).1
      ∧ Refines scfg (w.setNx key ex).2 (v.setNx key ex).2 := by
  have hlive : v.live key = w.live key := by rw [World.live, World.live, h.redis, hnow]
  rw [World.setNx, World.setNx, hlive]
  split
  · exact ⟨rfl, h⟩
  · split
    · exact ⟨rfl, h⟩
    · exact ⟨rfl, { h with redis := by rw [h.redis, hnow] }⟩

/-- The world of the model at the time of an arrival. -/
lemma Refines.arrive (h : Refines scfg w s.world) (a : Arrival) :
    ∃ elapsed : ℕ, w.now + elapsed = s.world.now + a.elapsed
      ∧ Refines scfg (w.tick elapsed) (s.arrive a).world := by
  have hlater : w.now ≤ s.world.now + a.elapsed := (h.tick a.elapsed).now
  have htime : w.now + (s.world.now + a.elapsed - w.now).toNat = s.world.now + a.elapsed := by
    rw [Int.toNat_of_nonneg (sub_nonneg.mpr hlater), add_sub_cancel]
  exact ⟨_, htime, { h with now := htime.le }⟩

variable (scfg) in
lemma eval_setNx (key : String) (ex : ℤ) (s : Sinks R) :
    (sinks scfg (.setNx key ex)).eval Sinks.exec s
      = match s.circumstances.replies s.attempts with
        | .answers => ((s.world.setNx key ex).1, s.attempted (s.world.setNx key ex).2)
        | .fails e applied =>
            (.error e, s.attempted (if applied then (s.world.setNx key ex).2 else s.world)) :=
  Statement.Prog.eval_issue Sinks.exec _ s

/-- What the handler does with the answer to its claim. -/
def afterClaim (rawPayload : String) (evt : NormalizedTelemetryEvent R) :
    Except PyError Bool → Streaming.Prog R Bool
  | .error _ => return false
  | .ok false => return true
  | .ok true => processClaimed rawPayload evt

/-- The handler of a message that carries an event, in these terms. -/
lemma processMessage_of_event {codec : Codec Payload (NormalizedTelemetryEvent R)} {msg : Payload}
    {evt : NormalizedTelemetryEvent R} (hparse : codec.parse msg = .ok evt) (cfg : Config) :
    processMessage cfg codec msg
      = (attempt (Streaming.issue (.setNx (dedupKey evt.eventId) cfg.dedupTtlSeconds))).bind
          (afterClaim (codec.text msg) evt) := by
  rw [processMessage, hparse]
  refine congrArg (Statement.Prog.bind _) (funext fun r => ?_)
  cases r with
  | error e => rfl
  | ok granted => cases granted <;> rfl

lemma matches_afterClaim (h : Refines scfg w s.world) (rawPayload : String)
    (evt : NormalizedTelemetryEvent R) (r : Except PyError Bool) :
    ∃ influx republish deadLetter, ∀ d : Delivery, d.influx = influx → d.republish = republish →
      d.deadLetter = deadLetter → ∀ l,
        Matches scfg ((afterClaim rawPayload evt r).run World.exec d.env l w)
          (((afterClaim rawPayload evt r).implement (sinks scfg)).eval Sinks.exec s) := by
  cases r with
  | error e => exact ⟨.answers, .answers, .answers, fun _ _ _ _ _ => ⟨rfl, h⟩⟩
  | ok granted =>
      cases granted with
      | false => exact ⟨.answers, .answers, .answers, fun _ _ _ _ _ => ⟨rfl, h⟩⟩
      | true => exact matches_processClaimed h rawPayload evt

/-- **A delivery of the handler is one of its model**, at the same time. -/
theorem exists_delivery (h : Refines scfg w s.world) (cfg : Config)
    (codec : Codec Payload (NormalizedTelemetryEvent R)) (msg : Payload) (a : Arrival) :
    ∃ d : Delivery, w.now + d.elapsed = s.world.now + a.elapsed
      ∧ Matches scfg (deliver cfg codec msg w d) (receive scfg cfg codec msg s a) := by
  obtain ⟨elapsed, htime, harrive⟩ := h.arrive a
  cases hparse : codec.parse msg with
  | error exc =>
      refine ⟨⟨elapsed, .answers, .answers, .answers, a.circumstances.replies 0⟩, htime, ?_⟩
      rw [deliver, receive, handle, processMessage, hparse]
      exact matches_deadLetterOrHold harrive (codec.text msg) exc "unmarshal" "" rfl []
  | ok evt =>
      obtain ⟨hset, hstore⟩ := harrive.setNx htime (dedupKey evt.eventId) cfg.dedupTtlSeconds
      have hfirst : (s.arrive a).circumstances.replies (s.arrive a).attempts
          = a.circumstances.replies 0 := rfl
      rw [receive, handle, processMessage_of_event hparse, Statement.Prog.implement_bind,
        Statement.Prog.implement_attempt, Statement.Prog.implement_issue,
        Statement.Prog.eval_attempt_bind, eval_setNx, hfirst]
      cases a.circumstances.replies 0 with
      | fails e applied =>
          have hafter : Refines scfg
              (if applied then
                ((w.tick elapsed).setNx (dedupKey evt.eventId) cfg.dedupTtlSeconds).2
              else w.tick elapsed)
              ((s.arrive a).attempted (if applied then
                ((s.arrive a).world.setNx (dedupKey evt.eventId) cfg.dedupTtlSeconds).2
              else (s.arrive a).world)).world := by
            refine Refines.tick ?_ _
            cases applied with
            | false => exact harrive
            | true => exact hstore
          obtain ⟨influx, republished, deadLetter, hrest⟩ :=
            matches_afterClaim hafter (codec.text msg) evt (.error e)
          refine ⟨⟨elapsed, .fails e applied, influx, republished, deadLetter⟩, htime, ?_⟩
          rw [deliver, processMessage_of_event hparse, Statement.Prog.run_try_issue, env_setNx]
          exact hrest _ rfl rfl rfl _
      | answers =>
          obtain ⟨influx, republished, deadLetter, hrest⟩ :=
            matches_afterClaim (s := (s.arrive a).attempted
              ((s.arrive a).world.setNx (dedupKey evt.eventId) cfg.dedupTtlSeconds).2)
              (hstore.tick _) (codec.text msg) evt
              ((w.tick elapsed).setNx (dedupKey evt.eventId) cfg.dedupTtlSeconds).1
          refine ⟨⟨elapsed, .answers, influx, republished, deadLetter⟩, htime, ?_⟩
          rw [deliver, processMessage_of_event hparse, Statement.Prog.run_try_issue, env_setNx,
            hset]
          exact hrest _ rfl rfl rfl _

end Model

/-! ### Runs -/

section Runs

variable (scfg : SinkConfig) (cfg : Config) (codec : Codec Payload (NormalizedTelemetryEvent R))

/-- The messages delivered to the handler, each with the time of its delivery and what has become
of it. -/
def handled : List (Payload × Arrival) → Sinks R →
    List (Payload × Time × Statement.Outcome PyError Bool)
  | [], _ => []
  | x :: xs, s =>
      (x.1, s.world.now + x.2.elapsed, ofResult (receive scfg cfg codec x.1 s x.2).1)
        :: handled xs (receive scfg cfg codec x.1 s x.2).2

/-- What they leave. -/
def sinksAfter : List (Payload × Arrival) → Sinks R → Sinks R
  | [], s => s
  | x :: xs, s => sinksAfter xs (receive scfg cfg codec x.1 s x.2).2

/-- The same of the model. -/
def delivered : List (Payload × Delivery) → World R →
    List (Payload × Time × Statement.Outcome PyError Bool)
  | [], _ => []
  | x :: xs, w =>
      (x.1, w.now + x.2.elapsed, (deliver cfg codec x.1 w x.2).outcome)
        :: delivered xs (deliver cfg codec x.1 w x.2).store

/-- What InfluxDB answers for a series and a time: the last value written for them. -/
def database (points : List (SeriesKey × Timestamp × R)) (key : SeriesKey) (t : Timestamp) :
    Option R :=
  points.foldl (fun found p => if p.1 = key ∧ p.2.1 = t then some p.2.2 else found) none

variable {scfg cfg codec}

/-- A point that is written again is the same point. -/
lemma Refines.database {w v : World R} (h : Refines scfg w v) :
    database v.rawPoints = database w.rawPoints := by
  funext key t
  refine h.rawPoints.foldl (fun found p => ?_) none
  split <;> rfl

variable (scfg cfg codec) in
/-- From worlds that match, each delivery of the handler is one of the model. -/
lemma exists_deliveries (xs : List (Payload × Arrival)) {w : World R} {s : Sinks R}
    (h : Refines scfg w s.world) :
    ∃ ds : List (Payload × Delivery),
      delivered cfg codec ds w = handled scfg cfg codec xs s
        ∧ Refines scfg (worldAfter cfg codec ds w) (sinksAfter scfg cfg codec xs s).world := by
  induction xs generalizing w s with
  | nil => exact ⟨[], rfl, h⟩
  | cons x xs ih =>
      obtain ⟨d, htime, houtcome, hrefines⟩ := exists_delivery h cfg codec x.1 x.2
      obtain ⟨ds, hdelivered, hafter⟩ := ih hrefines
      refine ⟨(x.1, d) :: ds, ?_, hafter⟩
      rw [delivered, handled, htime, houtcome, hdelivered]

variable (scfg) in
/-- A world refines itself. -/
lemma Refines.refl (w : World R) : Refines scfg w w where
  now := le_rfl
  redis := rfl
  registry := rfl
  rawPoints := .refl (le_max_left _ _) _
  processedTopic := .refl (le_max_left _ _) _
  deadLetters := List.forall₂_same.mpr fun a _ => ⟨a.2.timestamp, le_rfl, rfl⟩

/-- **The handler over its sinks refines its model.**  Whatever becomes of the attempts at each
write, whatever the breakers let through, and however long it all takes, the handler does with all
messages what its model does with the same messages, delivered at the same times; it leaves the
same keys and the same series; it has written the points and published the events of the model, each
of them at most as often in a row as a write is tried, and dead-lettered the same records, only
later; and InfluxDB answers the same. -/
theorem sinks_refine (scfg : SinkConfig) (cfg : Config)
    (codec : Codec Payload (NormalizedTelemetryEvent R)) (xs : List (Payload × Arrival))
    (s : Sinks R) :
    ∃ ds : List (Payload × Delivery),
      delivered cfg codec ds s.world = handled scfg cfg codec xs s
        ∧ Refines scfg (worldAfter cfg codec ds s.world) (sinksAfter scfg cfg codec xs s).world
        ∧ database (sinksAfter scfg cfg codec xs s).world.rawPoints
          = database (worldAfter cfg codec ds s.world).rawPoints := by
  obtain ⟨ds, hdelivered, hafter⟩ := exists_deliveries scfg cfg codec xs (Refines.refl scfg s.world)
  exact ⟨ds, hdelivered, hafter, hafter.database⟩

end Runs

end StreamProcessor

end InduSense
