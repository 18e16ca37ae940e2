import InduSense.StreamProcessor.Main

/-!
Which telemetry events the stream processor can lose.

* `Delivery`, `deliver`: a delivery of a message, with the replies of Redis, InfluxDB and Kafka.
* `Settled`: a delivery has written and republished the event, or dead-lettered the message.
* `redisClaims`: the claims of an event in Redis; `claimFirst` says that the handler claims first.
* `noSilentLoss_iff`: the deliveries under which no event is lost.
-/

namespace InduSense

namespace StreamProcessor

open Statement (Reply Claims ClaimFirst Succeeded NoCrash NeverLost attempts Run Log Env)

variable {R Payload : Type}

/-! ### Deliveries -/

/-- A delivery of a message: the time since the last one, and what each dependency replies. -/
structure Delivery where
  elapsed : ℕ
  redis : Reply PyError
  influx : Reply PyError
  republish : Reply PyError
  deadLetter : Reply PyError

/-- The environment of a delivery; what happens in memory is always carried out. -/
def Delivery.env (d : Delivery) : Env (Streaming R) PyError := fun _ c =>
  match c with
  | .setNx _ _ => d.redis.fate
  | .writeRawPoint _ _ _ => d.influx.fate
  | .recordSample _ _ _ => .completes
  | .publishProcessed _ _ => d.republish.fate
  | .produceDeadLetter _ _ => d.deadLetter.fate
  | .utcNow => .completes

section Fates

variable (d : Delivery) (l : Log (Streaming R) PyError)

@[simp] lemma env_setNx (key : String) (ex : ℤ) : d.env l (.setNx key ex) = d.redis.fate := rfl

@[simp] lemma env_writeRawPoint (key : SeriesKey) (t : Timestamp) (value : R) :
    d.env l (.writeRawPoint key t value) = d.influx.fate := rfl

@[simp] lemma env_recordSample (key : SeriesKey) (t : Timestamp) (value : R) :
    d.env l (.recordSample key t value) = .completes := rfl

@[simp] lemma env_publishProcessed (key : String) (evt : NormalizedTelemetryEvent R) :
    d.env l (.publishProcessed key evt) = d.republish.fate := rfl

@[simp] lemma env_produceDeadLetter (key : String) (record : DeadLetterRecord) :
    d.env l (.produceDeadLetter key record) = d.deadLetter.fate := rfl

@[simp] lemma env_utcNow : d.env l .utcNow = .completes := rfl

end Fates

/-- The handling of a delivery. -/
def deliver (cfg : Config) (codec : Codec Payload (NormalizedTelemetryEvent R)) (msg : Payload)
    (w : World R) (d : Delivery) : Run (Streaming R) PyError Bool (World R) :=
  (processMessage cfg codec msg).run World.exec d.env [] (w.tick d.elapsed)

/-- The request that writes the raw point of an event. -/
def WritesRaw (evt : NormalizedTelemetryEvent R) (c : Stmt R) : Prop :=
  c = .writeRawPoint (seriesKey evt) evt.timestamp evt.value

/-- The request that republishes an event. -/
def Republishes (evt : NormalizedTelemetryEvent R) (c : Stmt R) : Prop :=
  c = .publishProcessed evt.deviceId evt

/-- A request that dead-letters a message. -/
def DeadLetters (rawPayload : String) (c : Stmt R) : Prop :=
  ∃ key record, c = .produceDeadLetter key record ∧ record.originalPayload = rawPayload

/-- The raw point has been written and the event republished, or the message dead-lettered. -/
def Settled (evt : NormalizedTelemetryEvent R) (rawPayload : String)
    (l : Log (Streaming R) PyError) : Prop :=
  (Succeeded (WritesRaw evt) l ∧ Succeeded (Republishes evt) l)
    ∨ Succeeded (DeadLetters rawPayload) l

/-- The claims of an event, in terms of the time and of the expiry of its key. -/
def redisClaims (cfg : Config) : Claims Delivery (Time × Option Time) where
  taken k d := k.2.any fun expiry => k.1 + d.elapsed < expiry
  answered d := decide (0 < cfg.dedupTtlSeconds) && d.redis.ok
  finishes d := d.influx.ok && d.republish.ok || d.deadLetter.ok
  after k d :=
    (k.1 + d.elapsed,
      if 0 < cfg.dedupTtlSeconds ∧ d.redis.applied
          ∧ ¬ (k.2.any fun expiry => k.1 + d.elapsed < expiry) then
        some (k.1 + d.elapsed + seconds cfg.dedupTtlSeconds)
      else k.2)

/-- The time, and the expiry of the key of an event. -/
def keyOf (eventId : String) (w : World R) : Time × Option Time :=
  (w.now, w.redis (dedupKey eventId))

/-! ### The parts of a run -/

section Parts

variable (evt : NormalizedTelemetryEvent R) (rawPayload : String)

/-- A run returns `done`, having settled the event exactly then, and leaves the time and the keys as
they were. -/
structure Concludes (done : Bool) (w : World R) (r : Run (Streaming R) PyError Bool (World R)) :
    Prop where
  outcome : r.outcome = .returned done
  settled : Settled evt rawPayload r.log ↔ done = true
  now : r.store.now = w.now
  redis : r.store.redis = w.redis

variable {evt rawPayload} in
/-- The time and the keys are all that matters of the world a run begins in. -/
lemma Concludes.of_eq {done : Bool} {w w' : World R} {r : Run (Streaming R) PyError Bool (World R)}
    (h : Concludes evt rawPayload done w' r) (hnow : w'.now = w.now) (hredis : w'.redis = w.redis) :
    Concludes evt rawPayload done w r :=
  ⟨h.outcome, h.settled, h.now.trans hnow, h.redis.trans hredis⟩

variable (d : Delivery) {l : Log (Streaming R) PyError} (w : World R)

/-- Giving up an event that has not been republished. -/
lemma deadLetterOrHold_run (hrep : ¬ Succeeded (Republishes evt) l)
    (hdead : ¬ Succeeded (DeadLetters rawPayload) l) (cause : PyError)
    (stage correlationId : String) :
    Concludes evt rawPayload d.deadLetter.ok w
      ((deadLetterOrHold rawPayload cause stage correlationId).run World.exec d.env l w) := by
  rw [deadLetterOrHold, deadLetter]
  cases hd : d.deadLetter with
  | answers =>
      constructor <;>
        simp [Statement.Prog.issue, Statement.Prog.run_call, World.exec, hd, Reply.fate, Reply.ok,
          Settled, DeadLetters, Except.isOk, Except.toBool]
  | fails e applied =>
      have hstore : ∀ key record,
          (if applied then (World.exec (.produceDeadLetter key record) w).2 else w).now = w.now
            ∧ (if applied then (World.exec (.produceDeadLetter key record) w).2 else w).redis
              = w.redis := by
        intro key record
        split
        · exact ⟨rfl, rfl⟩
        · exact ⟨rfl, rfl⟩
      simp only [World.exec] at hstore
      constructor <;>
        simp [Statement.Prog.issue, Statement.Prog.run_call, World.exec, hd, Reply.fate, Reply.ok,
          Settled, hrep, hdead, Republishes, DeadLetters, Except.isOk, Except.toBool, hstore]

/-- Work on a claimed event that does not crash: both writes succeed, or the event is given up. -/
lemma processClaimed_run (hrep : ¬ Succeeded (Republishes evt) l)
    (hdead : ¬ Succeeded (DeadLetters rawPayload) l) :
    (∃ e, ((processClaimed rawPayload evt).run World.exec d.env l w).outcome = .raised e)
      ∨ Concludes evt rawPayload (d.influx.ok && d.republish.ok || d.deadLetter.ok) w
          ((processClaimed rawPayload evt).run World.exec d.env l w) := by
  rw [processClaimed, Statement.Prog.bind_eq, Statement.Prog.run_try_issue, env_writeRawPoint]
  cases d.influx with
  | fails e applied =>
      rw [Reply.ok, Bool.false_and, Bool.false_or]
      refine .inr ?_
      refine (deadLetterOrHold_run evt rawPayload d _ ?_ ?_ _ _ _).of_eq ?_ ?_
      · simp [hrep, Republishes]
      · simp [hdead, DeadLetters]
      · split <;> rfl
      · split <;> rfl
  | answers =>
      rw [Reply.ok, Bool.true_and, Reply.fate]
      simp only [World.exec]
      rw [Statement.Prog.bind_eq, Statement.Prog.run_issue_bind, env_recordSample]
      simp only [World.exec]
      rcases w.registry.record (seriesKey evt) evt.timestamp evt.value with ⟨result, registry⟩
      cases result with
      | error e => exact .inl ⟨e, rfl⟩
      | ok u =>
          simp only
          rw [Statement.Prog.bind_eq, Statement.Prog.run_try_issue, env_publishProcessed]
          refine .inr ?_
          cases d.republish with
          | fails e applied =>
              rw [Reply.ok, Bool.false_or, Reply.fate]
              refine (deadLetterOrHold_run evt rawPayload d _ ?_ ?_ _ _ _).of_eq ?_ ?_
              · simp [hrep, Republishes, Except.isOk, Except.toBool]
              · simp [hdead, DeadLetters]
              · split <;> rfl
              · split <;> rfl
          | answers =>
              rw [Reply.ok, Bool.true_or, Reply.fate]
              refine ⟨rfl, ?_, rfl, rfl⟩
              simp [Settled, WritesRaw, Republishes, World.exec, Except.isOk, Except.toBool]

end Parts

/-! ### Claims in Redis -/

/-- Redis finds the key of an event exactly when it has not expired. -/
lemma live_tick (cfg : Config) (eventId : String) (w : World R) (d : Delivery) :
    (w.tick d.elapsed).live (dedupKey eventId) = (redisClaims cfg).taken (keyOf eventId w) d := by
  rw [World.live, World.tick, redisClaims, keyOf]
  dsimp only
  cases w.redis (dedupKey eventId) with
  | none => rfl
  | some expiry => rfl

/-- What `SET … NX` leaves of the key. -/
lemma keyOf_setNx (cfg : Config) (eventId : String) (w : World R) (d : Delivery) :
    keyOf eventId ((w.tick d.elapsed).setNx (dedupKey eventId) cfg.dedupTtlSeconds).2
      = (w.now + d.elapsed,
          if 0 < cfg.dedupTtlSeconds ∧ ¬ (redisClaims cfg).taken (keyOf eventId w) d = true then
            some (w.now + d.elapsed + seconds cfg.dedupTtlSeconds)
          else w.redis (dedupKey eventId)) := by
  rw [World.setNx, live_tick cfg]
  by_cases httl : cfg.dedupTtlSeconds ≤ 0
  · rw [if_pos httl, if_neg fun h => absurd h.1 (not_lt.mpr httl)]
    rfl
  · rw [if_neg httl]
    by_cases htaken : (redisClaims cfg).taken (keyOf eventId w) d = true
    · rw [if_pos htaken, if_neg fun h => h.2 htaken]
      rfl
    · rw [if_neg htaken, if_pos ⟨not_le.mp httl, htaken⟩]
      simp [keyOf, World.tick]

variable {cfg : Config} {codec : Codec Payload (NormalizedTelemetryEvent R)} {msg : Payload}
  {evt : NormalizedTelemetryEvent R}

/-- A delivery whose claim fails is held. -/
lemma deliver_of_redis_fails (hparse : codec.parse msg = .ok evt) (w : World R) {d : Delivery}
    {e : PyError} {applied : Bool} (hd : d.redis = .fails e applied) :
    deliver cfg codec msg w d
      = ⟨.returned false, [⟨.setNx (dedupKey evt.eventId) cfg.dedupTtlSeconds, .error e⟩],
          if applied then ((w.tick d.elapsed).setNx (dedupKey evt.eventId) cfg.dedupTtlSeconds).2
          else w.tick d.elapsed⟩ := by
  rw [deliver, processMessage, hparse]
  dsimp only
  rw [claim, Statement.Prog.bind_eq, Statement.Prog.run_try_issue, env_setNx, hd]
  rfl

/-- A delivery whose claim is answered goes by the answer. -/
lemma deliver_of_redis_answers (hparse : codec.parse msg = .ok evt) (w : World R) {d : Delivery}
    (hd : d.redis = .answers) :
    deliver cfg codec msg w d =
      let c : Stmt R := .setNx (dedupKey evt.eventId) cfg.dedupTtlSeconds
      match (w.tick d.elapsed).setNx (dedupKey evt.eventId) cfg.dedupTtlSeconds with
      | (.error e, w') => ⟨.returned false, [⟨c, .error e⟩], w'⟩
      | (.ok false, w') => ⟨.returned true, [⟨c, .ok false⟩], w'⟩
      | (.ok true, w') =>
          (processClaimed (codec.text msg) evt).run World.exec d.env [⟨c, .ok true⟩] w' := by
  rw [deliver, processMessage, hparse]
  dsimp only
  rw [claim, Statement.Prog.bind_eq, Statement.Prog.run_try_issue, env_setNx, hd]
  simp only [Reply.fate, World.exec]
  rcases (w.tick d.elapsed).setNx (dedupKey evt.eventId) cfg.dedupTtlSeconds with ⟨r, w'⟩
  match r with
  | .error e => rfl
  | .ok false => rfl
  | .ok true => rfl

/-- A claim alone settles nothing. -/
lemma not_settled_claim (rawPayload key : String) (ex : ℤ) (a : Except PyError Bool) :
    ¬ Settled evt rawPayload [⟨.setNx key ex, a⟩] := by
  simp [Settled, WritesRaw, Republishes, DeadLetters]

lemma answered_iff {d : Delivery} :
    (redisClaims cfg).answered d = true ↔ 0 < cfg.dedupTtlSeconds ∧ d.redis = .answers := by
  simp only [redisClaims, Bool.and_eq_true, decide_eq_true_eq]
  refine and_congr_right fun _ => ?_
  cases d.redis with
  | answers => simp [Reply.ok]
  | fails e applied => simp [Reply.ok]

/-- The work of a delivery that takes the key. -/
lemma deliver_of_free (hparse : codec.parse msg = .ok evt) {w : World R} {d : Delivery}
    (hans : (redisClaims cfg).answered d = true)
    (hfree : (redisClaims cfg).taken (keyOf evt.eventId w) d = false) :
    (∃ e, (deliver cfg codec msg w d).outcome = .raised e)
      ∨ (Concludes evt (codec.text msg) ((redisClaims cfg).finishes d)
            ((w.tick d.elapsed).setNx (dedupKey evt.eventId) cfg.dedupTtlSeconds).2
            (deliver cfg codec msg w d)) := by
  obtain ⟨httl, hd⟩ := answered_iff.mp hans
  have hset : ((w.tick d.elapsed).setNx (dedupKey evt.eventId) cfg.dedupTtlSeconds).1
      = .ok true := by
    rw [World.setNx, if_neg (not_le.mpr httl), live_tick cfg, hfree]
    rfl
  rw [deliver_of_redis_answers hparse w hd]
  rcases h : (w.tick d.elapsed).setNx (dedupKey evt.eventId) cfg.dedupTtlSeconds with ⟨r, w'⟩
  rw [h] at hset
  dsimp only at hset
  subst hset
  refine processClaimed_run evt (codec.text msg) d w' ?_ ?_
  · simp [Republishes]
  · simp [DeadLetters]

variable (cfg) in
/-- **The handler claims first.** -/
lemma claimFirst (hparse : codec.parse msg = .ok evt) :
    ClaimFirst (deliver cfg codec msg) (fun r => Settled evt (codec.text msg) r.log)
      (fun _ => True) (keyOf evt.eventId) (redisClaims cfg) where
  unanswered := by
    intro w d _ hans
    cases hd : d.redis with
    | fails e applied =>
        rw [deliver_of_redis_fails hparse w hd]
        refine ⟨rfl, not_settled_claim _ _ _ _, ?_, trivial⟩
        cases applied with
        | false => simp [redisClaims, keyOf, World.tick, hd, Reply.applied]
        | true =>
            rw [if_pos rfl, keyOf_setNx]
            simp [redisClaims, keyOf, hd, Reply.applied]
    | answers =>
        -- Redis refuses a lifetime that is not positive.
        have httl : cfg.dedupTtlSeconds ≤ 0 := by
          by_contra h
          rw [answered_iff.mpr ⟨not_le.mp h, hd⟩] at hans
          cases hans
        rw [deliver_of_redis_answers hparse w hd, World.setNx, if_pos httl]
        refine ⟨rfl, not_settled_claim _ _ _ _, ?_, trivial⟩
        simp [redisClaims, keyOf, World.tick, not_lt.mpr httl]
  skipped := by
    intro w d _ hans htaken
    obtain ⟨httl, hd⟩ := answered_iff.mp hans
    rw [deliver_of_redis_answers hparse w hd, World.setNx, if_neg (not_le.mpr httl),
      live_tick cfg, if_pos htaken]
    exact ⟨rfl, not_settled_claim _ _ _ _⟩
  finished := by
    intro w d b _ hans hfree hfin hb
    rcases deliver_of_free hparse hans hfree with ⟨e, he⟩ | hdone
    · rw [hb] at he
      cases he
    · exact hdone.settled.mpr hfin
  unfinished := by
    intro w d b _ hans hfree hfin hb
    rcases deliver_of_free hparse hans hfree with ⟨e, he⟩ | hdone
    · rw [hb] at he
      cases he
    · rw [hfin] at hdone
      have hout : b = false := Statement.Outcome.returned.inj (hb.symm.trans hdone.outcome)
      refine ⟨hout, fun h => Bool.false_ne_true (hdone.settled.mp h), ?_, trivial⟩
      have hkey : keyOf evt.eventId (deliver cfg codec msg w d).store
          = keyOf evt.eventId
            ((w.tick d.elapsed).setNx (dedupKey evt.eventId) cfg.dedupTtlSeconds).2 :=
        Prod.ext hdone.now (congrFun hdone.redis _)
      rw [hkey, keyOf_setNx]
      simp [redisClaims, keyOf, (answered_iff.mp hans).2, Reply.applied]

/-- **When an event is silently lost.** As long as no delivery crashes, a message that is reported
done has been written and republished, or dead-lettered, exactly when until such a delivery every
claim that Redis answers finds the key free. -/
theorem noSilentLoss_iff (cfg : Config) (codec : Codec Payload (NormalizedTelemetryEvent R))
    (msg : Payload) (evt : NormalizedTelemetryEvent R) (hparse : codec.parse msg = .ok evt)
    (w : World R) (ds : List Delivery)
    (hcrash : NoCrash (attempts (deliver cfg codec msg) ds w)) :
    NeverLost (fun r => Settled evt (codec.text msg) r.log) (attempts (deliver cfg codec msg) ds w)
      ↔ (redisClaims cfg).Finish ds (keyOf evt.eventId w) :=
  Statement.neverLost_iff _ (claimFirst cfg hparse) ds trivial hcrash

/-! ### A lost reading -/

/-- A temperature reading of a pump. -/
def pumpReading : NormalizedTelemetryEvent ℚ :=
  { eventId := "e1", organizationId := "org", factoryId := "f1", productionLineId := "l1",
    machineId := "m1", deviceId := "d1", sensorId := "s1",
    timestamp := some ⟨63890000000000000, some 0⟩,
    sequenceNumber := 1, metric := "temperature", value := 90, unit := "C",
    correlationId := "c1", ingestedAt := ⟨63890000001000000, some 0⟩ }

/-- The process has just started, with windows of up to fifteen minutes. -/
def fresh : World ℚ := .init (seconds 900)

/-- Redis is down at the first delivery; at the second everything is up. -/
def redisDownOnce : List Delivery :=
  [⟨0, .fails ⟨.external, "connection refused"⟩ false, .answers, .answers, .answers⟩,
    ⟨60000000, .answers, .answers, .answers, .answers⟩]

/-- The reading is held and then handled. -/
theorem noSilentLoss_iff_redisDownOnce :
    NeverLost (fun r => Settled pumpReading "reading" r.log)
      (attempts (deliver .default (.plain "reading") pumpReading) redisDownOnce fresh) :=
  (noSilentLoss_iff .default (.plain "reading") pumpReading pumpReading rfl fresh redisDownOnce
    (Statement.noCrash_of_outcomes [false, true] (by decide +kernel))).mpr (by decide +kernel)

/-- InfluxDB and the dead-letter topic are down at the first delivery; at the second everything is
up. -/
def influxDownOnce : List Delivery :=
  [⟨0, .answers, .fails ⟨.external, "timeout"⟩ false, .answers,
      .fails ⟨.external, "broker down"⟩ false⟩,
    ⟨60000000, .answers, .answers, .answers, .answers⟩]

/-- The first delivery holds the message, the second reports it done, and it has been settled by
neither. -/
theorem reading_silently_lost :
    (attempts (deliver .default (.plain "reading") pumpReading) influxDownOnce fresh).map
        Run.outcome = [.returned false, .returned true]
      ∧ ¬ NeverLost (fun r => Settled pumpReading "reading" r.log)
        (attempts (deliver .default (.plain "reading") pumpReading) influxDownOnce fresh) := by
  have hout : (attempts (deliver .default (.plain "reading") pumpReading) influxDownOnce fresh).map
      Run.outcome = [.returned false, .returned true] := by decide +kernel
  refine ⟨hout, ?_⟩
  have hcrash := Statement.noCrash_of_outcomes [false, true] hout
  have hparse : (Codec.plain "reading").parse pumpReading = .ok pumpReading := rfl
  have hiff := Statement.neverLost_iff _ (claimFirst .default hparse) influxDownOnce
    (s := fresh) trivial hcrash
  intro h
  have hfinish : ¬ (redisClaims .default).Finish influxDownOnce
      (keyOf pumpReading.eventId fresh) := by decide +kernel
  exact hfinish (hiff.mp h)

end StreamProcessor

end InduSense
