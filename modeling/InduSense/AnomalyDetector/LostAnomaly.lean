import InduSense.Statement.Guarantee
import InduSense.AnomalyDetector.Main

/-!
Which anomalies the anomaly detector can lose.

* `Delivery`, `deliver`: a delivery of a message, with the replies of Postgres and Kafka.
* `Fires`: at least one detector fires on the event.
* `Settled`: a delivery has published an anomaly for the event, or dead-lettered the message.
* `rowClaims`: the claims of an event in Postgres; `claimFirst` says that the handler claims first.
* `noLostAnomaly_iff`: the deliveries under which no anomaly is lost.
-/

namespace InduSense

namespace AnomalyDetector

open Statement (Reply Claims ClaimFirst Succeeded NoCrash NeverLost attempts Run Log Env)
open Statement.Prog (Ensures ensures_bind ensures_issue ensures_ret ensures_raise)

variable {R Payload : Type} [Field R] [LinearOrder R]

/-! ### Deliveries -/

/-- A delivery of a message: the time since the last one, and what each dependency replies. -/
structure Delivery where
  elapsed : ℕ
  postgres : Reply PyError
  publish : Reply PyError
  deadLetter : Reply PyError

omit [Field R] [LinearOrder R] in
/-- The environment of a delivery; what happens in memory is always carried out. -/
def Delivery.env (d : Delivery) : Env (Detecting R) PyError := fun _ c =>
  match c with
  | .insertIdempotencyKey _ _ => d.postgres.fate
  | .publishAnomaly _ _ => d.publish.fate
  | .produceDeadLetter _ _ => d.deadLetter.fate
  | _ => .completes

section Fates

omit [Field R] [LinearOrder R]

variable (d : Delivery) (l : Log (Detecting R) PyError)

@[simp] lemma env_insertIdempotencyKey (key scope : String) :
    d.env l (.insertIdempotencyKey key scope) = d.postgres.fate := rfl

@[simp] lemma env_publishAnomaly (key : String) (evt : AnomalyDetected R) :
    d.env l (.publishAnomaly key evt) = d.publish.fate := rfl

@[simp] lemma env_produceDeadLetter (key : String) (record : DeadLetterRecord) :
    d.env l (.produceDeadLetter key record) = d.deadLetter.fate := rfl

@[simp] lemma env_uuid4 : d.env l .uuid4 = .completes := rfl

@[simp] lemma env_utcNow : d.env l .utcNow = .completes := rfl

end Fates

/-- The handling of a delivery. -/
def deliver (math : PyMath R) (cfg : Config R) (codec : Codec Payload (NormalizedTelemetryEvent R))
    (msg : Payload) (w : World R) (d : Delivery) : Run (Detecting R) PyError Bool (World R) :=
  (processMessage math cfg codec msg).run (World.exec math) d.env [] (w.tick d.elapsed)

/-- What the detectors find in an event. -/
def detected (math : PyMath R) (cfg : Config R) (evt : NormalizedTelemetryEvent R) (w : World R) :
    List (Detection R) :=
  (((detect math cfg evt).eval (World.exec math) w).1.toOption).getD []

/-- At least one detector fires. -/
def Fires (math : PyMath R) (cfg : Config R) (evt : NormalizedTelemetryEvent R) (w : World R) :
    Prop :=
  detected math cfg evt w ≠ []

instance (math : PyMath R) (cfg : Config R) (evt : NormalizedTelemetryEvent R) (w : World R) :
    Decidable (Fires math cfg evt w) :=
  inferInstanceAs (Decidable (detected math cfg evt w ≠ []))

section Settled

omit [Field R] [LinearOrder R]

/-- A request that publishes an anomaly for an event. -/
def PublishesFor (eventId : String) (c : Stmt R) : Prop :=
  ∃ key evt, c = .publishAnomaly key evt ∧ evt.eventId = eventId

/-- A request that dead-letters a message. -/
def DeadLetters (rawPayload : String) (c : Stmt R) : Prop :=
  ∃ key record, c = .produceDeadLetter key record ∧ record.originalPayload = rawPayload

/-- An anomaly has been published for the event, or the message dead-lettered. -/
def Settled (eventId rawPayload : String) (l : Log (Detecting R) PyError) : Prop :=
  Succeeded (PublishesFor eventId) l ∨ Succeeded (DeadLetters rawPayload) l

end Settled

/-- The claims of an event, in terms of whether its row is there; nothing deletes it. -/
def rowClaims : Claims Delivery Bool where
  taken k _ := k
  answered d := d.postgres.ok
  finishes d := d.publish.ok || d.deadLetter.ok
  after k d := k || d.postgres.applied

lemma answered_iff {d : Delivery} : rowClaims.answered d = true ↔ d.postgres = .answers := by
  change d.postgres.ok = true ↔ _
  cases d.postgres with
  | answers => simp [Reply.ok]
  | fails e applied => simp [Reply.ok]

/-- A claim that is not answered has failed. -/
lemma postgres_fails {d : Delivery} (h : rowClaims.answered d = false) :
    ∃ e applied, d.postgres = .fails e applied := by
  cases hd : d.postgres with
  | answers =>
      rw [answered_iff.mpr hd] at h
      cases h
  | fails e applied => exact ⟨e, applied, rfl⟩

/-! ### Detection -/

section Detection

omit [Field R] [LinearOrder R] in
/-- The requests to the detectors in memory. -/
def Stmt.inMemory : Stmt R → Bool
  | lookup _ => true
  | featuresFor _ => true
  | updateTracker _ _ _ => true
  | observe _ _ _ _ _ => true
  | getForest _ => true
  | _ => false

omit [Field R] [LinearOrder R] in
/-- They are always carried out. -/
lemma env_inMemory (d : Delivery) (l : Log (Detecting R) PyError) (c : Stmt R)
    (hc : c.inMemory = true) : d.env l c = .completes := by
  cases c with
  | insertIdempotencyKey key scope => cases hc
  | publishAnomaly key evt => cases hc
  | produceDeadLetter key record => cases hc
  | _ => rfl

omit [Field R] [LinearOrder R] in
/-- Two worlds agree on what the detectors remember. -/
structure SameMemory (w w' : World R) : Prop where
  catalog : w.catalog = w'.catalog
  trackers : w.trackers = w'.trackers
  features : w.features = w'.features
  forests : w.forests = w'.forests

variable {math : PyMath R} {cfg : Config R} {evt : NormalizedTelemetryEvent R}

/-- The detectors answer from what they remember. -/
lemma exec_inMemory (c : Stmt R) (w w' : World R) (hc : c.inMemory = true)
    (h : SameMemory w w') :
    (World.exec math c w).1 = (World.exec math c w').1
      ∧ SameMemory (World.exec math c w).2 (World.exec math c w').2 := by
  obtain ⟨hcat, htr, hfs, hfor⟩ := h
  cases c with
  | lookup deviceId => exact ⟨by simp only [World.exec, hcat], hcat, htr, hfs, hfor⟩
  | featuresFor machineType => exact ⟨by simp only [World.exec, hcat], hcat, htr, hfs, hfor⟩
  | updateTracker deviceId metric value =>
      exact ⟨by simp only [World.exec, htr], hcat, by simp only [World.exec, htr], hfs, hfor⟩
  | observe deviceId machineType metric value featureOrder =>
      exact ⟨by simp only [World.exec, hfs], hcat, htr, by simp only [World.exec, hfs], hfor⟩
  | getForest machineType => exact ⟨by simp only [World.exec, hfor], hcat, htr, hfs, hfor⟩
  | insertIdempotencyKey key scope => cases hc
  | uuid4 => cases hc
  | utcNow => cases hc
  | publishAnomaly key evt => cases hc
  | produceDeadLetter key record => cases hc

omit [Field R] [LinearOrder R] in
lemma ensures_ofExcept {α : Type} {Q : Log (Detecting R) PyError → Stmt R → Prop}
    (r : Except PyError α) : Ensures Q (ofExcept r : Detecting.Prog R α) := by
  cases r with
  | ok a => exact ensures_ret a
  | error e => exact ensures_raise e

variable (math cfg evt) in
/-- Detection asks nothing but the detectors. -/
lemma ensures_detect : Ensures (fun _ (c : Stmt R) => c.inMemory = true) (detect math cfg evt) := by
  refine ensures_bind (ensures_issue fun _ => rfl) fun info => ?_
  refine ensures_bind ?_ fun featureOrder => ?_
  · cases info with
    | none => exact ensures_ret _
    | some info => exact ensures_issue fun _ => rfl
  · refine ensures_bind (ensures_issue fun _ => rfl) fun z => ?_
    refine ensures_bind ?_ fun score => ensures_ofExcept _
    cases info with
    | none => exact ensures_ret _
    | some info =>
        refine ensures_bind (ensures_issue fun _ => rfl) fun vector => ?_
        cases vector with
        | none => exact ensures_ret _
        | some vector =>
            refine ensures_bind (ensures_issue fun _ => rfl) fun forest => ?_
            cases forest with
            | none => exact ensures_ret _
            | some forest => exact ensures_bind (ensures_ofExcept _) fun _ => ensures_ret _

/-- Whether a detector fires is a matter of what the detectors remember. -/
lemma fires_congr {w w' : World R} (h : SameMemory w w') :
    Fires math cfg evt w ↔ Fires math cfg evt w' := by
  have heval : ((detect math cfg evt).eval (World.exec math) w).1
      = ((detect math cfg evt).eval (World.exec math) w').1 :=
    Statement.Prog.eval_congr_of_ensures exec_inMemory (ensures_detect math cfg evt) h
  rw [Fires, Fires, detected, detected, heval]

end Detection

/-! ### The parts of a run -/

section Parts

variable (math : PyMath R) (cfg : Config R) (evt : NormalizedTelemetryEvent R)
  (rawPayload : String)

omit [Field R] [LinearOrder R] in
/-- A run returns `done`, having settled the event exactly then. -/
structure Concludes (done : Bool) (r : Run (Detecting R) PyError Bool (World R)) : Prop where
  outcome : r.outcome = .returned done
  settled : Settled evt.eventId rawPayload r.log ↔ done = true

omit [Field R] [LinearOrder R] in
/-- Nothing in the log settles the event. -/
structure Untouched (l : Log (Detecting R) PyError) : Prop where
  notPublished : ¬ Succeeded (PublishesFor evt.eventId) l
  notDeadLettered : ¬ Succeeded (DeadLetters rawPayload) l

variable (d : Delivery) {l : Log (Detecting R) PyError}

/-- Giving up an event. -/
lemma deadLetterOrHold_run (hl : Untouched evt rawPayload l) (cause : PyError)
    (stage correlationId : String) (w : World R) :
    Concludes evt rawPayload d.deadLetter.ok
      ((deadLetterOrHold rawPayload cause stage correlationId).run (World.exec math) d.env l
        w) := by
  obtain ⟨hpub, hdead⟩ := hl
  rw [deadLetterOrHold, deadLetter]
  cases hd : d.deadLetter with
  | answers =>
      constructor <;>
        simp [Statement.Prog.issue, Statement.Prog.run_call, World.exec, hd, Reply.fate, Reply.ok,
          Settled, DeadLetters, Except.isOk, Except.toBool]
  | fails e applied =>
      constructor <;>
        simp [Statement.Prog.issue, Statement.Prog.run_call, World.exec, hd, Reply.fate, Reply.ok,
          Settled, hpub, hdead, PublishesFor, DeadLetters, Except.isOk, Except.toBool]

omit [Field R] [LinearOrder R] in
lemma Untouched.append {l' : Log (Detecting R) PyError} (hl : Untouched evt rawPayload l)
    (hl' : Untouched evt rawPayload l') : Untouched evt rawPayload (l ++ l') := by
  constructor
  · rw [Statement.succeeded_append]
    exact not_or.mpr ⟨hl.notPublished, hl'.notPublished⟩
  · rw [Statement.succeeded_append]
    exact not_or.mpr ⟨hl.notDeadLettered, hl'.notDeadLettered⟩

/-- Reporting an anomaly: it is published, or the message given up. -/
lemma report_run (hl : Untouched evt rawPayload l) (results : List (Detection R)) (w : World R) :
    Concludes evt rawPayload (d.publish.ok || d.deadLetter.ok)
      ((report rawPayload evt results).run (World.exec math) d.env l w) := by
  rw [report, Statement.Prog.bind_eq, Statement.Prog.run_issue_bind, env_uuid4]
  simp only [World.exec]
  rw [Statement.Prog.bind_eq, Statement.Prog.run_issue_bind, env_utcNow]
  simp only [World.exec]
  rw [Statement.Prog.bind_eq, Statement.Prog.run_try_issue, env_publishAnomaly]
  have hl' : ∀ {e : Statement.Entry (Detecting R) PyError}, e.stmt = .uuid4 ∨ e.stmt = .utcNow →
      Untouched evt rawPayload [e] := by
    rintro ⟨c, a⟩ (rfl | rfl)
    · constructor <;> simp [PublishesFor, DeadLetters]
    · constructor <;> simp [PublishesFor, DeadLetters]
  have hlog := (hl.append _ _ (hl' (e := ⟨.uuid4, .ok (toString w.nextUuid)⟩) (.inl rfl))).append
    _ _ (hl' (e := ⟨.utcNow, .ok w.now⟩) (.inr rfl))
  cases d.publish with
  | answers =>
      refine ⟨rfl, iff_of_true (.inl ?_) rfl⟩
      simp [Reply.fate, World.exec, PublishesFor, anomalyOf, Except.isOk, Except.toBool]
  | fails e applied =>
      rw [Reply.ok, Bool.false_or, Reply.fate]
      refine deadLetterOrHold_run math evt rawPayload d (hlog.append _ _ ?_) _ _ _ _
      constructor <;> simp [PublishesFor, DeadLetters, Except.isOk, Except.toBool]

/-- Work on a claimed event on which a detector fires: the anomaly is published, or the message
given up. -/
lemma processClaimed_run (hl : Untouched evt rawPayload l) {w : World R}
    (hfires : Fires math cfg evt w) :
    Concludes evt rawPayload (d.publish.ok || d.deadLetter.ok)
      ((processClaimed math cfg rawPayload evt).run (World.exec math) d.env l w) := by
  obtain ⟨hout, -, l', hlog, hl'⟩ := Statement.Prog.run_of_ensures (x := World.exec math)
    (env_inMemory d) (ensures_detect math cfg evt) l w
  have hmem : Untouched evt rawPayload l' := by
    constructor
    · rintro ⟨e, he, ⟨key, anomaly, hc, -⟩, -⟩
      have h := hl' e he
      rw [hc] at h
      cases h
    · rintro ⟨e, he, ⟨key, record, hc, -⟩, -⟩
      have h := hl' e he
      rw [hc] at h
      cases h
  obtain ⟨results, hresults, hne⟩ : ∃ results,
      ((detect math cfg evt).eval (World.exec math) w).1 = .ok results ∧ results ≠ [] := by
    rw [Fires, detected] at hfires
    cases h : ((detect math cfg evt).eval (World.exec math) w).1 with
    | ok results => exact ⟨results, rfl, fun he => hfires (by rw [h, he]; rfl)⟩
    | error e => exact absurd (by rw [h]; rfl) hfires
  rw [processClaimed, Statement.Prog.bind_eq, Statement.Prog.run_bind]
  rcases hrun : (detect math cfg evt).run (World.exec math) d.env l w with ⟨o, l₁, w₁⟩
  rw [hrun, hresults] at hout
  rw [hrun] at hlog
  dsimp only at hout hlog ⊢
  subst hout hlog
  dsimp only
  rw [if_neg hne]
  exact report_run math evt rawPayload d (hl.append _ _ hmem) results w₁

end Parts

/-! ### Claims in Postgres -/

section Claiming

variable {math : PyMath R} {cfg : Config R} {codec : Codec Payload (NormalizedTelemetryEvent R)}
  {msg : Payload} {evt : NormalizedTelemetryEvent R}

/-- A delivery whose claim fails is held. -/
lemma deliver_of_postgres_fails (hparse : codec.parse msg = .ok evt) (w : World R) {d : Delivery}
    {e : PyError} {applied : Bool} (hd : d.postgres = .fails e applied) :
    deliver math cfg codec msg w d
      = ⟨.returned false, [⟨.insertIdempotencyKey evt.eventId anomalyDedupScope, .error e⟩],
          if applied then (World.exec math (.insertIdempotencyKey evt.eventId anomalyDedupScope)
            (w.tick d.elapsed)).2
          else w.tick d.elapsed⟩ := by
  rw [deliver, processMessage, hparse]
  dsimp only
  rw [claimTelemetryEventOnce, Statement.Prog.bind_eq, Statement.Prog.run_try_issue,
    env_insertIdempotencyKey, hd]
  rfl

/-- A delivery that finds the row is done. -/
lemma deliver_of_claimed (hparse : codec.parse msg = .ok evt) {w : World R} {d : Delivery}
    (hd : d.postgres = .answers) (hw : claimed evt.eventId w = true) :
    deliver math cfg codec msg w d
      = ⟨.returned true, [⟨.insertIdempotencyKey evt.eventId anomalyDedupScope, .ok false⟩],
          w.tick d.elapsed⟩ := by
  have hmem : (anomalyDedupScope, evt.eventId) ∈ (w.tick d.elapsed).idempotencyKeys :=
    of_decide_eq_true hw
  rw [deliver, processMessage, hparse]
  dsimp only
  rw [claimTelemetryEventOnce, Statement.Prog.bind_eq, Statement.Prog.run_try_issue,
    env_insertIdempotencyKey, hd]
  simp only [Reply.fate, World.exec, if_pos hmem]
  rfl

/-- The world once the row of an event is there. -/
def withRow (eventId : String) (w : World R) : World R :=
  { w with idempotencyKeys := w.idempotencyKeys ++ [(anomalyDedupScope, eventId)] }

/-- A delivery that inserts the row goes on to work. -/
lemma deliver_of_not_claimed (hparse : codec.parse msg = .ok evt) {w : World R} {d : Delivery}
    (hd : d.postgres = .answers) (hw : claimed evt.eventId w = false) :
    deliver math cfg codec msg w d
      = (processClaimed math cfg (codec.text msg) evt).run (World.exec math) d.env
          [⟨.insertIdempotencyKey evt.eventId anomalyDedupScope, .ok true⟩]
          (withRow evt.eventId (w.tick d.elapsed)) := by
  have hmem : (anomalyDedupScope, evt.eventId) ∉ (w.tick d.elapsed).idempotencyKeys :=
    of_decide_eq_false hw
  rw [deliver, processMessage, hparse]
  dsimp only
  rw [claimTelemetryEventOnce, Statement.Prog.bind_eq, Statement.Prog.run_try_issue,
    env_insertIdempotencyKey, hd]
  simp only [Reply.fate, World.exec, if_neg hmem]
  rfl

/-- No request deletes a row. -/
lemma claimed_exec (eventId : String) (c : Stmt R) (w : World R) (h : claimed eventId w = true) :
    claimed eventId (World.exec math c w).2 = true := by
  have hmem : (anomalyDedupScope, eventId) ∈ w.idempotencyKeys := of_decide_eq_true h
  refine decide_eq_true ?_
  cases c with
  | insertIdempotencyKey key scope =>
      simp only [World.exec]
      split
      · exact hmem
      · exact List.mem_append_left _ hmem
  | _ => exact hmem

variable (math) in
/-- The claim leaves the row in place. -/
lemma claimed_claim (eventId : String) (w : World R) :
    claimed eventId (World.exec math (.insertIdempotencyKey eventId anomalyDedupScope) w).2
      = true := by
  simp only [World.exec]
  split
  · rename_i hmem
    exact decide_eq_true hmem
  · exact decide_eq_true (List.mem_append_right _ (List.mem_singleton_self _))

variable (math cfg evt) in
/-- Until its row is there, a detector fires on the event. -/
def FiresUnlessClaimed (w : World R) : Prop :=
  claimed evt.eventId w = false → Fires math cfg evt w

/-- The passage of time does not matter for that. -/
lemma FiresUnlessClaimed.tick {w : World R} (h : FiresUnlessClaimed math cfg evt w) (dt : ℕ) :
    FiresUnlessClaimed math cfg evt (w.tick dt) := by
  have hsame : SameMemory w (w.tick dt) := ⟨rfl, rfl, rfl, rfl⟩
  exact fun hrow => (fires_congr hsame).mp (h hrow)

/-- A delivery whose claim fails. -/
lemma deliver_unanswered (hparse : codec.parse msg = .ok evt) {w : World R} {d : Delivery}
    (hw : FiresUnlessClaimed math cfg evt w) (hans : rowClaims.answered d = false) :
    (deliver math cfg codec msg w d).outcome = .returned false
      ∧ ¬ Settled evt.eventId (codec.text msg) (deliver math cfg codec msg w d).log
      ∧ claimed evt.eventId (deliver math cfg codec msg w d).store
          = rowClaims.after (claimed evt.eventId w) d
      ∧ FiresUnlessClaimed math cfg evt (deliver math cfg codec msg w d).store := by
  obtain ⟨e, applied, hd⟩ := postgres_fails hans
  have hafter : rowClaims.after (claimed evt.eventId w) d = (claimed evt.eventId w || applied) := by
    change (claimed evt.eventId w || d.postgres.applied) = _
    rw [hd]
    rfl
  rw [deliver_of_postgres_fails hparse w hd, hafter]
  refine ⟨rfl, by simp [Settled, PublishesFor, DeadLetters], ?_⟩
  cases applied with
  | false => exact ⟨(Bool.or_false _).symm, hw.tick d.elapsed⟩
  | true =>
      have hrow := claimed_claim math evt.eventId (w.tick d.elapsed)
      refine ⟨hrow.trans (Bool.or_true _).symm, fun h => ?_⟩
      rw [if_pos rfl, hrow] at h
      cases h

/-- A delivery that takes the row works on the event. -/
lemma deliver_free (hparse : codec.parse msg = .ok evt) {w : World R} {d : Delivery}
    (hw : FiresUnlessClaimed math cfg evt w) (hans : rowClaims.answered d = true)
    (hfree : claimed evt.eventId w = false) :
    Concludes evt (codec.text msg) (d.publish.ok || d.deadLetter.ok)
        (deliver math cfg codec msg w d)
      ∧ claimed evt.eventId (deliver math cfg codec msg w d).store = true := by
  rw [deliver_of_not_claimed hparse (answered_iff.mp hans) hfree]
  constructor
  · have hsame : SameMemory w (withRow evt.eventId (w.tick d.elapsed)) := ⟨rfl, rfl, rfl, rfl⟩
    refine processClaimed_run math cfg evt (codec.text msg) d ?_
      ((fires_congr hsame).mp (hw hfree))
    constructor <;> simp [PublishesFor, DeadLetters]
  · refine Statement.Prog.run_preserves (World.exec math) d.env
      (I := fun w => claimed evt.eventId w = true) (claimed_exec evt.eventId) _ _ ?_
    exact decide_eq_true (List.mem_append_right _ (List.mem_singleton_self _))

/-- **The handler claims first.** -/
lemma claimFirst (hparse : codec.parse msg = .ok evt) :
    ClaimFirst (deliver math cfg codec msg)
      (fun r => Settled evt.eventId (codec.text msg) r.log) (FiresUnlessClaimed math cfg evt)
      (claimed evt.eventId) rowClaims where
  unanswered := fun hw hans => deliver_unanswered hparse hw hans
  skipped := by
    intro w d _ hans htaken
    rw [deliver_of_claimed hparse (answered_iff.mp hans) htaken]
    exact ⟨rfl, by simp [Settled, PublishesFor, DeadLetters]⟩
  finished := fun hw hans hfree hfin _ => (deliver_free hparse hw hans hfree).1.settled.mpr hfin
  unfinished := by
    intro w d b hw hans hfree hfin hb
    obtain ⟨hdone, hrow⟩ := deliver_free hparse hw hans hfree
    have hfin' : (d.publish.ok || d.deadLetter.ok) = false := hfin
    rw [hfin'] at hdone
    refine ⟨Statement.Outcome.returned.inj (hb.symm.trans hdone.outcome),
      fun h => Bool.false_ne_true (hdone.settled.mp h), ?_, fun h => ?_⟩
    · have hafter : rowClaims.after (claimed evt.eventId w) d = true := by
        change (claimed evt.eventId w || d.postgres.applied) = true
        rw [answered_iff.mp hans]
        exact Bool.or_true _
      rw [hrow, hafter]
    · rw [hrow] at h
      cases h

/-- No delivery crashes: the work on a claimed event always ends. -/
lemma noCrash_deliver (hparse : codec.parse msg = .ok evt) (ds : List Delivery) {w : World R}
    (hw : FiresUnlessClaimed math cfg evt w) :
    NoCrash (attempts (deliver math cfg codec msg) ds w) := by
  refine Statement.noCrash_of_invariant _ (I := FiresUnlessClaimed math cfg evt)
    (fun w d hw => ?_) ds hw
  cases hans : rowClaims.answered d with
  | false =>
      obtain ⟨hout, -, -, hw'⟩ := deliver_unanswered hparse hw hans
      exact ⟨⟨_, hout⟩, hw'⟩
  | true =>
      cases hrow : claimed evt.eventId w with
      | false =>
          obtain ⟨hdone, hrow'⟩ := deliver_free hparse hw hans hrow
          refine ⟨⟨_, hdone.outcome⟩, fun h => ?_⟩
          rw [hrow'] at h
          cases h
      | true =>
          rw [deliver_of_claimed hparse (answered_iff.mp hans) hrow]
          exact ⟨⟨_, rfl⟩, hw.tick d.elapsed⟩

/-- **When an anomaly is lost.** For an event on which a detector fires, a message that is reported
done has had an anomaly published for it, or been dead-lettered, exactly when until such a delivery
every claim that Postgres answers finds the row absent. -/
theorem noLostAnomaly_iff (math : PyMath R) (cfg : Config R)
    (codec : Codec Payload (NormalizedTelemetryEvent R)) (msg : Payload)
    (evt : NormalizedTelemetryEvent R) (hparse : codec.parse msg = .ok evt) (w : World R)
    (hfires : Fires math cfg evt w) (ds : List Delivery) :
    NeverLost (fun r => Settled evt.eventId (codec.text msg) r.log)
        (attempts (deliver math cfg codec msg) ds w)
      ↔ rowClaims.Finish ds (claimed evt.eventId w) :=
  Statement.neverLost_iff _ (claimFirst hparse) ds (fun _ => hfires)
    (noCrash_deliver hparse ds fun _ => hfires)

end Claiming

/-! ### A lost anomaly -/

/-- Arithmetic on rationals: a first reading needs no square root, and there is no forest yet. -/
def ratMath : PyMath ℚ where
  sqrt q := (Nat.sqrt (q * 10000).floor.toNat : ℚ) / 100
  log _ := 0
  pow2 _ := 1
  fixed digits q :=
    let n := (q * 10 ^ digits).floor.toNat
    let decimals := toString (n % 10 ^ digits)
    toString (n / 10 ^ digits) ++ "." ++ "".pushn '0' (digits - decimals.length) ++ decimals

/-- A temperature reading of a pump, above its range. -/
def hotReading : NormalizedTelemetryEvent ℚ :=
  { eventId := "e1", organizationId := "org", factoryId := "f1", productionLineId := "l1",
    machineId := "m1", deviceId := "d1", sensorId := "s1",
    timestamp := some ⟨63890000000000000, some 0⟩, sequenceNumber := 1, metric := "temperature",
    value := 120, unit := "C", correlationId := "c1", ingestedAt := ⟨63890000001000000, some 0⟩ }

/-- The catalog of one pump. -/
def pumpCatalog : Catalog ℚ where
  devices deviceId :=
    if deviceId = "d1" then
      some ⟨"pump", fun metric => if metric = "temperature" then some ⟨20, 90⟩ else none⟩
    else none
  featureOrder machineType := if machineType = "pump" then some ["temperature"] else none

/-- The process has just started. -/
def fresh : World ℚ := .init .default pumpCatalog

/-- Postgres is down at the first delivery; at the second everything is up. -/
def postgresDownOnce : List Delivery :=
  [⟨0, .fails ⟨.external, "connection refused"⟩ false, .answers, .answers⟩,
    ⟨60000000, .answers, .answers, .answers⟩]

/-- The message is held and then handled. -/
theorem noLostAnomaly_iff_postgresDownOnce :
    NeverLost (fun r => Settled hotReading.eventId "reading" r.log)
      (attempts (deliver ratMath .default (.plain "reading") hotReading) postgresDownOnce fresh) :=
  (noLostAnomaly_iff ratMath .default (.plain "reading") hotReading hotReading rfl fresh
    (by decide +kernel) postgresDownOnce).mpr (by decide +kernel)

/-- Kafka is down at the first delivery; at the second everything is up. -/
def kafkaDownOnce : List Delivery :=
  [⟨0, .answers, .fails ⟨.external, "broker down"⟩ false, .fails ⟨.external, "broker down"⟩ false⟩,
    ⟨60000000, .answers, .answers, .answers⟩]

/-- The first delivery holds the message, the second reports it done, and neither has published an
anomaly or dead-lettered the message. -/
theorem anomaly_lost :
    Fires ratMath .default hotReading fresh
      ∧ (attempts (deliver ratMath .default (.plain "reading") hotReading) kafkaDownOnce fresh).map
          Run.outcome = [.returned false, .returned true]
      ∧ ¬ NeverLost (fun r => Settled hotReading.eventId "reading" r.log)
        (attempts (deliver ratMath .default (.plain "reading") hotReading) kafkaDownOnce
          fresh) := by
  have hfires : Fires ratMath .default hotReading fresh := by decide +kernel
  refine ⟨hfires, by decide +kernel, fun h => ?_⟩
  have hparse : (Codec.plain "reading").parse hotReading = .ok hotReading := rfl
  have hiff := Statement.neverLost_iff _ (claimFirst hparse) kafkaDownOnce (fun _ => hfires)
    (noCrash_deliver hparse kafkaDownOnce fun _ => hfires)
  have hfinish : ¬ rowClaims.Finish kafkaDownOnce (claimed hotReading.eventId fresh) := by
    decide +kernel
  exact hfinish (hiff.mp h)

end AnomalyDetector

end InduSense
