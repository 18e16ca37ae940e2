import InduSense.Ingestion.Main

/-!
When ingestion acknowledges a message.

* `Own`: the requests a call makes concern its own message.
* `Acking`: what a call has done before each of its requests; `follows_processMessage`: every call
  keeps to it, and ends settled (`Settled`).
* `acks_durable`: a message is acknowledged, once, when it is unrecognised, published or
  dead-lettered, and not otherwise.
-/

namespace InduSense

namespace Ingestion

open Statement (Entry Log Pool Move)
open Statement.Prog (FollowsIn Lawful Possible followsIn_issue followsIn_issue_bind)

variable {R Payload : Type}

/-! ### What a call has done -/

/-- The message was acknowledged. -/
def acks : Entry (Ingesting R Payload) PyError → Bool
  | ⟨.ack _, _⟩ => true
  | _ => false

/-- The event was sent to its main topic. -/
def publishes : Entry (Ingesting R Payload) PyError → Bool
  | ⟨.produceTelemetry _ _ _, _⟩ => true
  | ⟨.produceMachineEvent _ _, _⟩ => true
  | _ => false

/-- The message was sent to the dead-letter topic as invalid. -/
def rejects : Entry (Ingesting R Payload) PyError → Bool
  | ⟨.produceDeadLetter _ record, _⟩ => record.errorType = .VALIDATION_ERROR
  | _ => false

/-- Kafka has acknowledged a record. -/
def isDurable : Entry (Ingesting R Payload) PyError → Bool
  | ⟨.produceTelemetry _ _ _, .ok ()⟩ => true
  | ⟨.produceMachineEvent _ _, .ok ()⟩ => true
  | ⟨.produceDeadLetter _ _, .ok ()⟩ => true
  | _ => false

/-- A topic of none of the kinds ingestion subscribes to. -/
def Unrecognised (topic : String) : Prop :=
  endsWith topic "/telemetry" = false ∧ endsWith topic "/status" = false
    ∧ endsWith topic "/events" = false

variable (py : PyText R) (codecs : Codecs R Payload) (cfg : Config) (job : InboundMessage Payload)

/-- A request that concerns the message `job`: its event, normalized, on the topic of its kind, if
it is valid; its payload as it came; its acknowledgement. -/
def Own : Stmt R Payload → Prop
  | .produceTelemetry receipt key evt =>
      endsWith job.topic "/telemetry" = true ∧ receipt = job.receipt
        ∧ ∃ raw now, codecs.telemetry job.payload = .ok raw ∧ validateTelemetry py raw = .ok ()
          ∧ key = raw.deviceId ∧ evt = normalizedTelemetry raw now
  | .produceMachineEvent key evt =>
      (endsWith job.topic "/status" = true ∨ endsWith job.topic "/events" = true)
        ∧ ∃ raw correlationId now, codecs.machineEvent job.payload = .ok raw
          ∧ validateMachineEvent py raw = .ok () ∧ key = raw.deviceId
          ∧ evt = normalizedMachineEvent raw correlationId now
  | .produceDeadLetter _ record =>
      record.originalPayload = codecs.text job.payload ∧ record.sourceTopic = job.topic
  | .ack receipt => receipt = job.receipt
  | _ => True

/-- The message is acknowledged once, when it is unrecognised or durable; it is not both published
and rejected. -/
def Ordered (l : Log (Ingesting R Payload) PyError) : Stmt R Payload → Prop
  | .produceTelemetry _ _ _ => l.any rejects = false
  | .produceMachineEvent _ _ => l.any rejects = false
  | .produceDeadLetter _ record =>
      record.errorType = .VALIDATION_ERROR → l.any publishes = false
  | .ack _ => l.any acks = false ∧ (Unrecognised job.topic ∨ l.any isDurable = true)
  | _ => True

/-- What a call has done before each of its requests. -/
def Acking (l : Log (Ingesting R Payload) PyError) (c : Stmt R Payload) : Prop :=
  Own py codecs job c ∧ Ordered job l c

/-- The end of a call: it does not raise, and has acknowledged what is unrecognised or durable. -/
structure Settled (l : Log (Ingesting R Payload) PyError) (r : Except PyError Unit) : Prop where
  returns : r = .ok ()
  acked : Unrecognised job.topic ∨ l.any isDurable = true → l.any acks = true

/-- Kafka has acknowledged no record, and the message is not acknowledged. -/
structure Pending (l : Log (Ingesting R Payload) PyError) : Prop where
  unacked : l.any acks = false
  notDurable : l.any isDurable = false

/-- The event may have been sent to its main topic. -/
structure Trying (l : Log (Ingesting R Payload) PyError) : Prop extends Pending l where
  notRejected : l.any rejects = false

/-- Nothing is sent yet. -/
structure Fresh (l : Log (Ingesting R Payload) PyError) : Prop extends Trying l where
  notPublished : l.any publishes = false

/-- Kafka has acknowledged a record, and the message is not acknowledged yet. -/
structure Written (l : Log (Ingesting R Payload) PyError) : Prop where
  unacked : l.any acks = false
  durable : l.any isDurable = true

/-- A publication or a dead-letter write ends with a record acknowledged by Kafka, or with a
`KafkaPublishError` and none. -/
def Recorded (l : Log (Ingesting R Payload) PyError) : Except PyError Unit → Prop
  | .ok () => Written l
  | .error exc => Pending l ∧ exc.kind = .kafkaPublishError

/-- What an entry adds to what a call has done. -/
lemma any_concat (f : Entry (Ingesting R Payload) PyError → Bool)
    (l : Log (Ingesting R Payload) PyError) (e : Entry (Ingesting R Payload) PyError) :
    (l ++ [e]).any f = (l.any f || f e) := by
  simp

section Concat

variable {l : Log (Ingesting R Payload) PyError} {e : Entry (Ingesting R Payload) PyError}

lemma Pending.concat (h : Pending l) (ha : acks e = false) (hd : isDurable e = false) :
    Pending (l ++ [e]) := by
  constructor
  · rw [any_concat, h.unacked, ha]; rfl
  · rw [any_concat, h.notDurable, hd]; rfl

lemma Trying.concat (h : Trying l) (ha : acks e = false) (hd : isDurable e = false)
    (hr : rejects e = false) : Trying (l ++ [e]) := by
  refine ⟨h.toPending.concat ha hd, ?_⟩
  rw [any_concat, h.notRejected, hr]
  rfl

lemma Fresh.concat (h : Fresh l) (ha : acks e = false) (hd : isDurable e = false)
    (hr : rejects e = false) (hp : publishes e = false) : Fresh (l ++ [e]) := by
  refine ⟨h.toTrying.concat ha hd hr, ?_⟩
  rw [any_concat, h.notPublished, hp]
  rfl

lemma Written.concat (h : Written l) (ha : acks e = false) : Written (l ++ [e]) := by
  constructor
  · rw [any_concat, h.unacked, ha]; rfl
  · rw [any_concat, h.durable]; rfl

/-- Kafka acknowledges a record. -/
lemma Pending.written (h : Pending l) (ha : acks e = false) (hd : isDurable e = true) :
    Written (l ++ [e]) := by
  constructor
  · rw [any_concat, h.unacked, ha]; rfl
  · rw [any_concat, hd, Bool.or_true]

end Concat

lemma fresh_nil : Fresh ([] : Log (Ingesting R Payload) PyError) := ⟨⟨⟨rfl, rfl⟩, rfl⟩, rfl⟩

/-! ### Every call keeps to it -/

variable {py codecs cfg job}

/-- The dead-letter write. -/
lemma follows_deadLetter {cause : PyError} {errorType : ErrorType} {stage correlationId : String}
    {l : Log (Ingesting R Payload) PyError} (hl : Pending l)
    (hvalid : errorType = .VALIDATION_ERROR → l.any publishes = false) :
    FollowsIn (Possible World.exec) (Acking py codecs job) Recorded
      (deadLetter cfg (codecs.text job.payload) cause errorType stage correlationId job.topic)
      l := by
  refine followsIn_issue_bind ⟨trivial, trivial⟩ (fun now _ => ?_) fun e ⟨w, hw⟩ => by cases hw
  have hl' : Pending (l ++ [⟨.utcNow, .ok now⟩]) := hl.concat rfl rfl
  have hwrite := followsIn_issue (S := Ingesting R Payload)
    (c := .produceDeadLetter correlationId
      ⟨codecs.text job.payload, cause.message, errorType, "ingestion", stage, cfg.kafkaMaxRetries,
        now, correlationId, job.topic⟩)
    (A := Possible World.exec) (Q := Acking py codecs job) (R := WriteEnds Pending Written)
    (l := l ++ [⟨.utcNow, .ok now⟩]) ⟨⟨rfl, rfl⟩, fun h => ?_⟩ fun r _ => ?_
  · refine hwrite.attempt_bind fun l' r hr => ?_
    cases r with
    | ok u => exact hr
    | error exc => exact ⟨hr, rfl⟩
  · rw [any_concat, hvalid h]; rfl
  · cases r with
    | ok u => exact hl'.written rfl rfl
    | error exc => exact hl'.concat rfl rfl

/-- The acknowledgement of a message that is unrecognised or durable. -/
lemma follows_ack {l : Log (Ingesting R Payload) PyError} (hl : l.any acks = false)
    (hdurable : Unrecognised job.topic ∨ l.any isDurable = true) :
    FollowsIn (Possible World.exec) (Acking py codecs job) (Settled job)
      (Ingesting.issue (.ack job.receipt)) l := by
  refine followsIn_issue (Q := Acking py codecs job) ⟨rfl, hl, hdurable⟩ fun r hr => ?_
  obtain ⟨w, rfl⟩ := hr
  refine ⟨rfl, fun _ => ?_⟩
  rw [any_concat]
  exact Bool.or_true _

/-- The end of a message that Kafka has no record of. -/
lemma Pending.settled {l : Log (Ingesting R Payload) PyError} (hl : Pending l)
    (hknown : ¬ Unrecognised job.topic) : Settled job l (.ok ()) := by
  refine ⟨rfl, fun h => ?_⟩
  rcases h with h | h
  · exact absurd h hknown
  · rw [hl.notDurable] at h
    cases h

/-- An invalid message is rejected. -/
lemma follows_rejectMessage {exc : PyError} {correlationId : String}
    {l : Log (Ingesting R Payload) PyError} (hl : Fresh l) (hknown : ¬ Unrecognised job.topic) :
    FollowsIn (Possible World.exec) (Acking py codecs job) (Settled job)
      (rejectMessage codecs cfg job exc correlationId) l := by
  refine (follows_deadLetter hl.toPending fun _ => hl.notPublished).attempt_bind
    fun l' r hr => ?_
  cases r with
  | ok u => exact follows_ack hr.unacked (.inr hr.durable)
  | error exc => exact hr.1.settled hknown

/-- A publication, where each attempt to write the event ends with it acknowledged by Kafka, or
with no record of it. -/
lemma follows_publish {topic correlationId : String} {fn : Ingesting.Prog R Payload Unit}
    (hfn : ∀ l, Trying l →
      FollowsIn (Possible World.exec) (Acking py codecs job) (WriteEnds Trying Written) fn l)
    {l : Log (Ingesting R Payload) PyError} (hl : Trying l) :
    FollowsIn (Possible World.exec) (Acking py codecs job) Recorded
      (publish cfg topic fn (codecs.text job.payload) correlationId job.topic) l := by
  have hwrite : FollowsIn (Possible World.exec) (Acking py codecs job) (WriteEnds Trying Written)
      (writeWithProtection cfg topic fn) l := by
    refine followsIn_writeWithProtection cfg (fun l c hc => ?_) (fun l e he hl => ?_)
      (fun l r hl => hl.concat rfl) hfn hl
    · cases c <;> first | exact ⟨trivial, trivial⟩ | cases hc
    · obtain ⟨c, r⟩ := e
      cases c <;> first | exact hl.concat rfl rfl rfl | cases he
  refine hwrite.attempt_bind fun l' r hr => ?_
  cases r with
  | ok u => exact hr
  | error exc => exact follows_deadLetter hr.toPending fun h => by cases h

/-- The end of a message that is published. -/
lemma follows_finishMessage {published : Ingesting.Prog R Payload Unit}
    {l : Log (Ingesting R Payload) PyError} (hknown : ¬ Unrecognised job.topic)
    (h : FollowsIn (Possible World.exec) (Acking py codecs job) Recorded published l) :
    FollowsIn (Possible World.exec) (Acking py codecs job) (Settled job)
      (finishMessage job published) l := by
  refine h.attempt_bind fun l' r hr => ?_
  cases r with
  | ok u => exact follows_ack hr.unacked (.inr hr.durable)
  | error exc =>
      obtain ⟨hpending, hkind⟩ := hr
      dsimp only
      rw [if_pos hkind]
      exact hpending.settled hknown

lemma follows_handleTelemetry (htopic : endsWith job.topic "/telemetry" = true) :
    FollowsIn (Possible World.exec) (Acking py codecs job) (Settled job)
      (handleTelemetry py codecs cfg job) [] := by
  have hknown : ¬ Unrecognised job.topic := fun h => by rw [h.1] at htopic; cases htopic
  rw [handleTelemetry]
  cases hparse : codecs.telemetry job.payload with
  | error exc =>
      refine followsIn_issue_bind ⟨trivial, trivial⟩ (fun correlationId _ => ?_)
        fun e ⟨w, hw⟩ => by cases hw
      exact follows_rejectMessage (fresh_nil.concat rfl rfl rfl rfl) hknown
  | ok raw =>
      dsimp only
      cases hvalid : validateTelemetry py raw with
      | error exc =>
          dsimp only
          rw [if_pos (valueError_of_validateTelemetry py raw exc hvalid)]
          exact follows_rejectMessage fresh_nil hknown
      | ok u =>
          refine followsIn_issue_bind ⟨trivial, trivial⟩ (fun now _ => ?_)
            fun e ⟨w, hw⟩ => by cases hw
          refine follows_finishMessage hknown (follows_publish (fun l hl => ?_)
            (fresh_nil.concat rfl rfl rfl rfl).toTrying)
          refine followsIn_issue (Q := Acking py codecs job)
            ⟨⟨htopic, rfl, raw, now, hparse, hvalid, rfl, rfl⟩, hl.notRejected⟩ fun r _ => ?_
          cases r with
          | ok u => exact hl.written rfl rfl
          | error exc => exact hl.concat rfl rfl rfl

lemma follows_handleMachineEvent
    (htopic : endsWith job.topic "/status" = true ∨ endsWith job.topic "/events" = true) :
    FollowsIn (Possible World.exec) (Acking py codecs job) (Settled job)
      (handleMachineEvent py codecs cfg job) [] := by
  have hknown : ¬ Unrecognised job.topic := fun h => by
    rw [h.2.1, h.2.2] at htopic
    simp at htopic
  rw [handleMachineEvent]
  cases hparse : codecs.machineEvent job.payload with
  | error exc =>
      refine followsIn_issue_bind ⟨trivial, trivial⟩ (fun correlationId _ => ?_)
        fun e ⟨w, hw⟩ => by cases hw
      exact follows_rejectMessage (fresh_nil.concat rfl rfl rfl rfl) hknown
  | ok raw =>
      refine followsIn_issue_bind ⟨trivial, trivial⟩ (fun correlationId _ => ?_)
        fun e ⟨w, hw⟩ => by cases hw
      have hfresh : Fresh ([] ++ [⟨.uuid4, .ok correlationId⟩] :
          Log (Ingesting R Payload) PyError) := fresh_nil.concat rfl rfl rfl rfl
      cases hvalid : validateMachineEvent py raw with
      | error exc =>
          dsimp only
          rw [if_pos (valueError_of_validateMachineEvent py raw exc hvalid)]
          exact follows_rejectMessage hfresh hknown
      | ok u =>
          refine followsIn_issue_bind ⟨trivial, trivial⟩ (fun now _ => ?_)
            fun e ⟨w, hw⟩ => by cases hw
          refine follows_finishMessage hknown (follows_publish (fun l hl => ?_)
            (hfresh.concat rfl rfl rfl rfl).toTrying)
          refine followsIn_issue (Q := Acking py codecs job)
            ⟨⟨htopic, raw, correlationId, now, hparse, hvalid, rfl, rfl⟩, hl.notRejected⟩
            fun r _ => ?_
          cases r with
          | ok u => exact hl.written rfl rfl
          | error exc => exact hl.concat rfl rfl rfl

/-- **What every call does**, whatever becomes of its writes. -/
theorem follows_processMessage :
    FollowsIn (Possible World.exec) (Acking py codecs job) (Settled job)
      (processMessage py codecs cfg job) [] := by
  rw [processMessage]
  split
  · rename_i htopic
    exact follows_handleTelemetry htopic
  · rename_i htelemetry
    split
    · rename_i htopic
      exact follows_handleMachineEvent (.inl htopic)
    · rename_i hstatus
      split
      · rename_i htopic
        exact follows_handleMachineEvent (.inr htopic)
      · rename_i hevents
        refine follows_ack rfl (.inl ⟨?_, ?_, ?_⟩)
        · simpa using htelemetry
        · simpa using hstatus
        · simpa using hevents

/-! ### What the log of a call says -/

variable (py codecs job) in
/-- Kafka has acknowledged the event of the message, normalized, on its main topic. -/
def EventAcknowledged (l : Log (Ingesting R Payload) PyError) : Prop :=
  (endsWith job.topic "/telemetry" = true ∧ ∃ raw now,
      codecs.telemetry job.payload = .ok raw ∧ validateTelemetry py raw = .ok ()
        ∧ ⟨.produceTelemetry job.receipt raw.deviceId (normalizedTelemetry raw now), .ok ()⟩ ∈ l)
    ∨ ((endsWith job.topic "/status" = true ∨ endsWith job.topic "/events" = true)
      ∧ ∃ raw correlationId now,
        codecs.machineEvent job.payload = .ok raw ∧ validateMachineEvent py raw = .ok ()
          ∧ ⟨.produceMachineEvent raw.deviceId (normalizedMachineEvent raw correlationId now),
              .ok ()⟩ ∈ l)

variable (codecs job) in
/-- Kafka has acknowledged the payload of the message on the dead-letter topic. -/
def PayloadAcknowledged (l : Log (Ingesting R Payload) PyError) : Prop :=
  ∃ key record, record.originalPayload = codecs.text job.payload ∧ record.sourceTopic = job.topic
    ∧ ⟨.produceDeadLetter key record, .ok ()⟩ ∈ l

section Lawful

variable {l : Log (Ingesting R Payload) PyError}

/-- Every request concerns the message of the call. -/
lemma own_of_lawful (h : Lawful (Acking py codecs job) l) : ∀ e ∈ l, Own py codecs job e.stmt := by
  refine h.induction (motive := fun l => ∀ e ∈ l, Own py codecs job e.stmt)
    (fun e he => by cases he) fun l e hl he e' he' => ?_
  rcases List.mem_append.mp he' with he' | he'
  · exact hl e' he'
  · rw [List.mem_singleton] at he'
    rw [he']
    exact he.1

/-- A message is acknowledged at most once. -/
lemma count_acks_le (h : Lawful (Acking py codecs job) l) : l.countP acks ≤ 1 := by
  refine h.induction (motive := fun l => l.countP acks ≤ 1) (Nat.zero_le 1)
    fun l e hcount he => ?_
  rw [List.countP_append, List.countP_singleton]
  split
  · rename_i hack
    obtain ⟨c, r⟩ := e
    cases c <;> cases hack
    have hnone : l.countP acks = 0 := by
      rw [List.countP_eq_zero]
      simpa using he.2.1
    omega
  · omega

/-- A message is acknowledged only when it is unrecognised or durable. -/
lemma durable_of_acks (h : Lawful (Acking py codecs job) l) :
    l.any acks = true → Unrecognised job.topic ∨ l.any isDurable = true := by
  refine h.induction (motive := fun l => l.any acks = true →
    Unrecognised job.topic ∨ l.any isDurable = true) (fun hack => by cases hack)
    fun l e hl he hack => ?_
  have hbefore : Unrecognised job.topic ∨ l.any isDurable = true := by
    rw [any_concat, Bool.or_eq_true] at hack
    rcases hack with hack | hack
    · exact hl hack
    · obtain ⟨c, r⟩ := e
      cases c <;> cases hack
      exact he.2.2
  refine hbefore.imp_right fun hdurable => ?_
  rw [any_concat, hdurable, Bool.true_or]

/-- A message is not both published and rejected. -/
lemma not_publishes_and_rejects (h : Lawful (Acking py codecs job) l) :
    ¬ (l.any publishes = true ∧ l.any rejects = true) := by
  refine h.induction (motive := fun l => ¬ (l.any publishes = true ∧ l.any rejects = true))
    (fun hboth => by cases hboth.1) fun l e hl he hboth => ?_
  rw [any_concat, any_concat, Bool.or_eq_true, Bool.or_eq_true] at hboth
  obtain ⟨c, r⟩ := e
  obtain ⟨hp | hp, hr | hr⟩ := hboth
  · exact hl ⟨hp, hr⟩
  · cases c <;> try cases hr
    have hnone := he.2 (of_decide_eq_true hr)
    rw [hnone] at hp
    cases hp
  · have hnone : l.any rejects = false := by cases c <;> first | exact he.2 | cases hp
    rw [hnone] at hr
    cases hr
  · cases c <;> cases hp <;> cases hr

/-- What is durable is the event of the message, or its payload. -/
lemma durable_iff (h : Lawful (Acking py codecs job) l) :
    l.any isDurable = true
      ↔ EventAcknowledged py codecs job l ∨ PayloadAcknowledged codecs job l := by
  constructor
  · intro hany
    obtain ⟨⟨c, r⟩, hmem, hdurable⟩ := List.any_eq_true.mp hany
    have hown := own_of_lawful h _ hmem
    cases c with
    | produceTelemetry receipt key evt =>
        obtain ⟨htopic, rfl, raw, now, hparse, hvalid, rfl, rfl⟩ := hown
        cases r with
        | ok u => exact .inl (.inl ⟨htopic, raw, now, hparse, hvalid, hmem⟩)
        | error exc => cases hdurable
    | produceMachineEvent key evt =>
        obtain ⟨htopic, raw, correlationId, now, hparse, hvalid, rfl, rfl⟩ := hown
        cases r with
        | ok u => exact .inl (.inr ⟨htopic, raw, correlationId, now, hparse, hvalid, hmem⟩)
        | error exc => cases hdurable
    | produceDeadLetter key record =>
        cases r with
        | ok u => exact .inr ⟨key, record, hown.1, hown.2, hmem⟩
        | error exc => cases hdurable
    | _ => cases hdurable
  · rintro ((⟨-, raw, now, -, -, hmem⟩ | ⟨-, raw, correlationId, now, -, -, hmem⟩) |
      ⟨key, record, -, -, hmem⟩)
    · exact List.any_eq_true.mpr ⟨_, hmem, rfl⟩
    · exact List.any_eq_true.mpr ⟨_, hmem, rfl⟩
    · exact List.any_eq_true.mpr ⟨_, hmem, rfl⟩

end Lawful

/-! ### Acknowledged is durable -/

variable {ι : Type} [DecidableEq ι]

variable (py codecs cfg) in
/-- The calls `processMessage (msgs i)` after a schedule, from any state of the process and of
Kafka. -/
def calls (msgs : ι → InboundMessage Payload) (w : World R Payload)
    (sched : List (Move ι (World.Outside Payload))) :
    Pool (Ingesting R Payload) PyError Unit (World R Payload) ι :=
  (Pool.start (fun i => processMessage py codecs cfg (msgs i)) w).exec World.exec
    (World.outside cfg) sched

variable (py codecs cfg) in
/-- Every call of a run keeps to it. -/
lemma guaranteesIn_calls (msgs : ι → InboundMessage Payload) (w : World R Payload)
    (sched : List (Move ι (World.Outside Payload))) :
    (calls py codecs cfg msgs w sched).GuaranteesIn (Possible World.exec)
      (fun i => Acking py codecs (msgs i)) (fun i => Settled (msgs i)) := by
  have hstart : (Pool.start (fun i => processMessage py codecs cfg (msgs i)) w).GuaranteesIn
      (Possible World.exec) (fun i => Acking py codecs (msgs i)) (fun i => Settled (msgs i)) :=
    Pool.guaranteesIn_start fun i => follows_processMessage
  exact hstart.exec (fun c s => ⟨s, rfl⟩) sched

/-- **Ingestion acknowledges exactly what is durable**: in every run of any number of calls, with
any replies of Kafka and any circuit breaker, a call acknowledges its message at most once, and
only if the topic is unrecognised or Kafka has acknowledged the event or the payload; it does not
both publish a message and reject it; it does not raise; and when it has returned, as it does if it
is scheduled often enough, all that is durable is acknowledged. -/
theorem acks_durable (msgs : ι → InboundMessage Payload) (w : World R Payload)
    (sched : List (Move ι (World.Outside Payload))) (i : ι) :
    let p := calls py codecs cfg msgs w sched
    let durable := Unrecognised (msgs i).topic ∨ EventAcknowledged py codecs (msgs i) (p.seen i)
      ∨ PayloadAcknowledged codecs (msgs i) (p.seen i)
    (p.seen i).countP acks ≤ 1
      ∧ ((p.seen i).any acks = true → durable)
      ∧ (∀ receipt r, ⟨.ack receipt, r⟩ ∈ p.seen i → receipt = (msgs i).receipt)
      ∧ ¬ ((p.seen i).any publishes = true ∧ (p.seen i).any rejects = true)
      ∧ (∀ exc, p.todo i ≠ .raise exc)
      ∧ (p.todo i = .ret () → durable → (p.seen i).any acks = true)
      ∧ ∃ n, (p.exec World.exec (World.outside cfg) (List.replicate n (.thread i))).todo i
          = .ret () := by
  have hpool := guaranteesIn_calls py codecs cfg msgs w sched
  have hlawful := (hpool i).1
  dsimp only
  rw [← durable_iff hlawful]
  refine ⟨count_acks_le hlawful, durable_of_acks hlawful, fun receipt r hr => ?_,
    not_publishes_and_rejects hlawful, fun exc h => ?_, fun h => (hpool.ended.1 () h).acked, ?_⟩
  · exact own_of_lawful hlawful _ hr
  · cases (hpool.ended.2 exc h).returns
  · obtain ⟨n, hn⟩ := Pool.exists_ended World.exec (World.outside cfg)
      (calls py codecs cfg msgs w sched) i
    refine ⟨n, ?_⟩
    have hended : ((calls py codecs cfg msgs w sched).exec World.exec (World.outside cfg)
        (List.replicate n (.thread i))).GuaranteesIn (Possible World.exec)
        (fun i => Acking py codecs (msgs i)) (fun i => Settled (msgs i)) :=
      hpool.exec (fun c s => ⟨s, rfl⟩) _
    cases htodo : ((calls py codecs cfg msgs w sched).exec World.exec (World.outside cfg)
        (List.replicate n (.thread i))).todo i with
    | ret u => rfl
    | raise exc => cases (hended.ended.2 exc htodo).returns
    | call c k =>
        rw [Pool.next, htodo] at hn
        cases hn

end Ingestion

end InduSense
