import InduSense.Ingestion.Main

/-!
What the calls of `_process_message` ask for, whatever they have asked for before.

* `Asks`: all requests of a program satisfy a condition; `Ordinary`: a condition that holds of what
  calls ask for.
* `asks_finishMessage`: the end of a message that is published, which rejects nothing.
* `asks_processMessage`: a whole call; `asks_telemetry`, `asks_machineEvent`: those for messages
  that are valid.
* `OnlyAsked`, `onlyAsked_exec`: what is on the topics was there before, or was asked for.
-/

namespace InduSense

namespace Ingestion

open Statement (Log Move Pool)
open Statement.Prog (FollowsIn Possible followsIn_issue followsIn_issue_bind)

variable {R Payload : Type}

/-- All requests of a program satisfy `Q`. -/
abbrev Asks (Q : Stmt R Payload → Prop) {α : Type} (p : Ingesting.Prog R Payload α)
    (l : Log (Ingesting R Payload) PyError) : Prop :=
  FollowsIn (Possible World.exec) (fun _ c => Q c) (fun _ _ => True) p l

/-- A condition on the requests of the call for `job` that holds of those that publish nothing and
reject nothing. -/
structure Ordinary (Q : Stmt R Payload → Prop) (job : InboundMessage Payload) : Prop where
  ack : Q (.ack job.receipt)
  utcNow : Q .utcNow
  uuid4 : Q .uuid4
  overhead : ∀ c, Overhead c → Q c
  transient : ∀ key record, record.errorType = .TRANSIENT_ERROR → Q (.produceDeadLetter key record)

/-- One that holds of all its requests. -/
structure Usual (Q : Stmt R Payload → Prop) (job : InboundMessage Payload) : Prop
    extends Ordinary Q job where
  invalid : ∀ key record, record.errorType = .VALIDATION_ERROR → Q (.produceDeadLetter key record)
  telemetry : ∀ receipt key evt, Q (.produceTelemetry receipt key evt)
  machineEvent : ∀ key evt, Q (.produceMachineEvent key evt)

variable {py : PyText R} {codecs : Codecs R Payload} {cfg : Config}
  {Q : Stmt R Payload → Prop} {job : InboundMessage Payload}
  {l : Log (Ingesting R Payload) PyError}

lemma asks_issue {c : Stmt R Payload} (hc : Q c) : Asks Q (Ingesting.issue c) l :=
  followsIn_issue hc fun _ _ => trivial

lemma asks_issue_bind {β : Type} {c : Stmt R Payload} {f : c.Answer → Ingesting.Prog R Payload β}
    (hc : Q c) (hf : ∀ a l', Asks Q (f a) l') : Asks Q ((Ingesting.issue c).bind f) l :=
  followsIn_issue_bind hc (fun a _ => hf a _) fun _ _ => trivial

/-- The dead-letter write. -/
lemma asks_deadLetter {rawPayload : String} {cause : PyError} {errorType : ErrorType}
    {stage correlationId sourceTopic : String} (hnow : Q .utcNow)
    (hrecord : ∀ key record, record.errorType = errorType → Q (.produceDeadLetter key record)) :
    Asks Q (deadLetter cfg rawPayload cause errorType stage correlationId sourceTopic) l := by
  refine asks_issue_bind hnow fun now l' => ?_
  refine (asks_issue (hrecord _ _ rfl)).attempt_bind fun l'' r _ => ?_
  cases r with
  | ok u => trivial
  | error exc => trivial

/-- The end of a message that is malformed or invalid. -/
lemma asks_rejectMessage (hQ : Usual Q job) {exc : PyError} {correlationId : String} :
    Asks Q (rejectMessage codecs cfg job exc correlationId) l := by
  refine (asks_deadLetter hQ.utcNow hQ.invalid).attempt_bind fun l' r _ => ?_
  cases r with
  | ok u => exact asks_issue hQ.ack
  | error exc => trivial

/-- The end of a message that is published. -/
lemma asks_finishMessage (hQ : Ordinary Q job) {fn : Ingesting.Prog R Payload Unit}
    {topic rawPayload correlationId sourceTopic : String} (hfn : ∀ l, Asks Q fn l) :
    Asks Q (finishMessage job (publish cfg topic fn rawPayload correlationId sourceTopic)) l := by
  have hwrite : FollowsIn (Possible World.exec) (fun _ c => Q c)
      (WriteEnds (fun _ => True) fun _ => True) (writeWithProtection cfg topic fn) l := by
    refine followsIn_writeWithProtection cfg (fun l c hc => hQ.overhead c hc)
      (fun _ _ _ _ => trivial) (fun _ _ _ => trivial)
      (fun l _ => (hfn l).mono fun l' r _ => ?_) trivial
    cases r <;> trivial
  have hpublish : Asks Q (publish cfg topic fn rawPayload correlationId sourceTopic) l := by
    refine hwrite.attempt_bind fun l' r _ => ?_
    cases r with
    | ok u => trivial
    | error exc => exact asks_deadLetter hQ.utcNow hQ.transient
  refine hpublish.attempt_bind fun l' r _ => ?_
  cases r with
  | ok u => exact asks_issue hQ.ack
  | error exc =>
      dsimp only
      split <;> trivial

lemma asks_handleTelemetry (hQ : Usual Q job) :
    Asks Q (handleTelemetry py codecs cfg job) l := by
  rw [handleTelemetry]
  cases codecs.telemetry job.payload with
  | error exc => exact asks_issue_bind hQ.uuid4 fun _ l' => asks_rejectMessage hQ
  | ok raw =>
      dsimp only
      cases validateTelemetry py raw with
      | error exc =>
          dsimp only
          split
          · exact asks_rejectMessage hQ
          · trivial
      | ok u =>
          refine asks_issue_bind hQ.utcNow fun now l' => ?_
          exact asks_finishMessage hQ.toOrdinary fun l => asks_issue (hQ.telemetry _ _ _)

lemma asks_handleMachineEvent (hQ : Usual Q job) :
    Asks Q (handleMachineEvent py codecs cfg job) l := by
  rw [handleMachineEvent]
  cases codecs.machineEvent job.payload with
  | error exc => exact asks_issue_bind hQ.uuid4 fun _ l' => asks_rejectMessage hQ
  | ok raw =>
      refine asks_issue_bind hQ.uuid4 fun correlationId l' => ?_
      cases validateMachineEvent py raw with
      | error exc =>
          dsimp only
          split
          · exact asks_rejectMessage hQ
          · trivial
      | ok u =>
          refine asks_issue_bind hQ.utcNow fun now l'' => ?_
          exact asks_finishMessage hQ.toOrdinary fun l => asks_issue (hQ.machineEvent _ _)

/-- **A whole call.** -/
lemma asks_processMessage (hQ : Usual Q job) : Asks Q (processMessage py codecs cfg job) l := by
  rw [processMessage]
  split
  · exact asks_handleTelemetry hQ
  · split
    · exact asks_handleMachineEvent hQ
    · split
      · exact asks_handleMachineEvent hQ
      · exact asks_issue hQ.ack

/-- The call for a reading that is valid. -/
lemma asks_telemetry (hQ : Ordinary Q job) {raw : TelemetryEvent R}
    (htopic : endsWith job.topic "/telemetry" = true)
    (hread : codecs.telemetry job.payload = .ok raw) (hvalid : validateTelemetry py raw = .ok ())
    (hsend : ∀ receipt now,
      Q (.produceTelemetry receipt raw.deviceId (normalizedTelemetry raw now))) :
    Asks Q (processMessage py codecs cfg job) l := by
  rw [processMessage, if_pos htopic, handleTelemetry, hread]
  dsimp only
  rw [hvalid]
  refine asks_issue_bind hQ.utcNow fun now l' => ?_
  exact asks_finishMessage hQ fun l => asks_issue (hsend _ now)

/-- The call for a status or an event that is valid. -/
lemma asks_machineEvent (hQ : Ordinary Q job) {raw : MachineEvent}
    (hnone : endsWith job.topic "/telemetry" = false)
    (htopic : endsWith job.topic "/status" = true ∨ endsWith job.topic "/events" = true)
    (hread : codecs.machineEvent job.payload = .ok raw)
    (hvalid : validateMachineEvent py raw = .ok ())
    (hsend : ∀ correlationId now,
      Q (.produceMachineEvent raw.deviceId (normalizedMachineEvent raw correlationId now))) :
    Asks Q (processMessage py codecs cfg job) l := by
  have hhandle : Asks Q (handleMachineEvent py codecs cfg job) l := by
    rw [handleMachineEvent, hread]
    refine asks_issue_bind hQ.uuid4 fun correlationId l' => ?_
    rw [hvalid]
    refine asks_issue_bind hQ.utcNow fun now l'' => ?_
    exact asks_finishMessage hQ fun l => asks_issue (hsend _ now)
  rw [processMessage, if_neg (Bool.eq_false_iff.mp hnone)]
  split
  · exact hhandle
  · rename_i hstatus
    rw [if_pos (htopic.resolve_left hstatus)]
    exact hhandle

/-! ### The topics -/

/-- What is on the topics was there before, or was asked for. -/
structure OnlyAsked (Q : Stmt R Payload → Prop) (w w' : World R Payload) : Prop where
  telemetryRaw : ∀ record ∈ w'.telemetryRaw,
    record ∈ w.telemetryRaw ∨ Q (.produceTelemetry record.1 record.2.1 record.2.2)
  deviceEvents : ∀ record ∈ w'.deviceEvents,
    record ∈ w.deviceEvents ∨ Q (.produceMachineEvent record.1 record.2)
  deadLetters : ∀ record ∈ w'.deadLetters,
    record ∈ w.deadLetters ∨ Q (.produceDeadLetter record.1 record.2)

lemma onlyAsked_refl (w : World R Payload) : OnlyAsked Q w w :=
  ⟨fun _ => .inl, fun _ => .inl, fun _ => .inl⟩

/-- A record that is added to a topic. -/
lemma mem_append_cases {α : Type} {reply : Statement.Reply PyError} {topic : List α}
    {record record' : α} (h : record' ∈ append reply topic record) :
    record' ∈ topic ∨ record' = record := by
  rw [append] at h
  split at h
  · simpa using h
  · exact .inl h

/-- One request. -/
lemma OnlyAsked.request {w w' : World R Payload} (h : OnlyAsked Q w w') {c : Stmt R Payload}
    (hc : Q c) : OnlyAsked Q w (World.exec c w').2 := by
  cases c with
  | jobsGet =>
      rw [World.exec]
      split <;> exact ⟨h.telemetryRaw, h.deviceEvents, h.deadLetters⟩
  | sleep delay =>
      rw [World.exec]
      split <;> exact h
  | produceTelemetry receipt key evt =>
      refine ⟨fun record hrecord => ?_, h.deviceEvents, h.deadLetters⟩
      rcases mem_append_cases hrecord with hold | rfl
      · exact h.telemetryRaw record hold
      · exact .inr hc
  | produceMachineEvent key evt =>
      refine ⟨h.telemetryRaw, fun record hrecord => ?_, h.deadLetters⟩
      rcases mem_append_cases hrecord with hold | rfl
      · exact h.deviceEvents record hold
      · exact .inr hc
  | produceDeadLetter key record =>
      refine ⟨h.telemetryRaw, h.deviceEvents, fun record' hrecord => ?_⟩
      rcases mem_append_cases hrecord with hold | rfl
      · exact h.deadLetters record' hold
      · exact .inr hc
  | _ => exact ⟨h.telemetryRaw, h.deviceEvents, h.deadLetters⟩

lemma OnlyAsked.outside {w w' : World R Payload} (h : OnlyAsked Q w w')
    (e : World.Outside Payload) : OnlyAsked Q w (World.outside cfg e w') := by
  cases e with
  | receive topic payload =>
      rw [World.outside]
      split <;> exact ⟨h.telemetryRaw, h.deviceEvents, h.deadLetters⟩
  | _ => exact ⟨h.telemetryRaw, h.deviceEvents, h.deadLetters⟩

/-- **What a run leaves on the topics**, of calls that ask for what satisfies `Q`. -/
lemma onlyAsked_exec {ι : Type} [DecidableEq ι] {programs : ι → Ingesting.Prog R Payload Unit}
    (hasks : ∀ i, Asks Q (programs i) []) (w : World R Payload)
    (sched : List (Move ι (World.Outside Payload))) :
    OnlyAsked Q w ((Pool.start programs w).exec World.exec (World.outside cfg) sched).store := by
  have hstep : ∀ (p : Pool (Ingesting R Payload) PyError Unit (World R Payload) ι)
      (m : Move ι (World.Outside Payload)),
      OnlyAsked Q w p.store
          ∧ p.GuaranteesIn (Possible World.exec) (fun _ _ c => Q c) (fun _ _ _ => True) →
        OnlyAsked Q w (p.step World.exec (World.outside cfg) m).store
          ∧ (p.step World.exec (World.outside cfg) m).GuaranteesIn (Possible World.exec)
              (fun _ _ c => Q c) (fun _ _ _ => True) := by
    intro p m ⟨hstore, hpool⟩
    refine ⟨?_, hpool.step (fun c s => ⟨s, rfl⟩) m⟩
    rcases Pool.step_cases World.exec (World.outside cfg) p m with
      ⟨e, -, hs⟩ | ⟨i, -, -, hs⟩ | ⟨i, c, k, -, -, hnext, hs⟩
    · rw [hs]
      exact hstore.outside e
    · rw [hs]
      exact hstore
    · rw [hs]
      exact hstore.request (hpool.next hnext)
  exact (Pool.exec_preserves hstep sched ⟨onlyAsked_refl w, Pool.guaranteesIn_start hasks⟩).1

end Ingestion

end InduSense
