import InduSense.Ingestion.Main

/-!
The order of the telemetry of a device.

* `held`: the message a worker has taken from the queue and has neither published nor
  dead-lettered; `Publishing`: a worker publishes the event it holds.
* `InTurn`: no other worker holds an earlier event of the device; `published_in_order`: under that
  condition the events of a device are published in the order in which they were received, as they
  always are by a single worker (`inTurn_of_subsingleton`).
* `overtaken`: two workers, two events of one device, and the second is published first.
-/

namespace InduSense

namespace Ingestion

open Statement (Entry Log Pool Move EachStep EachState eachState_of_eachStep)
open Statement.Prog (FollowsIn Possible followsIn_issue followsIn_issue_bind)

variable {R Payload : Type}

/-! ### The messages the workers hold -/

/-- What a worker holds after one more answer. -/
def takeNote (held : Option (InboundMessage Payload)) :
    Entry (Ingesting R Payload) PyError → Option (InboundMessage Payload)
  | ⟨.jobsGet, .ok job⟩ => job
  | ⟨.produceTelemetry _ _ _, .ok ()⟩ => none
  | ⟨.produceDeadLetter _ _, _⟩ => none
  | _ => held

/-- The message a worker has taken from the queue and has neither published nor dead-lettered. -/
def held (l : Log (Ingesting R Payload) PyError) : Option (InboundMessage Payload) :=
  l.foldl takeNote none

lemma held_concat (l : Log (Ingesting R Payload) PyError)
    (e : Entry (Ingesting R Payload) PyError) : held (l ++ [e]) = takeNote (held l) e := by
  rw [held, held, List.foldl_append]
  rfl

variable (py : PyText R) (codecs : Codecs R Payload) (cfg : Config)

/-- The device of a message that is a valid telemetry event. -/
def deviceOf (job : InboundMessage Payload) : Option String :=
  if endsWith job.topic "/telemetry" then
    match codecs.telemetry job.payload with
    | .error _ => none
    | .ok raw => if validateTelemetry py raw = .ok () then some raw.deviceId else none
  else none

/-- A worker sends to `telemetry.raw` the event it holds only. -/
def Publishing (l : Log (Ingesting R Payload) PyError) : Stmt R Payload → Prop
  | .produceTelemetry receipt _ evt =>
      ∃ job, held l = some job ∧ job.receipt = receipt ∧ deviceOf py codecs job = some evt.deviceId
  | _ => True

variable {py codecs cfg}

/-- A program that keeps to it, and what is done with its answer. -/
lemma publishing_bind {α β : Type} {p : Ingesting.Prog R Payload α}
    {f : α → Ingesting.Prog R Payload β} {l : Log (Ingesting R Payload) PyError}
    (hp : FollowsIn (Possible World.exec) (Publishing py codecs) (fun _ _ => True) p l)
    (hf : ∀ a l', FollowsIn (Possible World.exec) (Publishing py codecs) (fun _ _ => True)
      (f a) l') :
    FollowsIn (Possible World.exec) (Publishing py codecs) (fun _ _ => True) (p.bind f) l :=
  hp.bind (fun l' a _ => hf a l') fun _ _ _ => trivial

/-- One request that needs no history. -/
lemma publishing_issue {c : Stmt R Payload} {l : Log (Ingesting R Payload) PyError}
    (hc : ∀ l, Publishing py codecs l c) :
    FollowsIn (Possible World.exec) (Publishing py codecs) (fun _ _ => True)
      (Ingesting.issue c) l :=
  followsIn_issue (hc l) fun _ _ => trivial

/-- One request that needs no history, and what is done with its answer. -/
lemma publishing_issue_bind {β : Type} {c : Stmt R Payload}
    {f : c.Answer → Ingesting.Prog R Payload β} {l : Log (Ingesting R Payload) PyError}
    (hc : ∀ l, Publishing py codecs l c)
    (hf : ∀ a l', FollowsIn (Possible World.exec) (Publishing py codecs) (fun _ _ => True)
      (f a) l') :
    FollowsIn (Possible World.exec) (Publishing py codecs) (fun _ _ => True)
      ((Ingesting.issue c).bind f) l :=
  followsIn_issue_bind (hc l) (fun a _ => hf a _) fun _ _ => trivial

/-- The dead-letter write. -/
lemma publishing_deadLetter {rawPayload : String} {cause : PyError} {errorType : ErrorType}
    {stage correlationId sourceTopic : String} {l : Log (Ingesting R Payload) PyError} :
    FollowsIn (Possible World.exec) (Publishing py codecs) (fun _ _ => True)
      (deadLetter cfg rawPayload cause errorType stage correlationId sourceTopic) l := by
  refine publishing_issue_bind (fun _ => trivial) fun now l' => ?_
  refine (publishing_issue fun _ => by trivial).attempt_bind fun l'' r _ => ?_
  cases r with
  | ok u => trivial
  | error exc => trivial

/-- The end of a message that is malformed or invalid. -/
lemma publishing_reject {job : InboundMessage Payload} {exc : PyError} {correlationId : String}
    {l : Log (Ingesting R Payload) PyError} :
    FollowsIn (Possible World.exec) (Publishing py codecs) (fun _ _ => True)
      (rejectMessage codecs cfg job exc correlationId) l := by
  refine publishing_deadLetter.attempt_bind fun l' r _ => ?_
  cases r with
  | ok u => exact publishing_issue fun _ => trivial
  | error exc => trivial

/-- The end of a message that is published. -/
lemma publishing_finish {job : InboundMessage Payload} {published : Ingesting.Prog R Payload Unit}
    {l : Log (Ingesting R Payload) PyError}
    (h : FollowsIn (Possible World.exec) (Publishing py codecs) (fun _ _ => True) published l) :
    FollowsIn (Possible World.exec) (Publishing py codecs) (fun _ _ => True)
      (finishMessage job published) l := by
  refine h.attempt_bind fun l' r _ => ?_
  cases r with
  | ok u => exact publishing_issue fun _ => trivial
  | error exc =>
      dsimp only
      split <;> trivial

/-- A machine event goes elsewhere. -/
lemma publishing_handleMachineEvent {job : InboundMessage Payload}
    {l : Log (Ingesting R Payload) PyError} :
    FollowsIn (Possible World.exec) (Publishing py codecs) (fun _ _ => True)
      (handleMachineEvent py codecs cfg job) l := by
  rw [handleMachineEvent]
  cases codecs.machineEvent job.payload with
  | error exc => exact publishing_issue_bind (fun _ => trivial) fun _ l' => publishing_reject
  | ok raw =>
      refine publishing_issue_bind (fun _ => trivial) fun correlationId l' => ?_
      cases validateMachineEvent py raw with
      | error exc =>
          dsimp only
          split
          · exact publishing_reject
          · trivial
      | ok u =>
          refine publishing_issue_bind (fun _ => trivial) fun now l'' => publishing_finish ?_
          have hwrite : FollowsIn (Possible World.exec) (Publishing py codecs)
              (WriteEnds (fun _ => True) fun _ => True)
              (writeWithProtection cfg cfg.topicDeviceEvents (Ingesting.issue
                (.produceMachineEvent raw.deviceId (normalizedMachineEvent raw correlationId now))))
              l'' := by
            refine followsIn_writeWithProtection cfg (fun l c hc => ?_) (fun _ _ _ _ => trivial)
              (fun _ _ _ => trivial) (fun l _ => ?_) trivial
            · cases c <;> trivial
            · refine followsIn_issue (Q := Publishing py codecs) trivial fun r _ => ?_
              cases r with
              | ok u => trivial
              | error exc => trivial
          refine hwrite.attempt_bind fun l₃ r _ => ?_
          cases r with
          | ok u => trivial
          | error exc => exact publishing_deadLetter

/-- The publication of the event a worker holds. -/
lemma publishing_publish {job : InboundMessage Payload} {raw : TelemetryEvent R} {now : Time}
    (hdevice : deviceOf py codecs job = some raw.deviceId)
    {l : Log (Ingesting R Payload) PyError} (hl : held l = some job) :
    FollowsIn (Possible World.exec) (Publishing py codecs) (fun _ _ => True)
      (publishTelemetry cfg job.receipt raw.deviceId (normalizedTelemetry raw now)
        (codecs.text job.payload) job.topic) l := by
  have hwrite : FollowsIn (Possible World.exec) (Publishing py codecs)
      (WriteEnds (fun l => held l = some job) fun _ => True)
      (writeWithProtection cfg cfg.topicTelemetryRaw (Ingesting.issue
        (.produceTelemetry job.receipt raw.deviceId (normalizedTelemetry raw now)))) l := by
    refine followsIn_writeWithProtection cfg (fun l c hc => ?_) (fun l e he hl => ?_)
      (fun l r _ => trivial) (fun l hl => ?_) hl
    · cases c <;> trivial
    · obtain ⟨c, r⟩ := e
      rw [held_concat]
      cases c <;> first | exact hl | cases he
    · refine followsIn_issue (Q := Publishing py codecs) ⟨job, hl, rfl, hdevice⟩ fun r _ => ?_
      cases r with
      | ok u => trivial
      | error exc =>
          change held _ = _
          rw [held_concat]
          exact hl
  refine hwrite.attempt_bind fun l' r _ => ?_
  cases r with
  | ok u => trivial
  | error exc => exact publishing_deadLetter

/-- **A worker publishes the event it holds**, on one message. -/
lemma publishing_processMessage {job : InboundMessage Payload}
    {l : Log (Ingesting R Payload) PyError} (hl : held l = some job) :
    FollowsIn (Possible World.exec) (Publishing py codecs) (fun _ _ => True)
      (processMessage py codecs cfg job) l := by
  rw [processMessage]
  split
  · rename_i htopic
    rw [handleTelemetry]
    cases hparse : codecs.telemetry job.payload with
    | error exc => exact publishing_issue_bind (fun _ => trivial) fun _ l' => publishing_reject
    | ok raw =>
        dsimp only
        cases hvalid : validateTelemetry py raw with
        | error exc =>
            dsimp only
            split
            · exact publishing_reject
            · trivial
        | ok u =>
            have hdevice : deviceOf py codecs job = some raw.deviceId := by
              rw [deviceOf, if_pos htopic, hparse]
              exact if_pos hvalid
            refine followsIn_issue_bind trivial (fun now _ => ?_) fun _ _ => trivial
            refine publishing_finish (publishing_publish hdevice ?_)
            rw [held_concat]
            exact hl
  · split
    · exact publishing_handleMachineEvent
    · split
      · exact publishing_handleMachineEvent
      · exact publishing_issue fun _ => trivial

/-- The second loop of a worker. -/
lemma publishing_drain (n : ℕ) (l : Log (Ingesting R Payload) PyError) :
    FollowsIn (Possible World.exec) (Publishing py codecs) (fun _ _ => True)
      (drain py codecs cfg n) l := by
  induction n generalizing l with
  | zero => trivial
  | succ n ih =>
      refine followsIn_issue_bind trivial (fun job _ => ?_) fun _ _ => trivial
      cases job with
      | none => trivial
      | some job =>
          refine publishing_bind (publishing_processMessage ?_) fun _ l' => ih l'
          rw [held_concat]
          rfl

/-- **A worker publishes the event it holds.** -/
theorem publishing_worker (n : ℕ) (l : Log (Ingesting R Payload) PyError) :
    FollowsIn (Possible World.exec) (Publishing py codecs) (fun _ _ => True)
      (worker py codecs cfg n) l := by
  induction n generalizing l with
  | zero => trivial
  | succ n ih =>
      refine publishing_issue_bind (fun _ => trivial) fun down l' => ?_
      cases down with
      | true => exact publishing_drain n l'
      | false =>
          refine followsIn_issue_bind trivial (fun job _ => ?_) fun _ _ => trivial
          cases job with
          | none => exact ih _
          | some job =>
              refine publishing_bind (publishing_processMessage ?_) fun _ l'' => ih l''
              rw [held_concat]
              rfl

/-! ### What a step does -/

/-- The workers, side by side. -/
abbrev Workers (R Payload ι : Type) :=
  Pool (Ingesting R Payload) PyError Unit (World R Payload) ι

variable {ι : Type} [DecidableEq ι]

variable (py codecs) in
/-- Every worker publishes the events it holds. -/
abbrev Publish (p : Workers R Payload ι) : Prop :=
  p.GuaranteesIn (Possible World.exec) (fun _ => Publishing py codecs) fun _ _ _ => True

variable (cfg) in
/-- One move of the workers and of the world. -/
abbrev step (p : Workers R Payload ι) (m : Move ι (World.Outside Payload)) : Workers R Payload ι :=
  p.step World.exec (World.outside cfg) m

/-- A message is put into the queue. -/
structure Arrives (p p' : Workers R Payload ι) : Prop where
  queue : ∃ topic payload,
    p'.store.queue = p.store.queue ++ [⟨topic, payload, p.store.received⟩]
  received : p'.store.received = p.store.received + 1
  published : p'.store.telemetryRaw = p.store.telemetryRaw
  held : ∀ j, held (p'.seen j) = held (p.seen j)

/-- A worker takes the first message of the queue. -/
structure Takes (p p' : Workers R Payload ι) (i : ι) : Prop where
  queue : ∃ job, p.store.queue = job :: p'.store.queue ∧ held (p'.seen i) = some job
  received : p'.store.received = p.store.received
  published : p'.store.telemetryRaw = p.store.telemetryRaw
  others : ∀ j, j ≠ i → held (p'.seen j) = held (p.seen j)

/-- The queue stays as it is, and a worker may be done with its message. -/
structure Rests (p p' : Workers R Payload ι) : Prop where
  queue : p'.store.queue = p.store.queue
  received : p'.store.received = p.store.received
  held : ∀ j, held (p'.seen j) = held (p.seen j) ∨ held (p'.seen j) = none

/-- What becomes of the messages workers hold in a step of the worker `i`. -/
lemma held_update {p : Workers R Payload ι} {i : ι} {e : Entry (Ingesting R Payload) PyError}
    (he : takeNote (held (p.seen i)) e = held (p.seen i) ∨ takeNote (held (p.seen i)) e = none)
    (j : ι) :
    held (Function.update p.seen i (p.seen i ++ [e]) j) = held (p.seen j)
      ∨ held (Function.update p.seen i (p.seen i ++ [e]) j) = none := by
  by_cases hj : j = i
  · subst hj
    rw [Function.update_self, held_concat]
    exact he
  · rw [Function.update_of_ne hj]
    exact .inl rfl

/-- The step of the worker `i` publishes the event it holds. -/
structure Sends (p p' : Workers R Payload ι) (i : ι) (receipt : ℕ) (key : String)
    (evt : NormalizedTelemetryEvent R) : Prop where
  next : p.next i = some (.produceTelemetry receipt key evt)
  applied : p.store.telemetryReply.applied = true
  published : p'.store.telemetryRaw = p.store.telemetryRaw ++ [(receipt, key, evt)]

omit [DecidableEq ι] in
/-- The worker that sends an event holds it. -/
lemma Sends.publishing {p p' : Workers R Payload ι} {i : ι} {receipt : ℕ} {key : String}
    {evt : NormalizedTelemetryEvent R} (h : Sends p p' i receipt key evt)
    (hpool : Publish py codecs p) :
    ∃ job, held (p.seen i) = some job ∧ job.receipt = receipt
      ∧ deviceOf py codecs job = some evt.deviceId :=
  hpool.next h.next

variable (cfg) in
/-- All that a step can do to the queue, the topic and the messages the workers hold. -/
lemma step_workers (p : Workers R Payload ι) (m : Move ι (World.Outside Payload)) :
    Arrives p (step cfg p m) ∨ (∃ i, m = .thread i ∧ Takes p (step cfg p m) i)
      ∨ Rests p (step cfg p m)
        ∧ ((step cfg p m).store.telemetryRaw = p.store.telemetryRaw
          ∨ ∃ i receipt key evt, m = .thread i ∧ Sends p (step cfg p m) i receipt key evt) := by
  rcases Pool.step_cases World.exec (World.outside cfg) p m with
    ⟨e, rfl, hs⟩ | ⟨i, rfl, -, hs⟩ | ⟨i, c, k, rfl, -, hnext, hs⟩
  · rw [step, hs]
    cases e with
    | receive topic payload =>
        rw [World.outside]
        split
        · exact .inr (.inr ⟨⟨rfl, rfl, fun _ => .inl rfl⟩, .inl rfl⟩)
        · exact .inl ⟨⟨topic, payload, rfl⟩, rfl, rfl, fun _ => rfl⟩
    | elapse dt => exact .inr (.inr ⟨⟨rfl, rfl, fun _ => .inl rfl⟩, .inl rfl⟩)
    | replies t e d => exact .inr (.inr ⟨⟨rfl, rfl, fun _ => .inl rfl⟩, .inl rfl⟩)
    | shutdown => exact .inr (.inr ⟨⟨rfl, rfl, fun _ => .inl rfl⟩, .inl rfl⟩)
  · rw [step, hs]
    exact .inr (.inr ⟨⟨rfl, rfl, fun _ => .inl rfl⟩, .inl rfl⟩)
  · rw [step, hs]
    cases c with
    | jobsGet =>
        cases hqueue : p.store.queue with
        | nil =>
            rw [World.exec, hqueue]
            exact .inr (.inr ⟨⟨hqueue.symm ▸ rfl, rfl, held_update (.inr rfl)⟩, .inl rfl⟩)
        | cons job queue =>
            rw [World.exec, hqueue]
            refine .inr (.inl ⟨i, rfl, ⟨job, hqueue, ?_⟩, rfl, rfl, fun j hj => ?_⟩)
            · dsimp only
              rw [Function.update_self, held_concat]
              rfl
            · dsimp only
              rw [Function.update_of_ne hj]
    | produceTelemetry receipt key evt =>
        refine .inr (.inr ⟨⟨rfl, rfl, held_update ?_⟩, ?_⟩)
        · rw [World.exec]
          cases answerOf p.store.telemetryReply with
          | ok u => exact .inr rfl
          | error exc => exact .inl rfl
        · cases happlied : p.store.telemetryReply.applied with
          | true =>
              refine .inr ⟨i, receipt, key, evt, rfl, hnext, happlied, ?_⟩
              simp [World.exec, append, happlied]
          | false => exact .inl (by simp [World.exec, append, happlied])
    | produceDeadLetter key record =>
        exact .inr (.inr ⟨⟨rfl, rfl, held_update (.inr rfl)⟩, .inl rfl⟩)
    | sleep delay =>
        rw [World.exec]
        split <;> exact .inr (.inr ⟨⟨rfl, rfl, held_update (.inl rfl)⟩, .inl rfl⟩)
    | _ => exact .inr (.inr ⟨⟨rfl, rfl, held_update (.inl rfl)⟩, .inl rfl⟩)

/-! ### Receipts -/

/-- The receipt is older than those of the messages in the queue. -/
def HasLeft (p : Workers R Payload ι) (receipt : ℕ) : Prop :=
  receipt < p.store.received ∧ ∀ job ∈ p.store.queue, receipt < job.receipt

/-- The queue holds the messages in the order in which they were received; those that workers
hold, or have published, are older. -/
structure Received (p : Workers R Payload ι) : Prop where
  queue : p.store.queue.Pairwise fun a b => a.receipt < b.receipt
  arrived : ∀ job ∈ p.store.queue, job.receipt < p.store.received
  held : ∀ i job, held (p.seen i) = some job → HasLeft p job.receipt
  published : ∀ x ∈ p.store.telemetryRaw, HasLeft p x.1

/-- A message that has left the queue has left it for good. -/
lemma HasLeft.step {p : Workers R Payload ι} {receipt : ℕ} (h : HasLeft p receipt)
    (m : Move ι (World.Outside Payload)) : HasLeft (step cfg p m) receipt := by
  obtain ⟨hreceived, hqueue⟩ := h
  rcases step_workers cfg p m with h | ⟨i, -, h⟩ | ⟨h, -⟩
  · obtain ⟨topic, payload, hq⟩ := h.queue
    refine ⟨by rw [h.received]; omega, fun job hjob => ?_⟩
    rw [hq] at hjob
    rcases List.mem_append.mp hjob with hjob | hjob
    · exact hqueue job hjob
    · rw [List.mem_singleton] at hjob
      rw [hjob]
      exact hreceived
  · obtain ⟨job, hq, -⟩ := h.queue
    refine ⟨by rw [h.received]; exact hreceived, fun job' hjob' => hqueue job' ?_⟩
    rw [hq]
    exact List.mem_cons_of_mem _ hjob'
  · refine ⟨by rw [h.received]; exact hreceived, fun job hjob => hqueue job ?_⟩
    rwa [h.queue] at hjob

/-- What workers hold and have published after a step is what they did before, or has just left the
queue. -/
lemma Received.step {p : Workers R Payload ι} (h : Received p) (hpool : Publish py codecs p)
    (m : Move ι (World.Outside Payload)) : Received (step cfg p m) := by
  have hleft : ∀ {receipt}, HasLeft p receipt → HasLeft (Ingestion.step cfg p m) receipt :=
    fun hr => hr.step m
  rcases step_workers cfg p m with hs | ⟨i, -, hs⟩ | ⟨hs, hraw⟩
  · obtain ⟨topic, payload, hq⟩ := hs.queue
    refine ⟨?_, fun job hjob => ?_, fun i job hjob => ?_, fun x hx => ?_⟩
    · rw [hq, List.pairwise_append]
      refine ⟨h.queue, List.pairwise_singleton _ _, fun a ha b hb => ?_⟩
      rw [List.mem_singleton] at hb
      rw [hb]
      exact h.arrived a ha
    · rw [hs.received]
      rw [hq] at hjob
      rcases List.mem_append.mp hjob with hjob | hjob
      · exact Nat.lt_succ_of_lt (h.arrived job hjob)
      · rw [List.mem_singleton] at hjob
        rw [hjob]
        exact Nat.lt_succ_self _
    · rw [hs.held] at hjob
      exact hleft (h.held i job hjob)
    · rw [hs.published] at hx
      exact hleft (h.published x hx)
  · obtain ⟨job, hq, hjob⟩ := hs.queue
    have hsorted := h.queue
    rw [hq, List.pairwise_cons] at hsorted
    have harrived := h.arrived
    rw [hq] at harrived
    refine ⟨hsorted.2, fun job' hjob' => ?_, fun j job' hjob' => ?_, fun x hx => ?_⟩
    · rw [hs.received]
      exact harrived job' (List.mem_cons_of_mem _ hjob')
    · by_cases hj : j = i
      · subst hj
        rw [hjob, Option.some.injEq] at hjob'
        subst hjob'
        exact ⟨hs.received ▸ harrived job List.mem_cons_self, hsorted.1⟩
      · rw [hs.others j hj] at hjob'
        exact hleft (h.held j job' hjob')
    · rw [hs.published] at hx
      exact hleft (h.published x hx)
  · refine ⟨hs.queue ▸ h.queue, fun job hjob => ?_, fun j job hjob => ?_, fun x hx => ?_⟩
    · rw [hs.received]
      rw [hs.queue] at hjob
      exact h.arrived job hjob
    · rcases hs.held j with hheld | hheld
      · rw [hheld] at hjob
        exact hleft (h.held j job hjob)
      · rw [hheld] at hjob
        cases hjob
    · rcases hraw with hraw | ⟨i, receipt, key, evt, -, hsend⟩
      · rw [hraw] at hx
        exact hleft (h.published x hx)
      · rw [hsend.published] at hx
        rcases List.mem_append.mp hx with hx | hx
        · exact hleft (h.published x hx)
        · rw [List.mem_singleton] at hx
          obtain ⟨job, hjob, hreceipt, -⟩ := hsend.publishing hpool
          rw [hx]
          dsimp only
          rw [← hreceipt]
          exact hleft (h.held i job hjob)

/-! ### The order on the topic -/

/-- The events of each device are on the topic in the order in which they were received. -/
def InOrder (topic : List (ℕ × String × NormalizedTelemetryEvent R)) : Prop :=
  topic.Pairwise fun a b => a.2.2.deviceId = b.2.2.deviceId → a.1 ≤ b.1

instance (topic : List (ℕ × String × NormalizedTelemetryEvent R)) : Decidable (InOrder topic) :=
  inferInstanceAs (Decidable (List.Pairwise _ _))

/-- The event that the next request of a worker publishes, with the receipt of its message. -/
def sending (p : Workers R Payload ι) (i : ι) : Option (ℕ × NormalizedTelemetryEvent R) :=
  match p.next i with
  | some (.produceTelemetry receipt _ evt) =>
      if p.store.telemetryReply.applied then some (receipt, evt) else none
  | _ => none

omit [DecidableEq ι] in
lemma Sends.sending {p p' : Workers R Payload ι} {i : ι} {receipt : ℕ} {key : String}
    {evt : NormalizedTelemetryEvent R} (h : Sends p p' i receipt key evt) :
    sending p i = some (receipt, evt) := by
  rw [Ingestion.sending, h.next]
  exact if_pos h.applied

variable (py codecs) in
/-- When the event of a device is published, no other worker holds one of the same device that was
received earlier. -/
def InTurn (p : Workers R Payload ι) : Move ι (World.Outside Payload) → Prop
  | .outside _ => True
  | .thread i => ∀ x ∈ sending p i, ∀ j, j ≠ i → ∀ job ∈ held (p.seen j),
      deviceOf py codecs job = some x.2.deviceId → x.1 ≤ job.receipt

instance [Fintype ι] (p : Workers R Payload ι) :
    ∀ m : Move ι (World.Outside Payload), Decidable (InTurn py codecs p m)
  | .outside _ => isTrue trivial
  | .thread i => inferInstanceAs (Decidable (∀ x ∈ sending p i, ∀ j, j ≠ i →
      ∀ job ∈ held (p.seen j), deviceOf py codecs job = some x.2.deviceId → x.1 ≤ job.receipt))

variable (py codecs) in
/-- Nothing on the topic was received after a message of the same device that a worker holds. -/
def NoneOvertaken (p : Workers R Payload ι) : Prop :=
  ∀ x ∈ p.store.telemetryRaw, ∀ i job, held (p.seen i) = some job →
    deviceOf py codecs job = some x.2.2.deviceId → x.1 ≤ job.receipt

omit [DecidableEq ι] in
/-- What is on the topic is older than what a worker takes from the queue; the messages that are
held already were not overtaken. -/
lemma NoneOvertaken.of_held {p p' : Workers R Payload ι} (h : NoneOvertaken py codecs p)
    (hraw : p'.store.telemetryRaw = p.store.telemetryRaw)
    (hheld : ∀ j job, held (p'.seen j) = some job → held (p.seen j) = some job
      ∨ ∀ x ∈ p.store.telemetryRaw, x.1 < job.receipt) : NoneOvertaken py codecs p' := by
  intro x hx j job hjob hdevice
  rw [hraw] at hx
  rcases hheld j job hjob with hold | hnew
  · exact h x hx j job hold hdevice
  · exact le_of_lt (hnew x hx)

/-- A step that publishes in turn, if it publishes, overtakes nobody and keeps the order. -/
lemma inOrder_step {p : Workers R Payload ι} (hpool : Publish py codecs p) (hr : Received p)
    {m : Move ι (World.Outside Payload)}
    (h : InOrder p.store.telemetryRaw ∧ NoneOvertaken py codecs p) (hC : InTurn py codecs p m) :
    InOrder (step cfg p m).store.telemetryRaw ∧ NoneOvertaken py codecs (step cfg p m) := by
  obtain ⟨horder, hnone⟩ := h
  rcases step_workers cfg p m with hs | ⟨i, -, hs⟩ | ⟨hs, hraw | ⟨i, receipt, key, evt, rfl, hsend⟩⟩
  · refine ⟨by rwa [hs.published], hnone.of_held hs.published fun j job hjob => .inl ?_⟩
    rwa [hs.held] at hjob
  · obtain ⟨head, hq, hhead⟩ := hs.queue
    refine ⟨by rwa [hs.published], hnone.of_held hs.published fun j job hjob => ?_⟩
    by_cases hj : j = i
    · subst hj
      rw [hhead, Option.some.injEq] at hjob
      subst hjob
      exact .inr fun x hx => (hr.published x hx).2 _ (hq ▸ List.mem_cons_self)
    · rw [hs.others j hj] at hjob
      exact .inl hjob
  · refine ⟨by rwa [hraw], hnone.of_held hraw fun j job hjob => .inl ?_⟩
    rcases hs.held j with hheld | hheld
    · rwa [hheld] at hjob
    · rw [hheld] at hjob
      cases hjob
  · obtain ⟨job, hjob, hreceipt, hdevice⟩ := hsend.publishing hpool
    refine ⟨?_, ?_⟩
    · rw [hsend.published, InOrder, List.pairwise_append]
      refine ⟨horder, List.pairwise_singleton _ _, fun a ha b hb hab => ?_⟩
      rw [List.mem_singleton] at hb
      rw [hb] at hab ⊢
      rw [← hreceipt]
      exact hnone a ha i job hjob (hdevice.trans (congrArg some hab.symm))
    · intro x hx j job' hjob' hdevice'
      have hbefore : held (p.seen j) = some job' := by
        rcases hs.held j with hheld | hheld
        · rwa [hheld] at hjob'
        · rw [hheld] at hjob'
          cases hjob'
      rw [hsend.published] at hx
      rcases List.mem_append.mp hx with hx | hx
      · exact hnone x hx j job' hbefore hdevice'
      · rw [List.mem_singleton] at hx
        rw [hx] at hdevice' ⊢
        by_cases hj : j = i
        · subst hj
          rw [hjob, Option.some.injEq] at hbefore
          rw [← hbefore, hreceipt]
        · exact hC (receipt, evt) hsend.sending j hj job' hbefore hdevice'

variable (py codecs cfg) in
/-- The workers of a process that has just started. -/
def workers (rounds : ι → ℕ) : Workers R Payload ι :=
  Pool.start (fun i => worker py codecs cfg (rounds i)) (World.init cfg)

omit [DecidableEq ι] in
lemma publish_workers (rounds : ι → ℕ) : Publish py codecs (workers py codecs cfg rounds) :=
  Pool.guaranteesIn_start fun i => publishing_worker (rounds i) []

omit [DecidableEq ι] in
lemma received_workers (rounds : ι → ℕ) : Received (workers py codecs cfg rounds) where
  queue := List.Pairwise.nil
  arrived := fun _ h => by cases h
  held := fun _ _ h => by cases h
  published := fun _ h => by cases h

/-- **Per-device ordering**: in every run of any number of workers in which each event is published
in its turn, the events of each device are on `telemetry.raw` in the order in which they were
received, in every state on the way. -/
theorem published_in_order (rounds : ι → ℕ) (sched : List (Move ι (World.Outside Payload)))
    (h : EachStep (step cfg) (InTurn py codecs) sched (workers py codecs cfg rounds)) :
    EachState (step cfg) (fun p => InOrder p.store.telemetryRaw) sched
      (workers py codecs cfg rounds) := by
  refine EachState.mono (I := fun p => InOrder p.store.telemetryRaw ∧ NoneOvertaken py codecs p)
    (fun _ hI => hI.1) ?_
  refine eachState_of_eachStep (J := fun p => Publish py codecs p ∧ Received p)
    (fun p m hJ => ⟨hJ.1.step (fun c w => ⟨w, rfl⟩) m, hJ.2.step hJ.1 m⟩)
    (fun p m hJ hI hC => inOrder_step hJ.1 hJ.2 hI hC)
    ⟨publish_workers rounds, received_workers rounds⟩ ⟨List.Pairwise.nil, ?_⟩ h
  exact fun x hx => by cases hx

/-- A single worker publishes in turn whatever happens. -/
theorem inTurn_of_subsingleton [Subsingleton ι] (sched : List (Move ι (World.Outside Payload)))
    (p : Workers R Payload ι) : EachStep (step cfg) (InTurn py codecs) sched p := by
  induction sched generalizing p with
  | nil => trivial
  | cons m ms ih =>
      refine ⟨?_, ih _⟩
      cases m with
      | outside e => trivial
      | thread i => exact fun _ _ j hj => absurd (Subsingleton.elim j i) hj

/-! ### A worker is overtaken -/

/-- A reading of one device. -/
def reading (sequenceNumber : ℤ) : TelemetryEvent ℤ where
  eventId := "8d2c1f6e-0a4b-4c3d-9e8f-1a2b3c4d5e6f"
  organizationId := "11111111-1111-1111-1111-111111111111"
  factoryId := "22222222-2222-2222-2222-222222222222"
  productionLineId := "33333333-3333-3333-3333-333333333333"
  machineId := "44444444-4444-4444-4444-444444444444"
  deviceId := "55555555-5555-5555-5555-555555555555"
  sensorId := "66666666-6666-6666-6666-666666666666"
  timestamp := some ⟨63902000000000000, some 0⟩
  sequenceNumber
  metric := "temperature"
  value := 71
  unit := "C"

/-- Texts that are all well-formed, and readings that are all finite. -/
def plainText : PyText ℤ := ⟨fun _ => .ok (), fun s => "'" ++ s ++ "'", fun _ => false,
  fun _ => false, fun _ => "71.0"⟩

/-- Payloads that are telemetry events. -/
def plainCodecs : Codecs ℤ (TelemetryEvent ℤ) where
  telemetry := .ok
  machineEvent := fun _ => .error ⟨.valueError, "not a machine event"⟩
  text := fun _ => "event"

/-- Two events of one device arrive, and two workers take one each. -/
def twoArrive : List (Move Bool (World.Outside (TelemetryEvent ℤ))) :=
  [.outside (.receive "factory/f/machine/m/sensor/s/telemetry" (reading 1)),
    .outside (.receive "factory/f/machine/m/sensor/s/telemetry" (reading 2)),
    .thread false, .thread false, .thread true, .thread true]

/-- The second worker publishes before the first. -/
def overtaking : List (Move Bool (World.Outside (TelemetryEvent ℤ))) :=
  twoArrive ++ [.thread true, .thread true, .thread true, .thread false, .thread false,
    .thread false]

/-- The first worker publishes before the second. -/
def inTurn : List (Move Bool (World.Outside (TelemetryEvent ℤ))) :=
  twoArrive ++ [.thread false, .thread false, .thread false, .thread true, .thread true,
    .thread true]

/-- Each in its turn, both events are published in the order in which they were received. -/
theorem published_in_order_inTurn :
    EachState (step {}) (fun p => InOrder p.store.telemetryRaw) inTurn
        (workers plainText plainCodecs {} fun _ => 2)
      ∧ (inTurn.foldl (step {})
          (workers plainText plainCodecs {} fun _ => 2)).store.telemetryRaw.map Prod.fst = [0, 1] :=
  ⟨published_in_order _ _ (by decide +kernel), by decide +kernel⟩

/-- **An event overtakes an earlier one of its device.** -/
theorem overtaken :
    ¬ ∀ sched : List (Move Bool (World.Outside (TelemetryEvent ℤ))),
      EachState (step {}) (fun p => InOrder p.store.telemetryRaw) sched
        (workers plainText plainCodecs {} fun _ => 2) := by
  intro h
  have hlast := (h overtaking).last
  revert hlast
  decide +kernel

end Ingestion

end InduSense
