import InduSense.Ingestion.Acks
import InduSense.Ingestion.Requests
import InduSense.Ingestion.Ordering

/-!
At-least-once delivery: the MQTT session of `mqtt_client.py` under crashes of the process.

* `Session`: the broker's side of a persistent session (what it has yet to send, what it has sent
  and not seen acknowledged, by packet id) and the worker threads of the process; `Session.step`:
  a publication, a delivery, a redelivery, a step of a worker, a restart of the process.
* `inHand`: the message a worker is busy with and what it has asked for since it took it;
  `tending_worker`: in every life of the process it follows the guarantee of one call.
* `Kept`: what Kafka holds of a message; `Sound`, `sound_step`: the invariant.
* `at_least_once`: under `FreshId` no message is lost in any run, crashes included.
-/

namespace InduSense

namespace Ingestion

open Statement (Entry Log Pool Move EachStep EachState eachState_of_eachStep)
open Statement.Prog (FollowsIn Possible followsIn_issue followsIn_issue_bind)

variable {R Payload : Type}

/-! ### The message a worker is busy with -/

/-- A request made while a message is processed. -/
def Handling : Stmt R Payload → Prop
  | .jobsGet => False
  | .shutdownIsSet => False
  | _ => True

/-- What a worker is busy with after one more answer. -/
def noteHand (hand : Option (InboundMessage Payload × Log (Ingesting R Payload) PyError))
    (e : Entry (Ingesting R Payload) PyError) :
    Option (InboundMessage Payload × Log (Ingesting R Payload) PyError) :=
  match e with
  | ⟨.jobsGet, .ok (some job)⟩ => some (job, [])
  | ⟨.jobsGet, _⟩ => none
  | ⟨.shutdownIsSet, _⟩ => none
  | e => hand.map fun busy => (busy.1, busy.2 ++ [e])

/-- The message a worker has taken and what it has asked for since, until it looks for another. -/
def inHand (l : Log (Ingesting R Payload) PyError) :
    Option (InboundMessage Payload × Log (Ingesting R Payload) PyError) :=
  l.foldl noteHand none

lemma inHand_concat (l : Log (Ingesting R Payload) PyError)
    (e : Entry (Ingesting R Payload) PyError) : inHand (l ++ [e]) = noteHand (inHand l) e := by
  rw [inHand, inHand, List.foldl_append]
  rfl

/-- A request made for the message in hand. -/
lemma noteHand_of_handling {c : Stmt R Payload} (hc : Handling c)
    (hand : Option (InboundMessage Payload × Log (Ingesting R Payload) PyError))
    (r : Except PyError c.Answer) :
    noteHand hand ⟨c, r⟩ = hand.map fun busy => (busy.1, busy.2 ++ [⟨c, r⟩]) := by
  cases c <;> first | rfl | cases hc

variable (py : PyText R) (codecs : Codecs R Payload) (cfg : Config)

/-- What a worker asks for while it processes a message is what one call of `_process_message` asks
for. -/
def Tending (l : Log (Ingesting R Payload) PyError) (c : Stmt R Payload) : Prop :=
  Handling c → ∃ job t, inHand l = some (job, t) ∧ Acking py codecs job t c

variable {py codecs cfg}

/-- A call asks for no other message. -/
lemma handles_processMessage {job : InboundMessage Payload}
    {l : Log (Ingesting R Payload) PyError} :
    Asks Handling (processMessage py codecs cfg job) l := by
  refine asks_processMessage ⟨⟨trivial, trivial, trivial, fun c hc => ?_, fun _ _ _ => trivial⟩,
    fun _ _ _ => trivial, fun _ _ _ => trivial, fun _ _ => trivial⟩
  cases c <;> trivial

/-! ### What a worker does in every life of the process -/

/-- One message, for the worker that has just taken it. -/
lemma tending_processMessage {job : InboundMessage Payload}
    {l : Log (Ingesting R Payload) PyError} (hl : inHand l = some (job, [])) :
    FollowsIn (Possible World.exec) (Tending py codecs) (fun _ _ => True)
      (processMessage py codecs cfg job) l := by
  refine FollowsIn.transport (T := fun t l => inHand l = some (job, t))
    (fun t l c hrel _ hc _ => ⟨job, t, hrel, hc⟩) (fun t l c r hrel hc => ?_)
    (fun _ _ _ _ _ => trivial) hl handles_processMessage follows_processMessage
  rw [inHand_concat, noteHand_of_handling hc, hrel]
  rfl

lemma tending_drain (n : ℕ) (l : Log (Ingesting R Payload) PyError) :
    FollowsIn (Possible World.exec) (Tending py codecs) (fun _ _ => True)
      (drain py codecs cfg n) l := by
  induction n generalizing l with
  | zero => trivial
  | succ n ih =>
      refine followsIn_issue_bind (fun h => by cases h) (fun job _ => ?_) fun _ _ => trivial
      cases job with
      | none => trivial
      | some job =>
          refine (tending_processMessage ?_).bind (fun l' _ _ => ih l') fun _ _ _ => trivial
          rw [inHand_concat]
          rfl

/-- **A worker does for each message it takes what one call does**, from whatever it has done
before. -/
lemma tending_worker (n : ℕ) (l : Log (Ingesting R Payload) PyError) :
    FollowsIn (Possible World.exec) (Tending py codecs) (fun _ _ => True)
      (worker py codecs cfg n) l := by
  induction n generalizing l with
  | zero => trivial
  | succ n ih =>
      refine followsIn_issue_bind (fun h => by cases h) (fun down _ => ?_) fun _ _ => trivial
      cases down with
      | true => exact tending_drain n _
      | false =>
          refine followsIn_issue_bind (fun h => by cases h) (fun job _ => ?_) fun _ _ => trivial
          cases job with
          | none => exact ih _
          | some job =>
              refine (tending_processMessage ?_).bind (fun l' _ _ => ih l') fun _ _ _ => trivial
              rw [inHand_concat]
              rfl

/-! ### The session -/

/-- The broker's side of the persistent session of the client, and the workers of the process.  A
message is its topic and its payload. -/
structure Session (R Payload ι : Type) where
  /-- What has been published on the topics of the subscriptions. -/
  published : List (String × Payload)
  /-- What the broker has yet to send. -/
  pending : List (String × Payload)
  /-- What the broker has sent and not seen acknowledged, with its packet id. -/
  inFlight : List (ℕ × String × Payload)
  /-- `msg.mid` of each message the process has put into the queue, by receipt. -/
  mids : List ℕ
  workers : Workers R Payload ι

/-- One move: of a publisher, of the broker, of the process or of what is around it.  An
acknowledgement is not heard while the connection is down. -/
inductive SessionMove (Payload ι : Type) where
  | publish (topic : String) (payload : Payload)
  | deliver (mid : ℕ)
  | redeliver (mid : ℕ)
  | worker (i : ι) (heard : Bool)
  | elapse (dt : ℕ)
  | replies (telemetry events deadLetter : Statement.Reply PyError)
  | shutdown
  | restart (rounds : ι → ℕ)

/-- A process that has just started, where Kafka and the clock go on. -/
def World.restart (cfg : Config) (w : World R Payload) : World R Payload :=
  { (World.init cfg : World R Payload) with
    now := w.now
    telemetryReply := w.telemetryReply
    eventsReply := w.eventsReply
    deadLetterReply := w.deadLetterReply
    telemetryRaw := w.telemetryRaw
    deviceEvents := w.deviceEvents
    deadLetters := w.deadLetters
    nextUuid := w.nextUuid }

namespace Session

variable {ι : Type} [DecidableEq ι]

variable (py codecs cfg)

/-- The handler of `_subscribe` is called with a message. -/
def arrive (s : Session R Payload ι) (mid : ℕ) (msg : String × Payload) : Session R Payload ι :=
  let workers := Ingestion.step cfg s.workers (.outside (.receive msg.1 msg.2))
  { s with
    mids := if workers.store.received = s.workers.store.received then s.mids else s.mids ++ [mid]
    workers }

/-- The broker sees the acknowledgement `c.ack(msg.mid, msg.qos)` of a message of the queue. -/
def puback (s : Session R Payload ι) (receipt : ℕ) : List (ℕ × String × Payload) :=
  match s.mids[receipt]? with
  | none => s.inFlight
  | some mid => s.inFlight.filter fun sent => sent.1 ≠ mid

/-- The session after a move.  The broker sends what is pending in order, under a packet id that is
not in use, and may send again what is not acknowledged; a restart loses what is in the process. -/
def step (s : Session R Payload ι) : SessionMove Payload ι → Session R Payload ι
  | .publish topic payload =>
      { s with
        published := s.published ++ [(topic, payload)]
        pending := s.pending ++ [(topic, payload)] }
  | .deliver mid =>
      match s.pending with
      | [] => s
      | msg :: pending =>
          if s.inFlight.any fun sent => sent.1 = mid then s
          else arrive cfg { s with pending, inFlight := s.inFlight ++ [(mid, msg)] } mid msg
  | .redeliver mid =>
      match s.inFlight.find? fun sent => sent.1 = mid with
      | none => s
      | some sent => arrive cfg s mid sent.2
  | .worker i heard =>
      { s with
        inFlight :=
          match s.workers.next i with
          | some (.ack receipt) => if heard then s.puback receipt else s.inFlight
          | _ => s.inFlight
        workers := Ingestion.step cfg s.workers (.thread i) }
  | .elapse dt => { s with workers := Ingestion.step cfg s.workers (.outside (.elapse dt)) }
  | .replies telemetry events deadLetter =>
      { s with
        workers := Ingestion.step cfg s.workers (.outside (.replies telemetry events deadLetter)) }
  | .shutdown => { s with workers := Ingestion.step cfg s.workers (.outside .shutdown) }
  | .restart rounds =>
      { s with
        mids := []
        workers := Pool.start (fun i => worker py codecs cfg (rounds i))
          (s.workers.store.restart cfg) }

/-- Nothing is published yet, and the process has just started. -/
def start (rounds : ι → ℕ) : Session R Payload ι :=
  ⟨[], [], [], [], Ingestion.workers py codecs cfg rounds⟩

end Session

/-! ### What Kafka holds of a message -/

variable (py codecs) in
/-- Kafka holds the event of a message, normalized, on its main topic, or its payload on the
dead-letter topic; a message on a topic of no known kind need not be held. -/
def Kept (msg : String × Payload) (w : World R Payload) : Prop :=
  Unrecognised msg.1
    ∨ (endsWith msg.1 "/telemetry" = true ∧ ∃ raw now receipt, codecs.telemetry msg.2 = .ok raw
        ∧ validateTelemetry py raw = .ok ()
        ∧ (receipt, raw.deviceId, normalizedTelemetry raw now) ∈ w.telemetryRaw)
    ∨ ((endsWith msg.1 "/status" = true ∨ endsWith msg.1 "/events" = true)
        ∧ ∃ raw correlationId now, codecs.machineEvent msg.2 = .ok raw
          ∧ validateMachineEvent py raw = .ok ()
          ∧ (raw.deviceId, normalizedMachineEvent raw correlationId now) ∈ w.deviceEvents)
    ∨ ∃ key record, record.originalPayload = codecs.text msg.2 ∧ record.sourceTopic = msg.1
        ∧ (key, record) ∈ w.deadLetters

/-- The topics only grow. -/
structure Grows (w w' : World R Payload) : Prop where
  telemetryRaw : w.telemetryRaw ⊆ w'.telemetryRaw
  deviceEvents : w.deviceEvents ⊆ w'.deviceEvents
  deadLetters : w.deadLetters ⊆ w'.deadLetters

lemma Grows.refl (w : World R Payload) : Grows w w :=
  ⟨List.Subset.refl _, List.Subset.refl _, List.Subset.refl _⟩

/-- What Kafka holds it holds for good. -/
lemma Kept.mono {msg : String × Payload} {w w' : World R Payload} (h : Kept py codecs msg w)
    (hw : Grows w w') : Kept py codecs msg w' := by
  rcases h with h | ⟨htopic, raw, now, receipt, hparse, hvalid, hmem⟩ |
    ⟨htopic, raw, correlationId, now, hparse, hvalid, hmem⟩ | ⟨key, record, hpay, hsource, hmem⟩
  · exact .inl h
  · exact .inr (.inl ⟨htopic, raw, now, receipt, hparse, hvalid, hw.telemetryRaw hmem⟩)
  · exact .inr (.inr (.inl ⟨htopic, raw, correlationId, now, hparse, hvalid,
      hw.deviceEvents hmem⟩))
  · exact .inr (.inr (.inr ⟨key, record, hpay, hsource, hw.deadLetters hmem⟩))

lemma subset_append {α : Type} (reply : Statement.Reply PyError) (topic : List α) (record : α) :
    topic ⊆ append reply topic record := by
  rw [append]
  split
  · exact List.subset_append_left _ _
  · exact List.Subset.refl _

/-- No request removes a record. -/
lemma grows_exec (c : Stmt R Payload) (w : World R Payload) : Grows w (World.exec c w).2 := by
  cases c with
  | produceTelemetry receipt key evt =>
      exact ⟨subset_append _ _ _, List.Subset.refl _, List.Subset.refl _⟩
  | produceMachineEvent key evt =>
      exact ⟨List.Subset.refl _, subset_append _ _ _, List.Subset.refl _⟩
  | produceDeadLetter key record =>
      exact ⟨List.Subset.refl _, List.Subset.refl _, subset_append _ _ _⟩
  | jobsGet =>
      rw [World.exec]
      split <;> exact ⟨List.Subset.refl _, List.Subset.refl _, List.Subset.refl _⟩
  | sleep delay =>
      rw [World.exec]
      split <;> exact .refl w
  | _ => exact ⟨List.Subset.refl _, List.Subset.refl _, List.Subset.refl _⟩

lemma grows_outside (e : World.Outside Payload) (w : World R Payload) :
    Grows w (World.outside cfg e w) := by
  cases e with
  | receive topic payload =>
      rw [World.outside]
      split
      · exact .refl w
      · exact ⟨List.Subset.refl _, List.Subset.refl _, List.Subset.refl _⟩
  | _ => exact ⟨List.Subset.refl _, List.Subset.refl _, List.Subset.refl _⟩

/-- A record is written where Kafka answers. -/
lemma mem_append_of_answerOf {α : Type} {reply : Statement.Reply PyError} {topic : List α}
    {record : α} (h : answerOf reply = .ok ()) : record ∈ append reply topic record := by
  cases reply with
  | answers => exact List.mem_append_right _ (List.mem_singleton.mpr rfl)
  | fails e applied => cases h

/-- An answer that a test accepts is no exception, where the test accepts none. -/
lemma eq_ok_of_test {f : Except PyError Unit → Bool} (hf : ∀ e, f (.error e) = false)
    {r : Except PyError Unit} (h : f r = true) : r = .ok () := by
  cases r with
  | ok u => rfl
  | error e =>
      rw [hf] at h
      cases h

/-- A request of a call that Kafka acknowledges leaves the message of the call with Kafka. -/
lemma kept_of_isDurable {job : InboundMessage Payload} {c : Stmt R Payload}
    {w : World R Payload} (hown : Own py codecs job c)
    (h : isDurable ⟨c, (World.exec c w).1⟩ = true) :
    Kept py codecs (job.topic, job.payload) (World.exec c w).2 := by
  cases c with
  | produceTelemetry receipt key evt =>
      obtain ⟨htopic, rfl, raw, now, hparse, hvalid, rfl, rfl⟩ := hown
      refine .inr (.inl ⟨htopic, raw, now, _, hparse, hvalid, mem_append_of_answerOf ?_⟩)
      exact eq_ok_of_test (f := fun r => isDurable ⟨.produceTelemetry _ _ _, r⟩) (fun _ => rfl) h
  | produceMachineEvent key evt =>
      obtain ⟨htopic, raw, correlationId, now, hparse, hvalid, rfl, rfl⟩ := hown
      refine .inr (.inr (.inl ⟨htopic, raw, correlationId, now, hparse, hvalid,
        mem_append_of_answerOf ?_⟩))
      exact eq_ok_of_test (f := fun r => isDurable ⟨.produceMachineEvent _ _, r⟩) (fun _ => rfl) h
  | produceDeadLetter key record =>
      refine .inr (.inr (.inr ⟨key, record, hown.1, hown.2, mem_append_of_answerOf ?_⟩))
      exact eq_ok_of_test (f := fun r => isDurable ⟨.produceDeadLetter _ _, r⟩) (fun _ => rfl) h
  | _ => cases h

/-! ### No message is lost -/

section Sound

variable {ι : Type} [DecidableEq ι]

/-- A message that the process has yet to be done with: it is in the queue, or a worker is busy with
it and has not acknowledged it. -/
def Outstanding (p : Workers R Payload ι) (job : InboundMessage Payload) : Prop :=
  job ∈ p.store.queue ∨ ∃ i t, inHand (p.seen i) = some (job, t) ∧ t.any acks = false

/-- What the broker has in flight under the packet id of a message of the process is that
message. -/
def Stands (s : Session R Payload ι) (job : InboundMessage Payload) : Prop :=
  ∃ mid, s.mids[job.receipt]? = some mid
    ∧ ∀ msg, (mid, msg) ∈ s.inFlight → msg = (job.topic, job.payload)

variable (py codecs) in
/-- What holds of the session in every run. -/
structure Sound (s : Session R Payload ι) : Prop where
  tending : s.workers.GuaranteesIn (Possible World.exec) (fun _ => Tending py codecs)
    fun _ _ _ => True
  numbered : s.mids.length = s.workers.store.received
  unique : ∀ mid msg msg', (mid, msg) ∈ s.inFlight → (mid, msg') ∈ s.inFlight → msg = msg'
  outstanding : ∀ job, Outstanding s.workers job → Stands s job
  written : ∀ i job t, inHand (s.workers.seen i) = some (job, t) → t.any isDurable = true →
    Kept py codecs (job.topic, job.payload) s.workers.store
  kept : ∀ msg ∈ s.published, msg ∈ s.pending ∨ (∃ mid, (mid, msg) ∈ s.inFlight)
    ∨ Kept py codecs msg s.workers.store

/-- The broker gives a new message no packet id that the process still has an acknowledgement to
make for. -/
def FreshId (s : Session R Payload ι) : SessionMove Payload ι → Prop
  | .deliver mid =>
      (∀ job ∈ s.workers.store.queue, s.mids[job.receipt]? ≠ some mid)
        ∧ ∀ i, ∀ busy ∈ inHand (s.workers.seen i), busy.2.any acks = false →
            s.mids[busy.1.receipt]? ≠ some mid
  | _ => True

instance [Fintype ι] (s : Session R Payload ι) :
    ∀ m : SessionMove Payload ι, Decidable (FreshId s m)
  | .deliver _ => inferInstanceAs (Decidable ((∀ job ∈ s.workers.store.queue, _)
      ∧ ∀ i, ∀ busy ∈ inHand (s.workers.seen i), busy.2.any acks = false → _))
  | .publish _ _ => isTrue trivial
  | .redeliver _ => isTrue trivial
  | .worker _ _ => isTrue trivial
  | .elapse _ => isTrue trivial
  | .replies _ _ _ => isTrue trivial
  | .shutdown => isTrue trivial
  | .restart _ => isTrue trivial

omit [DecidableEq ι] in
lemma FreshId.ne {s : Session R Payload ι} {mid : ℕ} (h : FreshId s (.deliver mid))
    {job : InboundMessage Payload} (hjob : Outstanding s.workers job) :
    s.mids[job.receipt]? ≠ some mid := by
  rcases hjob with hjob | ⟨i, t, hhand, hacks⟩
  · exact h.1 job hjob
  · exact h.2 i (job, t) hhand hacks

omit [DecidableEq ι] in
lemma Stands.mono {s s' : Session R Payload ι} {job : InboundMessage Payload} (h : Stands s job)
    (hmids : s.mids <+: s'.mids) (hsent : s'.inFlight ⊆ s.inFlight) : Stands s' job := by
  obtain ⟨mid, hmid, hmsg⟩ := h
  obtain ⟨t, ht⟩ := hmids
  refine ⟨mid, ?_, fun msg hin => hmsg msg (hsent hin)⟩
  rw [← ht, List.getElem?_append_left (List.getElem?_eq_some_iff.mp hmid).1]
  exact hmid

variable (cfg) in
/-- A message that arrives is refused or put into the queue. -/
lemma arrive_cases (s : Session R Payload ι) (mid : ℕ) (msg : String × Payload) :
    s.arrive cfg mid msg = s
      ∨ s.arrive cfg mid msg =
        { s with
          mids := s.mids ++ [mid]
          workers := { s.workers with
            store := { s.workers.store with
              queue := s.workers.store.queue ++ [⟨msg.1, msg.2, s.workers.store.received⟩]
              received := s.workers.store.received + 1 } } } := by
  rw [Session.arrive]
  dsimp only [step, Pool.step_outside, World.outside]
  split
  · exact .inl (by rw [if_pos rfl])
  · exact .inr (by rw [if_neg (Nat.succ_ne_self _)])

/-- A message arrives that the broker has in flight. -/
lemma Sound.arrive {s : Session R Payload ι} (h : Sound py codecs s) {mid : ℕ}
    {msg : String × Payload} (hsent : (mid, msg) ∈ s.inFlight) :
    Sound py codecs (s.arrive cfg mid msg) := by
  rcases arrive_cases cfg s mid msg with hs | hs
  · rwa [hs]
  · rw [hs]
    refine ⟨h.tending, ?_, h.unique, fun job hjob => ?_, fun i job t hhand hdurable => ?_,
      fun msg hmsg => ?_⟩
    · dsimp only
      rw [List.length_append, h.numbered]
      rfl
    · have hprefix : s.mids <+: s.mids ++ [mid] := List.prefix_append _ _
      rcases hjob with hjob | hjob
      · rcases List.mem_append.mp hjob with hjob | hjob
        · exact (h.outstanding job (.inl hjob)).mono hprefix (List.Subset.refl _)
        · rw [List.mem_singleton] at hjob
          subst hjob
          refine ⟨mid, ?_, fun msg' hmsg' => h.unique mid _ _ hmsg' hsent⟩
          dsimp only
          rw [← h.numbered, List.getElem?_concat_length]
      · exact (h.outstanding job (.inr hjob)).mono hprefix (List.Subset.refl _)
    · exact (h.written i job t hhand hdurable).mono
        ⟨List.Subset.refl _, List.Subset.refl _, List.Subset.refl _⟩
    · exact (h.kept msg hmsg).imp_right (.imp_right fun hkept => hkept.mono
        ⟨List.Subset.refl _, List.Subset.refl _, List.Subset.refl _⟩)

omit [DecidableEq ι] in
/-- The broker sends a message under an id that neither it nor the process uses. -/
lemma Sound.send {s : Session R Payload ι} (h : Sound py codecs s) {mid : ℕ}
    {msg : String × Payload} {pending : List (String × Payload)}
    (hpending : s.pending = msg :: pending) (hunused : ∀ msg', (mid, msg') ∉ s.inFlight) (hfresh : FreshId s (.deliver mid)) :
    Sound py codecs { s with pending, inFlight := s.inFlight ++ [(mid, msg)] } := by
  refine ⟨h.tending, h.numbered, fun m a b ha hb => ?_, fun job hjob => ?_, h.written,
    fun msg' hmsg' => ?_⟩
  · rw [List.mem_append, List.mem_singleton, Prod.mk.injEq] at ha hb
    rcases ha with ha | ⟨rfl, rfl⟩
    · rcases hb with hb | ⟨rfl, rfl⟩
      · exact h.unique m a b ha hb
      · exact absurd ha (hunused a)
    · rcases hb with hb | ⟨-, rfl⟩
      · exact absurd hb (hunused b)
      · rfl
  · obtain ⟨m, hm, hmsg⟩ := h.outstanding job hjob
    refine ⟨m, hm, fun msg' hmsg' => ?_⟩
    rw [List.mem_append, List.mem_singleton, Prod.mk.injEq] at hmsg'
    rcases hmsg' with hmsg' | ⟨rfl, -⟩
    · exact hmsg msg' hmsg'
    · exact absurd hm (hfresh.ne hjob)
  · rcases h.kept msg' hmsg' with hin | ⟨m, hm⟩ | hkept
    · rw [hpending] at hin
      rcases List.mem_cons.mp hin with rfl | hin
      · exact .inr (.inl ⟨mid, List.mem_append_right _ (List.mem_singleton.mpr rfl)⟩)
      · exact .inl hin
    · exact .inr (.inl ⟨m, List.mem_append_left _ hm⟩)
    · exact .inr (.inr hkept)

/-- What the workers are busy with after a step of the worker `i`. -/
lemma inHand_update (seen : ι → Log (Ingesting R Payload) PyError) (i : ι)
    (e : Entry (Ingesting R Payload) PyError) (j : ι) :
    inHand (Function.update seen i (seen i ++ [e]) j)
      = if j = i then noteHand (inHand (seen i)) e else inHand (seen j) := by
  split
  · rename_i hj
    subst hj
    rw [Function.update_self, inHand_concat]
  · rename_i hj
    rw [Function.update_of_ne hj]

/-- A request made for the message in hand leaves the queue as it is. -/
lemma queue_exec_of_handling {c : Stmt R Payload} (hc : Handling c) (w : World R Payload) :
    (World.exec c w).2.queue = w.queue ∧ (World.exec c w).2.received = w.received := by
  cases c with
  | jobsGet => cases hc
  | shutdownIsSet => cases hc
  | sleep delay =>
      rw [World.exec]
      split <;> exact ⟨rfl, rfl⟩
  | _ => exact ⟨rfl, rfl⟩

omit [DecidableEq ι] in
/-- What is no longer in flight after an acknowledgement is what was under its packet id. -/
lemma mem_puback {s : Session R Payload ι} {receipt mid : ℕ} {msg : String × Payload}
    (h : (mid, msg) ∈ s.inFlight) :
    (mid, msg) ∈ s.puback receipt ∨ s.mids[receipt]? = some mid := by
  rw [Session.puback]
  cases hmid : s.mids[receipt]? with
  | none => exact .inl h
  | some mid' =>
      by_cases heq : mid = mid'
      · exact .inr (by rw [heq])
      · exact .inl (List.mem_filter.mpr ⟨h, by simpa using heq⟩)

omit [DecidableEq ι] in
lemma puback_subset (s : Session R Payload ι) (receipt : ℕ) : s.puback receipt ⊆ s.inFlight := by
  rw [Session.puback]
  split
  · exact List.Subset.refl _
  · exact List.filter_subset_self _

/-- A worker asks for something on behalf of its message.  The broker may see the message
acknowledged, which Kafka then holds. -/
lemma Sound.handle {s : Session R Payload ι} (h : Sound py codecs s) {i : ι}
    {c : Stmt R Payload} {k : Except PyError c.Answer → Ingesting.Prog R Payload Unit}
    (hnext : s.workers.next i = some c) (hc : Handling c) {inFlight : List (ℕ × String × Payload)}
    (hsub : inFlight ⊆ s.inFlight)
    (hgone : ∀ mid msg, (mid, msg) ∈ s.inFlight → (mid, msg) ∈ inFlight
      ∨ ∃ receipt, c = .ack receipt ∧ s.mids[receipt]? = some mid)
    (hsafe : Pool.GuaranteesIn (Possible World.exec) (fun _ => Tending py codecs)
      (fun _ _ _ => True) (⟨(World.exec c s.workers.store).2,
        Function.update s.workers.todo i (k (World.exec c s.workers.store).1),
        Function.update s.workers.seen i
          (s.workers.seen i ++ [⟨c, (World.exec c s.workers.store).1⟩])⟩ : Workers R Payload ι)) :
    Sound py codecs { s with
      inFlight
      workers := ⟨(World.exec c s.workers.store).2,
        Function.update s.workers.todo i (k (World.exec c s.workers.store).1),
        Function.update s.workers.seen i
          (s.workers.seen i ++ [⟨c, (World.exec c s.workers.store).1⟩])⟩ } := by
  obtain ⟨job, t, hhand, hown, hordered⟩ := h.tending.next hnext hc
  obtain ⟨hqueue, hreceived⟩ := queue_exec_of_handling hc s.workers.store
  have hgrows := grows_exec c s.workers.store
  have hupdate := inHand_update s.workers.seen i ⟨c, (World.exec c s.workers.store).1⟩
  rw [hhand, noteHand_of_handling hc] at hupdate
  refine ⟨hsafe, ?_, fun m a b ha hb => h.unique m a b (hsub ha) (hsub hb), fun job' hjob' => ?_,
    fun j job' t' hhand' hdurable => ?_, fun msg hmsg => ?_⟩
  · rw [hreceived]
    exact h.numbered
  · have hold : Outstanding s.workers job' := by
      rcases hjob' with hjob' | ⟨j, t', hhand', hacks⟩
      · rw [hqueue] at hjob'
        exact .inl hjob'
      · rw [hupdate j] at hhand'
        split at hhand'
        · obtain ⟨rfl, rfl⟩ := Prod.mk.inj (Option.some.inj hhand')
          rw [any_concat, Bool.or_eq_false_iff] at hacks
          exact .inr ⟨i, t, hhand, hacks.1⟩
        · exact .inr ⟨j, t', hhand', hacks⟩
    exact (h.outstanding job' hold).mono (List.prefix_refl _) hsub
  · rw [hupdate j] at hhand'
    split at hhand'
    · obtain ⟨rfl, rfl⟩ := Prod.mk.inj (Option.some.inj hhand')
      rw [any_concat, Bool.or_eq_true] at hdurable
      rcases hdurable with hdurable | hdurable
      · exact (h.written i job t hhand hdurable).mono hgrows
      · exact kept_of_isDurable hown hdurable
    · exact (h.written j job' t' hhand' hdurable).mono hgrows
  · rcases h.kept msg hmsg with hin | ⟨mid, hmid⟩ | hkept
    · exact .inl hin
    · rcases hgone mid msg hmid with hstill | ⟨receipt, rfl, hreceipt⟩
      · exact .inr (.inl ⟨mid, hstill⟩)
      · -- the message in hand is the one the broker takes for acknowledged
        obtain ⟨hacks, hdurable⟩ := hordered
        rw [show receipt = job.receipt from hown] at hreceipt
        obtain ⟨mid', hmid', hstands⟩ := h.outstanding job (.inr ⟨i, t, hhand, hacks⟩)
        obtain rfl := Option.some.inj (hmid'.symm.trans hreceipt)
        rw [hstands msg hmid]
        refine .inr (.inr ?_)
        rcases hdurable with hunknown | hdurable
        · exact .inl hunknown
        · exact (h.written i job t hhand hdurable).mono hgrows
    · exact .inr (.inr (hkept.mono hgrows))

omit [DecidableEq ι] in
/-- A worker looks for another message, or whether it should. -/
lemma Sound.look {s : Session R Payload ι} (h : Sound py codecs s) {workers : Workers R Payload ι}
    (hsafe : workers.GuaranteesIn (Possible World.exec) (fun _ => Tending py codecs)
      fun _ _ _ => True)
    (hreceived : workers.store.received = s.workers.store.received)
    (hgrows : Grows s.workers.store workers.store)
    (hqueue : ∀ job ∈ workers.store.queue, job ∈ s.workers.store.queue)
    (hhand : ∀ j job t, inHand (workers.seen j) = some (job, t) →
      inHand (s.workers.seen j) = some (job, t) ∨ job ∈ s.workers.store.queue ∧ t = []) :
    Sound py codecs { s with workers } := by
  refine ⟨hsafe, h.numbered.trans hreceived.symm, h.unique, fun job hjob => ?_,
    fun j job t hbusy hdurable => ?_, fun msg hmsg => ?_⟩
  · have hold : Outstanding s.workers job := by
      rcases hjob with hjob | ⟨j, t, hbusy, hacks⟩
      · exact .inl (hqueue job hjob)
      · rcases hhand j job t hbusy with hbusy | ⟨hjob, -⟩
        · exact .inr ⟨j, t, hbusy, hacks⟩
        · exact .inl hjob
    exact (h.outstanding job hold).mono (List.prefix_refl _) (List.Subset.refl _)
  · rcases hhand j job t hbusy with hbusy | ⟨-, rfl⟩
    · exact (h.written j job t hbusy hdurable).mono hgrows
    · cases hdurable
  · exact (h.kept msg hmsg).imp_right (.imp_right fun hkept => hkept.mono hgrows)

/-- What happens around the workers, other than an arrival. -/
lemma Sound.outside {s : Session R Payload ι} (h : Sound py codecs s) (e : World.Outside Payload)
    (he : ∀ topic payload, e ≠ .receive topic payload) :
    Sound py codecs { s with workers := Ingestion.step cfg s.workers (.outside e) } := by
  refine h.look h.tending ?_ (grows_outside e _) ?_ fun j job t hbusy => .inl hbusy
  · cases e with
    | receive topic payload => exact absurd rfl (he topic payload)
    | _ => rfl
  · cases e with
    | receive topic payload => exact absurd rfl (he topic payload)
    | _ => exact fun job hjob => hjob

variable (cfg) in
/-- A worker takes a step. -/
lemma Sound.worker {s : Session R Payload ι} (h : Sound py codecs s) (i : ι) (heard : Bool) :
    Sound py codecs (s.step py codecs cfg (.worker i heard)) := by
  have hsafe : (s.workers.step World.exec (World.outside cfg) (.thread i)).GuaranteesIn
      (Possible World.exec) (fun _ => Tending py codecs) (fun _ _ _ => True) :=
    h.tending.step (fun c w => ⟨w, rfl⟩) _
  rw [Session.step, Ingestion.step]
  rcases Pool.step_cases World.exec (World.outside cfg) s.workers (.thread i) with
    ⟨e, he, -⟩ | ⟨j, hj, hnext, hs⟩ | ⟨j, c, k, hj, -, hnext, hs⟩
  · cases he
  · obtain rfl := Move.thread.inj hj
    rwa [hs, hnext]
  · obtain rfl := Move.thread.inj hj
    rw [hs] at hsafe ⊢
    rw [hnext]
    by_cases hc : Handling c
    · refine h.handle hnext hc ?_ (fun mid msg hmid => ?_) hsafe
      · cases c with
        | ack receipt =>
            dsimp only
            split
            · exact puback_subset s receipt
            · exact List.Subset.refl _
        | _ => exact List.Subset.refl _
      · cases c with
        | ack receipt =>
            dsimp only
            split
            · exact (mem_puback hmid).imp_right fun hreceipt => ⟨receipt, rfl, hreceipt⟩
            · exact .inl hmid
        | _ => exact .inl hmid
    · have hgrows := grows_exec c s.workers.store
      cases c with
      | shutdownIsSet =>
          refine h.look hsafe rfl hgrows (fun job hjob => hjob) fun j job t hbusy => .inl ?_
          rw [inHand_update] at hbusy
          split at hbusy
          · cases hbusy
          · exact hbusy
      | jobsGet =>
          cases hqueue : s.workers.store.queue with
          | nil =>
              rw [World.exec, hqueue] at hsafe hgrows ⊢
              refine h.look hsafe rfl hgrows (fun job hjob => hjob) fun j job t hbusy => .inl ?_
              rw [inHand_update] at hbusy
              split at hbusy
              · cases hbusy
              · exact hbusy
          | cons first queue =>
              rw [World.exec, hqueue] at hsafe hgrows ⊢
              refine h.look hsafe rfl hgrows (fun job hjob => ?_) fun j job t hbusy => ?_
              · rw [hqueue]
                exact List.mem_cons_of_mem _ hjob
              · rw [inHand_update] at hbusy
                split at hbusy
                · obtain ⟨rfl, rfl⟩ := Prod.mk.inj (Option.some.inj hbusy)
                  exact .inr ⟨hqueue ▸ List.mem_cons_self, rfl⟩
                · exact .inl hbusy
      | _ => exact absurd trivial hc

/-- **A step loses no message**, where a packet id that is used again is one the process is done
with. -/
lemma sound_step {s : Session R Payload ι} {m : SessionMove Payload ι} (h : Sound py codecs s)
    (hfresh : FreshId s m) : Sound py codecs (s.step py codecs cfg m) := by
  cases m with
  | publish topic payload =>
      refine ⟨h.tending, h.numbered, h.unique, fun job hjob => ?_, h.written, fun msg hmsg => ?_⟩
      · exact (h.outstanding job hjob).mono (List.prefix_refl _) (List.Subset.refl _)
      · rcases List.mem_append.mp hmsg with hmsg | hmsg
        · exact (h.kept msg hmsg).imp_left fun hin => List.mem_append_left _ hin
        · exact .inl (List.mem_append_right _ hmsg)
  | deliver mid =>
      rw [Session.step]
      cases hpending : s.pending with
      | nil => exact h
      | cons msg pending =>
          dsimp only
          split
          · exact h
          · rename_i hunused
            refine (h.send hpending (fun msg' hmsg' => hunused ?_) hfresh).arrive ?_
            · exact List.any_eq_true.mpr ⟨_, hmsg', by simp⟩
            · exact List.mem_append_right _ (List.mem_singleton.mpr rfl)
  | redeliver mid =>
      rw [Session.step]
      cases hsent : s.inFlight.find? fun sent => sent.1 = mid with
      | none => exact h
      | some sent =>
          have hmid : sent.1 = mid := by simpa using List.find?_some hsent
          have hmem : (mid, sent.2) ∈ s.inFlight := by
            rw [← hmid]
            exact List.mem_of_find?_eq_some hsent
          exact h.arrive hmem
  | worker i heard => exact h.worker cfg i heard
  | elapse dt => exact h.outside _ fun _ _ he => by cases he
  | replies telemetry events deadLetter => exact h.outside _ fun _ _ he => by cases he
  | shutdown => exact h.outside _ fun _ _ he => by cases he
  | restart rounds =>
      refine ⟨Pool.guaranteesIn_start fun i => tending_worker (rounds i) [], rfl, h.unique,
        fun job hjob => ?_, fun i job t hbusy => ?_, fun msg hmsg => ?_⟩
      · rcases hjob with hjob | ⟨i, t, hbusy, -⟩
        · cases hjob
        · cases hbusy
      · cases hbusy
      · exact (h.kept msg hmsg).imp_right (.imp_right fun hkept => hkept.mono
          ⟨List.Subset.refl _, List.Subset.refl _, List.Subset.refl _⟩)

variable (py codecs cfg) in
omit [DecidableEq ι] in
lemma sound_start (rounds : ι → ℕ) : Sound py codecs (Session.start py codecs cfg rounds) := by
  refine ⟨Pool.guaranteesIn_start fun i => tending_worker (rounds i) [], rfl,
    fun _ _ _ h => (by cases h), fun job hjob => ?_, fun i job t hbusy => ?_,
    fun msg hmsg => (by cases hmsg)⟩
  · rcases hjob with hjob | ⟨i, t, hbusy, -⟩
    · cases hjob
    · cases hbusy
  · cases hbusy

/-- So does a run. -/
lemma Sound.run {s : Session R Payload ι} (h : Sound py codecs s)
    {sched : List (SessionMove Payload ι)}
    (hfresh : EachStep (Session.step py codecs cfg) FreshId sched s) :
    EachState (Session.step py codecs cfg) (Sound py codecs) sched s :=
  eachState_of_eachStep (J := fun _ => True) (fun _ _ _ => trivial)
    (fun _ _ _ hs hfresh => sound_step hs hfresh) trivial h hfresh

variable (py codecs cfg) in
/-- **At-least-once delivery, end to end**: in every run of publishers, broker, worker threads and
restarts of the process (at any moment, with any replies of Kafka, any lost acknowledgements and
redeliveries) in which the broker reuses no packet id that the process has yet to acknowledge, every
message published so far is still with the broker, or Kafka holds its event or its payload. -/
theorem at_least_once (rounds : ι → ℕ) (sched : List (SessionMove Payload ι))
    (h : EachStep (Session.step py codecs cfg) FreshId sched
      (Session.start py codecs cfg rounds)) :
    EachState (Session.step py codecs cfg)
      (fun s => ∀ msg ∈ s.published, msg ∈ s.pending ∨ (∃ mid, (mid, msg) ∈ s.inFlight)
        ∨ Kept py codecs msg s.workers.store)
      sched (Session.start py codecs cfg rounds) :=
  ((sound_start py codecs cfg rounds).run h).mono fun _ hs => hs.kept

end Sound

/-! ### A crash, and a packet id used too early -/

/-- The topic of a sensor. -/
def sensorTopic : String := "factory/f/machine/m/sensor/s/telemetry"

/-- The process dies between the write to Kafka and the acknowledgement; the next one receives the
message again and acknowledges it. -/
def crashRun : List (SessionMove (TelemetryEvent ℤ) Bool) :=
  [.publish sensorTopic (reading 1), .deliver 1] ++ List.replicate 5 (.worker false true)
    ++ [.restart fun _ => 2, .redeliver 1] ++ List.replicate 7 (.worker true true)

/-- The message of `crashRun` is written twice, and is with the broker until it is acknowledged. -/
theorem at_least_once_crashRun :
    EachState (Session.step plainText plainCodecs {})
        (fun s => ∀ msg ∈ s.published, msg ∈ s.pending ∨ (∃ mid, (mid, msg) ∈ s.inFlight)
          ∨ Kept plainText plainCodecs msg s.workers.store)
        crashRun (Session.start plainText plainCodecs {} fun _ => 2)
      ∧ (let s := crashRun.foldl (Session.step plainText plainCodecs {})
          (Session.start plainText plainCodecs {} fun _ => 2)
        s.workers.store.telemetryRaw.length = 2 ∧ s.inFlight.length = 0) :=
  ⟨at_least_once plainText plainCodecs {} _ _ (by decide +kernel), by decide +kernel⟩

/-- A message is received twice and acknowledged; its packet id goes to another message, which the
second acknowledgement takes off the broker; the process dies. -/
def reuseRun : List (SessionMove (TelemetryEvent ℤ) Bool) :=
  [.publish sensorTopic (reading 1), .deliver 1, .redeliver 1]
    ++ List.replicate 7 (.worker false true)
    ++ [.publish sensorTopic (reading 2), .deliver 1] ++ List.replicate 7 (.worker true true)
    ++ [.restart fun _ => 2]

/-- **The broker has to wait with a packet id**: the second message of `reuseRun` is lost. -/
theorem lost_by_reuse :
    ¬ ∀ sched : List (SessionMove (TelemetryEvent ℤ) Bool),
      EachState (Session.step plainText plainCodecs {})
        (fun s => ∀ msg ∈ s.published, msg ∈ s.pending ∨ (∃ mid, (mid, msg) ∈ s.inFlight)
          ∨ Kept plainText plainCodecs msg s.workers.store)
        sched (Session.start plainText plainCodecs {} fun _ => 2) := by
  intro h
  have hend := (h reuseRun).last (sensorTopic, reading 2) (by decide +kernel)
  have hgone :
      let s := reuseRun.foldl (Session.step plainText plainCodecs {})
        (Session.start plainText plainCodecs {} fun _ => 2)
      s.pending = [] ∧ s.inFlight = [] ∧ s.workers.store.deadLetters = []
        ∧ ∀ x ∈ s.workers.store.telemetryRaw, x.2.2.sequenceNumber = 1 := by decide +kernel
  obtain ⟨hpending, hflight, hdead, hraw⟩ := hgone
  rcases hend with hin | ⟨mid, hmid⟩ | hunknown | ⟨-, raw, now, receipt, hparse, -, hmem⟩ |
    ⟨hevent, -⟩ | ⟨key, record, -, -, hmem⟩
  · rw [hpending] at hin
    cases hin
  · rw [hflight] at hmid
    cases hmid
  · exact absurd hunknown.1 (by decide)
  · obtain rfl := Except.ok.inj hparse
    exact absurd (hraw _ hmem) (show ¬ (2 : ℤ) = 1 by decide)
  · exact absurd hevent (by decide)
  · rw [hdead] at hmem
    cases hmem

end Ingestion

end InduSense
