import InduSense.Ingestion.Session

/-!
What is not lost is delivered: the other half of at-least-once delivery.

* `acked_processMessage`: where the dead-letter topic answers, a call ends with its message
  acknowledged, whatever the message and the main topics.
* `Serving`, `serving_step`: a worker that is left alone with one message of the broker.
* `can_deliver`: from every state that a run reaches, some continuation leaves nothing with the
  broker and everything with Kafka.
-/

namespace InduSense

namespace Ingestion

open Statement (Entry Log Pool Move EachStep eachStep_append eachStep_of_forall)
open Statement.Prog (FollowsIn followsIn_issue followsIn_issue_bind)

variable {R Payload : Type}

/-! ### Calls while Kafka answers -/

/-- An answer that is given while the dead-letter topic answers. -/
def Answered (c : Stmt R Payload) (r : Except PyError c.Answer) : Prop :=
  ∃ w : World R Payload, w.deadLetterReply = .answers ∧ r = (World.exec c w).1

/-- The clock and the source of UUIDs always answer. -/
lemma not_answered_error (exc : PyError) :
    ¬ Answered (.utcNow : Stmt R Payload) (.error exc)
      ∧ ¬ Answered (.uuid4 : Stmt R Payload) (.error exc) := by
  constructor
  · rintro ⟨w, -, hw⟩
    cases hw
  · rintro ⟨w, -, hw⟩
    cases hw

variable {py : PyText R} {codecs : Codecs R Payload} {cfg : Config}

/-- A program that ends with an acknowledgement. -/
abbrev EndsAcked {α : Type} (p : Ingesting.Prog R Payload α)
    (l : Log (Ingesting R Payload) PyError) : Prop :=
  FollowsIn Answered (fun _ _ => True) (fun l _ => l.any acks = true) p l

section EndsAcked

variable {l : Log (Ingesting R Payload) PyError} {job : InboundMessage Payload}

lemma endsAcked_ack {receipt : ℕ} :
    EndsAcked (Ingesting.issue (.ack receipt) : Ingesting.Prog R Payload Unit) l := by
  refine followsIn_issue (Q := fun _ _ => True) trivial fun r _ => ?_
  rw [any_concat]
  exact Bool.or_true _

/-- The dead-letter write succeeds. -/
lemma deadLetter_returns {rawPayload : String} {cause : PyError} {errorType : ErrorType}
    {stage correlationId sourceTopic : String} :
    FollowsIn Answered (fun _ _ => True) (fun _ r => r = .ok ())
      (deadLetter cfg rawPayload cause errorType stage correlationId sourceTopic :
        Ingesting.Prog R Payload Unit) l := by
  refine followsIn_issue_bind trivial (fun now _ => ?_)
    fun exc h => absurd h (not_answered_error exc).1
  refine (followsIn_issue (S := Ingesting R Payload) (c := .produceDeadLetter _ _)
    (R := fun _ r => r = .ok ()) (Q := fun _ _ => True) trivial fun r hr => ?_).attempt_bind
    fun l' r hr => ?_
  · obtain ⟨w, hanswers, rfl⟩ := hr
    rw [World.exec, hanswers]
    rfl
  · rw [hr]
    rfl

lemma endsAcked_rejectMessage {exc : PyError} {correlationId : String} :
    EndsAcked (rejectMessage codecs cfg job exc correlationId) l := by
  refine deadLetter_returns.attempt_bind fun l' r hr => ?_
  rw [hr]
  exact endsAcked_ack

/-- A message that is published on its main topic, or dead-lettered where that fails. -/
lemma endsAcked_finishMessage {fn : Ingesting.Prog R Payload Unit}
    {topic rawPayload correlationId sourceTopic : String} :
    EndsAcked (finishMessage job (publish cfg topic fn rawPayload correlationId sourceTopic))
      l := by
  have hpublish : FollowsIn Answered (fun _ _ => True) (fun _ r => r = .ok ())
      (publish cfg topic fn rawPayload correlationId sourceTopic) l := by
    refine (FollowsIn.unconditional _ l).attempt_bind fun l' r _ => ?_
    cases r with
    | ok u => rfl
    | error exc => exact deadLetter_returns
  refine hpublish.attempt_bind fun l' r hr => ?_
  rw [hr]
  exact endsAcked_ack

/-- **Whatever the message, a call ends with it acknowledged**, where the dead-letter topic
answers. -/
lemma endsAcked_processMessage : EndsAcked (processMessage py codecs cfg job) l := by
  have hmachine : EndsAcked (handleMachineEvent py codecs cfg job) l := by
    rw [handleMachineEvent]
    cases codecs.machineEvent job.payload with
    | error exc =>
        exact followsIn_issue_bind trivial (fun _ _ => endsAcked_rejectMessage)
          fun exc h => absurd h (not_answered_error exc).2
    | ok raw =>
        refine followsIn_issue_bind trivial (fun correlationId _ => ?_)
          fun exc h => absurd h (not_answered_error exc).2
        cases hvalid : validateMachineEvent py raw with
        | error exc =>
            dsimp only
            rw [if_pos (valueError_of_validateMachineEvent py raw exc hvalid)]
            exact endsAcked_rejectMessage
        | ok u =>
            exact followsIn_issue_bind trivial (fun _ _ => endsAcked_finishMessage)
              fun exc h => absurd h (not_answered_error exc).1
  rw [processMessage]
  split
  · rw [handleTelemetry]
    cases codecs.telemetry job.payload with
    | error exc =>
        exact followsIn_issue_bind trivial (fun _ _ => endsAcked_rejectMessage)
          fun exc h => absurd h (not_answered_error exc).2
    | ok raw =>
        dsimp only
        cases hvalid : validateTelemetry py raw with
        | error exc =>
            dsimp only
            rw [if_pos (valueError_of_validateTelemetry py raw exc hvalid)]
            exact endsAcked_rejectMessage
        | ok u =>
            exact followsIn_issue_bind trivial (fun _ _ => endsAcked_finishMessage)
              fun exc h => absurd h (not_answered_error exc).1
  · split
    · exact hmachine
    · split
      · exact hmachine
      · exact endsAcked_ack

end EndsAcked

/-! ### One message after another -/

section Serving

variable {ι : Type} [DecidableEq ι]

variable (py codecs) in
/-- The process has one message, which the broker sent under the id `mid`, and the worker `i` is to
acknowledge it. -/
structure Serving (s₀ : Session R Payload ι) (i : ι) (mid : ℕ) (s : Session R Payload ι) :
    Prop where
  sound : Sound py codecs s
  mids : s.mids = [mid]
  answers : s.workers.store.deadLetterReply = .answers
  serves : EndsAcked (s.workers.todo i) (s.workers.seen i)
  acked : (s.workers.seen i).any acks = true → ∀ msg, (mid, msg) ∉ s.inFlight
  published : s.published = s₀.published
  pending : s.pending = s₀.pending
  inFlight : List.Sublist s.inFlight s₀.inFlight

/-- No request changes what Kafka replies. -/
lemma deadLetterReply_exec (c : Stmt R Payload) (w : World R Payload) :
    (World.exec c w).2.deadLetterReply = w.deadLetterReply := by
  cases c with
  | jobsGet => rw [World.exec]; split <;> rfl
  | sleep delay => rw [World.exec]; split <;> rfl
  | _ => rfl

omit [DecidableEq ι] in
/-- An acknowledgement is for the one message of the process. -/
lemma Serving.ack {s₀ s : Session R Payload ι} {i : ι} {mid receipt : ℕ}
    (h : Serving py codecs s₀ i mid s) (hnext : s.workers.next i = some (.ack receipt)) :
    ∀ msg, (mid, msg) ∉ s.puback receipt := by
  obtain ⟨job, t, hhand, hown, hacks, -⟩ := h.sound.tending.next hnext trivial
  obtain ⟨mid', hmid', -⟩ := h.sound.outstanding job (.inr ⟨i, t, hhand, hacks⟩)
  have hreceipt : s.mids[receipt]? = some mid' := by
    rw [show receipt = job.receipt from hown]
    exact hmid'
  have hsame : mid' = mid := by
    have hin : mid' ∈ s.mids := List.mem_of_getElem? hreceipt
    rwa [h.mids, List.mem_singleton] at hin
  intro msg hmsg
  rw [Session.puback, hreceipt, List.mem_filter, hsame] at hmsg
  simp at hmsg

variable (py codecs cfg) in
/-- What a step of the worker leaves in flight. -/
lemma inFlight_worker (s : Session R Payload ι) (i : ι) :
    List.Sublist (s.step py codecs cfg (.worker i true)).inFlight s.inFlight := by
  rw [Session.step]
  dsimp only
  split
  · rw [if_pos rfl, Session.puback]
    split
    · exact List.Sublist.refl _
    · exact List.filter_sublist
  · exact List.Sublist.refl _

/-- The worker goes on. -/
lemma serving_step {s₀ s : Session R Payload ι} {i : ι} {mid : ℕ}
    (h : Serving py codecs s₀ i mid s) :
    Serving py codecs s₀ i mid (s.step py codecs cfg (.worker i true)) := by
  have hsound := h.sound.worker cfg i true
  have hsub := inFlight_worker py codecs cfg s i
  have hgone : ∀ msg, (mid, msg) ∉ s.inFlight →
      (mid, msg) ∉ (s.step py codecs cfg (.worker i true)).inFlight :=
    fun msg hmsg hin => hmsg (hsub.subset hin)
  rcases Pool.step_cases World.exec (World.outside cfg) s.workers (.thread i) with
    ⟨e, he, -⟩ | ⟨j, hj, hnext, hs⟩ | ⟨j, c, k, hj, hc, hnext, hs⟩
  · cases he
  · obtain rfl := Move.thread.inj hj
    have hworkers : (s.step py codecs cfg (.worker i true)).workers = s.workers := hs
    exact ⟨hsound, h.mids, hworkers ▸ h.answers, hworkers ▸ h.serves,
      fun hacks msg => hgone msg (h.acked (hworkers ▸ hacks) msg), h.published, h.pending,
      hsub.trans h.inFlight⟩
  · obtain rfl := Move.thread.inj hj
    have hworkers : (s.step py codecs cfg (.worker i true)).workers = _ := hs
    have hserves := h.serves
    rw [hc] at hserves
    refine ⟨hsound, h.mids, ?_, ?_, fun hacks msg => ?_, h.published, h.pending,
      hsub.trans h.inFlight⟩
    · rw [hworkers]
      exact (deadLetterReply_exec c _).trans h.answers
    · rw [hworkers]
      dsimp only
      rw [Function.update_self, Function.update_self]
      exact hserves.2 _ ⟨_, h.answers, rfl⟩
    · rw [hworkers] at hacks
      dsimp only at hacks
      rw [Function.update_self, any_concat, Bool.or_eq_true] at hacks
      rcases hacks with hacks | hacks
      · exact hgone msg (h.acked hacks msg)
      · cases c with
        | ack receipt =>
            rw [Session.step, hnext]
            exact h.ack hnext msg
        | _ => cases hacks

/-- The worker is left alone. -/
abbrev solo (i : ι) (n : ℕ) : List (SessionMove Payload ι) := List.replicate n (.worker i true)

variable (cfg) in
lemma serving_solo {s₀ : Session R Payload ι} {i : ι} {mid : ℕ} (n : ℕ) {s : Session R Payload ι}
    (h : Serving py codecs s₀ i mid s) :
    Serving py codecs s₀ i mid ((solo i n).foldl (Session.step py codecs cfg) s) := by
  induction n generalizing s with
  | zero => exact h
  | succ n ih => exact ih (serving_step h)

variable (py codecs cfg) in
/-- The worker alone does what it does among the workers of the process. -/
lemma workers_solo (i : ι) (n : ℕ) (s : Session R Payload ι) :
    ((solo i n).foldl (Session.step py codecs cfg) s).workers
      = s.workers.exec World.exec (World.outside cfg) (List.replicate n (.thread i)) := by
  induction n generalizing s with
  | zero => rfl
  | succ n ih => exact ih _

variable (cfg) in
/-- **The message is acknowledged** if the worker is left alone for long enough. -/
lemma Serving.exists_acked {s₀ s : Session R Payload ι} {i : ι} {mid : ℕ}
    (h : Serving py codecs s₀ i mid s) :
    ∃ n, Serving py codecs s₀ i mid ((solo i n).foldl (Session.step py codecs cfg) s)
      ∧ ∀ msg, (mid, msg) ∉ ((solo i n).foldl (Session.step py codecs cfg) s).inFlight := by
  obtain ⟨n, hn⟩ := Pool.exists_ended World.exec (World.outside cfg) s.workers i
  have hserving := serving_solo cfg n h
  refine ⟨n, hserving, hserving.acked ?_⟩
  rw [← workers_solo py codecs] at hn
  have hserves := hserving.serves
  cases htodo : ((solo i n).foldl (Session.step py codecs cfg) s).workers.todo i with
  | ret a => rwa [htodo] at hserves
  | raise e => rwa [htodo] at hserves
  | call c k =>
      rw [Pool.next, htodo] at hn
      cases hn

/-- A message that arrives at an empty queue is put into it. -/
lemma arrive_empty {s : Session R Payload ι} (hdown : s.workers.store.shutdown = false)
    (hqueue : s.workers.store.queue = []) (mid : ℕ) (msg : String × Payload) :
    s.arrive cfg mid msg =
      { s with
        mids := s.mids ++ [mid]
        workers := { s.workers with
          store := { s.workers.store with
            queue := [⟨msg.1, msg.2, s.workers.store.received⟩]
            received := s.workers.store.received + 1 } } } := by
  have hroom : ¬ (s.workers.store.shutdown = true
      ∨ 0 < cfg.queueCapacity ∧ cfg.queueCapacity ≤ s.workers.store.queue.length) := by
    rw [hdown, hqueue, List.length_nil]
    rintro (hdown | ⟨hpos, hfull⟩)
    · cases hdown
    · exact absurd hpos (not_lt.mpr hfull)
  have hworkers : step cfg s.workers (.outside (.receive msg.1 msg.2)) = { s.workers with
      store := { s.workers.store with
        queue := [⟨msg.1, msg.2, s.workers.store.received⟩]
        received := s.workers.store.received + 1 } } := by
    rw [step, Pool.step_outside, World.outside, if_neg hroom, hqueue]
    rfl
  simp only [Session.arrive, hworkers, if_neg (Nat.succ_ne_self _)]

/-- The process starts again, Kafka answers, and the broker sends a message again. -/
def sendAgain (mid : ℕ) : List (SessionMove Payload ι) :=
  [.restart fun _ => 1, .replies .answers .answers .answers, .redeliver mid]

/-- A message that arrives at a process that has just started is all it has in its queue. -/
lemma sendAgain_eq {s : Session R Payload ι} {mid : ℕ} {sent : ℕ × String × Payload}
    (hfind : s.inFlight.find? (fun sent => sent.1 = mid) = some sent) :
    (sendAgain mid).foldl (Session.step py codecs cfg) s =
      { s with
        mids := [mid]
        workers := Pool.start (fun _ => worker py codecs cfg 1)
          { s.workers.store.restart cfg with
            telemetryReply := .answers
            eventsReply := .answers
            deadLetterReply := .answers
            queue := [⟨sent.2.1, sent.2.2, 0⟩]
            received := 1 } } := by
  rw [sendAgain]
  simp only [List.foldl_cons, List.foldl_nil, Session.step, hfind]
  rw [arrive_empty rfl rfl]
  rfl

variable (py codecs cfg) in
/-- A worker of a process that has just started takes the message of the queue. -/
lemma takes_first (w : World R Payload) (i : ι) (hdown : w.shutdown = false)
    {job : InboundMessage Payload} (hqueue : w.queue = [job]) :
    let p : Workers R Payload ι :=
      step cfg (step cfg (Pool.start (fun _ => worker py codecs cfg 1) w) (.thread i)) (.thread i)
    p.store = { w with queue := [] }
      ∧ p.todo i = (processMessage py codecs cfg job).bind (fun _ => worker py codecs cfg 0)
      ∧ p.seen i = [⟨.shutdownIsSet, .ok false⟩, ⟨.jobsGet, .ok (some job)⟩] := by
  have hlook : World.exec .shutdownIsSet w = (.ok false, w) := by rw [World.exec, hdown]
  have htake : World.exec .jobsGet w = (.ok (some job), { w with queue := [] }) := by
    rw [World.exec, hqueue]
  have h₁ := Pool.step_call World.exec (World.outside cfg) (c := .shutdownIsSet) (i := i)
    (p := Pool.start (fun _ : ι => worker py codecs cfg 1) w) rfl
  rw [show (Pool.start (fun _ : ι => worker py codecs cfg 1) w).store = w from rfl, hlook] at h₁
  have h₂ := Pool.step_call World.exec (World.outside cfg) (c := .jobsGet) (i := i)
    (p := step cfg (Pool.start (fun _ : ι => worker py codecs cfg 1) w) (.thread i))
    (by rw [step, h₁]; exact Function.update_self ..)
  dsimp only
  rw [step, h₂, step, h₁]
  dsimp only
  rw [htake, Function.update_self, Function.update_self, Function.update_self]
  exact ⟨rfl, rfl, rfl⟩

variable (cfg) in
/-- The broker gives no new id on the way. -/
lemma fresh_sendAgain (i : ι) (mid n : ℕ) (s : Session R Payload ι) :
    EachStep (Session.step py codecs cfg) FreshId (sendAgain mid ++ solo i n) s := by
  refine eachStep_of_forall (fun m hm s => ?_) s
  rw [sendAgain, List.mem_append, List.mem_replicate] at hm
  cases m with
  | deliver mid' => simp at hm
  | _ => trivial

variable (cfg) in
/-- A message that is in flight can be sent again and taken by a worker. -/
lemma Sound.serving {s : Session R Payload ι} (h : Sound py codecs s) (i : ι) {mid : ℕ}
    {msg : String × Payload} (hsent : (mid, msg) ∈ s.inFlight) :
    Serving py codecs s i mid
      ((sendAgain mid ++ solo i 2).foldl (Session.step py codecs cfg) s) := by
  obtain ⟨sent, hfind⟩ : ∃ sent, s.inFlight.find? (fun sent => sent.1 = mid) = some sent := by
    cases hfind : s.inFlight.find? fun sent => sent.1 = mid with
    | none => exact absurd (List.find?_eq_none.mp hfind _ hsent) (by simp)
    | some sent => exact ⟨sent, rfl⟩
  have hsound := (h.run (fresh_sendAgain cfg i mid 2 s)).last
  have hsub : ∀ t : Session R Payload ι,
      List.Sublist ((solo i 2).foldl (Session.step py codecs cfg) t).inFlight t.inFlight :=
    fun t => (inFlight_worker py codecs cfg _ i).trans (inFlight_worker py codecs cfg t i)
  obtain ⟨hstore, htodo, hseen⟩ := takes_first py codecs cfg
    { s.workers.store.restart cfg with
      telemetryReply := .answers
      eventsReply := .answers
      deadLetterReply := .answers
      queue := [⟨sent.2.1, sent.2.2, 0⟩]
      received := 1 } i rfl rfl
  rw [List.foldl_append, sendAgain_eq hfind] at hsound ⊢
  refine ⟨hsound, rfl, congrArg World.deadLetterReply hstore, ?_, fun hacks => ?_, rfl, rfl,
    hsub _⟩
  · have hserves : EndsAcked ((processMessage py codecs cfg ⟨sent.2.1, sent.2.2, 0⟩).bind
        fun _ => Ingestion.worker py codecs cfg 0)
        [⟨.shutdownIsSet, .ok false⟩, ⟨.jobsGet, .ok (some ⟨sent.2.1, sent.2.2, 0⟩)⟩] :=
      endsAcked_processMessage.bind (fun _ _ hacks => hacks) fun _ _ hacks => hacks
    rwa [← htodo, ← hseen] at hserves
  · have hnone : List.any [⟨.shutdownIsSet, .ok false⟩, ⟨.jobsGet, .ok (some _)⟩] acks = true :=
      hseen ▸ hacks
    cases hnone

variable (cfg) in
/-- The process and the broker can get rid of a message that is in flight. -/
lemma Sound.exists_acked {s : Session R Payload ι} (h : Sound py codecs s) (i : ι) {mid : ℕ}
    {msg : String × Payload} (hsent : (mid, msg) ∈ s.inFlight) :
    ∃ more, EachStep (Session.step py codecs cfg) FreshId more s
      ∧ (more.foldl (Session.step py codecs cfg) s).published = s.published
      ∧ (more.foldl (Session.step py codecs cfg) s).pending = s.pending
      ∧ (more.foldl (Session.step py codecs cfg) s).inFlight.length < s.inFlight.length := by
  obtain ⟨n, hserving, hgone⟩ := (h.serving cfg i hsent).exists_acked cfg
  refine ⟨sendAgain mid ++ solo i (2 + n), fresh_sendAgain cfg i mid _ s, ?_⟩
  rw [solo, List.replicate_add, ← List.append_assoc, List.foldl_append]
  refine ⟨hserving.published, hserving.pending, ?_⟩
  refine lt_of_le_of_ne hserving.inFlight.length_le fun hlen => hgone msg ?_
  rw [hserving.inFlight.eq_of_length hlen]
  exact hsent

variable (py codecs cfg) in
/-- The process and the broker can get rid of a message that is yet to be sent: the process starts
again, so that no packet id is in use where none is in flight. -/
lemma exists_sent {s : Session R Payload ι} (hnone : s.inFlight = []) {msg : String × Payload}
    {pending : List (String × Payload)} (hpending : s.pending = msg :: pending) :
    ∃ more, EachStep (Session.step py codecs cfg) FreshId more s
      ∧ (more.foldl (Session.step py codecs cfg) s).published = s.published
      ∧ (more.foldl (Session.step py codecs cfg) s).pending = pending
      ∧ (more.foldl (Session.step py codecs cfg) s).inFlight.length = 1 := by
  refine ⟨[.restart fun _ => 0, .deliver 0], ⟨trivial, ⟨?_, ?_⟩, trivial⟩, ?_⟩
  · exact fun job hjob => by cases hjob
  · exact fun i busy hbusy => by cases hbusy
  · simp only [List.foldl_cons, List.foldl_nil, Session.step, hpending, hnone, List.any_nil]
    refine ⟨rfl, rfl, rfl⟩

variable (cfg) in
/-- The broker can get rid of all it has: each message that is in flight is acknowledged, and each
that is yet to be sent is sent. -/
lemma Sound.exists_delivered {s : Session R Payload ι} (h : Sound py codecs s) (i : ι) :
    ∃ more, EachStep (Session.step py codecs cfg) FreshId more s
      ∧ (more.foldl (Session.step py codecs cfg) s).published = s.published
      ∧ (more.foldl (Session.step py codecs cfg) s).pending = []
      ∧ (more.foldl (Session.step py codecs cfg) s).inFlight = [] := by
  -- a message counts twice until it is sent, and once until it is acknowledged
  induction hn : 2 * s.pending.length + s.inFlight.length using Nat.strong_induction_on
    generalizing s with
  | _ n ih =>
      have hmore : ∀ more, EachStep (Session.step py codecs cfg) FreshId more s →
          (more.foldl (Session.step py codecs cfg) s).published = s.published →
          2 * (more.foldl (Session.step py codecs cfg) s).pending.length
            + (more.foldl (Session.step py codecs cfg) s).inFlight.length < n →
          ∃ more, EachStep (Session.step py codecs cfg) FreshId more s
            ∧ (more.foldl (Session.step py codecs cfg) s).published = s.published
            ∧ (more.foldl (Session.step py codecs cfg) s).pending = []
            ∧ (more.foldl (Session.step py codecs cfg) s).inFlight = [] := by
        intro more hfresh hpublished hlt
        obtain ⟨rest, hrest, hsame, hpending, hflight⟩ := ih _ hlt (h.run hfresh).last rfl
        refine ⟨more ++ rest, eachStep_append.mpr ⟨hfresh, hrest⟩, ?_⟩
        rw [List.foldl_append]
        exact ⟨hsame.trans hpublished, hpending, hflight⟩
      cases hflight : s.inFlight with
      | cons sent rest =>
          have hmem : (sent.1, sent.2) ∈ s.inFlight := hflight ▸ List.mem_cons_self
          obtain ⟨more, hfresh, hpublished, hsame, hlt⟩ := h.exists_acked cfg i hmem
          exact hmore more hfresh hpublished (by rw [hsame]; omega)
      | nil =>
          cases hpending : s.pending with
          | nil => exact ⟨[], trivial, rfl, hpending, hflight⟩
          | cons msg pending =>
              obtain ⟨more, hfresh, hpublished, hsame, hone⟩ :=
                exists_sent py codecs cfg hflight hpending
              refine hmore more hfresh hpublished ?_
              rw [hsame, hone, ← hn, hpending, hflight, List.length_cons, List.length_nil]
              omega

variable (py codecs cfg) in
/-- **Nothing is stuck**: every run, whatever has failed and crashed in it, can be continued so that
the broker is left with nothing and Kafka holds the event or the payload of every message that has
been published. -/
theorem can_deliver (i : ι) (rounds : ι → ℕ) (sched : List (SessionMove Payload ι))
    (h : EachStep (Session.step py codecs cfg) FreshId sched
      (Session.start py codecs cfg rounds)) :
    ∃ more, EachStep (Session.step py codecs cfg) FreshId (sched ++ more)
        (Session.start py codecs cfg rounds)
      ∧ let s := sched.foldl (Session.step py codecs cfg) (Session.start py codecs cfg rounds)
        let s' := (sched ++ more).foldl (Session.step py codecs cfg)
          (Session.start py codecs cfg rounds)
        s'.published = s.published ∧ s'.pending = [] ∧ s'.inFlight = []
          ∧ ∀ msg ∈ s.published, Kept py codecs msg s'.workers.store := by
  have hsound := ((sound_start py codecs cfg rounds).run h).last
  obtain ⟨more, hfresh, hpublished, hpending, hflight⟩ := hsound.exists_delivered cfg i
  have hboth := eachStep_append.mpr ⟨h, hfresh⟩
  refine ⟨more, hboth, ?_⟩
  have hend := ((sound_start py codecs cfg rounds).run hboth).last
  rw [List.foldl_append] at hend ⊢
  refine ⟨hpublished, hpending, hflight, fun msg hmsg => ?_⟩
  rcases hend.kept msg (hpublished ▸ hmsg) with hin | ⟨mid, hmid⟩ | hkept
  · rw [hpending] at hin
    cases hin
  · rw [hflight] at hmid
    cases hmid
  · exact hkept

end Serving

/-- The process that dies in `crashRun` before it has acknowledged its message leaves nothing
stuck. -/
theorem can_deliver_crashRun :
    ∃ more, EachStep (Session.step plainText plainCodecs {}) FreshId (crashRun.take 7 ++ more)
        (Session.start plainText plainCodecs {} fun _ => 2)
      ∧ let s := (crashRun.take 7).foldl (Session.step plainText plainCodecs {})
          (Session.start plainText plainCodecs {} fun _ => 2)
        let s' := (crashRun.take 7 ++ more).foldl (Session.step plainText plainCodecs {})
          (Session.start plainText plainCodecs {} fun _ => 2)
        s'.published = s.published ∧ s'.pending = [] ∧ s'.inFlight = []
          ∧ ∀ msg ∈ s.published, Kept plainText plainCodecs msg s'.workers.store :=
  can_deliver plainText plainCodecs {} false _ _ (by decide +kernel)

end Ingestion

end InduSense
