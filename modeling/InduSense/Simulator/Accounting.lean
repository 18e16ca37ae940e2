import Mathlib.Algebra.Order.BigOperators.Group.List
import Mathlib.Data.Multiset.Basic
import InduSense.Statement.Schedule
import InduSense.Simulator.Main

/-!
What becomes of the simulator's messages.

* `Output.copies`: the messages a round of a task comes to, a duplicate twice; `Simulation.places`:
  where messages are.
* `Accounted`: no message is lost or made on the way, and the counters count what they say;
  `accounted_step`.
* `accounting`: so it is in every state of every run.
-/

namespace InduSense

namespace Simulator

variable {G : Type} (rng : Random G) (cfg : Config) (catalog : List SensorCatalogEntry)

/-! ### Copies -/

/-- A job, twice if it is a duplicate. -/
def copiesOf (send : PublishJob × Bool) : List PublishJob :=
  send.1 :: if send.2 then [send.1] else []

/-- The jobs an action is to put into the queue, sooner or later. -/
def Action.jobs : Action → List PublishJob
  | inc _ => []
  | enqueue job => [job]
  | delayedSend job duplicate => copiesOf (job, duplicate)

/-- The messages a round comes to. -/
def Output.copies : Output → List PublishJob
  | sensorFailed entry now => [sensorEvent entry true now]
  | sensorRecovered entry now => [sensorEvent entry false now]
  | anomaly => []
  | reading evt topic fd => copiesOf (⟨topic, .telemetry evt⟩, fd.duplicate)
  | machineChanged entry running now =>
      [statusMessage entry running now, machineMessage entry running now]

lemma flatMap_jobs_sends (job : PublishJob) (duplicate : Bool) :
    (sends job duplicate).flatMap Action.jobs = copiesOf (job, duplicate) := by
  cases duplicate <;> rfl

lemma flatMap_jobs_publishEvent (evt : TelemetryEvent ℚ) (topic : String) (fd : FaultDecision) :
    (publishEvent evt topic fd).flatMap Action.jobs
      = copiesOf (⟨topic, .telemetry evt⟩, fd.duplicate) := by
  rw [publishEvent]
  split
  · split <;> simp [Action.jobs]
  · exact flatMap_jobs_sends _ _

/-- The actions of a round put its messages into the queue, and no others. -/
lemma flatMap_jobs_actions (o : Output) : o.actions.flatMap Action.jobs = o.copies := by
  cases o with
  | reading evt topic fd => exact flatMap_jobs_publishEvent evt topic fd
  | _ => rfl

/-! ### Counters -/

/-- What a counter that the event loop increments has come to. -/
def Stats.get (stats : Stats) : StatsField → ℕ
  | .duplicates => stats.duplicates
  | .delayed => stats.delayed
  | .outOfOrder => stats.outOfOrder
  | .anomalies => stats.anomalies
  | .sensorFailed => stats.sensorFailed

/-- By how much an action is to increment a counter, sooner or later. -/
def Action.counts (f : StatsField) : Action → ℕ
  | inc field => if field = f then 1 else 0
  | enqueue _ => 0
  | delayedSend _ duplicate => if f = .duplicates ∧ duplicate = true then 1 else 0

/-- The same of a task that sleeps. -/
def sleepCounts (f : StatsField) (send : PublishJob × Bool) : ℕ :=
  if f = .duplicates ∧ send.2 = true then 1 else 0

/-- What a counter counts in what a round comes to. -/
def Output.counts (f : StatsField) : Output → ℕ
  | sensorFailed _ _ => if f = .sensorFailed then 1 else 0
  | sensorRecovered _ _ => 0
  | anomaly => if f = .anomalies then 1 else 0
  | reading _ _ fd =>
      match f with
      | .duplicates => if fd.duplicate then 1 else 0
      | .delayed => if fd.delayed then 1 else 0
      | .outOfOrder => if fd.outOfOrder ∧ fd.delayed then 1 else 0
      | _ => 0
  | machineChanged _ _ _ => 0

lemma get_inc (stats : Stats) (field f : StatsField) :
    (stats.inc field).get f = stats.get f + if field = f then 1 else 0 := by
  cases field <;> cases f <;> rfl

/-- The sum of a quantity over a list. -/
abbrev total {α : Type} (q : α → ℕ) (l : List α) : ℕ := (l.map q).sum

lemma total_append {α : Type} (q : α → ℕ) (l l' : List α) :
    total q (l ++ l') = total q l + total q l' := by
  rw [total, List.map_append, List.sum_append]

lemma total_flatMap {α β : Type} {q : β → ℕ} {q' : α → ℕ} {f : α → List β}
    (h : ∀ a, total q (f a) = q' a) (l : List α) : total q (l.flatMap f) = total q' l := by
  induction l with
  | nil => rfl
  | cons a l ih => rw [List.flatMap_cons, total_append, h, ih, total, total, List.map_cons,
      List.sum_cons]

/-- The actions of a round increment the counters by what they count in it. -/
lemma total_counts_actions (f : StatsField) (o : Output) :
    total (Action.counts f) o.actions = o.counts f := by
  cases o with
  | reading evt topic fd =>
      obtain ⟨duplicate, outOfOrder, delayed, delayFor⟩ := fd
      cases f <;> cases duplicate <;> cases outOfOrder <;> cases delayed <;> rfl
  | _ => cases f <;> rfl

/-! ### Every message is somewhere -/

variable {rng cfg catalog}

/-- Where messages are: still to be put into the queue, with a task that sleeps or was cancelled,
refused by the queue, in it, with a thread, published, or lost to an error. -/
def Simulation.places (s : Simulation G) : Multiset PublishJob :=
  ↑(s.todo.flatMap Action.jobs) + ↑(s.sleeping.flatMap copiesOf) + ↑(s.cancelled.flatMap copiesOf)
    + ↑s.refused + ↑s.queue + ↑s.publishing + ↑s.published + ↑s.failed

variable (cfg) in
/-- No message is lost or made on the way, and the counters count what they say. -/
structure Accounted (s : Simulation G) : Prop where
  jobs : (↑(s.history.flatMap Output.copies) : Multiset PublishJob) = s.places
  counters : ∀ f, total (Output.counts f) s.history
    = s.stats.get f + total (Action.counts f) s.todo + total (sleepCounts f) s.sleeping
      + total (sleepCounts f) s.cancelled
  dropped : s.stats.dropped = s.refused.length
  published : s.stats.published = s.published.length
  publishErrs : s.stats.publishErrs = s.failed.length
  capacity : 0 < cfg.queueCapacity → s.queue.length ≤ cfg.queueCapacity
  threads : s.publishing.length ≤ cfg.publisherWorkers

/-- A task wakes up and comes to some outputs. -/
lemma Accounted.wakes {s : Simulation G} (h : Accounted cfg s) (hidle : s.todo = [])
    (sensors : ℕ → SensorState G) (running : String → Bool) (controllers : String → G)
    (outputs : List Output) :
    Accounted cfg { s with
      sensors, running, controllers
      todo := outputs.flatMap Output.actions
      history := s.history ++ outputs } := by
  refine ⟨?_, fun f => ?_, h.dropped, h.published, h.publishErrs, h.capacity, h.threads⟩
  · have hcopies : (outputs.flatMap Output.actions).flatMap Action.jobs
        = outputs.flatMap Output.copies := by
      rw [List.flatMap_assoc]
      exact congrArg (outputs.flatMap ·) (funext flatMap_jobs_actions)
    have hjobs := h.jobs
    simp only [Simulation.places, hidle, List.flatMap_nil, Multiset.coe_nil, zero_add] at hjobs
    simp only [Simulation.places, hcopies, List.flatMap_append, ← Multiset.coe_add, hjobs]
    abel
  · have hcounts := h.counters f
    dsimp only
    rw [hidle] at hcounts
    rw [total_append, hcounts, total_flatMap (total_counts_actions f)]
    have hnone : total (Action.counts f) [] = 0 := rfl
    omega

/-- A job is put into the queue, or refused. -/
lemma Accounted.enqueue {s : Simulation G} (h : Accounted cfg s) {job : PublishJob}
    {todo : List Action} (htodo : s.todo = .enqueue job :: todo) :
    Accounted cfg (({ s with todo } : Simulation G).enqueue cfg job) := by
  have hjobs := h.jobs
  have hcounts := h.counters
  simp only [Simulation.places, htodo, List.flatMap_cons, Action.jobs, ← Multiset.coe_add] at hjobs
  rw [Simulation.enqueue]
  split
  · refine ⟨?_, fun f => ?_, ?_, h.published, h.publishErrs, h.capacity, h.threads⟩
    · simp only [Simulation.places, ← Multiset.coe_add, hjobs]
      abel
    · rw [hcounts f, htodo]
      cases f <;> simp [total, Action.counts, Stats.get]
    · dsimp only
      rw [h.dropped, List.length_append]
      rfl
  · rename_i hroom
    refine ⟨?_, fun f => ?_, h.dropped, h.published, h.publishErrs, fun hpos => ?_, h.threads⟩
    · simp only [Simulation.places, ← Multiset.coe_add, hjobs]
      abel
    · rw [hcounts f, htodo]
      simp [total, Action.counts]
    · dsimp only at hroom ⊢
      rw [List.length_append, List.length_singleton]
      have hlt := not_le.mp (not_and.mp hroom hpos)
      omega

/-- The task that has the event loop takes an action. -/
lemma Accounted.act {s : Simulation G} (h : Accounted cfg s) {action : Action}
    {todo : List Action} (htodo : s.todo = action :: todo) :
    Accounted cfg (({ s with todo } : Simulation G).act cfg action) := by
  cases action with
  | enqueue job => exact h.enqueue htodo
  | inc field =>
      have hjobs := h.jobs
      simp only [Simulation.places, htodo, List.flatMap_cons, Action.jobs, List.nil_append]
        at hjobs
      refine ⟨hjobs, fun f => ?_, ?_, ?_, ?_, h.capacity, h.threads⟩
      · have hcounts := h.counters f
        rw [htodo] at hcounts
        rw [Simulation.act]
        dsimp only
        rw [hcounts, get_inc]
        simp only [total, List.map_cons, List.sum_cons, Action.counts]
        omega
      · cases field <;> exact h.dropped
      · cases field <;> exact h.published
      · cases field <;> exact h.publishErrs
  | delayedSend job duplicate =>
      have hjobs := h.jobs
      simp only [Simulation.places, htodo, List.flatMap_cons, Action.jobs, ← Multiset.coe_add]
        at hjobs
      refine ⟨?_, fun f => ?_, h.dropped, h.published, h.publishErrs, h.capacity, h.threads⟩
      · simp only [Simulation.act, Simulation.places, List.flatMap_append, List.flatMap_cons,
          List.flatMap_nil, List.append_nil, ← Multiset.coe_add, hjobs]
        abel
      · have hcounts := h.counters f
        rw [htodo] at hcounts
        rw [Simulation.act]
        dsimp only
        rw [hcounts, total_append]
        simp only [total, List.map_cons, List.map_nil, List.sum_cons, List.sum_nil, Action.counts,
          sleepCounts]
        omega

/-- A task `delayed_send` wakes up. -/
lemma Accounted.wake {s : Simulation G} (h : Accounted cfg s) (hidle : s.todo = []) {k : ℕ}
    {send : PublishJob × Bool} (hsend : s.sleeping[k]? = some send) :
    Accounted cfg { s with sleeping := s.sleeping.eraseIdx k, todo := sends send.1 send.2 } := by
  obtain ⟨hk, rfl⟩ := List.getElem?_eq_some_iff.mp hsend
  have hperm : (s.sleeping[k] :: s.sleeping.eraseIdx k).Perm s.sleeping :=
    List.getElem_cons_eraseIdx_perm hk
  have hjobs := h.jobs
  have hcopies : (↑(s.sleeping.flatMap copiesOf) : Multiset PublishJob)
      = ↑(copiesOf s.sleeping[k]) + ↑((s.sleeping.eraseIdx k).flatMap copiesOf) := by
    rw [Multiset.coe_add, ← List.flatMap_cons]
    exact Multiset.coe_eq_coe.mpr (hperm.flatMap_right copiesOf).symm
  simp only [Simulation.places, hidle, List.flatMap_nil, hcopies] at hjobs
  refine ⟨?_, fun f => ?_, h.dropped, h.published, h.publishErrs, h.capacity, h.threads⟩
  · simp only [Simulation.places, flatMap_jobs_sends, hjobs]
    rw [Multiset.coe_nil]
    abel
  · have hcounts := h.counters f
    have hsleeping : total (sleepCounts f) s.sleeping
        = sleepCounts f s.sleeping[k] + total (sleepCounts f) (s.sleeping.eraseIdx k) :=
      ((hperm.map (sleepCounts f)).sum_eq).symm.trans List.sum_cons
    have hsends : total (Action.counts f) (sends s.sleeping[k].1 s.sleeping[k].2)
        = sleepCounts f s.sleeping[k] := by
      generalize s.sleeping[k] = send
      obtain ⟨job, duplicate⟩ := send
      cases duplicate <;> cases f <;> rfl
    have hnone : total (Action.counts f) [] = 0 := rfl
    rw [hidle, hsleeping, hnone] at hcounts
    dsimp only
    rw [hcounts, hsends]
    omega

/-- A thread is done with a job. -/
lemma Accounted.done {s : Simulation G} (h : Accounted cfg s) {k : ℕ} {job : PublishJob}
    (hjob : s.publishing[k]? = some job) (ok : Bool) :
    Accounted cfg (
      let s := { s with publishing := s.publishing.eraseIdx k }
      if ok then
        { s with
          stats := { s.stats with published := s.stats.published + 1 }
          published := s.published ++ [job] }
      else
        { s with
          stats := { s.stats with publishErrs := s.stats.publishErrs + 1 }
          failed := s.failed ++ [job] }) := by
  obtain ⟨hk, rfl⟩ := List.getElem?_eq_some_iff.mp hjob
  have hperm : (s.publishing[k] :: s.publishing.eraseIdx k).Perm s.publishing :=
    List.getElem_cons_eraseIdx_perm hk
  have hjobs := h.jobs
  have hcopies : (↑s.publishing : Multiset PublishJob)
      = ↑[s.publishing[k]] + ↑(s.publishing.eraseIdx k) :=
    Multiset.coe_eq_coe.mpr hperm.symm
  simp only [Simulation.places, hcopies] at hjobs
  have hthreads : (s.publishing.eraseIdx k).length ≤ cfg.publisherWorkers :=
    (List.length_eraseIdx_le _ _).trans h.threads
  cases ok with
  | true =>
      refine ⟨?_, fun f => ?_, h.dropped, ?_, h.publishErrs, h.capacity, hthreads⟩
      · simp only [Simulation.places, if_true, ← Multiset.coe_add, hjobs]
        abel
      · exact (h.counters f).trans (by cases f <;> rfl)
      · simp only [if_true, h.published, List.length_append, List.length_singleton]
  | false =>
      refine ⟨?_, fun f => ?_, h.dropped, h.published, ?_, h.capacity, hthreads⟩
      · simp only [Simulation.places, Bool.false_eq_true, if_false, ← Multiset.coe_add, hjobs]
        abel
      · exact (h.counters f).trans (by cases f <;> rfl)
      · simp only [Bool.false_eq_true, if_false, h.publishErrs, List.length_append,
          List.length_singleton]

/-- **A step loses no message.** -/
lemma accounted_step {s : Simulation G} (h : Accounted cfg s) (m : SimulationMove) :
    Accounted cfg (s.step rng cfg catalog m) := by
  cases m with
  | sensor i eventId =>
      rw [Simulation.step]
      cases catalog[i]? with
      | none => exact h
      | some entry =>
          dsimp only
          split
          · exact h
          · rename_i hfree
            exact h.wakes (not_not.mp (not_or.mp hfree).1) _ _ _ _
  | machine i =>
      rw [Simulation.step]
      cases catalog[i]? with
      | none => exact h
      | some entry =>
          dsimp only
          split
          · exact h
          · rename_i hfree
            exact h.wakes (not_not.mp (not_or.mp hfree).1) _ _ _ _
  | wake k =>
      rw [Simulation.step]
      split
      · exact h
      · rename_i hidle
        cases hsend : s.sleeping[k]? with
        | none => exact h
        | some send => exact h.wake (not_not.mp hidle) hsend
  | loop =>
      rw [Simulation.step]
      cases htodo : s.todo with
      | nil => exact h
      | cons action todo => exact h.act htodo
  | take =>
      rw [Simulation.step]
      cases hqueue : s.queue with
      | nil => exact h
      | cons job queue =>
          dsimp only
          split
          · rename_i hfree
            have hjobs := h.jobs
            rw [Simulation.places, hqueue] at hjobs
            refine ⟨?_, h.counters, h.dropped, h.published, h.publishErrs, fun hpos => ?_, ?_⟩
            · rw [hjobs, Simulation.places, ← Multiset.cons_coe, ← Multiset.singleton_add,
                ← Multiset.coe_add, Multiset.coe_singleton]
              abel
            · have hcapacity := h.capacity hpos
              rw [hqueue, List.length_cons] at hcapacity
              dsimp only
              omega
            · rw [List.length_append]
              exact hfree
          · exact h
  | done k ok =>
      rw [Simulation.step]
      cases hjob : s.publishing[k]? with
      | none => exact h
      | some job => exact h.done hjob ok
  | elapse dt => exact ⟨h.jobs, h.counters, h.dropped, h.published, h.publishErrs, h.capacity,
      h.threads⟩
  | shutdown => exact ⟨h.jobs, h.counters, h.dropped, h.published, h.publishErrs, h.capacity,
      h.threads⟩
  | close =>
      rw [Simulation.step]
      split
      · have hjobs := h.jobs
        refine ⟨?_, fun f => ?_, h.dropped, h.published, h.publishErrs, h.capacity, h.threads⟩
        · simp only [Simulation.places, List.flatMap_append, List.flatMap_nil, Multiset.coe_nil,
            ← Multiset.coe_add] at hjobs ⊢
          rw [hjobs]
          abel
        · have hcounts := h.counters f
          have hnone : total (sleepCounts f) [] = 0 := rfl
          dsimp only
          rw [total_append, hcounts, hnone]
          omega
      · exact h

/-- Nothing is sent at the start. -/
lemma accounted_start (sensors : ℕ → G) (controllers : String → G) :
    Accounted cfg (Simulation.start cfg catalog sensors controllers) := by
  refine ⟨rfl, fun f => ?_, rfl, rfl, rfl, fun hpos => ?_, Nat.zero_le _⟩
  · cases f <;> rfl
  · exact le_of_lt hpos

variable (rng cfg catalog) in
/-- **Every message is accounted for**: in every state of every run of the tasks, the event loop and
the publishing threads, the messages that the tasks have come to, duplicates twice, are the ones
that are still to be queued, asleep, cancelled, dropped, queued, being published, published or lost
to an error, each once; every counter counts what it says; and queue and threads keep to their bounds. -/
theorem accounting (sensors : ℕ → G) (controllers : String → G) (sched : List SimulationMove) :
    Statement.EachState (Simulation.step rng cfg catalog) (Accounted cfg) sched
      (Simulation.start cfg catalog sensors controllers) :=
  Statement.eachState_of_step (fun s m (h : Accounted cfg s) => accounted_step h m)
    (accounted_start sensors controllers) sched

end Simulator

end InduSense
