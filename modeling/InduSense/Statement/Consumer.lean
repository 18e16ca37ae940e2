import InduSense.Statement.Program
import InduSense.Statement.Schedule

/-!
Consumers of one partition of a log, with offsets committed by hand.

The consumer polls the messages in order, runs a program on each and commits the offset after the
message when the program reports it done; a message it does not report done is held: its offset
is not committed, and the consumer goes on.  After a restart or a rebalance consumption resumes at
the committed offset.

* `Consumer`, `Consumer.step`: the program of the consumer, and the events of its run.
* `NoLoss`: every offset below the committed one belongs to a message once reported done.
* `NothingHeld`: a message is polled only when none before it is held.
* `noLoss_poll_iff`: what one poll does to `NoLoss`; `nothingHeld_iff`: `NothingHeld` is the weakest
  condition for it; `noLoss_of_nothingHeld`: whole runs.
-/

namespace Statement

variable {S : Signature} {ε σ Msg : Type}

/-- What a consumer does with a message, and with its service when the process starts anew. -/
structure Consumer (S : Signature) (ε σ Msg : Type) where
  exec : Exec S ε σ
  program : σ → Msg → Prog S ε Bool
  restart : σ → σ

namespace Consumer

/-- The service, the offset the group has committed, the offset of the next poll, and the offsets
of the messages reported done so far. -/
structure State (σ : Type) where
  service : σ
  committed : ℕ
  position : ℕ
  reported : List ℕ

/-- The first start of the group, at the beginning of the partition. -/
def start (service : σ) : State σ := ⟨service, 0, 0, []⟩

/-- The events of a run. -/
inductive Event (S : Signature) (ε σ : Type) where
  /-- A poll; the program meets the fates of `env`, and a commit takes effect if `commits`. -/
  | poll (env : Env S ε) (commits : Bool)
  | rebalance
  | restart
  /-- What time and other threads do to the service. -/
  | outside (f : σ → σ)

variable (c : Consumer S ε σ Msg) (log : List Msg)

/-- The run of the program on a message. -/
def runOn (env : Env S ε) (s : State σ) (m : Msg) : Run S ε Bool σ :=
  (c.program s.service m).run c.exec env [] s.service

/-- One event.  A poll at the end of the partition returns nothing. -/
def step (s : State σ) : Event S ε σ → State σ
  | .poll env commits =>
      match log[s.position]? with
      | none => s
      | some m =>
          let r := c.runOn env s m
          match r.outcome with
          | .returned true =>
              { service := r.store
                committed := if commits then s.position + 1 else s.committed
                position := s.position + 1
                reported := s.reported ++ [s.position] }
          | .returned false => { s with service := r.store, position := s.position + 1 }
          | _ => { s with service := c.restart r.store, position := s.committed }
  | .rebalance => { s with position := s.committed }
  | .restart => { s with service := c.restart s.service, position := s.committed }
  | .outside f => { s with service := f s.service }

/-- Every offset below the committed one belongs to a message once reported done. -/
def NoLoss (s : State σ) : Prop := ∀ o < s.committed, o ∈ s.reported

/-- The message at an offset has been polled and is neither committed nor reported done. -/
def Held (s : State σ) (o : ℕ) : Prop := s.committed ≤ o ∧ o < s.position ∧ o ∉ s.reported

/-- A poll happens only when no message before it is held. -/
def NothingHeld (s : State σ) : Event S ε σ → Prop
  | .poll _ _ => ∀ o < s.position, s.committed ≤ o → o ∈ s.reported
  | _ => True

instance (s : State σ) : Decidable (NoLoss s) :=
  inferInstanceAs (Decidable (∀ o < s.committed, o ∈ s.reported))

instance (s : State σ) : (e : Event S ε σ) → Decidable (NothingHeld s e)
  | .poll _ _ => inferInstanceAs (Decidable (∀ o < s.position, s.committed ≤ o → o ∈ s.reported))
  | .rebalance => isTrue trivial
  | .restart => isTrue trivial
  | .outside _ => isTrue trivial

variable {c log}

lemma nothingHeld_poll_iff {s : State σ} {env : Env S ε} {commits : Bool} :
    NothingHeld s (.poll env commits) ↔ ∀ o, ¬ Held s o := by
  constructor
  · rintro h o ⟨hle, hlt, hnot⟩
    exact hnot (h o hlt hle)
  · intro h o hlt hle
    by_contra hnot
    exact h o ⟨hle, hlt, hnot⟩

/-! ### One event -/

variable (c log) in
/-- What a poll does: nothing at the end of the partition, and otherwise what the program's end
calls for. -/
lemma step_poll_cases (s : State σ) (env : Env S ε) (commits : Bool) :
    (log[s.position]? = none ∧ c.step log s (.poll env commits) = s)
      ∨ ∃ m, log[s.position]? = some m
        ∧ (((c.runOn env s m).outcome = .returned true
            ∧ (c.step log s (.poll env commits)).committed
                = (if commits then s.position + 1 else s.committed)
            ∧ (c.step log s (.poll env commits)).position = s.position + 1
            ∧ (c.step log s (.poll env commits)).reported = s.reported ++ [s.position])
          ∨ ((c.runOn env s m).outcome ≠ .returned true
            ∧ (c.step log s (.poll env commits)).committed = s.committed
            ∧ ((c.step log s (.poll env commits)).position = s.position + 1
              ∨ (c.step log s (.poll env commits)).position = s.committed)
            ∧ (c.step log s (.poll env commits)).reported = s.reported)) := by
  rw [step]
  cases hm : log[s.position]? with
  | none => exact .inl ⟨rfl, rfl⟩
  | some m =>
      refine .inr ⟨m, rfl, ?_⟩
      dsimp only
      cases hout : (c.runOn env s m).outcome with
      | returned b =>
          cases b with
          | true => exact .inl ⟨rfl, rfl, rfl, rfl⟩
          | false => exact .inr ⟨by simp, rfl, .inl rfl, rfl⟩
      | raised e => exact .inr ⟨by simp, rfl, .inr rfl, rfl⟩
      | died => exact .inr ⟨by simp, rfl, .inr rfl, rfl⟩

/-- **One poll.** From a state without loss it leads to one with a loss exactly when it commits past
a message that is held. -/
theorem noLoss_poll_iff {s : State σ} (hs : NoLoss s) (env : Env S ε) (commits : Bool) :
    NoLoss (c.step log s (.poll env commits)) ↔
      ¬ (commits = true ∧ (∃ m, log[s.position]? = some m
          ∧ (c.runOn env s m).outcome = .returned true) ∧ ∃ o, Held s o) := by
  rcases step_poll_cases c log s env commits with
    ⟨hm, hsame⟩ | ⟨m, hm, ⟨hout, hcom, -, hrep⟩ | ⟨hout, hcom, -, hrep⟩⟩
  · rw [hsame]
    refine iff_of_true hs ?_
    rintro ⟨-, ⟨m, hm', -⟩, -⟩
    rw [hm] at hm'
    cases hm'
  · rw [NoLoss, hcom, hrep]
    cases commits with
    | false => simpa using fun o ho => .inl (hs o ho)
    | true =>
        rw [if_pos rfl]
        constructor
        · rintro h ⟨-, -, o, hle, hlt, hnot⟩
          rcases List.mem_append.mp (h o (Nat.lt_succ_of_lt hlt)) with ho | ho
          · exact hnot ho
          · rw [List.mem_singleton.mp ho] at hlt
            exact Nat.lt_irrefl _ hlt
        · intro h o ho
          rcases Nat.lt_succ_iff_lt_or_eq.mp ho with hlt | rfl
          · refine List.mem_append_left _ ?_
            by_cases hle : s.committed ≤ o
            · by_contra hnot
              exact h ⟨rfl, ⟨m, hm, hout⟩, o, hle, hlt, hnot⟩
            · exact hs o (Nat.lt_of_not_le hle)
          · exact List.mem_append_right _ (List.mem_singleton_self _)
  · rw [NoLoss, hcom, hrep]
    refine iff_of_true hs ?_
    rintro ⟨-, ⟨m', hm', hout'⟩, -⟩
    rw [hm, Option.some.injEq] at hm'
    exact hout (hm' ▸ hout')

/-- Before a message that the program can report done, nothing is held exactly when no poll of it
loses one, whatever fates the poll meets. -/
theorem nothingHeld_iff {s : State σ} (hs : NoLoss s) {m : Msg} (hm : log[s.position]? = some m)
    {done : Env S ε} (hdone : (c.runOn done s m).outcome = .returned true) :
    NothingHeld s (.poll done true) ↔
      ∀ env commits, NoLoss (c.step log s (.poll env commits)) := by
  rw [nothingHeld_poll_iff]
  constructor
  · intro h env commits
    refine (noLoss_poll_iff hs env commits).mpr ?_
    rintro ⟨-, -, o, ho⟩
    exact h o ho
  · intro h o ho
    exact (noLoss_poll_iff hs done true).mp (h done true) ⟨rfl, ⟨m, hm, hdone⟩, o, ho⟩

/-! ### Runs -/

/-- An event before which nothing is held keeps a consumer without loss. -/
lemma noLoss_step {s : State σ} (hs : NoLoss s) {e : Event S ε σ} (he : NothingHeld s e) :
    NoLoss (c.step log s e) := by
  cases e with
  | poll env commits =>
      refine (noLoss_poll_iff hs env commits).mpr ?_
      rintro ⟨-, -, o, ho⟩
      exact nothingHeld_poll_iff.mp he o ho
  | rebalance => exact hs
  | restart => exact hs
  | outside f => exact hs

variable (c log) in
/-- **No loss while nothing is held.** In a run in which a message is polled only when none before
it is held, every committed offset is that of a message once reported done. -/
theorem noLoss_of_nothingHeld (service : σ) (sched : List (Event S ε σ))
    (h : EachStep (c.step log) NothingHeld sched (start service)) :
    EachState (c.step log) NoLoss sched (start service) := by
  have hstart : NoLoss (start service) := fun o ho => absurd ho (Nat.not_lt_zero o)
  exact eachState_of_eachStep (J := fun _ => True) (fun _ _ _ => trivial)
    (fun _ _ _ hs he => noLoss_step hs he) trivial hstart h

end Consumer

end Statement
