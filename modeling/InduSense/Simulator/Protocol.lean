import Mathlib.Data.List.Chain
import InduSense.Simulator.Accounting

/-!
The order in which the simulator's tasks come to their messages.

* `Observed.accept`: the protocol of sensors and machines, for whoever sees their messages only: a
  sensor fails and recovers in turn and a machine stops and starts in turn; readings are numbered,
  and come from sensors that have not failed on machines that run.
* `Orderly`, `orderly_of_acceptAll`: what that means for the whole history.
* `Matches`, `matches_step`: the tasks keep to the protocol, whatever they draw.
* `orderly_history`: so does every run.
-/

namespace InduSense

namespace Simulator

/-! ### The protocol -/

/-- What the messages so far say of each machine, by device id, and of each sensor. -/
structure Observed where
  running : String → Bool := fun _ => true
  failed : String → Bool := fun _ => false
  seq : String → ℤ := fun _ => 0

/-- What is allowed next, and what it says. -/
def Observed.accept (p : Observed) : Output → Option Observed
  | .sensorFailed entry _ =>
      if p.running entry.deviceId = true ∧ p.failed entry.sensorId = false then
        some { p with failed := Function.update p.failed entry.sensorId true }
      else none
  | .sensorRecovered entry _ =>
      if p.running entry.deviceId = true ∧ p.failed entry.sensorId = true then
        some { p with failed := Function.update p.failed entry.sensorId false }
      else none
  | .anomaly => some p
  | .reading evt _ _ =>
      if p.running evt.deviceId = true ∧ p.failed evt.sensorId = false
          ∧ evt.sequenceNumber = p.seq evt.sensorId + 1 then
        some { p with seq := Function.update p.seq evt.sensorId evt.sequenceNumber }
      else none
  | .machineChanged entry running _ =>
      if p.running entry.deviceId ≠ running then
        some { p with running := Function.update p.running entry.deviceId running }
      else none

/-- A whole history. -/
def Observed.acceptAll (p : Observed) (history : List Output) : Option Observed :=
  history.foldlM Observed.accept p

lemma acceptAll_append (p : Observed) (l l' : List Output) :
    p.acceptAll (l ++ l') = (p.acceptAll l).bind fun p' => p'.acceptAll l' :=
  List.foldlM_append

/-! ### Histories -/

/-- The sequence numbers of the readings of a sensor. -/
def seqs (sensorId : String) (history : List Output) : List ℤ :=
  history.filterMap fun
    | .reading evt _ _ => if evt.sensorId = sensorId then some evt.sequenceNumber else none
    | _ => none

/-- The failures of a sensor, `true`, and its recoveries, `false`. -/
def failures (sensorId : String) (history : List Output) : List Bool :=
  history.filterMap fun
    | .sensorFailed entry _ => if entry.sensorId = sensorId then some true else none
    | .sensorRecovered entry _ => if entry.sensorId = sensorId then some false else none
    | _ => none

/-- The starts of a machine, `true`, and its stops, `false`, by device id. -/
def runs (deviceId : String) (history : List Output) : List Bool :=
  history.filterMap fun
    | .machineChanged entry running _ => if entry.deviceId = deviceId then some running else none
    | _ => none

/-- Each is unlike the one before it, and the first unlike `a`. -/
abbrev Alternates (a : Bool) (l : List Bool) : Prop := (a :: l).IsChain (· ≠ ·)

lemma alternates_concat {a b : Bool} {l : List Bool} :
    Alternates a (l ++ [b]) ↔ Alternates a l ∧ l.getLastD a ≠ b := by
  induction l generalizing a with
  | nil => simp [Alternates]
  | cons c l ih =>
      rw [Alternates, List.cons_append, List.isChain_cons_cons, Alternates,
        List.isChain_cons_cons, List.getLastD_cons, and_assoc]
      exact and_congr_right fun _ => ih

/-- What holds of a history that the protocol accepts, and of what it says in the end. -/
structure Orderly (history : List Output) (p : Observed) : Prop where
  numbered : ∀ sensorId, ∃ n : ℕ, p.seq sensorId = n
    ∧ seqs sensorId history = (List.range n).map fun k : ℕ => (k : ℤ) + 1
  failing : ∀ sensorId, Alternates false (failures sensorId history)
    ∧ (failures sensorId history).getLastD false = p.failed sensorId
  stopping : ∀ deviceId, Alternates true (runs deviceId history)
    ∧ (runs deviceId history).getLastD true = p.running deviceId
  quiet : ∀ before evt topic fd after, history = before ++ .reading evt topic fd :: after →
    (failures evt.sensorId before).getLastD false = false
      ∧ (runs evt.deviceId before).getLastD true = true

lemma orderly_nil : Orderly [] {} where
  numbered _ := ⟨0, rfl, rfl⟩
  failing _ := ⟨List.isChain_singleton _, rfl⟩
  stopping _ := ⟨List.isChain_singleton _, rfl⟩
  quiet _ _ _ _ _ h := by simp at h

section Concat

variable {history : List Output} {p p' : Observed} {o : Output}

/-- What an output adds to the numbers of a sensor. -/
lemma seqs_concat (sensorId : String) (history : List Output) (o : Output) :
    seqs sensorId (history ++ [o]) = seqs sensorId history ++ seqs sensorId [o] :=
  List.filterMap_append

lemma failures_concat (sensorId : String) (history : List Output) (o : Output) :
    failures sensorId (history ++ [o]) = failures sensorId history ++ failures sensorId [o] :=
  List.filterMap_append

lemma runs_concat (deviceId : String) (history : List Output) (o : Output) :
    runs deviceId (history ++ [o]) = runs deviceId history ++ runs deviceId [o] :=
  List.filterMap_append

/-- A state that alternates and is changed to its opposite. -/
lemma alternates_update {a b : Bool} {l : List Bool} {now : String → Bool} {id id' : String}
    (h : Alternates a l ∧ l.getLastD a = now id) (hb : now id' ≠ b) :
    Alternates a (l ++ if id' = id then [b] else [])
      ∧ (l ++ if id' = id then [b] else []).getLastD a = Function.update now id' b id := by
  split
  · rename_i hid
    subst hid
    refine ⟨alternates_concat.mpr ⟨h.1, by rw [h.2]; exact hb⟩, ?_⟩
    rw [List.getLastD_concat, Function.update_self]
  · rename_i hid
    rw [List.append_nil, Function.update_of_ne (Ne.symm hid)]
    exact h

/-- The numbers of a sensor go on by one. -/
lemma Orderly.numbered_concat (h : Orderly history p) (ho : p.accept o = some p')
    (sensorId : String) : ∃ n : ℕ, p'.seq sensorId = n
      ∧ seqs sensorId (history ++ [o]) = (List.range n).map fun k : ℕ => (k : ℤ) + 1 := by
  obtain ⟨n, hn, hseqs⟩ := h.numbered sensorId
  rw [seqs_concat, hseqs]
  cases o with
  | reading evt topic fd =>
      rw [Observed.accept] at ho
      split at ho
      · rename_i hallowed
        cases ho
        by_cases hid : evt.sensorId = sensorId
        · subst hid
          refine ⟨n + 1, ?_, ?_⟩
          · dsimp only
            rw [Function.update_self, hallowed.2.2, hn]
            push_cast
            rfl
          · rw [List.range_succ, List.map_append]
            simp [seqs, hallowed.2.2, hn]
        · refine ⟨n, ?_, by simp [seqs, hid]⟩
          dsimp only
          rw [Function.update_of_ne (Ne.symm hid)]
          exact hn
      · cases ho
  | anomaly =>
      cases ho
      exact ⟨n, hn, List.append_nil _⟩
  | _ =>
      rw [Observed.accept] at ho
      split at ho
      · cases ho
        exact ⟨n, hn, List.append_nil _⟩
      · cases ho

/-- A sensor fails and recovers in turn. -/
lemma Orderly.failing_concat (h : Orderly history p) (ho : p.accept o = some p')
    (sensorId : String) : Alternates false (failures sensorId (history ++ [o]))
      ∧ (failures sensorId (history ++ [o])).getLastD false = p'.failed sensorId := by
  have hnow := h.failing sensorId
  rw [failures_concat]
  cases o with
  | sensorFailed entry now =>
      rw [Observed.accept] at ho
      split at ho
      · rename_i hallowed
        cases ho
        have hone : failures sensorId [.sensorFailed entry now]
            = if entry.sensorId = sensorId then [true] else [] := by
          by_cases hid : entry.sensorId = sensorId <;> simp [failures, hid]
        rw [hone]
        exact alternates_update hnow (by rw [hallowed.2]; decide)
      · cases ho
  | sensorRecovered entry now =>
      rw [Observed.accept] at ho
      split at ho
      · rename_i hallowed
        cases ho
        have hone : failures sensorId [.sensorRecovered entry now]
            = if entry.sensorId = sensorId then [false] else [] := by
          by_cases hid : entry.sensorId = sensorId <;> simp [failures, hid]
        rw [hone]
        exact alternates_update hnow (by rw [hallowed.2]; decide)
      · cases ho
  | anomaly =>
      cases ho
      rw [show failures sensorId [.anomaly] = [] from rfl, List.append_nil]
      exact hnow
  | reading evt topic fd =>
      rw [Observed.accept] at ho
      split at ho
      · cases ho
        rw [show failures sensorId [.reading evt topic fd] = [] from rfl, List.append_nil]
        exact hnow
      · cases ho
  | machineChanged entry running now =>
      rw [Observed.accept] at ho
      split at ho
      · cases ho
        rw [show failures sensorId [.machineChanged entry running now] = [] from rfl,
          List.append_nil]
        exact hnow
      · cases ho

/-- A machine stops and starts in turn. -/
lemma Orderly.stopping_concat (h : Orderly history p) (ho : p.accept o = some p')
    (deviceId : String) : Alternates true (runs deviceId (history ++ [o]))
      ∧ (runs deviceId (history ++ [o])).getLastD true = p'.running deviceId := by
  have hnow := h.stopping deviceId
  rw [runs_concat]
  cases o with
  | machineChanged entry running now =>
      rw [Observed.accept] at ho
      split at ho
      · rename_i hallowed
        cases ho
        have hone : runs deviceId [.machineChanged entry running now]
            = if entry.deviceId = deviceId then [running] else [] := by
          by_cases hid : entry.deviceId = deviceId <;> simp [runs, hid]
        rw [hone]
        exact alternates_update hnow hallowed
      · cases ho
  | anomaly =>
      cases ho
      rw [show runs deviceId [.anomaly] = [] from rfl, List.append_nil]
      exact hnow
  | _ =>
      rw [Observed.accept] at ho
      split at ho
      · cases ho
        change Alternates true (runs deviceId history ++ [])
          ∧ (runs deviceId history ++ []).getLastD true = _
        rw [List.append_nil]
        exact hnow
      · cases ho

/-- **What one more output that the protocol accepts keeps.** -/
lemma Orderly.concat (h : Orderly history p) (ho : p.accept o = some p') :
    Orderly (history ++ [o]) p' := by
  refine ⟨h.numbered_concat ho, h.failing_concat ho, h.stopping_concat ho,
    fun before evt topic fd after hsplit => ?_⟩
  rcases List.eq_nil_or_concat after with rfl | ⟨after, last, rfl⟩
  · obtain ⟨rfl, hlast⟩ := List.append_inj' hsplit rfl
    obtain rfl := (List.cons.inj hlast).1
    rw [Observed.accept] at ho
    split at ho
    · rename_i hallowed
      rw [(h.failing _).2, (h.stopping _).2]
      exact ⟨hallowed.2.1, hallowed.1⟩
    · cases ho
  · rw [List.concat_eq_append, ← List.cons_append, ← List.append_assoc] at hsplit
    obtain ⟨hhistory, -⟩ := List.append_inj' hsplit rfl
    exact h.quiet before evt topic fd after hhistory

end Concat

/-- **A history that the protocol accepts is orderly.** -/
theorem orderly_of_acceptAll {history : List Output} {p : Observed}
    (h : ({} : Observed).acceptAll history = some p) : Orderly history p := by
  induction history using List.reverseRecOn generalizing p with
  | nil =>
      cases h
      exact orderly_nil
  | append_singleton history o ih =>
      rw [acceptAll_append, Option.bind_eq_some_iff] at h
      obtain ⟨q, hq, ho⟩ := h
      refine (ih hq).concat ?_
      simpa [Observed.acceptAll] using ho

/-! ### The tasks keep to it -/

variable {G : Type} {rng : Random G} {cfg : Config} {catalog : List SensorCatalogEntry}

variable (rng cfg) in
/-- All that a round of a sensor's task can come to: nothing; a failure; or a reading, after the
recovery of a sensor that had failed. -/
lemma runSensor_cases (entry : SensorCatalogEntry) (running : Bool) (eventId : Uuid)
    (now : Datetime) (s : SensorState G) :
    let r := runSensor rng cfg entry running eventId now s
    (r.2 = [] ∧ r.1.failed = s.failed ∧ r.1.seq = s.seq)
      ∨ (running = true ∧ s.failed = false ∧ r.2 = [.sensorFailed entry now]
          ∧ r.1.failed = true ∧ r.1.seq = s.seq)
      ∨ (running = true ∧ r.1.failed = false ∧ r.1.seq = s.seq + 1 ∧ ∃ anomaly value fd,
          (anomaly = [] ∨ anomaly = [.anomaly])
            ∧ r.2 = (if s.failed then [.sensorRecovered entry now] else []) ++ (anomaly
              ++ [.reading (sensorReading entry eventId now (s.seq + 1) value)
                entry.telemetryTopic fd])) := by
  cases running with
  | false => exact .inl ⟨rfl, rfl, rfl⟩
  | true =>
      dsimp only [runSensor]
      rw [if_pos rfl]
      generalize sensorShouldFail rng s.failed cfg.sensorFailureRate (rng.random s.rng).2 = draw
      obtain ⟨failed, g⟩ := draw
      cases failed with
      | true =>
          cases hs : s.failed with
          | true => exact .inl ⟨rfl, rfl, rfl⟩
          | false => exact .inr (.inl ⟨rfl, rfl, rfl, rfl, rfl⟩)
      | false =>
          generalize s.gen.next rng g = reading
          obtain ⟨⟨value, isAnomaly⟩, gen, g'⟩ := reading
          generalize decideFaults rng cfg g' = decision
          obtain ⟨fd, g''⟩ := decision
          refine .inr (.inr ⟨rfl, rfl, rfl, if isAnomaly then [.anomaly] else [], value, fd, ?_,
            ?_⟩)
          · cases isAnomaly with
            | true => exact .inr rfl
            | false => exact .inl rfl
          · cases hs : s.failed <;> rfl

variable (rng cfg catalog) in
/-- All that a move can come to: nothing; what a round of a sensor's task comes to; or a machine
that stops or starts. -/
lemma step_cases (s : Simulation G) (m : SimulationMove) :
    let s' := s.step rng cfg catalog m
    (s'.history = s.history ∧ s'.sensors = s.sensors ∧ s'.running = s.running)
      ∨ (∃ (i : ℕ) (entry : SensorCatalogEntry) (eventId : Uuid), catalog[i]? = some entry
          ∧ let r := runSensor rng cfg entry (s.running entry.deviceId) eventId
              (Ingestion.utcDatetime s.now) (s.sensors i)
            s'.history = s.history ++ r.2 ∧ s'.sensors = Function.update s.sensors i r.1
              ∧ s'.running = s.running)
      ∨ ∃ (i : ℕ) (entry : SensorCatalogEntry), catalog[i]? = some entry
          ∧ s'.history = s.history ++ [.machineChanged entry (!s.running entry.deviceId)
              (Ingestion.utcDatetime s.now)]
          ∧ s'.sensors = s.sensors
          ∧ s'.running = Function.update s.running entry.deviceId (!s.running entry.deviceId) := by
  cases m with
  | sensor i eventId =>
      dsimp only [Simulation.step]
      cases hi : catalog[i]? with
      | none => exact .inl ⟨rfl, rfl, rfl⟩
      | some entry =>
          dsimp only
          split
          · exact .inl ⟨rfl, rfl, rfl⟩
          · exact .inr (.inl ⟨i, entry, eventId, hi, rfl, rfl, rfl⟩)
  | machine i =>
      dsimp only [Simulation.step]
      cases hi : catalog[i]? with
      | none => exact .inl ⟨rfl, rfl, rfl⟩
      | some entry =>
          dsimp only
          split
          · exact .inl ⟨rfl, rfl, rfl⟩
          · rw [runMachineController]
            generalize shouldToggle rng (s.running entry.deviceId)
              (s.controllers entry.deviceId) = draw
            obtain ⟨toggle, g⟩ := draw
            cases toggle with
            | true => exact .inr (.inr ⟨i, entry, hi, rfl, rfl, rfl⟩)
            | false => exact .inl ⟨List.append_nil _, rfl, Function.update_eq_self _ _⟩
  | wake k =>
      dsimp only [Simulation.step]
      split
      · exact .inl ⟨rfl, rfl, rfl⟩
      · cases s.sleeping[k]? <;> exact .inl ⟨rfl, rfl, rfl⟩
  | loop =>
      dsimp only [Simulation.step]
      cases s.todo with
      | nil => exact .inl ⟨rfl, rfl, rfl⟩
      | cons action todo =>
          cases action with
          | enqueue job =>
              dsimp only [Simulation.act, Simulation.enqueue]
              split <;> exact .inl ⟨rfl, rfl, rfl⟩
          | _ => exact .inl ⟨rfl, rfl, rfl⟩
  | take =>
      dsimp only [Simulation.step]
      cases s.queue with
      | nil => exact .inl ⟨rfl, rfl, rfl⟩
      | cons job queue =>
          dsimp only
          split <;> exact .inl ⟨rfl, rfl, rfl⟩
  | done k ok =>
      dsimp only [Simulation.step]
      cases s.publishing[k]? with
      | none => exact .inl ⟨rfl, rfl, rfl⟩
      | some job => cases ok <;> exact .inl ⟨rfl, rfl, rfl⟩
  | elapse dt => exact .inl ⟨rfl, rfl, rfl⟩
  | shutdown => exact .inl ⟨rfl, rfl, rfl⟩
  | close =>
      dsimp only [Simulation.step]
      split <;> exact .inl ⟨rfl, rfl, rfl⟩

/-- What the messages say is how the tasks stand. -/
structure Matches (catalog : List SensorCatalogEntry) (s : Simulation G) (p : Observed) : Prop where
  running : p.running = s.running
  failed : ∀ i entry, catalog[i]? = some entry → p.failed entry.sensorId = (s.sensors i).failed
  seq : ∀ i entry, catalog[i]? = some entry → p.seq entry.sensorId = (s.sensors i).seq

variable (catalog) in
/-- The messages so far keep to the protocol, and say how the tasks stand. -/
def KeepsTo (s : Simulation G) : Prop :=
  ∃ p, ({} : Observed).acceptAll s.history = some p ∧ Matches catalog s p

/-- No two sensors of the catalog have one id. -/
def Distinct (catalog : List SensorCatalogEntry) : Prop :=
  (catalog.map SensorCatalogEntry.sensorId).Nodup

lemma Distinct.eq (h : Distinct catalog) {i j : ℕ} {e e' : SensorCatalogEntry}
    (hi : catalog[i]? = some e) (hj : catalog[j]? = some e') (hid : e.sensorId = e'.sensorId) :
    i = j := by
  obtain ⟨hilt, rfl⟩ := List.getElem?_eq_some_iff.mp hi
  obtain ⟨hjlt, rfl⟩ := List.getElem?_eq_some_iff.mp hj
  have hi' : i < (catalog.map SensorCatalogEntry.sensorId).length := by simpa using hilt
  have hj' : j < (catalog.map SensorCatalogEntry.sensorId).length := by simpa using hjlt
  refine (@List.Nodup.getElem_inj_iff _ _ h i hi' j hj').mp ?_
  simpa using hid

/-- A sensor that comes to something: what is observed of it is updated, and of no other. -/
lemma Matches.sensor {s : Simulation G} {p : Observed} (h : Matches catalog s p)
    (hd : Distinct catalog) {i : ℕ} {entry : SensorCatalogEntry} (hi : catalog[i]? = some entry)
    {sensor : SensorState G} {s' : Simulation G}
    (hsensors : s'.sensors = Function.update s.sensors i sensor)
    (hrunning : s'.running = s.running) :
    Matches catalog s' { p with
      failed := Function.update p.failed entry.sensorId sensor.failed
      seq := Function.update p.seq entry.sensorId sensor.seq } := by
  refine ⟨h.running.trans hrunning.symm, fun j entry' hj => ?_, fun j entry' hj => ?_⟩
  · rw [hsensors]
    dsimp only
    by_cases hij : j = i
    · subst hij
      obtain rfl := Option.some.inj (hi.symm.trans hj)
      rw [Function.update_self, Function.update_self]
    · rw [Function.update_of_ne hij, Function.update_of_ne fun hid => hij (hd.eq hj hi hid)]
      exact h.failed j entry' hj
  · rw [hsensors]
    dsimp only
    by_cases hij : j = i
    · subst hij
      obtain rfl := Option.some.inj (hi.symm.trans hj)
      rw [Function.update_self, Function.update_self]
    · rw [Function.update_of_ne hij, Function.update_of_ne fun hid => hij (hd.eq hj hi hid)]
      exact h.seq j entry' hj

lemma acceptAll_singleton (p : Observed) (o : Output) : p.acceptAll [o] = p.accept o := by
  rw [Observed.acceptAll, List.foldlM_cons]
  exact bind_pure _

/-- The recovery, if there is one. -/
lemma acceptAll_recovery {p : Observed} {entry : SensorCatalogEntry} {now : Datetime}
    {failed : Bool} (hrunning : p.running entry.deviceId = true)
    (hfailed : p.failed entry.sensorId = failed) :
    p.acceptAll (if failed then [.sensorRecovered entry now] else [])
      = some { p with failed := Function.update p.failed entry.sensorId false } := by
  cases failed with
  | true =>
      rw [if_pos rfl, acceptAll_singleton, Observed.accept, if_pos ⟨hrunning, hfailed⟩]
  | false =>
      rw [if_neg Bool.false_ne_true, ← hfailed, Function.update_eq_self]
      rfl

/-- A sensor's round keeps to the protocol. -/
lemma acceptAll_runSensor {p : Observed} {entry : SensorCatalogEntry} {running : Bool}
    (eventId : Uuid) (now : Datetime) (sensor : SensorState G)
    (hrunning : p.running entry.deviceId = running)
    (hfailed : p.failed entry.sensorId = sensor.failed) (hseq : p.seq entry.sensorId = sensor.seq) :
    p.acceptAll (runSensor rng cfg entry running eventId now sensor).2 = some { p with
      failed := Function.update p.failed entry.sensorId
        (runSensor rng cfg entry running eventId now sensor).1.failed
      seq := Function.update p.seq entry.sensorId
        (runSensor rng cfg entry running eventId now sensor).1.seq } := by
  rcases runSensor_cases rng cfg entry running eventId now sensor with
    ⟨hout, hf, hs⟩ | ⟨hrun, hold, hout, hf, hs⟩ | ⟨hrun, hf, hs, anomaly, value, fd, ha, hout⟩
  · rw [hout, hf, hs, ← hfailed, ← hseq, Function.update_eq_self, Function.update_eq_self]
    rfl
  · rw [hout, hf, hs, ← hseq, Function.update_eq_self, acceptAll_singleton, Observed.accept,
      if_pos ⟨hrunning.trans hrun, hfailed.trans hold⟩]
  · rw [hout, hf, hs, acceptAll_append, acceptAll_recovery (hrunning.trans hrun) hfailed,
      Option.bind_some, acceptAll_append]
    have hnone : ∀ q : Observed, q.acceptAll anomaly = some q := by
      intro q
      rcases ha with rfl | rfl <;> rfl
    have hnumber : sensor.seq + 1 = p.seq entry.sensorId + 1 := by rw [hseq]
    rw [hnone, Option.bind_some, acceptAll_singleton, Observed.accept]
    exact if_pos ⟨hrunning.trans hrun, Function.update_self .., hnumber⟩

/-- **Every move keeps to the protocol.** -/
lemma keepsTo_step (hd : Distinct catalog) {s : Simulation G} (h : KeepsTo catalog s)
    (m : SimulationMove) : KeepsTo catalog (s.step rng cfg catalog m) := by
  obtain ⟨p, hp, hmatch⟩ := h
  rcases step_cases rng cfg catalog s m with ⟨hhistory, hsensors, hrunning⟩ |
    ⟨i, entry, eventId, hi, hhistory, hsensors, hrunning⟩ |
    ⟨i, entry, hi, hhistory, hsensors, hrunning⟩
  · refine ⟨p, hhistory ▸ hp, hmatch.running.trans hrunning.symm, ?_, ?_⟩
    · rw [hsensors]
      exact hmatch.failed
    · rw [hsensors]
      exact hmatch.seq
  · refine ⟨_, ?_, hmatch.sensor hd hi hsensors hrunning⟩
    rw [hhistory, acceptAll_append, hp, Option.bind_some]
    exact acceptAll_runSensor eventId _ _ (congrFun hmatch.running _)
      (hmatch.failed i entry hi) (hmatch.seq i entry hi)
  · refine ⟨⟨Function.update p.running entry.deviceId (!s.running entry.deviceId), p.failed,
      p.seq⟩, ?_, ?_, ?_, ?_⟩
    · have hturn : p.running entry.deviceId ≠ !s.running entry.deviceId := by
        rw [hmatch.running]
        exact Bool.self_ne_not _
      rw [hhistory, acceptAll_append, hp, Option.bind_some]
      exact (acceptAll_singleton p _).trans (if_pos hturn)
    · rw [hrunning, ← hmatch.running]
    · rw [hsensors]
      exact hmatch.failed
    · rw [hsensors]
      exact hmatch.seq

variable (rng cfg catalog) in
/-- **The messages keep to the protocol**: in every run, whatever the tasks draw and however they
take turns, the readings of each sensor of the catalog are numbered from 1 without a gap; it fails
and recovers in turn, and its machine stops and starts in turn; and no reading comes from a sensor
that has failed or a machine that has stopped. -/
theorem orderly_history (hd : Distinct catalog) (sensors : ℕ → G) (controllers : String → G)
    (sched : List SimulationMove) :
    let s := sched.foldl (Simulation.step rng cfg catalog)
      (Simulation.start cfg catalog sensors controllers)
    ∃ p, Orderly s.history p ∧ Matches catalog s p := by
  have hstart : KeepsTo catalog (Simulation.start cfg catalog sensors controllers) :=
    ⟨{}, rfl, rfl, fun _ _ _ => rfl, fun _ _ _ => rfl⟩
  have hrun : Statement.EachState (Simulation.step rng cfg catalog) (KeepsTo catalog) sched _ :=
    Statement.eachState_of_step (I := KeepsTo catalog) (fun s m hs => keepsTo_step hd hs m) hstart
      sched
  obtain ⟨p, hp, hmatch⟩ := hrun.last
  exact ⟨p, orderly_of_acceptAll hp, hmatch⟩

/-- A thermometer. -/
def thermometer : SensorRow where
  organizationId := ⟨0x5f0c1e5e000040008000000000000002, by decide⟩
  factoryId := ⟨0x5f0c1e5e000040008000000000000003, by decide⟩
  productionLineId := ⟨0x5f0c1e5e000040008000000000000004, by decide⟩
  machineId := ⟨0x5f0c1e5e000040008000000000000005, by decide⟩
  deviceId := ⟨0x5f0c1e5e000040008000000000000006, by decide⟩
  sensorId := ⟨0x5f0c1e5e000040008000000000000007, by decide⟩
  metric := ⟨"temperature", by decide⟩
  unit := "celsius"
  minOperatingValue := some 10
  maxOperatingValue := some 30

/-- The id of its first reading. -/
def firstId : Uuid := ⟨0x5f0c1e5e000040008000000000000001, by decide⟩

/-- A generator that draws numbers of a list, and one half when they are used up. -/
def scripted : Random (List (Fin 10000)) where
  random l := ((l.headD 5000 : ℚ) / 10000, l.tail)
  gauss l := (0, l)
  random_nonneg l := by positivity
  random_lt_one l := by
    have hlt : ((l.headD 5000 : ℕ) : ℚ) < 10000 := by exact_mod_cast (l.headD 5000).isLt
    exact (div_lt_one (by norm_num)).mpr hlt

/-- The thermometer fails, its machine stops and starts, and it recovers. -/
def shift : Simulation (List (Fin 10000)) :=
  [.sensor 0 firstId, .loop, .loop, .machine 0, .loop, .loop, .machine 0, .loop, .loop,
    .sensor 0 firstId].foldl (Simulation.step scripted {} [thermometer.entry])
    (Simulation.start {} [thermometer.entry] (fun _ => [5000, 0, 5000, 0]) fun _ => [0, 0])

theorem orderly_history_shift :
    (failures thermometer.sensorId.str shift.history = [true, false]
        ∧ runs thermometer.deviceId.str shift.history = [false, true]
        ∧ seqs thermometer.sensorId.str shift.history = [1])
      ∧ ∃ p, Orderly shift.history p ∧ Matches [thermometer.entry] shift p :=
  ⟨by decide +kernel,
    orderly_history scripted {} [thermometer.entry] (List.nodup_singleton _) _ _ _⟩

end Simulator

end InduSense
