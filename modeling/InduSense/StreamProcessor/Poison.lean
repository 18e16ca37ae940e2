import InduSense.Statement.Schedule
import InduSense.Ingestion.Main
import InduSense.StreamProcessor.Buffers
import InduSense.StreamProcessor.SilentLoss
import InduSense.StreamProcessor.Windows

/-!
Which telemetry stops the stream processor.

* `Occurrence`, `after`: what happens to the registry: an accepted reading is recorded, or the
  windows are flushed.
* `record_isOk_iff`, `flushOnce_isOk_iff`: when each raises.
* `survives_iff`: the sequences of readings and flushes in which nothing raises.
* `raised_by_record`: nothing else ends the consume loop.
-/

namespace InduSense

namespace StreamProcessor

open Ingestion (AcceptedTelemetry PyText normalizedTelemetry)

variable {R : Type}

/-! ### The registry -/

/-- The buffer of a series, empty before its first reading. -/
def SeriesRegistry.bufOf (registry : SeriesRegistry R) (id : String) : SeriesBuffer R :=
  (registry.find id).elim ⟨registry.maxWindow, []⟩ TrackedSeries.buf

/-- All buffers are in order. -/
def Tidy (registry : SeriesRegistry R) : Prop := ∀ s ∈ registry.series, s.buf.Orderly

variable {registry : SeriesRegistry R}

lemma Tidy.bufOf (h : Tidy registry) (id : String) : (registry.bufOf id).Orderly := by
  rw [SeriesRegistry.bufOf]
  cases hfind : registry.find id with
  | none => exact SeriesBuffer.orderly_nil _
  | some s => exact h s (List.mem_of_find?_eq_some hfind)

/-- A reading goes to the buffer of its series. -/
lemma record_fst (key : SeriesKey) (t : Timestamp) (value : R) :
    (registry.record key t value).1 = ((registry.bufOf key.id).add t value).1 := by
  rw [SeriesRegistry.record, SeriesRegistry.bufOf]
  cases registry.find key.id with
  | none => rfl
  | some s => rfl

/-- The buffers after a reading: one has changed. -/
lemma mem_record {key : SeriesKey} {t : Timestamp} {value : R} {s : TrackedSeries R}
    (hs : s ∈ (registry.record key t value).2.series) :
    s ∈ registry.series ∨ s.buf = ((registry.bufOf key.id).add t value).2 := by
  rw [SeriesRegistry.record] at hs
  rw [SeriesRegistry.bufOf]
  cases hfind : registry.find key.id with
  | none =>
      rw [hfind] at hs
      rcases List.mem_append.mp hs with hs | hs
      · exact .inl hs
      · obtain rfl := List.mem_singleton.mp hs
        exact .inr rfl
  | some s' =>
      rw [hfind] at hs
      obtain ⟨s₀, hs₀, rfl⟩ := List.mem_map.mp hs
      dsimp only
      split
      · exact .inr rfl
      · exact .inl hs₀

/-! ### Readings and flushes -/

/-- What happens to the registry: a reading that ingestion has accepted and published is recorded,
or the windows are flushed, with the reply of InfluxDB to the write. -/
inductive Occurrence (text : PyText R) where
  | reading (tel : AcceptedTelemetry text) (ingestedAt : Time)
  | flush (now : Time) (write : List (AggregatePoint R) → Except PyError Unit)

/-- `registry.record` in `_process_message`. -/
def recordEvent (registry : SeriesRegistry R) (evt : NormalizedTelemetryEvent R) :
    Except PyError Unit × SeriesRegistry R :=
  registry.record (seriesKey evt) evt.timestamp evt.value

variable {text : PyText R}

/-- The registry after an occurrence. -/
def after (registry : SeriesRegistry R) : Occurrence text → SeriesRegistry R
  | .reading tel ingestedAt => (recordEvent registry (normalizedTelemetry tel.evt ingestedAt)).2
  | .flush _ _ => registry

variable (py : PyFloat R) (windows : List ℤ)

/-- The thread that an occurrence is handled in goes on. -/
def Survives (registry : SeriesRegistry R) : Occurrence text → Prop
  | .reading tel ingestedAt =>
      (recordEvent registry (normalizedTelemetry tel.evt ingestedAt)).1.isOk = true
  | .flush now write => (flushOnce py now windows registry write).isOk = true

instance (registry : SeriesRegistry R) : ∀ o : Occurrence text,
    Decidable (Survives py windows registry o)
  | .reading _ _ => inferInstanceAs (Decidable (_ = true))
  | .flush _ _ => inferInstanceAs (Decidable (_ = true))

/-- A reading has an offset if the readings of its series have one and none otherwise, and the
longest window before it lies in range if it is the newest; at a flush every reading has an offset,
no window leaves the range, and no deviation is beyond the square root of the largest float. -/
def Benign (registry : SeriesRegistry R) : Occurrence text → Prop
  | .reading tel ingestedAt =>
      (registry.bufOf (seriesKey (normalizedTelemetry tel.evt ingestedAt)).id).Admits
        tel.evt.timestamp
  | .flush now _ => ∀ s ∈ registry.series, ∀ w ∈ windows,
      Flushable py s.buf (some (Ingestion.utcDatetime now)) w

/-- **When a reading raises.** -/
theorem record_isOk_iff (h : Tidy registry) (tel : AcceptedTelemetry text) (ingestedAt : Time) :
    (recordEvent registry (normalizedTelemetry tel.evt ingestedAt)).1.isOk = true ↔
      (registry.bufOf (seriesKey (normalizedTelemetry tel.evt ingestedAt)).id).Admits
        tel.evt.timestamp := by
  obtain ⟨d, hd⟩ := tel.exists_timestamp
  rw [recordEvent, record_fst]
  show ((registry.bufOf _).add tel.evt.timestamp tel.evt.value).1.isOk = true ↔ _
  rw [hd]
  exact (h.bufOf _).add_isOk_iff d tel.evt.value

lemma survives_iff_benign (h : Tidy registry) (o : Occurrence text) :
    Survives py windows registry o ↔ Benign py windows registry o := by
  cases o with
  | reading tel ingestedAt => exact record_isOk_iff h tel ingestedAt
  | flush now write => exact flushOnce_isOk_iff py now windows registry write

/-- A reading that does not raise leaves the buffers in order. -/
lemma tidy_after (h : Tidy registry) {o : Occurrence text}
    (hsurvives : Survives py windows registry o) : Tidy (after registry o) := by
  cases o with
  | flush now write => exact h
  | reading tel ingestedAt =>
      have hadm := (record_isOk_iff h tel ingestedAt).mp hsurvives
      obtain ⟨d, hd⟩ := tel.exists_timestamp
      intro s hs
      rcases mem_record hs with hs | hs
      · exact h s hs
      · rw [hs]
        show ((registry.bufOf _).add tel.evt.timestamp tel.evt.value).2.Orderly
        rw [hd] at hadm ⊢
        exact (h.bufOf _).add tel.evt.value hadm

/-- **The readings and flushes under which the stream processor goes on**: those that are benign. -/
theorem survives_iff (maxWindow : Time) (sched : List (Occurrence text)) :
    Statement.EachStep after (Survives py windows) sched ⟨maxWindow, []⟩ ↔
      Statement.EachStep after (Benign py windows) sched ⟨maxWindow, []⟩ :=
  Statement.eachStep_congr_of_step (fun _ o h => survives_iff_benign py windows h o)
    (fun _ _ h hsurvives => tidy_after py windows h hsurvives) (fun _ hs => nomatch hs)

/-- A float that computes exactly, up to the largest double. -/
def exactFloat : PyFloat ℚ where
  zero := 0
  ofNat n := n
  lt x y := decide (x < y)
  sub x y := x - y
  div x y := x / y
  sum := List.sum
  square x :=
    if x ^ 2 ≤ (2 ^ 53 - 1) * 2 ^ 971 then .ok (x ^ 2)
    else .error ⟨.overflowError, "(34, 'Numerical result out of range')"⟩
  sqrt x :=
    if x < 0 then .error ⟨.valueError, "math domain error"⟩
    else .ok (Nat.sqrt (x * 10 ^ 12).floor.toNat / 10 ^ 6)
  totalSeconds t := t / 1000000
  sqrt_meanSquare xs squares _ hsquares := by
    have hpos : ∀ y ∈ squares, 0 ≤ y := by
      intro y hy
      obtain ⟨x, -, hx⟩ := exists_of_mem_mapM hsquares hy
      split at hx
      · cases hx
        exact sq_nonneg x
      · cases hx
    have hmean : ¬ squares.sum / (squares.length : ℚ) < 0 :=
      not_lt.mpr (div_nonneg (List.sum_nonneg hpos) (Nat.cast_nonneg _))
    rw [if_neg hmean]
    rfl

/-- ASCII alone. -/
def asciiText : PyText ℚ :=
  .ofUnicode ⟨fun _ => false, fun _ => none, fun s => "'" ++ s ++ "'"⟩ (fun _ => false)
    (fun _ => false) fun _ => "0"

/-- A reading at noon of the first day of 2024, with an offset or without. -/
def noonReading (utcoffset : Option ℤ) : TelemetryEvent ℚ where
  eventId := "5f0c1e5e-0000-4000-8000-000000000001"
  organizationId := "5f0c1e5e-0000-4000-8000-000000000002"
  factoryId := "5f0c1e5e-0000-4000-8000-000000000003"
  productionLineId := "5f0c1e5e-0000-4000-8000-000000000004"
  machineId := "5f0c1e5e-0000-4000-8000-000000000005"
  deviceId := "5f0c1e5e-0000-4000-8000-000000000006"
  sensorId := "5f0c1e5e-0000-4000-8000-000000000007"
  timestamp := some ⟨63839707200000000, utcoffset⟩
  sequenceNumber := 1
  metric := "temperature"
  value := 20
  unit := "celsius"

/-- The same with an offset, accepted. -/
def awareReading : AcceptedTelemetry asciiText := ⟨noonReading (some 0), by decide +kernel⟩

/-- And without. -/
def naiveReading : AcceptedTelemetry asciiText := ⟨noonReading none, by decide +kernel⟩

/-- **A reading without an offset stops the stream processor**: the consume loop at the next reading
with one, and the flusher at the next flush. -/
theorem naive_reading_fatal :
    ¬ Statement.EachStep after (Survives exactFloat windowsSeconds)
        [.reading naiveReading 1704110400000000, .reading awareReading 1704110401000000]
        ⟨seconds 900, []⟩
      ∧ ¬ Statement.EachStep after (Survives exactFloat windowsSeconds)
        [.reading naiveReading 1704110400000000, .flush 1704110410000000 fun _ => .ok ()]
        ⟨seconds 900, []⟩ := by
  decide +kernel

/-! ### The consume loop -/

section ConsumeLoop

variable {Payload : Type}

/-- What a handler raises is what recording a sample has raised. -/
def RaisedByRecord (l : Statement.Log (Streaming R) PyError) : Except PyError Bool → Prop
  | .ok _ => True
  | .error e => ∃ key t value, ⟨.recordSample key t value, .error e⟩ ∈ l

lemma follows_deadLetterOrHold (rawPayload : String) (cause : PyError)
    (stage correlationId : String) (l : Statement.Log (Streaming R) PyError) :
    Statement.Prog.Follows (fun _ _ => True) RaisedByRecord
      (deadLetterOrHold rawPayload cause stage correlationId) l := by
  have hletter : Statement.Prog.Follows (fun _ _ => True) (fun _ _ => True)
      (deadLetter (R := R) rawPayload cause stage correlationId) l :=
    Statement.Prog.follows_issue_bind trivial
      (fun _ => Statement.Prog.follows_issue (Q := fun _ _ => True) trivial fun _ => trivial)
      fun _ => trivial
  refine Statement.Prog.follows_bind (Statement.Prog.follows_attempt (hletter.mono ?_))
  intro l' r _
  cases r with
  | ok u => trivial
  | error e => trivial

lemma follows_processClaimed (rawPayload : String) (evt : NormalizedTelemetryEvent R)
    (l : Statement.Log (Streaming R) PyError) :
    Statement.Prog.Follows (fun _ _ => True) RaisedByRecord (processClaimed rawPayload evt) l := by
  refine Statement.Prog.follows_bind (Statement.Prog.follows_attempt ?_)
  refine Statement.Prog.follows_issue (Q := fun _ _ => True) trivial fun written => ?_
  cases written with
  | error exc => exact follows_deadLetterOrHold _ _ _ _ _
  | ok u =>
      refine Statement.Prog.follows_issue_bind trivial (fun _ => ?_) fun e => ?_
      · refine Statement.Prog.follows_bind (Statement.Prog.follows_attempt ?_)
        refine Statement.Prog.follows_issue (Q := fun _ _ => True) trivial fun published => ?_
        cases published with
        | error exc => exact follows_deadLetterOrHold _ _ _ _ _
        | ok u => trivial
      · exact ⟨_, _, _, List.mem_append_right _ List.mem_cons_self⟩

/-- **Nothing but `record` ends the consume loop**: whatever the dependencies do, an exception that
the handler lets through is one that recording a sample has raised. -/
theorem raised_by_record (cfg : Config) (codec : Codec Payload (NormalizedTelemetryEvent R))
    (msg : Payload) (env : Statement.Env (Streaming R) PyError) (w : World R) {e : PyError}
    (h : ((processMessage cfg codec msg).run World.exec env [] w).outcome = .raised e) :
    ∃ key t value, ⟨.recordSample key t value, .error e⟩
      ∈ ((processMessage cfg codec msg).run World.exec env [] w).log := by
  have hfollows : Statement.Prog.Follows (fun _ _ => True) RaisedByRecord
      (processMessage cfg codec msg) [] := by
    rw [processMessage]
    cases codec.parse msg with
    | error exc => exact follows_deadLetterOrHold _ _ _ _ _
    | ok evt =>
        refine Statement.Prog.follows_bind (Statement.Prog.follows_attempt ?_)
        refine Statement.Prog.follows_issue (Q := fun _ _ => True) trivial fun claimed => ?_
        cases claimed with
        | error exc => trivial
        | ok claimed =>
            cases claimed with
            | false => trivial
            | true => exact follows_processClaimed _ _ _
  exact hfollows.raised h

end ConsumeLoop

end StreamProcessor

end InduSense
