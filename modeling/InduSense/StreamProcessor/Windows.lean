import InduSense.Ingestion.Sink
import InduSense.StreamProcessor.Buffers
import InduSense.StreamProcessor.Main

/-!
The windowed aggregates: the queries of `window.py`, and the flusher of `main.py`.

* `PyFloat`: what the code uses of Python's floats.
* `SeriesBuffer.statsFor`, `computeStats`: the statistics of the samples of a window.
* `flushOnce`: one flush, of every window of every series.
* `statsFor_isOk_iff`, `flushOnce_isOk_iff`: when they raise.

Floats are a parameter: their sums round, and `x ** 2` raises when it overflows.
-/

namespace InduSense

namespace Timestamp

/-- `a >= b`. -/
def ge : Timestamp → Timestamp → Except PyError Bool
  | some a, some b => (b.gt a).map not
  | a, b => .error ⟨.typeError, "'>=' not supported between instances of '" ++ typeName a
      ++ "' and '" ++ typeName b ++ "'"⟩

/-- `a - b`, in microseconds. -/
def diff : Timestamp → Timestamp → Except PyError Time
  | some a, some b =>
      if a.utcoffset.isSome = b.utcoffset.isSome then .ok (a.instant - b.instant)
      else .error ⟨.typeError, "can't subtract offset-naive and offset-aware datetimes"⟩
  | a, b => .error ⟨.typeError, "unsupported operand type(s) for -: '" ++ typeName a
      ++ "' and '" ++ typeName b ++ "'"⟩

variable {a b : Timestamp} {k : Bool}

lemma ge_of_aware (ha : a.aware = some k) (hb : b.aware = some k) :
    a.ge b = .ok (decide (b.instant ≤ a.instant)) := by
  cases a with
  | none => cases ha
  | some a =>
      cases b with
      | none => cases hb
      | some b =>
          have hgt : Datetime.gt b a = .ok (decide (a.instant < b.instant)) :=
            if_pos (Option.some.inj (hb.trans ha.symm))
          have hnot : (!decide (a.instant < b.instant)) = decide (b.instant ≤ a.instant) := by
            rw [← decide_not]
            exact decide_eq_decide.mpr not_lt
          rw [ge, hgt]
          exact congrArg Except.ok hnot

lemma aware_eq_of_ge (h : (a.ge b).isOk = true) : a.aware = b.aware := by
  cases a with
  | none => cases h
  | some a =>
      cases b with
      | none => cases h
      | some b =>
          by_contra hne
          rw [ge, Datetime.gt, if_neg fun heq => hne (congrArg some heq.symm)] at h
          cases h

lemma diff_of_aware (ha : a.aware = some k) (hb : b.aware = some k) :
    a.diff b = .ok (a.instant - b.instant) := by
  cases a with
  | none => cases ha
  | some a =>
      cases b with
      | none => cases hb
      | some b => exact if_pos (Option.some.inj (ha.trans hb.symm))

end Timestamp

namespace StreamProcessor

/-- What the code uses of floats: comparison, arithmetic, `sum`, `x ** 2`, which raises an
`OverflowError`, `math.sqrt`, which raises on a negative number, and `total_seconds`. -/
structure PyFloat (R : Type) where
  zero : R
  ofNat : ℕ → R
  lt : R → R → Bool
  sub : R → R → R
  div : R → R → R
  sum : List R → R
  square : R → Except PyError R
  sqrt : R → Except PyError R
  totalSeconds : Time → R
  /-- The mean of squares is not negative. -/
  sqrt_meanSquare : ∀ xs squares : List R, xs ≠ [] → xs.mapM square = .ok squares →
    (sqrt (div (sum squares) (ofNat squares.length))).isOk = true

/-- `WindowStats`. -/
structure WindowStats (R : Type) where
  count : ℕ
  movingAvg : R
  movingStddev : R
  min : R
  max : R
  rateOfChange : R
  deriving DecidableEq

variable {R : Type} (py : PyFloat R)

/-- `sum(values) / len(values)`. -/
def mean (values : List R) : R := py.div (py.sum values) (py.ofNat values.length)

/-- The change of value from one sample to a later one, by the second. -/
def rateOfChange (first last : Sample R) : Except PyError R := do
  let elapsed := py.totalSeconds (← Timestamp.diff last.at first.at)
  if py.lt py.zero elapsed then return py.div (py.sub last.value first.value) elapsed
  else return py.zero

/-- `_compute_stats`, of a list that is not empty. -/
def computeStats (first : Sample R) (rest : List (Sample R)) : Except PyError (WindowStats R) := do
  let values := (first :: rest).map Sample.value
  let avg := mean py values
  let squares ← values.mapM fun v => py.square (py.sub v avg)
  let stddev ← py.sqrt (mean py squares)
  let rate ← if 1 < values.length then rateOfChange py first (rest.getLastD first)
    else .ok py.zero
  return {
    count := values.length
    movingAvg := avg
    movingStddev := stddev
    min := rest.foldl (fun lo s => if py.lt s.value lo then s.value else lo) first.value
    max := rest.foldl (fun hi s => if py.lt hi s.value then s.value else hi) first.value
    rateOfChange := rate }

/-- The samples that are not before a cutoff. -/
def inWindow (cutoff : Timestamp) : List (Sample R) → Except PyError (List (Sample R))
  | [] => .ok []
  | s :: samples => do
      let keep ← Timestamp.ge s.at cutoff
      let kept ← inWindow cutoff samples
      return if keep then s :: kept else kept

/-- `SeriesBuffer.stats_for`; nothing when the window holds no sample. -/
def SeriesBuffer.statsFor (buf : SeriesBuffer R) (now : Timestamp) (windowSeconds : ℤ) :
    Except PyError (Option (WindowStats R)) := do
  let cutoff ← Timestamp.sub (seconds windowSeconds) now
  match ← inWindow cutoff buf.samples with
  | [] => return none
  | first :: rest => return some (← computeStats py first rest)

/-! ### The flusher -/

/-- `cfg.windows_seconds` in `load_config`. -/
def windowsSeconds : List ℤ := [10, 30, 60, 300, 900]

/-- `_duration_label`. -/
def durationLabel (total : ℤ) : String :=
  if total < 60 then toString total ++ "s"
  else
    let hours := total / 3600
    let minutes := total % 3600 / 60
    let seconds := total % 3600 % 60
    if 0 < hours then
      toString hours ++ "h" ++ toString minutes ++ "m" ++ toString seconds ++ "s"
    else toString minutes ++ "m" ++ toString seconds ++ "s"

/-- The point that `build_aggregate_point` makes. -/
structure AggregatePoint (R : Type) where
  key : SeriesKey
  window : String
  stats : WindowStats R
  «at» : Timestamp
  deriving DecidableEq

/-- The points of a series: one for each window that holds samples. -/
def seriesPoints (now : Timestamp) (windows : List ℤ) (s : TrackedSeries R) :
    Except PyError (List (Option (AggregatePoint R))) :=
  windows.mapM fun w => do
    let stats ← s.buf.statsFor py now w
    return stats.map fun stats => ⟨s.key, durationLabel w, stats, now⟩

/-- The first part of `_flush_once`: the points of all series. -/
def flushPoints (now : Timestamp) (windows : List ℤ) (registry : SeriesRegistry R) :
    Except PyError (List (AggregatePoint R)) := do
  let points ← registry.series.mapM (seriesPoints py now windows)
  return points.flatten.reduceOption

/-- `_flush_once`: how many points were written.  Only the write is guarded. -/
def flushOnce (now : Time) (windows : List ℤ) (registry : SeriesRegistry R)
    (write : List (AggregatePoint R) → Except PyError Unit) : Except PyError ℕ := do
  let points ← flushPoints py (some (Ingestion.utcDatetime now)) windows registry
  match write points with
  | .error _ => return 0
  | .ok () => return points.length

/-! ### When a flush raises -/

/-- The samples of a window, in a buffer of aware timestamps. -/
lemma inWindow_eq {cutoff : Timestamp} {k : Bool} (hc : cutoff.aware = some k)
    {l : List (Sample R)} (hl : ∀ s ∈ l, s.at.aware = some k) :
    inWindow cutoff l = .ok (l.filter fun s => decide (cutoff.instant ≤ s.instant)) := by
  induction l with
  | nil => rfl
  | cons s l ih =>
      rw [List.forall_mem_cons] at hl
      rw [inWindow, Timestamp.ge_of_aware hl.1 hc, ih hl.2, List.filter_cons]
      rfl

lemma aware_of_inWindow {cutoff : Timestamp} {l : List (Sample R)}
    (h : (inWindow cutoff l).isOk = true) : ∀ s ∈ l, s.at.aware = cutoff.aware := by
  induction l with
  | nil => nofun
  | cons s l ih =>
      rw [inWindow, isOk_bind_iff] at h
      obtain ⟨keep, hge, h⟩ := h
      obtain ⟨kept, hrest, -⟩ := isOk_bind_iff.mp h
      exact List.forall_mem_cons.mpr
        ⟨Timestamp.aware_eq_of_ge (isOk_iff.mpr ⟨keep, hge⟩), ih (isOk_iff.mpr ⟨kept, hrest⟩)⟩

/-- The deviation of each value from their mean has a square that is a float. -/
def DeviationsFit (values : List R) : Prop :=
  ∀ v ∈ values, (py.square (py.sub v (mean py values))).isOk = true

/-- Statistics fail on a deviation only, once the timestamps compare. -/
lemma computeStats_isOk_iff {k : Bool} (first : Sample R) (rest : List (Sample R))
    (hk : ∀ s ∈ first :: rest, s.at.aware = some k) :
    (computeStats py first rest).isOk = true
      ↔ DeviationsFit py ((first :: rest).map Sample.value) := by
  rw [DeviationsFit, ← isOk_mapM, computeStats, isOk_bind_iff, isOk_iff]
  refine exists_congr fun squares => and_iff_left_of_imp fun hsquares => ?_
  obtain ⟨stddev, hstddev⟩ : ∃ stddev, py.sqrt (mean py squares) = .ok stddev := by
    have hmap := hsquares
    rw [← Function.comp_def py.square, ← List.mapM_map] at hmap
    exact isOk_iff.mp (py.sqrt_meanSquare _ _ (by simp) hmap)
  have hrate : (rateOfChange py first (rest.getLastD first)).isOk = true := by
    have hlast : rest.getLastD first ∈ first :: rest := by
      rw [List.getLastD_eq_getLast?]
      cases hl : rest.getLast? with
      | none => exact List.mem_cons_self
      | some s => exact List.mem_cons_of_mem _ (List.mem_of_getLast? hl)
    rw [rateOfChange, Timestamp.diff_of_aware (hk _ hlast) (hk _ List.mem_cons_self)]
    refine isOk_bind_iff.mpr ⟨_, rfl, ?_⟩
    dsimp only
    split <;> rfl
  obtain ⟨rate, hrate⟩ := isOk_iff.mp hrate
  refine isOk_bind_iff.mpr ⟨stddev, hstddev, ?_⟩
  dsimp only
  split
  · exact isOk_bind_iff.mpr ⟨rate, hrate, rfl⟩
  · rfl

/-- The values a window holds. -/
def windowValues (buf : SeriesBuffer R) (now : Timestamp) (windowSeconds : ℤ) : List R :=
  (buf.samples.filter fun s => decide (now.instant - seconds windowSeconds ≤ s.instant)).map
    Sample.value

/-- The window reaches back in range, every sample of the buffer has an offset as the time of the
flush has, and the deviations of what the window holds fit a float. -/
structure Flushable (buf : SeriesBuffer R) (now : Timestamp) (windowSeconds : ℤ) : Prop where
  reaches : now.Reaches (seconds windowSeconds)
  aware : ∀ s ∈ buf.samples, s.at.aware = now.aware
  fits : DeviationsFit py (windowValues buf now windowSeconds)

/-- **When `stats_for` raises.** -/
theorem statsFor_isOk_iff (buf : SeriesBuffer R) (now : Timestamp) (windowSeconds : ℤ) :
    (buf.statsFor py now windowSeconds).isOk = true ↔ Flushable py buf now windowSeconds := by
  rw [SeriesBuffer.statsFor, isOk_bind_iff]
  -- the statistics of what the window holds, once the comparisons have succeeded
  have hstats : ∀ cutoff : Timestamp, cutoff.aware = now.aware →
      cutoff.instant = now.instant - seconds windowSeconds →
      (∀ s ∈ buf.samples, s.at.aware = now.aware) → now.aware.isSome = true →
      ∃ samples, inWindow cutoff buf.samples = .ok samples ∧
        ((match samples with
          | [] => (return none : Except PyError (Option (WindowStats R)))
          | first :: rest => return some (← computeStats py first rest)).isOk = true
          ↔ DeviationsFit py (windowValues buf now windowSeconds)) := by
    intro cutoff haware hinstant hall hsome
    obtain ⟨k, hk⟩ := Option.isSome_iff_exists.mp hsome
    refine ⟨_, inWindow_eq (haware.trans hk) fun s hs => (hall s hs).trans hk, ?_⟩
    rw [windowValues, ← hinstant]
    cases hw : buf.samples.filter fun s => decide (cutoff.instant ≤ s.instant) with
    | nil => exact iff_of_true rfl nofun
    | cons first rest =>
        rw [← computeStats_isOk_iff py first rest (k := k), isOk_bind_iff, isOk_iff]
        · exact exists_congr fun stats => and_iff_left rfl
        · intro s hs
          rw [← hw] at hs
          exact (hall s (List.mem_filter.mp hs).1).trans hk
  constructor
  · rintro ⟨cutoff, hsub, h⟩
    obtain ⟨samples, hin, hrest⟩ := isOk_bind_iff.mp h
    have hreaches := Timestamp.sub_isOk_iff.mp (isOk_iff.mpr ⟨cutoff, hsub⟩)
    obtain ⟨t, ht, haware, hinstant⟩ := Timestamp.exists_sub_eq hreaches
    obtain rfl : cutoff = t := Except.ok.inj (hsub.symm.trans ht)
    have hall := aware_of_inWindow (isOk_iff.mpr ⟨samples, hin⟩)
    rw [haware] at hall
    have hsome : now.aware.isSome = true := by
      cases now with
      | none => exact hreaches.elim
      | some d => rfl
    obtain ⟨samples', hin', hiff⟩ := hstats cutoff haware hinstant hall hsome
    obtain rfl : samples = samples' := Except.ok.inj (hin.symm.trans hin')
    exact ⟨hreaches, hall, hiff.mp hrest⟩
  · rintro ⟨hreaches, hall, hfits⟩
    obtain ⟨cutoff, hsub, haware, hinstant⟩ := Timestamp.exists_sub_eq hreaches
    have hsome : now.aware.isSome = true := by
      cases now with
      | none => exact hreaches.elim
      | some d => rfl
    obtain ⟨samples, hin, hiff⟩ := hstats cutoff haware hinstant hall hsome
    exact ⟨cutoff, hsub, isOk_bind_iff.mpr ⟨samples, hin, hiff.mpr hfits⟩⟩

/-- **When a flush raises**: a failed write is no reason. -/
theorem flushOnce_isOk_iff (now : Time) (windows : List ℤ) (registry : SeriesRegistry R)
    (write : List (AggregatePoint R) → Except PyError Unit) :
    (flushOnce py now windows registry write).isOk = true ↔
      ∀ s ∈ registry.series, ∀ w ∈ windows,
        Flushable py s.buf (some (Ingestion.utcDatetime now)) w := by
  have hseries : ∀ s : TrackedSeries R,
      (seriesPoints py (some (Ingestion.utcDatetime now)) windows s).isOk = true ↔
        ∀ w ∈ windows, Flushable py s.buf (some (Ingestion.utcDatetime now)) w := by
    intro s
    rw [seriesPoints, isOk_mapM]
    refine forall₂_congr fun w _ => ?_
    rw [isOk_bind_iff, ← statsFor_isOk_iff, isOk_iff]
    exact exists_congr fun stats => and_iff_left rfl
  simp only [← hseries]
  rw [← isOk_mapM, flushOnce, flushPoints]
  cases registry.series.mapM (seriesPoints py (some (Ingestion.utcDatetime now)) windows) with
  | error e => exact Iff.rfl
  | ok points =>
      refine iff_of_true ?_ rfl
      show (match write points.flatten.reduceOption with
        | .error _ => return 0
        | .ok () => return points.flatten.reduceOption.length : Except PyError ℕ).isOk = true
      cases write points.flatten.reduceOption with
      | error e => rfl
      | ok u => rfl

end StreamProcessor

end InduSense
