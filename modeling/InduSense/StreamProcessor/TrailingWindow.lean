import InduSense.StreamProcessor.Arrivals
import InduSense.StreamProcessor.Poison

/-!
Which samples the statistics of a window are of.

* `SeriesBuffer.windowSamples`, `windowStats`: the two parts of `stats_for`.
* `windowOf`: the samples ever added that lie between the start of the window and now.
* `reflects_iff`: the statistics are of these if and only if no sample is dated after now, the first
  sample compares with now, and the window lies in range.
-/

namespace InduSense

namespace StreamProcessor

open InduSense.Lists (sortBy InOrder inOrder_sortBy mem_sortBy filter_sortBy eq_of_filter_eq
  filter_filter_key)

variable {R : Type}

/-! ### The two parts of a query -/

/-- The samples that `stats_for` selects. -/
def SeriesBuffer.windowSamples (buf : SeriesBuffer R) (now : Timestamp) (windowSeconds : ℤ) :
    Except PyError (List (Sample R)) := do
  let cutoff ← Timestamp.sub (seconds windowSeconds) now
  inWindow cutoff buf.samples

/-- The statistics of the samples of a window, if there are any. -/
def windowStats (py : PyFloat R) : List (Sample R) → Except PyError (Option (WindowStats R))
  | [] => return none
  | first :: rest => return some (← computeStats py first rest)

variable {buf : SeriesBuffer R} {now : Timestamp} {w : ℤ} {l : List (Sample R)} {k : Bool}

lemma statsFor_eq (py : PyFloat R) (buf : SeriesBuffer R) (now : Timestamp) (w : ℤ) :
    buf.statsFor py now w = buf.windowSamples now w >>= windowStats py := by
  rw [SeriesBuffer.statsFor, SeriesBuffer.windowSamples]
  cases Timestamp.sub (seconds w) now with
  | error e => rfl
  | ok cutoff =>
      show (inWindow cutoff buf.samples >>= _) = (inWindow cutoff buf.samples >>= _)
      cases inWindow cutoff buf.samples with
      | error e => rfl
      | ok l =>
          cases l with
          | nil => rfl
          | cons first rest => rfl

/-- The samples of a window, where the timestamps compare. -/
lemma windowSamples_eq (hreaches : now.Reaches (seconds w)) (hnow : now.aware = some k)
    (hk : ∀ s ∈ buf.samples, s.at.aware = some k) :
    buf.windowSamples now w
      = .ok (buf.samples.filter fun s => decide (now.instant - seconds w ≤ s.instant)) := by
  obtain ⟨cutoff, hsub, haware, hinstant⟩ := Timestamp.exists_sub_eq hreaches
  rw [SeriesBuffer.windowSamples, hsub, ← hinstant]
  exact inWindow_eq (haware.trans hnow) hk

/-- A query that raises nothing has compared now with every sample. -/
lemma of_windowSamples (h : buf.windowSamples now w = .ok l) :
    now.Reaches (seconds w) ∧ ∀ s ∈ buf.samples, s.at.aware = now.aware := by
  obtain ⟨cutoff, hsub, hin⟩ := bind_eq_ok_iff.mp h
  have hreaches := Timestamp.sub_isOk_iff.mp (isOk_iff.mpr ⟨cutoff, hsub⟩)
  obtain ⟨cutoff', hsub', haware, -⟩ := Timestamp.exists_sub_eq hreaches
  obtain rfl : cutoff = cutoff' := Except.ok.inj (hsub.symm.trans hsub')
  have hall := aware_of_inWindow (isOk_iff.mpr ⟨l, hin⟩)
  rw [haware] at hall
  exact ⟨hreaches, hall⟩

/-- A timestamp from which a window reaches back is there. -/
lemma exists_of_reaches {delta : Time} (h : now.Reaches delta) : ∃ d, now = some d := by
  cases now with
  | none => exact h.elim
  | some d => exact ⟨d, rfl⟩

/-! ### The window that ends now -/

/-- The samples that a window ending now holds, of all that were added, in chronological order.  A
timestamp that does not compare with now lies in no window. -/
def windowOf (arrivals : List (Sample R)) (now : Datetime) (windowSeconds : ℤ) : List (Sample R) :=
  chronological ((ofKind now.utcoffset.isSome arrivals).filter fun s =>
    decide (now.instant - seconds windowSeconds ≤ s.instant ∧ s.instant ≤ now.instant))

/-- The answer of a query is of exactly the samples that its window holds, and there is none only if
there is no such sample. -/
structure Reflects (py : PyFloat R) (buf : SeriesBuffer R) (arrivals : List (Sample R))
    (now : Datetime) (windowSeconds : ℤ) : Prop where
  samples : buf.windowSamples (some now) windowSeconds = .ok (windowOf arrivals now windowSeconds)
  stats : buf.statsFor py (some now) windowSeconds
    = windowStats py (windowOf arrivals now windowSeconds)
  noData : buf.statsFor py (some now) windowSeconds = .ok none →
    windowOf arrivals now windowSeconds = []

lemma reflects_of_samples (py : PyFloat R) {arrivals : List (Sample R)} {now : Datetime}
    (h : buf.windowSamples (some now) w = .ok (windowOf arrivals now w)) :
    Reflects py buf arrivals now w := by
  have hstats : buf.statsFor py (some now) w = windowStats py (windowOf arrivals now w) := by
    rw [statsFor_eq, h]
    rfl
  refine ⟨h, hstats, fun hnone => ?_⟩
  rw [hstats] at hnone
  cases hw : windowOf arrivals now w with
  | nil => rfl
  | cons first rest =>
      rw [hw, windowStats] at hnone
      obtain ⟨stats, -, hsome⟩ := bind_eq_ok_iff.mp hnone
      cases hsome

/-- A first sample without a timestamp stays alone. -/
lemma addAll_of_untimed {s : Sample R} (hs : s.at = none) (maxWindow : Time)
    (rest : List (Sample R)) :
    (SeriesBuffer.addAll ⟨maxWindow, []⟩ (s :: rest)).samples = [s] := by
  obtain ⟨t, value⟩ := s
  obtain rfl : t = none := hs
  induction rest using List.reverseRecOn with
  | nil => rfl
  | append_singleton rest x ih =>
      rw [← List.cons_append, addAll_append, SeriesBuffer.add, ih]
      -- nothing compares with it
      cases hx : x.at with
      | none => exact ih
      | some d => exact ih

/-- The kind of the first sample stays in the buffer. -/
lemma exists_first_kind {maxWindow : Time} (hwindow : 0 ≤ maxWindow) (s : Sample R)
    (rest : List (Sample R)) :
    ∃ x ∈ (SeriesBuffer.addAll ⟨maxWindow, []⟩ (s :: rest)).samples, x.at.aware = s.at.aware := by
  cases hs : s.at with
  | none =>
      rw [addAll_of_untimed hs]
      exact ⟨s, List.mem_cons_self, by rw [hs]⟩
  | some d =>
      have hkind : s.at.aware = some d.utcoffset.isSome := by
        rw [hs]
        rfl
      have hretains := addAll_retains hwindow (s :: rest) (k := d.utcoffset.isSome)
        fun x hx => by cases hx; exact hkind
      have hmem : s ∈ ofKind d.utcoffset.isSome (s :: rest) :=
        List.mem_filter.mpr ⟨List.mem_cons_self, decide_eq_true hkind⟩
      obtain ⟨newest, hnewest, -⟩ :=
        hretains.exists_newest (by simpa using hwindow) (List.ne_nil_of_mem hmem)
      exact ⟨newest, hnewest, (aware_of_mem_ofKind (hretains.mem newest hnewest)).2⟩

/-- **When a query reflects its window**: the first sample compares with now, the window lies in
range, and none of the samples that compare with now is dated after it. -/
theorem reflects_iff (py : PyFloat R) {maxWindow : Time} (arrivals : List (Sample R))
    (now : Datetime) (w : ℤ) (hw : 0 ≤ w) (hmax : seconds w ≤ maxWindow) :
    Reflects py (SeriesBuffer.addAll ⟨maxWindow, []⟩ arrivals) arrivals now w ↔
      (∀ s ∈ arrivals.head?, s.at.aware = some now.utcoffset.isSome)
        ∧ Timestamp.Reaches (seconds w) (some now)
        ∧ ∀ s ∈ ofKind now.utcoffset.isSome arrivals, s.instant ≤ now.instant := by
  have hnow : Timestamp.aware (some now) = some now.utcoffset.isSome := rfl
  have hinstant : Timestamp.instant (some now) = now.instant := rfl
  have hlen : 0 ≤ seconds w := by
    rw [seconds]
    positivity
  have hwindow : 0 ≤ maxWindow := hlen.trans hmax
  constructor
  · intro h
    obtain ⟨hreaches, hkind⟩ := of_windowSamples h.samples
    have hfirst : ∀ s ∈ arrivals.head?, s.at.aware = some now.utcoffset.isSome := by
      intro s hs
      obtain ⟨rest, rfl⟩ := List.head?_eq_some_iff.mp hs
      obtain ⟨x, hx, hxs⟩ := exists_first_kind hwindow s rest
      rw [← hxs, hkind x hx, hnow]
    refine ⟨hfirst, hreaches, fun s hs => ?_⟩
    -- a sample after now would leave a newest one after now, which the query selects
    by_contra hlate
    have hretains := addAll_retains hwindow arrivals hfirst
    obtain ⟨newest, hnewest, hle⟩ :=
      hretains.exists_newest (by simpa using hwindow) (List.ne_nil_of_mem hs)
    have hselected : newest ∈ windowOf arrivals now w := by
      have hsamples := windowSamples_eq hreaches hnow fun x hx => (hkind x hx).trans hnow
      rw [h.samples] at hsamples
      rw [Except.ok.inj hsamples, List.mem_filter, decide_eq_true_eq, hinstant]
      have := hle s hs
      exact ⟨hnewest, by linarith⟩
    rw [windowOf, chronological, mem_sortBy, List.mem_filter, decide_eq_true_eq] at hselected
    have := hle s hs
    linarith [hselected.2.2]
  · rintro ⟨hfirst, hreaches, hpast⟩
    have hretains := addAll_retains hwindow arrivals hfirst
    have hkind : ∀ s ∈ (SeriesBuffer.addAll ⟨maxWindow, []⟩ arrivals).samples,
        s.at.aware = some now.utcoffset.isSome :=
      fun s hs => (aware_of_mem_ofKind (hretains.mem s hs)).2
    refine reflects_of_samples py ?_
    rw [windowSamples_eq hreaches hnow hkind]
    refine congrArg Except.ok (eq_of_filter_eq
      (hretains.inOrder.filter _) (inOrder_sortBy _) fun t => ?_)
    rw [windowOf, chronological, filter_sortBy, filter_filter_key, filter_filter_key, ← dated,
      ← dated, hinstant]
    by_cases ht : now.instant - seconds w ≤ t
    · -- the longest window before every sample reaches back to the start of this one
      have hdated := hretains.recent t fun x hx => by
        have := hpast x hx
        rw [addAll_maxWindow]
        linarith
      rw [hdated]
      refine List.filter_congr fun x hx => ?_
      obtain ⟨hmem, rfl⟩ := instant_eq_of_mem_dated hx
      exact decide_eq_decide.mpr (iff_self_and.mpr fun _ => hpast x hmem)
    · rw [List.filter_eq_nil_iff.mpr, List.filter_eq_nil_iff.mpr]
      · intro x hx
        rw [(instant_eq_of_mem_dated hx).2, decide_eq_true_eq]
        exact fun h => ht h.1
      · intro x hx
        rw [(instant_eq_of_mem_dated hx).2, decide_eq_true_eq]
        exact ht

/-! ### A clock that runs ahead -/

/-- Noon of the first day of 2024. -/
def noon : Datetime := ⟨63839707200000000, some 0⟩

/-- A reading some seconds after noon, or before. -/
def atNoon (offset : ℤ) (value : ℚ) : Sample ℚ :=
  ⟨some { noon with wall := noon.wall + seconds offset }, value⟩

theorem reflects_iff_present :
    Reflects exactFloat (SeriesBuffer.addAll ⟨seconds 900, []⟩ [atNoon (-5) 20, atNoon (-20) 30])
      [atNoon (-5) 20, atNoon (-20) 30] noon 10 :=
  (reflects_iff exactFloat _ noon 10 (by decide) (by decide)).mpr
    ⟨by decide, ⟨by decide, by decide⟩, by decide⟩

/-- **A reading dated an hour ahead takes the place of the others**: at noon the last ten seconds
hold one reading of 20 degrees, and their statistics are of another one, of 30 degrees. -/
theorem future_sample_counted :
    windowOf [atNoon (-5) 20, atNoon 3600 30] noon 10 = [atNoon (-5) 20]
      ∧ (SeriesBuffer.addAll ⟨seconds 900, []⟩ [atNoon (-5) 20, atNoon 3600 30]).windowSamples
          (some noon) 10 = .ok [atNoon 3600 30]
      ∧ ¬ Reflects exactFloat
          (SeriesBuffer.addAll ⟨seconds 900, []⟩ [atNoon (-5) 20, atNoon 3600 30])
          [atNoon (-5) 20, atNoon 3600 30] noon 10 := by
  have hwindow : windowOf [atNoon (-5) 20, atNoon 3600 30] noon 10 = [atNoon (-5) 20] := by
    decide +kernel
  have hsamples : (SeriesBuffer.addAll ⟨seconds 900, []⟩
      [atNoon (-5) 20, atNoon 3600 30]).windowSamples (some noon) 10 = .ok [atNoon 3600 30] := by
    decide +kernel
  refine ⟨hwindow, hsamples, fun h => ?_⟩
  have heq := hsamples.symm.trans h.samples
  rw [hwindow] at heq
  revert heq
  decide +kernel

end StreamProcessor

end InduSense
