import InduSense.Lists.Extremes
import InduSense.StreamProcessor.TrailingWindow

/-!
Statistics and the order of arrival.

* `of_computeStats`: what the statistics of a list of samples are.
* `PyFloat.Ordered`, `PyFloat.SumsFreely`: floats compare as numbers; their sums, as a rule, depend
  on the order of the terms.
* `windowStats_extent_eq`, `windowStats_summary_eq`: what two orders of the same samples agree on.
* `arrival_order`: what does not depend on the order in which samples arrive.
-/

namespace InduSense

namespace StreamProcessor

open InduSense.Lists (InOrder inOrder_sortBy filter_sortBy perm_sortBy sortBy_eq_of_perm
  isLeast_foldl_min)

variable {R : Type}

/-! ### Loops over the same elements in another order -/

/-- A loop over the same elements in another order. -/
lemma perm_mapM {α β ε : Type} {f : α → Except ε β} {l l' : List α} (hp : l.Perm l') :
    ∀ {bs : List β}, l.mapM f = .ok bs → ∃ bs', l'.mapM f = .ok bs' ∧ bs.Perm bs' := by
  induction hp with
  | nil => exact fun h => ⟨_, h, .rfl⟩
  | cons a _ ih =>
      intro bs h
      rw [List.mapM_cons] at h
      obtain ⟨b, ha, h⟩ := bind_eq_ok_iff.mp h
      obtain ⟨bs, hl, h⟩ := bind_eq_ok_iff.mp h
      cases h
      obtain ⟨bs', hl', hp'⟩ := ih hl
      refine ⟨b :: bs', ?_, hp'.cons b⟩
      rw [List.mapM_cons, ha, hl']
      rfl
  | swap a a' l =>
      intro bs h
      rw [List.mapM_cons, List.mapM_cons] at h
      obtain ⟨b', ha', h⟩ := bind_eq_ok_iff.mp h
      obtain ⟨bs₁, h₁, h⟩ := bind_eq_ok_iff.mp h
      cases h
      obtain ⟨b, ha, h₁⟩ := bind_eq_ok_iff.mp h₁
      obtain ⟨bs₀, hl, h₁⟩ := bind_eq_ok_iff.mp h₁
      cases h₁
      refine ⟨b :: b' :: bs₀, ?_, .swap b b' bs₀⟩
      rw [List.mapM_cons, List.mapM_cons, ha, ha', hl]
      rfl
  | trans _ _ ih₁ ih₂ =>
      intro bs h
      obtain ⟨bs₁, h₁, hp₁⟩ := ih₁ h
      obtain ⟨bs₂, h₂, hp₂⟩ := ih₂ h₁
      exact ⟨bs₂, h₂, hp₁.trans hp₂⟩

/-- The loop of `min`. -/
lemma isLeast_foldl {α : Type} [LinearOrder α] {lt : α → α → Bool}
    (hlt : ∀ a b, lt a b = true ↔ a < b) (m : α) (l : List α) :
    IsLeast {v | v ∈ m :: l} (l.foldl (fun lo v => if lt v lo then v else lo) m) := by
  have hmin : (fun lo v => if lt v lo then v else lo) = fun lo v => min lo v := by
    funext lo v
    rw [min_comm, min_def_lt]
    exact if_congr (hlt v lo) rfl rfl
  have hvalues : {v | v ∈ m :: l} = insert m {v | ∃ a ∈ l, id a = v} := by
    ext v
    simp
  rw [hmin, hvalues]
  exact isLeast_foldl_min id m l

/-- The loop of `max`. -/
lemma isGreatest_foldl {α : Type} [LinearOrder α] {lt : α → α → Bool}
    (hlt : ∀ a b, lt a b = true ↔ a < b) (m : α) (l : List α) :
    IsGreatest {v | v ∈ m :: l} (l.foldl (fun hi v => if lt hi v then v else hi) m) :=
  have hopposite : ∀ v hi : αᵒᵈ, (fun v hi => lt hi v) v hi = true ↔ v < hi :=
    fun v hi => hlt hi v
  isLeast_foldl hopposite m l

/-! ### The statistics, one by one -/

section Statistics

variable (py : PyFloat R) {first : Sample R} {rest : List (Sample R)} {stats : WindowStats R}

/-- What the statistics of samples are, if none raises. -/
lemma of_computeStats (h : computeStats py first rest = .ok stats) :
    stats.count = (first :: rest).length
      ∧ stats.movingAvg = mean py ((first :: rest).map Sample.value)
      ∧ (∃ squares, ((first :: rest).map Sample.value).mapM
            (fun v => py.square (py.sub v stats.movingAvg)) = .ok squares
          ∧ py.sqrt (mean py squares) = .ok stats.movingStddev)
      ∧ stats.min
          = rest.foldl (fun lo s => if py.lt s.value lo then s.value else lo) first.value
      ∧ stats.max
          = rest.foldl (fun hi s => if py.lt hi s.value then s.value else hi) first.value
      ∧ (if 1 < (first :: rest).length then rateOfChange py first (rest.getLastD first)
          else .ok py.zero) = .ok stats.rateOfChange := by
  rw [computeStats] at h
  obtain ⟨squares, hsquares, h⟩ := bind_eq_ok_iff.mp h
  obtain ⟨stddev, hstddev, h⟩ := bind_eq_ok_iff.mp h
  rw [List.length_map] at h
  obtain ⟨rate, hrate, h⟩ : ∃ rate, (if 1 < (first :: rest).length
      then rateOfChange py first (rest.getLastD first) else .ok py.zero) = .ok rate
      ∧ _ = Except.ok stats := by
    split at h
    · obtain ⟨rate, hrate, h⟩ := bind_eq_ok_iff.mp h
      exact ⟨rate, by rwa [if_pos ‹_›], h⟩
    · exact ⟨py.zero, if_neg ‹_›, h⟩
  cases h
  exact ⟨rfl, rfl, ⟨squares, hsquares, hstddev⟩, rfl, rfl, hrate⟩

/-- Floats compare as numbers do, and a duration is a positive number of seconds when it is
positive. -/
structure PyFloat.Ordered [LinearOrder R] (py : PyFloat R) : Prop where
  lt_iff : ∀ a b, py.lt a b = true ↔ a < b
  totalSeconds_pos : ∀ t, py.lt py.zero (py.totalSeconds t) = true ↔ 0 < t

/-- Sums do not depend on the order of their terms. -/
def PyFloat.SumsFreely (py : PyFloat R) : Prop := ∀ l l' : List R, l.Perm l' → py.sum l = py.sum l'

/-- How many samples there are, and between which values. -/
def WindowStats.extent (stats : WindowStats R) : ℕ × R × R := (stats.count, stats.min, stats.max)

/-- The moving average and the standard deviation. -/
def WindowStats.centre (stats : WindowStats R) : R × R := (stats.movingAvg, stats.movingStddev)

variable {py}

section Ordered

variable [LinearOrder R] (hpy : py.Ordered)
include hpy

lemma isLeast_min (h : computeStats py first rest = .ok stats) :
    IsLeast {v | v ∈ (first :: rest).map Sample.value} stats.min := by
  obtain ⟨-, -, -, hmin, -⟩ := of_computeStats py h
  have hleast := isLeast_foldl hpy.lt_iff first.value (rest.map Sample.value)
  rw [List.foldl_map] at hleast
  rw [hmin]
  exact hleast

lemma isGreatest_max (h : computeStats py first rest = .ok stats) :
    IsGreatest {v | v ∈ (first :: rest).map Sample.value} stats.max := by
  obtain ⟨-, -, -, -, hmax, -⟩ := of_computeStats py h
  have hgreatest := isGreatest_foldl hpy.lt_iff first.value (rest.map Sample.value)
  rw [List.foldl_map] at hgreatest
  rw [hmax]
  exact hgreatest

/-- The change by the second between the first sample and the last, if time has passed. -/
lemma rate_eq (hsorted : InOrder Sample.instant (first :: rest))
    (hk : ∃ k, ∀ s ∈ first :: rest, s.at.aware = some k)
    (h : computeStats py first rest = .ok stats) :
    0 ≤ (rest.getLastD first).instant - first.instant ∧
      stats.rateOfChange = if 0 < (rest.getLastD first).instant - first.instant
        then py.div (py.sub (rest.getLastD first).value first.value)
          (py.totalSeconds ((rest.getLastD first).instant - first.instant))
        else py.zero := by
  obtain ⟨k, hk⟩ := hk
  obtain ⟨-, -, -, -, -, hrate⟩ := of_computeStats py h
  have hlast : rest.getLastD first ∈ first :: rest := by
    cases rest using List.reverseRecOn with
    | nil => exact List.mem_cons_self
    | append_singleton rest s => simp
  have hle : first.instant ≤ (rest.getLastD first).instant := by
    rcases List.mem_cons.mp hlast with heq | hmem
    · rw [heq]
    · exact (List.pairwise_cons.mp hsorted).1 _ hmem
  refine ⟨sub_nonneg.mpr hle, ?_⟩
  have hdiff : Timestamp.diff (rest.getLastD first).at first.at
      = .ok ((rest.getLastD first).instant - first.instant) :=
    Timestamp.diff_of_aware (hk _ hlast) (hk _ List.mem_cons_self)
  cases rest with
  | nil =>
      have hzero : ¬ 0 < first.instant - first.instant := by omega
      rw [if_neg (by simp)] at hrate
      exact (Except.ok.inj hrate).symm.trans (if_neg hzero).symm
  | cons s rest =>
      rw [if_pos (by simp), rateOfChange, hdiff] at hrate
      simp only [bind, Except.bind, hpy.totalSeconds_pos] at hrate
      split at hrate
      · rw [if_pos ‹_›]
        exact (Except.ok.inj hrate).symm
      · rw [if_neg ‹_›]
        exact (Except.ok.inj hrate).symm

end Ordered

/-! ### The same samples in another order -/

variable {l l' : List (Sample R)} {r r' : Option (WindowStats R)}

/-- The extent does not depend on the order of the samples. -/
lemma windowStats_extent_eq [LinearOrder R] (hpy : py.Ordered) (hp : l.Perm l')
    (h : windowStats py l = .ok r) (h' : windowStats py l' = .ok r') :
    r'.map WindowStats.extent = r.map WindowStats.extent := by
  cases l with
  | nil =>
      obtain rfl := hp.nil_eq
      obtain rfl := Except.ok.inj (h.symm.trans h')
      rfl
  | cons first rest =>
      cases l' with
      | nil => exact absurd hp.symm.nil_eq.symm (List.cons_ne_nil _ _)
      | cons first' rest' =>
          obtain ⟨stats, hstats, hr⟩ := bind_eq_ok_iff.mp h
          obtain ⟨stats', hstats', hr'⟩ := bind_eq_ok_iff.mp h'
          cases hr
          cases hr'
          have hvalues : {v | v ∈ (first' :: rest').map Sample.value}
              = {v | v ∈ (first :: rest).map Sample.value} :=
            Set.ext fun v => ((hp.map Sample.value).mem_iff (a := v)).symm
          have hmin := isLeast_min hpy hstats'
          have hmax := isGreatest_max hpy hstats'
          rw [hvalues] at hmin hmax
          have hcount : stats'.count = stats.count := by
            rw [(of_computeStats py hstats).1, (of_computeStats py hstats').1, hp.length_eq]
          show some stats'.extent = some stats.extent
          rw [WindowStats.extent, WindowStats.extent, hcount, hmin.unique (isLeast_min hpy hstats),
            hmax.unique (isGreatest_max hpy hstats)]

/-- If sums do not depend on the order of their terms, the mean and the deviations do not either. -/
lemma deviationsFit_of_perm (hsums : py.SumsFreely) {values values' : List R}
    (hp : values.Perm values') (h : DeviationsFit py values) :
    mean py values' = mean py values ∧ DeviationsFit py values' := by
  have hmean : mean py values' = mean py values := by
    rw [mean, mean, hsums _ _ hp.symm, hp.length_eq]
  refine ⟨hmean, fun v hv => ?_⟩
  rw [hmean]
  exact h v (hp.mem_iff.mpr hv)

/-- Nor does the centre. -/
lemma exists_windowStats (hsums : py.SumsFreely) (hp : l.Perm l')
    (hk : ∃ k, ∀ s ∈ l, s.at.aware = some k) (h : windowStats py l = .ok r) :
    ∃ r', windowStats py l' = .ok r' ∧ r'.map WindowStats.centre = r.map WindowStats.centre := by
  obtain ⟨k, hk⟩ := hk
  cases l with
  | nil =>
      obtain rfl := hp.nil_eq
      exact ⟨r, h, rfl⟩
  | cons first rest =>
      cases l' with
      | nil => exact absurd hp.symm.nil_eq.symm (List.cons_ne_nil _ _)
      | cons first' rest' =>
          obtain ⟨stats, hstats, hr⟩ := bind_eq_ok_iff.mp h
          cases hr
          have hvalues := hp.map Sample.value
          obtain ⟨hmean, hfit⟩ := deviationsFit_of_perm hsums hvalues
            ((computeStats_isOk_iff py first rest hk).mp (isOk_iff.mpr ⟨stats, hstats⟩))
          obtain ⟨stats', hstats'⟩ := isOk_iff.mp ((computeStats_isOk_iff py first' rest'
            fun s hs => hk s (hp.mem_iff.mpr hs)).mpr hfit)
          refine ⟨some stats', ?_, ?_⟩
          · rw [windowStats, hstats']
            rfl
          obtain ⟨-, havg, ⟨squares, hsquares, hstddev⟩, -⟩ := of_computeStats py hstats
          obtain ⟨-, havg', ⟨squares', hsquares', hstddev'⟩, -⟩ := of_computeStats py hstats'
          have hsame : stats'.movingAvg = stats.movingAvg := by rw [havg, havg', hmean]
          -- the squares are the same in another order, and so is their mean
          obtain ⟨squares'', hloop, hperm⟩ := perm_mapM hvalues hsquares
          rw [hsame, hloop] at hsquares'
          obtain rfl := Except.ok.inj hsquares'
          have hmeans : mean py squares'' = mean py squares := by
            rw [mean, mean, hsums _ _ hperm.symm, hperm.length_eq]
          rw [hmeans, hstddev] at hstddev'
          show some stats'.centre = some stats.centre
          rw [WindowStats.centre, WindowStats.centre, hsame, Except.ok.inj hstddev']

end Statistics

/-- Two buffers with the same samples select the same samples. -/
lemma windowSamples_perm {buf buf' : SeriesBuffer R} {now : Timestamp} {w : ℤ}
    {l : List (Sample R)} (hp : buf.samples.Perm buf'.samples)
    (h : buf.windowSamples now w = .ok l) :
    (∃ k, ∀ s ∈ l, s.at.aware = some k)
      ∧ ∃ l', buf'.windowSamples now w = .ok l' ∧ l.Perm l' := by
  obtain ⟨hreaches, hkind⟩ := of_windowSamples h
  obtain ⟨d, rfl⟩ := exists_of_reaches hreaches
  have hkind' : ∀ s ∈ buf'.samples, s.at.aware = some d.utcoffset.isSome :=
    fun s hs => hkind s (hp.mem_iff.mpr hs)
  have hsamples := windowSamples_eq (k := d.utcoffset.isSome) hreaches rfl hkind
  obtain rfl := Except.ok.inj (h.symm.trans hsamples)
  exact ⟨⟨d.utcoffset.isSome, fun s hs => hkind s (List.mem_filter.mp hs).1⟩, _,
    windowSamples_eq hreaches rfl hkind', hp.filter _⟩

/-- A window is a part of the samples, in their order. -/
lemma windowSamples_sublist {buf : SeriesBuffer R} {now : Timestamp} {w : ℤ}
    {l : List (Sample R)} (h : buf.windowSamples now w = .ok l) : l.Sublist buf.samples := by
  obtain ⟨hreaches, hkind⟩ := of_windowSamples h
  obtain ⟨d, rfl⟩ := exists_of_reaches hreaches
  obtain rfl := Except.ok.inj
    (h.symm.trans (windowSamples_eq (k := d.utcoffset.isSome) hreaches rfl hkind))
  exact List.filter_sublist

/-- The rate of change of a window is taken over its first and its last sample. -/
lemma rate_of_statsFor [LinearOrder R] {py : PyFloat R} (hpy : py.Ordered) {buf : SeriesBuffer R}
    (hsorted : InOrder Sample.instant buf.samples) {now : Timestamp} {w : ℤ} {stats : WindowStats R}
    (h : buf.statsFor py now w = .ok (some stats)) :
    ∃ l first last, buf.windowSamples now w = .ok l
      ∧ l.head? = some first ∧ l.getLast? = some last
      ∧ 0 ≤ last.instant - first.instant
      ∧ stats.rateOfChange = if 0 < last.instant - first.instant
          then py.div (py.sub last.value first.value)
            (py.totalSeconds (last.instant - first.instant))
          else py.zero := by
  rw [statsFor_eq] at h
  obtain ⟨l, hl, h⟩ := bind_eq_ok_iff.mp h
  obtain ⟨hkind, -⟩ := windowSamples_perm (List.Perm.refl buf.samples) hl
  have hsorted' : InOrder Sample.instant l := hsorted.sublist (windowSamples_sublist hl)
  cases l with
  | nil => cases h
  | cons first rest =>
      obtain ⟨stats', hstats, hsome⟩ := bind_eq_ok_iff.mp h
      cases hsome
      obtain ⟨helapsed, hrate⟩ := rate_eq hpy hsorted' hkind hstats
      have hlast : (first :: rest).getLast? = some (rest.getLastD first) := by
        rw [List.getLast?_cons, List.getLastD_eq_getLast?]
      exact ⟨first :: rest, first, rest.getLastD first, hl, rfl, hlast, helapsed, hrate⟩

section Permuted

variable {py : PyFloat R} {buf buf' : SeriesBuffer R} (hp : buf.samples.Perm buf'.samples)
  {now : Timestamp} {w : ℤ} {r r' : Option (WindowStats R)}
include hp

/-- Two buffers with the same samples agree on the extent of a window. -/
lemma statsFor_extent_eq [LinearOrder R] (hpy : py.Ordered) (h : buf.statsFor py now w = .ok r)
    (h' : buf'.statsFor py now w = .ok r') :
    r'.map WindowStats.extent = r.map WindowStats.extent := by
  rw [statsFor_eq] at h h'
  obtain ⟨l, hl, h⟩ := bind_eq_ok_iff.mp h
  obtain ⟨l', hl', h'⟩ := bind_eq_ok_iff.mp h'
  obtain ⟨-, l'', hl'', hperm⟩ := windowSamples_perm hp hl
  obtain rfl := Except.ok.inj (hl'.symm.trans hl'')
  exact windowStats_extent_eq hpy hperm h h'

/-- They agree on its centre, where sums do not depend on the order of their terms. -/
lemma exists_statsFor_centre (hsums : py.SumsFreely) (h : buf.statsFor py now w = .ok r) :
    ∃ r', buf'.statsFor py now w = .ok r'
      ∧ r'.map WindowStats.centre = r.map WindowStats.centre := by
  rw [statsFor_eq] at h
  obtain ⟨l, hl, h⟩ := bind_eq_ok_iff.mp h
  obtain ⟨hkind, l', hl', hperm⟩ := windowSamples_perm hp hl
  obtain ⟨r', hr', hcentre⟩ := exists_windowStats hsums hperm hkind h
  refine ⟨r', ?_, hcentre⟩
  rw [statsFor_eq, hl']
  exact hr'

end Permuted

/-- **What the order of arrival does not change.**  Comparable samples, the longest window before
each of which lies in range, leave in a buffer those of the longest window before the newest, in
chronological order and as they came; in any other order of arrival they leave the same ones.  If
the timestamps differ, so are all statistics the same; if not, the extent is, and where sums do not
depend on the order of their terms, the centre. -/
theorem arrival_order [LinearOrder R] {py : PyFloat R} (hpy : py.Ordered) {maxWindow : Time}
    {k : Bool} (arrivals : List (Sample R)) (hk : ∀ s ∈ arrivals, s.at.aware = some k)
    (hreaches : ∀ s ∈ arrivals, s.at.Reaches maxWindow) :
    let buf := SeriesBuffer.addAll ⟨maxWindow, []⟩ arrivals
    InOrder Sample.instant (chronological arrivals)
      ∧ (∀ t, dated t (chronological arrivals) = dated t arrivals)
      ∧ buf.samples = (chronological arrivals).filter
          (fun s => decide (∀ x ∈ arrivals, x.instant - maxWindow ≤ s.instant))
      ∧ (∀ now w stats, buf.statsFor py now w = .ok (some stats) →
          ∃ l first last, buf.windowSamples now w = .ok l
            ∧ l.head? = some first ∧ l.getLast? = some last
            ∧ 0 ≤ last.instant - first.instant
            ∧ stats.rateOfChange = if 0 < last.instant - first.instant
                then py.div (py.sub last.value first.value)
                  (py.totalSeconds (last.instant - first.instant))
                else py.zero)
      ∧ ∀ arrivals' : List (Sample R), arrivals'.Perm arrivals → ∀ now w,
          let buf' := SeriesBuffer.addAll ⟨maxWindow, []⟩ arrivals'
          ((arrivals.map Sample.instant).Nodup →
              buf'.statsFor py now w = buf.statsFor py now w)
            ∧ (∀ r r', buf.statsFor py now w = .ok r → buf'.statsFor py now w = .ok r' →
                r'.map WindowStats.extent = r.map WindowStats.extent)
            ∧ (py.SumsFreely → ∀ r, buf.statsFor py now w = .ok r →
                ∃ r', buf'.statsFor py now w = .ok r'
                  ∧ r'.map WindowStats.extent = r.map WindowStats.extent
                  ∧ r'.map WindowStats.centre = r.map WindowStats.centre) := by
  intro buf
  have hsamples := samples_addAll arrivals hk hreaches
  refine ⟨inOrder_sortBy arrivals, filter_sortBy arrivals, hsamples, fun now w stats h => ?_,
    fun arrivals' hperm now w => ?_⟩
  · have hsorted : InOrder Sample.instant buf.samples := by
      rw [hsamples]
      exact (inOrder_sortBy arrivals).filter _
    exact rate_of_statsFor hpy hsorted h
  · intro buf'
    have hsamples' : buf'.samples = _ := samples_addAll arrivals'
      (fun s hs => hk s (hperm.mem_iff.mp hs)) fun s hs => hreaches s (hperm.mem_iff.mp hs)
    simp only [hperm.mem_iff] at hsamples'
    have hp : buf.samples.Perm buf'.samples := by
      rw [hsamples, hsamples']
      exact ((perm_sortBy arrivals).trans (hperm.symm.trans (perm_sortBy arrivals').symm)).filter _
    refine ⟨fun hnodup => ?_, fun r r' h h' => statsFor_extent_eq hp hpy h h', fun hsums r h => ?_⟩
    · have hchrono : chronological arrivals' = chronological arrivals :=
        (sortBy_eq_of_perm hperm.symm hnodup).symm
      have hbuf : buf'.samples = buf.samples := by rw [hsamples, hsamples', hchrono]
      rw [SeriesBuffer.statsFor, SeriesBuffer.statsFor, hbuf]
    · obtain ⟨r', hr', hcentre⟩ := exists_statsFor_centre hp hsums h
      exact ⟨r', hr', statsFor_extent_eq hp hpy h hr', hcentre⟩

/-! ### Three readings of one instant -/

lemma exactFloat_ordered : exactFloat.Ordered where
  lt_iff _ _ := decide_eq_true_iff
  totalSeconds_pos t := by
    show decide ((0 : ℚ) < t / 1000000) = true ↔ 0 < t
    rw [decide_eq_true_iff, div_pos_iff_of_pos_right (by norm_num), Int.cast_pos]

theorem arrival_order_two :
    (SeriesBuffer.addAll ⟨seconds 900, []⟩ [atNoon 1 30, atNoon 0 20]).statsFor exactFloat
        (some noon) 10
      = (SeriesBuffer.addAll ⟨seconds 900, []⟩ [atNoon 0 20, atNoon 1 30]).statsFor exactFloat
          (some noon) 10 :=
  ((arrival_order exactFloat_ordered (k := true) [atNoon 0 20, atNoon 1 30]
    (by decide) (List.forall_mem_cons.mpr ⟨⟨by decide, by decide⟩,
      List.forall_mem_singleton.mpr ⟨by decide, by decide⟩⟩)).2.2.2.2 _ (.swap _ _ _) (some noon) 10).1
    (by decide)

/-- A power of two. -/
def twoPow (e : ℤ) : ℚ := if 0 ≤ e then (2 ^ e.toNat : ℕ) else 1 / (2 ^ (-e).toNat : ℕ)

/-- The nearest integer, the even one of two. -/
def roundEven (x : ℚ) : ℤ :=
  if x - x.floor < 1 / 2 ∨ x - x.floor = 1 / 2 ∧ x.floor % 2 = 0 then x.floor else x.floor + 1

/-- The nearest number with 53 binary digits: a double, as long as its exponent is in range. -/
def toDouble (x : ℚ) : ℚ :=
  if x = 0 then 0
  else
    let digits : ℤ := x.num.natAbs.log2 - x.den.log2
    let exponent := if |x| < twoPow digits then digits - 1 else digits
    roundEven (x / twoPow (exponent - 52)) * twoPow (exponent - 52)

/-- `sum` of floats: each partial sum is rounded, and what the roundings lose is added up apart. -/
def compensatedSum (values : List ℚ) : ℚ :=
  let (hi, lo) := values.foldl
    (fun (hi, lo) x =>
      let t := toDouble (hi + x)
      let lost := if |x| ≤ |hi| then toDouble (toDouble (hi - t) + x)
        else toDouble (toDouble (x - t) + hi)
      (t, toDouble (lo + lost)))
    (0, 0)
  if lo = 0 then hi else toDouble (hi + lo)

/-- Doubles: rational numbers that are rounded after each operation; `sqrt`, of numbers that are not
negative. -/
def double : PyFloat ℚ where
  zero := 0
  ofNat n := toDouble n
  lt x y := decide (x < y)
  sub x y := toDouble (x - y)
  div x y := toDouble (x / y)
  sum := compensatedSum
  square x :=
    if toDouble (x ^ 2) ≤ (2 ^ 53 - 1) * 2 ^ 971 then .ok (toDouble (x ^ 2))
    else .error ⟨.overflowError, "(34, 'Numerical result out of range')"⟩
  sqrt x := .ok (toDouble (Nat.sqrt (x * 2 ^ 200).floor.toNat / 2 ^ 100))
  totalSeconds t := toDouble (t / 1000000)
  sqrt_meanSquare _ _ _ _ := rfl

/-- Readings of noon. -/
def atOnce (values : List ℚ) : List (Sample ℚ) := values.map (atNoon 0)

/-- A reading of the first minute of year 1, east of Greenwich, and one of the tenth minute. -/
def firstMinutes : List (Sample ℚ) :=
  [⟨some ⟨0, some (seconds 86340)⟩, 20⟩, ⟨some ⟨seconds 600, some 0⟩, 30⟩]

/-- **Readings of one instant are averaged as they came**: the moving average of three of them
depends on their order.  And where the longest window leaves the range, nothing is dropped. -/
theorem ties_depend_on_order :
    ((SeriesBuffer.addAll ⟨seconds 900, []⟩ (atOnce [2 ^ 53 + 2, -1, 1 / 2 ^ 53])).statsFor double
        (some noon) 10).map (Option.map WindowStats.movingAvg)
      ≠ ((SeriesBuffer.addAll ⟨seconds 900, []⟩ (atOnce [-1, 1 / 2 ^ 53, 2 ^ 53 + 2])).statsFor
          double (some noon) 10).map (Option.map WindowStats.movingAvg)
      ∧ (SeriesBuffer.addAll ⟨seconds 900, []⟩ firstMinutes).samples = firstMinutes
      ∧ (chronological firstMinutes).filter (fun s =>
          decide (∀ x ∈ firstMinutes, x.instant - seconds 900 ≤ s.instant)) ≠ firstMinutes := by
  decide +kernel

end StreamProcessor

end InduSense
