import InduSense.Lists.StableSort
import InduSense.StreamProcessor.Buffers

/-!
What a series buffer holds after any samples have been added to it.

* `SeriesBuffer.addAll`: the buffer after some calls of `add`; `chronological`: samples by their
  timestamps, those of equal timestamps as they came.
* `Retains`, `addAll_retains`: the buffer is in order, and of the samples of the kind of the first
  it has lost none that the longest window before the newest still holds.
* `Trimmed`, `addAll_trimmed`: if no `add` raises, the buffer holds no other samples.
* `samples_addAll`: the buffer is then a selection of the samples in chronological order.
-/

namespace InduSense

namespace StreamProcessor

open InduSense.Lists (sortBy insertAfter InOrder inOrder_sortBy filter_sortBy eq_of_filter_eq
  mem_insertAfter filter_insertAfter filter_filter_key)

variable {R : Type}

/-- The buffer after some calls of `add`, whether they raise or not. -/
def SeriesBuffer.addAll (buf : SeriesBuffer R) (arrivals : List (Sample R)) : SeriesBuffer R :=
  arrivals.foldl (fun buf s => (buf.add s.at s.value).2) buf

/-- Samples by their timestamps, those of equal timestamps in the order of arrival. -/
def chronological (arrivals : List (Sample R)) : List (Sample R) := sortBy Sample.instant arrivals

/-- The samples whose timestamps have an offset, or have none. -/
def ofKind (k : Bool) (arrivals : List (Sample R)) : List (Sample R) :=
  arrivals.filter fun s => decide (s.at.aware = some k)

/-- The samples of one instant. -/
def dated (t : ℤ) (l : List (Sample R)) : List (Sample R) :=
  l.filter fun s => decide (s.instant = t)

/-! ### One call of `add` -/

variable {buf : SeriesBuffer R} {s : Sample R} {k : Bool}

@[simp] lemma add_maxWindow (buf : SeriesBuffer R) (t : Timestamp) (value : R) :
    (buf.add t value).2.maxWindow = buf.maxWindow := by
  rw [SeriesBuffer.add]
  cases SeriesBuffer.insertByTime ⟨t, value⟩ buf.samples.reverse with
  | error e => rfl
  | ok l =>
      cases l with
      | nil => rfl
      | cons newest older =>
          dsimp only
          cases SeriesBuffer.trim buf.maxWindow newest (newest :: older).reverse with
          | error e => rfl
          | ok kept => rfl

lemma addAll_append (buf : SeriesBuffer R) (arrivals : List (Sample R)) (s : Sample R) :
    buf.addAll (arrivals ++ [s]) = ((buf.addAll arrivals).add s.at s.value).2 := by
  rw [SeriesBuffer.addAll, List.foldl_append]
  rfl

@[simp] lemma addAll_maxWindow (buf : SeriesBuffer R) (arrivals : List (Sample R)) :
    (buf.addAll arrivals).maxWindow = buf.maxWindow := by
  induction arrivals using List.reverseRecOn with
  | nil => rfl
  | append_singleton arrivals s ih => rw [addAll_append, add_maxWindow, ih]

lemma instant_eq_of_mem_dated {t : ℤ} {l : List (Sample R)} {x : Sample R} (hx : x ∈ dated t l) :
    x ∈ l ∧ x.instant = t := by
  rw [dated, List.mem_filter, decide_eq_true_eq] at hx
  exact hx

lemma mem_dated {l : List (Sample R)} {x : Sample R} (hx : x ∈ l) : x ∈ dated x.instant l :=
  List.mem_filter.mpr ⟨hx, decide_eq_true rfl⟩

/-- A sample of the kind of a buffer is inserted behind all that are not later; then what the
longest window before the newest does not hold is dropped, unless that window leaves the range. -/
lemma add_samples (hs : s.at.aware = some k) (hk : ∀ x ∈ buf.samples, x.at.aware = some k)
    (hsorted : InOrder Sample.instant buf.samples) :
    ∃ newest ∈ insertAfter Sample.instant s buf.samples,
      (∀ x ∈ insertAfter Sample.instant s buf.samples, x.instant ≤ newest.instant) ∧
      (newest.at.Reaches buf.maxWindow ∧ (buf.add s.at s.value).2.samples
          = (insertAfter Sample.instant s buf.samples).filter (fun x =>
              decide (newest.instant - buf.maxWindow ≤ x.instant))
        ∨ ¬ newest.at.Reaches buf.maxWindow ∧ (buf.add s.at s.value).2.samples
          = insertAfter Sample.instant s buf.samples) := by
  have hins : buf.inserted s = insertAfter Sample.instant s buf.samples := rfl
  obtain ⟨newest, hlast, hadd⟩ := buf.add_eq_trim s.at s.value hs hk
  have hinsorted := hsorted.insertAfter s
  have hkind : ∀ x ∈ insertAfter Sample.instant s buf.samples, x.at.aware = some k := by
    intro x hx
    rcases mem_insertAfter.mp hx with rfl | hx
    · exact hs
    · exact hk x hx
  rw [hins] at hlast hadd
  refine ⟨newest, List.mem_of_getLast? hlast, ?_, ?_⟩
  · intro x hx
    rw [List.getLast?_eq_some_iff] at hlast
    obtain ⟨before, hbefore⟩ := hlast
    rw [hbefore] at hx hinsorted
    rcases List.mem_append.mp hx with hx | hx
    · exact (List.pairwise_append.mp hinsorted).2.2 x hx newest List.mem_cons_self
    · rw [List.mem_singleton.mp hx]
  · by_cases hreaches : newest.at.Reaches buf.maxWindow
    · obtain ⟨cutoff, hsub, haware, hinstant⟩ := Timestamp.exists_sub_eq hreaches
      have hcut : cutoff.aware = some k :=
        haware.trans (hkind newest (List.mem_of_getLast? hlast))
      refine .inl ⟨hreaches, ?_⟩
      rw [hadd, SeriesBuffer.trim, hsub]
      simp only [bind, Except.bind, SeriesBuffer.dropOld_eq hcut hkind,
        SeriesBuffer.dropWhile_eq_filter hinsorted, hinstant]
      rfl
    · refine .inr ⟨hreaches, ?_⟩
      rw [hadd, SeriesBuffer.trim]
      cases hsub : Timestamp.sub buf.maxWindow newest.at with
      | error e => rfl
      | ok cutoff =>
          exact absurd (Timestamp.sub_isOk_iff.mp (isOk_iff.mpr ⟨cutoff, hsub⟩)) hreaches

/-- A sample of another kind bounces off the newest one. -/
lemma add_of_other (hs : s.at.aware ≠ some k) (hne : buf.samples ≠ [])
    (hk : ∀ x ∈ buf.samples, x.at.aware = some k) : (buf.add s.at s.value).2 = buf := by
  rw [SeriesBuffer.add]
  cases hins : SeriesBuffer.insertByTime ⟨s.at, s.value⟩ buf.samples.reverse with
  | error e => rfl
  | ok l =>
      have hhead := SeriesBuffer.aware_of_insertByTime (isOk_iff.mpr ⟨l, hins⟩)
      have hsome := List.isSome_head?.mpr (mt List.reverse_eq_nil_iff.mp hne)
      obtain ⟨x, hx⟩ := Option.isSome_iff_exists.mp hsome
      have hmem : x ∈ buf.samples := List.mem_reverse.mp (List.mem_of_head? hx)
      exact absurd ((hhead x hx).symm.trans (hk x hmem)) hs

/-! ### What the buffer retains -/

/-- The samples of a buffer are among those added, in order; and of the instants that the longest
window before every sample added still holds, none is lost. -/
structure Retains (arrivals : List (Sample R)) (buf : SeriesBuffer R) : Prop where
  inOrder : InOrder Sample.instant buf.samples
  mem : ∀ s ∈ buf.samples, s ∈ arrivals
  recent : ∀ t, (∀ x ∈ arrivals, x.instant - buf.maxWindow ≤ t) →
    dated t buf.samples = dated t arrivals

variable {arrivals : List (Sample R)}

lemma retains_nil (maxWindow : Time) : Retains [] (⟨maxWindow, []⟩ : SeriesBuffer R) :=
  ⟨List.Pairwise.nil, nofun, fun _ _ => rfl⟩

/-- A sample of the same kind. -/
lemma Retains.add (h : Retains arrivals buf) (hk : ∀ x ∈ arrivals, x.at.aware = some k)
    (hs : s.at.aware = some k) : Retains (arrivals ++ [s]) (buf.add s.at s.value).2 := by
  obtain ⟨newest, hnewest, -, hsamples⟩ :=
    add_samples hs (fun x hx => hk x (h.mem x hx)) h.inOrder
  have hmem : ∀ x ∈ insertAfter Sample.instant s buf.samples, x ∈ arrivals ++ [s] := by
    intro x hx
    rw [List.mem_append, List.mem_singleton]
    exact (mem_insertAfter.mp hx).symm.imp (h.mem x) id
  have hdated : ∀ t, (∀ x ∈ arrivals ++ [s], x.instant - buf.maxWindow ≤ t) →
      dated t (insertAfter Sample.instant s buf.samples) = dated t (arrivals ++ [s]) := by
    intro t ht
    have hrecent := h.recent t fun x hx => ht x (List.mem_append_left _ hx)
    rw [dated] at hrecent
    rw [dated, filter_insertAfter, List.filter_append, hrecent, dated, dated, List.filter_append]
  rcases hsamples with ⟨-, heq⟩ | ⟨-, heq⟩
  · refine ⟨?_, fun x hx => ?_, fun t ht => ?_⟩
    · rw [heq]
      exact (h.inOrder.insertAfter s).filter _
    · rw [heq] at hx
      exact hmem x (List.mem_filter.mp hx).1
    · rw [add_maxWindow] at ht
      rw [heq, dated, filter_filter_key, ← dated, hdated t ht, List.filter_eq_self]
      intro x hx
      rw [(instant_eq_of_mem_dated hx).2]
      exact decide_eq_true (ht newest (hmem newest hnewest))
  · refine ⟨?_, fun x hx => ?_, fun t ht => ?_⟩
    · rw [heq]
      exact h.inOrder.insertAfter s
    · rw [heq] at hx
      exact hmem x hx
    · rw [add_maxWindow] at ht
      rw [heq, hdated t ht]

/-- A newest sample is never lost, so the buffer is not empty. -/
lemma Retains.exists_newest (h : Retains arrivals buf) (hwindow : 0 ≤ buf.maxWindow)
    (hne : arrivals ≠ []) :
    ∃ newest ∈ buf.samples, ∀ x ∈ arrivals, x.instant ≤ newest.instant := by
  obtain ⟨x, hx, hmax⟩ : ∃ x ∈ arrivals, ∀ y ∈ arrivals, y.instant ≤ x.instant := by
    have hnonempty : {y | y ∈ arrivals}.Nonempty := List.exists_mem_of_ne_nil arrivals hne
    obtain ⟨x, hx, hmax⟩ :=
      Set.exists_max_image {y | y ∈ arrivals} Sample.instant (List.finite_toSet arrivals) hnonempty
    exact ⟨x, hx, hmax⟩
  have hdated := h.recent x.instant fun y hy => by
    have := hmax y hy
    linarith
  have hmem : x ∈ dated x.instant buf.samples := hdated ▸ mem_dated hx
  exact ⟨x, (instant_eq_of_mem_dated hmem).1, hmax⟩

lemma ofKind_append (k : Bool) (arrivals : List (Sample R)) (s : Sample R) :
    ofKind k (arrivals ++ [s])
      = ofKind k arrivals ++ if s.at.aware = some k then [s] else [] := by
  rw [ofKind, List.filter_append]
  by_cases hs : s.at.aware = some k
  · simp [ofKind, hs]
  · simp [ofKind, hs]

lemma aware_of_mem_ofKind {x : Sample R} (hx : x ∈ ofKind k arrivals) :
    x ∈ arrivals ∧ x.at.aware = some k := by
  rw [ofKind, List.mem_filter, decide_eq_true_eq] at hx
  exact hx

/-- **What any samples leave in a buffer**, by the kind of the first of them. -/
theorem addAll_retains {maxWindow : Time} (hwindow : 0 ≤ maxWindow) (arrivals : List (Sample R))
    (hfirst : ∀ s ∈ arrivals.head?, s.at.aware = some k) :
    Retains (ofKind k arrivals) (SeriesBuffer.addAll ⟨maxWindow, []⟩ arrivals) := by
  induction arrivals using List.reverseRecOn with
  | nil => exact retains_nil maxWindow
  | append_singleton arrivals s ih =>
      rw [addAll_append, ofKind_append]
      by_cases hs : s.at.aware = some k
      · rw [if_pos hs]
        have hprev : ∀ x ∈ arrivals.head?, x.at.aware = some k := by
          intro x hx
          refine hfirst x ?_
          rw [List.head?_append_of_ne_nil _ (List.ne_nil_of_mem (List.mem_of_head? hx))]
          exact hx
        exact (ih hprev).add (fun x hx => (aware_of_mem_ofKind hx).2) hs
      · have hne : arrivals ≠ [] := by
          rintro rfl
          exact hs (hfirst s rfl)
        rw [List.head?_append_of_ne_nil _ hne] at hfirst
        have ih := ih hfirst
        -- the first sample is of the kind, so a newest one of the kind is there to bounce off
        have hkind : ofKind k arrivals ≠ [] := by
          obtain ⟨x, hx⟩ := Option.isSome_iff_exists.mp (List.isSome_head?.mpr hne)
          refine List.ne_nil_of_mem (a := x) (List.mem_filter.mpr ⟨List.mem_of_head? hx, ?_⟩)
          exact decide_eq_true (hfirst x hx)
        obtain ⟨newest, hnewest, -⟩ := ih.exists_newest (by simpa using hwindow) hkind
        rw [if_neg hs, List.append_nil, add_of_other hs (List.ne_nil_of_mem hnewest) fun x hx =>
          (aware_of_mem_ofKind (ih.mem x hx)).2]
        exact ih

/-! ### What it drops -/

/-- Every sample of a buffer is in the longest window before every sample added. -/
def Trimmed (arrivals : List (Sample R)) (buf : SeriesBuffer R) : Prop :=
  ∀ x ∈ buf.samples, ∀ y ∈ arrivals, y.instant - buf.maxWindow ≤ x.instant

/-- A sample of the same kind whose longest window is in range, as those of the others are. -/
lemma Retains.add_trimmed (h : Retains arrivals buf)
    (hk : ∀ x ∈ arrivals, x.at.aware = some k) (hs : s.at.aware = some k)
    (hreaches : ∀ x ∈ arrivals ++ [s], x.at.Reaches buf.maxWindow) :
    Trimmed (arrivals ++ [s]) (buf.add s.at s.value).2 := by
  obtain ⟨newest, hnewest, hmax, hsamples⟩ :=
    add_samples hs (fun x hx => hk x (h.mem x hx)) h.inOrder
  have hin : newest ∈ arrivals ++ [s] := by
    rw [List.mem_append, List.mem_singleton]
    exact (mem_insertAfter.mp hnewest).symm.imp (h.mem newest) id
  rcases hsamples with ⟨-, heq⟩ | ⟨hnot, -⟩
  · intro x hx y hy
    rw [heq, List.mem_filter, decide_eq_true_eq] at hx
    rw [add_maxWindow]
    have hxnew := hmax x hx.1
    -- with a window of negative length nothing would be left
    have hwindow : 0 ≤ buf.maxWindow := by linarith
    have hy : y.instant ≤ newest.instant := by
      rcases List.mem_append.mp hy with hy | hy
      · obtain ⟨z, hz, hle⟩ := h.exists_newest hwindow (List.ne_nil_of_mem hy)
        exact (hle y hy).trans (hmax z (mem_insertAfter.mpr (.inr hz)))
      · exact hmax y (mem_insertAfter.mpr (.inl (List.mem_singleton.mp hy)))
    omega
  · exact absurd (hreaches newest hin) hnot

/-- What comparable samples leave in a buffer, if none of them raises. -/
theorem addAll_trimmed {maxWindow : Time} (arrivals : List (Sample R))
    (hk : ∀ s ∈ arrivals, s.at.aware = some k)
    (hreaches : ∀ s ∈ arrivals, s.at.Reaches maxWindow) :
    Retains arrivals (SeriesBuffer.addAll ⟨maxWindow, []⟩ arrivals)
      ∧ Trimmed arrivals (SeriesBuffer.addAll ⟨maxWindow, []⟩ arrivals) := by
  induction arrivals using List.reverseRecOn with
  | nil => exact ⟨retains_nil maxWindow, fun x hx => absurd hx List.not_mem_nil⟩
  | append_singleton arrivals s ih =>
      have hk' : ∀ x ∈ arrivals, x.at.aware = some k :=
        fun x hx => hk x (List.mem_append_left _ hx)
      have hs : s.at.aware = some k := hk s (List.mem_append_right _ List.mem_cons_self)
      obtain ⟨hretains, -⟩ := ih hk' fun x hx => hreaches x (List.mem_append_left _ hx)
      rw [addAll_append]
      exact ⟨hretains.add hk' hs, hretains.add_trimmed hk' hs (by simpa using hreaches)⟩

/-- **The buffer after comparable samples**: in chronological order those that the longest window
before the newest holds. -/
theorem samples_addAll {maxWindow : Time} (arrivals : List (Sample R))
    (hk : ∀ s ∈ arrivals, s.at.aware = some k)
    (hreaches : ∀ s ∈ arrivals, s.at.Reaches maxWindow) :
    (SeriesBuffer.addAll ⟨maxWindow, []⟩ arrivals).samples
      = (chronological arrivals).filter fun s =>
          decide (∀ x ∈ arrivals, x.instant - maxWindow ≤ s.instant) := by
  obtain ⟨hretains, htrim⟩ := addAll_trimmed arrivals hk hreaches
  have hwindow := addAll_maxWindow ⟨maxWindow, []⟩ arrivals
  refine eq_of_filter_eq hretains.inOrder
    ((inOrder_sortBy arrivals).filter _) fun t => ?_
  rw [filter_filter_key, chronological, filter_sortBy, ← dated, ← dated]
  by_cases ht : ∀ x ∈ arrivals, x.instant - maxWindow ≤ t
  · rw [hretains.recent t (by rwa [hwindow]), eq_comm, List.filter_eq_self]
    intro x hx
    rw [(instant_eq_of_mem_dated hx).2]
    exact decide_eq_true ht
  · have hempty : dated t (SeriesBuffer.addAll ⟨maxWindow, []⟩ arrivals).samples = [] := by
      rw [List.eq_nil_iff_forall_not_mem]
      intro x hx
      obtain ⟨hmem, rfl⟩ := instant_eq_of_mem_dated hx
      refine ht fun y hy => ?_
      have := htrim x hmem y hy
      rwa [hwindow] at this
    rw [hempty, eq_comm, List.filter_eq_nil_iff]
    intro x hx
    rw [(instant_eq_of_mem_dated hx).2, decide_eq_true_eq]
    exact ht

end StreamProcessor

end InduSense
