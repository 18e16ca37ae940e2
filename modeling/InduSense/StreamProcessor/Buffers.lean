import InduSense.StreamProcessor.Series

/-!
What a series buffer holds.

* `Timestamp.aware`, `Timestamp.instant`, `Timestamp.Reaches`: when timestamps can be compared, how
  they compare, and when a duration can be taken from one.
* `SeriesBuffer.Orderly`: the invariant of a buffer; `SeriesBuffer.Admits`: the timestamps it takes.
* `add_isOk_iff`, `add_eq`, `Orderly.add`: `add` raises on the others only, and on these it inserts
  by time and drops what has left the longest window.
-/

namespace InduSense

/-! ### Timestamps -/

namespace Timestamp

/-- Whether a timestamp carries an offset, if there is one. -/
def aware (t : Timestamp) : Option Bool := t.map fun d => d.utcoffset.isSome

/-- The instant a timestamp is compared by. -/
def instant (t : Timestamp) : ℤ := t.elim 0 Datetime.instant

/-- A duration before the timestamp lies in the years 1 to 9999. -/
def Reaches (delta : Time) : Timestamp → Prop
  | some d => 0 ≤ d.wall - delta ∧ d.wall - delta ≤ Datetime.maxWall
  | none => False

variable {a b t : Timestamp} {k : Bool} {delta : Time}

lemma gt_of_aware (ha : a.aware = some k) (hb : b.aware = some k) :
    a.gt b = .ok (decide (b.instant < a.instant)) := by
  cases a with
  | none => cases ha
  | some a =>
      cases b with
      | none => cases hb
      | some b => exact if_pos (Option.some.inj (ha.trans hb.symm))

lemma lt_of_aware (ha : a.aware = some k) (hb : b.aware = some k) :
    a.lt b = .ok (decide (a.instant < b.instant)) := by
  cases a with
  | none => cases ha
  | some a =>
      cases b with
      | none => cases hb
      | some b => exact if_pos (Option.some.inj (hb.trans ha.symm))

/-- Only timestamps of one kind compare. -/
lemma aware_eq_of_gt (h : (a.gt b).isOk = true) : a.aware = b.aware := by
  cases a with
  | none => cases h
  | some a =>
      cases b with
      | none => cases h
      | some b =>
          by_contra hne
          rw [gt, Datetime.gt, if_neg fun heq => hne (congrArg some heq)] at h
          cases h

lemma sub_isOk_iff : (t.sub delta).isOk = true ↔ t.Reaches delta := by
  cases t with
  | none => exact ⟨fun h => absurd h Bool.false_ne_true, False.elim⟩
  | some d =>
      rw [sub, Datetime.sub]
      split
      · exact iff_of_true rfl ‹_›
      · exact iff_of_false Bool.false_ne_true ‹_›

/-- What is left when a duration is taken from a timestamp. -/
lemma exists_sub_eq (h : t.Reaches delta) :
    ∃ t', t.sub delta = .ok t' ∧ t'.aware = t.aware ∧ t'.instant = t.instant - delta := by
  cases t with
  | none => exact h.elim
  | some d =>
      have hrange : 0 ≤ d.wall - delta ∧ d.wall - delta ≤ Datetime.maxWall := h
      refine ⟨some { d with wall := d.wall - delta }, ?_, rfl, ?_⟩
      · rw [sub, Datetime.sub, if_pos hrange]
        rfl
      · show d.wall - delta - d.utcoffset.getD 0 = d.wall - d.utcoffset.getD 0 - delta
        omega

end Timestamp

namespace StreamProcessor

variable {R : Type}

/-- The instant of a sample. -/
def Sample.instant (s : Sample R) : ℤ := s.at.instant

/-- The first sample is not before the second. -/
def NotBefore (a b : Sample R) : Prop := b.instant ≤ a.instant

instance : DecidableRel (NotBefore (R := R)) := fun a b => Int.decLe b.instant a.instant

instance : IsTrans (Sample R) NotBefore := ⟨fun _ _ _ hab hbc => le_trans hbc hab⟩

instance : Std.Total (NotBefore (R := R)) := ⟨fun a b => le_total b.instant a.instant⟩

namespace SeriesBuffer

/-! ### The loops of `add` -/

variable {k : Bool} {s : Sample R} {l : List (Sample R)}

/-- The first loop is an ordered insertion, after samples of the same instant. -/
lemma insertByTime_eq (hs : s.at.aware = some k) (hl : ∀ x ∈ l, x.at.aware = some k) :
    insertByTime s l = .ok (l.orderedInsert NotBefore s) := by
  induction l with
  | nil => rfl
  | cons x l ih =>
      rw [List.forall_mem_cons] at hl
      rw [insertByTime, Timestamp.gt_of_aware hl.1 hs, ih hl.2, List.orderedInsert_cons]
      by_cases hlt : s.at.instant < x.at.instant
      · have hnot : ¬ NotBefore s x := not_le.mpr hlt
        rw [if_neg hnot]
        simp [hlt, bind, Except.bind, pure, Except.pure]
      · have hbefore : NotBefore s x := not_lt.mp hlt
        rw [if_pos hbefore]
        simp [hlt, bind, Except.bind, pure, Except.pure]

/-- An insertion that does not raise has compared with the newest sample. -/
lemma aware_of_insertByTime (h : (insertByTime s l).isOk = true) :
    ∀ x ∈ l.head?, x.at.aware = s.at.aware := by
  cases l with
  | nil => nofun
  | cons y l =>
      rintro x hx
      cases hx
      refine Timestamp.aware_eq_of_gt ?_
      rw [insertByTime] at h
      revert h
      cases y.at.gt s.at with
      | error e => exact id
      | ok later => exact fun _ => rfl

/-- The second loop, where the samples compare with the cutoff. -/
lemma dropOld_eq {cutoff : Timestamp} (hc : cutoff.aware = some k)
    (hl : ∀ x ∈ l, x.at.aware = some k) :
    dropOld cutoff l = .ok (l.dropWhile fun x => decide (x.instant < cutoff.instant)) := by
  induction l with
  | nil => rfl
  | cons x l ih =>
      rw [List.forall_mem_cons] at hl
      rw [dropOld, Timestamp.lt_of_aware hl.1 hc, ih hl.2, List.dropWhile_cons]
      by_cases hlt : x.at.instant < cutoff.instant
      · simp [Sample.instant, hlt, bind, Except.bind]
      · simp [Sample.instant, hlt, bind, Except.bind, pure, Except.pure]

/-- On samples in order, what the second loop leaves is what is not before the cutoff. -/
lemma dropWhile_eq_filter {c : ℤ} (hl : l.Pairwise fun a b => a.instant ≤ b.instant) :
    l.dropWhile (fun x => decide (x.instant < c)) = l.filter fun x => decide (c ≤ x.instant) := by
  induction l with
  | nil => rfl
  | cons x l ih =>
      rw [List.pairwise_cons] at hl
      by_cases hlt : x.instant < c
      · have hout : ¬ c ≤ x.instant := not_le.mpr hlt
        simp only [List.dropWhile_cons, List.filter_cons, hlt, hout, decide_true, decide_false,
          ih hl.2, if_true, Bool.false_eq_true, if_false]
      · rw [List.dropWhile_cons_of_neg (by simpa using hlt), eq_comm, List.filter_eq_self]
        intro y hy
        rcases List.mem_cons.mp hy with rfl | hy
        · exact decide_eq_true (not_lt.mp hlt)
        · exact decide_eq_true ((not_lt.mp hlt).trans (hl.1 y hy))

/-! ### The buffer -/

/-- The samples of a buffer have timestamps of one kind and are in order, and the longest window of
the newest lies in range. -/
structure Orderly (buf : SeriesBuffer R) : Prop where
  aware : ∃ k, ∀ s ∈ buf.samples, s.at.aware = some k
  sorted : buf.samples.Pairwise fun a b => a.instant ≤ b.instant
  reaches : ∀ newest ∈ buf.samples.getLast?, newest.at.Reaches buf.maxWindow

/-- A timestamp is of the kind of the samples, and its longest window lies in range if it becomes
the newest. -/
def Admits (buf : SeriesBuffer R) («at» : Timestamp) : Prop :=
  (∀ s ∈ buf.samples, s.at.aware = «at».aware)
    ∧ ((∀ s ∈ buf.samples, s.instant ≤ «at».instant) → «at».Reaches buf.maxWindow)

/-- The samples with one more, oldest first. -/
def inserted (buf : SeriesBuffer R) (s : Sample R) : List (Sample R) :=
  (buf.samples.reverse.orderedInsert NotBefore s).reverse

variable {buf : SeriesBuffer R}

lemma orderly_nil (maxWindow : Time) : Orderly (⟨maxWindow, []⟩ : SeriesBuffer R) :=
  ⟨⟨false, nofun⟩, List.Pairwise.nil, nofun⟩

lemma mem_inserted {x : Sample R} : x ∈ buf.inserted s ↔ x = s ∨ x ∈ buf.samples := by
  rw [inserted, List.mem_reverse, List.mem_orderedInsert, List.mem_reverse]

lemma Orderly.inserted (h : buf.Orderly) (s : Sample R) :
    (buf.inserted s).Pairwise fun a b => a.instant ≤ b.instant :=
  List.pairwise_reverse.mpr
    (List.Pairwise.orderedInsert s _ (List.pairwise_reverse.mpr h.sorted))

/-- The newest sample after an insertion is the new one, if no other is later, or the newest
before. -/
lemma newest_inserted (buf : SeriesBuffer R) (s : Sample R) (h : buf.Orderly) :
    (buf.inserted s).getLast? = some s ∧ (∀ x ∈ buf.samples, x.instant ≤ s.instant)
      ∨ (∃ x ∈ buf.samples, s.instant < x.instant)
        ∧ (buf.inserted s).getLast? = buf.samples.getLast? := by
  have hsorted := List.pairwise_reverse.mpr h.sorted
  rw [SeriesBuffer.inserted, List.getLast?_reverse, ← List.head?_reverse]
  have hmem : ∀ x, x ∈ buf.samples ↔ x ∈ buf.samples.reverse := fun x => List.mem_reverse.symm
  simp only [hmem]
  cases hl : buf.samples.reverse with
  | nil => exact .inl ⟨rfl, nofun⟩
  | cons x older =>
      rw [hl, List.pairwise_cons] at hsorted
      rw [List.orderedInsert_cons]
      by_cases hx : x.instant ≤ s.instant
      · have hbefore : NotBefore s x := hx
        rw [if_pos hbefore]
        refine .inl ⟨rfl, fun y hy => ?_⟩
        rcases List.mem_cons.mp hy with rfl | hy
        · exact hx
        · exact (hsorted.1 y hy).trans hx
      · have hnot : ¬ NotBefore s x := hx
        rw [if_neg hnot]
        exact .inr ⟨⟨x, List.mem_cons_self, not_le.mp hx⟩, rfl⟩

/-- `add`, with its first loop carried out. -/
lemma add_eq_trim (buf : SeriesBuffer R) {k : Bool} («at» : Timestamp) (value : R)
    (hat : «at».aware = some k) (hk : ∀ s ∈ buf.samples, s.at.aware = some k) :
    ∃ newest, (buf.inserted ⟨«at», value⟩).getLast? = some newest ∧
      buf.add «at» value =
        match trim buf.maxWindow newest (buf.inserted ⟨«at», value⟩) with
        | .error e => (.error e, { buf with samples := buf.inserted ⟨«at», value⟩ })
        | .ok kept => (.ok (), { buf with samples := kept }) := by
  have hk' : ∀ s ∈ buf.samples.reverse, s.at.aware = some k :=
    fun s hs => hk s (List.mem_reverse.mp hs)
  rw [add, insertByTime_eq hat hk', SeriesBuffer.inserted]
  cases hl : buf.samples.reverse.orderedInsert NotBefore ⟨«at», value⟩ with
  | nil =>
      have hlen := List.orderedInsert_length NotBefore buf.samples.reverse ⟨«at», value⟩
      rw [hl] at hlen
      cases hlen
  | cons newest older => exact ⟨newest, List.getLast?_reverse, rfl⟩

/-- The newest sample after an insertion that the buffer admits has its longest window in range. -/
lemma Orderly.reaches_newest (h : buf.Orderly) {«at» : Timestamp} {value : R} {newest : Sample R}
    (hadm : buf.Admits «at») (hnew : (buf.inserted ⟨«at», value⟩).getLast? = some newest) :
    newest.at.Reaches buf.maxWindow := by
  rcases newest_inserted buf ⟨«at», value⟩ h with ⟨hlast, hall⟩ | ⟨-, hlast⟩
  · rw [hlast] at hnew
    cases hnew
    exact hadm.2 hall
  · exact h.reaches newest (hlast.symm.trans hnew)

/-- **`add` on what the buffer admits**: an insertion by time, of which the longest window before
the newest sample is kept. -/
theorem Orderly.add_eq (h : buf.Orderly) {d : Datetime} (value : R) (hadm : buf.Admits (some d)) :
    ∃ newest, (buf.inserted ⟨some d, value⟩).getLast? = some newest ∧
      buf.add (some d) value = (.ok (), { buf with
        samples := (buf.inserted ⟨some d, value⟩).filter fun s =>
          decide (newest.instant - buf.maxWindow ≤ s.instant) }) := by
  obtain ⟨newest, hnew, hadd⟩ := add_eq_trim buf (some d) value rfl hadm.1
  refine ⟨newest, hnew, ?_⟩
  obtain ⟨cutoff, hsub, haware, hinstant⟩ :=
    Timestamp.exists_sub_eq (h.reaches_newest hadm hnew)
  have hkind : ∀ s ∈ buf.inserted ⟨some d, value⟩, s.at.aware = some d.utcoffset.isSome := by
    intro s hs
    rcases mem_inserted.mp hs with rfl | hs
    · rfl
    · exact hadm.1 s hs
  have hcut : cutoff.aware = some d.utcoffset.isSome :=
    haware.trans (hkind newest (List.mem_of_getLast? hnew))
  rw [hadd, trim, hsub]
  simp only [bind, Except.bind, dropOld_eq hcut hkind, dropWhile_eq_filter (h.inserted _),
    hinstant]
  rfl

/-- **When `add` raises**: on a timestamp that the buffer does not admit. -/
theorem Orderly.add_isOk_iff (h : buf.Orderly) (d : Datetime) (value : R) :
    (buf.add (some d) value).1.isOk = true ↔ buf.Admits (some d) := by
  refine ⟨fun hok => ?_, fun hadm => ?_⟩
  · have hkind : ∀ s ∈ buf.samples, s.at.aware = some d.utcoffset.isSome := by
      obtain ⟨k, hk⟩ := h.aware
      have hins : (insertByTime ⟨some d, value⟩ buf.samples.reverse).isOk = true := by
        rw [add] at hok
        revert hok
        cases insertByTime ⟨some d, value⟩ buf.samples.reverse with
        | error e => exact id
        | ok samples => exact fun _ => rfl
      have hhead := aware_of_insertByTime hins
      intro s hs
      rw [← List.mem_reverse] at hs
      cases hl : buf.samples.reverse with
      | nil =>
          rw [hl] at hs
          cases hs
      | cons newest older =>
          rw [hl] at hhead
          have hmem : newest ∈ buf.samples := by
            rw [← List.mem_reverse, hl]
            exact List.mem_cons_self
          rw [hk s (List.mem_reverse.mp hs), ← hk newest hmem]
          exact hhead newest rfl
    refine ⟨hkind, fun hall => ?_⟩
    obtain ⟨newest, hnew, hadd⟩ := add_eq_trim buf (some d) value rfl hkind
    rcases newest_inserted buf ⟨some d, value⟩ h with ⟨hlast, -⟩ | ⟨⟨x, hx, hlater⟩, -⟩
    · rw [hlast] at hnew
      cases hnew
      rw [← Timestamp.sub_isOk_iff]
      rw [hadd, trim] at hok
      revert hok
      cases Timestamp.sub buf.maxWindow (some d) with
      | error e => exact id
      | ok cutoff => exact fun _ => rfl
    · exact absurd (hall x hx) (not_le.mpr hlater)
  · obtain ⟨newest, -, hadd⟩ := h.add_eq value hadm
    rw [hadd]
    rfl

/-- A buffer stays in order as long as it admits what is added. -/
theorem Orderly.add (h : buf.Orderly) {d : Datetime} (value : R) (hadm : buf.Admits (some d)) :
    (buf.add (some d) value).2.Orderly := by
  obtain ⟨newest, hnew, hadd⟩ := h.add_eq value hadm
  rw [hadd]
  refine ⟨⟨d.utcoffset.isSome, fun s hs => ?_⟩, (h.inserted _).filter _, fun last hlast => ?_⟩
  · rcases mem_inserted.mp (List.mem_filter.mp hs).1 with rfl | hs
    · rfl
    · exact hadm.1 s hs
  · -- what is left is a suffix, so its last sample is the newest
    dsimp only at hlast
    rw [← dropWhile_eq_filter (h.inserted _)] at hlast
    have hsuffix := (List.singleton_suffix_iff_getLast?_eq_some.mpr hlast).trans
      (List.dropWhile_suffix _)
    exact h.reaches_newest hadm (List.singleton_suffix_iff_getLast?_eq_some.mp hsuffix)

end SeriesBuffer

end StreamProcessor

end InduSense
