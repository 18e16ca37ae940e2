import Mathlib.Tactic

/-!
Logs of instants under keys, cut to a trailing window by every record.

* `Hit`, `SlidingLog`, `record`: a hit is counted together with the instants of its key that are
  no older than its window before it; the older ones are dropped for good.
* `survivors`: the instants of some hits that no later one of them drops; `afterHits_eq`: they are
  what the log holds.
* `filter_survivors`, `count_of_pairwise`: what is dropped before does not count now, where the
  windows have moved forward only.
* `Gathered`: the instants a hit is counted with fit in one window; `exists_window`: then the count
  is sound.
-/

namespace InduSense

/-- An instant under a key, with the length of the window it is counted in. -/
structure Hit (K T : Type) where
  key : K
  instant : T
  window : T
  deriving DecidableEq

/-- The instants stored under each key. -/
abbrev SlidingLog (K T : Type) := K → List T

namespace SlidingLog

variable {K T : Type} [DecidableEq K] [AddCommGroup T] [LinearOrder T]

/-- Nothing stored. -/
def empty : SlidingLog K T := fun _ => []

/-- The number of instants a hit is counted with, itself included, and the log it leaves. -/
def record (log : SlidingLog K T) (hit : Hit K T) : ℕ × SlidingLog K T :=
  let times := (log hit.key).filter (fun t => hit.instant - hit.window ≤ t) ++ [hit.instant]
  (times.length, Function.update log hit.key times)

/-- The log after some hits. -/
def afterHits (hits : List (Hit K T)) : SlidingLog K T :=
  hits.foldl (fun log hit => (log.record hit).2) empty

omit [DecidableEq K] in
/-- The instants of some hits, in their order, that are in the window of every later one. -/
def survivors : List (Hit K T) → List T
  | [] => []
  | hit :: later =>
      if ∀ other ∈ later, other.instant - other.window ≤ hit.instant then
        hit.instant :: survivors later
      else survivors later

/-- The hits of one key. -/
def ofKey (hits : List (Hit K T)) (key : K) : List (Hit K T) := hits.filter fun hit => hit.key = key

/-! ### What the log holds -/

omit [DecidableEq K] in
/-- One more hit drops what is older than its window. -/
lemma survivors_append (hits : List (Hit K T)) (hit : Hit K T) :
    survivors (hits ++ [hit])
      = (survivors hits).filter (fun t => hit.instant - hit.window ≤ t) ++ [hit.instant] := by
  induction hits with
  | nil => simp [survivors]
  | cons first later ih =>
      have hsplit : (∀ other ∈ later ++ [hit], other.instant - other.window ≤ first.instant)
          ↔ (∀ other ∈ later, other.instant - other.window ≤ first.instant)
            ∧ hit.instant - hit.window ≤ first.instant := by
        simp only [List.forall_mem_append, List.forall_mem_singleton]
      rw [List.cons_append, survivors, survivors, ih]
      by_cases hlater : ∀ other ∈ later, other.instant - other.window ≤ first.instant
      · rw [if_pos hlater, List.filter_cons]
        by_cases hhit : hit.instant - hit.window ≤ first.instant
        · rw [if_pos (hsplit.mpr ⟨hlater, hhit⟩), if_pos (decide_eq_true hhit), List.cons_append]
        · rw [if_neg fun h => hhit (hsplit.mp h).2, if_neg (by simpa using hhit)]
      · rw [if_neg hlater, if_neg fun h => hlater (hsplit.mp h).1]

omit [DecidableEq K] in
/-- The survivors are some of the instants, in their order. -/
lemma survivors_sublist (hits : List (Hit K T)) :
    (survivors hits).Sublist (hits.map Hit.instant) := by
  induction hits with
  | nil => exact List.Sublist.slnil
  | cons first later ih =>
      rw [survivors, List.map_cons]
      split
      · exact ih.cons_cons _
      · exact ih.cons _

omit [AddCommGroup T] [LinearOrder T] in
@[simp] lemma ofKey_append_self (hits : List (Hit K T)) (hit : Hit K T) :
    ofKey (hits ++ [hit]) hit.key = ofKey hits hit.key ++ [hit] := by
  simp [ofKey]

omit [AddCommGroup T] [LinearOrder T] in
lemma ofKey_append_other (hits : List (Hit K T)) {hit : Hit K T} {key : K} (hkey : hit.key ≠ key) :
    ofKey (hits ++ [hit]) key = ofKey hits key := by
  simp [ofKey, hkey]

lemma afterHits_append (hits : List (Hit K T)) (hit : Hit K T) :
    afterHits (hits ++ [hit]) = ((afterHits hits).record hit).2 := by
  rw [afterHits, List.foldl_append, List.foldl_cons, List.foldl_nil, afterHits]

/-- A record leaves the other keys alone. -/
lemma record_other (log : SlidingLog K T) {hit : Hit K T} {key : K} (hkey : hit.key ≠ key) :
    (log.record hit).2 key = log key :=
  Function.update_of_ne (Ne.symm hkey) _ _

lemma record_self (log : SlidingLog K T) (hit : Hit K T) :
    (log.record hit).2 hit.key
      = (log hit.key).filter (fun t => hit.instant - hit.window ≤ t) ++ [hit.instant] :=
  Function.update_self _ _ _

/-- The count is the number of instants that stay. -/
lemma record_count (log : SlidingLog K T) (hit : Hit K T) :
    (log.record hit).1 = ((log.record hit).2 hit.key).length := by
  rw [record_self]
  rfl

/-- **What the log holds**: of each key the survivors of its hits. -/
theorem afterHits_eq (hits : List (Hit K T)) (key : K) :
    afterHits hits key = survivors (ofKey hits key) := by
  induction hits using List.reverseRecOn generalizing key with
  | nil => rfl
  | append_singleton hits hit ih =>
      rw [afterHits_append]
      by_cases hkey : hit.key = key
      · subst hkey
        rw [record_self, ofKey_append_self, survivors_append, ih]
      · rw [record_other _ hkey, ofKey_append_other hits hkey, ih]

/-! ### Windows that move forward -/

omit [DecidableEq K] in
/-- What was dropped by windows that start no later than `cutoff` is older than `cutoff`. -/
lemma filter_survivors {hits : List (Hit K T)} {cutoff : T}
    (hcutoff : ∀ hit ∈ hits, hit.instant - hit.window ≤ cutoff) :
    (survivors hits).filter (fun t => cutoff ≤ t)
      = (hits.map Hit.instant).filter fun t => cutoff ≤ t := by
  induction hits with
  | nil => rfl
  | cons first later ih =>
      have ih := ih fun hit hmem => hcutoff hit (List.mem_cons_of_mem _ hmem)
      rw [survivors, List.map_cons, List.filter_cons, ← ih]
      split
      · rw [List.filter_cons]
      · rename_i hdropped
        -- some later window starts after `first`, and none after the cutoff
        push Not at hdropped
        obtain ⟨other, hmem, hlt⟩ := hdropped
        have hold : first.instant < cutoff :=
          hlt.trans_le (hcutoff other (List.mem_cons_of_mem _ hmem))
        rw [if_neg (by simpa using hold)]

variable [IsOrderedAddMonoid T]

/-- **In the order of time, with one window**, a hit is counted with all hits of its key in the
window before it. -/
theorem count_of_pairwise {hits : List (Hit K T)} {hit : Hit K T} {window : T}
    (horder : ((ofKey (hits ++ [hit]) hit.key).map Hit.instant).Pairwise (· ≤ ·))
    (hwindow : ∀ other ∈ ofKey (hits ++ [hit]) hit.key, other.window = window)
    (hnonneg : 0 ≤ window) :
    ((afterHits hits).record hit).1
      = ((ofKey (hits ++ [hit]) hit.key).map Hit.instant).countP
          fun t => hit.instant - window ≤ t ∧ t ≤ hit.instant := by
  rw [ofKey_append_self] at horder hwindow ⊢
  rw [List.map_append, List.pairwise_append] at horder
  have hlast : ∀ t ∈ (ofKey hits hit.key).map Hit.instant, t ≤ hit.instant := fun t ht =>
    horder.2.2 t ht hit.instant (by simp)
  have hown : hit.window = window := hwindow hit (by simp)
  have hcutoff : ∀ other ∈ ofKey hits hit.key,
      other.instant - other.window ≤ hit.instant - window := by
    intro other hmem
    rw [hwindow other (List.mem_append_left _ hmem)]
    exact sub_le_sub_right (hlast _ (List.mem_map_of_mem hmem)) window
  have hcount : ((ofKey hits hit.key).map Hit.instant).countP
        (fun t => decide (hit.instant - window ≤ t ∧ t ≤ hit.instant))
      = ((ofKey hits hit.key).map Hit.instant).countP fun t => hit.instant - window ≤ t :=
    List.countP_congr fun t ht => by simp [hlast t ht]
  rw [record_count, record_self, afterHits_eq, hown, filter_survivors hcutoff, List.length_append,
    List.map_append, List.countP_append, hcount, List.countP_eq_length_filter]
  simp [hnonneg]

/-! ### Counts that are sound -/

omit [DecidableEq K] in
/-- The instants that are stored, as far as a hit is counted with them, fit with it in one
window. -/
structure Gathered (log : SlidingLog K T) (hit : Hit K T) : Prop where
  window_nonneg : 0 ≤ hit.window
  not_later : ∀ t ∈ log hit.key, t ≤ hit.instant + hit.window
  together : ∀ t ∈ log hit.key, ∀ t' ∈ log hit.key, hit.instant - hit.window ≤ t' →
    t ≤ t' + hit.window

/-- Instants fit in one window if they are gathered, and only then. -/
theorem gathered_iff {log : SlidingLog K T} {hit : Hit K T} :
    log.Gathered hit
      ↔ ∃ start, ∀ t ∈ (log.record hit).2 hit.key, start ≤ t ∧ t ≤ start + hit.window := by
  rw [record_self]
  have hmem : ∀ t, t ∈ (log hit.key).filter (fun t => hit.instant - hit.window ≤ t)
      ++ [hit.instant] ↔ (t ∈ log hit.key ∧ hit.instant - hit.window ≤ t) ∨ t = hit.instant := by
    intro t
    simp
  constructor
  · intro h
    have hne : ((log hit.key).filter (fun t => hit.instant - hit.window ≤ t)
        ++ [hit.instant]).toFinset.Nonempty := ⟨hit.instant, by simp⟩
    -- the window starts at the first of them
    obtain ⟨start, hstart, hmin⟩ := Finset.exists_min_image _ id hne
    rw [List.mem_toFinset, hmem] at hstart
    refine ⟨start, fun t ht => ⟨hmin t (List.mem_toFinset.mpr ht), ?_⟩⟩
    rw [hmem] at ht
    rcases hstart with ⟨hstored, hin⟩ | rfl
    · rcases ht with ⟨ht, -⟩ | rfl
      · exact h.together t ht start hstored hin
      · exact sub_le_iff_le_add.mp hin
    · rcases ht with ⟨ht, -⟩ | rfl
      · exact h.not_later t ht
      · exact le_add_of_nonneg_right h.window_nonneg
  · rintro ⟨start, hstart⟩
    have hself := hstart hit.instant ((hmem _).mpr (.inr rfl))
    have hnonneg : 0 ≤ hit.window :=
      nonneg_of_le_add_right (hself.1.trans hself.2)
    refine ⟨hnonneg, fun t ht => ?_, fun t ht t' ht' hin' => ?_⟩
    · by_cases hin : hit.instant - hit.window ≤ t
      · exact (hstart t ((hmem t).mpr (.inl ⟨ht, hin⟩))).2.trans (add_le_add_left hself.1 _)
      · calc t ≤ hit.instant - hit.window := (not_le.mp hin).le
          _ ≤ hit.instant := sub_le_self _ hnonneg
          _ ≤ hit.instant + hit.window := le_add_of_nonneg_right hnonneg
    · by_cases hin : hit.instant - hit.window ≤ t
      · have hfirst := (hstart t' ((hmem t').mpr (.inl ⟨ht', hin'⟩))).1
        exact (hstart t ((hmem t).mpr (.inl ⟨ht, hin⟩))).2.trans (add_le_add_left hfirst _)
      · calc t ≤ hit.instant - hit.window := (not_le.mp hin).le
          _ ≤ t' := hin'
          _ ≤ t' + hit.window := le_add_of_nonneg_right hnonneg

omit [IsOrderedAddMonoid T] in
/-- The instants a hit is counted with are instants of hits of its key. -/
lemma record_sublist (hits : List (Hit K T)) (hit : Hit K T) :
    (((afterHits hits).record hit).2 hit.key).Sublist
      ((ofKey (hits ++ [hit]) hit.key).map Hit.instant) := by
  rw [← afterHits_append, afterHits_eq]
  exact survivors_sublist _

/-- **A sound count**: where the instants are gathered, as many hits of the key as are counted lie
in one window. -/
theorem exists_window {hits : List (Hit K T)} {hit : Hit K T}
    (h : (afterHits hits).Gathered hit) :
    ∃ start, ((afterHits hits).record hit).1
      ≤ ((ofKey (hits ++ [hit]) hit.key).map Hit.instant).countP
          fun t => start ≤ t ∧ t ≤ start + hit.window := by
  obtain ⟨start, hstart⟩ := gathered_iff.mp h
  refine ⟨start, ?_⟩
  calc ((afterHits hits).record hit).1
      = (((afterHits hits).record hit).2 hit.key).countP
          fun t => start ≤ t ∧ t ≤ start + hit.window := by
        rw [record_count]
        exact (List.countP_eq_length.mpr fun t ht => decide_eq_true (hstart t ht)).symm
    _ ≤ _ := (record_sublist hits hit).countP_le

end SlidingLog

end InduSense
