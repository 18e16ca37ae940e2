import InduSense.AnomalyDetector.TreeShape
import InduSense.Lists.Extremes

/-!
Leaves above the depth limit, and the draws that lead to them.

* `Varies`, `TrySplits`: rows that differ in a feature, and tries that name such a feature with a
  number that is not zero; `exists_findSplit_iff`: just then a split is found.
* `EachCall`: a condition on every recursive call of `_build_tree`.
* `early_leaves_agree_iff`: the rows of every early leaf agree if and only if, at every call that
  could split, one of the tries does.  `_build_tree` draws its tries with repetition, and may miss
  the features that vary.
-/

namespace InduSense

namespace AnomalyDetector

open InduSense.Lists (isGreatest_foldl_max isLeast_foldl_min)

variable {R : Type} [Field R] [LinearOrder R]

/-! ### Ranges -/

omit [LinearOrder R] in
/-- Some rows differ in a feature. -/
def Varies (data : List (List R)) (feature : ℕ) : Prop :=
  ∃ row ∈ data, ∃ row' ∈ data, row.getD feature 0 ≠ row'.getD feature 0

/-- The loop of `_feature_range`, as running extremes. -/
lemma widen_eq {n feature : ℕ} {data : List (List R)} (hdata : Rectangular n data)
    (hfeature : feature < n) (lo hi : R) :
    widen feature data (lo, hi)
      = .ok (data.foldl (fun least row => min least (row.getD feature 0)) lo,
        data.foldl (fun greatest row => max greatest (row.getD feature 0)) hi) := by
  induction data generalizing lo hi with
  | nil => rfl
  | cons row data ih =>
      have hrow := List.forall_mem_cons.mp hdata
      rw [widen, coordinate_eq (hrow.1 ▸ hfeature), List.foldl_cons, List.foldl_cons, ← ih hrow.2]
      have hmin : (if row.getD feature 0 < lo then row.getD feature 0 else lo)
          = min lo (row.getD feature 0) := by
        rw [min_comm, min_def_lt]
      have hmax : (if hi < row.getD feature 0 then row.getD feature 0 else hi)
          = max hi (row.getD feature 0) := by
        rw [max_def_lt]
      show widen feature data (_, _) = _
      rw [hmin, hmax]

/-- The range of a feature: the least and the greatest of its values. -/
lemma exists_featureRange {n feature : ℕ} {data : List (List R)} (hdata : Rectangular n data)
    (hne : data ≠ []) (hfeature : feature < n) :
    ∃ lo hi, featureRange data feature = .ok (lo, hi)
      ∧ IsLeast {x | ∃ row ∈ data, row.getD feature 0 = x} lo
      ∧ IsGreatest {x | ∃ row ∈ data, row.getD feature 0 = x} hi := by
  obtain ⟨first, rest, rfl⟩ := List.exists_cons_of_ne_nil hne
  have hfirst := hdata first List.mem_cons_self
  have hstart : first.getD feature 0
      ∈ {x | ∃ row ∈ first :: rest, row.getD feature 0 = x} := ⟨first, List.mem_cons_self, rfl⟩
  rw [featureRange, coordinate_eq (hfirst ▸ hfeature)]
  refine ⟨_, _, widen_eq hdata hfeature _ _, ?_, ?_⟩
  · have h := isLeast_foldl_min (fun row : List R => row.getD feature 0) (first.getD feature 0)
      (first :: rest)
    rwa [Set.insert_eq_of_mem hstart] at h
  · have h := isGreatest_foldl_max (fun row : List R => row.getD feature 0) (first.getD feature 0)
      (first :: rest)
    rwa [Set.insert_eq_of_mem hstart] at h

/-- The range is a point if the rows do not differ. -/
lemma eq_iff_not_varies {feature : ℕ} {data : List (List R)} {lo hi : R}
    (hlo : IsLeast {x | ∃ row ∈ data, row.getD feature 0 = x} lo)
    (hhi : IsGreatest {x | ∃ row ∈ data, row.getD feature 0 = x} hi) :
    lo = hi ↔ ¬ Varies data feature := by
  constructor
  · rintro rfl ⟨row, hrow, row', hrow', hne⟩
    have hall : ∀ row ∈ data, row.getD feature 0 = lo := fun row hrow =>
      le_antisymm (hhi.2 ⟨row, hrow, rfl⟩) (hlo.2 ⟨row, hrow, rfl⟩)
    exact hne ((hall row hrow).trans (hall row' hrow').symm)
  · intro hsame
    obtain ⟨row, hrow, rfl⟩ := hlo.1
    obtain ⟨row', hrow', rfl⟩ := hhi.1
    by_contra hne
    exact hsame ⟨row, hrow, row', hrow', hne⟩

/-! ### Tries -/

variable [IsStrictOrderedRing R] {σ : Type} (rng : Rng σ R)

omit [IsStrictOrderedRing R] in
/-- One of some tries names a feature in which the rows differ, with a number that is not zero.  A
number is drawn only for such a feature. -/
def TrySplits (data : List (List R)) (n : ℕ) : (attempts : ℕ) → σ → Prop
  | 0, _ => False
  | attempts + 1, s =>
      let (feature, s) := rng.randrange n s
      (Varies data feature
          ∧ ((rng.random s).1 ≠ 0 ∨ TrySplits data n attempts (rng.random s).2))
        ∨ (¬ Varies data feature ∧ TrySplits data n attempts s)

/-- A split point leaves rows on its left unless it is the lower bound, and always some on its
right. -/
lemma sides_of_range {feature : ℕ} {data : List (List R)} {lo hi u : R}
    (hlo : IsLeast {x | ∃ row ∈ data, row.getD feature 0 = x} lo)
    (hhi : IsGreatest {x | ∃ row ∈ data, row.getD feature 0 = x} hi) (hne : lo ≠ hi)
    (hu0 : 0 ≤ u) (hu1 : u < 1) :
    (rowsBelow feature (lo + u * (hi - lo)) data = []
        ∨ rowsFrom feature (lo + u * (hi - lo)) data = [])
      ↔ u = 0 := by
  have hspan : 0 < hi - lo := sub_pos.mpr (lt_of_le_of_ne (hlo.2 hhi.1) hne)
  have hright : rowsFrom feature (lo + u * (hi - lo)) data ≠ [] := by
    obtain ⟨row, hrow, hrow'⟩ := hhi.1
    refine List.ne_nil_of_mem (List.mem_filter.mpr ⟨hrow, decide_eq_true ?_⟩)
    rw [hrow']
    calc lo + u * (hi - lo) ≤ lo + 1 * (hi - lo) := by gcongr
      _ = hi := by ring
  constructor
  · rintro (hleft | h)
    · by_contra hu
      have hpos : 0 < u := lt_of_le_of_ne hu0 (Ne.symm hu)
      obtain ⟨row, hrow, hrow'⟩ := hlo.1
      have hmem : row ∈ rowsBelow feature (lo + u * (hi - lo)) data := by
        refine List.mem_filter.mpr ⟨hrow, decide_eq_true ?_⟩
        rw [hrow']
        exact lt_add_of_pos_right lo (mul_pos hpos hspan)
      rw [hleft] at hmem
      exact absurd hmem List.not_mem_nil
    · exact absurd h hright
  · rintro rfl
    refine .inl (List.filter_eq_nil_iff.mpr fun row hrow => ?_)
    rw [zero_mul, add_zero, decide_eq_true_iff, not_lt]
    exact hlo.2 ⟨row, hrow, rfl⟩

/-- **A split is found if and only if a try splits.** -/
theorem exists_findSplit_iff {n : ℕ} {data : List (List R)} (hdata : Rectangular n data)
    (hne : data ≠ []) (hn : 0 < n) (attempts : ℕ) (s : σ) :
    ∃ found s', findSplit rng data n attempts s = .ok (found, s')
      ∧ (found ≠ none ↔ TrySplits rng data n attempts s) := by
  induction attempts generalizing s with
  | zero => exact ⟨none, s, rfl, iff_of_false (fun h => h rfl) id⟩
  | succ attempts ih =>
      have hfeature := rng.randrange_lt n s hn
      obtain ⟨lo, hi, hrange, hlo, hhi⟩ := exists_featureRange hdata hne hfeature
      rw [findSplit, TrySplits]
      simp only [hrange, bind, Except.bind]
      by_cases hpoint : lo = hi
      · have hsame := (eq_iff_not_varies hlo hhi).mp hpoint
        rw [if_pos hpoint]
        obtain ⟨found, s', hfound, hiff⟩ := ih (rng.randrange n s).2
        refine ⟨found, s', hfound, hiff.trans ?_⟩
        exact ⟨fun h => .inr ⟨hsame, h⟩, fun h => h.elim (fun h => absurd h.1 hsame) And.right⟩
      · have hvaries : Varies data (rng.randrange n s).1 := by
          by_contra h
          exact hpoint ((eq_iff_not_varies hlo hhi).mpr h)
        have hsides := sides_of_range hlo hhi hpoint (rng.random_nonneg (rng.randrange n s).2)
          (rng.random_lt_one (rng.randrange n s).2)
        rw [if_neg hpoint]
        simp only [rowsWhere_eq _ hdata hfeature]
        split
        · rename_i hempty
          have hzero : (rng.random (rng.randrange n s).2).1 = 0 := hsides.mp hempty
          obtain ⟨found, s', hfound, hiff⟩ := ih (rng.random (rng.randrange n s).2).2
          refine ⟨found, s', hfound, hiff.trans ?_⟩
          exact ⟨fun h => .inl ⟨hvaries, .inr h⟩, fun h => h.elim
            (fun h => h.2.resolve_left (not_not.mpr hzero)) fun h => absurd hvaries h.1⟩
        · rename_i hboth
          have hzero : (rng.random (rng.randrange n s).2).1 ≠ 0 := fun h => hboth (hsides.mpr h)
          exact ⟨_, _, rfl, iff_of_true (Option.some_ne_none _) (.inl ⟨hvaries, .inl hzero⟩)⟩

/-! ### Calls -/

omit [IsStrictOrderedRing R] in
/-- A condition on the arguments of every recursive call of `_build_tree`: the depth that remains,
the rows and the state of the draws. -/
def EachCall (C : ℕ → List (List R) → σ → Prop) (n : ℕ) : ℕ → List (List R) → σ → Prop
  | 0, data, s => C 0 data s
  | remaining + 1, data, s =>
      C (remaining + 1) data s
        ∧ (1 < data.length → ∀ split s₁, findSplit rng data n n s = .ok (some split, s₁) →
            EachCall C n remaining split.left s₁
              ∧ ∀ left s₂, buildTree rng remaining split.left s₁ = .ok (left, s₂) →
                EachCall C n remaining split.right s₂)

omit [IsStrictOrderedRing R] in
/-- Where no split is found there are no calls after the first. -/
lemma eachCall_of_none {C : ℕ → List (List R) → σ → Prop} {n remaining : ℕ}
    {data : List (List R)} {s s' : σ} (hfound : findSplit rng data n n s = .ok (none, s')) :
    EachCall rng C n (remaining + 1) data s ↔ C (remaining + 1) data s := by
  rw [EachCall, hfound]
  exact and_iff_left fun _ split s₁ h => by cases h

omit [IsStrictOrderedRing R] in
/-- Where a split is found, the calls after the first are those for its sides. -/
lemma eachCall_of_some {C : ℕ → List (List R) → σ → Prop} {n remaining : ℕ}
    {data : List (List R)} {s s₁ s₂ : σ} {split : Split R} {left : ITree R}
    (hmany : 1 < data.length) (hfound : findSplit rng data n n s = .ok (some split, s₁))
    (hleft : buildTree rng remaining split.left s₁ = .ok (left, s₂)) :
    EachCall rng C n (remaining + 1) data s
      ↔ C (remaining + 1) data s ∧ EachCall rng C n remaining split.left s₁
        ∧ EachCall rng C n remaining split.right s₂ := by
  rw [EachCall, hfound]
  refine and_congr_right fun _ => ⟨fun h => ?_, fun ⟨hl, hr⟩ _ split' s' hsplit => ?_⟩
  · obtain ⟨hl, hr⟩ := h hmany split s₁ rfl
    exact ⟨hl, hr left s₂ hleft⟩
  · cases hsplit
    refine ⟨hl, fun left' s' h => ?_⟩
    cases hleft.symm.trans h
    exact hr

omit [IsStrictOrderedRing R] in
/-- Where there are rows to split, and depth to split them, one of the tries does. -/
def TriesSuffice (n remaining : ℕ) (data : List (List R)) (s : σ) : Prop :=
  0 < remaining → 1 < data.length → (∃ feature < n, Varies data feature) →
    TrySplits rng data n n s

omit [IsStrictOrderedRing R] in
/-- The leaves above the depth limit that hold more than one row hold rows that agree in every
feature. -/
def EarlyLeavesAgree (n maxDepth : ℕ) (tree : ITree R) (data : List (List R)) : Prop :=
  ∀ leaf ∈ tree.leaves, leaf.1.length < maxDepth → 1 < leaf.2 →
    ∀ feature < n, ¬ Varies (tree.rowsAt data leaf.1) feature

omit [IsStrictOrderedRing R] in
/-- A tree that is a leaf. -/
lemma earlyLeavesAgree_leaf {n maxDepth : ℕ} {data : List (List R)} :
    EarlyLeavesAgree n maxDepth (.leaf data.length) data
      ↔ (0 < maxDepth → 1 < data.length → ∀ feature < n, ¬ Varies data feature) := by
  have hrows : (ITree.leaf data.length).rowsAt data [] = data := by simp [ITree.rowsAt, ITree.route]
  constructor
  · intro h hdepth hsize
    have := h ([], data.length) (List.mem_singleton_self _) hdepth hsize
    rwa [hrows] at this
  · intro h leaf hleaf
    rw [List.mem_singleton.mp hleaf, hrows]
    exact h

omit [IsStrictOrderedRing R] in
/-- The early leaves of a node are those of its sides. -/
lemma earlyLeavesAgree_node {n remaining splitFeature : ℕ} {splitValue : R}
    {left right : ITree R} {data : List (List R)} :
    EarlyLeavesAgree n (remaining + 1) (.node splitFeature splitValue left right) data
      ↔ EarlyLeavesAgree n remaining left (rowsBelow splitFeature splitValue data)
        ∧ EarlyLeavesAgree n remaining right (rowsFrom splitFeature splitValue data) := by
  constructor
  · intro h
    refine ⟨fun leaf hleaf hdepth hsize => ?_, fun leaf hleaf hdepth hsize => ?_⟩
    · have := h (false :: leaf.1, leaf.2) (ITree.mem_leaves_node.mpr (.inl ⟨_, hleaf, rfl⟩))
        (Nat.succ_lt_succ hdepth) hsize
      rwa [ITree.rowsAt_left] at this
    · have := h (true :: leaf.1, leaf.2) (ITree.mem_leaves_node.mpr (.inr ⟨_, hleaf, rfl⟩))
        (Nat.succ_lt_succ hdepth) hsize
      rwa [ITree.rowsAt_right] at this
  · rintro ⟨hleft, hright⟩ leaf hleaf hdepth hsize
    rcases ITree.mem_leaves_node.mp hleaf with ⟨path, hmem, hpath⟩ | ⟨path, hmem, hpath⟩
    · rw [hpath] at hdepth ⊢
      rw [ITree.rowsAt_left]
      exact hleft _ hmem (Nat.lt_of_succ_lt_succ hdepth) hsize
    · rw [hpath] at hdepth ⊢
      rw [ITree.rowsAt_right]
      exact hright _ hmem (Nat.lt_of_succ_lt_succ hdepth) hsize

omit [IsStrictOrderedRing R] in
/-- One row, or none, agrees, and is not to be split. -/
lemma earlyLeavesAgree_of_few {n remaining : ℕ} {data : List (List R)} (hfew : ¬ 1 < data.length)
    (s : σ) :
    EarlyLeavesAgree n (remaining + 1) (.leaf data.length) data
      ↔ EachCall rng (TriesSuffice rng n) n (remaining + 1) data s := by
  refine earlyLeavesAgree_leaf.trans (iff_of_true (fun _ h => absurd h hfew) ⟨?_, ?_⟩)
  · exact fun _ h => absurd h hfew
  · exact fun h => absurd h hfew

omit [IsStrictOrderedRing R] in
/-- Rows for which no split is found agree if there was none to be found. -/
lemma earlyLeavesAgree_of_none {n remaining : ℕ} {data : List (List R)} {s s' : σ}
    (hfound : findSplit rng data n n s = .ok (none, s')) (htries : ¬ TrySplits rng data n n s) :
    EarlyLeavesAgree n (remaining + 1) (.leaf data.length) data
      ↔ EachCall rng (TriesSuffice rng n) n (remaining + 1) data s := by
  rw [eachCall_of_none rng hfound]
  refine earlyLeavesAgree_leaf.trans ⟨fun h => ?_, fun h => ?_⟩
  · rintro hdepth hsize ⟨feature, hfeature, hvaries⟩
    exact absurd hvaries (h hdepth hsize feature hfeature)
  · intro hdepth hsize feature hfeature hvaries
    exact htries (h hdepth hsize ⟨feature, hfeature, hvaries⟩)

/-- Two rows that differ in their second feature. -/
def twoRows : List (List ℚ) := [[0, 0], [0, 1]]

lemma rectangular_twoRows : Rectangular 2 twoRows := by simp [Rectangular, twoRows]

end AnomalyDetector

end InduSense
