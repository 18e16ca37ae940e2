import Mathlib.Analysis.Complex.ExponentialBounds
import Mathlib.Analysis.SpecialFunctions.Pow.Real
import InduSense.AnomalyDetector.Forests

/-!
The shape of isolation trees, and the range of their scores.

* `ITree.route`, `ITree.leaves`, `ITree.rowsAt`: the way of a row down a tree, the leaves with the
  ways to them, and the rows that reach one.
* `ITree.Partitions.depth_le`, `one_le_size`, `sum_sizes`, `length_rowsAt`: what a tree makes of the
  rows it is built of.
* `pathLength_eq`: the length of a path is that of the route and the normalizer of its leaf.
* `normalizer_mono`: over real logarithms, more rows are sought longer.
* `tree_structure`: the trees of `_build_tree`, and the scores of their forests.
-/

namespace InduSense

namespace AnomalyDetector

variable {R : Type} [Field R] [LinearOrder R]

namespace ITree

/-! ### Routes -/

/-- The comparisons of `_path_length`: at each split, whether a row goes right. -/
def route : ITree R → List R → List Bool
  | .leaf _, _ => []
  | .node splitFeature splitValue left right, row =>
      if row.getD splitFeature 0 < splitValue then false :: left.route row
      else true :: right.route row

omit [Field R] [LinearOrder R] in
/-- The leaves: the route to each, and its size. -/
def leaves : ITree R → List (List Bool × ℕ)
  | .leaf size => [([], size)]
  | .node _ _ left right =>
      (left.leaves.map fun leaf => (false :: leaf.1, leaf.2))
        ++ right.leaves.map fun leaf => (true :: leaf.1, leaf.2)

omit [Field R] [LinearOrder R] in
/-- The number of splits on the longest way down. -/
def depth : ITree R → ℕ
  | .leaf _ => 0
  | .node _ _ left right => max left.depth right.depth + 1

/-- The rows that are routed to a leaf. -/
def rowsAt (tree : ITree R) (data : List (List R)) (path : List Bool) : List (List R) :=
  data.filter fun row => tree.route row = path

variable {splitFeature : ℕ} {splitValue : R} {left right : ITree R}

omit [Field R] [LinearOrder R] in
/-- A leaf of a node is one of either side. -/
lemma mem_leaves_node {leaf : List Bool × ℕ} :
    leaf ∈ (node splitFeature splitValue left right).leaves
      ↔ (∃ path, (path, leaf.2) ∈ left.leaves ∧ leaf.1 = false :: path)
        ∨ ∃ path, (path, leaf.2) ∈ right.leaves ∧ leaf.1 = true :: path := by
  rcases leaf with ⟨way, size⟩
  simp [leaves, Prod.ext_iff, eq_comm]

/-- A row goes one way, and down that side. -/
lemma rowsAt_left (data : List (List R)) (path : List Bool) :
    (node splitFeature splitValue left right).rowsAt data (false :: path)
      = left.rowsAt (rowsBelow splitFeature splitValue data) path := by
  rw [rowsAt, rowsAt, rowsBelow, List.filter_filter]
  refine List.filter_congr fun row _ => ?_
  rw [route]
  generalize row.getD splitFeature 0 = x
  by_cases hlt : x < splitValue <;> simp [hlt]

lemma rowsAt_right (data : List (List R)) (path : List Bool) :
    (node splitFeature splitValue left right).rowsAt data (true :: path)
      = right.rowsAt (rowsFrom splitFeature splitValue data) path := by
  rw [rowsAt, rowsAt, rowsFrom, List.filter_filter]
  refine List.filter_congr fun row _ => ?_
  rw [route]
  generalize row.getD splitFeature 0 = x
  by_cases hlt : x < splitValue
  · simp [hlt, not_le.mpr hlt]
  · simp [hlt, not_lt.mp hlt]

omit [Field R] [LinearOrder R] in
lemma length_le_depth {tree : ITree R} {leaf : List Bool × ℕ} (h : leaf ∈ tree.leaves) :
    leaf.1.length ≤ tree.depth := by
  induction tree generalizing leaf with
  | leaf size =>
      rw [List.mem_singleton.mp h]
      exact Nat.zero_le _
  | node splitFeature splitValue left right ihl ihr =>
      rcases mem_leaves_node.mp h with ⟨path, hmem, hpath⟩ | ⟨path, hmem, hpath⟩
      · have hlength : path.length ≤ left.depth := ihl hmem
        rw [hpath, depth, List.length_cons]
        omega
      · have hlength : path.length ≤ right.depth := ihr hmem
        rw [hpath, depth, List.length_cons]
        omega

/-! ### What a tree makes of its rows -/

namespace Partitions

variable {n remaining : ℕ} {tree : ITree R} {data : List (List R)}

lemma depth_le (h : tree.Partitions n remaining data) : tree.depth ≤ remaining := by
  induction tree generalizing remaining data with
  | leaf size => exact Nat.zero_le _
  | node splitFeature splitValue left right ihl ihr =>
      obtain ⟨hpos, -, -, -, hleft, hright⟩ := h
      have := ihl hleft
      have := ihr hright
      rw [depth]
      omega

/-- A leaf has the size of the rows that are routed to it. -/
lemma length_rowsAt (h : tree.Partitions n remaining data) {leaf : List Bool × ℕ}
    (hleaf : leaf ∈ tree.leaves) : (tree.rowsAt data leaf.1).length = leaf.2 := by
  induction tree generalizing remaining data leaf with
  | leaf size =>
      rw [List.mem_singleton.mp hleaf, rowsAt]
      simp [route, show size = data.length from h]
  | node splitFeature splitValue left right ihl ihr =>
      obtain ⟨-, -, -, -, hleft, hright⟩ := h
      rcases mem_leaves_node.mp hleaf with ⟨path, hmem, hpath⟩ | ⟨path, hmem, hpath⟩
      · rw [hpath, rowsAt_left]
        exact ihl hleft hmem
      · rw [hpath, rowsAt_right]
        exact ihr hright hmem

/-- No leaf is empty. -/
lemma one_le_size (h : tree.Partitions n remaining data) (hne : data ≠ []) :
    ∀ leaf ∈ tree.leaves, 1 ≤ leaf.2 := by
  intro leaf hleaf
  induction tree generalizing remaining data leaf with
  | leaf size =>
      rw [List.mem_singleton.mp hleaf]
      exact (show size = data.length from h) ▸ List.length_pos_iff.mpr hne
  | node splitFeature splitValue left right ihl ihr =>
      obtain ⟨-, -, hbelow, hfrom, hleft, hright⟩ := h
      rcases mem_leaves_node.mp hleaf with ⟨path, hmem, -⟩ | ⟨path, hmem, -⟩
      · exact ihl hleft hbelow (path, leaf.2) hmem
      · exact ihr hright hfrom (path, leaf.2) hmem

/-- The leaves hold all rows. -/
lemma sum_sizes (h : tree.Partitions n remaining data) :
    (tree.leaves.map Prod.snd).sum = data.length := by
  induction tree generalizing remaining data with
  | leaf size => simpa [leaves] using show size = data.length from h
  | node splitFeature splitValue left right ihl ihr =>
      obtain ⟨-, -, -, -, hleft, hright⟩ := h
      have hsides : data.length = (rowsBelow splitFeature splitValue data).length
          + (rowsFrom splitFeature splitValue data).length := by
        rw [rowsBelow, rowsFrom, ← List.countP_eq_length_filter, ← List.countP_eq_length_filter,
          List.length_eq_countP_add_countP fun row => row.getD splitFeature 0 < splitValue]
        congr 1
        exact List.countP_congr fun row _ => by simp
      rw [hsides, ← ihl hleft, ← ihr hright, leaves, List.map_append, List.sum_append,
        List.map_map, List.map_map]
      rfl

end Partitions

end ITree

/-! ### The lengths of paths -/

/-- **The length of a path**: that of the route, and the normalizer of the leaf it ends at. -/
theorem pathLength_eq {n : ℕ} (math : PyMath R) {x : List R} (hx : n ≤ x.length) {tree : ITree R}
    (htree : tree.Within n) (depth : ℕ) :
    ∃ size, (tree.route x, size) ∈ tree.leaves
      ∧ pathLength math x tree depth
        = .ok ((depth + (tree.route x).length : ℕ) + averagePathLengthNormalizer math size) := by
  induction tree generalizing depth with
  | leaf size => exact ⟨size, List.mem_singleton_self _, rfl⟩
  | node splitFeature splitValue left right ihl ihr =>
      obtain ⟨hfeature, hleft, hright⟩ := htree
      have hcoordinate : x[splitFeature]? = some (x.getD splitFeature 0) := by
        rw [List.getD_eq_getElem?_getD, List.getElem?_eq_getElem (hfeature.trans_le hx),
          Option.getD_some]
      rw [pathLength, hcoordinate, ITree.route]
      dsimp only
      split
      · obtain ⟨size, hmem, hlength⟩ := ihl hleft (depth + 1)
        refine ⟨size, ITree.mem_leaves_node.mpr (.inl ⟨_, hmem, rfl⟩), ?_⟩
        rw [hlength, List.length_cons, Nat.add_right_comm, Nat.add_assoc]
      · obtain ⟨size, hmem, hlength⟩ := ihr hright (depth + 1)
        refine ⟨size, ITree.mem_leaves_node.mpr (.inr ⟨_, hmem, rfl⟩), ?_⟩
        rw [hlength, List.length_cons, Nat.add_right_comm, Nat.add_assoc]

/-! ### Over real logarithms -/

section Real

/-- The functions of `math` over the real numbers. -/
noncomputable def realMath (fixed : ℕ → ℝ → String) : PyMath ℝ :=
  ⟨Real.sqrt, Real.log, fun x => ((2 : ℕ) : ℝ) ^ x, fixed⟩

variable (fixed : ℕ → ℝ → String)

lemma normalizer_of_three_le {n : ℕ} (hn : 3 ≤ n) :
    averagePathLengthNormalizer (realMath fixed) n
      = 2 * (Real.log (n - 1) + 5772156649 / 10000000000) - 2 * (n - 1) / n := by
  rw [averagePathLengthNormalizer, if_neg (by omega), if_neg (by omega)]
  rfl

/-- **More rows are sought longer.** -/
theorem normalizer_mono : Monotone (averagePathLengthNormalizer (realMath fixed)) := by
  refine monotone_nat_of_le_succ fun n => ?_
  rcases Nat.lt_or_ge n 3 with hn | hn
  · interval_cases n
    · simp [averagePathLengthNormalizer]
    · simp [averagePathLengthNormalizer]
    · rw [normalizer_of_three_le fixed le_rfl]
      have hlog := Real.log_two_gt_d9
      norm_num [averagePathLengthNormalizer]
      linarith
  · have hpos : (0 : ℝ) < n := by positivity
    have hpred : (0 : ℝ) < (n : ℝ) - 1 := by
      have : (3 : ℝ) ≤ n := by exact_mod_cast hn
      linarith
    -- the logarithm grows by more than `1 / n`
    have hgrowth : 1 / (n : ℝ) ≤ Real.log n - Real.log (n - 1) := by
      have h := Real.one_sub_inv_le_log_of_pos (div_pos hpos hpred)
      rw [Real.log_div hpos.ne' hpred.ne', inv_div] at h
      calc 1 / (n : ℝ) = 1 - (n - 1) / n := by field_simp; ring
        _ ≤ _ := h
    rw [normalizer_of_three_le fixed hn, normalizer_of_three_le fixed (by omega)]
    push_cast
    rw [add_sub_cancel_right]
    have hlast : 2 * (n : ℝ) / (n + 1) ≤ 2 := by
      rw [div_le_iff₀ (by positivity)]
      linarith
    have hsplit : 2 * ((n : ℝ) - 1) / n = 2 - 2 * (1 / n) := by
      field_simp
    rw [hsplit]
    linarith

lemma normalizer_nonneg (n : ℕ) : 0 ≤ averagePathLengthNormalizer (realMath fixed) n := by
  have h := normalizer_mono fixed (Nat.zero_le n)
  simpa [averagePathLengthNormalizer] using h

/-- The range of the length of a path. -/
lemma pathLength_bounds {n remaining : ℕ} {tree : ITree ℝ} {data : List (List ℝ)}
    (htree : tree.Partitions n remaining data) {x : List ℝ} (hx : n ≤ x.length) :
    ∃ length, pathLength (realMath fixed) x tree 0 = .ok length ∧ 0 ≤ length
      ∧ length ≤ remaining + averagePathLengthNormalizer (realMath fixed) data.length := by
  obtain ⟨size, hmem, hlength⟩ := pathLength_eq (realMath fixed) hx htree.within 0
  refine ⟨_, hlength, add_nonneg (Nat.cast_nonneg _) (normalizer_nonneg fixed size), ?_⟩
  have hroute : (tree.route x).length ≤ remaining :=
    (ITree.length_le_depth hmem).trans htree.depth_le
  have hsize : size ≤ data.length := by
    rw [← htree.sum_sizes]
    exact List.single_le_sum (fun _ _ => Nat.zero_le _) _ (List.mem_map_of_mem hmem)
  refine add_le_add ?_ (normalizer_mono fixed hsize)
  rw [Nat.zero_add]
  exact_mod_cast hroute

/-- **Scores lie between zero and one.** -/
theorem score_mem_Icc {n : ℕ} {forest : IsolationForest ℝ}
    (hforest : ∀ tree ∈ forest.trees, tree.Within n) (hnorm : 0 ≤ forest.avgPathNormC)
    {x : List ℝ} (hx : n ≤ x.length) :
    ∃ score, forest.score (realMath fixed) x = .ok score ∧ 0 ≤ score ∧ score ≤ 1 := by
  rw [IsolationForest.score]
  split
  · exact ⟨0, rfl, le_rfl, zero_le_one⟩
  · have hlengths : ∀ trees : List (ITree ℝ), (∀ tree ∈ trees, tree.Within n) →
        ∃ lengths, (trees.mapM fun tree => pathLength (realMath fixed) x tree 0) = .ok lengths
          ∧ 0 ≤ lengths.sum := by
      intro trees htrees
      induction trees with
      | nil => exact ⟨[], rfl, le_rfl⟩
      | cons tree trees ih =>
          obtain ⟨htree, htrees⟩ := List.forall_mem_cons.mp htrees
          obtain ⟨size, -, hlength⟩ := pathLength_eq (realMath fixed) hx htree 0
          obtain ⟨lengths, hlengths, hsum⟩ := ih htrees
          rw [List.mapM_cons, hlength, hlengths]
          refine ⟨_, rfl, ?_⟩
          rw [List.sum_cons]
          exact add_nonneg (add_nonneg (Nat.cast_nonneg _) (normalizer_nonneg fixed size)) hsum
    obtain ⟨lengths, hmapM, hsum⟩ := hlengths forest.trees hforest
    rw [hmapM]
    refine ⟨_, rfl, Real.rpow_nonneg (Nat.cast_nonneg 2) _, ?_⟩
    refine Real.rpow_le_one_of_one_le_of_nonpos (Nat.one_le_cast.mpr one_le_two) ?_
    rw [neg_div]
    exact neg_nonpos.mpr (div_nonneg (div_nonneg hsum (Nat.cast_nonneg _)) hnorm)

/-- The normalizer of a forest that is trained. -/
lemma fitIsolationForest_norm {σ : Type} (rng : Rng σ R) (math : PyMath R) {data : List (List R)}
    {numTrees subsampleSize : ℤ} {s s' : σ} {forest : IsolationForest R}
    (h : fitIsolationForest rng math data numTrees subsampleSize s = .ok (forest, s')) :
    forest.avgPathNormC
      = averagePathLengthNormalizer math (min subsampleSize data.length).toNat := by
  obtain ⟨⟨trees, s₁⟩, -, h⟩ := bind_eq_ok_iff.mp h
  cases h
  rfl

/-- **The structure of isolation trees**, for vectors of one length, any depth and any draws: the
tree is built, no deeper than it may be; no leaf is empty, the leaves hold all rows, and the
comparisons by which vectors are scored send to each leaf as many of the rows as it counts.  Hence
the bounds of the lengths of paths, and of the scores of a forest. -/
theorem tree_structure {σ : Type} (rng : Rng σ ℝ) {n : ℕ} {data : List (List ℝ)}
    (hdata : Rectangular n data) (hne : data ≠ []) (maxDepth : ℕ) (s : σ) :
    (∃ tree s', buildTree rng maxDepth data s = .ok (tree, s')
        ∧ tree.depth ≤ maxDepth
        ∧ (∀ leaf ∈ tree.leaves, 1 ≤ leaf.2)
        ∧ (tree.leaves.map Prod.snd).sum = data.length
        ∧ (∀ leaf ∈ tree.leaves, (tree.rowsAt data leaf.1).length = leaf.2)
        ∧ ∀ x : List ℝ, n ≤ x.length → ∃ length,
            pathLength (realMath fixed) x tree 0 = .ok length ∧ 0 ≤ length
              ∧ length ≤ maxDepth + averagePathLengthNormalizer (realMath fixed) data.length)
      ∧ ∀ (numTrees subsampleSize : ℤ) (s s' : σ) (forest : IsolationForest ℝ),
          fitIsolationForest rng (realMath fixed) data numTrees subsampleSize s
            = .ok (forest, s') →
          ∀ x : List ℝ, n ≤ x.length →
            ∃ score, forest.score (realMath fixed) x = .ok score ∧ 0 ≤ score ∧ score ≤ 1 := by
  constructor
  · obtain ⟨tree, s', hbuild, htree⟩ := exists_buildTree_eq rng maxDepth hdata s
    exact ⟨tree, s', hbuild, htree.depth_le, htree.one_le_size hne, htree.sum_sizes,
      fun leaf => htree.length_rowsAt, fun x => pathLength_bounds fixed htree⟩
  · intro numTrees subsampleSize s s' forest hfit x hx
    have hwithin : ∀ tree ∈ forest.trees, tree.Within n := by
      rcases fitIsolationForest_spec rng (realMath fixed) hdata numTrees subsampleSize s with
        ⟨e, herror, -⟩ | ⟨forest', s'', hfit', hwithin⟩
      · cases hfit.symm.trans herror
      · cases hfit.symm.trans hfit'
        exact hwithin
    refine score_mem_Icc fixed hwithin ?_ hx
    rw [fitIsolationForest_norm rng _ hfit]
    exact normalizer_nonneg fixed _

end Real

/-- Draws of the first feature and of the middle of its range. -/
def firstRng (R : Type) [Field R] [LinearOrder R] [IsStrictOrderedRing R] : Rng Unit R where
  randrange _ s := (0, s)
  random s := (((2 : ℕ) : R)⁻¹, s)
  sample population n s := (List.range (min n population), s)
  randrange_lt _ _ hn := hn
  random_nonneg _ := inv_nonneg.mpr (Nat.cast_nonneg 2)
  random_lt_one _ := inv_lt_one_of_one_lt₀ (Nat.one_lt_cast.mpr one_lt_two)
  length_sample population n _ hn := by rw [List.length_range, min_eq_left hn]
  nodup_sample _ _ _ := List.nodup_range
  sample_lt _ _ _ i hi := (List.mem_range.mp hi).trans_le (min_le_right _ _)

/-- Two rows are told apart by one split at the most. -/
theorem tree_structure_two :
    ∃ tree s', buildTree (firstRng ℝ) 1 [[0], [1]] () = .ok (tree, s') ∧ tree.depth ≤ 1
      ∧ (tree.leaves.map Prod.snd).sum = 2 := by
  have hdata : Rectangular 1 [[0], [(1 : ℝ)]] := by
    intro row hrow
    simp only [List.mem_cons, List.not_mem_nil, or_false] at hrow
    rcases hrow with rfl | rfl <;> rfl
  obtain ⟨tree, s', hbuild, hdepth, -, hsum, -⟩ :=
    (tree_structure (fun _ _ => "") (firstRng ℝ) hdata (List.cons_ne_nil _ _) 1 ()).1
  exact ⟨tree, s', hbuild, hdepth, hsum⟩

end AnomalyDetector

end InduSense
