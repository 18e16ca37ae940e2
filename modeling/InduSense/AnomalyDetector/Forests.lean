import InduSense.AnomalyDetector.Features

/-!
The training of isolation forests: `fit_isolation_forest` of `isolationforest.py`, and the loop of
`forestregistry.py`.

* `Rng`: what the code uses of `random.Random`.
* `featureRange`, `findSplit`, `buildTree`: one tree, of a sample of the vectors.
* `ITree.Partitions`: how a tree and the rows it is built of belong together;
  `exists_buildTree_eq`: the tree of vectors of one length.
* `fitIsolationForest`: the forest.
* `fitIsolationForest_spec`: on vectors of one length no index is out of range, and the trees split
  at features of that length; `score_isOk`: a vector of that length is scored.
-/

namespace InduSense

namespace AnomalyDetector

variable {R : Type} [Field R] [LinearOrder R]

/-- `random.Random`, by its state: `randrange(n)` and `random()`, and the positions that `sample`
picks of a population. -/
structure Rng (σ R : Type) [Field R] [LinearOrder R] where
  randrange : ℕ → σ → ℕ × σ
  random : σ → R × σ
  sample : (population n : ℕ) → σ → List ℕ × σ
  randrange_lt : ∀ n s, 0 < n → (randrange n s).1 < n
  random_nonneg : ∀ s, 0 ≤ (random s).1
  random_lt_one : ∀ s, (random s).1 < 1
  length_sample : ∀ population n s, n ≤ population → (sample population n s).1.length = n
  nodup_sample : ∀ population n s, (sample population n s).1.Nodup
  sample_lt : ∀ population n s, ∀ i ∈ (sample population n s).1, i < population

/-! ### One tree -/

omit [Field R] [LinearOrder R] in
/-- `row[feature]`. -/
def coordinate (row : List R) (feature : ℕ) : Except PyError R :=
  match row[feature]? with
  | some v => .ok v
  | none => .error ⟨.indexError, "list index out of range"⟩

/-- The loop of `_feature_range`, from the bounds found so far. -/
def widen (feature : ℕ) : List (List R) → R × R → Except PyError (R × R)
  | [], bounds => .ok bounds
  | row :: data, (lo, hi) => do
      let v ← coordinate row feature
      widen feature data (if v < lo then v else lo, if hi < v then v else hi)

/-- `_feature_range`. -/
def featureRange (data : List (List R)) (feature : ℕ) : Except PyError (R × R) :=
  match data with
  | [] => .error ⟨.indexError, "list index out of range"⟩
  | first :: _ => do
      let v ← coordinate first feature
      widen feature data (v, v)

omit [Field R] [LinearOrder R] in
/-- `[row for row in data if p(row[feature])]`. -/
def rowsWhere (p : R → Bool) (feature : ℕ) : List (List R) → Except PyError (List (List R))
  | [] => .ok []
  | row :: data => do
      let v ← coordinate row feature
      let rows ← rowsWhere p feature data
      return if p v then row :: rows else rows

/-- A split of some rows: the feature and the value, and the rows on either side. -/
structure Split (R : Type) where
  feature : ℕ
  value : R
  left : List (List R)
  right : List (List R)

section Build

variable {σ : Type} (rng : Rng σ R)

/-- The loop of `_build_tree` over some random features: the first that splits the rows. -/
def findSplit (data : List (List R)) (numFeatures : ℕ) :
    (attempts : ℕ) → σ → Except PyError (Option (Split R) × σ)
  | 0, s => .ok (none, s)
  | attempts + 1, s => do
      let (feature, s) := rng.randrange numFeatures s
      let (lo, hi) ← featureRange data feature
      if lo = hi then findSplit data numFeatures attempts s
      else
        let (u, s) := rng.random s
        let value := lo + u * (hi - lo)
        let left ← rowsWhere (fun v => decide (v < value)) feature data
        let right ← rowsWhere (fun v => decide (value ≤ v)) feature data
        if left = [] ∨ right = [] then findSplit data numFeatures attempts s
        else return (some ⟨feature, value, left, right⟩, s)

/-- `_build_tree`; `remaining` is `max_depth - depth`. -/
def buildTree : (remaining : ℕ) → List (List R) → σ → Except PyError (ITree R × σ)
  | 0, data, s => .ok (.leaf data.length, s)
  | _ + 1, [], s => .ok (.leaf 0, s)
  | _ + 1, [_], s => .ok (.leaf 1, s)
  | remaining + 1, first :: second :: rest, s => do
      match ← findSplit rng (first :: second :: rest) first.length first.length s with
      | (none, s) => return (.leaf (first :: second :: rest).length, s)
      | (some split, s) => do
          let (left, s) ← buildTree remaining split.left s
          let (right, s) ← buildTree remaining split.right s
          return (.node split.feature split.value left right, s)

/-! ### The forest -/

/-- `_sample_without_replacement`. -/
def sampleWithoutReplacement (data : List (List R)) (n : ℤ) (s : σ) :
    Except PyError (List (List R) × σ) :=
  if data.length ≤ n then .ok (data, s)
  else if n < 0 then .error ⟨.valueError, "Sample larger than population or is negative"⟩
  else
    let (positions, s) := rng.sample data.length n.toNat s
    .ok (positions.map fun i => data.getD i [], s)

/-- The loop of `fit_isolation_forest`. -/
def growTrees (data : List (List R)) (subsampleSize : ℤ) (maxDepth : ℕ) :
    (numTrees : ℕ) → σ → Except PyError (List (ITree R) × σ)
  | 0, s => .ok ([], s)
  | numTrees + 1, s => do
      let (sample, s) ← sampleWithoutReplacement rng data subsampleSize s
      let (tree, s) ← buildTree rng maxDepth sample s
      let (trees, s) ← growTrees data subsampleSize maxDepth numTrees s
      return (tree :: trees, s)

/-- `fit_isolation_forest`. -/
def fitIsolationForest (math : PyMath R) (data : List (List R)) (numTrees subsampleSize : ℤ)
    (s : σ) : Except PyError (IsolationForest R × σ) := do
  let subsampleSize := min subsampleSize data.length
  let maxDepth := Nat.clog 2 (max subsampleSize 2).toNat
  let (trees, s) ← growTrees rng data subsampleSize maxDepth numTrees.toNat s
  return (⟨trees, averagePathLengthNormalizer math subsampleSize.toNat⟩, s)

/-! ### Vectors of one length -/

omit [Field R] [LinearOrder R] in
/-- Every row has `n` entries. -/
def Rectangular (n : ℕ) (data : List (List R)) : Prop := ∀ row ∈ data, row.length = n

omit [LinearOrder R] in
lemma coordinate_eq {row : List R} {feature : ℕ} (h : feature < row.length) :
    coordinate row feature = .ok (row.getD feature 0) := by
  rw [coordinate, List.getD_eq_getElem?_getD, List.getElem?_eq_getElem h]
  rfl

omit [LinearOrder R] in
/-- The rows on one side of a split. -/
lemma rowsWhere_eq {n feature : ℕ} (p : R → Bool) {data : List (List R)}
    (hdata : Rectangular n data) (hfeature : feature < n) :
    rowsWhere p feature data = .ok (data.filter fun row => p (row.getD feature 0)) := by
  induction data with
  | nil => rfl
  | cons row data ih =>
      have hrow := List.forall_mem_cons.mp hdata
      rw [rowsWhere, coordinate_eq (hrow.1 ▸ hfeature), ih hrow.2, List.filter_cons]
      rfl

lemma exists_widen_eq {n feature : ℕ} {data : List (List R)} (hdata : Rectangular n data)
    (hfeature : feature < n) (bounds : R × R) :
    ∃ bounds', widen feature data bounds = .ok bounds' := by
  induction data generalizing bounds with
  | nil => exact ⟨bounds, rfl⟩
  | cons row data ih =>
      have hrow := List.forall_mem_cons.mp hdata
      rw [widen, coordinate_eq (hrow.1 ▸ hfeature)]
      exact ih hrow.2 _

lemma exists_featureRange_eq {n feature : ℕ} {data : List (List R)} (hdata : Rectangular n data)
    (hne : data ≠ []) (hfeature : feature < n) :
    ∃ bounds, featureRange data feature = .ok bounds := by
  obtain ⟨first, rest, rfl⟩ := List.exists_cons_of_ne_nil hne
  have hfirst := hdata first List.mem_cons_self
  rw [featureRange, coordinate_eq (hfirst ▸ hfeature)]
  exact exists_widen_eq hdata hfeature (first.getD feature 0, first.getD feature 0)

/-- What a split does to the rows: those below the value go left, the others right, and neither side
is empty. -/
structure Split.Of (n : ℕ) (data : List (List R)) (split : Split R) : Prop where
  feature_lt : split.feature < n
  left_eq : split.left = data.filter fun row => decide (row.getD split.feature 0 < split.value)
  right_eq : split.right = data.filter fun row => decide (split.value ≤ row.getD split.feature 0)
  left_ne : split.left ≠ []
  right_ne : split.right ≠ []

/-- The search for a split does not fail. -/
lemma exists_findSplit_eq {n : ℕ} {data : List (List R)} (hdata : Rectangular n data)
    (hne : data ≠ []) (hn : 0 < n) (attempts : ℕ) (s : σ) :
    ∃ found s', findSplit rng data n attempts s = .ok (found, s')
      ∧ ∀ split ∈ found, split.Of n data := by
  induction attempts generalizing s with
  | zero => exact ⟨none, s, rfl, nofun⟩
  | succ attempts ih =>
      rw [findSplit]
      have hfeature := rng.randrange_lt n s hn
      obtain ⟨⟨lo, hi⟩, hrange⟩ := exists_featureRange_eq hdata hne hfeature
      simp only [hrange, bind, Except.bind]
      split
      · exact ih _
      · simp only [rowsWhere_eq _ hdata hfeature]
        split
        · exact ih _
        · rename_i hsides
          rw [not_or] at hsides
          refine ⟨_, _, rfl, fun split hsplit => ?_⟩
          cases hsplit
          exact ⟨hfeature, rfl, rfl, hsides.1, hsides.2⟩

omit [Field R] [LinearOrder R] in
/-- Every split of the tree is at one of `n` features. -/
def ITree.Within (n : ℕ) : ITree R → Prop
  | .leaf _ => True
  | .node splitFeature _ left right => splitFeature < n ∧ left.Within n ∧ right.Within n

/-- The rows on the left of a split. -/
def rowsBelow (feature : ℕ) (value : R) (data : List (List R)) : List (List R) :=
  data.filter fun row => decide (row.getD feature 0 < value)

/-- The rows on the right of a split. -/
def rowsFrom (feature : ℕ) (value : R) (data : List (List R)) : List (List R) :=
  data.filter fun row => decide (value ≤ row.getD feature 0)

/-- The tree partitions some rows: each split is at one of their `n` features, with rows on either
side, and each leaf counts the rows it is left with, `remaining` splits down at the most. -/
def ITree.Partitions (n : ℕ) : ITree R → ℕ → List (List R) → Prop
  | .leaf size, _, data => size = data.length
  | .node splitFeature splitValue left right, remaining, data =>
      0 < remaining ∧ splitFeature < n
        ∧ rowsBelow splitFeature splitValue data ≠ [] ∧ rowsFrom splitFeature splitValue data ≠ []
        ∧ left.Partitions n (remaining - 1) (rowsBelow splitFeature splitValue data)
        ∧ right.Partitions n (remaining - 1) (rowsFrom splitFeature splitValue data)

lemma ITree.Partitions.within {n remaining : ℕ} {tree : ITree R} {data : List (List R)}
    (h : tree.Partitions n remaining data) : tree.Within n := by
  induction tree generalizing remaining data with
  | leaf size => trivial
  | node splitFeature splitValue left right ihl ihr =>
      obtain ⟨-, hfeature, -, -, hleft, hright⟩ := h
      exact ⟨hfeature, ihl hleft, ihr hright⟩

omit [Field R] [LinearOrder R] in
lemma Rectangular.filter {n : ℕ} {data : List (List R)} (h : Rectangular n data)
    (p : List R → Bool) : Rectangular n (data.filter p) :=
  fun row hrow => h row (List.mem_of_mem_filter hrow)

/-- **A tree of vectors of one length** is built, and partitions them. -/
theorem exists_buildTree_eq {n : ℕ} (remaining : ℕ) {data : List (List R)}
    (hdata : Rectangular n data) (s : σ) :
    ∃ tree s', buildTree rng remaining data s = .ok (tree, s')
      ∧ tree.Partitions n remaining data := by
  induction remaining generalizing data s with
  | zero =>
      rw [buildTree]
      exact ⟨_, _, rfl, rfl⟩
  | succ remaining ih =>
      match data with
      | [] => exact ⟨_, _, rfl, rfl⟩
      | [_] => exact ⟨_, _, rfl, rfl⟩
      | first :: second :: rest =>
          have hlength := hdata first List.mem_cons_self
          rw [buildTree, hlength]
          rcases Nat.eq_zero_or_pos n with rfl | hn
          · exact ⟨_, _, rfl, rfl⟩
          obtain ⟨found, s', hfound, hof⟩ :=
            exists_findSplit_eq rng hdata (List.cons_ne_nil _ _) hn n s
          simp only [hfound, bind, Except.bind]
          cases found with
          | none => exact ⟨_, _, rfl, rfl⟩
          | some split =>
              have hsplit := hof split rfl
              have hleft : Rectangular n split.left := hsplit.left_eq ▸ hdata.filter _
              have hright : Rectangular n split.right := hsplit.right_eq ▸ hdata.filter _
              obtain ⟨left, s₁, hbuildLeft, hpartLeft⟩ := ih hleft s'
              obtain ⟨right, s₂, hbuildRight, hpartRight⟩ := ih hright s₁
              simp only [hbuildLeft, hbuildRight]
              have hbelow : split.left
                  = rowsBelow split.feature split.value (first :: second :: rest) := hsplit.left_eq
              have hfrom : split.right
                  = rowsFrom split.feature split.value (first :: second :: rest) := hsplit.right_eq
              refine ⟨_, _, rfl, ?_⟩
              rw [ITree.Partitions, ← hbelow, ← hfrom]
              exact ⟨Nat.succ_pos _, hsplit.feature_lt, hsplit.left_ne, hsplit.right_ne, hpartLeft,
                hpartRight⟩

/-- What training comes to on vectors of one length: a negative sample size is refused, and
otherwise all trees split at their features. -/
def FitsLength (n : ℕ) : Except PyError (List (ITree R) × σ) → Prop
  | .error e => e.kind = .valueError
  | .ok (trees, _) => ∀ tree ∈ trees, tree.Within n

lemma fitsLength_growTrees {n : ℕ} {data : List (List R)} (hdata : Rectangular n data)
    (subsampleSize : ℤ) (maxDepth numTrees : ℕ) (s : σ) :
    FitsLength n (growTrees rng data subsampleSize maxDepth numTrees s) := by
  induction numTrees generalizing s with
  | zero => exact nofun
  | succ numTrees ih =>
      rw [growTrees]
      have hsample : (∃ e, sampleWithoutReplacement rng data subsampleSize s = .error e
            ∧ e.kind = .valueError)
          ∨ ∃ sample s', sampleWithoutReplacement rng data subsampleSize s = .ok (sample, s')
            ∧ Rectangular n sample := by
        rw [sampleWithoutReplacement]
        split
        · exact .inr ⟨_, _, rfl, hdata⟩
        · split
          · exact .inl ⟨_, rfl, rfl⟩
          · refine .inr ⟨_, _, rfl, fun row hrow => ?_⟩
            obtain ⟨i, hi, rfl⟩ := List.mem_map.mp hrow
            have hlt := rng.sample_lt _ _ _ i hi
            rw [List.getD_eq_getElem?_getD, List.getElem?_eq_getElem hlt, Option.getD_some]
            exact hdata _ (List.getElem_mem hlt)
      rcases hsample with ⟨e, herror, hkind⟩ | ⟨sample, s₁, hsample, hrect⟩
      · simp only [herror, bind, Except.bind]
        exact hkind
      · obtain ⟨tree, s₂, hbuild, hpart⟩ := exists_buildTree_eq rng maxDepth hrect s₁
        have hrest := ih s₂
        simp only [hsample, hbuild, bind, Except.bind]
        cases htrees : growTrees rng data subsampleSize maxDepth numTrees s₂ with
        | error e =>
            rw [htrees] at hrest
            exact hrest
        | ok r =>
            rw [htrees] at hrest
            exact List.forall_mem_cons.mpr ⟨hpart.within, hrest⟩

/-- **Training on vectors of one length**: it raises no `IndexError`, and the forest splits at the
features of the vectors. -/
theorem fitIsolationForest_spec {n : ℕ} (math : PyMath R) {data : List (List R)}
    (hdata : Rectangular n data) (numTrees subsampleSize : ℤ) (s : σ) :
    (∃ e, fitIsolationForest rng math data numTrees subsampleSize s = .error e
        ∧ e.kind = .valueError)
      ∨ ∃ forest s', fitIsolationForest rng math data numTrees subsampleSize s = .ok (forest, s')
        ∧ ∀ tree ∈ forest.trees, tree.Within n := by
  rw [fitIsolationForest]
  have htrees := fitsLength_growTrees rng hdata (min subsampleSize data.length)
    (Nat.clog 2 (max (min subsampleSize data.length) 2).toNat) numTrees.toNat s
  dsimp only
  cases hgrow : growTrees rng data (min subsampleSize data.length)
    (Nat.clog 2 (max (min subsampleSize data.length) 2).toNat) numTrees.toNat s with
  | error e =>
      rw [hgrow] at htrees
      exact .inl ⟨e, rfl, htrees⟩
  | ok r =>
      rw [hgrow] at htrees
      exact .inr ⟨_, _, rfl, htrees⟩

end Build

/-! ### Scoring -/

lemma exists_pathLength_eq {n : ℕ} (math : PyMath R) {x : List R} (hx : x.length = n)
    {tree : ITree R} (htree : tree.Within n) (depth : ℕ) :
    ∃ length, pathLength math x tree depth = .ok length := by
  induction tree generalizing depth with
  | leaf size => exact ⟨_, rfl⟩
  | node splitFeature splitValue left right ihl ihr =>
      obtain ⟨hfeature, hleft, hright⟩ := htree
      rw [pathLength, List.getElem?_eq_getElem (hx ▸ hfeature)]
      dsimp only
      split
      · exact ihl hleft _
      · exact ihr hright _

/-- **A vector of the length of the training vectors is scored.** -/
theorem score_isOk {n : ℕ} (math : PyMath R) {forest : IsolationForest R}
    (hforest : ∀ tree ∈ forest.trees, tree.Within n) {x : List R} (hx : x.length = n) :
    ∃ score, forest.score math x = .ok score := by
  rw [IsolationForest.score]
  split
  · exact ⟨_, rfl⟩
  · have hlengths : ∀ trees : List (ITree R), (∀ tree ∈ trees, tree.Within n) →
        ∃ lengths, (trees.mapM fun tree => pathLength math x tree 0) = .ok lengths := by
      intro trees htrees
      induction trees with
      | nil => exact ⟨[], rfl⟩
      | cons tree trees ih =>
          obtain ⟨htree, htrees⟩ := List.forall_mem_cons.mp htrees
          obtain ⟨length, hlength⟩ := exists_pathLength_eq math hx htree 0
          obtain ⟨lengths, hlengths⟩ := ih htrees
          rw [List.mapM_cons, hlength, hlengths]
          exact ⟨_, rfl⟩
    obtain ⟨lengths, hlengths⟩ := hlengths forest.trees hforest
    rw [hlengths]
    exact ⟨_, rfl⟩

end AnomalyDetector

end InduSense
