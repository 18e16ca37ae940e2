import Mathlib.Tactic
import Mathlib.Data.List.GetD

/-!
Exponential averages of a finite sequence, over an ordered field.

* `expWeight α n i`: the weight of the `i`-th of `n` samples, `(1 - α)ⁿ⁻¹` for the first and
  `α (1 - α)ⁿ⁻¹⁻ⁱ` for a later one.
* `expAvg`: the average of a function of the samples; `expAvg_append` is the recurrence by which it
  is computed online.
* `expMean`, `expVariance`: the mean, and the average of the squared deviations from it, with their
  recurrences `expMean_append` and `expVariance_append`.
* `expMean_mem_Icc`, `expVariance_nonneg`: what follows from weights that are not negative.
-/

namespace InduSense

namespace Numeric

open Finset (range)

variable {R : Type} [Field R]

/-- The weight of the `i`-th of `n` samples. -/
def expWeight (α : R) (n i : ℕ) : R :=
  if i = 0 then (1 - α) ^ (n - 1) else α * (1 - α) ^ (n - 1 - i)

/-- The average of a function of the samples. -/
def expAvg (α : R) (f : R → R) (xs : List R) : R :=
  ∑ i ∈ range xs.length, expWeight α xs.length i * f (xs.getD i 0)

/-- The mean of the samples. -/
def expMean (α : R) (xs : List R) : R := expAvg α id xs

/-- The average of the squared deviations from the mean. -/
def expVariance (α : R) (xs : List R) : R := expAvg α (fun x => (x - expMean α xs) ^ 2) xs

/-! ### The recurrence -/

/-- One more sample scales the weights of the samples before it. -/
lemma expWeight_succ (α : R) {n i : ℕ} (hi : i < n) :
    expWeight α (n + 1) i = (1 - α) * expWeight α n i := by
  rw [expWeight, expWeight]
  split
  · rw [← pow_succ', show n - 1 + 1 = n + 1 - 1 by omega]
  · rw [mul_left_comm, ← pow_succ', show n - 1 - i + 1 = n + 1 - 1 - i by omega]

/-- The newest of several samples weighs `α`. -/
lemma expWeight_last (α : R) {n : ℕ} (hn : n ≠ 0) : expWeight α (n + 1) n = α := by
  rw [expWeight, if_neg hn, Nat.add_sub_cancel, Nat.sub_self, pow_zero, mul_one]

@[simp] lemma expAvg_singleton (α : R) (f : R → R) (x : R) : expAvg α f [x] = f x := by
  simp [expAvg, expWeight]

/-- **The recurrence of an average.** -/
theorem expAvg_append (α : R) (f : R → R) {xs : List R} (hxs : xs ≠ []) (x : R) :
    expAvg α f (xs ++ [x]) = (1 - α) * expAvg α f xs + α * f x := by
  have hlen : (xs ++ [x]).length = xs.length + 1 := List.length_append
  rw [expAvg, hlen, Finset.sum_range_succ, expWeight_last α (by simpa using hxs)]
  congr 1
  · rw [expAvg, Finset.mul_sum]
    refine Finset.sum_congr rfl fun i hi => ?_
    have hi : i < xs.length := Finset.mem_range.mp hi
    rw [expWeight_succ α hi, List.getD_append _ _ _ _ hi, mul_assoc]
  · rw [List.getD_append_right _ _ _ _ le_rfl, Nat.sub_self, List.getD_cons_zero]

/-! ### Linearity -/

lemma expAvg_add (α : R) (f g : R → R) (xs : List R) :
    expAvg α (fun x => f x + g x) xs = expAvg α f xs + expAvg α g xs := by
  simp only [expAvg, mul_add, Finset.sum_add_distrib]

lemma expAvg_mul_left (α c : R) (f : R → R) (xs : List R) :
    expAvg α (fun x => c * f x) xs = c * expAvg α f xs := by
  rw [expAvg, expAvg, Finset.mul_sum]
  exact Finset.sum_congr rfl fun i _ => mul_left_comm _ _ _

/-- The weights sum to one. -/
lemma expAvg_const (α c : R) {xs : List R} (hxs : xs ≠ []) : expAvg α (fun _ => c) xs = c := by
  induction xs using List.reverseRecOn with
  | nil => exact absurd rfl hxs
  | append_singleton xs x ih =>
      by_cases hnil : xs = []
      · subst hnil
        exact expAvg_singleton α _ x
      · rw [expAvg_append α _ hnil, ih hnil]
        ring

theorem sum_expWeight (α : R) {n : ℕ} (hn : n ≠ 0) : ∑ i ∈ range n, expWeight α n i = 1 := by
  have hne : List.replicate n (1 : R) ≠ [] := by simpa using hn
  have h := expAvg_const α 1 hne
  simpa [expAvg] using h

/-- The variance is the mean of the squares less the square of the mean. -/
lemma expVariance_eq (α : R) {xs : List R} (hxs : xs ≠ []) :
    expVariance α xs = expAvg α (fun x => x ^ 2) xs - expMean α xs ^ 2 := by
  have hexpand : (fun x => (x - expMean α xs) ^ 2)
      = fun x => (x ^ 2 + (-2 * expMean α xs) * id x) + expMean α xs ^ 2 := by
    funext x
    simp only [id]
    ring
  calc expVariance α xs
      = expAvg α (fun x => x ^ 2) xs + (-2 * expMean α xs) * expMean α xs
          + expMean α xs ^ 2 := by
        rw [expVariance, hexpand, expAvg_add, expAvg_add, expAvg_mul_left, expAvg_const α _ hxs]
        rfl
    _ = expAvg α (fun x => x ^ 2) xs - expMean α xs ^ 2 := by ring

/-! ### The mean and the variance, online -/

@[simp] lemma expMean_singleton (α x : R) : expMean α [x] = x := expAvg_singleton α id x

@[simp] lemma expVariance_singleton (α x : R) : expVariance α [x] = 0 := by
  simp [expVariance]

/-- The mean moves towards the new sample by the share `α` of its deviation. -/
theorem expMean_append (α : R) {xs : List R} (hxs : xs ≠ []) (x : R) :
    expMean α (xs ++ [x]) = expMean α xs + α * (x - expMean α xs) := by
  rw [expMean, expAvg_append α _ hxs, expMean, id]
  ring

/-- **The recurrence of the variance**, with the deviation from the mean before the sample. -/
theorem expVariance_append (α : R) {xs : List R} (hxs : xs ≠ []) (x : R) :
    expVariance α (xs ++ [x])
      = (1 - α) * (expVariance α xs + α * (x - expMean α xs) * (x - expMean α xs)) := by
  rw [expVariance_eq α (List.append_ne_nil_of_right_ne_nil _ (List.cons_ne_nil _ _)),
    expVariance_eq α hxs, expMean_append α hxs, expAvg_append α _ hxs]
  ring

/-! ### Weights that are not negative -/

section Ordered

variable [LinearOrder R] [IsStrictOrderedRing R] {α : R}

lemma expWeight_nonneg (h0 : 0 ≤ α) (h1 : α ≤ 1) (n i : ℕ) : 0 ≤ expWeight α n i := by
  have hβ : 0 ≤ 1 - α := sub_nonneg.mpr h1
  rw [expWeight]
  split
  · exact pow_nonneg hβ _
  · exact mul_nonneg h0 (pow_nonneg hβ _)

/-- An average is monotone in the function of the samples. -/
lemma expAvg_mono (h0 : 0 ≤ α) (h1 : α ≤ 1) {f g : R → R} {xs : List R}
    (hfg : ∀ x ∈ xs, f x ≤ g x) : expAvg α f xs ≤ expAvg α g xs := by
  refine Finset.sum_le_sum fun i hi => ?_
  have hi : i < xs.length := Finset.mem_range.mp hi
  refine mul_le_mul_of_nonneg_left (hfg _ ?_) (expWeight_nonneg h0 h1 _ _)
  rw [List.getD_eq_getElem _ _ hi]
  exact List.getElem_mem hi

theorem expVariance_nonneg (h0 : 0 ≤ α) (h1 : α ≤ 1) (xs : List R) : 0 ≤ expVariance α xs := by
  rw [expVariance, expAvg]
  exact Finset.sum_nonneg fun _ _ => mul_nonneg (expWeight_nonneg h0 h1 _ _) (sq_nonneg _)

/-- The mean lies between bounds of the samples. -/
theorem expMean_mem_Icc (h0 : 0 ≤ α) (h1 : α ≤ 1) {xs : List R} (hxs : xs ≠ []) {lo hi : R}
    (hbounds : ∀ x ∈ xs, x ∈ Set.Icc lo hi) : expMean α xs ∈ Set.Icc lo hi := by
  constructor
  · calc lo = expAvg α (fun _ => lo) xs := (expAvg_const α lo hxs).symm
      _ ≤ expMean α xs := expAvg_mono h0 h1 fun x hx => (hbounds x hx).1
  · calc expMean α xs ≤ expAvg α (fun _ => hi) xs := expAvg_mono h0 h1 fun x hx => (hbounds x hx).2
      _ = hi := expAvg_const α hi hxs

end Ordered

end Numeric

end InduSense
