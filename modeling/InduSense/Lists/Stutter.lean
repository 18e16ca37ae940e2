import Mathlib.Data.List.Induction

/-!
Lists in which entries are repeated in their places.

* `Stutter`: the relation, with how often an entry may stand in a row.
* `Stutter.foldl`: repetitions do not matter to what absorbs them.
-/

namespace InduSense

namespace Lists

variable {α β : Type} {m : ℕ} {l l' : List α}

/-- The second list is the first one, with each entry up to `m` times in a row. -/
inductive Stutter (m : ℕ) : List α → List α → Prop where
  | nil : Stutter m [] []
  | concat {l l' : List α} (a : α) {n : ℕ} (hpos : 0 < n) (hle : n ≤ m) (h : Stutter m l l') :
      Stutter m (l ++ [a]) (l' ++ List.replicate n a)

/-- Entries need not be repeated. -/
lemma Stutter.refl (hm : 1 ≤ m) (l : List α) : Stutter m l l := by
  induction l using List.reverseRecOn with
  | nil => exact .nil
  | append_singleton l a ih => exact .concat a Nat.one_pos hm ih

/-- An operation that a repetition leaves as it is absorbs them all. -/
lemma foldl_replicate {f : β → α → β} (hf : ∀ b a, f (f b a) a = f b a) (b : β) (a : α) {n : ℕ}
    (hpos : 0 < n) : (List.replicate n a).foldl f b = f b a := by
  induction n generalizing b with
  | zero => exact absurd hpos (Nat.lt_irrefl 0)
  | succ n ih =>
      rw [List.replicate_succ, List.foldl_cons]
      rcases Nat.eq_zero_or_pos n with rfl | hn
      · rfl
      · rw [ih _ hn, hf]

/-- **Repetitions do not matter** to an operation that absorbs them. -/
theorem Stutter.foldl {f : β → α → β} (hf : ∀ b a, f (f b a) a = f b a) (h : Stutter m l l')
    (b : β) : l'.foldl f b = l.foldl f b := by
  induction h with
  | nil => rfl
  | concat a hpos hle h ih =>
      rw [List.foldl_append, List.foldl_append, ih, foldl_replicate hf _ _ hpos]
      rfl

end Lists

end InduSense
