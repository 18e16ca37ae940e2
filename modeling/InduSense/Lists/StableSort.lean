import Mathlib.Tactic

/-!
Stable sorting by a key.

* `sortBy`: the elements of a list in the order of their keys, those of one key as they came.
* `eq_of_filter_eq`: a list in order is determined by its elements of each key, in their order.
* `insertAfter`: an element inserted behind the elements of its key, and of all lower ones.
* `sortBy_eq_of_perm`: where the keys differ, the order of arrival does not matter.
-/

namespace InduSense

namespace Lists

variable {α κ : Type} [LinearOrder κ] (key : α → κ)

/-- The elements of a list in the order of their keys. -/
def sortBy (l : List α) : List α := l.insertionSort fun a b => key a ≤ key b

/-- A list in order, with one more element behind those of its key. -/
def insertAfter (a : α) (l : List α) : List α :=
  (l.reverse.orderedInsert (fun a b => key b ≤ key a) a).reverse

/-- The elements are in the order of their keys. -/
def InOrder (l : List α) : Prop := l.Pairwise fun a b => key a ≤ key b

local instance isTransKey : IsTrans α fun a b => key a ≤ key b := ⟨fun _ _ _ => le_trans⟩

local instance totalKey : Std.Total fun a b => key a ≤ key b :=
  ⟨fun a b => le_total (key a) (key b)⟩

local instance isTransKeyRev : IsTrans α fun a b => key b ≤ key a :=
  ⟨fun _ _ _ hab hbc => le_trans hbc hab⟩

local instance totalKeyRev : Std.Total fun a b => key b ≤ key a :=
  ⟨fun a b => le_total (key b) (key a)⟩

variable {key} {l l₁ l₂ : List α}

lemma inOrder_sortBy (l : List α) : InOrder key (sortBy key l) := List.pairwise_insertionSort _ l

lemma perm_sortBy (l : List α) : (sortBy key l).Perm l := List.perm_insertionSort _ l

lemma mem_sortBy {a : α} : a ∈ sortBy key l ↔ a ∈ l := (perm_sortBy l).mem_iff

/-! ### Elements of one key -/

variable (key) in
/-- An insertion that passes by other keys only keeps the order among the elements of each key. -/
lemma filter_orderedInsert {r : α → α → Prop} [DecidableRel r] {a : α}
    (hr : ∀ b, key b = key a → r a b) (l : List α) (t : κ) :
    (l.orderedInsert r a).filter (fun x => decide (key x = t))
      = (a :: l).filter fun x => decide (key x = t) := by
  induction l with
  | nil => rfl
  | cons b l ih =>
      rw [List.orderedInsert_cons]
      split
      · rfl
      · have hne : key b ≠ key a := fun heq => ‹¬ r a b› (hr b heq)
        rw [List.filter_cons, ih]
        by_cases hb : key b = t
        · have ha : ¬ key a = t := fun ha => hne (hb.trans ha.symm)
          simp [List.filter_cons, ha]
        · simp [List.filter_cons, hb]

theorem filter_sortBy (l : List α) (t : κ) :
    (sortBy key l).filter (fun x => decide (key x = t))
      = l.filter fun x => decide (key x = t) := by
  induction l with
  | nil => rfl
  | cons a l ih =>
      rw [sortBy, List.insertionSort_cons, filter_orderedInsert key fun b hb => hb.ge]
      rw [sortBy] at ih
      rw [List.filter_cons, List.filter_cons, ih]

/-- Two lists in order with the same elements of each key, in the same order, are the same. -/
theorem eq_of_filter_eq (h₁ : InOrder key l₁) (h₂ : InOrder key l₂)
    (h : ∀ t, l₁.filter (fun x => decide (key x = t)) = l₂.filter fun x => decide (key x = t)) :
    l₁ = l₂ := by
  have hmem : ∀ {l l' : List α}, (∀ t, l.filter (fun x => decide (key x = t))
      = l'.filter fun x => decide (key x = t)) → ∀ a ∈ l, a ∈ l' := by
    intro l l' h a ha
    have hfilter : a ∈ l.filter fun x => decide (key x = key a) :=
      List.mem_filter.mpr ⟨ha, decide_eq_true rfl⟩
    rw [h] at hfilter
    exact (List.mem_filter.mp hfilter).1
  induction l₁ generalizing l₂ with
  | nil =>
      exact (List.eq_nil_iff_forall_not_mem.mpr fun a ha =>
        List.not_mem_nil (hmem (fun t => (h t).symm) a ha)).symm
  | cons a l₁ ih =>
      cases l₂ with
      | nil => exact absurd (hmem h a List.mem_cons_self) List.not_mem_nil
      | cons b l₂ =>
          have hb := hmem (fun t => (h t).symm) b List.mem_cons_self
          have ha := hmem h a List.mem_cons_self
          rw [InOrder, List.pairwise_cons] at h₁ h₂
          -- each head is among the elements of the other list, which none of its own precedes
          have hab : key a ≤ key b := by
            rcases List.mem_cons.mp hb with rfl | hb
            · exact le_rfl
            · exact h₁.1 b hb
          have hba : key b ≤ key a := by
            rcases List.mem_cons.mp ha with rfl | ha
            · exact le_rfl
            · exact h₂.1 a ha
          have hkey : key a = key b := le_antisymm hab hba
          have hhead := h (key b)
          rw [List.filter_cons, List.filter_cons] at hhead
          simp only [hkey, decide_true, if_true] at hhead
          obtain ⟨rfl, htail⟩ := List.cons.inj hhead
          rw [ih h₁.2 h₂.2 fun t => ?_]
          by_cases ht : key a = t
          · rw [← ht]
            exact htail
          · have := h t
            rwa [List.filter_cons_of_neg (by simpa using ht),
              List.filter_cons_of_neg (by simpa using ht)] at this

/-- A list in order that has the elements of each key as they came. -/
lemma sortBy_eq (h₁ : InOrder key l₁)
    (h : ∀ t, l₁.filter (fun x => decide (key x = t)) = l.filter fun x => decide (key x = t)) :
    sortBy key l = l₁ :=
  eq_of_filter_eq (inOrder_sortBy l) h₁ fun t => (filter_sortBy l t).trans (h t).symm

lemma filter_filter_key (l : List α) (p : α → Bool) (t : κ) :
    (l.filter p).filter (fun x => decide (key x = t))
      = (l.filter fun x => decide (key x = t)).filter p := by
  rw [List.filter_filter, List.filter_filter]
  exact List.filter_congr fun x _ => Bool.and_comm _ _

/-! ### Insertion -/

lemma mem_insertAfter {a x : α} : x ∈ insertAfter key a l ↔ x = a ∨ x ∈ l := by
  rw [insertAfter, List.mem_reverse, List.mem_orderedInsert, List.mem_reverse]

lemma InOrder.insertAfter (h : InOrder key l) (a : α) : InOrder key (insertAfter key a l) :=
  List.pairwise_reverse.mpr (List.Pairwise.orderedInsert a _ (List.pairwise_reverse.mpr h))

lemma filter_insertAfter (a : α) (l : List α) (t : κ) :
    (insertAfter key a l).filter (fun x => decide (key x = t))
      = (l ++ [a]).filter fun x => decide (key x = t) := by
  rw [insertAfter, List.filter_reverse, filter_orderedInsert key fun b hb => hb.le,
    ← List.filter_reverse, List.reverse_cons, List.reverse_reverse]

/-! ### Orders of arrival -/

/-- Where the keys differ, the order of arrival does not matter. -/
theorem sortBy_eq_of_perm (hp : l₁.Perm l₂) (hnodup : (l₁.map key).Nodup) :
    sortBy key l₁ = sortBy key l₂ := by
  refine sortBy_eq (inOrder_sortBy l₂) fun t => ?_
  rw [filter_sortBy]
  -- at most one element has the key
  have hlen : (l₁.filter fun x => decide (key x = t)).length ≤ 1 := by
    rw [← List.countP_eq_length_filter]
    calc l₁.countP (fun x => decide (key x = t))
        = (l₁.map key).count t := by
          rw [List.count, List.countP_map]
          exact List.countP_congr fun x _ => by simp
      _ ≤ 1 := List.nodup_iff_count_le_one.mp hnodup t
  have hperm := hp.filter fun x => decide (key x = t)
  cases hl : l₁.filter fun x => decide (key x = t) with
  | nil =>
      rw [hl] at hperm
      exact hperm.nil_eq.symm
  | cons a rest =>
      obtain rfl : rest = [] := by
        rw [hl, List.length_cons] at hlen
        exact List.length_eq_zero_iff.mp (by omega)
      rw [hl] at hperm
      exact List.perm_singleton.mp hperm.symm

end Lists

end InduSense
