import Mathlib.Tactic

/-!
The extremes of what a list is mapped to.

* `isGreatest_foldl_max`, `isLeast_foldl_min`: what a running maximum or minimum ends with.
* `isGreatest_of_insert`: where the start of a maximum does not count.
-/

namespace InduSense

namespace Lists

variable {α κ : Type} [LinearOrder κ] {f : α → κ} {start bound : κ} {l : List α}

/-- A running maximum is the greatest of its start and of all it has seen. -/
lemma isGreatest_foldl_max (f : α → κ) (start : κ) (l : List α) :
    IsGreatest (insert start {x | ∃ a ∈ l, f a = x})
      (l.foldl (fun greatest a => max greatest (f a)) start) := by
  induction l using List.reverseRecOn with
  | nil =>
      refine ⟨.inl rfl, ?_⟩
      rintro x (rfl | ⟨a, ha, -⟩)
      · exact le_rfl
      · exact absurd ha List.not_mem_nil
  | append_singleton l a ih =>
      rw [List.foldl_append, List.foldl_cons, List.foldl_nil]
      constructor
      · rcases max_choice (l.foldl (fun greatest a => max greatest (f a)) start) (f a) with h | h
        · rw [h]
          refine ih.1.imp id ?_
          rintro ⟨b, hb, hx⟩
          exact ⟨b, List.mem_append_left _ hb, hx⟩
        · rw [h]
          exact .inr ⟨a, by simp, rfl⟩
      · rintro x (rfl | ⟨b, hb, rfl⟩)
        · exact (ih.2 (.inl rfl)).trans (le_max_left _ _)
        · rcases List.mem_append.mp hb with hb | hb
          · exact (ih.2 (.inr ⟨b, hb, rfl⟩)).trans (le_max_left _ _)
          · rw [List.mem_singleton.mp hb]
            exact le_max_right _ _

/-- A running minimum is the least of its start and of all it has seen. -/
lemma isLeast_foldl_min (f : α → κ) (start : κ) (l : List α) :
    IsLeast (insert start {x | ∃ a ∈ l, f a = x})
      (l.foldl (fun least a => min least (f a)) start) :=
  @isGreatest_foldl_max α κᵒᵈ _ f start l

/-- A start that none of the values is below is not needed, where there are values. -/
lemma isGreatest_of_insert (hne : l ≠ []) (hstart : ∀ a ∈ l, start ≤ f a)
    (h : IsGreatest (insert start {x | ∃ a ∈ l, f a = x}) bound) :
    IsGreatest {x | ∃ a ∈ l, f a = x} bound := by
  refine ⟨?_, fun x hx => h.2 (.inr hx)⟩
  rcases h.1 with hbound | hmem
  · obtain ⟨a, l, rfl⟩ := List.exists_cons_of_ne_nil hne
    have ha : f a ≤ bound := h.2 (.inr ⟨a, List.mem_cons_self, rfl⟩)
    exact ⟨a, List.mem_cons_self, le_antisymm ha (hbound ▸ hstart a List.mem_cons_self)⟩
  · exact hmem

end Lists

end InduSense
