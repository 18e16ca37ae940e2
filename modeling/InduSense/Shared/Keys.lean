import Mathlib.Tactic

/-!
Texts that are joined with a separator.

* `append_separator_inj`: what stands before the first separator is recovered from the text, and so
  is what follows.
* `append_separator_inj_last`: the same at the last separator.
-/

namespace InduSense

/-- Two lists cut at the first occurrence of an element. -/
lemma append_cons_inj_of_first {α : Type} {c : α} {x₁ x₂ z₁ z₂ : List α} (h₁ : c ∉ x₁)
    (h₂ : c ∉ x₂) : x₁ ++ c :: z₁ = x₂ ++ c :: z₂ ↔ x₁ = x₂ ∧ z₁ = z₂ := by
  constructor
  · intro h
    rcases List.append_eq_append_iff.mp h with ⟨as, rfl, hz⟩ | ⟨as, rfl, hz⟩
    all_goals
      cases as with
      | nil => simpa [eq_comm] using hz
      | cons a as =>
          obtain ⟨rfl, -⟩ := List.cons.inj hz
          simp at h₁ h₂
  · rintro ⟨rfl, rfl⟩
    rfl

variable {a a' b b' : String} {c : Char}

/-- The characters of two texts joined with a separator. -/
lemma toList_append_separator (a : String) (c : Char) (b : String) :
    (a ++ String.singleton c ++ b).toList = a.toList ++ c :: b.toList := by
  rw [String.toList_append, String.toList_append, String.toList_singleton, List.append_assoc]
  rfl

/-- Texts joined with a separator the first does not contain are joined injectively. -/
theorem append_separator_inj (ha : c ∉ a.toList) (ha' : c ∉ a'.toList) :
    a ++ String.singleton c ++ b = a' ++ String.singleton c ++ b' ↔ a = a' ∧ b = b' := by
  rw [← String.toList_inj, toList_append_separator, toList_append_separator,
    append_cons_inj_of_first ha ha', String.toList_inj, String.toList_inj]

/-- Texts joined with a separator the second does not contain are joined injectively. -/
theorem append_separator_inj_last (hb : c ∉ b.toList) (hb' : c ∉ b'.toList) :
    a ++ String.singleton c ++ b = a' ++ String.singleton c ++ b' ↔ a = a' ∧ b = b' := by
  rw [← String.toList_inj, toList_append_separator, toList_append_separator,
    ← List.reverse_inj]
  -- read backwards, the last separator is the first
  simp only [List.reverse_append, List.reverse_cons, List.append_assoc, List.singleton_append]
  rw [append_cons_inj_of_first (by rwa [List.mem_reverse]) (by rwa [List.mem_reverse]),
    List.reverse_inj, List.reverse_inj, String.toList_inj, String.toList_inj, and_comm]

end InduSense
