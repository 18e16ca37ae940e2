import Mathlib.Data.List.GetD

/-!
Lists that only grow: each entry stays in its place, and may change within bounds; others are added
at the end.

* `Grown`: the relation, with what may become of an old entry and what a new one is like.
* `grown_concat`, `grown_map`, `grown_map_concat`: the changes that lists go through.
* `Grown.trans`: one growth after another.
* `Grown.of_mem`: what has become of an entry.
-/

namespace InduSense

namespace Lists

variable {α : Type} {R R₁ R₂ : α → α → Prop} {N N₁ N₂ : α → Prop} {l l' l'' : List α}

/-- The entries of `l` are in the same places in `l'`, each related to what it was by `R`; the
others are as `N` says. -/
structure Grown (R : α → α → Prop) (N : α → Prop) (l l' : List α) : Prop where
  kept : ∀ (i : ℕ) (a : α), l[i]? = some a → ∃ b, l'[i]? = some b ∧ R a b
  added : ∀ (i : ℕ) (b : α), l'[i]? = some b → l[i]? = none → N b

/-- Entries are changed. -/
lemma grown_map {f : α → α} (hR : ∀ a ∈ l, R a (f a)) : Grown R N l (l.map f) where
  kept i a ha := ⟨f a, by rw [List.getElem?_map, ha]; rfl, hR a (List.mem_of_getElem? ha)⟩
  added i b hb hnone := by
    rw [List.getElem?_map, hnone] at hb
    cases hb

/-- Nothing has changed. -/
lemma grown_refl (hR : ∀ a, R a a) (l : List α) : Grown R N l l where
  kept i a ha := ⟨a, ha, hR a⟩
  added i b hb hnone := by cases hb.symm.trans hnone

/-- **One growth after another.** -/
lemma Grown.trans (hR : ∀ a b c, R₁ a b → R₂ b c → R a c) (hN : ∀ a b, N₁ a → R₂ a b → N b)
    (hN₂ : ∀ a, N₂ a → N a) (h₁ : Grown R₁ N₁ l l') (h₂ : Grown R₂ N₂ l' l'') :
    Grown R N l l'' where
  kept i a ha := by
    obtain ⟨b, hb, hab⟩ := h₁.kept i a ha
    obtain ⟨c, hc, hbc⟩ := h₂.kept i b hb
    exact ⟨c, hc, hR a b c hab hbc⟩
  added i c hc hnone := by
    cases hb : l'[i]? with
    | none => exact hN₂ c (h₂.added i c hc hb)
    | some b =>
        obtain ⟨c', hc', hbc⟩ := h₂.kept i b hb
        cases hc.symm.trans hc'
        exact hN b c (h₁.added i b hb hnone) hbc

/-- One entry is added. -/
lemma grown_concat (hR : ∀ a, R a a) {a : α} (ha : N a) (l : List α) : Grown R N l (l ++ [a]) where
  kept i b hb := by
    refine ⟨b, ?_, hR b⟩
    rw [List.getElem?_append_left (List.getElem?_eq_some_iff.mp hb).1, hb]
  added i b hb hnone := by
    rw [List.getElem?_append_right (List.getElem?_eq_none_iff.mp hnone)] at hb
    rw [List.mem_singleton.mp (List.mem_of_getElem? hb)]
    exact ha

/-- Entries are changed, and one is added. -/
lemma grown_map_concat {f : α → α} (hR : ∀ a ∈ l, R a (f a)) {a : α} (ha : N a) :
    Grown R N l (l.map f ++ [a]) := by
  have hmap : Grown R (fun _ => False) l (l.map f) := grown_map hR
  have hconcat : Grown Eq N (l.map f) (l.map f ++ [a]) := grown_concat (fun _ => rfl) ha _
  refine Grown.trans ?_ (fun _ _ h => h.elim) (fun _ h => h) hmap hconcat
  rintro b c _ hbc rfl
  exact hbc

/-- What has become of an entry. -/
lemma Grown.of_mem (h : Grown R N l l') {a : α} (ha : a ∈ l) : ∃ b ∈ l', R a b := by
  obtain ⟨i, hi⟩ := List.getElem?_of_mem ha
  obtain ⟨b, hb, hab⟩ := h.kept i a hi
  exact ⟨b, List.mem_of_getElem? hb, hab⟩

end Lists

end InduSense
