import Mathlib.Data.List.Sort
import Mathlib.Tactic

/-!
Tables with a generated primary key and a unique index.

A table carries its constraints as fields, so that no table violates them: ids are below the
next one to be generated and occur once, and no two rows clash on the unique index, which may
be partial.

* `Table.insert`: the insertion that does nothing on a clash (`ON CONFLICT DO NOTHING`).
* `Table.modify`: the update of the rows in place, refused when it would violate the index.
* `Table.find`: the row with an id; `Table.eq_of_id_eq`: there is one; `Table.filter_find`: the
  selection by the id and another column.
* `Table.Lists`: the rows of a table that has only been inserted into; `Table.Lists.insert`.
* `page`: `ORDER BY … LIMIT … OFFSET …`.
* `filter_eq_of_part`, `find?_eq_of_part`, `any_eq_of_part`: a selection within a part of the rows
  depends on that part only; `filter_map_eq`: an update outside of it is not seen.
-/

namespace Statement

variable {Row : Type}

/-- `ORDER BY … LIMIT … OFFSET …`; rows that the order does not tell apart stay in the order of
their insertion. -/
def page (before : Row → Row → Prop) [DecidableRel before] (limit offset : ℕ) (rows : List Row) :
    List Row :=
  ((rows.insertionSort before).drop offset).take limit

/-! ### Selections within a part of the rows -/

section Part

variable {rows rows' : List Row} {p q : Row → Bool}

lemma filter_eq_of_part (h : rows.filter p = rows'.filter p) (hq : ∀ a, q a = true → p a = true) :
    rows.filter q = rows'.filter q := by
  have hpart : ∀ l : List Row, l.filter q = (l.filter p).filter q := by
    intro l
    rw [List.filter_filter]
    refine List.filter_congr fun a _ => ?_
    cases ha : q a with
    | true => simp [hq a ha]
    | false => rfl
  calc rows.filter q = (rows.filter p).filter q := hpart rows
    _ = (rows'.filter p).filter q := by rw [h]
    _ = rows'.filter q := (hpart rows').symm

lemma find?_eq_of_part (h : rows.filter p = rows'.filter p) (hq : ∀ a, q a = true → p a = true) :
    rows.find? q = rows'.find? q := by
  rw [← List.head?_filter, ← List.head?_filter, filter_eq_of_part h hq]

lemma any_eq_of_part (h : rows.filter p = rows'.filter p) (hq : ∀ a, q a = true → p a = true) :
    rows.any q = rows'.any q := by
  have hfound : ∀ l : List Row, l.any q = (l.find? q).isSome := by
    intro l
    rw [Bool.eq_iff_iff, List.find?_isSome, List.any_eq_true]
  rw [hfound, hfound, find?_eq_of_part h hq]

/-- An update of rows that are not selected, which selects none of them, is not seen in a
selection. -/
lemma filter_map_eq {f : Row → Row} (hp : ∀ a ∈ rows, p (f a) = p a)
    (hf : ∀ a ∈ rows, p a = true → f a = a) : (rows.map f).filter p = rows.filter p := by
  induction rows with
  | nil => rfl
  | cons a rows ih =>
      have hrest := ih (fun b hb => hp b (List.mem_cons_of_mem _ hb))
        fun b hb => hf b (List.mem_cons_of_mem _ hb)
      have hpa := hp a List.mem_cons_self
      rw [List.map_cons, List.filter_cons, List.filter_cons, hrest, hpa]
      by_cases ha : p a = true
      · rw [if_pos ha, if_pos ha, hf a List.mem_cons_self ha]
      · rw [if_neg ha, if_neg ha]

/-- An update that selects the same rows commutes with the selection. -/
lemma filter_map_comm {f : Row → Row} (hp : ∀ a, p (f a) = p a) :
    (rows.map f).filter p = (rows.filter p).map f := by
  rw [List.filter_map, show p ∘ f = p from funext hp]

end Part

/-- Rows with an id generated from a counter, no two of which clash. -/
structure Table (Row : Type) (id : Row → ℕ) (clash : Row → Row → Prop) where
  rows : List Row
  nextId : ℕ
  id_lt : ∀ r ∈ rows, id r < nextId
  ids_nodup : (rows.map id).Nodup
  no_clash : rows.Pairwise fun a b => ¬ clash a b

namespace Table

variable {id : Row → ℕ} {clash : Row → Row → Prop}

/-- The table before any insertion. -/
def empty : Table Row id clash := ⟨[], 0, by simp, List.nodup_nil, .nil⟩

@[simp] lemma empty_rows : (empty : Table Row id clash).rows = [] := rfl

/-- A row is determined by its id. -/
lemma eq_of_id_eq (t : Table Row id clash) {a b : Row} (ha : a ∈ t.rows) (hb : b ∈ t.rows)
    (h : id a = id b) : a = b :=
  List.inj_on_of_nodup_map t.ids_nodup ha hb h

/-- The row with an id. -/
def find (t : Table Row id clash) (i : ℕ) : Option Row := t.rows.find? fun r => id r = i

/-- The row with an id that is also selected: at most one row has the id. -/
lemma filter_find (t : Table Row id clash) (i : ℕ) (p : Row → Bool) :
    (t.find i).filter p = t.rows.find? fun r => decide (id r = i) && p r := by
  cases hfind : t.find i with
  | none =>
      have hnone := List.find?_eq_none.mp hfind
      refine (List.find?_eq_none.mpr fun r hr hp => hnone r hr ?_).symm
      rw [Bool.and_eq_true] at hp
      exact hp.1
  | some r =>
      have hr : r ∈ t.rows := List.mem_of_find?_eq_some hfind
      have hid : id r = i := by simpa using List.find?_some hfind
      cases hp : p r with
      | true =>
          rw [Option.filter_some_pos hp]
          cases hfind' : t.rows.find? fun r => decide (id r = i) && p r with
          | none =>
              have hnone := List.find?_eq_none.mp hfind' r hr
              simp [hid, hp] at hnone
          | some r' =>
              have hr' := List.find?_some hfind'
              rw [Bool.and_eq_true, decide_eq_true_eq] at hr'
              rw [t.eq_of_id_eq (List.mem_of_find?_eq_some hfind') hr (hr'.1.trans hid.symm)]
      | false =>
          rw [Option.filter_some_neg hp]
          refine (List.find?_eq_none.mpr fun r' hr' hp' => ?_).symm
          rw [Bool.and_eq_true, decide_eq_true_eq] at hp'
          have heq : r' = r := t.eq_of_id_eq hr' hr (hp'.1.trans hid.symm)
          rw [heq, hp] at hp'
          cases hp'.2

/-- The rows of a table that has only been inserted into: the ids are the positions. -/
structure Lists (t : Table Row id clash) (rows : List Row) : Prop where
  rows_eq : t.rows = rows
  nextId_eq : t.nextId = rows.length

lemma empty_lists : (empty : Table Row id clash).Lists [] := ⟨rfl, rfl⟩

section Insert

variable [DecidableRel clash] (t : Table Row id clash) (row : ℕ → Row)

/-- Insert the row built from the next id, unless it clashes with a row of the table. -/
def insert (hid : ∀ n, id (row n) = n) : Option (Table Row id clash) :=
  if h : ∀ r ∈ t.rows, ¬ clash r (row t.nextId) then
    some
      { rows := t.rows ++ [row t.nextId]
        nextId := t.nextId + 1
        id_lt := by
          intro r hr
          rcases List.mem_append.mp hr with hr | hr
          · exact Nat.lt_succ_of_lt (t.id_lt r hr)
          · rw [List.mem_singleton.mp hr, hid]
            exact Nat.lt_succ_self _
        ids_nodup := by
          rw [List.map_append, List.map_singleton, List.nodup_append]
          refine ⟨t.ids_nodup, List.nodup_singleton _, fun i hi j hj => ?_⟩
          obtain ⟨a, ha, rfl⟩ := List.mem_map.mp hi
          rw [List.mem_singleton.mp hj, hid]
          exact Nat.ne_of_lt (t.id_lt a ha)
        no_clash := by
          rw [List.pairwise_append]
          refine ⟨t.no_clash, List.pairwise_singleton _ _, fun a ha b hb => ?_⟩
          rw [List.mem_singleton.mp hb]
          exact h a ha }
  else none

variable {t row} {hid : ∀ n, id (row n) = n}

/-- An insertion appends its row, which clashed with none. -/
lemma insert_eq_some {t' : Table Row id clash} (h : t.insert row hid = some t') :
    t'.rows = t.rows ++ [row t.nextId] ∧ t'.nextId = t.nextId + 1
      ∧ ∀ r ∈ t.rows, ¬ clash r (row t.nextId) := by
  unfold insert at h
  split at h
  · rename_i hc
    cases h
    exact ⟨rfl, rfl, hc⟩
  · cases h

/-- An insertion does nothing exactly when a row of the table clashes. -/
lemma insert_eq_none_iff :
    t.insert row hid = none ↔ ∃ r ∈ t.rows, clash r (row t.nextId) := by
  unfold insert
  split
  · rename_i hc
    simpa using hc
  · rename_i hc
    simpa using hc

/-- An insertion that clashes with no row goes through. -/
lemma insert_of_no_clash (hc : ∀ r ∈ t.rows, ¬ clash r (row t.nextId)) :
    ∃ t', t.insert row hid = some t' ∧ t'.rows = t.rows ++ [row t.nextId]
      ∧ t'.nextId = t.nextId + 1 :=
  ⟨_, dif_pos hc, rfl, rfl⟩

lemma Lists.insert {rows : List Row} (h : t.Lists rows) (row : ℕ → Row) (hid : ∀ n, id (row n) = n)
    (hc : ∀ r ∈ rows, ¬ clash r (row rows.length)) :
    ∃ t', t.insert row hid = some t' ∧ t'.Lists (rows ++ [row rows.length]) := by
  obtain ⟨rfl, hnext⟩ := h
  rw [← hnext] at hc ⊢
  obtain ⟨t', ht', hrows, hnext'⟩ := insert_of_no_clash hc
  refine ⟨t', ht', hrows, ?_⟩
  rw [hnext', hnext, List.length_append, List.length_singleton]

end Insert

section Modify

variable [DecidableRel clash] (t : Table Row id clash) (f : Row → Row)

/-- Apply `f`, which keeps ids, to every row, unless the result would violate the index. -/
def modify (hf : ∀ r, id (f r) = id r) : Option (Table Row id clash) :=
  if h : (t.rows.map f).Pairwise fun a b => ¬ clash a b then
    some
      { rows := t.rows.map f
        nextId := t.nextId
        id_lt := by
          intro r hr
          obtain ⟨a, ha, rfl⟩ := List.mem_map.mp hr
          rw [hf]
          exact t.id_lt a ha
        ids_nodup := by
          rw [List.map_map, show id ∘ f = id from funext hf]
          exact t.ids_nodup
        no_clash := h }
  else none

variable {t f} {hf : ∀ r, id (f r) = id r}

lemma modify_eq_some {t' : Table Row id clash} (h : t.modify f hf = some t') :
    t'.rows = t.rows.map f ∧ t'.nextId = t.nextId := by
  unfold modify at h
  split at h
  · cases h
    exact ⟨rfl, rfl⟩
  · cases h

/-- An update that creates no clash goes through. -/
lemma modify_isSome (t : Table Row id clash) (hf : ∀ r, id (f r) = id r)
    (hc : ∀ a b, clash (f a) (f b) → clash a b) : ∃ t', t.modify f hf = some t' := by
  have h : (t.rows.map f).Pairwise fun a b => ¬ clash a b := by
    rw [List.pairwise_map]
    exact t.no_clash.imp fun hab hfab => hab (hc _ _ hfab)
  exact ⟨_, dif_pos h⟩

/-- An update is refused when two of the rows it leaves clash. -/
lemma modify_eq_none {a b : Row} (hf : ∀ r, id (f r) = id r) (hsymm : ∀ a b, clash a b → clash b a)
    (ha : a ∈ t.rows) (hb : b ∈ t.rows) (hne : a ≠ b) (hc : clash (f a) (f b)) :
    t.modify f hf = none := by
  rw [modify, dif_neg]
  intro h
  rw [List.pairwise_map] at h
  have : Std.Symm fun a b => ¬ clash (f a) (f b) := ⟨fun _ _ hxy hyx => hxy (hsymm _ _ hyx)⟩
  exact h.forall ha hb hne hc

end Modify

end Table

end Statement
