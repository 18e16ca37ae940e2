import InduSense.Statement.Table

/-!
A listing read page by page, where each query may order the rows that tie in any way.

* `IsPage`: what `ORDER BY … LIMIT … OFFSET …` may answer.
* `ahead`, `upTo`: where in the listing the rows begin, and end, that tie with a row.
* `Split`: a page ends among rows that tie.
* `Partition`: the pages together are the listing; `partition_iff`: they are, whatever the queries
  answer, if and only if no page ends among rows that tie.
-/

namespace Statement

variable {Row β : Type} (before : Row → Row → Prop) [DecidableRel before]

/-- What `ORDER BY … LIMIT … OFFSET …` may answer: a part of the rows in some order that is one. -/
def IsPage (limit offset : ℕ) (rows out : List Row) : Prop :=
  ∃ sorted : List Row, sorted.Perm rows ∧ sorted.Pairwise before
    ∧ out = (sorted.drop offset).take limit

/-- The number of rows that a row cannot stand before. -/
def ahead (rows : List Row) (a : Row) : ℕ := rows.countP fun b => ¬ before a b

/-- The number of rows that can stand before a row, and itself. -/
def upTo (rows : List Row) (a : Row) : ℕ := rows.countP fun b => before b a

/-- A page ends among the rows that tie with some row. -/
def Split (limit : ℕ) (rows : List Row) : Prop :=
  ∃ a ∈ rows, ∃ k : ℕ, ahead before rows a < k * limit ∧ k * limit < upTo before rows a

/-- Pages that reach to the end are all there is, each once. -/
def Partition (limit : ℕ) (pages : ℕ → List β) (all : List β) : Prop :=
  ∀ n : ℕ, all.length ≤ n * limit → ((List.range n).flatMap pages).Perm all

variable {before} {rows s s' : List Row} {a : Row} {m p limit : ℕ}

/-! ### Positions in a listing -/

omit [DecidableRel before] in
/-- The pages of one order are the listing up to where they end. -/
lemma flatMap_pages (s : List Row) (limit n : ℕ) :
    (List.range n).flatMap (fun k => (s.drop (k * limit)).take limit) = s.take (n * limit) := by
  induction n with
  | zero => simp
  | succ n ih =>
      rw [List.range_succ, List.flatMap_append, ih, List.flatMap_singleton, Nat.succ_mul,
        List.take_add]

section Positions

variable [Std.Total before]

omit [DecidableRel before] in
/-- A row ties with itself. -/
lemma before_self (a : Row) : before a a := (Std.Total.total (r := before) a a).elim id id

/-- A row has at most those ahead of it that stand before it. -/
lemma ahead_getElem_le (hs : s.Pairwise before) (hp : p < s.length) :
    ahead before s s[p] ≤ p := by
  have hrest : (s.drop p).countP (fun b => ¬ before s[p] b) = 0 := by
    rw [List.countP_eq_zero, List.drop_eq_getElem_cons hp]
    have hdrop := hs.sublist (List.drop_sublist p s)
    rw [List.drop_eq_getElem_cons hp, List.pairwise_cons] at hdrop
    intro b hb
    rcases List.mem_cons.mp hb with rfl | hb
    · simpa using @before_self _ before _ s[p]
    · simpa using hdrop.1 b hb
  calc ahead before s s[p]
      = (s.take p).countP (fun b => ¬ before s[p] b)
        + (s.drop p).countP (fun b => ¬ before s[p] b) := by
        rw [← List.countP_append, List.take_append_drop, ahead]
    _ ≤ p := by
        rw [hrest]
        exact le_trans List.countP_le_length (List.length_take_le p s)

/-- A row and all that stand before it are up to it. -/
lemma lt_upTo_getElem (hs : s.Pairwise before) (hp : p < s.length) : p < upTo before s s[p] := by
  have hfirst : (s.take (p + 1)).countP (fun b => before b s[p]) = p + 1 := by
    rw [List.countP_eq_length.mpr, List.length_take, min_eq_left hp]
    have htake := hs.sublist (List.take_sublist (p + 1) s)
    rw [List.take_succ_eq_append_getElem hp, List.pairwise_append] at htake
    intro b hb
    rw [List.take_succ_eq_append_getElem hp] at hb
    rcases List.mem_append.mp hb with hb | hb
    · simpa using htake.2.2 b hb s[p] (List.mem_singleton_self _)
    · rw [List.mem_singleton.mp hb]
      simpa using @before_self _ before _ s[p]
  calc p < (s.take (p + 1)).countP (fun b => before b s[p]) := by
        rw [hfirst]
        exact Nat.lt_succ_self p
    _ ≤ upTo before s s[p] := (List.take_sublist (p + 1) s).countP_le

/-- Where no tie is cut, the rows up to there are the same in every order. -/
lemma take_eq_filter (hs : s.Pairwise before)
    (hm : ∀ a ∈ s, upTo before s a ≤ m ∨ m ≤ ahead before s a) :
    s.take m = s.filter fun a => upTo before s a ≤ m := by
  have htake : ∀ a ∈ s.take m, upTo before s a ≤ m := by
    intro a ha
    obtain ⟨p, hp, rfl⟩ := List.mem_take_iff_getElem.mp ha
    rw [lt_min_iff] at hp
    refine (hm s[p] (List.getElem_mem hp.2)).resolve_right fun hle => ?_
    exact absurd (ahead_getElem_le hs hp.2) (not_le.mpr (lt_of_lt_of_le hp.1 hle))
  have hdrop : ∀ a ∈ s.drop m, ¬ upTo before s a ≤ m := by
    intro a ha
    obtain ⟨p, hp, rfl⟩ := List.mem_drop_iff_getElem.mp ha
    have hlt : m + p < upTo before s s[m + p] := lt_upTo_getElem hs _
    exact not_le.mpr (lt_of_le_of_lt (Nat.le_add_right m p) hlt)
  have hfilter : (s.take m ++ s.drop m).filter (fun a => decide (upTo before s a ≤ m))
      = s.take m := by
    rw [List.filter_append, List.filter_eq_self.mpr (by simpa using htake),
      List.filter_eq_nil_iff.mpr (by simpa using hdrop), List.append_nil]
  rwa [List.take_append_drop, eq_comm] at hfilter

end Positions

/-! ### Pages of different orders -/

lemma ahead_perm (h : s.Perm s') (a : Row) : ahead before s a = ahead before s' a := h.countP_eq _

lemma upTo_perm (h : s.Perm s') (a : Row) : upTo before s a = upTo before s' a := h.countP_eq _

section Orders

variable [Std.Total before]

/-- Where no page ends in a tie, a page is the same in every order. -/
lemma page_perm (hsplit : ¬ Split before limit rows) (hs : s.Pairwise before) (hrows : s.Perm rows)
    (hs' : s'.Pairwise before) (hrows' : s'.Perm rows) (k : ℕ) :
    ((s.drop (k * limit)).take limit).Perm ((s'.drop (k * limit)).take limit) := by
  have hfirst : ∀ {l : List Row}, l.Pairwise before → l.Perm rows → ∀ k : ℕ,
      l.take (k * limit) = l.filter fun a => upTo before rows a ≤ k * limit := by
    intro l hl hperm k
    rw [take_eq_filter hl fun a ha => ?_]
    · refine List.filter_congr fun a _ => ?_
      rw [upTo_perm hperm]
    · rw [upTo_perm hperm, ahead_perm hperm, ← not_lt, ← not_lt, ← not_and_or]
      exact fun h => hsplit ⟨a, hperm.mem_iff.mp ha, k, h.2, h.1⟩
  have htake : ∀ k : ℕ, (s.take (k * limit)).Perm (s'.take (k * limit)) := by
    intro k
    rw [hfirst hs hrows, hfirst hs' hrows']
    exact (hrows.trans hrows'.symm).filter _
  have hpages : ∀ l : List Row, l.take ((k + 1) * limit)
      = l.take (k * limit) ++ (l.drop (k * limit)).take limit := by
    intro l
    rw [Nat.succ_mul, List.take_add]
  have hnext := htake (k + 1)
  rw [hpages, hpages] at hnext
  exact (List.perm_append_left_iff _).mp (((htake k).symm.append_right _).trans hnext)

/-- Where no page ends in a tie, the pages are the listing. -/
lemma partition_of_not_split [IsTrans Row before] (hsplit : ¬ Split before limit rows) (f : Row → β)
    {pages : ℕ → List Row} (hpages : ∀ k, IsPage before limit (k * limit) rows (pages k)) :
    Partition limit (fun k => (pages k).map f) (rows.map f) := by
  intro n hn
  rw [List.length_map] at hn
  have hsorted := rows.pairwise_insertionSort before
  have hperm := rows.perm_insertionSort before
  have hpage : ∀ k ∈ List.range n,
      ((pages k).map f).Perm
        ((((rows.insertionSort before).drop (k * limit)).take limit).map f) := by
    intro k _
    obtain ⟨sorted, hrows, hs, hpage⟩ := hpages k
    rw [hpage]
    exact (page_perm hsplit hs hrows hsorted hperm k).map f
  refine (List.Perm.flatMap_left _ hpage).trans ?_
  rw [← List.map_flatMap, flatMap_pages, List.take_of_length_le (by rwa [hperm.length_eq])]
  exact hperm.map f

omit [Std.Total before] in
/-- The rows of a tie stand together. -/
lemma tie_of_between [IsTrans Row before] (hs : s.Pairwise before) (hp : p < s.length)
    (hahead : ahead before s a ≤ p) (hupTo : p < upTo before s a) :
    before s[p] a ∧ before a s[p] := by
  have htake := hs.sublist (List.take_sublist (p + 1) s)
  rw [List.take_succ_eq_append_getElem hp, List.pairwise_append] at htake
  have hdrop := hs.sublist (List.drop_sublist p s)
  rw [List.drop_eq_getElem_cons hp, List.pairwise_cons] at hdrop
  constructor
  · -- otherwise no row from this one on stands before `a`
    by_contra hnot
    have hrest : (s.drop p).countP (fun b => before b a) = 0 := by
      rw [List.countP_eq_zero, List.drop_eq_getElem_cons hp]
      intro b hb hba
      rw [decide_eq_true_eq] at hba
      rcases List.mem_cons.mp hb with rfl | hb
      · exact hnot hba
      · exact hnot (IsTrans.trans _ _ _ (hdrop.1 b hb) hba)
    have hcount : upTo before s a = (s.take p).countP fun b => before b a := by
      have happend : (s.take p ++ s.drop p).countP (fun b => before b a)
          = (s.take p).countP (fun b => before b a) + (s.drop p).countP fun b => before b a :=
        List.countP_append
      rwa [List.take_append_drop, hrest, Nat.add_zero] at happend
    rw [hcount] at hupTo
    exact absurd (lt_of_lt_of_le hupTo List.countP_le_length)
      (not_lt.mpr (List.length_take_le p s))
  · -- otherwise `a` can stand before no row up to this one
    by_contra hnot
    have hall : (s.take (p + 1)).countP (fun b => ¬ before a b) = p + 1 := by
      rw [List.countP_eq_length.mpr, List.length_take, min_eq_left hp]
      intro b hb
      rw [decide_eq_true_eq]
      intro hab
      rw [List.take_succ_eq_append_getElem hp] at hb
      rcases List.mem_append.mp hb with hb | hb
      · exact hnot (IsTrans.trans _ _ _ hab (htake.2.2 b hb _ (List.mem_singleton_self _)))
      · rw [List.mem_singleton.mp hb] at hab
        exact hnot hab
    have hle : p + 1 ≤ ahead before s a := by
      rw [← hall]
      exact (List.take_sublist (p + 1) s).countP_le
    exact absurd hahead (not_le.mpr hle)

omit [DecidableRel before] [Std.Total before] in
/-- Two rows that tie and stand together can be swapped. -/
lemma pairwise_swap [IsTrans Row before] {l r : List Row} {x y : Row}
    (hs : (l ++ x :: y :: r).Pairwise before) (hyx : before y x) :
    (l ++ y :: x :: r).Pairwise before := by
  simp only [List.pairwise_append, List.pairwise_cons, List.mem_cons] at hs ⊢
  obtain ⟨hl, ⟨hx, hy, hr⟩, hlr⟩ := hs
  refine ⟨hl, ⟨?_, fun b hb => hx b (.inr hb), hr⟩, ?_⟩
  · rintro b (rfl | hb)
    · exact hyx
    · exact hy b hb
  · rintro a ha b (rfl | rfl | hb)
    · exact hlr a ha _ (.inr (.inl rfl))
    · exact hlr a ha _ (.inl rfl)
    · exact hlr a ha b (.inr (.inr hb))

/-- Where a page ends in a tie, a row may come at the end of one page and the start of the next. -/
lemma not_partition_of_split [IsTrans Row before] (hlimit : 0 < limit)
    (hsplit : Split before limit rows) {f : Row → β} (hf : (rows.map f).Nodup) :
    ∃ pages : ℕ → List Row, (∀ k, IsPage before limit (k * limit) rows (pages k))
      ∧ ¬ Partition limit (fun k => (pages k).map f) (rows.map f) := by
  obtain ⟨a, -, k, hahead, hupTo⟩ := hsplit
  set s := rows.insertionSort before with hsdef
  have hs : s.Pairwise before := rows.pairwise_insertionSort before
  have hrows : s.Perm rows := rows.perm_insertionSort before
  rw [← ahead_perm hrows] at hahead
  rw [← upTo_perm hrows] at hupTo
  obtain ⟨j, rfl⟩ : ∃ j, k = j + 1 := by
    refine Nat.exists_eq_succ_of_ne_zero ?_
    rintro rfl
    rw [Nat.zero_mul] at hahead
    exact Nat.not_lt_zero _ hahead
  obtain ⟨p, hp⟩ : ∃ p, (j + 1) * limit = p + 1 :=
    Nat.exists_eq_succ_of_ne_zero (Nat.mul_ne_zero (Nat.succ_ne_zero j) hlimit.ne')
  rw [hp] at hahead hupTo
  have hlt : p + 1 < s.length := lt_of_lt_of_le hupTo List.countP_le_length
  have hlt' : p < s.length := Nat.lt_of_succ_lt hlt
  -- the last row of a page and the first one of the next tie
  have hx := tie_of_between hs hlt' (Nat.lt_succ_iff.mp hahead) (Nat.lt_of_succ_lt hupTo)
  have hy := tie_of_between hs hlt hahead.le hupTo
  have hparts : s = s.take p ++ s[p] :: s[p + 1] :: s.drop (p + 2) := by
    rw [← List.drop_eq_getElem_cons hlt, ← List.drop_eq_getElem_cons hlt', List.take_append_drop]
  set s' := s.take p ++ s[p + 1] :: s[p] :: s.drop (p + 2) with hswapdef
  have hs' : s'.Pairwise before := by
    refine pairwise_swap ?_ (IsTrans.trans _ _ _ hy.1 hx.2)
    rwa [← hparts]
  have hrows' : s'.Perm rows := by
    have hswap : s'.Perm (s.take p ++ s[p] :: s[p + 1] :: s.drop (p + 2)) :=
      (List.Perm.swap _ _ _).append_left _
    rw [← hparts] at hswap
    exact hswap.trans hrows
  have hdrop : s'.drop (p + 1) = s[p] :: s.drop (p + 2) := by
    have hlength : (s.take p).length = p := List.length_take_of_le hlt'.le
    rw [hswapdef, List.drop_append, hlength, List.drop_of_length_le (by omega),
      Nat.add_sub_cancel_left]
    rfl
  refine ⟨fun k => if k = j + 1 then (s'.drop (k * limit)).take limit
    else (s.drop (k * limit)).take limit, fun k => ?_, fun hpartition => ?_⟩
  · dsimp only
    split
    · exact ⟨s', hrows', hs', rfl⟩
    · exact ⟨s, hrows, hs, rfl⟩
  · have henough : (rows.map f).length ≤ (rows.length + (j + 2)) * limit := by
      rw [List.length_map]
      exact le_trans (Nat.le_add_right _ _) (Nat.le_mul_of_pos_right _ hlimit)
    have hnodup := (hpartition _ henough).nodup_iff.mpr hf
    have hdisjoint := List.pairwise_iff_getElem.mp (List.nodup_flatMap.mp hnodup).2 j (j + 1)
      (by rw [List.length_range]; omega) (by rw [List.length_range]; omega) (Nat.lt_succ_self j)
    simp only [List.getElem_range, Function.onFun, if_pos,
      if_neg (Nat.lt_succ_self j).ne] at hdisjoint
    have hlast : s[p] ∈ (s.drop (j * limit)).take limit := by
      rw [Nat.succ_mul] at hp
      refine List.mem_take_iff_getElem.mpr ⟨p - j * limit, ?_, ?_⟩
      · rw [List.length_drop, lt_min_iff]
        omega
      · rw [List.getElem_drop]
        congr 1
        omega
    have hfirst : s[p] ∈ (s'.drop ((j + 1) * limit)).take limit := by
      obtain ⟨l, rfl⟩ := Nat.exists_eq_succ_of_ne_zero hlimit.ne'
      rw [hp, hdrop, List.take_succ_cons]
      exact List.mem_cons_self
    exact hdisjoint (List.mem_map_of_mem hlast) (List.mem_map_of_mem hfirst)

/-- **When pages are a partition**: a listing whose rows differ to the reader is read without loss
and repetition, whatever the queries answer, if and only if no page ends among rows that tie. -/
theorem partition_iff [IsTrans Row before] (hlimit : 0 < limit) {f : Row → β}
    (hf : (rows.map f).Nodup) :
    (∀ pages : ℕ → List Row, (∀ k, IsPage before limit (k * limit) rows (pages k)) →
        Partition limit (fun k => (pages k).map f) (rows.map f))
      ↔ ¬ Split before limit rows := by
  constructor
  · intro h hsplit
    obtain ⟨pages, hpages, hnot⟩ := not_partition_of_split hlimit hsplit hf
    exact hnot (h pages hpages)
  · exact fun hsplit pages hpages => partition_of_not_split hsplit f hpages

omit [Std.Total before] in
/-- Rows that do not tie are never split. -/
lemma not_split_of_nodup (hnodup : rows.Nodup)
    (hanti : ∀ a ∈ rows, ∀ b ∈ rows, before a b → before b a → a = b) :
    ¬ Split before limit rows := by
  rintro ⟨a, ha, k, hahead, hupTo⟩
  obtain ⟨l, r, rfl⟩ := List.append_of_mem ha
  have hother : ∀ b ∈ l ++ r, before b a → ¬ before a b := by
    intro b hb hba hab
    have hmem : b ∈ l ++ a :: r := by
      rw [List.mem_append, List.mem_cons]
      exact (List.mem_append.mp hb).imp_right .inr
    obtain rfl := hanti b hmem a ha hba hab
    exact (List.nodup_cons.mp (List.nodup_middle.mp hnodup)).1 hb
  have hle : (l ++ r).countP (fun b => before b a) ≤ (l ++ r).countP fun b => ¬ before a b :=
    List.countP_mono_left fun b hb hba => by simpa using hother b hb (by simpa using hba)
  rw [List.countP_append, List.countP_append] at hle
  rw [ahead, List.countP_append, List.countP_cons] at hahead
  rw [upTo, List.countP_append, List.countP_cons] at hupTo
  split at hupTo
  · omega
  · omega

omit [Std.Total before] in
/-- Rows ordered by a column that tells them apart do not tie. -/
lemma not_split_of_nodup_map {κ : Type} [PartialOrder κ] {key : Row → κ}
    (hkey : (rows.map key).Nodup) (hbefore : ∀ a b, before a b → key a ≤ key b) :
    ¬ Split before limit rows :=
  not_split_of_nodup hkey.of_map fun a ha b hb hab hba =>
    List.inj_on_of_nodup_map hkey ha hb (le_antisymm (hbefore a b hab) (hbefore b a hba))

end Orders

end Statement
