import Mathlib.Tactic

/-!
Counters with an expiry, as Redis keeps them.

* `Counters`, `incr`, `expire`: the commands; a key is gone once its time is over.
* `countUp`: a count that sets the expiry of its key at the first increment.
* `Short`: no key is hit later than its expiry after an earlier hit.
* `counterOf_afterHits`, `count_countUp`: over such hits every count is the number of the hits of
  its key, and no key is gone in between.
-/

namespace InduSense

/-- A counter, and the last instant at which it exists. -/
structure Counter where
  value : ℕ
  expiresAt : Option ℕ
  deriving DecidableEq

/-- What a server stores under its keys, gone or not. -/
abbrev Counters (K : Type) := K → Option Counter

namespace Counters

variable {K : Type} [DecidableEq K]

/-- No key. -/
def empty : Counters K := fun _ => none

/-- The counter of a key, if it is not gone. -/
def live (s : Counters K) (now : ℕ) (key : K) : Option Counter :=
  (s key).filter fun c => c.expiresAt.all fun t => now ≤ t

/-- `INCR key`. -/
def incr (s : Counters K) (now : ℕ) (key : K) : ℕ × Counters K :=
  match s.live now key with
  | none => (1, Function.update s key (some ⟨1, none⟩))
  | some c => (c.value + 1, Function.update s key (some ⟨c.value + 1, c.expiresAt⟩))

/-- `EXPIRE key ttl`; no time at all deletes the key. -/
def expire (s : Counters K) (now : ℕ) (key : K) (ttl : ℕ) : Counters K :=
  if ttl = 0 then Function.update s key none
  else match s.live now key with
    | none => s
    | some c => Function.update s key (some ⟨c.value, some (now + ttl)⟩)

/-- An increment that sets the expiry of its key if it is the first one. -/
def countUp (s : Counters K) (ttl now : ℕ) (key : K) : ℕ × Counters K :=
  let (count, s) := s.incr now key
  if count = 1 then (count, s.expire now key ttl) else (count, s)

/-- The counters after hits of keys at instants. -/
def afterHits (ttl : ℕ) (hits : List (K × ℕ)) : Counters K :=
  hits.foldl (fun s hit => (s.countUp ttl hit.2 hit.1).2) empty

/-- A hit comes no later than the expiry after an earlier one of its key. -/
def Short (ttl : ℕ) (hits : List (K × ℕ)) : Prop :=
  hits.Pairwise fun a b => a.1 = b.1 → b.2 ≤ a.2 + ttl

/-- The counter of a key is that of its hits, and lasts from the first of them. -/
def CounterOf (ttl : ℕ) : List (K × ℕ) → Option Counter → Prop
  | [], c => c = none
  | first :: rest, c => c = some ⟨rest.length + 1, some (first.2 + ttl)⟩

variable {ttl now : ℕ} {key : K} {s : Counters K} {hits : List (K × ℕ)}

/-- A hit of a key that has none yet. -/
lemma countUp_of_none (httl : 0 < ttl) (h : s key = none) :
    s.countUp ttl now key = (1, Function.update s key (some ⟨1, some (now + ttl)⟩)) := by
  have hincr : s.incr now key = (1, Function.update s key (some ⟨1, none⟩)) := by
    rw [incr, live, h, Option.filter_none]
  have hlive : live (Function.update s key (some ⟨1, none⟩)) now key = some ⟨1, none⟩ := by
    rw [live, Function.update_self]
    rfl
  rw [countUp, hincr]
  dsimp only
  rw [if_pos rfl, expire, if_neg httl.ne', hlive]
  dsimp only
  rw [Function.update_idem]

/-- A hit of a key whose counter lasts. -/
lemma countUp_of_some {count expiresAt : ℕ} (hcount : 1 ≤ count) (hlast : now ≤ expiresAt)
    (h : s key = some ⟨count, some expiresAt⟩) :
    s.countUp ttl now key
      = (count + 1, Function.update s key (some ⟨count + 1, some expiresAt⟩)) := by
  have hlive : s.live now key = some ⟨count, some expiresAt⟩ := by
    rw [live, h, Option.filter_some, if_pos]
    exact decide_eq_true hlast
  rw [countUp, incr, hlive]
  dsimp only
  rw [if_neg (by omega)]

/-- What one hit does to its own counter, and that it leaves the others. -/
lemma countUp_of_counterOf (httl : 0 < ttl) (h : CounterOf ttl hits (s key))
    (hlast : ∀ hit ∈ hits, now ≤ hit.2 + ttl) :
    (s.countUp ttl now key).1 = hits.length + 1
      ∧ CounterOf ttl (hits ++ [(key, now)]) ((s.countUp ttl now key).2 key)
      ∧ ∀ key', key' ≠ key → (s.countUp ttl now key).2 key' = s key' := by
  cases hits with
  | nil =>
      rw [countUp_of_none httl h]
      exact ⟨rfl, Function.update_self .., fun key' hne => Function.update_of_ne hne ..⟩
  | cons first rest =>
      rw [countUp_of_some (Nat.le_add_left 1 _) (hlast first (.head _)) h]
      refine ⟨rfl, ?_, fun key' hne => Function.update_of_ne hne ..⟩
      show Function.update s key _ key
        = some ⟨(rest ++ [(key, now)]).length + 1, some (first.2 + ttl)⟩
      rw [Function.update_self, List.length_append, List.length_singleton]

lemma afterHits_append (ttl : ℕ) (hits : List (K × ℕ)) (hit : K × ℕ) :
    afterHits ttl (hits ++ [hit]) = ((afterHits ttl hits).countUp ttl hit.2 hit.1).2 := by
  rw [afterHits, List.foldl_append, List.foldl_cons, List.foldl_nil, afterHits]

/-- A hit that keeps the hits short comes before the expiry of its counter. -/
lemma Short.le_of_append {hit : K × ℕ} (h : Short ttl (hits ++ [hit])) :
    ∀ earlier ∈ hits.filter fun earlier => earlier.1 = hit.1, hit.2 ≤ earlier.2 + ttl := by
  intro earlier hmem
  obtain ⟨hmem, hkey⟩ := List.mem_filter.mp hmem
  exact (List.pairwise_append.mp h).2.2 earlier hmem hit (List.mem_singleton_self hit)
    (of_decide_eq_true hkey)

/-- **What the server stores**: for each key the number of its hits, from the first one on. -/
theorem counterOf_afterHits (httl : 0 < ttl) (hshort : Short ttl hits) (key : K) :
    CounterOf ttl (hits.filter fun hit => hit.1 = key) (afterHits ttl hits key) := by
  induction hits using List.reverseRecOn generalizing key with
  | nil => rfl
  | append_singleton hits hit ih =>
      have hprev := ih (List.pairwise_append.mp hshort).1
      obtain ⟨-, hown, hothers⟩ :=
        countUp_of_counterOf httl (hprev hit.1) (Short.le_of_append hshort)
      rw [afterHits_append, List.filter_append]
      by_cases hkey : hit.1 = key
      · have hone : ([hit].filter fun hit => hit.1 = key) = [hit] :=
          List.filter_cons_of_pos (decide_eq_true hkey)
        rw [hone, ← hkey]
        exact hown
      · rw [List.filter_cons_of_neg (by rwa [decide_eq_true_iff]), List.filter_nil,
          List.append_nil, hothers key (Ne.symm hkey)]
        exact hprev key

/-- **Every count is right**: it is the number of the hits of its key. -/
theorem count_countUp (httl : 0 < ttl) {hit : K × ℕ} (hshort : Short ttl (hits ++ [hit])) :
    ((afterHits ttl hits).countUp ttl hit.2 hit.1).1
      = (hits.filter fun earlier => earlier.1 = hit.1).length + 1 :=
  (countUp_of_counterOf httl (counterOf_afterHits httl (List.pairwise_append.mp hshort).1 hit.1)
    hshort.le_of_append).1

/-- The counter of a key exists as long as its first hit lets it. -/
lemma live_afterHits (httl : 0 < ttl) (hshort : Short ttl hits) (key : K)
    (hlast : ∀ hit ∈ hits, hit.1 = key → now ≤ hit.2 + ttl) :
    ((afterHits ttl hits).live now key).elim 0 Counter.value
      = (hits.filter fun hit => hit.1 = key).length := by
  have h := counterOf_afterHits httl hshort key
  cases hfilter : hits.filter fun hit => hit.1 = key with
  | nil =>
      rw [hfilter] at h
      rw [live, show afterHits ttl hits key = none from h]
      rfl
  | cons first rest =>
      rw [hfilter] at h
      have hfirst : first ∈ hits.filter fun hit => hit.1 = key := hfilter ▸ .head rest
      obtain ⟨hmem, hkey⟩ := List.mem_filter.mp hfirst
      rw [live, show afterHits ttl hits key = some ⟨rest.length + 1, some (first.2 + ttl)⟩ from h,
        Option.filter_some, if_pos]
      · rfl
      · exact decide_eq_true (hlast first hmem (of_decide_eq_true hkey))

end Counters

end InduSense
