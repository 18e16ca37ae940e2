import Mathlib.Tactic

/-!
Handlers for which a second delivery of the same thing is no step.

* `firsts`: a sequence of deliveries without those whose key has occurred before.
* `Idempotent`: a handler that remembers the keys it has handled, and for which a delivery of a
  remembered key changes nothing of what is observed.
* `Idempotent.foldl_firsts`: what is observed after a sequence is what is observed after its first
  deliveries alone.
-/

namespace Statement

variable {σ τ δ κ : Type} [DecidableEq κ]

/-- A sequence without the deliveries whose key is in `known` or has occurred before; a delivery
without a key stays. -/
def firstsAfter (key : δ → Option κ) (known : List κ) : List δ → List δ
  | [] => []
  | d :: ds =>
      match key d with
      | none => d :: firstsAfter key known ds
      | some k =>
          if k ∈ known then firstsAfter key known ds else d :: firstsAfter key (k :: known) ds

/-- The first deliveries of a sequence. -/
def firsts (key : δ → Option κ) (ds : List δ) : List δ := firstsAfter key [] ds

/-- A handler `step` that remembers the keys it has handled: `handled k s` says that `k` is
remembered in `s`, and `view` is what is observed of a store. -/
structure Idempotent (step : σ → δ → σ) (key : δ → Option κ) (handled : κ → σ → Prop)
    (view : σ → τ) : Prop where
  /-- What is observed of a step depends on what is observed before it. -/
  congr : ∀ {s s' : σ} (d : δ), view s = view s' → view (step s d) = view (step s' d)
  /-- A handled key stays handled. -/
  keeps : ∀ {k : κ} {s : σ} (d : δ), handled k s → handled k (step s d)
  /-- The key of a delivery is handled after it. -/
  handles : ∀ {k : κ} (s : σ) {d : δ}, key d = some k → handled k (step s d)
  /-- A delivery of a handled key is no step. -/
  silent : ∀ {k : κ} {s : σ} {d : δ}, key d = some k → handled k s → view (step s d) = view s

namespace Idempotent

variable {step : σ → δ → σ} {key : δ → Option κ} {handled : κ → σ → Prop} {view : σ → τ}

omit [DecidableEq κ] in
/-- What is observed of a whole sequence depends on what is observed before it. -/
lemma foldl_congr (h : Idempotent step key handled view) (ds : List δ) {s s' : σ}
    (hs : view s = view s') : view (ds.foldl step s) = view (ds.foldl step s') := by
  induction ds generalizing s s' with
  | nil => exact hs
  | cons d ds ih => exact ih (h.congr d hs)

/-- The deliveries of known keys add nothing, from any store in which they are handled. -/
lemma foldl_firstsAfter (h : Idempotent step key handled view) (ds : List δ) {known : List κ}
    {s : σ} (hknown : ∀ k ∈ known, handled k s) :
    view (ds.foldl step s) = view ((firstsAfter key known ds).foldl step s) := by
  induction ds generalizing known s with
  | nil => rfl
  | cons d ds ih =>
      have hkeeps : ∀ k ∈ known, handled k (step s d) := fun k hk => h.keeps d (hknown k hk)
      rw [List.foldl_cons, firstsAfter]
      cases hkey : key d with
      | none => exact ih hkeeps
      | some k =>
          dsimp only
          split
          · -- a duplicate: the store before it already shows what the one after it does
            rename_i hk
            calc view (ds.foldl step (step s d))
                = view (ds.foldl step s) := h.foldl_congr ds (h.silent hkey (hknown k hk))
              _ = view ((firstsAfter key known ds).foldl step s) := ih hknown
          · refine ih fun k' hk' => ?_
            rcases List.mem_cons.mp hk' with rfl | hk'
            · exact h.handles s hkey
            · exact hkeeps k' hk'

/-- **Duplicates add nothing**: a sequence of deliveries shows what its first deliveries show. -/
theorem foldl_firsts (h : Idempotent step key handled view) (ds : List δ) (s : σ) :
    view (ds.foldl step s) = view ((firsts key ds).foldl step s) :=
  h.foldl_firstsAfter ds fun k hk => by cases hk

end Idempotent

end Statement
