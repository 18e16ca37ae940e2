import InduSense.Statement.Program

/-!
Handlers that claim a message before they work on it.

A message is delivered any number of times; a handler returns whether it is done with it.  To
work on it once it first takes a key, and a delivery that finds the key taken is done at once.

* `Reply`: what a dependency does with a request, short of the process dying.
* `attempts`: the runs of the deliveries of one message, one after the other.
* `NeverLost`: when an attempt reports the message done, an attempt has settled it.
* `ClaimFirst`: what such a handler does, in terms of the key and of the replies it gets.
* `Claims.Finish`: until a delivery that takes the key finishes, each delivery that is answered
  finds the key free.  `neverLost_iff` says that this is exactly when no message is lost.
-/

namespace Statement

variable {S : Signature} {ε σ δ κ : Type}

/-! ### Replies -/

/-- A dependency answers a request, or fails it, having carried it out or not. -/
inductive Reply (ε : Type) where
  | answers
  | fails (e : ε) (applied : Bool)

namespace Reply

/-- The fate of the request. -/
def fate : Reply ε → Fate ε
  | answers => .completes
  | fails e applied => .fails e applied

/-- The request is answered. -/
def ok : Reply ε → Bool
  | answers => true
  | fails _ _ => false

/-- The request is carried out. -/
def applied : Reply ε → Bool
  | answers => true
  | fails _ applied => applied

end Reply

/-! ### Attempts -/

/-- A statement of a kind was answered without an exception. -/
def Succeeded (p : S.Stmt → Prop) (l : Log S ε) : Prop := ∃ e ∈ l, p e.stmt ∧ e.answer.isOk = true

@[simp] lemma succeeded_nil (p : S.Stmt → Prop) : ¬ Succeeded p ([] : Log S ε) := by
  rintro ⟨e, he, -⟩
  cases he

@[simp] lemma succeeded_append {p : S.Stmt → Prop} {l l' : Log S ε} :
    Succeeded p (l ++ l') ↔ Succeeded p l ∨ Succeeded p l' := by
  simp only [Succeeded, List.mem_append, or_and_right, exists_or]

@[simp] lemma succeeded_cons {p : S.Stmt → Prop} {e : Entry S ε} {l : Log S ε} :
    Succeeded p (e :: l) ↔ (p e.stmt ∧ e.answer.isOk = true) ∨ Succeeded p l := by
  simp only [Succeeded, List.mem_cons, or_and_right, exists_or, exists_eq_left]

variable (deliver : σ → δ → Run S ε Bool σ)

/-- The runs of the handler on the deliveries of a message. -/
def attempts : List δ → σ → List (Run S ε Bool σ)
  | [], _ => []
  | d :: ds, s => deliver s d :: attempts ds (deliver s d).store

/-- No attempt ended in an exception or with the process. -/
def NoCrash (runs : List (Run S ε Bool σ)) : Prop := ∀ r ∈ runs, ∃ b, r.outcome = .returned b

/-- What each attempt returned, if none crashed. -/
lemma noCrash_of_outcomes {runs : List (Run S ε Bool σ)} (bs : List Bool)
    (h : runs.map Run.outcome = bs.map .returned) : NoCrash runs := by
  intro r hr
  have hmem : r.outcome ∈ bs.map .returned := h ▸ List.mem_map_of_mem hr
  obtain ⟨b, -, hb⟩ := List.mem_map.mp hmem
  exact ⟨b, hb.symm⟩

/-- If in every state that satisfies `I` a delivery ends and restores `I`, none crashes. -/
lemma noCrash_of_invariant {I : σ → Prop}
    (h : ∀ s d, I s → (∃ b, (deliver s d).outcome = .returned b) ∧ I (deliver s d).store)
    (ds : List δ) {s : σ} (hI : I s) : NoCrash (attempts deliver ds s) := by
  induction ds generalizing s with
  | nil =>
      intro r hr
      cases hr
  | cons d ds ih =>
      obtain ⟨hret, hI'⟩ := h s d hI
      intro r hr
      rcases List.mem_cons.mp hr with rfl | hr
      · exact hret
      · exact ih hI' r hr

/-- When an attempt reports the message done, it or an earlier one has settled it. -/
def NeverLost (Settled : Run S ε Bool σ → Prop) (runs : List (Run S ε Bool σ)) : Prop :=
  ∀ before r after, runs = before ++ r :: after → r.outcome = .returned true →
    ∃ r' ∈ before ++ [r], Settled r'

section Lists

variable {Settled : Run S ε Bool σ → Prop} {r : Run S ε Bool σ} {runs : List (Run S ε Bool σ)}

lemma neverLost_nil : NeverLost Settled [] := by
  intro before r after h
  simp at h

/-- What the first attempt has settled is not lost. -/
lemma neverLost_cons_of_settled (h : Settled r) : NeverLost Settled (r :: runs) := by
  intro before r' after heq _
  cases before with
  | nil => exact ⟨r, by rw [(List.cons.inj heq).1]; exact List.mem_singleton_self _, h⟩
  | cons r₀ before => exact ⟨r, by rw [(List.cons.inj heq).1]; exact List.mem_cons_self, h⟩

/-- When the first attempt has not settled it, the first must not report it done and the others
must settle it. -/
lemma neverLost_cons_of_not_settled (h : ¬ Settled r) :
    NeverLost Settled (r :: runs) ↔ r.outcome ≠ .returned true ∧ NeverLost Settled runs := by
  constructor
  · intro hlost
    refine ⟨fun hr => ?_, fun before r' after heq hr' => ?_⟩
    · obtain ⟨r', hmem, hset⟩ := hlost [] r runs rfl hr
      exact h (List.mem_singleton.mp hmem ▸ hset)
    · obtain ⟨r'', hmem, hset⟩ := hlost (r :: before) r' after (by rw [heq]; rfl) hr'
      rcases List.mem_cons.mp hmem with rfl | hmem
      · exact absurd hset h
      · exact ⟨r'', hmem, hset⟩
  · rintro ⟨hr, hrest⟩ before r' after heq hr'
    cases before with
    | nil =>
        rw [← (List.cons.inj heq).1] at hr'
        exact absurd hr' hr
    | cons r₀ before =>
        obtain ⟨r'', hmem, hset⟩ := hrest before r' after (List.cons.inj heq).2 hr'
        exact ⟨r'', List.mem_cons_of_mem _ hmem, hset⟩

end Lists

/-! ### Claiming first -/

/-- The input side of a handler that claims first: whether a delivery finds the key taken, gets an
answer for its claim, gets its work done, and what becomes of the key. -/
structure Claims (δ κ : Type) where
  taken : κ → δ → Bool
  answered : δ → Bool
  finishes : δ → Bool
  after : κ → δ → κ

/-- Until a delivery that takes the key finishes, each delivery that is answered finds it free. -/
def Claims.Finish (c : Claims δ κ) : List δ → κ → Prop
  | [], _ => True
  | d :: ds, k =>
      if c.answered d then c.taken k d = false ∧ (c.finishes d ∨ c.Finish ds (c.after k d))
      else c.Finish ds (c.after k d)

instance (c : Claims δ κ) : (ds : List δ) → (k : κ) → Decidable (c.Finish ds k)
  | [], _ => isTrue trivial
  | d :: ds, k =>
      haveI := instDecidableFinish c ds (c.after k d)
      inferInstanceAs (Decidable (if c.answered d then
        c.taken k d = false ∧ (c.finishes d ∨ c.Finish ds (c.after k d))
        else c.Finish ds (c.after k d)))

/-- The handler claims first: in a state that satisfies `I`, a delivery that does not crash holds
the message unless its claim is answered, reports it done when the key is taken, and otherwise
settles the message or holds it. -/
structure ClaimFirst (Settled : Run S ε Bool σ → Prop) (I : σ → Prop) (key : σ → κ)
    (c : Claims δ κ) : Prop where
  unanswered : ∀ {s d}, I s → c.answered d = false →
    (deliver s d).outcome = .returned false ∧ ¬ Settled (deliver s d)
      ∧ key (deliver s d).store = c.after (key s) d ∧ I (deliver s d).store
  skipped : ∀ {s d}, I s → c.answered d = true → c.taken (key s) d = true →
    (deliver s d).outcome = .returned true ∧ ¬ Settled (deliver s d)
  finished : ∀ {s d b}, I s → c.answered d = true → c.taken (key s) d = false →
    c.finishes d = true → (deliver s d).outcome = .returned b → Settled (deliver s d)
  unfinished : ∀ {s d b}, I s → c.answered d = true → c.taken (key s) d = false →
    c.finishes d = false → (deliver s d).outcome = .returned b →
    b = false ∧ ¬ Settled (deliver s d)
      ∧ key (deliver s d).store = c.after (key s) d ∧ I (deliver s d).store

/-- **When a message is never lost.** As long as nothing crashes, a message reported done has been
settled exactly when every claim that is answered while an earlier one is unfinished finds the key
free. -/
theorem neverLost_iff {Settled : Run S ε Bool σ → Prop} {I : σ → Prop} {key : σ → κ}
    {c : Claims δ κ} (h : ClaimFirst deliver Settled I key c) (ds : List δ) {s : σ} (hI : I s)
    (hcrash : NoCrash (attempts deliver ds s)) :
    NeverLost Settled (attempts deliver ds s) ↔ c.Finish ds (key s) := by
  induction ds generalizing s with
  | nil => exact iff_of_true neverLost_nil trivial
  | cons d ds ih =>
      have hrest : NoCrash (attempts deliver ds (deliver s d).store) := fun r hr =>
        hcrash r (List.mem_cons_of_mem _ hr)
      obtain ⟨b, hb⟩ := hcrash _ List.mem_cons_self
      rw [attempts, Claims.Finish]
      cases hans : c.answered d with
      | false =>
          obtain ⟨hout, hset, hkey, hI'⟩ := h.unanswered hI hans
          rw [neverLost_cons_of_not_settled hset, ih hI' hrest, hkey, hout]
          simp
      | true =>
          rw [if_pos rfl]
          cases htaken : c.taken (key s) d with
          | true =>
              obtain ⟨hout, hset⟩ := h.skipped hI hans htaken
              rw [neverLost_cons_of_not_settled hset, hout]
              simp
          | false =>
              cases hfin : c.finishes d with
              | true =>
                  refine iff_of_true ?_ ⟨rfl, .inl rfl⟩
                  exact neverLost_cons_of_settled (h.finished hI hans htaken hfin hb)
              | false =>
                  obtain ⟨rfl, hset, hkey, hI'⟩ := h.unfinished hI hans htaken hfin hb
                  rw [neverLost_cons_of_not_settled hset, ih hI' hrest, hkey, hb]
                  simp

end Statement
