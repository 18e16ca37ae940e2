import InduSense.Statement.Guarantee

/-!
Programs that are cut off before one of their statements.

* `Prog.cut`: the statement that a crash comes before, and the store at that point; `run_crashAt`:
  the run with that crash.
* `Prog.Through`: the program returns, and each of its statements meets a condition with the store
  before it; one rule for each construct.
* `Prog.Keeps`: a property of the store that holds wherever the program is cut off.
* `Prog.forEach`, `Prog.collect`: the loops over a list, with their rules.
-/

namespace Statement

variable {S : Signature} {ε α β κ σ : Type}

namespace Prog

variable (x : Exec S ε σ)

/-- The statement number `n` and the store before it, if the program gets that far. -/
def cut : ℕ → Prog S ε α → σ → Option (S.Stmt × σ)
  | _, ret _, _ => none
  | _, raise _, _ => none
  | 0, call c _, s => some (c, s)
  | n + 1, call c k, s => cut n (k (x c s).1) (x c s).2

@[simp] lemma cut_ret (n : ℕ) (a : α) (s : σ) : cut x n (ret a : Prog S ε α) s = none := by
  cases n <;> rfl

@[simp] lemma cut_raise (n : ℕ) (e : ε) (s : σ) : cut x n (raise e : Prog S ε α) s = none := by
  cases n <;> rfl

/-- The run that crashes before statement number `n` leaves the store at that point, or the one the
program leaves if it does not get that far. -/
lemma run_crashAt (p : Prog S ε α) (n : ℕ) (l : Log S ε) (s : σ) :
    (p.run x (crashAt (l.length + n)) l s).store =
      match cut x n p s with
      | some (_, s') => s'
      | none => (p.eval x s).2 := by
  induction p generalizing n l s with
  | ret a => rw [cut_ret, run_ret, eval_ret]
  | raise e => rw [cut_raise, run_raise, eval_raise]
  | call c k ih =>
      rw [run_call, crashAt]
      cases n with
      | zero =>
          rw [if_pos (Nat.add_zero _).symm]
          rfl
      | succ n =>
          rw [if_neg (by omega)]
          have hlen : l.length + (n + 1) = (l ++ [⟨c, (x c s).1⟩] : Log S ε).length + n := by
            rw [List.length_append, List.length_singleton]
            omega
          rw [hlen]
          exact ih _ n _ _

/-! ### Programs that run through -/

variable (C : S.Stmt → σ → Prop)

/-- The program returns a value and leaves a store that satisfy `Q`, and each statement it issues
satisfies `C` with the store before it. -/
def Through (Q : α → σ → Prop) : Prog S ε α → σ → Prop
  | ret a, s => Q a s
  | raise _, _ => False
  | call c k, s => C c s ∧ Through Q (k (x c s).1) (x c s).2

variable {x C}

@[simp] lemma through_ret (Q : α → σ → Prop) (a : α) (s : σ) :
    Through x C Q (ret a : Prog S ε α) s ↔ Q a s := Iff.rfl

/-- The rule of consequence. -/
lemma Through.mono {Q Q' : α → σ → Prop} (hQ : ∀ a s, Q a s → Q' a s) {p : Prog S ε α} {s : σ}
    (h : Through x C Q p s) : Through x C Q' p s := by
  induction p generalizing s with
  | ret a => exact hQ _ _ h
  | raise e => exact h
  | call c k ih => exact ⟨h.1, ih _ h.2⟩

/-- The rule for a sequence. -/
lemma Through.bind {Q₁ : α → σ → Prop} {Q : β → σ → Prop} {p : Prog S ε α} {f : α → Prog S ε β}
    {s : σ} (h : Through x C Q₁ p s) (hf : ∀ a s', Q₁ a s' → Through x C Q (f a) s') :
    Through x C Q (p.bind f) s := by
  induction p generalizing s with
  | ret a => exact hf _ _ h
  | raise e => exact h.elim
  | call c k ih => exact ⟨h.1, ih _ h.2⟩

/-- The rule for one statement and what is done with its answer. -/
lemma through_issue_bind {Q : α → σ → Prop} {c : S.Stmt} {k : S.Answer c → Prog S ε α}
    {a : S.Answer c} {s s' : σ} (hC : C c s) (hx : x c s = (.ok a, s'))
    (hk : Through x C Q (k a) s') : Through x C Q ((issue c).bind k) s := by
  refine ⟨hC, ?_⟩
  rw [hx]
  exact hk

/-- The rule for one statement. -/
lemma through_issue {c : S.Stmt} {Q : S.Answer c → σ → Prop} {a : S.Answer c} {s s' : σ}
    (hC : C c s) (hx : x c s = (.ok a, s')) (hQ : Q a s') :
    Through x C Q (issue c : Prog S ε _) s := by
  rw [← bind_ret (issue c)]
  exact through_issue_bind hC hx hQ

/-- The rule for `try`, where nothing is raised. -/
lemma Through.attempt {Q : α → σ → Prop} {p : Prog S ε α} {s : σ} (h : Through x C Q p s) :
    Through x C (fun r s' => ∃ a, r = .ok a ∧ Q a s') p.attempt s := by
  induction p generalizing s with
  | ret a => exact ⟨a, rfl, h⟩
  | raise e => exact h.elim
  | call c k ih => exact ⟨h.1, ih _ h.2⟩

/-- A program that is cut off meets `C` there. -/
lemma Through.cut {Q : α → σ → Prop} {p : Prog S ε α} {s : σ} (h : Through x C Q p s) {n : ℕ}
    {c : S.Stmt} {s' : σ} (hcut : p.cut x n s = some (c, s')) : C c s' := by
  induction p generalizing n s with
  | ret a =>
      rw [cut_ret] at hcut
      cases hcut
  | raise e => exact h.elim
  | call c' k ih =>
      cases n with
      | zero =>
          cases hcut
          exact h.1
      | succ n => exact ih _ h.2 hcut

/-- A program that is not cut off returns. -/
lemma Through.eval {Q : α → σ → Prop} {p : Prog S ε α} {s : σ} (h : Through x C Q p s) :
    ∃ a s', p.eval x s = (.ok a, s') ∧ Q a s' := by
  induction p generalizing s with
  | ret a => exact ⟨a, s, rfl, h⟩
  | raise e => exact h.elim
  | call c k ih => exact ih _ h.2

/-! ### What holds at each cut -/

/-- `I` holds of the store before each statement, and of the one the program leaves. -/
def Keeps (x : Exec S ε σ) (I : σ → Prop) : Prog S ε α → σ → Prop
  | ret _, s => I s
  | raise _, s => I s
  | call c k, s => I s ∧ Keeps x I (k (x c s).1) (x c s).2

variable {I J : σ → Prop}

@[simp] lemma keeps_ret (a : α) (s : σ) : Keeps x I (ret a : Prog S ε α) s ↔ I s := Iff.rfl

@[simp] lemma keeps_raise (e : ε) (s : σ) : Keeps x I (raise e : Prog S ε α) s ↔ I s := Iff.rfl

/-- The rule of consequence. -/
lemma Keeps.mono (hIJ : ∀ s, I s → J s) {p : Prog S ε α} {s : σ} (h : Keeps x I p s) :
    Keeps x J p s := by
  induction p generalizing s with
  | ret a => exact hIJ _ h
  | raise e => exact hIJ _ h
  | call c k ih => exact ⟨hIJ _ h.1, ih _ h.2⟩

lemma Keeps.cut {p : Prog S ε α} {s : σ} (h : Keeps x I p s) {n : ℕ} {c : S.Stmt} {s' : σ}
    (hcut : p.cut x n s = some (c, s')) : I s' := by
  induction p generalizing n s with
  | ret a =>
      rw [cut_ret] at hcut
      cases hcut
  | raise e =>
      rw [cut_raise] at hcut
      cases hcut
  | call c' k ih =>
      cases n with
      | zero =>
          cases hcut
          exact h.1
      | succ n => exact ih _ h.2 hcut

lemma Keeps.eval {p : Prog S ε α} {s : σ} (h : Keeps x I p s) : I (p.eval x s).2 := by
  induction p generalizing s with
  | ret a => exact h
  | raise e => exact h
  | call c k ih => exact ih _ h.2

/-- Whether the program is cut off or not. -/
lemma Keeps.run_crashAt {p : Prog S ε α} {s : σ} (h : Keeps x I p s) (n : ℕ) :
    I (p.run x (crashAt n) [] s).store := by
  have hrun := Prog.run_crashAt x p n [] s
  rw [List.length_nil, Nat.zero_add] at hrun
  rw [hrun]
  cases hcut : p.cut x n s with
  | none => exact h.eval
  | some cut => exact h.cut hcut

/-- The rule for a sequence. -/
lemma Keeps.bind {p : Prog S ε α} {f : α → Prog S ε β} {s : σ} (h : Keeps x I p s)
    (hf : ∀ a s', I s' → Keeps x I (f a) s') : Keeps x I (p.bind f) s := by
  induction p generalizing s with
  | ret a => exact hf a s h
  | raise e => exact h
  | call c k ih => exact ⟨h.1, ih _ h.2⟩

/-- The rule for one statement and what is done with its answer: it is refused, or the rest
follows. -/
lemma keeps_issue_bind {c : S.Stmt} {k : S.Answer c → Prog S ε α} {s : σ} (hI : I s)
    (herr : ∀ e s', x c s = (.error e, s') → I s')
    (hok : ∀ a s', x c s = (.ok a, s') → Keeps x I (k a) s') : Keeps x I ((issue c).bind k) s := by
  refine ⟨hI, ?_⟩
  cases hx : x c s with
  | mk r s' =>
      cases r with
      | ok a => exact hok a s' hx
      | error e => exact herr e s' hx

/-- The rule for one statement whose answer is known. -/
lemma keeps_answer_bind {c : S.Stmt} {k : S.Answer c → Prog S ε α} {a : S.Answer c} {s s' : σ}
    (hI : I s) (hx : x c s = (.ok a, s')) (hk : Keeps x I (k a) s') :
    Keeps x I ((issue c).bind k) s := by
  refine keeps_issue_bind hI (fun e s'' h => ?_) fun b s'' h => ?_
  · rw [hx] at h
    cases h
  · rw [hx] at h
    cases h
    exact hk

/-- The rule for a part of a program whose statements preserve a stronger property. -/
lemma keeps_bind_of_ensures {P : S.Stmt → Prop} (hJ : ∀ c s, P c → J s → J (x c s).2)
    (hJI : ∀ s, J s → I s) {p : Prog S ε α} {f : α → Prog S ε β}
    (hp : Ensures (fun _ c => P c) p) {s : σ} (h : J s) (hf : ∀ a s', J s' → Keeps x I (f a) s') :
    Keeps x I (p.bind f) s := by
  suffices ∀ l, Follows (fun _ c => P c) (fun _ _ => True) p l → Keeps x I (p.bind f) s from
    this [] (hp [])
  clear hp
  induction p generalizing s with
  | ret a => exact fun _ _ => hf a s h
  | raise e => exact fun _ _ => hJI s h
  | call c k ih =>
      exact fun l hfollows => ⟨hJI s h, ih _ (hJ c s hfollows.1 h) _ (hfollows.2 _)⟩

/-- The rule for a program whose statements preserve the property. -/
lemma keeps_of_ensures {P : S.Stmt → Prop} (hI : ∀ c s, P c → I s → I (x c s).2)
    {p : Prog S ε α} (hp : Ensures (fun _ c => P c) p) {s : σ} (h : I s) : Keeps x I p s := by
  rw [← bind_ret p]
  exact keeps_bind_of_ensures hI (fun _ hs => hs) hp h fun _ _ hs => hs

/-! ### Loops -/

/-- `for a in xs`. -/
def forEach (body : α → Prog S ε Unit) : List α → Prog S ε Unit
  | [] => ret ()
  | a :: xs => (body a).bind fun _ => forEach body xs

/-- `for a in xs: d[a] = …`, the dictionary as a list of its items. -/
def collect (body : κ → Prog S ε β) : List κ → Prog S ε (List (κ × β))
  | [] => ret []
  | a :: xs => (body a).bind fun b => (collect body xs).bind fun rest => ret ((a, b) :: rest)

lemma bind_bind (p : Prog S ε α) (f : α → Prog S ε β) {γ : Type} (g : β → Prog S ε γ) :
    (p.bind f).bind g = p.bind fun a => (f a).bind g := by
  induction p with
  | ret a => rfl
  | raise e => rfl
  | call c k ih => exact congrArg (call c) (funext fun r => ih r)

lemma forEach_append (body : α → Prog S ε Unit) (xs ys : List α) :
    forEach body (xs ++ ys) = (forEach body xs).bind fun _ => forEach body ys := by
  induction xs with
  | nil => rfl
  | cons a xs ih =>
      rw [List.cons_append, forEach, forEach, bind_bind, ih]

lemma forEach_map (body : β → Prog S ε Unit) (f : α → β) (xs : List α) :
    forEach body (xs.map f) = forEach (fun a => body (f a)) xs := by
  induction xs with
  | nil => rfl
  | cons a xs ih => rw [List.map_cons, forEach, forEach, ih]

/-- A loop in a loop is one over the pairs. -/
lemma forEach_forEach (body : κ → α → Prog S ε Unit) (f : κ → List α) (xs : List κ) :
    forEach (fun k => forEach (body k) (f k)) xs
      = forEach (fun pair => body pair.1 pair.2) (xs.flatMap fun k => (f k).map (k, ·)) := by
  induction xs with
  | nil => rfl
  | cons k xs ih => rw [List.flatMap_cons, forEach_append, forEach_map, forEach, ih]

lemma ensures_forEach {Q : Log S ε → S.Stmt → Prop} {body : α → Prog S ε Unit}
    (h : ∀ a, Ensures Q (body a)) (xs : List α) : Ensures Q (forEach body xs) := by
  induction xs with
  | nil => exact ensures_ret _
  | cons a xs ih => exact ensures_bind (h a) fun _ => ih

lemma ensures_collect {Q : Log S ε → S.Stmt → Prop} {body : κ → Prog S ε β}
    (h : ∀ a, Ensures Q (body a)) (xs : List κ) : Ensures Q (collect body xs) := by
  induction xs with
  | nil => exact ensures_ret _
  | cons a xs ih => exact ensures_bind (h a) fun _ => ensures_bind ih fun _ => ensures_ret _

/-- The rule for a loop: `I` says how far it has come. -/
lemma through_forEach {I : List α → σ → Prop} {body : α → Prog S ε Unit} {xs : List α}
    (hbody : ∀ done a rest s, xs = done ++ a :: rest → I done s →
      Through x C (fun _ s' => I (done ++ [a]) s') (body a) s) {s : σ} (h : I [] s) :
    Through x C (fun _ s' => I xs s') (forEach body xs) s := by
  suffices ∀ rest done s, xs = done ++ rest → I done s →
      Through x C (fun _ s' => I xs s') (forEach body rest) s from this xs [] s rfl h
  intro rest
  induction rest with
  | nil =>
      intro done s hxs hI
      rw [hxs, List.append_nil]
      exact hI
  | cons a rest ih =>
      intro done s hxs hI
      refine (hbody done a rest s hxs hI).bind fun _ s' hI' => ?_
      exact ih (done ++ [a]) s' (by rw [hxs, List.append_assoc]; rfl) hI'

/-- The rule for a loop that fills a dictionary. -/
lemma through_collect {I : List (κ × β) → σ → Prop} {body : κ → Prog S ε β} {xs : List κ}
    (hbody : ∀ done a rest s, xs = done.map Prod.fst ++ a :: rest → I done s →
      Through x C (fun b s' => I (done ++ [(a, b)]) s') (body a) s) {s : σ} (h : I [] s) :
    Through x C (fun dict s' => dict.map Prod.fst = xs ∧ I dict s') (collect body xs) s := by
  suffices ∀ rest done s, xs = done.map Prod.fst ++ rest → I done s →
      Through x C (fun dict s' => dict.map Prod.fst = rest ∧ I (done ++ dict) s')
        (collect body rest) s from this xs [] s rfl h
  intro rest
  induction rest with
  | nil =>
      intro done s hxs hI
      refine ⟨rfl, ?_⟩
      rwa [List.append_nil]
  | cons a rest ih =>
      intro done s hxs hI
      refine (hbody done a rest s hxs hI).bind fun b s' hI' => ?_
      have hxs' : xs = (done ++ [(a, b)]).map Prod.fst ++ rest := by
        rw [hxs, List.map_append, List.append_assoc]
        rfl
      refine (ih (done ++ [(a, b)]) s' hxs' hI').bind fun dict s'' hdict => ?_
      refine ⟨congrArg (a :: ·) hdict.1, ?_⟩
      rw [List.append_cons]
      exact hdict.2

end Prog

end Statement
