import InduSense.Statement.Program

/-!
What a program guarantees of the statements it issues, whatever answers it gets.

* `Prog.Follows`: a guarantee on each statement, from the log before it, and on the end; with one
  rule for each construct.
* `Prog.Ensures`: a guarantee on the statements alone, wherever the program starts.
* `Prog.FollowsIn`: the same where only some answers are given, such as those a store can give
  (`Prog.Possible`); `FollowsIn.transport`: a guarantee proved from one log, used from another.
* `Prog.Lawful`: a log each of whose statements satisfies a guarantee with the log before it.
* `ExtendedBy`, `follows_bind_of_ensures`: parts of a program whose statements add nothing to what
  the guarantee looks at.
* `eval_of_ensures`, `eval_congr_of_ensures`, `run_of_ensures`: what follows for its runs.
-/

namespace Statement

variable {S : Signature} {ε α β σ : Type}

namespace Prog

/-- Whatever answers the program gets, each statement it issues satisfies `Q` with the log
before it, and its end satisfies `R` with the whole log. -/
def Follows (Q : Log S ε → S.Stmt → Prop) (R : Log S ε → Except ε α → Prop) :
    Prog S ε α → Log S ε → Prop
  | ret a, l => R l (.ok a)
  | raise e, l => R l (.error e)
  | call c k, l => Q l c ∧ ∀ r, Follows Q R (k r) (l ++ [⟨c, r⟩])

variable {Q : Log S ε → S.Stmt → Prop}

@[simp] lemma follows_ret (R : Log S ε → Except ε α → Prop) (a : α) (l : Log S ε) :
    Follows Q R (ret a) l ↔ R l (.ok a) := Iff.rfl

@[simp] lemma follows_raise (R : Log S ε → Except ε α → Prop) (e : ε) (l : Log S ε) :
    Follows Q R (raise e) l ↔ R l (.error e) := Iff.rfl

@[simp] lemma follows_call (R : Log S ε → Except ε α → Prop) (c : S.Stmt)
    (k : Except ε (S.Answer c) → Prog S ε α) (l : Log S ε) :
    Follows Q R (call c k) l ↔ Q l c ∧ ∀ r, Follows Q R (k r) (l ++ [⟨c, r⟩]) := Iff.rfl

/-- The rule for one statement. -/
lemma follows_issue {c : S.Stmt} {R : Log S ε → Except ε (S.Answer c) → Prop} {l : Log S ε}
    (hQ : Q l c) (hR : ∀ r, R (l ++ [⟨c, r⟩]) r) : Follows Q R (issue c) l := by
  refine ⟨hQ, fun r => ?_⟩
  cases r with
  | ok a => exact hR (.ok a)
  | error e => exact hR (.error e)

/-- The rule for one statement and what is done with its answer. -/
lemma follows_issue_bind {c : S.Stmt} {f : S.Answer c → Prog S ε β}
    {R : Log S ε → Except ε β → Prop} {l : Log S ε} (hQ : Q l c)
    (hok : ∀ a, Follows Q R (f a) (l ++ [⟨c, .ok a⟩]))
    (herr : ∀ e, R (l ++ [⟨c, .error e⟩]) (.error e)) : Follows Q R ((issue c).bind f) l := by
  refine ⟨hQ, fun r => ?_⟩
  cases r with
  | ok a => exact hok a
  | error e => exact herr e

/-- The rule of consequence. -/
lemma Follows.mono {R R' : Log S ε → Except ε α → Prop} (hR : ∀ l r, R l r → R' l r)
    {p : Prog S ε α} {l : Log S ε} (h : Follows Q R p l) : Follows Q R' p l := by
  induction p generalizing l with
  | ret a => exact hR _ _ h
  | raise e => exact hR _ _ h
  | call c k ih => exact ⟨h.1, fun r => ih r (h.2 r)⟩

/-- The rule for a sequence. -/
lemma follows_bind {R : Log S ε → Except ε β → Prop} {p : Prog S ε α} {f : α → Prog S ε β}
    {l : Log S ε}
    (h : Follows Q (fun l' r => match r with
      | .ok a => Follows Q R (f a) l'
      | .error e => R l' (.error e)) p l) :
    Follows Q R (p.bind f) l := by
  induction p generalizing l with
  | ret a => exact h
  | raise e => exact h
  | call c k ih => exact ⟨h.1, fun r => ih r (h.2 r)⟩

/-- The rule for `try`. -/
lemma follows_attempt {R : Log S ε → Except ε (Except ε α) → Prop} {p : Prog S ε α}
    {l : Log S ε} (h : Follows Q (fun l' r => R l' (.ok r)) p l) : Follows Q R p.attempt l := by
  induction p generalizing l with
  | ret a => exact h
  | raise e => exact h
  | call c k ih => exact ⟨h.1, fun r => ih r (h.2 r)⟩

/-- A log is only ever extended. -/
lemma Follows.extends {R : Log S ε → Except ε α → Prop} {p : Prog S ε α} {l : Log S ε}
    (h : Follows Q R p l) : Follows Q (fun l' r => R l' r ∧ l <+: l') p l := by
  suffices ∀ l₀, l₀ <+: l → Follows Q (fun l' r => R l' r ∧ l₀ <+: l') p l from
    this l (List.prefix_refl l)
  induction p generalizing l with
  | ret a => exact fun l₀ hl => ⟨h, hl⟩
  | raise e => exact fun l₀ hl => ⟨h, hl⟩
  | call c k ih =>
      exact fun l₀ hl => ⟨h.1, fun r => ih r (h.2 r) l₀ (hl.trans (List.prefix_append _ _))⟩

/-- What a program that follows a guarantee has logged when it raises. -/
lemma Follows.raised {x : Exec S ε σ} {env : Env S ε} {R : Log S ε → Except ε α → Prop}
    {p : Prog S ε α} {l : Log S ε} (h : Follows Q R p l) {s : σ} {e : ε}
    (hraised : (p.run x env l s).outcome = .raised e) : R (p.run x env l s).log (.error e) := by
  induction p generalizing l s with
  | ret a => cases hraised
  | raise e' =>
      cases hraised
      exact h
  | call c k ih =>
      rw [run_call] at hraised ⊢
      cases henv : env l c with
      | completes =>
          rw [henv] at hraised
          exact ih _ (h.2 _) hraised
      | fails e' applied =>
          rw [henv] at hraised
          exact ih _ (h.2 _) hraised
      | dies =>
          rw [henv] at hraised
          cases hraised

/-- `Follows`, for the answers in `A` only. -/
def FollowsIn (A : (c : S.Stmt) → Except ε (S.Answer c) → Prop) (Q : Log S ε → S.Stmt → Prop)
    (R : Log S ε → Except ε α → Prop) : Prog S ε α → Log S ε → Prop
  | ret a, l => R l (.ok a)
  | raise e, l => R l (.error e)
  | call c k, l => Q l c ∧ ∀ r, A c r → FollowsIn A Q R (k r) (l ++ [⟨c, r⟩])

/-- The answers that the store can give to a statement. -/
def Possible (x : Exec S ε σ) (c : S.Stmt) (r : Except ε (S.Answer c)) : Prop := ∃ s, r = (x c s).1

section FollowsIn

variable {A : (c : S.Stmt) → Except ε (S.Answer c) → Prop}

@[simp] lemma followsIn_ret (R : Log S ε → Except ε α → Prop) (a : α) (l : Log S ε) :
    FollowsIn A Q R (ret a) l ↔ R l (.ok a) := Iff.rfl

@[simp] lemma followsIn_raise (R : Log S ε → Except ε α → Prop) (e : ε) (l : Log S ε) :
    FollowsIn A Q R (raise e) l ↔ R l (.error e) := Iff.rfl

/-- The rule for one statement. -/
lemma followsIn_issue {c : S.Stmt} {R : Log S ε → Except ε (S.Answer c) → Prop} {l : Log S ε}
    (hQ : Q l c) (hR : ∀ r, A c r → R (l ++ [⟨c, r⟩]) r) : FollowsIn A Q R (issue c) l := by
  refine ⟨hQ, fun r hr => ?_⟩
  cases r with
  | ok a => exact hR (.ok a) hr
  | error e => exact hR (.error e) hr

/-- The rule for one statement and what is done with its answer. -/
lemma followsIn_issue_bind {c : S.Stmt} {f : S.Answer c → Prog S ε β}
    {R : Log S ε → Except ε β → Prop} {l : Log S ε} (hQ : Q l c)
    (hok : ∀ a, A c (.ok a) → FollowsIn A Q R (f a) (l ++ [⟨c, .ok a⟩]))
    (herr : ∀ e, A c (.error e) → R (l ++ [⟨c, .error e⟩]) (.error e)) :
    FollowsIn A Q R ((issue c).bind f) l := by
  refine ⟨hQ, fun r hr => ?_⟩
  cases r with
  | ok a => exact hok a hr
  | error e => exact herr e hr

/-- The rule of consequence. -/
lemma FollowsIn.mono {R R' : Log S ε → Except ε α → Prop} (hR : ∀ l r, R l r → R' l r)
    {p : Prog S ε α} {l : Log S ε} (h : FollowsIn A Q R p l) : FollowsIn A Q R' p l := by
  induction p generalizing l with
  | ret a => exact hR _ _ h
  | raise e => exact hR _ _ h
  | call c k ih => exact ⟨h.1, fun r hr => ih r (h.2 r hr)⟩

/-- The rule for a sequence. -/
lemma followsIn_bind {R : Log S ε → Except ε β → Prop} {p : Prog S ε α} {f : α → Prog S ε β}
    {l : Log S ε}
    (h : FollowsIn A Q (fun l' r => match r with
      | .ok a => FollowsIn A Q R (f a) l'
      | .error e => R l' (.error e)) p l) :
    FollowsIn A Q R (p.bind f) l := by
  induction p generalizing l with
  | ret a => exact h
  | raise e => exact h
  | call c k ih => exact ⟨h.1, fun r hr => ih r (h.2 r hr)⟩

/-- The rule for a sequence, in two parts. -/
lemma FollowsIn.bind {R₁ : Log S ε → Except ε α → Prop} {R : Log S ε → Except ε β → Prop}
    {p : Prog S ε α} {f : α → Prog S ε β} {l : Log S ε} (h : FollowsIn A Q R₁ p l)
    (hok : ∀ l' a, R₁ l' (.ok a) → FollowsIn A Q R (f a) l')
    (herr : ∀ l' e, R₁ l' (.error e) → R l' (.error e)) : FollowsIn A Q R (p.bind f) l := by
  refine followsIn_bind (h.mono fun l' r hr => ?_)
  cases r with
  | ok a => exact hok l' a hr
  | error e => exact herr l' e hr

/-- The rule for `try`. -/
lemma followsIn_attempt {R : Log S ε → Except ε (Except ε α) → Prop} {p : Prog S ε α}
    {l : Log S ε} (h : FollowsIn A Q (fun l' r => R l' (.ok r)) p l) :
    FollowsIn A Q R p.attempt l := by
  induction p generalizing l with
  | ret a => exact h
  | raise e => exact h
  | call c k ih => exact ⟨h.1, fun r hr => ih r (h.2 r hr)⟩

/-- The rule for `try` and what is done with the value or the exception. -/
lemma FollowsIn.attempt_bind {R₁ : Log S ε → Except ε α → Prop} {R : Log S ε → Except ε β → Prop}
    {p : Prog S ε α} {f : Except ε α → Prog S ε β} {l : Log S ε} (h : FollowsIn A Q R₁ p l)
    (hf : ∀ l' r, R₁ l' r → FollowsIn A Q R (f r) l') :
    FollowsIn A Q R (p.attempt.bind f) l :=
  followsIn_bind (followsIn_attempt (h.mono hf))

/-- What holds for all answers holds for those in `A`. -/
lemma Follows.followsIn {R : Log S ε → Except ε α → Prop} {p : Prog S ε α} {l : Log S ε}
    (h : Follows Q R p l) : FollowsIn A Q R p l := by
  induction p generalizing l with
  | ret a => exact h
  | raise e => exact h
  | call c k ih => exact ⟨h.1, fun r _ => ih r (h.2 r)⟩

/-- The guarantee of a program of which nothing is known. -/
lemma FollowsIn.unconditional (p : Prog S ε α) (l : Log S ε) :
    FollowsIn A (fun _ _ => True) (fun _ _ => True) p l := by
  induction p generalizing l with
  | ret a => trivial
  | raise e => trivial
  | call c k ih => exact ⟨trivial, fun r _ => ih r _⟩

/-- A guarantee holds from another log too, where the statements of the program, which satisfy `P`,
keep the two logs related. -/
lemma FollowsIn.transport {P : S.Stmt → Prop} {Q' : Log S ε → S.Stmt → Prop}
    {R R' : Log S ε → Except ε α → Prop} {T : Log S ε → Log S ε → Prop}
    (hQ : ∀ l l' c, T l l' → P c → Q l c → Q' l' c)
    (hT : ∀ l l' c r, T l l' → P c → T (l ++ [⟨c, r⟩]) (l' ++ [⟨c, r⟩]))
    (hR : ∀ l l' r, T l l' → R l r → R' l' r) {p : Prog S ε α} {l l' : Log S ε}
    (hl : T l l') (hP : FollowsIn A (fun _ c => P c) (fun _ _ => True) p l)
    (h : FollowsIn A Q R p l) : FollowsIn A Q' R' p l' := by
  induction p generalizing l l' with
  | ret a => exact hR _ _ _ hl h
  | raise e => exact hR _ _ _ hl h
  | call c k ih =>
      exact ⟨hQ _ _ c hl hP.1 h.1,
        fun r hr => ih r (hT _ _ c r hl hP.1) (hP.2 r hr) (h.2 r hr)⟩

end FollowsIn

/-- Each statement of the log satisfies `Q` with the log before it. -/
def Lawful (Q : Log S ε → S.Stmt → Prop) (l : Log S ε) : Prop :=
  ∀ t e, t ++ [e] <+: l → Q t e.stmt

lemma lawful_nil : Lawful Q ([] : Log S ε) := fun t e h => by simp at h

/-- A log that is extended by one statement. -/
lemma lawful_concat {l : Log S ε} {e : Entry S ε} :
    Lawful Q (l ++ [e]) ↔ Lawful Q l ∧ Q l e.stmt := by
  constructor
  · intro h
    exact ⟨fun t e' ht => h t e' (ht.trans (List.prefix_append _ _)), h l e (List.prefix_refl _)⟩
  · rintro ⟨hl, he⟩ t e' ht
    rcases List.prefix_concat_iff.mp ht with heq | ht
    · obtain ⟨rfl, hee⟩ := List.append_inj' heq rfl
      rw [List.cons.injEq] at hee
      exact hee.1 ▸ he
    · exact hl t e' ht

/-- **Induction along a lawful log.** -/
lemma Lawful.induction {motive : Log S ε → Prop} (hnil : motive [])
    (hconcat : ∀ l e, motive l → Q l e.stmt → motive (l ++ [e])) {l : Log S ε}
    (h : Lawful Q l) : motive l := by
  induction l using List.reverseRecOn with
  | nil => exact hnil
  | append_singleton l e ih =>
      obtain ⟨hl, he⟩ := lawful_concat.mp h
      exact hconcat l e (ih hl) he

/-- The guarantee of a program wherever it starts and whatever it returns. -/
def Ensures (Q : Log S ε → S.Stmt → Prop) (p : Prog S ε α) : Prop :=
  ∀ l, Follows Q (fun _ _ => True) p l

lemma ensures_ret (a : α) : Ensures Q (ret a) := fun _ => trivial

lemma ensures_raise (e : ε) : Ensures Q (raise e : Prog S ε α) := fun _ => trivial

/-- A statement that needs no history. -/
lemma ensures_issue {c : S.Stmt} (h : ∀ l, Q l c) : Ensures Q (issue c) :=
  fun l => follows_issue (h l) fun _ => trivial

lemma ensures_bind {p : Prog S ε α} {f : α → Prog S ε β} (hp : Ensures Q p)
    (hf : ∀ a, Ensures Q (f a)) : Ensures Q (p.bind f) := by
  intro l
  refine follows_bind ((hp l).mono fun l' r _ => ?_)
  cases r with
  | ok a => exact hf a l'
  | error e => trivial

lemma ensures_attempt {p : Prog S ε α} (hp : Ensures Q p) : Ensures Q p.attempt :=
  fun l => follows_attempt (hp l)

/-- A log is extended by statements that satisfy `P` only. -/
def ExtendedBy (P : S.Stmt → Prop) (l l' : Log S ε) : Prop :=
  ∃ t, l' = l ++ t ∧ ∀ e ∈ t, P e.stmt

lemma ExtendedBy.refl {P : S.Stmt → Prop} (l : Log S ε) : ExtendedBy P l l :=
  ⟨[], (List.append_nil l).symm, fun e he => by cases he⟩

lemma ExtendedBy.trans {P : S.Stmt → Prop} {l l' l'' : Log S ε} (h : ExtendedBy P l l')
    (h' : ExtendedBy P l' l'') : ExtendedBy P l l'' := by
  obtain ⟨t, rfl, ht⟩ := h
  obtain ⟨t', rfl, ht'⟩ := h'
  refine ⟨t ++ t', List.append_assoc .., fun e he => ?_⟩
  rcases List.mem_append.mp he with he | he
  · exact ht e he
  · exact ht' e he

lemma ExtendedBy.concat {P : S.Stmt → Prop} {l l' : Log S ε} (h : ExtendedBy P l l')
    {e : Entry S ε} (he : P e.stmt) : ExtendedBy P l (l' ++ [e]) := by
  obtain ⟨t, rfl, ht⟩ := h
  refine ⟨t ++ [e], List.append_assoc .., fun e' he' => ?_⟩
  rcases List.mem_append.mp he' with he' | he'
  · exact ht e' he'
  · rw [List.mem_singleton] at he'
    rwa [he']

/-- What a log is summed up to does not change when it is extended by statements that add
nothing. -/
lemma ExtendedBy.filterMap_eq {P : S.Stmt → Prop} {l l' : Log S ε} (h : ExtendedBy P l l')
    {τ : Type} {g : Entry S ε → Option τ} (hg : ∀ e, P e.stmt → g e = none) :
    l'.filterMap g = l.filterMap g := by
  obtain ⟨t, rfl, ht⟩ := h
  have hnil : t.filterMap g = [] := List.filterMap_eq_nil_iff.mpr fun e he => hg e (ht e he)
  rw [List.filterMap_append, hnil, List.append_nil]

lemma ExtendedBy.mem {P : S.Stmt → Prop} {l l' : Log S ε} (h : ExtendedBy P l l')
    {e : Entry S ε} (he : e ∈ l) : e ∈ l' := by
  obtain ⟨t, rfl, -⟩ := h
  exact List.mem_append_left _ he

/-- A guarantee on statements that asks for less than `P` holds of a program that ensures `P`. -/
lemma Ensures.follows {P : S.Stmt → Prop} {p : Prog S ε α} (hp : Ensures (fun _ c => P c) p)
    (hQ : ∀ l c, P c → Q l c) (l : Log S ε) : Follows Q (fun _ _ => True) p l := by
  have hf := hp l
  clear hp
  induction p generalizing l with
  | ret a => trivial
  | raise e => trivial
  | call c k ih => exact ⟨hQ l c hf.1, fun r => ih r _ (hf.2 r)⟩

/-- The rule for a program all of whose statements satisfy `P`, and what is done with its
answer. -/
lemma follows_bind_of_ensures {P : S.Stmt → Prop} {R : Log S ε → Except ε β → Prop}
    {p : Prog S ε α} {f : α → Prog S ε β} {l : Log S ε} (hQ : ∀ l c, P c → Q l c)
    (hp : Ensures (fun _ c => P c) p)
    (hok : ∀ a l', ExtendedBy P l l' → Follows Q R (f a) l')
    (herr : ∀ e l', ExtendedBy P l l' → R l' (.error e)) : Follows Q R (p.bind f) l := by
  suffices ∀ l₁, ExtendedBy P l l₁ → Follows (fun _ c => P c) (fun _ _ => True) p l₁ →
      Follows Q R (p.bind f) l₁ from this l (.refl l) (hp l)
  clear hp
  induction p with
  | ret a => exact fun l₁ h₁ _ => hok a l₁ h₁
  | raise e => exact fun l₁ h₁ _ => herr e l₁ h₁
  | call c k ih =>
      exact fun l₁ h₁ hf => ⟨hQ l₁ c hf.1, fun r => ih r _ (h₁.concat hf.1) (hf.2 r)⟩

/-- What the statements of a program preserve, the program preserves. -/
lemma eval_of_ensures {P : S.Stmt → Prop} {I : σ → Prop} {x : Exec S ε σ}
    (hI : ∀ c s, P c → I s → I (x c s).2) {p : Prog S ε α} (hp : Ensures (fun _ c => P c) p)
    {s : σ} (h : I s) : I (p.eval x s).2 := by
  suffices ∀ l, Follows (fun _ c => P c) (fun _ _ => True) p l → I (p.eval x s).2 from
    this [] (hp [])
  clear hp
  induction p generalizing s with
  | ret a => exact fun _ _ => h
  | raise e => exact fun _ _ => h
  | call c k ih => exact fun l hf => ih _ (hI c s hf.1 h) _ (hf.2 _)

/-- Stores that the statements of a program cannot tell apart, the program cannot. -/
lemma eval_congr_of_ensures {P : S.Stmt → Prop} {I : σ → σ → Prop} {x : Exec S ε σ}
    (hI : ∀ c s s', P c → I s s' → (x c s).1 = (x c s').1 ∧ I (x c s).2 (x c s').2)
    {p : Prog S ε α} (hp : Ensures (fun _ c => P c) p) {s s' : σ} (h : I s s') :
    (p.eval x s).1 = (p.eval x s').1 := by
  suffices ∀ l, Follows (fun _ c => P c) (fun _ _ => True) p l →
      (p.eval x s).1 = (p.eval x s').1 from this [] (hp [])
  clear hp
  induction p generalizing s s' with
  | ret a => exact fun _ _ => rfl
  | raise e => exact fun _ _ => rfl
  | call c k ih =>
      intro l hf
      obtain ⟨hans, hstore⟩ := hI c s s' hf.1 h
      rw [eval_call, eval_call, ← hans]
      exact ih _ hstore _ (hf.2 _)

/-- Where the environment lets all the statements of a program complete, its run is its
evaluation, and its log grows by such statements only. -/
lemma run_of_ensures {P : S.Stmt → Prop} {x : Exec S ε σ} {E : Env S ε}
    (hE : ∀ l c, P c → E l c = .completes) {p : Prog S ε α}
    (hp : Ensures (fun _ c => P c) p) (l : Log S ε) (s : σ) :
    (p.run x E l s).outcome =
        (match (p.eval x s).1 with
        | .ok a => .returned a
        | .error e => .raised e)
      ∧ (p.run x E l s).store = (p.eval x s).2
      ∧ ∃ l', (p.run x E l s).log = l ++ l' ∧ ∀ e ∈ l', P e.stmt := by
  have hf := hp l
  clear hp
  induction p generalizing l s with
  | ret a => exact ⟨rfl, rfl, [], (List.append_nil l).symm, fun e he => by cases he⟩
  | raise e => exact ⟨rfl, rfl, [], (List.append_nil l).symm, fun e he => by cases he⟩
  | call c k ih =>
      rw [run_call, hE l c hf.1]
      obtain ⟨hout, hstore, l', hlog, hl'⟩ :=
        ih (x c s).1 (l ++ [⟨c, (x c s).1⟩]) (x c s).2 (hf.2 _)
      refine ⟨hout, hstore, ⟨c, (x c s).1⟩ :: l', ?_, ?_⟩
      · dsimp only
        rw [hlog, List.append_assoc]
        rfl
      · intro e he
        rcases List.mem_cons.mp he with rfl | he
        · exact hf.1
        · exact hl' e he

end Prog

end Statement
