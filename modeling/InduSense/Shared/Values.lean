import Mathlib.Tactic

/-!
Values shared by the services: instants, Python's `datetime`, and exceptions.

* `Time`, `seconds`: instants and durations in microseconds, the resolution of both
  `datetime` and `timestamptz`.
* `Datetime`: a `datetime` as the wire carries it, with or without an offset, with its
  comparison and its subtraction, which may raise.
* `endsWith`: of texts.
* `PyError`: an exception, by its class and its message.
* `bind_eq_ok_iff`, `isOk_bind_iff`, `isOk_mapM`: when a computation raises nothing.
-/

namespace InduSense

/-- Instants, in microseconds since a fixed epoch. -/
abbrev Time := ℤ

/-- `timedelta(seconds=n)`. -/
def seconds (n : ℤ) : Time := n * 1000000

/-- `s.endswith(suffix)`. -/
def endsWith (s suffix : String) : Bool := suffix.toList.isSuffixOf s.toList

/-- The classes of exceptions the handlers tell apart, and those the services raise
themselves; `apiError` is the API's own `APIError`, `external` whatever a client library
raises. -/
inductive ErrorKind where
  | valueError
  | runtimeError
  | typeError
  | overflowError
  | zeroDivisionError
  | indexError
  | keyError
  | assertionError
  | errPermanent
  | kafkaPublishError
  | invalidCredentialsError
  | userInactiveError
  | tokenRevokedError
  | apiError (status : ℕ) (code : String)
  | uniqueViolation
  | external
  deriving DecidableEq

/-- An exception; `message` is its `str()`. -/
structure PyError where
  kind : ErrorKind
  message : String
  deriving DecidableEq

/-- A `datetime`: the wall clock in microseconds since the start of year 1, and the offset from
UTC if there is one. -/
structure Datetime where
  wall : ℤ
  utcoffset : Option ℤ
  deriving DecidableEq

namespace Datetime

/-- The last microsecond of year 9999. -/
def maxWall : ℤ := 315537897599999999

/-- The instant two aware values are compared by; a naive value is compared by its wall
clock. -/
def instant (d : Datetime) : ℤ := d.wall - d.utcoffset.getD 0

/-- `a > b`, which raises between a naive and an aware value. -/
def gt (a b : Datetime) : Except PyError Bool :=
  if a.utcoffset.isSome = b.utcoffset.isSome then .ok (decide (b.instant < a.instant))
  else .error ⟨.typeError, "can't compare offset-naive and offset-aware datetimes"⟩

/-- `d - timedelta`, which raises when the wall clock leaves the years 1 to 9999. -/
def sub (d : Datetime) (delta : Time) : Except PyError Datetime :=
  if 0 ≤ d.wall - delta ∧ d.wall - delta ≤ maxWall then .ok { d with wall := d.wall - delta }
  else .error ⟨.overflowError, "date value out of range"⟩

end Datetime

/-! ### Computations that may raise -/

section Results

variable {ε α β : Type}

lemma bind_eq_ok_iff {r : Except ε α} {f : α → Except ε β} {b : β} :
    (r >>= f) = .ok b ↔ ∃ a, r = .ok a ∧ f a = .ok b := by
  cases r with
  | error e => exact ⟨nofun, nofun⟩
  | ok a => exact ⟨fun h => ⟨a, rfl, h⟩, fun ⟨_, ha, h⟩ => Except.ok.inj ha ▸ h⟩

lemma bind_ok_iff {r : Except ε Unit} {f : Unit → Except ε Unit} :
    (r >>= f) = .ok () ↔ r = .ok () ∧ f () = .ok () := by
  cases r with
  | error exc => exact ⟨nofun, fun h => nomatch h.1⟩
  | ok u => exact ⟨fun h => ⟨rfl, h⟩, fun h => h.2⟩

lemma isOk_bind_iff {r : Except ε α} {f : α → Except ε β} :
    (r >>= f).isOk = true ↔ ∃ a, r = .ok a ∧ (f a).isOk = true := by
  cases r with
  | error e => exact ⟨fun h => absurd h Bool.false_ne_true, nofun⟩
  | ok a => exact ⟨fun h => ⟨a, rfl, h⟩, fun ⟨_, ha, h⟩ => Except.ok.inj ha ▸ h⟩

lemma isOk_iff {r : Except ε α} : r.isOk = true ↔ ∃ a, r = .ok a := by
  cases r with
  | error e => exact ⟨fun h => absurd h Bool.false_ne_true, nofun⟩
  | ok a => exact ⟨fun _ => ⟨a, rfl⟩, fun _ => rfl⟩

/-- A loop succeeds when all its turns do. -/
lemma isOk_mapM (f : α → Except ε β) (l : List α) :
    (l.mapM f).isOk = true ↔ ∀ a ∈ l, (f a).isOk = true := by
  induction l with
  | nil => exact ⟨fun _ a ha => absurd ha List.not_mem_nil, fun _ => rfl⟩
  | cons a l ih =>
      rw [List.mapM_cons, List.forall_mem_cons, ← ih, isOk_bind_iff, isOk_iff]
      simp only [isOk_bind_iff]
      constructor
      · rintro ⟨b, hb, bs, hbs, -⟩
        exact ⟨⟨b, hb⟩, isOk_iff.mpr ⟨bs, hbs⟩⟩
      · rintro ⟨⟨b, hb⟩, hl⟩
        obtain ⟨bs, hbs⟩ := isOk_iff.mp hl
        exact ⟨b, hb, bs, hbs, rfl⟩

/-- Where the results of a loop come from. -/
lemma exists_of_mem_mapM {f : α → Except ε β} {l : List α} {bs : List β}
    (h : l.mapM f = .ok bs) {b : β} (hb : b ∈ bs) : ∃ a ∈ l, f a = .ok b := by
  induction l generalizing bs with
  | nil =>
      cases h
      cases hb
  | cons a l ih =>
      rw [List.mapM_cons] at h
      obtain ⟨b', ha, h⟩ := bind_eq_ok_iff.mp h
      obtain ⟨bs', hl, h⟩ := bind_eq_ok_iff.mp h
      cases h
      rcases List.mem_cons.mp hb with rfl | hb
      · exact ⟨a, List.mem_cons_self, ha⟩
      · obtain ⟨a', ha', hfa'⟩ := ih hl hb
        exact ⟨a', List.mem_cons_of_mem _ ha', hfa'⟩

end Results

end InduSense
