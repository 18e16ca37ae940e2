import Mathlib.Tactic

/-!
Dates and times as text: what Python's `datetime.fromisoformat` reads, and what RFC 3339 allows.

* `fromisoformat`: whether a text is read, since Python 3.11: a date with or without hyphens, by the
  month or by the week, alone or with a time behind any one character; the time with or without
  colons, down to the hour or the second or a fraction, with an offset or none.
* `rfc3339`: the one form `YYYY-MM-DDThh:mm:ss`, a fraction if wanted, and `Z` or `±hh:mm`.
* `replaceZ`: the text with `+00:00` for `Z`.
* `masked`: the punctuation of that form; `rfc3339_iff_masked`: of the texts that are read, it tells
  which are well formed.
-/

namespace IsoFormat

/-! ### Numbers and punctuation -/

/-- A number of exactly `n` digits, and the text behind it. -/
def digits : (n value : ℕ) → List Char → Option (ℕ × List Char)
  | 0, value, s => some (value, s)
  | n + 1, value, c :: s =>
      if c.isDigit then digits n (10 * value + (c.toNat - '0'.toNat)) s else none
  | _ + 1, _, [] => none

/-- The text behind a given character. -/
def char (c : Char) : List Char → Option (List Char)
  | [] => none
  | c' :: s => if c' = c then some s else none

/-! ### Dates -/

/-- `_is_leap`. -/
def isLeap (year : ℕ) : Bool := year % 4 = 0 && (year % 100 ≠ 0 || year % 400 = 0)

/-- `_days_in_month`. -/
def daysInMonth (year month : ℕ) : ℕ :=
  if month = 2 then if isLeap year then 29 else 28
  else if month ∈ [4, 6, 9, 11] then 30
  else 31

/-- The day is in the calendar; it has no year 0. -/
def dateExists (year month day : ℕ) : Bool :=
  1 ≤ year && (1 ≤ month && month ≤ 12) && (1 ≤ day && day ≤ daysInMonth year month)

/-- The number of the first of January, with the first of year 1 the day 1. -/
def firstOfJanuary (year : ℕ) : ℕ :=
  365 * (year - 1) + (year - 1) / 4 - (year - 1) / 100 + (year - 1) / 400 + 1

/-- `_isoweek1monday`. -/
def isoweek1monday (year : ℕ) : ℕ :=
  let firstweekday := (firstOfJanuary year + 6) % 7
  if firstweekday > 3 then firstOfJanuary year - firstweekday + 7
  else firstOfJanuary year - firstweekday

/-- Years that begin on a Thursday, and leap years that begin on a Wednesday, have 53 weeks. -/
def longYear (year : ℕ) : Bool :=
  firstOfJanuary year % 7 = 4 || (firstOfJanuary year % 7 = 3 && isLeap year)

/-- `_isoweek_to_gregorian`, as far as whether there is such a day; the last one of year 9999 has
the number 3652059. -/
def isoweekExists (year week day : ℕ) : Bool :=
  1 ≤ year && (1 ≤ week && (week ≤ 52 || (week = 53 && longYear year))) && (1 ≤ day && day ≤ 7)
    && isoweek1monday year + 7 * (week - 1) + (day - 1) ≤ 3652059

/-- The text behind the separator of the parts of a date, which all of them have or none. -/
def separator (hasSep : Bool) (s : List Char) : Option (List Char) :=
  if decide (s.head? = some '-') = hasSep then some (if hasSep then s.tail else s) else none

/-- `Www` or `Wwwd` behind the year and the `W`, with the parts apart or not. -/
def weekDate (year : ℕ) (hasSep : Bool) (s : List Char) : Bool :=
  match digits 2 0 s with
  | none => false
  | some (week, []) => isoweekExists year week 1
  | some (week, s) =>
      match (separator hasSep s).bind (digits 1 0) with
      | some (day, []) => isoweekExists year week day
      | _ => false

/-- `MMDD` behind the year, with the parts apart or not. -/
def monthDate (year : ℕ) (hasSep : Bool) (s : List Char) : Bool :=
  match digits 2 0 s with
  | none => false
  | some (month, s) =>
      match (separator hasSep s).bind (digits 2 0) with
      | some (day, []) => dateExists year month day
      | _ => false

/-- `_parse_isoformat_date`, with the check of the calendar. -/
def date (s : List Char) : Bool :=
  match digits 4 0 s with
  | none => false
  | some (year, s) =>
      let hasSep : Bool := s.head? = some '-'
      let s := if hasSep then s.tail else s
      if s.head? = some 'W' then weekDate year hasSep s.tail else monthDate year hasSep s

/-- `_find_isoformat_datetime_separator`, of a text of at least seven characters. -/
def findSeparator (s : List Char) : Option ℕ :=
  if s.length = 7 then some 7
  else if s[4]? = some '-' then
    if s[5]? = some 'W' then
      if s[8]? = some '-' then
        if s.length = 9 then none
        else if s[10]?.any Char.isDigit then some 8
        else some 10
      else some 8
    else some 10
  else if s[4]? = some 'W' then
    let idx := 7 + ((s.drop 7).takeWhile Char.isDigit).length
    if idx < 9 then some idx
    else if idx % 2 = 0 then some 7
    else some 8
  else some 8

/-! ### Times -/

/-- A time of the day, or an offset; what is not given is 0. -/
structure Clock where
  hour : ℕ
  minute : ℕ
  second : ℕ

/-- The text behind the fraction of a second, if one begins here. -/
def fraction : List Char → Option (List Char)
  | [] => some []
  | c :: s =>
      if c = '.' ∨ c = ',' then
        if s.takeWhile Char.isDigit = [] then none else some (s.dropWhile Char.isDigit)
      else some (c :: s)

/-- Two digits of seconds and a fraction, behind hours and minutes. -/
def seconds (hour minute : ℕ) (s : List Char) : Option (Clock × List Char) := do
  let (second, s) ← digits 2 0 s
  let s ← fraction s
  return (⟨hour, minute, second⟩, s)

/-- `_parse_hh_mm_ss_ff`: `hh`, `hh:mm`, `hh:mm:ss` or a fraction more, with colons or without. -/
def clock (s : List Char) : Option (Clock × List Char) := do
  let (hour, s) ← digits 2 0 s
  match char ':' s with
  | some s => do
      let (minute, s) ← digits 2 0 s
      match char ':' s with
      | some s => seconds hour minute s
      | none => return (⟨hour, minute, 0⟩, s)
  | none =>
      if s.head?.any Char.isDigit then do
        let (minute, s) ← digits 2 0 s
        if s.head?.any Char.isDigit then seconds hour minute s
        else return (⟨hour, minute, 0⟩, s)
      else return (⟨hour, 0, 0⟩, s)

/-- The offset of a time: none, `Z`, or a sign with less than a day. -/
def zone : List Char → Bool
  | [] => true
  | c :: s =>
      if c = '+' ∨ c = '-' then
        match clock s with
        | some (c, []) => 3600 * c.hour + 60 * c.minute + c.second < 86400
        | _ => false
      else c = 'Z' && s.isEmpty

/-- `_parse_isoformat_time`, with the check of its range. -/
def time (s : List Char) : Bool :=
  match clock s with
  | some (c, s) => c.hour < 24 && c.minute < 60 && c.second < 60 && zone s
  | none => false

/-- `datetime.fromisoformat(s)` returns. -/
def fromisoformat (s : List Char) : Bool :=
  7 ≤ s.length &&
    match findSeparator s with
    | none => false
    | some i =>
        date (s.take i) && ((s.drop (i + 1)).isEmpty || time (s.drop (i + 1)))

/-! ### RFC 3339 -/

/-- The text behind a `full-date`. -/
def fullDate (s : List Char) : Option (List Char) := do
  let (year, s) ← digits 4 0 s
  let (month, s) ← (char '-' s).bind (digits 2 0)
  let (day, s) ← (char '-' s).bind (digits 2 0)
  if (1 ≤ month ∧ month ≤ 12) ∧ 1 ≤ day ∧ day ≤ daysInMonth year month then some s else none

/-- The text behind a `time-secfrac`, if one begins here. -/
def secfrac : List Char → Option (List Char)
  | [] => some []
  | c :: s =>
      if c = '.' then
        if s.takeWhile Char.isDigit = [] then none else some (s.dropWhile Char.isDigit)
      else some (c :: s)

/-- The text behind a `partial-time`. -/
def partialTime (s : List Char) : Option (List Char) := do
  let (hour, s) ← digits 2 0 s
  let (minute, s) ← (char ':' s).bind (digits 2 0)
  let (second, s) ← (char ':' s).bind (digits 2 0)
  if hour ≤ 23 ∧ minute ≤ 59 ∧ second ≤ 60 then secfrac s else none

/-- A `time-offset`. -/
def timeOffset : List Char → Bool
  | [] => false
  | c :: s =>
      if c = '+' ∨ c = '-' then
        match digits 2 0 s with
        | none => false
        | some (hour, s) =>
            match (char ':' s).bind (digits 2 0) with
            | some (minute, []) => hour ≤ 23 && minute ≤ 59
            | _ => false
      else c = 'Z' && s.isEmpty

/-- A `date-time`. -/
def rfc3339 (s : List Char) : Bool :=
  match ((fullDate s).bind (char 'T')).bind partialTime with
  | some s => timeOffset s
  | none => false

/-! ### The punctuation of RFC 3339 -/

/-- The text behind a point and the digits that follow it. -/
def dropFraction : List Char → List Char
  | [] => []
  | c :: s => if c = '.' then s.dropWhile Char.isDigit else c :: s

/-- `Z`, or a sign and a colon, with less than an hour of minutes. -/
def zoneMasked : List Char → Bool
  | [c] => c = 'Z'
  | [sign, _, _, colon, tens, _] => (sign = '+' || sign = '-') && colon = ':' && tens < '6'
  | _ => false

/-- The hyphens, the `T` and the colons of RFC 3339 are where they should be. -/
def masked : List Char → Bool
  | _ :: _ :: _ :: _ :: c₁ :: _ :: _ :: c₂ :: _ :: _ :: c₃ :: _ :: _ :: c₄ :: _ :: _ :: c₅ :: _ :: _
      :: s =>
      c₁ = '-' && c₂ = '-' && c₃ = 'T' && c₄ = ':' && c₅ = ':' && zoneMasked (dropFraction s)
  | _ => false

/-- `s.replace("Z", "+00:00")`. -/
def replaceZ (s : List Char) : List Char :=
  s.flatMap fun c => if c = 'Z' then "+00:00".toList else [c]

/-! ### Reading through the replacement -/

@[simp] lemma replaceZ_cons_Z (s : List Char) :
    replaceZ ('Z' :: s) = '+' :: '0' :: '0' :: ':' :: '0' :: '0' :: replaceZ s := rfl

lemma replaceZ_cons_of_ne {c : Char} (h : c ≠ 'Z') (s : List Char) :
    replaceZ (c :: s) = c :: replaceZ s := by
  rw [replaceZ, List.flatMap_cons, if_neg h]
  rfl

lemma length_le_replaceZ (s : List Char) : s.length ≤ (replaceZ s).length := by
  induction s with
  | nil => exact le_rfl
  | cons c s ih =>
      by_cases h : c = 'Z'
      · subst h
        simp only [replaceZ_cons_Z, List.length_cons]
        omega
      · rw [replaceZ_cons_of_ne h]
        simpa using ih

/-- A number that is read in the replaced text stands in the text. -/
lemma digits_replaceZ {n value w : ℕ} {s t : List Char}
    (h : digits n value (replaceZ s) = some (w, t)) :
    ∃ s', digits n value s = some (w, s') ∧ t = replaceZ s' ∧ replaceZ s = s.take n ++ t := by
  induction n generalizing s value with
  | zero =>
      rw [digits, Option.some.injEq, Prod.mk.injEq] at h
      exact ⟨s, by rw [digits, h.1], h.2.symm, by rw [List.take_zero, List.nil_append, h.2]⟩
  | succ n ih =>
      cases s with
      | nil => cases h
      | cons c s =>
          by_cases hZ : c = 'Z'
          · subst hZ
            rw [replaceZ_cons_Z, digits, if_neg (by decide)] at h
            cases h
          · rw [replaceZ_cons_of_ne hZ, digits] at h
            split at h
            · rename_i hc
              obtain ⟨s', hs', rfl, htake⟩ := ih h
              refine ⟨s', ?_, rfl, ?_⟩
              · rw [digits, if_pos hc, hs']
              · rw [replaceZ_cons_of_ne hZ, htake, List.take_succ_cons, List.cons_append]
            · cases h

/-- A number that is read in a part of the text. -/
lemma digits_take {n value w k : ℕ} {s t : List Char}
    (h : digits n value (s.take (n + k)) = some (w, t)) :
    ∃ s', digits n value s = some (w, s') ∧ t = s'.take k := by
  induction n generalizing s value with
  | zero =>
      rw [digits, Nat.zero_add, Option.some.injEq, Prod.mk.injEq] at h
      exact ⟨s, by rw [digits, h.1], h.2.symm⟩
  | succ n ih =>
      cases s with
      | nil =>
          rw [List.take_nil] at h
          cases h
      | cons c s =>
          rw [Nat.add_right_comm, List.take_succ_cons, digits] at h
          split at h
          · rename_i hc
            obtain ⟨s', hs', rfl⟩ := ih h
            exact ⟨s', by rw [digits, if_pos hc, hs'], rfl⟩
          · cases h

/-- The text behind a number. -/
lemma digits_rest {n value w : ℕ} {s t : List Char} (h : digits n value s = some (w, t)) :
    t = s.drop n ∧ n ≤ s.length := by
  induction n generalizing s value with
  | zero =>
      rw [digits, Option.some.injEq, Prod.mk.injEq] at h
      exact ⟨h.2.symm, Nat.zero_le _⟩
  | succ n ih =>
      cases s with
      | nil => cases h
      | cons c s =>
          rw [digits] at h
          split at h
          · obtain ⟨ht, hn⟩ := ih h
            exact ⟨ht, Nat.succ_le_succ hn⟩
          · cases h

/-! ### Well-formed texts among those that are read -/

lemma seven_le_findSeparator {s : List Char} {i : ℕ} (h : findSeparator s = some i) : 7 ≤ i := by
  simp only [findSeparator] at h
  split_ifs at h <;> simp only [Option.some.injEq] at h <;> omega

lemma eq_cons_of_separator {s t : List Char} (h : separator true s = some t) : s = '-' :: t := by
  rw [separator] at h
  split at h
  · rename_i hhead
    rw [decide_eq_true_eq] at hhead
    obtain ⟨tail, rfl⟩ := List.head?_eq_some_iff.mp hhead
    cases h
    rfl
  · cases h

section Date

variable {y₁ y₂ y₃ y₄ m₁ m₂ d₁ d₂ : Char} {s : List Char} {i : ℕ}

/-- A month and a day that are read behind a year with a hyphen. -/
lemma fullDate_of_monthDate {year : ℕ}
    (hyear : digits 4 0 (y₁ :: y₂ :: y₃ :: y₄ :: '-' :: m₁ :: m₂ :: '-' :: d₁ :: d₂ :: s)
      = some (year, '-' :: m₁ :: m₂ :: '-' :: d₁ :: d₂ :: s))
    (h : monthDate year true ((replaceZ (m₁ :: m₂ :: '-' :: d₁ :: d₂ :: s)).take 5) = true) :
    fullDate (y₁ :: y₂ :: y₃ :: y₄ :: '-' :: m₁ :: m₂ :: '-' :: d₁ :: d₂ :: s) = some s
      ∧ replaceZ (m₁ :: m₂ :: '-' :: d₁ :: d₂ :: s)
        = m₁ :: m₂ :: '-' :: d₁ :: d₂ :: replaceZ s := by
  rw [monthDate] at h
  split at h
  · cases h
  · rename_i month t htaken
    obtain ⟨t', hreplaced, rfl⟩ := digits_take (k := 3) htaken
    obtain ⟨s₁, hmonth, rfl, htake₁⟩ := digits_replaceZ hreplaced
    obtain ⟨rfl, -⟩ := digits_rest hmonth
    split at h
    · rename_i day hbind
      rw [Option.bind_eq_some_iff] at hbind
      obtain ⟨t, hsep, htaken⟩ := hbind
      obtain rfl : (replaceZ (d₁ :: d₂ :: s)).take 2 = t :=
        (List.cons.inj (eq_cons_of_separator hsep)).2
      obtain ⟨t', hreplaced, -⟩ := digits_take (k := 0) htaken
      obtain ⟨s₂, hday, rfl, htake₂⟩ := digits_replaceZ hreplaced
      obtain ⟨rfl, -⟩ := digits_rest hday
      simp only [dateExists, Bool.and_eq_true, decide_eq_true_eq] at h
      constructor
      · rw [fullDate, hyear]
        simp [char, hmonth, hday, h.1.2, h.2]
      · rw [htake₁]
        exact congrArg (fun t => m₁ :: m₂ :: '-' :: t) htake₂
    · cases h

/-- With the hyphens and the `T` in their places, a date that is read is a `full-date`. -/
lemma fullDate_of_date
    (hi : findSeparator (replaceZ (y₁ :: y₂ :: y₃ :: y₄ :: '-' :: m₁ :: m₂ :: '-' :: d₁ :: d₂
      :: 'T' :: s)) = some i)
    (h : date ((replaceZ (y₁ :: y₂ :: y₃ :: y₄ :: '-' :: m₁ :: m₂ :: '-' :: d₁ :: d₂
      :: 'T' :: s)).take i) = true) :
    fullDate (y₁ :: y₂ :: y₃ :: y₄ :: '-' :: m₁ :: m₂ :: '-' :: d₁ :: d₂ :: 'T' :: s)
        = some ('T' :: s)
      ∧ (replaceZ (y₁ :: y₂ :: y₃ :: y₄ :: '-' :: m₁ :: m₂ :: '-' :: d₁ :: d₂ :: 'T' :: s)).drop
          (i + 1) = replaceZ s := by
  have hseven := seven_le_findSeparator hi
  obtain ⟨k, rfl⟩ := Nat.exists_eq_add_of_le (show 5 ≤ i by omega)
  rw [date] at h
  split at h
  · cases h
  · rename_i year t htaken
    rw [show 5 + k = 4 + (k + 1) by omega] at htaken
    obtain ⟨t', hreplaced, rfl⟩ := digits_take htaken
    obtain ⟨s₁, hyear, rfl, htake⟩ := digits_replaceZ hreplaced
    obtain ⟨rfl, -⟩ := digits_rest hyear
    set month := replaceZ (m₁ :: m₂ :: '-' :: d₁ :: d₂ :: 'T' :: s) with hmonth
    change replaceZ _ = y₁ :: y₂ :: y₃ :: y₄ :: '-' :: month at htake
    change (if (month.take k).head? = some 'W' then weekDate year true (month.take k).tail
      else monthDate year true (month.take k)) = true at h
    have hlength : (y₁ :: y₂ :: y₃ :: y₄ :: '-' :: month).length ≠ 7 := by
      have hle := length_le_replaceZ (m₁ :: m₂ :: '-' :: d₁ :: d₂ :: 'T' :: s)
      simp only [List.length_cons, ← hmonth] at hle ⊢
      omega
    have hfourth : (y₁ :: y₂ :: y₃ :: y₄ :: '-' :: month)[4]? = some '-' := rfl
    have hfifth : (y₁ :: y₂ :: y₃ :: y₄ :: '-' :: month)[5]? = month.head? :=
      List.head?_eq_getElem?.symm
    rw [htake, findSeparator, if_neg hlength, if_pos hfourth, hfifth] at hi
    by_cases hW : m₁ = 'W'
    · -- the week has two digits, and one of them would be a hyphen
      subst hW
      have hweek : month = 'W' :: replaceZ (m₂ :: '-' :: d₁ :: d₂ :: 'T' :: s) := rfl
      obtain ⟨j, rfl⟩ : ∃ j, k = 3 + j := by
        rw [hweek, List.head?_cons, if_pos rfl] at hi
        split_ifs at hi <;> rw [Option.some.injEq] at hi <;> exact ⟨k - 3, by omega⟩
      rw [hweek, show 3 + j = 2 + j + 1 by omega, List.take_succ_cons, List.head?_cons, if_pos rfl,
        List.tail_cons, weekDate] at h
      split at h
      · cases h
      all_goals
        rename_i hdigits
        obtain ⟨t', hreplaced, -⟩ := digits_take hdigits
        obtain ⟨s₂, hdigits, -, -⟩ := digits_replaceZ hreplaced
        simp [digits] at hdigits
    · have hhead : month.head? ≠ some 'W' := by
        by_cases hZ : m₁ = 'Z'
        · subst hZ
          rw [hmonth, replaceZ_cons_Z]
          simp
        · rw [hmonth, replaceZ_cons_of_ne hZ]
          simpa using hW
      rw [if_neg hhead, Option.some.injEq] at hi
      obtain rfl : k = 5 := by omega
      have hhead' : (month.take 5).head? ≠ some 'W' := by
        rw [List.head?_take, if_neg (by decide)]
        exact hhead
      rw [if_neg hhead'] at h
      obtain ⟨hdate, hrest⟩ := fullDate_of_monthDate hyear h
      refine ⟨hdate, ?_⟩
      rw [htake, hmonth, hrest]
      rfl

end Date

section Time

variable {s t : List Char}

/-- Digits are kept. -/
lemma takeWhile_replaceZ (s : List Char) :
    (replaceZ s).takeWhile Char.isDigit = s.takeWhile Char.isDigit
      ∧ (replaceZ s).dropWhile Char.isDigit = replaceZ (s.dropWhile Char.isDigit) := by
  induction s with
  | nil => exact ⟨rfl, rfl⟩
  | cons c s ih =>
      by_cases hZ : c = 'Z'
      · subst hZ
        exact ⟨rfl, rfl⟩
      · rw [replaceZ_cons_of_ne hZ]
        by_cases hc : c.isDigit = true
        · rw [List.takeWhile_cons_of_pos hc, List.dropWhile_cons_of_pos hc,
            List.takeWhile_cons_of_pos hc, List.dropWhile_cons_of_pos hc, ih.1]
          exact ⟨rfl, ih.2⟩
        · rw [List.takeWhile_cons_of_neg hc, List.dropWhile_cons_of_neg hc,
            List.takeWhile_cons_of_neg hc, List.dropWhile_cons_of_neg hc]
          exact ⟨rfl, (replaceZ_cons_of_ne hZ s).symm⟩

/-- How an offset of the form of RFC 3339 begins. -/
lemma zoneMasked_cases {c : Char} (h : zoneMasked (c :: s) = true) :
    c = 'Z' ∧ s = [] ∨ (c = '+' ∨ c = '-') ∧ c ≠ 'Z'
      ∧ ∃ h₁ h₂ m₁ m₂, s = [h₁, h₂, ':', m₁, m₂] ∧ m₁ < '6' := by
  rcases s with _ | ⟨h₁, _ | ⟨h₂, _ | ⟨colon, _ | ⟨m₁, _ | ⟨m₂, _ | ⟨c', s⟩⟩⟩⟩⟩⟩
  · exact .inl ⟨of_decide_eq_true h, rfl⟩
  · cases h
  · cases h
  · cases h
  · cases h
  · simp only [zoneMasked, Bool.and_eq_true, Bool.or_eq_true, decide_eq_true_eq] at h
    obtain ⟨⟨hsign, rfl⟩, hm⟩ := h
    refine .inr ⟨hsign, ?_, h₁, h₂, m₁, m₂, rfl, hm⟩
    rcases hsign with rfl | rfl
    · decide
    · decide
  · cases h

/-- A fraction that is read in front of such an offset is a `time-secfrac`. -/
lemma secfrac_of_fraction (hmasked : zoneMasked (dropFraction s) = true)
    (h : fraction (replaceZ s) = some t) :
    secfrac s = some (dropFraction s) ∧ t = replaceZ (dropFraction s) := by
  cases s with
  | nil => cases hmasked
  | cons c s =>
      by_cases hc : c = '.'
      · subst hc
        obtain ⟨htake, hdrop⟩ := takeWhile_replaceZ s
        rw [replaceZ_cons_of_ne (by decide), fraction, if_pos (.inl rfl), htake, hdrop] at h
        split at h
        · cases h
        · rename_i hne
          rw [secfrac, dropFraction, if_pos rfl, if_pos rfl, if_neg hne]
          exact ⟨rfl, (Option.some.inj h).symm⟩
      · rw [dropFraction, if_neg hc] at hmasked ⊢
        rw [secfrac, if_neg hc]
        refine ⟨rfl, ?_⟩
        rcases zoneMasked_cases hmasked with ⟨rfl, -⟩ | ⟨rfl | rfl, hZ, -⟩
        · rw [replaceZ_cons_Z, fraction, if_neg (by decide)] at h
          exact (Option.some.inj h).symm
        · rw [replaceZ_cons_of_ne hZ] at h ⊢
          rw [fraction, if_neg (by decide)] at h
          exact (Option.some.inj h).symm
        · rw [replaceZ_cons_of_ne hZ] at h ⊢
          rw [fraction, if_neg (by decide)] at h
          exact (Option.some.inj h).symm

/-- A colon that is found in the replaced text stands in the text. -/
lemma char_replaceZ (s : List Char) : char ':' (replaceZ s) = (char ':' s).map replaceZ := by
  cases s with
  | nil => rfl
  | cons c s =>
      by_cases hZ : c = 'Z'
      · subst hZ
        rfl
      · rw [replaceZ_cons_of_ne hZ, char, char]
        split
        · rfl
        · rfl

/-- Hours and minutes that are read with a colon between them. -/
lemma digits_of_clock {h₁ h₂ m₁ m₂ : Char} {z : Clock × List Char}
    (h : clock (replaceZ (h₁ :: h₂ :: ':' :: m₁ :: m₂ :: s)) = some z) :
    ∃ hour minute, digits 2 0 (h₁ :: h₂ :: ':' :: m₁ :: m₂ :: s)
          = some (hour, ':' :: m₁ :: m₂ :: s)
        ∧ digits 2 0 (m₁ :: m₂ :: s) = some (minute, s)
        ∧ (match char ':' s with
          | some s => seconds hour minute (replaceZ s)
          | none => some (⟨hour, minute, 0⟩, replaceZ s)) = some z := by
  rw [clock, Option.bind_eq_bind, Option.bind_eq_some_iff] at h
  obtain ⟨⟨hour, t⟩, hreplaced, h⟩ := h
  obtain ⟨s₁, hhour, rfl, -⟩ := digits_replaceZ hreplaced
  obtain ⟨rfl, -⟩ := digits_rest hhour
  change (digits 2 0 (replaceZ (m₁ :: m₂ :: s)) >>= fun r => _) = some z at h
  rw [Option.bind_eq_bind, Option.bind_eq_some_iff] at h
  obtain ⟨⟨minute, t⟩, hreplaced, h⟩ := h
  obtain ⟨s₂, hminute, rfl, -⟩ := digits_replaceZ hreplaced
  obtain rfl : s = s₂ := (digits_rest hminute).1.symm
  refine ⟨hour, minute, hhour, hminute, ?_⟩
  dsimp only [List.drop] at h
  rw [char_replaceZ] at h
  cases hchar : char ':' s with
  | none =>
      rw [hchar] at h
      exact h
  | some s' =>
      rw [hchar] at h
      exact h

/-- The value of two digits, of which the first is less than 6. -/
lemma lt_of_digits {m₁ m₂ : Char} {minute : ℕ} (hm : m₁ < '6')
    (h : digits 2 0 (m₁ :: m₂ :: s) = some (minute, s)) : minute ≤ 59 := by
  have hm' : m₁.toNat < '6'.toNat := hm
  rw [digits] at h
  split at h
  · rename_i h₁
    rw [digits] at h
    split at h
    · rename_i h₂
      rw [Char.isDigit_iff_toNat] at h₁ h₂
      rw [digits, Option.some.injEq, Prod.mk.injEq] at h
      have hzero : '0'.toNat = 48 := rfl
      have hsix : '6'.toNat = 54 := rfl
      have hnine : '9'.toNat = 57 := rfl
      omega
    · cases h
  · cases h

/-- Such an offset that is read is a `time-offset`. -/
lemma timeOffset_of_zone (hmasked : zoneMasked s = true) (h : zone (replaceZ s) = true) :
    timeOffset s = true := by
  cases s with
  | nil => cases hmasked
  | cons c s =>
      rcases zoneMasked_cases hmasked with ⟨rfl, rfl⟩ | ⟨hsign, hZ, h₁, h₂, m₁, m₂, rfl, hm⟩
      · rfl
      · rw [replaceZ_cons_of_ne hZ, zone, if_pos hsign] at h
        split at h
        · rename_i c hclock
          obtain ⟨hour, minute, hhour, hminute, hz⟩ := digits_of_clock hclock
          cases hz
          have hlt := lt_of_digits hm hminute
          rw [decide_eq_true_eq] at h
          rw [timeOffset, if_pos hsign, hhour]
          simp only [char, if_pos, Option.bind_some, hminute, Bool.and_eq_true, decide_eq_true_eq]
          have hhours : 3600 * hour < 86400 := by
            have hle : 3600 * hour ≤ 3600 * hour + 60 * minute + 0 := by omega
            exact lt_of_le_of_lt hle h
          exact ⟨by omega, hlt⟩
        · cases h

/-- With the colons in their places, a time that is read is a `full-time`. -/
lemma fullTime_of_time {h₁ h₂ m₁ m₂ s₁ s₂ : Char} (hmasked : zoneMasked (dropFraction s) = true)
    (h : time (replaceZ (h₁ :: h₂ :: ':' :: m₁ :: m₂ :: ':' :: s₁ :: s₂ :: s)) = true) :
    ∃ t, partialTime (h₁ :: h₂ :: ':' :: m₁ :: m₂ :: ':' :: s₁ :: s₂ :: s) = some t
      ∧ timeOffset t = true := by
  rw [time] at h
  split at h
  · rename_i c t hclock
    obtain ⟨hour, minute, hhour, hminute, hseconds⟩ := digits_of_clock hclock
    change seconds hour minute (replaceZ (s₁ :: s₂ :: s)) = some (c, t) at hseconds
    rw [seconds, Option.bind_eq_bind, Option.bind_eq_some_iff] at hseconds
    obtain ⟨⟨second, t'⟩, hreplaced, hseconds⟩ := hseconds
    obtain ⟨s', hsecond, rfl, -⟩ := digits_replaceZ hreplaced
    obtain rfl : s = s' := (digits_rest hsecond).1.symm
    rw [Option.bind_eq_bind, Option.bind_eq_some_iff] at hseconds
    obtain ⟨t'', hfraction, hz⟩ := hseconds
    cases hz
    obtain ⟨hsecfrac, rfl⟩ := secfrac_of_fraction hmasked hfraction
    simp only [Bool.and_eq_true, decide_eq_true_eq] at h
    refine ⟨dropFraction s, ?_, timeOffset_of_zone hmasked h.2⟩
    rw [partialTime, hhour]
    simp only [char, if_pos, Option.bind_eq_bind, Option.bind_some, hminute, hsecond]
    rw [if_pos ⟨by omega, by omega, by omega⟩, hsecfrac]
  · cases h

end Time

/-- A text with the punctuation of RFC 3339 that is read, once `Z` is replaced, is well formed. -/
lemma rfc3339_of_masked {s : List Char} (hread : fromisoformat (replaceZ s) = true)
    (hmasked : masked s = true) : rfc3339 s = true := by
  rw [masked.eq_def] at hmasked
  split at hmasked
  · rename_i y₁ y₂ y₃ y₄ c₁ m₁ m₂ c₂ d₁ d₂ c₃ h₁ h₂ c₄ n₁ n₂ c₅ s₁ s₂ s
    simp only [Bool.and_eq_true, decide_eq_true_eq] at hmasked
    obtain ⟨⟨⟨⟨⟨rfl, rfl⟩, rfl⟩, rfl⟩, rfl⟩, hzone⟩ := hmasked
    rw [fromisoformat, Bool.and_eq_true] at hread
    replace hread := hread.2
    split at hread
    · cases hread
    · rename_i i hi
      rw [Bool.and_eq_true] at hread
      obtain ⟨hdate, hrest⟩ := fullDate_of_date hi hread.1
      have htime := hread.2
      rw [hrest, Bool.or_eq_true] at htime
      rcases htime with hempty | htime
      · have hle := length_le_replaceZ (h₁ :: h₂ :: ':' :: n₁ :: n₂ :: ':' :: s₁ :: s₂ :: s)
        rw [List.isEmpty_iff.mp hempty] at hle
        simp at hle
      · obtain ⟨t, hpartial, hoffset⟩ := fullTime_of_time hzone htime
        rw [rfc3339, hdate]
        simp only [char, if_pos, Option.bind_some, hpartial, hoffset]
  · cases hmasked

/-! ### The punctuation of a well-formed text -/

lemma eq_cons_of_char {c : Char} {s t : List Char} (h : char c s = some t) : s = c :: t := by
  cases s with
  | nil => cases h
  | cons c' s =>
      rw [char] at h
      split at h
      · rename_i hc
        cases h
        rw [hc]
      · cases h

/-- The text that begins with two digits. -/
lemma eq_cons_of_digits_two {value w : ℕ} {s t : List Char}
    (h : digits 2 value s = some (w, t)) : ∃ a b, s = a :: b :: t := by
  obtain ⟨rfl, hlength⟩ := digits_rest h
  rcases s with _ | ⟨a, _ | ⟨b, s⟩⟩
  · simp at hlength
  · simp at hlength
  · exact ⟨a, b, rfl⟩

/-- Two digits of at most 59 begin with less than a 6. -/
lemma lt_of_digits_le {a b : Char} {w : ℕ} {s t : List Char}
    (h : digits 2 0 (a :: b :: s) = some (w, t)) (hw : w ≤ 59) : a < '6' := by
  rw [digits] at h
  split at h
  · rename_i ha
    rw [digits] at h
    split at h
    · rw [Char.isDigit_iff_toNat] at ha
      rw [digits, Option.some.injEq, Prod.mk.injEq] at h
      have hzero : '0'.toNat = 48 := rfl
      have hlt : a.toNat < '6'.toNat := by
        have hsix : '6'.toNat = 54 := rfl
        omega
      exact hlt
    · cases h
  · cases h

lemma eq_of_secfrac {s t : List Char} (h : secfrac s = some t) : t = dropFraction s := by
  cases s with
  | nil => exact (Option.some.inj h).symm
  | cons c s =>
      rw [secfrac] at h
      rw [dropFraction]
      split at h
      · rename_i hc
        rw [if_pos hc]
        split at h
        · cases h
        · exact (Option.some.inj h).symm
      · rename_i hc
        rw [if_neg hc]
        exact (Option.some.inj h).symm

lemma zoneMasked_of_timeOffset {s : List Char} (h : timeOffset s = true) :
    zoneMasked s = true := by
  cases s with
  | nil => cases h
  | cons c s =>
      rw [timeOffset] at h
      split at h
      · rename_i hsign
        split at h
        · cases h
        · rename_i hour t hhour
          obtain ⟨h₁, h₂, rfl⟩ := eq_cons_of_digits_two hhour
          split at h
          · rename_i minute hbind
            rw [Option.bind_eq_some_iff] at hbind
            obtain ⟨t', hchar, hminute⟩ := hbind
            obtain ⟨m₁, m₂, rfl⟩ := eq_cons_of_digits_two hminute
            rw [eq_cons_of_char hchar]
            simp only [Bool.and_eq_true, decide_eq_true_eq] at h
            simp [zoneMasked, hsign, lt_of_digits_le hminute h.2]
          · cases h
      · rw [Bool.and_eq_true, List.isEmpty_iff] at h
        rw [h.2]
        exact h.1

lemma masked_of_rfc3339 {s : List Char} (h : rfc3339 s = true) : masked s = true := by
  rw [rfc3339] at h
  split at h
  · rename_i t hbind
    rw [Option.bind_eq_some_iff] at hbind
    obtain ⟨time, hbind, hpartial⟩ := hbind
    rw [Option.bind_eq_some_iff] at hbind
    obtain ⟨rest, hdate, hchar⟩ := hbind
    obtain rfl := eq_cons_of_char hchar
    simp only [fullDate, Option.bind_eq_bind, Option.bind_eq_some_iff, Prod.exists] at hdate
    obtain ⟨year, t₁, hyear, month, t₂, ⟨t₃, hchar₁, hmonth⟩, day, t₄, ⟨t₅, hchar₂, hday⟩, hdate⟩ :=
      hdate
    simp only [partialTime, Option.bind_eq_bind, Option.bind_eq_some_iff, Prod.exists] at hpartial
    obtain ⟨hour, t₆, hhour, minute, t₇, ⟨t₈, hchar₃, hminute⟩, second, t₉, ⟨t₁₀, hchar₄, hsecond⟩,
      hpartial⟩ := hpartial
    split at hdate
    · cases hdate
      split at hpartial
      · obtain ⟨hrest, hlength⟩ := digits_rest hyear
        obtain ⟨m₁, m₂, rfl⟩ := eq_cons_of_digits_two hmonth
        obtain ⟨d₁, d₂, rfl⟩ := eq_cons_of_digits_two hday
        obtain ⟨h₁, h₂, rfl⟩ := eq_cons_of_digits_two hhour
        obtain ⟨n₁, n₂, rfl⟩ := eq_cons_of_digits_two hminute
        obtain ⟨s₁, s₂, rfl⟩ := eq_cons_of_digits_two hsecond
        obtain rfl := eq_cons_of_char hchar₁
        obtain rfl := eq_cons_of_char hchar₂
        obtain rfl := eq_cons_of_char hchar₃
        obtain rfl := eq_cons_of_char hchar₄
        rcases s with _ | ⟨y₁, _ | ⟨y₂, _ | ⟨y₃, _ | ⟨y₄, s⟩⟩⟩⟩
        · simp at hlength
        · simp at hlength
        · simp at hlength
        · simp at hlength
        · change _ = s at hrest
          rw [← hrest]
          have hzone := zoneMasked_of_timeOffset h
          rw [eq_of_secfrac hpartial] at hzone
          simp [masked, hzone]
      · cases hpartial
    · cases hdate
  · cases h

/-- **Of the texts that are read, the punctuation tells which are well formed.** -/
theorem rfc3339_iff_masked {s : List Char} (hread : fromisoformat (replaceZ s) = true) :
    rfc3339 s = true ↔ masked s = true :=
  ⟨masked_of_rfc3339, rfc3339_of_masked hread⟩

end IsoFormat
