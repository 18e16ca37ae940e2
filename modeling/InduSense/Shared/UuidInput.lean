import InduSense.Shared.Uuid

/-!
The texts Postgres reads as a `uuid`: its input function, `uuid_in`.

* `uuidIn`: two digits for each of the 16 bytes, a hyphen after every second byte if wanted, and
  braces around it all.
* `parse_of_uuidIn`: what Postgres reads, `uuid.UUID` reads as the same UUID.

The constructor of Python reads much else.
-/

namespace InduSense

/-- The text without a hyphen at its front. -/
def dropHyphen : List Char → List Char
  | '-' :: s => s
  | s => s

/-- The digits of `n` more bytes, and the text behind them.  A hyphen may follow every second byte
but the last one. -/
def uuidBytes : ℕ → List Char → Option (List Char × List Char)
  | 0, s => some ([], s)
  | n + 1, a :: b :: s =>
      if (hexDigit a).isSome ∧ (hexDigit b).isSome then
        (uuidBytes n (if n % 2 = 0 ∧ n ≠ 0 then dropHyphen s else s)).map fun bytes =>
          (a :: b :: bytes.1, bytes.2)
      else none
  | _, _ => none

/-- `string_to_uuid`, as far as the digits. -/
def stringToUuid : List Char → Option (List Char)
  | '{' :: s =>
      match uuidBytes 16 s with
      | some (digits, ['}']) => some digits
      | _ => none
  | s =>
      match uuidBytes 16 s with
      | some (digits, []) => some digits
      | _ => none

/-- `uuid_in`: the UUID a text denotes in SQL, if it does not raise. -/
def uuidIn (s : String) : Option Uuid :=
  match stringToUuid s.toList with
  | some digits => if h : hexValue digits < 2 ^ 128 then some ⟨hexValue digits, h⟩ else none
  | none => none

/-- What `uuidBytes` has read: digits, with hyphens between them. -/
structure UuidText (n : ℕ) (body digits : List Char) : Prop where
  length : digits.length = 2 * n
  hex : ∀ c ∈ digits, (hexDigit c).isSome = true
  filter : body.filter (· ≠ '-') = digits
  mem : ∀ c ∈ body, c ∈ digits ∨ c = '-'

/-- A digit is no hyphen. -/
lemma ne_hyphen_of_hex {c : Char} (h : (hexDigit c).isSome = true) : c ≠ '-' := by
  obtain ⟨d, hd⟩ := Option.isSome_iff_exists.mp h
  exact (plain_of_hexDigit hd).ne_hyphen

/-- One more byte in front. -/
lemma UuidText.cons {n : ℕ} {body digits : List Char} (h : UuidText n body digits) {a b : Char}
    (ha : (hexDigit a).isSome = true) (hb : (hexDigit b).isSome = true) :
    UuidText (n + 1) (a :: b :: body) (a :: b :: digits) := by
  refine ⟨?_, ?_, ?_, ?_⟩
  · rw [List.length_cons, List.length_cons, h.length]
    omega
  · rw [List.forall_mem_cons, List.forall_mem_cons]
    exact ⟨ha, hb, h.hex⟩
  · have hkeep : ∀ {c : Char}, (hexDigit c).isSome = true → decide (c ≠ '-') = true :=
      fun hc => decide_eq_true (ne_hyphen_of_hex hc)
    rw [List.filter_cons, if_pos (hkeep ha), List.filter_cons, if_pos (hkeep hb), h.filter]
  · intro c hc
    rw [List.mem_cons, List.mem_cons] at hc
    rcases hc with rfl | rfl | hc
    · exact .inl List.mem_cons_self
    · exact .inl (List.mem_cons_of_mem _ List.mem_cons_self)
    · exact (h.mem c hc).imp_left fun hd => List.mem_cons_of_mem _ (List.mem_cons_of_mem _ hd)

/-- A hyphen in front. -/
lemma UuidText.hyphen {n : ℕ} {body digits : List Char} (h : UuidText n body digits) :
    UuidText n ('-' :: body) digits := by
  refine ⟨h.length, h.hex, ?_, ?_⟩
  · rw [List.filter_cons_of_neg (by decide), h.filter]
  · rw [List.forall_mem_cons]
    exact ⟨.inr rfl, h.mem⟩

/-- A hyphen at the front is dropped, or there is none. -/
lemma dropHyphen_cases (s : List Char) : s = '-' :: dropHyphen s ∨ dropHyphen s = s := by
  rw [dropHyphen.eq_def]
  split
  · exact .inl rfl
  · exact .inr rfl

lemma uuidText_of_uuidBytes {n : ℕ} {s digits rest : List Char}
    (h : uuidBytes n s = some (digits, rest)) :
    ∃ body, s = body ++ rest ∧ UuidText n body digits := by
  induction n generalizing s digits with
  | zero =>
      rw [uuidBytes, Option.some.injEq, Prod.mk.injEq] at h
      obtain ⟨rfl, rfl⟩ := h
      exact ⟨[], rfl, ⟨rfl, by simp, rfl, by simp⟩⟩
  | succ n ih =>
      rcases s with _ | ⟨a, _ | ⟨b, s⟩⟩
      · cases h
      · cases h
      · rw [uuidBytes] at h
        split at h
        · rename_i hab
          rw [Option.map_eq_some_iff] at h
          obtain ⟨⟨ds, rest'⟩, hrest, heq⟩ := h
          rw [Prod.mk.injEq] at heq
          obtain ⟨rfl, rfl⟩ := heq
          obtain ⟨body, hbody, htext⟩ := ih hrest
          have hplain : s = body ++ rest' → ∃ body', a :: b :: s = body' ++ rest'
              ∧ UuidText (n + 1) body' (a :: b :: ds) := by
            rintro rfl
            exact ⟨a :: b :: body, rfl, htext.cons hab.1 hab.2⟩
          split at hbody
          · rcases dropHyphen_cases s with hs | hs
            · refine ⟨a :: b :: '-' :: body, ?_, htext.hyphen.cons hab.1 hab.2⟩
              rw [hs, hbody]
              rfl
            · exact hplain (hs ▸ hbody)
          · exact hplain hbody
        · cases h

/-- What Postgres reads is digits and hyphens, in braces or not. -/
lemma uuidText_of_stringToUuid {s digits : List Char} (h : stringToUuid s = some digits) :
    ∃ body, UuidText 16 body digits ∧ (s = body ∨ s = '{' :: body ++ ['}']) := by
  rw [stringToUuid.eq_def] at h
  split at h
  · split at h
    · rename_i s digits' hbytes
      cases h
      obtain ⟨body, rfl, htext⟩ := uuidText_of_uuidBytes hbytes
      exact ⟨body, htext, .inr rfl⟩
    · cases h
  · split at h
    · rename_i digits' hbytes
      cases h
      obtain ⟨body, rfl, htext⟩ := uuidText_of_uuidBytes hbytes
      exact ⟨body, htext, .inl (List.append_nil body)⟩
    · cases h

/-- **What Postgres reads, Python reads as the same UUID.** -/
theorem parse_of_uuidIn (u : PyUnicode) {s : String} {v : Uuid} (h : uuidIn s = some v) :
    Uuid.parse u s = .ok v := by
  rw [uuidIn] at h
  split at h
  · rename_i digits hdigits
    obtain ⟨body, htext, hs⟩ := uuidText_of_stringToUuid hdigits
    have hbody : ∀ c ∈ body, c ≠ 'u' ∧ (c = '{' || c = '}') = false := by
      intro c hc
      rcases htext.mem c hc with hd | rfl
      · obtain ⟨d, hd⟩ := Option.isSome_iff_exists.mp (htext.hex c hd)
        exact ⟨(plain_of_hexDigit hd).ne_u, (plain_of_hexDigit hd).not_brace⟩
      · decide
    have hhex : Uuid.hexOf s = digits := by rw [Uuid.hexOf_eq hbody hs, htext.filter]
    have hlength : digits.length = 32 := htext.length
    have hne : digits ≠ [] := List.ne_nil_of_length_pos (by rw [hlength]; decide)
    rw [Uuid.parse, hhex, if_neg (not_not.mpr hlength), intOfHex_digits u htext.hex hne]
    split at h
    · rename_i hlt
      cases h
      exact dif_pos hlt
    · cases h
  · cases h

end InduSense
