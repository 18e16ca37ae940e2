import Mathlib.Data.List.Forall2
import Mathlib.Data.Nat.Basic

/-!
UTF-8, and the decoder that puts U+FFFD in the place of what is not.

* `encode`, `WellFormed`: the bytes of a text.
* `State`, `next`, `decode`: the decoder reads one byte after the other; the longest beginning of a
  character that is not completed becomes one U+FFFD, and so does any other byte out of place.
* `decode_encode`: a text is decoded as it was encoded.
* `encode_decode`: what is decoded without U+FFFD is encoded as it was.
* `eq_of_decode_eq`, `exists_same_text`: a text without U+FFFD is that of one sequence of bytes, and
  a text with it is that of others as well.
-/

namespace Utf8

/-! ### Encoding -/

/-- The bytes of a text. -/
def encode (s : List Char) : List UInt8 := s.flatMap String.utf8EncodeChar

/-- The bytes are those of a text. -/
def WellFormed (bytes : List UInt8) : Prop := ∃ s, bytes = encode s

@[simp] lemma encode_nil : encode [] = [] := rfl

@[simp] lemma encode_cons (c : Char) (s : List Char) :
    encode (c :: s) = String.utf8EncodeChar c ++ encode s := rfl

lemma encode_append (s t : List Char) : encode (s ++ t) = encode s ++ encode t :=
  List.flatMap_append

/-! ### Decoding -/

/-- U+FFFD. -/
def replacement : Char := Char.ofNat 0xFFFD

/-- The bytes from `lower` to `upper`. -/
structure Range where
  lower : ℕ
  upper : ℕ

/-- The bytes that continue a character. -/
def Range.tail : Range := ⟨0x80, 0xBF⟩

/-- The byte is in the range. -/
def Range.Contains (range : Range) (b : UInt8) : Prop :=
  range.lower ≤ b.toNat ∧ b.toNat ≤ range.upper

instance (range : Range) (b : UInt8) : Decidable (range.Contains b) :=
  inferInstanceAs (Decidable (_ ∧ _))

/-- The second of three bytes: no number that takes fewer, and no surrogate. -/
def Range.secondOfThree (code : ℕ) : Range :=
  if code = 0 then ⟨0xA0, 0xBF⟩ else if code = 0xD then ⟨0x80, 0x9F⟩ else .tail

/-- The second of four bytes: no number that takes fewer, and none above U+10FFFF. -/
def Range.secondOfFour (code : ℕ) : Range :=
  if code = 0 then ⟨0x90, 0xBF⟩ else if code = 4 then ⟨0x80, 0x8F⟩ else .tail

/-- What the first byte of a character says: the leading bits of its number, and the ranges of the
bytes that have to follow. -/
def lead (b : UInt8) : Option (ℕ × List Range) :=
  if b.toNat ≤ 0x7F then some (b.toNat, [])
  else if b.toNat < 0xC2 then none
  else if b.toNat ≤ 0xDF then some (b.toNat - 0xC0, [.tail])
  else if b.toNat ≤ 0xEF then some (b.toNat - 0xE0, [.secondOfThree (b.toNat - 0xE0), .tail])
  else if b.toNat ≤ 0xF4 then
    some (b.toNat - 0xF0, [.secondOfFour (b.toNat - 0xF0), .tail, .tail])
  else none

/-- The decoder is between two characters, or within one whose leading bits are `code`, and which
the ranges complete. -/
inductive State where
  | between
  | within (code : ℕ) (range : Range) (ranges : List Range)

/-- A character is whole when no byte is missing. -/
def settle (code : ℕ) : List Range → List Char × State
  | [] => ([Char.ofNat code], .between)
  | range :: ranges => ([], .within code range ranges)

/-- A byte between two characters. -/
def first (b : UInt8) : List Char × State :=
  match lead b with
  | none => ([replacement], .between)
  | some (code, ranges) => settle code ranges

/-- The leading bits and the six of one more byte. -/
def shift (code : ℕ) (b : UInt8) : ℕ := 64 * code + b.toNat % 64

/-- What a byte adds to the text, and the state after it.  A byte out of range ends the character
before it and is read as a first byte. -/
def next : State → UInt8 → List Char × State
  | .between, b => first b
  | .within code range ranges, b =>
      if range.Contains b then settle (shift code b) ranges
      else (replacement :: (first b).1, (first b).2)

/-- The text of the bytes from a state. -/
def decodeFrom : State → List UInt8 → List Char
  | .between, [] => []
  | .within _ _ _, [] => [replacement]
  | state, b :: bytes => (next state b).1 ++ decodeFrom (next state b).2 bytes

/-- The text of the bytes. -/
def decode (bytes : List UInt8) : List Char := decodeFrom .between bytes

lemma decodeFrom_cons (state : State) (b : UInt8) (bytes : List UInt8) :
    decodeFrom state (b :: bytes) = (next state b).1 ++ decodeFrom (next state b).2 bytes := by
  cases state with
  | between => rfl
  | within code range ranges => rfl

lemma decode_cons (b : UInt8) (bytes : List UInt8) :
    decode (b :: bytes) = (first b).1 ++ decodeFrom (first b).2 bytes := rfl

/-! ### The bytes of one character -/

lemma tail_contains_iff {b : UInt8} : Range.tail.Contains b ↔ 0x80 ≤ b.toNat ∧ b.toNat ≤ 0xBF :=
  Iff.rfl

lemma secondOfThree_contains_iff {code : ℕ} {b : UInt8} :
    (Range.secondOfThree code).Contains b ↔ (0x80 ≤ b.toNat ∧ b.toNat ≤ 0xBF)
      ∧ (code = 0 → 0xA0 ≤ b.toNat) ∧ (code = 0xD → b.toNat ≤ 0x9F) := by
  rw [Range.secondOfThree]
  split_ifs <;> simp only [Range.Contains, Range.tail] <;> omega

lemma secondOfFour_contains_iff {code : ℕ} {b : UInt8} :
    (Range.secondOfFour code).Contains b ↔ (0x80 ≤ b.toNat ∧ b.toNat ≤ 0xBF)
      ∧ (code = 0 → 0x90 ≤ b.toNat) ∧ (code = 4 → b.toNat ≤ 0x8F) := by
  rw [Range.secondOfFour]
  split_ifs <;> simp only [Range.Contains, Range.tail] <;> omega

/-- The number of a character with these bytes to come. -/
def value (code : ℕ) (bytes : List UInt8) : ℕ := bytes.foldl shift code

@[simp] lemma value_cons (code : ℕ) (b : UInt8) (bytes : List UInt8) :
    value code (b :: bytes) = value (shift code b) bytes := List.foldl_cons ..

@[simp] lemma value_nil (code : ℕ) : value code [] = code := List.foldl_nil ..

/-- Each byte is in its range. -/
def Fits (ranges : List Range) (bytes : List UInt8) : Prop :=
  List.Forall₂ Range.Contains ranges bytes

lemma fits_cons {range : Range} {ranges : List Range} {bytes : List UInt8} :
    Fits (range :: ranges) bytes ↔
      ∃ b rest, bytes = b :: rest ∧ range.Contains b ∧ Fits ranges rest := by
  rw [Fits, List.forall₂_cons_left_iff]
  constructor
  · rintro ⟨b, rest, hb, hrest, rfl⟩
    exact ⟨b, rest, rfl, hb, hrest⟩
  · rintro ⟨b, rest, rfl, hb, hrest⟩
    exact ⟨b, rest, hb, hrest, rfl⟩

lemma fits_nil {bytes : List UInt8} : Fits [] bytes ↔ bytes = [] := List.forall₂_nil_left_iff

lemma val_ofNat {v : ℕ} (hv : v.isValidChar) : (Char.ofNat v).val.toNat = v := by
  rw [Char.ofNat, dif_pos hv]
  rfl

/-- A number of one byte. -/
lemma encodeChar_one {v : ℕ} (hv : v ≤ 0x7F) :
    String.utf8EncodeChar (Char.ofNat v) = [UInt8.ofNat v] := by
  have hval := val_ofNat (v := v) (.inl (by omega))
  simp only [String.utf8EncodeChar, hval]
  rw [if_pos hv]

/-- A number of two bytes. -/
lemma encodeChar_two {v : ℕ} (hv : 0x7F < v) (hv' : v ≤ 0x7FF) :
    String.utf8EncodeChar (Char.ofNat v) =
      [UInt8.ofNat (v / 64 % 0x20 + 0xC0), UInt8.ofNat (v % 0x40 + 0x80)] := by
  have hval := val_ofNat (v := v) (.inl (by omega))
  simp only [String.utf8EncodeChar, hval]
  rw [if_neg (by omega), if_pos hv']

/-- A number of three bytes that is not a surrogate. -/
lemma encodeChar_three {v : ℕ} (hv : 0x7FF < v) (hv' : v ≤ 0xFFFF)
    (hsurrogate : v < 0xD800 ∨ 0xDFFF < v) :
    String.utf8EncodeChar (Char.ofNat v) =
      [UInt8.ofNat (v / 4096 % 0x10 + 0xE0), UInt8.ofNat (v / 64 % 0x40 + 0x80),
        UInt8.ofNat (v % 0x40 + 0x80)] := by
  have hval := val_ofNat (v := v) (hsurrogate.imp id fun h => ⟨h, by omega⟩)
  simp only [String.utf8EncodeChar, hval]
  rw [if_neg (by omega), if_neg (by omega), if_pos hv']

/-- A number of four bytes. -/
lemma encodeChar_four {v : ℕ} (hv : 0xFFFF < v) (hv' : v ≤ 0x10FFFF) :
    String.utf8EncodeChar (Char.ofNat v) =
      [UInt8.ofNat (v / 262144 % 0x08 + 0xF0), UInt8.ofNat (v / 4096 % 0x40 + 0x80),
        UInt8.ofNat (v / 64 % 0x40 + 0x80), UInt8.ofNat (v % 0x40 + 0x80)] := by
  have hval := val_ofNat (v := v) (.inr ⟨by omega, by omega⟩)
  simp only [String.utf8EncodeChar, hval]
  rw [if_neg (by omega), if_neg (by omega), if_neg (by omega)]

/-- The bytes `seen` begin a character with these leading bits, and the ranges complete it. -/
def Begins (seen : List UInt8) (code : ℕ) (ranges : List Range) : Prop :=
  ∀ bytes, Fits ranges bytes →
    String.utf8EncodeChar (Char.ofNat (value code bytes)) = seen ++ bytes

/-- A whole character. -/
lemma Begins.whole {seen : List UInt8} {code : ℕ} (h : Begins seen code []) :
    String.utf8EncodeChar (Char.ofNat code) = seen := by
  have hnil := h [] (fits_nil.mpr rfl)
  rwa [List.append_nil] at hnil

/-- One more byte of a character. -/
lemma Begins.shift {seen : List UInt8} {code : ℕ} {range : Range} {ranges : List Range} {b : UInt8}
    (h : Begins seen code (range :: ranges)) (hb : range.Contains b) :
    Begins (seen ++ [b]) (Utf8.shift code b) ranges := by
  intro bytes hbytes
  have hcons := h (b :: bytes) (fits_cons.mpr ⟨b, bytes, rfl, hb, hbytes⟩)
  rwa [value_cons, ← List.singleton_append, ← List.append_assoc] at hcons

/-- Bytes are told apart by their numbers. -/
lemma ofNat_eq {v : ℕ} {b : UInt8} (h : v = b.toNat) : UInt8.ofNat v = b := by
  rw [h, UInt8.ofNat_toNat]

lemma begins_one {b : UInt8} (hb : b.toNat ≤ 0x7F) : Begins [b] b.toNat [] := by
  intro bytes hbytes
  obtain rfl := fits_nil.mp hbytes
  rw [value_nil, encodeChar_one hb, UInt8.ofNat_toNat]
  rfl

lemma begins_two {b : UInt8} {code : ℕ} (hb : b.toNat = 0xC0 + code) (hcode : 2 ≤ code)
    (hcode' : code < 0x20) : Begins [b] code [.tail] := by
  intro bytes hbytes
  obtain ⟨x, rest, rfl, hx, hrest⟩ := fits_cons.mp hbytes
  obtain rfl := fits_nil.mp hrest
  rw [tail_contains_iff] at hx
  rewrite [value_cons, value_nil, shift, encodeChar_two (by omega) (by omega),
    ofNat_eq (b := b) (by omega), ofNat_eq (b := x) (by omega)]
  rfl

lemma begins_three {b : UInt8} {code : ℕ} (hb : b.toNat = 0xE0 + code) (hcode : code < 0x10) :
    Begins [b] code [.secondOfThree code, .tail] := by
  intro bytes hbytes
  obtain ⟨x, rest, rfl, hx, hrest⟩ := fits_cons.mp hbytes
  obtain ⟨y, rest, rfl, hy, hrest⟩ := fits_cons.mp hrest
  obtain rfl := fits_nil.mp hrest
  rw [secondOfThree_contains_iff] at hx
  rw [tail_contains_iff] at hy
  rewrite [value_cons, value_cons, value_nil, shift, shift,
    encodeChar_three (by omega) (by omega) (by omega), ofNat_eq (b := b) (by omega),
    ofNat_eq (b := x) (by omega), ofNat_eq (b := y) (by omega)]
  rfl

lemma begins_four {b : UInt8} {code : ℕ} (hb : b.toNat = 0xF0 + code) (hcode : code ≤ 4) :
    Begins [b] code [.secondOfFour code, .tail, .tail] := by
  intro bytes hbytes
  obtain ⟨x, rest, rfl, hx, hrest⟩ := fits_cons.mp hbytes
  obtain ⟨y, rest, rfl, hy, hrest⟩ := fits_cons.mp hrest
  obtain ⟨z, rest, rfl, hz, hrest⟩ := fits_cons.mp hrest
  obtain rfl := fits_nil.mp hrest
  rw [secondOfFour_contains_iff] at hx
  rw [tail_contains_iff] at hy hz
  rewrite [value_cons, value_cons, value_cons, value_nil, shift, shift, shift,
    encodeChar_four (by omega) (by omega), ofNat_eq (b := b) (by omega),
    ofNat_eq (b := x) (by omega), ofNat_eq (b := y) (by omega), ofNat_eq (b := z) (by omega)]
  rfl

/-- **The first byte of a character.** -/
lemma begins_lead {b : UInt8} {code : ℕ} {ranges : List Range} (h : lead b = some (code, ranges)) :
    Begins [b] code ranges := by
  rw [lead] at h
  split_ifs at h with h1 h2 h3 h4 h5
  all_goals obtain ⟨rfl, rfl⟩ := Prod.mk.inj (Option.some.inj h)
  · exact begins_one h1
  · exact begins_two (by omega) (by omega) (by omega)
  · exact begins_three (by omega) (by omega)
  · exact begins_four (by omega) (by omega)

/-! ### What is decoded without U+FFFD -/

/-- The bytes the decoder has read of the character it is in. -/
def Reads (seen : List UInt8) : State → Prop
  | .between => seen = []
  | .within code range ranges => Begins seen code (range :: ranges)

lemma reads_settle {seen : List UInt8} {code : ℕ} {ranges : List Range}
    (h : Begins seen code ranges) :
    ∃ seen', Reads seen' (settle code ranges).2
      ∧ encode (settle code ranges).1 ++ seen' = seen := by
  cases ranges with
  | nil =>
      refine ⟨[], rfl, ?_⟩
      show (String.utf8EncodeChar (Char.ofNat code) ++ []) ++ [] = seen
      rw [List.append_nil, List.append_nil, h.whole]
  | cons range ranges => exact ⟨seen, h, rfl⟩

lemma reads_first {b : UInt8} (h : replacement ∉ (first b).1) :
    ∃ seen, Reads seen (first b).2 ∧ encode (first b).1 ++ seen = [b] := by
  rw [first] at h ⊢
  cases hlead : lead b with
  | none =>
      rw [hlead] at h
      exact absurd List.mem_cons_self h
  | some l => exact reads_settle (begins_lead hlead)

lemma reads_next {seen : List UInt8} {state : State} {b : UInt8} (h : Reads seen state)
    (hb : replacement ∉ (next state b).1) :
    ∃ seen', Reads seen' (next state b).2 ∧ encode (next state b).1 ++ seen' = seen ++ [b] := by
  cases state with
  | between =>
      obtain rfl := h
      exact reads_first hb
  | within code range ranges =>
      rw [next] at hb ⊢
      by_cases hrange : range.Contains b
      · rw [if_pos hrange]
        exact reads_settle (Begins.shift h hrange)
      · rw [if_neg hrange] at hb
        exact absurd List.mem_cons_self hb

/-- The text from a state, encoded: what the decoder has read, and what follows. -/
lemma encode_decodeFrom {seen : List UInt8} {state : State} {bytes : List UInt8}
    (h : Reads seen state) (hbytes : replacement ∉ decodeFrom state bytes) :
    encode (decodeFrom state bytes) = seen ++ bytes := by
  induction bytes generalizing seen state with
  | nil =>
      cases state with
      | between =>
          obtain rfl := h
          rfl
      | within code range ranges => exact absurd List.mem_cons_self hbytes
  | cons b bytes ih =>
      rw [decodeFrom_cons] at hbytes ⊢
      have hb := fun hmem => hbytes (List.mem_append_left _ hmem)
      obtain ⟨seen', hseen', heq⟩ := reads_next h hb
      calc encode ((next state b).1 ++ decodeFrom (next state b).2 bytes)
          = encode (next state b).1 ++ (seen' ++ bytes) := by
            rw [encode_append, ih hseen' fun hmem => hbytes (List.mem_append_right _ hmem)]
        _ = seen ++ b :: bytes := by
            rw [← List.append_assoc, heq, List.append_assoc, List.singleton_append]

/-- **What is decoded without U+FFFD is encoded as it was.** -/
theorem encode_decode {bytes : List UInt8} (h : replacement ∉ decode bytes) :
    encode (decode bytes) = bytes := encode_decodeFrom (show Reads [] .between from rfl) h

/-! ### What was encoded -/

/-- The bytes that complete a character. -/
lemma decodeFrom_settle {code : ℕ} {ranges : List Range} {bytes : List UInt8}
    (h : Fits ranges bytes) (rest : List UInt8) :
    (settle code ranges).1 ++ decodeFrom (settle code ranges).2 (bytes ++ rest) =
      Char.ofNat (value code bytes) :: decode rest := by
  induction ranges generalizing code bytes with
  | nil =>
      obtain rfl := fits_nil.mp h
      rfl
  | cons range ranges ih =>
      obtain ⟨b, bytes, rfl, hb, hbytes⟩ := fits_cons.mp h
      rw [value_cons, ← ih hbytes]
      show [] ++ decodeFrom (.within code range ranges) (b :: (bytes ++ rest)) = _
      rw [List.nil_append, decodeFrom_cons, next, if_pos hb]

lemma toNat_ofNat {v : ℕ} (hv : v < 256) : (UInt8.ofNat v).toNat = v := by
  rw [UInt8.toNat_ofNat']
  omega

lemma lead_one {b : UInt8} (hb : b.toNat ≤ 0x7F) : lead b = some (b.toNat, []) := by
  rw [lead, if_pos hb]

lemma lead_two {b : UInt8} {code : ℕ} (hb : b.toNat = 0xC0 + code) (hcode : 2 ≤ code)
    (hcode' : code < 0x20) : lead b = some (code, [.tail]) := by
  have hsub : b.toNat - 0xC0 = code := by omega
  rw [lead, if_neg (by omega), if_neg (by omega), if_pos (by omega), hsub]

lemma lead_three {b : UInt8} {code : ℕ} (hb : b.toNat = 0xE0 + code) (hcode : code < 0x10) :
    lead b = some (code, [.secondOfThree code, .tail]) := by
  have hsub : b.toNat - 0xE0 = code := by omega
  rw [lead, if_neg (by omega), if_neg (by omega), if_neg (by omega), if_pos (by omega), hsub]

lemma lead_four {b : UInt8} {code : ℕ} (hb : b.toNat = 0xF0 + code) (hcode : code ≤ 4) :
    lead b = some (code, [.secondOfFour code, .tail, .tail]) := by
  have hsub : b.toNat - 0xF0 = code := by omega
  rw [lead, if_neg (by omega), if_neg (by omega), if_neg (by omega), if_neg (by omega),
    if_pos (by omega), hsub]

/-- The bytes of a character are such. -/
lemma exists_lead (c : Char) :
    ∃ b bytes code ranges, String.utf8EncodeChar c = b :: bytes ∧ lead b = some (code, ranges)
      ∧ Fits ranges bytes ∧ Char.ofNat (value code bytes) = c := by
  obtain ⟨v, hvalid, rfl⟩ : ∃ v : ℕ, v.isValidChar ∧ c = Char.ofNat v :=
    ⟨c.toNat, c.valid, (Char.ofNat_toNat c).symm⟩
  rw [Nat.isValidChar] at hvalid
  by_cases h1 : v ≤ 0x7F
  · have hb : (UInt8.ofNat v).toNat = v := toNat_ofNat (by omega)
    refine ⟨_, _, _, _, encodeChar_one h1, lead_one (by omega), fits_nil.mpr rfl, ?_⟩
    rw [value_nil, hb]
  have hx : (UInt8.ofNat (v % 0x40 + 0x80)).toNat = v % 0x40 + 0x80 := toNat_ofNat (by omega)
  by_cases h2 : v ≤ 0x7FF
  · have hb : (UInt8.ofNat (v / 64 % 0x20 + 0xC0)).toNat = v / 64 % 0x20 + 0xC0 :=
      toNat_ofNat (by omega)
    refine ⟨_, _, v / 64, _, encodeChar_two (by omega) h2,
      lead_two (by omega) (by omega) (by omega),
      fits_cons.mpr ⟨_, _, rfl, tail_contains_iff.mpr (by omega), fits_nil.mpr rfl⟩, ?_⟩
    rewrite [value_cons, value_nil, shift, hx]
    exact congrArg Char.ofNat (by omega)
  have hy : (UInt8.ofNat (v / 64 % 0x40 + 0x80)).toNat = v / 64 % 0x40 + 0x80 :=
    toNat_ofNat (by omega)
  by_cases h3 : v ≤ 0xFFFF
  · have hb : (UInt8.ofNat (v / 4096 % 0x10 + 0xE0)).toNat = v / 4096 % 0x10 + 0xE0 :=
      toNat_ofNat (by omega)
    refine ⟨_, _, v / 4096, _, encodeChar_three (by omega) h3 (by omega),
      lead_three (by omega) (by omega),
      fits_cons.mpr ⟨_, _, rfl, secondOfThree_contains_iff.mpr (by omega),
        fits_cons.mpr ⟨_, _, rfl, tail_contains_iff.mpr (by omega), fits_nil.mpr rfl⟩⟩, ?_⟩
    rewrite [value_cons, value_cons, value_nil, shift, shift, hx, hy]
    exact congrArg Char.ofNat (by omega)
  · have hz : (UInt8.ofNat (v / 4096 % 0x40 + 0x80)).toNat = v / 4096 % 0x40 + 0x80 :=
      toNat_ofNat (by omega)
    have hb : (UInt8.ofNat (v / 262144 % 0x08 + 0xF0)).toNat = v / 262144 % 0x08 + 0xF0 :=
      toNat_ofNat (by omega)
    refine ⟨_, _, v / 262144, _, encodeChar_four (by omega) (by omega),
      lead_four (by omega) (by omega),
      fits_cons.mpr ⟨_, _, rfl, secondOfFour_contains_iff.mpr (by omega),
        fits_cons.mpr ⟨_, _, rfl, tail_contains_iff.mpr (by omega),
          fits_cons.mpr ⟨_, _, rfl, tail_contains_iff.mpr (by omega), fits_nil.mpr rfl⟩⟩⟩, ?_⟩
    rewrite [value_cons, value_cons, value_cons, value_nil, shift, shift, shift, hx, hy, hz]
    exact congrArg Char.ofNat (by omega)

/-- A character and what follows it. -/
lemma decode_encodeChar_append (c : Char) (bytes : List UInt8) :
    decode (String.utf8EncodeChar c ++ bytes) = c :: decode bytes := by
  obtain ⟨b, cont, code, ranges, heq, hlead, hfits, hval⟩ := exists_lead c
  rw [heq, List.cons_append, decode_cons, first, hlead]
  exact (decodeFrom_settle hfits bytes).trans (by rw [hval])

/-- A text and what follows it. -/
lemma decode_encode_append (s : List Char) (bytes : List UInt8) :
    decode (encode s ++ bytes) = s ++ decode bytes := by
  induction s with
  | nil => rfl
  | cons c s ih =>
      rw [encode_cons, List.append_assoc, decode_encodeChar_append, ih]
      rfl

/-- **A text is decoded as it was encoded.** -/
theorem decode_encode (s : List Char) : decode (encode s) = s := by
  have h := decode_encode_append s []
  rwa [List.append_nil, show decode [] = [] from rfl, List.append_nil] at h

/-! ### The texts that stand for one sequence of bytes -/

/-- The bytes are those of a text without U+FFFD just when they are decoded without. -/
theorem replacement_notMem_decode_iff {bytes : List UInt8} :
    replacement ∉ decode bytes ↔ ∃ s, replacement ∉ s ∧ bytes = encode s := by
  constructor
  · intro h
    exact ⟨decode bytes, h, (encode_decode h).symm⟩
  · rintro ⟨s, hs, rfl⟩
    rwa [decode_encode]

-- The encoding of a surrogate is none: its second byte fits no range.
example : decode [0x41, 0xE2, 0x82, 0xAC, 0xED, 0xA0, 0x80]
    = ['A', '€', replacement, replacement, replacement] := by decide

/-- Bytes with a text without U+FFFD are the only ones. -/
theorem eq_of_decode_eq {bytes other : List UInt8} (h : replacement ∉ decode bytes)
    (heq : decode other = decode bytes) : other = bytes := by
  rw [← encode_decode h, ← heq, encode_decode (heq ▸ h)]

/-- A byte that is never part of a character becomes U+FFFD. -/
lemma decode_around {b : UInt8} (hb : lead b = none) (s t : List Char) :
    decode (encode s ++ b :: encode t) = s ++ replacement :: t := by
  rw [decode_encode_append, decode_cons, first, hb]
  show s ++ ([replacement] ++ decode (encode t)) = _
  rw [decode_encode]
  rfl

/-- It is not what U+FFFD is encoded as. -/
lemma not_wellFormed_around {b : UInt8} (hb : lead b = none) (s t : List Char) :
    ¬ WellFormed (encode s ++ b :: encode t) := by
  rintro ⟨u, hu⟩
  have hdecoded : u = s ++ replacement :: t := by
    rw [← decode_encode u, ← hu, decode_around hb]
  rw [hdecoded, encode_append, List.append_cancel_left_eq, encode_cons] at hu
  have hlen := congrArg List.length hu
  rw [List.length_cons, List.length_append,
    show (String.utf8EncodeChar replacement).length = 3 from rfl] at hlen
  omega

/-- **A text with U+FFFD is the text of other bytes, which are not well formed.** -/
theorem exists_same_text {bytes : List UInt8} (h : replacement ∈ decode bytes) :
    ∃ other, other ≠ bytes ∧ ¬ WellFormed other ∧ decode other = decode bytes := by
  obtain ⟨s, t, hst⟩ := List.append_of_mem h
  rw [hst]
  by_cases heq : encode s ++ 0xFF :: encode t = bytes
  · refine ⟨encode s ++ 0xFE :: encode t, ?_, not_wellFormed_around rfl s t, decode_around rfl s t⟩
    rw [← heq, Ne, List.append_cancel_left_eq, List.cons.injEq]
    exact fun hbyte => absurd hbyte.1 (by decide)
  · exact ⟨_, heq, not_wellFormed_around rfl s t, decode_around rfl s t⟩

end Utf8
