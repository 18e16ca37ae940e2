import Mathlib.Tactic
import Mathlib.Data.List.DropRight

/-!
Python's `uuid.UUID`: its constructor from a text, and its `str()`.

* `PyUnicode`: what the parser uses of Unicode.
* `intOfHex`: `int(s, 16)`, with its spaces, sign, prefix and underscores.
* `Uuid.parse`, `Uuid.str`: reading and printing; `parse_str` is their round trip.

Many texts denote one UUID: letters of either case, hyphens anywhere or nowhere, braces, a prefix.
Only one of them is printed.
-/

namespace InduSense

/-- What Python makes of characters beyond ASCII, and `repr(s)`. -/
structure PyUnicode where
  isSpace : Char → Bool
  /-- The digit a character stands for, if it is a decimal one of some script. -/
  decimal : Char → Option (Fin 10)
  repr : String → String

/-! ### Numerals -/

section Numerals

/-- The value of a hexadecimal digit, of either case. -/
def hexDigit (c : Char) : Option ℕ :=
  if '0' ≤ c ∧ c ≤ '9' then some (c.toNat - '0'.toNat)
  else if 'a' ≤ c ∧ c ≤ 'f' then some (c.toNat - 'a'.toNat + 10)
  else if 'A' ≤ c ∧ c ≤ 'F' then some (c.toNat - 'A'.toNat + 10)
  else none

/-- The spaces of ASCII that `int` skips. -/
def isAsciiSpace (c : Char) : Bool := c = ' ' || ('\t' ≤ c && c ≤ '\r')

/-- The text `int` reads: spaces and digits beyond ASCII stand for those of ASCII. -/
def toAscii (u : PyUnicode) (s : List Char) : List Char :=
  if s.all fun c => c.toNat < 128 then s
  else s.map fun c =>
    if c.toNat < 127 then c
    else if u.isSpace c then ' '
    else match u.decimal c with
      | some d => Nat.digitChar d
      | none => '?'

/-- The digits of a number from the left, with single underscores between them, and what follows. -/
def scanDigits : (afterUnderscore : Bool) → (value : ℕ) → List Char → Option (ℕ × List Char)
  | afterUnderscore, value, [] => if afterUnderscore then none else some (value, [])
  | afterUnderscore, value, c :: rest =>
      if c = '_' then if afterUnderscore then none else scanDigits true value rest
      else match hexDigit c with
        | some d => scanDigits false (16 * value + d) rest
        | none => if afterUnderscore then none else some (value, c :: rest)

/-- The text after the sign, without the prefix `0x` and an underscore behind it. -/
def dropPrefix : List Char → List Char
  | '0' :: 'x' :: '_' :: rest => rest
  | '0' :: 'X' :: '_' :: rest => rest
  | '0' :: 'x' :: rest => rest
  | '0' :: 'X' :: rest => rest
  | s => s

/-- The text without its sign.  A minus sign does not get this far. -/
def dropPlus : List Char → List Char
  | '+' :: rest => rest
  | s => s

/-- `int(s, 16)`, of a text without a hyphen. -/
def intOfHex (u : PyUnicode) (s : List Char) : Option ℕ :=
  match dropPrefix (dropPlus ((toAscii u s).dropWhile isAsciiSpace)) with
  | [] => none
  | c :: rest =>
      if (hexDigit c).isNone then none
      else match scanDigits false 0 (c :: rest) with
        | some (value, trailing) => if trailing.all isAsciiSpace then some value else none
        | none => none

/-- The last `n` hexadecimal digits of a number, from the left. -/
def hexDigits : ℕ → ℕ → List ℕ
  | 0, _ => []
  | n + 1, x => hexDigits n (x / 16) ++ [x % 16]

end Numerals

/-! ### UUIDs -/

/-- `s.replace(pat, "")`; `skip` characters are left of an occurrence. -/
def removeAll (pat : List Char) : (skip : ℕ) → List Char → List Char
  | _, [] => []
  | skip + 1, _ :: s => removeAll pat skip s
  | 0, c :: s =>
      if pat.isPrefixOf (c :: s) then removeAll pat (pat.length - 1) s
      else c :: removeAll pat 0 s

/-- `s.strip("{}")`. -/
def stripBraces (s : List Char) : List Char :=
  (s.dropWhile fun c => c = '{' || c = '}').rdropWhile fun c => c = '{' || c = '}'

/-- `uuid.UUID`, by its `int`. -/
structure Uuid where
  int : ℕ
  int_lt : int < 2 ^ 128
  deriving DecidableEq

namespace Uuid

/-- The text of which the constructor takes the digits. -/
def hexOf (s : String) : List Char :=
  (stripBraces (removeAll "uuid:".toList 0 (removeAll "urn:".toList 0 s.toList))).filter (· ≠ '-')

/-- `uuid.UUID(s)`, or the message of its `ValueError`. -/
def parse (u : PyUnicode) (s : String) : Except String Uuid :=
  if (hexOf s).length ≠ 32 then .error "badly formed hexadecimal UUID string"
  else
    match intOfHex u (hexOf s) with
    | none =>
        .error ("invalid literal for int() with base 16: " ++ u.repr (String.ofList (hexOf s)))
    | some n =>
        if h : n < 2 ^ 128 then .ok ⟨n, h⟩
        else .error "int is out of range (need a 128-bit value)"

/-- `'%032x' % self.int`. -/
def hex (v : Uuid) : List Char := (hexDigits 32 v.int).map Nat.digitChar

/-- `str(self)`, as characters. -/
def strChars (v : Uuid) : List Char :=
  v.hex.take 8 ++ '-' :: (v.hex.drop 8).take 4 ++ '-' :: (v.hex.drop 12).take 4
    ++ '-' :: (v.hex.drop 16).take 4 ++ '-' :: v.hex.drop 20

/-- `str(self)`. -/
def str (v : Uuid) : String := String.ofList v.strChars

end Uuid

/-! ### The round trip -/

lemma hexDigits_lt {n x d : ℕ} (hd : d ∈ hexDigits n x) : d < 16 := by
  induction n generalizing x with
  | zero => cases hd
  | succ n ih =>
      rw [hexDigits, List.mem_append, List.mem_singleton] at hd
      rcases hd with hd | rfl
      · exact ih hd
      · exact Nat.mod_lt x (by decide)

@[simp] lemma length_hexDigits (n x : ℕ) : (hexDigits n x).length = n := by
  induction n generalizing x with
  | zero => rfl
  | succ n ih => rw [hexDigits, List.length_append, ih, List.length_singleton]

/-- The digits of a number give it back, as far as they go. -/
lemma foldl_hexDigits (n x : ℕ) :
    (hexDigits n x).foldl (fun value d => 16 * value + d) 0 = x % 16 ^ n := by
  induction n generalizing x with
  | zero => exact (Nat.mod_one x).symm
  | succ n ih =>
      rw [hexDigits, List.foldl_append, ih, List.foldl_cons, List.foldl_nil, Nat.pow_succ',
        Nat.mod_mul]
      omega

/-- A printed digit reads as itself. -/
lemma hexDigit_digitChar : ∀ {d : ℕ}, d < 16 → hexDigit (Nat.digitChar d) = some d := by decide

/-- What a printed digit is: in ASCII, and none of the characters that are treated apart. -/
@[mk_iff]
structure Plain (c : Char) : Prop where
  ascii : c.toNat < 128
  not_space : isAsciiSpace c = false
  ne_underscore : c ≠ '_'
  ne_x : c ≠ 'x'
  ne_X : c ≠ 'X'
  ne_plus : c ≠ '+'
  ne_hyphen : c ≠ '-'
  ne_u : c ≠ 'u'
  not_brace : (c = '{' || c = '}') = false

instance (c : Char) : Decidable (Plain c) := decidable_of_iff _ (plain_iff c).symm

/-- The characters between two of ASCII. -/
lemma mem_of_between {a b c : Char} (ha : a ≤ c) (hb : c ≤ b) :
    c ∈ (List.range' a.toNat (b.toNat + 1 - a.toNat)).map Char.ofNat := by
  have ha' : a.toNat ≤ c.toNat := ha
  have hb' : c.toNat ≤ b.toNat := hb
  exact List.mem_map.mpr ⟨c.toNat, List.mem_range'_1.mpr ⟨ha', by omega⟩, Char.ofNat_toNat c⟩

lemma plain_of_hexDigit {c : Char} {d : ℕ} (h : hexDigit c = some d) : Plain c := by
  have hall : ((List.range' 48 10).map Char.ofNat ++ (List.range' 97 6).map Char.ofNat
      ++ (List.range' 65 6).map Char.ofNat).all (fun c => Plain c) = true := by decide
  have hplain : ∀ c ∈ (List.range' 48 10).map Char.ofNat ++ (List.range' 97 6).map Char.ofNat
      ++ (List.range' 65 6).map Char.ofNat, Plain c :=
    fun c hc => of_decide_eq_true (List.all_eq_true.mp hall c hc)
  rw [hexDigit] at h
  split at h
  · rename_i hc
    exact hplain c (List.mem_append_left _ (List.mem_append_left _ (mem_of_between hc.1 hc.2)))
  · split at h
    · rename_i hc
      exact hplain c (List.mem_append_left _ (List.mem_append_right _ (mem_of_between hc.1 hc.2)))
    · split at h
      · rename_i hc
        exact hplain c (List.mem_append_right _ (mem_of_between hc.1 hc.2))
      · cases h

lemma plain_digitChar {d : ℕ} (hd : d < 16) : Plain (Nat.digitChar d) :=
  plain_of_hexDigit (hexDigit_digitChar hd)

/-- The value of a text of hexadecimal digits. -/
def hexValue (cs : List Char) : ℕ := cs.foldl (fun value c => 16 * value + (hexDigit c).getD 0) 0

/-- Digits alone are scanned to the end. -/
lemma scanDigits_digits {cs : List Char} (hcs : ∀ c ∈ cs, (hexDigit c).isSome = true) (value : ℕ) :
    scanDigits false value cs
      = some (cs.foldl (fun value c => 16 * value + (hexDigit c).getD 0) value, []) := by
  induction cs generalizing value with
  | nil => rfl
  | cons c cs ih =>
      rw [List.forall_mem_cons] at hcs
      obtain ⟨d, hd⟩ := Option.isSome_iff_exists.mp hcs.1
      rw [scanDigits, if_neg (plain_of_hexDigit hd).ne_underscore, hd, List.foldl_cons, hd]
      exact ih hcs.2 _

/-- `int` reads a text of hexadecimal digits. -/
lemma intOfHex_digits (u : PyUnicode) {cs : List Char}
    (hcs : ∀ c ∈ cs, (hexDigit c).isSome = true) (hne : cs ≠ []) :
    intOfHex u cs = some (hexValue cs) := by
  have hplain : ∀ c ∈ cs, Plain c := by
    intro c hc
    obtain ⟨d, hd⟩ := Option.isSome_iff_exists.mp (hcs c hc)
    exact plain_of_hexDigit hd
  have hascii : toAscii u cs = cs :=
    if_pos (List.all_eq_true.mpr fun c hc => decide_eq_true (hplain c hc).ascii)
  obtain ⟨c, cs, rfl⟩ := List.exists_cons_of_ne_nil hne
  have hc := hplain c List.mem_cons_self
  have hspace : (c :: cs).dropWhile isAsciiSpace = c :: cs := by
    rw [List.dropWhile_cons_of_neg]
    rw [hc.not_space]
    exact Bool.false_ne_true
  have hplus : dropPlus (c :: cs) = c :: cs := by
    rw [dropPlus.eq_def]
    split
    · rename_i heq
      rw [List.cons.injEq] at heq
      exact absurd heq.1 hc.ne_plus
    · rfl
  have hprefix : dropPrefix (c :: cs) = c :: cs := by
    cases cs with
    | nil =>
        rw [dropPrefix]
        all_goals exact fun rest heq => nomatch (List.cons.inj heq).2
    | cons e cs =>
        have he := hplain e (List.mem_cons_of_mem _ List.mem_cons_self)
        rw [dropPrefix]
        all_goals
          intro rest heq
          simp only [List.cons.injEq] at heq
        · exact he.ne_x heq.2.1
        · exact he.ne_X heq.2.1
        · exact he.ne_x heq.2.1
        · exact he.ne_X heq.2.1
  obtain ⟨d, hd⟩ := Option.isSome_iff_exists.mp (hcs c List.mem_cons_self)
  rw [intOfHex, hascii, hspace, hplus, hprefix]
  dsimp only
  rw [hd, scanDigits_digits hcs]
  rfl

/-- The value of printed digits. -/
lemma hexValue_digits {ds : List ℕ} (hds : ∀ d ∈ ds, d < 16) :
    hexValue (ds.map Nat.digitChar) = ds.foldl (fun value d => 16 * value + d) 0 := by
  rw [hexValue, List.foldl_map]
  refine List.foldl_ext _ _ _ fun value d hd => ?_
  rw [hexDigit_digitChar (hds d hd), Option.getD_some]

namespace Uuid

/-- Nothing is removed where no occurrence begins. -/
lemma removeAll_eq_self {p : Char} {pat s : List Char} (hp : p ∉ s) :
    removeAll (p :: pat) 0 s = s := by
  induction s with
  | nil => rfl
  | cons c s ih =>
      rw [List.mem_cons, not_or] at hp
      rw [removeAll, if_neg, ih hp.2]
      rw [List.isPrefixOf_cons_cons, Bool.and_eq_true, beq_iff_eq]
      exact fun h => hp.1 h.1

/-- The characters of a printed UUID are digits and hyphens. -/
lemma mem_strChars {v : Uuid} {c : Char} (hc : c ∈ v.strChars) : c ∈ v.hex ∨ c = '-' := by
  rw [strChars] at hc
  simp only [List.mem_append, List.mem_cons, or_assoc] at hc
  rcases hc with hc | rfl | hc | rfl | hc | rfl | hc | rfl | hc
  · exact .inl (List.mem_of_mem_take hc)
  · exact .inr rfl
  · exact .inl (List.mem_of_mem_drop (List.mem_of_mem_take hc))
  · exact .inr rfl
  · exact .inl (List.mem_of_mem_drop (List.mem_of_mem_take hc))
  · exact .inr rfl
  · exact .inl (List.mem_of_mem_drop (List.mem_of_mem_take hc))
  · exact .inr rfl
  · exact .inl (List.mem_of_mem_drop hc)

/-- Without its hyphens, the text is that of the digits. -/
lemma filter_strChars (v : Uuid) : v.strChars.filter (· ≠ '-') = v.hex := by
  have hhex : ∀ c ∈ v.hex, c ≠ '-' := by
    intro c hc
    obtain ⟨d, hd, rfl⟩ := List.mem_map.mp hc
    exact (plain_digitChar (hexDigits_lt hd)).ne_hyphen
  have hkeep : ∀ s : List Char, (∀ c ∈ s, c ∈ v.hex) → s.filter (· ≠ '-') = s := by
    intro s hs
    exact List.filter_eq_self.mpr fun c hc => decide_eq_true (hhex c (hs c hc))
  have htake : ∀ i, ((v.hex.drop i).take 4).filter (· ≠ '-') = (v.hex.drop i).take 4 := by
    exact fun i => hkeep _ fun c hc => List.mem_of_mem_drop (List.mem_of_mem_take hc)
  have hsplit : v.hex = v.hex.take 8 ++ ((v.hex.drop 8).take 4 ++ ((v.hex.drop 12).take 4
      ++ ((v.hex.drop 16).take 4 ++ v.hex.drop 20))) := by
    have hcut : ∀ i, (v.hex.drop i).take 4 ++ v.hex.drop (i + 4) = v.hex.drop i := by
      intro i
      rw [← List.drop_drop]
      exact List.take_append_drop 4 _
    rw [hcut 16, hcut 12, hcut 8, List.take_append_drop]
  conv_rhs => rw [hsplit]
  simp only [strChars, List.filter_append, List.filter_cons, htake,
    hkeep _ fun c hc => List.mem_of_mem_take hc, hkeep _ fun c hc => List.mem_of_mem_drop hc]
  simp

/-- They begin no prefix and are no braces. -/
lemma plain_of_mem_strChars {v : Uuid} {c : Char} (hc : c ∈ v.strChars) :
    c ≠ 'u' ∧ (c = '{' || c = '}') = false := by
  rcases mem_strChars hc with hc | rfl
  · obtain ⟨d, hd, rfl⟩ := List.mem_map.mp hc
    have hdigit := plain_digitChar (hexDigits_lt hd)
    exact ⟨hdigit.ne_u, hdigit.not_brace⟩
  · decide

/-- Of digits and hyphens, in braces or not, the constructor takes the digits. -/
lemma hexOf_eq {s : String} {body : List Char}
    (hbody : ∀ c ∈ body, c ≠ 'u' ∧ (c = '{' || c = '}') = false)
    (hs : s.toList = body ∨ s.toList = '{' :: body ++ ['}']) :
    hexOf s = body.filter (· ≠ '-') := by
  have hu : 'u' ∉ s.toList := by
    intro h
    rcases hs with hs | hs
    · rw [hs] at h
      exact (hbody _ h).1 rfl
    · simp only [hs, List.cons_append, List.mem_cons, List.mem_append, List.not_mem_nil,
        or_false] at h
      rcases h with h | h | h
      · exact absurd h (by decide)
      · exact (hbody _ h).1 rfl
      · exact absurd h (by decide)
  have hright : body.rdropWhile (fun c => c = '{' || c = '}') = body := by
    refine List.rdropWhile_eq_self_iff.mpr fun hl h => ?_
    rw [(hbody _ (List.getLast_mem hl)).2] at h
    exact Bool.false_ne_true h
  have hleft : ∀ tail : List Char, body ≠ [] →
      (body ++ tail).dropWhile (fun c => c = '{' || c = '}') = body ++ tail := by
    intro tail hne
    obtain ⟨c, rest, rfl⟩ := List.exists_cons_of_ne_nil hne
    refine List.dropWhile_cons_of_neg ?_
    rw [(hbody c List.mem_cons_self).2]
    exact Bool.false_ne_true
  have hstrip : stripBraces s.toList = body := by
    by_cases hne : body = []
    · subst hne
      rcases hs with hs | hs
      · rw [hs]
        rfl
      · rw [hs]
        decide
    · rw [stripBraces]
      rcases hs with hs | hs
      · have hdrop := hleft [] hne
        rw [List.append_nil] at hdrop
        rw [hs, hdrop, hright]
      · rw [hs, List.cons_append, List.dropWhile_cons_of_pos rfl, hleft _ hne,
          List.rdropWhile_concat_pos _ _ _ rfl, hright]
  have hurn : "urn:".toList = ['u', 'r', 'n', ':'] := by decide
  have huuid : "uuid:".toList = ['u', 'u', 'i', 'd', ':'] := by decide
  rw [hexOf, hurn, huuid, removeAll_eq_self hu, removeAll_eq_self hu, hstrip]

/-- A printed UUID is read digit by digit. -/
lemma hexOf_str (v : Uuid) : hexOf v.str = v.hex := by
  have hchars : v.str.toList = v.strChars := String.toList_ofList
  rw [hexOf_eq (fun c hc => plain_of_mem_strChars hc) (.inl hchars), filter_strChars]

/-- **A printed UUID reads as itself.** -/
theorem parse_str (u : PyUnicode) (v : Uuid) : parse u v.str = .ok v := by
  have hlt : ∀ d ∈ hexDigits 32 v.int, d < 16 := fun d => hexDigits_lt
  have hlen : v.hex.length = 32 := by rw [hex, List.length_map, length_hexDigits]
  have hne : v.hex ≠ [] := List.ne_nil_of_length_pos (by rw [hlen]; decide)
  have hdigits : ∀ c ∈ v.hex, (hexDigit c).isSome = true := by
    intro c hc
    obtain ⟨d, hd, rfl⟩ := List.mem_map.mp hc
    rw [hexDigit_digitChar (hlt d hd)]
    rfl
  have hvalue : v.int % 16 ^ 32 = v.int := Nat.mod_eq_of_lt v.int_lt
  rw [parse, hexOf_str, if_neg (not_not.mpr hlen), intOfHex_digits u hdigits hne, hex,
    hexValue_digits hlt, foldl_hexDigits, hvalue]
  exact dif_pos v.int_lt

/-- Different UUIDs print differently. -/
lemma str_injective : Function.Injective str := by
  intro v w h
  have u : PyUnicode := ⟨fun _ => false, fun _ => none, id⟩
  have hv := parse_str u v
  rw [h, parse_str u w] at hv
  exact (Except.ok.inj hv).symm

end Uuid

end InduSense
