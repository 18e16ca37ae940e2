import InduSense.Shared.Uuid

/-!
Internet addresses and networks, as Python's `ipaddress` reads them.

* `parseV4`, `parseV6`, `ipAddress`: the texts of addresses.
* `Net`, `IpNetwork.contains`: the addresses that share a prefix.
* `ipNetwork`: the texts of networks, whose host bits need not be zero (`strict=False`).
* `isAddressChar_of_ipAddress`: the characters of an address without a zone.
* `ipNetwork_v4`, `ipNetwork_v6`: a full prefix makes a network of one address.
-/

namespace InduSense.Network

/-! ### Addresses -/

/-- `s.isascii() and s.isdigit()`. -/
def isDecimal (s : List Char) : Bool := s ≠ [] && s.all Char.isDigit

/-- The number that decimal digits stand for. -/
def decimal (s : List Char) : ℕ := s.foldl (fun n c => 10 * n + (c.toNat - '0'.toNat)) 0

/-- `IPv4Address._parse_octet`: no leading zeros. -/
def parseOctet (s : List Char) : Option ℕ :=
  if isDecimal s ∧ s.length ≤ 3 ∧ (s = ['0'] ∨ s.head? ≠ some '0') ∧ decimal s ≤ 255 then
    some (decimal s)
  else none

/-- `IPv4Address(s)`. -/
def parseV4 (s : List Char) : Option (BitVec 32) := do
  let octets ← (s.splitOn '.').mapM parseOctet
  if octets.length = 4 then
    some (.ofNat 32 (octets.foldl (fun n octet => 2 ^ 8 * n + octet) 0))
  else none

/-- `IPv6Address._parse_hextet`. -/
def parseHextet (s : List Char) : Option ℕ := do
  let digits ← s.mapM hexDigit
  if 1 ≤ digits.length ∧ digits.length ≤ 4 then
    some (digits.foldl (fun n digit => 2 ^ 4 * n + digit) 0)
  else none

/-- The parts of an IPv6 address, a suffix in the style of IPv4 written as two hextets. -/
def expandSuffix (parts : List (List Char)) : Option (List (List Char)) :=
  match parts.getLast? with
  | none => some parts
  | some suffix =>
      if '.' ∈ suffix then do
        let ip ← parseV4 suffix
        some (parts.dropLast ++ [Nat.toDigits 16 (ip.toNat / 2 ^ 16),
          Nat.toDigits 16 (ip.toNat % 2 ^ 16)])
      else some parts

/-- The parts on one side of `::`; an empty one at the end of the address has to be alone. -/
def beside (atEnd : Option (List Char)) (parts : List (List Char)) : Option (List (List Char)) :=
  if atEnd = some [] then if parts.length = 1 then some [] else none
  else some parts

/-- The positions of the empty parts that are not endpoints. -/
def skips (parts : List (List Char)) : List ℕ :=
  (List.range parts.length).filter fun i => 1 ≤ i ∧ i + 1 < parts.length ∧ parts[i]? = some []

/-- The eight hextets of an IPv6 address; `::` stands for at least one zero. -/
def hextets (parts : List (List Char)) : Option (List ℕ) :=
  match skips parts with
  | [] => if parts.length = 8 then parts.mapM parseHextet else none
  | [i] => do
      let hi ← beside parts.head? (parts.take i)
      let lo ← beside parts.getLast? (parts.drop (i + 1))
      if hi.length + lo.length < 8 then
        let high ← hi.mapM parseHextet
        let low ← lo.mapM parseHextet
        some (high ++ List.replicate (8 - (hi.length + lo.length)) 0 ++ low)
      else none
  | _ => none

/-- `IPv6Address._ip_int_from_string`. -/
def parseV6Int (s : List Char) : Option (BitVec 128) := do
  let parts := s.splitOn ':'
  if 3 ≤ parts.length then
    let parts ← expandSuffix parts
    if parts.length ≤ 9 then
      let values ← hextets parts
      some (.ofNat 128 (values.foldl (fun n hextet => 2 ^ 16 * n + hextet) 0))
    else none
  else none

/-- `_split_scope_id`: the address in front of its zone. -/
def splitScopeId (s : List Char) : Option (List Char) :=
  match s.splitOn '%' with
  | [addr] => some addr
  | [addr, scopeId] => if scopeId = [] then none else some addr
  | _ => none

/-- `IPv6Address(s)`; no comparison with a network looks at the zone. -/
def parseV6 (s : List Char) : Option (BitVec 128) :=
  if '/' ∈ s then none else splitScopeId s >>= parseV6Int

/-- An address, of either version. -/
inductive IpAddress where
  | v4 (ip : BitVec 32)
  | v6 (ip : BitVec 128)
  deriving DecidableEq

/-- `ipaddress.ip_address(text)`. -/
def ipAddress (text : String) : Option IpAddress :=
  ((parseV4 text.toList).map .v4).or ((parseV6 text.toList).map .v6)

/-! ### The characters of an address -/

/-- A character of a text is the separator or in one of the parts. -/
lemma mem_splitOn (sep : Char) {c : Char} {s : List Char} (hc : c ∈ s) :
    c = sep ∨ ∃ part ∈ s.splitOn sep, c ∈ part := by
  induction s with
  | nil => cases hc
  | cons a s ih =>
      rw [List.splitOn_cons_eq_if_modifyHead]
      by_cases ha : a = sep
      · rw [if_pos (beq_iff_eq.mpr ha)]
        rcases List.mem_cons.mp hc with rfl | hc
        · exact .inl ha
        · exact (ih hc).imp_right fun ⟨part, hpart, h⟩ => ⟨part, .tail _ hpart, h⟩
      · rw [if_neg (by rwa [beq_iff_eq])]
        obtain ⟨first, rest, hsplit⟩ := List.exists_cons_of_ne_nil (List.splitOn_ne_nil sep s)
        rw [hsplit] at ih ⊢
        rw [List.modifyHead_cons]
        rcases List.mem_cons.mp hc with rfl | hc
        · exact .inr ⟨_, .head _, .head _⟩
        · refine (ih hc).imp_right fun ⟨part, hpart, h⟩ => ?_
          rcases List.mem_cons.mp hpart with rfl | hpart
          · exact ⟨_, .head _, .tail _ h⟩
          · exact ⟨part, .tail _ hpart, h⟩

/-- A loop reads every item. -/
lemma exists_of_mapM {α β : Type} {f : α → Option β} {l : List α} {bs : List β}
    (h : l.mapM f = some bs) : ∀ a ∈ l, ∃ b, f a = some b := by
  induction l generalizing bs with
  | nil => exact fun a ha => absurd ha List.not_mem_nil
  | cons a l ih =>
      rw [List.mapM_cons, Option.bind_eq_bind, Option.bind_eq_some_iff] at h
      obtain ⟨b, hb, hrest⟩ := h
      rw [Option.bind_eq_bind, Option.bind_eq_some_iff] at hrest
      obtain ⟨bs, hbs, -⟩ := hrest
      exact List.forall_mem_cons.mpr ⟨⟨b, hb⟩, ih hbs⟩

/-- The characters of which addresses are written. -/
def IsAddressChar (c : Char) : Prop := c = '.' ∨ c = ':' ∨ ∃ digit, hexDigit c = some digit

lemma isAddressChar_of_parseV4 {s : List Char} {ip : BitVec 32} (h : parseV4 s = some ip) :
    ∀ c ∈ s, IsAddressChar c := by
  intro c hc
  rw [parseV4, Option.bind_eq_bind, Option.bind_eq_some_iff] at h
  obtain ⟨octets, hoctets, -⟩ := h
  rcases mem_splitOn '.' hc with rfl | ⟨part, hpart, hmem⟩
  · exact .inl rfl
  · obtain ⟨octet, hoctet⟩ := exists_of_mapM hoctets part hpart
    rw [parseOctet, Option.ite_none_right_eq_some] at hoctet
    have hdigit : c.isDigit = true :=
      List.all_eq_true.mp ((Bool.and_eq_true _ _).mp hoctet.1.1).2 c hmem
    rw [Char.isDigit, Bool.and_eq_true, decide_eq_true_iff, decide_eq_true_iff] at hdigit
    exact .inr (.inr ⟨_, if_pos hdigit⟩)

lemma isAddressChar_of_parseHextet {s : List Char} {n : ℕ} (h : parseHextet s = some n) :
    ∀ c ∈ s, IsAddressChar c := by
  intro c hc
  rw [parseHextet, Option.bind_eq_bind, Option.bind_eq_some_iff] at h
  obtain ⟨digits, hdigits, -⟩ := h
  exact .inr (.inr (exists_of_mapM hdigits c hc))

lemma mem_of_beside {atEnd : Option (List Char)} {parts parts' : List (List Char)}
    (h : beside atEnd parts = some parts') (hend : ∀ part ∈ atEnd, part ∈ parts) :
    ∀ part ∈ parts, part = [] ∨ part ∈ parts' := by
  intro part hpart
  rw [beside] at h
  split at h
  · rename_i hempty
    split at h
    · rename_i hone
      obtain ⟨only, rfl⟩ := List.length_eq_one_iff.mp hone
      rw [List.mem_singleton.mp hpart]
      exact .inl (List.mem_singleton.mp (hend [] hempty)).symm
    · cases h
  · cases h
    exact .inr hpart

lemma isAddressChar_of_hextets {parts : List (List Char)} {values : List ℕ}
    (h : hextets parts = some values) : ∀ part ∈ parts, ∀ c ∈ part, IsAddressChar c := by
  intro part hpart c hc
  rw [hextets] at h
  split at h
  · rw [Option.ite_none_right_eq_some] at h
    obtain ⟨n, hn⟩ := exists_of_mapM h.2 part hpart
    exact isAddressChar_of_parseHextet hn c hc
  · rename_i i hskips
    have hi : i ∈ skips parts := hskips ▸ List.mem_singleton_self i
    rw [skips, List.mem_filter, decide_eq_true_iff] at hi
    obtain ⟨-, hone, hlast, hempty⟩ := hi
    rw [Option.bind_eq_bind, Option.bind_eq_some_iff] at h
    obtain ⟨hi', hhi, h⟩ := h
    rw [Option.bind_eq_bind, Option.bind_eq_some_iff] at h
    obtain ⟨lo', hlo, h⟩ := h
    rw [Option.ite_none_right_eq_some] at h
    obtain ⟨-, h⟩ := h
    rw [Option.bind_eq_some_iff] at h
    obtain ⟨high, hhigh, h⟩ := h
    rw [Option.bind_eq_some_iff] at h
    obtain ⟨low, hlow, -⟩ := h
    have hfirst : ∀ first ∈ parts.head?, first ∈ parts.take i := fun first h => by
      refine List.mem_of_mem_head? ?_
      rwa [List.head?_take, if_neg (by omega)]
    have hfinal : ∀ final ∈ parts.getLast?, final ∈ parts.drop (i + 1) := fun final h => by
      refine List.mem_of_getLast? ?_
      rwa [List.getLast?_drop, if_neg (by omega)]
    -- a part is in front of `::`, the empty part inside it, or behind it
    have hcases : part ∈ parts.take i ∨ part = [] ∨ part ∈ parts.drop (i + 1) := by
      rw [← List.take_append_drop i parts, List.mem_append,
        List.drop_eq_getElem_cons (show i < parts.length by omega), List.mem_cons] at hpart
      refine hpart.imp_right (Or.imp_left fun h => ?_)
      rw [h]
      exact Option.some.inj ((List.getElem?_eq_getElem _).symm.trans hempty)
    have hread : ∀ {side : List (List Char)} {values : List ℕ},
        side.mapM parseHextet = some values → part ∈ side → IsAddressChar c :=
      fun hvalues hmem => by
        obtain ⟨n, hn⟩ := exists_of_mapM hvalues part hmem
        exact isAddressChar_of_parseHextet hn c hc
    have hne : part ≠ [] := List.ne_nil_of_mem hc
    rcases hcases with hmem | hnil | hmem
    · exact hread hhigh ((mem_of_beside hhi hfirst part hmem).resolve_left hne)
    · exact absurd hnil hne
    · exact hread hlow ((mem_of_beside hlo hfinal part hmem).resolve_left hne)
  · cases h

lemma isAddressChar_of_expandSuffix {parts parts' : List (List Char)}
    (h : expandSuffix parts = some parts')
    (hparts : ∀ part ∈ parts', ∀ c ∈ part, IsAddressChar c) :
    ∀ part ∈ parts, ∀ c ∈ part, IsAddressChar c := by
  rw [expandSuffix] at h
  split at h
  · cases h
    exact hparts
  · rename_i suffix hsuffix
    split at h
    · rw [Option.bind_eq_bind, Option.bind_eq_some_iff] at h
      obtain ⟨ip, hip, h⟩ := h
      obtain rfl := Option.some.inj h
      have hne : parts ≠ [] := by
        rintro rfl
        cases hsuffix
      have hlast : parts.getLast hne = suffix :=
        Option.some.inj ((List.getLast?_eq_some_getLast hne).symm.trans hsuffix)
      intro part hpart
      rw [← List.dropLast_append_getLast hne, hlast] at hpart
      rcases List.mem_append.mp hpart with hpart | hpart
      · exact hparts part (List.mem_append_left _ hpart)
      · rw [List.mem_singleton.mp hpart]
        exact isAddressChar_of_parseV4 hip
    · cases h
      exact hparts

lemma isAddressChar_of_parseV6Int {s : List Char} {ip : BitVec 128}
    (h : parseV6Int s = some ip) : ∀ c ∈ s, IsAddressChar c := by
  intro c hc
  rw [parseV6Int] at h
  rw [Option.ite_none_right_eq_some, Option.bind_eq_bind, Option.bind_eq_some_iff] at h
  obtain ⟨-, parts, hparts, h⟩ := h
  rw [Option.ite_none_right_eq_some, Option.bind_eq_bind, Option.bind_eq_some_iff] at h
  obtain ⟨-, values, hvalues, -⟩ := h
  rcases mem_splitOn ':' hc with rfl | ⟨part, hpart, hmem⟩
  · exact .inr (.inl rfl)
  · exact isAddressChar_of_expandSuffix hparts (isAddressChar_of_hextets hvalues) part hpart c hmem

/-- **The text of an address without a zone** is made of hexadecimal digits, dots and colons. -/
theorem isAddressChar_of_ipAddress {text : String} (h : (ipAddress text).isSome = true)
    (hzone : '%' ∉ text.toList) : ∀ c ∈ text.toList, IsAddressChar c := by
  obtain ⟨address, h⟩ := Option.isSome_iff_exists.mp h
  rw [ipAddress, Option.or_eq_some_iff] at h
  rcases h with h | ⟨-, h⟩
  · obtain ⟨ip, hip, -⟩ := Option.map_eq_some_iff.mp h
    exact isAddressChar_of_parseV4 hip
  · obtain ⟨ip, hip, -⟩ := Option.map_eq_some_iff.mp h
    rw [parseV6, Option.ite_none_left_eq_some, splitScopeId,
      List.splitOn_eq_singleton hzone] at hip
    exact isAddressChar_of_parseV6Int hip.2

/-! ### Networks -/

/-- The netmask of a prefix. -/
def netmask (w prefixlen : ℕ) : BitVec w := BitVec.allOnes w <<< (w - prefixlen)

/-- A network of addresses of `w` bits; its host bits are zero. -/
structure Net (w : ℕ) where
  address : BitVec w
  prefixlen : ℕ
  masked : address &&& netmask w prefixlen = address
  deriving DecidableEq

namespace Net

variable {w : ℕ}

/-- The network of an address, its host bits set to zero. -/
def of (address : BitVec w) (prefixlen : ℕ) : Net w where
  address := address &&& netmask w prefixlen
  prefixlen := prefixlen
  masked := by rw [BitVec.and_assoc, BitVec.and_self]

/-- `ip in net`. -/
def contains (net : Net w) (ip : BitVec w) : Bool :=
  ip &&& netmask w net.prefixlen = net.address

/-- A network contains the address it is made of. -/
@[simp] lemma contains_of_self (ip : BitVec w) (prefixlen : ℕ) :
    (of ip prefixlen).contains ip = true := by
  rw [contains, decide_eq_true_iff]
  rfl

/-- A full prefix leaves one address. -/
lemma contains_of_full {ip ip' : BitVec w} : (of ip w).contains ip' = true ↔ ip' = ip := by
  have hmask : netmask w w = BitVec.allOnes w := by
    rw [netmask, Nat.sub_self, BitVec.shiftLeft_zero]
  rw [contains, decide_eq_true_iff]
  show ip' &&& netmask w w = ip &&& netmask w w ↔ _
  rw [hmask, BitVec.and_allOnes, BitVec.and_allOnes]

end Net

/-- A network, of either version. -/
inductive IpNetwork where
  | v4 (net : Net 32)
  | v6 (net : Net 128)
  deriving DecidableEq

/-- `ip in net`; never across versions. -/
def IpNetwork.contains : IpNetwork → IpAddress → Bool
  | .v4 net, .v4 ip => net.contains ip
  | .v6 net, .v6 ip => net.contains ip
  | _, _ => false

/-- `_prefix_from_prefix_string`. -/
def prefixFromPrefixString (w : ℕ) (s : List Char) : Option ℕ :=
  if isDecimal s ∧ decimal s ≤ w then some (decimal s) else none

/-- `_prefix_from_ip_int`. -/
def prefixFromIpInt (ip : BitVec 32) : Option ℕ := (List.range 33).find? fun p => netmask 32 p = ip

/-- `_prefix_from_ip_string`: a netmask, or a hostmask. -/
def prefixFromIpString (s : List Char) : Option ℕ := do
  let ip ← parseV4 s
  (prefixFromIpInt ip).or (prefixFromIpInt (~~~ip))

/-- `_split_optional_netmask`. -/
def splitOptionalNetmask (s : List Char) : Option (List Char × Option (List Char)) :=
  match s.splitOn '/' with
  | [addr] => some (addr, none)
  | [addr, mask] => some (addr, some mask)
  | _ => none

/-- `IPv4Network._make_netmask`. -/
def makeNetmaskV4 : Option (List Char) → Option ℕ
  | none => some 32
  | some mask => (prefixFromPrefixString 32 mask).or (prefixFromIpString mask)

/-- `IPv4Network(s, strict=False)`. -/
def networkV4 (s : List Char) : Option (Net 32) := do
  let (addr, mask) ← splitOptionalNetmask s
  let ip ← parseV4 addr
  let prefixlen ← makeNetmaskV4 mask
  some (.of ip prefixlen)

/-- `IPv6Network._make_netmask`. -/
def makeNetmaskV6 : Option (List Char) → Option ℕ
  | none => some 128
  | some mask => prefixFromPrefixString 128 mask

/-- `IPv6Network(s, strict=False)`. -/
def networkV6 (s : List Char) : Option (Net 128) := do
  let (addr, mask) ← splitOptionalNetmask s
  let ip ← parseV6 addr
  let prefixlen ← makeNetmaskV6 mask
  some (.of ip prefixlen)

/-- `ipaddress.ip_network(text, strict=False)`. -/
def ipNetwork (text : String) : Option IpNetwork :=
  ((networkV4 text.toList).map .v4).or ((networkV6 text.toList).map .v6)

/-! ### Networks of one address -/

lemma splitOptionalNetmask_append {addr mask : List Char} (haddr : '/' ∉ addr)
    (hmask : '/' ∉ mask) :
    splitOptionalNetmask (addr ++ '/' :: mask) = some (addr, some mask) := by
  rw [splitOptionalNetmask, List.splitOn_append_cons_self_of_not_mem haddr,
    List.splitOn_eq_singleton hmask]

lemma ipAddress_eq_v4 {text : String} {ip : BitVec 32} (h : ipAddress text = some (.v4 ip)) :
    parseV4 text.toList = some ip := by
  rw [ipAddress, Option.or_eq_some_iff, Option.map_eq_some_iff, Option.map_eq_some_iff] at h
  rcases h with ⟨ip', hip', heq⟩ | ⟨-, ip', -, heq⟩
  · rwa [IpAddress.v4.inj heq] at hip'
  · cases heq

lemma ipAddress_eq_v6 {text : String} {ip : BitVec 128} (h : ipAddress text = some (.v6 ip)) :
    parseV4 text.toList = none ∧ parseV6 text.toList = some ip := by
  rw [ipAddress, Option.or_eq_some_iff, Option.map_eq_some_iff, Option.map_eq_some_iff] at h
  rcases h with ⟨ip', -, heq⟩ | ⟨hnone, ip', hip', heq⟩
  · cases heq
  · rw [IpAddress.v6.inj heq] at hip'
    exact ⟨Option.map_eq_none_iff.mp hnone, hip'⟩

/-- No address contains a slash. -/
lemma slash_not_mem {text : String} {address : IpAddress} (h : ipAddress text = some address) :
    '/' ∉ text.toList := by
  cases address with
  | v4 ip =>
      intro hmem
      rcases isAddressChar_of_parseV4 (ipAddress_eq_v4 h) '/' hmem with hc | hc | ⟨digit, hc⟩
      · exact absurd hc (by decide)
      · exact absurd hc (by decide)
      · exact absurd (show hexDigit '/' = none by decide) (hc ▸ Option.some_ne_none digit)
  | v6 ip =>
      have hip := (ipAddress_eq_v6 h).2
      rw [parseV6, Option.ite_none_left_eq_some] at hip
      exact hip.1

/-- The network of an IPv4 address and a full prefix. -/
lemma ipNetwork_v4 {text : String} {ip : BitVec 32} (h : ipAddress text = some (.v4 ip)) :
    ipNetwork (text ++ "/32") = some (.v4 (.of ip 32)) := by
  have hip := ipAddress_eq_v4 h
  have hsplit : splitOptionalNetmask (text ++ "/32").toList
      = some (text.toList, some ['3', '2']) := by
    rw [String.toList_append]
    exact splitOptionalNetmask_append (slash_not_mem h) (by decide)
  have hprefix : makeNetmaskV4 (some ['3', '2']) = some 32 := by decide
  have hnetwork : networkV4 (text ++ "/32").toList = some (.of ip 32) := by
    simp only [networkV4, hsplit, hip, hprefix, Option.bind_eq_bind, Option.bind_some]
  rw [ipNetwork, hnetwork]
  rfl

/-- The network of an IPv6 address and a full prefix. -/
lemma ipNetwork_v6 {text : String} {ip : BitVec 128} (h : ipAddress text = some (.v6 ip)) :
    ipNetwork (text ++ "/128") = some (.v6 (.of ip 128)) := by
  obtain ⟨hv4, hip⟩ := ipAddress_eq_v6 h
  have hsplit : splitOptionalNetmask (text ++ "/128").toList
      = some (text.toList, some ['1', '2', '8']) := by
    rw [String.toList_append]
    exact splitOptionalNetmask_append (slash_not_mem h) (by decide)
  have hprefix : makeNetmaskV6 (some ['1', '2', '8']) = some 128 := by decide
  have hnetwork4 : networkV4 (text ++ "/128").toList = none := by
    simp only [networkV4, hsplit, hv4, Option.bind_eq_bind, Option.bind_some, Option.bind_none]
  have hnetwork6 : networkV6 (text ++ "/128").toList = some (.of ip 128) := by
    simp only [networkV6, hsplit, hip, hprefix, Option.bind_eq_bind, Option.bind_some]
  rw [ipNetwork, hnetwork4, hnetwork6]
  rfl

example : ipNetwork "172.16.5.5/255.240.0.0" = ipNetwork "172.16.0.0/12" := by decide +kernel

example : ipAddress "::ffff:10.0.0.1" = some (.v6 0xffff0a000001) := by decide +kernel

end InduSense.Network
