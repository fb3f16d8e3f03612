import DjangoWaf.Lib.PyStr
import Mathlib.Algebra.Group.Nat.Defs

/-!
# Internet addresses, as Python's `ipaddress` reads them

`ip_address` and `ip_network(…, strict=False)` with the membership test, for both families. An
address keeps its family, its number and, for IPv6, the scope it was written with; a text that
Python refuses with `ValueError` reads as `none`.

* IPv4 is four decimal octets without leading zeros. A network's mask is a prefix length, a netmask
  or a hostmask.
* IPv6 is eight groups of one to four hexadecimal digits, with one `::` for the missing ones and
  possibly a dotted tail; a mask is a prefix length and nothing else.
* Equality of addresses compares the scope too (`DecidableEq`); membership in a network does not.
-/

namespace IpAddress

/-- The two families. -/
inductive Version
  | v4
  | v6
  deriving DecidableEq, Repr

/-- The number of bits of an address. -/
def Version.bits : Version → ℕ
  | v4 => 32
  | v6 => 128

/-- An address: its family, its number and its scope. -/
structure Address where
  version : Version
  value : ℕ
  value_lt : value < 2 ^ version.bits
  scope : Option (List Char)
  deriving DecidableEq

/-- A network: its family, the number of its network address and the length of its prefix. -/
structure Network where
  version : Version
  network : ℕ
  prefixlen : ℕ
  prefixlen_le : prefixlen ≤ version.bits
  deriving DecidableEq

/-- The number a digit string spells, in a base. -/
def ofDigits (base : ℕ) (digit : Char → ℕ) (cs : List Char) : ℕ :=
  cs.foldl (fun n c ↦ base * n + digit c) 0

/-- The value of a hexadecimal digit. -/
def hexDigit (c : Char) : ℕ :=
  if PyStr.isDigit c then c.toNat - 48 else if c.toNat ≤ 70 then c.toNat - 55 else c.toNat - 87

/-- Whether a character is a hexadecimal digit. -/
def isHexDigit (c : Char) : Bool :=
  PyStr.isDigit c || ('a' ≤ c && c ≤ 'f') || ('A' ≤ c && c ≤ 'F')

/-! ### IPv4 -/

/-- One octet: one to three ASCII digits, no leading zero, at most `255`. -/
def parseOctet (cs : List Char) : Option ℕ :=
  if cs ≠ [] ∧ cs.all PyStr.isDigit = true ∧ cs.length ≤ 3 ∧ (cs ≠ ['0'] → cs.head? ≠ some '0') ∧
      PyStr.ofDigits cs ≤ 255 then
    some (PyStr.ofDigits cs)
  else none

/-- `IPv4Address._ip_int_from_string`. -/
def ipv4Int (cs : List Char) : Option ℕ :=
  match PyStr.splitOn '.' cs with
  | [a, b, c, d] => do
    let a ← parseOctet a
    let b ← parseOctet b
    let c ← parseOctet c
    let d ← parseOctet d
    return ((a * 256 + b) * 256 + c) * 256 + d
  | _ => none

/-! ### IPv6 -/

/-- One group of an IPv6 address. -/
def parseHextet (cs : List Char) : Option ℕ :=
  if cs ≠ [] ∧ cs.all isHexDigit = true ∧ cs.length ≤ 4 then some (ofDigits 16 hexDigit cs)
  else none

/-- The number a list of groups spells. -/
def hextets (acc : ℕ) : List (List Char) → Option ℕ
  | [] => some acc
  | p :: ps => do
    let h ← parseHextet p
    hextets (acc * 65536 + h) ps

/-- The groups with a dotted tail rewritten as two hexadecimal groups. -/
def expandDottedTail (parts : List (List Char)) : Option (List (List Char)) :=
  match parts.getLast? with
  | some tail =>
    if tail.contains '.' then do
      let n ← ipv4Int tail
      return parts.dropLast ++ [Nat.toDigits 16 (n / 65536), Nat.toDigits 16 (n % 65536)]
    else some parts
  | none => some parts

/-- The positions, other than the first and the last, of empty groups. -/
def emptyParts (parts : List (List Char)) : List ℕ :=
  ((List.range parts.length).drop 1).dropLast.filter fun i ↦ parts[i]? == some []

/-- The groups around a `::`, when there is one: how many stand before it and how many after. The
first and the last group may be empty only as part of it. -/
def skipParts (parts : List (List Char)) : Option (ℕ × ℕ) :=
  match emptyParts parts with
  | [] => if parts.length = 8 then some (8, 0) else none
  | [i] =>
    let hi := if parts.head? = some [] then i - 1 else i
    let lo := parts.length - i - 1
    let lo' := if parts.getLast? = some [] then lo - 1 else lo
    if (parts.head? = some [] ∧ hi ≠ 0) ∨ (parts.getLast? = some [] ∧ lo' ≠ 0) ∨
        8 < hi + lo' + 1 then
      none
    else some (hi, lo')
  | _ => none

/-- `IPv6Address._ip_int_from_string`. -/
def ipv6Int (cs : List Char) : Option ℕ :=
  let parts := PyStr.splitOn ':' cs
  if parts.length < 3 then none
  else do
    let parts ← expandDottedTail parts
    if 9 < parts.length then none
    let (hi, lo) ← skipParts parts
    let high ← hextets 0 (parts.take hi)
    hextets (high * 65536 ^ (8 - (hi + lo))) (parts.drop (parts.length - lo))

/-- The address in front of a `%` and the scope behind it, which must be there and hold no `%`. -/
def splitScopeId (cs : List Char) : Option (List Char × Option (List Char)) :=
  match PyStr.splitOnce ['%'] cs with
  | none => some (cs, none)
  | some (addr, scope) => if scope = [] ∨ '%' ∈ scope then none else some (addr, some scope)

/-! ### Addresses and networks -/

/-- An address of a family, when the number fits it. -/
def Address.ofNat? (version : Version) (value : ℕ) (scope : Option (List Char)) : Option Address :=
  if h : value < 2 ^ version.bits then some ⟨version, value, h, scope⟩ else none

/-- `IPv4Address(s)`. -/
def ipv4Address (cs : List Char) : Option Address := do
  if '/' ∈ cs then none
  let n ← ipv4Int cs
  Address.ofNat? .v4 n none

/-- `IPv6Address(s)`. -/
def ipv6Address (cs : List Char) : Option Address := do
  if '/' ∈ cs then none
  let (addr, scope) ← splitScopeId cs
  let n ← ipv6Int addr
  Address.ofNat? .v6 n scope

/-- `ip_address(s)`: the IPv4 reading first. -/
def ipAddress (s : String) : Option Address :=
  (ipv4Address s.toList).or (ipv6Address s.toList)

/-- A prefix length, written in ASCII digits. -/
def prefixFromPrefixString (version : Version) (cs : List Char) : Option ℕ :=
  if cs ≠ [] ∧ cs.all PyStr.isDigit = true ∧ PyStr.ofDigits cs ≤ version.bits then
    some (PyStr.ofDigits cs)
  else none

/-- The prefix length of a netmask. -/
def prefixFromNetmask (n : ℕ) : Option ℕ :=
  (List.range 33).find? fun p ↦ n = 2 ^ 32 - 2 ^ (32 - p)

/-- `_make_netmask`: a prefix length, or for IPv4 a netmask, or a hostmask. -/
def makeNetmask (version : Version) (cs : List Char) : Option ℕ :=
  match prefixFromPrefixString version cs, version with
  | some p, _ => some p
  | none, .v6 => none
  | none, .v4 => do
    let n ← ipv4Int cs
    (prefixFromNetmask n).or (prefixFromNetmask (2 ^ 32 - 1 - n))

/-- The number with the host bits of a prefix cleared. -/
def maskBits (version : Version) (prefixlen n : ℕ) : ℕ :=
  n / 2 ^ (version.bits - prefixlen) * 2 ^ (version.bits - prefixlen)

/-- A network of one family: the host bits of the written address are dropped. -/
def networkOf (version : Version) (address : List Char → Option Address) (cs : List Char) :
    Option Network :=
  match PyStr.splitOn '/' cs with
  | [addr] => do
    let a ← address addr
    return ⟨version, a.value, version.bits, le_rfl⟩
  | [addr, mask] => do
    let a ← address addr
    let p ← makeNetmask version mask
    if h : p ≤ version.bits then some ⟨version, maskBits version p a.value, p, h⟩ else none
  | _ => none

/-- `ip_network(s, strict=False)`: the IPv4 reading first. -/
def ipNetwork (s : String) : Option Network :=
  (networkOf .v4 ipv4Address s.toList).or (networkOf .v6 ipv6Address s.toList)

/-- `address in network`. -/
def Network.contains (n : Network) (a : Address) : Bool :=
  n.version = a.version && maskBits n.version n.prefixlen a.value = n.network

example : (ipAddress "192.0.2.7").map Address.value = some 3221225991 := by decide
example : (ipAddress "::ffff:192.0.2.7").map Address.value = some 281473902969351 := by decide
example : (ipAddress "2001:DB8::8:800:200C:417A").map Address.value =
    some 42540766411282592856906245548098208122 := by decide
example : ipAddress "1::2::3" = none := by decide
example : ipAddress "192.0.02.7" = none := by decide
example : ((ipNetwork "10.1.2.3/255.255.0.0").bind fun n ↦
    (ipAddress "10.1.200.9").map n.contains) = some true := by decide

/-! ### Texts -/

/-- The dotted text of an IPv4 number. -/
def ipv4Text (n : ℕ) : List Char :=
  ['.'].intercalate ([24, 16, 8, 0].map fun shift ↦ Nat.toDigits 10 (n / 2 ^ shift % 256))

/-- Where the longest run of zero groups starts, and its length; the first of several. -/
def longestZeros (hextets : List ℕ) : ℕ × ℕ :=
  let run i := ((hextets.drop i).takeWhile fun h ↦ h = 0).length
  (List.range hextets.length).foldl
    (fun best i ↦ if best.2 < run i then (i, run i) else best) (0, 0)

/-- The text of an IPv6 number: its groups, with the longest run of two or more zeros left out. -/
def ipv6Text (n : ℕ) : List Char :=
  let hextets := (List.range 8).map fun i ↦ n / 2 ^ (16 * (7 - i)) % 2 ^ 16
  let (start, len) := longestZeros hextets
  let texts := hextets.map (Nat.toDigits 16)
  if 1 < len then
    [':'].intercalate (texts.take start) ++ [':', ':'] ++
      [':'].intercalate (texts.drop (start + len))
  else [':'].intercalate texts

/-- `compressed`. -/
def Address.compressed (a : Address) : String :=
  match a.version, a.scope with
  | .v4, _ => String.ofList (ipv4Text a.value)
  | .v6, none => String.ofList (ipv6Text a.value)
  | .v6, some zone => String.ofList (ipv6Text a.value ++ '%' :: zone)

/-- `str(network)`, for a network address that was written with a scope or without one. -/
def Network.text (n : Network) (scope : Option (List Char)) : String :=
  let address := match n.version with
    | .v4 => ipv4Text n.network
    | .v6 => ipv6Text n.network
  let zone := match scope with
    | some zone => '%' :: zone
    | none => []
  String.ofList (address ++ zone ++ ['/'] ++ Nat.toDigits 10 n.prefixlen)

example : (ipAddress "2001:DB8:0:0:1::1%eth0").map Address.compressed =
    some "2001:db8::1:0:0:1%eth0" := by decide +kernel
example : (ipNetwork "192.0.2.7/24").map (fun n ↦ n.text none) = some "192.0.2.0/24" := by
  decide +kernel
example : (ipNetwork "2001:DB8:0:0:1::1/48").map (fun n ↦ n.text none) = some "2001:db8::/48" := by
  decide +kernel

/-! ### Spellings of one host -/

/-- The IPv4 number of an IPv4-mapped address. -/
def Address.ipv4Mapped (a : Address) : Option ℕ :=
  if a.version = .v6 ∧ a.value / 2 ^ 32 = 0xFFFF then some (a.value % 2 ^ 32) else none

/-- The host an address names: an IPv4-mapped address names the IPv4 host inside it. -/
def Address.host (a : Address) : Version × ℕ × Option (List Char) :=
  match a.ipv4Mapped with
  | some n => (.v4, n, a.scope)
  | none => (a.version, a.value, a.scope)

/-- Within a family a host has one address: only the mapped form gives it two. -/
theorem eq_of_host {a a' : Address} (hv : a.version = a'.version) (h : a.host = a'.host) :
    a = a' := by
  have hvalue : a.value = a'.value ∧ a.scope = a'.scope := by
    unfold Address.host Address.ipv4Mapped at h
    rw [hv] at h
    split_ifs at h with hm hm'
    · -- both are mapped: the lower half is the host's number, the upper half is fixed
      obtain ⟨hlow, hscope⟩ := Prod.mk.inj (Prod.mk.inj h).2
      refine ⟨?_, hscope⟩
      rw [← Nat.div_add_mod a.value (2 ^ 32), ← Nat.div_add_mod a'.value (2 ^ 32), hm.2, hm'.2,
        hlow]
    · -- one of them is mapped, and then the hosts differ in the family
      have hfamily : Version.v4 = a'.version := (Prod.mk.inj h).1
      rw [← hfamily] at hm
      exact absurd hm.1 nofun
    · have hfamily : a'.version = Version.v4 := (Prod.mk.inj h).1
      rename_i hm'
      rw [hfamily] at hm'
      exact absurd hm'.1 nofun
    · exact Prod.mk.inj (Prod.mk.inj h).2
  rcases a with ⟨v, n, hn, scope⟩
  rcases a' with ⟨v', n', hn', scope'⟩
  obtain rfl : v = v' := hv
  obtain ⟨rfl, rfl⟩ : n = n' ∧ scope = scope' := hvalue
  rfl

theorem ipv4Address_spec {cs : List Char} {a : Address} (h : ipv4Address cs = some a) :
    '/' ∉ cs ∧ a.version = .v4 := by
  rw [ipv4Address] at h
  split_ifs at h with hslash
  · cases h
  · refine ⟨hslash, ?_⟩
    simp only [Option.bind_eq_bind, Option.bind_eq_some_iff, Address.ofNat?] at h
    obtain ⟨n, -, ha⟩ := h
    split_ifs at ha
    cases ha
    rfl

theorem ipv6Address_spec {cs : List Char} {a : Address} (h : ipv6Address cs = some a) :
    '/' ∉ cs ∧ a.version = .v6 := by
  rw [ipv6Address] at h
  split_ifs at h with hslash
  · cases h
  · refine ⟨hslash, ?_⟩
    simp only [Option.bind_eq_bind, Option.bind_eq_some_iff, Address.ofNat?] at h
    obtain ⟨p, -, n, -, ha⟩ := h
    split_ifs at ha
    cases ha
    rfl

/-- The network of a bare address holds that address and no other of its family. -/
theorem contains_networkOf {version : Version} {address : List Char → Option Address}
    {cs : List Char} {a : Address} (hslash : '/' ∉ cs) (ha : address cs = some a)
    (hv : a.version = version) :
    ∃ n, networkOf version address cs = some n ∧ n.contains a = true := by
  refine ⟨⟨version, a.value, version.bits, le_rfl⟩, ?_, ?_⟩
  · simp only [networkOf, PyStr.splitOn_of_not_mem hslash, ha]
    rfl
  · simp [Network.contains, maskBits, hv]

/-- **An address is read as a network too**, and lies in it. -/
theorem ipNetwork_of_ipAddress {s : String} {a : Address} (h : ipAddress s = some a) :
    ∃ n, ipNetwork s = some n ∧ n.contains a = true := by
  rw [ipAddress, Option.or_eq_some_iff] at h
  rcases h with h4 | ⟨h4, h6⟩
  · obtain ⟨hslash, hv⟩ := ipv4Address_spec h4
    obtain ⟨n, hn, hin⟩ := contains_networkOf hslash h4 hv
    exact ⟨n, by rw [ipNetwork, hn, Option.some_or], hin⟩
  · obtain ⟨hslash, hv⟩ := ipv6Address_spec h6
    obtain ⟨n, hn, hin⟩ := contains_networkOf hslash h6 hv
    refine ⟨n, ?_, hin⟩
    have hno : networkOf .v4 ipv4Address s.toList = none := by
      simp only [networkOf, PyStr.splitOn_of_not_mem hslash, h4]
      rfl
    rw [ipNetwork, hno, Option.none_or, hn]

end IpAddress
