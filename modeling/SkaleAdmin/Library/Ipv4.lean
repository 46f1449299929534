import SkaleAdmin.Library.PyNumerals

/-! IPv4 addresses and networks, as Python's `ipaddress` reads and writes them. -/

namespace Ipv4

open PyText

@[ext] structure Address where
  first : Fin 256
  second : Fin 256
  third : Fin 256
  fourth : Fin 256
  deriving DecidableEq

namespace Address

def toNat (address : Address) : Nat :=
  ((address.first * 256 + address.second) * 256 + address.third) * 256 +
    address.fourth

def octets (address : Address) : List Text :=
  [address.first, address.second, address.third, address.fourth].map
    fun octet : Fin 256 => PyText.str (octet : Nat)

def str (address : Address) : Text :=
  ['.'].intercalate address.octets

end Address

/-- ASCII digits, three at most, and a leading zero only in `0` itself. -/
def parseOctet (text : Text) : Option (Fin 256) :=
  if text ≠ [] ∧ text.all Char.isDigit ∧ text.length ≤ 3 ∧
      (text = ['0'] ∨ text.head? ≠ some '0') then
    let value := Nat.ofDigitChars 10 text 0
    if small : value < 256 then some ⟨value, small⟩ else none
  else
    none

def parseAddress (text : Text) : Option Address :=
  match text.splitOn '.' with
  | [first, second, third, fourth] => do
      return {
        first := ← parseOctet first
        second := ← parseOctet second
        third := ← parseOctet third
        fourth := ← parseOctet fourth }
  | _ => none

/-- Addresses that share their first `prefixLength` bits; the network address has
no others set. -/
@[ext] structure Network where
  address : Address
  prefixLength : Nat
  short : prefixLength ≤ 32
  aligned : 2 ^ (32 - prefixLength) ∣ address.toNat
  deriving DecidableEq

def Address.host (address : Address) : Network where
  address := address
  prefixLength := 32
  short := Nat.le_refl 32
  aligned := Nat.one_dvd _

namespace Network

def str (network : Network) : Text :=
  network.address.str ++ '/' :: PyText.str network.prefixLength

def Contains (network : Network) (address : Address) : Prop :=
  address.toNat / 2 ^ (32 - network.prefixLength) =
    network.address.toNat / 2 ^ (32 - network.prefixLength)

instance (network : Network) (address : Address) :
    Decidable (network.Contains address) :=
  inferInstanceAs (Decidable (_ = _))

end Network

def prefixOfMask (mask : Nat) : Option Nat :=
  (List.range 33).find? fun length => mask = 2 ^ 32 - 2 ^ (32 - length)

def parseMask (text : Text) : Option Nat :=
  if text ≠ [] ∧ text.all Char.isDigit then
    let length := Nat.ofDigitChars 10 text 0
    if length ≤ 32 then some length else none
  else
    (parseAddress text).bind fun mask =>
      (prefixOfMask mask.toNat).or (prefixOfMask (2 ^ 32 - 1 - mask.toNat))

/-- `ip_network(text)`; `none` stands for its `ValueError`, which it raises also where
bits outside the prefix are set. -/
def parseNetwork (text : Text) : Option Network :=
  match text.splitOn '/' with
  | [address] => (parseAddress address).map Address.host
  | [address, mask] => do
      let address ← parseAddress address
      let prefixLength ← parseMask mask
      if fits : prefixLength ≤ 32 ∧ 2 ^ (32 - prefixLength) ∣ address.toNat then
        return ⟨address, prefixLength, fits.1, fits.2⟩
      else
        none
  | _ => none

namespace Address

theorem toNat_injective {address other : Address}
    (same : address.toNat = other.toNat) : address = other := by
  obtain ⟨first, second, third, fourth⟩ := address
  obtain ⟨first', second', third', fourth'⟩ := other
  simp only [toNat] at same
  ext <;> simp only <;> omega

theorem mem_octets {address : Address} {text : Text} (member : text ∈ address.octets) :
    ∃ octet : Fin 256, text = PyText.str (octet : Nat) := by
  obtain ⟨octet, _, rfl⟩ := List.mem_map.mp member
  exact ⟨octet, rfl⟩

theorem host_contains {address other : Address} :
    address.host.Contains other ↔ other = address := by
  simp only [Network.Contains, host, Nat.sub_self, Nat.pow_zero, Nat.div_one]
  exact ⟨toNat_injective, fun same => congrArg toNat same⟩

end Address

section Texts

theorem isDigit_of_mem_str {value : Nat} {symbol : Char}
    (member : symbol ∈ PyText.str (value : Nat)) : symbol.isDigit = true := by
  rw [str_natCast] at member
  exact Nat.isDigit_of_mem_toDigits (by decide) (by decide) member

theorem notMem_str_of_not_isDigit {value : Nat} {symbol : Char}
    (plain : symbol.isDigit = false) : symbol ∉ PyText.str (value : Nat) := by
  intro member
  rw [isDigit_of_mem_str member] at plain
  cases plain

theorem isDigit_of_mem_addressStr {address : Address} {symbol : Char}
    (member : symbol ∈ address.str) : symbol.isDigit = true ∨ symbol = '.' := by
  have within : ∀ (texts : List Text), (∀ text ∈ texts, ∃ octet : Fin 256,
      text = PyText.str (octet : Nat)) → symbol ∈ ['.'].intercalate texts →
      symbol.isDigit = true ∨ symbol = '.' := by
    intro texts spelled inside
    induction texts with
    | nil => cases inside
    | cons text rest ih =>
        obtain ⟨octet, rfl⟩ := spelled text (by simp)
        cases rest with
        | nil =>
            left
            exact isDigit_of_mem_str (by simpa using inside)
        | cons other rest =>
            rw [List.intercalate_cons_cons] at inside
            simp only [List.mem_append, List.mem_singleton] at inside
            rcases inside with (inside | inside) | inside
            · exact .inl (isDigit_of_mem_str inside)
            · exact .inr inside
            · exact ih (fun text member => spelled text (by simp [member])) inside
  exact within _ (fun _ => Address.mem_octets) member

theorem notMem_addressStr {address : Address} {symbol : Char}
    (plain : symbol.isDigit = false) (other : symbol ≠ '.') :
    symbol ∉ address.str := by
  intro member
  rcases isDigit_of_mem_addressStr member with digit | dot
  · rw [digit] at plain
    cases plain
  · exact other dot

end Texts

section RoundTrips

theorem parseOctet_str :
    ∀ octet : Fin 256, parseOctet (PyText.str (octet : Nat)) = some octet := by
  decide +kernel

theorem parseAddress_str (address : Address) :
    parseAddress address.str = some address := by
  have split : address.str.splitOn '.' = address.octets := by
    apply List.splitOn_intercalate
    · intro text member
      obtain ⟨octet, rfl⟩ := Address.mem_octets member
      exact notMem_str_of_not_isDigit (by decide)
    · exact List.cons_ne_nil _ _
  unfold parseAddress
  rw [split]
  simp [Address.octets, parseOctet_str]

theorem parseOctet_eq_some {text : Text} {octet : Fin 256} :
    parseOctet text = some octet ↔ text = PyText.str (octet : Nat) := by
  constructor
  · intro parsed
    unfold parseOctet at parsed
    split at parsed
    · rename_i spelled
      obtain ⟨filled, digits, _, plain⟩ := spelled
      simp only at parsed
      split at parsed
      · cases parsed
        rw [str_natCast]
        exact (toDigits_ofDigitChars digits filled plain).symm
      · cases parsed
    · cases parsed
  · rintro rfl
    exact parseOctet_str octet

/-- An address has one text. -/
theorem parseAddress_eq_some {text : Text} {address : Address} :
    parseAddress text = some address ↔ text = address.str := by
  constructor
  · intro parsed
    unfold parseAddress at parsed
    split at parsed
    · rename_i first second third fourth pieces
      simp only [Option.bind_eq_bind, Option.bind_eq_some_iff, Option.pure_def,
        Option.some.injEq] at parsed
      obtain ⟨a, ha, b, hb, c, hc, d, hd, rfl⟩ := parsed
      rw [parseOctet_eq_some] at ha hb hc hd
      have joined : ['.'].intercalate (text.splitOn '.') = text :=
        List.intercalate_splitOn '.'
      rw [← joined, pieces, ha, hb, hc, hd]
      rfl
    · cases parsed
  · rintro rfl
    exact parseAddress_str address

theorem addressStr_injective {address other : Address}
    (same : address.str = other.str) : address = other := by
  have read := parseAddress_str address
  rw [same, parseAddress_str] at read
  exact (Option.some.inj read).symm

theorem addressStr_ne_nil (address : Address) : address.str ≠ [] := by
  intro empty
  have read := parseAddress_str address
  rw [empty] at read
  cases read

theorem parseNetwork_addressStr (address : Address) :
    parseNetwork address.str = some address.host := by
  have whole : address.str.splitOn '/' = [address.str] :=
    List.splitOn_eq_singleton (notMem_addressStr (by decide) (by decide))
  unfold parseNetwork
  rw [whole]
  simp [parseAddress_str]

theorem parseMask_str : ∀ length ≤ 32, parseMask (PyText.str (length : Nat)) =
    some length := by
  decide +kernel

theorem parseNetwork_str (network : Network) :
    parseNetwork network.str = some network := by
  have split : network.str.splitOn '/' =
      [network.address.str, PyText.str network.prefixLength] := by
    unfold Network.str
    rw [List.splitOn_append_cons_self_of_not_mem
      (notMem_addressStr (by decide) (by decide)),
      List.splitOn_eq_singleton (notMem_str_of_not_isDigit (by decide))]
  unfold parseNetwork
  rw [split]
  simp [parseAddress_str, parseMask_str _ network.short, network.short,
    network.aligned]

theorem networkStr_ne_nil (network : Network) : network.str ≠ [] := by
  simp [Network.str]

end RoundTrips

end Ipv4
