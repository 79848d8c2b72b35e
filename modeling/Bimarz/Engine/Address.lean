import Bimarz.Text.Hex

/-!
# Reading IP addresses (`str::parse::<IpAddr>`)

The parser of `core::net`: it reads as much of the text as there is of an address and then wants the
end of the text. An IPv4 address has four octets and an IPv6 address sixteen.
-/

namespace Bimarz.Engine

/-- What is read at the start of a text, and the rest of the text. -/
abbrev Reader (α : Type) := List Char → Option (α × List Char)

/-! ## The parts -/

/-- `char::to_digit(radix)`. -/
def toDigit (radix : ℕ) (c : Char) : Option ℕ := (Hex.value c).filter (· < radix)

def isDigit (radix : ℕ) (c : Char) : Bool := (toDigit radix c).isSome

def number (radix : ℕ) (digits : List Char) : ℕ :=
  digits.foldl (fun n c => n * radix + (toDigit radix c).getD 0) 0

/-- `read_number`: all the digits there are, of which there must not be too many. -/
def readNumber (radix maxDigits : ℕ) (allowZeroPrefix : Bool) (bound : ℕ) : Reader ℕ := fun cs =>
  let digits := cs.takeWhile (isDigit radix)
  if digits = [] ∨ maxDigits < digits.length then none
  else if ¬allowZeroPrefix ∧ digits.head? = some '0' ∧ 1 < digits.length then none
  else if bound ≤ number radix digits then none
  else some (number radix digits, cs.dropWhile (isDigit radix))

/-- `read_given_char`. -/
def readGivenChar (target : Char) : List Char → Option (List Char)
  | c :: cs => if c = target then some cs else none
  | [] => none

/-- `read_separator`: no separator stands before the first one. -/
def readSeparator {α : Type} (sep : Char) (first : Bool) (inner : Reader α) : Reader α := fun cs =>
  if first then inner cs else (readGivenChar sep cs).bind inner

/-! ## IPv4 -/

/-- The octets from one on. -/
def readOctets : ℕ → Bool → Reader Bytes
  | 0, _, cs => some ([], cs)
  | k + 1, first, cs => do
    let (octet, cs) ← readSeparator '.' first (readNumber 10 3 false 256) cs
    let (octets, cs) ← readOctets k false cs
    return (UInt8.ofNat octet :: octets, cs)

/-- `read_ipv4_addr`. -/
def readIpv4 : Reader Bytes := readOctets 4 true

/-! ## IPv6 -/

/-- The octets of a group. -/
def groupOctets (group : ℕ) : Bytes := [UInt8.ofNat (group / 256), UInt8.ofNat (group % 256)]

/-- `read_groups`: at most `limit` groups of two octets each, and whether an IPv4 address ended
them. -/
def readGroups : ℕ → Bool → List Char → Bytes × Bool × List Char
  | 0, _, cs => ([], false, cs)
  | limit + 1, first, cs =>
    match if 0 < limit then readSeparator ':' first readIpv4 cs else none with
    | some (octets, cs) => (octets, true, cs)
    | none =>
      match readSeparator ':' first (readNumber 16 4 true 65536) cs with
      | some (group, cs) =>
        let (octets, ipv4, cs) := readGroups limit false cs
        (groupOctets group ++ octets, ipv4, cs)
      | none => ([], false, cs)

/-- `read_ipv6_addr`. -/
def readIpv6 : Reader Bytes := fun cs =>
  let (head, headIpv4, cs) := readGroups 8 true cs
  if head.length = 16 then some (head, cs)
  else if headIpv4 then none
  else do
    let cs ← readGivenChar ':' cs
    let cs ← readGivenChar ':' cs
    -- the `::` stands for one group at least
    let (tail, _, cs) := readGroups (8 - (head.length / 2 + 1)) true cs
    return (head ++ List.replicate (16 - head.length - tail.length) 0 ++ tail, cs)

/-! ## `IpAddr` -/

/-- `address.parse::<IpAddr>()`, as the octets of the address. -/
def parseIpAddr (address : List Char) : Option Bytes :=
  match (readIpv4 address).or (readIpv6 address) with
  | some (octets, []) => some octets
  | _ => none

example : parseIpAddr "192.0.2.7".toList = some [192, 0, 2, 7] := by decide

example : parseIpAddr "2001:db8::192.0.2.7".toList =
    some [0x20, 1, 0xd, 0xb8, 0, 0, 0, 0, 0, 0, 0, 0, 192, 0, 2, 7] := by decide

/-! ## The number of octets -/

theorem length_readOctets {k : ℕ} {first : Bool} {cs cs' : List Char} {octets : Bytes}
    (h : readOctets k first cs = some (octets, cs')) : octets.length = k := by
  induction k generalizing first cs octets cs' with
  | zero =>
    cases h
    rfl
  | succ k ih =>
    simp only [readOctets, Option.bind_eq_bind, Option.bind_eq_some_iff] at h
    obtain ⟨⟨octet, cs₁⟩, -, ⟨octets', cs₂⟩, hoctets, h⟩ := h
    cases h
    rw [List.length_cons, ih hoctets]

/-- Groups have two octets each, and an IPv4 address stands for two of them. -/
theorem length_readGroups (limit : ℕ) (first : Bool) (cs : List Char) :
    (readGroups limit first cs).1.length ≤ 2 * limit ∧
      (readGroups limit first cs).1.length % 2 = 0 := by
  induction limit generalizing first cs with
  | zero => exact ⟨Nat.le_refl _, rfl⟩
  | succ limit ih =>
    rw [readGroups]
    split
    · rename_i octets cs' hipv4
      split at hipv4
      · rename_i hpos
        have hlength : octets.length = 4 := by
          unfold readSeparator at hipv4
          split at hipv4
          · exact length_readOctets hipv4
          · obtain ⟨cs₁, -, hipv4⟩ := Option.bind_eq_some_iff.mp hipv4
            exact length_readOctets hipv4
        rw [hlength]
        exact ⟨by omega, rfl⟩
      · cases hipv4
    · split
      · rename_i group cs' hgroup
        have hrest := ih false cs'
        simp only [List.length_append, groupOctets, List.length_cons, List.length_nil]
        omega
      · simp

theorem length_readIpv6 {cs cs' : List Char} {octets : Bytes}
    (h : readIpv6 cs = some (octets, cs')) : octets.length = 16 := by
  have hhead := length_readGroups 8 true cs
  simp only [readIpv6] at h
  split at h
  · rename_i hlength
    cases h
    exact hlength
  · split at h
    · cases h
    · simp only [Option.bind_eq_bind, Option.bind_eq_some_iff] at h
      obtain ⟨cs₁, -, cs₂, -, h⟩ := h
      have htail := length_readGroups (8 - ((readGroups 8 true cs).1.length / 2 + 1)) true cs₂
      cases h
      simp only [List.length_append, List.length_replicate]
      omega

/-- An address has 4 or 16 octets. -/
theorem length_parseIpAddr {address : List Char} {octets : Bytes}
    (h : parseIpAddr address = some octets) : octets.length = 4 ∨ octets.length = 16 := by
  unfold parseIpAddr at h
  split at h
  · rename_i octets' hread
    cases h
    rcases Option.or_eq_some_iff.mp hread with hipv4 | ⟨-, hipv6⟩
    · exact Or.inl (length_readOctets hipv4)
    · exact Or.inr (length_readIpv6 hipv6)
  · cases h

end Bimarz.Engine
