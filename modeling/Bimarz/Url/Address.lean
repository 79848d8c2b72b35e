import Bimarz.Url.Quote

/-!
# IP addresses (`ipaddress`)

Which texts `ipaddress.ip_address` takes, and for which version. An IPv6 address without a zone
consists of hexadecimal digits, colons and dots.
-/

namespace Url

inductive IpVersion
  | v4
  | v6
  deriving DecidableEq, Repr

/-! ## IPv4 -/

def decimal (cs : Chars) : ℕ := Nat.ofDigitChars 10 cs 0

/-- `IPv4Address._parse_octet`. -/
def parseOctet (octet : Chars) : Option ℕ :=
  if octet = [] then none
  else if ¬octet.all Char.isDigit then none
  else if octet.length > 3 then none
  else if octet ≠ ['0'] ∧ octet.head? = some '0' then none
  else if decimal octet > 255 then none
  else some (decimal octet)

/-- `IPv4Address(address)`, as the number of the address. -/
def ipv4 (address : Chars) : Option ℕ :=
  if '/' ∈ address then none
  else
    let octets := address.splitOn '.'
    if octets.length ≠ 4 then none
    else (octets.mapM parseOctet).map fun values => values.foldl (fun n v => n * 256 + v) 0

/-! ## IPv6 -/

/-- `IPv6Address._parse_hextet` does not raise. -/
def isHextet (hextet : Chars) : Bool :=
  hextet ≠ [] && hextet.length ≤ 4 && hextet.all fun c => (Hex.value c).isSome

/-- The parts between the colons, with an IPv4 address at the end as two of them. -/
def ipv6Parts (address : Chars) : Option (List Chars) :=
  let parts := address.splitOn ':'
  if parts.length < 3 then none
  else
    let parts :=
      if '.' ∈ parts.getLastD [] then
        (ipv4 (parts.getLastD [])).map fun ip =>
          parts.dropLast ++ [Nat.toDigits 16 (ip / 65536), Nat.toDigits 16 (ip % 65536)]
      else some parts
    parts.filter fun parts => parts.length ≤ 9

/-- The places of a `::`, the endpoints disregarded. -/
def skipIndexes (parts : List Chars) : List ℕ :=
  (List.range parts.length).filter fun i =>
    0 < i ∧ i + 1 < parts.length ∧ parts[i]? = some []

/-- The parts on one side of the `::`: an empty endpoint must be the only one. -/
def side (parts : List Chars) (endpoint : Chars) : Option (List Chars) :=
  if endpoint = [] then if parts.length = 1 then some [] else none
  else some parts

/-- `IPv6Address._ip_int_from_string` does not raise. -/
def isIpv6Int (address : Chars) : Bool :=
  match ipv6Parts address with
  | none => false
  | some parts =>
    match skipIndexes parts with
    | [] => parts.length = 8 && parts.all isHextet
    | [i] =>
      match side (parts.take i) (parts.headD []), side (parts.drop (i + 1)) (parts.getLastD []) with
      | some high, some low =>
        high.length + low.length < 8 && high.all isHextet && low.all isHextet
      | _, _ => false
    | _ => false

/-- `IPv6Address(address)` does not raise. -/
def isIpv6 (address : Chars) : Bool :=
  if '/' ∈ address then false
  else
    match Text.partition '%' address with
    | (addr, false, _) => isIpv6Int addr
    | (addr, true, scope) => if scope = [] ∨ '%' ∈ scope then false else isIpv6Int addr

/-- `ip_address(address).version`; `none` is a `ValueError`. -/
def ipAddress (address : Chars) : Option IpVersion :=
  if (ipv4 address).isSome then some .v4
  else if isIpv6 address then some .v6
  else none

/-! ## The characters of an address -/

theorem mem_intercalate {sep c : Char} {parts : List Chars}
    (h : c ∈ [sep].intercalate parts) : c = sep ∨ ∃ part ∈ parts, c ∈ part := by
  induction parts with
  | nil => cases h
  | cons part parts ih =>
    cases parts with
    | nil =>
      rw [List.intercalate_singleton] at h
      exact Or.inr ⟨part, List.mem_cons_self, h⟩
    | cons part' parts =>
      rw [List.intercalate_cons_cons, List.mem_append, List.mem_append] at h
      rcases h with (h | h) | h
      · exact Or.inr ⟨part, List.mem_cons_self, h⟩
      · exact Or.inl (List.mem_singleton.mp h)
      · rcases ih h with h | ⟨p, hp, hc⟩
        · exact Or.inl h
        · exact Or.inr ⟨p, List.mem_cons_of_mem _ hp, hc⟩

/-- A character of a text is a separator or stands in one of the parts. -/
theorem mem_part {sep c : Char} {cs : Chars} (h : c ∈ cs) :
    c = sep ∨ ∃ part ∈ cs.splitOn sep, c ∈ part := by
  have hjoined : [sep].intercalate (cs.splitOn sep) = cs := List.intercalate_splitOn sep
  rw [← hjoined] at h
  exact mem_intercalate h

theorem digit_of_parseOctet {octet : Chars} (h : (parseOctet octet).isSome = true) :
    octet.all Char.isDigit = true := by
  by_contra hnot
  unfold parseOctet at h
  split at h
  · cases h
  · cases h

theorem isSome_of_mapM {α β : Type} {f : α → Option β} {xs : List α} {ys : List β}
    (h : xs.mapM f = some ys) : ∀ x ∈ xs, (f x).isSome = true := by
  induction xs generalizing ys with
  | nil => nofun
  | cons x xs ih =>
    rw [List.mapM_cons] at h
    obtain ⟨y, hy, h⟩ := Option.bind_eq_some_iff.mp h
    obtain ⟨ys', hys, -⟩ := Option.bind_eq_some_iff.mp h
    rw [List.forall_mem_cons]
    exact ⟨Option.isSome_iff_exists.mpr ⟨y, hy⟩, ih hys⟩

/-- An IPv4 address consists of digits and dots. -/
theorem digit_of_ipv4 {address : Chars} (h : (ipv4 address).isSome = true) {c : Char}
    (hc : c ∈ address) : c.isDigit = true ∨ c = '.' := by
  simp only [ipv4] at h
  split at h
  · cases h
  split at h
  · cases h
  rw [Option.isSome_map] at h
  obtain ⟨values, hvalues⟩ := Option.isSome_iff_exists.mp h
  rcases mem_part hc with hdot | ⟨part, hpart, hcpart⟩
  · exact Or.inr hdot
  · left
    have hoctet := digit_of_parseOctet (isSome_of_mapM hvalues part hpart)
    exact List.all_eq_true.mp hoctet c hcpart

/-- One side of the `::`. -/
theorem side_spec {parts side' : List Chars} {endpoint : Chars}
    (h : side parts endpoint = some side') (hall : side'.all isHextet = true)
    (hendpoint : ∀ part, parts = [part] → part = endpoint) :
    ∀ part ∈ parts, isHextet part = true ∨ part = [] := by
  unfold side at h
  intro part hpart
  split at h
  · rename_i hempty
    split at h
    · rename_i hlength
      obtain ⟨only, rfl⟩ := List.length_eq_one_iff.mp hlength
      right
      rw [List.mem_singleton.mp hpart, hendpoint only rfl, hempty]
    · cases h
  · cases h
    exact Or.inl (List.all_eq_true.mp hall part hpart)

/-- The parts of an IPv6 address are groups of hexadecimal digits or empty. -/
theorem hextet_of_isIpv6Int {address : Chars} {parts : List Chars}
    (hparts : ipv6Parts address = some parts) (h : isIpv6Int address = true) :
    ∀ part ∈ parts, isHextet part = true ∨ part = [] := by
  unfold isIpv6Int at h
  rw [hparts] at h
  simp only at h
  split at h
  · intro part hpart
    obtain ⟨-, hall⟩ := (Bool.and_eq_true _ _).mp h
    exact Or.inl (List.all_eq_true.mp hall part hpart)
  · rename_i i hskip
    have hmem : i ∈ skipIndexes parts := by
      rw [hskip]
      exact List.mem_singleton_self i
    obtain ⟨-, hi⟩ := List.mem_filter.mp hmem
    obtain ⟨hpos, hlast, hempty⟩ := of_decide_eq_true hi
    split at h
    · rename_i high low hhigh hlow
      simp only [Bool.and_eq_true] at h
      have hcut : parts = parts.take i ++ [] :: parts.drop (i + 1) := by
        have hdrop := List.drop_eq_getElem?_toList_append (l := parts) (i := i)
        rw [hempty] at hdrop
        exact (List.take_append_drop i parts).symm.trans (congrArg (parts.take i ++ ·) hdrop)
      have hleft := side_spec hhigh h.1.2 fun part htake => by
        rw [hcut, htake]
        rfl
      have hright := side_spec hlow h.2 fun part hdrop => by
        rw [hcut, hdrop]
        simp
      intro part hpart
      rw [hcut, List.mem_append, List.mem_cons] at hpart
      rcases hpart with hpart | hpart | hpart
      · exact hleft part hpart
      · exact Or.inr hpart
      · exact hright part hpart
    · cases h
  · cases h

theorem hex_of_hextet {hextet : Chars} (h : isHextet hextet = true) {c : Char} (hc : c ∈ hextet) :
    (Hex.value c).isSome = true := by
  simp only [isHextet, Bool.and_eq_true] at h
  exact List.all_eq_true.mp h.2 c hc

/-- The characters of an IPv6 address. -/
def IsIpv6Char (c : Char) : Prop := (Hex.value c).isSome = true ∨ c = ':' ∨ c = '.'

theorem isIpv6Char_of_digit {c : Char} (h : c.isDigit = true) : IsIpv6Char c := by
  left
  simp only [Char.isDigit, Bool.and_eq_true, decide_eq_true_eq, ge_iff_le,
    UInt32.le_iff_toNat_le] at h
  have hc : c.toNat = c.val.toNat := rfl
  have hzero : '0'.val.toNat = 48 := rfl
  have hnine : '9'.val.toNat = 57 := rfl
  unfold Hex.value
  simp only
  rw [if_pos (by omega)]
  rfl

/-- An IPv6 address without a zone consists of hexadecimal digits, colons and dots. -/
theorem isIpv6Char_of_isIpv6Int {address : Chars} (h : isIpv6Int address = true) {c : Char}
    (hc : c ∈ address) : IsIpv6Char c := by
  cases hparts : ipv6Parts address with
  | none =>
    unfold isIpv6Int at h
    rw [hparts] at h
    cases h
  | some parts =>
    have hhextet := hextet_of_isIpv6Int hparts h
    have hchar : ∀ part ∈ parts, c ∈ part → IsIpv6Char c := by
      intro part hpart hcpart
      rcases hhextet part hpart with hextet | rfl
      · exact Or.inl (hex_of_hextet hextet hcpart)
      · cases hcpart
    rcases mem_part hc with hcolon | ⟨part, hpart, hcpart⟩
    · exact Or.inr (Or.inl hcolon)
    · simp only [ipv6Parts] at hparts
      split at hparts
      · cases hparts
      split at hparts
      · obtain ⟨⟨ip, hip, hsome⟩, -⟩ := by
          simpa only [Option.filter_eq_some_iff, Option.map_eq_some_iff] using hparts
        have hne : address.splitOn ':' ≠ [] := List.ne_nil_of_mem hpart
        have hlast : (address.splitOn ':').getLastD [] = (address.splitOn ':').getLast hne := by
          rw [List.getLastD_eq_getLast?, List.getLast?_eq_getLast_of_ne_nil hne]
          rfl
        rw [← List.dropLast_concat_getLast hne, List.mem_append, List.mem_singleton] at hpart
        rcases hpart with hpart | rfl
        · apply hchar part _ hcpart
          rw [← hsome]
          exact List.mem_append_left _ hpart
        · rw [hlast] at hip
          rcases digit_of_ipv4 (Option.isSome_iff_exists.mpr ⟨ip, hip⟩) hcpart with hdigit | hdot
          · exact isIpv6Char_of_digit hdigit
          · exact Or.inr (Or.inr hdot)
      · have hsame := (Option.filter_eq_some_iff.mp hparts).1
        cases hsame
        exact hchar part hpart hcpart

end Url
