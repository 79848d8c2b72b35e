import Bimarz.Python
import Bimarz.Url.Quote
import Mathlib.Algebra.Group.Nat.Defs

/-!
# UUIDs (`uuid.UUID`)

`Uuid.ofText` is the constructor, which takes more than the canonical text, and `Uuid.text` is
`str(uuid)`. The canonical text comes back.
-/

namespace Bimarz

open Url

/-- A number of 128 bits. -/
structure Uuid where
  int : ℕ
  lt : int < 2 ^ 128
  deriving DecidableEq

namespace Uuid

/-! ## `int(hex, 16)` -/

/-- The digits of any script and the blanks as ASCII; an ASCII text stays as it is. -/
def toAscii (cs : Chars) : Chars :=
  if cs.all isAscii then cs
  else cs.map fun c =>
    if c.toNat < 127 then c
    else if Python.isSpace c then ' '
    else
      match Python.digit c with
      | some d => Nat.digitChar d
      | none => '?'

def isBlank (c : Char) : Bool := Python.asciiSpaces.contains c.toNat

/-- A single underscore may stand before a digit. -/
def hexDigits (value : ℕ) : Chars → Option ℕ
  | [] => some value
  | '_' :: c :: cs => do hexDigits (value * 16 + (← Hex.value c)) cs
  | c :: cs => do hexDigits (value * 16 + (← Hex.value c)) cs

/-- The digits may come after `0x`. -/
def unsigned : Chars → Option ℕ
  | '0' :: 'x' :: '_' :: c :: cs => do hexDigits (← Hex.value c) cs
  | '0' :: 'x' :: c :: cs => do hexDigits (← Hex.value c) cs
  | '0' :: 'X' :: '_' :: c :: cs => do hexDigits (← Hex.value c) cs
  | '0' :: 'X' :: c :: cs => do hexDigits (← Hex.value c) cs
  | c :: cs => do hexDigits (← Hex.value c) cs
  | [] => none

/-- `int(hex, 16)` of a text without hyphens; `none` is a `ValueError`. -/
def hexInt (hex : Chars) : Option ℕ :=
  match (((toAscii hex).dropWhile isBlank).reverse.dropWhile isBlank).reverse with
  | '+' :: cs => unsigned cs
  | cs => unsigned cs

/-! ## The constructor -/

/-- `s.replace(old, "")`, after `skip` characters of an occurrence. -/
def remove (old : Chars) : ℕ → Chars → Chars
  | _, [] => []
  | skip + 1, _ :: cs => remove old skip cs
  | 0, c :: cs =>
    if old.isPrefixOf (c :: cs) then remove old (old.length - 1) cs else c :: remove old 0 cs

def isBrace (c : Char) : Bool := c = Char.ofNat 123 || c = Char.ofNat 125

/-- `uuid.UUID(hex)`; `none` is a `ValueError`. -/
def ofText (hex : Chars) : Option Uuid :=
  let hex := remove "uuid:".toList 0 (remove "urn:".toList 0 hex)
  let hex := ((hex.dropWhile isBrace).reverse.dropWhile isBrace).reverse
  let hex := hex.filter (· ≠ '-')
  if hex.length ≠ 32 then none
  else
    match hexInt hex with
    | some int => if h : int < 2 ^ 128 then some ⟨int, h⟩ else none
    | none => none

/-! ## The canonical text -/

/-- The last `k` hexadecimal digits. -/
def hexText : ℕ → ℕ → Chars
  | 0, _ => []
  | k + 1, n => Hex.digit (n / 16 ^ k % 16) :: hexText k n

def group (cs : Chars) (start stop : ℕ) : Chars := (cs.drop start).take (stop - start)

/-- `str(uuid)`. -/
def text (uuid : Uuid) : Chars :=
  let hex := hexText 32 uuid.int
  group hex 0 8 ++ '-' :: (group hex 8 12 ++ '-' :: (group hex 12 16 ++ '-' ::
    (group hex 16 20 ++ '-' :: group hex 20 32)))

/-! ## The round trip -/

theorem length_hexText (k n : ℕ) : (hexText k n).length = k := by
  induction k with
  | zero => rfl
  | succ k ih => rw [hexText, List.length_cons, ih]

theorem mem_hexText {k n : ℕ} {c : Char} (h : c ∈ hexText k n) : ∃ d < 16, c = Hex.digit d := by
  induction k with
  | zero => cases h
  | succ k ih =>
    rcases List.mem_cons.mp h with rfl | h
    · exact ⟨n / 16 ^ k % 16, Nat.mod_lt _ (by decide), rfl⟩
    · exact ih h

/-- What is known of a hexadecimal digit. -/
structure IsDigit (c : Char) : Prop where
  underscore : c ≠ '_'
  hyphen : c ≠ '-'
  u : c ≠ 'u'
  x : c ≠ 'x'
  upper_x : c ≠ 'X'
  plus : c ≠ '+'
  brace : isBrace c = false
  blank : isBlank c = false
  ascii : isAscii c = true

theorem isDigit_digit {d : ℕ} (h : d < 16) : IsDigit (Hex.digit d) := by
  constructor <;> revert d <;> decide

theorem isDigit_of_mem {k n : ℕ} {c : Char} (h : c ∈ hexText k n) : IsDigit c := by
  obtain ⟨d, hd, rfl⟩ := mem_hexText h
  exact isDigit_digit hd

theorem hexDigits_cons {c : Char} (h : c ≠ '_') (value : ℕ) (cs : Chars) :
    hexDigits value (c :: cs) = (Hex.value c).bind fun d => hexDigits (value * 16 + d) cs := by
  rw [hexDigits]
  · rfl
  · rintro d ds rfl
    exact absurd rfl h

theorem hexDigits_hexText (value k n : ℕ) :
    hexDigits value (hexText k n) = some (value * 16 ^ k + n % 16 ^ k) := by
  induction k generalizing value with
  | zero => simp [hexText, hexDigits, Nat.mod_one]
  | succ k ih =>
    have hlt : n / 16 ^ k % 16 < 16 := Nat.mod_lt _ (by decide)
    have hmod : n % 16 ^ (k + 1) = n % 16 ^ k + 16 ^ k * (n / 16 ^ k % 16) := by
      rw [Nat.pow_succ, Nat.mod_mul]
    rw [hexText, hexDigits_cons (isDigit_digit hlt).underscore, Hex.value_digit hlt, Option.bind_some, ih, hmod,
      Nat.pow_succ]
    congr 1
    rw [Nat.add_mul, Nat.mul_assoc, Nat.mul_comm 16 (16 ^ k),
      Nat.mul_comm (n / 16 ^ k % 16) (16 ^ k)]
    omega

theorem dropWhile_eq_self {p : Char → Bool} {cs : Chars} (h : ∀ c ∈ cs, p c = false) :
    cs.dropWhile p = cs := by
  cases cs with
  | nil => rfl
  | cons c cs => exact List.dropWhile_cons_of_neg (by simp [h c List.mem_cons_self])

theorem strip_eq_self {p : Char → Bool} {cs : Chars} (h : ∀ c ∈ cs, p c = false) :
    ((cs.dropWhile p).reverse.dropWhile p).reverse = cs := by
  rw [dropWhile_eq_self h, dropWhile_eq_self fun c hc => h c (List.mem_reverse.mp hc),
    List.reverse_reverse]

theorem remove_of_not_mem {first : Char} {old cs : Chars} (h : first ∉ cs) :
    remove (first :: old) 0 cs = cs := by
  induction cs with
  | nil => rfl
  | cons c cs ih =>
    obtain ⟨hc, hcs⟩ := List.ne_and_not_mem_of_not_mem_cons h
    have hprefix : (first :: old).isPrefixOf (c :: cs) = false := by
      rw [List.isPrefixOf_cons_cons, beq_eq_false_iff_ne.mpr hc, Bool.false_and]
    rw [remove, hprefix, ih hcs]
    rfl

theorem group_append (cs : Chars) {start stop : ℕ} (h : start ≤ stop) :
    group cs start stop ++ cs.drop stop = cs.drop start := by
  have hdrop : cs.drop stop = (cs.drop start).drop (stop - start) := by
    rw [List.drop_drop, Nat.add_sub_cancel' h]
  unfold group
  rw [hdrop, List.take_append_drop]

/-- The hexadecimal digits of the text. -/
theorem filter_text (uuid : Uuid) : uuid.text.filter (· ≠ '-') = hexText 32 uuid.int := by
  have hgroup : ∀ start stop, (group (hexText 32 uuid.int) start stop).filter (· ≠ '-') =
      group (hexText 32 uuid.int) start stop := by
    intro start stop
    apply List.filter_eq_self.mpr
    intro c hc
    have hdigit := isDigit_of_mem (List.mem_of_mem_drop (List.mem_of_mem_take hc))
    exact decide_eq_true hdigit.hyphen
  have hlast : group (hexText 32 uuid.int) 20 32 = (hexText 32 uuid.int).drop 20 := by
    apply List.take_of_length_le
    rw [List.length_drop, length_hexText]
  simp only [text, List.filter_append, hgroup, ne_eq, not_true_eq_false, decide_false,
    Bool.false_eq_true, not_false_eq_true, List.filter_cons_of_neg]
  rw [hlast, group_append _ (by decide), group_append _ (by decide), group_append _ (by decide),
    group_append _ (by decide), List.drop_zero]

/-- The characters of the canonical text. -/
theorem mem_text {uuid : Uuid} {c : Char} (h : c ∈ uuid.text) :
    c = '-' ∨ ∃ d < 16, c = Hex.digit d := by
  by_cases hc : c = '-'
  · exact Or.inl hc
  · right
    have hmem : c ∈ uuid.text.filter (· ≠ '-') := List.mem_filter.mpr ⟨h, by simpa using hc⟩
    rw [filter_text] at hmem
    exact mem_hexText hmem

theorem unsigned_hexText (k n : ℕ) :
    unsigned (hexText (k + 1) n) = some (n % 16 ^ (k + 1)) := by
  have hlt : n / 16 ^ k % 16 < 16 := Nat.mod_lt _ (by decide)
  have hne : ∀ d cs, hexText k n = d :: cs → d ≠ 'x' ∧ d ≠ 'X' := by
    intro d cs hcons
    have hmem : d ∈ hexText k n := hcons ▸ List.mem_cons_self
    exact ⟨(isDigit_of_mem hmem).x, (isDigit_of_mem hmem).upper_x⟩
  -- no second digit is the letter of a prefix
  have hunsigned : unsigned (hexText (k + 1) n) = hexDigits (n / 16 ^ k % 16) (hexText k n) := by
    rw [hexText, unsigned, Hex.value_digit hlt]
    · rfl
    · rintro c cs - hcons
      exact (hne _ _ hcons).1 rfl
    · rintro c cs - hcons
      exact (hne _ _ hcons).1 rfl
    · rintro c cs - hcons
      exact (hne _ _ hcons).2 rfl
    · rintro c cs - hcons
      exact (hne _ _ hcons).2 rfl
  have hmod : n % 16 ^ (k + 1) = n % 16 ^ k + 16 ^ k * (n / 16 ^ k % 16) := by
    rw [Nat.pow_succ, Nat.mod_mul]
  rw [hunsigned, hexDigits_hexText, hmod, Nat.mul_comm, Nat.add_comm]

theorem hexInt_hexText {n : ℕ} (h : n < 2 ^ 128) : hexInt (hexText 32 n) = some n := by
  have hascii : (hexText 32 n).all isAscii = true :=
    List.all_eq_true.mpr fun c hc => (isDigit_of_mem hc).ascii
  have hblank : ∀ c ∈ hexText 32 n, isBlank c = false := fun c hc => (isDigit_of_mem hc).blank
  have hplus : ∀ cs, hexText 32 n ≠ '+' :: cs := by
    intro cs hcons
    have hmem : '+' ∈ hexText 32 n := hcons ▸ List.mem_cons_self
    exact (isDigit_of_mem hmem).plus rfl
  unfold hexInt toAscii
  rw [if_pos hascii, strip_eq_self hblank]
  split
  · rename_i cs hcons
    exact absurd hcons (hplus cs)
  · rw [unsigned_hexText, Nat.mod_eq_of_lt]
    simpa using h

/-- The canonical text names its UUID. -/
theorem ofText_text (uuid : Uuid) : ofText uuid.text = some uuid := by
  have hu : 'u' ∉ uuid.text := by
    intro hmem
    rcases mem_text hmem with hdash | ⟨d, hd, hdigit⟩
    · cases hdash
    · exact (isDigit_digit hd).u hdigit.symm
  have hbrace : ∀ c ∈ uuid.text, isBrace c = false := by
    intro c hc
    rcases mem_text hc with rfl | ⟨d, hd, rfl⟩
    · rfl
    · exact (isDigit_digit hd).brace
  have hurn : remove "urn:".toList 0 uuid.text = uuid.text := remove_of_not_mem hu
  have huuid : remove "uuid:".toList 0 uuid.text = uuid.text := remove_of_not_mem hu
  unfold ofText
  simp only [hurn, huuid, strip_eq_self hbrace, filter_text, length_hexText,
    hexInt_hexText uuid.lt]
  rw [if_neg (by decide), dif_pos uuid.lt]

theorem text_ne (uuid : Uuid) : String.ofList uuid.text ≠ "" := by
  intro hempty
  have hread := ofText_text uuid
  rw [← String.toList_ofList (l := uuid.text), hempty] at hread
  cases hread

end Uuid

end Bimarz
