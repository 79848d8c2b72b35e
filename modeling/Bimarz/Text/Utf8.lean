import Mathlib.Data.Nat.Notation
import Mathlib.Tactic.Common

/-!
# UTF-8

Texts as bytes and back. `next` reads one character off a list of bytes; where the bytes are ill
formed it takes a maximal subpart of a character, as a decoder does that puts one U+FFFD for each of
these.
-/

/-- A list of bytes. -/
abbrev Bytes := List UInt8

namespace Utf8

def encodeChars (cs : List Char) : Bytes := cs.flatMap String.utf8EncodeChar

/-- `s.encode("utf-8")`. -/
def encode (s : String) : Bytes := encodeChars s.toList

/-- The last continuation byte of a character whose bits before it are `high`. -/
def last (high : ℕ) : Bytes → Option Char × Bytes
  | [] => (none, [])
  | b :: rest =>
    if 0x80 ≤ b.toNat ∧ b.toNat < 0xc0 then (some (Char.ofNat (high * 64 + (b.toNat - 0x80))), rest)
    else (none, b :: rest)

/-- A continuation byte between `lo` and `hi`, with more of them after it. -/
def more (lo hi high : ℕ) (k : ℕ → Bytes → Option Char × Bytes) : Bytes → Option Char × Bytes
  | [] => (none, [])
  | b :: rest =>
    if lo ≤ b.toNat ∧ b.toNat < hi then k (high * 64 + (b.toNat - 0x80)) rest
    else (none, b :: rest)

/-- The character that begins with `b`, or nothing for an ill-formed part, and the bytes after
it. -/
def next (b : UInt8) (rest : Bytes) : Option Char × Bytes :=
  let v := b.toNat
  if v < 0x80 then (some (Char.ofNat v), rest)
  else if v < 0xc2 then (none, rest)
  else if v < 0xe0 then last (v - 0xc0) rest
  else if v < 0xf0 then
    more (if v = 0xe0 then 0xa0 else 0x80) (if v = 0xed then 0xa0 else 0xc0) (v - 0xe0) last rest
  else if v < 0xf5 then
    more (if v = 0xf0 then 0x90 else 0x80) (if v = 0xf4 then 0x90 else 0xc0) (v - 0xf0)
      (fun high => more 0x80 0xc0 high last) rest
  else (none, rest)

/-- The characters of at most `n` steps. -/
def chars : ℕ → Bytes → List (Option Char)
  | n + 1, b :: rest => (next b rest).1 :: chars n (next b rest).2
  | _, _ => []

/-- `bs.decode("utf-8")`, which fails on anything ill formed. -/
def decode (bs : Bytes) : Option String := ((chars bs.length bs).mapM id).map String.ofList

/-- `bs.decode("utf-8", errors="replace")`. -/
def decodeReplace (bs : Bytes) : List Char :=
  (chars bs.length bs).map fun c => c.getD (Char.ofNat 0xfffd)

/-! ## The round trip -/

theorem toNat_ofNat {n : ℕ} (h : n < 256) : (UInt8.ofNat n).toNat = n := by
  rw [UInt8.toNat_ofNat']
  exact Nat.mod_eq_of_lt h

/-- A scalar value is at most U+10FFFF and not a surrogate. -/
theorem scalar (c : Char) : c.toNat < 0xd800 ∨ 0xdfff < c.toNat ∧ c.toNat < 0x110000 := c.valid

theorem last_cons {high n : ℕ} {rest : Bytes} (h : n < 64) :
    last high (UInt8.ofNat (n + 0x80) :: rest) = (some (Char.ofNat (high * 64 + n)), rest) := by
  have hb : (UInt8.ofNat (n + 0x80)).toNat = n + 0x80 := toNat_ofNat (by omega)
  rw [last, hb, if_pos (by omega), Nat.add_sub_cancel]

theorem more_cons {lo hi high n : ℕ} {k : ℕ → Bytes → Option Char × Bytes} {rest : Bytes}
    (h : n < 64) (hlo : lo ≤ n + 0x80) (hhi : n + 0x80 < hi) :
    more lo hi high k (UInt8.ofNat (n + 0x80) :: rest) = k (high * 64 + n) rest := by
  have hb : (UInt8.ofNat (n + 0x80)).toNat = n + 0x80 := toNat_ofNat (by omega)
  rw [more, hb, if_pos (by omega), Nat.add_sub_cancel]

/-- Reading the bytes of a character gives the character, whatever stands after them. -/
theorem next_encodeChar (c : Char) (rest : Bytes) :
    ∃ b bs, String.utf8EncodeChar c = b :: bs ∧ next b (bs ++ rest) = (some c, rest) := by
  have hv := scalar c
  have hc : Char.ofNat c.toNat = c := Char.ofNat_toNat c
  unfold String.utf8EncodeChar
  simp only [show c.val.toNat = c.toNat from rfl]
  split
  · next h₁ =>
    refine ⟨_, _, rfl, ?_⟩
    rw [next, toNat_ofNat (by omega), if_pos (by omega), hc]
    rfl
  · next h₁ =>
    split
    · next h₂ =>
      refine ⟨_, _, rfl, ?_⟩
      rw [List.cons_append, List.nil_append, next, toNat_ofNat (by omega), if_neg (by omega),
        if_neg (by omega), if_pos (by omega), last_cons (by omega)]
      rw [show (c.toNat / 64 % 0x20 + 0xc0 - 0xc0) * 64 + c.toNat % 0x40 = c.toNat by omega, hc]
    · next h₂ =>
      split
      · next h₃ =>
        refine ⟨_, _, rfl, ?_⟩
        rw [List.cons_append, List.cons_append, List.nil_append, next, toNat_ofNat (by omega),
          if_neg (by omega), if_neg (by omega), if_neg (by omega), if_pos (by omega),
          more_cons (by omega) (by split <;> omega) (by split <;> omega), last_cons (by omega)]
        rw [show ((c.toNat / 4096 % 0x10 + 0xe0 - 0xe0) * 64 + c.toNat / 64 % 0x40) * 64 +
          c.toNat % 0x40 = c.toNat by omega, hc]
      · next h₃ =>
        refine ⟨_, _, rfl, ?_⟩
        rw [List.cons_append, List.cons_append, List.cons_append, List.nil_append, next,
          toNat_ofNat (by omega), if_neg (by omega), if_neg (by omega), if_neg (by omega),
          if_neg (by omega), if_pos (by omega),
          more_cons (by omega) (by split <;> omega) (by split <;> omega),
          more_cons (by omega) (by omega) (by omega), last_cons (by omega)]
        rw [show (((c.toNat / 262144 % 0x08 + 0xf0 - 0xf0) * 64 + c.toNat / 4096 % 0x40) * 64 +
          c.toNat / 64 % 0x40) * 64 + c.toNat % 0x40 = c.toNat by omega, hc]

theorem length_encodeChars (cs : List Char) : cs.length ≤ (encodeChars cs).length := by
  induction cs with
  | nil => exact Nat.le_refl 0
  | cons c cs ih =>
    obtain ⟨b, bs, hb, -⟩ := next_encodeChar c []
    rw [encodeChars, List.flatMap_cons, hb, List.length_append, List.length_cons, List.length_cons]
    unfold encodeChars at ih
    omega

theorem chars_encodeChars (cs : List Char) {n : ℕ} (h : cs.length ≤ n) :
    chars n (encodeChars cs) = cs.map some := by
  induction cs generalizing n with
  | nil => cases n <;> rfl
  | cons c cs ih =>
    obtain ⟨n, rfl⟩ : ∃ m, n = m + 1 := ⟨n - 1, by rw [List.length_cons] at h; omega⟩
    obtain ⟨b, bs, hb, hnext⟩ := next_encodeChar c (encodeChars cs)
    have hcs : encodeChars (c :: cs) = b :: (bs ++ encodeChars cs) := by
      rw [encodeChars, List.flatMap_cons, hb]
      rfl
    rw [hcs, chars, hnext, List.map_cons, ih (Nat.le_of_succ_le_succ h)]

theorem chars_encode (s : String) : chars (encode s).length (encode s) = s.toList.map some :=
  chars_encodeChars s.toList (length_encodeChars s.toList)

theorem mapM_id_some {α : Type} (xs : List α) : (xs.map some).mapM id = some xs := by
  induction xs with
  | nil => rfl
  | cons x xs ih => simp [ih]

/-- A text that is encoded comes back. -/
@[simp] theorem decode_encode (s : String) : decode (encode s) = some s := by
  rw [decode, chars_encode, mapM_id_some, Option.map_some, String.ofList_toList]

/-- Nothing is replaced in an encoded text. -/
theorem decodeReplace_encodeChars (cs : List Char) : decodeReplace (encodeChars cs) = cs := by
  rw [decodeReplace, chars_encodeChars cs (length_encodeChars cs), List.map_map]
  exact List.map_id cs

/-- A truncated character and a byte that begins none: one replacement for each. -/
example : decodeReplace [0x41, 0xe2, 0x82, 0x42, 0xff] =
    ['A', Char.ofNat 0xfffd, 'B', Char.ofNat 0xfffd] := by decide

end Utf8
