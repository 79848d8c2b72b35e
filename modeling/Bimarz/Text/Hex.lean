import Bimarz.Text.Utf8

/-!
# Hexadecimal

Bytes as pairs of hexadecimal digits. Reading takes the digits of either case, writing uses the
lower one, so a text is what it was up to the case of its letters.
-/

namespace Hex

def digit (n : ℕ) : Char := if n < 10 then Char.ofNat (n + 48) else Char.ofNat (n + 87)

def value (c : Char) : Option ℕ :=
  let v := c.toNat
  if 48 ≤ v ∧ v < 58 then some (v - 48)
  else if 97 ≤ v ∧ v < 103 then some (v - 87)
  else if 65 ≤ v ∧ v < 71 then some (v - 55)
  else none

def encode (bs : Bytes) : List Char :=
  bs.flatMap fun b => [digit (b.toNat / 16), digit (b.toNat % 16)]

/-- The bytes of a text with an even number of hexadecimal digits. -/
def decode : List Char → Option Bytes
  | [] => some []
  | [_] => none
  | p :: q :: cs => do
    let p ← value p
    let q ← value q
    let bs ← decode cs
    return UInt8.ofNat (p * 16 + q) :: bs

theorem value_digit {n : ℕ} (h : n < 16) : value (digit n) = some n := by
  revert n
  decide

theorem digit_ascii {n : ℕ} (h : n < 16) : (digit n).toNat < 128 := by
  revert n
  decide

/-- The lower-case letter of a hexadecimal digit. -/
def lower (c : Char) : Char :=
  if 65 ≤ c.toNat ∧ c.toNat < 71 then Char.ofNat (c.toNat + 32) else c

theorem digit_value {c : Char} {n : ℕ} (h : value c = some n) : n < 16 ∧ digit n = lower c := by
  have hc : Char.ofNat c.toNat = c := Char.ofNat_toNat c
  unfold value at h
  simp only at h
  split at h
  · cases h
    refine ⟨by omega, ?_⟩
    rw [digit, if_pos (by omega), lower, if_neg (by omega), Nat.sub_add_cancel (by omega), hc]
  split at h
  · cases h
    refine ⟨by omega, ?_⟩
    rw [digit, if_neg (by omega), lower, if_neg (by omega), Nat.sub_add_cancel (by omega), hc]
  split at h
  · cases h
    refine ⟨by omega, ?_⟩
    rw [digit, if_neg (by omega), lower, if_pos (by omega),
      show c.toNat - 55 + 87 = c.toNat + 32 by omega]
  · cases h

theorem decode_encode (bs : Bytes) : decode (encode bs) = some bs := by
  induction bs with
  | nil => rfl
  | cons b bs ih =>
    have hb := b.toNat_lt
    have hencode : encode (b :: bs) =
        digit (b.toNat / 16) :: digit (b.toNat % 16) :: encode bs := rfl
    rw [hencode, decode, value_digit (by omega), value_digit (by omega), ih]
    simp only [Option.bind_eq_bind, Option.bind_some]
    rw [show b.toNat / 16 * 16 + b.toNat % 16 = b.toNat by omega, UInt8.ofNat_toNat]
    rfl

/-- What is decoded is the text of the result, up to the case of the letters. -/
theorem encode_of_decode {cs : List Char} {bs : Bytes} (h : decode cs = some bs) :
    encode bs = cs.map lower := by
  induction cs using decode.induct generalizing bs with
  | case1 =>
    cases h
    rfl
  | case2 c => cases h
  | case3 p q cs ih =>
    simp only [decode, Option.bind_eq_bind, Option.bind_eq_some_iff] at h
    obtain ⟨np, hp, nq, hq, bs', hbs, h⟩ := h
    obtain ⟨hp₁, hp₂⟩ := digit_value hp
    obtain ⟨hq₁, hq₂⟩ := digit_value hq
    cases h
    rw [encode, List.flatMap_cons, ← encode, ih hbs, Utf8.toNat_ofNat (by omega),
      show (np * 16 + nq) / 16 = np by omega, show (np * 16 + nq) % 16 = nq by omega, hp₂, hq₂]
    rfl

/-- The accepted texts: an even number of hexadecimal digits. -/
theorem decode_isSome_iff (cs : List Char) :
    (decode cs).isSome = true ↔ cs.length % 2 = 0 ∧ ∀ c ∈ cs, (value c).isSome = true := by
  induction cs using decode.induct with
  | case1 => simp [decode]
  | case2 c => simp [decode]
  | case3 p q cs ih =>
    rw [decode]
    rcases hp : value p with _ | np
    · simp [hp]
    · rcases hq : value q with _ | nq
      · simp [hq]
      · rcases hcs : decode cs with _ | bs
        · rw [hcs] at ih
          simp only [Option.bind_eq_bind, Option.bind_some, Option.bind_none, List.length_cons,
            List.forall_mem_cons, hp, hq, Option.isSome_some, true_and]
          rw [show (cs.length + 1 + 1) % 2 = cs.length % 2 by omega]
          exact ih
        · rw [hcs] at ih
          simp only [Option.bind_eq_bind, Option.bind_some, List.length_cons,
            List.forall_mem_cons, hp, hq, Option.isSome_some, true_and]
          rw [show (cs.length + 1 + 1) % 2 = cs.length % 2 by omega]
          exact ih

/-! ## Upper and lower case -/

theorem value_lower (c : Char) : value (lower c) = value c := by
  unfold lower
  split
  · next h =>
    have hletters : ∀ n < 71, 65 ≤ n → (Char.ofNat (n + 32)).toNat = n + 32 := by decide
    have htoNat := hletters c.toNat h.2 h.1
    unfold value
    simp only [htoNat]
    rw [if_neg (by omega), if_pos (by omega), if_neg (by omega), if_neg (by omega), if_pos h]
    exact congrArg some (by omega)
  · rfl

theorem decode_map_lower (cs : List Char) : decode (cs.map lower) = decode cs := by
  induction cs using decode.induct with
  | case1 => rfl
  | case2 c => rfl
  | case3 p q cs ih =>
    rw [List.map_cons, List.map_cons, decode, decode, value_lower, value_lower, ih]

/-- Texts that differ in the case of their letters have the same bytes. -/
theorem decode_congr {cs cs' : List Char} (h : cs.map lower = cs'.map lower) :
    decode cs = decode cs' := by
  rw [← decode_map_lower cs, h, decode_map_lower]

end Hex
