import Bimarz.Text.Utf8

/-!
# Base64 with the URL-safe alphabet

`decode` takes exactly the canonical texts without padding: alphabet, length and unused bits are
checked. `decodeLenient` is the reading of Python's `urlsafe_b64decode`, which skips what is not in
the alphabet and asks for padding.
-/

namespace Base64

/-- The character of six bits. -/
def digit (n : ℕ) : Char :=
  if n < 26 then Char.ofNat (n + 65)
  else if n < 52 then Char.ofNat (n + 71)
  else if n < 62 then Char.ofNat (n - 4)
  else if n = 62 then '-'
  else '_'

/-- The six bits of a character of the alphabet. -/
def value (c : Char) : Option ℕ :=
  let v := c.toNat
  if 65 ≤ v ∧ v < 91 then some (v - 65)
  else if 97 ≤ v ∧ v < 123 then some (v - 71)
  else if 48 ≤ v ∧ v < 58 then some (v + 4)
  else if c = '-' then some 62
  else if c = '_' then some 63
  else none

/-- The text of some bytes, without padding. -/
def encode : Bytes → List Char
  | [] => []
  | [a] => [digit (a.toNat / 4), digit (a.toNat % 4 * 16)]
  | [a, b] =>
    [digit (a.toNat / 4), digit (a.toNat % 4 * 16 + b.toNat / 16), digit (b.toNat % 16 * 4)]
  | a :: b :: c :: bs =>
    digit (a.toNat / 4) :: digit (a.toNat % 4 * 16 + b.toNat / 16) ::
      digit (b.toNat % 16 * 4 + c.toNat / 64) :: digit (c.toNat % 64) :: encode bs

/-- The bytes of a canonical text without padding. -/
def decode : List Char → Option Bytes
  | [] => some []
  | [_] => none
  | [p, q] => do
    let p ← value p
    let q ← value q
    if q % 16 = 0 then return [UInt8.ofNat (p * 4 + q / 16)] else none
  | [p, q, r] => do
    let p ← value p
    let q ← value q
    let r ← value r
    if r % 4 = 0 then return [UInt8.ofNat (p * 4 + q / 16), UInt8.ofNat (q % 16 * 16 + r / 4)]
    else none
  | p :: q :: r :: s :: cs => do
    let p ← value p
    let q ← value q
    let r ← value r
    let s ← value s
    let bs ← decode cs
    return UInt8.ofNat (p * 4 + q / 16) :: UInt8.ofNat (q % 16 * 16 + r / 4) ::
      UInt8.ofNat (r % 4 * 64 + s) :: bs

/-! ## Digits -/

theorem value_digit {n : ℕ} (h : n < 64) : value (digit n) = some n := by
  revert n
  decide

theorem digit_value {c : Char} {n : ℕ} (h : value c = some n) : n < 64 ∧ digit n = c := by
  have hc : Char.ofNat c.toNat = c := Char.ofNat_toNat c
  unfold value at h
  simp only at h
  split at h
  · cases h
    refine ⟨by omega, ?_⟩
    rw [digit, if_pos (by omega), Nat.sub_add_cancel (by omega), hc]
  split at h
  · cases h
    refine ⟨by omega, ?_⟩
    rw [digit, if_neg (by omega), if_pos (by omega), Nat.sub_add_cancel (by omega), hc]
  split at h
  · cases h
    refine ⟨by omega, ?_⟩
    rw [digit, if_neg (by omega), if_neg (by omega), if_pos (by omega), Nat.add_sub_cancel, hc]
  split at h
  · next hc' =>
    cases h
    exact ⟨by decide, by rw [hc']; rfl⟩
  split at h
  · next hc' =>
    cases h
    exact ⟨by decide, by rw [hc']; rfl⟩
  · cases h

/-! ## The canonical texts -/

theorem ofNat_toNat_eq {n : ℕ} {b : UInt8} (h : n = b.toNat) : UInt8.ofNat n = b := by
  rw [h]
  exact UInt8.ofNat_toNat

theorem decode_encode (bs : Bytes) : decode (encode bs) = some bs := by
  induction bs using encode.induct with
  | case1 => rfl
  | case2 a =>
    have ha := a.toNat_lt
    simp only [encode, decode, value_digit (show a.toNat / 4 < 64 by omega),
      value_digit (show a.toNat % 4 * 16 < 64 by omega), Option.bind_eq_bind, Option.bind_some]
    rw [if_pos (by omega), ofNat_toNat_eq (b := a) (by omega)]
    rfl
  | case3 a b =>
    have ha := a.toNat_lt
    have hb := b.toNat_lt
    simp only [encode, decode, value_digit (show a.toNat / 4 < 64 by omega),
      value_digit (show a.toNat % 4 * 16 + b.toNat / 16 < 64 by omega),
      value_digit (show b.toNat % 16 * 4 < 64 by omega), Option.bind_eq_bind, Option.bind_some]
    rw [if_pos (by omega), ofNat_toNat_eq (b := a) (by omega), ofNat_toNat_eq (b := b) (by omega)]
    rfl
  | case4 a b c bs ih =>
    have ha := a.toNat_lt
    have hb := b.toNat_lt
    have hc := c.toNat_lt
    simp only [encode, decode, value_digit (show a.toNat / 4 < 64 by omega),
      value_digit (show a.toNat % 4 * 16 + b.toNat / 16 < 64 by omega),
      value_digit (show b.toNat % 16 * 4 + c.toNat / 64 < 64 by omega),
      value_digit (show c.toNat % 64 < 64 by omega), ih, Option.bind_eq_bind, Option.bind_some]
    rw [ofNat_toNat_eq (b := a) (by omega), ofNat_toNat_eq (b := b) (by omega),
      ofNat_toNat_eq (b := c) (by omega)]
    rfl

/-- What is decoded is the canonical text of the result. -/
theorem encode_of_decode {cs : List Char} {bs : Bytes} (h : decode cs = some bs) :
    encode bs = cs := by
  induction cs using decode.induct generalizing bs with
  | case1 =>
    cases h
    rfl
  | case2 c => cases h
  | case3 p q =>
    simp only [decode, Option.bind_eq_bind, Option.bind_eq_some_iff] at h
    obtain ⟨np, hp, nq, hq, h⟩ := h
    obtain ⟨hp₁, hp₂⟩ := digit_value hp
    obtain ⟨hq₁, hq₂⟩ := digit_value hq
    split at h
    · cases h
      rw [encode, Utf8.toNat_ofNat (by omega), show (np * 4 + nq / 16) / 4 = np by omega,
        show (np * 4 + nq / 16) % 4 * 16 = nq by omega, hp₂, hq₂]
    · cases h
  | case4 p q r =>
    simp only [decode, Option.bind_eq_bind, Option.bind_eq_some_iff] at h
    obtain ⟨np, hp, nq, hq, nr, hr, h⟩ := h
    obtain ⟨hp₁, hp₂⟩ := digit_value hp
    obtain ⟨hq₁, hq₂⟩ := digit_value hq
    obtain ⟨hr₁, hr₂⟩ := digit_value hr
    split at h
    · cases h
      rw [encode, Utf8.toNat_ofNat (by omega), Utf8.toNat_ofNat (by omega),
        show (np * 4 + nq / 16) / 4 = np by omega,
        show (np * 4 + nq / 16) % 4 * 16 + (nq % 16 * 16 + nr / 4) / 16 = nq by omega,
        show (nq % 16 * 16 + nr / 4) % 16 * 4 = nr by omega, hp₂, hq₂, hr₂]
    · cases h
  | case5 p q r s cs ih =>
    simp only [decode, Option.bind_eq_bind, Option.bind_eq_some_iff] at h
    obtain ⟨np, hp, nq, hq, nr, hr, ns, hs, bs', hbs, h⟩ := h
    obtain ⟨hp₁, hp₂⟩ := digit_value hp
    obtain ⟨hq₁, hq₂⟩ := digit_value hq
    obtain ⟨hr₁, hr₂⟩ := digit_value hr
    obtain ⟨hs₁, hs₂⟩ := digit_value hs
    cases h
    rw [encode, Utf8.toNat_ofNat (by omega), Utf8.toNat_ofNat (by omega),
      Utf8.toNat_ofNat (by omega), show (np * 4 + nq / 16) / 4 = np by omega,
      show (np * 4 + nq / 16) % 4 * 16 + (nq % 16 * 16 + nr / 4) / 16 = nq by omega,
      show (nq % 16 * 16 + nr / 4) % 16 * 4 + (nr % 4 * 64 + ns) / 64 = nr by omega,
      show (nr % 4 * 64 + ns) % 64 = ns by omega, hp₂, hq₂, hr₂, hs₂, ih hbs]

/-- The accepted texts are the canonical ones. -/
theorem decode_eq_some_iff {cs : List Char} {bs : Bytes} : decode cs = some bs ↔ encode bs = cs :=
  ⟨encode_of_decode, fun h => h ▸ decode_encode bs⟩

/-! ## Python's `urlsafe_b64encode` and `urlsafe_b64decode` -/

/-- The padding after the text of some bytes. -/
def padding (bs : Bytes) : List Char :=
  match bs.length % 3 with
  | 0 => []
  | 1 => ['=', '=']
  | _ => ['=']

/-- `base64.urlsafe_b64encode`. -/
def urlsafeB64encode (bs : Bytes) : List Char := encode bs ++ padding bs

/-- The six bits of a character, after the translation to the standard alphabet. -/
def valueLenient (c : Char) : Option ℕ :=
  if c = '+' then some 62 else if c = '/' then some 63 else value c

/-- The loop of `binascii.a2b_base64`: the place in a group of four, the bits that are left over,
and the padding seen so far. Padding that fills a group ends the text. -/
def lenient (place left pads : ℕ) : List Char → Option Bytes
  | [] => if place = 0 then some [] else none
  | c :: cs =>
    if c = '=' then
      if 2 ≤ place then
        if 4 ≤ place + (pads + 1) then some [] else lenient place left (pads + 1) cs
      else lenient place left pads cs
    else
      match valueLenient c with
      | none => lenient place left pads cs
      | some v =>
        match place with
        | 0 => lenient 1 v 0 cs
        | 1 => (lenient 2 (v % 16) 0 cs).map (UInt8.ofNat (left * 4 + v / 16) :: ·)
        | 2 => (lenient 3 (v % 4) 0 cs).map (UInt8.ofNat (left * 16 + v / 4) :: ·)
        | _ => (lenient 0 0 0 cs).map (UInt8.ofNat (left * 64 + v) :: ·)

/-- `base64.urlsafe_b64decode`, which fails on a text that is not ASCII or badly padded. -/
def urlsafeB64decode (cs : List Char) : Option Bytes :=
  if cs.all fun c => c.toNat < 128 then lenient 0 0 0 cs else none

theorem valueLenient_digit {n : ℕ} (h : n < 64) : valueLenient (digit n) = some n := by
  revert n
  decide

theorem digit_ascii {n : ℕ} (h : n < 64) : digit n ≠ '=' ∧ (digit n).toNat < 128 := by
  revert n
  decide

theorem lenient_digit {place left pads n : ℕ} (h : n < 64) (cs : List Char) :
    lenient place left pads (digit n :: cs) =
      match place with
      | 0 => lenient 1 n 0 cs
      | 1 => (lenient 2 (n % 16) 0 cs).map (UInt8.ofNat (left * 4 + n / 16) :: ·)
      | 2 => (lenient 3 (n % 4) 0 cs).map (UInt8.ofNat (left * 16 + n / 4) :: ·)
      | _ => (lenient 0 0 0 cs).map (UInt8.ofNat (left * 64 + n) :: ·) := by
  rw [lenient.eq_2, if_neg (digit_ascii h).1, valueLenient_digit h]

theorem lenient_encode (bs : Bytes) : lenient 0 0 0 (encode bs ++ padding bs) = some bs := by
  induction bs using encode.induct with
  | case1 => rfl
  | case2 a =>
    have ha := a.toNat_lt
    rw [encode, List.cons_append, List.cons_append, List.nil_append, lenient_digit (by omega)]
    simp only
    rw [lenient_digit (by omega)]
    simp only
    rw [ofNat_toNat_eq (b := a) (by omega)]
    rfl
  | case3 a b =>
    have ha := a.toNat_lt
    have hb := b.toNat_lt
    rw [encode, List.cons_append, List.cons_append, List.cons_append, List.nil_append,
      lenient_digit (by omega)]
    simp only
    rw [lenient_digit (by omega)]
    simp only
    rw [lenient_digit (by omega)]
    simp only
    rw [ofNat_toNat_eq (b := a) (by omega), ofNat_toNat_eq (b := b) (by omega)]
    rfl
  | case4 a b c bs ih =>
    have ha := a.toNat_lt
    have hb := b.toNat_lt
    have hc := c.toNat_lt
    have hpad : padding (a :: b :: c :: bs) = padding bs := by
      simp only [padding, List.length_cons]
      rw [show (bs.length + 1 + 1 + 1) % 3 = bs.length % 3 by omega]
    rw [encode, hpad, List.cons_append, List.cons_append, List.cons_append, List.cons_append,
      lenient_digit (by omega)]
    simp only
    rw [lenient_digit (by omega)]
    simp only
    rw [lenient_digit (by omega)]
    simp only
    rw [lenient_digit (by omega)]
    simp only
    rw [ih, ofNat_toNat_eq (b := a) (by omega), ofNat_toNat_eq (b := b) (by omega),
      ofNat_toNat_eq (b := c) (by omega)]
    rfl

theorem encode_ascii (bs : Bytes) : ∀ c ∈ encode bs, c.toNat < 128 := by
  induction bs using encode.induct with
  | case1 => intro c hc; cases hc
  | case2 a =>
    have ha := a.toNat_lt
    simp only [encode, List.forall_mem_cons]
    exact ⟨(digit_ascii (by omega)).2, (digit_ascii (by omega)).2, nofun⟩
  | case3 a b =>
    have ha := a.toNat_lt
    have hb := b.toNat_lt
    simp only [encode, List.forall_mem_cons]
    exact ⟨(digit_ascii (by omega)).2, (digit_ascii (by omega)).2, (digit_ascii (by omega)).2,
      nofun⟩
  | case4 a b c bs ih =>
    have ha := a.toNat_lt
    have hb := b.toNat_lt
    have hc := c.toNat_lt
    simp only [encode, List.forall_mem_cons]
    exact ⟨(digit_ascii (by omega)).2, (digit_ascii (by omega)).2, (digit_ascii (by omega)).2,
      (digit_ascii (by omega)).2, ih⟩

/-- Bytes that are encoded with padding come back. -/
theorem urlsafeB64decode_encode (bs : Bytes) :
    urlsafeB64decode (urlsafeB64encode bs) = some bs := by
  have hascii : (urlsafeB64encode bs).all (fun c => c.toNat < 128) = true := by
    refine List.all_eq_true.mpr fun c hc => decide_eq_true ?_
    rcases List.mem_append.mp hc with hc | hc
    · exact encode_ascii bs c hc
    · have hpad : ∀ c ∈ padding bs, c = '=' := by
        unfold padding
        split <;> simp
      rw [hpad c hc]
      decide
  rw [urlsafeB64decode, if_pos hascii]
  exact lenient_encode bs

end Base64
