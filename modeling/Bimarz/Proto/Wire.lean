import Bimarz.Text.Utf8

/-!
# The wire format of protocol buffers

A message is a sequence of numbered fields, each of them a varint or a string of bytes. Reading the
fields of a text undoes writing them.
-/

namespace Proto

/-! ## Varints -/

/-- Seven bits a byte, the low ones first; every byte but the last has its high bit set. -/
def varint (n : ℕ) : Bytes :=
  if n < 128 then [UInt8.ofNat n] else UInt8.ofNat (n % 128 + 128) :: varint (n / 128)
termination_by n
decreasing_by omega

/-- The number at the start of a text and the rest of it. -/
def readVarint : Bytes → Option (ℕ × Bytes)
  | [] => none
  | b :: bs =>
    if b.toNat < 128 then some (b.toNat, bs)
    else (readVarint bs).map fun (n, rest) => (n * 128 + (b.toNat - 128), rest)

theorem varint_ne_nil (n : ℕ) : varint n ≠ [] := by
  rw [varint]
  split
  · exact List.cons_ne_nil _ _
  · exact List.cons_ne_nil _ _

theorem readVarint_varint (n : ℕ) (rest : Bytes) :
    readVarint (varint n ++ rest) = some (n, rest) := by
  induction n using Nat.strongRecOn with
  | ind n ih =>
    rw [varint]
    split
    · rename_i hlt
      rw [List.cons_append, List.nil_append, readVarint, Utf8.toNat_ofNat (by omega), if_pos hlt]
    · rename_i hge
      rw [List.cons_append, readVarint, Utf8.toNat_ofNat (by omega), if_neg (by omega),
        ih (n / 128) (by omega), Option.map_some]
      have hsum : n / 128 * 128 + (n % 128 + 128 - 128) = n := by omega
      simp only [hsum]

/-! ## A text of many values -/

section ReadAll

variable {α : Type} (read : Bytes → Option (α × Bytes))

/-- Values up to the end of the text, at most `fuel` of them. -/
def readAll : ℕ → Bytes → Option (List α)
  | _, [] => some []
  | 0, _ => none
  | fuel + 1, bs => do
    let (a, rest) ← read bs
    let as ← readAll fuel rest
    return a :: as

variable {read} {write : α → Bytes}

theorem length_flatMap_write (hne : ∀ a, write a ≠ []) (as : List α) :
    as.length ≤ (as.flatMap write).length := by
  induction as with
  | nil => exact Nat.zero_le _
  | cons a as ih =>
    have hpos := List.length_pos_iff.mpr (hne a)
    rw [List.flatMap_cons, List.length_append, List.length_cons]
    omega

theorem readAll_flatMap (hread : ∀ a rest, read (write a ++ rest) = some (a, rest))
    (hne : ∀ a, write a ≠ []) {as : List α} {fuel : ℕ} (hfuel : as.length ≤ fuel) :
    readAll read fuel (as.flatMap write) = some as := by
  induction as generalizing fuel with
  | nil =>
    rw [List.flatMap_nil]
    unfold readAll
    rfl
  | cons a as ih =>
    rw [List.flatMap_cons]
    cases fuel with
    | zero => cases hfuel
    | succ fuel =>
      cases hbytes : write a ++ as.flatMap write with
      | nil => exact absurd (List.append_eq_nil_iff.mp hbytes).1 (hne a)
      | cons b bs =>
        rw [readAll, ← hbytes, hread]
        · simp only [Option.bind_eq_bind, Option.bind_some,
            ih (Nat.le_of_succ_le_succ hfuel)]
          rfl
        · nofun

/-- Every value comes back. -/
theorem readAll_write (hread : ∀ a rest, read (write a ++ rest) = some (a, rest))
    (hne : ∀ a, write a ≠ []) (as : List α) :
    readAll read (as.flatMap write).length (as.flatMap write) = some as :=
  readAll_flatMap hread hne (length_flatMap_write hne as)

end ReadAll

/-! ## Fields -/

inductive Value
  | varint (n : ℕ)
  | bytes (bs : Bytes)
  deriving DecidableEq

/-- A number and a value. -/
abbrev Field := ℕ × Value

def writeField : Field → Bytes
  | (k, .varint n) => varint (k * 8) ++ varint n
  | (k, .bytes bs) => varint (k * 8 + 2) ++ (varint bs.length ++ bs)

def readBytes (bs : Bytes) : Option (Bytes × Bytes) := do
  let (n, bs) ← readVarint bs
  if n ≤ bs.length then some (bs.take n, bs.drop n) else none

/-- The other wire types are not used. -/
def readField (bs : Bytes) : Option (Field × Bytes) := do
  let (tag, bs) ← readVarint bs
  if tag % 8 = 0 then
    let (n, bs) ← readVarint bs
    return ((tag / 8, .varint n), bs)
  else if tag % 8 = 2 then
    let (value, bs) ← readBytes bs
    return ((tag / 8, .bytes value), bs)
  else none

def writeFields (fields : List Field) : Bytes := fields.flatMap writeField

def readFields (bs : Bytes) : Option (List Field) := readAll readField bs.length bs

theorem writeField_ne_nil (field : Field) : writeField field ≠ [] := by
  obtain ⟨k, value⟩ := field
  cases value with
  | varint n => exact List.append_ne_nil_of_left_ne_nil (varint_ne_nil _) _
  | bytes bs => exact List.append_ne_nil_of_left_ne_nil (varint_ne_nil _) _

theorem readBytes_write (bs rest : Bytes) :
    readBytes (varint bs.length ++ (bs ++ rest)) = some (bs, rest) := by
  unfold readBytes
  rw [readVarint_varint]
  simp

theorem readField_writeField (field : Field) (rest : Bytes) :
    readField (writeField field ++ rest) = some (field, rest) := by
  obtain ⟨k, value⟩ := field
  cases value with
  | varint n =>
    have htag : k * 8 % 8 = 0 := by omega
    have hnumber : k * 8 / 8 = k := by omega
    simp only [writeField, readField, List.append_assoc, readVarint_varint,
      Option.bind_eq_bind, Option.bind_some, if_pos htag, hnumber]
    rfl
  | bytes bs =>
    have htag : (k * 8 + 2) % 8 = 2 := by omega
    have hnumber : (k * 8 + 2) / 8 = k := by omega
    simp only [writeField, readField, List.append_assoc, readVarint_varint, readBytes_write,
      Option.bind_eq_bind, Option.bind_some, htag, hnumber]
    rfl

/-- Reading undoes writing. -/
theorem readFields_writeFields (fields : List Field) :
    readFields (writeFields fields) = some fields :=
  readAll_write readField_writeField writeField_ne_nil fields

end Proto
