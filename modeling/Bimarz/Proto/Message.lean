import Bimarz.Proto.Wire

/-!
# Messages

How the values of a field are written and read: once unless they are the default, if there is one,
or any number of times. A message whose fields have different numbers comes back.
-/

namespace Proto

/-- How a message is written and read. -/
structure Codec (α : Type) where
  write : α → Bytes
  read : Bytes → Option α

/-- Reading undoes writing. -/
def Codec.Undoes {α : Type} (codec : Codec α) : Prop := ∀ a, codec.read (codec.write a) = some a

/-! ## Kinds of values -/

/-- How one value is written. -/
structure Kind (α : Type) where
  write : α → Value
  read : Value → Option α
  read_write : ∀ a, read (write a) = some a

namespace Kind

def bytes : Kind Bytes where
  write := .bytes
  read
    | .bytes bs => some bs
    | .varint _ => none
  read_write := fun _ => rfl

def string : Kind String where
  write := fun s => .bytes (Utf8.encode s)
  read
    | .bytes bs => Utf8.decode bs
    | .varint _ => none
  read_write := Utf8.decode_encode

/-- The low bits of a varint. -/
def uint64 : Kind UInt64 where
  write := fun n => .varint n.toNat
  read
    | .varint n => some (UInt64.ofNat n)
    | .bytes _ => none
  read_write := fun _ => congrArg some UInt64.ofNat_toNat

def uint32 : Kind UInt32 where
  write := fun n => .varint n.toNat
  read
    | .varint n => some (UInt32.ofNat n)
    | .bytes _ => none
  read_write := fun _ => congrArg some UInt32.ofNat_toNat

def bool : Kind Bool where
  write := fun b => .varint b.toNat
  read
    | .varint n => some (n ≠ 0)
    | .bytes _ => none
  read_write := fun b => by cases b <;> rfl

/-- The bits of an integer as those of a natural number. -/
def int64 : Kind Int64 where
  write := fun n => uint64.write n.toUInt64
  read := fun v => (uint64.read v).map UInt64.toInt64
  read_write := fun n => by rw [uint64.read_write, Option.map_some, Int64.toInt64_toUInt64]

/-- Integers of 32 bits are written as such of 64. -/
def int32 : Kind Int32 where
  write := fun n => int64.write n.toInt64
  read := fun v => (int64.read v).map Int64.toInt32
  read_write := fun n => by rw [int64.read_write, Option.map_some, Int32.toInt32_toInt64]

/-- Many integers in one string of bytes. -/
def packed : Kind (List Int64) where
  write := fun ns => .bytes (ns.flatMap fun n => varint n.toUInt64.toNat)
  read
    | .bytes bs => (readAll readVarint bs.length bs).map fun ns => ns.map fun n =>
        (UInt64.ofNat n).toInt64
    | .varint _ => none
  read_write := fun ns => by
    have hall := readAll_write readVarint_varint varint_ne_nil
      (ns.map fun n => n.toUInt64.toNat)
    rw [List.flatMap_map] at hall
    simp only [hall, Option.map_some, List.map_map]
    congr 1
    calc ns.map _ = ns.map id := by
          apply List.map_congr_left
          intro n _
          have hn : (UInt64.ofNat n.toUInt64.toNat).toInt64 = n := by
            rw [UInt64.ofNat_toNat, Int64.toInt64_toUInt64]
          exact hn
      _ = ns := List.map_id ns

/-- A message inside a message. -/
def message {α : Type} (codec : Codec α) (h : codec.Undoes) : Kind α where
  write := fun a => .bytes (codec.write a)
  read
    | .bytes bs => codec.read bs
    | .varint _ => none
  read_write := h

end Kind

/-! ## Fields of a message -/

/-- How often the values of a field are written. -/
structure Slot (α : Type) where
  write : α → List Value
  read : List Value → Option α
  read_write : ∀ a, read (write a) = some a

section Slot

variable {α : Type} (kind : Kind α)

/-- The default is not written, and the last value counts. -/
def single [DecidableEq α] (zero : α) : Slot α where
  write := fun a => if a = zero then [] else [kind.write a]
  read := fun vs =>
    match vs.getLast? with
    | none => some zero
    | some v => kind.read v
  read_write := fun a => by
    by_cases h : a = zero
    · rw [if_pos h, h]
      rfl
    · rw [if_neg h]
      exact kind.read_write a

def optional : Slot (Option α) where
  write := fun a => a.toList.map kind.write
  read := fun vs =>
    match vs.getLast? with
    | none => some none
    | some v => (kind.read v).map some
  read_write := fun a => by
    cases a with
    | none => rfl
    | some a => exact congrArg (Option.map some) (kind.read_write a)

def repeated : Slot (List α) where
  write := fun as => as.map kind.write
  read := fun vs => vs.mapM kind.read
  read_write := fun as => by
    induction as with
    | nil => rfl
    | cons a as ih =>
      rw [List.map_cons, List.mapM_cons, kind.read_write, ih]
      rfl

end Slot

section Fields

variable {α : Type}

def field (slot : Slot α) (k : ℕ) (a : α) : List Field := (slot.write a).map fun v => (k, v)

/-- The values of a field, in order. -/
def values (k : ℕ) (fields : List Field) : List Value :=
  fields.filterMap fun (j, v) => if j = k then some v else none

def getField (slot : Slot α) (k : ℕ) (fields : List Field) : Option α :=
  slot.read (values k fields)

@[simp] theorem values_append (k : ℕ) (fields fields' : List Field) :
    values k (fields ++ fields') = values k fields ++ values k fields' :=
  List.filterMap_append

@[simp] theorem values_field (slot : Slot α) (j k : ℕ) (a : α) :
    values k (field slot j a) = if j = k then slot.write a else [] := by
  unfold values field
  rw [List.filterMap_map]
  by_cases h : j = k
  · rw [if_pos h]
    simp only [Function.comp_def, if_pos h, List.filterMap_some]
  · rw [if_neg h]
    simp [if_neg h]

@[simp] theorem read_write (slot : Slot α) (a : α) : slot.read (slot.write a) = some a :=
  slot.read_write a

/-- A message as the list of its fields. -/
def codecOf (fields : α → List Field) (ofFields : List Field → Option α) : Codec α where
  write := fun a => writeFields (fields a)
  read := fun bs => (readFields bs).bind ofFields

theorem codecOf_undoes {fields : α → List Field} {ofFields : List Field → Option α}
    (h : ∀ a, ofFields (fields a) = some a) : (codecOf fields ofFields).Undoes := by
  intro a
  unfold codecOf
  simp only [readFields_writeFields, Option.bind_some, h]

end Fields

end Proto
