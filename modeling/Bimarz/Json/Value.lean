import Bimarz.Dict
import Mathlib.Data.Int.Notation
import Mathlib.Data.Nat.Notation

/-!
# JSON values

The values that a JSON text stands for, over any type of floating-point numbers. A value is well
formed if the keys of each of its objects are distinct, as they are in a dictionary. A `Codec` is a
library that writes values in the compact layout and in an indented one, and reads them.
-/

namespace Json

inductive Value (φ : Type)
  | null
  | bool (b : Bool)
  | int (n : ℤ)
  | float (x : φ)
  | str (s : String)
  | list (elems : List (Value φ))
  | dict (items : List (String × Value φ))

variable {φ : Type}

mutual

/-- The keys of every object are distinct. -/
def Value.WellFormed : Value φ → Prop
  | .list elems => WellFormedElems elems
  | .dict items => (items.map Prod.fst).Nodup ∧ WellFormedItems items
  | _ => True

def WellFormedElems : List (Value φ) → Prop
  | [] => True
  | v :: elems => v.WellFormed ∧ WellFormedElems elems

def WellFormedItems : List (String × Value φ) → Prop
  | [] => True
  | (_, v) :: items => v.WellFormed ∧ WellFormedItems items

end

theorem wellFormedItems_iff (items : List (String × Value φ)) :
    WellFormedItems items ↔ ∀ item ∈ items, item.2.WellFormed := by
  induction items with
  | nil => simp [WellFormedItems]
  | cons item items ih =>
    obtain ⟨k, v⟩ := item
    rw [WellFormedItems, ih, List.forall_mem_cons]

/-- A JSON library: `dumps(v, separators=(",", ":"))`, `dumps(v, indent=2)` and `loads(text)`, which
fails on a text that is not JSON. -/
structure Codec (φ : Type) where
  dumps : Value φ → String
  dumpsIndented : Value φ → String
  loads : String → Option (Value φ)

/-- Reading undoes writing. -/
structure Codec.Undoes (json : Codec φ) : Prop where
  dumps : ∀ v : Value φ, v.WellFormed → json.loads (json.dumps v) = some v
  dumpsIndented : ∀ v : Value φ, v.WellFormed → json.loads (json.dumpsIndented v) = some v

end Json
