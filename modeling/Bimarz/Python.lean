import Bimarz.Dict
import Bimarz.Exceptions
import Mathlib.Data.Int.Notation

/-!
# Python values

The values that a profile's outbound settings hold, with `str(x)`, `repr(x)` and `int(x)` of them.
A value of any other type is kept as what these three make of it.
-/

namespace Bimarz

inductive PyValue
  | none
  | bool (b : Bool)
  | int (n : ℤ)
  | str (s : String)
  | object (str repr : String) (int : Except Exc ℤ)

namespace Python

/-! ## `int(s)` -/

/-- The zeros of the decimal digit ranges. -/
def decimalZeros : List ℕ := [
  0x30, 0x660, 0x6f0, 0x7c0, 0x966, 0x9e6, 0xa66, 0xae6, 0xb66, 0xbe6, 0xc66, 0xce6, 0xd66, 0xde6,
  0xe50, 0xed0, 0xf20, 0x1040, 0x1090, 0x17e0, 0x1810, 0x1946, 0x19d0, 0x1a80, 0x1a90, 0x1b50,
  0x1bb0, 0x1c40, 0x1c50, 0xa620, 0xa8d0, 0xa900, 0xa9d0, 0xa9f0, 0xaa50, 0xabf0, 0xff10, 0x104a0,
  0x10d30, 0x11066, 0x110f0, 0x11136, 0x111d0, 0x112f0, 0x11450, 0x114d0, 0x11650, 0x116c0,
  0x11730, 0x118e0, 0x11950, 0x11c50, 0x11d50, 0x11da0, 0x16a60, 0x16ac0, 0x16b50, 0x1d7ce,
  0x1d7d8, 0x1d7e2, 0x1d7ec, 0x1d7f6, 0x1e140, 0x1e2f0, 0x1e950, 0x1fbf0]

/-- The value of a decimal digit of any script. -/
def digit (c : Char) : Option ℕ :=
  (decimalZeros.find? fun z => z ≤ c.toNat ∧ c.toNat < z + 10).map fun z => c.toNat - z

def asciiSpaces : List ℕ := [9, 10, 11, 12, 13, 32]

def wideSpaces : List ℕ := [
  0x85, 0xa0, 0x1680, 0x2000, 0x2001, 0x2002, 0x2003, 0x2004, 0x2005, 0x2006, 0x2007, 0x2008,
  0x2009, 0x200a, 0x2028, 0x2029, 0x202f, 0x205f, 0x3000]

/-- What `isspace` takes for a blank. -/
def spaces : List ℕ := asciiSpaces ++ [0x1c, 0x1d, 0x1e, 0x1f] ++ wideSpaces

/-- The blanks that `int(s)` skips; the four separators of ASCII are none of them. -/
def skipped (c : Char) : Bool := asciiSpaces.contains c.toNat || wideSpaces.contains c.toNat

/-- The digits after the first one; a single underscore may stand before a digit. -/
def digits (value : ℕ) : List Char → Option ℕ
  | [] => some value
  | '_' :: c :: cs => do digits (value * 10 + (← digit c)) cs
  | c :: cs => do digits (value * 10 + (← digit c)) cs

def unsigned : List Char → Option ℕ
  | [] => none
  | c :: cs => do digits (← digit c) cs

def signed : List Char → Option ℤ
  | '-' :: cs => (unsigned cs).map fun n => -(n : ℤ)
  | '+' :: cs => (unsigned cs).map Int.ofNat
  | cs => (unsigned cs).map Int.ofNat

def unsign : List Char → List Char
  | '-' :: cs => cs
  | '+' :: cs => cs
  | cs => cs

/-- How many digits follow the first one, whatever comes after them; `none` if an underscore is
misplaced there. -/
def countDigits (count : ℕ) : List Char → Option ℕ
  | [] => some count
  | '_' :: c :: cs => if (digit c).isSome then countDigits (count + 1) cs else none
  | c :: cs =>
    if c = '_' then none
    else if (digit c).isSome then countDigits (count + 1) cs
    else some count

/-- `sys.int_info.default_max_str_digits`. -/
def maxStrDigits : ℕ := 4300

/-- The number of digits that `int(s)` refuses to convert. -/
def tooManyDigits (cs : List Char) : Option ℕ := do
  match unsign cs with
  | [] => none
  | c :: cs =>
    let _ ← digit c
    let count ← countDigits 1 cs
    if maxStrDigits < count then some count else none

/-- `s` without the blanks that `int(s)` skips. -/
def unpadded (s : String) : List Char :=
  ((s.toList.dropWhile skipped).reverse.dropWhile skipped).reverse

/-- `int(s)`; `none` is a `ValueError`. -/
def intOfString (s : String) : Option ℤ :=
  if (tooManyDigits (unpadded s)).isSome then none else signed (unpadded s)

example : intOfString " 44_3\n" = some 443 := by decide

/-! ## Text -/

def isSpace (c : Char) : Bool := spaces.contains c.toNat

/-- `s.strip()`. -/
def strip (s : String) : String :=
  String.ofList ((s.toList.dropWhile isSpace).reverse.dropWhile isSpace).reverse

/-- `s.removeprefix(start)`. -/
def removeStart (s start : String) : String :=
  if start.toList.isPrefixOf s.toList then String.ofList (s.toList.drop start.length) else s

/-! ## `str(x)`, `repr(x)` and `int(x)` -/

def apostrophe : Char := Char.ofNat 39
def quotationMark : Char := Char.ofNat 34
def backslash : Char := Char.ofNat 92

/-- A character of a string literal between the quotes `q`. -/
def escaped (q c : Char) : List Char :=
  if c = q ∨ c = backslash then [backslash, c]
  else if c.toNat = 10 then [backslash, 'n']
  else if c.toNat = 13 then [backslash, 'r']
  else if c.toNat = 9 then [backslash, 't']
  else if c.toNat < 32 ∨ c.toNat = 127 then
    [backslash, 'x', Nat.digitChar (c.toNat / 16), Nat.digitChar (c.toNat % 16)]
  else [c]

/-- `repr(s)` of a string whose other characters are printable. -/
def reprOfString (s : String) : String :=
  let cs := s.toList
  let q := if apostrophe ∈ cs ∧ quotationMark ∉ cs then quotationMark else apostrophe
  String.ofList (q :: cs.flatMap (escaped q) ++ [q])

/-- The text of the `ValueError` of `int(s)`, in which the literal is cut after 200 characters. -/
def intError (s : String) : String :=
  match tooManyDigits (unpadded s) with
  | some count =>
    s!"Exceeds the limit ({maxStrDigits} digits) for integer string conversion: " ++
      s!"value has {count} digits; use sys.set_int_max_str_digits() to increase the limit"
  | none =>
    "invalid literal for int() with base 10: " ++
      String.ofList ((reprOfString s).toList.take 200)

end Python

namespace PyValue

/-- `str(x)`. -/
def toStr : PyValue → String
  | none => "None"
  | bool b => if b then "True" else "False"
  | int n => toString n
  | str s => s
  | object s _ _ => s

/-- `repr(x)`. -/
def repr : PyValue → String
  | str s => Python.reprOfString s
  | object _ r _ => r
  | x => x.toStr

/-- `int(x)`. -/
def toInt : PyValue → Except Exc ℤ
  | none => .error (.error .typeError
      ("int() argument must be a string, a bytes-like object or a real number, not 'NoneType'"))
  | bool b => .ok (if b then 1 else 0)
  | int n => .ok n
  | str s =>
    match Python.intOfString s with
    | some n => .ok n
    | Option.none => .error (.error .valueError (Python.intError s))
  | object _ _ i => i

end PyValue

end Bimarz
