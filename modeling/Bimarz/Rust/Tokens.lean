import Bimarz.Text.Hex
import Mathlib.Data.Bool.AllAny
import Mathlib.Tactic.Common

/-!
# Tokens of Rust

Which names a module may be declared under, and string literals: a string as it is formatted with
`{:?}`, and a reader that takes the literal for the string that was formatted, whichever
characters are printed as they are.
-/

namespace Rust

/-! ## Names of modules -/

/-- The strict keywords of the editions 2015 to 2024. -/
def strictKeywords : List String := [
  "as", "async", "await", "break", "const", "continue", "crate", "dyn", "else", "enum", "extern",
  "false", "fn", "for", "if", "impl", "in", "let", "loop", "match", "mod", "move", "mut", "pub",
  "ref", "return", "self", "Self", "static", "struct", "super", "trait", "true", "type", "unsafe",
  "use", "where", "while"]

/-- The reserved keywords. -/
def reservedKeywords : List String := [
  "abstract", "become", "box", "do", "final", "gen", "macro", "override", "priv", "try", "typeof",
  "unsized", "virtual", "yield"]

def keywords : List String := strictKeywords ++ reservedKeywords

/-- The keywords that cannot be raw identifiers. -/
def pathKeywords : List String := ["crate", "self", "super", "Self"]

def isIdentStart (c : Char) : Bool := c = '_' || c.isAlpha

def isIdentContinue (c : Char) : Bool := c = '_' || c.isAlphanum

/-- An identifier of ASCII characters, or a keyword. -/
def isIdent : List Char → Bool
  | [] => false
  | c :: cs => isIdentStart c && cs.all isIdentContinue

/-- The name of a module: an identifier that is no keyword and no lone underscore, or a raw
identifier for a keyword. -/
def LegalModuleName (name : String) : Prop :=
  (isIdent name.toList = true ∧ name ≠ "_" ∧ name ∉ keywords) ∨
    ∃ keyword ∈ keywords, keyword ∉ pathKeywords ∧ name = "r#" ++ keyword

/-! ## String literals -/

/-- The characters with an escape of one letter. -/
def shortEscapes : List (Char × Char) := [
  (Char.ofNat 0, '0'), ('\t', 't'), ('\r', 'r'), ('\n', 'n'), ('"', '"'), ('\\', '\\')]

/-- A number in hexadecimal, without leading zeros. -/
def hexDigits (n : ℕ) : List Char :=
  if n < 16 then [Hex.digit n] else hexDigits (n / 16) ++ [Hex.digit (n % 16)]

/-- A character of a literal; `printable` says which ones the formatter leaves as they are. -/
def escape (printable : Char → Bool) (c : Char) : List Char :=
  match shortEscapes.find? fun e => e.1 = c with
  | some e => ['\\', e.2]
  | none =>
    if printable c then [c] else ['\\', 'u', '{'] ++ hexDigits c.toNat ++ ['}']

/-- The string with its quotation marks and escapes. -/
def debug (printable : Char → Bool) (cs : List Char) : List Char :=
  '"' :: cs.flatMap (escape printable) ++ ['"']

/-- The character of an escape of one letter. -/
def unescape (c : Char) : Option Char := (shortEscapes.find? fun e => e.2 = c).map Prod.fst

/-- Where a reader is in a literal. -/
inductive Mode
  | text
  /-- after a backslash -/
  | letter
  /-- before the opening brace of an escape -/
  | brace
  /-- inside the braces, with the number that has been read -/
  | number (n : ℕ)

/-- The rest of a literal, with what follows it. -/
def readBody : Mode → List Char → Option (List Char × List Char)
  | _, [] => none
  | .text, c :: cs =>
    if c = '"' then some ([], cs)
    else if c = '\\' then readBody .letter cs
    else (readBody .text cs).map fun body => (c :: body.1, body.2)
  | .letter, c :: cs =>
    if c = 'u' then readBody .brace cs
    else
      match unescape c with
      | some c => (readBody .text cs).map fun body => (c :: body.1, body.2)
      | none => none
  | .brace, c :: cs => if c = '{' then readBody (.number 0) cs else none
  | .number n, c :: cs =>
    if c = '}' then
      if n.isValidChar then (readBody .text cs).map fun body => (Char.ofNat n :: body.1, body.2)
      else none
    else
      match Hex.value c with
      | some d => readBody (.number (n * 16 + d)) cs
      | none => none

/-- A literal at the beginning of a text, and what follows it. -/
def readLiteral : List Char → Option (List Char × List Char)
  | '"' :: cs => readBody .text cs
  | _ => none

/-! ### Reading what was formatted -/

theorem unescape_short {c : Char} {e : Char × Char}
    (h : (shortEscapes.find? fun e => e.1 = c) = some e) : e.2 ≠ 'u' ∧ unescape e.2 = some c := by
  have hfound := List.find?_some h
  have hall : ∀ e ∈ shortEscapes, e.2 ≠ 'u' ∧ unescape e.2 = some e.1 :=
    List.all_iff_forall_prop.mp (by decide)
  rw [← of_decide_eq_true hfound]
  exact hall e (List.mem_of_find?_eq_some h)

theorem digit_ne_brace {n : ℕ} (h : n < 16) : Hex.digit n ≠ '}' := by
  revert n
  decide

theorem readBody_digit {n : ℕ} (h : n < 16) (m : ℕ) (cs : List Char) :
    readBody (.number m) (Hex.digit n :: cs) = readBody (.number (m * 16 + n)) cs := by
  rw [readBody, if_neg (digit_ne_brace h), Hex.value_digit h]

/-- The digits add up to the number. -/
theorem readBody_hexDigits (n : ℕ) (cs : List Char) :
    readBody (.number 0) (hexDigits n ++ cs) = readBody (.number n) cs := by
  induction n using hexDigits.induct generalizing cs with
  | case1 n h =>
    rw [hexDigits, if_pos h, List.singleton_append, readBody_digit h, Nat.zero_mul, Nat.zero_add]
  | case2 n h ih =>
    rw [hexDigits, if_neg h, List.append_assoc, ih, List.singleton_append,
      readBody_digit (by omega), show n / 16 * 16 + n % 16 = n by omega]

theorem readBody_escape (printable : Char → Bool) (c : Char) (cs : List Char) :
    readBody .text (escape printable c ++ cs) =
      (readBody .text cs).map fun body => (c :: body.1, body.2) := by
  unfold escape
  cases hfind : shortEscapes.find? fun e => e.1 = c with
  | some e =>
    obtain ⟨hu, hunescape⟩ := unescape_short hfind
    simp only [List.cons_append, List.nil_append]
    rw [readBody, if_neg (by decide), if_pos rfl, readBody, if_neg hu, hunescape]
  | none =>
    have hquote : c ≠ '"' := by
      rintro rfl
      cases hfind
    have hbackslash : c ≠ '\\' := by
      rintro rfl
      cases hfind
    simp only
    split
    · rw [List.singleton_append, readBody, if_neg hquote, if_neg hbackslash]
    · have hvalid : c.toNat.isValidChar := c.valid
      simp only [List.cons_append, List.nil_append, List.append_assoc]
      rw [readBody, if_neg (by decide), if_pos rfl, readBody, if_pos rfl, readBody, if_pos rfl,
        readBody_hexDigits, readBody, if_pos rfl, if_pos hvalid, Char.ofNat_toNat]

theorem readLiteral_debug (printable : Char → Bool) (text rest : List Char) :
    readLiteral (debug printable text ++ rest) = some (text, rest) := by
  have hbody : readBody .text (text.flatMap (escape printable) ++ '"' :: rest) =
      some (text, rest) := by
    induction text with
    | nil => rw [List.flatMap_nil, List.nil_append, readBody, if_pos rfl]
    | cons c text ih =>
      rw [List.flatMap_cons, List.append_assoc, readBody_escape, ih]
      rfl
  unfold debug
  simp only [List.cons_append, List.append_assoc, List.nil_append]
  exact hbody

/-! ### Literals on one line -/

theorem newline_not_mem_hexDigits (n : ℕ) : '\n' ∉ hexDigits n := by
  have hdigit : ∀ n < 16, Hex.digit n ≠ '\n' := by decide
  induction n using hexDigits.induct with
  | case1 n h =>
    rw [hexDigits, if_pos h, List.mem_singleton]
    exact (hdigit n h).symm
  | case2 n h ih =>
    rw [hexDigits, if_neg h, List.mem_append, List.mem_singleton, not_or]
    exact ⟨ih, (hdigit _ (by omega)).symm⟩

theorem newline_not_mem_escape (printable : Char → Bool) (c : Char) :
    '\n' ∉ escape printable c := by
  unfold escape
  cases hfind : shortEscapes.find? fun e => e.1 = c with
  | some e =>
    have hall : ∀ e ∈ shortEscapes, e.2 ≠ '\n' := List.all_iff_forall_prop.mp (by decide)
    simp [(hall e (List.mem_of_find?_eq_some hfind)).symm]
  | none =>
    have hne : c ≠ '\n' := by
      rintro rfl
      cases hfind
    simp only
    split
    · rw [List.mem_singleton]
      exact hne.symm
    · simp [newline_not_mem_hexDigits]

/-- A literal stands on one line. -/
theorem newline_not_mem_debug (printable : Char → Bool) (text : List Char) :
    '\n' ∉ debug printable text := by
  unfold debug
  simp [newline_not_mem_escape]

end Rust
