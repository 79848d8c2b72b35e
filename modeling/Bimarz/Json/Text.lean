import Bimarz.Json.Value
import Bimarz.Text.Hex

/-!
# JSON texts

Writing and reading JSON without floating-point numbers, and that reading undoes writing in either
layout. Escapes of surrogates are not read.
-/

namespace Json

/-! ## Strings -/

/-- The letters that stand for a character after a backslash. -/
def shortEscapes : List (Char × Char) := [
  ('"', '"'), ('\\', '\\'), (Char.ofNat 8, 'b'), (Char.ofNat 12, 'f'), ('\n', 'n'), ('\r', 'r'),
  ('\t', 't')]

/-- A character of a string, with `ensure_ascii=False`. -/
def escape (c : Char) : List Char :=
  match shortEscapes.find? fun e => e.1 = c with
  | some e => ['\\', e.2]
  | none =>
    if c.toNat < 32 then ['\\', 'u', '0', '0', Hex.digit (c.toNat / 16), Hex.digit (c.toNat % 16)]
    else [c]

/-- The character that a letter after a backslash stands for. -/
def unescape (c : Char) : Option Char :=
  if c = '/' then some '/' else (shortEscapes.find? fun e => e.2 = c).map Prod.fst

/-- The scalar value of four hexadecimal digits. -/
def codePoint (a b c d : Char) : Option Char := do
  let a ← Hex.value a
  let b ← Hex.value b
  let c ← Hex.value c
  let d ← Hex.value d
  let n := ((a * 16 + b) * 16 + c) * 16 + d
  if n < 0xd800 ∨ 0xdfff < n then return Char.ofNat n else none

/-- The character after a backslash, and the rest. -/
def readEscape : List Char → Option (Option Char × List Char)
  | [] => none
  | e :: r =>
    if e = 'u' then
      match r with
      | a :: b :: c :: d :: r => (codePoint a b c d).map fun c => (some c, r)
      | _ => none
    else (unescape e).map fun c => (some c, r)

/-- The next character of a string, or none for the closing quote, and the rest. -/
def readChar : List Char → Option (Option Char × List Char)
  | [] => none
  | c :: r =>
    if c = '"' then some (none, r)
    else if c = '\\' then readEscape r
    else if c.toNat < 32 then none
    else some (some c, r)

def readChars : ℕ → List Char → Option (List Char × List Char)
  | 0, _ => none
  | n + 1, cs =>
    match readChar cs with
    | none => none
    | some (none, r) => some ([], r)
    | some (some c, r) => (readChars n r).map fun p => (c :: p.1, p.2)

/-- The rest of a string, and what stands after its closing quote. -/
def readString (cs : List Char) : Option (List Char × List Char) := readChars cs.length cs

theorem escape_cases (c : Char) :
    (∃ e ∈ shortEscapes, e.1 = c ∧ escape c = ['\\', e.2]) ∨
    (c.toNat < 32 ∧
      escape c = ['\\', 'u', '0', '0', Hex.digit (c.toNat / 16), Hex.digit (c.toNat % 16)]) ∨
    (c ≠ '"' ∧ c ≠ '\\' ∧ ¬c.toNat < 32 ∧ escape c = [c]) := by
  unfold escape
  cases hfind : shortEscapes.find? (fun e => decide (e.1 = c)) with
  | some e =>
    have hpair := List.find?_some hfind
    exact Or.inl ⟨e, List.mem_of_find?_eq_some hfind, of_decide_eq_true hpair, rfl⟩
  | none =>
    right
    by_cases hc : c.toNat < 32
    · exact Or.inl ⟨hc, if_pos hc⟩
    · refine Or.inr ⟨?_, ?_, hc, if_neg hc⟩
      · rintro rfl
        revert hfind
        decide
      · rintro rfl
        revert hfind
        decide

theorem codePoint_digits {n : ℕ} (h : n < 32) :
    codePoint '0' '0' (Hex.digit (n / 16)) (Hex.digit (n % 16)) = some (Char.ofNat n) := by
  revert n
  decide

theorem readChar_escape (c : Char) (r : List Char) :
    readChar (escape c ++ r) = some (some c, r) := by
  rcases escape_cases c with ⟨e, he, rfl, h⟩ | ⟨hc, h⟩ | ⟨hquote, hslash, hc, h⟩
  · have hback : ∀ e ∈ shortEscapes, unescape e.2 = some e.1 ∧ e.2 ≠ 'u' := by decide
    obtain ⟨hun, hu⟩ := hback e he
    rw [h]
    show (if e.2 = 'u' then _ else (unescape e.2).map _) = _
    rw [if_neg hu, hun]
    rfl
  · rw [h]
    show (codePoint '0' '0' _ _).map _ = _
    rw [codePoint_digits hc, Char.ofNat_toNat]
    rfl
  · rw [h, List.cons_append, List.nil_append, readChar, if_neg hquote, if_neg hslash, if_neg hc]

theorem readChars_escape (cs : List Char) (r : List Char) {n : ℕ} (h : cs.length < n) :
    readChars n (cs.flatMap escape ++ '"' :: r) = some (cs, r) := by
  induction cs generalizing n with
  | nil =>
    obtain ⟨n, rfl⟩ : ∃ m, n = m + 1 := ⟨n - 1, by omega⟩
    rfl
  | cons c cs ih =>
    obtain ⟨n, rfl⟩ : ∃ m, n = m + 1 := ⟨n - 1, by omega⟩
    rw [List.flatMap_cons, List.append_assoc, readChars, readChar_escape]
    simp only
    rw [ih (Nat.lt_of_succ_lt_succ h)]
    rfl

/-- A string that was written, after its opening quote. -/
theorem readString_escape (cs r : List Char) :
    readString (cs.flatMap escape ++ '"' :: r) = some (cs, r) := by
  have hlength : cs.length ≤ (cs.flatMap escape).length := by
    induction cs with
    | nil => exact Nat.le_refl 0
    | cons c cs ih =>
      have hc : 0 < (escape c).length := by
        rcases escape_cases c with ⟨e, -, -, h⟩ | ⟨-, h⟩ | ⟨-, -, -, h⟩ <;> rw [h] <;>
          exact Nat.succ_pos _
      rw [List.flatMap_cons, List.length_append, List.length_cons]
      omega
  apply readChars_escape
  rw [List.length_append, List.length_cons]
  omega

/-! ## Numbers -/

/-- The digits of a number, most significant first. -/
def natDigits (n : ℕ) : List Char := Nat.toDigits 10 n

def intDigits : ℤ → List Char
  | .ofNat n => natDigits n
  | .negSucc n => '-' :: natDigits (n + 1)

/-- A number and the rest; a leading zero stands alone. -/
def readNat (cs : List Char) : Option (ℕ × List Char) :=
  if cs.head? = some '0' then some (0, cs.tail)
  else if cs.takeWhile Char.isDigit = [] then none
  else some (Nat.ofDigitChars 10 (cs.takeWhile Char.isDigit) 0, cs.dropWhile Char.isDigit)

def readInt (cs : List Char) : Option (ℤ × List Char) :=
  if cs.head? = some '-' then (readNat cs.tail).map fun p => (-(p.1 : ℤ), p.2)
  else (readNat cs).map fun p => ((p.1 : ℤ), p.2)

/-- What stands after a value does not go on with a digit. -/
def Delimited (r : List Char) : Prop := ∀ c ∈ r.head?, c.isDigit = false

theorem natDigits_isDigit {n : ℕ} {c : Char} (h : c ∈ natDigits n) : c.isDigit = true :=
  Nat.isDigit_of_mem_toDigits (by decide) (by decide) h

theorem natDigits_cons (n : ℕ) : ∃ c cs, natDigits n = c :: cs ∧ (c = '0' → n = 0 ∧ cs = []) := by
  induction n using Nat.strongRecOn with
  | ind n ih =>
    by_cases hn : n < 10
    · have hzero : ∀ n < 10, n.digitChar = '0' → n = 0 := by decide
      exact ⟨n.digitChar, [], Nat.toDigits_of_lt_base hn, fun h => ⟨hzero n hn h, rfl⟩⟩
    · have hsplit : natDigits n = natDigits (n / 10) ++ [(n % 10).digitChar] :=
        Nat.toDigits_of_base_le (by decide) (by omega)
      obtain ⟨c, cs, hc, hzero⟩ := ih (n / 10) (by omega)
      refine ⟨c, cs ++ [(n % 10).digitChar], by rw [hsplit, hc]; rfl, fun h => ?_⟩
      have := (hzero h).1
      omega

/-- A number begins with a digit or a sign, and with nothing else. -/
theorem intDigits_cons (n : ℤ) : ∃ c cs, intDigits n = c :: cs ∧ (c.isDigit = true ∨ c = '-') := by
  cases n with
  | ofNat n =>
    obtain ⟨c, cs, hc, -⟩ := natDigits_cons n
    exact ⟨c, cs, hc, Or.inl (natDigits_isDigit (n := n) (by rw [hc]; exact List.mem_cons_self))⟩
  | negSucc n => exact ⟨'-', natDigits (n + 1), rfl, Or.inr rfl⟩

/-- A character that begins no number. -/
theorem ne_of_begins {c d : Char} (h : c.isDigit = true ∨ c = '-')
    (hd : d.isDigit = false ∧ d ≠ '-') : c ≠ d := by
  rintro rfl
  rcases h with h | rfl
  · exact Bool.noConfusion (h.symm.trans hd.1)
  · exact hd.2 rfl

theorem span_digits {ds r : List Char} (h : ∀ c ∈ ds, c.isDigit = true) (hr : Delimited r) :
    (ds ++ r).takeWhile Char.isDigit = ds ∧ (ds ++ r).dropWhile Char.isDigit = r := by
  have hrest : r.takeWhile Char.isDigit = [] ∧ r.dropWhile Char.isDigit = r := by
    cases r with
    | nil => exact ⟨rfl, rfl⟩
    | cons c r =>
      have hc : c.isDigit = false := hr c rfl
      simp [hc]
  rw [List.takeWhile_append_of_pos h, List.dropWhile_append_of_pos h, hrest.1, hrest.2]
  exact ⟨List.append_nil ds, rfl⟩

theorem readNat_digits (n : ℕ) {r : List Char} (hr : Delimited r) :
    readNat (natDigits n ++ r) = some (n, r) := by
  obtain ⟨c, cs, hc, hzero⟩ := natDigits_cons n
  have hhead : (natDigits n ++ r).head? = some c := by rw [hc]; rfl
  have hspan := span_digits (fun c => natDigits_isDigit (n := n)) hr
  have hvalue : Nat.ofDigitChars 10 (natDigits n) 0 = n := Nat.ofDigitChars_ten_toDigits
  unfold readNat
  rw [hhead, hspan.1, hspan.2, hvalue]
  by_cases h : c = '0'
  · obtain ⟨rfl, rfl⟩ := hzero h
    rw [if_pos (by rw [h]), hc]
    rfl
  · rw [if_neg (by simpa using h), if_neg (by simp [hc])]

theorem readInt_digits (n : ℤ) {r : List Char} (hr : Delimited r) :
    readInt (intDigits n ++ r) = some (n, r) := by
  unfold readInt
  cases n with
  | ofNat n =>
    obtain ⟨c, cs, hc, -⟩ := natDigits_cons n
    have hdigit : c.isDigit = true := natDigits_isDigit (n := n) (by rw [hc]; exact List.mem_cons_self)
    have hhead : (intDigits (.ofNat n) ++ r).head? ≠ some '-' := by
      show (natDigits n ++ r).head? ≠ some '-'
      rw [hc]
      intro h
      cases h
      revert hdigit
      decide
    rw [if_neg hhead]
    show (readNat (natDigits n ++ r)).map _ = _
    rw [readNat_digits n hr]
    rfl
  | negSucc n =>
    have hhead : (intDigits (.negSucc n) ++ r).head? = some '-' := rfl
    rw [if_pos hhead]
    show (readNat (natDigits (n + 1) ++ r)).map _ = _
    rw [readNat_digits (n + 1) hr]
    rfl

/-! ## Writing values -/

/-- The two layouts: everything in one line without blanks, or each element in a line of its own,
indented by two columns a level. -/
inductive Layout
  | compact
  | indented
  deriving DecidableEq, Repr

namespace Layout

def newline (layout : Layout) (level : ℕ) : List Char :=
  match layout with
  | .compact => []
  | .indented => '\n' :: List.replicate (2 * level) ' '

def colon : Layout → List Char
  | .compact => [':']
  | .indented => [':', ' ']

end Layout

def quoted (s : String) : List Char := '"' :: (s.toList.flatMap escape ++ ['"'])

section Writing

variable (layout : Layout)

mutual

def write : Value Empty → ℕ → List Char
  | .null, _ => ['n', 'u', 'l', 'l']
  | .bool true, _ => ['t', 'r', 'u', 'e']
  | .bool false, _ => ['f', 'a', 'l', 's', 'e']
  | .int n, _ => intDigits n
  | .str s, _ => quoted s
  | .list [], _ => ['[', ']']
  | .list (v :: elems), level =>
    '[' :: (layout.newline (level + 1) ++ write v (level + 1) ++
      writeElems elems (level + 1) ++ layout.newline level ++ [']'])
  | .dict [], _ => ['{', '}']
  | .dict ((k, v) :: items), level =>
    '{' :: (layout.newline (level + 1) ++ quoted k ++ layout.colon ++ write v (level + 1) ++
      writeItems items (level + 1) ++ layout.newline level ++ ['}'])

def writeElems : List (Value Empty) → ℕ → List Char
  | [], _ => []
  | v :: elems, level =>
    ',' :: (layout.newline level ++ write v level ++ writeElems elems level)

def writeItems : List (String × Value Empty) → ℕ → List Char
  | [], _ => []
  | (k, v) :: items, level =>
    ',' :: (layout.newline level ++ quoted k ++ layout.colon ++ write v level ++
      writeItems items level)

end

end Writing

/-! ## Reading values -/

def isBlank (c : Char) : Bool := c = ' ' ∨ c = '\n' ∨ c = '\t' ∨ c = '\r'

def skip (cs : List Char) : List Char := cs.dropWhile isBlank

/-- Read a word that is spelled out. -/
def readWord (word : List Char) (v : Value Empty) (cs : List Char) :
    Option (Value Empty × List Char) :=
  if word.isPrefixOf cs then some (v, cs.drop word.length) else none

def readScalar (cs : List Char) : Option (Value Empty × List Char) :=
  match readWord ['n', 'u', 'l', 'l'] .null cs with
  | some p => some p
  | none =>
    match readWord ['t', 'r', 'u', 'e'] (.bool true) cs with
    | some p => some p
    | none =>
      match readWord ['f', 'a', 'l', 's', 'e'] (.bool false) cs with
      | some p => some p
      | none => (readInt cs).map fun p => (.int p.1, p.2)

mutual

/-- A value and the rest, in at most `n` nested steps. -/
def readValue : ℕ → List Char → Option (Value Empty × List Char)
  | 0, _ => none
  | n + 1, cs =>
    match skip cs with
    | [] => none
    | c :: r =>
      if c = '"' then (readString r).map fun p => (.str (String.ofList p.1), p.2)
      else if c = '[' then
        if (skip r).head? = some ']' then some (.list [], (skip r).tail)
        else (readElems n r).map fun p => (.list p.1, p.2)
      else if c = '{' then
        if (skip r).head? = some '}' then some (.dict [], (skip r).tail)
        else (readItems n r).map fun p => (.dict (Dict.ofList p.1).items, p.2)
      else readScalar (c :: r)

/-- The elements of a list, up to its closing bracket. -/
def readElems : ℕ → List Char → Option (List (Value Empty) × List Char)
  | 0, _ => none
  | n + 1, cs => do
    let (v, r) ← readValue n cs
    match skip r with
    | ',' :: r => do
      let (elems, r) ← readElems n r
      return (v :: elems, r)
    | ']' :: r => return ([v], r)
    | _ => none

/-- The items of an object, up to its closing brace. -/
def readItems : ℕ → List Char → Option (List (String × Value Empty) × List Char)
  | 0, _ => none
  | n + 1, cs =>
    match skip cs with
    | '"' :: r => do
      let (k, r) ← readString r
      match skip r with
      | ':' :: r => do
        let (v, r) ← readValue n r
        match skip r with
        | ',' :: r => do
          let (items, r) ← readItems n r
          return ((String.ofList k, v) :: items, r)
        | '}' :: r => return ([(String.ofList k, v)], r)
        | _ => none
      | _ => none
    | _ => none

end

/-- `loads(text)`: one value, and nothing but blanks after it. -/
def read (text : String) : Option (Value Empty) :=
  match readValue (text.toList.length + 1) text.toList with
  | some (v, r) => if skip r = [] then some v else none
  | none => none

/-! ## The round trip -/

mutual

/-- The nesting of steps that reading a value takes. -/
def steps : Value Empty → ℕ
  | .list elems => 1 + stepsElems elems
  | .dict items => 1 + stepsItems items
  | _ => 1

def stepsElems : List (Value Empty) → ℕ
  | [] => 0
  | v :: elems => 1 + steps v + stepsElems elems

def stepsItems : List (String × Value Empty) → ℕ
  | [] => 0
  | (_, v) :: items => 1 + steps v + stepsItems items

end

section RoundTrip

variable (layout : Layout)

theorem skip_blanks {bs : List Char} (h : ∀ c ∈ bs, isBlank c = true) (r : List Char) :
    skip (bs ++ r) = skip r := List.dropWhile_append_of_pos h

theorem skip_cons {c : Char} (h : isBlank c = false) (r : List Char) : skip (c :: r) = c :: r :=
  List.dropWhile_cons_of_neg (by simp [h])

theorem newline_blank (level : ℕ) : ∀ c ∈ layout.newline level, isBlank c = true := by
  intro c hc
  cases layout with
  | compact => cases hc
  | indented =>
    rcases List.mem_cons.mp hc with rfl | hc
    · decide
    · rw [List.eq_of_mem_replicate hc]
      decide

theorem skip_newline (level : ℕ) {c : Char} (h : isBlank c = false) (r : List Char) :
    skip (layout.newline level ++ c :: r) = c :: r := by
  rw [skip_blanks (newline_blank layout level), skip_cons h]

/-- The first character of a value is none that readers skip. -/
theorem write_cons (v : Value Empty) (level : ℕ) :
    ∃ c r, write layout v level = c :: r ∧ isBlank c = false ∧ c ≠ ']' ∧ c ≠ '}' := by
  cases v with
  | null => exact ⟨_, _, rfl, by decide, by decide, by decide⟩
  | bool b => cases b <;> exact ⟨_, _, rfl, by decide, by decide, by decide⟩
  | int n =>
    obtain ⟨c, cs, hc, hbegins⟩ := intDigits_cons n
    have hne {d : Char} (hd : d.isDigit = false ∧ d ≠ '-') : c ≠ d := ne_of_begins hbegins hd
    refine ⟨c, cs, hc, decide_eq_false ?_, hne (by decide), hne (by decide)⟩
    rintro (h | h | h | h) <;> exact hne (by decide) h
  | float x => exact x.elim
  | str s => exact ⟨_, _, rfl, by decide, by decide, by decide⟩
  | list elems => cases elems <;> exact ⟨_, _, rfl, by decide, by decide, by decide⟩
  | dict items => cases items <;> exact ⟨_, _, rfl, by decide, by decide, by decide⟩

/-- A number is none of the words. -/
theorem readScalar_int (n : ℤ) {r : List Char} (hr : Delimited r) :
    readScalar (intDigits n ++ r) = some (.int n, r) := by
  obtain ⟨d, ds, hd, hbegins⟩ := intDigits_cons n
  have hword (c : Char) (cs : List Char) (v : Value Empty)
      (hc : c.isDigit = false ∧ c ≠ '-') : readWord (c :: cs) v (intDigits n ++ r) = none := by
    rw [hd, List.cons_append, readWord, if_neg]
    simp [List.isPrefixOf, Ne.symm (ne_of_begins hbegins hc)]
  unfold readScalar
  rw [hword 'n' _ _ (by decide), hword 't' _ _ (by decide), hword 'f' _ _ (by decide)]
  simp only
  rw [readInt_digits n hr]
  rfl

theorem readValue_scalar {n : ℕ} {bs cs r : List Char} {v : Value Empty} {c : Char}
    {cs' : List Char} (hcs : cs = c :: cs') (hblank : isBlank c = false)
    (hc : c ≠ '"' ∧ c ≠ '[' ∧ c ≠ '{') (hbs : ∀ c ∈ bs, isBlank c = true)
    (h : readScalar cs = some (v, r)) : readValue (n + 1) (bs ++ cs) = some (v, r) := by
  subst hcs
  rw [readValue, skip_blanks hbs, skip_cons hblank]
  simp only
  rw [if_neg hc.1, if_neg hc.2.1, if_neg hc.2.2, h]

theorem readString_quoted (s : String) (r : List Char) :
    readString (s.toList.flatMap escape ++ '"' :: r) = some (s.toList, r) := readString_escape _ _

theorem delimited_cons {c : Char} (h : c.isDigit = false) (r : List Char) :
    Delimited (c :: r) := fun d hd => by cases hd; exact h

theorem delimited_newline (level : ℕ) {c : Char} (h : c.isDigit = false) (r : List Char) :
    Delimited (layout.newline level ++ c :: r) := by
  cases layout with
  | compact => exact delimited_cons h r
  | indented => exact delimited_cons (by decide) _

theorem write_list (v : Value Empty) (elems : List (Value Empty)) (level : ℕ) (r : List Char) :
    write layout (.list (v :: elems)) level ++ r =
      '[' :: ((writeElems layout (v :: elems) (level + 1)).tail ++
        (layout.newline level ++ ']' :: r)) := by
  simp [write, writeElems]

theorem write_dict (k : String) (v : Value Empty) (items : List (String × Value Empty))
    (level : ℕ) (r : List Char) :
    write layout (.dict ((k, v) :: items)) level ++ r =
      '{' :: ((writeItems layout ((k, v) :: items) (level + 1)).tail ++
        (layout.newline level ++ '}' :: r)) := by
  simp [write, writeItems]

theorem readValue_list {n : ℕ} {bs r : List Char} (hbs : ∀ c ∈ bs, isBlank c = true) :
    readValue (n + 1) (bs ++ '[' :: r) =
      if (skip r).head? = some ']' then some (.list [], (skip r).tail)
      else (readElems n r).map fun p => (.list p.1, p.2) := by
  rw [readValue, skip_blanks hbs, skip_cons (by decide)]
  rfl

theorem readValue_dict {n : ℕ} {bs r : List Char} (hbs : ∀ c ∈ bs, isBlank c = true) :
    readValue (n + 1) (bs ++ '{' :: r) =
      if (skip r).head? = some '}' then some (.dict [], (skip r).tail)
      else (readItems n r).map fun p => (.dict (Dict.ofList p.1).items, p.2) := by
  rw [readValue, skip_blanks hbs, skip_cons (by decide)]
  rfl

theorem colon_append (r : List Char) :
    ∃ bs, (∀ c ∈ bs, isBlank c = true) ∧ layout.colon ++ r = ':' :: (bs ++ r) := by
  cases layout with
  | compact => exact ⟨[], nofun, rfl⟩
  | indented =>
    refine ⟨[' '], fun c hc => ?_, rfl⟩
    rw [List.mem_singleton.mp hc]
    rfl

theorem quoted_append (s : String) (r : List Char) :
    quoted s ++ r = '"' :: (s.toList.flatMap escape ++ '"' :: r) := by
  simp [quoted]

/-- What stands after an element or an item is a comma or the end of the line. -/
theorem delimited_elems (elems : List (Value Empty)) (level outer : ℕ) (r : List Char) :
    Delimited (writeElems layout elems level ++ (layout.newline outer ++ ']' :: r)) := by
  cases elems with
  | nil => exact delimited_newline layout outer (by decide) r
  | cons v elems => exact delimited_cons (by decide) _

theorem delimited_items (items : List (String × Value Empty)) (level outer : ℕ) (r : List Char) :
    Delimited (writeItems layout items level ++ (layout.newline outer ++ '}' :: r)) := by
  cases items with
  | nil => exact delimited_newline layout outer (by decide) r
  | cons item items => exact delimited_cons (by decide) _

mutual

/-- A value that was written, after blanks and before anything that does not go on with a digit. -/
theorem readValue_write : ∀ (v : Value Empty) (level n : ℕ) (bs r : List Char), steps v ≤ n →
    v.WellFormed → (∀ c ∈ bs, isBlank c = true) → Delimited r →
    readValue n (bs ++ (write layout v level ++ r)) = some (v, r)
  | v, level, 0, bs, r, hn, _, _, _ => by cases v <;> simp [steps] at hn
  | .null, level, n + 1, bs, r, _, _, hbs, _ =>
    readValue_scalar rfl (by decide) (by decide) hbs rfl
  | .bool true, level, n + 1, bs, r, _, _, hbs, _ =>
    readValue_scalar rfl (by decide) (by decide) hbs rfl
  | .bool false, level, n + 1, bs, r, _, _, hbs, _ =>
    readValue_scalar rfl (by decide) (by decide) hbs rfl
  | .int i, level, n + 1, bs, r, _, _, hbs, hr => by
    obtain ⟨c, cs, hc, hbegins⟩ := intDigits_cons i
    have hne {d : Char} (hd : d.isDigit = false ∧ d ≠ '-') : c ≠ d := ne_of_begins hbegins hd
    have hblank : isBlank c = false := by
      refine decide_eq_false ?_
      rintro (h | h | h | h) <;> exact hne (by decide) h
    have hwrite : write layout (.int i) level ++ r = c :: (cs ++ r) := by
      rw [show write layout (.int i) level = intDigits i from rfl, hc]
      rfl
    exact readValue_scalar hwrite hblank ⟨hne (by decide), hne (by decide), hne (by decide)⟩ hbs
      (readScalar_int i hr)
  | .float x, level, n + 1, bs, r, _, _, hbs, hr => x.elim
  | .str s, level, n + 1, bs, r, _, _, hbs, _ => by
    rw [show write layout (.str s) level = quoted s from rfl, quoted_append, readValue,
      skip_blanks hbs, skip_cons (by decide)]
    simp only [↓reduceIte]
    rw [readString_quoted]
    simp
  | .list [], level, n + 1, bs, r, _, _, hbs, _ => readValue_list hbs
  | .list (v :: elems), level, n + 1, bs, r, hn, hv, hbs, _ => by
    have hread := readElems_write (v :: elems) (level + 1) level n r (List.cons_ne_nil _ _)
      (by simp only [steps] at hn; omega) hv
    obtain ⟨c, cs, hc, hblank, hclose, -⟩ := write_cons layout v (level + 1)
    rw [write_list, readValue_list hbs, if_neg, hread]
    · rfl
    · simp only [writeElems, List.tail_cons, List.append_assoc, hc, List.cons_append]
      rw [skip_newline layout _ hblank]
      simpa using hclose
  | .dict [], level, n + 1, bs, r, _, _, hbs, _ => readValue_dict hbs
  | .dict ((k, v) :: items), level, n + 1, bs, r, hn, hv, hbs, _ => by
    have hread := readItems_write ((k, v) :: items) (level + 1) level n r (List.cons_ne_nil _ _)
      (by simp only [steps] at hn; omega) hv.2
    rw [write_dict, readValue_dict hbs, if_neg, hread, Option.map_some]
    · rw [Dict.ofList_items hv.1]
    · simp only [writeItems, List.tail_cons, List.append_assoc, quoted_append, List.cons_append]
      rw [skip_newline layout _ (by decide)]
      simp

theorem readElems_write : ∀ (elems : List (Value Empty)) (level outer n : ℕ) (r : List Char),
    elems ≠ [] → stepsElems elems ≤ n → WellFormedElems elems →
    readElems n ((writeElems layout elems level).tail ++ (layout.newline outer ++ ']' :: r)) =
      some (elems, r)
  | [], _, _, _, _, hne, _, _ => absurd rfl hne
  | v :: elems, level, outer, 0, r, _, hn, _ => by simp [stepsElems] at hn
  | v :: elems, level, outer, n + 1, r, _, hn, hv => by
    simp only [stepsElems] at hn
    have hvalue := readValue_write v level n (layout.newline level) _ (by omega) hv.1
      (newline_blank layout level) (delimited_elems layout elems level outer r)
    simp only [writeElems, List.tail_cons, List.append_assoc]
    rw [readElems, hvalue]
    simp only [Option.bind_eq_bind, Option.bind_some]
    cases elems with
    | nil =>
      rw [writeElems, List.nil_append, skip_newline layout outer (by decide)]
      rfl
    | cons w elems =>
      have htail := readElems_write (w :: elems) level outer n r (List.cons_ne_nil _ _)
        (by omega) hv.2
      rw [show writeElems layout (w :: elems) level =
        ',' :: (writeElems layout (w :: elems) level).tail from rfl, List.cons_append,
        skip_cons (by decide)]
      simp only
      rw [htail]
      rfl

theorem readItems_write : ∀ (items : List (String × Value Empty)) (level outer n : ℕ)
    (r : List Char), items ≠ [] → stepsItems items ≤ n → WellFormedItems items →
    readItems n ((writeItems layout items level).tail ++ (layout.newline outer ++ '}' :: r)) =
      some (items, r)
  | [], _, _, _, _, hne, _, _ => absurd rfl hne
  | (k, v) :: items, level, outer, 0, r, _, hn, _ => by simp [stepsItems] at hn
  | (k, v) :: items, level, outer, n + 1, r, _, hn, hv => by
    simp only [stepsItems] at hn
    obtain ⟨bs, hbs, hcolon⟩ := colon_append layout
      (write layout v level ++ (writeItems layout items level ++ (layout.newline outer ++ '}' :: r)))
    have hvalue := readValue_write v level n bs _ (by omega) hv.1 hbs
      (delimited_items layout items level outer r)
    simp only [writeItems, List.tail_cons, List.append_assoc]
    rw [hcolon, quoted_append, readItems, skip_newline layout level (by decide)]
    simp only
    rw [readString_quoted]
    simp only [Option.bind_eq_bind, Option.bind_some]
    rw [skip_cons (by decide)]
    simp only
    rw [hvalue]
    simp only [Option.bind_some]
    cases items with
    | nil =>
      rw [writeItems, List.nil_append, skip_newline layout outer (by decide)]
      simp
    | cons item items =>
      have htail := readItems_write (item :: items) level outer n r (List.cons_ne_nil _ _)
        (by omega) hv.2
      rw [show writeItems layout (item :: items) level =
        ',' :: (writeItems layout (item :: items) level).tail from rfl, List.cons_append,
        skip_cons (by decide)]
      simp only
      rw [htail]
      simp

end

mutual

theorem steps_le_length : ∀ (v : Value Empty) (level : ℕ), steps v ≤ (write layout v level).length
  | .null, level => by simp [steps, write]
  | .bool b, level => by cases b <;> simp [steps, write]
  | .int n, level => by
    obtain ⟨c, cs, hc, -⟩ := intDigits_cons n
    simp [steps, write, hc]
  | .float x, level => x.elim
  | .str s, level => by simp [steps, write, quoted]
  | .list [], level => by simp [steps, stepsElems, write]
  | .list (v :: elems), level => by
    have hv := steps_le_length v (level + 1)
    have helems := stepsElems_le_length elems (level + 1)
    simp only [steps, stepsElems, write, List.length_cons, List.length_append]
    omega
  | .dict [], level => by simp [steps, stepsItems, write]
  | .dict ((k, v) :: items), level => by
    have hv := steps_le_length v (level + 1)
    have hitems := stepsItems_le_length items (level + 1)
    simp only [steps, stepsItems, write, List.length_cons, List.length_append]
    omega

theorem stepsElems_le_length : ∀ (elems : List (Value Empty)) (level : ℕ),
    stepsElems elems ≤ (writeElems layout elems level).length
  | [], level => Nat.zero_le _
  | v :: elems, level => by
    have hv := steps_le_length v level
    have helems := stepsElems_le_length elems level
    simp only [stepsElems, writeElems, List.length_cons, List.length_append]
    omega

theorem stepsItems_le_length : ∀ (items : List (String × Value Empty)) (level : ℕ),
    stepsItems items ≤ (writeItems layout items level).length
  | [], level => Nat.zero_le _
  | (k, v) :: items, level => by
    have hv := steps_le_length v level
    have hitems := stepsItems_le_length items level
    simp only [stepsItems, writeItems, List.length_cons, List.length_append]
    omega

end

/-- **Reading undoes writing**, in either layout. -/
theorem read_write (v : Value Empty) (h : v.WellFormed) :
    read (String.ofList (write layout v 0)) = some v := by
  have hsteps := steps_le_length layout v 0
  have hread := readValue_write layout v 0 ((write layout v 0).length + 1) [] [] (by omega) h nofun
    nofun
  rw [List.nil_append, List.append_nil] at hread
  unfold read
  rw [String.toList_ofList, hread]
  rfl

end RoundTrip

/-- JSON without floating-point numbers, as a library. -/
def text : Codec Empty where
  dumps v := String.ofList (write .compact v 0)
  dumpsIndented v := String.ofList (write .indented v 0)
  loads := read

theorem text_undoes : text.Undoes where
  dumps := read_write .compact
  dumpsIndented := read_write .indented

example : text.dumps (.dict [("a", .int (-12)), ("b", .list [.str "x\n", .null])]) =
    "\x7b\"a\":-12,\"b\":[\"x\\n\",null]\x7d" := by decide

end Json
