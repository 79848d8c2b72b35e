import Bimarz.Text.Hex
import Bimarz.Text.Partition
import Bimarz.Dict
import Mathlib.Data.List.SplitBy

/-!
# Percent-encoding and query strings (`urllib.parse`)

`quote` writes the bytes of a text in UTF-8 with percent signs, `unquote` reads them, and `parseQs`
reads the fields of a query string. The round trips are those of one component, of one field and
of a whole query.
-/

namespace Url

/-- A text. -/
abbrev Chars := List Char

def isAscii (c : Char) : Bool := c.toNat < 128

/-! ## `unquote` -/

/-- `unquote_to_bytes(string)`: a percent sign without two digits stays. -/
def unquoteToBytes : Chars → Bytes
  | [] => []
  | '%' :: p :: q :: cs =>
    match Hex.value p, Hex.value q with
    | some high, some low => UInt8.ofNat (high * 16 + low) :: unquoteToBytes cs
    | _, _ => String.utf8EncodeChar '%' ++ unquoteToBytes (p :: q :: cs)
  | c :: cs => String.utf8EncodeChar c ++ unquoteToBytes cs

/-- The longest runs of characters that are ASCII and that are not. -/
def runs (cs : Chars) : List Chars := cs.splitBy fun c d => isAscii c == isAscii d

/-- `unquote(string)`: only the runs of ASCII characters are decoded. -/
def unquote (cs : Chars) : Chars :=
  if '%' ∈ cs then
    (runs cs).flatMap fun run =>
      if run.all isAscii then Utf8.decodeReplace (unquoteToBytes run) else run
  else cs

/-- `unquote_plus(string)`. -/
def unquotePlus (cs : Chars) : Chars := unquote (cs.map fun c => if c = '+' then ' ' else c)

/-! ## `parse_qs` -/

/-- `parse_qsl(qs, keep_blank_values=True)`. -/
def parseQsl (qs : Chars) : List (Chars × Chars) :=
  (qs.splitOn '&').filterMap fun nameValue =>
    if nameValue = [] then none
    else
      let (name, _, value) := Text.partition '=' nameValue
      some (unquotePlus name, unquotePlus value)

/-- One more value of a name. -/
def addValue (parsed : Dict Chars (List Chars)) (pair : Chars × Chars) :
    Dict Chars (List Chars) :=
  match parsed.get? pair.1 with
  | some values => parsed.set pair.1 (values ++ [pair.2])
  | none => parsed.set pair.1 [pair.2]

/-- `parse_qs(qs, keep_blank_values=True)`: the values of a name, in order. -/
def parseQs (qs : Chars) : Dict Chars (List Chars) :=
  (parseQsl qs).foldl addValue Dict.empty

/-! ## `quote` -/

/-- The characters that stand for themselves. -/
def isUnreserved (c : Char) : Bool :=
  c.isAlphanum || c = '_' || c = '.' || c = '-' || c = '~'

/-- An upper-case hexadecimal digit. -/
def upperDigit (n : ℕ) : Char := if n < 10 then Char.ofNat (n + 48) else Char.ofNat (n + 55)

def quoteByte (b : UInt8) : Chars :=
  ['%', upperDigit (b.toNat / 16), upperDigit (b.toNat % 16)]

def quoteChar (c : Char) : Chars :=
  if isUnreserved c then [c] else (String.utf8EncodeChar c).flatMap quoteByte

/-- `quote(string, safe="")`. -/
def quote (cs : Chars) : Chars := cs.flatMap quoteChar

/-! ## One component -/

theorem value_upperDigit {n : ℕ} (h : n < 16) : Hex.value (upperDigit n) = some n := by
  revert n
  decide

theorem isUnreserved_upperDigit {n : ℕ} (h : n < 16) : isUnreserved (upperDigit n) = true := by
  revert n
  decide

/-- The characters of an encoded text. -/
theorem mem_quote {cs : Chars} {c : Char} (h : c ∈ quote cs) : isUnreserved c = true ∨ c = '%' := by
  obtain ⟨d, -, hc⟩ := List.mem_flatMap.mp h
  unfold quoteChar at hc
  split at hc
  · rename_i hd
    rw [List.mem_singleton.mp hc]
    exact Or.inl hd
  · obtain ⟨b, -, hb⟩ := List.mem_flatMap.mp hc
    have hlt := b.toNat_lt
    simp only [quoteByte, List.mem_cons, List.not_mem_nil, or_false] at hb
    rcases hb with rfl | rfl | rfl
    · exact Or.inr rfl
    · exact Or.inl (isUnreserved_upperDigit (by omega))
    · exact Or.inl (isUnreserved_upperDigit (by omega))

/-- The printable ASCII characters, without the space. -/
def IsPrintable (c : Char) : Prop := 32 < c.toNat ∧ c.toNat < 127

instance : DecidablePred IsPrintable := fun c =>
  inferInstanceAs (Decidable (32 < c.toNat ∧ c.toNat < 127))

theorem isAscii_of_printable {c : Char} (h : IsPrintable c) : isAscii c = true := by
  apply decide_eq_true
  have := h.2
  omega

theorem isAlphanum_iff (c : Char) : c.isAlphanum = true ↔
    (65 ≤ c.toNat ∧ c.toNat ≤ 90 ∨ 97 ≤ c.toNat ∧ c.toNat ≤ 122) ∨
      48 ≤ c.toNat ∧ c.toNat ≤ 57 := by
  have hranges : c.isAlphanum = (decide ('A'.val ≤ c.val ∧ c.val ≤ 'Z'.val) ||
      (decide ('a'.val ≤ c.val) && decide (c.val ≤ 'z'.val)) ||
      (decide ('0'.val ≤ c.val) && decide (c.val ≤ '9'.val))) := rfl
  rw [hranges]
  simp only [Bool.or_eq_true, Bool.and_eq_true, decide_eq_true_eq, UInt32.le_iff_toNat_le]
  exact Iff.rfl

theorem isPrintable_of_unreserved {c : Char} (h : isUnreserved c = true) : IsPrintable c := by
  simp only [isUnreserved, Bool.or_eq_true, isAlphanum_iff, decide_eq_true_eq] at h
  unfold IsPrintable
  rcases h with ((((h | h) | rfl) | rfl) | rfl) | rfl
  · omega
  · omega
  all_goals decide

theorem isAscii_of_unreserved {c : Char} (h : isUnreserved c = true) : isAscii c = true :=
  isAscii_of_printable (isPrintable_of_unreserved h)

theorem unquoteToBytes_quoteByte (b : UInt8) (cs : Chars) :
    unquoteToBytes (quoteByte b ++ cs) = b :: unquoteToBytes cs := by
  have hlt := b.toNat_lt
  have hcons : quoteByte b ++ cs =
      '%' :: upperDigit (b.toNat / 16) :: upperDigit (b.toNat % 16) :: cs := rfl
  rw [hcons, unquoteToBytes, value_upperDigit (by omega), value_upperDigit (by omega)]
  simp only
  rw [show b.toNat / 16 * 16 + b.toNat % 16 = b.toNat by omega, UInt8.ofNat_toNat]

theorem unquoteToBytes_cons {c : Char} (h : c ≠ '%') (cs : Chars) :
    unquoteToBytes (c :: cs) = String.utf8EncodeChar c ++ unquoteToBytes cs := by
  rw [unquoteToBytes]
  rintro p q cs' rfl
  exact absurd rfl h

theorem unquoteToBytes_quoteBytes (bs : Bytes) (cs : Chars) :
    unquoteToBytes (bs.flatMap quoteByte ++ cs) = bs ++ unquoteToBytes cs := by
  induction bs with
  | nil => rfl
  | cons b bs ih =>
    rw [List.flatMap_cons, List.append_assoc, unquoteToBytes_quoteByte, ih, List.cons_append]

theorem unquoteToBytes_quote (cs : Chars) : unquoteToBytes (quote cs) = Utf8.encodeChars cs := by
  induction cs with
  | nil => rfl
  | cons c cs ih =>
    have hcons : quote (c :: cs) = quoteChar c ++ quote cs := List.flatMap_cons
    have hencode : Utf8.encodeChars (c :: cs) = String.utf8EncodeChar c ++ Utf8.encodeChars cs :=
      List.flatMap_cons
    rw [hcons, hencode, ← ih]
    unfold quoteChar
    split
    · rename_i hc
      apply unquoteToBytes_cons
      rintro rfl
      cases hc
    · exact unquoteToBytes_quoteBytes _ _

theorem isAscii_quote {cs : Chars} {c : Char} (h : c ∈ quote cs) : isAscii c = true := by
  rcases mem_quote h with hc | rfl
  · exact isAscii_of_unreserved hc
  · rfl

/-- Only one run is there to decode. -/
theorem runs_of_ascii {cs : Chars} (hne : cs ≠ []) (h : ∀ c ∈ cs, isAscii c = true) :
    runs cs = [cs] := by
  apply List.splitBy_of_isChain hne
  apply List.Pairwise.isChain
  rw [List.pairwise_iff_forall_sublist]
  intro c d hsub
  rw [h c (hsub.subset List.mem_cons_self), h d (hsub.subset (by simp))]
  rfl

theorem unquoteToBytes_of_not_mem {cs : Chars} (h : '%' ∉ cs) :
    unquoteToBytes cs = Utf8.encodeChars cs := by
  induction cs with
  | nil => rfl
  | cons c cs ih =>
    obtain ⟨hc, hcs⟩ := List.ne_and_not_mem_of_not_mem_cons h
    rw [unquoteToBytes_cons (Ne.symm hc), ih hcs]
    rfl

/-- A text of ASCII characters is decoded as a whole. -/
theorem unquote_of_ascii {cs : Chars} (h : ∀ c ∈ cs, isAscii c = true) :
    unquote cs = Utf8.decodeReplace (unquoteToBytes cs) := by
  unfold unquote
  split
  · rename_i hmem
    rw [runs_of_ascii (List.ne_nil_of_mem hmem) h, List.flatMap_singleton,
      if_pos (List.all_eq_true.mpr h)]
  · rename_i hmem
    rw [unquoteToBytes_of_not_mem hmem, Utf8.decodeReplace_encodeChars]

/-- Decoding undoes encoding. -/
@[simp] theorem unquote_quote (cs : Chars) : unquote (quote cs) = cs := by
  rw [unquote_of_ascii fun _ => isAscii_quote, unquoteToBytes_quote,
    Utf8.decodeReplace_encodeChars]

theorem map_plus {cs : Chars} (h : '+' ∉ cs) :
    cs.map (fun c => if c = '+' then ' ' else c) = cs := by
  calc cs.map (fun c => if c = '+' then ' ' else c) = cs.map id := by
        apply List.map_congr_left
        intro c hc
        apply if_neg
        rintro rfl
        exact h hc
    _ = cs := List.map_id cs

theorem not_mem_quote {c : Char} (h : isUnreserved c = false) (hc : c ≠ '%') (cs : Chars) :
    c ∉ quote cs := by
  intro hmem
  rcases mem_quote hmem with hc' | hc'
  · rw [h] at hc'
    cases hc'
  · exact hc hc'

theorem unquotePlus_quote (cs : Chars) : unquotePlus (quote cs) = cs := by
  unfold unquotePlus
  rw [map_plus (not_mem_quote (by decide) (by decide) cs), unquote_quote]

/-- A name that stands for itself. -/
def Plain (name : Chars) : Prop := ∀ c ∈ name, isUnreserved c = true

theorem Plain.not_mem {name : Chars} (h : Plain name) {c : Char} (hc : isUnreserved c = false) :
    c ∉ name := by
  intro hmem
  rw [h c hmem] at hc
  cases hc

theorem unquotePlus_plain {name : Chars} (h : Plain name) : unquotePlus name = name := by
  unfold unquotePlus unquote
  rw [map_plus (h.not_mem (by decide)), if_neg (h.not_mem (by decide))]

/-! ## A query -/

/-- `name=value`, with the value encoded. -/
def field (name value : Chars) : Chars := name ++ '=' :: quote value

/-- The fields joined by `&`. -/
def formatQuery (fields : List (Chars × Chars)) : Chars :=
  ['&'].intercalate (fields.map fun (name, value) => field name value)

theorem not_mem_field {name value : Chars} (hname : Plain name) {c : Char}
    (h : isUnreserved c = false) (hpercent : c ≠ '%') (heq : c ≠ '=') : c ∉ field name value := by
  unfold field
  rw [List.mem_append, List.mem_cons]
  rintro (hc | rfl | hc)
  · exact hname.not_mem h hc
  · exact heq rfl
  · exact not_mem_quote h hpercent value hc

theorem partition_field {name value : Chars} (hname : Plain name) :
    Text.partition '=' (field name value) = (name, true, quote value) :=
  Text.partition_append (hname.not_mem (by decide)) _

/-- Reading undoes writing. -/
theorem parseQsl_formatQuery {fields : List (Chars × Chars)}
    (h : ∀ f ∈ fields, Plain f.1) : parseQsl (formatQuery fields) = fields := by
  cases hfields : fields with
  | nil => rfl
  | cons f fs =>
    rw [← hfields]
    have hsplit : (formatQuery fields).splitOn '&' =
        fields.map fun (name, value) => field name value := by
      apply List.splitOn_intercalate
      · intro text htext
        obtain ⟨⟨name, value⟩, hf, rfl⟩ := List.mem_map.mp htext
        exact not_mem_field (h _ hf) (by decide) (by decide) (by decide)
      · simp [hfields]
    unfold parseQsl
    rw [hsplit, List.filterMap_map]
    calc fields.filterMap _ = fields.filterMap some := by
          apply List.filterMap_congr
          rintro ⟨name, value⟩ hf
          have hne : field name value ≠ [] := by simp [field]
          simp only [Function.comp, if_neg hne, partition_field (h _ hf),
            unquotePlus_plain (h _ hf), unquotePlus_quote]
      _ = fields := List.filterMap_some

/-! ## The values of a name -/

/-- `query.get(name)`, with the first of the values or the default. -/
def queryValue (query : Dict Chars (List Chars)) (name default : Chars) : Chars :=
  match query.get? name with
  | some (value :: _) => value
  | _ => default

theorem addValue_get? (parsed : Dict Chars (List Chars)) (pair : Chars × Chars) (name : Chars) :
    ((addValue parsed pair).get? name).getD [] =
      (parsed.get? name).getD [] ++ if pair.1 = name then [pair.2] else [] := by
  unfold addValue
  split
  · rename_i values hvalues
    rw [Dict.get?_set]
    by_cases h : pair.1 = name
    · rw [if_pos h.symm, if_pos h, ← h, hvalues]
      rfl
    · rw [if_neg (Ne.symm h), if_neg h, List.append_nil]
  · rename_i hnone
    rw [Dict.get?_set]
    by_cases h : pair.1 = name
    · rw [if_pos h.symm, if_pos h, ← h, hnone]
      rfl
    · rw [if_neg (Ne.symm h), if_neg h, List.append_nil]

theorem foldl_addValue (pairs : List (Chars × Chars)) (parsed : Dict Chars (List Chars))
    (name : Chars) :
    ((pairs.foldl addValue parsed).get? name).getD [] =
      (parsed.get? name).getD [] ++ (pairs.filter fun pair => pair.1 = name).map Prod.snd := by
  induction pairs generalizing parsed with
  | nil => simp
  | cons pair pairs ih =>
    rw [List.foldl_cons, ih, addValue_get?, List.filter_cons]
    by_cases h : pair.1 = name <;> simp [h]

/-- The first value of a name is the one that counts. -/
theorem queryValue_parseQs (qs name default : Chars) :
    queryValue (parseQs qs) name default = (Dict.find name (parseQsl qs)).getD default := by
  have hvalues : ((parseQs qs).get? name).getD [] =
      ((parseQsl qs).filter fun pair => pair.1 = name).map Prod.snd :=
    foldl_addValue (parseQsl qs) Dict.empty name
  have hfind : ∀ pairs : List (Chars × Chars),
      ((pairs.filter fun pair => pair.1 = name).map Prod.snd).head? = Dict.find name pairs := by
    intro pairs
    induction pairs with
    | nil => rfl
    | cons pair pairs ih =>
      rw [List.filter_cons, Dict.find]
      by_cases h : pair.1 = name
      · simp [h]
      · simpa [h] using ih
  rw [← hfind, ← hvalues]
  unfold queryValue
  cases hget : (parseQs qs).get? name with
  | none => rfl
  | some values =>
    cases values with
    | nil => rfl
    | cons value values => rfl

end Url
