import Bimarz.Rust.Tokens
import Mathlib.Data.List.GetD
import Mathlib.Data.String.Basic

/-!
# Names of the generated modules (`safe_ident` in `engine-core/build.rs`)

Which segments of a package give a legal module name, and which two of them give the same one.
-/

namespace Bimarz.Build

open Rust (isIdent LegalModuleName isIdentStart isIdentContinue)

/-! ## The code -/

/-- The four words that get an underscore. -/
def neverRaw : List String := ["self", "super", "crate", "Self"]

/-- `KEYWORDS`. -/
def rawKeywords : List String := [
  "as", "async", "await", "become", "box", "break", "const", "continue", "do", "dyn", "else",
  "enum", "extern", "false", "final", "fn", "for", "gen", "if", "impl", "in", "let", "loop",
  "macro", "match", "mod", "move", "mut", "override", "priv", "pub", "ref", "return",
  "static", "struct", "trait", "true", "try", "type", "typeof", "unsafe", "unsized", "use",
  "virtual", "where", "while", "yield"]

def valid (index : ℕ) (ch : Char) : Bool :=
  if index = 0 then ch = '_' || ch.isAlpha else ch = '_' || ch.isAlphanum

/-- The characters that are pushed. -/
def masked (segment : List Char) : List Char :=
  segment.mapIdx fun index ch => if valid index ch then ch else '_'

def ident (segment : List Char) : List Char :=
  if masked segment = [] then ['_'] else masked segment

def safeIdent (segment : String) : String :=
  if segment ∈ neverRaw then segment ++ "_"
  else
    let ident := String.ofList (ident segment.toList)
    if ident ∈ rawKeywords then "r#" ++ ident else ident

/-! ## Characters -/

/-- A character that stays what it is and is no underscore. -/
def kept (index : ℕ) (ch : Char) : Bool := valid index ch && ch ≠ '_'

theorem mask_eq_iff (index : ℕ) (ch ch' : Char) :
    (if valid index ch then ch else '_') = (if valid index ch' then ch' else '_') ↔
      ch = ch' ∨ kept index ch = false ∧ kept index ch' = false := by
  unfold kept
  by_cases hvalid : valid index ch = true
  · by_cases hvalid' : valid index ch' = true
    · by_cases heq : ch = ch'
      · simp [heq]
      · simp only [hvalid, hvalid', if_true, heq, false_or, Bool.true_and, decide_eq_false_iff_not,
          not_not, false_iff, not_and, ne_eq]
        rintro rfl rfl
        exact heq rfl
    · have hne : ch ≠ ch' := fun heq => hvalid' (heq ▸ hvalid)
      simp [hvalid, hvalid', hne]
  · by_cases hvalid' : valid index ch' = true
    · have hne : ch ≠ ch' := fun heq => hvalid (heq ▸ hvalid')
      rw [if_neg hvalid, if_pos hvalid']
      simp only [hvalid, hvalid', hne, false_or, Bool.false_and, Bool.true_and, true_and,
        decide_eq_false_iff_not, not_not, ne_eq]
      exact eq_comm
    · simp [hvalid, hvalid']

/-- Two segments that differ in replaced characters and underscores only. -/
def Alike (segment segment' : List Char) : Prop :=
  segment.length = segment'.length ∧ ∀ index ch ch', segment[index]? = some ch →
    segment'[index]? = some ch' → ch = ch' ∨ kept index ch = false ∧ kept index ch' = false

theorem masked_eq_iff (segment segment' : List Char) :
    masked segment = masked segment' ↔ Alike segment segment' := by
  constructor
  · intro h
    constructor
    · have hlength := congrArg List.length h
      rw [masked, masked, List.length_mapIdx, List.length_mapIdx] at hlength
      exact hlength
    · intro index ch ch' hch hch'
      have hindex := congrArg (fun chars => chars[index]?) h
      simp only [masked, List.getElem?_mapIdx, hch, hch', Option.map_some, Option.some.injEq]
        at hindex
      exact (mask_eq_iff index ch ch').mp hindex
  · rintro ⟨hlength, h⟩
    refine List.ext_getElem? fun index => ?_
    rw [masked, masked, List.getElem?_mapIdx, List.getElem?_mapIdx]
    cases hch : segment[index]? with
    | none =>
      rw [List.getElem?_eq_none_iff, hlength] at hch
      rw [List.getElem?_eq_none hch]
    | some ch =>
      obtain ⟨hindex, -⟩ := List.getElem?_eq_some_iff.mp hch
      have hch' := List.getElem?_eq_getElem (hlength ▸ hindex)
      rw [hch']
      exact congrArg some ((mask_eq_iff index ch _).mpr (h index ch _ hch hch'))

/-! ## Identifiers -/

theorem mask_start (ch : Char) : isIdentStart (if valid 0 ch then ch else '_') = true := by
  split
  next h => exact h
  next => rfl

theorem mask_continue (index : ℕ) (ch : Char) :
    isIdentContinue (if valid index ch then ch else '_') = true := by
  split
  next h =>
    unfold valid at h
    unfold isIdentContinue
    split at h
    · simp only [Char.isAlphanum, Bool.or_eq_true] at h ⊢
      exact h.imp_right Or.inl
    · exact h
  next => rfl

theorem isIdent_ident (segment : List Char) : isIdent (ident segment) = true := by
  unfold ident
  split
  next => rfl
  next hne =>
    cases segment with
    | nil => exact absurd rfl hne
    | cons ch segment =>
      rw [masked, List.mapIdx_cons, isIdent, Bool.and_eq_true, List.all_eq_true]
      refine ⟨mask_start ch, fun ch' hch' => ?_⟩
      obtain ⟨index, hindex, rfl⟩ := List.mem_mapIdx.mp hch'
      exact mask_continue (index + 1) _

/-- A segment that consists of replaced characters or underscores, and of one at most. -/
def Blank (segment : String) : Prop :=
  segment.toList = [] ∨ ∃ ch, segment.toList = [ch] ∧ kept 0 ch = false

theorem masked_eq_nil_iff (segment : List Char) : masked segment = [] ↔ segment = [] :=
  List.mapIdx_eq_nil_iff

theorem masked_singleton (ch : Char) : masked [ch] = [if valid 0 ch then ch else '_'] := rfl

theorem mask_eq_underscore_iff (index : ℕ) (ch : Char) :
    (if valid index ch then ch else '_') = '_' ↔ kept index ch = false := by
  unfold kept
  by_cases hvalid : valid index ch = true
  · simp [hvalid]
  · simp [hvalid]

theorem ident_eq_underscore_iff (segment : String) :
    ident segment.toList = ['_'] ↔ Blank segment := by
  unfold ident Blank
  split
  next hnil => exact iff_of_true rfl (Or.inl ((masked_eq_nil_iff _).mp hnil))
  next hne =>
    rw [masked_eq_nil_iff] at hne
    rw [or_iff_right hne]
    constructor
    · intro h
      have hlength := congrArg List.length h
      rw [masked, List.length_mapIdx] at hlength
      obtain ⟨ch, hch⟩ := List.length_eq_one_iff.mp hlength
      rw [hch, masked_singleton] at h
      exact ⟨ch, hch, (mask_eq_underscore_iff 0 ch).mp (List.cons.inj h).1⟩
    · rintro ⟨ch, hch, hkept⟩
      rw [hch, masked_singleton, (mask_eq_underscore_iff 0 ch).mpr hkept]

theorem kept_of_isAlpha (index : ℕ) {ch : Char} (h : ch.isAlpha = true) :
    kept index ch = true := by
  have hne : ch ≠ '_' := by
    rintro rfl
    exact absurd h (by decide)
  unfold kept valid
  split
  · simp [h, hne]
  · simp [h, hne, Char.isAlphanum]

theorem masked_of_letters {word : List Char} (h : ∀ ch ∈ word, ch.isAlpha = true) :
    masked word = word := by
  refine List.ext_getElem? fun index => ?_
  rw [masked, List.getElem?_mapIdx]
  cases hch : word[index]? with
  | none => rfl
  | some ch =>
    have hkept := kept_of_isAlpha index (h ch (List.mem_of_getElem? hch))
    unfold kept at hkept
    rw [Bool.and_eq_true] at hkept
    rw [Option.map_some, if_pos hkept.1]

/-- A word of letters is like no other segment. -/
theorem alike_letters_iff {word : List Char} (h : ∀ ch ∈ word, ch.isAlpha = true)
    (segment : List Char) : Alike segment word ↔ segment = word := by
  constructor
  · rintro ⟨hlength, halike⟩
    refine List.ext_getElem? fun index => ?_
    cases hch : word[index]? with
    | none =>
      rw [List.getElem?_eq_none_iff, ← hlength] at hch
      exact List.getElem?_eq_none hch
    | some ch =>
      obtain ⟨hindex, -⟩ := List.getElem?_eq_some_iff.mp hch
      have hch' := List.getElem?_eq_getElem (hlength ▸ hindex : index < segment.length)
      rw [hch']
      rcases halike index _ ch hch' hch with heq | ⟨-, hkept⟩
      · rw [heq]
      · rw [kept_of_isAlpha index (h ch (List.mem_of_getElem? hch))] at hkept
        cases hkept
  · rintro rfl
    exact ⟨rfl, fun _ ch ch' hch hch' => Or.inl (Option.some.inj (hch.symm.trans hch'))⟩

theorem ident_eq_iff_of_letters {word : List Char} (hne : word ≠ [])
    (h : ∀ ch ∈ word, ch.isAlpha = true) (segment : List Char) :
    ident segment = word ↔ segment = word := by
  have hunderscore : ['_'] ≠ word := by
    rintro rfl
    exact absurd (h '_' (List.mem_singleton_self _)) (by decide)
  unfold ident
  split
  next hnil =>
    rw [masked_eq_nil_iff] at hnil
    rw [hnil]
    exact iff_of_false hunderscore hne.symm
  next => rw [← alike_letters_iff h segment, ← masked_eq_iff, masked_of_letters h]

/-! ## Legal names -/

theorem neverRaw_letters :
    ∀ word ∈ neverRaw, word ≠ "" ∧ word.toList.all Char.isAlpha = true := by decide

theorem keywords_cases : ∀ word ∈ Rust.keywords,
    word ∈ rawKeywords ∨ word = "abstract" ∨ word ∈ neverRaw := by decide

theorem rawKeywords_raw :
    ∀ word ∈ rawKeywords, word ∈ Rust.keywords ∧ word ∉ Rust.pathKeywords := by decide

theorem neverRaw_legal :
    ∀ word ∈ neverRaw, word ≠ "abstract" ∧ ¬Blank word ∧ LegalModuleName (word ++ "_") := by
  have hall : ∀ word ∈ neverRaw, word ≠ "abstract" ∧ ident word.toList ≠ ['_'] ∧
      isIdent (word ++ "_").toList = true ∧ word ++ "_" ≠ "_" ∧ word ++ "_" ∉ Rust.keywords := by
    decide
  intro word hword
  obtain ⟨habstract, hblank, hident, hunderscore, hkeyword⟩ := hall word hword
  exact ⟨habstract, (ident_eq_underscore_iff word).not.mp hblank,
    Or.inl ⟨hident, hunderscore, hkeyword⟩⟩

theorem ofList_ident_eq_iff {word : String} (hne : word ≠ "")
    (h : word.toList.all Char.isAlpha = true) (segment : String) :
    String.ofList (ident segment.toList) = word ↔ segment = word := by
  rw [← String.toList_inj, String.toList_ofList,
    ident_eq_iff_of_letters ?_ (List.all_eq_true.mp h), String.toList_inj]
  intro hnil
  exact hne (String.toList_inj.mp hnil)

theorem ofList_ident_eq_underscore_iff (segment : String) :
    String.ofList (ident segment.toList) = "_" ↔ Blank segment := by
  rw [← ident_eq_underscore_iff, ← String.toList_inj, String.toList_ofList]
  rfl

theorem ofList_ident_eq_abstract_iff (segment : String) :
    String.ofList (ident segment.toList) = "abstract" ↔ segment = "abstract" :=
  ofList_ident_eq_iff (by decide) (by decide) segment

/-- No identifier is raw. -/
theorem isIdent_raw (word : String) : isIdent ("r#" ++ word).toList = false := by
  rw [String.toList_append]
  rfl

theorem ident_mem_keywords_iff {segment : String} (hnever : segment ∉ neverRaw)
    (hraw : String.ofList (ident segment.toList) ∉ rawKeywords) :
    String.ofList (ident segment.toList) ∈ Rust.keywords ↔ segment = "abstract" := by
  constructor
  · intro hmem
    rcases keywords_cases _ hmem with hmem | habstract | hmem
    · exact absurd hmem hraw
    · exact (ofList_ident_eq_abstract_iff segment).mp habstract
    · obtain ⟨hne, hletters⟩ := neverRaw_letters _ hmem
      have heq := (ofList_ident_eq_iff hne hletters segment).mp rfl
      rw [← heq] at hmem
      exact absurd hmem hnever
  · intro habstract
    rw [(ofList_ident_eq_abstract_iff segment).mpr habstract]
    decide

/-- **Which segments give a legal name.** -/
theorem legal_safeIdent_iff (segment : String) :
    LegalModuleName (safeIdent segment) ↔ segment ≠ "abstract" ∧ ¬Blank segment := by
  unfold safeIdent
  split
  next hnever =>
    obtain ⟨habstract, hblank, hlegal⟩ := neverRaw_legal segment hnever
    exact iff_of_true hlegal ⟨habstract, hblank⟩
  next hnever =>
  simp only
  split
  next hraw =>
    obtain ⟨hkeyword, hpath⟩ := rawKeywords_raw _ hraw
    refine iff_of_true (Or.inr ⟨_, hkeyword, hpath, rfl⟩) ⟨fun habstract => ?_, fun hblank => ?_⟩
    · rw [(ofList_ident_eq_abstract_iff segment).mpr habstract] at hraw
      exact absurd hraw (by decide)
    · rw [(ofList_ident_eq_underscore_iff segment).mpr hblank] at hraw
      exact absurd hraw (by decide)
  next hraw =>
    have hident : isIdent (String.ofList (ident segment.toList)).toList = true := by
      rw [String.toList_ofList]
      exact isIdent_ident segment.toList
    have hnotRaw : ¬∃ keyword ∈ Rust.keywords, keyword ∉ Rust.pathKeywords ∧
        String.ofList (ident segment.toList) = "r#" ++ keyword := by
      rintro ⟨keyword, -, -, heq⟩
      rw [heq, isIdent_raw] at hident
      cases hident
    unfold LegalModuleName
    rw [or_iff_left hnotRaw, and_iff_right hident, ne_eq, ofList_ident_eq_underscore_iff,
      ident_mem_keywords_iff hnever hraw]
    exact and_comm

/-! ## Distinct names -/

/-- A segment with the underscore that the four words get. -/
def suffixed (segment : String) : String :=
  if segment ∈ neverRaw then segment ++ "_" else segment

/-- Two segments that get the same name: they differ in replaced characters and underscores only. -/
def Clash (segment segment' : String) : Prop :=
  Alike (suffixed segment).toList (suffixed segment').toList

/-- An identifier as it is declared. -/
def declared (ident : String) : String := if ident ∈ rawKeywords then "r#" ++ ident else ident

theorem declared_injective {a b : String} (ha : isIdent a.toList = true)
    (hb : isIdent b.toList = true) (h : declared a = declared b) : a = b := by
  have hraw : ∀ word word' : String, isIdent word'.toList = true → "r#" ++ word ≠ word' := by
    rintro word _ hident rfl
    rw [isIdent_raw] at hident
    cases hident
  unfold declared at h
  split at h
  · split at h
    · rw [← String.toList_inj, String.toList_append, String.toList_append] at h
      exact String.toList_inj.mp (List.append_cancel_left h)
    · exact absurd h (hraw a b hb)
  · split at h
    · exact absurd h.symm (hraw b a ha)
    · exact h

theorem masked_suffixed {segment : String} (hblank : ¬Blank segment) :
    isIdent (masked (suffixed segment).toList) = true ∧
      safeIdent segment = declared (String.ofList (masked (suffixed segment).toList)) := by
  unfold suffixed
  split
  next hnever =>
    have hall : ∀ word ∈ neverRaw, isIdent (masked (word ++ "_").toList) = true ∧
        safeIdent word = declared (String.ofList (masked (word ++ "_").toList)) := by decide
    exact hall segment hnever
  next hnever =>
    have hident : ident segment.toList = masked segment.toList :=
      if_neg fun hnil => hblank (Or.inl ((masked_eq_nil_iff _).mp hnil))
    rw [← hident]
    refine ⟨isIdent_ident _, ?_⟩
    unfold safeIdent declared
    rw [if_neg hnever]

/-- **Which segments get the same name.** -/
theorem safeIdent_eq_iff {segment segment' : String} (hblank : ¬Blank segment)
    (hblank' : ¬Blank segment') :
    safeIdent segment = safeIdent segment' ↔ Clash segment segment' := by
  obtain ⟨hident, hname⟩ := masked_suffixed hblank
  obtain ⟨hident', hname'⟩ := masked_suffixed hblank'
  unfold Clash
  rw [hname, hname', ← masked_eq_iff]
  constructor
  · intro h
    rw [← @String.toList_ofList (masked (suffixed segment).toList)] at hident
    rw [← @String.toList_ofList (masked (suffixed segment').toList)] at hident'
    exact String.ofList_injective (declared_injective hident hident' h)
  · intro h
    rw [h]

example : safeIdent "self" = safeIdent "self_" := by decide

end Bimarz.Build
