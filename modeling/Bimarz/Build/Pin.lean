import Bimarz.Effect.Except
import Bimarz.KillSwitch.Restore
import Bimarz.Rust.Tokens
import Bimarz.Text.Lines
import Bimarz.Text.Partition

/-!
# The version pin (`xray-proto-pin.env`)

`read_pin` of `engine-core/build.rs` and the shell read one file. Where the lines of the file are
blank, comments and assignments `KEY="value"`, both find the same tag and the same commit in it.
-/

namespace Bimarz.Build

open KillSwitch (isWhitespace)
open Text (lines trim partition unlines)

/-! ## The code -/

def pinFileName : String := "xray-proto-pin.env"

/-- The variables `tag` and `commit`. -/
@[ext] structure Found where
  tag : Option String := none
  commit : Option String := none
  deriving DecidableEq, Repr

/-- A round of the loop over the lines. -/
def readLine (found : Found) (line : List Char) : Found :=
  let line := trim isWhitespace line
  if line = [] ∨ line.head? = some '#' then found
  else
    match partition '=' line with
    | (_, false, _) => found
    | (key, true, value) =>
      let value := String.ofList (trim (fun c => c == '"') (trim isWhitespace value))
      let key := String.ofList (trim isWhitespace key)
      if key = "XRAY_PROTO_TAG" then { found with tag := some value }
      else if key = "XRAY_PROTO_COMMIT" then { found with commit := some value }
      else found

/-- `read_pin`, from what `read_to_string` returns. -/
def readPin (pinPath : String) (readToString : Except String String) :
    Except String (String × String) :=
  match readToString with
  | .error e => .error (s!"failed to read {pinPath}: {e}. The Xray proto version pin is " ++
      "mandatory; restore the file.")
  | .ok content =>
    let found := (lines content.toList).foldl readLine {}
    match found.tag.filter (· ≠ "") with
    | some tag => .ok (tag, found.commit.getD "")
    | none => .error s!"XRAY_PROTO_TAG missing or empty in {pinPath}"

/-! ## Pin files -/

/-- What stands for itself between the double quotes of a shell, on one line. -/
def isPlain (c : Char) : Bool := !(['"', '$', '\\', Char.ofNat 96, '\n'].contains c)

/-- A line of a pin file. -/
inductive PinLine
  | blank (spaces : List Char) (hspaces : ∀ c ∈ spaces, c = ' ' ∨ c = '\t')
  | comment (indent text : List Char) (hindent : ∀ c ∈ indent, c = ' ' ∨ c = '\t')
    (htext : '\n' ∉ text)
  | assign (key value : List Char) (hkey : Rust.isIdent key = true)
    (hvalue : ∀ c ∈ value, isPlain c = true)

namespace PinLine

def text : PinLine → List Char
  | blank spaces _ => spaces
  | comment indent text _ _ => indent ++ '#' :: text
  | assign key value _ _ => key ++ '=' :: '"' :: (value ++ ['"'])

/-- What the shell does at the line: it sets a variable. -/
def source (vars : String → Option String) : PinLine → String → Option String
  | blank _ _ => vars
  | comment _ _ _ _ => vars
  | assign key value _ _ => fun name =>
    if name = String.ofList key then some (String.ofList value) else vars name

end PinLine

/-- A file of such lines. -/
abbrev PinFile := List PinLine

namespace PinFile

def text (file : PinFile) : String := String.ofList (unlines (file.map PinLine.text))

/-- The variables of a shell after `source`. -/
def source (file : PinFile) (vars : String → Option String) : String → Option String :=
  file.foldl PinLine.source vars

end PinFile

/-! ## One line -/

theorem isWhitespace_of_blank {c : Char} (h : c = ' ' ∨ c = '\t') : isWhitespace c = true := by
  rcases h with rfl | rfl <;> decide

theorem isIdent_cases {key : List Char} (h : Rust.isIdent key = true) :
    key ≠ [] ∧ ∀ c ∈ key, c.isAlphanum = true ∨ c = '_' := by
  cases key with
  | nil => cases h
  | cons c key =>
    obtain ⟨hstart, hcontinue⟩ := Bool.and_eq_true_iff.mp h
    refine ⟨List.cons_ne_nil c key, List.forall_mem_cons.mpr ⟨?_, fun c' hc' => ?_⟩⟩
    · rcases Bool.or_eq_true_iff.mp hstart with hc | hc
      · exact Or.inr (by simpa using hc)
      · exact Or.inl (by rw [Char.isAlphanum, hc, Bool.true_or])
    · rcases Bool.or_eq_true_iff.mp (List.all_eq_true.mp hcontinue c' hc') with hc | hc
      · exact Or.inr (by simpa using hc)
      · exact Or.inl hc

theorem name_of_isIdent_mem {key : List Char} (h : Rust.isIdent key = true) {c : Char}
    (hc : c ∈ key) : isWhitespace c = false ∧ c ≠ '=' ∧ c ≠ '#' ∧ c ≠ '\n' := by
  have hname := (isIdent_cases h).2 c hc
  refine ⟨?_, ?_, ?_, ?_⟩
  · have hspaces : ∀ n ∈ [9, 10, 11, 12, 13, 32, 133, 160, 5760, 8192, 8193, 8194, 8195, 8196, 8197,
        8198, 8199, 8200, 8201, 8202, 8232, 8233, 8239, 8287, 12288],
        (Char.ofNat n).isAlphanum = false ∧ Char.ofNat n ≠ '_' := by decide
    by_contra hspace
    have hmem := List.contains_iff_mem.mp ((Bool.not_eq_false _).mp hspace)
    have hno := hspaces c.toNat hmem
    rw [Char.ofNat_toNat] at hno
    rcases hname with hc | hc
    · exact Bool.false_ne_true (hno.1.symm.trans hc)
    · exact hno.2 hc
  all_goals
    rintro rfl
    revert hname
    decide

/-- An assignment is read as the name and the value between the quotation marks. -/
theorem readLine_assign {key value : List Char} (hkey : Rust.isIdent key = true)
    (hvalue : ∀ c ∈ value, isPlain c = true) (found : Found) :
    readLine found (key ++ '=' :: '"' :: (value ++ ['"'])) =
      if String.ofList key = "XRAY_PROTO_TAG" then { found with tag := some (String.ofList value) }
      else if String.ofList key = "XRAY_PROTO_COMMIT" then
        { found with commit := some (String.ofList value) }
      else found := by
  obtain ⟨first, rest, rfl⟩ := List.exists_cons_of_ne_nil (isIdent_cases hkey).1
  have hname {c : Char} (hc : c ∈ first :: rest) := name_of_isIdent_mem hkey hc
  have hfirst := hname List.mem_cons_self
  have htrimKey : trim isWhitespace (first :: rest) = first :: rest :=
    Text.trim_eq_self (fun c hc => (hname (List.mem_of_mem_head? hc)).1)
      fun c hc => (hname (List.mem_of_getLast? hc)).1
  have htrimQuoted : trim isWhitespace ('"' :: (value ++ ['"'])) = '"' :: (value ++ ['"']) :=
    Text.trim_eq_self (by rintro c ⟨⟩; decide)
      (by rw [← List.cons_append, List.getLast?_concat]; rintro c ⟨⟩; decide)
  have htrimLine : trim isWhitespace (first :: rest ++ '=' :: '"' :: (value ++ ['"'])) =
      first :: rest ++ '=' :: '"' :: (value ++ ['"']) := by
    refine Text.trim_eq_self (by rintro c ⟨⟩; exact hfirst.1) fun c hc => ?_
    rw [← List.cons_append, ← List.cons_append, ← List.append_assoc, List.getLast?_concat] at hc
    cases hc
    decide
  have hunquoted : trim (fun c => c == '"') ('"' :: (value ++ ['"'])) = value := by
    have hplain : ∀ c ∈ value, (c == '"') = false := fun c hc => by
      rw [beq_eq_false_iff_ne]
      rintro rfl
      exact absurd (hvalue _ hc) (by decide)
    exact Text.trim_between ['"'] value ['"'] (List.forall_mem_singleton.mpr rfl)
      (List.forall_mem_singleton.mpr rfl) (fun c hc => hplain c (List.mem_of_mem_head? hc))
      fun c hc => hplain c (List.mem_of_getLast? hc)
  have hequals : '=' ∉ first :: rest := fun h => (hname h).2.1 rfl
  have hcontent : ¬(first :: rest ++ '=' :: '"' :: (value ++ ['"']) = [] ∨
      (first :: rest ++ '=' :: '"' :: (value ++ ['"'])).head? = some '#') := by
    rintro (h | h)
    · cases h
    · exact hfirst.2.2.1 (Option.some.inj h)
  unfold readLine
  simp only [htrimLine]
  rw [if_neg hcontent, Text.partition_append hequals]
  simp only [htrimQuoted, hunquoted, htrimKey]

namespace PinLine

variable (line : PinLine)

theorem newline_not_mem_text : '\n' ∉ line.text := by
  cases line with
  | blank spaces hspaces =>
    intro h
    rcases hspaces _ h with h | h <;> cases h
  | comment indent text hindent htext =>
    simp only [PinLine.text, List.mem_append, List.mem_cons, not_or]
    refine ⟨fun h => ?_, by decide, htext⟩
    rcases hindent _ h with h | h <;> cases h
  | assign key value hkey hvalue =>
    simp only [PinLine.text, List.mem_append, List.mem_cons, List.not_mem_nil, or_false, not_or]
    refine ⟨fun h => (name_of_isIdent_mem hkey h).2.2.2 rfl, by decide, by decide, fun h => ?_,
      by decide⟩
    exact absurd (hvalue _ h) (by decide)

theorem source_assign {key value : List Char} (hkey : Rust.isIdent key = true)
    (hvalue : ∀ c ∈ value, isPlain c = true) (vars : String → Option String) (name : String) :
    (assign key value hkey hvalue).source vars name =
      if name = String.ofList key then some (String.ofList value) else vars name := rfl

/-- Both readers do the same at a line. -/
theorem readLine_text (found : Found) (vars : String → Option String)
    (htag : found.tag = vars "XRAY_PROTO_TAG") (hcommit : found.commit = vars "XRAY_PROTO_COMMIT") :
    (readLine found line.text).tag = line.source vars "XRAY_PROTO_TAG" ∧
      (readLine found line.text).commit = line.source vars "XRAY_PROTO_COMMIT" := by
  cases line with
  | blank spaces hspaces =>
    have htrim : trim isWhitespace spaces = [] := by
      have hspaces' : ∀ c ∈ spaces, isWhitespace c = true :=
        fun c hc => isWhitespace_of_blank (hspaces c hc)
      have h := Text.trim_between spaces [] [] hspaces' (List.forall_mem_nil _) (by simp) (by simp)
      rwa [List.append_nil, List.append_nil] at h
    have hread : readLine found spaces = found := if_pos (Or.inl htrim)
    exact ⟨(congrArg Found.tag hread).trans htag, (congrArg Found.commit hread).trans hcommit⟩
  | comment indent text hindent htext =>
    have htrim : (trim isWhitespace (indent ++ '#' :: text)).head? = some '#' :=
      Text.head?_trim_append (fun c hc => isWhitespace_of_blank (hindent c hc)) (by decide) text
    have hread : readLine found (indent ++ '#' :: text) = found := if_pos (Or.inr htrim)
    exact ⟨(congrArg Found.tag hread).trans htag, (congrArg Found.commit hread).trans hcommit⟩
  | assign key value hkey hvalue =>
    rw [PinLine.text, readLine_assign hkey hvalue, source_assign, source_assign]
    by_cases htagKey : String.ofList key = "XRAY_PROTO_TAG"
    · rw [if_pos htagKey, htagKey, if_pos rfl, if_neg (by decide)]
      exact ⟨rfl, hcommit⟩
    by_cases hcommitKey : String.ofList key = "XRAY_PROTO_COMMIT"
    · rw [if_neg htagKey, if_pos hcommitKey, hcommitKey, if_pos rfl, if_neg (by decide)]
      exact ⟨htag, rfl⟩
    · rw [if_neg htagKey, if_neg hcommitKey, if_neg (Ne.symm htagKey), if_neg (Ne.symm hcommitKey)]
      exact ⟨htag, hcommit⟩

end PinLine

/-! ## The file -/

theorem readLine_stripReturn (found : Found) (line : List Char) :
    readLine found (Text.stripReturn line) = readLine found line := by
  unfold readLine
  rw [Text.trim_stripReturn (by decide)]

theorem lines_text (file : PinFile) :
    lines file.text.toList = (file.map PinLine.text).map Text.stripReturn := by
  rw [PinFile.text, String.toList_ofList]
  refine Text.lines_unlines fun line hline => ?_
  obtain ⟨line, -, rfl⟩ := List.mem_map.mp hline
  exact line.newline_not_mem_text

theorem foldl_readLine (file : PinFile) (found : Found) (vars : String → Option String)
    (htag : found.tag = vars "XRAY_PROTO_TAG") (hcommit : found.commit = vars "XRAY_PROTO_COMMIT") :
    (lines file.text.toList).foldl readLine found =
      ⟨file.source vars "XRAY_PROTO_TAG", file.source vars "XRAY_PROTO_COMMIT"⟩ := by
  rw [lines_text, List.foldl_map, List.foldl_map]
  induction file generalizing found vars with
  | nil =>
    rw [List.foldl_nil]
    exact Found.ext htag hcommit
  | cons line file ih =>
    obtain ⟨htag', hcommit'⟩ := line.readLine_text found vars htag hcommit
    rw [List.foldl_cons, readLine_stripReturn]
    exact ih _ _ htag' hcommit'

namespace PinFile

/-- What the lines of the file say of a variable. -/
def assigned (file : PinFile) : String → Option String := file.source fun _ => none

/-- The variables that a shell had before stay, where the file does not set them. -/
theorem source_eq (file : PinFile) (vars : String → Option String) (name : String) :
    file.source vars name = (file.assigned name).or (vars name) := by
  unfold assigned source
  induction file using List.reverseRecOn with
  | nil => rfl
  | append_singleton file line ih =>
    rw [List.foldl_concat, List.foldl_concat]
    cases line with
    | blank spaces hspaces => exact ih
    | comment indent text hindent htext => exact ih
    | assign key value hkey hvalue =>
      rw [PinLine.source_assign, PinLine.source_assign]
      split
      · rfl
      · exact ih

end PinFile

/-- **Both read the same pin.** `read_pin` returns what the assignments say of the two variables; a
tag that is missing or empty is an error. -/
theorem readPin_text (pinPath : String) (file : PinFile) :
    readPin pinPath (.ok file.text) =
      match (file.assigned "XRAY_PROTO_TAG").filter (· ≠ "") with
      | some tag => .ok (tag, (file.assigned "XRAY_PROTO_COMMIT").getD "")
      | none => .error s!"XRAY_PROTO_TAG missing or empty in {pinPath}" := by
  have hfound := foldl_readLine file {} (fun _ => none) rfl rfl
  unfold readPin
  simp only
  rw [hfound]
  rfl

theorem assigned_of_readPin {pinPath tag commit : String} {file : PinFile}
    (h : readPin pinPath (.ok file.text) = .ok (tag, commit)) :
    tag ≠ "" ∧ file.assigned "XRAY_PROTO_TAG" = some tag := by
  rw [readPin_text] at h
  cases htag : (file.assigned "XRAY_PROTO_TAG").filter (· ≠ "") with
  | none =>
    rw [htag] at h
    cases h
  | some found =>
    rw [htag] at h
    obtain rfl : found = tag := congrArg Prod.fst (Except.ok.inj h)
    obtain ⟨hassigned, hne⟩ := Option.filter_eq_some_iff.mp htag
    exact ⟨of_decide_eq_true hne, hassigned⟩

end Bimarz.Build
