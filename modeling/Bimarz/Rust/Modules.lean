import Bimarz.Rust.Tokens
import Bimarz.Trie

/-!
# Texts of nested modules

A text in which every line opens a module, includes a file or closes a module. It is read as a tree
whose keys are the names of the modules and whose values are the included files, and is refused
where a line is something else or a module is not closed, or closed without having been opened.
-/

namespace Rust

inductive Line
  | opens (name : String)
  | includes (file : String)
  | closes

/-- `pub mod ` -/
def pubMod : List Char := ['p', 'u', 'b', ' ', 'm', 'o', 'd', ' ']

/-- `include!(` -/
def includeCall : List Char := ['i', 'n', 'c', 'l', 'u', 'd', 'e', '!', '(']

/-- The text of a line, without the line feed. -/
def Line.text (printable : Char → Bool) : Line → List Char
  | .opens name => pubMod ++ name.toList ++ [' ', '{']
  | .includes file => includeCall ++ debug printable file.toList ++ [')', ';']
  | .closes => ['}']

def linesText (printable : Char → Bool) (ls : List Line) : List Char :=
  ls.flatMap fun line => line.text printable ++ ['\n']

/-! ## Lines -/

/-- The characters of identifiers and of raw identifiers. -/
def isNameChar (c : Char) : Bool := c = '#' || isIdentContinue c

def IsName (name : String) : Prop := name ≠ "" ∧ ∀ c ∈ name.toList, isNameChar c = true

/-- The name of the module that a line opens. -/
def readOpening (cs : List Char) : Option String := do
  let cs ← cs.dropPrefix? pubMod
  let name := cs.takeWhile isNameChar
  if name ≠ [] ∧ cs.dropWhile isNameChar = [' ', '{'] then some (String.ofList name) else none

/-- The file that a line includes. -/
def readInclude (cs : List Char) : Option String := do
  let cs ← cs.dropPrefix? includeCall
  let (file, cs) ← readLiteral cs
  if cs = [')', ';'] then some (String.ofList file) else none

def readLine (cs : List Char) : Option Line :=
  if cs = ['}'] then some .closes
  else ((readOpening cs).map Line.opens).or ((readInclude cs).map Line.includes)

/-- The lines of a text, without the empty ones. -/
def readLines (cs : List Char) : Option (List Line) :=
  ((cs.splitOn '\n').filter fun line => line ≠ []).mapM readLine

/-- The line can be read back. -/
def Line.Plain : Line → Prop
  | .opens name => IsName name
  | .includes _ => True
  | .closes => True

theorem dropPrefix?_append (front back : List Char) :
    (front ++ back).dropPrefix? front = some back :=
  List.dropPrefix?_append_of_beq back (BEq.refl front)

theorem readOpening_opens (printable : Char → Bool) {name : String} (h : IsName name) :
    readOpening ((Line.opens name).text printable) = some name := by
  obtain ⟨hne, hchars⟩ := h
  have htake : (name.toList ++ [' ', '{']).takeWhile isNameChar = name.toList := by
    rw [List.takeWhile_append_of_pos hchars]
    exact List.append_nil _
  have hdrop : (name.toList ++ [' ', '{']).dropWhile isNameChar = [' ', '{'] := by
    rw [List.dropWhile_append_of_pos hchars]
    rfl
  have hname : name.toList ≠ [] := fun hnil => hne (String.toList_inj.mp hnil)
  rw [readOpening, Line.text, List.append_assoc, dropPrefix?_append]
  simp only [Option.bind_eq_bind, Option.bind_some]
  rw [htake, hdrop, if_pos ⟨hname, rfl⟩, String.ofList_toList]

theorem readOpening_includes (printable : Char → Bool) (file : String) :
    readOpening ((Line.includes file).text printable) = none := rfl

theorem readInclude_includes (printable : Char → Bool) (file : String) :
    readInclude ((Line.includes file).text printable) = some file := by
  rw [readInclude, Line.text, List.append_assoc, dropPrefix?_append]
  simp only [Option.bind_eq_bind, Option.bind_some, readLiteral_debug, if_true,
    String.ofList_toList]

/-- A line is read as what was printed. -/
theorem readLine_text (printable : Char → Bool) {line : Line} (h : line.Plain) :
    readLine (line.text printable) = some line := by
  unfold readLine
  cases line with
  | opens name =>
    have hne : (Line.opens name).text printable ≠ ['}'] := fun heq =>
      absurd (List.cons.inj heq).1 (by decide)
    rw [if_neg hne, readOpening_opens printable h]
    rfl
  | includes file =>
    have hne : (Line.includes file).text printable ≠ ['}'] := fun heq =>
      absurd (List.cons.inj heq).1 (by decide)
    rw [if_neg hne, readOpening_includes, readInclude_includes]
    rfl
  | closes => rfl

theorem newline_not_mem_text (printable : Char → Bool) {line : Line} (h : line.Plain) :
    '\n' ∉ line.text printable := by
  cases line with
  | opens name =>
    have hname : '\n' ∉ name.toList := fun hmem => absurd (h.2 _ hmem) (by decide)
    simp [Line.text, pubMod, hname]
  | includes file => simp [Line.text, includeCall, newline_not_mem_debug]
  | closes => simp [Line.text]

theorem text_ne_nil (printable : Char → Bool) (line : Line) : line.text printable ≠ [] := by
  cases line with
  | opens name => exact List.cons_ne_nil _ _
  | includes file => exact List.cons_ne_nil _ _
  | closes => exact List.cons_ne_nil _ _

/-- A printed text is read as its lines. -/
theorem readLines_linesText (printable : Char → Bool) {ls : List Line}
    (h : ∀ line ∈ ls, line.Plain) : readLines (linesText printable ls) = some ls := by
  unfold readLines linesText
  induction ls with
  | nil => rfl
  | cons line ls ih =>
    obtain ⟨hline, hls⟩ := List.forall_mem_cons.mp h
    rw [List.flatMap_cons, List.append_assoc, List.singleton_append,
      List.splitOn_append_cons_self_of_not_mem (newline_not_mem_text printable hline),
      List.filter_cons, if_pos (decide_eq_true (text_ne_nil printable line)), List.mapM_cons,
      readLine_text printable hline, ih hls]
    rfl

/-! ## Blocks -/

/-- One line, the last ones first: what has been read of the modules that the line stands in, the
innermost first. -/
def closeLine : Line → List (Trie.Node String String) → Option (List (Trie.Node String String))
  | .closes, blocks => some ({} :: blocks)
  | .includes file, ⟨none, children⟩ :: blocks => some (⟨some file, children⟩ :: blocks)
  | .opens name, block :: outer :: blocks =>
    some ({ outer with children := .ofNode name block outer.children } :: blocks)
  | _, _ => none

/-- The tree of the modules, if every module that is opened is closed and the other way round. -/
def readModules (cs : List Char) : Option (Trie String String) := do
  let ls ← readLines cs
  match ← ls.foldrM closeLine [{}] with
  | [⟨none, tree⟩] => some tree
  | _ => none

/-- The lines of a tree of modules. -/
def treeLines : Trie String String → List Line
  | .nil => []
  | .cons name file children rest =>
    .opens name :: (file.map Line.includes).toList ++ treeLines children ++
      .closes :: treeLines rest

theorem foldrM_treeLines (tree : Trie String String) (blocks : List (Trie.Node String String)) :
    (treeLines tree).foldrM closeLine ({} :: blocks) = some (⟨none, tree⟩ :: blocks) := by
  induction tree generalizing blocks with
  | nil => rfl
  | cons name file children rest ihChildren ihRest =>
    rw [treeLines, List.foldrM_append, List.foldrM_cons, ihRest]
    simp only [Option.bind_eq_bind, Option.bind_some, closeLine]
    rw [List.cons_append, List.foldrM_cons, List.foldrM_append, ihChildren]
    cases file with
    | none => rfl
    | some file => rfl

/-- The text of a tree is read as the tree. -/
theorem readModules_treeLines (printable : Char → Bool) {tree : Trie String String}
    (h : ∀ line ∈ treeLines tree, line.Plain) :
    readModules (linesText printable (treeLines tree)) = some tree := by
  unfold readModules
  rw [readLines_linesText printable h]
  simp only [Option.bind_eq_bind, Option.bind_some, foldrM_treeLines]

theorem plain_treeLines {tree : Trie String String}
    (h : ∀ path ∈ tree.paths, ∀ name ∈ path, IsName name) : ∀ line ∈ treeLines tree, line.Plain := by
  induction tree with
  | nil => nofun
  | cons name file children rest ihChildren ihRest =>
    rw [Trie.paths_cons, List.forall_mem_append, List.forall_mem_map, List.forall_mem_cons] at h
    obtain ⟨⟨hname, hchildren⟩, hrest⟩ := h
    have hbelow := ihChildren fun path hpath name' hmem =>
      hchildren path hpath name' (List.mem_cons_of_mem _ hmem)
    rw [treeLines, List.forall_mem_append, List.cons_append, List.forall_mem_cons,
      List.forall_mem_append, List.forall_mem_cons]
    refine ⟨⟨hname name List.mem_cons_self, ?_, hbelow⟩, trivial, ihRest hrest⟩
    intro line hline
    obtain ⟨file', -, rfl⟩ := Option.map_eq_some_iff.mp (Option.mem_toList.mp hline)
    trivial

end Rust
