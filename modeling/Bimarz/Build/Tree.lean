import Bimarz.Build.Ident
import Bimarz.Rust.Modules
import Bimarz.Text.Partition

/-!
# The module tree (`generate_module_tree` in `engine-core/build.rs`)

The generated files are put into nested maps by the segments of their stems, and the maps are
printed. Whatever order the directory is listed in, the text is the same, and it is read back as
the tree of the segments with every file in its place.
-/

namespace Bimarz.Build

open Rust (Line linesText treeLines readModules IsName isNameChar isIdent)

/-! ## The code -/

/-- `BTreeMap<String, ModuleNode>`: the value of a node is its `generated_file`. -/
abbrev Modules := Trie String String

def insertGeneratedFile : List String → String → Modules → Modules
  | [], _, root => root
  | head :: rest, file, root =>
    root.entry head fun node =>
      if rest.isEmpty then { node with value := some file }
      else { node with children := insertGeneratedFile rest file node.children }

/-- The text that is pushed; `printable` says which characters `{:?}` leaves as they are. -/
def emitTree (printable : Char → Bool) : Modules → List Char
  | .nil => []
  | .cons name file children nodes =>
    Rust.pubMod ++ (safeIdent name).toList ++ [' ', '{', '\n'] ++
      (match file with
        | some file => Rust.includeCall ++ Rust.debug printable file.toList ++ [')', ';', '\n']
        | none => []) ++
      emitTree printable children ++ ['}', '\n'] ++ emitTree printable nodes

/-- `Path::file_stem` and `Path::extension` of the name of a file. -/
def splitName (name : String) : String × Option String :=
  if name = ".." then (name, none)
  else
    match Text.rpartition '.' name.toList with
    | (before, true, after) =>
      if before = [] then (name, none) else (String.ofList before, some (String.ofList after))
    | (_, false, _) => (name, none)

def fileStem (name : String) : String := (splitName name).1

def isRs (name : String) : Bool := (splitName name).2 = some "rs"

/-- `stem.split('.')`. -/
def segments (name : String) : List String :=
  ((fileStem name).toList.splitOn '.').map String.ofList

/-- `dir.join(name)`. -/
def join (dir name : String) : String :=
  if dir = "" ∨ dir.toList.getLast? = some '/' then dir ++ name else dir ++ "/" ++ name

section Run

variable {ε : Type} (printable : Char → Bool) (genDir : String)

/-- One entry of the directory; the root is left as it is by a file that is not generated. -/
def addEntry (state : Modules × ℕ) (entry : Except ε String) : Except ε (Modules × ℕ) := do
  let name ← entry
  if isRs name then
    pure (insertGeneratedFile (segments name) (join genDir name) state.1, state.2 + 1)
  else pure state

/-- The text of `pb_tree.rs` and the number of files, from what `read_dir` yields. -/
def generateModuleTree (readDir : Except ε (List (Except ε String))) :
    Except ε (List Char × ℕ) := do
  let entries ← readDir
  let (root, count) ← entries.foldlM (addEntry genDir) (.nil, 0)
  pure (emitTree printable root, count)

end Run

/-! ## Nested maps -/

theorem insertGeneratedFile_cons (head : String) (rest : List String) (file : String)
    (root : Modules) :
    insertGeneratedFile (head :: rest) file root = root.entry head (Trie.Node.insert rest file) := by
  induction rest generalizing head root with
  | nil => rfl
  | cons next rest ih =>
    rw [insertGeneratedFile]
    refine congrArg (root.entry head) (funext fun node => ?_)
    rw [List.isEmpty_cons, if_neg Bool.false_ne_true, ih, Trie.Node.insert]

/-- A file is inserted at the path of its segments. -/
theorem insertGeneratedFile_eq (path : List String) (file : String) (root : Modules) :
    insertGeneratedFile path file root = root.insert path file := by
  cases path with
  | nil => rfl
  | cons head rest => exact insertGeneratedFile_cons head rest file root

/-- The generated files, each with its segments. -/
def generated (genDir : String) (names : List String) : List (List String × String) :=
  (names.filter isRs).map fun name => (segments name, join genDir name)

theorem foldlM_addEntry {ε : Type} (genDir : String) (names : List String) (root : Modules)
    (count : ℕ) :
    (names.map Except.ok).foldlM (@addEntry ε genDir) (root, count) =
      .ok ((generated genDir names).foldl (fun t item => t.insert item.1 item.2) root,
        count + (names.filter isRs).length) := by
  induction names generalizing root count with
  | nil => rfl
  | cons name names ih =>
    rw [List.map_cons, List.foldlM_cons]
    by_cases hrs : isRs name = true
    · have hadd : addEntry genDir (root, count) (.ok name : Except ε String) =
          .ok (root.insert (segments name) (join genDir name), count + 1) := by
        rw [← insertGeneratedFile_eq]
        exact if_pos hrs
      rw [hadd]
      refine (ih _ _).trans ?_
      rw [generated, generated, List.filter_cons_of_pos hrs, List.map_cons, List.foldl_cons,
        List.length_cons, Nat.add_right_comm, Nat.add_assoc]
    · have hadd : addEntry genDir (root, count) (.ok name : Except ε String) = .ok (root, count) :=
        if_neg hrs
      rw [hadd]
      refine (ih _ _).trans ?_
      rw [generated, generated, List.filter_cons_of_neg hrs]

theorem generateModuleTree_ok {ε : Type} (printable : Char → Bool) (genDir : String)
    (names : List String) :
    generateModuleTree printable genDir (.ok (names.map .ok) : Except ε _) =
      .ok (emitTree printable (Trie.ofList (generated genDir names)),
        (names.filter isRs).length) := by
  have hfold := @foldlM_addEntry ε genDir names .nil 0
  rw [Nat.zero_add] at hfold
  unfold generateModuleTree
  simp only [bind, Except.bind] at hfold ⊢
  rw [hfold]
  rfl

/-! ## The text -/

theorem isName_of_isIdent {cs : List Char} (h : isIdent cs = true) :
    cs ≠ [] ∧ ∀ c ∈ cs, isNameChar c = true := by
  cases cs with
  | nil => cases h
  | cons c cs =>
    rw [isIdent, Bool.and_eq_true, List.all_eq_true] at h
    obtain ⟨hstart, hcontinue⟩ := h
    have hname : ∀ c, Rust.isIdentContinue c = true → isNameChar c = true := fun c hc => by
      rw [isNameChar, hc, Bool.or_true]
    refine ⟨List.cons_ne_nil _ _, List.forall_mem_cons.mpr ⟨hname c ?_, fun c' hc' => ?_⟩⟩
    · unfold Rust.isIdentStart at hstart
      unfold Rust.isIdentContinue Char.isAlphanum
      rw [← Bool.or_assoc, hstart, Bool.true_or]
    · exact hname c' (hcontinue c' hc')

theorem isName_safeIdent (segment : String) : IsName (safeIdent segment) := by
  unfold safeIdent
  split
  next hnever =>
    have hall : ∀ word ∈ neverRaw, word ++ "_" ≠ "" ∧
        (word ++ "_").toList.all isNameChar = true := by decide
    exact (hall segment hnever).imp_right List.all_eq_true.mp
  next hnever =>
    obtain ⟨hne, hchars⟩ := isName_of_isIdent (isIdent_ident segment.toList)
    simp only
    split
    · refine ⟨fun h => ?_, fun c hc => ?_⟩
      · rw [← String.toList_inj, String.toList_append] at h
        cases h
      · rw [String.toList_append, List.mem_append] at hc
        simp only [String.toList_ofList] at hc
        have hraw : ∀ c ∈ "r#".toList, isNameChar c = true :=
          List.all_iff_forall_prop.mp (by decide)
        exact hc.elim (hraw c) (hchars c)
    · refine ⟨fun h => ?_, fun c hc => ?_⟩
      · rw [← String.toList_inj, String.toList_ofList] at h
        exact hne h
      · rw [String.toList_ofList] at hc
        exact hchars c hc

/-- The text is the one of the tree with the names in place of the segments. -/
theorem emitTree_eq (printable : Char → Bool) (tree : Modules) :
    emitTree printable tree = linesText printable (treeLines (tree.mapKeys safeIdent)) := by
  induction tree with
  | nil => rfl
  | cons name file children nodes ihChildren ihNodes =>
    cases file with
    | none =>
      rw [emitTree, Trie.mapKeys, treeLines, ihChildren, ihNodes]
      simp [linesText, Line.text]
    | some file =>
      rw [emitTree, Trie.mapKeys, treeLines, ihChildren, ihNodes]
      simp [linesText, Line.text]

theorem readModules_emitTree (printable : Char → Bool) (tree : Modules) :
    readModules (emitTree printable tree) = some (tree.mapKeys safeIdent) := by
  rw [emitTree_eq]
  refine Rust.readModules_treeLines printable (Rust.plain_treeLines fun path hpath name hname => ?_)
  rw [Trie.paths_mapKeys] at hpath
  obtain ⟨path, -, rfl⟩ := List.mem_map.mp hpath
  obtain ⟨segment, -, rfl⟩ := List.mem_map.mp hname
  exact isName_safeIdent segment

/-! ## The tree -/

/-- The modules of these files: every file at the path of its segments, once, and one module for
every beginning of such a path. -/
structure IsTreeOf (genDir : String) (names : List String) (tree : Modules) : Prop where
  files : tree.entries.Perm (generated genDir names)
  once : tree.paths.Nodup
  prefixes : ∀ path, path ∈ tree.paths ↔ path ≠ [] ∧ ∃ name ∈ names, isRs name = true ∧
    path <+: segments name

theorem segments_ne_nil (name : String) : segments name ≠ [] := by
  intro h
  exact List.splitOn_ne_nil '.' _ (List.map_eq_nil_iff.mp h)

theorem fileStem_eq_of_segments {name name' : String} (h : segments name = segments name') :
    fileStem name = fileStem name' := by
  have hsplit : (fileStem name).toList.splitOn '.' = (fileStem name').toList.splitOn '.' :=
    List.map_injective_iff.mpr (fun _ _ => String.ofList_injective) h
  have hjoined := congrArg (List.intercalate ['.']) hsplit
  rw [List.intercalate_splitOn, List.intercalate_splitOn] at hjoined
  exact String.toList_inj.mp hjoined

theorem generated_ne_nil {genDir : String} {names : List String} {item : List String × String}
    (h : item ∈ generated genDir names) : item.1 ≠ [] := by
  obtain ⟨name, -, rfl⟩ := List.mem_map.mp h
  exact segments_ne_nil name

/-- Different stems have different segments. -/
theorem generated_nodup {genDir : String} {names : List String}
    (h : ((names.filter isRs).map fileStem).Nodup) :
    ((generated genDir names).map Prod.fst).Nodup := by
  have hsegments : (generated genDir names).map Prod.fst = (names.filter isRs).map segments := by
    simp [generated, Function.comp_def]
  rw [hsegments]
  exact List.Nodup.map_on (fun name hname name' hname' heq =>
    List.inj_on_of_nodup_map h hname hname' (fileStem_eq_of_segments heq)) h.of_map

theorem mem_paths_generated (genDir : String) (names : List String) (path : List String) :
    path ∈ (Trie.ofList (generated genDir names)).paths ↔
      path ≠ [] ∧ ∃ name ∈ names, isRs name = true ∧ path <+: segments name := by
  rw [Trie.mem_paths_ofList fun _ => generated_ne_nil]
  simp [generated, and_assoc]

theorem isTreeOf_ofList {genDir : String} {names : List String}
    (h : ((names.filter isRs).map fileStem).Nodup) :
    IsTreeOf genDir names (Trie.ofList (generated genDir names)) where
  files := Trie.entries_ofList (generated_nodup h) fun _ => generated_ne_nil
  once := Trie.paths_nodup (Trie.sorted_ofList _)
  prefixes := mem_paths_generated genDir names

/-- **The module tree.** Every order in which the directory is listed gives the same text, and the
text is read as the tree of the files with the names of the modules in place of the segments. -/
theorem generateModuleTree_reads {ε : Type} (printable : Char → Bool) (genDir : String)
    (names : List String) (hstems : ((names.filter isRs).map fileStem).Nodup) :
    ∃ text tree, (∀ names' : List String, names'.Perm names →
        generateModuleTree printable genDir (.ok (names'.map .ok) : Except ε _) =
          .ok (text, (names.filter isRs).length)) ∧
      readModules text = some (tree.mapKeys safeIdent) ∧ IsTreeOf genDir names tree := by
  refine ⟨_, _, fun names' hperm => ?_, readModules_emitTree printable _, isTreeOf_ofList hstems⟩
  have hgenerated : (generated genDir names).Perm (generated genDir names') :=
    ((hperm.filter isRs).map _).symm
  rw [generateModuleTree_ok, ← Trie.ofList_perm hgenerated (generated_nodup hstems),
    (hperm.filter isRs).length_eq]

theorem core_read : ∃ text tree, (∀ names' : List String,
      names'.Perm ["xray.core.rs", "xray.rs", "LICENSE", "xray.core.type.rs"] →
        generateModuleTree (fun _ => true) "gen" (.ok (names'.map .ok) : Except Unit _) =
          .ok (text, 3)) ∧
    readModules text = some (tree.mapKeys safeIdent) ∧
    IsTreeOf "gen" ["xray.core.rs", "xray.rs", "LICENSE", "xray.core.type.rs"] tree :=
  generateModuleTree_reads _ _ _ (by decide)

end Bimarz.Build
