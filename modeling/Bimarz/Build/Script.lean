import Bimarz.Build.Pin
import Bimarz.Build.Tree
import Bimarz.Dict
import Bimarz.Directory
import Bimarz.Effect.Triple
import Mathlib.Data.List.Lex
import Mathlib.Data.Multiset.Sort

/-!
# The build script (`main` in `engine-core/build.rs`)

The script wipes its own directory below `OUT_DIR`, has the proto files compiled into it and writes
the module tree of what it finds there. What a run that ends well leaves is a function of the pin and
of the proto files: nothing that earlier runs have left takes part, and no order of a listing does.
-/

namespace Bimarz.Build

open Effect Effect.Act

/-! ## The code -/

def genDirName : String := "pb"

/-- A line that the script prints for Cargo. -/
inductive Directive
  | rerunIfChanged (path : String)
  | rustcEnv (name value : String)
  | warning (text : String)
  deriving DecidableEq, Repr

/-- How a script ends that does not end well: with an `Err`, or with `exit(1)` after a message. -/
inductive Failure
  | err (text : String)
  | exit (text : String)
  deriving DecidableEq, Repr

/-- What the script has in `OUT_DIR`: the files of the directory `pb`, and `pb_tree.rs`. -/
structure OutDir where
  gen : Option (Dict String String) := none
  tree : Option (List Char) := none

/-- The state of a run. -/
structure Script where
  printed : List Directive := []
  out : OutDir

/-- `tonic_build` over these files and this include path. It opens what it reads by its path, so
that the files below the include path come in no order. -/
abbrev Protoc := List Directory.Path → Multiset (Directory.Path × String) →
  Except String (Dict String String)

/-- What the surroundings of a run answer. -/
structure Answers where
  manifestDir : Option String
  outDir : Option String
  pinError : Option String := none
  /-- The order in which the directories are listed. -/
  listing : Directory String → Directory String := id
  listing_same : ∀ d, (listing d).Same d := by exact Directory.Same.refl
  unreadable : Directory.Path → Option String := fun _ => none
  /-- The error of `remove_dir_all`, with the files that are left. -/
  removeError : Option (String × Dict String String) := none
  createError : Option String := none
  /-- The files that a compilation has written before it fails. -/
  written : Dict String String := Dict.empty
  genListing : List String → List String := id
  genListing_perm : ∀ names, (genListing names).Perm names := by exact List.Perm.refl
  genUnreadable : Option String := none
  /-- The error of the write of `pb_tree.rs`, with what it leaves there. -/
  writeError : Option (String × List Char) := none

abbrev Step := Act Failure Script

def println (directive : Directive) : Step Unit :=
  modify fun s => { s with printed := s.printed ++ [directive] }

/-- `std::env::var`. -/
def envVar (value : Option String) : Step String :=
  match value with
  | some value => pure value
  | none => raise (.err "environment variable not found")

/-- Fail with `e`, if there is one. -/
def failing (e : Option String) : Step Unit :=
  match e with
  | none => pure ()
  | some text => raise (.err text)

def stopIf (c : Prop) [Decidable c] (failure : Failure) : Step Unit :=
  if c then raise failure else pure ()

def isProto (name : String) : Bool := (splitName name).2 = some "proto"

/-- The loop of `find_proto_files` over the entries of the directory at `path`. -/
def walk (unreadable : Directory.Path → Option String) (path : Directory.Path) :
    Directory String → List Directory.Path → Except String (List Directory.Path)
  | .nil, out => .ok out
  | .file name _ rest, out =>
    walk unreadable path rest (if isProto name then out ++ [path ++ [name]] else out)
  | .dir name entries rest, out =>
    match unreadable (path ++ [name]) with
    | some e => .error e
    | none => do walk unreadable path rest (← walk unreadable (path ++ [name]) entries out)

def findProtoFiles (unreadable : Directory.Path → Option String) (dir : Directory String) :
    Except String (List Directory.Path) :=
  match unreadable [] with
  | some e => .error e
  | none => walk unreadable [] dir []

/-- `remove_dir_all`, if the directory exists. -/
def wipe (env : Answers) : Step Unit := do
  if (← reads fun s => s.out.gen.isSome) then
    match env.removeError with
    | some (e, left) =>
      modify fun s => { s with out := { s.out with gen := some left } }
      raise (.err e)
    | none => modify fun s => { s with out := { s.out with gen := none } }
  else pure ()

/-- `create_dir_all`. -/
def create (env : Answers) : Step Unit := do
  failing env.createError
  modify fun s => { s with out := { s.out with gen := some (s.out.gen.getD Dict.empty) } }

/-- The files that are written into the directory take the place of files of the same names. -/
def writeAll (files : Dict String String) : Step Unit :=
  modify fun s =>
    let gen := files.items.foldl (fun d f => d.set f.1 f.2) (s.out.gen.getD Dict.empty)
    { s with out := { s.out with gen := some gen } }

def compileProtos (protoc : Protoc) (env : Answers) (paths : List Directory.Path)
    (root : Multiset (Directory.Path × String)) : Step Unit :=
  match protoc paths root with
  | .ok files => writeAll files
  | .error e => do
    writeAll env.written
    raise (.err e)

/-- `std::fs::write` of `pb_tree.rs`. -/
def writeTree (env : Answers) (code : List Char) : Step Unit :=
  match env.writeError with
  | some (e, left) => do
    modify fun s => { s with out := { s.out with tree := some left } }
    raise (.err e)
  | none => modify fun s => { s with out := { s.out with tree := some code } }

/-- `generate_module_tree`. -/
def writeModuleTree (printable : Char → Bool) (env : Answers) (genDir : String) : Step ℕ := do
  failing env.genUnreadable
  let names ← reads fun s => (s.out.gen.getD Dict.empty).items.map Prod.fst
  let (code, count) ← ofExcept
    (generateModuleTree printable genDir (.ok ((env.genListing names).map .ok)))
  writeTree env code
  pure count

/-- `std::fs::read_to_string` of the pin file. -/
def Answers.readToString (env : Answers) (pin : PinFile) : Except String String :=
  match env.pinError with
  | some e => .error e
  | none => .ok pin.text

/-- `main` up to the search for the proto files: the tag is read and printed. -/
def announce (pin : PinFile) (env : Answers) (manifestDir : String) : Step Unit := do
  let pinPath := join manifestDir pinFileName
  println (.rerunIfChanged (join manifestDir "proto"))
  println (.rerunIfChanged pinPath)
  let (xrayTag, _) ← ofExcept ((readPin pinPath (env.readToString pin)).mapError Failure.err)
  println (.rustcEnv "BIMARZ_XRAY_PROTO_TAG" xrayTag)
  println (.warning s!"building against xray-core proto pin {xrayTag}")

/-- The proto files that `main` has compiled. -/
def collect (proto : Directory String) (env : Answers) (protoRoot : String) :
    Step (List Directory.Path) := do
  stopIf ("app" ∉ proto.names ∨ "common" ∉ proto.names)
    (.exit ("error: proto/app or proto/common not found\n" ++
      "hint: run scripts/fetch-protos.sh from the repository root first\n" ++
      s!"hint: the expected Xray version is pinned in engine-core/{pinFileName}"))
  let found ← ofExcept ((findProtoFiles env.unreadable (env.listing proto)).mapError Failure.err)
  let protoFiles := found.insertionSort (· ≤ ·)
  stopIf (protoFiles = [])
    (.exit (s!"error: no .proto files found under {protoRoot}\n" ++
      "hint: re-run scripts/fetch-protos.sh to restore the proto tree"))
  println (.warning s!"compiling {protoFiles.length} proto files")
  pure protoFiles

/-- `main`, over the pin file and the directory `proto`. -/
def main (printable : Char → Bool) (protoc : Protoc) (pin : PinFile) (proto : Directory String)
    (env : Answers) : Step Unit := do
  let manifestDir ← envVar env.manifestDir
  announce pin env manifestDir
  let protoFiles ← collect proto env (join manifestDir "proto")
  let outDir ← envVar env.outDir
  let genDir := join outDir genDirName
  wipe env
  create env
  compileProtos protoc env protoFiles proto.files
  let generated ← writeModuleTree printable env genDir
  stopIf (generated = 0)
    (.err s!"tonic/prost produced no .rs files in {genDir} — cannot build the module tree")

/-! ## What is built -/

/-- What the extension is compiled from. -/
structure Extension where
  protoTag : String
  tree : List Char
  modules : Dict String String

/-- The value that a variable has for `env!` after these lines. -/
def rustcEnv (name : String) : List Directive → Option String
  | [] => none
  | .rustcEnv name' value :: rest => (rustcEnv name rest).or (if name' = name then some value else none)
  | _ :: rest => rustcEnv name rest

/-- `xray_proto_version_str`, `pb_tree.rs` and the files that it includes. -/
def Script.extension (s : Script) : Option Extension := do
  let protoTag ← rustcEnv "BIMARZ_XRAY_PROTO_TAG" s.printed
  let tree ← s.out.tree
  let modules ← s.out.gen
  pure ⟨protoTag, tree, modules⟩

def isProtoPath (path : Directory.Path) : Bool := path.getLast?.any isProto

/-- The paths of the proto files. -/
def protoPaths (files : Multiset (Directory.Path × String)) : List Directory.Path :=
  ((files.map Prod.fst).filter fun path => isProtoPath path).sort

/-- A build, as a function of the pin and of the proto files. -/
def clean (printable : Char → Bool) (protoc : Protoc) (outDir : String) (pin : PinFile)
    (files : Multiset (Directory.Path × String)) : Option Extension := do
  let protoTag ← (pin.assigned "XRAY_PROTO_TAG").filter (· ≠ "")
  let modules ← (protoc (protoPaths files) files).toOption
  let generated := generated (join outDir genDirName) (modules.items.map Prod.fst)
  pure ⟨protoTag, emitTree printable (Trie.ofList generated), modules⟩

theorem protoTag_of_clean {printable : Char → Bool} {protoc : Protoc} {outDir : String} {pin : PinFile}
    {files : Multiset (Directory.Path × String)} {extension : Extension}
    (h : clean printable protoc outDir pin files = some extension) :
    pin.assigned "XRAY_PROTO_TAG" = some extension.protoTag := by
  obtain ⟨protoTag, htag, h⟩ := Option.bind_eq_some_iff.mp h
  obtain ⟨modules, -, h⟩ := Option.bind_eq_some_iff.mp h
  rw [← Option.some.inj h]
  exact (Option.filter_eq_some_iff.mp htag).1

/-! ## The proto files -/

theorem filter_isProtoPath (name : String) {paths : List Directory.Path}
    (h : ∀ path ∈ paths, path ≠ []) :
    (paths.map (name :: ·)).filter isProtoPath = (paths.filter isProtoPath).map (name :: ·) := by
  rw [List.filter_map]
  refine congrArg (List.map (name :: ·)) (List.filter_congr fun path hpath => ?_)
  obtain ⟨first, rest, rfl⟩ := List.exists_cons_of_ne_nil (h path hpath)
  exact congrArg (Option.any isProto) List.getLast?_cons_cons

/-- The search finds the paths of the proto files, in the order of the listing. -/
theorem walk_ok {unreadable : Directory.Path → Option String} {path : Directory.Path}
    {d : Directory String} {out found : List Directory.Path}
    (h : walk unreadable path d out = .ok found) :
    found = out ++ (d.paths.filter isProtoPath).map (path ++ ·) := by
  induction d generalizing path out found with
  | nil =>
    cases h
    exact (List.append_nil out).symm
  | file name content rest ih =>
    rw [ih h, Directory.paths_file]
    by_cases hproto : isProto name = true
    · rw [if_pos hproto, List.filter_cons_of_pos (by exact hproto), List.map_cons, List.append_assoc]
      rfl
    · rw [if_neg hproto, List.filter_cons_of_neg (by exact hproto)]
  | dir name entries rest ihEntries ihRest =>
    rw [walk] at h
    split at h
    · cases h
    obtain ⟨inner, hinner, hrest⟩ := Effect.bind_eq_ok_iff.mp h
    rw [ihRest hrest, ihEntries hinner, Directory.paths_dir, List.filter_append,
      filter_isProtoPath name fun _ => Directory.ne_nil_of_mem_paths, List.map_append, List.map_map,
      List.append_assoc]
    simp [Function.comp_def]

/-- The proto files in their order, whatever the order of the listing is. -/
theorem sort_findProtoFiles {unreadable : Directory.Path → Option String}
    {d d' : Directory String} (hsame : d'.Same d) {found : List Directory.Path}
    (h : findProtoFiles unreadable d' = .ok found) :
    found.insertionSort (· ≤ ·) = protoPaths d.files := by
  have hfound : found = d'.paths.filter isProtoPath := by
    unfold findProtoFiles at h
    split at h
    · cases h
    · rw [walk_ok h, List.nil_append]
      exact List.map_id _
  have hfiles : (d'.files : Multiset (Directory.Path × String)) = d.files :=
    Multiset.coe_eq_coe.mpr hsame
  rw [hfound, ← hfiles, ← List.mergeSort_eq_insertionSort]
  unfold protoPaths
  rw [Multiset.map_coe, Multiset.filter_coe, Multiset.coe_sort]
  simp only [Bool.decide_eq_true]
  rfl

/-! ## The module tree -/

theorem rpartition_true {sep : Char} {cs before after : List Char}
    (h : Text.rpartition sep cs = (before, true, after)) : cs = before ++ sep :: after := by
  unfold Text.rpartition at h
  rcases Text.partition_cases sep cs.reverse with ⟨-, hcs⟩ | ⟨before', after', hreverse, -, hcs⟩
  · rw [hcs] at h
    cases h
  · rw [hcs] at h
    cases h
    have hcs' := congrArg List.reverse hreverse
    rwa [List.reverse_reverse, List.reverse_append, List.reverse_cons, List.append_assoc] at hcs'

/-- A generated file is named by its stem. -/
theorem eq_of_isRs {name : String} (h : isRs name = true) : name = fileStem name ++ ".rs" := by
  have hrs : (splitName name).2 = some "rs" := of_decide_eq_true h
  unfold fileStem
  unfold splitName at hrs ⊢
  by_cases hdots : name = ".."
  · rw [if_pos hdots] at hrs
    cases hrs
  rw [if_neg hdots] at hrs ⊢
  rcases hcut : Text.rpartition '.' name.toList with ⟨before, _ | _, after⟩
  · rw [hcut] at hrs
    cases hrs
  rw [hcut] at hrs
  by_cases hempty : before = []
  · simp only [hempty, if_true] at hrs
    cases hrs
  simp only [hempty, if_false] at hrs ⊢
  have hafter : after = "rs".toList := by
    rw [← Option.some.inj hrs, String.toList_ofList]
  rw [← String.toList_inj, rpartition_true hcut, String.toList_append, String.toList_ofList, hafter]
  rfl

theorem stems_nodup {names : List String} (h : names.Nodup) :
    ((names.filter isRs).map fileStem).Nodup := by
  refine (h.filter _).map_on fun name hname name' hname' heq => ?_
  rw [eq_of_isRs (List.mem_filter.mp hname).2, eq_of_isRs (List.mem_filter.mp hname').2, heq]

/-- The text and the count do not depend on the order in which the directory is read. -/
theorem generateModuleTree_perm {ε : Type} (printable : Char → Bool) (genDir : String)
    {names names' : List String} (hperm : names'.Perm names) (h : names.Nodup) :
    generateModuleTree printable genDir (.ok (names'.map .ok) : Except ε _) =
      .ok (emitTree printable (Trie.ofList (generated genDir names)), (names.filter isRs).length) := by
  have hgenerated : (generated genDir names).Perm (generated genDir names') :=
    ((hperm.filter isRs).map _).symm
  rw [generateModuleTree_ok, ← Trie.ofList_perm hgenerated (generated_nodup (stems_nodup h)),
    (hperm.filter isRs).length_eq]

/-! ## A run that ends well -/

section Run

variable {P : Script → Prop} {env : Answers} {L : List Directive → Prop}

theorem envVar_triple (value : Option String) :
    Triple P (envVar value) (fun v s => P s ∧ value = some v) (fun _ _ => True) := by
  cases value with
  | none => exact Triple.raise fun _ _ => trivial
  | some v => exact Triple.pure fun s hs => ⟨hs, rfl⟩

theorem failing_triple (e : Option String) :
    Triple P (failing e) (fun _ => P) (fun _ _ => True) := by
  cases e with
  | none => exact Triple.pure fun s hs => hs
  | some text => exact Triple.raise fun _ _ => trivial

theorem stopIf_triple (c : Prop) [Decidable c] (failure : Failure) :
    Triple P (stopIf c failure) (fun _ => P) (fun _ _ => True) :=
  Triple.ite (fun _ => Triple.raise fun _ _ => trivial) fun _ => Triple.pure fun _ hs => hs

theorem wipe_triple : Triple (fun s => L s.printed) (wipe env)
    (fun _ s => L s.printed ∧ s.out.gen = none) (fun _ _ => True) := by
  refine Triple.bind (R := fun some s => L s.printed ∧ s.out.gen.isSome = some)
    (Triple.reads fun s hs => ⟨hs, rfl⟩) fun some => ?_
  refine Triple.ite (fun hsome => ?_) fun hsome => ?_
  · rcases env.removeError with _ | ⟨e, left⟩
    · exact Triple.modify fun s hs => ⟨hs.1, rfl⟩
    · exact Triple.bind (R := fun _ _ => True) (Triple.modify fun _ _ => trivial) fun _ =>
        Triple.raise fun _ _ => trivial
  · refine Triple.pure fun s hs => ⟨hs.1, ?_⟩
    rw [← Option.not_isSome_iff_eq_none, hs.2]
    exact hsome

theorem create_triple : Triple (fun s => L s.printed ∧ s.out.gen = none) (create env)
    (fun _ s => L s.printed ∧ s.out.gen = some Dict.empty) (fun _ _ => True) := by
  refine Triple.bind (failing_triple _) fun _ => Triple.modify fun s hs => ⟨hs.1, ?_⟩
  rw [hs.2]
  rfl

/-- Into an empty directory, exactly the files of the compilation are written. -/
theorem compileProtos_triple {protoc : Protoc} {paths : List Directory.Path}
    {root : Multiset (Directory.Path × String)} :
    Triple (fun s => L s.printed ∧ s.out.gen = some Dict.empty)
      (compileProtos protoc env paths root)
      (fun _ s => L s.printed ∧ ∃ files, protoc paths root = .ok files ∧ s.out.gen = some files)
      (fun _ _ => True) := by
  unfold compileProtos
  cases protoc paths root with
  | error e =>
    exact Triple.bind (R := fun _ _ => True) (Triple.modify fun _ _ => trivial) fun _ =>
      Triple.raise fun _ _ => trivial
  | ok files =>
    refine Triple.modify fun s hs => ⟨hs.1, files, rfl, ?_⟩
    rw [hs.2]
    exact congrArg some (Dict.ext (Dict.ofList_items files.nodup))

theorem writeTree_triple (code : List Char) {gen : Option (Dict String String)} :
    Triple (fun s => L s.printed ∧ s.out.gen = gen) (writeTree env code)
      (fun _ s => L s.printed ∧ s.out.gen = gen ∧ s.out.tree = some code)
      (fun _ _ => True) := by
  unfold writeTree
  rcases env.writeError with _ | ⟨e, left⟩
  · exact Triple.modify fun s hs => ⟨hs.1, hs.2, rfl⟩
  · exact Triple.bind (R := fun _ _ => True) (Triple.modify fun _ _ => trivial) fun _ =>
      Triple.raise fun _ _ => trivial

theorem writeModuleTree_triple {printable : Char → Bool} {genDir : String}
    {files : Dict String String} :
    Triple (fun s => L s.printed ∧ s.out.gen = some files)
      (writeModuleTree printable env genDir)
      (fun _ s => L s.printed ∧ s.out.gen = some files ∧ s.out.tree =
        some (emitTree printable (Trie.ofList (generated genDir (files.items.map Prod.fst)))))
      (fun _ _ => True) := by
  refine Triple.bind (failing_triple _) fun _ => ?_
  refine Triple.bind (R := fun names s => (L s.printed ∧ s.out.gen = some files) ∧
    names = files.items.map Prod.fst) (Triple.reads fun s hs => ⟨hs, by rw [hs.2]; rfl⟩) fun names => ?_
  refine Triple.of_fact fun hnames => ?_
  rw [generateModuleTree_perm printable genDir (env.genListing_perm names)
    (hnames ▸ files.nodup), hnames]
  refine Triple.bind (R := fun result s => (L s.printed ∧ s.out.gen = some files) ∧
    result.1 = emitTree printable (Trie.ofList (generated genDir (files.items.map Prod.fst))))
    (Triple.ofExcept fun result s hresult hs => ⟨hs, by rw [← Except.ok.inj hresult]⟩) fun result => ?_
  refine Triple.of_fact fun hcode => ?_
  exact Triple.bind (writeTree_triple _) fun _ => Triple.pure fun s hs => hcode ▸ hs

theorem finish_triple {printable : Char → Bool} {genDir : String} {files : Dict String String}
    (failure : Failure) :
    Triple (fun s => L s.printed ∧ s.out.gen = some files)
      (writeModuleTree printable env genDir >>= fun generated => stopIf (generated = 0) failure)
      (fun _ s => L s.printed ∧ s.out.gen = some files ∧ s.out.tree =
        some (emitTree printable (Trie.ofList (generated genDir (files.items.map Prod.fst)))))
      (fun _ _ => True) :=
  Triple.bind writeModuleTree_triple fun _ => stopIf_triple _ _

/-- What was printed last counts. -/
theorem rustcEnv_append (name : String) (ls ls' : List Directive) :
    rustcEnv name (ls ++ ls') = (rustcEnv name ls').or (rustcEnv name ls) := by
  induction ls with
  | nil => exact (Option.or_none).symm
  | cons directive ls ih =>
    cases directive with
    | rerunIfChanged path => exact ih
    | warning text => exact ih
    | rustcEnv name' value =>
      rw [List.cons_append, rustcEnv, ih, Option.or_assoc]
      rfl

/-- The lines say this tag. -/
def Tagged (tag : String) (printed : List Directive) : Prop :=
  rustcEnv "BIMARZ_XRAY_PROTO_TAG" printed = some tag

theorem println_triple {M : List Directive → Prop} (directive : Directive)
    (h : ∀ ls, L ls → M (ls ++ [directive])) :
    Triple (fun s => L s.printed) (println directive) (fun _ s => M s.printed) (fun _ _ => True) :=
  Triple.modify fun s hs => h s.printed hs

theorem Tagged.println {tag : String} {ls : List Directive} (h : Tagged tag ls) {directive : Directive}
    (hdirective : rustcEnv "BIMARZ_XRAY_PROTO_TAG" [directive] = none) :
    Tagged tag (ls ++ [directive]) := by
  unfold Tagged
  rw [rustcEnv_append, hdirective]
  exact h

theorem readPin_readToString {pinPath tag commit : String} {pin : PinFile}
    (h : readPin pinPath (env.readToString pin) = .ok (tag, commit)) :
    (pin.assigned "XRAY_PROTO_TAG").filter (· ≠ "") = some tag := by
  unfold Answers.readToString at h
  cases hpin : env.pinError with
  | some e =>
    rw [hpin] at h
    cases h
  | none =>
    rw [hpin] at h
    obtain ⟨hne, hassigned⟩ := assigned_of_readPin h
    rw [hassigned]
    exact Option.filter_some_pos (decide_eq_true hne)

theorem announce_triple {pin : PinFile} {manifestDir : String} :
    Triple (fun _ => True) (announce pin env manifestDir)
      (fun _ s => ∃ tag, (pin.assigned "XRAY_PROTO_TAG").filter (· ≠ "") = some tag ∧
        Tagged tag s.printed) (fun _ _ => True) := by
  refine Triple.bind (R := fun _ _ => True) (Triple.modify fun _ _ => trivial) fun _ => ?_
  refine Triple.bind (R := fun _ _ => True) (Triple.modify fun _ _ => trivial) fun _ => ?_
  refine Triple.bind (R := fun read _ =>
    True ∧ (pin.assigned "XRAY_PROTO_TAG").filter (· ≠ "") = some read.1) ?_ fun read => ?_
  · exact Triple.ofExcept fun read s hread _ =>
      ⟨trivial, readPin_readToString (Effect.mapError_eq_ok_iff.mp hread)⟩
  · refine Triple.of_fact fun htag => ?_
    refine Triple.bind (println_triple (L := fun _ => True) (M := Tagged read.1) _ fun ls _ => ?_)
      fun _ => ?_
    · unfold Tagged
      rw [rustcEnv_append]
      rfl
    · exact (println_triple (M := Tagged read.1) _ fun ls hls => hls.println rfl).mono
        (fun _ s hs => ⟨read.1, htag, hs⟩) fun _ _ _ => trivial

theorem collect_triple {tag : String} {proto : Directory String} {protoRoot : String} :
    Triple (fun s => Tagged tag s.printed) (collect proto env protoRoot)
      (fun paths s => Tagged tag s.printed ∧ paths = protoPaths proto.files) (fun _ _ => True) := by
  refine Triple.bind (stopIf_triple _ _) fun _ => ?_
  refine Triple.bind (R := fun found s => Tagged tag s.printed ∧
    found.insertionSort (· ≤ ·) = protoPaths proto.files) ?_ fun found => ?_
  · exact Triple.ofExcept fun found s hfound hs =>
      ⟨hs, sort_findProtoFiles (env.listing_same proto) (Effect.mapError_eq_ok_iff.mp hfound)⟩
  · refine Triple.of_fact fun hpaths => ?_
    refine Triple.bind (stopIf_triple _ _) fun _ => ?_
    refine Triple.bind (println_triple (M := Tagged tag) _ fun ls hls => hls.println rfl) fun _ => ?_
    exact Triple.pure fun s hs => ⟨hs, hpaths⟩

/-- **A build that ends well is a clean build.** -/
theorem main_triple {printable : Char → Bool} {protoc : Protoc} {pin : PinFile}
    {proto : Directory String} :
    Triple (fun _ => True) (main printable protoc pin proto env)
      (fun _ s => ∃ outDir extension, env.outDir = some outDir ∧ s.extension = some extension ∧
        clean printable protoc outDir pin proto.files = some extension) (fun _ _ => True) := by
  refine Triple.bind ((envVar_triple _).mono (fun _ _ _ => trivial) fun _ _ _ => trivial)
    fun manifestDir => ?_
  refine Triple.bind announce_triple fun _ => ?_
  rintro s ⟨tag, htag, hs⟩
  revert s
  refine Triple.bind collect_triple fun paths => Triple.of_fact fun hpaths => ?_
  refine Triple.bind (envVar_triple _) fun outDir => Triple.of_fact fun houtDir => ?_
  refine Triple.bind wipe_triple fun _ => Triple.bind create_triple fun _ => ?_
  refine Triple.bind compileProtos_triple fun _ => ?_
  rintro s ⟨hs, files, hfiles, hgen⟩
  refine ((finish_triple _).mono ?_ fun _ _ _ => trivial) s ⟨hs, hgen⟩
  rintro - s ⟨htagged, hgen, htree⟩
  let generated := generated (join outDir genDirName) (files.items.map Prod.fst)
  refine ⟨outDir, ⟨tag, emitTree printable (Trie.ofList generated), files⟩, houtDir, ?_, ?_⟩
  · unfold Script.extension
    unfold Tagged at htagged
    rw [htagged, htree, hgen]
    rfl
  · unfold clean
    rw [htag, ← hpaths, hfiles]
    rfl

end Run

end Bimarz.Build
