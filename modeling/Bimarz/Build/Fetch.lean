import Bimarz.Build.Script
import Bimarz.Effect.Run

/-!
# Fetching the proto files (`scripts/fetch-protos.sh`), and the extension of a pin

The script clones the tag of the pin, checks the commit and puts two directories of the clone in the
place of those that a former run has left. However often the pin has been edited, files have been
fetched and the extension has been built, what a fetch and a build make after that is a function of
the pin, of the commit that it names and of the proto files that the repository holds itself.
-/

namespace Bimarz.Build

open Effect Effect.Act

/-! ## The code -/

/-- The directories that are fetched. -/
def fetched (name : String) : Bool := name = "app" || name = "common"

/-- What the surroundings of a run answer. -/
structure Fetch where
  pinFile : String
  pinMissing : Bool := false
  /-- The variables that the shell inherits. -/
  vars : String → Option String := fun _ => none
  /-- The commit that a clone of the tag has checked out. -/
  clone : String → Option String
  mkdirFails : Bool := false
  /-- `rm -rf` fails and leaves these entries. -/
  rmFails : Option (Directory String) := none
  /-- `cp -r` fails and has copied these entries. -/
  cpFails : Option (Directory String) := none

/-- A script over the directory `proto` that may `exit 1` after an error message. -/
abbrev Shell := Act String (Directory String)

def failIf (c : Prop) [Decidable c] (message : String) : Shell Unit :=
  if c then raise message else pure ()

/-- `${name:-}`. -/
def orEmpty (vars : String → Option String) (name : String) : String := (vars name).getD ""

/-- The tag and the commit after the override. -/
def target (vars : String → Option String) : Except String (String × String) :=
  if orEmpty vars "XRAY_TAG" ≠ "" then
    match vars "XRAY_PROTO_TAG" with
    | none => .error "XRAY_PROTO_TAG: unbound variable"
    | some _ => .ok (orEmpty vars "XRAY_TAG", "")
  else .ok (orEmpty vars "XRAY_PROTO_TAG", orEmpty vars "XRAY_PROTO_COMMIT")

/-- `find … -name '*.proto' | wc -l`. -/
def countProto (d : Directory String) : ℕ :=
  (d.allNames.filter fun name => ".proto".toList.isSuffixOf name.toList).length

/-- `git clone`, and `git rev-parse HEAD`. -/
def clone (env : Fetch) (tag : String) : Shell String :=
  match env.clone tag with
  | some commit => pure commit
  | none => raise s!"git clone failed for tag {tag}."

def missing (name : String) : String :=
  s!"Upstream tree is missing '{name}/' — refusing to install an incomplete proto tree."

/-- The directories `app` and `common` of the clone. -/
def required (source : Directory String) : Except String (Directory String × Directory String) :=
  match source.child? "app", source.child? "common" with
  | none, _ => .error (missing "app")
  | some _, none => .error (missing "common")
  | some app, some common =>
    if countProto app = 0 ∨ countProto common = 0 then
      .error (s!"No .proto files found under app/ ({countProto app}) or " ++
        s!"common/ ({countProto common}) — incomplete tree, aborting.")
    else .ok (app, common)

/-- `rm -rf` of the two directories. -/
def removeFetched (env : Fetch) : Shell Unit :=
  match env.rmFails with
  | some left => do
    modify fun d => (d.select fun name => !fetched name).append (left.select fetched)
    raise "rm: cannot remove"
  | none => modify fun d => d.select fun name => !fetched name

/-- The two calls of `cp -r`. -/
def copy (env : Fetch) (app common : Directory String) : Shell Unit :=
  match env.cpFails with
  | some copied => do
    modify fun d => d.append (copied.select fetched)
    raise "cp: cannot create"
  | none => modify fun d => d.append (.dir "app" app (.dir "common" common .nil))

/-- `fetch-protos.sh`, on the directory `proto`; `checkout` is the tree of a commit. -/
def fetchProtos (checkout : String → Directory String) (pin : PinFile) (env : Fetch) :
    Shell Unit := do
  failIf (env.pinMissing = true) s!"Pin file not found: {env.pinFile}"
  let (tag, commit) ← ofExcept (target (pin.source env.vars))
  failIf (tag = "") s!"XRAY_PROTO_TAG is empty in {env.pinFile}"
  let actual ← clone env tag
  failIf (commit ≠ "" ∧ actual ≠ commit) s!"Tag {tag} now points at {actual}, expected {commit}."
  let (app, common) ← ofExcept (required (checkout actual))
  failIf (env.mkdirFails = true) "mkdir: cannot create directory"
  removeFetched env
  copy env app common

/-! ## The repository over time -/

/-- A working copy: the pin, the directory `proto`, `OUT_DIR`, and the extension that is installed. -/
structure Workspace where
  pin : PinFile
  proto : Directory String
  out : OutDir := {}
  installed : Option Extension := none

inductive Event
  | edit (pin : PinFile)
  | fetch (env : Fetch)
  | build (env : Answers)

section Steps

variable (checkout : String → Directory String) (printable : Char → Bool) (protoc : Protoc)

/-- A run of the build script in a working copy. -/
def Workspace.script (w : Workspace) (env : Answers) : Except Failure Unit × Script :=
  main printable protoc w.pin w.proto env { out := w.out }

/-- A script that fails leaves the extension that is installed. -/
def step (w : Workspace) : Event → Workspace
  | .edit pin => { w with pin }
  | .fetch env => { w with proto := (fetchProtos checkout w.pin env w.proto).2 }
  | .build env =>
    let run := w.script printable protoc env
    let installed := match run.1 with
      | .ok () => run.2.extension
      | .error _ => w.installed
    { w with out := run.2.out, installed }

end Steps

/-- The files that the repository holds itself. -/
def ownFiles (proto : Directory String) : List (Directory.Path × String) :=
  (proto.select fun name => !fetched name).files

/-- The proto files of a commit, with those of the repository. -/
def pinnedFiles (checkout : String → Directory String) (own : Multiset (Directory.Path × String))
    (commit : String) : Option (Multiset (Directory.Path × String)) := do
  let app ← (checkout commit).child? "app"
  let common ← (checkout commit).child? "common"
  pure (own + (Directory.dir "app" app (.dir "common" common .nil)).files)

/-- The extension of a pin: a function of the pin and of the files of the repository. -/
def extensionOf (checkout : String → Directory String) (printable : Char → Bool) (protoc : Protoc)
    (outDir : String) (own : Multiset (Directory.Path × String)) (pin : PinFile) :
    Option Extension := do
  let commit ← pin.assigned "XRAY_PROTO_COMMIT"
  let files ← pinnedFiles checkout own commit
  clean printable protoc outDir pin files

/-! ## One fetch -/

theorem ownFiles_append (d d' : Directory String) :
    ownFiles (d.append d') = ownFiles d ++ ownFiles d' := by
  unfold ownFiles
  rw [Directory.files_select, Directory.files_append, List.filter_append, ← Directory.files_select,
    ← Directory.files_select]

theorem ownFiles_select_own (d : Directory String) :
    ownFiles (d.select fun name => !fetched name) = ownFiles d := by
  unfold ownFiles
  rw [Directory.files_select, Directory.files_select, List.filter_filter]
  simp

theorem ownFiles_select_fetched (d : Directory String) : ownFiles (d.select fetched) = [] := by
  unfold ownFiles
  rw [Directory.files_select, Directory.files_select, List.filter_filter]
  refine List.filter_eq_nil_iff.mpr fun f _ => ?_
  cases f.1.head? with
  | none => exact Bool.false_ne_true
  | some name => simp

/-- A script that fetches leaves the files of the repository as they are. -/
theorem frames_fetchProtos (checkout : String → Directory String) (pin : PinFile) (env : Fetch) :
    Frames ownFiles (fetchProtos checkout pin env) := by
  have hfail (c : Prop) [Decidable c] (message : String) : Frames ownFiles (failIf c message) :=
    Frames.ite (Frames.raise _) (Frames.pure ())
  refine Frames.bind (hfail _ _) fun _ => Frames.bind (Frames.ofExcept _) fun read => ?_
  refine Frames.bind (hfail _ _) fun _ => Frames.bind ?_ fun actual => ?_
  · unfold clone
    split
    · exact Frames.pure _
    · exact Frames.raise _
  refine Frames.bind (hfail _ _) fun _ => Frames.bind (Frames.ofExcept _) fun found => ?_
  refine Frames.bind (hfail _ _) fun _ => Frames.bind ?_ fun _ => ?_
  · unfold removeFetched
    split
    · refine Frames.bind (Frames.modify fun d => ?_) fun _ => Frames.raise _
      rw [ownFiles_append, ownFiles_select_own, ownFiles_select_fetched, List.append_nil]
    · exact Frames.modify fun d => ownFiles_select_own d
  · unfold copy
    split
    · refine Frames.bind (Frames.modify fun d => ?_) fun _ => Frames.raise _
      rw [ownFiles_append, ownFiles_select_fetched, List.append_nil]
    · refine Frames.modify fun d => ?_
      rw [ownFiles_append]
      exact List.append_nil _

/-- Without an override, what is compared with the clone is the commit of the pin. -/
theorem target_ok {pin : PinFile} {vars : String → Option String} {tag commit pinned : String}
    (hpinned : pin.assigned "XRAY_PROTO_COMMIT" = some pinned)
    (hoverride : orEmpty (pin.source vars) "XRAY_TAG" = "")
    (h : target (pin.source vars) = .ok (tag, commit)) : commit = pinned := by
  unfold target at h
  rw [if_neg (not_not_intro hoverride)] at h
  obtain rfl : orEmpty (pin.source vars) "XRAY_PROTO_COMMIT" = commit :=
    congrArg Prod.snd (Except.ok.inj h)
  unfold orEmpty
  rw [pin.source_eq, hpinned]
  rfl

theorem required_ok {source app common : Directory String}
    (h : required source = .ok (app, common)) :
    source.child? "app" = some app ∧ source.child? "common" = some common := by
  unfold required at h
  split at h
  · cases h
  · cases h
  next app' common' happ hcommon =>
    obtain ⟨-, hok⟩ := Effect.check_eq_ok_iff.mp h
    cases hok
    exact ⟨happ, hcommon⟩

/-- What a fetch that ends well has put into the directory. -/
theorem fetchProtos_triple {checkout : String → Directory String} {pin : PinFile} {env : Fetch}
    {pinned : String} {d : Directory String}
    (hpinned : pin.assigned "XRAY_PROTO_COMMIT" = some pinned) (hne : pinned ≠ "")
    (hoverride : orEmpty (pin.source env.vars) "XRAY_TAG" = "") :
    Triple (fun d' => d' = d) (fetchProtos checkout pin env)
      (fun _ d' => pinnedFiles checkout (ownFiles d) pinned = some (d'.files : Multiset _))
      (fun _ _ => True) := by
  have hfail {P : Directory String → Prop} (c : Prop) [Decidable c] (message : String) :
      Triple P (failIf c message) (fun _ d' => P d' ∧ ¬c) (fun _ _ => True) :=
    Triple.ite (fun _ => Triple.raise fun _ _ => trivial) fun hc => Triple.pure fun _ hs => ⟨hs, hc⟩
  refine Triple.bind (hfail _ _) fun _ => Triple.of_fact fun _ => ?_
  refine Triple.bind (R := fun read d' => d' = d ∧ read.2 = pinned)
    (Triple.ofExcept fun read d' hread hd => ⟨hd, target_ok hpinned hoverride hread⟩) fun read => ?_
  refine Triple.of_fact fun hcommit => ?_
  refine Triple.bind (hfail _ _) fun _ => Triple.of_fact fun _ => ?_
  refine Triple.bind (R := fun _ d' => d' = d) ?_ fun actual => ?_
  · unfold clone
    split
    · exact Triple.pure fun _ hd => hd
    · exact Triple.raise fun _ _ => trivial
  refine Triple.bind (hfail _ _) fun _ => Triple.of_fact fun hactual => ?_
  obtain rfl : actual = pinned := by
    rw [hcommit] at hactual
    exact of_not_not fun h => hactual ⟨hne, h⟩
  refine Triple.bind (R := fun found d' => d' = d ∧
    required (checkout actual) = .ok found)
    (Triple.ofExcept fun found d' hfound hd => ⟨hd, hfound⟩) fun found => ?_
  refine Triple.of_fact fun hrequired => ?_
  obtain ⟨happ, hcommon⟩ := required_ok hrequired
  refine Triple.bind (hfail _ _) fun _ => Triple.of_fact fun _ => ?_
  refine Triple.bind (R := fun _ d' => d' = d.select fun name => !fetched name) ?_ fun _ => ?_
  · unfold removeFetched
    split
    · exact Triple.bind (R := fun _ _ => True) (Triple.modify fun _ _ => trivial) fun _ =>
        Triple.raise fun _ _ => trivial
    · exact Triple.modify fun d' hd => by rw [hd]
  · unfold copy
    split
    · exact Triple.bind (R := fun _ _ => True) (Triple.modify fun _ _ => trivial) fun _ =>
        Triple.raise fun _ _ => trivial
    · refine Triple.modify fun d' hd => ?_
      unfold pinnedFiles
      rw [happ, hcommon, hd, Directory.files_append]
      rfl

/-! ## Every history -/

section Runs

variable {checkout : String → Directory String} {printable : Char → Bool} {protoc : Protoc}

/-- Whatever is done in a working copy, the files of the repository stay. -/
theorem ownFiles_runAll (w : Workspace) (events : List Event) :
    ownFiles (runAll (step checkout printable protoc) w events).proto = ownFiles w.proto := by
  refine runAll_invariant (I := fun w' : Workspace => ownFiles w'.proto = ownFiles w.proto)
    (fun w' event hown => ?_) rfl events
  cases event with
  | edit pin => exact hown
  | fetch env => exact (frames_fetchProtos checkout w'.pin env w'.proto).trans hown
  | build env => exact hown

/-- A build, well or not, leaves the pin and the proto files as they are. -/
theorem runAll_builds (w : Workspace) (builds : List Answers) :
    (runAll (step checkout printable protoc) w (builds.map .build)).pin = w.pin ∧
      (runAll (step checkout printable protoc) w (builds.map .build)).proto = w.proto := by
  induction builds generalizing w with
  | nil => exact ⟨rfl, rfl⟩
  | cons build builds ih => exact ih (step checkout printable protoc w (.build build))

/-- What a build that ends well installs. -/
theorem installed_of_build {w : Workspace} {build : Answers}
    (hbuild : (w.script printable protoc build).1 = .ok ()) :
    ∃ outDir extension, build.outDir = some outDir ∧
      (step checkout printable protoc w (.build build)).installed = some extension ∧
      clean printable protoc outDir w.pin w.proto.files = some extension := by
  rcases hrun : w.script printable protoc build with ⟨result, s⟩
  rw [hrun] at hbuild
  obtain rfl : result = .ok () := hbuild
  obtain ⟨outDir, extension, houtDir, hextension, hclean⟩ := main_triple.of_ok trivial hrun
  refine ⟨outDir, extension, houtDir, ?_, hclean⟩
  simp only [step, hrun]
  exact hextension

end Runs

/-! ### An example -/

/-- A pin as it stands in the repository. -/
def samplePin : PinFile := [
  .comment [] " Git tag of the release.".toList (List.forall_mem_nil _) (by decide),
  .assign "XRAY_PROTO_TAG".toList "v1.8.24".toList (by decide) (List.all_eq_true.mp rfl),
  .blank [] (List.forall_mem_nil _),
  .assign "XRAY_PROTO_COMMIT".toList "6baad79f".toList (by decide) (List.all_eq_true.mp rfl)]

def sampleTree : Directory String :=
  .dir "app" (.file "config.proto" "" .nil) (.dir "common" (.file "net.proto" "" .nil) .nil)

def sampleProtoc : Protoc := fun _ _ =>
  .ok (Dict.ofList [("xray.app.rs", ""), ("xray.common.rs", "")])

def sampleFetch : Fetch where
  pinFile := "engine-core/xray-proto-pin.env"
  clone tag := if tag = "v1.8.24" then some "6baad79f" else none

def sampleBuild : Answers where
  manifestDir := some "engine-core"
  outDir := some "out"

def sampleWorkspace : Workspace where
  pin := []
  proto := .dir "core" (.file "config.proto" "" .nil) .nil

end Bimarz.Build
