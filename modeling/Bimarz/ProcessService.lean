import Bimarz.Effect.Run
import Bimarz.Exceptions

/-!
# Starting the process of a connection (`services/process.py`)

`start` takes a directory, a file, a process and two threads one after the other, and any of these
steps may raise. What its `except` block gives back is the directory alone. `all_or_nothing_iff`
says when that is enough: a thread that cannot be created or started leaves a process running that
nobody owns.
-/

namespace Bimarz.ProcessService

open Effect Effect.Act

/-! ## The host -/

/-- The processes that run, the temporary directories, and their files `connect-runtime.json`.
A number is never used twice. -/
structure Host where
  running : List ℕ
  directories : List ℕ
  configs : ℕ → Option String
  fresh : ℕ
  running_lt : ∀ pid ∈ running, pid < fresh
  directories_lt : ∀ dir ∈ directories, dir < fresh

namespace Host

variable (h : Host)

def mkdtemp : Host where
  running := h.running
  directories := h.directories ++ [h.fresh]
  configs := fun dir => if dir = h.fresh then none else h.configs dir
  fresh := h.fresh + 1
  running_lt pid hpid := Nat.lt_succ_of_lt (h.running_lt pid hpid)
  directories_lt := by
    intro dir hdir
    rcases List.mem_append.mp hdir with hold | hnew
    · exact Nat.lt_succ_of_lt (h.directories_lt dir hold)
    · rw [List.mem_singleton.mp hnew]
      exact Nat.lt_succ_self _

def write (dir : ℕ) (text : Option String) : Host :=
  { h with configs := fun dir' => if dir' = dir then text else h.configs dir' }

def spawn : Host where
  running := h.running ++ [h.fresh]
  directories := h.directories
  configs := h.configs
  fresh := h.fresh + 1
  running_lt := by
    intro pid hpid
    rcases List.mem_append.mp hpid with hold | hnew
    · exact Nat.lt_succ_of_lt (h.running_lt pid hold)
    · rw [List.mem_singleton.mp hnew]
      exact Nat.lt_succ_self _
  directories_lt dir hdir := Nat.lt_succ_of_lt (h.directories_lt dir hdir)

theorem write_self (dir : ℕ) : h.write dir (h.configs dir) = h := by
  have hconfigs : (fun dir' => if dir' = dir then h.configs dir else h.configs dir') =
      h.configs := by
    funext dir'
    split
    next heq => rw [heq]
    next => rfl
  unfold write
  rw [hconfigs]

def remove (dir : ℕ) : Host where
  running := h.running
  directories := h.directories.filter fun dir' => dir' ≠ dir
  configs := fun dir' => if dir' = dir then none else h.configs dir'
  fresh := h.fresh
  running_lt := h.running_lt
  directories_lt dir' hdir' := h.directories_lt dir' (List.mem_filter.mp hdir').1

end Host

/-! ## The code -/

/-- An `XrayProcess` on the configuration of a directory. -/
structure XrayProcess where
  binaryPath : String
  configDir : ℕ
  pid : Option ℕ
  stdoutThread : Bool
  stderrThread : Bool

/-- `XrayProcess.__init__`. -/
def XrayProcess.new (binaryPath : String) (configDir : ℕ) : XrayProcess :=
  ⟨binaryPath, configDir, none, false, false⟩

/-- A service with its fields `_proc` and `_runtime_dir`, on a host. -/
structure World where
  host : Host
  proc : Option XrayProcess
  runtimeDir : Option ℕ

/-- The steps that may raise. -/
inductive Step
  | lookup
  | directory
  | build
  | write
  | chmod
  | factory
  | spawn
  | stdoutThread
  | stderrThread
  | startStdout
  | startStderr
  | cleanup
  deriving DecidableEq

/-- What a call meets. -/
structure Env where
  fault : Step → Option Exc
  exceptions : ∀ step e, fault step = some e → e.isException = true
  /-- the result of `binary_finder` -/
  binary : Option String
  /-- the result of `config_builder` -/
  config : String
  /-- the file after a `write_text` that raises -/
  written : Option String

section Code

variable (env : Env)

def step (s : Step) : Act Exc World Unit :=
  match env.fault s with
  | some e => raise e
  | none => pure ()

def onHost (f : Host → Host) : Act Exc World Unit := modify fun w => { w with host := f w.host }

/-- `config_path.write_text`. -/
def writeText (dir : ℕ) : Act Exc World Unit := do
  match env.fault .write with
  | some e =>
    onHost fun h => h.write dir env.written
    raise e
  | none => onHost fun h => h.write dir (some env.config)

/-- `except OSError as exc: raise ProcessStartError(..)`. -/
def startError : Exc → Exc
  | .error .osError message => .error .other s!"could not start xray-core: {message}"
  | e => e

/-- `subprocess.Popen`. -/
def popen : Act Exc World ℕ := do
  mapError startError (step env .spawn)
  let pid ← reads fun w => w.host.fresh
  onHost Host.spawn
  return pid

/-- `XrayProcess.start`. -/
def xrayStart (proc : XrayProcess) : Act Exc World XrayProcess := do
  let running ← reads fun w => w.host.running
  match proc.pid.filter fun pid => running.contains pid with
  | some pid => raise (.error .other s!"xray-core is already running with PID {pid}")
  | none => do
    let pid ← popen env
    step env .stdoutThread
    step env .stderrThread
    step env .startStdout
    step env .startStderr
    return { proc with pid := some pid, stdoutThread := true, stderrThread := true }

/-- The `try` block of `start`. -/
def acquire (binary : String) (dir : ℕ) : Act Exc World XrayProcess := do
  step env .build
  writeText env dir
  handle Exc.isException (step env .chmod) fun _ => pure ()
  step env .factory
  let proc ← xrayStart env (XrayProcess.new binary dir)
  modify fun w => { w with proc := some proc }
  return proc

def cleanupRuntime : Act Exc World Unit := do
  let runtimeDir ← reads World.runtimeDir
  modify fun w => { w with runtimeDir := none }
  match runtimeDir with
  | some dir =>
    step env .cleanup
    onHost fun h => h.remove dir
  | none => pure ()

/-- `ProcessService.start`. -/
def start : Act Exc World XrayProcess := do
  match ← reads World.proc with
  | some proc => return proc
  | none => do
    step env .lookup
    match env.binary with
    | none => raise (.error .binaryNotFound "xray-core binary not found")
    | some binary => do
      step env .directory
      let dir ← reads fun w => w.host.fresh
      modify fun w => { w with host := w.host.mkdtemp, runtimeDir := some dir }
      handle Exc.isException (acquire env binary dir) fun e => do
        modify fun w => { w with proc := none }
        cleanupRuntime env
        raise e

end Code

/-! ## All or nothing -/

/-- No process and no directory that was not there before, and the service owns neither. -/
structure Undone (w w' : World) : Prop where
  running : ∀ pid ∈ w'.host.running, pid ∈ w.host.running
  directories : ∀ dir ∈ w'.host.directories, dir ∈ w.host.directories
  proc : w'.proc = none
  runtimeDir : w'.runtimeDir = none

/-- The service owns the process, and the configuration of the process is there. -/
structure Owns (w : World) (proc : XrayProcess) (config : String) : Prop where
  owned : w.proc = some proc
  directory : proc.configDir ∈ w.host.directories
  config : w.host.configs proc.configDir = some config

/-- Further calls of `start`. -/
def restart (w : World) (env : Env) : World := (start env w).2

/-- A call of `start` that raises has undone what it did; a process that it returns is owned, with
its configuration, until `stop` is called. -/
def AllOrNothing (env : Env) (w : World) : Prop :=
  match start env w with
  | (.ok proc, w') => ∀ envs, Owns (runAll restart w' envs) proc env.config
  | (.error _, w') => Undone w w'

/-- How a call fails. -/
inductive Failure
  /-- before the service has a directory -/
  | early
  /-- between the directory and the process -/
  | inside
  /-- between the process and its threads -/
  | late
  deriving DecidableEq

/-- The steps of the `try` block before the process is there. -/
def insideSteps : List Step := [.build, .write, .factory, .spawn]

/-- The steps after it. -/
def lateSteps : List Step := [.stdoutThread, .stderrThread, .startStdout, .startStderr]

/-- Where a call fails, if it does. -/
def Env.failure (env : Env) : Option Failure :=
  if env.fault .lookup ≠ none ∨ env.binary = none ∨ env.fault .directory ≠ none then some .early
  else if ∃ step ∈ insideSteps, env.fault step ≠ none then some .inside
  else if ∃ step ∈ lateSteps, env.fault step ≠ none then some .late
  else none

/-- No thread fails; a service without a process holds no directory if the call does not get to its
own; and a directory that has to be removed can be removed. -/
def Env.Contained (env : Env) (w : World) : Prop :=
  match env.failure with
  | none => True
  | some .early => w.runtimeDir = none
  | some .inside => env.fault .cleanup = none
  | some .late => False

/-! ## The steps -/

section Steps

variable {env : Env} {w : World}

theorem step_none {s : Step} (h : env.fault s = none) : step env s w = (.ok (), w) := by
  unfold step
  rw [h]
  rfl

theorem step_some {s : Step} {e : Exc} (h : env.fault s = some e) :
    step env s w = (.error e, w) := by
  unfold step
  rw [h]
  rfl

theorem startError_isException {e : Exc} (h : e.isException = true) :
    (startError e).isException = true := by
  cases e with
  | error kind message =>
    cases kind with
    | osError => rfl
    | runtimeError | notImplementedError | valueError | typeError | keyError | overflowError
    | timeoutError | engineNotBuilt | binaryNotFound | killSwitchTriggered | other => rfl
  | cancelled | keyboardInterrupt => cases h

theorem popen_none (h : env.fault .spawn = none) :
    popen env w = (.ok w.host.fresh, { w with host := w.host.spawn }) := by
  unfold popen
  rw [bind_ok (mapError_ok (step_none h))]
  rfl

theorem popen_some {e : Exc} (h : env.fault .spawn = some e) :
    popen env w = (.error (startError e), w) := by
  unfold popen
  rw [bind_error (mapError_error (step_some h))]

theorem writeText_none (h : env.fault .write = none) (dir : ℕ) :
    writeText env dir w = (.ok (), { w with host := w.host.write dir (some env.config) }) := by
  unfold writeText
  rw [h]
  rfl

theorem writeText_some {e : Exc} (h : env.fault .write = some e) (dir : ℕ) :
    writeText env dir w = (.error e, { w with host := w.host.write dir env.written }) := by
  unfold writeText
  rw [h]
  rfl

/-- `contextlib.suppress(Exception)`. -/
theorem chmod_suppressed :
    handle Exc.isException (step env .chmod) (fun _ => pure ()) w = (.ok (), w) := by
  cases h : env.fault .chmod with
  | none => exact handle_ok (step_none h)
  | some e => rw [handle_caught (step_some h) (env.exceptions _ _ h), pure_apply]

theorem cleanup_none {dir : ℕ} (hdir : w.runtimeDir = some dir) (h : env.fault .cleanup = none) :
    cleanupRuntime env w =
      (.ok (), { w with host := w.host.remove dir, runtimeDir := none }) := by
  unfold cleanupRuntime
  rw [reads_bind_apply, modify_bind_apply, hdir]
  exact bind_ok (step_none h)

theorem cleanup_some {dir : ℕ} {e : Exc} (hdir : w.runtimeDir = some dir)
    (h : env.fault .cleanup = some e) :
    cleanupRuntime env w = (.error e, { w with runtimeDir := none }) := by
  unfold cleanupRuntime
  rw [reads_bind_apply, modify_bind_apply, hdir]
  exact bind_error (step_some h)

/-- The process once it has been spawned and its threads are there. -/
def started (proc : XrayProcess) (pid : ℕ) : XrayProcess :=
  { proc with pid := some pid, stdoutThread := true, stderrThread := true }

theorem xrayStart_eq (binary : String) (dir : ℕ) :
    xrayStart env (XrayProcess.new binary dir) w = (do
      let pid ← popen env
      step env .stdoutThread
      step env .stderrThread
      step env .startStdout
      step env .startStderr
      return started (XrayProcess.new binary dir) pid) w := rfl

theorem xrayStart_unspawned {e : Exc} (hspawn : env.fault .spawn = some e) (binary : String)
    (dir : ℕ) :
    xrayStart env (XrayProcess.new binary dir) w = (.error (startError e), w) := by
  rw [xrayStart_eq]
  exact bind_error (popen_some hspawn)

/-- A thread that fails leaves the process running. -/
theorem xrayStart_late (hspawn : env.fault .spawn = none)
    (h : ∃ step ∈ lateSteps, env.fault step ≠ none) (binary : String) (dir : ℕ) :
    ∃ e, e.isException = true ∧ xrayStart env (XrayProcess.new binary dir) w =
      (.error e, { w with host := w.host.spawn }) := by
  rw [xrayStart_eq, bind_ok (popen_none hspawn)]
  cases hstdout : env.fault .stdoutThread with
  | some e => exact ⟨e, env.exceptions _ _ hstdout, bind_error (step_some hstdout)⟩
  | none =>
  rw [bind_ok (step_none hstdout)]
  cases hstderr : env.fault .stderrThread with
  | some e => exact ⟨e, env.exceptions _ _ hstderr, bind_error (step_some hstderr)⟩
  | none =>
  rw [bind_ok (step_none hstderr)]
  cases hstartStdout : env.fault .startStdout with
  | some e => exact ⟨e, env.exceptions _ _ hstartStdout, bind_error (step_some hstartStdout)⟩
  | none =>
  rw [bind_ok (step_none hstartStdout)]
  cases hstartStderr : env.fault .startStderr with
  | some e => exact ⟨e, env.exceptions _ _ hstartStderr, bind_error (step_some hstartStderr)⟩
  | none =>
    simp [lateSteps, hstdout, hstderr, hstartStdout, hstartStderr] at h

theorem xrayStart_ok (hspawn : env.fault .spawn = none)
    (h : ∀ step ∈ lateSteps, env.fault step = none) (binary : String) (dir : ℕ) :
    xrayStart env (XrayProcess.new binary dir) w =
      (.ok (started (XrayProcess.new binary dir) w.host.fresh),
        { w with host := w.host.spawn }) := by
  simp only [lateSteps, List.forall_mem_cons] at h
  obtain ⟨hstdout, hstderr, hstartStdout, hstartStderr, -⟩ := h
  rw [xrayStart_eq, bind_ok (popen_none hspawn), bind_ok (step_none hstdout),
    bind_ok (step_none hstderr), bind_ok (step_none hstartStdout),
    bind_ok (step_none hstartStderr)]
  rfl

/-! ## The `try` block -/

/-- The block fails before the process is there: the file is all that it has written. -/
theorem acquire_inside (h : ∃ step ∈ insideSteps, env.fault step ≠ none) (binary : String)
    (dir : ℕ) :
    ∃ e text, e.isException = true ∧ acquire env binary dir w =
      (.error e, { w with host := w.host.write dir text }) := by
  unfold acquire
  cases hbuild : env.fault .build with
  | some e =>
    refine ⟨e, w.host.configs dir, env.exceptions _ _ hbuild, ?_⟩
    rw [bind_error (step_some hbuild), Host.write_self]
  | none =>
  rw [bind_ok (step_none hbuild)]
  cases hwrite : env.fault .write with
  | some e => exact ⟨e, env.written, env.exceptions _ _ hwrite, bind_error (writeText_some hwrite dir)⟩
  | none =>
  rw [bind_ok (writeText_none hwrite dir), bind_ok chmod_suppressed]
  cases hfactory : env.fault .factory with
  | some e =>
    exact ⟨e, _, env.exceptions _ _ hfactory, bind_error (step_some hfactory)⟩
  | none =>
  rw [bind_ok (step_none hfactory)]
  cases hspawn : env.fault .spawn with
  | some e =>
    exact ⟨startError e, some env.config, startError_isException (env.exceptions _ _ hspawn),
      bind_error (xrayStart_unspawned hspawn binary dir)⟩
  | none => simp [insideSteps, hbuild, hwrite, hfactory, hspawn] at h

/-- The host once everything is there. -/
def Host.filled (h : Host) (dir : ℕ) (config : String) : Host := (h.write dir (some config)).spawn

theorem acquire_run (h : ∀ step ∈ insideSteps, env.fault step = none) (binary : String)
    (dir : ℕ) :
    acquire env binary dir w = (do
      let proc ← xrayStart env (XrayProcess.new binary dir)
      modify fun w => { w with proc := some proc }
      return proc) { w with host := w.host.write dir (some env.config) } := by
  simp only [insideSteps, List.forall_mem_cons] at h
  obtain ⟨hbuild, hwrite, hfactory, -, -⟩ := h
  unfold acquire
  rw [bind_ok (step_none hbuild), bind_ok (writeText_none hwrite dir), bind_ok chmod_suppressed,
    bind_ok (step_none hfactory)]

theorem spawn_none (h : ∀ step ∈ insideSteps, env.fault step = none) : env.fault .spawn = none :=
  h .spawn (by decide)

/-- The block fails with the process running. -/
theorem acquire_late (hinside : ∀ step ∈ insideSteps, env.fault step = none)
    (h : ∃ step ∈ lateSteps, env.fault step ≠ none) (binary : String) (dir : ℕ) :
    ∃ e, e.isException = true ∧ acquire env binary dir w =
      (.error e, { w with host := w.host.filled dir env.config }) := by
  obtain ⟨e, he, hrun⟩ := xrayStart_late
    (w := { w with host := w.host.write dir (some env.config) }) (spawn_none hinside) h binary dir
  exact ⟨e, he, (acquire_run hinside binary dir).trans (bind_error hrun)⟩

theorem acquire_ok (hinside : ∀ step ∈ insideSteps, env.fault step = none)
    (h : ∀ step ∈ lateSteps, env.fault step = none) (binary : String) (dir : ℕ) :
    ∃ proc : XrayProcess, proc.configDir = dir ∧ acquire env binary dir w =
      (.ok proc, { w with host := w.host.filled dir env.config, proc := some proc }) :=
  ⟨_, rfl, (acquire_run hinside binary dir).trans
    (bind_ok (xrayStart_ok (spawn_none hinside) h binary dir))⟩

/-! ## A whole call -/

theorem start_owned {proc : XrayProcess} (hproc : w.proc = some proc) :
    start env w = (.ok proc, w) := by
  unfold start
  rw [reads_bind_apply, hproc]
  rfl

/-- A call that fails before it has a directory changes nothing. -/
theorem start_early (hproc : w.proc = none)
    (h : env.fault .lookup ≠ none ∨ env.binary = none ∨ env.fault .directory ≠ none) :
    ∃ e, start env w = (.error e, w) := by
  unfold start
  rw [reads_bind_apply, hproc]
  cases hlookup : env.fault .lookup with
  | some e => exact ⟨e, bind_error (step_some hlookup)⟩
  | none =>
  cases hbinary : env.binary with
  | none => exact ⟨_, bind_ok (step_none hlookup)⟩
  | some binary =>
  cases hdirectory : env.fault .directory with
  | some e => exact ⟨e, (bind_ok (step_none hlookup)).trans (bind_error (step_some hdirectory))⟩
  | none => simp [hlookup, hbinary, hdirectory] at h

/-- The service with its new directory. -/
def World.prepared (w : World) : World :=
  { w with host := w.host.mkdtemp, runtimeDir := some w.host.fresh }

/-- The `except` block. -/
def takeBack (env : Env) (e : Exc) : Act Exc World XrayProcess := do
  modify fun w => { w with proc := none }
  cleanupRuntime env
  raise e

theorem start_begun (hproc : w.proc = none) (hlookup : env.fault .lookup = none) {binary : String}
    (hbinary : env.binary = some binary) (hdirectory : env.fault .directory = none) :
    start env w =
      handle Exc.isException (acquire env binary w.host.fresh) (takeBack env) w.prepared := by
  unfold start
  rw [reads_bind_apply, hproc]
  refine (bind_ok (step_none hlookup)).trans ?_
  rw [hbinary]
  exact bind_ok (step_none hdirectory)

/-- What is left when the block has failed and the directory could be removed. -/
theorem takeBack_none {dir : ℕ} (hdir : w.runtimeDir = some dir) (h : env.fault .cleanup = none)
    (e : Exc) :
    takeBack env e w = (.error e, ⟨w.host.remove dir, none, none⟩) := by
  have hrun : cleanupRuntime env { w with proc := none } =
      (.ok (), ⟨w.host.remove dir, none, none⟩) := cleanup_none hdir h
  unfold takeBack
  rw [modify_bind_apply]
  exact bind_ok hrun

theorem takeBack_some {dir : ℕ} {e' : Exc} (hdir : w.runtimeDir = some dir)
    (h : env.fault .cleanup = some e') (e : Exc) :
    takeBack env e w = (.error e', ⟨w.host, none, none⟩) := by
  have hrun : cleanupRuntime env { w with proc := none } = (.error e', ⟨w.host, none, none⟩) :=
    cleanup_some hdir h
  unfold takeBack
  rw [modify_bind_apply]
  exact bind_error hrun

theorem fresh_not_running (h : Host) : h.fresh + 1 ∉ h.running := fun hmem =>
  absurd (h.running_lt _ hmem) (by omega)

theorem fresh_not_directory (h : Host) : h.fresh ∉ h.directories := fun hmem =>
  absurd (h.directories_lt _ hmem) (Nat.lt_irrefl _)

/-- The directory that the call took is the only one to go. -/
theorem directories_removed (h : Host) :
    ∀ dir ∈ (h.directories ++ [h.fresh]).filter fun dir' => dir' ≠ h.fresh, dir ∈ h.directories := by
  intro dir hdir
  obtain ⟨hmem, hne⟩ := List.mem_filter.mp hdir
  rcases List.mem_append.mp hmem with hold | hnew
  · exact hold
  · exact absurd (List.mem_singleton.mp hnew) (of_decide_eq_true hne)

theorem restart_owns {proc : XrayProcess} {config : String} (h : Owns w proc config)
    (envs : List Env) : Owns (runAll restart w envs) proc config := by
  refine runAll_invariant (I := fun w => Owns w proc config) (fun w env h => ?_) h envs
  unfold restart
  rw [start_owned h.owned]
  exact h

theorem allOrNothing_early (hproc : w.proc = none)
    (h : env.fault .lookup ≠ none ∨ env.binary = none ∨ env.fault .directory ≠ none) :
    AllOrNothing env w ↔ w.runtimeDir = none := by
  obtain ⟨e, hstart⟩ := start_early hproc h
  unfold AllOrNothing
  rw [hstart]
  constructor
  · exact Undone.runtimeDir
  · exact fun hdir => ⟨fun _ => id, fun _ => id, hproc, hdir⟩

section Begun

variable {binary : String}

theorem allOrNothing_inside (hproc : w.proc = none) (hlookup : env.fault .lookup = none)
    (hbinary : env.binary = some binary) (hdirectory : env.fault .directory = none)
    (h : ∃ step ∈ insideSteps, env.fault step ≠ none) :
    AllOrNothing env w ↔ env.fault .cleanup = none := by
  obtain ⟨e, text, he, hrun⟩ := acquire_inside (w := w.prepared) h binary w.host.fresh
  have hstart := start_begun hproc hlookup hbinary hdirectory
  rw [handle_caught hrun he] at hstart
  unfold AllOrNothing
  cases hcleanup : env.fault .cleanup with
  | none =>
    rw [hstart, takeBack_none rfl hcleanup]
    exact iff_of_true ⟨fun _ => id, directories_removed w.host, rfl, rfl⟩ rfl
  | some e' =>
    rw [hstart, takeBack_some rfl hcleanup]
    refine iff_of_false (fun hundone => ?_) nofun
    have hmem : w.host.fresh ∈ w.host.directories ++ [w.host.fresh] :=
      List.mem_append_right _ (List.mem_singleton_self _)
    exact fresh_not_directory w.host (hundone.directories _ hmem)

theorem allOrNothing_late (hproc : w.proc = none) (hlookup : env.fault .lookup = none)
    (hbinary : env.binary = some binary) (hdirectory : env.fault .directory = none)
    (hinside : ∀ step ∈ insideSteps, env.fault step = none)
    (h : ∃ step ∈ lateSteps, env.fault step ≠ none) : ¬AllOrNothing env w := by
  obtain ⟨e, he, hrun⟩ := acquire_late (w := w.prepared) hinside h binary w.host.fresh
  have hstart := start_begun hproc hlookup hbinary hdirectory
  rw [handle_caught hrun he] at hstart
  have hmem : w.host.fresh + 1 ∈ w.host.running ++ [w.host.fresh + 1] :=
    List.mem_append_right _ (List.mem_singleton_self _)
  unfold AllOrNothing
  cases hcleanup : env.fault .cleanup with
  | none =>
    rw [hstart, takeBack_none rfl hcleanup]
    exact fun hundone => fresh_not_running w.host (hundone.running _ hmem)
  | some e' =>
    rw [hstart, takeBack_some rfl hcleanup]
    exact fun hundone => fresh_not_running w.host (hundone.running _ hmem)

theorem allOrNothing_none (hproc : w.proc = none) (hlookup : env.fault .lookup = none)
    (hbinary : env.binary = some binary) (hdirectory : env.fault .directory = none)
    (hinside : ∀ step ∈ insideSteps, env.fault step = none)
    (hlate : ∀ step ∈ lateSteps, env.fault step = none) : AllOrNothing env w := by
  obtain ⟨proc, hdir, hrun⟩ := acquire_ok (w := w.prepared) hinside hlate binary w.host.fresh
  have hstart := start_begun hproc hlookup hbinary hdirectory
  rw [handle_ok hrun] at hstart
  unfold AllOrNothing
  rw [hstart]
  refine restart_owns ⟨rfl, ?_, ?_⟩
  · rw [hdir]
    exact List.mem_append_right _ (List.mem_singleton_self _)
  · rw [hdir]
    exact if_pos rfl

end Begun

/-- **When `start` is all or nothing.** -/
theorem all_or_nothing_iff (env : Env) (hproc : w.proc = none) :
    AllOrNothing env w ↔ env.Contained w := by
  unfold Env.Contained Env.failure
  split_ifs with hearly hinside hlate
  · exact allOrNothing_early hproc hearly
  all_goals
    simp only [not_or, not_not] at hearly
    obtain ⟨hlookup, hbinary, hdirectory⟩ := hearly
    obtain ⟨binary, hbinary⟩ := Option.ne_none_iff_exists'.mp hbinary
  · exact allOrNothing_inside hproc hlookup hbinary hdirectory hinside
  · simp only [not_exists, not_and, not_not] at hinside
    exact iff_of_false (allOrNothing_late hproc hlookup hbinary hdirectory hinside hlate) id
  · simp only [not_exists, not_and, not_not] at hinside hlate
    exact iff_of_true (allOrNothing_none hproc hlookup hbinary hdirectory hinside hlate) trivial

end Steps

/-! ## Examples -/

/-- A call in which one step raises. -/
def failing (s : Step) : Env where
  fault step := if step = s then some (.error .runtimeError "can't start new thread") else none
  exceptions := by
    intro step e h
    split at h
    · cases h
      rfl
    · cases h
  binary := some "xray"
  config := "{}"
  written := none

/-- A new service on a host on which nothing runs. -/
def idle : World := ⟨⟨[], [], fun _ => none, 0, nofun, nofun⟩, none, none⟩

/-- A factory that raises. -/
theorem factory_contained : AllOrNothing (failing .factory) idle := by
  have hfailure : (failing .factory).failure = some .inside := by decide
  rw [all_or_nothing_iff (failing .factory) rfl, Env.Contained, hfailure]
  rfl

/-- The thread for `stdout` cannot be started, and xray-core runs on. -/
theorem thread_not_contained :
    ¬AllOrNothing (failing .startStdout) idle ∧
      (start (failing .startStdout) idle).2.host.running = [1] := by
  refine ⟨?_, rfl⟩
  refine allOrNothing_late (w := idle) rfl rfl rfl rfl ?_ ?_
  · decide
  · exact ⟨.startStdout, by decide, nofun⟩

end Bimarz.ProcessService
