import Bimarz.Effect.Triple
import Bimarz.Text.Utf8
import Bimarz.Exceptions

/-!
# A directory and the system calls on it

A `Disk` is a directory with the directories that came before it, so a statement about all of them
is one about every point at which the process may be killed and every moment at which another one
may look. An `Env` says which calls fail, and with what.
-/

namespace Bimarz.Store

open Effect Effect.Act

/-- The calls of a write, in the order of the source, and the read of the whole file. -/
inductive Syscall
  | read
  | mkdir
  | mkstemp
  | fchmod
  | fdopen
  | write
  | flush
  | fsync
  | close
  | replace
  | openDirectory
  | fsyncDirectory
  | closeDirectory
  | closeFd
  | unlink
  | chmod
  deriving DecidableEq, Repr

/-- `except OSError`: `TimeoutError` is a subclass. -/
def isOSError : Exc → Bool
  | .error .osError _ => true
  | .error .timeoutError _ => true
  | _ => false

/-- What one call of the store meets: which system calls fail, the random parts of a temporary name
that are tried, how much of the payload reaches the file in a write and in a failing flush, a fresh
salt and the nonce of the cipher. The calls of the last three steps fail with an `OSError` or are
interrupted. -/
structure Env where
  fault : Syscall → Option Exc
  candidates : List String
  written : ℕ
  flushed : ℕ
  salt : Bytes
  nonce : Bytes
  osErrors : ∀ call ∈ [Syscall.closeFd, .unlink, .chmod], ∀ e, fault call = some e →
    e.isException = true → isOSError e = true

/-- The contents of the files of a directory, by name. -/
abbrev Files := String → Option Bytes

/-- A directory and its past. -/
structure Disk where
  files : Files
  history : List Files

/-- Every directory there has been. -/
def Disk.views (d : Disk) : List Files := d.files :: d.history

theorem Disk.mem_views {d : Disk} {files : Files} :
    files ∈ d.views ↔ files = d.files ∨ files ∈ d.history := List.mem_cons

def Disk.move (f : Files → Files) (d : Disk) : Disk := ⟨f d.files, d.files :: d.history⟩

@[simp] theorem Disk.move_files (f : Files → Files) (d : Disk) : (d.move f).files = f d.files := rfl

theorem Disk.mem_views_move {f : Files → Files} {d : Disk} {files : Files} :
    files ∈ (d.move f).views ↔ files = f d.files ∨ files ∈ d.views := List.mem_cons

def change (f : Files → Files) : Act Exc Disk Unit := modify (Disk.move f)

/-- Give a file its contents, or take it away. -/
def put (name : String) (content : Option Bytes) (files : Files) : Files :=
  Function.update files name content

@[simp] theorem put_same (name : String) (content : Option Bytes) (files : Files) :
    put name content files name = content := Function.update_self ..

@[simp] theorem put_other {name other : String} (h : other ≠ name) (content : Option Bytes)
    (files : Files) : put name content files other = files other := Function.update_of_ne h ..

section Calls

variable (env : Env)

/-- A system call that changes no file. -/
def syscall (call : Syscall) : Act Exc Disk Unit :=
  match env.fault call with
  | some e => raise e
  | none => pure ()

/-- `tempfile.mkstemp(prefix=f".{name}.")`: the first name that is not taken. -/
def tempName (name candidate : String) : String := "." ++ name ++ "." ++ candidate

/-- A temporary name is longer. -/
theorem tempName_ne (name candidate : String) : tempName name candidate ≠ name := by
  intro heq
  have hlength := congrArg String.length heq
  simp only [tempName, String.length_append] at hlength
  have hdot : ".".length = 1 := rfl
  omega

def freeName (name : String) (files : Files) : Option String :=
  (env.candidates.map (tempName name)).find? fun temp => (files temp).isNone

def mkstemp (name : String) : Act Exc Disk String := do
  syscall env .mkstemp
  match freeName env name (← reads Disk.files) with
  | some temp =>
    change (put temp (some []))
    pure temp
  | none => raise (.error .osError "No usable temporary file name found")

/-- `temp_file.write(payload)`, to a buffer that may reach the file. -/
def write (temp : String) (payload : Bytes) : Act Exc Disk Unit := do
  change (put temp (some (payload.take env.written)))
  syscall env .write

def flush (temp : String) (payload : Bytes) : Act Exc Disk Unit :=
  match env.fault .flush with
  | some e => do
    change (put temp (some (payload.take env.flushed)))
    raise e
  | none => change (put temp (some payload))

/-- `os.replace(temp, name)`, which is atomic. -/
def replace (temp name : String) : Act Exc Disk Unit := do
  syscall env .replace
  match ← reads fun d => d.files temp with
  | some content => change fun files => put temp none (put name (some content) files)
  | none => raise (.error .osError "No such file or directory")

def unlink (temp : String) : Act Exc Disk Unit := do
  syscall env .unlink
  match ← reads fun d => d.files temp with
  | some _ => change (put temp none)
  | none => raise (.error .osError "No such file or directory")

/-- `with contextlib.suppress(OSError)`. -/
def suppress (m : Act Exc Disk Unit) : Act Exc Disk Unit := handle isOSError m fun _ => pure ()

end Calls

/-! ## What the calls do to a property of the disk -/

section Rules

variable {env : Env} {I : Disk → Prop}

theorem syscall_triple {P : Disk → Prop} (call : Syscall) :
    Triple P (syscall env call) (fun _ d => P d ∧ env.fault call = none)
      (fun e d => P d ∧ env.fault call = some e) := by
  unfold syscall
  split
  · rename_i e he
    exact Triple.raise fun d hd => ⟨hd, he⟩
  · rename_i he
    exact Triple.pure fun d hd => ⟨hd, he⟩

theorem syscall_keeps (call : Syscall) : Keeps I (syscall env call) :=
  (syscall_triple call).mono (fun _ _ h => h.1) fun _ _ h => h.1

/-- What follows a system call that returned. -/
theorem syscall_bind {α : Type} {P : Disk → Prop} {Q : α → Disk → Prop} {E : Exc → Disk → Prop}
    {call : Syscall} {m : Unit → Act Exc Disk α}
    (hfault : ∀ e, env.fault call = some e → ∀ d, P d → E e d)
    (hm : env.fault call = none → Triple P (m ()) Q E) : Triple P (syscall env call >>= m) Q E := by
  unfold syscall
  cases he : env.fault call with
  | some e => exact fun d hd => hfault e he d hd
  | none => exact fun d hd => hm he d hd

theorem suppress_triple {P : Disk → Prop} {Q : Unit → Disk → Prop} {E F : Exc → Disk → Prop}
    {m : Act Exc Disk Unit} (hm : Triple P m Q F)
    (hcaught : ∀ e d, isOSError e = true → F e d → Q () d)
    (hother : ∀ e d, isOSError e = false → F e d → E e d) : Triple P (suppress m) Q E :=
  Triple.handle hm (fun e he => Triple.pure fun d hd => hcaught e d he hd) hother

theorem change_triple {P Q : Disk → Prop} {E : Exc → Disk → Prop} {f : Files → Files}
    (h : ∀ d, P d → Q (d.move f)) : Triple P (change f) (fun _ => Q) E := Triple.modify h

end Rules

end Bimarz.Store
