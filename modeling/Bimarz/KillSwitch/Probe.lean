import Bimarz.Effect.Run
import Bimarz.KillSwitch.Restore

/-!
# The probe of the kernel

`probe_kernel_capability` inserts a rule into the OUTPUT chain of the mangle table and deletes it
again, both under the number 1. An insertion takes a number before its rule; a deletion takes a
number or a rule, and is refused if it has both.
-/

namespace Bimarz.KillSwitch

open Effect Effect.Act

/-! ## The mangle table -/

/-- A word that is the number of a rule. -/
def ruleNumber (w : String) : Option ℕ :=
  if w ≠ "" ∧ w.toList.all Char.isDigit then some (Nat.ofDigitChars 10 w.toList 0) else none

/-- `-I OUTPUT [number] rule`: without a number, at the head. -/
def insertRule (output : List Rule) (number : ℕ) (rule : Rule) : Option (List Rule) :=
  if 1 ≤ number ∧ number ≤ output.length + 1 then some (output.insertIdx (number - 1) rule)
  else none

/-- `-D OUTPUT number`. -/
def deleteNumber (output : List Rule) (number : ℕ) : Option (List Rule) :=
  if 1 ≤ number ∧ number ≤ output.length then some (output.eraseIdx (number - 1)) else none

/-- `-D OUTPUT rule`: the first equal rule. -/
def deleteEqual (output : List Rule) (rule : Rule) : Option (List Rule) :=
  if rule ∈ output then some (output.erase rule) else none

/-- The chain after a command on it; `none` if it is refused. -/
def editOutput (output : List Rule) (op : String) (args : List String) : Option (List Rule) :=
  match args with
  | [] => none
  | w :: rest =>
    match ruleNumber w with
    | some number =>
      if op = "-I" then insertRule output number rest
      else if op = "-D" then if rest = [] then deleteNumber output number else none
      else none
    | none =>
      if op = "-I" then insertRule output 1 args
      else if op = "-D" then deleteEqual output args
      else none

def mangle (output : List Rule) : Command → Option (List Rule)
  | "iptables" :: "-t" :: "mangle" :: op :: "OUTPUT" :: args => editOutput output op args
  | _ => none

/-- The chain, the fates of the commands to come, and the commands so far with their success. -/
structure MangleHost where
  output : List Rule
  fates : Stream' Fate
  log : List (String × Bool) := []

/-- `IptablesExecutor::execute`, of a command on this chain. -/
def executeMangle (command : String) : Act String MangleHost Unit := fun h =>
  let parts := splitWhitespace command
  let fails (message : String) : Except String Unit × MangleHost :=
    (.error message, ⟨h.output, h.fates.tail, h.log ++ [(command, false)]⟩)
  if parts.isEmpty then (.ok (), h)
  else
    match h.fates.head with
    | .spawnError e => fails s!"failed to execute '{command}': {e}"
    | .nonZero => fails s!"command '{command}' exited with non-zero status"
    | .runs =>
      match mangle h.output parts with
      | some output => (.ok (), ⟨output, h.fates.tail, h.log ++ [(command, true)]⟩)
      | none => fails s!"command '{command}' exited with non-zero status"

/-! ## The probe -/

def probeAdd : String := "iptables -t mangle -I OUTPUT 1 -p tcp --dport 65535 -j DROP"
def probeDel : String := "iptables -t mangle -D OUTPUT 1 -p tcp --dport 65535 -j DROP"

/-- `probe_kernel_capability`: what the deletion answers is dropped. -/
def probeKernelRules : Act String MangleHost Bool := do
  match ← outcome (executeMangle probeAdd) with
  | .error _ => return false
  | .ok () =>
    let _ ← outcome (executeMangle probeDel)
    return true

/-- `KillSwitchManager.probe_kernel_capability`, when the extension can be imported or not. -/
def managerProbe (h : MangleHost) (importable : Bool) : Bool × MangleHost :=
  if importable then
    match probeKernelRules h with
    | (.ok capable, h') => (capable, h')
    | (.error _, h') => (false, h')
  else (false, h)

/-- The rule of both commands. -/
def probeRule : Rule := ["-p", "tcp", "--dport", "65535", "-j", "DROP"]

theorem split_probeAdd : splitWhitespace probeAdd =
    ["iptables", "-t", "mangle", "-I", "OUTPUT", "1"] ++ probeRule := by
  decide

theorem split_probeDel : splitWhitespace probeDel =
    ["iptables", "-t", "mangle", "-D", "OUTPUT", "1"] ++ probeRule := by
  decide

/-- The insertion is accepted, at the head. -/
theorem mangle_probeAdd (output : List Rule) :
    mangle output (splitWhitespace probeAdd) = some (probeRule :: output) := by
  have hnumber : ruleNumber "1" = some 1 := by decide
  rw [split_probeAdd]
  show editOutput output "-I" ("1" :: probeRule) = _
  simp only [editOutput, hnumber, if_true, insertRule]
  rw [if_pos (by omega)]
  rfl

/-- The deletion has a number and a rule. -/
theorem mangle_probeDel (output : List Rule) :
    mangle output (splitWhitespace probeDel) = none := by
  have hnumber : ruleNumber "1" = some 1 := by decide
  rw [split_probeDel]
  show editOutput output "-D" ("1" :: probeRule) = _
  simp only [editOutput, hnumber]
  rfl

section Execute

variable (h : MangleHost) {command : String} (hne : splitWhitespace command ≠ [])

include hne

/-- A command that does not run or is refused fails without effect. -/
theorem executeMangle_fails
    (hfails : h.fates.head ≠ .runs ∨ mangle h.output (splitWhitespace command) = none) :
    ∃ e, executeMangle command h =
      (.error e, ⟨h.output, h.fates.tail, h.log ++ [(command, false)]⟩) := by
  unfold executeMangle
  rw [if_neg (by simpa using hne)]
  cases hfate : h.fates.head with
  | spawnError e => exact ⟨_, rfl⟩
  | nonZero => exact ⟨_, rfl⟩
  | runs =>
    rcases hfails with hfails | hrefused
    · exact absurd hfate hfails
    · simp only [hrefused]
      exact ⟨_, rfl⟩

theorem executeMangle_runs {output : List Rule} (hfate : h.fates.head = .runs)
    (haccepted : mangle h.output (splitWhitespace command) = some output) :
    executeMangle command h = (.ok (), ⟨output, h.fates.tail, h.log ++ [(command, true)]⟩) := by
  unfold executeMangle
  rw [if_neg (by simpa using hne), hfate]
  simp only [haccepted]

end Execute

/-- **The probe** says yes exactly if its insertion runs; the rule then stays in the chain. -/
theorem probeKernelRules_cases (h : MangleHost) :
    (h.fates.head ≠ .runs ∧ probeKernelRules h =
      (.ok false, ⟨h.output, h.fates.tail, h.log ++ [(probeAdd, false)]⟩)) ∨
    (h.fates.head = .runs ∧ probeKernelRules h =
      (.ok true, ⟨probeRule :: h.output, h.fates.tail.tail,
        h.log ++ [(probeAdd, true)] ++ [(probeDel, false)]⟩)) := by
  have hadd : splitWhitespace probeAdd ≠ [] := by rw [split_probeAdd]; decide
  have hdel : splitWhitespace probeDel ≠ [] := by rw [split_probeDel]; decide
  by_cases hfate : h.fates.head = .runs
  · refine Or.inr ⟨hfate, ?_⟩
    have hinserted := executeMangle_runs h hadd hfate (mangle_probeAdd h.output)
    obtain ⟨e, hkept⟩ := executeMangle_fails
      ⟨probeRule :: h.output, h.fates.tail, h.log ++ [(probeAdd, true)]⟩ hdel
      (Or.inr (mangle_probeDel _))
    have hfirst : outcome (executeMangle probeAdd) h = (.ok (.ok ()), _) :=
      congrArg (fun r => (Except.ok r.1, r.2)) hinserted
    have hsecond : outcome (executeMangle probeDel) _ = (.ok (.error e), _) :=
      congrArg (fun r => (Except.ok r.1, r.2)) hkept
    unfold probeKernelRules
    rw [bind_ok hfirst]
    exact bind_ok hsecond
  · refine Or.inl ⟨hfate, ?_⟩
    obtain ⟨e, hfailed⟩ := executeMangle_fails h hadd (Or.inl hfate)
    have hfirst : outcome (executeMangle probeAdd) h = (.ok (.error e), _) :=
      congrArg (fun r => (Except.ok r.1, r.2)) hfailed
    unfold probeKernelRules
    exact bind_ok hfirst

/-! ## Calls of the probe -/

/-- A probe that says yes has inserted its rule, deleted it and left the chain as it was. -/
def Traceless (h : MangleHost) (importable : Bool) : Prop :=
  (managerProbe h importable).1 = true →
    (managerProbe h importable).2.output = h.output ∧
    (managerProbe h importable).2.log = h.log ++ [(probeAdd, true), (probeDel, true)]

/-- The insertion cannot run: the extension is missing, or the command fails. -/
def Blocked (h : MangleHost) (importable : Bool) : Prop :=
  importable = true → h.fates.head ≠ .runs

/-- What a probe does to the chain. -/
theorem managerProbe_output (h : MangleHost) (importable : Bool) :
    ((managerProbe h importable).1 = true ↔ ¬Blocked h importable) ∧
    (managerProbe h importable).2.output =
      if (managerProbe h importable).1 then probeRule :: h.output else h.output := by
  unfold managerProbe Blocked
  cases importable with
  | false => simp
  | true =>
    rcases probeKernelRules_cases h with ⟨hfate, hrun⟩ | ⟨hfate, hrun⟩
    · simp [hrun, hfate]
    · simp [hrun, hfate]

theorem traceless_iff (h : MangleHost) (importable : Bool) :
    Traceless h importable ↔ Blocked h importable := by
  obtain ⟨hyes, houtput⟩ := managerProbe_output h importable
  constructor
  · intro htraceless
    by_contra hblocked
    have hanswer := hyes.mpr hblocked
    have hsame := (htraceless hanswer).1
    rw [houtput, hanswer, if_pos rfl] at hsame
    exact List.cons_ne_self _ _ hsame
  · intro hblocked hanswer
    exact absurd hblocked (hyes.mp hanswer)

/-- The state after a probe. -/
def probeStep (h : MangleHost) (importable : Bool) : MangleHost := (managerProbe h importable).2

/-- **Probing leaves no trace** in a run of probes exactly if none of them gets its insertion
through. -/
theorem probes_traceless_iff (h : MangleHost) (probes : List Bool) :
    Each probeStep Traceless h probes ↔ Each probeStep Blocked h probes :=
  each_congr traceless_iff h probes

/-- Every yes leaves one rule more at the head of the chain. -/
theorem probes_leave (h : MangleHost) (probes : List Bool) :
    (transduce managerProbe h probes).2.output =
      List.replicate ((transduce managerProbe h probes).1.count true) probeRule ++ h.output := by
  induction probes generalizing h with
  | nil => rfl
  | cons importable probes ih =>
    obtain ⟨-, houtput⟩ := managerProbe_output h importable
    rw [transduce_cons]
    simp only
    rw [ih, houtput]
    cases (managerProbe h importable).1 with
    | false => simp
    | true => simp [List.replicate_succ']

/-- Two probes on an empty chain, where every command may run. -/
theorem probes_leave_two :
    ¬Each probeStep Traceless ⟨[], .const .runs, []⟩ [true, true] ∧
      (transduce managerProbe ⟨[], .const .runs, []⟩ [true, true]).1 = [true, true] ∧
      (transduce managerProbe ⟨[], .const .runs, []⟩ [true, true]).2.output =
        [probeRule, probeRule] := by
  refine ⟨?_, by decide, by decide⟩
  simp only [Each, Traceless]
  decide

end Bimarz.KillSwitch
