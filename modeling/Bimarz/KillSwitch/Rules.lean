import Bimarz.Effect.Triple
import Bimarz.Exceptions
import Mathlib.Algebra.Group.Int.Defs
import Mathlib.Data.Stream.Defs

/-!
# Kill-switch rules and the firewall they are written to

`killswitch.rs` builds two command lines, runs them one after the other to apply the rules, and
runs them in reverse order with ` -I ` replaced by ` -D ` to remove them. A command line is kept
here as its words: the executor splits it at blanks, and the replaced text is one whole word.

The filter table has an OUTPUT and an INPUT chain. A command either takes effect and succeeds or
fails without effect; a `Fate` says which of the two the environment allows, and deleting a rule
that no entry carries always fails. An entry remembers whether one of these commands inserted it.
-/

namespace Bimarz.KillSwitch

open Effect Effect.Act

/-! ## The filter table -/

/-- The words of a command line. -/
abbrev Command := List String

/-- What a rule matches and does: the words of its command after the chain's name. -/
abbrev Rule := List String

instance : LawfulBEq Rule := inferInstance

/-- A rule in a chain, and whether the kill-switch inserted it. -/
structure Entry where
  rule : Rule
  own : Bool
  deriving DecidableEq, Repr

abbrev Chain := List Entry

/-- The two chains of the filter table that the kill-switch writes. -/
structure Filter where
  output : Chain
  input : Chain
  deriving DecidableEq, Repr

/-- The rules of a chain, first match first. -/
def Chain.rules (c : Chain) : List Rule := c.map Entry.rule

/-- The chain without its first entry for `rule`. -/
def Chain.delete (c : Chain) (rule : Rule) : Chain := c.eraseP fun e => e.rule = rule

/-- Insertion is at the head; deletion takes the first entry with the rule. -/
def Chain.edit (c : Chain) (op : String) (rule : Rule) : Option Chain :=
  if op = "-I" then some (⟨rule, true⟩ :: c)
  else if op = "-D" then
    if rule ∈ c.rules then some (c.delete rule) else none
  else none

/-- What `iptables` makes of a command line; `none` if it refuses it. -/
def Filter.iptables (f : Filter) : Command → Option Filter
  | "iptables" :: "-t" :: "filter" :: op :: chain :: rule =>
    if chain = "OUTPUT" then (f.output.edit op rule).map fun c => { f with output := c }
    else if chain = "INPUT" then (f.input.edit op rule).map fun c => { f with input := c }
    else none
  | _ => none

/-- What the environment makes of a command. -/
inductive Fate
  | spawnError (e : String)
  | nonZero
  | runs
  deriving DecidableEq, Repr

/-- The firewall, and the fates of the commands to come. -/
structure Host where
  filter : Filter
  fates : Stream' Fate

/-! ## `killswitch.rs` -/

/-- The command lines of a rule set, in the order they are applied. -/
structure KillSwitchRuleset where
  rules : List Command
  deriving DecidableEq, Repr

/-- `IptablesExecutor::execute`. -/
def execute (command : Command) : Act String Host Unit := fun h =>
  if command.isEmpty then (.ok (), h)
  else
    let line := " ".intercalate command
    let h' := { h with fates := h.fates.tail }
    match h.fates.head with
    | .spawnError e => (.error s!"failed to execute '{line}': {e}", h')
    | .nonZero => (.error s!"command '{line}' exited with non-zero status", h')
    | .runs =>
      match h.filter.iptables command with
      | some f => (.ok (), { h' with filter := f })
      | none => (.error s!"command '{line}' exited with non-zero status", h')

def outputRule (interface : String) (uid : ℕ) : Rule :=
  ["-o", interface, "-m", "owner", "!", "--uid-owner", toString uid, "-j", "DROP"]

def inputRule (interface : String) (uid : ℕ) : Rule :=
  ["-i", interface, "-m", "owner", "!", "--uid-owner", toString uid, "-j", "DROP"]

def buildKillswitchRules (interface : String) (xrayUid : Option ℕ) :
    Except String KillSwitchRuleset :=
  match xrayUid with
  | none => .error ("xray_uid is required: without it, kill-switch would block xray-core's own " ++
      "tunnel traffic, breaking the connection")
  | some uid => .ok ⟨[
      ["iptables", "-t", "filter", "-I", "OUTPUT"] ++ outputRule interface uid,
      ["iptables", "-t", "filter", "-I", "INPUT"] ++ inputRule interface uid]⟩

/-- `rule.replace(" -I ", " -D ")`: every word `-I` of the command, whatever it stands for. -/
def deleteRule (rule : Command) : Command := rule.map fun w => if w = "-I" then "-D" else w

def applyRuleset (ruleset : KillSwitchRuleset) : Act String Host Unit :=
  ruleset.rules.forM execute

def removeRuleset (ruleset : KillSwitchRuleset) : Act String Host Unit :=
  ruleset.rules.reverse.forM fun rule => execute (deleteRule rule)

/-! ## The Python binding (`lib.rs`) -/

/-- The conversion of a Python `int | None` to `Option<u32>`. -/
def asU32 : Option ℤ → Except Exc (Option ℕ)
  | none => .ok none
  | some n =>
    if 0 ≤ n ∧ n < 2 ^ 32 then .ok (some n.toNat)
    else .error (.error .overflowError "out of range integral type conversion attempted")

/-- The rule set of an interface and a UID, as both functions of the binding ask for it. -/
def rulesetOf (interface : String) (xrayUid : Option ℤ) : Except Exc KillSwitchRuleset := do
  let uid ← asU32 xrayUid
  (buildKillswitchRules interface uid).mapError (.error .runtimeError)

def applyKillswitchRules (interface : String) (xrayUid : Option ℤ) : Act Exc Host Unit :=
  match rulesetOf interface xrayUid with
  | .error e => raise e
  | .ok ruleset => mapError (.error .runtimeError) (applyRuleset ruleset)

def removeKillswitchRules (interface : String) (xrayUid : Option ℤ) : Act Exc Host Unit :=
  match rulesetOf interface xrayUid with
  | .error e => raise e
  | .ok ruleset => mapError (.error .runtimeError) (removeRuleset ruleset)

/-! ## What the commands do -/

/-- The interface that the deletion commands name: the whole-word replacement of `-I` also hits
an interface of that name. -/
def deletedInterface (interface : String) : String := if interface = "-I" then "-D" else interface

/-- The UID for which a rule set is built. -/
def uidOf (xrayUid : Option ℤ) : Option ℕ :=
  match asU32 xrayUid with
  | .ok uid => uid
  | .error _ => none

/-- The two command lines of an interface and a UID. -/
def killswitchRules (interface : String) (uid : ℕ) : KillSwitchRuleset := ⟨[
  ["iptables", "-t", "filter", "-I", "OUTPUT"] ++ outputRule interface uid,
  ["iptables", "-t", "filter", "-I", "INPUT"] ++ inputRule interface uid]⟩

theorem repr_uid_ne (uid : ℕ) : uid.repr ≠ "-I" := by
  intro h
  have hc : '-' ∈ uid.repr.toList := by rw [h]; decide
  have hd : '-' ∈ Nat.toDigits 10 uid := by rwa [Nat.toList_repr] at hc
  have := Nat.isDigit_of_mem_toDigits (by decide) (by decide) hd
  simp at this

theorem deleteRule_output (interface : String) (uid : ℕ) :
    deleteRule (["iptables", "-t", "filter", "-I", "OUTPUT"] ++ outputRule interface uid) =
      ["iptables", "-t", "filter", "-D", "OUTPUT"] ++
        outputRule (deletedInterface interface) uid := by
  simp [deleteRule, outputRule, deletedInterface, repr_uid_ne]

theorem deleteRule_input (interface : String) (uid : ℕ) :
    deleteRule (["iptables", "-t", "filter", "-I", "INPUT"] ++ inputRule interface uid) =
      ["iptables", "-t", "filter", "-D", "INPUT"] ++
        inputRule (deletedInterface interface) uid := by
  simp [deleteRule, inputRule, deletedInterface, repr_uid_ne]

theorem rulesetOf_some (interface : String) {xrayUid : Option ℤ} {uid : ℕ}
    (h : uidOf xrayUid = some uid) :
    rulesetOf interface xrayUid = .ok (killswitchRules interface uid) := by
  unfold uidOf at h
  unfold rulesetOf
  rcases hu : asU32 xrayUid with e | u <;> rw [hu] at h
  · cases h
  · obtain rfl : u = some uid := h
    rfl

theorem rulesetOf_none (interface : String) {xrayUid : Option ℤ} (h : uidOf xrayUid = none) :
    ∃ e, rulesetOf interface xrayUid = .error e ∧ e.isException = true := by
  unfold uidOf asU32 at h
  unfold rulesetOf asU32
  cases xrayUid with
  | none => exact ⟨_, rfl, rfl⟩
  | some n =>
    by_cases hn : 0 ≤ n ∧ n < 2 ^ 32
    · simp only [if_pos hn] at h
      cases h
    · simp only [if_neg hn]
      exact ⟨_, rfl, rfl⟩

section Commands

variable (host : Host) {command : Command}

theorem execute_fails (hc : command ≠ []) (hf : host.fates.head ≠ .runs) :
    ∃ e, execute command host = (.error e, { host with fates := host.fates.tail }) := by
  unfold execute
  rw [if_neg (by simpa using hc)]
  cases hh : host.fates.head with
  | spawnError e => exact ⟨_, rfl⟩
  | nonZero => exact ⟨_, rfl⟩
  | runs => exact absurd hh hf

theorem execute_refused (hc : command ≠ []) (hi : host.filter.iptables command = none) :
    ∃ e, execute command host = (.error e, { host with fates := host.fates.tail }) := by
  unfold execute
  rw [if_neg (by simpa using hc)]
  cases hh : host.fates.head with
  | spawnError e => exact ⟨_, rfl⟩
  | nonZero => exact ⟨_, rfl⟩
  | runs => simp only [hi]; exact ⟨_, rfl⟩

theorem execute_runs {f : Filter} (hc : command ≠ []) (hf : host.fates.head = .runs)
    (hi : host.filter.iptables command = some f) :
    execute command host = (.ok (), ⟨f, host.fates.tail⟩) := by
  unfold execute
  rw [if_neg (by simpa using hc), hf]
  simp only [hi]

variable (f : Filter) (rule : Rule)

theorem iptables_insert_output :
    f.iptables (["iptables", "-t", "filter", "-I", "OUTPUT"] ++ rule) =
      some { f with output := ⟨rule, true⟩ :: f.output } := rfl

theorem iptables_insert_input :
    f.iptables (["iptables", "-t", "filter", "-I", "INPUT"] ++ rule) =
      some { f with input := ⟨rule, true⟩ :: f.input } := rfl

theorem iptables_delete_output :
    f.iptables (["iptables", "-t", "filter", "-D", "OUTPUT"] ++ rule) =
      if rule ∈ f.output.rules then some { f with output := f.output.delete rule } else none := by
  show (f.output.edit "-D" rule).map _ = _
  unfold Chain.edit
  rw [if_neg (by decide), if_pos rfl]
  split <;> rfl

theorem iptables_delete_input :
    f.iptables (["iptables", "-t", "filter", "-D", "INPUT"] ++ rule) =
      if rule ∈ f.input.rules then some { f with input := f.input.delete rule } else none := by
  show (f.input.edit "-D" rule).map _ = _
  unfold Chain.edit
  rw [if_neg (by decide), if_pos rfl]
  split <;> rfl

end Commands

theorem length_delete_lt {c : Chain} {rule : Rule} (h : rule ∈ c.rules) :
    (c.delete rule).length < c.length := by
  obtain ⟨e, he, hrule⟩ := List.mem_map.mp h
  have hlength : (c.delete rule).length = c.length - 1 :=
    List.length_eraseP_of_mem he (decide_eq_true hrule)
  have hpos : 0 < c.length := List.length_pos_of_mem he
  omega

/-! ## What applying and removing do -/

section Rulesets

variable (interface : String) (uid : ℕ)

/-- The filter after the first command of applying. -/
def Filter.applyFirst (f : Filter) : Filter :=
  { f with output := ⟨outputRule interface uid, true⟩ :: f.output }

/-- The filter after both commands of applying. -/
def Filter.apply (f : Filter) : Filter :=
  { f.applyFirst interface uid with input := ⟨inputRule interface uid, true⟩ :: f.input }

/-- The filter after the first command of removing. -/
def Filter.removeFirst (f : Filter) : Filter :=
  { f with input := f.input.delete (inputRule (deletedInterface interface) uid) }

/-- The filter after both commands of removing. -/
def Filter.remove (f : Filter) : Filter :=
  { f.removeFirst interface uid with
    output := f.output.delete (outputRule (deletedInterface interface) uid) }

variable (host : Host)

/-- **Applying.** The first command fails, or the second alone fails and the OUTPUT rule stays
in the chain, or both take effect. -/
theorem applyRuleset_cases :
    (host.fates.head ≠ .runs ∧ ∃ e, applyRuleset (killswitchRules interface uid) host =
      (.error e, ⟨host.filter, host.fates.tail⟩)) ∨
    (host.fates.head = .runs ∧ host.fates.tail.head ≠ .runs ∧
      ∃ e, applyRuleset (killswitchRules interface uid) host =
        (.error e, ⟨host.filter.applyFirst interface uid, host.fates.tail.tail⟩)) ∨
    (host.fates.head = .runs ∧ host.fates.tail.head = .runs ∧
      applyRuleset (killswitchRules interface uid) host =
        (.ok (), ⟨host.filter.apply interface uid, host.fates.tail.tail⟩)) := by
  have hrun : applyRuleset (killswitchRules interface uid) =
      (execute (["iptables", "-t", "filter", "-I", "OUTPUT"] ++ outputRule interface uid)
        >>= fun _ => execute (["iptables", "-t", "filter", "-I", "INPUT"] ++
          inputRule interface uid) >>= fun _ => pure ()) := rfl
  rw [hrun]
  by_cases h₁ : host.fates.head = .runs
  · have r₁ := execute_runs host (by simp) h₁
      (iptables_insert_output host.filter (outputRule interface uid))
    right
    by_cases h₂ : host.fates.tail.head = .runs
    · have r₂ := execute_runs ⟨host.filter.applyFirst interface uid, host.fates.tail⟩
        (by simp) h₂ (iptables_insert_input _ (inputRule interface uid))
      exact Or.inr ⟨h₁, h₂, (bind_ok r₁).trans (bind_ok r₂)⟩
    · obtain ⟨e, r₂⟩ := execute_fails ⟨host.filter.applyFirst interface uid, host.fates.tail⟩
        (by simp : ["iptables", "-t", "filter", "-I", "INPUT"] ++ inputRule interface uid ≠ []) h₂
      exact Or.inl ⟨h₁, h₂, e, (bind_ok r₁).trans (bind_error r₂)⟩
  · obtain ⟨e, r₁⟩ := execute_fails host
      (by simp : ["iptables", "-t", "filter", "-I", "OUTPUT"] ++ outputRule interface uid ≠ []) h₁
    exact Or.inl ⟨h₁, e, bind_error r₁⟩

/-- The INPUT deletion takes effect: it may run, and some entry has its rule. -/
def DeletesInput : Prop :=
  host.fates.head = .runs ∧
    inputRule (deletedInterface interface) uid ∈ host.filter.input.rules

/-- The OUTPUT deletion, the second command, takes effect. -/
def DeletesOutput : Prop :=
  host.fates.tail.head = .runs ∧
    outputRule (deletedInterface interface) uid ∈ host.filter.output.rules

theorem execute_deletes_input (h : DeletesInput interface uid host) :
    execute (["iptables", "-t", "filter", "-D", "INPUT"] ++
        inputRule (deletedInterface interface) uid) host =
      (.ok (), ⟨host.filter.removeFirst interface uid, host.fates.tail⟩) := by
  refine execute_runs _ (by simp) h.1 ?_
  rw [iptables_delete_input, if_pos h.2]
  rfl

theorem execute_keeps_input (h : ¬DeletesInput interface uid host) :
    ∃ e, execute (["iptables", "-t", "filter", "-D", "INPUT"] ++
        inputRule (deletedInterface interface) uid) host =
      (.error e, ⟨host.filter, host.fates.tail⟩) := by
  by_cases hf : host.fates.head = .runs
  · refine execute_refused _ (by simp) ?_
    rw [iptables_delete_input, if_neg fun hm => h ⟨hf, hm⟩]
  · exact execute_fails _ (by simp) hf

theorem execute_deletes_output (h : DeletesOutput interface uid host) :
    execute (["iptables", "-t", "filter", "-D", "OUTPUT"] ++
        outputRule (deletedInterface interface) uid)
        ⟨host.filter.removeFirst interface uid, host.fates.tail⟩ =
      (.ok (), ⟨host.filter.remove interface uid, host.fates.tail.tail⟩) := by
  refine execute_runs _ (by simp) h.1 ?_
  rw [iptables_delete_output]
  exact if_pos h.2

theorem execute_keeps_output (h : ¬DeletesOutput interface uid host) :
    ∃ e, execute (["iptables", "-t", "filter", "-D", "OUTPUT"] ++
        outputRule (deletedInterface interface) uid)
        ⟨host.filter.removeFirst interface uid, host.fates.tail⟩ =
      (.error e, ⟨host.filter.removeFirst interface uid, host.fates.tail.tail⟩) := by
  by_cases hf : host.fates.tail.head = .runs
  · refine execute_refused _ (by simp) ?_
    rw [iptables_delete_output]
    exact if_neg fun hm => h ⟨hf, hm⟩
  · exact execute_fails _ (by simp) hf

/-- **Removing.** The INPUT deletion fails, or the OUTPUT deletion alone fails and the INPUT
chain has lost its rule, or both take effect. -/
theorem removeRuleset_cases :
    (¬DeletesInput interface uid host ∧
      ∃ e, removeRuleset (killswitchRules interface uid) host =
        (.error e, ⟨host.filter, host.fates.tail⟩)) ∨
    (DeletesInput interface uid host ∧ ¬DeletesOutput interface uid host ∧
      ∃ e, removeRuleset (killswitchRules interface uid) host =
        (.error e, ⟨host.filter.removeFirst interface uid, host.fates.tail.tail⟩)) ∨
    (DeletesInput interface uid host ∧ DeletesOutput interface uid host ∧
      removeRuleset (killswitchRules interface uid) host =
        (.ok (), ⟨host.filter.remove interface uid, host.fates.tail.tail⟩)) := by
  have hrun : removeRuleset (killswitchRules interface uid) =
      (execute (["iptables", "-t", "filter", "-D", "INPUT"] ++
          inputRule (deletedInterface interface) uid) >>= fun _ =>
        execute (["iptables", "-t", "filter", "-D", "OUTPUT"] ++
          outputRule (deletedInterface interface) uid) >>= fun _ => pure ()) := by
    rw [← deleteRule_input, ← deleteRule_output]; rfl
  rw [hrun]
  by_cases h₁ : DeletesInput interface uid host
  · have r₁ := execute_deletes_input interface uid host h₁
    right
    by_cases h₂ : DeletesOutput interface uid host
    · have r₂ := execute_deletes_output interface uid host h₂
      exact Or.inr ⟨h₁, h₂, (bind_ok r₁).trans (bind_ok r₂)⟩
    · obtain ⟨e, r₂⟩ := execute_keeps_output interface uid host h₂
      exact Or.inl ⟨h₁, h₂, e, (bind_ok r₁).trans (bind_error r₂)⟩
  · obtain ⟨e, r₁⟩ := execute_keeps_input interface uid host h₁
    exact Or.inl ⟨h₁, e, bind_error r₁⟩

end Rulesets

section Binding

variable (interface : String) {xrayUid : Option ℤ} {uid : ℕ}

theorem applyKillswitchRules_some (h : uidOf xrayUid = some uid) :
    applyKillswitchRules interface xrayUid =
      mapError (.error .runtimeError) (applyRuleset (killswitchRules interface uid)) := by
  unfold applyKillswitchRules; rw [rulesetOf_some interface h]

theorem removeKillswitchRules_some (h : uidOf xrayUid = some uid) :
    removeKillswitchRules interface xrayUid =
      mapError (.error .runtimeError) (removeRuleset (killswitchRules interface uid)) := by
  unfold removeKillswitchRules; rw [rulesetOf_some interface h]

theorem applyKillswitchRules_none (h : uidOf xrayUid = none) :
    ∃ e, applyKillswitchRules interface xrayUid = raise e ∧ e.isException = true := by
  obtain ⟨e, he, hex⟩ := rulesetOf_none interface h
  exact ⟨e, by unfold applyKillswitchRules; rw [he], hex⟩

theorem removeKillswitchRules_none (h : uidOf xrayUid = none) :
    ∃ e, removeKillswitchRules interface xrayUid = raise e ∧ e.isException = true := by
  obtain ⟨e, he, hex⟩ := rulesetOf_none interface h
  exact ⟨e, by unfold removeKillswitchRules; rw [he], hex⟩

theorem raises_applyKillswitchRules (interface : String) (xrayUid : Option ℤ) :
    RaisesExceptions (applyKillswitchRules interface xrayUid) := by
  cases hu : uidOf xrayUid with
  | none =>
    obtain ⟨e, he, hex⟩ := applyKillswitchRules_none interface hu
    rw [he]
    exact RaisesExceptions.raise hex
  | some uid =>
    rw [applyKillswitchRules_some interface hu]
    intro host e host' h
    rcases hrun : applyRuleset (killswitchRules interface uid) host with ⟨message | u, after⟩
    · rw [mapError_error hrun] at h
      cases h
      rfl
    · rw [mapError_ok hrun] at h
      cases h

end Binding

end Bimarz.KillSwitch
