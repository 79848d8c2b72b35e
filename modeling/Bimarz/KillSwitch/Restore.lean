import Bimarz.KillSwitch.Rules
import Bimarz.Text.Words

/-!
# What removing the kill-switch leaves behind

`killswitch.rs` keeps its commands as lines of text, replaces ` -I ` in a line and splits it when it
is executed. For the name of an interface this is what `Rules` does with words. Removing then takes
exactly the rules out that applying has put in, whatever else the chains hold.
-/

namespace Bimarz.KillSwitch

open Effect Effect.Act

/-! ## Lines -/

/-- `char::is_whitespace`. -/
def isWhitespace (c : Char) : Bool :=
  [9, 10, 11, 12, 13, 32, 133, 160, 5760, 8192, 8193, 8194, 8195, 8196, 8197, 8198, 8199, 8200,
    8201, 8202, 8232, 8233, 8239, 8287, 12288].contains c.toNat

/-- `line.split_whitespace()`. -/
def splitWhitespace (line : String) : Command :=
  (Text.words isWhitespace line.toList).map String.ofList

/-- `IptablesExecutor::execute`. -/
def executeLine (line : String) : Act String Host Unit := fun h =>
  let parts := splitWhitespace line
  if parts.isEmpty then (.ok (), h)
  else
    let h' := { h with fates := h.fates.tail }
    match h.fates.head with
    | .spawnError e => (.error s!"failed to execute '{line}': {e}", h')
    | .nonZero => (.error s!"command '{line}' exited with non-zero status", h')
    | .runs =>
      match h.filter.iptables parts with
      | some f => (.ok (), { h' with filter := f })
      | none => (.error s!"command '{line}' exited with non-zero status", h')

/-- `build_killswitch_rules`. -/
def buildKillswitchLines (interface : String) (xrayUid : Option ℕ) : Except String (List String) :=
  match xrayUid with
  | none => .error ("xray_uid is required: without it, kill-switch would block xray-core's own " ++
      "tunnel traffic, breaking the connection")
  | some uid => .ok [
      s!"iptables -t filter -I OUTPUT -o {interface} -m owner ! --uid-owner {uid} -j DROP",
      s!"iptables -t filter -I INPUT -i {interface} -m owner ! --uid-owner {uid} -j DROP"]

/-- `rule.replace(" -I ", " -D ")`. -/
def deleteLine (rule : String) : String :=
  String.ofList (Text.replace " -I ".toList " -D ".toList rule.toList)

/-- `apply_ruleset`. -/
def applyLines (rules : List String) : Act String Host Unit := rules.forM executeLine

/-- `remove_ruleset`. -/
def removeLines (rules : List String) : Act String Host Unit :=
  rules.reverse.forM fun rule => executeLine (deleteLine rule)

/-! ## Lines as words -/

/-- The line of a command. -/
def line (command : Command) : String := " ".intercalate command

theorem toList_line (command : Command) :
    (line command).toList = Text.unwords ' ' (command.map String.toList) := by
  unfold line
  rw [String.toList_intercalate]
  rfl

def IsWord (w : String) : Prop := Text.IsWord isWhitespace w.toList

theorem splitWhitespace_line {command : Command} (h : ∀ w ∈ command, IsWord w) :
    splitWhitespace (line command) = command := by
  unfold splitWhitespace
  rw [toList_line, Text.words_unwords (by decide)]
  · simp
  · intro w hw
    obtain ⟨v, hv, rfl⟩ := List.mem_map.mp hw
    exact h v hv

theorem executeLine_line {command : Command} (h : ∀ w ∈ command, IsWord w) :
    executeLine (line command) = execute command := by
  funext host
  unfold executeLine execute
  rw [splitWhitespace_line h]
  rfl

/-- The name of an interface: not empty, without white space and not like an option. -/
structure InterfaceName (interface : String) : Prop where
  word : IsWord interface
  noOption : interface.toList.head? ≠ some '-'

theorem InterfaceName.ne_insert {interface : String} (h : InterfaceName interface) :
    interface ≠ "-I" := by
  rintro rfl
  exact h.noOption (by decide)

theorem isWord_uid (uid : ℕ) : IsWord (toString uid) := by
  have htext : (toString uid).toList = Nat.toDigits 10 uid := Nat.toList_repr
  unfold IsWord
  rw [htext]
  refine ⟨Nat.toDigits_ne_nil, fun c hc => ?_⟩
  have hdigit := Nat.isDigit_of_mem_toDigits (by decide) (by decide) hc
  have hbounds : 48 ≤ c.toNat ∧ c.toNat ≤ 57 := by
    simpa [Char.isDigit, UInt32.le_iff_toNat_le] using hdigit
  unfold isWhitespace
  simp only [List.contains_eq_mem, List.mem_cons, List.not_mem_nil, or_false,
    decide_eq_false_iff_not]
  omega

section Lines

/-- The command of a rule: insertion or deletion, in a chain, for an interface under a flag. -/
def ruleCommand (op chain flag interface : String) (uid : ℕ) : Command :=
  ["iptables", "-t", "filter", op, chain, flag, interface, "-m", "owner", "!", "--uid-owner",
    toString uid, "-j", "DROP"]

/-- The words of the commands that do not depend on the interface or the UID. -/
def fixedWords : List String := ["iptables", "-t", "filter", "-I", "-D", "OUTPUT", "INPUT", "-o",
  "-i", "-m", "owner", "!", "--uid-owner", "-j", "DROP"]

theorem isWord_fixed : ∀ w ∈ fixedWords, IsWord w := by
  simp only [IsWord, Text.isWord_iff_all]
  decide

/-- A line that begins with fixed words, in the parts of its format string. -/
theorem line_of_start (interface : String) (uid : ℕ) {start : String} {ws : List String}
    (hstart : start.toList = Text.unwords ' ' (ws.map String.toList) ++ [' ']) (hws : ws ≠ []) :
    start ++ interface ++ " -m owner ! --uid-owner " ++ toString uid ++ " -j DROP" =
      line (ws ++ [interface, "-m", "owner", "!", "--uid-owner", toString uid, "-j", "DROP"]) := by
  have hmiddle : " -m owner ! --uid-owner ".toList =
      ' ' :: Text.unwords ' ' ["-m".toList, "owner".toList, "!".toList, "--uid-owner".toList] ++
        [' '] := by decide
  have hend : " -j DROP".toList = ' ' :: Text.unwords ' ' ["-j".toList, "DROP".toList] := by
    decide
  apply String.toList_injective
  rw [toList_line, List.map_append, Text.unwords_append ' ' (by simpa using hws) (by simp)]
  simp only [String.toList_append, hstart, hmiddle, hend]
  simp

theorem line_output (interface : String) (uid : ℕ) :
    s!"iptables -t filter -I OUTPUT -o {interface} -m owner ! --uid-owner {uid} -j DROP" =
      line (ruleCommand "-I" "OUTPUT" "-o" interface uid) :=
  @line_of_start interface uid "iptables -t filter -I OUTPUT -o "
    ["iptables", "-t", "filter", "-I", "OUTPUT", "-o"] (by decide) (by decide)

theorem line_input (interface : String) (uid : ℕ) :
    s!"iptables -t filter -I INPUT -i {interface} -m owner ! --uid-owner {uid} -j DROP" =
      line (ruleCommand "-I" "INPUT" "-i" interface uid) :=
  @line_of_start interface uid "iptables -t filter -I INPUT -i "
    ["iptables", "-t", "filter", "-I", "INPUT", "-i"] (by decide) (by decide)

theorem isWord_ruleCommand {op chain flag interface : String} (hop : op ∈ fixedWords)
    (hchain : chain ∈ fixedWords) (hflag : flag ∈ fixedWords) (h : InterfaceName interface)
    (uid : ℕ) : ∀ w ∈ ruleCommand op chain flag interface uid, IsWord w := by
  have hfixed := isWord_fixed
  have hop := hfixed op hop
  have hchain := hfixed chain hchain
  have hflag := hfixed flag hflag
  simp only [fixedWords, ruleCommand, List.forall_mem_cons] at hfixed ⊢
  obtain ⟨hiptables, htable, hfilter, -, -, -, -, -, -, hmatch, howner, hnot, hoption, htarget,
    hdrop, hnil⟩ := hfixed
  exact ⟨hiptables, htable, hfilter, hop, hchain, hflag, h.word, hmatch, howner, hnot, hoption,
    isWord_uid uid, htarget, hdrop, hnil⟩

/-- Replacing ` -I ` in a line replaces it in the list of words after the first one. -/
theorem deleteLine_line {w : String} {ws ws' : List String} (hws : ∀ v ∈ w :: ws, IsWord v)
    (h : Text.replaceWords "-I".toList "-D".toList (ws.map String.toList) =
      ws'.map String.toList) :
    deleteLine (line (w :: ws)) = line (w :: ws') := by
  have hspace : ∀ v ∈ (w :: ws).map String.toList, ' ' ∉ v := by
    intro v hv hmem
    obtain ⟨u, hu, rfl⟩ := List.mem_map.mp hv
    exact absurd ((hws u hu).2 ' ' hmem) (by decide)
  have hold : " -I ".toList = ' ' :: ("-I".toList ++ [' ']) := by decide
  have hnew : " -D ".toList = ' ' :: ("-D".toList ++ [' ']) := by decide
  apply String.toList_injective
  unfold deleteLine
  rw [String.toList_ofList, toList_line, toList_line, hold, hnew, List.map_cons, List.map_cons,
    Text.replace_unwords (by decide) hspace, h]

/-- The name of an interface is never taken for the option. -/
theorem deleteLine_ruleCommand {chain flag interface : String} (hchain : chain ∈ fixedWords)
    (hflag : flag ∈ fixedWords) (hne : flag ≠ "-I") (h : InterfaceName interface) (uid : ℕ) :
    deleteLine (line (ruleCommand "-I" chain flag interface uid)) =
      line (ruleCommand "-D" chain flag interface uid) := by
  refine deleteLine_line (isWord_ruleCommand (by decide) hchain hflag h uid) ?_
  have hflag' : flag.toList ≠ "-I".toList := fun heq => hne (String.toList_injective heq)
  have hname : interface.toList ≠ "-I".toList := fun heq =>
    h.ne_insert (String.toList_injective heq)
  have huid : (toString uid).toList ≠ "-I".toList := fun heq =>
    repr_uid_ne uid (String.toList_injective heq)
  have hother : ∀ w ∈ ["-t", "filter", "-m", "owner", "!", "--uid-owner", "-j"],
      w.toList ≠ "-I".toList := by decide
  simp only [List.forall_mem_cons] at hother
  obtain ⟨htable, hfilter, hmatch, howner, hnot, hoption, htarget, -⟩ := hother
  simp only [List.map_cons, List.map_nil, Text.replaceWords, if_neg htable, if_neg hfilter,
    if_true, if_neg hflag', if_neg hname, if_neg hmatch, if_neg howner, if_neg hnot,
    if_neg hoption, if_neg huid, if_neg htarget]

/-- **The lines** of an interface and a UID are the rules of `Rules`. -/
theorem applyLines_eq {interface : String} (h : InterfaceName interface) (uid : ℕ) :
    ∃ lines, buildKillswitchLines interface (some uid) = .ok lines ∧
      applyLines lines = applyRuleset (killswitchRules interface uid) ∧
      removeLines lines = removeRuleset (killswitchRules interface uid) := by
  have hinserts (chain flag : String) (hchain : chain ∈ fixedWords) (hflag : flag ∈ fixedWords) :
      executeLine (line (ruleCommand "-I" chain flag interface uid)) =
        execute (ruleCommand "-I" chain flag interface uid) :=
    executeLine_line (isWord_ruleCommand (by decide) hchain hflag h uid)
  have hdeletes (chain flag : String) (hchain : chain ∈ fixedWords) (hflag : flag ∈ fixedWords)
      (hne : flag ≠ "-I") :
      executeLine (deleteLine (line (ruleCommand "-I" chain flag interface uid))) =
        execute (ruleCommand "-D" chain flag interface uid) := by
    rw [deleteLine_ruleCommand hchain hflag hne h]
    exact executeLine_line (isWord_ruleCommand (by decide) hchain hflag h uid)
  have htwo {κ : Type} (m : κ → Act String Host Unit) (a b : κ) :
      [a, b].forM m = (m a >>= fun _ => m b >>= fun _ => pure ()) := rfl
  refine ⟨[line (ruleCommand "-I" "OUTPUT" "-o" interface uid),
    line (ruleCommand "-I" "INPUT" "-i" interface uid)], ?_, ?_, ?_⟩
  · rw [← line_output, ← line_input]
    rfl
  · unfold applyLines
    rw [htwo, hinserts _ _ (by decide) (by decide), hinserts _ _ (by decide) (by decide)]
    rfl
  · have hinterface : deletedInterface interface = interface := if_neg h.ne_insert
    have hinput := deleteRule_input interface uid
    have houtput := deleteRule_output interface uid
    rw [hinterface] at hinput houtput
    have hrules : (killswitchRules interface uid).rules.reverse =
        [["iptables", "-t", "filter", "-I", "INPUT"] ++ inputRule interface uid,
          ["iptables", "-t", "filter", "-I", "OUTPUT"] ++ outputRule interface uid] := rfl
    unfold removeLines removeRuleset
    rw [hrules, htwo, hinput, houtput, List.reverse_cons, List.reverse_singleton,
      List.singleton_append, htwo, hdeletes _ _ (by decide) (by decide) (by decide),
      hdeletes _ _ (by decide) (by decide) (by decide)]
    rfl

end Lines

/-! ## What others insert meanwhile -/

/-- A rule that someone else puts into a chain, at its head or at its end. -/
structure Insertion where
  chain : String
  rule : Rule
  atEnd : Bool
  deriving DecidableEq, Repr

def Insertion.place (i : Insertion) (c : Chain) : Chain :=
  if i.atEnd then c ++ [⟨i.rule, false⟩] else ⟨i.rule, false⟩ :: c

def Filter.insert (f : Filter) (i : Insertion) : Filter :=
  if i.chain = "OUTPUT" then { f with output := i.place f.output }
  else if i.chain = "INPUT" then { f with input := i.place f.input }
  else f

/-- It is none of the rules of the kill-switch. -/
def Insertion.Other (interface : String) (uid : ℕ) (i : Insertion) : Prop :=
  i.rule ≠ outputRule interface uid ∧ i.rule ≠ inputRule interface uid

theorem Insertion.rules_place (i : Insertion) {c : Chain} {rule : Rule} (h : rule ∈ c.rules) :
    rule ∈ (i.place c).rules := by
  unfold Insertion.place Chain.rules at *
  split
  · rw [List.map_append]
    exact List.mem_append_left _ h
  · exact List.mem_cons_of_mem _ h

/-- Another rule is put at the same place before and after a deletion. -/
theorem Insertion.delete_place {i : Insertion} {c : Chain} {rule : Rule} (hne : i.rule ≠ rule)
    (h : rule ∈ c.rules) : (i.place c).delete rule = i.place (c.delete rule) := by
  unfold Insertion.place Chain.delete
  split
  · obtain ⟨e, he, hrule⟩ := List.mem_map.mp h
    exact List.eraseP_append_left (by simpa using hrule) _ he
  · exact List.eraseP_cons_of_neg (by simpa using hne)

/-- Both rules of the kill-switch are in their chains. -/
def Filter.Holds (interface : String) (uid : ℕ) (f : Filter) : Prop :=
  outputRule interface uid ∈ f.output.rules ∧ inputRule interface uid ∈ f.input.rules

/-- The filter without the first entries for both rules. -/
def Filter.without (interface : String) (uid : ℕ) (f : Filter) : Filter where
  output := f.output.delete (outputRule interface uid)
  input := f.input.delete (inputRule interface uid)

section Insertions

variable {interface : String} {uid : ℕ} {f : Filter}

/-- One insertion leaves the rules there, and is the same without them. -/
theorem insert_without {i : Insertion} (hother : i.Other interface uid)
    (h : f.Holds interface uid) :
    (f.insert i).Holds interface uid ∧
      (f.insert i).without interface uid = (f.without interface uid).insert i := by
  obtain ⟨houtput, hinput⟩ := h
  unfold Filter.insert
  by_cases ho : i.chain = "OUTPUT"
  · rw [if_pos ho, if_pos ho]
    refine ⟨⟨i.rules_place houtput, hinput⟩, ?_⟩
    unfold Filter.without
    rw [i.delete_place hother.1 houtput]
  · rw [if_neg ho, if_neg ho]
    by_cases hi : i.chain = "INPUT"
    · rw [if_pos hi, if_pos hi]
      refine ⟨⟨houtput, i.rules_place hinput⟩, ?_⟩
      unfold Filter.without
      rw [i.delete_place hother.2 hinput]
    · rw [if_neg hi, if_neg hi]
      exact ⟨⟨houtput, hinput⟩, rfl⟩

/-- So are any number of insertions. -/
theorem foldl_insert_without {others : List Insertion}
    (hothers : ∀ i ∈ others, i.Other interface uid) (h : f.Holds interface uid) :
    (others.foldl Filter.insert f).Holds interface uid ∧
      (others.foldl Filter.insert f).without interface uid =
        others.foldl Filter.insert (f.without interface uid) := by
  induction others generalizing f with
  | nil => exact ⟨h, rfl⟩
  | cons i others ih =>
    obtain ⟨hi, hrest⟩ := List.forall_mem_cons.mp hothers
    obtain ⟨hholds, hwithout⟩ := insert_without hi h
    rw [List.foldl_cons, List.foldl_cons, ← hwithout]
    exact ih hrest hholds

end Insertions

/-! ## Removing what was applied -/

/-- A firewall on which every command may run. -/
def Host.running (f : Filter) : Host := ⟨f, .const .runs⟩

section Restore

variable {interface : String} (uid : ℕ) (f : Filter)

theorem applyRuleset_running :
    applyRuleset (killswitchRules interface uid) (.running f) =
      (.ok (), .running (f.apply interface uid)) := by
  rcases applyRuleset_cases interface uid (.running f) with ⟨hfate, -⟩ | ⟨-, hfate, -⟩ | ⟨-, -, h⟩
  · exact absurd rfl hfate
  · exact absurd rfl hfate
  · exact h

theorem removeRuleset_running (h : InterfaceName interface) (hholds : f.Holds interface uid) :
    removeRuleset (killswitchRules interface uid) (.running f) =
      (.ok (), .running (f.without interface uid)) := by
  have hinterface : deletedInterface interface = interface := if_neg h.ne_insert
  have hinput : DeletesInput interface uid (.running f) := ⟨rfl, by rw [hinterface]; exact hholds.2⟩
  have houtput : DeletesOutput interface uid (.running f) :=
    ⟨rfl, by rw [hinterface]; exact hholds.1⟩
  have hremove : f.remove interface uid = f.without interface uid := by
    unfold Filter.remove Filter.removeFirst Filter.without
    rw [hinterface]
  rcases removeRuleset_cases interface uid (.running f) with ⟨hnot, -⟩ | ⟨-, hnot, -⟩ | ⟨-, -, h⟩
  · exact absurd hinput hnot
  · exact absurd houtput hnot
  · rw [h, ← hremove]
    rfl

theorem apply_without (interface : String) :
    (f.apply interface uid).Holds interface uid ∧
      (f.apply interface uid).without interface uid = f := by
  refine ⟨⟨List.mem_cons_self, List.mem_cons_self⟩, ?_⟩
  unfold Filter.apply Filter.applyFirst Filter.without Chain.delete
  rw [List.eraseP_cons_of_pos (by simp), List.eraseP_cons_of_pos (by simp)]

/-- **Removing restores.** After the lines were applied and others have put rules of their own into
the chains, removing the lines succeeds, and both chains are what the others alone would have made
of them. -/
theorem remove_restores (hname : InterfaceName interface) {others : List Insertion}
    (hothers : ∀ i ∈ others, i.Other interface uid) :
    ∃ lines applied, buildKillswitchLines interface (some uid) = .ok lines ∧
      applyLines lines (.running f) = (.ok (), .running applied) ∧
      removeLines lines (.running (others.foldl Filter.insert applied)) =
        (.ok (), .running (others.foldl Filter.insert f)) := by
  obtain ⟨lines, hbuild, happly, hremove⟩ := applyLines_eq hname uid
  obtain ⟨hholds, hrest⟩ := apply_without uid f interface
  obtain ⟨hholds', hrest'⟩ := foldl_insert_without hothers hholds
  refine ⟨lines, f.apply interface uid, hbuild, ?_, ?_⟩
  · rw [happly, applyRuleset_running]
  · rw [hremove, removeRuleset_running uid _ hname hholds', hrest', hrest]

end Restore

/-- The rule of the kill-switch is in the chain already, and a rule is appended meanwhile. -/
theorem remove_restores_duplicate :
    ∃ lines applied, buildKillswitchLines "tun0" (some 1000) = .ok lines ∧
      applyLines lines (.running ⟨[⟨outputRule "tun0" 1000, false⟩], []⟩) =
        (.ok (), .running applied) ∧
      removeLines lines (.running ([⟨"OUTPUT", ["-j", "ACCEPT"], true⟩].foldl Filter.insert applied)) =
        (.ok (), .running ([⟨"OUTPUT", ["-j", "ACCEPT"], true⟩].foldl Filter.insert
          ⟨[⟨outputRule "tun0" 1000, false⟩], []⟩)) := by
  refine remove_restores 1000 _ ⟨Text.isWord_iff_all.mpr (by decide), by decide⟩ ?_
  unfold Insertion.Other
  decide

end Bimarz.KillSwitch
