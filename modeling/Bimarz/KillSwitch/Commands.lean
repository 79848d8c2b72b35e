import Bimarz.KillSwitch.Runs

/-!
# The kill-switch commands

`bimarz killswitch enable`, `disable` and `status` each run in a process of their own: the manager
is a fresh one every time, and only the firewall is still there when the next command comes. Here
every command that a process runs on it is allowed to take effect.
-/

namespace Bimarz.KillSwitch

open Effect Effect.Act

/-! ## One process -/

inductive Subcommand
  | enable (interface : String) (xrayUid : Option ℤ)
  | disable
  | status
  deriving DecidableEq, Repr

/-- A command, what `get_current_uid` answers in its process, whether the kernel can be probed
there, and whether a text with the interface in it can be printed. -/
structure Invocation where
  command : Subcommand
  currentUid : Option ℤ
  probe : Bool
  prints : Bool
  deriving DecidableEq, Repr

/-- `KillSwitchService.enable`. -/
def serviceEnable (currentUid : Option ℤ) (interface : String) (uid : Option ℤ) : Sys Unit :=
  System.activate interface (uid.or currentUid)

/-- `run_killswitch_enable`. -/
def runKillswitchEnable (currentUid : Option ℤ) (interface : String) (xrayUid : Option ℤ) :
    Sys Unit :=
  serviceEnable currentUid interface (xrayUid.or currentUid)

/-- `run_killswitch_disable`. -/
def runKillswitchDisable : Sys Unit := System.deactivate

/-- `run_killswitch_status`: whether it prints that the kill-switch is active. -/
def runKillswitchStatus : Sys Bool := reads (·.state.active)

/-- A new process on the firewall: a fresh manager, which has no watcher. -/
def Invocation.process (i : Invocation) (f : Filter) : System where
  manager := .init
  host := ⟨f, Stream'.const .runs⟩
  probes := Stream'.const i.probe
  prints := Stream'.const i.prints
  starts := Stream'.const true
  joins := Stream'.const true
  gaps := Stream'.const []

namespace Invocation

def isEnable (i : Invocation) : Bool :=
  match i.command with
  | .enable _ _ => true
  | _ => false

/-- The command is an `enable` that installs rules: the probe succeeds, and there is a UID to
exempt. -/
def installs (i : Invocation) : Bool :=
  match i.command with
  | .enable _ xrayUid => i.probe && (uidOf (xrayUid.or i.currentUid)).isSome
  | _ => false

end Invocation

/-! ## One command after the other -/

/-- What outlives the processes. `undisabled` is only for the statements: an `enable` since the
last `disable` has changed the firewall. -/
structure Terminal where
  filter : Filter
  undisabled : Bool
  deriving DecidableEq, Repr

namespace Terminal

def step (t : Terminal) (i : Invocation) : Terminal :=
  match i.command with
  | .enable interface xrayUid =>
    let s := (runKillswitchEnable i.currentUid interface xrayUid (i.process t.filter)).2
    { filter := s.filter, undisabled := t.undisabled || decide (s.filter ≠ t.filter) }
  | .disable => { filter := (runKillswitchDisable (i.process t.filter)).2.filter, undisabled := false }
  | .status => { t with filter := (runKillswitchStatus (i.process t.filter)).2.filter }

/-- A `disable` leaves no rule of an `enable`, and `status` says that the kill-switch is active
when the rules of an `enable` that has not been disabled are installed, and only then. -/
def Works (t : Terminal) (i : Invocation) : Prop :=
  match i.command with
  | .enable _ _ => True
  | .disable => (t.step i).filter.OwnFree
  | .status => (runKillswitchStatus (i.process t.filter)).1 = .ok true ↔
      t.undisabled = true ∧ ¬t.filter.OwnFree

/-- The rules of the kill-switch are those of an `enable` since the last `disable`. -/
def Synced (t : Terminal) : Prop := t.filter.OwnFree ↔ t.undisabled = false

end Terminal

section Steps

variable (t : Terminal) {i : Invocation}

/-- A fresh manager is not active, so `deactivate` has nothing to remove. -/
theorem disable_filter (i : Invocation) :
    (runKillswitchDisable (i.process t.filter)).2.filter = t.filter := by
  have hoff : ¬(i.process t.filter).switch.Kernel := not_kernel_of_inactive rfl
  obtain ⟨_, s', hrun, hfilter, -⟩ := deactivate_soft (i.process t.filter) (Or.inl hoff)
  rw [runKillswitchDisable, hrun]
  exact hfilter

/-- What an `enable` makes of the firewall. -/
theorem enable_filter {interface : String} {xrayUid : Option ℤ}
    (hcommand : i.command = .enable interface xrayUid) :
    (i.installs = false ∧ (t.step i).filter = t.filter) ∨
      (i.installs = true ∧ ∃ uid, (t.step i).filter = t.filter.apply interface uid) := by
  have hfilter : (t.step i).filter =
      (System.activate interface (xrayUid.or i.currentUid) (i.process t.filter)).2.filter := by
    simp [Terminal.step, hcommand, runKillswitchEnable, serviceEnable, Option.or_assoc]
  have hinstalls : i.installs = (i.probe && (uidOf (xrayUid.or i.currentUid)).isSome) := by
    simp [Invocation.installs, hcommand]
  rw [hfilter, hinstalls]
  rcases activate_cases (i.process t.filter) interface (xrayUid.or i.currentUid) with
    ⟨hactive, -⟩ | ⟨-, -, hf, hnot⟩ | ⟨-, uid, -, -, h₂, -⟩ | ⟨-, uid, ha, -, -, -, hf⟩ |
      ⟨-, uid, ha, -, -, -, hf⟩
  · cases hactive
  · refine Or.inl ⟨?_, hf⟩
    cases hu : uidOf (xrayUid.or i.currentUid) with
    | none => simp
    | some uid =>
      have hprobe : i.probe ≠ true := fun hprobe => hnot uid ⟨rfl, hprobe, hu⟩ rfl
      simp [hprobe]
  · exact absurd rfl h₂
  · have hprobe : i.probe = true := ha.2.1
    exact Or.inr ⟨by simp [hprobe, ha.2.2], uid, hf⟩
  · have hprobe : i.probe = true := ha.2.1
    exact Or.inr ⟨by simp [hprobe, ha.2.2], uid, hf⟩

/-- A rule that has just been inserted is the kill-switch's own. -/
theorem not_ownFree_apply (f : Filter) (interface : String) (uid : ℕ) :
    ¬(f.apply interface uid).OwnFree := by
  intro h
  have := h.1 ⟨outputRule interface uid, true⟩ List.mem_cons_self
  cases this

theorem apply_ne (f : Filter) (interface : String) (uid : ℕ) : f.apply interface uid ≠ f := by
  intro h
  have := congrArg (fun f => f.output.length) h
  simp [Filter.apply, Filter.applyFirst] at this

/-- An `enable` keeps the account of its rules. -/
theorem synced_enable (h : t.Synced) (hcommand : i.isEnable = true) :
    (t.step i).Synced ∧
      ((t.step i).undisabled = true ↔ t.undisabled = true ∨ i.installs = true) := by
  cases hc : i.command with
  | enable interface xrayUid =>
    have hundisabled : (t.step i).undisabled =
        (t.undisabled || decide ((t.step i).filter ≠ t.filter)) := by
      simp [Terminal.step, hc]
    unfold Terminal.Synced at h ⊢
    rw [hundisabled]
    rcases enable_filter t hc with ⟨hinstalls, hf⟩ | ⟨hinstalls, uid, hf⟩
    · simpa [hinstalls, hf] using h
    · simp [hinstalls, hf, not_ownFree_apply, apply_ne]
  | _ => simp [Invocation.isEnable, hc] at hcommand

/-- The other commands work when there is nothing to disable, and only then; they leave the
firewall as it is. -/
theorem works_iff (h : t.Synced) (hcommand : i.isEnable = false) :
    (t.Works i ↔ t.undisabled = false) ∧ (t.undisabled = false → t.step i = t) := by
  cases hc : i.command with
  | enable interface xrayUid => simp [Invocation.isEnable, hc] at hcommand
  | disable =>
    have hstep : t.step i = ⟨t.filter, false⟩ := by
      simp [Terminal.step, hc, disable_filter]
    refine ⟨?_, fun hnone => by rw [hstep, ← hnone]⟩
    simp only [Terminal.Works, hc, hstep]
    exact h
  | status =>
    have hstep : t.step i = t := by
      simp [Terminal.step, hc, runKillswitchStatus, Invocation.process]
    refine ⟨?_, fun _ => hstep⟩
    have hreports : (runKillswitchStatus (i.process t.filter)).1 = .ok false := rfl
    unfold Terminal.Synced at h
    simp only [Terminal.Works, hc, hreports, h]
    cases t.undisabled <;> simp

end Steps

/-- A run from a firewall whose rules are accounted for. -/
theorem works_run_iff {t : Terminal} (h : t.Synced) (invocations : List Invocation) :
    Each Terminal.step Terminal.Works t invocations ↔
      (t.undisabled = true → ∀ i ∈ invocations, i.isEnable = true) ∧
        invocations.Pairwise fun i j => i.installs = true → j.isEnable = true := by
  induction invocations generalizing t with
  | nil => simp [Each]
  | cons i invocations ih =>
    rw [Each, List.pairwise_cons]
    by_cases hcommand : i.isEnable = true
    · obtain ⟨hsynced, hundisabled⟩ := synced_enable t h hcommand
      have hworks : t.Works i := by
        cases hc : i.command with
        | enable interface xrayUid => simp [Terminal.Works, hc]
        | _ => simp [Invocation.isEnable, hc] at hcommand
      rw [ih hsynced, hundisabled]
      simp only [hworks, List.forall_mem_cons, hcommand]
      grind
    · have hother : i.isEnable = false := by simpa using hcommand
      have hinstalls : i.installs = false := by
        cases hc : i.command with
        | enable interface xrayUid => simp [Invocation.isEnable, hc] at hcommand
        | _ => simp [Invocation.installs, hc]
      obtain ⟨hworks, hstep⟩ := works_iff t h hother
      rw [hworks]
      constructor
      · rintro ⟨hnone, hrest⟩
        rw [hstep hnone, ih h] at hrest
        refine ⟨fun hsome => by simp [hnone] at hsome, ?_, hrest.2⟩
        simp [hinstalls]
      · rintro ⟨hsome, -, hrest⟩
        have hnone : t.undisabled = false := by
          by_contra hne
          have := hsome (by simpa using hne) i List.mem_cons_self
          simp [hother] at this
        refine ⟨hnone, ?_⟩
        rw [hstep hnone, ih h]
        exact ⟨fun hsome => by simp [hnone] at hsome, hrest⟩

/-- **The commands work together** on a firewall with the rules of others exactly when no
`disable` and no `status` comes after an `enable` that installs rules. -/
theorem commands_work_iff (output input : List Rule) (invocations : List Invocation) :
    Each Terminal.step Terminal.Works
        ⟨⟨output.map (⟨·, false⟩), input.map (⟨·, false⟩)⟩, false⟩ invocations ↔
      invocations.Pairwise fun i j => i.installs = true → j.isEnable = true := by
  have hsynced : Terminal.Synced ⟨⟨output.map (⟨·, false⟩), input.map (⟨·, false⟩)⟩, false⟩ :=
    iff_of_true ⟨ownFree_map output, ownFree_map input⟩ rfl
  rw [works_run_iff hsynced]
  simp

/-- A `disable` after an `enable` leaves both rules in the chains. -/
theorem disable_forgets :
    ¬∀ (output input : List Rule) (invocations : List Invocation),
      Each Terminal.step Terminal.Works
        ⟨⟨output.map (⟨·, false⟩), input.map (⟨·, false⟩)⟩, false⟩ invocations := by
  intro h
  have hworks := h [] [] [⟨.enable "tun0" (some 1000), some 1000, true, true⟩,
    ⟨.disable, some 1000, true, true⟩]
  obtain ⟨-, hfree, -⟩ := hworks
  revert hfree
  unfold Terminal.Works
  decide

end Bimarz.KillSwitch
