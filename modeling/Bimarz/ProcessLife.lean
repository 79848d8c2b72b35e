import Bimarz.ProcessService

/-!
# The life of a process service (`services/process.py`, `xray_manager.py`)

`stop` gives the process object up before it stops the process, and the directory whatever becomes
of the process. A service is started and stopped again and again, and its process may end at any
time. `tidy_iff` says which calls leave a process or a directory behind that nobody owns.
-/

namespace Bimarz.ProcessService

open Effect Effect.Act

/-! ## Stopping -/

/-- What `Popen.wait` with a timeout comes to, for a process that runs. -/
inductive Waited
  | ended
  /-- `TimeoutExpired` -/
  | timeout (message : String)
  /-- the wait itself is interrupted -/
  | interrupted (e : Exc)
  deriving DecidableEq

/-- What `XrayProcess.stop` meets. -/
structure Ending where
  terminate : Option Exc := none
  afterTerminate : Waited := .ended
  kill : Option Exc := none
  afterKill : Waited := .ended
  close : Option Exc := none
  /-- The threads that drain the pipes keep them open until the process has ended. -/
  drained : Bool := false

/-- The process has ended. -/
def Host.finish (h : Host) (pid : ℕ) : Host where
  running := h.running.filter fun pid' => pid' ≠ pid
  directories := h.directories
  configs := h.configs
  fresh := h.fresh
  running_lt pid' hpid' := h.running_lt pid' (List.mem_filter.mp hpid').1
  directories_lt := h.directories_lt

def raising : Option Exc → Act Exc World Unit
  | some e => raise e
  | none => pure ()

/-- `poll() is None`. -/
def polls (pid : ℕ) : Act Exc World Bool := reads fun w => w.host.running.contains pid

/-- `Popen.terminate` and `Popen.kill`: nothing is sent to a process that has ended. -/
def signal (pid : ℕ) (fault : Option Exc) : Act Exc World Unit := do
  if ← polls pid then raising fault

/-- `Popen.wait`; a text is that of `TimeoutExpired`. -/
def wait (pid : ℕ) (waited : Waited) : Act Exc World (Option String) := do
  if ← polls pid then
    match waited with
    | .ended => do
      onHost fun h => h.finish pid
      return none
    | .timeout message => return some message
    | .interrupted e => raise e
  else return none

/-- The wait of `XrayProcess.stop`, with `kill` after the first timeout. -/
def awaitEnd (ending : Ending) (pid : ℕ) : Act Exc World Unit := do
  match ← wait pid ending.afterTerminate with
  | none => return
  | some _ =>
    signal pid ending.kill
    match ← wait pid ending.afterKill with
    | none => return
    | some message => raise (.error .other message)

/-- Closing the pipes, which waits for the threads that read them. -/
def closeStreams (ending : Ending) (pid : ℕ) : Act Exc World Unit := do
  raising ending.close
  if ← polls pid then
    if ending.drained then onHost fun h => h.finish pid

/-- `XrayProcess.stop`. -/
def xrayStop (ending : Ending) (proc : XrayProcess) : Act Exc World Unit :=
  match proc.pid with
  | none => pure ()
  | some pid => do
    signal pid ending.terminate
    ensure (awaitEnd ending pid) (closeStreams ending pid)

/-- `ProcessService.stop`. -/
def stop (env : Env) (ending : Ending) : Act Exc World Unit := do
  let proc ← reads World.proc
  modify fun w => { w with proc := none }
  ensure
    (match proc with
    | some proc => xrayStop ending proc
    | none => pure ())
    (cleanupRuntime env)

/-! ## Lives -/

inductive Event
  | start (env : Env)
  | stop (env : Env) (ending : Ending)
  /-- a process ends by itself -/
  | exit (pid : ℕ)

def live (w : World) : Event → World
  | .start env => (start env w).2
  | .stop env ending => (stop env ending w).2
  | .exit pid => { w with host := w.host.finish pid }

/-- Nothing that was made since `base` is left without its owner: the service has the process that
runs, and the directory that is there. -/
structure Tidy (base : ℕ) (w : World) : Prop where
  running : ∀ pid ∈ w.host.running, base ≤ pid → ∃ proc, w.proc = some proc ∧ proc.pid = some pid
  directories : ∀ dir ∈ w.host.directories, base ≤ dir → w.runtimeDir = some dir

/-- A process that runs ends in time after SIGTERM, or else in time after SIGKILL. -/
def Ending.inTime (ending : Ending) : Bool :=
  match ending.afterTerminate with
  | .ended => true
  | .timeout _ => ending.kill.isNone && ending.afterKill = .ended
  | .interrupted _ => false

/-- A process that runs is brought to its end: in time, or because closing its pipes waits for
it. -/
def Ending.ends (ending : Ending) : Bool :=
  ending.terminate.isNone && (ending.inTime || (ending.close.isNone && ending.drained))

/-- A start is contained, and a stop ends the process that runs and can remove its directory. -/
def Clean (w : World) : Event → Prop
  | .start env => w.proc = none → env.Contained w
  | .stop env ending => ∀ proc, w.proc = some proc → env.fault .cleanup = none ∧
      ∀ pid, proc.pid = some pid → pid ∈ w.host.running → ending.ends = true
  | .exit _ => True

/-- What the service owns it owns as a whole: a process with the directory that its configuration is
in. -/
structure Kept (base : ℕ) (w : World) : Prop where
  base_le : base ≤ w.host.fresh
  idle : w.proc = none → w.runtimeDir = none
  runtimeDir : ∀ proc, w.proc = some proc → w.runtimeDir = some proc.configDir
  directory : ∀ proc, w.proc = some proc → proc.configDir ∈ w.host.directories
  config : ∀ proc, w.proc = some proc → (w.host.configs proc.configDir).isSome
  configDir_ge : ∀ proc, w.proc = some proc → base ≤ proc.configDir
  pid : ∀ proc, w.proc = some proc → ∃ pid, proc.pid = some pid ∧ base ≤ pid

/-! ### The steps of a stop -/

section Stop

variable {w : World} {pid : ℕ} {ending : Ending}

/-- The world without the process. -/
def World.finish (w : World) (pid : ℕ) : World := { w with host := w.host.finish pid }

theorem polls_running (h : pid ∈ w.host.running) : polls pid w = (.ok true, w) := by
  unfold polls
  rw [reads_apply, List.contains_iff_mem.mpr h]

theorem polls_gone (h : pid ∉ w.host.running) : polls pid w = (.ok false, w) := by
  unfold polls
  rw [reads_apply, Bool.eq_false_iff.mpr (mt List.contains_iff_mem.mp h)]

theorem signal_none {fault : Option Exc} (h : fault = none) (hrunning : pid ∈ w.host.running) :
    signal pid fault w = (.ok (), w) := by
  unfold signal
  rw [bind_ok (polls_running hrunning), h]
  rfl

theorem signal_some {fault : Option Exc} {e : Exc} (h : fault = some e)
    (hrunning : pid ∈ w.host.running) : signal pid fault w = (.error e, w) := by
  unfold signal
  rw [bind_ok (polls_running hrunning), h]
  rfl

theorem signal_gone (h : pid ∉ w.host.running) (fault : Option Exc) :
    signal pid fault w = (.ok (), w) := by
  unfold signal
  rw [bind_ok (polls_gone h)]
  rfl

theorem wait_ended {waited : Waited} (h : waited = .ended) (hrunning : pid ∈ w.host.running) :
    wait pid waited w = (.ok none, w.finish pid) := by
  unfold wait
  rw [bind_ok (polls_running hrunning), h]
  rfl

theorem wait_timeout {waited : Waited} {message : String} (h : waited = .timeout message)
    (hrunning : pid ∈ w.host.running) : wait pid waited w = (.ok (some message), w) := by
  unfold wait
  rw [bind_ok (polls_running hrunning), h]
  rfl

theorem wait_interrupted {waited : Waited} {e : Exc} (h : waited = .interrupted e)
    (hrunning : pid ∈ w.host.running) : wait pid waited w = (.error e, w) := by
  unfold wait
  rw [bind_ok (polls_running hrunning), h]
  rfl

theorem wait_gone (h : pid ∉ w.host.running) (waited : Waited) :
    wait pid waited w = (.ok none, w) := by
  unfold wait
  rw [bind_ok (polls_gone h)]
  rfl

theorem awaitEnd_snd (h : pid ∈ w.host.running) :
    (awaitEnd ending pid w).2 = if ending.inTime then w.finish pid else w := by
  unfold awaitEnd Ending.inTime
  cases hfirst : ending.afterTerminate with
  | ended =>
    rw [bind_ok (wait_ended rfl h)]
    rfl
  | interrupted e =>
    rw [bind_error (wait_interrupted rfl h)]
    rfl
  | timeout message =>
    rw [bind_ok (wait_timeout rfl h)]
    cases hkill : ending.kill with
    | some e => exact congrArg Prod.snd (bind_error (signal_some rfl h))
    | none =>
      refine (congrArg Prod.snd (bind_ok (signal_none rfl h))).trans ?_
      cases hsecond : ending.afterKill with
      | ended => exact congrArg Prod.snd (bind_ok (wait_ended rfl h))
      | timeout message => exact congrArg Prod.snd (bind_ok (wait_timeout rfl h))
      | interrupted e => exact congrArg Prod.snd (bind_error (wait_interrupted rfl h))

theorem finish_gone : pid ∉ (w.finish pid).host.running := by
  simp [World.finish, Host.finish]

theorem closeStreams_gone (h : pid ∉ w.host.running) : (closeStreams ending pid w).2 = w := by
  unfold closeStreams
  cases hclose : ending.close with
  | some e => rfl
  | none =>
    rw [bind_ok (show raising none w = (.ok (), w) from rfl), bind_ok (polls_gone h)]
    rfl

theorem closeStreams_running (h : pid ∈ w.host.running) :
    (closeStreams ending pid w).2 =
      if ending.close.isNone && ending.drained then w.finish pid else w := by
  unfold closeStreams
  cases hclose : ending.close with
  | some e => rfl
  | none =>
    rw [bind_ok (show raising none w = (.ok (), w) from rfl), bind_ok (polls_running h)]
    cases ending.drained <;> rfl

/-- Stopping a process that runs, whatever it raises. -/
theorem xrayStop_running {proc : XrayProcess} (hpid : proc.pid = some pid)
    (h : pid ∈ w.host.running) :
    (xrayStop ending proc w).2 = if ending.ends then w.finish pid else w := by
  unfold xrayStop
  rw [hpid]
  cases hterminate : ending.terminate with
  | some e =>
    have hends : ending.ends = false := by
      unfold Ending.ends
      rw [hterminate]
      rfl
    rw [hends]
    exact congrArg Prod.snd (bind_error (signal_some rfl h))
  | none =>
    refine (congrArg Prod.snd (bind_ok (signal_none rfl h))).trans ?_
    rw [ensure_snd, awaitEnd_snd h]
    unfold Ending.ends
    rw [hterminate]
    cases ending.inTime with
    | true => exact closeStreams_gone finish_gone
    | false => exact closeStreams_running h

theorem xrayStop_gone {proc : XrayProcess} (hpid : proc.pid = some pid)
    (h : pid ∉ w.host.running) : (xrayStop ending proc w).2 = w := by
  unfold xrayStop
  rw [hpid]
  refine (congrArg Prod.snd (bind_ok (signal_gone h _))).trans ?_
  have hawait : awaitEnd ending pid w = (.ok (), w) := by
    unfold awaitEnd
    rw [bind_ok (wait_gone h _)]
    rfl
  rw [ensure_snd, hawait]
  exact closeStreams_gone h

/-- The directory is given up, whatever becomes of it. -/
theorem cleanupRuntime_snd (env : Env) (w : World) :
    (cleanupRuntime env w).2 = match w.runtimeDir with
      | none => w
      | some dir => if env.fault .cleanup = none
          then { w with host := w.host.remove dir, runtimeDir := none }
          else { w with runtimeDir := none } := by
  cases hdir : w.runtimeDir with
  | none =>
    unfold cleanupRuntime
    rw [reads_bind_apply, modify_bind_apply, hdir]
    obtain ⟨host, proc, runtimeDir⟩ := w
    cases hdir
    rfl
  | some dir =>
    cases hcleanup : env.fault .cleanup with
    | none => rw [cleanup_none hdir hcleanup]; rfl
    | some e => rw [cleanup_some hdir hcleanup]; rfl

theorem xrayStop_snd {proc : XrayProcess} (hpid : proc.pid = some pid) :
    (xrayStop ending proc w).2 =
      if pid ∈ w.host.running ∧ ending.ends = true then w.finish pid else w := by
  by_cases hrunning : pid ∈ w.host.running
  · rw [xrayStop_running hpid hrunning]
    simp only [hrunning, true_and]
  · rw [xrayStop_gone hpid hrunning, if_neg fun h => hrunning h.1]

/-- The host when a process has been stopped, as far as it could be. -/
def Host.stopped (h : Host) (pid : ℕ) (ending : Ending) : Host :=
  if pid ∈ h.running ∧ ending.ends = true then h.finish pid else h

/-- Stopping a service that has a process. -/
theorem stop_snd {env : Env} {proc : XrayProcess} (hproc : w.proc = some proc) {dir : ℕ}
    (hdir : w.runtimeDir = some dir) (hpid : proc.pid = some pid) :
    (stop env ending w).2 = ⟨if env.fault .cleanup = none then (w.host.stopped pid ending).remove dir
      else w.host.stopped pid ending, none, none⟩ := by
  have hstop : (xrayStop ending proc { w with proc := none }).2 =
      ⟨w.host.stopped pid ending, none, w.runtimeDir⟩ := by
    rw [xrayStop_snd hpid]
    unfold Host.stopped World.finish
    split <;> rfl
  unfold stop
  rw [reads_bind_apply, modify_bind_apply, ensure_snd, hproc]
  refine (congrArg (fun w => (cleanupRuntime env w).2) hstop).trans ?_
  rw [cleanupRuntime_snd]
  simp only [hdir]
  split <;> rfl

/-- A service that has neither a process nor a directory has nothing to stop. -/
theorem stop_idle {env : Env} (hproc : w.proc = none) (hdir : w.runtimeDir = none) :
    (stop env ending w).2 = w := by
  obtain ⟨host, proc, runtimeDir⟩ := w
  cases hproc
  cases hdir
  rfl

end Stop

/-! ### The outcome of a start -/

section Start

variable {w : World}

/-- What a call of `start` leaves, on a service without a process. -/
inductive Outcome (env : Env) (w : World) : World → Prop
  | early (h : env.failure = some .early) : Outcome env w w
  | inside (h : env.failure = some .inside) (text : Option String) : Outcome env w
      ⟨if env.fault .cleanup = none then (w.host.mkdtemp.write w.host.fresh text).remove w.host.fresh
        else w.host.mkdtemp.write w.host.fresh text, none, none⟩
  | late (h : env.failure = some .late) : Outcome env w
      ⟨if env.fault .cleanup = none
        then (w.host.mkdtemp.filled w.host.fresh env.config).remove w.host.fresh
        else w.host.mkdtemp.filled w.host.fresh env.config, none, none⟩
  | ok (h : env.failure = none) (binary : String) : Outcome env w
      ⟨w.host.mkdtemp.filled w.host.fresh env.config,
        some (started (XrayProcess.new binary w.host.fresh) (w.host.fresh + 1)), some w.host.fresh⟩

theorem takeBack_snd {env : Env} {dir : ℕ} (hdir : w.runtimeDir = some dir) (e : Exc) :
    (takeBack env e w).2 =
      ⟨if env.fault .cleanup = none then w.host.remove dir else w.host, none, none⟩ := by
  cases hcleanup : env.fault .cleanup with
  | none => rw [takeBack_none hdir hcleanup, if_pos rfl]
  | some e' => rw [takeBack_some hdir hcleanup, if_neg nofun]

theorem start_outcome (env : Env) (hproc : w.proc = none) : Outcome env w (start env w).2 := by
  by_cases hearly : env.fault .lookup ≠ none ∨ env.binary = none ∨ env.fault .directory ≠ none
  · obtain ⟨e, hstart⟩ := start_early hproc hearly
    rw [hstart]
    exact .early (if_pos hearly)
  have hfailure : env.failure = if ∃ step ∈ insideSteps, env.fault step ≠ none then some .inside
      else if ∃ step ∈ lateSteps, env.fault step ≠ none then some .late else none := if_neg hearly
  simp only [not_or, not_not] at hearly
  obtain ⟨hlookup, hbinary, hdirectory⟩ := hearly
  obtain ⟨binary, hbinary⟩ := Option.ne_none_iff_exists'.mp hbinary
  rw [start_begun hproc hlookup hbinary hdirectory]
  by_cases hinside : ∃ step ∈ insideSteps, env.fault step ≠ none
  · rw [if_pos hinside] at hfailure
    obtain ⟨e, text, he, hrun⟩ := acquire_inside (w := w.prepared) hinside binary w.host.fresh
    rw [handle_caught hrun he, takeBack_snd rfl]
    exact .inside hfailure text
  rw [if_neg hinside] at hfailure
  simp only [not_exists, not_and, not_not] at hinside
  by_cases hlate : ∃ step ∈ lateSteps, env.fault step ≠ none
  · rw [if_pos hlate] at hfailure
    obtain ⟨e, he, hrun⟩ := acquire_late (w := w.prepared) hinside hlate binary w.host.fresh
    rw [handle_caught hrun he, takeBack_snd rfl]
    exact .late hfailure
  · rw [if_neg hlate] at hfailure
    simp only [not_exists, not_and, not_not] at hlate
    have hrun : acquire env binary w.host.fresh w.prepared = (.ok _, _) :=
      (acquire_run hinside binary w.host.fresh).trans
        (bind_ok (xrayStart_ok (spawn_none hinside) hlate binary w.host.fresh))
    rw [handle_ok hrun]
    exact .ok hfailure binary

end Start

/-! ### What a life keeps -/

section Life

variable {base : ℕ} {w : World}

theorem Kept.of_idle {host : Host} (h : base ≤ host.fresh) : Kept base ⟨host, none, none⟩ :=
  ⟨h, fun _ => rfl, nofun, nofun, nofun, nofun, nofun⟩

theorem stopped_fresh (h : Host) (pid : ℕ) (ending : Ending) :
    (h.stopped pid ending).fresh = h.fresh := by
  unfold Host.stopped
  split <;> rfl

theorem stopped_directories (h : Host) (pid : ℕ) (ending : Ending) :
    (h.stopped pid ending).directories = h.directories := by
  unfold Host.stopped
  split <;> rfl

theorem Kept.start (h : Kept base w) (env : Env) : Kept base (start env w).2 := by
  cases hproc : w.proc with
  | some proc =>
    rw [start_owned hproc]
    exact h
  | none =>
    have hlt : base ≤ w.host.fresh + 1 := Nat.le_succ_of_le h.base_le
    have hout := start_outcome env hproc
    generalize (ProcessService.start env w).2 = after at hout ⊢
    cases hout with
    | early => exact h
    | inside _ text =>
      refine Kept.of_idle ?_
      split <;> exact hlt
    | late =>
      refine Kept.of_idle ?_
      split <;> exact Nat.le_succ_of_le hlt
    | ok _ binary =>
      refine ⟨Nat.le_succ_of_le hlt, nofun, ?_, ?_, ?_, ?_, ?_⟩
      all_goals rintro _ ⟨⟩
      · rfl
      · exact List.mem_append_right _ (List.mem_singleton_self _)
      · exact (congrArg Option.isSome (if_pos rfl)).trans rfl
      · exact h.base_le
      · exact ⟨w.host.fresh + 1, rfl, hlt⟩

theorem Kept.stop (h : Kept base w) (env : Env) (ending : Ending) :
    Kept base (stop env ending w).2 := by
  cases hproc : w.proc with
  | none =>
    rw [stop_idle hproc (h.idle hproc)]
    exact h
  | some proc =>
    obtain ⟨pid, hpid, -⟩ := h.pid proc hproc
    rw [stop_snd hproc (h.runtimeDir proc hproc) hpid]
    refine Kept.of_idle ?_
    split
    · exact le_of_le_of_eq h.base_le (stopped_fresh _ _ _).symm
    · exact le_of_le_of_eq h.base_le (stopped_fresh _ _ _).symm

theorem Kept.live (h : Kept base w) (event : Event) : Kept base (live w event) := by
  cases event with
  | start env => exact h.start env
  | stop env ending => exact h.stop env ending
  | exit pid => exact ⟨h.base_le, h.idle, h.runtimeDir, h.directory, h.config, h.configDir_ge, h.pid⟩

/-! ### What a call leaves behind -/

/-- Everything is older. -/
def Host.Before (base : ℕ) (h : Host) : Prop :=
  (∀ pid ∈ h.running, pid < base) ∧ ∀ dir ∈ h.directories, dir < base

theorem tidy_idle_iff {host : Host} : Tidy base ⟨host, none, none⟩ ↔ host.Before base := by
  constructor
  · intro h
    refine ⟨fun pid hpid => ?_, fun dir hdir => ?_⟩
    · by_contra hnew
      obtain ⟨proc, hproc, -⟩ := h.running pid hpid (Nat.le_of_not_lt hnew)
      cases hproc
    · by_contra hnew
      cases h.directories dir hdir (Nat.le_of_not_lt hnew)
  · intro h
    exact ⟨fun pid hpid hnew => absurd (h.1 pid hpid) (Nat.not_lt_of_le hnew),
      fun dir hdir hnew => absurd (h.2 dir hdir) (Nat.not_lt_of_le hnew)⟩

/-- On a service without a process everything is older. -/
theorem Tidy.before (htidy : Tidy base w) (h : Kept base w) (hproc : w.proc = none) :
    w.host.Before base := by
  have hdir := h.idle hproc
  obtain ⟨host, proc, runtimeDir⟩ := w
  cases hproc
  cases hdir
  exact tidy_idle_iff.mp htidy

/-- A start leaves nothing behind exactly if it is contained. -/
theorem tidy_start_iff (h : Kept base w) (htidy : Tidy base w) (env : Env) :
    Tidy base (ProcessService.start env w).2 ↔ Clean w (.start env) := by
  cases hproc : w.proc with
  | some proc =>
    rw [start_owned hproc]
    exact iff_of_true htidy fun hnone => absurd (hproc.symm.trans hnone) nofun
  | none =>
    have hclean : Clean w (.start env) ↔ env.Contained w := forall_prop_of_true hproc
    have hout := start_outcome env hproc
    rw [hclean]
    unfold Env.Contained
    generalize (ProcessService.start env w).2 = after at hout ⊢
    cases hout with
    | early hfailure =>
      rw [hfailure]
      exact iff_of_true htidy (h.idle hproc)
    | inside hfailure text =>
      rw [hfailure, tidy_idle_iff]
      have hbefore := htidy.before h hproc
      cases hcleanup : env.fault .cleanup with
      | none =>
        refine iff_of_true ⟨hbefore.1, fun dir hdir => ?_⟩ rfl
        exact hbefore.2 dir (directories_removed w.host dir hdir)
      | some e =>
        refine iff_of_false (fun hafter => ?_) nofun
        have hmem : w.host.fresh ∈ w.host.directories ++ [w.host.fresh] :=
          List.mem_append_right _ (List.mem_singleton_self _)
        exact Nat.not_lt_of_le h.base_le (hafter.2 _ hmem)
    | late hfailure =>
      rw [hfailure, tidy_idle_iff]
      refine iff_of_false (fun hafter => ?_) id
      have hmem : w.host.fresh + 1 ∈ w.host.running ++ [w.host.fresh + 1] :=
        List.mem_append_right _ (List.mem_singleton_self _)
      have hlt := hafter.1 (w.host.fresh + 1)
      split at hlt
      · exact Nat.not_lt_of_le (Nat.le_succ_of_le h.base_le) (hlt hmem)
      · exact Nat.not_lt_of_le (Nat.le_succ_of_le h.base_le) (hlt hmem)
    | ok hfailure binary =>
      rw [hfailure]
      have hbefore := htidy.before h hproc
      refine iff_of_true ⟨fun pid hpid hnew => ?_, fun dir hdir hnew => ?_⟩ trivial
      · rcases List.mem_append.mp hpid with hold | hpid
        · exact absurd (hbefore.1 pid hold) (Nat.not_lt_of_le hnew)
        · exact ⟨_, rfl, congrArg some (List.mem_singleton.mp hpid).symm⟩
      · rcases List.mem_append.mp hdir with hold | hdir
        · exact absurd (hbefore.2 dir hold) (Nat.not_lt_of_le hnew)
        · exact congrArg some (List.mem_singleton.mp hdir).symm

/-- The process that the service has is the only new one. -/
theorem Tidy.stopped_iff (htidy : Tidy base w) {proc : XrayProcess} {pid : ℕ}
    (hproc : w.proc = some proc) (hpid : proc.pid = some pid) (hge : base ≤ pid) (ending : Ending) :
    (∀ pid' ∈ (w.host.stopped pid ending).running, pid' < base) ↔
      (pid ∈ w.host.running → ending.ends = true) := by
  constructor
  · intro hold hrunning
    by_contra hends
    unfold Host.stopped at hold
    rw [if_neg fun h => hends h.2] at hold
    exact Nat.not_lt_of_le hge (hold pid hrunning)
  · intro hends pid' hpid'
    by_contra hnew
    have hmem : pid' ∈ w.host.running ∧ pid' ≠ pid ∨ pid ∉ w.host.running ∧ pid' ∈ w.host.running := by
      unfold Host.stopped at hpid'
      split at hpid'
      · obtain ⟨hmem, hne⟩ := List.mem_filter.mp hpid'
        exact Or.inl ⟨hmem, of_decide_eq_true hne⟩
      · next hstays => exact Or.inr ⟨fun hrunning => hstays ⟨hrunning, hends hrunning⟩, hpid'⟩
    have howned (hrunning : pid' ∈ w.host.running) : pid' = pid := by
      obtain ⟨proc', hproc', hpid'⟩ := htidy.running pid' hrunning (Nat.le_of_not_lt hnew)
      cases hproc.symm.trans hproc'
      exact Option.some.inj (hpid'.symm.trans hpid)
    rcases hmem with ⟨hrunning, hne⟩ | ⟨hgone, hrunning⟩
    · exact hne (howned hrunning)
    · exact hgone (howned hrunning ▸ hrunning)

/-- The directory that the service has is the only new one. -/
theorem Tidy.removed (htidy : Tidy base w) {dir : ℕ} (hdir : w.runtimeDir = some dir) (pid : ℕ)
    (ending : Ending) :
    ∀ dir' ∈ ((w.host.stopped pid ending).remove dir).directories, dir' < base := by
  intro dir' hmem
  obtain ⟨hold, hne⟩ := List.mem_filter.mp hmem
  rw [stopped_directories] at hold
  by_contra hnew
  have howned := htidy.directories dir' hold (Nat.le_of_not_lt hnew)
  exact of_decide_eq_true hne (Option.some.inj (howned.symm.trans hdir))

/-- A stop leaves nothing behind exactly if it ends the process and removes the directory. -/
theorem tidy_stop_iff (h : Kept base w) (htidy : Tidy base w) (env : Env) (ending : Ending) :
    Tidy base (ProcessService.stop env ending w).2 ↔ Clean w (.stop env ending) := by
  cases hproc : w.proc with
  | none =>
    rw [stop_idle hproc (h.idle hproc)]
    exact iff_of_true htidy fun proc hsome => absurd (hproc.symm.trans hsome) nofun
  | some proc =>
    obtain ⟨pid, hpid, hge⟩ := h.pid proc hproc
    have hdir := h.runtimeDir proc hproc
    have hrunning := htidy.stopped_iff hproc hpid hge ending
    rw [stop_snd hproc hdir hpid, tidy_idle_iff]
    constructor
    · intro hbefore proc' hproc'
      cases hproc.symm.trans hproc'
      have hcleanup : env.fault .cleanup = none := by
        by_contra hcleanup
        rw [if_neg hcleanup] at hbefore
        have hmem := h.directory proc hproc
        rw [← stopped_directories w.host pid ending] at hmem
        exact Nat.not_lt_of_le (h.configDir_ge proc hproc) (hbefore.2 _ hmem)
      rw [if_pos hcleanup] at hbefore
      refine ⟨hcleanup, fun pid' hpid' => ?_⟩
      cases hpid.symm.trans hpid'
      exact hrunning.mp hbefore.1
    · intro hclean
      obtain ⟨hcleanup, hends⟩ := hclean proc hproc
      rw [if_pos hcleanup]
      exact ⟨hrunning.mpr (hends pid hpid), htidy.removed hdir pid ending⟩

theorem tidy_exit (htidy : Tidy base w) (pid : ℕ) : Tidy base (live w (.exit pid)) :=
  ⟨fun pid' hpid' hnew => htidy.running pid' (List.mem_filter.mp hpid').1 hnew, htidy.directories⟩

theorem tidy_live_iff (h : Kept base w) (htidy : Tidy base w) (event : Event) :
    Tidy base (live w event) ↔ Clean w event := by
  cases event with
  | start env => exact tidy_start_iff h htidy env
  | stop env ending => exact tidy_stop_iff h htidy env ending
  | exit pid => exact iff_of_true (tidy_exit htidy pid) trivial

theorem kept_new (host : Host) : Kept host.fresh ⟨host, none, none⟩ := Kept.of_idle (Nat.le_refl _)

theorem tidy_new (host : Host) : Tidy host.fresh ⟨host, none, none⟩ :=
  tidy_idle_iff.mpr ⟨host.running_lt, host.directories_lt⟩

end Life

/-- **A life of a service** on any host: in every state of it a process that the service has comes
with the directory that its configuration is in, and no process and no directory is left without
its owner exactly if every call is clean. -/
theorem life_tidy_iff (host : Host) (events : List Event) :
    Always live (Kept host.fresh) ⟨host, none, none⟩ events ∧
      (Always live (Tidy host.fresh) ⟨host, none, none⟩ events ↔
        Each live Clean ⟨host, none, none⟩ events) := by
  have hkept (w : World) (event : Event) (h : Kept host.fresh w) : Kept host.fresh (live w event) :=
    h.live event
  refine ⟨fun before after _ => ?_, ?_⟩
  · exact runAll_invariant hkept (kept_new host) before
  · exact always_iff_each hkept (fun _ event h htidy => tidy_live_iff h htidy event)
      (kept_new host) (tidy_new host) events

end Bimarz.ProcessService
