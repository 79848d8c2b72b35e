import Bimarz.Effect.Run
import Bimarz.KillSwitch.Manager
import Mathlib.Logic.Function.Basic

/-!
# The kill-switch manager under every interleaving

Any number of threads call one `KillSwitchManager` while the watcher threads that it has started
run. A section of the source that holds a lock is one step, so is each read and write of the stop
event, and so is everything that a thread waits for in between: `poll_fn`, the commands of the
firewall, a join. A turn says which thread takes its next step and what the environment answers;
a thread that cannot go on lets its turn pass.

1. `Phase` and `Pc` are the places in the code of a watcher and of a call.
2. `step` gives a thread its turn.
3. `Move` says once what a turn can do.
-/

namespace Bimarz.KillSwitch

/-! ## What the sections write -/

namespace KillSwitchState

/-- The record that `activate` writes. -/
def activated (kernelCapable : Bool) (interface : String) (xrayUid : Option ℤ) :
    KillSwitchState where
  kernelCapable
  active := true
  interface := some interface
  xrayUid
  watcherState := .notStarted
  triggered := false
  triggerReason := none

/-- The record that `_trigger` writes. -/
def died (st : KillSwitchState) (reason : String) : KillSwitchState :=
  { st with
    active := true, watcherState := .processDied, triggered := true, triggerReason := some reason }

/-- The record that `start_process_watcher` writes. -/
def watched (st : KillSwitchState) : KillSwitchState :=
  { st with watcherState := .running, triggered := false, triggerReason := none }

/-- The record that three places write: a running watcher becomes a stopped one. -/
def unwatched (st : KillSwitchState) : KillSwitchState :=
  if st.watcherState = .running then { st with watcherState := .stopped } else st

/-- The record that `deactivate` writes, from the state that it read first. -/
def deactivated (current : KillSwitchState) : KillSwitchState where
  kernelCapable := current.kernelCapable
  active := false
  interface := none
  xrayUid := none
  watcherState := .stopped
  triggered := current.triggered
  triggerReason := current.triggerReason

section Unwatched

variable (st : KillSwitchState)

@[simp] theorem unwatched_active : st.unwatched.active = st.active := by
  unfold unwatched; split <;> rfl

@[simp] theorem unwatched_interface : st.unwatched.interface = st.interface := by
  unfold unwatched; split <;> rfl

@[simp] theorem unwatched_triggered : st.unwatched.triggered = st.triggered := by
  unfold unwatched; split <;> rfl

@[simp] theorem unwatched_triggerReason : st.unwatched.triggerReason = st.triggerReason := by
  unfold unwatched; split <;> rfl

end Unwatched

end KillSwitchState

/-! ## Threads and where they are -/

/-- A thread: one of the program's own, or a watcher. A watcher calls the manager only from inside
its `poll_fn`. -/
inductive Thread
  | caller (id : ℕ)
  | watcher (id : ℕ)
  deriving DecidableEq, Repr

/-- What a call asks for. An infinite interval acts as one above `timeoutMax`, a NaN as a small
one. -/
inductive Request
  | activate (interface : String) (xrayUid : Option ℤ)
  | deactivate
  | startProcessWatcher (intervalSeconds : ℚ)
  | stopProcessWatcher

/-- The longest timeout in seconds that `Event.wait` takes: `LLONG_MAX` nanoseconds in whole
microseconds. It raises `OverflowError` on a longer one. -/
def timeoutMax : ℚ := 9223372036854775 / 1000000

/-- A poll after which a watcher calls `_trigger`. -/
inductive Failure
  | dead
  | raised (message : String)
  deriving DecidableEq, Repr

/-- The reason that a watcher gives to `_trigger`. -/
def Failure.reason : Failure → String
  | .dead => "xray-core unexpectedly stopped"
  | .raised message => s!"Xray liveness check failed: {message}"

/-- What a `poll_fn` does: it returns `True`, it returns `False` or raises, or it raises an
exception whose `str` raises in turn. -/
inductive Poll
  | alive
  | failed (failure : Failure)
  | unprintable
  deriving DecidableEq, Repr

/-- Where a watcher thread is. From `finishing` on, the failure is the one it has called
`_trigger` for, if it has. -/
inductive Phase
  | unborn
  /-- `Thread.start` has raised -/
  | unstarted
  /-- `while not self._stop_event.is_set()` -/
  | checking
  | polling
  /-- `if self._stop_event.is_set(): return` after a poll -/
  | failed (failure : Failure)
  /-- the same place, before a text that cannot be made -/
  | unprintable
  /-- the section of `_trigger` -/
  | triggering (failure : Failure)
  /-- `self._stop_event.set()` in `_trigger` -/
  | signalling (failure : Failure)
  /-- `self._stop_event.wait(interval_seconds)` -/
  | waiting
  /-- the first section of the `finally` block -/
  | finishing (exit : Option Failure)
  /-- its second section -/
  | clearing (exit : Option Failure)
  | ending (exit : Option Failure)
  | ended (exit : Option Failure)
  deriving DecidableEq, Repr

namespace Phase

/-- The thread is inside its polling loop and has not recorded a trigger. -/
def watches : Phase → Bool
  | .checking | .polling | .failed _ | .unprintable | .triggering _ | .waiting => true
  | _ => false

/-- The thread is inside its polling loop. -/
def inLoop : Phase → Bool
  | .signalling _ => true
  | ph => ph.watches

/-- The thread has been started and has not cleared the pointer yet. -/
def holdsPointer : Phase → Bool
  | .finishing _ | .clearing _ => true
  | ph => ph.inLoop

/-- `Thread.is_alive`. -/
def isAlive : Phase → Bool
  | .ending _ => true
  | ph => ph.holdsPointer

/-- How a watcher has left its loop. -/
def exit? : Phase → Option (Option Failure)
  | .finishing exit | .clearing exit | .ending exit | .ended exit => some exit
  | _ => none

end Phase

/-- How a call has ended. -/
inductive Outcome
  | returned
  | returnedBool (value : Bool)
  | raised (e : Exc)
  deriving DecidableEq, Repr

/-- Where a thread is in a call. `next` is the snapshot of the `deactivate` that has called
`stop_process_watcher`, if one has. -/
inductive Pc
  | idle (last : Option Outcome)
  /-- the probe and the commands of `activate` -/
  | activating (interface : String) (xrayUid : Option ℤ)
  /-- the removal of the rules in `deactivate` -/
  | removing (current : KillSwitchState)
  /-- `self._stop_event.set()` -/
  | requesting (next : Option KillSwitchState)
  /-- `thread = self._watcher_thread` -/
  | reading (next : Option KillSwitchState)
  /-- `thread.join(timeout=2.0)` and `thread.is_alive()` -/
  | joining (watcher : ℕ) (next : Option KillSwitchState)
  /-- `self._watcher_thread = None`, if it is still this thread -/
  | dropping (watcher : ℕ) (next : Option KillSwitchState)
  /-- the last section of `stop_process_watcher` -/
  | marking (next : Option KillSwitchState)
  /-- the last section of `deactivate` -/
  | writing (current : KillSwitchState)
  deriving DecidableEq, Repr

namespace Pc

def isIdle : Pc → Bool
  | .idle _ => true
  | _ => false

/-- The state that a `deactivate` has read. -/
def snapshot : Pc → Option KillSwitchState
  | .idle _ | .activating _ _ => none
  | .removing current | .writing current => some current
  | .requesting next | .reading next | .joining _ next | .dropping _ next | .marking next => next

/-- The call has set the stop event. -/
def hasRequested : Pc → Bool
  | .reading _ | .joining _ _ | .dropping _ _ | .marking _ | .writing _ => true
  | _ => false

/-- Where a thread goes on when `stop_process_watcher` returns. -/
def stopped (value : Bool) : Option KillSwitchState → Pc
  | none => .idle (some (.returnedBool value))
  | some current => if value then .writing current else .idle (some .returned)

end Pc

/-! ## The system -/

/-- The manager, its watchers and the calls under way. Two fields are only for the statements:
`asked`, whether `stop_process_watcher` has set the stop event since it was last cleared, and
`activated`, the interface of the last `activate` that wrote the state. -/
structure Threads where
  state : KillSwitchState
  watcherThread : Option ℕ
  stopEvent : Bool
  /-- how many watcher threads have been created -/
  started : ℕ
  watcher : ℕ → Phase
  /-- the `interval_seconds` of each watcher -/
  interval : ℕ → ℚ
  calls : Thread → Pc
  asked : Bool
  activated : Option String

namespace Threads

/-- `KillSwitchManager.__init__`. -/
def init : Threads where
  state := { kernelCapable := false, active := false }
  watcherThread := none
  stopEvent := false
  started := 0
  watcher _ := .unborn
  interval _ := 0
  calls _ := .idle none
  asked := false
  activated := none

variable (s : Threads)

def setCall (t : Thread) (pc : Pc) : Threads := { s with calls := Function.update s.calls t pc }

def setPhase (w : ℕ) (ph : Phase) : Threads :=
  { s with watcher := Function.update s.watcher w ph }

def setState (state : KillSwitchState) : Threads := { s with state }

def finish (t : Thread) (outcome : Outcome) : Threads := s.setCall t (.idle (some outcome))

@[simp] theorem setCall_self (t : Thread) (pc : Pc) : (s.setCall t pc).calls t = pc := by
  simp [setCall]

theorem setCall_of_ne {t t' : Thread} (pc : Pc) (h : t' ≠ t) :
    (s.setCall t pc).calls t' = s.calls t' := by
  simp [setCall, h]

@[simp] theorem setCall_watcher (t : Thread) (pc : Pc) :
    (s.setCall t pc).watcher = s.watcher := rfl

@[simp] theorem setPhase_self (w : ℕ) (ph : Phase) : (s.setPhase w ph).watcher w = ph := by
  simp [setPhase]

theorem setPhase_of_ne {v w : ℕ} (ph : Phase) (h : w ≠ v) :
    (s.setPhase v ph).watcher w = s.watcher w := by
  simp [setPhase, h]

@[simp] theorem setState_watcher (st : KillSwitchState) :
    (s.setState st).watcher = s.watcher := rfl

@[simp] theorem finish_self (t : Thread) (outcome : Outcome) :
    (s.finish t outcome).calls t = .idle (some outcome) := s.setCall_self t _

theorem finish_of_ne {t t' : Thread} (outcome : Outcome) (h : t' ≠ t) :
    (s.finish t outcome).calls t' = s.calls t' := s.setCall_of_ne _ h

/-- `current is not None and current.is_alive()`. -/
def watcherAlive : Bool :=
  match s.watcherThread with
  | none => false
  | some w => (s.watcher w).isAlive

/-! ## Calls -/

def alreadyActive : Exc :=
  .error .runtimeError "kill-switch is already active; deactivate it before reactivating"

def alreadyTriggered : Exc :=
  .error .runtimeError "kill-switch watcher cannot restart after a trigger"

def badInterval : Exc := .error .valueError "interval_seconds must be greater than zero"

/-- The end of the section of `start_process_watcher`: a new thread, which may fail to start. -/
def launch (t : Thread) (intervalSeconds : ℚ) (starts : Bool) : Threads :=
  { s with
    state := s.state.watched
    watcherThread := some s.started
    stopEvent := false
    started := s.started + 1
    watcher := Function.update s.watcher s.started (if starts then .checking else .unstarted)
    interval := Function.update s.interval s.started intervalSeconds
    asked := false }.finish t (if starts then .returned else .raised cannotStart)

/-- `self._stop_event.set()` in `stop_process_watcher`. -/
def requestStop (t : Thread) (next : Option KillSwitchState) : Threads :=
  { s with stopEvent := true, asked := true }.setCall t (.reading next)

/-- A call and its first section. -/
def begin (t : Thread) (ok : Bool) : Request → Threads
  | .activate interface xrayUid =>
    if s.state.active then
      if s.state.interface = some interface ∧ s.state.xrayUid = xrayUid ∧ !s.state.triggered then
        s.finish t .returned
      else s.finish t (.raised alreadyActive)
    else s.setCall t (.activating interface xrayUid)
  | .deactivate => s.setCall t (.removing s.state)
  | .startProcessWatcher intervalSeconds =>
    if intervalSeconds ≤ 0 then s.finish t (.raised badInterval)
    else if s.watcherAlive then s.finish t .returned
    else if s.state.watcherState = .processDied then s.finish t (.raised alreadyTriggered)
    else s.launch t intervalSeconds ok
  | .stopProcessWatcher => s.requestStop t none

/-- `thread.join(timeout=2.0)` and what follows; `ok` says that the timeout has not passed. -/
def join (t : Thread) (ok : Bool) (w : ℕ) (next : Option KillSwitchState) : Threads :=
  match s.watcher w with
  | .unstarted => s.finish t (.raised cannotJoin)
  | .ended _ => s.setCall t (.dropping w next)
  | _ => if ok then s else s.setCall t (Pc.stopped false next)

/-- The next step of a call. -/
def resume (t : Thread) (ok : Bool) : Threads :=
  match s.calls t with
  | .idle _ => s
  | .activating interface xrayUid =>
    { s with
      state := .activated ok interface xrayUid
      activated := some interface }.finish t .returned
  | .removing current =>
    if current.kernelCapable ∧ current.active ∧ current.interface.isSome ∧ !ok then
      s.finish t .returned
    else s.setCall t (.requesting (some current))
  | .requesting next => s.requestStop t next
  | .reading next =>
    match s.watcherThread with
    | none => s.setCall t (.marking next)
    | some w =>
      if t = .watcher w then s.setCall t (Pc.stopped false next)
      else s.setCall t (.joining w next)
  | .joining w next => s.join t ok w next
  | .dropping w next =>
    { s with
      watcherThread := if s.watcherThread = some w then none else s.watcherThread }.setCall t
        (.marking next)
  | .marking next => (s.setState s.state.unwatched).setCall t (Pc.stopped true next)
  | .writing current => (s.setState current.deactivated).finish t .returned

/-! ## Watchers -/

/-- The next step of a watcher thread; `poll` is what its `poll_fn` does. -/
def watch (w : ℕ) (poll : Poll) : Threads :=
  match s.watcher w with
  | .unborn | .unstarted | .ended _ => s
  | .checking => s.setPhase w (if s.stopEvent then .finishing none else .polling)
  | .polling =>
    -- a call that `poll_fn` makes returns before it does
    if (s.calls (.watcher w)).isIdle then
      match poll with
      | .alive => s.setPhase w .waiting
      | .failed failure => s.setPhase w (.failed failure)
      | .unprintable => s.setPhase w .unprintable
    else s
  | .failed failure => s.setPhase w (if s.stopEvent then .finishing none else .triggering failure)
  -- the stop event or `f"{exc}"` ends the loop
  | .unprintable => s.setPhase w (.finishing none)
  | .triggering failure =>
    if s.stopEvent then s.setPhase w (.finishing (some failure))
    else if !s.state.active then s.setPhase w (.finishing (some failure))
    else (s.setState (s.state.died failure.reason)).setPhase w (.signalling failure)
  | .signalling failure => { s with stopEvent := true }.setPhase w (.finishing (some failure))
  | .waiting =>
    if s.stopEvent then s.setPhase w (.finishing none)
    else if timeoutMax < s.interval w then s.setPhase w (.finishing none)
    else s.setPhase w .checking
  | .finishing exit => (s.setState s.state.unwatched).setPhase w (.clearing exit)
  | .clearing exit =>
    { s with
      watcherThread := if s.watcherThread = some w then none else s.watcherThread }.setPhase w
        (.ending exit)
  | .ending exit => s.setPhase w (.ended exit)

/-! ## Turns -/

/-- A thread may execute code of a call. -/
def mayCall : Thread → Bool
  | .caller _ => true
  | .watcher w => s.watcher w = .polling

end Threads

/-- Whose turn it is, and what the environment answers. -/
inductive Turn
  | call (t : Thread) (request : Request) (ok : Bool)
  | resume (t : Thread) (ok : Bool)
  | watch (w : ℕ) (poll : Poll)

namespace Threads

def step (s : Threads) : Turn → Threads
  | .call t request ok => if s.mayCall t ∧ (s.calls t).isIdle then s.begin t ok request else s
  | .resume t ok => if s.mayCall t then s.resume t ok else s
  | .watch w poll => s.watch w poll

/-- The state after the turns `turns`. -/
abbrev run (turns : List Turn) : Threads := Effect.runAll step init turns

/-! ## What a turn can do -/

/-- A thread goes on in a call, and nothing else changes. -/
structure Advances (s : Threads) (t : Thread) (pc : Pc) : Prop where
  snapshot : pc.snapshot = none ∨ pc.snapshot = some s.state ∨
    pc.snapshot = (s.calls t).snapshot
  requested : pc.hasRequested = true → (s.calls t).hasRequested = true
  joined : ∀ w next, pc = .dropping w next → ∃ exit, s.watcher w = .ended exit

/-- The next step of the watcher `w` raises inside its loop. -/
def Breaks (w : ℕ) (s : Threads) : Prop :=
  s.watcher w = .unprintable ∨ s.watcher w = .waiting ∧ timeoutMax < s.interval w

/-- What a turn makes of a state. -/
inductive Move (s : Threads) : Threads → Prop
  | stay : Move s s
  | advance (t : Thread) (pc : Pc) : s.Advances t pc → Move s (s.setCall t pc)
  | activate (t : Thread) (interface : String) (xrayUid : Option ℤ) (kernel : Bool) :
    s.calls t = .activating interface xrayUid →
    Move s ({ s with
      state := .activated kernel interface xrayUid
      activated := some interface }.finish t .returned)
  | launch (t : Thread) (intervalSeconds : ℚ) (starts : Bool) : s.watcherAlive = false →
    s.state.watcherState ≠ .processDied → Move s (s.launch t intervalSeconds starts)
  | request (t : Thread) (next : Option KillSwitchState) :
    next = none ∨ next = (s.calls t).snapshot → Move s (s.requestStop t next)
  | drop (t : Thread) (w : ℕ) (next : Option KillSwitchState) : s.calls t = .dropping w next →
    Move s ({ s with
      watcherThread := if s.watcherThread = some w then none else s.watcherThread }.setCall t
        (.marking next))
  | mark (t : Thread) (next : Option KillSwitchState) : s.calls t = .marking next →
    Move s ((s.setState s.state.unwatched).setCall t (Pc.stopped true next))
  | write (t : Thread) (current : KillSwitchState) : s.calls t = .writing current →
    Move s ((s.setState current.deactivated).finish t .returned)
  | proceed (w : ℕ) (ph : Phase) : (s.watcher w).watches = true → ph.watches = true →
    Move s (s.setPhase w ph)
  | leave (w : ℕ) (exit : Option Failure) : (s.watcher w).watches = true →
    s.stopEvent = true ∨ s.state.active = false ∧ exit ≠ none →
    Move s (s.setPhase w (.finishing exit))
  | crash (w : ℕ) : s.Breaks w → Move s (s.setPhase w (.finishing none))
  | trigger (w : ℕ) (failure : Failure) : s.watcher w = .triggering failure →
    s.stopEvent = false → s.state.active = true →
    Move s ((s.setState (s.state.died failure.reason)).setPhase w (.signalling failure))
  | signal (w : ℕ) (failure : Failure) : s.watcher w = .signalling failure →
    Move s ({ s with stopEvent := true }.setPhase w (.finishing (some failure)))
  | unwatch (w : ℕ) (exit : Option Failure) : s.watcher w = .finishing exit →
    Move s ((s.setState s.state.unwatched).setPhase w (.clearing exit))
  | clear (w : ℕ) (exit : Option Failure) : s.watcher w = .clearing exit →
    Move s ({ s with
      watcherThread := if s.watcherThread = some w then none else s.watcherThread }.setPhase w
        (.ending exit))
  | vanish (w : ℕ) (exit : Option Failure) : s.watcher w = .ending exit →
    Move s (s.setPhase w (.ended exit))

section Moves

variable (s : Threads)

theorem advances_idle (t : Thread) (outcome : Option Outcome) :
    s.Advances t (.idle outcome) where
  snapshot := Or.inl rfl
  requested h := by cases h
  joined _ _ h := by cases h

theorem move_finish (t : Thread) (outcome : Outcome) : Move s (s.finish t outcome) :=
  .advance t _ (s.advances_idle t _)

/-- Going on in the same call. -/
theorem move_setCall {t : Thread} {pc : Pc} (hsnapshot : pc.snapshot = (s.calls t).snapshot)
    (hrequested : pc.hasRequested = (s.calls t).hasRequested)
    (hjoined : ∀ w next, pc = .dropping w next → ∃ exit, s.watcher w = .ended exit) :
    Move s (s.setCall t pc) :=
  .advance t pc ⟨Or.inr (Or.inr hsnapshot), fun h => hrequested ▸ h, hjoined⟩

/-- `stop_process_watcher` returns `False`. -/
theorem move_stopped_false (t : Thread) (next : Option KillSwitchState) :
    Move s (s.setCall t (Pc.stopped false next)) := by
  cases next with
  | none => exact s.move_finish t _
  | some current => exact s.move_finish t _

/-- An `activate` ends at once or goes on to the commands. -/
theorem begin_activate (t : Thread) (ok : Bool) (interface : String) (xrayUid : Option ℤ) :
    (∃ outcome, s.begin t ok (.activate interface xrayUid) = s.finish t outcome) ∨
      s.begin t ok (.activate interface xrayUid) = s.setCall t (.activating interface xrayUid) := by
  unfold begin
  dsimp only
  split
  · split
    · exact Or.inl ⟨_, rfl⟩
    · exact Or.inl ⟨_, rfl⟩
  · exact Or.inr rfl

/-- A start ends at once, normally only if it finds a live watcher, or it creates one. -/
theorem begin_start (t : Thread) (ok : Bool) (intervalSeconds : ℚ) :
    (∃ outcome, s.begin t ok (.startProcessWatcher intervalSeconds) = s.finish t outcome ∧
      (outcome = .returned → s.watcherAlive = true)) ∨
    s.watcherAlive = false ∧ s.state.watcherState ≠ .processDied ∧
      s.begin t ok (.startProcessWatcher intervalSeconds) = s.launch t intervalSeconds ok := by
  unfold begin
  dsimp only
  split
  · exact Or.inl ⟨_, rfl, nofun⟩
  · split
    · next halive => exact Or.inl ⟨_, rfl, fun _ => halive⟩
    · next halive =>
      split
      · exact Or.inl ⟨_, rfl, nofun⟩
      · next hdied => exact Or.inr ⟨by simpa using halive, hdied, rfl⟩

theorem begin_move (t : Thread) (ok : Bool) (request : Request) :
    Move s (s.begin t ok request) := by
  cases request with
  | activate interface xrayUid =>
    rcases s.begin_activate t ok interface xrayUid with ⟨outcome, hends⟩ | hgoes
    · rw [hends]
      exact s.move_finish t outcome
    · rw [hgoes]
      refine .advance t _ ⟨Or.inl rfl, fun h => ?_, fun _ _ h => ?_⟩
      · cases h
      · cases h
  | deactivate =>
    refine .advance t _ ⟨Or.inr (Or.inl rfl), fun h => ?_, fun _ _ h => ?_⟩
    · cases h
    · cases h
  | startProcessWatcher intervalSeconds =>
    rcases s.begin_start t ok intervalSeconds with ⟨outcome, hends, -⟩ | ⟨hdead, hdied, hlaunched⟩
    · rw [hends]
      exact s.move_finish t outcome
    · rw [hlaunched]
      exact .launch t intervalSeconds ok hdead hdied
  | stopProcessWatcher => exact .request t none (Or.inl rfl)

theorem join_move {t : Thread} {w : ℕ} {next : Option KillSwitchState} (ok : Bool)
    (h : s.calls t = .joining w next) : Move s (s.join t ok w next) := by
  unfold join
  split
  · exact s.move_finish t _
  · next exit hended =>
    refine s.move_setCall (by rw [h]; rfl) (by rw [h]; rfl) fun w' next' hpc => ?_
    cases hpc
    exact ⟨exit, hended⟩
  · cases ok with
    | true => exact .stay
    | false => exact s.move_stopped_false t next

theorem resume_move (t : Thread) (ok : Bool) : Move s (s.resume t ok) := by
  unfold resume
  cases h : s.calls t with
  | idle last => exact .stay
  | activating interface xrayUid => exact .activate t interface xrayUid ok h
  | removing current =>
    dsimp only
    split
    · exact s.move_finish t _
    · exact s.move_setCall (by rw [h]; rfl) (by rw [h]; rfl) fun _ _ hpc => by cases hpc
  | requesting next => exact .request t next (Or.inr (by rw [h]; rfl))
  | reading next =>
    dsimp only
    split
    · exact s.move_setCall (by rw [h]; rfl) (by rw [h]; rfl) fun _ _ hpc => by cases hpc
    · split
      · exact s.move_stopped_false t next
      · exact s.move_setCall (by rw [h]; rfl) (by rw [h]; rfl) fun _ _ hpc => by cases hpc
  | joining w next => exact s.join_move ok h
  | dropping w next => exact .drop t w next h
  | marking next => exact .mark t next h
  | writing current => exact .write t current h

theorem watch_move (w : ℕ) (poll : Poll) : Move s (s.watch w poll) := by
  unfold watch
  cases h : s.watcher w with
  | unborn => exact .stay
  | unstarted => exact .stay
  | ended exit => exact .stay
  | checking =>
    dsimp only
    split
    · next hstop => exact .leave w none (by rw [h]; rfl) (Or.inl hstop)
    · exact .proceed w .polling (by rw [h]; rfl) rfl
  | polling =>
    dsimp only
    split
    · cases poll with
      | alive => exact .proceed w .waiting (by rw [h]; rfl) rfl
      | failed failure => exact .proceed w (.failed failure) (by rw [h]; rfl) rfl
      | unprintable => exact .proceed w .unprintable (by rw [h]; rfl) rfl
    · exact .stay
  | failed failure =>
    dsimp only
    split
    · next hstop => exact .leave w none (by rw [h]; rfl) (Or.inl hstop)
    · exact .proceed w (.triggering failure) (by rw [h]; rfl) rfl
  | unprintable => exact .crash w (Or.inl h)
  | triggering failure =>
    dsimp only
    split
    · next hstop => exact .leave w (some failure) (by rw [h]; rfl) (Or.inl hstop)
    · next hstop =>
      split
      · next hoff =>
        exact .leave w (some failure) (by rw [h]; rfl) (Or.inr ⟨by simpa using hoff, by simp⟩)
      · next hon => exact .trigger w failure h (by simpa using hstop) (by simpa using hon)
  | signalling failure => exact .signal w failure h
  | waiting =>
    dsimp only
    split
    · next hstop => exact .leave w none (by rw [h]; rfl) (Or.inl hstop)
    · split
      · next hlong => exact .crash w (Or.inr ⟨h, hlong⟩)
      · exact .proceed w .checking (by rw [h]; rfl) rfl
  | finishing exit => exact .unwatch w exit h
  | clearing exit => exact .clear w exit h
  | ending exit => exact .vanish w exit h

/-- **A turn** makes one of these moves. -/
theorem step_move (turn : Turn) : Move s (s.step turn) := by
  cases turn with
  | call t request ok =>
    unfold step
    dsimp only
    split
    · exact s.begin_move t ok request
    · exact .stay
  | resume t ok =>
    unfold step
    dsimp only
    split
    · exact s.resume_move t ok
    · exact .stay
  | watch w poll => exact s.watch_move w poll

end Moves

end Threads

end Bimarz.KillSwitch
