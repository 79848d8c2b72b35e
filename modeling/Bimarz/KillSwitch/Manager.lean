import Bimarz.KillSwitch.Rules
import Mathlib.Data.Rat.Defs

/-!
# The kill-switch manager

`KillSwitchManager` keeps a state record, a pointer to its watcher thread and a stop event. Each
section of the source that holds a lock is one function on the manager; the calls are programs
over the manager, the firewall and what the environment answers: whether the capability probe
succeeds, whether the console can print a text with an interface in it, whether a thread starts,
whether a join ends in time, and which sections the watcher thread runs while a call holds no lock
(`interleave`).
-/

namespace Bimarz.KillSwitch

open Effect Effect.Act

/-! ## State -/

inductive KillSwitchWatcherState
  | notStarted
  | running
  | stopped
  | processDied
  deriving DecidableEq, Repr

structure KillSwitchState where
  kernelCapable : Bool
  active : Bool
  interface : Option String := none
  xrayUid : Option ℤ := none
  watcherState : KillSwitchWatcherState := .notStarted
  triggered : Bool := false
  triggerReason : Option String := none
  deriving DecidableEq, Repr

/-- What `_watcher_thread` points to. A watcher clears the pointer before it ends, so a thread that
was started is alive; one that could not be started stays where it was put. -/
inductive WatcherThread
  | absent
  | unstarted
  | alive
  deriving DecidableEq, Repr

structure KillSwitchManager where
  state : KillSwitchState
  watcherThread : WatcherThread
  stopEvent : Bool
  deriving DecidableEq, Repr

namespace KillSwitchManager

/-- `KillSwitchManager.__init__`. -/
def init : KillSwitchManager where
  state := { kernelCapable := false, active := false }
  watcherThread := .absent
  stopEvent := false

/-- `is_watcher_alive`. -/
def isWatcherAlive (m : KillSwitchManager) : Bool := m.watcherThread = .alive

/-- `_trigger`. -/
def trigger (m : KillSwitchManager) (reason : String) : KillSwitchManager :=
  if m.stopEvent then m
  else if !m.state.active then m
  else { m with
    state := { m.state with
      active := true
      watcherState := .processDied
      triggered := true
      triggerReason := some reason }
    stopEvent := true }

/-- The section that three places share: a running watcher becomes a stopped one. -/
def markStopped (m : KillSwitchManager) : KillSwitchManager :=
  if m.state.watcherState = .running then
    { m with state := { m.state with watcherState := .stopped } }
  else m

def setState (m : KillSwitchManager) (state : KillSwitchState) : KillSwitchManager :=
  { m with state }

/-- `_watcher_thread = None`. -/
def clearThread (m : KillSwitchManager) : KillSwitchManager := { m with watcherThread := .absent }

def setStopEvent (m : KillSwitchManager) : KillSwitchManager := { m with stopEvent := true }

/-- The kill-switch is a kernel-level one, and its watcher has recorded a trigger. -/
def isTriggered (m : KillSwitchManager) : Bool :=
  m.state.active && m.state.kernelCapable && m.state.triggered

end KillSwitchManager

/-- The sections that a watcher thread runs. -/
inductive WatcherStep
  | trigger (reason : String)
  | markStopped
  | clearThread
  deriving DecidableEq, Repr

/-- A section of the watcher thread, if there is one. -/
def WatcherStep.run (m : KillSwitchManager) (step : WatcherStep) : KillSwitchManager :=
  if m.isWatcherAlive then
    match step with
    | .trigger reason => m.trigger reason
    | .markStopped => m.markStopped
    | .clearThread => m.clearThread
  else m

def cannotStart : Exc := .error .runtimeError "can't start new thread"

def cannotJoin : Exc := .error .runtimeError "cannot join thread before it is started"

/-- The manager, the firewall, and the answers of the environment to come. Nothing reads the last
field: the firewall as it was when a watcher last recorded a trigger in kernel mode. -/
structure System where
  manager : KillSwitchManager
  host : Host
  probes : Stream' Bool
  prints : Stream' Bool
  starts : Stream' Bool
  joins : Stream' Bool
  gaps : Stream' (List WatcherStep)
  triggeredOn : Option Filter := none

abbrev Sys := Act Exc System

namespace System

/-- The state record, as the `state` property returns it. -/
abbrev state (s : System) : KillSwitchState := s.manager.state

/-- The watcher thread runs while no lock is held. -/
def afterGap (s : System) : System :=
  let manager := s.gaps.head.foldl WatcherStep.run s.manager
  { s with
    manager
    gaps := s.gaps.tail
    triggeredOn := if manager.isTriggered ∧ ¬s.manager.isTriggered then some s.host.filter
      else s.triggeredOn }

def interleave : Sys Unit := modify afterGap

/-- `probe_kernel_capability`: every failure of the probe counts as "no". -/
def probeKernelCapability : Sys Bool := fun s => (.ok s.probes.head, { s with probes := s.probes.tail })

/-- `console.print` of a text with the interface in it, which may not be markup that renders. -/
def printInterface : Sys Unit := do
  let printed ← reads (·.prints.head)
  modify fun s => { s with prints := s.prints.tail }
  if printed then return
  else raise (.error .other "MarkupError")

/-- `thread.start()`. -/
def startThread : Sys Unit := do
  let starts ← reads (·.starts.head)
  modify fun s => { s with starts := s.starts.tail }
  if starts then modify fun s => { s with manager := { s.manager with watcherThread := .alive } }
  else raise cannotStart

/-- `thread.join(timeout)` followed by `thread.is_alive()`: whether the thread has ended. Its
`finally` block has then run. -/
def joinThread : Sys Bool := fun s =>
  if s.joins.head then
    (.ok true, { s with manager := s.manager.markStopped.clearThread, joins := s.joins.tail })
  else (.ok false, { s with joins := s.joins.tail })

def onManager (f : KillSwitchManager → KillSwitchManager) : Sys Unit := modify fun s =>
  { s with manager := f s.manager }

def onHost (m : Act Exc Host Unit) : Sys Unit :=
  zoom System.host (fun host s => { s with host }) m

/-! ## The calls -/

/-- `KillSwitchManager.activate`. -/
def activate (interface : String) (xrayUid : Option ℤ) : Sys Unit := do
  let current ← reads state
  if current.active then
    if current.interface = some interface ∧ current.xrayUid = xrayUid ∧ !current.triggered then
      return
    else raise (.error .runtimeError
      "kill-switch is already active; deactivate it before reactivating")
  else
    interleave
    let kernelCapable ← probeKernelCapability
    if kernelCapable then
      handle Exc.isException
        (do
          onHost (applyKillswitchRules interface xrayUid)
          onManager fun m => m.setState {
            kernelCapable := true, active := true, interface := some interface, xrayUid,
            watcherState := .notStarted, triggered := false, triggerReason := none }
          printInterface)
        -- the failure is only logged: "Using software fallback."
        (fun _ => fallback interface xrayUid)
    else fallback interface xrayUid
where
  fallback (interface : String) (xrayUid : Option ℤ) : Sys Unit :=
    onManager fun m => m.setState {
      kernelCapable := false, active := true, interface := some interface, xrayUid,
      watcherState := .notStarted, triggered := false, triggerReason := none }

/-- `KillSwitchManager.start_process_watcher`, which holds the watcher lock throughout. -/
def startProcessWatcher (intervalSeconds : ℚ) : Sys Unit := do
  if intervalSeconds ≤ 0 then
    raise (.error .valueError "interval_seconds must be greater than zero")
  else
    interleave
    if ← reads (·.manager.isWatcherAlive) then return
    else if (← reads state).watcherState = .processDied then
      raise (.error .runtimeError "kill-switch watcher cannot restart after a trigger")
    else
      onManager fun m => {
        state := { m.state with
          watcherState := .running, triggered := false, triggerReason := none }
        watcherThread := .unstarted
        stopEvent := false }
      startThread

/-- `self._stop_event.set()` in `stop_process_watcher`. -/
def requestStop : Sys Unit := do
  interleave
  onManager KillSwitchManager.setStopEvent

/-- What `stop_process_watcher` does with the thread that it has told to stop. -/
def endWatcher : Sys Bool := do
  interleave
  match ← reads (·.manager.watcherThread) with
  | .absent =>
    onManager KillSwitchManager.markStopped
    return true
  | .unstarted => raise cannotJoin
  | .alive =>
    interleave
    if ← joinThread then
      onManager KillSwitchManager.markStopped
      return true
    else return false

/-- `KillSwitchManager.stop_process_watcher`. -/
def stopProcessWatcher : Sys Bool := do
  requestStop
  endWatcher

/-- `KillSwitchManager.deactivate`. It gives up by returning where the rules stay or the watcher
goes on: that is only logged. -/
def deactivate : Sys Unit := do
  let current ← reads state
  interleave
  let removed ← match current.interface with
    | some interface =>
      if current.kernelCapable ∧ current.active then
        handle Exc.isException
          (do onHost (removeKillswitchRules interface current.xrayUid); pure true)
          (fun _ => pure false)
      else pure true
    | none => pure true
  if removed then
    if ← stopProcessWatcher then
      onManager fun m => m.setState {
        kernelCapable := current.kernelCapable, active := false, interface := none,
        xrayUid := none, watcherState := .stopped, triggered := current.triggered,
        triggerReason := current.triggerReason }

end System

end Bimarz.KillSwitch
