import Bimarz.Effect.Teardown
import Bimarz.Failover
import Bimarz.KillSwitch.Manager

/-!
# The connection worker of the GUI (`gui/connection_worker.py`)

`ConnectionWorker.run` is a program of the worker thread. The GUI thread may call `stop` between
any two of its steps: a call sets the stop event and, while the event loop is open, posts a
cancellation that waits (`pending`) until the loop is driven again. The loop is driven in bursts
(`runAsyncFn`); within a burst a waiting cancellation is delivered at the next `await`, or before
the first step of the task. The streams of the state are what the environment does.
-/

namespace Bimarz.Gui

open Effect Effect.Act
open KillSwitch (System)

/-! ## The environment -/

/-- How an awaited call ends if no cancellation is waiting; `expires` is the timeout of
`wait_for`. -/
inductive Fate
  | returns
  | raises (kind : ErrorKind) (message : String)
  | expires
  deriving DecidableEq

/-- What happens while a task awaits: whether `stop` is called, the fate of the call, and whether a
cancellation arrives only after the call took effect. -/
structure Moment where
  stop : Bool := false
  fate : Fate := .returns
  late : Bool := false
  deriving DecidableEq

/-- The answer to a call that does not await. -/
structure Reply where
  failure : Option (ErrorKind × String) := none
  yes : Bool := true
  uid : Option ℤ := none

/-- What happens in one failover check, in the order of the source. -/
structure Round where
  check : Moment := {}
  reachable : Bool := true
  latencyMs : Option ℚ := none
  errorMessage : Option String := none
  checkedAtIso : String := ""
  batch : Moment := {}
  rows : List RawHealth := []
  remove : Moment := {}
  add : Moment := {}
  recoverRemove : Moment := {}
  recoverAdd : Moment := {}
  occurredAtIso : String := ""
  undoRemove : Moment := {}
  undoAdd : Moment := {}

/-! ## The worker -/

inductive LoopStatus
  | none
  | running
  | closed
  deriving DecidableEq, Repr

/-- The signals of the worker, and the steps that acquire or release something. -/
inductive Item
  | runtimeCreated
  | xrayStarted
  | activated
  | deactivate
  | xrayStop
  | runtimeCleanup
  | connected (remark : String)
  | disconnected
  | connectionError (message : String)
  | latencyUpdated (profileId : String) (latency : ℚ) (reachable : Bool)
  | failoverOccurred (fromId toId : String)
  | killswitchTriggered (message : String)
  deriving DecidableEq

structure Worker where
  profile : ServerProfile
  allProfiles : Option (Dict String ServerProfile) := none
  enableKillswitch : Bool := false
  ksInterface : String := "eth0"
  stopEvent : Bool := false
  connectedOnce : Bool := false
  loop : LoopStatus := .none
  xrayProcess : Bool := false
  ksManager : System
  client : Bool := false
  runtimeDir : Bool := false
  outboundOwned : Bool := false
  /-- the local variable of `_run_connect` -/
  manager : FailoverManager := ⟨"", failoverConsecutiveFailuresThreshold, 0, []⟩
  /-- a posted cancellation that the event loop has not run -/
  pending : Bool := false
  /-- `wait_for` has cancelled the task -/
  expired : Bool := false
  registered : Option OutboundKwargs := none
  stops : Stream' Bool
  replies : Stream' Reply
  moments : Stream' Moment
  rounds : Stream' Round
  /-- how often the readiness of xray-core is polled before the deadline -/
  polls : ℕ := 50
  log : List Item := []

abbrev Work := Act Exc Worker

def Worker.record (s : Worker) (item : Item) : Worker := { s with log := s.log ++ [item] }

def emit (item : Item) : Work Unit := modify fun s => s.record item

/-! ## Stopping -/

/-- `stop`. -/
def Worker.stop (s : Worker) : Worker :=
  { s with stopEvent := true, pending := s.pending || s.loop = .running }

/-- A moment at which the GUI thread may call `stop`. -/
def tick : Work Unit := modify fun s =>
  if s.stops.head then { s.stop with stops := s.stops.tail } else { s with stops := s.stops.tail }

/-- `should_stop`. -/
def shouldStop : Work Bool := do
  tick
  reads Worker.stopEvent

def takeReply : Work Reply := fun s => (.ok s.replies.head, { s with replies := s.replies.tail })

def takeMoment : Work Moment := fun s => (.ok s.moments.head, { s with moments := s.moments.tail })

def takeRound : Work Round := fun s => (.ok s.rounds.head, { s with rounds := s.rounds.tail })

/-- A call that does not await: it raises, or it takes effect. -/
def external (effect : Worker → Worker) : Work Reply := do
  tick
  let reply ← takeReply
  match reply.failure with
  | some (kind, message) => raise (.error kind message)
  | none =>
    modify effect
    return reply

/-- `with suppress(Exception)`, and an `except Exception` that only logs. -/
def suppress (m : Work Unit) : Work Unit := handle Exc.isException m fun _ => pure ()

def ofExcept {α : Type} : Except Exc α → Work α
  | .ok a => pure a
  | .error e => raise e

/-! ## Bursts of the event loop -/

/-- Deliver a cancellation to an awaited call. -/
def Worker.cancelled (s : Worker) (moment : Moment) (effect : Worker → Worker) : Worker :=
  { (if moment.late then effect s else s) with pending := false }

/-- The call that a task awaits. -/
def await (moment : Moment) (effect : Worker → Worker) : Work Unit := do
  modify fun s => if moment.stop then s.stop else s
  if ← reads Worker.pending then
    modify fun s => s.cancelled moment effect
    raise .cancelled
  else
    match moment.fate with
    | .returns => modify effect
    | .raises kind message => raise (.error kind message)
    | .expires =>
      modify fun s => { s.cancelled moment effect with expired := true }
      raise .cancelled

/-- A task that `wait_for` has cancelled ends with a `TimeoutError`. -/
def waitFor {α : Type} (task : Work α) : Work α := do
  modify fun s => { s with expired := false }
  handle (fun e => e = .cancelled) task fun e => do
    if ← reads Worker.expired then raise (.error .timeoutError "") else raise e

/-- A cancellation that is still waiting when the task has ended finds nothing to cancel. -/
def drain : Work Unit := do
  tick
  modify fun s => { s with pending := false }

/-- The burst: a cancellation that was posted before it is delivered before the first step of the
task. -/
def burst {α : Type} (task : Work α) : Work α := do
  tick
  if ← reads Worker.pending then
    modify fun s => { s with pending := false }
    raise .cancelled
  else ensure (waitFor task) drain

/-- `_run_async_fn`. -/
def runAsyncFn {α : Type} (task : Work α) : Work α := do
  match ← reads Worker.loop with
  | .none => raise (.error .runtimeError "Worker event loop is not initialized.")
  | .closed => raise (.error .runtimeError "Worker event loop is already closed.")
  | .running => burst task

/-! ## The engine -/

/-- The engine client's `remove_outbound`. -/
def awaitRemove (moment : Moment) : Work Unit := await moment fun s => { s with registered := none }

/-- The engine client's `add_vless_reality_outbound`, which raises if the tag is taken. -/
def awaitAdd (moment : Moment) (kwargs : OutboundKwargs) : Work Unit := do
  if (← reads Worker.registered).isSome then
    await moment id
    raise (.error .runtimeError "outbound tag is already registered")
  else await moment fun s => { s with registered := some kwargs }

def setOwned (owned : Bool) : Work Unit := modify fun s => { s with outboundOwned := owned }

/-- `remove_outbound` and the flag that follows it. -/
def removeOutbound (moment : Moment) : Work Unit := do
  awaitRemove moment
  setOwned false

/-- `add_vless_reality_outbound` and the flag that follows it. -/
def addOutbound (moment : Moment) (kwargs : OutboundKwargs) : Work Unit := do
  awaitAdd moment kwargs
  setOwned true

/-- `_async_connect`. -/
def asyncConnect : Work Unit := do
  -- the import of the engine client's class
  let _ ← external id
  await (← takeMoment) id
  modify fun s => { s with client := true }
  let kwargs ← ofExcept (activeOutbound (← reads Worker.profile))
  addOutbound (← takeMoment) kwargs

/-! ## Failover -/

def emitLatency (result : HealthCheckResult) : Work Unit :=
  emit (.latencyUpdated result.profileId (result.latencyMs.getD (-1)) result.reachable)

/-- The switch that a check decides on. -/
structure Plan where
  nextProfile : ServerProfile
  nextId : String
  oldKwargs : OutboundKwargs
  newKwargs : OutboundKwargs

/-- The alternative that a batch of results leads to, unless it is the profile in use. -/
def alternative (profile : ServerProfile) (m : FailoverManager)
    (profiles : Dict String ServerProfile) (results : Dict String HealthCheckResult) :
    Option (String × ServerProfile) :=
  match m.pickBestAlternative results with
  | none => none
  | some nextId =>
    if nextId = profile.profileId then none
    else (profiles.get? nextId).map fun nextProfile => (nextId, nextProfile)

/-- The switch to the alternative, with the outbounds of both profiles. -/
def planSwitch (profile : ServerProfile) (m : FailoverManager)
    (profiles : Dict String ServerProfile) (results : Dict String HealthCheckResult) :
    Except Exc (Option Plan) :=
  match alternative profile m profiles results with
  | none => .ok none
  | some (nextId, nextProfile) => do
    let oldKwargs ← activeOutbound profile
    let newKwargs ← activeOutbound nextProfile
    return some { nextProfile, nextId, oldKwargs, newKwargs }

/-- The result of the health check of the profile in use. -/
def Worker.activeResult (s : Worker) (round : Round) : HealthCheckResult :=
  ⟨s.profile.profileId, round.reachable, round.latencyMs, round.checkedAtIso, round.errorMessage⟩

/-- The manager after it has counted that result. -/
def Worker.counted (s : Worker) (round : Round) : FailoverManager :=
  s.manager.recordActiveProfileResult (s.activeResult round)

/-- `check_profile_health(self._profile)`, counted by the manager. -/
def checkActive (round : Round) : Work Unit := do
  let _ ← ofExcept (← reads Worker.profile).target
  await round.check id
  emitLatency (← reads fun s => s.activeResult round)
  modify fun s => { s with manager := s.counted round }

/-- `check_all_profiles`. -/
def checkAll (profiles : Dict String ServerProfile) (round : Round) :
    Work (Dict String HealthCheckResult) := do
  let _ ← ofExcept (targetsOf profiles.values)
  await round.batch id
  let results := collectResults round.checkedAtIso round.rows
  results.values.forM emitLatency
  return results

/-- Check all profiles and plan the switch. -/
def checkAndPlan (profiles : Dict String ServerProfile) (round : Round) : Work (Option Plan) := do
  let results ← checkAll profiles round
  let s ← reads id
  ofExcept (planSwitch s.profile s.manager profiles results)

/-- Check the profile in use, and the others if it has failed often enough. -/
def checkProfiles (profiles : Dict String ServerProfile) (round : Round) : Work (Option Plan) := do
  checkActive round
  if (← reads Worker.manager).shouldFailover then checkAndPlan profiles round else return none

/-- The first half of `_async_failover_check`: the health checks and what they lead to. -/
def decideSwitch (round : Round) : Work (Option Plan) := do
  match ← reads fun s => (s.allProfiles, s.client) with
  | (some profiles, true) =>
    if profiles.values.isEmpty then return none else checkProfiles profiles round
  | _ => return none

/-- Both recoveries: remove the outbound if it is owned, and add the old one again. -/
def recover (remove add : Moment) (oldKwargs : OutboundKwargs) : Work Unit := do
  suppress do
    if ← reads Worker.outboundOwned then removeOutbound remove
  suppress (addOutbound add oldKwargs)

/-- The switch; the value says whether it succeeded. -/
def switchOutbound (round : Round) (plan : Plan) : Work Bool :=
  handle Exc.isException
    (do
      removeOutbound round.remove
      addOutbound round.add plan.newKwargs
      return true)
    (fun _ => do
      recover round.recoverRemove round.recoverAdd plan.oldKwargs
      return false)

/-- `event.from_profile_id or "unknown"`. -/
def sourceOf (event : FailoverEvent) : String :=
  match event.fromProfileId with
  | some "" => "unknown"
  | some id => id
  | none => "unknown"

/-- The second half of `_async_failover_check`. -/
def performSwitch (round : Round) (plan : Plan) : Work Unit := do
  if ← switchOutbound round plan then
    let m ← reads Worker.manager
    match m.triggerFailover plan.nextId s!"{m.threshold} consecutive failures" round.occurredAtIso with
    | .error _ => recover round.undoRemove round.undoAdd plan.oldKwargs
    | .ok (event, m') =>
      modify fun s => { s with manager := m' }
      emit (.failoverOccurred (sourceOf event) event.toProfileId)
      modify fun s => { s with profile := plan.nextProfile }
  else return

/-- `_async_failover_check`. -/
def asyncFailoverCheck : Work Unit := do
  let round ← takeRound
  match ← decideSwitch round with
  | none => return
  | some plan => performSwitch round plan

/-! ## Watching -/

def onKillswitch {α : Type} (m : Act Exc System α) : Work α :=
  zoom Worker.ksManager (fun ksManager s => { s with ksManager }) m

/-- `self._enable_killswitch and not self._ks_manager.is_watcher_alive()`, which raises. -/
def checkWatcher : Work Unit := do
  if ← reads Worker.enableKillswitch then
    onKillswitch System.interleave
    if ← reads fun s => s.ksManager.manager.isWatcherAlive then return
    else raise (.error .killSwitchTriggered "xray-core stopped unexpectedly. Kill-switch triggered.")
  else return

/-- The exceptions of a check that a round of the loop logs and drops. -/
def isDropped (e : Exc) : Bool :=
  match e with
  | .error .killSwitchTriggered _ => false
  | e => e.isException

/-- A round of `_failover_loop`. -/
def failoverRound : Work Flow := do
  if ← shouldStop then return .leave
  else if ← shouldStop then return .leave
  else
    checkWatcher
    handle isDropped (runAsyncFn asyncFailoverCheck) fun _ => pure ()
    return .next

/-- A round of `_simple_watch_loop`. -/
def watchRound : Work Flow := do
  if ← shouldStop then return .leave
  else if ← shouldStop then return .leave
  else
    checkWatcher
    return .next

/-- The manager that `_run_connect` makes for `_failover_loop`. -/
def startFailover : Work Unit := do
  let profileId ← reads fun s => s.profile.profileId
  let manager ← ofExcept (FailoverManager.init profileId failoverConsecutiveFailuresThreshold)
  modify fun s => { s with manager }

/-- `_failover_loop` or `_simple_watch_loop`, for at most `n` rounds; `false` stands for a loop
that has not ended by then. -/
def watch (n : ℕ) : Work Bool := do
  match ← reads Worker.allProfiles with
  | some profiles =>
    if 1 < profiles.values.length then
      startFailover
      loop n failoverRound
    else loop n watchRound
  | none => loop n watchRound

/-! ## Connecting -/

/-- `XrayProcess.start`: the process is there once `Popen` has returned, and the threads that drain
its pipes may still fail to start. -/
def xrayStart : Work Unit := do
  let _ ← external fun s => s.record .xrayStarted
  let _ ← external id

/-- `XrayProcess.stop`. -/
def xrayStop : Work Unit := do
  emit .xrayStop
  let _ ← external id

/-- Wait until xray-core is alive; `false` if a stop was requested before. -/
def waitReady : ℕ → Work Bool
  | 0 => raise (.error .runtimeError "xray-core failed to become ready")
  | n + 1 => do
    if (← external id).yes then return true
    else if ← shouldStop then return false
    else waitReady n

/-- `self._ks_manager.stop_process_watcher()`: the watcher runs on until the stop event is set, so
also while the client is being released. -/
def stopWatcher : Work Unit := do
  onKillswitch System.requestStop
  let _ ← external id
  let _ ← onKillswitch System.endWatcher

/-- `if self._ks_manager.state.active: self._ks_manager.deactivate()`. -/
def deactivateIfActive : Work Unit := do
  if ← reads fun s => s.ksManager.state.active then
    emit .deactivate
    let _ ← external id
    onKillswitch System.deactivate
  else return

def activate : Work Unit := do
  let reply ← external id
  let interface ← reads Worker.ksInterface
  onKillswitch (System.activate interface reply.uid)
  emit .activated
  if ← reads Worker.xrayProcess then onKillswitch (System.startProcessWatcher 1)
  else raise (.error .runtimeError "Xray process was not created.")

def activateIfEnabled : Work Unit := do
  if ← reads Worker.enableKillswitch then activate else return

/-- From the connection of the engine to the signal that says so. -/
def establish : Work Unit := do
  runAsyncFn asyncConnect
  activateIfEnabled
  modify fun s => { s with connectedOnce := true }
  emit (.connected (← reads Worker.profile).remark)

def connectAndWatch (n : ℕ) : Work Bool := do
  establish
  watch n

/-- The `try` block of `_run_connect`. -/
def connectBody (n : ℕ) : Work Bool := do
  xrayStart
  if ← waitReady (← reads Worker.polls) then connectAndWatch n else return true

/-- The `except` block of `_run_connect`. -/
def abandon (e : Exc) : Work Bool := do
  suppress stopWatcher
  suppress deactivateIfActive
  suppress xrayStop
  raise e

def findBinary : Work Unit := do
  if (← external id).yes then return
  else raise (.error .binaryNotFound "xray-core binary not found. Install it or pass --xray-bin.")

/-- `_run_connect`, with at most `n` rounds of its loop. -/
def runConnect (n : ℕ) : Work Bool := do
  findBinary
  let _ ← external fun s => { s with runtimeDir := true }.record .runtimeCreated
  -- the config is built and written
  let _ ← external id
  modify fun s => { s with xrayProcess := true }
  handle Exc.isException (connectBody n) abandon

/-! ## Cleaning up -/

/-- `_async_cleanup`. -/
def asyncCleanup : Work Unit := withLocal [] do
  if ← Teardown.lift (reads Worker.client) then
    Teardown.attempt Exc.isException (fun e => s!"remove outbound failed: {e.message}")
      (do awaitRemove (← takeMoment)) (setOwned false)
    Teardown.attempt Exc.isException (fun e => s!"engine client close failed: {e.message}")
      (do await (← takeMoment) id) (pure ())
    Teardown.lift (modify fun s => { s with client := false, outboundOwned := false })
    let errors ← Teardown.errors
    if errors ≠ [] then raise (.error .runtimeError ("; ".intercalate errors)) else return
  else return

abbrev Release := Teardown Exc Worker

/-- A release of `_cleanup`: its failure becomes a message. -/
def attempt (label : String) (release : Work Unit) : Release Unit :=
  Teardown.attempt Exc.isException (fun e => label ++ e.message) release (pure ())

def releaseClient : Release Unit := do
  if ← Teardown.lift (reads fun s => s.loop = .running && s.client) then
    ensure (attempt "engine client cleanup failed: " (runAsyncFn asyncCleanup))
      (Teardown.lift (modify fun s => { s with client := false, outboundOwned := false }))
  else return

def releaseProcess : Release Unit := do
  if ← Teardown.lift (reads Worker.xrayProcess) then
    Teardown.lift (modify fun s => { s with xrayProcess := false })
    attempt "xray process stop failed: " xrayStop
  else return

def cleanupRuntime : Work Unit := do
  emit .runtimeCleanup
  let _ ← external id

def releaseRuntime : Release Unit := do
  if ← Teardown.lift (reads Worker.runtimeDir) then
    Teardown.lift (modify fun s => { s with runtimeDir := false })
    attempt "runtime dir cleanup failed: " cleanupRuntime
  else return

/-- `_cleanup`. -/
def cleanup : Work Unit := withLocal [] do
  releaseClient
  attempt "kill-switch watcher stop failed: " stopWatcher
  attempt "kill-switch deactivate failed: " deactivateIfActive
  releaseProcess
  releaseRuntime

/-! ## The thread -/

/-- The `except` clauses of `run`. -/
def report : Exc → Work Unit
  | .error .engineNotBuilt _ =>
    emit (.connectionError "Rust extension not built. Run: maturin develop --release")
  | .error .binaryNotFound message =>
    emit (.connectionError s!"xray-core binary not found: {message}")
  | .error .killSwitchTriggered message => emit (.killswitchTriggered message)
  | .error _ message => emit (.connectionError message)
  | _ => pure ()

/-- The end of `run`: the loop is closed whatever `_cleanup` does. -/
def closeLoop : Work Unit := do
  tick
  modify fun s => { s with loop := .closed, pending := false }
  if ← reads Worker.connectedOnce then emit .disconnected else pure ()

/-- `run` up to the call of `_cleanup`: the outcome of `_run_connect`, reported. -/
def connectPhase (n : ℕ) : Work (Except Exc Bool) := do
  tick
  modify fun s => { s with loop := .running }
  let result ← outcome (runConnect n)
  match result with
  | .error e =>
    report e
    return result
  | .ok _ => return result

/-- `run`, with at most `n` rounds of the loop; `false` stands for a run that is still in it. -/
def run (n : ℕ) : Work Bool := do
  match ← connectPhase n with
  | .ok false => return false
  | .ok true =>
    ensure cleanup closeLoop
    return true
  | .error e =>
    ensure cleanup closeLoop
    if e.isException then return true else raise e

end Bimarz.Gui
