import Bimarz.Effect.Teardown
import Bimarz.Failover

/-!
# The connection lifecycle (`connection.py`)

`ConnectionService` over any services: a record of programs on a world of any type. The service's
own attributes are the fields of the state; a log keeps, for the statements about runs, every call
of an operation that acquires or releases something, with its outcome, and every emitted event.
-/

namespace Bimarz.Connection

open Effect Effect.Act

/-! ## Services -/

inductive Signal
  | sigterm
  | sighup
  deriving DecidableEq, Repr

/-- The operations that acquire or release a resource. -/
inductive Op
  | processStart
  | connect
  | addOutbound
  | enable
  | startWatcher
  | unregisterSignals
  | stopWatcher
  | removeOutbound
  | close
  | processStop
  | disable
  deriving DecidableEq, Repr

/-- What a connection uses: its services, its event handler, the event loop and the stop event.
An awaited call may also raise a cancellation. -/
structure Services (W : Type) where
  config : AppConfig
  processStart : ServerProfile → Act Exc W Unit
  isRunning : Act Exc W Bool
  processStop : Act Exc W Unit
  connect : Act Exc W Unit
  addOutbound : ServerProfile → Act Exc W Unit
  removeOutbound : Act Exc W Unit
  close : Act Exc W Unit
  hasEngine : W → Bool
  enable : String → Act Exc W Unit
  disable : Act Exc W Unit
  startWatcher : Act Exc W Unit
  stopWatcher : Act Exc W Unit
  isActive : Act Exc W Bool
  isWatcherAlive : Act Exc W Bool
  addSignalHandler : Signal → Act Exc W Unit
  removeSignalHandler : Signal → Act Exc W Unit
  checkAllProfiles : List ServerProfile → Act Exc W (Dict String HealthCheckResult)
  now : Act Exc W String
  clearStop : W → W
  stopIsSet : Act Exc W Bool
  /-- `wait_for(stop_event.wait(), timeout)`; `false` stands for its `TimeoutError`. -/
  waitStop : ℚ → Act Exc W Bool
  eventHandler : Option (ConnectionEvent → EventPayload → Act Exc W Unit)

/-- An entry of the log: a call with the exception it raised, if any, an emitted event, or a lookup
in the table of profiles and whether it found the id. -/
inductive Item
  | call (op : Op) (raised : Option Exc)
  | emit (event : ConnectionEvent) (payload : EventPayload)
  | lookup (id : String) (found : Bool)
  deriving DecidableEq

structure ConnectionService (W : Type) where
  world : W
  cleaned : Bool := false
  started : Bool := false
  processOwned : Bool := false
  engineOwned : Bool := false
  outboundOwned : Bool := false
  killswitchEnabled : Bool := false
  signalsRegistered : List Signal := []
  log : List Item := []

abbrev Conn (W : Type) := Act Exc (ConnectionService W)

section Programs

variable {W : Type} (svc : Services W)

/-- A program of the world. -/
def onWorld {α : Type} (m : Act Exc W α) : Conn W α :=
  zoom ConnectionService.world (fun world s => { s with world }) m

def record (item : Item) : Conn W Unit := modify fun s => { s with log := s.log ++ [item] }

/-- A call that is recorded with its outcome. -/
def invoke (op : Op) (m : Act Exc W Unit) : Conn W Unit := do
  handle (fun _ => true) (onWorld m) (fun e => do record (.call op (some e)); raise e)
  record (.call op none)

/-- `_emit`: what the handler raises is logged and dropped. -/
def emit (event : ConnectionEvent) (payload : EventPayload) : Conn W Unit := do
  record (.emit event payload)
  match svc.eventHandler with
  | none => pure ()
  | some handler => handle Exc.isException (onWorld (handler event payload)) (fun _ => pure ())

/-! ## Signals -/

def tryRegisterSignal (sig : Signal) : Conn W Unit :=
  handle (fun e => match e with
      | .error .notImplementedError _ => true
      | .error .runtimeError _ => true
      | _ => false)
    (do
      onWorld (svc.addSignalHandler sig)
      modify fun s => { s with signalsRegistered := s.signalsRegistered ++ [sig] })
    (fun _ => pure ())

def registerSignals : Conn W Unit := do
  tryRegisterSignal svc .sigterm
  tryRegisterSignal svc .sighup

/-- `with suppress(NotImplementedError, RuntimeError, ValueError)`. -/
def removeSignal (sig : Signal) : Act Exc W Unit :=
  handle (fun e => match e with
      | .error .notImplementedError _ => true
      | .error .runtimeError _ => true
      | .error .valueError _ => true
      | _ => false)
    (svc.removeSignalHandler sig) (fun _ => pure ())

def unregisterSignals : Conn W Unit := do
  let registered ← reads ConnectionService.signalsRegistered
  if registered.isEmpty then return
  else
    invoke .unregisterSignals (registered.forM (removeSignal svc))
    modify fun s => { s with signalsRegistered := [] }

/-! ## Acquiring -/

/-- `add_outbound` and the flag that follows it. -/
def addOutbound (profile : ServerProfile) : Conn W Unit := do
  invoke .addOutbound (svc.addOutbound profile)
  modify fun s => { s with outboundOwned := true }

/-- `remove_outbound(raise_on_error=True)` and the flag that follows it. -/
def removeOutbound : Conn W Unit := do
  invoke .removeOutbound svc.removeOutbound
  modify fun s => { s with outboundOwned := false }

def startProcess (profile : ServerProfile) : Conn W Unit := do
  invoke .processStart (svc.processStart profile)
  modify fun s => { s with processOwned := true }

def connectEngine : Conn W Unit := do
  invoke .connect svc.connect
  modify fun s => { s with engineOwned := true }

def enableKillswitch : Conn W Unit := do
  invoke .enable (svc.enable svc.config.defaultInterface)
  modify fun s => { s with killswitchEnabled := true }

/-! ## Watching -/

/-- The condition of both loops: not stopped, and xray-core still runs. -/
def goesOn : Conn W Bool := do
  if ← onWorld svc.stopIsSet then return false
  else onWorld svc.isRunning

/-- The kill-switch is active without a live watcher. -/
def watcherDied : Conn W Bool := do
  if ← onWorld svc.isActive then return !(← onWorld svc.isWatcherAlive)
  else return false

/-- The end of a round: leave if the watcher has died or a stop was requested. -/
def watchRound (timeout : ℚ) : Conn W Flow := do
  if ← watcherDied svc then
    emit svc .killswitchWatcherDied {}
    return .leave
  else if ← onWorld (svc.waitStop timeout) then return .leave
  else return .next

/-- `_watch_loop`, for at most `n` rounds. -/
def watchLoop (n : ℕ) : Conn W Bool := loop n do
  if ← goesOn svc then watchRound svc 1
  else return .leave

/-! ## Failover -/

/-- The programs of the failover loop, whose local variable is the failover manager. -/
abbrev Rounds (W : Type) := Act Exc (ConnectionService W × FailoverManager)

def onConn {α : Type} (m : Conn W α) : Rounds W α := zoom Prod.fst (fun s p => (s, p.2)) m

def manager : Rounds W FailoverManager := reads Prod.snd

def setManager (m : FailoverManager) : Rounds W Unit := modify fun p => (p.1, m)

/-- `profile_map[id]`. -/
def lookup (profileMap : Dict String ServerProfile) (id : String) : Conn W ServerProfile :=
  match profileMap.get? id with
  | some profile => do record (.lookup id true); return profile
  | none => do record (.lookup id false); raise (.error .keyError (Python.reprOfString id))

/-- The lookup table of a failover loop. -/
def profileMapOf (initial : ServerProfile) (allProfiles : List ServerProfile) :
    Dict String ServerProfile :=
  let profileMap := profilesById allProfiles
  if (profileMap.get? initial.profileId).isSome then profileMap
  else profileMap.set initial.profileId initial

/-- The switch to another outbound, with the recovery of the old one; the value is the message of
a failed switch. -/
def switchOutbound (profileMap : Dict String ServerProfile) (activeId : String)
    (best : ServerProfile) : Conn W (Option String) :=
  handle Exc.isException
    (do removeOutbound svc; addOutbound svc best; return none)
    (fun exc => do
      let removal ← failure Exc.isException do
        if ← reads ConnectionService.outboundOwned then removeOutbound svc
      let restoral ← failure Exc.isException do
        addOutbound svc (← lookup profileMap activeId)
      let message := s!"failover switch failed: {exc.message}"
      match restoral <|> removal with
      | some e => return some (message ++ s!"; recovery failed: {e.message}")
      | none => return some message)

/-- The switch of a round to another profile. -/
def switchTo (profileMap : Dict String ServerProfile) (m : FailoverManager) (bestId : String) :
    Rounds W Flow := do
  let best ← onConn (lookup profileMap bestId)
  match ← onConn (switchOutbound svc profileMap m.activeProfileId best) with
  | some message =>
    onConn (emit svc .error { error := message })
    return .leave
  | none =>
    let now ← onConn (onWorld svc.now)
    match m.triggerFailover bestId s!"{m.threshold} consecutive health-check failures" now with
    | .error e => raise e
    | .ok (event, m') =>
      setManager m'
      onConn (emit svc .failoverTriggered {
        oldProfileId := event.fromProfileId
        newProfileId := some event.toProfileId
        reason := some event.reason })
      return .next

/-- The part of a round that the threshold decides about. -/
def failover (profileMap : Dict String ServerProfile) (results : Dict String HealthCheckResult) :
    Rounds W Flow := do
  let m ← manager
  if m.shouldFailover then
    match m.pickBestAlternative results with
    | none =>
      onConn (emit svc .error
        { error := "failover required but no reachable alternative exists" })
      return .leave
    | some bestId => switchTo svc profileMap m bestId
  else return .next

/-- Count the result of the active profile, if there is one. -/
def recordActive (results : Dict String HealthCheckResult) : Rounds W Unit := do
  let m ← manager
  match results.get? m.activeProfileId with
  | some result => setManager (m.recordActiveProfileResult result)
  | none => pure ()

/-- A round of `_failover_loop`. -/
def failoverRound (profileMap : Dict String ServerProfile) : Rounds W Flow := do
  if ← onConn (goesOn svc) then
    let results ← onConn (onWorld (svc.checkAllProfiles profileMap.values))
    recordActive results
    match ← failover svc profileMap results with
    | .leave => return .leave
    | .next => onConn (watchRound svc svc.config.failoverInterval)
  else return .leave

/-- `_failover_loop`, for at most `n` rounds. -/
def failoverLoop (n : ℕ) (initial : ServerProfile) (allProfiles : List ServerProfile) :
    Conn W Bool :=
  match FailoverManager.init initial.profileId failoverConsecutiveFailuresThreshold with
  | .error e => raise e
  | .ok m => withLocal m (loop n (failoverRound svc (profileMapOf initial allProfiles)))

/-! ## Releasing -/

abbrev Release (W : Type) := Teardown Exc (ConnectionService W)

/-- One release of a cleanup: its failure becomes a message. -/
def attempt (label : String) (release orElse : Conn W Unit) : Release W Unit :=
  Teardown.attempt Exc.isException (fun e => label ++ e.message) release orElse

def attemptSignals : Release W Unit :=
  attempt "signal cleanup failed: " (unregisterSignals svc) (pure ())

def attemptStopWatcher : Release W Unit :=
  attempt "kill-switch watcher stop failed: " (invoke .stopWatcher svc.stopWatcher) (pure ())

def attemptRemoveOutbound (orElse : Conn W Unit) : Release W Unit :=
  attempt "engine outbound cleanup failed: " (invoke .removeOutbound svc.removeOutbound) orElse

def attemptClose : Release W Unit :=
  attempt "engine client cleanup failed: " (invoke .close svc.close) (pure ())

def attemptProcessStop (orElse : Conn W Unit) : Release W Unit :=
  attempt "xray process cleanup failed: " (invoke .processStop svc.processStop) orElse

def attemptDisable : Release W Unit :=
  attempt "kill-switch disable failed: " (invoke .disable svc.disable)
    (modify fun s => { s with killswitchEnabled := false })

def releaseOutbound : Release W Unit := do
  if ← Teardown.lift (reads ConnectionService.outboundOwned) then
    attemptRemoveOutbound svc (modify fun s => { s with outboundOwned := false })

def releaseEngine : Release W Unit := do
  if ← Teardown.lift (reads fun s => s.engineOwned || svc.hasEngine s.world) then
    ensure (attemptClose svc) (Teardown.lift (modify fun s => { s with engineOwned := false }))

def releaseProcess : Release W Unit := do
  if ← Teardown.lift (reads ConnectionService.processOwned) then
    attemptProcessStop svc do
      modify fun s => { s with processOwned := false }
      emit svc .processStopped {}

def releaseKillswitch : Release W Unit := do
  if ← Teardown.lift (reads ConnectionService.killswitchEnabled) then attemptDisable svc

/-- The ERROR event of a cleanup, if it has messages. -/
def reportErrors : Release W Unit := do
  let errors ← Teardown.errors
  if errors ≠ [] then Teardown.lift (emit svc .error { error := some ("; ".intercalate errors) })

/-- `self._started = False`, and `self._cleaned = True` if asked for. -/
def markDown (markCleaned : Bool) : Release W Unit :=
  Teardown.lift (modify fun s =>
    { s with started := false, cleaned := if markCleaned then true else s.cleaned })

/-- `_cleanup_resources`. -/
def cleanupResources (emitCleanupDone markCleaned : Bool) : Conn W (List String) :=
  withLocal [] do
    attemptSignals svc
    attemptStopWatcher svc
    releaseOutbound svc
    releaseEngine svc
    releaseProcess svc
    releaseKillswitch svc
    markDown markCleaned
    reportErrors svc
    Teardown.lift (if emitCleanupDone then emit svc .cleanupDone {} else pure ())
    Teardown.errors

def rollback : Conn W (List String) := cleanupResources svc false false

/-- The `try` block of `cleanup`. -/
def cleanupBody : Release W Unit := do
  attemptSignals svc
  attemptStopWatcher svc
  attemptRemoveOutbound svc (pure ())
  attemptClose svc
  attemptProcessStop svc (emit svc .processStopped {})
  releaseKillswitch svc

/-- The `finally` block of `cleanup`. -/
def cleanupEnd : Release W Unit := do
  Teardown.lift (modify fun s => { s with cleaned := true })
  reportErrors svc
  Teardown.lift (emit svc .cleanupDone {})

/-- `cleanup`. -/
def cleanup : Conn W Unit := do
  if ← reads ConnectionService.cleaned then return
  else withLocal [] (ensure (cleanupBody svc) (cleanupEnd svc))

/-! ## Starting -/

/-- The reset at the beginning of `start`. -/
def ConnectionService.reset (s : ConnectionService W) : ConnectionService W :=
  { s with
    world := svc.clearStop s.world
    cleaned := false
    started := false
    processOwned := false
    engineOwned := false
    outboundOwned := false
    killswitchEnabled := false }

/-- The acquisitions of `start`, in order. -/
def acquire (profile : ServerProfile) (killswitch : Bool) : Conn W Unit := do
  startProcess svc profile
  connectEngine svc
  addOutbound svc profile
  emit svc .engineReady {}
  if killswitch then
    enableKillswitch svc
    emit svc .killswitchEnabled {}
    invoke .startWatcher svc.startWatcher
  registerSignals svc
  modify fun s => { s with started := true }

/-- The `try` block of `start`, with at most `n` rounds of its loop. -/
def startBody (n : ℕ) (profile : ServerProfile) (autoFailover killswitch : Bool)
    (allProfiles : Option (List ServerProfile)) : Conn W Bool := do
  acquire svc profile killswitch
  match allProfiles with
  | some (p :: ps) => if autoFailover then failoverLoop svc n profile (p :: ps) else watchLoop svc n
  | _ => watchLoop svc n

/-- What `start` does before its `try` block. -/
def prepare (profile : ServerProfile) : Conn W Unit := do
  modify (ConnectionService.reset svc)
  emit svc .started { profileId := some profile.profileId }

def startupFailed (primaryError : Exc) (rollbackErrors : List String) : EventPayload where
  error := some (s!"startup failed: {primaryError.message}; rollback failed: " ++
    "; ".intercalate rollbackErrors)

/-- The `except BaseException` block of `start`. -/
def abandon (primaryError : Exc) : Conn W Bool := do
  let rollbackErrors ← rollback svc
  if rollbackErrors ≠ [] then emit svc .error (startupFailed primaryError rollbackErrors)
  raise primaryError

/-- `start`. -/
def start (n : ℕ) (profile : ServerProfile) (autoFailover killswitch : Bool)
    (allProfiles : Option (List ServerProfile)) : Conn W Bool := do
  prepare svc profile
  handle (fun _ => true) (startBody svc n profile autoFailover killswitch allProfiles) (abandon svc)

end Programs

/-! ## Running calls and events -/

section Running

variable {W : Type}

/-- The state after a call: the world it leaves, and its outcome in the log. -/
def ConnectionService.called (s : ConnectionService W) (world : W) (op : Op)
    (raised : Option Exc) : ConnectionService W :=
  { s with world, log := s.log ++ [.call op raised] }

/-- The state after an event. -/
def ConnectionService.emitted (s : ConnectionService W) (world : W) (event : ConnectionEvent)
    (payload : EventPayload) : ConnectionService W :=
  { s with world, log := s.log ++ [.emit event payload] }

variable {s : ConnectionService W}

theorem onWorld_ok {α : Type} {m : Act Exc W α} {a : α} {w : W} (h : m s.world = (.ok a, w)) :
    onWorld m s = (.ok a, { s with world := w }) := by
  unfold onWorld zoom; rw [h]

theorem onWorld_error {α : Type} {m : Act Exc W α} {e : Exc} {w : W}
    (h : m s.world = (.error e, w)) : onWorld m s = (.error e, { s with world := w }) := by
  unfold onWorld zoom; rw [h]

theorem invoke_ok {op : Op} {m : Act Exc W Unit} {w : W} (h : m s.world = (.ok (), w)) :
    invoke op m s = (.ok (), s.called w op none) := bind_ok (handle_ok (onWorld_ok h))

theorem invoke_error {op : Op} {m : Act Exc W Unit} {e : Exc} {w : W}
    (h : m s.world = (.error e, w)) : invoke op m s = (.error e, s.called w op (some e)) :=
  bind_error (handle_caught (onWorld_error h) rfl)

/-- A recorded call does to the world what the call does. -/
theorem invoke_triple {P Q : W → Prop} {E : Exc → W → Prop} {m : Act Exc W Unit}
    (hm : Triple P m (fun _ => Q) E) (op : Op) :
    Triple (fun s => P s.world) (invoke op m) (fun _ s => Q s.world) (fun e s => E e s.world) := by
  intro s hs
  have h := hm s.world hs
  rcases hrun : m s.world with ⟨e | u, w⟩ <;> rw [hrun] at h
  · rw [invoke_error hrun]
    exact h
  · rw [invoke_ok hrun]
    exact h

/-- A recorded call keeps what the call and its record keep. -/
theorem invoke_keeps {I : ConnectionService W → Prop} {op : Op} {m : Act Exc W Unit}
    (hm : Keeps I (onWorld m)) (hrecord : ∀ raised, Keeps I (record (.call op raised))) :
    Keeps I (invoke op m) := by
  refine Keeps.bind (Keeps.handle hm fun e => ?_) fun _ => hrecord none
  exact Keeps.bind (hrecord (some e)) fun _ => Keeps.raise e

theorem invoke_frames {τ : Type} {v : ConnectionService W → τ} {op : Op} {m : Act Exc W Unit}
    (hm : Frames v (onWorld m)) (hrecord : ∀ raised, Frames v (record (.call op raised))) :
    Frames v (invoke op m) :=
  Frames.of_keeps fun c => invoke_keeps (hm.keeps_eq c) fun raised => (hrecord raised).keeps_eq c

/-- An event does what its record does, if its handler keeps that. -/
theorem emit_triple {svc : Services W} {P I : ConnectionService W → Prop}
    {event : ConnectionEvent} {payload : EventPayload}
    (hrecord : Triple P (record (.emit event payload)) (fun _ => I) (fun _ => I))
    (hhandler : ∀ handler, svc.eventHandler = some handler →
      Keeps I (onWorld (handler event payload))) :
    Triple P (emit svc event payload) (fun _ => I) (fun _ => I) := by
  refine Triple.bind hrecord fun _ => ?_
  cases hh : svc.eventHandler with
  | none => exact Keeps.pure _
  | some handler => exact Keeps.handle (hhandler handler hh) fun _ => Keeps.pure _

theorem emit_frames {τ : Type} {svc : Services W} {v : ConnectionService W → τ}
    {event : ConnectionEvent} {payload : EventPayload}
    (hrecord : Frames v (record (.emit event payload)))
    (hhandler : ∀ handler, svc.eventHandler = some handler →
      Frames v (onWorld (handler event payload))) :
    Frames v (emit svc event payload) :=
  Frames.of_keeps fun c => emit_triple (hrecord.keeps_eq c) fun handler hh =>
    (hhandler handler hh).keeps_eq c

/-- An event is logged whatever its handler does, as long as it raises Exceptions only. -/
theorem emit_run {svc : Services W}
    (h : ∀ handler, svc.eventHandler = some handler → ∀ event payload,
      RaisesExceptions (handler event payload))
    (event : ConnectionEvent) (payload : EventPayload) (s : ConnectionService W) :
    ∃ w, emit svc event payload s = (.ok (), s.emitted w event payload) := by
  have hrec : record (.emit event payload) s = (.ok (), s.emitted s.world event payload) := rfl
  unfold emit
  rw [bind_ok hrec]
  cases hh : svc.eventHandler with
  | none => exact ⟨s.world, rfl⟩
  | some handler =>
    rcases hm : handler event payload s.world with ⟨e | u, w⟩
    · have he := h handler hh event payload _ _ _ hm
      exact ⟨w, handle_caught (onWorld_error hm) he⟩
    · exact ⟨w, handle_ok (onWorld_ok hm)⟩

end Running

end Bimarz.Connection
