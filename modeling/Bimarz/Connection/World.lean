import Bimarz.Connection.Service
import Bimarz.KillSwitch.Runs

/-!
# The services of a connection (`services/*.py`)

The world has what the default services keep, the kill-switch, and of xray-core whether it runs
and which outbound is registered under the active tag. Everything outside answers from a stream:
each external call takes the next answer, which may be an exception to raise instead. The engine
client's `add` and `remove` take effect and return or raise without effect, and `add` raises if
the tag is taken. A history keeps, for the statements about runs, what xray-core was like after
every step.
-/

namespace Bimarz.Connection

open Effect Effect.Act
open KillSwitch (System)

/-! ## The environment -/

/-- The answer to an external call. A crash is one of xray-core, noticed or not. -/
structure Answer where
  failure : Option Exc := none
  yes : Bool := true
  rows : List RawHealth := []
  uid : Option ℤ := none
  text : String := ""
  crash : Bool := false

/-- xray-core at one moment: whether it runs, and what is registered under the active tag. -/
structure Snapshot where
  running : Bool
  registered : Option OutboundKwargs
  deriving DecidableEq

structure World where
  answers : Stream' Answer
  /-- `ProcessService._proc` and `_runtime_dir` -/
  process : Bool := false
  runtimeDir : Bool := false
  /-- `EngineService._engine` -/
  engine : Bool := false
  running : Bool := false
  registered : Option OutboundKwargs := none
  killswitch : System
  history : List Snapshot := []

def World.snapshot (w : World) : Snapshot := ⟨w.running, w.registered⟩

/-- A change of the world, which the history sees. -/
def change (f : World → World) : Act Exc World Unit := modify fun w =>
  { f w with history := w.history ++ [(f w).snapshot] }

/-- Take the next answer. -/
def ask : Act Exc World Answer := do
  let answer ← reads fun w => w.answers.head
  change fun w => { w with answers := w.answers.tail, running := w.running && !answer.crash }
  return answer

/-- An external call: it raises what the answer says, or returns with its effect. -/
def external (effect : World → World) : Act Exc World Answer := do
  let answer ← ask
  match answer.failure with
  | some e => raise e
  | none =>
    change effect
    return answer

def ofExcept {σ α : Type} : Except Exc α → Act Exc σ α
  | .ok a => pure a
  | .error e => raise e

/-- An external call from a state of `P`, which taking an answer keeps: it raises there, or its
effect leads to `Q`. -/
theorem external_triple {P : World → Prop} {Q : Answer → World → Prop} {effect : World → World}
    (hask : Keeps P ask)
    (heffect : ∀ answer w history, P w → Q answer { effect w with history }) :
    Triple P (external effect) Q (fun _ => P) := by
  refine Triple.bind hask fun answer => ?_
  cases answer.failure with
  | some e => exact Triple.raise fun _ hw => hw
  | none =>
    refine Triple.bind (R := fun _ => Q answer) ?_ fun _ => Triple.pure fun _ hw => hw
    exact Triple.modify fun w hw => heffect answer w _ hw

/-! ## `ProcessService` -/

/-- `XrayProcess.start`: the process is there once `Popen` has returned, and the threads that drain
its pipes may still fail to start. -/
def xrayStart : Act Exc World Unit := do
  let _ ← external fun w => { w with running := true, registered := none }
  let _ ← external id

/-- Closing a pipe waits for the thread that drains it, which reads until xray-core has ended. A
thread that has given up reading is not waited for. -/
def closeStreams : Act Exc World Unit := do
  let drained ← external id
  if drained.yes then change fun w => { w with running := false } else return

/-- `XrayProcess.stop`: terminate and wait, else kill and wait. -/
def xrayStop : Act Exc World Unit := do
  let _ ← external id
  ensure
    (do
      let waited ← external id
      if waited.yes then change fun w => { w with running := false }
      else
        let _ ← external fun w => { w with running := false })
    closeStreams

def cleanupRuntime : Act Exc World Unit := do
  let runtimeDir ← reads World.runtimeDir
  modify fun w => { w with runtimeDir := false }
  if runtimeDir then
    let _ ← external id

/-- `ProcessService.start` on a state in which `lift` runs the programs of the world; `write` builds
the configuration and writes it. -/
def processStartWith {σ α : Type} (lift : {β : Type} → Act Exc World β → Act Exc σ β)
    (write : Act Exc σ α) : Act Exc σ Unit := do
  if ← lift (reads World.process) then return
  else
    let binary ← lift (external id)
    if !binary.yes then raise (.error .binaryNotFound "xray-core binary not found")
    let _ ← lift (external fun w => { w with runtimeDir := true })
    handle Exc.isException
      (do
        let _ ← write
        lift xrayStart
        lift (modify fun w => { w with process := true }))
      (fun e => do
        lift (modify fun w => { w with process := false })
        lift cleanupRuntime
        raise e)

/-- `ProcessService.start`, the configuration being one external call. -/
def processStart : Act Exc World Unit := processStartWith (fun m => m) (external id)

/-- What every part of a start keeps. -/
theorem keeps_processStartWith {σ α : Type} {I : σ → Prop}
    {lift : {β : Type} → Act Exc World β → Act Exc σ β} {write : Act Exc σ α}
    (hread : Keeps I (lift (reads World.process))) (hcall : Keeps I (lift (external id)))
    (hdir : Keeps I (lift (external fun w => { w with runtimeDir := true })))
    (hwrite : Keeps I write) (hxray : Keeps I (lift xrayStart))
    (hhandle : ∀ process, Keeps I (lift (modify fun w => { w with process })))
    (hcleanup : Keeps I (lift cleanupRuntime)) : Keeps I (processStartWith lift write) := by
  have hstart : Keeps I (do
      let _ ← lift (external fun w => { w with runtimeDir := true })
      handle Exc.isException
        (do
          let _ ← write
          lift xrayStart
          lift (modify fun w => { w with process := true }))
        (fun e => do
          lift (modify fun w => { w with process := false })
          lift cleanupRuntime
          raise e)) := by
    refine Keeps.bind hdir fun _ => Keeps.handle ?_ fun e => ?_
    · exact Keeps.bind hwrite fun _ => Keeps.bind hxray fun _ => hhandle true
    · exact Keeps.bind (hhandle false) fun _ => Keeps.bind hcleanup fun _ => Keeps.raise e
  refine Keeps.bind hread fun _ => Keeps.ite (Keeps.pure _) ?_
  refine Keeps.bind hcall fun binary => ?_
  exact Keeps.ite (Keeps.bind (Keeps.raise _) fun _ => hstart) hstart

/-- `ProcessService.stop`. -/
def processStop : Act Exc World Unit := do
  let process ← reads World.process
  modify fun w => { w with process := false }
  ensure (if process then xrayStop else pure ()) cleanupRuntime

/-- `XrayProcess.is_running`. -/
def isRunning : Act Exc World Bool := do
  let _ ← ask
  reads World.running

/-! ## `EngineService` -/

/-- `EngineService.connect`, the retries of the connection being one external call. -/
def engineConnect : Act Exc World Unit := do
  if ← reads World.engine then return
  else
    let _ ← external fun w => { w with engine := true }

/-- The engine client's `add_vless_reality_outbound`. -/
def clientAdd (kwargs : OutboundKwargs) : Act Exc World Unit := do
  let answer ← external id
  if (← reads World.registered).isSome then raise (.error .runtimeError answer.text)
  else change fun w => { w with registered := some kwargs }

/-- The engine client's `remove_outbound`. -/
def clientRemove : Act Exc World Unit := do
  let _ ← external fun w => { w with registered := none }

/-- `EngineService.add_outbound`. -/
def engineAdd (profile : ServerProfile) : Act Exc World Unit := do
  if ← reads World.engine then
    let kwargs ← ofExcept (activeOutbound profile)
    clientAdd kwargs
  else raise (.error .runtimeError "Engine not connected")

/-- `EngineService.remove_outbound`. -/
def engineRemove (raiseOnError : Bool) : Act Exc World Unit := do
  if ← reads World.engine then
    handle Exc.isException clientRemove fun e => if raiseOnError then raise e else pure ()
  else return

/-- `EngineService.close`. -/
def engineClose : Act Exc World Unit := do
  let engine ← reads World.engine
  modify fun w => { w with engine := false }
  if engine then
    let _ ← external id

/-! ## `KillSwitchService` -/

def onKillswitch {α : Type} (m : Act Exc System α) : Act Exc World α :=
  zoom World.killswitch (fun killswitch w => { w with killswitch }) m

/-- `KillSwitchService.enable` for the current user's id. -/
def killswitchEnable (interface : String) : Act Exc World Unit := do
  let answer ← ask
  onKillswitch (System.activate interface answer.uid)

def killswitchDisable : Act Exc World Unit := onKillswitch System.deactivate

def killswitchStartWatcher : Act Exc World Unit := onKillswitch (System.startProcessWatcher 1)

/-- `KillSwitchService.stop_watcher`, which drops the manager's answer. -/
def killswitchStopWatcher : Act Exc World Unit := do
  let _ ← onKillswitch System.stopProcessWatcher

def killswitchIsActive : Act Exc World Bool := onKillswitch (reads fun s => s.state.active)

def killswitchIsWatcherAlive : Act Exc World Bool := onKillswitch do
  System.interleave
  reads fun s => s.manager.isWatcherAlive

/-! ## Health checks -/

/-- `check_all_profiles`: the engine returns rows with ids that it was given. -/
def checkAllProfiles (profiles : List ServerProfile) :
    Act Exc World (Dict String HealthCheckResult) := do
  if profiles.isEmpty then return .empty
  else
    let targets ← ofExcept (targetsOf profiles)
    let answer ← external id
    let now ← ask
    let ids := targets.map Prod.fst
    return collectResults now.text (answer.rows.filter fun row => row.profileId ∈ ids)

/-! ## All of them -/

/-- The default services. -/
def services (config : AppConfig) : Services World where
  config
  processStart _ := processStart
  isRunning := isRunning
  processStop := processStop
  connect := engineConnect
  addOutbound := engineAdd
  removeOutbound := engineRemove true
  close := engineClose
  hasEngine := World.engine
  enable := killswitchEnable
  disable := killswitchDisable
  startWatcher := killswitchStartWatcher
  stopWatcher := killswitchStopWatcher
  isActive := killswitchIsActive
  isWatcherAlive := killswitchIsWatcherAlive
  addSignalHandler _ := do let _ ← external id
  removeSignalHandler _ := do let _ ← external id
  checkAllProfiles
  now := do return (← ask).text
  clearStop w := w
  stopIsSet := do return (← ask).yes
  waitStop _ := do return (← external id).yes
  eventHandler := some fun _ _ => do let _ ← external id

end Bimarz.Connection
