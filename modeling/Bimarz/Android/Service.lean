import Bimarz.Android.VlessLinkParser
import Bimarz.Android.XrayConfig
import Bimarz.Effect.Run
import Bimarz.Engine.VlessBuilder
import Mathlib.Logic.Function.Basic

/-!
# The VPN service under every interleaving (`vpn/BimarzVpnService.kt`)

Every event launches a coroutine that runs `connect` or `disconnect`, and nothing keeps two of them
apart. A coroutine is cut between any two accesses to what it shares with the others: the state of
`VpnStateHolder`, the fields of its service, and the processes, interfaces and threads of the host.
A turn says which coroutine goes on and what the environment answers; an answer that cannot be
given lets the turn pass.

1. `Connect.next` and `Disconnect.next` are the two functions, step by step, with
   `XrayProcessManager`.
2. `System.step` gives a coroutine its turn, or brings an event.
-/

namespace Bimarz.Android

open XrayConfigBuilder (Ports Config activeOutboundTag)
open Engine (Crates OutboundHandlerConfig VlessRealityParams buildVlessRealityOutbound)

inductive ConnectionState
  | disconnected
  | connecting
  | connected (profileId profileLabel : String)
  | disconnecting
  | error (message : String)
  deriving DecidableEq

/-! ## The host -/

/-- An outbound of a process: from its configuration, or added by `AddOutbound`. -/
inductive Outbound
  | configured (outbound : Xray.Outbound)
  | added (outbound : OutboundHandlerConfig)
  deriving DecidableEq

def Outbound.tag : Outbound → String
  | .configured outbound => outbound.tag
  | .added outbound => outbound.tag

/-- A running xray-core. -/
structure Process where
  pid : ℕ
  outbounds : List Outbound
  deriving DecidableEq

/-- What all services share: the state of `VpnStateHolder`, the configuration file, the running
processes, the open TUN interfaces and the tunnels inside `TunToSocksBridge.start`. -/
structure Host where
  state : ConnectionState
  configFile : Option Config
  processes : List Process
  tuns : List ℕ
  tunnels : List ℕ
  /-- the next number of a process, an interface or a thread -/
  fresh : ℕ

namespace Host

def isAlive (h : Host) (pid : ℕ) : Bool := h.processes.any fun process => process.pid = pid

def spawn (h : Host) : Host :=
  { h with
    processes := h.processes ++ [⟨h.fresh,
      ((h.configFile.map Config.outbounds).getD []).map Outbound.configured⟩]
    fresh := h.fresh + 1 }

def destroy (h : Host) (pid : ℕ) : Host :=
  { h with processes := h.processes.filter fun process => process.pid ≠ pid }

/-- The outbounds of a process change. -/
def onProcess (h : Host) (pid : ℕ) (f : List Outbound → List Outbound) : Host :=
  { h with processes := h.processes.map fun process =>
      if process.pid = pid then { process with outbounds := f process.outbounds } else process }

def addOutbound (h : Host) (pid : ℕ) (outbound : OutboundHandlerConfig) : Host :=
  h.onProcess pid fun outbounds => outbounds ++ [.added outbound]

def removeOutbound (h : Host) (pid : ℕ) (tag : String) : Host :=
  h.onProcess pid fun outbounds => outbounds.filter fun outbound => outbound.tag ≠ tag

end Host

/-- The fields of a service. A client is the process that it has reached. -/
structure Service where
  process : Option ℕ := none
  tunInterface : Option ℕ := none
  engineClient : Option ℕ := none
  tunnelThread : Option ℕ := none

/-- `xrayProcessManager.isRunning`. -/
def Service.isRunning (service : Service) (h : Host) : Bool := service.process.any h.isAlive

def ServerProfile.toUniffiProfile (profile : ServerProfile) : VlessRealityParams where
  tag := activeOutboundTag
  uuid := profile.uuid
  flow := profile.flow
  address := profile.address
  port := profile.port.toUInt32
  network := profile.network
  sni := profile.sni
  fingerprint := profile.fingerprint
  publicKeyB64 := profile.publicKeyB64
  shortIdHex := profile.shortIdHex
  spiderX := profile.spiderX

/-! ## `connect` -/

/-- What the environment answers to a step. -/
inductive Answer
  | done
  | throws (message : Option String)
  /-- `loadAll` returns -/
  | profiles (profiles : List ServerProfile)
  /-- two calls of `findFreePort` -/
  | ports (ports : Ports)
  /-- `MobileEngineClient.connect` reaches a process -/
  | reaches (pid : ℕ)
  /-- `withTimeoutOrNull` returns null -/
  | timesOut
  /-- `establish` returns null -/
  | null

/-- Where a coroutine is in `connect`, up to its `catch` block. -/
inductive Connect
  /-- `VpnStateHolder.update(ConnectionState.Connecting)` -/
  | connecting (profileId : String)
  | loading (profileId : String)
  /-- the ports and the text of the configuration file -/
  | configuring (profile : ServerProfile)
  /-- `check(!isRunning)` -/
  | checking (profile : ServerProfile) (ports : Ports)
  /-- `builder.start()` -/
  | spawning (profile : ServerProfile) (ports : Ports)
  /-- `process = started` -/
  | keepingProcess (profile : ServerProfile) (ports : Ports) (pid : ℕ)
  /-- `connectEngineWithRetry` -/
  | dialling (profile : ServerProfile) (ports : Ports)
  | adding (profile : ServerProfile) (client : ℕ)
  /-- `engineClient = client` -/
  | keepingClient (profile : ServerProfile) (client : ℕ)
  | establishing (profile : ServerProfile)
  /-- `tunInterface = ` the result -/
  | keepingTun (profile : ServerProfile) (tun : ℕ)
  /-- `startTunToSocksBridge` -/
  | bridging (profile : ServerProfile)
  /-- `tunnelThread = ` the result -/
  | keepingThread (profile : ServerProfile) (thread : ℕ)
  /-- `startForeground` -/
  | promoting (profile : ServerProfile)
  /-- `VpnStateHolder.update(ConnectionState.Connected(..))` -/
  | announcing (profile : ServerProfile)
  /-- `VpnStateHolder.update(ConnectionState.Error(..))` in the `catch` block -/
  | failing (message : String)

/-- Where a coroutine is in `disconnect`. -/
inductive Disconnect
  /-- `VpnStateHolder.update(ConnectionState.Disconnecting)` -/
  | disconnecting
  /-- `TunToSocksBridge.stop()` -/
  | stoppingTunnel
  /-- `tunnelThread?.interrupt()`, which does nothing to native code, and `tunnelThread = null` -/
  | forgettingThread
  /-- `tunInterface?.close()` -/
  | closingTun
  | forgettingTun
  /-- `engineClient?.removeOutbound(..)` -/
  | removingOutbound
  | forgettingClient
  /-- `val current = process ?: return` in `stop` -/
  | stoppingProcess
  /-- `current.destroy()` and `current.destroyForcibly()` -/
  | destroying (pid : ℕ)
  /-- `process = null` -/
  | forgettingProcess
  /-- `VpnStateHolder.update(ConnectionState.Disconnected)` -/
  | releasing

inductive Place
  | connect (place : Connect)
  | disconnect (place : Disconnect)
  | finished

/-- What a step leaves behind: the host, the service and the place of its coroutine. -/
abbrev Left := Host × Service × Place

/-- An exception goes to the `catch` block. -/
def fails (h : Host) (service : Service) (message : String) : Option Left :=
  some (h, service, .connect (.failing message))

def unknownError : String := "Unknown error"

/-- A step of `connect`; `none` lets the turn pass. -/
def Connect.next (crates : Crates) (h : Host) (service : Service) :
    Connect → Answer → Option Left
  | .connecting profileId, .done =>
    some ({ h with state := .connecting }, service, .connect (.loading profileId))
  | .loading profileId, .profiles profiles =>
    match profiles.find? fun profile => profile.profileId = profileId with
    | some profile => some (h, service, .connect (.configuring profile))
    | none => fails h service s!"Profile not found: {profileId}"
  | .configuring profile, .ports ports =>
    some ({ h with configFile := some (XrayConfigBuilder.build ports) }, service,
      .connect (.checking profile ports))
  | .checking profile ports, .done =>
    if service.isRunning h then fails h service "xray is already running"
    else some (h, service, .connect (.spawning profile ports))
  | .spawning profile ports, .done =>
    some (h.spawn, service, .connect (.keepingProcess profile ports h.fresh))
  | .keepingProcess profile ports pid, .done =>
    some (h, { service with process := some pid }, .connect (.dialling profile ports))
  | .dialling profile _, .reaches pid =>
    if h.isAlive pid then some (h, service, .connect (.adding profile pid)) else none
  | .dialling _ ports, .timesOut =>
    fails h service
      s!"Timed out connecting to xray-core's gRPC API at http://127.0.0.1:{ports.apiPort}"
  | .adding profile client, .done =>
    -- a profile that the builder refuses and a process that has ended cannot be answered so
    match buildVlessRealityOutbound crates profile.toUniffiProfile with
    | .ok outbound =>
      if h.isAlive client then
        some (h.addOutbound client outbound, service, .connect (.keepingClient profile client))
      else none
    | .error _ => none
  | .keepingClient profile client, .done =>
    some (h, { service with engineClient := some client }, .connect (.establishing profile))
  | .establishing profile, .done =>
    some ({ h with tuns := h.tuns ++ [h.fresh], fresh := h.fresh + 1 }, service,
      .connect (.keepingTun profile h.fresh))
  | .establishing _, .null =>
    fails h service "VpnService.Builder.establish() returned null"
  | .keepingTun profile tun, .done =>
    some (h, { service with tunInterface := some tun }, .connect (.bridging profile))
  | .bridging profile, .done =>
    match service.tunInterface with
    | some _ =>
      some ({ h with tunnels := h.tunnels ++ [h.fresh], fresh := h.fresh + 1 }, service,
        .connect (.keepingThread profile h.fresh))
    | none => fails h service "TUN interface is not established"
  | .keepingThread profile thread, .done =>
    some (h, { service with tunnelThread := some thread }, .connect (.promoting profile))
  | .promoting profile, .done => some (h, service, .connect (.announcing profile))
  | .announcing profile, .done =>
    some ({ h with state := .connected profile.profileId profile.label }, service, .finished)
  | .failing message, .done =>
    some ({ h with state := .error message }, service, .disconnect .disconnecting)
  | .loading _, .throws message | .configuring _, .throws message
  | .spawning _ _, .throws message | .adding _ _, .throws message
  | .establishing _, .throws message | .bridging _, .throws message
  | .promoting _, .throws message => fails h service (message.getD unknownError)
  | _, _ => none

/-- The places that an exception can come from. -/
def Connect.mayFail : Connect → Bool
  | .loading _ | .configuring _ | .checking _ _ | .spawning _ _ | .dialling _ _ | .adding _ _
  | .establishing _ | .bridging _ | .promoting _ => true
  | _ => false

/-- What a step of `connect` can do. -/
inductive Connect.Steps (crates : Crates) (h : Host) (service : Service) :
    Connect → Answer → Left → Prop
  | connecting (profileId : String) : Steps crates h service (.connecting profileId) .done
      ({ h with state := .connecting }, service, .connect (.loading profileId))
  | loading {profileId : String} {profiles : List ServerProfile} {profile : ServerProfile} :
      (profiles.find? fun profile => profile.profileId = profileId) = some profile →
      Steps crates h service (.loading profileId) (.profiles profiles)
        (h, service, .connect (.configuring profile))
  | configuring (profile : ServerProfile) (ports : Ports) :
      Steps crates h service (.configuring profile) (.ports ports)
        ({ h with configFile := some (XrayConfigBuilder.build ports) }, service,
          .connect (.checking profile ports))
  | checking (profile : ServerProfile) (ports : Ports) : service.isRunning h = false →
      Steps crates h service (.checking profile ports) .done
        (h, service, .connect (.spawning profile ports))
  | spawning (profile : ServerProfile) (ports : Ports) :
      Steps crates h service (.spawning profile ports) .done
        (h.spawn, service, .connect (.keepingProcess profile ports h.fresh))
  | keepingProcess (profile : ServerProfile) (ports : Ports) (pid : ℕ) :
      Steps crates h service (.keepingProcess profile ports pid) .done
        (h, { service with process := some pid }, .connect (.dialling profile ports))
  | dialling (profile : ServerProfile) (ports : Ports) {pid : ℕ} : h.isAlive pid = true →
      Steps crates h service (.dialling profile ports) (.reaches pid)
        (h, service, .connect (.adding profile pid))
  | adding {profile : ServerProfile} {client : ℕ} {outbound : OutboundHandlerConfig} :
      buildVlessRealityOutbound crates profile.toUniffiProfile = .ok outbound →
      h.isAlive client = true → Steps crates h service (.adding profile client) .done
        (h.addOutbound client outbound, service, .connect (.keepingClient profile client))
  | keepingClient (profile : ServerProfile) (client : ℕ) :
      Steps crates h service (.keepingClient profile client) .done
        (h, { service with engineClient := some client }, .connect (.establishing profile))
  | establishing (profile : ServerProfile) : Steps crates h service (.establishing profile) .done
      ({ h with tuns := h.tuns ++ [h.fresh], fresh := h.fresh + 1 }, service,
        .connect (.keepingTun profile h.fresh))
  | keepingTun (profile : ServerProfile) (tun : ℕ) :
      Steps crates h service (.keepingTun profile tun) .done
        (h, { service with tunInterface := some tun }, .connect (.bridging profile))
  | bridging (profile : ServerProfile) {tun : ℕ} : service.tunInterface = some tun →
      Steps crates h service (.bridging profile) .done
        ({ h with tunnels := h.tunnels ++ [h.fresh], fresh := h.fresh + 1 }, service,
          .connect (.keepingThread profile h.fresh))
  | keepingThread (profile : ServerProfile) (thread : ℕ) :
      Steps crates h service (.keepingThread profile thread) .done
        (h, { service with tunnelThread := some thread }, .connect (.promoting profile))
  | promoting (profile : ServerProfile) : Steps crates h service (.promoting profile) .done
      (h, service, .connect (.announcing profile))
  | announcing (profile : ServerProfile) : Steps crates h service (.announcing profile) .done
      ({ h with state := .connected profile.profileId profile.label }, service, .finished)
  | failing (message : String) : Steps crates h service (.failing message) .done
      ({ h with state := .error message }, service, .disconnect .disconnecting)
  | fails {place : Connect} (answer : Answer) (message : String) : place.mayFail = true →
      Steps crates h service place answer (h, service, .connect (.failing message))

theorem Connect.steps_of_next {crates : Crates} {h : Host} {service : Service} {place : Connect}
    {answer : Answer} {l : Left} (hnext : place.next crates h service answer = some l) :
    place.Steps crates h service answer l := by
  unfold Connect.next fails at hnext
  split at hnext
  -- the steps with a single outcome
  all_goals try
    first
      | exact Option.some.inj hnext ▸ .fails _ _ rfl
      | exact Option.some.inj hnext ▸ by constructor
  case h_2 =>
    split at hnext
    · rename_i profile hfind
      exact Option.some.inj hnext ▸ .loading hfind
    · exact Option.some.inj hnext ▸ .fails _ _ rfl
  case h_4 =>
    split at hnext
    · exact Option.some.inj hnext ▸ .fails _ _ rfl
    · rename_i hrunning
      exact Option.some.inj hnext ▸ .checking _ _ (Bool.not_eq_true _ ▸ hrunning)
  case h_7 =>
    split at hnext
    · rename_i halive
      exact Option.some.inj hnext ▸ .dialling _ _ halive
    · cases hnext
  case h_9 =>
    split at hnext
    · rename_i outbound hbuild
      split at hnext
      · rename_i halive
        exact Option.some.inj hnext ▸ .adding hbuild halive
      · cases hnext
    · cases hnext
  case h_14 =>
    split at hnext
    · rename_i tun htun
      exact Option.some.inj hnext ▸ .bridging _ htun
    · exact Option.some.inj hnext ▸ .fails _ _ rfl
  case h_26 => cases hnext

/-! ## `disconnect` -/

/-- A step of `disconnect`. What `removeOutbound` throws is caught. -/
def Disconnect.next (h : Host) (service : Service) : Disconnect → Answer → Option Left
  | .disconnecting, .done =>
    some ({ h with state := .disconnecting }, service, .disconnect .stoppingTunnel)
  | .stoppingTunnel, .done =>
    some ({ h with tunnels := [] }, service, .disconnect .forgettingThread)
  | .forgettingThread, .done =>
    some (h, { service with tunnelThread := none }, .disconnect .closingTun)
  | .closingTun, .done =>
    some ({ h with tuns := h.tuns.filter fun tun => service.tunInterface ≠ some tun }, service,
      .disconnect .forgettingTun)
  | .forgettingTun, .done =>
    some (h, { service with tunInterface := none }, .disconnect .removingOutbound)
  | .removingOutbound, .done =>
    some (service.engineClient.elim h fun client => h.removeOutbound client activeOutboundTag,
      service, .disconnect .forgettingClient)
  | .removingOutbound, .throws _ => some (h, service, .disconnect .forgettingClient)
  | .forgettingClient, .done =>
    some (h, { service with engineClient := none }, .disconnect .stoppingProcess)
  | .stoppingProcess, .done =>
    match service.process with
    | some pid => some (h, service, .disconnect (.destroying pid))
    | none => some (h, service, .disconnect .releasing)
  | .destroying pid, .done => some (h.destroy pid, service, .disconnect .forgettingProcess)
  | .forgettingProcess, .done =>
    some (h, { service with process := none }, .disconnect .releasing)
  | .releasing, .done => some ({ h with state := .disconnected }, service, .finished)
  | _, _ => none

/-- What a step of `disconnect` can do. -/
inductive Disconnect.Steps (h : Host) (service : Service) : Disconnect → Left → Prop
  | disconnecting : Steps h service .disconnecting
      ({ h with state := .disconnecting }, service, .disconnect .stoppingTunnel)
  | stoppingTunnel : Steps h service .stoppingTunnel
      ({ h with tunnels := [] }, service, .disconnect .forgettingThread)
  | forgettingThread : Steps h service .forgettingThread
      (h, { service with tunnelThread := none }, .disconnect .closingTun)
  | closingTun : Steps h service .closingTun
      ({ h with tuns := h.tuns.filter fun tun => service.tunInterface ≠ some tun }, service,
        .disconnect .forgettingTun)
  | forgettingTun : Steps h service .forgettingTun
      (h, { service with tunInterface := none }, .disconnect .removingOutbound)
  | removingOutbound (client : ℕ) : Steps h service .removingOutbound
      (h.removeOutbound client activeOutboundTag, service, .disconnect .forgettingClient)
  | keepingOutbound : Steps h service .removingOutbound
      (h, service, .disconnect .forgettingClient)
  | forgettingClient : Steps h service .forgettingClient
      (h, { service with engineClient := none }, .disconnect .stoppingProcess)
  | stoppingProcess {pid : ℕ} : service.process = some pid →
      Steps h service .stoppingProcess (h, service, .disconnect (.destroying pid))
  | stopped : service.process = none →
      Steps h service .stoppingProcess (h, service, .disconnect .releasing)
  | destroying (pid : ℕ) : Steps h service (.destroying pid)
      (h.destroy pid, service, .disconnect .forgettingProcess)
  | forgettingProcess : Steps h service .forgettingProcess
      (h, { service with process := none }, .disconnect .releasing)
  | releasing : Steps h service .releasing ({ h with state := .disconnected }, service, .finished)

theorem Disconnect.steps_of_next {h : Host} {service : Service} {place : Disconnect}
    {answer : Answer} {l : Left} (hnext : place.next h service answer = some l) :
    place.Steps h service l := by
  unfold Disconnect.next at hnext
  split at hnext
  case h_6 =>
    cases hclient : service.engineClient with
    | none =>
      rw [hclient] at hnext
      exact Option.some.inj hnext ▸ .keepingOutbound
    | some client =>
      rw [hclient] at hnext
      exact Option.some.inj hnext ▸ .removingOutbound client
  case h_9 =>
    split at hnext
    · rename_i pid hpid
      exact Option.some.inj hnext ▸ .stoppingProcess hpid
    · rename_i hnone
      exact Option.some.inj hnext ▸ .stopped hnone
  case h_13 => cases hnext
  all_goals exact Option.some.inj hnext ▸ by constructor

def Place.next (crates : Crates) (h : Host) (service : Service) (answer : Answer) :
    Place → Option Left
  | .connect place => place.next crates h service answer
  | .disconnect place => place.next h service answer
  | .finished => none

/-! ## The system -/

/-- What a coroutine was launched for. -/
inductive Request
  | connect (profileId : String)
  | disconnect
  deriving DecidableEq

/-- The first place of a coroutine. -/
def Request.place : Request → Place
  | .connect profileId => .connect (.connecting profileId)
  | .disconnect => .disconnect .disconnecting

structure Coroutine where
  service : ℕ
  request : Request
  place : Place

/-- The host, the services so far, of which the last one may have been destroyed, and the
coroutines in the order in which they were launched. -/
structure System where
  host : Host
  services : ℕ → Service
  current : ℕ
  live : Bool
  coroutines : ℕ → Coroutine
  launched : ℕ

/-- The app before any event. -/
def System.init : System where
  host := {
    state := .disconnected
    configFile := none
    processes := []
    tuns := []
    tunnels := []
    fresh := 0 }
  services _ := {}
  current := 0
  live := false
  coroutines _ := ⟨0, .disconnect, .finished⟩
  launched := 0

/-- An event of the service, or the next step of a coroutine. -/
inductive Turn
  | actionConnect (profileId : String)
  | actionDisconnect
  | onRevoke
  | onDestroy
  | resume (coroutine : ℕ) (answer : Answer)

namespace System

def launch (s : System) (request : Request) : System :=
  { s with
    coroutines := Function.update s.coroutines s.launched ⟨s.current, request, request.place⟩
    launched := s.launched + 1 }

/-- A command goes to the service; after `onDestroy` there is a new one. -/
def created (s : System) : System :=
  if s.live then s else { s with current := s.current + 1, live := true }

/-- A coroutine has taken a step. -/
def left (s : System) (k : ℕ) (l : Left) : System :=
  { s with
    host := l.1
    services := Function.update s.services (s.coroutines k).service l.2.1
    coroutines := Function.update s.coroutines k
      ⟨(s.coroutines k).service, (s.coroutines k).request, l.2.2⟩ }

def step (crates : Crates) (s : System) : Turn → System
  | .actionConnect profileId => s.created.launch (.connect profileId)
  | .actionDisconnect => s.created.launch .disconnect
  | .onRevoke => if s.live then s.launch .disconnect else s
  | .onDestroy => if s.live then { s.launch .disconnect with live := false } else s
  | .resume k answer =>
    match (s.coroutines k).place.next crates s.host (s.services (s.coroutines k).service) answer
      with
    | some l => s.left k l
    | none => s

/-! ## The parts of a system after a turn -/

section Parts

variable (s : System) (k : ℕ) (l : Left)

@[simp] theorem left_host : (s.left k l).host = l.1 := rfl

@[simp] theorem left_place_self : ((s.left k l).coroutines k).place = l.2.2 := by simp [left]

theorem left_place_of_ne {j : ℕ} (h : j ≠ k) :
    ((s.left k l).coroutines j).place = (s.coroutines j).place := by simp [left, h]

@[simp] theorem left_request (j : ℕ) :
    ((s.left k l).coroutines j).request = (s.coroutines j).request := by
  by_cases h : j = k
  · subst h
    simp [left]
  · simp [left, h]

@[simp] theorem left_service (j : ℕ) :
    ((s.left k l).coroutines j).service = (s.coroutines j).service := by
  by_cases h : j = k
  · subst h
    simp [left]
  · simp [left, h]

@[simp] theorem left_services_self :
    (s.left k l).services (s.coroutines k).service = l.2.1 := by simp [left]

theorem left_services_of_ne {i : ℕ} (h : i ≠ (s.coroutines k).service) :
    (s.left k l).services i = s.services i := by simp [left, h]

end Parts

/-- A turn of a coroutine is a step of its, or passes. -/
theorem step_resume (crates : Crates) (s : System) (k : ℕ) (answer : Answer) :
    s.step crates (.resume k answer) = s ∨
      ∃ l, (s.coroutines k).place.next crates s.host (s.services (s.coroutines k).service) answer =
        some l ∧ s.step crates (.resume k answer) = s.left k l := by
  cases hnext : (s.coroutines k).place.next crates s.host (s.services (s.coroutines k).service)
      answer with
  | none =>
    left
    simp only [step, hnext]
  | some l =>
    right
    exact ⟨l, rfl, by simp only [step, hnext]⟩

end System

end Bimarz.Android
