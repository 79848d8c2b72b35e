import Bimarz.Android.Connect

/-!
# Connecting and disconnecting in turn

Where no coroutine goes on before every `connect` that was launched before it has ended, and no
`connect` before every coroutine, the state says what is held once all have ended. Three phases
carry the proof: a `connect` is on its way, a connection stands, or what is held is left to
coroutines that are going to release it.
-/

namespace Bimarz.Android

open Effect
open Engine (Crates buildVlessRealityOutbound)

/-! ## What is held -/

/-- No process runs, no interface is open and no tunnel runs. -/
structure Host.Idle (h : Host) : Prop where
  processes : h.processes = []
  tuns : h.tuns = []
  tunnels : h.tunnels = []

/-- The outbound of a profile was added to the process of a service. -/
def Host.Added (crates : Crates) (h : Host) (service : Service) (profile : ServerProfile) : Prop :=
  ∃ process ∈ h.processes, service.process = some process.pid ∧
    ∃ outbound, buildVlessRealityOutbound crates profile.toUniffiProfile = .ok outbound ∧
      .added outbound ∈ process.outbounds

/-- The resources of a connection that a service holds. -/
structure Host.Holds (crates : Crates) (h : Host) (service : Service) (profile : ServerProfile) :
    Prop where
  added : h.Added crates service profile
  tun : ∃ tun ∈ h.tuns, service.tunInterface = some tun
  tunnel : ∃ thread ∈ h.tunnels, service.tunnelThread = some thread

/-- All coroutines have ended. -/
def System.Settled (s : System) : Prop := ∀ k < s.launched, (s.coroutines k).place = .finished

/-- The state says what is held, and after a disconnect that was requested last nothing is. -/
structure System.Serialised (crates : Crates) (s : System) : Prop where
  connected : ∀ profileId profileLabel, s.host.state = .connected profileId profileLabel →
    ∃ i profile, profile.profileId = profileId ∧ profile.label = profileLabel ∧
      s.host.Holds crates (s.services i) profile
  idle : (∀ profileId profileLabel, s.host.state ≠ .connected profileId profileLabel) →
    s.host.Idle
  last : ∀ k, s.launched = k + 1 → (s.coroutines k).request = .disconnect → s.host.Idle

/-- Of two coroutines that have not ended, the later one goes on only if both disconnect. -/
def System.Ordered (s : System) : Turn → Prop
  | .resume k _ => ∀ j < k, (s.coroutines j).place ≠ .finished →
    (s.coroutines j).request = .disconnect ∧ (s.coroutines k).request = .disconnect
  | _ => True

/-! ## A `connect` on its way -/

/-- The processes, interfaces and tunnels there are. -/
structure Host.Has (h : Host) (pids tuns tunnels : List ℕ) : Prop where
  processes : h.processes.map Process.pid = pids
  tuns : h.tuns = tuns
  tunnels : h.tunnels = tunnels

/-- All of a connection. -/
structure Host.Full (h : Host) (service : Service) : Prop where
  has : ∃ pid tun thread, service.process = some pid ∧ service.tunInterface = some tun ∧
    service.tunnelThread = some thread ∧ h.Has [pid] [tun] [thread]

/-- Whatever runs or is open stands in a field of the service. -/
structure Host.Owned (h : Host) (service : Service) : Prop where
  processes : ∀ process ∈ h.processes, service.process = some process.pid
  tuns : ∀ tun ∈ h.tuns, service.tunInterface = some tun

section Held

variable {crates : Crates} {h : Host} {service : Service} {profile : ServerProfile}

theorem Host.Has.owned {pid : ℕ} {tuns tunnels : List ℕ} (hhas : h.Has [pid] tuns tunnels)
    (hprocess : service.process = some pid)
    (htuns : ∀ tun ∈ tuns, service.tunInterface = some tun) : h.Owned service where
  processes := by
    intro process hmem
    have hpid : process.pid ∈ [pid] := hhas.processes ▸ List.mem_map_of_mem hmem
    rw [List.mem_singleton.mp hpid, hprocess]
  tuns := by
    rw [hhas.tuns]
    exact htuns

theorem Host.Idle.owned (hidle : h.Idle) : h.Owned service where
  processes := by
    rw [hidle.processes]
    exact List.forall_mem_nil _
  tuns := by
    rw [hidle.tuns]
    exact List.forall_mem_nil _

theorem Host.Full.owned (hfull : h.Full service) : h.Owned service := by
  obtain ⟨pid, tun, thread, hprocess, htun, -, hhas⟩ := hfull.has
  refine hhas.owned hprocess fun tun' htun' => ?_
  rw [List.mem_singleton.mp htun', htun]

theorem Host.Full.holds (hfull : h.Full service) (hadded : h.Added crates service profile) :
    h.Holds crates service profile := by
  obtain ⟨pid, tun, thread, -, htun, hthread, hhas⟩ := hfull.has
  refine ⟨hadded, ⟨tun, ?_, htun⟩, ⟨thread, ?_, hthread⟩⟩
  · rw [hhas.tuns]
    exact List.mem_singleton_self tun
  · rw [hhas.tunnels]
    exact List.mem_singleton_self thread

/-- A service whose process runs holds a connection, if it is all or nothing. -/
theorem Host.idle_of_not_running (h' : h.Idle ∨ h.Full service)
    (hrunning : service.isRunning h = false) : h.Idle := by
  rcases h' with hidle | hfull
  · exact hidle
  · obtain ⟨pid, tun, thread, hprocess, -, -, hhas⟩ := hfull.has
    have hmem : pid ∈ h.processes.map Process.pid := hhas.processes ▸ List.mem_singleton_self pid
    obtain ⟨process, hmem, hpid⟩ := List.mem_map.mp hmem
    have halive : h.isAlive pid = true := List.any_eq_true.mpr ⟨process, hmem, decide_eq_true hpid⟩
    simp [Service.isRunning, hprocess, halive] at hrunning

theorem Host.Has.spawn (hidle : h.Idle) : h.spawn.Has [h.fresh] [] [] where
  processes := by simp [Host.spawn, hidle.processes]
  tuns := hidle.tuns
  tunnels := hidle.tunnels

theorem Host.pids_onProcess (pid : ℕ) (f : List Outbound → List Outbound) :
    (h.onProcess pid f).processes.map Process.pid = h.processes.map Process.pid := by
  unfold Host.onProcess
  rw [List.map_map]
  refine List.map_congr_left fun process _ => ?_
  by_cases hpid : process.pid = pid
  · simp [hpid]
  · simp [hpid]

/-- `AddOutbound` to the only process. -/
theorem Host.Added.of_add {client : ℕ} {outbound : Engine.OutboundHandlerConfig}
    (hbuild : buildVlessRealityOutbound crates profile.toUniffiProfile = .ok outbound)
    (hprocess : service.process = some client) (halive : h.isAlive client = true) :
    (h.addOutbound client outbound).Added crates service profile := by
  obtain ⟨process, hmem, hpid⟩ := List.any_eq_true.mp halive
  have hpid := of_decide_eq_true hpid
  refine ⟨{ process with outbounds := process.outbounds ++ [.added outbound] }, ?_, ?_, outbound,
    hbuild, List.mem_append_right _ (List.mem_singleton_self _)⟩
  · exact List.mem_map.mpr ⟨process, hmem, if_pos hpid⟩
  · rw [hprocess, hpid]

end Held

/-- What holds at a place of `connect`, where nothing else is on its way. -/
def Connect.Res (crates : Crates) (h : Host) (service : Service) : Connect → Prop
  | .connecting _ => False
  | .loading _ | .configuring _ | .checking _ _ => h.Idle ∨ h.Full service
  | .spawning _ _ => h.Idle
  | .keepingProcess _ _ pid => h.Has [pid] [] []
  | .dialling _ _ => ∃ pid, service.process = some pid ∧ h.Has [pid] [] []
  | .adding _ client => service.process = some client ∧ h.Has [client] [] []
  | .keepingClient profile _ | .establishing profile =>
    ∃ pid, service.process = some pid ∧ h.Has [pid] [] [] ∧ h.Added crates service profile
  | .keepingTun profile tun =>
    ∃ pid, service.process = some pid ∧ h.Has [pid] [tun] [] ∧ h.Added crates service profile
  | .bridging profile => ∃ pid tun, service.process = some pid ∧ service.tunInterface = some tun ∧
    h.Has [pid] [tun] [] ∧ h.Added crates service profile
  | .keepingThread profile thread => ∃ pid tun, service.process = some pid ∧
    service.tunInterface = some tun ∧ h.Has [pid] [tun] [thread] ∧ h.Added crates service profile
  | .promoting profile | .announcing profile => h.Full service ∧ h.Added crates service profile
  | .failing _ => h.Owned service

/-- What a step of `connect` leaves to its coroutine. -/
def Left.Res (crates : Crates) (l : Left) : Prop :=
  match l.2.2 with
  | .connect place => place.Res crates l.1 l.2.1
  | .finished => ∃ profile : ServerProfile,
    l.1.state = .connected profile.profileId profile.label ∧ l.1.Full l.2.1 ∧
      l.1.Added crates l.2.1 profile
  | .disconnect place => place = .disconnecting ∧ l.1.Owned l.2.1 ∧
    ∀ profileId profileLabel, l.1.state ≠ .connected profileId profileLabel

section Steps

variable {crates : Crates} {h : Host} {service : Service} {place : Connect} {answer : Answer}
  {l : Left}

/-- An exception leaves everything in the fields. -/
theorem Connect.Res.owned (hres : place.Res crates h service) (hfails : place.mayFail = true) :
    h.Owned service := by
  cases place with
  | loading _ | configuring _ | checking _ _ => exact hres.elim Host.Idle.owned Host.Full.owned
  | spawning _ _ => exact Host.Idle.owned hres
  | dialling _ _ =>
    obtain ⟨pid, hprocess, hhas⟩ := hres
    exact hhas.owned hprocess (List.forall_mem_nil _)
  | adding _ _ => exact hres.2.owned hres.1 (List.forall_mem_nil _)
  | establishing _ =>
    obtain ⟨pid, hprocess, hhas, -⟩ := hres
    exact hhas.owned hprocess (List.forall_mem_nil _)
  | bridging _ =>
    obtain ⟨pid, tun, hprocess, htun, hhas, -⟩ := hres
    refine hhas.owned hprocess fun tun' htun' => ?_
    rw [List.mem_singleton.mp htun', htun]
  | promoting _ => exact hres.1.owned
  | connecting _ | keepingProcess _ _ _ | keepingClient _ _ | keepingTun _ _ | keepingThread _ _
  | announcing _ | failing _ => cases hfails

/-- One step of a `connect` that is alone. -/
theorem Connect.Res.step (hres : place.Res crates h service)
    (hsteps : place.Steps crates h service answer l) : l.Res crates := by
  cases hsteps with
  | connecting profileId => exact hres.elim
  | loading hfind => exact hres
  | configuring profile ports =>
    exact hres.imp (fun hidle => ⟨hidle.1, hidle.2, hidle.3⟩) fun hfull => by
      obtain ⟨pid, tun, thread, hprocess, htun, hthread, hhas⟩ := hfull.has
      exact ⟨pid, tun, thread, hprocess, htun, hthread, ⟨hhas.1, hhas.2, hhas.3⟩⟩
  | checking profile ports hrunning => exact Host.idle_of_not_running hres hrunning
  | spawning profile ports => exact Host.Has.spawn hres
  | keepingProcess profile ports pid => exact ⟨pid, rfl, hres⟩
  | @dialling profile ports pid halive =>
    obtain ⟨pid', hprocess, hhas⟩ := hres
    obtain ⟨process, hmem, hpid⟩ := List.any_eq_true.mp halive
    have hmem' : process.pid ∈ [pid'] := hhas.processes ▸ List.mem_map_of_mem hmem
    have hsame : pid' = pid := (List.mem_singleton.mp hmem').symm.trans (of_decide_eq_true hpid)
    rw [hsame] at hprocess hhas
    exact ⟨hprocess, hhas⟩
  | adding hbuild halive =>
    obtain ⟨hprocess, hhas⟩ := hres
    refine ⟨_, hprocess, ⟨?_, hhas.tuns, hhas.tunnels⟩, .of_add hbuild hprocess halive⟩
    rw [← hhas.processes]
    exact Host.pids_onProcess _ _
  | keepingClient profile client => exact hres
  | establishing profile =>
    obtain ⟨pid, hprocess, hhas, hadded⟩ := hres
    exact ⟨pid, hprocess, ⟨hhas.processes, by simp [hhas.tuns], hhas.tunnels⟩, hadded⟩
  | keepingTun profile tun =>
    obtain ⟨pid, hprocess, hhas, hadded⟩ := hres
    exact ⟨pid, tun, hprocess, rfl, hhas, hadded⟩
  | bridging profile _ =>
    obtain ⟨pid, tun, hprocess, htun, hhas, hadded⟩ := hres
    exact ⟨pid, tun, hprocess, htun, ⟨hhas.processes, hhas.tuns, by simp [hhas.tunnels]⟩, hadded⟩
  | keepingThread profile thread =>
    obtain ⟨pid, tun, hprocess, htun, hhas, hadded⟩ := hres
    exact ⟨⟨pid, tun, thread, hprocess, htun, rfl, hhas⟩, hadded⟩
  | promoting profile => exact hres
  | announcing profile =>
    obtain ⟨hfull, hadded⟩ := hres
    obtain ⟨pid, tun, thread, hprocess, htun, hthread, hhas⟩ := hfull.has
    exact ⟨profile, rfl, ⟨pid, tun, thread, hprocess, htun, hthread, ⟨hhas.1, hhas.2, hhas.3⟩⟩,
      hadded⟩
  | failing message => exact ⟨rfl, ⟨hres.1, hres.2⟩, nofun⟩
  | fails answer message hfails => exact hres.owned hfails

end Steps

end Bimarz.Android
