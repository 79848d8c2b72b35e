import Bimarz.Android.Service

/-!
# A connection to which nothing external fails

A run of one `connect` in which the process starts, gRPC answers, the interface is established and
the bridge starts. `AddOutbound` fails exactly where the tag is taken, and it always is: the
configuration has an outbound under the tag of the real one.
-/

namespace Bimarz.Android

open Effect
open XrayConfigBuilder (Ports activeOutboundTag)
open Engine (Crates buildVlessRealityOutbound)

/-- A running process has an outbound with the tag. -/
def Host.Registered (h : Host) (pid : ℕ) (tag : String) : Prop :=
  ∃ process ∈ h.processes, process.pid = pid ∧ ∃ outbound ∈ process.outbounds, outbound.tag = tag

/-- Nothing but `AddOutbound` fails, and this fails if and only if the tag is taken. -/
def System.Smooth (stored : List ServerProfile) (ports : Ports) (s : System) : Turn → Prop
  | .resume k answer =>
    match (s.coroutines k).place, answer with
    | .connect (.adding _ client), .throws _ => s.host.Registered client activeOutboundTag
    | .connect (.adding _ client), .done => ¬s.host.Registered client activeOutboundTag
    | .connect (.loading _), .profiles profiles => profiles = stored
    | .connect (.configuring _), .ports ports' => ports' = ports
    | _, .throws _ | _, .timesOut | _, .null => False
    | _, _ => True
  | _ => False

/-- The app after an `ACTION_CONNECT`. -/
def System.connecting (crates : Crates) (profileId : String) : System :=
  System.init.step crates (.actionConnect profileId)

/-- The state is `Connected(profile)`, and under the active tag there is the outbound of the
profile. -/
structure System.Established (crates : Crates) (profile : ServerProfile) (s : System) : Prop where
  state : s.host.state = .connected profile.profileId profile.label
  registered : ∃ process ∈ s.host.processes, ∃ outbound,
    buildVlessRealityOutbound crates profile.toUniffiProfile = .ok outbound ∧
      .added outbound ∈ process.outbounds
  only : ∀ process ∈ s.host.processes, ∀ outbound ∈ process.outbounds,
    outbound.tag = activeOutboundTag → ∃ added, outbound = .added added

/-! ## No run gets past `AddOutbound` -/

/-- Every process has an outbound under the active tag. -/
def Host.Taken (h : Host) : Prop :=
  ∀ process ∈ h.processes, ∃ outbound ∈ process.outbounds, outbound.tag = activeOutboundTag

/-- What holds while a coroutine is at a place of `connect`. -/
def Connect.Before (ports : Ports) (h : Host) : Connect → Prop
  | .connecting _ | .loading _ | .configuring _ | .keepingProcess _ _ _ | .dialling _ _
  | .adding _ _ | .failing _ => h.Taken
  | .checking _ _ | .spawning _ _ =>
    h.Taken ∧ h.configFile = some (XrayConfigBuilder.build ports)
  | _ => False

structure System.Unconnected (ports : Ports) (s : System) : Prop where
  state : ∀ profileId profileLabel, s.host.state ≠ .connected profileId profileLabel
  others : ∀ k, k ≠ 0 → (s.coroutines k).place = .finished
  place : ∀ place, (s.coroutines 0).place = .connect place → place.Before ports s.host

section Runs

variable {crates : Crates} {stored : List ServerProfile} {ports : Ports} {profile : ServerProfile}

theorem taken_spawn {h : Host} (htaken : h.Taken)
    (hfile : h.configFile = some (XrayConfigBuilder.build ports)) : h.spawn.Taken := by
  intro process hprocess
  rcases List.mem_append.mp hprocess with hold | hnew
  · exact htaken process hold
  · rw [List.mem_singleton.mp hnew, hfile]
    exact ⟨.configured XrayConfigBuilder.placeholder, List.mem_cons_self, rfl⟩

/-- Every place that an exception comes from is before the end of `AddOutbound`. -/
theorem Connect.Before.taken {h : Host} {place : Connect} (hbefore : place.Before ports h)
    (hfails : place.mayFail = true) : h.Taken := by
  cases place with
  | checking profile ports => exact hbefore.1
  | spawning profile ports => exact hbefore.1
  | loading _ | configuring _ | dialling _ _ | adding _ _ => exact hbefore
  | establishing _ | bridging _ | promoting _ => exact hbefore.elim
  | connecting _ | keepingProcess _ _ _ | keepingClient _ _ | keepingTun _ _ | keepingThread _ _
  | announcing _ | failing _ => cases hfails

theorem registered_of_taken {h : Host} (htaken : h.Taken) {pid : ℕ}
    (halive : h.isAlive pid = true) : h.Registered pid activeOutboundTag := by
  obtain ⟨process, hprocess, hpid⟩ := List.any_eq_true.mp halive
  exact ⟨process, hprocess, of_decide_eq_true hpid, htaken process hprocess⟩

/-- A step of `connect` that nothing external fails. -/
theorem Connect.Before.step {h : Host} {service : Service} {place : Connect} {answer : Answer}
    {l : Left} (hbefore : place.Before ports h)
    (hstate : ∀ profileId profileLabel, h.state ≠ .connected profileId profileLabel)
    (hports : ∀ profile ports', place = .configuring profile → answer = .ports ports' →
      ports' = ports)
    (hadd : ∀ profile client, place = .adding profile client → answer = .done →
      ¬h.Registered client activeOutboundTag)
    (hsteps : place.Steps crates h service answer l) :
    (∀ profileId profileLabel, l.1.state ≠ .connected profileId profileLabel) ∧
      ∀ place', l.2.2 = .connect place' → place'.Before ports l.1 := by
  cases hsteps with
  | connecting profileId => exact ⟨fun _ _ => nofun, by rintro _ ⟨⟩; exact hbefore⟩
  | loading hfind => exact ⟨hstate, by rintro _ ⟨⟩; exact hbefore⟩
  | configuring profile ports' =>
    refine ⟨hstate, ?_⟩
    rintro _ ⟨⟩
    rw [hports profile ports' rfl rfl]
    exact ⟨hbefore, rfl⟩
  | checking profile ports' hrunning => exact ⟨hstate, by rintro _ ⟨⟩; exact hbefore⟩
  | spawning profile ports' =>
    exact ⟨hstate, by rintro _ ⟨⟩; exact taken_spawn hbefore.1 hbefore.2⟩
  | keepingProcess profile ports' pid => exact ⟨hstate, by rintro _ ⟨⟩; exact hbefore⟩
  | dialling profile ports' halive => exact ⟨hstate, by rintro _ ⟨⟩; exact hbefore⟩
  | adding hbuild halive =>
    exact absurd (registered_of_taken hbefore halive) (hadd _ _ rfl rfl)
  | keepingClient _ _ | establishing _ | keepingTun _ _ | bridging _ _ | keepingThread _ _
  | promoting _ | announcing _ => exact hbefore.elim
  | failing message => exact ⟨fun _ _ => nofun, fun _ => nofun⟩
  | fails answer message hfails => exact ⟨hstate, by rintro _ ⟨⟩; exact hbefore.taken hfails⟩

/-- `disconnect` does not connect. -/
theorem Disconnect.Steps.state {h : Host} {service : Service} {place : Disconnect} {l : Left}
    (hsteps : place.Steps h service l)
    (hstate : ∀ profileId profileLabel, h.state ≠ .connected profileId profileLabel) :
    (∀ profileId profileLabel, l.1.state ≠ .connected profileId profileLabel) ∧
      ∀ place', l.2.2 ≠ .connect place' := by
  cases hsteps with
  | disconnecting | releasing => exact ⟨fun _ _ => nofun, fun _ => nofun⟩
  | stoppingTunnel | forgettingThread | closingTun | forgettingTun | removingOutbound _
  | keepingOutbound | forgettingClient | stoppingProcess _ | stopped _ | destroying _
  | forgettingProcess => exact ⟨hstate, fun _ => nofun⟩

theorem unconnected_connecting (profileId : String) :
    (System.connecting crates profileId).Unconnected ports where
  state _ _ := nofun
  others k hk := by simp [System.connecting, System.step, System.created, System.launch,
    System.init, hk]
  place := by
    rintro place hplace
    have hfirst : place = .connecting profileId := by
      simpa [System.connecting, System.step, System.created, System.launch, System.init,
        Request.place, eq_comm] using hplace
    rw [hfirst]
    exact List.forall_mem_nil _

theorem System.Unconnected.step {s : System} (h : s.Unconnected ports) {turn : Turn}
    (hsmooth : s.Smooth stored ports turn) : (s.step crates turn).Unconnected ports := by
  cases turn with
  | resume k answer =>
    rcases s.step_resume crates k answer with hpass | ⟨l, hnext, hstep⟩
    · rw [hpass]
      exact h
    · rw [hstep]
      have hzero : k = 0 := by
        by_contra hk
        rw [h.others k hk] at hnext
        cases hnext
      subst hzero
      have hleft : (∀ profileId profileLabel, l.1.state ≠ .connected profileId profileLabel) ∧
          ∀ place', l.2.2 = .connect place' → place'.Before ports l.1 := by
        cases hplace : (s.coroutines 0).place with
        | finished =>
          rw [hplace] at hnext
          cases hnext
        | disconnect place =>
          rw [hplace] at hnext
          obtain ⟨hstate, hnot⟩ := (Disconnect.steps_of_next hnext).state h.state
          exact ⟨hstate, fun place' hplace' => absurd hplace' (hnot place')⟩
        | connect place =>
          rw [hplace] at hnext
          refine (h.place place hplace).step h.state ?_ ?_ (Connect.steps_of_next hnext)
          · rintro profile ports' rfl rfl
            simpa [System.Smooth, hplace] using hsmooth
          · rintro profile client rfl rfl
            simpa [System.Smooth, hplace] using hsmooth
      exact {
        state := hleft.1
        others := fun k hk => by rw [System.left_place_of_ne s 0 l hk, h.others k hk]
        place := fun place hplace => hleft.2 place (by simpa using hplace) }
  | actionConnect _ | actionDisconnect | onRevoke | onDestroy => exact hsmooth.elim

theorem unconnected_run {profileId : String} {turns : List Turn}
    (hturns : Each (System.step crates) (System.Smooth stored ports)
      (.connecting crates profileId) turns) :
    (runAll (System.step crates) (.connecting crates profileId) turns).Unconnected ports :=
  hturns.invariant (fun _ _ hs hok => hs.step hok) (unconnected_connecting profileId)

end Runs

/-! ## How it ends -/

/-- The answers to a `connect` whose `AddOutbound` fails, up to its end. -/
def refused (stored : List ServerProfile) (ports : Ports) : List Turn :=
  [.resume 0 .done, .resume 0 (.profiles stored), .resume 0 (.ports ports), .resume 0 .done,
    .resume 0 .done, .resume 0 .done, .resume 0 (.reaches 0), .resume 0 (.throws none)] ++
    List.replicate 12 (.resume 0 .done)

theorem refused_run (crates : Crates) (stored : List ServerProfile) (profile : ServerProfile)
    (ports : Ports)
    (hstored : stored.find? (fun p => p.profileId = profile.profileId) = some profile) :
    Each (System.step crates) (System.Smooth stored ports) (.connecting crates profile.profileId)
        (refused stored ports) ∧
      ((runAll (System.step crates) (.connecting crates profile.profileId)
        (refused stored ports)).coroutines 0).place = .finished := by
  constructor
  · simp [refused, Each, System.Smooth, System.connecting, System.step, System.created,
      System.launch, System.init, System.left, Request.place, Place.next, Connect.next,
      Disconnect.next, fails, hstored, Service.isRunning, Host.isAlive, Host.spawn, Host.destroy]
    exact ⟨_, List.mem_singleton_self _, rfl, _, List.mem_cons_self, rfl⟩
  · simp [refused, System.connecting, System.step, System.created, System.launch, System.init,
      System.left, Request.place, Place.next, Connect.next, Disconnect.next, fails, hstored,
      Service.isRunning, Host.isAlive, Host.spawn, Host.destroy]

/-- **No stored profile connects.** A `connect` to which nothing external fails can come to its end,
and never establishes the connection. -/
theorem never_established (crates : Crates) {stored : List ServerProfile} {profile : ServerProfile}
    (ports : Ports)
    (hstored : stored.find? (fun p => p.profileId = profile.profileId) = some profile) :
    (∃ turns, Each (System.step crates) (System.Smooth stored ports)
        (.connecting crates profile.profileId) turns ∧
      ((runAll (System.step crates) (.connecting crates profile.profileId)
        turns).coroutines 0).place = .finished) ∧
      ∀ turns, Each (System.step crates) (System.Smooth stored ports)
          (.connecting crates profile.profileId) turns →
        ¬(runAll (System.step crates) (.connecting crates profile.profileId)
          turns).Established crates profile := by
  refine ⟨⟨_, refused_run crates stored profile ports hstored⟩, fun turns hturns hestablished => ?_⟩
  exact (unconnected_run hturns).state _ _ hestablished.state

/-- A profile for examples. -/
def homeProfile : ServerProfile where
  profileId := "1"
  label := "home"
  tag := "bimarz-0"
  uuid := "27848739-7e62-4138-9fd3-098a63964b6b"
  flow := "xtls-rprx-vision"
  address := "192.0.2.1"
  port := 443
  network := "tcp"
  sni := "example.org"
  fingerprint := "chrome"
  publicKeyB64 := ""
  shortIdHex := ""
  spiderX := ""

theorem home_never_established :
    ¬(runAll (System.step Engine.wireCrates)
      (.connecting Engine.wireCrates homeProfile.profileId)
      (refused [homeProfile] ⟨10808, 10085⟩)).Established Engine.wireCrates homeProfile :=
  (never_established Engine.wireCrates ⟨10808, 10085⟩ rfl).2 _
    (refused_run Engine.wireCrates [homeProfile] homeProfile ⟨10808, 10085⟩ rfl).1

/-- The builder accepts the profile, the ports differ, nothing but `AddOutbound` fails, and the
connection is not established. -/
theorem home_refused :
    ¬∀ (stored : List ServerProfile) (profile : ServerProfile) (ports : Ports) (turns : List Turn),
      stored.find? (fun p => p.profileId = profile.profileId) = some profile →
      (∃ outbound,
        buildVlessRealityOutbound Engine.wireCrates profile.toUniffiProfile = .ok outbound) →
      ports.socksPort ≠ ports.apiPort →
      Each (System.step Engine.wireCrates) (System.Smooth stored ports)
        (.connecting Engine.wireCrates profile.profileId) turns →
      ((runAll (System.step Engine.wireCrates) (.connecting Engine.wireCrates profile.profileId)
        turns).coroutines 0).place = .finished →
      (runAll (System.step Engine.wireCrates) (.connecting Engine.wireCrates profile.profileId)
        turns).Established Engine.wireCrates profile := by
  intro h
  obtain ⟨hturns, hfinished⟩ :=
    refused_run Engine.wireCrates [homeProfile] homeProfile ⟨10808, 10085⟩ rfl
  have hestablished := h [homeProfile] homeProfile ⟨10808, 10085⟩ _ rfl ⟨_, rfl⟩ (by decide) hturns
    hfinished
  exact (unconnected_run hturns).state _ _ hestablished.state

end Bimarz.Android
