import Bimarz.Android.Serialised

/-!
# The phases of an ordered run

`Launched` is the order in which coroutines come: those of a destroyed service end with a
disconnect, before those of its successor. `Clearing` says that whatever is held has a coroutine
that is going to release it. A turn keeps the phases, and in each of them the state says what is
held once all coroutines have ended.
-/

namespace Bimarz.Android

open Effect
open Engine (Crates)

/-! ## The order of the coroutines -/

def Coroutine.Unstarted (c : Coroutine) : Prop := c.place = c.request.place

def Coroutine.Finished (c : Coroutine) : Prop := c.place = .finished

theorem Coroutine.Unstarted.not_finished {c : Coroutine} (h : c.Unstarted) : ¬c.Finished := by
  unfold Unstarted at h
  unfold Finished
  rw [h]
  cases c.request <;> nofun

theorem Coroutine.not_finished_of_connect {c : Coroutine} {place : Connect}
    (h : c.place = .connect place) : ¬c.Finished := by
  unfold Finished
  rw [h]
  nofun

theorem Coroutine.not_finished_of_disconnect {c : Coroutine} {place : Disconnect}
    (h : c.place = .disconnect place) : ¬c.Finished := by
  unfold Finished
  rw [h]
  nofun

structure System.Launched (s : System) : Prop where
  finished : ∀ k, s.launched ≤ k → (s.coroutines k).Finished
  request : ∀ k place, (s.coroutines k).place = .connect place →
    (s.coroutines k).request ≠ .disconnect
  le : ∀ k < s.launched, (s.coroutines k).service ≤ s.current
  mono : ∀ j k, j ≤ k → k < s.launched → (s.coroutines j).service ≤ (s.coroutines k).service
  /-- the last coroutine of a service that was destroyed -/
  closed : ∀ k < s.launched, ((s.coroutines k).service < s.current ∨ s.live = false) →
    ∃ m, k ≤ m ∧ m < s.launched ∧ (s.coroutines m).service = (s.coroutines k).service ∧
      (s.coroutines m).request = .disconnect ∧
      ∀ j, m < j → j < s.launched → (s.coroutines k).service < (s.coroutines j).service

theorem System.launched_init : System.init.Launched where
  finished _ _ := rfl
  request := nofun
  le := nofun
  mono := nofun
  closed := nofun

theorem System.Launched.lt {s : System} {k : ℕ} (hl : s.Launched)
    (hopen : ¬(s.coroutines k).Finished) : k < s.launched := by
  by_contra hle
  exact hopen (hl.finished k (Nat.le_of_not_lt hle))

section Launch

variable {crates : Crates} {s : System}

theorem System.launch_self (s : System) (request : Request) :
    (s.launch request).coroutines s.launched = ⟨s.current, request, request.place⟩ :=
  Function.update_self ..

theorem System.launch_of_ne (s : System) (request : Request) {k : ℕ} (h : k ≠ s.launched) :
    (s.launch request).coroutines k = s.coroutines k := Function.update_of_ne h ..

theorem System.Launched.launch (h : s.Launched) (hlive : s.live = true) (request : Request) :
    (s.launch request).Launched where
  finished k hk := by
    have hk' : s.launched + 1 ≤ k := hk
    rw [s.launch_of_ne request (by omega)]
    exact h.finished k (by omega)
  request k place hplace := by
    by_cases hk : k = s.launched
    · rw [hk, s.launch_self] at hplace ⊢
      cases request with
      | connect profileId => nofun
      | disconnect => cases hplace
    · rw [s.launch_of_ne request hk] at hplace ⊢
      exact h.request k place hplace
  le k hk := by
    have hk' : k < s.launched + 1 := hk
    by_cases heq : k = s.launched
    · rw [heq, s.launch_self]
      exact Nat.le_refl _
    · rw [s.launch_of_ne request heq]
      exact h.le k (by omega)
  mono j k hjk hk := by
    have hk' : k < s.launched + 1 := hk
    by_cases heq : k = s.launched
    · by_cases hj : j = s.launched
      · rw [heq, hj]
      · rw [heq, s.launch_self, s.launch_of_ne request hj]
        exact h.le j (by omega)
    · rw [s.launch_of_ne request heq, s.launch_of_ne request (by omega)]
      exact h.mono j k hjk (by omega)
  closed k hk hclosed := by
    have hk' : k < s.launched + 1 := hk
    have hlt : ((s.launch request).coroutines k).service < s.current := by
      rcases hclosed with hlt | hdead
      · exact hlt
      · exact absurd (hlive.symm.trans hdead) nofun
    have heq : k ≠ s.launched := by
      rintro rfl
      rw [s.launch_self] at hlt
      exact Nat.lt_irrefl _ hlt
    rw [s.launch_of_ne request heq] at hlt ⊢
    obtain ⟨m, hkm, hm, hservice, hrequest, hlast⟩ := h.closed k (by omega) (Or.inl hlt)
    refine ⟨m, hkm, Nat.lt_succ_of_lt hm, ?_, ?_, fun j hj hj' => ?_⟩
    · rw [s.launch_of_ne request (by omega), hservice]
    · rw [s.launch_of_ne request (by omega), hrequest]
    · by_cases hnew : j = s.launched
      · rw [hnew, s.launch_self]
        exact hlt
      · have hj'' : j < s.launched + 1 := hj'
        rw [s.launch_of_ne request hnew]
        exact hlast j hj (by omega)

theorem System.Launched.created (h : s.Launched) : s.created.Launched := by
  unfold System.created
  by_cases hlive : s.live = true
  · rw [if_pos hlive]
    exact h
  · rw [if_neg hlive]
    exact {
      finished := h.finished
      request := h.request
      le := fun k hk => (h.le k hk).trans (Nat.le_succ _)
      mono := h.mono
      closed := fun k hk _ => h.closed k hk (Or.inr (Bool.not_eq_true _ ▸ hlive)) }

theorem System.created_live (s : System) : s.created.live = true := by
  unfold System.created
  by_cases hlive : s.live = true
  · rw [if_pos hlive]
    exact hlive
  · rw [if_neg hlive]

/-- `onDestroy`. -/
theorem System.Launched.destroyed (h : s.Launched) (hlive : s.live = true) :
    System.Launched { s.launch .disconnect with live := false } where
  finished := (h.launch hlive .disconnect).finished
  request := (h.launch hlive .disconnect).request
  le := (h.launch hlive .disconnect).le
  mono := (h.launch hlive .disconnect).mono
  closed k hk _ := by
    have hk' : k < s.launched + 1 := hk
    have hle := (h.launch hlive .disconnect).le k hk
    rcases Nat.lt_or_eq_of_le hle with hlt | heq
    · exact (h.launch hlive .disconnect).closed k hk (Or.inl hlt)
    · refine ⟨s.launched, by omega, Nat.lt_succ_self _, ?_, ?_, fun j hj hj' => ?_⟩
      · rw [show ({ s.launch .disconnect with live := false } : System).coroutines k =
          (s.launch .disconnect).coroutines k from rfl, heq]
        exact congrArg Coroutine.service (s.launch_self .disconnect)
      · exact congrArg Coroutine.request (s.launch_self .disconnect)
      · have hj'' : j < s.launched + 1 := hj'
        omega

theorem System.Launched.left (h : s.Launched) {k : ℕ} (hk : k < s.launched) {l : Left}
    (hplace : ∀ place, l.2.2 = .connect place → (s.coroutines k).request ≠ .disconnect) :
    (s.left k l).Launched where
  finished j hj := by
    have hj' : s.launched ≤ j := hj
    have hne : j ≠ k := by omega
    exact (System.left_place_of_ne s k l hne).trans (h.finished j hj')
  request j place hj := by
    rw [System.left_request]
    by_cases heq : j = k
    · rw [heq] at hj ⊢
      exact hplace place (by simpa using hj)
    · rw [System.left_place_of_ne s k l heq] at hj
      exact h.request j place hj
  le j hj := by
    rw [System.left_service]
    exact h.le j hj
  mono i j hij hj := by
    rw [System.left_service, System.left_service]
    exact h.mono i j hij hj
  closed j hj hclosed := by
    rw [System.left_service] at hclosed ⊢
    obtain ⟨m, hjm, hm, hservice, hrequest, hlast⟩ := h.closed j hj hclosed
    refine ⟨m, hjm, hm, ?_, ?_, fun i hi hi' => ?_⟩
    · rw [System.left_service, hservice]
    · rw [System.left_request, hrequest]
    · rw [System.left_service]
      exact hlast i hi hi'

end Launch

/-! ## What is left to be released -/

/-- The place is not past `TunToSocksBridge.stop`. -/
def Disconnect.beforeTunnel : Disconnect → Bool
  | .disconnecting | .stoppingTunnel => true
  | _ => false

/-- The place is not past `tunInterface?.close`. -/
def Disconnect.beforeTun : Disconnect → Bool
  | .forgettingThread | .closingTun => true
  | place => place.beforeTunnel

/-- The place is not past the reading of `process`. -/
def Disconnect.beforeProcess : Disconnect → Bool
  | .forgettingTun | .removingOutbound | .forgettingClient | .stoppingProcess => true
  | place => place.beforeTun

/-- A coroutine is inside `disconnect`, at a place of some kind, and no `connect` that was launched
before it can come between. -/
structure System.Releases (s : System) (d : ℕ) (kind : Disconnect → Prop) : Prop where
  launched : d < s.launched
  place : ∃ place, (s.coroutines d).place = .disconnect place ∧ kind place
  before : ∀ j < d, ¬(s.coroutines j).Finished → (s.coroutines j).request = .disconnect

/-- What a place inside `disconnect` says of the fields of the service. -/
def Disconnect.Local (h : Host) (service : Service) : Disconnect → Prop
  | .forgettingTun => ∀ tun ∈ h.tuns, service.tunInterface ≠ some tun
  | .destroying pid =>
    ∀ process ∈ h.processes, service.process = some process.pid → process.pid = pid
  | .forgettingProcess => ∀ process ∈ h.processes, service.process ≠ some process.pid
  | _ => True

/-- Everything that is held has a coroutine that is going to release it. -/
structure System.Clearing (s : System) : Prop where
  /-- no `connect` is on its way -/
  starts : ∀ k place, (s.coroutines k).place = .connect place → (s.coroutines k).Unstarted
  order : ∀ k < s.launched, ¬(s.coroutines k).Unstarted →
    ∀ j < k, ¬(s.coroutines j).Finished → (s.coroutines j).request = .disconnect
  tunnels : s.host.tunnels = [] ∨ ∃ d, s.Releases d fun place => place.beforeTunnel = true
  tuns : ∀ tun ∈ s.host.tuns, ∃ d, s.Releases d (fun place => place.beforeTun = true) ∧
    (s.services (s.coroutines d).service).tunInterface = some tun
  processes : ∀ process ∈ s.host.processes, ∃ d, s.Releases d fun place =>
    place.beforeProcess = true ∧
      (s.services (s.coroutines d).service).process = some process.pid ∨
        place = .destroying process.pid
  places : ∀ k place, (s.coroutines k).place = .disconnect place →
    place.Local s.host (s.services (s.coroutines k).service)

/-- The phases of an ordered run. -/
inductive System.Phase (crates : Crates) (s : System) : Prop
  /-- a `connect` is on its way, alone -/
  | connecting (k : ℕ) (place : Connect) (hplace : (s.coroutines k).place = .connect place)
      (before : ∀ j < k, (s.coroutines j).Finished)
      (after : ∀ j, k < j → j < s.launched → (s.coroutines j).Unstarted)
      (res : place.Res crates s.host (s.services (s.coroutines k).service))
  /-- the connection of a `connect` stands -/
  | connected (k : ℕ) (profile : ServerProfile) (launched : k < s.launched)
      (request : (s.coroutines k).request ≠ .disconnect)
      (before : ∀ j ≤ k, (s.coroutines j).Finished)
      (after : ∀ j, k < j → j < s.launched → (s.coroutines j).Unstarted)
      (state : s.host.state = .connected profile.profileId profile.label)
      (full : s.host.Full (s.services (s.coroutines k).service))
      (added : s.host.Added crates (s.services (s.coroutines k).service) profile)
  | clearing (state : ∀ profileId profileLabel, s.host.state ≠ .connected profileId profileLabel)
      (clearing : s.Clearing)

theorem System.phase_init (crates : Crates) : System.init.Phase crates := by
  refine .clearing (fun _ _ => nofun) {
    starts := nofun
    order := nofun
    tunnels := Or.inl rfl
    tuns := nofun
    processes := nofun
    places := nofun }

/-! ## Launching -/

section LaunchPhase

variable {crates : Crates} {s : System}

theorem System.unstarted_launch (s : System) (request : Request) :
    ((s.launch request).coroutines s.launched).Unstarted := by
  rw [s.launch_self]
  rfl

theorem System.Releases.launch {d : ℕ} {kind : Disconnect → Prop} (h : s.Releases d kind)
    (request : Request) : (s.launch request).Releases d kind where
  launched := Nat.lt_succ_of_lt h.launched
  place := by
    rw [s.launch_of_ne request (Nat.ne_of_lt h.launched)]
    exact h.place
  before j hj := by
    have hne : j ≠ s.launched := Nat.ne_of_lt (hj.trans h.launched)
    rw [s.launch_of_ne request hne]
    exact h.before j hj

theorem System.Clearing.launch (h : s.Clearing) (request : Request) :
    (s.launch request).Clearing where
  starts k place hplace := by
    by_cases hk : k = s.launched
    · rw [hk]
      exact s.unstarted_launch request
    · rw [s.launch_of_ne request hk] at hplace ⊢
      exact h.starts k place hplace
  order k hk hstarted j hj := by
    have hk' : k < s.launched + 1 := hk
    by_cases heq : k = s.launched
    · rw [heq] at hstarted
      exact absurd (s.unstarted_launch request) hstarted
    · have hlt : k < s.launched := by omega
      rw [s.launch_of_ne request heq] at hstarted
      rw [s.launch_of_ne request (by omega)]
      exact h.order k hlt hstarted j hj
  tunnels := h.tunnels.imp_right fun ⟨d, hd⟩ => ⟨d, hd.launch request⟩
  tuns tun htun := by
    obtain ⟨d, hd, hservice⟩ := h.tuns tun htun
    refine ⟨d, hd.launch request, ?_⟩
    rw [s.launch_of_ne request (Nat.ne_of_lt hd.launched)]
    exact hservice
  processes process hprocess := by
    obtain ⟨d, hd⟩ := h.processes process hprocess
    refine ⟨d, ?_⟩
    rw [s.launch_of_ne request (Nat.ne_of_lt hd.launched)]
    exact hd.launch request
  places k place hplace := by
    by_cases hk : k = s.launched
    · rw [hk, s.launch_self] at hplace
      cases request with
      | connect profileId => cases hplace
      | disconnect =>
        cases hplace
        trivial
    · rw [s.launch_of_ne request hk] at hplace ⊢
      exact h.places k place hplace

/-- A new coroutine. -/
theorem System.Phase.launch (hphase : s.Phase crates) (hl : s.Launched) (request : Request) :
    (s.launch request).Phase crates := by
  have hafter : ∀ k, (∀ j, k < j → j < s.launched → (s.coroutines j).Unstarted) →
      ∀ j, k < j → j < s.launched + 1 → ((s.launch request).coroutines j).Unstarted := by
    intro k h j hj hj'
    by_cases heq : j = s.launched
    · rw [heq]
      exact s.unstarted_launch request
    · rw [s.launch_of_ne request heq]
      exact h j hj (by omega)
  cases hphase with
  | connecting k place hplace before after res =>
    have hk : k < s.launched := hl.lt (Coroutine.not_finished_of_connect hplace)
    have hself := s.launch_of_ne request (Nat.ne_of_lt hk)
    refine .connecting k place (hself ▸ hplace) (fun j hj => ?_) (hafter k after) ?_
    · rw [s.launch_of_ne request (by omega)]
      exact before j hj
    · rw [hself]
      exact res
  | connected k profile hk hrequest before after state full added =>
    have hself := s.launch_of_ne request (Nat.ne_of_lt hk)
    refine .connected k profile (Nat.lt_succ_of_lt hk) (hself ▸ hrequest) (fun j hj => ?_)
      (hafter k after) state ?_ ?_
    · rw [s.launch_of_ne request (by omega)]
      exact before j hj
    · rw [hself]
      exact full
    · rw [hself]
      exact added
  | clearing hstate h => exact .clearing hstate (h.launch request)

/-- The phase does not depend on which service takes the commands. -/
theorem System.Phase.renew (hphase : s.Phase crates) (current : ℕ) (live : Bool) :
    System.Phase crates { s with current, live } := by
  cases hphase with
  | connecting k place hplace before after res =>
    exact .connecting k place hplace before after res
  | connected k profile hk hrequest before after state full added =>
    exact .connected k profile hk hrequest before after state full added
  | clearing hstate h =>
    have hreleases : ∀ {d kind}, s.Releases d kind →
        System.Releases { s with current, live } d kind :=
      fun hd => ⟨hd.launched, hd.place, hd.before⟩
    refine .clearing hstate {
      starts := h.starts
      order := h.order
      tunnels := h.tunnels.imp_right fun ⟨d, hd⟩ => ⟨d, hreleases hd⟩
      tuns := fun tun htun => ?_
      processes := fun process hprocess => ?_
      places := h.places }
    · obtain ⟨d, hd, hservice⟩ := h.tuns tun htun
      exact ⟨d, hreleases hd, hservice⟩
    · obtain ⟨d, hd⟩ := h.processes process hprocess
      exact ⟨d, hreleases hd⟩

end LaunchPhase

/-! ## The steps of the coroutines -/

section Resume

variable {crates : Crates} {s : System} {k : ℕ} {l : Left}

/-- What a step of `disconnect` does to what is held and to the fields of its service. -/
structure Disconnect.Shrinks (h : Host) (service : Service) (place : Disconnect) (l : Left) :
    Prop where
  state : (∀ profileId profileLabel, h.state ≠ .connected profileId profileLabel) →
    ∀ profileId profileLabel, l.1.state ≠ .connected profileId profileLabel
  tunnels : l.1.tunnels = [] ∨ l.1.tunnels = h.tunnels
  tuns : ∀ tun ∈ l.1.tuns, tun ∈ h.tuns
  processes : ∀ process ∈ l.1.processes, ∃ process' ∈ h.processes, process'.pid = process.pid
  tunInterface : l.2.1.tunInterface = service.tunInterface ∨
    l.2.1.tunInterface = none ∧ place = .forgettingTun
  process : l.2.1.process = service.process ∨
    l.2.1.process = none ∧ place = .forgettingProcess

theorem Disconnect.Steps.shrinks {h : Host} {service : Service} {place : Disconnect}
    (hsteps : place.Steps h service l) : place.Shrinks h service l := by
  have hsame : ∀ process ∈ h.processes, ∃ process' ∈ h.processes, process'.pid = process.pid :=
    fun process hmem => ⟨process, hmem, rfl⟩
  cases hsteps with
  | disconnecting =>
    exact ⟨fun _ _ _ => nofun, Or.inr rfl, fun _ => id, hsame, Or.inl rfl, Or.inl rfl⟩
  | stoppingTunnel => exact ⟨id, Or.inl rfl, fun _ => id, hsame, Or.inl rfl, Or.inl rfl⟩
  | forgettingThread => exact ⟨id, Or.inr rfl, fun _ => id, hsame, Or.inl rfl, Or.inl rfl⟩
  | closingTun =>
    exact ⟨id, Or.inr rfl, fun _ hmem => (List.mem_filter.mp hmem).1, hsame, Or.inl rfl,
      Or.inl rfl⟩
  | forgettingTun =>
    exact ⟨id, Or.inr rfl, fun _ => id, hsame, Or.inr ⟨rfl, rfl⟩, Or.inl rfl⟩
  | removingOutbound client =>
    refine ⟨id, Or.inr rfl, fun _ => id, fun process hmem => ?_, Or.inl rfl, Or.inl rfl⟩
    obtain ⟨process', hmem', rfl⟩ := List.mem_map.mp hmem
    refine ⟨process', hmem', ?_⟩
    split <;> rfl
  | keepingOutbound => exact ⟨id, Or.inr rfl, fun _ => id, hsame, Or.inl rfl, Or.inl rfl⟩
  | forgettingClient => exact ⟨id, Or.inr rfl, fun _ => id, hsame, Or.inl rfl, Or.inl rfl⟩
  | stoppingProcess _ => exact ⟨id, Or.inr rfl, fun _ => id, hsame, Or.inl rfl, Or.inl rfl⟩
  | stopped _ => exact ⟨id, Or.inr rfl, fun _ => id, hsame, Or.inl rfl, Or.inl rfl⟩
  | destroying pid =>
    exact ⟨id, Or.inr rfl, fun _ => id,
      fun process hmem => hsame process (List.mem_filter.mp hmem).1, Or.inl rfl, Or.inl rfl⟩
  | forgettingProcess =>
    exact ⟨id, Or.inr rfl, fun _ => id, hsame, Or.inl rfl, Or.inr ⟨rfl, rfl⟩⟩
  | releasing =>
    exact ⟨fun _ _ _ => nofun, Or.inr rfl, fun _ => id, hsame, Or.inl rfl, Or.inl rfl⟩

/-- The next place of a `disconnect`, and what it says. -/
structure Disconnect.Goes (h : Host) (service : Service) (place : Disconnect) (l : Left) :
    Prop where
  no_connect : ∀ place', l.2.2 ≠ .connect place'
  tunnel : place.beforeTunnel = true → l.1.tunnels = [] ∨
    ∃ place', l.2.2 = .disconnect place' ∧ place'.beforeTunnel = true
  tun : place.beforeTun = true → ∀ tun ∈ l.1.tuns, service.tunInterface = some tun →
    ∃ place', l.2.2 = .disconnect place' ∧ place'.beforeTun = true
  process : place.beforeProcess = true → ∀ pid, service.process = some pid →
    ∃ place', l.2.2 = .disconnect place' ∧ (place'.beforeProcess = true ∨ place' = .destroying pid)
  destroyed : ∀ pid, place = .destroying pid → ∀ process ∈ l.1.processes, process.pid ≠ pid
  places : place.Local h service → ∀ place', l.2.2 = .disconnect place' → place'.Local l.1 l.2.1

theorem Disconnect.Steps.goes {h : Host} {service : Service} {place : Disconnect}
    (hsteps : place.Steps h service l) : place.Goes h service l := by
  cases hsteps with
  | disconnecting =>
    exact ⟨fun _ => nofun, fun _ => Or.inr ⟨_, rfl, rfl⟩, fun _ _ _ _ => ⟨_, rfl, rfl⟩,
      fun _ _ _ => ⟨_, rfl, Or.inl rfl⟩, fun _ => nofun, by rintro - _ ⟨⟩; trivial⟩
  | stoppingTunnel =>
    exact ⟨fun _ => nofun, fun _ => Or.inl rfl, fun _ _ _ _ => ⟨_, rfl, rfl⟩,
      fun _ _ _ => ⟨_, rfl, Or.inl rfl⟩, fun _ => nofun, by rintro - _ ⟨⟩; trivial⟩
  | forgettingThread =>
    exact ⟨fun _ => nofun, nofun, fun _ _ _ _ => ⟨_, rfl, rfl⟩,
      fun _ _ _ => ⟨_, rfl, Or.inl rfl⟩, fun _ => nofun, by rintro - _ ⟨⟩; trivial⟩
  | closingTun =>
    have hclosed : ∀ tun ∈ h.tuns.filter fun tun => service.tunInterface ≠ some tun,
        service.tunInterface ≠ some tun :=
      fun tun hmem => by simpa using (List.mem_filter.mp hmem).2
    exact ⟨fun _ => nofun, nofun, fun _ tun hmem heq => absurd heq (hclosed tun hmem),
      fun _ _ _ => ⟨_, rfl, Or.inl rfl⟩, fun _ => nofun, by rintro - _ ⟨⟩; exact hclosed⟩
  | forgettingTun =>
    exact ⟨fun _ => nofun, nofun, nofun, fun _ _ _ => ⟨_, rfl, Or.inl rfl⟩, fun _ => nofun,
      by rintro - _ ⟨⟩; trivial⟩
  | removingOutbound client =>
    exact ⟨fun _ => nofun, nofun, nofun, fun _ _ _ => ⟨_, rfl, Or.inl rfl⟩, fun _ => nofun,
      by rintro - _ ⟨⟩; trivial⟩
  | keepingOutbound =>
    exact ⟨fun _ => nofun, nofun, nofun, fun _ _ _ => ⟨_, rfl, Or.inl rfl⟩, fun _ => nofun,
      by rintro - _ ⟨⟩; trivial⟩
  | forgettingClient =>
    exact ⟨fun _ => nofun, nofun, nofun, fun _ _ _ => ⟨_, rfl, Or.inl rfl⟩, fun _ => nofun,
      by rintro - _ ⟨⟩; trivial⟩
  | @stoppingProcess pid hprocess =>
    refine ⟨fun _ => nofun, nofun, nofun, fun _ pid' hpid' => ?_, fun _ => nofun, ?_⟩
    · rw [hprocess] at hpid'
      cases hpid'
      exact ⟨_, rfl, Or.inr rfl⟩
    · rintro - _ ⟨⟩ process hmem heq
      rw [show service.process = some pid from hprocess] at heq
      exact (Option.some.inj heq).symm
  | stopped hnone =>
    refine ⟨fun _ => nofun, nofun, nofun, fun _ pid hpid => ?_, fun _ => nofun,
      by rintro - _ ⟨⟩; trivial⟩
    rw [hnone] at hpid
    cases hpid
  | destroying pid =>
    have hgone : ∀ process ∈ (h.destroy pid).processes, process.pid ≠ pid :=
      fun process hmem => by simpa using (List.mem_filter.mp hmem).2
    refine ⟨fun _ => nofun, nofun, nofun, nofun, by rintro _ ⟨⟩; exact hgone, ?_⟩
    rintro hlocal _ ⟨⟩ process hmem heq
    exact hgone process hmem (hlocal process (List.mem_filter.mp hmem).1 heq)
  | forgettingProcess =>
    exact ⟨fun _ => nofun, nofun, nofun, nofun, fun _ => nofun, by rintro - _ ⟨⟩; trivial⟩
  | releasing => exact ⟨fun _ => nofun, nofun, nofun, nofun, fun _ => nofun, fun _ _ => nofun⟩

/-- Another coroutine has taken a step. -/
theorem System.Releases.left_of_ne {d : ℕ} {kind : Disconnect → Prop} (h : s.Releases d kind)
    (hne : d ≠ k) (hopen : ¬(s.coroutines k).Finished) : (s.left k l).Releases d kind where
  launched := h.launched
  place := by
    rw [System.left_place_of_ne s k l hne]
    exact h.place
  before j hj hunfinished := by
    rw [System.left_request]
    by_cases heq : j = k
    · rw [heq] at hj ⊢
      exact h.before k hj hopen
    · refine h.before j hj fun hfinished => hunfinished ?_
      exact (System.left_place_of_ne s k l heq).trans hfinished

/-- The coroutine itself has taken a step. -/
theorem System.Releases.left_self {kind : Disconnect → Prop} {place : Disconnect}
    (hk : k < s.launched) (hplace : l.2.2 = .disconnect place) (hkind : kind place)
    (hbefore : ∀ j < k, ¬(s.coroutines j).Finished → (s.coroutines j).request = .disconnect) :
    (s.left k l).Releases k kind where
  launched := hk
  place := ⟨place, by rw [System.left_place_self, hplace], hkind⟩
  before j hj hunfinished := by
    rw [System.left_request]
    refine hbefore j hj fun hfinished => hunfinished ?_
    exact (System.left_place_of_ne s k l (Nat.ne_of_lt hj)).trans hfinished

/-- A coroutine that has taken a step has been started, and the others are where they were. -/
theorem System.unstarted_left_of_ne {j : ℕ} (hne : j ≠ k) :
    ((s.left k l).coroutines j).Unstarted ↔ (s.coroutines j).Unstarted := by
  unfold Coroutine.Unstarted
  rw [System.left_place_of_ne s k l hne, System.left_request]

theorem System.order_left (hopen : ¬(s.coroutines k).Finished)
    (hbefore : ∀ j < k, ¬(s.coroutines j).Finished → (s.coroutines j).request = .disconnect)
    (horder : ∀ i < s.launched, i ≠ k → ¬(s.coroutines i).Unstarted →
      ∀ j < i, ¬(s.coroutines j).Finished → (s.coroutines j).request = .disconnect) :
    ∀ i < s.launched, ¬((s.left k l).coroutines i).Unstarted →
      ∀ j < i, ¬((s.left k l).coroutines j).Finished →
        ((s.left k l).coroutines j).request = .disconnect := by
  intro i hi hstarted j hj hunfinished
  have hj' : ¬(s.coroutines j).Finished := by
    intro hfinished
    by_cases heq : j = k
    · exact hopen (heq ▸ hfinished)
    · exact hunfinished ((System.left_place_of_ne s k l heq).trans hfinished)
  rw [System.left_request]
  by_cases heq : i = k
  · rw [heq] at hj
    exact hbefore j hj hj'
  · exact horder i hi heq (fun h => hstarted ((System.unstarted_left_of_ne heq).mpr h)) j hj hj'

/-- The fields of a service after a step of `disconnect`, where they are still set. -/
theorem Disconnect.Shrinks.services {place : Disconnect}
    (hshrinks : place.Shrinks s.host (s.services (s.coroutines k).service) l) (i : ℕ) :
    (((s.left k l).services i).tunInterface = (s.services i).tunInterface ∨
      ((s.left k l).services i).tunInterface = none ∧ i = (s.coroutines k).service ∧
        place = .forgettingTun) ∧
    (((s.left k l).services i).process = (s.services i).process ∨
      ((s.left k l).services i).process = none ∧ i = (s.coroutines k).service ∧
        place = .forgettingProcess) := by
  by_cases hi : i = (s.coroutines k).service
  · rw [hi, System.left_services_self]
    exact ⟨hshrinks.tunInterface.imp_right fun h => ⟨h.1, rfl, h.2⟩,
      hshrinks.process.imp_right fun h => ⟨h.1, rfl, h.2⟩⟩
  · rw [System.left_services_of_ne s k l hi]
    exact ⟨Or.inl rfl, Or.inl rfl⟩

/-- A step of `disconnect` while nothing connects. -/
theorem System.Clearing.left (h : s.Clearing) (hk : k < s.launched) {place : Disconnect}
    (hplace : (s.coroutines k).place = .disconnect place)
    (hbefore : ∀ j < k, ¬(s.coroutines j).Finished → (s.coroutines j).request = .disconnect)
    (hsteps : place.Steps s.host (s.services (s.coroutines k).service) l) :
    (s.left k l).Clearing := by
  have hshrinks := hsteps.shrinks
  have hgoes := hsteps.goes
  have hopen := Coroutine.not_finished_of_disconnect hplace
  have hlocal := h.places k place hplace
  have hservices := hshrinks.services
  refine {
    starts := fun j place' hj => ?_
    order := System.order_left hopen hbefore fun i hi _ => h.order i hi
    tunnels := ?_
    tuns := fun tun htun => ?_
    processes := fun process hprocess => ?_
    places := fun j place' hj => ?_ }
  · by_cases hjk : j = k
    · rw [hjk, System.left_place_self] at hj
      exact absurd hj (hgoes.no_connect place')
    · rw [System.left_place_of_ne s k l hjk] at hj
      exact (System.unstarted_left_of_ne hjk).mpr (h.starts j place' hj)
  · rcases hshrinks.tunnels with hnone | hsame
    · exact Or.inl hnone
    · rcases h.tunnels with hnone | ⟨d, hd⟩
      · exact Or.inl (hsame.trans hnone)
      · by_cases hdk : d = k
        · subst hdk
          obtain ⟨place', hplace', hkind⟩ := hd.place
          rw [hplace] at hplace'
          cases hplace'
          rcases hgoes.tunnel hkind with hnone | ⟨next, hnext, hkind'⟩
          · exact Or.inl hnone
          · exact Or.inr ⟨d, .left_self hk hnext hkind' hbefore⟩
        · exact Or.inr ⟨d, hd.left_of_ne hdk hopen⟩
  · obtain ⟨d, hd, hservice⟩ := h.tuns tun (hshrinks.tuns tun htun)
    have hfield : ((s.left k l).services (s.coroutines d).service).tunInterface = some tun := by
      rcases (hservices (s.coroutines d).service).1 with hsame | ⟨-, hdk, rfl⟩
      · rw [hsame, hservice]
      · exact absurd (hdk ▸ hservice) (hlocal tun (hshrinks.tuns tun htun))
    by_cases hdk : d = k
    · subst hdk
      obtain ⟨place', hplace', hkind⟩ := hd.place
      rw [hplace] at hplace'
      cases hplace'
      obtain ⟨next, hnext, hkind'⟩ := hgoes.tun hkind tun htun hservice
      exact ⟨d, .left_self hk hnext hkind' hbefore, by rw [System.left_service]; exact hfield⟩
    · exact ⟨d, hd.left_of_ne hdk hopen, by rw [System.left_service]; exact hfield⟩
  · obtain ⟨process', hprocess', hpid⟩ := hshrinks.processes process hprocess
    obtain ⟨d, hd⟩ := h.processes process' hprocess'
    rw [hpid] at hd
    have hfield : (s.services (s.coroutines d).service).process = some process.pid →
        ((s.left k l).services (s.coroutines d).service).process = some process.pid := by
      intro hservice
      rcases (hservices (s.coroutines d).service).2 with hsame | ⟨-, hdk, rfl⟩
      · rw [hsame, hservice]
      · refine absurd (hdk ▸ hservice) ?_
        rw [← hpid]
        exact hlocal process' hprocess'
    by_cases hdk : d = k
    · subst hdk
      obtain ⟨place', hplace', hkind⟩ := hd.place
      rw [hplace] at hplace'
      cases hplace'
      rcases hkind with ⟨hkind, hservice⟩ | rfl
      · obtain ⟨next, hnext, hkind'⟩ := hgoes.process hkind process.pid hservice
        refine ⟨d, .left_self hk hnext ?_ hbefore⟩
        rw [System.left_service]
        exact hkind'.imp_left fun hkind' => ⟨hkind', hfield hservice⟩
      · exact absurd rfl (hgoes.destroyed process.pid rfl process hprocess)
    · obtain ⟨hlaunched, ⟨place', hplace', hkind⟩, hd⟩ := hd.left_of_ne (l := l) hdk hopen
      refine ⟨d, hlaunched, ⟨place', hplace', ?_⟩, hd⟩
      rw [System.left_service]
      exact hkind.imp_left fun hkind => ⟨hkind.1, hfield hkind.2⟩
  · by_cases hjk : j = k
    · subst hjk
      rw [System.left_place_self] at hj
      rw [System.left_service, System.left_services_self]
      exact hgoes.places hlocal place' hj
    · rw [System.left_place_of_ne s k l hjk] at hj
      rw [System.left_service]
      have hold := h.places j place' hj
      obtain ⟨htun, hprocess⟩ := hservices (s.coroutines j).service
      cases place' with
      | forgettingTun =>
        intro tun hmem heq
        rcases htun with hsame | ⟨hnone, -, -⟩
        · exact hold tun (hshrinks.tuns tun hmem) (hsame ▸ heq)
        · rw [hnone] at heq
          cases heq
      | destroying pid =>
        intro process hmem heq
        obtain ⟨process', hmem', hpid⟩ := hshrinks.processes process hmem
        rcases hprocess with hsame | ⟨hnone, -, -⟩
        · rw [← hpid]
          exact hold process' hmem' (hpid ▸ hsame ▸ heq)
        · rw [hnone] at heq
          cases heq
      | forgettingProcess =>
        intro process hmem heq
        obtain ⟨process', hmem', hpid⟩ := hshrinks.processes process hmem
        rcases hprocess with hsame | ⟨hnone, -, -⟩
        · exact hold process' hmem' (hpid ▸ hsame ▸ heq)
        · rw [hnone] at heq
          cases heq
      | disconnecting | stoppingTunnel | forgettingThread | closingTun | removingOutbound
      | forgettingClient | stoppingProcess | releasing => trivial

/-! ## From one phase to another -/

theorem Coroutine.Unstarted.disconnect {c : Coroutine} (h : c.Unstarted) {place : Disconnect}
    (hplace : c.place = .disconnect place) : place = .disconnecting := by
  rw [h] at hplace
  cases hrequest : c.request with
  | connect profileId =>
    rw [hrequest] at hplace
    cases hplace
  | disconnect =>
    rw [hrequest] at hplace
    cases hplace
    rfl

theorem System.places_of_unstarted {c : Coroutine} (h : c.Unstarted) {place : Disconnect}
    (hplace : c.place = .disconnect place) (host : Host) (service : Service) :
    place.Local host service := by
  rw [h.disconnect hplace]
  trivial

/-- A coroutine that has not been started releases whatever is of its service. -/
theorem System.Releases.of_unstarted {d : ℕ} {kind : Disconnect → Prop} (hd : d < s.launched)
    (hunstarted : (s.coroutines d).Unstarted) (hrequest : (s.coroutines d).request = .disconnect)
    (hkind : kind .disconnecting)
    (hbefore : ∀ j < d, ¬(s.coroutines j).Finished → (s.coroutines j).request = .disconnect) :
    s.Releases d kind where
  launched := hd
  place := ⟨.disconnecting, by rw [hunstarted, hrequest]; rfl, hkind⟩
  before := hbefore

/-- A `connect` that has failed goes on as a `disconnect`. -/
theorem System.clearing_of_failed (hl : s.Launched) (hk : k < s.launched)
    (hopen : ¬(s.coroutines k).Finished) (hbefore : ∀ j < k, (s.coroutines j).Finished)
    (hafter : ∀ j, k < j → j < s.launched → (s.coroutines j).Unstarted)
    (hplace : l.2.2 = .disconnect .disconnecting) (howned : l.1.Owned l.2.1) :
    (s.left k l).Clearing := by
  have hearlier : ∀ j < k, ¬(s.coroutines j).Finished → (s.coroutines j).request = .disconnect :=
    fun j hj hunfinished => absurd (hbefore j hj) hunfinished
  have hothers : ∀ j, j ≠ k → ¬(s.coroutines j).Finished → (s.coroutines j).Unstarted := by
    intro j hj hunfinished
    rcases Nat.lt_or_gt_of_ne hj with hlt | hgt
    · exact absurd (hbefore j hlt) hunfinished
    · refine hafter j hgt ?_
      by_contra hle
      exact hunfinished (hl.finished j (Nat.le_of_not_lt hle))
  have hself : ∀ kind : Disconnect → Prop, kind .disconnecting → (s.left k l).Releases k kind :=
    fun kind hkind => .left_self hk hplace hkind hearlier
  refine {
    starts := fun j place hj => ?_
    order := System.order_left hopen hearlier fun i hi hne hstarted j hj hunfinished => ?_
    tunnels := Or.inr ⟨k, hself _ rfl⟩
    tuns := fun tun htun => ⟨k, hself _ rfl, ?_⟩
    processes := fun process hprocess => ⟨k, hself _ (Or.inl ⟨rfl, ?_⟩)⟩
    places := fun j place hj => ?_ }
  · by_cases hjk : j = k
    · rw [hjk, System.left_place_self, hplace] at hj
      cases hj
    · rw [System.left_place_of_ne s k l hjk] at hj
      exact (System.unstarted_left_of_ne hjk).mpr
        (hothers j hjk (Coroutine.not_finished_of_connect hj))
  · have hfinished : (s.coroutines i).Finished := by
      by_contra hunfinished'
      exact hstarted (hothers i hne hunfinished')
    rcases Nat.lt_or_gt_of_ne hne with hlt | hgt
    · exact absurd (hbefore j (hj.trans hlt)) hunfinished
    · exact absurd hfinished (hafter i hgt hi).not_finished
  · rw [System.left_service, System.left_services_self]
    exact howned.tuns tun htun
  · rw [System.left_service, System.left_services_self]
    exact howned.processes process hprocess
  · by_cases hjk : j = k
    · rw [hjk, System.left_place_self, hplace] at hj
      cases hj
      trivial
    · rw [System.left_place_of_ne s k l hjk] at hj
      exact System.places_of_unstarted
        (hothers j hjk (Coroutine.not_finished_of_disconnect hj)) hj _ _

/-- The service of a standing connection has a disconnect that comes before the coroutines of any
other service. -/
theorem System.exists_release (hl : s.Launched) {k₀ : ℕ} (hk₀ : k₀ < s.launched)
    (hrequest₀ : (s.coroutines k₀).request ≠ .disconnect)
    (hafter : ∀ j, k₀ < j → j < s.launched → (s.coroutines j).Unstarted) (hlt : k₀ < k)
    (hk : k < s.launched) (hne : (s.coroutines k).service ≠ (s.coroutines k₀).service) :
    ∃ m < k, (s.coroutines m).service = (s.coroutines k₀).service ∧
      (s.coroutines m).Unstarted ∧ (s.coroutines m).request = .disconnect := by
  have hservice : (s.coroutines k₀).service < (s.coroutines k).service :=
    Nat.lt_of_le_of_ne (hl.mono k₀ k hlt.le hk) (Ne.symm hne)
  obtain ⟨m, hkm, hm, hm', hrequest, -⟩ :=
    hl.closed k₀ hk₀ (Or.inl (hservice.trans_le (hl.le k hk)))
  have hmk : m < k := by
    by_contra hle
    have := hl.mono k m (Nat.le_of_not_lt hle) hm
    omega
  have hgt : k₀ < m := Nat.lt_of_le_of_ne hkm fun heq => hrequest₀ (heq ▸ hrequest)
  exact ⟨m, hmk, hm', hafter m hgt hm, hrequest⟩

/-- A standing connection is released by the first `disconnect` that goes on. -/
theorem System.clearing_of_connected (hl : s.Launched) {k₀ : ℕ} (hk₀ : k₀ < s.launched)
    (hrequest₀ : (s.coroutines k₀).request ≠ .disconnect)
    (hbefore₀ : ∀ j ≤ k₀, (s.coroutines j).Finished)
    (hafter : ∀ j, k₀ < j → j < s.launched → (s.coroutines j).Unstarted)
    (hfull : s.host.Full (s.services (s.coroutines k₀).service)) (hlt : k₀ < k)
    (hk : k < s.launched) (hrequest : (s.coroutines k).request = .disconnect)
    (hbefore : ∀ j < k, ¬(s.coroutines j).Finished → (s.coroutines j).request = .disconnect) :
    s.Clearing := by
  have hothers : ∀ j, ¬(s.coroutines j).Finished → (s.coroutines j).Unstarted := by
    intro j hunfinished
    refine hafter j ?_ ?_
    · by_contra hle
      exact hunfinished (hbefore₀ j (Nat.le_of_not_lt hle))
    · exact hl.lt hunfinished
  have hreleases : ∃ d, (s.coroutines d).service = (s.coroutines k₀).service ∧
      ∀ kind : Disconnect → Prop, kind .disconnecting → s.Releases d kind := by
    by_cases hservice : (s.coroutines k).service = (s.coroutines k₀).service
    · exact ⟨k, hservice, fun kind hkind =>
        .of_unstarted hk (hafter k hlt hk) hrequest hkind hbefore⟩
    · obtain ⟨m, hmk, hm, hunstarted, hdisconnect⟩ :=
        System.exists_release hl hk₀ hrequest₀ hafter hlt hk hservice
      exact ⟨m, hm, fun kind hkind => .of_unstarted (hmk.trans hk) hunstarted hdisconnect hkind
        fun j hj => hbefore j (hj.trans hmk)⟩
  obtain ⟨d, hd, hreleases⟩ := hreleases
  have howned := hfull.owned
  refine {
    starts := fun j place hj => hothers j (Coroutine.not_finished_of_connect hj)
    order := fun j hj hstarted i hi hunfinished => ?_
    tunnels := Or.inr ⟨d, hreleases _ rfl⟩
    tuns := fun tun htun => ⟨d, hreleases _ rfl, hd ▸ howned.tuns tun htun⟩
    processes := fun process hprocess =>
      ⟨d, hreleases _ (Or.inl ⟨rfl, hd ▸ howned.processes process hprocess⟩)⟩
    places := fun j place hj => System.places_of_unstarted
      (hothers j (Coroutine.not_finished_of_disconnect hj)) hj _ _ }
  have hle : j ≤ k₀ := by
    by_contra hgt
    exact hstarted (hafter j (Nat.lt_of_not_le hgt) hj)
  exact absurd (hbefore₀ i (hi.le.trans hle)) hunfinished

end Resume

end Bimarz.Android
