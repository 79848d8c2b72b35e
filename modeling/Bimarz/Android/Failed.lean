import Bimarz.Android.Serialised

/-!
# A connection that fails

One `connect` that runs without another event, from the exception that ends it to the end of its
coroutine. `disconnect` releases what `connect` had acquired, and its last update replaces the error
in `VpnStateHolder`: `failed_connect` says that no failure is ever left to be shown.
-/

namespace Bimarz.Android

open Effect
open Engine (Crates buildVlessRealityOutbound)

/-! ## A coroutine on its own -/

/-- What a coroutine works on, and where it is. -/
def System.view (s : System) (k : ℕ) : Left :=
  (s.host, s.services (s.coroutines k).service, (s.coroutines k).place)

def Left.next (crates : Crates) (l : Left) (answer : Answer) : Left :=
  (l.2.2.next crates l.1 l.2.1 answer).getD l

/-- The app after an `ACTION_CONNECT` whose coroutine has had these answers. -/
def System.attempt (crates : Crates) (s : System) (profileId : String) (answers : List Answer) :
    System :=
  runAll (System.step crates) (s.step crates (.actionConnect profileId))
    (answers.map (.resume s.launched))

/-- The coroutine of the attempt. -/
def System.attemptPlace (crates : Crates) (s : System) (profileId : String)
    (answers : List Answer) : Place :=
  ((s.attempt crates profileId answers).coroutines s.launched).place

section Alone

variable {crates : Crates}

theorem System.view_resume (s : System) (k : ℕ) (answer : Answer) :
    (s.step crates (.resume k answer)).view k = (s.view k).next crates answer := by
  unfold Left.next System.view
  simp only [System.step]
  cases (s.coroutines k).place.next crates s.host (s.services (s.coroutines k).service) answer with
  | none => rfl
  | some l => simp

theorem System.view_runAll (k : ℕ) (answers : List Answer) (s : System) :
    (runAll (System.step crates) s (answers.map (.resume k))).view k =
      runAll (Left.next crates) (s.view k) answers := by
  induction answers generalizing s with
  | nil => rfl
  | cons answer answers ih => rw [List.map_cons, runAll_cons, runAll_cons, ih, System.view_resume]

/-- The beginning of a `connect`. -/
def System.opening (s : System) (profileId : String) : Left :=
  (s.host, s.services s.created.current, .connect (.connecting profileId))

theorem System.created_host (s : System) : s.created.host = s.host := by
  unfold System.created
  split
  · rfl
  · rfl

theorem System.created_services (s : System) : s.created.services = s.services := by
  unfold System.created
  split
  · rfl
  · rfl

theorem System.created_launched (s : System) : s.created.launched = s.launched := by
  unfold System.created
  split
  · rfl
  · rfl

theorem System.view_attempt (s : System) (profileId : String) (answers : List Answer) :
    (s.attempt crates profileId answers).view s.launched =
      runAll (Left.next crates) (s.opening profileId) answers := by
  unfold System.attempt
  rw [System.view_runAll]
  congr 1
  unfold System.view System.opening
  simp only [System.step, System.launch, System.created_launched, Function.update_self,
    System.created_host, System.created_services]
  rfl

end Alone

/-! ## What there is beyond what there was -/

section Beyond

variable (pids tuns : List ℕ)

/-- Everything that runs or is open was there before, but for this process and this interface. -/
structure Host.Beyond (h : Host) (pid tun : Option ℕ) : Prop where
  processes : ∀ process ∈ h.processes, process.pid ∈ pids ∨ pid = some process.pid
  tuns : ∀ fd ∈ h.tuns, fd ∈ tuns ∨ tun = some fd

/-- Everything that the attempt acquired is gone, and the service holds nothing. -/
structure Released (h : Host) (service : Service) : Prop where
  processes : ∀ process ∈ h.processes, process.pid ∈ pids
  tuns : ∀ fd ∈ h.tuns, fd ∈ tuns
  tunnels : h.tunnels = []
  service : service = {}

def Connect.Keeps (h : Host) (service : Service) : Connect → Prop
  | .connecting _ | .loading _ | .configuring _ | .checking _ _ | .spawning _ _ =>
    h.Beyond pids tuns none none
  | .keepingProcess _ _ pid => h.Beyond pids tuns (some pid) none
  | .dialling _ _ | .adding _ _ | .keepingClient _ _ | .establishing _ =>
    h.Beyond pids tuns service.process none
  | .keepingTun _ tun => h.Beyond pids tuns service.process (some tun)
  | .bridging _ | .keepingThread _ _ | .promoting _ | .announcing _ | .failing _ =>
    h.Beyond pids tuns service.process service.tunInterface

/-- `disconnect` gives back one after the other. -/
def Disconnect.Keeps (h : Host) (service : Service) : Disconnect → Prop
  | .disconnecting | .stoppingTunnel => h.Beyond pids tuns service.process service.tunInterface
  | .forgettingThread => h.Beyond pids tuns service.process service.tunInterface ∧ h.tunnels = []
  | .closingTun => h.Beyond pids tuns service.process service.tunInterface ∧ h.tunnels = [] ∧
    service.tunnelThread = none
  | .forgettingTun => h.Beyond pids tuns service.process none ∧ h.tunnels = [] ∧
    service.tunnelThread = none
  | .removingOutbound | .forgettingClient => h.Beyond pids tuns service.process none ∧
    h.tunnels = [] ∧ service.tunnelThread = none ∧ service.tunInterface = none
  | .stoppingProcess => h.Beyond pids tuns service.process none ∧ h.tunnels = [] ∧
    service = { process := service.process }
  | .destroying pid => h.Beyond pids tuns (some pid) none ∧ h.tunnels = [] ∧
    service = { process := service.process }
  | .forgettingProcess => h.Beyond pids tuns none none ∧ h.tunnels = [] ∧
    service = { process := service.process }
  | .releasing => Released pids tuns h service

/-- What holds of an attempt that has not failed yet, or that has. -/
def Left.Keeps (l : Left) : Prop :=
  match l.2.2 with
  | .connect place => place.Keeps pids tuns l.1 l.2.1
  | .disconnect place => place.Keeps pids tuns l.1 l.2.1
  | .finished => True

/-- An attempt that is over has been taken back. -/
def Left.Failed (l : Left) : Prop :=
  match l.2.2 with
  | .connect (.failing _) => True
  | .connect _ => False
  | .disconnect _ => True
  | .finished => l.1.state = .disconnected ∧ Released pids tuns l.1 l.2.1

/-- An attempt that is being taken back. -/
def Left.TakesBack (l : Left) : Prop := l.Keeps pids tuns ∧ l.Failed pids tuns

variable {pids tuns} {crates : Crates} {h : Host} {service : Service}

theorem Host.Beyond.mono {pid tun pid' tun' : Option ℕ} (hbeyond : h.Beyond pids tuns pid tun)
    (hpid : ∀ p, pid = some p → pid' = some p) (htun : ∀ t, tun = some t → tun' = some t) :
    h.Beyond pids tuns pid' tun' where
  processes process hprocess := (hbeyond.processes process hprocess).imp_right (hpid _)
  tuns fd hfd := (hbeyond.tuns fd hfd).imp_right (htun _)

theorem Host.Beyond.weaken (hbeyond : h.Beyond pids tuns none none) (pid tun : Option ℕ) :
    h.Beyond pids tuns pid tun := hbeyond.mono (fun _ => nofun) (fun _ => nofun)

theorem Host.Beyond.spawn (hbeyond : h.Beyond pids tuns none none) :
    h.spawn.Beyond pids tuns (some h.fresh) none where
  processes := by
    intro process hprocess
    rcases List.mem_append.mp hprocess with hold | hnew
    · exact (hbeyond.processes process hold).imp_right nofun
    · rw [List.mem_singleton.mp hnew]
      exact Or.inr rfl
  tuns := hbeyond.tuns

/-- The processes are the same ones when their outbounds change. -/
theorem Host.Beyond.onProcess {pid tun : Option ℕ} (hbeyond : h.Beyond pids tuns pid tun)
    (client : ℕ) (f : List Outbound → List Outbound) :
    (h.onProcess client f).Beyond pids tuns pid tun where
  processes := by
    intro process hprocess
    have hmem : process.pid ∈ (h.onProcess client f).processes.map Process.pid :=
      List.mem_map_of_mem hprocess
    rw [Host.pids_onProcess] at hmem
    obtain ⟨process', hprocess', hpid⟩ := List.mem_map.mp hmem
    rw [← hpid]
    exact hbeyond.processes process' hprocess'
  tuns := hbeyond.tuns

theorem Host.Beyond.destroy {pid : ℕ} {tun : Option ℕ} (hbeyond : h.Beyond pids tuns (some pid) tun) :
    (h.destroy pid).Beyond pids tuns none tun where
  processes := by
    intro process hprocess
    obtain ⟨hmem, hne⟩ := List.mem_filter.mp hprocess
    rcases hbeyond.processes process hmem with hold | hpid
    · exact Or.inl hold
    · exact absurd (Option.some.inj hpid).symm (of_decide_eq_true hne)
  tuns := hbeyond.tuns

theorem Host.Beyond.close {pid tun : Option ℕ} (hbeyond : h.Beyond pids tuns pid tun) :
    { h with tuns := h.tuns.filter fun fd => tun ≠ some fd }.Beyond pids tuns pid none where
  processes := hbeyond.processes
  tuns := by
    intro fd hfd
    obtain ⟨hmem, hne⟩ := List.mem_filter.mp hfd
    rcases hbeyond.tuns fd hmem with hold | htun
    · exact Or.inl hold
    · exact absurd htun (of_decide_eq_true hne)

theorem Host.Beyond.released (hbeyond : h.Beyond pids tuns none none) (htunnels : h.tunnels = [])
    (hservice : service = {}) : Released pids tuns h service where
  processes process hprocess := (hbeyond.processes process hprocess).resolve_right nofun
  tuns fd hfd := (hbeyond.tuns fd hfd).resolve_right nofun
  tunnels := htunnels
  service := hservice

/-- An exception leaves everything in the fields. -/
theorem Connect.Keeps.beyond {place : Connect} (hkeeps : place.Keeps pids tuns h service)
    (hfails : place.mayFail = true) :
    h.Beyond pids tuns service.process service.tunInterface := by
  cases place with
  | loading _ | configuring _ | checking _ _ | spawning _ _ =>
    exact Host.Beyond.weaken hkeeps _ _
  | dialling _ _ | adding _ _ | establishing _ =>
    exact Host.Beyond.mono hkeeps (fun _ => id) (fun _ => nofun)
  | bridging _ | promoting _ => exact hkeeps
  | connecting _ | keepingProcess _ _ _ | keepingClient _ _ | keepingTun _ _ | keepingThread _ _
  | announcing _ | failing _ => cases hfails

theorem Connect.Keeps.step {place : Connect} {answer : Answer} {l : Left}
    (hkeeps : place.Keeps pids tuns h service) (hsteps : place.Steps crates h service answer l) :
    l.Keeps pids tuns := by
  cases hsteps with
  | connecting _ => exact ⟨hkeeps.processes, hkeeps.tuns⟩
  | loading _ | checking _ _ _ => exact hkeeps
  | configuring _ _ => exact ⟨hkeeps.processes, hkeeps.tuns⟩
  | spawning _ _ => exact Host.Beyond.spawn hkeeps
  | keepingProcess _ _ _ | dialling _ _ _ | keepingClient _ _ => exact hkeeps
  | @adding _ client outbound _ _ =>
    exact Host.Beyond.onProcess hkeeps client fun outbounds => outbounds ++ [.added outbound]
  | establishing _ =>
    refine ⟨hkeeps.processes, fun fd hfd => ?_⟩
    rcases List.mem_append.mp hfd with hold | hnew
    · exact (hkeeps.tuns fd hold).imp_right nofun
    · rw [List.mem_singleton.mp hnew]
      exact Or.inr rfl
  | keepingTun _ _ => exact hkeeps
  | bridging _ _ => exact ⟨hkeeps.processes, hkeeps.tuns⟩
  | keepingThread _ _ | promoting _ => exact ⟨hkeeps.processes, hkeeps.tuns⟩
  | announcing _ => trivial
  | failing _ => exact ⟨hkeeps.processes, hkeeps.tuns⟩
  | fails _ _ hfails => exact hkeeps.beyond hfails

/-- `disconnect` ends with nothing held and in the state `Disconnected`. -/
theorem Disconnect.Keeps.step {place : Disconnect} {l : Left}
    (hkeeps : place.Keeps pids tuns h service) (hsteps : place.Steps h service l) :
    l.TakesBack pids tuns := by
  cases hsteps with
  | disconnecting => exact ⟨⟨hkeeps.processes, hkeeps.tuns⟩, trivial⟩
  | stoppingTunnel => exact ⟨⟨⟨hkeeps.processes, hkeeps.tuns⟩, rfl⟩, trivial⟩
  | forgettingThread => exact ⟨⟨hkeeps.1, hkeeps.2, rfl⟩, trivial⟩
  | closingTun => exact ⟨⟨Host.Beyond.close hkeeps.1, hkeeps.2⟩, trivial⟩
  | forgettingTun => exact ⟨⟨hkeeps.1, hkeeps.2.1, hkeeps.2.2, rfl⟩, trivial⟩
  | removingOutbound client => exact ⟨⟨Host.Beyond.onProcess hkeeps.1 _ _, hkeeps.2⟩, trivial⟩
  | keepingOutbound => exact ⟨hkeeps, trivial⟩
  | forgettingClient =>
    obtain ⟨hbeyond, htunnels, hthread, htun⟩ := hkeeps
    refine ⟨⟨hbeyond, htunnels, ?_⟩, trivial⟩
    change Service.mk service.process service.tunInterface none service.tunnelThread = _
    rw [hthread, htun]
  | stoppingProcess hpid =>
    obtain ⟨hbeyond, htunnels, hservice⟩ := hkeeps
    rw [hpid] at hbeyond
    exact ⟨⟨hbeyond, htunnels, hservice⟩, trivial⟩
  | stopped hnone =>
    obtain ⟨hbeyond, htunnels, hservice⟩ := hkeeps
    rw [hnone] at hbeyond hservice
    exact ⟨hbeyond.released htunnels hservice, trivial⟩
  | destroying pid => exact ⟨⟨Host.Beyond.destroy hkeeps.1, hkeeps.2⟩, trivial⟩
  | forgettingProcess =>
    obtain ⟨hbeyond, htunnels, hservice⟩ := hkeeps
    refine ⟨hbeyond.released htunnels ?_, trivial⟩
    rw [hservice]
  | releasing =>
    exact ⟨trivial, rfl, ⟨hkeeps.processes, hkeeps.tuns, hkeeps.tunnels, hkeeps.service⟩⟩

end Beyond

section Runs

variable {pids tuns : List ℕ} {crates : Crates}

theorem Left.next_cases (crates : Crates) (l : Left) (answer : Answer) :
    l.next crates answer = l ∨
      l.2.2.next crates l.1 l.2.1 answer = some (l.next crates answer) := by
  unfold Left.next
  cases hnext : l.2.2.next crates l.1 l.2.1 answer with
  | none => exact Or.inl rfl
  | some l' => exact Or.inr rfl

theorem Left.Keeps.next {l : Left} (hkeeps : l.Keeps pids tuns) (answer : Answer) :
    (l.next crates answer).Keeps pids tuns := by
  rcases l.next_cases crates answer with hpass | hnext
  · rw [hpass]
    exact hkeeps
  · obtain ⟨h, service, place⟩ := l
    cases place with
    | connect place => exact Connect.Keeps.step hkeeps (Connect.steps_of_next hnext)
    | disconnect place => exact (Disconnect.Keeps.step hkeeps (Disconnect.steps_of_next hnext)).1
    | finished => cases hnext

/-- From its failure on an attempt is only taken back. -/
theorem Left.TakesBack.next {l : Left} (h : l.TakesBack pids tuns) (answer : Answer) :
    (l.next crates answer).TakesBack pids tuns := by
  refine ⟨h.1.next answer, ?_⟩
  rcases l.next_cases crates answer with hpass | hnext
  · rw [hpass]
    exact h.2
  · obtain ⟨hkeeps, hfailed⟩ := h
    obtain ⟨host, service, place⟩ := l
    cases place with
    | disconnect place => exact (Disconnect.Keeps.step hkeeps (Disconnect.steps_of_next hnext)).2
    | finished => cases hnext
    | connect place =>
      cases place with
      | failing message =>
        cases answer with
        | done =>
          rw [← Option.some.inj hnext]
          trivial
        | throws _ | profiles _ | ports _ | reaches _ | timesOut | null => cases hnext
      | connecting _ | loading _ | configuring _ | checking _ _ | spawning _ _
      | keepingProcess _ _ _ | dialling _ _ | adding _ _ | keepingClient _ _ | establishing _
      | keepingTun _ _ | bridging _ | keepingThread _ _ | promoting _ | announcing _ =>
        exact hfailed.elim

/-- A failed attempt can come to its end. -/
theorem Left.finishes {l : Left} {message : String}
    (hplace : l.2.2 = .connect (.failing message)) :
    (runAll (Left.next crates) l (List.replicate 12 .done)).2.2 = .finished := by
  obtain ⟨h, service, place⟩ := l
  obtain rfl : place = .connect (.failing message) := hplace
  obtain ⟨process, tunInterface, engineClient, tunnelThread⟩ := service
  cases process with
  | none => rfl
  | some pid => rfl

theorem System.opening_keeps (s : System) (profileId : String) :
    (s.opening profileId).Keeps (s.host.processes.map Process.pid) s.host.tuns where
  processes _ hprocess := Or.inl (List.mem_map_of_mem hprocess)
  tuns _ hfd := Or.inl hfd

/-- The service of the attempt. -/
def System.attemptService (s s' : System) : Service :=
  s'.services (s'.coroutines s.launched).service

/-- Everything that an attempt from this system acquired is gone. -/
def System.TakenBack (s s' : System) : Prop :=
  Released (s.host.processes.map Process.pid) s.host.tuns s'.host (s.attemptService s')

/-- The state is the error, and everything that the attempt acquired is gone. -/
def System.ShowsFailure (s : System) (message : String) (s' : System) : Prop :=
  s'.host.state = .error message ∧ s.TakenBack s'

section Attempt

variable (s : System) {profileId message : String} {answers : List Answer}

theorem System.view_after (answers' : List Answer) :
    (s.attempt crates profileId (answers ++ answers')).view s.launched =
      runAll (Left.next crates) ((s.attempt crates profileId answers).view s.launched)
        answers' := by
  rw [System.view_attempt, System.view_attempt, runAll_append]

/-- The coroutine can come to its end. -/
theorem System.attempt_finishes
    (hfails : s.attemptPlace crates profileId answers = .connect (.failing message)) :
    s.attemptPlace crates profileId (answers ++ List.replicate 12 .done) = .finished := by
  change ((s.attempt crates profileId _).view s.launched).2.2 = .finished
  rw [s.view_after]
  exact Left.finishes hfails

/-- Wherever it does, everything is released and the state is `Disconnected`. -/
theorem System.attempt_takenBack
    (hfails : s.attemptPlace crates profileId answers = .connect (.failing message))
    {answers' : List Answer}
    (hend : s.attemptPlace crates profileId (answers ++ answers') = .finished) :
    (s.attempt crates profileId (answers ++ answers')).host.state = .disconnected ∧
      s.TakenBack (s.attempt crates profileId (answers ++ answers')) := by
  have hkeeps : ((s.attempt crates profileId answers).view s.launched).Keeps
      (s.host.processes.map Process.pid) s.host.tuns := by
    rw [System.view_attempt]
    exact runAll_invariant (fun _ answer h => h.next answer) (s.opening_keeps profileId) answers
  have hfailed : ((s.attempt crates profileId answers).view s.launched).Failed
      (s.host.processes.map Process.pid) s.host.tuns := by
    unfold Left.Failed
    rw [show ((s.attempt crates profileId answers).view s.launched).2.2 = _ from hfails]
    trivial
  have hrun : ((s.attempt crates profileId (answers ++ answers')).view s.launched).TakesBack
      (s.host.processes.map Process.pid) s.host.tuns := by
    rw [s.view_after]
    exact runAll_invariant (fun _ answer h => h.next answer) ⟨hkeeps, hfailed⟩ answers'
  obtain ⟨-, hend'⟩ := hrun
  unfold Left.Failed at hend'
  rw [show ((s.attempt crates profileId (answers ++ answers')).view s.launched).2.2 = _ from hend]
    at hend'
  exact hend'

theorem System.not_showsFailure {s' : System} (hstate : s'.host.state = .disconnected) :
    ¬s.ShowsFailure message s' := by
  rintro ⟨herror, -⟩
  rw [hstate] at herror
  cases herror

/-- **A failure is never shown.** Once an exception has reached the `catch` block the coroutine can
come to its end, and wherever it does everything is released and the state is `Disconnected`. -/
theorem failed_connect (crates : Crates)
    (hfails : s.attemptPlace crates profileId answers = .connect (.failing message)) :
    (∃ answers', s.attemptPlace crates profileId (answers ++ answers') = .finished) ∧
      ∀ answers', s.attemptPlace crates profileId (answers ++ answers') = .finished →
        ¬s.ShowsFailure message (s.attempt crates profileId (answers ++ answers')) ∧
          (s.attempt crates profileId (answers ++ answers')).host.state = .disconnected ∧
          s.TakenBack (s.attempt crates profileId (answers ++ answers')) := by
  refine ⟨⟨_, s.attempt_finishes hfails⟩, fun answers' hend => ?_⟩
  have htaken := s.attempt_takenBack hfails hend
  exact ⟨s.not_showsFailure htaken.1, htaken⟩

end Attempt

end Runs

/-! ## An example -/

/-- A `connect` for a profile that is not stored. -/
def missing : List Answer := [.done, .profiles []]

theorem missing_fails :
    System.init.attemptPlace Engine.wireCrates "1" missing =
      .connect (.failing "Profile not found: 1") := by
  have hmessage : (fun id : String => s!"Profile not found: {id}") "1" = "Profile not found: 1" := by
    decide
  rw [← hmessage]
  exact congrArg (fun l => l.2.2) (@System.view_attempt Engine.wireCrates System.init "1" missing)

/-- The `catch` block updates the state to `Error`, and at its end the coroutine leaves another
state. -/
theorem missing_not_shown :
    System.init.attemptPlace Engine.wireCrates "1" missing =
        .connect (.failing "Profile not found: 1") ∧
      System.init.attemptPlace Engine.wireCrates "1" (missing ++ List.replicate 12 .done) =
        .finished ∧
      ¬System.init.ShowsFailure "Profile not found: 1"
        (System.init.attempt Engine.wireCrates "1" (missing ++ List.replicate 12 .done)) := by
  have hend := System.init.attempt_finishes missing_fails
  exact ⟨missing_fails, hend,
    System.init.not_showsFailure (System.init.attempt_takenBack missing_fails hend).1⟩

/-- A `connect` that holds a process, a client and an interface when its tunnel does not start. -/
def tunnelless : List Answer :=
  [.done, .profiles [homeProfile], .ports ⟨10808, 10085⟩, .done, .done, .done, .reaches 0, .done,
    .done, .done, .done, .throws (some "no tunnel")]

theorem tunnelless_fails :
    System.init.attemptPlace Engine.wireCrates "1" tunnelless =
      .connect (.failing "no tunnel") := by
  obtain ⟨outbound, hbuild⟩ : ∃ outbound,
      buildVlessRealityOutbound Engine.wireCrates homeProfile.toUniffiProfile = .ok outbound :=
    ⟨_, rfl⟩
  have hid : homeProfile.profileId = "1" := rfl
  simp [System.attemptPlace, System.attempt, tunnelless, System.step, System.created,
    System.launch, System.init, System.left, Request.place, Place.next, Connect.next, fails,
    Service.isRunning, Host.isAlive, Host.spawn, Host.addOutbound, Host.onProcess, hbuild, hid]

/-- It holds nothing at its end. -/
theorem tunnelless_released :
    System.init.TakenBack
      (System.init.attempt Engine.wireCrates "1" (tunnelless ++ List.replicate 12 .done)) :=
  ((failed_connect System.init Engine.wireCrates tunnelless_fails).2 _
    (System.init.attempt_finishes tunnelless_fails)).2.2

end Bimarz.Android
