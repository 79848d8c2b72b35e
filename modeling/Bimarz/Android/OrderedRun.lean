import Bimarz.Android.Phases

/-!
# Ordered runs

A step of a coroutine leads from one phase to another, and so does an event. The claim on the
state then holds after every ordered run whose coroutines have all ended.
-/

namespace Bimarz.Android

open Effect
open Engine (Crates buildVlessRealityOutbound)

/-! ## A step of a coroutine -/

section Step

variable {crates : Crates} {s : System} {k : ℕ} {answer : Answer} {l : Left}

theorem Coroutine.Unstarted.connect {c : Coroutine} (h : c.Unstarted) {place : Connect}
    (hplace : c.place = .connect place) : ∃ profileId, place = .connecting profileId := by
  rw [h] at hplace
  cases hrequest : c.request with
  | connect profileId =>
    rw [hrequest] at hplace
    cases hplace
    exact ⟨profileId, rfl⟩
  | disconnect =>
    rw [hrequest] at hplace
    cases hplace

theorem Coroutine.Unstarted.request_of_disconnect {c : Coroutine} (h : c.Unstarted)
    {place : Disconnect} (hplace : c.place = .disconnect place) : c.request = .disconnect := by
  rw [h] at hplace
  cases hrequest : c.request with
  | connect profileId =>
    rw [hrequest] at hplace
    cases hplace
  | disconnect => rfl

/-- The phase that a lone `connect` leaves. -/
theorem System.phase_of_res (hl : s.Launched) (hopen : ¬(s.coroutines k).Finished)
    (hrequest : (s.coroutines k).request ≠ .disconnect)
    (hbefore : ∀ j < k, (s.coroutines j).Finished)
    (hafter : ∀ j, k < j → j < s.launched → (s.coroutines j).Unstarted) (hres : l.Res crates) :
    (s.left k l).Phase crates := by
  have hk := hl.lt hopen
  have hbefore' : ∀ j < k, ((s.left k l).coroutines j).Finished := fun j hj =>
    (System.left_place_of_ne s k l (Nat.ne_of_lt hj)).trans (hbefore j hj)
  have hafter' : ∀ j, k < j → j < s.launched → ((s.left k l).coroutines j).Unstarted :=
    fun j hj hj' => (System.unstarted_left_of_ne (Nat.ne_of_gt hj)).mpr (hafter j hj hj')
  unfold Left.Res at hres
  split at hres
  next place hplace =>
    refine .connecting k place ?_ hbefore' hafter' ?_
    · rw [System.left_place_self, hplace]
    · rw [System.left_service, System.left_services_self]
      exact hres
  next hplace =>
    obtain ⟨profile, hstate, hfull, hadded⟩ := hres
    refine .connected k profile hk ?_ (fun j hj => ?_) hafter' hstate ?_ ?_
    · rw [System.left_request]
      exact hrequest
    · rcases Nat.lt_or_eq_of_le hj with hlt | rfl
      · exact hbefore' j hlt
      · exact (System.left_place_self s j l).trans hplace
    · rw [System.left_service, System.left_services_self]
      exact hfull
    · rw [System.left_service, System.left_services_self]
      exact hadded
  next place hplace =>
    obtain ⟨rfl, howned, hstate⟩ := hres
    exact .clearing hstate (System.clearing_of_failed hl hk hopen hbefore hafter hplace howned)

/-- The first step of `connect`. -/
theorem Connect.Steps.first {h : Host} {service : Service} {profileId : String}
    (hsteps : (Connect.connecting profileId).Steps crates h service answer l) :
    l = ({ h with state := .connecting }, service, .connect (.loading profileId)) := by
  cases hsteps with
  | connecting => rfl
  | fails _ _ hfails => cases hfails

/-- What nothing is going to release is not held. -/
theorem System.Clearing.idle_of_none (h : s.Clearing) (hnone : ∀ d kind, ¬s.Releases d kind) :
    s.host.Idle where
  processes := List.eq_nil_iff_forall_not_mem.mpr fun process hmem => by
    obtain ⟨d, hd⟩ := h.processes process hmem
    exact hnone d _ hd
  tuns := List.eq_nil_iff_forall_not_mem.mpr fun tun hmem => by
    obtain ⟨d, hd, -⟩ := h.tuns tun hmem
    exact hnone d _ hd
  tunnels := h.tunnels.resolve_right fun ⟨d, hd⟩ => hnone d _ hd

/-- Where a `connect` goes on after every earlier coroutine, nothing is left to be released. -/
theorem System.Clearing.idle (h : s.Clearing) (hopen : ¬(s.coroutines k).Finished)
    (hrequest : (s.coroutines k).request ≠ .disconnect) {place : Connect}
    (hplace : (s.coroutines k).place = .connect place)
    (hbefore : ∀ j < k, (s.coroutines j).Finished) : s.host.Idle := by
  refine h.idle_of_none ?_
  rintro d kind ⟨-, ⟨place', hplace', -⟩, hearlier⟩
  rcases Nat.lt_trichotomy d k with hlt | rfl | hgt
  · exact Coroutine.not_finished_of_disconnect hplace' (hbefore d hlt)
  · rw [hplace] at hplace'
    cases hplace'
  · exact hrequest (hearlier k hgt hopen)

/-- A `connect` goes on after every earlier coroutine has ended. -/
theorem System.Phase.left_connect (hphase : s.Phase crates) (hl : s.Launched) {place : Connect}
    (hplace : (s.coroutines k).place = .connect place)
    (hbefore : ∀ j < k, (s.coroutines j).Finished)
    (hsteps : place.Steps crates s.host (s.services (s.coroutines k).service) answer l) :
    (s.left k l).Phase crates := by
  have hopen := Coroutine.not_finished_of_connect hplace
  have hrequest := hl.request k place hplace
  cases hphase with
  | connecting k₀ place₀ hplace₀ before after res =>
    obtain rfl : k₀ = k := by
      rcases Nat.lt_trichotomy k₀ k with hlt | heq | hgt
      · exact absurd (hbefore k₀ hlt) (Coroutine.not_finished_of_connect hplace₀)
      · exact heq
      · exact absurd (before k hgt) hopen
    rw [hplace] at hplace₀
    cases hplace₀
    exact System.phase_of_res hl hopen hrequest before after (res.step hsteps)
  | connected k₀ profile hk₀ hrequest₀ before after state full added =>
    have hlt : k₀ < k := by
      by_contra hle
      exact hopen (before k (Nat.le_of_not_lt hle))
    have hk := hl.lt hopen
    have hservice : (s.coroutines k).service = (s.coroutines k₀).service := by
      by_contra hne
      obtain ⟨m, hm, -, hunstarted, -⟩ :=
        System.exists_release hl hk₀ hrequest₀ after hlt hk hne
      exact hunstarted.not_finished (hbefore m hm)
    obtain ⟨profileId, rfl⟩ := (after k hlt hk).connect hplace
    rw [hsteps.first]
    refine System.phase_of_res hl hopen hrequest hbefore (fun j hj => after j (hlt.trans hj)) ?_
    obtain ⟨pid, tun, thread, hprocess, htun, hthread, hhas⟩ := full.has
    rw [hservice]
    exact Or.inr ⟨pid, tun, thread, hprocess, htun, hthread, ⟨hhas.1, hhas.2, hhas.3⟩⟩
  | clearing hstate h =>
    obtain ⟨profileId, rfl⟩ := (h.starts k place hplace).connect hplace
    have hidle := h.idle hopen hrequest hplace hbefore
    rw [hsteps.first]
    refine System.phase_of_res hl hopen hrequest hbefore (fun j hj hj' => ?_)
      (Or.inl ⟨hidle.1, hidle.2, hidle.3⟩)
    by_contra hstarted
    exact hrequest (h.order j hj' hstarted k hj hopen)

/-- A `disconnect` goes on after every earlier `connect` has ended. -/
theorem System.Phase.left_disconnect (hphase : s.Phase crates) (hl : s.Launched)
    {place : Disconnect} (hplace : (s.coroutines k).place = .disconnect place)
    (hbefore : ∀ j < k, ¬(s.coroutines j).Finished → (s.coroutines j).request = .disconnect)
    (hsteps : place.Steps s.host (s.services (s.coroutines k).service) l) :
    (s.left k l).Phase crates := by
  have hopen := Coroutine.not_finished_of_disconnect hplace
  have hk := hl.lt hopen
  cases hphase with
  | connecting k₀ place₀ hplace₀ before after res =>
    rcases Nat.lt_trichotomy k₀ k with hlt | rfl | hgt
    · exact absurd (hbefore k₀ hlt (Coroutine.not_finished_of_connect hplace₀))
        (hl.request k₀ place₀ hplace₀)
    · rw [hplace] at hplace₀
      cases hplace₀
    · exact absurd (before k hgt) hopen
  | connected k₀ profile hk₀ hrequest₀ before after state full added =>
    have hlt : k₀ < k := by
      by_contra hle
      exact hopen (before k (Nat.le_of_not_lt hle))
    have hunstarted := after k hlt hk
    have hclearing : s.Clearing := System.clearing_of_connected hl hk₀ hrequest₀ before after full
      hlt hk (hunstarted.request_of_disconnect hplace) hbefore
    obtain rfl := hunstarted.disconnect hplace
    refine .clearing ?_ (hclearing.left hk hplace hbefore hsteps)
    cases hsteps
    nofun
  | clearing hstate h =>
    exact .clearing (hsteps.shrinks.state hstate) (h.left hk hplace hbefore hsteps)

/-- What an ordered run keeps. -/
structure System.Phased (crates : Crates) (s : System) : Prop where
  launched : s.Launched
  phase : s.Phase crates

theorem System.Phased.left (h : s.Phased crates) (hordered : s.Ordered (.resume k answer))
    (hnext : (s.coroutines k).place.next crates s.host (s.services (s.coroutines k).service)
      answer = some l) : (s.left k l).Phased crates := by
  cases hplace : (s.coroutines k).place with
  | connect place =>
    rw [hplace] at hnext
    have hopen := Coroutine.not_finished_of_connect hplace
    have hrequest := h.launched.request k place hplace
    have hbefore : ∀ j < k, (s.coroutines j).Finished := by
      intro j hj
      by_contra hunfinished
      exact hrequest (hordered j hj hunfinished).2
    exact ⟨h.launched.left (h.launched.lt hopen) fun _ _ => hrequest,
      h.phase.left_connect h.launched hplace hbefore (Connect.steps_of_next hnext)⟩
  | disconnect place =>
    rw [hplace] at hnext
    have hsteps := Disconnect.steps_of_next hnext
    have hopen := Coroutine.not_finished_of_disconnect hplace
    exact ⟨h.launched.left (h.launched.lt hopen) fun place' hplace' =>
        absurd hplace' (hsteps.goes.no_connect place'),
      h.phase.left_disconnect h.launched hplace (fun j hj hunfinished =>
        (hordered j hj hunfinished).1) hsteps⟩
  | finished =>
    rw [hplace] at hnext
    cases hnext

end Step

/-! ## The run -/

section Run

variable {crates : Crates} {s : System}

theorem System.Phased.launch (h : s.Phased crates) (hlive : s.live = true) (request : Request) :
    (s.launch request).Phased crates :=
  ⟨h.launched.launch hlive request, h.phase.launch h.launched request⟩

theorem System.Phased.created (h : s.Phased crates) : s.created.Phased crates := by
  refine ⟨h.launched.created, ?_⟩
  unfold System.created
  by_cases hlive : s.live = true
  · rw [if_pos hlive]
    exact h.phase
  · rw [if_neg hlive]
    exact h.phase.renew _ _

theorem System.Phased.step (h : s.Phased crates) (turn : Turn) (hordered : s.Ordered turn) :
    (s.step crates turn).Phased crates := by
  cases turn with
  | actionConnect profileId => exact h.created.launch s.created_live _
  | actionDisconnect => exact h.created.launch s.created_live _
  | onRevoke =>
    simp only [System.step]
    split
    next hlive => exact h.launch hlive _
    next => exact h
  | onDestroy =>
    simp only [System.step]
    split
    next hlive =>
      exact ⟨h.launched.destroyed hlive, (h.phase.launch h.launched _).renew _ false⟩
    next => exact h
  | resume k answer =>
    rcases System.step_resume crates s k answer with hsame | ⟨l, hnext, hleft⟩
    · rw [hsame]
      exact h
    · rw [hleft]
      exact h.left hordered hnext

theorem System.phased_run {turns : List Turn}
    (hordered : Each (System.step crates) System.Ordered System.init turns) :
    (runAll (System.step crates) System.init turns).Phased crates :=
  hordered.invariant (fun _ turn h hok => System.Phased.step h turn hok)
    ⟨System.launched_init, System.phase_init crates⟩

/-- Once every coroutine has ended, the phase says what is held. -/
theorem System.Phased.serialised (h : s.Phased crates) (hsettled : s.Settled) :
    s.Serialised crates := by
  cases h.phase with
  | connecting k place hplace before after res =>
    have hopen := Coroutine.not_finished_of_connect hplace
    exact absurd (hsettled k (h.launched.lt hopen)) hopen
  | connected k profile hk hrequest before after state full added =>
    refine ⟨fun profileId profileLabel heq => ?_, fun hne => absurd state (hne _ _),
      fun k' hk' hdisconnect => ?_⟩
    · rw [state] at heq
      cases heq
      exact ⟨_, profile, rfl, rfl, full.holds added⟩
    · have hlt : k ≠ k' := fun heq => hrequest (heq ▸ hdisconnect)
      have hunstarted := after k' (by omega) (by omega)
      exact absurd (hsettled k' (by omega)) hunstarted.not_finished
  | clearing hstate hclearing =>
    have hidle : s.host.Idle := by
      refine hclearing.idle_of_none ?_
      rintro d kind ⟨hd, ⟨place, hplace, -⟩, -⟩
      exact Coroutine.not_finished_of_disconnect hplace (hsettled d hd)
    exact ⟨fun _ _ heq => absurd heq (hstate _ _), fun _ => hidle, fun _ _ _ => hidle⟩

/-- **Connecting and disconnecting in turn.** In a run in which no coroutine goes on before every
`connect` that was launched before it has ended, and no `connect` before every coroutine, the state
says what is held once all have ended. -/
theorem serialised_of_ordered (crates : Crates) {turns : List Turn}
    (hordered : Each (System.step crates) System.Ordered System.init turns)
    (hsettled : (runAll (System.step crates) System.init turns).Settled) :
    (runAll (System.step crates) System.init turns).Serialised crates :=
  (System.phased_run hordered).serialised hsettled

end Run

/-! ## Two runs -/

theorem System.settled_of_two {s : System} (h : s.launched = 2 ∧
    (s.coroutines 0).place = .finished ∧ (s.coroutines 1).place = .finished) : s.Settled := by
  intro k hk
  rw [h.1] at hk
  obtain rfl | rfl : k = 0 ∨ k = 1 := by omega
  · exact h.2.1
  · exact h.2.2

/-- A connection to the home profile, and its end. -/
def homeAndBack : List Turn :=
  [.actionConnect "1", .resume 0 .done, .resume 0 (.profiles [homeProfile]),
    .resume 0 (.ports ⟨10808, 10085⟩), .resume 0 .done, .resume 0 .done, .resume 0 .done,
    .resume 0 (.reaches 0)] ++ List.replicate 8 (.resume 0 .done) ++
    .actionDisconnect :: List.replicate 12 (.resume 1 .done)

theorem homeAndBack_run :
    Each (System.step Engine.wireCrates) System.Ordered System.init homeAndBack ∧
      (runAll (System.step Engine.wireCrates) System.init homeAndBack).Settled := by
  obtain ⟨outbound, hbuild⟩ : ∃ outbound,
      buildVlessRealityOutbound Engine.wireCrates homeProfile.toUniffiProfile = .ok outbound :=
    ⟨_, rfl⟩
  have hid : homeProfile.profileId = "1" := rfl
  constructor
  · simp [homeAndBack, Each, System.Ordered, System.step, System.created, System.launch,
      System.init, System.left, Request.place, Place.next, Connect.next, Disconnect.next,
      Service.isRunning, Host.isAlive, Host.spawn, Host.destroy, Host.addOutbound,
      Host.removeOutbound, Host.onProcess, hbuild, hid]
  · refine System.settled_of_two ?_
    simp [homeAndBack, System.step, System.created, System.launch, System.init, System.left,
      Request.place, Place.next, Connect.next, Disconnect.next, Service.isRunning, Host.isAlive,
      Host.spawn, Host.destroy, Host.addOutbound, Host.removeOutbound, Host.onProcess, hbuild, hid]

theorem homeAndBack_serialised :
    (runAll (System.step Engine.wireCrates) System.init homeAndBack).Serialised Engine.wireCrates :=
  serialised_of_ordered Engine.wireCrates homeAndBack_run.1 homeAndBack_run.2

/-- Two `connect`: the second finds that no process runs, as the first has started one and not kept
it yet. `AddOutbound` is refused to both, and the `disconnect` of the first destroys the process of
the second. -/
def homeTwice : List Turn :=
  [.actionConnect "1", .actionConnect "1",
    .resume 0 .done, .resume 0 (.profiles [homeProfile]), .resume 0 (.ports ⟨10808, 10085⟩),
    .resume 0 .done, .resume 0 .done,
    .resume 1 .done, .resume 1 (.profiles [homeProfile]), .resume 1 (.ports ⟨10809, 10086⟩),
    .resume 1 .done, .resume 1 .done,
    .resume 0 .done, .resume 1 .done,
    .resume 0 (.reaches 0), .resume 0 (.throws none),
    .resume 1 (.reaches 1), .resume 1 (.throws none)] ++
    List.replicate 12 (.resume 0 .done) ++ List.replicate 10 (.resume 1 .done)

theorem homeTwice_run (crates : Crates) :
    (runAll (System.step crates) System.init homeTwice).Settled ∧
      (runAll (System.step crates) System.init homeTwice).host.state = .disconnected ∧
      (runAll (System.step crates) System.init homeTwice).host.processes.map Process.pid = [0] := by
  refine ⟨System.settled_of_two ?_, ?_⟩
  all_goals
    simp [homeTwice, homeProfile, System.step, System.created, System.launch, System.init,
      System.left, Request.place, Place.next, Connect.next, Disconnect.next, fails,
      Service.isRunning, Host.isAlive, Host.spawn, Host.destroy]

/-- The state is `Disconnected`, and a process runs that no field knows. -/
theorem homeTwice_not_serialised :
    ¬∀ turns : List Turn,
      (runAll (System.step Engine.wireCrates) System.init turns).Settled →
      (runAll (System.step Engine.wireCrates) System.init turns).Serialised Engine.wireCrates := by
  intro h
  obtain ⟨hsettled, hstate, hpids⟩ := homeTwice_run Engine.wireCrates
  have hidle := (h homeTwice hsettled).idle fun _ _ => by
    rw [hstate]
    nofun
  rw [hidle.processes] at hpids
  cases hpids

end Bimarz.Android
