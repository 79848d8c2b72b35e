import Bimarz.KillSwitch.Threads

/-!
# The fields of the state agree

Seven fields are written in eight places by any number of threads. `Coherent` says how they
belong together; every record that a section writes has it, given what the section has checked,
and so has the state after every turn of every run.
-/

namespace Bimarz.KillSwitch

/-! ## Coherent records -/

/-- The fields of a state agree. -/
structure Coherent (st : KillSwitchState) : Prop where
  reason : st.triggered = true ↔ st.triggerReason ≠ none
  died : st.watcherState = .processDied ↔ st.active = true ∧ st.triggered = true
  off : st.active = false → st.interface = none ∧ st.xrayUid = none

theorem coherent_activated (kernelCapable : Bool) (interface : String) (xrayUid : Option ℤ) :
    Coherent (.activated kernelCapable interface xrayUid) where
  reason := by simp [KillSwitchState.activated]
  died := by simp [KillSwitchState.activated]
  off := by simp [KillSwitchState.activated]

namespace Coherent

variable {st : KillSwitchState}

theorem of_died (reason : String) : Coherent (st.died reason) where
  reason := by simp [KillSwitchState.died]
  died := by simp [KillSwitchState.died]
  off := by simp [KillSwitchState.died]

theorem watched (h : Coherent st) : Coherent st.watched where
  reason := by simp [KillSwitchState.watched]
  died := by simp [KillSwitchState.watched]
  off := h.off

/-- A running watcher has recorded nothing, so it may become a stopped one. -/
theorem unwatched (h : Coherent st) : Coherent st.unwatched := by
  unfold KillSwitchState.unwatched
  split
  · next hrunning =>
    have hdied : ¬(st.active = true ∧ st.triggered = true) := fun ht => by
      rw [← h.died, hrunning] at ht
      cases ht
    exact ⟨h.reason, iff_of_false (by simp) hdied, h.off⟩
  · exact h

theorem deactivated (h : Coherent st) : Coherent st.deactivated where
  reason := h.reason
  died := by simp [KillSwitchState.deactivated]
  off := fun _ => ⟨rfl, rfl⟩

end Coherent

/-! ## Every run -/

namespace Threads

/-- Every state that a `deactivate` has read has `P`. -/
def Snapshots (P : KillSwitchState → Prop) (s : Threads) : Prop :=
  ∀ t current, (s.calls t).snapshot = some current → P current

theorem Snapshots.setCall {P : KillSwitchState → Prop} {s : Threads} (h : s.Snapshots P)
    {t : Thread} {pc : Pc} (hpc : ∀ current, pc.snapshot = some current → P current) :
    (s.setCall t pc).Snapshots P := by
  intro t' current ht'
  by_cases heq : t' = t
  · subst heq
    rw [setCall_self] at ht'
    exact hpc current ht'
  · rw [setCall_of_ne s pc heq] at ht'
    exact h t' current ht'

/-- A call whose place in the code has changed keeps its snapshot. -/
theorem Snapshots.setCall_of_eq {P : KillSwitchState → Prop} {s : Threads} (h : s.Snapshots P)
    {t : Thread} {pc : Pc} (hpc : pc.snapshot = none ∨ pc.snapshot = (s.calls t).snapshot) :
    (s.setCall t pc).Snapshots P := by
  refine h.setCall fun current hcurrent => ?_
  rcases hpc with hnone | heq
  · rw [hnone] at hcurrent
    cases hcurrent
  · exact h t current (heq ▸ hcurrent)

theorem stopped_snapshot (value : Bool) (next : Option KillSwitchState) :
    (Pc.stopped value next).snapshot = none ∨ (Pc.stopped value next).snapshot = next := by
  cases next with
  | none => exact Or.inl rfl
  | some current =>
    cases value with
    | false => exact Or.inl rfl
    | true => exact Or.inr rfl

/-- What holds of every state: its record is coherent, so are the records that a `deactivate`
under way has read, and an active kill-switch is for the interface of the last activation. -/
structure AllCoherent (s : Threads) : Prop where
  state : Coherent s.state
  snapshots : s.Snapshots Coherent
  interface : s.state.active = true →
    ∃ interface, s.activated = some interface ∧ s.state.interface = some interface

theorem allCoherent_init : init.AllCoherent where
  state := ⟨by decide, by decide, fun _ => ⟨rfl, rfl⟩⟩
  snapshots _ _ h := by cases h
  interface h := by cases h

theorem allCoherent_move {s s' : Threads} (h : s.AllCoherent) (hmove : Move s s') :
    s'.AllCoherent := by
  obtain ⟨hstate, hsnapshots, hinterface⟩ := h
  cases hmove with
  | stay => exact ⟨hstate, hsnapshots, hinterface⟩
  | advance t pc hpc =>
    refine ⟨hstate, hsnapshots.setCall fun current hcurrent => ?_, hinterface⟩
    rcases hpc.snapshot with hnone | hread | hkept
    · rw [hnone] at hcurrent
      cases hcurrent
    · obtain rfl : s.state = current := Option.some.inj (hread.symm.trans hcurrent)
      exact hstate
    · exact hsnapshots t current (hkept ▸ hcurrent)
  | activate t interface xrayUid kernel hcall =>
    exact ⟨coherent_activated kernel interface xrayUid,
      Snapshots.setCall_of_eq (s := { s with
        state := .activated kernel interface xrayUid, activated := some interface })
        hsnapshots (Or.inl rfl), fun _ => ⟨interface, rfl, rfl⟩⟩
  | launch t intervalSeconds starts halive hdied =>
    exact ⟨hstate.watched, hsnapshots.setCall_of_eq (Or.inl rfl), hinterface⟩
  | request t next hnext =>
    exact ⟨hstate, hsnapshots.setCall_of_eq hnext, hinterface⟩
  | drop t w next hcall =>
    exact ⟨hstate, hsnapshots.setCall_of_eq (Or.inr (by rw [hcall]; rfl)), hinterface⟩
  | mark t next hcall =>
    refine ⟨hstate.unwatched, hsnapshots.setCall_of_eq ?_, ?_⟩
    · rw [hcall]
      exact stopped_snapshot true next
    · intro hactive
      have := hinterface (s.state.unwatched_active.symm.trans hactive)
      exact s.state.unwatched_interface.symm ▸ this
  | write t current hcall =>
    refine ⟨(hsnapshots t current (by rw [hcall]; rfl)).deactivated,
      hsnapshots.setCall_of_eq (Or.inl rfl), fun hactive => ?_⟩
    cases hactive
  | proceed w ph _ _ => exact ⟨hstate, hsnapshots, hinterface⟩
  | leave w exit _ _ => exact ⟨hstate, hsnapshots, hinterface⟩
  | crash w _ => exact ⟨hstate, hsnapshots, hinterface⟩
  | trigger w failure _ _ hactive =>
    exact ⟨Coherent.of_died failure.reason, hsnapshots, fun _ => hinterface hactive⟩
  | signal w failure _ => exact ⟨hstate, hsnapshots, hinterface⟩
  | unwatch w exit _ =>
    refine ⟨hstate.unwatched, hsnapshots, fun hactive => ?_⟩
    have := hinterface (s.state.unwatched_active.symm.trans hactive)
    exact s.state.unwatched_interface.symm ▸ this
  | clear w exit _ => exact ⟨hstate, hsnapshots, hinterface⟩
  | vanish w exit _ => exact ⟨hstate, hsnapshots, hinterface⟩

theorem allCoherent_run (turns : List Turn) : (run turns).AllCoherent :=
  Effect.runAll_invariant (fun s turn h => allCoherent_move h (s.step_move turn))
    allCoherent_init turns

/-- The manager and its watchers, without the calls. -/
def shared (s : Threads) : Threads := { s with calls := fun _ => .idle none }

/-- A call that is refused in its first section has changed nothing. -/
theorem refused_shared (s : Threads) (t : Thread) (request : Request) (ok : Bool) {e : Exc}
    (he : e = alreadyActive ∨ e = alreadyTriggered)
    (h : (s.step (.call t request ok)).calls t = .idle (some (.raised e))) :
    (s.step (.call t request ok)).shared = s.shared := by
  unfold step at h ⊢
  dsimp only at h ⊢
  split
  · next hmay =>
    rw [if_pos hmay] at h
    cases request with
    | activate interface xrayUid =>
      rcases s.begin_activate t ok interface xrayUid with ⟨outcome, hends⟩ | hgoes
      · rw [hends]
        rfl
      · rw [hgoes]
        rfl
    | deactivate => rfl
    | startProcessWatcher intervalSeconds =>
      rcases s.begin_start t ok intervalSeconds with ⟨outcome, hends, -⟩ | ⟨-, -, hlaunched⟩
      · rw [hends]
        rfl
      · rw [hlaunched, launch, finish_self] at h
        cases ok <;> rcases he with rfl | rfl <;>
          simp [cannotStart, alreadyActive, alreadyTriggered] at h
    | stopProcessWatcher =>
      simp [begin, requestStop] at h
  · rfl

/-- **The state is coherent** after every run of any threads: the reason goes with the trigger,
the state of the watcher with both, an inactive kill-switch has no interface and an active one
that of the last activation; and a call that is refused because the kill-switch is already active
or triggered changes nothing. -/
theorem coherent_of_turns (turns : List Turn) :
    let s := run turns
    Coherent s.state ∧
      (s.state.active = true →
        ∃ interface, s.activated = some interface ∧ s.state.interface = some interface) ∧
      ∀ t request ok e, e = alreadyActive ∨ e = alreadyTriggered →
        (s.step (.call t request ok)).calls t = .idle (some (.raised e)) →
        (s.step (.call t request ok)).shared = s.shared := by
  intro s
  have h := allCoherent_run turns
  exact ⟨h.state, h.interface, fun t request ok e he hraised =>
    s.refused_shared t request ok he hraised⟩

end Threads

end Bimarz.KillSwitch
