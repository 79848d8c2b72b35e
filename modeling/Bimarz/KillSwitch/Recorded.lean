import Bimarz.KillSwitch.Runs

/-!
# Where a trigger is recorded

A trigger is recorded while the watcher runs and the kill-switch is on. Until somebody deactivates
it the firewall stays what it was then (`Recorded`); once the stop event has been set there are no
further triggers (`Quiet`).
-/

namespace Bimarz.KillSwitch

open Effect Effect.Act

/-- The last trigger was recorded over the firewall as it is, and the kill-switch is still on. -/
def System.Recorded (s : System) : Prop :=
  ∀ f, s.triggeredOn = some f → s.filter = f ∧ s.state.active = true

/-- The stop event is set, and the last trigger was recorded over the firewall `t`. -/
def System.Quiet (t : Option Filter) (s : System) : Prop :=
  s.manager.stopEvent = true ∧ s.triggeredOn = t

/-- **Deactivating** after the stop event has been set lets no trigger be recorded. -/
theorem deactivate_quiet (t : Option Filter) : Keeps (System.Quiet t) System.deactivate := by
  have hgap : Keeps (System.Quiet t) System.interleave := Keeps.modify fun s hs =>
    ⟨(afterGap_stopped hs.1).1, (afterGap_stopped hs.1).2.trans hs.2⟩
  have hstop : Keeps (System.Quiet t) System.stopProcessWatcher := by
    refine Keeps.of_run fun s hs => ?_
    obtain ⟨_, s', hrun, hstopped, -⟩ := stopProcessWatcher_spec s
    rw [hrun]
    exact ⟨hstopped.stopEvent, hstopped.triggeredOn.trans ((afterGap_stopped hs.1).2.trans hs.2)⟩
  have hremove (m : Act Exc Host Unit) : Keeps (System.Quiet t) (System.onHost m) := by
    have hframe : Frames (fun s : System => (s.manager.stopEvent, s.triggeredOn))
        (System.onHost m) := Frames.zoom _ fun _ _ => rfl
    exact hframe.keeps fun c => c.1 = true ∧ c.2 = t
  have hend (f : KillSwitchManager → KillSwitchManager)
      (hf : ∀ m, (f m).stopEvent = m.stopEvent) (removed : Bool) :
      Keeps (System.Quiet t)
        (do if removed then if ← System.stopProcessWatcher then System.onManager f : Sys Unit) := by
    refine Keeps.ite (Keeps.bind hstop fun _ => Keeps.ite ?_ (Keeps.pure _)) (Keeps.pure _)
    exact Keeps.modify fun s hs => ⟨(hf s.manager).trans hs.1, hs.2⟩
  refine Keeps.bind (Keeps.reads _) fun current => Keeps.bind hgap fun _ => ?_
  cases current.interface with
  | none => exact Keeps.bind (Keeps.pure _) (hend _ fun _ => rfl)
  | some interface =>
    refine Keeps.ite (Keeps.bind (Keeps.handle ?_ fun _ => Keeps.pure _) (hend _ fun _ => rfl))
      (Keeps.bind (Keeps.pure _) (hend _ fun _ => rfl))
    exact Keeps.bind (hremove _) fun _ => Keeps.pure _

section Gap

variable (s : System)

/-- A gap records a trigger over the firewall as it is, or none. -/
theorem afterGap_triggeredOn :
    s.afterGap.triggeredOn = s.triggeredOn ∨
      s.afterGap.triggeredOn = some s.filter ∧ s.state.active = true := by
  unfold System.afterGap
  dsimp only
  split
  · next htriggered =>
    refine Or.inr ⟨rfl, ?_⟩
    have hactive : s.afterGap.state.active = true := by
      have h := htriggered.1
      simp only [KillSwitchManager.isTriggered, Bool.and_eq_true] at h
      exact h.1.1
    exact (congrArg Switch.active (afterGap_switch s)).symm.trans hactive
  · exact Or.inl rfl

variable {s}

theorem afterGap_recorded (h : s.Recorded) : s.afterGap.Recorded := by
  have hactive : s.afterGap.state.active = s.state.active :=
    congrArg Switch.active (afterGap_switch s)
  intro f hf
  rcases afterGap_triggeredOn s with hsame | ⟨hnew, hon⟩
  · obtain ⟨hfilter, hon⟩ := h f (hsame.symm.trans hf)
    exact ⟨hfilter, hactive.trans hon⟩
  · exact ⟨Option.some.inj (hnew.symm.trans hf), hactive.trans hon⟩

/-- What has been recorded stays recorded in a gap. -/
theorem afterGap_some (h : s.Recorded) {f : Filter} (hf : s.triggeredOn = some f) :
    s.afterGap.triggeredOn = some f := by
  rcases afterGap_triggeredOn s with hsame | ⟨hnew, -⟩
  · exact hsame.trans hf
  · rw [hnew, (h f hf).1]

end Gap

theorem interleave_recorded : Keeps System.Recorded System.interleave :=
  Keeps.modify fun _ hs => afterGap_recorded hs

/-- **Activating** finds nothing recorded, or does nothing. -/
theorem activate_recorded (interface : String) (xrayUid : Option ℤ) :
    Keeps System.Recorded (System.activate interface xrayUid) := by
  refine Keeps.of_run fun s hs => ?_
  cases hactive : s.state.active with
  | true =>
    rw [activate_on interface xrayUid hactive]
    split <;> exact hs
  | false =>
    have hnone : s.afterGap.triggeredOn = none := by
      rw [Option.eq_none_iff_forall_not_mem]
      intro f hf
      have hon := (afterGap_recorded hs f hf).2
      rw [show s.afterGap.state.active = false from
        (congrArg Switch.active (afterGap_switch s)).trans hactive] at hon
      cases hon
    let v : System → Option Filter := System.triggeredOn
    have hhost (m : Act Exc Host Unit) : Frames v (System.onHost m) := Frames.zoom _ fun _ _ => rfl
    have hprint : Frames v System.printInterface :=
      Frames.bind (Frames.reads _) fun _ => Frames.bind (Frames.modify fun _ => rfl) fun _ =>
        Frames.ite (Frames.pure _) (Frames.raise _)
    have hfallback : Frames v (System.activate.fallback interface xrayUid) := fun _ => rfl
    have hkept : (System.activate interface xrayUid s).2.triggeredOn = none := by
      rw [activate_off interface xrayUid hactive]
      split
      · refine (Frames.handle (v := v) ?_ (fun _ => hfallback) _).trans hnone
        exact Frames.bind (hhost _) fun _ => Frames.bind (fun _ => rfl) fun _ => hprint
      · exact (hfallback _).trans hnone
    intro f hf
    rw [hkept] at hf
    cases hf

/-- **Starting a watcher** leaves the firewall and the switch alone. -/
theorem startProcessWatcher_recorded (intervalSeconds : ℚ) :
    Keeps System.Recorded (System.startProcessWatcher intervalSeconds) := by
  have hstart : Keeps System.Recorded System.startThread := by
    refine Keeps.bind (Keeps.reads _) fun _ => Keeps.bind (Keeps.modify fun _ hs => hs) fun _ => ?_
    exact Keeps.ite (Keeps.modify fun _ hs => hs) (Keeps.raise _)
  refine Keeps.ite (Keeps.raise _) (Keeps.bind interleave_recorded fun _ => ?_)
  refine Keeps.bind (Keeps.reads _) fun _ => Keeps.ite (Keeps.pure _) ?_
  refine Keeps.bind (Keeps.reads _) fun _ => Keeps.ite (Keeps.raise _) ?_
  exact Keeps.bind (Keeps.modify fun _ hs => hs) fun _ => hstart

end Bimarz.KillSwitch
