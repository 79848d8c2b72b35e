import Bimarz.Effect.Run
import Bimarz.KillSwitch.Manager

/-!
# Runs of kill-switch calls

1. `Switch` is the part of the state record that no watcher section writes; `activate_cases`,
   `deactivate_cases` and their companions say once what a call can do to it and to the firewall.
2. `noOrphan_of_runs`: the chains keep no rule of a kill-switch that is off or in software mode,
   if no `activate` fails between its two commands.
3. `rulesPresent_of_runs`: a kernel-level kill-switch has both its rules in the chains, if no
   `deactivate` fails after its first command.
-/

namespace Bimarz.KillSwitch

open Effect Effect.Act

/-! ## What the watcher does not write -/

/-- The part of the state record that only the calls write. -/
structure Switch where
  kernelCapable : Bool
  active : Bool
  interface : Option String
  xrayUid : Option ℤ
  deriving DecidableEq, Repr

def KillSwitchState.switch (st : KillSwitchState) : Switch :=
  ⟨st.kernelCapable, st.active, st.interface, st.xrayUid⟩

/-- The switch of a state that is off. -/
def Switch.off (sw : Switch) : Switch := ⟨sw.kernelCapable, false, none, none⟩

/-- The rules of the kill-switch are meant to be in the kernel. -/
def Switch.Kernel (sw : Switch) : Prop := sw.active = true ∧ sw.kernelCapable = true

instance (sw : Switch) : Decidable sw.Kernel := by unfold Switch.Kernel; infer_instance

abbrev System.switch (s : System) : Switch := s.state.switch

abbrev System.filter (s : System) : Filter := s.host.filter

section Frame

variable (m : KillSwitchManager)

@[simp] theorem trigger_switch (reason : String) :
    (m.trigger reason).state.switch = m.state.switch := by
  unfold KillSwitchManager.trigger
  split
  · rfl
  · split
    · rfl
    · next h => simp_all [KillSwitchState.switch]

@[simp] theorem trigger_watcherThread (reason : String) :
    (m.trigger reason).watcherThread = m.watcherThread := by
  unfold KillSwitchManager.trigger
  split <;> [rfl; split <;> rfl]

@[simp] theorem markStopped_switch : m.markStopped.state.switch = m.state.switch := by
  unfold KillSwitchManager.markStopped
  split <;> rfl

@[simp] theorem markStopped_watcherThread : m.markStopped.watcherThread = m.watcherThread := by
  unfold KillSwitchManager.markStopped
  split <;> rfl

@[simp] theorem clearThread_switch : m.clearThread.state.switch = m.state.switch := rfl

@[simp] theorem setStopEvent_switch : m.setStopEvent.state.switch = m.state.switch := rfl

@[simp] theorem watcherStep_switch (step : WatcherStep) :
    (step.run m).state.switch = m.state.switch := by
  unfold WatcherStep.run
  split
  · cases step <;> simp
  · rfl

/-- The watcher thread never writes the switch. -/
@[simp] theorem foldl_watcherStep_switch (gap : List WatcherStep) :
    (gap.foldl WatcherStep.run m).state.switch = m.state.switch := by
  induction gap generalizing m with
  | nil => rfl
  | cons step gap ih => rw [List.foldl_cons, ih, watcherStep_switch]

@[simp] theorem isWatcherAlive_iff : m.isWatcherAlive = true ↔ m.watcherThread = .alive :=
  decide_eq_true_iff

theorem watcherStep_watcherThread (step : WatcherStep) :
    ((step.run m).watcherThread = .alive ↔ m.watcherThread = .alive ∧ step ≠ .clearThread) ∧
      ((step.run m).watcherThread = .unstarted ↔ m.watcherThread = .unstarted) := by
  unfold WatcherStep.run
  split
  · next h =>
    rw [isWatcherAlive_iff] at h
    cases step <;> simp [h, KillSwitchManager.clearThread]
  · next h =>
    rw [isWatcherAlive_iff] at h
    simp [h]

/-- The pointer survives a gap unless the thread clears it. -/
theorem foldl_watcherStep_watcherThread (gap : List WatcherStep) :
    ((gap.foldl WatcherStep.run m).watcherThread = .alive ↔
        m.watcherThread = .alive ∧ .clearThread ∉ gap) ∧
      ((gap.foldl WatcherStep.run m).watcherThread = .unstarted ↔
        m.watcherThread = .unstarted) := by
  induction gap generalizing m with
  | nil => simp
  | cons step gap ih =>
    obtain ⟨halive, hunstarted⟩ := watcherStep_watcherThread m step
    rw [List.foldl_cons, (ih _).1, (ih _).2, halive, hunstarted, List.mem_cons, not_or, and_assoc]
    exact ⟨and_congr_right fun _ => and_congr_left fun _ => ne_comm, Iff.rfl⟩

theorem watcherStep_stopped (step : WatcherStep) (h : m.stopEvent = true) :
    (step.run m).stopEvent = true ∧ (step.run m).state.triggered = m.state.triggered := by
  unfold WatcherStep.run
  by_cases halive : m.isWatcherAlive = true
  · rw [if_pos halive]
    cases step with
    | trigger reason => simp [KillSwitchManager.trigger, h]
    | markStopped =>
      simp only [KillSwitchManager.markStopped]
      split <;> exact ⟨h, rfl⟩
    | clearThread => exact ⟨h, rfl⟩
  · rw [if_neg halive]
    exact ⟨h, rfl⟩

/-- A watcher that has been told to stop records no trigger. -/
theorem foldl_watcherStep_stopped (gap : List WatcherStep) (h : m.stopEvent = true) :
    (gap.foldl WatcherStep.run m).stopEvent = true ∧
      (gap.foldl WatcherStep.run m).state.triggered = m.state.triggered := by
  induction gap generalizing m with
  | nil => exact ⟨h, rfl⟩
  | cons step gap ih =>
    obtain ⟨hstop, htriggered⟩ := watcherStep_stopped m step h
    obtain ⟨hstop', htriggered'⟩ := ih (step.run m) hstop
    exact ⟨hstop', htriggered'.trans htriggered⟩

end Frame

/-! ## The calls -/

/-- A call on the manager; `pause` lets the watcher run between two calls. -/
inductive Call
  | activate (interface : String) (xrayUid : Option ℤ)
  | startProcessWatcher (intervalSeconds : ℚ)
  | stopProcessWatcher
  | deactivate
  | pause

/-- The state after a call, whether it returned or raised. -/
def Call.step (s : System) : Call → System
  | .activate interface xrayUid => (System.activate interface xrayUid s).2
  | .startProcessWatcher intervalSeconds => (System.startProcessWatcher intervalSeconds s).2
  | .stopProcessWatcher => (System.stopProcessWatcher s).2
  | .deactivate => (System.deactivate s).2
  | .pause => (System.interleave s).2

section Specs

variable (s : System)

theorem interleave_run : System.interleave s = (.ok (), s.afterGap) := rfl

@[simp] theorem afterGap_switch : s.afterGap.switch = s.switch := foldl_watcherStep_switch _ _

theorem onHost_ok {m : Act Exc Host Unit} {s : System} {host : Host}
    (h : m s.host = (.ok (), host)) : System.onHost m s = (.ok (), { s with host }) := by
  unfold System.onHost zoom; rw [h]

theorem onHost_error {m : Act Exc Host Unit} {s : System} {host : Host} {e : Exc}
    (h : m s.host = (.error e, host)) : System.onHost m s = (.error e, { s with host }) := by
  unfold System.onHost zoom; rw [h]

theorem joinThread_true {s : System} (h : s.joins.head = true) : System.joinThread s =
    (.ok true,
      { s with manager := s.manager.markStopped.clearThread, joins := s.joins.tail }) := if_pos h

theorem joinThread_false {s : System} (h : ¬s.joins.head = true) :
    System.joinThread s = (.ok false, { s with joins := s.joins.tail }) := if_neg h

theorem afterGap_thread :
    (s.afterGap.manager.watcherThread = .alive ↔
        s.manager.watcherThread = .alive ∧ .clearThread ∉ s.gaps.head) ∧
      (s.afterGap.manager.watcherThread = .unstarted ↔ s.manager.watcherThread = .unstarted) :=
  foldl_watcherStep_watcherThread s.manager s.gaps.head

/-- A gap after the stop event has been set changes nothing that matters. -/
theorem afterGap_stopped {s : System} (h : s.manager.stopEvent = true) :
    s.afterGap.manager.stopEvent = true ∧ s.afterGap.triggeredOn = s.triggeredOn := by
  obtain ⟨hstop, htriggered⟩ := foldl_watcherStep_stopped s.manager s.gaps.head h
  have hswitch : s.afterGap.switch = s.switch := afterGap_switch s
  have hsame : s.afterGap.manager.isTriggered = s.manager.isTriggered := by
    have hactive : s.afterGap.state.active = s.state.active := congrArg Switch.active hswitch
    have hkernel : s.afterGap.state.kernelCapable = s.state.kernelCapable :=
      congrArg Switch.kernelCapable hswitch
    unfold KillSwitchManager.isTriggered
    rw [hactive, hkernel]
    exact congrArg _ htriggered
  refine ⟨hstop, if_neg fun hnew => ?_⟩
  change s.afterGap.manager.isTriggered = true ∧ _ at hnew
  rw [hsame] at hnew
  exact hnew.2 hnew.1

/-- The system once the stop event has been set. -/
def System.requested (s : System) : System :=
  { s.afterGap with manager := s.afterGap.manager.setStopEvent }

theorem requestStop_run : System.requestStop s = (.ok (), s.requested) := rfl

@[simp] theorem requested_switch : s.requested.switch = s.switch := afterGap_switch s

/-- The watcher thread could not be started. -/
def System.Unstarted (s : System) : Prop := s.manager.watcherThread = .unstarted

@[simp] theorem afterGap_unstarted : s.afterGap.Unstarted ↔ s.Unstarted := (afterGap_thread s).2

@[simp] theorem requested_unstarted : s.requested.Unstarted ↔ s.Unstarted := afterGap_unstarted s

/-- The watcher thread has ended, ends before it is looked for, or is joined in time. -/
def System.Ends (s : System) : Prop :=
  s.manager.watcherThread = .absent ∨
    s.manager.watcherThread = .alive ∧ (.clearThread ∈ s.gaps.head ∨ s.joins.head = true)

/-- A call of `stop_process_watcher` brings the watcher thread to its end. -/
def System.WatcherEnds (s : System) : Prop := s.requested.Ends

theorem System.Ends.started {s : System} (h : s.Ends) : ¬s.Unstarted := by
  rintro hunstarted
  rcases h with habsent | ⟨halive, -⟩
  · exact WatcherThread.noConfusion (hunstarted.symm.trans habsent)
  · exact WatcherThread.noConfusion (hunstarted.symm.trans halive)

theorem System.WatcherEnds.started {s : System} (h : s.WatcherEnds) : ¬s.Unstarted := by
  rw [← requested_unstarted s]
  exact System.Ends.started h

/-- How stopping the watcher can end: a thread that was never started cannot be joined. -/
inductive System.Stops (s : System) : Except Exc Bool → Prop
  | returned (value : Bool) : ¬s.Unstarted → (value = true ↔ s.WatcherEnds) → s.Stops (.ok value)
  | raised : s.Unstarted → s.Stops (.error cannotJoin)

/-- How a call that stops the watcher can end. -/
inductive System.Joins (s : System) : Except Exc Unit → Prop
  | returned : ¬s.Unstarted → s.Joins (.ok ())
  | raised : s.Unstarted → s.Joins (.error cannotJoin)

/-- What stopping the watcher keeps: the firewall, the switch, and the triggers that were recorded
before the stop event was set. -/
structure System.Stopped (s s' : System) : Prop where
  host : s'.host = s.host
  switch : s'.switch = s.switch
  stopEvent : s'.manager.stopEvent = true
  triggeredOn : s'.triggeredOn = s.afterGap.triggeredOn

theorem markStopped_stopEvent (m : KillSwitchManager) : m.markStopped.stopEvent = m.stopEvent := by
  unfold KillSwitchManager.markStopped
  split <;> rfl

/-- The end of a call that has set the stop event. -/
theorem endWatcher_spec (h : s.manager.stopEvent = true) :
    ∃ outcome s', System.endWatcher s = (outcome, s') ∧ s'.host = s.host ∧
      s'.switch = s.switch ∧ s'.manager.stopEvent = true ∧ s'.triggeredOn = s.triggeredOn ∧
      (s.Unstarted ∧ outcome = .error cannotJoin ∨
        ∃ value, ¬s.Unstarted ∧ outcome = .ok value ∧ (value = true ↔ s.Ends)) := by
  obtain ⟨halive, hunstarted⟩ := afterGap_thread s
  obtain ⟨hstop, htriggered⟩ := afterGap_stopped h
  unfold System.endWatcher
  rw [bind_ok (interleave_run s), reads_bind_apply]
  cases hthread : s.afterGap.manager.watcherThread with
  | absent =>
    have hnot : ¬s.Unstarted := fun h => by
      have := hunstarted.mpr h
      rw [hthread] at this
      cases this
    refine ⟨.ok true, _, rfl, rfl, ?_, (markStopped_stopEvent _).trans hstop, htriggered,
      Or.inr ⟨true, hnot, rfl, iff_of_true rfl ?_⟩⟩
    · exact (markStopped_switch _).trans (afterGap_switch s)
    · cases hbefore : s.manager.watcherThread with
      | absent => exact Or.inl hbefore
      | unstarted => exact absurd hbefore hnot
      | alive =>
        refine Or.inr ⟨hbefore, Or.inl ?_⟩
        by_contra hclear
        have := halive.mpr ⟨hbefore, hclear⟩
        rw [hthread] at this
        cases this
  | unstarted =>
    exact ⟨_, _, rfl, rfl, afterGap_switch s, hstop, htriggered,
      Or.inl ⟨hunstarted.mp hthread, rfl⟩⟩
  | alive =>
    obtain ⟨hbefore, hclear⟩ := halive.mp hthread
    have hnot : ¬s.Unstarted := fun h => WatcherThread.noConfusion (h.symm.trans hbefore)
    obtain ⟨hstop', htriggered'⟩ := afterGap_stopped hstop
    have hswitch : s.afterGap.afterGap.switch = s.switch :=
      (afterGap_switch _).trans (afterGap_switch s)
    simp only [bind_ok (interleave_run s.afterGap)]
    by_cases hj : s.joins.head = true
    · refine ⟨.ok true, _, bind_ok (joinThread_true (by exact hj)), rfl, ?_, ?_,
        htriggered'.trans htriggered,
        Or.inr ⟨true, hnot, rfl, iff_of_true rfl (Or.inr ⟨hbefore, Or.inr hj⟩)⟩⟩
      · exact (markStopped_switch s.afterGap.afterGap.manager.markStopped.clearThread).trans
          ((markStopped_switch s.afterGap.afterGap.manager).trans hswitch)
      · simpa [markStopped_stopEvent, KillSwitchManager.clearThread] using hstop'
    · refine ⟨.ok false, _, bind_ok (joinThread_false (by exact hj)), rfl, hswitch, hstop',
        htriggered'.trans htriggered, Or.inr ⟨false, hnot, rfl, ?_⟩⟩
      simp [System.Ends, hbefore, hclear, hj]

theorem joinThread_switch : Frames System.switch System.joinThread := by
  intro s
  unfold System.joinThread
  split
  · exact markStopped_switch _
  · rfl

/-- Whatever the stop event says, the end of the call leaves the switch alone. -/
theorem endWatcher_switch : Frames System.switch System.endWatcher := by
  have hmark : Frames System.switch (System.onManager KillSwitchManager.markStopped) := fun s =>
    markStopped_switch _
  refine Frames.bind (fun s => afterGap_switch s) fun _ => Frames.bind (Frames.reads _) ?_
  rintro (_ | _ | _)
  · exact Frames.bind hmark fun _ => Frames.pure _
  · exact Frames.raise _
  · refine Frames.bind (fun s => afterGap_switch s) fun _ => Frames.bind joinThread_switch fun _ => ?_
    exact Frames.ite (Frames.bind hmark fun _ => Frames.pure _) (Frames.pure _)

theorem raises_endWatcher : RaisesExceptions System.endWatcher := by
  have hjoin : RaisesExceptions System.joinThread := by
    intro s e s' h
    unfold System.joinThread at h
    split at h <;> cases h
  refine RaisesExceptions.bind (.modify _) fun _ => .bind (.reads _) ?_
  rintro (_ | _ | _)
  · exact RaisesExceptions.bind (.modify _) fun _ => .pure _
  · exact RaisesExceptions.raise rfl
  · refine RaisesExceptions.bind (.modify _) fun _ => .bind hjoin fun _ => ?_
    exact .ite (.bind (.modify _) fun _ => .pure _) (.pure _)

/-- **Stopping the watcher** changes neither the switch nor the firewall, and returns `True`
exactly when the watcher ends. -/
theorem stopProcessWatcher_spec :
    ∃ outcome s', System.stopProcessWatcher s = (outcome, s') ∧ s.Stopped s' ∧
      s.Stops outcome := by
  obtain ⟨outcome, s', hrun, hhost, hswitch, hstop, htriggered, hcases⟩ :=
    endWatcher_spec s.requested rfl
  refine ⟨outcome, s', ?_, ⟨hhost, hswitch.trans (requested_switch s), hstop, htriggered⟩, ?_⟩
  · unfold System.stopProcessWatcher
    rw [bind_ok (requestStop_run s), hrun]
  · rw [requested_unstarted] at hcases
    rcases hcases with ⟨hunstarted, rfl⟩ | ⟨value, hstarted, rfl, hvalue⟩
    · exact .raised hunstarted
    · exact .returned value hstarted hvalue

/-- Starting a watcher changes neither the switch nor the firewall. -/
theorem startProcessWatcher_spec (intervalSeconds : ℚ) :
    (System.startProcessWatcher intervalSeconds s).2.host = s.host ∧
      (System.startProcessWatcher intervalSeconds s).2.switch = s.switch := by
  unfold System.startProcessWatcher System.onManager System.startThread
  simp only [ite_run, raise_apply, bind_ok (interleave_run s), reads_bind_apply, modify_apply,
    modify_bind_apply]
  split
  · exact ⟨rfl, rfl⟩
  · have h := afterGap_switch s
    split
    · exact ⟨rfl, h⟩
    · split
      · exact ⟨rfl, h⟩
      · split
        · exact ⟨rfl, h⟩
        · exact ⟨rfl, h⟩

/-- The switch that `activate` sets. -/
def Switch.on (kernelCapable : Bool) (interface : String) (xrayUid : Option ℤ) : Switch :=
  ⟨kernelCapable, true, some interface, xrayUid⟩

/-- `activate` gets as far as running commands. -/
def System.Applies (s : System) (xrayUid : Option ℤ) (uid : ℕ) : Prop :=
  s.state.active = false ∧ s.probes.head = true ∧ uidOf xrayUid = some uid

/-- Activating a kill-switch that is on: it is as it is wanted, or the call is refused. -/
theorem activate_on {s : System} (interface : String) (xrayUid : Option ℤ)
    (hon : s.state.active = true) :
    System.activate interface xrayUid s =
      if s.state.interface = some interface ∧ s.state.xrayUid = xrayUid ∧
          (!s.state.triggered) = true then (.ok (), s)
      else (.error (.error .runtimeError
        "kill-switch is already active; deactivate it before reactivating"), s) := by
  unfold System.activate
  rw [reads_bind_apply, ite_run, if_pos hon, ite_run]
  split <;> rfl

/-- Activating a kill-switch that is off: what follows the gap and the probe. -/
theorem activate_off {s : System} (interface : String) (xrayUid : Option ℤ)
    (hoff : s.state.active = false) :
    System.activate interface xrayUid s = if s.probes.head = true then
      handle Exc.isException
        (do
          System.onHost (applyKillswitchRules interface xrayUid)
          System.onManager fun m => m.setState {
            kernelCapable := true, active := true, interface := some interface, xrayUid,
            watcherState := .notStarted, triggered := false, triggerReason := none }
          System.printInterface)
        (fun _ => System.activate.fallback interface xrayUid)
        { s.afterGap with probes := s.probes.tail }
      else System.activate.fallback interface xrayUid
        { s.afterGap with probes := s.probes.tail } := by
  unfold System.activate
  rw [reads_bind_apply, ite_run, if_neg (by simp [hoff]), bind_ok (interleave_run s)]
  exact ite_run _ _ _ _

theorem printInterface_true {s : System} (h : s.prints.head = true) :
    System.printInterface s = (.ok (), { s with prints := s.prints.tail }) := by
  unfold System.printInterface
  rw [reads_bind_apply, modify_bind_apply, ite_run, if_pos h]
  rfl

theorem printInterface_false {s : System} (h : s.prints.head = false) :
    System.printInterface s =
      (.error (.error .other "MarkupError"), { s with prints := s.prints.tail }) := by
  unfold System.printInterface
  rw [reads_bind_apply, modify_bind_apply, ite_run, if_neg (by simp [h])]
  rfl

/-- It falls back to software mode rather than raise. -/
theorem activate_returns {s : System} (interface : String) (xrayUid : Option ℤ)
    (hoff : s.state.active = false) :
    ∃ s', System.activate interface xrayUid s = (.ok (), s') := by
  rw [activate_off interface xrayUid hoff]
  split
  · let t : System := { s.afterGap with probes := s.probes.tail }
    rcases hrun : applyKillswitchRules interface xrayUid t.host with ⟨e | u, host⟩
    · have he : e.isException = true := raises_applyKillswitchRules interface xrayUid _ _ _ hrun
      rw [handle_caught (bind_error (onHost_error (s := t) hrun)) he]
      exact ⟨_, rfl⟩
    · cases hprint : t.prints.head with
      | true =>
        rw [handle_ok ((bind_ok (onHost_ok (s := t) hrun)).trans
          (printInterface_true (by exact hprint)))]
        exact ⟨_, rfl⟩
      | false =>
        rw [handle_caught ((bind_ok (onHost_ok (s := t) hrun)).trans
          (printInterface_false (by exact hprint))) rfl]
        exact ⟨_, rfl⟩
  · exact ⟨_, rfl⟩

/-- **Activating.** Nothing happens to an active kill-switch. An inactive one goes to software
mode without a trace in the firewall, or with the OUTPUT rule left behind by a half-way failure,
or with both rules because the text that tells of them cannot be printed, or to kernel mode with
both rules. -/
theorem activate_cases (interface : String) (xrayUid : Option ℤ) :
    let s' := (System.activate interface xrayUid s).2
    (s.state.active = true ∧ s'.filter = s.filter ∧ s'.switch = s.switch) ∨
    (s.state.active = false ∧ s'.switch = .on false interface xrayUid ∧ s'.filter = s.filter ∧
      ∀ uid, s.Applies xrayUid uid → s.host.fates.head ≠ .runs) ∨
    (s'.switch = .on false interface xrayUid ∧ ∃ uid, s.Applies xrayUid uid ∧
      s.host.fates.head = .runs ∧ s.host.fates.tail.head ≠ .runs ∧
      s'.filter = s.filter.applyFirst interface uid) ∨
    (s'.switch = .on false interface xrayUid ∧ ∃ uid, s.Applies xrayUid uid ∧
      s.host.fates.head = .runs ∧ s.host.fates.tail.head = .runs ∧ s.prints.head = false ∧
      s'.filter = s.filter.apply interface uid) ∨
    (s'.switch = .on true interface xrayUid ∧ ∃ uid, s.Applies xrayUid uid ∧
      s.host.fates.head = .runs ∧ s.host.fates.tail.head = .runs ∧ s.prints.head = true ∧
      s'.filter = s.filter.apply interface uid) := by
  intro s'
  by_cases hact : s.state.active = true
  · have h : s'.filter = s.filter ∧ s'.switch = s.switch := by
      simp only [s', activate_on interface xrayUid hact]
      split <;> exact ⟨rfl, rfl⟩
    exact Or.inl ⟨hact, h⟩
  have hoff : s.state.active = false := by simpa using hact
  let t : System := { s.afterGap with probes := s.probes.tail }
  simp only [s', activate_off interface xrayUid hoff]
  by_cases hp : s.probes.head = true
  · rw [if_pos hp]
    rcases hu : uidOf xrayUid with _ | uid
    · obtain ⟨e, he, hex⟩ := applyKillswitchRules_none interface hu
      rw [he, handle_caught (bind_error (onHost_error (s := t) (raise_apply _ _))) hex]
      exact Or.inr (Or.inl ⟨hoff, rfl, rfl, fun uid ha => absurd (hu.symm.trans ha.2.2) (by simp)⟩)
    · rw [applyKillswitchRules_some interface hu]
      rcases applyRuleset_cases interface uid s.host with
        ⟨h₁, e, he⟩ | ⟨h₁, h₂, e, he⟩ | ⟨h₁, h₂, he⟩
      · rw [handle_caught (bind_error (onHost_error (s := t) (mapError_error he))) rfl]
        exact Or.inr (Or.inl ⟨hoff, rfl, rfl, fun _ _ => h₁⟩)
      · rw [handle_caught (bind_error (onHost_error (s := t) (mapError_error he))) rfl]
        exact Or.inr (Or.inr (Or.inl ⟨rfl, uid, ⟨hoff, hp, hu⟩, h₁, h₂, rfl⟩))
      · have happlied := onHost_ok (s := t) (mapError_ok (f := Exc.error .runtimeError) he)
        cases hprint : s.prints.head with
        | true =>
          rw [handle_ok ((bind_ok happlied).trans (printInterface_true (by exact hprint)))]
          exact Or.inr (Or.inr (Or.inr (Or.inr ⟨rfl, uid, ⟨hoff, hp, hu⟩, h₁, h₂, rfl, rfl⟩)))
        | false =>
          rw [handle_caught ((bind_ok happlied).trans (printInterface_false (by exact hprint))) rfl]
          exact Or.inr (Or.inr (Or.inr (Or.inl ⟨rfl, uid, ⟨hoff, hp, hu⟩, h₁, h₂, rfl, rfl⟩)))
  · rw [if_neg hp]
    exact Or.inr (Or.inl ⟨hoff, rfl, rfl, fun uid ha => absurd ha.2.1 hp⟩)

/-- The end of `deactivate`: the state is only written if the watcher has been stopped. -/
theorem stop_then_off (t : System) (current : KillSwitchState)
    (ht : t.switch = current.switch) :
    ∃ outcome s', (do
        if ← System.stopProcessWatcher then
          System.onManager fun m => m.setState {
            kernelCapable := current.kernelCapable, active := false, interface := none,
            xrayUid := none, watcherState := .stopped, triggered := current.triggered,
            triggerReason := current.triggerReason } : Sys Unit) t = (outcome, s') ∧
      s'.host = t.host ∧
      (t.WatcherEnds ∧ s'.switch = current.switch.off ∨
        ¬t.WatcherEnds ∧ s'.switch = current.switch) ∧ t.Joins outcome := by
  obtain ⟨_, t', hrun, ⟨hhost, hswitch, -, -⟩, hstops⟩ := stopProcessWatcher_spec t
  cases hstops with
  | raised hunstarted =>
    rw [bind_error hrun]
    exact ⟨_, _, rfl, hhost, Or.inr ⟨fun h => h.started hunstarted, hswitch.trans ht⟩,
      .raised hunstarted⟩
  | returned b hstarted hb =>
    rw [bind_ok hrun]
    cases b with
    | true => exact ⟨_, _, rfl, hhost, Or.inl ⟨hb.mp rfl, rfl⟩, .returned hstarted⟩
    | false =>
      exact ⟨_, _, rfl, hhost, Or.inr ⟨fun h => absurd (hb.mpr h) (by simp), hswitch.trans ht⟩,
        .returned hstarted⟩

theorem joins_afterGap {outcome : Except Exc Unit} (h : s.afterGap.Joins outcome) :
    s.Joins outcome := by
  cases h with
  | returned hstarted => exact .returned fun h => hstarted ((afterGap_unstarted s).mpr h)
  | raised hunstarted => exact .raised ((afterGap_unstarted s).mp hunstarted)

/-- **Deactivating a kill-switch that has no rules to remove** leaves the firewall alone. -/
theorem deactivate_soft (h : ¬s.switch.Kernel ∨ s.state.interface = none) :
    ∃ outcome s', System.deactivate s = (outcome, s') ∧ s'.filter = s.filter ∧
      (s.afterGap.WatcherEnds ∧ s'.switch = s.switch.off ∨
        ¬s.afterGap.WatcherEnds ∧ s'.switch = s.switch) ∧ s.Joins outcome := by
  obtain ⟨outcome, s', hrun, hhost, hcases, hjoins⟩ :=
    stop_then_off s.afterGap s.state (afterGap_switch s)
  refine ⟨outcome, s', ?_, congrArg Host.filter hhost, hcases, joins_afterGap s hjoins⟩
  rw [← hrun]
  unfold System.deactivate
  rw [reads_bind_apply, bind_ok (interleave_run s)]
  cases hi : s.state.interface with
  | none => rfl
  | some interface =>
    have hn : ¬(s.state.kernelCapable = true ∧ s.state.active = true) := by
      rcases h with hk | hnone
      · exact fun hk' => hk ⟨hk'.2, hk'.1⟩
      · rw [hi] at hnone
        cases hnone
    simp only [if_neg hn]
    rfl

/-- **Deactivating without a usable UID** gives up at once. -/
theorem deactivate_refused {interface : String} (hk : s.switch.Kernel)
    (hi : s.state.interface = some interface) (hu : uidOf s.state.xrayUid = none) :
    ∃ s', System.deactivate s = (.ok (), s') ∧ s'.filter = s.filter ∧ s'.switch = s.switch := by
  have hk' : s.state.kernelCapable = true ∧ s.state.active = true := ⟨hk.2, hk.1⟩
  obtain ⟨e, he, hex⟩ := removeKillswitchRules_none interface hu
  unfold System.deactivate
  rw [reads_bind_apply, bind_ok (interleave_run s)]
  simp only [hi, if_pos hk', he]
  rw [bind_ok (handle_caught (bind_error (onHost_error (s := s.afterGap) (raise_apply _ _))) hex)]
  exact ⟨_, rfl, rfl, afterGap_switch s⟩

/-- **Deactivating in kernel mode.** The removal fails at once, or it fails half-way and leaves
the OUTPUT rule, or both rules go; only then is the watcher stopped, and only if that succeeds is
the kill-switch off. -/
theorem deactivate_kernel {interface : String} {uid : ℕ} (hk : s.switch.Kernel)
    (hi : s.state.interface = some interface) (hu : uidOf s.state.xrayUid = some uid) :
    ∃ outcome s', System.deactivate s = (outcome, s') ∧
      (¬DeletesInput interface uid s.host ∧ s'.filter = s.filter ∧ s'.switch = s.switch ∧
          outcome = .ok () ∨
        DeletesInput interface uid s.host ∧ ¬DeletesOutput interface uid s.host ∧
          s'.filter = s.filter.removeFirst interface uid ∧ s'.switch = s.switch ∧
          outcome = .ok () ∨
        DeletesInput interface uid s.host ∧ DeletesOutput interface uid s.host ∧
          s'.filter = s.filter.remove interface uid ∧
          (s.afterGap.WatcherEnds ∧ s'.switch = s.switch.off ∨
            ¬s.afterGap.WatcherEnds ∧ s'.switch = s.switch) ∧ s.Joins outcome) := by
  have hk' : s.state.kernelCapable = true ∧ s.state.active = true := ⟨hk.2, hk.1⟩
  unfold System.deactivate
  rw [reads_bind_apply, bind_ok (interleave_run s)]
  simp only [hi, if_pos hk', removeKillswitchRules_some interface hu]
  rcases removeRuleset_cases interface uid s.host with
    ⟨h₁, e, he⟩ | ⟨h₁, h₂, e, he⟩ | ⟨h₁, h₂, he⟩
  · rw [bind_ok (handle_caught (bind_error (onHost_error (s := s.afterGap)
      (mapError_error he))) rfl)]
    exact ⟨_, _, rfl, Or.inl ⟨h₁, rfl, afterGap_switch s, rfl⟩⟩
  · rw [bind_ok (handle_caught (bind_error (onHost_error (s := s.afterGap)
      (mapError_error he))) rfl)]
    exact ⟨_, _, rfl, Or.inr (Or.inl ⟨h₁, h₂, rfl, afterGap_switch s, rfl⟩)⟩
  · rw [bind_ok (handle_ok ((bind_ok (onHost_ok (s := s.afterGap) (mapError_ok he))).trans rfl))]
    obtain ⟨outcome, s', hrun, hhost, hcases, hjoins⟩ := stop_then_off
      { s.afterGap with host := ⟨s.filter.remove interface uid, s.host.fates.tail.tail⟩ }
      s.state (afterGap_switch s)
    have hjoins' : s.afterGap.Joins outcome := by
      cases hjoins with
      | returned hstarted => exact .returned hstarted
      | raised hunstarted => exact .raised hunstarted
    exact ⟨outcome, s', hrun, Or.inr (Or.inr ⟨h₁, h₂, congrArg Host.filter hhost, hcases,
      joins_afterGap s hjoins'⟩)⟩

/-- A `deactivate` removes the rules, if there are any to remove. -/
def System.RemovesRules (s : System) : Prop :=
  s.switch.Kernel → ∀ interface, s.state.interface = some interface →
    ∃ uid, uidOf s.state.xrayUid = some uid ∧ DeletesInput interface uid s.host ∧
      DeletesOutput interface uid s.host

/-- A `deactivate` goes through to the end. -/
def System.Deactivates (s : System) : Prop := s.RemovesRules ∧ s.afterGap.WatcherEnds

/-- How a `deactivate` can end: it raises if it comes to a watcher thread that was never started,
and returns else. -/
inductive System.Leaves (s : System) : Except Exc Unit → Prop
  | returned : ¬(s.RemovesRules ∧ s.Unstarted) → s.Leaves (.ok ())
  | raised : s.RemovesRules → s.Unstarted → s.Leaves (.error cannotJoin)

theorem System.Joins.leaves {s : System} {outcome : Except Exc Unit} (h : s.Joins outcome)
    (hremoves : s.RemovesRules) : s.Leaves outcome := by
  cases h with
  | returned hstarted => exact .returned fun h => hstarted h.2
  | raised hunstarted => exact .raised hremoves hunstarted

/-- **Deactivating** leaves the kill-switch off exactly if it was off or the deactivation goes
through. -/
theorem deactivate_active :
    ∃ outcome s', System.deactivate s = (outcome, s') ∧
      (s'.state.active = false ↔ s.state.active = false ∨ s.Deactivates) ∧ s.Leaves outcome := by
  have hkept {s' : System} (hsw : s'.switch = s.switch) (hno : ¬s.Deactivates) :
      s'.state.active = false ↔ s.state.active = false ∨ s.Deactivates := by
    rw [show s'.state.active = s.state.active from congrArg Switch.active hsw, or_iff_left hno]
  have hoff {s' : System} (hsw : s'.switch = s.switch.off) (h : s.Deactivates) :
      s'.state.active = false ↔ s.state.active = false ∨ s.Deactivates :=
    ⟨fun _ => Or.inr h, fun _ => congrArg Switch.active hsw⟩
  by_cases hsoft : ¬s.switch.Kernel ∨ s.state.interface = none
  · have hremoves : s.RemovesRules := by
      intro hk interface hi
      rcases hsoft with hn | hnone
      · exact absurd hk hn
      · rw [hnone] at hi
        cases hi
    obtain ⟨outcome, s', hrun, -, ⟨hend, hsw⟩ | ⟨hend, hsw⟩, hjoins⟩ := deactivate_soft s hsoft
    · exact ⟨outcome, s', hrun, hoff hsw ⟨hremoves, hend⟩, hjoins.leaves hremoves⟩
    · exact ⟨outcome, s', hrun, hkept hsw fun h => hend h.2, hjoins.leaves hremoves⟩
  · obtain ⟨hk, hsome⟩ := not_or.mp hsoft
    have hk : s.switch.Kernel := not_not.mp hk
    obtain ⟨interface, hi⟩ := Option.ne_none_iff_exists'.mp hsome
    cases hu : uidOf s.state.xrayUid with
    | none =>
      have hnot : ¬s.RemovesRules := fun h => by
        obtain ⟨uid, huid, -⟩ := h hk interface hi
        rw [hu] at huid
        cases huid
      obtain ⟨s', hrun, -, hsw⟩ := deactivate_refused s hk hi hu
      exact ⟨_, s', hrun, hkept hsw fun h => hnot h.1, .returned fun h => hnot h.1⟩
    | some uid =>
      have hdeletes : s.RemovesRules ↔
          DeletesInput interface uid s.host ∧ DeletesOutput interface uid s.host := by
        constructor
        · intro h
          obtain ⟨uid', huid, h₁, h₂⟩ := h hk interface hi
          obtain rfl : uid = uid' := Option.some.inj (hu.symm.trans huid)
          exact ⟨h₁, h₂⟩
        · intro h _ interface' hi'
          obtain rfl : interface = interface' := Option.some.inj (hi.symm.trans hi')
          exact ⟨uid, hu, h⟩
      obtain ⟨outcome, s', hrun, hcases⟩ := deactivate_kernel s hk hi hu
      refine ⟨outcome, s', hrun, ?_⟩
      rcases hcases with ⟨h₁, -, hsw, rfl⟩ | ⟨-, h₂, -, hsw, rfl⟩ |
        ⟨h₁, h₂, -, ⟨hend, hsw⟩ | ⟨hend, hsw⟩, hjoins⟩
      · exact ⟨hkept hsw fun h => h₁ (hdeletes.mp h.1).1,
          .returned fun h => h₁ (hdeletes.mp h.1).1⟩
      · exact ⟨hkept hsw fun h => h₂ (hdeletes.mp h.1).2,
          .returned fun h => h₂ (hdeletes.mp h.1).2⟩
      · exact ⟨hoff hsw ⟨hdeletes.mpr ⟨h₁, h₂⟩, hend⟩, hjoins.leaves (hdeletes.mpr ⟨h₁, h₂⟩)⟩
      · exact ⟨hkept hsw fun h => hend h.2, hjoins.leaves (hdeletes.mpr ⟨h₁, h₂⟩)⟩

theorem raises_deactivate : RaisesExceptions System.deactivate := by
  intro s e s' h
  obtain ⟨outcome, t, hrun, -, hleaves⟩ := deactivate_active s
  rw [hrun] at h
  cases hleaves with
  | returned _ => cases h
  | raised _ _ =>
    cases h
    rfl

/-- The watcher of a kernel-level kill-switch has recorded a trigger. -/
def System.Triggered (s : System) : Prop := s.switch.Kernel ∧ s.state.triggered = true

instance (s : System) : Decidable s.Triggered := by unfold System.Triggered; infer_instance

/-- The first command of a `deactivate` takes effect. -/
def System.Reopens (s : System) : Prop :=
  s.switch.Kernel ∧ ∃ interface uid, s.state.interface = some interface ∧
    uidOf s.state.xrayUid = some uid ∧ DeletesInput interface uid s.host

theorem reopens_congr {s s' : System} (hhost : s'.host = s.host) (hswitch : s'.switch = s.switch) :
    s'.Reopens ↔ s.Reopens := by
  unfold System.Reopens
  rw [hhost, hswitch, show s'.state.interface = _ from congrArg Switch.interface hswitch,
    show s'.state.xrayUid = _ from congrArg Switch.xrayUid hswitch]
  exact Iff.rfl

/-- A `deactivate` that would remove the rules and has none to remove finds none later either. -/
theorem deactivate_spares {s : System} (hnot : ¬s.Reopens) (hremoves : s.RemovesRules) :
    ¬(System.deactivate s).2.Reopens := by
  have hsoft : ¬s.switch.Kernel ∨ s.state.interface = none := by
    by_contra h
    obtain ⟨hk, hsome⟩ := not_or.mp h
    obtain ⟨interface, hi⟩ := Option.ne_none_iff_exists'.mp hsome
    obtain ⟨uid, hu, hdeletes, -⟩ := hremoves (not_not.mp hk) interface hi
    exact hnot ⟨not_not.mp hk, interface, uid, hi, hu, hdeletes⟩
  obtain ⟨_, s', hrun, -, hcases, -⟩ := deactivate_soft s hsoft
  rw [hrun]
  rintro ⟨hk, interface, -, hi, -⟩
  rcases hcases with ⟨-, hsw⟩ | ⟨-, hsw⟩
  · exact absurd hk.1 (by rw [hsw]; simp [Switch.off])
  · rcases hsoft with hn | hnone
    · exact hn (hsw ▸ hk)
    · have hi' : s.state.interface = some interface :=
        (congrArg Switch.interface hsw).symm.trans hi
      rw [hnone] at hi'
      cases hi'

/-- **Deactivating** leaves the firewall alone, unless its first command takes effect and the INPUT
chain has an entry less. -/
theorem deactivate_filter :
    ¬s.Reopens ∧ (System.deactivate s).2.filter = s.filter ∨
    s.Reopens ∧ (System.deactivate s).2.filter.input.length < s.filter.input.length := by
  by_cases hsoft : ¬s.switch.Kernel ∨ s.state.interface = none
  · obtain ⟨_, s', hrun, hfilter, -⟩ := deactivate_soft s hsoft
    rw [hrun]
    refine Or.inl ⟨?_, hfilter⟩
    rintro ⟨hk, interface, -, hi, -⟩
    rcases hsoft with hn | hnone
    · exact hn hk
    · rw [hnone] at hi
      cases hi
  · obtain ⟨hk, hsome⟩ := not_or.mp hsoft
    have hk : s.switch.Kernel := not_not.mp hk
    obtain ⟨interface, hi⟩ := Option.ne_none_iff_exists'.mp hsome
    cases hu : uidOf s.state.xrayUid with
    | none =>
      obtain ⟨s', hrun, hfilter, -⟩ := deactivate_refused s hk hi hu
      rw [hrun]
      refine Or.inl ⟨?_, hfilter⟩
      rintro ⟨-, -, uid, -, huid, -⟩
      rw [hu] at huid
      cases huid
    | some uid =>
      have hreopens : s.Reopens ↔ DeletesInput interface uid s.host := by
        constructor
        · rintro ⟨-, interface', uid', hi', hu', h⟩
          obtain rfl : interface = interface' := Option.some.inj (hi.symm.trans hi')
          obtain rfl : uid = uid' := Option.some.inj (hu.symm.trans hu')
          exact h
        · exact fun h => ⟨hk, interface, uid, hi, hu, h⟩
      obtain ⟨_, s', hrun, hcases⟩ := deactivate_kernel s hk hi hu
      rw [hrun, hreopens]
      rcases hcases with ⟨h₁, hfilter, -⟩ | ⟨h₁, -, hfilter, -⟩ | ⟨h₁, -, hfilter, -⟩
      · exact Or.inl ⟨h₁, hfilter⟩
      · refine Or.inr ⟨h₁, ?_⟩
        rw [hfilter]
        exact length_delete_lt h₁.2
      · refine Or.inr ⟨h₁, ?_⟩
        rw [hfilter]
        exact length_delete_lt h₁.2

/-- **The other calls** change neither the firewall nor the switch, so what `activate` and
`deactivate` keep of the two is kept by every call. -/
theorem step_keeps {I : Filter → Switch → Prop} {s : System} (c : Call) (h : I s.filter s.switch)
    (hactivate : ∀ interface xrayUid, c = .activate interface xrayUid →
      I (System.activate interface xrayUid s).2.filter (System.activate interface xrayUid s).2.switch)
    (hdeactivate : c = .deactivate →
      I (System.deactivate s).2.filter (System.deactivate s).2.switch) :
    I (c.step s).filter (c.step s).switch := by
  cases c with
  | activate interface xrayUid => exact hactivate interface xrayUid rfl
  | deactivate => exact hdeactivate rfl
  | startProcessWatcher intervalSeconds =>
    obtain ⟨hh, hs⟩ := startProcessWatcher_spec s intervalSeconds
    show I (System.startProcessWatcher intervalSeconds s).2.host.filter _
    rw [hh]
    exact hs ▸ h
  | stopProcessWatcher =>
    obtain ⟨_, s', hrun, ⟨hh, hs, -, -⟩, -⟩ := stopProcessWatcher_spec s
    show I (System.stopProcessWatcher s).2.host.filter (System.stopProcessWatcher s).2.switch
    rw [hrun, hh, hs]
    exact h
  | pause =>
    show I s.filter s.afterGap.switch
    rw [afterGap_switch]
    exact h

end Specs

/-- A fresh manager on a firewall with the rules of others. -/
def System.fresh (output input : List Rule) (fates : Stream' Fate)
    (probes prints starts joins : Stream' Bool) (gaps : Stream' (List WatcherStep)) : System where
  manager := .init
  host := ⟨⟨output.map (⟨·, false⟩), input.map (⟨·, false⟩)⟩, fates⟩
  probes
  prints
  starts
  joins
  gaps

/-! ## No orphaned rule -/

/-- An environment in which the probe succeeds, texts are printed, threads start, and the watcher
never interferes. -/
abbrev System.freshWith (fates : Stream' Fate) (joins : Stream' Bool) : System :=
  .fresh [] [] fates (Stream'.const true) (Stream'.const true) (Stream'.const true) joins
    (Stream'.const [])

/-- No entry of the chain was inserted by the kill-switch. -/
def Chain.OwnFree (c : Chain) : Prop := ∀ e ∈ c, e.own = false

def Filter.OwnFree (f : Filter) : Prop := f.output.OwnFree ∧ f.input.OwnFree

instance (c : Chain) : Decidable c.OwnFree := by unfold Chain.OwnFree; infer_instance
instance (f : Filter) : Decidable f.OwnFree := by unfold Filter.OwnFree; infer_instance

/-- No entry of the chain is the kill-switch's own, but for one of `rule` at its head. -/
def Chain.OwnAtMost (c : Chain) (rule : Rule) : Prop :=
  c.OwnFree ∨ ∃ c' : Chain, c = ⟨rule, true⟩ :: c' ∧ c'.OwnFree

theorem ownFree_map (rules : List Rule) :
    Chain.OwnFree (rules.map fun rule => (⟨rule, false⟩ : Entry)) := by
  intro e he
  obtain ⟨rule, -, rfl⟩ := List.mem_map.mp he
  rfl

theorem Chain.OwnFree.delete {c : Chain} (h : c.OwnFree) (rule : Rule) :
    (c.delete rule).OwnFree := fun e he => h e (List.mem_of_mem_eraseP he)

/-- Deleting the rule of the one own entry leaves none. -/
theorem Chain.OwnAtMost.delete {c : Chain} {rule : Rule} (h : c.OwnAtMost rule) :
    (c.delete rule).OwnFree := by
  rcases h with h | ⟨c', rfl, h⟩
  · exact h.delete rule
  · have : Chain.delete (⟨rule, true⟩ :: c') rule = c' := by simp [Chain.delete]
    rw [this]
    exact h

/-- The kill-switch is off or in software mode only without own rules in the chains. -/
def System.NoOrphan (s : System) : Prop :=
  s.state.active = false ∨ s.state.kernelCapable = false → s.filter.OwnFree

/-- What the firewall holds of the kill-switch's rules, by mode. -/
structure Owned (f : Filter) (sw : Switch) : Prop where
  soft : ¬sw.Kernel → f.OwnFree
  kernel : sw.Kernel → ∃ interface uid, sw.interface = some interface ∧
    uidOf sw.xrayUid = some uid ∧ interface ≠ "-I" ∧
    f.output.OwnAtMost (outputRule interface uid) ∧ f.input.OwnAtMost (inputRule interface uid)

theorem Owned.noOrphan {s : System} (h : Owned s.filter s.switch) : s.NoOrphan := by
  intro hs
  refine h.soft fun hk => ?_
  rcases hs with hs | hs
  · exact absurd hk.1 (by simp [KillSwitchState.switch, hs])
  · exact absurd hk.2 (by simp [KillSwitchState.switch, hs])

theorem Owned.fresh (output input : List Rule) (fates : Stream' Fate)
    (probes prints starts joins : Stream' Bool) (gaps : Stream' (List WatcherStep)) :
    Owned (System.fresh output input fates probes prints starts joins gaps).filter
      (System.fresh output input fates probes prints starts joins gaps).switch where
  soft := fun _ => ⟨ownFree_map output, ownFree_map input⟩
  kernel := fun hk => absurd hk.1 Bool.false_ne_true

/-- An `activate` that runs its first command also runs its second and prints that the rules are
there, and the interface is not named like the flag that the removal replaces. -/
def ActivatesWhole (s : System) : Call → Prop
  | .activate interface xrayUid => ∀ uid, s.Applies xrayUid uid → s.host.fates.head = .runs →
      s.host.fates.tail.head = .runs ∧ s.prints.head = true ∧ interface ≠ "-I"
  | _ => True

theorem not_kernel_of_inactive {s : System} (h : s.state.active = false) : ¬s.switch.Kernel :=
  fun hk => absurd hk.1 (by simp [KillSwitchState.switch, h])

theorem not_kernel_off (sw : Switch) : ¬sw.off.Kernel := fun hk => absurd hk.1 (by simp [Switch.off])

theorem owned_activate {s : System} {interface : String} {xrayUid : Option ℤ}
    (h : Owned s.filter s.switch) (hok : ActivatesWhole s (.activate interface xrayUid)) :
    Owned (System.activate interface xrayUid s).2.filter
      (System.activate interface xrayUid s).2.switch := by
  rcases activate_cases s interface xrayUid with
    ⟨-, hf, hsw⟩ | ⟨hoff, hsw, hf, -⟩ | ⟨-, uid, ha, h₁, h₂, -⟩ | ⟨-, uid, ha, h₁, -, hprint, -⟩ |
      ⟨hsw, uid, ha, h₁, -, -, hf⟩
  · rw [hf, hsw]; exact h
  · rw [hf, hsw]
    exact ⟨fun _ => h.soft (not_kernel_of_inactive hoff), fun hk => absurd hk.2 (by simp [Switch.on])⟩
  · exact absurd (hok uid ha h₁).1 h₂
  · rw [(hok uid ha h₁).2.1] at hprint
    cases hprint
  · obtain ⟨ho, hi⟩ := h.soft (not_kernel_of_inactive ha.1)
    rw [hf, hsw]
    exact ⟨fun hk => absurd ⟨rfl, rfl⟩ hk, fun _ => ⟨interface, uid, rfl, ha.2.2, (hok uid ha h₁).2.2,
      Or.inr ⟨_, rfl, ho⟩, Or.inr ⟨_, rfl, hi⟩⟩⟩

theorem owned_deactivate {s : System} (h : Owned s.filter s.switch) :
    Owned (System.deactivate s).2.filter (System.deactivate s).2.switch := by
  by_cases hk : s.switch.Kernel
  · obtain ⟨interface, uid, hi, hu, hne, ho, hin⟩ := h.kernel hk
    have hdel : deletedInterface interface = interface := if_neg hne
    obtain ⟨_, s', hrun, hcases⟩ := deactivate_kernel s hk hi hu
    have hfirst : Owned (s.filter.removeFirst interface uid) s.switch := by
      refine ⟨fun hn => absurd hk hn, fun _ => ⟨interface, uid, hi, hu, hne, ho, Or.inl ?_⟩⟩
      show (Chain.delete _ (inputRule (deletedInterface interface) uid)).OwnFree
      rw [hdel]
      exact hin.delete
    have hgone : (s.filter.remove interface uid).OwnFree := by
      show (Chain.delete _ (outputRule (deletedInterface interface) uid)).OwnFree ∧
        (Chain.delete _ (inputRule (deletedInterface interface) uid)).OwnFree
      rw [hdel]
      exact ⟨ho.delete, hin.delete⟩
    rw [hrun]
    rcases hcases with ⟨-, hf, hsw, -⟩ | ⟨-, -, hf, hsw, -⟩ | ⟨-, -, hf, ⟨-, hsw⟩ | ⟨-, hsw⟩, -⟩
    · rw [hf, hsw]; exact h
    · rw [hf, hsw]; exact hfirst
    · rw [hf, hsw]
      exact ⟨fun _ => hgone, fun hk => absurd hk (not_kernel_off _)⟩
    · rw [hf, hsw]
      exact ⟨fun _ => hgone, fun _ => ⟨interface, uid, hi, hu, hne, Or.inl hgone.1, Or.inl hgone.2⟩⟩
  · obtain ⟨_, s', hrun, hf, ⟨-, hsw⟩ | ⟨-, hsw⟩, -⟩ := deactivate_soft s (Or.inl hk)
    · rw [hrun, hf, hsw]
      exact ⟨fun _ => h.soft hk, fun hk => absurd hk (not_kernel_off _)⟩
    · rw [hrun, hf, hsw]; exact h

theorem owned_step (s : System) (c : Call) (h : Owned s.filter s.switch)
    (hok : ActivatesWhole s c) : Owned (c.step s).filter (c.step s).switch := by
  refine step_keeps c h (fun interface xrayUid hc => ?_) fun _ => ?_
  · exact owned_activate h (hc ▸ hok)
  · exact owned_deactivate h

/-- **No orphaned rule.** In a run whose activations apply both rules and say so, or apply none, a
kill-switch that is off or in software mode has no rule of its own in the chains. -/
theorem noOrphan_of_runs (output input : List Rule) (fates : Stream' Fate)
    (probes prints starts joins : Stream' Bool) (gaps : Stream' (List WatcherStep))
    (calls : List Call)
    (hok : Each Call.step ActivatesWhole
      (System.fresh output input fates probes prints starts joins gaps) calls) :
    (runAll Call.step (System.fresh output input fates probes prints starts joins gaps)
      calls).NoOrphan :=
  Owned.noOrphan (hok.invariant (fun s c h => owned_step s c h) (Owned.fresh ..))

/-- An activation and a deactivation that run all their commands. -/
theorem noOrphan_of_whole_run :
    (runAll Call.step (.freshWith (Stream'.const .runs) (Stream'.const true))
      [.activate "eth0" (some 1000), .deactivate]).NoOrphan :=
  noOrphan_of_runs [] [] (Stream'.const .runs) (Stream'.const true) (Stream'.const true)
    (Stream'.const true) (Stream'.const true) (Stream'.const []) _
    ⟨fun _ _ _ => ⟨rfl, rfl, by decide⟩, trivial, trivial⟩

/-- **The orphan.** The first command of an activation takes effect and the second fails: the
kill-switch falls back to software mode and its OUTPUT rule stays. -/
theorem orphan_of_failed_activate :
    ¬∀ (output input : List Rule) (fates : Stream' Fate)
      (probes prints starts joins : Stream' Bool) (gaps : Stream' (List WatcherStep))
      (calls : List Call),
      (runAll Call.step (System.fresh output input fates probes prints starts joins gaps)
        calls).NoOrphan := by
  intro h
  have := h [] [] (.cons .runs (.cons .nonZero (.const .runs))) (.const true) (.const true)
    (.const true) (.const true) (.const []) [.activate "eth0" (some 1000)] (Or.inr (by decide))
  revert this
  decide

/-- Another way to an orphan: both rules are there, and the interface is named like the end of a
style that was not begun, so the text that tells of the rules cannot be printed. -/
theorem orphan_of_markup :
    ¬(runAll Call.step (.fresh [] [] (.const .runs) (.const true) (.const false) (.const true)
        (.const true) (.const []))
      [.activate "[/x]" (some 1000), .deactivate]).NoOrphan := by
  intro h
  have := h (Or.inl (by decide))
  revert this
  decide

/-- The third way to an orphan: the removal for an interface named `-I` deletes the rules of an
interface named `-D`, if somebody has put them there. -/
theorem orphan_of_flag_interface :
    ¬(runAll Call.step (.fresh [outputRule "-D" 1000] [inputRule "-D" 1000] (.const .runs)
        (.const true) (.const true) (.const true) (.const true) (.const []))
      [.activate "-I" (some 1000), .deactivate]).NoOrphan := by
  intro h
  have := h (Or.inl (by decide))
  revert this
  decide

/-! ## A kernel-level kill-switch has its rules -/

/-- In kernel mode both rules of the state's interface and UID are in their chains. -/
def RulesPresent (f : Filter) (sw : Switch) : Prop :=
  sw.Kernel → ∃ interface uid, sw.interface = some interface ∧ uidOf sw.xrayUid = some uid ∧
    outputRule interface uid ∈ f.output.rules ∧ inputRule interface uid ∈ f.input.rules

/-- A `deactivate` that runs its first deletion also runs its second and stops the watcher. -/
def DeactivatesWhole (s : System) : Call → Prop
  | .deactivate => s.switch.Kernel → s.host.fates.head = .runs →
      s.host.fates.tail.head = .runs ∧ s.afterGap.WatcherEnds
  | _ => True

theorem rulesPresent_of_not_kernel {f : Filter} {sw : Switch} (h : ¬sw.Kernel) :
    RulesPresent f sw := fun hk => absurd hk h

theorem rulesPresent_activate {s : System} (interface : String) (xrayUid : Option ℤ)
    (h : RulesPresent s.filter s.switch) :
    RulesPresent (System.activate interface xrayUid s).2.filter
      (System.activate interface xrayUid s).2.switch := by
  have hsoft : ¬(Switch.on false interface xrayUid).Kernel := fun hk => by cases hk.2
  rcases activate_cases s interface xrayUid with
    ⟨-, hf, hsw⟩ | ⟨-, hsw, -⟩ | ⟨hsw, -⟩ | ⟨hsw, -⟩ | ⟨hsw, uid, ha, -, -, -, hf⟩
  · rw [hf, hsw]; exact h
  · rw [hsw]; exact rulesPresent_of_not_kernel hsoft
  · rw [hsw]; exact rulesPresent_of_not_kernel hsoft
  · rw [hsw]; exact rulesPresent_of_not_kernel hsoft
  · rw [hf, hsw]
    exact fun _ => ⟨interface, uid, rfl, ha.2.2, List.mem_cons_self, List.mem_cons_self⟩

/-- The deletions of an interface leave the rules of another one. -/
theorem mem_rules_delete {c : Chain} {rule rule' : Rule} (h : rule ∈ c.rules) (hne : rule ≠ rule') :
    rule ∈ (c.delete rule').rules := by
  obtain ⟨e, he, rfl⟩ := List.mem_map.mp h
  exact List.mem_map.mpr ⟨e, (List.mem_eraseP_of_neg (by simpa using hne)).mpr he, rfl⟩

theorem rulesPresent_deactivate {s : System} (h : RulesPresent s.filter s.switch)
    (hok : DeactivatesWhole s .deactivate) :
    RulesPresent (System.deactivate s).2.filter (System.deactivate s).2.switch := by
  by_cases hk : s.switch.Kernel
  · obtain ⟨interface, uid, hi, hu, ho, hin⟩ := h hk
    obtain ⟨_, s', hrun, hcases⟩ := deactivate_kernel s hk hi hu
    rw [hrun]
    rcases hcases with ⟨-, hf, hsw, -⟩ | ⟨h₁, h₂, hf, hsw, -⟩ |
      ⟨h₁, -, -, ⟨-, hsw⟩ | ⟨hend, -⟩, -⟩
    · rw [hf, hsw]; exact h
    · -- the OUTPUT deletion ran, so it failed for a rule of another interface
      have hne : deletedInterface interface ≠ interface := by
        intro he
        exact h₂ ⟨(hok hk h₁.1).1, by rw [he]; exact ho⟩
      rw [hf, hsw]
      refine fun _ => ⟨interface, uid, hi, hu, ho, mem_rules_delete hin ?_⟩
      simpa [inputRule] using hne.symm
    · rw [hsw]; exact rulesPresent_of_not_kernel (not_kernel_off _)
    · exact absurd (hok hk h₁.1).2 hend
  · obtain ⟨_, s', hrun, hf, ⟨-, hsw⟩ | ⟨-, hsw⟩, -⟩ := deactivate_soft s (Or.inl hk)
    · rw [hrun, hsw]; exact rulesPresent_of_not_kernel (not_kernel_off _)
    · rw [hrun, hf, hsw]; exact h

theorem rulesPresent_step (s : System) (c : Call) (h : RulesPresent s.filter s.switch)
    (hok : DeactivatesWhole s c) : RulesPresent (c.step s).filter (c.step s).switch := by
  refine step_keeps c h (fun interface xrayUid _ => ?_) fun hc => ?_
  · exact rulesPresent_activate interface xrayUid h
  · exact rulesPresent_deactivate h (hc ▸ hok)

/-- **Active means closed.** In a run whose deactivations, once they delete a rule, go through to
the end, a kernel-level kill-switch has both its rules in the chains. -/
theorem rulesPresent_of_runs (output input : List Rule) (fates : Stream' Fate)
    (probes prints starts joins : Stream' Bool) (gaps : Stream' (List WatcherStep))
    (calls : List Call)
    (hok : Each Call.step DeactivatesWhole
      (System.fresh output input fates probes prints starts joins gaps) calls) :
    let s := runAll Call.step
      (System.fresh output input fates probes prints starts joins gaps) calls
    RulesPresent s.filter s.switch :=
  hok.invariant (fun s c h => rulesPresent_step s c h)
    (rulesPresent_of_not_kernel fun hk => absurd hk.1 Bool.false_ne_true)

/-- A deactivation that fails at its first command keeps both rules. -/
theorem rulesPresent_of_refused_run :
    let s := runAll Call.step
      (.freshWith (.cons .runs (.cons .runs (.cons .nonZero (.const .runs)))) (.const true))
      [.activate "eth0" (some 1000), .deactivate]
    RulesPresent s.filter s.switch :=
  rulesPresent_of_runs [] [] _ (.const true) (.const true) (.const true) (.const true) (.const []) _
    ⟨trivial, fun _ h => absurd h (by decide), trivial⟩

/-- **The open switch.** A deactivation deletes the INPUT rule, fails at the OUTPUT rule and
keeps a kernel-level kill-switch active. -/
theorem open_after_failed_deactivate :
    ¬∀ (output input : List Rule) (fates : Stream' Fate)
      (probes prints starts joins : Stream' Bool) (gaps : Stream' (List WatcherStep))
      (calls : List Call),
      let s := runAll Call.step
        (System.fresh output input fates probes prints starts joins gaps) calls
      RulesPresent s.filter s.switch := by
  intro h
  obtain ⟨interface, uid, -, -, -, hin⟩ := h [] []
    (.cons .runs (.cons .runs (.cons .runs (.cons .nonZero (.const .runs))))) (.const true)
    (.const true) (.const true) (.const true) (.const [])
    [.activate "eth0" (some 1000), .deactivate] (by decide)
  have hempty : (runAll Call.step
      (System.fresh [] [] (.cons .runs (.cons .runs (.cons .runs (.cons .nonZero (.const .runs)))))
        (.const true) (.const true) (.const true) (.const true) (.const []))
      [.activate "eth0" (some 1000), .deactivate]).filter.input = [] := by decide
  rw [hempty] at hin
  cases hin

end Bimarz.KillSwitch
