import Bimarz.Connection.Cancel
import Bimarz.Connection.Frames

/-!
# What PROCESS_STOPPED says

Whoever listens to the events of a connection hears PROCESS_STOPPED while xray-core runs or after
it has ended. `truthful_iff` says in which runs of `async with` it is always the second: `cleanup`
emits the event whenever `ProcessService.stop` returns, and that one returns also if the handle of
the process was given up before, by a `start` or a rollback that had failed.
-/

namespace Bimarz.Connection

open Effect Effect.Act

/-! ## A listener -/

/-- The world, and for each PROCESS_STOPPED event so far whether xray-core ran when it was
emitted. -/
structure Observed where
  world : World
  stops : List Bool := []

/-- A program of the world, while the listener waits. -/
def watched {α : Type} (m : Act Exc World α) : Act Exc Observed α :=
  zoom Observed.world (fun world o => { o with world }) m

/-- What the listener notes down of an event. -/
def Observed.note (o : Observed) (event : ConnectionEvent) : Observed :=
  if event = .processStopped then { o with stops := o.stops ++ [o.world.running] } else o

/-- The default services, with a listener as the event handler. -/
def observed (config : AppConfig) : Services Observed where
  config
  processStart profile := watched ((services config).processStart profile)
  isRunning := watched (services config).isRunning
  processStop := watched (services config).processStop
  connect := watched (services config).connect
  addOutbound profile := watched ((services config).addOutbound profile)
  removeOutbound := watched (services config).removeOutbound
  close := watched (services config).close
  hasEngine o := (services config).hasEngine o.world
  enable interface := watched ((services config).enable interface)
  disable := watched (services config).disable
  startWatcher := watched (services config).startWatcher
  stopWatcher := watched (services config).stopWatcher
  isActive := watched (services config).isActive
  isWatcherAlive := watched (services config).isWatcherAlive
  addSignalHandler sig := watched ((services config).addSignalHandler sig)
  removeSignalHandler sig := watched ((services config).removeSignalHandler sig)
  checkAllProfiles profiles := watched ((services config).checkAllProfiles profiles)
  now := watched (services config).now
  clearStop o := { o with world := (services config).clearStop o.world }
  stopIsSet := watched (services config).stopIsSet
  waitStop timeout := watched ((services config).waitStop timeout)
  eventHandler := some fun event _ => do
    modify fun o => o.note event
    watched do let _ ← external id

/-- xray-core did not run at any PROCESS_STOPPED event. -/
def Truthful (s : ConnectionService Observed) : Prop := ∀ ran ∈ s.world.stops, ran = false

/-! ## Events that are not PROCESS_STOPPED -/

section Deaf

variable {W : Type}

/-- The same services with a handler that is not told about PROCESS_STOPPED. -/
def Services.deaf (svc : Services W) : Services W :=
  { svc with
    eventHandler := svc.eventHandler.map fun handler event payload =>
      if event = .processStopped then pure () else handler event payload }

theorem emit_deaf (svc : Services W) {event : ConnectionEvent} (hevent : event ≠ .processStopped)
    (payload : EventPayload) : emit svc.deaf event payload = emit svc event payload := by
  unfold emit Services.deaf
  cases svc.eventHandler with
  | none => rfl
  | some handler => simp only [Option.map_some, if_neg hevent]

/-- The `try` block of `start` emits no PROCESS_STOPPED. -/
theorem startBody_deaf (svc : Services W) (n : ℕ) (profile : ServerProfile)
    (autoFailover killswitch : Bool) (allProfiles : Option (List ServerProfile)) :
    startBody svc.deaf n profile autoFailover killswitch allProfiles =
      startBody svc n profile autoFailover killswitch allProfiles := by
  have hacquire : acquire svc.deaf profile killswitch = acquire svc profile killswitch := by
    unfold acquire
    simp only [emit_deaf svc (by decide : ConnectionEvent.engineReady ≠ .processStopped),
      emit_deaf svc (by decide : ConnectionEvent.killswitchEnabled ≠ .processStopped)]
    rfl
  have hround (timeout : ℚ) : watchRound svc.deaf timeout = watchRound svc timeout := by
    unfold watchRound
    simp only [emit_deaf svc (by decide : ConnectionEvent.killswitchWatcherDied ≠ .processStopped)]
    rfl
  have hwatch : watchLoop svc.deaf n = watchLoop svc n := by
    unfold watchLoop
    simp only [hround]
    rfl
  have hfailover (profileMap : Dict String ServerProfile)
      (results : Dict String HealthCheckResult) :
      failover svc.deaf profileMap results = failover svc profileMap results := by
    unfold failover switchTo
    simp only [emit_deaf svc (by decide : ConnectionEvent.error ≠ .processStopped),
      emit_deaf svc (by decide : ConnectionEvent.failoverTriggered ≠ .processStopped)]
    rfl
  have hloop (initial : ServerProfile) (all : List ServerProfile) :
      failoverLoop svc.deaf n initial all = failoverLoop svc n initial all := by
    unfold failoverLoop failoverRound
    simp only [hfailover, hround]
    rfl
  unfold startBody
  simp only [hacquire, hwatch, hloop]

end Deaf

/-! ## The handle of the process -/

section Handle

theorem aside_process : Aside World.process := fun _ _ _ _ _ _ => rfl

theorem process_onKillswitch {α : Type} (m : Act Exc KillSwitch.System α) :
    Frames World.process (onKillswitch m) := fun _ => rfl

/-- What observes a connection leaves the handle alone. -/
theorem process_observe (config : AppConfig) {α : Type} {m : Act Exc World α}
    (h : Observes (services config) m) : Frames World.process m := by
  cases h with
  | isRunning => exact Frames.bind aside_process.ask fun _ => Frames.reads _
  | isActive => exact process_onKillswitch _
  | isWatcherAlive => exact process_onKillswitch _
  | checkAllProfiles profiles => exact aside_process.checkAllProfiles profiles
  | now => exact Frames.bind aside_process.ask fun _ => Frames.pure _
  | stopIsSet => exact Frames.bind aside_process.ask fun _ => Frames.pure _
  | waitStop timeout => exact aside_process.call_then fun _ => Frames.pure _
  | addSignalHandler sig => exact aside_process.call_then fun _ => Frames.pure _
  | eventHandler h event payload =>
    cases h
    exact aside_process.call_then fun _ => Frames.pure _

theorem cleanupRuntime_process : Frames World.process cleanupRuntime := aside_process.cleanupRuntime

/-- A start that returns has the handle, and one that raises has given it up. -/
theorem processStart_handle :
    Triple (fun _ => True) processStart (fun _ w => w.process = true)
      (fun _ w => w.process = false) := by
  have hkept {α : Type} {m : Act Exc World α} (hm : Frames World.process m) :
      Keeps (fun w => w.process = false) m := hm.keeps_eq false
  have hcall {effect : World → World} (heffect : ∀ w, (effect w).process = w.process) :
      Keeps (fun w => w.process = false) (external effect) :=
    hkept (aside_process.external fun w _ => heffect w)
  rintro w -
  unfold processStart processStartWith
  rw [reads_bind_apply, ite_run]
  cases hw : w.process with
  | true =>
    rw [if_pos rfl]
    exact hw
  | false =>
    rw [if_neg (by decide)]
    have hrest : Triple (fun w : World => w.process = false) (do
        let _ ← external fun w => { w with runtimeDir := true }
        handle Exc.isException
          (do
            let _ ← external id
            xrayStart
            modify fun w => { w with process := true })
          (fun e => do
            modify fun w => { w with process := false }
            cleanupRuntime
            raise e)) (fun _ w => w.process = true) (fun _ w => w.process = false) := by
      refine Triple.bind (hcall fun _ => rfl) fun _ => ?_
      refine Triple.handle (F := fun _ w => w.process = false) ?_ (fun e _ => ?_)
        fun _ _ _ hw => hw
      · refine Triple.bind (hcall fun _ => rfl) fun _ => ?_
        refine Triple.bind (R := fun _ w => w.process = false) (hkept aside_process.xrayStart)
          fun _ => Triple.modify fun _ _ => rfl
      · refine Triple.bind (R := fun _ w => w.process = false) (Triple.modify fun _ _ => rfl)
          fun _ => ?_
        exact Triple.bind (R := fun _ w => w.process = false) (hkept cleanupRuntime_process)
          fun _ => Triple.raise fun _ hw => hw
    refine Triple.bind (P := fun w : World => w.process = false)
      (R := fun _ w => w.process = false) (Q := fun _ w => w.process = true)
      (E := fun _ w => w.process = false) (@hcall id fun _ => rfl)
      (fun binary => ?_) w hw
    refine Triple.ite (fun _ => ?_) fun _ => hrest
    exact Triple.bind (R := fun _ _ => False) (Triple.raise fun _ hw => hw)
      fun _ _ hw => hw.elim

theorem keeps_ended_ask : Keeps (fun w : World => w.running = false) ask := by
  refine Keeps.bind (Keeps.reads _) fun answer => ?_
  refine Keeps.bind (Keeps.modify fun w hw => ?_) fun _ => Keeps.pure _
  show (w.running && !answer.crash) = false
  rw [hw]
  rfl

/-- With the handle, a stop that returns has ended the process. -/
theorem processStop_ends :
    Triple (fun w => w.process = true) processStop (fun _ w => w.running = false)
      (fun _ _ => True) := by
  have hstop : Triple (fun _ => True) xrayStop (fun _ w => w.running = false)
      (fun _ _ => True) := by
    have hany {m : Act Exc World Answer} : Keeps (fun _ => True) m := Keeps.of_run fun _ h => h
    have hclose : Keeps (fun w : World => w.running = false) closeStreams := by
      refine Keeps.bind (external_triple keeps_ended_ask fun _ _ _ hw => hw) fun drained => ?_
      exact Keeps.ite (Keeps.modify fun _ _ => rfl) (Keeps.pure _)
    refine Triple.bind (R := fun _ _ => True) hany fun _ => ?_
    refine Triple.ensure (R := fun _ w => w.running = false) (F := fun _ _ => True) ?_
      (fun _ => hclose.returns) fun _ => Keeps.of_run fun _ h => h
    refine Triple.bind (R := fun _ _ => True) hany fun waited => ?_
    refine Triple.ite (fun _ => ?_) fun _ => ?_
    · exact Triple.modify fun _ _ => rfl
    · refine Triple.bind (R := fun _ w => w.running = false) ?_ fun _ => Triple.pure fun _ hw => hw
      exact (external_triple (Q := fun _ w => w.running = false) hany fun _ _ _ _ => rfl)
  have hruntime : Keeps (fun w : World => w.running = false) cleanupRuntime := by
    refine Keeps.bind (Keeps.reads _) fun _ => ?_
    refine Keeps.bind (Keeps.modify fun _ hw => hw) fun _ => ?_
    refine Keeps.ite (Keeps.bind ?_ fun _ => Keeps.pure _) (Keeps.pure _)
    exact external_triple keeps_ended_ask fun _ _ _ hw => hw
  intro w hw
  unfold processStop
  rw [reads_bind_apply, hw, modify_bind_apply, if_pos rfl]
  refine Triple.ensure (P := fun _ => True) (E := fun _ _ => True) hstop (fun _ => ?_)
    (fun _ => Keeps.of_run fun _ h => h) _ trivial
  exact hruntime.mono_error fun _ _ _ => trivial

theorem external_raises (effect : World → World) {w : World} {e : Exc}
    (h : w.answers.head.failure = some e) : ∃ w', external effect w = (.error e, w') := by
  have hask : (ask w).1 = .ok w.answers.head := rfl
  unfold external
  rcases hrun : ask w with ⟨r, w'⟩
  rw [hrun] at hask
  cases hask
  rw [bind_ok hrun, h]
  exact ⟨w', rfl⟩

theorem external_returns {w : World} (h : w.answers.head.failure = none) :
    ∃ w', external id w = (.ok w.answers.head, w') ∧
      w'.running = (w.running && !w.answers.head.crash) := by
  have hask : (ask w).1 = .ok w.answers.head ∧
      (ask w).2.running = (w.running && !w.answers.head.crash) := ⟨rfl, rfl⟩
  unfold external
  rcases hrun : ask w with ⟨r, w'⟩
  rw [hrun] at hask
  obtain ⟨hok, hran⟩ := hask
  cases hok
  rw [bind_ok hrun, h]
  exact ⟨_, rfl, hran⟩

/-- Without the handle a stop only removes a leftover runtime directory, and reports a process that
still runs as stopped. -/
def Misreports (w : World) : Prop :=
  w.process = false ∧ w.running = true ∧
    (w.runtimeDir = true → w.answers.head.failure = none ∧ w.answers.head.crash = false)

theorem processStart_of_handle {w : World} (h : w.process = true) :
    processStart w = (.ok (), w) := by
  unfold processStart processStartWith
  rw [reads_bind_apply, ite_run, if_pos h]
  rfl

theorem processStop_vacuous {w : World} (h : w.process = false) :
    (∃ e w', processStop w = (.error e, w') ∧ ¬Misreports w) ∨
      ∃ w', processStop w = (.ok (), w') ∧ (w'.running = true ↔ Misreports w) := by
  have hstop : processStop w = cleanupRuntime w := by
    obtain ⟨answers, process, runtimeDir, engine, running, registered, killswitch, history⟩ := w
    cases h
    unfold processStop
    rw [reads_bind_apply, modify_bind_apply, if_neg Bool.false_ne_true]
    unfold ensure
    simp only [pure_apply]
    rcases cleanupRuntime _ with ⟨e | u, w'⟩ <;> rfl
  rw [hstop]
  cases hdir : w.runtimeDir with
  | false =>
    refine Or.inr ⟨{ w with runtimeDir := false }, ?_, ?_⟩
    · unfold cleanupRuntime
      rw [reads_bind_apply, hdir, modify_bind_apply]
      rfl
    · simp [Misreports, h, hdir]
  | true =>
    have hrun : cleanupRuntime w =
        (external id >>= fun _ => pure ()) { w with runtimeDir := false } := by
      unfold cleanupRuntime
      rw [reads_bind_apply, hdir, modify_bind_apply]
      rfl
    rw [hrun]
    cases hfailure : w.answers.head.failure with
    | some e =>
      obtain ⟨w', hw'⟩ := external_raises id (w := { w with runtimeDir := false }) hfailure
      exact Or.inl ⟨e, w', bind_error hw', by simp [Misreports, hdir, hfailure]⟩
    | none =>
      obtain ⟨w', hw', hran⟩ := external_returns (w := { w with runtimeDir := false }) hfailure
      refine Or.inr ⟨w', bind_ok hw', ?_⟩
      rw [hran]
      simp [Misreports, h, hdir, hfailure]

end Handle

/-! ## The listener during a run -/

/-- What the listener noted down, the handle, and whether the connection owns the process. -/
def ConnectionService.mark (s : ConnectionService Observed) : List Bool × Bool × Bool :=
  (s.world.stops, s.world.world.process, s.processOwned)

/-- Nothing false was noted down, and who owns the process has its handle. -/
def Sound (s : ConnectionService Observed) : Prop :=
  Truthful s ∧ (s.processOwned = true → s.world.world.process = true)

section Marks

variable (config : AppConfig)

theorem sound_of_mark {α : Type} {m : Conn Observed α} (hm : Frames ConnectionService.mark m) :
    Keeps Sound m :=
  hm.keeps fun mark => (∀ ran ∈ mark.1, ran = false) ∧ (mark.2.2 = true → mark.2.1 = true)

theorem truthful_of_mark {α : Type} {m : Conn Observed α} (hm : Frames ConnectionService.mark m) :
    Keeps Truthful m := hm.keeps fun mark => ∀ ran ∈ mark.1, ran = false

theorem mark_watched {α : Type} {m : Act Exc World α} (hm : Frames World.process m) :
    Frames ConnectionService.mark (onWorld (watched m)) := fun s =>
  congrArg (s.world.stops, ·, s.processOwned) (hm s.world.world)

theorem mark_invoke {op : Op} {m : Act Exc World Unit} (hm : Frames World.process m) :
    Frames ConnectionService.mark (invoke op (watched m)) :=
  invoke_frames (mark_watched hm) fun _ => Frames.modify fun _ => rfl

theorem mark_listen {event : ConnectionEvent} (hevent : event ≠ .processStopped) :
    Frames ConnectionService.mark (onWorld do
      modify fun o : Observed => o.note event
      watched do let _ ← external id) := by
  have hnote (o : Observed) : o.note event = o := if_neg hevent
  have hquiet : Frames (fun o : Observed => (o.stops, o.world.process)) (do
      modify fun o : Observed => o.note event
      watched do let _ ← external id : Act Exc Observed Unit) := by
    refine Frames.bind (Frames.modify fun o => by rw [hnote]) fun _ o => ?_
    have hcall : Frames World.process (do let _ ← external id : Act Exc World Unit) :=
      aside_process.call_then fun _ => Frames.pure _
    exact congrArg (o.stops, ·) (hcall o.world)
  intro s
  exact congrArg (fun p : List Bool × Bool => (p.1, p.2, s.processOwned)) (hquiet s.world)

theorem mark_emit {event : ConnectionEvent} (hevent : event ≠ .processStopped)
    (payload : EventPayload) :
    Frames ConnectionService.mark (emit (observed config) event payload) := by
  refine emit_frames (Frames.modify fun _ => rfl) fun handler hh => ?_
  cases hh
  exact mark_listen hevent

theorem mark_invoke_then {op : Op} {m : Act Exc World Unit}
    {f : ConnectionService Observed → ConnectionService Observed} (hm : Frames World.process m)
    (hf : ∀ s, (f s).mark = s.mark) :
    Frames ConnectionService.mark (do invoke op (watched m); modify f) :=
  Frames.bind (mark_invoke hm) fun _ => Frames.modify hf

theorem process_engineConnect : Frames World.process engineConnect :=
  aside_process.engineConnect fun _ _ => rfl

theorem process_engineClose : Frames World.process engineClose :=
  aside_process.engineClose fun _ _ => rfl

theorem process_killswitchEnable (interface : String) :
    Frames World.process (killswitchEnable interface) :=
  Frames.bind aside_process.ask fun _ => process_onKillswitch _

theorem process_stopWatcher : Frames World.process killswitchStopWatcher :=
  Frames.bind (process_onKillswitch _) fun _ => Frames.pure _

/-- A start of the process that returns gives the handle to its owner. -/
theorem sound_startProcess (profile : ServerProfile) :
    Keeps Sound (startProcess (observed config).deaf profile) := by
  refine Keeps.of_run fun s hs => ?_
  have hhandle := processStart_handle s.world.world trivial
  have hrun : (observed config).deaf.processStart profile s.world =
      ((processStart s.world.world).1, { s.world with world := (processStart s.world.world).2 }) :=
    rfl
  unfold startProcess
  cases howned : s.world.world.process with
  | true =>
    rw [processStart_of_handle howned] at hrun
    rw [bind_ok (invoke_ok hrun)]
    exact ⟨hs.1, fun _ => howned⟩
  | false =>
    have hnot : s.processOwned ≠ true := fun h => Bool.false_ne_true (howned.symm.trans (hs.2 h))
    rcases hstart : processStart s.world.world with ⟨e | u, w⟩ <;> rw [hstart] at hhandle hrun
    · rw [bind_error (invoke_error hrun)]
      exact ⟨hs.1, fun h => absurd h hnot⟩
    · rw [bind_ok (invoke_ok hrun)]
      exact ⟨hs.1, fun _ => hhandle⟩

theorem stable_sound : Stable (observed config).deaf Sound where
  observe h := by
    cases h with
    | isRunning => exact sound_of_mark (mark_watched (process_observe config .isRunning))
    | isActive => exact sound_of_mark (mark_watched (process_observe config .isActive))
    | isWatcherAlive => exact sound_of_mark (mark_watched (process_observe config .isWatcherAlive))
    | checkAllProfiles profiles =>
      exact sound_of_mark (mark_watched (process_observe config (.checkAllProfiles profiles)))
    | now => exact sound_of_mark (mark_watched (process_observe config .now))
    | stopIsSet => exact sound_of_mark (mark_watched (process_observe config .stopIsSet))
    | waitStop timeout =>
      exact sound_of_mark (mark_watched (process_observe config (.waitStop timeout)))
    | addSignalHandler sig =>
      exact sound_of_mark (mark_watched (process_observe config (.addSignalHandler sig)))
    | eventHandler h event payload =>
      cases h
      by_cases hevent : event = .processStopped
      · simp only [if_pos hevent]
        exact Keeps.of_run fun _ hs => hs
      · simp only [if_neg hevent]
        exact sound_of_mark (mark_listen hevent)
  emitted _ _ _ := sound_of_mark (Frames.modify fun _ => rfl)
  lookedUp _ _ := sound_of_mark (Frames.modify fun _ => rfl)
  registered _ := sound_of_mark (Frames.modify fun _ => rfl)
  startProcess profile := sound_startProcess config profile
  connectEngine := sound_of_mark (mark_invoke_then process_engineConnect fun _ => rfl)
  addOutbound profile :=
    sound_of_mark (mark_invoke_then (aside_process.engineAdd profile) fun _ => rfl)
  removeOutbound := sound_of_mark (mark_invoke_then (aside_process.engineRemove true) fun _ => rfl)
  enableKillswitch :=
    sound_of_mark (mark_invoke_then (process_killswitchEnable _) fun _ => rfl)
  startWatcher := sound_of_mark (mark_invoke (process_onKillswitch _))
  markStarted := sound_of_mark (Frames.modify fun _ => rfl)

/-! ### Releasing -/

/-- An event that says the truth leaves it so. -/
theorem truthful_emit_stopped :
    Keeps (fun s => Truthful s ∧ s.world.world.running = false)
      (emit (observed config) .processStopped {}) := by
  have hcall : Keeps (fun w : World => w.running = false) (do let _ ← external id) := by
    refine Keeps.bind (external_triple keeps_ended_ask fun _ _ _ hw => hw) fun _ => Keeps.pure _
  refine emit_triple (Triple.modify fun _ hs => hs) fun handler hh => ?_
  cases hh
  refine Keeps.zoom (J := fun o : Observed => (∀ ran ∈ o.stops, ran = false) ∧
    o.world.running = false) ?_ (fun _ hs => hs) fun _ _ _ ht => ht
  refine Keeps.bind (Keeps.modify ?_) fun _ => ?_
  · rintro o ⟨htrue, hended⟩
    refine ⟨fun ran hran => ?_, hended⟩
    rcases List.mem_append.mp hran with hran | hran
    · exact htrue ran hran
    · rw [List.mem_singleton.mp hran, hended]
  · exact Keeps.zoom hcall (fun _ ho => ho.2) fun _ _ ho hw => ⟨ho.1, hw⟩

theorem truthful_processStop :
    Triple (fun s => Truthful s ∧ s.world.world.process = true)
      (invoke .processStop (observed config).processStop)
      (fun _ s => Truthful s ∧ s.world.world.running = false) (fun _ s => Truthful s) := by
  refine invoke_triple (P := fun o : Observed => (∀ ran ∈ o.stops, ran = false) ∧
    o.world.process = true) (Q := fun o => (∀ ran ∈ o.stops, ran = false) ∧
    o.world.running = false) (E := fun _ o => ∀ ran ∈ o.stops, ran = false) ?_ .processStop
  show Triple _ (watched processStop) _ _
  exact Triple.zoom processStop_ends (fun _ ho => ho.2) (fun _ _ _ ho hw => ⟨ho.1, hw⟩)
    fun _ _ _ ho _ => ho.1

/-- With the handle, a release of the process says nothing false. -/
theorem truthful_attemptProcessStop {orElse : Conn Observed Unit}
    (horElse : Triple (fun s => Truthful s ∧ s.world.world.running = false) orElse
      (fun _ => Truthful) (fun _ => Truthful)) :
    Triple (fun p => Truthful p.1 ∧ p.1.world.world.process = true)
      (attemptProcessStop (observed config) orElse) (fun _ p => Truthful p.1)
      (fun _ p => Truthful p.1) :=
  Teardown.triple_attempt (truthful_processStop config) horElse (fun _ _ _ hs => hs)
    fun _ _ _ hs => hs

theorem truthful_releaseProcess :
    Triple (fun p => Sound p.1) (releaseProcess (observed config)) (fun _ p => Truthful p.1)
      (fun _ p => Truthful p.1) := by
  rintro ⟨s, errs⟩ hs
  unfold releaseProcess
  rw [bind_ok (Teardown.lift_ok (reads_apply ConnectionService.processOwned s) errs), ite_run]
  cases howned : s.processOwned with
  | false =>
    rw [if_neg Bool.false_ne_true]
    exact hs.1
  | true =>
    rw [if_pos rfl]
    refine truthful_attemptProcessStop config ?_ (s, errs) ⟨hs.1, hs.2 howned⟩
    refine Triple.bind (R := fun _ s => Truthful s ∧ s.world.world.running = false)
      (Triple.modify fun _ hs => hs) fun _ => ?_
    exact (truthful_emit_stopped config).mono (fun _ _ hs => hs.1) fun _ _ hs => hs.1

theorem mark_attempt {label : String} {release orElse : Conn Observed Unit}
    (hrelease : Frames ConnectionService.mark release)
    (horElse : Frames ConnectionService.mark orElse) :
    Frames (fun p => p.1.mark) (attempt label release orElse) :=
  Teardown.frames_attempt hrelease horElse

theorem mark_lift {α : Type} {m : Conn Observed α} (hm : Frames ConnectionService.mark m) :
    Frames (fun p : ConnectionService Observed × List String => p.1.mark) (Teardown.lift m) :=
  Teardown.frames_lift hm

theorem mark_attemptSignals : Frames (fun p => p.1.mark) (attemptSignals (observed config)) := by
  refine mark_attempt ?_ (Frames.pure _)
  refine Frames.bind (Frames.reads _) fun registered => Frames.ite (Frames.pure _) ?_
  refine Frames.bind ?_ fun _ => Frames.modify fun _ => rfl
  refine invoke_frames (fun s => ?_) fun _ => Frames.modify fun _ => rfl
  have hforM : Frames (fun o : Observed => (o.stops, o.world.process))
      (registered.forM (removeSignal (observed config))) := by
    refine Frames.forM (fun sig => Frames.handle (fun o => ?_) fun _ => Frames.pure _) _
    have hcall : Frames World.process (do let _ ← external id : Act Exc World Unit) :=
      aside_process.call_then fun _ => Frames.pure _
    exact congrArg (o.stops, ·) (hcall o.world)
  exact congrArg (fun p : List Bool × Bool => (p.1, p.2, s.processOwned)) (hforM s.world)

theorem mark_attemptStopWatcher :
    Frames (fun p => p.1.mark) (attemptStopWatcher (observed config)) :=
  mark_attempt (mark_invoke process_stopWatcher) (Frames.pure _)

theorem mark_attemptRemoveOutbound {orElse : Conn Observed Unit}
    (h : Frames ConnectionService.mark orElse) :
    Frames (fun p => p.1.mark) (attemptRemoveOutbound (observed config) orElse) :=
  mark_attempt (mark_invoke (aside_process.engineRemove true)) h

theorem mark_attemptClose : Frames (fun p => p.1.mark) (attemptClose (observed config)) :=
  mark_attempt (mark_invoke process_engineClose) (Frames.pure _)

theorem mark_releaseKillswitch :
    Frames (fun p => p.1.mark) (releaseKillswitch (observed config)) := by
  refine Frames.bind (mark_lift (Frames.reads _)) fun _ => Frames.ite ?_ (Frames.pure _)
  exact mark_attempt (mark_invoke (process_onKillswitch _)) (Frames.modify fun _ => rfl)

theorem mark_reportErrors : Frames (fun p => p.1.mark) (reportErrors (observed config)) :=
  Frames.bind (Frames.reads _) fun _ =>
    Frames.ite (mark_lift (mark_emit config (by decide) _)) (Frames.pure _)

theorem truthful_rollback :
    Triple Sound (rollback (observed config)) (fun _ => Truthful) (fun _ => Truthful) := by
  have hsound {α : Type} {m : Release Observed α} (hm : Frames (fun p => p.1.mark) m) :
      Triple (fun p => Sound p.1) m (fun _ p => Sound p.1) (fun _ p => Truthful p.1) := by
    have hkeeps : Keeps (fun p => Sound p.1) m := hm.keeps fun mark : List Bool × Bool × Bool =>
      (∀ ran ∈ mark.1, ran = false) ∧ (mark.2.2 = true → mark.2.1 = true)
    exact hkeeps.mono_error fun _ _ hs => hs.1
  have htruthful {α : Type} {m : Release Observed α} (hm : Frames (fun p => p.1.mark) m) :
      Keeps (fun p => Truthful p.1) m :=
    Frames.keeps (v := fun p : ConnectionService Observed × List String => p.1.mark) hm
      fun mark => ∀ ran ∈ mark.1, ran = false
  refine Triple.withLocal ?_
  refine Triple.conseq (O := fun p : ConnectionService Observed × List String => Sound p.1) ?_
    (fun _ hp => hp.1) (fun _ _ hp => hp) fun _ _ hp => hp
  refine Triple.bind (hsound (mark_attemptSignals config)) fun _ => ?_
  refine Triple.bind (hsound (mark_attemptStopWatcher config)) fun _ => ?_
  refine Triple.bind (hsound ?_) fun _ => Triple.bind (hsound ?_) fun _ => ?_
  · refine Frames.bind (mark_lift (Frames.reads _)) fun _ => Frames.ite ?_ (Frames.pure _)
    exact mark_attemptRemoveOutbound config (Frames.modify fun _ => rfl)
  · refine Frames.bind (mark_lift (Frames.reads _)) fun _ => Frames.ite ?_ (Frames.pure _)
    exact Frames.ensure (mark_attemptClose config) (mark_lift (Frames.modify fun _ => rfl))
  refine Triple.bind (truthful_releaseProcess config) fun _ => ?_
  refine Triple.bind (htruthful (mark_releaseKillswitch config)) fun _ => ?_
  refine Triple.bind (R := fun _ p => Truthful p.1) (Keeps.modify fun _ hs => hs) fun _ => ?_
  refine Triple.bind (htruthful (mark_reportErrors config)) fun _ => ?_
  exact Triple.bind (htruthful (mark_lift (Frames.ite (mark_emit config (by decide) _)
    (Frames.pure _)))) fun _ => Triple.reads fun _ hs => hs

/-- A `start` says nothing false, however it ends. -/
theorem truthful_start (n : ℕ) (profile : ServerProfile) (autoFailover killswitch : Bool)
    (allProfiles : Option (List ServerProfile)) :
    Keeps Truthful (start (observed config) n profile autoFailover killswitch allProfiles) := by
  refine Triple.bind (R := fun _ => Sound) ?_ fun _ => ?_
  · refine Triple.bind (R := fun _ => Sound) (Triple.modify fun s hs => ⟨hs, nofun⟩) fun _ => ?_
    exact (sound_of_mark (mark_emit config (by decide) _)).mono_error fun _ _ hs => hs.1
  refine Triple.handle (F := fun _ => Sound) ?_ (fun e _ => ?_) fun _ _ hcaught _ => nomatch hcaught
  · rw [← startBody_deaf]
    exact ((stable_sound config).startBody n profile autoFailover killswitch allProfiles).mono
      (fun _ _ hs => hs.1) fun _ _ hs => hs
  · refine Triple.bind (truthful_rollback config) fun errors => Triple.ite (fun _ => ?_) fun _ => ?_
    · exact Triple.bind (truthful_of_mark (mark_emit config (by decide) _)) fun _ =>
        Triple.raise fun _ hs => hs
    · exact Triple.raise fun _ hs => hs

/-! ### The cleanup of `__aexit__` -/

/-- The listener notes down whether xray-core runs, whatever comes of the call. -/
theorem emit_stops (s : ConnectionService Observed) :
    (emit (observed config) .processStopped {} s).2.world.stops =
      s.world.stops ++ [s.world.world.running] := by
  have hcall (stops : List Bool) : Keeps (fun o : Observed => o.stops = stops)
      (watched do let _ ← external id) := Keeps.of_run fun _ ho => ho
  have hemit : Triple (fun t => t = s) (emit (observed config) .processStopped {})
      (fun _ t => t.world.stops = s.world.stops ++ [s.world.world.running])
      (fun _ t => t.world.stops = s.world.stops ++ [s.world.world.running]) := by
    refine Triple.bind (R := fun _ t => t.world = s.world)
      (Triple.modify fun t ht => by rw [ht]) fun _ => ?_
    refine Triple.handle (F := fun _ t => t.world.stops = s.world.stops ++ [s.world.world.running])
      ?_ (fun _ _ => Triple.pure fun _ ht => ht) fun _ _ _ ht => ht
    refine Triple.zoom (P := fun o => o = s.world)
      (Q := fun _ o => o.stops = s.world.stops ++ [s.world.world.running])
      (E := fun _ o => o.stops = s.world.stops ++ [s.world.world.running])
      ?_ (fun _ ht => ht) (fun _ _ _ _ ho => ho) fun _ _ _ _ ho => ho
    refine Triple.bind (R := fun _ o => o.stops = s.world.stops ++ [s.world.world.running])
      (Triple.modify fun o ho => ?_) fun _ => hcall _
    rw [ho]
    rfl
  exact hemit.run rfl

/-- **The second stop**, which `cleanup` makes whoever owns the process, misreports exactly if the
handle is gone and the process is not. -/
theorem attemptProcessStop_truthful_iff {s : ConnectionService Observed} (hs : Truthful s)
    (errs : List String) :
    Truthful (attemptProcessStop (observed config)
      (emit (observed config) .processStopped {}) (s, errs)).2.1 ↔ ¬Misreports s.world.world := by
  cases hhandle : s.world.world.process with
  | true =>
    refine iff_of_true ?_ fun hmis => Bool.false_ne_true (hmis.1.symm.trans hhandle)
    refine (truthful_attemptProcessStop config ?_).run (s := (s, errs)) ⟨hs, hhandle⟩
    exact (truthful_emit_stopped config).mono (fun _ _ hs => hs.1) fun _ _ hs => hs.1
  | false =>
    rcases processStop_vacuous hhandle with ⟨e, w, hstop, hnot⟩ | ⟨w, hstop, hran⟩
    · have hrun : (observed config).processStop s.world =
          (.error e, { s.world with world := w }) := by
        show watched processStop s.world = _
        unfold watched zoom
        rw [hstop]
      have hinvoke : Triple (fun t => t = s) (invoke .processStop (observed config).processStop)
          (fun _ _ => False) (fun _ => Truthful) := by
        rintro t rfl
        rw [invoke_error hrun]
        exact hs
      apply iff_of_true _ hnot
      exact (Teardown.triple_attempt (Q := Truthful) (E := fun _ => Truthful) hinvoke
        (fun _ h => h.elim) (fun _ _ _ h => h) fun _ _ _ h => h).run (s := (s, errs)) rfl
    · have hrun : (observed config).processStop s.world =
          (.ok (), { s.world with world := w }) := by
        show watched processStop s.world = _
        unfold watched zoom
        rw [hstop]
      have hattempt : Teardown.attempt Exc.isException
          (fun e => "xray process cleanup failed: " ++ e.message)
          (invoke .processStop (observed config).processStop)
          (emit (observed config) .processStopped {}) (s, errs) =
          Teardown.lift (emit (observed config) .processStopped {})
            (s.called { s.world with world := w } .processStop none, errs) :=
        Teardown.attempt_ok (invoke_ok hrun) errs
      have hstops := emit_stops config
        (s.called { s.world with world := w } .processStop none)
      unfold attemptProcessStop attempt
      rw [hattempt, ← hran, Bool.not_eq_true]
      unfold Truthful
      rw [Teardown.lift_apply, hstops]
      constructor
      · intro htrue
        exact htrue w.running (List.mem_append_right _ (List.mem_singleton_self _))
      · intro hended ran hran'
        rcases List.mem_append.mp hran' with hold | hnew
        · exact hs ran hold
        · rw [List.mem_singleton.mp hnew]
          exact hended

theorem mark_cleanupFront : Frames (fun p => p.1.mark) (cleanupFront (observed config)) := by
  refine Frames.bind (mark_attemptSignals config) fun _ => ?_
  refine Frames.bind (mark_attemptStopWatcher config) fun _ => ?_
  exact Frames.bind (mark_attemptRemoveOutbound config (Frames.pure _)) fun _ =>
    mark_attemptClose config

theorem mark_cleanupEnd : Frames (fun p => p.1.mark) (cleanupEnd (observed config)) := by
  refine Frames.bind (mark_lift (Frames.modify fun _ => rfl)) fun _ => ?_
  exact Frames.bind (mark_reportErrors config) fun _ => mark_lift (mark_emit config (by decide) _)

theorem truthful_congr {s t : ConnectionService Observed} (h : s.mark = t.mark) :
    Truthful s ↔ Truthful t := by
  have hstops : s.world.stops = t.world.stops := congrArg Prod.fst h
  unfold Truthful
  rw [hstops]

theorem cleanup_truthful_iff {s : ConnectionService Observed} (hopen : s.cleaned = false)
    (hs : Truthful s) :
    Truthful (cleanup (observed config) s).2 ↔
      ∀ s' errs, cleanupFront (observed config) (s, []) = (.ok (), s', errs) →
        ¬Misreports s'.world.world := by
  rw [cleanup_snd _ hopen, truthful_congr (mark_cleanupEnd config _), cleanupBody_eq]
  have hfront := mark_cleanupFront config (s, [])
  rcases hrun : cleanupFront (observed config) (s, []) with ⟨e | u, s', errs⟩ <;>
    rw [hrun] at hfront
  · rw [bind_error hrun]
    exact iff_of_true ((truthful_congr hfront).mpr hs) fun _ _ h => by cases h
  · rw [bind_ok hrun]
    have hback : Truthful ((do
        attemptProcessStop (observed config) (emit (observed config) .processStopped {})
        releaseKillswitch (observed config) : Release Observed Unit) (s', errs)).2.1 ↔
        Truthful (attemptProcessStop (observed config)
          (emit (observed config) .processStopped {}) (s', errs)).2.1 := by
      rcases hstop : attemptProcessStop (observed config)
        (emit (observed config) .processStopped {}) (s', errs) with ⟨e | u, p⟩
      · rw [bind_error hstop]
      · rw [bind_ok hstop]
        exact truthful_congr (mark_releaseKillswitch config p)
    rw [hback, attemptProcessStop_truthful_iff config ((truthful_congr hfront).mpr hs) errs]
    constructor
    · intro hnot s'' errs' h
      cases h
      exact hnot
    · intro h
      exact h s' errs rfl

end Marks

/-! ## The runs -/

/-- **PROCESS_STOPPED is true** throughout a run of `async with`, whatever every call answered and
wherever `start` ended, exactly if the cleanup of `__aexit__`, where it comes to stop the process,
does not find the handle given up and the process running. -/
theorem truthful_iff (config : AppConfig) (n : ℕ) (profile : ServerProfile)
    (autoFailover killswitch : Bool) (allProfiles : Option (List ServerProfile))
    (exc : Option Exc) (w : World) :
    let s := (start (observed config) n profile autoFailover killswitch allProfiles
      { world := { world := w } }).2
    Truthful (aexit (observed config) exc s).2 ↔
      ∀ s₁ s₂ errs, announce (observed config) exc s = (.ok (), s₁) →
        cleanupFront (observed config) (s₁, []) = (.ok (), s₂, errs) →
        ¬Misreports s₂.world.world := by
  intro s
  have hs : Truthful s :=
    (truthful_start config n profile autoFailover killswitch allProfiles).run nofun
  have hmark : Frames ConnectionService.mark (announce (observed config) exc) := by
    rcases exc with _ | ⟨kind, message⟩ | _ | _
    · exact Frames.pure _
    · exact mark_emit config (by decide) _
    · exact Frames.pure _
    · exact Frames.pure _
  have hannounce : Keeps (fun s => s.cleaned = false) (announce (observed config) exc) := by
    rcases exc with _ | ⟨kind, message⟩ | _ | _
    · exact Keeps.pure _
    · exact open_emit (observed config) .error { error := some message }
    · exact Keeps.pure _
    · exact Keeps.pure _
  have hopen := hannounce.run
    (start_open (observed config) n profile autoFailover killswitch allProfiles
      { world := { world := w } })
  have htrue := (truthful_congr (hmark s)).mpr hs
  unfold aexit
  rcases hrun : announce (observed config) exc s with ⟨e | u, s₁⟩
  · rw [bind_error hrun]
    rw [hrun] at htrue
    exact iff_of_true htrue fun _ _ _ h => by cases h
  · rw [bind_ok hrun]
    rw [hrun] at htrue
    have hopen' : s₁.cleaned = false := by
      have h := hopen
      rwa [hrun] at h
    rw [cleanup_truthful_iff config hopen' htrue]
    constructor
    · intro h s₁' s₂ errs heq
      cases heq
      exact h s₂ errs
    · intro h s₂ errs
      exact h s₁ s₂ errs rfl

/-- xray-core is started, and then a thread that drains one of its pipes is not. -/
def undrainedWorld : World where
  answers n := if n = 5 then { failure := some KillSwitch.cannotStart } else {}
  killswitch := .freshWith (.const .runs) (.const true)

/-- **Stopped, and running.** The failed start gives the handle up, the stop of the cleanup has
nothing to stop, and PROCESS_STOPPED is emitted while xray-core runs. -/
theorem stopped_while_running :
    ¬∀ (config : AppConfig) (n : ℕ) (profile : ServerProfile) (autoFailover killswitch : Bool)
      (allProfiles : Option (List ServerProfile)) (exc : Option Exc) (w : World),
      w.process = false → w.runtimeDir = false → w.running = false →
      Truthful (aexit (observed config) exc (start (observed config) n profile autoFailover
        killswitch allProfiles { world := { world := w } }).2).2 := by
  intro h
  have htrue := h {} 1 ⟨"a", "", "", .empty, ""⟩ false false none none undrainedWorld rfl rfl rfl
  have hstops : (aexit (observed {}) none (start (observed {}) 1 ⟨"a", "", "", .empty, ""⟩ false
      false none { world := { world := undrainedWorld } }).2).2.world.stops = [true] := by decide
  unfold Truthful at htrue
  rw [hstops] at htrue
  exact absurd (htrue true List.mem_cons_self) (by decide)

end Bimarz.Connection
