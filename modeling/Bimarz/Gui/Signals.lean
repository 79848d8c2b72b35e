import Bimarz.Gui.Closed

/-!
# The signals of a run

The window knows of a worker what its signals say. `Stage` is how far a run has come by them, and
`signals_of_run` says that the signals of every run are in this order: a run that has connected
closes with `disconnected`, one that has failed before says why, and only a run that was stopped
before it connected ends without a word.
-/

namespace Bimarz.Gui

open Effect Effect.Act
open KillSwitch (System)

/-! ## The order of the signals -/

/-- The signals that the window is connected to. -/
inductive Signal
  | connected (remark : String)
  | disconnected
  | connectionError (message : String)
  | latencyUpdated (profileId : String) (latency : ℚ) (reachable : Bool)
  | failoverOccurred (fromId toId : String)
  | killswitchTriggered (reason : String)
  deriving DecidableEq

def Item.signal? : Item → Option Signal
  | .connected remark => some (.connected remark)
  | .disconnected => some .disconnected
  | .connectionError message => some (.connectionError message)
  | .latencyUpdated profileId latency reachable => some (.latencyUpdated profileId latency reachable)
  | .failoverOccurred fromId toId => some (.failoverOccurred fromId toId)
  | .killswitchTriggered message => some (.killswitchTriggered message)
  | .runtimeCreated => none
  | .xrayStarted => none
  | .activated => none
  | .deactivate => none
  | .xrayStop => none
  | .runtimeCleanup => none

/-- How far a run has come, as its signals tell. -/
inductive Stage
  | connecting
  | connected
  /-- it has reported why it ends -/
  | failed (wasConnected : Bool)
  | closed
  deriving DecidableEq, Repr

/-- The signals that may come next. -/
def Stage.next : Stage → Signal → Option Stage
  | .connecting, .connected _ => some .connected
  | .connecting, .connectionError _ => some (.failed false)
  | .connecting, .killswitchTriggered _ => some (.failed false)
  | .connected, .latencyUpdated _ _ _ => some .connected
  | .connected, .failoverOccurred _ _ => some .connected
  | .connected, .connectionError _ => some (.failed true)
  | .connected, .killswitchTriggered _ => some (.failed true)
  | .connected, .disconnected => some .closed
  | .failed true, .disconnected => some .closed
  | _, _ => none

def Stage.after (stage : Stage) (signals : List Signal) : Option Stage :=
  signals.foldlM Stage.next stage

/-- A thread may end here; at `connecting` nothing has told the window so. -/
def Stage.final : Stage → Bool
  | .connecting => true
  | .connected => false
  | .failed wasConnected => !wasConnected
  | .closed => true

def Worker.signals (s : Worker) : List Signal := s.log.filterMap Item.signal?

def Worker.stage (s : Worker) : Option Stage := Stage.connecting.after s.signals

theorem Stage.after_concat (stage : Stage) (signals : List Signal) (signal : Signal) :
    stage.after (signals ++ [signal]) = (stage.after signals).bind fun t => t.next signal := by
  unfold Stage.after
  rw [List.foldlM_append]
  rcases signals.foldlM Stage.next stage with _ | t
  · rfl
  · exact bind_pure (t.next signal)

theorem signals_record (s : Worker) (item : Item) :
    (s.record item).signals = s.signals ++ item.signal?.toList := by
  unfold Worker.signals Worker.record
  rw [List.filterMap_append]
  cases item <;> rfl

theorem stage_mute {s : Worker} {item : Item} (hitem : item.signal? = none) :
    (s.record item).stage = s.stage := by
  unfold Worker.stage
  rw [signals_record, hitem, Option.toList_none, List.append_nil]

theorem stage_record {s : Worker} {stage : Stage} (h : s.stage = some stage) {item : Item}
    {signal : Signal} (hitem : item.signal? = some signal) :
    (s.record item).stage = stage.next signal := by
  have hs : Stage.connecting.after s.signals = some stage := h
  unfold Worker.stage
  rw [signals_record, hitem, Option.toList_some, Stage.after_concat, hs, Option.bind_some]

/-! ## Connecting -/

section Connecting

/-- Nothing has been signalled. -/
def Fresh (s : Worker) : Prop := s.stage = some .connecting ∧ s.connectedOnce = false

/-- The connection has been signalled, and the end of it has not. -/
def Live (s : Worker) : Prop := s.stage = some .connected ∧ s.connectedOnce = true

theorem unobserved_fresh : Unobserved Fresh := fun _ _ _ _ _ _ _ _ hs => hs

theorem unobserved_live : Unobserved Live := fun _ _ _ _ _ _ _ _ hs => hs

theorem Fresh.mute {s : Worker} (h : Fresh s) {item : Item} (hitem : item.signal? = none) :
    Fresh (s.record item) := ⟨(stage_mute hitem).trans h.1, h.2⟩

theorem Live.mute {s : Worker} (h : Live s) {item : Item} (hitem : item.signal? = none) :
    Live (s.record item) := ⟨(stage_mute hitem).trans h.1, h.2⟩

theorem steady_live : Steady Live where
  unobserved := unobserved_live
  outbound _ _ _ hs := hs
  switched _ _ _ hs := hs
  latency _ _ _ _ hs := ⟨(stage_record hs.1 rfl).trans rfl, hs.2⟩
  failedOver _ _ _ hs := ⟨(stage_record hs.1 rfl).trans rfl, hs.2⟩
  gap _ hs := hs

theorem steady_connectedOnce : Steady fun s => s.connectedOnce = true where
  unobserved _ _ _ _ _ _ _ _ hs := hs
  outbound _ _ _ hs := hs
  switched _ _ _ hs := hs
  latency _ _ _ _ hs := hs
  failedOver _ _ _ hs := hs
  gap _ hs := hs

theorem fresh_external {effect : Worker → Worker} (heffect : ∀ s, Fresh s → Fresh (effect s)) :
    Keeps Fresh (external effect) := unobserved_fresh.keeps_external heffect

theorem fresh_xrayStart : Keeps Fresh xrayStart := by
  refine Keeps.bind (fresh_external fun s hs => hs.mute rfl) fun _ => ?_
  exact Keeps.bind (fresh_external fun _ hs => hs) fun _ => Keeps.pure _

theorem fresh_waitReady (polls : ℕ) : Keeps Fresh (waitReady polls) := by
  induction polls with
  | zero => exact Keeps.raise _
  | succ polls ih =>
    refine Keeps.bind (fresh_external fun _ hs => hs) fun reply => Keeps.ite (Keeps.pure _) ?_
    exact Keeps.bind unobserved_fresh.shouldStop fun stopped => Keeps.ite (Keeps.pure _) ih

theorem fresh_asyncConnect : Keeps Fresh asyncConnect := by
  refine Keeps.bind (fresh_external fun _ hs => hs) fun _ => ?_
  refine Keeps.bind unobserved_fresh.takeMoment fun moment => ?_
  refine Keeps.bind (unobserved_fresh.keeps_await moment fun _ hs => hs) fun _ => ?_
  refine Keeps.bind (Keeps.modify fun _ hs => hs) fun _ => ?_
  refine Keeps.bind (Keeps.reads _) fun profile => Keeps.bind (Steady.ofExcept _) fun kwargs => ?_
  refine Keeps.bind unobserved_fresh.takeMoment fun moment => Keeps.bind ?_ fun _ => ?_
  · refine Keeps.bind (Keeps.reads _) fun registered => Keeps.ite ?_ ?_
    · exact Keeps.bind (unobserved_fresh.keeps_await moment fun _ hs => hs) fun _ => Keeps.raise _
    · exact unobserved_fresh.keeps_await moment fun _ hs => hs
  · exact Keeps.modify fun _ hs => hs

theorem fresh_activateIfEnabled : Keeps Fresh activateIfEnabled := by
  refine Keeps.bind (Keeps.reads _) fun enabled => Keeps.ite ?_ (Keeps.pure _)
  refine Keeps.bind (fresh_external fun _ hs => hs) fun reply => ?_
  refine Keeps.bind (Keeps.reads _) fun interface => ?_
  refine Keeps.bind (keeps_onKillswitch _ fun _ _ hs => hs) fun _ => ?_
  refine Keeps.bind (Keeps.modify fun s hs => hs.mute rfl) fun _ => ?_
  refine Keeps.bind (Keeps.reads _) fun started => Keeps.ite ?_ (Keeps.raise _)
  exact keeps_onKillswitch _ fun _ _ hs => hs

/-- The signal follows the flag at once. -/
theorem establish_live : Triple Fresh establish (fun _ => Live) (fun _ => Fresh) := by
  refine Triple.bind (unobserved_fresh.keeps_runAsyncFn fresh_asyncConnect) fun _ => ?_
  refine Triple.bind fresh_activateIfEnabled fun _ => ?_
  refine Triple.bind (R := fun _ s => s.stage = some .connecting ∧ s.connectedOnce = true)
    (Triple.modify fun s hs => ⟨hs.1, rfl⟩) fun _ => ?_
  intro s hs
  exact ⟨(stage_record hs.1 rfl).trans rfl, hs.2⟩

/-- What holds while `_run_connect` goes on. -/
def Open (s : Worker) : Prop := Fresh s ∨ Live s

theorem unobserved_open : Unobserved Open := fun _ _ _ _ _ _ _ _ hs => hs

theorem Open.mute {s : Worker} (h : Open s) {item : Item} (hitem : item.signal? = none) :
    Open (s.record item) := h.imp (·.mute hitem) (·.mute hitem)

/-- A run that stays in its loop has connected. -/
def Underway (ended : Bool) (s : Worker) : Prop := Live s ∨ Fresh s ∧ ended = true

theorem connectBody_open (n : ℕ) :
    Triple Fresh (connectBody n) Underway (fun _ => Open) := by
  refine Triple.bind (fresh_xrayStart.mono_error fun _ _ hs => Or.inl hs) fun _ => ?_
  refine Triple.bind (R := fun _ => Fresh) (Triple.reads fun s hs => hs) fun polls => ?_
  refine Triple.bind ((fresh_waitReady polls).mono_error fun _ _ hs => Or.inl hs) fun ready => ?_
  refine Triple.ite (fun _ => ?_) fun _ => Triple.pure fun s hs => Or.inr ⟨hs, rfl⟩
  refine Triple.bind (establish_live.mono_error fun _ _ hs => Or.inl hs) fun _ => ?_
  exact (steady_live.watch n).mono (fun _ _ hs => Or.inl hs) fun _ _ hs => Or.inr hs

theorem keeps_suppress {I : Worker → Prop} {m : Work Unit} (hm : Keeps I m) : Keeps I (suppress m) :=
  Keeps.handle hm fun _ => Keeps.pure _

/-- The `except` block signals nothing. -/
theorem abandon_open (e : Exc) : Keeps Open (abandon e) := by
  have hexternal : Keeps Open (external id) := unobserved_open.keeps_external fun _ hs => hs
  have hemit {item : Item} (hitem : item.signal? = none) : Keeps Open (emit item) :=
    Keeps.modify fun _ hs => hs.mute hitem
  have hkillswitch {α : Type} (m : Act Exc System α) : Keeps Open (onKillswitch m) :=
    keeps_onKillswitch m fun _ _ hs => hs
  refine Keeps.bind (keeps_suppress ?_) fun _ => ?_
  · exact Keeps.bind (hkillswitch _) fun _ => Keeps.bind hexternal fun _ =>
      Keeps.bind (hkillswitch _) fun _ => Keeps.pure _
  refine Keeps.bind (keeps_suppress ?_) fun _ => ?_
  · refine Keeps.bind (Keeps.reads _) fun active => Keeps.ite ?_ (Keeps.pure _)
    exact Keeps.bind (hemit rfl) fun _ => Keeps.bind hexternal fun _ => hkillswitch _
  refine Keeps.bind (keeps_suppress ?_) fun _ => Keeps.raise e
  exact Keeps.bind (hemit rfl) fun _ => Keeps.bind hexternal fun _ => Keeps.pure _

theorem abandon_raises (e : Exc) (s : Worker) : abandon e s = (.error e, (abandon e s).2) := by
  have hfacing : Triple (Facing s.ksManager s.replies) (abandon e) _ _ := abandon_facing e
  replace hfacing := hfacing s ⟨rfl, rfl⟩
  rcases hrun : abandon e s with ⟨e' | ended, s'⟩ <;> rw [hrun] at hfacing
  · rw [hfacing.1]
  · exact hfacing.elim

theorem runConnect_open (n : ℕ) : Triple Fresh (runConnect n) Underway (fun _ => Open) := by
  have hbinary : Keeps Fresh findBinary :=
    Keeps.bind (fresh_external fun _ hs => hs) fun _ => Keeps.ite (Keeps.pure _) (Keeps.raise _)
  refine Triple.bind (hbinary.mono_error fun _ _ hs => Or.inl hs) fun _ => ?_
  refine Triple.bind (R := fun _ => Fresh) ?_ fun _ => ?_
  · exact (fresh_external fun s hs => Fresh.mute (s := { s with runtimeDir := true }) hs rfl).mono_error
      fun _ _ hs => Or.inl hs
  refine Triple.bind ((fresh_external fun _ hs => hs).mono_error fun _ _ hs => Or.inl hs) fun _ => ?_
  refine Triple.bind (R := fun _ => Fresh) (Triple.modify fun _ hs => hs) fun _ => ?_
  refine Triple.handle (connectBody_open n) (fun e _ => ?_) fun _ _ _ hs => hs
  intro s hs
  have hkept := (abandon_open e).run hs
  rw [abandon_raises e s] at hkept ⊢
  exact hkept

end Connecting

/-! ## What a silent end means -/

section Silence

variable {profile : ServerProfile}

/-- A cancellation that waits was posted by a `stop`. -/
def Heeded (profile : ServerProfile) (s : Worker) : Prop :=
  (s.pending = true → s.stopEvent = true) ∧ s.profile = profile

/-- The exception will be reported, or a `stop` is behind it. -/
def Explained (e : Exc) (s : Worker) : Prop := e.isException = true ∨ s.stopEvent = true

/-- The exception will be reported. -/
def Raised (profile : ServerProfile) (e : Exc) (s : Worker) : Prop :=
  Heeded profile s ∧ e.isException = true

theorem heeded_stopIf {s : Worker} (h : Heeded profile s) (b : Bool) : Heeded profile (s.stopIf b) := by
  cases b with
  | false => exact h
  | true => exact ⟨fun _ => rfl, h.2⟩

theorem tick_snd (s : Worker) : (tick s).2 = { s.stopIf s.stops.head with stops := s.stops.tail } := by
  show (if s.stops.head then _ else _ : Worker) = _
  cases s.stops.head <;> rfl

theorem heeded_tick : Keeps (Heeded profile) tick := by
  refine Keeps.of_run fun s hs => ?_
  rw [tick_snd]
  exact heeded_stopIf hs s.stops.head

/-- A stop event stays set. -/
theorem stopped_tick : Keeps (fun s => s.stopEvent = true) tick := by
  refine Keeps.of_run fun s hs => ?_
  rw [tick_snd]
  cases s.stops.head with
  | false => exact hs
  | true => rfl

theorem external_heeded {effect : Worker → Worker}
    (heffect : ∀ s, Heeded profile s → Heeded profile (effect s)) :
    Triple (Heeded profile) (external effect) (fun _ => Heeded profile) (Raised profile) := by
  refine Triple.bind (R := fun _ => Heeded profile) (fun _ hs => heeded_tick _ hs) fun _ => ?_
  refine Triple.bind (R := fun _ => Heeded profile) (fun _ hs => hs) fun reply => ?_
  cases reply.failure with
  | none => exact Triple.bind (Triple.modify heffect) fun _ => Triple.pure fun _ hs => hs
  | some failed => exact Triple.raise fun _ hs => ⟨hs, rfl⟩

theorem shouldStop_heeded :
    Triple (Heeded profile) shouldStop (fun stopped s => Heeded profile s ∧ s.stopEvent = stopped)
      (Raised profile) :=
  Triple.bind (R := fun _ => Heeded profile) (fun _ hs => heeded_tick _ hs) fun _ =>
    Triple.reads fun _ hs => ⟨hs, rfl⟩

/-- Giving up on xray-core without an error takes a `stop`. -/
theorem waitReady_heeded (polls : ℕ) :
    Triple (Heeded profile) (waitReady polls)
      (fun ready s => Heeded profile s ∧ (ready = false → s.stopEvent = true))
      (Raised profile) := by
  induction polls with
  | zero => exact Triple.raise fun _ hs => ⟨hs, rfl⟩
  | succ polls ih =>
    refine Triple.bind (external_heeded fun _ hs => hs) fun reply => ?_
    refine Triple.ite (fun _ => Triple.pure fun s hs => ⟨hs, nofun⟩) fun _ => ?_
    refine Triple.bind shouldStop_heeded fun stopped => Triple.ite (fun hstopped => ?_) fun _ => ?_
    · exact Triple.pure fun s hs => ⟨hs.1, fun _ => hs.2.trans hstopped⟩
    · exact ih.conseq (fun _ hs => hs.1) (fun _ _ hs => hs) fun _ _ hs => hs

/-- Within a burst, a call is cancelled after a `stop` or because its time is over. -/
def Interruption (profile : ServerProfile) (e : Exc) (s : Worker) : Prop :=
  Heeded profile s ∧ (Explained e s ∨ e = .cancelled ∧ s.expired = true)

theorem await_heeded (moment : Moment) {effect : Worker → Worker}
    (heffect : ∀ s, (effect s).pending = s.pending ∧ (effect s).stopEvent = s.stopEvent ∧
      (effect s).profile = s.profile) :
    Triple (Heeded profile) (await moment effect) (fun _ => Heeded profile)
      (Interruption profile) := by
  intro s hs
  have ht := heeded_stopIf hs moment.stop
  have hcancelled : ((s.stopIf moment.stop).cancelled moment effect).stopEvent =
      (s.stopIf moment.stop).stopEvent ∧
      ((s.stopIf moment.stop).cancelled moment effect).profile = profile := by
    unfold Worker.cancelled
    cases moment.late with
    | false => exact ⟨rfl, ht.2⟩
    | true => exact ⟨(heffect _).2.1, (heffect _).2.2.trans ht.2⟩
  have hdelivered {p : Prop} (h : ((s.stopIf moment.stop).cancelled moment effect).pending = true) : p :=
    absurd h Bool.false_ne_true
  rcases await_cases moment effect s with
    ⟨hpending, hrun⟩ | ⟨-, ⟨-, hrun⟩ | ⟨kind, message, -, hrun⟩ | ⟨-, hrun⟩⟩ <;> rw [hrun]
  · exact ⟨⟨hdelivered, hcancelled.2⟩, Or.inl (Or.inr (hcancelled.1.trans (ht.1 hpending)))⟩
  · obtain ⟨hpending, hstop, hprofile⟩ := heffect (s.stopIf moment.stop)
    exact ⟨fun h => hstop.trans (ht.1 (hpending.symm.trans h)), hprofile.trans ht.2⟩
  · exact ⟨ht, Or.inl (Or.inl rfl)⟩
  · exact ⟨⟨hdelivered, hcancelled.2⟩, Or.inr ⟨rfl, rfl⟩⟩

theorem Raised.interruption {e : Exc} {s : Worker} (h : Raised profile e s) :
    Interruption profile e s := ⟨h.1, Or.inl (Or.inl h.2)⟩

theorem addOutbound_heeded (moment : Moment) (kwargs : OutboundKwargs) :
    Triple (Heeded profile) (addOutbound moment kwargs) (fun _ => Heeded profile)
      (Interruption profile) := by
  refine Triple.bind (R := fun _ => Heeded profile) ?_ fun _ => Triple.modify fun _ hs => hs
  refine Triple.bind (R := fun _ => Heeded profile) (Triple.reads fun _ hs => hs) fun registered => ?_
  refine Triple.ite (fun _ => ?_) fun _ => await_heeded moment fun _ => ⟨rfl, rfl, rfl⟩
  exact Triple.bind (await_heeded moment fun _ => ⟨rfl, rfl, rfl⟩) fun _ =>
    Triple.raise fun _ hs => ⟨hs, Or.inl (Or.inl rfl)⟩

theorem asyncConnect_heeded (hprofile : RaisesOnly (·.isException = true) (activeOutbound profile)) :
    Triple (Heeded profile) asyncConnect (fun _ => Heeded profile) (Interruption profile) := by
  have hmoment : Triple (Heeded profile) takeMoment (fun _ => Heeded profile) (Interruption profile) :=
    fun _ hs => hs
  refine Triple.bind ((external_heeded fun _ hs => hs).mono_error fun _ _ hs => hs.interruption)
    fun _ => ?_
  refine Triple.bind hmoment fun moment => ?_
  refine Triple.bind (await_heeded moment fun _ => ⟨rfl, rfl, rfl⟩) fun _ => ?_
  refine Triple.bind (R := fun _ => Heeded profile) (Triple.modify fun _ hs => hs) fun _ => ?_
  refine Triple.bind (R := fun p s => Heeded profile s ∧ p = profile)
    (Triple.reads fun _ hs => ⟨hs, hs.2⟩) fun p => ?_
  refine Triple.of_fact ?_
  rintro rfl
  refine Triple.bind (R := fun _ => Heeded p) ?_ fun kwargs => ?_
  · cases houtbound : activeOutbound p with
    | ok kwargs => exact Triple.pure fun _ hs => hs
    | error e => exact Triple.raise fun _ hs => ⟨hs, Or.inl (Or.inl (hprofile e houtbound))⟩
  · exact Triple.bind hmoment fun moment => addOutbound_heeded moment kwargs

/-- A timeout becomes a `TimeoutError`, so only a `stop` is left. -/
theorem runAsyncConnect_heeded
    (hprofile : RaisesOnly (·.isException = true) (activeOutbound profile)) :
    Triple (Heeded profile) (runAsyncFn asyncConnect) (fun _ => Heeded profile) Explained := by
  have hdrain : Triple (Heeded profile) drain (fun _ => Heeded profile) Explained := by
    refine Triple.bind (R := fun _ => Heeded profile) (fun _ hs => heeded_tick _ hs) fun _ => ?_
    exact Triple.modify fun s hs => ⟨fun h => absurd h Bool.false_ne_true, hs.2⟩
  have hdrainError (e : Exc) : Triple (Explained e) drain (fun _ => Explained e) Explained := by
    refine Triple.bind (R := fun _ => Explained e) (fun s hs => ?_) fun _ => Triple.modify fun _ hs => hs
    exact hs.imp_right fun h => stopped_tick.run h
  have hwait : Triple (Heeded profile) (waitFor asyncConnect) (fun _ => Heeded profile) Explained := by
    refine Triple.bind (R := fun _ => Heeded profile) (Triple.modify fun _ hs => hs) fun _ => ?_
    refine Triple.handle (asyncConnect_heeded hprofile) (fun e he => ?_) fun e s he hs => ?_
    · refine Triple.bind (R := fun isExpired s => isExpired = true ∨ Explained e s)
        (Triple.reads fun s hs => ?_) fun isExpired => ?_
      · exact (hs.2.symm.imp_left And.right)
      · refine Triple.ite (fun _ => Triple.raise fun _ _ => Or.inl rfl) fun hnot => ?_
        exact Triple.raise fun _ hs => hs.resolve_left hnot
    · exact hs.2.resolve_right fun h => of_decide_eq_false he h.1
  have hburst : Triple (Heeded profile) (burst asyncConnect) (fun _ => Heeded profile) Explained := by
    refine Triple.bind (R := fun _ => Heeded profile) (fun _ hs => heeded_tick _ hs) fun _ => ?_
    refine Triple.bind (R := fun isPending s => Heeded profile s ∧ isPending = s.pending)
      (Triple.reads fun _ hs => ⟨hs, rfl⟩) fun isPending => Triple.ite (fun hpending => ?_) fun _ => ?_
    · refine Triple.bind (R := fun _ s => s.stopEvent = true) (Triple.modify fun s hs => ?_)
        fun _ => Triple.raise fun _ hs => Or.inr hs
      exact hs.1.1 (hs.2.symm.trans hpending)
    · exact (Triple.ensure hwait (fun _ => hdrain) hdrainError).conseq (fun _ hs => hs.1)
        (fun _ _ hs => hs) fun _ _ hs => hs
  refine Triple.bind (R := fun _ => Heeded profile) (Triple.reads fun _ hs => hs) fun status => ?_
  cases status with
  | none => exact Triple.raise fun _ _ => Or.inl rfl
  | closed => exact Triple.raise fun _ _ => Or.inl rfl
  | running => exact hburst

theorem raises_applyKillswitchRules (interface : String) (xrayUid : Option ℤ) :
    RaisesExceptions (KillSwitch.applyKillswitchRules interface xrayUid) := by
  have hrules : RaisesOnly (·.isException = true) (KillSwitch.rulesetOf interface xrayUid) := by
    refine raisesOnly_bind (fun e he => ?_) fun uid _ e he => ?_
    · unfold KillSwitch.asU32 at he
      split at he
      · cases he
      · split at he <;> cases he
        rfl
    · rcases hbuild : KillSwitch.buildKillswitchRules interface uid with message | ruleset <;>
        rw [hbuild] at he <;> cases he
      rfl
  unfold KillSwitch.applyKillswitchRules
  cases hruleset : KillSwitch.rulesetOf interface xrayUid with
  | error e => exact RaisesExceptions.raise (hrules e hruleset)
  | ok ruleset => exact RaisesExceptions.mapError (fun _ => rfl) (KillSwitch.applyRuleset ruleset)

theorem raises_activate (interface : String) (xrayUid : Option ℤ) :
    RaisesExceptions (System.activate interface xrayUid) := by
  have hfallback : RaisesExceptions (System.activate.fallback interface xrayUid) :=
    RaisesExceptions.modify _
  have happly : RaisesExceptions (System.onHost (KillSwitch.applyKillswitchRules interface xrayUid)) :=
    fun k e _ h =>
      raises_applyKillswitchRules interface xrayUid k.host e _ (Prod.ext (Prod.ext_iff.mp h).1 rfl)
  have hprobe : RaisesExceptions System.probeKernelCapability := by
    rintro _ _ _ ⟨⟩
  refine RaisesExceptions.bind (.reads _) fun current => .ite (.ite (.pure _) (.raise rfl)) ?_
  refine RaisesExceptions.bind (.modify _) fun _ => .bind hprobe fun capable => .ite ?_ hfallback
  have hprint : RaisesExceptions System.printInterface :=
    .bind (.reads _) fun _ => .bind (.modify _) fun _ => .ite (.pure _) (.raise rfl)
  refine RaisesExceptions.handle (happly.bind fun _ => .bind (.modify _) fun _ => hprint) fun _ => ?_
  exact hfallback

theorem raises_startProcessWatcher (intervalSeconds : ℚ) :
    RaisesExceptions (System.startProcessWatcher intervalSeconds) := by
  refine RaisesExceptions.ite (.raise rfl) (.bind (.modify _) fun _ =>
    .bind (.reads _) fun running => ?_)
  refine RaisesExceptions.ite (.pure _) (.bind (.reads _) fun current => ?_)
  refine RaisesExceptions.ite (.raise rfl) (.bind (.modify _) fun _ => ?_)
  exact .bind (.reads _) fun _ => .bind (.modify _) fun _ => .ite (.modify _) (.raise rfl)

theorem onKillswitch_heeded {α : Type} {m : Act Exc System α} (hm : RaisesExceptions m) :
    Triple (Heeded profile) (onKillswitch m) (fun _ => Heeded profile) (Raised profile) := by
  intro s hs
  rcases hrun : m s.ksManager with ⟨e | a, k⟩ <;> rw [onKillswitch_run hrun]
  · exact ⟨hs, hm _ _ _ hrun⟩
  · exact hs

theorem activateIfEnabled_heeded :
    Triple (Heeded profile) activateIfEnabled (fun _ => Heeded profile) (Raised profile) := by
  have hreads {α : Type} (f : Worker → α) :
      Triple (Heeded profile) (reads f) (fun _ => Heeded profile) (Raised profile) :=
    Triple.reads fun _ hs => hs
  refine Triple.bind (hreads _) fun enabled => Triple.ite (fun _ => ?_) fun _ =>
    Triple.pure fun _ hs => hs
  refine Triple.bind (external_heeded fun _ hs => hs) fun reply => ?_
  refine Triple.bind (hreads _) fun interface => ?_
  refine Triple.bind (onKillswitch_heeded (raises_activate interface reply.uid)) fun _ => ?_
  refine Triple.bind (R := fun _ => Heeded profile) (Triple.modify fun _ hs => hs) fun _ => ?_
  refine Triple.bind (hreads _) fun started => Triple.ite (fun _ => ?_) fun _ => ?_
  · exact onKillswitch_heeded (raises_startProcessWatcher 1)
  · exact Triple.raise fun _ hs => ⟨hs, rfl⟩

/-- It has connected, or it was stopped. -/
def Accounted (s : Worker) : Prop := s.connectedOnce = true ∨ s.stopEvent = true

/-- It has connected, or what it raises will be reported, or it was stopped. -/
def Answered (e : Exc) (s : Worker) : Prop := s.connectedOnce = true ∨ Explained e s

theorem connectBody_heeded (hprofile : RaisesOnly (·.isException = true) (activeOutbound profile))
    (n : ℕ) : Triple (Heeded profile) (connectBody n) (fun _ => Accounted) Answered := by
  have hraised : ∀ e s, Raised profile e s → Answered e s := fun _ _ hs => Or.inr (Or.inl hs.2)
  have hstart : Triple (Heeded profile) xrayStart (fun _ => Heeded profile) (Raised profile) :=
    Triple.bind (external_heeded fun _ hs => hs) fun _ =>
      Triple.bind (external_heeded fun _ hs => hs) fun _ => Triple.pure fun _ hs => hs
  refine Triple.bind (hstart.mono_error hraised) fun _ => ?_
  refine Triple.bind (R := fun _ => Heeded profile) (Triple.reads fun _ hs => hs) fun polls => ?_
  refine Triple.bind ((waitReady_heeded polls).mono_error hraised) fun ready => ?_
  refine Triple.ite (fun _ => ?_) fun hnot => Triple.pure fun s hs => ?_
  · refine Triple.bind (R := fun _ s => s.connectedOnce = true) ?_ fun _ => ?_
    · refine Triple.bind (((runAsyncConnect_heeded hprofile).mono_error fun _ _ hs => Or.inr hs).conseq
        (fun _ hs => hs.1) (fun _ _ hs => hs) fun _ _ hs => hs) fun _ => ?_
      refine Triple.bind (activateIfEnabled_heeded.mono_error hraised) fun _ => ?_
      intro s _
      rfl
    · exact (steady_connectedOnce.watch n).mono (fun _ _ hs => Or.inl hs) fun _ _ hs => Or.inl hs
  · exact Or.inr (hs.2 (by simpa using hnot))

theorem runConnect_heeded (hprofile : RaisesOnly (·.isException = true) (activeOutbound profile))
    (n : ℕ) : Triple (Heeded profile) (runConnect n) (fun _ => Accounted) Answered := by
  have hraised : ∀ e s, Raised profile e s → Answered e s := fun _ _ hs => Or.inr (Or.inl hs.2)
  have hbinary : Triple (Heeded profile) findBinary (fun _ => Heeded profile) (Raised profile) := by
    refine Triple.bind (external_heeded fun _ hs => hs) fun reply => ?_
    exact Triple.ite (fun _ => Triple.pure fun _ hs => hs) fun _ => Triple.raise fun _ hs => ⟨hs, rfl⟩
  refine Triple.bind (hbinary.mono_error hraised) fun _ => ?_
  refine Triple.bind (R := fun _ => Heeded profile) (Triple.mono_error ?_ hraised) fun _ => ?_
  · exact external_heeded fun _ hs => hs
  refine Triple.bind ((external_heeded fun _ hs => hs).mono_error hraised) fun _ => ?_
  refine Triple.bind (R := fun _ => Heeded profile) (Triple.modify fun _ hs => hs) fun _ => ?_
  refine Triple.handle (connectBody_heeded hprofile n) (fun e he => ?_) fun _ _ _ hs => hs
  intro s _
  rw [abandon_raises]
  exact Or.inr (Or.inl he)

end Silence

/-! ## The run -/

section Run

/-- The signals by which a run reports why it ends. -/
def Signal.isFailure : Signal → Bool
  | .connectionError _ => true
  | .killswitchTriggered _ => true
  | _ => false

/-- Every `Exception` is reported. -/
theorem report_error (kind : ErrorKind) (message : String) :
    ∃ item signal, report (.error kind message) = emit item ∧ item.signal? = some signal ∧
      signal.isFailure = true := by
  cases kind <;> exact ⟨_, _, rfl, rfl, rfl⟩

theorem Open.failure {s : Worker} (h : Open s) {item : Item} {signal : Signal}
    (hitem : item.signal? = some signal) (hfailure : signal.isFailure = true) :
    (s.record item).stage = some (.failed s.connectedOnce) := by
  rcases h with ⟨hstage, honce⟩ | ⟨hstage, honce⟩ <;> rw [stage_record hstage hitem, honce]
  · cases signal <;> first | rfl | cases hfailure
  · cases signal <;> first | rfl | cases hfailure

/-- What `run` finds when `_run_connect` has ended. -/
def Settled : Except Exc Bool → Worker → Prop
  | .ok ended, s => Underway ended s ∧ Accounted s
  | .error e, s => if e.isException = true then s.stage = some (.failed s.connectedOnce)
      else Open s ∧ Accounted s

theorem report_settled (e : Exc) :
    Triple (fun s => Open s ∧ Answered e s) (report e) (fun _ => Settled (.error e))
      (fun _ _ => False) := by
  cases e with
  | error kind message =>
    obtain ⟨item, signal, hreport, hitem, hfailure⟩ := report_error kind message
    rw [hreport]
    exact Triple.modify fun s hs => hs.1.failure hitem hfailure
  | cancelled => exact Triple.pure fun s hs => ⟨hs.1, hs.2.imp_right fun h => h.resolve_left nofun⟩
  | keyboardInterrupt =>
    exact Triple.pure fun s hs => ⟨hs.1, hs.2.imp_right fun h => h.resolve_left nofun⟩

theorem connectPhase_settled {s : Worker} (hfresh : Fresh s) (hpending : s.pending = false)
    (hprofile : RaisesOnly (·.isException = true) (activeOutbound s.profile)) (n : ℕ) :
    ∃ result s₁, connectPhase n s = (.ok result, s₁) ∧ Settled result s₁ := by
  have hbegins : Triple (fun t => Fresh t ∧ Heeded s.profile t) (connectPhase n) Settled
      (fun _ _ => False) := by
    have htick : Triple (fun t => Fresh t ∧ Heeded s.profile t) tick
        (fun _ t => Fresh t ∧ Heeded s.profile t) (fun _ _ => False) := fun t ht =>
      ⟨unobserved_fresh.tick t ht.1, heeded_tick t ht.2⟩
    refine Triple.bind htick fun _ => ?_
    refine Triple.bind (R := fun _ t => Fresh t ∧ Heeded s.profile t) (Triple.modify fun _ ht => ht)
      fun _ => ?_
    refine Triple.bind (Triple.outcome ((runConnect_open n).and (runConnect_heeded hprofile n)))
      fun result => ?_
    cases result with
    | ok ended => exact Triple.pure fun _ ht => ht
    | error e => exact Triple.bind (report_settled e) fun _ => Triple.pure fun _ ht => ht
  have hstart : Heeded s.profile s := ⟨fun h => absurd (hpending.symm.trans h) Bool.false_ne_true, rfl⟩
  have h := hbegins s ⟨hfresh, hstart⟩
  rcases hrun : connectPhase n s with ⟨e | result, s₁⟩ <;> rw [hrun] at h
  · exact h.elim
  · exact ⟨result, s₁, rfl, h⟩

/-- What the window has been told. -/
def Worker.told (s : Worker) : List Signal × Bool := (s.signals, s.connectedOnce)

theorem stage_told {s s' : Worker} (h : s'.told = s.told) :
    s'.stage = s.stage ∧ s'.connectedOnce = s.connectedOnce :=
  ⟨congrArg (fun told : List Signal × Bool => Stage.connecting.after told.1) h, congrArg Prod.snd h⟩

theorem told_mute (s : Worker) {item : Item} (hitem : item.signal? = none) :
    (s.record item).told = s.told := by
  unfold Worker.told
  rw [signals_record, hitem, Option.toList_none, List.append_nil]
  rfl

theorem offstage_told : Offstage Worker.told := fun _ _ _ _ _ _ _ _ _ => rfl

/-- `_cleanup` signals nothing. -/
theorem frames_cleanup : Frames Worker.told cleanup := by
  have hexternal : Frames Worker.told (external id) := by
    refine Frames.bind offstage_told.tick fun _ => Frames.bind (fun _ => rfl) fun reply => ?_
    cases reply.failure with
    | none => exact Frames.bind (Frames.modify fun _ => rfl) fun _ => Frames.pure _
    | some failed => exact Frames.raise _
  have hemit {item : Item} (hitem : item.signal? = none) : Frames Worker.told (emit item) :=
    Frames.modify fun s => told_mute s hitem
  have hkillswitch {α : Type} (m : Act Exc System α) : Frames Worker.told (onKillswitch m) :=
    Frames.zoom m fun _ _ => rfl
  have hattempt {label : String} {release : Work Unit} (h : Frames Worker.told release) :
      Frames (fun p : Worker × List String => p.1.told) (attempt label release) :=
    Teardown.frames_attempt h (Frames.pure _)
  have hlift {α : Type} {m : Work α} (h : Frames Worker.told m) :
      Frames (fun p : Worker × List String => p.1.told) (Teardown.lift m) := Teardown.frames_lift h
  refine Frames.of_keeps fun c => Keeps.withLocal (Frames.keeps_eq ?_ c) _
  refine Frames.bind (frames_releaseClient offstage_told) fun _ => ?_
  refine Frames.bind (hattempt ?_) fun _ => ?_
  · exact Frames.bind (hkillswitch _) fun _ => Frames.bind hexternal fun _ =>
      Frames.bind (hkillswitch _) fun _ => Frames.pure _
  refine Frames.bind (hattempt ?_) fun _ => ?_
  · refine Frames.bind (Frames.reads _) fun active => Frames.ite ?_ (Frames.pure _)
    exact Frames.bind (hemit rfl) fun _ => Frames.bind hexternal fun _ => hkillswitch _
  refine Frames.bind ?_ fun _ => ?_
  · refine Frames.bind (hlift (Frames.reads _)) fun started => Frames.ite ?_ (Frames.pure _)
    refine Frames.bind (hlift (Frames.modify fun _ => rfl)) fun _ => hattempt ?_
    exact Frames.bind (hemit rfl) fun _ => Frames.bind hexternal fun _ => Frames.pure _
  · refine Frames.bind (hlift (Frames.reads _)) fun created => Frames.ite ?_ (Frames.pure _)
    refine Frames.bind (hlift (Frames.modify fun _ => rfl)) fun _ => hattempt ?_
    exact Frames.bind (hemit rfl) fun _ => Frames.bind hexternal fun _ => Frames.pure _

/-- The last signal follows a connection and nothing else. -/
theorem closeLoop_stage {s : Worker} {stage : Stage} (h : s.stage = some stage) :
    (closeLoop s).2.stage = if s.connectedOnce = true then stage.next .disconnected else some stage := by
  have htold : (tick s).2.told = s.told := offstage_told.tick s
  obtain ⟨hstage, honce⟩ := stage_told htold
  unfold closeLoop
  rw [bind_ok (show tick s = (.ok (), (tick s).2) from rfl), modify_bind_apply, reads_bind_apply,
    ite_run, ← honce]
  split
  · exact stage_record (s := { (tick s).2 with loop := .closed, pending := false })
      (hstage.trans h) rfl
  · exact hstage.trans h

/-- Only a run that is still in its loop returns `false`. -/
theorem run_unended {s s₁ : Worker} {n : ℕ} {result : Except Exc Bool}
    (hconnect : connectPhase n s = (.ok result, s₁)) (h : (run n s).1 = .ok false) :
    result = .ok false ∧ (run n s).2 = s₁ := by
  rcases result with e | _ | _
  · have hrun : run n s = (ensure cleanup closeLoop >>= fun _ =>
        if e.isException then (return true) else raise e) s₁ := bind_ok hconnect
    rcases hfinish : ensure cleanup closeLoop s₁ with ⟨raised | _, s₂⟩
    · rw [hrun, bind_error hfinish] at h
      cases h
    · rw [hrun, bind_ok hfinish, ite_run] at h
      split at h <;> cases h
  · exact ⟨rfl, congrArg Prod.snd (bind_ok hconnect : run n s = _)⟩
  · have hrun : run n s = (ensure cleanup closeLoop >>= fun _ => (return true : Work Bool)) s₁ :=
      bind_ok hconnect
    rcases hfinish : ensure cleanup closeLoop s₁ with ⟨raised | _, s₂⟩
    · rw [hrun, bind_error hfinish] at h
      cases h
    · rw [hrun, bind_ok hfinish] at h
      cases h

theorem Settled.final {result : Except Exc Bool} {s : Worker} (h : Settled result s)
    (hended : result ≠ .ok false) :
    ∃ stage, s.stage = some stage ∧ ∃ stage',
      (if s.connectedOnce = true then stage.next .disconnected else some stage) = some stage' ∧
      stage'.final = true ∧ (stage' = .connecting → s.stopEvent = true) := by
  have hopen (hs : Open s) (haccounted : Accounted s) : ∃ stage, s.stage = some stage ∧ ∃ stage',
      (if s.connectedOnce = true then stage.next .disconnected else some stage) = some stage' ∧
      stage'.final = true ∧ (stage' = .connecting → s.stopEvent = true) := by
    rcases hs with ⟨hstage, honce⟩ | ⟨hstage, honce⟩ <;> rw [honce]
    · refine ⟨_, hstage, _, rfl, rfl, fun _ => haccounted.resolve_left fun h => ?_⟩
      exact Bool.false_ne_true (honce.symm.trans h)
    · exact ⟨_, hstage, _, rfl, rfl, nofun⟩
  rcases result with e | _ | _
  · change if e.isException = true then s.stage = some (.failed s.connectedOnce)
      else Open s ∧ Accounted s at h
    split at h
    · refine ⟨_, h, ?_⟩
      cases s.connectedOnce with
      | false => exact ⟨_, rfl, rfl, nofun⟩
      | true => exact ⟨_, rfl, rfl, nofun⟩
    · exact hopen h.1 h.2
  · exact absurd rfl hended
  · exact hopen (h.1.symm.imp_left And.left) h.2

/-- **The signals of a run.** They come in order, whenever `stop` is called. A run that has ended
has told the window so, unless it was stopped before it connected. -/
theorem signals_of_run {s : Worker} (hlog : s.log = []) (honce : s.connectedOnce = false)
    (hpending : s.pending = false)
    (hprofile : RaisesOnly (·.isException = true) (activeOutbound s.profile)) (n : ℕ) :
    ∃ stage, (run n s).2.stage = some stage ∧
      ((run n s).1 = .ok false → stage = .connected) ∧
      ((run n s).1 ≠ .ok false → stage.final = true ∧
        (stage = .connecting → (connectPhase n s).2.stopEvent = true)) := by
  have hfresh : Fresh s := by
    refine ⟨?_, honce⟩
    unfold Worker.stage Worker.signals
    rw [hlog]
    rfl
  obtain ⟨result, s₁, hconnect, hsettled⟩ := connectPhase_settled hfresh hpending hprofile n
  rw [show (connectPhase n s).2 = s₁ from congrArg Prod.snd hconnect]
  by_cases hended : (run n s).1 = .ok false
  · obtain ⟨rfl, hlast⟩ := run_unended hconnect hended
    have hlive : Live s₁ := hsettled.1.resolve_right fun h => Bool.false_ne_true h.2
    exact ⟨.connected, hlast ▸ hlive.1, fun _ => rfl, fun h => absurd hended h⟩
  · have hresult : result ≠ .ok false := by
      rintro rfl
      exact hended (congrArg Prod.fst (bind_ok hconnect : run n s = _))
    obtain ⟨stage, hstage, stage', hnext, hfinal, hsilent⟩ := hsettled.final hresult
    obtain ⟨hcleanup, honce₁⟩ := stage_told (frames_cleanup s₁)
    refine ⟨stage', ?_, fun h => absurd h hended, fun _ => ⟨hfinal, hsilent⟩⟩
    rw [run_snd hconnect hended, closeLoop_stage (hcleanup.trans hstage), honce₁]
    exact hnext

end Run

end Bimarz.Gui
