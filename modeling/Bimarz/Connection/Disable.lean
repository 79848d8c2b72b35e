import Bimarz.Connection.Frames
import Bimarz.Connection.Invariant
import Bimarz.Connection.Rollback

/-!
# A kill-switch that could not be disabled

`KillSwitchManager.deactivate` gives up by returning, so neither cleanup routine learns of it.
`disable_reported_iff` says when a rollback or a cleanup keeps what it should: that a kill-switch
that is still active is reported by an ERROR event and stays marked as enabled.
-/

namespace Bimarz.Connection

open Effect Effect.Act
open KillSwitch (System)

/-! ## What the releases do to the kill-switch -/

/-- The kill-switch, the flag that says it is enabled, and whether a cleanup has run. -/
def ConnectionService.protection (s : ConnectionService World) : System × Bool × Bool :=
  (s.world.killswitch, s.killswitchEnabled, s.cleaned)

section Frames

theorem aside_killswitch : Aside World.killswitch := fun _ _ _ _ _ _ => rfl

theorem protection_onWorld {α : Type} {m : Act Exc World α} (hm : Frames World.killswitch m) :
    Frames ConnectionService.protection (onWorld m) := fun s =>
  congrArg (·, s.killswitchEnabled, s.cleaned) (hm s.world)

theorem protection_invoke {op : Op} {m : Act Exc World Unit} (hm : Frames World.killswitch m) :
    Frames ConnectionService.protection (invoke op m) :=
  invoke_frames (protection_onWorld hm) fun _ => Frames.modify fun _ => rfl

variable (config : AppConfig)

theorem protection_emit (event : ConnectionEvent) (payload : EventPayload) :
    Frames ConnectionService.protection (emit (services config) event payload) := by
  refine Frames.bind (Frames.modify fun _ => rfl) fun _ => ?_
  refine Frames.handle (protection_onWorld ?_) fun _ => Frames.pure _
  exact aside_killswitch.call_then fun _ => Frames.pure _

theorem protection_attemptSignals :
    Frames (fun p => p.1.protection) (attemptSignals (services config)) := by
  refine Teardown.frames_attempt (v := ConnectionService.protection) ?_ (Frames.pure _)
  refine Frames.bind (Frames.reads _) fun registered => Frames.ite (Frames.pure _) ?_
  refine Frames.bind (protection_invoke (Frames.forM (fun sig => ?_) _)) fun _ =>
    Frames.modify fun _ => rfl
  refine Frames.handle ?_ fun _ => Frames.pure _
  exact aside_killswitch.call_then fun _ => Frames.pure _

theorem protection_attemptRemoveOutbound {orElse : Conn World Unit}
    (h : Frames ConnectionService.protection orElse) :
    Frames (fun p => p.1.protection) (attemptRemoveOutbound (services config) orElse) :=
  Teardown.frames_attempt (v := ConnectionService.protection)
    (protection_invoke (aside_killswitch.engineRemove true)) h

theorem protection_attemptClose :
    Frames (fun p => p.1.protection) (attemptClose (services config)) :=
  Teardown.frames_attempt (v := ConnectionService.protection)
    (protection_invoke (aside_killswitch.engineClose fun _ _ => rfl)) (Frames.pure _)

theorem protection_attemptProcessStop {orElse : Conn World Unit}
    (h : Frames ConnectionService.protection orElse) :
    Frames (fun p => p.1.protection) (attemptProcessStop (services config) orElse) :=
  Teardown.frames_attempt (v := ConnectionService.protection)
    (protection_invoke (aside_killswitch.processStop fun _ _ => rfl)) h

theorem protection_lift {α : Type} {m : Conn World α} (hm : Frames ConnectionService.protection m) :
    Frames (fun p : ConnectionService World × List String => p.1.protection) (Teardown.lift m) :=
  Teardown.frames_lift hm

theorem protection_reportErrors :
    Frames (fun p => p.1.protection) (reportErrors (services config)) := by
  refine Frames.bind (Frames.reads _) fun errors => Frames.ite ?_ (Frames.pure _)
  exact protection_lift (protection_emit config _ _)

end Frames

/-! ## Stopping the watcher twice -/

section Watcher

variable {k : System}

/-- The watcher has ended before the second of two joins gives up: the gaps and the joins of both
attempts, and the gap between them. -/
def WatcherStops (k : System) : Prop :=
  k.WatcherEnds ∨ ¬k.Unstarted ∧
    (.clearThread ∈ k.gaps.get 2 ∨ .clearThread ∈ k.gaps.get 3 ∨ .clearThread ∈ k.gaps.get 4 ∨
      .clearThread ∈ k.gaps.get 5 ∨ k.joins.get 1 = true)

/-- An attempt to stop the watcher leaves the rules and their deletion as they were. -/
theorem stopped_removesRules (k : System) :
    (System.stopProcessWatcher k).2.RemovesRules ↔ k.RemovesRules := by
  obtain ⟨_, k', hrun, ⟨hhost, hswitch, -, -⟩, -⟩ := KillSwitch.stopProcessWatcher_spec k
  rw [hrun]
  unfold System.RemovesRules
  rw [hswitch, hhost, show k'.state.interface = _ from congrArg KillSwitch.Switch.interface hswitch,
    show k'.state.xrayUid = _ from congrArg KillSwitch.Switch.xrayUid hswitch]
  exact Iff.rfl

/-- What an attempt to stop the watcher makes of its thread. -/
inductive Thread (k k' : System) : Prop
  | ended (hends : k.WatcherEnds) (hthread : k'.manager.watcherThread = .absent)
  | unstarted (hunstarted : k.Unstarted) (hthread : k'.Unstarted)
  | goesOn (hnot : ¬k.WatcherEnds) (hstarted : ¬k.Unstarted) (hstarted' : ¬k'.Unstarted)
      (hgaps : k'.gaps = k.gaps.tail.tail.tail) (hjoins : k'.joins = k.joins.tail)
      (hthread : k'.manager.watcherThread = .alive ↔ .clearThread ∉ k.gaps.get 2)

/-- A watcher that has ended leaves no thread; otherwise the attempt used up three gaps and a
join. -/
theorem stopProcessWatcher_thread (k : System) : Thread k (System.stopProcessWatcher k).2 := by
  obtain ⟨halive, hunstarted⟩ := KillSwitch.afterGap_thread k.requested
  have hrun : System.stopProcessWatcher k = System.endWatcher k.requested :=
    bind_ok (KillSwitch.requestStop_run k)
  have hends : k.WatcherEnds ↔ k.requested.Ends := Iff.rfl
  rw [hrun]
  unfold System.endWatcher
  rw [bind_ok (KillSwitch.interleave_run _), reads_bind_apply]
  cases hthread : k.requested.afterGap.manager.watcherThread with
  | absent =>
    refine .ended ?_ ((KillSwitch.markStopped_watcherThread _).trans hthread)
    cases hbefore : k.requested.manager.watcherThread with
    | absent => exact Or.inl hbefore
    | unstarted =>
      exact KillSwitch.WatcherThread.noConfusion (hthread.symm.trans (hunstarted.mpr hbefore))
    | alive =>
      refine Or.inr ⟨hbefore, Or.inl ?_⟩
      by_contra hclear
      exact KillSwitch.WatcherThread.noConfusion (hthread.symm.trans (halive.mpr ⟨hbefore, hclear⟩))
  | unstarted =>
    exact .unstarted ((KillSwitch.requested_unstarted k).mp (hunstarted.mp hthread)) hthread
  | alive =>
    obtain ⟨hbefore, hclear⟩ := halive.mp hthread
    obtain ⟨halive', hunstarted'⟩ := KillSwitch.afterGap_thread k.requested.afterGap
    simp only [bind_ok (KillSwitch.interleave_run k.requested.afterGap)]
    by_cases hj : k.joins.head = true
    · rw [bind_ok (KillSwitch.joinThread_true (by exact hj))]
      exact .ended (Or.inr ⟨hbefore, Or.inr hj⟩) (KillSwitch.markStopped_watcherThread _)
    · rw [bind_ok (KillSwitch.joinThread_false (by exact hj))]
      have hstarted : ¬k.requested.Unstarted := fun h =>
        KillSwitch.WatcherThread.noConfusion (h.symm.trans hbefore)
      refine .goesOn ?_ (mt (KillSwitch.requested_unstarted k).mpr hstarted) ?_ rfl rfl ?_
      · rintro (habsent | ⟨-, h | h⟩)
        · exact KillSwitch.WatcherThread.noConfusion (habsent.symm.trans hbefore)
        · exact hclear h
        · exact hj h
      · exact fun h => KillSwitch.WatcherThread.noConfusion
          ((hunstarted'.mp h).symm.trans hthread)
      · exact halive'.trans (and_iff_right hthread)

/-- A watcher that was started ends if it is gone after a gap, or is joined. -/
theorem watcherEnds_started (h : ¬k.Unstarted) :
    k.WatcherEnds ↔ (k.manager.watcherThread = .alive → .clearThread ∈ k.gaps.head ∨
      .clearThread ∈ k.gaps.get 1 ∨ k.joins.head = true) := by
  have hthread : k.requested.manager.watcherThread = .alive ↔
      k.manager.watcherThread = .alive ∧ .clearThread ∉ k.gaps.head :=
    (KillSwitch.afterGap_thread k).1
  have hstarted : ¬k.requested.Unstarted := mt (KillSwitch.requested_unstarted k).mp h
  constructor
  · rintro (habsent | ⟨-, hends⟩) halive
    · left
      by_contra hclear
      exact KillSwitch.WatcherThread.noConfusion
        (habsent.symm.trans (hthread.mpr ⟨halive, hclear⟩))
    · exact Or.inr hends
  · intro hends
    cases hafter : k.requested.manager.watcherThread with
    | absent => exact Or.inl hafter
    | unstarted => exact absurd hafter hstarted
    | alive =>
      obtain ⟨halive, hclear⟩ := hthread.mp hafter
      exact Or.inr ⟨hafter, (hends halive).resolve_left hclear⟩

/-- After an attempt to stop the watcher, a deactivation goes through exactly if it removes the
rules and the watcher has ended by then. -/
theorem stopped_deactivates (k : System) :
    (System.stopProcessWatcher k).2.Deactivates ↔ k.RemovesRules ∧ WatcherStops k := by
  refine and_congr (stopped_removesRules k) ?_
  have hthread := stopProcessWatcher_thread k
  generalize (System.stopProcessWatcher k).2 = k' at hthread ⊢
  cases hthread with
  | ended hends hthread =>
    have hstarted : ¬k'.afterGap.Unstarted := fun h => KillSwitch.WatcherThread.noConfusion
      (hthread.symm.trans ((KillSwitch.afterGap_unstarted k').mp h))
    refine iff_of_true ((watcherEnds_started hstarted).mpr fun halive => ?_) (Or.inl hends)
    exact absurd (hthread.symm.trans ((KillSwitch.afterGap_thread k').1.mp halive).1) (by decide)
  | unstarted hunstarted hthread =>
    refine iff_of_false (fun h => ?_) ?_
    · exact System.WatcherEnds.started h ((KillSwitch.afterGap_unstarted k').mpr hthread)
    · rintro (h | ⟨hstarted, -⟩)
      · exact System.WatcherEnds.started h hunstarted
      · exact hstarted hunstarted
  | goesOn hnot hstarted hstarted' hgaps hjoins hthread =>
    have hafter : ¬k'.afterGap.Unstarted := mt (KillSwitch.afterGap_unstarted k').mp hstarted'
    have hon : k'.afterGap.manager.watcherThread = .alive ↔
        .clearThread ∉ k.gaps.get 2 ∧ .clearThread ∉ k.gaps.get 3 := by
      rw [(KillSwitch.afterGap_thread k').1, hthread, hgaps]
      rfl
    have hlater : (.clearThread ∈ k'.afterGap.gaps.head ∨ .clearThread ∈ k'.afterGap.gaps.get 1 ∨
        k'.afterGap.joins.head = true) ↔
        .clearThread ∈ k.gaps.get 4 ∨ .clearThread ∈ k.gaps.get 5 ∨ k.joins.get 1 = true := by
      show _ ∈ k'.gaps.tail.head ∨ _ ∈ k'.gaps.tail.get 1 ∨ k'.joins.head = true ↔ _
      rw [hgaps, hjoins]
      rfl
    rw [watcherEnds_started hafter, hon, hlater, WatcherStops, or_iff_right hnot,
      and_iff_right hstarted, imp_iff_not_or, not_and_or, not_not, not_not, or_assoc]

end Watcher

/-! ## The two routines -/

section Routines

variable (config : AppConfig)

theorem onKillswitch_ok {α : Type} {m : Act Exc System α} {w : World} {a : α} {k : System}
    (h : m w.killswitch = (.ok a, k)) : onKillswitch m w = (.ok a, { w with killswitch := k }) := by
  unfold onKillswitch zoom; rw [h]

theorem onKillswitch_error {α : Type} {m : Act Exc System α} {w : World} {e : Exc} {k : System}
    (h : m w.killswitch = (.error e, k)) :
    onKillswitch m w = (.error e, { w with killswitch := k }) := by
  unfold onKillswitch zoom; rw [h]

/-- What both routines do to the kill-switch. -/
def releasedKillswitch (k : System) (enabled : Bool) : System :=
  if enabled then (System.deactivate (System.stopProcessWatcher k).2).2
  else (System.stopProcessWatcher k).2

/-- Whether both routines leave the flag set: only a `disable` that raises does. -/
def stillEnabled (k : System) (enabled : Bool) : Bool :=
  enabled && !(System.deactivate (System.stopProcessWatcher k).2).1.isOk

/-- The protection at a moment of a teardown. -/
abbrev Protected (k : System) (enabled cleaned : Bool)
    (p : ConnectionService World × List String) : Prop :=
  p.1.protection = (k, enabled, cleaned)

/-- How far a teardown of `k` has come. -/
inductive Stage (k : System) (enabled : Bool) : System → Bool → Prop
  | watched : Stage k enabled k enabled
  | unwatched : Stage k enabled (System.stopProcessWatcher k).2 enabled
  | released : Stage k enabled (releasedKillswitch k enabled) (stillEnabled k enabled)

/-- What holds where a teardown is cut short: it has come to some stage. -/
def CutShort (k : System) (enabled cleaned : Bool) (s : ConnectionService World) : Prop :=
  ∃ k' enabled', Stage k enabled k' enabled' ∧ s.protection = (k', enabled', cleaned)

variable {k k' : System} {enabled enabled' cleaned : Bool}

/-- The flag, the switch and the firewall are still as they were, or the kill-switch has been
released. -/
theorem CutShort.cases {s : ConnectionService World} (h : CutShort k enabled cleaned s) :
    s.killswitchEnabled = enabled ∧ s.world.killswitch.switch = k.switch ∧
        s.world.killswitch.host = k.host ∨
      s.killswitchEnabled = stillEnabled k enabled ∧
        s.world.killswitch = releasedKillswitch k enabled := by
  obtain ⟨k', enabled', hstage, hprotection⟩ := h
  rw [show s.world.killswitch = k' from congrArg Prod.fst hprotection,
    show s.killswitchEnabled = enabled' from congrArg (·.2.1) hprotection]
  cases hstage with
  | watched => exact Or.inl ⟨rfl, rfl, rfl⟩
  | unwatched =>
    obtain ⟨_, k', hstop, ⟨hhost, hswitch, -, -⟩, -⟩ := KillSwitch.stopProcessWatcher_spec k
    rw [hstop]
    exact Or.inl ⟨rfl, hswitch, hhost⟩
  | released => exact Or.inr ⟨rfl, rfl⟩

theorem cutShort_of_stage (h : Stage k enabled k' enabled')
    {p : ConnectionService World × List String} (hp : Protected k' enabled' cleaned p) :
    CutShort k enabled cleaned p.1 := ⟨k', enabled', h, hp⟩

/-- A release that leaves the protection alone, in a teardown that may be cut short. -/
theorem protected_step {α : Type} {m : Release World α} (h : Stage k enabled k' enabled')
    (hm : Frames (fun p => p.1.protection) m) :
    Triple (Protected k' enabled' cleaned) m (fun _ => Protected k' enabled' cleaned)
      (fun _ p => CutShort k enabled cleaned p.1) :=
  (hm.keeps_eq (k', enabled', cleaned)).mono_error fun _ _ hp => cutShort_of_stage h hp

/-- Stopping the watcher returns, whether it was stopped or not. -/
theorem protected_attemptStopWatcher {E : Exc → ConnectionService World × List String → Prop} :
    Triple (Protected k enabled cleaned) (attemptStopWatcher (services config))
      (fun _ => Protected (System.stopProcessWatcher k).2 enabled cleaned) E := by
  rintro ⟨s, errs⟩ hp
  change (s.world.killswitch, s.killswitchEnabled, s.cleaned) = (k, enabled, cleaned) at hp
  cases hp
  obtain ⟨outcome, k', hstop, -, hstops⟩ := KillSwitch.stopProcessWatcher_spec s.world.killswitch
  unfold attemptStopWatcher attempt
  cases hstops with
  | returned b hstarted hb =>
    have hrun : (services config).stopWatcher s.world =
        (.ok (), { s.world with killswitch := k' }) := bind_ok (onKillswitch_ok hstop)
    rw [Teardown.attempt_ok (invoke_ok hrun), hstop]
    rfl
  | raised hunstarted =>
    have hrun : (services config).stopWatcher s.world =
        (.error KillSwitch.cannotJoin, { s.world with killswitch := k' }) :=
      bind_error (onKillswitch_error hstop)
    rw [Teardown.attempt_caught (invoke_error hrun) rfl, hstop]
    rfl

/-- Disabling clears the flag where it returns, whether the kill-switch was deactivated or not. -/
theorem protected_releaseKillswitch {E : Exc → ConnectionService World × List String → Prop} :
    Triple (Protected (System.stopProcessWatcher k).2 enabled cleaned)
      (releaseKillswitch (services config))
      (fun _ => Protected (releasedKillswitch k enabled) (stillEnabled k enabled) cleaned) E := by
  rintro ⟨s, errs⟩ hp
  change (s.world.killswitch, s.killswitchEnabled, s.cleaned) = (_, enabled, cleaned) at hp
  obtain ⟨hk, rfl, rfl⟩ : s.world.killswitch = (System.stopProcessWatcher k).2 ∧
      s.killswitchEnabled = enabled ∧ s.cleaned = cleaned := by simpa using hp
  unfold releaseKillswitch releasedKillswitch stillEnabled
  rw [bind_ok (Teardown.lift_ok (reads_apply ConnectionService.killswitchEnabled s) errs), ite_run,
    ← hk]
  cases henabled : s.killswitchEnabled with
  | false => exact congrArg (s.world.killswitch, ·, s.cleaned) henabled
  | true =>
    obtain ⟨outcome, k', hoff, -, hleaves⟩ := KillSwitch.deactivate_active s.world.killswitch
    rw [if_pos rfl, attemptDisable, attempt, hoff]
    cases hleaves with
    | returned _ =>
      have hrun : (services config).disable s.world =
          (.ok (), { s.world with killswitch := k' }) := onKillswitch_ok hoff
      rw [Teardown.attempt_ok (invoke_ok hrun)]
      rfl
    | raised _ _ =>
      have hrun : (services config).disable s.world =
          (.error KillSwitch.cannotJoin, { s.world with killswitch := k' }) :=
        onKillswitch_error hoff
      rw [Teardown.attempt_caught (invoke_error hrun) rfl]
      exact congrArg (k', ·, s.cleaned) henabled

/-- A rollback that returns has come to its end, whatever became of the kill-switch. -/
theorem rollback_protection :
    Triple (fun s => s.protection = (k, enabled, cleaned)) (rollback (services config))
      (fun _ s => s.protection =
        (releasedKillswitch k enabled, stillEnabled k enabled, cleaned))
      (fun _ => CutShort k enabled cleaned) := by
  refine Triple.withLocal (Triple.conseq (O := Protected k enabled cleaned) ?_ (fun _ hp => hp.1)
    (fun _ _ hp => hp) fun _ _ hp => hp)
  refine Triple.bind (protected_step .watched (protection_attemptSignals config)) fun _ => ?_
  refine Triple.bind (protected_attemptStopWatcher config) fun _ => ?_
  refine Triple.bind (protected_step .unwatched ?_) fun _ => ?_
  · refine Frames.bind (protection_lift (Frames.reads _)) fun _ => Frames.ite ?_ (Frames.pure _)
    exact protection_attemptRemoveOutbound config (Frames.modify fun _ => rfl)
  refine Triple.bind (protected_step .unwatched ?_) fun _ => ?_
  · refine Frames.bind (protection_lift (Frames.reads _)) fun _ => Frames.ite ?_ (Frames.pure _)
    exact Frames.ensure (protection_attemptClose config) (protection_lift (Frames.modify fun _ => rfl))
  refine Triple.bind (protected_step .unwatched ?_) fun _ => ?_
  · refine Frames.bind (protection_lift (Frames.reads _)) fun _ => Frames.ite ?_ (Frames.pure _)
    refine protection_attemptProcessStop config ?_
    exact Frames.bind (Frames.modify fun _ => rfl) fun _ => protection_emit config _ _
  refine Triple.bind (protected_releaseKillswitch config) fun _ => ?_
  refine Triple.bind (protected_step .released (protection_lift (Frames.modify fun _ => rfl)))
    fun _ => ?_
  refine Triple.bind (protected_step .released (protection_reportErrors config)) fun _ => ?_
  refine Triple.bind (protected_step .released (protection_lift ?_)) fun _ => ?_
  · exact Frames.ite (protection_emit config _ _) (Frames.pure _)
  · exact protected_step .released (Frames.reads _)

/-- The `except` block of `start` leaves the kill-switch as its rollback does. -/
theorem abandon_protection (s : ConnectionService World) (e : Exc) :
    CutShort s.world.killswitch s.killswitchEnabled s.cleaned
      (abandon (services config) e s).2 := by
  let C : ConnectionService World → Prop :=
    CutShort s.world.killswitch s.killswitchEnabled s.cleaned
  have hreleased {m : Conn World Bool} (hm : Frames ConnectionService.protection m) :
      Triple (fun t => t.protection =
        (releasedKillswitch s.world.killswitch s.killswitchEnabled,
          stillEnabled s.world.killswitch s.killswitchEnabled, s.cleaned)) m
        (fun _ => C) (fun _ => C) :=
    (hm.keeps_eq _).mono (fun _ t ht => cutShort_of_stage .released (p := (t, [])) ht)
      fun _ t ht => cutShort_of_stage .released (p := (t, [])) ht
  have habandon : Triple (fun t => t.protection = s.protection) (abandon (services config) e)
      (fun _ => C) (fun _ => C) := by
    refine Triple.bind (rollback_protection config) fun errors => ?_
    refine hreleased (Frames.ite ?_ (Frames.raise e))
    exact Frames.bind (protection_emit config _ _) fun _ => Frames.raise e
  exact habandon.run rfl

/-- So has the `try` block of a cleanup that returns. -/
theorem cleanupBody_protection :
    Triple (Protected k enabled false) (cleanupBody (services config))
      (fun _ => Protected (releasedKillswitch k enabled) (stillEnabled k enabled) false)
      (fun _ p => CutShort k enabled false p.1) := by
  refine Triple.bind (protected_step .watched (protection_attemptSignals config)) fun _ => ?_
  refine Triple.bind (protected_attemptStopWatcher config) fun _ => ?_
  refine Triple.bind (protected_step .unwatched
    (protection_attemptRemoveOutbound config (Frames.pure _))) fun _ => ?_
  refine Triple.bind (protected_step .unwatched (protection_attemptClose config)) fun _ => ?_
  refine Triple.bind (protected_step .unwatched
    (protection_attemptProcessStop config (protection_emit config _ _))) fun _ => ?_
  exact protected_releaseKillswitch config

/-- The `finally` block of a cleanup marks the connection as cleaned, wherever it is cut short. -/
theorem cleanupEnd_protection (p : ConnectionService World × List String) :
    (cleanupEnd (services config) p).2.1.protection =
      (p.1.world.killswitch, p.1.killswitchEnabled, true) := by
  have hreports : Frames (fun p : ConnectionService World × List String => p.1.protection) (do
      reportErrors (services config)
      Teardown.lift (emit (services config) .cleanupDone {})) :=
    Frames.bind (protection_reportErrors config) fun _ => protection_lift (protection_emit config _ _)
  exact hreports ({ p.1 with cleaned := true }, p.2)

/-- A cleanup that is due does to the kill-switch what its `try` block does, however it ends. -/
theorem cleanup_protection {s : ConnectionService World}
    (hs : s.protection = (k, enabled, false)) :
    (cleanup (services config) s).2.cleaned = true ∧
      ((cleanupBody (services config) (s, [])).1 = .ok () ∧
          (cleanup (services config) s).2.protection =
            (releasedKillswitch k enabled, stillEnabled k enabled, true) ∨
        (cleanupBody (services config) (s, [])).1 ≠ .ok () ∧
          CutShort k enabled true (cleanup (services config) s).2) := by
  have hopen : s.cleaned = false := congrArg (·.2.2) hs
  rw [cleanup_snd (services config) hopen]
  have hbody := cleanupBody_protection config (s, []) hs
  rcases hrun : cleanupBody (services config) (s, []) with ⟨e | u, p⟩ <;> rw [hrun] at hbody
  · have hend := cleanupEnd_protection config p
    obtain ⟨k', enabled', hstage, hp⟩ := hbody
    refine ⟨congrArg (·.2.2) hend, Or.inr ⟨by simp, k', enabled', hstage, hend.trans ?_⟩⟩
    exact congrArg (fun c : System × Bool × Bool => (c.1, c.2.1, true)) hp
  · have hend := cleanupEnd_protection config p
    refine ⟨congrArg (·.2.2) hend, Or.inl ⟨rfl, hend.trans ?_⟩⟩
    exact congrArg (fun c : System × Bool × Bool => (c.1, c.2.1, true)) hbody

/-- A cleanup that returns has come to its end, whatever became of the kill-switch. -/
theorem cleanup_returned {s : ConnectionService World} (hs : s.protection = (k, enabled, false))
    (h : (cleanup (services config) s).1 = .ok ()) :
    (cleanup (services config) s).2.protection =
      (releasedKillswitch k enabled, stillEnabled k enabled, true) := by
  have hopen : s.cleaned = false := congrArg (·.2.2) hs
  rcases (cleanup_protection config hs).2 with ⟨-, hreleased⟩ | ⟨hraised, -⟩
  · exact hreleased
  · exact absurd (cleanupBody_returned hopen h) hraised

end Routines

/-! ## What is said of a kill-switch that stays enabled -/

section Reports

variable {W : Type} {svc : Services W}

/-- A flag that is still set is accounted for by a message of the teardown. -/
def Noted (p : ConnectionService W × List String) : Prop :=
  p.1.killswitchEnabled = true → ∃ message ∈ p.2, Mentions message Op.disable.label

/-- A flag that is still set is accounted for by an ERROR event. -/
def Told (s : ConnectionService W) : Prop :=
  s.killswitchEnabled = true →
    ∃ text, .emit .error { error := some text } ∈ s.log ∧ Mentions text Op.disable.label

theorem mentions_trans {a b c : String} (h : Mentions a b) (h' : Mentions b c) : Mentions a c := by
  obtain ⟨before, after, rfl⟩ := h
  obtain ⟨before', after', rfl⟩ := h'
  exact ⟨before ++ before', after' ++ after, by simp only [String.append_assoc]⟩

theorem any_release (m : Release W Unit) : Triple (fun _ => True) m (fun _ _ => True)
    (fun _ _ => True) :=
  Keeps.of_run fun _ _ => trivial

theorem releaseKillswitch_noted :
    Triple (fun _ => True) (releaseKillswitch svc) (fun _ => Noted) (fun _ _ => True) := by
  rintro ⟨s, errs⟩ -
  unfold releaseKillswitch
  rw [bind_ok (Teardown.lift_ok (reads_apply ConnectionService.killswitchEnabled s) errs), ite_run]
  cases henabled : s.killswitchEnabled with
  | false => exact fun h => absurd (henabled.symm.trans h) (by decide)
  | true =>
    rw [if_pos rfl]
    have hattempt : Triple (fun _ => True) (attemptDisable svc) (fun _ => Noted)
        (fun _ _ => True) := by
      refine Triple.bind (R := fun _ _ => True) ?_ fun raised => ?_
      · exact Keeps.of_run fun _ _ => trivial
      · cases raised with
        | none => exact fun p _ h => absurd h (by simp)
        | some e =>
          refine Triple.modify fun p _ _ => ⟨_, List.mem_append_right _ (List.mem_singleton.mpr rfl),
            "", e.message, ?_⟩
          rw [String.empty_append]
          rfl
    exact hattempt (s, errs) trivial

theorem told_emit (event : ConnectionEvent) (payload : EventPayload) :
    Keeps Told (emit svc event payload) := by
  refine emit_triple (Keeps.modify fun s hs h => ?_) fun _ _ => Keeps.of_run fun _ hs => hs
  obtain ⟨text, htext, hmentions⟩ := hs h
  exact ⟨text, List.mem_append_left _ htext, hmentions⟩

theorem reportErrors_told :
    Triple Noted (reportErrors svc) (fun _ p => Told p.1) (fun _ _ => True) := by
  rintro ⟨s, errs⟩ hs
  unfold reportErrors
  rw [Teardown.errors, reads_bind_apply, ite_run]
  by_cases hnone : errs = []
  · rw [if_neg (not_not.mpr hnone)]
    intro h
    obtain ⟨message, hmessage, -⟩ := hs h
    exact absurd hnone (List.ne_nil_of_mem hmessage)
  · rw [if_pos hnone]
    have hrecord : Triple (fun s => Noted (s, errs))
        (record (.emit .error { error := some ("; ".intercalate errs) }) : Conn W Unit)
        (fun _ => Told) (fun _ => Told) := by
      refine Triple.modify fun s hs h => ?_
      obtain ⟨message, hmessage, hmentions⟩ := hs h
      exact ⟨_, List.mem_append_right _ (List.mem_singleton.mpr rfl),
        mentions_trans (mentions_intercalate "; " hmessage) hmentions⟩
    have hemit : Triple (fun s => Noted (s, errs))
        (emit svc .error { error := some ("; ".intercalate errs) }) (fun _ => Told)
        (fun _ => Told) := emit_triple hrecord fun _ _ => Keeps.of_run fun _ hs => hs
    exact (Teardown.triple_lift hemit).returns (s, errs) hs

/-- **A rollback** that returns tells of a flag that it leaves set. -/
theorem rollback_told :
    Triple (fun _ => True) (rollback svc) (fun _ => Told) (fun _ _ => True) := by
  refine Triple.withLocal (Triple.conseq (O := fun _ => True) (F := fun _ _ => True) ?_
    (fun _ _ => trivial) (fun _ _ hp => hp) fun _ _ _ => trivial)
  refine Triple.bind (any_release _) fun _ => Triple.bind (any_release _) fun _ => ?_
  refine Triple.bind (any_release _) fun _ => Triple.bind (any_release _) fun _ => ?_
  refine Triple.bind (any_release _) fun _ => Triple.bind releaseKillswitch_noted fun _ => ?_
  refine Triple.bind (R := fun _ => Noted) (fun _ hp => hp) fun _ => ?_
  refine Triple.bind reportErrors_told fun _ => ?_
  refine Triple.bind (Teardown.keeps_lift ?_).returns fun _ => (Keeps.reads _).returns
  exact Keeps.ite (told_emit _ _) (Keeps.pure _)

/-- **A cleanup** that returns tells of a flag that it leaves set. -/
theorem cleanup_told {s s' : ConnectionService W} (hopen : s.cleaned = false)
    (h : cleanup svc s = (.ok (), s')) : Told s' := by
  have hbody : Triple (fun _ => True) (cleanupBody svc) (fun _ => Noted) (fun _ _ => True) := by
    refine Triple.bind (any_release _) fun _ => Triple.bind (any_release _) fun _ => ?_
    refine Triple.bind (any_release _) fun _ => Triple.bind (any_release _) fun _ => ?_
    exact Triple.bind (any_release _) fun _ => releaseKillswitch_noted
  have hend : Triple Noted (cleanupEnd svc) (fun _ p => Told p.1) (fun _ _ => True) := by
    refine Triple.bind (R := fun _ => Noted) (fun _ hp => hp) fun _ => ?_
    refine Triple.bind reportErrors_told fun _ => ?_
    exact (Teardown.keeps_lift (told_emit _ _)).returns
  exact cleanup_through (P := fun _ => True) hbody hend hopen trivial h

end Reports

/-! ## From the start to the release -/

section Runs

variable (config : AppConfig)

/-- An active kill-switch is marked as enabled, and an ERROR event says that it could not be
disabled. -/
def ReportsOpen (s : ConnectionService World) : Prop :=
  s.world.killswitch.state.active = true →
    s.killswitchEnabled = true ∧
      ∃ text, .emit .error { error := some text } ∈ s.log ∧ Mentions text Op.disable.label

/-- The kill-switch is off, or this connection has enabled it and nothing fails in turning it off:
the deletions take effect and the watcher ends. -/
def DisableWorks (s : ConnectionService World) : Prop :=
  s.world.killswitch.state.active = false ∨
    s.killswitchEnabled = true ∧ s.world.killswitch.RemovesRules ∧
      WatcherStops s.world.killswitch

/-- This connection has enabled the kill-switch, the deletions take effect, and then the watcher
cannot be joined because its thread was never started. -/
def DisableRaises (s : ConnectionService World) : Prop :=
  s.killswitchEnabled = true ∧ s.world.killswitch.RemovesRules ∧ s.world.killswitch.Unstarted

/-- After a release the kill-switch is off exactly if disabling works. -/
theorem releasedKillswitch_active (s : ConnectionService World) :
    (releasedKillswitch s.world.killswitch s.killswitchEnabled).state.active = false ↔
      DisableWorks s := by
  obtain ⟨_, k', hstop, ⟨-, hswitch, -, -⟩, -⟩ :=
    KillSwitch.stopProcessWatcher_spec s.world.killswitch
  have hdeactivates := stopped_deactivates s.world.killswitch
  have hactive : k'.state.active = s.world.killswitch.state.active :=
    congrArg KillSwitch.Switch.active hswitch
  unfold releasedKillswitch DisableWorks
  rw [hstop] at hdeactivates ⊢
  cases s.killswitchEnabled with
  | false => simp [hactive]
  | true =>
    obtain ⟨_, t, hoff, ht, -⟩ := KillSwitch.deactivate_active k'
    show (System.deactivate k').2.state.active = false ↔ _
    rw [hoff, ht, hactive, ← hdeactivates, and_iff_right rfl]

/-- After a release the flag is still set exactly if disabling raises. -/
theorem stillEnabled_iff (s : ConnectionService World) :
    stillEnabled s.world.killswitch s.killswitchEnabled = true ↔ DisableRaises s := by
  have hrules := stopped_removesRules s.world.killswitch
  have hthread : (System.stopProcessWatcher s.world.killswitch).2.Unstarted ↔
      s.world.killswitch.Unstarted := by
    cases stopProcessWatcher_thread s.world.killswitch with
    | ended hends hthread =>
      refine iff_of_false (fun h => ?_) (System.WatcherEnds.started hends)
      exact KillSwitch.WatcherThread.noConfusion (hthread.symm.trans h)
    | unstarted hunstarted hthread => exact iff_of_true hthread hunstarted
    | goesOn _ hstarted hstarted' => exact iff_of_false hstarted' hstarted
  unfold stillEnabled DisableRaises
  rw [Bool.and_eq_true, ← hrules, ← hthread]
  refine and_congr_right fun _ => ?_
  obtain ⟨outcome, t, hoff, -, hleaves⟩ :=
    KillSwitch.deactivate_active (System.stopProcessWatcher s.world.killswitch).2
  rw [hoff]
  cases hleaves with
  | returned hnot => exact iff_of_false Bool.false_ne_true hnot
  | raised hremoves hunstarted => exact iff_of_true rfl ⟨hremoves, hunstarted⟩

/-- Only a kill-switch that is off, or whose disabling raises, is reported as it is. -/
theorem reportsOpen_iff {s s' : ConnectionService World} {cleaned : Bool}
    (h : s'.protection = (releasedKillswitch s.world.killswitch s.killswitchEnabled,
      stillEnabled s.world.killswitch s.killswitchEnabled, cleaned)) (htold : Told s') :
    ReportsOpen s' ↔ DisableWorks s ∨ DisableRaises s := by
  have hk : s'.world.killswitch = releasedKillswitch s.world.killswitch s.killswitchEnabled :=
    congrArg Prod.fst h
  have hflag : s'.killswitchEnabled = stillEnabled s.world.killswitch s.killswitchEnabled :=
    congrArg (·.2.1) h
  rw [← releasedKillswitch_active, ← stillEnabled_iff, ← hk, ← hflag]
  constructor
  · intro hreports
    cases hactive : s'.world.killswitch.state.active with
    | false => exact Or.inl rfl
    | true => exact Or.inr (hreports hactive).1
  · rintro (hoff | henabled) hactive
    · exact absurd (hoff.symm.trans hactive) (by decide)
    · exact ⟨henabled, htold henabled⟩

/-- **A kill-switch that could not be disabled** is reported only where `disable` raises: whatever
`start` did before, after the rollback of a failed start and after a cleanup `ReportsOpen` holds
exactly if disabling has worked or has raised. -/
theorem disable_reported_iff (s : ConnectionService World) (n : ℕ) (profile : ServerProfile)
    (autoFailover killswitch : Bool) (allProfiles : Option (List ServerProfile)) :
    (∀ s₀ e s₁ errors s₂,
      prepare (services config) profile s = (.ok (), s₀) →
      startBody (services config) n profile autoFailover killswitch allProfiles s₀ =
        (.error e, s₁) →
      rollback (services config) s₁ = (.ok errors, s₂) →
      (ReportsOpen s₂ ↔ DisableWorks s₁ ∨ DisableRaises s₁)) ∧
    ∀ r s₁ s₂,
      start (services config) n profile autoFailover killswitch allProfiles s = (r, s₁) →
      cleanup (services config) s₁ = (.ok (), s₂) →
      (ReportsOpen s₂ ↔ DisableWorks s₁ ∨ DisableRaises s₁) := by
  constructor
  · intro s₀ e s₁ errors s₂ _ _ hrollback
    exact reportsOpen_iff ((rollback_protection config).of_ok rfl hrollback)
      (rollback_told.of_ok trivial hrollback)
  · intro r s₁ s₂ hstart hcleanup
    have hopen : s₁.cleaned = false := by
      have h := start_open (services config) n profile autoFailover killswitch allProfiles s
      rwa [hstart] at h
    have hbefore : s₁.protection = (s₁.world.killswitch, s₁.killswitchEnabled, false) :=
      congrArg (_, _, ·) hopen
    have hafter := cleanup_returned config hbefore (by rw [hcleanup])
    rw [hcleanup] at hafter
    exact reportsOpen_iff hafter (cleanup_told hopen hcleanup)

/-- A world whose firewall takes the two rules in and then refuses every deletion, and in which a
stop is requested at once. -/
def refusingWorld : World where
  answers := Stream'.const { uid := some 1000 }
  killswitch := .freshWith (.cons .runs (.cons .runs (.const .nonZero))) (.const true)

/-- **Not reported.** Both deletions fail, the manager keeps the kill-switch active, and the
cleanup clears the flag and emits no ERROR event. -/
theorem disable_unreported :
    ¬∀ (w : World) (n : ℕ) (profile : ServerProfile) (autoFailover : Bool)
      (allProfiles : Option (List ServerProfile)),
      let s := (start (services {}) n profile autoFailover true allProfiles { world := w }).2
      (cleanup (services {}) s).1.isOk = true → ReportsOpen (cleanup (services {}) s).2 := by
  intro h
  have := (h refusingWorld 1 ⟨"a", "", "", .empty, ""⟩ false none (by decide) (by decide)).1
  revert this
  decide

end Runs

end Bimarz.Connection
