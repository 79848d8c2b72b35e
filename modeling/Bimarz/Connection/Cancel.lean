import Bimarz.Connection.Rollback
import Mathlib.Logic.Function.Iterate

/-!
# Cancelling a teardown

A `CancelledError` may arrive where a teardown awaits the engine, and no `except Exception` catches
it. `attempted_iff` says when the process and the kill-switch of a run have had their release
attempted all the same: `cleanup` marks the service as cleaned even if it is interrupted, and the
next one does nothing.
-/

namespace Bimarz.Connection

open Effect Effect.Act

/-! ## What is outstanding -/

/-- What has been acquired and has not had its release attempted. -/
structure Outstanding where
  process : Bool := false
  killswitch : Bool := false
  deriving DecidableEq, Repr

/-- `start` begins with nothing; an attempt counts, whatever comes of it. -/
def Outstanding.step (o : Outstanding) : Item → Outstanding
  | .emit .started _ => {}
  | .call .processStart none => { o with process := true }
  | .call .enable none => { o with killswitch := true }
  | .call .processStop _ => { o with process := false }
  | .call .disable _ => { o with killswitch := false }
  | _ => o

/-- What is outstanding at the end of a log. -/
def outstanding (log : List Item) : Outstanding := log.foldl Outstanding.step {}

@[simp] theorem outstanding_append (log : List Item) (item : Item) :
    outstanding (log ++ [item]) = (outstanding log).step item := List.foldl_append

section Teardown

variable {W : Type} (svc : Services W)

/-- The ERROR event of `__aexit__`, unless the block was cancelled or interrupted. -/
def announce (exc : Option Exc) : Conn W Unit :=
  match exc with
  | some (.error _ message) => emit svc .error { error := message }
  | _ => pure ()

/-- `__aexit__`. -/
def aexit (exc : Option Exc) : Conn W Unit := do
  announce svc exc
  cleanup svc

/-- The steps of `cleanup` up to the second of its two awaits. -/
def cleanupFront : Release W Unit := do
  attemptSignals svc
  attemptStopWatcher svc
  attemptRemoveOutbound svc (pure ())
  attemptClose svc

/-- A cleanup from `s` is interrupted while it awaits the engine. -/
def Interrupted (s : ConnectionService W) : Prop :=
  ∃ e p, cleanupFront svc (s, []) = (.error e, p)

/-- The state after `k` more cleanups. -/
def cleanups (k : ℕ) (s : ConnectionService W) : ConnectionService W :=
  (fun s => (cleanup svc s).2)^[k] s

/-- What a teardown does not await raises nothing but Exceptions. -/
structure Services.AwaitsEngine : Prop where
  removeSignalHandler : ∀ sig, RaisesExceptions (svc.removeSignalHandler sig)
  stopWatcher : RaisesExceptions svc.stopWatcher
  processStop : RaisesExceptions svc.processStop
  disable : RaisesExceptions svc.disable
  eventHandler : ∀ handler, svc.eventHandler = some handler → ∀ event payload,
    RaisesExceptions (handler event payload)

end Teardown

/-! ## The flag of the kill-switch -/

section Flagged

variable {W : Type}

/-- An outstanding kill-switch is marked as enabled. -/
def Flagged (s : ConnectionService W) : Prop :=
  (outstanding s.log).killswitch = true → s.killswitchEnabled = true

theorem step_killswitch {o : Outstanding} {item : Item} (hitem : item ≠ .call .enable none)
    (h : (o.step item).killswitch = true) : o.killswitch = true := by
  cases item with
  | call op raised =>
    cases raised with
    | none =>
      cases op with
      | enable => exact absurd rfl hitem
      | disable => cases h
      | _ => exact h
    | some e =>
      cases op with
      | disable => cases h
      | _ => exact h
  | emit event payload =>
    cases event with
    | started => cases h
    | _ => exact h
  | lookup id found => exact h

theorem flagged_record {item : Item} (hitem : item ≠ .call .enable none) :
    Keeps Flagged (record item : Conn W Unit) := Keeps.modify fun s hs h => by
  rw [outstanding_append] at h
  exact hs (step_killswitch hitem h)

theorem flagged_onWorld {α : Type} (m : Act Exc W α) : Keeps Flagged (onWorld m) :=
  Keeps.of_run fun _ hs => hs

theorem flagged_invoke {op : Op} (hop : op ≠ .enable) (m : Act Exc W Unit) :
    Keeps Flagged (invoke op m) :=
  invoke_keeps (flagged_onWorld m) fun _ => flagged_record (by simp [hop])

theorem flagged_invoke_then {op : Op} {m : Act Exc W Unit}
    {f : ConnectionService W → ConnectionService W} (hop : op ≠ .enable)
    (hf : ∀ s, Flagged s → Flagged (f s)) : Keeps Flagged (do invoke op m; modify f) :=
  Keeps.bind (flagged_invoke hop m) fun _ => Keeps.modify hf

variable (svc : Services W)

theorem flagged_enableKillswitch : Keeps Flagged (enableKillswitch svc) := by
  refine Keeps.of_run fun s hs => ?_
  unfold enableKillswitch
  rcases hm : svc.enable svc.config.defaultInterface s.world with ⟨e | u, w⟩
  · rw [bind_error (invoke_error hm)]
    show (outstanding (s.log ++ [.call .enable (some e)])).killswitch = true → _
    rw [outstanding_append]
    exact hs
  · rw [bind_ok (invoke_ok hm)]
    exact fun _ => rfl

theorem stable_flagged : Stable svc Flagged where
  observe _ := flagged_onWorld _
  emitted _ _ _ := flagged_record nofun
  lookedUp _ _ := flagged_record nofun
  registered _ := Keeps.modify fun _ hs => hs
  startProcess _ := flagged_invoke_then (by decide) fun _ hs => hs
  connectEngine := flagged_invoke_then (by decide) fun _ hs => hs
  addOutbound _ := flagged_invoke_then (by decide) fun _ hs => hs
  removeOutbound := flagged_invoke_then (by decide) fun _ hs => hs
  enableKillswitch := flagged_enableKillswitch svc
  startWatcher := flagged_invoke (by decide) _
  markStarted := Keeps.modify fun _ hs => hs

theorem flagged_emit (event : ConnectionEvent) (payload : EventPayload) :
    Keeps Flagged (emit svc event payload) :=
  emit_triple (flagged_record nofun) fun _ _ => flagged_onWorld _

/-- After an attempt to disable it, a kill-switch is not outstanding. -/
theorem attempted_disable (m : Act Exc W Unit) :
    Triple (fun _ => True) (invoke .disable m)
      (fun _ s => (outstanding s.log).killswitch = false)
      (fun _ s => (outstanding s.log).killswitch = false) := by
  intro s _
  have hstep (raised : Option Exc) :
      (outstanding (s.log ++ [.call .disable raised])).killswitch = false := by
    rw [outstanding_append]
    cases raised <;> rfl
  rcases hm : m s.world with ⟨e | u, w⟩
  · rw [invoke_error hm]
    exact hstep (some e)
  · rw [invoke_ok hm]
    exact hstep none

theorem releaseKillswitch_flagged :
    Triple (fun p => Flagged p.1) (releaseKillswitch svc)
      (fun _ p => (outstanding p.1.log).killswitch = false)
      (fun _ p => (outstanding p.1.log).killswitch = false) := by
  rintro ⟨s, errs⟩ hs
  unfold releaseKillswitch
  rw [bind_ok (Teardown.lift_ok (reads_apply ConnectionService.killswitchEnabled s) errs), ite_run]
  cases henabled : s.killswitchEnabled with
  | false =>
    show (outstanding s.log).killswitch = false
    by_contra h
    have := hs (by simpa using h)
    simp [henabled] at this
  | true =>
    rw [if_pos rfl]
    exact Teardown.triple_attempt (attempted_disable svc.disable) (Triple.modify fun _ h => h)
      (fun _ _ _ h => h) (fun _ _ _ h => h) (s, errs) trivial

theorem closing_flagged : Closing svc Flagged where
  emit event payload _ := flagged_emit svc event payload
  signals := Keeps.bind (Keeps.reads _) fun _ => Keeps.ite (Keeps.pure _)
    (flagged_invoke_then (by decide) fun _ hs => hs)
  stopWatcher := flagged_invoke (by decide) _
  removeOutbound := flagged_invoke (by decide) _
  close := flagged_invoke (by decide) _
  processStop := flagged_invoke (by decide) _
  releaseKillswitch := by
    have hnot (p : ConnectionService W × List String)
        (hp : (outstanding p.1.log).killswitch = false) : Flagged p.1 :=
      fun h => absurd (hp.symm.trans h) (by decide)
    exact (releaseKillswitch_flagged svc).mono (fun _ p hp => hnot p hp) fun _ p hp => hnot p hp
  disown _ _ _ _ hs := hs
  down _ _ hs := hs

/-- What `start` leaves outstanding is marked, however it ends. -/
theorem start_flagged (n : ℕ) (profile : ServerProfile) (autoFailover killswitch : Bool)
    (allProfiles : Option (List ServerProfile)) (s : ConnectionService W) :
    Flagged (start svc n profile autoFailover killswitch allProfiles s).2 := by
  have hprepare : Triple (fun _ => True) (prepare svc profile) (fun _ => Flagged)
      (fun _ => Flagged) := by
    refine Triple.bind (R := fun _ _ => True) (Triple.modify fun _ _ => trivial) fun _ => ?_
    refine emit_triple (Triple.modify fun s _ h => ?_) fun _ _ => flagged_onWorld _
    rw [outstanding_append] at h
    cases h
  have hstart : Triple (fun _ => True) (start svc n profile autoFailover killswitch allProfiles)
      (fun _ => Flagged) (fun _ => Flagged) :=
    Triple.bind hprepare fun _ =>
      Keeps.handle ((stable_flagged svc).startBody n profile autoFailover killswitch allProfiles)
        (closing_flagged svc).abandon
  exact hstart.run trivial

end Flagged

/-! ## One cleanup -/

section Cleanup

variable {W : Type} {svc : Services W}

/-- What is outstanding, whether the kill-switch is marked, and whether a cleanup has run. -/
def ConnectionService.account (s : ConnectionService W) : Outstanding × Bool × Bool :=
  (outstanding s.log, s.killswitchEnabled, s.cleaned)

theorem account_record {item : Item} (h : ∀ o : Outstanding, o.step item = o) :
    Frames ConnectionService.account (record item : Conn W Unit) := fun s => by
  show (outstanding (s.log ++ [item]), _, _) = _
  rw [outstanding_append, h]
  rfl

theorem account_invoke {op : Op} (h : ∀ (o : Outstanding) raised, o.step (.call op raised) = o)
    (m : Act Exc W Unit) : Frames ConnectionService.account (invoke op m) :=
  invoke_frames (fun _ => rfl) fun raised => account_record (h · raised)

theorem account_emit (svc : Services W) {event : ConnectionEvent} (hevent : event ≠ .started)
    (payload : EventPayload) : Frames ConnectionService.account (emit svc event payload) := by
  refine emit_frames (account_record fun o => ?_) fun _ _ _ => rfl
  cases event <;> first | rfl | exact absurd rfl hevent

/-- Up to the second await nothing is attempted that is outstanding. -/
theorem account_cleanupFront (svc : Services W) :
    Frames (fun p => p.1.account) (cleanupFront svc) := by
  have hattempt {label : String} {release : Conn W Unit}
      (hrelease : Frames ConnectionService.account release) :
      Frames (fun p => p.1.account) (attempt label release (pure ())) :=
    Teardown.frames_attempt hrelease (Frames.pure _)
  refine Frames.bind (hattempt ?_) fun _ => ?_
  · refine Frames.bind (Frames.reads _) fun _ => Frames.ite (Frames.pure _) ?_
    exact Frames.bind (account_invoke (fun _ _ => rfl) _) fun _ => Frames.modify fun _ => rfl
  refine Frames.bind (hattempt (account_invoke (fun _ _ => rfl) _)) fun _ => ?_
  refine Frames.bind (hattempt (account_invoke (fun _ _ => rfl) _)) fun _ => ?_
  exact hattempt (account_invoke (fun _ _ => rfl) _)

/-- Stopping the process is attempted, whatever comes of it. -/
theorem attemptProcessStop_run (h : svc.AwaitsEngine) (s : ConnectionService W)
    (errs : List String) :
    ∃ (s' : ConnectionService W) (errs' : List String),
      attemptProcessStop svc (emit svc .processStopped {}) (s, errs) = (.ok (), s', errs') ∧
      outstanding s'.log = { outstanding s.log with process := false } ∧
      s'.killswitchEnabled = s.killswitchEnabled ∧ s'.cleaned = s.cleaned := by
  obtain ⟨w, hrun | ⟨e, hrun⟩⟩ :=
    attempt_invoke .processStop h.processStop (emit svc .processStopped {}) s errs
  · obtain ⟨w', hemit⟩ := emit_run h.eventHandler .processStopped {} (s.called w .processStop none)
    refine ⟨_, errs, hrun.trans (Teardown.lift_ok hemit errs), ?_, rfl, rfl⟩
    show outstanding (s.log ++ [.call .processStop none] ++ [.emit .processStopped {}]) = _
    rw [outstanding_append, outstanding_append]
    rfl
  · refine ⟨s.called w .processStop (some e), _, hrun, ?_, rfl, rfl⟩
    show outstanding (s.log ++ [.call .processStop (some e)]) = _
    rw [outstanding_append]
    rfl

/-- A release of the kill-switch attempts it, if it is outstanding. -/
theorem releaseKillswitch_attempts (h : svc.AwaitsEngine) {s : ConnectionService W}
    (hs : (outstanding s.log).killswitch = true → s.killswitchEnabled = true)
    (errs : List String) :
    ∃ p, releaseKillswitch svc (s, errs) = (.ok (), p) ∧
      outstanding p.1.log = { outstanding s.log with killswitch := false } ∧
      p.1.cleaned = s.cleaned := by
  obtain ⟨a, w, henabled, hrun⟩ := releaseOwned_run .disable h.disable
    ConnectionService.killswitchEnabled (modify fun s => { s with killswitchEnabled := false }) s
    errs
  have hcalled (raised : Option Exc) : outstanding (s.log ++ [.call .disable raised]) =
      { outstanding s.log with killswitch := false } := by
    rw [outstanding_append]
    cases raised <;> rfl
  rcases a with _ | _ | e
  · have hnone : (outstanding s.log).killswitch = false := by
      by_contra hsome
      have := henabled.trans (hs (by simpa using hsome))
      cases this
    refine ⟨(s, errs), hrun, ?_, rfl⟩
    rw [← hnone]
  · exact ⟨_, hrun, hcalled none, rfl⟩
  · exact ⟨_, hrun, hcalled (some e), rfl⟩

/-- After it nothing interrupts the cleanup any more, and everything is attempted. -/
theorem cleanupBack_run (h : svc.AwaitsEngine) {s : ConnectionService W} (hs : Flagged s)
    (errs : List String) :
    ∃ p, (do attemptProcessStop svc (emit svc .processStopped {}); releaseKillswitch svc :
        Release W Unit) (s, errs) = (.ok (), p) ∧ outstanding p.1.log = {} := by
  obtain ⟨s₁, errs₁, hprocess, hstopped, henabled, -⟩ := attemptProcessStop_run h s errs
  have hflagged : (outstanding s₁.log).killswitch = true → s₁.killswitchEnabled = true := by
    rw [hstopped, henabled]
    exact hs
  obtain ⟨p, hrelease, hattempted, -⟩ := releaseKillswitch_attempts h hflagged errs₁
  refine ⟨p, (bind_ok hprocess).trans hrelease, ?_⟩
  rw [hattempted, hstopped]

theorem cleanupBody_eq (svc : Services W) :
    cleanupBody svc = cleanupFront svc >>= fun _ => (do
      attemptProcessStop svc (emit svc .processStopped {})
      releaseKillswitch svc) := by
  unfold cleanupBody cleanupFront
  simp only [bind_bind]

/-- The `finally` block marks the connection as cleaned and attempts nothing. -/
theorem account_cleanupEnd (svc : Services W) (p : ConnectionService W × List String) :
    (cleanupEnd svc p).2.1.account = (outstanding p.1.log, p.1.killswitchEnabled, true) := by
  have hemit {event : ConnectionEvent} (hevent : event ≠ .started) (payload : EventPayload) :
      Frames (fun p : ConnectionService W × List String => p.1.account)
        (Teardown.lift (emit svc event payload)) :=
    Teardown.frames_lift (account_emit svc hevent payload)
  have hreports : Frames (fun p : ConnectionService W × List String => p.1.account) (do
      reportErrors svc
      Teardown.lift (emit svc .cleanupDone {})) :=
    Frames.bind (Frames.bind (Frames.reads _) fun _ =>
      Frames.ite (hemit (by decide) _) (Frames.pure _)) fun _ => hemit (by decide) _
  exact hreports ({ p.1 with cleaned := true }, p.2)

/-- **A cleanup that is due** ends as cleaned. What was outstanding still is if it is interrupted,
and nothing is otherwise. -/
theorem cleanup_account (h : svc.AwaitsEngine) {s : ConnectionService W}
    (hopen : s.cleaned = false) (hs : Flagged s) :
    (cleanup svc s).2.cleaned = true ∧
      (Interrupted svc s ∧ outstanding (cleanup svc s).2.log = outstanding s.log ∨
        ¬Interrupted svc s ∧ outstanding (cleanup svc s).2.log = {}) := by
  have hend : (cleanup svc s).2.account =
      (outstanding (cleanupBody svc (s, [])).2.1.log,
        (cleanupBody svc (s, [])).2.1.killswitchEnabled, true) := by
    rw [cleanup_snd svc hopen, account_cleanupEnd]
  have hlog : outstanding (cleanup svc s).2.log = outstanding (cleanupBody svc (s, [])).2.1.log :=
    congrArg Prod.fst hend
  refine ⟨congrArg (·.2.2) hend, ?_⟩
  rw [hlog, cleanupBody_eq]
  have hfront := account_cleanupFront svc (s, [])
  rcases hrun : cleanupFront svc (s, []) with ⟨e | u, p⟩
  · left
    rw [hrun] at hfront
    rw [bind_error hrun]
    exact ⟨⟨e, p, hrun⟩, congrArg Prod.fst hfront⟩
  · right
    rw [hrun] at hfront
    rw [bind_ok hrun]
    have hflagged : Flagged p.1 := by
      unfold Flagged
      rw [show outstanding p.1.log = outstanding s.log from congrArg Prod.fst hfront,
        show p.1.killswitchEnabled = s.killswitchEnabled from congrArg (·.2.1) hfront]
      exact hs
    obtain ⟨q, hback, hnone⟩ := cleanupBack_run h hflagged p.2
    refine ⟨?_, ?_⟩
    · rintro ⟨e, p', herror⟩
      rw [hrun] at herror
      cases herror
    · rw [hback]
      exact hnone

theorem cleanups_of_cleaned {s : ConnectionService W} (h : s.cleaned = true) (k : ℕ) :
    cleanups svc k s = s :=
  Function.iterate_fixed (congrArg Prod.snd (cleanup_of_cleaned svc h)) k

theorem announce_run (h : svc.AwaitsEngine) (exc : Option Exc) (s : ConnectionService W) :
    ∃ s', announce svc exc s = (.ok (), s') ∧ s'.account = s.account := by
  have hemit (message : String) := account_emit svc (by decide : ConnectionEvent.error ≠ .started)
    { error := some message } s
  rcases exc with _ | ⟨kind, message⟩ | _ | _
  · exact ⟨s, rfl, rfl⟩
  · obtain ⟨w, hrun⟩ := emit_run h.eventHandler .error { error := some message } s
    have haccount := hemit message
    rw [hrun] at haccount
    exact ⟨_, hrun, haccount⟩
  · exact ⟨s, rfl, rfl⟩
  · exact ⟨s, rfl, rfl⟩

end Cleanup

/-! ## The run -/

section Run

variable {W : Type} {svc : Services W}

/-- **Every release is attempted** in a run of `async with`, whatever `start` did, whatever the
releases raise and however many cleanups follow, exactly if the cleanup of `__aexit__` is not
interrupted where it awaits the engine, or nothing was left to release by then. -/
theorem attempted_iff (h : svc.AwaitsEngine) (n : ℕ) (profile : ServerProfile)
    (autoFailover killswitch : Bool) (allProfiles : Option (List ServerProfile))
    (exc : Option Exc) (k : ℕ) (s : ConnectionService W) :
    let s₁ := (start svc n profile autoFailover killswitch allProfiles s).2
    outstanding (cleanups svc k (aexit svc exc s₁).2).log = {} ↔
      (Interrupted svc (announce svc exc s₁).2 → outstanding s₁.log = {}) := by
  intro s₁
  obtain ⟨s₂, hannounce, haccount⟩ := announce_run h exc s₁
  have hlog : outstanding s₂.log = outstanding s₁.log := congrArg Prod.fst haccount
  have hopen : s₂.cleaned = false :=
    (congrArg (·.2.2) haccount).trans
      (start_open svc n profile autoFailover killswitch allProfiles s)
  have hflagged : Flagged s₂ := by
    unfold Flagged
    rw [hlog, show s₂.killswitchEnabled = s₁.killswitchEnabled from congrArg (·.2.1) haccount]
    exact start_flagged svc n profile autoFailover killswitch allProfiles s
  have haexit : (aexit svc exc s₁).2 = (cleanup svc s₂).2 := by
    unfold aexit
    rw [bind_ok hannounce]
  obtain ⟨hcleaned, hcases⟩ := cleanup_account h hopen hflagged
  rw [haexit, cleanups_of_cleaned hcleaned, hannounce, ← hlog]
  rcases hcases with ⟨hcut, hkept⟩ | ⟨hwhole, hnone⟩
  · rw [hkept]
    exact ⟨fun hnone _ => hnone, fun hnone => hnone hcut⟩
  · exact iff_of_true hnone fun hcut => absurd hcut hwhole

/-- Services of which all calls return, but for the removal of the outbound, which is cancelled. -/
def cancelledServices : Services Unit :=
  { brokenServices with
    processStop := pure ()
    addOutbound := fun _ => pure ()
    removeOutbound := raise .cancelled
    eventHandler := none }

theorem cancelledServices_awaitsEngine : cancelledServices.AwaitsEngine where
  removeSignalHandler _ := RaisesExceptions.pure _
  stopWatcher := RaisesExceptions.pure _
  processStop := RaisesExceptions.pure _
  disable := RaisesExceptions.pure _
  eventHandler := nofun

/-- **Cancelled for good.** A cancellation while the cleanup waits for the engine to remove the
outbound: neither the process nor the kill-switch is ever released. -/
theorem cancelled_for_good :
    ¬∀ (W : Type) (svc : Services W), svc.AwaitsEngine → ∀ (n : ℕ) (profile : ServerProfile)
      (autoFailover killswitch : Bool) (allProfiles : Option (List ServerProfile))
      (exc : Option Exc) (k : ℕ) (w : W),
      outstanding (cleanups svc k (aexit svc exc
        (start svc n profile autoFailover killswitch allProfiles { world := w }).2).2).log = {} := by
  intro h
  have := h Unit cancelledServices cancelledServices_awaitsEngine 1 ⟨"a", "", "", .empty, ""⟩ false
    true none none 1 ()
  revert this
  decide

/-- The engine refuses to remove the outbound: the rest is released. -/
theorem attempted_refused :
    let svc : Services Unit :=
      { cancelledServices with removeOutbound := raise (.error .runtimeError "refused") }
    outstanding (cleanups svc 1 (aexit svc none
      (start svc 1 ⟨"a", "", "", .empty, ""⟩ false true none { world := () }).2).2).log = {} := by
  intro svc
  have h : svc.AwaitsEngine :=
    ⟨fun _ => RaisesExceptions.pure _, RaisesExceptions.pure _, RaisesExceptions.pure _,
      RaisesExceptions.pure _, nofun⟩
  refine (attempted_iff h 1 ⟨"a", "", "", .empty, ""⟩ false true none none 1 { world := () }).mpr ?_
  rintro ⟨e, p, hcut⟩
  cases hcut

end Run

end Bimarz.Connection
