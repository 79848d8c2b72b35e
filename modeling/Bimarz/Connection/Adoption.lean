import Bimarz.Connection.Disable

/-!
# A kill-switch that somebody else has enabled

`enable` returns without a trace if the kill-switch is already as the connection wants it, and the
connection then takes it for its own. `disables_iff` says that this is the one way to a `disable`
of a kill-switch that was active before `start`; where it is not taken, switch and firewall stay as
they were.
-/

namespace Bimarz.Connection

open Effect Effect.Act
open KillSwitch (System Switch Filter)

/-! ## What the acquisitions do to the kill-switch -/

section Frames

/-- The part of the kill-switch that says what it does: its switch and the firewall. -/
def World.guard (w : World) : Switch × Filter := (w.killswitch.switch, w.killswitch.filter)

theorem aside_guard : Aside World.guard := fun _ _ _ _ _ _ => rfl

theorem guard_onKillswitch {α : Type} {m : Act Exc System α}
    (h : ∀ k, (m k).2.host = k.host ∧ (m k).2.switch = k.switch) :
    Frames World.guard (onKillswitch m) := fun w =>
  congrArg₂ Prod.mk (h w.killswitch).2 (congrArg KillSwitch.Host.filter (h w.killswitch).1)

theorem guard_observe {config : AppConfig} {α : Type} {m : Act Exc World α}
    (h : Observes (services config) m) : Frames World.guard m := by
  cases h with
  | isActive => exact fun _ => rfl
  | isWatcherAlive =>
    refine guard_onKillswitch fun k => ?_
    exact ⟨rfl, KillSwitch.afterGap_switch k⟩
  | isRunning => exact Frames.bind aside_guard.ask fun _ => Frames.reads _
  | checkAllProfiles profiles => exact aside_guard.checkAllProfiles profiles
  | now => exact Frames.bind aside_guard.ask fun _ => Frames.pure _
  | stopIsSet => exact Frames.bind aside_guard.ask fun _ => Frames.pure _
  | waitStop timeout => exact aside_guard.call_then fun _ => Frames.pure _
  | addSignalHandler sig => exact aside_guard.call_then fun _ => Frames.pure _
  | eventHandler h event payload =>
    cases h
    exact aside_guard.call_then fun _ => Frames.pure _

theorem guard_startWatcher : Frames World.guard killswitchStartWatcher :=
  guard_onKillswitch fun k => KillSwitch.startProcessWatcher_spec k 1

theorem guard_stopWatcher : Frames World.guard killswitchStopWatcher := by
  refine Frames.bind (guard_onKillswitch fun k => ?_) fun _ => Frames.pure _
  obtain ⟨_, k', hrun, ⟨hhost, hswitch, -, -⟩, -⟩ := KillSwitch.stopProcessWatcher_spec k
  rw [hrun]
  exact ⟨hhost, hswitch⟩

end Frames

/-! ## A connection that has not enabled it -/

/-- The flag, how often `disable` has been called, the switch and the firewall. -/
def ConnectionService.stance (s : ConnectionService World) : Bool × ℕ × Switch × Filter :=
  (s.killswitchEnabled, attempts .disable s.log, s.world.guard)

section Stance

theorem attempts_record {op : Op} {item : Item} (h : ∀ raised, item ≠ .call op raised)
    (log : List Item) : attempts op (log ++ [item]) = attempts op log := by
  rw [attempts_append]
  cases item with
  | call op' raised =>
    have hne : op' ≠ op := by
      rintro rfl
      exact h raised rfl
    simp [hne]
  | _ => rfl

theorem stance_onWorld {α : Type} {m : Act Exc World α} (hm : Frames World.guard m) :
    Frames ConnectionService.stance (onWorld m) := fun s =>
  congrArg (s.killswitchEnabled, attempts .disable s.log, ·) (hm s.world)

theorem stance_record {item : Item} (h : ∀ raised, item ≠ .call .disable raised) :
    Frames ConnectionService.stance (record item : Conn World Unit) := fun s =>
  congrArg (s.killswitchEnabled, ·, s.world.guard) (attempts_record h s.log)

theorem stance_invoke {op : Op} {m : Act Exc World Unit} (hop : op ≠ .disable)
    (hm : Frames World.guard m) : Frames ConnectionService.stance (invoke op m) :=
  invoke_frames (stance_onWorld hm) fun _ => stance_record fun _ => by simp [hop]

theorem stance_invoke_then {op : Op} {m : Act Exc World Unit}
    {f : ConnectionService World → ConnectionService World} (hop : op ≠ .disable)
    (hm : Frames World.guard m) (hf : ∀ s, (f s).stance = s.stance) :
    Frames ConnectionService.stance (do invoke op m; modify f) :=
  Frames.bind (stance_invoke hop hm) fun _ => Frames.modify hf

theorem stance_called {s : ConnectionService World} {w : World} {op : Op} (hop : op ≠ .disable)
    (hw : w.guard = s.world.guard) (raised : Option Exc) :
    (s.called w op raised).stance = s.stance := by
  unfold ConnectionService.stance ConnectionService.called
  rw [hw, attempts_record fun raised' => by simp [hop]]

section Keeps

variable {c : Bool × ℕ × Switch × Filter}

theorem keeps_stance_record {item : Item} (h : ∀ raised, item ≠ .call .disable raised) :
    Keeps (fun s => s.stance = c) (record item : Conn World Unit) := (stance_record h).keeps_eq c

theorem keeps_stance_invoke {op : Op} {m : Act Exc World Unit} (hop : op ≠ .disable)
    (hm : Frames World.guard m) : Keeps (fun s => s.stance = c) (invoke op m) :=
  (stance_invoke hop hm).keeps_eq c

theorem keeps_stance_invoke_then {op : Op} {m : Act Exc World Unit}
    {f : ConnectionService World → ConnectionService World} (hop : op ≠ .disable)
    (hm : Frames World.guard m) (hf : ∀ s, (f s).stance = s.stance) :
    Keeps (fun s => s.stance = c) (do invoke op m; modify f) :=
  (stance_invoke_then hop hm hf).keeps_eq c

end Keeps

variable (config : AppConfig)

theorem stance_emit (event : ConnectionEvent) (payload : EventPayload) :
    Frames ConnectionService.stance (emit (services config) event payload) := by
  refine Frames.bind (stance_record nofun) fun _ => ?_
  refine Frames.handle (stance_onWorld ?_) fun _ => Frames.pure _
  exact aside_guard.call_then fun _ => Frames.pure _

/-- The services with a kill-switch that cannot be enabled. -/
def unprotected : Services World :=
  { services config with enable := fun _ => raise (.error .other "") }

theorem observes_services {α : Type} {m : Act Exc World α} (h : Observes (unprotected config) m) :
    Observes (services config) m := by
  cases h with
  | isRunning => exact .isRunning
  | isActive => exact .isActive
  | isWatcherAlive => exact .isWatcherAlive
  | checkAllProfiles profiles => exact .checkAllProfiles profiles
  | now => exact .now
  | stopIsSet => exact .stopIsSet
  | waitStop timeout => exact .waitStop timeout
  | addSignalHandler sig => exact .addSignalHandler sig
  | eventHandler h event payload =>
    have hhandler : (services config).eventHandler = some _ := h
    exact .eventHandler hhandler event payload

/-- The `try` block leaves a kill-switch alone that it cannot enable. -/
theorem stable_stance (c : Bool × ℕ × Switch × Filter) :
    Stable (unprotected config) (fun s => s.stance = c) where
  observe h := (stance_onWorld (guard_observe (observes_services config h))).keeps_eq c
  emitted _ _ _ := keeps_stance_record nofun
  lookedUp _ _ := keeps_stance_record nofun
  registered _ := Keeps.modify fun _ hs => hs
  startProcess _ := keeps_stance_invoke_then (by decide)
    (aside_guard.processStart fun _ _ => rfl) fun _ => rfl
  connectEngine := keeps_stance_invoke_then (by decide)
    (aside_guard.engineConnect fun _ _ => rfl) fun _ => rfl
  addOutbound profile := keeps_stance_invoke_then (by decide)
    (aside_guard.engineAdd profile) fun _ => rfl
  removeOutbound := keeps_stance_invoke_then (by decide)
    (aside_guard.engineRemove true) fun _ => rfl
  enableKillswitch := by
    have hraises : Triple (fun s => s.stance = c)
        (invoke .enable (raise (.error .other "")) : Conn World Unit) (fun _ _ => False)
        (fun _ s => s.stance = c) := fun s hs => stance_record (by simp) s |>.trans hs
    exact Triple.bind hraises fun _ => Triple.modify fun _ hs => hs.elim
  startWatcher := keeps_stance_invoke (by decide) guard_startWatcher
  markStarted := Keeps.modify fun _ hs => hs

/-- A teardown leaves a kill-switch alone that is not marked as enabled. -/
theorem closing_stance {c : ℕ × Switch × Filter} :
    Closing (services config) (fun s => s.stance = (false, c)) where
  emit event payload _ := (stance_emit config event payload).keeps_eq _
  signals := by
    refine Keeps.bind (Keeps.reads _) fun registered => Keeps.ite (Keeps.pure _) ?_
    refine keeps_stance_invoke_then (by decide) ?_ fun _ => rfl
    refine Frames.forM (fun sig => Frames.handle ?_ fun _ => Frames.pure _) _
    exact aside_guard.call_then fun _ => Frames.pure _
  stopWatcher := keeps_stance_invoke (by decide) guard_stopWatcher
  removeOutbound := keeps_stance_invoke (by decide) (aside_guard.engineRemove true)
  close := keeps_stance_invoke (by decide) (aside_guard.engineClose fun _ _ => rfl)
  processStop := keeps_stance_invoke (by decide) (aside_guard.processStop fun _ _ => rfl)
  releaseKillswitch := by
    refine Keeps.of_run fun ⟨s, errs⟩ hs => ?_
    have hflag : s.killswitchEnabled = false := congrArg Prod.fst hs
    unfold releaseKillswitch
    rw [bind_ok (Teardown.lift_ok (reads_apply ConnectionService.killswitchEnabled s) errs), hflag]
    exact hs
  disown _ _ _ _ hs := hs
  down _ _ hs := hs

end Stance

/-! ## A connection that has enabled it -/

section Owed

variable {W : Type} {c : ℕ}

/-- `disable` has been called more than `c` times, or it is due and has been called `c` times. -/
def Owed (c : ℕ) (s : ConnectionService W) : Prop :=
  c < attempts .disable s.log + s.killswitchEnabled.toNat

theorem owed_record (item : Item) : Keeps (Owed c) (record item : Conn W Unit) := by
  refine Keeps.modify fun s hs => ?_
  unfold Owed at hs ⊢
  simp only [attempts_append]
  omega

theorem owed_onWorld {α : Type} (m : Act Exc W α) : Keeps (Owed c) (onWorld m) :=
  Keeps.of_run fun _ hs => hs

theorem owed_invoke (op : Op) (m : Act Exc W Unit) : Keeps (Owed c) (invoke op m) :=
  invoke_keeps (owed_onWorld m) fun _ => owed_record _

theorem owed_invoke_then {op : Op} {m : Act Exc W Unit}
    {f : ConnectionService W → ConnectionService W} (hf : ∀ s, Owed c s → Owed c (f s)) :
    Keeps (Owed c) (do invoke op m; modify f) :=
  Keeps.bind (owed_invoke op m) fun _ => Keeps.modify hf

/-- A call counts, whatever comes of it. -/
theorem counts_invoke (op : Op) (m : Act Exc W Unit) :
    Triple (fun s => c ≤ attempts op s.log) (invoke op m) (fun _ s => c < attempts op s.log)
      (fun _ s => c < attempts op s.log) := by
  intro s hs
  have hcount (raised : Option Exc) : c < attempts op (s.log ++ [.call op raised]) := by
    simpa [Nat.lt_succ_iff] using hs
  rcases hm : m s.world with ⟨e | u, w⟩
  · rw [invoke_error hm]
    exact hcount (some e)
  · rw [invoke_ok hm]
    exact hcount none

variable (svc : Services W)

/-- The `try` block forgets no `disable` that is due. -/
theorem stable_owed : Stable svc (Owed c) where
  observe _ := owed_onWorld _
  emitted _ _ _ := owed_record _
  lookedUp _ _ := owed_record _
  registered _ := Keeps.modify fun _ hs => hs
  startProcess _ := owed_invoke_then fun _ hs => hs
  connectEngine := owed_invoke_then fun _ hs => hs
  addOutbound _ := owed_invoke_then fun _ hs => hs
  removeOutbound := owed_invoke_then fun _ hs => hs
  enableKillswitch := by
    refine owed_invoke_then fun s hs => ?_
    unfold Owed at hs ⊢
    have := Bool.toNat_le s.killswitchEnabled
    simp only [Bool.toNat_true]
    omega
  startWatcher := owed_invoke _ _
  markStarted := Keeps.modify fun _ hs => hs

/-- A release of the kill-switch pays what is due, unless it is interrupted. -/
theorem releaseKillswitch_owed :
    Triple (fun p => Owed c p.1) (releaseKillswitch svc)
      (fun _ p => c < attempts .disable p.1.log) (fun _ p => c < attempts .disable p.1.log) := by
  rintro ⟨s, errs⟩ hs
  change c < attempts .disable s.log + s.killswitchEnabled.toNat at hs
  unfold releaseKillswitch
  rw [bind_ok (Teardown.lift_ok (reads_apply ConnectionService.killswitchEnabled s) errs), ite_run]
  cases henabled : s.killswitchEnabled with
  | false => simpa [henabled] using hs
  | true =>
    rw [if_pos rfl]
    refine Teardown.triple_attempt (counts_invoke .disable svc.disable)
      (Triple.modify fun _ h => h) (fun _ _ _ h => h) (fun _ _ _ h => h) (s, errs) ?_
    rw [henabled] at hs
    simpa [Nat.lt_succ_iff] using hs

theorem owed_emit (event : ConnectionEvent) (payload : EventPayload) :
    Keeps (Owed c) (emit svc event payload) :=
  emit_triple (owed_record _) fun _ _ => owed_onWorld _

theorem closing_owed : Closing svc (Owed c) where
  emit event payload _ := owed_emit svc event payload
  signals := Keeps.bind (Keeps.reads _) fun _ => Keeps.ite (Keeps.pure _)
    (owed_invoke_then fun _ hs => hs)
  stopWatcher := owed_invoke _ _
  removeOutbound := owed_invoke _ _
  close := owed_invoke _ _
  processStop := owed_invoke _ _
  releaseKillswitch := by
    refine (releaseKillswitch_owed svc).conseq (fun _ hp => hp) (fun _ p hp => ?_) fun _ p hp => ?_
    · exact Nat.lt_of_lt_of_le hp (Nat.le_add_right _ _)
    · exact Nat.lt_of_lt_of_le hp (Nat.le_add_right _ _)
  disown _ _ _ _ hs := hs
  down _ _ hs := hs

/-- A cleanup that returns has paid what was due. -/
theorem cleanup_owed {s s' : ConnectionService W} (hopen : s.cleaned = false) (hs : Owed c s)
    (h : cleanup svc s = (.ok (), s')) : c < attempts .disable s'.log := by
  let I (s : ConnectionService W) : Prop := c < attempts .disable s.log
  have hemit (event : ConnectionEvent) (payload : EventPayload) :
      Keeps I (emit svc event payload) := by
    refine emit_triple (Keeps.modify fun s hs => ?_) fun _ _ => Keeps.of_run fun _ hs => hs
    show c < attempts .disable (s.log ++ [_])
    rw [attempts_append]
    exact Nat.lt_of_lt_of_le hs (Nat.le_add_right _ _)
  have hbody : Triple (fun p => Owed c p.1) (cleanupBody svc) (fun _ p => I p.1)
      (fun _ _ => True) := by
    have hclosing := closing_owed (c := c) svc
    refine Triple.bind (Closing.attempt hclosing.signals (Keeps.pure _)).returns fun _ => ?_
    refine Triple.bind (Closing.attempt hclosing.stopWatcher (Keeps.pure _)).returns fun _ => ?_
    refine Triple.bind (Closing.attempt hclosing.removeOutbound (Keeps.pure _)).returns fun _ => ?_
    refine Triple.bind (Closing.attempt hclosing.close (Keeps.pure _)).returns fun _ => ?_
    refine Triple.bind (Closing.attempt hclosing.processStop (owed_emit svc _ _)).returns
      fun _ => ?_
    exact (releaseKillswitch_owed svc).returns
  have hend : Keeps (fun p => I p.1) (cleanupEnd svc) := by
    refine Keeps.bind (Closing.lift (Keeps.modify fun _ hs => hs)) fun _ => ?_
    refine Keeps.bind ?_ fun _ => Closing.lift (hemit _ _)
    refine Keeps.bind (Keeps.reads _) fun errors => Keeps.ite ?_ (Keeps.pure _)
    exact Closing.lift (hemit _ _)
  exact cleanup_through hbody hend.returns hopen hs h

end Owed

/-! ## Where the kill-switch is enabled -/

section Enabling

variable {W : Type} (svc : Services W)

/-- What `start` acquires before it enables the kill-switch. -/
def acquireTunnel (profile : ServerProfile) : Conn W Unit := do
  startProcess svc profile
  connectEngine svc
  addOutbound svc profile
  emit svc .engineReady {}

/-- The end of the acquisitions. -/
def finishStart : Conn W Unit := do
  registerSignals svc
  modify fun s => { s with started := true }

/-- What follows `enable` in the acquisitions. -/
def watchKillswitch : Conn W Unit := do
  emit svc .killswitchEnabled {}
  invoke .startWatcher svc.startWatcher
  finishStart svc

/-- The loop of `start`. -/
def supervise (n : ℕ) (profile : ServerProfile) (autoFailover : Bool)
    (allProfiles : Option (List ServerProfile)) : Conn W Bool :=
  match allProfiles with
  | some (p :: ps) => if autoFailover then failoverLoop svc n profile (p :: ps) else watchLoop svc n
  | _ => watchLoop svc n

variable (n : ℕ) (profile : ServerProfile) (autoFailover : Bool)
  (allProfiles : Option (List ServerProfile))

/-- The `try` block of a `start` with the kill-switch, in three parts around `enable`. -/
theorem startBody_eq :
    startBody svc n profile autoFailover true allProfiles =
      acquireTunnel svc profile >>= fun _ => enableKillswitch svc >>= fun _ =>
        watchKillswitch svc >>= fun _ => supervise svc n profile autoFailover allProfiles := by
  unfold startBody acquire acquireTunnel watchKillswitch finishStart
  simp only [bind_bind, if_true]
  rfl

variable {svc}

theorem Stable.acquireTunnel {I : ConnectionService W → Prop} (h : Stable svc I) :
    Keeps I (Connection.acquireTunnel svc profile) := by
  refine Keeps.bind (h.startProcess profile) fun _ => Keeps.bind h.connectEngine fun _ => ?_
  exact Keeps.bind (h.addOutbound profile) fun _ => h.emit (by decide) _

theorem Stable.watchKillswitch {I : ConnectionService W → Prop} (h : Stable svc I) :
    Keeps I (Connection.watchKillswitch svc) := by
  refine Keeps.bind (h.emit (by decide) _) fun _ => Keeps.bind h.startWatcher fun _ => ?_
  exact Keeps.bind h.registerSignals fun _ => h.markStarted

theorem Stable.supervise {I : ConnectionService W → Prop} (h : Stable svc I) :
    Keeps I (Connection.supervise svc n profile autoFailover allProfiles) := by
  rcases allProfiles with _ | _ | ⟨p, ps⟩
  · exact h.watchLoop n
  · exact h.watchLoop n
  · exact Keeps.ite (h.failoverLoop n profile _) (h.watchLoop n)

end Enabling

section Adopting

variable (config : AppConfig)

/-- `enable` finds the kill-switch active as it would activate it itself. -/
def Adopts (s : ConnectionService World) : Prop :=
  s.world.killswitch.state.active = true ∧
    s.world.killswitch.state.interface = some config.defaultInterface ∧
    s.world.killswitch.state.xrayUid = s.world.answers.head.uid ∧
    s.world.killswitch.state.triggered = false

/-- **Enabling an active kill-switch** changes nothing: it is adopted, or refused. -/
theorem enable_active {s : ConnectionService World}
    (hactive : s.world.killswitch.state.active = true) :
    ∃ w : World, w.killswitch = s.world.killswitch ∧
      (Adopts config s ∧ enableKillswitch (services config) s =
          (.ok (), { s.called w .enable none with killswitchEnabled := true }) ∨
        ¬Adopts config s ∧ ∃ e, enableKillswitch (services config) s =
          (.error e, s.called w .enable (some e))) := by
  obtain ⟨w, hask, hw⟩ : ∃ w : World, ask s.world = (.ok s.world.answers.head, w) ∧
      w.killswitch = s.world.killswitch := ⟨_, rfl, rfl⟩
  have henable : (services config).enable (services config).config.defaultInterface s.world =
      onKillswitch (System.activate config.defaultInterface s.world.answers.head.uid) w :=
    bind_ok hask
  have hactivate := KillSwitch.activate_on (s := w.killswitch) config.defaultInterface
    s.world.answers.head.uid (by rw [hw, hactive])
  have hmatch : w.killswitch.state.interface = some config.defaultInterface ∧
      w.killswitch.state.xrayUid = s.world.answers.head.uid ∧
      (!w.killswitch.state.triggered) = true ↔ Adopts config s := by
    rw [hw]
    simp [Adopts, hactive]
  refine ⟨w, hw, ?_⟩
  by_cases hadopts : Adopts config s
  · rw [if_pos (hmatch.mpr hadopts)] at hactivate
    exact Or.inl ⟨hadopts, bind_ok (invoke_ok (henable.trans (onKillswitch_ok hactivate)))⟩
  · rw [if_neg (mt hmatch.mp hadopts)] at hactivate
    have hcall := henable.trans (onKillswitch_error hactivate)
    exact Or.inr ⟨hadopts, _, bind_error (invoke_error hcall)⟩

/-- A `start` that adopts: with the kill-switch, it gets as far as enabling it, and finds it as it
wants it. -/
def StartAdopts (s : ConnectionService World) (profile : ServerProfile) (killswitch : Bool) :
    Prop :=
  killswitch = true ∧ ∃ s₀ s₁, prepare (services config) profile s = (.ok (), s₀) ∧
    acquireTunnel (services config) profile s₀ = (.ok (), s₁) ∧ Adopts config s₁

variable {s : ConnectionService World} (n : ℕ) (profile : ServerProfile)
  (autoFailover killswitch : Bool) (allProfiles : Option (List ServerProfile))

/-- `start` begins with no kill-switch of its own. -/
theorem prepare_stance (s : ConnectionService World) :
    (prepare (services config) profile s).2.stance =
      (false, attempts .disable s.log, s.world.guard) :=
  (Frames.bind (v := ConnectionService.stance)
    (f := fun _ => emit (services config) .started { profileId := some profile.profileId })
    (m := modify id) (fun _ => rfl) fun _ => stance_emit config _ _) (s.reset (services config))

theorem prepare_active (s : ConnectionService World) :
    (prepare (services config) profile s).2.world.killswitch.state.active =
      s.world.killswitch.state.active :=
  congrArg (fun c : Bool × ℕ × Switch × Filter => c.2.2.1.active) (prepare_stance config profile s)

/-- The `try` block leaves an active kill-switch alone that it does not adopt. -/
theorem startBody_stance {c : ℕ × Switch × Filter} (hs : s.stance = (false, c))
    (hactive : s.world.killswitch.state.active = true)
    (hadopts : killswitch = true → ∀ s₁,
      acquireTunnel (services config) profile s = (.ok (), s₁) → ¬Adopts config s₁) :
    (startBody (services config) n profile autoFailover killswitch allProfiles s).2.stance =
      (false, c) := by
  have hstable := stable_stance config (false, c)
  cases killswitch with
  | false => exact (hstable.startBody n profile autoFailover false allProfiles).run hs
  | true =>
    rw [startBody_eq]
    have htunnel : (acquireTunnel (services config) profile s).2.stance = (false, c) :=
      (hstable.acquireTunnel profile).run hs
    rcases hrun : acquireTunnel (services config) profile s with ⟨e | u, s₁⟩
    · rw [bind_error hrun]
      rwa [hrun] at htunnel
    · rw [bind_ok hrun]
      rw [hrun] at htunnel
      have hguard : s₁.world.guard = s.world.guard :=
        congrArg (·.2.2) (htunnel.trans hs.symm)
      have hactive₁ : s₁.world.killswitch.state.active = true :=
        (congrArg (fun g : Switch × Filter => g.1.active) hguard).trans hactive
      obtain ⟨w, hw, ⟨h, -⟩ | ⟨-, e, henable⟩⟩ := enable_active config hactive₁
      · exact absurd h (hadopts rfl s₁ hrun)
      · rw [bind_error henable]
        exact (stance_called (by decide) (by unfold World.guard; rw [hw]) _).trans htunnel

/-- A `start` leaves an active kill-switch alone that it does not adopt, with its rollback. -/
theorem start_stance (hactive : s.world.killswitch.state.active = true)
    (hadopts : ¬StartAdopts config s profile killswitch) :
    (start (services config) n profile autoFailover killswitch allProfiles s).2.stance =
      (false, attempts .disable s.log, s.world.guard) := by
  have hprepare := prepare_stance config profile s
  have hsame := prepare_active config profile s
  unfold start
  rcases hp : prepare (services config) profile s with ⟨e | u, s₀⟩ <;> rw [hp] at hprepare hsame
  · rw [bind_error hp]
    exact hprepare
  · rw [bind_ok hp]
    have hactive₀ : s₀.world.killswitch.state.active = true := hsame.trans hactive
    have hbody := startBody_stance config n profile autoFailover killswitch allProfiles hprepare
      hactive₀ fun hkillswitch s₁ htunnel h => hadopts ⟨hkillswitch, s₀, s₁, hp, htunnel, h⟩
    rcases hb : startBody (services config) n profile autoFailover killswitch allProfiles s₀ with
      ⟨e | left, s₁⟩
    · rw [handle_caught hb rfl]
      rw [hb] at hbody
      exact ((closing_stance config).abandon e).run hbody
    · rw [handle_ok hb]
      rwa [hb] at hbody

/-- A `start` that adopts owes a `disable`, however it ends, unless its rollback has called it. -/
theorem start_owed (hadopts : StartAdopts config s profile killswitch) :
    Owed (attempts .disable s.log)
      (start (services config) n profile autoFailover killswitch allProfiles s).2 := by
  obtain ⟨rfl, s₀, s₁, hp, htunnel, hadopts⟩ := hadopts
  have hprepare := prepare_stance config profile s
  rw [hp] at hprepare
  have hstance : s₁.stance = (false, attempts .disable s.log, s.world.guard) := by
    have h := ((stable_stance config _).acquireTunnel profile).run hprepare
    change (acquireTunnel (services config) profile s₀).2.stance = _ at h
    rwa [htunnel] at h
  have hlog : attempts .disable s₁.log = attempts .disable s.log := congrArg (·.2.1) hstance
  have hstable := stable_owed (c := attempts .disable s.log) (services config)
  have hbody : Owed (attempts .disable s.log)
      (startBody (services config) n profile autoFailover true allProfiles s₀).2 := by
    rw [startBody_eq, bind_ok htunnel]
    obtain ⟨w, hw, ⟨-, henable⟩ | ⟨h, -⟩⟩ := enable_active config hadopts.1
    · rw [bind_ok henable]
      refine (Keeps.bind hstable.watchKillswitch fun _ =>
        hstable.supervise n profile autoFailover allProfiles).run ?_
      show _ < attempts .disable (s₁.log ++ [.call .enable none]) + 1
      simp [hlog]
    · exact absurd hadopts h
  unfold start
  rw [bind_ok hp]
  rcases hb : startBody (services config) n profile autoFailover true allProfiles s₀ with
    ⟨e | left, s₂⟩
  · rw [handle_caught hb rfl]
    rw [hb] at hbody
    exact ((closing_owed (services config)).abandon e).run hbody
  · rw [handle_ok hb]
    rwa [hb] at hbody

/-- **A connection disables a kill-switch that was active before** exactly if it adopts it: `start`
without the kill-switch, or that does not get as far as `enable`, or that finds another interface,
another UID or a trigger, calls `disable` nowhere, and switch and firewall stay as they were; a
cleanup that returns after a `start` that adopts has called it. -/
theorem disables_iff (hactive : s.world.killswitch.state.active = true) :
    let s₁ := (start (services config) n profile autoFailover killswitch allProfiles s).2
    let s₂ := (cleanup (services config) s₁).2
    (¬StartAdopts config s profile killswitch →
      attempts .disable s₂.log = attempts .disable s.log ∧ s₂.world.guard = s.world.guard) ∧
    ((cleanup (services config) s₁).1 = .ok () →
      (attempts .disable s₂.log = attempts .disable s.log ↔
        ¬StartAdopts config s profile killswitch)) := by
  intro s₁ s₂
  have halone (h : ¬StartAdopts config s profile killswitch) :
      s₂.stance = (false, attempts .disable s.log, s.world.guard) :=
    ((closing_stance config).cleanup fun _ hs => hs).run
      (start_stance config n profile autoFailover killswitch allProfiles hactive h)
  refine ⟨fun h => ⟨congrArg (·.2.1) (halone h), congrArg (·.2.2) (halone h)⟩, fun hreturns => ?_⟩
  refine ⟨fun hnone hadopts => ?_, fun h => congrArg (·.2.1) (halone h)⟩
  have hopen : s₁.cleaned = false :=
    start_open (services config) n profile autoFailover killswitch allProfiles s
  have hcalled : attempts .disable s.log < attempts .disable s₂.log :=
    cleanup_owed (services config) hopen
      (start_owed config n profile autoFailover killswitch allProfiles hadopts)
      (Prod.ext hreturns rfl)
  exact absurd hnone hcalled.ne'

/-- A world with a kill-switch that somebody has enabled for the interface and the user of a
connection, in which nothing fails and a stop is requested at once. -/
def sharedWorld : World where
  answers := Stream'.const { uid := some 1000 }
  killswitch := (System.activate "tun0" (some 1000)
    (.freshWith (Stream'.const .runs) (Stream'.const true))).2

/-- **Disabled for its owner.** The connection enables what is enabled already, and its cleanup
turns it off. -/
theorem foreign_disabled :
    ¬∀ (w : World) (n : ℕ) (profile : ServerProfile) (autoFailover killswitch : Bool)
      (allProfiles : Option (List ServerProfile)), w.killswitch.state.active = true →
      (cleanup (services {}) (start (services {}) n profile autoFailover killswitch allProfiles
        { world := w }).2).2.world.killswitch.state.active = true := by
  intro h
  have := h sharedWorld 1 ⟨"a", "", "", .empty, ""⟩ false true none (by decide)
  revert this
  decide

/-- A connection without the kill-switch. -/
theorem foreign_kept :
    let s : ConnectionService World := { world := sharedWorld }
    let s₁ := (start (services {}) 1 ⟨"a", "", "", .empty, ""⟩ false false none s).2
    let s₂ := (cleanup (services {}) s₁).2
    attempts .disable s₂.log = 0 ∧ s₂.world.guard = s.world.guard :=
  (disables_iff {} 1 ⟨"a", "", "", .empty, ""⟩ false false none (by decide)).1
    fun hadopts => by cases hadopts.1

end Adopting

end Bimarz.Connection
