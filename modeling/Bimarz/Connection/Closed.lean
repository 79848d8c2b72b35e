import Bimarz.Connection.Adoption
import Bimarz.KillSwitch.Recorded

/-!
# What the end of a connection makes of the firewall

The loops of `start` leave the firewall alone, and so does a teardown up to `disable`. A connection
disables its kill-switch at most once, in the rollback of `start` or in a cleanup, triggered or not:
`closed_iff` says that the rules stay exactly if the first command of that `disable` fails.
-/

namespace Bimarz.Connection

open Effect Effect.Act
open KillSwitch (System Filter)

/-- A `disable` is due, and its first command takes effect. -/
def ConnectionService.Reopens (s : ConnectionService World) : Prop :=
  s.killswitchEnabled = true ∧ s.world.killswitch.Reopens

/-! ## The teardown -/

/-- A `disable` changes the firewall exactly if one that deletes a rule is due. -/
theorem releasedKillswitch_filter (s : ConnectionService World) :
    ¬s.Reopens ∧ (releasedKillswitch s.world.killswitch s.killswitchEnabled).filter =
        s.world.killswitch.filter ∨
      s.Reopens ∧ (releasedKillswitch s.world.killswitch s.killswitchEnabled).filter.input.length <
        s.world.killswitch.filter.input.length := by
  obtain ⟨_, k, hstop, ⟨hhost, hswitch, -, -⟩, -⟩ :=
    KillSwitch.stopProcessWatcher_spec s.world.killswitch
  have hfilter : k.filter = s.world.killswitch.filter := congrArg KillSwitch.Host.filter hhost
  have hreopens := KillSwitch.reopens_congr hhost hswitch
  unfold releasedKillswitch ConnectionService.Reopens
  rw [hstop, ← hreopens, ← hfilter]
  cases s.killswitchEnabled with
  | false => simp
  | true =>
    rcases KillSwitch.deactivate_filter k with ⟨hnot, hkept⟩ | ⟨hdeletes, hless⟩
    · exact Or.inl ⟨fun h => hnot h.2, hkept⟩
    · exact Or.inr ⟨⟨rfl, hdeletes⟩, hless⟩

/-- A teardown lets no trigger be recorded once it has told the watcher to stop. -/
theorem releasedKillswitch_quiet (k : System) (enabled : Bool) :
    (releasedKillswitch k enabled).Quiet k.afterGap.triggeredOn := by
  obtain ⟨_, k', hstop, ⟨-, -, hevent, htriggered⟩, -⟩ := KillSwitch.stopProcessWatcher_spec k
  unfold releasedKillswitch
  rw [hstop]
  cases enabled with
  | false => exact ⟨hevent, htriggered⟩
  | true => exact (KillSwitch.deactivate_quiet _).run ⟨hevent, htriggered⟩

/-- What a teardown of `s` that may have been cut short has made of the kill-switch. Whether a
trigger is recorded is settled before it touches the firewall. -/
structure Torn (s s' : ConnectionService World) : Prop where
  recorded : s'.world.killswitch.triggeredOn = s.world.killswitch.triggeredOn ∨
    s'.world.killswitch.triggeredOn = s.world.killswitch.afterGap.triggeredOn
  settled : s'.world.killswitch.afterGap.triggeredOn = s.world.killswitch.afterGap.triggeredOn
  spared : ¬s.Reopens →
    ¬s'.Reopens ∧ s'.world.killswitch.filter = s.world.killswitch.filter
  opened : s.Reopens →
    s'.Reopens ∧ s'.world.killswitch.filter = s.world.killswitch.filter ∨
      s'.world.killswitch.filter.input.length < s.world.killswitch.filter.input.length

section Teardown

variable {s s' s'' : ConnectionService World} {cleaned : Bool}

theorem torn_self : Torn s s where
  recorded := Or.inl rfl
  settled := rfl
  spared h := ⟨h, rfl⟩
  opened h := Or.inl ⟨h, rfl⟩

theorem Torn.length_le (h : Torn s s') :
    s'.world.killswitch.filter.input.length ≤ s.world.killswitch.filter.input.length := by
  by_cases hdue : s.Reopens
  · rcases h.opened hdue with ⟨-, hfilter⟩ | hless
    · rw [hfilter]
    · exact Nat.le_of_lt hless
  · rw [(h.spared hdue).2]

theorem Torn.trans (h : Torn s s') (h' : Torn s' s'') : Torn s s'' where
  recorded := by
    rw [← h.settled]
    rcases h'.recorded with hsame | hgap
    · rw [hsame, h.settled]
      exact h.recorded
    · exact Or.inr hgap
  settled := h'.settled.trans h.settled
  spared hnot := by
    obtain ⟨hnot', hfilter⟩ := h.spared hnot
    obtain ⟨hnot'', hfilter'⟩ := h'.spared hnot'
    exact ⟨hnot'', hfilter'.trans hfilter⟩
  opened hdue := by
    rcases h.opened hdue with ⟨hdue', hfilter⟩ | hless
    · rw [← hfilter]
      exact h'.opened hdue'
    · by_cases hdue' : s'.Reopens
      · rcases h'.opened hdue' with ⟨-, hfilter'⟩ | hless'
        · exact Or.inr (hfilter' ▸ hless)
        · exact Or.inr (hless'.trans hless)
      · exact Or.inr ((h'.spared hdue').2 ▸ hless)

theorem quiet_settled {k k' : System} (h : k'.Quiet k.afterGap.triggeredOn) :
    k'.afterGap.triggeredOn = k.afterGap.triggeredOn :=
  (KillSwitch.afterGap_stopped h.1).2.trans h.2

theorem torn_of_released (h : s'.protection =
    (releasedKillswitch s.world.killswitch s.killswitchEnabled,
      stillEnabled s.world.killswitch s.killswitchEnabled, cleaned)) : Torn s s' := by
  have hquiet := releasedKillswitch_quiet s.world.killswitch s.killswitchEnabled
  have hfilter := releasedKillswitch_filter s
  rw [show releasedKillswitch _ _ = s'.world.killswitch from (congrArg Prod.fst h).symm]
    at hquiet hfilter
  refine ⟨Or.inr hquiet.2, quiet_settled hquiet, fun hnot => ?_, fun hdue => ?_⟩
  · rcases hfilter with ⟨-, hkept⟩ | ⟨hdue, -⟩
    · refine ⟨fun hdue => ?_, hkept⟩
      obtain ⟨henabled, hremoves, -⟩ := (stillEnabled_iff s).mp
        ((congrArg (·.2.1) h).symm.trans hdue.1)
      obtain ⟨_, k, hstop, ⟨hhost, hswitch, -, -⟩, -⟩ :=
        KillSwitch.stopProcessWatcher_spec s.world.killswitch
      have hremoves' := (stopped_removesRules s.world.killswitch).mpr hremoves
      have hreleased : s'.world.killswitch = (System.deactivate k).2 := by
        rw [show s'.world.killswitch = _ from congrArg Prod.fst h, releasedKillswitch, henabled,
          if_pos rfl, hstop]
      rw [hstop] at hremoves'
      refine KillSwitch.deactivate_spares (fun hreopens => hnot ⟨henabled, ?_⟩) hremoves'
        (hreleased ▸ hdue.2)
      exact (KillSwitch.reopens_congr hhost hswitch).mp hreopens
    · exact absurd hdue hnot
  · rcases hfilter with ⟨hnot, -⟩ | ⟨-, hless⟩
    · exact absurd hdue hnot
    · exact Or.inr hless

theorem torn_of_stopped (hflag : s'.killswitchEnabled = s.killswitchEnabled)
    (h : s.world.killswitch.Stopped s'.world.killswitch) : Torn s s' := by
  have hreopens : s'.Reopens ↔ s.Reopens := by
    unfold ConnectionService.Reopens
    rw [hflag, KillSwitch.reopens_congr h.host h.switch]
  have hfilter : s'.world.killswitch.filter = s.world.killswitch.filter :=
    congrArg KillSwitch.Host.filter h.host
  exact ⟨Or.inr h.triggeredOn, quiet_settled ⟨h.stopEvent, h.triggeredOn⟩,
    fun hnot => ⟨mt hreopens.mp hnot, hfilter⟩, fun hdue => Or.inl ⟨hreopens.mpr hdue, hfilter⟩⟩

theorem torn_of_cutShort (h : CutShort s.world.killswitch s.killswitchEnabled cleaned s') :
    Torn s s' := by
  obtain ⟨k', enabled', hstage, hprotection⟩ := h
  have hk : s'.world.killswitch = k' := congrArg Prod.fst hprotection
  have hflag : s'.killswitchEnabled = enabled' := congrArg (·.2.1) hprotection
  cases hstage with
  | watched =>
    have hreopens : s'.Reopens ↔ s.Reopens := by
      unfold ConnectionService.Reopens
      rw [hflag, hk]
    refine ⟨Or.inl (by rw [hk]), by rw [hk], fun hnot => ?_, fun hdue => Or.inl ?_⟩
    · exact ⟨mt hreopens.mp hnot, by rw [hk]⟩
    · exact ⟨hreopens.mpr hdue, by rw [hk]⟩
  | unwatched =>
    obtain ⟨_, k', hstop, hstopped, -⟩ := KillSwitch.stopProcessWatcher_spec s.world.killswitch
    rw [hstop] at hk
    exact torn_of_stopped hflag (hk ▸ hstopped)
  | released => exact torn_of_released hprotection

variable (config : AppConfig)

theorem abandon_torn (s : ConnectionService World) (e : Exc) :
    Torn s (abandon (services config) e s).2 := torn_of_cutShort (abandon_protection config s e)

theorem cleanup_torn (hopen : s.cleaned = false) :
    Torn s (cleanup (services config) s).2 := by
  rcases (cleanup_protection config (congrArg (_, _, ·) hopen)).2 with ⟨-, h⟩ | ⟨-, h⟩
  · exact torn_of_released h
  · exact torn_of_cutShort h

/-- **A cleanup** that returns after another teardown has deleted a rule, if one of the two was
due to. -/
theorem cleanup_opens (h : Torn s s') (hopen : s'.cleaned = false) (hdue : s.Reopens)
    (hreturns : (cleanup (services config) s').1 = .ok ()) :
    (cleanup (services config) s').2.world.killswitch.filter.input.length <
        s.world.killswitch.filter.input.length ∧
      (cleanup (services config) s').2.world.killswitch.triggeredOn =
        s.world.killswitch.afterGap.triggeredOn := by
  have hreleased := cleanup_returned config (congrArg (_, _, ·) hopen) hreturns
  have htorn : Torn s' (cleanup (services config) s').2 := torn_of_released hreleased
  have hk : (cleanup (services config) s').2.world.killswitch =
    releasedKillswitch s'.world.killswitch s'.killswitchEnabled := congrArg Prod.fst hreleased
  constructor
  · rcases h.opened hdue with ⟨hdue', hfilter⟩ | hless
    · rw [hk, ← hfilter]
      rcases releasedKillswitch_filter s' with ⟨hnot, -⟩ | ⟨-, hless⟩
      · exact absurd hdue' hnot
      · exact hless
    · exact Nat.lt_of_le_of_lt htorn.length_le hless
  · rw [← h.settled, hk]
    exact (releasedKillswitch_quiet _ _).2

end Teardown

/-! ## The run -/

section Runs

variable (config : AppConfig) (n : ℕ) (profile : ServerProfile) (autoFailover killswitch : Bool)
  (allProfiles : Option (List ServerProfile)) {s s₀ : ConnectionService World}

/-- The loops of `start` do nothing to the kill-switch's rules, wherever they are left. -/
theorem supervise_filter (s : ConnectionService World) :
    (supervise (services config) n profile autoFailover allProfiles s).2.world.killswitch.filter =
      s.world.killswitch.filter := by
  have hstance : (supervise (services config) n profile autoFailover allProfiles s).2.stance =
      s.stance := ((stable_stance config s.stance).supervise n profile autoFailover allProfiles).run
    (s := s) rfl
  exact congrArg (·.2.2.2) hstance

/-- The `try` block is followed by a rollback, or by none. -/
theorem start_torn (hprepare : prepare (services config) profile s = (.ok (), s₀)) :
    Torn (startBody (services config) n profile autoFailover killswitch allProfiles s₀).2
      (start (services config) n profile autoFailover killswitch allProfiles s).2 := by
  unfold start
  rw [bind_ok hprepare]
  rcases hrun : startBody (services config) n profile autoFailover killswitch allProfiles s₀ with
    ⟨e | left, s₁⟩
  · rw [handle_caught hrun rfl]
    exact abandon_torn config s₁ e
  · rw [handle_ok hrun]
    exact torn_self

/-- The `try` block changes nothing over which a trigger has been recorded. -/
theorem stable_recorded :
    Stable (services config) (fun s => s.world.killswitch.Recorded) := by
  have hframe {α : Type} {m : Conn World α} (h : Frames (fun s => s.world.killswitch) m) :
      Keeps (fun s : ConnectionService World => s.world.killswitch.Recorded) m :=
    h.keeps System.Recorded
  have hworld {α : Type} {m : Act Exc World α} (h : Frames World.killswitch m) :
      Frames (fun s : ConnectionService World => s.world.killswitch) (onWorld m) := fun s =>
    h s.world
  have hthen {op : Op} {m : Act Exc World Unit}
      {f : ConnectionService World → ConnectionService World} (h : Frames World.killswitch m)
      (hf : ∀ s, (f s).world = s.world) :
      Keeps (fun s : ConnectionService World => s.world.killswitch.Recorded)
        (do invoke op m; modify f) := by
    refine hframe (Frames.bind (invoke_frames (hworld h) fun _ _ => rfl) fun _ => ?_)
    exact Frames.modify fun s => congrArg World.killswitch (hf s)
  have hkillswitch {α : Type} {m : Act Exc System α} (h : Keeps System.Recorded m) :
      Keeps (fun w : World => w.killswitch.Recorded) (onKillswitch m) :=
    Keeps.zoom h (fun _ hw => hw) fun _ _ _ ht => ht
  exact {
    observe := fun {α m} h => by
      cases h with
      | isWatcherAlive =>
        refine Services.Preserves.onWorld (J := fun w : World => w.killswitch.Recorded) ?_
        exact hkillswitch (Keeps.bind KillSwitch.interleave_recorded fun _ => Keeps.reads _)
      | isActive => exact hframe (hworld fun _ => rfl)
      | isRunning =>
        exact hframe (hworld (Frames.bind aside_killswitch.ask fun _ => Frames.reads _))
      | checkAllProfiles profiles =>
        exact hframe (hworld (aside_killswitch.checkAllProfiles profiles))
      | now => exact hframe (hworld (Frames.bind aside_killswitch.ask fun _ => Frames.pure _))
      | stopIsSet =>
        exact hframe (hworld (Frames.bind aside_killswitch.ask fun _ => Frames.pure _))
      | waitStop timeout =>
        exact hframe (hworld (aside_killswitch.call_then fun _ => Frames.pure _))
      | addSignalHandler sig =>
        exact hframe (hworld (aside_killswitch.call_then fun _ => Frames.pure _))
      | eventHandler h event payload =>
        cases h
        exact hframe (hworld (aside_killswitch.call_then fun _ => Frames.pure _))
    emitted := fun _ _ _ => Keeps.modify fun _ hs => hs
    lookedUp := fun _ _ => Keeps.modify fun _ hs => hs
    registered := fun _ => Keeps.modify fun _ hs => hs
    startProcess := fun _ => hthen (aside_killswitch.processStart fun _ _ => rfl) fun _ => rfl
    connectEngine := hthen (aside_killswitch.engineConnect fun _ _ => rfl) fun _ => rfl
    addOutbound := fun profile => hthen (aside_killswitch.engineAdd profile) fun _ => rfl
    removeOutbound := hthen (aside_killswitch.engineRemove true) fun _ => rfl
    enableKillswitch := by
      refine Services.Preserves.invoke_then (J := fun w : World => w.killswitch.Recorded)
        ?_ fun _ => rfl
      refine Keeps.bind (aside_killswitch.ask.keeps System.Recorded) fun answer => ?_
      exact hkillswitch (KillSwitch.activate_recorded _ _)
    startWatcher := Services.Preserves.invoke (J := fun w : World => w.killswitch.Recorded)
      (hkillswitch (KillSwitch.startProcessWatcher_recorded 1))
    markStarted := Keeps.modify fun _ hs => hs }

/-- What `start` does before its `try` block leaves the kill-switch alone and unmarked. -/
theorem prepare_killswitch (s : ConnectionService World) :
    (prepare (services config) profile s).2.world.killswitch = s.world.killswitch ∧
      (prepare (services config) profile s).2.killswitchEnabled = false := by
  have hprotection := protection_emit config .started { profileId := some profile.profileId }
    (s.reset (services config))
  exact ⟨congrArg Prod.fst hprotection, congrArg (·.2.1) hprotection⟩

/-- A kill-switch that is triggered in the course of a run stays as it is: at the end of `start` and
the cleanup that follows, the firewall is the one over which the last trigger was recorded. -/
def StaysClosed (s : ConnectionService World) : Prop :=
  let s₁ := (start (services config) n profile autoFailover killswitch allProfiles s).2
  let k := (cleanup (services config) s₁).2.world.killswitch
  ∀ f, k.triggeredOn = some f → k.filter = f

/-- If a trigger has been recorded by the time the teardown tells the watcher to stop, a `disable`
would not delete a rule, or none is due. -/
def Spares (s : ConnectionService World) : Prop :=
  ∀ s₀, prepare (services config) profile s = (.ok (), s₀) →
    let s₁ := (startBody (services config) n profile autoFailover killswitch allProfiles s₀).2
    s₁.world.killswitch.afterGap.triggeredOn ≠ none → ¬s₁.Reopens

/-- What a teardown without effect on the rules leaves of a recorded trigger. -/
theorem Torn.closed {s s' : ConnectionService World} (h : Torn s s')
    (hs : s.world.killswitch.Recorded)
    (hspared : s.world.killswitch.afterGap.triggeredOn ≠ none → ¬s.Reopens) {f : Filter}
    (hf : s'.world.killswitch.triggeredOn = some f) : s'.world.killswitch.filter = f := by
  have hgap : s.world.killswitch.afterGap.triggeredOn = some f := by
    rcases h.recorded with hsame | hgap
    · exact KillSwitch.afterGap_some hs (hsame.symm.trans hf)
    · exact hgap.symm.trans hf
  have hfilter := (KillSwitch.afterGap_recorded hs f hgap).1
  exact (h.spared (hspared (by simp [hgap]))).2.trans hfilter

/-- **A triggered kill-switch stays closed** if the `disable` that is due where the trigger has been
recorded would not delete a rule, and only then if the cleanup returns. -/
theorem staysClosed_iff (s : ConnectionService World)
    (hs : s.world.killswitch.triggeredOn = none) :
    (Spares config n profile autoFailover killswitch allProfiles s →
      StaysClosed config n profile autoFailover killswitch allProfiles s) ∧
    ((cleanup (services config)
        (start (services config) n profile autoFailover killswitch allProfiles s).2).1 = .ok () →
      (StaysClosed config n profile autoFailover killswitch allProfiles s ↔
        Spares config n profile autoFailover killswitch allProfiles s)) := by
  have hopen := start_open (services config) n profile autoFailover killswitch allProfiles s
  have hcleanup := cleanup_torn config hopen
  obtain ⟨hsame, hflag⟩ := prepare_killswitch config profile s
  have hbefore : (prepare (services config) profile s).2.world.killswitch.Recorded := by
    intro f hf
    rw [hsame, hs] at hf
    cases hf
  have hrecorded {s₀ : ConnectionService World}
      (hprepare : prepare (services config) profile s = (.ok (), s₀)) :
      (startBody (services config) n profile autoFailover killswitch allProfiles
        s₀).2.world.killswitch.Recorded := by
    rw [hprepare] at hbefore
    exact ((stable_recorded config).startBody n profile autoFailover killswitch allProfiles).run
      hbefore
  have hspared (h : Spares config n profile autoFailover killswitch allProfiles s) :
      StaysClosed config n profile autoFailover killswitch allProfiles s := by
    intro f hf
    rcases hprepare : prepare (services config) profile s with ⟨e | u, s₀⟩
    · have hstart : (start (services config) n profile autoFailover killswitch allProfiles s).2 =
          s₀ := congrArg Prod.snd (bind_error hprepare)
      rw [hprepare] at hbefore hflag
      refine Torn.closed (s := s₀) (hstart ▸ hcleanup) hbefore (fun _ hdue => ?_) hf
      exact Bool.false_ne_true (hflag.symm.trans hdue.1)
    · exact ((start_torn config n profile autoFailover killswitch allProfiles hprepare).trans
        hcleanup).closed (hrecorded hprepare) (h s₀ hprepare) hf
  refine ⟨hspared, fun hreturns => ⟨fun h s₀ hprepare htriggered hdue => ?_, hspared⟩⟩
  obtain ⟨f, hf⟩ := Option.ne_none_iff_exists'.mp htriggered
  obtain ⟨hless, hlast⟩ := cleanup_opens config
    (start_torn config n profile autoFailover killswitch allProfiles hprepare) hopen hdue hreturns
  have hclosed := h f (hlast.trans hf)
  have hfilter : (startBody (services config) n profile autoFailover killswitch allProfiles
      s₀).2.world.killswitch.filter = f :=
    (KillSwitch.afterGap_recorded (hrecorded hprepare) f hf).1
  rw [hclosed, hfilter] at hless
  exact lt_irrefl _ hless

end Runs

end Bimarz.Connection
