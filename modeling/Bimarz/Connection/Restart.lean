import Bimarz.Connection.Adoption
import Bimarz.Connection.Traffic

/-!
# One connection, started again and again

1. `tunnel_cleanupBody`: a cleanup that is not interrupted leaves no process and no engine client.
2. `Marked`: a kill-switch that is active is marked as enabled; what keeps it so through `start`.
3. `restarts_free` says when the last cleanup of a session leaves nothing of what the session has
   acquired.
-/

namespace Bimarz.Connection

open Effect Effect.Act
open KillSwitch (System Switch Filter)

/-! ## The process and the engine client -/

/-- Whether there is a process, and whether there is an engine client. -/
def World.tunnel (w : World) : Bool × Bool := (w.process, w.engine)

section Tunnel

theorem aside_tunnel : Aside World.tunnel := fun _ _ _ _ _ _ => rfl

/-- The client is gone, whatever becomes of its connection. -/
theorem engineClose_tunnel {P : Bool → Prop} :
    Triple (fun w => P w.tunnel.1) engineClose (fun _ w => P w.tunnel.1 ∧ w.tunnel.2 = false)
      (fun _ w => P w.tunnel.1 ∧ w.tunnel.2 = false) := by
  refine Triple.bind (R := fun _ w => P w.tunnel.1) (Triple.reads fun _ hw => hw) fun _ => ?_
  refine Triple.bind (R := fun _ w => P w.tunnel.1 ∧ w.tunnel.2 = false) ?_ fun _ => ?_
  · exact Triple.modify fun _ hw => ⟨hw, rfl⟩
  · have hcall : Frames World.tunnel (do let _ ← external id) :=
      aside_tunnel.call_then fun _ => Frames.pure _
    exact Keeps.ite (hcall.keeps fun c => P c.1 ∧ c.2 = false) (Keeps.pure _)

/-- The process object is gone, whatever becomes of the process. -/
theorem processStop_tunnel :
    Triple (fun w => w.tunnel.2 = false) processStop (fun _ w => w.tunnel = (false, false))
      (fun _ w => w.tunnel = (false, false)) := by
  refine Triple.bind (R := fun _ w => w.tunnel.2 = false) (Triple.reads fun _ hw => hw)
    fun _ => ?_
  refine Triple.bind (R := fun _ w => w.tunnel = (false, false)) ?_ fun _ => ?_
  · exact Triple.modify fun w hw => congrArg (false, ·) hw
  · exact Keeps.ensure (Keeps.ite (aside_tunnel.xrayStop.keeps_eq _) (Keeps.pure _))
      (aside_tunnel.cleanupRuntime.keeps_eq _)

variable {P Q : World → Prop}

/-- An attempted call, in a teardown that may be cut short. -/
theorem attempt_triple {op : Op} {label : String} {m : Act Exc World Unit} {orElse : Conn World Unit}
    (h : Triple P m (fun _ => Q) (fun _ => Q)) (horElse : Keeps (fun s => Q s.world) orElse) :
    Triple (fun p => P p.1.world) (attempt label (invoke op m) orElse) (fun _ p => Q p.1.world)
      (fun _ p => Q p.1.world) :=
  Teardown.triple_attempt (invoke_triple h op) horElse (fun _ _ _ hs => hs) fun _ _ _ hs => hs

variable (config : AppConfig)

theorem tunnel_emit (event : ConnectionEvent) (payload : EventPayload) :
    Frames (fun s : ConnectionService World => s.world.tunnel)
      (emit (services config) event payload) := by
  refine Frames.bind (fun _ => rfl) fun _ => ?_
  refine Frames.handle (fun s => ?_) fun _ => Frames.pure _
  exact aside_tunnel.call_then (fun _ => Frames.pure ()) s.world

/-- Nothing in a teardown brings back a process or a client. -/
theorem closing_tunnel :
    Closing (services config) (fun s => s.world.tunnel = (false, false)) where
  emit event payload _ := (tunnel_emit config event payload).keeps_eq _
  signals := by
    refine Keeps.bind (Keeps.reads _) fun registered => Keeps.ite (Keeps.pure _) ?_
    have hremove : ∀ sig, Frames World.tunnel (removeSignal (services config) sig) := fun sig =>
      Frames.handle (aside_tunnel.call_then fun _ => Frames.pure _) fun _ => Frames.pure _
    exact Services.Preserves.invoke_then ((Frames.forM hremove registered).keeps_eq _) fun _ => rfl
  stopWatcher := by
    have hstop : Frames World.tunnel killswitchStopWatcher :=
      Frames.bind (Frames.zoom _ fun _ _ => rfl) fun _ => Frames.pure _
    exact Services.Preserves.invoke (hstop.keeps_eq _)
  removeOutbound := Services.Preserves.invoke ((aside_tunnel.engineRemove true).keeps_eq _)
  close := by
    have hclose : Keeps (fun w => w.tunnel = (false, false)) engineClose :=
      (engineClose_tunnel (P := (· = false))).conseq (fun _ hw => congrArg Prod.fst hw)
        (fun _ _ hw => Prod.ext hw.1 hw.2) fun _ _ hw => Prod.ext hw.1 hw.2
    exact Services.Preserves.invoke hclose
  processStop := Services.Preserves.invoke
    (processStop_tunnel.conseq (fun _ hw => congrArg Prod.snd hw) (fun _ _ hw => hw)
      fun _ _ hw => hw)
  releaseKillswitch := by
    let I (s : ConnectionService World) : Prop := s.world.tunnel = (false, false)
    refine Keeps.bind (Closing.lift (I := I) (Keeps.reads _)) fun _ => Keeps.ite ?_ (Keeps.pure _)
    have hdisable : Frames World.tunnel killswitchDisable := Frames.zoom _ fun _ _ => rfl
    exact Closing.attempt (I := I) (Services.Preserves.invoke (hdisable.keeps_eq _))
      (Keeps.modify fun _ hs => hs)
  disown _ _ _ _ hs := hs
  down _ _ hs := hs

/-- **A cleanup** that is not interrupted leaves no process and no engine client. -/
theorem cleanupBody_tunnel :
    Triple (fun _ => True) (cleanupBody (services config))
      (fun _ p => p.1.world.tunnel = (false, false)) (fun _ _ => True) := by
  have hany : ∀ m : Release World Unit, Keeps (fun _ => True) m := fun m =>
    Keeps.of_run fun _ _ => trivial
  refine Triple.bind (hany _) fun _ => Triple.bind (hany _) fun _ => ?_
  refine Triple.bind (hany _) fun _ => ?_
  refine Triple.bind (R := fun _ p => p.1.world.tunnel.2 = false) ?_ fun _ => ?_
  · have hclose : Triple (fun _ => True) engineClose (fun _ w => w.tunnel.2 = false)
        (fun _ w => w.tunnel.2 = false) :=
      (engineClose_tunnel (P := fun _ => True)).mono (fun _ _ hw => hw.2) fun _ _ hw => hw.2
    exact (attempt_triple hclose (Keeps.pure _)).returns
  · refine Triple.bind (R := fun _ p => p.1.world.tunnel = (false, false)) ?_ fun _ => ?_
    · exact (attempt_triple processStop_tunnel ((tunnel_emit config _ _).keeps_eq _)).returns
    · exact (closing_tunnel config).releaseKillswitch.returns

theorem cleanup_tunnel {s : ConnectionService World} (hopen : s.cleaned = false)
    (hbody : (cleanupBody (services config) (s, [])).1 = .ok ()) :
    (cleanup (services config) s).2.world.tunnel = (false, false) := by
  rw [cleanup_snd _ hopen]
  rcases hrun : cleanupBody (services config) (s, []) with ⟨e | u, p⟩ <;> rw [hrun] at hbody
  · cases hbody
  · have hgone := (cleanupBody_tunnel config).of_ok trivial hrun
    exact ((closing_tunnel config).cleanupEnd fun _ hs => hs).run hgone

end Tunnel

/-! ## The mark of the kill-switch -/

/-- A kill-switch that is active is marked as enabled. -/
def Marked (s : ConnectionService World) : Prop :=
  s.world.killswitch.state.active = true → s.killswitchEnabled = true

section Marked

variable (config : AppConfig)

theorem keeps_marked {α : Type} {m : Conn World α} (h : Frames ConnectionService.stance m) :
    Keeps Marked m := h.keeps fun c => c.2.2.1.active = true → c.1 = true

/-- Enabling either marks the kill-switch or leaves it as it was. -/
theorem enableKillswitch_marked : Keeps Marked (enableKillswitch (services config)) := by
  refine Keeps.of_run fun s hs => ?_
  cases hactive : s.world.killswitch.state.active with
  | true =>
    obtain ⟨w, hw, ⟨-, henable⟩ | ⟨-, e, henable⟩⟩ := enable_active config hactive <;> rw [henable]
    · exact fun _ => rfl
    · exact fun _ => hs hactive
  | false =>
    have hactivate := KillSwitch.activate_returns (s := s.world.killswitch) config.defaultInterface
      s.world.answers.head.uid hactive
    obtain ⟨w, hask, hw⟩ : ∃ w : World, ask s.world = (.ok s.world.answers.head, w) ∧
        w.killswitch = s.world.killswitch := ⟨_, rfl, rfl⟩
    rw [← hw] at hactivate
    obtain ⟨k, hrun⟩ := hactivate
    have henable : (services config).enable (services config).config.defaultInterface s.world =
        (.ok (), { w with killswitch := k }) := (bind_ok hask).trans (onKillswitch_ok hrun)
    have hmarked : enableKillswitch (services config) s = (.ok (),
        { s.called { w with killswitch := k } .enable none with killswitchEnabled := true }) :=
      bind_ok (invoke_ok henable)
    rw [hmarked]
    exact fun _ => rfl

theorem stable_marked : Stable (services config) Marked where
  observe h := keeps_marked (stance_onWorld (guard_observe h))
  emitted _ _ _ := keeps_marked (stance_record nofun)
  lookedUp _ _ := keeps_marked (stance_record nofun)
  registered _ := Keeps.modify fun _ hs => hs
  startProcess _ := keeps_marked (stance_invoke_then (by decide)
    (aside_guard.processStart fun _ _ => rfl) fun _ => rfl)
  connectEngine := keeps_marked (stance_invoke_then (by decide)
    (aside_guard.engineConnect fun _ _ => rfl) fun _ => rfl)
  addOutbound profile := keeps_marked (stance_invoke_then (by decide)
    (aside_guard.engineAdd profile) fun _ => rfl)
  removeOutbound := keeps_marked (stance_invoke_then (by decide)
    (aside_guard.engineRemove true) fun _ => rfl)
  enableKillswitch := enableKillswitch_marked config
  startWatcher := keeps_marked (stance_invoke (by decide) guard_startWatcher)
  markStarted := Keeps.modify fun _ hs => hs

/-- A rollback keeps the mark, if the kill-switch of the connection can be disabled: it clears the
mark wherever `disable` returns, whether or not that has disabled the kill-switch. -/
theorem abandon_marked {s : ConnectionService World} (hs : Marked s)
    (hworks : s.killswitchEnabled = true →
      s.world.killswitch.RemovesRules ∧ WatcherStops s.world.killswitch) (e : Exc) :
    Marked (abandon (services config) e s).2 := by
  have hdisable : DisableWorks s := by
    by_cases hactive : s.world.killswitch.state.active = true
    · exact Or.inr ⟨hs hactive, hworks (hs hactive)⟩
    · exact Or.inl (by simpa using hactive)
  have hreleased := (releasedKillswitch_active s).mpr hdisable
  intro hactive
  rcases (abandon_protection config s e).cases with
    ⟨hflag, hswitch, -⟩ | ⟨-, hkillswitch⟩
  · rw [hflag]
    exact hs ((congrArg KillSwitch.Switch.active hswitch).symm.trans hactive)
  · rw [hkillswitch, hreleased] at hactive
    cases hactive

variable (n : ℕ) (profile : ServerProfile) (autoFailover killswitch : Bool)
  (allProfiles : Option (List ServerProfile)) {s : ConnectionService World}

/-- If the `try` block of `start` raises with the kill-switch enabled, it can be disabled. -/
def RollbackWorks (s : ConnectionService World) : Prop :=
  ∀ s₀ e s₁, prepare (services config) profile s = (.ok (), s₀) →
    startBody (services config) n profile autoFailover killswitch allProfiles s₀ =
      (.error e, s₁) → s₁.killswitchEnabled = true →
    s₁.world.killswitch.RemovesRules ∧ WatcherStops s₁.world.killswitch

/-- `start` begins by clearing the mark, so a kill-switch that is active has to be adopted. -/
theorem start_marked
    (hadopts : s.world.killswitch.state.active = true → StartAdopts config s profile killswitch)
    (hworks : RollbackWorks config n profile autoFailover killswitch allProfiles s) :
    Marked (start (services config) n profile autoFailover killswitch allProfiles s).2 := by
  have hsame := prepare_active config profile s
  unfold start
  rcases hp : prepare (services config) profile s with ⟨e | u, s₀⟩ <;> rw [hp] at hsame
  · rw [bind_error hp]
    intro hactive
    obtain ⟨-, s₀', s₁, hp', -⟩ := hadopts (hsame.symm.trans hactive)
    rw [hp] at hp'
    cases hp'
  · rw [bind_ok hp]
    have hbody : Marked
        (startBody (services config) n profile autoFailover killswitch allProfiles s₀).2 := by
      by_cases hactive : s.world.killswitch.state.active = true
      · obtain ⟨rfl, s₀', s₁, hp', htunnel, hadopts⟩ := hadopts hactive
        obtain rfl : s₀ = s₀' := by
          rw [hp] at hp'
          cases hp'
          rfl
        rw [startBody_eq, bind_ok htunnel]
        obtain ⟨w, hw, ⟨-, henable⟩ | ⟨h, -⟩⟩ := enable_active config hadopts.1
        · rw [bind_ok henable]
          have hmarked := stable_marked config
          exact (Keeps.bind hmarked.watchKillswitch fun _ =>
            hmarked.supervise n profile autoFailover allProfiles).run fun _ => rfl
        · exact absurd hadopts h
      · have hmarked : Marked s₀ := fun hactive₀ => absurd (hsame.symm.trans hactive₀) hactive
        exact ((stable_marked config).startBody n profile autoFailover killswitch allProfiles).run
          hmarked
    rcases hb : startBody (services config) n profile autoFailover killswitch allProfiles s₀ with
      ⟨e | left, s₁⟩ <;> rw [hb] at hbody
    · rw [handle_caught hb rfl]
      exact abandon_marked config hbody (hworks s₀ e s₁ hp hb) e
    · rw [handle_ok hb]
      exact hbody

end Marked

/-! ## Sessions -/

/-- A connection in use. `ours` says that the kill-switch was off before or after some call, so
that it is the connection's own if it is active. -/
structure Session where
  service : ConnectionService World
  ours : Bool

namespace Session

def init (w : World) : Session := ⟨{ world := w }, !w.killswitch.state.active⟩

def step (config : AppConfig) (s : Session) (request : Request) : Session :=
  let service := request.step config s.service
  ⟨service, s.ours || !service.world.killswitch.state.active⟩

/-- Nothing that the connection has acquired is held any longer. -/
structure Free (s : Session) : Prop where
  process : s.service.world.process = false
  engine : s.service.world.engine = false
  killswitch : s.ours = true → s.service.world.killswitch.state.active = false

/-- What is held is known to a cleanup: it is not taken for cleaned up already, and an active
kill-switch of the connection is marked as enabled. -/
structure Releasable (s : Session) : Prop where
  cleaned : s.service.cleaned = true → s.Free
  marked : s.service.cleaned = false → s.ours = true → Marked s.service

variable (config : AppConfig)

/-- What a call has to find so that what it leaves can be released. A `start` adopts an active
kill-switch of the connection, and a rollback that has to disable it can do so. A cleanup that has
something to release is not interrupted and turns the kill-switch off. -/
def Accountable (s : Session) : Request → Prop
  | .start n profile autoFailover killswitch allProfiles => s.ours = true →
    (s.service.world.killswitch.state.active = true →
      StartAdopts config s.service profile killswitch) ∧
    RollbackWorks config n profile autoFailover killswitch allProfiles s.service
  | .cleanup => s.service.cleaned = true ∨ s.Free ∨
    (cleanupBody (services config) (s.service, [])).1 = .ok () ∧
      (s.ours = true → DisableWorks s.service)

variable {config} {s : Session}

/-- A kill-switch that is off is nothing that is held. -/
theorem free_iff {service : ConnectionService World} {ours : Bool} :
    Free ⟨service, ours || !service.world.killswitch.state.active⟩ ↔ Free ⟨service, ours⟩ := by
  constructor
  · rintro ⟨hprocess, hengine, hkillswitch⟩
    exact ⟨hprocess, hengine, fun hours => hkillswitch (by simp at hours; simp [hours])⟩
  · rintro ⟨hprocess, hengine, hkillswitch⟩
    refine ⟨hprocess, hengine, fun hours => ?_⟩
    rcases Bool.or_eq_true_iff.mp hours with hours | hoff
    · exact hkillswitch hours
    · simpa using hoff

/-- A cleanup leaves the connection marked as cleaned. -/
theorem cleanup_cleaned (config : AppConfig) (s : ConnectionService World) :
    (cleanup (services config) s).2.cleaned = true := by
  rcases hcleaned : s.cleaned
  · exact (cleanup_protection config (congrArg (_, _, ·) hcleaned)).1
  · rw [cleanup_of_cleaned _ hcleaned]
    exact hcleaned

theorem free_cleaned (hcleaned : s.service.cleaned = true) :
    (s.step config .cleanup).Free ↔ s.Free := by
  unfold step Request.step
  rw [cleanup_of_cleaned _ hcleaned]
  exact free_iff

/-- **A cleanup** that is not interrupted leaves nothing exactly if disabling works. -/
theorem free_cleanup (hopen : s.service.cleaned = false)
    (hbody : (cleanupBody (services config) (s.service, [])).1 = .ok ()) :
    (s.step config .cleanup).Free ↔ (s.ours = true → DisableWorks s.service) := by
  have htunnel := cleanup_tunnel config hopen hbody
  have hprotection : (cleanup (services config) s.service).2.protection =
      (releasedKillswitch s.service.world.killswitch s.service.killswitchEnabled,
        stillEnabled s.service.world.killswitch s.service.killswitchEnabled, true) := by
    rcases (cleanup_protection config (congrArg (_, _, ·) hopen)).2 with ⟨-, h⟩ | ⟨h, -⟩
    · exact h
    · exact absurd hbody h
  have hkillswitch : (cleanup (services config) s.service).2.world.killswitch = _ :=
    congrArg Prod.fst hprotection
  refine free_iff.trans ⟨fun h hours => ?_, fun h => ⟨?_, ?_, fun hours => ?_⟩⟩
  · have hoff := h.killswitch hours
    change (cleanup (services config) s.service).2.world.killswitch.state.active = false at hoff
    rw [hkillswitch] at hoff
    exact (releasedKillswitch_active _).mp hoff
  · exact congrArg Prod.fst htunnel
  · exact congrArg Prod.snd htunnel
  · show (cleanup (services config) s.service).2.world.killswitch.state.active = false
    rw [hkillswitch]
    exact (releasedKillswitch_active _).mpr (h hours)

/-- A cleanup that has nothing to release leaves nothing, wherever it is interrupted. -/
theorem Free.cleanup (h : s.Free) : (s.step config .cleanup).Free := by
  rcases hcleaned : s.service.cleaned
  · have htunnel :
        (Connection.cleanup (services config) s.service).2.world.tunnel = (false, false) :=
      ((closing_tunnel config).cleanup fun _ hs => hs).run (Prod.ext h.process h.engine)
    refine free_iff.mpr ⟨congrArg Prod.fst htunnel, congrArg Prod.snd htunnel, fun hours => ?_⟩
    show (Connection.cleanup (services config) s.service).2.world.killswitch.state.active = false
    have hoff := h.killswitch hours
    have hreleased := (releasedKillswitch_active s.service).mpr (Or.inl hoff)
    rcases (cleanup_protection config (congrArg (_, _, ·) hcleaned)).2 with ⟨-, hdone⟩ | ⟨-, hcut⟩
    · rw [show (Connection.cleanup (services config) s.service).2.world.killswitch = _ from
        congrArg Prod.fst hdone]
      exact hreleased
    · rcases hcut.cases with ⟨-, hswitch, -⟩ | ⟨-, hkillswitch⟩
      · exact (congrArg KillSwitch.Switch.active hswitch).trans hoff
      · rw [hkillswitch]
        exact hreleased
  · exact (free_cleaned hcleaned).mpr h

/-- A call that finds what it has to leaves what can be released. -/
theorem releasable_step (request : Request) (hs : s.Releasable) (h : s.Accountable config request) :
    (s.step config request).Releasable := by
  cases request with
  | start n profile autoFailover killswitch allProfiles =>
    let request : Request := .start n profile autoFailover killswitch allProfiles
    have hopen : (s.step config request).service.cleaned = false :=
      start_open (services config) n profile autoFailover killswitch allProfiles s.service
    refine ⟨fun hcleaned => absurd (hopen.symm.trans hcleaned) (by decide), fun _ hours => ?_⟩
    rcases Bool.or_eq_true_iff.mp hours with hours | hoff
    · obtain ⟨hadopts, hworks⟩ := h hours
      exact start_marked config n profile autoFailover killswitch allProfiles hadopts hworks
    · intro hactive
      change (!(s.step config _).service.world.killswitch.state.active) = true at hoff
      rw [hactive] at hoff
      cases hoff
  | cleanup =>
    have hfree : (s.step config .cleanup).Free := by
      rcases hcleaned : s.service.cleaned
      · rcases h with h | h | ⟨hbody, hdisable⟩
        · exact absurd (hcleaned.symm.trans h) (by decide)
        · exact h.cleanup
        · exact (free_cleanup hcleaned hbody).mpr hdisable
      · exact (hs.cleaned hcleaned).cleanup
    have hdone : (s.step config .cleanup).service.cleaned = true := cleanup_cleaned config s.service
    exact ⟨fun _ => hfree, fun hopen => absurd (hopen.symm.trans hdone) (by decide)⟩

/-- Every release of a cleanup succeeds: none raises, and a kill-switch that is marked as enabled
is turned off. -/
def Succeeds (config : AppConfig) (s : Session) : Prop :=
  s.service.cleaned = false →
    (∃ s', cleanupBody (services config) (s.service, []) = (.ok (), s', [])) ∧
    (s.service.killswitchEnabled = true → s.service.world.killswitch.RemovesRules ∧
      WatcherStops s.service.world.killswitch)

/-- After a cleanup that succeeds, nothing is left exactly if the cleanup knew of all that was
held. -/
theorem free_iff_releasable (h : s.Succeeds config) :
    (s.step config .cleanup).Free ↔ s.Releasable := by
  rcases hcleaned : s.service.cleaned
  · obtain ⟨⟨s', hrun⟩, hworks⟩ := h hcleaned
    rw [free_cleanup hcleaned (congrArg Prod.fst hrun)]
    constructor
    · intro hdisable
      refine ⟨fun hdone => absurd (hcleaned.symm.trans hdone) (by decide), ?_⟩
      intro _ hours hactive
      rcases hdisable hours with hoff | ⟨hmarked, -⟩
      · exact absurd (hoff.symm.trans hactive) (by decide)
      · exact hmarked
    · intro hs hours
      by_cases hactive : s.service.world.killswitch.state.active = true
      · have hmarked := hs.marked hcleaned hours hactive
        exact Or.inr ⟨hmarked, hworks hmarked⟩
      · exact Or.inl (by simpa using hactive)
  · rw [free_cleaned hcleaned]
    exact ⟨fun h => ⟨fun _ => h, fun hopen => absurd (hopen.symm.trans hcleaned) (by decide)⟩,
      fun hs => hs.cleaned hcleaned⟩

end Session

/-! ## Runs -/

section Runs

variable (config : AppConfig)

/-- **No acquisition is forgotten** in a session that ends with a cleanup that succeeds, exactly if
what is held before it is known to it. That is so if every call before it finds what it has to. -/
theorem restarts_free (w : World) (requests : List Request) :
    let s := runAll (Session.step config) (.init w) requests
    s.Succeeds config →
      ((s.step config .cleanup).Free ↔ s.Releasable) ∧
      (Each (Session.step config) (Session.Accountable config) (.init w) requests →
        (s.step config .cleanup).Free) := by
  intro s hsucceeds
  refine ⟨Session.free_iff_releasable hsucceeds, fun heach => ?_⟩
  refine (Session.free_iff_releasable hsucceeds).mpr ?_
  have hfirst : (Session.init w).Releasable := by
    refine ⟨nofun, fun _ hours hactive => ?_⟩
    change (!w.killswitch.state.active) = true at hours
    change w.killswitch.state.active = true at hactive
    rw [hactive] at hours
    cases hours
  exact heach.invariant (fun _ request hs h => Session.releasable_step request hs h) hfirst

/-- A world in which nothing fails and a stop is requested at once. -/
def calmWorld : World where
  answers := Stream'.const { uid := some 1000 }
  killswitch := .freshWith (Stream'.const .runs) (Stream'.const true)

/-- **Forgotten.** The second start clears the mark of the kill-switch that the first one has
enabled, and the cleanup leaves it on. -/
theorem restart_forgets :
    ¬∀ (w : World) (requests : List Request),
      (runAll (Session.step {}) (.init w) requests).Succeeds {} →
        ((runAll (Session.step {}) (.init w) requests).step {} .cleanup).Free := by
  intro h
  have hfree := h calmWorld [.start 1 ⟨"a", "", "", .empty, ""⟩ false true none,
    .start 1 ⟨"a", "", "", .empty, ""⟩ false false none]
    fun _ => ⟨⟨_, rfl⟩, fun hmarked => absurd hmarked (by decide)⟩
  have := hfree.killswitch (by decide)
  revert this
  decide

/-- A profile without settings. -/
def calmProfile : ServerProfile := ⟨"a", "", "", .empty, ""⟩

/-- A start with the kill-switch, a cleanup, and another such start. -/
def startsTwice : List Request :=
  [.start 1 calmProfile false true none, .cleanup, .start 1 calmProfile false true none]

/-- A kill-switch whose rules can be removed and whose watcher ends within the join. -/
theorem disables_of {k : KillSwitch.System} (interface : String) (uid : ℕ)
    (hstate : k.state.interface = some interface ∧ KillSwitch.uidOf k.state.xrayUid = some uid)
    (hinput : KillSwitch.DeletesInput interface uid k.host)
    (houtput : KillSwitch.DeletesOutput interface uid k.host)
    (hstarted : k.manager.watcherThread ≠ .unstarted) (hjoin : k.joins.get 1 = true) :
    k.RemovesRules ∧ WatcherStops k := by
  refine ⟨?_, Or.inr ⟨hstarted, by simp [hjoin]⟩⟩
  rintro - interface' hinterface
  obtain rfl : interface = interface' := Option.some.inj (hstate.1.symm.trans hinterface)
  exact ⟨uid, hstate.2, hinput, houtput⟩

/-- After it nothing is held. -/
theorem restarts_free_twice :
    ((runAll (Session.step {}) (.init calmWorld) startsTwice).step {} .cleanup).Free := by
  have hsucceeds : (runAll (Session.step {}) (.init calmWorld) startsTwice).Succeeds {} := fun _ =>
    ⟨⟨_, rfl⟩, fun _ => disables_of "tun0" 1000 (by decide +kernel) ⟨by decide +kernel,
      by decide +kernel⟩ ⟨by decide +kernel, by decide +kernel⟩ (by decide +kernel)
      (by decide +kernel)⟩
  refine (restarts_free {} calmWorld startsTwice hsucceeds).2
    ⟨fun _ => ⟨?_, ?_⟩, ?_, fun _ => ⟨?_, ?_⟩, trivial⟩
  · exact fun hactive => absurd hactive (by decide +kernel)
  · intro s₀ e s₁ hprepare hbody
    cases hprepare
    cases hbody
  · refine Or.inr (Or.inr ⟨rfl, fun _ => Or.inr ⟨by decide +kernel, ?_⟩⟩)
    exact disables_of "tun0" 1000 (by decide +kernel) ⟨by decide +kernel, by decide +kernel⟩
      ⟨by decide +kernel, by decide +kernel⟩ (by decide +kernel) (by decide +kernel)
  · exact fun hactive => absurd hactive (by decide +kernel)
  · intro s₀ e s₁ hprepare hbody
    cases hprepare
    cases hbody

end Runs

end Bimarz.Connection
