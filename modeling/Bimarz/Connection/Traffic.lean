import Bimarz.Connection.Invariant
import Bimarz.Connection.World
import Bimarz.Effect.Run
import Bimarz.Xray.Routing

/-!
# Traffic while a connection runs

The history of the world has every combination of "xray-core runs" and "an outbound is registered"
that a run of a connection goes through. `placeholder_iff` says which SOCKS connections the direct
placeholder carries in them, and that every run in which xray-core runs has such a moment: between
the start of the process and the first `add_outbound`.
-/

namespace Bimarz.Connection

open Effect Effect.Act
open Xray (Core)

/-! ## The window -/

def Snapshot.Open (snap : Snapshot) : Prop := snap.running = true ∧ snap.registered = none

/-- If xray-core runs or has run, there was a moment at which it ran without an active outbound. -/
def World.Windowed (w : World) : Prop :=
  (w.running = true ∨ ∃ snap ∈ w.history, snap.running = true) → ∃ snap ∈ w.history, snap.Open

/-- An effect that starts xray-core only without an active outbound. -/
def StartsEmpty (effect : World → World) : Prop :=
  ∀ w, (effect w).running = true → w.running = true ∨ (effect w).registered = none

section Windows

theorem windowed_change {effect : World → World} (h : StartsEmpty effect) :
    Keeps World.Windowed (change effect) := by
  apply Keeps.modify
  intro w hw hran
  have hold : (∃ snap ∈ w.history, snap.Open) →
      ∃ snap ∈ w.history ++ [(effect w).snapshot], snap.Open := by
    rintro ⟨snap, hsnap, hopen⟩
    exact ⟨snap, List.mem_append_left _ hsnap, hopen⟩
  have hnow : (effect w).running = true →
      ∃ snap ∈ w.history ++ [(effect w).snapshot], snap.Open := by
    intro hrun
    rcases h w hrun with hw' | hnone
    · exact hold (hw (Or.inl hw'))
    · exact ⟨(effect w).snapshot, by simp, hrun, hnone⟩
  rcases hran with hrun | ⟨snap, hsnap, hrun⟩
  · exact hnow hrun
  · rcases List.mem_append.mp hsnap with hsnap | hsnap
    · exact hold (hw (Or.inr ⟨snap, hsnap, hrun⟩))
    · rw [List.mem_singleton.mp hsnap] at hrun
      exact hnow hrun

theorem windowed_ask : Keeps World.Windowed ask := by
  apply Keeps.bind (Keeps.reads _)
  intro answer
  apply Keeps.bind (windowed_change _) fun _ => Keeps.pure _
  intro w hrun
  have hboth : (w.running && !answer.crash) = true := hrun
  exact Or.inl (Bool.and_eq_true_iff.mp hboth).1

theorem windowed_external {effect : World → World} (h : StartsEmpty effect) :
    Keeps World.Windowed (external effect) := by
  apply Keeps.bind windowed_ask
  intro answer
  cases answer.failure with
  | some e => exact Keeps.raise e
  | none => exact Keeps.bind (windowed_change h) fun _ => Keeps.pure _

/-- An external call that leaves xray-core as it is. -/
theorem windowed_call {effect : World → World} (h : ∀ w, (effect w).running = w.running) :
    Keeps World.Windowed (external effect) :=
  windowed_external fun w hrun => Or.inl ((h w).symm.trans hrun)

theorem windowed_ofExcept {α : Type} (x : Except Exc α) :
    Keeps World.Windowed (ofExcept x) := by
  cases x with
  | ok a => exact Keeps.pure a
  | error e => exact Keeps.raise e

theorem windowed_onKillswitch {α : Type} (m : Act Exc KillSwitch.System α) :
    Keeps World.Windowed (onKillswitch m) := Keeps.of_run fun _ hw => hw

end Windows

/-! ## The services -/

section Services

theorem windowed_cleanupRuntime : Keeps World.Windowed cleanupRuntime := by
  apply Keeps.bind (Keeps.reads _)
  intro runtimeDir
  refine Keeps.bind (Keeps.modify fun _ hw => hw) fun _ => ?_
  exact Keeps.ite (Keeps.bind (windowed_call fun _ => rfl) fun _ => Keeps.pure _) (Keeps.pure _)

theorem windowed_xrayStart : Keeps World.Windowed xrayStart := by
  refine Keeps.bind (windowed_external fun _ _ => Or.inr rfl) fun _ => ?_
  exact Keeps.bind (windowed_call fun _ => rfl) fun _ => Keeps.pure _

theorem windowed_xrayStop : Keeps World.Windowed xrayStop := by
  have hstopped : StartsEmpty fun w => { w with running := false } := fun _ hrun =>
    Bool.noConfusion hrun
  refine Keeps.bind (windowed_call fun _ => rfl) fun _ => Keeps.ensure ?_ ?_
  · refine Keeps.bind (windowed_call fun _ => rfl) fun waited => ?_
    apply Keeps.ite (windowed_change hstopped)
    exact Keeps.bind (windowed_external hstopped) fun _ => Keeps.pure _
  · refine Keeps.bind (windowed_call fun _ => rfl) fun drained => ?_
    exact Keeps.ite (windowed_change hstopped) (Keeps.pure _)

theorem windowed_processStart : Keeps World.Windowed processStart :=
  keeps_processStartWith (Keeps.reads _) (windowed_call fun _ => rfl) (windowed_call fun _ => rfl)
    (windowed_call fun _ => rfl) windowed_xrayStart (fun _ => Keeps.modify fun _ hw => hw)
    windowed_cleanupRuntime

theorem windowed_processStop : Keeps World.Windowed processStop := by
  apply Keeps.bind (Keeps.reads _)
  intro process
  refine Keeps.bind (Keeps.modify fun _ hw => hw) fun _ => ?_
  exact Keeps.ensure (Keeps.ite windowed_xrayStop (Keeps.pure _)) windowed_cleanupRuntime

theorem windowed_engineAdd (profile : ServerProfile) :
    Keeps World.Windowed (engineAdd profile) := by
  apply Keeps.bind (Keeps.reads _)
  intro engine
  apply Keeps.ite _ (Keeps.raise _)
  apply Keeps.bind (windowed_ofExcept _)
  intro kwargs
  refine Keeps.bind (windowed_call fun _ => rfl) fun answer => ?_
  apply Keeps.bind (Keeps.reads _)
  intro registered
  exact Keeps.ite (Keeps.raise _) (windowed_change fun _ hrun => Or.inl hrun)

theorem windowed_engineRemove (raiseOnError : Bool) :
    Keeps World.Windowed (engineRemove raiseOnError) := by
  apply Keeps.bind (Keeps.reads _)
  intro engine
  apply Keeps.ite _ (Keeps.pure _)
  apply Keeps.handle
  · exact Keeps.bind (windowed_call fun _ => rfl) fun _ => Keeps.pure _
  · intro e
    exact Keeps.ite (Keeps.raise e) (Keeps.pure _)

theorem windowed_checkAllProfiles (profiles : List ServerProfile) :
    Keeps World.Windowed (checkAllProfiles profiles) := by
  apply Keeps.ite (Keeps.pure _)
  apply Keeps.bind (windowed_ofExcept _)
  intro targets
  refine Keeps.bind (windowed_call fun _ => rfl) fun answer => ?_
  exact Keeps.bind windowed_ask fun _ => Keeps.pure _

theorem windowed_observe (config : AppConfig) {α : Type} {m : Act Exc World α}
    (h : Observes (services config) m) : Keeps World.Windowed m := by
  cases h with
  | isRunning => exact Keeps.bind windowed_ask fun _ => Keeps.reads _
  | isActive => exact windowed_onKillswitch _
  | isWatcherAlive => exact windowed_onKillswitch _
  | checkAllProfiles profiles => exact windowed_checkAllProfiles profiles
  | now => exact Keeps.bind windowed_ask fun _ => Keeps.pure _
  | stopIsSet => exact Keeps.bind windowed_ask fun _ => Keeps.pure _
  | waitStop timeout => exact Keeps.bind (windowed_call fun _ => rfl) fun _ => Keeps.pure _
  | addSignalHandler sig => exact Keeps.bind (windowed_call fun _ => rfl) fun _ => Keeps.pure _
  | eventHandler h event payload =>
    cases h
    exact Keeps.bind (windowed_call fun _ => rfl) fun _ => Keeps.pure _

theorem windowed_services (config : AppConfig) : (services config).Preserves World.Windowed where
  observe h := windowed_observe config h
  processStart _ := windowed_processStart
  processStop := windowed_processStop
  connect := Keeps.bind (Keeps.reads _) fun _ => Keeps.ite (Keeps.pure _)
    (Keeps.bind (windowed_call fun _ => rfl) fun _ => Keeps.pure _)
  addOutbound profile := windowed_engineAdd profile
  removeOutbound := windowed_engineRemove true
  close := Keeps.bind (Keeps.reads _) fun _ => Keeps.bind (Keeps.modify fun _ hw => hw) fun _ =>
    Keeps.ite (Keeps.bind (windowed_call fun _ => rfl) fun _ => Keeps.pure _) (Keeps.pure _)
  enable _ := Keeps.bind windowed_ask fun _ => windowed_onKillswitch _
  disable := windowed_onKillswitch _
  startWatcher := windowed_onKillswitch _
  stopWatcher := Keeps.bind (windowed_onKillswitch _) fun _ => Keeps.pure _
  removeSignalHandler _ := Keeps.bind (windowed_call fun _ => rfl) fun _ => Keeps.pure _
  clearStop _ hw := hw

end Services

/-! ## Runs -/

/-- A use of a connection. -/
inductive Request
  | start (n : ℕ) (profile : ServerProfile) (autoFailover killswitch : Bool)
      (allProfiles : Option (List ServerProfile))
  | cleanup

/-- The state after a request, whether it returned or raised. -/
def Request.step (config : AppConfig) (s : ConnectionService World) :
    Request → ConnectionService World
  | .start n profile autoFailover killswitch allProfiles =>
    (Connection.start (services config) n profile autoFailover killswitch allProfiles s).2
  | .cleanup => (Connection.cleanup (services config) s).2

/-- A connection that was not used yet, in a world that answers so. -/
def fresh (answers : Stream' Answer) (killswitch : KillSwitch.System) :
    ConnectionService World := { world := { answers, killswitch } }

theorem windowed_of_runs (config : AppConfig) (answers : Stream' Answer)
    (killswitch : KillSwitch.System) (requests : List Request) :
    (runAll (Request.step config) (fresh answers killswitch) requests).world.Windowed := by
  refine runAll_invariant (I := fun s : ConnectionService World => s.world.Windowed)
    (fun s request hs => ?_) ?_ requests
  · cases request with
    | start n profile autoFailover killswitch allProfiles =>
      exact ((windowed_services config).start n profile autoFailover killswitch allProfiles).run hs
    | cleanup => exact (windowed_services config).cleanup.run hs
  · rintro (hrun | ⟨snap, hsnap, -⟩)
    · exact Bool.noConfusion hrun
    · cases hsnap

/-- The placeholder carries no SOCKS connection at this moment. -/
def Snapshot.Tunnelled (core : Core) (xrayConfig : Xray.ConnectConfig) (snap : Snapshot) : Prop :=
  snap.running = true → ∀ conn : Xray.Connection, conn.inboundTag = "socks-in" →
    core.carrier xrayConfig (xrayConfig.registered snap.registered.isSome) conn ≠ "placeholder"

/-- **The placeholder** carries a SOCKS connection at a moment of a run exactly if no outbound is
registered then and the DNS rule does not catch the connection. No connection at all goes through
it exactly in those runs in which xray-core never runs. -/
theorem placeholder_iff {core : Core} (hcore : core.Routes) {engineCore : Option Exc}
    {grpcEndpoint : String} {localSocksPort : ℤ} {guard : Bool} {xrayConfig : Xray.ConnectConfig}
    (hbuild : Xray.buildConnectConfig engineCore grpcEndpoint localSocksPort guard =
      .ok xrayConfig)
    (config : AppConfig) (answers : Stream' Answer) (killswitch : KillSwitch.System)
    (requests : List Request) :
    let history := (runAll (Request.step config) (fresh answers killswitch) requests).world.history
    (∀ snap ∈ history, snap.running = true → ∀ conn : Xray.Connection, conn.inboundTag = "socks-in" →
      (core.carrier xrayConfig (xrayConfig.registered snap.registered.isSome) conn = "placeholder" ↔
        snap.registered = none ∧ ¬(guard = true ∧ conn.port = 53))) ∧
    ((∀ snap ∈ history, snap.Tunnelled core xrayConfig) ↔ ∀ snap ∈ history, snap.running = false) := by
  intro history
  have hbuilt := Xray.built_of_buildConnectConfig hbuild
  have hmoment : ∀ (snap : Snapshot) (conn : Xray.Connection), conn.inboundTag = "socks-in" →
      (core.carrier xrayConfig (xrayConfig.registered snap.registered.isSome) conn = "placeholder" ↔
        snap.registered = none ∧ ¬(guard = true ∧ conn.port = 53)) := by
    intro snap conn hconn
    rw [Xray.carrier_placeholder_iff hcore hbuilt hconn, Option.isSome_eq_false_iff,
      Option.isNone_iff_eq_none]
  refine ⟨fun snap _ _ conn hconn => hmoment snap conn hconn, ?_, ?_⟩
  · intro htunnelled snap hsnap
    by_contra hran
    obtain ⟨window, hwindow, hrun, hnone⟩ :=
      windowed_of_runs config answers killswitch requests (Or.inr ⟨snap, hsnap, by simpa using hran⟩)
    exact htunnelled window hwindow hrun ⟨"socks-in", "example.org", 443, .tcp⟩ rfl
      ((hmoment window _ rfl).mpr ⟨hnone, by simp⟩)
  · intro hnever snap hsnap hrun
    exact absurd ((hnever snap hsnap).symm.trans hrun) Bool.false_ne_true

/-- In a run in which xray-core's binary is never found, nothing is carried at all. -/
theorem placeholder_missing_binary :
    (∀ snap ∈ (runAll (Request.step {})
        (fresh (.const { yes := false }) (.freshWith (.const .runs) (.const true)))
        [.start 1 ⟨"a", "", "", .empty, ""⟩ false false none, .cleanup]).world.history,
      snap.Tunnelled Xray.reference Xray.connectConfig) ↔
    ∀ snap ∈ (runAll (Request.step {})
        (fresh (.const { yes := false }) (.freshWith (.const .runs) (.const true)))
        [.start 1 ⟨"a", "", "", .empty, ""⟩ false false none, .cleanup]).world.history,
      snap.running = false :=
  (placeholder_iff Xray.reference_routes Xray.buildConnectConfig_default {} _ _ _).2

/-- **The window.** xray-core runs and the outbound is not added yet: a SOCKS connection to a web
server goes out directly. -/
theorem placeholder_before_addOutbound :
    ¬∀ (core : Core), core.Routes → ∀ (xrayConfig : Xray.ConnectConfig),
      Xray.buildConnectConfig none defaultGrpcEndpoint defaultLocalSocksPort true =
        .ok xrayConfig →
      ∀ (config : AppConfig) (answers : Stream' Answer) (killswitch : KillSwitch.System)
        (requests : List Request),
      ∀ snap ∈ (runAll (Request.step config) (fresh answers killswitch) requests).world.history,
        snap.Tunnelled core xrayConfig := by
  intro h
  have hwindow := h Xray.reference Xray.reference_routes Xray.connectConfig
    Xray.buildConnectConfig_default {} (.const {}) (.freshWith (.const .runs) (.const true))
    [.start 1 ⟨"a", "", "", .empty, ""⟩ false false none] ⟨true, none⟩ (by decide)
  exact hwindow rfl ⟨"socks-in", "example.org", 443, .tcp⟩ rfl (by decide)

end Bimarz.Connection
