import Bimarz.Connection.Closed
import Bimarz.Gui.Closed

/-!
# A triggered kill-switch does not stay closed

Both front ends tear the kill-switch down at the end of a run, triggered or not. What both loops and
both teardowns make of the firewall is put together here.
-/

namespace Bimarz

open Effect
open KillSwitch (System)

/-- **A triggered kill-switch stays closed** to the end of a run, whenever in the run the trigger is
recorded, exactly if no deactivation of the teardowns gets its first command through: in a
connection, whose cleanup returns, and in a run of the GUI's worker. The loops themselves leave the
firewall alone. -/
theorem triggered_stays_iff (config : AppConfig) (n : ℕ) (profile : ServerProfile)
    (autoFailover killswitch : Bool) (allProfiles : Option (List ServerProfile))
    (s : Connection.ConnectionService Connection.World) (w : Gui.Worker) :
    (s.world.killswitch.triggeredOn = none →
      (Connection.Spares config n profile autoFailover killswitch allProfiles s →
        Connection.StaysClosed config n profile autoFailover killswitch allProfiles s) ∧
      ((Connection.cleanup (Connection.services config) (Connection.start
          (Connection.services config) n profile autoFailover killswitch allProfiles s).2).1 =
            .ok () →
        (Connection.StaysClosed config n profile autoFailover killswitch allProfiles s ↔
          Connection.Spares config n profile autoFailover killswitch allProfiles s))) ∧
    (w.client = false → w.log = [] → w.Unused → (Gui.run n w).1 ≠ .ok false →
      (Gui.StaysClosed n w ↔ Gui.Spares n w)) ∧
    (Connection.supervise (Connection.services config) n profile autoFailover allProfiles
      s).2.world.killswitch.filter = s.world.killswitch.filter ∧
    (Gui.watch n w).2.ksManager.filter = w.ksManager.filter := by
  refine ⟨?_, ?_, ?_, ?_⟩
  · exact Connection.staysClosed_iff config n profile autoFailover killswitch allProfiles s
  · intro hclient hlog hunused hended
    exact Gui.staysClosed_iff hclient hlog hunused hended
  · exact Connection.supervise_filter config n profile autoFailover allProfiles s
  · exact Gui.watch_filter w n

/-- A system whose watcher finds xray-core dead in the second gap after its activation. -/
def crashedSystem (fates : Stream' KillSwitch.Fate) : System :=
  .fresh [] [] fates (.const true) (.const true) (.const true) (.const true) fun k =>
    if k = 2 then [.trigger "xray-core unexpectedly stopped", .clearThread] else []

/-- A world with such a system, in which nothing else fails and no stop is requested. -/
def crashedWorld (fates : Stream' KillSwitch.Fate) : Connection.World where
  answers k := { yes := k ≠ 13, uid := some 1000 }
  killswitch := crashedSystem fates

/-- A worker with such a system, whose client is not to be disconnected. -/
def crashedWorker (fates : Stream' KillSwitch.Fate) : Gui.Worker :=
  { Gui.plainWorker (.const false) (.const {}) with ksManager := crashedSystem fates }

/-- **Opened.** Every command runs: the loops are left because of the trigger, the cleanup of the
connection and the worker's `except` block delete both rules, and traffic goes out directly. -/
theorem triggered_opened :
    (¬∀ (w : Connection.World) (n : ℕ) (profile : ServerProfile) (autoFailover : Bool)
        (allProfiles : Option (List ServerProfile)), w.killswitch.triggeredOn = none →
      Connection.StaysClosed {} n profile autoFailover true allProfiles { world := w }) ∧
    ¬∀ (n : ℕ) (s : Gui.Worker), s.enableKillswitch = true → s.client = false → s.log = [] →
      s.Unused → (Gui.run n s).1 ≠ .ok false → Gui.StaysClosed n s := by
  constructor
  · intro h
    have hclosed := h (crashedWorld (.const .runs)) 1 ⟨"a", "", "", .empty, ""⟩ false none rfl
    have htriggered : (Connection.cleanup (Connection.services {}) (Connection.start
        (Connection.services {}) 1 ⟨"a", "", "", .empty, ""⟩ false true none
        { world := crashedWorld (.const .runs) }).2).2.world.killswitch.triggeredOn.map
          (fun f => f.input.length) = some 1 := by decide +kernel
    have hopen : (Connection.cleanup (Connection.services {}) (Connection.start
        (Connection.services {}) 1 ⟨"a", "", "", .empty, ""⟩ false true none
        { world := crashedWorld (.const .runs) }).2).2.world.killswitch.filter.input.length = 0 := by
      decide +kernel
    obtain ⟨f, hf, hlength⟩ := Option.map_eq_some_iff.mp htriggered
    rw [hclosed f hf, hlength] at hopen
    cases hopen
  · intro h
    have hclosed := h 1 (crashedWorker (.const .runs)) rfl rfl rfl ⟨rfl, rfl⟩ (by decide +kernel)
    have htriggered : (Gui.run 1 (crashedWorker (.const .runs))).2.ksManager.triggeredOn.map
        (fun f => f.input.length) = some 1 := by decide +kernel
    have hopen : (Gui.run 1 (crashedWorker (.const .runs))).2.ksManager.filter.input.length = 0 := by
      decide +kernel
    obtain ⟨f, hf, hlength⟩ := Option.map_eq_some_iff.mp htriggered
    rw [hclosed f hf, hlength] at hopen
    cases hopen

/-- A connection whose firewall refuses the first deletion. -/
theorem triggered_stays_refused :
    Connection.StaysClosed {} 1 ⟨"a", "", "", .empty, ""⟩ false true none
      { world := crashedWorld (.cons .runs (.cons .runs (.const .nonZero))) } := by
  refine ((triggered_stays_iff {} 1 ⟨"a", "", "", .empty, ""⟩ false true none _
    (crashedWorker (.const .runs))).1 rfl).1 ?_
  intro s₀ hprepare s₁ _ hreopens
  obtain ⟨-, -, interface, uid, -, -, hruns, -⟩ := hreopens
  obtain rfl : (Connection.prepare (Connection.services {}) ⟨"a", "", "", .empty, ""⟩
      { world := crashedWorld (.cons .runs (.cons .runs (.const .nonZero))) }).2 = s₀ :=
    congrArg Prod.snd hprepare
  revert hruns
  decide +kernel

end Bimarz
