import Bimarz.Connection.World

/-!
# What the calls of the services leave alone

The external calls write only what is xray-core's own and the answers to come. A view of the world
that does not look at these is framed by every call of the services that does not write its own
part of the world.
-/

namespace Bimarz.Connection

open Effect Effect.Act
open KillSwitch (System Switch Filter)

/-- A view that does not depend on the answers, on xray-core or on its runtime directory. -/
def Aside {τ : Type} (v : World → τ) : Prop :=
  ∀ w answers runtimeDir running registered history,
    v { w with answers, runtimeDir, running, registered, history } = v w

namespace Aside

variable {τ : Type} {v : World → τ} (h : Aside v)

include h

theorem ask : Frames v ask :=
  Frames.bind (Frames.reads _) fun _ =>
    Frames.bind (Frames.modify fun w => h w _ _ _ _ _) fun _ => Frames.pure _

theorem external {f : World → World} (hf : ∀ w history, v { f w with history } = v w) :
    Frames v (external f) :=
  Frames.of_keeps fun c => external_triple (h.ask.keeps_eq c) fun _ w history hw =>
    (hf w history).trans hw

/-- An external call that changes nothing. -/
theorem call : Frames v (Connection.external id) := h.external fun w _ => h w _ _ _ _ _

theorem call_then {α : Type} {f : Answer → Act Exc World α} (hf : ∀ answer, Frames v (f answer)) :
    Frames v (Connection.external id >>= f) := Frames.bind h.call hf

theorem cleanupRuntime : Frames v cleanupRuntime := by
  refine Frames.bind (Frames.reads _) fun _ => ?_
  refine Frames.bind (Frames.modify fun w => h w _ _ _ _ _) fun _ => ?_
  exact Frames.ite (h.call_then fun _ => Frames.pure _) (Frames.pure _)

theorem xrayStart : Frames v xrayStart :=
  Frames.bind (h.external fun w _ => h w _ _ _ _ _) fun _ => h.call_then fun _ => Frames.pure _

theorem xrayStop : Frames v xrayStop := by
  refine h.call_then fun _ => Frames.ensure (h.call_then fun waited => ?_) ?_
  · refine Frames.ite (Frames.modify fun w => h w _ _ _ _ _) ?_
    exact Frames.bind (h.external fun w _ => h w _ _ _ _ _) fun _ => Frames.pure _
  · exact h.call_then fun _ => Frames.ite (Frames.modify fun w => h w _ _ _ _ _) (Frames.pure _)

omit h in
theorem ofExcept {α : Type} (x : Except Exc α) : Frames v (ofExcept x) := by
  cases x with
  | ok a => exact Frames.pure a
  | error e => exact Frames.raise e

theorem engineAdd (profile : ServerProfile) : Frames v (engineAdd profile) := by
  refine Frames.bind (Frames.reads _) fun _ => Frames.ite ?_ (Frames.raise _)
  refine Frames.bind (ofExcept _) fun kwargs => h.call_then fun answer => ?_
  refine Frames.bind (Frames.reads _) fun _ => Frames.ite (Frames.raise _) ?_
  exact Frames.modify fun w => h w _ _ _ _ _

theorem engineRemove (raiseOnError : Bool) : Frames v (engineRemove raiseOnError) := by
  refine Frames.bind (Frames.reads _) fun _ => Frames.ite ?_ (Frames.pure _)
  refine Frames.handle ?_ fun e => Frames.ite (Frames.raise e) (Frames.pure _)
  exact Frames.bind (h.external fun w _ => h w _ _ _ _ _) fun _ => Frames.pure _

theorem checkAllProfiles (profiles : List ServerProfile) : Frames v (checkAllProfiles profiles) := by
  refine Frames.ite (Frames.pure _) ?_
  refine Frames.bind (ofExcept _) fun targets => h.call_then fun answer => ?_
  exact Frames.bind h.ask fun _ => Frames.pure _

/-! The two services that own something write the field that says so. -/

section Process

variable (hprocess : ∀ w process, v { w with process } = v w)

include hprocess

theorem processStart : Frames v processStart := by
  have hdir : Frames v (Connection.external fun w => { w with runtimeDir := true }) :=
    h.external fun w _ => h w _ _ _ _ _
  have hhandle (process : Bool) :
      Frames v (modify fun w => { w with process } : Act Exc World Unit) :=
    Frames.modify fun w => hprocess w process
  exact Frames.of_keeps fun c => keeps_processStartWith ((Frames.reads _).keeps_eq c)
    (h.call.keeps_eq c) (hdir.keeps_eq c) (h.call.keeps_eq c) (h.xrayStart.keeps_eq c)
    (fun process => (hhandle process).keeps_eq c) (h.cleanupRuntime.keeps_eq c)

theorem processStop : Frames v processStop := by
  refine Frames.bind (Frames.reads _) fun _ => ?_
  refine Frames.bind (Frames.modify fun w => hprocess w false) fun _ => ?_
  exact Frames.ensure (Frames.ite h.xrayStop (Frames.pure _)) h.cleanupRuntime

end Process

section Engine

variable (hengine : ∀ w engine, v { w with engine } = v w)

include hengine

theorem engineConnect : Frames v engineConnect := by
  refine Frames.bind (Frames.reads _) fun _ => Frames.ite (Frames.pure _) ?_
  refine Frames.bind (h.external fun w history => ?_) fun _ => Frames.pure _
  exact (h { w with engine := true } w.answers w.runtimeDir w.running w.registered history).trans
    (hengine w true)

theorem engineClose : Frames v engineClose := by
  refine Frames.bind (Frames.reads _) fun _ => ?_
  refine Frames.bind (Frames.modify fun w => hengine w false) fun _ => ?_
  exact Frames.ite (h.call_then fun _ => Frames.pure _) (Frames.pure _)

end Engine

end Aside

end Bimarz.Connection
