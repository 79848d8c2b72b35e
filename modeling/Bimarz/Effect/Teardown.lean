import Bimarz.Effect.Triple

/-!
# Best-effort teardown

A teardown releases one resource after another. Each release is attempted in a `try` block of its
own, a caught failure only adds a message to a local list, and the next release starts whatever
became of the one before.
-/

namespace Effect

open Act

/-- A program with a local list of error messages. -/
abbrev Teardown (ε σ α : Type) := Act ε (σ × List String) α

namespace Teardown

variable {ε σ α : Type}

/-- A program that leaves the messages alone. -/
def lift (m : Act ε σ α) : Teardown ε σ α := zoom Prod.fst (fun s p => (s, p.2)) m

/-- `try release except (caught) as e: errors.append(describe e) else: orElse`. -/
def attempt (caught : ε → Bool) (describe : ε → String) (release orElse : Act ε σ Unit) :
    Teardown ε σ Unit :=
  lift (failure caught release) >>= fun
    | none => lift orElse
    | some e => modify fun p => (p.1, p.2 ++ [describe e])

/-- The messages that a teardown ends with. -/
def errors : Teardown ε σ (List String) := reads Prod.snd

theorem lift_apply (m : Act ε σ α) (s : σ) (errs : List String) :
    lift m (s, errs) = ((m s).1, (m s).2, errs) := rfl

theorem lift_ok {m : Act ε σ α} {s s' : σ} {a : α} (h : m s = (.ok a, s')) (errs : List String) :
    lift m (s, errs) = (.ok a, s', errs) := by
  rw [lift_apply, h]

theorem attempt_ok {caught : ε → Bool} {describe : ε → String} {release orElse : Act ε σ Unit}
    {s s' : σ} (h : release s = (.ok (), s')) (errs : List String) :
    attempt caught describe release orElse (s, errs) = lift orElse (s', errs) :=
  bind_ok (lift_ok (failure_ok h) errs)

theorem attempt_caught {caught : ε → Bool} {describe : ε → String} {release orElse : Act ε σ Unit}
    {s s' : σ} {e : ε} (h : release s = (.error e, s')) (he : caught e = true)
    (errs : List String) :
    attempt caught describe release orElse (s, errs) = (.ok (), s', errs ++ [describe e]) :=
  bind_ok (lift_ok (failure_caught h he) errs)

section Triple

variable {P Q R : σ → Prop} {E E' : ε → σ → Prop}

theorem triple_lift {m : Act ε σ α} {Q : α → σ → Prop} (h : Triple P m Q E) :
    Triple (fun p => P p.1) (lift m) (fun a p => Q a p.1) (fun e p => E e p.1) :=
  Triple.zoom h (fun _ hp => hp) (fun _ _ _ _ hq => hq) fun _ _ _ _ he => he

/-- An attempt ends where its release was caught, or after what follows the release. -/
theorem triple_attempt {caught : ε → Bool} {describe : ε → String} {release orElse : Act ε σ Unit}
    (hrelease : Triple P release (fun _ => R) E') (horElse : Triple R orElse (fun _ => Q) E)
    (hcaught : ∀ e s, caught e = true → E' e s → Q s)
    (huncaught : ∀ e s, caught e = false → E' e s → E e s) :
    Triple (fun p => P p.1) (attempt caught describe release orElse) (fun _ p => Q p.1)
      (fun e p => E e p.1) := by
  have hfailure : Triple P (failure caught release)
      (fun | none => R | some _ => Q) E :=
    Triple.handle (Triple.bind hrelease fun _ => Triple.pure fun _ hs => hs)
      (fun e he => Triple.pure fun s hs => hcaught e s he hs) huncaught
  refine Triple.bind (triple_lift hfailure) fun raised => ?_
  cases raised with
  | none => exact triple_lift horElse
  | some e => exact Triple.modify fun _ hp => hp

end Triple

section Keeps

variable {I : σ → Prop}

theorem keeps_lift {m : Act ε σ α} (hm : Keeps I m) : Keeps (fun p => I p.1) (lift m) :=
  Keeps.zoom hm (fun _ hp => hp) fun _ _ _ hs => hs

/-- An attempt keeps what its release and what follows it keep. -/
theorem keeps_attempt {caught : ε → Bool} {describe : ε → String} {release orElse : Act ε σ Unit}
    (hrelease : Keeps I release) (horElse : Keeps I orElse) :
    Keeps (fun p => I p.1) (attempt caught describe release orElse) := by
  refine Keeps.bind (keeps_lift hrelease.failure) fun raised => ?_
  cases raised with
  | none => exact keeps_lift horElse
  | some e => exact Keeps.modify fun _ hp => hp

end Keeps

section Frames

variable {τ : Type} {v : σ → τ}

theorem frames_lift {m : Act ε σ α} (hm : Frames v m) : Frames (fun p => v p.1) (lift m) :=
  fun p => hm p.1

/-- An attempt changes no more than its release and what follows it. -/
theorem frames_attempt {caught : ε → Bool} {describe : ε → String} {release orElse : Act ε σ Unit}
    (hrelease : Frames v release) (horElse : Frames v orElse) :
    Frames (fun p => v p.1) (attempt caught describe release orElse) :=
  Frames.of_keeps fun c => keeps_attempt (hrelease.keeps_eq c) (horElse.keeps_eq c)

end Frames

end Teardown

end Effect
