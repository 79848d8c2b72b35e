import Bimarz.Effect.Act

/-!
# Exceptions

`except Exception` catches the instances of `Exception` and lets the other two kinds through:
`asyncio.CancelledError` and `KeyboardInterrupt` derive from `BaseException` only.
-/

namespace Bimarz

/-- The classes of `Exception` that the code raises or tells apart. -/
inductive ErrorKind
  | runtimeError
  | notImplementedError
  | valueError
  | typeError
  | keyError
  | overflowError
  | osError
  | timeoutError
  | engineNotBuilt
  | binaryNotFound
  | killSwitchTriggered
  | other
  deriving DecidableEq, Repr

/-- A raised exception. -/
inductive Exc
  | error (kind : ErrorKind) (message : String)
  | cancelled
  | keyboardInterrupt
  deriving DecidableEq, Repr

/-- The exceptions that `except Exception` catches. -/
def Exc.isException : Exc → Bool
  | .error _ _ => true
  | .cancelled => false
  | .keyboardInterrupt => false

/-- `str(exc)`. -/
def Exc.message : Exc → String
  | .error _ message => message
  | .cancelled => ""
  | .keyboardInterrupt => ""

/-- A call that raises nothing but instances of `Exception`. -/
def RaisesExceptions {σ α : Type} (m : Effect.Act Exc σ α) : Prop :=
  ∀ s e s', m s = (.error e, s') → e.isException = true

namespace RaisesExceptions

open Effect Effect.Act

variable {σ α β : Type}

protected theorem pure (a : α) : RaisesExceptions (pure a : Act Exc σ α) := by
  intro s e s' h
  cases h

protected theorem raise {e : Exc} (he : e.isException = true) :
    RaisesExceptions (Act.raise e : Act Exc σ α) := by
  intro s e' s' h
  cases h
  exact he

protected theorem reads (f : σ → α) : RaisesExceptions (Act.reads f : Act Exc σ α) := by
  intro s e s' h
  cases h

protected theorem modify (f : σ → σ) : RaisesExceptions (Act.modify f : Act Exc σ Unit) := by
  intro s e s' h
  cases h

protected theorem ite {c : Prop} [Decidable c] {m m' : Act Exc σ α} (hm : RaisesExceptions m)
    (hm' : RaisesExceptions m') : RaisesExceptions (if c then m else m') := by
  split
  · exact hm
  · exact hm'

protected theorem bind {m : Act Exc σ β} {f : β → Act Exc σ α} (hm : RaisesExceptions m)
    (hf : ∀ b, RaisesExceptions (f b)) : RaisesExceptions (m >>= f) := by
  intro s e s' h
  rcases hr : m s with ⟨e' | b, t⟩
  · rw [bind_error hr] at h
    cases h
    exact hm _ _ _ hr
  · rw [bind_ok hr] at h
    exact hf b _ _ _ h

protected theorem mapError {δ : Type} {f : δ → Exc} (hf : ∀ d, (f d).isException = true)
    (m : Act δ σ α) : RaisesExceptions (mapError f m) := by
  intro s e s' h
  rcases hr : m s with ⟨d | a, t⟩
  · rw [mapError_error hr] at h
    cases h
    exact hf d
  · rw [mapError_ok hr] at h
    cases h

protected theorem handle {caught : Exc → Bool} {m : Act Exc σ α} {h : Exc → Act Exc σ α}
    (hm : RaisesExceptions m) (hh : ∀ e, RaisesExceptions (h e)) :
    RaisesExceptions (handle caught m h) := by
  intro s e s' hrun
  rcases hr : m s with ⟨e' | a, t⟩
  · by_cases hc : caught e' = true
    · rw [handle_caught hr hc] at hrun
      exact hh e' _ _ _ hrun
    · rw [handle_uncaught hr (by simpa using hc)] at hrun
      cases hrun
      exact hm _ _ _ hr
  · rw [handle_ok hr] at hrun
    cases hrun

protected theorem forM {m : β → Act Exc σ PUnit} (hm : ∀ b, RaisesExceptions (m b)) (bs : List β) :
    RaisesExceptions (bs.forM m) := by
  induction bs with
  | nil => exact RaisesExceptions.pure _
  | cons b bs ih => exact (hm b).bind fun _ => ih

end RaisesExceptions

end Bimarz
