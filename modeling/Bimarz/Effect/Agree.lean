import Bimarz.Effect.Act

/-!
# Programs that agree

Two programs over two states agree along a relation of the states if they have the same outcome from
related states and leave related states behind. A program that is written over the operations of an
interface agrees with itself over any two implementations whose operations agree.
-/

namespace Effect

open Act

variable {ε δ σ τ α β : Type}

/-- From related states the two programs have the same outcome, and leave related states. -/
def Agree (R : σ → τ → Prop) (m : Act ε σ α) (m' : Act ε τ α) : Prop :=
  ∀ s t, R s t → (m s).1 = (m' t).1 ∧ R (m s).2 (m' t).2

namespace Agree

variable {R : σ → τ → Prop} {m : Act ε σ α} {m' : Act ε τ α}

protected theorem pure (a : α) : Agree R (pure a : Act ε σ α) (pure a) := fun _ _ h => ⟨rfl, h⟩

protected theorem raise (e : ε) : Agree R (raise e : Act ε σ α) (raise e) := fun _ _ h => ⟨rfl, h⟩

protected theorem modify {f : σ → σ} {g : τ → τ} (hf : ∀ s t, R s t → R (f s) (g t)) :
    Agree R (modify f : Act ε σ Unit) (modify g) := fun s t h => ⟨rfl, hf s t h⟩

protected theorem bind {f : α → Act ε σ β} {f' : α → Act ε τ β} (hm : Agree R m m')
    (hf : ∀ a, Agree R (f a) (f' a)) : Agree R (m >>= f) (m' >>= f') := by
  intro s t h
  obtain ⟨hout, hnext⟩ := hm s t h
  rcases hs : m s with ⟨r, s₁⟩
  rcases ht : m' t with ⟨r', t₁⟩
  rw [hs, ht] at hout hnext
  obtain rfl : r = r' := hout
  cases r with
  | error e =>
    rw [bind_error hs, bind_error ht]
    exact ⟨rfl, hnext⟩
  | ok a =>
    rw [bind_ok hs, bind_ok ht]
    exact hf a s₁ t₁ hnext

protected theorem ite {c : Prop} [Decidable c] {n : Act ε σ α} {n' : Act ε τ α} (hm : Agree R m m')
    (hn : Agree R n n') : Agree R (if c then m else n) (if c then m' else n') := by
  split
  · exact hm
  · exact hn

protected theorem handle {caught : ε → Bool} {f : ε → Act ε σ α} {f' : ε → Act ε τ α}
    (hm : Agree R m m') (hf : ∀ e, Agree R (f e) (f' e)) :
    Agree R (handle caught m f) (handle caught m' f') := by
  intro s t h
  obtain ⟨hout, hnext⟩ := hm s t h
  rcases hs : m s with ⟨r, s₁⟩
  rcases ht : m' t with ⟨r', t₁⟩
  rw [hs, ht] at hout hnext
  obtain rfl : r = r' := hout
  cases r with
  | ok a =>
    rw [handle_ok hs, handle_ok ht]
    exact ⟨rfl, hnext⟩
  | error e =>
    cases hcaught : caught e with
    | true =>
      rw [handle_caught hs hcaught, handle_caught ht hcaught]
      exact hf e s₁ t₁ hnext
    | false =>
      rw [handle_uncaught hs hcaught, handle_uncaught ht hcaught]
      exact ⟨rfl, hnext⟩

/-- A part of each of the two states that the programs work on. -/
protected theorem zoom {σ' τ' : Type} {R' : σ' → τ' → Prop} {get : σ' → σ} {set : σ → σ' → σ'}
    {get' : τ' → τ} {set' : τ → τ' → τ'} (hm : Agree R m m')
    (hget : ∀ s t, R' s t → R (get s) (get' t))
    (hset : ∀ s t a b, R' s t → R a b → R' (set a s) (set' b t)) :
    Agree R' (zoom get set m) (zoom get' set' m') := by
  intro s t h
  obtain ⟨hout, hnext⟩ := hm (get s) (get' t) (hget s t h)
  exact ⟨hout, hset s t _ _ h hnext⟩

/-- Each element of a list in turn. -/
protected theorem forM {f : β → Act ε σ Unit} {f' : β → Act ε τ Unit}
    (hf : ∀ b, Agree R (f b) (f' b)) (bs : List β) : Agree R (bs.forM f) (bs.forM f') := by
  induction bs with
  | nil => exact Agree.pure ()
  | cons b bs ih => exact (hf b).bind fun _ => ih

end Agree

end Effect
