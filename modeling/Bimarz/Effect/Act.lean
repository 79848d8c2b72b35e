import Mathlib.Data.Nat.Notation
import Mathlib.Tactic.Common

/-!
# Computations that write a state and may raise

`Act ε σ α` is a program over the state `σ` that returns a value of `α` or raises an exception
of `ε`. A raise does not undo anything: the writes made before it stay, as they do in a language
with mutable objects. `handle` is `try`/`except` with a class of caught exceptions, `ensure` is
`try`/`finally`, `loop` is a `while` loop cut after a number of rounds.
-/

namespace Effect

/-- A program over the state `σ` that returns an `α` or raises an `ε`. -/
def Act (ε σ α : Type) : Type := σ → Except ε α × σ

namespace Act

variable {ε σ τ α β : Type}

instance : Monad (Act ε σ) where
  pure a := fun s => (.ok a, s)
  bind m f := fun s =>
    match m s with
    | (.ok a, s') => f a s'
    | (.error e, s') => (.error e, s')

/-- Raise `e`. -/
def raise (e : ε) : Act ε σ α := fun s => (.error e, s)

/-- A computation that does not look at the state. -/
def ofExcept (r : Except ε α) : Act ε σ α := fun s => (r, s)

/-- Read a part of the state. -/
def reads (f : σ → α) : Act ε σ α := fun s => (.ok (f s), s)

/-- Write the state. -/
def modify (f : σ → σ) : Act ε σ Unit := fun s => (.ok (), f s)

/-- `try m except (caught) as e: h e`. -/
def handle (caught : ε → Bool) (m : Act ε σ α) (h : ε → Act ε σ α) : Act ε σ α := fun s =>
  match m s with
  | (.ok a, s') => (.ok a, s')
  | (.error e, s') => if caught e then h e s' else (.error e, s')

/-- `try m finally fin`: an exception of `fin` takes the place of the outcome of `m`. -/
def ensure (m : Act ε σ α) (fin : Act ε σ Unit) : Act ε σ α := fun s =>
  match fin (m s).2 with
  | (.ok _, s') => ((m s).1, s')
  | (.error e, s') => (.error e, s')

/-- What a round of a loop says about the next one. -/
inductive Flow
  | next
  | leave
  deriving DecidableEq, Repr

/-- At most `n` rounds of `while True: body`. The value says whether the loop was left: `false`
is a run that stands at the beginning of round `n + 1`. -/
def loop : ℕ → Act ε σ Flow → Act ε σ Bool
  | 0, _ => pure false
  | n + 1, body => body >>= fun
    | .next => loop n body
    | .leave => pure true

/-- Run a program on the part of the state that `get` reads and `set` writes. -/
def zoom (get : σ → τ) (set : τ → σ → σ) (m : Act ε τ α) : Act ε σ α := fun s =>
  ((m (get s)).1, set (m (get s)).2 s)

/-- Run a program with a local variable that starts as `t`. -/
def withLocal (t : τ) (m : Act ε (σ × τ) α) : Act ε σ α := fun s => ((m (s, t)).1, (m (s, t)).2.1)

/-- `try m except (caught) as e`: the exception that was caught, if there was one. -/
def failure (caught : ε → Bool) (m : Act ε σ Unit) : Act ε σ (Option ε) :=
  handle caught (m >>= fun _ => pure none) fun e => pure (some e)

/-- The outcome of a program, as a value. -/
def outcome (m : Act ε σ α) : Act ε σ (Except ε α) := fun s => (.ok (m s).1, (m s).2)

/-- Run a program that raises `δ` where `ε` is expected. -/
def mapError {δ : Type} (f : δ → ε) (m : Act δ σ α) : Act ε σ α := fun s =>
  ((m s).1.mapError f, (m s).2)

/-! ## Running -/

@[simp] theorem pure_apply (a : α) (s : σ) : (pure a : Act ε σ α) s = (.ok a, s) := rfl

theorem bind_apply (m : Act ε σ α) (f : α → Act ε σ β) (s : σ) :
    (m >>= f) s = match m s with
      | (.ok a, s') => f a s'
      | (.error e, s') => (.error e, s') := rfl

theorem bind_ok {m : Act ε σ α} {f : α → Act ε σ β} {s s' : σ} {a : α}
    (h : m s = (.ok a, s')) : (m >>= f) s = f a s' := by
  rw [bind_apply, h]

theorem bind_error {m : Act ε σ α} {f : α → Act ε σ β} {s s' : σ} {e : ε}
    (h : m s = (.error e, s')) : (m >>= f) s = (.error e, s') := by
  rw [bind_apply, h]

theorem bind_bind {γ : Type} (m : Act ε σ α) (f : α → Act ε σ β) (g : β → Act ε σ γ) :
    (m >>= f) >>= g = m >>= fun a => f a >>= g := by
  funext s
  simp only [bind_apply]
  rcases m s with ⟨e | a, s'⟩ <;> rfl

theorem bind_return (m : Act ε σ α) : m >>= pure = m := by
  funext s
  rw [bind_apply]
  rcases m s with ⟨e | a, s'⟩ <;> rfl

/-- What only computes a value leaves the state as it is. -/
theorem bind_snd {m : Act ε σ α} {f : α → Act ε σ β} (hf : ∀ a s, (f a s).2 = s) (s : σ) :
    ((m >>= f) s).2 = (m s).2 := by
  rw [bind_apply]
  rcases m s with ⟨e | a, s'⟩
  · rfl
  · exact hf a s'

@[simp] theorem raise_apply (e : ε) (s : σ) : (raise e : Act ε σ α) s = (.error e, s) := rfl

@[simp] theorem ofExcept_apply (r : Except ε α) (s : σ) :
    (ofExcept r : Act ε σ α) s = (r, s) := rfl

@[simp] theorem reads_apply (f : σ → α) (s : σ) :
    (reads f : Act ε σ α) s = (.ok (f s), s) := rfl

@[simp] theorem modify_apply (f : σ → σ) (s : σ) :
    (modify f : Act ε σ Unit) s = (.ok (), f s) := rfl

@[simp] theorem pure_bind_apply (a : α) (f : α → Act ε σ β) (s : σ) :
    ((pure a : Act ε σ α) >>= f) s = f a s := rfl

@[simp] theorem raise_bind_apply (e : ε) (f : α → Act ε σ β) (s : σ) :
    ((raise e : Act ε σ α) >>= f) s = (.error e, s) := rfl

@[simp] theorem reads_bind_apply (g : σ → α) (f : α → Act ε σ β) (s : σ) :
    ((reads g : Act ε σ α) >>= f) s = f (g s) s := rfl

@[simp] theorem modify_bind_apply (g : σ → σ) (f : Unit → Act ε σ β) (s : σ) :
    ((modify g : Act ε σ Unit) >>= f) s = f () (g s) := rfl

@[simp] theorem ite_run (c : Prop) [Decidable c] (m m' : Act ε σ α) (s : σ) :
    (if c then m else m') s = if c then m s else m' s := by
  split <;> rfl

theorem handle_ok {caught : ε → Bool} {m : Act ε σ α} {h : ε → Act ε σ α} {s s' : σ} {a : α}
    (hm : m s = (.ok a, s')) : handle caught m h s = (.ok a, s') := by
  unfold handle; rw [hm]

theorem handle_caught {caught : ε → Bool} {m : Act ε σ α} {h : ε → Act ε σ α} {s s' : σ} {e : ε}
    (hm : m s = (.error e, s')) (he : caught e = true) : handle caught m h s = h e s' := by
  unfold handle; rw [hm]; exact if_pos he

theorem handle_uncaught {caught : ε → Bool} {m : Act ε σ α} {h : ε → Act ε σ α} {s s' : σ} {e : ε}
    (hm : m s = (.error e, s')) (he : caught e = false) :
    handle caught m h s = (.error e, s') := by
  unfold handle; rw [hm]; exact if_neg (by simp [he])

theorem withLocal_apply (t : τ) (m : Act ε (σ × τ) α) (s : σ) :
    withLocal t m s = ((m (s, t)).1, (m (s, t)).2.1) := rfl

theorem failure_ok {caught : ε → Bool} {m : Act ε σ Unit} {s s' : σ} (hm : m s = (.ok (), s')) :
    failure caught m s = (.ok none, s') := handle_ok (bind_ok hm)

theorem failure_caught {caught : ε → Bool} {m : Act ε σ Unit} {s s' : σ} {e : ε}
    (hm : m s = (.error e, s')) (he : caught e = true) :
    failure caught m s = (.ok (some e), s') := handle_caught (bind_error hm) he

/-- A `finally` block that does not raise keeps the outcome of the body. -/
theorem ensure_run {m : Act ε σ α} {fin : Act ε σ Unit} {s s₁ s₂ : σ} {r : Except ε α}
    (hm : m s = (r, s₁)) (hf : fin s₁ = (.ok (), s₂)) : ensure m fin s = (r, s₂) := by
  unfold ensure; rw [hm, hf]

/-- The `finally` block has the last word on the state. -/
theorem ensure_snd (m : Act ε σ α) (fin : Act ε σ Unit) (s : σ) :
    (ensure m fin s).2 = (fin (m s).2).2 := by
  unfold ensure
  rcases fin (m s).2 with ⟨e | u, s'⟩ <;> rfl

/-- A `try` block with a `finally` block returns only if it does. -/
theorem ensure_returned {m : Act ε σ α} {fin : Act ε σ Unit} {s : σ} {a : α}
    (h : (ensure m fin s).1 = .ok a) : (m s).1 = .ok a := by
  unfold ensure at h
  rcases hf : fin (m s).2 with ⟨e | u, s'⟩ <;> rw [hf] at h
  · cases h
  · exact h

theorem mapError_ok {δ : Type} {f : δ → ε} {m : Act δ σ α} {s s' : σ} {a : α}
    (h : m s = (.ok a, s')) : mapError f m s = (.ok a, s') := by
  unfold mapError; rw [h]; rfl

theorem mapError_error {δ : Type} {f : δ → ε} {m : Act δ σ α} {s s' : σ} {e : δ}
    (h : m s = (.error e, s')) : mapError f m s = (.error (f e), s') := by
  unfold mapError; rw [h]; rfl

@[simp] theorem loop_zero (body : Act ε σ Flow) (s : σ) : loop 0 body s = (.ok false, s) := rfl

theorem loop_next {n : ℕ} {body : Act ε σ Flow} {s s' : σ} (h : body s = (.ok .next, s')) :
    loop (n + 1) body s = loop n body s' := bind_ok h

theorem loop_leave {n : ℕ} {body : Act ε σ Flow} {s s' : σ} (h : body s = (.ok .leave, s')) :
    loop (n + 1) body s = (.ok true, s') := bind_ok h

theorem loop_error {n : ℕ} {body : Act ε σ Flow} {s s' : σ} {e : ε}
    (h : body s = (.error e, s')) : loop (n + 1) body s = (.error e, s') := bind_error h

end Act

end Effect
