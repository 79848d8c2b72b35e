import Mathlib.Data.List.Forall2
import Mathlib.Tactic.Common

/-!
# Computations that may raise

The rules that take an `Except` program apart, one bind at a time.
-/

namespace Effect

variable {ε ε' α β : Type}

@[simp] theorem ok_bind (a : α) (f : α → Except ε β) : (.ok a >>= f) = f a := rfl

@[simp] theorem error_bind (e : ε) (f : α → Except ε β) :
    ((.error e : Except ε α) >>= f) = .error e := rfl

theorem error_ne_ok {e : ε} {a : α} : (.error e : Except ε α) ≠ .ok a := by
  intro h
  cases h

theorem not_exists_ok {e : ε} : ¬∃ a : α, (.error e : Except ε α) = .ok a := by
  rintro ⟨a, h⟩
  exact error_ne_ok h

theorem bind_eq_ok_iff {m : Except ε α} {f : α → Except ε β} {b : β} :
    (m >>= f) = .ok b ↔ ∃ a, m = .ok a ∧ f a = .ok b := by
  cases m with
  | error e =>
    rw [error_bind]
    constructor
    · nofun
    · rintro ⟨a, ha, -⟩
      cases ha
  | ok a =>
    rw [ok_bind]
    constructor
    · intro h
      exact ⟨a, rfl, h⟩
    · rintro ⟨a', ha', h⟩
      cases ha'
      exact h

theorem mapError_eq_ok_iff {m : Except ε α} {f : ε → ε'} {a : α} :
    m.mapError f = .ok a ↔ m = .ok a := by
  cases m with
  | error e =>
    constructor
    · nofun
    · nofun
  | ok a' => simp [Except.mapError]

/-- A check that raises goes through when its condition does not hold. -/
theorem check_eq_ok_iff {p : Prop} [Decidable p] {e : ε} {m : Except ε α} {a : α} :
    (if p then .error e else m) = .ok a ↔ ¬p ∧ m = .ok a := by
  by_cases hp : p
  · rw [if_pos hp]
    constructor
    · nofun
    · exact fun h => absurd hp h.1
  · rw [if_neg hp]
    constructor
    · exact fun h => ⟨hp, h⟩
    · exact fun h => h.2

/-- A loop over a list goes through when each of its rounds does. -/
theorem mapM_eq_ok_iff {f : α → Except ε β} {as : List α} {bs : List β} :
    as.mapM f = .ok bs ↔ List.Forall₂ (fun a b => f a = .ok b) as bs := by
  induction as generalizing bs with
  | nil =>
    rw [List.mapM_nil, List.forall₂_nil_left_iff]
    exact ⟨fun h => (Except.ok.inj h).symm, fun h => congrArg Except.ok h.symm⟩
  | cons a as ih =>
    rw [List.mapM_cons, bind_eq_ok_iff, List.forall₂_cons_left_iff]
    constructor
    · rintro ⟨b, hb, h⟩
      obtain ⟨bs', hbs', h⟩ := bind_eq_ok_iff.mp h
      cases h
      exact ⟨b, bs', hb, ih.mp hbs', rfl⟩
    · rintro ⟨b, bs', hb, hbs', rfl⟩
      exact ⟨b, hb, bind_eq_ok_iff.mpr ⟨bs', ih.mpr hbs', rfl⟩⟩

theorem mem_mapM_iff {f : α → Except ε β} {as : List α} {bs : List β} (h : as.mapM f = .ok bs)
    (b : β) : b ∈ bs ↔ ∃ a ∈ as, f a = .ok b := by
  induction mapM_eq_ok_iff.mp h with
  | nil => simp
  | cons hb hbs ih => simp [hb, ih (mapM_eq_ok_iff.mpr hbs), eq_comm]

/-! ## Which errors can be raised -/

/-- All that `m` raises satisfies `p`. -/
def RaisesOnly (p : ε → Prop) (m : Except ε α) : Prop := ∀ e, m = .error e → p e

section RaisesOnly

variable {p : ε → Prop} {m : Except ε α}

theorem raisesOnly_ok (a : α) : RaisesOnly p (.ok a : Except ε α) := by
  rintro e ⟨⟩

theorem raisesOnly_error_iff {e : ε} : RaisesOnly p (.error e : Except ε α) ↔ p e := by
  constructor
  · intro h
    exact h e rfl
  · rintro h _ ⟨⟩
    exact h

theorem raisesOnly_check {q : Prop} [Decidable q] {e : ε} (he : p e) (hm : RaisesOnly p m) :
    RaisesOnly p (if q then .error e else m) := by
  by_cases hq : q
  · rw [if_pos hq]
    exact raisesOnly_error_iff.mpr he
  · rw [if_neg hq]
    exact hm

theorem raisesOnly_bind {f : α → Except ε β} (hm : RaisesOnly p m)
    (hf : ∀ a, m = .ok a → RaisesOnly p (f a)) : RaisesOnly p (m >>= f) := by
  cases m with
  | error e =>
    rw [error_bind, raisesOnly_error_iff]
    exact hm e rfl
  | ok a => exact hf a rfl

/-- A loop over a list whose rounds never raise what satisfies `p`. -/
theorem raisesOnly_mapM_iff {f : α → Except ε β} {as : List α}
    (hok : ∀ a, RaisesOnly p (f a) → ∃ b, f a = .ok b) :
    RaisesOnly p (as.mapM f) ↔ ∀ a ∈ as, RaisesOnly p (f a) := by
  induction as with
  | nil => exact iff_of_true (raisesOnly_ok _) (by simp)
  | cons a as ih =>
    rw [List.mapM_cons, List.forall_mem_cons, ← ih]
    cases ha : f a with
    | error e =>
      rw [error_bind]
      refine iff_of_false (fun h => ?_) fun h => ?_
      · obtain ⟨b, hb⟩ := hok a (ha ▸ raisesOnly_error_iff.mpr (raisesOnly_error_iff.mp h))
        rw [ha] at hb
        cases hb
      · obtain ⟨b, hb⟩ := hok a (ha ▸ h.1)
        rw [ha] at hb
        cases hb
    | ok b =>
      rw [ok_bind]
      constructor
      · intro h
        refine ⟨raisesOnly_ok b, fun e he => h e ?_⟩
        rw [he]
        rfl
      · rintro ⟨-, h⟩
        exact raisesOnly_bind h fun bs _ => raisesOnly_ok _

end RaisesOnly

end Effect
