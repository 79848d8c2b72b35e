import Bimarz.Effect.Act

/-!
# Pre- and postconditions of programs that may raise

`Triple P m Q E`: from a state of `P`, the program `m` either returns a value with `Q` or raises
an exception with `E`. `Keeps I m` is the case of one invariant `I` for all three. The rules
follow the constructors of `Act`, so a proof about a program goes through it from top to bottom.
-/

namespace Effect

open Act

variable {ε σ τ α β : Type}

/-- From a state of `P`, `m` returns with `Q` or raises with `E`. -/
def Triple (P : σ → Prop) (m : Act ε σ α) (Q : α → σ → Prop) (E : ε → σ → Prop) : Prop :=
  ∀ s, P s → match m s with
    | (.ok a, s') => Q a s'
    | (.error e, s') => E e s'

/-- `m` keeps `I`, whether it returns or raises. -/
def Keeps (I : σ → Prop) (m : Act ε σ α) : Prop := Triple I m (fun _ => I) (fun _ => I)

namespace Triple

variable {P O : σ → Prop} {Q Q' : α → σ → Prop} {E F : ε → σ → Prop}

/-- What a triple says about a run that returned. -/
theorem of_ok {m : Act ε σ α} (h : Triple P m Q E) {s s' : σ} {a : α} (hs : P s)
    (hr : m s = (.ok a, s')) : Q a s' := by
  have := h s hs
  rwa [hr] at this

/-- What a triple says about a run that raised. -/
theorem of_error {m : Act ε σ α} (h : Triple P m Q E) {s s' : σ} {e : ε} (hs : P s)
    (hr : m s = (.error e, s')) : E e s' := by
  have := h s hs
  rwa [hr] at this

/-- What holds however a run ends. -/
theorem run {I : σ → Prop} {m : Act ε σ α} (h : Triple P m (fun _ => I) (fun _ => I)) {s : σ}
    (hs : P s) : I (m s).2 := by
  have h' := h s hs
  rcases hm : m s with ⟨e | a, s'⟩ <;> rw [hm] at h' <;> exact h'

theorem conseq {m : Act ε σ α} (h : Triple O m Q' F) (hP : ∀ s, P s → O s)
    (hQ : ∀ a s, Q' a s → Q a s) (hE : ∀ e s, F e s → E e s) : Triple P m Q E := by
  intro s hs
  have h' := h s (hP s hs)
  rcases hm : m s with ⟨a | e, s'⟩ <;> rw [hm] at h'
  · exact hE _ _ h'
  · exact hQ _ _ h'

theorem mono {m : Act ε σ α} (h : Triple P m Q' F) (hQ : ∀ a s, Q' a s → Q a s)
    (hE : ∀ e s, F e s → E e s) : Triple P m Q E := h.conseq (fun _ hs => hs) hQ hE

theorem mono_error {m : Act ε σ α} (h : Triple P m Q F) (hE : ∀ e s, F e s → E e s) :
    Triple P m Q E := h.mono (fun _ _ hs => hs) hE

/-- Nothing is said of a run that raises. -/
theorem returns {m : Act ε σ α} (h : Triple P m Q E) : Triple P m Q (fun _ _ => True) :=
  h.mono_error fun _ _ _ => trivial

/-- A precondition on a view of the state, from the triples for each of its values. -/
theorem of_view {v : σ → τ} {P : τ → Prop} {m : Act ε σ α}
    (h : ∀ t, P t → Triple (fun s => v s = t) m Q E) : Triple (fun s => P (v s)) m Q E :=
  fun s hs => h (v s) hs s rfl

/-- A fact of the precondition that is not about the state. -/
theorem of_fact {p : Prop} {m : Act ε σ α} (h : p → Triple P m Q E) :
    Triple (fun s => P s ∧ p) m Q E := fun s hs => h hs.2 s hs.1

protected theorem pure {a : α} (h : ∀ s, P s → Q a s) :
    Triple P (pure a : Act ε σ α) Q E := fun s hs => h s hs

protected theorem raise {e : ε} (h : ∀ s, P s → E e s) :
    Triple P (Act.raise e : Act ε σ α) Q E := fun s hs => h s hs

/-- A computation that does not look at the state returned. -/
protected theorem ofExcept {r : Except ε α} (h : ∀ a s, r = .ok a → P s → Q a s) :
    Triple P (Act.ofExcept r) Q (fun _ _ => True) := by
  intro s hs
  rw [ofExcept_apply]
  rcases r with e | a
  · trivial
  · exact h a s rfl hs

protected theorem reads {f : σ → α} (h : ∀ s, P s → Q (f s) s) :
    Triple P (Act.reads f : Act ε σ α) Q E := fun s hs => h s hs

protected theorem modify {f : σ → σ} {Q : Unit → σ → Prop} (h : ∀ s, P s → Q () (f s)) :
    Triple P (Act.modify f : Act ε σ Unit) Q E := fun s hs => h s hs

protected theorem bind {m : Act ε σ β} {f : β → Act ε σ α} {R : β → σ → Prop}
    (hm : Triple P m R E) (hf : ∀ b, Triple (R b) (f b) Q E) : Triple P (m >>= f) Q E := by
  intro s hs
  have h := hm s hs
  rw [bind_apply]
  rcases hr : m s with ⟨e | b, s'⟩ <;> rw [hr] at h
  · exact h
  · exact hf b s' h

protected theorem ite {c : Prop} [Decidable c] {m m' : Act ε σ α} (h : c → Triple P m Q E)
    (h' : ¬c → Triple P m' Q E) : Triple P (if c then m else m') Q E := by
  split
  · exact h ‹_›
  · exact h' ‹_›

/-- `try`/`except`: the handler starts where the body raised. -/
protected theorem handle {caught : ε → Bool} {m : Act ε σ α} {h : ε → Act ε σ α}
    (hm : Triple P m Q F) (hh : ∀ e, caught e = true → Triple (F e) (h e) Q E)
    (hu : ∀ e s, caught e = false → F e s → E e s) : Triple P (handle caught m h) Q E := by
  intro s hs
  have hb := hm s hs
  rcases hr : m s with ⟨e | a, s'⟩ <;> rw [hr] at hb
  · by_cases hc : caught e = true
    · rw [handle_caught hr hc]; exact hh e hc s' hb
    · have hc' : caught e = false := by simpa using hc
      rw [handle_uncaught hr hc']; exact hu e s' hc' hb
  · rw [handle_ok hr]; exact hb

/-- A loop with invariant `I`: `L` holds where it is left, `I` where it is cut. -/
protected theorem loop {I L : σ → Prop} {body : Act ε σ Flow} {E : ε → σ → Prop}
    (hb : Triple I body (fun fl s => match fl with | .next => I s | .leave => L s) E) (n : ℕ) :
    Triple I (Act.loop n body) (fun left s => if left then L s else I s) E := by
  induction n with
  | zero => intro s hs; simpa using hs
  | succ n ih =>
    refine Triple.bind hb fun fl => ?_
    cases fl with
    | next => exact ih
    | leave => exact Triple.pure fun s hs => by simpa using hs

/-- A program on a part of the state. -/
protected theorem zoom {get : σ → τ} {set : τ → σ → σ} {m : Act ε τ α} {O : σ → Prop}
    {P : τ → Prop} {Q : α → τ → Prop} {E : ε → τ → Prop} {Q' : α → σ → Prop}
    {F : ε → σ → Prop} (h : Triple P m Q E) (hP : ∀ s, O s → P (get s))
    (hQ : ∀ a t s, O s → Q a t → Q' a (set t s))
    (hE : ∀ e t s, O s → E e t → F e (set t s)) : Triple O (Act.zoom get set m) Q' F := by
  intro s hs
  have h' := h (get s) (hP s hs)
  unfold Act.zoom
  rcases hm : m (get s) with ⟨e | a, t⟩ <;> rw [hm] at h'
  · exact hE e t s hs h'
  · exact hQ a t s hs h'

/-- `try`/`finally`: the last block starts where the body returned or raised. -/
protected theorem ensure {m : Act ε σ α} {fin : Act ε σ Unit} {R : α → σ → Prop}
    {F : ε → σ → Prop} (hm : Triple P m R F)
    (hok : ∀ a, Triple (R a) fin (fun _ => Q a) E)
    (herr : ∀ e, Triple (F e) fin (fun _ => E e) E) : Triple P (Act.ensure m fin) Q E := by
  intro s hs
  have hb := hm s hs
  unfold Act.ensure
  rcases hr : m s with ⟨e | a, s₁⟩ <;> rw [hr] at hb
  · have hf := herr e s₁ hb
    rcases hfin : fin s₁ with ⟨e' | u, s₂⟩ <;> rw [hfin] at hf <;> exact hf
  · have hf := hok a s₁ hb
    rcases hfin : fin s₁ with ⟨e' | u, s₂⟩ <;> rw [hfin] at hf <;> exact hf

/-- A local variable that starts as `t`. -/
protected theorem withLocal {t : τ} {m : Act ε (σ × τ) α}
    (hm : Triple (fun p => P p.1 ∧ p.2 = t) m (fun a p => Q a p.1) (fun e p => E e p.1)) :
    Triple P (Act.withLocal t m) Q E := by
  intro s hs
  have h := hm (s, t) ⟨hs, rfl⟩
  rw [withLocal_apply]
  rcases hr : m (s, t) with ⟨e | a, p⟩ <;> rw [hr] at h <;> exact h

/-- An outcome that becomes a value. -/
protected theorem outcome {m : Act ε σ α} {F : ε → σ → Prop} (hm : Triple P m Q E) :
    Triple P (Act.outcome m) (fun r s => match r with | .ok a => Q a s | .error e => E e s) F := by
  intro s hs
  have h := hm s hs
  unfold Act.outcome
  rcases hr : m s with ⟨e | a, t⟩ <;> rw [hr] at h <;> exact h

/-- Two triples about one program. -/
protected theorem and {m : Act ε σ α} (h : Triple P m Q E) (h' : Triple O m Q' F) :
    Triple (fun s => P s ∧ O s) m (fun a s => Q a s ∧ Q' a s) (fun e s => E e s ∧ F e s) := by
  rintro s ⟨hs, hs'⟩
  have h₁ := h s hs
  have h₂ := h' s hs'
  rcases hm : m s with ⟨e | a, t⟩ <;> rw [hm] at h₁ h₂ <;> exact ⟨h₁, h₂⟩

end Triple

namespace Keeps

variable {I : σ → Prop}

theorem run {m : Act ε σ α} (h : Keeps I m) {s : σ} (hs : I s) : I (m s).2 := Triple.run h hs

theorem of_run {m : Act ε σ α} (h : ∀ s, I s → I (m s).2) : Keeps I m := by
  intro s hs
  have h' := h s hs
  rcases hm : m s with ⟨e | a, s'⟩ <;> rw [hm] at h' <;> exact h'

protected theorem pure (a : α) : Keeps I (pure a : Act ε σ α) := Triple.pure fun _ hs => hs

protected theorem raise (e : ε) : Keeps I (Act.raise e : Act ε σ α) :=
  Triple.raise fun _ hs => hs

protected theorem reads (f : σ → α) : Keeps I (Act.reads f : Act ε σ α) :=
  Triple.reads fun _ hs => hs

protected theorem modify {f : σ → σ} (h : ∀ s, I s → I (f s)) :
    Keeps I (Act.modify f : Act ε σ Unit) := Triple.modify h

protected theorem bind {m : Act ε σ β} {f : β → Act ε σ α} (hm : Keeps I m)
    (hf : ∀ b, Keeps I (f b)) : Keeps I (m >>= f) := Triple.bind hm hf

protected theorem ite {c : Prop} [Decidable c] {m m' : Act ε σ α} (h : Keeps I m)
    (h' : Keeps I m') : Keeps I (if c then m else m') := Triple.ite (fun _ => h) (fun _ => h')

protected theorem handle {caught : ε → Bool} {m : Act ε σ α} {h : ε → Act ε σ α}
    (hm : Keeps I m) (hh : ∀ e, Keeps I (h e)) : Keeps I (handle caught m h) :=
  Triple.handle hm (fun e _ => hh e) (fun _ _ _ hs => hs)

protected theorem loop {body : Act ε σ Flow} (hb : Keeps I body) (n : ℕ) :
    Keeps I (Act.loop n body) := by
  refine (Triple.loop (L := I) (E := fun _ => I) ?_ n).conseq (fun _ h => h) ?_ (fun _ _ h => h)
  · refine Triple.conseq hb (fun _ h => h) ?_ (fun _ _ h => h)
    rintro (_ | _) s hs <;> exact hs
  · rintro (_ | _) s hs <;> simpa using hs

/-- A program on a part of the state keeps `I` if its part of `I` is `J`. -/
protected theorem zoom {J : τ → Prop} {get : σ → τ} {set : τ → σ → σ} {m : Act ε τ α}
    (hm : Keeps J m) (hget : ∀ s, I s → J (get s)) (hset : ∀ t s, I s → J t → I (set t s)) :
    Keeps I (Act.zoom get set m) :=
  Triple.zoom hm hget (fun _ t s hs ht => hset t s hs ht) fun _ t s hs ht => hset t s hs ht

protected theorem withLocal {m : Act ε (σ × τ) α} (hm : Keeps (fun p => I p.1) m) (t : τ) :
    Keeps I (Act.withLocal t m) :=
  of_run fun s hs => hm.run (s := (s, t)) hs

protected theorem failure {caught : ε → Bool} {m : Act ε σ Unit} (hm : Keeps I m) :
    Keeps I (Act.failure caught m) :=
  Keeps.handle (Keeps.bind hm fun _ => Keeps.pure _) fun e => Keeps.pure (some e)

protected theorem forM {κ : Type} {m : κ → Act ε σ PUnit} (hm : ∀ k, Keeps I (m k))
    (ks : List κ) : Keeps I (ks.forM m) := by
  induction ks with
  | nil => exact Keeps.pure _
  | cons k ks ih => exact Keeps.bind (hm k) fun _ => ih

protected theorem ensure {m : Act ε σ α} {fin : Act ε σ Unit} (hm : Keeps I m)
    (hf : Keeps I fin) : Keeps I (ensure m fin) := by
  refine of_run fun s hs => ?_
  have h := hf.run (hm.run hs)
  unfold ensure
  rcases hr : fin (m s).2 with ⟨e | u, s'⟩ <;> rw [hr] at h <;> exact h

end Keeps

/-! ## Frames -/

/-- `m` never changes what `v` sees of the state. -/
def Frames (v : σ → τ) (m : Act ε σ α) : Prop := ∀ s, v (m s).2 = v s

namespace Frames

variable {v : σ → τ}

/-- A framed view keeps every property. -/
theorem keeps {m : Act ε σ α} (h : Frames v m) (P : τ → Prop) : Keeps (fun s => P (v s)) m :=
  Keeps.of_run fun s hs => by rw [h s]; exact hs

theorem of_keeps {m : Act ε σ α} (h : ∀ c, Keeps (fun s => v s = c) m) : Frames v m :=
  fun s => (h (v s)).run rfl

theorem keeps_eq {m : Act ε σ α} (h : Frames v m) (c : τ) : Keeps (fun s => v s = c) m :=
  h.keeps (· = c)

protected theorem ofExcept (r : Except ε α) : Frames v (Act.ofExcept r) := fun _ => rfl

protected theorem pure (a : α) : Frames v (pure a : Act ε σ α) := fun _ => rfl

protected theorem raise (e : ε) : Frames v (Act.raise e : Act ε σ α) := fun _ => rfl

protected theorem reads (f : σ → α) : Frames v (Act.reads f : Act ε σ α) := fun _ => rfl

protected theorem modify {f : σ → σ} (h : ∀ s, v (f s) = v s) :
    Frames v (Act.modify f : Act ε σ Unit) := h

protected theorem bind {m : Act ε σ β} {f : β → Act ε σ α} (hm : Frames v m)
    (hf : ∀ b, Frames v (f b)) : Frames v (m >>= f) :=
  of_keeps fun c => Keeps.bind (hm.keeps_eq c) fun b => (hf b).keeps_eq c

protected theorem ite {c : Prop} [Decidable c] {m m' : Act ε σ α} (h : Frames v m)
    (h' : Frames v m') : Frames v (if c then m else m') := by
  split
  · exact h
  · exact h'

protected theorem handle {caught : ε → Bool} {m : Act ε σ α} {h : ε → Act ε σ α}
    (hm : Frames v m) (hh : ∀ e, Frames v (h e)) : Frames v (handle caught m h) :=
  of_keeps fun c => Keeps.handle (hm.keeps_eq c) fun e => (hh e).keeps_eq c

protected theorem ensure {m : Act ε σ α} {fin : Act ε σ Unit} (hm : Frames v m)
    (hf : Frames v fin) : Frames v (ensure m fin) :=
  of_keeps fun c => Keeps.ensure (hm.keeps_eq c) (hf.keeps_eq c)

protected theorem forM {κ : Type} {m : κ → Act ε σ PUnit} (hm : ∀ k, Frames v (m k))
    (ks : List κ) : Frames v (ks.forM m) :=
  of_keeps fun c => Keeps.forM (fun k => (hm k).keeps_eq c) ks

/-- A program on a part of the state that is set where `v` does not look. -/
protected theorem zoom {ρ : Type} {get : σ → ρ} {set : ρ → σ → σ} (m : Act ε ρ α)
    (h : ∀ t s, v (set t s) = v s) : Frames v (Act.zoom get set m) := fun s => h _ s

/-- What follows a program leaves the view as the program has left it. -/
theorem bind_view {m : Act ε σ β} {f : β → Act ε σ α} (hf : ∀ b, Frames v (f b)) (s : σ) :
    v ((m >>= f) s).2 = v (m s).2 := by
  rcases hm : m s with ⟨e | b, s'⟩
  · rw [bind_error hm]
  · rw [bind_ok hm]
    exact hf b s'

theorem handle_view {caught : ε → Bool} {m : Act ε σ α} {h : ε → Act ε σ α}
    (hh : ∀ e, Frames v (h e)) (s : σ) : v (handle caught m h s).2 = v (m s).2 := by
  rcases hm : m s with ⟨e | a, s'⟩
  · cases hcaught : caught e with
    | true =>
      rw [handle_caught hm hcaught]
      exact hh e s'
    | false => rw [handle_uncaught hm hcaught]
  · rw [handle_ok hm]

end Frames

/-! ## Rounds of a loop -/

/-- Of the first `n` rounds of a loop from `s`, each one that goes on meets `ok` of the states
before and after it. -/
def EachRound (body : Act ε σ Flow) (ok : σ → σ → Prop) : ℕ → σ → Prop
  | 0, _ => True
  | n + 1, s => ∀ s', body s = (.ok .next, s') → ok s s' ∧ EachRound body ok n s'

/-- `I` holds wherever one of the first `n + 1` rounds of a loop from `s` begins. -/
def Throughout (body : Act ε σ Flow) (I : σ → Prop) (n : ℕ) (s : σ) : Prop :=
  ∀ k ≤ n, ∀ s', Act.loop k body s = (.ok false, s') → I s'

/-- A loop keeps `I` exactly if all its rounds meet the condition under which one round keeps it. -/
theorem throughout_iff {body : Act ε σ Flow} {I J : σ → Prop} {ok : σ → σ → Prop}
    (hkeeps : ∀ s s', J s → I s → body s = (.ok .next, s') → J s')
    (hstep : ∀ s s', J s → I s → body s = (.ok .next, s') → (I s' ↔ ok s s')) {n : ℕ} {s : σ}
    (hJ : J s) (hI : I s) : Throughout body I n s ↔ EachRound body ok n s := by
  induction n generalizing s with
  | zero =>
    refine iff_of_true (fun k hk s' hs' => ?_) trivial
    obtain rfl : k = 0 := Nat.le_zero.mp hk
    cases hs'
    exact hI
  | succ n ih =>
    constructor
    · intro h s' hs'
      have hI' : I s' := h 1 (Nat.succ_le_succ (Nat.zero_le n)) s' (loop_next hs')
      refine ⟨(hstep s s' hJ hI hs').mp hI',
        (ih (hkeeps s s' hJ hI hs') hI').mp fun k hk t ht => ?_⟩
      exact h (k + 1) (Nat.succ_le_succ hk) t ((loop_next hs').trans ht)
    · intro h k hk t ht
      cases k with
      | zero =>
        cases ht
        exact hI
      | succ k =>
        rcases hs' : body s with ⟨e | _ | _, s'⟩
        · rw [loop_error hs'] at ht
          cases ht
        · obtain ⟨hok, hrest⟩ := h s' hs'
          have hI' : I s' := (hstep s s' hJ hI hs').mpr hok
          rw [loop_next hs'] at ht
          exact (ih (hkeeps s s' hJ hI hs') hI').mpr hrest k (Nat.le_of_succ_le_succ hk) t ht
        · rw [loop_leave hs'] at ht
          cases ht

end Effect
