import Mathlib.Data.List.Induction

/-!
# Runs of a deterministic step function

A run takes one step for each label of a list. `Each ok` says that every step of a run meets a
condition on the state before it, and `Each.invariant` is the induction over the run: what one
step keeps under the condition holds wherever the run ends, hence in every state it goes through.
`Always P` says that every state of the run has `P`, and `Once P` that some state has;
`runAll_history` is the induction for what depends on the steps taken so far.
-/

namespace Effect

variable {σ κ : Type}

/-- The state after the steps `ks`. -/
def runAll (step : σ → κ → σ) (s : σ) (ks : List κ) : σ := ks.foldl step s

@[simp] theorem runAll_nil (step : σ → κ → σ) (s : σ) : runAll step s [] = s := rfl

@[simp] theorem runAll_cons (step : σ → κ → σ) (s : σ) (k : κ) (ks : List κ) :
    runAll step s (k :: ks) = runAll step (step s k) ks := rfl

theorem runAll_append (step : σ → κ → σ) (s : σ) (ks ks' : List κ) :
    runAll step s (ks ++ ks') = runAll step (runAll step s ks) ks' := List.foldl_append

theorem runAll_concat (step : σ → κ → σ) (s : σ) (ks : List κ) (k : κ) :
    runAll step s (ks ++ [k]) = step (runAll step s ks) k := runAll_append step s ks [k]

/-- Every step of the run `ks` from `s` meets `ok` in the state before it. -/
def Each (step : σ → κ → σ) (ok : σ → κ → Prop) : σ → List κ → Prop
  | _, [] => True
  | s, k :: ks => ok s k ∧ Each step ok (step s k) ks

theorem each_congr {step : σ → κ → σ} {ok ok' : σ → κ → Prop} (h : ∀ s k, ok s k ↔ ok' s k) (s : σ)
    (ks : List κ) : Each step ok s ks ↔ Each step ok' s ks := by
  induction ks generalizing s with
  | nil => exact Iff.rfl
  | cons k ks ih => exact and_congr (h s k) (ih (step s k))

/-- Two conditions that agree where an invariant holds that either of them keeps. -/
theorem each_congr_of_invariant {step : σ → κ → σ} {ok ok' : σ → κ → Prop} {I : σ → Prop}
    (h : ∀ s k, I s → (ok s k ↔ ok' s k)) (hstep : ∀ s k, I s → ok s k → I (step s k)) {s : σ}
    (hs : I s) (ks : List κ) : Each step ok s ks ↔ Each step ok' s ks := by
  induction ks generalizing s with
  | nil => exact Iff.rfl
  | cons k ks ih =>
    constructor
    · rintro ⟨hok, hrest⟩
      exact ⟨(h s k hs).mp hok, (ih (hstep s k hs hok)).mp hrest⟩
    · rintro ⟨hok', hrest⟩
      have hok := (h s k hs).mpr hok'
      exact ⟨hok, (ih (hstep s k hs hok)).mpr hrest⟩

/-- A run keeps what each of its steps keeps. -/
theorem Each.invariant {step : σ → κ → σ} {ok : σ → κ → Prop} {I : σ → Prop}
    (hstep : ∀ s k, I s → ok s k → I (step s k)) {s : σ} {ks : List κ}
    (h : Each step ok s ks) (hs : I s) : I (runAll step s ks) := by
  induction ks generalizing s with
  | nil => exact hs
  | cons k ks ih => exact ih h.2 (hstep s k hs h.1)

/-- An invariant of every step holds after every run. -/
theorem runAll_invariant {step : σ → κ → σ} {I : σ → Prop} (hstep : ∀ s k, I s → I (step s k))
    {s : σ} (hs : I s) (ks : List κ) : I (runAll step s ks) := by
  induction ks generalizing s with
  | nil => exact hs
  | cons k ks ih => exact ih (hstep s k hs)

/-! ## Every state of a run -/

/-- Every state of the run `ks` from `s` has `P`, the first and the last one included. -/
def Always (step : σ → κ → σ) (P : σ → Prop) (s : σ) (ks : List κ) : Prop :=
  ∀ before after, ks = before ++ after → P (runAll step s before)

theorem always_nil_iff {step : σ → κ → σ} {P : σ → Prop} {s : σ} : Always step P s [] ↔ P s := by
  constructor
  · intro h
    exact h [] [] rfl
  · intro hs before after h
    obtain ⟨rfl, -⟩ := List.append_eq_nil_iff.mp h.symm
    exact hs

theorem always_cons_iff {step : σ → κ → σ} {P : σ → Prop} {s : σ} {k : κ} {ks : List κ} :
    Always step P s (k :: ks) ↔ P s ∧ Always step P (step s k) ks := by
  constructor
  · intro h
    exact ⟨h [] (k :: ks) rfl, fun before after hks => h (k :: before) after (by rw [hks]; rfl)⟩
  · rintro ⟨hs, h⟩ before after hks
    rcases List.cons_eq_append_iff.mp hks with ⟨rfl, -⟩ | ⟨rest, rfl, hrest⟩
    · exact hs
    · exact h rest after hrest

/-- Every state of a run has `P` exactly if every step of it meets the condition under which one
step keeps `P`. -/
theorem always_iff_each {step : σ → κ → σ} {ok : σ → κ → Prop} {J P : σ → Prop}
    (hkeeps : ∀ s k, J s → J (step s k)) (hstep : ∀ s k, J s → P s → (P (step s k) ↔ ok s k)) {s : σ}
    (hJ : J s) (hP : P s) (ks : List κ) : Always step P s ks ↔ Each step ok s ks := by
  induction ks generalizing s with
  | nil => exact iff_of_true (always_nil_iff.mpr hP) trivial
  | cons k ks ih =>
    rw [always_cons_iff, and_iff_right hP]
    constructor
    · intro h
      have hnext : P (step s k) := h [] ks rfl
      exact ⟨(hstep s k hJ hP).mp hnext, (ih (hkeeps s k hJ) hnext).mp h⟩
    · rintro ⟨hok, hrest⟩
      exact (ih (hkeeps s k hJ) ((hstep s k hJ hP).mpr hok)).mpr hrest

/-! ## The past of a run -/

/-- Some state of the run `ks` from `s` has `P`, the first and the last one included. -/
def Once (step : σ → κ → σ) (P : σ → Prop) (s : σ) (ks : List κ) : Prop :=
  ∃ before after, ks = before ++ after ∧ P (runAll step s before)

section Once

variable {step : σ → κ → σ} {P : σ → Prop} {s : σ} {ks : List κ}

theorem Once.last (h : P (runAll step s ks)) : Once step P s ks :=
  ⟨ks, [], (List.append_nil ks).symm, h⟩

theorem Once.first (h : P s) : Once step P s ks := ⟨[], ks, rfl, h⟩

theorem Once.cons {k : κ} (h : Once step P (step s k) ks) : Once step P s (k :: ks) := by
  obtain ⟨before, after, rfl, hP⟩ := h
  exact ⟨k :: before, after, rfl, hP⟩

theorem Once.append (h : Once step P s ks) (ks' : List κ) : Once step P s (ks ++ ks') := by
  obtain ⟨before, after, rfl, hP⟩ := h
  exact ⟨before, after ++ ks', List.append_assoc before after ks', hP⟩

end Once

/-- What holds before the first step and is kept by one step more holds after every run. -/
theorem runAll_history {step : σ → κ → σ} {I : List κ → σ → Prop} {s : σ} (h : I [] s)
    (hstep : ∀ ks k, I ks (runAll step s ks) → I (ks ++ [k]) (step (runAll step s ks) k))
    (ks : List κ) : I ks (runAll step s ks) := by
  induction ks using List.reverseRecOn with
  | nil => exact h
  | append_singleton ks k ih =>
    rw [runAll_concat]
    exact hstep ks k ih

/-! ## Steps with an output -/

section Outputs

variable {α τ : Type}

/-- The outputs of the steps `ks`, and the state after them. -/
def transduce (step : σ → κ → α × σ) : σ → List κ → List α × σ
  | s, [] => ([], s)
  | s, k :: ks => ((step s k).1 :: (transduce step (step s k).2 ks).1,
      (transduce step (step s k).2 ks).2)

@[simp] theorem transduce_nil (step : σ → κ → α × σ) (s : σ) : transduce step s [] = ([], s) := rfl

theorem transduce_cons (step : σ → κ → α × σ) (s : σ) (k : κ) (ks : List κ) :
    transduce step s (k :: ks) = ((step s k).1 :: (transduce step (step s k).2 ks).1,
      (transduce step (step s k).2 ks).2) := rfl

/-- What each step keeps under a condition on its label. -/
theorem transduce_invariant {step : σ → κ → α × σ} (ok : κ → Prop) (I : σ → Prop)
    (hstep : ∀ s k, I s → ok k → I (step s k).2) {s : σ} {ks : List κ} (hks : ∀ k ∈ ks, ok k)
    (hs : I s) : I (transduce step s ks).2 := by
  induction ks generalizing s with
  | nil => exact hs
  | cons k ks ih =>
    obtain ⟨hk, hks⟩ := List.forall_mem_cons.mp hks
    exact ih hks (hstep s k hs hk)

/-- Two machines whose steps agree from related states give the same outputs and stay related. -/
theorem transduce_simulation {step : σ → κ → α × σ} {step' : τ → κ → α × τ} (ok : κ → Prop)
    (R : σ → τ → Prop)
    (hstep : ∀ s t k, R s t → ok k → (step s k).1 = (step' t k).1 ∧ R (step s k).2 (step' t k).2)
    {s : σ} {t : τ} {ks : List κ} (hks : ∀ k ∈ ks, ok k) (hs : R s t) :
    (transduce step s ks).1 = (transduce step' t ks).1 ∧
      R (transduce step s ks).2 (transduce step' t ks).2 := by
  induction ks generalizing s t with
  | nil => exact ⟨rfl, hs⟩
  | cons k ks ih =>
    obtain ⟨hk, hks⟩ := List.forall_mem_cons.mp hks
    obtain ⟨hout, hR⟩ := hstep s t k hs hk
    obtain ⟨houts, hend⟩ := ih hks hR
    refine ⟨?_, hend⟩
    rw [transduce_cons, transduce_cons, hout, houts]

end Outputs

end Effect
