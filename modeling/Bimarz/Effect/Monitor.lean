import Bimarz.Effect.Triple
import Mathlib.Data.List.Induction

/-!
# Monitors of a log

A monitor is a partial transition function on phases: it says which item may come next in a log, and
where the log stands then. `Tracks next start p log` says that the whole log is accepted and that `p`
holds where it stands.
-/

namespace Effect

open Act

variable {κ ι : Type} {next : κ → ι → Option κ}

/-- Where a log stands that begins at `k`, if every item of it may come where it comes. -/
def track (next : κ → ι → Option κ) (k : κ) (log : List ι) : Option κ := log.foldlM next k

theorem track_append (k : κ) (log log' : List ι) :
    track next k (log ++ log') = (track next k log).bind fun k' => track next k' log' :=
  List.foldlM_append

theorem track_concat (k : κ) (log : List ι) (item : ι) :
    track next k (log ++ [item]) = (track next k log).bind fun k' => next k' item := by
  rw [track_append]
  refine congrArg _ (funext fun k' => ?_)
  show (next k' item >>= pure) = next k' item
  exact bind_pure _

theorem track_cons (k : κ) (item : ι) (log : List ι) :
    track next k (item :: log) = (next k item).bind fun k' => track next k' log := rfl

/-- Every part of a log that is accepted is accepted where it begins. -/
theorem track_split {k k' : κ} {before after : List ι} {item : ι}
    (h : track next k (before ++ item :: after) = some k') :
    ∃ k₀ k₁, track next k before = some k₀ ∧ next k₀ item = some k₁ ∧
      track next k₁ after = some k' := by
  rw [track_append] at h
  obtain ⟨k₀, hbefore, h⟩ := Option.bind_eq_some_iff.mp h
  obtain ⟨k₁, hitem, hafter⟩ := Option.bind_eq_some_iff.mp h
  exact ⟨k₀, k₁, hbefore, hitem, hafter⟩

/-- What a phase says of the log before it, from what a transition says. -/
theorem track_history {I : κ → List ι → Prop} {start : κ} (hstart : I start [])
    (hnext : ∀ k k' log item, I k log → next k item = some k' → I k' (log ++ [item]))
    {log : List ι} {k : κ} (h : track next start log = some k) : I k log := by
  induction log using List.reverseRecOn generalizing k with
  | nil =>
    cases h
    exact hstart
  | append_singleton log item ih =>
    rw [track_concat] at h
    obtain ⟨k₀, hlog, hitem⟩ := Option.bind_eq_some_iff.mp h
    exact hnext k₀ k log item (ih hlog) hitem

/-- Wherever `p` holds the item may come next, and `q` holds then. -/
def Leads (next : κ → ι → Option κ) (p : κ → Prop) (item : ι) (q : κ → Prop) : Prop :=
  ∀ k, p k → ∃ k', next k item = some k' ∧ q k'

/-- A log from `start` is accepted, and stands where `p` holds. -/
def Tracks (next : κ → ι → Option κ) (start : κ) (p : κ → Prop) (log : List ι) : Prop :=
  ∃ k, track next start log = some k ∧ p k

section Tracks

variable {start : κ} {p q : κ → Prop} {log : List ι} {item : ι}

theorem Leads.one {k k' : κ} (h : next k item = some k') (hq : q k') : Leads next (· = k) item q := by
  rintro _ rfl
  exact ⟨k', h, hq⟩

theorem Tracks.mono (h : Tracks next start p log) (hpq : ∀ k, p k → q k) :
    Tracks next start q log := by
  obtain ⟨k, hk, hp⟩ := h
  exact ⟨k, hk, hpq k hp⟩

theorem Tracks.concat (h : Tracks next start p log) (hitem : Leads next p item q) :
    Tracks next start q (log ++ [item]) := by
  obtain ⟨k, hk, hp⟩ := h
  obtain ⟨k', hnext, hq⟩ := hitem k hp
  refine ⟨k', ?_, hq⟩
  rw [track_concat, hk]
  exact hnext

end Tracks

end Effect
