import Mathlib.Data.List.Basic

/-!
# Cutting a text at a separator

`partition` cuts at the first separator and `rpartition` at the last one, both with a flag that
says whether there was one.
-/

namespace Text

variable {α : Type} [DecidableEq α]

/-- `s.partition(sep)`: what stands before the first `sep`, whether there is one, and the rest. -/
def partition (sep : α) : List α → List α × Bool × List α
  | [] => ([], false, [])
  | c :: cs =>
    if c = sep then ([], true, cs)
    else (c :: (partition sep cs).1, (partition sep cs).2)

/-- `s.rpartition(sep)`: without a separator everything stands on the right. -/
def rpartition (sep : α) (cs : List α) : List α × Bool × List α :=
  match partition sep cs.reverse with
  | (after, true, before) => (before.reverse, true, after.reverse)
  | (_, false, _) => ([], false, cs)

theorem partition_append {sep : α} {cs : List α} (h : sep ∉ cs) (rest : List α) :
    partition sep (cs ++ sep :: rest) = (cs, true, rest) := by
  induction cs with
  | nil => exact if_pos rfl
  | cons c cs ih =>
    obtain ⟨hc, hcs⟩ := List.ne_and_not_mem_of_not_mem_cons h
    rw [List.cons_append, partition, if_neg (Ne.symm hc), ih hcs]

theorem partition_of_not_mem {sep : α} {cs : List α} (h : sep ∉ cs) :
    partition sep cs = (cs, false, []) := by
  induction cs with
  | nil => rfl
  | cons c cs ih =>
    obtain ⟨hc, hcs⟩ := List.ne_and_not_mem_of_not_mem_cons h
    rw [partition, if_neg (Ne.symm hc), ih hcs]

/-- A text has no separator, or is cut at the first one. -/
theorem partition_cases (sep : α) (cs : List α) :
    sep ∉ cs ∧ partition sep cs = (cs, false, []) ∨
      ∃ before after, cs = before ++ sep :: after ∧ sep ∉ before ∧
        partition sep cs = (before, true, after) := by
  by_cases h : sep ∈ cs
  · obtain ⟨before, after, rfl, hbefore⟩ := List.eq_append_cons_of_mem h
    exact Or.inr ⟨before, after, rfl, hbefore, partition_append hbefore after⟩
  · exact Or.inl ⟨h, partition_of_not_mem h⟩

theorem rpartition_append {sep : α} {rest : List α} (h : sep ∉ rest) (cs : List α) :
    rpartition sep (cs ++ sep :: rest) = (cs, true, rest) := by
  have hreverse : (cs ++ sep :: rest).reverse = rest.reverse ++ sep :: cs.reverse := by simp
  have hrest : sep ∉ rest.reverse := by simpa using h
  unfold rpartition
  rw [hreverse, partition_append hrest]
  simp

end Text
