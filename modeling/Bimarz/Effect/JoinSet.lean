import Mathlib.Data.List.Nodup
import Mathlib.Data.List.Perm.Basic
import Mathlib.Tactic.Common

/-!
# A set of tasks that is joined as they complete

Of the tasks that are left any one may be the next to complete. A task without a result is dropped.
-/

namespace Effect

variable {α β : Type} {result : α → Option β} {tasks : List α} {rows : List β}

/-- The rows that joining all tasks may yield, in the order of their completion. -/
inductive Drains (result : α → Option β) : List α → List β → Prop
  | done : Drains result [] []
  | next {before after : List α} {task : α} {row : β} {rows : List β} :
      result task = some row → Drains result (before ++ after) rows →
      Drains result (before ++ task :: after) (row :: rows)
  | skip {before after : List α} {task : α} {rows : List β} :
      result task = none → Drains result (before ++ after) rows →
      Drains result (before ++ task :: after) rows

theorem Drains.perm (h : Drains result tasks rows) : rows.Perm (tasks.filterMap result) := by
  induction h with
  | done => exact List.Perm.refl _
  | next hresult _ ih =>
    rw [List.filterMap_append, List.filterMap_cons_some hresult]
    rw [List.filterMap_append] at ih
    exact (ih.cons _).trans List.perm_middle.symm
  | skip hresult _ ih =>
    rw [List.filterMap_append, List.filterMap_cons_none hresult, ← List.filterMap_append]
    exact ih

theorem Drains.mem_iff (h : Drains result tasks rows) {row : β} :
    row ∈ rows ↔ ∃ task ∈ tasks, result task = some row := by
  rw [h.perm.mem_iff, List.mem_filterMap]

/-- Rows that carry the keys of their tasks have distinct keys if the tasks do. -/
theorem Drains.nodup {κ : Type} {key : β → κ} {key' : α → κ}
    (hkey : ∀ task row, result task = some row → key row = key' task)
    (h : Drains result tasks rows) (hnodup : (tasks.map key').Nodup) : (rows.map key).Nodup := by
  induction h with
  | done => exact List.nodup_nil
  | next hresult hrest ih =>
    rw [List.map_append, List.map_cons, List.nodup_middle, ← List.map_append] at hnodup
    obtain ⟨hnew, hnodup⟩ := List.nodup_cons.mp hnodup
    refine List.nodup_cons.mpr ⟨fun hmem => hnew ?_, ih hnodup⟩
    obtain ⟨row', hrow', hsame⟩ := List.mem_map.mp hmem
    obtain ⟨task', htask', hresult'⟩ := hrest.mem_iff.mp hrow'
    rw [← hkey _ _ hresult, ← hsame, hkey _ _ hresult']
    exact List.mem_map_of_mem htask'
  | skip _ _ ih =>
    rw [List.map_append, List.map_cons, List.nodup_middle, ← List.map_append] at hnodup
    exact ih (List.nodup_cons.mp hnodup).2

theorem drains_nil (h : tasks.filterMap result = []) : Drains result tasks [] := by
  induction tasks with
  | nil => exact .done
  | cons task tasks ih =>
    cases hresult : result task with
    | none =>
      rw [List.filterMap_cons_none hresult] at h
      exact @Drains.skip _ _ result [] tasks task [] hresult (ih h)
    | some row =>
      rw [List.filterMap_cons_some hresult] at h
      cases h

/-- The results arrive in any order. -/
theorem drains_iff : Drains result tasks rows ↔ rows.Perm (tasks.filterMap result) := by
  refine ⟨Drains.perm, fun h => ?_⟩
  induction rows generalizing tasks with
  | nil => exact drains_nil h.nil_eq.symm
  | cons row rows ih =>
    obtain ⟨task, htask, hresult⟩ := List.mem_filterMap.mp (h.subset List.mem_cons_self)
    obtain ⟨before, after, rfl⟩ := List.append_of_mem htask
    refine .next hresult (ih ?_)
    rw [List.filterMap_append, List.filterMap_cons_some hresult] at h
    rw [List.filterMap_append]
    exact (h.trans List.perm_middle).cons_inv

end Effect
