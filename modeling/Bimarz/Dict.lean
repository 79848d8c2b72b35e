import Mathlib.Data.List.Basic
import Mathlib.Data.List.Nodup

/-!
# Dictionaries in insertion order

A dictionary with distinct keys, iterated in the order in which its keys were first set. Setting a
key that is there keeps its place.
-/

/-- A dictionary: its items in order, with distinct keys. -/
structure Dict (κ ν : Type) where
  items : List (κ × ν)
  nodup : (items.map Prod.fst).Nodup

namespace Dict

variable {κ ν : Type}

def values (d : Dict κ ν) : List ν := d.items.map Prod.snd

def empty : Dict κ ν := ⟨[], List.nodup_nil⟩

variable [DecidableEq κ]

/-- The first value of a key in a list of items. -/
def find (k : κ) : List (κ × ν) → Option ν
  | [] => none
  | (k', v) :: items => if k' = k then some v else find k items

/-- `d.get(k)`. -/
def get? (d : Dict κ ν) (k : κ) : Option ν := find k d.items

/-- Replace the value of a key where it stands, or add the key at the end. -/
def setItem (k : κ) (v : ν) : List (κ × ν) → List (κ × ν)
  | [] => [(k, v)]
  | (k', v') :: items => if k' = k then (k, v) :: items else (k', v') :: setItem k v items

theorem mem_keys_setItem {k k' : κ} {v : ν} {items : List (κ × ν)} :
    k' ∈ (setItem k v items).map Prod.fst ↔ k' = k ∨ k' ∈ items.map Prod.fst := by
  induction items with
  | nil => simp [setItem]
  | cons item items ih =>
    obtain ⟨k₀, v₀⟩ := item
    by_cases h : k₀ = k
    · subst h
      simp [setItem]
    · rw [setItem, if_neg h, List.map_cons, List.mem_cons, ih, List.map_cons, List.mem_cons]
      exact or_left_comm

theorem nodup_setItem (k : κ) (v : ν) {items : List (κ × ν)}
    (h : (items.map Prod.fst).Nodup) : ((setItem k v items).map Prod.fst).Nodup := by
  induction items with
  | nil => exact List.nodup_singleton k
  | cons item items ih =>
    obtain ⟨k₀, v₀⟩ := item
    obtain ⟨hnot, htail⟩ := List.nodup_cons.mp h
    by_cases hk : k₀ = k
    · subst hk
      simpa [setItem] using h
    · rw [setItem, if_neg hk, List.map_cons]
      refine List.nodup_cons.mpr ⟨fun hm => ?_, ih htail⟩
      exact (mem_keys_setItem.mp hm).elim hk hnot

/-- `d[k] = v`. -/
def set (d : Dict κ ν) (k : κ) (v : ν) : Dict κ ν :=
  ⟨setItem k v d.items, nodup_setItem k v d.nodup⟩

/-- `{k: v for k, v in items}`. -/
def ofList (items : List (κ × ν)) : Dict κ ν := items.foldl (fun d item => d.set item.1 item.2) empty

@[simp] theorem get?_empty (k : κ) : (empty : Dict κ ν).get? k = none := rfl

theorem find_setItem (k k' : κ) (v : ν) (items : List (κ × ν)) :
    find k' (setItem k v items) = if k' = k then some v else find k' items := by
  induction items with
  | nil => simp [setItem, find, eq_comm]
  | cons item items ih =>
    obtain ⟨k₀, v₀⟩ := item
    by_cases h : k₀ = k
    · subst h
      by_cases h' : k' = k₀
      · subst h'
        simp [setItem, find]
      · simp [setItem, find, h', Ne.symm h']
    · rw [setItem, if_neg h, find, ih, find]
      by_cases h' : k₀ = k'
      · subst h'
        simp [h]
      · simp [h']

/-- Setting a key changes that key only. -/
theorem get?_set (d : Dict κ ν) (k k' : κ) (v : ν) :
    (d.set k v).get? k' = if k' = k then some v else d.get? k' := find_setItem k k' v d.items

@[simp] theorem get?_set_self (d : Dict κ ν) (k : κ) (v : ν) : (d.set k v).get? k = some v := by
  rw [get?_set, if_pos rfl]

theorem find_eq_some_of_mem {k : κ} {v : ν} {items : List (κ × ν)}
    (hd : (items.map Prod.fst).Nodup) (h : (k, v) ∈ items) : find k items = some v := by
  induction items with
  | nil => cases h
  | cons item items ih =>
    obtain ⟨k₀, v₀⟩ := item
    obtain ⟨hnot, htail⟩ := List.nodup_cons.mp hd
    rcases List.mem_cons.mp h with heq | hm
    · cases heq
      simp [find]
    · have hne : k₀ ≠ k := by
        rintro rfl
        exact hnot (List.mem_map.mpr ⟨(k₀, v), hm, rfl⟩)
      rw [find, if_neg hne]
      exact ih htail hm

theorem mem_of_find {k : κ} {v : ν} {items : List (κ × ν)} (h : find k items = some v) :
    (k, v) ∈ items := by
  induction items with
  | nil => cases h
  | cons item items ih =>
    obtain ⟨k₀, v₀⟩ := item
    by_cases hk : k₀ = k
    · subst hk
      rw [find, if_pos rfl] at h
      cases h
      exact List.mem_cons_self
    · rw [find, if_neg hk] at h
      exact List.mem_cons_of_mem _ (ih h)

/-- The items are the keys with their values. -/
theorem get?_eq_some_iff {d : Dict κ ν} {k : κ} {v : ν} : d.get? k = some v ↔ (k, v) ∈ d.items :=
  ⟨mem_of_find, find_eq_some_of_mem d.nodup⟩

theorem exists_get?_of_mem_values {d : Dict κ ν} {v : ν} (h : v ∈ d.values) :
    ∃ k, d.get? k = some v := by
  obtain ⟨⟨k, v'⟩, hm, rfl⟩ := List.mem_map.mp h
  exact ⟨k, get?_eq_some_iff.mpr hm⟩

/-- What holds of every item that is set holds of every item that is found. -/
theorem get?_set_induction {P : κ → ν → Prop} {d : Dict κ ν} (hd : ∀ k v, d.get? k = some v → P k v)
    {k₀ : κ} {v₀ : ν} (h₀ : P k₀ v₀) : ∀ k v, (d.set k₀ v₀).get? k = some v → P k v := by
  intro k v h
  rw [get?_set] at h
  split at h
  · next hk => cases h; exact hk ▸ h₀
  · exact hd k v h

theorem get?_foldl_induction {P : κ → ν → Prop} {items : List (κ × ν)} {d : Dict κ ν}
    (hd : ∀ k v, d.get? k = some v → P k v) (hitems : ∀ item ∈ items, P item.1 item.2) :
    ∀ k v, (items.foldl (fun d item => d.set item.1 item.2) d).get? k = some v → P k v := by
  induction items generalizing d with
  | nil => exact hd
  | cons item items ih =>
    obtain ⟨hitem, htail⟩ := List.forall_mem_cons.mp hitems
    exact ih (get?_set_induction hd hitem) htail

/-- What holds of every item of a list holds of every item of its dictionary. -/
theorem get?_ofList_induction {P : κ → ν → Prop} {items : List (κ × ν)}
    (hitems : ∀ item ∈ items, P item.1 item.2) : ∀ k v, (ofList items).get? k = some v → P k v :=
  get?_foldl_induction (fun k v h => by cases h) hitems

/-- A key that is not there is added at the end. -/
theorem setItem_of_not_mem {k : κ} {v : ν} {items : List (κ × ν)}
    (h : k ∉ items.map Prod.fst) : setItem k v items = items ++ [(k, v)] := by
  induction items with
  | nil => rfl
  | cons item items ih =>
    obtain ⟨k₀, v₀⟩ := item
    obtain ⟨hne, hrest⟩ := not_or.mp (List.mem_cons.not.mp h)
    rw [setItem, if_neg (Ne.symm hne), ih hrest]
    rfl

theorem items_foldl_set (d : Dict κ ν) {items : List (κ × ν)}
    (h : ((d.items ++ items).map Prod.fst).Nodup) :
    (items.foldl (fun d item => d.set item.1 item.2) d).items = d.items ++ items := by
  induction items generalizing d with
  | nil => exact (List.append_nil d.items).symm
  | cons item items ih =>
    have hnot : item.1 ∉ d.items.map Prod.fst := by
      rw [List.map_append, List.map_cons] at h
      intro hm
      exact (List.nodup_append.mp h).2.2 _ hm _ List.mem_cons_self rfl
    have hset : (d.set item.1 item.2).items = d.items ++ [item] := setItem_of_not_mem hnot
    rw [List.foldl_cons, ih _ (by rw [hset]; simpa using h), hset]
    simp

/-- The dictionary of items with distinct keys has these items. -/
theorem ofList_items {items : List (κ × ν)} (h : (items.map Prod.fst).Nodup) :
    (ofList items).items = items := (items_foldl_set empty h).trans (List.nil_append items)

/-- `del d[k]`, of a key that is there. -/
def erase (d : Dict κ ν) (k : κ) : Dict κ ν :=
  ⟨d.items.filter fun item => item.1 ≠ k, d.nodup.sublist (List.filter_sublist.map Prod.fst)⟩

theorem find_filter_ne (k k' : κ) (items : List (κ × ν)) :
    find k' (items.filter fun item => item.1 ≠ k) = if k' = k then none else find k' items := by
  induction items with
  | nil => simp [find]
  | cons item items ih =>
    obtain ⟨k₀, v₀⟩ := item
    by_cases h : k₀ = k
    · subst h
      rw [List.filter_cons_of_neg (by simp), ih, find]
      by_cases h' : k' = k₀
      · simp [h']
      · rw [if_neg h', if_neg h', if_neg (Ne.symm h')]
    · rw [List.filter_cons_of_pos (by simpa using h), find, ih, find]
      by_cases h' : k₀ = k'
      · subst h'
        simp [h]
      · simp [h']

/-- Erasing a key erases that key only. -/
theorem get?_erase (d : Dict κ ν) (k k' : κ) :
    (d.erase k).get? k' = if k' = k then none else d.get? k' := find_filter_ne k k' d.items

omit [DecidableEq κ] in
@[ext] theorem ext {d d' : Dict κ ν} (h : d.items = d'.items) : d = d' := by
  cases d
  cases d'
  cases h
  rfl

/-! ## Mapping the values -/

section Map

variable {μ : Type}

/-- `{k: f(v) for k, v in d.items()}`. -/
def map (f : ν → μ) (d : Dict κ ν) : Dict κ μ :=
  ⟨d.items.map fun item => (item.1, f item.2), by
    rw [List.map_map]
    exact d.nodup⟩

theorem find_map (f : ν → μ) (k : κ) (items : List (κ × ν)) :
    find k (items.map fun item => (item.1, f item.2)) = (find k items).map f := by
  induction items with
  | nil => rfl
  | cons item items ih =>
    rw [List.map_cons, find, find, ih]
    split <;> rfl

theorem get?_map (f : ν → μ) (d : Dict κ ν) (k : κ) : (d.map f).get? k = (d.get? k).map f :=
  find_map f k d.items

theorem setItem_map (f : ν → μ) (k : κ) (v : ν) (items : List (κ × ν)) :
    setItem k (f v) (items.map fun item => (item.1, f item.2)) =
      (setItem k v items).map fun item => (item.1, f item.2) := by
  induction items with
  | nil => rfl
  | cons item items ih =>
    rw [List.map_cons, setItem, setItem, ih]
    split <;> rfl

theorem map_set (f : ν → μ) (d : Dict κ ν) (k : κ) (v : ν) :
    (d.set k v).map f = (d.map f).set k (f v) := ext (setItem_map f k v d.items).symm

theorem map_erase (f : ν → μ) (d : Dict κ ν) (k : κ) : (d.erase k).map f = (d.map f).erase k := by
  apply ext
  show (d.items.filter _).map _ = (d.items.map _).filter _
  rw [List.filter_map]
  rfl

omit [DecidableEq κ] in
theorem values_map (f : ν → μ) (d : Dict κ ν) : (d.map f).values = d.values.map f := by
  show (d.items.map _).map Prod.snd = (d.items.map Prod.snd).map f
  rw [List.map_map, List.map_map]
  rfl

end Map

/-! ## When the values change -/

theorem values_setItem_iff {k : κ} {v : ν} {items : List (κ × ν)} :
    (setItem k v items).map Prod.snd = items.map Prod.snd ↔ find k items = some v := by
  induction items with
  | nil => simp [setItem, find]
  | cons item items ih =>
    obtain ⟨k', v'⟩ := item
    by_cases h : k' = k
    · rw [setItem, if_pos h, find, if_pos h, List.map_cons, List.map_cons, Option.some.injEq]
      constructor
      · intro heq
        exact (List.cons.inj heq).1.symm
      · rintro rfl
        rfl
    · rw [setItem, if_neg h, find, if_neg h, List.map_cons, List.map_cons, ← ih]
      constructor
      · intro heq
        exact (List.cons.inj heq).2
      · intro heq
        rw [heq]

theorem values_set_iff {d : Dict κ ν} {k : κ} {v : ν} :
    (d.set k v).values = d.values ↔ d.get? k = some v := values_setItem_iff

theorem values_erase_ne {d : Dict κ ν} {k : κ} {v : ν} (h : d.get? k = some v) :
    (d.erase k).values ≠ d.values := by
  intro heq
  have hlength := congrArg List.length heq
  simp only [values, erase, List.length_map] at hlength
  have hgone : ∃ item ∈ d.items, ¬(decide (item.1 ≠ k)) = true :=
    ⟨(k, v), get?_eq_some_iff.mp h, by simp⟩
  have hlt := List.length_filter_lt_length_iff_exists.mpr hgone
  exact absurd hlength (Nat.ne_of_lt hlt)

end Dict
