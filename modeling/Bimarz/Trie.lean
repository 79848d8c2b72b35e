import Mathlib.Data.List.Infix
import Mathlib.Data.List.Nodup
import Mathlib.Data.List.Perm.Basic
import Mathlib.Order.Lattice

/-!
# Tries

Ordered maps whose values hold a further such map, so that a list of keys is a path to a node. A
path is inserted by making the nodes on its way that are not there yet. The order of the insertions
does not matter, every path is listed once, and the values are those that were inserted.
-/

/-- An ordered map of nodes: the entries in the order of their keys, each with the value and the
children of its node. -/
inductive Trie (κ ν : Type)
  | nil
  | cons (key : κ) (value : Option ν) (children rest : Trie κ ν)

namespace Trie

variable {κ ν : Type}

structure Node (κ ν : Type) where
  value : Option ν := none
  children : Trie κ ν := .nil

def ofNode (key : κ) (node : Node κ ν) (rest : Trie κ ν) : Trie κ ν :=
  .cons key node.value node.children rest

def keys : Trie κ ν → List κ
  | .nil => []
  | .cons key _ _ rest => key :: rest.keys

/-- Every node with its path and its value, a node before what is below it. -/
def nodes : Trie κ ν → List (List κ × Option ν)
  | .nil => []
  | .cons key value children rest =>
    (([], value) :: children.nodes).map (fun node => (key :: node.1, node.2)) ++ rest.nodes

/-- The paths with a value. -/
def entries (t : Trie κ ν) : List (List κ × ν) :=
  t.nodes.filterMap fun node => node.2.map fun v => (node.1, v)

def paths (t : Trie κ ν) : List (List κ) := t.nodes.map Prod.fst

theorem paths_cons (key : κ) (value : Option ν) (children rest : Trie κ ν) :
    (Trie.cons key value children rest).paths =
      ([] :: children.paths).map (key :: ·) ++ rest.paths := by
  simp [paths, nodes, Function.comp_def]

/-- The paths of a map begin with its keys. -/
theorem mem_keys_of_mem_paths {t : Trie κ ν} {path : List κ} (h : path ∈ t.paths) :
    ∃ key ∈ t.keys, ∃ path', path = key :: path' := by
  induction t with
  | nil => cases h
  | cons k v children rest _ ih =>
    rw [paths_cons, List.mem_append] at h
    rcases h with hchildren | hrest
    · obtain ⟨path', -, heq⟩ := List.mem_map.mp hchildren
      exact ⟨k, List.mem_cons_self, path', heq.symm⟩
    · obtain ⟨key, hkey, hpath⟩ := ih hrest
      exact ⟨key, List.mem_cons_of_mem _ hkey, hpath⟩

theorem nil_not_mem_nodes (t : Trie κ ν) (value : Option ν) : ([], value) ∉ t.nodes := by
  intro hmem
  obtain ⟨key, -, path, heq⟩ := mem_keys_of_mem_paths (List.mem_map_of_mem (f := Prod.fst) hmem)
  cases heq

/-- The same tree under other keys, which need not be in order. -/
def mapKeys {κ' : Type} (f : κ → κ') : Trie κ ν → Trie κ' ν
  | .nil => .nil
  | .cons key value children rest => .cons (f key) value (children.mapKeys f) (rest.mapKeys f)

theorem paths_mapKeys {κ' : Type} (f : κ → κ') (t : Trie κ ν) :
    (t.mapKeys f).paths = t.paths.map (List.map f) := by
  induction t with
  | nil => rfl
  | cons key value children rest ihChildren ihRest =>
    rw [mapKeys, paths_cons, paths_cons, ihChildren, ihRest]
    simp [Function.comp_def]

variable [LinearOrder κ]

/-- `map.entry(key).or_default()`, with the node changed by `f`. -/
def entry (key : κ) (f : Node κ ν → Node κ ν) : Trie κ ν → Trie κ ν
  | .nil => ofNode key (f {}) .nil
  | .cons k value children rest =>
    if key < k then ofNode key (f {}) (.cons k value children rest)
    else if key = k then ofNode k (f ⟨value, children⟩) rest
    else .cons k value children (entry key f rest)

/-- `map.get(key)`. -/
def get? (key : κ) : Trie κ ν → Option (Node κ ν)
  | .nil => none
  | .cons k value children rest =>
    if key < k then none
    else if key = k then some ⟨value, children⟩
    else get? key rest

/-- Set the value at the end of a path. -/
def Node.insert : List κ → ν → Node κ ν → Node κ ν
  | [], v, node => { node with value := some v }
  | key :: path, v, node =>
    { node with children := node.children.entry key fun child => Node.insert path v child }

def Node.find : List κ → Node κ ν → Option (Node κ ν)
  | [], node => some node
  | key :: path, node => (node.children.get? key).bind fun child => Node.find path child

/-- The path from the root; the root itself has no value. -/
def insert : List κ → ν → Trie κ ν → Trie κ ν
  | [], _, t => t
  | key :: path, v, t => t.entry key (Node.insert path v)

def find : List κ → Trie κ ν → Option (Node κ ν)
  | [], _ => none
  | key :: path, t => (t.get? key).bind (Node.find path)

/-! ## Entries -/

section Entry

variable (f g : Node κ ν → Node κ ν)

theorem entry_entry_self (key : κ) (t : Trie κ ν) :
    (t.entry key f).entry key g = t.entry key fun node => g (f node) := by
  induction t with
  | nil => simp [entry, ofNode]
  | cons k value children rest _ ih =>
    rcases lt_trichotomy key k with hlt | rfl | hgt
    · simp [entry, ofNode, hlt]
    · simp [entry, ofNode]
    · simp [entry, not_lt_of_gt hgt, ne_of_gt hgt, ih]

theorem entry_comm_of_lt {key key' : κ} (h : key < key') (t : Trie κ ν) :
    (t.entry key f).entry key' g = (t.entry key' g).entry key f := by
  induction t with
  | nil => simp [entry, ofNode, h, not_lt_of_gt h, ne_of_gt h]
  | cons k value children rest _ ih =>
    rcases lt_trichotomy key k with hlt | rfl | hgt
    · rcases lt_trichotomy key' k with hlt' | rfl | hgt'
      · simp [entry, ofNode, h, hlt, hlt', not_lt_of_gt h, ne_of_gt h]
      · simp [entry, ofNode, h, not_lt_of_gt h, ne_of_gt h]
      · simp [entry, ofNode, hlt, not_lt_of_gt h, ne_of_gt h, not_lt_of_gt hgt', ne_of_gt hgt']
    · simp [entry, ofNode, not_lt_of_gt h, ne_of_gt h]
    · have hgt' := hgt.trans h
      simp [entry, not_lt_of_gt hgt, ne_of_gt hgt, not_lt_of_gt hgt', ne_of_gt hgt', ih]

/-- Entries of different keys do not meet. -/
theorem entry_comm {key key' : κ} (h : key ≠ key') (t : Trie κ ν) :
    (t.entry key f).entry key' g = (t.entry key' g).entry key f := by
  rcases lt_or_gt_of_ne h with hlt | hgt
  · exact entry_comm_of_lt f g hlt t
  · exact (entry_comm_of_lt g f hgt t).symm

theorem get?_entry (key key' : κ) (t : Trie κ ν) :
    (t.entry key f).get? key' =
      if key' = key then some (f ((t.get? key).getD {})) else t.get? key' := by
  induction t with
  | nil =>
    rcases lt_trichotomy key' key with hlt | rfl | hgt
    · simp [entry, ofNode, get?, hlt, ne_of_lt hlt]
    · simp [entry, ofNode, get?]
    · simp [entry, ofNode, get?, not_lt_of_gt hgt, ne_of_gt hgt]
  | cons k value children rest _ ih =>
    rcases lt_trichotomy key k with hlt | rfl | hgt
    · rcases lt_trichotomy key' key with hlt' | rfl | hgt'
      · simp [entry, ofNode, get?, hlt, hlt', hlt'.trans hlt, ne_of_lt hlt']
      · simp [entry, ofNode, get?, hlt]
      · simp [entry, ofNode, get?, hlt, not_lt_of_gt hgt', ne_of_gt hgt']
    · rcases lt_trichotomy key' key with hlt' | rfl | hgt'
      · simp [entry, ofNode, get?, hlt', ne_of_lt hlt']
      · simp [entry, ofNode, get?]
      · simp [entry, ofNode, get?, not_lt_of_gt hgt', ne_of_gt hgt']
    · rcases lt_trichotomy key' k with hlt' | rfl | hgt'
      · simp [entry, get?, not_lt_of_gt hgt, ne_of_gt hgt, hlt', ne_of_lt (hlt'.trans hgt)]
      · simp [entry, get?, not_lt_of_gt hgt, ne_of_gt hgt, ne_of_lt hgt]
      · simp [entry, get?, not_lt_of_gt hgt, ne_of_gt hgt, not_lt_of_gt hgt', ne_of_gt hgt', ih]

end Entry

/-! ## Insertions in any order -/

theorem Node.insert_comm {path path' : List κ} (h : path ≠ path') (v v' : ν) (node : Node κ ν) :
    (node.insert path v).insert path' v' = (node.insert path' v').insert path v := by
  induction path generalizing path' node with
  | nil =>
    cases path' with
    | nil => exact absurd rfl h
    | cons key' path' => rfl
  | cons key path ih =>
    cases path' with
    | nil => rfl
    | cons key' path' =>
      simp only [Node.insert]
      by_cases hkey : key = key'
      · subst hkey
        have hpath : path ≠ path' := fun heq => h (heq ▸ rfl)
        rw [entry_entry_self, entry_entry_self]
        simp only [ih hpath]
      · rw [entry_comm _ _ hkey]

theorem insert_comm {path path' : List κ} (h : path ≠ path') (v v' : ν) (t : Trie κ ν) :
    (t.insert path v).insert path' v' = (t.insert path' v').insert path v := by
  cases path with
  | nil =>
    cases path' with
    | nil => rfl
    | cons key' path' => rfl
  | cons key path =>
    cases path' with
    | nil => rfl
    | cons key' path' =>
      simp only [insert]
      by_cases hkey : key = key'
      · subst hkey
        have hpath : path ≠ path' := fun heq => h (heq ▸ rfl)
        rw [entry_entry_self, entry_entry_self]
        simp only [Node.insert_comm hpath]
      · rw [entry_comm _ _ hkey]

/-- The trie of these paths and values. -/
def ofList (items : List (List κ × ν)) : Trie κ ν :=
  items.foldl (fun t item => insert item.1 item.2 t) (.nil : Trie κ ν)

/-- The order in which different paths are inserted does not matter. -/
theorem ofList_perm {items items' : List (List κ × ν)} (h : items.Perm items')
    (hnodup : (items.map Prod.fst).Nodup) : ofList items = ofList items' := by
  refine h.foldl_eq' (fun item hitem item' hitem' t => ?_) Trie.nil
  by_cases hpath : item.1 = item'.1
  · rw [List.inj_on_of_nodup_map hnodup hitem hitem' hpath]
  · exact insert_comm hpath item.2 item'.2 t

/-! ## What is found -/

theorem Node.find_empty (path : List κ) :
    (({} : Node κ ν).find path) = if path = [] then some {} else none := by
  cases path with
  | nil => rfl
  | cons key path => rfl

/-- The value at the end of a path. -/
def Node.value? (node : Node κ ν) (path : List κ) : Option ν := (node.find path).bind Node.value

theorem Node.value?_cons (node : Node κ ν) (key : κ) (path : List κ) :
    node.value? (key :: path) = ((node.children.get? key).getD {}).value? path := by
  unfold Node.value?
  rw [Node.find]
  cases node.children.get? key with
  | none =>
    rw [Option.getD_none, Node.find_empty]
    split
    · rfl
    · rfl
  | some child => rfl

theorem Node.value?_insert (path : List κ) (v : ν) (node : Node κ ν) (path' : List κ) :
    (node.insert path v).value? path' = if path' = path then some v else node.value? path' := by
  induction path generalizing node path' with
  | nil =>
    cases path' with
    | nil => rfl
    | cons key' path' => rfl
  | cons key path ih =>
    cases path' with
    | nil => rfl
    | cons key' path' =>
      rw [Node.value?_cons, Node.value?_cons]
      simp only [Node.insert, get?_entry]
      by_cases hkey : key' = key
      · subst hkey
        simp [ih]
      · simp [hkey]

/-- There is a node at the end of a path. -/
def Node.has (node : Node κ ν) (path : List κ) : Bool := (node.find path).isSome

theorem Node.has_empty (path : List κ) : (({} : Node κ ν).has path) = true ↔ path = [] := by
  unfold Node.has
  rw [Node.find_empty]
  split
  next h => simp [h]
  next h => simp [h]

theorem Node.has_insert (path : List κ) (v : ν) (node : Node κ ν) (path' : List κ) :
    (node.insert path v).has path' = true ↔ node.has path' = true ∨ path' <+: path := by
  induction path generalizing node path' with
  | nil =>
    cases path' with
    | nil => simp [Node.insert, Node.has, Node.find]
    | cons key' path' => simp [Node.insert, Node.has, Node.find]
  | cons key path ih =>
    cases path' with
    | nil => simp [Node.insert, Node.has, Node.find]
    | cons key' path' =>
      simp only [Node.has, Node.insert, Node.find, get?_entry] at ih ⊢
      by_cases hkey : key' = key
      · subst hkey
        rw [if_pos rfl, Option.bind_some, ih, List.cons_prefix_cons]
        cases node.children.get? key' with
        | none =>
          have hempty := Node.has_empty (ν := ν) path'
          unfold Node.has at hempty
          simp only [Option.getD_none, Option.bind_none, Option.isSome_none]
          rw [hempty]
          constructor
          · rintro (rfl | hpath)
            · exact Or.inr ⟨trivial, List.nil_prefix⟩
            · exact Or.inr ⟨trivial, hpath⟩
          · rintro (hfalse | ⟨-, hpath⟩)
            · cases hfalse
            · exact Or.inr hpath
        | some child => simp
      · rw [if_neg hkey, List.cons_prefix_cons]
        simp [hkey]

/-! ## Every node once -/

/-- The keys of every map are in order. -/
def Sorted : Trie κ ν → Prop
  | .nil => True
  | .cons key _ children rest =>
    (∀ key' ∈ rest.keys, key < key') ∧ children.Sorted ∧ rest.Sorted

theorem mem_keys_entry {key key' : κ} {f : Node κ ν → Node κ ν} {t : Trie κ ν}
    (h : key' ∈ (t.entry key f).keys) : key' = key ∨ key' ∈ t.keys := by
  induction t with
  | nil => simpa [entry, ofNode, keys] using h
  | cons k value children rest _ ih =>
    unfold entry at h
    split at h
    · simpa [ofNode, keys] using h
    split at h
    next heq =>
      rw [ofNode, keys, List.mem_cons] at h
      rw [keys, List.mem_cons]
      exact Or.inr h
    · rw [keys, List.mem_cons] at h ⊢
      rcases h with hk | hrest
      · exact Or.inr (Or.inl hk)
      · exact (ih hrest).imp_right Or.inr

theorem Sorted.entry {t : Trie κ ν} (h : t.Sorted) (key : κ) {f : Node κ ν → Node κ ν}
    (hf : ∀ node : Node κ ν, node.children.Sorted → (f node).children.Sorted) :
    (t.entry key f).Sorted := by
  induction t with
  | nil => exact ⟨nofun, hf _ trivial, trivial⟩
  | cons k value children rest _ ih =>
    obtain ⟨hkeys, hchildren, hrest⟩ := h
    unfold Trie.entry
    split
    next hlt =>
      refine ⟨fun key' hkey' => ?_, hf _ trivial, hkeys, hchildren, hrest⟩
      rcases List.mem_cons.mp hkey' with rfl | hmem
      · exact hlt
      · exact hlt.trans (hkeys key' hmem)
    next hnot =>
    split
    next => exact ⟨hkeys, hf _ hchildren, hrest⟩
    next hne =>
      refine ⟨fun key' hkey' => ?_, hchildren, ih hrest⟩
      rcases mem_keys_entry hkey' with rfl | hmem
      · exact lt_of_le_of_ne (not_lt.mp hnot) (Ne.symm hne)
      · exact hkeys key' hmem

theorem Node.insert_sorted (path : List κ) (v : ν) {node : Node κ ν}
    (h : node.children.Sorted) : (node.insert path v).children.Sorted := by
  induction path generalizing node with
  | nil => exact h
  | cons key path ih => exact h.entry key fun _ => ih

theorem Sorted.insert {t : Trie κ ν} (h : t.Sorted) (path : List κ) (v : ν) :
    (t.insert path v).Sorted := by
  cases path with
  | nil => exact h
  | cons key path => exact h.entry key fun _ => Node.insert_sorted path v

theorem sorted_ofList (items : List (List κ × ν)) : (ofList items).Sorted := by
  unfold ofList
  have hfoldl : ∀ t : Trie κ ν, t.Sorted →
      (items.foldl (fun t item => Trie.insert item.1 item.2 t) t).Sorted := by
    induction items with
    | nil => exact fun _ => id
    | cons item items ih => exact fun t ht => ih _ (ht.insert item.1 item.2)
  exact hfoldl .nil trivial

theorem paths_nodup {t : Trie κ ν} (h : t.Sorted) : t.paths.Nodup := by
  induction t with
  | nil => exact List.nodup_nil
  | cons k v children rest ihChildren ihRest =>
    obtain ⟨hkeys, hchildren, hrest⟩ := h
    have hbelow : ([] :: children.paths).Nodup := by
      refine List.nodup_cons.mpr ⟨fun hmem => ?_, ihChildren hchildren⟩
      obtain ⟨key, -, path, heq⟩ := mem_keys_of_mem_paths hmem
      cases heq
    rw [paths_cons]
    refine (hbelow.map fun _ _ heq => (List.cons.inj heq).2).append (ihRest hrest) ?_
    intro path hpath hpath'
    obtain ⟨path', -, rfl⟩ := List.mem_map.mp hpath
    obtain ⟨key, hkey, path'', heq⟩ := mem_keys_of_mem_paths hpath'
    rw [(List.cons.inj heq).1] at hkeys
    exact absurd (hkeys key hkey) (lt_irrefl key)

theorem get?_eq_none_of_lt {t : Trie κ ν} {key : κ} (h : ∀ key' ∈ t.keys, key < key') :
    t.get? key = none := by
  cases t with
  | nil => rfl
  | cons k v children rest => rw [get?, if_pos (h k List.mem_cons_self)]

/-- The listed nodes are the ones that are found. -/
theorem mem_nodes_iff {t : Trie κ ν} (h : t.Sorted) (path : List κ) (value : Option ν) :
    (path, value) ∈ t.nodes ↔ ∃ node, t.find path = some node ∧ node.value = value := by
  induction t generalizing path with
  | nil =>
    cases path with
    | nil => simp [nodes, find]
    | cons key path => simp [nodes, find, get?]
  | cons k v children rest ihChildren ihRest =>
    obtain ⟨hkeys, hchildren, hrest⟩ := h
    cases path with
    | nil => exact iff_of_false (nil_not_mem_nodes _ _) (by simp [find])
    | cons key path =>
      have hnode : (key :: path, value) ∈ (([], v) :: children.nodes).map
          (fun node => (k :: node.1, node.2)) ↔
            key = k ∧ (path = [] ∧ value = v ∨ (path, value) ∈ children.nodes) := by
        constructor
        · intro hmem
          obtain ⟨⟨path', value'⟩, hnode, heq⟩ := List.mem_map.mp hmem
          simp only [Prod.mk.injEq, List.cons.injEq] at heq
          obtain ⟨⟨rfl, rfl⟩, rfl⟩ := heq
          rcases List.mem_cons.mp hnode with heq | hbelow
          · cases heq
            exact ⟨rfl, Or.inl ⟨rfl, rfl⟩⟩
          · exact ⟨rfl, Or.inr hbelow⟩
        · rintro ⟨rfl, (⟨rfl, rfl⟩ | hmem)⟩
          · exact List.mem_map.mpr ⟨([], value), List.mem_cons_self, rfl⟩
          · exact List.mem_map.mpr ⟨(path, value), List.mem_cons_of_mem _ hmem, rfl⟩
      rw [nodes, List.mem_append, ihRest hrest, hnode, find, find, get?]
      rcases lt_trichotomy key k with hlt | rfl | hgt
      · have hnone := get?_eq_none_of_lt fun key' hkey' => hlt.trans (hkeys key' hkey')
        simp [hlt, ne_of_lt hlt, hnone]
      · have hnone := get?_eq_none_of_lt hkeys
        simp only [hnone, lt_irrefl, if_false, if_true, Option.bind_none, Option.bind_some, true_and,
          reduceCtorEq, false_and, exists_false, or_false]
        cases path with
        | nil => simp [Node.find, nil_not_mem_nodes, eq_comm]
        | cons key' path => simp [Node.find, ihChildren hchildren, find]
      · simp [not_lt_of_gt hgt, ne_of_gt hgt]

/-! ## A trie of paths -/

/-- A path from the root is one from a node with these children. -/
theorem find_eq (t : Trie κ ν) {path : List κ} (h : path ≠ []) :
    t.find path = ({ children := t } : Node κ ν).find path := by
  cases path with
  | nil => exact absurd rfl h
  | cons key path => rfl

theorem find_insert_eq (t : Trie κ ν) {path path' : List κ} (h : path ≠ []) (h' : path' ≠ [])
    (v : ν) :
    (t.insert path v).find path' = (({ children := t } : Node κ ν).insert path v).find path' := by
  cases path with
  | nil => exact absurd rfl h
  | cons key path =>
    cases path' with
    | nil => exact absurd rfl h'
    | cons key' path' => rfl

theorem ofList_concat (items : List (List κ × ν)) (item : List κ × ν) :
    ofList (items ++ [item]) = (ofList items).insert item.1 item.2 := by
  unfold ofList
  rw [List.foldl_append]
  rfl

section OfList

variable {items : List (List κ × ν)}

/-- There is a node at the end of every beginning of a path. -/
theorem find_ofList_isSome (hne : ∀ item ∈ items, item.1 ≠ []) {path : List κ} (hpath : path ≠ []) :
    ((ofList items).find path).isSome = true ↔ ∃ item ∈ items, path <+: item.1 := by
  induction items using List.reverseRecOn with
  | nil =>
    cases path with
    | nil => exact absurd rfl hpath
    | cons key path => simp [ofList, find, get?]
  | append_singleton items item ih =>
    have hitem : item.1 ≠ [] := hne item (by simp)
    have hhas := Node.has_insert item.1 item.2 ⟨none, ofList items⟩ path
    unfold Node.has at hhas
    rw [ofList_concat, find_insert_eq _ hitem hpath, hhas, ← find_eq _ hpath,
      ih fun item' hmem => hne item' (List.mem_append_left _ hmem)]
    simp only [List.mem_append, List.mem_singleton, or_and_right, exists_or, exists_eq_left]

/-- Values are found under their paths. -/
theorem value_ofList (hnodup : (items.map Prod.fst).Nodup) (hne : ∀ item ∈ items, item.1 ≠ [])
    {path : List κ} (hpath : path ≠ []) (v : ν) :
    ((ofList items).find path).bind Node.value = some v ↔ (path, v) ∈ items := by
  induction items using List.reverseRecOn with
  | nil =>
    cases path with
    | nil => exact absurd rfl hpath
    | cons key path => simp [ofList, find, get?]
  | append_singleton items item ih =>
    have hitem : item.1 ≠ [] := hne item (by simp)
    rw [List.map_append, List.nodup_append] at hnodup
    obtain ⟨hnodup, -, hdisjoint⟩ := hnodup
    have hvalue := Node.value?_insert item.1 item.2 ⟨none, ofList items⟩ path
    unfold Node.value? at hvalue
    rw [ofList_concat, find_insert_eq _ hitem hpath, hvalue, ← find_eq _ hpath, List.mem_append,
      List.mem_singleton]
    split
    next heq =>
      subst heq
      have hnot : (item.1, v) ∉ items := fun hmem =>
        hdisjoint item.1 (List.mem_map.mpr ⟨(item.1, v), hmem, rfl⟩) item.1 (by simp) rfl
      obtain ⟨itemPath, itemValue⟩ := item
      simp [hnot, eq_comm]
    next hother =>
      rw [ih hnodup fun item' hmem => hne item' (List.mem_append_left _ hmem)]
      refine ⟨Or.inl, fun h => h.resolve_right ?_⟩
      rintro rfl
      exact hother rfl

/-- The paths are the beginnings of the paths that were inserted. -/
theorem mem_paths_ofList (hne : ∀ item ∈ items, item.1 ≠ []) (path : List κ) :
    path ∈ (ofList items).paths ↔ path ≠ [] ∧ ∃ item ∈ items, path <+: item.1 := by
  have hmem : path ∈ (ofList items).paths ↔ ∃ value, (path, value) ∈ (ofList items).nodes := by
    simp [paths]
  rw [hmem]
  simp only [mem_nodes_iff (sorted_ofList items)]
  cases path with
  | nil => simp [find]
  | cons key path =>
    have hpath : key :: path ≠ [] := List.cons_ne_nil _ _
    rw [← find_ofList_isSome hne hpath, Option.isSome_iff_exists, and_iff_right hpath]
    constructor
    · rintro ⟨value, node, hfind, -⟩
      exact ⟨node, hfind⟩
    · rintro ⟨node, hfind⟩
      exact ⟨node.value, node, hfind, rfl⟩

theorem entries_nodup {t : Trie κ ν} (h : t.Sorted) : t.entries.Nodup := by
  have hnodup : t.nodes.Nodup := List.Nodup.of_map Prod.fst (paths_nodup h)
  refine hnodup.filterMap fun node node' entry hnode hnode' => ?_
  obtain ⟨v, hv, rfl⟩ := Option.map_eq_some_iff.mp hnode
  obtain ⟨v', hv', heq⟩ := Option.map_eq_some_iff.mp hnode'
  obtain ⟨hpath, rfl⟩ := Prod.mk.inj heq
  exact Prod.ext hpath.symm (hv.trans hv'.symm)

/-- The entries are what was inserted. -/
theorem entries_ofList (hnodup : (items.map Prod.fst).Nodup) (hne : ∀ item ∈ items, item.1 ≠ []) :
    (ofList items).entries.Perm items := by
  rw [List.perm_ext_iff_of_nodup (entries_nodup (sorted_ofList items)) hnodup.of_map]
  rintro ⟨path, v⟩
  have hmem : (path, v) ∈ (ofList items).entries ↔ (path, some v) ∈ (ofList items).nodes := by
    simp [entries]
  rw [hmem, mem_nodes_iff (sorted_ofList items)]
  cases path with
  | nil =>
    refine iff_of_false (by simp [find]) fun hmem => hne _ hmem rfl
  | cons key path =>
    rw [← value_ofList hnodup hne (List.cons_ne_nil key path) v, Option.bind_eq_some_iff]

end OfList

end Trie
