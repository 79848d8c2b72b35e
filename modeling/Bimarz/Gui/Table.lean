import Bimarz.Effect.Run
import Bimarz.Models
import Mathlib.Data.List.Perm.Basic
import Mathlib.Data.List.Sort
import Mathlib.Data.Rat.Floor
import Mathlib.Data.String.Basic

/-!
# The table of profiles (`gui/profile_table.py`)

`QTableWidget` moves its rows when it sorts them, and the list `_profiles` stays as it is. The two go
together by position: `proper_run_iff` says that a run keeps them together exactly when no sort of it
puts a row where another remark or address was shown.
-/

namespace Bimarz.Gui.ProfileTable

open Effect

/-! ## The widget -/

inductive Column
  | remark
  | address
  | latency
  | status
  deriving DecidableEq

inductive SortOrder
  | ascending
  | descending
  deriving DecidableEq

inductive Color
  | darkgreen
  | red
  deriving DecidableEq

/-- A `QTableWidgetItem`. -/
structure Item where
  text : String
  foreground : Option Color := none
  deriving DecidableEq

/-- The four items of a row, which stay together. -/
structure Row where
  id : ℕ
  remark : Item
  address : Item
  latency : Item
  status : Item
  deriving DecidableEq

namespace Row

def item (row : Row) : Column → Item
  | .remark => row.remark
  | .address => row.address
  | .latency => row.latency
  | .status => row.status

def onItem (row : Row) (column : Column) (f : Item → Item) : Row :=
  match column with
  | .remark => { row with remark := f row.remark }
  | .address => { row with address := f row.address }
  | .latency => { row with latency := f row.latency }
  | .status => { row with status := f row.status }

/-- The remark and the address that a row displays. -/
def shown (row : Row) : String × String := (row.remark.text, row.address.text)

@[simp] theorem onItem_id (row : Row) (column : Column) (f : Item → Item) :
    (row.onItem column f).id = row.id := by cases column <;> rfl

@[simp] theorem shown_onItem_latency (row : Row) (f : Item → Item) :
    (row.onItem .latency f).shown = row.shown := rfl

@[simp] theorem shown_onItem_status (row : Row) (f : Item → Item) :
    (row.onItem .status f).shown = row.shown := rfl

end Row

/-- The order of two texts. -/
def InOrder (lessThan : String → String → Bool) (order : SortOrder) (a b : String) : Prop :=
  match order with
  | .ascending => lessThan b a = false
  | .descending => lessThan a b = false

/-- How Qt sorts: all rows by a column, and one row whose item in the sorted column has changed. -/
structure Sorting where
  lessThan : String → String → Bool
  sort : Column → SortOrder → List Row → List Row
  ensureSorted : Column → SortOrder → ℕ → List Row → List Row
  sort_perm : ∀ column order rows, (sort column order rows).Perm rows
  ensureSorted_perm : ∀ column order row rows, (ensureSorted column order row rows).Perm rows
  sort_ordered : ∀ column order rows, (sort column order rows).Pairwise fun a b =>
    InOrder lessThan order (a.item column).text (b.item column).text

/-- The widget with its list `_profiles`. -/
structure Table where
  profiles : List ServerProfile
  rows : List Row
  /-- the row of the selected items -/
  selected : Option ℕ
  sortingEnabled : Bool
  sortColumn : Column
  sortOrder : SortOrder

/-! ## The code -/

/-- `f"{latency_ms:.0f}"`: half to even. -/
def formatFixed (x : ℚ) : String :=
  let low := ⌊|x|⌋
  let rest := |x| - low
  let rounded := if rest < 1 / 2 ∨ rest = 1 / 2 ∧ low % 2 = 0 then low else low + 1
  (if x < 0 then "-" else "") ++ toString rounded

example : [formatFixed (5 / 2), formatFixed (7 / 2), formatFixed (-1 / 3)] = ["2", "4", "-0"] := by
  decide +kernel

/-- The text of the address item. -/
def addressText (profile : ServerProfile) : String :=
  let address := ((profile.outboundConfig.get? "address").getD (.str "?")).toStr
  let port := ((profile.outboundConfig.get? "port").getD (.str "?")).toStr
  s!"{address}:{port}"

/-- The remark and the address of a profile, as they are displayed. -/
def shownProfile (profile : ServerProfile) : String × String :=
  (profile.remark, addressText profile)

namespace Table

/-- `__init__`, with the sort indicator that the header starts with. -/
def init (sortColumn : Column) (sortOrder : SortOrder) : Table where
  profiles := []
  rows := []
  selected := none
  sortingEnabled := true
  sortColumn := sortColumn
  sortOrder := sortOrder

section Code

variable (qt : Sorting)

/-- `sortByColumn`. -/
def sortByColumn (t : Table) (column : Column) (order : SortOrder) : Table :=
  { t with rows := qt.sort column order t.rows, sortColumn := column, sortOrder := order }

def setSortingEnabled (t : Table) (enable : Bool) : Table :=
  if enable then sortByColumn qt { t with sortingEnabled := true } t.sortColumn t.sortOrder
  else { t with sortingEnabled := false }

/-- The items of a row of `set_profiles`. -/
def newRow (row : ℕ) (profile : ServerProfile) : Row where
  id := row
  remark := { text := profile.remark }
  address := { text := addressText profile }
  latency := { text := "—" }
  status := { text := "Pending" }

/-- The loop of `set_profiles`. -/
def fill (profiles : List ServerProfile) : List Row :=
  profiles.zipIdx.map fun entry => newRow entry.2 entry.1

def setProfiles (t : Table) (profiles : List ServerProfile) : Table :=
  let t := setSortingEnabled qt t false
  let t := { t with profiles := profiles, selected := none, rows := fill profiles }
  setSortingEnabled qt t true

/-- `setText` and `setForeground`: a new value in the sorted column sorts its row. -/
def change (t : Table) (id : ℕ) (column : Column) (f : Item → Item) : Table :=
  match t.rows.find? fun row => row.id = id with
  | none => t
  | some row =>
    if f (row.item column) = row.item column then t
    else
      let rows := t.rows.map fun row => if row.id = id then row.onItem column f else row
      if t.sortingEnabled ∧ t.sortColumn = column then
        let position := t.rows.findIdx fun row => row.id = id
        { t with rows := qt.ensureSorted column t.sortOrder position rows }
      else { t with rows := rows }

def setText (t : Table) (id : ℕ) (column : Column) (text : String) : Table :=
  t.change qt id column fun item => { item with text := text }

def setForeground (t : Table) (id : ℕ) (column : Column) (color : Color) : Table :=
  t.change qt id column fun item => { item with foreground := some color }

/-- What `update_latency` makes of the two items of a row. -/
def updateItems (t : Table) (id : ℕ) (latencyMs : Option ℚ) (reachable : Bool) : Table :=
  match reachable, latencyMs with
  | true, some latencyMs =>
    let t := t.setText qt id .latency s!"{formatFixed latencyMs} ms"
    let t := t.setForeground qt id .latency .darkgreen
    let t := t.setText qt id .status "Online"
    t.setForeground qt id .status .darkgreen
  | _, _ =>
    let t := t.setText qt id .latency "—"
    let t := t.setForeground qt id .latency .red
    let t := t.setText qt id .status "Offline"
    t.setForeground qt id .status .red

def updateLatency (t : Table) (profileId : String) (latencyMs : Option ℚ) (reachable : Bool) :
    Table :=
  match t.profiles.findIdx? fun profile => profile.profileId = profileId with
  | none => t
  | some row =>
    match t.rows[row]? with
    | none => t
    | some item => t.updateItems qt item.id latencyMs reachable

end Code

/-- The user selects a row. -/
def select (t : Table) (row : ℕ) : Table := { t with selected := t.rows[row]?.map Row.id }

def selectedProfile (t : Table) : Option ServerProfile := do
  let id ← t.selected
  let row ← t.rows.findIdx? fun row => row.id = id
  t.profiles[row]?

end Table

/-- What happens to the table. -/
inductive Operation
  | setProfiles (profiles : List ServerProfile)
  | sort (column : Column) (order : SortOrder)
  | updateLatency (profileId : String) (latencyMs : Option ℚ) (reachable : Bool)

def Table.step (qt : Sorting) (t : Table) : Operation → Table
  | .setProfiles profiles => t.setProfiles qt profiles
  | .sort column order => t.sortByColumn qt column order
  | .updateLatency profileId latencyMs reachable =>
    t.updateLatency qt profileId latencyMs reachable

/-! ## Rows and profiles -/

/-- Selecting a row gives the profile whose remark and address it displays. -/
def Table.Faithful (t : Table) : Prop :=
  ∀ i row, t.rows[i]? = some row → ∃ profile, (t.select i).selectedProfile = some profile ∧
    row.shown = shownProfile profile

/-- Only a row that displays the profile with the id has changed. -/
def Table.OnlyRowOf (profileId : String) (t t' : Table) : Prop :=
  ∀ row ∈ t.rows, ∀ row' ∈ t'.rows, row'.id = row.id → row' ≠ row →
    ∃ profile, t.profiles.find? (fun profile => profile.profileId = profileId) = some profile ∧
      row.shown = shownProfile profile

/-- The operation leaves a table on which rows and profiles go together, and has changed only what
it is about. -/
def Proper (qt : Sorting) (t : Table) (operation : Operation) : Prop :=
  (t.step qt operation).Faithful ∧
    match operation with
    | .updateLatency profileId _ _ => t.OnlyRowOf profileId (t.step qt operation)
    | _ => True

/-- What is displayed as remarks and addresses, from top to bottom. -/
def shown (rows : List Row) : List (String × String) := rows.map Row.shown

/-- A text and a color for an item, as two changes of it. -/
def Sorting.put (qt : Sorting) (t : Table) (id : ℕ) (column : Column) (text : String)
    (color : Color) : Table :=
  (t.setText qt id column text).setForeground qt id column color

/-- A latency, a status and their color. -/
def measured (latencyMs : Option ℚ) (reachable : Bool) : String × String × Color :=
  match reachable, latencyMs with
  | true, some latencyMs => (s!"{formatFixed latencyMs} ms", "Online", .darkgreen)
  | _, _ => ("—", "Offline", .red)

/-- What Qt sorts stays where the same remark and address was displayed: all rows, by the column
that is asked for, or one row, if its latency or status has changed and that column is the sorted
one. -/
def Undisturbed (qt : Sorting) (t : Table) : Operation → Prop
  | .setProfiles profiles =>
    shown (qt.sort t.sortColumn t.sortOrder (Table.fill profiles)) = shown (Table.fill profiles)
  | .sort column order => shown (qt.sort column order t.rows) = shown t.rows
  | .updateLatency profileId latencyMs reachable =>
    (t.sortColumn = .latency ∨ t.sortColumn = .status) →
      ∀ i, (t.profiles.findIdx? fun profile => profile.profileId = profileId) = some i →
        ∀ row, t.rows[i]? = some row →
          let (latency, status, color) := measured latencyMs reachable
          shown (qt.put (qt.put t row.id .latency latency color) row.id .status status color).rows =
            shown t.rows

/-- The rows are as many as the profiles, and no two are the same. -/
structure Table.Sound (t : Table) : Prop where
  length : t.rows.length = t.profiles.length
  nodup : (t.rows.map Row.id).Nodup
  enabled : t.sortingEnabled = true

section Sound

variable {qt : Sorting} {t : Table}

theorem findIdx?_id (h : (t.rows.map Row.id).Nodup) {i : ℕ} {row : Row}
    (hrow : t.rows[i]? = some row) : (t.rows.findIdx? fun row' => row'.id = row.id) = some i := by
  obtain ⟨hi, rfl⟩ := List.getElem?_eq_some_iff.mp hrow
  rw [List.findIdx?_eq_some_iff_getElem]
  refine ⟨hi, decide_eq_true rfl, fun j hji hsame => ?_⟩
  have hj : j < t.rows.length := Nat.lt_trans hji hi
  have hids : (t.rows.map Row.id)[j]? = (t.rows.map Row.id)[i]? := by
    rw [List.getElem?_map, List.getElem?_map, List.getElem?_eq_getElem hj,
      List.getElem?_eq_getElem hi]
    exact congrArg some (of_decide_eq_true hsame)
  exact List.nodup_iff_getElem?_ne_getElem?.mp h j i hji (by rwa [List.length_map]) hids

theorem selectedProfile_select (h : (t.rows.map Row.id).Nodup) {i : ℕ} {row : Row}
    (hrow : t.rows[i]? = some row) : (t.select i).selectedProfile = t.profiles[i]? := by
  unfold Table.selectedProfile Table.select
  simp only [hrow, Option.map_some, Option.bind_eq_bind, Option.bind_some]
  rw [findIdx?_id h hrow]
  rfl

/-- Rows and profiles go together when they read the same from top to bottom. -/
theorem Table.Sound.faithful_iff (h : t.Sound) :
    t.Faithful ↔ shown t.rows = t.profiles.map shownProfile := by
  unfold shown
  constructor
  · intro hfaithful
    refine List.ext_getElem? fun i => ?_
    rw [List.getElem?_map, List.getElem?_map]
    cases hrow : t.rows[i]? with
    | none =>
      rw [List.getElem?_eq_none_iff, h.length] at hrow
      rw [List.getElem?_eq_none hrow]
      rfl
    | some row =>
      obtain ⟨profile, hselected, hshown⟩ := hfaithful i row hrow
      rw [selectedProfile_select h.nodup hrow] at hselected
      rw [hselected]
      exact congrArg some hshown
  · intro heq i row hrow
    have hi := congrArg (fun texts => texts[i]?) heq
    simp only [List.getElem?_map, hrow, Option.map_some] at hi
    obtain ⟨profile, hprofile, hshown⟩ := Option.map_eq_some_iff.mp hi.symm
    refine ⟨profile, ?_, hshown.symm⟩
    rw [selectedProfile_select h.nodup hrow, hprofile]

/-! ## What the operations change -/

/-- Between two tables only the row with the id has changed, and rows have moved. -/
structure Changes (id : ℕ) (t t' : Table) : Prop where
  profiles : t'.profiles = t.profiles
  enabled : t'.sortingEnabled = t.sortingEnabled
  ids : (t'.rows.map Row.id).Perm (t.rows.map Row.id)
  others : ∀ row ∈ t'.rows, row.id ≠ id → row ∈ t.rows

theorem Changes.refl (id : ℕ) (t : Table) : Changes id t t :=
  ⟨rfl, rfl, List.Perm.refl _, fun _ hrow _ => hrow⟩

theorem Changes.trans {id : ℕ} {t t' t'' : Table} (h : Changes id t t') (h' : Changes id t' t'') :
    Changes id t t'' where
  profiles := h'.profiles.trans h.profiles
  enabled := h'.enabled.trans h.enabled
  ids := h'.ids.trans h.ids
  others row hrow hne := h.others row (h'.others row hrow hne) hne

/-- The rows with one of them changed. -/
theorem ids_onItem (rows : List Row) (id : ℕ) (column : Column) (f : Item → Item) :
    (rows.map fun row => if row.id = id then row.onItem column f else row).map Row.id =
      rows.map Row.id := by
  rw [List.map_map]
  refine List.map_congr_left fun row _ => ?_
  rw [Function.comp_apply]
  split
  · exact Row.onItem_id row column f
  · rfl

theorem mem_of_mem_onItem {rows : List Row} {id : ℕ} {column : Column} {f : Item → Item} {row : Row}
    (h : row ∈ rows.map fun row => if row.id = id then row.onItem column f else row)
    (hne : row.id ≠ id) : row ∈ rows := by
  obtain ⟨row', hmem, heq⟩ := List.mem_map.mp h
  split at heq
  next hid =>
    rw [← heq, Row.onItem_id] at hne
    exact absurd hid hne
  next =>
    rw [← heq]
    exact hmem

theorem changes_change (t : Table) (id : ℕ) (column : Column) (f : Item → Item) :
    Changes id t (t.change qt id column f) := by
  unfold Table.change
  split
  · exact .refl id t
  · split
    · exact .refl id t
    · simp only
      split
      · have hperm := qt.ensureSorted_perm column t.sortOrder
          (t.rows.findIdx fun row => row.id = id)
          (t.rows.map fun row => if row.id = id then row.onItem column f else row)
        refine ⟨rfl, rfl, ?_, fun row hrow hne => mem_of_mem_onItem (hperm.mem_iff.mp hrow) hne⟩
        rw [← ids_onItem t.rows id column f]
        exact hperm.map Row.id
      · refine ⟨rfl, rfl, ?_, fun row hrow hne => mem_of_mem_onItem hrow hne⟩
        exact List.Perm.of_eq (ids_onItem t.rows id column f)

/-- The latency and the status are not what `shown` reads. -/
theorem shown_change {column : Column} (hcolumn : column = .latency ∨ column = .status)
    (h : t.sortColumn ≠ column) (id : ℕ) (f : Item → Item) :
    shown (t.change qt id column f).rows = shown t.rows := by
  have hrows : shown (t.rows.map fun row => if row.id = id then row.onItem column f else row) =
      shown t.rows := by
    unfold shown
    rw [List.map_map]
    refine List.map_congr_left fun row _ => ?_
    rw [Function.comp_apply]
    split
    · rcases hcolumn with rfl | rfl
      · exact Row.shown_onItem_latency row f
      · exact Row.shown_onItem_status row f
    · rfl
  unfold Table.change
  split
  · rfl
  · split
    · rfl
    · simp only
      rw [if_neg fun hsorted => h hsorted.2]
      exact hrows

theorem sortColumn_change (t : Table) (id : ℕ) (column : Column) (f : Item → Item) :
    (t.change qt id column f).sortColumn = t.sortColumn := by
  unfold Table.change
  split
  · rfl
  · split
    · rfl
    · simp only
      split
      · rfl
      · rfl

theorem shown_put {column : Column} (hcolumn : column = .latency ∨ column = .status)
    (h : t.sortColumn ≠ column) (id : ℕ) (text : String) (color : Color) :
    shown (qt.put t id column text color).rows = shown t.rows ∧
      (qt.put t id column text color).sortColumn = t.sortColumn := by
  unfold Sorting.put Table.setForeground Table.setText
  constructor
  · rw [shown_change hcolumn, shown_change hcolumn h]
    rw [sortColumn_change]
    exact h
  · rw [sortColumn_change, sortColumn_change]

theorem updateItems_eq (t : Table) (id : ℕ) (latencyMs : Option ℚ) (reachable : Bool) :
    t.updateItems qt id latencyMs reachable =
      qt.put (qt.put t id .latency (measured latencyMs reachable).1
        (measured latencyMs reachable).2.2) id .status (measured latencyMs reachable).2.1
          (measured latencyMs reachable).2.2 := by
  unfold Table.updateItems measured
  split
  · rfl
  · rfl

/-- An update leaves the rows where they are if neither of its columns is the sorted one. -/
theorem shown_updateItems (hlatency : t.sortColumn ≠ .latency) (hstatus : t.sortColumn ≠ .status)
    (id : ℕ) (latencyMs : Option ℚ) (reachable : Bool) :
    shown (t.updateItems qt id latencyMs reachable).rows = shown t.rows := by
  rw [updateItems_eq]
  obtain ⟨hshown, hcolumn⟩ := @shown_put qt t .latency (Or.inl rfl) hlatency id
    (measured latencyMs reachable).1 (measured latencyMs reachable).2.2
  rw [(shown_put (Or.inr rfl) (hcolumn ▸ hstatus) id _ _).1, hshown]

/-- What is displayed after an update, in terms of its row. -/
theorem shown_updateLatency_iff (qt : Sorting) (t : Table) (profileId : String)
    (latencyMs : Option ℚ) (reachable : Bool) :
    shown (t.updateLatency qt profileId latencyMs reachable).rows = shown t.rows ↔
      Undisturbed qt t (.updateLatency profileId latencyMs reachable) := by
  rw [Table.updateLatency, Undisturbed]
  simp only [← updateItems_eq]
  cases hfind : t.profiles.findIdx? fun profile => profile.profileId = profileId with
  | none => exact iff_of_true rfl fun _ i hi => by cases hi
  | some i =>
  simp only [Option.some.injEq, forall_eq']
  cases hrow : t.rows[i]? with
  | none => exact iff_of_true rfl fun _ row hrow' => by cases hrow'
  | some row =>
    simp only [Option.some.injEq, forall_eq']
    constructor
    · exact fun h _ => h
    · intro h
      by_cases hcolumn : t.sortColumn = .latency ∨ t.sortColumn = .status
      · exact h hcolumn
      · rw [not_or] at hcolumn
        exact shown_updateItems hcolumn.1 hcolumn.2 row.id latencyMs reachable

variable (qt) in
theorem changes_updateItems (t : Table) (id : ℕ) (latencyMs : Option ℚ) (reachable : Bool) :
    Changes id t (t.updateItems qt id latencyMs reachable) := by
  unfold Table.updateItems Table.setText Table.setForeground
  split
  · exact (((changes_change t id _ _).trans (changes_change _ id _ _)).trans
      (changes_change _ id _ _)).trans (changes_change _ id _ _)
  · exact (((changes_change t id _ _).trans (changes_change _ id _ _)).trans
      (changes_change _ id _ _)).trans (changes_change _ id _ _)

theorem Table.Sound.changes {id : ℕ} {t' : Table} (h : t.Sound) (hchanges : Changes id t t') :
    t'.Sound where
  length := by
    have hlength := hchanges.ids.length_eq
    rw [List.length_map, List.length_map] at hlength
    rw [hlength, h.length, hchanges.profiles]
  nodup := hchanges.ids.nodup_iff.mpr h.nodup
  enabled := hchanges.enabled.trans h.enabled

theorem shown_fill (profiles : List ServerProfile) :
    shown (Table.fill profiles) = profiles.map shownProfile := by
  have hshown : Row.shown ∘ (fun entry : ServerProfile × ℕ => Table.newRow entry.2 entry.1) =
      shownProfile ∘ Prod.fst := rfl
  unfold shown Table.fill
  rw [List.map_map, hshown, ← List.map_map, List.zipIdx_map_fst]

theorem ids_fill (profiles : List ServerProfile) :
    (Table.fill profiles).map Row.id = List.range profiles.length := by
  have hid : Row.id ∘ (fun entry : ServerProfile × ℕ => Table.newRow entry.2 entry.1) =
      Prod.snd := rfl
  unfold Table.fill
  rw [List.map_map, hid, List.zipIdx_map_snd, List.range_eq_range']

theorem sound_setProfiles (t : Table) (profiles : List ServerProfile) :
    (t.setProfiles qt profiles).Sound := by
  have hperm : (t.setProfiles qt profiles).rows.Perm (Table.fill profiles) :=
    qt.sort_perm t.sortColumn t.sortOrder (Table.fill profiles)
  have hids := (hperm.map Row.id).trans (List.Perm.of_eq (ids_fill profiles))
  refine ⟨?_, hids.nodup_iff.mpr List.nodup_range, rfl⟩
  have hlength := hids.length_eq
  rw [List.length_map, List.length_range] at hlength
  exact hlength

theorem Table.Sound.sortByColumn (h : t.Sound) (column : Column) (order : SortOrder) :
    (t.sortByColumn qt column order).Sound where
  length := (qt.sort_perm column order t.rows).length_eq.trans h.length
  nodup := ((qt.sort_perm column order t.rows).map Row.id).nodup_iff.mpr h.nodup
  enabled := h.enabled

/-- A table on which rows and profiles go together. -/
structure Table.Aligned (t : Table) : Prop where
  sound : t.Sound
  shown : shown t.rows = t.profiles.map shownProfile

theorem aligned_init (column : Column) (order : SortOrder) : (Table.init column order).Aligned where
  sound := ⟨rfl, List.nodup_nil, rfl⟩
  shown := rfl

theorem Table.Aligned.row (h : t.Aligned) {i : ℕ} {profile : ServerProfile} {row : Row}
    (hprofile : t.profiles[i]? = some profile) (hrow : t.rows[i]? = some row) :
    row.shown = shownProfile profile := by
  have hi := congrArg (fun texts => texts[i]?) h.shown
  simp only [ProfileTable.shown, List.getElem?_map, hprofile, hrow, Option.map_some] at hi
  exact Option.some.inj hi

variable (qt) in
theorem Table.Aligned.sound_updateLatency (h : t.Aligned) (profileId : String)
    (latencyMs : Option ℚ) (reachable : Bool) :
    (t.updateLatency qt profileId latencyMs reachable).Sound ∧
      (t.updateLatency qt profileId latencyMs reachable).profiles = t.profiles ∧
      t.OnlyRowOf profileId (t.updateLatency qt profileId latencyMs reachable) := by
  have hsame : t.OnlyRowOf profileId t := by
    intro row hrow row' hrow' hid hne
    exact absurd (List.inj_on_of_nodup_map h.sound.nodup hrow' hrow hid) hne
  unfold Table.updateLatency
  cases hfind : t.profiles.findIdx? fun profile => profile.profileId = profileId with
  | none => exact ⟨h.sound, rfl, hsame⟩
  | some i =>
  simp only
  cases hrow : t.rows[i]? with
  | none => exact ⟨h.sound, rfl, hsame⟩
  | some item =>
    have hchanges := changes_updateItems qt t item.id latencyMs reachable
    refine ⟨h.sound.changes hchanges, hchanges.profiles, fun row hmem row' hmem' hid hne => ?_⟩
    have hitem : row.id = item.id := by
      by_contra hother
      have hmem'' := hchanges.others row' hmem' (hid ▸ hother)
      exact hne (List.inj_on_of_nodup_map h.sound.nodup hmem'' hmem hid)
    have hrowItem : row = item :=
      List.inj_on_of_nodup_map h.sound.nodup hmem (List.mem_of_getElem? hrow) hitem
    have hi : i < t.profiles.length := by
      rw [← h.sound.length]
      exact (List.getElem?_eq_some_iff.mp hrow).1
    have hprofile := List.getElem?_eq_getElem hi
    refine ⟨t.profiles[i], ?_, ?_⟩
    · rw [List.find?_eq_bind_findIdx?_getElem?, hfind]
      exact hprofile
    · rw [hrowItem]
      exact h.row hprofile hrow

/-- In a table on which rows and profiles go together. -/
theorem Table.Aligned.proper_iff (h : t.Aligned) (operation : Operation) :
    Proper qt t operation ↔ Undisturbed qt t operation := by
  cases operation with
  | setProfiles profiles =>
    refine (and_iff_left trivial).trans ((sound_setProfiles t profiles).faithful_iff.trans ?_)
    rw [Undisturbed, shown_fill]
    rfl
  | sort column order =>
    refine (and_iff_left trivial).trans ((h.sound.sortByColumn column order).faithful_iff.trans ?_)
    rw [Undisturbed, h.shown]
    rfl
  | updateLatency profileId latencyMs reachable =>
    obtain ⟨hsound, hprofiles, honly⟩ :=
      h.sound_updateLatency qt profileId latencyMs reachable
    refine (and_iff_left honly).trans (hsound.faithful_iff.trans ?_)
    rw [← shown_updateLatency_iff, hprofiles, h.shown]

theorem Table.Aligned.step (h : t.Aligned) {operation : Operation}
    (hproper : Proper qt t operation) : (t.step qt operation).Aligned := by
  have hsound : (t.step qt operation).Sound := by
    cases operation with
    | setProfiles profiles => exact sound_setProfiles t profiles
    | sort column order => exact h.sound.sortByColumn column order
    | updateLatency profileId latencyMs reachable =>
      exact (h.sound_updateLatency qt profileId latencyMs reachable).1
  exact ⟨hsound, hsound.faithful_iff.mp hproper.1⟩

/-- **When the selected row is the profile.** -/
theorem proper_run_iff (qt : Sorting) (column : Column) (order : SortOrder)
    (operations : List Operation) :
    Each (Table.step qt) (Proper qt) (Table.init column order) operations ↔
      Each (Table.step qt) (Undisturbed qt) (Table.init column order) operations :=
  each_congr_of_invariant (I := Table.Aligned) (fun _ operation h => h.proper_iff operation)
    (fun _ _ h hproper => h.step hproper) (aligned_init column order) operations

/-- A sort by what is displayed leaves it only where it is in order already. -/
theorem ordered_of_shown {column : Column} (hcolumn : column = .remark ∨ column = .address)
    {order : SortOrder} {rows : List Row} (h : shown (qt.sort column order rows) = shown rows) :
    (rows.map fun row => (row.item column).text).Pairwise (InOrder qt.lessThan order) := by
  have htexts : (qt.sort column order rows).map (fun row => (row.item column).text) =
      rows.map fun row => (row.item column).text := by
    rcases hcolumn with rfl | rfl
    · have hfst := congrArg (List.map Prod.fst) h
      simp only [shown, List.map_map] at hfst
      exact hfst
    · have hsnd := congrArg (List.map Prod.snd) h
      simp only [shown, List.map_map] at hsnd
      exact hsnd
  rw [← htexts, List.pairwise_map]
  exact qt.sort_ordered column order rows

end Sound

/-! ## An example -/

def textLess (a b : String) : Bool := a < b

instance (order : SortOrder) : DecidableRel (InOrder textLess order) := fun a b =>
  match order with
  | .ascending => inferInstanceAs (Decidable (textLess b a = false))
  | .descending => inferInstanceAs (Decidable (textLess a b = false))

theorem inOrder_ascending {a b : String} : InOrder textLess .ascending a b ↔ a ≤ b :=
  decide_eq_false_iff_not.trans not_lt

theorem inOrder_descending {a b : String} : InOrder textLess .descending a b ↔ b ≤ a :=
  decide_eq_false_iff_not.trans not_lt

instance (column : Column) (order : SortOrder) :
    Std.Total fun a b : Row => InOrder textLess order (a.item column).text (b.item column).text where
  total a b := by
    cases order with
    | ascending =>
      rw [inOrder_ascending, inOrder_ascending]
      exact le_total (a.item column).text (b.item column).text
    | descending =>
      rw [inOrder_descending, inOrder_descending]
      exact le_total (b.item column).text (a.item column).text

instance (column : Column) (order : SortOrder) :
    IsTrans Row fun a b => InOrder textLess order (a.item column).text (b.item column).text where
  trans a b c hab hbc := by
    cases order with
    | ascending =>
      rw [inOrder_ascending] at hab hbc ⊢
      exact hab.trans hbc
    | descending =>
      rw [inOrder_descending] at hab hbc ⊢
      exact hbc.trans hab

/-- A stable sort. -/
def textSort (column : Column) (order : SortOrder) (rows : List Row) : List Row :=
  rows.insertionSort fun a b => InOrder textLess order (a.item column).text (b.item column).text

def textSorting : Sorting where
  lessThan := textLess
  sort := textSort
  ensureSorted column order _ rows := textSort column order rows
  sort_perm _ _ rows := List.perm_insertionSort _ rows
  ensureSorted_perm _ _ _ rows := List.perm_insertionSort _ rows
  sort_ordered _ _ rows := List.pairwise_insertionSort _ rows

def exampleProfile (remark : String) : ServerProfile where
  profileId := remark
  tag := remark
  remark := remark
  outboundConfig := Dict.empty
  addedAtIso := ""

/-- With the first column as the indicator, descending, the profiles `a` and `b` are displayed as
`b` and `a`, and selecting `b` gives `a`. -/
theorem ascending_not_proper :
    ¬Each (Table.step textSorting) (Proper textSorting) (Table.init .remark .descending)
      [.setProfiles [exampleProfile "a", exampleProfile "b"]] := by
  rintro ⟨⟨hfaithful, -⟩, -⟩
  have hrow : ((Table.init .remark .descending).step textSorting
      (.setProfiles [exampleProfile "a", exampleProfile "b"])).rows[0]? =
        some (Table.newRow 1 (exampleProfile "b")) := by decide
  obtain ⟨profile, hselected, hshown⟩ := hfaithful 0 _ hrow
  have hprofile : profile = exampleProfile "a" := Option.some.inj (hselected.symm.trans rfl)
  rw [hprofile] at hshown
  exact absurd hshown (by decide)

end Bimarz.Gui.ProfileTable
