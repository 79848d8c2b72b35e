import Mathlib.Data.List.Basic

/-!
# Directories

A directory is what a listing of it yields, in the order of the listing: files with their contents
and directories. Two directories hold the same if their files are, path by path, the same ones.
-/

/-- The entries of a directory, as they are listed. -/
inductive Directory (α : Type)
  | nil
  | file (name : String) (content : α) (rest : Directory α)
  | dir (name : String) (entries rest : Directory α)

namespace Directory

variable {α : Type}

/-- The components of a path. -/
abbrev Path := List String

/-- The names of the entries. -/
def names : Directory α → List String
  | nil => []
  | file name _ rest => name :: rest.names
  | dir name _ rest => name :: rest.names

/-- Every file below the directory, with its path from here. -/
def files : Directory α → List (Path × α)
  | nil => []
  | file name content rest => ([name], content) :: rest.files
  | dir name entries rest => (entries.files.map fun f => (name :: f.1, f.2)) ++ rest.files

def paths (d : Directory α) : List Path := d.files.map Prod.fst

theorem paths_file (name : String) (content : α) (rest : Directory α) :
    (file name content rest).paths = [name] :: rest.paths := rfl

theorem paths_dir (name : String) (entries rest : Directory α) :
    (dir name entries rest).paths = entries.paths.map (name :: ·) ++ rest.paths := by
  simp [paths, files]

/-- The directory of this name. -/
def child? (name : String) : Directory α → Option (Directory α)
  | nil => none
  | file _ _ rest => rest.child? name
  | dir name' entries rest => if name' = name then some entries else rest.child? name

/-- The entries whose names satisfy `p`. -/
def select (p : String → Bool) : Directory α → Directory α
  | nil => nil
  | file name content rest =>
    if p name then file name content (rest.select p) else rest.select p
  | dir name entries rest => if p name then dir name entries (rest.select p) else rest.select p

/-- The entries of both. -/
def append : Directory α → Directory α → Directory α
  | nil, d => d
  | file name content rest, d => file name content (rest.append d)
  | dir name entries rest, d => dir name entries (rest.append d)

/-- The names of files and directories at any depth. -/
def allNames : Directory α → List String
  | nil => []
  | file name _ rest => name :: rest.allNames
  | dir name entries rest => name :: entries.allNames ++ rest.allNames

theorem ne_nil_of_mem_paths {d : Directory α} {path : Path} (h : path ∈ d.paths) : path ≠ [] := by
  induction d with
  | nil => cases h
  | file name content rest ih =>
    rcases List.mem_cons.mp h with rfl | h
    · exact List.cons_ne_nil name []
    · exact ih h
  | dir name entries rest _ ih =>
    rw [paths_dir] at h
    rcases List.mem_append.mp h with h | h
    · obtain ⟨path, -, rfl⟩ := List.mem_map.mp h
      exact List.cons_ne_nil name path
    · exact ih h

/-- The same files. -/
def Same (d d' : Directory α) : Prop := d.files.Perm d'.files

theorem Same.refl (d : Directory α) : d.Same d := List.Perm.refl _

theorem Same.symm {d d' : Directory α} (h : d.Same d') : d'.Same d := List.Perm.symm h

theorem Same.trans {d d' d'' : Directory α} (h : d.Same d') (h' : d'.Same d'') : d.Same d'' :=
  List.Perm.trans h h'

theorem files_append (d d' : Directory α) : (d.append d').files = d.files ++ d'.files := by
  induction d with
  | nil => rfl
  | file name content rest ih => rw [append, files, ih, files, List.cons_append]
  | dir name entries rest _ ih => rw [append, files, ih, files, List.append_assoc]

theorem Same.append {d d' e e' : Directory α} (h : d.Same d') (h' : e.Same e') :
    (d.append e).Same (d'.append e') := by
  unfold Same
  rw [files_append, files_append]
  exact List.Perm.append h h'

/-- The entries of a listing are those files whose paths begin with their names. -/
theorem files_select (p : String → Bool) (d : Directory α) :
    (d.select p).files = d.files.filter fun f => f.1.head?.any p := by
  induction d with
  | nil => rfl
  | file name content rest ih =>
    rw [select, files]
    by_cases hp : p name = true
    · rw [if_pos hp, files, ih, List.filter_cons_of_pos (by simpa using hp)]
    · rw [if_neg hp, ih, List.filter_cons_of_neg (by simpa using hp)]
  | dir name entries rest _ ih =>
    rw [select, files, List.filter_append]
    by_cases hp : p name = true
    · have hall : (entries.files.map fun f => (name :: f.1, f.2)).filter
          (fun f => f.1.head?.any p) = entries.files.map fun f => (name :: f.1, f.2) := by
        refine List.filter_eq_self.mpr fun f hf => ?_
        obtain ⟨f, -, rfl⟩ := List.mem_map.mp hf
        simpa using hp
      rw [if_pos hp, files, ih, hall]
    · have hnone : (entries.files.map fun f => (name :: f.1, f.2)).filter
          (fun f => f.1.head?.any p) = [] := by
        refine List.filter_eq_nil_iff.mpr fun f hf => ?_
        obtain ⟨f, -, rfl⟩ := List.mem_map.mp hf
        simpa using hp
      rw [if_neg hp, ih, hnone, List.nil_append]

theorem Same.select {d d' : Directory α} (h : d.Same d') (p : String → Bool) :
    (d.select p).Same (d'.select p) := by
  unfold Same
  rw [files_select, files_select]
  exact List.Perm.filter _ h

end Directory
