import Bimarz.Build.Tree

/-!
# Names in the module tree

When the text that is generated declares its modules under legal names, each of them once.
-/

namespace Bimarz.Build

open Rust (readModules LegalModuleName)

/-- The segments of generated files, and the beginnings of their stems. -/
def Beginning (names : List String) (path : List String) : Prop :=
  ∃ name ∈ names, isRs name = true ∧ path <+: segments name

/-- Two segments in one package. -/
def Siblings (names : List String) (segment segment' : String) : Prop :=
  segment ≠ segment' ∧
    ∃ package, Beginning names (package ++ [segment]) ∧ Beginning names (package ++ [segment'])

/-- What the names in a text are for: the compiler takes each of them, and no module is declared
twice. -/
def WellNamed (names : List String) (text : List Char) : Prop :=
  ∃ tree, readModules text = some tree ∧
    (∀ path ∈ tree.paths, ∀ name ∈ path, LegalModuleName name) ∧
    (∀ segment segment', Siblings names segment segment' →
      safeIdent segment ≠ safeIdent segment') ∧
    tree.paths.Nodup

/-- The text for these files is written, and it is well named. -/
def Generates (ε : Type) (printable : Char → Bool) (genDir : String) (names : List String) : Prop :=
  ∃ text count, generateModuleTree printable genDir (.ok (names.map .ok) : Except ε _) =
    .ok (text, count) ∧ WellNamed names text

/-! ## Names of paths -/

theorem Beginning.of_prefix {names : List String} {path path' : List String}
    (h : Beginning names path) (hbeginning : path' <+: path) : Beginning names path' := by
  obtain ⟨name, hname, hrs, hpath⟩ := h
  exact ⟨name, hname, hrs, hbeginning.trans hpath⟩

/-- Where siblings get different names, so do all packages. -/
theorem eq_of_map_safeIdent {names : List String}
    (hdistinct : ∀ segment segment', Siblings names segment segment' →
      safeIdent segment ≠ safeIdent segment')
    {path path' : List String} (hpath : Beginning names path) (hpath' : Beginning names path')
    (h : path.map safeIdent = path'.map safeIdent) : path = path' := by
  induction path using List.reverseRecOn generalizing path' with
  | nil => exact (List.map_eq_nil_iff.mp h.symm).symm
  | append_singleton package segment ih =>
    rw [List.map_append, List.map_singleton] at h
    obtain ⟨package', last, rfl, hpackage, hlast⟩ := List.map_eq_append_iff.mp h.symm
    obtain ⟨segment', rfl, hname⟩ := List.map_eq_singleton_iff.mp hlast
    obtain rfl : package = package' :=
      ih (hpath.of_prefix (List.prefix_append _ _)) (hpath'.of_prefix (List.prefix_append _ _))
        hpackage.symm
    by_contra hne
    have hsegment : segment ≠ segment' := fun heq => hne (heq ▸ rfl)
    exact hdistinct segment segment' ⟨hsegment, package, hpath, hpath'⟩ hname.symm

theorem mem_paths_iff (genDir : String) (names : List String) (path : List String) :
    path ∈ (Trie.ofList (generated genDir names)).paths ↔ path ≠ [] ∧ Beginning names path :=
  mem_paths_generated genDir names path

/-- Every segment is in the path of a module. -/
theorem legal_iff (genDir : String) (names : List String) :
    (∀ path ∈ ((Trie.ofList (generated genDir names)).mapKeys safeIdent).paths, ∀ name ∈ path,
        LegalModuleName name) ↔
      ∀ name ∈ names, isRs name = true → ∀ segment ∈ segments name,
        segment ≠ "abstract" ∧ ¬Blank segment := by
  simp only [Trie.paths_mapKeys, List.forall_mem_map, legal_safeIdent_iff, mem_paths_iff]
  constructor
  · intro h name hname hrs
    exact h (segments name) ⟨segments_ne_nil name, name, hname, hrs, List.prefix_rfl⟩
  · rintro h path ⟨-, name, hname, hrs, hbeginning⟩ segment hsegment
    exact h name hname hrs segment (hbeginning.subset hsegment)

/-- The names of the text in terms of the segments. -/
theorem generates_iff (ε : Type) (printable : Char → Bool) (genDir : String) (names : List String) :
    Generates ε printable genDir names ↔
      (∀ name ∈ names, isRs name = true → ∀ segment ∈ segments name,
          segment ≠ "abstract" ∧ ¬Blank segment) ∧
        ∀ segment segment', Siblings names segment segment' →
          safeIdent segment ≠ safeIdent segment' := by
  rw [← legal_iff genDir]
  constructor
  · rintro ⟨text, count, htext, tree, htree, hlegal, hdistinct, -⟩
    rw [generateModuleTree_ok] at htext
    obtain ⟨rfl, -⟩ := Prod.mk.inj (Except.ok.inj htext)
    rw [readModules_emitTree] at htree
    obtain rfl := Option.some.inj htree
    exact ⟨hlegal, hdistinct⟩
  · rintro ⟨hlegal, hdistinct⟩
    refine ⟨_, _, generateModuleTree_ok printable genDir names, _, readModules_emitTree _ _, hlegal,
      hdistinct, ?_⟩
    rw [Trie.paths_mapKeys]
    refine (Trie.paths_nodup (Trie.sorted_ofList _)).map_on fun path hpath path' hpath' h => ?_
    rw [mem_paths_iff] at hpath hpath'
    exact eq_of_map_safeIdent hdistinct hpath.2 hpath'.2 h

/-! ## Legal and distinct names -/

/-- **Names of modules.** They are legal and distinct when no segment is `abstract`, empty or a
single character other than a letter, and no two segments of a package differ in replaced
characters and underscores only. -/
theorem names_legal_and_distinct_iff (ε : Type) (printable : Char → Bool) (genDir : String)
    (names : List String) :
    Generates ε printable genDir names ↔
      (∀ name ∈ names, isRs name = true → ∀ segment ∈ segments name,
          segment ≠ "abstract" ∧ ¬Blank segment) ∧
        ∀ segment segment', Siblings names segment segment' → ¬Clash segment segment' := by
  rw [generates_iff]
  refine and_congr_right fun hlegal => forall₂_congr fun segment segment' => ?_
  refine imp_congr_right fun hsiblings => not_congr ?_
  have hblank : ∀ segment package, Beginning names (package ++ [segment]) → ¬Blank segment := by
    rintro segment package ⟨name, hname, hrs, hbeginning⟩
    exact (hlegal name hname hrs segment (hbeginning.subset (by simp))).2
  obtain ⟨-, package, hsegment, hsegment'⟩ := hsiblings
  exact safeIdent_eq_iff (hblank segment package hsegment) (hblank segment' package hsegment')

/-- `pub mod abstract`. -/
theorem abstract_not_legal :
    ¬Generates Empty (fun _ => true) "gen" ["xray.core.rs", "xray.abstract.rs"] := by
  rw [generates_iff]
  rintro ⟨hlegal, -⟩
  exact (hlegal "xray.abstract.rs" (by decide) (by decide) "abstract" (by decide)).1 rfl

end Bimarz.Build
