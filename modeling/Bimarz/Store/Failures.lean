import Bimarz.Store.Profiles

/-!
# A write that fails

What a call of a store leaves behind when a system call of its write fails. A failure up to the
replacement of the file changes nothing; one after it is raised although the update is stored.
-/

namespace Bimarz.Store

open Effect Effect.Act

variable {κ φ : Type}

/-- The map of a store; before the first write it is empty. -/
def Ideal.profiles : Ideal φ → Dict String (Profile φ)
  | none => Dict.empty
  | some created => created.profiles

/-- The map that a call leaves. -/
def Call.updated (profiles : Dict String (Profile φ)) (call : Call φ) :
    Dict String (Profile φ) := (call.onMap profiles).2.getD profiles

/-- The call gives `list_profiles` something else to return. -/
def Call.Changes (profiles : Dict String (Profile φ)) : Call φ → Prop
  | .add profile => profiles.get? profile.profileId ≠ some profile
  | .remove profileId => (profiles.get? profileId).isSome = true
  | .get _ => False
  | .list => False

/-- What `list_profiles` returns of a map. -/
def listing (profiles : Dict String (Profile φ)) : List (Record φ) :=
  profiles.values.map Profile.record

/-- The call either raises, and a later `list_profiles` returns what it would have returned before,
or it returns, and a later `list_profiles` returns the updated map. -/
def FailureChangesNothing (lib : Library κ φ) (store : ProfileStore) (env later : Env) (d : Disk)
    (call : Call φ) (profiles : Dict String (Profile φ)) : Prop :=
  let run := call.run lib store env d
  let before := (listProfiles lib store later d).1
  let after := (listProfiles lib store later run.2).1
  (∀ e, run.1 = .error e → after = before) ∧
    ∀ answer, run.1 = .ok answer → after = .ok (listing (call.updated profiles))

theorem listing_updated_iff {profiles : Dict String (Profile φ)} {call : Call φ} :
    listing (call.updated profiles) = listing profiles ↔ ¬call.Changes profiles := by
  have hvalues : ∀ profiles' : Dict String (Profile φ),
      listing profiles' = listing profiles ↔ profiles'.values = profiles.values :=
    fun _ => List.map_inj_right fun _ _ heq => record_injective heq
  rw [hvalues]
  cases call with
  | add profile => exact Dict.values_set_iff.trans not_not.symm
  | remove profileId =>
    simp only [Call.updated, Call.onMap, Call.Changes]
    cases hget : profiles.get? profileId with
    | none => exact iff_of_true rfl Bool.false_ne_true
    | some profile => exact iff_of_false (Dict.values_erase_ne hget) (not_not.mpr rfl)
  | get profileId =>
    simp only [Call.updated, Call.onMap, Call.Changes]
    cases profiles.get? profileId with
    | none => exact iff_of_true rfl not_false
    | some profile => exact iff_of_true rfl not_false
  | list => exact iff_of_true rfl not_false

section Runs

variable {lib : Library κ φ} {store : ProfileStore} {env later : Env} {d : Disk}
  {ideal : Ideal φ}

/-- The right password: any one before the first write. -/
def RightPassword (store : ProfileStore) (ideal : Ideal φ) : Prop :=
  ∀ created ∈ ideal, store.password = created.password

/-- The salt and the map that the right password reads. -/
theorem read_right (h : lib.Lawful) (hd : Holds lib store.name ideal d)
    (hpassword : RightPassword store ideal) (hread : env.fault .read = none) :
    ∃ salt, readEncryptedState lib store env d =
      (.ok (saltText salt, stored ideal.profiles), d) := by
  cases ideal with
  | none => exact ⟨env.salt, readEncryptedState_absent lib store env hd⟩
  | some created => exact ⟨created.salt, read_same h hread hd (hpassword created rfl)⟩

theorem list_right (h : lib.Lawful) (hd : Holds lib store.name ideal d)
    (hpassword : RightPassword store ideal) (hlater : later.fault .read = none) :
    (listProfiles lib store later d).1 = .ok (listing ideal.profiles) := by
  obtain ⟨salt, hread⟩ := read_right h hd hpassword hlater
  unfold listProfiles
  rw [bind_ok hread]
  simp only [stored, Dict.values_map, mapM_serverProfile]
  rfl

/-- How a call with the right password ends. -/
inductive Ending (lib : Library κ φ) (store : ProfileStore) (env : Env) (d : Disk)
    (profiles : Dict String (Profile φ)) (call : Call φ) : Prop
  /-- nothing is written -/
  | idle (answer : Except StoreExc (Answer φ)) (hrun : call.run lib store env d = (answer, d))
    (hsame : call.updated profiles = profiles) (hchanges : ¬call.Changes profiles)
  /-- the write failed before the replacement -/
  | kept (e : StoreExc) (d' : Disk) (hrun : call.run lib store env d = (.error e, d'))
    (hfile : d'.files store.name = d.files store.name)
    (hreaches : ¬ReachesReplace env store.name d.files)
  /-- the write failed after the replacement -/
  | late (e : StoreExc) (d' : Disk) (hrun : call.run lib store env d = (.error e, d'))
    (salt : Bytes)
    (hholds : Holds lib store.name (some ⟨store.password, salt, call.updated profiles⟩) d')
    (hreaches : ReachesReplace env store.name d.files) (hraises : RaisesLate env)
  | done (answer : Answer φ) (d' : Disk) (hrun : call.run lib store env d = (.ok answer, d'))
    (salt : Bytes)
    (hholds : Holds lib store.name (some ⟨store.password, salt, call.updated profiles⟩) d')
    (hraises : ¬RaisesLate env)

theorem ending (h : lib.Lawful) (hd : Holds lib store.name ideal d)
    (hpassword : RightPassword store ideal) (hread : env.fault .read = none) (call : Call φ) :
    Ending lib store env d ideal.profiles call := by
  obtain ⟨salt, hstate⟩ := read_right h hd hpassword hread
  have hrun := run_of_read hstate call
  rcases hmap : call.onMap ideal.profiles with ⟨answer, _ | profiles'⟩
  · rw [hmap] at hrun
    have hsame : call.updated ideal.profiles = ideal.profiles := by
      unfold Call.updated
      rw [hmap]
      rfl
    exact .idle answer hrun hsame (listing_updated_iff.mp (congrArg listing hsame))
  · rw [hmap] at hrun
    have hupdated : call.updated ideal.profiles = profiles' := by
      unfold Call.updated
      rw [hmap]
      rfl
    have hanswer := onMap_writes hmap
    subst hanswer hupdated
    have hwrite := writeFile_triple env ⟨store.name,
      fileOf lib store.password salt env.nonce (call.updated ideal.profiles), d.files, d.history⟩
    rcases hr : writeFile env store.name
      (fileOf lib store.password salt env.nonce (call.updated ideal.profiles)) d with ⟨e | _, d'⟩
    · have hrun' := hrun.trans (bind_error (mapError_error hr))
      rcases (hwrite.of_error rfl hr).1 with ⟨hkept, hreaches⟩ | ⟨hreplaced, hreaches, hraises⟩
      · exact .kept _ d' hrun' hkept.now hreaches
      · exact .late _ d' hrun' salt ⟨env.nonce, hreplaced.now⟩ hreaches hraises
    · have hrun' := hrun.trans (bind_ok (mapError_ok hr))
      obtain ⟨hafter, hraises⟩ := hwrite.of_ok rfl hr
      exact .done _ d' hrun' salt ⟨env.nonce, hafter.replaced.now⟩ hraises

/-- The file of a map says what is listed. -/
theorem list_updated (h : lib.Lawful) {d' : Disk} {salt : Bytes}
    {profiles : Dict String (Profile φ)}
    (hholds : Holds lib store.name (some ⟨store.password, salt, profiles⟩) d')
    (hlater : later.fault .read = none) :
    (listProfiles lib store later d').1 = .ok (listing profiles) := by
  apply list_right h hholds _ hlater
  rintro created ⟨⟩
  rfl

theorem Holds.congr {d' : Disk} (hd : Holds lib store.name ideal d)
    (hfile : d'.files store.name = d.files store.name) : Holds lib store.name ideal d' := by
  cases ideal with
  | none => exact hfile.trans hd
  | some created =>
    obtain ⟨nonce, hcontent⟩ := hd
    exact ⟨nonce, hfile.trans hcontent⟩

/-- A failure after the replacement shows. -/
theorem late_failure (h : lib.Lawful) (hd : Holds lib store.name ideal d)
    (hpassword : RightPassword store ideal) (hread : env.fault .read = none)
    (hlater : later.fault .read = none) {call : Call φ}
    (hreaches : ReachesReplace env store.name d.files) (hraises : RaisesLate env)
    (hchanges : call.Changes ideal.profiles) :
    ¬FailureChangesNothing lib store env later d call ideal.profiles := by
  unfold FailureChangesNothing
  cases ending h hd hpassword hread call with
  | idle answer hrun hsame hunchanged => exact absurd hchanges hunchanged
  | kept e d' hrun hfile hnot => exact absurd hreaches hnot
  | late e d' hrun salt hholds _ _ =>
    have hafter := list_updated h hholds hlater
    rw [hrun]
    rintro ⟨hsame, -⟩
    have heq := (hafter.symm.trans (hsame e rfl)).trans (list_right h hd hpassword hlater)
    exact listing_updated_iff.mp (Except.ok.inj heq) hchanges
  | done answer d' hrun salt hholds hnot => exact absurd hraises hnot

/-- A failed write changes nothing, except where a step after the replacement fails in a call that
changes the listing. -/
theorem failed_write_iff (h : lib.Lawful) (hd : Holds lib store.name ideal d)
    (hpassword : RightPassword store ideal) (hread : env.fault .read = none)
    (hlater : later.fault .read = none) (call : Call φ) :
    FailureChangesNothing lib store env later d call ideal.profiles ↔
      ¬(ReachesReplace env store.name d.files ∧ RaisesLate env ∧ call.Changes ideal.profiles) := by
  refine ⟨fun hnothing hall => late_failure h hd hpassword hread hlater hall.1 hall.2.1 hall.2.2
    hnothing, fun hnot => ?_⟩
  have hbefore := list_right h hd hpassword hlater
  unfold FailureChangesNothing
  cases ending h hd hpassword hread call with
  | idle answer hrun hsame hchanges =>
    rw [hrun]
    refine ⟨fun _ _ => rfl, fun _ _ => ?_⟩
    rw [hsame]
    exact hbefore
  | kept e d' hrun hfile hreaches =>
    rw [hrun]
    refine ⟨fun _ _ => ?_, fun _ hanswer => ?_⟩
    · exact (list_right h (hd.congr hfile) hpassword hlater).trans hbefore.symm
    · cases hanswer
  | late e d' hrun salt hholds hreaches hraises =>
    have hunchanged : ¬call.Changes ideal.profiles := fun hchanges =>
      hnot ⟨hreaches, hraises, hchanges⟩
    rw [hrun]
    refine ⟨fun _ _ => ?_, fun _ hanswer => ?_⟩
    · rw [list_updated h hholds hlater, hbefore, listing_updated_iff.mpr hunchanged]
    · cases hanswer
  | done answer d' hrun salt hholds hraises =>
    rw [hrun]
    refine ⟨fun _ herror => ?_, fun _ _ => list_updated h hholds hlater⟩
    cases herror

end Runs

/-! ## An example -/

/-- A disk on which one system call fails. -/
def failingAt (failing : Syscall) : Env :=
  { calm [] with
    fault := fun call => if call = failing then some (.error .osError "I/O error") else none
    osErrors := by
      intro call _ e he _
      split at he
      · cases he
        rfl
      · cases he }

/-- A disk on which the directory cannot be synced. -/
def unsynced : Env := failingAt .fsyncDirectory

/-- A store without profiles. -/
def emptyStore : Created Empty := ⟨"right", [1], Dict.empty⟩

def storeDisk : Disk :=
  ⟨put "profiles.json" (some (fileOf plain "right" [1] [] Dict.empty)) fun _ => none, []⟩

theorem right_ne_empty : "right" ≠ "" := by decide

def homeStore : ProfileStore := ⟨"profiles.json", "right", right_ne_empty⟩

theorem storeDisk_holds : Holds plain "profiles.json" (some emptyStore) storeDisk := ⟨[], rfl⟩

theorem homeStore_right : RightPassword homeStore (some emptyStore) := by
  rintro created ⟨⟩
  rfl

theorem unsynced_reaches : ReachesReplace unsynced "profiles.json" storeDisk.files := by
  refine ⟨?_, rfl⟩
  simp only [earlyCalls, List.forall_mem_cons]
  exact ⟨rfl, rfl, rfl, rfl, rfl, rfl, rfl, rfl, rfl, by simp⟩

theorem unsynced_raises : RaisesLate unsynced :=
  RaisesLate.of_call (show Syscall.fsyncDirectory ∈ lateCalls by decide) rfl

/-- The profile is stored, and the call raises. -/
theorem failed_write_unsynced :
    Holds plain "profiles.json" (some emptyStore) storeDisk ∧
      ¬FailureChangesNothing plain homeStore unsynced (calm []) storeDisk (.add homeProfile)
        Dict.empty := by
  refine ⟨storeDisk_holds, ?_⟩
  apply late_failure plain_lawful storeDisk_holds homeStore_right rfl rfl unsynced_reaches
    unsynced_raises
  exact Option.some_ne_none homeProfile ∘ Eq.symm

/-- Where the replacement fails the listing is what it was. -/
theorem failed_write_unreplaced :
    FailureChangesNothing plain homeStore (failingAt .replace) (calm []) storeDisk
      (.add homeProfile) Dict.empty := by
  apply (failed_write_iff plain_lawful storeDisk_holds homeStore_right rfl rfl _).mpr
  rintro ⟨hreaches, -⟩
  exact not_reachesReplace ⟨.replace, by decide, Option.some_ne_none _⟩ hreaches

end Bimarz.Store
