import Bimarz.Effect.Run
import Bimarz.Store.Plain
import Bimarz.Store.Write
import Mathlib.Data.List.Find

/-!
# The operations of the profile store

The four operations of `ProfileStore`, and what they are for: `Ideal` is the ordered map with the
password and the salt of the call that created it. `Holds` says which file stands for which map,
and `serve_step` that one call on the file does what it does on the map.
-/

namespace Bimarz.Store

open Effect Effect.Act

variable {κ φ : Type}

/-! ## The code -/

section Methods

variable (lib : Library κ φ) (store : ProfileStore) (env : Env)

/-- What the `except` clauses make of a failure of the read: a `json.JSONDecodeError` is a
`ValueError`. -/
def invalid : Exc → StoreExc
  | .error .keyError _ => invalidData
  | .error .typeError _ => invalidData
  | .error .valueError _ => invalidData
  | e => .raised e

/-- `_read_encrypted_state`. -/
def readEncryptedState : Act StoreExc Disk (String × Dict String (Json.Value φ)) := do
  match ← reads fun d => d.files store.name with
  | none => return (saltText env.salt, Dict.empty)
  | some content => do
    mapError invalid (syscall env .read)
    ofExcept (readState lib store.password content)

def listProfiles : Act StoreExc Disk (List (Record φ)) := do
  let (_, profiles) ← readEncryptedState lib store env
  ofExcept (profiles.values.mapM serverProfile)

def getProfile (profileId : String) : Act StoreExc Disk (Record φ) := do
  let (_, profiles) ← readEncryptedState lib store env
  match profiles.get? profileId with
  | none => raise (noProfile profileId)
  | some data => ofExcept (serverProfile data)

def addProfile (profile : Profile φ) : Act StoreExc Disk Unit := do
  let (salt, profiles) ← readEncryptedState lib store env
  writeEncryptedState lib store env salt (profiles.set profile.profileId profile.asdict)

def removeProfile (profileId : String) : Act StoreExc Disk Unit := do
  let (salt, profiles) ← readEncryptedState lib store env
  match profiles.get? profileId with
  | none => raise (noProfile profileId)
  | some _ => writeEncryptedState lib store env salt (profiles.erase profileId)

end Methods

/-- The calls of a store. -/
inductive Call (φ : Type)
  | add (profile : Profile φ)
  | remove (profileId : String)
  | get (profileId : String)
  | list

/-- What they return. -/
inductive Answer (φ : Type)
  | done
  | profile (record : Record φ)
  | profiles (records : List (Record φ))

def Call.run (lib : Library κ φ) (store : ProfileStore) (env : Env) :
    Call φ → Act StoreExc Disk (Answer φ)
  | .add profile => do
    addProfile lib store env profile
    return .done
  | .remove profileId => do
    removeProfile lib store env profileId
    return .done
  | .get profileId => do return .profile (← getProfile lib store env profileId)
  | .list => do return .profiles (← listProfiles lib store env)

/-! ## The ordered map -/

/-- A call on a map: its outcome, and the map it leaves if it changes it. -/
def Call.onMap (profiles : Dict String (Profile φ)) :
    Call φ → Except StoreExc (Answer φ) × Option (Dict String (Profile φ))
  | .add profile => (.ok .done, some (profiles.set profile.profileId profile))
  | .remove profileId =>
    match profiles.get? profileId with
    | none => (.error (noProfile profileId), none)
    | some _ => (.ok .done, some (profiles.erase profileId))
  | .get profileId =>
    match profiles.get? profileId with
    | none => (.error (noProfile profileId), none)
    | some profile => (.ok (.profile profile.record), none)
  | .list => (.ok (.profiles (profiles.values.map Profile.record)), none)

/-- A map with the password and the salt of its first write. -/
structure Created (φ : Type) where
  password : String
  salt : Bytes
  profiles : Dict String (Profile φ)

/-- The map of a store, once it has been created. -/
abbrev Ideal (φ : Type) := Option (Created φ)

/-- A call on some `ProfileStore` of the file. -/
structure Request (φ : Type) where
  password : String
  nonempty : password ≠ ""
  call : Call φ
  env : Env

/-- Before the first write every password serves, and the first write decides it. -/
def Ideal.step (ideal : Ideal φ) (request : Request φ) :
    Except StoreExc (Answer φ) × Ideal φ :=
  match ideal with
  | none =>
    match request.call.onMap Dict.empty with
    | (answer, none) => (answer, none)
    | (answer, some profiles) => (answer, some ⟨request.password, request.env.salt, profiles⟩)
  | some created =>
    if request.password = created.password then
      match request.call.onMap created.profiles with
      | (answer, none) => (answer, some created)
      | (answer, some profiles) => (answer, some { created with profiles := profiles })
    else (.error notDecrypted, some created)

/-- A call on the disk. -/
def serve (lib : Library κ φ) (name : String) (d : Disk) (request : Request φ) :
    Except StoreExc (Answer φ) × Disk :=
  request.call.run lib ⟨name, request.password, request.nonempty⟩ request.env d

/-- The file of a map. -/
def Holds (lib : Library κ φ) (name : String) (ideal : Ideal φ) (d : Disk) : Prop :=
  match ideal with
  | none => d.files name = none
  | some created => ∃ nonce,
    d.files name = some (fileOf lib created.password created.salt nonce created.profiles)

/-! ## Reading -/

section Reading

variable {lib : Library κ φ} {store : ProfileStore} {env : Env} {d : Disk}

variable (lib store env) in
theorem readEncryptedState_absent (h : d.files store.name = none) :
    readEncryptedState lib store env d = (.ok (saltText env.salt, Dict.empty), d) := by
  unfold readEncryptedState
  rw [reads_bind_apply, h]
  rfl

theorem readEncryptedState_present (hread : env.fault .read = none) {content : Bytes}
    (h : d.files store.name = some content) :
    readEncryptedState lib store env d = (readState lib store.password content, d) := by
  unfold readEncryptedState
  rw [reads_bind_apply, h]
  have hcall : mapError invalid (syscall env .read) d = (.ok (), d) := by
    unfold syscall
    rw [hread]
    rfl
  show (mapError invalid (syscall env .read) >>= _) d = _
  rw [bind_ok hcall]
  rfl

theorem readEncryptedState_fault {e : Exc} (hread : env.fault .read = some e) {content : Bytes}
    (h : d.files store.name = some content) :
    readEncryptedState lib store env d = (.error (invalid e), d) := by
  unfold readEncryptedState
  rw [reads_bind_apply, h]
  have hcall : mapError invalid (syscall env .read) d = (.error (invalid e), d) := by
    unfold syscall
    rw [hread]
    rfl
  exact bind_error hcall

/-- The password that created the file reads the map. -/
theorem read_same (h : lib.Lawful) (hread : env.fault .read = none) {created : Created φ}
    (hd : Holds lib store.name (some created) d) (hpassword : store.password = created.password) :
    readEncryptedState lib store env d =
      (.ok (saltText created.salt, stored created.profiles), d) := by
  obtain ⟨nonce, hfile⟩ := hd
  rw [readEncryptedState_present hread hfile, hpassword, readState_same h]

variable (store) in
/-- Another password does not. -/
theorem read_other (h : lib.Lawful) (hread : env.fault .read = none) {created : Created φ}
    (hd : Holds lib store.name (some created) d) (hpassword : store.password ≠ created.password) :
    readEncryptedState lib store env d = (.error notDecrypted, d) := by
  obtain ⟨nonce, hfile⟩ := hd
  rw [readEncryptedState_present hread hfile, readState_other h hpassword]

end Reading

/-! ## One call -/

section Running

variable {lib : Library κ φ} {store : ProfileStore} {env : Env} {d : Disk}

theorem mapM_serverProfile (profiles : List (Profile φ)) :
    (profiles.map Profile.asdict).mapM serverProfile = .ok (profiles.map Profile.record) := by
  induction profiles with
  | nil => rfl
  | cons profile profiles ih =>
    rw [List.map_cons, List.mapM_cons, serverProfile_asdict, ok_bind, ih, ok_bind, List.map_cons]
    rfl

theorem stored_get? (profiles : Dict String (Profile φ)) (profileId : String) :
    (stored profiles).get? profileId = (profiles.get? profileId).map Profile.asdict :=
  Dict.get?_map _ _ _

/-- A call that writes returns nothing. -/
theorem onMap_writes {call : Call φ} {profiles profiles' : Dict String (Profile φ)}
    {answer : Except StoreExc (Answer φ)} (h : call.onMap profiles = (answer, some profiles')) :
    answer = .ok .done := by
  cases call with
  | add profile => exact (congrArg Prod.fst h).symm
  | remove profileId =>
    simp only [Call.onMap] at h
    split at h
    · cases h
    · exact (congrArg Prod.fst h).symm
  | get profileId =>
    simp only [Call.onMap] at h
    split at h <;> cases h
  | list => cases h

/-- No call goes on after a failing read. -/
theorem run_of_read_error {e : StoreExc}
    (hread : readEncryptedState lib store env d = (.error e, d)) (call : Call φ) :
    call.run lib store env d = (.error e, d) := by
  cases call with
  | add profile => exact bind_error (bind_error hread)
  | remove profileId => exact bind_error (bind_error hread)
  | get profileId => exact bind_error (bind_error hread)
  | list => exact bind_error (bind_error hread)

theorem writeEncryptedState_stored (salt : Bytes) (profiles : Dict String (Profile φ)) :
    writeEncryptedState lib store env (saltText salt) (stored profiles) =
      mapError .raised
        (writeFile env store.name (fileOf lib store.password salt env.nonce profiles)) := by
  unfold writeEncryptedState
  rw [payload_stored]
  rfl

/-- A call on the map that was read: it writes the map that it leaves. -/
theorem run_of_read {salt : Bytes} {profiles : Dict String (Profile φ)}
    (hread : readEncryptedState lib store env d = (.ok (saltText salt, stored profiles), d))
    (call : Call φ) :
    call.run lib store env d =
      match call.onMap profiles with
      | (answer, none) => (answer, d)
      | (answer, some profiles') => (mapError .raised (writeFile env store.name
          (fileOf lib store.password salt env.nonce profiles')) >>= fun _ => ofExcept answer) d := by
  cases call with
  | add profile =>
    show ((readEncryptedState lib store env >>= _) >>= _) d = _
    rw [bind_bind, bind_ok hread]
    simp only [stored, ← Dict.map_set]
    rw [← stored, writeEncryptedState_stored]
    rfl
  | remove profileId =>
    show ((readEncryptedState lib store env >>= _) >>= _) d = _
    rw [bind_bind, bind_ok hread]
    simp only [stored_get?, Call.onMap]
    cases hget : profiles.get? profileId with
    | none => rfl
    | some profile =>
      simp only [Option.map_some, stored, ← Dict.map_erase]
      rw [← stored, writeEncryptedState_stored]
      rfl
  | get profileId =>
    show ((readEncryptedState lib store env >>= _) >>= _) d = _
    rw [bind_bind, bind_ok hread]
    simp only [stored_get?, Call.onMap]
    cases hget : profiles.get? profileId with
    | none => rfl
    | some profile => rfl
  | list =>
    show ((readEncryptedState lib store env >>= _) >>= _) d = _
    rw [bind_bind, bind_ok hread]
    simp only [stored, Dict.values_map, mapM_serverProfile, Call.onMap]
    rfl

end Running

/-! ## Calls without a failure -/

/-- No system call fails, and a temporary name is free. -/
structure Env.Works (env : Env) (name : String) (files : Files) : Prop where
  fault : ∀ call, env.fault call = none
  free : (freeName env name files).isSome = true

theorem freeName_congr (env : Env) {name : String} {files files' : Files}
    (h : ∀ other, other ≠ name → files other = files' other) :
    freeName env name files = freeName env name files' := by
  unfold freeName
  apply List.find?_congr
  intro temp htemp
  obtain ⟨candidate, -, rfl⟩ := List.mem_map.mp htemp
  rw [h _ (tempName_ne name candidate)]

theorem Env.Works.congr {env : Env} {name : String} {files files' : Files}
    (hworks : env.Works name files) (h : ∀ other, other ≠ name → files' other = files other) :
    env.Works name files' := by
  refine ⟨hworks.fault, ?_⟩
  rw [freeName_congr env h]
  exact hworks.free

section Working

variable {lib : Library κ φ} {env : Env} {name : String} {d : Disk}

theorem writeFile_works (hworks : env.Works name d.files) (content : Bytes) :
    ∃ d', writeFile env name content d = (.ok (), d') ∧ d'.files name = some content ∧
      ∀ other, other ≠ name → d'.files other = d.files other := by
  have hwrite := writeFile_triple env ⟨name, content, d.files, d.history⟩
  rcases hr : writeFile env name content d with ⟨e | _, d'⟩
  · exfalso
    have hlate : ¬RaisesLate env := by
      rintro (⟨call, -, hfault⟩ | ⟨e, hfault, -⟩)
      · exact hfault (hworks.fault call)
      · rw [hworks.fault] at hfault
        cases hfault
    rcases (hwrite.of_error rfl hr).1 with ⟨-, hnot⟩ | ⟨-, -, hraises⟩
    · exact hnot ⟨fun call _ => hworks.fault call, hworks.free⟩
    · exact hlate hraises
  · have hafter := (hwrite.of_ok rfl hr).1
    exact ⟨d', rfl, hafter.replaced.now, hafter.clean⟩

/-- What one call does: to the map, to the other files, and nothing if it does not write. -/
structure Served (lib : Library κ φ) (name : String) (ideal : Ideal φ) (d : Disk)
    (request : Request φ) : Prop where
  answer : (serve lib name d request).1 = (ideal.step request).1
  holds : Holds lib name (ideal.step request).2 (serve lib name d request).2
  others : ∀ other, other ≠ name → (serve lib name d request).2.files other = d.files other
  idle : (∀ answer, (serve lib name d request).1 = .ok answer → answer ≠ .done) →
    (serve lib name d request).2 = d

/-- A call that read the map `profiles`. -/
theorem served_of_read {request : Request φ} (hworks : request.env.Works name d.files)
    {salt : Bytes} {profiles : Dict String (Profile φ)} {ideal : Ideal φ}
    (hd : Holds lib name ideal d)
    (hread : readEncryptedState lib ⟨name, request.password, request.nonempty⟩ request.env d =
      (.ok (saltText salt, stored profiles), d))
    (hstep : ideal.step request = match request.call.onMap profiles with
      | (answer, none) => (answer, ideal)
      | (answer, some profiles') => (answer, some ⟨request.password, salt, profiles'⟩)) :
    Served lib name ideal d request := by
  have hserve : serve lib name d request = _ := run_of_read hread request.call
  rcases hmap : request.call.onMap profiles with ⟨answer, _ | profiles'⟩
  · rw [hmap] at hserve hstep
    constructor
    · rw [hserve, hstep]
    · rw [hserve, hstep]
      exact hd
    · intro other _
      rw [hserve]
    · intro _
      rw [hserve]
  · rw [hmap] at hserve hstep
    obtain ⟨d', hwrite, hnow, hothers⟩ := writeFile_works hworks
      (fileOf lib request.password salt request.env.nonce profiles')
    have hserve' : serve lib name d request = (answer, d') :=
      hserve.trans (bind_ok (mapError_ok hwrite))
    constructor
    · rw [hserve', hstep]
    · rw [hserve', hstep]
      exact ⟨request.env.nonce, hnow⟩
    · intro other hother
      rw [hserve']
      exact hothers other hother
    · intro hanswer
      rw [hserve'] at hanswer
      exact absurd rfl (hanswer .done (onMap_writes hmap))

theorem serve_step (h : lib.Lawful) {ideal : Ideal φ} (hd : Holds lib name ideal d)
    {request : Request φ} (hworks : request.env.Works name d.files) :
    Served lib name ideal d request := by
  have hfault := hworks.fault .read
  cases ideal with
  | none =>
    have hread := readEncryptedState_absent lib ⟨name, request.password, request.nonempty⟩
      request.env hd
    exact served_of_read hworks hd hread rfl
  | some created =>
    by_cases hpassword : request.password = created.password
    · apply served_of_read hworks hd (read_same h hfault hd hpassword)
      rw [hpassword]
      exact if_pos hpassword
    · have hread := read_other ⟨name, request.password, request.nonempty⟩ h hfault hd hpassword
      have hserve : serve lib name d request = (.error notDecrypted, d) :=
        run_of_read_error hread request.call
      have hstep : Ideal.step (some created) request = (.error notDecrypted, some created) :=
        if_neg hpassword
      constructor
      · rw [hserve, hstep]
      · rw [hserve, hstep]
        exact hd
      · intro other _
        rw [hserve]
      · intro _
        rw [hserve]

end Working

/-! ## Every sequence of calls -/

/-- The first call that writes to a new store. -/
def Request.creates (request : Request φ) : Bool :=
  match request.call with
  | .add _ => true
  | _ => false

/-- Nothing changes the password and the salt of a store. -/
theorem created_stays (requests : List (Request φ)) {created : Created φ} {key : String × Bytes}
    (h : (created.password, created.salt) = key) :
    (transduce Ideal.step (some created) requests).2.map
      (fun created => (created.password, created.salt)) = some key := by
  apply transduce_invariant (fun _ => True) (fun ideal : Ideal φ =>
    ideal.map (fun created => (created.password, created.salt)) = some key)
  · rintro (_ | created) request hideal -
    · cases hideal
    · simp only [Ideal.step]
      split
      · split <;> exact hideal
      · exact hideal
  · exact fun _ _ => trivial
  · exact congrArg some h

/-- The password and the salt are those of the first write. -/
theorem created_by_first (requests : List (Request φ)) :
    (transduce Ideal.step none requests).2.map (fun created => (created.password, created.salt)) =
      (requests.find? Request.creates).map fun first => (first.password, first.env.salt) := by
  induction requests with
  | nil => rfl
  | cons request requests ih =>
    rw [transduce_cons, List.find?_cons]
    cases hcall : request.call with
    | add profile =>
      have hstep : (Ideal.step none request).2 = some ⟨request.password, request.env.salt,
          (Dict.empty : Dict String (Profile φ)).set profile.profileId profile⟩ := by
        simp only [Ideal.step, hcall, Call.onMap]
      have hcreates : request.creates = true := by
        simp only [Request.creates, hcall]
      rw [hstep, hcreates]
      exact created_stays requests rfl
    | _ =>
      have hstep : (Ideal.step none request).2 = none := by
        simp only [Ideal.step, hcall, Call.onMap, Dict.get?_empty]
      have hcreates : request.creates = false := by
        simp only [Request.creates, hcall]
      rw [hstep, hcreates]
      exact ih

/-- A store behaves like the ordered map of the password that created it: the outcomes are those of
the map, the file holds the map, its salt is that of the first write, and a call that does not
write leaves the disk as it was. -/
theorem refines_map {lib : Library κ φ} (h : lib.Lawful) (name : String) (d : Disk)
    (hd : d.files name = none) (requests : List (Request φ))
    (hworks : ∀ request ∈ requests, request.env.Works name d.files) :
    let run := transduce (serve lib name) d requests
    let ideal := transduce Ideal.step (none : Ideal φ) requests
    run.1 = ideal.1 ∧ Holds lib name ideal.2 run.2 ∧
      ideal.2.map (fun created => (created.password, created.salt)) =
        (requests.find? Request.creates).map (fun first => (first.password, first.env.salt)) ∧
      ∀ before request after, requests = before ++ request :: after →
        let d' := (transduce (serve lib name) d before).2
        (∀ answer, (serve lib name d' request).1 = .ok answer → answer ≠ .done) →
          (serve lib name d' request).2 = d' := by
  intro run ideal
  have hsim : ∀ requests : List (Request φ),
      (∀ request ∈ requests, request.env.Works name d.files) →
      (transduce (serve lib name) d requests).1 = (transduce Ideal.step none requests).1 ∧
        (Holds lib name (transduce Ideal.step none requests).2
            (transduce (serve lib name) d requests).2 ∧
          ∀ other, other ≠ name →
            (transduce (serve lib name) d requests).2.files other = d.files other) := by
    intro requests hworks
    apply transduce_simulation (fun request : Request φ => request.env.Works name d.files)
      (fun (d' : Disk) ideal => Holds lib name ideal d' ∧
        ∀ other, other ≠ name → d'.files other = d.files other)
    · rintro d' ideal request ⟨hholds, hothers⟩ hrequest
      have hserved := serve_step h hholds (hrequest.congr hothers)
      exact ⟨hserved.answer, hserved.holds, fun other hother =>
        (hserved.others other hother).trans (hothers other hother)⟩
    · exact hworks
    · exact ⟨hd, fun _ _ => rfl⟩
  obtain ⟨hout, hholds, -⟩ := hsim requests hworks
  refine ⟨hout, hholds, created_by_first requests, ?_⟩
  intro before request after hrequests d'
  have hbefore : ∀ request ∈ before, request.env.Works name d.files := by
    intro request' hrequest'
    apply hworks request'
    rw [hrequests]
    exact List.mem_append_left _ hrequest'
  have hrequest : request.env.Works name d.files := by
    apply hworks request
    rw [hrequests]
    exact List.mem_append_right _ List.mem_cons_self
  obtain ⟨-, hholds', hothers⟩ := hsim before hbefore
  exact (serve_step h hholds' (hrequest.congr hothers)).idle

/-! ## An example -/

/-- An environment in which everything works. -/
def calm (salt : Bytes) : Env where
  fault _ := none
  candidates := ["x"]
  written := 0
  flushed := 0
  salt := salt
  nonce := []
  osErrors := by
    intro call _ e he
    cases he

/-- A directory without files. -/
def emptyDisk : Disk := ⟨fun _ => none, []⟩

theorem calm_works (salt : Bytes) (name : String) : (calm salt).Works name emptyDisk.files :=
  ⟨fun _ => rfl, rfl⟩

/-- A profile for examples. -/
def homeProfile : Profile Empty := ⟨"1", "1", "home", Dict.empty, "", trivial⟩

/-- One password adds a profile, another one fails, the first one lists. -/
def visits : List (Request Empty) := [
  ⟨"right", by decide, .add homeProfile, calm [1]⟩,
  ⟨"wrong", by decide, .add homeProfile, calm [2]⟩,
  ⟨"right", by decide, .list, calm [3]⟩]

theorem refines_map_visits :
    (transduce (serve plain "profiles.json") emptyDisk visits).1 =
        [.ok .done, .error notDecrypted, .ok (.profiles [homeProfile.record])] ∧
      ∃ nonce, (transduce (serve plain "profiles.json") emptyDisk visits).2.files "profiles.json" =
        some (fileOf plain "right" [1] nonce (Dict.empty.set "1" homeProfile)) := by
  have hworks : ∀ request ∈ visits, request.env.Works "profiles.json" emptyDisk.files := by
    simp only [visits, List.forall_mem_cons]
    exact ⟨calm_works _ _, calm_works _ _, calm_works _ _, by simp⟩
  obtain ⟨hout, hholds, -, -⟩ := refines_map plain_lawful "profiles.json" emptyDisk rfl visits hworks
  exact ⟨hout.trans rfl, hholds⟩

end Bimarz.Store
