import Bimarz.Store.Failures

/-!
# Two stores on one file

The window and the command line may have the store open at the same time, and nothing locks the
file. An update is cut where the other side can come between: it reads the file and computes the
new contents in one turn, and replaces the file in another.
-/

namespace Bimarz.Store

open Effect Effect.Act

variable {κ φ : Type}

/-- The calls that write. -/
inductive Update (φ : Type)
  | add (profile : Profile φ)
  | remove (profileId : String)

def Update.call : Update φ → Call φ
  | .add profile => .add profile
  | .remove profileId => .remove profileId

/-- The profile that a call is about. -/
def Update.key : Update φ → String
  | .add profile => profile.profileId
  | .remove profileId => profileId

def Update.apply (profiles : Dict String (Profile φ)) : Update φ → Dict String (Profile φ)
  | .add profile => profiles.set profile.profileId profile
  | .remove profileId => profiles.erase profileId

/-- The map has what was added and lacks what was removed. -/
def Update.ReflectedIn (profiles : Dict String (Profile φ)) : Update φ → Prop
  | .add profile => profiles.get? profile.profileId = some profile
  | .remove profileId => profiles.get? profileId = none

section Halves

variable (lib : Library κ φ) (store : ProfileStore) (env : Env)

/-- An update up to the text of the new file. -/
def Update.prepare (update : Update φ) : Act StoreExc Disk Bytes := do
  let (salt, profiles) ← readEncryptedState lib store env
  match update with
  | .add profile => ofExcept (payload lib store.password env.nonce salt
      (profiles.set profile.profileId profile.asdict))
  | .remove profileId =>
    match profiles.get? profileId with
    | none => raise (noProfile profileId)
    | some _ => ofExcept (payload lib store.password env.nonce salt (profiles.erase profileId))

/-- The rest, of which the other side sees the replacement of the file. -/
def commit (content : Bytes) : Act StoreExc Disk Unit :=
  mapError .raised (writeFile env store.name content)

/-- The two halves are the call. -/
theorem prepare_commit (update : Update φ) :
    update.call.run lib store env = do
      commit store env (← update.prepare lib store env)
      return .done := by
  funext d
  cases update with
  | add profile =>
    show ((readEncryptedState lib store env >>= _) >>= _) d =
      ((readEncryptedState lib store env >>= _) >>= _) d
    rw [bind_bind, bind_bind]
    rcases hread : readEncryptedState lib store env d with ⟨e | ⟨salt, profiles⟩, d'⟩
    · rw [bind_error hread, bind_error hread]
    · rw [bind_ok hread, bind_ok hread]
      show ((ofExcept _ >>= _) >>= _) d' = _
      rw [bind_bind]
      rfl
  | remove profileId =>
    show ((readEncryptedState lib store env >>= _) >>= _) d =
      ((readEncryptedState lib store env >>= _) >>= _) d
    rw [bind_bind, bind_bind]
    rcases hread : readEncryptedState lib store env d with ⟨e | ⟨salt, profiles⟩, d'⟩
    · rw [bind_error hread, bind_error hread]
    · rw [bind_ok hread, bind_ok hread]
      simp only
      cases profiles.get? profileId with
      | none => rfl
      | some _ =>
        show ((ofExcept _ >>= _) >>= _) d' = _
        rw [bind_bind]
        rfl

end Halves

/-! ## Turns -/

/-- The two users of the file. -/
inductive Party
  | gui
  | cli
  deriving DecidableEq, Repr


def Party.other : Party → Party
  | .gui => .cli
  | .cli => .gui

theorem Party.other_ne (p : Party) : p.other ≠ p := by
  cases p <;> decide

theorem Party.eq_other {p q : Party} (h : q ≠ p) : q = p.other := by
  cases p <;> cases q <;> first | rfl | exact absurd rfl h

/-- Where a call is. -/
inductive Place
  | start
  | ready (content : Bytes)
  | done
  | failed (e : StoreExc)

/-- The file, and where each call is. -/
structure Race where
  disk : Disk
  place : Party → Place

/-- Both calls before their first turn. -/
def Race.begin (d : Disk) : Race := ⟨d, fun _ => .start⟩

def Race.move (s : Race) (p : Party) (place : Place) (d : Disk) : Race :=
  ⟨d, Function.update s.place p place⟩

/-- What the two users do. -/
structure Users (φ : Type) where
  store : ProfileStore
  update : Party → Update φ
  env : Party → Env

section Turns

variable (lib : Library κ φ) (users : Users φ)

/-- The next half of a call. -/
def Race.turn (s : Race) (p : Party) : Race :=
  match s.place p with
  | .start =>
    match (users.update p).prepare lib users.store (users.env p) s.disk with
    | (.ok content, d) => s.move p (.ready content) d
    | (.error e, d) => s.move p (.failed e) d
  | .ready content =>
    match commit users.store (users.env p) content s.disk with
    | (.ok _, d) => s.move p .done d
    | (.error e, d) => s.move p (.failed e) d
  | .done => s
  | .failed _ => s

/-- The turns of both calls, in any order. -/
structure Interleaving where
  turns : List Party
  gui : turns.count .gui = 2
  cli : turns.count .cli = 2

def Users.run (s : Race) (turns : List Party) : Race := runAll (Race.turn lib users) s turns

end Turns

/-- The new file of a call, where it reads `profiles`. -/
def Users.content (lib : Library κ φ) (users : Users φ) (salt : Bytes)
    (profiles : Dict String (Profile φ)) (p : Party) : Bytes :=
  fileOf lib users.store.password salt (users.env p).nonce ((users.update p).apply profiles)

@[simp] theorem Race.move_self (s : Race) (p : Party) (place : Place) (d : Disk) :
    (s.move p place d).place p = place := Function.update_self ..

@[simp] theorem Race.move_other (s : Race) {p q : Party} (h : q ≠ p) (place : Place) (d : Disk) :
    (s.move p place d).place q = s.place q := Function.update_of_ne h ..

theorem length_eq_count (turns : List Party) :
    turns.length = turns.count .gui + turns.count .cli := by
  induction turns with
  | nil => rfl
  | cons p turns ih =>
    cases p <;> simp only [List.length_cons, List.count_cons_self, ne_eq, reduceCtorEq,
      not_false_eq_true, List.count_cons_of_ne, ih] <;> omega

/-- One call runs after the other, or each one reads before the other replaces. -/
theorem Interleaving.cases (l : Interleaving) :
    (∃ p : Party, l.turns = [p, p, p.other, p.other]) ∨
      ∃ p q : Party, l.turns = [p, p.other, q.other, q] := by
  obtain ⟨turns, hgui, hcli⟩ := l
  have hlength : turns.length = 4 := by
    rw [length_eq_count, hgui, hcli]
  match turns, hlength with
  | [a, b, c, d], _ =>
    cases a <;> cases b <;> cases c <;> cases d <;> first
      | exact Or.inl ⟨.gui, rfl⟩
      | exact Or.inl ⟨.cli, rfl⟩
      | exact Or.inr ⟨_, .gui, rfl⟩
      | exact Or.inr ⟨_, .cli, rfl⟩
      | exact absurd hgui (by decide)

section Steps

variable {lib : Library κ φ} {users : Users φ} {s : Race} {p : Party} {salt : Bytes}
  {profiles : Dict String (Profile φ)}

theorem turn_place_other {q : Party} (h : p ≠ q) :
    (s.turn lib users q).place p = s.place p := by
  unfold Race.turn
  split
  · split <;> exact Race.move_other s h ..
  · split <;> exact Race.move_other s h ..
  · rfl
  · rfl

theorem turn_failed {e : StoreExc} (h : s.place p = .failed e) : s.turn lib users p = s := by
  unfold Race.turn
  rw [h]

/-- A call that failed does not return. -/
theorem failed_stays {e : StoreExc} (h : s.place p = .failed e) (turns : List Party) :
    (users.run lib s turns).place p = .failed e := by
  apply runAll_invariant (I := fun s : Race => s.place p = .failed e) _ h
  intro s q hs
  by_cases hq : p = q
  · rw [← hq, turn_failed hs, hs]
  · rw [turn_place_other hq, hs]

theorem not_failed {q : Party} {turns : List Party}
    (h : (users.run lib s (q :: turns)).place p = .done) (e : StoreExc) :
    (s.turn lib users q).place p ≠ .failed e := by
  intro hfailed
  have hrun : users.run lib s (q :: turns) = users.run lib (s.turn lib users q) turns := rfl
  rw [hrun, failed_stays hfailed] at h
  cases h

theorem prepare_add (h : lib.Lawful) {store : ProfileStore} {env : Env} {d : Disk}
    (hd : Holds lib store.name (some ⟨store.password, salt, profiles⟩) d)
    (hfault : env.fault .read = none) (profile : Profile φ) :
    (Update.add profile).prepare lib store env d = (.ok (fileOf lib store.password salt env.nonce
      ((Update.add profile).apply profiles)), d) := by
  unfold Update.prepare
  rw [bind_ok (read_same h hfault hd rfl)]
  simp only [stored, ← Dict.map_set]
  rw [← stored, payload_stored]
  rfl

/-- The first half: the contents of the updated map, unless the call failed. -/
theorem prepare_cases (h : lib.Lawful) {store : ProfileStore} (env : Env) {d : Disk}
    (hd : Holds lib store.name (some ⟨store.password, salt, profiles⟩) d) (update : Update φ) :
    (∃ e, update.prepare lib store env d = (.error e, d)) ∨
      update.prepare lib store env d = (.ok (fileOf lib store.password salt env.nonce
        (update.apply profiles)), d) := by
  cases hfault : env.fault .read with
  | some e =>
    obtain ⟨nonce, hfile⟩ := hd
    left
    exact ⟨_, bind_error (readEncryptedState_fault hfault hfile)⟩
  | none =>
    cases update with
    | add profile => exact Or.inr (prepare_add h hd hfault profile)
    | remove profileId =>
      unfold Update.prepare
      rw [bind_ok (read_same h hfault hd rfl)]
      simp only [stored_get?]
      cases profiles.get? profileId with
      | none =>
        left
        exact ⟨noProfile profileId, rfl⟩
      | some profile =>
        right
        simp only [Option.map_some, stored, ← Dict.map_erase]
        rw [← stored, payload_stored]
        rfl

theorem turn_start (h : lib.Lawful) (hplace : s.place p = .start)
    (hd : Holds lib users.store.name (some ⟨users.store.password, salt, profiles⟩) s.disk) :
    (∃ e, (s.turn lib users p).place p = .failed e) ∨
      s.turn lib users p = s.move p (.ready (users.content lib salt profiles p)) s.disk := by
  unfold Race.turn
  rw [hplace]
  rcases prepare_cases h (users.env p) hd (users.update p) with ⟨e, hrun⟩ | hrun
  · left
    simp only [hrun]
    exact ⟨e, Race.move_self ..⟩
  · right
    simp only [hrun]
    rfl

theorem turn_ready {content : Bytes} (hplace : s.place p = .ready content) :
    (∃ e, (s.turn lib users p).place p = .failed e) ∨
      ∃ d, s.turn lib users p = s.move p .done d ∧ d.files users.store.name = some content := by
  unfold Race.turn
  rw [hplace]
  have hwrite := writeFile_triple (users.env p)
    ⟨users.store.name, content, s.disk.files, s.disk.history⟩
  rcases hr : writeFile (users.env p) users.store.name content s.disk with ⟨e | _, d⟩
  · have hcommit : commit users.store (users.env p) content s.disk = (.error (.raised e), d) :=
      mapError_error hr
    left
    simp only [hcommit]
    exact ⟨_, Race.move_self ..⟩
  · have hcommit : commit users.store (users.env p) content s.disk = (.ok (), d) :=
      mapError_ok hr
    right
    simp only [hcommit]
    exact ⟨d, rfl, (hwrite.of_ok rfl hr).1.replaced.now⟩

/-- The file of a map, under the password of the users. -/
abbrev Stored (lib : Library κ φ) (users : Users φ) (salt : Bytes)
    (profiles : Dict String (Profile φ)) (s : Race) : Prop :=
  Holds lib users.store.name (some ⟨users.store.password, salt, profiles⟩) s.disk

/-- The first half of a call that returns. -/
theorem first_half (h : lib.Lawful) {turns : List Party} (hplace : s.place p = .start)
    (hd : Stored lib users salt profiles s)
    (hdone : (users.run lib s (p :: turns)).place p = .done) :
    s.turn lib users p = s.move p (.ready (users.content lib salt profiles p)) s.disk := by
  rcases turn_start h hplace hd with ⟨e, hfailed⟩ | hready
  · exact absurd hfailed (not_failed hdone e)
  · exact hready

/-- The second half of a call that returns. -/
theorem second_half {turns : List Party}
    {nonce : Bytes} (hplace : s.place p = .ready
      (fileOf lib users.store.password salt nonce profiles))
    (hdone : (users.run lib s (p :: turns)).place p = .done) :
    ∃ d, s.turn lib users p = s.move p .done d ∧
      Stored lib users salt profiles (s.turn lib users p) := by
  rcases turn_ready hplace with ⟨e, hfailed⟩ | ⟨d, hturn, hfile⟩
  · exact absurd hfailed (not_failed hdone e)
  · refine ⟨d, hturn, nonce, ?_⟩
    rw [hturn]
    exact hfile

/-- A call that runs without the other one coming between. -/
theorem both_halves (h : lib.Lawful) {turns : List Party} (hplace : s.place p = .start)
    (hd : Stored lib users salt profiles s)
    (hdone : (users.run lib s (p :: p :: turns)).place p = .done) :
    ∃ s' : Race, users.run lib s (p :: p :: turns) = users.run lib s' turns ∧
      Stored lib users salt ((users.update p).apply profiles) s' ∧
      s'.place p.other = s.place p.other := by
  have hfirst := first_half h hplace hd hdone
  have hready : (s.turn lib users p).place p = .ready (users.content lib salt profiles p) := by
    rw [hfirst, Race.move_self]
  have hdone' : (users.run lib (s.turn lib users p) (p :: turns)).place p = .done := hdone
  obtain ⟨d, -, hstored⟩ := second_half hready hdone'
  refine ⟨_, rfl, hstored, ?_⟩
  rw [turn_place_other p.other_ne, turn_place_other p.other_ne]

/-- Each call reads before the other one replaces. -/
theorem overlapping_run (h : lib.Lawful) {d : Disk} {q : Party}
    (hd : Stored lib users salt profiles (.begin d))
    (hdone : ∀ r, (users.run lib (.begin d) [p, p.other, q.other, q]).place r = .done) :
    Stored lib users salt ((users.update q).apply profiles)
      (users.run lib (.begin d) [p, p.other, q.other, q]) := by
  have hready : ∀ r : Party, (((Race.begin d).turn lib users p).turn lib users p.other).place r =
      .ready (users.content lib salt profiles r) := by
    have hp := first_half h rfl hd (hdone p)
    have hother := first_half (s := (Race.begin d).turn lib users p) h
      (turn_place_other p.other_ne) (by rw [hp]; exact hd) (hdone p.other)
    intro r
    by_cases hr : r = p
    · rw [hr, turn_place_other p.other_ne.symm, hp, Race.move_self]
    · rw [Party.eq_other hr, hother, Race.move_self]
  obtain ⟨d₁, hturn, -⟩ := second_half (hready q.other) (hdone q.other)
  have hlast : ((((Race.begin d).turn lib users p).turn lib users p.other).turn lib users
      q.other).place q = .ready (users.content lib salt profiles q) := by
    rw [turn_place_other q.other_ne.symm, hready]
  obtain ⟨-, -, hstored⟩ := second_half hlast (hdone q)
  exact hstored

/-- One call after the other. -/
theorem serial_run (h : lib.Lawful) {d : Disk} (hd : Stored lib users salt profiles (.begin d))
    (hdone : ∀ q, (users.run lib (.begin d) [p, p, p.other, p.other]).place q = .done) :
    Stored lib users salt ((users.update p.other).apply ((users.update p).apply profiles))
      (users.run lib (.begin d) [p, p, p.other, p.other]) := by
  obtain ⟨s, hrun, hstored, hother⟩ := both_halves h rfl hd (hdone p)
  rw [hrun] at hdone ⊢
  obtain ⟨s', hrun', hstored', -⟩ := both_halves h hother hstored (hdone p.other)
  rw [hrun']
  exact hstored'

end Steps

/-! ## What the file says in the end -/

theorem Update.reflected (update : Update φ) (profiles : Dict String (Profile φ)) :
    update.ReflectedIn (update.apply profiles) := by
  cases update with
  | add profile => exact Dict.get?_set_self ..
  | remove profileId => exact (Dict.get?_erase ..).trans (if_pos rfl)

/-- An update of one profile says nothing about another one. -/
theorem Update.reflected_other {update update' : Update φ} (hkey : update'.key ≠ update.key)
    (profiles : Dict String (Profile φ)) :
    update'.ReflectedIn (update.apply profiles) ↔ update'.ReflectedIn profiles := by
  have hget : (update.apply profiles).get? update'.key = profiles.get? update'.key := by
    cases update with
    | add profile => exact (Dict.get?_set ..).trans (if_neg hkey)
    | remove profileId => exact (Dict.get?_erase ..).trans (if_neg hkey)
  cases update' with
  | add profile' =>
    show (update.apply profiles).get? profile'.profileId = _ ↔ _
    rw [show (update.apply profiles).get? profile'.profileId = _ from hget]
    rfl
  | remove profileId' =>
    show (update.apply profiles).get? profileId' = _ ↔ _
    rw [show (update.apply profiles).get? profileId' = _ from hget]
    rfl

theorem keys_differ {users : Users φ}
    (h : (users.update .gui).key ≠ (users.update .cli).key) (p : Party) :
    (users.update p).key ≠ (users.update p.other).key := by
  cases p
  · exact h
  · exact h.symm

/-- Two updates of different profiles that both return: one after the other, both are in the file;
where each reads before the other replaces, the file holds the update of the one that replaced
last, and the other one is lost. -/
theorem interleaved_updates {lib : Library κ φ} (h : lib.Lawful) (users : Users φ)
    (hkeys : (users.update .gui).key ≠ (users.update .cli).key) {d : Disk} {salt : Bytes}
    {profiles : Dict String (Profile φ)} (hd : Stored lib users salt profiles (.begin d))
    (l : Interleaving) (hdone : ∀ p, (users.run lib (.begin d) l.turns).place p = .done) :
    ∃ final, Stored lib users salt final (users.run lib (.begin d) l.turns) ∧
      (∀ p : Party, l.turns = [p, p, p.other, p.other] →
        final = (users.update p.other).apply ((users.update p).apply profiles) ∧
        ∀ q, (users.update q).ReflectedIn final) ∧
      ∀ p q : Party, l.turns = [p, p.other, q.other, q] →
        final = (users.update q).apply profiles ∧ (users.update q).ReflectedIn final ∧
        ((users.update q.other).ReflectedIn final ↔
          (users.update q.other).ReflectedIn profiles) := by
  rcases l.cases with ⟨p, hturns⟩ | ⟨p, q, hturns⟩
  · rw [hturns] at hdone ⊢
    refine ⟨_, serial_run h hd hdone, ?_, ?_⟩
    · intro p' heq
      obtain rfl : p = p' := (List.cons.inj heq).1
      refine ⟨rfl, fun q => ?_⟩
      by_cases hq : q = p
      · rw [hq, Update.reflected_other (keys_differ hkeys p)]
        exact Update.reflected _ _
      · rw [Party.eq_other hq]
        exact Update.reflected _ _
    · intro p' q heq
      simp only [List.cons.injEq] at heq
      obtain ⟨rfl, hother, -⟩ := heq
      exact absurd hother.symm p.other_ne
  · rw [hturns] at hdone ⊢
    refine ⟨_, overlapping_run h hd hdone, ?_, ?_⟩
    · intro p' heq
      simp only [List.cons.injEq] at heq
      obtain ⟨rfl, hother, -⟩ := heq
      exact absurd hother p.other_ne
    · intro p' q' heq
      simp only [List.cons.injEq] at heq
      obtain ⟨-, -, -, rfl, -⟩ := heq
      exact ⟨rfl, Update.reflected _ _, Update.reflected_other (keys_differ hkeys q).symm _⟩

/-! ## An example -/

section Forward

variable {lib : Library κ φ} {users : Users φ} {s : Race} {p : Party} {salt : Bytes}
  {profiles : Dict String (Profile φ)}

theorem turn_add (h : lib.Lawful) {profile : Profile φ} (hadd : users.update p = .add profile)
    (hfault : (users.env p).fault .read = none) (hplace : s.place p = .start)
    (hd : Stored lib users salt profiles s) :
    s.turn lib users p = s.move p (.ready (users.content lib salt profiles p)) s.disk := by
  unfold Race.turn Users.content
  rw [hplace, hadd]
  simp only [prepare_add h hd hfault]

theorem turn_commit {content : Bytes} (hplace : s.place p = .ready content)
    (hworks : (users.env p).Works users.store.name s.disk.files) :
    ∃ d, s.turn lib users p = s.move p .done d ∧
      ∀ other, other ≠ users.store.name → d.files other = s.disk.files other := by
  obtain ⟨d, hwrite, -, hothers⟩ := writeFile_works hworks content
  have hcommit : commit users.store (users.env p) content s.disk = (.ok (), d) :=
    mapError_ok hwrite
  unfold Race.turn
  rw [hplace]
  simp only [hcommit]
  exact ⟨d, rfl, hothers⟩

/-- Two additions return in the order of the example. -/
theorem adds_return (h : lib.Lawful) {added : Party → Profile φ}
    (hadd : ∀ q, users.update q = .add (added q)) {d : Disk}
    (hd : Stored lib users salt profiles (.begin d))
    (hworks : ∀ q, (users.env q).Works users.store.name d.files) (q : Party) :
    (users.run lib (.begin d) [p, p.other, p, p.other]).place q = .done := by
  have hp := turn_add h (hadd p) ((hworks p).fault .read) rfl hd
  have hother := turn_add (s := (Race.begin d).turn lib users p) h (hadd p.other)
    ((hworks p.other).fault .read) (turn_place_other p.other_ne) (by rw [hp]; exact hd)
  have hready : (((Race.begin d).turn lib users p).turn lib users p.other).place p =
      .ready (users.content lib salt profiles p) := by
    rw [turn_place_other p.other_ne.symm, hp, Race.move_self]
  have hdisk : (((Race.begin d).turn lib users p).turn lib users p.other).disk = d := by
    rw [hother, hp]
    rfl
  obtain ⟨d₁, hfirst, hothers⟩ := turn_commit hready (by
    rw [hdisk]
    exact hworks p)
  rw [hdisk] at hothers
  have hlast : ((((Race.begin d).turn lib users p).turn lib users p.other).turn lib users p).place
      p.other = .ready (users.content lib salt profiles p.other) := by
    rw [turn_place_other p.other_ne, hother, Race.move_self]
  obtain ⟨d₂, hsecond, -⟩ := turn_commit hlast (by
    rw [hfirst]
    exact (hworks p.other).congr hothers)
  have hrun : users.run lib (.begin d) [p, p.other, p, p.other] =
      Race.move _ p.other .done d₂ := hsecond
  rw [hrun]
  by_cases hq : q = p.other
  · rw [hq, Race.move_self]
  · rw [Race.move_other _ hq, hfirst]
    have hqp : q = p := by
      by_contra hne
      exact hq (Party.eq_other hne)
    rw [hqp, Race.move_self]

end Forward

/-- A second profile for examples. -/
def officeProfile : Profile Empty := ⟨"2", "2", "office", Dict.empty, "", trivial⟩

/-- Both users add a profile. -/
def bothAdd : Users Empty where
  store := homeStore
  update
    | .gui => .add homeProfile
    | .cli => .add officeProfile
  env _ := calm []

def readReadWriteWrite : Interleaving := ⟨[.gui, .cli, .gui, .cli], rfl, rfl⟩

theorem bothAdd_stored : Stored plain bothAdd [1] Dict.empty (.begin storeDisk) := storeDisk_holds

theorem bothAdd_works (q : Party) :
    (bothAdd.env q).Works bothAdd.store.name storeDisk.files := ⟨fun _ => rfl, rfl⟩

/-- The profile that a user of the example adds. -/
def addedProfile : Party → Profile Empty
  | .gui => homeProfile
  | .cli => officeProfile

theorem bothAdd_update (q : Party) : bothAdd.update q = .add (addedProfile q) := by
  cases q <;> rfl

theorem bothAdd_return (q : Party) :
    (bothAdd.run plain (.begin storeDisk) readReadWriteWrite.turns).place q = .done := by
  have hturns : readReadWriteWrite.turns = [.gui, Party.gui.other, .gui, Party.gui.other] := rfl
  rw [hturns]
  exact adds_return plain_lawful bothAdd_update bothAdd_stored bothAdd_works q

/-- The map that is left. -/
def officeOnly : Dict String (Profile Empty) := Dict.empty.set "2" officeProfile

theorem home_not_reflected : ¬(bothAdd.update .gui).ReflectedIn officeOnly := by
  intro hreflected
  have hget : officeOnly.get? "1" = none := by
    unfold officeOnly
    rw [Dict.get?_set, if_neg (by decide), Dict.get?_empty]
  have hhome : officeOnly.get? "1" = some homeProfile := hreflected
  rw [hget] at hhome
  cases hhome

/-- Both calls return, and the profile that the window added is not in the file. -/
theorem lost_update :
    (∀ q, (bothAdd.run plain (.begin storeDisk) readReadWriteWrite.turns).place q = .done) ∧
      Stored plain bothAdd [1] officeOnly
        (bothAdd.run plain (.begin storeDisk) readReadWriteWrite.turns) ∧
      ¬(bothAdd.update .gui).ReflectedIn officeOnly := by
  refine ⟨bothAdd_return, ?_, home_not_reflected⟩
  have hturns : readReadWriteWrite.turns = [.gui, Party.gui.other, Party.cli.other, .cli] := rfl
  have hdone := bothAdd_return
  rw [hturns] at hdone ⊢
  exact overlapping_run plain_lawful bothAdd_stored hdone

/-- What the general statement says of this run. -/
theorem interleaved_adds :
    ∃ final, Stored plain bothAdd [1] final
      (bothAdd.run plain (.begin storeDisk) readReadWriteWrite.turns) ∧
      final = (bothAdd.update .cli).apply Dict.empty := by
  have hkeys : (bothAdd.update .gui).key ≠ (bothAdd.update .cli).key := by
    rw [bothAdd_update, bothAdd_update]
    exact (by decide : "1" ≠ "2")
  obtain ⟨final, hstored, -, hoverlap⟩ := interleaved_updates plain_lawful bothAdd hkeys
    bothAdd_stored readReadWriteWrite bothAdd_return
  exact ⟨final, hstored, (hoverlap .gui .cli rfl).1⟩

end Bimarz.Store
