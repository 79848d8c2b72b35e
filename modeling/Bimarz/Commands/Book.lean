import Bimarz.Commands.Profile
import Bimarz.Effect.Agree

/-!
# The commands keep a book

The methods of the store agree on the encrypted file of a book and on the book itself. The commands
are written over these methods, so they agree too: `commands_refine_book` says that no sequence of
invocations tells the file from the book.
-/

namespace Bimarz.Commands

open Effect Effect.Act
open Store (Disk StoreExc Library Profile Record)

/-! ## The file of a book -/

section Refinement

variable {κ φ : Type} {lib : Library κ φ} {rendering : Rendering φ} {name : String}

/-- The map that is encrypted for a book. -/
def Book.created (salt : Bytes) (book : Book) : Store.Created φ :=
  ⟨book.password, salt, book.profiles.map toStore⟩

/-- The file holds the book, and the other files are those of the beginning. -/
structure Kept (lib : Library κ φ) (name : String) (files : Store.Files) (d : Disk)
    (book : Option Book) : Prop where
  holds : ∃ salt, Store.Holds lib name (book.map (Book.created salt)) d
  storable : ∀ b ∈ book, ∀ id profile, b.profiles.get? id = some profile → storable profile = true
  others : ∀ other, other ≠ name → d.files other = files other

theorem storable_of_opened {files : Store.Files} {d : Disk} {book : Option Book}
    (h : Kept lib name files d book) {password : String} {profiles : Dict String ServerProfile}
    (hopened : Book.opened book password = .ok profiles) (id : String) (profile : ServerProfile)
    (hid : profiles.get? id = some profile) : storable profile = true := by
  cases book with
  | none =>
    cases hopened
    cases hid
  | some b =>
    unfold Book.opened at hopened
    simp only at hopened
    split at hopened
    next =>
      cases hopened
      exact h.storable b rfl id profile hid
    next => cases hopened

/-- A call on the map of a book that the password does not open. -/
theorem step_locked {book : Option Book} {request : Store.Request φ} {e : CommandExc}
    (hopened : Book.opened book request.password = .error e) (salt : Bytes) :
    e = .store Store.notDecrypted ∧ Store.Ideal.step (book.map (Book.created salt)) request =
      (.error Store.notDecrypted, book.map (Book.created salt)) := by
  cases book with
  | none => cases hopened
  | some book =>
    unfold Book.opened at hopened
    simp only at hopened
    split at hopened
    next => cases hopened
    next hpassword =>
      cases hopened
      exact ⟨rfl, if_neg hpassword⟩

/-- A call on the map of a book that it opens. -/
theorem step_opened {book : Option Book} {request : Store.Request φ}
    {profiles : Dict String ServerProfile}
    (hopened : Book.opened book request.password = .ok profiles) (salt : Bytes) :
    ∃ salt', Store.Ideal.step (book.map (Book.created salt)) request =
      ((request.call.onMap (profiles.map toStore)).1,
        match (request.call.onMap (profiles.map toStore)).2 with
        | none => book.map (Book.created salt)
        | some stored => some ⟨request.password, salt', stored⟩) := by
  cases book with
  | none =>
    cases hopened
    have hempty : (Dict.empty : Dict String ServerProfile).map (toStore (φ := φ)) = Dict.empty := rfl
    refine ⟨request.env.salt, ?_⟩
    rw [hempty]
    simp only [Option.map_none, Store.Ideal.step]
    rcases request.call.onMap (φ := φ) Dict.empty with ⟨answer, _ | stored⟩ <;> rfl
  | some book =>
    unfold Book.opened at hopened
    simp only at hopened
    split at hopened
    next hpassword =>
      cases hopened
      refine ⟨salt, ?_⟩
      simp only [Option.map_some, Store.Ideal.step, Book.created, if_pos hpassword]
      rcases request.call.onMap (book.profiles.map toStore) with ⟨answer, _ | stored⟩
      · rfl
      · rw [hpassword]
    next => cases hopened

section Serve

variable {files : Store.Files} {d : Disk} {book : Option Book} {request : Store.Request φ}

/-- A wrong password changes nothing. -/
theorem serve_locked (h : lib.Lawful) (hd : Kept lib name files d book)
    (hworks : request.env.Works name files) {e : CommandExc}
    (hopened : Book.opened book request.password = .error e) :
    e = .store Store.notDecrypted ∧
      (Store.serve lib name d request).1 = .error Store.notDecrypted ∧
      Kept lib name files (Store.serve lib name d request).2 book := by
  obtain ⟨salt, hholds⟩ := hd.holds
  obtain ⟨he, hstep⟩ := step_locked hopened salt
  have hserved := Store.serve_step h hholds (hworks.congr hd.others)
  have hafter := hserved.holds
  rw [hstep] at hafter
  refine ⟨he, by rw [hserved.answer, hstep], ⟨salt, hafter⟩, hd.storable, fun other hother => ?_⟩
  exact (hserved.others other hother).trans (hd.others other hother)

/-- A call that does not write. -/
theorem serve_read (h : lib.Lawful) (hd : Kept lib name files d book)
    (hworks : request.env.Works name files) {profiles : Dict String ServerProfile}
    (hopened : Book.opened book request.password = .ok profiles)
    (hcall : (request.call.onMap (profiles.map toStore)).2 = none) :
    (Store.serve lib name d request).1 = (request.call.onMap (profiles.map toStore)).1 ∧
      Kept lib name files (Store.serve lib name d request).2 book := by
  obtain ⟨salt, hholds⟩ := hd.holds
  obtain ⟨salt', hstep⟩ := step_opened hopened salt
  have hserved := Store.serve_step h hholds (hworks.congr hd.others)
  have hafter := hserved.holds
  rw [hstep, hcall] at hafter
  refine ⟨by rw [hserved.answer, hstep], ⟨salt, hafter⟩, hd.storable, fun other hother => ?_⟩
  exact (hserved.others other hother).trans (hd.others other hother)

/-- A call that writes the profiles of another book. -/
theorem serve_write (h : lib.Lawful) (hd : Kept lib name files d book)
    (hworks : request.env.Works name files) {profiles profiles' : Dict String ServerProfile}
    (hopened : Book.opened book request.password = .ok profiles)
    (hcall : (request.call.onMap (profiles.map toStore)).2 = some (profiles'.map toStore))
    (hstorable : ∀ id profile, profiles'.get? id = some profile → storable profile = true) :
    (Store.serve lib name d request).1 = (request.call.onMap (profiles.map toStore)).1 ∧
      Kept lib name files (Store.serve lib name d request).2 (some ⟨request.password, profiles'⟩) := by
  obtain ⟨salt, hholds⟩ := hd.holds
  obtain ⟨salt', hstep⟩ := step_opened hopened salt
  have hserved := Store.serve_step h hholds (hworks.congr hd.others)
  have hafter := hserved.holds
  rw [hstep, hcall] at hafter
  refine ⟨by rw [hserved.answer, hstep], ⟨salt', hafter⟩, ?_, fun other hother => ?_⟩
  · rintro b ⟨⟩
    exact hstorable
  · exact (hserved.others other hother).trans (hd.others other hother)

end Serve

/-! ## The methods agree -/

/-- Methods on two states that agree, for profiles with scalars only. -/
structure Methods.Agree {σ τ : Type} (R : σ → τ → Prop) (m : Methods σ) (m' : Methods τ) : Prop where
  addProfile : ∀ profile, storable profile = true →
    Effect.Agree R (m.addProfile profile) (m'.addProfile profile)
  listProfiles : Effect.Agree R m.listProfiles m'.listProfiles
  removeProfile : ∀ profileId, Effect.Agree R (m.removeProfile profileId) (m'.removeProfile profileId)
  getProfile : ∀ profileId, Effect.Agree R (m.getProfile profileId) (m'.getProfile profileId)

/-- A program behind a call has the outcome of the call. -/
theorem run_of_serve {α : Type} {request : Store.Request φ} {m : Act StoreExc Disk α}
    {g : α → Store.Answer φ} (hm : ∀ d, Store.serve lib name d request = (m >>= fun a => pure (g a)) d)
    {d : Disk} {r : Except StoreExc (Store.Answer φ)} (hout : (Store.serve lib name d request).1 = r) :
    (m d).1.map g = r ∧ (Store.serve lib name d request).2 = (m d).2 := by
  rw [hm] at hout ⊢
  rcases hrun : m d with ⟨e | a, d'⟩
  · rw [bind_error hrun] at hout ⊢
    exact ⟨hout, rfl⟩
  · rw [bind_ok hrun] at hout ⊢
    exact ⟨hout, rfl⟩

section Methods

variable {α β : Type} {files : Store.Files} {request : Store.Request φ} {m : Act StoreExc Disk α}
  {g : α → Store.Answer φ} {f : α → Act CommandExc Disk β}
  {k : Dict String ServerProfile → Act CommandExc (Option Book) β}

/-- A method agrees with one on books if it does so where the password opens the book. -/
theorem agree_opened (h : lib.Lawful) (hworks : request.env.Works name files)
    (hm : ∀ d, Store.serve lib name d request = (m >>= fun a => pure (g a)) d)
    (hopened : ∀ d book profiles, Kept lib name files d book →
      Book.opened book request.password = .ok profiles →
        ((mapError CommandExc.store m >>= f) d).1 = (k profiles book).1 ∧
          Kept lib name files ((mapError CommandExc.store m >>= f) d).2 (k profiles book).2) :
    Effect.Agree (Kept lib name files) (mapError CommandExc.store m >>= f)
      (bookMethods.openedBook request.password >>= k) := by
  intro d book hd
  have hbook : bookMethods.openedBook request.password book =
      (Book.opened book request.password, book) := rfl
  rcases hlocked : Book.opened book request.password with e | profiles <;> rw [hlocked] at hbook
  · obtain ⟨rfl, hserve, hkept⟩ := serve_locked h hd hworks hlocked
    obtain ⟨hout, hafter⟩ := run_of_serve hm hserve
    rw [hafter] at hkept
    rcases hrun : m d with ⟨e | a, d'⟩ <;> rw [hrun] at hout hkept
    · cases hout
      rw [bind_error (mapError_error hrun), bind_error hbook]
      exact ⟨rfl, hkept⟩
    · cases hout
  · rw [bind_ok hbook]
    exact hopened d book profiles hd hlocked

variable (request) in
/-- The same for a call that does not write. -/
theorem agree_read (h : lib.Lawful) (hworks : request.env.Works name files)
    (hm : ∀ d, Store.serve lib name d request = (m >>= fun a => pure (g a)) d)
    (hcall : ∀ profiles : Dict String ServerProfile,
      (request.call.onMap (profiles.map toStore)).2 = none)
    (hresult : ∀ profiles : Dict String ServerProfile,
      (∀ id profile, profiles.get? id = some profile → storable profile = true) →
        ∀ r, r.map g = (request.call.onMap (profiles.map toStore)).1 →
          ∃ out, (∀ d, (mapError CommandExc.store (ofExcept r) >>= f) d = (out, d)) ∧
            ∀ book, k profiles book = (out, book)) :
    Effect.Agree (Kept lib name files) (mapError CommandExc.store m >>= f)
      (bookMethods.openedBook request.password >>= k) := by
  refine agree_opened h hworks hm fun d book profiles hd hopened => ?_
  obtain ⟨hserve, hkept⟩ := serve_read h hd hworks hopened (hcall profiles)
  obtain ⟨hout, hafter⟩ := run_of_serve hm hserve
  rw [hafter] at hkept
  obtain ⟨out, hfile, hbook⟩ := hresult profiles (storable_of_opened hd hopened) _ hout
  have hsame : (mapError CommandExc.store m >>= f) d =
      (mapError CommandExc.store (ofExcept (m d).1) >>= f) (m d).2 := by
    rw [bind_apply, bind_apply]
    rfl
  rw [hsame, hfile, hbook]
  exact ⟨rfl, hkept⟩

end Methods

section Calls

variable {files : Store.Files} {env : Store.Env} {password : String} (hpassword : password ≠ "")

variable (φ rendering) in
theorem mapM_ofRecord {profiles : List ServerProfile}
    (h : ∀ profile ∈ profiles, storable profile = true) :
    ((profiles.map (toStore (φ := φ))).map Profile.record).mapM
      (fun record => foreignless (ofRecord rendering record)) = .ok profiles := by
  induction profiles with
  | nil => rfl
  | cons profile profiles ih =>
    obtain ⟨hprofile, hprofiles⟩ := List.forall_mem_cons.mp h
    rw [List.map_cons, List.map_cons, List.mapM_cons, ofRecord_toStore rendering hprofile,
      ih hprofiles]
    rfl

theorem agree_listProfiles (h : lib.Lawful) (hworks : env.Works name files) :
    Effect.Agree (Kept lib name files)
      (mapError CommandExc.store (Store.listProfiles lib ⟨name, password, hpassword⟩ env) >>=
        fun records => ofExcept (records.mapM fun record => foreignless (ofRecord rendering record)))
      ((bookMethods password).listProfiles) := by
  refine agree_read ⟨password, hpassword, .list, env⟩ h hworks (fun _ => rfl)
    (fun _ => rfl) fun profiles hstorable r hr => ?_
  rcases r with e | records
  · cases hr
  obtain rfl : records = ((profiles.map toStore).values).map Profile.record := by
    cases hr
    rfl
  refine ⟨.ok profiles.values, fun d => ?_, fun book => rfl⟩
  have hvalues : ∀ profile ∈ profiles.values, storable profile = true := by
    intro profile hprofile
    obtain ⟨id, hid⟩ := Dict.exists_get?_of_mem_values hprofile
    exact hstorable id profile hid
  have hmap := mapM_ofRecord φ rendering hvalues
  rw [← Dict.values_map] at hmap
  exact congrArg (fun r => (r, d)) hmap

theorem agree_getProfile (h : lib.Lawful) (hworks : env.Works name files) (profileId : String) :
    Effect.Agree (Kept lib name files)
      (mapError CommandExc.store (Store.getProfile lib ⟨name, password, hpassword⟩ env profileId) >>=
        fun record => ofExcept (foreignless (ofRecord rendering record)))
      ((bookMethods password).getProfile profileId) := by
  refine agree_read ⟨password, hpassword, .get profileId, env⟩ h hworks (fun _ => rfl)
    (fun profiles => ?_) fun profiles hstorable r hr => ?_
  · simp only [Store.Call.onMap]
    split <;> rfl
  simp only [Store.Call.onMap, Dict.get?_map] at hr
  cases hprofile : profiles.get? profileId with
  | none =>
    rw [hprofile] at hr
    simp only [Option.map_none] at hr
    rcases r with e | record <;> cases hr
    exact ⟨.error (.store (Store.noProfile profileId)), fun d => rfl, fun book => rfl⟩
  | some profile =>
    rw [hprofile] at hr
    simp only [Option.map_some] at hr
    rcases r with e | record <;> cases hr
    refine ⟨.ok profile, fun d => ?_, fun book => rfl⟩
    have hback := ofRecord_toStore (φ := φ) rendering (hstorable profileId profile hprofile)
    exact congrArg (fun found => (foreignless found, d)) hback

theorem agree_addProfile (h : lib.Lawful) (hworks : env.Works name files) {profile : ServerProfile}
    (hstorable : storable profile = true) :
    Effect.Agree (Kept lib name files)
      (mapError CommandExc.store
        (Store.addProfile lib ⟨name, password, hpassword⟩ env (toStore profile)))
      ((bookMethods password).addProfile profile) := by
  rw [← bind_return (mapError CommandExc.store _)]
  have hm : ∀ d, Store.serve lib name d ⟨password, hpassword, .add (toStore profile), env⟩ = _ :=
    fun _ => rfl
  refine agree_opened h hworks hm fun d book profiles hd hopened => ?_
  have hcall : (Store.Call.onMap (profiles.map toStore) (.add (toStore profile))).2 =
      some ((profiles.set profile.profileId profile).map (toStore (φ := φ))) :=
    congrArg some (Dict.map_set toStore profiles profile.profileId profile).symm
  obtain ⟨hserve, hkept⟩ := serve_write h hd hworks hopened hcall fun id found hfound => by
    rw [Dict.get?_set] at hfound
    split at hfound
    next =>
      cases hfound
      exact hstorable
    next => exact storable_of_opened hd hopened id found hfound
  obtain ⟨hout, hafter⟩ := run_of_serve hm hserve
  rw [hafter] at hkept
  rcases hrun : Store.addProfile lib ⟨name, password, hpassword⟩ env (toStore profile) d with
    ⟨e | _, d'⟩ <;> rw [hrun] at hout hkept
  · cases hout
  · rw [bind_ok (mapError_ok hrun)]
    exact ⟨rfl, hkept⟩

theorem agree_removeProfile (h : lib.Lawful) (hworks : env.Works name files) (profileId : String) :
    Effect.Agree (Kept lib name files)
      (mapError CommandExc.store
        (Store.removeProfile lib ⟨name, password, hpassword⟩ env profileId))
      ((bookMethods password).removeProfile profileId) := by
  rw [← bind_return (mapError CommandExc.store _)]
  have hm : ∀ d, Store.serve lib name d ⟨password, hpassword, .remove profileId, env⟩ = _ :=
    fun _ => rfl
  refine agree_opened h hworks hm fun d book profiles hd hopened => ?_
  have hget : (profiles.map (toStore (φ := φ))).get? profileId = (profiles.get? profileId).map toStore :=
    Dict.get?_map toStore profiles profileId
  cases hprofile : profiles.get? profileId with
  | none =>
    rw [hprofile] at hget
    have hcall : Store.Call.onMap (profiles.map (toStore (φ := φ))) (.remove profileId) =
        (.error (Store.noProfile profileId), none) := by
      simp only [Store.Call.onMap, hget, Option.map_none]
    obtain ⟨hserve, hkept⟩ := serve_read h hd hworks hopened (congrArg Prod.snd hcall)
    obtain ⟨hout, hafter⟩ := run_of_serve hm (hserve.trans (congrArg Prod.fst hcall))
    rw [hafter] at hkept
    rcases hrun : Store.removeProfile lib ⟨name, password, hpassword⟩ env profileId d with
      ⟨e | _, d'⟩ <;> rw [hrun] at hout hkept
    · cases hout
      rw [bind_error (mapError_error hrun)]
      exact ⟨rfl, hkept⟩
    · cases hout
  | some profile =>
    rw [hprofile] at hget
    have hcall : Store.Call.onMap (profiles.map (toStore (φ := φ))) (.remove profileId) =
        (.ok .done, some ((profiles.erase profileId).map toStore)) := by
      simp only [Store.Call.onMap, hget, Option.map_some, Dict.map_erase]
    obtain ⟨hserve, hkept⟩ := serve_write h hd hworks hopened (congrArg Prod.snd hcall)
      fun id found hfound => by
        rw [Dict.get?_erase] at hfound
        split at hfound
        next => cases hfound
        next => exact storable_of_opened hd hopened id found hfound
    obtain ⟨hout, hafter⟩ := run_of_serve hm (hserve.trans (congrArg Prod.fst hcall))
    rw [hafter] at hkept
    rcases hrun : Store.removeProfile lib ⟨name, password, hpassword⟩ env profileId d with
      ⟨e | _, d'⟩ <;> rw [hrun] at hout hkept
    · cases hout
    · rw [bind_ok (mapError_ok hrun)]
      exact ⟨rfl, hkept⟩

end Calls

/-- The methods on the file of a book agree with those on the book. -/
theorem agree_methods (h : lib.Lawful) {files : Store.Files} {inv : Invocation}
    (hworks : inv.env.Works name files) (hlist : inv.listEnv.Works name files)
    (hpassword : inv.password ≠ "") :
    Methods.Agree (Kept lib name files) (fileMethods lib rendering ⟨name, inv.password, hpassword⟩ inv)
      (bookMethods inv.password) where
  addProfile profile hstorable := by
    simp only [fileMethods, hstorable, if_true]
    exact agree_addProfile hpassword h hworks hstorable
  listProfiles := agree_listProfiles hpassword h hlist
  removeProfile := agree_removeProfile hpassword h hworks
  getProfile := agree_getProfile hpassword h hworks

end Refinement

/-! ## The commands agree -/

/-- What a `ProfileStore()` gives on two states: the same error, or methods that agree. -/
def Opened {σ τ : Type} (R : σ → τ → Prop) :
    Except CommandExc (Methods σ) → Except CommandExc (Methods τ) → Prop
  | .error e, .error e' => e = e'
  | .ok m, .ok m' => m.Agree R m'
  | _, _ => False

/-- Two processes whose stores are related and which have shown the same. -/
structure Process.Alike {σ τ : Type} (R : σ → τ → Prop) (p : Process σ) (p' : Process τ) : Prop where
  store : R p.store p'.store
  printed : p.printed = p'.printed
  started : p.started = p'.started

section Agreement

variable {σ τ : Type} {R : σ → τ → Prop} {unicode : Url.Unicode} {inv : Invocation}

theorem storable_of_parse {link profileId addedAtIso : String} {profile : ServerProfile}
    (h : parseVlessLink unicode link profileId addedAtIso = .ok profile) : storable profile = true := by
  obtain ⟨outbound, hconfig, -⟩ := read_of_parse h
  unfold storable
  rw [hconfig]
  rfl

theorem agree_print (line : String) :
    Effect.Agree (Process.Alike R) (print inv line : Act CommandExc (Process σ) Unit)
      (print inv line) := by
  unfold print
  cases inv.console line with
  | some e => exact Agree.raise _
  | none =>
    exact Agree.modify fun _ _ h => ⟨h.store, congrArg (· ++ [line]) h.printed, h.started⟩

theorem agree_onStore {α : Type} {m : Act CommandExc σ α} {m' : Act CommandExc τ α}
    (h : Effect.Agree R m m') : Effect.Agree (Process.Alike R) (onStore m) (onStore m') :=
  h.zoom (fun _ _ hp => hp.store) fun _ _ _ _ hp hstore => ⟨hstore, hp.printed, hp.started⟩

/-- What goes on with the methods that a `ProfileStore()` gives. -/
theorem agree_profileStore {α : Type} {o : Except CommandExc (Methods σ)}
    {o' : Except CommandExc (Methods τ)} (ho : Opened R o o')
    {f : Methods σ → Act CommandExc (Process σ) α} {f' : Methods τ → Act CommandExc (Process τ) α}
    (hf : ∀ m m', Methods.Agree R m m' → Effect.Agree (Process.Alike R) (f m) (f' m')) :
    Effect.Agree (Process.Alike R) (ofExcept o >>= f) (ofExcept o' >>= f') := by
  rcases o with e | m <;> rcases o' with e' | m'
  · obtain rfl : e = e' := ho
    exact Agree.raise e
  · exact ho.elim
  · exact ho.elim
  · exact hf m m' ho

variable {o : Except CommandExc (Methods σ)} {o' : Except CommandExc (Methods τ)} (ho : Opened R o o')
include ho

theorem agree_runProfileAdd (link : String) :
    Effect.Agree (Process.Alike R) (runProfileAdd unicode o inv link)
      (runProfileAdd unicode o' inv link) := by
  refine agree_profileStore ho fun m m' h => Agree.handle ?_ fun exc => ?_
  · refine Agree.bind ?_ fun profile => agree_print _
    unfold addFromLink
    cases hparse : parseVlessLink unicode link inv.profileId inv.addedAtIso with
    | error e => exact Agree.raise (CommandExc.link e)
    | ok profile =>
      exact (agree_onStore (h.addProfile profile (storable_of_parse hparse))).bind fun _ =>
        Agree.pure profile
  · exact (agree_print _).bind fun _ => Agree.raise _

theorem agree_runProfileList :
    Effect.Agree (Process.Alike R) (runProfileList o inv) (runProfileList o' inv) := by
  refine agree_profileStore ho fun m m' h => Agree.bind (agree_onStore h.listProfiles) fun profiles => ?_
  exact Agree.ite (agree_print _) (Agree.forM (fun profile => agree_print _) profiles)

theorem agree_runProfileRemove (profileId : String) :
    Effect.Agree (Process.Alike R) (runProfileRemove o inv profileId)
      (runProfileRemove o' inv profileId) := by
  refine agree_profileStore ho fun m m' h => Agree.handle ?_ fun exc => ?_
  · exact (agree_onStore (h.removeProfile profileId)).bind fun _ => agree_print _
  · exact (agree_print _).bind fun _ => Agree.raise _

omit ho in
theorem agree_startConnection (start : Start) :
    Effect.Agree (Process.Alike R)
      (startConnection inv start : Act CommandExc (Process σ) (Option CommandExc))
      (startConnection inv start) := by
  refine Agree.bind (Agree.modify fun _ _ h => ⟨h.store, h.printed, rfl⟩) fun _ => ?_
  rcases inv.session with (_ | _ | _) | _
  · exact Agree.pure _
  · exact Agree.pure _
  · exact Agree.handle ((agree_print _).bind fun _ => Agree.pure _) fun exc => Agree.pure _
  · exact Agree.pure _

theorem agree_runConnect (profileId : String) (autoFailover killswitch : Bool) :
    Effect.Agree (Process.Alike R) (runConnect o inv profileId autoFailover killswitch)
      (runConnect o' inv profileId autoFailover killswitch) := by
  have hfails (exc : CommandExc) (line : String) : Effect.Agree (Process.Alike R)
      ((print inv line : Act CommandExc (Process σ) Unit) >>= fun _ => (raise exc : Act _ _ Unit))
      (print inv line >>= fun _ => raise exc) := (agree_print line).bind fun _ => Agree.raise exc
  refine Agree.handle (agree_profileStore ho fun m m' h => ?_) fun exc => ?_
  · refine (agree_onStore (h.getProfile profileId)).bind fun profile => Agree.bind ?_ fun _ => ?_
    · exact Agree.ite (agree_onStore h.listProfiles) (Agree.pure [])
    · refine (agree_startConnection _).bind fun failure => ?_
      cases (inv.closing.map CommandExc.raised).or failure with
      | none => exact Agree.pure ()
      | some exc => exact Agree.raise _
  · exact Agree.ite (hfails _ _) (Agree.ite (hfails _ _) (Agree.ite (Agree.raise _) (hfails _ _)))

variable (unicode inv) in
theorem agree_main : Effect.Agree (Process.Alike R) (main unicode o inv) (main unicode o' inv) := by
  refine Agree.bind (Agree.handle ?_ fun exc => Agree.ite (Agree.raise _) ?_) fun _ => Agree.raise _
  · unfold Invocation.func
    cases inv.command with
    | profileAdd link => exact agree_runProfileAdd ho link
    | profileList => exact agree_runProfileList ho
    | profileRemove profileId => exact agree_runProfileRemove ho profileId
    | connect profileId autoFailover killswitch =>
      exact agree_runConnect ho profileId autoFailover killswitch
  · exact (agree_print _).bind fun _ => (agree_print _).bind fun _ => Agree.raise _

end Agreement

/-! ## Every sequence of invocations -/

section Files

variable {κ φ : Type} {lib : Library κ φ}

/-- Nothing fails in the system calls of these invocations. -/
def Works (name : String) (files : Store.Files) (invs : List Invocation) : Prop :=
  ∀ inv ∈ invs, inv.env.Works name files ∧ inv.listEnv.Works name files

/-- One invocation does the same on the file as on the book, and leaves the file of the book. -/
theorem invoke_kept (h : lib.Lawful) (rendering : Rendering φ) (unicode : Url.Unicode) {name : String}
    {files : Store.Files} {d : Disk} {book : Option Book} (hd : Kept lib name files d book)
    {inv : Invocation} (hworks : inv.env.Works name files) (hlist : inv.listEnv.Works name files) :
    (invoke unicode (openFile lib rendering name) d inv).1 = (invoke unicode openBook book inv).1 ∧
      Kept lib name files (invoke unicode (openFile lib rendering name) d inv).2
        (invoke unicode openBook book inv).2 := by
  have hopened : Opened (Kept lib name files) (openFile lib rendering name inv) (openBook inv) := by
    unfold openFile openBook
    split
    next => exact rfl
    next hpassword => exact agree_methods h hworks hlist hpassword
  obtain ⟨hending, hafter⟩ := agree_main unicode inv hopened ⟨d, [], none⟩
    ⟨book, [], none⟩ ⟨hd, rfl, rfl⟩
  exact ⟨Outcome.ext hending hafter.printed hafter.started, hafter.store⟩

end Files

/-! ### An example -/

/-- An invocation with the right password, on a host where nothing fails. -/
def visit (command : Command) : Invocation where
  command
  password := "right"
  profileId := "7f"
  addedAtIso := "2026-01-01"
  env := Store.calm [1]
  listEnv := Store.calm [1]

/-- No profile of a link has a value that is rendered. -/
def plainRendering : Rendering Empty := ⟨fun _ => "", fun _ => "", fun _ => .ok 0⟩

theorem works_calm {invs : List Invocation}
    (h : ∀ inv ∈ invs, inv.env = Store.calm [1] ∧ inv.listEnv = Store.calm [1]) :
    Works "profiles.json" Store.emptyDisk.files invs := by
  intro inv hinv
  obtain ⟨henv, hlist⟩ := h inv hinv
  rw [henv, hlist]
  exact ⟨Store.calm_works [1] "profiles.json", Store.calm_works [1] "profiles.json"⟩

/-- An invocation that prints to a console that takes nothing. -/
def visitUnseen (command : Command) : Invocation :=
  { visit command with console := fun _ => some (.error .other "closing tag doesn't match") }

end Bimarz.Commands
