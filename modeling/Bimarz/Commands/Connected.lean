import Bimarz.Commands.Book

/-!
# What is connected was added

`change_of_invoke` says what one invocation does to the book, and `connected_link`, for every
sequence of invocations on the file, that a profile which is connected is that of a link which was
added before and has not been changed since.
-/

namespace Bimarz.Commands

open Effect Effect.Act
open Store (Disk StoreExc Library Profile Record)

/-! ## What an invocation does to a book -/

section Book

variable {unicode : Url.Unicode} {inv : Invocation} {book : Option Book}

/-- The invocation would change the profile with this id. -/
def Invocation.Concerns (inv : Invocation) (profileId : String) : Prop :=
  inv.command = .profileRemove profileId ∨
    ∃ link, inv.command = .profileAdd link ∧ inv.profileId = profileId

/-- The profiles that an invocation opens. -/
def Invocation.Opens (inv : Invocation) (book : Option Book) (profiles : Dict String ServerProfile) :
    Prop :=
  inv.password ≠ "" ∧ Book.opened book inv.password = .ok profiles

/-- An invocation fails or leaves the book alone, or it is one of these. It exits with 0, unless the
console does not take the line that says what was done. -/
inductive Change (unicode : Url.Unicode) (book : Option Book) (inv : Invocation) (outcome : Outcome) :
    Option Book → Prop
  | still (h : outcome.ending = .error (.systemExit 0) → ∀ profileId, ¬inv.Concerns profileId) :
    Change unicode book inv outcome book
  | added (link : String) (profile : ServerProfile) (profiles : Dict String ServerProfile)
    (hcommand : inv.command = .profileAdd link)
    (hparse : parseVlessLink unicode link inv.profileId inv.addedAtIso = .ok profile)
    (hopens : inv.Opens book profiles)
    (hending : outcome.ending = .error (.systemExit 0) ∨ inv.console (addedLine profile) ≠ none) :
    Change unicode book inv outcome
      (some ⟨inv.password, profiles.set profile.profileId profile⟩)
  | removed (profileId : String) (profiles : Dict String ServerProfile)
    (hcommand : inv.command = .profileRemove profileId) (hopens : inv.Opens book profiles)
    (hending : outcome.ending = .error (.systemExit 0) ∨
      inv.console (removedLine profileId) ≠ none) :
    Change unicode book inv outcome (some ⟨inv.password, profiles.erase profileId⟩)

theorem openBook_empty (h : inv.password = "") : openBook inv = .error emptyPassword := if_pos h

theorem openBook_ok (h : inv.password ≠ "") : openBook inv = .ok (bookMethods inv.password) :=
  if_neg h

/-! ### Printing -/

section Printing

variable {σ : Type} {line : String}

theorem print_refused {e : Exc} (h : inv.console line = some e) (p : Process σ) :
    print inv line p = (.error (.raised e), p) := by
  unfold print
  rw [h]
  rfl

theorem print_taken (h : inv.console line = none) (p : Process σ) :
    print inv line p = (.ok (), { p with printed := p.printed ++ [line] }) := by
  unfold print
  rw [h]
  rfl

/-- A program that ends with an exception other than an exit with 0, and leaves the store alone. -/
def Loses {α : Type} (m : Act CommandExc (Process σ) α) : Prop :=
  ∀ p, ∃ e p', m p = (.error e, p') ∧ e ≠ .systemExit 0 ∧ p'.store = p.store

theorem loses_raise {α : Type} {e : CommandExc} (h : e ≠ .systemExit 0) :
    Loses (raise e : Act CommandExc (Process σ) α) := fun p => ⟨e, p, rfl, h, rfl⟩

theorem loses_exit {α : Type} : Loses (raise (.systemExit 1) : Act CommandExc (Process σ) α) :=
  loses_raise nofun

theorem loses_print {α : Type} (line : String) {f : Unit → Act CommandExc (Process σ) α}
    (h : Loses (f ())) : Loses (print inv line >>= f) := by
  intro p
  cases hconsole : inv.console line with
  | some e => exact ⟨.raised e, p, bind_error (print_refused hconsole p), nofun, rfl⟩
  | none =>
    rw [bind_ok (print_taken hconsole p)]
    obtain ⟨e, p', hrun, hne, hstore⟩ := h { p with printed := p.printed ++ [line] }
    exact ⟨e, p', hrun, hne, hstore⟩

/-- What a command does last, in its `try` block, with the handler that prints a failure. -/
theorem handle_print {m : Act CommandExc (Process σ) Unit} {p p' : Process σ}
    (hm : m p = print inv line p') {h : CommandExc → Act CommandExc (Process σ) Unit}
    (hh : ∀ exc, Loses (h exc)) :
    (handle CommandExc.isException m h p).2.store = p'.store ∧
      ((handle CommandExc.isException m h p).1 = .ok () ∨ inv.console line ≠ none) := by
  cases hconsole : inv.console line with
  | none =>
    rw [handle_ok (hm.trans (print_taken hconsole p'))]
    exact ⟨rfl, Or.inl rfl⟩
  | some e =>
    refine ⟨?_, Or.inr nofun⟩
    have hraised := hm.trans (print_refused hconsole p')
    cases hexc : (CommandExc.raised e).isException with
    | false => rw [handle_uncaught hraised hexc]
    | true =>
      rw [handle_caught hraised hexc]
      obtain ⟨e', p'', hrun, -, hstore⟩ := hh (.raised e) p'
      rw [hrun]
      exact hstore

end Printing

/-- How a process ends, and what it leaves, when its command has ended. -/
theorem main_of_func {σ : Type} {o : Except CommandExc (Methods σ)} {p p' : Process σ}
    {r : Except CommandExc Unit} (hfunc : inv.func unicode o p = (r, p')) :
    (main unicode o inv p).2.store = p'.store ∧
      ((main unicode o inv p).1 = .error (.systemExit 0) → r = .ok () ∨ r = .error (.systemExit 0)) ∧
      (r = .ok () → (main unicode o inv p).1 = .error (.systemExit 0)) := by
  unfold main
  rcases r with e | _
  · cases hexc : e.isException with
    | false =>
      rw [bind_error (handle_uncaught hfunc hexc)]
      exact ⟨rfl, fun h => Or.inr (congrArg Except.error (Except.error.inj h)), nofun⟩
    | true =>
      have hne : e ≠ .systemExit 0 := by
        rintro rfl
        cases hexc
      have hloses : Loses (if inv.debug then raise e
          else do
            print inv s!"[red]Error: {e.message}[/red]"
            print inv ("[yellow]hint:[/yellow] run with --debug for full traceback, or " ++
              "'bimarz doctor' to check your setup")
            raise (.systemExit 1) : Act CommandExc (Process σ) Unit) := by
        split
        · exact loses_raise hne
        · exact loses_print _ (loses_print _ loses_exit)
      obtain ⟨e', p'', hrun, hne', hstore⟩ := hloses p'
      rw [bind_error ((handle_caught hfunc hexc).trans hrun)]
      exact ⟨hstore, fun h => absurd (Except.error.inj h) hne', nofun⟩
  · rw [bind_ok (handle_ok hfunc)]
    exact ⟨rfl, fun _ => Or.inl rfl, fun _ => rfl⟩

/-- A command has failed, and the book is as before. -/
def Failed (p : Process (Option Book)) (end_ : Except CommandExc Unit × Process (Option Book)) : Prop :=
  end_.1 ≠ .ok () ∧ end_.1 ≠ .error (.systemExit 0) ∧ end_.2.store = p.store

theorem Loses.failed {m : Act CommandExc (Process (Option Book)) Unit} (h : Loses m)
    (p : Process (Option Book)) : Failed p (m p) := by
  obtain ⟨e, p', hrun, hne, hstore⟩ := h p
  rw [hrun]
  exact ⟨nofun, fun hexit => hne (Except.error.inj hexit), hstore⟩

/-- The method on a book, seen from a process. -/
theorem onStore_apply {α : Type} {m : Act CommandExc (Option Book) α} {p : Process (Option Book)}
    {r : Except CommandExc α} {book' : Option Book} (h : m p.store = (r, book')) :
    onStore m p = (r, { p with store := book' }) := by
  unfold onStore zoom
  rw [h]

theorem openedBook_apply {password : String} {r : Except CommandExc (Dict String ServerProfile)}
    (h : Book.opened book password = r) : bookMethods.openedBook password book = (r, book) := by
  rw [← h]
  rfl

/-- A method that begins with opening the book. -/
theorem onStore_locked {α : Type} {k : Dict String ServerProfile → Act CommandExc (Option Book) α}
    {password : String} {p : Process (Option Book)} {e : CommandExc}
    (h : Book.opened p.store password = .error e) :
    onStore (bookMethods.openedBook password >>= k) p = (.error e, p) :=
  onStore_apply (bind_error (openedBook_apply h))

theorem onStore_opened {α : Type} {k : Dict String ServerProfile → Act CommandExc (Option Book) α}
    {password : String} {p : Process (Option Book)} {profiles : Dict String ServerProfile}
    (h : Book.opened p.store password = .ok profiles) {r : Except CommandExc α}
    {book' : Option Book} (hk : k profiles p.store = (r, book')) :
    onStore (bookMethods.openedBook password >>= k) p = (r, { p with store := book' }) :=
  onStore_apply ((bind_ok (openedBook_apply h)).trans hk)

theorem opened_error {password : String} {e : CommandExc}
    (h : Book.opened book password = .error e) : e.isException = true := by
  unfold Book.opened at h
  split at h
  · cases h
  · split at h
    · cases h
    · cases h
      rfl

theorem runProfileAdd_book (link : String) (p : Process (Option Book)) :
    Failed p (runProfileAdd unicode (openBook inv) inv link p) ∨
      ∃ profile profiles, parseVlessLink unicode link inv.profileId inv.addedAtIso = .ok profile ∧
        inv.Opens p.store profiles ∧
        (runProfileAdd unicode (openBook inv) inv link p).2.store =
          some ⟨inv.password, profiles.set profile.profileId profile⟩ ∧
        ((runProfileAdd unicode (openBook inv) inv link p).1 = .ok () ∨
          inv.console (addedLine profile) ≠ none) := by
  by_cases hpassword : inv.password = ""
  · rw [openBook_empty hpassword]
    exact Or.inl ⟨nofun, nofun, rfl⟩
  rw [openBook_ok hpassword]
  have hfails {e : CommandExc} (he : e.isException = true)
      (hadd : addFromLink unicode inv (bookMethods inv.password) link p = (.error e, p)) :
      Failed p (runProfileAdd unicode (.ok (bookMethods inv.password)) inv link p) := by
    unfold runProfileAdd
    rw [bind_ok (ofExcept_apply _ p), handle_caught (bind_error hadd) he]
    exact (loses_print _ loses_exit).failed p
  unfold runProfileAdd at hfails ⊢
  cases hparse : parseVlessLink unicode link inv.profileId inv.addedAtIso with
  | error e =>
    refine Or.inl (hfails (e := .link e) rfl ?_)
    unfold addFromLink
    rw [hparse]
    rfl
  | ok profile =>
    cases hopened : Book.opened p.store inv.password with
    | error e =>
      refine Or.inl (hfails (opened_error hopened) ?_)
      unfold addFromLink
      rw [hparse]
      exact (bind_ok rfl).trans (bind_error (onStore_locked hopened))
    | ok profiles =>
      refine Or.inr ⟨profile, profiles, rfl, ⟨hpassword, hopened⟩, ?_⟩
      have hadd : addFromLink unicode inv (bookMethods inv.password) link p = (.ok profile,
          { p with store := some ⟨inv.password, profiles.set profile.profileId profile⟩ }) := by
        unfold addFromLink
        rw [hparse]
        exact bind_ok (onStore_opened hopened rfl)
      have hrun : (do
          let profile ← addFromLink unicode inv (bookMethods inv.password) link
          print inv (addedLine profile)) p = print inv (addedLine profile)
            { p with store := some ⟨inv.password, profiles.set profile.profileId profile⟩ } :=
        bind_ok hadd
      rw [bind_ok (ofExcept_apply _ p)]
      exact handle_print hrun fun exc => loses_print _ loses_exit

theorem runProfileRemove_book (profileId : String) (p : Process (Option Book)) :
    Failed p (runProfileRemove (openBook inv) inv profileId p) ∨
      ∃ profiles, inv.Opens p.store profiles ∧
        (runProfileRemove (openBook inv) inv profileId p).2.store =
          some ⟨inv.password, profiles.erase profileId⟩ ∧
        ((runProfileRemove (openBook inv) inv profileId p).1 = .ok () ∨
          inv.console (removedLine profileId) ≠ none) := by
  by_cases hpassword : inv.password = ""
  · rw [openBook_empty hpassword]
    exact Or.inl ⟨nofun, nofun, rfl⟩
  rw [openBook_ok hpassword]
  have hfails {e : CommandExc} (he : e.isException = true)
      (hremove : onStore ((bookMethods inv.password).removeProfile profileId) p = (.error e, p)) :
      Failed p (runProfileRemove (.ok (bookMethods inv.password)) inv profileId p) := by
    unfold runProfileRemove
    rw [bind_ok (ofExcept_apply _ p), handle_caught (bind_error hremove) he]
    exact (loses_print _ loses_exit).failed p
  cases hopened : Book.opened p.store inv.password with
  | error e => exact Or.inl (hfails (opened_error hopened) (onStore_locked hopened))
  | ok profiles =>
    cases hprofile : profiles.get? profileId with
    | none =>
      refine Or.inl (hfails (e := .store (Store.noProfile profileId)) rfl ?_)
      have hmethod : (bookMethods inv.password).removeProfile profileId p.store =
          (.error (.store (Store.noProfile profileId)), p.store) := by
        refine (bind_ok (openedBook_apply hopened)).trans ?_
        simp only [hprofile]
        rfl
      exact onStore_apply hmethod
    | some profile =>
      refine Or.inr ⟨profiles, ⟨hpassword, hopened⟩, ?_⟩
      have hremove : onStore ((bookMethods inv.password).removeProfile profileId) p =
          (.ok (), { p with store := some ⟨inv.password, profiles.erase profileId⟩ }) := by
        refine onStore_opened hopened ?_
        simp only [hprofile]
        rfl
      unfold runProfileRemove
      have hrun : (do
          onStore ((bookMethods inv.password).removeProfile profileId)
          print inv (removedLine profileId)) p = print inv (removedLine profileId)
            { p with store := some ⟨inv.password, profiles.erase profileId⟩ } :=
        bind_ok hremove
      rw [bind_ok (ofExcept_apply _ p)]
      exact handle_print hrun fun exc => loses_print _ loses_exit

/-! ### What stays -/

section Frames

variable {σ τ : Type} {v : Process σ → τ}

theorem frames_print (h : ∀ p line, v { p with printed := line } = v p) (line : String) :
    Frames v (print inv line) := by
  unfold print
  cases inv.console line with
  | some e => exact Frames.raise _
  | none => exact Frames.modify fun p => h p _

theorem frames_ofExcept {α : Type} (r : Except CommandExc α) :
    Frames v (ofExcept r : Act CommandExc (Process σ) α) := fun _ => rfl

theorem frames_profileStore {α : Type} {o : Except CommandExc (Methods σ)}
    {f : Methods σ → Act CommandExc (Process σ) α} (h : ∀ svc, o = .ok svc → Frames v (f svc)) :
    Frames v (ofExcept o >>= f) := by
  cases ho : o with
  | error e => exact Frames.raise e
  | ok svc => exact h svc ho

theorem frames_main {o : Except CommandExc (Methods σ)}
    (h : ∀ p line, v { p with printed := line } = v p) (hfunc : Frames v (inv.func unicode o)) :
    Frames v (main unicode o inv) := by
  refine Frames.bind (Frames.handle hfunc fun exc => Frames.ite (Frames.raise _) ?_) fun _ =>
    Frames.raise _
  exact (frames_print h _).bind fun _ => (frames_print h _).bind fun _ => Frames.raise _

theorem frames_runProfileList {o : Except CommandExc (Methods σ)}
    (h : ∀ p line, v { p with printed := line } = v p)
    (hlist : ∀ svc, o = .ok svc → Frames v (onStore svc.listProfiles)) :
    Frames v (runProfileList o inv) := by
  refine frames_profileStore fun svc ho => Frames.bind (hlist svc ho) fun profiles => ?_
  exact Frames.ite (frames_print h _) (Frames.forM (fun profile => frames_print h _) profiles)

/-- What does not look at the started connection either stays while `connect` runs. -/
theorem frames_runConnect {o : Except CommandExc (Methods σ)}
    (h : ∀ p line, v { p with printed := line } = v p)
    (hstarted : ∀ p start, v { p with started := start } = v p)
    (hstore : ∀ svc, o = .ok svc → Frames v (onStore svc.listProfiles) ∧
      ∀ profileId, Frames v (onStore (svc.getProfile profileId)))
    (profileId : String) (autoFailover killswitch : Bool) :
    Frames v (runConnect o inv profileId autoFailover killswitch) := by
  have hfails (exc : CommandExc) (line : String) :
      Frames v (print inv line >>= fun _ => (raise exc : Act _ _ Unit)) :=
    (frames_print h line).bind fun _ => Frames.raise exc
  refine Frames.handle ?_ fun exc => ?_
  · refine frames_profileStore fun svc ho => ?_
    obtain ⟨hlist, hget⟩ := hstore svc ho
    refine Frames.bind (hget profileId) fun profile => Frames.bind ?_ fun profiles => ?_
    · exact Frames.ite hlist (Frames.pure [])
    refine Frames.bind (Frames.bind (Frames.modify fun p => hstarted p _) fun _ => ?_) fun failure => ?_
    · rcases inv.session with (_ | _ | _) | _
      · exact Frames.pure _
      · exact Frames.pure _
      · exact Frames.handle ((frames_print h _).bind fun _ => Frames.pure _) fun _ => Frames.pure _
      · exact Frames.pure _
    · cases (inv.closing.map CommandExc.raised).or failure with
      | none => exact Frames.pure ()
      | some exc => exact Frames.raise _
  · exact Frames.ite (hfails _ _) (Frames.ite (hfails _ _) (Frames.ite (Frames.raise _) (hfails _ _)))

end Frames

/-- Reading leaves the book as it is. -/
theorem read_book {α : Type} {password : String}
    {k : Dict String ServerProfile → Act CommandExc (Option Book) α}
    (hk : ∀ profiles b, (k profiles b).2 = b) (b : Option Book) :
    ((bookMethods.openedBook password >>= k) b).2 = b := by
  cases hopened : Book.opened b password with
  | error e => rw [bind_error (openedBook_apply hopened)]
  | ok profiles => rw [bind_ok (openedBook_apply hopened), hk]

theorem frames_reading {svc : Methods (Option Book)} (h : openBook inv = .ok svc) :
    Frames Process.store (onStore svc.listProfiles) ∧
      ∀ profileId, Frames Process.store (onStore (svc.getProfile profileId)) := by
  obtain rfl : bookMethods inv.password = svc := by
    unfold openBook at h
    split at h
    next => cases h
    next => exact Except.ok.inj h
  constructor
  · exact fun p => read_book (fun _ _ => rfl) p.store
  · intro profileId p
    refine read_book (fun profiles b => ?_) p.store
    cases profiles.get? profileId <;> rfl

theorem change_of_failed
    (h : Failed ⟨book, [], none⟩ (inv.func unicode (openBook inv) ⟨book, [], none⟩)) :
    Change unicode book inv (invoke unicode openBook book inv).1
      (invoke unicode openBook book inv).2 := by
  obtain ⟨hstore, hends, -⟩ :=
    @main_of_func unicode inv _ (openBook inv) ⟨book, [], none⟩ _ _ (Prod.eta _).symm
  have hsame : (invoke unicode openBook book inv).2 = book := hstore.trans h.2.2
  rw [hsame]
  exact .still fun hexit => absurd (hends hexit) (not_or.mpr ⟨h.1, h.2.1⟩)

theorem change_of_frames (hconcerns : ∀ profileId, ¬inv.Concerns profileId)
    (h : Frames Process.store (inv.func unicode (openBook inv))) :
    Change unicode book inv (invoke unicode openBook book inv).1
      (invoke unicode openBook book inv).2 := by
  have hsame : (invoke unicode openBook book inv).2 = book := frames_main (fun _ _ => rfl) h _
  rw [hsame]
  exact .still fun _ => hconcerns

/-- **What an invocation does to a book.** -/
theorem change_of_invoke (unicode : Url.Unicode) (book : Option Book) (inv : Invocation) :
    Change unicode book inv (invoke unicode openBook book inv).1
      (invoke unicode openBook book inv).2 := by
  obtain ⟨hstore, -, hends⟩ :=
    @main_of_func unicode inv _ (openBook inv) ⟨book, [], none⟩ _ _ (Prod.eta _).symm
  have hafter : (invoke unicode openBook book inv).2 =
    (inv.func unicode (openBook inv) ⟨book, [], none⟩).2.store := hstore
  cases hcommand : inv.command with
  | profileAdd link =>
    have hfunc : inv.func unicode (openBook inv) = runProfileAdd unicode (openBook inv) inv link := by
      unfold Invocation.func
      rw [hcommand]
    rcases @runProfileAdd_book unicode inv link ⟨book, [], none⟩ with
      hfailed | ⟨profile, profiles, hparse, hopens, hadded, hok⟩
    · exact change_of_failed (hfunc ▸ hfailed)
    · rw [hafter, hfunc, hadded]
      exact .added link profile profiles hcommand hparse hopens
        (hok.imp_left fun hok => hends (hfunc ▸ hok))
  | profileList =>
    have hfunc : inv.func unicode (openBook inv) = runProfileList (openBook inv) inv := by
      unfold Invocation.func
      rw [hcommand]
    refine change_of_frames ?_ ?_
    · rintro profileId (h | ⟨link, h, -⟩) <;> cases hcommand.symm.trans h
    · rw [hfunc]
      exact frames_runProfileList (fun _ _ => rfl) fun svc h => (frames_reading h).1
  | profileRemove profileId =>
    have hfunc : inv.func unicode (openBook inv) =
        runProfileRemove (openBook inv) inv profileId := by
      unfold Invocation.func
      rw [hcommand]
    rcases @runProfileRemove_book inv profileId ⟨book, [], none⟩ with
      hfailed | ⟨profiles, hopens, hremoved, hok⟩
    · exact change_of_failed (hfunc ▸ hfailed)
    · rw [hafter, hfunc, hremoved]
      exact .removed profileId profiles hcommand hopens
        (hok.imp_left fun hok => hends (hfunc ▸ hok))
  | connect profileId autoFailover killswitch =>
    have hfunc : inv.func unicode (openBook inv) =
        runConnect (openBook inv) inv profileId autoFailover killswitch := by
      unfold Invocation.func
      rw [hcommand]
    refine change_of_frames ?_ ?_
    · rintro profileId (h | ⟨link, h, -⟩) <;> cases hcommand.symm.trans h
    · rw [hfunc]
      exact frames_runConnect (fun _ _ => rfl) (fun _ _ => rfl) (fun svc h => frames_reading h)
        profileId autoFailover killswitch

/-! ### The connection that is started -/

theorem frames_started {σ α : Type} (m : Act CommandExc σ α) :
    Frames Process.started (onStore m) := Frames.zoom m fun _ _ => rfl

theorem frames_printStarted {σ : Type} (line : String) :
    Frames Process.started (print inv line : Act CommandExc (Process σ) Unit) :=
  frames_print (fun _ _ => rfl) line

theorem frames_runProfileAdd {σ : Type} (o : Except CommandExc (Methods σ)) (link : String) :
    Frames Process.started (runProfileAdd unicode o inv link) := by
  refine frames_profileStore fun svc _ => Frames.handle (Frames.bind ?_ fun _ => ?_) fun exc => ?_
  · exact (frames_ofExcept _).bind fun _ => (frames_started _).bind fun _ => Frames.pure _
  · exact frames_printStarted _
  · exact (frames_printStarted _).bind fun _ => Frames.raise _

theorem frames_runProfileRemove {σ : Type} (o : Except CommandExc (Methods σ)) (profileId : String) :
    Frames Process.started (runProfileRemove o inv profileId) := by
  refine frames_profileStore fun svc _ => Frames.handle ?_ fun exc => ?_
  · exact (frames_started _).bind fun _ => frames_printStarted _
  · exact (frames_printStarted _).bind fun _ => Frames.raise _

/-- `start` is called with these arguments, and nothing after it changes that. -/
theorem started_startConnection {σ : Type} (start : Start) (p : Process σ) :
    (startConnection inv start p).2.started = some start := by
  unfold startConnection
  rw [modify_bind_apply]
  rcases inv.session with (_ | _ | _) | _
  · rfl
  · rfl
  · exact Frames.handle ((frames_printStarted _).bind fun _ => Frames.pure _)
      (fun _ => Frames.pure _) _
  · rfl

theorem getProfile_locked {password profileId : String} {p : Process (Option Book)} {e : CommandExc}
    (h : Book.opened p.store password = .error e) :
    onStore ((bookMethods password).getProfile profileId) p = (.error e, p) := onStore_locked h

theorem getProfile_opened {password : String} {p : Process (Option Book)}
    {profiles : Dict String ServerProfile} (h : Book.opened p.store password = .ok profiles)
    (profileId : String) :
    onStore ((bookMethods password).getProfile profileId) p =
      (match profiles.get? profileId with
        | none => .error (.store (Store.noProfile profileId))
        | some profile => .ok profile, p) := by
  refine onStore_apply ((bind_ok (openedBook_apply h)).trans ?_)
  cases profiles.get? profileId <;> rfl

theorem loadProfiles_opened {password : String} {p : Process (Option Book)}
    {profiles : Dict String ServerProfile} (h : Book.opened p.store password = .ok profiles)
    (autoFailover : Bool) :
    loadProfiles (bookMethods password) autoFailover p =
      (.ok (if autoFailover then profiles.values else []), p) := by
  cases autoFailover with
  | false => rfl
  | true => exact onStore_opened h rfl

theorem started_runConnectAsync {profileId : String} {autoFailover killswitch : Bool} {start : Start}
    {p : Process (Option Book)} (hp : p.started = none)
    (h : (runConnectAsync (openBook inv) inv profileId autoFailover killswitch p).2.started =
      some start) :
    ∃ profiles, inv.Opens p.store profiles ∧ profiles.get? profileId = some start.profile ∧
      start.autoFailover = autoFailover ∧ start.killswitch = killswitch ∧
      start.allProfiles = if autoFailover then profiles.values else [] := by
  have hnone {q : Process (Option Book)} (hq : q = p) (hsome : q.started = some start) : False := by
    rw [hq, hp] at hsome
    cases hsome
  by_cases hpassword : inv.password = ""
  · rw [openBook_empty hpassword] at h
    exact (hnone rfl h).elim
  rw [openBook_ok hpassword] at h
  unfold runConnectAsync at h
  rw [bind_ok (ofExcept_apply _ _)] at h
  cases hopened : Book.opened p.store inv.password with
  | error e =>
    rw [bind_error (getProfile_locked hopened)] at h
    exact (hnone rfl h).elim
  | ok profiles =>
    have hget := getProfile_opened hopened profileId
    cases hprofile : profiles.get? profileId with
    | none =>
      rw [hprofile] at hget
      rw [bind_error hget] at h
      exact (hnone rfl h).elim
    | some profile =>
      rw [hprofile] at hget
      rw [bind_ok hget, bind_ok (loadProfiles_opened hopened autoFailover),
        bind_snd fun failure q => by
          cases (inv.closing.map CommandExc.raised).or failure <;> rfl,
        started_startConnection] at h
      obtain rfl := Option.some.inj h
      exact ⟨profiles, ⟨hpassword, hopened⟩, hprofile, rfl, rfl, rfl⟩

/-- The connection that an invocation starts is that of a profile of the book. -/
theorem started_of_invoke {start : Start}
    (h : (invoke unicode openBook book inv).1.started = some start) :
    ∃ profileId profiles, inv.command = .connect profileId start.autoFailover start.killswitch ∧
      inv.Opens book profiles ∧ profiles.get? profileId = some start.profile ∧
      start.allProfiles = if start.autoFailover then profiles.values else [] := by
  have hnone (hframes : Frames Process.started (inv.func unicode (openBook inv))) : False := by
    have hsame : (invoke unicode openBook book inv).1.started = none :=
      frames_main (fun _ _ => rfl) hframes _
    exact Option.some_ne_none start (h.symm.trans hsame)
  unfold Invocation.func at hnone
  cases hcommand : inv.command with
  | profileAdd link =>
    rw [hcommand] at hnone
    exact (hnone (frames_runProfileAdd _ link)).elim
  | profileList =>
    rw [hcommand] at hnone
    exact (hnone (frames_runProfileList (fun _ _ => rfl) fun _ _ => frames_started _)).elim
  | profileRemove profileId =>
    rw [hcommand] at hnone
    exact (hnone (frames_runProfileRemove _ profileId)).elim
  | connect profileId autoFailover killswitch =>
    have hfails (exc : CommandExc) (line : String) : Frames Process.started
        (print inv line >>= fun _ => raise exc : Act CommandExc (Process (Option Book)) Unit) :=
      (frames_printStarted line).bind fun _ => Frames.raise exc
    have hmain : (main unicode (openBook inv) inv ⟨book, [], none⟩).2.started =
        (inv.func unicode (openBook inv) ⟨book, [], none⟩).2.started := by
      refine (Frames.bind_view (v := Process.started) (fun _ => Frames.raise _) _).trans ?_
      refine Frames.handle_view (v := Process.started) (fun exc => ?_) _
      exact Frames.ite (Frames.raise _) ((frames_printStarted _).bind fun _ => hfails _ _)
    have hfunc : (inv.func unicode (openBook inv) ⟨book, [], none⟩).2.started =
        (runConnectAsync (openBook inv) inv profileId autoFailover killswitch
          ⟨book, [], none⟩).2.started := by
      unfold Invocation.func runConnect
      rw [hcommand]
      refine Frames.handle_view (v := Process.started) (fun exc => ?_) _
      exact Frames.ite (hfails _ _) (Frames.ite (hfails _ _) (Frames.ite (Frames.raise _) (hfails _ _)))
    obtain ⟨profiles, hopens, hprofile, rfl, rfl, hall⟩ := started_runConnectAsync rfl
      (hfunc.symm.trans (hmain.symm.trans h))
    exact ⟨profileId, profiles, rfl, hopens, hprofile, hall⟩

end Book

/-! ## Every sequence of invocations -/

section Runs

variable {σ : Type}

/-- What a sequence of invocations leaves. -/
def leaves (step : σ → Invocation → Outcome × σ) : σ → List Invocation → σ :=
  runAll fun store inv => (step store inv).2

/-- After the invocations `before`, the next one exits with 0. -/
def Succeeds (step : σ → Invocation → Outcome × σ) (store : σ) (before : List Invocation)
    (inv : Invocation) : Prop :=
  (step (leaves step store before) inv).1.ending = .error (.systemExit 0)

/-- The link has been added under this id, by an invocation that exits with 0 unless the console does
not take its line, and no later invocation that exits with 0 has changed it. -/
def Recorded (unicode : Url.Unicode) (step : σ → Invocation → Outcome × σ) (store : σ)
    (invs : List Invocation) (link profileId : String) (profile : ServerProfile) : Prop :=
  ∃ before inv after, invs = before ++ inv :: after ∧
    inv.command = .profileAdd link ∧ inv.profileId = profileId ∧
    parseVlessLink unicode link inv.profileId inv.addedAtIso = .ok profile ∧
    (Succeeds step store before inv ∨ inv.console (addedLine profile) ≠ none) ∧
    ∀ between inv' rest, after = between ++ inv' :: rest → inv'.Concerns profileId →
      ¬Succeeds step store (before ++ inv :: between) inv'

section Recorded

variable {unicode : Url.Unicode} {step : σ → Invocation → Outcome × σ} {store : σ}
  {invs : List Invocation} {link profileId : String} {profile : ServerProfile}

theorem Recorded.concat (h : Recorded unicode step store invs link profileId profile)
    {inv : Invocation} (hinv : inv.Concerns profileId → ¬Succeeds step store invs inv) :
    Recorded unicode step store (invs ++ [inv]) link profileId profile := by
  obtain ⟨before, add, after, rfl, hcommand, hid, hparse, hsucceeds, hlater⟩ := h
  refine ⟨before, add, after ++ [inv], by simp, hcommand, hid, hparse, hsucceeds, ?_⟩
  intro between inv' rest hafter hconcerns
  rcases List.eq_nil_or_concat rest with rfl | ⟨rest, last, rfl⟩
  · obtain ⟨rfl, hlast⟩ := List.append_inj' hafter rfl
    obtain rfl : inv = inv' := List.singleton_inj.mp hlast
    exact hinv hconcerns
  · have hsame : after ++ [inv] = (between ++ inv' :: rest) ++ [last] := by
      rw [hafter]
      simp
    obtain ⟨hafter', -⟩ := List.append_inj' hsame rfl
    exact hlater between inv' rest hafter' hconcerns

theorem recorded_last {inv : Invocation} (hcommand : inv.command = .profileAdd link)
    (hparse : parseVlessLink unicode link inv.profileId inv.addedAtIso = .ok profile)
    (hsucceeds : Succeeds step store invs inv ∨ inv.console (addedLine profile) ≠ none) :
    Recorded unicode step store (invs ++ [inv]) link inv.profileId profile := by
  refine ⟨invs, inv, [], rfl, hcommand, rfl, hparse, hsucceeds, ?_⟩
  intro between inv' rest hnil
  simp at hnil

/-- Steps that succeed together record the same. -/
theorem Recorded.congr {τ : Type} {step' : τ → Invocation → Outcome × τ} {store' : τ}
    (h : Recorded unicode step store invs link profileId profile)
    (hsame : ∀ before inv after, invs = before ++ inv :: after →
      (Succeeds step store before inv ↔ Succeeds step' store' before inv)) :
    Recorded unicode step' store' invs link profileId profile := by
  obtain ⟨before, add, after, rfl, hcommand, hid, hparse, hsucceeds, hlater⟩ := h
  refine ⟨before, add, after, rfl, hcommand, hid, hparse,
    hsucceeds.imp_left (hsame before add after rfl).mp, ?_⟩
  rintro between inv' rest rfl hconcerns hsucceeds'
  refine hlater between inv' rest rfl hconcerns ((hsame _ inv' rest ?_).mpr hsucceeds')
  simp

end Recorded

theorem Invocation.Opens.mem {inv : Invocation} {book : Option Book}
    {profiles : Dict String ServerProfile} (h : inv.Opens book profiles) {profileId : String}
    {profile : ServerProfile} (hprofile : profiles.get? profileId = some profile) :
    ∃ b ∈ book, b.profiles.get? profileId = some profile := by
  obtain ⟨-, hopened⟩ := h
  cases book with
  | none =>
    cases hopened
    cases hprofile
  | some b =>
    unfold Book.opened at hopened
    simp only at hopened
    split at hopened
    next =>
      cases hopened
      exact ⟨b, rfl, hprofile⟩
    next => cases hopened

theorem parse_profileId {unicode : Url.Unicode} {link profileId addedAtIso : String}
    {profile : ServerProfile} (h : parseVlessLink unicode link profileId addedAtIso = .ok profile) :
    profile.profileId = profileId := by
  obtain ⟨parsed, hostname, -, port, outbound, -, -, -, -, -, -, rfl⟩ := parseVlessLink_eq_ok_iff.mp h
  rfl

/-- Every profile of the book is that of a recorded link. -/
theorem book_recorded (unicode : Url.Unicode) (invs : List Invocation) :
    ∀ b ∈ leaves (invoke unicode openBook) none invs, ∀ profileId profile,
      b.profiles.get? profileId = some profile →
        ∃ link, Recorded unicode (invoke unicode openBook) none invs link profileId profile := by
  refine runAll_history (I := fun invs (book : Option Book) => ∀ b ∈ book, ∀ profileId profile,
    b.profiles.get? profileId = some profile →
      ∃ link, Recorded unicode (invoke unicode openBook) none invs link profileId profile)
    (fun b hb => absurd hb (Option.not_mem_none b)) (fun invs inv ih => ?_) invs
  have hchange := change_of_invoke unicode (leaves (invoke unicode openBook) none invs) inv
  change ∀ b ∈ (invoke unicode openBook (leaves (invoke unicode openBook) none invs) inv).2, _
  have hexit : Succeeds (invoke unicode openBook) none invs inv ↔
      (invoke unicode openBook (leaves (invoke unicode openBook) none invs) inv).1.ending =
        .error (.systemExit 0) := Iff.rfl
  generalize (invoke unicode openBook (leaves (invoke unicode openBook) none invs) inv).1 = outcome
    at hchange hexit
  generalize (invoke unicode openBook (leaves (invoke unicode openBook) none invs) inv).2 = book'
    at hchange ⊢
  intro b hb profileId profile hprofile
  cases hchange with
  | still hstill =>
    obtain ⟨link, hrecorded⟩ := ih b hb profileId profile hprofile
    exact ⟨link, hrecorded.concat fun hconcerns h => hstill (hexit.mp h) profileId hconcerns⟩
  | added link added profiles hcommand hparse hopens hending =>
    obtain rfl := Option.some.inj hb
    have hid := parse_profileId hparse
    simp only [Dict.get?_set, hid] at hprofile
    split at hprofile
    next hsame =>
      obtain rfl := Option.some.inj hprofile
      rw [hsame]
      exact ⟨link, recorded_last hcommand hparse (hending.imp_left hexit.mpr)⟩
    next hne =>
      obtain ⟨b, hb, hold⟩ := hopens.mem hprofile
      obtain ⟨link', hrecorded⟩ := ih b hb profileId profile hold
      refine ⟨link', hrecorded.concat ?_⟩
      rintro (h | ⟨link, -, h⟩)
      · cases hcommand.symm.trans h
      · exact absurd h.symm hne
  | removed removedId profiles hcommand hopens hending =>
    obtain rfl := Option.some.inj hb
    simp only [Dict.get?_erase] at hprofile
    split at hprofile
    next => cases hprofile
    next hne =>
      obtain ⟨b, hb, hold⟩ := hopens.mem hprofile
      obtain ⟨link, hrecorded⟩ := ih b hb profileId profile hold
      refine ⟨link, hrecorded.concat ?_⟩
      rintro (h | ⟨link, h, -⟩)
      · obtain rfl := Command.profileRemove.inj (hcommand.symm.trans h)
        exact absurd rfl hne
      · cases hcommand.symm.trans h

end Runs

section Files

variable {κ φ : Type} {lib : Library κ φ}

theorem kept_leaves (h : lib.Lawful) (rendering : Rendering φ) (unicode : Url.Unicode) {name : String}
    {d : Disk} (hd : d.files name = none) {invs : List Invocation} (hworks : Works name d.files invs) :
    Kept lib name d.files (leaves (invoke unicode (openFile lib rendering name)) d invs)
      (leaves (invoke unicode openBook) none invs) := by
  induction invs using List.reverseRecOn with
  | nil =>
    refine ⟨⟨[], hd⟩, ?_, fun _ _ => rfl⟩
    rintro b ⟨⟩
  | append_singleton invs inv ih =>
    obtain ⟨hinvs, hinv⟩ := List.forall_mem_append.mp hworks
    obtain ⟨henv, hlist⟩ := hinv inv (List.mem_singleton_self inv)
    unfold leaves at ih ⊢
    rw [runAll_concat, runAll_concat]
    exact (invoke_kept h rendering unicode (ih hinvs) henv hlist).2

end Files

/-! ### An example -/

/-- The connection after the sample link has been added. -/
def sampleStart : Start := ⟨sampleLink.profile "7f" "2026-01-01", false, false, []⟩

theorem leaves_singleton {σ : Type} (step : σ → Invocation → Outcome × σ) (store : σ)
    (inv : Invocation) : leaves step store [inv] = (step store inv).2 := rfl

theorem book_visit_add {link : String} {profile : ServerProfile}
    (hparse : parseVlessLink asciiUnicode link "7f" "2026-01-01" = .ok profile) :
    (invoke asciiUnicode openBook none (visit (.profileAdd link))).2 =
      some ⟨"right", Dict.empty.set profile.profileId profile⟩ := by
  unfold invoke main Invocation.func runProfileAdd addFromLink
  simp only [visit]
  rw [hparse]
  rfl

theorem started_visit_connect (profile : ServerProfile) :
    (invoke asciiUnicode openBook (some ⟨"right", Dict.empty.set "7f" profile⟩)
      (visit (.connect "7f" false false))).1.started = some ⟨profile, false, false, []⟩ := rfl

theorem started_visits :
    (invoke asciiUnicode openBook (leaves (invoke asciiUnicode openBook) none
      [visit (.profileAdd sampleLink.text)]) (visit (.connect "7f" false false))).1.started =
        some sampleStart := by
  rw [leaves_singleton, book_visit_add (parse_text sampleLink)]
  exact started_visit_connect _

theorem works_visits_connect : Works "profiles.json" Store.emptyDisk.files
    ([visit (.profileAdd sampleLink.text)] ++ [visit (.connect "7f" false false)]) :=
  works_calm (by simp [visit])

theorem started_visits_file :
    (invoke asciiUnicode (openFile Store.plain plainRendering "profiles.json")
      (leaves (invoke asciiUnicode (openFile Store.plain plainRendering "profiles.json"))
        Store.emptyDisk [visit (.profileAdd sampleLink.text)])
      (visit (.connect "7f" false false))).1.started = some sampleStart := by
  obtain ⟨hinvs, hinv⟩ := List.forall_mem_append.mp works_visits_connect
  obtain ⟨henv, hlist⟩ := hinv (visit (.connect "7f" false false)) (List.mem_singleton_self _)
  have hd : Store.emptyDisk.files "profiles.json" = none := rfl
  have hkept := kept_leaves Store.plain_lawful plainRendering asciiUnicode hd hinvs
  rw [(invoke_kept Store.plain_lawful plainRendering asciiUnicode hkept henv hlist).1]
  exact started_visits

end Bimarz.Commands
