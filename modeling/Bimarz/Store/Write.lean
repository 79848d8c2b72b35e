import Bimarz.Store.Disk
import Bimarz.Store.State

/-!
# Replacing the file (`_write_encrypted_state`)

The payload is written to a temporary file of the same directory, which then takes the name of the
store. `writeFile_triple` says what each outcome leaves behind: up to the replacement a failure
leaves the file as it was, after it the new contents stay whatever fails.
-/

namespace Bimarz.Store

open Effect Effect.Act

section Code

variable (env : Env)

/-- The body of `with os.fdopen(fd, "w") as temp_file`. -/
def fillFile (temp : String) (payload : Bytes) : Act Exc Disk Unit := do
  write env temp payload
  flush env temp payload
  syscall env .fsync

/-- The `try` block. -/
def replaceFile (name temp : String) (payload : Bytes) : Act Exc Disk Unit := do
  syscall env .fchmod
  syscall env .fdopen
  ensure (fillFile env temp payload) (syscall env .close)
  replace env temp name
  syscall env .openDirectory
  ensure (syscall env .fsyncDirectory) (syscall env .closeDirectory)

/-- The `except Exception` block. -/
def cleanup (temp : String) (e : Exc) : Act Exc Disk Unit := do
  suppress (syscall env .closeFd)
  suppress (unlink env temp)
  raise e

/-- `_write_encrypted_state` from the payload on. -/
def writeFile (name : String) (payload : Bytes) : Act Exc Disk Unit := do
  syscall env .mkdir
  let temp ← mkstemp env name
  handle Exc.isException (replaceFile env name temp payload) (cleanup env temp)
  suppress (syscall env .chmod)

end Code

/-! ## Which calls fail -/

section Faults

variable (env : Env) (name : String) (files : Files)

/-- The calls up to the replacement. -/
def earlyCalls : List Syscall :=
  [.mkdir, .mkstemp, .fchmod, .fdopen, .write, .flush, .fsync, .close, .replace]

/-- The calls between the replacement and the end of the `try` block. -/
def lateCalls : List Syscall := [.openDirectory, .fsyncDirectory, .closeDirectory]

/-- No call up to the replacement fails. -/
structure ReachesReplace : Prop where
  fault : ∀ call ∈ earlyCalls, env.fault call = none
  free : (freeName env name files).isSome = true

/-- A call after the replacement fails, and its failure is not suppressed. -/
def RaisesLate : Prop :=
  (∃ call ∈ lateCalls, env.fault call ≠ none) ∨
    ∃ e, env.fault .chmod = some e ∧ isOSError e = false

variable {env name files}

theorem not_reachesReplace (h : ∃ call ∈ earlyCalls, env.fault call ≠ none) :
    ¬ReachesReplace env name files := by
  obtain ⟨call, hcall, hfault⟩ := h
  exact fun hreaches => hfault (hreaches.fault call hcall)

theorem RaisesLate.of_call {call : Syscall} (hcall : call ∈ lateCalls) {e : Exc}
    (he : env.fault call = some e) : RaisesLate env := by
  refine Or.inl ⟨call, hcall, ?_⟩
  rw [he]
  exact Option.some_ne_none e

end Faults

/-! ## The states of a write -/

section States

/-- A write that starts from the directory `files`, with the past `past`. -/
structure Start where
  name : String
  payload : Bytes
  files : Files
  past : List Files

variable (s : Start)

/-- The disk at the beginning. -/
def Start.Unmoved (d : Disk) : Prop := d = ⟨s.files, s.past⟩

/-- The temporary file is another file, which was not there. -/
structure Start.Temp (temp : String) : Prop where
  ne : temp ≠ s.name
  absent : s.files temp = none

/-- Nobody saw the file change. -/
structure Start.Kept (d : Disk) : Prop where
  views : ∀ files ∈ d.views, files ∈ s.past ∨ files s.name = s.files s.name
  now : d.files s.name = s.files s.name

/-- Whoever looked saw the old contents or the new ones, and the new ones are there now. -/
structure Start.Replaced (d : Disk) : Prop where
  views : ∀ files ∈ d.views,
    files ∈ s.past ∨ files s.name = s.files s.name ∨ files s.name = some s.payload
  now : d.files s.name = some s.payload

/-- The other files are as they were. -/
def Start.Clean (d : Disk) : Prop := ∀ other, other ≠ s.name → d.files other = s.files other

/-- Before the replacement, whatever the temporary file holds. -/
structure Start.Before (temp : String) (d : Disk) : Prop where
  kept : s.Kept d
  others : ∀ other, other ≠ temp → d.files other = s.files other

/-- After the replacement. -/
structure Start.After (d : Disk) : Prop where
  replaced : s.Replaced d
  clean : s.Clean d

variable {s}

theorem Start.Unmoved.kept {d : Disk} (h : s.Unmoved d) : s.Kept d := by
  cases h
  refine ⟨fun files hfiles => ?_, rfl⟩
  rcases Disk.mem_views.mp hfiles with rfl | hpast
  · exact Or.inr rfl
  · exact Or.inl hpast

theorem Start.Unmoved.clean {d : Disk} (h : s.Unmoved d) : s.Clean d := by
  cases h
  intro other _
  rfl

theorem Start.Unmoved.before {d : Disk} (h : s.Unmoved d) (temp : String) : s.Before temp d := by
  refine ⟨h.kept, fun other _ => ?_⟩
  cases h
  rfl

theorem freeName_spec {env : Env} {temp : String} (h : freeName env s.name s.files = some temp) :
    s.Temp temp := by
  unfold freeName at h
  obtain ⟨candidate, -, rfl⟩ := List.mem_map.mp (List.mem_of_find?_eq_some h)
  constructor
  · exact tempName_ne s.name candidate
  · have hfree := List.find?_some (p := fun temp => (s.files temp).isNone) h
    exact Option.isNone_iff_eq_none.mp hfree

/-- What is done to the temporary file. -/
theorem Start.Before.put {temp : String} (htemp : s.Temp temp) {d : Disk} (h : s.Before temp d)
    (content : Option Bytes) : s.Before temp (d.move (put temp content)) := by
  have hnow : Store.put temp content d.files s.name = s.files s.name := by
    rw [put_other htemp.ne.symm]
    exact h.kept.now
  constructor
  · refine ⟨fun files hfiles => ?_, hnow⟩
    rcases Disk.mem_views_move.mp hfiles with rfl | hfiles
    · exact Or.inr hnow
    · exact h.kept.views files hfiles
  · intro other hother
    rw [Disk.move_files, put_other hother]
    exact h.others other hother

theorem Start.Before.clean {temp : String} (htemp : s.Temp temp) {d : Disk} (h : s.Before temp d)
    (hnone : d.files temp = none) : s.Clean d := by
  intro other _
  by_cases hother : other = temp
  · rw [hother, hnone, htemp.absent]
  · exact h.others other hother

/-- The replacement itself. -/
theorem Start.Before.replace {temp : String} (htemp : s.Temp temp) {d : Disk} (h : s.Before temp d) :
    s.After (d.move fun files => Store.put temp none (Store.put s.name (some s.payload) files)) := by
  have hnow : Store.put temp none (Store.put s.name (some s.payload) d.files) s.name =
      some s.payload := by
    rw [put_other htemp.ne.symm, put_same]
  refine ⟨⟨fun files hfiles => ?_, hnow⟩, fun other hother => ?_⟩
  · rcases Disk.mem_views_move.mp hfiles with rfl | hfiles
    · exact Or.inr (Or.inr hnow)
    · exact (h.kept.views files hfiles).imp_right Or.inl
  · rw [Disk.move_files]
    by_cases hother' : other = temp
    · rw [hother', put_same, htemp.absent]
    · rw [put_other hother', put_other hother]
      exact h.others other hother'

end States

/-! ## What the parts of a write do -/

section Parts

variable {env : Env} {s : Start} {temp : String}

/-- A failing call up to the replacement. -/
theorem exists_early {call : Syscall} (hcall : call ∈ earlyCalls) {e : Exc}
    (he : env.fault call = some e) : ∃ call ∈ earlyCalls, env.fault call ≠ none :=
  ⟨call, hcall, fun hnone => Option.some_ne_none e (he.symm.trans hnone)⟩

theorem write_triple (htemp : s.Temp temp) :
    Triple (s.Before temp) (write env temp s.payload)
      (fun _ d => s.Before temp d ∧ env.fault .write = none)
      (fun _ d => s.Before temp d ∧ ∃ call ∈ earlyCalls, env.fault call ≠ none) := by
  unfold write
  apply Triple.bind (R := fun _ => s.Before temp)
  · exact change_triple fun d hd => hd.put htemp _
  · intro _
    exact (syscall_triple .write).mono_error fun e d h => ⟨h.1, exists_early (by simp [earlyCalls]) h.2⟩

theorem flush_triple (htemp : s.Temp temp) :
    Triple (s.Before temp) (flush env temp s.payload)
      (fun _ d => (s.Before temp d ∧ d.files temp = some s.payload) ∧ env.fault .flush = none)
      (fun _ d => s.Before temp d ∧ ∃ call ∈ earlyCalls, env.fault call ≠ none) := by
  unfold flush
  split
  · rename_i e he
    apply Triple.bind (R := fun _ => s.Before temp)
    · exact change_triple fun d hd => hd.put htemp _
    · intro _
      exact Triple.raise fun d hd => ⟨hd, exists_early (by simp [earlyCalls]) he⟩
  · rename_i hflush
    apply change_triple
    intro d hd
    refine ⟨⟨hd.put htemp _, ?_⟩, hflush⟩
    rw [Disk.move_files, put_same]

theorem fillFile_triple (htemp : s.Temp temp) :
    Triple (s.Before temp) (fillFile env temp s.payload)
      (fun _ d => (s.Before temp d ∧ d.files temp = some s.payload) ∧
        env.fault .write = none ∧ env.fault .flush = none ∧ env.fault .fsync = none)
      (fun _ d => s.Before temp d ∧ ∃ call ∈ earlyCalls, env.fault call ≠ none) := by
  unfold fillFile
  apply Triple.bind (write_triple htemp)
  intro _
  apply Triple.of_fact
  intro hwrite
  apply Triple.bind (flush_triple htemp)
  intro _
  apply Triple.of_fact
  intro hflush
  exact (syscall_triple .fsync).mono (fun _ d h => ⟨h.1, hwrite, hflush, h.2⟩)
    fun e d h => ⟨h.1.1, exists_early (by simp [earlyCalls]) h.2⟩

/-- The temporary file is complete where the `with` block ends. -/
theorem filled_triple (htemp : s.Temp temp) :
    Triple (s.Before temp) (ensure (fillFile env temp s.payload) (syscall env .close))
      (fun _ d => (s.Before temp d ∧ d.files temp = some s.payload) ∧
        env.fault .write = none ∧ env.fault .flush = none ∧ env.fault .fsync = none ∧
        env.fault .close = none)
      (fun _ d => s.Before temp d ∧ ∃ call ∈ earlyCalls, env.fault call ≠ none) := by
  apply Triple.ensure (fillFile_triple htemp)
  · intro _
    exact (syscall_triple .close).mono
      (fun _ d h => ⟨h.1.1, h.1.2.1, h.1.2.2.1, h.1.2.2.2, h.2⟩)
      fun e d h => ⟨h.1.1.1, exists_early (by simp [earlyCalls]) h.2⟩
  · intro _
    exact syscall_keeps .close

theorem replace_triple (htemp : s.Temp temp) :
    Triple (fun d => s.Before temp d ∧ d.files temp = some s.payload) (replace env temp s.name)
      (fun _ d => s.After d ∧ env.fault .replace = none)
      (fun _ d => s.Before temp d ∧ ∃ call ∈ earlyCalls, env.fault call ≠ none) := by
  unfold replace
  apply syscall_bind
  · intro e he d hd
    exact ⟨hd.1, exists_early (by simp [earlyCalls]) he⟩
  · intro hreplace d hd
    rw [reads_bind_apply, hd.2]
    exact ⟨hd.1.replace htemp, hreplace⟩

/-- Where the `try` block fails: before the replacement or after it. -/
def Start.Left (s : Start) (env : Env) (temp : String) (d : Disk) : Prop :=
  (s.Before temp d ∧ ∃ call ∈ earlyCalls, env.fault call ≠ none) ∨
    (s.After d ∧ (∀ call ∈ earlyCalls, env.fault call = none) ∧ RaisesLate env)

theorem replaceFile_triple (htemp : s.Temp temp) (hmkdir : env.fault .mkdir = none)
    (hmkstemp : env.fault .mkstemp = none) :
    Triple (s.Before temp) (replaceFile env s.name temp s.payload)
      (fun _ d => s.After d ∧ (∀ call ∈ earlyCalls, env.fault call = none) ∧
        ∀ call ∈ lateCalls, env.fault call = none)
      (fun _ => s.Left env temp) := by
  unfold replaceFile
  apply syscall_bind
  · intro e he d hd
    exact Or.inl ⟨hd, exists_early (by simp [earlyCalls]) he⟩
  intro hfchmod
  apply syscall_bind
  · intro e he d hd
    exact Or.inl ⟨hd, exists_early (by simp [earlyCalls]) he⟩
  intro hfdopen
  apply Triple.bind ((filled_triple htemp).mono_error fun e d h => Or.inl h)
  intro _
  apply Triple.of_fact
  rintro ⟨hwrite, hflush, hfsync, hclose⟩
  apply Triple.bind ((replace_triple htemp).mono_error fun e d h => Or.inl h)
  intro _
  apply Triple.of_fact
  intro hreplace
  have hearly : ∀ call ∈ earlyCalls, env.fault call = none := by
    simp only [earlyCalls, List.forall_mem_cons]
    exact ⟨hmkdir, hmkstemp, hfchmod, hfdopen, hwrite, hflush, hfsync, hclose, hreplace, by simp⟩
  apply syscall_bind
  · intro e he d hd
    exact Or.inr ⟨hd, hearly, RaisesLate.of_call (by simp [lateCalls]) he⟩
  intro hopen
  apply Triple.ensure (syscall_triple .fsyncDirectory)
  · intro _
    refine (syscall_triple .closeDirectory).mono (fun _ d h => ⟨h.1.1, hearly, ?_⟩) fun e d h => ?_
    · simp only [lateCalls, List.forall_mem_cons]
      exact ⟨hopen, h.1.2, h.2, by simp⟩
    · exact Or.inr ⟨h.1.1, hearly, RaisesLate.of_call (by simp [lateCalls]) h.2⟩
  · intro e
    exact (syscall_triple .closeDirectory).mono
      (fun _ d h => Or.inr ⟨h.1.1, hearly, RaisesLate.of_call (by simp [lateCalls]) h.1.2⟩)
      fun e d h => Or.inr ⟨h.1.1, hearly, RaisesLate.of_call (by simp [lateCalls]) h.2⟩

/-- Taking the temporary file away. -/
theorem unlink_triple (htemp : s.Temp temp) :
    Triple (s.Left env temp) (unlink env temp)
      (fun _ d => s.Left env temp d ∧ d.files temp = none)
      (fun _ d => s.Left env temp d ∧ (env.fault .unlink = none → d.files temp = none)) := by
  unfold unlink
  apply syscall_bind
  · intro e he d hd
    exact ⟨hd, fun hnone => absurd (he.symm.trans hnone) (Option.some_ne_none e)⟩
  intro _ d hd
  rw [reads_bind_apply]
  cases hfile : d.files temp with
  | none => exact ⟨hd, fun _ => hfile⟩
  | some content =>
    refine ⟨?_, put_same ..⟩
    rcases hd with ⟨hbefore, hfault⟩ | ⟨hafter, _⟩
    · exact Or.inl ⟨hbefore.put htemp none, hfault⟩
    · have habsent : d.files temp = none := (hafter.clean temp htemp.ne).trans htemp.absent
      rw [habsent] at hfile
      cases hfile

/-- The handler raises, and what it raises as an `Exception` comes after the temporary file is
gone. -/
theorem cleanup_triple (htemp : s.Temp temp) (e : Exc) :
    Triple (s.Left env temp) (cleanup env temp e) (fun _ _ => False)
      (fun e' d => s.Left env temp d ∧
        (e'.isException = true → env.fault .unlink = none → d.files temp = none)) := by
  unfold cleanup
  apply Triple.bind (R := fun _ => s.Left env temp)
  · apply suppress_triple ((syscall_triple .closeFd).mono (fun _ _ h => h.1) fun _ _ h => h)
    · exact fun _ _ _ h => h.1
    · intro e' d hother h
      refine ⟨h.1, fun hexception => ?_⟩
      have hos := env.osErrors .closeFd (by simp) e' h.2 hexception
      rw [hother] at hos
      cases hos
  intro _
  apply Triple.bind (R := fun _ d => s.Left env temp d ∧
    (env.fault .unlink = none → d.files temp = none))
  · apply suppress_triple ((unlink_triple htemp).mono (fun _ _ h => ⟨h.1, fun _ => h.2⟩)
      fun _ _ h => h)
    · exact fun _ _ _ h => h
    · exact fun _ _ _ h => ⟨h.1, fun _ => h.2⟩
  intro _
  exact Triple.raise fun d hd => ⟨hd.1, fun _ => hd.2⟩

theorem mkstemp_triple :
    Triple s.Unmoved (mkstemp env s.name)
      (fun temp d => s.Before temp d ∧ s.Temp temp ∧ env.fault .mkstemp = none ∧
        (freeName env s.name s.files).isSome = true)
      (fun _ d => s.Unmoved d ∧ ¬ReachesReplace env s.name s.files) := by
  unfold mkstemp
  apply syscall_bind
  · intro e he d hd
    exact ⟨hd, not_reachesReplace (exists_early (by simp [earlyCalls]) he)⟩
  rintro hmkstemp d rfl
  rw [reads_bind_apply]
  cases hfree : freeName env s.name s.files with
  | none =>
    refine ⟨rfl, fun hreaches => ?_⟩
    have := hreaches.free
    rw [hfree] at this
    cases this
  | some temp =>
    have htemp : s.Temp temp := freeName_spec hfree
    exact ⟨((Start.Unmoved.before rfl temp)).put htemp _, htemp, hmkstemp, rfl⟩

/-- What a write that raised leaves behind. -/
def Start.Failed (s : Start) (env : Env) (d : Disk) : Prop :=
  (s.Kept d ∧ ¬ReachesReplace env s.name s.files) ∨
    (s.Replaced d ∧ ReachesReplace env s.name s.files ∧ RaisesLate env)

theorem Start.Left.failed {d : Disk} (h : s.Left env temp d)
    (hfree : (freeName env s.name s.files).isSome = true) : s.Failed env d := by
  rcases h with ⟨hbefore, hfault⟩ | ⟨hafter, hearly, hlate⟩
  · exact Or.inl ⟨hbefore.kept, not_reachesReplace hfault⟩
  · exact Or.inr ⟨hafter.replaced, ⟨hearly, hfree⟩, hlate⟩

theorem Start.Left.clean {d : Disk} (htemp : s.Temp temp) (h : s.Left env temp d)
    (hnone : d.files temp = none) : s.Clean d := by
  rcases h with ⟨hbefore, -⟩ | ⟨hafter, -⟩
  · exact hbefore.clean htemp hnone
  · exact hafter.clean

variable (env s) in
/-- A write: where it returns the new contents are there, where it raises see `Start.Failed`; an
`Exception` or a return leaves the other files as they were. -/
theorem writeFile_triple :
    Triple s.Unmoved (writeFile env s.name s.payload)
      (fun _ d => s.After d ∧ ¬RaisesLate env)
      (fun e d => s.Failed env d ∧
        (e.isException = true → env.fault .unlink = none → s.Clean d)) := by
  unfold writeFile
  apply syscall_bind
  · intro e he d hd
    have hnot : ¬ReachesReplace env s.name s.files :=
      not_reachesReplace (exists_early (by simp [earlyCalls]) he)
    exact ⟨Or.inl ⟨hd.kept, hnot⟩, fun _ _ => hd.clean⟩
  intro hmkdir
  apply Triple.bind (mkstemp_triple.mono_error fun e d h =>
    ⟨Or.inl ⟨h.1.kept, h.2⟩, fun _ _ => h.1.clean⟩)
  intro temp
  apply Triple.of_fact
  rintro ⟨htemp, hmkstemp, hfree⟩
  apply Triple.bind (R := fun _ d => s.After d ∧ (∀ call ∈ earlyCalls, env.fault call = none) ∧
    ∀ call ∈ lateCalls, env.fault call = none)
  · apply Triple.handle (replaceFile_triple htemp hmkdir hmkstemp)
    · intro e _
      exact (cleanup_triple htemp e).mono (fun _ _ h => h.elim) fun e' d h =>
        ⟨h.1.failed hfree, fun hexception hunlink => h.1.clean htemp (h.2 hexception hunlink)⟩
    · intro e d hother h
      refine ⟨h.failed hfree, fun hexception => ?_⟩
      rw [hother] at hexception
      cases hexception
  intro _
  apply Triple.of_fact
  rintro ⟨hearly, hlate⟩
  have hnot : (∀ e, env.fault .chmod = some e → isOSError e = true) → ¬RaisesLate env := by
    rintro hchmod (⟨call, hcall, hfault⟩ | ⟨e, he, hother⟩)
    · exact hfault (hlate call hcall)
    · rw [hchmod e he] at hother
      cases hother
  unfold suppress
  apply Triple.handle (F := fun e d => s.After d ∧ env.fault .chmod = some e)
  · refine (syscall_triple .chmod).mono (fun _ d h => ⟨h.1, hnot fun e he => ?_⟩) fun _ _ h => h
    rw [h.2] at he
    cases he
  · intro e hcaught
    refine Triple.pure fun d h => ⟨h.1, hnot fun e' he' => ?_⟩
    rw [h.2] at he'
    cases he'
    exact hcaught
  · intro e d hother h
    refine ⟨Or.inr ⟨h.1.replaced, ⟨hearly, hfree⟩, Or.inr ⟨e, h.2, hother⟩⟩, fun _ _ => h.1.clean⟩

end Parts

/-! ## `_write_encrypted_state` -/

/-- An open store: `name` is its file in a directory. -/
structure ProfileStore where
  name : String
  password : String
  nonempty : password ≠ ""

/-- `ProfileStore(path, password)`. -/
def ProfileStore.new (name password : String) : Except StoreExc ProfileStore :=
  if h : password = "" then .error (.storeError "profile store password must not be empty")
  else .ok ⟨name, password, h⟩

section Method

variable {κ φ : Type} (lib : Library κ φ) (store : ProfileStore) (env : Env)

def writeEncryptedState (saltB64 : String) (profiles : Dict String (Json.Value φ)) :
    Act StoreExc Disk Unit := do
  let content ← ofExcept (payload lib store.password env.nonce saltB64 profiles)
  mapError .raised (writeFile env store.name content)

/-- Whoever reads the file during a write or after a crash finds the old contents or the complete
new ones. A call that returned or raised an `Exception` left no other file behind, unless taking
the temporary one away failed. -/
theorem writeEncryptedState_atomic (saltB64 : String) (profiles : Dict String (Json.Value φ))
    (files : Files) :
    let run := writeEncryptedState lib store env saltB64 profiles ⟨files, []⟩
    (∀ view ∈ run.2.views, view store.name = files store.name ∨
      ∃ content, payload lib store.password env.nonce saltB64 profiles = .ok content ∧
        view store.name = some content) ∧
    ((∀ e, run.1 = .error e → e.isException = true) → env.fault .unlink = none →
      ∀ other, other ≠ store.name → run.2.files other = files other) := by
  intro run
  cases hpayload : payload lib store.password env.nonce saltB64 profiles with
  | error e =>
    have hrun : run = (.error e, ⟨files, []⟩) := by
      show writeEncryptedState lib store env saltB64 profiles ⟨files, []⟩ = _
      unfold writeEncryptedState
      rw [hpayload]
      rfl
    rw [hrun]
    refine ⟨fun view hview => Or.inl ?_, fun _ _ _ _ => rfl⟩
    rw [List.mem_singleton.mp hview]
  | ok content =>
    have hrun : run = mapError .raised (writeFile env store.name content) ⟨files, []⟩ := by
      show writeEncryptedState lib store env saltB64 profiles ⟨files, []⟩ = _
      unfold writeEncryptedState
      rw [hpayload]
      rfl
    have hwrite := writeFile_triple env ⟨store.name, content, files, []⟩
    have hviews : ∀ d : Disk, (Start.mk store.name content files []).Replaced d →
        ∀ view ∈ d.views, view store.name = files store.name ∨
          ∃ content', Except.ok (ε := StoreExc) content = .ok content' ∧
            view store.name = some content' := by
      intro d hd view hview
      rcases hd.views view hview with hpast | hold | hnew
      · cases hpast
      · exact Or.inl hold
      · exact Or.inr ⟨content, rfl, hnew⟩
    rw [hrun]
    rcases hr : writeFile env store.name content ⟨files, []⟩ with ⟨e | _, d⟩
    · have hfailed := hwrite.of_error rfl hr
      rw [mapError_error hr]
      constructor
      · rcases hfailed.1 with ⟨hkept, -⟩ | ⟨hreplaced, -⟩
        · intro view hview
          rcases hkept.views view hview with hpast | hold
          · cases hpast
          · exact Or.inl hold
        · exact hviews d hreplaced
      · intro hexception hunlink
        exact hfailed.2 (hexception _ rfl) hunlink
    · have hafter := (hwrite.of_ok rfl hr).1
      rw [mapError_ok hr]
      exact ⟨hviews d hafter.replaced, fun _ _ => hafter.clean⟩

end Method

end Bimarz.Store
