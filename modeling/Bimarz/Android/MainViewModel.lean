import Bimarz.Android.ProfileRepository
import Bimarz.Effect.Run
import Mathlib.Logic.Function.Basic

/-!
# Changes of the profile list under every interleaving (`ui/MainViewModel.kt`)

Each call of `addProfileFromLink` or `removeProfile` launches a coroutine, and nothing keeps two of
them apart. A coroutine is cut where it suspends: before `loadAll` has read the preferences, and
before `save` has written them. What it writes is computed from what it has read.
-/

namespace Bimarz.Android.MainViewModel

open Effect
open Java (Platform examplePlatform)

/-- What a coroutine of the view model does to the list. -/
inductive Update
  | add (profile : ServerProfile)
  | remove (profileId : String)
  deriving DecidableEq

def Update.apply (profiles : List ServerProfile) : Update → List ServerProfile
  | .add profile => profiles ++ [profile]
  | .remove profileId => profiles.filter fun profile => profile.profileId ≠ profileId

/-- Where a coroutine is. -/
inductive Place
  | absent
  | addProfileFromLink (rawLink : String)
  | removeProfile (profileId : String)
  /-- inside `loadAll` -/
  | loading (update : Update)
  /-- inside `save` -/
  | saving (update : Update) (loaded : List ServerProfile)
  /-- without an update if the link was refused -/
  | done (update : Option Update)
  /-- an exception that nothing catches -/
  | failed

def Place.update : Place → Option Update
  | .loading update | .saving update _ => some update
  | .done update => update
  | _ => none

/-- The app. No coroutine reads the last two fields: the updates that were saved, in order, each
with its call, and the ids that are taken. -/
structure App where
  prefs : Prefs
  linkError : Option String
  calls : ℕ → Place
  launched : ℕ
  log : List (ℕ × Update)
  drawn : List String

/-- The app before any call. -/
def App.begin (prefs : Prefs) (profiles : List ServerProfile) : App where
  prefs
  linkError := none
  calls _ := .absent
  launched := 0
  log := []
  drawn := profiles.map ServerProfile.profileId

def App.move (s : App) (call : ℕ) (place : Place) : App :=
  { s with calls := Function.update s.calls call place }

def App.launch (s : App) (place : Place) : App :=
  { s.move s.launched place with launched := s.launched + 1 }

/-- A call from the user interface, or the next step of a coroutine. A parsed link takes a random
id and the time of day. -/
inductive Turn
  | addProfileFromLink (rawLink : String)
  | removeProfile (profileId : String)
  | next (call : ℕ) (randomUuid : String) (currentTimeMillis : ℕ)

section Steps

variable {φ : Type} (platform : Platform) (json : OrgJson φ)

/-- `VlessLinkParser.parse(rawLink)` and what follows it. -/
def App.parse (s : App) (call : ℕ) (rawLink randomUuid : String) (currentTimeMillis : ℕ) : App :=
  match VlessLinkParser.parse platform rawLink randomUuid currentTimeMillis with
  | .ok profile =>
    { s.move call (.loading (.add profile)) with drawn := randomUuid :: s.drawn }
  | .error (.vlessLinkParse message) =>
    { s.move call (.done none) with linkError := some message }
  | .error .illegalArgument => s.move call .failed

/-- `prefs.edit().putString(..).apply()` and what follows it. -/
def App.save (s : App) (call : ℕ) (update : Update) (loaded : List ServerProfile) : App :=
  { s.move call (.done (some update)) with
    prefs := Android.save json (update.apply loaded)
    linkError := match update with
      | .add _ => none
      | .remove _ => s.linkError
    log := s.log ++ [(call, update)] }

def App.next (s : App) (call : ℕ) (randomUuid : String) (currentTimeMillis : ℕ) : App :=
  match s.calls call with
  | .addProfileFromLink rawLink => s.parse platform call rawLink randomUuid currentTimeMillis
  | .removeProfile profileId => s.move call (.loading (.remove profileId))
  | .loading update =>
    match loadAll json s.prefs with
    | .ok loaded => s.move call (.saving update loaded)
    | .error _ => s.move call .failed
  | .saving update loaded => s.save json call update loaded
  | .absent | .done _ | .failed => s

def App.step (s : App) : Turn → App
  | .addProfileFromLink rawLink => s.launch (.addProfileFromLink rawLink)
  | .removeProfile profileId => s.launch (.removeProfile profileId)
  | .next call randomUuid currentTimeMillis =>
    s.next platform json call randomUuid currentTimeMillis

end Steps

/-- All coroutines have ended without an error. -/
def App.Settled (s : App) : Prop := ∀ call < s.launched, ∃ update, s.calls call = .done update

/-! ## The list that is right -/

/-- One of the updates removes the profile. -/
def Removed (log : List (ℕ × Update)) (profile : ServerProfile) : Prop :=
  ∃ entry ∈ log, entry.2 = .remove profile.profileId

/-- The profile was there or was added, and was not removed afterwards. -/
def Live (initial : List ServerProfile) (log : List (ℕ × Update)) (profile : ServerProfile) : Prop :=
  profile ∈ initial ∧ ¬Removed log profile ∨
    ∃ before call after, log = before ++ (call, .add profile) :: after ∧ ¬Removed after profile

/-- The list has each of these profiles once, and no other one. -/
def App.Kept {φ : Type} (json : OrgJson φ) (initial : List ServerProfile) (s : App) : Prop :=
  ∃ profiles, loadAll json s.prefs = .ok profiles ∧ profiles.Nodup ∧
    ∀ profile, profile ∈ profiles ↔ Live initial s.log profile

/-- A random id is a new one. -/
def App.Fresh (s : App) : Turn → Prop
  | .next call randomUuid _ =>
    ∀ rawLink, s.calls call = .addProfileFromLink rawLink → randomUuid ∉ s.drawn
  | _ => True

/-- A coroutine writes while the list is still the one that it has read. -/
def App.Current {φ : Type} (json : OrgJson φ) (s : App) : Turn → Prop
  | .next call _ _ => ∀ update loaded,
    s.calls call = .saving update loaded → loadAll json s.prefs = .ok loaded
  | _ => True

/-! ## Updates one after the other -/

section Updates

variable {initial : List ServerProfile} {log : List (ℕ × Update)} {profile : ServerProfile}

def applyLog (initial : List ServerProfile) (log : List (ℕ × Update)) : List ServerProfile :=
  log.foldl (fun profiles entry => entry.2.apply profiles) initial

theorem applyLog_concat (entry : ℕ × Update) :
    applyLog initial (log ++ [entry]) = entry.2.apply (applyLog initial log) := by
  unfold applyLog
  rw [List.foldl_append, List.foldl_cons, List.foldl_nil]

/-- The id of the profile that an update adds. -/
def addedId (entry : ℕ × Update) : Option String :=
  match entry.2 with
  | .add profile => some profile.profileId
  | .remove _ => none

theorem removed_concat {entry : ℕ × Update} :
    Removed (log ++ [entry]) profile ↔
      Removed log profile ∨ entry.2 = .remove profile.profileId := by
  simp only [Removed, List.mem_append, List.mem_singleton, or_and_right, exists_or,
    exists_eq_left]

theorem live_concat_add {call : ℕ} {added : ServerProfile} :
    Live initial (log ++ [(call, .add added)]) profile ↔
      Live initial log profile ∨ profile = added := by
  have hremoved : ∀ after, Removed (after ++ [(call, .add added)]) profile ↔
      Removed after profile := fun after => by simp [removed_concat]
  unfold Live
  rw [hremoved, or_assoc]
  refine or_congr_right ⟨?_, ?_⟩
  · rintro ⟨before, call', after, heq, hafter⟩
    rcases List.eq_nil_or_concat after with rfl | ⟨after', last, rfl⟩
    · obtain ⟨-, hlast⟩ := List.append_inj' heq rfl
      cases hlast
      exact Or.inr rfl
    · rw [List.concat_eq_append, ← List.cons_append, ← List.append_assoc] at heq
      obtain ⟨hlog, hlast⟩ := List.append_inj' heq rfl
      cases hlast
      rw [List.concat_eq_append, hremoved] at hafter
      exact Or.inl ⟨before, call', after', hlog, hafter⟩
  · rintro (⟨before, call', after, rfl, hafter⟩ | rfl)
    · refine ⟨before, call', after ++ [(call, .add added)], ?_, (hremoved after).not.mpr hafter⟩
      rw [List.append_assoc, List.cons_append]
    · exact ⟨log, call, [], rfl, by simp [Removed]⟩

theorem live_concat_remove {call : ℕ} {profileId : String} :
    Live initial (log ++ [(call, .remove profileId)]) profile ↔
      Live initial log profile ∧ profile.profileId ≠ profileId := by
  have hremoved : ∀ after, ¬Removed (after ++ [(call, .remove profileId)]) profile ↔
      ¬Removed after profile ∧ profile.profileId ≠ profileId := by
    intro after
    rw [removed_concat, not_or]
    simp [eq_comm]
  unfold Live
  rw [hremoved, or_and_right, and_assoc]
  refine or_congr_right ⟨?_, ?_⟩
  · rintro ⟨before, call', after, heq, hafter⟩
    rcases List.eq_nil_or_concat after with rfl | ⟨after', last, rfl⟩
    · obtain ⟨-, hlast⟩ := List.append_inj' heq rfl
      cases hlast
    · rw [List.concat_eq_append, ← List.cons_append, ← List.append_assoc] at heq
      obtain ⟨hlog, hlast⟩ := List.append_inj' heq rfl
      cases hlast
      rw [List.concat_eq_append, hremoved] at hafter
      exact ⟨⟨before, call', after', hlog, hafter.1⟩, hafter.2⟩
  · rintro ⟨⟨before, call', after, rfl, hafter⟩, hne⟩
    refine ⟨before, call', after ++ [(call, .remove profileId)], ?_, (hremoved after).mpr
      ⟨hafter, hne⟩⟩
    rw [List.append_assoc, List.cons_append]

theorem mem_applyLog_iff : profile ∈ applyLog initial log ↔ Live initial log profile := by
  induction log using List.reverseRecOn with
  | nil => simp [applyLog, Live, Removed]
  | append_singleton log entry ih =>
    obtain ⟨call, update⟩ := entry
    rw [applyLog_concat]
    cases update with
    | add added => rw [live_concat_add, Update.apply, List.mem_append, List.mem_singleton, ih]
    | remove profileId =>
      rw [live_concat_remove, Update.apply, List.mem_filter, ih, decide_eq_true_eq]

/-- The ids of the list, in the order in which they came. -/
theorem sublist_ids : ((applyLog initial log).map ServerProfile.profileId).Sublist
    (initial.map ServerProfile.profileId ++ log.filterMap addedId) := by
  induction log using List.reverseRecOn with
  | nil => simp [applyLog]
  | append_singleton log entry ih =>
    obtain ⟨call, update⟩ := entry
    rw [applyLog_concat, List.filterMap_append, ← List.append_assoc]
    cases update with
    | add added =>
      rw [Update.apply, List.map_append]
      exact ih.append (List.Sublist.refl _)
    | remove profileId =>
      exact ((List.filter_sublist.map _).trans ih).trans (List.sublist_append_left _ _)

end Updates

/-! ## Runs -/

theorem parse_profileId {platform : Platform} {rawLink randomUuid : String}
    {currentTimeMillis : ℕ} {profile : ServerProfile}
    (h : VlessLinkParser.parse platform rawLink randomUuid currentTimeMillis = .ok profile) :
    profile.profileId = randomUuid := by
  unfold VlessLinkParser.parse at h
  simp only [bind_eq_ok_iff] at h
  obtain ⟨_, -, _, -, _, -, _, -, _, -, _, -, _, -, _, -, _, -, _, -, h⟩ := h
  cases h
  rfl

/-- The list is what the saved updates make of it, and every added profile has an id of its own. -/
structure App.Sound {φ : Type} (json : OrgJson φ) (initial : List ServerProfile) (s : App) :
    Prop where
  stored : loadAll json s.prefs = .ok (applyLog initial s.log)
  absent : ∀ call, s.launched ≤ call → s.calls call = .absent
  logged : ∀ entry ∈ s.log, s.calls entry.1 = .done (some entry.2)
  nodup : (s.log.map Prod.fst).Nodup
  known : ∀ profile ∈ initial, profile.profileId ∈ s.drawn
  drawn : ∀ call profile, (s.calls call).update = some (.add profile) →
    profile.profileId ∈ s.drawn ∧ profile.profileId ∉ initial.map ServerProfile.profileId
  distinct : ∀ call call' profile profile', (s.calls call).update = some (.add profile) →
    (s.calls call').update = some (.add profile') → profile.profileId = profile'.profileId →
      call = call'

section Sound

variable {φ : Type} {platform : Platform} {json : OrgJson φ} {initial : List ServerProfile} {s : App}

theorem sound_begin {prefs : Prefs} (h : loadAll json prefs = .ok initial) :
    (App.begin prefs initial).Sound json initial where
  stored := h
  absent _ _ := rfl
  logged := nofun
  nodup := List.nodup_nil
  known _ hmem := List.mem_map_of_mem hmem
  drawn := nofun
  distinct := nofun

/-- A step that keeps the update of its coroutine and the list. -/
theorem App.Sound.move (h : s.Sound json initial) {call : ℕ} {place : Place}
    (hlaunched : call < s.launched) (hopen : ∀ update, s.calls call ≠ .done (some update))
    (hupdate : ∀ profile, place.update = some (.add profile) →
      (s.calls call).update = some (.add profile)) : (s.move call place).Sound json initial := by
  have hplaces : ∀ call' profile,
      ((s.move call place).calls call').update = some (.add profile) →
        (s.calls call').update = some (.add profile) := by
    intro call' profile hcall'
    by_cases heq : call' = call
    · subst heq
      exact hupdate profile (by simpa [App.move] using hcall')
    · simpa [App.move, heq] using hcall'
  refine {
    stored := h.stored
    absent := fun call' hcall' => ?_
    logged := fun entry hentry => ?_
    nodup := h.nodup
    known := h.known
    drawn := fun call' profile hcall' => h.drawn call' profile (hplaces call' profile hcall')
    distinct := fun call₁ call₂ profile₁ profile₂ h₁ h₂ => h.distinct call₁ call₂ profile₁ profile₂
      (hplaces _ _ h₁) (hplaces _ _ h₂) }
  · show Function.update s.calls call place call' = .absent
    have hcall'' : s.launched ≤ call' := hcall'
    rw [Function.update_of_ne (by omega)]
    exact h.absent call' hcall'
  · show Function.update s.calls call place entry.1 = _
    have hne : entry.1 ≠ call := by
      intro heq
      exact hopen entry.2 (heq ▸ h.logged entry hentry)
    rw [Function.update_of_ne hne]
    exact h.logged entry hentry

theorem App.Sound.launch (h : s.Sound json initial) {place : Place} (hplace : place.update = none) :
    (s.launch place).Sound json initial := by
  have hplaces : ∀ call profile, ((s.launch place).calls call).update = some (.add profile) →
      (s.calls call).update = some (.add profile) := by
    intro call profile hcall
    by_cases heq : call = s.launched
    · subst heq
      simp [App.launch, App.move, hplace] at hcall
    · simpa [App.launch, App.move, heq] using hcall
  refine {
    stored := h.stored
    absent := fun call hcall => ?_
    logged := fun entry hentry => ?_
    nodup := h.nodup
    known := h.known
    drawn := fun call profile hcall => h.drawn call profile (hplaces call profile hcall)
    distinct := fun call₁ call₂ profile₁ profile₂ h₁ h₂ => h.distinct call₁ call₂ profile₁ profile₂
      (hplaces _ _ h₁) (hplaces _ _ h₂) }
  · show Function.update s.calls s.launched place call = .absent
    have hcall' : s.launched + 1 ≤ call := hcall
    rw [Function.update_of_ne (by omega)]
    exact h.absent call (by omega)
  · show Function.update s.calls s.launched place entry.1 = _
    have hne : entry.1 ≠ s.launched := by
      intro heq
      have hdone := h.logged entry hentry
      rw [heq, h.absent s.launched (Nat.le_refl _)] at hdone
      cases hdone
    rw [Function.update_of_ne hne]
    exact h.logged entry hentry

/-- A link that was parsed gives its profile a new id. -/
theorem App.Sound.parsed (h : s.Sound json initial) {call : ℕ} {rawLink : String}
    {profile : ServerProfile} (hlaunched : call < s.launched)
    (hplace : s.calls call = .addProfileFromLink rawLink) (hfresh : profile.profileId ∉ s.drawn) :
    App.Sound json initial
      { s.move call (.loading (.add profile)) with drawn := profile.profileId :: s.drawn } := by
  have hplaces : ∀ call' profile',
      ((s.move call (.loading (.add profile))).calls call').update = some (.add profile') →
        call' = call ∧ profile' = profile ∨
          call' ≠ call ∧ (s.calls call').update = some (.add profile') := by
    intro call' profile' hcall'
    by_cases heq : call' = call
    · subst heq
      have hsame : profile = profile' := by simpa [App.move, Place.update] using hcall'
      exact Or.inl ⟨rfl, hsame.symm⟩
    · exact Or.inr ⟨heq, by simpa [App.move, heq] using hcall'⟩
  have hnew : profile.profileId ∉ initial.map ServerProfile.profileId := by
    intro hmem
    obtain ⟨profile', hmem', heq⟩ := List.mem_map.mp hmem
    exact hfresh (heq ▸ h.known profile' hmem')
  refine {
    stored := h.stored
    absent := fun call' hcall' => ?_
    logged := fun entry hentry => ?_
    nodup := h.nodup
    known := fun profile' hmem => List.mem_cons_of_mem _ (h.known profile' hmem)
    drawn := fun call' profile' hcall' => ?_
    distinct := fun call₁ call₂ profile₁ profile₂ h₁ h₂ hid => ?_ }
  · show Function.update s.calls call _ call' = .absent
    have hcall'' : s.launched ≤ call' := hcall'
    rw [Function.update_of_ne (by omega)]
    exact h.absent call' hcall'
  · show Function.update s.calls call _ entry.1 = _
    have hne : entry.1 ≠ call := by
      intro heq
      have hdone := h.logged entry hentry
      rw [heq, hplace] at hdone
      cases hdone
    rw [Function.update_of_ne hne]
    exact h.logged entry hentry
  · rcases hplaces call' profile' hcall' with ⟨-, rfl⟩ | ⟨-, hold⟩
    · exact ⟨List.mem_cons_self, hnew⟩
    · exact ⟨List.mem_cons_of_mem _ (h.drawn call' profile' hold).1,
        (h.drawn call' profile' hold).2⟩
  · rcases hplaces call₁ profile₁ h₁ with ⟨rfl, rfl⟩ | ⟨-, hold₁⟩ <;>
      rcases hplaces call₂ profile₂ h₂ with ⟨rfl, rfl⟩ | ⟨-, hold₂⟩
    · rfl
    · exact absurd (hid ▸ (h.drawn call₂ profile₂ hold₂).1) hfresh
    · exact absurd (hid ▸ (h.drawn call₁ profile₁ hold₁).1) hfresh
    · exact h.distinct call₁ call₂ profile₁ profile₂ hold₁ hold₂ hid

/-- A coroutine writes what its update makes of the list. -/
theorem App.Sound.saved (hjson : json.Lawful) (h : s.Sound json initial) {call : ℕ}
    {update : Update} {loaded : List ServerProfile} (hlaunched : call < s.launched)
    (hplace : s.calls call = .saving update loaded) (hcurrent : loadAll json s.prefs = .ok loaded) :
    (s.save json call update loaded).Sound json initial := by
  have hmoved : (s.move call (.done (some update))).Sound json initial := by
    refine h.move hlaunched (fun update' hdone => ?_) fun profile hupdate => ?_
    · rw [hplace] at hdone
      cases hdone
    · rw [hplace]
      exact hupdate
  have hloaded : loaded = applyLog initial s.log := by
    rw [h.stored] at hcurrent
    exact (Except.ok.inj hcurrent).symm
  have hnew : call ∉ s.log.map Prod.fst := by
    intro hmem
    obtain ⟨entry, hentry, heq⟩ := List.mem_map.mp hmem
    have hdone := h.logged entry hentry
    rw [heq, hplace] at hdone
    cases hdone
  refine {
    stored := ?_
    absent := hmoved.absent
    logged := fun entry hentry => ?_
    nodup := ?_
    known := h.known
    drawn := hmoved.drawn
    distinct := hmoved.distinct }
  · show loadAll json (Android.save json _) = .ok (applyLog initial (s.log ++ [(call, update)]))
    rw [loadAll_save hjson, applyLog_concat, hloaded]
  · rcases List.mem_append.mp hentry with hold | hlast
    · exact hmoved.logged entry hold
    · rw [List.mem_singleton.mp hlast]
      exact Function.update_self ..
  · show ((s.log ++ [(call, update)]).map Prod.fst).Nodup
    rw [List.map_append]
    refine h.nodup.append (List.nodup_singleton _) ?_
    rw [List.disjoint_right]
    intro call' hcall'
    rw [List.mem_singleton.mp hcall']
    exact hnew

/-- One step. -/
theorem App.Sound.step (hjson : json.Lawful) (h : s.Sound json initial) {turn : Turn}
    (hfresh : s.Fresh turn) (hcurrent : s.Current json turn) :
    (s.step platform json turn).Sound json initial := by
  cases turn with
  | addProfileFromLink rawLink => exact h.launch rfl
  | removeProfile profileId => exact h.launch rfl
  | next call randomUuid currentTimeMillis =>
    have hlaunched : s.calls call ≠ .absent → call < s.launched := by
      intro hne
      by_contra hle
      exact hne (h.absent call (Nat.le_of_not_lt hle))
    show (s.next platform json call randomUuid currentTimeMillis).Sound json initial
    unfold App.next
    split
    · rename_i rawLink hplace
      have hcall := hlaunched (by rw [hplace]; nofun)
      unfold App.parse
      split
      · rename_i profile hparse
        have hid := parse_profileId hparse
        have hnew : profile.profileId ∉ s.drawn := hid ▸ hfresh rawLink hplace
        have hsound := h.parsed hcall hplace hnew
        rw [hid] at hsound
        exact hsound
      · have hmoved : (s.move call (.done none)).Sound json initial :=
          h.move hcall (by rw [hplace]; nofun) nofun
        exact ⟨hmoved.1, hmoved.2, hmoved.3, hmoved.4, hmoved.5, hmoved.6, hmoved.7⟩
      · exact h.move hcall (by rw [hplace]; nofun) nofun
    · rename_i profileId hplace
      exact h.move (hlaunched (by rw [hplace]; nofun)) (by rw [hplace]; nofun) nofun
    · rename_i update hplace
      have hcall := hlaunched (by rw [hplace]; nofun)
      split
      · refine h.move hcall (by rw [hplace]; nofun) fun profile hupdate => ?_
        rw [hplace]
        exact hupdate
      · exact h.move hcall (by rw [hplace]; nofun) nofun
    · rename_i update loaded hplace
      exact h.saved hjson (hlaunched (by rw [hplace]; nofun)) hplace
        (hcurrent update loaded hplace)
    · exact h
    · exact h
    · exact h

/-- The ids of the profiles that were added are new and distinct. -/
theorem App.Sound.nodup_ids (h : s.Sound json initial)
    (hinitial : (initial.map ServerProfile.profileId).Nodup) :
    (initial.map ServerProfile.profileId ++ s.log.filterMap addedId).Nodup := by
  have hupdate : ∀ entry ∈ s.log, ∀ id, addedId entry = some id →
      ∃ profile, (s.calls entry.1).update = some (.add profile) ∧ profile.profileId = id := by
    rintro ⟨call, update⟩ hentry id hid
    have hdone := h.logged _ hentry
    cases update with
    | add profile => exact ⟨profile, by rw [hdone]; rfl, Option.some.inj hid⟩
    | remove profileId => cases hid
  refine hinitial.append ?_ ?_
  · have hlog : s.log.Pairwise fun entry entry' => entry.1 ≠ entry'.1 :=
      List.pairwise_map.mp h.nodup
    rw [List.Nodup, List.pairwise_filterMap]
    refine hlog.imp_of_mem fun {entry entry'} hentry hentry' hne id hid id' hid' heq => ?_
    obtain ⟨profile, hcall, rfl⟩ := hupdate entry hentry id hid
    obtain ⟨profile', hcall', rfl⟩ := hupdate entry' hentry' id' hid'
    exact hne (h.distinct _ _ _ _ hcall hcall' heq)
  · rw [List.disjoint_right]
    intro id hid
    obtain ⟨entry, hentry, hid⟩ := List.mem_filterMap.mp hid
    obtain ⟨profile, hcall, rfl⟩ := hupdate entry hentry id hid
    exact (h.drawn _ _ hcall).2

theorem App.Sound.kept (h : s.Sound json initial)
    (hinitial : (initial.map ServerProfile.profileId).Nodup) : s.Kept json initial :=
  ⟨applyLog initial s.log, h.stored,
    (sublist_ids.nodup (h.nodup_ids hinitial)).of_map, fun _ => mem_applyLog_iff⟩

/-- **No update is lost** in a run of any number of calls in which every coroutine writes while the
list is still the one that it has read. -/
theorem kept_of_current (hjson : json.Lawful) {prefs : Prefs}
    (hprefs : loadAll json prefs = .ok initial)
    (hinitial : (initial.map ServerProfile.profileId).Nodup) {turns : List Turn}
    (hturns : Each (App.step platform json) (fun s turn => s.Fresh turn ∧ s.Current json turn)
      (.begin prefs initial) turns) :
    (runAll (App.step platform json) (.begin prefs initial) turns).Kept json initial := by
  have hsound := hturns.invariant (I := fun s => s.Sound json initial)
    (fun s turn hs hok => hs.step hjson hok.1 hok.2) (sound_begin hprefs)
  exact hsound.kept hinitial

end Sound

/-! ## Two removals -/

/-- A profile for examples. -/
def exampleProfile (profileId : String) : ServerProfile :=
  ⟨profileId, "", "", "", "", "", 443, "", "", "", "", "", ""⟩

def twoProfiles : List ServerProfile := [exampleProfile "1", exampleProfile "2"]

/-- Both removals, one turn of either after one of the other. -/
def overlappingRemovals : List Turn :=
  [.removeProfile "1", .removeProfile "2", .next 0 "" 0, .next 1 "" 0, .next 0 "" 0, .next 1 "" 0,
    .next 0 "" 0, .next 1 "" 0]

section Removals

variable {φ : Type} {json : OrgJson φ}

/-- The second removal brings back what the first one removed. -/
theorem run_overlapping (platform : Platform) (hjson : json.Lawful) :
    let s := runAll (App.step platform json) (.begin (save json twoProfiles) twoProfiles)
      overlappingRemovals
    s.prefs = save json [exampleProfile "1"] ∧ s.log = [(0, .remove "1"), (1, .remove "2")] ∧
      s.launched = 2 ∧ s.calls 0 = .done (some (.remove "1")) ∧
      s.calls 1 = .done (some (.remove "2")) := by
  have hload := loadAll_save hjson twoProfiles
  have hkeep : (Update.remove "2").apply twoProfiles = [exampleProfile "1"] := by decide
  simp [overlappingRemovals, App.step, App.next, App.launch, App.move, App.begin, App.save, hload,
    hkeep]

theorem fresh_overlapping (platform : Platform) (hjson : json.Lawful) :
    Each (App.step platform json) App.Fresh (.begin (save json twoProfiles) twoProfiles)
      overlappingRemovals := by
  have hload := loadAll_save hjson twoProfiles
  simp [overlappingRemovals, Each, App.Fresh, App.step, App.next, App.launch, App.move, App.begin,
    App.save, hload]

end Removals

/-- All coroutines end, and a profile that was removed is in the list. -/
theorem removed_returns :
    ¬∀ (initial : List ServerProfile) (prefs : Prefs) (turns : List Turn),
      loadAll orgJson prefs = .ok initial → (initial.map ServerProfile.profileId).Nodup →
      Each (App.step examplePlatform orgJson) App.Fresh (.begin prefs initial) turns →
      (runAll (App.step examplePlatform orgJson) (.begin prefs initial) turns).Settled →
      (runAll (App.step examplePlatform orgJson) (.begin prefs initial) turns).Kept orgJson
        initial := by
  intro h
  obtain ⟨hprefs, hlog, hlaunched, hzero, hone⟩ :=
    run_overlapping examplePlatform orgJson_lawful
  have hsettled : (runAll (App.step examplePlatform orgJson)
      (.begin (save orgJson twoProfiles) twoProfiles) overlappingRemovals).Settled := by
    intro call hcall
    rw [hlaunched] at hcall
    obtain rfl | rfl : call = 0 ∨ call = 1 := by omega
    · exact ⟨_, hzero⟩
    · exact ⟨_, hone⟩
  obtain ⟨profiles, hload, -, hmem⟩ := h twoProfiles _ overlappingRemovals
    (loadAll_save orgJson_lawful twoProfiles) (by decide)
    (fresh_overlapping examplePlatform orgJson_lawful)
    hsettled
  rw [hprefs, loadAll_save orgJson_lawful] at hload
  cases hload
  have hlive := (hmem (exampleProfile "1")).mp (List.mem_singleton_self _)
  rw [hlog] at hlive
  rcases hlive with ⟨-, hnot⟩ | ⟨before, call, after, heq, -⟩
  · exact hnot ⟨_, List.mem_cons_self, rfl⟩
  · have hadd : (call, Update.add (exampleProfile "1")) ∈
        [(0, Update.remove "1"), (1, Update.remove "2")] :=
      heq ▸ List.mem_append_right _ List.mem_cons_self
    simp at hadd

/-- One removal after the other. -/
def serialRemovals : List Turn :=
  [.removeProfile "1", .next 0 "" 0, .next 0 "" 0, .next 0 "" 0, .removeProfile "2",
    .next 1 "" 0, .next 1 "" 0, .next 1 "" 0]

theorem current_serial {φ : Type} (platform : Platform) {json : OrgJson φ} (hjson : json.Lawful) :
    Each (App.step platform json) (fun s turn => s.Fresh turn ∧ s.Current json turn)
      (.begin (save json twoProfiles) twoProfiles) serialRemovals := by
  have hload := loadAll_save hjson
  simp [serialRemovals, Each, App.Fresh, App.Current, App.step, App.next, App.launch, App.move,
    App.begin, App.save, hload]

theorem serial_removals_kept :
    (runAll (App.step examplePlatform orgJson) (.begin (save orgJson twoProfiles) twoProfiles)
      serialRemovals).Kept orgJson twoProfiles :=
  kept_of_current orgJson_lawful (loadAll_save orgJson_lawful twoProfiles) (by decide)
    (current_serial examplePlatform orgJson_lawful)

end Bimarz.Android.MainViewModel
