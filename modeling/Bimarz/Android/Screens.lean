import Bimarz.Android.MainViewModel
import Bimarz.Android.Service

/-!
# What the Android app shows and asks for (`MainActivity.kt`, `ui/*Screen.kt`, `reloadProfiles`)

The screens are drawn from the flows of the view model now and then, and what a finger can touch is
what was drawn last. `reloadProfiles` runs as a coroutine beside those that change the list, cut
where `loadAll` has read and where the flow is set.

1. `Screens.step` is a touch, an answer of the system, or the next step of a coroutine.
2. `requests_known`: what is drawn has no profile twice, and the service is asked for profiles of
   the list only.
3. `shown_stored`: reloads that end in the order in which they read leave the stored list on the
   screen; `overtaken_stale`: others need not.
-/

namespace Bimarz.Android

open Effect
open Java (Platform examplePlatform)
open MainViewModel (App Update applyLog addedId)

/-- A coroutine of `reloadProfiles`. -/
inductive Reload
  | absent
  /-- before `loadAll` reads -/
  | loading
  /-- before `_profiles` is set; the number of updates saved when `loadAll` read is not read -/
  | loaded (profiles : List ServerProfile) (version : ℕ)
  | done
  /-- an exception that nothing catches -/
  | failed
  deriving DecidableEq

/-- The values that the screens were drawn from. -/
structure Drawn where
  profiles : List ServerProfile
  connectionState : ConnectionState
  linkError : Option String
  selectedProfileId : Option String
  tabIndex : ℕ

/-- The profile that `ConnectScreen` gets. -/
def Drawn.selectedProfile (d : Drawn) : Option ServerProfile :=
  d.profiles.find? fun profile => some profile.profileId = d.selectedProfileId

def ConnectionState.isBusy : ConnectionState → Bool
  | .connecting | .disconnecting => true
  | _ => false

def ConnectionState.isConnected : ConnectionState → Bool
  | .connected _ _ => true
  | _ => false

/-- The button of `ConnectScreen`. -/
def Drawn.enabled (d : Drawn) : Bool :=
  !d.connectionState.isBusy && d.selectedProfile.isSome

/-- The view model with its flows, the activity with what its composition remembers, and the
requests that were sent to the service. Nothing reads `published`, the number of updates saved when
the reload read that set `profiles`. -/
structure Screens where
  app : App
  reloads : ℕ → Reload
  reloaded : ℕ
  profiles : List ServerProfile
  published : Option ℕ
  connectionState : ConnectionState
  selectedProfileId : Option String
  tabIndex : ℕ
  linkInput : String
  drawn : Drawn
  pendingConnectProfileId : Option String
  requests : List Request

namespace Screens

/-! ## The view model -/

def move (s : Screens) (call : ℕ) (place : Reload) : Screens :=
  { s with reloads := Function.update s.reloads call place }

def reloadProfiles (s : Screens) : Screens :=
  { s.move s.reloaded .loading with reloaded := s.reloaded + 1 }

/-! ## The activity -/

def startVpnService (s : Screens) (profileId : String) : Screens :=
  { s with requests := s.requests ++ [.connect profileId] }

def stopVpnService (s : Screens) : Screens := { s with requests := s.requests ++ [.disconnect] }

/-- Without the permission, `prepare` gives a dialog to show. -/
def requestConnect (s : Screens) (profileId : String) (permitted : Bool) : Screens :=
  if permitted then s.startVpnService profileId
  else { s with pendingConnectProfileId := some profileId }

/-- What `vpnPermissionLauncher` calls. -/
def onPermission (s : Screens) (granted : Bool) : Screens :=
  { (if granted then (s.pendingConnectProfileId.map s.startVpnService).getD s else s) with
    pendingConnectProfileId := none }

/-- What is drawn of an activity that was just made. -/
def blank (profiles : List ServerProfile) (connectionState : ConnectionState)
    (linkError : Option String) : Drawn :=
  ⟨profiles, connectionState, linkError, none, 0⟩

/-- `onCreate`, with the view model that there is. -/
def onCreate (s : Screens) : Screens :=
  { s with
    selectedProfileId := none
    tabIndex := 0
    linkInput := ""
    drawn := blank s.profiles s.connectionState s.app.linkError
    pendingConnectProfileId := none }

/-- The app at its first activity. -/
def init (prefs : Prefs) (initial : List ServerProfile) (connectionState : ConnectionState) :
    Screens where
  app := .begin prefs initial
  reloads := Function.update (fun _ => .absent) 0 .loading
  reloaded := 1
  profiles := []
  published := none
  connectionState
  selectedProfileId := none
  tabIndex := 0
  linkInput := ""
  drawn := blank [] connectionState none
  pendingConnectProfileId := none
  requests := []

/-! ## The screens -/

/-- The screens are drawn again. What only `ProfileListScreen` remembers is gone without it. -/
def recompose (s : Screens) : Screens :=
  { s with
    linkInput := if s.tabIndex = 0 then s.linkInput else ""
    drawn := ⟨s.profiles, s.connectionState, s.app.linkError, s.selectedProfileId, s.tabIndex⟩ }

/-- The button below the text field. -/
def onAddLink (s : Screens) : Screens :=
  { s with app := s.app.launch (.addProfileFromLink s.linkInput), linkInput := "" }

def onRemoveProfile (s : Screens) (profileId : String) : Screens :=
  { s with
    app := s.app.launch (.removeProfile profileId)
    selectedProfileId := if s.selectedProfileId = some profileId then none
      else s.selectedProfileId }

/-- The button of `ConnectScreen`, where it is enabled. -/
def onClick (s : Screens) (permitted : Bool) : Screens :=
  if s.drawn.connectionState.isConnected then s.stopVpnService
  else
    match s.selectedProfileId with
    | some profileId => s.requestConnect profileId permitted
    | none => s

/-- A touch of what is drawn, the system, or the next step of a coroutine. -/
inductive Turn
  | linkInput (text : String)
  | addLink
  | select (profileId : String)
  | remove (profileId : String)
  | tab (index : Fin 2)
  | connectButton (permitted : Bool)
  | permission (granted : Bool)
  | recompose
  | recreate
  | connectionState (state : ConnectionState)
  | next (call : ℕ) (randomUuid : String) (currentTimeMillis : ℕ)
  | reload (call : ℕ)

section Steps

variable {φ : Type} (platform : Platform) (json : OrgJson φ)

/-- A coroutine that has saved its update starts a reload. -/
def next (s : Screens) (call : ℕ) (randomUuid : String) (currentTimeMillis : ℕ) : Screens :=
  let s' := { s with app := s.app.next platform json call randomUuid currentTimeMillis }
  match s.app.calls call with
  | .saving _ _ => s'.reloadProfiles
  | _ => s'

def reload (s : Screens) (call : ℕ) : Screens :=
  match s.reloads call with
  | .loading =>
    match loadAll json s.app.prefs with
    | .ok loaded => s.move call (.loaded loaded s.app.log.length)
    | .error _ => s.move call .failed
  | .loaded profiles version =>
    { s.move call .done with profiles, published := some version }
  | .absent | .done | .failed => s

/-- What is not drawn cannot be touched. -/
def step (s : Screens) : Turn → Screens
  | .linkInput text => if s.drawn.tabIndex = 0 then { s with linkInput := text } else s
  | .addLink => if s.drawn.tabIndex = 0 then s.onAddLink else s
  | .select profileId =>
    if s.drawn.tabIndex = 0 ∧ profileId ∈ s.drawn.profiles.map ServerProfile.profileId then
      { s with selectedProfileId := some profileId }
    else s
  | .remove profileId =>
    if s.drawn.tabIndex = 0 ∧ profileId ∈ s.drawn.profiles.map ServerProfile.profileId then
      s.onRemoveProfile profileId
    else s
  | .tab index => { s with tabIndex := index }
  | .connectButton permitted =>
    if s.drawn.tabIndex ≠ 0 ∧ s.drawn.enabled then s.onClick permitted else s
  | .permission granted => s.onPermission granted
  | .recompose => s.recompose
  | .recreate => s.onCreate
  | .connectionState state => { s with connectionState := state }
  | .next call randomUuid currentTimeMillis => s.next platform json call randomUuid currentTimeMillis
  | .reload call => s.reload json call

end Steps

end Screens

/-! ## Lists under every interleaving -/

namespace MainViewModel

section Known

variable {initial profiles : List ServerProfile} {log : List (ℕ × Update)}

/-- The ids of the list at the beginning and of every profile added since. -/
def listed (initial : List ServerProfile) (log : List (ℕ × Update)) : List String :=
  initial.map ServerProfile.profileId ++ log.filterMap addedId

theorem listed_concat (entry : ℕ × Update) :
    listed initial (log ++ [entry]) = listed initial log ++ [entry].filterMap addedId := by
  rw [listed, List.filterMap_append, ← List.append_assoc, listed]

/-- No profile is there twice, and each was there at the beginning or was added. -/
structure Known (initial : List ServerProfile) (log : List (ℕ × Update))
    (profiles : List ServerProfile) : Prop where
  nodup : (profiles.map ServerProfile.profileId).Nodup
  subset : profiles.map ServerProfile.profileId ⊆ listed initial log

theorem Known.mono {log' : List (ℕ × Update)} (h : Known initial log profiles)
    (hlog : listed initial log ⊆ listed initial log') : Known initial log' profiles :=
  ⟨h.nodup, List.Subset.trans h.subset hlog⟩

theorem Known.apply (h : Known initial log profiles) (call : ℕ) {update : Update}
    (hnew : ∀ profile, update = .add profile → profile.profileId ∉ listed initial log) :
    Known initial (log ++ [(call, update)]) (update.apply profiles) := by
  cases update with
  | add profile =>
    have hids : ((Update.add profile).apply profiles).map ServerProfile.profileId =
        profiles.map ServerProfile.profileId ++ [profile.profileId] := List.map_append
    have hlisted : listed initial (log ++ [(call, .add profile)]) =
        listed initial log ++ [profile.profileId] := listed_concat _
    refine ⟨?_, ?_⟩
    · rw [hids]
      refine h.nodup.append (List.nodup_singleton _) ?_
      rw [List.disjoint_singleton]
      exact fun hmem => hnew profile rfl (h.subset hmem)
    · rw [hids, hlisted]
      exact List.append_subset.mpr ⟨List.subset_append_of_subset_left _ h.subset,
        List.subset_append_right _ _⟩
  | remove profileId =>
    have hsublist : (((Update.remove profileId).apply profiles).map ServerProfile.profileId).Sublist
        (profiles.map ServerProfile.profileId) := List.filter_sublist.map _
    have hids : ((Update.remove profileId).apply profiles).map ServerProfile.profileId ⊆
        listed initial log := List.Subset.trans hsublist.subset h.subset
    refine ⟨h.nodup.sublist hsublist, List.Subset.trans hids ?_⟩
    rw [listed_concat]
    exact List.subset_append_left _ _

end Known

section Held

variable {φ : Type} {platform : Platform} {json : OrgJson φ} {initial : List ServerProfile} {s : App}

/-- The app with the list as it were if no two coroutines overlapped. -/
def App.serial (json : OrgJson φ) (initial : List ServerProfile) (s : App) : App :=
  { s with prefs := Android.save json (applyLog initial s.log) }

/-- What holds of the lists whatever coroutines overlap. But for the list, the app is a serial
one. -/
structure App.Held (json : OrgJson φ) (initial : List ServerProfile) (s : App) : Prop where
  serial : (s.serial json initial).Sound json initial
  stored : ∃ profiles, loadAll json s.prefs = .ok profiles ∧ Known initial s.log profiles
  saving : ∀ call update loaded, s.calls call = .saving update loaded → Known initial s.log loaded

theorem held_begin (hjson : json.Lawful) {prefs : Prefs} (hprefs : loadAll json prefs = .ok initial)
    (hinitial : (initial.map ServerProfile.profileId).Nodup) :
    (App.begin prefs initial).Held json initial where
  serial := sound_begin (loadAll_save hjson initial)
  stored := ⟨initial, hprefs, hinitial, List.subset_append_left _ _⟩
  saving := nofun

theorem App.Held.launch (h : s.Held json initial) {place : Place} (hplace : place.update = none) :
    (s.launch place).Held json initial where
  serial := h.serial.launch hplace
  stored := h.stored
  saving call update loaded hcall := by
    by_cases heq : call = s.launched
    · subst heq
      simp only [App.launch, App.move, Function.update_self] at hcall
      rw [hcall] at hplace
      cases hplace
    · exact h.saving call update loaded (by simpa [App.launch, App.move, heq] using hcall)

/-- A profile that a coroutine is about to add is not one of the list's yet. -/
theorem App.Held.new (h : s.Held json initial) {call : ℕ} {profile : ServerProfile}
    {loaded : List ServerProfile} (hplace : s.calls call = .saving (.add profile) loaded) :
    profile.profileId ∉ listed initial s.log := by
  have hupdate : (s.calls call).update = some (.add profile) := by
    rw [hplace]
    rfl
  intro hmem
  rcases List.mem_append.mp hmem with hinitial | hlog
  · exact (h.serial.drawn call profile hupdate).2 hinitial
  · obtain ⟨⟨call', update'⟩, hentry, hid⟩ := List.mem_filterMap.mp hlog
    have hdone : s.calls call' = .done (some update') := h.serial.logged _ hentry
    cases update' with
    | add profile' =>
      have hcall : call' = call := h.serial.distinct call' call profile' profile
        (by show (s.calls call').update = _; rw [hdone]; rfl) hupdate (Option.some.inj hid)
      rw [hcall, hplace] at hdone
      cases hdone
    | remove profileId => cases hid

/-- A coroutine that goes to a place of its own. -/
theorem App.Held.move (h : s.Held json initial) {call : ℕ} {place : Place}
    (hlaunched : call < s.launched) (hopen : ∀ update, s.calls call ≠ .done (some update))
    (hupdate : ∀ profile, place.update = some (.add profile) →
      (s.calls call).update = some (.add profile))
    (hloaded : ∀ update loaded, place = .saving update loaded → Known initial s.log loaded) :
    (s.move call place).Held json initial where
  serial := h.serial.move hlaunched hopen hupdate
  stored := h.stored
  saving call' update loaded hcall' := by
    by_cases heq : call' = call
    · subst heq
      exact hloaded update loaded (by simpa [App.move] using hcall')
    · exact h.saving call' update loaded (by simpa [App.move, heq] using hcall')

/-- A link that was parsed gives its profile a new id. -/
theorem App.Held.parsed (h : s.Held json initial) {call : ℕ} {rawLink : String}
    {profile : ServerProfile} (hlaunched : call < s.launched)
    (hplace : s.calls call = .addProfileFromLink rawLink) (hfresh : profile.profileId ∉ s.drawn) :
    App.Held json initial
      { s.move call (.loading (.add profile)) with drawn := profile.profileId :: s.drawn } where
  serial := h.serial.parsed hlaunched hplace hfresh
  stored := h.stored
  saving call' update loaded hcall' := by
    by_cases heq : call' = call
    · subst heq
      simp [App.move] at hcall'
    · exact h.saving call' update loaded (by simpa [App.move, heq] using hcall')

/-- A coroutine that writes, whatever the others have written since it read. -/
theorem App.Held.save (hjson : json.Lawful) (h : s.Held json initial) {call : ℕ} {update : Update}
    {loaded : List ServerProfile} (hlaunched : call < s.launched)
    (hplace : s.calls call = .saving update loaded) :
    (s.save json call update loaded).Held json initial := by
  have hnew : ∀ profile, update = .add profile → profile.profileId ∉ listed initial s.log := by
    rintro profile rfl
    exact h.new hplace
  have hsame : listed initial s.log ⊆ listed initial (s.log ++ [(call, update)]) := by
    rw [listed_concat]
    exact List.subset_append_left _ _
  refine ⟨?_, ?_, ?_⟩
  · -- The serial app has read the list that it stores.
    have hread : ((s.serial json initial).move call
        (.saving update (applyLog initial s.log))).Sound json initial := by
      refine h.serial.move hlaunched (fun update' hdone => ?_) fun profile hupdate => ?_
      · change s.calls call = _ at hdone
        rw [hplace] at hdone
        cases hdone
      · change (s.calls call).update = _
        rw [hplace]
        exact hupdate
    have hload : loadAll json (s.serial json initial).prefs = .ok (applyLog initial s.log) :=
      loadAll_save hjson _
    have hsaved := hread.saved hjson hlaunched (Function.update_self ..) hload
    have heq : ((s.serial json initial).move call (.saving update (applyLog initial s.log))).save
        json call update (applyLog initial s.log) =
          (s.save json call update loaded).serial json initial := by
      simp [App.save, App.serial, App.move, applyLog_concat]
    rw [← heq]
    exact hsaved
  · exact ⟨_, loadAll_save hjson _, (h.saving call update loaded hplace).apply call hnew⟩
  · intro call' update' loaded' hcall'
    by_cases heq : call' = call
    · subst heq
      simp [App.save, App.move] at hcall'
    · exact (h.saving call' update' loaded' (by simpa [App.save, App.move, heq] using hcall')).mono
        hsame

/-- One step of a coroutine. -/
theorem App.Held.next (hjson : json.Lawful) (h : s.Held json initial) {call : ℕ}
    {randomUuid : String} {currentTimeMillis : ℕ}
    (hfresh : s.Fresh (.next call randomUuid currentTimeMillis)) :
    (s.next platform json call randomUuid currentTimeMillis).Held json initial := by
  have hlaunched : s.calls call ≠ .absent → call < s.launched := by
    intro hne
    by_contra hle
    exact hne (h.serial.absent call (Nat.le_of_not_lt hle))
  unfold App.next
  split
  · rename_i rawLink hplace
    have hcall := hlaunched (by rw [hplace]; nofun)
    unfold App.parse
    split
    · rename_i profile hparse
      have hid := parse_profileId hparse
      have hnew : profile.profileId ∉ s.drawn := hid ▸ hfresh rawLink hplace
      have hheld := h.parsed hcall hplace hnew
      rw [hid] at hheld
      exact hheld
    · have hmoved : (s.move call (.done none)).Held json initial :=
        h.move hcall (by rw [hplace]; nofun) nofun nofun
      obtain ⟨hserial, hstored, hsaving⟩ := hmoved
      exact ⟨⟨hserial.1, hserial.2, hserial.3, hserial.4, hserial.5, hserial.6, hserial.7⟩, hstored,
        hsaving⟩
    · exact h.move hcall (by rw [hplace]; nofun) nofun nofun
  · rename_i profileId hplace
    exact h.move (hlaunched (by rw [hplace]; nofun)) (by rw [hplace]; nofun) nofun nofun
  · rename_i update hplace
    have hcall := hlaunched (by rw [hplace]; nofun)
    split
    · rename_i loaded hload
      refine h.move hcall (by rw [hplace]; nofun) (fun profile hupdate => ?_) ?_
      · rw [hplace]
        exact hupdate
      · rintro update' loaded' hsaving
        cases hsaving
        obtain ⟨profiles, hstored, hknown⟩ := h.stored
        rw [hload] at hstored
        cases hstored
        exact hknown
    · exact h.move hcall (by rw [hplace]; nofun) nofun nofun
  · rename_i update loaded hplace
    exact h.save hjson (hlaunched (by rw [hplace]; nofun)) hplace
  · exact h
  · exact h
  · exact h

end Held

end MainViewModel

namespace Screens

open MainViewModel (Known listed listed_concat held_begin twoProfiles exampleProfile)

section Requests

variable {φ : Type} {platform : Platform} {json : OrgJson φ} {initial : List ServerProfile}
  {s : Screens}

/-- Each list of the app, whether stored, on its way or drawn, has known profiles only, and so has
every request. -/
structure Sound (json : OrgJson φ) (initial : List ServerProfile) (s : Screens) : Prop where
  held : s.app.Held json initial
  loaded : ∀ call profiles version, s.reloads call = .loaded profiles version →
    Known initial s.app.log profiles
  profiles : Known initial s.app.log s.profiles
  drawn : Known initial s.app.log s.drawn.profiles
  selected : s.drawn.tabIndex ≠ 0 → s.drawn.selectedProfileId = s.selectedProfileId
  pending : ∀ profileId, s.pendingConnectProfileId = some profileId →
    profileId ∈ listed initial s.app.log
  requests : ∀ profileId, .connect profileId ∈ s.requests → profileId ∈ listed initial s.app.log

/-- A random id is a new one. -/
def Fresh (s : Screens) : Turn → Prop
  | .next call randomUuid currentTimeMillis => s.app.Fresh (.next call randomUuid currentTimeMillis)
  | _ => True

theorem known_nil {log : List (ℕ × Update)} : Known initial log [] :=
  ⟨List.nodup_nil, List.nil_subset _⟩

theorem sound_init (hjson : json.Lawful) {prefs : Prefs} (hprefs : loadAll json prefs = .ok initial)
    (hinitial : (initial.map ServerProfile.profileId).Nodup) (state : ConnectionState) :
    (init prefs initial state).Sound json initial where
  held := held_begin hjson hprefs hinitial
  loaded call profiles version hcall := by
    by_cases heq : call = 0
    · subst heq
      cases hcall
    · simp [init, heq] at hcall
  profiles := known_nil
  drawn := known_nil
  selected hne := absurd rfl hne
  pending := nofun
  requests := nofun

theorem Sound.startVpnService (h : s.Sound json initial) {profileId : String}
    (hmem : profileId ∈ listed initial s.app.log) :
    (s.startVpnService profileId).Sound json initial where
  held := h.held
  loaded := h.loaded
  profiles := h.profiles
  drawn := h.drawn
  selected := h.selected
  pending := h.pending
  requests profileId' hrequest := by
    rcases List.mem_append.mp hrequest with hold | hlast
    · exact h.requests profileId' hold
    · cases List.mem_singleton.mp hlast
      exact hmem

theorem Sound.stopVpnService (h : s.Sound json initial) : s.stopVpnService.Sound json initial := by
  refine { h with requests := fun profileId hrequest => ?_ }
  rcases List.mem_append.mp hrequest with hold | hlast
  · exact h.requests profileId hold
  · cases List.mem_singleton.mp hlast

/-- The profile that the button stands for is one of the profiles drawn. -/
theorem Sound.selected_mem (h : s.Sound json initial) (htab : s.drawn.tabIndex ≠ 0)
    (henabled : s.drawn.enabled) {profileId : String}
    (hselected : s.selectedProfileId = some profileId) :
    profileId ∈ listed initial s.app.log := by
  obtain ⟨-, hsome⟩ := Bool.and_eq_true_iff.mp henabled
  obtain ⟨profile, hprofile⟩ := Option.isSome_iff_exists.mp hsome
  have hid : some profile.profileId = s.drawn.selectedProfileId := by
    simpa using List.find?_some hprofile
  rw [h.selected htab, hselected] at hid
  cases hid
  exact h.drawn.subset (List.mem_map_of_mem (List.mem_of_find?_eq_some hprofile))

theorem Sound.onClick (h : s.Sound json initial) (htab : s.drawn.tabIndex ≠ 0)
    (henabled : s.drawn.enabled) (permitted : Bool) : (s.onClick permitted).Sound json initial := by
  unfold Screens.onClick
  split
  · exact h.stopVpnService
  · split
    · rename_i profileId hselected
      have hmem := h.selected_mem htab henabled hselected
      unfold requestConnect
      split
      · exact h.startVpnService hmem
      · refine { h with pending := fun profileId' hpending => ?_ }
        cases hpending
        exact hmem
    · exact h

theorem Sound.onPermission (h : s.Sound json initial) (granted : Bool) :
    (s.onPermission granted).Sound json initial := by
  have hclear : ∀ s' : Screens, s'.Sound json initial →
      Sound json initial { s' with pendingConnectProfileId := none } :=
    fun s' h' => { h' with pending := nofun }
  unfold Screens.onPermission
  refine hclear _ ?_
  split
  · cases hpending : s.pendingConnectProfileId with
    | none => exact h
    | some profileId => exact h.startVpnService (h.pending profileId hpending)
  · exact h

theorem Sound.move (h : s.Sound json initial) (call : ℕ) (place : Reload)
    (hplace : ∀ profiles version, place = .loaded profiles version →
      Known initial s.app.log profiles) : (s.move call place).Sound json initial := by
  refine { h with loaded := fun call' profiles version hcall' => ?_ }
  by_cases heq : call' = call
  · subst heq
    exact hplace profiles version (by simpa [Screens.move] using hcall')
  · exact h.loaded call' profiles version (by simpa [Screens.move, heq] using hcall')

theorem Sound.reloadProfiles (h : s.Sound json initial) : s.reloadProfiles.Sound json initial :=
  { h.move s.reloaded .loading nofun with }

theorem Sound.reload (h : s.Sound json initial) (call : ℕ) :
    (s.reload json call).Sound json initial := by
  unfold Screens.reload
  split
  · rename_i hplace
    split
    · rename_i loaded hload
      refine h.move call _ fun profiles version heq => ?_
      cases heq
      obtain ⟨stored, hstored, hknown⟩ := h.held.stored
      rw [hload] at hstored
      cases hstored
      exact hknown
    · exact h.move call _ nofun
  · rename_i profiles version hplace
    exact { h.move call .done nofun with profiles := h.loaded call profiles version hplace }
  · exact h
  · exact h
  · exact h

/-- What was listed stays so. -/
theorem listed_next (s : App) (call : ℕ) (randomUuid : String) (currentTimeMillis : ℕ) :
    listed initial s.log ⊆
      listed initial (s.next platform json call randomUuid currentTimeMillis).log := by
  unfold App.next App.parse
  split
  · split <;> exact List.Subset.refl _
  · exact List.Subset.refl _
  · split <;> exact List.Subset.refl _
  · show listed initial s.log ⊆ listed initial (s.log ++ [_])
    rw [listed_concat]
    exact List.subset_append_left _ _
  · exact List.Subset.refl _
  · exact List.Subset.refl _
  · exact List.Subset.refl _

theorem Sound.next (hjson : json.Lawful) (h : s.Sound json initial) {call : ℕ} {randomUuid : String}
    {currentTimeMillis : ℕ} (hfresh : s.Fresh (.next call randomUuid currentTimeMillis)) :
    (s.next platform json call randomUuid currentTimeMillis).Sound json initial := by
  have hlisted : listed initial s.app.log ⊆
      listed initial (s.app.next platform json call randomUuid currentTimeMillis).log :=
    listed_next s.app call randomUuid currentTimeMillis
  have hnext : Sound json initial
      { s with app := s.app.next platform json call randomUuid currentTimeMillis } :=
    { held := h.held.next hjson hfresh
      loaded := fun call' profiles version hcall' =>
        (h.loaded call' profiles version hcall').mono hlisted
      profiles := h.profiles.mono hlisted
      drawn := h.drawn.mono hlisted
      selected := h.selected
      pending := fun profileId hpending => hlisted (h.pending profileId hpending)
      requests := fun profileId hrequest => hlisted (h.requests profileId hrequest) }
  unfold Screens.next
  split
  · exact hnext.reloadProfiles
  · exact hnext

/-- One turn. -/
theorem Sound.step (hjson : json.Lawful) (h : s.Sound json initial) {turn : Turn}
    (hfresh : s.Fresh turn) : (s.step platform json turn).Sound json initial := by
  cases turn with
  | linkInput text =>
    simp only [Screens.step]
    split
    · exact { h with }
    · exact h
  | addLink =>
    simp only [Screens.step]
    split
    · exact { h with held := h.held.launch rfl }
    · exact h
  | select profileId =>
    simp only [Screens.step]
    split
    · rename_i hdrawn
      exact { h with selected := fun hne => absurd hdrawn.1 hne }
    · exact h
  | remove profileId =>
    simp only [Screens.step]
    split
    · rename_i hdrawn
      exact { h with
        held := h.held.launch rfl
        selected := fun hne => absurd hdrawn.1 hne }
    · exact h
  | tab index => exact { h with }
  | connectButton permitted =>
    simp only [Screens.step]
    split
    · rename_i hdrawn
      exact h.onClick hdrawn.1 hdrawn.2 permitted
    · exact h
  | permission granted => exact h.onPermission granted
  | recompose => exact { h with drawn := h.profiles, selected := fun _ => rfl }
  | recreate =>
    exact { h with drawn := h.profiles, selected := fun hne => absurd rfl hne, pending := nofun }
  | connectionState state => exact { h with }
  | next call randomUuid currentTimeMillis => exact h.next hjson hfresh
  | reload call => exact h.reload call

/-- Whatever is touched and however the coroutines overlap, no profile is drawn twice, and the
service is asked only for profiles that were in the list at the beginning or were added to it. -/
theorem requests_known (hjson : json.Lawful) {prefs : Prefs} {state : ConnectionState}
    (hprefs : loadAll json prefs = .ok initial)
    (hinitial : (initial.map ServerProfile.profileId).Nodup) {turns : List Turn}
    (hturns : Each (step platform json) Fresh (init prefs initial state) turns) :
    let s := runAll (step platform json) (init prefs initial state) turns
    (s.drawn.profiles.map ServerProfile.profileId).Nodup ∧
      ∀ profileId, .connect profileId ∈ s.requests →
        (∃ profile ∈ initial, profile.profileId = profileId) ∨
          ∃ call profile, (call, .add profile) ∈ s.app.log ∧ profile.profileId = profileId := by
  have hsound := hturns.invariant (I := fun s => s.Sound json initial)
    (fun s turn h hfresh => h.step hjson hfresh) (sound_init hjson hprefs hinitial state)
  refine ⟨hsound.drawn.nodup, fun profileId hrequest => ?_⟩
  rcases List.mem_append.mp (hsound.requests profileId hrequest) with hmem | hmem
  · exact Or.inl (List.mem_map.mp hmem)
  · obtain ⟨⟨call, update⟩, hentry, hid⟩ := List.mem_filterMap.mp hmem
    cases update with
    | add profile => exact Or.inr ⟨call, profile, hentry, Option.some.inj hid⟩
    | remove _ => cases hid

/-- The second of two profiles is removed, and the first one is chosen and connected to, with the
dialog of the permission in between. -/
def chooseAndConnect : List Turn :=
  [.reload 0, .reload 0, .recompose, .remove "2", .next 0 "" 0, .next 0 "" 0, .next 0 "" 0,
    .reload 1, .reload 1, .recompose, .select "1", .tab 1, .recompose, .connectButton false,
    .permission true]

theorem run_chooseAndConnect (platform : Platform) (hjson : json.Lawful) :
    Each (step platform json) Fresh (init (save json twoProfiles) twoProfiles .disconnected)
        chooseAndConnect ∧
      (runAll (step platform json) (init (save json twoProfiles) twoProfiles .disconnected)
        chooseAndConnect).requests = [.connect "1"] := by
  have hload := loadAll_save hjson
  simp [chooseAndConnect, Each, Fresh, App.Fresh, step, init, blank, Screens.reload, Screens.move,
    hload, twoProfiles, exampleProfile, recompose, onRemoveProfile, Screens.next, App.next,
    App.launch, App.move, App.begin, App.save, Update.apply, Screens.reloadProfiles,
    Screens.onClick, requestConnect, Screens.onPermission, Screens.startVpnService, Drawn.enabled,
    Drawn.selectedProfile, ConnectionState.isBusy, ConnectionState.isConnected]

theorem requests_known_chosen :
    let s := runAll (step examplePlatform orgJson)
      (init (save orgJson twoProfiles) twoProfiles .disconnected) chooseAndConnect
    s.requests = [.connect "1"] ∧ (s.drawn.profiles.map ServerProfile.profileId).Nodup ∧
      ∀ profileId, .connect profileId ∈ s.requests →
        (∃ profile ∈ twoProfiles, profile.profileId = profileId) ∨
          ∃ call profile, (call, .add profile) ∈ s.app.log ∧ profile.profileId = profileId := by
  obtain ⟨hfresh, hrequests⟩ := run_chooseAndConnect examplePlatform orgJson_lawful
  exact ⟨hrequests, requests_known orgJson_lawful (loadAll_save orgJson_lawful twoProfiles)
    (by decide) hfresh⟩

end Requests

/-! ## Reloads that overlap -/

section Reloads

variable {φ : Type} {platform : Platform} {json : OrgJson φ} {s : Screens}

/-- A reload ends after those that read before it. -/
def InOrder (s : Screens) : Turn → Prop
  | .reload call => ∀ profiles version, s.reloads call = .loaded profiles version →
    ∀ version', s.published = some version' → version' ≤ version
  | _ => True

/-- A list that was read after the last update is the stored one, and one such is shown or on its
way. -/
structure Latest (json : OrgJson φ) (s : Screens) : Prop where
  stored : ∃ profiles, loadAll json s.app.prefs = .ok profiles
  published : ∀ version, s.published = some version → version ≤ s.app.log.length
  shown : s.published = some s.app.log.length → loadAll json s.app.prefs = .ok s.profiles
  loaded : ∀ call profiles version, s.reloads call = .loaded profiles version →
    version ≤ s.app.log.length ∧
      (version = s.app.log.length → loadAll json s.app.prefs = .ok profiles)
  absent : ∀ call, s.reloaded ≤ call → s.reloads call = .absent
  coming : s.published ≠ some s.app.log.length → ∃ call < s.reloaded, s.reloads call = .loading ∨
    ∃ profiles, s.reloads call = .loaded profiles s.app.log.length

theorem latest_init {initial : List ServerProfile} {prefs : Prefs}
    (hprefs : loadAll json prefs = .ok initial) (state : ConnectionState) :
    (init prefs initial state).Latest json where
  stored := ⟨initial, hprefs⟩
  published := nofun
  shown := nofun
  loaded call profiles version hcall := by
    by_cases heq : call = 0
    · subst heq
      cases hcall
    · simp [init, heq] at hcall
  absent call hcall := by
    have hne : call ≠ 0 := by
      have hcall' : 1 ≤ call := hcall
      omega
    simp [init, hne]
  coming _ := ⟨0, Nat.one_pos, Or.inl rfl⟩

/-- Nothing but a save and a reload matters. -/
theorem Latest.congr (h : s.Latest json) {s' : Screens} (hprefs : s'.app.prefs = s.app.prefs)
    (hlog : s'.app.log = s.app.log) (hreloads : s'.reloads = s.reloads)
    (hreloaded : s'.reloaded = s.reloaded) (hprofiles : s'.profiles = s.profiles)
    (hpublished : s'.published = s.published) : s'.Latest json := by
  obtain ⟨hstored, hversion, hshown, hloaded, habsent, hcoming⟩ := h
  refine ⟨?_, ?_, ?_, ?_, ?_, ?_⟩ <;>
    simp only [hprefs, hlog, hreloads, hreloaded, hprofiles, hpublished] <;> assumption

/-- A coroutine that reads: what it has read is the stored list. -/
theorem Latest.read (h : s.Latest json) {call : ℕ} {profiles : List ServerProfile}
    (hplace : s.reloads call = .loading) (hload : loadAll json s.app.prefs = .ok profiles) :
    (s.move call (.loaded profiles s.app.log.length)).Latest json where
  stored := h.stored
  published := h.published
  shown := h.shown
  loaded call' profiles' version hcall' := by
    by_cases heq : call' = call
    · subst heq
      simp only [Screens.move, Function.update_self] at hcall'
      cases hcall'
      exact ⟨Nat.le_refl _, fun _ => hload⟩
    · exact h.loaded call' profiles' version (by simpa [Screens.move, heq] using hcall')
  absent call' hcall' := by
    have hne : call' ≠ call := by
      rintro rfl
      have habsent := h.absent call' hcall'
      rw [hplace] at habsent
      cases habsent
    simpa [Screens.move, hne] using h.absent call' hcall'
  coming hne := by
    obtain ⟨call', hcall', hway⟩ := h.coming hne
    refine ⟨call', hcall', ?_⟩
    by_cases heq : call' = call
    · subst heq
      exact Or.inr ⟨profiles, by simp [Screens.move]⟩
    · simpa [Screens.move, heq] using hway

/-- A coroutine that sets the flow, no later one having set it. -/
theorem Latest.publish (h : s.Latest json) {call : ℕ} {profiles : List ServerProfile} {version : ℕ}
    (hplace : s.reloads call = .loaded profiles version)
    (horder : ∀ version', s.published = some version' → version' ≤ version) :
    Latest json { s.move call .done with profiles, published := some version } := by
  obtain ⟨hversion, hcurrent⟩ := h.loaded call profiles version hplace
  exact {
    stored := h.stored
    published := fun version' heq => by
      cases heq
      exact hversion
    shown := fun heq => hcurrent (Option.some.inj heq)
    loaded := fun call' profiles' version' hcall' => by
      by_cases heq : call' = call
      · subst heq
        simp [Screens.move] at hcall'
      · exact h.loaded call' profiles' version' (by simpa [Screens.move, heq] using hcall')
    absent := fun call' hcall' => by
      have hne : call' ≠ call := by
        rintro rfl
        have habsent := h.absent call' hcall'
        rw [hplace] at habsent
        cases habsent
      simpa [Screens.move, hne] using h.absent call' hcall'
    coming := fun hne => by
      -- This one is not the latest, and the latest is not shown: another one is on its way.
      have hlt : version ≠ s.app.log.length := fun heq => hne (congrArg some heq)
      have hpublished : s.published ≠ some s.app.log.length := fun heq => by
        have := horder _ heq
        omega
      obtain ⟨call', hcall', hway⟩ := h.coming hpublished
      refine ⟨call', hcall', ?_⟩
      have hother : call' ≠ call := by
        rintro rfl
        rw [hplace] at hway
        rcases hway with hway | ⟨_, hway⟩
        · cases hway
        · cases hway
          exact hlt rfl
      simpa [Screens.move, hother] using hway }

theorem Latest.reload (h : s.Latest json) {call : ℕ} (horder : s.InOrder (.reload call)) :
    (s.reload json call).Latest json := by
  obtain ⟨stored, hstored⟩ := h.stored
  unfold Screens.reload
  split
  · rename_i hplace
    rw [hstored]
    exact h.read hplace hstored
  · rename_i profiles version hplace
    exact h.publish hplace (horder profiles version hplace)
  · exact h
  · exact h
  · exact h

/-- An update that is saved starts a reload of its own. -/
theorem Latest.saved (hjson : json.Lawful) (h : s.Latest json) (call : ℕ) (update : Update)
    (loaded : List ServerProfile) :
    (reloadProfiles { s with app := s.app.save json call update loaded }).Latest json := by
  have hlength : (s.app.save json call update loaded).log.length = s.app.log.length + 1 :=
    List.length_append
  have hold : ∀ call' profiles version,
      Function.update s.reloads s.reloaded .loading call' = .loaded profiles version →
        version ≤ s.app.log.length := by
    intro call' profiles version hcall'
    by_cases heq : call' = s.reloaded
    · subst heq
      simp at hcall'
    · rw [Function.update_of_ne heq] at hcall'
      exact (h.loaded call' profiles version hcall').1
  exact {
    stored := ⟨_, loadAll_save hjson _⟩
    published := fun version heq => by
      have := h.published version heq
      show version ≤ (s.app.save json call update loaded).log.length
      omega
    shown := fun heq => by
      have := h.published _ heq
      change (s.app.save json call update loaded).log.length ≤ _ at this
      omega
    loaded := fun call' profiles version hcall' => by
      have := hold call' profiles version hcall'
      refine ⟨?_, fun heq => ?_⟩
      · show version ≤ (s.app.save json call update loaded).log.length
        omega
      · change version = (s.app.save json call update loaded).log.length at heq
        omega
    absent := fun call' hcall' => by
      have hcall'' : s.reloaded + 1 ≤ call' := hcall'
      show Function.update s.reloads s.reloaded .loading call' = .absent
      rw [Function.update_of_ne (by omega)]
      exact h.absent call' (by omega)
    coming := fun _ => ⟨s.reloaded, Nat.lt_succ_self _, Or.inl (Function.update_self ..)⟩ }

theorem Latest.next (hjson : json.Lawful) (h : s.Latest json) (call : ℕ) (randomUuid : String)
    (currentTimeMillis : ℕ) :
    (s.next platform json call randomUuid currentTimeMillis).Latest json := by
  unfold Screens.next App.next App.parse
  cases hplace : s.app.calls call with
  | absent => exact h
  | addProfileFromLink rawLink =>
    simp only
    split <;> exact h.congr rfl rfl rfl rfl rfl rfl
  | removeProfile profileId => exact h.congr rfl rfl rfl rfl rfl rfl
  | loading update =>
    simp only
    split <;> exact h.congr rfl rfl rfl rfl rfl rfl
  | saving update loaded => exact h.saved hjson call update loaded
  | done update => exact h
  | failed => exact h

theorem Latest.step (hjson : json.Lawful) (h : s.Latest json) {turn : Turn}
    (horder : s.InOrder turn) : (s.step platform json turn).Latest json := by
  cases turn with
  | linkInput text | addLink | select profileId | remove profileId =>
    simp only [Screens.step]
    split
    · exact h.congr rfl rfl rfl rfl rfl rfl
    · exact h
  | connectButton permitted =>
    simp only [Screens.step, Screens.onClick, requestConnect]
    split_ifs
    · exact h.congr rfl rfl rfl rfl rfl rfl
    · split <;> exact h.congr rfl rfl rfl rfl rfl rfl
    · split <;> exact h.congr rfl rfl rfl rfl rfl rfl
    · exact h
  | permission granted =>
    simp only [Screens.step, Screens.onPermission]
    cases granted with
    | false => exact h.congr rfl rfl rfl rfl rfl rfl
    | true => cases s.pendingConnectProfileId <;> exact h.congr rfl rfl rfl rfl rfl rfl
  | tab index => exact h.congr rfl rfl rfl rfl rfl rfl
  | recompose => exact h.congr rfl rfl rfl rfl rfl rfl
  | recreate => exact h.congr rfl rfl rfl rfl rfl rfl
  | connectionState state => exact h.congr rfl rfl rfl rfl rfl rfl
  | next call randomUuid currentTimeMillis => exact h.next hjson call randomUuid currentTimeMillis
  | reload call => exact h.reload horder

/-- No coroutine of `reloadProfiles` is on its way. -/
def Reloaded (s : Screens) : Prop :=
  ∀ call < s.reloaded, s.reloads call = .done ∨ s.reloads call = .failed

/-- Two removals, with the reload of the first one on its way while the second one is saved. -/
def removeBoth : List Turn :=
  [.reload 0, .reload 0, .recompose, .remove "1", .next 0 "" 0, .next 0 "" 0, .next 0 "" 0,
    .reload 1, .remove "2", .next 1 "" 0, .next 1 "" 0, .next 1 "" 0, .reload 2]

theorem reloaded_of_three (hcount : s.reloaded = 3) (hzero : s.reloads 0 = .done)
    (hone : s.reloads 1 = .done) (htwo : s.reloads 2 = .done) : s.Reloaded := by
  intro call hcall
  rw [hcount] at hcall
  obtain rfl | rfl | rfl : call = 0 ∨ call = 1 ∨ call = 2 := by omega
  · exact Or.inl hzero
  · exact Or.inl hone
  · exact Or.inl htwo

theorem run_removeBoth (platform : Platform) (hjson : json.Lawful) :
    let start := init (save json twoProfiles) twoProfiles .disconnected
    let inOrder := runAll (step platform json) start (removeBoth ++ [.reload 1, .reload 2])
    let overtaken := runAll (step platform json) start (removeBoth ++ [.reload 2, .reload 1])
    Each (step platform json) InOrder start (removeBoth ++ [.reload 1, .reload 2]) ∧
      inOrder.Reloaded ∧ inOrder.profiles = [] ∧ overtaken.Reloaded ∧
        overtaken.profiles = [exampleProfile "2"] ∧ loadAll json overtaken.app.prefs = .ok [] := by
  have hload := loadAll_save hjson
  refine ⟨?_, reloaded_of_three ?_ ?_ ?_ ?_, ?_, reloaded_of_three ?_ ?_ ?_ ?_, ?_, ?_⟩ <;>
    simp [removeBoth, Each, InOrder, step, init, blank, Screens.reload, Screens.move, hload,
      twoProfiles, exampleProfile, recompose, onRemoveProfile, Screens.next, App.next, App.launch,
      App.move, App.begin, App.save, Update.apply, Screens.reloadProfiles]

/-- A reload that is overtaken leaves an old list on the screen. -/
theorem overtaken_stale :
    ¬∀ turns : List Turn,
      let s := runAll (step examplePlatform orgJson)
        (init (save orgJson twoProfiles) twoProfiles .disconnected) turns
      s.Reloaded → loadAll orgJson s.app.prefs = .ok s.profiles := by
  intro h
  obtain ⟨-, -, -, hreloaded, hshown, hstored⟩ := run_removeBoth examplePlatform orgJson_lawful
  have hsame := h _ hreloaded
  rw [hstored, hshown] at hsame
  cases hsame

end Reloads

end Screens

end Bimarz.Android
