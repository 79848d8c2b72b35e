import Bimarz.Connection.World

/-!
# Failover keeps decision and engine together

Over the default services: at the beginning of every round of `_failover_loop` the outbound that
xray-core has under the active tag is that of the failover manager's active profile, no lookup in
the table of profiles misses, and wherever the loop ends the ownership flag says whether an
outbound is registered.
-/

namespace Bimarz.Connection

open Effect Effect.Act

/-! ## What the engine and the flag look like -/

/-- Some lookup of the log has missed. -/
def missed (log : List Item) : Bool := log.any fun
  | .lookup _ found => !found
  | _ => false

/-- The part of the state that the statement is about. -/
structure View where
  engine : Bool
  registered : Option OutboundKwargs
  owned : Bool
  missed : Bool
  deriving DecidableEq

def World.engineView (w : World) : Bool × Option OutboundKwargs := (w.engine, w.registered)

def ConnectionService.view (s : ConnectionService World) : View :=
  ⟨s.world.engine, s.world.registered, s.outboundOwned, missed s.log⟩

/-- The registered outbound is the one of a profile, and it is owned. -/
def View.Holds (v : View) (profile : ServerProfile) : Prop :=
  v.owned = true ∧ ∃ kwargs, activeOutbound profile = .ok kwargs ∧ v.registered = some kwargs

def View.Empty (v : View) : Prop := v.owned = false ∧ v.registered = none

/-- The engine is connected and no lookup has missed. -/
def View.Sound (v : View) : Prop := v.engine = true ∧ v.missed = false

/-- The flag says whether an outbound is registered. -/
def View.Consistent (v : View) : Prop := v.owned = true ↔ v.registered.isSome = true

theorem View.Holds.consistent {v : View} {profile : ServerProfile} (h : v.Holds profile) :
    v.Consistent := by
  obtain ⟨ho, kwargs, -, hr⟩ := h
  unfold View.Consistent
  rw [ho, hr]
  exact Iff.rfl

theorem View.Empty.consistent {v : View} (h : v.Empty) : v.Consistent := by
  unfold View.Consistent
  rw [h.1, h.2]
  simp

/-! ## Calls that leave the engine alone -/

section WorldFrames

theorem frames_change {τ : Type} {v : World → τ} {f : World → World}
    (h : ∀ w history, v { f w with history } = v w) : Frames v (change f) :=
  Frames.modify fun w => h w _

theorem engineView_ask : Frames World.engineView ask :=
  Frames.bind (Frames.reads _) fun _ =>
    Frames.bind (frames_change fun _ _ => rfl) fun _ => Frames.pure _

theorem engineView_external : Frames World.engineView (external id) :=
  Frames.of_keeps fun c =>
    external_triple (engineView_ask.keeps_eq c) fun _ _ _ hw => hw

theorem engineView_onKillswitch {α : Type} (m : Act Exc KillSwitch.System α) :
    Frames World.engineView (onKillswitch m) := Frames.zoom m fun _ _ => rfl

theorem engineView_ofExcept {α : Type} (x : Except Exc α) :
    Frames World.engineView (ofExcept x) := by
  cases x with
  | ok a => exact Frames.pure a
  | error e => exact Frames.raise e

theorem engineView_checkAllProfiles (profiles : List ServerProfile) :
    Frames World.engineView (checkAllProfiles profiles) := by
  refine Frames.ite (Frames.pure _) ?_
  refine Frames.bind (engineView_ofExcept _) fun targets => ?_
  refine Frames.bind engineView_external fun answer => ?_
  exact Frames.bind engineView_ask fun now => Frames.pure _

end WorldFrames

/-! ## Adding and removing -/

section Engine

variable {r : Option OutboundKwargs}

/-- The client adds the outbound to a free tag, or raises and changes nothing. -/
theorem engineAdd_triple (profile : ServerProfile) :
    Triple (fun w => w.engineView = (true, r)) (engineAdd profile)
      (fun _ w => r = none ∧ ∃ kwargs, activeOutbound profile = .ok kwargs ∧
        w.engineView = (true, some kwargs))
      (fun _ w => w.engineView = (true, r)) := by
  refine Triple.bind (R := fun engine w => engine = true ∧ w.engineView = (true, r))
    (Triple.reads fun w hw => ⟨congrArg Prod.fst hw, hw⟩) fun engine => ?_
  refine Triple.ite (fun _ => ?_) (fun hoff => Triple.raise fun w hw => absurd hw.1 hoff)
  cases activeOutbound profile with
  | error e => exact Triple.raise fun w hw => hw.2
  | ok kwargs =>
    show Triple (fun w => engine = true ∧ w.engineView = (true, r)) (clientAdd kwargs) _ _
    refine Triple.bind (R := fun _ w => w.engineView = (true, r))
      (((engineView_external).keeps_eq _).conseq (fun _ hw => hw.2) (fun _ _ hw => hw)
        fun _ _ hw => hw) fun answer => ?_
    refine Triple.bind (R := fun tag w => tag = r ∧ w.engineView = (true, r))
      (Triple.reads fun w hw => ⟨congrArg Prod.snd hw, hw⟩) fun tag => ?_
    refine Triple.ite (fun _ => Triple.raise fun w hw => hw.2) fun hfree => ?_
    refine Triple.modify fun w hw => ⟨?_, kwargs, rfl, ?_⟩
    · rw [← hw.1]
      simpa using hfree
    · exact congrArg (·, some kwargs) (congrArg Prod.fst hw.2)

/-- The client removes what is registered, or raises and changes nothing. -/
theorem engineRemove_triple :
    Triple (fun w => w.engineView = (true, r)) (engineRemove true)
      (fun _ w => w.engineView = (true, none)) (fun _ w => w.engineView = (true, r)) := by
  refine Triple.bind (R := fun engine w => engine = true ∧ w.engineView = (true, r))
    (Triple.reads fun w hw => ⟨congrArg Prod.fst hw, hw⟩) fun engine => ?_
  refine Triple.ite (fun _ => ?_) fun hoff => Triple.pure fun w hw => absurd hw.1 hoff
  have hclient : Triple (fun w => engine = true ∧ w.engineView = (true, r)) clientRemove
      (fun _ w => w.engineView = (true, none)) (fun _ w => w.engineView = (true, r)) := by
    refine Triple.bind (R := fun _ w => w.engineView = (true, none)) ?_
      fun _ => Triple.pure fun _ hw => hw
    refine (external_triple ((engineView_ask).keeps_eq (true, r)) fun _ w history hw => ?_).conseq
      (fun _ hw => hw.2) (fun _ _ hw => hw) fun _ _ hw => hw
    exact congrArg (·, none) (congrArg Prod.fst hw)
  refine Triple.handle hclient (fun e _ => ?_) fun _ _ _ hw => hw
  exact Triple.ite (fun _ => Triple.raise fun _ hw => hw) fun h => absurd rfl h

end Engine

/-! ## Programs of the connection that leave the view alone -/

section ViewFrames

variable (config : AppConfig)

theorem view_onWorld {α : Type} {m : Act Exc World α} (hm : Frames World.engineView m) :
    Frames ConnectionService.view (onWorld m) := by
  intro s
  have h := hm s.world
  show (⟨(m s.world).2.engine, (m s.world).2.registered, s.outboundOwned, missed s.log⟩ : View) = _
  rw [show (m s.world).2.engine = s.world.engine from congrArg Prod.fst h,
    show (m s.world).2.registered = s.world.registered from congrArg Prod.snd h]
  rfl

theorem missed_append (log : List Item) (item : Item) :
    missed (log ++ [item]) = (missed log || missed [item]) := by
  unfold missed
  rw [List.any_append]

theorem view_record {item : Item} (h : missed [item] = false) :
    Frames ConnectionService.view (record item) := by
  refine Frames.modify fun s => ?_
  show (⟨_, _, _, missed (s.log ++ [item])⟩ : View) = _
  rw [missed_append, h, Bool.or_false]
  rfl

theorem view_invoke {op : Op} {m : Act Exc World Unit} (hm : Frames World.engineView m) :
    Frames ConnectionService.view (invoke op m) :=
  invoke_frames (view_onWorld hm) fun _ => view_record rfl

theorem view_emit (event : ConnectionEvent) (payload : EventPayload) :
    Frames ConnectionService.view (emit (services config) event payload) := by
  refine Frames.bind (view_record rfl) fun _ => Frames.handle (view_onWorld ?_) fun _ => Frames.pure _
  exact Frames.bind engineView_external fun _ => Frames.pure _

theorem view_registerSignals :
    Frames ConnectionService.view (registerSignals (services config)) := by
  have hsig : ∀ sig, Frames ConnectionService.view (tryRegisterSignal (services config) sig) := by
    intro sig
    refine Frames.handle (Frames.bind (view_onWorld ?_) fun _ => Frames.modify fun _ => rfl)
      fun _ => Frames.pure _
    exact Frames.bind engineView_external fun _ => Frames.pure _
  exact Frames.bind (hsig _) fun _ => hsig _

theorem view_goesOn : Frames ConnectionService.view (goesOn (services config)) := by
  refine Frames.bind (view_onWorld (Frames.bind engineView_ask fun _ => Frames.pure _))
    fun stopped => Frames.ite (Frames.pure _) (view_onWorld ?_)
  exact Frames.bind engineView_ask fun _ => Frames.reads _

theorem view_watchRound (timeout : ℚ) :
    Frames ConnectionService.view (watchRound (services config) timeout) := by
  have hdied : Frames ConnectionService.view (watcherDied (services config)) := by
    refine Frames.bind (view_onWorld (engineView_onKillswitch _)) fun active => ?_
    refine Frames.ite (Frames.bind (view_onWorld (engineView_onKillswitch _)) fun _ => ?_)
      (Frames.pure _)
    exact Frames.pure _
  refine Frames.bind hdied fun died => Frames.ite ?_ ?_
  · exact Frames.bind (view_emit config _ _) fun _ => Frames.pure _
  · refine Frames.bind (view_onWorld (Frames.bind engineView_external fun _ => Frames.pure _))
      fun stopped => Frames.ite (Frames.pure _) (Frames.pure _)

end ViewFrames

/-! ## The switch -/

section Switch

variable (config : AppConfig)

/-- The two situations between which adding and removing move. -/
def View.Settled (v : View) (active : ServerProfile) : Prop :=
  v.Sound ∧ (v.Holds active ∨ v.Empty)

theorem View.Settled.consistent {v : View} {active : ServerProfile} (h : v.Settled active) :
    v.Consistent := h.2.elim View.Holds.consistent View.Empty.consistent

theorem view_called {s : ConnectionService World} {w : World} {r : Option OutboundKwargs}
    (op : Op) (raised : Option Exc) (h : w.engineView = (s.view.engine, r)) :
    (s.called w op raised).view = { s.view with registered := r } := by
  have hmissed : missed (s.log ++ [.call op raised]) = missed s.log := by
    rw [missed_append]
    exact Bool.or_false _
  show (⟨w.engine, w.registered, s.outboundOwned, missed (s.log ++ [_])⟩ : View) = _
  rw [hmissed, show w.engine = _ from congrArg Prod.fst h,
    show w.registered = r from congrArg Prod.snd h]
  rfl

/-- Adding to a free tag registers the profile's outbound and owns it; otherwise nothing changes. -/
theorem addOutbound_triple (profile : ServerProfile) {v : View} (hv : v.engine = true) :
    Triple (fun s => s.view = v) (addOutbound (services config) profile)
      (fun _ s => v.registered = none ∧ ∃ kwargs, activeOutbound profile = .ok kwargs ∧
        s.view = { v with registered := some kwargs, owned := true })
      (fun _ s => s.view = v) := by
  rintro s rfl
  have hworld : s.world.engineView = (true, s.view.registered) := congrArg (·, _) hv
  have h := engineAdd_triple profile s.world hworld
  unfold addOutbound
  rcases hm : engineAdd profile s.world with ⟨e | u, w⟩ <;> rw [hm] at h
  · have hrun : (services config).addOutbound profile s.world = (.error e, w) := hm
    rw [bind_error (invoke_error hrun)]
    exact view_called .addOutbound (some e) (by rw [hv]; exact h)
  · have hrun : (services config).addOutbound profile s.world = (.ok (), w) := hm
    obtain ⟨hfree, kwargs, hkwargs, hw⟩ := h
    rw [bind_ok (invoke_ok hrun)]
    have hcalled := view_called (s := s) .addOutbound none (by rw [hv]; exact hw)
    exact ⟨hfree, kwargs, hkwargs, congrArg (fun v : View => { v with owned := true }) hcalled⟩

/-- Removing frees the tag and the flag, or nothing changes. -/
theorem removeOutbound_triple {v : View} (hv : v.engine = true) :
    Triple (fun s => s.view = v) (removeOutbound (services config))
      (fun _ s => s.view = { v with registered := none, owned := false })
      (fun _ s => s.view = v) := by
  rintro s rfl
  have hworld : s.world.engineView = (true, s.view.registered) := congrArg (·, _) hv
  have h := engineRemove_triple s.world hworld
  unfold removeOutbound
  rcases hm : engineRemove true s.world with ⟨e | u, w⟩ <;> rw [hm] at h
  · have hrun : (services config).removeOutbound s.world = (.error e, w) := hm
    rw [bind_error (invoke_error hrun)]
    exact view_called .removeOutbound (some e) (by rw [hv]; exact h)
  · have hrun : (services config).removeOutbound s.world = (.ok (), w) := hm
    rw [bind_ok (invoke_ok hrun)]
    have hcalled := view_called (s := s) .removeOutbound none (by rw [hv]; exact h)
    exact congrArg (fun v : View => { v with owned := false }) hcalled

/-- A lookup that finds its id leaves the view alone. -/
theorem lookup_triple {profileMap : Dict String ServerProfile} {id : String}
    {profile : ServerProfile} (h : profileMap.get? id = some profile) {P : View → Prop}
    {E : Exc → ConnectionService World → Prop} :
    Triple (fun s => P s.view) (lookup profileMap id)
      (fun p s => p = profile ∧ P s.view) E := by
  unfold lookup
  rw [h]
  refine Triple.bind (R := fun _ s => P s.view) ?_ fun _ => Triple.pure fun s hs => ⟨rfl, hs⟩
  exact Triple.modify fun s hs => by
    have := view_record (show missed [.lookup id true] = false from rfl) s
    exact (show ({ s with log := s.log ++ [_] } : ConnectionService World).view = s.view from this) ▸ hs

/-- The first step of the recovery removes an owned outbound. -/
theorem keeps_removeIfOwned (active : ServerProfile) :
    Keeps (fun s => s.view.Settled active)
      (do if ← reads ConnectionService.outboundOwned then removeOutbound (services config)) := by
  refine Keeps.bind (Keeps.reads _) fun isOwned => Keeps.ite ?_ (Keeps.pure _)
  refine Triple.of_view (P := (View.Settled · active)) fun v hv => ?_
  refine (removeOutbound_triple config hv.1.1).mono (fun _ s hs => ?_)
    fun _ s hs => hs ▸ hv
  rw [hs]
  exact ⟨hv.1, Or.inr ⟨rfl, rfl⟩⟩

/-- The second step of the recovery adds the active profile's outbound again. -/
theorem keeps_restore {profileMap : Dict String ServerProfile} {activeId : String}
    {active : ServerProfile} (hactive : profileMap.get? activeId = some active) :
    Keeps (fun s => s.view.Settled active)
      (do addOutbound (services config) (← lookup profileMap activeId)) := by
  refine Triple.bind (lookup_triple hactive (P := (View.Settled · active))) fun profile => ?_
  refine Triple.of_view (P := fun v : View => profile = active ∧ v.Settled active) fun v hv => ?_
  obtain ⟨rfl, hv⟩ := hv
  refine (addOutbound_triple config profile hv.1.1).mono (fun _ s hs => ?_)
    fun _ s hs => hs ▸ hv
  obtain ⟨-, kwargs, hkwargs, hs⟩ := hs
  rw [hs]
  exact ⟨hv.1, Or.inl ⟨rfl, kwargs, hkwargs, rfl⟩⟩

/-- **The switch** moves from the active profile's outbound to the best one's, or it fails and the
recovery leaves the active profile's outbound or none. -/
theorem switchOutbound_triple {profileMap : Dict String ServerProfile} {activeId : String}
    {active : ServerProfile} (hactive : profileMap.get? activeId = some active)
    (best : ServerProfile) :
    Triple (fun s => s.view.Sound ∧ s.view.Holds active)
      (switchOutbound (services config) profileMap activeId best)
      (fun message s => match message with
        | none => s.view.Sound ∧ s.view.Holds best
        | some _ => s.view.Settled active)
      (fun _ s => s.view.Settled active) := by
  refine Triple.handle (F := fun _ s => s.view.Settled active) ?_ (fun exc _ => ?_)
    fun _ _ _ hs => hs
  · refine Triple.bind (R := fun _ s => s.view.Sound ∧ s.view.Empty) ?_ fun _ => ?_
    · refine Triple.of_view (P := fun v : View => v.Sound ∧ v.Holds active) fun v hv => ?_
      refine (removeOutbound_triple config hv.1.1).mono (fun _ s hs => ?_)
        fun _ s hs => hs ▸ ⟨hv.1, Or.inl hv.2⟩
      rw [hs]
      exact ⟨hv.1, rfl, rfl⟩
    · refine Triple.bind (R := fun _ s => s.view.Sound ∧ s.view.Holds best) ?_
        fun _ => Triple.pure fun _ hs => hs
      refine Triple.of_view (P := fun v : View => v.Sound ∧ v.Empty) fun v hv => ?_
      refine (addOutbound_triple config best hv.1.1).mono (fun _ s hs => ?_)
        fun _ s hs => hs ▸ ⟨hv.1, Or.inr hv.2⟩
      obtain ⟨-, kwargs, hkwargs, hs⟩ := hs
      rw [hs]
      exact ⟨hv.1, rfl, kwargs, hkwargs, rfl⟩
  · refine Triple.bind (keeps_removeIfOwned config active).failure fun removal => ?_
    refine Triple.bind (keeps_restore config hactive).failure fun restoral => ?_
    cases restoral <|> removal with
    | none => exact Triple.pure fun _ hs => hs
    | some e => exact Triple.pure fun _ hs => hs

end Switch

/-! ## Rounds -/

/-- A program of the connection in a round, which keeps the manager. -/
theorem onConn_triple {α : Type} {P : ConnectionService World → Prop} {m : Conn World α}
    {Q : α → ConnectionService World → Prop} {E : Exc → ConnectionService World → Prop}
    (hm : Triple P m Q E) (mgr : FailoverManager) :
    Triple (fun p => P p.1 ∧ p.2 = mgr) (onConn m) (fun a p => Q a p.1 ∧ p.2 = mgr)
      (fun e p => E e p.1) :=
  Triple.zoom hm (fun _ hp => hp.1) (fun _ _ _ hp hq => ⟨hq, hp.2⟩) fun _ _ _ _ he => he

section Rounds

variable (config : AppConfig) (profileMap : Dict String ServerProfile)

/-- The beginning of a round: the active id is a key of the table, and its profile's outbound is
registered and owned. -/
def Together (p : ConnectionService World × FailoverManager) : Prop :=
  p.1.view.Sound ∧ ∃ active, profileMap.get? p.2.activeProfileId = some active ∧
    p.1.view.Holds active

/-- The end of the loop. -/
def Ended (p : ConnectionService World × FailoverManager) : Prop :=
  p.1.view.Sound ∧ p.1.view.Consistent

variable {profileMap}

theorem Together.ended {p : ConnectionService World × FailoverManager}
    (h : Together profileMap p) : Ended p := by
  obtain ⟨hsound, active, -, hholds⟩ := h
  exact ⟨hsound, hholds.consistent⟩

/-- A program that leaves the view alone, in a round. -/
theorem keeps_together {α : Type} {m : Conn World α} (hm : Frames ConnectionService.view m) :
    Keeps (Together profileMap) (onConn m) := by
  refine Keeps.of_run fun p hp => ?_
  have hview : (onConn m p).2.1.view = p.1.view := hm p.1
  unfold Together
  rw [hview]
  exact hp

/-- A program that leaves the view alone, after which the loop ends. -/
theorem together_ended {α : Type} {m : Rounds World α} (hm : Keeps (Together profileMap) m)
    {Q : α → ConnectionService World × FailoverManager → Prop}
    (hQ : ∀ a p, Together profileMap p → Q a p) :
    Triple (Together profileMap) m Q (fun _ => Ended) :=
  hm.mono hQ fun _ _ hp => hp.ended

/-- Every result has the id of a profile of the table. -/
def Listed (profileMap : Dict String ServerProfile) (results : Dict String HealthCheckResult) :
    Prop :=
  ∀ result ∈ results.values, ∃ profile, profileMap.get? result.profileId = some profile

/-- A batch of checks of the table's profiles returns results of the table. -/
theorem checkAllProfiles_listed (hkeyed : Keyed profileMap) :
    Triple (fun _ => True) (checkAllProfiles profileMap.values)
      (fun results _ => Listed profileMap results) (fun _ _ => True) := by
  refine Triple.ite (fun _ => Triple.pure fun _ _ => ?_) fun _ => ?_
  · intro result hresult
    cases hresult
  · cases htargets : targetsOf profileMap.values with
    | error e => exact Triple.raise fun _ _ => trivial
    | ok targets =>
      refine Triple.bind (R := fun ts _ => ts = targets) (Triple.pure fun _ _ => rfl) ?_
      rintro ts
      refine Triple.bind (R := fun _ _ => ts = targets) (fun w hw => ?_) fun answer => ?_
      · split
        · exact hw
        · trivial
      refine Triple.bind (R := fun _ _ => ts = targets) (fun w hw => hw) fun now => ?_
      refine Triple.pure ?_
      rintro w rfl result hresult
      obtain ⟨id, hid⟩ := Dict.exists_get?_of_mem_values hresult
      obtain ⟨hprofileId, row, hrow, hrowId⟩ := collectResults_get? hid
      have hgiven := of_decide_eq_true (List.mem_filter.mp hrow).2
      obtain ⟨target, htarget, hfst⟩ := List.mem_map.mp hgiven
      obtain ⟨profile, hprofile, he⟩ := mem_targetsOf htargets htarget
      obtain ⟨key, hkey⟩ := Dict.exists_get?_of_mem_values hprofile
      refine ⟨profile, ?_⟩
      rw [hprofileId, ← hrowId, ← hfst, ← he, hkeyed key profile hkey]
      exact hkey

/-- A program that leaves the view alone, for one manager. -/
theorem onConn_frames {α : Type} {m : Conn World α} (hm : Frames ConnectionService.view m)
    (P : View → Prop) (mgr : FailoverManager) :
    Triple (fun p => P p.1.view ∧ p.2 = mgr) (onConn m)
      (fun _ p => P p.1.view ∧ p.2 = mgr) (fun _ p => P p.1.view) :=
  onConn_triple (hm.keeps P) mgr

/-- **The switch of a round** ends with both moved to the best profile, or the loop ends. -/
theorem switchTo_triple {m : FailoverManager} {active best : ServerProfile} {bestId : String}
    (hactive : profileMap.get? m.activeProfileId = some active)
    (hbest : profileMap.get? bestId = some best) :
    Triple (fun p => (p.1.view.Sound ∧ p.1.view.Holds active) ∧ p.2 = m)
      (switchTo (services config) profileMap m bestId)
      (fun flow p => match flow with
        | .next => Together profileMap p
        | .leave => Ended p)
      (fun _ => Ended) := by
  have hlookup := onConn_triple (lookup_triple hbest
    (P := fun v => v.Sound ∧ v.Holds active)
    (E := fun _ s => s.view.Sound ∧ s.view.Consistent)) m
  refine Triple.bind hlookup fun b => ?_
  have hswitch := onConn_triple (switchOutbound_triple config hactive b) m
  refine Triple.bind (R := fun failed p => (match failed with
      | none => p.1.view.Sound ∧ p.1.view.Holds best
      | some _ => p.1.view.Settled active) ∧ p.2 = m) ?_ fun failed => ?_
  · rintro p ⟨⟨rfl, hp⟩, hm⟩
    exact hswitch.mono_error (fun _ p hp => ⟨hp.1, hp.consistent⟩) p ⟨hp, hm⟩
  cases failed with
  | some message =>
    have hemit := onConn_frames (view_emit config .error { error := some message })
      (View.Settled · active) m
    refine Triple.bind (R := fun _ p => Ended p) ?_ fun _ => Triple.pure fun _ hp => hp
    exact hemit.mono (fun _ p hp => ⟨hp.1.1, hp.1.consistent⟩)
      fun _ p hp => ⟨hp.1, hp.consistent⟩
  | none =>
    have hframe {α : Type} {c : Conn World α} (hc : Frames ConnectionService.view c)
        (mgr : FailoverManager) := (onConn_frames hc (fun v => v.Sound ∧ v.Holds best)
          mgr).mono_error (E := fun _ => Ended) fun _ p hp => ⟨hp.1, hp.2.consistent⟩
    refine Triple.bind (hframe (view_onWorld
      (Frames.bind engineView_ask fun _ => Frames.pure _)) m) fun now => ?_
    rcases m.triggerFailover_cases bestId s!"{m.threshold} consecutive health-check failures" now
      with ⟨-, message, htrigger⟩ | ⟨-, -, event, m', htrigger, hid, -⟩
    · rw [htrigger]
      exact Triple.raise fun p hp => ⟨hp.1.1, hp.1.2.consistent⟩
    · rw [htrigger]
      refine Triple.bind (R := fun _ p => (p.1.view.Sound ∧ p.1.view.Holds best) ∧ p.2 = m')
        (Triple.modify fun p hp => ⟨hp.1, rfl⟩) fun _ => ?_
      refine Triple.bind (hframe (view_emit config _ _) m') fun _ => Triple.pure ?_
      rintro p ⟨⟨hsound, hholds⟩, rfl⟩
      exact ⟨hsound, best, by rw [hid]; exact hbest, hholds⟩

/-- The switch of a round. -/
theorem failover_triple {results : Dict String HealthCheckResult}
    (hresults : Listed profileMap results) :
    Triple (Together profileMap) (failover (services config) profileMap results)
      (fun flow p => match flow with
        | .next => Together profileMap p
        | .leave => Ended p)
      (fun _ => Ended) := by
  refine Triple.bind (R := fun m p => p.2 = m ∧ Together profileMap p)
    (Triple.reads fun p hp => ⟨rfl, hp⟩) fun m => ?_
  refine Triple.ite (fun _ => ?_) fun _ => Triple.pure fun _ hp => hp.2
  cases hpick : m.pickBestAlternative results with
  | none =>
    refine Triple.bind (R := fun _ p => Ended p) ?_ fun _ => Triple.pure fun _ hp => hp
    exact (together_ended (keeps_together (view_emit config _ _)) fun _ _ hp => hp.ended).conseq
      (fun _ hp => hp.2) (fun _ _ hp => hp) fun _ _ hp => hp
  | some bestId =>
    obtain ⟨-, result, hresult, rfl, -⟩ := FailoverManager.pickBestAlternative_spec hpick
    obtain ⟨best, hbest⟩ := hresults result hresult
    rintro p ⟨hm, hsound, active, hactive, hholds⟩
    rw [hm] at hactive
    exact switchTo_triple config hactive hbest p ⟨⟨hsound, hholds⟩, hm⟩

/-- Counting a result leaves the active profile and the outbound alone. -/
theorem keeps_recordActive_together (results : Dict String HealthCheckResult) :
    Keeps (Together profileMap) (recordActive results) := by
  refine Keeps.of_run fun p hp => ?_
  unfold recordActive
  rw [manager, reads_bind_apply]
  cases results.get? p.2.activeProfileId with
  | none => exact hp
  | some result =>
    obtain ⟨hsound, active, hactive, hholds⟩ := hp
    refine ⟨hsound, active, ?_, hholds⟩
    show profileMap.get? (p.2.recordActiveProfileResult result).activeProfileId = some active
    rw [FailoverManager.recordActiveProfileResult_activeProfileId]
    exact hactive

/-- The health checks of a round. -/
theorem checks_triple (hkeyed : Keyed profileMap) :
    Triple (Together profileMap)
      (onConn (onWorld ((services config).checkAllProfiles profileMap.values)))
      (fun results p => Listed profileMap results ∧ Together profileMap p) (fun _ => Ended) := by
  have hworld : Triple (fun _ : ConnectionService World => True)
      (onWorld ((services config).checkAllProfiles profileMap.values))
      (fun results _ => Listed profileMap results) (fun _ _ => True) :=
    Triple.zoom (checkAllProfiles_listed hkeyed) (fun _ _ => trivial) (fun _ _ _ _ h => h)
      fun _ _ _ _ _ => trivial
  have hlisted : Triple (fun _ : ConnectionService World × FailoverManager => True)
      (onConn (onWorld ((services config).checkAllProfiles profileMap.values)))
      (fun results _ => Listed profileMap results) (fun _ _ => True) :=
    Triple.zoom hworld (fun _ _ => trivial) (fun _ _ _ _ h => h) fun _ _ _ _ _ => trivial
  have hkept : Keeps (Together profileMap)
      (onConn (onWorld ((services config).checkAllProfiles profileMap.values))) :=
    keeps_together (view_onWorld (engineView_checkAllProfiles profileMap.values))
  exact (hlisted.and hkept).conseq (fun _ hp => ⟨trivial, hp⟩) (fun _ _ hp => hp)
    fun _ _ hp => hp.2.ended

/-- **A round** begins and ends with decision and engine together, or it is the last one. -/
theorem failoverRound_triple (hkeyed : Keyed profileMap) :
    Triple (Together profileMap) (failoverRound (services config) profileMap)
      (fun flow p => match flow with
        | .next => Together profileMap p
        | .leave => Ended p)
      (fun _ => Ended) := by
  refine Triple.bind (together_ended (keeps_together (view_goesOn config)) fun _ _ hp => hp)
    fun on => ?_
  refine Triple.ite (fun _ => ?_) fun _ => Triple.pure fun _ hp => hp.ended
  refine Triple.bind (checks_triple config hkeyed) fun results => ?_
  rintro p ⟨hlisted, hp⟩
  refine Triple.bind (together_ended (keeps_recordActive_together results) fun _ _ hp => hp)
    (fun _ => ?_) p hp
  refine Triple.bind (failover_triple config hlisted) fun flow => ?_
  cases flow with
  | leave => exact Triple.pure fun _ hp => hp
  | next =>
    refine together_ended (keeps_together (view_watchRound config _)) fun flow p hp => ?_
    cases flow with
    | next => exact hp
    | leave => exact hp.ended

/-- What holds of a run of the loop: at the beginning of a round, and at its end. -/
theorem failoverRounds_triple (hkeyed : Keyed profileMap) (n : ℕ) :
    Triple (Together profileMap) (loop n (failoverRound (services config) profileMap))
      (fun left p => if left then Ended p else Together profileMap p) (fun _ => Ended) :=
  Triple.loop (failoverRound_triple config hkeyed) n

end Rounds

/-! ## Entering the loop -/

section Entry

variable (config : AppConfig)

theorem keyed_profileMapOf (initial : ServerProfile) (allProfiles : List ServerProfile) :
    Keyed (profileMapOf initial allProfiles) := by
  unfold profileMapOf
  dsimp only
  split
  · exact keyed_profilesById allProfiles
  · exact (keyed_profilesById allProfiles).set initial

/-- The initial profile is in the table under its id. -/
theorem profileMapOf_initial {initial : ServerProfile} {allProfiles : List ServerProfile}
    (h : ∀ p ∈ allProfiles, p.profileId = initial.profileId → p = initial) :
    (profileMapOf initial allProfiles).get? initial.profileId = some initial := by
  unfold profileMapOf
  dsimp only
  split
  · next hsome =>
    obtain ⟨p, hp⟩ := Option.isSome_iff_exists.mp hsome
    have hid := keyed_profilesById allProfiles _ _ hp
    rw [hp, h p (mem_of_get?_profilesById hp) hid]
  · exact Dict.get?_set_self _ _ _

theorem missed_invoke (op : Op) (m : Act Exc World Unit) :
    Frames (fun s : ConnectionService World => missed s.log) (invoke op m) :=
  invoke_frames (fun _ => rfl) fun raised => Frames.modify fun s =>
    (missed_append s.log (.call op raised)).trans (Bool.or_false _)

theorem missed_of_view {α : Type} {m : Conn World α} (hm : Frames ConnectionService.view m) :
    Frames (fun s => missed s.log) m := fun s => congrArg View.missed (hm s)

theorem engineConnect_triple :
    Triple (fun _ => True) engineConnect (fun _ w => w.engine = true) (fun _ _ => True) := by
  refine Triple.bind (R := fun engine w => engine = w.engine) (Triple.reads fun _ _ => rfl)
    fun engine => ?_
  refine Triple.ite (fun hon => Triple.pure fun w hw => hw ▸ hon) fun _ => ?_
  refine Triple.bind (R := fun _ w => w.engine = true) ?_ fun _ => Triple.pure fun _ hw => hw
  exact (external_triple (P := fun _ => True) (fun _ _ => trivial)
    fun _ _ _ _ => rfl).conseq (fun _ _ => trivial) (fun _ _ hw => hw) fun _ _ _ => trivial

/-- **Acquiring** ends with the profile's outbound registered and owned. -/
theorem acquire_triple (profile : ServerProfile) (killswitch : Bool) :
    Triple (fun s => missed s.log = false) (acquire (services config) profile killswitch)
      (fun _ s => s.view.Sound ∧ s.view.Holds profile) (fun _ _ => True) := by
  have hmissed {op : Op} {m : Act Exc World Unit}
      {f : ConnectionService World → ConnectionService World} (hf : ∀ s, (f s).log = s.log) :
      Triple (fun s => missed s.log = false) (do invoke op m; modify f)
        (fun _ s => missed s.log = false) (fun _ _ => True) :=
    ((Frames.bind (missed_invoke op m) fun _ => Frames.modify fun s => by rw [hf]).keeps_eq
      false).returns
  refine Triple.bind (hmissed fun _ => rfl) fun _ => ?_
  refine Triple.bind (R := fun _ s => s.view.Sound) ?_ fun _ => ?_
  · have hengine : Triple (fun s : ConnectionService World => True)
        (connectEngine (services config)) (fun _ s => s.world.engine = true) (fun _ _ => True) :=
      Triple.bind (invoke_triple engineConnect_triple .connect) fun _ => Triple.modify fun _ hs => hs
    have hconnect : Triple (fun s => missed s.log = false) (connectEngine (services config))
        (fun _ s => missed s.log = false) (fun _ _ => True) := hmissed fun _ => rfl
    exact (hengine.and hconnect).conseq (fun _ hs => ⟨trivial, hs⟩) (fun _ _ hs => hs)
      fun _ _ _ => trivial
  have hend : ∀ {α : Type} {c : Conn World α}, Frames ConnectionService.view c →
      Triple (fun s => s.view.Sound ∧ s.view.Holds profile) c
        (fun _ s => s.view.Sound ∧ s.view.Holds profile) (fun _ _ => True) := fun hc =>
    (hc.keeps fun v => v.Sound ∧ v.Holds profile).returns
  refine Triple.bind (R := fun _ s => s.view.Sound ∧ s.view.Holds profile) ?_ fun _ => ?_
  · refine Triple.of_view (P := View.Sound) fun v hv => ?_
    refine (addOutbound_triple config profile hv.1).mono (fun _ s hs => ?_)
      fun _ _ _ => trivial
    obtain ⟨-, kwargs, hkwargs, hs⟩ := hs
    rw [hs]
    exact ⟨hv, rfl, kwargs, hkwargs, rfl⟩
  refine Triple.bind (hend (view_emit config _ _)) fun _ => hend ?_
  have hregister : Frames ConnectionService.view (do
      registerSignals (services config)
      modify fun s => { s with started := true } : Conn World Unit) :=
    Frames.bind (view_registerSignals config) fun _ => Frames.modify fun _ => rfl
  cases killswitch with
  | false => exact hregister
  | true =>
    have henable : Frames World.engineView (killswitchEnable config.defaultInterface) :=
      Frames.bind engineView_ask fun _ => engineView_onKillswitch _
    refine Frames.bind (Frames.bind (view_invoke henable) fun _ => Frames.modify fun _ => rfl)
      fun _ => ?_
    refine Frames.bind (view_emit config _ _) fun _ => ?_
    exact Frames.bind (view_invoke (engineView_onKillswitch _)) fun _ => hregister

/-- `start` enters its loop with the profile's outbound registered and owned. -/
theorem start_entry (w : World) (initial : ServerProfile) (killswitch : Bool)
    {s : ConnectionService World}
    (hstart : (do prepare (services config) initial; acquire (services config) initial killswitch :
      Conn World Unit) { world := w } = (.ok (), s)) : s.view.Sound ∧ s.view.Holds initial := by
  have hframe : Frames (fun s => missed s.log) (prepare (services config) initial) :=
    Frames.bind (Frames.modify fun _ => rfl) fun _ => missed_of_view (view_emit config _ _)
  have hprepare : Triple (fun s => missed s.log = false) (prepare (services config) initial)
      (fun _ s => missed s.log = false) (fun _ _ => True) :=
    (hframe.keeps_eq false).returns
  exact (Triple.bind hprepare fun _ => acquire_triple config initial killswitch).of_ok rfl hstart

/-- **Failover keeps decision and engine together.** From the state in which `start` enters the
loop: at the beginning of every round the active profile's outbound is registered and owned, and no
lookup has missed; and however the loop ends, the flag says whether an outbound is registered. -/
theorem failoverLoop_together (w : World) (initial : ServerProfile)
    (allProfiles : List ServerProfile)
    (hinitial : ∀ p ∈ allProfiles, p.profileId = initial.profileId → p = initial)
    (killswitch : Bool) {s : ConnectionService World}
    (hstart : (do prepare (services config) initial; acquire (services config) initial killswitch :
      Conn World Unit) { world := w } = (.ok (), s)) (n : ℕ) :
    (∀ m, FailoverManager.init initial.profileId failoverConsecutiveFailuresThreshold = .ok m →
      match loop n (failoverRound (services config) (profileMapOf initial allProfiles)) (s, m) with
      | (.ok false, p) => Together (profileMapOf initial allProfiles) p
      | (_, p) => Ended p) ∧
    match failoverLoop (services config) n initial allProfiles s with
      | (.ok false, _) => True
      | (_, s') => s'.view.Consistent := by
  obtain ⟨hsound, hholds⟩ := start_entry config w initial killswitch hstart
  have hrounds : ∀ m,
      FailoverManager.init initial.profileId failoverConsecutiveFailuresThreshold = .ok m →
      match loop n (failoverRound (services config) (profileMapOf initial allProfiles)) (s, m) with
      | (.ok false, p) => Together (profileMapOf initial allProfiles) p
      | (_, p) => Ended p := by
    intro m hm
    have htogether : Together (profileMapOf initial allProfiles) (s, m) :=
      ⟨hsound, initial,
        by rw [FailoverManager.init_activeProfileId hm]; exact profileMapOf_initial hinitial, hholds⟩
    have hrun := failoverRounds_triple config (keyed_profileMapOf initial allProfiles) n (s, m)
      htogether
    rcases hloop : loop n (failoverRound (services config) (profileMapOf initial allProfiles)) (s, m)
      with ⟨e | _ | _, p⟩ <;> rw [hloop] at hrun <;> exact hrun
  refine ⟨hrounds, ?_⟩
  unfold failoverLoop
  cases hm : FailoverManager.init initial.profileId failoverConsecutiveFailuresThreshold with
  | error e => exact hholds.consistent
  | ok m =>
    have hrun := hrounds m hm
    show match withLocal m (loop n (failoverRound (services config)
      (profileMapOf initial allProfiles))) s with
      | (.ok false, _) => True
      | (_, s') => s'.view.Consistent
    rw [withLocal_apply]
    rcases hloop : loop n (failoverRound (services config) (profileMapOf initial allProfiles)) (s, m)
      with ⟨e | _ | _, p⟩ <;> rw [hloop] at hrun
    · exact hrun.2
    · trivial
    · exact hrun.2

/-- What a connection of the profile `a` meets: once it stands, three checks that `a` does not
answer, then three that `b` does not; when it switches back, the engine adds no outbound any more. -/
def switchAnswers (n : ℕ) : Answer :=
  if n < 11 then {}
  else {
    failure := if n < 45 then none else some (.error .runtimeError "unavailable")
    yes := false
    rows := if n < 30 then [⟨"a", false, none, none⟩, ⟨"b", true, some 20, none⟩]
      else [⟨"a", true, some 20, none⟩, ⟨"b", false, none, none⟩] }

def switchWorld : World where
  answers := switchAnswers
  killswitch := .freshWith (Stream'.const .runs) (Stream'.const true)

/-- The connection of the profile `a` at the beginning of its loop. -/
def switchStart : ConnectionService World :=
  ((do
    prepare (services {}) (namedProfile "a")
    acquire (services {}) (namedProfile "a") false : Conn World Unit)
    { world := switchWorld }).2

/-- The rounds of that connection. -/
def switchRounds (n : ℕ) : Except Exc Bool × ConnectionService World × FailoverManager :=
  loop n (failoverRound (services {})
    (profileMapOf (namedProfile "a") [namedProfile "a", namedProfile "b"]))
    (switchStart, ⟨"a", failoverConsecutiveFailuresThreshold, 0, []⟩)

/-- Its loop. -/
def switchLoop (n : ℕ) : Except Exc Bool × ConnectionService World :=
  failoverLoop (services {}) n (namedProfile "a") [namedProfile "a", namedProfile "b"] switchStart

/-- In the fifth round the outbound is that of `b`; the loop ends with the failed switch back, with
no outbound and none owned. -/
theorem failoverLoop_together_switch :
    (Together (profileMapOf (namedProfile "a") [namedProfile "a", namedProfile "b"])
        (switchRounds 5).2 ∧ (switchRounds 5).2.2.activeProfileId = "b") ∧
      (switchLoop 9).2.view.Consistent ∧ (switchLoop 9).2.world.registered = none := by
  have hinitial : ∀ p ∈ [namedProfile "a", namedProfile "b"],
      p.profileId = (namedProfile "a").profileId → p = namedProfile "a" := by
    simp [namedProfile]
  have htogether := failoverLoop_together {} switchWorld (namedProfile "a")
    [namedProfile "a", namedProfile "b"] hinitial false (s := switchStart)
    (Prod.ext (by decide +kernel) rfl)
  have hround (n : ℕ) (hon : (switchRounds n).1 = .ok false) :
      Together (profileMapOf (namedProfile "a") [namedProfile "a", namedProfile "b"])
        (switchRounds n).2 := by
    have h := (htogether n).1 ⟨"a", failoverConsecutiveFailuresThreshold, 0, []⟩ rfl
    rw [← switchRounds] at h
    generalize switchRounds n = x at h hon
    obtain ⟨_, p⟩ := x
    cases hon
    exact h
  have hend (n : ℕ) (hleft : (switchLoop n).1 = .ok true) : (switchLoop n).2.view.Consistent := by
    have h := (htogether n).2
    rw [← switchLoop] at h
    generalize switchLoop n = x at h hleft
    obtain ⟨_, s⟩ := x
    cases hleft
    exact h
  exact ⟨⟨hround 5 (by decide +kernel), by decide +kernel⟩, hend 9 (by decide +kernel),
    by decide +kernel⟩

end Entry

end Bimarz.Connection
