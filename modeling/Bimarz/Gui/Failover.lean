import Bimarz.Gui.Switch
import Bimarz.KillSwitch.Runs

/-!
# Failover in the GUI

A round of `_failover_loop` that begins no switch leaves the worker as it is, and one that does
leaves it with an outbound exactly if `SwitchOk` holds. `failover_together_iff` says so of every
round of every run of the loop.
-/

namespace Bimarz.Gui

open Effect Effect.Act

/-! ## Deciding -/

section Decide

variable {v : View} {round : Round}

/-- A `stop` has cancelled the task. -/
def Stopped (e : Exc) (s : Worker) : Prop := e = .cancelled ∧ s.expired = false

/-- The view `v`, but for what the manager has counted and for a timeout. -/
def Unswitched (v : View) (s : Worker) : Prop :=
  ∃ manager expired, s.view = { v with manager, expired } ∧
    manager.activeProfileId = v.manager.activeProfileId

theorem unswitched_of_view {s : Worker} (expired : Bool) (h : s.view = { v with expired }) :
    Unswitched v s := ⟨v.manager, expired, h, rfl⟩

theorem ofExcept_triple {α : Type} {x : Except Exc α} {P : Worker → Prop} :
    Triple P (ofExcept x) (fun a s => x = .ok a ∧ P s) (fun e s => x = .error e ∧ P s) := by
  cases x with
  | ok a => exact Triple.pure fun s hs => ⟨rfl, hs⟩
  | error e => exact Triple.raise fun s hs => ⟨rfl, hs⟩

/-- An awaited call that leaves the view alone. -/
theorem await_observe (moment : Moment) (hv : v.Calm) :
    Triple (fun s => s.view = v) (await moment id)
      (fun _ s => moment.fate = .returns ∧ s.view = v)
      (fun e s => Stopped e s ∨ moment.fate ≠ .returns ∧ Unswitched v s) := by
  refine (await_triple moment hv hv.1 (fun s hs => hs) fun _ => rfl).mono_error fun e s hfailed => ?_
  cases hfailed with
  | raised hfate hs =>
    exact Or.inr ⟨by simp [hfate], unswitched_of_view v.expired hs⟩
  | expired hfate hs =>
    rw [ite_self] at hs
    exact Or.inr ⟨by simp [hfate], unswitched_of_view true hs⟩
  | stopped hexpired => exact Or.inl ⟨rfl, hexpired⟩

theorem checkActive_triple (hv : v.Calm) :
    Triple (fun s => s.view = v) (checkActive round)
      (fun _ s => ((∃ target, v.profile.target = .ok target) ∧ round.check.fate = .returns) ∧
        s.view = { v with manager := v.counted round })
      (fun e s => Stopped e s ∨
        ¬((∃ target, v.profile.target = .ok target) ∧ round.check.fate = .returns) ∧
          Unswitched v s) := by
  refine Triple.bind (R := fun profile s => profile = v.profile ∧ s.view = v)
    (Triple.reads fun s hs => ⟨congrArg View.profile hs, hs⟩) fun profile => ?_
  refine Triple.bind (R := fun target s => v.profile.target = .ok target ∧ s.view = v) ?_
    fun target => ?_
  · rintro s ⟨rfl, hs⟩
    refine (ofExcept_triple (P := fun s => s.view = v)).mono_error
      (fun e t ht => Or.inr ⟨?_, unswitched_of_view v.expired ht.2⟩) s hs
    rintro ⟨⟨target, htarget⟩, -⟩
    rw [htarget] at ht
    cases ht.1
  rintro s ⟨htarget, hs⟩
  have hrest : Triple (fun s => s.view = v)
      (do
        await round.check id
        emitLatency (← reads fun s => s.activeResult round)
        modify fun s => { s with manager := s.counted round } : Work Unit)
      (fun _ s => ((∃ target, v.profile.target = .ok target) ∧ round.check.fate = .returns) ∧
        s.view = { v with manager := v.counted round })
      (fun e s => Stopped e s ∨
        ¬((∃ target, v.profile.target = .ok target) ∧ round.check.fate = .returns) ∧
          Unswitched v s) := by
    refine Triple.bind ((await_observe round.check hv).mono_error
      fun e s hs => hs.imp_right fun h => ⟨fun hboth => h.1 hboth.2, h.2⟩) fun _ => ?_
    refine Triple.bind (R := fun _ s => round.check.fate = .returns ∧ s.view = v)
      (Triple.reads fun s hs => hs) fun result => ?_
    refine Triple.bind (R := fun _ s => round.check.fate = .returns ∧ s.view = v)
      (Triple.modify fun s hs => hs) fun _ => Triple.modify ?_
    rintro s ⟨hfate, rfl⟩
    exact ⟨⟨⟨target, htarget⟩, hfate⟩, rfl⟩
  exact hrest s hs

theorem emitAll_triple (results : List HealthCheckResult) {E : Exc → Worker → Prop} :
    Triple (fun s => s.view = v) (results.forM emitLatency) (fun _ s => s.view = v) E := by
  induction results with
  | nil => exact Triple.pure fun _ hs => hs
  | cons result results ih => exact Triple.bind (Triple.modify fun _ hs => hs) fun _ => ih

theorem checkAll_triple (profiles : Dict String ServerProfile) (hv : v.Calm) :
    Triple (fun s => s.view = v) (checkAll profiles round)
      (fun results s => ((∃ targets, targetsOf profiles.values = .ok targets) ∧
        round.batch.fate = .returns) ∧
          results = collectResults round.checkedAtIso round.rows ∧ s.view = v)
      (fun e s => Stopped e s ∨
        ¬((∃ targets, targetsOf profiles.values = .ok targets) ∧ round.batch.fate = .returns) ∧
          Unswitched v s) := by
  refine Triple.bind (ofExcept_triple.mono_error
    fun e s hs => Or.inr ⟨?_, unswitched_of_view v.expired hs.2⟩) fun targets => ?_
  · rintro ⟨⟨targets, htargets⟩, -⟩
    rw [htargets] at hs
    cases hs.1
  refine Triple.bind (R := fun _ s => ((∃ targets, targetsOf profiles.values = .ok targets) ∧
    round.batch.fate = .returns) ∧ s.view = v) ?_ fun _ => ?_
  · rintro s ⟨htargets, hs⟩
    exact ((await_observe round.batch hv).mono
      (fun _ _ hs => ⟨⟨⟨targets, htargets⟩, hs.1⟩, hs.2⟩)
      fun e s hs => hs.imp_right fun h => ⟨fun hboth => h.1 hboth.2, h.2⟩) s hs
  rintro s ⟨hboth, hs⟩
  exact Triple.bind (emitAll_triple _) (fun _ => Triple.pure fun t ht => ⟨hboth, rfl, ht⟩) s hs

/-- What the checks of a round that leads to a switch have found. -/
theorem View.Switches.due {plan : Plan} (h : v.Switches round plan) :
    ((∃ target, v.profile.target = .ok target) ∧ round.check.fate = .returns) ∧
      (v.counted round).shouldFailover = true := by
  obtain ⟨-, profiles', hprofiles', -, hcheck, hdue, -⟩ := h
  exact ⟨hcheck, hdue⟩

/-- What the decision of a check comes to. -/
def Decided (v : View) (round : Round) : Option Plan → Worker → Prop
  | some plan, s => v.Switches round plan ∧ s.view = { v with manager := v.counted round }
  | none, s => (∀ plan, ¬v.Switches round plan) ∧ Unswitched v s

def Undecided (v : View) (round : Round) (e : Exc) (s : Worker) : Prop :=
  Stopped e s ∨ (∀ plan, ¬v.Switches round plan) ∧ Unswitched v s

/-- The part of the decision that the threshold decides about. -/
theorem checkAndPlan_triple {profiles : Dict String ServerProfile} (hv : v.Calm)
    (hclient : v.client = true) (hprofiles : v.allProfiles = some profiles)
    (hsome : profiles.values.isEmpty = false)
    (hcheck : (∃ target, v.profile.target = .ok target) ∧ round.check.fate = .returns)
    (hdue : (v.counted round).shouldFailover = true) :
    Triple (fun s => s.view = { v with manager := v.counted round })
      (checkAndPlan profiles round) (Decided v round) (Undecided v round) := by
  have hcounted : (v.counted round).activeProfileId = v.manager.activeProfileId :=
    FailoverManager.recordActiveProfileResult_activeProfileId _ _
  have hswitches : ∀ {plan}, v.Switches round plan →
      ((∃ targets, targetsOf profiles.values = .ok targets) ∧ round.batch.fate = .returns) ∧
        planSwitch v.profile (v.counted round) profiles
          (collectResults round.checkedAtIso round.rows) = .ok (some plan) := by
    rintro plan ⟨-, profiles', hprofiles', -, -, -, hbatch, hplan⟩
    obtain rfl : profiles = profiles' := Option.some.inj (hprofiles.symm.trans hprofiles')
    exact ⟨hbatch, hplan⟩
  refine Triple.bind ((checkAll_triple profiles (v := { v with manager := v.counted round })
    hv).mono_error fun e s hs => hs.imp_right ?_) fun results => ?_
  · rintro ⟨hnot, manager, expired, hs, hmanager⟩
    exact ⟨fun plan hplan => hnot (hswitches hplan).1, manager, expired, hs, hmanager.trans hcounted⟩
  refine Triple.bind (R := fun t s => t = s ∧ ((∃ targets, targetsOf profiles.values = .ok targets) ∧
    round.batch.fate = .returns) ∧ results = collectResults round.checkedAtIso round.rows ∧
      s.view = { v with manager := v.counted round }) (Triple.reads fun s hs => ⟨rfl, hs⟩) fun t => ?_
  rintro s ⟨rfl, hbatch, rfl, hs⟩
  have hunswitched : Unswitched v t := ⟨v.counted round, v.expired, hs, hcounted⟩
  have hplanned : planSwitch t.profile t.manager profiles
      (collectResults round.checkedAtIso round.rows) = planSwitch v.profile (v.counted round)
        profiles (collectResults round.checkedAtIso round.rows) := by
    rw [show t.profile = v.profile from congrArg View.profile hs,
      show t.manager = v.counted round from congrArg View.manager hs]
  rw [hplanned]
  cases hplan : planSwitch v.profile (v.counted round) profiles
    (collectResults round.checkedAtIso round.rows) with
  | error e =>
    refine Or.inr ⟨fun plan h => ?_, hunswitched⟩
    rw [(hswitches h).2] at hplan
    cases hplan
  | ok decided =>
    cases decided with
    | none =>
      refine ⟨fun plan h => ?_, hunswitched⟩
      rw [(hswitches h).2] at hplan
      cases hplan
    | some plan => exact ⟨⟨hclient, profiles, hprofiles, hsome, hcheck, hdue, hbatch, hplan⟩, hs⟩

theorem checkProfiles_triple {profiles : Dict String ServerProfile} (hv : v.Calm)
    (hclient : v.client = true) (hprofiles : v.allProfiles = some profiles)
    (hsome : profiles.values.isEmpty = false) :
    Triple (fun s => s.view = v) (checkProfiles profiles round) (Decided v round)
      (Undecided v round) := by
  refine Triple.bind ((checkActive_triple hv).mono_error
    fun e s hs => hs.imp_right fun h => ⟨fun plan hplan => h.1 hplan.due.1, h.2⟩)
    fun _ => ?_
  refine Triple.bind (R := fun m s => m = v.counted round ∧
    ((∃ target, v.profile.target = .ok target) ∧ round.check.fate = .returns) ∧
      s.view = { v with manager := v.counted round })
    (Triple.reads fun s hs => ⟨congrArg View.manager hs.2, hs⟩) fun m => ?_
  refine Triple.ite (fun hdue => ?_) fun hdue => Triple.pure ?_
  · rintro s ⟨rfl, hcheck, hs⟩
    exact checkAndPlan_triple hv hclient hprofiles hsome hcheck hdue s hs
  · rintro s ⟨rfl, hcheck, hs⟩
    exact ⟨fun plan hplan => hdue hplan.due.2, v.counted round, v.expired, hs,
      FailoverManager.recordActiveProfileResult_activeProfileId _ _⟩

/-- **The decision** to switch is made exactly in the rounds that `Switches` describes. -/
theorem decideSwitch_triple (hv : v.Calm) :
    Triple (fun s => s.view = v) (decideSwitch round)
      (Decided v round) (Undecided v round) := by
  have hidle (h : ∀ plan, ¬v.Switches round plan) : Triple (fun s => s.view = v)
      (pure none : Work (Option Plan)) (Decided v round) (Undecided v round) :=
    Triple.pure fun s hs => ⟨h, unswitched_of_view v.expired hs⟩
  refine Triple.bind (R := fun read s => read = (v.allProfiles, v.client) ∧ s.view = v)
    (Triple.reads fun s hs => ⟨congrArg (fun v : View => (v.allProfiles, v.client)) hs, hs⟩) ?_
  rintro ⟨_ | profiles, client⟩ s ⟨hread, hs⟩
  · refine hidle (fun plan h => ?_) s hs
    obtain ⟨-, profiles, hsome, -⟩ := h
    rw [hsome] at hread
    cases hread
  obtain ⟨hprofiles, rfl⟩ := Prod.mk.inj hread
  cases hclient : v.client with
  | false =>
    refine hidle (fun plan h => ?_) s hs
    exact Bool.false_ne_true (hclient.symm.trans h.1)
  | true =>
    have hrest : Triple (fun s => s.view = v)
        (if profiles.values.isEmpty then (pure none : Work (Option Plan))
          else checkProfiles profiles round)
        (Decided v round) (Undecided v round) := by
      refine Triple.ite (fun hempty => hidle fun plan h => ?_) fun hempty => ?_
      · obtain ⟨-, profiles', hprofiles', hsome, -⟩ := h
        obtain rfl : profiles = profiles' := Option.some.inj (hprofiles.trans hprofiles')
        exact Bool.false_ne_true (hsome.symm.trans hempty)
      · exact checkProfiles_triple hv hclient hprofiles.symm (by simpa using hempty)
    exact hrest s hs

end Decide

/-! ## A check -/

section Check

variable {v : View} {round : Round}

/-- The switch that is planned leads away from the active profile, to the profile of its id. -/
theorem planSwitch_spec {profile : ServerProfile} {m : FailoverManager}
    {profiles : Dict String ServerProfile} {results : Dict String HealthCheckResult} {plan : Plan}
    (h : planSwitch profile m profiles results = .ok (some plan)) :
    plan.nextId ≠ m.activeProfileId ∧ profiles.get? plan.nextId = some plan.nextProfile ∧
      activeOutbound profile = .ok plan.oldKwargs ∧
        activeOutbound plan.nextProfile = .ok plan.newKwargs := by
  unfold planSwitch at h
  rcases halternative : alternative profile m profiles results with _ | ⟨nextId, nextProfile⟩ <;>
    rw [halternative] at h
  · cases h
  rcases hold : activeOutbound profile with e | oldKwargs <;>
    simp only [bind, Except.bind, hold] at h
  · cases h
  rcases hnew : activeOutbound nextProfile with e | newKwargs <;> simp only [hnew] at h
  · cases h
  cases h
  unfold alternative at halternative
  rcases hpick : m.pickBestAlternative results with _ | picked <;> rw [hpick] at halternative
  · cases halternative
  by_cases hsame : picked = profile.profileId
  · simp only [if_pos hsame] at halternative
    cases halternative
  simp only [if_neg hsame] at halternative
  obtain ⟨next, hnext, heq⟩ := Option.map_eq_some_iff.mp halternative
  cases heq
  exact ⟨(FailoverManager.pickBestAlternative_spec hpick).1, hnext, rfl, hnew⟩

theorem Unswitched.kept {s : Worker} (htogether : v.Together)
    (h : (∀ plan, ¬v.Switches round plan) ∧ Unswitched v s) : Kept v (v.Ok round) s := by
  obtain ⟨hnot, manager, expired, hs, hmanager⟩ := h
  refine ⟨congrArg View.allProfiles hs, congrArg View.loop hs, iff_of_true ?_ ?_⟩
  · unfold Worker.Together
    rw [hs]
    exact ⟨hmanager.trans htogether.1, htogether.2⟩
  · exact fun plan hplan => absurd hplan (hnot plan)

/-- What a check does with the round it has got. -/
theorem decided_triple (hv : v.Calm) (htogether : v.Together)
    (hkeyed : ∀ profiles, v.allProfiles = some profiles → Keyed profiles) :
    Triple (fun s => s.view = v)
      (do match ← decideSwitch round with
          | none => return
          | some plan => performSwitch round plan)
      (fun _ => Kept v (v.Ok round)) (fun e s => Stopped e s ∨ Kept v (v.Ok round) s) := by
  refine Triple.bind ((decideSwitch_triple hv).mono_error
    fun e s hs => hs.imp_right (Unswitched.kept htogether)) fun decided => ?_
  cases decided with
  | none => exact Triple.pure fun s hs => Unswitched.kept htogether hs
  | some plan =>
    rintro s ⟨hswitches, hs⟩
    obtain ⟨-, profiles, hprofiles, -, -, -, -, hplan⟩ := id hswitches
    obtain ⟨hne, hget, hold, hnew⟩ := planSwitch_spec hplan
    have hcounted : (v.counted round).activeProfileId = v.manager.activeProfileId :=
      FailoverManager.recordActiveProfileResult_activeProfileId _ _
    have hok : SwitchOk round plan ↔ v.Ok round := by
      refine ⟨fun h plan' hswitches' => ?_, fun h => h plan hswitches⟩
      obtain ⟨-, profiles', hprofiles', -, -, -, -, hplan'⟩ := hswitches'
      obtain rfl : profiles = profiles' := Option.some.inj (hprofiles.symm.trans hprofiles')
      obtain rfl : plan = plan' :=
        Option.some.inj (Except.ok.inj (hplan.symm.trans hplan'))
      exact h
    have hperform : Triple (fun s => s.view = { v with manager := v.counted round })
        (performSwitch round plan) _ _ :=
      performSwitch_triple hv ⟨hcounted.trans htogether.1, htogether.2⟩ hold hnew
        (hkeyed profiles hprofiles _ _ hget) hne
    refine (hperform.mono (fun _ t ht => ?_) fun e t ht => ?_) s hs
    · exact ⟨ht.1, ht.2.1, ht.2.2.trans hok⟩
    · rcases hexpired : t.expired with _ | _
      · exact Or.inl ⟨ht.1, hexpired⟩
      · obtain ⟨hall, hloop, hiff⟩ := ht.2 hexpired
        exact Or.inr ⟨hall, hloop, hiff.trans hok⟩

/-- **A check** from a view that has its outbound. -/
theorem asyncFailoverCheck_triple (hv : v.Calm) (htogether : v.Together)
    (hkeyed : ∀ profiles, v.allProfiles = some profiles → Keyed profiles) :
    Triple (fun s => s.view = v ∧ s.rounds.head = round) asyncFailoverCheck
      (fun _ => Kept v (v.Ok round)) (fun e s => Stopped e s ∨ Kept v (v.Ok round) s) := by
  refine Triple.bind (R := fun r s => r = round ∧ s.view = v)
    (fun s hs => ⟨hs.2, hs.1⟩) fun r => ?_
  rintro s ⟨rfl, hs⟩
  exact decided_triple hv htogether hkeyed s hs

end Check

/-! ## A round -/

section Round

/-- The condition of the `while`: no `stop` has come in. -/
def Worker.GoesOn (s : Worker) : Prop := (shouldStop s).1 = .ok false

/-- The view without the cancellations on their way. -/
def View.quiet (v : View) : View := { v with pending := false, expired := false }

variable {v : View} {round : Round}

/-- Before the check of a round. -/
def Poised (v : View) (round : Round) (s : Worker) : Prop :=
  s.view.quiet = v ∧ s.rounds.head = round

theorem poised_shouldStop : Keeps (Poised v round) shouldStop := by
  refine Keeps.bind (Keeps.modify fun s hs => ?_) fun _ => Keeps.reads _
  cases s.stops.head <;> exact hs

theorem unobserved_kept {ok : Prop} : Unobserved (Kept v ok) := by
  intro s stopEvent pending expired stops replies moments rounds hs
  exact hs

/-- The check, under its timeout. -/
theorem waitFor_triple (hv : v.Calm) (htogether : v.Together)
    (hkeyed : ∀ profiles, v.allProfiles = some profiles → Keyed profiles) :
    Triple (fun s => s.pending = false ∧ Poised v round s) (waitFor asyncFailoverCheck)
      (fun _ => Kept v (v.Ok round)) (fun e s => e = .cancelled ∨ Kept v (v.Ok round) s) := by
  refine Triple.bind (R := fun _ s => s.view = v ∧ s.rounds.head = round) (Triple.modify ?_)
    fun _ => ?_
  · rintro s ⟨hpending, hview, hround⟩
    refine ⟨?_, hround⟩
    rw [← hview]
    exact congrArg (fun pending => ({ s.view with pending, expired := false } : View)) hpending
  refine Triple.handle (asyncFailoverCheck_triple hv htogether hkeyed) (fun e he => ?_) ?_
  · refine Triple.bind (R := fun isExpired s => isExpired = s.expired ∧
      (Stopped e s ∨ Kept v (v.Ok round) s)) (Triple.reads fun s hs => ⟨rfl, hs⟩) fun isExpired => ?_
    refine Triple.ite (fun hexpired => Triple.raise ?_) fun _ => Triple.raise ?_
    · rintro s ⟨rfl, ⟨-, hnot⟩ | hkept⟩
      · exact absurd (hnot.symm.trans hexpired) Bool.false_ne_true
      · exact Or.inr hkept
    · exact fun s _ => Or.inl (of_decide_eq_true he)
  · rintro e s - (⟨rfl, -⟩ | hkept)
    · exact Or.inl rfl
    · exact Or.inr hkept

theorem runCheck_triple (hv : v.Calm) (hloop : v.loop = .running) (htogether : v.Together)
    (hkeyed : ∀ profiles, v.allProfiles = some profiles → Keyed profiles) :
    Triple (Poised v round) (runAsyncFn asyncFailoverCheck)
      (fun _ => Kept v (v.Ok round)) (fun e s => e = .cancelled ∨ Kept v (v.Ok round) s) := by
  refine Triple.bind (R := fun status s => status = .running ∧ Poised v round s)
    (Triple.reads fun s hs => ⟨(congrArg View.loop hs.1).trans hloop, hs⟩) fun status => ?_
  rintro s ⟨rfl, hs⟩
  have hburst : Triple (Poised v round) (burst asyncFailoverCheck)
      (fun _ => Kept v (v.Ok round)) (fun e s => e = .cancelled ∨ Kept v (v.Ok round) s) := by
    have htick : Triple (Poised v round) tick (fun _ => Poised v round)
        (fun e s => e = .cancelled ∨ Kept v (v.Ok round) s) := by
      refine Triple.modify fun s hs => ?_
      cases s.stops.head <;> exact hs
    refine Triple.bind htick fun _ => ?_
    refine Triple.bind (R := fun isPending s => s.pending = isPending ∧ Poised v round s)
      (Triple.reads fun s hs => ⟨rfl, hs⟩) fun isPending => ?_
    refine Triple.ite (fun _ => ?_) fun hnot => ?_
    · exact Triple.bind (R := fun _ _ => True) (Triple.modify fun _ _ => trivial) fun _ =>
        Triple.raise fun _ _ => Or.inl rfl
    · obtain rfl : isPending = false := by simpa using hnot
      refine Triple.ensure (waitFor_triple hv htogether hkeyed) (fun _ s hs => ?_) fun e => ?_
      · exact unobserved_kept.drain s hs
      · rintro s (rfl | hkept)
        · exact Or.inl rfl
        · exact Or.inr (unobserved_kept.drain s hkept)
  exact hburst s hs

theorem poised_checkWatcher : Keeps (Poised v round) checkWatcher := by
  refine Keeps.bind (Keeps.reads _) fun enabled => Keeps.ite ?_ (Keeps.pure _)
  refine Keeps.bind (keeps_onKillswitch _ fun _ _ hs => hs) fun _ => ?_
  exact Keeps.bind (Keeps.reads _) fun alive => Keeps.ite (Keeps.pure _) (Keeps.raise _)

/-- **A round** that goes on ends with its outbound exactly under the condition of the round. -/
theorem failoverRound_triple (hv : v.Calm) (hloop : v.loop = .running) (htogether : v.Together)
    (hkeyed : ∀ profiles, v.allProfiles = some profiles → Keyed profiles) :
    Triple (Poised v round) failoverRound
      (fun flow s => flow = .next → Kept v (v.Ok round) s) (fun _ _ => True) := by
  refine Triple.bind poised_shouldStop.returns fun stopped => ?_
  refine Triple.ite (fun _ => Triple.pure fun _ _ h => by cases h) fun _ => ?_
  refine Triple.bind poised_shouldStop.returns fun stopped => ?_
  refine Triple.ite (fun _ => Triple.pure fun _ _ h => by cases h) fun _ => ?_
  refine Triple.bind poised_checkWatcher.returns fun _ => ?_
  refine Triple.bind (R := fun _ => Kept v (v.Ok round)) ?_ fun _ => Triple.pure fun _ hs _ => hs
  refine Triple.handle (runCheck_triple hv hloop htogether hkeyed) (fun e he => Triple.pure ?_)
    fun _ _ _ _ => trivial
  rintro s (rfl | hkept)
  · cases he
  · exact hkept

/-- A round that goes on has passed the `while`. -/
theorem goesOn_of_failoverRound {s s' : Worker} (h : failoverRound s = (.ok .next, s')) :
    s.GoesOn := by
  by_contra hnot
  have hstop : (shouldStop s).1 = .ok true := by
    unfold Worker.GoesOn at hnot
    rcases hs : (shouldStop s).1 with e | _ | _
    · cases hs
    · exact absurd hs hnot
    · rfl
  rw [failoverRound, bind_ok (Prod.ext hstop rfl)] at h
  cases h

end Round

/-! ## Runs of the loop -/

section Runs

/-- What `_run_connect` has when it comes to the loop. -/
def Established (allProfiles : Option (Dict String ServerProfile)) (s : Worker) : Prop :=
  s.allProfiles = allProfiles ∧ s.loop = .running ∧ s.outboundOwned = true ∧
    ∃ kwargs, activeOutbound s.profile = .ok kwargs ∧ s.registered = some kwargs

variable {allProfiles : Option (Dict String ServerProfile)}

theorem unobserved_established : Unobserved (Established allProfiles) := by
  intro s stopEvent pending expired stops replies moments rounds hs
  exact hs

theorem asyncConnect_triple :
    Triple (fun s => s.allProfiles = allProfiles ∧ s.loop = .running) asyncConnect
      (fun _ => Established allProfiles) (fun _ _ => True) := by
  have hI : Unobserved fun s => s.allProfiles = allProfiles ∧ s.loop = .running :=
    fun _ _ _ _ _ _ _ _ hs => hs
  refine Triple.bind (hI.keeps_external fun _ hs => hs).returns fun _ => ?_
  refine Triple.bind hI.takeMoment.returns fun moment => ?_
  refine Triple.bind (hI.keeps_await moment fun _ hs => hs).returns fun _ => ?_
  refine Triple.bind (R := fun _ s => s.allProfiles = allProfiles ∧ s.loop = .running)
    (Triple.modify fun _ hs => hs) fun _ => ?_
  refine Triple.bind (R := fun profile s => profile = s.profile ∧ s.allProfiles = allProfiles ∧
    s.loop = .running) (Triple.reads fun s hs => ⟨rfl, hs⟩) fun profile => ?_
  refine Triple.bind ofExcept_triple.returns fun kwargs => ?_
  have hK : Unobserved fun s => activeOutbound s.profile = .ok kwargs ∧
      s.allProfiles = allProfiles ∧ s.loop = .running := fun _ _ _ _ _ _ _ _ hs => hs
  refine Triple.bind (R := fun _ s => activeOutbound s.profile = .ok kwargs ∧
    s.allProfiles = allProfiles ∧ s.loop = .running) ?_ fun moment => ?_
  · rintro s ⟨hkwargs, rfl, hs⟩
    exact ⟨hkwargs, hs⟩
  have hadd : Triple (fun s => activeOutbound s.profile = .ok kwargs ∧
      s.allProfiles = allProfiles ∧ s.loop = .running) (awaitAdd moment kwargs)
      (fun _ s => s.registered = some kwargs ∧ activeOutbound s.profile = .ok kwargs ∧
        s.allProfiles = allProfiles ∧ s.loop = .running) (fun _ _ => True) := by
    refine Triple.bind (R := fun _ s => activeOutbound s.profile = .ok kwargs ∧
      s.allProfiles = allProfiles ∧ s.loop = .running) (Triple.reads fun s hs => hs)
      fun registered => ?_
    refine Triple.ite (fun _ => ?_) fun _ => ?_
    · exact Triple.bind (hK.keeps_await moment fun _ hs => hs).returns fun _ =>
        Triple.raise fun _ _ => trivial
    · exact Triple.returns (hK.await (fun _ _ _ _ _ _ _ _ hs => hs) moment fun s hs => ⟨rfl, hs⟩)
  refine Triple.bind hadd fun _ => Triple.modify ?_
  rintro s ⟨hregistered, hkwargs, hall, hloop⟩
  exact ⟨hall, hloop, rfl, kwargs, hkwargs, hregistered⟩

theorem establish_triple :
    Triple (fun s => s.allProfiles = allProfiles) establish
      (fun _ => Established allProfiles) (fun _ _ => True) := by
  have hall : Unobserved fun s => s.allProfiles = allProfiles := fun _ _ _ _ _ _ _ _ hs => hs
  have hactivate : Keeps (Established allProfiles) activate := by
    refine Keeps.bind (unobserved_established.keeps_external fun _ hs => hs) fun reply => ?_
    refine Keeps.bind (Keeps.reads _) fun interface => ?_
    refine Keeps.bind (keeps_onKillswitch _ fun _ _ hs => hs) fun _ => ?_
    refine Keeps.bind (Keeps.modify fun _ hs => hs) fun _ => ?_
    refine Keeps.bind (Keeps.reads _) fun started => ?_
    exact Keeps.ite (keeps_onKillswitch _ fun _ _ hs => hs) (Keeps.raise _)
  refine Triple.bind (hall.runAsyncFn (fun _ => unobserved_established)
    (fun _ _ _ _ _ _ _ _ hs => hs) (fun _ _ => trivial) asyncConnect_triple) fun _ => ?_
  refine Triple.bind (Keeps.bind (Keeps.reads _) fun enabled =>
    Keeps.ite hactivate (Keeps.pure _)).returns fun _ => ?_
  refine Triple.bind (R := fun _ => Established allProfiles) (Triple.modify fun _ hs => hs)
    fun _ => ?_
  exact Triple.bind (Triple.reads fun _ hs => hs) fun _ => Triple.modify fun _ hs => hs

theorem startFailover_triple :
    Triple (Established allProfiles) startFailover
      (fun _ s => s.allProfiles = allProfiles ∧ s.loop = .running ∧ s.Together)
      (fun _ _ => True) := by
  refine Triple.bind (R := fun id s => id = s.profile.profileId ∧ Established allProfiles s)
    (Triple.reads fun s hs => ⟨rfl, hs⟩) fun id => ?_
  refine Triple.bind ofExcept_triple.returns fun manager => Triple.modify ?_
  rintro s ⟨hinit, rfl, hall, hloop, howned, hkwargs⟩
  exact ⟨hall, hloop, FailoverManager.init_activeProfileId hinit, howned, hkwargs⟩

/-- **The failover loop** has its outbound whenever it goes on exactly if, in every round after
which it goes on, a switch that begins ends well. -/
theorem failover_together_iff {profiles : List ServerProfile} {s₀ s₁ s : Worker}
    (hall : s₀.allProfiles = some (profilesById profiles))
    (hestablish : establish s₀ = (.ok (), s₁)) (hstart : startFailover s₁ = (.ok (), s)) (n : ℕ) :
    Throughout failoverRound (fun t => t.GoesOn → t.Together) n s ↔
      EachRound failoverRound (fun t t' => t'.GoesOn → RoundOk t) n s := by
  obtain ⟨hprofiles, hloop, htogether⟩ :=
    startFailover_triple.of_ok (establish_triple.of_ok hall hestablish) hstart
  have hround : ∀ t t' : Worker, t.allProfiles = some (profilesById profiles) ∧ t.loop = .running →
      (t.GoesOn → t.Together) → failoverRound t = (.ok .next, t') →
      Kept t.view.quiet (RoundOk t) t' := by
    rintro t t' ⟨htprofiles, htloop⟩ ht hnext
    have hkeyed : ∀ found, t.view.quiet.allProfiles = some found → Keyed found := by
      intro found hfound
      obtain rfl : profilesById profiles = found :=
        Option.some.inj (htprofiles.symm.trans hfound)
      exact keyed_profilesById profiles
    have hkept : Triple (Poised t.view.quiet t.rounds.head) failoverRound _ _ :=
      failoverRound_triple ⟨rfl, rfl⟩ htloop (ht (goesOn_of_failoverRound hnext)) hkeyed
    exact hkept.of_ok ⟨rfl, rfl⟩ hnext rfl
  refine throughout_iff (J := fun t => t.allProfiles = some (profilesById profiles) ∧
    t.loop = .running) ?_ ?_ ⟨hprofiles, hloop⟩ fun _ => htogether
  · intro t t' hJ ht hnext
    obtain ⟨hkept, hkept', -⟩ := hround t t' hJ ht hnext
    exact ⟨hkept.trans hJ.1, hkept'.trans hJ.2⟩
  · intro t t' hJ ht hnext
    exact imp_congr_right fun _ => (hround t t' hJ ht hnext).2.2

/-- A worker of the profile `a` with the alternative `b`, whose rounds are all alike. -/
def steadyWorker (round : Round) : Worker where
  profile := namedProfile "a"
  allProfiles := some (profilesById [namedProfile "a", namedProfile "b"])
  loop := .running
  ksManager := .freshWith (.const .runs) (.const true)
  stops := .const false
  replies := .const {}
  moments := .const {}
  rounds := .const round

/-- That worker at the beginning of its loop. -/
def steadyLoop (round : Round) : Worker := (startFailover (establish (steadyWorker round)).2).2

/-- Five rounds in which the profile in use answers. -/
theorem failover_together_steady :
    Throughout failoverRound (fun t => t.GoesOn → t.Together) 5 (steadyLoop {}) ↔
      EachRound failoverRound (fun t t' => t'.GoesOn → RoundOk t) 5 (steadyLoop {}) :=
  failover_together_iff
    (show (steadyWorker {}).allProfiles =
      some (profilesById [namedProfile "a", namedProfile "b"]) from rfl)
    (Prod.ext (by decide +kernel) rfl : establish (steadyWorker {}) = (.ok (), _))
    (Prod.ext (by decide +kernel) rfl) 5

/-- A round in which the profile in use does not answer, and the engine removes outbounds but adds
none. -/
def lostRound : Round where
  reachable := false
  rows := [⟨"b", true, some 20, none⟩]
  add := { fate := .raises .other "unavailable" }
  recoverAdd := { fate := .raises .other "unavailable" }

/-- **The lost outbound.** After the third failed check the switch fails and so does its recovery,
which is only logged: the loop goes on without an outbound. -/
theorem failover_without_outbound :
    ¬∀ (profiles : List ServerProfile) (s₀ s₁ s : Worker),
      s₀.allProfiles = some (profilesById profiles) → establish s₀ = (.ok (), s₁) →
      startFailover s₁ = (.ok (), s) →
      ∀ n, Throughout failoverRound (fun t => t.GoesOn → t.Together) n s := by
  intro h
  have hlost : (loop 3 failoverRound (steadyLoop lostRound)).1 = .ok false ∧
      (loop 3 failoverRound (steadyLoop lostRound)).2.registered = none ∧
      (shouldStop (loop 3 failoverRound (steadyLoop lostRound)).2).1 = .ok false := by
    decide +kernel
  obtain ⟨hleft, hnone, hon⟩ := hlost
  have hthroughout := h [namedProfile "a", namedProfile "b"] (steadyWorker lostRound) _
    (steadyLoop lostRound) rfl (Prod.ext (by decide +kernel) rfl)
    (Prod.ext (by decide +kernel) rfl) 3
  obtain ⟨-, -, kwargs, -, hregistered⟩ := hthroughout 3 le_rfl _ (Prod.ext hleft rfl) hon
  exact Option.some_ne_none kwargs (hregistered.symm.trans hnone)

end Runs

end Bimarz.Gui
