import Bimarz.Gui.Disconnect
import Bimarz.KillSwitch.Recorded

/-!
# What the end of a run makes of the firewall

The loops of the worker leave the firewall alone. What ends them is followed by up to two
deactivations: the `except` block of `_run_connect` has one, and `_cleanup` has another for a
kill-switch that is still active, triggered or not. `closed_iff` says when the rules outlast both;
a trigger is recorded by the time the first of them tells the watcher to stop, or never.
-/

namespace Bimarz.Gui

open Effect Effect.Act
open KillSwitch (System)

/-- A teardown that gets as far as the kill-switch calls `deactivate`, whose first command takes
effect. The first reply is that of `stop_process_watcher`. -/
def Worker.Reopens (s : Worker) : Prop :=
  (s.replies.get 1).failure = none ∧ s.ksManager.Reopens

/-! ## One teardown -/

section Teardown

variable {k : System} {replies : Stream' Reply}

/-- The kill-switch is `k`, and these replies are to come. -/
def Facing (k : System) (replies : Stream' Reply) (s : Worker) : Prop :=
  s.ksManager = k ∧ s.replies = replies

/-- The watcher of the kill-switch `k` has been told to stop, and these replies are to come. -/
def Halted (k : System) (replies : Stream' Reply) (s : Worker) : Prop :=
  k.Stopped s.ksManager ∧ s.replies = replies

/-- What a deactivation makes of the firewall of `k`, if it is reached. -/
def Deactivated (k : System) (reached : Prop) (s : Worker) : Prop :=
  ¬(reached ∧ k.Reopens) ∧ s.ksManager.filter = k.filter ∨
    (reached ∧ k.Reopens) ∧ s.ksManager.filter.input.length < k.filter.input.length

/-- What a teardown makes of `k`: a trigger is recorded before the watcher is told to stop, or
never. -/
def Torn (k : System) (reached : Prop) (s : Worker) : Prop :=
  Deactivated k reached s ∧ s.ksManager.Quiet k.afterGap.triggeredOn

theorem unobserved_torn (reached : Prop) : Unobserved (Torn k reached) :=
  fun _ _ _ _ _ _ _ _ hs => hs

theorem Halted.kept {s : Worker} (h : Halted k replies s) {reached : Prop}
    (hnot : ¬(reached ∧ k.Reopens)) : Torn k reached s :=
  ⟨Or.inl ⟨hnot, congrArg KillSwitch.Host.filter h.1.host⟩, h.1.stopEvent, h.1.triggeredOn⟩

/-- An external call takes a reply and leaves the kill-switch alone. -/
theorem external_reply (C : System → Prop) :
    Triple (fun s => C s.ksManager ∧ s.replies = replies) (external id)
      (fun _ s => replies.head.failure = none ∧ C s.ksManager ∧ s.replies = replies.tail)
      (fun e s => e.isException = true ∧ replies.head.failure ≠ none ∧ C s.ksManager ∧
        s.replies = replies.tail) := by
  have htick : Frames (fun s : Worker => (s.ksManager, s.replies)) tick :=
    Offstage.tick fun _ _ _ _ _ _ _ _ _ => rfl
  refine Triple.bind (R := fun _ s => C s.ksManager ∧ s.replies = replies) ?_ fun _ => ?_
  · intro s hs
    exact (htick.keeps fun c => C c.1 ∧ c.2 = replies).run (s := s) hs
  refine Triple.bind (R := fun reply s => reply = replies.head ∧ C s.ksManager ∧
    s.replies = replies.tail) ?_ fun reply => ?_
  · rintro s ⟨hs, rfl⟩
    exact ⟨rfl, hs, rfl⟩
  · rintro s ⟨rfl, hs⟩
    cases hfailure : replies.head.failure with
    | none => exact ⟨rfl, hs⟩
    | some failed => exact ⟨rfl, nofun, hs⟩

/-- Stopping the watcher takes a reply and leaves the rest of the kill-switch alone. -/
theorem stopWatcher_facing :
    Triple (Facing k replies) stopWatcher (fun _ => Halted k replies.tail)
      (fun e s => e.isException = true ∧ Halted k replies.tail s) := by
  have hrequest : Triple (Facing k replies) (onKillswitch System.requestStop)
      (fun _ => Halted k replies)
      (fun e s => e.isException = true ∧ Halted k replies.tail s) := by
    rintro s ⟨rfl, rfl⟩
    rw [onKillswitch_run (KillSwitch.requestStop_run s.ksManager)]
    exact ⟨⟨rfl, KillSwitch.requested_switch _, rfl, rfl⟩, rfl⟩
  refine Triple.bind hrequest fun _ => ?_
  refine Triple.bind ((external_reply k.Stopped).mono_error fun _ _ hs => ⟨hs.1, hs.2.2⟩)
    fun _ => ?_
  rintro s ⟨-, hstopped, hreplies⟩
  obtain ⟨outcome, k', hrun, hhost, hswitch, hevent, htriggered, -⟩ :=
    KillSwitch.endWatcher_spec s.ksManager hstopped.stopEvent
  have hhalted : Halted k replies.tail { s with ksManager := k' } :=
    ⟨⟨hhost.trans hstopped.host, hswitch.trans hstopped.switch, hevent,
      htriggered.trans hstopped.triggeredOn⟩, hreplies⟩
  rcases outcome with e | ended
  · rw [bind_error (onKillswitch_run hrun)]
    exact ⟨KillSwitch.raises_endWatcher _ _ _ hrun, hhalted⟩
  · rw [bind_ok (onKillswitch_run hrun)]
    exact hhalted

/-- An active kill-switch is deactivated, if the next reply is no failure. -/
theorem deactivateIfActive_halted :
    Triple (Halted k replies) deactivateIfActive
      (fun _ => Torn k (replies.head.failure = none))
      (fun e s => e.isException = true ∧ Torn k (replies.head.failure = none) s) := by
  refine Triple.bind (R := fun isActive s => isActive = k.state.active ∧ Halted k replies s) ?_
    fun isActive => Triple.ite (fun _ => ?_) fun hoff => Triple.pure ?_
  · rintro s hs
    exact ⟨congrArg KillSwitch.Switch.active hs.1.switch, hs⟩
  · refine Triple.bind (R := fun _ => Halted k replies) (Triple.modify fun s hs => hs.2) fun _ => ?_
    refine Triple.bind ((external_reply k.Stopped).mono_error ?_) fun _ => ?_
    · rintro e s ⟨he, hfailure, hs⟩
      have hhalted : Halted k replies.tail s := hs
      exact ⟨he, hhalted.kept fun h => hfailure h.1⟩
    · rintro s ⟨hfailure, hstopped, -⟩
      have hreopens := KillSwitch.reopens_congr hstopped.host hstopped.switch
      have hfilter : s.ksManager.filter = k.filter :=
        congrArg KillSwitch.Host.filter hstopped.host
      have hcases := KillSwitch.deactivate_filter s.ksManager
      have hquiet := (KillSwitch.deactivate_quiet k.afterGap.triggeredOn).run
        ⟨hstopped.stopEvent, hstopped.triggeredOn⟩
      rw [hreopens, hfilter] at hcases
      have htorn : Torn k (replies.head.failure = none)
          { s with ksManager := (System.deactivate s.ksManager).2 } := by
        refine ⟨?_, hquiet⟩
        rcases hcases with ⟨hnot, hkept⟩ | ⟨hdeletes, hless⟩
        · exact Or.inl ⟨fun h => hnot h.2, hkept⟩
        · exact Or.inr ⟨⟨hfailure, hdeletes⟩, hless⟩
      rcases hrun : System.deactivate s.ksManager with ⟨e | _, k'⟩ <;>
        rw [onKillswitch_run hrun] <;> rw [hrun] at htorn
      · exact ⟨KillSwitch.raises_deactivate _ _ _ hrun, htorn⟩
      · exact htorn
  · rintro s ⟨rfl, hs⟩
    exact hs.kept fun h => hoff h.2.1.1

/-- The `except` block of `_run_connect` gets as far as the kill-switch in any case. -/
theorem abandon_facing (e : Exc) :
    Triple (Facing k replies) (abandon e) (fun _ _ => False)
      (fun e' s => e' = e ∧ Torn k ((replies.get 1).failure = none) s) := by
  let D : Worker → Prop := Torn k ((replies.get 1).failure = none)
  have hsuppress {P Q : Worker → Prop} {m : Work Unit}
      (hm : Triple P m (fun _ => Q) (fun e s => e.isException = true ∧ Q s)) :
      Triple P (suppress m) (fun _ => Q) (fun e' s => e' = e ∧ D s) :=
    suppress_triple hm (fun _ _ _ hs => hs.2) fun _ _ he hs =>
      absurd (he.symm.trans hs.1) Bool.false_ne_true
  refine Triple.bind (hsuppress stopWatcher_facing) fun _ => ?_
  refine Triple.bind (R := fun _ => D) (hsuppress deactivateIfActive_halted) fun _ => ?_
  refine Triple.bind (R := fun _ => D) (hsuppress ?_) fun _ => Triple.raise fun s hs => ⟨rfl, hs⟩
  refine Triple.bind (R := fun _ => D) (Triple.modify fun _ hs => hs) fun _ => ?_
  have hstop := (unobserved_torn (k := k) ((replies.get 1).failure = none)).external_id
  exact Triple.bind hstop fun _ => Triple.pure fun _ hs => hs

/-- The first release of `_cleanup` is where it may be cancelled. -/
theorem releaseClient_facing {s₁ : Worker} (hloop : s₁.loop = .running) :
    Triple (fun p : Worker × List String => p.1 = s₁) releaseClient
      (fun _ p => ¬s₁.CleanupCancelled ∧ Facing s₁.ksManager s₁.replies p.1)
      (fun _ p => s₁.CleanupCancelled ∧ p.1.ksManager = s₁.ksManager) := by
  have hreplies : Offstage Worker.replies := fun _ _ _ _ _ _ _ _ _ => rfl
  have hframes := (frames_releaseClient hreplies).keeps_eq s₁.replies
  refine ((releaseClient_triple s₁ hloop).and hframes).conseq ?_ ?_ ?_
  · rintro p rfl
    exact ⟨rfl, rfl⟩
  · rintro - p ⟨⟨hnot, hrest⟩, hsame⟩
    exact ⟨hnot, congrArg Prod.snd hrest, hsame⟩
  · rintro - p ⟨⟨hcancelled, hrest⟩, -⟩
    exact ⟨hcancelled, congrArg Prod.snd hrest⟩

/-- The other releases of `_cleanup`. -/
theorem releases_torn :
    Triple (fun p : Worker × List String => Facing k replies p.1)
      (do
        attempt "kill-switch watcher stop failed: " stopWatcher
        attempt "kill-switch deactivate failed: " deactivateIfActive
        releaseProcess
        releaseRuntime : Release Unit)
      (fun _ p => Torn k ((replies.get 1).failure = none) p.1)
      (fun _ p => Torn k ((replies.get 1).failure = none) p.1) := by
  let D : Worker → Prop := Torn k ((replies.get 1).failure = none)
  have hlift {α : Type} {m : Work α} (hm : Keeps D m) :
      Keeps (fun p : Worker × List String => D p.1) (Teardown.lift m) := Teardown.keeps_lift hm
  have hcall {label : String} {item : Item} :
      Keeps (fun p : Worker × List String => D p.1)
        (attempt label (do emit item; let _ ← external id)) := by
    refine Teardown.keeps_attempt (Keeps.bind (Keeps.modify fun _ hs => hs) fun _ => ?_)
      (Keeps.pure _)
    exact Keeps.bind ((unobserved_torn _).keeps_external fun _ hs => hs) fun _ => Keeps.pure _
  refine Triple.bind ((attempt_triple _ stopWatcher_facing).mono_error fun _ _ hq => hq.elim)
    fun _ => ?_
  refine Triple.bind (R := fun _ p => D p.1)
    ((attempt_triple _ deactivateIfActive_halted).mono_error fun _ _ hq => hq.elim) fun _ => ?_
  refine Keeps.bind ?_ fun _ => ?_
  · refine Keeps.bind (hlift (Keeps.reads _)) fun _ => Keeps.ite ?_ (Keeps.pure _)
    exact Keeps.bind (hlift (Keeps.modify fun _ hs => hs)) fun _ => hcall
  · refine Keeps.bind (hlift (Keeps.reads _)) fun _ => Keeps.ite ?_ (Keeps.pure _)
    exact Keeps.bind (hlift (Keeps.modify fun _ hs => hs)) fun _ => hcall

/-- `_cleanup` gets as far as the kill-switch unless it is cancelled. -/
theorem cleanup_torn {s₁ : Worker} (hloop : s₁.loop = .running) :
    s₁.CleanupCancelled ∧ (cleanup s₁).2.ksManager = s₁.ksManager ∨
      ¬s₁.CleanupCancelled ∧
        Torn s₁.ksManager ((s₁.replies.get 1).failure = none) (cleanup s₁).2 := by
  let D : Worker → Prop := fun s =>
    ¬s₁.CleanupCancelled ∧ Torn s₁.ksManager ((s₁.replies.get 1).failure = none) s
  have hcleanup : Triple (fun s => s = s₁) cleanup (fun _ => D)
      (fun _ s => s₁.CleanupCancelled ∧ s.ksManager = s₁.ksManager ∨ D s) := by
    refine Triple.withLocal (Triple.bind ((releaseClient_facing hloop).conseq (fun _ hp => hp.1)
      (fun _ _ hp => hp) fun _ _ hp => Or.inl hp) fun _ => ?_)
    rintro p ⟨hnot, hp⟩
    exact releases_torn.mono (fun _ _ hq => ⟨hnot, hq⟩) (fun _ _ hq => Or.inr ⟨hnot, hq⟩) p hp
  have h := hcleanup s₁ rfl
  rcases hrun : cleanup s₁ with ⟨e | u, s₂⟩ <;> rw [hrun] at h
  · exact h
  · exact Or.inr h

end Teardown

/-! ## The run -/

section Runs

/-- What `_run_connect` does before its `try` block. -/
def prepareConnect : Work Unit := do
  findBinary
  let _ ← external fun s => { s with runtimeDir := true }.record .runtimeCreated
  let _ ← external id
  modify fun s => { s with xrayProcess := true }

/-- What `run` does before that block. -/
def prepare : Work Unit := do
  tick
  modify fun s => { s with loop := .running }
  prepareConnect

theorem runConnect_eq (n : ℕ) :
    runConnect n = prepareConnect >>= fun _ => handle Exc.isException (connectBody n) abandon := by
  unfold runConnect prepareConnect
  simp only [bind_bind]

/-- The exception is one that `_run_connect` catches. -/
def Caught (result : Except Exc Bool) : Prop := ∃ e, result = .error e ∧ e.isException = true

variable {s s₀ t₀ : Worker} {n : ℕ} {result : Except Exc Bool}

/-- What precedes the `try` block has nothing to do with the kill-switch. -/
theorem prepare_ksManager (s : Worker) : (prepare s).2.ksManager = s.ksManager := by
  have hksManager : Offstage Worker.ksManager := fun _ _ _ _ _ _ _ _ _ => rfl
  have hexternal {effect : Worker → Worker} (h : ∀ s, (effect s).ksManager = s.ksManager) :
      Frames Worker.ksManager (external effect) := by
    refine Frames.bind hksManager.tick fun _ => Frames.bind (fun _ => rfl) fun reply => ?_
    cases reply.failure with
    | none => exact Frames.bind (Frames.modify h) fun _ => Frames.pure _
    | some failed => exact Frames.raise _
  have hbinary : Frames Worker.ksManager findBinary :=
    Frames.bind (hexternal fun _ => rfl) fun _ => Frames.ite (Frames.pure _) (Frames.raise _)
  have hprepare : Frames Worker.ksManager prepare := by
    refine Frames.bind hksManager.tick fun _ => Frames.bind (Frames.modify fun _ => rfl) fun _ => ?_
    refine Frames.bind hbinary fun _ => Frames.bind (hexternal fun _ => rfl) fun _ => ?_
    exact Frames.bind (hexternal fun _ => rfl) fun _ => Frames.modify fun _ => rfl
  exact hprepare s

theorem report_ksManager (e : Exc) : Frames Worker.ksManager (report e) := by
  unfold report
  split
  · exact Frames.modify fun _ => rfl
  · exact Frames.modify fun _ => rfl
  · exact Frames.modify fun _ => rfl
  · exact Frames.modify fun _ => rfl
  · exact Frames.pure _

/-- What is reported of `_run_connect` does nothing to the kill-switch. -/
theorem connectPhase_ksManager (n : ℕ) (s : Worker) :
    (connectPhase n s).2.ksManager =
      (runConnect n { (tick s).2 with loop := .running }).2.ksManager := by
  unfold connectPhase
  rw [bind_ok (show tick s = (.ok (), (tick s).2) from rfl), modify_bind_apply,
    bind_ok (show outcome (runConnect n) _ = (.ok _, _) from rfl)]
  rcases hrun : runConnect n { (tick s).2 with loop := .running } with ⟨e | left, t⟩
  · exact Frames.bind (report_ksManager e) (fun _ => Frames.pure _) t
  · rfl

theorem connectPhase_unprepared {e : Exc} (hprepare : prepare s = (.error e, s₀)) :
    (connectPhase n s).2.ksManager = s.ksManager := by
  have hprepared : prepareConnect { (tick s).2 with loop := .running } = (.error e, s₀) := hprepare
  have hsame := prepare_ksManager s
  rw [hprepare] at hsame
  rw [connectPhase_ksManager, runConnect_eq, bind_error hprepared]
  exact hsame

/-- The `except` block of `_run_connect` is the only thing that follows its `try` block. -/
theorem connectPhase_torn (hprepare : prepare s = (.ok (), s₀))
    (hbody : connectBody n s₀ = (result, t₀)) :
    Caught result ∧ Torn t₀.ksManager ((t₀.replies.get 1).failure = none) (connectPhase n s).2 ∨
      ¬Caught result ∧ (connectPhase n s).2.ksManager = t₀.ksManager := by
  have hprepared : prepareConnect { (tick s).2 with loop := .running } = (.ok (), s₀) := hprepare
  have hphase := connectPhase_ksManager n s
  rw [runConnect_eq, bind_ok hprepared] at hphase
  unfold Torn Deactivated
  rw [hphase]
  by_cases hcaught : Caught result
  · obtain ⟨e, rfl, he⟩ := id hcaught
    rw [handle_caught hbody he]
    have h := abandon_facing e t₀ ⟨rfl, rfl⟩
    rcases habandon : abandon e t₀ with ⟨e' | left, t₁⟩ <;> rw [habandon] at h
    · exact Or.inl ⟨hcaught, h.2⟩
    · exact h.elim
  · refine Or.inr ⟨hcaught, ?_⟩
    rcases result with e | left
    · have he : ¬e.isException = true := fun he => hcaught ⟨e, rfl, he⟩
      rw [handle_uncaught hbody (by simpa using he)]
    · rw [handle_ok hbody]

/-- **Either loop** leaves the firewall alone, wherever it is left. -/
theorem watch_filter (s : Worker) (n : ℕ) :
    (watch n s).2.ksManager.filter = s.ksManager.filter := by
  have hsteady : Steady fun t => t.ksManager.filter = s.ksManager.filter := {
    unobserved := fun _ _ _ _ _ _ _ _ hs => hs
    outbound := fun _ _ _ hs => hs
    switched := fun _ _ _ hs => hs
    latency := fun _ _ _ _ hs => hs
    failedOver := fun _ _ _ hs => hs
    gap := fun _ hs => hs }
  exact (hsteady.watch n).run rfl

theorem closeLoop_ksManager (s : Worker) : (closeLoop s).2.ksManager = s.ksManager := by
  have htick : Frames Worker.ksManager tick := Offstage.tick fun _ _ _ _ _ _ _ _ _ => rfl
  have hclose : Frames Worker.ksManager closeLoop := by
    refine Frames.bind htick fun _ => Frames.bind (Frames.modify fun _ => rfl) fun _ => ?_
    refine Frames.bind (Frames.reads _) fun _ => Frames.ite ?_ (Frames.pure _)
    exact Frames.modify fun _ => rfl
  exact hclose s

/-- The kill-switch at the end of a run is that of its `_cleanup`. -/
theorem run_ksManager (hclient : s.client = false) (hlog : s.log = [])
    (hended : (run n s).1 ≠ .ok false) :
    (connectPhase n s).2.loop = .running ∧
      (run n s).2.ksManager = (cleanup (connectPhase n s).2).2.ksManager := by
  have hphase := connectPhase_triple n s ⟨hclient, hlog⟩
  rcases hconnect : connectPhase n s with ⟨e | phase, t₁⟩ <;> rw [hconnect] at hphase
  · exact hphase.elim
  · rw [run_snd hconnect hended, closeLoop_ksManager]
    exact ⟨hphase.loop, rfl⟩

/-- **After a run** the rules are still as they were where the `try` block of `_run_connect` ended,
exactly if neither teardown that follows deletes one of them: that of its `except` block, if it has
caught something, and that of `_cleanup`, if it is not cancelled. -/
theorem closed_iff (hclient : s.client = false) (hlog : s.log = [])
    (hprepare : prepare s = (.ok (), s₀)) (hbody : connectBody n s₀ = (result, t₀))
    (hended : (run n s).1 ≠ .ok false) :
    let t₁ := (connectPhase n s).2
    (run n s).2.ksManager.filter = t₀.ksManager.filter ↔
      ¬(Caught result ∧ t₀.Reopens) ∧ ¬(¬t₁.CleanupCancelled ∧ t₁.Reopens) := by
  intro t₁
  obtain ⟨hloop, hrun⟩ := run_ksManager hclient hlog hended
  have hfirst : Deactivated t₀.ksManager (Caught result ∧ (t₀.replies.get 1).failure = none) t₁ := by
    rcases connectPhase_torn hprepare hbody with ⟨hcaught, htorn, -⟩ | ⟨hcaught, hsame⟩
    · unfold Deactivated
      rwa [and_iff_right hcaught]
    · exact Or.inl ⟨fun h => hcaught h.1.1, congrArg System.filter hsame⟩
  have hsecond : Deactivated t₁.ksManager
      (¬t₁.CleanupCancelled ∧ (t₁.replies.get 1).failure = none) (cleanup t₁).2 := by
    rcases cleanup_torn hloop with ⟨hcancelled, hsame⟩ | ⟨hnot, htorn, -⟩
    · exact Or.inl ⟨fun h => h.1.1 hcancelled, congrArg System.filter hsame⟩
    · unfold Deactivated
      rwa [and_iff_right hnot]
  rw [hrun]
  unfold Deactivated at hfirst hsecond
  unfold Worker.Reopens
  rw [← and_assoc, ← and_assoc]
  rcases hfirst with ⟨hnot, hkept⟩ | ⟨hdeletes, hless⟩
  · rcases hsecond with ⟨hnot', hkept'⟩ | ⟨hdeletes', hless'⟩
    · exact iff_of_true (hkept'.trans hkept) ⟨hnot, hnot'⟩
    · refine iff_of_false (fun h => ?_) fun h => h.2 hdeletes'
      rw [h, hkept] at hless'
      exact lt_irrefl _ hless'
  · refine iff_of_false (fun h => ?_) fun h => h.1 hdeletes
    rcases hsecond with ⟨-, hkept'⟩ | ⟨-, hless'⟩
    · rw [← hkept', h] at hless
      exact lt_irrefl _ hless
    · rw [h] at hless'
      omega

/-- Whether a trigger is recorded is settled where the first teardown tells the watcher to stop; a
run that comes to neither deletes nothing. -/
theorem run_triggeredOn (hclient : s.client = false) (hlog : s.log = [])
    (hprepare : prepare s = (.ok (), s₀)) (hbody : connectBody n s₀ = (result, t₀))
    (hended : (run n s).1 ≠ .ok false) :
    let t₁ := (connectPhase n s).2
    (run n s).2.ksManager.triggeredOn = t₀.ksManager.afterGap.triggeredOn ∨
      (¬Caught result ∧ t₁.CleanupCancelled) ∧
        (run n s).2.ksManager.triggeredOn = t₀.ksManager.triggeredOn := by
  intro t₁
  obtain ⟨hloop, hrun⟩ := run_ksManager hclient hlog hended
  rw [hrun]
  rcases connectPhase_torn hprepare hbody with ⟨-, -, hquiet⟩ | ⟨hcaught, hsame⟩
  · rcases cleanup_torn hloop with ⟨-, hkept⟩ | ⟨-, -, hquiet'⟩
    · exact Or.inl ((congrArg System.triggeredOn hkept).trans hquiet.2)
    · refine Or.inl (hquiet'.2.trans ?_)
      exact (KillSwitch.afterGap_stopped hquiet.1).2.trans hquiet.2
  · rcases cleanup_torn hloop with ⟨hcancelled, hkept⟩ | ⟨-, -, hquiet⟩
    · exact Or.inr ⟨⟨hcaught, hcancelled⟩, congrArg System.triggeredOn (hkept.trans hsame)⟩
    · refine Or.inl (hquiet.2.trans ?_)
      rw [hsame]

/-- The `try` block changes nothing over which a trigger has been recorded. -/
theorem connectBody_recorded (n : ℕ) :
    Keeps (fun s => s.ksManager.Recorded) (connectBody n) := by
  have hunobserved : Unobserved fun s => s.ksManager.Recorded := fun _ _ _ _ _ _ _ _ hs => hs
  have hsteady : Steady fun s => s.ksManager.Recorded := {
    unobserved := hunobserved
    outbound := fun _ _ _ hs => hs
    switched := fun _ _ _ hs => hs
    latency := fun _ _ _ _ hs => hs
    failedOver := fun _ _ _ hs => hs
    gap := fun _ hs => KillSwitch.afterGap_recorded hs }
  have hexternal : Keeps (fun s => s.ksManager.Recorded) (external id) :=
    hunobserved.keeps_external fun _ hs => hs
  have hkillswitch {m : Act Exc System Unit} (h : Keeps System.Recorded m) :
      Keeps (fun s : Worker => s.ksManager.Recorded) (onKillswitch m) :=
    Keeps.zoom h (fun _ hs => hs) fun _ _ _ ht => ht
  have hready (polls : ℕ) : Keeps (fun s => s.ksManager.Recorded) (waitReady polls) := by
    induction polls with
    | zero => exact Keeps.raise _
    | succ polls ih =>
      refine Keeps.bind hexternal fun reply => Keeps.ite (Keeps.pure _) ?_
      exact Keeps.bind hunobserved.shouldStop fun stopped => Keeps.ite (Keeps.pure _) ih
  have hconnect : Keeps (fun s => s.ksManager.Recorded) asyncConnect := by
    refine Keeps.bind hexternal fun _ => Keeps.bind hunobserved.takeMoment fun moment => ?_
    refine Keeps.bind (hunobserved.keeps_await moment fun _ hs => hs) fun _ => ?_
    refine Keeps.bind (Keeps.modify fun _ hs => hs) fun _ => Keeps.bind (Keeps.reads _) fun _ => ?_
    refine Keeps.bind (Steady.ofExcept _) fun kwargs => ?_
    exact Keeps.bind hunobserved.takeMoment fun moment => hsteady.addOutbound moment _
  have hactivate : Keeps (fun s => s.ksManager.Recorded) activate := by
    refine Keeps.bind hexternal fun reply => Keeps.bind (Keeps.reads _) fun interface => ?_
    refine Keeps.bind (hkillswitch (KillSwitch.activate_recorded _ _)) fun _ => ?_
    refine Keeps.bind (Keeps.modify fun _ hs => hs) fun _ => Keeps.bind (Keeps.reads _) fun _ => ?_
    exact Keeps.ite (hkillswitch (KillSwitch.startProcessWatcher_recorded 1)) (Keeps.raise _)
  have hestablish : Keeps (fun s => s.ksManager.Recorded) establish := by
    refine Keeps.bind (hunobserved.keeps_runAsyncFn hconnect) fun _ => ?_
    refine Keeps.bind (Keeps.bind (Keeps.reads _) fun _ => Keeps.ite hactivate (Keeps.pure _))
      fun _ => Keeps.bind (Keeps.modify fun _ hs => hs) fun _ => ?_
    exact Keeps.bind (Keeps.reads _) fun _ => Keeps.modify fun _ hs => hs
  have hstart : Keeps (fun s => s.ksManager.Recorded) xrayStart :=
    Keeps.bind (hunobserved.keeps_external fun _ hs => hs) fun _ =>
      Keeps.bind hexternal fun _ => Keeps.pure _
  refine Keeps.bind hstart fun _ => Keeps.bind (Keeps.reads _) fun polls => ?_
  refine Keeps.bind (hready polls) fun ready => Keeps.ite ?_ (Keeps.pure _)
  exact Keeps.bind hestablish fun _ => hsteady.watch n

/-- A kill-switch that is triggered in the course of a run stays as it is: at its end the firewall
is the one over which the last trigger was recorded. -/
def StaysClosed (n : ℕ) (s : Worker) : Prop :=
  ∀ f, (run n s).2.ksManager.triggeredOn = some f → (run n s).2.ksManager.filter = f

/-- If a trigger has been recorded by the time the first teardown tells the watcher to stop, neither
teardown deletes a rule. -/
def Spares (n : ℕ) (s : Worker) : Prop :=
  ∀ s₀ result t₀, prepare s = (.ok (), s₀) → connectBody n s₀ = (result, t₀) →
    t₀.ksManager.afterGap.triggeredOn ≠ none → ¬(Caught result ∧ t₀.Reopens) ∧
      ¬(¬(connectPhase n s).2.CleanupCancelled ∧ (connectPhase n s).2.Reopens)

/-- The kill-switch of a worker that has not run: it is off, and nothing was recorded. -/
def Worker.Unused (s : Worker) : Prop :=
  s.ksManager.state.active = false ∧ s.ksManager.triggeredOn = none

/-- A run that does not get as far as its `try` block records no trigger. -/
theorem unprepared_untriggered {e : Exc} (hclient : s.client = false) (hlog : s.log = [])
    (hunused : s.Unused) (hprepare : prepare s = (.error e, s₀))
    (hended : (run n s).1 ≠ .ok false) : (run n s).2.ksManager.triggeredOn = none := by
  obtain ⟨hloop, hrun⟩ := run_ksManager hclient hlog hended
  have hsame := connectPhase_unprepared (n := n) hprepare
  rw [hrun]
  rcases cleanup_torn hloop with ⟨-, hkept⟩ | ⟨-, -, hquiet⟩
  · rw [hkept, hsame]
    exact hunused.2
  · rw [hquiet.2, hsame]
    rcases KillSwitch.afterGap_triggeredOn s.ksManager with hnone | ⟨-, hactive⟩
    · exact hnone.trans hunused.2
    · exact absurd (hunused.1.symm.trans hactive) (by decide)

theorem staysClosed_iff (hclient : s.client = false) (hlog : s.log = []) (hunused : s.Unused)
    (hended : (run n s).1 ≠ .ok false) : StaysClosed n s ↔ Spares n s := by
  have hrecorded {s₀ t₀ : Worker} {result : Except Exc Bool}
      (hprepare : prepare s = (.ok (), s₀)) (hbody : connectBody n s₀ = (result, t₀)) :
      t₀.ksManager.Recorded := by
    have hsame := prepare_ksManager s
    rw [hprepare] at hsame
    have hbefore : s₀.ksManager.Recorded := by
      intro f hf
      rw [show s₀.ksManager = s.ksManager from hsame, hunused.2] at hf
      cases hf
    have h := (connectBody_recorded n).run hbefore
    rwa [hbody] at h
  constructor
  · intro h s₀ result t₀ hprepare hbody htriggered
    obtain ⟨f, hf⟩ := Option.ne_none_iff_exists'.mp htriggered
    have hfilter : t₀.ksManager.filter = f :=
      (KillSwitch.afterGap_recorded (hrecorded hprepare hbody) f hf).1
    have hclosed := closed_iff hclient hlog hprepare hbody hended
    rcases run_triggeredOn hclient hlog hprepare hbody hended with hlast | ⟨⟨hcaught, hcancelled⟩, -⟩
    · exact hclosed.mp ((h f (hlast.trans hf)).trans hfilter.symm)
    · exact ⟨fun h => hcaught h.1, fun h => h.1 hcancelled⟩
  · intro h f hf
    rcases hprepare : prepare s with ⟨e | u, s₀⟩
    · rw [unprepared_untriggered hclient hlog hunused hprepare hended] at hf
      cases hf
    · rcases hbody : connectBody n s₀ with ⟨result, t₀⟩
      have hgap : t₀.ksManager.afterGap.triggeredOn = some f := by
        rcases run_triggeredOn hclient hlog hprepare hbody hended with hlast | ⟨-, hsame⟩
        · exact hlast.symm.trans hf
        · exact KillSwitch.afterGap_some (hrecorded hprepare hbody) (hsame.symm.trans hf)
      have hspared := h s₀ result t₀ hprepare hbody (by simp [hgap])
      have hclosed := closed_iff hclient hlog hprepare hbody hended
      exact (hclosed.mpr hspared).trans
        (KillSwitch.afterGap_recorded (hrecorded hprepare hbody) f hgap).1

end Runs

end Bimarz.Gui
