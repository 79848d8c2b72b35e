import Bimarz.Gui.Connecting

/-!
# Disconnecting in the GUI

`_cleanup` begins with a burst of the event loop. A cancellation that a `stop` has posted while
the loop was not driven waits for just that burst, and `CancelledError` is no `Exception`: it leaves
`_cleanup` before anything is released. `disconnect_released_iff` says that this is the only way in
which `run` ends with something unreleased.
-/

namespace Bimarz.Gui

open Effect Effect.Act

/-! ## What is released -/

/-- What a run has acquired, it has tried to release. -/
def Released (log : List Item) : Prop :=
  Paired log .xrayStarted .xrayStop ∧ Paired log .activated .deactivate ∧
    Paired log .runtimeCreated .runtimeCleanup

/-- A `stop` comes while the removal of the outbound is awaited, or the close of the client, which
is not reached if the removal times out. -/
def Cancels (moments : Stream' Moment) : Prop :=
  moments.head.stop = true ∨ moments.head.fate ≠ .expires ∧ moments.tail.head.stop = true

/-- A cancellation reaches the burst of `_cleanup`: one that waits at its beginning, or one that
comes while the burst awaits. -/
def Worker.CleanupCancelled (s : Worker) : Prop :=
  s.client = true ∧ (s.pending = true ∨ s.stops.head = true ∨ Cancels s.moments)

/-! ## The burst -/

section Burst

variable {moments : Stream' Moment}

/-- Within a burst, while no cancellation is on its way. -/
def Quiet (moments : Stream' Moment) (s : Worker) : Prop :=
  s.pending = false ∧ s.expired = false ∧ s.loop = .running ∧ s.moments = moments

/-- The awaited call returns or raises. -/
def Passed (moment : Moment) : Prop := moment.stop = false ∧ moment.fate ≠ .expires

/-- The awaited call is cancelled, by its timeout or by a `stop`. -/
def Interrupted (moment : Moment) (e : Exc) (s : Worker) : Prop :=
  e = .cancelled ∧ ¬Passed moment ∧ (s.expired = true ↔ moment.stop = false)

theorem await_quiet (moment : Moment) {effect : Worker → Worker}
    (heffect : ∀ s, Quiet moments s → Quiet moments (effect s))
    (hexpired : ∀ s, (effect s).expired = s.expired) :
    Triple (Quiet moments) (await moment effect) (fun _ s => Passed moment ∧ Quiet moments s)
      (fun e s => (e.isException = true ∧ Passed moment ∧ Quiet moments s) ∨
        Interrupted moment e s) := by
  intro s hs
  obtain ⟨hpending, hcalm, hloop, -⟩ := id hs
  have hposted : (s.stopIf moment.stop).pending = moment.stop := by
    cases moment.stop with
    | false => exact hpending
    | true => simp [Worker.stopIf, Worker.stop, hloop]
  rcases await_cases moment effect s with ⟨hstop, hrun⟩ | ⟨hstop, hcases⟩
  · rw [hrun]
    have hnot : ((s.stopIf moment.stop).cancelled moment effect).expired = false :=
      (expired_cancelled moment hexpired).trans ((expired_stopIf moment.stop s).trans hcalm)
    rw [hposted] at hstop
    refine Or.inr ⟨rfl, fun h => ?_, iff_of_false (fun h => ?_) fun h => ?_⟩
    · exact Bool.false_ne_true (h.1.symm.trans hstop)
    · exact Bool.false_ne_true (hnot.symm.trans h)
    · exact Bool.false_ne_true (h.symm.trans hstop)
  · rw [hposted] at hstop
    rw [hstop] at hcases
    rcases hcases with ⟨hfate, hrun⟩ | ⟨kind, message, hfate, hrun⟩ | ⟨hfate, hrun⟩ <;> rw [hrun]
    · exact ⟨⟨hstop, by simp [hfate]⟩, heffect s hs⟩
    · exact Or.inl ⟨rfl, ⟨hstop, by simp [hfate]⟩, hs⟩
    · exact Or.inr ⟨rfl, fun h => h.2 hfate, iff_of_true rfl hstop⟩

/-- How `_async_cleanup` fails: with an `Exception`, or cancelled, by a `stop` or a timeout. -/
def CleanupFailed (moments : Stream' Moment) (e : Exc) (s : Worker) : Prop :=
  (e.isException = true ∧ ¬Cancels moments) ∨
    e = .cancelled ∧ (s.expired = false ↔ Cancels moments)

theorem not_cancels (h : moments.head.stop = false) (h' : moments.tail.head.stop = false) :
    ¬Cancels moments := by
  rintro (hstop | ⟨-, hstop⟩)
  · exact Bool.false_ne_true (h.symm.trans hstop)
  · exact Bool.false_ne_true (h'.symm.trans hstop)

theorem cleanupFailed_remove {e : Exc} {s : Worker} (h : Interrupted moments.head e s) :
    CleanupFailed moments e s := by
  obtain ⟨rfl, hnot, hiff⟩ := h
  refine Or.inr ⟨rfl, ?_⟩
  cases hstop : moments.head.stop with
  | true =>
    rw [hstop] at hiff
    exact iff_of_true (by simpa using hiff) (Or.inl hstop)
  | false =>
    rw [hstop] at hiff
    refine iff_of_false (by simpa using hiff) ?_
    rintro (hstop' | ⟨hfate, -⟩)
    · exact Bool.false_ne_true (hstop.symm.trans hstop')
    · exact hnot ⟨hstop, hfate⟩

theorem cleanupFailed_close {e : Exc} {s : Worker} (hpassed : Passed moments.head)
    (h : Interrupted moments.tail.head e s) : CleanupFailed moments e s := by
  obtain ⟨rfl, -, hiff⟩ := h
  refine Or.inr ⟨rfl, ?_⟩
  cases hstop : moments.tail.head.stop with
  | true =>
    rw [hstop] at hiff
    exact iff_of_true (by simpa using hiff) (Or.inr ⟨hpassed.2, hstop⟩)
  | false =>
    rw [hstop] at hiff
    exact iff_of_false (by simpa using hiff) (not_cancels hpassed.1 hstop)

theorem asyncCleanup_triple :
    Triple (fun s => s.client = true ∧ Quiet moments s) asyncCleanup
      (fun _ _ => ¬Cancels moments) (CleanupFailed moments) := by
  have hremove : Triple (Quiet moments) (do awaitRemove (← takeMoment) : Work Unit)
      (fun _ s => Passed moments.head ∧ Quiet moments.tail s)
      (fun e s => (e.isException = true ∧ Passed moments.head ∧ Quiet moments.tail s) ∨
        Interrupted moments.head e s) := by
    refine Triple.bind (R := fun moment s => moment = moments.head ∧ Quiet moments.tail s) ?_
      fun moment => ?_
    · rintro s ⟨hpending, hexpired, hloop, rfl⟩
      exact ⟨rfl, hpending, hexpired, hloop, rfl⟩
    · rintro s ⟨rfl, hs⟩
      have hawait : Triple (Quiet moments.tail) (awaitRemove moments.head) _ _ :=
        await_quiet moments.head (fun _ ht => ht) fun _ => rfl
      exact hawait s hs
  have hclose : Triple (fun s => Passed moments.head ∧ Quiet moments.tail s)
      (do await (← takeMoment) id : Work Unit) (fun _ _ => ¬Cancels moments)
      (fun e s => (e.isException = true ∧ ¬Cancels moments) ∨
        Interrupted moments.tail.head e s ∧ Passed moments.head) := by
    refine Triple.bind (R := fun moment s => moment = moments.tail.head ∧ Passed moments.head ∧
      Quiet moments.tail.tail s) ?_ fun moment => ?_
    · rintro s ⟨hpassed, hpending, hexpired, hloop, hmoments⟩
      exact ⟨congrArg Stream'.head hmoments, hpassed, hpending, hexpired, hloop,
        congrArg Stream'.tail hmoments⟩
    · rintro s ⟨rfl, hpassed, hs⟩
      refine ((await_quiet _ (fun _ ht => ht) fun _ => rfl).mono
        (fun _ t ht => not_cancels hpassed.1 ht.1.1) fun e t ht => ?_) s hs
      rcases ht with ⟨he, hclosed, -⟩ | ht
      · exact Or.inl ⟨he, not_cancels hpassed.1 hclosed.1⟩
      · exact Or.inr ⟨ht, hpassed⟩
  refine Triple.withLocal ?_
  refine Triple.bind (R := fun hasClient p => hasClient = true ∧ Quiet moments p.1)
    (fun p hp => ⟨hp.1.1, hp.1.2⟩) fun hasClient => Triple.ite (fun _ => ?_) fun hnot => ?_
  · refine Triple.bind (R := fun _ p => Passed moments.head ∧ Quiet moments.tail p.1) ?_ fun _ => ?_
    · have hset : Triple (fun s => Passed moments.head ∧ Quiet moments.tail s) (setOwned false)
          (fun _ s => Passed moments.head ∧ Quiet moments.tail s) (CleanupFailed moments) :=
        Triple.modify fun _ hs => hs
      intro p hp
      refine Teardown.triple_attempt hremove hset ?_ ?_ p hp.2
      · rintro e s he (⟨-, hs⟩ | ⟨rfl, -⟩)
        · exact hs
        · cases he
      · rintro e s he (⟨hexc, -⟩ | hinterrupted)
        · exact absurd (he.symm.trans hexc) Bool.false_ne_true
        · exact cleanupFailed_remove hinterrupted
    refine Triple.bind (R := fun _ _ => ¬Cancels moments) ?_ fun _ => ?_
    · refine Teardown.triple_attempt (E := CleanupFailed moments) hclose
        (Triple.pure fun _ hs => hs) ?_ ?_
      · rintro e s he (⟨-, hnot⟩ | ⟨⟨rfl, -⟩, -⟩)
        · exact hnot
        · cases he
      · rintro e s he (⟨hexc, -⟩ | ⟨hinterrupted, hpassed⟩)
        · exact absurd (he.symm.trans hexc) Bool.false_ne_true
        · exact cleanupFailed_close hpassed hinterrupted
    refine Triple.bind (R := fun _ _ => ¬Cancels moments) (fun p hp => hp) fun _ => ?_
    refine Triple.bind (R := fun _ _ => ¬Cancels moments) (fun p hp => hp) fun errors => ?_
    exact Triple.ite (fun _ => Triple.raise fun _ hp => Or.inl ⟨rfl, hp⟩) fun _ =>
      Triple.pure fun _ hp => hp
  · exact Triple.pure fun p hp => absurd hp.1 hnot

/-- The burst of `_cleanup`, from the state that `_cleanup` finds. -/
theorem cleanupBurst_triple (s₁ : Worker) (hclient : s₁.client = true)
    (hloop : s₁.loop = .running) :
    Triple (fun s => s = s₁) (runAsyncFn asyncCleanup) (fun _ _ => ¬s₁.CleanupCancelled)
      (fun e _ => (e.isException = true ∧ ¬s₁.CleanupCancelled) ∨
        e = .cancelled ∧ s₁.CleanupCancelled) := by
  have hcancelled : s₁.CleanupCancelled ↔
      s₁.pending = true ∨ s₁.stops.head = true ∨ Cancels s₁.moments := and_iff_right hclient
  have hwait : Triple (fun s => s.client = true ∧ s.pending = false ∧ s.loop = .running ∧
      s.moments = s₁.moments) (waitFor asyncCleanup) (fun _ _ => ¬Cancels s₁.moments)
      (fun e _ => (e.isException = true ∧ ¬Cancels s₁.moments) ∨
        e = .cancelled ∧ Cancels s₁.moments) := by
    refine Triple.bind (R := fun _ s => s.client = true ∧ Quiet s₁.moments s) (Triple.modify ?_)
      fun _ => ?_
    · rintro s ⟨hc, hpending, hl, hmoments⟩
      exact ⟨hc, hpending, rfl, hl, hmoments⟩
    refine Triple.handle asyncCleanup_triple (fun e he => ?_) ?_
    · obtain rfl : e = .cancelled := of_decide_eq_true he
      refine Triple.bind (R := fun isExpired s => isExpired = s.expired ∧
        (s.expired = false ↔ Cancels s₁.moments)) (Triple.reads ?_) fun isExpired => ?_
      · rintro s (⟨hexc, -⟩ | ⟨-, hiff⟩)
        · cases hexc
        · exact ⟨rfl, hiff⟩
      refine Triple.ite (fun hexpired => Triple.raise ?_) fun hexpired => Triple.raise ?_
      · rintro s ⟨rfl, hiff⟩
        exact Or.inl ⟨rfl, fun h => Bool.false_ne_true ((hiff.mpr h).symm.trans hexpired)⟩
      · rintro s ⟨rfl, hiff⟩
        exact Or.inr ⟨rfl, hiff.mp (by simpa using hexpired)⟩
    · rintro e s he (h | ⟨rfl, -⟩)
      · exact Or.inl h
      · cases he
  have hburst : Triple (fun s => s = s₁) (burst asyncCleanup) (fun _ _ => ¬s₁.CleanupCancelled)
      (fun e _ => (e.isException = true ∧ ¬s₁.CleanupCancelled) ∨
        e = .cancelled ∧ s₁.CleanupCancelled) := by
    refine Triple.bind (R := fun _ s => s.client = true ∧ s.loop = .running ∧
      s.moments = s₁.moments ∧ (s.pending = true ↔ s₁.pending = true ∨ s₁.stops.head = true))
      (Triple.modify ?_) fun _ => ?_
    · rintro s rfl
      cases hstop : s.stops.head with
      | false => exact ⟨hclient, hloop, rfl, by simp⟩
      | true => exact ⟨hclient, hloop, rfl, by simp [Worker.stop, hloop]⟩
    rintro s ⟨hc, hl, hmoments, hpending⟩
    rw [reads_bind_apply, ite_run]
    by_cases hwaits : s.pending = true
    · rw [if_pos hwaits]
      exact Or.inr ⟨rfl, hcancelled.mpr ((hpending.mp hwaits).imp_right Or.inl)⟩
    · rw [if_neg hwaits]
      have hnone : ¬(s₁.pending = true ∨ s₁.stops.head = true) := fun h => hwaits (hpending.mpr h)
      have hrest : s₁.CleanupCancelled ↔ Cancels s₁.moments := by
        rw [hcancelled, ← or_assoc, or_iff_right hnone]
      rw [hrest]
      refine Triple.ensure hwait (fun _ _ ht => ht) (fun _ _ ht => ht) s ⟨hc, ?_, hl, hmoments⟩
      simpa using hwaits
  rintro s rfl
  unfold runAsyncFn
  rw [reads_bind_apply, hloop]
  exact hburst s rfl

end Burst

/-! ## The releases -/

section Releases

/-- A release that raises nothing but instances of `Exception`. -/
theorem attempt_triple {P Q : Worker → Prop} (label : String) {release : Work Unit}
    (h : Triple P release (fun _ => Q) (fun e s => e.isException = true ∧ Q s)) :
    Triple (fun p => P p.1) (attempt label release) (fun _ p => Q p.1) (fun _ _ => False) :=
  Teardown.triple_attempt (E := fun _ _ => False) h (Triple.pure fun _ hs => hs) (fun _ _ _ hs => hs.2)
    fun _ _ he hs => absurd (he.symm.trans hs.1) Bool.false_ne_true

/-- What the burst leaves alone. -/
def Worker.rest (s : Worker) : Core × KillSwitch.System := (s.core, s.ksManager)

theorem frames_releaseClient {τ : Type} {v : Worker → τ} (h : Offstage v) :
    Frames (fun p => v p.1) releaseClient := by
  have hlift {α : Type} {m : Work α} (hm : Frames v m) : Frames (fun p => v p.1) (Teardown.lift m) :=
    Teardown.frames_lift hm
  have hremove : Frames v (do awaitRemove (← takeMoment)) :=
    Frames.bind h.takeMoment fun moment => h.await moment fun s => h s _ _ _ _ _ none _ _
  have hclose : Frames v (do await (← takeMoment) id) :=
    Frames.bind h.takeMoment fun moment => h.await moment fun _ => rfl
  have hcleanup : Frames v asyncCleanup := by
    refine Frames.of_keeps fun c => Keeps.withLocal (Frames.keeps_eq ?_ c) _
    refine Frames.bind (hlift (Frames.reads _)) fun hasClient => Frames.ite ?_ (Frames.pure _)
    refine Frames.bind (Teardown.frames_attempt hremove ?_) fun _ => ?_
    · exact Frames.modify fun s => h s _ _ _ _ _ _ false _
    refine Frames.bind (Teardown.frames_attempt hclose (Frames.pure _)) fun _ => ?_
    refine Frames.bind (hlift (Frames.modify fun s => h s _ _ _ _ _ _ false false)) fun _ => ?_
    exact Frames.bind (Frames.reads _) fun errors => Frames.ite (Frames.raise _) (Frames.pure _)
  refine Frames.bind (hlift (Frames.reads _)) fun isOpen => ?_
  refine Frames.ite (Frames.ensure ?_ ?_) (Frames.pure _)
  · exact Teardown.frames_attempt (h.runAsyncFn hcleanup) (Frames.pure _)
  · exact hlift (Frames.modify fun s => h s _ _ _ _ _ _ false false)

theorem offstage_rest : Offstage Worker.rest := fun _ _ _ _ _ _ _ _ _ => rfl

/-- **The first release** returns unless the cancellation reaches it, which leaves `_cleanup`. -/
theorem releaseClient_triple (s₁ : Worker) (hloop : s₁.loop = .running) :
    Triple (fun p => p.1 = s₁) releaseClient
      (fun _ p => ¬s₁.CleanupCancelled ∧ p.1.rest = s₁.rest)
      (fun _ p => s₁.CleanupCancelled ∧ p.1.rest = s₁.rest) := by
  have hcancelled : Triple (fun p => p.1 = s₁) releaseClient
      (fun _ _ => ¬s₁.CleanupCancelled) (fun _ _ => s₁.CleanupCancelled) := by
    refine Triple.bind (R := fun isOpen p => isOpen = s₁.client ∧ p.1 = s₁) ?_
      fun isOpen => Triple.ite (fun hopen => ?_) fun hclosed => ?_
    · rintro ⟨s, errors⟩ rfl
      exact ⟨by simp [show s.loop = .running from hloop], rfl⟩
    · rintro p ⟨rfl, hp⟩
      have hattempt : Triple (fun p => p.1 = s₁)
          (attempt "engine client cleanup failed: " (runAsyncFn asyncCleanup))
          (fun _ _ => ¬s₁.CleanupCancelled) (fun _ _ => s₁.CleanupCancelled) := by
        refine Teardown.triple_attempt (E := fun _ _ => s₁.CleanupCancelled)
          (cleanupBurst_triple s₁ hopen hloop)
          (Triple.pure fun _ hs => hs) ?_ ?_
        · rintro e s he (⟨-, hnot⟩ | ⟨rfl, -⟩)
          · exact hnot
          · cases he
        · rintro e s he (⟨hexc, -⟩ | ⟨-, hcancelled⟩)
          · exact absurd (he.symm.trans hexc) Bool.false_ne_true
          · exact hcancelled
      exact Triple.ensure hattempt (fun _ _ hs => hs) (fun _ _ hs => hs) p hp
    · rintro p ⟨rfl, -⟩ hcancelled
      exact hclosed hcancelled.1
  refine (hcancelled.and ((frames_releaseClient offstage_rest).keeps_eq s₁.rest)).conseq ?_ (fun _ _ hp => hp)
    fun _ _ hp => hp
  rintro p rfl
  exact ⟨rfl, rfl⟩

/-- The process and the runtime directory are released yet to be. -/
def Owed (s : Worker) : Prop :=
  (.xrayStarted ∈ s.log → s.xrayProcess = true) ∧ (.runtimeCreated ∈ s.log → s.runtimeDir = true)

theorem Owed.record {s : Worker} {item : Item} (h : Owed s) (hxray : item ≠ .xrayStarted)
    (hruntime : item ≠ .runtimeCreated) : Owed (s.record item) :=
  ⟨fun hmem => h.1 (of_mem_record hmem hxray), fun hmem => h.2 (of_mem_record hmem hruntime)⟩

theorem apart_owed : Apart Owed where
  unobserved _ _ _ _ _ _ _ _ hs := hs
  ksManager _ _ hs := hs
  activated _ hs := hs.record (by decide) (by decide)
  deactivate _ hs := hs.record (by decide) (by decide)

/-- Only the runtime directory has yet to be released. -/
def RuntimeOwed (s : Worker) : Prop :=
  Paired s.log .xrayStarted .xrayStop ∧ Paired s.log .activated .deactivate ∧
    (.runtimeCreated ∈ s.log → s.runtimeDir = true)

theorem releaseProcess_triple :
    Triple (fun p => Owed p.1 ∧ Paired p.1.log .activated .deactivate) releaseProcess
      (fun _ p => RuntimeOwed p.1) (fun _ _ => False) := by
  have hstop : Triple (fun s => Paired s.log .activated .deactivate ∧
      (.runtimeCreated ∈ s.log → s.runtimeDir = true)) xrayStop (fun _ => RuntimeOwed)
      (fun e s => e.isException = true ∧ RuntimeOwed s) := by
    refine Triple.bind (R := fun _ => RuntimeOwed) (Triple.modify ?_) fun _ => ?_
    · rintro s ⟨hks, hruntime⟩
      exact ⟨fun _ => mem_record_self s _, hks.record (by decide),
        fun hmem => hruntime (of_mem_record hmem (by decide))⟩
    · have howed : Unobserved RuntimeOwed := fun _ _ _ _ _ _ _ _ hs => hs
      exact Triple.bind howed.external_id fun _ => Triple.pure fun _ hs => hs
  refine Triple.bind (R := fun hasProcess p => hasProcess = p.1.xrayProcess ∧ Owed p.1 ∧
    Paired p.1.log .activated .deactivate) (fun p hp => ⟨rfl, hp⟩)
    fun hasProcess => Triple.ite (fun _ => ?_) fun hnone => Triple.pure ?_
  · refine Triple.bind (R := fun _ p => Paired p.1.log .activated .deactivate ∧
      (.runtimeCreated ∈ p.1.log → p.1.runtimeDir = true)) ?_ fun _ => attempt_triple _ hstop
    rintro p ⟨-, howed, hks⟩
    exact ⟨hks, howed.2⟩
  · rintro p ⟨rfl, howed, hks⟩
    exact ⟨fun hmem => absurd (howed.1 hmem) hnone, hks, howed.2⟩

theorem releaseRuntime_triple :
    Triple (fun p => RuntimeOwed p.1) releaseRuntime (fun _ p => Released p.1.log)
      (fun _ _ => False) := by
  have hcleanup : Triple (fun s => Paired s.log .xrayStarted .xrayStop ∧
      Paired s.log .activated .deactivate) cleanupRuntime (fun _ s => Released s.log)
      (fun e s => e.isException = true ∧ Released s.log) := by
    refine Triple.bind (R := fun _ s => Released s.log) (Triple.modify ?_) fun _ => ?_
    · rintro s ⟨hxray, hks⟩
      exact ⟨hxray.record (by decide), hks.record (by decide), fun _ => mem_record_self s _⟩
    · have hreleased : Unobserved fun s => Released s.log := fun _ _ _ _ _ _ _ _ hs => hs
      exact Triple.bind hreleased.external_id fun _ => Triple.pure fun _ hs => hs
  refine Triple.bind (R := fun hasRuntime p => hasRuntime = p.1.runtimeDir ∧ RuntimeOwed p.1)
    (fun p hp => ⟨rfl, hp⟩) fun hasRuntime => Triple.ite (fun _ => ?_) fun hnone => Triple.pure ?_
  · refine Triple.bind (R := fun _ p => Paired p.1.log .xrayStarted .xrayStop ∧
      Paired p.1.log .activated .deactivate) ?_ fun _ => attempt_triple _ hcleanup
    rintro p ⟨-, hxray, hks, -⟩
    exact ⟨hxray, hks⟩
  · rintro p ⟨rfl, hxray, hks, hruntime⟩
    exact ⟨hxray, hks, fun hmem => absurd (hruntime hmem) hnone⟩

/-- **`_cleanup`** releases everything, or it is cancelled and releases nothing. -/
theorem cleanup_triple {s₁ : Worker} (h : s₁.Ended) :
    Triple (fun s => s = s₁) cleanup (fun _ s => ¬s₁.CleanupCancelled ∧ Released s.log)
      (fun _ s => s₁.CleanupCancelled ∧ s.log = s₁.log) := by
  refine Triple.withLocal (Triple.bind ((releaseClient_triple s₁ h.loop).conseq
    (fun _ hp => hp.1) (fun _ _ hp => hp) fun _ p hp =>
      ⟨hp.1, congrArg (fun rest => rest.1.log) hp.2⟩) fun _ => ?_)
  rintro p ⟨hnot, hrest⟩
  have hcore : p.1.core = s₁.core := congrArg Prod.fst hrest
  have hlog : p.1.log = s₁.log := congrArg Core.log hcore
  have howed : Owed p.1 := by
    refine ⟨fun hmem => ?_, fun hmem => ?_⟩
    · exact (congrArg Core.xrayProcess hcore).trans (h.xray (hlog ▸ hmem))
    · exact (congrArg Core.runtimeDir hcore).trans (h.runtime (hlog ▸ hmem))
  have hks : KsTracked p.1 := by
    have hsystem : p.1.ksManager = s₁.ksManager := congrArg Prod.snd hrest
    unfold KsTracked
    rw [hlog, hsystem]
    exact h.killswitch
  have hreleases : Triple (fun p => Owed p.1 ∧ KsTracked p.1)
      (do
        attempt "kill-switch watcher stop failed: " stopWatcher
        attempt "kill-switch deactivate failed: " deactivateIfActive
        releaseProcess
        releaseRuntime : Release Unit)
      (fun _ p => Released p.1.log) (fun _ _ => False) := by
    refine Triple.bind (attempt_triple _ (stopWatcher_triple apart_owed)) fun _ => ?_
    refine Triple.bind (attempt_triple _ (deactivateIfActive_triple apart_owed)) fun _ => ?_
    exact Triple.bind releaseProcess_triple fun _ => releaseRuntime_triple
  exact (hreleases.mono (fun _ _ hp => ⟨hnot, hp⟩) fun _ _ hp => hp.elim)
    p ⟨howed, hks⟩

end Releases

/-! ## Runs -/

section Runs

/-- The end of `run` adds at most its own signal to the log. -/
theorem closeLoop_log (s : Worker) :
    (closeLoop s).2.log = s.log ∨ (closeLoop s).2.log = s.log ++ [.disconnected] := by
  have htick : (tick s).2.log = s.log := by
    show (if s.stops.head then { s.stop with stops := s.stops.tail }
      else { s with stops := s.stops.tail } : Worker).log = s.log
    cases s.stops.head <;> rfl
  have hrun : tick s = (.ok (), (tick s).2) := rfl
  unfold closeLoop
  rw [bind_ok hrun, modify_bind_apply, reads_bind_apply, ite_run, ← htick]
  split
  · exact Or.inr rfl
  · exact Or.inl rfl

theorem released_disconnected (log : List Item) :
    Released (log ++ [.disconnected]) ↔ Released log := by
  simp [Released, Paired]

/-- A run that ends goes through its `finally` block. -/
theorem run_snd {s s₁ : Worker} {n : ℕ} {result : Except Exc Bool}
    (hconnect : connectPhase n s = (.ok result, s₁)) (hended : (run n s).1 ≠ .ok false) :
    (run n s).2 = (closeLoop (cleanup s₁).2).2 := by
  have hrun : run n s = _ := bind_ok hconnect
  rw [hrun] at hended ⊢
  have hfinish := ensure_snd cleanup closeLoop s₁
  rcases result with e | _ | _
  · refine (bind_snd (f := fun _ => if e.isException then (return true) else raise e) ?_ s₁).trans
      hfinish
    intro _ t
    rw [ite_run]
    split <;> rfl
  · exact absurd rfl hended
  · exact (bind_snd (f := fun _ => (return true : Work Bool)) (fun _ _ => rfl) s₁).trans hfinish

theorem finish_released_iff {s₁ : Worker} (h : s₁.Ended) :
    Released (closeLoop (cleanup s₁).2).2.log ↔ ¬s₁.CleanupCancelled := by
  have hclosed : Released (closeLoop (cleanup s₁).2).2.log ↔ Released (cleanup s₁).2.log := by
    rcases closeLoop_log (cleanup s₁).2 with hlog | hlog
    · rw [hlog]
    · rw [hlog]
      exact released_disconnected _
  rw [hclosed]
  have hcleanup := cleanup_triple h s₁ rfl
  rcases hrun : cleanup s₁ with ⟨e | _, s₂⟩ <;> rw [hrun] at hcleanup
  · obtain ⟨hcancelled, hlog⟩ := hcleanup
    refine iff_of_false (fun hreleased => ?_) (not_not.mpr hcancelled)
    exact h.kept (hlog ▸ hreleased.2.2 (hlog ▸ h.client hcancelled.1))
  · exact iff_of_true hcleanup.2 hcleanup.1

/-- **Disconnecting.** Whenever `stop` is called and whatever is raised, a run that ends has tried
to release all it has acquired exactly if no cancellation reaches the burst of its `_cleanup`. -/
theorem disconnect_released_iff {s : Worker} (hclient : s.client = false) (hlog : s.log = [])
    (n : ℕ) (hended : (run n s).1 ≠ .ok false) :
    Released (run n s).2.log ↔ ¬(connectPhase n s).2.CleanupCancelled := by
  have hphase := connectPhase_triple n s ⟨hclient, hlog⟩
  rcases hconnect : connectPhase n s with ⟨e | result, s₁⟩ <;> rw [hconnect] at hphase
  · exact hphase.elim
  rw [run_snd hconnect hended]
  exact finish_released_iff hphase

/-- A `stop` that sets the event while the event loop is not driven posts its cancellation. -/
def Posting (s : Worker) : Prop := s.loop = .running ∧ s.pending = s.stopEvent

theorem posting_shouldStop :
    Triple Posting shouldStop (fun stopped s => Posting s ∧ s.stopEvent = stopped)
      (fun _ => Posting) := by
  refine Triple.bind (R := fun _ => Posting) (Triple.modify fun s hs => ?_) fun _ =>
    Triple.reads fun s hs => ⟨hs, rfl⟩
  cases s.stops.head with
  | false => exact hs
  | true => exact ⟨hs.1, by simp [Worker.stop, hs.1]⟩

theorem watchRound_posting : Triple Posting watchRound
    (fun flow t => match flow with | .next => Posting t | .leave => t.pending = true)
    (fun _ => Posting) := by
  refine Triple.bind posting_shouldStop fun stopped => ?_
  refine Triple.ite (fun hstop => Triple.pure fun t ht => ?_) fun _ => ?_
  · exact ht.1.2.trans (ht.2.trans hstop)
  rintro t ⟨ht, -⟩
  revert t ht
  refine Triple.bind posting_shouldStop fun stopped => ?_
  refine Triple.ite (fun hstop => Triple.pure fun t ht => ?_) fun _ => ?_
  · exact ht.1.2.trans (ht.2.trans hstop)
  have hwatcher : Keeps Posting checkWatcher := by
    refine Keeps.bind (Keeps.reads _) fun enabled => Keeps.ite ?_ (Keeps.pure _)
    refine Keeps.bind (keeps_onKillswitch _ fun _ _ ht => ht) fun _ => ?_
    exact Keeps.bind (Keeps.reads _) fun alive => Keeps.ite (Keeps.pure _) (Keeps.raise _)
  rintro t ⟨ht, -⟩
  exact Triple.bind hwatcher (fun _ => Triple.pure fun _ hu => hu) t ht

/-- **Disconnecting from the watch loop.** Whoever leaves `_simple_watch_loop` leaves a
cancellation behind that waits for the burst of `_cleanup`. -/
theorem watchLoop_pending {s s' : Worker} (h : Posting s) {n : ℕ}
    (hleft : loop n watchRound s = (.ok true, s')) : s'.pending = true :=
  (Triple.loop watchRound_posting n).of_ok h hleft

/-- A worker that asks for the kill-switch, and for which nothing but the engine may fail. -/
def plainWorker (stops : Stream' Bool) (moments : Stream' Moment) : Worker where
  profile := ⟨"a", "", "", .empty, ""⟩
  enableKillswitch := true
  ksManager := .freshWith (.const .runs) (.const true)
  stops
  replies := .const { uid := some 1000 }
  moments
  rounds := .const {}

/-- A run in which the engine cannot be connected. -/
theorem disconnect_released_refused :
    let s := plainWorker (.const false) (.const { fate := .raises .other "unavailable" })
    Released (run 1 s).2.log ↔ ¬(connectPhase 1 s).2.CleanupCancelled :=
  disconnect_released_iff rfl rfl 1 (by decide +kernel)

/-- **Nothing released.** A `stop` in the watch loop posts its cancellation while the event loop
is not driven; the burst of `_cleanup` is the next one, and `CancelledError` leaves `_cleanup`. -/
theorem disconnect_unreleased :
    ¬∀ (s : Worker) (n : ℕ), s.client = false → s.log = [] → (run n s).1 ≠ .ok false →
      Released (run n s).2.log := by
  intro h
  have hrun : (run 10 (plainWorker (fun k => k == 13) (.const {}))).1 ≠ .ok false ∧
      .xrayStarted ∈ (run 10 (plainWorker (fun k => k == 13) (.const {}))).2.log ∧
      .xrayStop ∉ (run 10 (plainWorker (fun k => k == 13) (.const {}))).2.log := by
    decide +kernel
  obtain ⟨hended, hstarted, hstop⟩ := hrun
  exact hstop ((h _ 10 rfl rfl hended).1 hstarted)

end Runs

end Bimarz.Gui
