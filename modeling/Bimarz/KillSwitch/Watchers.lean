import Bimarz.KillSwitch.Coherence
import Mathlib.Data.Set.Subsingleton

/-!
# One watcher, and how it ends

1. `Pointed`: a watcher that has not cleared the pointer is the one it points to, so at most one
   watcher is in its loop (`one_watcher_polls`).
2. `covered_iff`: when a successful start leaves a watcher that nobody has told to stop.
3. `never_silent_iff`: when a watcher leaves its loop only on request or with a recorded trigger.
   It has no say any more once `stop_process_watcher` has returned `True`.
-/

namespace Bimarz.KillSwitch

open Effect

namespace Phase

variable {ph : Phase}

theorem inLoop_of_watches (h : ph.watches = true) : ph.inLoop = true := by
  cases ph <;> first | rfl | cases h

theorem holdsPointer_of_inLoop (h : ph.inLoop = true) : ph.holdsPointer = true := by
  cases ph <;> first | rfl | cases h

theorem holdsPointer_of_watches (h : ph.watches = true) : ph.holdsPointer = true :=
  holdsPointer_of_inLoop (inLoop_of_watches h)

theorem isAlive_of_holdsPointer (h : ph.holdsPointer = true) : ph.isAlive = true := by
  cases ph <;> first | rfl | cases h

end Phase

/-- The turns of a thread: its steps, and those of the calls that it makes. -/
def Turn.isOf (t : Thread) : Turn → Prop
  | .call t' _ _ | .resume t' _ => t' = t
  | .watch w _ => .watcher w = t

namespace Threads

theorem Breaks.watches {w : ℕ} {s : Threads} (h : s.Breaks w) :
    (s.watcher w).watches = true := by
  rcases h with hunprintable | ⟨hwaiting, -⟩
  · rw [hunprintable]
    rfl
  · rw [hwaiting]
    rfl

/-! ## The pointer -/

/-- The pointer is that of the one watcher that has not cleared it, a join ends with the thread,
and the numbers of the watchers are those below `started`. -/
structure Pointed (s : Threads) : Prop where
  pointer : ∀ w, (s.watcher w).holdsPointer = true → s.watcherThread = some w
  joined : ∀ t w next, s.calls t = .dropping w next → ∃ exit, s.watcher w = .ended exit
  born : ∀ w, s.watcher w = .unborn ↔ s.started ≤ w

theorem pointed_init : init.Pointed where
  pointer _ h := by cases h
  joined _ _ _ h := by cases h
  born _ := iff_of_true rfl (Nat.zero_le _)

namespace Pointed

variable {s : Threads}

/-- Two watchers that have not cleared the pointer are one. -/
theorem unique (h : s.Pointed) {v w : ℕ} (hv : (s.watcher v).holdsPointer = true)
    (hw : (s.watcher w).holdsPointer = true) : v = w :=
  Option.some.inj ((h.pointer v hv).symm.trans (h.pointer w hw))

theorem watcherAlive (h : s.Pointed) {w : ℕ} (hw : (s.watcher w).holdsPointer = true) :
    s.watcherAlive = true := by
  unfold Threads.watcherAlive
  rw [h.pointer w hw]
  exact Phase.isAlive_of_holdsPointer hw

theorem setCall (h : s.Pointed) {t : Thread} {pc : Pc}
    (hpc : ∀ w next, pc = .dropping w next → ∃ exit, s.watcher w = .ended exit) :
    (s.setCall t pc).Pointed := by
  refine ⟨h.pointer, fun t' w next ht' => ?_, h.born⟩
  by_cases heq : t' = t
  · subst heq
    rw [setCall_self] at ht'
    exact hpc w next ht'
  · rw [setCall_of_ne s pc heq] at ht'
    exact h.joined t' w next ht'

theorem finish (h : s.Pointed) (t : Thread) (outcome : Outcome) : (s.finish t outcome).Pointed := by
  refine h.setCall fun w next hpc => ?_
  cases hpc

/-- A live watcher goes on in its code. -/
theorem setPhase (h : s.Pointed) {w : ℕ} {ph : Phase} (halive : (s.watcher w).isAlive = true)
    (hph : ph.holdsPointer = true → (s.watcher w).holdsPointer = true) (hborn : ph ≠ .unborn) :
    (s.setPhase w ph).Pointed := by
  refine ⟨fun v hv => ?_, fun t v next ht => ?_, fun v => ?_⟩
  · by_cases heq : v = w
    · subst heq
      rw [setPhase_self] at hv
      exact h.pointer v (hph hv)
    · rw [setPhase_of_ne s ph heq] at hv
      exact h.pointer v hv
  · obtain ⟨exit, hexit⟩ := h.joined t v next ht
    have hne : v ≠ w := by
      rintro rfl
      rw [hexit] at halive
      cases halive
    exact ⟨exit, (setPhase_of_ne s ph hne).trans hexit⟩
  · by_cases heq : v = w
    · subst heq
      rw [setPhase_self, show (s.setPhase v ph).started = s.started from rfl, ← h.born v]
      refine iff_of_false hborn fun hunborn => ?_
      rw [hunborn] at halive
      cases halive
    · rw [setPhase_of_ne s ph heq]
      exact h.born v

theorem setPhase_holding (h : s.Pointed) {w : ℕ} {ph : Phase}
    (hholds : (s.watcher w).holdsPointer = true) (hborn : ph ≠ .unborn) :
    (s.setPhase w ph).Pointed :=
  h.setPhase (Phase.isAlive_of_holdsPointer hholds) (fun _ => hholds) hborn

theorem setState (h : s.Pointed) (st : KillSwitchState) : (s.setState st).Pointed :=
  ⟨h.pointer, h.joined, h.born⟩

/-- A new thread takes the pointer over from a thread that has ended. -/
theorem launch (h : s.Pointed) (t : Thread) (intervalSeconds : ℚ) (starts : Bool)
    (hdead : s.watcherAlive = false) : (s.launch t intervalSeconds starts).Pointed := by
  have hnew : ∀ v, v ≠ s.started → (s.launch t intervalSeconds starts).watcher v = s.watcher v :=
    fun v hv => Function.update_of_ne hv _ _
  have hstarted : Pointed { s with
      state := s.state.watched
      watcherThread := some s.started
      stopEvent := false
      started := s.started + 1
      watcher := Function.update s.watcher s.started (if starts then .checking else .unstarted)
      interval := Function.update s.interval s.started intervalSeconds
      asked := false } := by
    refine ⟨fun v hv => ?_, fun t' v next ht' => ?_, fun v => ?_⟩
    · by_cases heq : v = s.started
      · rw [heq]
      · have hv' : (s.watcher v).holdsPointer = true := hnew v heq ▸ hv
        exact absurd (h.watcherAlive hv') (by simp [hdead])
    · obtain ⟨exit, hexit⟩ := h.joined t' v next ht'
      have hne : v ≠ s.started := by
        rintro rfl
        rw [(h.born s.started).mpr le_rfl] at hexit
        cases hexit
      exact ⟨exit, (hnew v hne).trans hexit⟩
    · show Function.update s.watcher s.started _ v = .unborn ↔ s.started + 1 ≤ v
      by_cases heq : v = s.started
      · subst heq
        rw [Function.update_self]
        refine iff_of_false ?_ (by omega)
        cases starts <;> simp
      · rw [Function.update_of_ne heq, h.born v]
        omega
  exact hstarted.finish t _

end Pointed

theorem pointed_move {s s' : Threads} (h : s.Pointed) (hmove : Move s s') : s'.Pointed := by
  cases hmove with
  | stay => exact h
  | advance t pc hpc => exact h.setCall hpc.joined
  | activate t interface xrayUid kernel hcall =>
    have hwritten : Pointed { s with
        state := .activated kernel interface xrayUid, activated := some interface } :=
      ⟨h.pointer, h.joined, h.born⟩
    exact hwritten.finish t _
  | launch t intervalSeconds starts hdead hdied => exact h.launch t intervalSeconds starts hdead
  | request t next hnext =>
    have hset : Pointed { s with stopEvent := true, asked := true } :=
      ⟨h.pointer, h.joined, h.born⟩
    exact hset.setCall fun _ _ hpc => by cases hpc
  | drop t w next hcall =>
    obtain ⟨exit, hexit⟩ := h.joined t w next hcall
    have hdropped : Pointed { s with
        watcherThread := if s.watcherThread = some w then none else s.watcherThread } := by
      refine ⟨fun v hv => ?_, h.joined, h.born⟩
      have hne : s.watcherThread ≠ some w := fun hw => by
        obtain rfl : v = w := Option.some.inj ((h.pointer v hv).symm.trans hw)
        change (s.watcher v).holdsPointer = true at hv
        rw [hexit] at hv
        cases hv
      exact (if_neg hne).trans (h.pointer v hv)
    exact hdropped.setCall fun _ _ hpc => by cases hpc
  | mark t next hcall =>
    refine (h.setState s.state.unwatched).setCall fun _ _ hpc => ?_
    cases next <;> cases hpc
  | write t current hcall => exact (h.setState current.deactivated).finish t _
  | proceed w ph hw hph =>
    refine h.setPhase_holding (Phase.holdsPointer_of_watches hw) ?_
    rintro rfl
    cases hph
  | leave w exit hw hwhy =>
    exact h.setPhase_holding (Phase.holdsPointer_of_watches hw) (by simp)
  | crash w hw => exact h.setPhase_holding (Phase.holdsPointer_of_watches hw.watches) (by simp)
  | trigger w failure hw hstop hactive =>
    exact (h.setState _).setPhase_holding (by rw [setState_watcher, hw]; rfl) (by simp)
  | signal w failure hw =>
    have hset : Pointed { s with stopEvent := true } := ⟨h.pointer, h.joined, h.born⟩
    exact hset.setPhase_holding (by rw [hw]; rfl) (by simp)
  | unwatch w exit hw =>
    exact (h.setState _).setPhase_holding (by rw [setState_watcher, hw]; rfl) (by simp)
  | clear w exit hw =>
    -- the watcher lets go of the pointer and clears it in one step
    have hends : (s.setPhase w (.ending exit)).Pointed :=
      h.setPhase_holding (by rw [hw]; rfl) (by simp)
    obtain ⟨hpointer, hjoined, hborn⟩ := hends
    refine ⟨fun v hv => ?_, hjoined, hborn⟩
    have hne : v ≠ w := by
      rintro rfl
      change ((s.setPhase v (.ending exit)).watcher v).holdsPointer = true at hv
      rw [setPhase_self] at hv
      cases hv
    have hv' : s.watcherThread = some v := hpointer v hv
    exact (if_neg (by rw [hv']; simpa using hne)).trans hv'
  | vanish w exit hw =>
    exact h.setPhase (by rw [hw]; rfl) (by simp [Phase.holdsPointer, Phase.inLoop, Phase.watches])
      (by simp)

theorem pointed_run (turns : List Turn) : (run turns).Pointed :=
  runAll_invariant (fun s turn h => pointed_move h (s.step_move turn)) pointed_init turns

/-- **One watcher.** After every run, at most one watcher thread is inside its polling loop. -/
theorem one_watcher_polls (turns : List Turn) :
    Set.Subsingleton {w | ((run turns).watcher w).inLoop = true} := fun _ hv _ hw =>
  (pointed_run turns).unique (Phase.holdsPointer_of_inLoop hv) (Phase.holdsPointer_of_inLoop hw)

/-! ## A successful start -/

/-- There is a live watcher that `stop_process_watcher` has not told to stop. -/
def Covered (s : Threads) : Prop :=
  ∃ w, s.watcherThread = some w ∧ (s.watcher w).isAlive = true ∧ s.asked = false

/-- **A start that returns covers** exactly when it does not meet a live watcher which has been
told to stop: the shortcut for a second start asks only whether the thread is alive. -/
theorem covered_iff (turns : List Turn) (t : Thread) (intervalSeconds : ℚ) (ok : Bool)
    (hmay : (run turns).mayCall t = true) (hidle : ((run turns).calls t).isIdle = true)
    (hreturned : ((run turns).step (.call t (.startProcessWatcher intervalSeconds) ok)).calls t =
      .idle (some .returned)) :
    ((run turns).step (.call t (.startProcessWatcher intervalSeconds) ok)).Covered ↔
      ¬((run turns).watcherAlive = true ∧ (run turns).asked = true) := by
  generalize run turns = s at hmay hidle hreturned ⊢
  have hbegun : s.step (.call t (.startProcessWatcher intervalSeconds) ok) =
      s.begin t ok (.startProcessWatcher intervalSeconds) := if_pos ⟨hmay, hidle⟩
  rw [hbegun] at hreturned ⊢
  rcases s.begin_start t ok intervalSeconds with ⟨outcome, hends, hfound⟩ | ⟨hdead, -, hlaunched⟩
  · rw [hends] at hreturned ⊢
    rw [finish_self] at hreturned
    have halive : s.watcherAlive = true := hfound (Option.some.inj (Pc.idle.inj hreturned))
    constructor
    · rintro ⟨w, -, -, hasked⟩ ⟨-, hasked'⟩
      change s.asked = false at hasked
      rw [hasked'] at hasked
      cases hasked
    · intro h
      have hasked : s.asked = false := by simpa [halive] using h
      unfold watcherAlive at halive
      split at halive
      · cases halive
      · next w hw => exact ⟨w, hw, halive, hasked⟩
  · rw [hlaunched] at hreturned ⊢
    refine iff_of_true ⟨s.started, rfl, ?_, rfl⟩ fun h => ?_
    · cases ok with
      | true =>
        have hnew : (s.launch t intervalSeconds true).watcher s.started = .checking :=
          Function.update_self _ _ _
        rw [hnew]
        rfl
      | false =>
        rw [launch, finish_self] at hreturned
        cases hreturned
    · rw [hdead] at h
      cases h.1

/-- A stop that gives up on the watcher leaves it alive, with its pointer and with the stop event
set: the next start returns, and nothing watches. -/
theorem start_uncovered :
    ¬∀ (turns : List Turn) (t : Thread) (intervalSeconds : ℚ) (ok : Bool),
      (run turns).mayCall t = true → ((run turns).calls t).isIdle = true →
      ((run turns).step (.call t (.startProcessWatcher intervalSeconds) ok)).calls t =
        .idle (some .returned) →
      ((run turns).step (.call t (.startProcessWatcher intervalSeconds) ok)).Covered := by
  intro h
  let start : Turn := .call (.caller 0) (.startProcessWatcher 1) true
  have hcovered := h [start, .call (.caller 0) .stopProcessWatcher true,
    .resume (.caller 0) true, .resume (.caller 0) false] (.caller 0) 1 true
    (by decide) (by decide) (by decide)
  obtain ⟨w, -, -, hasked⟩ := hcovered
  exact absurd hasked (by decide)

/-- The first start of a watcher. -/
theorem covered_first :
    ((run []).step (.call (.caller 0) (.startProcessWatcher 1) true)).Covered :=
  (covered_iff [] (.caller 0) 1 true (by decide) (by decide) (by decide)).mpr (by decide)

/-! ## The end of a watcher -/

/-- A stop is requested: the stop event stands set by `stop_process_watcher`, or a `deactivate`
that has set it has come to its last section. -/
def StopRequested (s : Threads) : Prop :=
  s.asked = true ∨ ∃ t current, s.calls t = .writing current

/-- The watcher `w` has recorded the trigger for `failure` and is still in its loop. -/
def Recorded (w : ℕ) (failure : Failure) (s : Threads) : Prop :=
  s.watcher w = .signalling failure ∧ s.state.triggered = true ∧
    s.state.watcherState = .processDied ∧ s.state.triggerReason = some failure.reason

/-- What the steps `ks` from `s₀` have done to a watcher which was started then. -/
structure Watched (w : ℕ) (s₀ : Threads) (ks : List Turn) (s : Threads) : Prop where
  pointed : s.Pointed
  born : w < s.started
  stop : (s.watcher w).watches = true → s.stopEvent = true → s.asked = true
  off : (s.watcher w).watches = true → s.state.active = false →
    Once step (fun s => (s.watcher w).inLoop = true ∧ s.StopRequested) s₀ ks
  signals : ∀ failure, s.watcher w = .signalling failure → Once step (Recorded w failure) s₀ ks
  exit : ∀ exit, (s.watcher w).exit? = some exit →
    Once step (fun s => (s.watcher w).inLoop = true ∧ s.StopRequested) s₀ ks ∨
      ∃ failure, exit = some failure ∧ Once step (Recorded w failure) s₀ ks

namespace Watched

variable {w : ℕ} {s₀ s s' : Threads} {ks : List Turn} {k : Turn}

/-- A turn of another thread. -/
theorem of_eq (h : Watched w s₀ ks s) (hpointed : s'.Pointed) (hborn : w < s'.started)
    (hw : s'.watcher w = s.watcher w)
    (hstop : (s.watcher w).watches = true → s'.stopEvent = true → s'.asked = true)
    (hoff : (s.watcher w).watches = true → s'.state.active = false →
      Once step (fun s => (s.watcher w).inLoop = true ∧ s.StopRequested) s₀ (ks ++ [k])) :
    Watched w s₀ (ks ++ [k]) s' where
  pointed := hpointed
  born := hborn
  stop := hw ▸ hstop
  off := hw ▸ hoff
  signals failure hsignals := (h.signals failure (hw ▸ hsignals)).append [k]
  exit exit hexit := by
    rcases h.exit exit (hw ▸ hexit) with hasked | ⟨failure, rfl, hrecorded⟩
    · exact Or.inl (hasked.append [k])
    · exact Or.inr ⟨failure, rfl, hrecorded.append [k]⟩

/-- The watcher is out of its loop, for a reason that `exit` of the invariant names. -/
theorem of_exit (hpointed : s'.Pointed) (hborn : w < s'.started) {exit : Option Failure}
    (hexit : (s'.watcher w).exit? = some exit)
    (hwhy : Once step (fun s => (s.watcher w).inLoop = true ∧ s.StopRequested) s₀ (ks ++ [k]) ∨
      ∃ failure, exit = some failure ∧ Once step (Recorded w failure) s₀ (ks ++ [k])) :
    Watched w s₀ (ks ++ [k]) s' := by
  have hwatches : (s'.watcher w).watches ≠ true := by
    cases h : s'.watcher w <;> simp [h, Phase.exit?, Phase.watches] at hexit ⊢
  refine ⟨hpointed, hborn, fun h => absurd h hwatches, fun h => absurd h hwatches,
    fun failure h => ?_, fun exit' h => ?_⟩
  · rw [h] at hexit
    cases hexit
  · obtain rfl : exit = exit' := Option.some.inj (hexit.symm.trans h)
    exact hwhy

/-- A watcher goes on after its loop. -/
theorem of_after (h : Watched w s₀ ks s) (hpointed : s'.Pointed) (hborn : w < s'.started)
    {v : ℕ} {ph : Phase} (hwatcher : s'.watcher = (s.setPhase v ph).watcher)
    {exit : Option Failure} (hexit : (s.watcher v).exit? = some exit)
    (hexit' : ph.exit? = some exit)
    (hstop : (s.watcher w).watches = true → s'.stopEvent = true → s'.asked = true)
    (hoff : (s.watcher w).watches = true → s'.state.active = false →
      Once step (fun s => (s.watcher w).inLoop = true ∧ s.StopRequested) s₀ (ks ++ [k])) :
    Watched w s₀ (ks ++ [k]) s' := by
  by_cases heq : w = v
  · subst heq
    have hleft : (s'.watcher w).exit? = some exit := by rw [hwatcher, setPhase_self, hexit']
    refine of_exit hpointed hborn hleft ?_
    rcases h.exit exit hexit with hasked | ⟨failure, rfl, hrecorded⟩
    · exact Or.inl (hasked.append [k])
    · exact Or.inr ⟨failure, rfl, hrecorded.append [k]⟩
  · exact h.of_eq hpointed hborn (by rw [hwatcher, setPhase_of_ne s ph heq]) hstop hoff

end Watched

/-- One turn more, before which the watcher is not about to break. -/
theorem watched_move {w : ℕ} {s₀ s s' : Threads} {ks : List Turn} {k : Turn}
    (hs : runAll step s₀ ks = s) (hs' : runAll step s₀ (ks ++ [k]) = s')
    (h : Watched w s₀ ks s) (hwhole : ¬s.Breaks w) (hmove : Move s s') :
    Watched w s₀ (ks ++ [k]) s' := by
  have hpointed := pointed_move h.pointed hmove
  have hoff := fun hwatches hactive => (h.off hwatches hactive).append [k]
  cases hmove with
  | stay => exact h.of_eq hpointed h.born rfl h.stop hoff
  | advance t pc hpc => exact h.of_eq hpointed h.born rfl h.stop hoff
  | activate t interface xrayUid kernel hcall =>
    exact h.of_eq hpointed h.born rfl h.stop nofun
  | launch t intervalSeconds starts hdead hdied =>
    refine h.of_eq hpointed (Nat.lt_succ_of_lt h.born) ?_ nofun hoff
    exact Function.update_of_ne h.born.ne _ _
  | request t next hnext => exact h.of_eq hpointed h.born rfl (fun _ _ => rfl) hoff
  | drop t v next hcall => exact h.of_eq hpointed h.born rfl h.stop hoff
  | mark t next hcall =>
    refine h.of_eq hpointed h.born rfl h.stop fun hwatches hactive => hoff hwatches ?_
    exact s.state.unwatched_active.symm.trans hactive
  | write t current hcall =>
    refine h.of_eq hpointed h.born rfl h.stop fun hwatches _ => Once.append (Once.last ?_) [k]
    rw [hs]
    exact ⟨Phase.inLoop_of_watches hwatches, Or.inr ⟨t, current, hcall⟩⟩
  | proceed v ph hv hph =>
    by_cases heq : w = v
    · subst heq
      refine ⟨hpointed, h.born, fun _ => h.stop hv, fun _ => hoff hv, ?_, ?_⟩
      · intro failure hsignals
        rw [setPhase_self] at hsignals
        rw [hsignals] at hph
        cases hph
      · intro exit hexit
        rw [setPhase_self] at hexit
        cases ph <;> simp [Phase.exit?, Phase.watches] at hexit hph
    · exact h.of_eq hpointed h.born (setPhase_of_ne s ph heq) h.stop hoff
  | leave v exit hv hwhy =>
    by_cases heq : w = v
    · subst heq
      refine Watched.of_exit hpointed h.born (by rw [setPhase_self]; rfl) (Or.inl ?_)
      rcases hwhy with hstop | ⟨hactive, -⟩
      · refine Once.append (Once.last ?_) [k]
        rw [hs]
        exact ⟨Phase.inLoop_of_watches hv, Or.inl (h.stop hv hstop)⟩
      · exact hoff hv hactive
    · exact h.of_eq hpointed h.born (setPhase_of_ne s _ heq) h.stop hoff
  | crash v hv =>
    have hne : w ≠ v := fun heq => hwhole (heq ▸ hv)
    exact h.of_eq hpointed h.born (setPhase_of_ne s _ hne) h.stop hoff
  | trigger v failure hv hstop hactive =>
    by_cases heq : w = v
    · subst heq
      refine ⟨hpointed, h.born, fun hwatches => ?_, fun hwatches => ?_, ?_, ?_⟩
      · rw [setPhase_self] at hwatches
        cases hwatches
      · rw [setPhase_self] at hwatches
        cases hwatches
      · intro failure' hsignals
        rw [setPhase_self] at hsignals
        cases hsignals
        refine Once.last ?_
        rw [hs']
        exact ⟨setPhase_self _ w _, rfl, rfl, rfl⟩
      · intro exit hexit
        rw [setPhase_self] at hexit
        cases hexit
    · exact h.of_eq hpointed h.born (setPhase_of_ne _ _ heq) h.stop nofun
  | signal v failure hv =>
    by_cases heq : w = v
    · subst heq
      refine Watched.of_exit hpointed h.born (by rw [setPhase_self]; rfl) (Or.inr ?_)
      exact ⟨failure, rfl, (h.signals failure hv).append [k]⟩
    · refine h.of_eq hpointed h.born (setPhase_of_ne _ _ heq) (fun hwatches _ => ?_) hoff
      -- only one watcher holds the pointer
      refine absurd (h.pointed.unique (Phase.holdsPointer_of_watches hwatches) ?_) heq
      rw [hv]
      rfl
  | unwatch v exit hv =>
    refine h.of_after hpointed h.born (v := v) rfl (by rw [hv]; rfl) rfl h.stop
      fun hwatches hactive => hoff hwatches ?_
    exact s.state.unwatched_active.symm.trans hactive
  | clear v exit hv =>
    exact h.of_after hpointed h.born (v := v) rfl (by rw [hv]; rfl) rfl h.stop hoff
  | vanish v exit hv =>
    exact h.of_after hpointed h.born (v := v) rfl (by rw [hv]; rfl) rfl h.stop hoff

/-- A watcher that is started while the kill-switch is active. -/
theorem watched_launch {s : Threads} (hpointed : s.Pointed) (hactive : s.state.active = true)
    {t : Thread} {intervalSeconds : ℚ} {starts : Bool} (hdead : s.watcherAlive = false) :
    Watched s.started (s.launch t intervalSeconds starts) []
      (s.launch t intervalSeconds starts) where
  pointed := hpointed.launch t intervalSeconds starts hdead
  born := Nat.lt_succ_self _
  stop _ h := by cases h
  off _ h := by
    change s.state.active = false at h
    rw [hactive] at h
    cases h
  signals failure h := by
    cases starts <;> simp [launch, finish, setCall] at h
  exit exit h := by
    cases starts <;> simp [launch, finish, setCall, Phase.exit?] at h

/-! ## After a stop -/

/-- A watcher does not take the pointer again. -/
theorem holdsPointer_move {s s' : Threads} (hmove : Move s s') {w : ℕ} (hborn : w < s.started)
    (h : (s'.watcher w).holdsPointer = true) : (s.watcher w).holdsPointer = true := by
  have hset : ∀ {v : ℕ} {ph : Phase}, (s.watcher v).holdsPointer = true →
      ((s.setPhase v ph).watcher w).holdsPointer = true →
      (s.watcher w).holdsPointer = true := by
    intro v ph hv hw
    by_cases heq : w = v
    · exact heq ▸ hv
    · rwa [setPhase_of_ne s ph heq] at hw
  cases hmove with
  | launch t intervalSeconds starts hdead hdied =>
    rwa [show (s.launch t intervalSeconds starts).watcher w = s.watcher w from
      Function.update_of_ne hborn.ne _ _] at h
  | proceed v ph hv hph => exact hset (Phase.holdsPointer_of_watches hv) h
  | leave v exit hv hwhy => exact hset (Phase.holdsPointer_of_watches hv) h
  | crash v hv => exact hset (Phase.holdsPointer_of_watches hv.watches) h
  | trigger v failure hv hstop hactive => exact hset (by rw [hv]; rfl) h
  | signal v failure hv => exact hset (by rw [hv]; rfl) h
  | unwatch v exit hv => exact hset (by rw [hv]; rfl) h
  | clear v exit hv => exact hset (by rw [hv]; rfl) h
  | vanish v exit hv =>
    by_cases heq : w = v
    · subst heq
      rw [setPhase_self] at h
      cases h
    · rwa [setPhase_of_ne s _ heq] at h
  | _ => exact h

theorem started_move {s s' : Threads} (hmove : Move s s') : s.started ≤ s'.started := by
  cases hmove with
  | launch t intervalSeconds starts hdead hdied => exact Nat.le_succ _
  | _ => exact le_rfl

/-- None of the first `n` watchers holds the pointer. -/
def Released (n : ℕ) (s : Threads) : Prop := ∀ w < n, (s.watcher w).holdsPointer ≠ true

/-- How far a `stop_process_watcher` of `t` has come with the first `n` watchers. -/
structure Stopping (t : Thread) (n : ℕ) (s : Threads) : Prop where
  pointed : s.Pointed
  born : n ≤ s.started
  place : s.calls t = .reading none ∨
    (∃ v, s.calls t = .joining v none ∧
      ∀ w < n, (s.watcher w).holdsPointer = true → w = v) ∨
    (∃ last, s.calls t = .idle last ∧ last ≠ some (.returnedBool true)) ∨ s.Released n

theorem Released.move {n : ℕ} {s s' : Threads} (h : s.Released n) (hmove : Move s s')
    (hborn : n ≤ s.started) : s'.Released n := fun w hw hholds =>
  h w hw (holdsPointer_move hmove (by omega) hholds)

section Calls

variable (s : Threads) {t t' : Thread}

theorem begin_calls_of_ne (ok : Bool) (request : Request) (h : t' ≠ t) :
    (s.begin t ok request).calls t' = s.calls t' := by
  cases request with
  | activate interface xrayUid =>
    rcases s.begin_activate t ok interface xrayUid with ⟨outcome, hends⟩ | hgoes
    · rw [hends]
      exact s.finish_of_ne outcome h
    · rw [hgoes]
      exact s.setCall_of_ne _ h
  | deactivate => exact s.setCall_of_ne _ h
  | startProcessWatcher intervalSeconds =>
    rcases s.begin_start t ok intervalSeconds with ⟨outcome, hends, -⟩ | ⟨-, -, hlaunched⟩
    · rw [hends]
      exact s.finish_of_ne outcome h
    · rw [hlaunched]
      exact finish_of_ne _ _ h
  | stopProcessWatcher => exact setCall_of_ne _ _ h

theorem join_calls_of_ne (ok : Bool) (w : ℕ) (next : Option KillSwitchState) (h : t' ≠ t) :
    (s.join t ok w next).calls t' = s.calls t' := by
  unfold join
  split
  · exact s.setCall_of_ne _ h
  · exact s.setCall_of_ne _ h
  · split
    · rfl
    · exact s.setCall_of_ne _ h

theorem resume_calls_of_ne (ok : Bool) (h : t' ≠ t) :
    (s.resume t ok).calls t' = s.calls t' := by
  unfold resume
  cases s.calls t with
  | idle last => rfl
  | activating interface xrayUid => exact setCall_of_ne _ _ h
  | removing current =>
    dsimp only
    split <;> exact s.setCall_of_ne _ h
  | requesting next => exact setCall_of_ne _ _ h
  | reading next =>
    dsimp only
    split
    · exact s.setCall_of_ne _ h
    · split <;> exact s.setCall_of_ne _ h
  | joining w next => exact s.join_calls_of_ne ok w next h
  | dropping w next => exact setCall_of_ne _ _ h
  | marking next => exact setCall_of_ne _ _ h
  | writing current => exact setCall_of_ne _ _ h

/-- What a turn of a watcher writes. -/
theorem watch_writes (w : ℕ) (poll : Poll) : ∃ st thread event ph, s.watch w poll =
    { s with
      state := st
      watcherThread := thread
      stopEvent := event
      watcher := Function.update s.watcher w ph } := by
  have hstays : ∃ st thread event ph, s = { s with
      state := st
      watcherThread := thread
      stopEvent := event
      watcher := Function.update s.watcher w ph } :=
    ⟨s.state, s.watcherThread, s.stopEvent, s.watcher w, by rw [Function.update_eq_self]⟩
  unfold watch
  cases s.watcher w with
  | unborn => exact hstays
  | unstarted => exact hstays
  | ended exit => exact hstays
  | polling =>
    dsimp only
    split
    · cases poll <;> exact ⟨_, _, _, _, rfl⟩
    · exact hstays
  | triggering failure =>
    dsimp only
    split
    · exact ⟨_, _, _, _, rfl⟩
    · split <;> exact ⟨_, _, _, _, rfl⟩
  | waiting =>
    dsimp only
    split
    · exact ⟨_, _, _, _, rfl⟩
    · split <;> exact ⟨_, _, _, _, rfl⟩
  | _ => exact ⟨_, _, _, _, rfl⟩

theorem watch_calls (w : ℕ) (poll : Poll) : (s.watch w poll).calls = s.calls := by
  obtain ⟨_, _, _, _, h⟩ := s.watch_writes w poll
  rw [h]

theorem watch_asked (w : ℕ) (poll : Poll) : (s.watch w poll).asked = s.asked := by
  obtain ⟨_, _, _, _, h⟩ := s.watch_writes w poll
  rw [h]

/-- A turn of a watcher moves that one only. -/
theorem watch_watcher_of_ne {v w : ℕ} (poll : Poll) (h : w ≠ v) :
    (s.watch v poll).watcher w = s.watcher w := by
  obtain ⟨_, _, _, ph, hwrites⟩ := s.watch_writes v poll
  rw [hwrites]
  exact Function.update_of_ne h ph s.watcher

/-- A turn of another thread leaves a call where it is. -/
theorem step_calls_of_ne {turn : Turn} (hcall : ∀ request ok, turn ≠ .call t request ok)
    (hresume : ∀ ok, turn ≠ .resume t ok) : (s.step turn).calls t = s.calls t := by
  cases turn with
  | call t' request ok =>
    have hne : t ≠ t' := by
      rintro rfl
      exact hcall request ok rfl
    unfold step
    dsimp only
    split
    · exact s.begin_calls_of_ne ok request hne
    · rfl
  | resume t' ok =>
    have hne : t ≠ t' := by
      rintro rfl
      exact hresume ok rfl
    unfold step
    dsimp only
    split
    · exact s.resume_calls_of_ne ok hne
    · rfl
  | watch w poll => exact congrFun (s.watch_calls w poll) t

theorem step_calls_of_other {turn : Turn} (h : ¬turn.isOf t) :
    (s.step turn).calls t = s.calls t := by
  refine s.step_calls_of_ne ?_ ?_
  · rintro request ok rfl
    exact h rfl
  · rintro ok rfl
    exact h rfl

theorem runAll_calls_of_other {turns : List Turn} (h : ∀ turn ∈ turns, ¬turn.isOf t) :
    (runAll step s turns).calls t = s.calls t :=
  List.foldlRecOn turns step (motive := fun s' => s'.calls t = s.calls t) rfl
    fun s' hs' turn hmem => (s'.step_calls_of_other (h turn hmem)).trans hs'

end Calls

/-- The next step of the call, from a place before the watchers are known to be gone. -/
theorem stopping_resume {s : Threads} {t : Thread} {n : ℕ} (ok : Bool) (h : s.Stopping t n) :
    ((s.resume t ok).calls t = .reading none ∨
      (∃ v, (s.resume t ok).calls t = .joining v none ∧
        ∀ w < n, ((s.resume t ok).watcher w).holdsPointer = true → w = v) ∨
      (∃ last, (s.resume t ok).calls t = .idle last ∧ last ≠ some (.returnedBool true)) ∨
      (s.resume t ok).Released n) := by
  rcases h.place with hreading | ⟨v, hjoining, hv⟩ | ⟨last, hidle, hlast⟩ | hreleased
  · unfold resume
    rw [hreading]
    dsimp only
    split
    · next hnone =>
      refine Or.inr (Or.inr (Or.inr fun w _ hw => ?_))
      have := h.pointed.pointer w hw
      rw [hnone] at this
      cases this
    · next v hsome =>
      split
      · exact Or.inr (Or.inr (Or.inl ⟨_, s.setCall_self t _, by simp⟩))
      · refine Or.inr (Or.inl ⟨v, s.setCall_self t _, fun w _ hw => ?_⟩)
        exact Option.some.inj ((h.pointed.pointer w hw).symm.trans hsome)
  · unfold resume
    rw [hjoining]
    unfold join
    dsimp only
    split
    · exact Or.inr (Or.inr (Or.inl ⟨_, s.setCall_self t _, by simp⟩))
    · next exit hended =>
      refine Or.inr (Or.inr (Or.inr fun w hw hholds => ?_))
      obtain rfl : w = v := hv w hw hholds
      rw [setCall_watcher, hended] at hholds
      cases hholds
    · split
      · exact Or.inr (Or.inl ⟨v, hjoining, hv⟩)
      · exact Or.inr (Or.inr (Or.inl ⟨_, s.setCall_self t _, by simp⟩))
  · refine Or.inr (Or.inr (Or.inl ⟨last, ?_, hlast⟩))
    rw [resume, hidle]
    exact hidle
  · exact Or.inr (Or.inr (Or.inr (hreleased.move (s.resume_move t ok) h.born)))

theorem stopping_step {s : Threads} {t : Thread} {n : ℕ} {turn : Turn} (h : s.Stopping t n)
    (hcall : ∀ request ok, turn ≠ .call t request ok) : (s.step turn).Stopping t n := by
  have hmove := s.step_move turn
  refine ⟨pointed_move h.pointed hmove, h.born.trans (started_move hmove), ?_⟩
  by_cases hresume : ∃ ok, turn = .resume t ok
  · obtain ⟨ok, rfl⟩ := hresume
    unfold step
    dsimp only
    split
    · exact stopping_resume ok h
    · exact h.place
  · have hcalls : (s.step turn).calls t = s.calls t :=
      s.step_calls_of_ne hcall fun ok heq => hresume ⟨ok, heq⟩
    rw [hcalls]
    rcases h.place with hreading | ⟨v, hjoining, hv⟩ | hidle | hreleased
    · exact Or.inl hreading
    · refine Or.inr (Or.inl ⟨v, hjoining, fun w hw hholds => hv w hw ?_⟩)
      exact holdsPointer_move hmove (hw.trans_le h.born) hholds
    · exact Or.inr (Or.inr (Or.inl hidle))
    · exact Or.inr (Or.inr (Or.inr (hreleased.move hmove h.born)))

/-- The call has returned `True`, so the watchers that it found are gone. -/
theorem Stopping.released {s : Threads} {t : Thread} {n : ℕ} (h : s.Stopping t n)
    (hreturned : s.calls t = .idle (some (.returnedBool true))) : s.Released n := by
  rcases h.place with hreading | ⟨v, hjoining, -⟩ | ⟨last, hidle, hlast⟩ | hreleased
  · rw [hreturned] at hreading
    cases hreading
  · rw [hreturned] at hjoining
    cases hjoining
  · rw [hreturned] at hidle
    exact absurd (Pc.idle.inj hidle).symm hlast
  · exact hreleased

theorem released_run {s : Threads} {n : ℕ} (hborn : n ≤ s.started) (h : s.Released n)
    (turns : List Turn) : (runAll step s turns).Released n := by
  have hstep (s : Threads) (turn : Turn) (h : n ≤ s.started ∧ s.Released n) :
      n ≤ (s.step turn).started ∧ (s.step turn).Released n :=
    ⟨h.1.trans (started_move (s.step_move turn)), h.2.move (s.step_move turn) h.1⟩
  exact (runAll_invariant hstep ⟨hborn, h⟩ turns).2

theorem run_append (turns turns' : List Turn) :
    run (turns ++ turns') = runAll step (run turns) turns' := runAll_append step init turns turns'

/-- A watcher that has cleared the pointer does not write the state any more. -/
theorem step_state_of_released {s : Threads} {w : ℕ} (h : (s.watcher w).holdsPointer ≠ true)
    {turn : Turn} (hturn : turn.isOf (.watcher w)) : (s.step turn).state = s.state := by
  have hmay : s.mayCall (.watcher w) ≠ true := by
    intro hmay
    have hpolling : s.watcher w = .polling := by simpa [mayCall] using hmay
    rw [hpolling] at h
    exact h rfl
  cases turn with
  | call t request ok =>
    obtain rfl : t = .watcher w := hturn
    unfold step
    exact congrArg Threads.state (if_neg fun h => hmay h.1)
  | resume t ok =>
    obtain rfl : t = .watcher w := hturn
    unfold step
    exact congrArg Threads.state (if_neg hmay)
  | watch v poll =>
    obtain rfl : v = w := Thread.watcher.inj hturn
    show (s.watch v poll).state = s.state
    unfold watch
    cases hv : s.watcher v with
    | unborn => rfl
    | unstarted => rfl
    | ended exit => rfl
    | clearing exit =>
      rw [hv] at h
      exact absurd rfl h
    | ending exit => rfl
    | _ =>
      rw [hv] at h
      exact absurd rfl h

/-! ## When a watcher never dies silently -/

section Frame

variable {s : Threads} {w : ℕ}

theorem begin_watcher (hborn : w < s.started) (t : Thread) (ok : Bool) (request : Request) :
    (s.begin t ok request).watcher w = s.watcher w := by
  cases request with
  | activate interface xrayUid =>
    rcases s.begin_activate t ok interface xrayUid with ⟨outcome, hends⟩ | hgoes
    · rw [hends]
      rfl
    · rw [hgoes]
      rfl
  | deactivate => rfl
  | startProcessWatcher intervalSeconds =>
    rcases s.begin_start t ok intervalSeconds with ⟨outcome, hends, -⟩ | ⟨-, -, hlaunched⟩
    · rw [hends]
      rfl
    · rw [hlaunched]
      exact Function.update_of_ne hborn.ne _ _
  | stopProcessWatcher => rfl

theorem resume_watcher (t : Thread) (ok : Bool) : (s.resume t ok).watcher = s.watcher := by
  unfold resume
  cases s.calls t with
  | removing current =>
    dsimp only
    split <;> rfl
  | reading next =>
    dsimp only
    split
    · rfl
    · split <;> rfl
  | joining v next =>
    dsimp only
    unfold join
    split
    · rfl
    · rfl
    · split <;> rfl
  | _ => rfl

/-- A turn of another thread leaves a watcher where it is. -/
theorem step_watcher_of_ne (hborn : w < s.started) {turn : Turn}
    (hturn : ∀ poll, turn ≠ .watch w poll) : (s.step turn).watcher w = s.watcher w := by
  cases turn with
  | call t request ok =>
    unfold step
    dsimp only
    split
    · exact begin_watcher hborn t ok request
    · rfl
  | resume t ok =>
    unfold step
    dsimp only
    split
    · exact congrFun (resume_watcher t ok) w
    · rfl
  | watch v poll =>
    have hne : w ≠ v := by
      rintro rfl
      exact hturn poll rfl
    exact s.watch_watcher_of_ne poll hne

theorem interval_move {s' : Threads} (hmove : Move s s') (hborn : w < s.started) :
    s'.interval w = s.interval w := by
  cases hmove with
  | launch t intervalSeconds starts hdead hdied => exact Function.update_of_ne hborn.ne _ _
  | _ => rfl

end Frame

/-- A watcher waits after a poll that returns `True`, and comes to the place before a text that
cannot be made from a poll of that kind. -/
theorem watch_breaks (s : Threads) (w : ℕ) (poll : Poll) :
    ((s.watch w poll).watcher w = .unprintable → poll = .unprintable) ∧
      ((s.watch w poll).watcher w = .waiting → poll = .alive) := by
  unfold watch
  cases hphase : s.watcher w with
  | polling =>
    dsimp only
    split
    · cases poll <;> simp
    · simp [hphase]
  | checking | failed | waiting | triggering =>
    dsimp only
    repeat' split
    all_goals simp
  | _ => simp [hphase]

/-- The watcher `w` has been created with the interval `i`, and its next step does not raise. -/
structure Whole (w : ℕ) (i : ℚ) (s : Threads) : Prop where
  born : w < s.started
  interval : s.interval w = i
  printable : s.watcher w ≠ .unprintable
  short : s.watcher w = .waiting → i ≤ timeoutMax

namespace Whole

variable {w : ℕ} {i : ℚ} {s : Threads}

theorem not_breaks (h : s.Whole w i) : ¬s.Breaks w := by
  rintro (hunprintable | ⟨hwaiting, hlong⟩)
  · exact h.printable hunprintable
  · exact absurd (h.short hwaiting) (Rat.not_le.mpr (h.interval ▸ hlong))

/-- One turn more, in which `poll_fn` does nothing that makes the watcher raise. -/
theorem step (h : s.Whole w i) {turn : Turn}
    (hturn : ∀ poll, turn = .watch w poll →
      poll ≠ .unprintable ∧ (poll = .alive → i ≤ timeoutMax)) : (s.step turn).Whole w i := by
  have hmove := s.step_move turn
  have hborn := h.born.trans_le (started_move hmove)
  have hinterval := (interval_move hmove h.born).trans h.interval
  by_cases hwatch : ∃ poll, turn = .watch w poll
  · obtain ⟨poll, rfl⟩ := hwatch
    obtain ⟨hprintable, hshort⟩ := hturn poll rfl
    obtain ⟨hunprintable, halive⟩ := s.watch_breaks w poll
    exact ⟨hborn, hinterval, fun h' => hprintable (hunprintable h'), fun h' => hshort (halive h')⟩
  · have hsame := step_watcher_of_ne h.born fun poll heq => hwatch ⟨poll, heq⟩
    exact ⟨hborn, hinterval, hsame ▸ h.printable, hsame ▸ h.short⟩

end Whole

/-- Whatever `poll_fn` does of `polls`, and however the threads interleave: when the watcher `w`
has left its loop, a stop was requested while it was in the loop, or it has recorded the trigger
there, with the reason for which it has left. -/
def NeverSilent (w : ℕ) (polls : Poll → Prop) (s₀ : Threads) : Prop :=
  ∀ turns, (∀ poll, .watch w poll ∈ turns → polls poll) →
    ∀ exit, ((runAll step s₀ turns).watcher w).exit? = some exit →
      Once step (fun s => (s.watcher w).inLoop = true ∧ s.StopRequested) s₀ turns ∨
        ∃ failure, exit = some failure ∧ Once step (Recorded w failure) s₀ turns

/-- A watcher that nothing makes raise. -/
theorem neverSilent_of_whole {w : ℕ} {i : ℚ} {polls : Poll → Prop} {s₀ : Threads}
    (hwatched : Watched w s₀ [] s₀) (hwhole : s₀.Whole w i)
    (hshort : polls .alive → i ≤ timeoutMax) (hprintable : ¬polls .unprintable) :
    s₀.NeverSilent w polls := by
  have hrun (turns : List Turn) : (∀ poll, .watch w poll ∈ turns → polls poll) →
      Watched w s₀ turns (runAll step s₀ turns) ∧ (runAll step s₀ turns).Whole w i := by
    refine runAll_history (I := fun turns s => (∀ poll, Turn.watch w poll ∈ turns → polls poll) →
      Watched w s₀ turns s ∧ s.Whole w i) (fun _ => ⟨hwatched, hwhole⟩) ?_ turns
    intro ks k ih hturns
    obtain ⟨hwatched, hwhole⟩ := ih fun poll hmem => hturns poll (List.mem_append_left _ hmem)
    refine ⟨watched_move rfl (runAll_concat step s₀ ks k) hwatched hwhole.not_breaks
      (Threads.step_move _ k), hwhole.step ?_⟩
    rintro poll rfl
    have hpoll := hturns poll (by simp)
    refine ⟨?_, ?_⟩
    · rintro rfl
      exact hprintable hpoll
    · rintro rfl
      exact hshort hpoll
  exact fun turns hturns => (hrun turns hturns).1.exit

/-- The steps of watchers request no stop. -/
theorem not_requested {s₀ : Threads} {w : ℕ} {turns : List Turn} (hasked : s₀.asked = false)
    (hwriting : ¬∃ t current, s₀.calls t = .writing current)
    (hturns : ∀ turn ∈ turns, ∃ poll, turn = .watch w poll) :
    ¬Once step (fun s => (s.watcher w).inLoop = true ∧ s.StopRequested) s₀ turns := by
  rintro ⟨before, after, rfl, -, hrequested⟩
  have hkept : (runAll step s₀ before).asked = false ∧
      (runAll step s₀ before).calls = s₀.calls := by
    refine List.foldlRecOn before step (motive := fun s => s.asked = false ∧ s.calls = s₀.calls)
      ⟨hasked, rfl⟩ fun s h turn hmem => ?_
    obtain ⟨poll, rfl⟩ := hturns turn (List.mem_append_left _ hmem)
    exact ⟨(s.watch_asked w poll).trans h.1, (s.watch_calls w poll).trans h.2⟩
  rcases hrequested with hasked' | ⟨t, current, hpc⟩
  · rw [hkept.1] at hasked'
    cases hasked'
  · rw [hkept.2] at hpc
    exact hwriting ⟨t, current, hpc⟩

/-- A watcher at the head of its loop that breaks in the next round. -/
theorem breaks_at_once {s : Threads} {w : ℕ} {poll : Poll} (hchecking : s.watcher w = .checking)
    (hstop : s.stopEvent = false) (hidle : (s.calls (.watcher w)).isIdle = true)
    (hpoll : poll = .unprintable ∨ poll = .alive ∧ timeoutMax < s.interval w) :
    (runAll step s [.watch w poll, .watch w poll, .watch w poll]).watcher w =
      .finishing none := by
  show (((s.watch w poll).watch w poll).watch w poll).watcher w = _
  have hchecked : s.watch w poll = s.setPhase w .polling := by
    rw [watch.eq_def, hchecking]
    simp [hstop]
  rw [hchecked]
  rcases hpoll with rfl | ⟨rfl, hlong⟩
  · have hpolled : (s.setPhase w .polling).watch w .unprintable =
        (s.setPhase w .polling).setPhase w .unprintable := by
      rw [watch.eq_def, setPhase_self]
      exact if_pos hidle
    rw [hpolled, watch.eq_def, setPhase_self]
    exact setPhase_self _ w _
  · have hpolled : (s.setPhase w .polling).watch w .alive =
        (s.setPhase w .polling).setPhase w .waiting := by
      rw [watch.eq_def, setPhase_self]
      exact if_pos hidle
    rw [hpolled, watch.eq_def, setPhase_self]
    dsimp only
    rw [if_neg (by simp [setPhase, hstop])]
    have hlong' : timeoutMax < ((s.setPhase w .polling).setPhase w .waiting).interval w := hlong
    rw [if_pos hlong']
    exact setPhase_self _ w _

/-- A watcher that does not exist has called nothing. -/
def UnbornIdle (s : Threads) : Prop :=
  ∀ w, s.started ≤ w → (s.calls (.watcher w)).isIdle = true

theorem unbornIdle_run (turns : List Turn) : (run turns).UnbornIdle := by
  have hstep (s : Threads) (turn : Turn) (h : s.Pointed ∧ s.UnbornIdle) :
      (s.step turn).Pointed ∧ (s.step turn).UnbornIdle := by
    obtain ⟨hpointed, hidle⟩ := h
    refine ⟨pointed_move hpointed (s.step_move turn), fun w hw => ?_⟩
    have hunborn : s.started ≤ w := (started_move (s.step_move turn)).trans hw
    have hmay : s.mayCall (.watcher w) ≠ true := by
      simp [mayCall, (hpointed.born w).mpr hunborn]
    by_cases hof : turn.isOf (.watcher w)
    · cases turn with
      | call t request ok =>
        obtain rfl : t = .watcher w := hof
        rw [step, if_neg fun h => hmay h.1]
        exact hidle w hunborn
      | resume t ok =>
        obtain rfl : t = .watcher w := hof
        rw [step, if_neg hmay]
        exact hidle w hunborn
      | watch v poll =>
        rw [step, watch_calls]
        exact hidle w hunborn
    · rw [s.step_calls_of_other hof]
      exact hidle w hunborn
  exact (runAll_invariant hstep ⟨pointed_init, fun _ _ => rfl⟩ turns).2

/-- A start that creates a watcher does nothing else. -/
theorem step_launch {s : Threads} {t : Thread} {intervalSeconds : ℚ} {ok : Bool}
    (hborn : s.started < (s.step (.call t (.startProcessWatcher intervalSeconds) ok)).started) :
    s.watcherAlive = false ∧ (s.calls t).isIdle = true ∧
      s.step (.call t (.startProcessWatcher intervalSeconds) ok) =
        s.launch t intervalSeconds ok := by
  unfold step at hborn ⊢
  dsimp only at hborn ⊢
  split at hborn
  · next hmay =>
    rw [if_pos hmay]
    rcases s.begin_start t ok intervalSeconds with ⟨outcome, hends, -⟩ | ⟨hdead, -, hlaunched⟩
    · rw [hends] at hborn
      exact absurd hborn (lt_irrefl _)
    · exact ⟨hdead, hmay.2, hlaunched⟩
  · exact absurd hborn (lt_irrefl _)

section Launch

variable {s : Threads} {t : Thread} {intervalSeconds : ℚ}

theorem launch_checking :
    (s.launch t intervalSeconds true).watcher s.started = .checking := Function.update_self _ _ _

theorem launch_interval :
    (s.launch t intervalSeconds true).interval s.started = intervalSeconds :=
  Function.update_self _ _ _

theorem launch_calls_of_ne {t' : Thread} (hne : t' ≠ t) :
    (s.launch t intervalSeconds true).calls t' = s.calls t' := Function.update_of_ne hne _ _

/-- A poll that makes the watcher raise in its first round. -/
theorem silent_launch {polls : Poll → Prop} {poll : Poll} (hunborn : s.UnbornIdle)
    (hallowed : polls poll)
    (hpoll : poll = .unprintable ∨ poll = .alive ∧ timeoutMax < intervalSeconds)
    (hwriting : ¬∃ t current, s.calls t = .writing current) :
    ¬(s.launch t intervalSeconds true).NeverSilent s.started polls := by
  intro hnever
  have hidle : ((s.launch t intervalSeconds true).calls (.watcher s.started)).isIdle = true := by
    by_cases heq : Thread.watcher s.started = t
    · rw [heq, launch, finish_self]
      rfl
    · rw [launch_calls_of_ne heq]
      exact hunborn s.started le_rfl
  have hbreaks : poll = .unprintable ∨ poll = .alive ∧
      timeoutMax < (s.launch t intervalSeconds true).interval s.started := by
    rwa [launch_interval]
  have hleft := breaks_at_once launch_checking rfl hidle hbreaks
  have hwriting' : ¬∃ t' current,
      (s.launch t intervalSeconds true).calls t' = .writing current := by
    rintro ⟨t', current, hpc⟩
    by_cases heq : t' = t
    · rw [heq, launch, finish_self] at hpc
      cases hpc
    · rw [launch_calls_of_ne heq] at hpc
      exact hwriting ⟨t', current, hpc⟩
  have hturns : ∀ poll', Turn.watch s.started poll' ∈ [.watch s.started poll,
      .watch s.started poll, .watch s.started poll] → polls poll' := by
    simpa using hallowed
  rcases hnever _ hturns none (by rw [hleft]; rfl) with hasked | ⟨failure, hexit, -⟩
  · exact not_requested rfl hwriting' (by simp) hasked
  · cases hexit

end Launch

/-- A watcher that is started while the kill-switch is active leaves silently exactly if its
`poll_fn` can make it raise, unless a `deactivate` is about to write. -/
theorem neverSilent_launch_iff {s : Threads} {t : Thread} (intervalSeconds : ℚ)
    (polls : Poll → Prop) (hpointed : s.Pointed) (hunborn : s.UnbornIdle)
    (hactive : s.state.active = true) (hdead : s.watcherAlive = false)
    (hidle : (s.calls t).isIdle = true) :
    (s.launch t intervalSeconds true).NeverSilent s.started polls ↔
      ((polls .alive → intervalSeconds ≤ timeoutMax) ∧ ¬polls .unprintable) ∨
        ∃ t current, s.calls t = .writing current := by
  constructor
  · intro hnever
    by_contra hnot
    obtain ⟨hraises, hwriting⟩ := not_or.mp hnot
    by_cases hunprintable : polls .unprintable
    · exact silent_launch hunborn hunprintable (Or.inl rfl) hwriting hnever
    · have halive : ¬(polls .alive → intervalSeconds ≤ timeoutMax) := fun h =>
        hraises ⟨h, hunprintable⟩
      obtain ⟨halive, hlong⟩ := Classical.not_imp.mp halive
      exact silent_launch hunborn halive (Or.inr ⟨rfl, Rat.not_le.mp hlong⟩) hwriting hnever
  · rintro (⟨hshort, hprintable⟩ | ⟨t', current, hpc⟩)
    · refine neverSilent_of_whole (watched_launch hpointed hactive hdead)
        ⟨Nat.lt_succ_self _, launch_interval, ?_, ?_⟩ hshort hprintable
      · rw [launch_checking]
        simp
      · rw [launch_checking]
        simp
    · have hne : t' ≠ t := by
        rintro rfl
        rw [hpc] at hidle
        cases hidle
      refine fun turns _ exit _ => Or.inl (Once.first ⟨by rw [launch_checking]; rfl, Or.inr ?_⟩)
      exact ⟨t', current, (launch_calls_of_ne hne).trans hpc⟩

/-- **When a watcher never dies silently.** Take one that a start creates while the kill-switch is
active. It leaves its loop only on request or with a recorded trigger exactly when its waits are
not too long, as long as `poll_fn` may return `True`, and no exception of `poll_fn` is without a
text; or when another thread's `deactivate` has only its last section to do. And once a
`stop_process_watcher` has returned `True`, no turn of a watcher that was there when it looked for
one changes the state. -/
theorem never_silent_iff (turns₁ turns₂ turns₃ : List Turn) :
    (∀ (t : Thread) (intervalSeconds : ℚ) (polls : Poll → Prop),
      let w := (run turns₁).started
      let s₀ := (run turns₁).step (.call t (.startProcessWatcher intervalSeconds) true)
      (run turns₁).state.active = true → w < s₀.started →
      (s₀.NeverSilent w polls ↔
        ((polls .alive → intervalSeconds ≤ timeoutMax) ∧ ¬polls .unprintable) ∨
          ∃ t current, (run turns₁).calls t = .writing current)) ∧
    ∀ t w, (run turns₁).calls t = .reading none → w < (run turns₁).started →
      (∀ request ok, .call t request ok ∉ turns₂) →
      (run (turns₁ ++ turns₂)).calls t = .idle (some (.returnedBool true)) →
      ∀ turn : Turn, turn.isOf (.watcher w) →
        ((run (turns₁ ++ turns₂ ++ turns₃)).step turn).state =
          (run (turns₁ ++ turns₂ ++ turns₃)).state := by
  constructor
  · intro t intervalSeconds polls w s₀ hactive hborn
    obtain ⟨hdead, hidle, hlaunched⟩ := step_launch hborn
    show ((run turns₁).step (.call t (.startProcessWatcher intervalSeconds) true)).NeverSilent
      (run turns₁).started polls ↔ _
    rw [hlaunched]
    exact neverSilent_launch_iff intervalSeconds polls (pointed_run turns₁)
      (unbornIdle_run turns₁) hactive hdead hidle
  · intro t w hreading hborn hcall hreturned turn hturn
    have hstopping : (run turns₁).Stopping t (run turns₁).started :=
      ⟨pointed_run turns₁, le_rfl, Or.inl hreading⟩
    have hstopped : (run (turns₁ ++ turns₂)).Stopping t (run turns₁).started := by
      rw [run_append]
      refine List.foldlRecOn turns₂ step hstopping fun s h turn hmem => stopping_step h ?_
      rintro request ok rfl
      exact hcall request ok hmem
    have hafter := released_run hstopped.born (hstopped.released hreturned) turns₃
    rw [← run_append] at hafter
    exact step_state_of_released (hafter w hborn) hturn

/-- A watcher leaves silently when its interval is too long for `Event.wait`: the wait raises in
the first round, and nothing is recorded. -/
theorem left_silently :
    ¬∀ (turns₁ : List Turn) (t : Thread) (intervalSeconds : ℚ) (polls : Poll → Prop),
      (run turns₁).state.active = true →
      (run turns₁).started <
        ((run turns₁).step (.call t (.startProcessWatcher intervalSeconds) true)).started →
      ((run turns₁).step (.call t (.startProcessWatcher intervalSeconds) true)).NeverSilent
        (run turns₁).started polls := by
  intro h
  let active : List Turn :=
    [.call (.caller 0) (.activate "eth0" none) true, .resume (.caller 0) true]
  let start : Turn := .call (.caller 0) (.startProcessWatcher 10000000000) true
  have hbroken : (runAll step (run (active ++ [start]))
      [.watch 0 .alive, .watch 0 .alive, .watch 0 .alive]).watcher 0 = .finishing none :=
    breaks_at_once rfl rfl rfl (Or.inr ⟨rfl, by decide +kernel⟩)
  have hnever := h active (.caller 0) 10000000000 (· = .alive) (by decide) (by decide)
    [.watch 0 .alive, .watch 0 .alive, .watch 0 .alive] (by simp) none (congrArg Phase.exit? hbroken)
  rcases hnever with hasked | ⟨failure, hexit, -⟩
  · refine not_requested (w := 0) rfl ?_ (by simp) hasked
    rintro ⟨t, current, hpc⟩
    by_cases heq : t = .caller 0
    · subst heq
      have hidle : (run (active ++ [start])).calls (.caller 0) = .idle (some .returned) := rfl
      exact absurd (hidle.symm.trans hpc) (by simp)
    · have hidle : (run (active ++ [start])).calls t = .idle none :=
        runAll_calls_of_other init (by simpa [active, start, Turn.isOf] using Ne.symm heq)
      exact absurd (hidle.symm.trans hpc) (by simp)
  · cases hexit

/-- A watcher whose poll fails leaves with a trigger, and one that is stopped has no further
say. -/
theorem never_silent_first :
    let active : List Turn :=
      [.call (.caller 0) (.activate "eth0" none) true, .resume (.caller 0) true]
    let start : Turn := .call (.caller 0) (.startProcessWatcher 1) true
    let stop : Turn := .call (.caller 0) .stopProcessWatcher true
    let stopped : List Turn := [.watch 0 .alive, .watch 0 .alive, .watch 0 .alive,
      .watch 0 .alive, .resume (.caller 0) true, .resume (.caller 0) true]
    ((run active).step start).NeverSilent 0 (· ≠ .unprintable) ∧
    ((run (active ++ [start, stop] ++ stopped ++ [])).step (.watch 0 .alive)).state =
      (run (active ++ [start, stop] ++ stopped ++ [])).state :=
  ⟨((never_silent_iff [.call (.caller 0) (.activate "eth0" none) true,
      .resume (.caller 0) true] [] []).1 (.caller 0) 1 (· ≠ .unprintable) (by decide)
      (by decide)).mpr (Or.inl ⟨fun _ => by decide +kernel, fun h => h rfl⟩),
    (never_silent_iff _ _ _).2 (.caller 0) 0 (by decide) (by decide) (by simp) (by decide) _ rfl⟩

end Threads

end Bimarz.KillSwitch
