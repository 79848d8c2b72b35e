import Bimarz.KillSwitch.Watchers

/-!
# A trigger while the kill-switch is being deactivated

`deactivate` reads the state, works without the lock and writes the fields that it has read.
`trigger_kept_iff` says which interleavings with the watchers lose a trigger by that.
-/

namespace Bimarz.KillSwitch

open Effect

/-- The steps of the watchers and of the call that `t` makes. -/
def Turn.inWindow (t : Thread) : Turn → Prop
  | .call _ _ _ => False
  | .resume t' _ => t' = t
  | .watch _ _ => True

namespace Threads

/-! ## One trigger -/

/-- A watcher that has not recorded a trigger watches a kill-switch that has none. -/
structure Untriggered (s : Threads) : Prop where
  pointed : s.Pointed
  untriggered : ∀ w, (s.watcher w).watches = true → s.state.active = true →
    s.state.triggered = false

theorem untriggered_move {s s' : Threads} (h : s.Untriggered) (hmove : Move s s') :
    s'.Untriggered := by
  refine ⟨pointed_move h.pointed hmove, ?_⟩
  have hset (v : ℕ) (ph : Phase) (hv : (s.watcher v).watches = true ∨ ph.watches = false) (w : ℕ)
      (hw : ((s.setPhase v ph).watcher w).watches = true) :
      s.state.active = true → s.state.triggered = false := by
    by_cases heq : w = v
    · subst heq
      rw [setPhase_self] at hw
      rcases hv with hv | hv
      · exact h.untriggered w hv
      · simp [hv] at hw
    · rw [setPhase_of_ne s ph heq] at hw
      exact h.untriggered w hw
  cases hmove with
  | activate t interface xrayUid kernel hcall => exact fun _ _ _ => rfl
  | launch t intervalSeconds starts hdead hdied => exact fun _ _ _ => rfl
  | mark t next hcall => simpa [setCall, setState] using h.untriggered
  | write t current hcall => exact fun _ _ hactive => by cases hactive
  | proceed v ph hv hph => exact hset v _ (Or.inl hv)
  | leave v exit hv hwhy => exact hset v _ (Or.inr rfl)
  | crash v hv => exact hset v _ (Or.inr rfl)
  | trigger v failure hv hstop hactive =>
    intro w hw
    have hne : w ≠ v := by
      rintro rfl
      rw [setPhase_self] at hw
      cases hw
    -- only one watcher holds the pointer
    rw [setPhase_of_ne _ _ hne] at hw
    refine absurd (h.pointed.unique (Phase.holdsPointer_of_watches hw) ?_) hne
    rw [hv]
    rfl
  | signal v failure hv => exact hset v _ (Or.inr rfl)
  | unwatch v exit hv =>
    have := hset v (.clearing exit) (Or.inr rfl)
    simpa [setState, setPhase] using this
  | clear v exit hv => exact hset v _ (Or.inr rfl)
  | vanish v exit hv => exact hset v _ (Or.inr rfl)
  | _ => exact h.untriggered

theorem untriggered_run (turns : List Turn) : (run turns).Untriggered :=
  runAll_invariant (fun s turn h => untriggered_move h (s.step_move turn))
    ⟨pointed_init, nofun⟩ turns

/-! ## One deactivation -/

/-- The `deactivate` of `t` has read `current`, or it has ended. -/
def Deactivating (t : Thread) (current : KillSwitchState) (s : Threads) : Prop :=
  (s.calls t).isIdle = true ∨ (s.calls t).snapshot = some current

/-- What a turn does to a trigger while `t` deactivates. -/
inductive Effected (t : Thread) (current : KillSwitchState) (s s' : Threads) : Prop
  | keeps : s'.state.triggered = s.state.triggered →
    s'.state.triggerReason = s.state.triggerReason → s'.state.active = s.state.active →
    Effected t current s s'
  | records : s.state.active = true → s.state.triggered = false → Effected t current s s'
  | writes : s.calls t = .writing current → s'.state = current.deactivated →
    (s'.calls t).isIdle = true → Effected t current s s'

namespace Effected

variable {t : Thread} {current : KillSwitchState} {s s' : Threads}

theorem of_eq (h : s'.state = s.state) : Effected t current s s' :=
  .keeps (by rw [h]) (by rw [h]) (by rw [h])

theorem of_unwatched (h : s'.state = s.state.unwatched) : Effected t current s s' :=
  .keeps (by simp [h]) (by simp [h]) (by simp [h])

end Effected

section Window

variable {t : Thread} {current : KillSwitchState} {s : Threads}

theorem deactivating_setCall {pc : Pc} (hpc : pc.isIdle = true ∨ pc.snapshot = some current) :
    (s.setCall t pc).Deactivating t current := by
  simpa [Deactivating] using hpc

theorem deactivating_stopped (value : Bool) {next : Option KillSwitchState}
    (hnext : next = some current) :
    (Pc.stopped value next).isIdle = true ∨ (Pc.stopped value next).snapshot = some current := by
  subst hnext
  cases value with
  | false => exact Or.inl rfl
  | true => exact Or.inr rfl

/-- A step of the call. -/
theorem resume_effected (ok : Bool) (h : s.Deactivating t current) :
    (s.resume t ok).Deactivating t current ∧ Effected t current s (s.resume t ok) := by
  unfold Deactivating at h
  unfold resume
  cases hpc : s.calls t with
  | idle last => exact ⟨Or.inl (by rw [hpc]; rfl), .of_eq rfl⟩
  | activating interface xrayUid => simp [hpc, Pc.isIdle, Pc.snapshot] at h
  | removing read =>
    obtain rfl : read = current := by simpa [hpc, Pc.isIdle, Pc.snapshot] using h
    dsimp only
    split
    · exact ⟨deactivating_setCall (Or.inl rfl), .of_eq rfl⟩
    · exact ⟨deactivating_setCall (Or.inr rfl), .of_eq rfl⟩
  | requesting next =>
    have hnext : next = some current := by simpa [hpc, Pc.isIdle, Pc.snapshot] using h
    exact ⟨deactivating_setCall (Or.inr hnext), .of_eq rfl⟩
  | reading next =>
    have hnext : next = some current := by simpa [hpc, Pc.isIdle, Pc.snapshot] using h
    dsimp only
    split
    · exact ⟨deactivating_setCall (Or.inr hnext), .of_eq rfl⟩
    · split
      · exact ⟨deactivating_setCall (deactivating_stopped false hnext), .of_eq rfl⟩
      · exact ⟨deactivating_setCall (Or.inr hnext), .of_eq rfl⟩
  | joining w next =>
    have hnext : next = some current := by simpa [hpc, Pc.isIdle, Pc.snapshot] using h
    dsimp only
    unfold join
    split
    · exact ⟨deactivating_setCall (Or.inl rfl), .of_eq rfl⟩
    · exact ⟨deactivating_setCall (Or.inr hnext), .of_eq rfl⟩
    · split
      · exact ⟨Or.inr (by rw [hpc]; exact hnext), .of_eq rfl⟩
      · exact ⟨deactivating_setCall (deactivating_stopped false hnext), .of_eq rfl⟩
  | dropping w next =>
    have hnext : next = some current := by simpa [hpc, Pc.isIdle, Pc.snapshot] using h
    exact ⟨deactivating_setCall (Or.inr hnext), .of_eq rfl⟩
  | marking next =>
    have hnext : next = some current := by simpa [hpc, Pc.isIdle, Pc.snapshot] using h
    exact ⟨deactivating_setCall (deactivating_stopped true hnext), .of_unwatched rfl⟩
  | writing read =>
    obtain rfl : read = current := by simpa [hpc, Pc.isIdle, Pc.snapshot] using h
    exact ⟨deactivating_setCall (Or.inl rfl), .writes hpc rfl (by simp [finish, Pc.isIdle])⟩

/-- A step of a watcher. -/
theorem watch_effected (w : ℕ) (poll : Poll) (h : s.Deactivating t current)
    (huntriggered : s.Untriggered) :
    (s.watch w poll).Deactivating t current ∧ Effected t current s (s.watch w poll) := by
  refine ⟨by rwa [Deactivating, watch_calls], ?_⟩
  unfold watch
  cases hw : s.watcher w with
  | polling =>
    dsimp only
    split
    · split <;> exact .of_eq rfl
    · exact .of_eq rfl
  | waiting =>
    dsimp only
    split
    · exact .of_eq rfl
    · split <;> exact .of_eq rfl
  | triggering failure =>
    dsimp only
    split
    · exact .of_eq rfl
    · split
      · exact .of_eq rfl
      · next hon =>
        have hactive : s.state.active = true := by simpa using hon
        exact .records hactive (huntriggered.untriggered w (by rw [hw]; rfl) hactive)
  | finishing exit => exact .of_unwatched rfl
  | _ => exact .of_eq rfl

theorem step_effected {turn : Turn} (hturn : turn.inWindow t) (h : s.Deactivating t current)
    (huntriggered : s.Untriggered) :
    (s.step turn).Deactivating t current ∧ Effected t current s (s.step turn) := by
  cases turn with
  | call t' request ok => cases hturn
  | resume t' ok =>
    obtain rfl : t' = t := hturn
    unfold step
    dsimp only
    split
    · exact resume_effected ok h
    · exact ⟨h, .of_eq rfl⟩
  | watch w poll => exact watch_effected w poll h huntriggered

/-- A call in its last section stays there until it has written. -/
theorem writing_step {turn : Turn} (hturn : turn.inWindow t) (h : s.calls t = .writing current) :
    (s.step turn).calls t = .writing current ∨
      ((s.step turn).calls t).isIdle = true ∧ (s.step turn).state = current.deactivated := by
  cases turn with
  | call t' request ok => cases hturn
  | resume t' ok =>
    obtain rfl : t' = t := hturn
    unfold step
    dsimp only
    split
    · refine Or.inr ?_
      rw [resume, h]
      exact ⟨by simp [finish, Pc.isIdle], rfl⟩
    · exact Or.inl h
  | watch w poll => exact Or.inl ((congrFun (s.watch_calls w poll) t).trans h)

/-- Nothing begins a call that has ended again. -/
theorem idle_step {turn : Turn} (hturn : turn.inWindow t) (h : (s.calls t).isIdle = true) :
    ((s.step turn).calls t).isIdle = true := by
  cases turn with
  | call t' request ok => cases hturn
  | resume t' ok =>
    obtain rfl : t' = t := hturn
    unfold step
    dsimp only
    split
    · cases hpc : s.calls t' with
      | idle last =>
        rw [resume, hpc]
        exact h
      | _ =>
        rw [hpc] at h
        cases h
    · exact h
  | watch w poll =>
    show ((s.watch w poll).calls t).isIdle = true
    rwa [watch_calls]

/-- A trigger is kept by a turn other than the last of a call whose snapshot has none. -/
theorem kept_step {turn : Turn} (hturn : turn.inWindow t) (h : s.Deactivating t current)
    (huntriggered : s.Untriggered) (htriggered : s.state.triggered = true)
    (hread : current.triggered = true → s.state.triggerReason = current.triggerReason)
    (hlast : s.calls t = .writing current → current.triggered = true) :
    (s.step turn).state.triggered = true ∧
      (s.step turn).state.triggerReason = s.state.triggerReason := by
  cases (step_effected hturn h huntriggered).2 with
  | keeps htriggered' hreason _ => exact ⟨htriggered'.trans htriggered, hreason⟩
  | records _ hnot =>
    rw [htriggered] at hnot
    cases hnot
  | writes hpc hstate _ =>
    rw [hstate]
    exact ⟨hlast hpc, (hread (hlast hpc)).symm⟩

end Window

/-! ## Which interleavings lose a trigger -/

/-- `t` is about to write over a trigger that `current` lacks. -/
def Overwrites (t : Thread) (current : KillSwitchState) (s : Threads) : Prop :=
  s.calls t = .writing current ∧ s.state.triggered = true ∧ current.triggered = false

/-- Every trigger of the run is in its last state. -/
def TriggersKept (s : Threads) (turns : List Turn) : Prop :=
  ∀ before after, turns = before ++ after → (runAll step s before).state.triggered = true →
    (runAll step s turns).state.triggered = true ∧
      (runAll step s turns).state.triggerReason = (runAll step s before).state.triggerReason

section Runs

variable {t : Thread} {current : KillSwitchState} {s : Threads} {turns : List Turn}

theorem window_run (hturns : ∀ turn ∈ turns, turn.inWindow t) (h : s.Deactivating t current)
    (huntriggered : s.Untriggered) :
    (runAll step s turns).Deactivating t current ∧ (runAll step s turns).Untriggered :=
  List.foldlRecOn (motive := fun s => s.Deactivating t current ∧ s.Untriggered) turns step
    ⟨h, huntriggered⟩ fun s hs turn hmem =>
    ⟨(step_effected (hturns turn hmem) hs.1 hs.2).1, untriggered_move hs.2 (s.step_move turn)⟩

theorem kept_run (hturns : ∀ turn ∈ turns, turn.inWindow t) (h : s.Deactivating t current)
    (huntriggered : s.Untriggered) (htriggered : s.state.triggered = true)
    (hread : current.triggered = true → s.state.triggerReason = current.triggerReason)
    (hlost : ¬Once step (Overwrites t current) s turns) :
    (runAll step s turns).state.triggered = true ∧
      (runAll step s turns).state.triggerReason = s.state.triggerReason := by
  induction turns generalizing s with
  | nil => exact ⟨htriggered, rfl⟩
  | cons turn turns ih =>
    have hturn := hturns turn List.mem_cons_self
    have hlast : s.calls t = .writing current → current.triggered = true := by
      intro hpc
      by_contra hnot
      exact hlost (Once.first ⟨hpc, htriggered, by simpa using hnot⟩)
    obtain ⟨htriggered', hreason⟩ := kept_step hturn h huntriggered htriggered hread hlast
    have hrest := ih (s := s.step turn)
      (fun turn' hmem => hturns turn' (List.mem_cons_of_mem _ hmem))
      (step_effected hturn h huntriggered).1 (untriggered_move huntriggered (s.step_move turn))
      htriggered' (fun hcurrent => hreason.trans (hread hcurrent)) fun honce => hlost honce.cons
    exact ⟨hrest.1, hrest.2.trans hreason⟩

/-- What the last section has written stands. -/
theorem written_run (hturns : ∀ turn ∈ turns, turn.inWindow t) (huntriggered : s.Untriggered)
    (h : s.calls t = .writing current)
    (hdone : ((runAll step s turns).calls t).isIdle = true) :
    (runAll step s turns).state.triggered = current.triggered := by
  let Written (s : Threads) : Prop := s.Untriggered ∧ (s.calls t = .writing current ∨
    (s.calls t).isIdle = true ∧ s.state.active = false ∧ s.state.triggered = current.triggered)
  have hrun : Written (runAll step s turns) := by
    refine List.foldlRecOn turns step ⟨huntriggered, Or.inl h⟩ fun s hs turn hmem => ?_
    refine ⟨untriggered_move hs.1 (s.step_move turn), ?_⟩
    have hturn := hturns turn hmem
    rcases hs.2 with hwriting | ⟨hidle, hoff, htriggered⟩
    · refine (writing_step hturn hwriting).imp_right fun hwritten => ?_
      rw [hwritten.2]
      exact ⟨hwritten.1, rfl, rfl⟩
    · refine Or.inr ⟨idle_step hturn hidle, ?_⟩
      have heffected : Effected t current s (s.step turn) :=
        (step_effected hturn (Or.inl hidle) hs.1).2
      cases heffected with
      | keeps htriggered' _ hactive => exact ⟨hactive.trans hoff, htriggered'.trans htriggered⟩
      | records hon _ =>
        rw [hoff] at hon
        cases hon
      | writes hpc _ _ =>
        rw [hpc] at hidle
        cases hidle
  rcases hrun.2 with hwriting | ⟨-, -, htriggered⟩
  · rw [hwriting] at hdone
    cases hdone
  · exact htriggered

end Runs

/-- **A trigger survives a deactivation** exactly when the call does not come to its last section
with a trigger in the state that its snapshot lacks: the watcher has recorded one since the call
began, and the write puts the old fields back. -/
theorem trigger_kept_iff (turns₀ turns : List Turn) (t : Thread) (ok : Bool)
    (hmay : (run turns₀).mayCall t = true) (hidle : ((run turns₀).calls t).isIdle = true)
    (hturns : ∀ turn ∈ turns, turn.inWindow t)
    (hdone : ((runAll step ((run turns₀).step (.call t .deactivate ok)) turns).calls t).isIdle =
      true) :
    TriggersKept ((run turns₀).step (.call t .deactivate ok)) turns ↔
      ¬Once step (Overwrites t (run turns₀).state) ((run turns₀).step (.call t .deactivate ok))
        turns := by
  have hcalled : (run turns₀).step (.call t .deactivate ok) =
      (run turns₀).setCall t (.removing (run turns₀).state) := if_pos ⟨hmay, hidle⟩
  have huntriggered := untriggered_run (turns₀ ++ [.call t .deactivate ok])
  rw [run_append] at huntriggered
  change ((run turns₀).step (.call t .deactivate ok)).Untriggered at huntriggered
  rw [hcalled] at hdone huntriggered ⊢
  generalize run turns₀ = s at hdone huntriggered ⊢
  have hdeactivating : (s.setCall t (.removing s.state)).Deactivating t s.state :=
    deactivating_setCall (Or.inr rfl)
  constructor
  · rintro hkept ⟨before, after, rfl, hpc, htriggered, hnot⟩
    have hbefore := window_run (fun turn hmem => hturns turn (List.mem_append_left _ hmem))
      hdeactivating huntriggered
    have hfinal := (hkept before after rfl htriggered).1
    rw [runAll_append] at hdone hfinal
    rw [written_run (fun turn hmem => hturns turn (List.mem_append_right _ hmem)) hbefore.2 hpc
      hdone, hnot] at hfinal
    cases hfinal
  · rintro hlost before after rfl htriggered
    have hturns₁ : ∀ turn ∈ before, turn.inWindow t := fun turn hmem =>
      hturns turn (List.mem_append_left _ hmem)
    have hbefore := window_run hturns₁ hdeactivating huntriggered
    rw [runAll_append]
    refine kept_run (fun turn hmem => hturns turn (List.mem_append_right _ hmem)) hbefore.1
      hbefore.2 htriggered (fun hcurrent => ?_) fun honce => hlost ?_
    · exact (kept_run hturns₁ hdeactivating huntriggered hcurrent (fun _ => rfl)
        fun honce => hlost (honce.append after)).2
    · obtain ⟨middle, rest, rfl, hP⟩ := honce
      exact ⟨before ++ middle, rest, (List.append_assoc _ _ _).symm, by rwa [runAll_append]⟩

/-- The watcher finds Xray dead after `deactivate` has read the state and before it has set the
stop event: the trigger is gone when it returns. -/
theorem trigger_lost :
    ¬∀ (turns₀ turns : List Turn) (t : Thread) (ok : Bool),
      (run turns₀).mayCall t = true → ((run turns₀).calls t).isIdle = true →
      (∀ turn ∈ turns, turn.inWindow t) →
      ((runAll step ((run turns₀).step (.call t .deactivate ok)) turns).calls t).isIdle = true →
      TriggersKept ((run turns₀).step (.call t .deactivate ok)) turns := by
  intro h
  let caller : Thread := .caller 0
  have hkept := h [.call caller (.activate "eth0" none) true, .resume caller true,
      .call caller (.startProcessWatcher 1) true]
    [.watch 0 .alive, .watch 0 (.failed .dead), .watch 0 .alive, .watch 0 .alive,
      .watch 0 .alive, .watch 0 .alive, .watch 0 .alive, .watch 0 .alive, .resume caller true,
      .resume caller true, .resume caller true, .resume caller true, .resume caller true]
    caller true (by decide) (by decide) (by simp [Turn.inWindow, caller]) (by decide)
    [.watch 0 .alive, .watch 0 (.failed .dead), .watch 0 .alive, .watch 0 .alive] _ rfl
    (by decide)
  exact absurd hkept.1 (by decide)

/-- A trigger before the call is kept. -/
theorem trigger_kept_before :
    let caller : Thread := .caller 0
    let before : List Turn := [.call caller (.activate "eth0" none) true, .resume caller true,
      .call caller (.startProcessWatcher 1) true, .watch 0 .alive, .watch 0 (.failed .dead),
      .watch 0 .alive, .watch 0 .alive, .watch 0 .alive, .watch 0 .alive, .watch 0 .alive,
      .watch 0 .alive]
    let turns : List Turn := [.resume caller true, .resume caller true, .resume caller true,
      .resume caller true, .resume caller true]
    TriggersKept ((run before).step (.call caller .deactivate true)) turns := by
  intro caller before turns
  refine (trigger_kept_iff before turns caller true (by decide) (by decide)
    (by simp [Turn.inWindow, turns]) (by decide)).mpr ?_
  rintro ⟨_, _, -, -, -, hnot⟩
  exact absurd hnot (by decide)

end Threads

end Bimarz.KillSwitch
