import Bimarz.Failover
import Bimarz.Effect.Act
import Bimarz.Effect.Run

/-!
# Histories of a failover manager

A history is a list of calls on one `FailoverManager`, a raising `trigger_failover` included.
`failoverManager_trace` reads the counter, the decision and the recorded events off the calls: the
counter is the number of failures of the active profile since the latest call that resets it, and
the events lead from the initial profile to the active one.
-/

namespace Bimarz

open Effect Effect.Act

namespace FailoverManager

/-- `FailoverManager.trigger_failover`, statement by statement. -/
def trigger (toProfileId reason occurredAtIso : String) :
    Act Exc FailoverManager FailoverEvent := do
  if toProfileId = "" then
    raise (.error .valueError "to_profile_id must not be empty")
  else do
    let active ← reads FailoverManager.activeProfileId
    if toProfileId = active then
      raise (.error .valueError "cannot fail over to the active profile")
    else do
      let event : FailoverEvent := ⟨some active, toProfileId, reason, occurredAtIso⟩
      modify fun m => { m with activeProfileId := toProfileId }
      modify fun m => { m with consecutiveFailures := 0 }
      modify fun m => { m with events := m.events ++ [event] }
      return event

/-- The statements of `trigger` amount to `triggerFailover`, and a raise comes before any write. -/
theorem trigger_apply (m : FailoverManager) (toProfileId reason occurredAtIso : String) :
    trigger toProfileId reason occurredAtIso m =
      match m.triggerFailover toProfileId reason occurredAtIso with
      | .ok (event, m') => (.ok event, m')
      | .error e => (.error e, m) := by
  unfold trigger triggerFailover
  by_cases hempty : toProfileId = ""
  · simp only [hempty, ↓reduceIte]
    rfl
  · by_cases hsame : toProfileId = m.activeProfileId
    · rw [if_neg hempty, if_neg hempty, if_pos hsame]
      exact (ite_run _ _ _ m).trans (if_pos hsame)
    · simp only [hempty, hsame, ↓reduceIte]
      exact (ite_run _ _ _ m).trans (if_neg hsame)

/-- A call on the manager: `record_active_profile_result` or `trigger_failover`. -/
inductive Call
  | record (result : HealthCheckResult)
  | trigger (toProfileId reason occurredAtIso : String)
  deriving DecidableEq

/-- The manager after a call. -/
def after (m : FailoverManager) : Call → FailoverManager
  | .record result => m.recordActiveProfileResult result
  | .trigger toProfileId reason occurredAtIso =>
    (FailoverManager.trigger toProfileId reason occurredAtIso m).2

/-- The manager after the calls of a history. -/
abbrev afterAll (m : FailoverManager) (calls : List Call) : FailoverManager := runAll after m calls

/-! ## What the history says -/

/-- A failure of a profile was recorded. -/
def Call.failureOf (id : String) : Call → Bool
  | .record result => result.profileId = id ∧ result.reachable = false
  | .trigger .. => false

/-- A call that starts the count again: a success of the active profile, or a failover that
succeeds. -/
def Resets (m : FailoverManager) : Call → Prop
  | .record result => result.profileId = m.activeProfileId ∧ result.reachable = true
  | .trigger toProfileId reason occurredAtIso =>
    ∃ event, (FailoverManager.trigger toProfileId reason occurredAtIso m).1 = .ok event

/-- The history splits at its latest reset: `before` is empty or ends with one, and `since` has
none. -/
structure LatestReset (m : FailoverManager) (before since : List Call) : Prop where
  starts : before = [] ∨ ∃ calls call, before = calls ++ [call] ∧ Resets (m.afterAll calls) call
  quiet : ∀ calls call calls', since = calls ++ call :: calls' →
    ¬ Resets (m.afterAll (before ++ calls)) call

/-- The events lead from one profile to another one, each from where the one before ended. -/
def Path : String → List FailoverEvent → String → Prop
  | source, [], target => source = target
  | source, event :: events, target =>
    event.fromProfileId = some source ∧ source ≠ event.toProfileId ∧
      Path event.toProfileId events target

theorem Path.concat {source target : String} {events : List FailoverEvent} {event : FailoverEvent}
    (h : Path source events target) (hfrom : event.fromProfileId = some target)
    (hne : target ≠ event.toProfileId) :
    Path source (events ++ [event]) event.toProfileId := by
  induction events generalizing source with
  | nil =>
    cases h
    exact ⟨hfrom, hne, rfl⟩
  | cons first events ih =>
    obtain ⟨hfirst, hdiff, hrest⟩ := h
    exact ⟨hfirst, hdiff, ih hrest⟩

/-! ## One call -/

/-- What a call does: it leaves the manager alone, counts a failure, forgets the count, or moves to
another profile. -/
theorem after_cases (m : FailoverManager) (call : Call) :
    (¬ Resets m call ∧ call.failureOf m.activeProfileId = false ∧ m.after call = m) ∨
    (¬ Resets m call ∧ call.failureOf m.activeProfileId = true ∧
      m.after call = { m with consecutiveFailures := m.consecutiveFailures + 1 }) ∨
    (Resets m call ∧ m.after call = { m with consecutiveFailures := 0 }) ∨
    (Resets m call ∧ ∃ event : FailoverEvent, event.fromProfileId = some m.activeProfileId ∧
      m.activeProfileId ≠ event.toProfileId ∧
      m.after call = { m with
        activeProfileId := event.toProfileId
        consecutiveFailures := 0
        events := m.events ++ [event] }) := by
  cases call with
  | record result =>
    simp only [after, recordActiveProfileResult, Resets, Call.failureOf]
    by_cases hid : result.profileId = m.activeProfileId
    · cases hreach : result.reachable <;> simp [hid]
    · simp [hid]
  | trigger toProfileId reason occurredAtIso =>
    simp only [after, Resets, Call.failureOf, trigger_apply]
    unfold triggerFailover
    by_cases hempty : toProfileId = ""
    · simp [hempty]
    · by_cases hsame : toProfileId = m.activeProfileId
      · simp [hempty, ← hsame]
      · right; right; right
        simp only [hempty, hsame, ↓reduceIte]
        exact ⟨⟨_, rfl⟩, ⟨some m.activeProfileId, toProfileId, reason, occurredAtIso⟩, rfl,
          fun h => hsame h.symm, rfl⟩

@[simp] theorem after_threshold (m : FailoverManager) (call : Call) :
    (m.after call).threshold = m.threshold := by
  obtain ⟨-, -, h⟩ | ⟨-, -, h⟩ | ⟨-, h⟩ | ⟨-, event, -, -, h⟩ := m.after_cases call <;> rw [h]

/-- A trigger that raises writes nothing. -/
theorem trigger_error {m : FailoverManager} {toProfileId reason occurredAtIso : String} {e : Exc}
    (h : (trigger toProfileId reason occurredAtIso m).1 = .error e) :
    (trigger toProfileId reason occurredAtIso m).2 = m := by
  rw [trigger_apply] at h ⊢
  rcases ht : m.triggerFailover toProfileId reason occurredAtIso with e' | ⟨event, m'⟩ <;>
    rw [ht] at h
  cases h

/-! ## Every history -/

theorem afterAll_threshold (m : FailoverManager) (calls : List Call) :
    (m.afterAll calls).threshold = m.threshold := by
  refine runAll_invariant (I := fun m' : FailoverManager => m'.threshold = m.threshold) ?_ rfl calls
  intro m' call h
  rw [after_threshold, h]

theorem afterAll_path {m : FailoverManager} {source : String}
    (h : Path source m.events m.activeProfileId) (calls : List Call) :
    Path source (m.afterAll calls).events (m.afterAll calls).activeProfileId := by
  refine runAll_invariant
    (I := fun m' : FailoverManager => Path source m'.events m'.activeProfileId) ?_ h calls
  intro m' call hpath
  obtain ⟨-, -, h'⟩ | ⟨-, -, h'⟩ | ⟨-, h'⟩ | ⟨-, event, hfrom, hne, h'⟩ := m'.after_cases call <;>
    rw [h']
  · exact hpath
  · exact hpath
  · exact hpath
  · exact hpath.concat hfrom hne

/-- A history without resets keeps the active profile and counts its failures. -/
theorem afterAll_quiet (m : FailoverManager) (since : List Call)
    (h : ∀ calls call calls', since = calls ++ call :: calls' →
      ¬ Resets (m.afterAll calls) call) :
    (m.afterAll since).activeProfileId = m.activeProfileId ∧
      (m.afterAll since).consecutiveFailures =
        m.consecutiveFailures + (since.countP (Call.failureOf m.activeProfileId) : ℕ) := by
  induction since generalizing m with
  | nil => simp
  | cons call since ih =>
    have hquiet : ¬ Resets m call := h [] call since rfl
    have hrest := ih (m.after call) fun calls call' calls' heq =>
      h (call :: calls) call' calls' (by rw [heq]; rfl)
    rw [afterAll, runAll_cons]
    obtain ⟨-, hno, h'⟩ | ⟨-, hyes, h'⟩ | ⟨hr, -⟩ | ⟨hr, -⟩ := m.after_cases call
    · rw [h'] at hrest ⊢
      rw [List.countP_cons_of_neg (by simp [hno])]
      exact hrest
    · rw [h'] at hrest ⊢
      rw [List.countP_cons_of_pos hyes]
      refine ⟨hrest.1, hrest.2.trans ?_⟩
      push_cast
      omega
    · exact absurd hr hquiet
    · exact absurd hr hquiet

/-- A reset leaves no failures. -/
theorem after_resets {m : FailoverManager} {call : Call} (h : Resets m call) :
    (m.after call).consecutiveFailures = 0 := by
  obtain ⟨hn, -⟩ | ⟨hn, -⟩ | ⟨-, h'⟩ | ⟨-, event, -, -, h'⟩ := m.after_cases call
  · exact absurd h hn
  · exact absurd h hn
  · rw [h']
  · rw [h']

/-- The counter is the number of failures of the active profile since the latest reset. -/
theorem consecutiveFailures_eq {m : FailoverManager} (h₀ : m.consecutiveFailures = 0)
    {before since : List Call} (h : LatestReset m before since) :
    (m.afterAll (before ++ since)).consecutiveFailures =
      since.countP (Call.failureOf (m.afterAll (before ++ since)).activeProfileId) := by
  have hstart : (m.afterAll before).consecutiveFailures = 0 := by
    rcases h.starts with rfl | ⟨calls, call, rfl, hreset⟩
    · exact h₀
    · rw [afterAll, runAll_concat]
      exact after_resets hreset
  have hquiet := afterAll_quiet (m.afterAll before) since fun calls call calls' heq hreset =>
    h.quiet calls call calls' heq (by rwa [afterAll, runAll_append])
  rw [afterAll, runAll_append, hquiet.1, hquiet.2, hstart, Int.zero_add]

/-- Every history has a latest reset. -/
theorem exists_latestReset (m : FailoverManager) (calls : List Call) :
    ∃ before since, calls = before ++ since ∧ LatestReset m before since := by
  induction calls using List.reverseRecOn with
  | nil => exact ⟨[], [], rfl, Or.inl rfl, fun calls call calls' h => by simp at h⟩
  | append_singleton calls call ih =>
    obtain ⟨before, since, rfl, hreset⟩ := ih
    by_cases hcall : Resets (m.afterAll (before ++ since)) call
    · refine ⟨before ++ since ++ [call], [], by simp, Or.inr ⟨_, call, rfl, hcall⟩, ?_⟩
      intro calls call' calls' h
      simp at h
    · refine ⟨before, since ++ [call], by simp, hreset.starts, ?_⟩
      intro calls' call' rest h
      rcases List.eq_nil_or_concat rest with rfl | ⟨rest, last, rfl⟩
      · obtain ⟨rfl, heq⟩ := List.append_inj' h rfl
        cases heq
        exact hcall
      · have h' : since ++ [call] = (calls' ++ call' :: rest) ++ [last] := by
          rw [h]
          simp
        exact hreset.quiet calls' call' rest (List.append_inj' h' rfl).1

/-- The manager against its history: the counter, the decision, the events and the calls that
raise. -/
theorem failoverManager_trace (initialId : String) (threshold : ℤ) (hid : initialId ≠ "")
    (hthreshold : 1 ≤ threshold) :
    ∃ m₀, init initialId threshold = .ok m₀ ∧ ∀ calls : List Call,
      (∃ before since, calls = before ++ since ∧ LatestReset m₀ before since) ∧
      (∀ before since, calls = before ++ since → LatestReset m₀ before since →
        (m₀.afterAll calls).consecutiveFailures =
          since.countP (Call.failureOf (m₀.afterAll calls).activeProfileId) ∧
        ((m₀.afterAll calls).shouldFailover = true ↔
          threshold ≤ since.countP (Call.failureOf (m₀.afterAll calls).activeProfileId))) ∧
      Path initialId (m₀.afterAll calls).events (m₀.afterAll calls).activeProfileId ∧
      ∀ toProfileId reason occurredAtIso e,
        (trigger toProfileId reason occurredAtIso (m₀.afterAll calls)).1 = .error e →
        (trigger toProfileId reason occurredAtIso (m₀.afterAll calls)).2 = m₀.afterAll calls := by
  refine ⟨⟨initialId, threshold, 0, []⟩, ?_, ?_⟩
  · unfold init
    rw [if_neg hid, if_neg (by omega)]
  intro calls
  have hpath : Path initialId [] initialId := rfl
  refine ⟨exists_latestReset _ calls, ?_,
    afterAll_path (m := ⟨initialId, threshold, 0, []⟩) hpath calls, ?_⟩
  · rintro before since rfl hreset
    have hcount := consecutiveFailures_eq rfl hreset
    constructor
    · exact hcount
    · unfold shouldFailover
      rw [decide_eq_true_iff, hcount, afterAll_threshold]
  · intro toProfileId reason occurredAtIso e h
    exact trigger_error h

theorem failoverManager_trace_home :
    "home" ≠ "" ∧ (1 : ℤ) ≤ 3 ∧ ∃ m₀, init "home" 3 = .ok m₀ ∧ ∀ calls : List Call,
      Path "home" (m₀.afterAll calls).events (m₀.afterAll calls).activeProfileId := by
  obtain ⟨m₀, hm₀, h⟩ := failoverManager_trace "home" 3 (by decide) (by decide)
  exact ⟨by decide, by decide, m₀, hm₀, fun calls => (h calls).2.2.1⟩

end FailoverManager

end Bimarz
