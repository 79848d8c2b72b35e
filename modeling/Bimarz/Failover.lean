import Bimarz.Effect.Except
import Bimarz.Helpers

/-!
# Health checks and the failover decision (`failover.py`)

`FailoverManager` counts consecutive failures of the active profile and picks the reachable
alternative of lowest latency. A batch of health checks is what the engine returns for its
targets, collected in a dictionary by profile id.
-/

namespace Bimarz

/-! ## Health checks -/

/-- A target of a health check: an id, an address and a port. -/
abbrev Target := String × String × ℤ

/-- A row that the engine returns for a batch. -/
structure RawHealth where
  profileId : String
  reachable : Bool
  latencyMs : Option ℚ
  errorMessage : Option String
  deriving DecidableEq

/-- `profile.outbound_config[key]`. -/
def ServerProfile.require (profile : ServerProfile) (key : String) : Except Exc PyValue :=
  match profile.outboundConfig.get? key with
  | some value => .ok value
  | none => .error (.error .keyError (Python.reprOfString key))

def ServerProfile.target (profile : ServerProfile) : Except Exc Target := do
  let address ← profile.require "address"
  let port ← (← profile.require "port").toInt
  return (profile.profileId, address.toStr, port)

/-- A profile whose address is its id. -/
def namedProfile (name : String) : ServerProfile :=
  ⟨name, "", "", .ofList [("address", .str name), ("port", .int 443)], ""⟩

/-- The targets of a batch. -/
def targetsOf (profiles : List ServerProfile) : Except Exc (List Target) :=
  profiles.mapM ServerProfile.target

theorem target_fst {profile : ServerProfile} {target : Target} (h : profile.target = .ok target) :
    target.1 = profile.profileId := by
  obtain ⟨address, -, hport⟩ := Effect.bind_eq_ok_iff.mp h
  obtain ⟨port, -, hint⟩ := Effect.bind_eq_ok_iff.mp hport
  obtain ⟨n, -, htarget⟩ := Effect.bind_eq_ok_iff.mp hint
  cases htarget
  rfl

/-- A target of a batch has the id of one of the profiles. -/
theorem mem_targetsOf {profiles : List ServerProfile} {targets : List Target}
    (h : targetsOf profiles = .ok targets) {target : Target} (hm : target ∈ targets) :
    ∃ profile ∈ profiles, profile.profileId = target.1 := by
  obtain ⟨profile, hprofile, htarget⟩ := (Effect.mem_mapM_iff h target).mp hm
  exact ⟨profile, hprofile, (target_fst htarget).symm⟩

/-- The dictionary that `check_all_profiles` builds from the rows of a batch. -/
def collectResults (checkedAtIso : String) (rows : List RawHealth) :
    Dict String HealthCheckResult :=
  .ofList (rows.map fun row => (row.profileId, {
    profileId := row.profileId
    reachable := row.reachable
    latencyMs := row.latencyMs
    checkedAtIso
    errorMessage := row.errorMessage }))

/-- Every collected result stands under its own id, which is the id of a row. -/
theorem collectResults_get? {checkedAtIso id : String} {rows : List RawHealth}
    {result : HealthCheckResult} (h : (collectResults checkedAtIso rows).get? id = some result) :
    result.profileId = id ∧ ∃ row ∈ rows, row.profileId = id := by
  refine Dict.get?_ofList_induction (P := fun id (result : HealthCheckResult) =>
    result.profileId = id ∧ ∃ row ∈ rows, row.profileId = id) (fun item hitem => ?_) id result h
  obtain ⟨row, hrow, rfl⟩ := List.mem_map.mp hitem
  exact ⟨rfl, row, hrow, rfl⟩

/-! ## The failover manager -/

structure FailoverManager where
  activeProfileId : String
  threshold : ℤ
  consecutiveFailures : ℤ
  events : List FailoverEvent
  deriving DecidableEq

namespace FailoverManager

/-- `FailoverManager.__init__`. -/
def init (activeProfileId : String) (consecutiveFailureThreshold : ℤ) :
    Except Exc FailoverManager :=
  if activeProfileId = "" then .error (.error .valueError "active_profile_id must not be empty")
  else if consecutiveFailureThreshold < 1 then
    .error (.error .valueError "consecutive_failure_threshold must be at least 1")
  else .ok ⟨activeProfileId, consecutiveFailureThreshold, 0, []⟩

def recordActiveProfileResult (m : FailoverManager) (result : HealthCheckResult) :
    FailoverManager :=
  if result.profileId ≠ m.activeProfileId then m
  else if result.reachable then { m with consecutiveFailures := 0 }
  else { m with consecutiveFailures := m.consecutiveFailures + 1 }

def shouldFailover (m : FailoverManager) : Bool := m.threshold ≤ m.consecutiveFailures

/-- The order of the keys `(latency_ms, profile_id)`. -/
def before (a b : HealthCheckResult) : Bool :=
  match a.latencyMs, b.latencyMs with
  | some la, some lb => la < lb ∨ (la = lb ∧ a.profileId < b.profileId)
  | _, _ => false

def candidates (m : FailoverManager) (allResults : Dict String HealthCheckResult) :
    List HealthCheckResult :=
  allResults.values.filter fun result =>
    result.profileId ≠ m.activeProfileId ∧ result.reachable ∧ result.latencyMs.isSome

def pickBestAlternative (m : FailoverManager) (allResults : Dict String HealthCheckResult) :
    Option String :=
  match m.candidates allResults with
  | [] => none
  | c :: cs => some (cs.foldl (fun best c => if before c best then c else best) c).profileId

def triggerFailover (m : FailoverManager) (toProfileId reason occurredAtIso : String) :
    Except Exc (FailoverEvent × FailoverManager) :=
  if toProfileId = "" then .error (.error .valueError "to_profile_id must not be empty")
  else if toProfileId = m.activeProfileId then
    .error (.error .valueError "cannot fail over to the active profile")
  else
    let event : FailoverEvent := ⟨some m.activeProfileId, toProfileId, reason, occurredAtIso⟩
    .ok (event, { m with
      activeProfileId := toProfileId, consecutiveFailures := 0, events := m.events ++ [event] })

@[simp] theorem recordActiveProfileResult_activeProfileId (m : FailoverManager)
    (result : HealthCheckResult) :
    (m.recordActiveProfileResult result).activeProfileId = m.activeProfileId := by
  unfold recordActiveProfileResult
  split
  · rfl
  · split <;> rfl

theorem foldl_before_mem (c : HealthCheckResult) (cs : List HealthCheckResult) :
    cs.foldl (fun best c => if before c best then c else best) c ∈ c :: cs := by
  induction cs generalizing c with
  | nil => exact List.mem_cons_self
  | cons c' cs ih =>
    rw [List.foldl_cons]
    have h := ih (if before c' c then c' else c)
    rcases List.mem_cons.mp h with heq | hm
    · rw [heq]
      split <;> simp
    · exact List.mem_cons_of_mem _ (List.mem_cons_of_mem _ hm)

/-- The picked alternative is not the active profile, and its result is reachable. -/
theorem pickBestAlternative_spec {m : FailoverManager} {allResults : Dict String HealthCheckResult}
    {id : String} (h : m.pickBestAlternative allResults = some id) :
    id ≠ m.activeProfileId ∧
      ∃ result ∈ allResults.values, result.profileId = id ∧ result.reachable = true := by
  unfold pickBestAlternative at h
  split at h
  · cases h
  · next c cs hc =>
    have hm := foldl_before_mem c cs
    rw [← hc] at hm
    obtain ⟨hmem, hprop⟩ := List.mem_filter.mp hm
    obtain ⟨hne, hreach, -⟩ := of_decide_eq_true hprop
    cases h
    exact ⟨hne, _, hmem, rfl, hreach⟩

theorem init_activeProfileId {id : String} {threshold : ℤ} {m : FailoverManager}
    (h : init id threshold = .ok m) : m.activeProfileId = id := by
  unfold init at h
  split at h
  · cases h
  · split at h
    · cases h
    · cases h
      rfl

/-- A trigger fails for the empty id and for the active profile only. -/
theorem triggerFailover_cases (m : FailoverManager) (toProfileId reason occurredAtIso : String) :
    ((toProfileId = "" ∨ toProfileId = m.activeProfileId) ∧
      ∃ message, m.triggerFailover toProfileId reason occurredAtIso =
        .error (.error .valueError message)) ∨
    (toProfileId ≠ "" ∧ toProfileId ≠ m.activeProfileId ∧
      ∃ event m', m.triggerFailover toProfileId reason occurredAtIso = .ok (event, m') ∧
        m'.activeProfileId = toProfileId ∧ m'.threshold = m.threshold) := by
  unfold triggerFailover
  split
  · next h => exact Or.inl ⟨Or.inl h, _, rfl⟩
  · next h =>
    split
    · next h' => exact Or.inl ⟨Or.inr h', _, rfl⟩
    · next h' => exact Or.inr ⟨h, h', _, _, rfl, rfl, rfl⟩

/-- What the event of a failover tells. -/
theorem triggerFailover_event {m m' : FailoverManager} {toProfileId reason occurredAtIso : String}
    {event : FailoverEvent}
    (h : m.triggerFailover toProfileId reason occurredAtIso = .ok (event, m')) :
    m.activeProfileId ≠ toProfileId ∧ m'.activeProfileId = toProfileId ∧
      event.fromProfileId = some m.activeProfileId ∧ event.toProfileId = toProfileId := by
  unfold triggerFailover at h
  split at h
  · cases h
  · split at h
    · cases h
    · next hne =>
      cases h
      exact ⟨fun heq => hne heq.symm, rfl, rfl, rfl⟩

end FailoverManager

end Bimarz
