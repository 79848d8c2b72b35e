import Mathlib.Data.List.MinMax
import Mathlib.Data.String.Basic
import Mathlib.Data.Rat.Lemmas
import Mathlib.Algebra.Order.Ring.Unbundled.Rat
import Bimarz.Effect.Except
import Bimarz.Effect.JoinSet
import Bimarz.Failover

/-!
# The choice of a failover target

The rows of a batch arrive in the order in which the checks complete, and the dictionary keeps that
order. The alternative that is picked from it does not depend on it: it is the least of the eligible
profiles by latency and id.
-/

namespace Bimarz

open Effect

/-! ## A batch of checks (`healthcheck.rs`) -/

structure HealthCheckOutcome where
  reachable : Bool
  latencyMs : Option ℚ
  errorMessage : Option String

/-- What the checks measure; a task that panics has no outcome. -/
abbrev Outcomes := Target → Option HealthCheckOutcome

/-- The row of a check in `check_servers_health`. -/
def HealthCheckOutcome.row (outcome : HealthCheckOutcome) (profileId : String) : RawHealth where
  profileId
  reachable := outcome.reachable
  latencyMs := outcome.latencyMs
  errorMessage := outcome.errorMessage

/-- `check_many`. -/
def CheckMany (outcomes : Outcomes) : List Target → List RawHealth → Prop :=
  Drains fun target => (outcomes target).map fun outcome => outcome.row target.1

/-- The dictionaries that `check_all_profiles` may return. The ports of the targets are converted
to 16 bits on their way. -/
inductive ChecksAll (outcomes : Outcomes) (checkedAtIso : String) :
    List ServerProfile → Dict String HealthCheckResult → Prop
  | empty : ChecksAll outcomes checkedAtIso [] .empty
  | batch {profiles : List ServerProfile} {targets : List Target} {rows : List RawHealth} :
      profiles ≠ [] → targetsOf profiles = .ok targets →
      (∀ target ∈ targets, 0 ≤ target.2.2 ∧ target.2.2 < 65536) →
      CheckMany outcomes targets rows →
      ChecksAll outcomes checkedAtIso profiles (collectResults checkedAtIso rows)

/-- The outcome of the check of the profile with this id. -/
def Measured (outcomes : Outcomes) (profiles : List ServerProfile) (id : String)
    (outcome : HealthCheckOutcome) : Prop :=
  ∃ profile ∈ profiles, profile.profileId = id ∧
    ∃ target, profile.target = .ok target ∧ outcomes target = some outcome

/-- The result that stands for an outcome in the dictionary. -/
def HealthCheckOutcome.result (outcome : HealthCheckOutcome) (profileId checkedAtIso : String) :
    HealthCheckResult where
  profileId
  reachable := outcome.reachable
  latencyMs := outcome.latencyMs
  checkedAtIso
  errorMessage := outcome.errorMessage

/-! ## The dictionary -/

section Batch

variable {outcomes : Outcomes} {checkedAtIso : String} {profiles : List ServerProfile}
  {targets : List Target} {rows : List RawHealth}

theorem map_fst_targets (h : targetsOf profiles = .ok targets) :
    targets.map Prod.fst = profiles.map ServerProfile.profileId := by
  induction mapM_eq_ok_iff.mp h with
  | nil => rfl
  | cons htarget hrest ih =>
    rw [List.map_cons, List.map_cons, target_fst htarget, ih (mapM_eq_ok_iff.mpr hrest)]

/-- The rows of a batch are the outcomes of its profiles. -/
theorem mem_rows_iff (htargets : targetsOf profiles = .ok targets)
    (hrows : CheckMany outcomes targets rows) (row : RawHealth) :
    row ∈ rows ↔ ∃ id outcome, Measured outcomes profiles id outcome ∧ outcome.row id = row := by
  rw [hrows.mem_iff]
  constructor
  · rintro ⟨target, hmem, hrow⟩
    obtain ⟨outcome, houtcome, rfl⟩ := Option.map_eq_some_iff.mp hrow
    obtain ⟨profile, hprofile, htarget⟩ := (mem_mapM_iff htargets target).mp hmem
    exact ⟨target.1, outcome, ⟨profile, hprofile, (target_fst htarget).symm, target, htarget,
      houtcome⟩, rfl⟩
  · rintro ⟨_, outcome, ⟨profile, hprofile, rfl, target, htarget, houtcome⟩, rfl⟩
    refine ⟨target, (mem_mapM_iff htargets target).mpr ⟨profile, hprofile, htarget⟩, ?_⟩
    rw [houtcome, target_fst htarget]
    rfl

theorem nodup_rows (hids : (profiles.map ServerProfile.profileId).Nodup)
    (htargets : targetsOf profiles = .ok targets) (hrows : CheckMany outcomes targets rows) :
    (rows.map RawHealth.profileId).Nodup := by
  have hkey : ∀ (target : Target) (row : RawHealth),
      (outcomes target).map (fun outcome => outcome.row target.1) = some row →
        row.profileId = target.1 := by
    intro target row hrow
    obtain ⟨outcome, -, rfl⟩ := Option.map_eq_some_iff.mp hrow
    rfl
  refine hrows.nodup hkey ?_
  rwa [map_fst_targets htargets]

/-- **The dictionary** has the ids that were returned, each with its own result. -/
theorem get?_checksAll (hids : (profiles.map ServerProfile.profileId).Nodup)
    {results : Dict String HealthCheckResult}
    (h : ChecksAll outcomes checkedAtIso profiles results) (id : String)
    (result : HealthCheckResult) :
    results.get? id = some result ↔
      ∃ outcome, Measured outcomes profiles id outcome ∧
        outcome.result id checkedAtIso = result := by
  cases h with
  | empty =>
    constructor
    · nofun
    · rintro ⟨outcome, ⟨profile, hprofile, -⟩, -⟩
      cases hprofile
  | batch _ htargets _ hrows =>
    rename_i targets rows
    rw [Dict.get?_eq_some_iff]
    have hnodup := nodup_rows hids htargets hrows
    unfold collectResults
    rw [Dict.ofList_items (by rw [List.map_map]; exact hnodup), List.mem_map]
    constructor
    · rintro ⟨row, hrow, heq⟩
      obtain ⟨id', outcome, hmeasured, rfl⟩ := (mem_rows_iff htargets hrows row).mp hrow
      cases heq
      exact ⟨outcome, hmeasured, rfl⟩
    · rintro ⟨outcome, hmeasured, rfl⟩
      exact ⟨outcome.row id, (mem_rows_iff htargets hrows _).mpr ⟨id, outcome, hmeasured, rfl⟩,
        rfl⟩

end Batch

/-! ## The choice -/

namespace FailoverManager

theorem before_irrefl (a : HealthCheckResult) : ¬before a a = true := by
  unfold before
  split
  · rename_i la lb ha hb
    rw [ha] at hb
    cases hb
    simp
  · simp

theorem before_iff {a b : HealthCheckResult} :
    before a b = true ↔ ∃ la lb, a.latencyMs = some la ∧ b.latencyMs = some lb ∧
      (la < lb ∨ la = lb ∧ a.profileId < b.profileId) := by
  unfold before
  split
  · rename_i la lb ha hb
    simp [ha, hb]
  · rename_i hnone
    simp only [Bool.false_eq_true, false_iff]
    rintro ⟨la, lb, ha, hb, -⟩
    exact hnone la lb ha hb

theorem before_trans {a b c : HealthCheckResult} (hab : before a b = true)
    (hbc : before b c = true) : before a c = true := by
  obtain ⟨la, lb, ha, hb, hab⟩ := before_iff.mp hab
  obtain ⟨lb', lc, hb', hc, hbc⟩ := before_iff.mp hbc
  rw [hb] at hb'
  cases hb'
  refine before_iff.mpr ⟨la, lc, ha, hc, ?_⟩
  rcases hab with hab | ⟨rfl, hab⟩ <;> rcases hbc with hbc | ⟨rfl, hbc⟩
  · exact Or.inl (hab.trans hbc)
  · exact Or.inl hab
  · exact Or.inl hbc
  · exact Or.inr ⟨rfl, hab.trans hbc⟩

/-- Nothing in a list comes before what the loop over it ends with. -/
theorem foldl_before_least (c : HealthCheckResult) (cs : List HealthCheckResult)
    {a : HealthCheckResult} (ha : a ∈ c :: cs) :
    before a (cs.foldl (fun best c => if before c best then c else best) c) ≠ true := by
  have hfold : ∀ cs c, List.foldl (List.argAux fun a b => before a b = true) (some c) cs =
      some (cs.foldl (fun best c => if before c best then c else best) c) := by
    intro cs
    induction cs with
    | nil => exact fun c => rfl
    | cons c' cs ih =>
      intro c
      rw [List.foldl_cons, List.foldl_cons, ← ih]
      refine congrArg (fun o => List.foldl _ o cs) ?_
      show (if before c' c = true then some c' else some c) = _
      split <;> rfl
  refine List.not_of_mem_foldl_argAux (o := none) (fun a b => before a b = true)
    ⟨before_irrefl⟩ ⟨fun _ _ _ => before_trans⟩ ha ?_
  exact hfold cs c

theorem mem_candidates {m : FailoverManager} {allResults : Dict String HealthCheckResult}
    {result : HealthCheckResult} :
    result ∈ m.candidates allResults ↔ result ∈ allResults.values ∧
      result.profileId ≠ m.activeProfileId ∧ result.reachable = true ∧
        result.latencyMs.isSome = true := by
  unfold candidates
  rw [List.mem_filter, decide_eq_true_eq]

/-- The picked result is a candidate that no other candidate comes before. -/
theorem pickBestAlternative_cases (m : FailoverManager)
    (allResults : Dict String HealthCheckResult) :
    m.candidates allResults = [] ∧ m.pickBestAlternative allResults = none ∨
      ∃ best ∈ m.candidates allResults,
        m.pickBestAlternative allResults = some best.profileId ∧
        ∀ c ∈ m.candidates allResults, ¬before c best = true := by
  unfold pickBestAlternative
  cases hcandidates : m.candidates allResults with
  | nil => exact Or.inl ⟨rfl, rfl⟩
  | cons c cs =>
    refine Or.inr ⟨_, foldl_before_mem c cs, rfl, fun a ha => ?_⟩
    exact foldl_before_least c cs ha

/-- A profile that a failover may choose, with the latency that was measured. -/
def Eligible (m : FailoverManager) (outcomes : Outcomes) (profiles : List ServerProfile)
    (id : String) (latency : ℚ) : Prop :=
  id ≠ m.activeProfileId ∧ ∃ outcome, Measured outcomes profiles id outcome ∧
    outcome.reachable = true ∧ outcome.latencyMs = some latency

/-- The least of the eligible profiles by latency and id. -/
def Best (m : FailoverManager) (outcomes : Outcomes) (profiles : List ServerProfile)
    (id : String) : Prop :=
  ∃ latency, m.Eligible outcomes profiles id latency ∧
    ∀ id' latency', m.Eligible outcomes profiles id' latency' → id' ≠ id →
      latency < latency' ∨ latency = latency' ∧ id < id'

section Choice

variable {m : FailoverManager} {outcomes : Outcomes} {checkedAtIso : String}
  {profiles : List ServerProfile} {results : Dict String HealthCheckResult}

/-- The candidates stand for the eligible profiles. -/
theorem eligible_iff (hids : (profiles.map ServerProfile.profileId).Nodup)
    (h : ChecksAll outcomes checkedAtIso profiles results) (id : String) (latency : ℚ) :
    m.Eligible outcomes profiles id latency ↔
      ∃ result ∈ m.candidates results, result.profileId = id ∧
        result.latencyMs = some latency := by
  constructor
  · rintro ⟨hother, outcome, hmeasured, hreachable, hlatency⟩
    refine ⟨outcome.result id checkedAtIso, mem_candidates.mpr ⟨?_, hother, hreachable, ?_⟩, rfl,
      hlatency⟩
    · have hfound := (get?_checksAll hids h id _).mpr ⟨outcome, hmeasured, rfl⟩
      exact List.mem_map.mpr ⟨_, Dict.get?_eq_some_iff.mp hfound, rfl⟩
    · exact Option.isSome_of_mem hlatency
  · rintro ⟨result, hmem, rfl, hlatency⟩
    obtain ⟨hvalue, hother, hreachable, -⟩ := mem_candidates.mp hmem
    obtain ⟨key, hfound⟩ := Dict.exists_get?_of_mem_values hvalue
    obtain ⟨outcome, hmeasured, rfl⟩ := (get?_checksAll hids h key result).mp hfound
    exact ⟨hother, outcome, hmeasured, hreachable, hlatency⟩

theorem best_unique {id id' : String} (h : m.Best outcomes profiles id)
    (h' : m.Best outcomes profiles id') : id = id' := by
  obtain ⟨latency, helig, hleast⟩ := h
  obtain ⟨latency', helig', hleast'⟩ := h'
  by_contra hne
  rcases hleast id' latency' helig' (Ne.symm hne) with h₁ | ⟨h₁, h₂⟩ <;>
    rcases hleast' id latency helig hne with h₃ | ⟨h₃, h₄⟩
  · exact absurd (h₁.trans h₃) (lt_irrefl _)
  · exact absurd h₁ (h₃ ▸ lt_irrefl _)
  · exact absurd h₃ (h₁ ▸ lt_irrefl _)
  · exact absurd (h₂.trans h₄) (lt_irrefl _)

/-- The choice by what was measured alone. -/
theorem pickBestAlternative_eq (hids : (profiles.map ServerProfile.profileId).Nodup)
    (h : ChecksAll outcomes checkedAtIso profiles results) :
    (m.pickBestAlternative results = none ∧
        ∀ id latency, ¬m.Eligible outcomes profiles id latency) ∨
      ∃ id, m.pickBestAlternative results = some id ∧ m.Best outcomes profiles id := by
  rcases m.pickBestAlternative_cases results with ⟨hnil, hnone⟩ | ⟨best, hmem, hpick, hleast⟩
  · refine Or.inl ⟨hnone, fun id latency helig => ?_⟩
    obtain ⟨result, hresult, -⟩ := (eligible_iff hids h id latency).mp helig
    rw [hnil] at hresult
    cases hresult
  · obtain ⟨latency, hlatency⟩ := Option.isSome_iff_exists.mp (mem_candidates.mp hmem).2.2.2
    refine Or.inr ⟨best.profileId, hpick, latency,
      (eligible_iff hids h _ _).mpr ⟨best, hmem, rfl, hlatency⟩, ?_⟩
    rintro id' latency' helig' hne
    obtain ⟨result, hresult, rfl, hlatency'⟩ := (eligible_iff hids h _ _).mp helig'
    have hnot := hleast result hresult
    rw [before_iff] at hnot
    by_contra hless
    refine hnot ⟨latency', latency, hlatency', hlatency, ?_⟩
    rcases lt_trichotomy latency latency' with hlt | heq | hgt
    · exact absurd (Or.inl hlt) hless
    · refine Or.inr ⟨heq.symm, ?_⟩
      rcases lt_trichotomy best.profileId result.profileId with hlt | hsame | hgt
      · exact absurd (Or.inr ⟨heq, hlt⟩) hless
      · exact absurd hsame.symm hne
      · exact hgt
    · exact Or.inl hgt

theorem pickBestAlternative_eq_none_iff
    (hids : (profiles.map ServerProfile.profileId).Nodup)
    (h : ChecksAll outcomes checkedAtIso profiles results) :
    m.pickBestAlternative results = none ↔
      ∀ id latency, ¬m.Eligible outcomes profiles id latency := by
  rcases pickBestAlternative_eq (m := m) hids h with ⟨hnone, hnot⟩ | ⟨id, hpick, hbest⟩
  · exact iff_of_true hnone hnot
  · obtain ⟨latency, helig, -⟩ := hbest
    refine iff_of_false (fun hnone => ?_) fun hnot => hnot id latency helig
    rw [hpick] at hnone
    cases hnone

theorem pickBestAlternative_eq_some_iff
    (hids : (profiles.map ServerProfile.profileId).Nodup)
    (h : ChecksAll outcomes checkedAtIso profiles results) (id : String) :
    m.pickBestAlternative results = some id ↔ m.Best outcomes profiles id := by
  rcases pickBestAlternative_eq (m := m) hids h with ⟨hnone, hnot⟩ | ⟨id', hpick, hbest⟩
  · rw [hnone]
    refine iff_of_false nofun ?_
    rintro ⟨latency, helig, -⟩
    exact hnot id latency helig
  · rw [hpick, Option.some.injEq]
    constructor
    · rintro rfl
      exact hbest
    · exact fun hbest' => best_unique hbest hbest'

/-- **The choice of a failover target** after a batch of checks that completed in any order. -/
theorem failover_choice (hids : (profiles.map ServerProfile.profileId).Nodup)
    (h : ChecksAll outcomes checkedAtIso profiles results) (m : FailoverManager) :
    (∀ id result, results.get? id = some result ↔
      ∃ outcome, Measured outcomes profiles id outcome ∧
        outcome.result id checkedAtIso = result) ∧
    (m.pickBestAlternative results = none ↔
      ∀ id latency, ¬m.Eligible outcomes profiles id latency) ∧
    (∀ id, m.pickBestAlternative results = some id ↔ m.Best outcomes profiles id) ∧
    ∀ checkedAtIso' results', ChecksAll outcomes checkedAtIso' profiles results' →
      m.pickBestAlternative results' = m.pickBestAlternative results := by
  refine ⟨get?_checksAll hids h, pickBestAlternative_eq_none_iff hids h,
    pickBestAlternative_eq_some_iff hids h, fun checkedAtIso' results' h' => ?_⟩
  ext id
  rw [pickBestAlternative_eq_some_iff hids h, pickBestAlternative_eq_some_iff hids h']

end Choice

/-- A profile whose server is at port 443 of this address. -/
def serverAt (profileId address : String) : ServerProfile where
  profileId
  tag := profileId
  remark := ""
  outboundConfig := .ofList [("address", .str address), ("port", .int 443)]
  addedAtIso := ""

/-- Three servers, of which the last two answer equally fast. -/
def threeServers : List ServerProfile :=
  [serverAt "active" "192.0.2.1", serverAt "b" "192.0.2.2", serverAt "a" "192.0.2.3"]

def threeOutcomes : Outcomes
  | ("active", _) => some ⟨false, none, some "refused"⟩
  | _ => some ⟨true, some 20, none⟩

def threeTargets : List Target :=
  [("active", "192.0.2.1", 443), ("b", "192.0.2.2", 443), ("a", "192.0.2.3", 443)]

/-- The last check completes first. -/
def threeRows : List RawHealth :=
  [⟨"a", true, some 20, none⟩, ⟨"active", false, none, some "refused"⟩, ⟨"b", true, some 20, none⟩]

theorem failover_choice_tie :
    (⟨"active", 3, 3, []⟩ : FailoverManager).pickBestAlternative
        (collectResults "2026-01-01" threeRows) = some "a" ↔
      (⟨"active", 3, 3, []⟩ : FailoverManager).Best threeOutcomes threeServers "a" := by
  have hrows : CheckMany threeOutcomes threeTargets threeRows := by
    refine drains_iff.mpr ?_
    decide
  have hbatch : ChecksAll threeOutcomes "2026-01-01" threeServers
      (collectResults "2026-01-01" threeRows) :=
    .batch (by decide) (by rfl) (by decide) hrows
  exact (failover_choice (by decide) hbatch ⟨"active", 3, 3, []⟩).2.2.1 "a"

end FailoverManager

end Bimarz
