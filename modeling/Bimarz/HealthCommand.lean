import Bimarz.Effect.Except
import Bimarz.Failover

/-!
# The health-check command (`commands/healthcheck.py`, `services/health.py`)

The service checks all profiles and pairs them with what the checks returned or raised. The command
prints a line for each pair; it looks for dictionaries, which no check returns. The lines go to a
console that reads them as markup and raises on a tag that closes nothing.
-/

namespace Bimarz

open Effect

/-! ## The checks -/

/-- What one check meets: the failure of the import, if any, the answers of the engine's check, and
the time of day. -/
structure CheckEnv where
  extension : Option Exc
  answer : String → ℤ → Except Exc (Bool × Option ℚ × Option String)
  now : String

/-- `check_profile_health`. The port is converted to 16 bits on its way to the engine. -/
def checkProfileHealth (env : CheckEnv) (profile : ServerProfile) :
    Except Exc HealthCheckResult := do
  match env.extension with
  | some e => throw e
  | none =>
    let (_, address, port) ← profile.target
    if ¬(0 ≤ port ∧ port < 65536) then
      throw (.error .overflowError "out of range integral type conversion attempted")
    else
      let (reachable, latencyMs, errorMessage) ← env.answer address port
      return {
        profileId := profile.profileId
        reachable
        latencyMs
        checkedAtIso := env.now
        errorMessage }

def isInterrupt {α : Type} : Except Exc α → Bool
  | .error .keyboardInterrupt => true
  | _ => false

/-- `asyncio.gather(*tasks, return_exceptions=True)`: an interrupt leaves the event loop. -/
def gather {α : Type} (results : List (Except Exc α)) : Except Exc (List (Except Exc α)) :=
  if results.any isInterrupt then .error .keyboardInterrupt else .ok results

/-- A result as the command finds it. -/
inductive Checked
  | result (result : HealthCheckResult)
  | dict (items : Dict String PyValue)
  | exception (exc : Exc)

def Checked.ofOutcome : Except Exc HealthCheckResult → Checked
  | .ok measured => .result measured
  | .error exc => .exception exc

/-- The outcomes of the checks, in the order of the profiles. -/
def outcomes (env : ℕ → CheckEnv) (profiles : List ServerProfile) :
    List (Except Exc HealthCheckResult) :=
  profiles.mapIdx fun i profile => checkProfileHealth (env i) profile

/-- `HealthService.check_all`. -/
def checkAll (env : ℕ → CheckEnv) (profiles : List ServerProfile) :
    Except Exc (List (ServerProfile × Checked)) := do
  if profiles = [] then return []
  else
    let results ← gather (outcomes env profiles)
    return profiles.zip (results.map .ofOutcome)

/-! ## The command -/

/-- `bool(x)`. -/
def PyValue.truthy : PyValue → Bool
  | none => false
  | bool b => b
  | int n => n ≠ 0
  | str s => s ≠ ""
  | object _ _ _ => true

def formatProfileAddress (profile : ServerProfile) : String :=
  match profile.outboundConfig.get? "address" with
  | some address => if address.truthy then address.toStr else "?"
  | none => "?"

/-- A line as the console is given it. -/
inductive HealthLine
  | noProfiles
  | success (address latency : String)
  | error (address message : String)
  | unreachable (address : String)
  deriving DecidableEq

def HealthLine.text : HealthLine → String
  | noProfiles => "[yellow]No profiles to check.[/yellow]"
  | success address latency => s!"[green]✓[/green] {address} — {latency}ms"
  | error address message => s!"[red]✗[/red] {address} — error: {message}"
  | unreachable address => s!"[red]✗[/red] {address} — unreachable"

/-- The line for a result. -/
def healthLine (profile : ServerProfile) (result : Checked) : HealthLine :=
  let addr := formatProfileAddress profile
  match result with
  | .exception exc => if exc.isException then .error addr exc.message else .unreachable addr
  | .dict items =>
    if ((items.get? "ok").getD .none).truthy then
      .success addr ((items.get? "latency_ms").getD (.str "?")).toStr
    else .unreachable addr
  | .result _ => .unreachable addr

/-- `console.print` of one line after the other: the lines that are printed, and how the command
ends. `console` says what `console.print` raises on a text, if anything. -/
def printLines (console : String → Option Exc) :
    List HealthLine → List HealthLine × Except Exc Unit
  | [] => ([], .ok ())
  | line :: lines =>
    match console line.text with
    | some e => ([], .error e)
    | none =>
      let (printed, ending) := printLines console lines
      (line :: printed, ending)

/-- `_run_healthcheck_async`. -/
def runHealthcheck (console : String → Option Exc) (env : ℕ → CheckEnv)
    (profiles : List ServerProfile) : List HealthLine × Except Exc Unit :=
  match checkAll env profiles with
  | .error e => ([], .error e)
  | .ok results =>
    if results.isEmpty then printLines console [.noProfiles]
    else printLines console (results.map fun (profile, result) => healthLine profile result)

/-! ## What was measured -/

/-- The line that reports an outcome; `showLatency` is the text of a latency. -/
def reportLine (showLatency : Option ℚ → String) (profile : ServerProfile) :
    Except Exc HealthCheckResult → HealthLine
  | .ok result =>
    if result.reachable then .success (formatProfileAddress profile) (showLatency result.latencyMs)
    else .unreachable (formatProfileAddress profile)
  | .error exc => .error (formatProfileAddress profile) exc.message

/-- The report on what was measured: one line for each profile, in order. -/
def report (showLatency : Option ℚ → String) (env : ℕ → CheckEnv)
    (profiles : List ServerProfile) : List HealthLine :=
  List.zipWith (reportLine showLatency) profiles (outcomes env profiles)

/-- The command prints the report. -/
def Reports (showLatency : Option ℚ → String) (console : String → Option Exc)
    (env : ℕ → CheckEnv) (profiles : List ServerProfile) : Prop :=
  profiles = [] ∨ (runHealthcheck console env profiles).1 = report showLatency env profiles

/-- An outcome that is no success: unreachable, or an ordinary exception. -/
def Unsuccessful : Except Exc HealthCheckResult → Prop
  | .ok result => result.reachable = false
  | .error exc => exc.isException = true

/-- The line of the command is the right one for these outcomes only. -/
theorem healthLine_eq_iff (showLatency : Option ℚ → String) (profile : ServerProfile)
    (outcome : Except Exc HealthCheckResult) :
    healthLine profile (.ofOutcome outcome) = reportLine showLatency profile outcome ↔
      Unsuccessful outcome := by
  cases outcome with
  | ok result =>
    simp only [healthLine, Checked.ofOutcome, reportLine, Unsuccessful]
    cases result.reachable with
    | true => exact iff_of_false nofun Bool.noConfusion
    | false => exact iff_of_true rfl rfl
  | error exc =>
    simp only [healthLine, Checked.ofOutcome, reportLine, Unsuccessful]
    cases exc.isException with
    | true => exact iff_of_true rfl rfl
    | false => exact iff_of_false nofun Bool.noConfusion

/-! ## What is printed -/

section Printed

variable (console : String → Option Exc) (lines : List HealthLine)

theorem printLines_initial : (printLines console lines).1 <+: lines := by
  induction lines with
  | nil => exact List.prefix_rfl
  | cons line lines ih =>
    unfold printLines
    split
    · exact List.nil_prefix
    · exact List.cons_prefix_cons.mpr ⟨rfl, ih⟩

/-- Every line is printed if the console takes each of them. -/
theorem printLines_eq_iff :
    (printLines console lines).1 = lines ↔ ∀ line ∈ lines, console line.text = none := by
  induction lines with
  | nil => exact iff_of_true rfl nofun
  | cons line lines ih =>
    rw [List.forall_mem_cons, printLines, ← ih]
    split
    · next e hrefused => exact iff_of_false nofun fun h => by simp [hrefused] at h
    · next htaken => simp [htaken]

/-- The lines that are printed are as many as `lines'` only if all are. -/
theorem printLines_eq_of_length {lines' : List HealthLine} (hlength : lines.length = lines'.length) :
    (printLines console lines).1 = lines' ↔
      lines = lines' ∧ ∀ line ∈ lines', console line.text = none := by
  constructor
  · intro h
    have hall : (printLines console lines).1 = lines :=
      (printLines_initial console lines).eq_of_length (by rw [h, hlength])
    obtain rfl : lines = lines' := hall.symm.trans h
    exact ⟨rfl, (printLines_eq_iff console lines).mp hall⟩
  · rintro ⟨rfl, htaken⟩
    exact (printLines_eq_iff console lines).mpr htaken

end Printed

/-- Two lists of lines agree when the lines of every pair do. -/
theorem zipWith_eq_iff {α β γ : Type} {f g : α → β → γ} {P : β → Prop}
    (h : ∀ a b, f a b = g a b ↔ P b) {as : List α} {bs : List β}
    (hlength : as.length = bs.length) :
    List.zipWith f as bs = List.zipWith g as bs ↔ ∀ b ∈ bs, P b := by
  induction as generalizing bs with
  | nil =>
    obtain rfl : bs = [] := List.eq_nil_of_length_eq_zero hlength.symm
    simp
  | cons a as ih =>
    obtain ⟨b, bs, rfl⟩ := List.exists_cons_of_length_eq_add_one hlength.symm
    rw [List.zipWith_cons_cons, List.zipWith_cons_cons, List.cons.injEq, h, List.forall_mem_cons,
      ih (by simpa using hlength)]

section Command

variable (console : String → Option Exc) (env : ℕ → CheckEnv) {profiles : List ServerProfile}

theorem length_outcomes : (outcomes env profiles).length = profiles.length := List.length_mapIdx

/-- An interrupt of one check ends the command. -/
theorem runHealthcheck_interrupted (hne : profiles ≠ [])
    (h : (outcomes env profiles).any isInterrupt = true) :
    runHealthcheck console env profiles = ([], .error .keyboardInterrupt) := by
  unfold runHealthcheck checkAll gather
  rw [if_neg hne, if_pos h]
  rfl

theorem runHealthcheck_lines (hne : profiles ≠ [])
    (h : ¬(outcomes env profiles).any isInterrupt = true) :
    runHealthcheck console env profiles = printLines console
      (List.zipWith (fun profile outcome => healthLine profile (.ofOutcome outcome)) profiles
        (outcomes env profiles)) := by
  have hchecked : checkAll env profiles =
      .ok (profiles.zip ((outcomes env profiles).map .ofOutcome)) := by
    unfold checkAll gather
    rw [if_neg hne, if_neg h]
    rfl
  have hsome : (profiles.zip ((outcomes env profiles).map Checked.ofOutcome)).isEmpty = false := by
    rw [List.isEmpty_eq_false_iff, ← List.length_pos_iff]
    have hpos := List.length_pos_iff.mpr hne
    simpa [length_outcomes] using hpos
  unfold runHealthcheck
  rw [hchecked]
  dsimp only
  rw [hsome, if_neg Bool.false_ne_true, List.zip_map_right, List.map_map, List.zip_eq_zipWith,
    List.map_zipWith]
  rfl

/-- **The health-check command** reports what was measured exactly if no check succeeds and the
console takes every line of the report. -/
theorem reports_iff (showLatency : Option ℚ → String) (console : String → Option Exc)
    (env : ℕ → CheckEnv) (profiles : List ServerProfile) :
    Reports showLatency console env profiles ↔
      (∀ outcome ∈ outcomes env profiles, Unsuccessful outcome) ∧
        ∀ line ∈ report showLatency env profiles, console line.text = none := by
  by_cases hne : profiles = []
  · subst hne
    exact iff_of_true (Or.inl rfl) ⟨nofun, nofun⟩
  unfold Reports
  rw [or_iff_right hne]
  have hlength : (outcomes env profiles).length = profiles.length := length_outcomes env
  by_cases hinterrupt : (outcomes env profiles).any isInterrupt = true
  · rw [runHealthcheck_interrupted console env hne hinterrupt]
    refine iff_of_false (fun h => hne ?_) fun ⟨h, _⟩ => ?_
    · have hnone := congrArg List.length h
      unfold report at hnone
      rw [List.length_zipWith, hlength, min_self] at hnone
      exact List.eq_nil_of_length_eq_zero hnone.symm
    obtain ⟨outcome, hmem, houtcome⟩ := List.any_eq_true.mp hinterrupt
    have hunsuccessful := h outcome hmem
    unfold isInterrupt at houtcome
    split at houtcome
    · exact Bool.noConfusion hunsuccessful
    · cases houtcome
  · rw [runHealthcheck_lines console env hne hinterrupt, printLines_eq_of_length]
    · exact and_congr_left' (zipWith_eq_iff (healthLine_eq_iff showLatency) hlength.symm)
    · rw [report, List.length_zipWith, List.length_zipWith]

end Command

/-- The check of a server that answers within 20 ms. -/
def reachableEnv : CheckEnv where
  extension := none
  answer _ _ := .ok (true, some 20, none)
  now := "2026-01-01"

/-- Its profile. -/
def reachableProfile : ServerProfile :=
  ⟨"a", "a", "", .ofList [("address", .str "192.0.2.1"), ("port", .int 443)], ""⟩

/-- A server that was reached is printed as unreachable. -/
theorem reachable_as_unreachable :
    (∃ result, outcomes (fun _ => reachableEnv) [reachableProfile] = [.ok result] ∧
        result.reachable = true ∧ result.latencyMs = some 20) ∧
      runHealthcheck (fun _ => none) (fun _ => reachableEnv) [reachableProfile] =
        ([.unreachable "192.0.2.1"], .ok ()) ∧
      ¬Reports (fun _ => "20.0") (fun _ => none) (fun _ => reachableEnv)
        [reachableProfile] := by
  refine ⟨⟨_, rfl, rfl, rfl⟩, rfl, ?_⟩
  rintro (hempty | hlines)
  · cases hempty
  · cases hlines

end Bimarz
