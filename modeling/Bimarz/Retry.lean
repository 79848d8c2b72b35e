import Bimarz.Exceptions
import Mathlib.Data.ENat.Lattice
import Mathlib.Data.Rat.Defs
import Mathlib.Data.Stream.Init

/-!
# Connecting to the engine with retries (`utils/retry.py`)

`connect_with_retry` over an infinite sequence of outcomes of `engine_client_class.connect`, with
the attempts and the pauses that it makes. `connectWithRetry_follows`: the attempts go up to the
first outcome that is not a retryable exception or to the budget, whichever comes first.
-/

namespace Bimarz.Retry

open Effect Effect.Act

/-! ## The code -/

/-- The codes of `grpc.StatusCode` that `is_retryable` tells apart. -/
inductive StatusCode
  | unavailable
  | deadlineExceeded
  | resourceExhausted
  | other
  deriving DecidableEq

/-- An instance of `Exception`, with its code if it is a `grpc.RpcError`. -/
structure Failure where
  kind : ErrorKind
  message : String
  rpcCode : Option StatusCode
  deriving DecidableEq

/-- `RuntimeError(message)`. -/
def runtimeError (message : String) : Failure := ⟨.runtimeError, message, none⟩

/-- `isinstance(exc, (ConnectionError, TimeoutError, OSError))`: the first two are subclasses of the
third. -/
def isOSError : ErrorKind → Bool
  | .osError => true
  | .timeoutError => true
  | _ => false

/-- `is_retryable`; `grpc` says whether the package is installed. -/
def isRetryable (grpc : Bool) (exc : Failure) : Bool :=
  if isOSError exc.kind then true
  else if grpc then
    exc.rpcCode.any fun code =>
      [StatusCode.unavailable, .deadlineExceeded, .resourceExhausted].contains code
  else false

/-- What `engine_client_class.connect` returns or raises. -/
inductive Outcome (κ : Type)
  | client (client : κ)
  | none
  | raises (exc : Failure)

inductive Event
  | attempt (endpoint : String)
  | sleep (delay : ℚ)
  deriving DecidableEq

/-- The outcomes to come, and what has happened. -/
structure Session (κ : Type) where
  outcomes : Stream' (Outcome κ)
  events : List Event

section Code

variable {κ : Type}

/-- `_attempt_once`: the client, or the exception that was caught. -/
def attemptOnce (endpoint : String) : Act Failure (Session κ) (Option κ × Option Failure) := do
  let outcome ← reads fun s => s.outcomes.head
  modify fun s => ⟨s.outcomes.tail, s.events ++ [.attempt endpoint]⟩
  match outcome with
  | .client client => return (some client, none)
  | .none => return (none, none)
  | .raises exc => return (none, some exc)

/-- `asyncio.sleep(delay)`. -/
def sleep (delay : ℚ) : Act Failure (Session κ) Unit :=
  modify fun s => { s with events := s.events ++ [.sleep delay] }

def notCreated : Failure := runtimeError "Engine client was not created."

def noAttempt : Failure := runtimeError "Failed to connect to engine after retries"

variable (grpc : Bool) (endpoint : String) (maxRetries : ℤ) (delay : ℚ)

/-- The loop over the numbers of the attempts that are left, and what follows it. -/
def attempts : List ℕ → Option Failure → Act Failure (Session κ) κ
  | [], some lastExc => raise lastExc
  | [], none => raise noAttempt
  | attempt :: rest, _ => do
    let (client, exc) ← attemptOnce endpoint
    match exc with
    | none =>
      match client with
      | none => raise notCreated
      | some client => return client
    | some exc =>
      if !isRetryable grpc exc then raise exc
      else
        if (attempt : ℤ) < maxRetries then sleep delay
        attempts rest (some exc)

/-- `connect_with_retry`: the loop is over `range(1, max_retries + 1)`. -/
def connectWithRetry : Act Failure (Session κ) κ :=
  attempts grpc endpoint maxRetries delay (List.range' 1 maxRetries.toNat) none

end Code

/-! ## Attempts and pauses -/

section Runs

variable {κ : Type}

/-- The outcome is not a retryable exception. -/
def Outcome.decides (grpc : Bool) : Outcome κ → Bool
  | .raises exc => !isRetryable grpc exc
  | _ => true

/-- What `connect_with_retry` makes of its last outcome. -/
def Outcome.result : Outcome κ → Except Failure κ
  | .client engineClient => .ok engineClient
  | .none => .error notCreated
  | .raises exc => .error exc

open Classical in
/-- The number of the first outcome that is not a retryable exception, counted from one. -/
noncomputable def firstDecided (grpc : Bool) (outcomes : Stream' (Outcome κ)) : ℕ∞ :=
  if h : ∃ i, (outcomes.get i).decides grpc = true then (Nat.find h : ℕ∞) + 1 else ⊤

/-- `n` attempts, with a pause between any two. -/
def paced (endpoint : String) (delay : ℚ) (n : ℕ) : List Event :=
  (List.replicate n (.attempt endpoint)).intersperse (.sleep delay)

theorem paced_succ (endpoint : String) (delay : ℚ) (n : ℕ) :
    paced endpoint delay (n + 2) =
      .attempt endpoint :: .sleep delay :: paced endpoint delay (n + 1) := rfl

theorem firstDecided_pos (grpc : Bool) (outcomes : Stream' (Outcome κ)) :
    1 ≤ firstDecided grpc outcomes := by
  unfold firstDecided
  split
  · exact le_add_self
  · exact le_top

theorem decides_of_firstDecided {grpc : Bool} {outcomes : Stream' (Outcome κ)} {n : ℕ}
    (h : firstDecided grpc outcomes = n + 1) : (outcomes.get n).decides grpc = true := by
  classical
  unfold firstDecided at h
  split at h
  next hsome =>
    have hfind : Nat.find hsome = n := Nat.succ.inj (by exact_mod_cast h)
    rw [← hfind]
    exact Nat.find_spec hsome
  next => exact absurd h.symm (ENat.natCast_ne_top (n + 1))

theorem not_decides_of_lt {grpc : Bool} {outcomes : Stream' (Outcome κ)} {n : ℕ}
    (h : (n + 1 : ℕ∞) < firstDecided grpc outcomes) : (outcomes.get n).decides grpc = false := by
  classical
  rw [← Bool.not_eq_true]
  intro hdecides
  have hsome : ∃ i, (outcomes.get i).decides grpc = true := ⟨n, hdecides⟩
  unfold firstDecided at h
  rw [dif_pos hsome] at h
  have hlt : n < Nat.find hsome := Nat.lt_of_succ_lt_succ (by exact_mod_cast h)
  exact Nat.find_min hsome hlt hdecides

theorem firstDecided_of_decides {grpc : Bool} {outcomes : Stream' (Outcome κ)}
    (h : outcomes.head.decides grpc = true) : firstDecided grpc outcomes = 1 := by
  have hsome : ∃ i, (outcomes.get i).decides grpc = true := ⟨0, h⟩
  unfold firstDecided
  rw [dif_pos hsome, (Nat.find_eq_zero hsome).mpr h]
  rfl

theorem firstDecided_of_retryable {grpc : Bool} {outcomes : Stream' (Outcome κ)}
    (h : outcomes.head.decides grpc = false) :
    firstDecided grpc outcomes = firstDecided grpc outcomes.tail + 1 := by
  have hhead : ¬(outcomes.get 0).decides grpc = true := Bool.not_eq_true _ ▸ h
  unfold firstDecided
  by_cases hsome : ∃ i, (outcomes.tail.get i).decides grpc = true
  · obtain ⟨i, hi⟩ := hsome
    rw [dif_pos ⟨i + 1, hi⟩, dif_pos ⟨i, hi⟩, Nat.find_comp_succ ⟨i + 1, hi⟩ ⟨i, hi⟩ hhead]
    rfl
  · rw [dif_neg hsome, dif_neg]
    · rfl
    · rintro ⟨i, hi⟩
      cases i with
      | zero => exact hhead hi
      | succ i => exact hsome ⟨i, hi⟩

end Runs

/-! ## The loop -/

section Loop

variable {κ : Type} {grpc : Bool} {endpoint : String} {maxRetries : ℤ} {delay : ℚ}
  {s : Session κ}

/-- A round that meets the last outcome. -/
theorem attempts_decided (h : s.outcomes.head.decides grpc = true) (attempt : ℕ) (rest : List ℕ)
    (lastExc : Option Failure) :
    attempts grpc endpoint maxRetries delay (attempt :: rest) lastExc s =
      (s.outcomes.head.result, ⟨s.outcomes.tail, s.events ++ [.attempt endpoint]⟩) := by
  simp only [attempts, attemptOnce, bind_apply, reads_apply, modify_apply]
  cases hhead : s.outcomes.head with
  | client engineClient => rfl
  | none => rfl
  | raises exc =>
    rw [hhead] at h
    have hretry : (!isRetryable grpc exc) = true := h
    simp only [pure_apply, hretry, if_true]
    rfl

/-- A round that meets a retryable exception. -/
theorem attempts_retryable {exc : Failure} (hhead : s.outcomes.head = .raises exc)
    (h : isRetryable grpc exc = true) (attempt : ℕ) (rest : List ℕ) (lastExc : Option Failure) :
    attempts grpc endpoint maxRetries delay (attempt :: rest) lastExc s =
      attempts grpc endpoint maxRetries delay rest (some exc) ⟨s.outcomes.tail,
        s.events ++ .attempt endpoint ::
          if (attempt : ℤ) < maxRetries then [.sleep delay] else []⟩ := by
  simp only [attempts, attemptOnce, bind_apply, reads_apply, modify_apply, hhead, pure_apply, h]
  by_cases hlast : (attempt : ℤ) < maxRetries
  · simp [hlast, sleep, bind_apply]
  · simp [hlast]

theorem retryable_of_not_decides {outcome : Outcome κ} (h : outcome.decides grpc = false) :
    ∃ exc, outcome = .raises exc ∧ isRetryable grpc exc = true := by
  cases outcome with
  | client engineClient => cases h
  | none => cases h
  | raises exc => exact ⟨exc, rfl, by simpa [Outcome.decides] using h⟩

/-- The rounds from number `m + 1` on, of which there are `r + 1`. -/
theorem attempts_run {r m : ℕ} (h : m + (r + 1) = maxRetries.toNat) (lastExc : Option Failure)
    (s : Session κ) :
    ∃ n : ℕ, (n + 1 : ℕ∞) = min (firstDecided grpc s.outcomes) (r + 1) ∧
      (attempts grpc endpoint maxRetries delay (List.range' (m + 1) (r + 1)) lastExc s).1 =
        (s.outcomes.get n).result ∧
      (attempts grpc endpoint maxRetries delay (List.range' (m + 1) (r + 1)) lastExc s).2.events =
        s.events ++ paced endpoint delay (n + 1) := by
  induction r generalizing m lastExc s with
  | zero =>
    refine ⟨0, (min_eq_right (by simpa using firstDecided_pos grpc s.outcomes)).symm, ?_⟩
    have hlast : ¬((m + 1 : ℕ) : ℤ) < maxRetries := by omega
    rw [List.range'_succ]
    cases hdecides : s.outcomes.head.decides grpc with
    | true =>
      rw [attempts_decided hdecides]
      exact ⟨rfl, rfl⟩
    | false =>
      obtain ⟨exc, hhead, hretry⟩ := retryable_of_not_decides hdecides
      rw [attempts_retryable hhead hretry, if_neg hlast]
      exact ⟨(congrArg Outcome.result hhead).symm, rfl⟩
  | succ r ih =>
    rw [List.range'_succ]
    cases hdecides : s.outcomes.head.decides grpc with
    | true =>
      refine ⟨0, ?_, ?_⟩
      · rw [firstDecided_of_decides hdecides]
        exact (min_eq_left le_add_self).symm
      · rw [attempts_decided hdecides]
        exact ⟨rfl, rfl⟩
    | false =>
      obtain ⟨exc, hhead, hretry⟩ := retryable_of_not_decides hdecides
      have hnext : ((m + 1 : ℕ) : ℤ) < maxRetries := by omega
      rw [attempts_retryable hhead hretry, if_pos hnext]
      have hrest : m + 1 + (r + 1) = maxRetries.toNat := by omega
      obtain ⟨n, hn, hresult, hevents⟩ := ih hrest (some exc)
        ⟨s.outcomes.tail, s.events ++ [.attempt endpoint, .sleep delay]⟩
      refine ⟨n + 1, ?_, hresult, ?_⟩
      · rw [firstDecided_of_retryable hdecides, Nat.cast_succ, Nat.cast_succ, hn, min_add_add_right]
      · rw [hevents, paced_succ, List.append_assoc]
        rfl

end Loop

/-! ## The budget -/

/-- What a run of `connect_with_retry` does, by the number of the first outcome that decides. -/
structure Follows {κ : Type} (grpc : Bool) (endpoint : String) (maxRetries : ℤ) (delay : ℚ)
    (outcomes : Stream' (Outcome κ)) (run : Except Failure κ × Session κ) : Prop where
  /-- as many attempts as it takes or as there are, and a pause between any two -/
  events : ∃ n : ℕ, (n : ℕ∞) = min (firstDecided grpc outcomes) maxRetries.toNat ∧
    run.2.events = paced endpoint delay n
  decided : ∀ n : ℕ, firstDecided grpc outcomes = n + 1 → n + 1 ≤ maxRetries.toNat →
    (outcomes.get n).decides grpc = true ∧ run.1 = (outcomes.get n).result
  exhausted : ∀ n : ℕ, maxRetries.toNat = n + 1 → (n + 1 : ℕ∞) < firstDecided grpc outcomes →
    ∃ exc, outcomes.get n = .raises exc ∧ isRetryable grpc exc = true ∧ run.1 = .error exc
  none : maxRetries ≤ 0 → run.1 = .error noAttempt

/-- **The retries follow their budget.** -/
theorem connectWithRetry_follows {κ : Type} (grpc : Bool) (endpoint : String) (maxRetries : ℤ)
    (delay : ℚ) (outcomes : Stream' (Outcome κ)) :
    Follows grpc endpoint maxRetries delay outcomes
      (connectWithRetry grpc endpoint maxRetries delay ⟨outcomes, []⟩) := by
  cases hbudget : maxRetries.toNat with
  | zero =>
    have hrun : connectWithRetry grpc endpoint maxRetries delay ⟨outcomes, []⟩ =
        (.error noAttempt, ⟨outcomes, []⟩) := by
      unfold connectWithRetry
      rw [hbudget]
      rfl
    rw [hrun]
    exact {
      events := ⟨0, by simp [hbudget], rfl⟩
      decided := fun n _ hn => absurd hn (by omega)
      exhausted := fun n hn => absurd hn (by omega)
      none := fun _ => rfl }
  | succ r =>
    have hzero : 0 + (r + 1) = maxRetries.toNat := by omega
    obtain ⟨n, hn, hresult, hevents⟩ :=
      @attempts_run κ grpc endpoint maxRetries delay r 0 hzero none ⟨outcomes, []⟩
    rw [← hbudget] at hresult hevents
    exact {
      events := ⟨n + 1, by rw [hbudget]; exact_mod_cast hn, hevents⟩
      decided := fun n' hn' hle => by
        refine ⟨decides_of_firstDecided hn', ?_⟩
        have hmin : (n + 1 : ℕ∞) = n' + 1 := by
          rw [hn, hn']
          exact min_eq_left (by rw [hbudget] at hle; exact_mod_cast hle)
        have heq : n = n' := Nat.succ.inj (by exact_mod_cast hmin)
        rw [← heq]
        exact hresult
      exhausted := fun n' hn' hlt => by
        obtain ⟨exc, hexc, hretry⟩ := retryable_of_not_decides (not_decides_of_lt hlt)
        have hr : r = n' := by omega
        have hmin : (n + 1 : ℕ∞) = n' + 1 := by
          rw [hn, hr]
          exact min_eq_right hlt.le
        have heq : n = n' := Nat.succ.inj (by exact_mod_cast hmin)
        refine ⟨exc, hexc, hretry, ?_⟩
        rw [heq, hexc] at hresult
        exact hresult
      none := fun h => absurd h (by omega) }

end Bimarz.Retry
