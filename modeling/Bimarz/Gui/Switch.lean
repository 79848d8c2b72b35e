import Bimarz.Effect.Triple
import Bimarz.Gui.Steps

/-!
# A switch in the GUI

The recovery of a failed switch only logs that it failed, and a timeout in the middle of a switch
is dropped by the loop, so a worker may go on without its outbound. `SwitchOk` says of a switch,
from what the environment does in it, that this does not happen.
-/

namespace Bimarz.Gui

open Effect Effect.Act

/-! ## What the loop looks at -/

structure View where
  loop : LoopStatus
  profile : ServerProfile
  allProfiles : Option (Dict String ServerProfile)
  client : Bool
  manager : FailoverManager
  registered : Option OutboundKwargs
  owned : Bool
  pending : Bool
  expired : Bool

def Worker.view (s : Worker) : View :=
  ⟨s.loop, s.profile, s.allProfiles, s.client, s.manager, s.registered, s.outboundOwned, s.pending,
    s.expired⟩

/-- No cancellation is waiting or on its way. -/
def View.Calm (v : View) : Prop := v.pending = false ∧ v.expired = false

/-- The manager's active profile is the worker's, and its outbound is registered and owned. -/
def View.Together (v : View) : Prop :=
  v.manager.activeProfileId = v.profile.profileId ∧ v.owned = true ∧
    ∃ kwargs, activeOutbound v.profile = .ok kwargs ∧ v.registered = some kwargs

def Worker.Together (s : Worker) : Prop := s.view.Together

/-! ## The conditions -/

/-- A recovery ends with the old outbound registered and owned. -/
def RecoverOk (registered : Option OutboundKwargs) (remove add : Moment)
    (oldKwargs : OutboundKwargs) : Prop :=
  match registered with
  | none => add.fate = .returns
  | some kwargs =>
    match remove.fate with
    | .returns => add.fate = .returns
    | .raises _ _ => kwargs = oldKwargs
    | .expires => remove.late = false ∧ kwargs = oldKwargs

/-- A switch ends with the outbound of the profile that the worker has then. -/
def SwitchOk (round : Round) (plan : Plan) : Prop :=
  match round.remove.fate with
  | .returns =>
    match round.add.fate with
    | .returns => plan.nextId ≠ "" ∨
        RecoverOk (some plan.newKwargs) round.undoRemove round.undoAdd plan.oldKwargs
    | .raises _ _ => RecoverOk none round.recoverRemove round.recoverAdd plan.oldKwargs
    | .expires => False
  | .raises _ _ =>
    RecoverOk (some plan.oldKwargs) round.recoverRemove round.recoverAdd plan.oldKwargs
  | .expires => round.remove.late = false

/-- The manager after it has counted the health check of the profile in use. -/
def View.counted (v : View) (round : Round) : FailoverManager :=
  v.manager.recordActiveProfileResult
    ⟨v.profile.profileId, round.reachable, round.latencyMs, round.checkedAtIso, round.errorMessage⟩

/-- The health checks of a round return and lead to a switch. -/
def View.Switches (v : View) (round : Round) (plan : Plan) : Prop :=
  v.client = true ∧ ∃ profiles, v.allProfiles = some profiles ∧ profiles.values.isEmpty = false ∧
    ((∃ target, v.profile.target = .ok target) ∧ round.check.fate = .returns) ∧
    (v.counted round).shouldFailover = true ∧
    ((∃ targets, targetsOf profiles.values = .ok targets) ∧ round.batch.fate = .returns) ∧
    planSwitch v.profile (v.counted round) profiles
      (collectResults round.checkedAtIso round.rows) = .ok (some plan)

/-- If a round begins a switch, the switch ends well. -/
def View.Ok (v : View) (round : Round) : Prop := ∀ plan, v.Switches round plan → SwitchOk round plan

def RoundOk (s : Worker) : Prop := s.view.Ok s.rounds.head

/-! ## Awaiting -/

section Await

/-- How an awaited call fails from the view `v`, where it would have led to `v'`: it raises, the
timeout cancels it, or a `stop` does. -/
inductive Failed (moment : Moment) (v v' : View) : Exc → Worker → Prop
  | raised {kind : ErrorKind} {message : String} {s : Worker}
      (hfate : moment.fate = .raises kind message) (hv : s.view = v) :
      Failed moment v v' (.error kind message) s
  | expired {s : Worker} (hfate : moment.fate = .expires)
      (hv : s.view = { (if moment.late then v' else v) with expired := true }) :
      Failed moment v v' .cancelled s
  | stopped {s : Worker} (hv : s.expired = false) : Failed moment v v' .cancelled s

/-- A `stop` that posts no cancellation leaves the view alone. -/
theorem view_stopIf (b : Bool) {s : Worker} (hpending : s.pending = false)
    (h : (s.stopIf b).pending = false) : (s.stopIf b).view = s.view := by
  cases b with
  | false => rfl
  | true =>
    show ({ s.view with pending := s.stop.pending } : View) = s.view
    rw [show s.stop.pending = s.pending from h.trans hpending.symm]
    rfl

/-- **An awaited call** from a calm view. -/
theorem await_triple (moment : Moment) {effect : Worker → Worker} {v v' : View} (hv : v.Calm)
    (hv' : v'.pending = false) (heffect : ∀ s, s.view = v → (effect s).view = v')
    (hexpired : ∀ s, (effect s).expired = s.expired) :
    Triple (fun s => s.view = v) (await moment effect)
      (fun _ s => moment.fate = .returns ∧ s.view = v') (Failed moment v v') := by
  rintro s rfl
  have hcalm := (expired_stopIf moment.stop s).trans hv.2
  rcases await_cases moment effect s with ⟨-, hrun⟩ | ⟨hpending, hcases⟩
  · rw [hrun]
    exact Failed.stopped ((expired_cancelled moment hexpired).trans hcalm)
  have ht : (s.stopIf moment.stop).view = s.view := view_stopIf moment.stop hv.1 hpending
  generalize s.stopIf moment.stop = t at hcases ht
  rcases hcases with ⟨hfate, hrun⟩ | ⟨kind, message, hfate, hrun⟩ | ⟨hfate, hrun⟩ <;> rw [hrun]
  · exact ⟨hfate, heffect t ht⟩
  · exact Failed.raised hfate ht
  · refine Failed.expired hfate ?_
    show ({ (t.cancelled moment effect).view with expired := true } : View) = _
    unfold Worker.cancelled
    cases moment.late with
    | false =>
      show ({ t.view with pending := false, expired := true } : View) = _
      rw [ht]
      exact congrArg (fun pending => ({ s.view with pending, expired := true } : View)) hv.1.symm
    | true =>
      show ({ (effect t).view with pending := false, expired := true } : View) = _
      rw [heffect t ht]
      exact congrArg (fun pending => ({ v' with pending, expired := true } : View)) hv'.symm

theorem awaitRemove_triple (moment : Moment) {v : View} (hv : v.Calm) :
    Triple (fun s => s.view = v) (awaitRemove moment)
      (fun _ s => moment.fate = .returns ∧ s.view = { v with registered := none })
      (Failed moment v { v with registered := none }) := by
  refine await_triple moment hv ?_ ?_ ?_
  · exact hv.1
  · intro s hs
    rw [← hs]
    rfl
  · intro s
    rfl

/-- Adding to a free tag. -/
theorem awaitAdd_free (moment : Moment) (kwargs : OutboundKwargs) {v : View} (hv : v.Calm)
    (hfree : v.registered = none) :
    Triple (fun s => s.view = v) (awaitAdd moment kwargs)
      (fun _ s => moment.fate = .returns ∧ s.view = { v with registered := some kwargs })
      (Failed moment v { v with registered := some kwargs }) := by
  intro s hs
  unfold awaitAdd
  have hnone : ¬s.registered.isSome = true := by
    rw [show s.registered = none from (congrArg View.registered hs).trans hfree]
    decide
  rw [reads_bind_apply, ite_run, if_neg hnone]
  refine await_triple moment hv ?_ ?_ ?_ s hs
  · exact hv.1
  · intro s hs
    rw [← hs]
    rfl
  · intro s
    rfl

/-- Adding to a taken tag changes nothing and does not return. -/
theorem awaitAdd_taken (moment : Moment) (kwargs : OutboundKwargs) {v : View} (hv : v.Calm)
    (htaken : v.registered.isSome = true) :
    Triple (fun s => s.view = v) (awaitAdd moment kwargs) (fun _ _ => False)
      (fun e s => (e.isException = true ∧ s.view = v) ∨
        e = .cancelled ∧ (s.expired = true → s.view = { v with expired := true })) := by
  have hrefused : Triple (fun s => s.view = v)
      (do await moment id; raise (.error .runtimeError "outbound tag is already registered"))
      (fun (_ : Unit) _ => False)
      (fun e s => (e.isException = true ∧ s.view = v) ∨
        e = .cancelled ∧ (s.expired = true → s.view = { v with expired := true })) := by
    refine Triple.bind (R := fun _ s => s.view = v) ?_
      fun _ => Triple.raise fun s hs => Or.inl ⟨rfl, hs⟩
    refine (await_triple moment hv hv.1 (fun s hs => hs) fun _ => rfl).mono
      (fun _ s hs => hs.2) fun e s hfailed => ?_
    cases hfailed with
    | raised hfate hview => exact Or.inl ⟨rfl, hview⟩
    | expired hfate hview =>
      refine Or.inr ⟨rfl, fun _ => ?_⟩
      rw [hview, ite_self]
    | stopped hexpired =>
      exact Or.inr ⟨rfl, fun h => absurd (hexpired.symm.trans h) Bool.false_ne_true⟩
  intro s hs
  unfold awaitAdd
  have hsome : s.registered.isSome = true := (congrArg (·.registered.isSome) hs).trans htaken
  rw [reads_bind_apply, ite_run, if_pos hsome]
  exact hrefused s hs

end Await

/-! ## Recovering -/

section Recover

variable {v : View} (oldKwargs : OutboundKwargs) {ok : Prop}

/-- What is left of the view `v`, which has the old outbound registered and owned exactly if `ok`. -/
def Leaves (v : View) (oldKwargs : OutboundKwargs) (ok : Prop) (s : Worker) : Prop :=
  ∃ registered owned expired, s.view = { v with registered, owned, expired } ∧
    (registered = some oldKwargs ∧ owned = true ↔ ok)

/-- The same, where the task was cancelled: a `stop` leaves the loop, so nothing is said then. -/
def LeavesCancelled (v : View) (oldKwargs : OutboundKwargs) (ok : Prop) (e : Exc) (s : Worker) :
    Prop := e = .cancelled ∧ (s.expired = true → Leaves v oldKwargs ok s)

/-- Adding the old outbound again where there is none. -/
theorem restore_free (add : Moment) (hv : v.Calm) (hfree : v.registered = none)
    (howned : v.owned = false) :
    Triple (fun s => s.view = v) (suppress (addOutbound add oldKwargs))
      (fun _ => Leaves v oldKwargs (add.fate = .returns))
      (LeavesCancelled v oldKwargs (add.fate = .returns)) := by
  have hadd : Triple (fun s => s.view = v) (addOutbound add oldKwargs)
      (fun _ => Leaves v oldKwargs (add.fate = .returns))
      (Failed add v { v with registered := some oldKwargs }) := by
    refine Triple.bind (awaitAdd_free add oldKwargs hv hfree) fun _ => Triple.modify ?_
    rintro s ⟨hfate, hs⟩
    refine ⟨some oldKwargs, true, v.expired, ?_, iff_of_true ⟨rfl, rfl⟩ hfate⟩
    show ({ s.view with owned := true } : View) = _
    rw [hs]
  refine suppress_triple hadd ?_ ?_
  · intro e s he hfailed
    cases hfailed with
    | raised hfate hs =>
      refine ⟨none, false, v.expired, ?_, iff_of_false (by simp) (by simp [hfate])⟩
      rw [hs, ← hfree, ← howned]
    | expired => cases he
    | stopped => cases he
  · intro e s he hfailed
    cases hfailed with
    | raised => cases he
    | stopped hexpired =>
      exact ⟨rfl, fun h => absurd (hexpired.symm.trans h) Bool.false_ne_true⟩
    | expired hfate hs =>
      refine ⟨rfl, fun _ => ?_⟩
      by_cases hlate : add.late = true
      · refine ⟨some oldKwargs, false, true, ?_, iff_of_false (by simp) (by simp [hfate])⟩
        rw [hs, if_pos hlate, ← howned]
      · refine ⟨none, false, true, ?_, iff_of_false (by simp) (by simp [hfate])⟩
        rw [hs, if_neg hlate, ← hfree, ← howned]

/-- Adding the old outbound again where one is registered fails. -/
theorem restore_taken (add : Moment) (hv : v.Calm) (htaken : v.registered.isSome = true) :
    Triple (fun s => s.view = v) (suppress (addOutbound add oldKwargs))
      (fun _ s => s.view = v)
      (fun e s => e = .cancelled ∧ (s.expired = true → s.view = { v with expired := true })) := by
  refine suppress_triple
    (Triple.bind (awaitAdd_taken add oldKwargs hv htaken) fun _ s hs => hs.elim) ?_ ?_
  · rintro e s he (⟨-, hs⟩ | ⟨rfl, -⟩)
    · exact hs
    · cases he
  · rintro e s he (⟨he', -⟩ | h)
    · exact absurd (he.symm.trans he') Bool.false_ne_true
    · exact h

/-- Removing the outbound that is owned. -/
theorem removeOwned_triple (remove add : Moment) {kwargs : OutboundKwargs} (hv : v.Calm)
    (hregistered : v.registered = some kwargs) (howned : v.owned = true) :
    Triple (fun s => s.view = v)
      (suppress do if ← reads Worker.outboundOwned then removeOutbound remove)
      (fun _ s => (remove.fate = .returns ∧ s.view = { v with registered := none, owned := false }) ∨
        (∃ kind message, remove.fate = .raises kind message) ∧ s.view = v)
      (LeavesCancelled v oldKwargs (RecoverOk (some kwargs) remove add oldKwargs)) := by
  have hremove : Triple (fun s => s.view = v)
      (do if ← reads Worker.outboundOwned then removeOutbound remove)
      (fun _ s => remove.fate = .returns ∧ s.view = { v with registered := none, owned := false })
      (Failed remove v { v with registered := none }) := by
    refine Triple.bind (R := fun isOwned s => isOwned = true ∧ s.view = v)
      (Triple.reads fun s hs => ⟨(congrArg View.owned hs).trans howned, hs⟩) fun isOwned => ?_
    refine Triple.ite (fun _ => ?_) fun h => Triple.pure fun s hs => absurd hs.1 h
    refine Triple.bind ((awaitRemove_triple remove hv).conseq (fun _ hs => hs.2) (fun _ _ hs => hs)
      fun _ _ hs => hs) fun _ => Triple.modify ?_
    rintro s ⟨hfate, hs⟩
    refine ⟨hfate, ?_⟩
    show ({ s.view with owned := false } : View) = _
    rw [hs]
  refine suppress_triple
    (hremove.mono (fun _ _ hs => Or.inl hs) fun _ _ hs => hs) ?_ ?_
  · intro e s he hfailed
    cases hfailed with
    | raised hfate hs => exact Or.inr ⟨⟨_, _, hfate⟩, hs⟩
    | expired => cases he
    | stopped => cases he
  · intro e s he hfailed
    cases hfailed with
    | raised => cases he
    | stopped hexpired =>
      exact ⟨rfl, fun h => absurd (hexpired.symm.trans h) Bool.false_ne_true⟩
    | expired hfate hs =>
      refine ⟨rfl, fun _ => ?_⟩
      unfold RecoverOk
      by_cases hlate : remove.late = true
      · refine ⟨none, true, true, ?_, iff_of_false (by simp) (by simp [hfate, hlate])⟩
        rw [hs, if_pos hlate, ← howned]
      · refine ⟨some kwargs, true, true, ?_, by simp [hfate, hlate]⟩
        rw [hs, if_neg hlate, ← howned, ← hregistered]

/-- **A recovery** ends with the old outbound registered and owned exactly under its condition. -/
theorem recover_triple (remove add : Moment) (hv : v.Calm)
    (howned : v.owned = v.registered.isSome) :
    Triple (fun s => s.view = v) (recover remove add oldKwargs)
      (fun _ => Leaves v oldKwargs (RecoverOk v.registered remove add oldKwargs))
      (LeavesCancelled v oldKwargs (RecoverOk v.registered remove add oldKwargs)) := by
  cases hregistered : v.registered with
  | none =>
    have hnot : v.owned = false := howned.trans (by rw [hregistered]; rfl)
    refine Triple.bind (R := fun _ s => s.view = v) ?_ fun _ =>
      restore_free oldKwargs add hv hregistered hnot
    refine suppress_triple (E := fun _ _ => False) ?_ (fun _ _ _ h => h.elim) fun _ _ _ h => h.elim
    refine Triple.bind (R := fun isOwned s => isOwned = false ∧ s.view = v)
      (Triple.reads fun s hs => ⟨(congrArg View.owned hs).trans hnot, hs⟩) fun isOwned => ?_
    refine Triple.ite (fun h => ?_) fun _ => Triple.pure fun s hs => hs.2
    exact fun s hs => absurd (hs.1.symm.trans h) Bool.false_ne_true
  | some kwargs =>
    have hown : v.owned = true := howned.trans (by rw [hregistered]; rfl)
    refine Triple.bind (removeOwned_triple oldKwargs remove add hv hregistered hown) fun _ => ?_
    rintro s (⟨hfate, hs⟩ | ⟨⟨kind, message, hfate⟩, hs⟩)
    · have hrestore := restore_free (v := { v with registered := none, owned := false })
        oldKwargs add hv rfl rfl
      have hok : RecoverOk (some kwargs) remove add oldKwargs ↔ add.fate = .returns := by
        unfold RecoverOk
        rw [hfate]
      rw [hok]
      exact hrestore s hs
    · have hrestore := restore_taken oldKwargs add hv (by rw [hregistered]; rfl)
      have hok : RecoverOk (some kwargs) remove add oldKwargs ↔ kwargs = oldKwargs := by
        unfold RecoverOk
        rw [hfate]
      have hleaves : ∀ {t : Worker} (expired : Bool), t.view = { v with expired } →
          Leaves v oldKwargs (RecoverOk (some kwargs) remove add oldKwargs) t := by
        intro t expired ht
        refine ⟨v.registered, v.owned, expired, ht, ?_⟩
        rw [hok, hregistered, hown, Option.some.injEq, and_iff_left rfl]
      refine (hrestore.mono (fun _ t ht => ?_) fun e t ht => ?_) s hs
      · exact hleaves v.expired ht
      · exact ⟨ht.1, fun hexpired => hleaves true (ht.2 hexpired)⟩

end Recover

/-! ## Switching -/

section Switch

variable {v : View} {round : Round} {plan : Plan}

/-- The view between the removal of the old outbound and the addition of the new one. -/
def View.free (v : View) : View := { v with registered := none, owned := false }

/-- How the `try` block of a switch fails: its removal raises, its addition raises, or the task is
cancelled. -/
inductive SwitchFailed (v : View) (round : Round) (plan : Plan) : Exc → Worker → Prop
  | remove {kind kind' : ErrorKind} {message message' : String} {s : Worker}
      (hremove : round.remove.fate = .raises kind message) (hs : s.view = v) :
      SwitchFailed v round plan (.error kind' message') s
  | add {kind kind' : ErrorKind} {message message' : String} {s : Worker}
      (hremove : round.remove.fate = .returns) (hadd : round.add.fate = .raises kind message)
      (hs : s.view = v.free) : SwitchFailed v round plan (.error kind' message') s
  | cancelled {e : Exc} {s : Worker}
      (hs : LeavesCancelled v plan.oldKwargs (SwitchOk round plan) e s) :
      SwitchFailed v round plan e s

/-- A `stop` cancels the task, so the loop is left. -/
theorem leavesCancelled_stopped {oldKwargs : OutboundKwargs} {ok : Prop} {s : Worker}
    (h : s.expired = false) : LeavesCancelled v oldKwargs ok .cancelled s :=
  ⟨rfl, fun hexpired => absurd (h.symm.trans hexpired) Bool.false_ne_true⟩

/-- The first half of the `try` block. -/
theorem removeOld_triple (hv : v.Calm) (hregistered : v.registered = some plan.oldKwargs)
    (howned : v.owned = true) :
    Triple (fun s => s.view = v) (removeOutbound round.remove)
      (fun _ s => round.remove.fate = .returns ∧ s.view = v.free) (SwitchFailed v round plan) := by
  refine Triple.bind ((awaitRemove_triple round.remove hv).mono_error ?_) fun _ => Triple.modify ?_
  · intro e s hfailed
    cases hfailed with
    | raised hfate hs => exact .remove hfate hs
    | stopped hexpired => exact .cancelled (leavesCancelled_stopped hexpired)
    | expired hfate hs =>
      refine .cancelled ⟨rfl, fun _ => ?_⟩
      unfold SwitchOk
      by_cases hlate : round.remove.late = true
      · refine ⟨none, true, true, ?_, iff_of_false (by simp) (by simp [hfate, hlate])⟩
        rw [hs, if_pos hlate, ← howned]
      · refine ⟨some plan.oldKwargs, true, true, ?_, by simp [hfate, hlate]⟩
        rw [hs, if_neg hlate, ← howned, ← hregistered]
  · rintro s ⟨hfate, hs⟩
    refine ⟨hfate, ?_⟩
    show ({ s.view with owned := false } : View) = _
    rw [hs]
    rfl

/-- The second half of the `try` block. -/
theorem addNew_triple (hv : v.Calm) (howned : v.owned = true)
    (hremove : round.remove.fate = .returns) :
    Triple (fun s => s.view = v.free) (addOutbound round.add plan.newKwargs)
      (fun _ s => round.add.fate = .returns ∧
        s.view = { v with registered := some plan.newKwargs }) (SwitchFailed v round plan) := by
  refine Triple.bind ((awaitAdd_free (v := v.free) round.add plan.newKwargs hv rfl).mono_error ?_)
    fun _ => Triple.modify ?_
  · intro e s hfailed
    cases hfailed with
    | raised hfate hs => exact .add hremove hfate hs
    | stopped hexpired => exact .cancelled (leavesCancelled_stopped hexpired)
    | expired hfate hs =>
      refine .cancelled ⟨rfl, fun _ => ⟨if round.add.late then some plan.newKwargs else none,
        false, true, ?_, iff_of_false (by simp) (by simp [SwitchOk, hremove, hfate])⟩⟩
      rw [hs]
      cases round.add.late <;> rfl
  · rintro s ⟨hfate, hs⟩
    refine ⟨hfate, ?_⟩
    show ({ s.view with owned := true } : View) = _
    rw [hs, ← howned]
    rfl

/-- What a switch leads to: the new outbound, or the old one exactly under its condition. -/
def Switched (v : View) (round : Round) (plan : Plan) : Bool → Worker → Prop
  | true, s => round.remove.fate = .returns ∧ round.add.fate = .returns ∧
      s.view = { v with registered := some plan.newKwargs }
  | false, s => Leaves v plan.oldKwargs (SwitchOk round plan) s

/-- **The switch** of a view whose old outbound is registered and owned. -/
theorem switchOutbound_triple (hv : v.Calm) (hregistered : v.registered = some plan.oldKwargs)
    (howned : v.owned = true) :
    Triple (fun s => s.view = v) (switchOutbound round plan) (Switched v round plan)
      (LeavesCancelled v plan.oldKwargs (SwitchOk round plan)) := by
  refine Triple.handle (F := SwitchFailed v round plan) ?_ ?_ ?_
  · refine Triple.bind (removeOld_triple hv hregistered howned) fun _ => ?_
    rintro s ⟨hremove, hs⟩
    have hadd : Triple (fun s => s.view = v.free)
        (do addOutbound round.add plan.newKwargs; return true) (Switched v round plan)
        (SwitchFailed v round plan) :=
      Triple.bind (addNew_triple hv howned hremove) fun _ => Triple.pure fun t ht =>
        ⟨hremove, ht⟩
    exact hadd s hs
  · intro e he
    have hrecover {w : View} (hw : w.Calm) (hown : w.owned = w.registered.isSome)
        (hok : RecoverOk w.registered round.recoverRemove round.recoverAdd plan.oldKwargs ↔
          SwitchOk round plan)
        (hview : ∀ registered owned expired, ({ w with registered, owned, expired } : View) =
          { v with registered, owned, expired }) :
        Triple (fun s => s.view = w)
          (do recover round.recoverRemove round.recoverAdd plan.oldKwargs; return false)
          (Switched v round plan) (LeavesCancelled v plan.oldKwargs (SwitchOk round plan)) := by
      have hleaves : ∀ s, Leaves w plan.oldKwargs
          (RecoverOk w.registered round.recoverRemove round.recoverAdd plan.oldKwargs) s →
          Leaves v plan.oldKwargs (SwitchOk round plan) s := by
        rintro s ⟨registered, owned, expired, hs, hiff⟩
        exact ⟨registered, owned, expired, hs.trans (hview _ _ _), hiff.trans hok⟩
      refine Triple.bind ((recover_triple plan.oldKwargs round.recoverRemove round.recoverAdd hw
        hown).mono (fun _ s hs => hleaves s hs) ?_) fun _ => Triple.pure fun _ hs => hs
      exact fun e s hs => ⟨hs.1, fun hexpired => hleaves s (hs.2 hexpired)⟩
    intro s hfailed
    cases hfailed with
    | remove hremove hs =>
      refine hrecover hv (by rw [howned, hregistered]; rfl) ?_ (fun _ _ _ => rfl) s hs
      rw [hregistered]
      unfold SwitchOk
      rw [hremove]
    | add hremove hadd hs =>
      refine hrecover (w := v.free) hv rfl ?_ (fun _ _ _ => rfl) s hs
      unfold SwitchOk
      rw [hremove, hadd]
      exact Iff.rfl
    | cancelled hs =>
      rw [hs.1] at he
      cases he
  · intro e s he hfailed
    cases hfailed with
    | remove => cases he
    | add => cases he
    | cancelled hs => exact hs

/-- What a round that goes on leaves of the view `v`: it has its outbound exactly if `ok`. -/
def Kept (v : View) (ok : Prop) (s : Worker) : Prop :=
  s.allProfiles = v.allProfiles ∧ s.loop = v.loop ∧ (s.Together ↔ ok)

/-- Where a switch leaves the worker with its old profile. -/
theorem Leaves.kept {oldKwargs : OutboundKwargs} {ok : Prop} {s : Worker}
    (hactive : v.manager.activeProfileId = v.profile.profileId)
    (hold : activeOutbound v.profile = .ok oldKwargs) (h : Leaves v oldKwargs ok s) :
    Kept v ok s := by
  obtain ⟨registered, owned, expired, hs, hiff⟩ := h
  refine ⟨congrArg View.allProfiles hs, congrArg View.loop hs, ?_⟩
  rw [← hiff]
  unfold Worker.Together View.Together
  rw [hs]
  constructor
  · rintro ⟨-, ho, k, hk, hr⟩
    obtain rfl : oldKwargs = k := Except.ok.inj (hold.symm.trans hk)
    exact ⟨hr, ho⟩
  · rintro ⟨hr, ho⟩
    exact ⟨hactive, ho, oldKwargs, hold, hr⟩

/-- The rest of a check, after its decision. -/
theorem performSwitch_triple (hv : v.Calm) (htogether : v.Together)
    (hold : activeOutbound v.profile = .ok plan.oldKwargs)
    (hnew : activeOutbound plan.nextProfile = .ok plan.newKwargs)
    (hnext : plan.nextProfile.profileId = plan.nextId)
    (hne : plan.nextId ≠ v.manager.activeProfileId) :
    Triple (fun s => s.view = v) (performSwitch round plan)
      (fun _ => Kept v (SwitchOk round plan))
      (fun e s => e = .cancelled ∧ (s.expired = true → Kept v (SwitchOk round plan) s)) := by
  obtain ⟨hactive, howned, kwargs, hkwargs, hregistered⟩ := htogether
  obtain rfl : plan.oldKwargs = kwargs := Except.ok.inj (hold.symm.trans hkwargs)
  have hleaves : ∀ s, Leaves v plan.oldKwargs (SwitchOk round plan) s →
      Kept v (SwitchOk round plan) s := fun s h => h.kept hactive hold
  refine Triple.bind ((switchOutbound_triple hv hregistered howned).mono_error
    fun e s hs => ⟨hs.1, fun hexpired => hleaves s (hs.2 hexpired)⟩)
    fun succeeded => ?_
  cases succeeded with
  | false => exact Triple.pure fun s hs => hleaves s hs
  | true =>
    refine Triple.bind (R := fun m s => m = v.manager ∧ Switched v round plan true s)
      (Triple.reads fun s hs => ⟨congrArg View.manager hs.2.2, hs⟩) fun m => ?_
    rintro s ⟨rfl, hremove, hadd, hs⟩
    rcases FailoverManager.triggerFailover_cases v.manager plan.nextId
      s!"{v.manager.threshold} consecutive failures" round.occurredAtIso with
      ⟨hempty, message, htrigger⟩ | ⟨hid, -, event, m', htrigger, hm', -⟩
    · have hnone : plan.nextId = "" := hempty.resolve_right hne
      have hrecover := recover_triple (v := { v with registered := some plan.newKwargs })
        plan.oldKwargs round.undoRemove round.undoAdd hv howned
      have hok : RecoverOk (some plan.newKwargs) round.undoRemove round.undoAdd plan.oldKwargs ↔
          SwitchOk round plan := by
        unfold SwitchOk
        rw [hremove, hadd]
        exact (or_iff_right (not_not.mpr hnone)).symm
      have hundone : ∀ t, Leaves { v with registered := some plan.newKwargs } plan.oldKwargs
          (RecoverOk (some plan.newKwargs) round.undoRemove round.undoAdd plan.oldKwargs) t →
          Kept v (SwitchOk round plan) t := by
        rintro t ⟨registered, owned, expired, ht, hiff⟩
        exact hleaves t ⟨registered, owned, expired, ht, hiff.trans hok⟩
      rw [htrigger]
      exact (hrecover.mono (fun _ t ht => hundone t ht)
        fun e t ht => ⟨ht.1, fun hexpired => hundone t (ht.2 hexpired)⟩) s hs
    · rw [htrigger]
      have htogether : View.Together
          { s.view with manager := m', profile := plan.nextProfile } := by
        refine ⟨hm'.trans hnext.symm, ?_, plan.newKwargs, hnew, congrArg View.registered hs⟩
        exact (congrArg View.owned hs).trans howned
      refine ⟨congrArg View.allProfiles hs, congrArg View.loop hs, iff_of_true htogether ?_⟩
      unfold SwitchOk
      rw [hremove, hadd]
      exact Or.inl hid

end Switch

end Bimarz.Gui
