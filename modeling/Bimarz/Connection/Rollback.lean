import Bimarz.Connection.Invariant

/-!
# Startup is a transaction

1. `Accounted`: in the `try` block of `start`, failover included, the ownership flags are those
   that the log of calls gives.
2. `rollback_run`: the calls, events and flags of a rollback, whatever subset of it fails.
3. `start_transaction` puts the two together.
-/

namespace Bimarz.Connection

open Effect Effect.Act

/-! ## Ownership -/

inductive Resource
  | outbound
  | engine
  | process
  | killswitch
  deriving DecidableEq, Repr

structure Ownership where
  outbound : Bool := false
  engine : Bool := false
  process : Bool := false
  killswitch : Bool := false
  deriving DecidableEq, Repr

def Ownership.has (o : Ownership) : Resource → Bool
  | .outbound => o.outbound
  | .engine => o.engine
  | .process => o.process
  | .killswitch => o.killswitch

/-- The operation that releases a resource. -/
def Resource.release : Resource → Op
  | .outbound => .removeOutbound
  | .engine => .close
  | .process => .processStop
  | .killswitch => .disable

/-- What an entry of the log does to ownership: `start` begins with nothing, a call that returned
has acquired or released its resource. -/
def Ownership.step (o : Ownership) : Item → Ownership
  | .emit .started _ => {}
  | .call .processStart none => { o with process := true }
  | .call .connect none => { o with engine := true }
  | .call .addOutbound none => { o with outbound := true }
  | .call .enable none => { o with killswitch := true }
  | .call .removeOutbound none => { o with outbound := false }
  | .call .close none => { o with engine := false }
  | .call .processStop none => { o with process := false }
  | .call .disable none => { o with killswitch := false }
  | _ => o

/-- The resources owned at the end of a log. -/
def owned (log : List Item) : Ownership := log.foldl Ownership.step {}

@[simp] theorem owned_append (log : List Item) (item : Item) :
    owned (log ++ [item]) = (owned log).step item := List.foldl_append

section

variable {W : Type}

/-- The ownership flags. -/
def ConnectionService.flags (s : ConnectionService W) : Ownership :=
  ⟨s.outboundOwned, s.engineOwned, s.processOwned, s.killswitchEnabled⟩

/-- The flags are what the log gives. -/
def Accounted (s : ConnectionService W) : Prop := s.flags = owned s.log

end

/-! ## The flags follow the log -/

section Accounting

variable {W : Type} (svc : Services W)

theorem keeps_onWorld {α : Type} (m : Act Exc W α) : Keeps Accounted (onWorld m) :=
  Keeps.of_run fun _ h => h

theorem keeps_record {item : Item} (h : ∀ o : Ownership, o.step item = o) :
    Keeps (Accounted (W := W)) (record item) := by
  refine Keeps.modify fun s hs => ?_
  show s.flags = owned (s.log ++ [item])
  rw [owned_append, h]
  exact hs

/-- A failed call changes no ownership. -/
theorem step_call_some (o : Ownership) (op : Op) (e : Exc) : o.step (.call op (some e)) = o := by
  cases op <;> rfl

/-- A call followed by the flag that its success gives. -/
theorem keeps_invoke_then {op : Op} {m : Act Exc W Unit}
    {f : ConnectionService W → ConnectionService W} (hlog : ∀ s, (f s).log = s.log)
    (hflags : ∀ s, (f s).flags = s.flags.step (.call op none)) :
    Keeps Accounted (do invoke op m; modify f) := by
  refine Keeps.of_run fun s hs => ?_
  rcases hm : m s.world with ⟨e | u, w⟩
  · rw [bind_error (invoke_error hm)]
    show s.flags = owned (s.log ++ [.call op (some e)])
    rw [owned_append, step_call_some]
    exact hs
  · rw [bind_ok (invoke_ok hm)]
    show (f (s.called w op none)).flags = owned (f (s.called w op none)).log
    rw [hflags, hlog]
    show s.flags.step _ = owned (s.log ++ [.call op none])
    rw [owned_append, ← hs]

/-- A call that acquires and releases nothing. -/
theorem keeps_invoke {op : Op} {m : Act Exc W Unit}
    (h : ∀ (o : Ownership) raised, o.step (.call op raised) = o) :
    Keeps Accounted (invoke op m) :=
  invoke_keeps (keeps_onWorld m) fun raised => keeps_record (h · raised)

/-- The flags stay true to the log in the whole `try` block. -/
theorem stable_accounted : Stable svc Accounted where
  observe _ := keeps_onWorld _
  emitted event payload h := keeps_record fun o => by
    cases event <;> first | rfl | exact absurd rfl h
  lookedUp _ _ := keeps_record fun _ => rfl
  registered _ := Keeps.modify fun _ hs => hs
  startProcess _ := keeps_invoke_then (fun _ => rfl) fun _ => rfl
  connectEngine := keeps_invoke_then (fun _ => rfl) fun _ => rfl
  addOutbound _ := keeps_invoke_then (fun _ => rfl) fun _ => rfl
  removeOutbound := keeps_invoke_then (fun _ => rfl) fun _ => rfl
  enableKillswitch := keeps_invoke_then (fun _ => rfl) fun _ => rfl
  startWatcher := keeps_invoke fun _ _ => rfl
  markStarted := Keeps.modify fun _ hs => hs

end Accounting

/-! ## What a rollback does -/

/-- What became of a release: `none` if it was not attempted, otherwise what it raised. -/
abbrev Attempt := Option (Option Exc)

def Attempt.calls (op : Op) : Attempt → List Item
  | none => []
  | some raised => [.call op raised]

def Attempt.messages (label : String) : Attempt → List String
  | some (some e) => [label ++ e.message]
  | _ => []

def Attempt.failed : Attempt → Bool
  | some (some _) => true
  | _ => false

/-- The event that follows a process that has been stopped. -/
def Attempt.stopped : Attempt → List Item
  | some none => [.emit .processStopped {}]
  | _ => []

/-- The message that a failed release begins with. -/
def Op.label : Op → String
  | .unregisterSignals => "signal cleanup failed: "
  | .stopWatcher => "kill-switch watcher stop failed: "
  | .removeOutbound => "engine outbound cleanup failed: "
  | .close => "engine client cleanup failed: "
  | .processStop => "xray process cleanup failed: "
  | .disable => "kill-switch disable failed: "
  | _ => ""

/-- What became of the six steps of a rollback. -/
structure Outcomes where
  signals : Attempt
  watcher : Option Exc
  outbound : Attempt
  engine : Attempt
  process : Attempt
  killswitch : Attempt

namespace Outcomes

variable (o : Outcomes)

def errors : List String :=
  o.signals.messages Op.unregisterSignals.label ++
    Attempt.messages Op.stopWatcher.label (some o.watcher) ++
    o.outbound.messages Op.removeOutbound.label ++ o.engine.messages Op.close.label ++
    o.process.messages Op.processStop.label ++ o.killswitch.messages Op.disable.label

def report (errors : List String) : List Item :=
  if errors = [] then [] else [.emit .error { error := some ("; ".intercalate errors) }]

/-- The calls and events of the rollback. -/
def trace : List Item :=
  o.signals.calls .unregisterSignals ++ [.call .stopWatcher o.watcher] ++
    o.outbound.calls .removeOutbound ++ o.engine.calls .close ++
    (o.process.calls .processStop ++ o.process.stopped) ++ o.killswitch.calls .disable ++
    report o.errors

/-- The releases that are due for an ownership, and no other but that of an engine client. -/
structure Due (before : Ownership) : Prop where
  outbound : o.outbound.isSome = before.outbound
  engine : before.engine = true → o.engine.isSome = true
  process : o.process.isSome = before.process
  killswitch : o.killswitch.isSome = before.killswitch

/-- The ownership after the rollback: what could not be released. -/
def left : Ownership where
  outbound := o.outbound.failed
  engine := false
  process := o.process.failed
  killswitch := o.killswitch.failed

end Outcomes

/-- The operations of a rollback, and the event handler, raise nothing but Exceptions. -/
structure Services.RaiseExceptions {W : Type} (svc : Services W) : Prop where
  removeSignalHandler : ∀ sig, RaisesExceptions (svc.removeSignalHandler sig)
  stopWatcher : RaisesExceptions svc.stopWatcher
  removeOutbound : RaisesExceptions svc.removeOutbound
  close : RaisesExceptions svc.close
  processStop : RaisesExceptions svc.processStop
  disable : RaisesExceptions svc.disable
  eventHandler : ∀ handler, svc.eventHandler = some handler → ∀ event payload,
    RaisesExceptions (handler event payload)

section Rollback

variable {W : Type} {svc : Services W}

/-- A recorded release, attempted: it returns and `orElse` follows, or its message is added. -/
theorem attempt_invoke (op : Op) {m : Act Exc W Unit} (h : RaisesExceptions m)
    (orElse : Conn W Unit) (s : ConnectionService W) (errs : List String) :
    ∃ w, attempt op.label (invoke op m) orElse (s, errs) =
        Teardown.lift orElse (s.called w op none, errs) ∨
      ∃ e, attempt op.label (invoke op m) orElse (s, errs) =
        (.ok (), s.called w op (some e), errs ++ [op.label ++ e.message]) := by
  rcases hm : m s.world with ⟨e | u, w⟩
  · exact ⟨w, Or.inr ⟨e, Teardown.attempt_caught (invoke_error hm) (h _ _ _ hm) errs⟩⟩
  · exact ⟨w, Or.inl (Teardown.attempt_ok (invoke_ok hm) errs)⟩

theorem raisesExceptions_removeSignal (h : svc.RaiseExceptions) (sig : Signal) :
    RaisesExceptions (removeSignal svc sig) :=
  (h.removeSignalHandler sig).handle fun _ => RaisesExceptions.pure _

theorem attemptSignals_run (h : svc.RaiseExceptions) (s : ConnectionService W)
    (errs : List String) :
    ∃ (a : Attempt) (s' : ConnectionService W) (errs' : List String),
      attemptSignals svc (s, errs) = (.ok (), s', errs') ∧
      errs' = errs ++ a.messages Op.unregisterSignals.label ∧
      s'.log = s.log ++ a.calls .unregisterSignals ∧ s'.flags = s.flags := by
  by_cases hempty : s.signalsRegistered.isEmpty = true
  · have hrun : unregisterSignals svc s = (.ok (), s) := by
      unfold unregisterSignals
      rw [reads_bind_apply, ite_run, if_pos hempty]
      rfl
    exact ⟨none, s, errs, Teardown.attempt_ok hrun errs, (List.append_nil _).symm,
      (List.append_nil _).symm, rfl⟩
  · have hunfold : unregisterSignals svc s = (do
        invoke .unregisterSignals (s.signalsRegistered.forM (removeSignal svc))
        modify fun s => { s with signalsRegistered := [] } : Conn W Unit) s := by
      unfold unregisterSignals
      rw [reads_bind_apply, ite_run, if_neg hempty]
    rcases hm : s.signalsRegistered.forM (removeSignal svc) s.world with ⟨e | u, w⟩
    · have he := RaisesExceptions.forM (raisesExceptions_removeSignal h) _ _ _ _ hm
      exact ⟨some (some e), s.called w .unregisterSignals (some e), _,
        Teardown.attempt_caught (hunfold.trans (bind_error (invoke_error hm))) he errs,
        rfl, rfl, rfl⟩
    · exact ⟨some none, { s.called w .unregisterSignals none with signalsRegistered := [] }, errs,
        Teardown.attempt_ok (hunfold.trans (bind_ok (invoke_ok hm))) errs,
        (List.append_nil _).symm, rfl, rfl⟩

theorem attemptStopWatcher_run (h : svc.RaiseExceptions) (s : ConnectionService W)
    (errs : List String) :
    ∃ (raised : Option Exc) (s' : ConnectionService W) (errs' : List String),
      attemptStopWatcher svc (s, errs) = (.ok (), s', errs') ∧
      errs' = errs ++ Attempt.messages Op.stopWatcher.label (some raised) ∧
      s'.log = s.log ++ [.call .stopWatcher raised] ∧ s'.flags = s.flags := by
  obtain ⟨w, hrun | ⟨e, hrun⟩⟩ := attempt_invoke .stopWatcher h.stopWatcher (pure ()) s errs
  · exact ⟨none, s.called w .stopWatcher none, errs, hrun, (List.append_nil _).symm, rfl, rfl⟩
  · exact ⟨some e, s.called w .stopWatcher (some e), _, hrun, rfl, rfl, rfl⟩

/-- A release that is due if its flag is set. -/
theorem releaseOwned_run (op : Op) {m : Act Exc W Unit} (hm : RaisesExceptions m)
    (owned : ConnectionService W → Bool) (orElse : Conn W Unit) (s : ConnectionService W)
    (errs : List String) :
    ∃ (a : Attempt) (w : W), a.isSome = owned s ∧
      (do if ← Teardown.lift (reads owned) then attempt op.label (invoke op m) orElse :
        Release W Unit) (s, errs) =
      match a with
      | none => (.ok (), s, errs)
      | some none => Teardown.lift orElse (s.called w op none, errs)
      | some (some e) => (.ok (), s.called w op (some e), errs ++ [op.label ++ e.message]) := by
  rw [bind_ok (Teardown.lift_ok (reads_apply owned s) errs), ite_run]
  cases howned : owned s with
  | false => exact ⟨none, s.world, rfl, rfl⟩
  | true =>
    rw [if_pos rfl]
    obtain ⟨w, hrun | ⟨e, hrun⟩⟩ := attempt_invoke op hm orElse s errs
    · exact ⟨some none, w, rfl, hrun⟩
    · exact ⟨some (some e), w, rfl, hrun⟩

theorem releaseOutbound_run (h : svc.RaiseExceptions) (s : ConnectionService W)
    (errs : List String) :
    ∃ (a : Attempt) (s' : ConnectionService W) (errs' : List String),
      releaseOutbound svc (s, errs) = (.ok (), s', errs') ∧
      errs' = errs ++ a.messages Op.removeOutbound.label ∧
      s'.log = s.log ++ a.calls .removeOutbound ∧ a.isSome = s.outboundOwned ∧
      s'.flags = { s.flags with outbound := a.failed } := by
  obtain ⟨a, w, howned, hrun⟩ := releaseOwned_run .removeOutbound h.removeOutbound
    ConnectionService.outboundOwned (modify fun s => { s with outboundOwned := false }) s errs
  have hflags : s.flags = { s.flags with outbound := a.isSome } := by
    rw [howned]
    rfl
  rcases a with _ | _ | e
  · exact ⟨none, s, errs, hrun, (List.append_nil _).symm, (List.append_nil _).symm, howned, hflags⟩
  · exact ⟨some none, { s.called w .removeOutbound none with outboundOwned := false }, errs, hrun,
      (List.append_nil _).symm, rfl, howned, rfl⟩
  · exact ⟨some (some e), s.called w .removeOutbound (some e), _, hrun, rfl, rfl, howned, hflags⟩

theorem releaseEngine_run (h : svc.RaiseExceptions) (s : ConnectionService W)
    (errs : List String) :
    ∃ (a : Attempt) (s' : ConnectionService W) (errs' : List String),
      releaseEngine svc (s, errs) = (.ok (), s', errs') ∧
      errs' = errs ++ a.messages Op.close.label ∧ s'.log = s.log ++ a.calls .close ∧
      (s.engineOwned = true → a.isSome = true) ∧ s'.flags = { s.flags with engine := false } := by
  unfold releaseEngine
  rw [bind_ok (Teardown.lift_ok
    (reads_apply (fun s => s.engineOwned || svc.hasEngine s.world) s) errs), ite_run]
  by_cases hdue : (s.engineOwned || svc.hasEngine s.world) = true
  · rw [if_pos hdue]
    obtain ⟨w, hrun | ⟨e, hrun⟩⟩ := attempt_invoke .close h.close (pure ()) s errs
    · exact ⟨some none, { s.called w .close none with engineOwned := false }, errs,
        ensure_run hrun rfl, (List.append_nil _).symm, rfl, fun _ => rfl, rfl⟩
    · exact ⟨some (some e), { s.called w .close (some e) with engineOwned := false }, _,
        ensure_run hrun rfl, rfl, rfl, fun _ => rfl, rfl⟩
  · rw [if_neg hdue]
    have hoff : s.engineOwned = false := by simp_all
    refine ⟨none, s, errs, rfl, (List.append_nil _).symm, (List.append_nil _).symm,
      fun he => absurd (hoff.symm.trans he) Bool.false_ne_true, ?_⟩
    unfold ConnectionService.flags
    rw [hoff]

theorem releaseProcess_run (h : svc.RaiseExceptions) (s : ConnectionService W)
    (errs : List String) :
    ∃ (a : Attempt) (s' : ConnectionService W) (errs' : List String),
      releaseProcess svc (s, errs) = (.ok (), s', errs') ∧
      errs' = errs ++ a.messages Op.processStop.label ∧
      s'.log = s.log ++ (a.calls .processStop ++ a.stopped) ∧ a.isSome = s.processOwned ∧
      s'.flags = { s.flags with process := a.failed } := by
  obtain ⟨a, w, howned, hrun⟩ := releaseOwned_run .processStop h.processStop
    ConnectionService.processOwned
    (do modify fun s => { s with processOwned := false }; emit svc .processStopped {}) s errs
  have hflags : s.flags = { s.flags with process := a.isSome } := by
    rw [howned]
    rfl
  rcases a with _ | _ | e
  · exact ⟨none, s, errs, hrun, (List.append_nil _).symm, (List.append_nil _).symm, howned, hflags⟩
  · let t : ConnectionService W := { s.called w .processStop none with processOwned := false }
    obtain ⟨w', hemit⟩ := emit_run h.eventHandler .processStopped {} t
    refine ⟨some none, t.emitted w' .processStopped {}, errs, hrun.trans ?_,
      (List.append_nil _).symm, ?_, howned, rfl⟩
    · exact Teardown.lift_ok (s := s.called w .processStop none) hemit errs
    · exact List.append_assoc _ _ _
  · exact ⟨some (some e), s.called w .processStop (some e), _, hrun, rfl, rfl, howned, hflags⟩

theorem releaseKillswitch_run (h : svc.RaiseExceptions) (s : ConnectionService W)
    (errs : List String) :
    ∃ (a : Attempt) (s' : ConnectionService W) (errs' : List String),
      releaseKillswitch svc (s, errs) = (.ok (), s', errs') ∧
      errs' = errs ++ a.messages Op.disable.label ∧
      s'.log = s.log ++ a.calls .disable ∧ a.isSome = s.killswitchEnabled ∧
      s'.flags = { s.flags with killswitch := a.failed } := by
  obtain ⟨a, w, howned, hrun⟩ := releaseOwned_run .disable h.disable
    ConnectionService.killswitchEnabled (modify fun s => { s with killswitchEnabled := false }) s errs
  have hflags : s.flags = { s.flags with killswitch := a.isSome } := by
    rw [howned]
    rfl
  rcases a with _ | _ | e
  · exact ⟨none, s, errs, hrun, (List.append_nil _).symm, (List.append_nil _).symm, howned, hflags⟩
  · exact ⟨some none, { s.called w .disable none with killswitchEnabled := false }, errs, hrun,
      (List.append_nil _).symm, rfl, howned, rfl⟩
  · exact ⟨some (some e), s.called w .disable (some e), _, hrun, rfl, rfl, howned, hflags⟩

theorem reportErrors_run (h : svc.RaiseExceptions) (s : ConnectionService W)
    (errs : List String) :
    ∃ s' : ConnectionService W, reportErrors svc (s, errs) = (.ok (), s', errs) ∧
      s'.log = s.log ++ Outcomes.report errs ∧ s'.flags = s.flags ∧ s'.started = s.started := by
  unfold reportErrors Outcomes.report
  rw [Teardown.errors, reads_bind_apply, ite_run]
  by_cases he : errs = []
  · rw [if_neg (by simpa using he), if_pos he]
    exact ⟨s, rfl, (List.append_nil _).symm, rfl, rfl⟩
  · rw [if_pos he, if_neg he]
    obtain ⟨w, hemit⟩ := emit_run h.eventHandler .error
      { error := some ("; ".intercalate errs) } s
    exact ⟨_, Teardown.lift_ok hemit errs, rfl, rfl, rfl⟩

/-- **A rollback** attempts what is due, one step after the other, and returns its messages. -/
theorem rollback_run (h : svc.RaiseExceptions) (s : ConnectionService W) :
    ∃ (o : Outcomes) (s' : ConnectionService W), rollback svc s = (.ok o.errors, s') ∧
      s'.log = s.log ++ o.trace ∧ o.Due s.flags ∧ s'.flags = o.left ∧ s'.started = false := by
  obtain ⟨signals, s₁, _, r₁, rfl, l₁, f₁⟩ := attemptSignals_run h s []
  obtain ⟨watcher, s₂, _, r₂, rfl, l₂, f₂⟩ := attemptStopWatcher_run h s₁ _
  obtain ⟨outbound, s₃, _, r₃, rfl, l₃, d₃, f₃⟩ := releaseOutbound_run h s₂ _
  obtain ⟨engine, s₄, _, r₄, rfl, l₄, d₄, f₄⟩ := releaseEngine_run h s₃ _
  obtain ⟨process, s₅, _, r₅, rfl, l₅, d₅, f₅⟩ := releaseProcess_run h s₄ _
  obtain ⟨killswitch, s₆, _, r₆, rfl, l₆, d₆, f₆⟩ := releaseKillswitch_run h s₅ _
  let o : Outcomes := ⟨signals, watcher, outbound, engine, process, killswitch⟩
  obtain ⟨s₇, r₇, l₇, f₇, t₇⟩ := reportErrors_run h { s₆ with started := false } o.errors
  have e₂ : s₂.flags = s.flags := f₂.trans f₁
  have e₃ : s₃.flags = { s.flags with outbound := outbound.failed } := by rw [f₃, e₂]
  have e₄ : s₄.flags = { s.flags with outbound := outbound.failed, engine := false } := by
    rw [f₄, e₃]
  have e₅ : s₅.flags =
      { s.flags with outbound := outbound.failed, engine := false, process := process.failed } := by
    rw [f₅, e₄]
  refine ⟨o, s₇, ?_, ?_, ⟨?_, ?_, ?_, ?_⟩, ?_, t₇⟩
  · unfold rollback cleanupResources withLocal
    have hdown : markDown false (s₆, o.errors) =
        (.ok (), { s₆ with started := false }, o.errors) := rfl
    rw [bind_ok r₁, bind_ok r₂, bind_ok r₃, bind_ok r₄, bind_ok r₅, bind_ok r₆]
    rw [show [] ++ signals.messages _ ++ _ ++ _ ++ _ ++ _ ++ _ = o.errors from rfl]
    rw [bind_ok hdown, bind_ok r₇]
    rfl
  · rw [l₇]
    show s₆.log ++ _ = _
    rw [l₆, l₅, l₄, l₃, l₂, l₁]
    simp only [Outcomes.trace, List.append_assoc, o]
  · exact d₃.trans (congrArg Ownership.outbound e₂)
  · exact fun he => d₄ ((congrArg Ownership.engine e₃).trans he)
  · exact d₅.trans (congrArg Ownership.process e₄)
  · exact d₆.trans (congrArg Ownership.killswitch e₅)
  · rw [f₇]
    exact f₆.trans (by rw [e₅]; rfl)

end Rollback

/-! ## The transaction -/

/-- How often an operation was called. -/
def attempts (op : Op) (log : List Item) : ℕ := log.countP fun
  | .call op' _ => op' = op
  | _ => false

def Mentions (text message : String) : Prop := ∃ before after, text = before ++ message ++ after

/-- What a failed `start` owes: `L` is what it adds to the log after the failure, `before` the
ownership at that moment and `after` the state in which it raises. -/
structure Transaction {W : Type} (before : Ownership) (L : List Item)
    (after : ConnectionService W) : Prop where
  released : ∀ r, before.has r = true → attempts r.release L = 1
  watcher : attempts .stopWatcher L = 1
  unowned : ∀ r, r ≠ .engine → before.has r = false → attempts r.release L = 0
  reported : ∀ op e, .call op (some e) ∈ L →
    ∃ text, .emit .error { error := some text } ∈ L ∧ Mentions text (op.label ++ e.message)
  started : after.started = false
  freed : ∀ r, .call r.release none ∈ L → after.flags.has r = false
  kept : ∀ r, r ≠ .engine → ∀ e, .call r.release (some e) ∈ L → after.flags.has r = true

theorem mentions_intercalate (sep : String) {message : String} {messages : List String}
    (h : message ∈ messages) : Mentions (sep.intercalate messages) message := by
  induction messages with
  | nil => cases h
  | cons m messages ih =>
    cases messages with
    | nil =>
      obtain rfl := List.mem_singleton.mp h
      exact ⟨"", "", by rw [String.intercalate_singleton]; simp⟩
    | cons m' messages =>
      rw [String.intercalate_cons_cons]
      rcases List.mem_cons.mp h with rfl | h'
      · exact ⟨"", sep ++ sep.intercalate (m' :: messages), by simp [String.append_assoc]⟩
      · obtain ⟨a, b, hab⟩ := ih h'
        exact ⟨m ++ sep ++ a, b, by rw [hab]; simp only [String.append_assoc]⟩

section Traces

variable (op op' : Op) (a : Attempt)

@[simp] theorem attempts_nil : attempts op [] = 0 := rfl

@[simp] theorem attempts_append (log log' : List Item) :
    attempts op (log ++ log') = attempts op log + attempts op log' := List.countP_append

@[simp] theorem attempts_call (raised : Option Exc) (log : List Item) :
    attempts op (.call op' raised :: log) = (if op' = op then 1 else 0) + attempts op log := by
  unfold attempts
  by_cases h : op' = op <;> simp [h, Nat.add_comm]

@[simp] theorem attempts_calls :
    attempts op (a.calls op') = if op' = op then a.isSome.toNat else 0 := by
  cases a with
  | none => simp [Attempt.calls]
  | some raised => simp [Attempt.calls]

@[simp] theorem attempts_stopped : attempts op a.stopped = 0 := by
  rcases a with _ | _ | e <;> rfl

@[simp] theorem attempts_report (errors : List String) :
    attempts op (Outcomes.report errors) = 0 := by
  unfold Outcomes.report
  split <;> rfl

@[simp] theorem mem_calls (raised : Option Exc) :
    .call op raised ∈ a.calls op' ↔ op = op' ∧ a = some raised := by
  cases a with
  | none => simp [Attempt.calls]
  | some r =>
    simp only [Attempt.calls, List.mem_singleton, Item.call.injEq, Option.some.injEq]
    exact and_congr_right fun _ => eq_comm

@[simp] theorem not_mem_stopped (raised : Option Exc) : .call op raised ∉ a.stopped := by
  rcases a with _ | _ | e <;> simp [Attempt.stopped]

@[simp] theorem not_mem_report (raised : Option Exc) (errors : List String) :
    .call op raised ∉ Outcomes.report errors := by
  unfold Outcomes.report
  split <;> simp

variable (o : Outcomes)

/-- The outcome of a release in a rollback. -/
def Outcomes.of : Resource → Attempt
  | .outbound => o.outbound
  | .engine => o.engine
  | .process => o.process
  | .killswitch => o.killswitch

theorem attempts_trace_release (r : Resource) :
    attempts r.release o.trace = (o.of r).isSome.toNat := by
  cases r <;> simp [Outcomes.trace, Resource.release, Outcomes.of]

theorem attempts_trace_stopWatcher : attempts .stopWatcher o.trace = 1 := by
  simp [Outcomes.trace]

theorem mem_trace_release (r : Resource) (raised : Option Exc) :
    .call r.release raised ∈ o.trace ↔ o.of r = some raised := by
  cases r <;> simp [Outcomes.trace, Resource.release, Outcomes.of]

theorem left_has (r : Resource) (h : r ≠ .engine) : o.left.has r = (o.of r).failed := by
  cases r <;> first | rfl | exact absurd rfl h

/-- Every failed step is among the messages. -/
theorem message_of_failed {op : Op} {e : Exc} (h : .call op (some e) ∈ o.trace) :
    op.label ++ e.message ∈ o.errors := by
  have hm : ∀ {label : String}, label ++ e.message ∈ Attempt.messages label (some (some e)) :=
    List.mem_singleton.mpr rfl
  simp only [Outcomes.trace, List.mem_append, mem_calls, List.mem_singleton, Item.call.injEq,
    not_mem_stopped, not_mem_report, or_false] at h
  simp only [Outcomes.errors, List.mem_append]
  rcases h with ((((⟨rfl, h⟩ | ⟨rfl, h⟩) | ⟨rfl, h⟩) | ⟨rfl, h⟩) | ⟨rfl, h⟩) | ⟨rfl, h⟩
  · exact Or.inl (Or.inl (Or.inl (Or.inl (Or.inl (h ▸ hm)))))
  · exact Or.inl (Or.inl (Or.inl (Or.inl (Or.inr (h ▸ hm)))))
  · exact Or.inl (Or.inl (Or.inl (Or.inr (h ▸ hm))))
  · exact Or.inl (Or.inl (Or.inr (h ▸ hm)))
  · exact Or.inl (Or.inr (h ▸ hm))
  · exact Or.inr (h ▸ hm)

theorem reported_trace {op : Op} {e : Exc} (h : .call op (some e) ∈ o.trace) :
    ∃ text, .emit .error { error := some text } ∈ o.trace ∧
      Mentions text (op.label ++ e.message) := by
  have hm := message_of_failed o h
  have hne : o.errors ≠ [] := List.ne_nil_of_mem hm
  refine ⟨_, List.mem_append_right _ ?_, mentions_intercalate "; " hm⟩
  rw [Outcomes.report, if_neg hne]
  exact List.mem_singleton.mpr rfl

end Traces

section Start

variable {W : Type} {svc : Services W}

/-- The outcomes of a rollback are those of a transaction, whatever events follow it. -/
theorem transaction_of_outcomes {o : Outcomes} {before : Ownership} {events : List Item}
    {s' : ConnectionService W} (hdue : o.Due before) (hleft : s'.flags = o.left)
    (hstarted : s'.started = false) (hevents : ∀ op raised, .call op raised ∉ events) :
    Transaction before (o.trace ++ events) s' := by
  have hzero : ∀ op, attempts op events = 0 := by
    intro op
    refine List.countP_eq_zero.mpr ?_
    rintro (⟨op', raised⟩ | _ | _) hitem
    · exact absurd hitem (hevents op' raised)
    · simp
    · simp
  have hmem : ∀ {op raised}, .call op raised ∈ o.trace ++ events ↔ .call op raised ∈ o.trace := by
    intro op raised
    rw [List.mem_append, or_iff_left (hevents op raised)]
  have hof : ∀ r, r ≠ .engine → (o.of r).isSome = before.has r := by
    intro r hr
    cases r with
    | outbound => exact hdue.outbound
    | engine => exact absurd rfl hr
    | process => exact hdue.process
    | killswitch => exact hdue.killswitch
  refine ⟨fun r hr => ?_, ?_, fun r hr hnot => ?_, fun op e h => ?_, hstarted, fun r h => ?_,
    fun r hr e h => ?_⟩
  · have hsome : (o.of r).isSome = true := by
      by_cases he : r = .engine
      · subst he
        exact hdue.engine hr
      · rw [hof r he]
        exact hr
    rw [attempts_append, hzero, attempts_trace_release, hsome]
    rfl
  · rw [attempts_append, hzero, attempts_trace_stopWatcher]
  · rw [attempts_append, hzero, attempts_trace_release, hof r hr, hnot]
    rfl
  · obtain ⟨text, htext, hmentions⟩ := reported_trace o (hmem.mp h)
    exact ⟨text, List.mem_append_left _ htext, hmentions⟩
  · have hr := (mem_trace_release o r none).mp (hmem.mp h)
    rw [hleft]
    by_cases he : r = .engine
    · subst he
      rfl
    · rw [left_has o r he, hr]
      rfl
  · have hr' := (mem_trace_release o r (some e)).mp (hmem.mp h)
    rw [hleft, left_has o r hr, hr']
    rfl

/-- What `start` does with an exception of its `try` block. -/
theorem abandon_run (h : svc.RaiseExceptions) (e : Exc) (s : ConnectionService W) :
    ∃ s' L, abandon svc e s = (.error e, s') ∧ s'.log = s.log ++ L ∧
      Transaction s.flags L s' := by
  obtain ⟨o, s₁, hrun, hlog, hdue, hleft, hstarted⟩ := rollback_run h s
  unfold abandon
  rw [bind_ok hrun]
  by_cases herr : o.errors = []
  · refine ⟨s₁, o.trace ++ [], ?_, by rw [hlog, List.append_nil],
      transaction_of_outcomes hdue hleft hstarted fun op raised hm => by cases hm⟩
    rw [if_neg (by simpa using herr)]
    rfl
  · obtain ⟨w, hemit⟩ := emit_run h.eventHandler .error (startupFailed e o.errors) s₁
    refine ⟨s₁.emitted w .error (startupFailed e o.errors),
      o.trace ++ [.emit .error (startupFailed e o.errors)], ?_, ?_,
      transaction_of_outcomes hdue hleft hstarted fun op raised hm => by simp at hm⟩
    · rw [if_pos herr]
      exact bind_ok hemit
    · show s₁.log ++ [_] = _
      rw [hlog, List.append_assoc]

/-- `start` prepares with no resource owned. -/
theorem accounted_prepare (h : svc.RaiseExceptions) (profile : ServerProfile)
    (s : ConnectionService W) :
    ∃ s₀, prepare svc profile s = (.ok (), s₀) ∧ Accounted s₀ := by
  obtain ⟨w, hemit⟩ := emit_run h.eventHandler .started
    { profileId := some profile.profileId } (s.reset svc)
  refine ⟨_, hemit, ?_⟩
  show _ = owned (s.log ++ [_])
  rw [owned_append]
  rfl

/-- **Startup is a transaction.** Whatever raises in the `try` block of `start`, and whatever
raises in the rollback and in the event handler: the exception is the one that `start` raises, and
everything owned at that moment has been released or is reported. -/
theorem start_transaction (h : svc.RaiseExceptions) (n : ℕ) (profile : ServerProfile)
    (autoFailover killswitch : Bool) (allProfiles : Option (List ServerProfile))
    (s : ConnectionService W) {e : Exc} {s₁ : ConnectionService W}
    (hbody : startBody svc n profile autoFailover killswitch allProfiles
      (prepare svc profile s).2 = (.error e, s₁)) :
    ∃ s' L, start svc n profile autoFailover killswitch allProfiles s = (.error e, s') ∧
      s'.log = s₁.log ++ L ∧ Transaction (owned s₁.log) L s' := by
  obtain ⟨s₀, hprepare, hs₀⟩ := accounted_prepare h profile s
  rw [hprepare] at hbody
  have haccounted : Accounted s₁ :=
    ((stable_accounted svc).startBody n profile autoFailover killswitch allProfiles).of_error hs₀ hbody
  obtain ⟨s', L, habandon, hlog, htransaction⟩ := abandon_run h e s₁
  refine ⟨s', L, ?_, hlog, haccounted ▸ htransaction⟩
  unfold start
  rw [bind_ok hprepare, handle_caught hbody rfl, habandon]

/-- Services whose engine refuses the outbound, whose process does not stop and whose event
handler always raises. -/
def brokenServices : Services Unit where
  config := {}
  processStart _ := pure ()
  isRunning := pure true
  processStop := raise (.error .osError "not stopped")
  connect := pure ()
  addOutbound _ := raise (.error .runtimeError "refused")
  removeOutbound := pure ()
  close := pure ()
  hasEngine _ := true
  enable _ := pure ()
  disable := pure ()
  startWatcher := pure ()
  stopWatcher := pure ()
  isActive := pure false
  isWatcherAlive := pure true
  addSignalHandler _ := pure ()
  removeSignalHandler _ := pure ()
  checkAllProfiles _ := pure .empty
  now := pure ""
  clearStop w := w
  stopIsSet := pure false
  waitStop _ := pure false
  eventHandler := some fun _ _ => raise (.error .other "handler")

theorem brokenServices_raiseExceptions : brokenServices.RaiseExceptions where
  removeSignalHandler _ := RaisesExceptions.pure _
  stopWatcher := RaisesExceptions.pure _
  removeOutbound := RaisesExceptions.pure _
  close := RaisesExceptions.pure _
  processStop := RaisesExceptions.raise rfl
  disable := RaisesExceptions.pure _
  eventHandler := by
    rintro handler h event payload
    cases h
    exact RaisesExceptions.raise rfl

/-- The process and the engine client are owned when the outbound is refused. -/
theorem start_transaction_refused :
    ∃ s' L, start brokenServices 0 ⟨"a", "", "", .empty, ""⟩ false true none { world := () } =
        (.error (.error .runtimeError "refused"), s') ∧
      s'.log = [.emit .started { profileId := some "a" }, .call .processStart none,
        .call .connect none, .call .addOutbound (some (.error .runtimeError "refused"))] ++ L ∧
      Transaction { engine := true, process := true } L s' :=
  start_transaction brokenServices_raiseExceptions 0 ⟨"a", "", "", .empty, ""⟩ false true none
    { world := () } rfl

end Start

end Bimarz.Connection
