import Bimarz.Gui.Steps
import Bimarz.KillSwitch.Runs

/-!
# What a connection of the GUI has acquired

`Connecting` is the invariant of the `try` block of `_run_connect`, and `Worker.Ended` is what holds
after it: whatever the run has acquired, `_cleanup` will see, and it has not been cleaned up yet.
-/

namespace Bimarz.Gui

open Effect Effect.Act
open KillSwitch (System)

/-! ## The log -/

/-- Where there is `got`, there is `lost`. -/
def Paired (log : List Item) (got lost : Item) : Prop := got ∈ log → lost ∈ log

theorem mem_record_self (s : Worker) (item : Item) : item ∈ (s.record item).log :=
  List.mem_append_right _ List.mem_cons_self

theorem mem_record {s : Worker} {item item' : Item} (h : item' ∈ s.log) :
    item' ∈ (s.record item).log := List.mem_append_left _ h

theorem of_mem_record {s : Worker} {item item' : Item} (h : item' ∈ (s.record item).log)
    (hne : item ≠ item') : item' ∈ s.log := by
  rcases List.mem_append.mp h with h | h
  · exact h
  · exact absurd (List.mem_singleton.mp h).symm hne

theorem Paired.record {s : Worker} {got lost item : Item} (h : Paired s.log got lost)
    (hitem : item ≠ got) : Paired (s.record item).log got lost :=
  fun hmem => mem_record (h (of_mem_record hmem hitem))

/-! ## The kill-switch -/

section Killswitch

/-- An activated kill-switch is active until a deactivation is attempted. -/
def KsTracked (s : Worker) : Prop :=
  .activated ∈ s.log → s.ksManager.state.active = true ∨ .deactivate ∈ s.log

theorem KsTracked.record {s : Worker} {item : Item} (h : KsTracked s) (hitem : item ≠ .activated) :
    KsTracked (s.record item) :=
  fun hm => (h (of_mem_record hm hitem)).imp id mem_record

theorem KsTracked.of_paired {s : Worker} (h : Paired s.log .activated .deactivate) :
    KsTracked s := fun hm => Or.inr (h hm)

theorem activate_active (interface : String) (xrayUid : Option ℤ) (k : System) :
    (System.activate interface xrayUid k).2.state.active = true := by
  rcases KillSwitch.activate_cases k interface xrayUid with
    ⟨hactive, -, hswitch⟩ | ⟨-, hswitch, -⟩ | ⟨hswitch, -⟩ | ⟨hswitch, -⟩ | ⟨hswitch, -⟩
  · exact (congrArg KillSwitch.Switch.active hswitch).trans hactive
  · exact congrArg KillSwitch.Switch.active hswitch
  · exact congrArg KillSwitch.Switch.active hswitch
  · exact congrArg KillSwitch.Switch.active hswitch
  · exact congrArg KillSwitch.Switch.active hswitch

/-- An assertion about something else than the kill-switch and what is logged of it. -/
structure Apart (I : Worker → Prop) : Prop where
  unobserved : Unobserved I
  ksManager : ∀ s ksManager, I s → I { s with ksManager }
  activated : ∀ s, I s → I (s.record .activated)
  deactivate : ∀ s, I s → I (s.record .deactivate)

variable {I : Worker → Prop}

theorem unobserved_ksTracked : Unobserved KsTracked := by
  intro s stopEvent pending expired stops replies moments rounds hs
  exact hs

/-- A call of the manager that keeps an active kill-switch active. -/
theorem keeps_tracked {α : Type} {m : Act Exc System α} (h : Apart I)
    (hm : ∀ k : System, k.state.active = true → (m k).2.state.active = true) :
    Keeps (fun s => I s ∧ KsTracked s) (onKillswitch m) :=
  Keeps.of_run fun s hs => ⟨h.ksManager s _ hs.1, fun hmem => (hs.2 hmem).imp_left (hm _)⟩

theorem stopWatcher_triple (h : Apart I) :
    Triple (fun s => I s ∧ KsTracked s) stopWatcher (fun _ s => I s ∧ KsTracked s)
      (fun e s => e.isException = true ∧ I s ∧ KsTracked s) := by
  have hrequest : Triple (fun s => I s ∧ KsTracked s) (onKillswitch System.requestStop)
      (fun _ s => I s ∧ KsTracked s)
      (fun e s => e.isException = true ∧ I s ∧ KsTracked s) := by
    intro s hs
    rw [onKillswitch_run (KillSwitch.requestStop_run s.ksManager)]
    refine ⟨h.ksManager s _ hs.1, fun hmem => (hs.2 hmem).imp_left ?_⟩
    exact (congrArg KillSwitch.Switch.active (KillSwitch.requested_switch s.ksManager)).trans
  refine Triple.bind hrequest fun _ => ?_
  refine Triple.bind (h.unobserved.and unobserved_ksTracked).external_id fun _ => ?_
  intro s hs
  have hswitch := KillSwitch.endWatcher_switch s.ksManager
  rcases hrun : System.endWatcher s.ksManager with ⟨e | stopped, k⟩ <;> rw [hrun] at hswitch
  · rw [bind_error (onKillswitch_run hrun)]
    refine ⟨KillSwitch.raises_endWatcher _ _ _ hrun, h.ksManager s k hs.1, fun hmem => ?_⟩
    exact (hs.2 hmem).imp_left (congrArg KillSwitch.Switch.active hswitch).trans
  · rw [bind_ok (onKillswitch_run hrun)]
    refine ⟨h.ksManager s k hs.1, fun hmem => ?_⟩
    exact (hs.2 hmem).imp_left (congrArg KillSwitch.Switch.active hswitch).trans

/-- **Deactivating** an active kill-switch is attempted, whatever comes of it. -/
theorem deactivateIfActive_triple (h : Apart I) :
    Triple (fun s => I s ∧ KsTracked s) deactivateIfActive
      (fun _ s => I s ∧ Paired s.log .activated .deactivate)
      (fun e s => e.isException = true ∧ I s ∧ Paired s.log .activated .deactivate) := by
  have hattempted : Unobserved fun s => I s ∧ .deactivate ∈ s.log :=
    h.unobserved.and fun _ _ _ _ _ _ _ _ hs => hs
  refine Triple.bind (R := fun isActive s => isActive = s.ksManager.state.active ∧ I s ∧ KsTracked s)
    (Triple.reads fun s hs => ⟨rfl, hs⟩) fun isActive => Triple.ite (fun hactive => ?_) fun hoff => ?_
  · refine Triple.bind (R := fun _ s => I s ∧ .deactivate ∈ s.log)
      (Triple.modify fun s hs => ⟨h.deactivate s hs.2.1, mem_record_self s _⟩) fun _ => ?_
    refine Triple.bind (hattempted.external_id.mono_error
      fun e s hs => ⟨hs.1, hs.2.1, fun _ => hs.2.2⟩) fun _ => ?_
    intro s hs
    rcases hrun : System.deactivate s.ksManager with ⟨e | _, k⟩ <;> rw [onKillswitch_run hrun]
    · exact ⟨KillSwitch.raises_deactivate _ _ _ hrun, h.ksManager s k hs.1, fun _ => hs.2⟩
    · exact ⟨h.ksManager s k hs.1, fun _ => hs.2⟩
  · refine Triple.pure fun s hs => ⟨hs.2.1, fun hmem => ?_⟩
    exact (hs.2.2 hmem).resolve_left fun hactive => hoff (hs.1.trans hactive)

end Killswitch

/-! ## What the loops keep -/

/-- An assertion that the steps of both loops keep: their calls and awaits, the outbounds, a switch
to another profile with its signals, and a gap in which the watcher of the kill-switch runs. -/
structure Steady (I : Worker → Prop) : Prop where
  unobserved : Unobserved I
  outbound : ∀ s registered outboundOwned, I s → I { s with registered, outboundOwned }
  switched : ∀ s manager profile, I s → I { s with manager, profile }
  latency : ∀ s profileId latency reachable, I s →
    I (s.record (.latencyUpdated profileId latency reachable))
  failedOver : ∀ s fromId toId, I s → I (s.record (.failoverOccurred fromId toId))
  gap : ∀ s, I s → I { s with ksManager := s.ksManager.afterGap }

namespace Steady

variable {I : Worker → Prop}

theorem ofExcept {α : Type} (x : Except Exc α) : Keeps I (ofExcept x) := by
  cases x with
  | ok a => exact Keeps.pure a
  | error e => exact Keeps.raise e

variable (h : Steady I)

include h

theorem removeOutbound (moment : Moment) : Keeps I (removeOutbound moment) :=
  Keeps.bind (h.unobserved.keeps_await moment fun s hs => h.outbound s none s.outboundOwned hs)
    fun _ => Keeps.modify fun s hs => h.outbound s s.registered false hs

theorem addOutbound (moment : Moment) (kwargs : OutboundKwargs) :
    Keeps I (addOutbound moment kwargs) := by
  have hadd : Keeps I (awaitAdd moment kwargs) := by
    refine Keeps.bind (Keeps.reads _) fun registered => Keeps.ite ?_ ?_
    · exact Keeps.bind (h.unobserved.keeps_await moment fun _ hs => hs) fun _ => Keeps.raise _
    · exact h.unobserved.keeps_await moment fun s hs => h.outbound s _ s.outboundOwned hs
  exact Keeps.bind hadd fun _ => Keeps.modify fun s hs => h.outbound s s.registered true hs

omit h in
theorem suppress {m : Work Unit} (hm : Keeps I m) : Keeps I (suppress m) :=
  Keeps.handle hm fun _ => Keeps.pure _

theorem recover (remove add : Moment) (oldKwargs : OutboundKwargs) :
    Keeps I (recover remove add oldKwargs) := by
  refine Keeps.bind (suppress ?_) fun _ => suppress (h.addOutbound add oldKwargs)
  exact Keeps.bind (Keeps.reads _) fun isOwned => Keeps.ite (h.removeOutbound remove) (Keeps.pure _)

theorem emitLatency (result : HealthCheckResult) : Keeps I (emitLatency result) :=
  Keeps.modify fun s hs => h.latency s _ _ _ hs

theorem decideSwitch (round : Round) : Keeps I (decideSwitch round) := by
  have hactive : Keeps I (checkActive round) := by
    refine Keeps.bind (Keeps.reads _) fun profile => ?_
    refine Keeps.bind (ofExcept _) fun _ => ?_
    refine Keeps.bind (h.unobserved.keeps_await _ fun _ hs => hs) fun _ => ?_
    refine Keeps.bind (Keeps.reads _) fun result => ?_
    refine Keeps.bind (h.emitLatency _) fun _ => ?_
    exact Keeps.modify fun s hs => h.switched s _ s.profile hs
  have hall (profiles : Dict String ServerProfile) : Keeps I (checkAll profiles round) := by
    refine Keeps.bind (ofExcept _) fun _ => ?_
    refine Keeps.bind (h.unobserved.keeps_await _ fun _ hs => hs) fun _ => ?_
    exact Keeps.bind (Keeps.forM h.emitLatency _) fun _ => Keeps.pure _
  refine Keeps.bind (Keeps.reads _) fun read => ?_
  split
  · refine Keeps.ite (Keeps.pure _) (Keeps.bind hactive fun _ => ?_)
    refine Keeps.bind (Keeps.reads _) fun m => Keeps.ite ?_ (Keeps.pure _)
    refine Keeps.bind (hall _) fun results => ?_
    exact Keeps.bind (Keeps.reads _) fun s => ofExcept _
  · exact Keeps.pure _

theorem performSwitch (round : Round) (plan : Plan) : Keeps I (performSwitch round plan) := by
  have hswitch : Keeps I (switchOutbound round plan) := by
    refine Keeps.handle ?_ fun _ => Keeps.bind (h.recover _ _ _) fun _ => Keeps.pure _
    refine Keeps.bind (h.removeOutbound _) fun _ => ?_
    exact Keeps.bind (h.addOutbound _ _) fun _ => Keeps.pure _
  refine Keeps.bind hswitch fun succeeded => Keeps.ite ?_ (Keeps.pure _)
  refine Keeps.bind (Keeps.reads _) fun m => ?_
  split
  · exact h.recover _ _ _
  · refine Keeps.bind (Keeps.modify fun s hs => h.switched s _ s.profile hs) fun _ => ?_
    refine Keeps.bind (Keeps.modify fun s hs => h.failedOver s _ _ hs) fun _ => ?_
    exact Keeps.modify fun s hs => h.switched s s.manager _ hs

theorem asyncFailoverCheck : Keeps I asyncFailoverCheck := by
  refine Keeps.bind h.unobserved.takeRound fun round => ?_
  refine Keeps.bind (h.decideSwitch round) fun decided => ?_
  cases decided with
  | none => exact Keeps.pure _
  | some plan => exact h.performSwitch round plan

theorem checkWatcher : Keeps I checkWatcher := by
  refine Keeps.bind (Keeps.reads _) fun enabled => Keeps.ite ?_ (Keeps.pure _)
  refine Keeps.bind (Keeps.of_run fun s hs => h.gap s hs) fun _ => ?_
  exact Keeps.bind (Keeps.reads _) fun alive => Keeps.ite (Keeps.pure _) (Keeps.raise _)

/-- **Either loop** keeps it, in any number of rounds. -/
theorem watch (n : ℕ) : Keeps I (watch n) := by
  have hround {body : Work Flow} (hbody : Keeps I body) : Keeps I (do
      if ← shouldStop then return .leave
      else if ← shouldStop then return .leave
      else body : Work Flow) := by
    refine Keeps.bind h.unobserved.shouldStop fun _ => Keeps.ite (Keeps.pure _) ?_
    exact Keeps.bind h.unobserved.shouldStop fun _ => Keeps.ite (Keeps.pure _) hbody
  have hfailover : Keeps I failoverRound := by
    refine hround (Keeps.bind h.checkWatcher fun _ => ?_)
    refine Keeps.bind (Keeps.handle ?_ fun _ => Keeps.pure _) fun _ => Keeps.pure _
    exact h.unobserved.keeps_runAsyncFn h.asyncFailoverCheck
  have hwatch : Keeps I watchRound := hround (Keeps.bind h.checkWatcher fun _ => Keeps.pure _)
  have hstart : Keeps I startFailover :=
    Keeps.bind (Keeps.reads _) fun _ => Keeps.bind (ofExcept _) fun _ =>
      Keeps.modify fun s hs => h.switched s _ s.profile hs
  refine Keeps.bind (Keeps.reads _) fun allProfiles => ?_
  cases allProfiles with
  | none => exact hwatch.loop n
  | some profiles =>
    exact Keeps.ite (Keeps.bind hstart fun _ => hfailover.loop n) (hwatch.loop n)

end Steady

/-! ## Connecting -/

section Connecting

structure Core where
  loop : LoopStatus
  xrayProcess : Bool
  runtimeDir : Bool
  log : List Item

def Worker.core (s : Worker) : Core := ⟨s.loop, s.xrayProcess, s.runtimeDir, s.log⟩

/-- The runtime directory is there, and so is the process object. -/
structure Core.Acquired (c : Core) : Prop where
  loop : c.loop = .running
  xrayProcess : c.xrayProcess = true
  runtimeDir : c.runtimeDir = true
  created : .runtimeCreated ∈ c.log
  kept : .runtimeCleanup ∉ c.log

/-- The invariant of the `try` block of `_run_connect`. -/
def Connecting (s : Worker) : Prop := s.core.Acquired ∧ KsTracked s

theorem Core.Acquired.record {s : Worker} {item : Item} (h : s.core.Acquired)
    (hitem : item ≠ .runtimeCleanup) : (s.record item).core.Acquired :=
  ⟨h.loop, h.xrayProcess, h.runtimeDir, mem_record h.created,
    fun hmem => h.kept (of_mem_record hmem hitem)⟩

theorem apart_acquired : Apart fun s => s.core.Acquired where
  unobserved _ _ _ _ _ _ _ _ hs := hs
  ksManager _ _ hs := hs
  activated _ hs := hs.record (by decide)
  deactivate _ hs := hs.record (by decide)

theorem unobserved_connecting : Unobserved Connecting :=
  apart_acquired.unobserved.and unobserved_ksTracked

theorem Connecting.record {s : Worker} {item : Item} (h : Connecting s)
    (hcleanup : item ≠ .runtimeCleanup) (hactivated : item ≠ .activated) :
    Connecting (s.record item) := ⟨h.1.record hcleanup, h.2.record hactivated⟩

theorem connecting_emit {item : Item} (hcleanup : item ≠ .runtimeCleanup)
    (hactivated : item ≠ .activated) : Keeps Connecting (emit item) :=
  Keeps.modify fun _ hs => hs.record hcleanup hactivated

theorem connecting_external : Keeps Connecting (external id) :=
  unobserved_connecting.keeps_external fun _ hs => hs

theorem connecting_xrayStart : Keeps Connecting xrayStart := by
  refine Keeps.bind (unobserved_connecting.keeps_external fun s hs => ?_) fun _ => ?_
  · exact hs.record (by decide) (by decide)
  · exact Keeps.bind connecting_external fun _ => Keeps.pure _

theorem connecting_xrayStop : Keeps Connecting xrayStop :=
  Keeps.bind (connecting_emit (by decide) (by decide)) fun _ =>
    Keeps.bind connecting_external fun _ => Keeps.pure _

theorem connecting_waitReady (polls : ℕ) : Keeps Connecting (waitReady polls) := by
  induction polls with
  | zero => exact Keeps.raise _
  | succ polls ih =>
    refine Keeps.bind connecting_external fun reply => Keeps.ite (Keeps.pure _) ?_
    exact Keeps.bind unobserved_connecting.shouldStop fun stopped => Keeps.ite (Keeps.pure _) ih

theorem steady_connecting : Steady Connecting where
  unobserved := unobserved_connecting
  outbound _ _ _ hs := hs
  switched _ _ _ hs := hs
  latency _ _ _ _ hs := hs.record nofun nofun
  failedOver _ _ _ hs := hs.record nofun nofun
  gap s hs := by
    refine ⟨hs.1, fun hmem => (hs.2 hmem).imp_left fun hactive => ?_⟩
    exact (congrArg KillSwitch.Switch.active (KillSwitch.afterGap_switch s.ksManager)).trans hactive

theorem connecting_asyncConnect : Keeps Connecting asyncConnect := by
  refine Keeps.bind connecting_external fun _ => ?_
  refine Keeps.bind unobserved_connecting.takeMoment fun moment => ?_
  refine Keeps.bind (unobserved_connecting.keeps_await moment fun _ hs => hs) fun _ => ?_
  refine Keeps.bind (Keeps.modify fun _ hs => hs) fun _ => ?_
  refine Keeps.bind (Keeps.reads _) fun profile => ?_
  refine Keeps.bind (Steady.ofExcept _) fun kwargs => ?_
  exact Keeps.bind unobserved_connecting.takeMoment fun moment =>
    steady_connecting.addOutbound moment _

theorem connecting_activate : Keeps Connecting activate := by
  refine Keeps.bind connecting_external fun reply => ?_
  refine Keeps.bind (Keeps.reads _) fun interface => ?_
  have hactivate : Triple Connecting (onKillswitch (System.activate interface reply.uid))
      (fun _ s => s.core.Acquired ∧ s.ksManager.state.active = true) (fun _ => Connecting) := by
    intro s hs
    have hactive := activate_active interface reply.uid s.ksManager
    rcases hrun : System.activate interface reply.uid s.ksManager with ⟨e | _, k⟩ <;>
      rw [onKillswitch_run hrun] <;> rw [hrun] at hactive
    · exact ⟨hs.1, fun _ => Or.inl hactive⟩
    · exact ⟨hs.1, hactive⟩
  refine Triple.bind hactivate fun _ => ?_
  refine Triple.bind (R := fun _ => Connecting) (Triple.modify fun s hs => ?_) fun _ => ?_
  · exact ⟨apart_acquired.activated s hs.1, fun _ => Or.inl hs.2⟩
  refine Keeps.bind (Keeps.reads _) fun started => Keeps.ite ?_ (Keeps.raise _)
  refine keeps_tracked apart_acquired fun k hk => ?_
  exact (congrArg KillSwitch.Switch.active (KillSwitch.startProcessWatcher_spec k 1).2).trans hk

theorem connecting_connectBody (n : ℕ) : Keeps Connecting (connectBody n) := by
  have hestablish : Keeps Connecting establish := by
    refine Keeps.bind (unobserved_connecting.keeps_runAsyncFn connecting_asyncConnect) fun _ => ?_
    refine Keeps.bind (Keeps.bind (Keeps.reads _) fun enabled =>
      Keeps.ite connecting_activate (Keeps.pure _)) fun _ => ?_
    refine Keeps.bind (Keeps.modify fun _ hs => hs) fun _ => ?_
    exact Keeps.bind (Keeps.reads _) fun profile => connecting_emit nofun nofun
  refine Keeps.bind connecting_xrayStart fun _ => Keeps.bind (Keeps.reads _) fun polls => ?_
  refine Keeps.bind (connecting_waitReady polls) fun ready => Keeps.ite ?_ (Keeps.pure _)
  exact Keeps.bind hestablish fun _ => steady_connecting.watch n

theorem connecting_abandon (e : Exc) : Keeps Connecting (abandon e) := by
  refine Keeps.bind (Steady.suppress ?_) fun _ => ?_
  · exact (stopWatcher_triple apart_acquired).mono_error
      fun _ _ hs => hs.2
  refine Keeps.bind (Steady.suppress ?_) fun _ => ?_
  · exact (deactivateIfActive_triple apart_acquired).mono
      (fun _ _ hs => ⟨hs.1, .of_paired hs.2⟩) fun _ _ hs => ⟨hs.2.1, .of_paired hs.2.2⟩
  · exact Keeps.bind (Steady.suppress connecting_xrayStop) fun _ => Keeps.raise e

end Connecting

/-! ## The state that `_cleanup` finds -/

section Ended

/-- What holds when `_run_connect` has returned or raised. -/
structure Worker.Ended (s : Worker) : Prop where
  loop : s.loop = .running
  xray : .xrayStarted ∈ s.log → s.xrayProcess = true
  runtime : .runtimeCreated ∈ s.log → s.runtimeDir = true
  killswitch : KsTracked s
  client : s.client = true → .runtimeCreated ∈ s.log
  kept : .runtimeCleanup ∉ s.log

/-- Before the runtime directory is there. -/
def Idle (s : Worker) : Prop := s.loop = .running ∧ s.client = false ∧ s.log = []

/-- Before the process object is there. -/
def Prepared (s : Worker) : Prop :=
  s.loop = .running ∧ s.client = false ∧ s.log = [.runtimeCreated] ∧ s.runtimeDir = true

theorem Idle.ended {s : Worker} (h : Idle s) : s.Ended := by
  obtain ⟨hloop, hclient, hlog⟩ := h
  refine ⟨hloop, ?_, ?_, fun hmem => ?_, fun h => ?_, ?_⟩
  · simp [hlog]
  · simp [hlog]
  · simp [hlog] at hmem
  · exact absurd (hclient.symm.trans h) Bool.false_ne_true
  · simp [hlog]

theorem Prepared.ended {s : Worker} (h : Prepared s) : s.Ended := by
  obtain ⟨hloop, hclient, hlog, hruntime⟩ := h
  refine ⟨hloop, ?_, fun _ => hruntime, fun hmem => ?_, fun h => ?_, ?_⟩
  · simp [hlog]
  · simp [hlog] at hmem
  · exact absurd (hclient.symm.trans h) Bool.false_ne_true
  · simp [hlog]

theorem Connecting.ended {s : Worker} (h : Connecting s) : s.Ended where
  loop := h.1.loop
  xray _ := h.1.xrayProcess
  runtime _ := h.1.runtimeDir
  killswitch := h.2
  client _ := h.1.created
  kept := h.1.kept

theorem runConnect_triple (n : ℕ) :
    Triple Idle (runConnect n) (fun _ => Worker.Ended) (fun _ => Worker.Ended) := by
  have hidle : Unobserved Idle := fun _ _ _ _ _ _ _ _ hs => hs
  have hprepared : Unobserved Prepared := fun _ _ _ _ _ _ _ _ hs => hs
  have hbinary : Keeps Idle findBinary :=
    Keeps.bind (hidle.keeps_external fun _ hs => hs) fun _ => Keeps.ite (Keeps.pure _) (Keeps.raise _)
  refine Triple.bind (hbinary.mono_error fun _ _ hs => hs.ended)
    fun _ => ?_
  refine Triple.bind (R := fun _ => Prepared) ?_ fun _ => ?_
  · refine (hidle.external (Q := Prepared) ?_).mono_error
      fun _ _ hs => hs.2.ended
    rintro s ⟨hloop, hclient, hlog⟩
    exact ⟨hloop, hclient, congrArg (· ++ [Item.runtimeCreated]) hlog, rfl⟩
  refine Triple.bind (hprepared.external_id.mono_error
    fun _ _ hs => hs.2.ended) fun _ => ?_
  refine Triple.bind (R := fun _ => Connecting) (Triple.modify ?_) fun _ => ?_
  · rintro s ⟨hloop, -, hlog, hruntime⟩
    refine ⟨⟨hloop, rfl, hruntime, ?_, ?_⟩, fun hmem => ?_⟩
    · simp [Worker.core, hlog]
    · simp [Worker.core, hlog]
    · simp [hlog] at hmem
  · exact (Keeps.handle (connecting_connectBody n) connecting_abandon).mono
      (fun _ _ hs => hs.ended) fun _ _ hs => hs.ended

theorem Worker.Ended.record {s : Worker} {item : Item} (h : s.Ended)
    (hxray : item ≠ .xrayStarted) (hruntime : item ≠ .runtimeCreated)
    (hactivated : item ≠ .activated) (hcleanup : item ≠ .runtimeCleanup) :
    (s.record item).Ended where
  loop := h.loop
  xray hmem := h.xray (of_mem_record hmem hxray)
  runtime hmem := h.runtime (of_mem_record hmem hruntime)
  killswitch := h.killswitch.record hactivated
  client hclient := mem_record (h.client hclient)
  kept hmem := h.kept (of_mem_record hmem hcleanup)

theorem report_triple (e : Exc) :
    Triple Worker.Ended (report e) (fun _ => Worker.Ended) (fun _ _ => False) := by
  have hemit {item : Item} (hxray : item ≠ .xrayStarted) (hruntime : item ≠ .runtimeCreated)
      (hactivated : item ≠ .activated) (hcleanup : item ≠ .runtimeCleanup) :
      Triple Worker.Ended (emit item) (fun _ => Worker.Ended) (fun _ _ => False) :=
    Triple.modify fun _ hs => hs.record hxray hruntime hactivated hcleanup
  unfold report
  split
  · exact hemit nofun nofun nofun nofun
  · exact hemit nofun nofun nofun nofun
  · exact hemit nofun nofun nofun nofun
  · exact hemit nofun nofun nofun nofun
  · exact Triple.pure fun _ hs => hs

/-- **Connecting** leaves a state of this kind, however it goes and whenever `stop` is called. -/
theorem connectPhase_triple (n : ℕ) :
    Triple (fun s => s.client = false ∧ s.log = []) (connectPhase n) (fun _ => Worker.Ended)
      (fun _ _ => False) := by
  have hfresh : Unobserved fun s => s.client = false ∧ s.log = [] :=
    fun _ _ _ _ _ _ _ _ hs => hs
  have htick : Triple (fun s => s.client = false ∧ s.log = []) tick
      (fun _ s => s.client = false ∧ s.log = []) (fun _ _ => False) :=
    fun s hs => hfresh.tick s hs
  refine Triple.bind htick fun _ => ?_
  refine Triple.bind (R := fun _ => Idle) (Triple.modify fun s hs => ⟨rfl, hs⟩) fun _ => ?_
  refine Triple.bind (Triple.outcome (runConnect_triple n)) fun result => ?_
  cases result with
  | ok ended => exact Triple.pure fun _ hs => hs
  | error e => exact Triple.bind (report_triple e) fun _ => Triple.pure fun _ hs => hs

end Ended

end Bimarz.Gui
