import Bimarz.Connection.Cancel
import Bimarz.Effect.Monitor
import Bimarz.Effect.Run

/-!
# What an observer of a connection is told

The events of a `ConnectionService` stand in one log with the calls that they are about. `Phase.next`
says what may come next in it. Every sequence of calls of `start`, `cleanup` and `__aexit__` keeps to
it, whatever the services and the event handler do, so an event says of the calls before it what its
name says.

1. `Phase`: the monitor of the log.
2. `acquire_on`, `failoverLoop_on`: the `try` block of `start` keeps to it.
3. `rollback_on`, `cleanup_inStep`: so do the teardowns.
4. `events_tell`: what the events of a whole run say.
-/

namespace Bimarz.Connection

open Effect Effect.Act

/-! ## Phases -/

/-- Where a log stands. The id is the one that the observer was told last, `new` is the profile that
is switched to, and a rank says how far a teardown has come. -/
inductive Phase
  | fresh
  | begun (id : String)
  | process (id : String)
  | connected (id : String)
  | added (id : String)
  | ready (id : String)
  | enabled (id : String)
  | guarded (id : String)
  | running (id : String)
  | chosen (id new : String)
  | removed (id new : String)
  | switched (id new : String)
  | recovering (id : String)
  | restoring (id : String)
  | failing
  | releasing (rank : ℕ)
  | stopped
  | closed
  deriving DecidableEq, Repr

namespace Phase

/-- After an acquisition, or after its failure. -/
def after (raised : Option Exc) (phase : Phase) : Phase :=
  match raised with
  | none => phase
  | some _ => .failing

/-- A teardown goes from release to release; the first two begin one. -/
def release (rank : ℕ) : Phase → Option Phase
  | .closed => none
  | .releasing last => if rank ≤ 1 ∨ last < rank then some (.releasing rank) else none
  | _ => if rank ≤ 1 then some (.releasing rank) else none

def onRemoveOutbound (raised : Option Exc) : Phase → Option Phase
  | .chosen id new =>
    match raised with
    | none => some (.removed id new)
    | some _ => some (.recovering id)
  | .recovering id => some (.recovering id)
  | phase => phase.release 2

def onAddOutbound (raised : Option Exc) : Phase → Option Phase
  | .connected id => some (after raised (.added id))
  | .removed id new =>
    match raised with
    | none => some (.switched id new)
    | some _ => some (.recovering id)
  | .restoring id => some (.recovering id)
  | _ => none

def onProcessStop (raised : Option Exc) (phase : Phase) : Option Phase :=
  (phase.release 4).map fun down =>
    match raised with
    | none => .stopped
    | some _ => down

def onCall (phase : Phase) (op : Op) (raised : Option Exc) : Option Phase :=
  match op with
  | .processStart =>
    match phase with
    | .begun id => some (after raised (.process id))
    | _ => none
  | .connect =>
    match phase with
    | .process id => some (after raised (.connected id))
    | _ => none
  | .addOutbound => phase.onAddOutbound raised
  | .enable =>
    match phase with
    | .ready id => some (after raised (.enabled id))
    | _ => none
  | .startWatcher =>
    match phase with
    | .guarded id => some (after raised (.running id))
    | _ => none
  | .unregisterSignals => phase.release 0
  | .stopWatcher => phase.release 1
  | .removeOutbound => phase.onRemoveOutbound raised
  | .close => phase.release 3
  | .processStop => phase.onProcessStop raised
  | .disable => phase.release 6

/-- A failure that is announced in the middle of something ends it. -/
def onError : Phase → Phase
  | .releasing rank => .releasing rank
  | .closed => .closed
  | _ => .failing

def onFailover (payload : EventPayload) : Phase → Option Phase
  | .switched id new =>
    if payload.oldProfileId = some id ∧ payload.newProfileId = some new ∧ id ≠ new then
      some (.running new)
    else none
  | _ => none

def onEvent (phase : Phase) (event : ConnectionEvent) (payload : EventPayload) : Option Phase :=
  match event with
  | .error => some phase.onError
  | .started => payload.profileId.map .begun
  | .engineReady =>
    match phase with
    | .added id => some (.ready id)
    | _ => none
  | .killswitchEnabled =>
    match phase with
    | .enabled id => some (.guarded id)
    | _ => none
  | .failoverTriggered => phase.onFailover payload
  | .killswitchWatcherDied =>
    match phase with
    | .ready id => some (.running id)
    | .running id => some (.running id)
    | _ => none
  | .processStopped =>
    match phase with
    | .stopped => some (.releasing 5)
    | _ => none
  | .cleanupDone =>
    match phase with
    | .releasing _ => some .closed
    | _ => none

def onLookup (id : String) (found : Bool) : Phase → Option Phase
  | .ready active => some (if found then .chosen active id else .failing)
  | .running active => some (if found then .chosen active id else .failing)
  | .recovering active => some (if found then .restoring active else .recovering active)
  | _ => none

def next (phase : Phase) : Item → Option Phase
  | .call op raised => phase.onCall op raised
  | .emit event payload => phase.onEvent event payload
  | .lookup id found => phase.onLookup id found

/-- The loops may run. -/
def Looping (id : String) (phase : Phase) : Prop := phase = .ready id ∨ phase = .running id

/-- A teardown has begun, and has come less far than `n`. -/
def Down (n : ℕ) (phase : Phase) : Prop := ∃ last < n, phase = .releasing last

/-- Nothing is closed yet. -/
def Open (phase : Phase) : Prop := phase ≠ .closed

theorem Looping.open {id : String} {phase : Phase} (h : phase.Looping id) : phase.Open := by
  rcases h with rfl | rfl <;> exact nofun

theorem Down.open {n : ℕ} {phase : Phase} (h : phase.Down n) : phase.Open := by
  obtain ⟨last, -, rfl⟩ := h
  exact nofun

theorem Down.mono {m n : ℕ} (hmn : m ≤ n) {phase : Phase} (h : phase.Down m) : phase.Down n := by
  obtain ⟨last, hlast, rfl⟩ := h
  exact ⟨last, hlast.trans_le hmn, rfl⟩

theorem open_onError {phase : Phase} (h : phase.Open) : phase.onError.Open := by
  cases phase with
  | closed => exact absurd rfl h
  | _ => exact nofun

end Phase

open Phase (Looping Down Open)

/-! ## Steps -/

section Steps

variable {W : Type}

/-- The log is accepted, and stands where `p` holds. -/
def On (p : Phase → Prop) (s : ConnectionService W) : Prop := Tracks Phase.next .fresh p s.log

variable {p q r : Phase → Prop}

theorem On.mono {s : ConnectionService W} (h : On p s) (hpq : ∀ phase, p phase → q phase) : On q s :=
  Tracks.mono h hpq

theorem keeps_on {α : Type} (m : Act Exc W α) : Keeps (On p) (onWorld m) :=
  Keeps.of_run fun _ hs => hs

theorem on_onWorld {α : Type} (m : Act Exc W α) (hp : ∀ phase, p phase → phase.Open) :
    Triple (On p) (onWorld m) (fun _ => On p) (fun _ => On Open) :=
  Triple.mono_error (keeps_on m) fun _ _ hs => hs.mono hp

theorem on_record {E : Exc → ConnectionService W → Prop} {item : Item}
    (h : Leads Phase.next p item q) : Triple (On p) (record item) (fun _ => On q) E :=
  Triple.modify fun _ hs => Tracks.concat hs h

/-- A call moves the log with its outcome. -/
theorem on_invoke {op : Op} {m : Act Exc W Unit} (hok : Leads Phase.next p (.call op none) q)
    (herror : ∀ e, Leads Phase.next p (.call op (some e)) r) :
    Triple (On p) (invoke op m) (fun _ => On q) (fun _ => On r) := by
  intro s hs
  rcases hm : m s.world with ⟨e | u, w⟩
  · rw [invoke_error hm]
    exact Tracks.concat hs (herror e)
  · rw [invoke_ok hm]
    exact Tracks.concat hs hok

theorem on_emit (svc : Services W) {event : ConnectionEvent} {payload : EventPayload}
    (h : Leads Phase.next p (.emit event payload) q) :
    Triple (On p) (emit svc event payload) (fun _ => On q) (fun _ => On q) :=
  emit_triple (on_record h) fun _ _ => keeps_on _

theorem open_error (svc : Services W) (payload : EventPayload) :
    Keeps (On Open) (emit svc .error payload) :=
  on_emit svc fun phase hphase => ⟨phase.onError, rfl, Phase.open_onError hphase⟩

/-! ## Starting -/

variable (svc : Services W)

/-- A call and the flag that follows it. -/
theorem on_flagged {phase phase' failed : Phase} {op : Op} {m : Act Exc W Unit}
    {f : ConnectionService W → ConnectionService W} (hf : ∀ s, (f s).log = s.log)
    (hok : phase.next (.call op none) = some phase')
    (herror : ∀ e, phase.next (.call op (some e)) = some failed) :
    Triple (On (· = phase)) (do invoke op m; modify f) (fun _ => On (· = phase'))
      (fun _ => On (· = failed)) := by
  refine Triple.bind (on_invoke (q := (· = phase')) (Leads.one hok rfl) fun e =>
    Leads.one (herror e) rfl) fun _ => ?_
  refine Triple.modify fun s hs => ?_
  unfold On
  rw [hf]
  exact hs

theorem on_acquire {phase phase' : Phase} {op : Op} {m : Act Exc W Unit}
    {f : ConnectionService W → ConnectionService W} (hf : ∀ s, (f s).log = s.log)
    (hok : phase.next (.call op none) = some phase')
    (herror : ∀ e, phase.next (.call op (some e)) = some .failing) :
    Triple (On (· = phase)) (do invoke op m; modify f) (fun _ => On (· = phase'))
      (fun _ => On Open) := by
  refine Triple.mono_error (on_flagged hf hok herror) fun _ _ hs => hs.mono ?_
  rintro _ rfl
  exact nofun

/-- An event between two acquisitions. -/
theorem on_announce {phase phase' : Phase} {event : ConnectionEvent} {payload : EventPayload}
    (h : phase.next (.emit event payload) = some phase') (hopen : phase'.Open) :
    Triple (On (· = phase)) (emit svc event payload) (fun _ => On (· = phase'))
      (fun _ => On Open) := by
  refine Triple.mono_error (on_emit svc (Leads.one h rfl)) fun _ _ hs => hs.mono ?_
  rintro _ rfl
  exact hopen

/-- The end of `acquire`. -/
theorem looping_end (id : String) :
    Triple (On (Looping id))
      (do registerSignals svc; modify fun s => { s with started := true } : Conn W Unit)
      (fun _ => On (Looping id)) (fun _ => On Open) := by
  have hsig (sig : Signal) : Keeps (On (Looping id)) (tryRegisterSignal svc sig) :=
    Keeps.handle (Keeps.bind (keeps_on _) fun _ => Keeps.modify fun _ hs => hs)
      fun _ => Keeps.pure ()
  refine Triple.mono_error (F := fun _ => On (Looping id)) ?_ fun _ s hs =>
    hs.mono fun _ => Looping.open
  exact Keeps.bind (Keeps.bind (hsig .sigterm) fun _ => hsig .sighup) fun _ =>
    Keeps.modify fun _ hs => hs

/-- **The acquisitions** of `start`, each followed by its event. -/
theorem acquire_on (id : String) (profile : ServerProfile) (killswitch : Bool) :
    Triple (On (· = .begun id)) (acquire svc profile killswitch) (fun _ => On (Looping id))
      (fun _ => On Open) := by
  refine Triple.bind (on_acquire (fun _ => rfl) rfl fun _ => rfl) fun _ => ?_
  refine Triple.bind (on_acquire (fun _ => rfl) rfl fun _ => rfl) fun _ => ?_
  refine Triple.bind (on_acquire (fun _ => rfl) rfl fun _ => rfl) fun _ => ?_
  refine Triple.bind (on_announce svc rfl nofun) fun _ => ?_
  cases killswitch with
  | false =>
    refine (looping_end svc id).conseq (fun s hs => hs.mono fun _ => Or.inl) (fun _ _ hs => hs)
      fun _ _ hs => hs
  | true =>
    refine Triple.bind (on_acquire (fun _ => rfl) rfl fun _ => rfl) fun _ => ?_
    refine Triple.bind (on_announce svc rfl nofun) fun _ => ?_
    refine Triple.bind ?_ fun _ => looping_end svc id
    exact on_invoke (Leads.one rfl (Or.inr rfl)) fun _ => Leads.one rfl nofun

/-! ## The loops -/

/-- What a round of a loop leaves: the next round may come, or nothing more of the loop. -/
def Goes (p : ConnectionService W → Prop) (flow : Flow) (s : ConnectionService W) : Prop :=
  match flow with
  | .next => p s
  | .leave => On Open s

theorem goesOn_on (id : String) :
    Triple (On (Looping id)) (goesOn svc) (fun _ => On (Looping id)) (fun _ => On Open) := by
  refine Triple.bind (on_onWorld _ fun _ => Looping.open) fun _ => ?_
  exact Triple.ite (fun _ => Triple.pure fun _ hs => hs) fun _ => on_onWorld _ fun _ => Looping.open

theorem watchRound_on (id : String) (timeout : ℚ) :
    Triple (On (Looping id)) (watchRound svc timeout) (Goes (On (Looping id)))
      (fun _ => On Open) := by
  have hworld {α : Type} (m : Act Exc W α) := on_onWorld (p := Looping id) m fun _ => Looping.open
  have hdied : Triple (On (Looping id)) (watcherDied svc) (fun _ => On (Looping id))
      (fun _ => On Open) := by
    refine Triple.bind (hworld svc.isActive) fun active => Triple.ite (fun _ => ?_) fun _ =>
      Triple.pure fun _ hs => hs
    exact Triple.bind (hworld svc.isWatcherAlive) fun alive => Triple.pure fun _ hs => hs
  have hemit : Triple (On (Looping id)) (emit svc .killswitchWatcherDied {}) (fun _ => On Open)
      (fun _ => On Open) := by
    refine on_emit svc fun phase hphase => ⟨.running id, ?_, nofun⟩
    rcases hphase with rfl | rfl <;> rfl
  refine Triple.bind hdied fun died => Triple.ite (fun _ => ?_) fun _ => ?_
  · exact Triple.bind hemit fun _ => Triple.pure fun _ hs => hs
  · refine Triple.bind (hworld (svc.waitStop timeout)) fun stopped => ?_
    exact Triple.ite (fun _ => Triple.pure fun _ hs => hs.mono fun _ => Looping.open) fun _ =>
      Triple.pure fun _ hs => hs

/-- A loop may be left, or cut after its last round. -/
theorem loop_on {σ : Type} {I L : σ → Prop} {body : Act Exc σ Flow} {E : Exc → σ → Prop}
    (h : Triple I body (fun flow s => match flow with | .next => I s | .leave => L s) E)
    (hI : ∀ s, I s → L s) (n : ℕ) : Triple I (loop n body) (fun _ => L) E := by
  refine (Triple.loop h n).mono (fun left s hs => ?_) fun _ _ hs => hs
  cases left with
  | false => exact hI s hs
  | true => exact hs

theorem watchLoop_on (id : String) (n : ℕ) :
    Triple (On (Looping id)) (watchLoop svc n) (fun _ => On Open) (fun _ => On Open) := by
  refine loop_on ?_ (fun _ hs => hs.mono fun _ => Looping.open) n
  refine Triple.bind (goesOn_on svc id) fun on => Triple.ite (fun _ => ?_) fun _ =>
    Triple.pure fun _ hs => hs.mono fun _ => Looping.open
  exact (watchRound_on svc id 1).mono (fun flow _ hs => by cases flow <;> exact hs)
    fun _ _ hs => hs

theorem on_lookup {profileMap : Dict String ServerProfile} {id : String}
    (hfound : Leads Phase.next p (.lookup id true) q)
    (hmissing : Leads Phase.next p (.lookup id false) r) :
    Triple (On p) (lookup profileMap id : Conn W ServerProfile) (fun _ => On q) (fun _ => On r) := by
  unfold lookup
  cases profileMap.get? id with
  | none => exact Triple.bind (on_record hmissing) fun _ => Triple.raise fun _ hs => hs
  | some profile => exact Triple.bind (on_record hfound) fun _ => Triple.pure fun _ hs => hs

/-- The recovery of a failed switch, wherever it fails itself. -/
theorem recovery_on (profileMap : Dict String ServerProfile) (id : String) :
    Keeps (On (· = .recovering id)) (failure Exc.isException do
      addOutbound svc (← lookup profileMap id) : Conn W (Option Exc)) := by
  refine Keeps.failure ?_
  refine Triple.bind (on_lookup (q := (· = .restoring id)) (Leads.one rfl rfl)
    (Leads.one rfl rfl)) fun profile => ?_
  exact on_flagged (fun _ => rfl) rfl fun _ => rfl

/-- **A switch** has removed the old outbound and added the new one, or nothing more of the loop
follows. -/
theorem switchOutbound_on (profileMap : Dict String ServerProfile) (id new : String)
    (best : ServerProfile) :
    Triple (On (· = .chosen id new)) (switchOutbound svc profileMap id best)
      (fun failed => On fun phase => match failed with
        | none => phase = .switched id new
        | some _ => phase.Open)
      (fun _ => On Open) := by
  refine Triple.handle (F := fun _ => On (· = .recovering id)) ?_ (fun exc _ => ?_) ?_
  · refine Triple.bind (on_flagged (fun _ => rfl) rfl fun _ => rfl) fun _ => ?_
    refine Triple.bind (on_flagged (fun _ => rfl) rfl fun _ => rfl) fun _ => ?_
    exact Triple.pure fun _ hs => hs
  · have hremoval : Keeps (On (· = .recovering id)) (failure Exc.isException do
        if ← reads ConnectionService.outboundOwned then removeOutbound svc : Conn W (Option Exc)) := by
      refine Keeps.failure (Keeps.bind (Keeps.reads _) fun owned => Keeps.ite ?_ (Keeps.pure _))
      exact on_flagged (fun _ => rfl) rfl fun _ => rfl
    have hopen {α : Type} {m : Conn W α} (h : Keeps (On (· = .recovering id)) m) :
        Triple (On (· = .recovering id)) m (fun _ => On (· = .recovering id)) (fun _ => On Open) := by
      refine Triple.mono_error h fun _ _ hs => hs.mono ?_
      rintro _ rfl
      exact nofun
    refine Triple.bind (hopen hremoval) fun removal => ?_
    refine Triple.bind (hopen (recovery_on svc profileMap id)) fun restoral => ?_
    have hend (message : String) : Triple (On (· = .recovering id))
        (pure (some message) : Conn W (Option String)) (fun failed => On fun phase => match failed with
          | none => phase = .switched id new
          | some _ => phase.Open) (fun _ => On Open) := by
      refine Triple.pure fun _ hs => hs.mono ?_
      rintro _ rfl
      exact nofun
    cases restoral <|> removal with
    | none => exact hend _
    | some e => exact hend _
  · intro _ _ _ hs
    refine hs.mono ?_
    rintro _ rfl
    exact nofun

/-! ## Rounds of the failover loop -/

/-- The observer was told last of the profile that the failover manager takes for the active one. -/
def Agreed (p : ConnectionService W × FailoverManager) : Prop :=
  On (Looping p.2.activeProfileId) p.1

/-- A program of the service in a round, while the manager is `m`. -/
theorem on_onConn {α : Type} {m : Conn W α} {manager : FailoverManager}
    {P : ConnectionService W → Prop} {Q : α → ConnectionService W → Prop}
    (h : Triple P m Q (fun _ => On Open)) :
    Triple (fun p => P p.1 ∧ p.2 = manager) (onConn m) (fun a p => Q a p.1 ∧ p.2 = manager)
      (fun _ p => On Open p.1) :=
  Triple.zoom h (fun _ hp => hp.1) (fun _ _ _ hp hq => ⟨hq, hp.2⟩) fun _ _ _ _ he => he

/-- A program of the service in a round, whatever the active profile is. -/
theorem agreed_onConn {α : Type} {m : Conn W α} {Q : α → String → ConnectionService W → Prop}
    (h : ∀ id, Triple (On (Looping id)) m (fun a => Q a id) (fun _ => On Open)) :
    Triple Agreed (onConn m) (fun a p => Q a p.2.activeProfileId p.1) (fun _ p => On Open p.1) := by
  intro p hp
  refine (on_onConn (h p.2.activeProfileId)).mono (fun a p' hp' => ?_) (fun _ _ he => he) p ⟨hp, rfl⟩
  rw [hp'.2]
  exact hp'.1

theorem switchTo_on (profileMap : Dict String ServerProfile) (m : FailoverManager)
    (bestId : String) :
    Triple (fun p => On (Looping m.activeProfileId) p.1 ∧ p.2 = m) (switchTo svc profileMap m bestId)
      (fun flow p => match flow with | .next => Agreed p | .leave => On Open p.1)
      (fun _ p => On Open p.1) := by
  have hlookup : Triple (On (Looping m.activeProfileId)) (lookup profileMap bestId : Conn W _)
      (fun _ => On (· = .chosen m.activeProfileId bestId)) (fun _ => On Open) := by
    refine on_lookup (fun phase hphase => ⟨.chosen m.activeProfileId bestId, ?_, rfl⟩)
      fun phase hphase => ⟨.failing, ?_, nofun⟩
    all_goals rcases hphase with rfl | rfl <;> rfl
  refine Triple.bind (on_onConn hlookup) fun best => ?_
  refine Triple.bind (on_onConn (switchOutbound_on svc profileMap _ bestId best)) fun failed => ?_
  cases failed with
  | some message =>
    refine Triple.bind (on_onConn (open_error svc _)) fun _ => Triple.pure fun _ hp => hp.1
  | none =>
    have hopen : ∀ phase, phase = Phase.switched m.activeProfileId bestId → phase.Open := by
      rintro _ rfl
      exact nofun
    refine Triple.bind (on_onConn (on_onWorld svc.now hopen)) fun now => ?_
    rcases htrigger : m.triggerFailover bestId _ now with e | ⟨event, m'⟩
    · exact Triple.raise fun _ hp => hp.1.mono hopen
    · obtain ⟨hne, hactive, hfrom, hto⟩ := FailoverManager.triggerFailover_event htrigger
      have hemit : Triple (On (· = .switched m.activeProfileId bestId))
          (emit svc .failoverTriggered {
            oldProfileId := event.fromProfileId
            newProfileId := some event.toProfileId
            reason := some event.reason })
          (fun _ => On (· = .running bestId)) (fun _ => On Open) := by
        refine on_announce svc ?_ nofun
        rw [hfrom, hto]
        exact if_pos ⟨rfl, rfl, hne⟩
      refine Triple.bind (R := fun _ p => On (· = .switched m.activeProfileId bestId) p.1 ∧ p.2 = m')
        (Triple.modify fun _ hp => ⟨hp.1, rfl⟩) fun _ => ?_
      refine Triple.bind (on_onConn hemit) fun _ => Triple.pure fun p hp => ?_
      show On (Looping p.2.activeProfileId) p.1
      rw [hp.2, hactive]
      exact hp.1.mono fun _ => Or.inr

/-- Nothing of the manager but its counters changes. -/
theorem recordActive_agreed (results : Dict String HealthCheckResult) :
    Keeps (Agreed (W := W)) (recordActive results) := by
  refine Triple.bind (R := fun m p => Agreed p ∧ p.2 = m) (Triple.reads fun _ hp => ⟨hp, rfl⟩)
    fun m => ?_
  cases results.get? m.activeProfileId with
  | none => exact Triple.pure fun _ hp => hp.1
  | some result =>
    refine Triple.modify ?_
    rintro p ⟨hp, rfl⟩
    show On (Looping (p.2.recordActiveProfileResult result).activeProfileId) p.1
    rw [FailoverManager.recordActiveProfileResult_activeProfileId]
    exact hp

theorem failover_on (profileMap : Dict String ServerProfile)
    (results : Dict String HealthCheckResult) :
    Triple Agreed (failover svc profileMap results)
      (fun flow p => match flow with | .next => Agreed p | .leave => On Open p.1)
      (fun _ p => On Open p.1) := by
  refine Triple.bind (R := fun m p => On (Looping m.activeProfileId) p.1 ∧ p.2 = m)
    (Triple.reads fun _ hp => ⟨hp, rfl⟩) fun m => Triple.ite (fun _ => ?_) fun _ => ?_
  · cases m.pickBestAlternative results with
    | none =>
      have hemit : Triple (On (Looping m.activeProfileId))
          (emit svc .error
            { error := some "failover required but no reachable alternative exists" })
          (fun _ => On Open) (fun _ => On Open) :=
        (open_error svc _).conseq (fun _ hs => hs.mono fun _ => Looping.open) (fun _ _ hs => hs)
          fun _ _ hs => hs
      exact Triple.bind (on_onConn hemit) fun _ => Triple.pure fun _ hp => hp.1
    | some bestId => exact switchTo_on svc profileMap m bestId
  · refine Triple.pure ?_
    rintro p ⟨hp, rfl⟩
    exact hp

/-- **A round of the failover loop** goes on only where the observer knows of the active profile. -/
theorem failoverRound_on (profileMap : Dict String ServerProfile) :
    Triple Agreed (failoverRound svc profileMap)
      (fun flow p => match flow with | .next => Agreed p | .leave => On Open p.1)
      (fun _ p => On Open p.1) := by
  have hleave {p : ConnectionService W × FailoverManager} (hp : Agreed p) : On Open p.1 :=
    hp.mono fun _ => Looping.open
  refine Triple.bind (agreed_onConn (Q := fun _ id => On (Looping id)) (goesOn_on svc)) fun on =>
    Triple.ite (fun _ => ?_) fun _ => Triple.pure fun _ hp => hleave hp
  refine Triple.bind (agreed_onConn (Q := fun _ id => On (Looping id)) fun id =>
    on_onWorld _ fun _ => Looping.open) fun results => ?_
  refine Triple.bind (Triple.mono_error (recordActive_agreed results) fun _ _ => hleave) fun _ => ?_
  refine Triple.bind (failover_on svc profileMap results) fun flow => ?_
  cases flow with
  | leave => exact Triple.pure fun _ hp => hp
  | next =>
    refine (agreed_onConn (Q := fun flow id => Goes (On (Looping id)) flow) fun id =>
      watchRound_on svc id svc.config.failoverInterval).mono (fun flow p hp => ?_) fun _ _ hp => hp
    cases flow <;> exact hp

theorem failoverLoop_on (n : ℕ) (initial : ServerProfile) (allProfiles : List ServerProfile) :
    Triple (On (Looping initial.profileId)) (failoverLoop svc n initial allProfiles)
      (fun _ => On Open) (fun _ => On Open) := by
  unfold failoverLoop
  rcases hinit : FailoverManager.init initial.profileId failoverConsecutiveFailuresThreshold
    with e | m
  · exact Triple.raise fun _ hs => hs.mono fun _ => Looping.open
  · have hactive := FailoverManager.init_activeProfileId hinit
    refine Triple.withLocal ((loop_on (failoverRound_on svc _)
      (fun p hp => hp.mono fun _ => Looping.open) n).conseq ?_ (fun _ _ hp => hp) fun _ _ hp => hp)
    rintro p ⟨hp, rfl⟩
    show On (Looping p.2.activeProfileId) p.1
    rw [hactive]
    exact hp

/-- **The `try` block** of `start` keeps to the protocol, wherever it raises. -/
theorem startBody_on (n : ℕ) (profile : ServerProfile) (autoFailover killswitch : Bool)
    (allProfiles : Option (List ServerProfile)) :
    Triple (On (· = .begun profile.profileId))
      (startBody svc n profile autoFailover killswitch allProfiles) (fun _ => On Open)
      (fun _ => On Open) := by
  refine Triple.bind (acquire_on svc profile.profileId profile killswitch) fun _ => ?_
  rcases allProfiles with _ | _ | ⟨p, ps⟩
  · exact watchLoop_on svc _ n
  · exact watchLoop_on svc _ n
  · exact Triple.ite (fun _ => failoverLoop_on svc n profile _) fun _ => watchLoop_on svc _ n

/-! ## Teardowns -/

/-- A release with which a teardown may begin. -/
theorem leads_open {op : Op} {raised : Option Exc} {rank : ℕ}
    (hop : ∀ phase : Phase, phase.onCall op raised = phase.release rank) (hrank : rank ≤ 1) :
    Leads Phase.next Open (.call op raised) (Down (rank + 1)) := by
  intro phase hphase
  refine ⟨.releasing rank, (hop phase).trans ?_, rank, Nat.lt_succ_self rank, rfl⟩
  cases phase with
  | closed => exact absurd rfl hphase
  | releasing last => exact if_pos (Or.inl hrank)
  | _ => exact if_pos hrank

/-- A release that may come next. -/
theorem leads_down {op : Op} {raised : Option Exc} {rank n : ℕ}
    (hop : ∀ last, (Phase.releasing last).onCall op raised = (Phase.releasing last).release rank)
    (hn : n ≤ rank) : Leads Phase.next (Down n) (.call op raised) (Down (rank + 1)) := by
  rintro _ ⟨last, hlast, rfl⟩
  refine ⟨.releasing rank, (hop last).trans ?_, rank, Nat.lt_succ_self rank, rfl⟩
  exact if_pos (Or.inr (hlast.trans_le hn))

theorem On.down {n : ℕ} (hn : n ≤ 7) {s : ConnectionService W} (hs : On (Down n) s) :
    On (Down 7) s := hs.mono fun _ => Down.mono hn

/-- A release, attempted: the teardown has come on to it, whatever became of it. -/
theorem attempt_down {op : Op} {label : String} {m : Act Exc W Unit} {orElse : Conn W Unit}
    {rank n : ℕ}
    (hop : ∀ last raised,
      (Phase.releasing last).onCall op raised = (Phase.releasing last).release rank)
    (hn : n ≤ rank) (hrank : rank ≤ 6) (horElse : Keeps (On (Down (rank + 1))) orElse) :
    Triple (fun s => On (Down n) s.1) (attempt label (invoke op m) orElse)
      (fun _ s => On (Down (rank + 1)) s.1) (fun _ s => On (Down 7) s.1) := by
  have hseven : rank + 1 ≤ 7 := by omega
  have hrelease : Triple (On (Down n)) (invoke op m) (fun _ => On (Down (rank + 1)))
      (fun _ => On (Down (rank + 1))) :=
    on_invoke (leads_down (fun last => hop last none) hn) fun e =>
      leads_down (fun last => hop last (some e)) hn
  exact Teardown.triple_attempt hrelease (Triple.mono_error horElse fun _ _ => On.down hseven)
    (fun _ _ _ hs => hs) fun _ _ _ => On.down hseven

theorem attemptSignals_on :
    Triple (fun s => On Open s.1) (attemptSignals svc) (fun _ s => On Open s.1)
      (fun _ s => On (Down 7) s.1) := by
  have hunregister : Triple (On Open) (unregisterSignals svc) (fun _ => On Open)
      (fun _ => On (Down 1)) := by
    refine Triple.bind (R := fun _ => On Open) (Triple.reads fun _ hs => hs) fun registered =>
      Triple.ite (fun _ => Triple.pure fun _ hs => hs) fun _ => ?_
    refine Triple.bind (on_invoke (leads_open (fun _ => rfl) (Nat.zero_le 1)) fun _ =>
      leads_open (fun _ => rfl) (Nat.zero_le 1)) fun _ => ?_
    exact Triple.modify fun s hs => On.mono (s := { s with signalsRegistered := [] }) hs fun _ =>
      Down.open
  exact Teardown.triple_attempt hunregister (Triple.pure fun _ hs => hs)
    (fun _ _ _ hs => hs.mono fun _ => Down.open) fun _ _ _ => On.down (by decide)

theorem attemptStopWatcher_on :
    Triple (fun s => On Open s.1) (attemptStopWatcher svc) (fun _ s => On (Down 2) s.1)
      (fun _ s => On (Down 7) s.1) :=
  Teardown.triple_attempt
    (on_invoke (leads_open (fun _ => rfl) le_rfl) fun _ => leads_open (fun _ => rfl) le_rfl)
    (Triple.pure fun _ hs => hs) (fun _ _ _ hs => hs) fun _ _ _ => On.down (by decide)

/-- The end of the process and its event. -/
theorem attemptProcessStop_on {orElse : Conn W Unit}
    (horElse : Triple (On (· = .stopped)) orElse (fun _ => On (Down 6)) (fun _ => On (Down 6))) :
    Triple (fun s => On (Down 4) s.1) (attemptProcessStop svc orElse) (fun _ s => On (Down 6) s.1)
      (fun _ s => On (Down 7) s.1) := by
  have hrelease : Triple (On (Down 4)) (invoke .processStop svc.processStop)
      (fun _ => On (· = .stopped)) (fun _ => On (Down 5)) := by
    refine on_invoke ?_ fun e => ?_
    · rintro _ ⟨last, hlast, rfl⟩
      refine ⟨.stopped, ?_, rfl⟩
      show Phase.onProcessStop none (.releasing last) = _
      rw [Phase.onProcessStop, Phase.release, if_pos (Or.inr hlast)]
      rfl
    · rintro _ ⟨last, hlast, rfl⟩
      refine ⟨.releasing 4, ?_, 4, by decide, rfl⟩
      show Phase.onProcessStop (some e) (.releasing last) = _
      rw [Phase.onProcessStop, Phase.release, if_pos (Or.inr hlast)]
      rfl
  exact Teardown.triple_attempt hrelease
    (Triple.mono_error horElse fun _ _ => On.down (by decide))
    (fun _ _ _ hs => hs.mono fun _ => Down.mono (by decide)) fun _ _ _ => On.down (by decide)

theorem emit_stopped :
    Triple (On (· = .stopped)) (emit svc .processStopped {}) (fun _ => On (Down 6))
      (fun _ => On (Down 6)) :=
  on_emit svc (Leads.one rfl ⟨5, by decide, rfl⟩)

theorem down_error (n : ℕ) (payload : EventPayload) :
    Keeps (On (Down n)) (emit svc .error payload) := by
  refine on_emit svc ?_
  rintro _ ⟨last, hlast, rfl⟩
  exact ⟨.releasing last, rfl, last, hlast, rfl⟩

theorem releaseKillswitch_on :
    Triple (fun s => On (Down 6) s.1) (releaseKillswitch svc) (fun _ s => On (Down 7) s.1)
      (fun _ s => On (Down 7) s.1) := by
  refine Triple.bind (Teardown.triple_lift (Q := fun _ => On (Down 6)) (Triple.reads fun _ hs => hs))
    fun enabled => Triple.ite (fun _ => ?_) fun _ => Triple.pure fun _ hs => On.down (by decide) hs
  exact attempt_down (fun _ _ => rfl) le_rfl le_rfl (Keeps.modify fun _ hs => hs)

theorem reportErrors_on :
    Keeps (fun s : ConnectionService W × List String => On (Down 7) s.1) (reportErrors svc) := by
  refine Keeps.bind (Keeps.reads _) fun errors => Keeps.ite ?_ (Keeps.pure _)
  exact Teardown.keeps_lift (down_error svc 7 _)

/-- A release of a rollback that is left out if nothing is owned. -/
theorem owned_down (n n' : ℕ) {owned : ConnectionService W → Bool} {m : Release W Unit}
    (hn : n ≤ n')
    (hm : Triple (fun s => On (Down n) s.1) m (fun _ s => On (Down n') s.1)
      (fun _ s => On (Down 7) s.1)) :
    Triple (fun s => On (Down n) s.1)
      (do if ← Teardown.lift (reads owned) then m : Release W Unit)
      (fun _ s => On (Down n') s.1) (fun _ s => On (Down 7) s.1) := by
  refine Triple.bind (Teardown.triple_lift (Q := fun _ => On (Down n)) (Triple.reads fun _ hs => hs))
    fun isOwned => Triple.ite (fun _ => hm) fun _ => ?_
  exact Triple.pure fun _ hs => hs.mono fun _ => Down.mono hn

/-- **A rollback** keeps to the order of the releases, wherever it is cut short. -/
theorem rollback_on :
    Triple (On Open) (rollback svc) (fun _ => On (Down 7)) (fun _ => On (Down 7)) := by
  refine Triple.withLocal (Triple.conseq ?_ (fun _ hs => hs.1) (fun _ _ hs => hs) fun _ _ hs => hs)
  refine Triple.bind (attemptSignals_on svc) fun _ => ?_
  refine Triple.bind (attemptStopWatcher_on svc) fun _ => ?_
  refine Triple.bind (owned_down 2 3 (by decide) (attempt_down (fun _ _ => rfl) le_rfl
    (by decide) (Keeps.modify fun _ hs => hs))) fun _ => ?_
  refine Triple.bind (owned_down 3 4 (by decide) ?_) fun _ => ?_
  · refine Triple.ensure (attempt_down (fun _ _ => rfl) le_rfl (by decide) (Keeps.pure ())) ?_ ?_
    · exact fun _ => Triple.modify fun _ hs => hs
    · exact fun _ => Triple.modify fun _ hs => hs
  refine Triple.bind (owned_down 4 6 (by decide) (attemptProcessStop_on svc ?_)) fun _ => ?_
  · refine Triple.bind (R := fun _ => On (· = .stopped)) (Triple.modify fun _ hs => hs) fun _ => ?_
    exact emit_stopped svc
  refine Triple.bind (releaseKillswitch_on svc) fun _ => ?_
  refine Keeps.bind (Teardown.keeps_lift (Keeps.modify fun _ hs => hs)) fun _ => ?_
  refine Keeps.bind (reportErrors_on svc) fun _ => ?_
  exact Keeps.bind (Teardown.keeps_lift (Keeps.pure ())) fun _ => Keeps.reads _

theorem abandon_on (e : Exc) :
    Triple (On Open) (abandon svc e) (fun _ => On (Down 7)) (fun _ => On (Down 7)) := by
  refine Triple.bind (rollback_on svc) fun rollbackErrors => Keeps.ite ?_ (Keeps.raise e)
  exact Keeps.bind (down_error svc 7 _) fun _ => Keeps.raise e

theorem cleanupBody_on :
    Triple (fun s => On Open s.1) (cleanupBody svc) (fun _ s => On (Down 7) s.1)
      (fun _ s => On (Down 7) s.1) := by
  refine Triple.bind (attemptSignals_on svc) fun _ => ?_
  refine Triple.bind (attemptStopWatcher_on svc) fun _ => ?_
  refine Triple.bind (attempt_down (fun _ _ => rfl) le_rfl (by decide) (Keeps.pure ())) fun _ => ?_
  refine Triple.bind (attempt_down (fun _ _ => rfl) le_rfl (by decide) (Keeps.pure ())) fun _ => ?_
  refine Triple.bind (attemptProcessStop_on svc (emit_stopped svc)) fun _ => ?_
  exact releaseKillswitch_on svc

/-! ## Whole runs -/

/-- A closed log is that of a cleaned service, which the next cleanup leaves alone. -/
def InStep (s : ConnectionService W) : Prop :=
  On (fun phase => phase = .closed → s.cleaned = true) s

theorem On.inStep {s : ConnectionService W} (h : On Open s) : InStep s :=
  h.mono fun _ hopen hclosed => absurd hclosed hopen

theorem InStep.of_down {n : ℕ} {s : ConnectionService W} (h : On (Down n) s) : InStep s :=
  On.inStep (h.mono fun _ => Down.open)

theorem InStep.open {s : ConnectionService W} (h : InStep s) (hcleaned : ¬s.cleaned) : On Open s :=
  h.mono fun _ hphase hclosed => hcleaned (hphase hclosed)

theorem InStep.of_cleaned {s : ConnectionService W} (h : On (fun _ => True) s)
    (hcleaned : s.cleaned = true) : InStep s := h.mono fun _ _ _ => hcleaned

theorem cleaned_emit (event : ConnectionEvent) (payload : EventPayload) :
    Frames ConnectionService.cleaned (emit svc event payload) :=
  emit_frames (cleaned_record _) fun _ _ _ => rfl

/-- The end of a cleanup closes the log and marks the service. -/
theorem cleanupEnd_inStep :
    Triple (fun s => On (Down 7) s.1) (cleanupEnd svc) (fun _ s => InStep s.1)
      (fun _ s => InStep s.1) := by
  let cleaned (s : ConnectionService W × List String) : Prop := s.1.cleaned = true
  have hlog : Triple (fun s => On (Down 7) s.1) (cleanupEnd svc) (fun _ s => On (fun _ => True) s.1)
      (fun _ s => On (fun _ => True) s.1) := by
    have hemit : Triple (On (Down 7)) (emit svc .cleanupDone {}) (fun _ => On fun _ => True)
        (fun _ => On fun _ => True) := by
      refine on_emit svc ?_
      rintro _ ⟨last, -, rfl⟩
      exact ⟨.closed, rfl, trivial⟩
    refine Triple.bind (R := fun _ s => On (Down 7) s.1)
      (Teardown.triple_lift (Triple.modify fun _ hs => hs)) fun _ => ?_
    refine Triple.bind (Triple.mono_error (reportErrors_on svc) fun _ _ hs => hs.mono fun _ _ =>
      trivial) fun _ => ?_
    exact Teardown.triple_lift hemit
  have hcleaned : Triple (fun _ => True) (cleanupEnd svc) (fun _ => cleaned) (fun _ => cleaned) := by
    have hemit (event : ConnectionEvent) (payload : EventPayload) :
        Keeps cleaned (Teardown.lift (emit svc event payload)) :=
      Teardown.keeps_lift ((cleaned_emit svc event payload).keeps_eq true)
    refine Triple.bind (R := fun _ => cleaned) (Teardown.triple_lift (P := fun _ => True)
      (Q := fun _ (s : ConnectionService W) => s.cleaned = true)
      (E := fun _ s => s.cleaned = true) (Triple.modify fun _ _ => rfl)) fun _ => ?_
    refine Keeps.bind (Keeps.bind (Keeps.reads _) fun errors => ?_) fun _ => hemit _ _
    exact Keeps.ite (hemit _ _) (Keeps.pure _)
  exact (hlog.and hcleaned).conseq (fun _ hs => ⟨hs, trivial⟩) (fun _ _ hs => .of_cleaned hs.1 hs.2)
    fun _ _ hs => .of_cleaned hs.1 hs.2

/-- **A cleanup** begins where nothing is closed, and closes. -/
theorem cleanup_inStep : Keeps InStep (cleanup svc) := by
  refine Triple.bind (R := fun cleaned s => InStep s ∧ s.cleaned = cleaned)
    (Triple.reads fun _ hs => ⟨hs, rfl⟩) fun cleaned => ?_
  refine Triple.ite (fun _ => Triple.pure fun _ hs => hs.1) fun hcleaned => ?_
  refine Triple.withLocal (Triple.ensure (R := fun _ s => On (Down 7) s.1)
    (F := fun _ s => On (Down 7) s.1) ?_ (fun _ => cleanupEnd_inStep svc)
    fun _ => cleanupEnd_inStep svc)
  refine (cleanupBody_on svc).conseq ?_ (fun _ _ hs => hs) fun _ _ hs => hs
  rintro s ⟨⟨hs, rfl⟩, -⟩
  exact hs.open hcleaned

/-- An announced failure leaves a closed log closed. -/
theorem announce_inStep (exc : Option Exc) : Keeps InStep (announce svc exc) := by
  have hemit (message : String) : Keeps InStep (emit svc .error { error := message }) := by
    refine emit_triple (Triple.modify fun s hs => ?_) fun _ _ => Keeps.of_run fun _ hs => hs
    refine Tracks.concat hs fun phase hphase => ⟨phase.onError, rfl, fun hclosed => hphase ?_⟩
    by_contra hopen
    exact Phase.open_onError hopen hclosed
  rcases exc with _ | _ | _ | _
  · exact Keeps.pure ()
  · exact hemit _
  · exact Keeps.pure ()
  · exact Keeps.pure ()

/-- **A start** begins a new log, wherever the one before it stands. -/
theorem start_inStep (n : ℕ) (profile : ServerProfile) (autoFailover killswitch : Bool)
    (allProfiles : Option (List ServerProfile)) :
    Keeps InStep (start svc n profile autoFailover killswitch allProfiles) := by
  have hprepare : Triple InStep (prepare svc profile)
      (fun _ => On (· = .begun profile.profileId)) (fun _ => On (· = .begun profile.profileId)) := by
    refine Triple.bind (R := fun _ => On fun _ => True)
      (Triple.modify fun s hs => On.mono (s := s.reset svc) hs fun _ _ => trivial) fun _ => ?_
    exact on_emit svc fun _ _ => ⟨.begun profile.profileId, rfl, rfl⟩
  have hbegun {s : ConnectionService W} (hs : On (· = .begun profile.profileId) s) : InStep s := by
    refine hs.mono ?_
    rintro _ rfl
    exact nofun
  refine Triple.bind (hprepare.mono_error fun _ _ => hbegun) fun _ => ?_
  have hbody := startBody_on svc n profile autoFailover killswitch allProfiles
  refine Triple.handle (hbody.mono (fun _ _ hs => hs.inStep) fun _ _ hs => hs) (fun e _ => ?_) nofun
  exact (abandon_on svc e).mono (fun _ _ => .of_down) fun _ _ => .of_down

/-- A call of the public API of the service. -/
inductive Call
  | start (n : ℕ) (profile : ServerProfile) (autoFailover killswitch : Bool)
      (allProfiles : Option (List ServerProfile))
  | cleanup
  | aexit (exc : Option Exc)

/-- The state after a call, however it ended. -/
def perform (s : ConnectionService W) : Call → ConnectionService W
  | .start n profile autoFailover killswitch allProfiles =>
    (start svc n profile autoFailover killswitch allProfiles s).2
  | .cleanup => (cleanup svc s).2
  | .aexit exc => (aexit svc exc s).2

theorem perform_inStep {s : ConnectionService W} (hs : InStep s) (call : Call) :
    InStep (perform svc s call) := by
  cases call with
  | start n profile autoFailover killswitch allProfiles =>
    exact (start_inStep svc n profile autoFailover killswitch allProfiles).run hs
  | cleanup => exact (cleanup_inStep svc).run hs
  | aexit exc =>
    exact (Keeps.bind (announce_inStep svc exc) fun _ => cleanup_inStep svc).run hs

/-- The log of every run is accepted. -/
theorem run_tracked (world : W) (calls : List Call) :
    ∃ phase, track Phase.next .fresh (runAll (perform svc) { world } calls).log = some phase := by
  have hstart : InStep ({ world } : ConnectionService W) := ⟨.fresh, rfl, nofun⟩
  have hstep (s : ConnectionService W) (call : Call) (hs : InStep s) : InStep (perform svc s call) :=
    perform_inStep svc hs call
  obtain ⟨phase, hphase, -⟩ := runAll_invariant hstep hstart calls
  exact ⟨phase, hphase⟩

end Steps

/-! ## What the events say -/

/-- The profile that the observer takes for the one in use: the one it was told last, until a
teardown begins. -/
def served (log : List Item) : Option String :=
  log.foldl (fun told item => match item with
    | .emit .started payload => payload.profileId
    | .emit .failoverTriggered payload => payload.newProfileId
    | .call .unregisterSignals _ | .call .stopWatcher _ | .call .close _ | .call .processStop _
    | .call .disable _ => none
    | _ => told) none

/-- The calls that bring a tunnel up. -/
def acquired : List Item :=
  [.call .processStart none, .call .connect none, .call .addOutbound none]

/-- The log ends with a start and these items. -/
def StartedWith (items log : List Item) : Prop :=
  ∃ payload, .emit .started payload :: items <:+ log

/-- What an event says of the log before it. -/
def Grounds (before : List Item) (payload : EventPayload) : ConnectionEvent → Prop
  | .started => payload.profileId.isSome
  | .engineReady => StartedWith acquired before
  | .killswitchEnabled => ∃ ready, StartedWith
      (acquired ++ [.emit .engineReady ready, .call .enable none]) before
  | .failoverTriggered => ∃ old new, payload.oldProfileId = some old ∧
      payload.newProfileId = some new ∧ old ≠ new ∧ served before = some old ∧
      [.lookup new true, .call .removeOutbound none, .call .addOutbound none] <:+ before
  | .killswitchWatcherDied => (served before).isSome
  | .processStopped => [.call .processStop none] <:+ before
  | .cleanupDone => served before = none
  | .error => True

/-- Nothing but the report of a failure, until the next start. -/
def Silent : List Item → Prop
  | [] => True
  | .emit .started _ :: _ => True
  | .emit .error _ :: items => Silent items
  | _ => False

/-- Every event says what is so, and a cleanup that is done is over. -/
def Reliable (log : List Item) : Prop :=
  ∀ before event payload after, log = before ++ .emit event payload :: after →
    Grounds before payload event ∧ (event = .cleanupDone → Silent after)

namespace Phase

/-- The profile that the observer takes for the one in use. -/
def told : Phase → Option String
  | .begun id | .process id | .connected id | .added id | .ready id | .enabled id | .guarded id
  | .running id | .chosen id _ | .removed id _ | .switched id _ | .recovering id
  | .restoring id => some id
  | _ => none

/-- How a log ends. -/
def Past : Phase → List Item → Prop
  | .begun _ => StartedWith []
  | .process _ => StartedWith [.call .processStart none]
  | .connected _ => StartedWith [.call .processStart none, .call .connect none]
  | .added _ => StartedWith acquired
  | .ready _ => fun log => ∃ ready, StartedWith (acquired ++ [.emit .engineReady ready]) log
  | .enabled _ => fun log => ∃ ready, StartedWith
      (acquired ++ [.emit .engineReady ready, .call .enable none]) log
  | .chosen _ new => ([.lookup new true] <:+ ·)
  | .removed _ new => ([.lookup new true, .call .removeOutbound none] <:+ ·)
  | .switched _ new =>
    ([.lookup new true, .call .removeOutbound none, .call .addOutbound none] <:+ ·)
  | .stopped => fun log => [.call .processStop none] <:+ log ∧ served log = none
  | .releasing _ | .closed => fun log => served log = none
  | _ => fun _ => True

/-- What a phase says of the log before it. -/
structure Tells (phase : Phase) (log : List Item) : Prop where
  told : ∀ id, phase.told = some id → served log = some id
  past : phase.Past log

end Phase

section Tells

variable {phase phase' : Phase} {log : List Item}

theorem suffix_concat {items : List Item} (h : items <:+ log) (item : Item) :
    items ++ [item] <:+ log ++ [item] := by
  obtain ⟨front, rfl⟩ := h
  exact ⟨front, (List.append_assoc front items [item]).symm⟩

theorem StartedWith.concat {items : List Item} (h : StartedWith items log) (item : Item) :
    StartedWith (items ++ [item]) (log ++ [item]) := by
  obtain ⟨payload, h⟩ := h
  exact ⟨payload, suffix_concat h item⟩

theorem served_concat (log : List Item) (item : Item) :
    served (log ++ [item]) = match item with
      | .emit .started payload => payload.profileId
      | .emit .failoverTriggered payload => payload.newProfileId
      | .call .unregisterSignals _ | .call .stopWatcher _ | .call .close _ | .call .processStop _
      | .call .disable _ => none
      | _ => served log := List.foldl_concat _ _ _ _

theorem release_eq {rank : ℕ} (h : phase.release rank = some phase') :
    phase' = .releasing rank ∧ (2 ≤ rank → ∃ last, phase = .releasing last) := by
  unfold Phase.release at h
  split at h
  · cases h
  · next last =>
    split at h
    · exact ⟨(Option.some.inj h).symm, fun _ => ⟨last, rfl⟩⟩
    · cases h
  · split at h
    · next hrank => exact ⟨(Option.some.inj h).symm, fun h2 => absurd h2 (by omega)⟩
    · cases h

/-- A call that ends what the observer was told. -/
theorem tells_release {op : Op} {raised : Option Exc} {rank : ℕ}
    (hop : served (log ++ [.call op raised]) = none) (h : phase.release rank = some phase') :
    phase'.Tells (log ++ [.call op raised]) := by
  rw [(release_eq h).1]
  exact ⟨nofun, hop⟩

theorem tells_failing (log : List Item) : Phase.failing.Tells log := ⟨nofun, trivial⟩

/-- An item that tells the observer nothing. -/
theorem Phase.Tells.quiet {item : Item} (h : phase.Tells log) (htold : phase'.told = phase.told)
    (hserved : served (log ++ [item]) = served log) (hpast : phase'.Past (log ++ [item])) :
    phase'.Tells (log ++ [item]) :=
  ⟨fun id hid => hserved.trans (h.told id (htold.symm.trans hid)), hpast⟩

theorem tells_call {op : Op} {raised : Option Exc} (h : phase.Tells log)
    (hnext : phase.onCall op raised = some phase') : phase'.Tells (log ++ [.call op raised]) := by
  cases op with
  | processStart =>
    cases phase <;> cases hnext
    cases raised with
    | none => exact h.quiet rfl (served_concat _ _) (h.past.concat _)
    | some e => exact tells_failing _
  | connect =>
    cases phase <;> cases hnext
    cases raised with
    | none => exact h.quiet rfl (served_concat _ _) (h.past.concat _)
    | some e => exact tells_failing _
  | addOutbound =>
    cases phase <;> cases raised <;> cases hnext
    · exact h.quiet rfl (served_concat _ _) (h.past.concat _)
    · exact tells_failing _
    · exact h.quiet rfl (served_concat _ _) (suffix_concat h.past _)
    · exact h.quiet rfl (served_concat _ _) trivial
    · exact h.quiet rfl (served_concat _ _) trivial
    · exact h.quiet rfl (served_concat _ _) trivial
  | enable =>
    cases phase <;> cases hnext
    cases raised with
    | none =>
      obtain ⟨ready, hready⟩ := h.past
      exact h.quiet rfl (served_concat _ _) ⟨ready, hready.concat _⟩
    | some e => exact tells_failing _
  | startWatcher =>
    cases phase <;> cases hnext
    cases raised with
    | none => exact h.quiet rfl (served_concat _ _) trivial
    | some e => exact tells_failing _
  | unregisterSignals => exact tells_release (served_concat _ _) hnext
  | stopWatcher => exact tells_release (served_concat _ _) hnext
  | removeOutbound =>
    cases phase with
    | chosen id new =>
      cases raised <;> cases hnext
      · exact h.quiet rfl (served_concat _ _) (suffix_concat h.past _)
      · exact h.quiet rfl (served_concat _ _) trivial
    | recovering id =>
      cases hnext
      exact h.quiet rfl (served_concat _ _) trivial
    | releasing last =>
      have hdown : (Phase.releasing last).release 2 = some phase' := hnext
      exact tells_release ((served_concat _ _).trans h.past) hdown
    | _ => cases hnext
  | close => exact tells_release (served_concat _ _) hnext
  | processStop =>
    obtain ⟨down, hdown, rfl⟩ := Option.map_eq_some_iff.mp hnext
    cases raised with
    | none => exact ⟨nofun, ⟨log, rfl⟩, served_concat _ _⟩
    | some e => exact tells_release (served_concat _ _) hdown
  | disable => exact tells_release (served_concat _ _) hnext

theorem onFailover_eq {payload : EventPayload} (h : phase.onFailover payload = some phase') :
    ∃ id new, phase = .switched id new ∧ payload.oldProfileId = some id ∧
      payload.newProfileId = some new ∧ id ≠ new ∧ phase' = .running new := by
  unfold Phase.onFailover at h
  split at h
  · next id new =>
    split at h
    · next hpayload =>
      exact ⟨id, new, rfl, hpayload.1, hpayload.2.1, hpayload.2.2, (Option.some.inj h).symm⟩
    · cases h
  · cases h

theorem tells_event {event : ConnectionEvent} {payload : EventPayload} (h : phase.Tells log)
    (hnext : phase.onEvent event payload = some phase') :
    phase'.Tells (log ++ [.emit event payload]) := by
  cases event with
  | started =>
    obtain ⟨id, hid, rfl⟩ := Option.map_eq_some_iff.mp hnext
    refine ⟨fun id' hid' => ?_, payload, log, rfl⟩
    exact (served_concat log (.emit .started payload)).trans (hid.trans hid')
  | error =>
    cases hnext
    cases phase with
    | releasing last => exact ⟨nofun, (served_concat _ _).trans h.past⟩
    | closed => exact ⟨nofun, (served_concat _ _).trans h.past⟩
    | _ => exact tells_failing _
  | engineReady =>
    cases phase <;> cases hnext
    exact h.quiet rfl (served_concat _ _) ⟨payload, h.past.concat _⟩
  | killswitchEnabled =>
    cases phase <;> cases hnext
    exact h.quiet rfl (served_concat _ _) trivial
  | failoverTriggered =>
    obtain ⟨id, new, -, -, hnew, -, rfl⟩ := onFailover_eq hnext
    refine ⟨fun id' hid' => ?_, trivial⟩
    exact (served_concat log (.emit .failoverTriggered payload)).trans (hnew.trans hid')
  | killswitchWatcherDied =>
    cases phase <;> cases hnext
    · exact h.quiet rfl (served_concat _ _) trivial
    · exact h.quiet rfl (served_concat _ _) trivial
  | processStopped =>
    cases phase <;> cases hnext
    exact ⟨nofun, (served_concat _ _).trans h.past.2⟩
  | cleanupDone =>
    cases phase <;> cases hnext
    exact ⟨nofun, (served_concat _ _).trans h.past⟩

theorem tells_lookup {id : String} {found : Bool} (h : phase.Tells log)
    (hnext : phase.onLookup id found = some phase') :
    phase'.Tells (log ++ [.lookup id found]) := by
  cases phase <;> cases found <;> cases hnext
  · exact tells_failing _
  · exact h.quiet rfl (served_concat _ _) ⟨log, rfl⟩
  · exact tells_failing _
  · exact h.quiet rfl (served_concat _ _) ⟨log, rfl⟩
  · exact h.quiet rfl (served_concat _ _) trivial
  · exact h.quiet rfl (served_concat _ _) trivial

/-- **A phase** tells what the log before it is. -/
theorem tells_of_track (h : track Phase.next .fresh log = some phase) : phase.Tells log := by
  have hfresh : Phase.fresh.Tells [] := ⟨nofun, trivial⟩
  refine track_history (I := Phase.Tells) hfresh (fun phase phase' log item h hnext => ?_) h
  cases item with
  | call op raised => exact tells_call h hnext
  | emit event payload => exact tells_event h hnext
  | lookup id found => exact tells_lookup h hnext

/-- An event that may come next says what is so. -/
theorem Phase.Tells.grounds {event : ConnectionEvent} {payload : EventPayload} (h : phase.Tells log)
    (hnext : phase.onEvent event payload = some phase') : Grounds log payload event := by
  cases event with
  | started =>
    obtain ⟨id, hid, -⟩ := Option.map_eq_some_iff.mp hnext
    exact Option.isSome_iff_exists.mpr ⟨id, hid⟩
  | error => trivial
  | engineReady =>
    cases phase <;> cases hnext
    exact h.past
  | killswitchEnabled =>
    cases phase <;> cases hnext
    exact h.past
  | failoverTriggered =>
    obtain ⟨id, new, rfl, hold, hnew, hne, -⟩ := onFailover_eq hnext
    exact ⟨id, new, hold, hnew, hne, h.told id rfl, h.past⟩
  | killswitchWatcherDied =>
    cases phase <;> cases hnext
    · exact Option.isSome_iff_exists.mpr ⟨_, h.told _ rfl⟩
    · exact Option.isSome_iff_exists.mpr ⟨_, h.told _ rfl⟩
  | processStopped =>
    cases phase <;> cases hnext
    exact h.past.1
  | cleanupDone =>
    cases phase <;> cases hnext
    exact h.past

/-- After the end of a cleanup only failures are reported, until the next start. -/
theorem silent_of_closed (h : track Phase.next .closed log = some phase) : Silent log := by
  induction log with
  | nil => trivial
  | cons item log ih =>
    rw [track_cons] at h
    obtain ⟨phase₁, hnext, hlog⟩ := Option.bind_eq_some_iff.mp h
    cases item with
    | call op raised => cases op <;> cases hnext
    | emit event payload =>
      cases event with
      | started => trivial
      | error =>
        cases hnext
        exact ih hlog
      | _ => cases hnext
    | lookup id found => cases hnext

end Tells

end Bimarz.Connection
