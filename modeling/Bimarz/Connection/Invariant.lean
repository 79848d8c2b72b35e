import Bimarz.Connection.Service

/-!
# Invariants of a connection

What the primitive programs of the `try` block of `start` keep is kept by the whole block, by
either loop in any number of rounds, and through every switch and recovery of a failover.
-/

namespace Bimarz.Connection

open Effect Effect.Act

variable {W : Type}

/-- The calls of the `try` block that acquire and release nothing. -/
inductive Observes (svc : Services W) : {α : Type} → Act Exc W α → Prop
  | isRunning : Observes svc svc.isRunning
  | isActive : Observes svc svc.isActive
  | isWatcherAlive : Observes svc svc.isWatcherAlive
  | checkAllProfiles (profiles : List ServerProfile) : Observes svc (svc.checkAllProfiles profiles)
  | now : Observes svc svc.now
  | stopIsSet : Observes svc svc.stopIsSet
  | waitStop (timeout : ℚ) : Observes svc (svc.waitStop timeout)
  | addSignalHandler (sig : Signal) : Observes svc (svc.addSignalHandler sig)
  | eventHandler {handler : ConnectionEvent → EventPayload → Act Exc W Unit}
      (h : svc.eventHandler = some handler) (event : ConnectionEvent) (payload : EventPayload) :
      Observes svc (handler event payload)

/-- The primitive programs of the `try` block keep `I`. -/
structure Stable (svc : Services W) (I : ConnectionService W → Prop) : Prop where
  observe : ∀ {α : Type} {m : Act Exc W α}, Observes svc m → Keeps I (onWorld m)
  emitted : ∀ event payload, event ≠ .started → Keeps I (record (.emit event payload))
  lookedUp : ∀ id found, Keeps I (record (.lookup id found))
  registered : ∀ sig, Keeps I (modify fun s : ConnectionService W =>
    { s with signalsRegistered := s.signalsRegistered ++ [sig] } : Conn W Unit)
  startProcess : ∀ profile, Keeps I (startProcess svc profile)
  connectEngine : Keeps I (connectEngine svc)
  addOutbound : ∀ profile, Keeps I (addOutbound svc profile)
  removeOutbound : Keeps I (removeOutbound svc)
  enableKillswitch : Keeps I (enableKillswitch svc)
  startWatcher : Keeps I (invoke .startWatcher svc.startWatcher)
  markStarted : Keeps I (modify fun s : ConnectionService W => { s with started := true } :
    Conn W Unit)

namespace Stable

variable {svc : Services W} {I : ConnectionService W → Prop} (h : Stable svc I)

include h

theorem emit {event : ConnectionEvent} (hevent : event ≠ .started) (payload : EventPayload) :
    Keeps I (Connection.emit svc event payload) :=
  emit_triple (h.emitted event payload hevent) fun _ hh => h.observe (.eventHandler hh event payload)

theorem registerSignals : Keeps I (registerSignals svc) := by
  have hsig : ∀ sig, Keeps I (tryRegisterSignal svc sig) := fun sig =>
    Keeps.handle (Keeps.bind (h.observe (.addSignalHandler sig)) fun _ => h.registered sig)
      fun _ => Keeps.pure _
  exact Keeps.bind (hsig _) fun _ => hsig _

theorem acquire (profile : ServerProfile) (killswitch : Bool) :
    Keeps I (acquire svc profile killswitch) := by
  refine Keeps.bind (h.startProcess profile) fun _ => ?_
  refine Keeps.bind h.connectEngine fun _ => ?_
  refine Keeps.bind (h.addOutbound profile) fun _ => ?_
  refine Keeps.bind (h.emit (by decide) _) fun _ => ?_
  have hend : Keeps I (do
      Connection.registerSignals svc
      modify fun s => { s with started := true } : Conn W Unit) :=
    Keeps.bind h.registerSignals fun _ => h.markStarted
  cases killswitch with
  | false => exact hend
  | true =>
    refine Keeps.bind h.enableKillswitch fun _ => ?_
    refine Keeps.bind (h.emit (by decide) _) fun _ => ?_
    exact Keeps.bind h.startWatcher fun _ => hend

theorem goesOn : Keeps I (goesOn svc) := by
  refine Keeps.bind (h.observe .stopIsSet) fun stopped => ?_
  exact Keeps.ite (Keeps.pure _) (h.observe .isRunning)

theorem watchRound (timeout : ℚ) : Keeps I (watchRound svc timeout) := by
  have hdied : Keeps I (watcherDied svc) := by
    refine Keeps.bind (h.observe .isActive) fun active => Keeps.ite ?_ (Keeps.pure _)
    exact Keeps.bind (h.observe .isWatcherAlive) fun alive => Keeps.pure _
  refine Keeps.bind hdied fun died => ?_
  refine Keeps.ite (Keeps.bind (h.emit (by decide) _) fun _ => Keeps.pure _) ?_
  refine Keeps.bind (h.observe (.waitStop timeout)) fun stopped => ?_
  exact Keeps.ite (Keeps.pure _) (Keeps.pure _)

theorem watchLoop (n : ℕ) : Keeps I (watchLoop svc n) := by
  refine Keeps.loop (Keeps.bind h.goesOn fun on => ?_) n
  exact Keeps.ite (h.watchRound 1) (Keeps.pure _)

theorem lookup (profileMap : Dict String ServerProfile) (id : String) :
    Keeps I (lookup profileMap id) := by
  unfold Connection.lookup
  cases profileMap.get? id with
  | none => exact Keeps.bind (h.lookedUp id false) fun _ => Keeps.raise _
  | some profile => exact Keeps.bind (h.lookedUp id true) fun _ => Keeps.pure _

/-- The switch and its recovery, at every point where they may fail. -/
theorem switchOutbound (profileMap : Dict String ServerProfile) (activeId : String)
    (best : ServerProfile) : Keeps I (switchOutbound svc profileMap activeId best) := by
  refine Keeps.handle ?_ fun exc => ?_
  · refine Keeps.bind h.removeOutbound fun _ => ?_
    exact Keeps.bind (h.addOutbound best) fun _ => Keeps.pure _
  · refine Keeps.bind (Keeps.failure ?_) fun removal => ?_
    · refine Keeps.bind (Keeps.reads _) fun isOwned => ?_
      exact Keeps.ite h.removeOutbound (Keeps.pure _)
    · refine Keeps.bind (Keeps.failure ?_) fun restoral => ?_
      · exact Keeps.bind (h.lookup _ _) fun profile => h.addOutbound profile
      · cases restoral <|> removal with
        | none => exact Keeps.pure _
        | some e => exact Keeps.pure _

omit h in
/-- A program of the service, in a loop with a local failover manager. -/
theorem onConn {α : Type} {m : Conn W α} (hm : Keeps I m) :
    Keeps (fun p => I p.1) (onConn m) :=
  Keeps.zoom hm (fun _ hs => hs) fun _ _ _ ht => ht

theorem switchTo (profileMap : Dict String ServerProfile) (m : FailoverManager)
    (bestId : String) : Keeps (fun p => I p.1) (switchTo svc profileMap m bestId) := by
  refine Keeps.bind (onConn (h.lookup _ _)) fun best => ?_
  refine Keeps.bind (onConn (h.switchOutbound _ _ _)) fun failed => ?_
  cases failed with
  | some message => exact Keeps.bind (onConn (h.emit (by decide) _)) fun _ => Keeps.pure _
  | none =>
    refine Keeps.bind (onConn (h.observe .now)) fun now => ?_
    cases m.triggerFailover bestId _ now with
    | error e => exact Keeps.raise e
    | ok next =>
      refine Keeps.bind (Keeps.modify fun _ hs => hs) fun _ => ?_
      exact Keeps.bind (onConn (h.emit (by decide) _)) fun _ => Keeps.pure _

theorem failover (profileMap : Dict String ServerProfile)
    (results : Dict String HealthCheckResult) :
    Keeps (fun p => I p.1) (failover svc profileMap results) := by
  refine Keeps.bind (Keeps.reads _) fun m => Keeps.ite ?_ (Keeps.pure _)
  cases m.pickBestAlternative results with
  | none => exact Keeps.bind (onConn (h.emit (by decide) _)) fun _ => Keeps.pure _
  | some bestId => exact h.switchTo profileMap m bestId

omit h in
theorem recordActive (results : Dict String HealthCheckResult) :
    Keeps (fun p : ConnectionService W × FailoverManager => I p.1) (recordActive results) := by
  refine Keeps.bind (Keeps.reads _) fun m => ?_
  cases results.get? m.activeProfileId with
  | none => exact Keeps.pure _
  | some result => exact Keeps.modify fun _ hs => hs

theorem failoverRound (profileMap : Dict String ServerProfile) :
    Keeps (fun p => I p.1) (failoverRound svc profileMap) := by
  refine Keeps.bind (onConn h.goesOn) fun on => Keeps.ite ?_ (Keeps.pure _)
  refine Keeps.bind (onConn (h.observe (.checkAllProfiles _))) fun results => ?_
  refine Keeps.bind (recordActive results) fun _ => ?_
  refine Keeps.bind (h.failover profileMap results) fun flow => ?_
  cases flow with
  | leave => exact Keeps.pure _
  | next => exact onConn (h.watchRound _)

theorem failoverLoop (n : ℕ) (initial : ServerProfile) (allProfiles : List ServerProfile) :
    Keeps I (failoverLoop svc n initial allProfiles) := by
  unfold Connection.failoverLoop
  cases FailoverManager.init initial.profileId failoverConsecutiveFailuresThreshold with
  | error e => exact Keeps.raise e
  | ok m => exact Keeps.withLocal (Keeps.loop (h.failoverRound _) n) m

/-- **The `try` block** keeps what its primitive programs keep, wherever it raises. -/
theorem startBody (n : ℕ) (profile : ServerProfile) (autoFailover killswitch : Bool)
    (allProfiles : Option (List ServerProfile)) :
    Keeps I (startBody svc n profile autoFailover killswitch allProfiles) := by
  refine Keeps.bind (h.acquire profile killswitch) fun _ => ?_
  rcases allProfiles with _ | _ | ⟨p, ps⟩
  · exact h.watchLoop n
  · exact h.watchLoop n
  · exact Keeps.ite (h.failoverLoop n profile _) (h.watchLoop n)

end Stable

/-! ## Invariants of the teardown -/

/-- The programs that the cleanup routines are made of keep `I`. -/
structure Closing (svc : Services W) (I : ConnectionService W → Prop) : Prop where
  emit : ∀ event payload, event ≠ .started → Keeps I (emit svc event payload)
  signals : Keeps I (unregisterSignals svc)
  stopWatcher : Keeps I (invoke .stopWatcher svc.stopWatcher)
  removeOutbound : Keeps I (invoke .removeOutbound svc.removeOutbound)
  close : Keeps I (invoke .close svc.close)
  processStop : Keeps I (invoke .processStop svc.processStop)
  releaseKillswitch : Keeps (fun p => I p.1) (releaseKillswitch svc)
  disown : ∀ s outboundOwned engineOwned processOwned, I s →
    I { s with outboundOwned, engineOwned, processOwned }
  down : ∀ s started, I s → I { s with started }

namespace Closing

variable {svc : Services W} {I : ConnectionService W → Prop}

theorem lift {α : Type} {m : Conn W α} (hm : Keeps I m) :
    Keeps (fun p => I p.1) (Teardown.lift m) := Teardown.keeps_lift hm

theorem attempt {label : String} {release orElse : Conn W Unit} (hrelease : Keeps I release)
    (horElse : Keeps I orElse) : Keeps (fun p => I p.1) (attempt label release orElse) :=
  Teardown.keeps_attempt hrelease horElse

variable (h : Closing svc I)

include h

theorem reportErrors : Keeps (fun p => I p.1) (reportErrors svc) :=
  Keeps.bind (Keeps.reads _) fun _ =>
    Keeps.ite (lift (h.emit _ _ (by decide))) (Keeps.pure _)

/-- **A rollback** keeps what its releases keep, wherever it is cut short. -/
theorem rollback : Keeps I (rollback svc) := by
  refine Keeps.withLocal ?_ _
  refine Keeps.bind (attempt h.signals (Keeps.pure _)) fun _ => ?_
  refine Keeps.bind (attempt h.stopWatcher (Keeps.pure _)) fun _ => ?_
  refine Keeps.bind ?_ fun _ => Keeps.bind ?_ fun _ => Keeps.bind ?_ fun _ => ?_
  · refine Keeps.bind (lift (Keeps.reads _)) fun _ => Keeps.ite ?_ (Keeps.pure _)
    exact attempt h.removeOutbound (Keeps.modify fun s hs => h.disown s _ _ _ hs)
  · refine Keeps.bind (lift (Keeps.reads _)) fun _ => Keeps.ite ?_ (Keeps.pure _)
    exact Keeps.ensure (attempt h.close (Keeps.pure _))
      (lift (Keeps.modify fun s hs => h.disown s _ _ _ hs))
  · refine Keeps.bind (lift (Keeps.reads _)) fun _ => Keeps.ite ?_ (Keeps.pure _)
    refine attempt h.processStop ?_
    exact Keeps.bind (Keeps.modify fun s hs => h.disown s _ _ _ hs) fun _ => h.emit _ _ (by decide)
  refine Keeps.bind h.releaseKillswitch fun _ => ?_
  refine Keeps.bind (lift (Keeps.modify fun s hs => h.down s false hs)) fun _ => ?_
  refine Keeps.bind h.reportErrors fun _ => ?_
  refine Keeps.bind (lift (Keeps.ite (h.emit _ _ (by decide)) (Keeps.pure _))) fun _ => ?_
  exact Keeps.reads _

theorem abandon (e : Exc) : Keeps I (abandon svc e) := by
  refine Keeps.bind h.rollback fun _ => ?_
  exact Keeps.ite (Keeps.bind (h.emit _ _ (by decide)) fun _ => Keeps.raise e) (Keeps.raise e)

theorem cleanupBody : Keeps (fun p => I p.1) (cleanupBody svc) := by
  refine Keeps.bind (attempt h.signals (Keeps.pure _)) fun _ => ?_
  refine Keeps.bind (attempt h.stopWatcher (Keeps.pure _)) fun _ => ?_
  refine Keeps.bind (attempt h.removeOutbound (Keeps.pure _)) fun _ => ?_
  refine Keeps.bind (attempt h.close (Keeps.pure _)) fun _ => ?_
  refine Keeps.bind (attempt h.processStop (h.emit _ _ (by decide))) fun _ => ?_
  exact h.releaseKillswitch

theorem cleanupEnd (hcleaned : ∀ s, I s → I { s with cleaned := true }) :
    Keeps (fun p => I p.1) (cleanupEnd svc) := by
  refine Keeps.bind (lift (Keeps.modify hcleaned)) fun _ => ?_
  exact Keeps.bind h.reportErrors fun _ => lift (h.emit _ _ (by decide))

/-- **A cleanup** keeps what its releases keep, wherever it is cut short. -/
theorem cleanup (hcleaned : ∀ s, I s → I { s with cleaned := true }) :
    Keeps I (cleanup svc) := by
  refine Keeps.bind (Keeps.reads _) fun _ => Keeps.ite (Keeps.pure _) ?_
  exact Keeps.withLocal (Keeps.ensure h.cleanupBody (h.cleanupEnd hcleaned)) _

end Closing

/-! ## Whether the connection has been cleaned up -/

section Open

theorem cleaned_record (item : Item) :
    Frames ConnectionService.cleaned (record item : Conn W Unit) := fun _ => rfl

theorem cleaned_invoke (op : Op) (m : Act Exc W Unit) :
    Frames ConnectionService.cleaned (invoke op m) :=
  invoke_frames (fun _ => rfl) fun _ => cleaned_record _

theorem open_invoke_then {op : Op} {m : Act Exc W Unit}
    {f : ConnectionService W → ConnectionService W} (hf : ∀ s, (f s).cleaned = s.cleaned) :
    Keeps (fun s => s.cleaned = false) (do invoke op m; modify f) :=
  (Frames.bind (cleaned_invoke op m) fun _ => Frames.modify hf).keeps_eq false

variable (svc : Services W)

theorem open_emit (event : ConnectionEvent) (payload : EventPayload) :
    Keeps (fun s => s.cleaned = false) (emit svc event payload) :=
  emit_triple ((cleaned_record _).keeps_eq false) fun _ _ => Keeps.of_run fun _ hs => hs

/-- Nothing in the `try` block of `start` marks the connection as cleaned. -/
theorem stable_open : Stable svc (fun s => s.cleaned = false) where
  observe _ := Keeps.of_run fun _ hs => hs
  emitted _ _ _ := Keeps.modify fun _ hs => hs
  lookedUp _ _ := Keeps.modify fun _ hs => hs
  registered _ := Keeps.modify fun _ hs => hs
  startProcess _ := open_invoke_then fun _ => rfl
  connectEngine := open_invoke_then fun _ => rfl
  addOutbound _ := open_invoke_then fun _ => rfl
  removeOutbound := open_invoke_then fun _ => rfl
  enableKillswitch := open_invoke_then fun _ => rfl
  startWatcher := (cleaned_invoke _ _).keeps_eq false
  markStarted := Keeps.modify fun _ hs => hs

/-- Nor does a release. -/
theorem closing_open : Closing svc (fun s => s.cleaned = false) where
  emit event payload _ := open_emit svc event payload
  signals := Keeps.bind (Keeps.reads _) fun _ =>
    Keeps.ite (Keeps.pure _) (open_invoke_then fun _ => rfl)
  stopWatcher := (cleaned_invoke _ _).keeps_eq false
  removeOutbound := (cleaned_invoke _ _).keeps_eq false
  close := (cleaned_invoke _ _).keeps_eq false
  processStop := (cleaned_invoke _ _).keeps_eq false
  releaseKillswitch := by
    let I (s : ConnectionService W) : Prop := s.cleaned = false
    refine Keeps.bind (Closing.lift (I := I) (Keeps.reads _)) fun _ => Keeps.ite ?_ (Keeps.pure _)
    exact Closing.attempt (I := I) ((cleaned_invoke _ _).keeps_eq false)
      (Keeps.modify fun _ hs => hs)
  disown _ _ _ _ hs := hs
  down _ _ hs := hs

/-- A connection that was started has still to be cleaned up, however `start` ended. -/
theorem start_open (n : ℕ) (profile : ServerProfile) (autoFailover killswitch : Bool)
    (allProfiles : Option (List ServerProfile)) (s : ConnectionService W) :
    (start svc n profile autoFailover killswitch allProfiles s).2.cleaned = false := by
  have hstart : Triple (fun _ => True) (start svc n profile autoFailover killswitch allProfiles)
      (fun _ s => s.cleaned = false) (fun _ s => s.cleaned = false) := by
    refine Triple.bind (R := fun _ s => s.cleaned = false) ?_ fun _ => ?_
    · exact Triple.bind (R := fun _ s => s.cleaned = false) (Triple.modify fun _ _ => rfl)
        fun _ => open_emit svc _ _
    · exact Keeps.handle ((stable_open svc).startBody n profile autoFailover killswitch allProfiles)
        (closing_open svc).abandon
  have h := hstart s trivial
  rcases hrun : start svc n profile autoFailover killswitch allProfiles s with ⟨e | left, s₁⟩ <;>
    rw [hrun] at h
  · exact h
  · exact h

end Open

/-- A cleanup that has run is not repeated. -/
theorem cleanup_of_cleaned (svc : Services W) {s : ConnectionService W} (h : s.cleaned = true) :
    cleanup svc s = (.ok (), s) := by
  unfold cleanup
  rw [reads_bind_apply, ite_run, if_pos h]
  rfl

/-- The state after a cleanup that is due is that of its `finally` block. -/
theorem cleanup_snd (svc : Services W) {s : ConnectionService W}
    (hopen : s.cleaned = false) :
    (cleanup svc s).2 = (cleanupEnd svc (cleanupBody svc (s, [])).2).2.1 := by
  unfold cleanup
  rw [reads_bind_apply, ite_run, if_neg (by simp [hopen]), withLocal_apply]
  exact congrArg Prod.fst (ensure_snd _ _ _)

/-- The `try` block of a cleanup that returns has returned. -/
theorem cleanupBody_returned {svc : Services W} {s : ConnectionService W}
    (hopen : s.cleaned = false) (h : (cleanup svc s).1 = .ok ()) :
    (cleanupBody svc (s, [])).1 = .ok () := by
  unfold cleanup at h
  rw [reads_bind_apply, ite_run, if_neg (by simp [hopen]), withLocal_apply] at h
  exact ensure_returned h

/-- A cleanup that is due and returns has gone through both its blocks. -/
theorem cleanup_through {svc : Services W} {P Q : ConnectionService W → Prop}
    {R : ConnectionService W × List String → Prop}
    (hbody : Triple (fun p => P p.1) (cleanupBody svc) (fun _ => R) (fun _ _ => True))
    (hend : Triple R (cleanupEnd svc) (fun _ p => Q p.1) (fun _ _ => True))
    {s s' : ConnectionService W} (hopen : s.cleaned = false) (hs : P s)
    (h : cleanup svc s = (.ok (), s')) : Q s' := by
  have hcleanup : Triple P (withLocal [] (ensure (cleanupBody svc) (cleanupEnd svc)))
      (fun _ => Q) (fun _ _ => True) := by
    refine Triple.withLocal (Triple.conseq (F := fun _ _ => True) ?_ (fun _ hp => hp.1)
      (fun _ _ hp => hp) fun _ _ _ => trivial)
    exact Triple.ensure hbody (fun _ => hend) fun _ => Keeps.of_run fun _ _ => trivial
  unfold cleanup at h
  rw [reads_bind_apply, ite_run, if_neg (by simp [hopen])] at h
  exact hcleanup.of_ok hs h

/-! ## Invariants of the world -/

/-- Every call of a service keeps `J`. -/
structure Services.Preserves (svc : Services W) (J : W → Prop) : Prop where
  observe : ∀ {α : Type} {m : Act Exc W α}, Observes svc m → Keeps J m
  processStart : ∀ profile, Keeps J (svc.processStart profile)
  processStop : Keeps J svc.processStop
  connect : Keeps J svc.connect
  addOutbound : ∀ profile, Keeps J (svc.addOutbound profile)
  removeOutbound : Keeps J svc.removeOutbound
  close : Keeps J svc.close
  enable : ∀ interface, Keeps J (svc.enable interface)
  disable : Keeps J svc.disable
  startWatcher : Keeps J svc.startWatcher
  stopWatcher : Keeps J svc.stopWatcher
  removeSignalHandler : ∀ sig, Keeps J (svc.removeSignalHandler sig)
  clearStop : ∀ w, J w → J (svc.clearStop w)

namespace Services.Preserves

variable {svc : Services W} {J : W → Prop}

theorem onWorld {α : Type} {m : Act Exc W α} (hm : Keeps J m) :
    Keeps (fun s : ConnectionService W => J s.world) (onWorld m) :=
  Keeps.zoom hm (fun _ hs => hs) fun _ _ _ ht => ht

theorem record (item : Item) :
    Keeps (fun s : ConnectionService W => J s.world) (record item) := Keeps.modify fun _ hs => hs

theorem invoke {op : Op} {m : Act Exc W Unit} (hm : Keeps J m) :
    Keeps (fun s : ConnectionService W => J s.world) (invoke op m) := invoke_triple hm op

theorem invoke_then {op : Op} {m : Act Exc W Unit}
    {f : ConnectionService W → ConnectionService W} (hm : Keeps J m)
    (hf : ∀ s, (f s).world = s.world) :
    Keeps (fun s : ConnectionService W => J s.world) (do Connection.invoke op m; modify f) := by
  refine Keeps.bind (invoke hm) fun _ => Keeps.modify fun s hs => ?_
  rw [hf]
  exact hs

variable (h : svc.Preserves J)

include h

theorem stable : Stable svc (fun s => J s.world) where
  observe hm := onWorld (h.observe hm)
  emitted _ _ _ := record _
  lookedUp _ _ := record _
  registered _ := Keeps.modify fun _ hs => hs
  startProcess profile := invoke_then (h.processStart profile) fun _ => rfl
  connectEngine := invoke_then h.connect fun _ => rfl
  addOutbound profile := invoke_then (h.addOutbound profile) fun _ => rfl
  removeOutbound := invoke_then h.removeOutbound fun _ => rfl
  enableKillswitch := invoke_then (h.enable _) fun _ => rfl
  startWatcher := invoke h.startWatcher
  markStarted := Keeps.modify fun _ hs => hs

theorem emit (event : ConnectionEvent) (payload : EventPayload) :
    Keeps (fun s => J s.world) (emit svc event payload) :=
  emit_triple (record _) fun _ hh => onWorld (h.observe (.eventHandler hh event payload))

theorem closing : Closing svc (fun s => J s.world) where
  emit event payload _ := h.emit event payload
  signals := by
    refine Keeps.bind (Keeps.reads _) fun registered => Keeps.ite (Keeps.pure _) ?_
    refine invoke_then (Keeps.forM (fun sig => ?_) _) fun _ => rfl
    exact Keeps.handle (h.removeSignalHandler sig) fun _ => Keeps.pure _
  stopWatcher := invoke h.stopWatcher
  removeOutbound := invoke h.removeOutbound
  close := invoke h.close
  processStop := invoke h.processStop
  releaseKillswitch := by
    let I (s : ConnectionService W) : Prop := J s.world
    refine Keeps.bind (Closing.lift (I := I) (Keeps.reads _)) fun _ => Keeps.ite ?_ (Keeps.pure _)
    exact Closing.attempt (I := I) (invoke h.disable) (Keeps.modify fun _ hs => hs)
  disown _ _ _ _ hs := hs
  down _ _ hs := hs

/-- **`cleanup`** keeps what every call keeps. -/
theorem cleanup : Keeps (fun s => J s.world) (cleanup svc) := h.closing.cleanup fun _ hs => hs

/-- **`start`** keeps what every call keeps, with its loop and its rollback. -/
theorem start (n : ℕ) (profile : ServerProfile) (autoFailover killswitch : Bool)
    (allProfiles : Option (List ServerProfile)) :
    Keeps (fun s => J s.world) (start svc n profile autoFailover killswitch allProfiles) := by
  refine Keeps.bind ?_ fun _ => ?_
  · exact Keeps.bind (Keeps.modify fun s hs => h.clearStop s.world hs) fun _ => h.emit _ _
  exact Keeps.handle (h.stable.startBody n profile autoFailover killswitch allProfiles)
    h.closing.abandon

end Services.Preserves

end Bimarz.Connection
