import Bimarz.Connection.Stopped
import Bimarz.Connection.Traffic

/-!
# Where xray-core listens and where the engine client dials

`ProcessService.start` writes the configuration of xray-core and `EngineService.connect` dials its
endpoint, with retries. The two services of `World` are given here with what they write and dial;
the others are as they are there.
-/

namespace Bimarz

open Effect Effect.Act

/-! ## `config.py` -/

/-- `_get_int` and `_get_float`: a text that cannot be converted counts as absent. -/
def getNumber {α : Type} (convert : String → Option α) (environ : Dict String String)
    (name : String) (default : α) : α :=
  ((environ.get? name).bind convert).getD default

/-- `AppConfig.from_env`; `float` is what `float()` makes of a text. -/
def AppConfig.fromEnv (float : String → Option ℚ) (environ : Dict String String) : AppConfig where
  grpcHost := (environ.get? "BIMARZ_GRPC_HOST").getD "127.0.0.1"
  grpcPort := getNumber Python.intOfString environ "BIMARZ_GRPC_PORT" 10085
  engineRetries := getNumber Python.intOfString environ "BIMARZ_ENGINE_RETRIES"
    engineConnectMaxRetries
  engineRetryDelay := getNumber float environ "BIMARZ_ENGINE_RETRY_DELAY" engineConnectRetryDelay
  failoverInterval := getNumber float environ "BIMARZ_FAILOVER_INTERVAL"
    failoverCheckIntervalSeconds
  defaultInterface := (environ.get? "BIMARZ_DEFAULT_INTERFACE").getD "tun0"

/-- The host and the port of an endpoint. -/
def hostPort (endpoint : String) : String := Python.removeStart endpoint "http://"

namespace Connection

/-- A world with the configurations that were written for xray-core and the endpoints that were
dialled. -/
structure Wired where
  base : World
  written : List Xray.ConnectConfig := []
  dialled : List String := []

/-- A program that neither writes a configuration nor dials. -/
def onBase {α : Type} (m : Act Exc World α) : Act Exc Wired α :=
  zoom Wired.base (fun base w => { w with base }) m

namespace Wired

/-! ## `ProcessService.start` -/

/-- The configuration is built with the defaults of `build_connect_config` and written. -/
def writeConfig (engineCore : Option Exc) : Act Exc Wired Unit :=
  match Xray.buildConnectConfig engineCore defaultGrpcEndpoint defaultLocalSocksPort true with
  | .error e => raise e
  | .ok xrayConfig => do
    let _ ← onBase (external id)
    modify fun w => { w with written := w.written ++ [xrayConfig] }

def processStart (engineCore : Option Exc) : Act Exc Wired Unit :=
  processStartWith onBase (writeConfig engineCore)

/-! ## `EngineService.connect` -/

/-- `engine_client_class.connect(endpoint)`. -/
def dial (endpoint : String) : Act Exc Wired Unit := do
  modify fun w => { w with dialled := w.dialled ++ [endpoint] }
  let _ ← onBase (external id)

/-- What is raised when no attempt is left. -/
def exhausted : Option Exc → Exc
  | some lastExc => lastExc
  | none => .error .runtimeError "Failed to connect to engine after retries"

/-- `connect_with_retry` with `n` attempts left. -/
def connectWithRetry (isRetryable : Exc → Bool) (endpoint : String) :
    ℕ → Option Exc → Act Exc Wired Unit
  | 0, lastExc => raise (exhausted lastExc)
  | n + 1, _ => do
    match ← failure Exc.isException (dial endpoint) with
    | none => return
    | some e =>
      if !isRetryable e then raise e
      -- `asyncio.sleep(delay)` between two attempts
      else if n = 0 then raise e
      else
        let _ ← onBase (external id)
        connectWithRetry isRetryable endpoint n (some e)

def engineConnect (isRetryable : Exc → Bool) (config : AppConfig) : Act Exc Wired Unit := do
  if ← onBase (reads World.engine) then return
  else
    connectWithRetry isRetryable config.grpcEndpoint config.engineRetries.toNat none
    onBase (modify fun w => { w with engine := true })

/-! ## The services -/

/-- The default services of a connection with this configuration. -/
def services (engineCore : Option Exc) (isRetryable : Exc → Bool) (config : AppConfig) :
    Services Wired where
  config
  processStart _ := processStart engineCore
  isRunning := onBase isRunning
  processStop := onBase processStop
  connect := engineConnect isRetryable config
  addOutbound profile := onBase (engineAdd profile)
  removeOutbound := onBase (engineRemove true)
  close := onBase engineClose
  hasEngine w := w.base.engine
  enable interface := onBase (killswitchEnable interface)
  disable := onBase killswitchDisable
  startWatcher := onBase killswitchStartWatcher
  stopWatcher := onBase killswitchStopWatcher
  isActive := onBase killswitchIsActive
  isWatcherAlive := onBase killswitchIsWatcherAlive
  addSignalHandler _ := onBase do let _ ← external id
  removeSignalHandler _ := onBase do let _ ← external id
  checkAllProfiles profiles := onBase (checkAllProfiles profiles)
  now := onBase do return (← ask).text
  clearStop w := w
  stopIsSet := onBase do return (← ask).yes
  waitStop _ := onBase do return (← external id).yes
  eventHandler := some fun _ _ => onBase do let _ ← external id

/-- The state after a request, whether it returned or raised. -/
def step (engineCore : Option Exc) (isRetryable : Exc → Bool) (config : AppConfig)
    (s : ConnectionService Wired) : Request → ConnectionService Wired
  | .start n profile autoFailover killswitch allProfiles =>
    (Connection.start (services engineCore isRetryable config) n profile autoFailover killswitch
      allProfiles s).2
  | .cleanup => (Connection.cleanup (services engineCore isRetryable config) s).2

/-- xray-core listens where the client dials. -/
def Agrees (w : Wired) : Prop :=
  ∀ xrayConfig ∈ w.written, ∀ endpoint ∈ w.dialled, xrayConfig.api.listen = hostPort endpoint

/-! ## What the services write -/

section Runs

variable {engineCore : Option Exc} {isRetryable : Exc → Bool} {config : AppConfig}
  {J : List Xray.ConnectConfig → List String → Prop}

theorem onBase_keeps {α : Type} (m : Act Exc World α) :
    Keeps (fun w => J w.written w.dialled) (onBase m) := Keeps.of_run fun _ hw => hw

theorem dial_keeps {endpoint : String}
    (hdial : ∀ written dialled, J written dialled → J written (dialled ++ [endpoint])) :
    Keeps (fun w => J w.written w.dialled) (dial endpoint) :=
  Keeps.bind (Keeps.modify fun _ hw => hdial _ _ hw) fun _ =>
    Keeps.bind (onBase_keeps _) fun _ => Keeps.pure _

/-- Every attempt dials the same endpoint. -/
theorem connectWithRetry_keeps {endpoint : String} {n : ℕ}
    (hdial : 0 < n → ∀ written dialled, J written dialled → J written (dialled ++ [endpoint]))
    (lastExc : Option Exc) :
    Keeps (fun w => J w.written w.dialled) (connectWithRetry isRetryable endpoint n lastExc) := by
  induction n generalizing lastExc with
  | zero => exact Keeps.raise _
  | succ n ih =>
    have hdial := hdial (Nat.succ_pos n)
    refine Keeps.bind (Keeps.failure (dial_keeps hdial)) fun failed => ?_
    cases failed with
    | none => exact Keeps.pure _
    | some e =>
      refine Keeps.ite (Keeps.raise e) (Keeps.ite (Keeps.raise e) ?_)
      exact Keeps.bind (onBase_keeps _) fun _ => ih (fun _ => hdial) (some e)

theorem writeConfig_keeps
    (hwrite : ∀ xrayConfig written dialled,
      Xray.buildConnectConfig engineCore defaultGrpcEndpoint defaultLocalSocksPort true =
        .ok xrayConfig → J written dialled → J (written ++ [xrayConfig]) dialled) :
    Keeps (fun w => J w.written w.dialled) (writeConfig engineCore) := by
  unfold writeConfig
  split
  · exact Keeps.raise _
  · rename_i xrayConfig hbuild
    exact Keeps.bind (onBase_keeps _) fun _ => Keeps.modify fun _ hw => hwrite _ _ _ hbuild hw

/-- **The services** keep what every writing and every dialling keeps. -/
theorem preserves
    (hwrite : ∀ xrayConfig written dialled,
      Xray.buildConnectConfig engineCore defaultGrpcEndpoint defaultLocalSocksPort true =
        .ok xrayConfig → J written dialled → J (written ++ [xrayConfig]) dialled)
    (hdial : 0 < config.engineRetries → ∀ written dialled, J written dialled →
      J written (dialled ++ [config.grpcEndpoint])) :
    (services engineCore isRetryable config).Preserves fun w => J w.written w.dialled where
  observe hm := by
    cases hm with
    | eventHandler h =>
      cases h
      exact onBase_keeps _
    | _ => exact onBase_keeps _
  processStart _ := keeps_processStartWith (onBase_keeps _) (onBase_keeps _) (onBase_keeps _)
    (writeConfig_keeps hwrite) (onBase_keeps _) (fun _ => onBase_keeps _) (onBase_keeps _)
  processStop := onBase_keeps _
  connect := by
    refine Keeps.bind (onBase_keeps _) fun _ => Keeps.ite (Keeps.pure _) ?_
    exact Keeps.bind (connectWithRetry_keeps (fun h => hdial (by omega)) _) fun _ => onBase_keeps _
  addOutbound _ := onBase_keeps _
  removeOutbound := onBase_keeps _
  close := onBase_keeps _
  enable _ := onBase_keeps _
  disable := onBase_keeps _
  startWatcher := onBase_keeps _
  stopWatcher := onBase_keeps _
  removeSignalHandler _ := onBase_keeps _
  clearStop _ hw := hw

/-- A request keeps what the services keep. -/
theorem step_keeps {I : Wired → Prop} (h : (services engineCore isRetryable config).Preserves I)
    (request : Request) (s : ConnectionService Wired) (hs : I s.world) :
    I (step engineCore isRetryable config s request).world := by
  cases request with
  | start n profile autoFailover killswitch allProfiles =>
    exact (h.start n profile autoFailover killswitch allProfiles).run hs
  | cleanup => exact h.cleanup.run hs

end Runs

/-! ## Runs -/

/-- A connection that was not used yet. -/
def fresh (answers : Stream' Answer) (killswitch : KillSwitch.System) : ConnectionService Wired :=
  { world := { base := { answers, killswitch } } }

/-- Only the default address is ever written, and only the configured one is dialled. -/
structure Addressed (config : AppConfig) (written : List Xray.ConnectConfig)
    (dialled : List String) : Prop where
  listens : ∀ xrayConfig ∈ written, xrayConfig.api.listen = "127.0.0.1:10085"
  dials : ∀ endpoint ∈ dialled, endpoint = config.grpcEndpoint
  attempts : dialled ≠ [] → 0 < config.engineRetries

section Address

variable (engineCore : Option Exc) (isRetryable : Exc → Bool) (config : AppConfig)

theorem addressed_services :
    (services engineCore isRetryable config).Preserves fun w =>
      Addressed config w.written w.dialled := by
  refine preserves (J := Addressed config) ?_ ?_
  · intro xrayConfig written dialled hbuild h
    refine { h with listens := fun c hc => ?_ }
    rcases List.mem_append.mp hc with hc | hc
    · exact h.listens c hc
    · rw [List.mem_singleton.mp hc]
      have hlisten := Xray.listen_of_buildConnectConfig hbuild
      have haddress : Xray.grpcListenAddress defaultGrpcEndpoint = .ok "127.0.0.1:10085" := by
        decide
      rw [haddress] at hlisten
      exact (Except.ok.inj hlisten).symm
  · intro hattempts written dialled h
    refine { h with dials := fun endpoint hmem => ?_, attempts := fun _ => hattempts }
    rcases List.mem_append.mp hmem with hmem | hmem
    · exact h.dials endpoint hmem
    · exact List.mem_singleton.mp hmem

theorem addressed_of_runs (answers : Stream' Answer) (killswitch : KillSwitch.System)
    (requests : List Request) :
    let w := (runAll (step engineCore isRetryable config) (fresh answers killswitch)
      requests).world
    Addressed config w.written w.dialled := by
  refine runAll_invariant (I := fun s : ConnectionService Wired =>
    Addressed config s.world.written s.world.dialled) (fun s request hs => ?_) ?_ requests
  · exact step_keeps (addressed_services engineCore isRetryable config) request s hs
  · exact ⟨nofun, nofun, fun h => absurd rfl h⟩

/-- What was written and dialled stays written and dialled. -/
theorem grown_services (xrayConfig : Xray.ConnectConfig) (endpoint : String) :
    (services engineCore isRetryable config).Preserves fun w =>
      xrayConfig ∈ w.written ∧ endpoint ∈ w.dialled := by
  refine preserves (J := fun written dialled => xrayConfig ∈ written ∧ endpoint ∈ dialled)
    (fun _ _ _ _ h => ?_) fun _ _ _ h => ?_
  · exact ⟨List.mem_append_left _ h.1, h.2⟩
  · exact ⟨h.1, List.mem_append_left _ h.2⟩

end Address

/-- The world of a run in which nothing fails. -/
def smooth : ConnectionService Wired :=
  fresh (.const {}) (.freshWith (.const .runs) (.const true))

section Dialling

variable {endpoint : String} {w w' : Wired}

theorem dial_ok (h : w.base.answers.head.failure = none) :
    ∃ base, dial endpoint w = (.ok (), { w with base, dialled := w.dialled ++ [endpoint] }) := by
  obtain ⟨base, hexternal, -⟩ := external_returns h
  have hbase : onBase (external id) { w with dialled := w.dialled ++ [endpoint] } =
      (.ok w.base.answers.head, { w with base, dialled := w.dialled ++ [endpoint] }) := by
    unfold onBase zoom
    rw [hexternal]
  exact ⟨base, bind_ok hbase⟩

theorem connectWithRetry_ok {isRetryable : Exc → Bool} (h : dial endpoint w = (.ok (), w'))
    (n : ℕ) (lastExc : Option Exc) :
    connectWithRetry isRetryable endpoint (n + 1) lastExc w = (.ok (), w') :=
  bind_ok (failure_ok h)

/-- With an attempt to spend, the endpoint is dialled. -/
theorem engineConnect_ok (isRetryable : Exc → Bool) {config : AppConfig}
    (h : 0 < config.engineRetries) (hengine : w.base.engine = false)
    (hanswer : w.base.answers.head.failure = none) :
    ∃ base, engineConnect isRetryable config w =
      (.ok (), { w with base, dialled := w.dialled ++ [config.grpcEndpoint] }) := by
  obtain ⟨n, hn⟩ : ∃ n, config.engineRetries.toNat = n + 1 :=
    ⟨config.engineRetries.toNat - 1, by omega⟩
  obtain ⟨base, hdial⟩ := @dial_ok config.grpcEndpoint w hanswer
  have hread : onBase (reads World.engine) w = (.ok false, w) := by rw [← hengine]; rfl
  have hretry := @connectWithRetry_ok _ _ _ isRetryable hdial n none
  rw [← hn] at hretry
  exact ⟨{ base with engine := true }, (bind_ok hread).trans (bind_ok hretry)⟩

end Dialling

/-- What every call keeps and the engine's connection brings about holds at the end of `start`. -/
theorem start_of_connected {svc : Services Wired} {I : Wired → Prop} (h : svc.Preserves I)
    {profile : ServerProfile} {s s₁ s₂ s₃ : ConnectionService Wired}
    (hprepare : prepare svc profile s = (.ok (), s₁))
    (hprocess : startProcess svc profile s₁ = (.ok (), s₂))
    (hengine : connectEngine svc s₂ = (.ok (), s₃)) (hI : I s₃.world) (n : ℕ) :
    I (Connection.start svc n profile false false none s).2.world := by
  have hacquire : Triple (fun s => s = s₁) (acquire svc profile false) (fun _ s => I s.world)
      (fun _ s => I s.world) := by
    have hrest : Keeps (fun s => I s.world) (do
        Connection.addOutbound svc profile
        Connection.emit svc .engineReady {}
        Connection.registerSignals svc
        modify fun s => { s with started := true }) := by
      refine Keeps.bind (h.stable.addOutbound profile) fun _ => ?_
      refine Keeps.bind (h.emit _ _) fun _ => ?_
      exact Keeps.bind h.stable.registerSignals fun _ => h.stable.markStarted
    rintro _ rfl
    unfold acquire
    rw [bind_ok hprocess, bind_ok hengine]
    exact hrest s₃ hI
  have hstart : Triple (fun s => s = s₁)
      (handle (fun _ => true) (startBody svc n profile false false none) (abandon svc))
      (fun _ s => I s.world) (fun _ s => I s.world) := by
    refine Triple.handle (Triple.bind hacquire fun _ => h.stable.watchLoop n) ?_ ?_
    · exact fun e _ => h.closing.abandon e
    · exact fun _ _ _ hs => hs
  unfold Connection.start
  rw [bind_ok hprepare]
  exact hstart.run rfl

/-- A run in which nothing fails writes the configuration and dials. -/
theorem dialled_smooth (isRetryable : Exc → Bool) {config : AppConfig}
    (h : 0 < config.engineRetries) :
    let w := (runAll (step none isRetryable config) smooth
      [.start 0 ⟨"a", "", "", .empty, ""⟩ false false none]).world
    Xray.connectConfig ∈ w.written ∧ config.grpcEndpoint ∈ w.dialled := by
  obtain ⟨s₁, s₂, hprepare, hprocess, hwritten, hdialled, hidle, hanswer⟩ :
      ∃ s₁ s₂, prepare (services none isRetryable config) ⟨"a", "", "", .empty, ""⟩ smooth =
          (.ok (), s₁) ∧
        startProcess (services none isRetryable config) ⟨"a", "", "", .empty, ""⟩ s₁ =
          (.ok (), s₂) ∧
        s₂.world.written = [Xray.connectConfig] ∧ s₂.world.dialled = [] ∧
        s₂.world.base.engine = false ∧ s₂.world.base.answers.head.failure = none :=
    ⟨_, _, rfl, rfl, rfl, rfl, rfl, rfl⟩
  obtain ⟨base, hconnect⟩ := engineConnect_ok isRetryable h hidle hanswer
  have hcalled := @invoke_ok _ s₂ .connect
    (services none isRetryable config).connect _ hconnect
  have hI : Xray.connectConfig ∈ s₂.world.written ∧
      config.grpcEndpoint ∈ s₂.world.dialled ++ [config.grpcEndpoint] := by
    rw [hwritten, hdialled]
    exact ⟨List.mem_singleton.mpr rfl, List.mem_singleton.mpr rfl⟩
  have hgrown := grown_services none isRetryable config Xray.connectConfig config.grpcEndpoint
  have hengine : connectEngine (services none isRetryable config) s₂ = (.ok (), _) :=
    bind_ok hcalled
  simp only [runAll_cons, runAll_nil, step]
  exact start_of_connected hgrown hprepare hprocess hengine hI 0

/-! ## The address of a configuration -/

theorem removeStart_append (start rest : String) :
    Python.removeStart (start ++ rest) start = rest := by
  unfold Python.removeStart
  rw [String.toList_append, if_pos (by simp), ← String.length_toList, List.drop_left,
    String.ofList_toList]

theorem hostPort_grpcEndpoint (config : AppConfig) :
    hostPort config.grpcEndpoint = config.grpcHost ++ (":" ++ config.grpcPort.repr) := by
  have hendpoint : config.grpcEndpoint =
      "http://" ++ (config.grpcHost ++ (":" ++ config.grpcPort.repr)) := by
    unfold AppConfig.grpcEndpoint
    simp only [String.append_assoc]
    rfl
  rw [hendpoint]
  exact removeStart_append _ _

theorem grpcPort_of_text {port : ℤ} (h : port.repr.toList = ['1', '0', '0', '8', '5']) :
    port = 10085 := by
  cases port with
  | ofNat n =>
    have hdigits : Nat.toDigits 10 n = ['1', '0', '0', '8', '5'] := by
      rw [← Nat.toList_repr]
      exact h
    have hvalue := congrArg (fun cs => Nat.ofDigitChars 10 cs 0) hdigits
    simp only [Nat.ofDigitChars_ten_toDigits] at hvalue
    subst hvalue
    decide
  | negSucc n =>
    have hsign : (Int.negSucc n).repr.toList = '-' :: (n + 1).repr.toList := by
      simp [Int.repr, String.toList_append]
    rw [hsign] at h
    exact absurd (List.cons.inj h).1 (by decide)

/-- The address tells the host and the port. -/
theorem defaultAddress_iff (config : AppConfig) :
    hostPort config.grpcEndpoint = "127.0.0.1:10085" ↔
      config.grpcHost = "127.0.0.1" ∧ config.grpcPort = 10085 := by
  rw [hostPort_grpcEndpoint]
  constructor
  · intro h
    have htext : "127.0.0.1".toList ++ ':' :: ['1', '0', '0', '8', '5'] =
        config.grpcHost.toList ++ ':' :: config.grpcPort.repr.toList := by
      have hdefault : "127.0.0.1:10085".toList =
          "127.0.0.1".toList ++ ':' :: ['1', '0', '0', '8', '5'] := by decide
      rw [← hdefault, ← h, String.toList_append, String.toList_append]
      rfl
    obtain ⟨hhost, -, hport⟩ :=
      (List.append_cons_inj_of_notMem (by decide) (by decide)).mp htext
    exact ⟨(String.toList_injective hhost).symm, grpcPort_of_text hport.symm⟩
  · rintro ⟨hhost, hport⟩
    rw [hhost, hport]
    rfl

/-- **xray-core listens where the client dials** in every run exactly with the default host and
port, or when the client never dials. -/
theorem agrees_iff (config : AppConfig) :
    (∀ (engineCore : Option Exc) (isRetryable : Exc → Bool) (answers : Stream' Answer)
        (killswitch : KillSwitch.System) (requests : List Request),
      (runAll (step engineCore isRetryable config) (fresh answers killswitch)
        requests).world.Agrees) ↔
      config.engineRetries ≤ 0 ∨ config.grpcHost = "127.0.0.1" ∧ config.grpcPort = 10085 := by
  rw [← defaultAddress_iff]
  constructor
  · intro h
    by_cases hattempts : config.engineRetries ≤ 0
    · exact Or.inl hattempts
    · obtain ⟨hwritten, hdialled⟩ := dialled_smooth (fun _ => false) (Int.not_le.mp hattempts)
      have hagrees : (runAll (step none (fun _ => false) config) smooth
          [.start 0 ⟨"a", "", "", .empty, ""⟩ false false none]).world.Agrees := h none _ _ _ _
      exact Or.inr (hagrees _ hwritten _ hdialled).symm
  · intro h engineCore isRetryable answers killswitch requests xrayConfig hwritten endpoint hdialled
    have haddressed := addressed_of_runs engineCore isRetryable config answers killswitch requests
    rw [haddressed.listens _ hwritten, haddressed.dials _ hdialled]
    rcases h with hnever | haddress
    · have := haddressed.attempts (List.ne_nil_of_mem hdialled)
      omega
    · exact haddress.symm

/-- The environment variable that moves the client to another port. -/
def otherPort : Dict String String := .ofList [("BIMARZ_GRPC_PORT", "10086")]

/-- xray-core listens on the default port and the client dials the other one. -/
theorem dials_otherPort :
    ¬∀ (environ : Dict String String) (float : String → Option ℚ) (engineCore : Option Exc)
        (isRetryable : Exc → Bool) (answers : Stream' Answer) (killswitch : KillSwitch.System)
        (requests : List Request),
      (runAll (step engineCore isRetryable (.fromEnv float environ)) (fresh answers killswitch)
        requests).world.Agrees := by
  intro h
  have hattempts : 0 < (AppConfig.fromEnv (fun _ => none) otherPort).engineRetries := by decide
  obtain ⟨hwritten, hdialled⟩ := dialled_smooth (fun _ => false) hattempts
  have hlisten := h otherPort (fun _ => none) none (fun _ => false) _ _ _ _ hwritten _ hdialled
  revert hlisten
  decide

end Wired

end Connection

end Bimarz
