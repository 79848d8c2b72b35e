import Bimarz.Build.Fetch
import Bimarz.KillSwitch.Manager
import Bimarz.Python

/-!
# `bimarz doctor` and the version of the proto files

The extension carries the tag of the pin that it was built from, and `doctor` compares it with what
the binary says of itself. It warns exactly where the two versions differ, whatever was built before.
-/

namespace Bimarz.Doctor

open Effect Effect.Act
open KillSwitch (KillSwitchState)
open Build (Workspace Event Answers Extension Protoc)

/-! ## The code -/

inductive Environment
  | androidTermux
  | kaliNethunter
  | desktopLinux
  | wsl
  | other
  deriving DecidableEq, Repr

/-- `Environment(value)`. -/
def Environment.ofValue (value : String) : Option Environment :=
  [("android_termux", androidTermux), ("kali_nethunter", kaliNethunter),
    ("desktop_linux", desktopLinux), ("wsl", wsl), ("other", other)].lookup value

inductive GrpcStatus
  | notChecked
  | unreachable
  | listening
  | responding
  deriving DecidableEq, Repr

/-- `DoctorReport`. -/
structure DoctorReport where
  bimarzVersion : String
  environment : Environment
  xrayBinaryFound : Bool := false
  xrayBinaryPath : Option String := none
  xrayVersion : Option String := none
  grpcStatus : GrpcStatus := .notChecked
  grpcEndpoint : String := ""
  profilesCount : ℕ := 0
  killswitchActive : Bool := false
  warnings : List String := []
  deriving DecidableEq, Repr

/-- How `subprocess.run` ends; what it raises is a `SubprocessError` or an `OSError`, or neither. -/
inductive Completed
  | failed (text : String)
  | raised (exc : Exc)
  | stdout (text : String)

/-- The answers of the gRPC client. -/
structure Client where
  connect : Except Exc Unit
  stats : Except Exc Unit
  close : Except Exc Unit

/-- The files that tell the environment, as `_read_text_safe` returns them. -/
structure Platform where
  forced : Option String
  procMounts : List Char
  osRelease : List Char
  procVersion : List Char

/-- What `doctor` asks of its surroundings. -/
structure Host where
  bimarzVersion : String
  platform : Platform
  /-- Whether the path is an executable file. -/
  executable : String → Bool
  which : Option String
  version : String → Completed
  /-- What `xray_proto_version()` returns, if the extension is built. -/
  protoVersion : Option String
  profiles : Except Exc ℕ
  kernelCapable : Bool
  tcpOpen : Bool
  client : Client
  grpcHost : String
  grpcPort : ℕ

section Code

/-- Where `str.splitlines` ends a line. -/
def isLineBreak (c : Char) : Bool :=
  [10, 11, 12, 13, 0x1c, 0x1d, 0x1e, 0x85, 0x2028, 0x2029].contains c.toNat

section Platform

variable (lower : List Char → List Char) (platform : Platform)

def isWsl : Bool :=
  let versionInfo := lower platform.procVersion
  decide ("microsoft".toList <:+: versionInfo) || decide ("wsl".toList <:+: versionInfo)

def hasAndroidKernelSignals : Bool :=
  ["binder", "cpuset", "schedtune", "seclabel"].any fun signal =>
    decide (signal.toList <:+: platform.procMounts)

/-- `_os_release_id`: the first line that begins with `ID=` counts. -/
def osReleaseId : List Char :=
  match (platform.osRelease.splitOnP isLineBreak).find? fun line => "ID=".toList.isPrefixOf line with
  | none => []
  | some line =>
    lower (Text.trim (fun c => c == '"') (Python.strip (String.ofList (line.drop 3))).toList)

/-- `detect_environment`. -/
def detectEnvironment : Environment :=
  match (platform.forced.filter (· ≠ "")).bind Environment.ofValue with
  | some environment => environment
  | none =>
    if isWsl lower platform then .wsl
    else if hasAndroidKernelSignals platform then
      if osReleaseId lower platform = "kali".toList then .kaliNethunter else .androidTermux
    else .desktopLinux

end Platform

variable (lower : List Char → List Char) (isdigit : Char → Bool)

/-- The characters of `"vV"`. -/
def isV (c : Char) : Bool := c = 'v' || c = 'V'

/-- A token of a version, without what stands before its number. -/
def versionToken (token : List Char) : Option (List Char) :=
  let cleaned := token.dropWhile isV
  match cleaned with
  | [] => none
  | c :: _ => if isdigit c then some cleaned else none

/-- `_normalize_xray_version`. -/
def normalizeXrayVersion (version : Option String) : Option String :=
  match version with
  | none => none
  | some version =>
    ((Text.words Python.isSpace version.toList).findSome? (versionToken isdigit)).map String.ofList

/-- `find_xray_binary`. -/
def findXrayBinary (host : Host) (explicitPath : Option String) : Option String :=
  match explicitPath.filter (· ≠ "") with
  | some path => if host.executable path then some path else none
  | none => host.which.filter (· ≠ "")

/-- `stdout.strip().splitlines()[0]`, if there is one. -/
def firstLine (stdout : String) : String :=
  String.ofList ((Python.strip stdout).toList.takeWhile fun c => !isLineBreak c)

/-- `get_xray_version`; `none` is an `XrayManagerError`. -/
def getXrayVersion (host : Host) (path : String) : Except Exc (Option String) :=
  match host.version path with
  | .failed _ => .ok none
  | .raised exc => .error exc
  | .stdout text => .ok (if firstLine text = "" then none else some (firstLine text))

/-- `probe_grpc_with_engine`, with the client that was opened as the state. -/
def probeGrpcWithEngine (host : Host) : Act Exc (Option Client) Bool :=
  match host.protoVersion with
  | none => pure false
  | some _ => ensure
      (handle Exc.isException
        (do
          ofExcept host.client.connect
          modify fun _ => some host.client
          handle Exc.isException (ofExcept host.client.stats) fun _ => pure ()
          pure true)
        fun _ => pure false)
      (do
        match ← reads id with
        | some client => handle Exc.isException (ofExcept client.close) fun _ => pure ()
        | none => pure ())

/-- The warning of a mismatch. -/
def mismatch (xrayVersion protoTag : String) : String :=
  s!"xray binary version ({xrayVersion}) does not match the proto bindings built into the " ++
    s!"extension ({protoTag}); rebuild after aligning engine-core/xray-proto-pin.env or use the " ++
    "matching xray-core release."

/-- The warnings that a binary with this version line gives rise to. -/
def versionWarnings (xrayVersion protoTag : Option String) : List String :=
  match normalizeXrayVersion isdigit xrayVersion, normalizeXrayVersion isdigit protoTag with
  | some binary, some proto =>
    if binary ≠ proto then [mismatch (xrayVersion.getD "None") (protoTag.getD "None")] else []
  | _, _ => []

/-- What the report says of the binary. -/
def inspectBinary (host : Host) (xrayBin : Option String) (report : DoctorReport) :
    Except Exc DoctorReport :=
  match findXrayBinary host xrayBin with
  | none => .ok { report with xrayBinaryFound := false }
  | some path => do
    let xrayVersion ← getXrayVersion host path
    pure { report with
      xrayBinaryPath := some path
      xrayBinaryFound := true
      xrayVersion }

/-- What the report says of the API port. -/
def probe (host : Host) : Except Exc GrpcStatus :=
  if host.tcpOpen then
    match (probeGrpcWithEngine host none).1 with
    | .ok grpcOk => .ok (if grpcOk then .responding else .listening)
    | .error exc => if exc.isException then .ok .listening else .error exc
  else .ok .unreachable

/-- The report before anything is checked. -/
def freshReport (host : Host) : DoctorReport where
  bimarzVersion := host.bimarzVersion
  environment := detectEnvironment lower host.platform

/-- `DoctorService.run`. -/
def run (host : Host) (xrayBin : Option String) : Except Exc DoctorReport := do
  let report ← inspectBinary host xrayBin (freshReport lower host)
  let warnings := versionWarnings isdigit report.xrayVersion host.protoVersion
  let profilesCount ← host.profiles
  let ks : KillSwitchState := { kernelCapable := host.kernelCapable, active := false }
  let grpcStatus ← probe host
  pure { report with
    warnings := report.warnings ++ warnings
    profilesCount
    killswitchActive := ks.active
    grpcEndpoint := s!"{host.grpcHost}:{host.grpcPort}"
    grpcStatus }

end Code

/-! ## Versions -/

/-- The number of a release, as a word. -/
def IsVersion (version : List Char) : Prop :=
  (∃ c rest, version = c :: rest ∧ c.isDigit = true) ∧ ∀ c ∈ version, Python.isSpace c = false

/-- The first line that the binary of a release prints. -/
def banner (version rest : List Char) : String :=
  String.ofList ("Xray".toList ++ ' ' :: (version ++ ' ' :: rest))

/-- The tag of a release. -/
def tagOf (version : List Char) : String := String.ofList ('v' :: version)

section Versions

variable {isdigit : Char → Bool} (hdigit : ∀ c : Char, c.toNat < 128 → isdigit c = c.isDigit)
include hdigit

theorem versionToken_digit {c : Char} (hc : c.isDigit = true) (rest : List Char) :
    versionToken isdigit (c :: rest) = some (c :: rest) := by
  have hbound : c.toNat < 128 := by
    have h := (Bool.and_eq_true_iff.mp hc).2
    have hval : c.val.toNat ≤ 57 := by simpa [UInt32.le_iff_toNat_le] using h
    show c.val.toNat < 128
    omega
  have hletter : ¬isV c = true := by
    intro h
    rcases Bool.or_eq_true_iff.mp h with h | h <;> rw [of_decide_eq_true h] at hc <;> cases hc
  unfold versionToken
  rw [List.dropWhile_cons_of_neg hletter]
  simp only
  rw [hdigit c hbound, hc, if_pos rfl]

theorem versionToken_tag {version : List Char} (h : IsVersion version) :
    versionToken isdigit ('v' :: version) = some version := by
  obtain ⟨⟨c, rest, rfl, hc⟩, -⟩ := h
  have hsame : versionToken isdigit ('v' :: c :: rest) = versionToken isdigit (c :: rest) := by
    unfold versionToken
    rw [List.dropWhile_cons_of_pos (by decide)]
  rw [hsame, versionToken_digit hdigit hc]

/-- The name of the program is no version. -/
theorem versionToken_xray : versionToken isdigit "Xray".toList = none := by
  show (if isdigit 'X' = true then _ else _) = _
  rw [hdigit 'X' (by decide), if_neg (by decide)]

theorem normalize_tagOf {version : List Char} (h : IsVersion version) :
    normalizeXrayVersion isdigit (some (tagOf version)) = some (String.ofList version) := by
  have hword : Text.IsWord Python.isSpace ('v' :: version) :=
    ⟨List.cons_ne_nil _ _, List.forall_mem_cons.mpr ⟨by decide, h.2⟩⟩
  have hspace : Python.isSpace ' ' = true := by decide
  have hwords := Text.words_unwords hspace (List.forall_mem_singleton.mpr hword)
  rw [Text.unwords_singleton] at hwords
  unfold normalizeXrayVersion tagOf
  simp only [String.toList_ofList]
  rw [hwords, List.findSome?_cons, versionToken_tag hdigit h]
  rfl

theorem normalize_banner {version : List Char} (h : IsVersion version) (rest : List Char) :
    normalizeXrayVersion isdigit (some (banner version rest)) = some (String.ofList version) := by
  obtain ⟨c, digits, hversion, hc⟩ := h.1
  have hxray : ∀ c ∈ "Xray".toList, Python.isSpace c = false := by
    have hall : "Xray".toList.all (fun c => !Python.isSpace c) = true := rfl
    simpa using List.all_eq_true.mp hall
  have hwords : Text.words Python.isSpace ("Xray".toList ++ ' ' :: (version ++ ' ' :: rest)) =
      "Xray".toList :: version :: Text.words Python.isSpace rest := by
    unfold Text.words
    rw [List.splitOnP_append_cons_of_forall_mem hxray ' ' (by decide),
      List.splitOnP_append_cons_of_forall_mem h.2 ' ' (by decide),
      List.filter_cons_of_pos (by decide), List.filter_cons_of_pos (by rw [hversion]; rfl)]
  unfold normalizeXrayVersion banner
  simp only [String.toList_ofList]
  rw [hwords, List.findSome?_cons, versionToken_xray hdigit]
  simp only
  rw [List.findSome?_cons, hversion, versionToken_digit hdigit hc]
  rfl

/-- A binary and an extension are compared by the numbers of their releases. -/
theorem versionWarnings_releases {version pinned : List Char} (h : IsVersion version)
    (hpinned : IsVersion pinned) (rest : List Char) :
    versionWarnings isdigit (some (banner version rest)) (some (tagOf pinned)) =
      if version = pinned then [] else [mismatch (banner version rest) (tagOf pinned)] := by
  unfold versionWarnings
  rw [normalize_banner hdigit h, normalize_tagOf hdigit hpinned]
  simp only [ne_eq, ite_not, String.ofList_inj]
  rfl

end Versions

/-! ## A report -/

section Report

variable {lower : List Char → List Char} {isdigit : Char → Bool} {host : Host}
  {xrayBin : Option String} {report : DoctorReport}

/-- The warnings of a report are about the version that is in it. -/
theorem warnings_of_run (h : run lower isdigit host xrayBin = .ok report) :
    ∃ inspected, inspectBinary host xrayBin (freshReport lower host) = .ok inspected ∧
      report.warnings = inspected.warnings ++
        versionWarnings isdigit inspected.xrayVersion host.protoVersion := by
  obtain ⟨inspected, hinspected, h⟩ := Effect.bind_eq_ok_iff.mp h
  obtain ⟨profilesCount, -, h⟩ := Effect.bind_eq_ok_iff.mp h
  obtain ⟨grpcStatus, -, h⟩ := Effect.bind_eq_ok_iff.mp h
  refine ⟨inspected, hinspected, ?_⟩
  rw [← Except.ok.inj h]

theorem inspectBinary_stdout {path stdout : String} {start inspected : DoctorReport}
    (hpath : findXrayBinary host xrayBin = some path) (hstdout : host.version path = .stdout stdout)
    (hline : firstLine stdout ≠ "") (h : inspectBinary host xrayBin start = .ok inspected) :
    inspected.warnings = start.warnings ∧ inspected.xrayVersion = some (firstLine stdout) := by
  unfold inspectBinary getXrayVersion at h
  rw [hpath] at h
  simp only [hstdout] at h
  rw [if_neg hline] at h
  rw [← Except.ok.inj h]
  exact ⟨rfl, rfl⟩

theorem banner_ne_empty (version rest : List Char) : banner version rest ≠ "" := by
  intro h
  have hlist := congrArg String.toList h
  unfold banner at hlist
  rw [String.toList_ofList] at hlist
  cases hlist

end Report

/-! ## Every history of builds -/

section Runs

variable {checkout : String → Directory String} {printable : Char → Bool} {protoc : Protoc}

/-- A build that ends well. -/
def Installs (printable : Char → Bool) (protoc : Protoc) (w : Workspace) (event : Event) : Prop :=
  ∃ env, event = .build env ∧ (w.script printable protoc env).1 = .ok ()

/-- The extension stays until a build ends well. -/
theorem installed_of_quiet {w : Workspace} {events : List Event}
    (h : Each (Build.step checkout printable protoc) (fun w event => ¬Installs printable protoc w event)
      w events) :
    (runAll (Build.step checkout printable protoc) w events).installed = w.installed := by
  induction events generalizing w with
  | nil => rfl
  | cons event events ih =>
    obtain ⟨hquiet, hrest⟩ := h
    rw [runAll_cons, ih hrest]
    cases event with
    | edit pin => rfl
    | fetch env => rfl
    | build env =>
      rcases hrun : w.script printable protoc env with ⟨_ | _, s⟩
      · simp only [Build.step, hrun]
      · exact absurd ⟨env, rfl, congrArg Prod.fst hrun⟩ hquiet

/-- The tag of the extension is that of the pin that it was built from. -/
theorem protoTag_of_build {w : Workspace} {build : Answers} {tag : String}
    (htag : w.pin.assigned "XRAY_PROTO_TAG" = some tag)
    (hbuild : (w.script printable protoc build).1 = .ok ()) :
    (Build.step checkout printable protoc w (.build build)).installed.map Extension.protoTag =
      some tag := by
  obtain ⟨outDir, extension, -, hinstalled, hclean⟩ :=
    @Build.installed_of_build checkout printable protoc w build hbuild
  rw [hinstalled, Option.map_some, ← Build.protoTag_of_clean hclean]
  exact htag

end Runs

/-! ### An example -/

/-- A host with the release after the pinned one. -/
def sampleHost : Host where
  bimarzVersion := "0.2.2"
  platform := ⟨none, [], [], []⟩
  executable _ := true
  which := some "/usr/bin/xray"
  version _ := .stdout "Xray 1.8.25 (Xray)\nA unified platform.\n"
  protoVersion := some "v1.8.24"
  profiles := .ok 0
  kernelCapable := false
  tcpOpen := true
  client := ⟨.ok (), .error (.error .runtimeError "not found"), .ok ()⟩
  grpcHost := "127.0.0.1"
  grpcPort := 10085

/-- What its user reads: the API answers, but the binary is another release. -/
def sampleReport : DoctorReport where
  bimarzVersion := "0.2.2"
  environment := .desktopLinux
  xrayBinaryFound := true
  xrayBinaryPath := some "/usr/bin/xray"
  xrayVersion := some "Xray 1.8.25 (Xray)"
  grpcStatus := .responding
  grpcEndpoint := "127.0.0.1:10085"
  warnings := [mismatch "Xray 1.8.25 (Xray)" "v1.8.24"]

theorem run_sampleHost :
    run (List.map Char.toLower) Char.isDigit sampleHost none = .ok sampleReport := rfl

theorem firstLine_sampleHost : firstLine "Xray 1.8.25 (Xray)\nA unified platform.\n" =
    banner "1.8.25".toList "(Xray)".toList := by decide

theorem isVersion_of_all {version : List Char} (hhead : version.head? = some '1')
    (hall : version.all (fun c => !Python.isSpace c) = true) : IsVersion version := by
  cases version with
  | nil => cases hhead
  | cons c rest =>
    cases hhead
    exact ⟨⟨'1', rest, rfl, rfl⟩, by simpa using hall⟩

/-- The working copy before the build. -/
def sampleBefore : Workspace :=
  runAll (Build.step (fun _ => Build.sampleTree) (fun _ => true) Build.sampleProtoc)
    Build.sampleWorkspace [.edit Build.samplePin, .fetch Build.sampleFetch]

theorem script_sampleBefore :
    (sampleBefore.script (fun _ => true) Build.sampleProtoc Build.sampleBuild).1 = .ok () := rfl

/-- A build for which there is no space. -/
def sampleFull : Answers :=
  { Build.sampleBuild with createError := some "No space left on device" }

theorem quiet_sample : Each (Build.step (fun _ => Build.sampleTree) (fun _ => true) Build.sampleProtoc)
    (fun w event => ¬Installs (fun _ => true) Build.sampleProtoc w event)
    (Build.step (fun _ => Build.sampleTree) (fun _ => true) Build.sampleProtoc sampleBefore
      (.build Build.sampleBuild)) [.edit [], .build sampleFull] := by
  refine ⟨?_, ?_, trivial⟩
  · rintro ⟨env, henv, -⟩
    cases henv
  · rintro ⟨env, henv, hok⟩
    cases henv
    cases hok

end Bimarz.Doctor
