import Bimarz.Effect.Run
import Bimarz.Engine.Links
import Bimarz.HealthCommand
import Bimarz.Store.Profiles

/-!
# The profile commands (`commands/profile.py`, `commands/connect.py`, `cli.py`)

Each invocation of `bimarz` is a process of its own, and the profiles are all that one leaves to the
next. The commands are written over the methods of `ProfileStore`, so they run over the encrypted
file and over a `Book`, a mapping of profiles under a password, which is what the file is for. The
console reads what it prints as markup, and raises on a tag that closes nothing.
-/

namespace Bimarz.Commands

open Effect Effect.Act
open Store (Disk StoreExc Library Profile Record)

/-! ## What commands raise -/

/-- `str(exc)` of an error of `urllib.parse`. -/
def urlMessage : Url.UrlError → String
  | .invalidIpv6Url => "Invalid IPv6 URL"
  | .invalidIpvFuture => "IPvFuture address is invalid"
  | .notAnAddress address =>
    s!"{Python.reprOfString (String.ofList address)} does not appear to be an IPv4 or IPv6 address"
  | .ipv4InBrackets => "An IPv4 address cannot be in brackets"
  | .nfkcCharacters netloc =>
    s!"netloc {Python.reprOfString (String.ofList netloc)} contains invalid characters under NFKC " ++
      "normalization"
  | .portNotInteger port =>
    s!"Port could not be cast to integer value as {Python.reprOfString (String.ofList port)}"
  | .portOutOfRange => "Port out of range 0-65535"

inductive CommandExc
  | link (error : VlessError)
  | store (error : StoreExc)
  | raised (e : Exc)
  | systemExit (code : ℕ)
  /-- a stored value of another type than the command line stores, with which the model stops -/
  | foreign
  deriving DecidableEq

namespace CommandExc

def isException : CommandExc → Bool
  | .link _ => true
  | .store error => error.isException
  | .raised e => e.isException
  | .systemExit _ => false
  | .foreign => false

/-- `VlessParseError` is a `ValueError`. -/
def isValueError : CommandExc → Bool
  | .link _ => true
  | .store (.raised (.error .valueError _)) => true
  | .raised (.error .valueError _) => true
  | _ => false

def isBinaryNotFound : CommandExc → Bool
  | .raised (.error .binaryNotFound _) => true
  | _ => false

def isEngineNotBuilt : CommandExc → Bool
  | .raised (.error .engineNotBuilt _) => true
  | _ => false

/-- `str(exc)`. -/
def message : CommandExc → String
  | .link (.unsupported message) => message
  | .link (.malformed message) => message
  | .link (.valueError error) => urlMessage error
  | .store (.storeError message) => message
  | .store (.wrongPassword message) => message
  | .store (.notFound message) => message
  | .store (.raised e) => e.message
  | .raised e => e.message
  | .systemExit code => toString code
  | .foreign => ""

end CommandExc

/-! ## The store, as the commands use it -/

/-- The methods of a `ProfileStore` on the state `σ`. -/
structure Methods (σ : Type) where
  addProfile : ServerProfile → Act CommandExc σ Unit
  listProfiles : Act CommandExc σ (List ServerProfile)
  removeProfile : String → Act CommandExc σ Unit
  getProfile : String → Act CommandExc σ ServerProfile

inductive Command
  | profileAdd (link : String)
  | profileList
  | profileRemove (profileId : String)
  | connect (profileId : String) (autoFailover killswitch : Bool)

/-- An invocation, and what it meets. -/
structure Invocation where
  command : Command
  debug : Bool := false
  /-- what `_prompt_for_password` returns -/
  password : String
  /-- the fresh id of a link -/
  profileId : String
  addedAtIso : String
  /-- what `console.print` raises on a text, if anything -/
  console : String → Option Exc := fun _ => none
  /-- how the system calls go, and those of `list_profiles` -/
  env : Store.Env
  listEnv : Store.Env
  /-- how `ConnectionService.start` ends, and what `__aexit__` raises -/
  session : Except Exc Unit := .ok ()
  closing : Option Exc := none

/-- The arguments of `ConnectionService.start`. -/
structure Start where
  profile : ServerProfile
  autoFailover : Bool
  killswitch : Bool
  allProfiles : List ServerProfile

/-- A process: the store, what it has printed, and the connection that it has started. -/
structure Process (σ : Type) where
  store : σ
  printed : List String := []
  started : Option Start := none

section Code

variable {σ : Type} (unicode : Url.Unicode) (profileStore : Except CommandExc (Methods σ))
  (inv : Invocation)

/-- `console.print`. -/
def print (line : String) : Act CommandExc (Process σ) Unit :=
  match inv.console line with
  | some e => raise (.raised e)
  | none => modify fun p => { p with printed := p.printed ++ [line] }

def onStore {α : Type} (m : Act CommandExc σ α) : Act CommandExc (Process σ) α :=
  zoom Process.store (fun store p => { p with store }) m

/-- `ProfileService.add_from_link`. -/
def addFromLink (svc : Methods σ) (link : String) : Act CommandExc (Process σ) ServerProfile := do
  let profile ← ofExcept
    ((parseVlessLink unicode link inv.profileId inv.addedAtIso).mapError CommandExc.link)
  onStore (svc.addProfile profile)
  return profile

def addedLine (profile : ServerProfile) : String :=
  s!"[green]✓[/green] Profile added: {profile.profileId} ({formatProfileAddress profile})"

def runProfileAdd (link : String) : Act CommandExc (Process σ) Unit := do
  let svc ← ofExcept profileStore
  handle CommandExc.isException
    (do
      let profile ← addFromLink unicode inv svc link
      print inv (addedLine profile))
    fun exc => do
      print inv (if exc.isValueError then s!"[red]Invalid link: {exc.message}[/red]"
        else s!"[red]Failed to add profile: {exc.message}[/red]")
      raise (.systemExit 1)

/-- The line of `profile list`. -/
def profileLine (profile : ServerProfile) : String :=
  let addr := formatProfileAddress profile
  let remark := Python.strip profile.remark
  let extra := if remark = "" then "" else s!" ({remark})"
  s!"{profile.profileId}: {addr}{extra}"

def runProfileList : Act CommandExc (Process σ) Unit := do
  let svc ← ofExcept profileStore
  let profiles ← onStore svc.listProfiles
  if profiles.isEmpty then print inv "[dim]No profiles saved.[/dim]"
  else profiles.forM fun profile => print inv (profileLine profile)

def removedLine (profileId : String) : String := s!"[green]Removed profile {profileId}[/green]"

def runProfileRemove (profileId : String) : Act CommandExc (Process σ) Unit := do
  let svc ← ofExcept profileStore
  handle CommandExc.isException
    (do
      onStore (svc.removeProfile profileId)
      print inv (removedLine profileId))
    fun exc => do
      print inv s!"[red]Failed to remove profile: {exc.message}[/red]"
      raise (.systemExit 1)

/-- `conn.start`, as what leaves the body of the `async with`. -/
def startConnection (start : Start) : Act CommandExc (Process σ) (Option CommandExc) := do
  modify fun p => { p with started := some start }
  match inv.session with
  | .ok () => return none
  | .error .keyboardInterrupt =>
    failure (fun _ => true) (print inv "\n[yellow]Disconnecting...[/yellow]")
  | .error exc => return some (.raised exc)

/-- `profile_svc.list_profiles()`, for a failover. -/
def loadProfiles (svc : Methods σ) (autoFailover : Bool) :
    Act CommandExc (Process σ) (List ServerProfile) :=
  if autoFailover then onStore svc.listProfiles else pure []

/-- `_run_connect_async`. An exception of `__aexit__` takes the place of the one before it. -/
def runConnectAsync (profileId : String) (autoFailover killswitch : Bool) :
    Act CommandExc (Process σ) Unit := do
  let svc ← ofExcept profileStore
  let profile ← onStore (svc.getProfile profileId)
  let allProfiles ← loadProfiles svc autoFailover
  let failure ← startConnection inv { profile, autoFailover, killswitch, allProfiles }
  match (inv.closing.map CommandExc.raised).or failure with
  | some exc => raise exc
  | none => return ()

def runConnect (profileId : String) (autoFailover killswitch : Bool) :
    Act CommandExc (Process σ) Unit :=
  handle CommandExc.isException (runConnectAsync profileStore inv profileId autoFailover killswitch)
    fun exc => do
      if exc.isBinaryNotFound then
        print inv ("[red]xray-core binary not found.[/red]\n" ++
          "[yellow]hint:[/yellow] install xray-core or use --xray-bin /path/to/xray\n" ++
          "[yellow]hint:[/yellow] run 'bimarz doctor' for full diagnostics")
        raise (.systemExit 1)
      else if exc.isEngineNotBuilt then
        print inv ("[red]Rust extension not built.[/red]\n" ++
          "[yellow]hint:[/yellow] source .venv/bin/activate && maturin develop --release")
        raise (.systemExit 1)
      else if inv.debug then raise exc
      else
        print inv s!"[red]Connection failed: {exc.message}[/red]"
        raise (.systemExit 1)

/-- `args.func(args, config)`, with what `ProfileStore()` gives. -/
def Invocation.func : Act CommandExc (Process σ) Unit :=
  match inv.command with
  | .profileAdd link => runProfileAdd unicode profileStore inv link
  | .profileList => runProfileList profileStore inv
  | .profileRemove profileId => runProfileRemove profileStore inv profileId
  | .connect profileId autoFailover killswitch =>
    runConnect profileStore inv profileId autoFailover killswitch

/-- `main`, whose end is a `SystemExit` or a traceback. -/
def main : Act CommandExc (Process σ) Empty := do
  handle CommandExc.isException (inv.func unicode profileStore) fun exc => do
    if inv.debug then raise exc
    else
      print inv s!"[red]Error: {exc.message}[/red]"
      print inv ("[yellow]hint:[/yellow] run with --debug for full traceback, or 'bimarz doctor' to " ++
        "check your setup")
      raise (.systemExit 1)
  raise (.systemExit 0)

end Code

/-- What a process shows: its end, its lines, and the connection that it has started. -/
@[ext] structure Outcome where
  ending : Except CommandExc Empty
  printed : List String
  started : Option Start

/-- One invocation. -/
def invoke {σ : Type} (unicode : Url.Unicode)
    (profileStore : Invocation → Except CommandExc (Methods σ)) (store : σ) (inv : Invocation) :
    Outcome × σ :=
  let (ending, p) := main unicode (profileStore inv) inv { store }
  (⟨ending, p.printed, p.started⟩, p.store)

/-! ## The encrypted file -/

def emptyPassword : CommandExc :=
  .store (.storeError "profile store password must not be empty")

/-- `str`, `repr` and `int` of the numbers with a fraction, the lists and the objects of JSON. -/
structure Rendering (φ : Type) where
  str : Json.Value φ → String
  repr : Json.Value φ → String
  int : Json.Value φ → Except Exc ℤ

section File

variable {κ φ : Type}

/-- A value that `json.loads` returns. -/
def Rendering.value (rendering : Rendering φ) : Json.Value φ → PyValue
  | .null => .none
  | .bool b => .bool b
  | .int n => .int n
  | .str s => .str s
  | v => .object (rendering.str v) (rendering.repr v) (rendering.int v)

def isScalar : PyValue → Bool
  | .object _ _ _ => false
  | _ => true

/-- A scalar as JSON. -/
def json : PyValue → Json.Value φ
  | .none => .null
  | .bool b => .bool b
  | .int n => .int n
  | .str s => .str s
  | .object s _ _ => .str s

theorem value_json (rendering : Rendering φ) {v : PyValue} (h : isScalar v = true) :
    rendering.value (json v) = v := by
  cases v with
  | object s r i => cases h
  | _ => rfl

theorem json_wellFormed (v : PyValue) : (json v : Json.Value φ).WellFormed := by
  cases v <;> trivial

/-- All settings of the profile are scalars, as they are after a link. -/
def storable (profile : ServerProfile) : Bool := profile.outboundConfig.values.all isScalar

/-- A profile as the store takes it. -/
def toStore (profile : ServerProfile) : Profile φ where
  profileId := profile.profileId
  tag := profile.tag
  remark := profile.remark
  outboundConfig := profile.outboundConfig.map json
  addedAtIso := profile.addedAtIso
  wellFormed := by
    rw [Json.wellFormedItems_iff]
    intro item hitem
    obtain ⟨entry, -, rfl⟩ := List.mem_map.mp hitem
    exact json_wellFormed entry.2

/-- A record of the store as a profile, if its fields have their types. -/
def ofRecord (rendering : Rendering φ) (record : Record φ) : Option ServerProfile :=
  match record.profileId, record.tag, record.remark, record.outboundConfig, record.addedAtIso with
  | .str profileId, .str tag, .str remark, .dict items, .str addedAtIso => some {
      profileId, tag, remark, addedAtIso
      outboundConfig := (Dict.ofList items).map rendering.value }
  | _, _, _, _, _ => none

/-- What is stored is what comes back. -/
theorem ofRecord_toStore (rendering : Rendering φ) {profile : ServerProfile}
    (h : storable profile = true) : ofRecord rendering (toStore profile).record = some profile := by
  have hconfig : (Dict.ofList (profile.outboundConfig.map (json (φ := φ))).items).map
      rendering.value = profile.outboundConfig := by
    have hsame : Dict.ofList (profile.outboundConfig.map (json (φ := φ))).items =
        profile.outboundConfig.map json :=
      Dict.ext (Dict.ofList_items (profile.outboundConfig.map json).nodup)
    rw [hsame]
    apply Dict.ext
    show (profile.outboundConfig.items.map _).map _ = profile.outboundConfig.items
    rw [List.map_map]
    refine (List.map_congr_left fun item hitem => ?_).trans (List.map_id _)
    have hscalar := List.all_eq_true.mp h item.2 (List.mem_map_of_mem hitem)
    exact Prod.ext rfl (value_json rendering hscalar)
  exact congrArg (fun config => some { profile with outboundConfig := config }) hconfig

variable (lib : Library κ φ) (rendering : Rendering φ)

def foreignless {α : Type} : Option α → Except CommandExc α
  | some a => .ok a
  | none => .error .foreign

/-- The methods of a `ProfileStore` on its file. -/
def fileMethods (store : Store.ProfileStore) (inv : Invocation) : Methods Disk where
  addProfile profile :=
    if storable profile then mapError .store (Store.addProfile lib store inv.env (toStore profile))
    else raise .foreign
  listProfiles := do
    let records ← mapError .store (Store.listProfiles lib store inv.listEnv)
    ofExcept (records.mapM fun record => foreignless (ofRecord rendering record))
  removeProfile profileId := mapError .store (Store.removeProfile lib store inv.env profileId)
  getProfile profileId := do
    let record ← mapError .store (Store.getProfile lib store inv.env profileId)
    ofExcept (foreignless (ofRecord rendering record))

/-- `ProfileStore()` on the file `name`. -/
def openFile (name : String) (inv : Invocation) : Except CommandExc (Methods Disk) :=
  if h : inv.password = "" then .error emptyPassword
  else .ok (fileMethods lib rendering ⟨name, inv.password, h⟩ inv)

end File

/-! ## The book -/

/-- What a store is for: profiles by their ids, in the order of their first addition, under the
password of the first one. -/
structure Book where
  password : String
  profiles : Dict String ServerProfile

/-- The profiles that a password opens. -/
def Book.opened (book : Option Book) (password : String) :
    Except CommandExc (Dict String ServerProfile) :=
  match book with
  | none => .ok Dict.empty
  | some book =>
    if password = book.password then .ok book.profiles else .error (.store Store.notDecrypted)

/-- The methods on a book. -/
def bookMethods (password : String) : Methods (Option Book) where
  addProfile profile := do
    let profiles ← openedBook
    modify fun _ => some ⟨password, profiles.set profile.profileId profile⟩
  listProfiles := do
    let profiles ← openedBook
    return profiles.values
  removeProfile profileId := do
    let profiles ← openedBook
    match profiles.get? profileId with
    | none => raise (.store (Store.noProfile profileId))
    | some _ => modify fun _ => some ⟨password, profiles.erase profileId⟩
  getProfile profileId := do
    let profiles ← openedBook
    match profiles.get? profileId with
    | none => raise (.store (Store.noProfile profileId))
    | some profile => return profile
where
  openedBook : Act CommandExc (Option Book) (Dict String ServerProfile) := do
    ofExcept (Book.opened (← reads id) password)

def openBook (inv : Invocation) : Except CommandExc (Methods (Option Book)) :=
  if inv.password = "" then .error emptyPassword else .ok (bookMethods inv.password)

end Bimarz.Commands
