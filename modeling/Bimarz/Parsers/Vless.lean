import Bimarz.Effect.Except
import Bimarz.Models
import Bimarz.Parsers.Uuid
import Bimarz.Url.Split

/-!
# The share-link parser (`parsers/vless.py`)

`parseVlessLink` takes a link apart and checks its parts in the order of the source. The fresh id
and the time of day are arguments.
-/

namespace Bimarz

open Effect
open Url (Chars Unicode UrlError SplitResult)

/-- The two classes of `VlessParseError`, and what `urllib.parse` raises. -/
inductive VlessError
  | unsupported (message : String)
  | malformed (message : String)
  | valueError (error : UrlError)
  deriving DecidableEq

def requiredSecurity : String := "reality"
def requiredFlow : String := "xtls-rprx-vision"

def defaultPort : ℕ := 443
def defaultFingerprint : String := "chrome"
def defaultNetwork : String := "tcp"
def defaultEncryption : String := "none"

/-- `VlessOutbound`: the settings that a link gives. -/
structure VlessOutbound where
  protocol : String
  address : String
  port : ℕ
  id : String
  flow : String
  security : String
  sni : String
  fp : String
  publicKey : String
  shortId : String
  spiderX : String
  encryption : String
  type : String
  path : String
  host : String
  serviceName : String
  authority : String
  mode : String
  alpn : String
  headerType : String
  seed : String
  packetEncoding : String
  mux : String
  allowInsecure : Bool
  ech : String
  echForceQuery : String
  pqv : String
  deriving DecidableEq

namespace VlessOutbound

variable (outbound : VlessOutbound)

def items : List (String × PyValue) := [
  ("protocol", .str outbound.protocol), ("address", .str outbound.address),
  ("port", .int outbound.port), ("id", .str outbound.id), ("flow", .str outbound.flow),
  ("security", .str outbound.security), ("sni", .str outbound.sni), ("fp", .str outbound.fp),
  ("publicKey", .str outbound.publicKey), ("shortId", .str outbound.shortId),
  ("spiderX", .str outbound.spiderX), ("encryption", .str outbound.encryption),
  ("type", .str outbound.type), ("path", .str outbound.path), ("host", .str outbound.host),
  ("serviceName", .str outbound.serviceName), ("authority", .str outbound.authority),
  ("mode", .str outbound.mode), ("alpn", .str outbound.alpn),
  ("headerType", .str outbound.headerType), ("seed", .str outbound.seed),
  ("packetEncoding", .str outbound.packetEncoding), ("mux", .str outbound.mux),
  ("allowInsecure", .bool outbound.allowInsecure), ("ech", .str outbound.ech),
  ("echForceQuery", .str outbound.echForceQuery), ("pqv", .str outbound.pqv)]

/-- The keys do not depend on the values. -/
theorem nodup_items : (outbound.items.map Prod.fst).Nodup := by
  simp [items]

/-- `dict(outbound)`. -/
def config : Dict String PyValue := ⟨outbound.items, outbound.nodup_items⟩

end VlessOutbound

/-! ## Reading the parts -/

/-- `s.lower()`. -/
def lower (unicode : Unicode) (s : String) : String := String.ofList (unicode.lower s.toList)

/-- `a or b` of two texts. -/
def orElse (a b : String) : String := if a = "" then b else a

/-- The fields of a query string by their names. -/
abbrev Query := Dict Chars (List Chars)

def getQueryValue (query : Query) (key default : String) : String :=
  String.ofList (Url.queryValue query key.toList default.toList)

def trueWords : List String := ["1", "true", "yes", "on"]
def falseWords : List String := ["0", "false", "no", "off"]

def getBoolQueryValue (unicode : Unicode) (query : Query) (key : String) (default : Bool) : Bool :=
  let value := lower unicode (Python.strip (getQueryValue query key ""))
  if value ∈ trueWords then true
  else if value ∈ falseWords then false
  else default

def checkScheme (unicode : Unicode) (parsed : SplitResult) : Except VlessError Unit :=
  let scheme := String.ofList parsed.scheme
  let shown := orElse scheme "(none)"
  if lower unicode scheme ≠ "vless" then
    .error (.unsupported s!"Only vless:// links are supported, got scheme '{shown}'")
  else .ok ()

/-- `parsed.hostname`, which must not be empty. -/
def linkHostname (unicode : Unicode) (parsed : SplitResult) : Except VlessError String :=
  match parsed.hostname unicode with
  | some (c :: cs) => .ok (String.ofList (c :: cs))
  | _ => .error (.malformed "Invalid VLESS link: missing host")

def linkUuid (parsed : SplitResult) : Except VlessError Uuid :=
  let rawUuid := Python.strip (String.ofList (Url.unquote (parsed.username.getD [])))
  if rawUuid = "" then .error (.malformed "Invalid VLESS link: missing UUID")
  else
    match Uuid.ofText rawUuid.toList with
    | some parsedUuid => .ok parsedUuid
    | none => .error (.malformed s!"Invalid UUID in VLESS link: {rawUuid}")

def linkPort (parsed : SplitResult) : Except VlessError ℕ :=
  match parsed.port with
  | .error _ => .error (.malformed "Invalid port in VLESS link")
  | .ok port =>
    let port := port.getD defaultPort
    if 1 ≤ port ∧ port ≤ 65535 then .ok port
    else .error (.malformed s!"Invalid port in VLESS link: {port}")

/-- The settings, once the three required parameters are checked. -/
def linkOutbound (unicode : Unicode) (query : Query) (hostname : String) (parsedUuid : Uuid)
    (port : ℕ) : Except VlessError VlessOutbound :=
  let security := lower unicode (Python.strip (getQueryValue query "security" ""))
  let flow := Python.strip (getQueryValue query "flow" "")
  let publicKey := Python.strip (getQueryValue query "pbk" "")
  let shownSecurity := orElse security "(none)"
  let shownFlow := orElse flow "(none)"
  if security ≠ requiredSecurity then
    .error (.unsupported
      s!"only security={requiredSecurity} is supported, got '{shownSecurity}'")
  else if flow ≠ requiredFlow then
    .error (.unsupported s!"only flow={requiredFlow} is supported, got '{shownFlow}'")
  else if publicKey = "" then
    .error (.malformed
      "vless+reality link is missing the 'pbk' (Reality public key) parameter")
  else .ok {
    protocol := "vless"
    address := hostname
    port := port
    id := String.ofList parsedUuid.text
    flow := flow
    security := security
    sni := orElse (Python.strip (getQueryValue query "sni" ""))
      (Python.strip (getQueryValue query "host" ""))
    fp := orElse (Python.strip (getQueryValue query "fp" defaultFingerprint)) defaultFingerprint
    publicKey := publicKey
    shortId := Python.strip (getQueryValue query "sid" "")
    spiderX := getQueryValue query "spx" ""
    encryption := orElse (Python.strip (getQueryValue query "encryption" defaultEncryption))
      defaultEncryption
    type := orElse (Python.strip (getQueryValue query "type" defaultNetwork)) defaultNetwork
    path := getQueryValue query "path" ""
    host := getQueryValue query "host" ""
    serviceName := getQueryValue query "serviceName" ""
    authority := getQueryValue query "authority" ""
    mode := getQueryValue query "mode" ""
    alpn := getQueryValue query "alpn" ""
    headerType := getQueryValue query "headerType" ""
    seed := getQueryValue query "seed" ""
    packetEncoding := getQueryValue query "packetEncoding" ""
    mux := getQueryValue query "mux" ""
    allowInsecure := getBoolQueryValue unicode query "allowInsecure" false
    ech := getQueryValue query "ech" ""
    echForceQuery := getQueryValue query "echForceQuery" ""
    pqv := getQueryValue query "pqv" "" }

/-- The fragment, or host and port when it is blank. -/
def linkRemark (parsed : SplitResult) (hostname : String) (port : ℕ) : String :=
  orElse (Python.strip (String.ofList (Url.unquote parsed.fragment))) s!"{hostname}:{port}"

/-! ## `parse_vless_link` -/

/-- `urlparse(link)` of the stripped link. -/
def linkUrl (unicode : Unicode) (link : String) : Except VlessError SplitResult :=
  let link := Python.strip link
  if link = "" then .error (.malformed "VLESS link cannot be empty")
  else (Url.urlsplit unicode link.toList).mapError .valueError

def parseVlessLink (unicode : Unicode) (link profileId addedAtIso : String) :
    Except VlessError ServerProfile := do
  let parsed ← linkUrl unicode link
  checkScheme unicode parsed
  let hostname ← linkHostname unicode parsed
  let parsedUuid ← linkUuid parsed
  let port ← linkPort parsed
  let outbound ← linkOutbound unicode (Url.parseQs parsed.query) hostname parsedUuid port
  return {
    profileId := profileId
    tag := profileId
    remark := linkRemark parsed hostname port
    outboundConfig := outbound.config
    addedAtIso := addedAtIso }

/-! ## Accepted links -/

/-- The profile of a link whose parts were read. -/
def linkProfile (parsed : SplitResult) (hostname : String) (port : ℕ) (outbound : VlessOutbound)
    (profileId addedAtIso : String) : ServerProfile :=
  ⟨profileId, profileId, linkRemark parsed hostname port, outbound.config, addedAtIso⟩

/-- A link is accepted when each of its parts is. -/
theorem parseVlessLink_eq_ok_iff {unicode : Unicode} {link profileId addedAtIso : String}
    {profile : ServerProfile} :
    parseVlessLink unicode link profileId addedAtIso = .ok profile ↔
      ∃ parsed hostname parsedUuid port outbound,
        linkUrl unicode link = .ok parsed ∧
        lower unicode (String.ofList parsed.scheme) = "vless" ∧
        linkHostname unicode parsed = .ok hostname ∧
        linkUuid parsed = .ok parsedUuid ∧
        linkPort parsed = .ok port ∧
        linkOutbound unicode (Url.parseQs parsed.query) hostname parsedUuid port = .ok outbound ∧
        linkProfile parsed hostname port outbound profileId addedAtIso = profile := by
  unfold parseVlessLink
  simp only [bind_eq_ok_iff, checkScheme, check_eq_ok_iff, not_not]
  constructor
  · rintro ⟨parsed, hparsed, _, ⟨hscheme, -⟩, hostname, hhostname, parsedUuid, huuid, port, hport,
      outbound, houtbound, hprofile⟩
    cases hprofile
    exact ⟨parsed, hostname, parsedUuid, port, outbound, hparsed, hscheme, hhostname, huuid, hport,
      houtbound, rfl⟩
  · rintro ⟨parsed, hostname, parsedUuid, port, outbound, hparsed, hscheme, hhostname, huuid,
      hport, houtbound, rfl⟩
    exact ⟨parsed, hparsed, (), ⟨hscheme, trivial⟩, hostname, hhostname, parsedUuid, huuid, port, hport,
      outbound, houtbound, rfl⟩

end Bimarz
