import Bimarz.Effect.Except
import Bimarz.Engine.Address
import Bimarz.Engine.Messages
import Bimarz.Helpers
import Bimarz.Text.Base64
import Mathlib.Algebra.Group.Int.Defs

/-!
# Building an outbound (`vless_builder.rs`)

`buildVlessRealityOutbound` checks the arguments of `add_vless_reality_outbound` and puts the
messages together. `readOutbound` takes an outbound apart, layer by layer: it reads what the
profile says.
-/

namespace Bimarz.Engine

open Effect Proto

/-- The error of `errors.rs` that a builder returns. -/
inductive EngineError
  | invalidOutboundConfig (reason : String)
  deriving DecidableEq

/-- `impl From<EngineError> for PyErr`. -/
def EngineError.toExc : EngineError → Exc
  | .invalidOutboundConfig reason =>
    .error .runtimeError s!"invalid outbound configuration: {reason}"

/-- `prost`, and the texts of the decoding errors of `base64` and `hex`. -/
structure Crates where
  prost : Prost
  base64Error : String → String
  hexError : String → String

def typeVlessOutboundConfig : String := "xray.proxy.vless.outbound.Config"
def typeVlessAccount : String := "xray.proxy.vless.Account"
def typeRealityConfig : String := "xray.transport.internet.reality.Config"
def typeSenderConfig : String := "xray.app.proxyman.SenderConfig"

structure VlessRealityParams where
  tag : String
  uuid : String
  flow : String
  address : String
  port : UInt32
  network : String
  sni : String
  fingerprint : String
  publicKeyB64 : String
  shortIdHex : String
  spiderX : String
  deriving DecidableEq

/-! ## The checks -/

section Build

variable (crates : Crates)

def decodeRealityPublicKey (value : String) : Except EngineError Bytes :=
  match Base64.decode value.toList with
  | some publicKey => .ok publicKey
  | none => .error (.invalidOutboundConfig
      s!"invalid Reality public key (expected unpadded base64url): {crates.base64Error value}")

def decodeShortId (value : String) : Except EngineError Bytes :=
  if value = "" then .ok []
  else
    match Hex.decode value.toList with
    | some shortId => .ok shortId
    | none => .error (.invalidOutboundConfig
        s!"invalid Reality short_id (expected hex string): {crates.hexError value}")

/-- The octets of an IP address; any other text is a domain name. -/
def addressVariant (address : String) : Address :=
  match parseIpAddr address.toList with
  | some octets => .ip octets
  | none => .domain address

def buildIpOrDomain (address : String) : IpOrDomain where
  address := some (addressVariant address)

def validateParams (params : VlessRealityParams) : Except EngineError Unit :=
  if params.tag = "" then .error (.invalidOutboundConfig "outbound tag must not be empty")
  else if params.uuid = "" then .error (.invalidOutboundConfig "uuid must not be empty")
  else if params.address = "" then .error (.invalidOutboundConfig "address must not be empty")
  else if params.port = 0 ∨ 65535 < params.port then
    .error (.invalidOutboundConfig s!"port must be between 1 and 65535, got {params.port}")
  else .ok ()

/-! ## The messages -/

def realityConfig (params : VlessRealityParams) (publicKey shortId : Bytes) : RealityConfig where
  show' := false
  dest := ""
  type := ""
  xver := 0
  serverNames := []
  privateKey := []
  minClientVer := []
  maxClientVer := []
  maxTimeDiff := 0
  shortIds := []
  fingerprint := params.fingerprint
  serverName := params.sni
  publicKey := publicKey
  shortId := shortId
  spiderX := params.spiderX
  spiderY := []
  masterKeyLog := ""

def streamConfig (params : VlessRealityParams) (publicKey shortId : Bytes) : StreamConfig where
  protocol := 0
  protocolName := params.network
  transportSettings := []
  securityType := typeRealityConfig
  securitySettings := [{
    type := typeRealityConfig
    value := crates.prost.realityConfig.write (realityConfig params publicKey shortId) }]
  socketSettings := none

def senderConfig (params : VlessRealityParams) (publicKey shortId : Bytes) : SenderConfig where
  via := none
  streamSettings := some (streamConfig crates params publicKey shortId)
  proxySettings := none
  multiplexSettings := none
  viaCidr := ""

def vlessAccount (params : VlessRealityParams) : VlessAccount where
  id := params.uuid
  flow := params.flow
  encryption := "none"

def vlessOutboundConfig (params : VlessRealityParams) : VlessOutboundConfig where
  vnext := [{
    address := some (buildIpOrDomain params.address)
    port := params.port
    user := [{
      level := 0
      email := ""
      account := some {
        type := typeVlessAccount
        value := crates.prost.vlessAccount.write (vlessAccount params) } }] }]

def outboundHandlerConfig (params : VlessRealityParams) (publicKey shortId : Bytes) :
    OutboundHandlerConfig where
  tag := params.tag
  senderSettings := some {
    type := typeSenderConfig
    value := crates.prost.senderConfig.write (senderConfig crates params publicKey shortId) }
  proxySettings := some {
    type := typeVlessOutboundConfig
    value := crates.prost.vlessOutboundConfig.write (vlessOutboundConfig crates params) }
  expire := 0
  comment := ""

def buildVlessRealityOutbound (params : VlessRealityParams) :
    Except EngineError OutboundHandlerConfig := do
  validateParams params
  let publicKey ← decodeRealityPublicKey crates params.publicKeyB64
  let shortId ← decodeShortId crates params.shortIdHex
  return outboundHandlerConfig crates params publicKey shortId

/-! ## The way from a profile to an outbound -/

/-- The arguments as the types of the Rust method. -/
def vlessRealityParams (kwargs : OutboundKwargs) : Except Exc VlessRealityParams :=
  if 0 ≤ kwargs.port ∧ kwargs.port < 2 ^ 32 then
    .ok {
      tag := kwargs.tag
      uuid := kwargs.uuid
      flow := kwargs.flow
      address := kwargs.address
      port := UInt32.ofNat kwargs.port.toNat
      network := kwargs.network
      sni := kwargs.sni
      fingerprint := kwargs.fingerprint
      publicKeyB64 := kwargs.publicKeyB64
      shortIdHex := kwargs.shortIdHex
      spiderX := kwargs.spiderX }
  else .error (.error .overflowError "out of range integral type conversion attempted")

/-- `PyEngineClient.add_vless_reality_outbound`, as the outbound that it sends. -/
def addVlessRealityOutbound (kwargs : OutboundKwargs) : Except Exc OutboundHandlerConfig := do
  let params ← vlessRealityParams kwargs
  (buildVlessRealityOutbound crates params).mapError EngineError.toExc

/-- `EngineService.add_outbound`, as the outbound that it sends. -/
def addedOutbound (profile : ServerProfile) : Except Exc OutboundHandlerConfig := do
  let kwargs ← activeOutbound profile
  addVlessRealityOutbound crates kwargs

end Build

/-! ## What an outbound says -/

/-- The values of an outbound. -/
structure OutboundView where
  tag : String
  protocolName : String
  transportSettings : List TransportConfig
  serverName : String
  fingerprint : String
  publicKey : Bytes
  shortId : Bytes
  spiderX : String
  address : Address
  port : UInt32
  id : String
  flow : String
  encryption : String
  deriving DecidableEq

/-- A message under the name of its type. -/
def openMessage {α : Type} (codec : Codec α) (type : String) (m : TypedMessage) : Option α :=
  if m.type = type then codec.read m.value else none

def only {α : Type} : List α → Option α
  | [a] => some a
  | _ => none

/-- The outbound layer by layer. Every message stands under the name of its type, and there is one
security setting, one endpoint and one user. -/
def readOutbound (prost : Prost) (outbound : OutboundHandlerConfig) : Option OutboundView := do
  let sender ← openMessage prost.senderConfig typeSenderConfig (← outbound.senderSettings)
  let stream ← sender.streamSettings
  guard (stream.securityType = typeRealityConfig)
  let reality ← openMessage prost.realityConfig typeRealityConfig (← only stream.securitySettings)
  let config ← openMessage prost.vlessOutboundConfig typeVlessOutboundConfig
    (← outbound.proxySettings)
  let endpoint ← only config.vnext
  let user ← only endpoint.user
  let account ← openMessage prost.vlessAccount typeVlessAccount (← user.account)
  let ipOrDomain ← endpoint.address
  let address ← ipOrDomain.address
  return {
    tag := outbound.tag
    protocolName := stream.protocolName
    transportSettings := stream.transportSettings
    serverName := reality.serverName
    fingerprint := reality.fingerprint
    publicKey := reality.publicKey
    shortId := reality.shortId
    spiderX := reality.spiderX
    address := address
    port := endpoint.port
    id := account.id
    flow := account.flow
    encryption := account.encryption }

/-! ## When an outbound is built -/

section Built

variable {crates : Crates} {params : VlessRealityParams}

theorem decodeRealityPublicKey_eq_ok_iff {value : String} {publicKey : Bytes} :
    decodeRealityPublicKey crates value = .ok publicKey ↔
      Base64.decode value.toList = some publicKey := by
  unfold decodeRealityPublicKey
  cases Base64.decode value.toList with
  | none => simp
  | some publicKey' => simp

/-- The empty text has no digits. -/
theorem decodeShortId_eq_ok_iff {value : String} {shortId : Bytes} :
    decodeShortId crates value = .ok shortId ↔ Hex.decode value.toList = some shortId := by
  unfold decodeShortId
  by_cases h : value = ""
  · rw [if_pos h, h]
    have hempty : Hex.decode "".toList = some [] := rfl
    rw [hempty]
    simp
  · rw [if_neg h]
    cases Hex.decode value.toList with
    | none => simp
    | some shortId' => simp

/-- The arguments that pass `validate_params`. -/
structure VlessRealityParams.Valid (params : VlessRealityParams) : Prop where
  tag : params.tag ≠ ""
  uuid : params.uuid ≠ ""
  address : params.address ≠ ""
  port_pos : params.port ≠ 0
  port_le : params.port ≤ 65535

theorem validateParams_eq_ok_iff : validateParams params = .ok () ↔ params.Valid := by
  unfold validateParams
  simp only [check_eq_ok_iff, not_or, UInt32.not_lt, and_true]
  constructor
  · rintro ⟨htag, huuid, haddress, hpos, hle⟩
    exact ⟨htag, huuid, haddress, hpos, hle⟩
  · rintro ⟨htag, huuid, haddress, hpos, hle⟩
    exact ⟨htag, huuid, haddress, hpos, hle⟩

theorem buildVlessRealityOutbound_eq_ok_iff {outbound : OutboundHandlerConfig} :
    buildVlessRealityOutbound crates params = .ok outbound ↔
      params.Valid ∧ ∃ publicKey shortId,
        Base64.decode params.publicKeyB64.toList = some publicKey ∧
        Hex.decode params.shortIdHex.toList = some shortId ∧
        outboundHandlerConfig crates params publicKey shortId = outbound := by
  unfold buildVlessRealityOutbound
  simp only [bind_eq_ok_iff, decodeRealityPublicKey_eq_ok_iff, decodeShortId_eq_ok_iff]
  constructor
  · rintro ⟨_, hvalid, publicKey, hpublicKey, shortId, hshortId, houtbound⟩
    cases houtbound
    exact ⟨validateParams_eq_ok_iff.mp hvalid, publicKey, shortId, hpublicKey, hshortId, rfl⟩
  · rintro ⟨hvalid, publicKey, shortId, hpublicKey, hshortId, rfl⟩
    exact ⟨(), validateParams_eq_ok_iff.mpr hvalid, publicKey, hpublicKey, shortId, hshortId, rfl⟩

/-- The arguments come back from the outbound that is built from them. -/
theorem readOutbound_outboundHandlerConfig (h : crates.prost.Undoes) (publicKey shortId : Bytes) :
    readOutbound crates.prost (outboundHandlerConfig crates params publicKey shortId) = some {
      tag := params.tag
      protocolName := params.network
      transportSettings := []
      serverName := params.sni
      fingerprint := params.fingerprint
      publicKey := publicKey
      shortId := shortId
      spiderX := params.spiderX
      address := addressVariant params.address
      port := params.port
      id := params.uuid
      flow := params.flow
      encryption := "none" } := by
  simp only [readOutbound, outboundHandlerConfig, openMessage, if_true, senderConfig,
    h.senderConfig _, streamConfig, only, h.realityConfig _, realityConfig, vlessOutboundConfig,
    h.vlessOutboundConfig _, buildIpOrDomain, h.vlessAccount _, vlessAccount, guard,
    Option.bind_eq_bind, Option.bind_some]
  rfl

end Built

/-! ## From a profile to the outbound -/

/-- The values of a profile that an outbound is built from. -/
structure OutboundSettings where
  id : String
  flow : String
  address : String
  port : ℕ
  type : String
  sni : String
  fp : String
  publicKey : String
  shortId : String
  spiderX : String

/-- The profile has these values, as strings and a port. -/
structure OutboundSettings.Of (s : OutboundSettings) (profile : ServerProfile) : Prop where
  id : profile.outboundConfig.get? "id" = some (.str s.id)
  flow : profile.outboundConfig.get? "flow" = some (.str s.flow)
  address : profile.outboundConfig.get? "address" = some (.str s.address)
  port : profile.outboundConfig.get? "port" = some (.int s.port)
  type : profile.outboundConfig.get? "type" = some (.str s.type)
  sni : profile.outboundConfig.get? "sni" = some (.str s.sni)
  fp : profile.outboundConfig.get? "fp" = some (.str s.fp)
  publicKey : profile.outboundConfig.get? "publicKey" = some (.str s.publicKey)
  shortId : profile.outboundConfig.get? "shortId" = some (.str s.shortId)
  spiderX : profile.outboundConfig.get? "spiderX" = some (.str s.spiderX)
  validPort : 1 ≤ s.port ∧ s.port ≤ 65535

/-- The arguments of the Rust method for these values. -/
def OutboundSettings.params (s : OutboundSettings) : VlessRealityParams where
  tag := activeOutboundTag
  uuid := s.id
  flow := s.flow
  address := s.address
  port := UInt32.ofNat s.port
  network := s.type
  sni := s.sni
  fingerprint := s.fp
  publicKeyB64 := s.publicKey
  shortIdHex := s.shortId
  spiderX := s.spiderX

section Profile

variable {crates : Crates} {profile : ServerProfile} {s : OutboundSettings}

theorem setting_of_str {key value : String}
    (h : profile.outboundConfig.get? key = some (.str value)) (default : String) :
    profile.setting key default = value := by
  unfold ServerProfile.setting
  rw [h]
  rfl

theorem outboundPort_of (h : s.Of profile) : outboundPort profile = .ok (s.port : ℤ) := by
  have hport : 1 ≤ (s.port : ℤ) ∧ (s.port : ℤ) ≤ 65535 := by
    have := h.validPort
    omega
  unfold outboundPort
  simp only [h.port, Option.getD_some, PyValue.toInt, if_pos hport]

/-- The arguments of the Python call for these values. -/
def OutboundSettings.kwargs (s : OutboundSettings) : OutboundKwargs where
  tag := activeOutboundTag
  uuid := s.id
  flow := s.flow
  address := s.address
  port := s.port
  network := s.type
  sni := s.sni
  fingerprint := s.fp
  publicKeyB64 := s.publicKey
  shortIdHex := s.shortId
  spiderX := s.spiderX

theorem activeOutbound_of (h : s.Of profile) : activeOutbound profile = .ok s.kwargs := by
  unfold activeOutbound outboundKwargs
  rw [outboundPort_of h]
  simp only [ok_bind, setting_of_str h.id, setting_of_str h.flow, setting_of_str h.address,
    setting_of_str h.type, setting_of_str h.sni, setting_of_str h.fp, setting_of_str h.publicKey,
    setting_of_str h.shortId, setting_of_str h.spiderX]
  rfl

theorem vlessRealityParams_kwargs (h : s.port ≤ 65535) :
    vlessRealityParams s.kwargs = .ok s.params := by
  have hconvert : 0 ≤ s.kwargs.port ∧ s.kwargs.port < 2 ^ 32 := by
    have hport : s.kwargs.port = s.port := rfl
    omega
  have hnat : s.kwargs.port.toNat = s.port := Int.toNat_natCast s.port
  unfold vlessRealityParams
  rw [if_pos hconvert, hnat]
  rfl

/-- The tag, the ten values and nothing else go into the outbound. -/
theorem addedOutbound_of (h : s.Of profile) :
    addedOutbound crates profile =
      (buildVlessRealityOutbound crates s.params).mapError EngineError.toExc := by
  unfold addedOutbound addVlessRealityOutbound
  rw [activeOutbound_of h, ok_bind, vlessRealityParams_kwargs h.validPort.2, ok_bind]

/-- What the address of a profile becomes. -/
def OutboundSettings.dialed (s : OutboundSettings) : Address := addressVariant s.address

/-- What the outbound of these values says. -/
def OutboundSettings.view (s : OutboundSettings) (publicKey shortId : Bytes) : OutboundView where
  tag := activeOutboundTag
  protocolName := s.type
  transportSettings := []
  serverName := s.sni
  fingerprint := s.fp
  publicKey := publicKey
  shortId := shortId
  spiderX := s.spiderX
  address := s.dialed
  port := UInt32.ofNat s.port
  id := s.id
  flow := s.flow
  encryption := "none"

/-- The outbound of a profile says what the profile says. -/
theorem readOutbound_addedOutbound (hprost : crates.prost.Undoes) (h : s.Of profile)
    {outbound : OutboundHandlerConfig} (hadded : addedOutbound crates profile = .ok outbound) :
    ∃ publicKey shortId, Base64.decode s.publicKey.toList = some publicKey ∧
      Hex.decode s.shortId.toList = some shortId ∧
      readOutbound crates.prost outbound = some (s.view publicKey shortId) := by
  rw [addedOutbound_of h, mapError_eq_ok_iff, buildVlessRealityOutbound_eq_ok_iff] at hadded
  obtain ⟨-, publicKey, shortId, hpublicKey, hshortId, rfl⟩ := hadded
  exact ⟨publicKey, shortId, hpublicKey, hshortId,
    readOutbound_outboundHandlerConfig hprost publicKey shortId⟩

/-! ## Different profiles -/

/-- The same values, up to the case of the short id and the spelling of an IP address. -/
structure OutboundSettings.Same (s s' : OutboundSettings) : Prop where
  id : s.id = s'.id
  flow : s.flow = s'.flow
  address : s.address = s'.address ∨
    ∃ octets, parseIpAddr s.address.toList = some octets ∧
      parseIpAddr s'.address.toList = some octets
  port : s.port = s'.port
  type : s.type = s'.type
  sni : s.sni = s'.sni
  fp : s.fp = s'.fp
  publicKey : s.publicKey = s'.publicKey
  shortId : s.shortId.toList.map Hex.lower = s'.shortId.toList.map Hex.lower
  spiderX : s.spiderX = s'.spiderX

theorem addressVariant_eq_ip_iff {address : String} {octets : Bytes} :
    addressVariant address = .ip octets ↔ parseIpAddr address.toList = some octets := by
  unfold addressVariant
  cases parseIpAddr address.toList with
  | none => simp
  | some octets' => simp

theorem addressVariant_eq_domain_iff {address name : String} :
    addressVariant address = .domain name ↔
      parseIpAddr address.toList = none ∧ address = name := by
  unfold addressVariant
  cases parseIpAddr address.toList with
  | none => simp
  | some octets => simp

theorem addressVariant_inj {address address' : String}
    (h : addressVariant address = addressVariant address') :
    address = address' ∨
      ∃ octets, parseIpAddr address.toList = some octets ∧
        parseIpAddr address'.toList = some octets := by
  cases hvariant : addressVariant address' with
  | ip octets =>
    rw [hvariant] at h
    exact Or.inr ⟨octets, addressVariant_eq_ip_iff.mp h, addressVariant_eq_ip_iff.mp hvariant⟩
  | domain name =>
    rw [hvariant] at h
    left
    rw [(addressVariant_eq_domain_iff.mp h).2, (addressVariant_eq_domain_iff.mp hvariant).2]

/-- A decoded key has one text. -/
theorem publicKey_inj {key key' : String} {publicKey : Bytes}
    (h : Base64.decode key.toList = some publicKey)
    (h' : Base64.decode key'.toList = some publicKey) : key = key' := by
  apply String.toList_injective
  rw [← Base64.encode_of_decode h, Base64.encode_of_decode h']

theorem shortId_inj {sid sid' : String} {shortId : Bytes}
    (h : Hex.decode sid.toList = some shortId) (h' : Hex.decode sid'.toList = some shortId) :
    sid.toList.map Hex.lower = sid'.toList.map Hex.lower := by
  rw [← Hex.encode_of_decode h, Hex.encode_of_decode h']

theorem toNat_port {port : ℕ} (h : port ≤ 65535) : (UInt32.ofNat port).toNat = port := by
  have hsize : 65535 < UInt32.size := by decide
  exact UInt32.toNat_ofNat_of_lt' (by omega)

theorem same_of_view {s' : OutboundSettings} {publicKey shortId publicKey' shortId' : Bytes}
    (hport : s.port ≤ 65535) (hport' : s'.port ≤ 65535)
    (hpublicKey : Base64.decode s.publicKey.toList = some publicKey)
    (hpublicKey' : Base64.decode s'.publicKey.toList = some publicKey')
    (hshortId : Hex.decode s.shortId.toList = some shortId)
    (hshortId' : Hex.decode s'.shortId.toList = some shortId')
    (h : s.view publicKey shortId = s'.view publicKey' shortId') : s.Same s' := by
  simp only [OutboundSettings.view, OutboundView.mk.injEq, true_and] at h
  obtain ⟨htype, hsni, hfp, rfl, rfl, hspiderX, haddress, hsameport, hid, hflow, -⟩ := h
  have hport : s.port = s'.port := by
    have hnat := congrArg UInt32.toNat hsameport
    rwa [toNat_port hport, toNat_port hport'] at hnat
  exact {
    id := hid
    flow := hflow
    address := addressVariant_inj haddress
    port := hport
    type := htype
    sni := hsni
    fp := hfp
    publicKey := publicKey_inj hpublicKey hpublicKey'
    shortId := shortId_inj hshortId hshortId'
    spiderX := hspiderX }

/-- An outbound that is built says what the profile says, with the octets of an IP address, 4 or 16
of them, in the place of its text. Profiles with the same outbound have the same values, up to the
case of the short id and the spelling of an IP address. -/
theorem outbound_says_profile (hprost : crates.prost.Undoes) (h : s.Of profile)
    {outbound : OutboundHandlerConfig} (hadded : addedOutbound crates profile = .ok outbound) :
    (∃ publicKey shortId, Base64.decode s.publicKey.toList = some publicKey ∧
      Hex.decode s.shortId.toList = some shortId ∧
      readOutbound crates.prost outbound = some (s.view publicKey shortId)) ∧
    (∀ octets, s.dialed = .ip octets ↔ parseIpAddr s.address.toList = some octets) ∧
    (∀ octets, s.dialed = .ip octets → octets.length = 4 ∨ octets.length = 16) ∧
    ∀ (profile' : ServerProfile) (s' : OutboundSettings), s'.Of profile' →
      addedOutbound crates profile' = .ok outbound → s.Same s' := by
  have hread := readOutbound_addedOutbound hprost h hadded
  refine ⟨hread, fun _ => addressVariant_eq_ip_iff, fun _ hip => ?_,
    fun profile' s' h' hadded' => ?_⟩
  · exact length_parseIpAddr (addressVariant_eq_ip_iff.mp hip)
  · obtain ⟨publicKey, shortId, hpublicKey, hshortId, hview⟩ := hread
    obtain ⟨publicKey', shortId', hpublicKey', hshortId', hview'⟩ :=
      readOutbound_addedOutbound hprost h' hadded'
    rw [hview] at hview'
    exact same_of_view h.validPort.2 h'.validPort.2 hpublicKey hpublicKey' hshortId hshortId'
      (Option.some.inj hview')

end Profile

/-- The wire format, with short texts of errors. -/
def wireCrates : Crates where
  prost := wire
  base64Error := fun _ => "Invalid input length"
  hexError := fun _ => "Odd number of digits"

def sampleSettings : OutboundSettings where
  id := "8f9a3c2e-1234-4a5b-8c9d-0e1f2a3b4c5d"
  flow := "xtls-rprx-vision"
  address := "192.0.2.7"
  port := 443
  type := "tcp"
  sni := "www.microsoft.com"
  fp := "chrome"
  publicKey := "AAAAAAAAAAAAAAAAAAAAAAAAAAAAAAAAAAAAAAAAAAA"
  shortId := "A1b2c3"
  spiderX := "/"

def sampleProfile : ServerProfile where
  profileId := "7f"
  tag := "7f"
  remark := "sample"
  outboundConfig := .ofList [
    ("id", .str sampleSettings.id), ("flow", .str sampleSettings.flow),
    ("address", .str sampleSettings.address), ("port", .int sampleSettings.port),
    ("type", .str sampleSettings.type), ("sni", .str sampleSettings.sni),
    ("fp", .str sampleSettings.fp), ("publicKey", .str sampleSettings.publicKey),
    ("shortId", .str sampleSettings.shortId), ("spiderX", .str sampleSettings.spiderX)]
  addedAtIso := "2026-01-01"

theorem sampleSettings_of : sampleSettings.Of sampleProfile where
  id := rfl
  flow := rfl
  address := rfl
  port := rfl
  type := rfl
  sni := rfl
  fp := rfl
  publicKey := rfl
  shortId := rfl
  spiderX := rfl
  validPort := ⟨by decide, by decide⟩

def sampleOutbound : OutboundHandlerConfig :=
  outboundHandlerConfig wireCrates sampleSettings.params (List.replicate 32 0) [0xa1, 0xb2, 0xc3]

theorem addedOutbound_sample : addedOutbound wireCrates sampleProfile = .ok sampleOutbound := by
  rw [addedOutbound_of sampleSettings_of, mapError_eq_ok_iff, buildVlessRealityOutbound_eq_ok_iff]
  have hvalid : sampleSettings.params.Valid := {
    tag := by decide
    uuid := by decide
    address := by decide
    port_pos := by decide
    port_le := by decide }
  exact ⟨hvalid, List.replicate 32 0, [0xa1, 0xb2, 0xc3], by decide, by decide, rfl⟩

theorem outbound_says_profile_sample :
    (∃ publicKey shortId, Base64.decode sampleSettings.publicKey.toList = some publicKey ∧
      Hex.decode sampleSettings.shortId.toList = some shortId ∧
      readOutbound wireCrates.prost sampleOutbound =
        some (sampleSettings.view publicKey shortId)) ∧
    (∀ octets, sampleSettings.dialed = .ip octets ↔
      parseIpAddr sampleSettings.address.toList = some octets) ∧
    (∀ octets, sampleSettings.dialed = .ip octets → octets.length = 4 ∨ octets.length = 16) ∧
    ∀ (profile' : ServerProfile) (s' : OutboundSettings), s'.Of profile' →
      addedOutbound wireCrates profile' = .ok sampleOutbound → sampleSettings.Same s' :=
  outbound_says_profile wire_undoes sampleSettings_of addedOutbound_sample

end Bimarz.Engine
