import Bimarz.Proto.Message

/-!
# The messages of an outbound

The protocol buffers that make up an `OutboundHandlerConfig`, each with its fields in the order of
their numbers, as they are written. A message that no code here builds is left as its bytes.
-/

namespace Bimarz.Engine

open Proto

/-- A message whose fields are not modelled. -/
abbrev Encoded := Bytes

/-! ## `xray.common` -/

structure TypedMessage where
  type : String
  value : Bytes
  deriving DecidableEq

/-- `ip_or_domain::Address`. -/
inductive Address
  | ip (octets : Bytes)
  | domain (name : String)
  deriving DecidableEq

structure IpOrDomain where
  address : Option Address
  deriving DecidableEq

structure User where
  level : UInt32
  email : String
  account : Option TypedMessage
  deriving DecidableEq

structure ServerEndpoint where
  address : Option IpOrDomain
  port : UInt32
  user : List User
  deriving DecidableEq

/-! ## `xray.transport.internet` -/

structure TransportConfig where
  protocol : Int32
  settings : Option TypedMessage
  protocolName : String
  deriving DecidableEq

structure StreamConfig where
  protocol : Int32
  transportSettings : List TransportConfig
  securityType : String
  securitySettings : List TypedMessage
  protocolName : String
  socketSettings : Option Encoded
  deriving DecidableEq

structure RealityConfig where
  show' : Bool
  dest : String
  type : String
  xver : UInt64
  serverNames : List String
  privateKey : Bytes
  minClientVer : Bytes
  maxClientVer : Bytes
  maxTimeDiff : UInt64
  shortIds : List Bytes
  fingerprint : String
  serverName : String
  publicKey : Bytes
  shortId : Bytes
  spiderX : String
  spiderY : List Int64
  masterKeyLog : String
  deriving DecidableEq

/-! ## `xray.app.proxyman`, `xray.proxy.vless` and `xray.core` -/

structure SenderConfig where
  via : Option IpOrDomain
  streamSettings : Option StreamConfig
  proxySettings : Option Encoded
  multiplexSettings : Option Encoded
  viaCidr : String
  deriving DecidableEq

structure VlessAccount where
  id : String
  flow : String
  encryption : String
  deriving DecidableEq

structure VlessOutboundConfig where
  vnext : List ServerEndpoint
  deriving DecidableEq

structure OutboundHandlerConfig where
  tag : String
  senderSettings : Option TypedMessage
  proxySettings : Option TypedMessage
  expire : Int64
  comment : String
  deriving DecidableEq

/-- `encode_to_vec` and `decode` of the messages that stand inside a `TypedMessage`. -/
structure Prost where
  senderConfig : Codec SenderConfig
  realityConfig : Codec RealityConfig
  vlessAccount : Codec VlessAccount
  vlessOutboundConfig : Codec VlessOutboundConfig

/-- Decoding undoes encoding. -/
structure Prost.Undoes (prost : Prost) : Prop where
  senderConfig : prost.senderConfig.Undoes
  realityConfig : prost.realityConfig.Undoes
  vlessAccount : prost.vlessAccount.Undoes
  vlessOutboundConfig : prost.vlessOutboundConfig.Undoes

/-! ## The wire format -/

abbrev stringSlot : Slot String := single .string ""
abbrev bytesSlot : Slot Bytes := single .bytes []
abbrev uint32Slot : Slot UInt32 := single .uint32 0
abbrev uint64Slot : Slot UInt64 := single .uint64 0
abbrev int32Slot : Slot Int32 := single .int32 0

def TypedMessage.fields (m : TypedMessage) : List Field :=
  field stringSlot 1 m.type ++ field bytesSlot 2 m.value

def TypedMessage.ofFields (fields : List Field) : Option TypedMessage := do
  return { type := ← getField stringSlot 1 fields, value := ← getField bytesSlot 2 fields }

def typedMessageCodec : Codec TypedMessage := codecOf TypedMessage.fields TypedMessage.ofFields

theorem typedMessageCodec_undoes : typedMessageCodec.Undoes :=
  codecOf_undoes fun m => by simp [TypedMessage.fields, TypedMessage.ofFields, getField]

/-- The variants of a `oneof` have numbers of their own. -/
def IpOrDomain.fields (m : IpOrDomain) : List Field :=
  match m.address with
  | none => []
  | some (.ip octets) => [(1, .bytes octets)]
  | some (.domain name) => [(2, Kind.string.write name)]

def IpOrDomain.ofFields (fields : List Field) : Option IpOrDomain :=
  match (fields.filter fun (k, _) => k = 1 ∨ k = 2).getLast? with
  | none => some ⟨none⟩
  | some (1, v) => (Kind.bytes.read v).map fun octets => ⟨some (.ip octets)⟩
  | some (_, v) => (Kind.string.read v).map fun name => ⟨some (.domain name)⟩

def ipOrDomainCodec : Codec IpOrDomain := codecOf IpOrDomain.fields IpOrDomain.ofFields

theorem ipOrDomainCodec_undoes : ipOrDomainCodec.Undoes := by
  apply codecOf_undoes
  intro m
  obtain ⟨address⟩ := m
  cases address with
  | none => rfl
  | some address =>
    cases address with
    | ip octets => rfl
    | domain name =>
      have hread := Kind.string.read_write name
      have hlast : IpOrDomain.ofFields [(2, Kind.string.write name)] =
          (Kind.string.read (Kind.string.write name)).map fun name => ⟨some (.domain name)⟩ := rfl
      rw [IpOrDomain.fields, hlast, hread]
      rfl

abbrev typedMessageKind : Kind TypedMessage := .message typedMessageCodec typedMessageCodec_undoes
abbrev ipOrDomainKind : Kind IpOrDomain := .message ipOrDomainCodec ipOrDomainCodec_undoes

def User.fields (m : User) : List Field :=
  field uint32Slot 1 m.level ++ field stringSlot 2 m.email ++
    field (optional typedMessageKind) 3 m.account

def User.ofFields (fields : List Field) : Option User := do
  return {
    level := ← getField uint32Slot 1 fields
    email := ← getField stringSlot 2 fields
    account := ← getField (optional typedMessageKind) 3 fields }

def userCodec : Codec User := codecOf User.fields User.ofFields

theorem userCodec_undoes : userCodec.Undoes :=
  codecOf_undoes fun m => by simp [User.fields, User.ofFields, getField]

abbrev userKind : Kind User := .message userCodec userCodec_undoes

def ServerEndpoint.fields (m : ServerEndpoint) : List Field :=
  field (optional ipOrDomainKind) 1 m.address ++ field uint32Slot 2 m.port ++
    field (repeated userKind) 3 m.user

def ServerEndpoint.ofFields (fields : List Field) : Option ServerEndpoint := do
  return {
    address := ← getField (optional ipOrDomainKind) 1 fields
    port := ← getField uint32Slot 2 fields
    user := ← getField (repeated userKind) 3 fields }

def serverEndpointCodec : Codec ServerEndpoint :=
  codecOf ServerEndpoint.fields ServerEndpoint.ofFields

theorem serverEndpointCodec_undoes : serverEndpointCodec.Undoes :=
  codecOf_undoes fun m => by simp [ServerEndpoint.fields, ServerEndpoint.ofFields, getField]

abbrev serverEndpointKind : Kind ServerEndpoint :=
  .message serverEndpointCodec serverEndpointCodec_undoes

def TransportConfig.fields (m : TransportConfig) : List Field :=
  field int32Slot 1 m.protocol ++ field (optional typedMessageKind) 2 m.settings ++
    field stringSlot 3 m.protocolName

def TransportConfig.ofFields (fields : List Field) : Option TransportConfig := do
  return {
    protocol := ← getField int32Slot 1 fields
    settings := ← getField (optional typedMessageKind) 2 fields
    protocolName := ← getField stringSlot 3 fields }

def transportConfigCodec : Codec TransportConfig :=
  codecOf TransportConfig.fields TransportConfig.ofFields

theorem transportConfigCodec_undoes : transportConfigCodec.Undoes :=
  codecOf_undoes fun m => by simp [TransportConfig.fields, TransportConfig.ofFields, getField]

abbrev transportConfigKind : Kind TransportConfig :=
  .message transportConfigCodec transportConfigCodec_undoes

def StreamConfig.fields (m : StreamConfig) : List Field :=
  field int32Slot 1 m.protocol ++ field (repeated transportConfigKind) 2 m.transportSettings ++
    field stringSlot 3 m.securityType ++ field (repeated typedMessageKind) 4 m.securitySettings ++
    field stringSlot 5 m.protocolName ++ field (optional .bytes) 6 m.socketSettings

def StreamConfig.ofFields (fields : List Field) : Option StreamConfig := do
  return {
    protocol := ← getField int32Slot 1 fields
    transportSettings := ← getField (repeated transportConfigKind) 2 fields
    securityType := ← getField stringSlot 3 fields
    securitySettings := ← getField (repeated typedMessageKind) 4 fields
    protocolName := ← getField stringSlot 5 fields
    socketSettings := ← getField (optional .bytes) 6 fields }

def streamConfigCodec : Codec StreamConfig := codecOf StreamConfig.fields StreamConfig.ofFields

theorem streamConfigCodec_undoes : streamConfigCodec.Undoes :=
  codecOf_undoes fun m => by simp [StreamConfig.fields, StreamConfig.ofFields, getField]

abbrev streamConfigKind : Kind StreamConfig := .message streamConfigCodec streamConfigCodec_undoes

def RealityConfig.fields (m : RealityConfig) : List Field :=
  field (single .bool false) 1 m.show' ++ field stringSlot 2 m.dest ++ field stringSlot 3 m.type ++
    field uint64Slot 4 m.xver ++ field (repeated .string) 5 m.serverNames ++
    field bytesSlot 6 m.privateKey ++ field bytesSlot 7 m.minClientVer ++
    field bytesSlot 8 m.maxClientVer ++ field uint64Slot 9 m.maxTimeDiff ++
    field (repeated .bytes) 10 m.shortIds ++ field stringSlot 21 m.fingerprint ++
    field stringSlot 22 m.serverName ++ field bytesSlot 23 m.publicKey ++
    field bytesSlot 24 m.shortId ++ field stringSlot 25 m.spiderX ++
    field (single .packed []) 26 m.spiderY ++ field stringSlot 27 m.masterKeyLog

def RealityConfig.ofFields (fields : List Field) : Option RealityConfig := do
  return {
    show' := ← getField (single .bool false) 1 fields
    dest := ← getField stringSlot 2 fields
    type := ← getField stringSlot 3 fields
    xver := ← getField uint64Slot 4 fields
    serverNames := ← getField (repeated .string) 5 fields
    privateKey := ← getField bytesSlot 6 fields
    minClientVer := ← getField bytesSlot 7 fields
    maxClientVer := ← getField bytesSlot 8 fields
    maxTimeDiff := ← getField uint64Slot 9 fields
    shortIds := ← getField (repeated .bytes) 10 fields
    fingerprint := ← getField stringSlot 21 fields
    serverName := ← getField stringSlot 22 fields
    publicKey := ← getField bytesSlot 23 fields
    shortId := ← getField bytesSlot 24 fields
    spiderX := ← getField stringSlot 25 fields
    spiderY := ← getField (single .packed []) 26 fields
    masterKeyLog := ← getField stringSlot 27 fields }

def realityConfigCodec : Codec RealityConfig := codecOf RealityConfig.fields RealityConfig.ofFields

theorem realityConfigCodec_undoes : realityConfigCodec.Undoes :=
  codecOf_undoes fun m => by simp [RealityConfig.fields, RealityConfig.ofFields, getField]

def SenderConfig.fields (m : SenderConfig) : List Field :=
  field (optional ipOrDomainKind) 1 m.via ++ field (optional streamConfigKind) 2 m.streamSettings ++
    field (optional .bytes) 3 m.proxySettings ++ field (optional .bytes) 4 m.multiplexSettings ++
    field stringSlot 5 m.viaCidr

def SenderConfig.ofFields (fields : List Field) : Option SenderConfig := do
  return {
    via := ← getField (optional ipOrDomainKind) 1 fields
    streamSettings := ← getField (optional streamConfigKind) 2 fields
    proxySettings := ← getField (optional .bytes) 3 fields
    multiplexSettings := ← getField (optional .bytes) 4 fields
    viaCidr := ← getField stringSlot 5 fields }

def senderConfigCodec : Codec SenderConfig := codecOf SenderConfig.fields SenderConfig.ofFields

theorem senderConfigCodec_undoes : senderConfigCodec.Undoes :=
  codecOf_undoes fun m => by simp [SenderConfig.fields, SenderConfig.ofFields, getField]

def VlessAccount.fields (m : VlessAccount) : List Field :=
  field stringSlot 1 m.id ++ field stringSlot 2 m.flow ++ field stringSlot 3 m.encryption

def VlessAccount.ofFields (fields : List Field) : Option VlessAccount := do
  return {
    id := ← getField stringSlot 1 fields
    flow := ← getField stringSlot 2 fields
    encryption := ← getField stringSlot 3 fields }

def vlessAccountCodec : Codec VlessAccount := codecOf VlessAccount.fields VlessAccount.ofFields

theorem vlessAccountCodec_undoes : vlessAccountCodec.Undoes :=
  codecOf_undoes fun m => by simp [VlessAccount.fields, VlessAccount.ofFields, getField]

def VlessOutboundConfig.fields (m : VlessOutboundConfig) : List Field :=
  field (repeated serverEndpointKind) 1 m.vnext

def VlessOutboundConfig.ofFields (fields : List Field) : Option VlessOutboundConfig := do
  return { vnext := ← getField (repeated serverEndpointKind) 1 fields }

def vlessOutboundConfigCodec : Codec VlessOutboundConfig :=
  codecOf VlessOutboundConfig.fields VlessOutboundConfig.ofFields

theorem vlessOutboundConfigCodec_undoes : vlessOutboundConfigCodec.Undoes :=
  codecOf_undoes fun m => by
    simp [VlessOutboundConfig.fields, VlessOutboundConfig.ofFields, getField]

/-- The wire format of all of them. -/
def wire : Prost where
  senderConfig := senderConfigCodec
  realityConfig := realityConfigCodec
  vlessAccount := vlessAccountCodec
  vlessOutboundConfig := vlessOutboundConfigCodec

theorem wire_undoes : wire.Undoes where
  senderConfig := senderConfigCodec_undoes
  realityConfig := realityConfigCodec_undoes
  vlessAccount := vlessAccountCodec_undoes
  vlessOutboundConfig := vlessOutboundConfigCodec_undoes

end Bimarz.Engine
