import Bimarz.Effect.Except
import Bimarz.Models

/-!
# The configuration of xray-core (`xray_config.py`, `dns_leak_guard.py`, `dns_guard.rs`)

The document that `build_connect_config` writes, as a record for each of its objects. A key that
may be absent is an option.
-/

namespace Bimarz.Xray

/-! ## The document -/

structure Api where
  tag : String
  listen : String
  services : List String
  deriving DecidableEq, Repr

structure SystemPolicy where
  statsInboundUplink : Bool
  statsInboundDownlink : Bool
  statsOutboundUplink : Bool
  statsOutboundDownlink : Bool
  deriving DecidableEq, Repr

structure Inbound where
  listen : String
  port : ℤ
  protocol : String
  auth : String
  tag : String
  deriving DecidableEq, Repr

structure Outbound where
  protocol : String
  tag : String
  deriving DecidableEq, Repr

structure DnsSection where
  servers : List String
  queryStrategy : String
  tag : String
  deriving DecidableEq, Repr

structure RoutingRule where
  type : String
  port : Option String := none
  network : Option String := none
  inboundTag : Option (List String) := none
  outboundTag : String
  deriving DecidableEq, Repr

structure ConnectConfig where
  loglevel : String
  api : Api
  policy : SystemPolicy
  inbounds : List Inbound
  outbounds : List Outbound
  dns : Option DnsSection
  rules : List RoutingRule
  deriving DecidableEq, Repr

/-! ## `dns_guard.rs` -/

structure DnsGuardConfig where
  dohServer : String
  queryStrategy : String
  tag : String

/-- `DnsGuardConfig::default`. -/
def DnsGuardConfig.default : DnsGuardConfig where
  dohServer := "https+local://1.1.1.1/dns-query"
  queryStrategy := "UseIP"
  tag := "dns-out"

def buildDnsConfigJson (config : DnsGuardConfig) : DnsSection where
  servers := [config.dohServer]
  queryStrategy := config.queryStrategy
  tag := config.tag

def buildDnsRoutingRuleJson (dnsTag : String) : RoutingRule where
  type := "field"
  port := some "53"
  network := some "udp,tcp"
  outboundTag := dnsTag

/-! ## `dns_leak_guard.py` -/

/-- What the import of the compiled extension raises, if anything; only an `EngineNotBuiltError`
is replaced by the values written out in Python. -/
def withEngineCore {α : Type} (engineCore : Option Exc) (compiled written : α) : Except Exc α :=
  match engineCore with
  | none => .ok compiled
  | some (.error .engineNotBuilt _) => .ok written
  | some e => .error e

def getDefaultDnsGuardConfig (engineCore : Option Exc) : Except Exc DnsSection :=
  withEngineCore engineCore (buildDnsConfigJson .default) {
    servers := ["https+local://1.1.1.1/dns-query"]
    queryStrategy := "UseIP"
    tag := "dns-out" }

def getDnsRoutingRule (engineCore : Option Exc) : Except Exc RoutingRule :=
  withEngineCore engineCore (buildDnsRoutingRuleJson "dns-out") {
    type := "field"
    port := some "53"
    network := some "udp,tcp"
    outboundTag := "dns-out" }

/-! ## `xray_config.py` -/

/-- `_grpc_listen_address`. -/
def grpcListenAddress (grpcEndpoint : String) : Except Exc String :=
  let endpoint := Python.strip grpcEndpoint
  if endpoint.isEmpty then .error (.error .valueError "grpc_endpoint must not be empty")
  else .ok (Python.removeStart (Python.removeStart endpoint "http://") "https://")

def socksIn (localSocksPort : ℤ) : Inbound where
  listen := "127.0.0.1"
  port := localSocksPort
  protocol := "socks"
  auth := "noauth"
  tag := "socks-in"

def placeholder : Outbound := ⟨"freedom", "placeholder"⟩

def dnsOut : Outbound := ⟨"dns", "dns-out"⟩

def socksRule : RoutingRule where
  type := "field"
  inboundTag := some ["socks-in"]
  outboundTag := activeOutboundTag

/-- `build_connect_config`. -/
def buildConnectConfig (engineCore : Option Exc) (grpcEndpoint : String) (localSocksPort : ℤ)
    (enableDnsGuard : Bool) : Except Exc ConnectConfig := do
  if ¬(1 ≤ localSocksPort ∧ localSocksPort ≤ 65535) then
    throw (.error .valueError "local_socks_port must be between 1 and 65535")
  else
    let listen ← grpcListenAddress grpcEndpoint
    let dns ← guarded (getDefaultDnsGuardConfig engineCore)
    let dnsRule ← guarded (getDnsRoutingRule engineCore)
    return {
      loglevel := "warning"
      api := { tag := "api", listen, services := ["HandlerService", "StatsService"] }
      policy := {
        statsInboundUplink := true
        statsInboundDownlink := true
        statsOutboundUplink := true
        statsOutboundDownlink := true }
      inbounds := [socksIn localSocksPort]
      outbounds := placeholder :: if enableDnsGuard then [dnsOut] else []
      dns
      rules := dnsRule.toList ++ [socksRule] }
where
  /-- A part that is only built if the guard is enabled. -/
  guarded {α : Type} (part : Except Exc α) : Except Exc (Option α) :=
    if enableDnsGuard then part.map some else .ok none

/-- The DNS section and the DNS rule that every configuration with a guard has. -/
structure ConnectConfig.Built (config : ConnectConfig) (guard : Bool) : Prop where
  outbounds : config.outbounds = placeholder :: if guard then [dnsOut] else []
  dns : config.dns = if guard then some (buildDnsConfigJson .default) else none
  rules : config.rules =
    (if guard then [buildDnsRoutingRuleJson "dns-out"] else []) ++ [socksRule]

/-- The compiled extension and the Python fallback agree. -/
theorem withEngineCore_ok {α : Type} {engineCore : Option Exc} {compiled a : α}
    (h : withEngineCore engineCore compiled compiled = .ok a) : a = compiled := by
  unfold withEngineCore at h
  split at h
  · exact (Except.ok.inj h).symm
  · exact (Except.ok.inj h).symm
  · cases h

theorem getDefaultDnsGuardConfig_ok {engineCore : Option Exc} {dns : DnsSection}
    (h : getDefaultDnsGuardConfig engineCore = .ok dns) : dns = buildDnsConfigJson .default :=
  withEngineCore_ok h

theorem getDnsRoutingRule_ok {engineCore : Option Exc} {rule : RoutingRule}
    (h : getDnsRoutingRule engineCore = .ok rule) : rule = buildDnsRoutingRuleJson "dns-out" :=
  withEngineCore_ok h

/-- **What is built** does not depend on the endpoint, the port or the extension. -/
theorem built_of_buildConnectConfig {engineCore : Option Exc} {grpcEndpoint : String}
    {localSocksPort : ℤ} {guard : Bool} {config : ConnectConfig}
    (h : buildConnectConfig engineCore grpcEndpoint localSocksPort guard = .ok config) :
    config.Built guard := by
  unfold buildConnectConfig at h
  split at h
  · cases h
  cases hlisten : grpcListenAddress grpcEndpoint with
  | error e =>
    rw [hlisten] at h
    cases h
  | ok listen =>
    rw [hlisten] at h
    cases guard with
    | false =>
      cases h
      exact ⟨rfl, rfl, rfl⟩
    | true =>
      cases hdns : getDefaultDnsGuardConfig engineCore with
      | error e =>
        rw [hdns] at h
        cases h
      | ok dns =>
        rw [hdns] at h
        cases hrule : getDnsRoutingRule engineCore with
        | error e =>
          rw [hrule] at h
          cases h
        | ok rule =>
          rw [hrule] at h
          cases h
          rw [getDefaultDnsGuardConfig_ok hdns, getDnsRoutingRule_ok hrule]
          exact ⟨rfl, rfl, rfl⟩

/-- The address in the configuration is that of the endpoint. -/
theorem listen_of_buildConnectConfig {engineCore : Option Exc} {grpcEndpoint : String}
    {localSocksPort : ℤ} {guard : Bool} {config : ConnectConfig}
    (h : buildConnectConfig engineCore grpcEndpoint localSocksPort guard = .ok config) :
    grpcListenAddress grpcEndpoint = .ok config.api.listen := by
  unfold buildConnectConfig at h
  split at h
  · cases h
  obtain ⟨listen, hlisten, h⟩ := Effect.bind_eq_ok_iff.mp h
  obtain ⟨dns, -, h⟩ := Effect.bind_eq_ok_iff.mp h
  obtain ⟨dnsRule, -, h⟩ := Effect.bind_eq_ok_iff.mp h
  cases h
  exact hlisten

end Bimarz.Xray
