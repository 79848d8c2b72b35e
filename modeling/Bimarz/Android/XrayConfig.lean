import Bimarz.Xray.Config

/-!
# The configuration that the Android app writes for xray-core (`vpn/XrayConfigBuilder.kt`)

The document of `XrayConfigBuilder.build`, as a record for each of its objects. The DNS section and
the DNS rule come from `dns_guard.rs`, as they do on the desktop.
-/

namespace Bimarz.Android.XrayConfigBuilder

open Xray (DnsSection RoutingRule)

def activeOutboundTag : String := "bimarz-active"
def socksInboundTag : String := "socks-in"
def apiInboundTag : String := "api-in"

structure Ports where
  socksPort : ℕ
  apiPort : ℕ
  deriving DecidableEq

structure Api where
  tag : String
  services : List String
  deriving DecidableEq

structure SystemPolicy where
  statsOutboundUplink : Bool
  statsOutboundDownlink : Bool
  deriving DecidableEq

/-- The settings are those of the protocol. -/
structure Inbound where
  tag : String
  listen : String
  port : ℕ
  protocol : String
  udp : Option Bool := none
  address : Option String := none
  deriving DecidableEq

structure Config where
  loglevel : String
  dns : DnsSection
  api : Api
  policy : SystemPolicy
  inbounds : List Inbound
  outbounds : List Xray.Outbound
  rules : List RoutingRule
  deriving DecidableEq

/-- The comment in the source: an initial placeholder, to be replaced by the real outbound. -/
def placeholder : Xray.Outbound := ⟨"freedom", activeOutboundTag⟩

def build (ports : Ports) : Config where
  loglevel := "warning"
  dns := Xray.buildDnsConfigJson .default
  api := { tag := "api", services := ["HandlerService", "StatsService"] }
  policy := { statsOutboundUplink := true, statsOutboundDownlink := true }
  inbounds := [
    { tag := socksInboundTag, listen := "127.0.0.1", port := ports.socksPort, protocol := "socks",
      udp := some true },
    { tag := apiInboundTag, listen := "127.0.0.1", port := ports.apiPort,
      protocol := "dokodemo-door", address := some "127.0.0.1" }]
  outbounds := [placeholder, ⟨"dns", "dns-out"⟩, ⟨"freedom", "direct"⟩, ⟨"blackhole", "block"⟩]
  rules := [
    Xray.buildDnsRoutingRuleJson "dns-out",
    { type := "field", inboundTag := some [apiInboundTag], outboundTag := "api" },
    { type := "field", inboundTag := some [socksInboundTag], outboundTag := activeOutboundTag }]

end Bimarz.Android.XrayConfigBuilder
