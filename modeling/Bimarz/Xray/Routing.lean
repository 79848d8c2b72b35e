import Bimarz.Xray.Config

/-!
# Where xray-core sends a connection

xray-core is a parameter: a record of functions with what the configuration relies on as their
hypotheses. `Core.Routes` is its routing (the first rule that matches decides, and a rule that
names no registered outbound falls back to the first outbound of the configuration); `carrier_socks`
evaluates it on the configurations that `build_connect_config` writes.
-/

namespace Bimarz.Xray

/-! ## Rules -/

inductive Network
  | tcp
  | udp
  deriving DecidableEq, Repr

def Network.name : Network → String
  | tcp => "tcp"
  | udp => "udp"

/-- A connection that an inbound has accepted. -/
structure Connection where
  inboundTag : String
  address : String
  port : ℕ
  network : Network
  deriving DecidableEq, Repr

def decimal (digits : List Char) : Option ℕ :=
  if digits.isEmpty then none
  else digits.foldlM (fun n c => if c.isDigit then some (10 * n + (c.toNat - 48)) else none) 0

/-- A port is on a list of ports and port ranges. -/
def inPorts (text : String) (port : ℕ) : Bool :=
  (text.toList.splitOn ',').any fun item =>
    match (item.splitOn '-').map decimal with
    | [some n] => port = n
    | [some first, some last] => first ≤ port ∧ port ≤ last
    | _ => false

def inNetworks (text : String) (network : Network) : Bool :=
  (text.toList.splitOn ',').contains network.name.toList

/-- A rule matches if each of its conditions does. -/
def RoutingRule.Matches (rule : RoutingRule) (conn : Connection) : Bool :=
  rule.inboundTag.all (fun tags => conn.inboundTag ∈ tags) &&
    rule.port.all (fun text => inPorts text conn.port) &&
    rule.network.all fun text => inNetworks text conn.network

/-! ## xray-core -/

/-- A connection to the outside: carried by an outbound, or dialled past the routing. -/
inductive Exit
  | outbound (tag : String)
  | direct
  deriving DecidableEq, Repr

/-- xray-core with a configuration and the tags of the registered outbounds. -/
structure Core where
  /-- the outbound that carries a connection -/
  carrier : ConnectConfig → List String → Connection → String
  /-- the DNS servers that are asked when a `dns` outbound carries it -/
  asks : DnsSection → Connection → List String
  /-- the connection that asks a server, where it is routed -/
  query : DnsSection → String → Connection
  /-- the connections to the outside that it causes -/
  exits : ConnectConfig → List String → Connection → List Exit

/-- The routing of xray-core. -/
structure Core.Routes (core : Core) : Prop where
  matched : ∀ config registered conn rule, config.rules.find? (·.Matches conn) = some rule →
    rule.outboundTag ∈ registered → core.carrier config registered conn = rule.outboundTag
  unregistered : ∀ config registered conn rule, config.rules.find? (·.Matches conn) = some rule →
    rule.outboundTag ∉ registered → ∀ first rest, config.outbounds = first :: rest →
      core.carrier config registered conn = first.tag
  unmatched : ∀ config registered conn, config.rules.find? (·.Matches conn) = none →
    ∀ first rest, config.outbounds = first :: rest →
      core.carrier config registered conn = first.tag

/-- The scheme of a server's URL. -/
def scheme (url : String) : List Char := url.toList.takeWhile (· ≠ ':')

/-- A server that is dialled past the routing. -/
def isLocal (url : String) : Bool := "+local".toList.isSuffixOf (scheme url)

/-- The outbound with this tag is a `dns` outbound. -/
def ConnectConfig.answersDns (config : ConnectConfig) (tag : String) : Bool :=
  config.outbounds.any fun outbound => outbound.tag = tag && outbound.protocol = "dns"

/-- How a DNS server is reached, where `carrier` routes the connection `query` to it. -/
def serverExit (carrier : Connection → String) (query : Connection) (server : String) : Exit :=
  if isLocal server then .direct else .outbound (carrier query)

/-- The connections that xray-core opens. -/
structure Core.Dials (core : Core) : Prop where
  carried : ∀ config registered conn,
    config.answersDns (core.carrier config registered conn) = false →
      core.exits config registered conn = [.outbound (core.carrier config registered conn)]
  answered : ∀ config registered conn dns,
    config.answersDns (core.carrier config registered conn) = true → config.dns = some dns →
      core.exits config registered conn = (core.asks dns conn).map fun server =>
        serverExit (core.carrier config registered) (core.query dns server) server
  asked : ∀ dns conn, ∀ server ∈ core.asks dns conn, server ∈ dns.servers
  some_asked : ∀ dns conn, dns.servers ≠ [] → core.asks dns conn ≠ []

/-- The registered outbounds: those of the configuration, and the active one while it is there. -/
def ConnectConfig.registered (config : ConnectConfig) (active : Bool) : List String :=
  config.outbounds.map Outbound.tag ++ if active then [activeOutboundTag] else []

/-! ## The built configurations -/

section Built

variable {config : ConnectConfig} {guard : Bool} {conn : Connection}

theorem inPorts_dns (port : ℕ) : inPorts "53" port = decide (port = 53) := by
  show (decide (port = 53) || false) = _
  exact Bool.or_false _

theorem inNetworks_dns (network : Network) : inNetworks "udp,tcp" network = true := by
  cases network <;> decide

theorem dnsRule_matches (tag : String) (conn : Connection) :
    (buildDnsRoutingRuleJson tag).Matches conn = decide (conn.port = 53) := by
  show (true && inPorts "53" conn.port && inNetworks "udp,tcp" conn.network) = _
  rw [inPorts_dns, inNetworks_dns, Bool.true_and, Bool.and_true]

theorem socksRule_matches (h : conn.inboundTag = "socks-in") : socksRule.Matches conn = true := by
  show (decide (conn.inboundTag ∈ ["socks-in"]) && true && true) = true
  simp [h]

theorem ConnectConfig.Built.mem_registered (h : config.Built guard) (active : Bool) :
    activeOutboundTag ∈ config.registered active ↔ active = true := by
  unfold ConnectConfig.registered
  rw [h.outbounds]
  cases guard <;> cases active <;> decide

theorem ConnectConfig.Built.dnsOut_registered (h : config.Built true) (active : Bool) :
    "dns-out" ∈ config.registered active := by
  unfold ConnectConfig.registered
  rw [h.outbounds]
  cases active <;> decide

/-- The rule that decides about a connection of the SOCKS inbound. -/
theorem ConnectConfig.Built.find?_rules (h : config.Built guard) (hconn : conn.inboundTag = "socks-in") :
    config.rules.find? (·.Matches conn) =
      if guard = true ∧ conn.port = 53 then some (buildDnsRoutingRuleJson "dns-out")
      else some socksRule := by
  rw [h.rules]
  cases guard with
  | false => simp [socksRule_matches hconn]
  | true =>
    by_cases hport : conn.port = 53
    · simp [dnsRule_matches, hport]
    · simp [dnsRule_matches, socksRule_matches hconn, hport]

/-- **A SOCKS connection** goes to the DNS outbound if the guard is on and its port is 53, otherwise
to the active outbound, and to the placeholder where that is not registered. -/
theorem carrier_socks {core : Core} (hcore : core.Routes) (h : config.Built guard)
    (hconn : conn.inboundTag = "socks-in") (active : Bool) :
    core.carrier config (config.registered active) conn =
      if guard = true ∧ conn.port = 53 then "dns-out"
      else if active = true then activeOutboundTag else "placeholder" := by
  have hrule := h.find?_rules hconn
  split at hrule
  · next hguard =>
    obtain ⟨rfl, hport⟩ := hguard
    rw [if_pos ⟨rfl, hport⟩]
    exact hcore.matched _ _ _ _ hrule (h.dnsOut_registered active)
  · next hguard =>
    rw [if_neg hguard]
    by_cases hactive : active = true
    · rw [if_pos hactive]
      exact hcore.matched _ _ _ _ hrule ((h.mem_registered active).mpr hactive)
    · rw [if_neg hactive]
      exact hcore.unregistered _ _ _ _ hrule (mt (h.mem_registered active).mp hactive) _ _
        h.outbounds

/-- The placeholder carries what no other outbound is there for. -/
theorem carrier_placeholder_iff {core : Core} (hcore : core.Routes) (h : config.Built guard)
    (hconn : conn.inboundTag = "socks-in") (active : Bool) :
    core.carrier config (config.registered active) conn = "placeholder" ↔
      active = false ∧ ¬(guard = true ∧ conn.port = 53) := by
  rw [carrier_socks hcore h hconn]
  by_cases hguard : guard = true ∧ conn.port = 53
  · rw [if_pos hguard]
    exact iff_of_false (by decide) fun h => h.2 hguard
  · rw [if_neg hguard]
    cases active with
    | false => exact iff_of_true rfl ⟨rfl, hguard⟩
    | true => exact iff_of_false (by decide) fun h => Bool.noConfusion h.1

end Built

/-! ## A reference -/

/-- The outbound that a list of rules chooses. -/
def firstMatch (config : ConnectConfig) (registered : List String) (conn : Connection) : String :=
  let first := (config.outbounds.map Outbound.tag).headD ""
  match config.rules.find? (·.Matches conn) with
  | some rule => if rule.outboundTag ∈ registered then rule.outboundTag else first
  | none => first

/-- An xray-core that asks every DNS server, over port 443. -/
def reference : Core where
  carrier := firstMatch
  asks dns _ := dns.servers
  query dns _ := ⟨dns.tag, "1.1.1.1", 443, .tcp⟩
  exits config registered conn :=
    match config.answersDns (firstMatch config registered conn), config.dns with
    | true, some dns => dns.servers.map fun server =>
      serverExit (firstMatch config registered) ⟨dns.tag, "1.1.1.1", 443, .tcp⟩ server
    | true, none => []
    | false, _ => [.outbound (firstMatch config registered conn)]

theorem reference_routes : reference.Routes where
  matched config registered conn rule hrule hmem := by
    show firstMatch config registered conn = _
    unfold firstMatch
    rw [hrule]
    exact if_pos hmem
  unregistered config registered conn rule hrule hmem first rest hfirst := by
    show firstMatch config registered conn = _
    unfold firstMatch
    rw [hrule, hfirst]
    exact if_neg hmem
  unmatched config registered conn hrule first rest hfirst := by
    show firstMatch config registered conn = _
    unfold firstMatch
    rw [hrule, hfirst]
    rfl

theorem reference_dials : reference.Dials where
  carried config registered conn h := by
    change config.answersDns (firstMatch config registered conn) = false at h
    show (match config.answersDns (firstMatch config registered conn), config.dns with
      | true, some dns => _
      | true, none => _
      | false, _ => _) = _
    rw [h]
    rfl
  answered config registered conn dns h hdns := by
    change config.answersDns (firstMatch config registered conn) = true at h
    show (match config.answersDns (firstMatch config registered conn), config.dns with
      | true, some dns => _
      | true, none => _
      | false, _ => _) = _
    rw [h, hdns]
    rfl
  asked _ _ _ h := h
  some_asked _ _ h := h

/-! ## DNS -/

section Dns

variable {config : ConnectConfig} {conn : Connection}

theorem ConnectConfig.Built.answersDns (h : config.Built true) (tag : String) :
    config.answersDns tag = decide (tag = "dns-out") := by
  unfold ConnectConfig.answersDns
  rw [h.outbounds]
  simp [placeholder, dnsOut, eq_comm]

/-- **Inside the tunnel.** While the active outbound is registered, every connection that xray-core
opens for a SOCKS connection is carried by it, except where the port is 53: the one DNS server of
the configuration is `+local`, so it is dialled past the tunnel. -/
theorem exits_active_iff {core : Core} (hroutes : core.Routes) (hdials : core.Dials)
    {engineCore : Option Exc} {grpcEndpoint : String} {localSocksPort : ℤ}
    (hbuild : buildConnectConfig engineCore grpcEndpoint localSocksPort true = .ok config)
    (hconn : conn.inboundTag = "socks-in") :
    (∀ exit ∈ core.exits config (config.registered true) conn, exit = .outbound activeOutboundTag) ↔
      conn.port ≠ 53 := by
  have hbuilt := built_of_buildConnectConfig hbuild
  have hcarrier := carrier_socks hroutes hbuilt hconn true
  by_cases hport : conn.port = 53
  · rw [if_pos ⟨rfl, hport⟩] at hcarrier
    have hdns : config.answersDns (core.carrier config (config.registered true) conn) = true := by
      rw [hcarrier, hbuilt.answersDns]
      rfl
    have hexits := hdials.answered _ _ _ _ hdns hbuilt.dns
    obtain ⟨server, hserver⟩ := List.exists_mem_of_ne_nil _
      (hdials.some_asked (buildDnsConfigJson .default) conn (List.cons_ne_nil _ _))
    obtain rfl : server = _ := List.mem_singleton.mp (hdials.asked _ _ _ hserver)
    have hdirect : .direct ∈ core.exits config (config.registered true) conn := by
      rw [hexits]
      exact List.mem_map.mpr ⟨_, hserver, if_pos (by decide)⟩
    refine iff_of_false (fun hall => ?_) fun h => h hport
    exact Exit.noConfusion (hall _ hdirect)
  · rw [if_neg fun h => hport h.2, if_pos rfl] at hcarrier
    have hdns : config.answersDns (core.carrier config (config.registered true) conn) = false := by
      rw [hcarrier, hbuilt.answersDns]
      rfl
    have hexits := hdials.carried _ _ _ hdns
    refine iff_of_true (fun exit hexit => ?_) hport
    rw [hexits, hcarrier] at hexit
    exact List.mem_singleton.mp hexit

/-- The configuration of a connection, with the compiled extension. -/
def connectConfig : ConnectConfig where
  loglevel := "warning"
  api := ⟨"api", "127.0.0.1:10085", ["HandlerService", "StatsService"]⟩
  policy := ⟨true, true, true, true⟩
  inbounds := [socksIn 1080]
  outbounds := [placeholder, dnsOut]
  dns := some (buildDnsConfigJson .default)
  rules := [buildDnsRoutingRuleJson "dns-out", socksRule]

theorem buildConnectConfig_default :
    buildConnectConfig none defaultGrpcEndpoint defaultLocalSocksPort true = .ok connectConfig := by
  decide

/-- A connection to a web server stays inside. -/
theorem exits_active_web :
    (∀ exit ∈ reference.exits connectConfig (connectConfig.registered true)
      ⟨"socks-in", "example.org", 443, .tcp⟩, exit = .outbound activeOutboundTag) ↔ 443 ≠ 53 :=
  exits_active_iff reference_routes reference_dials buildConnectConfig_default rfl

/-- **A DNS query** over UDP leaves xray-core past the tunnel. -/
theorem exits_dns_direct :
    ¬∀ (core : Core), core.Routes → core.Dials → ∀ (config : ConnectConfig) (conn : Connection),
      buildConnectConfig none defaultGrpcEndpoint defaultLocalSocksPort true = .ok config →
      conn.inboundTag = "socks-in" →
      ∀ exit ∈ core.exits config (config.registered true) conn, exit = .outbound activeOutboundTag := by
  intro h
  have := h reference reference_routes reference_dials connectConfig
    ⟨"socks-in", "9.9.9.9", 53, .udp⟩ buildConnectConfig_default rfl .direct (by decide)
  cases this

end Dns

end Bimarz.Xray
