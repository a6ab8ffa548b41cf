import Turbobond.Config.Model
import Turbobond.Lib.Codec

/-!
# Configurations as trees

`model_dump` writes a configuration as a tree, and `model_validate` reads one, as far as the types
of the fields go: a field is read as its type asks, and has its default where it is not given.
Fields that no model has are passed over.
-/

namespace Turbobond.Config

/-! ### The fields' types -/

def schemeCodec : Codec Scheme where
  dump
    | .http => .str "http"
    | .https => .str "https"
  read
    | .str s => if s = "http" then some .http else if s = "https" then some .https else none
    | _ => none
  read_dump s := by cases s <;> rfl

def routeNameCodec : Codec RouteName where
  dump
    | .direct => .str "direct"
    | .shadow => .str "shadow"
  read
    | .str s => if s = "direct" then some .direct else if s = "shadow" then some .shadow else none
    | _ => none
  read_dump s := by cases s <;> rfl

/-- `tuple[int, int, int]`. -/
def triple (l : Lax) : Codec (ℤ × ℤ × ℤ) where
  dump t := .list [l.int.dump t.1, l.int.dump t.2.1, l.int.dump t.2.2]
  read v := do
    match ← l.readList v with
    | [a, b, c] => return (← l.int.read a, ← l.int.read b, ← l.int.read c)
    | _ => none
  read_dump t := by simp

/-! ### The models -/

def RouterConfig.codec (l : Lax) : Codec RouterConfig where
  dump c := .dict [
    ("model", l.str.dump c.model), ("host", l.str.dump c.host), ("scheme", schemeCodec.dump c.scheme),
    ("password", l.str.dump c.password), ("username", l.str.dump c.username),
    ("verify_tls", l.bool.dump c.verifyTls), ("timeout_s", l.float.dump c.timeoutS),
    ("manage", l.bool.dump c.manage), ("additional_hosts", (l.list l.str).dump c.additionalHosts)]
  read v := do
    let f ← l.readDict v
    let d : RouterConfig := {}
    return {
      model := ← l.str.field f "model" d.model
      host := ← l.str.field f "host" d.host
      scheme := ← schemeCodec.field f "scheme" d.scheme
      password := ← l.str.field f "password" d.password
      username := ← l.str.field f "username" d.username
      verifyTls := ← l.bool.field f "verify_tls" d.verifyTls
      timeoutS := ← l.float.field f "timeout_s" d.timeoutS
      manage := ← l.bool.field f "manage" d.manage
      additionalHosts := ← (l.list l.str).field f "additional_hosts" d.additionalHosts }
  read_dump c := by
    refine l.bind_readDict.trans ?_
    repeat refine (Codec.bind_field rfl).trans ?_
    rfl

def OptimizationConfig.codec (l : Lax) : Codec OptimizationConfig where
  dump c := .dict [
    ("profile", l.str.dump c.profile), ("turbo", l.bool.dump c.turbo),
    ("search", l.bool.dump c.search), ("search_interval_s", l.float.dump c.searchIntervalS),
    ("congestion_control", l.str.dump c.congestionControl), ("qdisc", l.str.dump c.qdisc),
    ("wan_mtu", l.int.dump c.wanMtu), ("tcp_rmem", (triple l).dump c.tcpRmem),
    ("tcp_wmem", (triple l).dump c.tcpWmem), ("clamp_mss", l.bool.dump c.clampMss),
    ("prefer_5ghz", l.bool.dump c.prefer5ghz), ("band_search", l.bool.dump c.bandSearch)]
  read v := do
    let f ← l.readDict v
    let d : OptimizationConfig := {}
    return {
      profile := ← l.str.field f "profile" d.profile
      turbo := ← l.bool.field f "turbo" d.turbo
      search := ← l.bool.field f "search" d.search
      searchIntervalS := ← l.float.field f "search_interval_s" d.searchIntervalS
      congestionControl := ← l.str.field f "congestion_control" d.congestionControl
      qdisc := ← l.str.field f "qdisc" d.qdisc
      wanMtu := ← l.int.field f "wan_mtu" d.wanMtu
      tcpRmem := ← (triple l).field f "tcp_rmem" d.tcpRmem
      tcpWmem := ← (triple l).field f "tcp_wmem" d.tcpWmem
      clampMss := ← l.bool.field f "clamp_mss" d.clampMss
      prefer5ghz := ← l.bool.field f "prefer_5ghz" d.prefer5ghz
      bandSearch := ← l.bool.field f "band_search" d.bandSearch }
  read_dump c := by
    refine l.bind_readDict.trans ?_
    repeat refine (Codec.bind_field rfl).trans ?_
    rfl

def LinkConfig.codec (l : Lax) : Codec LinkConfig where
  dump c := .dict [
    ("name", l.str.dump c.name), ("interface", l.str.dump c.interface),
    ("gateway", l.str.dump c.gateway), ("weight", l.float.dump c.weight),
    ("uplink_mbps", l.float.dump c.uplinkMbps), ("downlink_mbps", l.float.dump c.downlinkMbps),
    ("metered", l.bool.dump c.metered), ("enabled", l.bool.dump c.enabled),
    ("table_id", l.int.dump c.tableId)]
  read v := do
    let f ← l.readDict v
    let name ← l.str.required f "name"
    let interface ← l.str.required f "interface"
    let d : LinkConfig := { name, interface }
    return { d with
      gateway := ← l.str.field f "gateway" d.gateway
      weight := ← l.float.field f "weight" d.weight
      uplinkMbps := ← l.float.field f "uplink_mbps" d.uplinkMbps
      downlinkMbps := ← l.float.field f "downlink_mbps" d.downlinkMbps
      metered := ← l.bool.field f "metered" d.metered
      enabled := ← l.bool.field f "enabled" d.enabled
      tableId := ← l.int.field f "table_id" d.tableId }
  read_dump c := by
    refine l.bind_readDict.trans ?_
    refine (Codec.bind_required rfl).trans ?_
    refine (Codec.bind_required rfl).trans ?_
    repeat refine (Codec.bind_field rfl).trans ?_
    rfl

def ConcentratorConfig.codec (l : Lax) : Codec ConcentratorConfig where
  dump c := .dict [
    ("enabled", l.bool.dump c.enabled), ("host", l.str.dump c.host), ("port", l.int.dump c.port),
    ("psk_hex", l.str.dump c.pskHex), ("tunnel_ip_local", l.str.dump c.tunnelIpLocal),
    ("tunnel_ip_remote", l.str.dump c.tunnelIpRemote), ("tunnel_mtu", l.int.dump c.tunnelMtu),
    ("tun_device", l.str.dump c.tunDevice), ("keepalive_s", l.float.dump c.keepaliveS),
    ("reorder_timeout_ms", l.float.dump c.reorderTimeoutMs),
    ("reorder_capacity", l.int.dump c.reorderCapacity),
    ("duplicate_critical", l.bool.dump c.duplicateCritical)]
  read v := do
    let f ← l.readDict v
    let d : ConcentratorConfig := {}
    return {
      enabled := ← l.bool.field f "enabled" d.enabled
      host := ← l.str.field f "host" d.host
      port := ← l.int.field f "port" d.port
      pskHex := ← l.str.field f "psk_hex" d.pskHex
      tunnelIpLocal := ← l.str.field f "tunnel_ip_local" d.tunnelIpLocal
      tunnelIpRemote := ← l.str.field f "tunnel_ip_remote" d.tunnelIpRemote
      tunnelMtu := ← l.int.field f "tunnel_mtu" d.tunnelMtu
      tunDevice := ← l.str.field f "tun_device" d.tunDevice
      keepaliveS := ← l.float.field f "keepalive_s" d.keepaliveS
      reorderTimeoutMs := ← l.float.field f "reorder_timeout_ms" d.reorderTimeoutMs
      reorderCapacity := ← l.int.field f "reorder_capacity" d.reorderCapacity
      duplicateCritical := ← l.bool.field f "duplicate_critical" d.duplicateCritical }
  read_dump c := by
    refine l.bind_readDict.trans ?_
    repeat refine (Codec.bind_field rfl).trans ?_
    rfl

def ShadowsocksConfig.codec (l : Lax) : Codec ShadowsocksConfig where
  dump c := .dict [
    ("enabled", l.bool.dump c.enabled), ("host", l.str.dump c.host), ("port", l.int.dump c.port),
    ("password", l.str.dump c.password), ("method", l.str.dump c.method),
    ("local_socks_port", l.int.dump c.localSocksPort),
    ("local_http_port", l.int.dump c.localHttpPort),
    ("local_redir_port", l.int.dump c.localRedirPort),
    ("local_dns_port", l.int.dump c.localDnsPort), ("plugin", l.str.dump c.plugin),
    ("plugin_opts", l.str.dump c.pluginOpts), ("timeout_s", l.int.dump c.timeoutS),
    ("fast_open", l.bool.dump c.fastOpen), ("udp_relay", l.bool.dump c.udpRelay)]
  read v := do
    let f ← l.readDict v
    let d : ShadowsocksConfig := {}
    return {
      enabled := ← l.bool.field f "enabled" d.enabled
      host := ← l.str.field f "host" d.host
      port := ← l.int.field f "port" d.port
      password := ← l.str.field f "password" d.password
      method := ← l.str.field f "method" d.method
      localSocksPort := ← l.int.field f "local_socks_port" d.localSocksPort
      localHttpPort := ← l.int.field f "local_http_port" d.localHttpPort
      localRedirPort := ← l.int.field f "local_redir_port" d.localRedirPort
      localDnsPort := ← l.int.field f "local_dns_port" d.localDnsPort
      plugin := ← l.str.field f "plugin" d.plugin
      pluginOpts := ← l.str.field f "plugin_opts" d.pluginOpts
      timeoutS := ← l.int.field f "timeout_s" d.timeoutS
      fastOpen := ← l.bool.field f "fast_open" d.fastOpen
      udpRelay := ← l.bool.field f "udp_relay" d.udpRelay }
  read_dump c := by
    refine l.bind_readDict.trans ?_
    repeat refine (Codec.bind_field rfl).trans ?_
    rfl

def RoutePolicy.codec (l : Lax) : Codec RoutePolicy where
  dump c := .dict [
    ("default_route", routeNameCodec.dump c.defaultRoute),
    ("shadow_domains", (l.list l.str).dump c.shadowDomains),
    ("shadow_cidrs", (l.list l.str).dump c.shadowCidrs),
    ("direct_cidrs", (l.list l.str).dump c.directCidrs),
    ("auto_failover", l.bool.dump c.autoFailover),
    ("failover_after_failures", l.int.dump c.failoverAfterFailures),
    ("probe_interval_s", l.float.dump c.probeIntervalS),
    ("probe_targets", (l.list l.str).dump c.probeTargets)]
  read v := do
    let f ← l.readDict v
    let d : RoutePolicy := {}
    return {
      defaultRoute := ← routeNameCodec.field f "default_route" d.defaultRoute
      shadowDomains := ← (l.list l.str).field f "shadow_domains" d.shadowDomains
      shadowCidrs := ← (l.list l.str).field f "shadow_cidrs" d.shadowCidrs
      directCidrs := ← (l.list l.str).field f "direct_cidrs" d.directCidrs
      autoFailover := ← l.bool.field f "auto_failover" d.autoFailover
      failoverAfterFailures := ← l.int.field f "failover_after_failures" d.failoverAfterFailures
      probeIntervalS := ← l.float.field f "probe_interval_s" d.probeIntervalS
      probeTargets := ← (l.list l.str).field f "probe_targets" d.probeTargets }
  read_dump c := by
    refine l.bind_readDict.trans ?_
    repeat refine (Codec.bind_field rfl).trans ?_
    rfl

def SipConfig.codec (l : Lax) : Codec SipConfig where
  dump c := .dict [
    ("enabled", l.bool.dump c.enabled), ("wide_open", l.bool.dump c.wideOpen),
    ("signalling_ports", (l.list l.int).dump c.signallingPorts),
    ("tls_ports", (l.list l.int).dump c.tlsPorts), ("rtp_port_start", l.int.dump c.rtpPortStart),
    ("rtp_port_end", l.int.dump c.rtpPortEnd), ("disable_alg", l.bool.dump c.disableAlg),
    ("disable_conntrack_helper", l.bool.dump c.disableConntrackHelper),
    ("dscp_media", l.int.dump c.dscpMedia), ("dscp_signalling", l.int.dump c.dscpSignalling),
    ("pin_to_link", l.str.dump c.pinToLink), ("keepalive_s", l.float.dump c.keepaliveS)]
  read v := do
    let f ← l.readDict v
    let d : SipConfig := {}
    return {
      enabled := ← l.bool.field f "enabled" d.enabled
      wideOpen := ← l.bool.field f "wide_open" d.wideOpen
      signallingPorts := ← (l.list l.int).field f "signalling_ports" d.signallingPorts
      tlsPorts := ← (l.list l.int).field f "tls_ports" d.tlsPorts
      rtpPortStart := ← l.int.field f "rtp_port_start" d.rtpPortStart
      rtpPortEnd := ← l.int.field f "rtp_port_end" d.rtpPortEnd
      disableAlg := ← l.bool.field f "disable_alg" d.disableAlg
      disableConntrackHelper := ← l.bool.field f "disable_conntrack_helper" d.disableConntrackHelper
      dscpMedia := ← l.int.field f "dscp_media" d.dscpMedia
      dscpSignalling := ← l.int.field f "dscp_signalling" d.dscpSignalling
      pinToLink := ← l.str.field f "pin_to_link" d.pinToLink
      keepaliveS := ← l.float.field f "keepalive_s" d.keepaliveS }
  read_dump c := by
    refine l.bind_readDict.trans ?_
    repeat refine (Codec.bind_field rfl).trans ?_
    rfl

def LanConfig.codec (l : Lax) : Codec LanConfig where
  dump c := .dict [
    ("enabled", l.bool.dump c.enabled), ("interface", l.str.dump c.interface),
    ("take_over_gateway", l.bool.dump c.takeOverGateway), ("nat", l.bool.dump c.nat),
    ("ipv4_forward", l.bool.dump c.ipv4Forward), ("ipv6_forward", l.bool.dump c.ipv6Forward),
    ("device_routes", (l.dict routeNameCodec).dump c.deviceRoutes),
    ("dns_servers", (l.list l.str).dump c.dnsServers), ("dhcp_lease_s", l.int.dump c.dhcpLeaseS)]
  read v := do
    let f ← l.readDict v
    let d : LanConfig := {}
    return {
      enabled := ← l.bool.field f "enabled" d.enabled
      interface := ← l.str.field f "interface" d.interface
      takeOverGateway := ← l.bool.field f "take_over_gateway" d.takeOverGateway
      nat := ← l.bool.field f "nat" d.nat
      ipv4Forward := ← l.bool.field f "ipv4_forward" d.ipv4Forward
      ipv6Forward := ← l.bool.field f "ipv6_forward" d.ipv6Forward
      deviceRoutes := ← (l.dict routeNameCodec).field f "device_routes" d.deviceRoutes
      dnsServers := ← (l.list l.str).field f "dns_servers" d.dnsServers
      dhcpLeaseS := ← l.int.field f "dhcp_lease_s" d.dhcpLeaseS }
  read_dump c := by
    refine l.bind_readDict.trans ?_
    repeat refine (Codec.bind_field rfl).trans ?_
    rfl

def AuthConfig.codec (l : Lax) : Codec AuthConfig where
  dump c := .dict [
    ("username", l.str.dump c.username), ("password_hash", l.str.dump c.passwordHash),
    ("session_secret", l.str.dump c.sessionSecret), ("session_ttl_s", l.int.dump c.sessionTtlS),
    ("bind_host", l.str.dump c.bindHost), ("bind_port", l.int.dump c.bindPort)]
  read v := do
    let f ← l.readDict v
    let d : AuthConfig := {}
    return {
      username := ← l.str.field f "username" d.username
      passwordHash := ← l.str.field f "password_hash" d.passwordHash
      sessionSecret := ← l.str.field f "session_secret" d.sessionSecret
      sessionTtlS := ← l.int.field f "session_ttl_s" d.sessionTtlS
      bindHost := ← l.str.field f "bind_host" d.bindHost
      bindPort := ← l.int.field f "bind_port" d.bindPort }
  read_dump c := by
    refine l.bind_readDict.trans ?_
    repeat refine (Codec.bind_field rfl).trans ?_
    rfl

/-- What pydantic makes of values that do not have the type asked for, and what it says of what it
refuses. -/
structure Pydantic extends Lax where
  readPath : Value → Option String
  readPath_str : ∀ s, (readPath (.str s)).isSome
  /-- Of a tree whose types do not fit. -/
  mismatch : Value → String
  /-- Of a validator that raised. -/
  invalid : String → String

/-- A path. -/
def Pydantic.path (p : Pydantic) (f : Fields) (key default : String) : Option String :=
  match f.lookup key with
  | none => some default
  | some v => p.readPath v

/-- `model_dump`, without the directories. -/
def AppConfig.fields (p : Pydantic) (c : AppConfig) : Fields := [
  ("version", p.int.dump c.version), ("log_level", p.str.dump c.logLevel),
  ("dry_run", p.bool.dump c.dryRun),
  ("auto_activate_on_login", p.bool.dump c.autoActivateOnLogin),
  ("auth", (AuthConfig.codec p.toLax).dump c.auth), ("router", (RouterConfig.codec p.toLax).dump c.router),
  ("optimization", (OptimizationConfig.codec p.toLax).dump c.optimization),
  ("links", (p.list (LinkConfig.codec p.toLax)).dump c.links),
  ("auto_discover_links", p.bool.dump c.autoDiscoverLinks),
  ("concentrator", (ConcentratorConfig.codec p.toLax).dump c.concentrator),
  ("shadowsocks", (ShadowsocksConfig.codec p.toLax).dump c.shadowsocks),
  ("routes", (RoutePolicy.codec p.toLax).dump c.routes), ("sip", (SipConfig.codec p.toLax).dump c.sip),
  ("lan", (LanConfig.codec p.toLax).dump c.lan)]

/-- `model_validate`, before the validators. -/
def AppConfig.read (p : Pydantic) (f : Fields) : Option AppConfig := do
  let d : AppConfig := {}
  return {
    version := ← p.int.field f "version" d.version
    logLevel := ← p.str.field f "log_level" d.logLevel
    dryRun := ← p.bool.field f "dry_run" d.dryRun
    autoActivateOnLogin := ← p.bool.field f "auto_activate_on_login" d.autoActivateOnLogin
    auth := ← (AuthConfig.codec p.toLax).field f "auth" d.auth
    router := ← (RouterConfig.codec p.toLax).field f "router" d.router
    optimization := ← (OptimizationConfig.codec p.toLax).field f "optimization" d.optimization
    links := ← (p.list (LinkConfig.codec p.toLax)).field f "links" d.links
    autoDiscoverLinks := ← p.bool.field f "auto_discover_links" d.autoDiscoverLinks
    concentrator := ← (ConcentratorConfig.codec p.toLax).field f "concentrator" d.concentrator
    shadowsocks := ← (ShadowsocksConfig.codec p.toLax).field f "shadowsocks" d.shadowsocks
    routes := ← (RoutePolicy.codec p.toLax).field f "routes" d.routes
    sip := ← (SipConfig.codec p.toLax).field f "sip" d.sip
    lan := ← (LanConfig.codec p.toLax).field f "lan" d.lan
    configDir := ← p.path f "config_dir" d.configDir
    stateDir := ← p.path f "state_dir" d.stateDir
    runDir := ← p.path f "run_dir" d.runDir }

/-- What is read back, with the directories given elsewhere. -/
lemma AppConfig.read_fields (p : Pydantic) (c : AppConfig) (dirs : Fields) :
    AppConfig.read p (c.fields p ++ dirs) = do
      let d : AppConfig := {}
      let configDir ← p.path dirs "config_dir" d.configDir
      let stateDir ← p.path dirs "state_dir" d.stateDir
      let runDir ← p.path dirs "run_dir" d.runDir
      return { c with configDir, stateDir, runDir } := by
  rw [AppConfig.read]
  repeat refine (Codec.bind_field rfl).trans ?_
  rfl

end Turbobond.Config
