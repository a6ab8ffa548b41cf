import Turbobond.Config.Store
import Turbobond.Lib.Record

/-!
# Configurations, part by part

The parts of every model, with the keys under which they are written and read.
-/

namespace Turbobond.Config

open Codec

@[simp] lemma plain_schemeCodec : schemeCodec.Plain := by rintro ⟨⟩ ⟨⟩

@[simp] lemma plain_routeNameCodec : routeNameCodec.Plain := by rintro ⟨⟩ ⟨⟩

@[simp] lemma plain_triple (l : Lax) : (triple l).Plain := by rintro a ⟨⟩

namespace RouterConfig

def slots (l : Lax) : List (Slot RouterConfig) := [
  ⟨"model", l.str, model⟩, ⟨"host", l.str, host⟩, ⟨"scheme", schemeCodec, scheme⟩,
  ⟨"password", l.str, password⟩, ⟨"username", l.str, username⟩, ⟨"verify_tls", l.bool, verifyTls⟩,
  ⟨"timeout_s", l.float, timeoutS⟩, ⟨"manage", l.bool, manage⟩,
  ⟨"additional_hosts", l.list l.str, additionalHosts⟩]

lemma plain (l : Lax) : ∀ slot ∈ slots l, slot.codec.Plain := by simp [slots]

lemma record (l : Lax) : (codec l).Record (slots l) where
  dump_eq _ := rfl
  nodup := by simp [slots]
  read_iff := by
    intro f c hf
    have hread : (codec l).read (.dict f) = _ := l.bind_readDict
    simp only [slots, List.forall_mem_cons, List.not_mem_nil, false_imp_iff, implies_true,
      and_true] at hf ⊢
    rw [hread]
    simp only [↓bind_field_eq_some, hf, Option.pure_def, Option.some.injEq, Slot.Reads]
    constructor
    · rintro ⟨_, h₁, _, h₂, _, h₃, _, h₄, _, h₅, _, h₆, _, h₇, _, h₈, _, h₉, rfl⟩
      exact ⟨h₁, h₂, h₃, h₄, h₅, h₆, h₇, h₈, h₉⟩
    · rintro ⟨h₁, h₂, h₃, h₄, h₅, h₆, h₇, h₈, h₉⟩
      exact ⟨_, h₁, _, h₂, _, h₃, _, h₄, _, h₅, _, h₆, _, h₇, _, h₈, _, h₉, rfl⟩

end RouterConfig

namespace OptimizationConfig

def slots (l : Lax) : List (Slot OptimizationConfig) := [
  ⟨"profile", l.str, profile⟩, ⟨"turbo", l.bool, turbo⟩, ⟨"search", l.bool, search⟩,
  ⟨"search_interval_s", l.float, searchIntervalS⟩, ⟨"congestion_control", l.str, congestionControl⟩,
  ⟨"qdisc", l.str, qdisc⟩, ⟨"wan_mtu", l.int, wanMtu⟩, ⟨"tcp_rmem", triple l, tcpRmem⟩,
  ⟨"tcp_wmem", triple l, tcpWmem⟩, ⟨"clamp_mss", l.bool, clampMss⟩,
  ⟨"prefer_5ghz", l.bool, prefer5ghz⟩, ⟨"band_search", l.bool, bandSearch⟩]

lemma plain (l : Lax) : ∀ slot ∈ slots l, slot.codec.Plain := by simp [slots]

lemma record (l : Lax) : (codec l).Record (slots l) where
  dump_eq _ := rfl
  nodup := by simp [slots]
  read_iff := by
    intro f c hf
    have hread : (codec l).read (.dict f) = _ := l.bind_readDict
    simp only [slots, List.forall_mem_cons, List.not_mem_nil, false_imp_iff, implies_true,
      and_true] at hf ⊢
    rw [hread]
    simp only [↓bind_field_eq_some, hf, Option.pure_def, Option.some.injEq, Slot.Reads]
    constructor
    · rintro ⟨_, h₁, _, h₂, _, h₃, _, h₄, _, h₅, _, h₆, _, h₇, _, h₈, _, h₉, _, h₁₀, _, h₁₁, _, h₁₂,
        rfl⟩
      exact ⟨h₁, h₂, h₃, h₄, h₅, h₆, h₇, h₈, h₉, h₁₀, h₁₁, h₁₂⟩
    · rintro ⟨h₁, h₂, h₃, h₄, h₅, h₆, h₇, h₈, h₉, h₁₀, h₁₁, h₁₂⟩
      exact ⟨_, h₁, _, h₂, _, h₃, _, h₄, _, h₅, _, h₆, _, h₇, _, h₈, _, h₉, _, h₁₀, _, h₁₁, _, h₁₂,
        rfl⟩

end OptimizationConfig

namespace ConcentratorConfig

def slots (l : Lax) : List (Slot ConcentratorConfig) := [
  ⟨"enabled", l.bool, enabled⟩, ⟨"host", l.str, host⟩, ⟨"port", l.int, port⟩,
  ⟨"psk_hex", l.str, pskHex⟩, ⟨"tunnel_ip_local", l.str, tunnelIpLocal⟩,
  ⟨"tunnel_ip_remote", l.str, tunnelIpRemote⟩, ⟨"tunnel_mtu", l.int, tunnelMtu⟩,
  ⟨"tun_device", l.str, tunDevice⟩, ⟨"keepalive_s", l.float, keepaliveS⟩,
  ⟨"reorder_timeout_ms", l.float, reorderTimeoutMs⟩, ⟨"reorder_capacity", l.int, reorderCapacity⟩,
  ⟨"duplicate_critical", l.bool, duplicateCritical⟩]

lemma plain (l : Lax) : ∀ slot ∈ slots l, slot.codec.Plain := by simp [slots]

lemma record (l : Lax) : (codec l).Record (slots l) where
  dump_eq _ := rfl
  nodup := by simp [slots]
  read_iff := by
    intro f c hf
    have hread : (codec l).read (.dict f) = _ := l.bind_readDict
    simp only [slots, List.forall_mem_cons, List.not_mem_nil, false_imp_iff, implies_true,
      and_true] at hf ⊢
    rw [hread]
    simp only [↓bind_field_eq_some, hf, Option.pure_def, Option.some.injEq, Slot.Reads]
    constructor
    · rintro ⟨_, h₁, _, h₂, _, h₃, _, h₄, _, h₅, _, h₆, _, h₇, _, h₈, _, h₉, _, h₁₀, _, h₁₁, _, h₁₂,
        rfl⟩
      exact ⟨h₁, h₂, h₃, h₄, h₅, h₆, h₇, h₈, h₉, h₁₀, h₁₁, h₁₂⟩
    · rintro ⟨h₁, h₂, h₃, h₄, h₅, h₆, h₇, h₈, h₉, h₁₀, h₁₁, h₁₂⟩
      exact ⟨_, h₁, _, h₂, _, h₃, _, h₄, _, h₅, _, h₆, _, h₇, _, h₈, _, h₉, _, h₁₀, _, h₁₁, _, h₁₂,
        rfl⟩

end ConcentratorConfig

namespace ShadowsocksConfig

def slots (l : Lax) : List (Slot ShadowsocksConfig) := [
  ⟨"enabled", l.bool, enabled⟩, ⟨"host", l.str, host⟩, ⟨"port", l.int, port⟩,
  ⟨"password", l.str, password⟩, ⟨"method", l.str, method⟩,
  ⟨"local_socks_port", l.int, localSocksPort⟩, ⟨"local_http_port", l.int, localHttpPort⟩,
  ⟨"local_redir_port", l.int, localRedirPort⟩, ⟨"local_dns_port", l.int, localDnsPort⟩,
  ⟨"plugin", l.str, plugin⟩, ⟨"plugin_opts", l.str, pluginOpts⟩, ⟨"timeout_s", l.int, timeoutS⟩,
  ⟨"fast_open", l.bool, fastOpen⟩, ⟨"udp_relay", l.bool, udpRelay⟩]

lemma plain (l : Lax) : ∀ slot ∈ slots l, slot.codec.Plain := by simp [slots]

lemma record (l : Lax) : (codec l).Record (slots l) where
  dump_eq _ := rfl
  nodup := by simp [slots]
  read_iff := by
    intro f c hf
    have hread : (codec l).read (.dict f) = _ := l.bind_readDict
    simp only [slots, List.forall_mem_cons, List.not_mem_nil, false_imp_iff, implies_true,
      and_true] at hf ⊢
    rw [hread]
    simp only [↓bind_field_eq_some, hf, Option.pure_def, Option.some.injEq, Slot.Reads]
    constructor
    · rintro ⟨_, h₁, _, h₂, _, h₃, _, h₄, _, h₅, _, h₆, _, h₇, _, h₈, _, h₉, _, h₁₀, _, h₁₁, _, h₁₂,
        _, h₁₃, _, h₁₄, rfl⟩
      exact ⟨h₁, h₂, h₃, h₄, h₅, h₆, h₇, h₈, h₉, h₁₀, h₁₁, h₁₂, h₁₃, h₁₄⟩
    · rintro ⟨h₁, h₂, h₃, h₄, h₅, h₆, h₇, h₈, h₉, h₁₀, h₁₁, h₁₂, h₁₃, h₁₄⟩
      exact ⟨_, h₁, _, h₂, _, h₃, _, h₄, _, h₅, _, h₆, _, h₇, _, h₈, _, h₉, _, h₁₀, _, h₁₁, _, h₁₂,
        _, h₁₃, _, h₁₄, rfl⟩

end ShadowsocksConfig

namespace RoutePolicy

def slots (l : Lax) : List (Slot RoutePolicy) := [
  ⟨"default_route", routeNameCodec, defaultRoute⟩, ⟨"shadow_domains", l.list l.str, shadowDomains⟩,
  ⟨"shadow_cidrs", l.list l.str, shadowCidrs⟩, ⟨"direct_cidrs", l.list l.str, directCidrs⟩,
  ⟨"auto_failover", l.bool, autoFailover⟩,
  ⟨"failover_after_failures", l.int, failoverAfterFailures⟩,
  ⟨"probe_interval_s", l.float, probeIntervalS⟩, ⟨"probe_targets", l.list l.str, probeTargets⟩]

lemma plain (l : Lax) : ∀ slot ∈ slots l, slot.codec.Plain := by simp [slots]

lemma record (l : Lax) : (codec l).Record (slots l) where
  dump_eq _ := rfl
  nodup := by simp [slots]
  read_iff := by
    intro f c hf
    have hread : (codec l).read (.dict f) = _ := l.bind_readDict
    simp only [slots, List.forall_mem_cons, List.not_mem_nil, false_imp_iff, implies_true,
      and_true] at hf ⊢
    rw [hread]
    simp only [↓bind_field_eq_some, hf, Option.pure_def, Option.some.injEq, Slot.Reads]
    constructor
    · rintro ⟨_, h₁, _, h₂, _, h₃, _, h₄, _, h₅, _, h₆, _, h₇, _, h₈, rfl⟩
      exact ⟨h₁, h₂, h₃, h₄, h₅, h₆, h₇, h₈⟩
    · rintro ⟨h₁, h₂, h₃, h₄, h₅, h₆, h₇, h₈⟩
      exact ⟨_, h₁, _, h₂, _, h₃, _, h₄, _, h₅, _, h₆, _, h₇, _, h₈, rfl⟩

end RoutePolicy

namespace SipConfig

def slots (l : Lax) : List (Slot SipConfig) := [
  ⟨"enabled", l.bool, enabled⟩, ⟨"wide_open", l.bool, wideOpen⟩,
  ⟨"signalling_ports", l.list l.int, signallingPorts⟩, ⟨"tls_ports", l.list l.int, tlsPorts⟩,
  ⟨"rtp_port_start", l.int, rtpPortStart⟩, ⟨"rtp_port_end", l.int, rtpPortEnd⟩,
  ⟨"disable_alg", l.bool, disableAlg⟩, ⟨"disable_conntrack_helper", l.bool, disableConntrackHelper⟩,
  ⟨"dscp_media", l.int, dscpMedia⟩, ⟨"dscp_signalling", l.int, dscpSignalling⟩,
  ⟨"pin_to_link", l.str, pinToLink⟩, ⟨"keepalive_s", l.float, keepaliveS⟩]

lemma plain (l : Lax) : ∀ slot ∈ slots l, slot.codec.Plain := by simp [slots]

lemma record (l : Lax) : (codec l).Record (slots l) where
  dump_eq _ := rfl
  nodup := by simp [slots]
  read_iff := by
    intro f c hf
    have hread : (codec l).read (.dict f) = _ := l.bind_readDict
    simp only [slots, List.forall_mem_cons, List.not_mem_nil, false_imp_iff, implies_true,
      and_true] at hf ⊢
    rw [hread]
    simp only [↓bind_field_eq_some, hf, Option.pure_def, Option.some.injEq, Slot.Reads]
    constructor
    · rintro ⟨_, h₁, _, h₂, _, h₃, _, h₄, _, h₅, _, h₆, _, h₇, _, h₈, _, h₉, _, h₁₀, _, h₁₁, _, h₁₂,
        rfl⟩
      exact ⟨h₁, h₂, h₃, h₄, h₅, h₆, h₇, h₈, h₉, h₁₀, h₁₁, h₁₂⟩
    · rintro ⟨h₁, h₂, h₃, h₄, h₅, h₆, h₇, h₈, h₉, h₁₀, h₁₁, h₁₂⟩
      exact ⟨_, h₁, _, h₂, _, h₃, _, h₄, _, h₅, _, h₆, _, h₇, _, h₈, _, h₉, _, h₁₀, _, h₁₁, _, h₁₂,
        rfl⟩

end SipConfig

namespace LanConfig

def slots (l : Lax) : List (Slot LanConfig) := [
  ⟨"enabled", l.bool, enabled⟩, ⟨"interface", l.str, interface⟩,
  ⟨"take_over_gateway", l.bool, takeOverGateway⟩, ⟨"nat", l.bool, nat⟩,
  ⟨"ipv4_forward", l.bool, ipv4Forward⟩, ⟨"ipv6_forward", l.bool, ipv6Forward⟩,
  ⟨"device_routes", l.dict routeNameCodec, deviceRoutes⟩, ⟨"dns_servers", l.list l.str, dnsServers⟩,
  ⟨"dhcp_lease_s", l.int, dhcpLeaseS⟩]

lemma record (l : Lax) : (codec l).Record (slots l) where
  dump_eq _ := rfl
  nodup := by simp [slots]
  read_iff := by
    intro f c hf
    have hread : (codec l).read (.dict f) = _ := l.bind_readDict
    simp only [slots, List.forall_mem_cons, List.not_mem_nil, false_imp_iff, implies_true,
      and_true] at hf ⊢
    rw [hread]
    simp only [↓bind_field_eq_some, hf, Option.pure_def, Option.some.injEq, Slot.Reads]
    constructor
    · rintro ⟨_, h₁, _, h₂, _, h₃, _, h₄, _, h₅, _, h₆, _, h₇, _, h₈, _, h₉, rfl⟩
      exact ⟨h₁, h₂, h₃, h₄, h₅, h₆, h₇, h₈, h₉⟩
    · rintro ⟨h₁, h₂, h₃, h₄, h₅, h₆, h₇, h₈, h₉⟩
      exact ⟨_, h₁, _, h₂, _, h₃, _, h₄, _, h₅, _, h₆, _, h₇, _, h₈, _, h₉, rfl⟩

end LanConfig

namespace AuthConfig

def slots (l : Lax) : List (Slot AuthConfig) := [
  ⟨"username", l.str, username⟩, ⟨"password_hash", l.str, passwordHash⟩,
  ⟨"session_secret", l.str, sessionSecret⟩, ⟨"session_ttl_s", l.int, sessionTtlS⟩,
  ⟨"bind_host", l.str, bindHost⟩, ⟨"bind_port", l.int, bindPort⟩]

lemma plain (l : Lax) : ∀ slot ∈ slots l, slot.codec.Plain := by simp [slots]

lemma record (l : Lax) : (codec l).Record (slots l) where
  dump_eq _ := rfl
  nodup := by simp [slots]
  read_iff := by
    intro f c hf
    have hread : (codec l).read (.dict f) = _ := l.bind_readDict
    simp only [slots, List.forall_mem_cons, List.not_mem_nil, false_imp_iff, implies_true,
      and_true] at hf ⊢
    rw [hread]
    simp only [↓bind_field_eq_some, hf, Option.pure_def, Option.some.injEq, Slot.Reads]
    constructor
    · rintro ⟨_, h₁, _, h₂, _, h₃, _, h₄, _, h₅, _, h₆, rfl⟩
      exact ⟨h₁, h₂, h₃, h₄, h₅, h₆⟩
    · rintro ⟨h₁, h₂, h₃, h₄, h₅, h₆⟩
      exact ⟨_, h₁, _, h₂, _, h₃, _, h₄, _, h₅, _, h₆, rfl⟩

end AuthConfig

/-! ### The models in the configuration -/

section

variable (l : Lax)

lemma RouterConfig.isLocal : (RouterConfig.codec l).Local :=
  (RouterConfig.record l).isLocal_of_plain (RouterConfig.plain l)

lemma OptimizationConfig.isLocal : (OptimizationConfig.codec l).Local :=
  (OptimizationConfig.record l).isLocal_of_plain (OptimizationConfig.plain l)

lemma ConcentratorConfig.isLocal : (ConcentratorConfig.codec l).Local :=
  (ConcentratorConfig.record l).isLocal_of_plain (ConcentratorConfig.plain l)

lemma ShadowsocksConfig.isLocal : (ShadowsocksConfig.codec l).Local :=
  (ShadowsocksConfig.record l).isLocal_of_plain (ShadowsocksConfig.plain l)

lemma RoutePolicy.isLocal : (RoutePolicy.codec l).Local :=
  (RoutePolicy.record l).isLocal_of_plain (RoutePolicy.plain l)

lemma SipConfig.isLocal : (SipConfig.codec l).Local :=
  (SipConfig.record l).isLocal_of_plain (SipConfig.plain l)

lemma AuthConfig.isLocal : (AuthConfig.codec l).Local :=
  (AuthConfig.record l).isLocal_of_plain (AuthConfig.plain l)

lemma LanConfig.isLocal : (LanConfig.codec l).Local := by
  refine (LanConfig.record l).isLocal ?_
  simp only [LanConfig.slots, List.forall_mem_cons, List.not_mem_nil, false_imp_iff, implies_true,
    and_true]
  exact ⟨l.plain_bool.isLocal, l.plain_str.isLocal, l.plain_bool.isLocal, l.plain_bool.isLocal,
    l.plain_bool.isLocal, l.plain_bool.isLocal, Lax.isLocal_dict plain_routeNameCodec,
    (l.plain_list _).isLocal, l.plain_int.isLocal⟩

end

namespace AppConfig

variable (p : Pydantic)

def slots : List (Slot AppConfig) := [
  ⟨"version", p.int, version⟩, ⟨"log_level", p.str, logLevel⟩, ⟨"dry_run", p.bool, dryRun⟩,
  ⟨"auto_activate_on_login", p.bool, autoActivateOnLogin⟩, ⟨"auth", AuthConfig.codec p.toLax, auth⟩,
  ⟨"router", RouterConfig.codec p.toLax, router⟩,
  ⟨"optimization", OptimizationConfig.codec p.toLax, optimization⟩,
  ⟨"links", p.list (LinkConfig.codec p.toLax), links⟩,
  ⟨"auto_discover_links", p.bool, autoDiscoverLinks⟩,
  ⟨"concentrator", ConcentratorConfig.codec p.toLax, concentrator⟩,
  ⟨"shadowsocks", ShadowsocksConfig.codec p.toLax, shadowsocks⟩,
  ⟨"routes", RoutePolicy.codec p.toLax, routes⟩, ⟨"sip", SipConfig.codec p.toLax, sip⟩,
  ⟨"lan", LanConfig.codec p.toLax, lan⟩]

lemma fields_eq (c : AppConfig) :
    c.fields p = (slots p).map fun slot => (slot.key, slot.dump c) := rfl

lemma nodup_slots : ((slots p).map Slot.key).Nodup := by simp [slots]

lemma isLocal : ∀ slot ∈ slots p, slot.codec.Local := by
  simp only [slots, List.forall_mem_cons, List.not_mem_nil, false_imp_iff, implies_true, and_true]
  exact ⟨p.plain_int.isLocal, p.plain_str.isLocal, p.plain_bool.isLocal, p.plain_bool.isLocal,
    AuthConfig.isLocal _, RouterConfig.isLocal _, OptimizationConfig.isLocal _,
    (p.plain_list _).isLocal, p.plain_bool.isLocal, ConcentratorConfig.isLocal _,
    ShadowsocksConfig.isLocal _, RoutePolicy.isLocal _, SipConfig.isLocal _, LanConfig.isLocal _⟩

/-- A configuration is read part by part, and its directories. -/
lemma read_iff {f : Fields} {c : AppConfig} (hf : ∀ slot ∈ slots p, (f.lookup slot.key).isSome) :
    read p f = some c ↔ (∀ slot ∈ slots p, slot.Reads f c) ∧
      p.path f "config_dir" ({} : AppConfig).configDir = some c.configDir ∧
      p.path f "state_dir" ({} : AppConfig).stateDir = some c.stateDir ∧
      p.path f "run_dir" ({} : AppConfig).runDir = some c.runDir := by
  simp only [slots, List.forall_mem_cons, List.not_mem_nil, false_imp_iff, implies_true,
    and_true] at hf ⊢
  rw [read]
  simp only [↓bind_field_eq_some, hf, Slot.Reads]
  simp only [Option.bind_eq_bind, Option.bind_eq_some_iff, Option.pure_def, Option.some.injEq]
  constructor
  · rintro ⟨_, h₁, _, h₂, _, h₃, _, h₄, _, h₅, _, h₆, _, h₇, _, h₈, _, h₉, _, h₁₀, _, h₁₁, _, h₁₂, _,
      h₁₃, _, h₁₄, _, hconfig, _, hstate, _, hrun, rfl⟩
    exact ⟨⟨h₁, h₂, h₃, h₄, h₅, h₆, h₇, h₈, h₉, h₁₀, h₁₁, h₁₂, h₁₃, h₁₄⟩, hconfig, hstate, hrun⟩
  · rintro ⟨⟨h₁, h₂, h₃, h₄, h₅, h₆, h₇, h₈, h₉, h₁₀, h₁₁, h₁₂, h₁₃, h₁₄⟩, hconfig, hstate, hrun⟩
    exact ⟨_, h₁, _, h₂, _, h₃, _, h₄, _, h₅, _, h₆, _, h₇, _, h₈, _, h₉, _, h₁₀, _, h₁₁, _, h₁₂, _,
      h₁₃, _, h₁₄, _, hconfig, _, hstate, _, hrun, rfl⟩

variable {p}

lemma lookup_modelDump {slot : Slot AppConfig} (hslot : slot ∈ slots p) (c : AppConfig) :
    (c.modelDump p).lookup slot.key = some (slot.dump c) := by
  rw [modelDump, fields_eq, List.lookup_append, lookup_slots (nodup_slots p) hslot c,
    Option.some_or]

/-- A configuration that is put into another one is there as it is, if the two have the same
devices. -/
lemma modelDump_patch {c c' : AppConfig} (hdevices : c'.lan.deviceRoutes = c.lan.deviceRoutes) :
    (c.modelDump p).patch (c'.modelDump p) = c'.modelDump p := by
  have hlan : ∀ slot ∈ LanConfig.slots p.toLax,
      (slot.dump c.lan).patch (slot.dump c'.lan) = slot.dump c'.lan := by
    simp only [LanConfig.slots, List.forall_mem_cons, List.not_mem_nil, false_imp_iff, implies_true,
      and_true, Slot.dump]
    refine ⟨rfl, rfl, rfl, rfl, rfl, rfl, ?_, rfl, rfl⟩
    rw [hdevices]
    exact Lax.patch_dump_dict_self plain_routeNameCodec _
  have hslots : ∀ slot ∈ slots p, (slot.dump c).patch (slot.dump c') = slot.dump c' := by
    simp only [slots, List.forall_mem_cons, List.not_mem_nil, false_imp_iff, implies_true, and_true]
    exact ⟨rfl, rfl, rfl, rfl, (AuthConfig.record _).patch_dump_of_plain (AuthConfig.plain _) _ _,
      (RouterConfig.record _).patch_dump_of_plain (RouterConfig.plain _) _ _,
      (OptimizationConfig.record _).patch_dump_of_plain (OptimizationConfig.plain _) _ _, rfl, rfl,
      (ConcentratorConfig.record _).patch_dump_of_plain (ConcentratorConfig.plain _) _ _,
      (ShadowsocksConfig.record _).patch_dump_of_plain (ShadowsocksConfig.plain _) _ _,
      (RoutePolicy.record _).patch_dump_of_plain (RoutePolicy.plain _) _ _,
      (SipConfig.record _).patch_dump_of_plain (SipConfig.plain _) _ _,
      (LanConfig.record _).patch_dump hlan⟩
  refine Fields.patch_eq_of_forall₂ ?_ ?_
  · simp [modelDump, fields_eq, slots]
  · rw [modelDump, modelDump, fields_eq, fields_eq]
    refine List.rel_append ?_ ?_
    · rw [List.forall₂_map_left_iff, List.forall₂_map_right_iff, List.forall₂_same]
      exact fun slot hslot => ⟨rfl, hslots slot hslot⟩
    · exact .cons ⟨rfl, rfl⟩ (.cons ⟨rfl, rfl⟩ (.cons ⟨rfl, rfl⟩ .nil))

end AppConfig

end Turbobond.Config
