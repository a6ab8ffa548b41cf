import Turbobond.Config.Model
import Turbobond.Util.Cmd
import Mathlib.Data.List.Sort

/-!
# The LAN gateway

`turbobond/lan/gateway.py`: the ruleset for the devices of the LAN and the commands that install it.
What the `iptables` backend installs is not followed further.
-/

namespace Turbobond.Lan

open Config Util

def nftTable : String := "turbobond_lan"

def markShadow : ℕ := 0x12

def markSip : ℕ := 0x13

/-- `hex`. -/
def hex (n : ℕ) : String := "0x" ++ String.ofList (Nat.toDigits 16 n)

/-- The table of the gateway in the kernel: the lines of the rulesets it was loaded from and the
elements of the set of pinned devices. -/
structure NftTable where
  rules : List String
  shadowDevices : List String
  deriving DecidableEq

/-- What the commands of a call return if they are executed, and which addresses are valid. -/
structure Outcomes where
  /-- `sysctl -w`, of a knob. -/
  sysctl : String → CommandResult := fun _ => {}
  deleteTable : CommandResult := {}
  /-- `nft -f`, all or nothing. -/
  load : CommandResult := {}
  flushSet : CommandResult := {}
  addElement : CommandResult := {}
  iptables : List String → CommandResult := fun _ => {}
  looksLikeIp : String → Bool := fun _ => true

structure GatewayReport where
  forwarding : Bool := false
  nat : Bool := false
  transparentProxy : Bool := false
  lanInterface : String := ""
  egressInterfaces : List String := []
  deviceRules : ℕ := 0
  errors : List String := []
  deriving DecidableEq

def GatewayReport.ok (report : GatewayReport) : Bool := report.forwarding && report.errors.isEmpty

inductive Backend where
  | nftables
  | iptables
  | none
  deriving DecidableEq

/-- The gateway, with the sections of the configuration that it shares. -/
structure LanGateway where
  cfg : LanConfig
  routes : RoutePolicy
  shadowsocks : ShadowsocksConfig
  sip : SipConfig
  egressInterfaces : List String
  tunnelInterface : String
  lanInterface : String
  lastReport : GatewayReport := {}

/-- `ShadowsocksConfig.usable`. -/
def shadowsocksUsable (cfg : ShadowsocksConfig) : Bool :=
  cfg.enabled && cfg.host ≠ "" && cfg.password ≠ ""

namespace LanGateway

variable (g : LanGateway) (host : Host) (o : Outcomes)

def backend : Backend :=
  if host.dryRun || host.which "nft" then .nftables
  else if host.which "iptables" then .iptables
  else .none

def enableForwarding : Bool :=
  if g.cfg.ipv4Forward then (run host "sysctl" (o.sysctl "net.ipv4.ip_forward")).passed else true

/-- The rule that masquerades what leaves by an interface. -/
def masqueradeRule (iface : String) : String := "    oifname \"" ++ iface ++ "\" masquerade"

/-- The rule that masquerades whatever leaves. -/
def masqueradeAll : String := "    masquerade"

/-- The masquerade rules of the ruleset. -/
def masquerades : List String :=
  if g.cfg.nat then
    (if g.tunnelInterface ≠ "" then [masqueradeRule g.tunnelInterface] else []) ++
      g.egressInterfaces.map masqueradeRule ++
      (if g.egressInterfaces.isEmpty && g.tunnelInterface = "" then [masqueradeAll] else [])
  else []

/-- The signalling ports, in order. -/
def sipPorts : List ℤ :=
  (g.sip.signallingPorts ++ g.sip.tlsPorts).dedup.insertionSort (· ≤ ·)

/-- The redirection into the shadowsocks listener. -/
def redirection (activeRoute : RouteName) : List String :=
  if shadowsocksUsable g.shadowsocks && g.lanInterface ≠ "" then
    let lan := "    iifname \"" ++ g.lanInterface ++ "\""
    let redirect := " meta l4proto tcp redirect to :" ++ toString g.shadowsocks.localRedirPort
    ["  # Transparent redirection into the local shadowsocks listener.",
      "  # LAN devices keep their default gateway; the decision is made here.",
      "  chain prerouting_redirect \x7b",
      "    type nat hook prerouting priority dstnat; policy accept;",
      lan ++ " ip daddr @direct_networks return"] ++
    (g.sipPorts.flatMap fun port =>
      ["    udp dport " ++ toString port ++ " return",
        "    tcp dport " ++ toString port ++ " return"]) ++
    ["    udp dport " ++ toString g.sip.rtpPortStart ++ "-" ++ toString g.sip.rtpPortEnd ++
      " return"] ++
    (if activeRoute = .shadow then [lan ++ redirect] else []) ++
    [lan ++ " ip saddr @shadow_devices" ++ redirect, "  \x7d", ""]
  else []

/-- The marks of voice traffic and of the pinned devices. -/
def marks : List String :=
  let sip := " meta mark set " ++ hex markSip
  ["  chain mark_devices \x7b",
    "    type filter hook prerouting priority mangle; policy accept;",
    "    udp dport " ++ toString g.sip.rtpPortStart ++ "-" ++ toString g.sip.rtpPortEnd ++ sip] ++
  (g.sipPorts.flatMap fun port =>
    ["    udp dport " ++ toString port ++ sip, "    tcp dport " ++ toString port ++ sip]) ++
  ["    ip saddr @shadow_devices meta mark set " ++ hex markShadow, "  \x7d", "\x7d", ""]

/-- `build_nft_ruleset`, line by line. -/
def buildNftRuleset (activeRoute : RouteName) : List String :=
  let direct := g.routes.directCidrs.filter fun c => c ≠ ""
  ["table inet " ++ nftTable ++ " \x7b",
    "",
    "  # Devices explicitly pinned to the shadow route.",
    "  set shadow_devices \x7b",
    "    type ipv4_addr",
    "    flags interval",
    "  \x7d",
    "",
    "  set direct_networks \x7b",
    "    type ipv4_addr",
    "    flags interval"] ++
  (if direct.isEmpty then [] else ["    elements = \x7b " ++ ", ".intercalate direct ++ " \x7d"]) ++
  ["  \x7d",
    "",
    "  chain forward \x7b",
    "    type filter hook forward priority filter; policy accept;",
    "    # The tunnel MTU is below the LAN MTU, so clamp MSS or large",
    "    # transfers through the bond stall instead of failing cleanly.",
    "    tcp flags syn tcp option maxseg size set rt mtu",
    "    ct state established,related accept",
    "  \x7d",
    "",
    "  chain postrouting \x7b",
    "    type nat hook postrouting priority srcnat; policy accept;"] ++
  g.masquerades ++ ["  \x7d", ""] ++ g.redirection activeRoute ++ g.marks

/-- `_apply_iptables`: whether some interface is masqueraded. -/
def applyIptables : Bool :=
  let targets :=
    if g.tunnelInterface ≠ "" then g.tunnelInterface :: g.egressInterfaces else g.egressInterfaces
  targets.foldl (fun ok iface =>
    let rule := ["POSTROUTING", "-o", iface, "-j", "MASQUERADE"]
    let check := run host "iptables" (o.iptables (["-t", "nat", "-C"] ++ rule))
    if check.ok then true
    else ok || (run host "iptables" (o.iptables (["-t", "nat", "-A"] ++ rule))).passed) false

/-- `nft flush set`, of the set of pinned devices. -/
def flushSet (table : Option NftTable) : Option NftTable :=
  if (run host "nft" o.flushSet).done then table.map fun t => { t with shadowDevices := [] }
  else table

/-- `nft add element`, to the set of pinned devices. -/
def addElements (ips : List String) (table : Option NftTable) : Option NftTable :=
  if (run host "nft" o.addElement).done then
    table.map fun t => { t with shadowDevices := t.shadowDevices ++ ips }
  else table

/-- `apply_device_routes`: the number of pinned devices and the table they leave. -/
def applyDeviceRoutes (table : Option NftTable) : ℕ × Option NftTable :=
  let shadowIps := g.cfg.deviceRoutes.entries.filterMap fun (ip, route) =>
    if route = .shadow ∧ o.looksLikeIp ip then some ip else none
  if backend host ≠ .nftables then (0, table)
  else
    let table := flushSet host o table
    if shadowIps.isEmpty then (0, table)
    else
      (if (run host "nft" o.addElement).passed then shadowIps.length else 0,
        addElements host o shadowIps table)

/-- `nft delete table`, as it is run before a load. -/
def deleteTable (table : Option NftTable) : Option NftTable :=
  if (run host "nft" o.deleteTable).done then none else table

/-- `nft -f`: the rules of the file come to those of the table, if there is one. -/
def loadRuleset (activeRoute : RouteName) (table : Option NftTable) : Option NftTable :=
  if (run host "nft" o.load).done then
    some
      { rules := ((table.map NftTable.rules).getD []) ++ g.buildNftRuleset activeRoute
        shadowDevices := (table.map NftTable.shadowDevices).getD [] }
  else table

/-- The error of a LAN side that could not be identified. -/
def noLanInterface : String :=
  "could not identify the LAN interface; set lan.interface if the gateway has an unusual layout"

/-- `apply`, on the gateway's table in the kernel. -/
def apply (activeRoute : RouteName) (table : Option NftTable) :
    GatewayReport × LanGateway × Option NftTable :=
  let report : GatewayReport :=
    { lanInterface := g.lanInterface, egressInterfaces := g.egressInterfaces }
  if !g.cfg.enabled then
    let report := { report with errors := ["LAN gateway mode is disabled in the configuration"] }
    (report, { g with lastReport := report }, table)
  else
    let report :=
      { report with
        forwarding := g.enableForwarding host o
        errors := if g.lanInterface = "" then [noLanInterface] else [] }
    let (report, table) :=
      match backend host with
      | .nftables =>
        let result := run host "nft" o.load
        let report :=
          if result.passed then
            { report with nat := g.cfg.nat, transparentProxy := shadowsocksUsable g.shadowsocks }
          else
            { report with errors :=
                report.errors ++ ["LAN ruleset rejected: " ++ result.stderr.trimAscii.toString] }
        (report, g.loadRuleset host o activeRoute (deleteTable host o table))
      | .iptables =>
        ({ report with
            nat := g.applyIptables host o
            transparentProxy := shadowsocksUsable g.shadowsocks }, table)
      | .none =>
        ({ report with errors := report.errors ++
            ["neither nft nor iptables is installed, so LAN NAT was not configured"] }, table)
    let (deviceRules, table) := g.applyDeviceRoutes host o table
    let report := { report with deviceRules }
    (report, { g with lastReport := report }, table)

/-! ### What the commands leave in the kernel -/

lemma rules_flushSet (table : Option NftTable) :
    (flushSet host o table).map NftTable.rules = table.map NftTable.rules := by
  rw [flushSet]
  split
  · rw [Option.map_map]
    rfl
  · rfl

lemma rules_addElements (ips : List String) (table : Option NftTable) :
    (addElements host o ips table).map NftTable.rules = table.map NftTable.rules := by
  rw [addElements]
  split
  · rw [Option.map_map]
    rfl
  · rfl

/-- The pins of the devices leave the rules alone. -/
lemma rules_applyDeviceRoutes (table : Option NftTable) :
    (g.applyDeviceRoutes host o table).2.map NftTable.rules = table.map NftTable.rules := by
  rw [applyDeviceRoutes]
  split
  · rfl
  · simp only []
    split
    · exact rules_flushSet host o table
    · exact (rules_addElements host o _ _).trans (rules_flushSet host o table)

/-- The masquerade rules are part of the ruleset. -/
lemma mem_buildNftRuleset {rule : String} (h : rule ∈ g.masquerades) (activeRoute : RouteName) :
    rule ∈ g.buildNftRuleset activeRoute := by
  rw [buildNftRuleset]
  simp only [List.mem_append]
  exact .inl (.inl (.inl (.inr h)))

/-- `apply` changes the report of a gateway and nothing else. -/
lemma gateway_apply (activeRoute : RouteName) (table : Option NftTable) :
    ∃ report, (g.apply host o activeRoute table).2.1 = { g with lastReport := report } := by
  rw [apply]
  split
  · exact ⟨_, rfl⟩
  · exact ⟨_, rfl⟩

/-- The rules that `apply` leaves with `nft`: the old table goes if the first command can delete it,
and the new ruleset comes if it is accepted. -/
lemma rules_apply (henabled : g.cfg.enabled = true) (hnft : backend host = .nftables)
    (activeRoute : RouteName) (table : Option NftTable) :
    (g.apply host o activeRoute table).2.2.map NftTable.rules =
      (g.loadRuleset host o activeRoute (deleteTable host o table)).map NftTable.rules := by
  rw [apply, henabled, hnft]
  exact rules_applyDeviceRoutes g host o _

/-- `switch_route`. -/
def switchRoute (activeRoute : RouteName) (table : Option NftTable) :
    Bool × LanGateway × Option NftTable :=
  let (report, g, table) := g.apply host o activeRoute table
  (report.ok, g, table)

end LanGateway

end Turbobond.Lan
