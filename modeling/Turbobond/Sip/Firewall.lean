import Turbobond.Config.Model
import Turbobond.Util.Iptables
import Mathlib.Data.List.Sort

/-!
# The firewall for voice

`turbobond/sip/firewall.py`: the two rulesets, as the source writes them and as rules, and the calls
that install and remove the one for `iptables`.
-/

namespace Turbobond.Sip

open Config Util Netfilter

def nftTable : String := "turbobond"

def iptChain : String := "TURBOBOND_SIP"

/-- `SIP_HELPER_MODULES`. -/
def sipHelperModules : List String := ["nf_nat_sip", "nf_conntrack_sip"]

inductive Backend where
  | nftables
  | iptables
  | none
  deriving DecidableEq

def backendInUse (host : Host) : Backend :=
  if host.dryRun then .nftables
  else if host.which "nft" then .nftables
  else if host.which "iptables" then .iptables
  else .none

/-! ### The ports -/

variable (cfg : SipConfig)

/-- `all_ports`: the signalling ports, in order. -/
def allPorts : List ℤ := (cfg.signallingPorts ++ cfg.tlsPorts).dedup.insertionSort (· ≤ ·)

def rtpRange : String := toString cfg.rtpPortStart ++ "-" ++ toString cfg.rtpPortEnd

/-- `_port_set`. -/
def portSet : String := braces ((allPorts cfg).map toString)

def sipPorts : Ports := .named "sip_ports"

def rtpPorts : Ports := .named "rtp_ports"

/-! ### The ruleset for `nft` -/

/-- A rule for a protocol and the ports at one end. -/
def onPort (p : Protocol) (e : End) (ports : Ports) (statement : Statement String) : Rule String :=
  ⟨[.port p e ports], statement⟩

/-- A statement for the signalling ports of both protocols and for the ports of media, at both
ends. -/
def voiceRules (statement : Statement String) : List (Rule String) :=
  [onPort .udp .destination sipPorts statement, onPort .udp .source sipPorts statement,
    onPort .tcp .destination sipPorts statement, onPort .tcp .source sipPorts statement,
    onPort .udp .destination rtpPorts statement, onPort .udp .source rtpPorts statement]

/-- `_nft_accept_rules`. -/
def nftAcceptRules : List (Rule String) :=
  if cfg.wideOpen then
    voiceRules .accept ++
      [onPort .sctp .destination sipPorts .accept, onPort .sctp .source sipPorts .accept,
        ⟨[.icmpType [3, 11]], .accept⟩]
  else
    [⟨[.ctState [.established, .related]], .accept⟩,
      ⟨[.port .udp .destination sipPorts, .ctState [.new]], .accept⟩,
      ⟨[.port .tcp .destination sipPorts, .ctState [.new]], .accept⟩]

def nftMangleOutput : List (Rule String) :=
  [onPort .udp .destination rtpPorts (.setDscp cfg.dscpMedia),
    onPort .udp .source rtpPorts (.setDscp cfg.dscpMedia),
    onPort .udp .destination sipPorts (.setDscp cfg.dscpSignalling),
    onPort .tcp .destination sipPorts (.setDscp cfg.dscpSignalling)]

def nftManglePrerouting : List (Rule String) :=
  [onPort .udp .destination rtpPorts (.setDscp cfg.dscpMedia),
    onPort .udp .destination sipPorts (.setDscp cfg.dscpSignalling),
    onPort .tcp .destination sipPorts (.setDscp cfg.dscpSignalling)]

/-- The chains of the ruleset, each under the hook that it is for. -/
def nftChains : Table × Hook → List (Rule String)
  | (.raw, .prerouting) | (.raw, .output) =>
    if cfg.wideOpen && cfg.disableConntrackHelper then voiceRules .notrack else []
  | (.filter, .input) | (.filter, .output) | (.filter, .forward) => nftAcceptRules cfg
  | (.mangle, .output) => nftMangleOutput cfg
  | (.mangle, .prerouting) => nftManglePrerouting cfg
  | _ => []

/-- `_nft_accept_rules`, line by line. -/
def nftAcceptLines : List String :=
  if cfg.wideOpen then
    ["    udp dport @sip_ports accept",
      "    udp sport @sip_ports accept",
      "    tcp dport @sip_ports accept",
      "    tcp sport @sip_ports accept",
      "    udp dport @rtp_ports accept",
      "    udp sport @rtp_ports accept",
      "    sctp dport @sip_ports accept",
      "    sctp sport @sip_ports accept",
      "    meta l4proto icmp icmp type \x7b destination-unreachable, time-exceeded \x7d accept"]
  else
    ["    ct state established,related accept",
      "    udp dport @sip_ports ct state new accept",
      "    tcp dport @sip_ports ct state new accept"]

def notrackLines : List String :=
  ["    udp dport @sip_ports notrack",
    "    udp sport @sip_ports notrack",
    "    tcp dport @sip_ports notrack",
    "    tcp sport @sip_ports notrack",
    "    udp dport @rtp_ports notrack",
    "    udp sport @rtp_ports notrack",
    "  \x7d",
    ""]

/-- `build_nft_ruleset`, line by line. -/
def buildNftRuleset : List String :=
  let media := toString cfg.dscpMedia
  let signalling := toString cfg.dscpSignalling
  ["table inet " ++ nftTable ++ " \x7b",
    "",
    "  # SIP signalling ports, kept in a named set so they can be updated",
    "  # without reloading the whole ruleset.",
    "  set sip_ports \x7b",
    "    type inet_service",
    "    flags interval",
    "    elements = " ++ portSet cfg,
    "  \x7d",
    "",
    "  set rtp_ports \x7b",
    "    type inet_service",
    "    flags interval",
    "    elements = \x7b " ++ rtpRange cfg ++ " \x7d",
    "  \x7d",
    ""] ++
  (if cfg.wideOpen && cfg.disableConntrackHelper then
    ["  # Exempt voice traffic from connection tracking entirely. Without",
      "  # this, inbound INVITEs with no matching outbound flow are dropped",
      "  # and long-lived registrations expire out of the conntrack table.",
      "  chain raw_prerouting \x7b",
      "    type filter hook prerouting priority raw; policy accept;"] ++ notrackLines ++
    ["  chain raw_output \x7b",
      "    type filter hook output priority raw; policy accept;"] ++ notrackLines
  else []) ++
  ["  # Priority below the standard filter hook so these accepts are",
    "  # evaluated before any pre-existing DROP policy on the host.",
    "  chain input \x7b",
    "    type filter hook input priority filter - 10; policy accept;"] ++ nftAcceptLines cfg ++
  ["  \x7d",
    "",
    "  chain output \x7b",
    "    type filter hook output priority filter - 10; policy accept;"] ++ nftAcceptLines cfg ++
  ["  \x7d",
    "",
    "  chain forward \x7b",
    "    type filter hook forward priority filter - 10; policy accept;"] ++ nftAcceptLines cfg ++
  ["  \x7d",
    "",
    "  # Mark and prioritise voice so it wins every queue on the box.",
    "  chain mangle_output \x7b",
    "    type route hook output priority mangle; policy accept;",
    "    udp dport @rtp_ports ip dscp set " ++ media,
    "    udp sport @rtp_ports ip dscp set " ++ media,
    "    udp dport @sip_ports ip dscp set " ++ signalling,
    "    tcp dport @sip_ports ip dscp set " ++ signalling,
    "  \x7d",
    "",
    "  chain mangle_prerouting \x7b",
    "    type filter hook prerouting priority mangle; policy accept;",
    "    udp dport @rtp_ports ip dscp set " ++ media,
    "    udp dport @sip_ports ip dscp set " ++ signalling,
    "    tcp dport @sip_ports ip dscp set " ++ signalling,
    "  \x7d",
    "\x7d",
    ""]

/-! ### The rules for `iptables` -/

/-- The signalling ports as a list, and the ports of media as a range. -/
def portList : Ports := .list (allPorts cfg)

def mediaRange : Ports := .range cfg.rtpPortStart cfg.rtpPortEnd

/-- The rules of the chain of its own. -/
def iptChainRules : List (Rule String) :=
  (if cfg.wideOpen then
    ([Protocol.udp, .tcp].flatMap fun proto =>
      [onPort proto .destination (portList cfg) .accept, onPort proto .source (portList cfg) .accept]) ++
    [onPort .udp .destination (mediaRange cfg) .accept, onPort .udp .source (mediaRange cfg) .accept,
      ⟨[.icmpType [3]], .accept⟩]
  else
    [⟨[.ctState [.established, .related]], .accept⟩,
      onPort .udp .destination (portList cfg) .accept]) ++
  [⟨[], .return⟩]

/-- The rule that sends packets through that chain. -/
def hookRule : Rule String := ⟨[], .jump iptChain⟩

/-- The built-in chains that it is hooked into. -/
def hooked : List (Table × Hook) := [(.filter, .input), (.filter, .output), (.filter, .forward)]

/-- What is added to the built-in chains. -/
def iptAdditions : List Iptables.Command :=
  hooked.map (fun b => .insert (.builtin b) hookRule) ++
  (if cfg.wideOpen && cfg.disableConntrackHelper then
    ([Protocol.udp, .tcp].flatMap fun proto =>
      [.insert (.builtin (.raw, .prerouting)) (onPort proto .destination (portList cfg) .notrack),
        .insert (.builtin (.raw, .output)) (onPort proto .destination (portList cfg) .notrack)]) ++
    [.insert (.builtin (.raw, .prerouting)) (onPort .udp .destination (mediaRange cfg) .notrack),
      .insert (.builtin (.raw, .output)) (onPort .udp .destination (mediaRange cfg) .notrack)]
  else []) ++
  [.append (.builtin (.mangle, .output))
      (onPort .udp .destination (mediaRange cfg) (.setDscp cfg.dscpMedia)),
    .append (.builtin (.mangle, .output))
      (onPort .udp .destination (portList cfg) (.setDscp cfg.dscpSignalling))]

/-- The commands that `build_iptables_rules` lists. -/
def iptCommands : List Iptables.Command :=
  [.new iptChain, .flush (.user iptChain)] ++
    (iptChainRules cfg).map (fun r => .append (.user iptChain) r) ++ iptAdditions cfg

/-- `build_iptables_rules`. -/
def buildIptablesRules : List (List String) :=
  let portsCsv := ",".intercalate ((allPorts cfg).map toString)
  let rtp := toString cfg.rtpPortStart ++ ":" ++ toString cfg.rtpPortEnd
  [["iptables", "-N", iptChain],
    ["iptables", "-F", iptChain]] ++
  (if cfg.wideOpen then
    (["udp", "tcp"].flatMap fun proto =>
      [["iptables", "-A", iptChain, "-p", proto, "-m", "multiport", "--dports", portsCsv, "-j", "ACCEPT"],
        ["iptables", "-A", iptChain, "-p", proto, "-m", "multiport", "--sports", portsCsv, "-j", "ACCEPT"]]) ++
    [["iptables", "-A", iptChain, "-p", "udp", "--dport", rtp, "-j", "ACCEPT"],
      ["iptables", "-A", iptChain, "-p", "udp", "--sport", rtp, "-j", "ACCEPT"],
      ["iptables", "-A", iptChain, "-p", "icmp", "--icmp-type", "destination-unreachable", "-j", "ACCEPT"]]
  else
    [["iptables", "-A", iptChain, "-m", "conntrack", "--ctstate", "ESTABLISHED,RELATED", "-j", "ACCEPT"],
      ["iptables", "-A", iptChain, "-p", "udp", "-m", "multiport", "--dports", portsCsv, "-j", "ACCEPT"]]) ++
  [["iptables", "-A", iptChain, "-j", "RETURN"]] ++
  (["INPUT", "OUTPUT", "FORWARD"].map fun builtin =>
    ["iptables", "-I", builtin, "1", "-j", iptChain]) ++
  (if cfg.wideOpen && cfg.disableConntrackHelper then
    (["udp", "tcp"].flatMap fun proto =>
      [["iptables", "-t", "raw", "-I", "PREROUTING", "1", "-p", proto,
          "-m", "multiport", "--dports", portsCsv, "-j", "NOTRACK"],
        ["iptables", "-t", "raw", "-I", "OUTPUT", "1", "-p", proto,
          "-m", "multiport", "--dports", portsCsv, "-j", "NOTRACK"]]) ++
    [["iptables", "-t", "raw", "-I", "PREROUTING", "1", "-p", "udp", "--dport", rtp, "-j", "NOTRACK"],
      ["iptables", "-t", "raw", "-I", "OUTPUT", "1", "-p", "udp", "--dport", rtp, "-j", "NOTRACK"]]
  else []) ++
  [["iptables", "-t", "mangle", "-A", "OUTPUT", "-p", "udp", "--dport", rtp,
      "-j", "DSCP", "--set-dscp", toString cfg.dscpMedia],
    ["iptables", "-t", "mangle", "-A", "OUTPUT", "-p", "udp",
      "-m", "multiport", "--dports", portsCsv, "-j", "DSCP", "--set-dscp", toString cfg.dscpSignalling]]

/-! ### The texts say what the rules say -/

lemma nftAcceptLines_eq : nftAcceptLines cfg = (nftAcceptRules cfg).map Rule.nft := by
  rw [nftAcceptLines, nftAcceptRules]
  cases cfg.wideOpen with
  | true => decide
  | false => decide

lemma notrackLines_eq : notrackLines = (voiceRules .notrack).map Rule.nft ++ ["  \x7d", ""] := by
  decide

lemma nft_setDscp (p : Protocol) (e : End) (ports : Ports) (value : ℤ) :
    (onPort p e ports (.setDscp value)).nft =
      "    " ++ (Test.port p e ports).nft ++ " ip dscp set " ++ toString value := by
  have hline : (onPort p e ports (.setDscp value)).nft =
      "    " ++ ((Test.port p e ports).nft ++ " " ++ ("ip dscp set " ++ toString value)) := rfl
  have hword : " ip dscp set " = " " ++ "ip dscp set " := rfl
  rw [hline, hword]
  simp only [String.append_assoc]

/-- A chain with what is written above it. -/
def chainLines (comment : List String) (name type : String) (rules : List (Rule String)) :
    List String :=
  comment ++ ["  chain " ++ name ++ " \x7b", "    type " ++ type ++ "; policy accept;"] ++
    rules.map Rule.nft ++ ["  \x7d"]

/-- The two sets of ports. -/
def setLines : List String :=
  ["table inet " ++ nftTable ++ " \x7b",
    "",
    "  # SIP signalling ports, kept in a named set so they can be updated",
    "  # without reloading the whole ruleset.",
    "  set sip_ports \x7b",
    "    type inet_service",
    "    flags interval",
    "    elements = " ++ portSet cfg,
    "  \x7d",
    "",
    "  set rtp_ports \x7b",
    "    type inet_service",
    "    flags interval",
    "    elements = \x7b " ++ rtpRange cfg ++ " \x7d",
    "  \x7d",
    ""]

/-- The ruleset is the sets and the chains, each under the hook and the priority of its table. -/
theorem buildNftRuleset_eq :
    buildNftRuleset cfg = setLines cfg ++
      (if cfg.wideOpen && cfg.disableConntrackHelper then
        chainLines
          ["  # Exempt voice traffic from connection tracking entirely. Without",
            "  # this, inbound INVITEs with no matching outbound flow are dropped",
            "  # and long-lived registrations expire out of the conntrack table."]
          "raw_prerouting" "filter hook prerouting priority raw" (nftChains cfg (.raw, .prerouting)) ++
        [""] ++
        chainLines [] "raw_output" "filter hook output priority raw" (nftChains cfg (.raw, .output)) ++
        [""]
      else []) ++
      chainLines
        ["  # Priority below the standard filter hook so these accepts are",
          "  # evaluated before any pre-existing DROP policy on the host."]
        "input" "filter hook input priority filter - 10" (nftChains cfg (.filter, .input)) ++ [""] ++
      chainLines [] "output" "filter hook output priority filter - 10"
        (nftChains cfg (.filter, .output)) ++ [""] ++
      chainLines [] "forward" "filter hook forward priority filter - 10"
        (nftChains cfg (.filter, .forward)) ++ [""] ++
      chainLines ["  # Mark and prioritise voice so it wins every queue on the box."]
        "mangle_output" "route hook output priority mangle" (nftChains cfg (.mangle, .output)) ++
      [""] ++
      chainLines [] "mangle_prerouting" "filter hook prerouting priority mangle"
        (nftChains cfg (.mangle, .prerouting)) ++
      ["\x7d", ""] := by
  have hmedia : (Test.port .udp .destination rtpPorts).nft = "udp dport @rtp_ports" := by decide
  have hmedia' : (Test.port .udp .source rtpPorts).nft = "udp sport @rtp_ports" := by decide
  have hudp : (Test.port .udp .destination sipPorts).nft = "udp dport @sip_ports" := by decide
  have htcp : (Test.port .tcp .destination sipPorts).nft = "tcp dport @sip_ports" := by decide
  unfold buildNftRuleset
  simp only [nftChains, nftAcceptLines_eq, notrackLines_eq, chainLines, nftMangleOutput,
    nftManglePrerouting, List.map_cons, List.map_nil, nft_setDscp, setLines, hmedia, hmedia', hudp, htcp,
    String.reduceAppend]
  cases cfg.wideOpen && cfg.disableConntrackHelper with
  | true => simp only [if_true, List.append_assoc, List.cons_append, List.nil_append]
  | false =>
    simp only [Bool.false_eq_true, if_false, List.append_assoc, List.cons_append, List.nil_append]

/-- The commands of the source are those on the rules. -/
theorem buildIptablesRules_eq :
    buildIptablesRules cfg = (iptCommands cfg).map Iptables.Command.args := by
  rw [buildIptablesRules, iptCommands, iptChainRules, iptAdditions]
  cases cfg.wideOpen with
  | true =>
    cases cfg.disableConntrackHelper with
    | true => rfl
    | false => rfl
  | false => rfl

end Turbobond.Sip
