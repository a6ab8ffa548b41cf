import Turbobond.Lan.Gateway
import Turbobond.Lib.Netfilter

/-!
# Voice in the ruleset of the gateway

Two chains of `build_nft_ruleset` as rules: the one that redirects into the shadowsocks listener, and
the one that marks.  Both have the ports of voice before the pinned devices, but a packet leaves the
first at the first rule that applies and goes through all of the second.
-/

namespace Turbobond.Lan

open Config Util Netfilter

namespace LanGateway

variable (g : LanGateway)

def toPorts (p : Protocol) (ports : Ports) (statement : Statement String) : Rule String :=
  ⟨[.port p .destination ports], statement⟩

/-- The ports of media. -/
def rtpPorts : Ports := .range g.sip.rtpPortStart g.sip.rtpPortEnd

/-- A statement for each signalling port, of both protocols. -/
def signallingRules (statement : Statement String) : List (Rule String) :=
  g.sipPorts.flatMap fun port =>
    [toPorts .udp (.one port) statement, toPorts .tcp (.one port) statement]

/-- The chain `prerouting_redirect`. -/
def redirectionRules (activeRoute : RouteName) : List (Rule String) :=
  let redirect : Statement String := .redirect g.shadowsocks.localRedirPort
  ⟨[.inInterface g.lanInterface, .address .destination "direct_networks"], .return⟩ ::
    (g.signallingRules .return ++ [toPorts .udp g.rtpPorts .return]) ++
    (if activeRoute = .shadow then [⟨[.inInterface g.lanInterface, .protocol .tcp], redirect⟩]
      else []) ++
    [⟨[.inInterface g.lanInterface, .address .source "shadow_devices", .protocol .tcp], redirect⟩]

/-- The chain `mark_devices`. -/
def markRules : List (Rule String) :=
  toPorts .udp g.rtpPorts (.setMark markSip) :: g.signallingRules (.setMark markSip) ++
    [⟨[.address .source "shadow_devices"], .setMark markShadow⟩]

/-! ### The texts say what the rules say -/

lemma nft_toPorts (p : Protocol) (ports : Ports) (statement : Statement String) :
    (toPorts p ports statement).nft =
      "    " ++ (p.name ++ " dport " ++ (ports.nft ++ " " ++ statement.nft)) := by
  have hline : (toPorts p ports statement).nft =
      "    " ++ (p.name ++ " dport " ++ ports.nft ++ " " ++ statement.nft) := rfl
  rw [hline]
  simp only [String.append_assoc]

lemma nft_toUdp (ports : Ports) (statement : Statement String) :
    (toPorts .udp ports statement).nft = "    udp dport " ++ (ports.nft ++ " " ++ statement.nft) := by
  rw [nft_toPorts, ← String.append_assoc]
  rfl

lemma nft_toTcp (ports : Ports) (statement : Statement String) :
    (toPorts .tcp ports statement).nft = "    tcp dport " ++ (ports.nft ++ " " ++ statement.nft) := by
  rw [nft_toPorts, ← String.append_assoc]
  rfl

lemma nft_toMedia (statement : Statement String) :
    (toPorts .udp g.rtpPorts statement).nft =
      "    udp dport " ++ toString g.sip.rtpPortStart ++ "-" ++ toString g.sip.rtpPortEnd ++
        (" " ++ statement.nft) := by
  rw [nft_toUdp, rtpPorts, Ports.nft]
  simp only [String.append_assoc]

lemma map_nft_signallingRules (statement : Statement String) :
    (g.signallingRules statement).map Rule.nft = g.sipPorts.flatMap fun port =>
      ["    udp dport " ++ toString port ++ (" " ++ statement.nft),
        "    tcp dport " ++ toString port ++ (" " ++ statement.nft)] := by
  rw [signallingRules, List.map_flatMap]
  refine List.flatMap_congr fun port _ => ?_
  simp only [List.map_cons, List.map_nil, nft_toUdp, nft_toTcp, Ports.nft, String.append_assoc]

lemma nft_return : " " ++ (Statement.return : Statement String).nft = " return" := rfl

lemma nft_setMark (n : ℕ) :
    " " ++ (Statement.setMark n : Statement String).nft = " meta mark set " ++ Lan.hex n := by
  rw [Statement.nft, ← String.append_assoc]
  rfl

lemma nft_pinnedMark (n : ℕ) :
    Rule.nft ⟨[.address .source "shadow_devices"], .setMark n⟩ =
      "    ip saddr @shadow_devices meta mark set " ++ Lan.hex n := by
  have hline : Rule.nft ⟨[.address .source "shadow_devices"], .setMark n⟩ =
      "    " ++ (("ip saddr @" ++ "shadow_devices") ++ " " ++ ("meta mark set " ++ Lan.hex n)) := rfl
  rw [hline, ← String.toList_inj]
  simp [String.toList_append]

lemma nft_fromLan_direct (lan : String) :
    Rule.nft ⟨[.inInterface lan, .address .destination "direct_networks"], .return⟩ =
      "    iifname \"" ++ lan ++ "\"" ++ " ip daddr @direct_networks return" := by
  have hline : Rule.nft ⟨[.inInterface lan, .address .destination "direct_networks"], .return⟩ =
      "    " ++ ("iifname \"" ++ lan ++ "\"" ++ " " ++ ("ip daddr @" ++ "direct_networks") ++ " " ++
        "return") := rfl
  rw [hline, ← String.toList_inj]
  simp [String.toList_append]

lemma nft_fromLan_redirect (lan : String) (port : ℤ) :
    Rule.nft ⟨[.inInterface lan, .protocol .tcp], .redirect port⟩ =
      "    iifname \"" ++ lan ++ "\"" ++ (" meta l4proto tcp redirect to :" ++ toString port) := by
  have hline : Rule.nft ⟨[.inInterface lan, .protocol .tcp], .redirect port⟩ =
      "    " ++ ("iifname \"" ++ lan ++ "\"" ++ " " ++ ("meta l4proto " ++ "tcp") ++ " " ++
        ("redirect to :" ++ toString port)) := rfl
  rw [hline, ← String.toList_inj]
  simp [String.toList_append]

lemma nft_fromLan_pinned (lan : String) (port : ℤ) :
    Rule.nft ⟨[.inInterface lan, .address .source "shadow_devices", .protocol .tcp], .redirect port⟩ =
      "    iifname \"" ++ lan ++ "\"" ++ " ip saddr @shadow_devices" ++
        (" meta l4proto tcp redirect to :" ++ toString port) := by
  have hline : Rule.nft
      ⟨[.inInterface lan, .address .source "shadow_devices", .protocol .tcp], .redirect port⟩ =
      "    " ++ ("iifname \"" ++ lan ++ "\"" ++ " " ++ ("ip saddr @" ++ "shadow_devices") ++ " " ++
        ("meta l4proto " ++ "tcp") ++ " " ++ ("redirect to :" ++ toString port)) := rfl
  rw [hline, ← String.toList_inj]
  simp [String.toList_append]

/-- The lines of the redirection are its rules. -/
theorem redirection_eq (activeRoute : RouteName) :
    g.redirection activeRoute =
      if shadowsocksUsable g.shadowsocks && g.lanInterface ≠ "" then
        ["  # Transparent redirection into the local shadowsocks listener.",
          "  # LAN devices keep their default gateway; the decision is made here.",
          "  chain prerouting_redirect \x7b",
          "    type nat hook prerouting priority dstnat; policy accept;"] ++
          (g.redirectionRules activeRoute).map Rule.nft ++ ["  \x7d", ""]
      else [] := by
  rw [redirection, redirectionRules]
  simp only [List.map_cons, List.map_append, List.map_nil, map_nft_signallingRules, nft_toMedia,
    nft_fromLan_direct, nft_fromLan_pinned, nft_return]
  split_ifs with husable hshadow
  · simp only [List.map_cons, List.map_nil, nft_fromLan_redirect, List.append_assoc, List.cons_append,
      List.nil_append]
  · simp only [List.map_nil, List.append_assoc, List.cons_append, List.nil_append]
  · rfl

/-- The lines of the marks are their rules. -/
theorem marks_eq :
    g.marks =
      ["  chain mark_devices \x7b",
        "    type filter hook prerouting priority mangle; policy accept;"] ++
        g.markRules.map Rule.nft ++ ["  \x7d", "\x7d", ""] := by
  rw [marks, markRules]
  simp only [List.map_cons, List.map_append, List.map_nil, map_nft_signallingRules, nft_toMedia,
    nft_setMark, nft_pinnedMark, List.append_assoc, List.cons_append, List.nil_append]

/-! ### What becomes of voice -/

variable {α : Type} (activeRoute : RouteName)

/-- The two chains under the hook that each is for. -/
def chains : Table × Hook → List (Rule String)
  | (.nat, .prerouting) =>
    if shadowsocksUsable g.shadowsocks && g.lanInterface ≠ "" then g.redirectionRules activeRoute
    else []
  | (.mangle, .prerouting) => g.markRules
  | _ => []

/-- A packet of voice: to a signalling port, or to a port of media. -/
def IsVoice (h : Header α) : Prop :=
  (h.protocol = .udp ∨ h.protocol = .tcp) ∧
      (h.dport : ℤ) ∈ g.sip.signallingPorts ++ g.sip.tlsPorts ∨
    h.protocol = .udp ∧ g.sip.rtpPortStart ≤ h.dport ∧ (h.dport : ℤ) ≤ g.sip.rtpPortEnd

/-- A packet is not redirected, and ends with the mark of voice. -/
structure KeepsTreatment (sets : Sets α) (h : Header α) : Prop where
  notRedirected : ∀ m port,
    (Netfilter.pass sets h ⟨g.chains activeRoute, Dict.empty⟩ (.nat, .prerouting) m).2 ≠ some (.redirect port)
  marked : ∀ m,
    (Netfilter.pass sets h ⟨g.chains activeRoute, Dict.empty⟩ (.mangle, .prerouting) m).1.mark = markSip

variable {g activeRoute} {sets : Sets α} {h : Header α}

lemma mem_sipPorts {port : ℤ} :
    port ∈ g.sipPorts ↔ port ∈ g.sip.signallingPorts ++ g.sip.tlsPorts := by
  rw [sipPorts, List.mem_insertionSort, List.mem_dedup]

/-- A packet of voice meets one of the rules for its ports. -/
lemma any_applies_of_isVoice (hvoice : g.IsVoice h) (statement : Statement String) :
    (g.signallingRules statement ++ [toPorts .udp g.rtpPorts statement]).any
      (Rule.applies sets h) = true := by
  rw [List.any_append, Bool.or_eq_true]
  rcases hvoice with ⟨hprotocol, hport⟩ | ⟨hudp, hfirst, hlast⟩
  · left
    rw [List.any_eq_true]
    rcases hprotocol with hudp | htcp
    · refine ⟨toPorts .udp (.one h.dport) statement, ?_, ?_⟩
      · exact List.mem_flatMap.2 ⟨_, mem_sipPorts.2 hport, by simp⟩
      · simp [toPorts, Rule.applies, Test.holds, hudp, Ports.has, Header.port]
    · refine ⟨toPorts .tcp (.one h.dport) statement, ?_, ?_⟩
      · exact List.mem_flatMap.2 ⟨_, mem_sipPorts.2 hport, by simp⟩
      · simp [toPorts, Rule.applies, Test.holds, htcp, Ports.has, Header.port]
  · right
    simp [toPorts, rtpPorts, Rule.applies, Test.holds, hudp, Ports.has, Header.port, hfirst, hlast]

lemma statement_of_mem_voiceRules {statement : Statement String} {r : Rule String}
    (hr : r ∈ g.signallingRules statement ++ [toPorts .udp g.rtpPorts statement]) :
    r.statement = statement := by
  rcases List.mem_append.1 hr with hr | hr
  · obtain ⟨port, -, hr⟩ := List.mem_flatMap.1 hr
    simp only [List.mem_cons, List.not_mem_nil, or_false] at hr
    rcases hr with rfl | rfl
    · rfl
    · rfl
  · obtain rfl := List.mem_singleton.1 hr
    rfl

/-- Voice is never redirected: it leaves the chain before the rules that redirect. -/
theorem not_redirected (hvoice : g.IsVoice h) (m : Marks) :
    (Netfilter.pass sets h ⟨g.chains activeRoute, Dict.empty⟩ (.nat, .prerouting) m).2 = none := by
  rw [Netfilter.pass]
  simp only [chains]
  split_ifs
  · have hreturns : ∀ r ∈ (⟨[.inInterface g.lanInterface, .address .destination "direct_networks"],
        .return⟩ : Rule String) ::
          (g.signallingRules .return ++ [toPorts .udp g.rtpPorts .return]),
        r.statement.effect m = .leave none := by
      intro r hr
      rcases List.mem_cons.1 hr with rfl | hr
      · rfl
      · rw [statement_of_mem_voiceRules hr]
        rfl
    rw [redirectionRules, List.append_assoc, walk_append_of_leave hreturns, List.any_cons,
      any_applies_of_isVoice hvoice, Bool.or_true, if_pos rfl]
  · rfl

/-- The mark of voice is set, and then that of the pinned devices. -/
theorem mark_of_isVoice (hvoice : g.IsVoice h) (m : Marks) :
    (Netfilter.pass sets h ⟨g.chains activeRoute, Dict.empty⟩ (.mangle, .prerouting) m).1.mark =
      if sets.addresses "shadow_devices" h.source then markShadow else markSip := by
  have hsip : ∀ r ∈ toPorts .udp g.rtpPorts (.setMark markSip) :: g.signallingRules (.setMark markSip),
      r.statement = .setMark markSip := fun r hr =>
    statement_of_mem_voiceRules (List.mem_append.2 ((List.mem_cons.1 hr).symm.imp_right
      List.mem_singleton.2))
  have hone : (toPorts .udp g.rtpPorts (.setMark markSip) ::
      g.signallingRules (.setMark markSip)).any (Rule.applies sets h) = true := by
    have hany : (g.signallingRules (.setMark markSip) ++ [toPorts .udp g.rtpPorts (.setMark markSip)]).any
        (Rule.applies sets h) = true := any_applies_of_isVoice hvoice (.setMark markSip)
    rw [List.any_append, List.any_cons, List.any_nil, Bool.or_false, Bool.or_comm] at hany
    exact hany
  rw [Netfilter.pass]
  simp only [chains, markRules]
  rw [walk_append_of_goOn (fun m => { m with mark := markSip }) (fun _ => rfl) (fun _ => rfl) hsip,
    hone, if_pos rfl]
  -- what is left is the rule for the pinned devices
  cases hpinned : sets.addresses "shadow_devices" h.source with
  | true =>
    rw [walk_cons_of_goOn (by simpa [Rule.applies, Test.holds, Header.address] using hpinned) rfl]
    rfl
  | false =>
    rw [walk_cons_of_not_applies (by simpa [Rule.applies, Test.holds, Header.address] using hpinned)]
    rfl

/-- Voice keeps its treatment if and only if it does not come from a pinned device. -/
theorem keepsTreatment_iff (g : LanGateway) (activeRoute : RouteName) (sets : Sets α) (h : Header α)
    (hvoice : g.IsVoice h) :
    g.KeepsTreatment activeRoute sets h ↔ sets.addresses "shadow_devices" h.source = false := by
  constructor
  · intro hkeeps
    have hmark := hkeeps.marked {}
    rw [mark_of_isVoice hvoice] at hmark
    split_ifs at hmark with hpinned
    · exact absurd hmark (by decide)
    · simpa using hpinned
  · intro hpinned
    refine ⟨fun m port => ?_, fun m => ?_⟩
    · rw [not_redirected hvoice]
      exact fun h => by cases h
    · rw [mark_of_isVoice hvoice, hpinned]
      rfl

/-- A gateway for a home, with the defaults for voice. -/
def homeGateway : LanGateway where
  cfg := {}
  routes := {}
  shadowsocks := { host := "203.0.113.9", password := "secret" }
  sip := {}
  egressInterfaces := ["eth0"]
  tunnelInterface := ""
  lanInterface := "br-lan"

/-- The request that starts a call, from a device of the LAN. -/
def invite (device : String) : Header String where
  inInterface := "br-lan"
  source := device
  destination := "198.51.100.20"
  protocol := .udp
  sport := 5060
  dport := 5060

/-- One device is pinned to the shadow route. -/
def pinned (device : String) : Sets String where
  addresses name address := name = "shadow_devices" && address = device

lemma isVoice_invite (device : String) : homeGateway.IsVoice (invite device) :=
  have hport : ((5060 : ℕ) : ℤ) ∈ homeGateway.sip.signallingPorts ++ homeGateway.sip.tlsPorts := by
    decide
  .inl ⟨.inl rfl, hport⟩

/-- A call of a device that is not pinned keeps its treatment. -/
theorem keepsTreatment_invite :
    homeGateway.KeepsTreatment .direct (pinned "192.168.1.50") (invite "192.168.1.20") :=
  (keepsTreatment_iff _ _ _ _ (isVoice_invite _)).2 (by decide)

/-- A call of a device that is pinned does not. -/
theorem not_keepsTreatment_invite :
    homeGateway.IsVoice (invite "192.168.1.50") ∧
      ¬ homeGateway.KeepsTreatment .direct (pinned "192.168.1.50") (invite "192.168.1.50") := by
  refine ⟨isVoice_invite _, fun hkeeps => ?_⟩
  have hmark := hkeeps.marked {}
  rw [mark_of_isVoice (isVoice_invite _)] at hmark
  exact absurd hmark (by decide)

end LanGateway

end Turbobond.Lan
