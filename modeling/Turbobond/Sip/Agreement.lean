import Turbobond.Sip.Chains

/-!
# The two backends

What the ruleset for `nft` and the rules for `iptables` do to a packet, each on a host without other
rules.
-/

namespace Turbobond.Sip

open Config Util Netfilter

variable {α : Type} (cfg : SipConfig) (h : Header α)

/-- The sets that the ruleset for `nft` defines. -/
def portSets : Sets α where
  ports name port :=
    if name = "sip_ports" then (port : ℤ) ∈ allPorts cfg
    else name = "rtp_ports" && cfg.rtpPortStart ≤ port && (port : ℤ) ≤ cfg.rtpPortEnd

/-- The chains of the ruleset for `nft`. -/
def nftTables : Iptables := ⟨nftChains cfg, Dict.empty⟩

/-- The chains that the commands for `iptables` leave. -/
def iptTables : Iptables := Firewall.execAll ⟨fun _ => [], Dict.empty⟩ (iptCommands cfg)

/-- What the rules of a hook do to a packet: whether it is explicitly accepted, whether it is
exempted from connection tracking, and the DSCP value it is given. -/
structure Treatment where
  accepted : Bool
  exempted : Bool
  dscp : Option ℤ
  deriving DecidableEq

def treatment (fw : Iptables) (hook : Hook) : Treatment where
  accepted := (Netfilter.pass (portSets cfg) h fw (.filter, hook) {}).2 = some .accept
  exempted := !(Netfilter.pass (portSets cfg) h fw (.raw, hook) {}).1.tracked
  dscp := (Netfilter.pass (portSets cfg) h fw (.mangle, hook) {}).1.dscp

/-! ### What the packet is -/

/-- One of its ports is a signalling port. -/
def atSip (e : End) : Bool := (h.port e : ℤ) ∈ allPorts cfg

/-- One of its ports is a port of media. -/
def atMedia (e : End) : Bool := cfg.rtpPortStart ≤ h.port e && (h.port e : ℤ) ≤ cfg.rtpPortEnd

/-- It is of a protocol for signalling. -/
def signals : Bool := h.protocol = .udp || h.protocol = .tcp

/-! ### What is done to it -/

def nftAccepted : Bool :=
  if cfg.wideOpen then
    (signals h || h.protocol = .sctp) && (atSip cfg h .source || atSip cfg h .destination) ||
      h.protocol = .udp && (atMedia cfg h .source || atMedia cfg h .destination) ||
      h.protocol = .icmp && (h.icmpType = 3 || h.icmpType = 11)
  else
    h.ctState = .established || h.ctState = .related ||
      signals h && atSip cfg h .destination && h.ctState = .new

def iptAccepted : Bool :=
  if cfg.wideOpen then
    fewPorts cfg && signals h && (atSip cfg h .source || atSip cfg h .destination) ||
      h.protocol = .udp && (atMedia cfg h .source || atMedia cfg h .destination) ||
      h.protocol = .icmp && h.icmpType = 3
  else
    h.ctState = .established || h.ctState = .related ||
      fewPorts cfg && h.protocol = .udp && atSip cfg h .destination

def nftExempted : Bool :=
  exempting cfg && (signals h && (atSip cfg h .source || atSip cfg h .destination) ||
    h.protocol = .udp && (atMedia cfg h .source || atMedia cfg h .destination))

def iptExempted : Bool :=
  exempting cfg && (fewPorts cfg && signals h && atSip cfg h .destination ||
    h.protocol = .udp && atMedia cfg h .destination)

def nftDscp : Hook → Option ℤ
  | .output =>
    if signals h && atSip cfg h .destination then some cfg.dscpSignalling
    else if h.protocol = .udp && (atMedia cfg h .source || atMedia cfg h .destination) then
      some cfg.dscpMedia
    else none
  | .prerouting =>
    if signals h && atSip cfg h .destination then some cfg.dscpSignalling
    else if h.protocol = .udp && atMedia cfg h .destination then some cfg.dscpMedia
    else none
  | _ => none

def iptDscp : Hook → Option ℤ
  | .output =>
    if fewPorts cfg && h.protocol = .udp && atSip cfg h .destination then some cfg.dscpSignalling
    else if h.protocol = .udp && atMedia cfg h .destination then some cfg.dscpMedia
    else none
  | _ => none

/-- The hooks of packets that are accepted or not. -/
def Filters (hook : Hook) : Prop := hook = .input ∨ hook = .output ∨ hook = .forward

instance : DecidablePred Filters := fun _ => inferInstanceAs (Decidable (_ ∨ _))

/-- The hooks before connection tracking. -/
def Early (hook : Hook) : Prop := hook = .prerouting ∨ hook = .output

instance : DecidablePred Early := fun _ => inferInstanceAs (Decidable (_ ∨ _))

variable {cfg h} {call : String → Marks → Marks × Option Verdict} {m : Marks}

/-- Among rules that all accept, one that applies decides. -/
lemma walk_accepts {l : List (Rule String)} (hl : ∀ r ∈ l, r.statement = .accept) :
    walk (portSets cfg) h call l m =
      (m, if l.any (Rule.applies (portSets cfg) h) then some .accept else none) := by
  have hwalk : walk (portSets cfg) h call (l ++ []) m =
      if l.any (Rule.applies (portSets cfg) h) then (m, some .accept)
      else walk (portSets cfg) h call [] m :=
    walk_append_of_leave fun r hr => by rw [hl r hr]; rfl
  rw [List.append_nil] at hwalk
  rw [hwalk]
  split_ifs
  · rfl
  · rfl

lemma applies_onPort (p : Protocol) (e : End) (ports : Ports) (s : Statement String) :
    (onPort p e ports s).applies (portSets cfg) h =
      (h.protocol = p && ports.has (portSets cfg : Sets α) (h.port e)) := by
  simp [onPort, Rule.applies, Test.holds]

lemma applies_icmpType (types : List ℕ) (s : Statement String) :
    Rule.applies (portSets cfg) h ⟨[.icmpType types], s⟩ =
      (h.protocol = .icmp && h.icmpType ∈ types) := by
  simp [Rule.applies, Test.holds]

lemma applies_ctState (states : List CtState) (s : Statement String) :
    Rule.applies (portSets cfg) h ⟨[.ctState states], s⟩ = (h.ctState ∈ states) := by
  simp [Rule.applies, Test.holds]

lemma applies_onPort_ctState (p : Protocol) (e : End) (ports : Ports) (states : List CtState)
    (s : Statement String) :
    Rule.applies (portSets cfg) h ⟨[.port p e ports, .ctState states], s⟩ =
      (h.protocol = p && ports.has (portSets cfg : Sets α) (h.port e) && h.ctState ∈ states) := by
  simp [Rule.applies, Test.holds]

lemma has_sipPorts (e : End) : sipPorts.has (portSets cfg : Sets α) (h.port e) = atSip cfg h e := by
  simp [sipPorts, Ports.has, portSets, atSip]

lemma has_rtpPorts (e : End) : rtpPorts.has (portSets cfg : Sets α) (h.port e) = atMedia cfg h e := by
  simp [rtpPorts, Ports.has, portSets, atMedia]

lemma has_portList (e : End) :
    (portList cfg).has (portSets cfg : Sets α) (h.port e) = atSip cfg h e := by
  simp [portList, Ports.has, atSip]

lemma has_mediaRange (e : End) :
    (mediaRange cfg).has (portSets cfg : Sets α) (h.port e) = atMedia cfg h e := by
  simp [mediaRange, Ports.has, atMedia]

/-- The chains of `nft` that accept. -/
lemma accepted_nft : (walk (portSets cfg) h call (nftAcceptRules cfg) m).2 =
    if nftAccepted cfg h then some .accept else none := by
  have hsame : ∀ r ∈ nftAcceptRules cfg, r.statement = .accept := by
    rw [nftAcceptRules, voiceRules]
    cases cfg.wideOpen <;> simp [onPort]
  have hany : (nftAcceptRules cfg).any (Rule.applies (portSets cfg) h) = nftAccepted cfg h := by
    rw [nftAcceptRules, nftAccepted, voiceRules, signals, Bool.eq_iff_iff]
    cases cfg.wideOpen with
    | true =>
      simp [applies_onPort, applies_icmpType, has_sipPorts, has_rtpPorts]
      grind
    | false =>
      simp [applies_ctState, applies_onPort_ctState, has_sipPorts]
      grind
  rw [walk_accepts hsame, hany]

/-- The chain of its own for `iptables`. -/
lemma accepted_ipt : (walk (portSets cfg) h call (ownRules cfg) m).2 =
    if iptAccepted cfg h then some .accept else none := by
  rw [ownRules]
  set accepts := if cfg.wideOpen then _ else _ with haccepts
  have hsame : ∀ r ∈ accepts, r.statement = .accept := by
    rw [haccepts, ifFew, ifFew]
    cases cfg.wideOpen <;> cases fewPorts cfg <;> simp [onPort]
  have hany : accepts.any (Rule.applies (portSets cfg) h) = iptAccepted cfg h := by
    rw [haccepts, iptAccepted, ifFew, ifFew, signals, Bool.eq_iff_iff]
    cases cfg.wideOpen with
    | true =>
      cases fewPorts cfg <;> simp [applies_onPort, applies_icmpType, has_portList, has_mediaRange]
      · grind
      · grind
    | false =>
      cases fewPorts cfg <;> simp [applies_onPort, applies_ctState, has_portList]
  rw [walk_append_of_leave (v := some .accept) fun r hr => by rw [hsame r hr]; rfl, hany]
  split_ifs
  · rfl
  · rfl

lemma walk_notracks {l : List (Rule String)} (hl : ∀ r ∈ l, r.statement = .notrack) :
    (walk (portSets cfg) h call l m).1.tracked =
      (m.tracked && !l.any (Rule.applies (portSets cfg) h)) := by
  have hwalk : walk (portSets cfg) h call (l ++ []) m = walk (portSets cfg) h call []
      (if l.any (Rule.applies (portSets cfg) h) then { m with tracked := false } else m) :=
    walk_append_of_goOn (s := .notrack) (fun m => { m with tracked := false }) (fun _ => rfl)
      (fun _ => rfl) hl
  rw [List.append_nil] at hwalk
  rw [hwalk]
  cases l.any (Rule.applies (portSets cfg) h) <;> simp [walk]

/-- Rules that set one value, and then rules that set another. -/
lemma walk_setDscps (v v' : ℤ) {l l' : List (Rule String)}
    (hl : ∀ r ∈ l, r.statement = .setDscp v) (hl' : ∀ r ∈ l', r.statement = .setDscp v') :
    (walk (portSets cfg) h call (l ++ l') m).1.dscp =
      if l'.any (Rule.applies (portSets cfg) h) then some v'
      else if l.any (Rule.applies (portSets cfg) h) then some v else m.dscp := by
  rw [walk_append_of_goOn (fun m => { m with dscp := some v }) (fun _ => rfl) (fun _ => rfl) hl,
    ← List.append_nil l',
    walk_append_of_goOn (fun m => { m with dscp := some v' }) (fun _ => rfl) (fun _ => rfl) hl',
    List.append_nil]
  cases l.any (Rule.applies (portSets cfg) h) <;>
    cases l'.any (Rule.applies (portSets cfg) h) <;> simp [walk]

lemma any_voiceRules (s : Statement String) :
    (voiceRules s).any (Rule.applies (portSets cfg) h) =
      (signals h && (atSip cfg h .source || atSip cfg h .destination) ||
        h.protocol = .udp && (atMedia cfg h .source || atMedia cfg h .destination)) := by
  rw [voiceRules, signals, Bool.eq_iff_iff]
  simp [applies_onPort, has_sipPorts, has_rtpPorts]
  grind

lemma exempted_nft : (walk (portSets cfg) h call
    (if cfg.wideOpen && cfg.disableConntrackHelper then voiceRules .notrack else []) {}).1.tracked =
      !nftExempted cfg h := by
  rw [nftExempted, exempting]
  cases cfg.wideOpen && cfg.disableConntrackHelper with
  | true =>
    rw [if_pos rfl, walk_notracks (by simp [voiceRules, onPort]), any_voiceRules]
    simp
  | false => rfl

lemma dscp_nftMangleOutput :
    (walk (portSets cfg) h call (nftMangleOutput cfg) {}).1.dscp = nftDscp cfg h .output := by
  have hsplit : nftMangleOutput cfg =
      [onPort .udp .destination rtpPorts (.setDscp cfg.dscpMedia),
        onPort .udp .source rtpPorts (.setDscp cfg.dscpMedia)] ++
      [onPort .udp .destination sipPorts (.setDscp cfg.dscpSignalling),
        onPort .tcp .destination sipPorts (.setDscp cfg.dscpSignalling)] := rfl
  rw [hsplit, walk_setDscps cfg.dscpMedia cfg.dscpSignalling (by simp [onPort])
    (by simp [onPort])]
  simp only [List.any_cons, List.any_nil, Bool.or_false, applies_onPort, has_sipPorts, has_rtpPorts,
    nftDscp, signals, ← Bool.and_or_distrib_left, ← Bool.and_or_distrib_right,
    Bool.or_comm (atMedia cfg h .destination)]
  rfl

lemma dscp_nftManglePrerouting :
    (walk (portSets cfg) h call (nftManglePrerouting cfg) {}).1.dscp =
      nftDscp cfg h .prerouting := by
  have hsplit : nftManglePrerouting cfg =
      [onPort .udp .destination rtpPorts (.setDscp cfg.dscpMedia)] ++
      [onPort .udp .destination sipPorts (.setDscp cfg.dscpSignalling),
        onPort .tcp .destination sipPorts (.setDscp cfg.dscpSignalling)] := rfl
  rw [hsplit, walk_setDscps cfg.dscpMedia cfg.dscpSignalling (by simp [onPort])
    (by simp [onPort])]
  simp only [List.any_cons, List.any_nil, Bool.or_false, applies_onPort, has_sipPorts, has_rtpPorts,
    nftDscp, signals, ← Bool.and_or_distrib_right]
  rfl

variable (cfg h) in
/-- What the ruleset for `nft` does. -/
theorem treatment_nft (hook : Hook) :
    treatment cfg h (nftTables cfg) hook =
      ⟨Filters hook && nftAccepted cfg h, Early hook && nftExempted cfg h, nftDscp cfg h hook⟩ := by
  have haccepted : decide ((Netfilter.pass (portSets cfg) h (nftTables cfg) (.filter, hook) {}).2 =
      some .accept) =
      (Filters hook && nftAccepted cfg h) := by
    cases hook with
    | prerouting => rfl
    | postrouting => rfl
    | _ =>
      rw [Netfilter.pass]
      simp only [nftTables, nftChains, accepted_nft]
      cases nftAccepted cfg h <;> rfl
  have hexempted : (!(Netfilter.pass (portSets cfg) h (nftTables cfg) (.raw, hook) {}).1.tracked) =
      (Early hook && nftExempted cfg h) := by
    cases hook with
    | prerouting => exact congrArg _ exempted_nft |>.trans (Bool.not_not _)
    | output => exact congrArg _ exempted_nft |>.trans (Bool.not_not _)
    | _ => rfl
  have hdscp : (Netfilter.pass (portSets cfg) h (nftTables cfg) (.mangle, hook) {}).1.dscp =
      nftDscp cfg h hook := by
    cases hook with
    | output => exact dscp_nftMangleOutput
    | prerouting => exact dscp_nftManglePrerouting
    | _ => rfl
  rw [treatment, haccepted, hexempted, hdscp]

lemma builtin_iptTables (b : Table × Hook) :
    (iptTables cfg).builtin b = front cfg b ++ back cfg b := by
  have hbuiltin := (execAll_iptCommands cfg ⟨fun _ => [], Dict.empty⟩ rfl).1 b
  rwa [List.append_nil] at hbuiltin

lemma user_iptTables : (iptTables cfg).user = Dict.empty.set iptChain (ownRules cfg) :=
  (execAll_iptCommands cfg ⟨fun _ => [], Dict.empty⟩ rfl).2

/-- A packet that is sent through its own chain. -/
lemma accepted_hookRule :
    (walk (portSets cfg) h (follow (portSets cfg) h (iptTables cfg).user (iptTables cfg).user.size)
      [hookRule] {}).2 = if iptAccepted cfg h then some .accept else none := by
  have hsize : (iptTables cfg).user.size = 1 := by
    rw [user_iptTables, Dict.size, Dict.entries_set_of_notMem _ (by simp)]
    rfl
  have hcall : follow (portSets cfg) h (iptTables cfg).user 1 iptChain {} =
      walk (portSets cfg) h (follow (portSets cfg) h (iptTables cfg).user 0) (ownRules cfg) {} := by
    rw [follow, user_iptTables, Dict.get?_set_self]
    rfl
  rw [hsize, walk_jump (u := iptChain) rfl rfl, hcall, accepted_ipt]

lemma exempted_ipt :
    (walk (portSets cfg) h call
      (if exempting cfg then
        onPort .udp .destination (mediaRange cfg) .notrack ::
          ifFew cfg [onPort .tcp .destination (portList cfg) .notrack,
            onPort .udp .destination (portList cfg) .notrack]
      else []) {}).1.tracked = !iptExempted cfg h := by
  rw [iptExempted, ifFew]
  cases exempting cfg with
  | true =>
    rw [if_pos rfl, walk_notracks (by cases fewPorts cfg <;> simp [onPort])]
    cases fewPorts cfg with
    | true =>
      simp [applies_onPort, has_portList, has_mediaRange, signals]
      grind
    | false => simp [applies_onPort, has_mediaRange]
  | false => rfl

lemma dscp_ipt :
    (walk (portSets cfg) h call (back cfg (.mangle, .output)) {}).1.dscp = iptDscp cfg h .output := by
  have hsplit : back cfg (.mangle, .output) =
      [onPort .udp .destination (mediaRange cfg) (.setDscp cfg.dscpMedia)] ++
        ifFew cfg [onPort .udp .destination (portList cfg) (.setDscp cfg.dscpSignalling)] := rfl
  rw [hsplit, walk_setDscps cfg.dscpMedia cfg.dscpSignalling (by simp [onPort])
    (by rw [ifFew]; split_ifs <;> simp [onPort]), ifFew, iptDscp]
  cases fewPorts cfg with
  | true => simp [applies_onPort, has_portList, has_mediaRange]
  | false => simp [applies_onPort, has_mediaRange]

variable (cfg h) in
/-- What the rules for `iptables` do. -/
theorem treatment_ipt (hook : Hook) :
    treatment cfg h (iptTables cfg) hook =
      ⟨Filters hook && iptAccepted cfg h, Early hook && iptExempted cfg h, iptDscp cfg h hook⟩ := by
  have haccepted : decide ((Netfilter.pass (portSets cfg) h (iptTables cfg) (.filter, hook) {}).2 =
      some .accept) =
      (Filters hook && iptAccepted cfg h) := by
    rw [Netfilter.pass, builtin_iptTables]
    cases hook with
    | prerouting => rfl
    | postrouting => rfl
    | _ =>
      simp only [front, back, List.append_nil, accepted_hookRule]
      cases iptAccepted cfg h <;> rfl
  have hexempted : (!(Netfilter.pass (portSets cfg) h (iptTables cfg) (.raw, hook) {}).1.tracked) =
      (Early hook && iptExempted cfg h) := by
    rw [Netfilter.pass, builtin_iptTables]
    cases hook with
    | prerouting =>
      simp only [front, back, List.append_nil, exempted_ipt, Bool.not_not]
      rfl
    | output =>
      simp only [front, back, List.append_nil, exempted_ipt, Bool.not_not]
      rfl
    | _ => rfl
  have hdscp : (Netfilter.pass (portSets cfg) h (iptTables cfg) (.mangle, hook) {}).1.dscp =
      iptDscp cfg h hook := by
    rw [Netfilter.pass, builtin_iptTables]
    cases hook with
    | output => exact dscp_ipt
    | _ => rfl
  rw [treatment, haccepted, hexempted, hdscp]

/-! ### Where they agree -/

section Alike

variable (cfg : SipConfig) (h : Header α)

/-- Wide open, the packet is not one of the rules that `iptables` lacks: those for SCTP, for a time
exceeded, and for the signalling ports if they are too many.  Else, it belongs to a flow that is
known, or it is not for a signalling port, or it is one of UDP that is new where the ports fit, or
one of UDP that is not new where they do not, or one of TCP that is not new. -/
def AcceptedAlike : Prop :=
  if cfg.wideOpen then
    ¬ (h.protocol = .sctp ∧ (atSip cfg h .source ∨ atSip cfg h .destination)) ∧
      ¬ (h.protocol = .icmp ∧ h.icmpType = 11) ∧
      (fewPorts cfg ∨ ¬ (atSip cfg h .source ∨ atSip cfg h .destination) ∨
        (h.protocol = .udp → atMedia cfg h .source ∨ atMedia cfg h .destination) ∧
          h.protocol ≠ .tcp)
  else
    h.ctState = .established ∨ h.ctState = .related ∨ ¬ atSip cfg h .destination ∨
      (h.protocol = .udp → (fewPorts cfg ↔ h.ctState = .new)) ∧
        (h.protocol = .tcp → h.ctState ≠ .new)

/-- Where voice is exempted, the packet has a destination port that it is exempted for by `iptables`,
or neither of its ports is one for voice. -/
def ExemptedAlike : Prop :=
  exempting cfg →
    (fewPorts cfg ∧ signals h ∧ atSip cfg h .destination) ∨
      (h.protocol = .udp ∧ atMedia cfg h .destination) ∨
      (signals h → ¬ atSip cfg h .source ∧ ¬ atSip cfg h .destination) ∧
        (h.protocol = .udp → ¬ atMedia cfg h .source)

/-- Before routing `iptables` gives no value, so the packet is not for a port for voice.  When it is
sent from here, it is one of UDP for a signalling port if these fit, or it is not for a signalling
port and, if it comes from a port of media, is for one as well. -/
def DscpAlike : Hook → Prop
  | .prerouting =>
    ¬ (signals h ∧ atSip cfg h .destination) ∧ ¬ (h.protocol = .udp ∧ atMedia cfg h .destination)
  | .output =>
    (h.protocol = .tcp → ¬ atSip cfg h .destination) ∧
      (h.protocol = .udp →
        if atSip cfg h .destination then
          fewPorts cfg ∨ atMedia cfg h .destination ∧ cfg.dscpMedia = cfg.dscpSignalling
        else atMedia cfg h .source → atMedia cfg h .destination)
  | _ => True

/-- The packet is treated alike at the hook. -/
structure Alike (hook : Hook) : Prop where
  accepted : Filters hook → AcceptedAlike cfg h
  exempted : Early hook → ExemptedAlike cfg h
  dscp : DscpAlike cfg h hook

end Alike

lemma accepted_alike : nftAccepted cfg h = iptAccepted cfg h ↔ AcceptedAlike cfg h := by
  rw [nftAccepted, iptAccepted, AcceptedAlike, signals, Bool.eq_iff_iff]
  cases cfg.wideOpen with
  | true =>
    simp
    grind
  | false =>
    simp
    grind

lemma exempted_alike : nftExempted cfg h = iptExempted cfg h ↔ ExemptedAlike cfg h := by
  rw [nftExempted, iptExempted, ExemptedAlike, signals, Bool.eq_iff_iff]
  cases exempting cfg with
  | true =>
    simp
    grind
  | false => simp

lemma dscp_alike (hook : Hook) :
    nftDscp cfg h hook = iptDscp cfg h hook ↔ DscpAlike cfg h hook := by
  cases hook with
  | prerouting =>
    simp only [nftDscp, iptDscp, DscpAlike, signals]
    grind
  | output =>
    simp only [nftDscp, iptDscp, DscpAlike, signals]
    grind
  | _ => exact iff_of_true rfl trivial

/-- The two backends treat a packet alike at a hook if and only if it is not one of those that the
rules for `iptables` leave out. -/
theorem treatments_eq_iff (cfg : SipConfig) (h : Header α) (hook : Hook) :
    treatment cfg h (nftTables cfg) hook = treatment cfg h (iptTables cfg) hook ↔ Alike cfg h hook := by
  rw [treatment_nft, treatment_ipt, Treatment.mk.injEq, dscp_alike]
  constructor
  · rintro ⟨haccepted, hexempted, hdscp⟩
    refine ⟨fun hf => accepted_alike.1 ?_, fun he => exempted_alike.1 ?_, hdscp⟩
    · simpa [hf] using haccepted
    · simpa [he] using hexempted
  · intro ⟨haccepted, hexempted, hdscp⟩
    refine ⟨?_, ?_, hdscp⟩
    · by_cases hf : Filters hook
      · rw [accepted_alike.2 (haccepted hf)]
      · simp [hf]
    · by_cases he : Early hook
      · rw [exempted_alike.2 (hexempted he)]
      · simp [he]

/-- A packet of media from a phone behind the gateway: `iptables` gives it no DSCP value. -/
theorem not_treatments_eq_media :
    let h : Header Unit := { source := (), destination := (), protocol := .udp, sport := 40000, dport := 20000 }
    treatment {} h (nftTables {}) .prerouting ≠ treatment {} h (iptTables {}) .prerouting := by
  decide

end Turbobond.Sip
