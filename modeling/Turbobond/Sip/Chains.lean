import Turbobond.Sip.Firewall

/-!
# What the commands for voice leave

The chains after the commands of `build_iptables_rules`, from any chains that there were.
-/

namespace Turbobond.Sip

open Config Util Netfilter

variable (cfg : SipConfig)

/-- The signalling ports fit into one rule. -/
def fewPorts : Bool := allPorts cfg ≠ [] ∧ (allPorts cfg).length ≤ 15

/-- Voice traffic is exempted from connection tracking. -/
def exempting : Bool := cfg.wideOpen && cfg.disableConntrackHelper

/-- A rule that names the signalling ports is there if they fit. -/
def ifFew (rules : List (Rule String)) : List (Rule String) := if fewPorts cfg then rules else []

/-- What comes to stand before the rules of a built-in chain. -/
def front : Table × Hook → List (Rule String)
  | (.filter, .input) | (.filter, .output) | (.filter, .forward) => [hookRule]
  | (.raw, .prerouting) | (.raw, .output) =>
    if exempting cfg then
      onPort .udp .destination (mediaRange cfg) .notrack ::
        ifFew cfg [onPort .tcp .destination (portList cfg) .notrack,
          onPort .udp .destination (portList cfg) .notrack]
    else []
  | _ => []

/-- What comes to stand after them. -/
def back : Table × Hook → List (Rule String)
  | (.mangle, .output) =>
    onPort .udp .destination (mediaRange cfg) (.setDscp cfg.dscpMedia) ::
      ifFew cfg [onPort .udp .destination (portList cfg) (.setDscp cfg.dscpSignalling)]
  | _ => []

/-- What its own chain comes to hold. -/
def ownRules : List (Rule String) :=
  (if cfg.wideOpen then
    ifFew cfg ([Protocol.udp, .tcp].flatMap fun proto =>
      [onPort proto .destination (portList cfg) .accept, onPort proto .source (portList cfg) .accept]) ++
    [onPort .udp .destination (mediaRange cfg) .accept, onPort .udp .source (mediaRange cfg) .accept,
      ⟨[.icmpType [3]], .accept⟩]
  else
    ⟨[.ctState [.established, .related]], .accept⟩ ::
      ifFew cfg [onPort .udp .destination (portList cfg) .accept]) ++
  [⟨[], .return⟩]

variable {cfg} {fw : Iptables}

variable (cfg fw) in
lemma accepts_onPort_list (p : Protocol) (e : End) (s : Statement String)
    (hs : Rule.target (onPort p e (portList cfg) s) = none) :
    fw.accepts (onPort p e (portList cfg) s) = fewPorts cfg :=
  (Firewall.accepts_of_target_eq_none hs).trans (Bool.and_true _)

variable (cfg fw) in
lemma accepts_onPort_range (p : Protocol) (e : End) (s : Statement String)
    (hs : Rule.target (onPort p e (mediaRange cfg) s) = none) :
    fw.accepts (onPort p e (mediaRange cfg) s) = true :=
  Firewall.accepts_of_target_eq_none hs

lemma accepts_hookRule (h : iptChain ∈ fw.user.keys) : fw.accepts hookRule = true := by
  have hhas : fw.user.has iptChain = true := (Dict.has_iff _ _).2 h
  simp [Firewall.accepts, RuleSyntax.target, RuleSyntax.wellFormed, hookRule, Rule.target, hhas]

lemma filter_iptChainRules : (iptChainRules cfg).filter fw.accepts = ownRules cfg := by
  have hlist := fun p e => accepts_onPort_list cfg fw p e .accept rfl
  have hrange := fun e => accepts_onPort_range cfg fw .udp e .accept rfl
  have hicmp : fw.accepts ⟨[.icmpType [3]], .accept⟩ = true := Firewall.accepts_of_target_eq_none rfl
  have hstate : fw.accepts ⟨[.ctState [.established, .related]], .accept⟩ = true :=
    Firewall.accepts_of_target_eq_none rfl
  have hreturn : fw.accepts ⟨[], .return⟩ = true := Firewall.accepts_of_target_eq_none rfl
  rw [iptChainRules, ownRules, ifFew, ifFew]
  cases hfew : fewPorts cfg with
  | true =>
    cases cfg.wideOpen with
    | true => simp [hfew, hlist, hrange, hicmp, hreturn]
    | false => simp [hfew, hlist, hstate, hreturn]
  | false =>
    cases cfg.wideOpen with
    | true => simp [hfew, hlist, hrange, hicmp, hreturn]
    | false => simp [hfew, hlist, hstate, hreturn]

variable (cfg) in
lemma isAddition_iptAdditions : ∀ c ∈ iptAdditions cfg, Firewall.IsAddition c := by
  rw [iptAdditions, hooked]
  cases cfg.wideOpen && cfg.disableConntrackHelper with
  | true => simp [Firewall.IsAddition]
  | false => simp [Firewall.IsAddition]

variable (cfg fw) in
/-- The additions, once its own chain is there. -/
lemma execAll_iptAdditions (h : iptChain ∈ fw.user.keys) :
    (∀ b, (fw.execAll (iptAdditions cfg)).builtin b = front cfg b ++ fw.builtin b ++ back cfg b) ∧
      (fw.execAll (iptAdditions cfg)).user = fw.user := by
  have hexempt := fun p => accepts_onPort_list cfg fw p .destination .notrack rfl
  have hexempt' := accepts_onPort_range cfg fw .udp .destination .notrack rfl
  have hvalue := fun v => accepts_onPort_list cfg fw .udp .destination (.setDscp v) rfl
  have hvalue' := fun v =>
    accepts_onPort_range cfg fw .udp .destination (.setDscp v) rfl
  obtain ⟨hbuiltin, huser⟩ := Firewall.execAll_additions fw (isAddition_iptAdditions cfg)
  refine ⟨fun b => ?_, huser⟩
  rw [hbuiltin b, iptAdditions, front.eq_def, back.eq_def, hooked, ifFew, ifFew, exempting]
  obtain ⟨table, hook⟩ := b
  cases cfg.wideOpen && cfg.disableConntrackHelper with
  | true =>
    cases table with
    | filter => cases hook <;> simp [Firewall.addTo, accepts_hookRule h]
    | nat => cases hook <;> simp [Firewall.addTo]
    | mangle =>
      cases hfew : fewPorts cfg <;> cases hook <;> simp [Firewall.addTo, hvalue, hvalue', hfew]
    | raw => cases hfew : fewPorts cfg <;> cases hook <;> simp [Firewall.addTo, hexempt, hexempt', hfew]
  | false =>
    cases table with
    | filter => cases hook <;> simp [Firewall.addTo, accepts_hookRule h]
    | nat => cases hook <;> simp [Firewall.addTo]
    | mangle =>
      cases hfew : fewPorts cfg <;> cases hook <;> simp [Firewall.addTo, hvalue, hvalue', hfew]
    | raw => cases hook <;> simp [Firewall.addTo]

variable (cfg fw) in
/-- All commands, where its own chain is not there. -/
lemma execAll_iptCommands (h : fw.user.get? iptChain = none) :
    (∀ b, (fw.execAll (iptCommands cfg)).builtin b = front cfg b ++ fw.builtin b ++ back cfg b) ∧
      (fw.execAll (iptCommands cfg)).user = fw.user.set iptChain (ownRules cfg) := by
  have hmade : fw.execAll [.new iptChain, .flush (.user iptChain)] =
      { fw with user := fw.user.set iptChain [] } := by
    have hhas : fw.user.has iptChain = false := by simp [Dict.has, h]
    simp [Firewall.exec, hhas, Firewall.set, Firewall.change, Firewall.get?, Dict.set_set_self]
  have hfilled : fw.execAll ([.new iptChain, .flush (.user iptChain)] ++
      (iptChainRules cfg).map fun r => .append (.user iptChain) r) =
      { fw with user := fw.user.set iptChain (ownRules cfg) } := by
    rw [Firewall.execAll_append, hmade,
      Firewall.execAll_append_user [] (Dict.get?_set_self _ _ _), filter_iptChainRules,
      List.nil_append, Dict.set_set_self]
  have hkey : iptChain ∈ (fw.user.set iptChain (ownRules cfg)).keys :=
    (Dict.mem_keys_set _ _ _ _).2 (.inl rfl)
  rw [iptCommands, Firewall.execAll_append, hfilled]
  exact execAll_iptAdditions cfg { fw with user := fw.user.set iptChain (ownRules cfg) } hkey

end Turbobond.Sip
