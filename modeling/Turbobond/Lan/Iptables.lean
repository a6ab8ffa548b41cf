import Turbobond.Lan.Gateway
import Turbobond.Util.Iptables

/-!
# The LAN gateway on `iptables`

`_apply_iptables` of `turbobond/lan/gateway.py` with the chains that it changes, over calls that
select one route after the other.
-/

namespace Turbobond.Lan

open Config Util Netfilter

namespace LanGateway

variable (g : LanGateway) (host : Host)

/-- The interfaces that traffic of the LAN leaves by. -/
def targets : List String :=
  if g.tunnelInterface ≠ "" then g.tunnelInterface :: g.egressInterfaces else g.egressInterfaces

def masqueradeOut (iface : String) : Rule String := ⟨[.outInterface iface], .masquerade⟩

def clampSyn : Rule String := ⟨[.protocol .tcp, .syn], .clampMss⟩

def redirectLan : Rule String :=
  ⟨[.inInterface g.lanInterface, .protocol .tcp], .redirect g.shadowsocks.localRedirPort⟩

/-- The commands for these rules, as the source writes them. -/
example : Iptables.Command.args (.check (.builtin (.nat, .postrouting)) (masqueradeOut "eth0")) =
      ["iptables", "-t", "nat", "-C", "POSTROUTING", "-o", "eth0", "-j", "MASQUERADE"] ∧
    Iptables.Command.args (.append (.builtin (.mangle, .forward)) clampSyn) =
      ["iptables", "-t", "mangle", "-A", "FORWARD", "-p", "tcp", "--tcp-flags", "SYN,RST", "SYN",
        "-j", "TCPMSS", "--clamp-mss-to-pmtu"] ∧
    Iptables.Command.args (.append (.builtin (.nat, .prerouting)) g.redirectLan) =
      ["iptables", "-t", "nat", "-A", "PREROUTING", "-i", g.lanInterface, "-p", "tcp",
        "-j", "REDIRECT", "--to-ports", toString g.shadowsocks.localRedirPort] :=
  ⟨rfl, rfl, rfl⟩

/-- What leaves by an interface is masqueraded, unless it is already. -/
def masqueradeTarget (iface : String) (r : Bool × Iptables) : Bool × Iptables :=
  let check := (runIptables host (.check (.builtin (.nat, .postrouting)) (masqueradeOut iface)) r.2).1
  if !check.ok then
    let (result, fw) :=
      runIptables host (.append (.builtin (.nat, .postrouting)) (masqueradeOut iface)) r.2
    (r.1 || result.ok || result.skipped, fw)
  else (true, r.2)

/-- `_apply_iptables`, with the chains: whether some interface is masqueraded. -/
def applyIptablesChains (activeRoute : RouteName) (fw : Iptables) : Bool × Iptables :=
  let (ok, fw) := g.targets.foldl (fun r iface => masqueradeTarget host iface r) (false, fw)
  let fw := (runIptables host (.append (.builtin (.mangle, .forward)) clampSyn) fw).2
  (ok,
    if shadowsocksUsable g.shadowsocks && g.lanInterface ≠ "" && activeRoute = .shadow then
      (runIptables host (.append (.builtin (.nat, .prerouting)) g.redirectLan) fw).2
    else fw)

/-- What `apply`, and so `switch_route`, does to the chains. -/
def applyChains (activeRoute : RouteName) (fw : Iptables) : Iptables :=
  if g.cfg.enabled && backend host = .iptables then (g.applyIptablesChains host activeRoute fw).2
  else fw

/-- What `teardown` does to the chains: it deletes the table of `nft`, and nothing else. -/
def teardownChains (fw : Iptables) : Iptables := fw

/-- What calls with one route after the other leave. -/
def applyAll (activeRoutes : List RouteName) (fw : Iptables) : Iptables :=
  activeRoutes.foldl (fun fw activeRoute => g.applyChains host activeRoute fw) fw

/-- TCP traffic of the LAN is redirected to the port of shadowsocks. -/
def RedirectsLan (fw : Iptables) : Prop :=
  ∀ (sets : Sets ℕ) (h : Header ℕ), h.inInterface = g.lanInterface → h.protocol = .tcp →
    (Netfilter.pass sets h fw (.nat, .prerouting) {}).2 = some (.redirect g.shadowsocks.localRedirPort)

/-- After each call TCP traffic of the LAN is redirected if and only if the call was for the shadow
route and shadowsocks is usable, no rule has come to be there twice, and a teardown leaves what was
there at first. -/
structure FollowsRoute (activeRoutes : List RouteName) (fw : Iptables) : Prop where
  redirects : ∀ routes activeRoute, routes ++ [activeRoute] <+: activeRoutes →
    (g.RedirectsLan (g.applyAll host (routes ++ [activeRoute]) fw) ↔
      activeRoute = .shadow ∧ shadowsocksUsable g.shadowsocks = true)
  once : ∀ routes, routes <+: activeRoutes → ∀ b r,
    ((g.applyAll host routes fw).builtin b).count r ≤ max 1 ((fw.builtin b).count r)
  removed : teardownChains (g.applyAll host activeRoutes fw) = fw

variable {g host} {fw : Iptables} {activeRoute : RouteName} {activeRoutes : List RouteName}

lemma executesIptables_of_backend (h : backend host = .iptables) : executesIptables host = true := by
  unfold backend at h
  split at h
  · exact absurd h (by simp)
  · rename_i hnft
    split at h
    · rename_i hiptables
      simp only [Bool.or_eq_true, not_or, Bool.not_eq_true] at hnft
      simp [executesIptables, hnft.1, hiptables]
    · exact absurd h (by simp)

/-! ### What a call does to the chains -/

lemma masqueradeTarget_snd (hexec : executesIptables host = true) (iface : String)
    (r : Bool × Iptables) :
    (masqueradeTarget host iface r).2 = r.2.ensure (.nat, .postrouting) (masqueradeOut iface) := by
  rw [masqueradeTarget, ok_runIptables hexec, Firewall.ensure]
  cases hcheck : (r.2.exec (.check (.builtin (.nat, .postrouting)) (masqueradeOut iface))).1 with
  | true => rfl
  | false => exact runIptables_of_executes hexec

/-- The interfaces are masqueraded in the one chain for that. -/
lemma builtin_masquerade (hexec : executesIptables host = true) {b : Table × Hook}
    (hb : b ≠ (.nat, .postrouting)) (ifaces : List String) (r : Bool × Iptables) :
    (ifaces.foldl (fun r iface => masqueradeTarget host iface r) r).2.builtin b = r.2.builtin b := by
  induction ifaces generalizing r with
  | nil => rfl
  | cons iface ifaces ih =>
    rw [List.foldl_cons, ih, masqueradeTarget_snd hexec, Firewall.builtin_ensure_of_ne hb]

lemma count_masquerade_le (hexec : executesIptables host = true) (ifaces : List String)
    (r : Bool × Iptables) (rule : Rule String) :
    ((ifaces.foldl (fun r iface => masqueradeTarget host iface r) r).2.builtin
      (.nat, .postrouting)).count rule ≤ max 1 ((r.2.builtin (.nat, .postrouting)).count rule) := by
  induction ifaces generalizing r with
  | nil => exact le_max_right _ _
  | cons iface ifaces ih =>
    rw [List.foldl_cons]
    refine (ih _).trans (max_le (le_max_left _ _) ?_)
    rw [masqueradeTarget_snd hexec]
    exact Firewall.count_ensure_le

/-- The redirection that a call adds. -/
def addedRedirection (g : LanGateway) (activeRoute : RouteName) : List (Rule String) :=
  if shadowsocksUsable g.shadowsocks && g.lanInterface ≠ "" && activeRoute = .shadow then
    [g.redirectLan]
  else []

/-- A call adds to two chains, whatever they hold. -/
lemma builtin_applyChains (henabled : g.cfg.enabled = true) (hb : backend host = .iptables)
    (activeRoute : RouteName) (fw : Iptables) :
    (g.applyChains host activeRoute fw).builtin (.mangle, .forward) =
        fw.builtin (.mangle, .forward) ++ [clampSyn] ∧
      (g.applyChains host activeRoute fw).builtin (.nat, .prerouting) =
        fw.builtin (.nat, .prerouting) ++ g.addedRedirection activeRoute := by
  have hexec := executesIptables_of_backend hb
  have hmangle := builtin_masquerade hexec (b := (.mangle, .forward)) (by decide) g.targets (false, fw)
  have hnat := builtin_masquerade hexec (b := (.nat, .prerouting)) (by decide) g.targets (false, fw)
  rw [applyChains, henabled, hb, applyIptablesChains, addedRedirection]
  simp only [runIptables_of_executes hexec, Firewall.exec_append_builtin (show Firewall.accepts
    (_ : Iptables) clampSyn = true from rfl), Firewall.exec_append_builtin (show Firewall.accepts
    (_ : Iptables) g.redirectLan = true from rfl)]
  rw [← hmangle, ← hnat]
  simp only [decide_true, Bool.and_self, if_true]
  split_ifs with hshadow
  · exact ⟨rfl, rfl⟩
  · exact ⟨rfl, (List.append_nil _).symm⟩

lemma applyAll_concat (routes : List RouteName) (activeRoute : RouteName) (fw : Iptables) :
    g.applyAll host (routes ++ [activeRoute]) fw =
      g.applyChains host activeRoute (g.applyAll host routes fw) := by
  simp [applyAll]

/-- The clamp comes to be there as many times as there have been calls. -/
lemma clamps_applyAll (henabled : g.cfg.enabled = true) (hb : backend host = .iptables)
    (routes : List RouteName) (fw : Iptables) :
    (g.applyAll host routes fw).builtin (.mangle, .forward) =
      fw.builtin (.mangle, .forward) ++ List.replicate routes.length clampSyn := by
  induction routes using List.reverseRecOn with
  | nil => simp [applyAll]
  | append_singleton routes activeRoute ih =>
    rw [applyAll_concat, (builtin_applyChains henabled hb _ _).1, ih, List.append_assoc,
      List.length_append, List.length_singleton, List.replicate_succ']

/-- The redirections of all calls stay. -/
lemma redirections_applyAll (henabled : g.cfg.enabled = true) (hb : backend host = .iptables)
    (routes : List RouteName) (fw : Iptables) :
    (g.applyAll host routes fw).builtin (.nat, .prerouting) =
      fw.builtin (.nat, .prerouting) ++ routes.flatMap g.addedRedirection := by
  induction routes using List.reverseRecOn with
  | nil => simp [applyAll]
  | append_singleton routes activeRoute ih =>
    rw [applyAll_concat, (builtin_applyChains henabled hb _ _).2, ih, List.append_assoc,
      List.flatMap_append, List.flatMap_singleton]

/-- A gateway that is turned off changes nothing. -/
lemma applyAll_of_disabled (hdisabled : g.cfg.enabled = false) (routes : List RouteName)
    (fw : Iptables) : g.applyAll host routes fw = fw := by
  induction routes using List.reverseRecOn with
  | nil => rfl
  | append_singleton routes activeRoute ih => rw [applyAll_concat, applyChains, hdisabled, ih]; rfl

/-- Masquerading is checked for before it is added, so no interface is masqueraded twice. -/
theorem count_masquerades_le (hb : backend host = .iptables) (routes : List RouteName)
    (fw : Iptables) (rule : Rule String) :
    ((g.applyAll host routes fw).builtin (.nat, .postrouting)).count rule ≤
      max 1 ((fw.builtin (.nat, .postrouting)).count rule) := by
  have hexec := executesIptables_of_backend hb
  induction routes using List.reverseRecOn with
  | nil => exact le_max_right _ _
  | append_singleton routes activeRoute ih =>
    rw [applyAll_concat, applyChains]
    split_ifs
    · have hle := count_masquerade_le hexec g.targets (false, g.applyAll host routes fw) rule
      have hchain : (g.applyIptablesChains host activeRoute (g.applyAll host routes fw)).2.builtin
          (.nat, .postrouting) = (g.targets.foldl (fun r iface => masqueradeTarget host iface r)
            (false, g.applyAll host routes fw)).2.builtin (.nat, .postrouting) := by
        rw [applyIptablesChains]
        simp only [runIptables_of_executes hexec, Firewall.exec_append_builtin (show Firewall.accepts
          (_ : Iptables) clampSyn = true from rfl), Firewall.exec_append_builtin (show
          Firewall.accepts (_ : Iptables) g.redirectLan = true from rfl)]
        split_ifs
        · rfl
        · rfl
      rw [hchain]
      exact hle.trans (max_le (le_max_left _ _) ih)
    · exact ih

/-- The redirection applies to all TCP traffic of the LAN. -/
lemma applies_redirectLan {sets : Sets ℕ} {h : Header ℕ} (hlan : h.inInterface = g.lanInterface)
    (htcp : h.protocol = .tcp) : g.redirectLan.applies sets h = true := by
  simp [redirectLan, Rule.applies, Test.holds, hlan, htcp]

/-- From chains that redirect nothing, TCP traffic of the LAN is redirected once there has been a
call for the shadow route, whatever calls have followed. -/
theorem redirectsLan_applyAll_iff (henabled : g.cfg.enabled = true) (hb : backend host = .iptables)
    (husable : shadowsocksUsable g.shadowsocks = true) (hlan : g.lanInterface ≠ "")
    (hempty : fw.builtin (.nat, .prerouting) = []) (routes : List RouteName) :
    g.RedirectsLan (g.applyAll host routes fw) ↔ .shadow ∈ routes := by
  have hrules : (g.applyAll host routes fw).builtin (.nat, .prerouting) =
      routes.flatMap g.addedRedirection := by
    rw [redirections_applyAll henabled hb, hempty, List.nil_append]
  have hsame : ∀ rule ∈ routes.flatMap g.addedRedirection, rule = g.redirectLan := by
    intro rule hrule
    obtain ⟨route, -, hin⟩ := List.mem_flatMap.1 hrule
    rw [addedRedirection] at hin
    split_ifs at hin
    · exact List.mem_singleton.1 hin
    · exact absurd hin List.not_mem_nil
  constructor
  · intro hredirects
    by_contra hnone
    have hnil : routes.flatMap g.addedRedirection = [] := by
      rw [List.flatMap_eq_nil_iff]
      intro route hroute
      rw [addedRedirection, if_neg]
      rintro hadded
      simp only [Bool.and_eq_true, decide_eq_true_eq] at hadded
      exact hnone (hadded.2 ▸ hroute)
    have hp := hredirects {}
      { inInterface := g.lanInterface, source := 0, destination := 0, protocol := .tcp } rfl rfl
    rw [Netfilter.pass, hrules, hnil] at hp
    exact absurd hp (by simp [walk])
  · intro hmem sets h hin htcp
    have hone : g.redirectLan ∈ routes.flatMap g.addedRedirection := by
      refine List.mem_flatMap.2 ⟨.shadow, hmem, ?_⟩
      rw [addedRedirection, if_pos (by simp [husable, hlan])]
      exact List.mem_singleton_self _
    have happlies : g.redirectLan.applies sets h = true := applies_redirectLan hin htcp
    rw [Netfilter.pass, hrules, ← List.append_nil (routes.flatMap _),
      walk_append_of_leave (v := some (.redirect g.shadowsocks.localRedirPort))
        (fun rule hrule => by rw [hsame rule hrule]; rfl), if_pos]
    exact List.any_eq_true.2 ⟨_, hone, happlies⟩

/-- The LAN follows the selected route on `iptables` if and only if there has been no call, or the
gateway is turned off and, whatever the calls are for, the host redirects the LAN as they ask. -/
theorem followsRoute_iff (g : LanGateway) (host : Host) (hb : backend host = .iptables)
    (activeRoutes : List RouteName) (fw : Iptables) :
    g.FollowsRoute host activeRoutes fw ↔
      activeRoutes = [] ∨ g.cfg.enabled = false ∧ ∀ activeRoute ∈ activeRoutes,
        (g.RedirectsLan fw ↔
          activeRoute = .shadow ∧ shadowsocksUsable g.shadowsocks = true) := by
  constructor
  · intro h
    by_cases hnil : activeRoutes = []
    · exact .inl hnil
    · right
      have hdisabled : g.cfg.enabled = false := by
        by_contra hne
        have henabled : g.cfg.enabled = true := by simpa using hne
        -- the clamps are still there after the teardown
        have hclamps := clamps_applyAll henabled hb activeRoutes fw
        have hsame : g.applyAll host activeRoutes fw = fw := h.removed
        rw [hsame, List.self_eq_append_right, List.replicate_eq_nil_iff] at hclamps
        exact hnil (List.length_eq_zero_iff.1 hclamps)
      refine ⟨hdisabled, fun activeRoute hmem => ?_⟩
      obtain ⟨routes, rest, rfl⟩ := List.append_of_mem hmem
      have hcall := h.redirects routes activeRoute ⟨rest, by simp⟩
      rwa [applyAll_of_disabled hdisabled] at hcall
  · rintro (rfl | ⟨hdisabled, hall⟩)
    · refine ⟨fun routes activeRoute hpre => ?_, fun routes hpre b r => ?_, rfl⟩
      · exact absurd (List.prefix_nil.1 hpre) (by simp)
      · rw [List.prefix_nil.1 hpre]
        exact le_max_right _ _
    · refine ⟨fun routes activeRoute hpre => ?_, fun routes _ b r => ?_, ?_⟩
      · rw [applyAll_of_disabled hdisabled]
        exact hall activeRoute (hpre.subset (by simp))
      · rw [applyAll_of_disabled hdisabled]
        exact le_max_right _ _
      · exact applyAll_of_disabled hdisabled _ _

/-- A host with `iptables` and without `nft`. -/
def withIptables : Host := { dryRun := false, which := fun binary => binary = "iptables" }

/-- A gateway with a usable shadowsocks server. -/
def shadowGateway : LanGateway where
  cfg := {}
  routes := {}
  shadowsocks := { host := "203.0.113.9", password := "secret" }
  sip := {}
  egressInterfaces := ["eth0"]
  tunnelInterface := ""
  lanInterface := "br-lan"

/-- A gateway that is turned off leaves empty chains empty. -/
theorem followsRoute_of_disabled :
    { shadowGateway with cfg := { enabled := false } }.FollowsRoute withIptables [.direct]
      ⟨fun _ => [], Dict.empty⟩ := by
  refine (followsRoute_iff _ withIptables rfl _ _).2 (.inr ⟨rfl, fun activeRoute hmem => ?_⟩)
  obtain rfl := List.mem_singleton.1 hmem
  refine iff_of_false (fun hredirects => ?_) (by simp)
  have hp := hredirects {} { inInterface := "br-lan", source := 0, destination := 0, protocol := .tcp }
    rfl rfl
  exact absurd hp (by decide)

/-- Back from the shadow route, TCP traffic of the LAN is still redirected. -/
theorem not_followsRoute_shadowAndBack :
    ¬ shadowGateway.FollowsRoute withIptables [.shadow, .direct] ⟨fun _ => [], Dict.empty⟩ := by
  intro h
  have hredirects : shadowGateway.RedirectsLan
      (shadowGateway.applyAll withIptables [.shadow, .direct] ⟨fun _ => [], Dict.empty⟩) :=
    (redirectsLan_applyAll_iff rfl rfl rfl (by decide) rfl [.shadow, .direct]).2 (by decide)
  exact absurd ((h.redirects [.shadow] .direct (List.prefix_refl _)).1 hredirects).1 (by decide)

end LanGateway

end Turbobond.Lan
