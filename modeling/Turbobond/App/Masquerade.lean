import Turbobond.App.Steering
import Turbobond.Lib.Machine

/-!
# Masqueraded uplinks

Whether every next hop of the multipath route is in the masquerade rules of the LAN ruleset.
-/

namespace Turbobond.App

open Config Links Util Bond Lan Transport

/-- A ruleset masquerades what leaves by an interface. -/
def Masquerades (rules : List String) (dev : String) : Prop :=
  LanGateway.masqueradeRule dev ∈ rules ∨ LanGateway.masqueradeAll ∈ rules

/-- Every next hop of the multipath route is masqueraded by the ruleset that is installed. -/
def Nated (s : Steering) : Prop :=
  ∀ hop ∈ s.kernel.bondDefault, ∃ table ∈ s.table, Masquerades table.rules hop.dev

instance (rules : List String) (dev : String) : Decidable (Masquerades rules dev) :=
  inferInstanceAs (Decidable (_ ∨ _))

instance (s : Steering) : Decidable (Nated s) :=
  inferInstanceAs (Decidable (∀ hop ∈ s.kernel.bondDefault, _))

/-- A gateway has been made for an interface: it was that of a usable uplink, or there were none and
no tunnel either. -/
def Serves (g : LanGateway) (dev : String) : Prop :=
  dev ∈ g.egressInterfaces ∨ g.egressInterfaces = [] ∧ g.tunnelInterface = ""

instance (g : LanGateway) (dev : String) : Decidable (Serves g dev) :=
  inferInstanceAs (Decidable (_ ∨ _ ∧ _))

/-- The interfaces that a rebuild of the multipath route would install are those that a gateway has
been made for. -/
structure RebuildServed (host : Host) (o : Routing.Outcomes) (links : List (Link ℚ))
    (g : LanGateway) : Prop where
  multipath : (run host "ip" o.multipath).done = true →
    ∀ link ∈ links, link.usable = true → Serves g link.interface
  single : (run host "ip" o.multipath).passed = false → (run host "ip" o.single).done = true →
    ∀ link ∈ (links.filter Link.usable).argmax Link.effectiveWeight, Serves g link.interface

instance (host : Host) (o : Routing.Outcomes) (links : List (Link ℚ)) (g : LanGateway) :
    Decidable (RebuildServed host o links g) :=
  decidable_of_iff (_ ∧ _) ⟨fun h => ⟨h.1, h.2⟩, fun h => ⟨h.multipath, h.single⟩⟩

/-- When the LAN stage runs, its load is accepted and the next hops of the route are usable; when the
route is rebuilt, its next hops were usable then; and no table is deleted without being loaded
again. -/
def Served (host : Host) (s : Steering) (e : SteeringEvent × StepOutcomes) : Prop :=
  match e.1 with
  | .installDefault => ∀ g ∈ s.gateway, RebuildServed host e.2.routing s.links g
  | .changeState i new =>
    ∀ link ∈ s.links[i]?, link.state ≠ new → s.bondMode = .ecmp →
      ∀ g ∈ s.gateway, RebuildServed host e.2.routing (moved s.links i new) g
  | .stageLan _ _ _ tunnelInterface _ =>
    (run host "nft" e.2.lan.load).done = true ∧ ∀ hop ∈ s.kernel.bondDefault,
      hop.dev ∈ s.egress ∨ s.egress = [] ∧ tunnelInterface = ""
  | .routeSwitch _ _ =>
    (run host "nft" e.2.lan.deleteTable).done = true → (run host "nft" e.2.lan.load).done = true
  | _ => True

instance (host : Host) (s : Steering) : ∀ e, Decidable (Served host s e)
  | (.installDefault, o) =>
    inferInstanceAs (Decidable (∀ g ∈ s.gateway, RebuildServed host o.routing s.links g))
  | (.changeState i new, o) =>
    inferInstanceAs (Decidable (∀ link ∈ s.links[i]?, link.state ≠ new → s.bondMode = .ecmp →
      ∀ g ∈ s.gateway, RebuildServed host o.routing (moved s.links i new) g))
  | (.stageLan _ _ _ tunnelInterface _, o) =>
    inferInstanceAs (Decidable ((run host "nft" o.lan.load).done = true ∧
      ∀ hop ∈ s.kernel.bondDefault, hop.dev ∈ s.egress ∨ s.egress = [] ∧ tunnelInterface = ""))
  | (.routeSwitch _ _, o) =>
    inferInstanceAs (Decidable
      ((run host "nft" o.lan.deleteTable).done = true → (run host "nft" o.lan.load).done = true))
  | (.enterEcmp, _) => inferInstanceAs (Decidable True)
  | (.stageSip, _) => inferInstanceAs (Decidable True)
  | (.measure _ _ _ _, _) => inferInstanceAs (Decidable True)

/-- LAN mode and NAT are on where a LAN stage runs. -/
def LanOn : SteeringEvent → Prop
  | .stageLan lan _ _ _ _ => lan.enabled = true ∧ lan.nat = true
  | _ => True

instance : ∀ e, Decidable (LanOn e)
  | .stageLan lan _ _ _ _ => inferInstanceAs (Decidable (lan.enabled = true ∧ lan.nat = true))
  | .installDefault => inferInstanceAs (Decidable True)
  | .enterEcmp => inferInstanceAs (Decidable True)
  | .stageSip => inferInstanceAs (Decidable True)
  | .changeState _ _ => inferInstanceAs (Decidable True)
  | .measure _ _ _ _ => inferInstanceAs (Decidable True)
  | .routeSwitch _ _ => inferInstanceAs (Decidable True)

/-- Once there is a gateway, its masquerade rules are installed and it has been made for every next
hop of the route. -/
structure Provided (s : Steering) : Prop where
  on : ∀ g ∈ s.gateway, g.cfg.enabled = true ∧ g.cfg.nat = true
  rules : ∀ g ∈ s.gateway, ∃ table, s.table = some table ∧ ∀ rule ∈ g.masquerades, rule ∈ table.rules
  hops : ∀ g ∈ s.gateway, ∀ hop ∈ s.kernel.bondDefault, Serves g hop.dev

variable {host : Host} {s : Steering} {g : LanGateway}

/-- A gateway with NAT masquerades the interfaces that it has been made for. -/
lemma Serves.masquerades {dev : String} {rules : List String} (h : Serves g dev)
    (hnat : g.cfg.nat = true) (hrules : ∀ rule ∈ g.masquerades, rule ∈ rules) :
    Masquerades rules dev := by
  rcases h with hmem | ⟨hnone, htunnel⟩
  · refine .inl (hrules _ ?_)
    rw [LanGateway.masquerades, if_pos hnat]
    exact List.mem_append_left _ (List.mem_append_right _ (List.mem_map_of_mem hmem))
  · refine .inr (hrules _ ?_)
    rw [LanGateway.masquerades, if_pos hnat, hnone, htunnel]
    simp

lemma Provided.nated (h : Provided s) (hactive : s.gateway ≠ none) : Nated s := by
  obtain ⟨g, hg⟩ := Option.ne_none_iff_exists'.1 hactive
  intro hop hhop
  obtain ⟨table, htable, hrules⟩ := h.rules g hg
  exact ⟨table, htable, (h.hops g hg hop hhop).masquerades (h.on g hg).2 hrules⟩

/-! ### What the steps do -/

/-- A rebuild keeps the next hops among the interfaces that the gateway has been made for. -/
lemma RebuildServed.hops {o : Routing.Outcomes} {links : List (Link ℚ)} {k : Routing.Kernel}
    (h : RebuildServed host o links g) (hk : ∀ hop ∈ k.bondDefault, Serves g hop.dev) :
    ∀ hop ∈ (Routing.installEcmpDefault host links o k).2.bondDefault, Serves g hop.dev := by
  obtain heq | ⟨hdone, total, heq⟩ | ⟨hfailed, hdone, best, hbest, heq⟩ :=
    Routing.installEcmpDefault_cases host links o k
  · rwa [heq]
  · rw [heq]
    intro hop hhop
    obtain ⟨link, hlink, rfl⟩ := List.mem_map.1 hhop
    obtain ⟨hmem, husable⟩ := List.mem_filter.1 hlink
    exact h.multipath hdone link hmem husable
  · rw [heq]
    intro hop hhop
    obtain rfl := List.mem_singleton.1 hhop
    exact h.single hfailed hdone best hbest

/-- The gateway and its table stay as they were, and each next hop has been served before or is
served by the rebuild. -/
lemma Provided.of_hops {s' : Steering} (h : Provided s) (hgateway : s'.gateway = s.gateway)
    (htable : s'.table = s.table)
    (hhops : ∀ g ∈ s.gateway, ∀ hop ∈ s'.kernel.bondDefault, Serves g hop.dev) : Provided s' where
  on := hgateway ▸ h.on
  rules := by
    rw [hgateway, htable]
    exact h.rules
  hops := by
    rw [hgateway]
    exact hhops

lemma Provided.changeState (h : Provided s) (o : StepOutcomes) (i : ℕ) (new : LinkState)
    (hserved : Served host s (.changeState i new, o)) : Provided (s.changeState host o i new) := by
  rw [Steering.changeState]
  cases hlink : s.links[i]? with
  | none => exact h
  | some link =>
    simp only []
    split
    · exact h
    · rename_i hnew
      obtain ⟨kernel, -, -, hbond, hcases⟩ := Steering.onLinkStateChange_cases host o
        { s with links := moved s.links i new } { link with state := new } new
      have hhops : ∀ g ∈ s.gateway, ∀ hop ∈ kernel.bondDefault, Serves g hop.dev := by
        intro g hg
        rw [hbond]
        split
        · rename_i hecmp
          exact (hserved link hlink hnew hecmp g hg).hops (h.hops g hg)
        · exact h.hops g hg
      obtain ⟨heq, -⟩ | ⟨-, replacement, -, heq⟩ := hcases
      · rw [heq]
        exact h.of_hops rfl rfl hhops
      · rw [heq]
        refine h.of_hops rfl rfl ?_
        simp only [Routing.pinTrafficToLink_bondDefault]
        exact hhops

/-- A ruleset that is accepted is installed, with its masquerade rules. -/
lemma rules_of_loaded {o : Outcomes} (henabled : g.cfg.enabled = true)
    (hnft : LanGateway.backend host = .nftables) (hload : (run host "nft" o.load).done = true)
    (activeRoute : RouteName) (table : Option NftTable) :
    ∃ table', (g.apply host o activeRoute table).2.2 = some table' ∧
      ∀ rule ∈ g.masquerades, rule ∈ table'.rules := by
  have hrules := LanGateway.rules_apply g host o henabled hnft activeRoute table
  rw [LanGateway.loadRuleset, if_pos hload] at hrules
  obtain ⟨table', htable', heq⟩ := Option.map_eq_some_iff.1 hrules
  refine ⟨table', htable', fun rule hrule => ?_⟩
  rw [heq]
  exact List.mem_append_right _ (LanGateway.mem_buildNftRuleset g hrule activeRoute)

/-- Without a load nothing changes, if nothing has been deleted either. -/
lemma rules_of_kept {o : Outcomes} (henabled : g.cfg.enabled = true)
    (hnft : LanGateway.backend host = .nftables) (hload : (run host "nft" o.load).done ≠ true)
    (hdelete : (run host "nft" o.deleteTable).done ≠ true) (activeRoute : RouteName)
    (table : Option NftTable) :
    (g.apply host o activeRoute table).2.2.map NftTable.rules = table.map NftTable.rules := by
  rw [LanGateway.rules_apply g host o henabled hnft activeRoute table, LanGateway.loadRuleset,
    if_neg hload, LanGateway.deleteTable, if_neg hdelete]

lemma Provided.routeSwitch (h : Provided s) (o : StepOutcomes) (old new : RouteName)
    (hnft : LanGateway.backend host = .nftables)
    (hserved : Served host s (.routeSwitch old new, o)) :
    Provided (Steering.onRouteSwitch host o old new s).2 := by
  cases hgateway : s.gateway with
  | none =>
    simp only [Steering.onRouteSwitch, hgateway]
    exact h.of_hops hgateway.symm rfl h.hops
  | some g =>
    obtain ⟨report, hg⟩ := g.gateway_apply host o.lan new s.table
    obtain ⟨henabled, hnat⟩ := h.on g hgateway
    simp only [Steering.onRouteSwitch, hgateway, LanGateway.switchRoute, hg]
    refine ⟨?_, ?_, ?_⟩
    · rintro g' ⟨⟩
      exact ⟨henabled, hnat⟩
    · rintro g' ⟨⟩
      by_cases hload : (run host "nft" o.lan.load).done = true
      · exact rules_of_loaded henabled hnft hload new s.table
      · obtain ⟨table, htable, hrules⟩ := h.rules g hgateway
        have hkept := rules_of_kept henabled hnft hload (mt hserved hload) new s.table
        rw [htable, Option.map_some] at hkept
        obtain ⟨table', htable', heq⟩ := Option.map_eq_some_iff.1 hkept
        refine ⟨table', htable ▸ htable', fun rule hrule => ?_⟩
        rw [heq]
        exact hrules rule hrule
    · rintro g' ⟨⟩
      exact h.hops g hgateway

/-- The LAN stage makes the gateway for the uplinks that are usable then. -/
lemma provided_stageLan (s : Steering) (o : StepOutcomes) {lan : LanConfig} (routes : RoutePolicy)
    (shadowsocks : ShadowsocksConfig) (tunnelInterface detected : String)
    (hon : lan.enabled = true ∧ lan.nat = true) (hnft : LanGateway.backend host = .nftables)
    (hserved : Served host s (.stageLan lan routes shadowsocks tunnelInterface detected, o)) :
    Provided (s.stageLan host o lan routes shadowsocks tunnelInterface detected) := by
  have hoff : ¬ (!lan.enabled) = true := by simp [hon.1]
  rw [Steering.stageLan, if_neg hoff]
  generalize hmade : LanGateway.mk lan routes shadowsocks s.sip s.egress tunnelInterface
    (if lan.interface = "" then detected else lan.interface) {} = made
  have hcfg : made.cfg = lan := by rw [← hmade]
  have hegress : made.egressInterfaces = s.egress := by rw [← hmade]
  have htunnel : made.tunnelInterface = tunnelInterface := by rw [← hmade]
  obtain ⟨report, hg⟩ := made.gateway_apply host o.lan routes.defaultRoute s.table
  simp only [hg]
  refine ⟨?_, ?_, ?_⟩
  · rintro g ⟨⟩
    exact hcfg ▸ hon
  · rintro g ⟨⟩
    exact rules_of_loaded (hcfg ▸ hon.1) hnft hserved.1 routes.defaultRoute s.table
  · rintro g ⟨⟩ hop hhop
    rw [Serves, hegress, htunnel]
    exact hserved.2 hop hhop

lemma Provided.step (h : Provided s) (e : SteeringEvent × StepOutcomes)
    (hnft : LanGateway.backend host = .nftables) (hon : LanOn e.1) (hserved : Served host s e) :
    Provided (s.step host e).2 := by
  obtain ⟨e, o⟩ := e
  cases e with
  | installDefault =>
    exact h.of_hops rfl rfl fun g hg => (hserved g hg).hops (h.hops g hg)
  | enterEcmp => exact h.of_hops rfl rfl h.hops
  | stageSip =>
    simp only [Steering.step, Steering.stageSip]
    split
    · exact h
    · refine h.of_hops rfl rfl ?_
      simp only [Routing.pinTrafficToLink_bondDefault]
      exact h.hops
  | stageLan lan routes shadowsocks tunnelInterface detected =>
    exact provided_stageLan s o routes shadowsocks tunnelInterface detected hon hnft hserved
  | changeState i new => exact h.changeState o i new hserved
  | measure i health uplinkMbps downlinkMbps => exact h.of_hops rfl rfl h.hops
  | routeSwitch old new => exact h.routeSwitch o old new hnft hserved

lemma Provided.run (hnft : LanGateway.backend host = .nftables)
    {events : List (SteeringEvent × StepOutcomes)} {hist : List Empty} (h : Provided s)
    (hon : ∀ e ∈ events, LanOn e.1)
    (hserved : Machine.Meets (Steering.step host) (fun s _ e => Served host s e) events s hist) :
    Provided (Machine.run (Steering.step host) events s).2 := by
  induction events generalizing s hist with
  | nil => exact h
  | cons e events ih =>
    rw [Machine.run_cons]
    exact ih (h.step e hnft (hon e (by simp)) hserved.1) (fun e' he' => hon e' (by simp [he']))
      hserved.2

/-- Every egress path is masqueraded, in each state that a run reaches once there is a gateway, as
long as every step of the run serves the next hops. -/
theorem nated_of_served (host : Host) (hnft : LanGateway.backend host = .nftables) (s : Steering)
    (hstart : s.gateway = none) (events : List (SteeringEvent × StepOutcomes))
    (hon : ∀ e ∈ events, LanOn e.1)
    (hserved : Machine.Meets (Steering.step host) (fun s _ e => Served host s e) events s []) :
    ∀ before, before <+: events →
      (Machine.run (Steering.step host) before s).2.gateway ≠ none →
      Nated (Machine.run (Steering.step host) before s).2 := by
  rintro before ⟨rest, rfl⟩ hactive
  have hprovided : Provided s := by
    refine ⟨?_, ?_, ?_⟩ <;> simp [hstart]
  have hmeets := ((Machine.meets_append _ before rest s []).1 hserved).1
  exact (hprovided.run hnft (fun e he => hon e (List.mem_append_left _ he)) hmeets).nated hactive

/-- A supervisor with a working uplink and one that is down, before the stages. -/
def twoUplinks : Steering where
  links :=
    [{ name := "wan1", interface := "eth0", gateway := "10.0.0.1", tableId := 200, state := .up },
      { name := "wan2", interface := "eth1", gateway := "10.0.1.1", tableId := 201, state := .down }]
  sip := {}
  bondMode := .none
  gateway := none
  devicesDefault := .direct
  kernel := { bondDefault := [], linkTable := fun _ => none, fwmark := fun _ => [] }
  table := none

/-- A host with everything installed. -/
def fullHost : Host := { dryRun := false, which := fun _ => true }

/-- The activation of `twoUplinks`, in the mode without a concentrator, and one change after it. -/
def activated (i : ℕ) (new : LinkState) : List (SteeringEvent × StepOutcomes) :=
  [SteeringEvent.installDefault, .enterEcmp, .stageSip, .stageLan {} {} {} "" "br-lan",
    .changeState i new].map fun e => (e, {})

/-- The uplink that is down stays down: the route of the other one is masqueraded. -/
theorem nated_of_activated :
    Nated (Machine.run (Steering.step fullHost) (activated 0 .degraded) twoUplinks).2 :=
  nated_of_served fullHost (by decide) twoUplinks rfl (activated 0 .degraded) (by decide +kernel)
    (by decide +kernel) _ (List.prefix_refl _) (Option.isSome_iff_ne_none.1 (by decide +kernel))

/-- The other uplink comes up once the LAN stage has run: it becomes a next hop and is not
masqueraded. -/
theorem not_nated_of_recovery :
    ¬ Nated (Machine.run (Steering.step fullHost) (activated 1 .up) twoUplinks).2 := by
  decide +kernel

end Turbobond.App
