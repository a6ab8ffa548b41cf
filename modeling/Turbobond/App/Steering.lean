import Turbobond.Bond.Routing
import Turbobond.Lan.Gateway
import Turbobond.Transport.Selector

/-!
# Steering

The part of `turbobond/supervisor.py` that steers traffic: the stages that install the multipath
route, the pin of voice traffic and the LAN ruleset, and the callbacks that keep them up to date.
-/

namespace Turbobond.App

open Config Links Util Bond Lan Transport

inductive BondMode where
  | none
  | ecmp
  | tunnel
  deriving DecidableEq

/-- What the supervisor steers by, and what it has installed in the kernel. -/
structure Steering where
  links : List (Link ℚ)
  sip : SipConfig
  bondMode : BondMode
  gateway : Option LanGateway
  /-- `devices.default_route`. -/
  devicesDefault : RouteName
  kernel : Routing.Kernel
  /-- The table of the gateway. -/
  table : Option NftTable

/-- What the commands of one step return if they are executed. -/
structure StepOutcomes where
  routing : Routing.Outcomes := {}
  lan : Lan.Outcomes := {}

/-- `_resolve_sip_link`. -/
def resolveSipLink (links : List (Link ℚ)) (sip : SipConfig) : Option (Link ℚ) :=
  if sip.pinToLink = "" then
    let unmetered := links.filter fun link => link.usable && !link.metered
    let candidates := if unmetered.isEmpty then links.filter Link.usable else unmetered
    candidates.argmin fun link => max link.health.rttMs (1 / 100)
  else links.find? fun link => link.name = sip.pinToLink && link.usable

/-- The links once one of them, given by its place, has moved to another state. -/
def moved (links : List (Link ℚ)) (i : ℕ) (new : LinkState) : List (Link ℚ) :=
  links.modify i fun link => { link with state := new }

namespace Steering

variable (host : Host) (o : StepOutcomes)

/-- The interfaces of the usable links. -/
def egress (s : Steering) : List String := (s.links.filter Link.usable).map Link.interface

/-- The multipath route of `_stage_bond`, where no tunnel comes up.  The mode is set only once it is
installed, and links may change in between. -/
def installDefault (s : Steering) : Steering :=
  { s with kernel := (Routing.installEcmpDefault host s.links o.routing s.kernel).2 }

def enterEcmp (s : Steering) : Steering := { s with bondMode := .ecmp }

/-- The pin of `_stage_sip`. -/
def stageSip (s : Steering) : Steering :=
  match resolveSipLink s.links s.sip with
  | none => s
  | some link =>
    { s with kernel := (Routing.pinTrafficToLink host link Routing.markSip o.routing s.kernel).2 }

/-- `_stage_lan`, with the sections of the configuration, the interface of the tunnel, if there is
one, and the interface that `detect_lan_interface` finds. -/
def stageLan (s : Steering) (lan : LanConfig) (routes : RoutePolicy)
    (shadowsocks : ShadowsocksConfig) (tunnelInterface detected : String) : Steering :=
  if !lan.enabled then s
  else
    let gateway : LanGateway :=
      { cfg := lan, routes, shadowsocks, sip := s.sip, egressInterfaces := s.egress, tunnelInterface
        lanInterface := if lan.interface = "" then detected else lan.interface }
    let (_, gateway, table) := gateway.apply host o.lan routes.defaultRoute s.table
    { s with gateway := some gateway, table }

/-- `_on_route_switch`: what the gateway returns is not looked at. -/
def onRouteSwitch (_old new : RouteName) (s : Steering) : Except String Unit × Steering :=
  let s :=
    match s.gateway with
    | none => s
    | some gateway =>
      let (_, gateway, table) := gateway.switchRoute host o.lan new s.table
      { s with gateway := some gateway, table }
  (.ok (), { s with devicesDefault := new })

/-- `_on_link_state_change`, but for the tunnel: the link has its new state already. -/
def onLinkStateChange (s : Steering) (link : Link ℚ) (new : LinkState) : Steering :=
  let s :=
    -- rebuild the multipath route so that a dead link stops receiving flows
    if s.bondMode = .ecmp then s.installDefault host o else s
  if new = .down ∧ s.sip.pinToLink = link.name then
    match resolveSipLink s.links s.sip with
    | none => s
    | some replacement =>
      { s with kernel :=
          (Routing.pinTrafficToLink host replacement Routing.markSip o.routing s.kernel).2 }
  else s

/-- The monitor moves a link to another state. -/
def changeState (s : Steering) (i : ℕ) (new : LinkState) : Steering :=
  match s.links[i]? with
  | none => s
  | some link =>
    if link.state = new then s
    else
      onLinkStateChange host o { s with links := moved s.links i new } { link with state := new } new

/-- A probe that does not move a link updates its measurements. -/
def measure (s : Steering) (i : ℕ) (health : LinkHealth ℚ) (uplinkMbps downlinkMbps : ℚ) :
    Steering :=
  { s with links := s.links.modify i fun link => { link with health, uplinkMbps, downlinkMbps } }

end Steering

/-! ### What a change of state does -/

namespace Steering

/-- A change rebuilds the multipath route in the mode without a tunnel and, if the link that voice
traffic is pinned to by name goes down and has a replacement, pins it anew. -/
lemma onLinkStateChange_cases (host : Host) (o : StepOutcomes) (s : Steering) (link : Link ℚ)
    (new : LinkState) :
    ∃ kernel : Routing.Kernel, kernel.linkTable = s.kernel.linkTable ∧
      kernel.fwmark = s.kernel.fwmark ∧
      kernel.bondDefault =
        (if s.bondMode = .ecmp then (s.installDefault host o).kernel else s.kernel).bondDefault ∧
      ((s.onLinkStateChange host o link new = { s with kernel } ∧
          ∀ replacement ∈ resolveSipLink s.links s.sip,
            ¬ (new = .down ∧ s.sip.pinToLink = link.name)) ∨
        ((new = .down ∧ s.sip.pinToLink = link.name) ∧
          ∃ replacement ∈ resolveSipLink s.links s.sip, s.onLinkStateChange host o link new =
            { s with kernel := (Routing.pinTrafficToLink host replacement Routing.markSip o.routing
              kernel).2 })) := by
  have hrebuild : ∃ kernel : Routing.Kernel,
      (if s.bondMode = .ecmp then s.installDefault host o else s) = { s with kernel } ∧
      kernel.linkTable = s.kernel.linkTable ∧ kernel.fwmark = s.kernel.fwmark ∧
      kernel.bondDefault =
        (if s.bondMode = .ecmp then (s.installDefault host o).kernel else s.kernel).bondDefault := by
    split
    · exact ⟨_, rfl, Routing.linkTable_installEcmpDefault .., Routing.fwmark_installEcmpDefault .., rfl⟩
    · exact ⟨_, rfl, rfl, rfl, rfl⟩
  obtain ⟨kernel, heq, htable, hmark, hbond⟩ := hrebuild
  refine ⟨kernel, htable, hmark, hbond, ?_⟩
  simp only [onLinkStateChange, heq]
  split
  · rename_i hpinned
    cases hresolve : resolveSipLink s.links s.sip with
    | none => exact .inl ⟨rfl, fun _ h => absurd h (by simp)⟩
    | some replacement => exact .inr ⟨hpinned, replacement, rfl, rfl⟩
  · rename_i hfree
    exact .inl ⟨rfl, fun _ _ => hfree⟩

end Steering

/-- What happens to the supervisor once its links are known. -/
inductive SteeringEvent where
  | installDefault
  | enterEcmp
  | stageSip
  | stageLan (lan : LanConfig) (routes : RoutePolicy) (shadowsocks : ShadowsocksConfig)
      (tunnelInterface detected : String)
  | changeState (i : ℕ) (new : LinkState)
  | measure (i : ℕ) (health : LinkHealth ℚ) (uplinkMbps downlinkMbps : ℚ)
  /-- The callback of a switch that the selector makes. -/
  | routeSwitch (old new : RouteName)

/-- One event, with what its commands return. -/
def Steering.step (host : Host) (s : Steering) (e : SteeringEvent × StepOutcomes) :
    List Empty × Steering :=
  ([], match e.1 with
    | .installDefault => s.installDefault host e.2
    | .enterEcmp => s.enterEcmp
    | .stageSip => s.stageSip host e.2
    | .stageLan lan routes shadowsocks tunnelInterface detected =>
      s.stageLan host e.2 lan routes shadowsocks tunnelInterface detected
    | .changeState i new => s.changeState host e.2 i new
    | .measure i health uplinkMbps downlinkMbps => s.measure i health uplinkMbps downlinkMbps
    | .routeSwitch old new => (Steering.onRouteSwitch host e.2 old new s).2)

end Turbobond.App
