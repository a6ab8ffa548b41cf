import Turbobond.App.Steering

/-!
# A switch of the route

What becomes of a switch where the kernel rejects the new ruleset of the LAN.
-/

namespace Turbobond.App

open Config Links Util Bond Lan Transport

/-- `switch_to` of a selector whose callback is that of the supervisor. -/
def switchRoute (host : Host) (o : StepOutcomes) (selector : RouteSelector) (s : Steering)
    (name : RouteName) (now : Time) : Bool × RouteSelector × Steering :=
  selector.switchTo (some (Steering.onRouteSwitch host o)) s name now

/-- The switch runs the load of a new ruleset, and the load is rejected: the route is another one
and available, there is a gateway that is on, and `nft -f` fails. -/
structure LoadRejected (host : Host) (o : StepOutcomes) (selector : RouteSelector) (s : Steering)
    (name : RouteName) : Prop where
  other : selector.active ≠ name
  available : (selector.statuses name).available = true ∨ selector.asks = false
  gateway : ∃ g, s.gateway = some g ∧ g.cfg.enabled = true
  backend : LanGateway.backend host = .nftables
  rejected : (run host "nft" o.lan.load).passed = false

/-- The switch has failed and left everything as it was. -/
structure LeavesOldRoute (selector : RouteSelector) (s : Steering)
    (r : Bool × RouteSelector × Steering) : Prop where
  refused : r.1 = false
  active : r.2.1.active = selector.active
  flags : ∀ route, (r.2.1.statuses route).active = (selector.statuses route).active
  devices : r.2.2.devicesDefault = s.devicesDefault
  ruleset : r.2.2.table.map NftTable.rules = s.table.map NftTable.rules

variable {host : Host} {o : StepOutcomes} {selector : RouteSelector} {s : Steering}
  {name : RouteName} {now : Time}

/-- The callback never raises, so a switch that gets so far is carried out. -/
lemma switchRoute_of_available (hother : selector.active ≠ name)
    (havailable : (selector.statuses name).available = true ∨ selector.asks = false) :
    switchRoute host o selector s name now =
      (true, selector.activate name now, (Steering.onRouteSwitch host o selector.active name s).2) := by
  have hgo : (!(selector.statuses name).available && selector.asks) = false := by
    rcases havailable with h | h <;> simp [h]
  rw [switchRoute, RouteSelector.switchTo, if_neg hother, hgo]
  rfl

/-- A rejected load leaves nothing in place of a table that has been deleted. -/
lemma table_of_rejected {g : LanGateway} (henabled : g.cfg.enabled = true)
    (hnft : LanGateway.backend host = .nftables)
    (hrejected : (run host "nft" o.lan.load).passed = false)
    (hdeleted : (run host "nft" o.lan.deleteTable).done = true) (activeRoute : RouteName)
    (table : Option NftTable) : (g.apply host o.lan activeRoute table).2.2 = none := by
  have hload : (run host "nft" o.lan.load).done = false := by
    simp only [CommandResult.passed, CommandResult.done, Bool.or_eq_false_iff] at hrejected ⊢
    simp [hrejected.1]
  have hrules := LanGateway.rules_apply g host o.lan henabled hnft activeRoute table
  rw [LanGateway.loadRuleset, hload, LanGateway.deleteTable, if_pos hdeleted] at hrules
  exact Option.map_eq_none_iff.1 hrules

/-- The switch leaves the old route working if and only if the load is not rejected.  Where it is
rejected, the switch is carried out all the same, and a table that could be deleted is gone. -/
theorem switchRoute_rejected_iff (host : Host) (o : StepOutcomes) (selector : RouteSelector)
    (s : Steering) (name : RouteName) (now : Time) :
    let r := switchRoute host o selector s name now
    ((LoadRejected host o selector s name → LeavesOldRoute selector s r) ↔
      ¬ LoadRejected host o selector s name) ∧
    (LoadRejected host o selector s name →
      r.1 = true ∧ r.2.1.active = name ∧ (∀ route, (r.2.1.statuses route).active = decide (route = name)) ∧
        r.2.2.devicesDefault = name ∧
        ((run host "nft" o.lan.deleteTable).done = true → r.2.2.table = none)) := by
  intro r
  have hcarried : LoadRejected host o selector s name → r.1 = true ∧ r.2.1.active = name ∧
      (∀ route, (r.2.1.statuses route).active = decide (route = name)) ∧
      r.2.2.devicesDefault = name ∧
      ((run host "nft" o.lan.deleteTable).done = true → r.2.2.table = none) := by
    intro h
    obtain ⟨g, hgateway, henabled⟩ := h.gateway
    have hr : r = _ := switchRoute_of_available h.other h.available
    rw [hr]
    refine ⟨rfl, rfl, fun _ => rfl, rfl, fun hdeleted => ?_⟩
    simp only [Steering.onRouteSwitch, hgateway]
    exact table_of_rejected henabled h.backend h.rejected hdeleted name s.table
  refine ⟨⟨fun h hrejected => ?_, fun h hrejected => absurd hrejected h⟩, hcarried⟩
  have hrefused := (h hrejected).refused
  rw [(hcarried hrejected).1] at hrefused
  exact absurd hrefused (by simp)

/-- A host with everything installed. -/
def equipped : Host := { dryRun := false, which := fun _ => true }

/-- The kernel rejects the new ruleset. -/
def rejecting : StepOutcomes := { lan := { load := { returncode := 1, stderr := "syntax error" } } }

/-- A supervisor with a LAN ruleset installed. -/
def steered : Steering where
  links := []
  sip := {}
  bondMode := .ecmp
  gateway := some
    { cfg := {}, routes := {}, shadowsocks := {}, sip := {}, egressInterfaces := ["eth0"]
      tunnelInterface := "", lanInterface := "br-lan" }
  devicesDefault := .direct
  kernel := { bondDefault := [], linkTable := fun _ => none, fwmark := fun _ => [] }
  table := some { rules := ["table inet turbobond_lan \x7b"], shadowDevices := [] }

/-- A selector that finds both routes available. -/
def selecting : RouteSelector :=
  { RouteSelector.new {} true with statuses := fun _ => { available := true, healthy := true } }

/-- The load of the ruleset for the shadow route is rejected, and the switch is carried out. -/
theorem not_leavesOldRoute :
    LoadRejected equipped rejecting selecting steered .shadow ∧
      ¬ LeavesOldRoute selecting steered
        (switchRoute equipped rejecting selecting steered .shadow 0) := by
  refine ⟨⟨by decide, .inl rfl, ⟨_, rfl, rfl⟩, by decide, by decide⟩, fun h => ?_⟩
  exact absurd h.refused (by decide)

end Turbobond.App
