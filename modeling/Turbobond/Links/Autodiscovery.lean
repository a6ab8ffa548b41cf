import Turbobond.Links.Discovery
import Mathlib.Data.List.Sort
import Mathlib.Data.String.Basic

/-!
# Finding uplinks

`discover_links` of `turbobond/links/discovery.py`, over what the host says of its interfaces and
routes.  Dry-run mode is a host of its own.
-/

namespace Turbobond.Links

open Config

/-- A route as `read_routes` reads it; a field that is not there is empty or zero. -/
structure Route where
  dst : String := ""
  dev : String := ""
  gateway : String := ""
  prefsrc : String := ""
  metric : ℤ := 0
  /-- A route with a gateway has a device. -/
  dev_ne : gateway ≠ "" → dev ≠ "" := by decide

/-- The interfaces, addresses and routes of a host. -/
structure HostNetwork where
  routes : List Route
  /-- `interface_address`, empty when there is no address. -/
  address : String → String
  /-- The text of `/sys/class/net/{interface}/operstate`, if it can be read. -/
  operstate : String → Option String
  /-- The number in `/sys/class/net/{interface}/speed`, if there is one. -/
  speed : String → Option ℤ
  /-- `ipaddress.ip_address` accepts the text: `_valid_ip`. -/
  validIp : String → Bool

/-- `EXCLUDED_PREFIXES`. -/
def excludedPrefixes : List String :=
  ["lo", "docker", "veth", "br-", "virbr", "tbond", "tun", "tap", "wg", "ppp-mgmt"]

/-- `PREFERENCE`. -/
def preferences : List (String × ℚ) :=
  [("eth", 3), ("en", 3), ("wl", 2), ("wwan", 3 / 2), ("wwp", 3 / 2), ("usb", 3 / 2), ("ww", 3 / 2),
    ("ppp", 1)]

/-- `name.startswith(prefix)`. -/
def startsWith (name start : String) : Bool := start.toList.isPrefixOf name.toList

/-- `_is_excluded`. -/
def isExcluded (name : String) : Bool := excludedPrefixes.any (startsWith name)

/-- `_preference`. -/
def preference (name : String) : ℚ :=
  ((preferences.find? fun e => startsWith name e.1).map Prod.snd).getD 1

/-- `_guess_metered`. -/
def guessMetered (name : String) : Bool := ["wwan", "wwp", "ww", "ppp", "usb"].any (startsWith name)

namespace Route

/-- `route.get("dst") in ("default", "0.0.0.0/0")`. -/
def isDefault (route : Route) : Bool := route.dst = "default" || route.dst = "0.0.0.0/0"

/-- `_autodiscover` looks at the route. -/
def offers (route : Route) (exclude : List String) : Bool :=
  route.isDefault && route.dev ≠ "" && route.dev ∉ exclude && !isExcluded route.dev

/-- The loop of `_autodiscover` over the routes: the lowest-metric default route of each interface is
kept. -/
def keepLowest (exclude : List String) (defaults : Dict String Route) (route : Route) :
    Dict String Route :=
  if route.offers exclude then
    match defaults.get? route.dev with
    | none => defaults.set route.dev route
    | some existing =>
      if route.metric < existing.metric then defaults.set route.dev route else defaults
  else defaults

end Route

namespace HostNetwork

variable (host : HostNetwork)

/-- `_operstate`. -/
def linkState (interface : String) : LinkState :=
  match host.operstate interface with
  | none => .down
  | some state =>
    if state = "up" then .up
    -- point-to-point and modem interfaces often report "unknown" while working
    else if state = "unknown" then if host.address interface ≠ "" then .up else .down
    else .down

/-- `_interface_speed_mbps`. -/
def interfaceSpeedMbps (interface : String) : ℚ :=
  match host.speed interface with
  | none => 0
  | some speed => if speed > 0 then speed else 0

/-- The default route of each interface with the lowest metric, in the order of the interfaces. -/
def defaultRoutes (exclude : List String) : List (String × Route) :=
  (host.routes.foldl (Route.keepLowest exclude) Dict.empty).entries.insertionSort
    fun e e' => e.1 ≤ e'.1

/-- The uplink that `_autodiscover` makes of a default route. -/
def autoLink (dev : String) (route : Route) : Link ℚ :=
  let speed := host.interfaceSpeedMbps dev
  { name := dev
    interface := dev
    gateway := route.gateway
    sourceIp := if route.prefsrc ≠ "" then route.prefsrc else host.address dev
    weight := preference dev
    uplinkMbps := speed
    downlinkMbps := speed
    metered := guessMetered dev
    enabled := true
    state := host.linkState dev }

/-- `_autodiscover`. -/
def autodiscover (exclude : List String) : List (Link ℚ) :=
  ((host.defaultRoutes exclude).filter fun e => host.linkState e.1 ≠ .down).map fun e =>
    host.autoLink e.1 e.2

/-- The uplink that `discover_links` makes of a configured one. -/
def configuredLink (lc : LinkConfig) : Link ℚ :=
  { name := lc.name
    interface := lc.interface
    gateway := lc.gateway
    sourceIp := host.address lc.interface
    weight := lc.weight
    uplinkMbps := lc.uplinkMbps
    downlinkMbps := lc.downlinkMbps
    metered := lc.metered
    enabled := lc.enabled
    tableId := lc.tableId
    state := if lc.enabled then host.linkState lc.interface else .disabled }

/-- The dictionary `by_dev` of `_fill_missing_gateways`: the gateway of the first default route that
has one. -/
def gatewayOf (interface : String) : String :=
  match host.routes.find? fun route =>
      route.isDefault && route.gateway ≠ "" && route.dev = interface with
  | some route => route.gateway
  | none => ""

/-- The loop of `_fill_missing_gateways`. -/
def fillMissing (link : Link ℚ) : Link ℚ :=
  let gateway := if link.gateway = "" then host.gatewayOf link.interface else link.gateway
  { link with
    gateway := if gateway ≠ "" ∧ ¬ host.validIp gateway then "" else gateway
    sourceIp := if link.sourceIp = "" then host.address link.interface else link.sourceIp }

/-- The loop of `discover_links` over `zip(cfg.links, links)`. -/
def lendGateways : List LinkConfig → List (Link ℚ) → List (Link ℚ)
  | lc :: lcs, link :: links =>
    (if link.gateway = "" then { link with gateway := lc.gateway } else link) ::
      lendGateways lcs links
  | _, links => links

/-- `discover_links`. -/
def discoverLinks (cfg : AppConfig) : List (Link ℚ) :=
  let configured := cfg.links.map host.configuredLink
  let found :=
    if cfg.autoDiscoverLinks then host.autodiscover (cfg.links.map LinkConfig.interface) else []
  (assignIds (lendGateways cfg.links (configured ++ found))).map host.fillMissing

end HostNetwork

/-! ### The default route of an interface -/

namespace Route

/-- `r` competes with a default route for its interface. -/
def Rivals (exclude : List String) (r route : Route) : Prop :=
  r.offers exclude = true ∧ r.dev = route.dev

/-- The default route of its interface with the lowest metric, the first one if there are several. -/
def Lowest (exclude : List String) (routes : List Route) (route : Route) : Prop :=
  route.offers exclude = true ∧ ∃ before after, routes = before ++ route :: after ∧
    (∀ r ∈ before, r.Rivals exclude route → route.metric < r.metric) ∧
      ∀ r ∈ after, r.Rivals exclude route → route.metric ≤ r.metric

variable {exclude : List String} {routes : List Route} {route last : Route}
  {defaults : Dict String Route}

lemma Lowest.mem (h : Lowest exclude routes route) : route ∈ routes := by
  obtain ⟨-, before, after, rfl, -, -⟩ := h
  simp

lemma Lowest.le (h : Lowest exclude routes route) {r : Route} (hr : r ∈ routes)
    (hrivals : r.Rivals exclude route) : route.metric ≤ r.metric := by
  obtain ⟨-, before, after, rfl, hbefore, hafter⟩ := h
  rcases List.mem_append.1 hr with hr | hr
  · exact (hbefore r hr hrivals).le
  rcases List.mem_cons.1 hr with rfl | hr
  · exact le_rfl
  · exact hafter r hr hrivals

/-- One more route is the lowest when it beats all of its rivals, and otherwise leaves what was. -/
lemma lowest_concat : Lowest exclude (routes ++ [last]) route ↔
    (Lowest exclude routes route ∧ (last.Rivals exclude route → route.metric ≤ last.metric)) ∨
      (route = last ∧ last.offers exclude = true ∧
        ∀ r ∈ routes, r.Rivals exclude last → last.metric < r.metric) := by
  constructor
  · rintro ⟨hoffers, before, after, heq, hbefore, hafter⟩
    rcases after.eq_nil_or_concat with rfl | ⟨after', x, rfl⟩
    · obtain ⟨rfl, hlast⟩ := List.append_inj' heq rfl
      cases hlast
      exact Or.inr ⟨rfl, hoffers, hbefore⟩
    · have heq' : routes ++ [last] = (before ++ route :: after') ++ [x] := by simpa using heq
      obtain ⟨rfl, hlast⟩ := List.append_inj' heq' rfl
      cases hlast
      exact Or.inl ⟨⟨hoffers, before, after', rfl, hbefore,
        fun r hr => hafter r (by simp [hr])⟩, hafter last (by simp)⟩
  · rintro (⟨⟨hoffers, before, after, rfl, hbefore, hafter⟩, hlast⟩ | ⟨rfl, hoffers, hall⟩)
    · refine ⟨hoffers, before, after ++ [last], by simp, hbefore, fun r hr => ?_⟩
      rcases List.mem_append.1 hr with hr | hr
      · exact hafter r hr
      · rw [List.mem_singleton.1 hr]
        exact hlast
    · exact ⟨hoffers, routes, [], rfl, hall, by simp⟩

/-- What the loop of `_autodiscover` has kept when it has read some routes. -/
structure Kept (exclude : List String) (routes : List Route) (defaults : Dict String Route) :
    Prop where
  get?_iff : ∀ {dev route}, defaults.get? dev = some route ↔
    route.dev = dev ∧ Lowest exclude routes route
  isSome : ∀ route ∈ routes, route.offers exclude = true → (defaults.get? route.dev).isSome

/-- A route that beats its rivals takes the place of its interface. -/
lemma Kept.set (h : Kept exclude routes defaults) (hoffers : last.offers exclude = true)
    (hbeats : ∀ r ∈ routes, r.Rivals exclude last → last.metric < r.metric) :
    Kept exclude (routes ++ [last]) (defaults.set last.dev last) where
  get?_iff := by
    intro dev route
    rw [Dict.get?_set, lowest_concat]
    by_cases hdev : dev = last.dev
    · subst hdev
      rw [if_pos rfl, Option.some.injEq]
      constructor
      · rintro rfl
        exact ⟨rfl, Or.inr ⟨rfl, hoffers, hbeats⟩⟩
      · rintro ⟨hdev, ⟨hlowest, hle⟩ | ⟨rfl, -⟩⟩
        · have hlt := hbeats route hlowest.mem ⟨hlowest.1, hdev⟩
          exact absurd (hle ⟨hoffers, hdev.symm⟩) hlt.not_ge
        · rfl
    · rw [if_neg hdev, h.get?_iff]
      constructor
      · rintro ⟨rfl, hlowest⟩
        exact ⟨rfl, Or.inl ⟨hlowest, fun hrivals => absurd hrivals.2.symm hdev⟩⟩
      · rintro ⟨rfl, ⟨hlowest, -⟩ | ⟨rfl, -⟩⟩
        · exact ⟨rfl, hlowest⟩
        · exact absurd rfl hdev
  isSome := by
    intro route hroute hoffers'
    rw [Dict.get?_set]
    split
    · rfl
    · rename_i hdev
      rcases List.mem_append.1 hroute with hroute | hroute
      · exact h.isSome route hroute hoffers'
      · rw [List.mem_singleton.1 hroute] at hdev
        exact absurd rfl hdev

/-- A route that does not is passed over. -/
lemma Kept.pass (h : Kept exclude routes defaults)
    (hnot : last.offers exclude = true → ∃ existing, defaults.get? last.dev = some existing ∧
      existing.metric ≤ last.metric) :
    Kept exclude (routes ++ [last]) defaults where
  get?_iff := by
    intro dev route
    rw [h.get?_iff, lowest_concat]
    refine and_congr_right fun hdev => ⟨fun hlowest => Or.inl ⟨hlowest, ?_⟩, ?_⟩
    · rintro ⟨hoffers, hsame⟩
      obtain ⟨existing, hget, hle⟩ := hnot hoffers
      have hkept : defaults.get? last.dev = some route := h.get?_iff.2 ⟨hsame.symm, hlowest⟩
      cases hget.symm.trans hkept
      exact hle
    · rintro (⟨hlowest, -⟩ | ⟨rfl, hoffers, hall⟩)
      · exact hlowest
      · obtain ⟨existing, hget, hle⟩ := hnot hoffers
        obtain ⟨hsame, hlowest⟩ := h.get?_iff.1 hget
        exact absurd (hall existing hlowest.mem ⟨hlowest.1, hsame⟩) hle.not_gt
  isSome := by
    intro route hroute hoffers
    rcases List.mem_append.1 hroute with hroute | hroute
    · exact h.isSome route hroute hoffers
    · rw [List.mem_singleton.1 hroute] at hoffers ⊢
      obtain ⟨existing, hget, -⟩ := hnot hoffers
      rw [hget]
      rfl

lemma Kept.keepLowest (h : Kept exclude routes defaults) (route : Route) :
    Kept exclude (routes ++ [route]) (keepLowest exclude defaults route) := by
  rw [Route.keepLowest]
  by_cases hoffers : route.offers exclude = true
  swap
  · rw [if_neg hoffers]
    exact h.pass fun hoffers' => absurd hoffers' hoffers
  rw [if_pos hoffers]
  cases hget : defaults.get? route.dev with
  | none =>
    refine h.set hoffers fun r hr hrivals => ?_
    have hsome := h.isSome r hr hrivals.1
    rw [hrivals.2, hget] at hsome
    cases hsome
  | some existing =>
    obtain ⟨hsame, hlowest⟩ := h.get?_iff.1 hget
    simp only
    split
    · rename_i hlt
      exact h.set hoffers fun r hr hrivals =>
        hlt.trans_le (hlowest.le hr ⟨hrivals.1, hrivals.2.trans hsame.symm⟩)
    · rename_i hle
      exact h.pass fun _ => ⟨existing, hget, not_lt.1 hle⟩

lemma kept_foldl (routes : List Route) :
    Kept exclude routes (routes.foldl (Route.keepLowest exclude) Dict.empty) := by
  induction routes using List.reverseRecOn with
  | nil => exact ⟨by simp [Lowest], by simp⟩
  | append_singleton routes route ih =>
    rw [List.foldl_append]
    exact ih.keepLowest route

end Route

namespace HostNetwork

variable {host : HostNetwork} {exclude : List String}

/-- `_autodiscover` has the lowest default route of each interface. -/
lemma mem_defaultRoutes {dev : String} {route : Route} :
    (dev, route) ∈ host.defaultRoutes exclude ↔
      route.dev = dev ∧ Route.Lowest exclude host.routes route := by
  rw [defaultRoutes, List.mem_insertionSort, ← Dict.get?_eq_some_iff]
  exact (Route.kept_foldl host.routes).get?_iff

/-- An interface with a default route that is not excluded has a lowest one. -/
lemma exists_mem_defaultRoutes {route : Route} (hroute : route ∈ host.routes)
    (hoffers : route.offers exclude = true) :
    ∃ lowest, (route.dev, lowest) ∈ host.defaultRoutes exclude := by
  obtain ⟨lowest, hget⟩ :=
    Option.isSome_iff_exists.1 ((Route.kept_foldl host.routes).isSome route hroute hoffers)
  exact ⟨lowest, mem_defaultRoutes.2 ((Route.kept_foldl host.routes).get?_iff.1 hget)⟩

end HostNetwork

end Turbobond.Links
