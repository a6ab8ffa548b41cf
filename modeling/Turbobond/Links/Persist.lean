import Turbobond.Links.Ids

/-!
# Discovering what was discovered

The links that are found are written back into the configuration, so that the next start is
deterministic.  A link that was found by its default route is a configured link then, and its source
address is looked up in another way; a gateway that was dropped may be filled in.  Apart from these two
the second discovery is the first.
-/

namespace Turbobond.Links

open Config

/-- What an uplink is, without its health. -/
structure Described where
  name : String
  interface : String
  gateway : String
  sourceIp : String
  weight : ℚ
  uplinkMbps : ℚ
  downlinkMbps : ℚ
  metered : Bool
  state : LinkState
  tableId : ℤ
  linkId : ℕ

def Link.described (link : Link ℚ) : Described :=
  { name := link.name
    interface := link.interface
    gateway := link.gateway
    sourceIp := link.sourceIp
    weight := link.weight
    uplinkMbps := link.uplinkMbps
    downlinkMbps := link.downlinkMbps
    metered := link.metered
    state := link.state
    tableId := link.tableId
    linkId := link.linkId }

/-- The configuration that `links_to_config` makes of a link. -/
def Link.toConfig (link : Link ℚ) : LinkConfig :=
  { name := link.name
    interface := link.interface
    gateway := link.gateway
    weight := link.weight
    uplinkMbps := link.uplinkMbps
    downlinkMbps := link.downlinkMbps
    metered := link.metered
    enabled := link.enabled
    tableId := link.tableId }

lemma linksToConfig_eq (links : List (Link ℚ)) : linksToConfig links = links.map Link.toConfig := rfl

/-! ### Ids are kept -/

section Ids

variable {K : Type} [Zero K] [One K] {used : List ℤ} {nextTable : ℤ} {index : ℕ}
  {links : List (Link K)}

/-- What does not depend on ids holds of the links after they were numbered if it did before. -/
lemma forall_mem_assignIdsFrom {P : Link K → Prop}
    (hP : ∀ link tableId linkId, P { link with tableId, linkId } ↔ P link) :
    (∀ link ∈ assignIdsFrom used nextTable index links, P link) ↔ ∀ link ∈ links, P link := by
  induction links generalizing used nextTable index with
  | nil => simp [assignIdsFrom]
  | cons link links ih =>
    rw [assignIdsFrom]
    split
    · rw [List.forall_mem_cons, List.forall_mem_cons, ih]
      exact and_congr_left' (hP link link.tableId _)
    · rw [List.forall_mem_cons, List.forall_mem_cons, ih]
      exact and_congr_left' (hP link _ _)

lemma map_assignIdsFrom {β : Type} {f : Link K → β}
    (hf : ∀ link tableId linkId, f { link with tableId, linkId } = f link) :
    (assignIdsFrom used nextTable index links).map f = links.map f := by
  induction links generalizing used nextTable index with
  | nil => rfl
  | cons link links ih =>
    rw [assignIdsFrom]
    split
    · rw [List.map_cons, List.map_cons, ih]
      exact congrArg (· :: _) (hf link link.tableId _)
    · rw [List.map_cons, List.map_cons, ih]
      exact congrArg (· :: _) (hf link _ _)

lemma length_assignIdsFrom : (assignIdsFrom used nextTable index links).length = links.length := by
  simpa using congrArg List.length (map_assignIdsFrom (f := fun _ : Link K => ()) fun _ _ _ => rfl)

/-- Links that were numbered, and then lost their link ids, are numbered in the same way. -/
lemma assignIdsFrom_map {f : Link K → Link K} (htable : ∀ link, (f link).tableId = link.tableId)
    (hlink : ∀ link, (f link).linkId = 0) (hne : ∀ link ∈ links, link.tableId ≠ 0)
    (hrange : links.map Link.linkId = List.range' index links.length) :
    assignIdsFrom used nextTable index (links.map f) =
      links.map fun link => { f link with linkId := link.linkId } := by
  induction links generalizing index with
  | nil => rfl
  | cons link links ih =>
    rw [List.map_cons, List.length_cons, List.range'_succ, List.cons.injEq] at hrange
    obtain ⟨hindex, hrest⟩ := hrange
    rw [List.map_cons, List.map_cons, assignIdsFrom,
      if_pos (by rw [htable]; exact hne link List.mem_cons_self), if_pos (hlink link),
      ih (fun l hl => hne l (List.mem_cons_of_mem _ hl)) hrest, hindex]

end Ids

namespace HostNetwork

variable {host : HostNetwork} {cfg : AppConfig}

/-! ### What is found the second time -/

/-- The uplinks that `discover_links` adds to the configured ones. -/
def found (host : HostNetwork) (cfg : AppConfig) : List (Link ℚ) :=
  if cfg.autoDiscoverLinks then host.autodiscover (cfg.links.map LinkConfig.interface) else []

/-- The configured links already have the gateways of their configurations. -/
lemma lendGateways_configured (lcs : List LinkConfig) (links : List (Link ℚ)) :
    lendGateways lcs (lcs.map host.configuredLink ++ links) =
      lcs.map host.configuredLink ++ links := by
  induction lcs with
  | nil => cases links <;> rfl
  | cons lc lcs ih =>
    rw [List.map_cons, List.cons_append, lendGateways, ih]
    split
    · rfl
    · rfl

lemma discoverLinks_eq : host.discoverLinks cfg =
    (assignIds (cfg.links.map host.configuredLink ++ host.found cfg)).map host.fillMissing :=
  congrArg (fun links => (assignIds links).map host.fillMissing)
    (lendGateways_configured cfg.links (host.found cfg))

/-- What `_autodiscover` does not exclude it finds unless the interface is down: so it finds nothing
more when the interfaces that it found are excluded. -/
lemma autodiscover_again {exclude exclude' : List String} (hsub : exclude ⊆ exclude')
    (hfound : ∀ link ∈ host.autodiscover exclude, link.interface ∈ exclude') :
    host.autodiscover exclude' = [] := by
  rw [autodiscover, List.map_eq_nil_iff, List.filter_eq_nil_iff]
  rintro ⟨dev, route⟩ he hup
  obtain ⟨rfl, hlowest⟩ := mem_defaultRoutes.1 he
  have hoffers := hlowest.1
  simp only [Route.offers, Bool.and_eq_true, decide_eq_true_eq] at hoffers
  obtain ⟨⟨⟨hdefault, hne⟩, hnot⟩, hexcluded⟩ := hoffers
  have hoffered : route.offers exclude = true := by
    simp only [Route.offers, Bool.and_eq_true, decide_eq_true_eq]
    exact ⟨⟨⟨hdefault, hne⟩, fun h => hnot (hsub h)⟩, hexcluded⟩
  obtain ⟨lowest, hlowest'⟩ := exists_mem_defaultRoutes hlowest.mem hoffered
  exact hnot (hfound (host.autoLink route.dev lowest)
    (List.mem_map.2 ⟨_, List.mem_filter.2 ⟨hlowest', hup⟩, rfl⟩))

/-! ### Both discoveries -/

/-- The configuration with the links that were discovered. -/
def persisted (host : HostNetwork) (cfg : AppConfig) : AppConfig :=
  { cfg with links := linksToConfig (host.discoverLinks cfg) }

/-- The second discovery of an uplink: it is configured, and numbered as it was. -/
def rediscovered (host : HostNetwork) (link : Link ℚ) : Link ℚ :=
  host.fillMissing { host.configuredLink link.toConfig with linkId := link.linkId }

lemma interface_of_mem_discoverLinks {link : Link ℚ}
    (h : link ∈ host.found cfg ∨ ∃ lc ∈ cfg.links, link.interface = lc.interface) :
    link.interface ∈ (host.persisted cfg).links.map LinkConfig.interface := by
  have hmap : (host.persisted cfg).links.map LinkConfig.interface =
      (cfg.links.map host.configuredLink ++ host.found cfg).map Link.interface := by
    have hinterface : ∀ links : List (Link ℚ),
        (links.map host.fillMissing).map Link.interface = links.map Link.interface := by
      intro links
      rw [List.map_map]
      rfl
    rw [persisted, linksToConfig_eq, List.map_map]
    change (host.discoverLinks cfg).map Link.interface = _
    rw [discoverLinks_eq, hinterface, assignIds, map_assignIdsFrom fun _ _ _ => rfl]
  rw [hmap]
  rcases h with h | ⟨lc, hlc, heq⟩
  · exact List.mem_map_of_mem (List.mem_append_right _ h)
  · rw [heq]
    exact List.mem_map.2
      ⟨host.configuredLink lc, List.mem_append_left _ (List.mem_map_of_mem hlc), rfl⟩

/-- Nothing is found in addition the second time. -/
lemma found_persisted : host.found (host.persisted cfg) = [] := by
  rw [found]
  split
  · rename_i hauto
    refine autodiscover_again (?_ : cfg.links.map LinkConfig.interface ⊆ _) fun link hlink => ?_
    · intro interface hinterface
      obtain ⟨lc, hlc, rfl⟩ := List.mem_map.1 hinterface
      have hlink : host.configuredLink lc ∈ host.found cfg ∨
          ∃ lc' ∈ cfg.links, (host.configuredLink lc).interface = lc'.interface :=
        Or.inr ⟨lc, hlc, rfl⟩
      exact interface_of_mem_discoverLinks hlink
    · refine interface_of_mem_discoverLinks (Or.inl ?_)
      rw [found, if_pos (show cfg.autoDiscoverLinks = true from hauto)]
      exact hlink
  · rfl

lemma preference_pos (name : String) : 0 < preference name := by
  rw [preference]
  cases hfind : preferences.find? fun e => startsWith name e.1 with
  | none => exact one_pos
  | some e =>
    have hpos : ∀ e ∈ preferences, 0 < e.2 := by decide +kernel
    exact hpos e (List.mem_of_find?_eq_some hfind)

/-- What is written back passes the checks of `LinkConfig`. -/
theorem valid_of_mem_persisted (hvalid : ∀ lc ∈ cfg.links, lc.Valid) {lc : LinkConfig}
    (h : lc ∈ (host.persisted cfg).links) : lc.Valid := by
  have hweight : ∀ link ∈ host.discoverLinks cfg, 0 < link.weight := by
    rw [discoverLinks_eq, List.forall_mem_map, assignIds]
    refine (forall_mem_assignIdsFrom (P := fun link => 0 < (host.fillMissing link).weight)
      fun _ _ _ => Iff.rfl).2 ?_
    rw [List.forall_mem_append, List.forall_mem_map, found]
    refine ⟨hvalid, ?_⟩
    split
    · rw [autodiscover, List.forall_mem_map]
      exact fun e _ => preference_pos e.1
    · simp
  obtain ⟨link, hlink, rfl⟩ := List.mem_map.1 h
  exact hweight link hlink

/-- Uplinks that were just found have no link ids. -/
lemma linkId_eq_zero {link : Link ℚ}
    (h : link ∈ cfg.links.map host.configuredLink ++ host.found cfg) : link.linkId = 0 := by
  rcases List.mem_append.1 h with h | h
  · obtain ⟨lc, -, rfl⟩ := List.mem_map.1 h
    rfl
  · rw [found] at h
    split at h
    · exact (ids_of_mem_autodiscover h).2
    · exact absurd h (by simp)

/-- The second discovery goes link by link. -/
lemma discoverLinks_persisted : host.discoverLinks (host.persisted cfg) =
    (host.discoverLinks cfg).map host.rediscovered := by
  have hne : ∀ link ∈ host.discoverLinks cfg, link.tableId ≠ 0 := by
    intro link hlink
    rw [discoverLinks_eq] at hlink
    obtain ⟨link', hlink', rfl⟩ := List.mem_map.1 hlink
    exact (tableId_ne_zero_of_mem_assignIdsFrom (by norm_num) hlink' : link'.tableId ≠ 0)
  have hrange : (host.discoverLinks cfg).map Link.linkId =
      List.range' 1 (host.discoverLinks cfg).length := by
    have hlength : (host.discoverLinks cfg).length =
        (cfg.links.map host.configuredLink ++ host.found cfg).length := by
      rw [discoverLinks_eq, List.length_map, assignIds, length_assignIdsFrom]
    rw [hlength, discoverLinks_eq, List.map_map]
    exact map_linkId_assignIdsFrom fun link hlink => linkId_eq_zero hlink
  have hconfigured : (host.persisted cfg).links.map host.configuredLink =
      (host.discoverLinks cfg).map fun link => host.configuredLink link.toConfig := by
    rw [persisted, linksToConfig_eq, List.map_map]
    rfl
  rw [discoverLinks_eq, found_persisted, List.append_nil, hconfigured, assignIds,
    assignIdsFrom_map (f := fun link => host.configuredLink link.toConfig) (fun _ => rfl)
      (fun _ => rfl) hne hrange, List.map_map]
  rfl

/-! ### What may be different -/

/-- `_fill_missing_gateways`, of one gateway. -/
def filledGateway (host : HostNetwork) (interface gateway : String) : String :=
  let gateway := if gateway = "" then host.gatewayOf interface else gateway
  if gateway ≠ "" ∧ ¬ host.validIp gateway then "" else gateway

/-- A gateway that is dropped because it is no address, while the routes have one that is. -/
def Regains (host : HostNetwork) (interface gateway : String) : Prop :=
  gateway ≠ "" ∧ host.validIp gateway = false ∧ host.gatewayOf interface ≠ "" ∧
    host.validIp (host.gatewayOf interface) = true

/-- Filling in twice is filling in once, unless a gateway is regained. -/
lemma filledGateway_twice {interface gateway : String} :
    host.filledGateway interface (host.filledGateway interface gateway) =
      host.filledGateway interface gateway ↔ ¬ host.Regains interface gateway := by
  simp only [filledGateway, Regains]
  by_cases hg : gateway = ""
  · by_cases hr : host.gatewayOf interface = ""
    · simp [hg, hr]
    · cases hv : host.validIp (host.gatewayOf interface) with
      | false => simp [hg, hr, hv]
      | true => simp [hg, hr, hv]
  · cases hgv : host.validIp gateway with
    | true => simp [hg, hgv]
    | false =>
      by_cases hr : host.gatewayOf interface = ""
      · simp [hg, hgv, hr]
      · cases hv : host.validIp (host.gatewayOf interface) with
        | false => simp [hg, hgv, hr, hv]
        | true => simp [hg, hgv, hr, hv]

/-- An uplink has its source address from the interface, and its gateway is not regained. -/
def Steady (host : HostNetwork) (link : Link ℚ) : Prop :=
  (link.sourceIp = "" ∨ link.sourceIp = host.address link.interface) ∧
    ¬ host.Regains link.interface link.gateway

/-- An uplink that is filled in is found again as it is if and only if it is steady. -/
lemma described_rediscovered {link : Link ℚ}
    (hstate : link.state = if link.enabled then host.linkState link.interface else .disabled) :
    (host.rediscovered (host.fillMissing link)).described = (host.fillMissing link).described ↔
      host.Steady link := by
  have hagain : (host.rediscovered (host.fillMissing link)).described =
      { (host.fillMissing link).described with
        gateway := host.filledGateway link.interface (host.filledGateway link.interface link.gateway)
        sourceIp := host.address link.interface } := by
    simp [rediscovered, fillMissing, configuredLink, Link.described, Link.toConfig, filledGateway,
      hstate]
  have hsource : host.address link.interface = (host.fillMissing link).sourceIp ↔
      link.sourceIp = "" ∨ link.sourceIp = host.address link.interface := by
    simp only [fillMissing]
    split
    · rename_i h
      simp [h]
    · rename_i h
      simp [h, eq_comm]
  have hgateway : (host.fillMissing link).described.gateway =
      host.filledGateway link.interface link.gateway := rfl
  rw [hagain, Steady, ← filledGateway_twice, ← hsource, ← hgateway, and_comm]
  constructor
  · intro h
    exact ⟨congrArg Described.gateway h, congrArg Described.sourceIp h⟩
  · rintro ⟨hgateway', hsource'⟩
    rw [hgateway', hsource']
    rfl

/-- The next start finds the links again: no configured link has a gateway that is regained, and for
no other interface that is not down does the lowest default route have such a gateway, or a preferred
source address that is not the address of the interface. -/
def Reproducible (host : HostNetwork) (cfg : AppConfig) : Prop :=
  (∀ lc ∈ cfg.links, ¬ host.Regains lc.interface lc.gateway) ∧
    (cfg.autoDiscoverLinks = true → ∀ route : Route,
      route.Lowest (cfg.links.map LinkConfig.interface) host.routes →
        host.linkState route.dev ≠ .down →
          (route.prefsrc = "" ∨ route.prefsrc = host.address route.dev) ∧
            ¬ host.Regains route.dev route.gateway)

lemma steady_configuredLink {lc : LinkConfig} :
    host.Steady (host.configuredLink lc) ↔ ¬ host.Regains lc.interface lc.gateway :=
  and_iff_right (Or.inr rfl)

lemma steady_autoLink {dev : String} {route : Route} : host.Steady (host.autoLink dev route) ↔
    (route.prefsrc = "" ∨ route.prefsrc = host.address dev) ∧ ¬ host.Regains dev route.gateway := by
  refine and_congr_left' ?_
  by_cases h : route.prefsrc = ""
  · simp [autoLink, h]
  · simp [autoLink, h]

lemma steady_found : (∀ link ∈ host.found cfg, host.Steady link) ↔
    (cfg.autoDiscoverLinks = true → ∀ route : Route,
      route.Lowest (cfg.links.map LinkConfig.interface) host.routes →
        host.linkState route.dev ≠ .down →
          (route.prefsrc = "" ∨ route.prefsrc = host.address route.dev) ∧
            ¬ host.Regains route.dev route.gateway) := by
  rw [found]
  split
  · rename_i hauto
    rw [autodiscover, List.forall_mem_map]
    simp only [hauto, true_imp_iff]
    constructor
    · intro h route hlowest hup
      exact steady_autoLink.1 (h (route.dev, route)
        (List.mem_filter.2 ⟨mem_defaultRoutes.2 ⟨rfl, hlowest⟩, by simpa using hup⟩))
    · rintro h ⟨dev, route⟩ he
      obtain ⟨hmem, hup⟩ := List.mem_filter.1 he
      obtain ⟨rfl, hlowest⟩ := mem_defaultRoutes.1 hmem
      exact steady_autoLink.2 (h route hlowest (by simpa using hup))
  · rename_i hauto
    simp [hauto]

/-- Whatever the configuration and the host: when the discovered links are written back, the next
discovery finds the same links in the same order if and only if the host is reproducible. -/
theorem discover_persisted_iff (host : HostNetwork) (cfg : AppConfig) :
    (host.discoverLinks { cfg with links := linksToConfig (host.discoverLinks cfg) }).map
        Link.described = (host.discoverLinks cfg).map Link.described ↔
      host.Reproducible cfg := by
  have hpersisted : host.discoverLinks { cfg with links := linksToConfig (host.discoverLinks cfg) } =
      (host.discoverLinks cfg).map host.rediscovered := discoverLinks_persisted
  have hstate : ∀ link ∈ cfg.links.map host.configuredLink ++ host.found cfg,
      link.state = if link.enabled then host.linkState link.interface else .disabled := by
    intro link hlink
    rcases List.mem_append.1 hlink with hlink | hlink
    · obtain ⟨lc, -, rfl⟩ := List.mem_map.1 hlink
      rfl
    · rw [found] at hlink
      split at hlink
      · obtain ⟨e, -, rfl⟩ := List.mem_map.1 hlink
        rfl
      · exact absurd hlink (by simp)
  have hassigned : ∀ link ∈ assignIds (cfg.links.map host.configuredLink ++ host.found cfg),
      link.state = if link.enabled then host.linkState link.interface else .disabled :=
    (forall_mem_assignIdsFrom
      (P := fun link => link.state = if link.enabled then host.linkState link.interface else .disabled)
      fun _ _ _ => Iff.rfl).2 hstate
  rw [hpersisted, discoverLinks_eq, List.map_map, List.map_map, List.map_map, List.map_inj_left]
  calc (∀ link ∈ assignIds (cfg.links.map host.configuredLink ++ host.found cfg),
        (host.rediscovered (host.fillMissing link)).described = (host.fillMissing link).described)
      ↔ ∀ link ∈ assignIds (cfg.links.map host.configuredLink ++ host.found cfg), host.Steady link :=
        forall₂_congr fun link hlink => described_rediscovered (hassigned link hlink)
    _ ↔ ∀ link ∈ cfg.links.map host.configuredLink ++ host.found cfg, host.Steady link :=
        forall_mem_assignIdsFrom fun _ _ _ => Iff.rfl
    _ ↔ host.Reproducible cfg := by
        rw [List.forall_mem_append, steady_found, List.forall_mem_map]
        simp only [steady_configuredLink]
        rfl

/-- A host with one uplink, whose default route prefers the second address of its interface. -/
def secondAddress : HostNetwork where
  routes := [{ dst := "default", dev := "eth0", gateway := "192.168.1.1", prefsrc := "192.168.1.51" }]
  address interface := if interface = "eth0" then "192.168.1.50" else ""
  operstate _ := some "up"
  speed _ := some 1000
  validIp _ := true

/-- The source address is another one after the next start. -/
theorem discover_persisted_ne :
    (secondAddress.discoverLinks
        { ({} : AppConfig) with links := linksToConfig (secondAddress.discoverLinks {}) }).map
        Link.described ≠ (secondAddress.discoverLinks {}).map Link.described := by
  intro h
  have hsource := congrArg (List.map Described.sourceIp) h
  exact absurd hsource (by decide +kernel)

end HostNetwork

end Turbobond.Links
