import Turbobond.App.Settings
import Turbobond.Config.Slots

/-!
# What a patch of the configuration changes

`PATCH /api/config` writes the whole configuration as a tree, puts the patch into the tree, reads
and checks it as a whole, and takes on the result.  Field by field that comes to this: a field that
the patch spares stays as it is, and a field that it names is what validation makes of the value
given for it.
-/

namespace Turbobond.Config

open Codec

/-- The fields of the configuration, each with what validation makes of a value that is given for
it.  A validator that does not change what it accepts does not occur. -/
inductive AppConfig.Field (p : Pydantic) : List String → (Value → Option Value) → Prop
  | whole {slot : Slot AppConfig} (h : slot ∈ AppConfig.slots p) (hrouter : slot.key ≠ "router")
      (hlinks : slot.key ≠ "links") : Field p [slot.key] slot.codec.normal
  | auth {slot : Slot AuthConfig} (h : slot ∈ AuthConfig.slots p.toLax) :
      Field p ["auth", slot.key] slot.codec.normal
  | router {slot : Slot RouterConfig} (h : slot ∈ RouterConfig.slots p.toLax)
      (hhost : slot.key ≠ "host") : Field p ["router", slot.key] slot.codec.normal
  | optimization {slot : Slot OptimizationConfig} (h : slot ∈ OptimizationConfig.slots p.toLax) :
      Field p ["optimization", slot.key] slot.codec.normal
  | concentrator {slot : Slot ConcentratorConfig} (h : slot ∈ ConcentratorConfig.slots p.toLax) :
      Field p ["concentrator", slot.key] slot.codec.normal
  | shadowsocks {slot : Slot ShadowsocksConfig} (h : slot ∈ ShadowsocksConfig.slots p.toLax) :
      Field p ["shadowsocks", slot.key] slot.codec.normal
  | routes {slot : Slot RoutePolicy} (h : slot ∈ RoutePolicy.slots p.toLax) :
      Field p ["routes", slot.key] slot.codec.normal
  | sip {slot : Slot SipConfig} (h : slot ∈ SipConfig.slots p.toLax) :
      Field p ["sip", slot.key] slot.codec.normal
  | lan {slot : Slot LanConfig} (h : slot ∈ LanConfig.slots p.toLax) :
      Field p ["lan", slot.key] slot.codec.normal
  | device (device : String) : Field p ["lan", "device_routes", device] routeNameCodec.normal
  /-- `_strip_host`. -/
  | host : Field p ["router", "host"] fun w => do
      let value ← p.str.read w
      let host ← (RouterConfig.stripHost value).toOption
      return p.str.dump host
  | wholeRouter : Field p ["router"] fun w => do
      let router ← (RouterConfig.codec p.toLax).read w
      let router ← router.check.toOption
      return (RouterConfig.codec p.toLax).dump router
  /-- Table ids that are 0 are filled in. -/
  | links : Field p ["links"] fun w => do
      let links ← (p.list (LinkConfig.codec p.toLax)).read w
      return (p.list (LinkConfig.codec p.toLax)).dump ({ links } : AppConfig).assignTableIds.links

end Turbobond.Config

namespace Turbobond.App

open Config Codec

/-- What is taken on of a configuration that has been read, with its host stripped. -/
def settled (cfg read : AppConfig) (host : String) : AppConfig :=
  (cfg.absorb { read with router := { read.router with host } }).assignTableIds

variable {p : Pydantic} {cfg read after : AppConfig} {values : Fields} {host : String}

/-- A patch is accepted if the tree that it leaves is read and passes the checks. -/
lemma patchConfig_eq_ok : patchConfig p cfg values = .ok after ↔
    ∃ read, AppConfig.read p ((cfg.modelDump p).patch values) = some read ∧ read.Valid ∧
      ∃ host, RouterConfig.stripHost read.router.host = .ok host ∧
        after = settled cfg read host := by
  rw [patchConfig, AppConfig.modelValidate]
  cases hread : AppConfig.read p ((cfg.modelDump p).patch values) with
  | none => simp
  | some read =>
    simp only [Option.some.injEq, exists_eq_left']
    cases hcheck : read.check with
    | error e =>
      refine iff_of_false (by simp) ?_
      rintro ⟨hvalid, host, hhost, -⟩
      exact absurd (AppConfig.check_eq_ok.2 ⟨hvalid, host, hhost, rfl⟩) (by simp [hcheck])
    | ok c =>
      obtain ⟨hvalid, host, hhost, rfl⟩ := AppConfig.check_eq_ok.1 hcheck
      simp only [Except.ok.injEq]
      constructor
      · rintro rfl
        exact ⟨hvalid, host, hhost, rfl⟩
      · rintro ⟨-, host', hhost', rfl⟩
        rw [Except.ok.inj (hhost.symm.trans hhost')]
        rfl

/-! ### The parts -/

/-- What stands in a configuration under a key. -/
lemma find_slot {slot : Slot AppConfig} (hslot : slot ∈ AppConfig.slots p) (c : AppConfig)
    (path : List String) :
    (Value.dict (c.modelDump p)).find (slot.key :: path) = (slot.dump c).find path := by
  rw [Value.find_dict_cons, AppConfig.lookup_modelDump hslot, Option.bind_some]

/-- Every part is read from the tree that the patch leaves. -/
lemma read_patch_iff :
    AppConfig.read p ((cfg.modelDump p).patch values) = some read ↔
      (∀ slot ∈ AppConfig.slots p, slot.Reads ((cfg.modelDump p).patch values) read) ∧
      p.path ((cfg.modelDump p).patch values) "config_dir" ({} : AppConfig).configDir =
        some read.configDir ∧
      p.path ((cfg.modelDump p).patch values) "state_dir" ({} : AppConfig).stateDir =
        some read.stateDir ∧
      p.path ((cfg.modelDump p).patch values) "run_dir" ({} : AppConfig).runDir =
        some read.runDir := by
  refine AppConfig.read_iff p fun slot hslot => Fields.isSome_lookup_patch ?_ values
  rw [AppConfig.lookup_modelDump hslot]
  rfl

/-- A part that the patch does not name is read as it was. -/
lemma get_read_of_not_named (hread : AppConfig.read p ((cfg.modelDump p).patch values) = some read)
    {slot : Slot AppConfig} (hslot : slot ∈ AppConfig.slots p)
    (hnamed : values.lookup slot.key = none) : slot.get read = slot.get cfg := by
  have hreads := (read_patch_iff.1 hread).1 slot hslot
  rw [Slot.Reads, required, Fields.lookup_patch_of_eq_none hnamed,
    AppConfig.lookup_modelDump hslot, Option.bind_some, Slot.dump, read_dump] at hreads
  exact (Option.some.inj hreads).symm

/-- The host and the table ids are all that changes after the reading, apart from directories. -/
lemma dump_settled {slot : Slot AppConfig} (hslot : slot ∈ AppConfig.slots p)
    (hrouter : slot.key ≠ "router") (hlinks : slot.key ≠ "links") :
    slot.dump (settled cfg read host) = slot.dump read := by
  simp only [AppConfig.slots, List.mem_cons, List.not_mem_nil, or_false] at hslot
  rcases hslot with rfl | rfl | rfl | rfl | rfl | rfl | rfl | rfl | rfl | rfl | rfl | rfl | rfl | rfl
  all_goals first | rfl | exact absurd rfl hrouter | exact absurd rfl hlinks

lemma get_links_of_ne {slot : Slot AppConfig} (hslot : slot ∈ AppConfig.slots p)
    (hlinks : slot.key ≠ "links") (c : AppConfig) (links : List LinkConfig) :
    slot.get { c with links } = slot.get c := by
  simp only [AppConfig.slots, List.mem_cons, List.not_mem_nil, or_false] at hslot
  rcases hslot with rfl | rfl | rfl | rfl | rfl | rfl | rfl | rfl | rfl | rfl | rfl | rfl | rfl | rfl
  all_goals first | rfl | exact absurd rfl hlinks

lemma dump_assignTableIds {slot : Slot AppConfig} (hslot : slot ∈ AppConfig.slots p)
    (hlinks : slot.key ≠ "links") (c : AppConfig) : slot.dump c.assignTableIds = slot.dump c := by
  rw [Slot.dump, AppConfig.assignTableIds, get_links_of_ne hslot hlinks, Slot.dump]

/-- What stands in a configuration elsewhere is in its directories. -/
lemma lookup_of_notMem {key : String} (hkey : key ∉ (AppConfig.slots p).map Slot.key)
    (c : AppConfig) :
    (c.modelDump p).lookup key = List.lookup key [("config_dir", Value.str c.configDir),
      ("state_dir", .str c.stateDir), ("run_dir", .str c.runDir)] := by
  have hnone : (c.fields p).lookup key = none := by
    rw [AppConfig.fields_eq]
    refine List.lookup_eq_none_iff.2 fun x hx => ?_
    obtain ⟨slot, hslot, rfl⟩ := List.mem_map.1 hx
    have hne : key ≠ slot.key := fun heq => hkey (heq ▸ List.mem_map_of_mem hslot)
    simpa using hne
  rw [AppConfig.modelDump, List.lookup_append, hnone, Option.none_or]

/-! ### The host of the router -/

lemma router_mem :
    (⟨"router", RouterConfig.codec p.toLax, AppConfig.router⟩ : Slot AppConfig) ∈ AppConfig.slots p := by
  simp [AppConfig.slots]

lemma links_mem : (⟨"links", p.list (LinkConfig.codec p.toLax), AppConfig.links⟩ : Slot AppConfig) ∈
    AppConfig.slots p := by
  simp [AppConfig.slots]

lemma host_mem (l : Lax) :
    (⟨"host", l.str, RouterConfig.host⟩ : Slot RouterConfig) ∈ RouterConfig.slots l := by
  simp [RouterConfig.slots]

lemma dump_host_of_ne {l : Lax} {slot : Slot RouterConfig} (hslot : slot ∈ RouterConfig.slots l)
    (hhost : slot.key ≠ "host") (r : RouterConfig) (host : String) :
    slot.dump { r with host } = slot.dump r := by
  simp only [RouterConfig.slots, List.mem_cons, List.not_mem_nil, or_false] at hslot
  rcases hslot with rfl | rfl | rfl | rfl | rfl | rfl | rfl | rfl | rfl
  all_goals first | rfl | exact absurd rfl hhost

lemma find_host_of_ne {l : Lax} {key : String} (hhost : key ≠ "host") (r : RouterConfig)
    (host : String) (path : List String) :
    ((RouterConfig.codec l).dump { r with host }).find (key :: path) =
      ((RouterConfig.codec l).dump r).find (key :: path) := by
  by_cases hkey : key ∈ (RouterConfig.slots l).map Slot.key
  · obtain ⟨slot, hslot, rfl⟩ := List.mem_map.1 hkey
    rw [(RouterConfig.record l).find_dump hslot, (RouterConfig.record l).find_dump hslot,
      dump_host_of_ne hslot hhost]
  · rw [(RouterConfig.record l).find_dump_of_notMem hkey,
      (RouterConfig.record l).find_dump_of_notMem hkey]

/-- A host that the patch names is read from the patch, whatever it was. -/
lemma router_again {l : Lax} {w : Value} (hw : w.Distinct) {r r' : RouterConfig}
    (h : (RouterConfig.codec l).read (((RouterConfig.codec l).dump r).patch w) = some r')
    (hhost : ¬ w.Spares ["host"]) (host : String) :
    (RouterConfig.codec l).read (((RouterConfig.codec l).dump { r' with host }).patch w) =
      some r' := by
  cases w with
  | dict patch =>
    have hreads := ((RouterConfig.record l).read_patch_iff hw).1 h
    refine ((RouterConfig.record l).read_patch_iff hw).2 fun slot hslot => ?_
    by_cases hkey : slot.key = "host"
    · obtain ⟨u, hu⟩ : ∃ u, patch.lookup slot.key = some u := by
        by_contra hnone
        refine hhost ((Fields.spares_iff hw).2 fun u hu => ?_)
        exact absurd ⟨u, hkey ▸ hu⟩ hnone
      have hfound := (Slot.reads_iff_of_named (RouterConfig.plain l slot hslot) hw
        ((RouterConfig.record l).lookup hslot r) hu).1 (hreads slot hslot)
      exact (Slot.reads_iff_of_named (RouterConfig.plain l slot hslot) hw
        ((RouterConfig.record l).lookup hslot _) hu).2 hfound
    · refine Slot.reads_again (RouterConfig.plain l slot hslot).isLocal hw
        ((RouterConfig.record l).lookup hslot r) (hreads slot hslot) ?_
      rw [(RouterConfig.record l).lookup hslot, dump_host_of_ne hslot hkey]
  | _ =>
    rw [Value.patch_leaf _ (by rintro ⟨⟩)] at h ⊢
    exact h

section Settled

variable (hvalues : Fields.Distinct values)
  (hread : AppConfig.read p ((cfg.modelDump p).patch values) = some read)

include hvalues hread

lemma find_read {slot : Slot AppConfig} (hslot : slot ∈ AppConfig.slots p) {path : List String}
    (hspares : Fields.Spares values slot.key path) :
    (slot.dump read).find path = (slot.dump cfg).find path :=
  Slot.find_of_spares (AppConfig.isLocal p slot hslot) hvalues
    (AppConfig.lookup_modelDump hslot cfg) ((read_patch_iff.1 hread).1 slot hslot) hspares

/-- A host that the patch spares is read as it was. -/
lemma host_of_spares (hspares : Fields.Spares values "router" ["host"]) :
    read.router.host = cfg.router.host := by
  have hfind := find_read hvalues hread router_mem hspares
  have hhost : ∀ c : AppConfig, ((RouterConfig.codec p.toLax).dump c.router).find ["host"] =
      some (.str c.router.host) := fun c => by
    rw [(RouterConfig.record p.toLax).find_dump (host_mem p.toLax), Value.find_nil]
    rfl
  have heq := ((hhost read).symm.trans hfind).trans (hhost cfg)
  simpa using heq

/-- Links that the patch spares stay, but for table ids that were 0. -/
lemma find_links_of_spares {path : List String} (hpath : Fields.Spares values "links" path) :
    ((p.list (LinkConfig.codec p.toLax)).dump (settled cfg read host).links).find path =
      ((p.list (LinkConfig.codec p.toLax)).dump cfg.assignTableIds.links).find path := by
  cases path with
  | nil =>
    have hfind := find_read hvalues hread links_mem hpath
    rw [Value.find_nil, Value.find_nil, Option.some.injEq] at hfind
    have hsame : read.links = cfg.links := Codec.dump_injective _ hfind
    rw [settled, AppConfig.assignTableIds, AppConfig.assignTableIds]
    simp only [AppConfig.absorb, hsame]
  | cons key path =>
    rw [Value.find_cons_of_not_isDict (by rintro ⟨⟩), Value.find_cons_of_not_isDict (by rintro ⟨⟩)]

/-- A part takes what the patch has for it. -/
lemma takes_slot {slot : Slot AppConfig} (hslot : slot ∈ AppConfig.slots p) {path : List String}
    {reader : Value → Option Value} (htakes : slot.codec.Takes path reader) {w : Value}
    (hw : (Value.dict values).find (slot.key :: path) = some w) (hleaf : ¬ w.IsDict) :
    ∃ w', reader w = some w' ∧ (slot.dump read).find path = some w' :=
  Slot.takes htakes hvalues (AppConfig.lookup_modelDump hslot cfg) ((read_patch_iff.1 hread).1 slot hslot)
    hw hleaf

/-- So it does in the end, if it is neither the router nor the links. -/
lemma takes_settled {slot : Slot AppConfig} (hslot : slot ∈ AppConfig.slots p)
    (hrouter : slot.key ≠ "router") (hlinks : slot.key ≠ "links") {path : List String}
    {reader : Value → Option Value} (htakes : slot.codec.Takes path reader) {w : Value}
    (hw : (Value.dict values).find (slot.key :: path) = some w) (hleaf : ¬ w.IsDict) :
    ∃ w', reader w = some w' ∧
      (Value.dict ((settled cfg read host).modelDump p)).find (slot.key :: path) = some w' := by
  rw [find_slot hslot, dump_settled hslot hrouter hlinks]
  exact takes_slot hvalues hread hslot htakes hw hleaf

/-- So does a field of a model. -/
lemma takes_model {β : Type} {c : Codec β} {slots : List (Slot β)} (hc : c.Record slots) {key : String}
    (get : AppConfig → β) (hpart : (⟨key, c, get⟩ : Slot AppConfig) ∈ AppConfig.slots p)
    (hrouter : key ≠ "router") (hlinks : key ≠ "links") {slot : Slot β} (hslot : slot ∈ slots)
    {w : Value} (hw : (Value.dict values).find [key, slot.key] = some w) (hleaf : ¬ w.IsDict) :
    ∃ w', slot.codec.normal w = some w' ∧
      (Value.dict ((settled cfg read host).modelDump p)).find [key, slot.key] = some w' :=
  takes_settled hvalues hread hpart hrouter hlinks (hc.takes hslot (takes_nil _)) hw hleaf

/-- A field of the router that is not the host takes what the patch has for it. -/
lemma takes_router {slot : Slot RouterConfig} (hslot : slot ∈ RouterConfig.slots p.toLax)
    (hhost : slot.key ≠ "host") {w : Value}
    (hw : (Value.dict values).find ["router", slot.key] = some w) (hleaf : ¬ w.IsDict) :
    ∃ w', slot.codec.normal w = some w' ∧
      (Value.dict ((settled cfg read host).modelDump p)).find ["router", slot.key] = some w' := by
  have htakes := (RouterConfig.record p.toLax).takes hslot (takes_nil slot.codec)
  obtain ⟨w', hreader, hfind⟩ := takes_slot hvalues hread router_mem htakes hw hleaf
  have hdump := find_host_of_ne (l := p.toLax) hhost read.router host []
  refine ⟨w', hreader, ?_⟩
  rw [find_slot router_mem]
  exact hdump.trans hfind

/-- The host is what `_strip_host` makes of what the patch has for it. -/
lemma takes_host {w : Value} (hw : (Value.dict values).find ["router", "host"] = some w)
    (hleaf : ¬ w.IsDict) :
    p.str.read w = some read.router.host ∧
      (Value.dict ((settled cfg read host).modelDump p)).find ["router", "host"] =
        some (p.str.dump host) := by
  have htakes := (RouterConfig.record p.toLax).takes (host_mem p.toLax) (takes_nil p.str)
  obtain ⟨w', hreader, hfind⟩ := takes_slot hvalues hread router_mem htakes hw hleaf
  have hhost : ∀ r : RouterConfig, ((RouterConfig.codec p.toLax).dump r).find ["host"] =
      some (p.str.dump r.host) := fun r => by
    rw [(RouterConfig.record p.toLax).find_dump (host_mem p.toLax), Value.find_nil]
    rfl
  obtain rfl := Option.some.inj ((hhost read.router).symm.trans hfind)
  refine ⟨read_of_normal hreader, ?_⟩
  rw [find_slot router_mem]
  exact hhost _

/-- A part that the patch gives as a whole is read from it. -/
lemma read_slot_of_named {slot : Slot AppConfig} (hslot : slot ∈ AppConfig.slots p) {w : Value}
    (hw : (Value.dict values).find [slot.key] = some w) (hleaf : ¬ w.IsDict) :
    slot.codec.read w = some (slot.get read) := by
  obtain ⟨w', hreader, hfind⟩ := takes_slot hvalues hread hslot (takes_nil _) hw hleaf
  rw [Value.find_nil, Option.some.injEq] at hfind
  subst hfind
  exact read_of_normal hreader

variable (hstrip : RouterConfig.stripHost read.router.host = .ok host)

include hstrip

/-- With a host that the patch spares and that was stripped before, the router is as it was read. -/
lemma router_settled (hspares : Fields.Spares values "router" ["host"])
    (hnormal : cfg.router.Normal) : (settled cfg read host).router = read.router := by
  have hhost := host_of_spares hvalues hread hspares
  have hsame : host = read.router.host := by
    rw [RouterConfig.Normal, ← hhost, hstrip] at hnormal
    exact Except.ok.inj hnormal
  subst hsame
  rfl

/-- What the patch spares of the router stays as it is. -/
lemma find_router_of_spares
    (hhost : cfg.router.Normal ∨ ¬ Fields.Spares values "router" ["host"]) {path : List String}
    (hpath : Fields.Spares values "router" path) :
    ((RouterConfig.codec p.toLax).dump (settled cfg read host).router).find path =
      ((RouterConfig.codec p.toLax).dump cfg.router).find path := by
  have hfind : ((RouterConfig.codec p.toLax).dump read.router).find path =
      ((RouterConfig.codec p.toLax).dump cfg.router).find path :=
    find_read hvalues hread router_mem hpath
  by_cases hspares : Fields.Spares values "router" ["host"]
  · rw [router_settled hvalues hread hstrip hspares (hhost.resolve_right (not_not.2 hspares)), hfind]
  -- the host is named, and the path is another one
  cases path with
  | nil =>
    refine absurd ((Fields.spares_iff hvalues).2 fun w hw => ?_) hspares
    exact absurd ((Fields.spares_iff hvalues).1 hpath w hw) w.not_spares_nil
  | cons key path =>
    by_cases hkey : key = "host"
    · subst hkey
      cases path with
      | nil => exact absurd hpath hspares
      | cons key path =>
        have hbelow : ∀ r : RouterConfig,
            ((RouterConfig.codec p.toLax).dump r).find ("host" :: key :: path) = none := fun r => by
          rw [(RouterConfig.record p.toLax).find_dump (host_mem p.toLax)]
          exact Value.find_cons_of_not_isDict (by rintro ⟨⟩) key path
        rw [hbelow, hbelow]
    · exact (find_host_of_ne hkey read.router host path).trans hfind

/-- What the patch spares stays as it is, but for table ids that were 0. -/
lemma find_settled_of_spares
    (hhost : cfg.router.Normal ∨ ¬ Fields.Spares values "router" ["host"]) {path : List String}
    (hpath : (Value.dict values).Spares path) :
    (Value.dict ((settled cfg read host).modelDump p)).find path =
      (Value.dict (cfg.assignTableIds.modelDump p)).find path := by
  cases path with
  | nil => exact absurd hpath (Value.not_spares_nil _)
  | cons key path =>
    rw [Value.Spares] at hpath
    by_cases hkey : key ∈ (AppConfig.slots p).map Slot.key
    · obtain ⟨slot, hslot, rfl⟩ := List.mem_map.1 hkey
      rw [find_slot hslot, find_slot hslot]
      by_cases hrouter : slot.key = "router"
      · obtain rfl := List.inj_on_of_nodup_map (AppConfig.nodup_slots p) hslot router_mem hrouter
        exact find_router_of_spares hvalues hread hstrip hhost hpath
      by_cases hlinks : slot.key = "links"
      · obtain rfl := List.inj_on_of_nodup_map (AppConfig.nodup_slots p) hslot links_mem hlinks
        exact find_links_of_spares hvalues hread hpath
      rw [dump_settled hslot hrouter hlinks, dump_assignTableIds hslot hlinks,
        find_read hvalues hread hslot hpath]
    · rw [Value.find_dict_cons, Value.find_dict_cons, lookup_of_notMem hkey, lookup_of_notMem hkey]
      rfl

/-- A field that the patch names is what validation makes of its value. -/
lemma takes_of_field {path : List String} {reader : Value → Option Value}
    (hfield : AppConfig.Field p path reader) {w : Value}
    (hw : (Value.dict values).find path = some w) (hleaf : ¬ w.IsDict) :
    ∃ w', reader w = some w' ∧
      (Value.dict ((settled cfg read host).modelDump p)).find path = some w' := by
  cases hfield with
  | whole hslot hrouter hlinks =>
    exact takes_settled hvalues hread hslot hrouter hlinks (takes_nil _) hw hleaf
  | auth hslot =>
    exact takes_model hvalues hread (AuthConfig.record _) AppConfig.auth (by simp [AppConfig.slots])
      (by simp) (by simp) hslot hw hleaf
  | optimization hslot =>
    exact takes_model hvalues hread (OptimizationConfig.record _) AppConfig.optimization
      (by simp [AppConfig.slots]) (by simp) (by simp) hslot hw hleaf
  | concentrator hslot =>
    exact takes_model hvalues hread (ConcentratorConfig.record _) AppConfig.concentrator
      (by simp [AppConfig.slots]) (by simp) (by simp) hslot hw hleaf
  | shadowsocks hslot =>
    exact takes_model hvalues hread (ShadowsocksConfig.record _) AppConfig.shadowsocks
      (by simp [AppConfig.slots]) (by simp) (by simp) hslot hw hleaf
  | routes hslot =>
    exact takes_model hvalues hread (RoutePolicy.record _) AppConfig.routes
      (by simp [AppConfig.slots]) (by simp) (by simp) hslot hw hleaf
  | sip hslot =>
    exact takes_model hvalues hread (SipConfig.record _) AppConfig.sip (by simp [AppConfig.slots])
      (by simp) (by simp) hslot hw hleaf
  | lan hslot =>
    exact takes_model hvalues hread (LanConfig.record _) AppConfig.lan (by simp [AppConfig.slots])
      (by simp) (by simp) hslot hw hleaf
  | device device =>
    have hpart : (⟨"lan", LanConfig.codec p.toLax, AppConfig.lan⟩ : Slot AppConfig) ∈
        AppConfig.slots p := by simp [AppConfig.slots]
    have hdevices : (⟨"device_routes", p.dict routeNameCodec, LanConfig.deviceRoutes⟩ :
        Slot LanConfig) ∈ LanConfig.slots p.toLax := by simp [LanConfig.slots]
    exact takes_settled hvalues hread hpart (by simp) (by simp)
      ((LanConfig.record p.toLax).takes hdevices (Lax.takes_dict plain_routeNameCodec device)) hw hleaf
  | router hslot hhost => exact takes_router hvalues hread hslot hhost hw hleaf
  | host =>
    obtain ⟨hhost, hfind⟩ := takes_host hvalues hread hw hleaf
    refine ⟨p.str.dump host, ?_, hfind⟩
    simp only [hhost, hstrip, Except.toOption, Option.bind_eq_bind, Option.bind_some]
    rfl
  | wholeRouter =>
    have hrouter : (RouterConfig.codec p.toLax).read w = some read.router :=
      read_slot_of_named hvalues hread router_mem hw hleaf
    have hcheck : read.router.check = .ok { read.router with host } :=
      RouterConfig.check_eq_ok.2 ⟨host, hstrip, rfl⟩
    refine ⟨(RouterConfig.codec p.toLax).dump (settled cfg read host).router, ?_, ?_⟩
    · simp only [hrouter, hcheck, Except.toOption, Option.bind_eq_bind, Option.bind_some]
      rfl
    · rw [find_slot router_mem]
      exact Value.find_nil _
  | links =>
    have hlinks : (p.list (LinkConfig.codec p.toLax)).read w = some read.links :=
      read_slot_of_named hvalues hread links_mem hw hleaf
    refine ⟨(p.list (LinkConfig.codec p.toLax)).dump (settled cfg read host).links, ?_, ?_⟩
    · simp only [hlinks, Option.bind_eq_bind, Option.bind_some]
      rfl
    · rw [find_slot links_mem]
      exact Value.find_nil _

/-- The router is read from the same patch as it was. -/
lemma reads_router_again (hhost : cfg.router.Normal ∨ ¬ Fields.Spares values "router" ["host"]) :
    (⟨"router", RouterConfig.codec p.toLax, AppConfig.router⟩ : Slot AppConfig).Reads
      (((settled cfg read host).modelDump p).patch values) read := by
  have hreads := (read_patch_iff.1 hread).1 _ router_mem
  have hafter := AppConfig.lookup_modelDump (router_mem (p := p)) (settled cfg read host)
  by_cases hspares : Fields.Spares values "router" ["host"]
  · have hrouter := router_settled hvalues hread hstrip hspares
      (hhost.resolve_right (not_not.2 hspares))
    refine Slot.reads_again (RouterConfig.isLocal _) hvalues
      (AppConfig.lookup_modelDump router_mem cfg) hreads (hafter.trans ?_)
    exact congrArg (fun r => some ((RouterConfig.codec p.toLax).dump r)) hrouter
  · obtain ⟨w, hw, hnamed⟩ : ∃ w, values.lookup "router" = some w ∧ ¬ w.Spares ["host"] := by
      simpa only [Fields.spares_iff hvalues, not_forall, exists_prop] using hspares
    rw [Slot.Reads, required_patch hvalues (AppConfig.lookup_modelDump router_mem cfg), hw] at hreads
    rw [Slot.Reads, required_patch hvalues hafter, hw]
    exact router_again (Fields.distinct_of_lookup hvalues hw) hreads hnamed host

omit hread hstrip in
/-- A directory is read again as it was. -/
lemma path_again {key : String} (hkey : key ∉ (AppConfig.slots p).map Slot.key) (d : String) :
    p.path (((settled cfg read host).modelDump p).patch values) key d =
      p.path ((cfg.modelDump p).patch values) key d := by
  rw [Pydantic.path, Pydantic.path, Fields.lookup_patch hvalues, Fields.lookup_patch hvalues,
    lookup_of_notMem hkey, lookup_of_notMem hkey]
  rfl

omit hstrip in
/-- The links are given anew, or they are those that there are now. -/
lemma links_again (hvalid : read.Valid) : ∃ links,
    (p.list (LinkConfig.codec p.toLax)).required
      (((settled cfg read host).modelDump p).patch values) "links" = some links ∧
    (∀ link ∈ links, link.Valid) ∧
    ({ links } : AppConfig).assignTableIds.links = (settled cfg read host).links := by
  have hafter : Kept (settled cfg read host) := kept_assignTableIds
    ⟨hvalid.optimization, hvalid.links, hvalid.concentrator, hvalid.shadowsocks, hvalid.sip⟩
  have hbefore := (read_patch_iff.1 hread).1 _ links_mem
  rw [Slot.Reads, required_patch hvalues (AppConfig.lookup_modelDump links_mem cfg)] at hbefore
  rw [required_patch hvalues (AppConfig.lookup_modelDump (links_mem (p := p))
    (settled cfg read host))]
  cases hw : values.lookup "links" with
  | none =>
    exact ⟨_, rfl, hafter.links, AppConfig.assignIds_of_ne_zero _ _ hafter.ids⟩
  | some w =>
    simp only [hw, Value.patch_of_not_isDict (p.plain_list _ _)] at hbefore ⊢
    exact ⟨read.links, hbefore, hvalid.links, rfl⟩

/-- The same patch again changes nothing. -/
lemma patchConfig_again (hvalid : read.Valid)
    (hhost : cfg.router.Normal ∨ ¬ Fields.Spares values "router" ["host"]) :
    patchConfig p (settled cfg read host) values = .ok (settled cfg read host) := by
  obtain ⟨hreads, hconfig, hstate, hrun⟩ := read_patch_iff.1 hread
  obtain ⟨links, hlinks, hvalidLinks, hassigned⟩ := @links_again p cfg read values host hvalues hread hvalid
  -- the parts but the links are read as before
  have hagain : ∀ slot ∈ AppConfig.slots p, slot.key ≠ "links" →
      slot.Reads (((settled cfg read host).modelDump p).patch values) read := by
    intro slot hslot hlinks
    by_cases hrouter : slot.key = "router"
    · obtain rfl := List.inj_on_of_nodup_map (AppConfig.nodup_slots p) hslot router_mem hrouter
      exact reads_router_again hvalues hread hstrip hhost
    · refine Slot.reads_again (AppConfig.isLocal p slot hslot) hvalues
        (AppConfig.lookup_modelDump hslot cfg) (hreads slot hslot) ?_
      rw [AppConfig.lookup_modelDump hslot, dump_settled hslot hrouter hlinks]
  have hread' : AppConfig.read p (((settled cfg read host).modelDump p).patch values) =
      some { read with links } := by
    refine read_patch_iff.2 ⟨fun slot hslot => ?_, ?_, ?_, ?_⟩
    · by_cases hkey : slot.key = "links"
      · obtain rfl := List.inj_on_of_nodup_map (AppConfig.nodup_slots p) hslot links_mem hkey
        exact hlinks
      · rw [Slot.Reads, get_links_of_ne hslot hkey]
        exact hagain slot hslot hkey
    · exact (path_again hvalues (by simp [AppConfig.slots]) _).trans hconfig
    · exact (path_again hvalues (by simp [AppConfig.slots]) _).trans hstate
    · exact (path_again hvalues (by simp [AppConfig.slots]) _).trans hrun
  refine patchConfig_eq_ok.2 ⟨_, hread', ⟨hvalid.optimization, hvalidLinks, hvalid.concentrator,
    hvalid.shadowsocks, hvalid.sip⟩, host, hstrip, ?_⟩
  exact congrArg (fun links => { settled cfg read host with links }) hassigned.symm

end Settled

/-- A patch of one port. -/
def rtpPatch : Fields := [("sip", .dict [("rtp_port_start", .int 16384)])]

end Turbobond.App
