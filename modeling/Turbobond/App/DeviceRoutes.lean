import Turbobond.Lan.Devices
import Turbobond.Lan.Gateway
import Turbobond.Lib.Machine

/-!
# Pinning a device to a route

`set_device_route` of `turbobond/app/api.py`: a request changes the registry under its own key, the
configuration under the name that was sent, and the set of the kernel by the names there that are
addresses.
-/

namespace Turbobond.Lan.LanGateway

open Config Util

/-- `set_device_route`. -/
def setDeviceRoute (g : LanGateway) (host : Host) (o : Outcomes) (address : String)
    (route : RouteName) (table : Option NftTable) : Bool × LanGateway × Option NftTable :=
  let g := { g with cfg := { g.cfg with deviceRoutes := g.cfg.deviceRoutes.set address route } }
  (true, g, (g.applyDeviceRoutes host o table).2)

end Turbobond.Lan.LanGateway

namespace Turbobond.App

open Config Util Lan

/-- The three stores of routes, and the gateway if it is active. -/
structure DeviceRoutes where
  devices : DeviceRegistry
  /-- `cfg.lan`, which the gateway shares. -/
  lan : LanConfig
  gateway : Option LanGateway
  table : Option NftTable

namespace DeviceRoutes

variable (lower : String → String) (host : Host) (looksLikeIp : String → Bool)

/-- `set_device_route`: a request to take a route, with what the commands return. -/
def setDeviceRoute (o : Outcomes) (device : String) (route : RouteName) (s : DeviceRoutes) :
    DeviceRoutes :=
  let devices := (s.devices.setRoute lower device route).2
  let lan := { s.lan with deviceRoutes := s.lan.deviceRoutes.set device route }
  match s.gateway with
  | none => { s with devices, lan }
  | some g =>
    let (_, g, table) := { g with cfg := lan }.setDeviceRoute host o device route s.table
    { devices, lan := g.cfg, gateway := some g, table }

inductive Event where
  | observe (device : ConnectedDevice) (source : String) (now : ℚ)
  | request (device : String) (route : RouteName) (flushSet addElement : CommandResult)

/-- The outcomes of a request. -/
def outcomes (flushSet addElement : CommandResult) : Outcomes :=
  { flushSet, addElement, looksLikeIp }

/-- A step puts out the key and the route of a device that is pinned. -/
def step (s : DeviceRoutes) : Event → List (String × RouteName) × DeviceRoutes
  | .observe device source now =>
    ([], { s with devices := (s.devices.observe lower source now device).2 })
  | .request device route flushSet addElement =>
    (if (s.devices.setRoute lower device route).1 then [(lower device, route)] else [],
      s.setDeviceRoute lower host (outcomes looksLikeIp flushSet addElement) device route)

/-- The route that the device under a key was pinned to last. -/
def pinOf (pins : List (String × RouteName)) (key : String) : Option RouteName :=
  pins.foldl (fun pin e => if e.1 = key then some e.2 else pin) none

/-- An address of a device whose route in the registry was pinned to shadow. -/
def Pinned (s : DeviceRoutes) (pins : List (String × RouteName)) (ip : String) : Prop :=
  ip ≠ "" ∧ ∃ key, s.devices.address? key = some ip ∧ pinOf pins key = some .shadow

/-- The set of the kernel holds exactly the addresses of the pinned devices. -/
def Reaches (s : DeviceRoutes) (pins : List (String × RouteName)) : Prop :=
  ∃ table, s.table = some table ∧ ∀ ip, ip ∈ table.shadowDevices ↔ s.Pinned pins ip

/-- The configuration pins an address to shadow. -/
def Steers (s : DeviceRoutes) (ip : String) : Prop :=
  s.lan.deviceRoutes.get? ip = some .shadow ∧ looksLikeIp ip = true

/-- A device other than the one under a key has the address and was pinned to shadow. -/
def PinnedElsewhere (s : DeviceRoutes) (pins : List (String × RouteName)) (key ip : String) : Prop :=
  ip ≠ "" ∧ ∃ key', key' ≠ key ∧ s.devices.address? key' = some ip ∧ pinOf pins key' = some .shadow

/-- A request says the same of the addresses that it changes in the configuration and of those that
it changes in the registry. -/
structure SaysTheSame (s : DeviceRoutes) (pins : List (String × RouteName)) (device : String)
    (route : RouteName) : Prop where
  /-- A name that is an address is pinned if the device under that name has it or another pinned
  device has, and is released if no other pinned device has it. -/
  address : looksLikeIp device = true →
    if route = .shadow then
      device ≠ "" ∧ s.devices.address? (lower device) = some device ∨
        s.PinnedElsewhere pins (lower device) device
    else ¬ s.PinnedElsewhere pins (lower device) device
  /-- The device under the name has no address, or it has just that one, or its address is that of
  another pinned device, or it is pinned to shadow already if it should be. -/
  device : ∀ ip, s.devices.address? (lower device) = some ip → ip ≠ "" →
    ip = device ∧ looksLikeIp device = true ∨ s.PinnedElsewhere pins (lower device) ip ∨
      (pinOf pins (lower device) = some .shadow ↔ route = .shadow)

/-- What an event must be like: an observation gives no address to a device that is pinned to shadow,
unless the address is pinned already; a request finds the gateway, its table and its commands, and
says the same of all addresses. -/
def Suits (s : DeviceRoutes) (pins : List (String × RouteName)) : Event → Prop
  | .observe device _ _ =>
    s.devices.address? (device.key lower) = some "" → device.ip ≠ "" →
      pinOf pins (device.key lower) = some .shadow → s.Pinned pins device.ip
  | .request device route flushSet addElement =>
    (s.gateway.isSome = true ∧ s.table.isSome = true ∧ LanGateway.backend host = .nftables ∧
      (run host "nft" flushSet).done = true ∧ (run host "nft" addElement).done = true) ∧
      s.SaysTheSame lower looksLikeIp pins device route

variable {lower host looksLikeIp} {s : DeviceRoutes} {pins : List (String × RouteName)}

/-! ### The pins of a run -/

@[simp] lemma pinOf_nil (key : String) : pinOf [] key = none := rfl

lemma pinOf_concat (pins : List (String × RouteName)) (name key : String) (route : RouteName) :
    pinOf (pins ++ [(name, route)]) key = if name = key then some route else pinOf pins key := by
  rw [pinOf, List.foldl_append]
  rfl

/-- What a run keeps: only devices of the registry are pinned, and the configuration pins the
addresses that the registry has pinned. -/
structure Agrees (looksLikeIp : String → Bool) (s : DeviceRoutes) (pins : List (String × RouteName)) :
    Prop where
  known : ∀ key route, pinOf pins key = some route → (s.devices.address? key).isSome = true
  same : ∀ ip, s.Steers looksLikeIp ip ↔ s.Pinned pins ip

/-- At first nothing is pinned in the registry. -/
lemma agrees_start (h : ∀ ip, ¬ s.Steers looksLikeIp ip) : Agrees looksLikeIp s [] where
  known := fun key route hpin => by simp at hpin
  same ip := iff_of_false (h ip) fun ⟨_, _, _, hpin⟩ => by simp at hpin

/-! ### Observations -/

lemma Agrees.observe {device : ConnectedDevice} {source : String} {now : ℚ}
    (h : Agrees looksLikeIp s pins)
    (hsuits : s.Suits lower host looksLikeIp pins (.observe device source now)) :
    Agrees looksLikeIp (s.step lower host looksLikeIp (.observe device source now)).2 pins := by
  have haddress := DeviceRegistry.address?_observe lower s.devices source now device
  refine ⟨fun key route hpin => ?_, fun ip => (h.same ip).trans ⟨?_, ?_⟩⟩
  · rw [step, haddress]
    split_ifs
    · rfl
    · exact h.known key route hpin
  · rintro ⟨hip, key, hkey, hpin⟩
    refine ⟨hip, key, ?_, hpin⟩
    rw [step, haddress, hkey]
    split_ifs
    · simp [hip]
    · rfl
  · rintro ⟨hip, key, hkey, hpin⟩
    rw [step, haddress] at hkey
    split_ifs at hkey with hobserved
    · obtain ⟨rfl, -⟩ := hobserved
      obtain ⟨known, hknown⟩ := Option.isSome_iff_exists.1 (h.known _ _ hpin)
      rw [hknown] at hkey
      simp only [Option.some.injEq] at hkey
      split_ifs at hkey with hfilled
      · -- the device was pinned before it had an address
        obtain ⟨hgiven, rfl⟩ := hfilled
        exact hkey ▸ hsuits hknown hgiven hpin
      · exact ⟨hip, _, hkey ▸ hknown, hpin⟩
    · exact ⟨hip, key, hkey, hpin⟩

/-! ### Requests -/

section Request

variable {device : String} {route : RouteName} {flushSet addElement : CommandResult}

/-- What a request leaves in the configuration and the registry. -/
lemma step_request :
    (s.step lower host looksLikeIp (.request device route flushSet addElement)).2.lan.deviceRoutes =
        s.lan.deviceRoutes.set device route ∧
      (s.step lower host looksLikeIp (.request device route flushSet addElement)).2.devices =
        (s.devices.setRoute lower device route).2 := by
  simp only [step, setDeviceRoute]
  cases s.gateway with
  | none => exact ⟨rfl, rfl⟩
  | some g => exact ⟨Dict.set_set_self _ _ _ _, rfl⟩

lemma steers_request (ip : String) :
    (s.step lower host looksLikeIp (.request device route flushSet addElement)).2.Steers looksLikeIp ip ↔
      if ip = device then route = .shadow ∧ looksLikeIp ip = true else s.Steers looksLikeIp ip := by
  rw [Steers, step_request.1, Dict.get?_set]
  split_ifs
  · simp
  · rfl

lemma pinOf_request (key : String) :
    pinOf (pins ++ (s.step lower host looksLikeIp (.request device route flushSet addElement)).1) key =
      if key = lower device ∧ (s.devices.address? (lower device)).isSome = true then some route
      else pinOf pins key := by
  rw [step, DeviceRegistry.fst_setRoute]
  cases (s.devices.address? (lower device)).isSome with
  | true =>
    rw [if_pos rfl, pinOf_concat]
    simp only [and_true, eq_comm]
  | false => simp

lemma pinned_iff_elsewhere (key ip : String) :
    s.Pinned pins ip ↔ s.PinnedElsewhere pins key ip ∨
      ip ≠ "" ∧ s.devices.address? key = some ip ∧ pinOf pins key = some .shadow := by
  constructor
  · rintro ⟨hip, key', hkey', hpin⟩
    by_cases hkey : key' = key
    · exact .inr ⟨hip, hkey ▸ hkey', hkey ▸ hpin⟩
    · exact .inl ⟨hip, key', hkey, hkey', hpin⟩
  · rintro (⟨hip, key', -, hkey', hpin⟩ | ⟨hip, hkey, hpin⟩)
    · exact ⟨hip, key', hkey', hpin⟩
    · exact ⟨hip, key, hkey, hpin⟩

lemma pinned_request (ip : String) :
    (s.step lower host looksLikeIp (.request device route flushSet addElement)).2.Pinned
        (pins ++ (s.step lower host looksLikeIp (.request device route flushSet addElement)).1) ip ↔
      s.PinnedElsewhere pins (lower device) ip ∨
        ip ≠ "" ∧ s.devices.address? (lower device) = some ip ∧ route = .shadow := by
  rw [pinned_iff_elsewhere (lower device), PinnedElsewhere, PinnedElsewhere, step_request.2]
  simp only [pinOf_request, DeviceRegistry.address?_setRoute]
  refine or_congr (and_congr_right fun _ => exists_congr fun key => and_congr_right fun hkey => ?_)
    (and_congr_right fun _ => and_congr_right fun hkey => ?_)
  · rw [if_neg fun h => hkey h.1]
  · rw [hkey]
    simp

/-- Where the stores agree, they agree after a request if and only if it says the same of all
addresses. -/
theorem Agrees.request_iff (h : Agrees looksLikeIp s pins) :
    Agrees looksLikeIp (s.step lower host looksLikeIp (.request device route flushSet addElement)).2
        (pins ++ (s.step lower host looksLikeIp (.request device route flushSet addElement)).1) ↔
      s.SaysTheSame lower looksLikeIp pins device route := by
  have hbefore := fun ip => (h.same ip).trans (pinned_iff_elsewhere (lower device) ip)
  constructor
  · rintro ⟨-, hsame⟩
    simp only [steers_request, pinned_request] at hsame
    refine ⟨fun hlooks => ?_, fun ip haddress hip => ?_⟩
    · have hdevice := hsame device
      simp only [if_true, hlooks, and_true] at hdevice
      split_ifs with hshadow
      · rcases hdevice.1 hshadow with helsewhere | ⟨hne, haddress, -⟩
        · exact .inr helsewhere
        · exact .inl ⟨hne, haddress⟩
      · exact fun helsewhere => hshadow (hdevice.2 (.inl helsewhere))
    · have hthere := hsame ip
      simp only [haddress, hip, ne_eq, not_false_eq_true, true_and] at hthere
      have hwas := hbefore ip
      simp only [haddress, hip, ne_eq, not_false_eq_true, true_and] at hwas
      split_ifs at hthere with heq
      · by_cases hlooks : looksLikeIp device = true
        · exact .inl ⟨heq, hlooks⟩
        · have hnot : ¬ s.Steers looksLikeIp ip := fun hsteers => hlooks (heq ▸ hsteers.2)
          grind
      · grind
  · intro hsays
    refine ⟨fun key pin hpin => ?_, fun ip => ?_⟩
    · rw [pinOf_request] at hpin
      rw [step_request.2, DeviceRegistry.address?_setRoute]
      split_ifs at hpin with hkey
      · exact hkey.1 ▸ hkey.2
      · exact h.known key pin hpin
    · rw [steers_request, pinned_request]
      have haddress := hsays.address
      have hdevice := hsays.device ip
      have hwas := hbefore ip
      split_ifs with heq
      · subst heq
        have hlooks : s.Steers looksLikeIp ip → looksLikeIp ip = true := And.right
        grind
      · grind

end Request

/-! ### The set of the kernel -/

/-- Once its commands have been executed the set holds the addresses that are pinned to shadow. -/
lemma shadowDevices_applyDeviceRoutes {g : LanGateway} {o : Outcomes} {table : Option NftTable}
    (hbackend : LanGateway.backend host = .nftables) (hflush : (run host "nft" o.flushSet).done = true)
    (hadd : (run host "nft" o.addElement).done = true) (htable : table.isSome = true) :
    ∃ table', (g.applyDeviceRoutes host o table).2 = some table' ∧
      ∀ ip, ip ∈ table'.shadowDevices ↔
        g.cfg.deviceRoutes.get? ip = some .shadow ∧ o.looksLikeIp ip = true := by
  obtain ⟨table, rfl⟩ := Option.isSome_iff_exists.1 htable
  have hmem : ∀ ip, ip ∈ (g.cfg.deviceRoutes.entries.filterMap fun entry =>
      if entry.2 = .shadow ∧ o.looksLikeIp entry.1 then some entry.1 else none) ↔
      g.cfg.deviceRoutes.get? ip = some .shadow ∧ o.looksLikeIp ip = true := by
    intro ip
    rw [List.mem_filterMap, Dict.get?_eq_some_iff]
    constructor
    · rintro ⟨⟨name, route⟩, hentry, hsome⟩
      simp only [Option.ite_none_right_eq_some, Option.some.injEq] at hsome
      obtain ⟨⟨rfl, hlooks⟩, rfl⟩ := hsome
      exact ⟨hentry, hlooks⟩
    · rintro ⟨hentry, hlooks⟩
      exact ⟨(ip, .shadow), hentry, by simp [hlooks]⟩
  rw [LanGateway.applyDeviceRoutes, hbackend]
  simp only [ne_eq, not_true_eq_false, if_false, LanGateway.flushSet, hflush, if_true, Option.map_some]
  split_ifs with hempty hpassed
  · refine ⟨_, rfl, fun ip => (Iff.of_eq ?_).trans (hmem ip)⟩
    exact congrArg (ip ∈ ·) (List.isEmpty_iff.1 hempty).symm
  · simp only [LanGateway.addElements, hadd, if_true, Option.map_some]
    exact ⟨_, rfl, hmem⟩
  · simp only [LanGateway.addElements, hadd, if_true, Option.map_some]
    exact ⟨_, rfl, hmem⟩

/-- After a request whose commands have been executed the set holds what the configuration pins. -/
lemma reaches_request {device : String} {route : RouteName} {flushSet addElement : CommandResult}
    (hsuits : s.Suits lower host looksLikeIp pins (.request device route flushSet addElement))
    {pins' : List (String × RouteName)}
    (hagrees : Agrees looksLikeIp
      (s.step lower host looksLikeIp (.request device route flushSet addElement)).2 pins') :
    (s.step lower host looksLikeIp (.request device route flushSet addElement)).2.Reaches pins' := by
  obtain ⟨⟨hgateway, htable, hbackend, hflush, hadd⟩, -⟩ := hsuits
  obtain ⟨g, hg⟩ := Option.isSome_iff_exists.1 hgateway
  have hsame := hagrees.same
  simp only [step, setDeviceRoute, hg] at hsame ⊢
  obtain ⟨table, hleft, hset⟩ := shadowDevices_applyDeviceRoutes
    (g := { g with cfg := { s.lan with
      deviceRoutes := (s.lan.deviceRoutes.set device route).set device route } })
    (o := outcomes looksLikeIp flushSet addElement) hbackend hflush hadd htable
  exact ⟨table, hleft, fun ip => (hset ip).trans (hsame ip)⟩

/-! ### Runs -/

/-- A merge is a run of its observations. -/
lemma run_observations (devices : List ConnectedDevice) (source : String) (now : ℚ) :
    Machine.run (step lower host looksLikeIp) (devices.map (.observe · source now)) s =
      ([], { s with devices := (s.devices.merge lower devices source now).2 }) := by
  rw [DeviceRegistry.snd_merge]
  induction devices generalizing s with
  | nil => rfl
  | cons device devices ih =>
    rw [List.map_cons, Machine.run_cons, ih]
    rfl

/-- From an empty registry, a device takes the route that it was pinned to last, or the default. -/
theorem route_eq_pin (hempty : s.devices.devices = Dict.empty) (events : List Event) :
    let ran := Machine.run (step lower host looksLikeIp) events s
    ∀ key route, ran.2.devices.route? key = some route →
      route = (pinOf ran.1 key).getD s.devices.defaultRoute := by
  have hrun := Machine.run_invariant_nil (step lower host looksLikeIp)
    (I := fun t pins => t.devices.defaultRoute = s.devices.defaultRoute ∧
      ∀ key, (∀ route, t.devices.route? key = some route →
        route = (pinOf pins key).getD s.devices.defaultRoute) ∧
        (t.devices.route? key = none → pinOf pins key = none))
    (fun t pins e ⟨hdefault, hroutes⟩ => ?_) events (s := s)
    ⟨rfl, fun key => ⟨fun route hroute => ?_, fun _ => rfl⟩⟩
  · exact fun key => (hrun.2 key).1
  · cases e with
    | observe device source now =>
      refine ⟨DeviceRegistry.defaultRoute_observe.trans hdefault, fun key => ?_⟩
      have hout : pins ++ (t.step lower host looksLikeIp (.observe device source now)).1 = pins :=
        List.append_nil _
      have hroute := DeviceRegistry.route?_observe lower t.devices source now device key
      rw [hout, show (t.step lower host looksLikeIp (.observe device source now)).2.devices.route? key =
        _ from hroute]
      split_ifs
      · cases hknown : t.devices.route? key with
        | none => simp [(hroutes key).2 hknown, hdefault]
        | some known => simp [(hroutes key).1 known hknown]
      · exact hroutes key
    | request device route flushSet addElement =>
      rw [step_request.2]
      refine ⟨(DeviceRegistry.defaultRoute_setRoute _ _).trans hdefault, fun key => ?_⟩
      rw [pinOf_request, DeviceRegistry.route?_setRoute, DeviceRegistry.fst_setRoute]
      split_ifs
      · simp
      · exact hroutes key
  · simp [DeviceRegistry.route?, hempty] at hroute

lemma Agrees.step {e : Event} (h : Agrees looksLikeIp s pins)
    (hsuits : s.Suits lower host looksLikeIp pins e) :
    Agrees looksLikeIp (s.step lower host looksLikeIp e).2
      (pins ++ (s.step lower host looksLikeIp e).1) := by
  cases e with
  | observe device source now =>
    rw [show (s.step lower host looksLikeIp (.observe device source now)).1 = [] from rfl,
      List.append_nil]
    exact h.observe hsuits
  | request device route flushSet addElement => exact h.request_iff.2 hsuits.2

/-- After each request of a run whose events are as they must be, the set of the kernel holds exactly
the addresses of the devices that were pinned to shadow. -/
theorem reaches_after_request (lower : String → String) (host : Host) (looksLikeIp : String → Bool)
    (s : DeviceRoutes) (hstart : ∀ ip, ¬ s.Steers looksLikeIp ip) (events : List Event)
    (device : String) (route : RouteName) (flushSet addElement : CommandResult)
    (hmeets : Machine.Meets (step lower host looksLikeIp)
      (fun s pins e => s.Suits lower host looksLikeIp pins e)
      (events ++ [.request device route flushSet addElement]) s []) :
    let ran := Machine.run (step lower host looksLikeIp)
      (events ++ [.request device route flushSet addElement]) s
    ran.2.Reaches ran.1 := by
  obtain ⟨hevents, hlast⟩ := (Machine.meets_concat _ _ _ _ _).1 hmeets
  have hagrees := Machine.run_invariant_of_meets (step lower host looksLikeIp)
    (I := Agrees looksLikeIp) (fun s pins e h hsuits => h.step hsuits) events (agrees_start hstart)
    hevents
  intro ran
  rw [show ran = _ from Machine.run_concat ..]
  exact reaches_request hlast (hagrees.step hlast)

/-- A gateway that has just become active: no device is known and none is pinned. -/
def activated : DeviceRoutes where
  devices := {}
  lan := {}
  gateway := some
    { cfg := {}, routes := {}, shadowsocks := {}, sip := {}, egressInterfaces := ["eth0"]
      tunnelInterface := "", lanInterface := "br-lan" }
  table := some { rules := [], shadowDevices := [] }

/-- A host that executes its commands. -/
def withNft : Host := { dryRun := false, which := fun _ => true }

/-- The one address of the examples. -/
def isPhoneIp (name : String) : Bool := name = "192.168.1.30"

/-- A phone that is known by its address is pinned. -/
theorem reaches_after_request_byAddress :
    let ran := Machine.run (step id withNft isPhoneIp)
      ([.observe { mac := "", ip := "192.168.1.30" } "router" 0] ++
        [.request "192.168.1.30" .shadow {} {}]) activated
    ran.2.Reaches ran.1 := by
  refine reaches_after_request id withNft isPhoneIp activated (fun ip h => ?_)
    [.observe { mac := "", ip := "192.168.1.30" } "router" 0] "192.168.1.30" .shadow {} {} ?_
  · exact absurd h.1 (by simp [activated])
  · refine ⟨fun h => absurd h (by decide), ⟨⟨rfl, rfl, by decide, rfl, rfl⟩, fun _ => ?_, ?_⟩, trivial⟩
    · exact .inl ⟨by decide, by decide⟩
    · intro ip haddress _
      have hip : (some "192.168.1.30" : Option String) = some ip := by rw [← haddress]; decide
      exact .inl ⟨(Option.some.inj hip).symm, by decide⟩

/-- A phone that is known by its MAC address is pinned in the registry and not in the kernel. -/
theorem not_reaches_byKey :
    let ran := Machine.run (step id withNft isPhoneIp)
      [.observe { mac := "aa:bb:cc:00:00:04", ip := "192.168.1.30" } "neighbour-table" 0,
        .request "aa:bb:cc:00:00:04" .shadow {} {}] activated
    ran.2.Pinned ran.1 "192.168.1.30" ∧ ¬ ran.2.Reaches ran.1 := by
  intro ran
  have hpinned : ran.2.Pinned ran.1 "192.168.1.30" :=
    ⟨by decide, "aa:bb:cc:00:00:04", by decide, by decide⟩
  refine ⟨hpinned, ?_⟩
  rintro ⟨table, htable, hset⟩
  have hempty : table.shadowDevices = [] := by
    have hsome := congrArg (fun t => t.map NftTable.shadowDevices) htable
    exact Option.some.inj (hsome.symm.trans (by decide))
  exact absurd ((hset "192.168.1.30").2 hpinned) (by rw [hempty]; exact List.not_mem_nil)

end DeviceRoutes

end Turbobond.App
