import Turbobond.Config.Model

/-!
# The devices of the network

`DeviceRegistry` of `turbobond/lan/devices.py`: devices are learned from more than one source and
merged under a key, and each takes a route.
-/

namespace Turbobond.Lan

open Config

structure ConnectedDevice where
  mac : String
  ip : String := ""
  name : String := ""
  connection : String := ""
  rssi : Option ℤ := none
  rxBytes : ℤ := 0
  txBytes : ℤ := 0
  bonded : Bool := false
  deriving DecidableEq

structure TrackedDevice where
  device : ConnectedDevice
  firstSeen : ℚ
  lastSeen : ℚ
  route : RouteName := .direct
  source : String := ""
  deriving DecidableEq

structure DeviceRegistry where
  defaultRoute : RouteName := .direct
  devices : Dict String TrackedDevice := Dict.empty

/-- `key`; `lower` is `str.lower`. -/
def ConnectedDevice.key (lower : String → String) (device : ConnectedDevice) : String :=
  lower (if device.mac ≠ "" then device.mac else device.ip)

/-- What a later observation makes of a device: it fills in details the earlier source lacked. -/
def ConnectedDevice.fillIn (known device : ConnectedDevice) : ConnectedDevice :=
  { known with
    name := if device.name ≠ "" ∧ known.name = "" then device.name else known.name
    ip := if device.ip ≠ "" ∧ known.ip = "" then device.ip else known.ip
    connection :=
      if device.connection ≠ "" ∧ known.connection = "" then device.connection else known.connection
    rssi := if device.rssi.isSome then device.rssi else known.rssi
    rxBytes := max known.rxBytes device.rxBytes
    txBytes := max known.txBytes device.txBytes }

namespace DeviceRegistry

variable (lower : String → String)

/-- One observation of `merge`: whether the device is new, and the registry it leaves. -/
def observe (source : String) (now : ℚ) (device : ConnectedDevice) (registry : DeviceRegistry) :
    Bool × DeviceRegistry :=
  let key := device.key lower
  if key = "" then (false, registry)
  else
    match registry.devices.get? key with
    | none =>
      let tracked : TrackedDevice :=
        { device, firstSeen := now, lastSeen := now, source, route := registry.defaultRoute }
      (true, { registry with devices := registry.devices.set key tracked })
    | some tracked =>
      let tracked :=
        { tracked with lastSeen := now, source, device := tracked.device.fillIn device }
      (false, { registry with devices := registry.devices.set key tracked })

/-- `merge`: how many devices are new, and the registry. -/
def merge (devices : List ConnectedDevice) (source : String) (now : ℚ)
    (registry : DeviceRegistry) : ℕ × DeviceRegistry :=
  devices.foldl (fun (added, registry) device =>
    let (new, registry) := registry.observe lower source now device
    (if new then added + 1 else added, registry)) (0, registry)

/-- `set_route`; other routes than the two there are do not get here. -/
def setRoute (key : String) (route : RouteName) (registry : DeviceRegistry) :
    Bool × DeviceRegistry :=
  match registry.devices.get? (lower key) with
  | none => (false, registry)
  | some tracked =>
    (true, { registry with devices := registry.devices.set (lower key) { tracked with route } })

/-! ### Addresses and routes -/

/-- The address of the device that is kept under a key; it is empty as long as it is not known. -/
def address? (registry : DeviceRegistry) (key : String) : Option String :=
  (registry.devices.get? key).map fun tracked => tracked.device.ip

/-- The route of the device that is kept under a key. -/
def route? (registry : DeviceRegistry) (key : String) : Option RouteName :=
  (registry.devices.get? key).map TrackedDevice.route

variable {lower} {registry : DeviceRegistry} {source : String} {now : ℚ} {device : ConnectedDevice}

/-- A merge is its observations, one after the other. -/
lemma snd_merge (devices : List ConnectedDevice) :
    (registry.merge lower devices source now).2 =
      devices.foldl (fun registry device => (registry.observe lower source now device).2) registry := by
  have hfold : ∀ (devices : List ConnectedDevice) (s : ℕ × DeviceRegistry),
      (devices.foldl (fun (added, registry) device =>
        let (new, registry) := registry.observe lower source now device
        (if new then added + 1 else added, registry)) s).2 =
      devices.foldl (fun registry device => (registry.observe lower source now device).2) s.2 := by
    intro devices
    induction devices with
    | nil => exact fun _ => rfl
    | cons device devices ih => exact fun s => ih _
  exact hfold devices (0, registry)

variable (lower registry source now device) in
/-- An observation gives an address only to a device that has none. -/
lemma address?_observe (key : String) :
    (registry.observe lower source now device).2.address? key =
      if key = device.key lower ∧ key ≠ "" then
        some (match registry.address? key with
          | none => device.ip
          | some ip => if device.ip ≠ "" ∧ ip = "" then device.ip else ip)
      else registry.address? key := by
  rw [observe]
  by_cases hempty : device.key lower = ""
  · simp only [hempty, if_true]
    rw [if_neg fun h => h.2 h.1]
  · simp only [hempty, if_false]
    cases hknown : registry.devices.get? (device.key lower) with
    | none =>
      simp only [address?, Dict.get?_set]
      by_cases hkey : key = device.key lower
      · subst hkey
        simp [hempty, hknown]
      · simp [hkey]
    | some tracked =>
      simp only [address?, Dict.get?_set]
      by_cases hkey : key = device.key lower
      · subst hkey
        simp [hempty, hknown, ConnectedDevice.fillIn]
      · simp [hkey]

variable (lower registry source now device) in
/-- An observation leaves the routes of the devices there are, and a new one takes the default. -/
lemma route?_observe (key : String) :
    (registry.observe lower source now device).2.route? key =
      if key = device.key lower ∧ key ≠ "" then some ((registry.route? key).getD registry.defaultRoute)
      else registry.route? key := by
  rw [observe]
  by_cases hempty : device.key lower = ""
  · simp only [hempty, if_true]
    rw [if_neg fun h => h.2 h.1]
  · simp only [hempty, if_false]
    cases hknown : registry.devices.get? (device.key lower) with
    | none =>
      simp only [route?, Dict.get?_set]
      by_cases hkey : key = device.key lower
      · subst hkey
        simp [hempty, hknown]
      · simp [hkey]
    | some tracked =>
      simp only [route?, Dict.get?_set]
      by_cases hkey : key = device.key lower
      · subst hkey
        simp [hempty, hknown]
      · simp [hkey]

lemma defaultRoute_observe :
    (registry.observe lower source now device).2.defaultRoute = registry.defaultRoute := by
  rw [observe]
  split
  · rfl
  · cases registry.devices.get? (device.key lower) with
    | none => rfl
    | some tracked => rfl

lemma address?_setRoute (name : String) (route : RouteName) (key : String) :
    (registry.setRoute lower name route).2.address? key = registry.address? key := by
  rw [setRoute]
  cases hknown : registry.devices.get? (lower name) with
  | none => rfl
  | some tracked =>
    simp only [address?, Dict.get?_set]
    by_cases hkey : key = lower name
    · subst hkey
      simp [hknown]
    · simp [hkey]

lemma route?_setRoute (name : String) (route : RouteName) (key : String) :
    (registry.setRoute lower name route).2.route? key =
      if key = lower name ∧ (registry.setRoute lower name route).1 then some route
      else registry.route? key := by
  rw [setRoute]
  cases hknown : registry.devices.get? (lower name) with
  | none => simp
  | some tracked =>
    simp only [route?, Dict.get?_set, and_true]
    by_cases hkey : key = lower name
    · simp [hkey]
    · simp [hkey]

/-- A route is set if and only if there is a device under the key. -/
lemma fst_setRoute (name : String) (route : RouteName) :
    (registry.setRoute lower name route).1 = (registry.address? (lower name)).isSome := by
  rw [setRoute, address?, Option.isSome_map]
  cases registry.devices.get? (lower name) with
  | none => rfl
  | some tracked => rfl

lemma defaultRoute_setRoute (name : String) (route : RouteName) :
    (registry.setRoute lower name route).2.defaultRoute = registry.defaultRoute := by
  rw [setRoute]
  cases registry.devices.get? (lower name) with
  | none => rfl
  | some tracked => rfl

end DeviceRegistry

end Turbobond.Lan
