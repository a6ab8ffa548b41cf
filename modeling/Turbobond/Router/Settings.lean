import Turbobond.Config.Validate
import Turbobond.Lib.Codec
import Turbobond.Router.Session

/-!
# Writing the settings of the router

`set_setting` of `turbobond/router/netgear_m7pro.py` tries the names that firmwares have for a
setting, one after the other, and reads each back; a name that cannot be read counts as written.
The router is behind the two requests: it answers both with 200, shows its state as a tree, applies
the keys it knows and ignores the others.  As in the session, dry-run mode is left out.
-/

namespace Turbobond.Router

open Util

/-- What Python makes of texts beyond what is said here: small letters, how it prints numbers that
are no integers and compound values, and which texts are integers. -/
structure PyText where
  lower : String → String
  repr : Value → String
  int : String → Option ℤ
  lower_bool : ∀ b : Bool, lower (if b then "true" else "false") = if b then "true" else "false"

def tokenPaths : List String :=
  ["session.secToken", "sess.secToken", "session.sessionId", "secToken", "general.secToken"]

/-- `FIELD_ALIASES["sip_alg"]`. -/
def sipAlgPaths : List String :=
  ["router.sipalg.enabled", "router.sipALG", "firewall.sipalg", "router.SIPALG"]

/-- `WRITE_ALIASES`. -/
def writeAliases : List (String × List String) :=
  [("sip_alg", ["router.sipalg.enabled", "router.sipALG", "firewall.sipalg", "router.SIPALG"]),
    ("upnp", ["router.upnp.enabled", "upnp.enabled"]),
    ("dmz_enabled", ["router.dmz.enabled", "firewall.dmz.enabled"]),
    ("dmz_host", ["router.dmz.ipAddress", "firewall.dmz.host"]),
    ("port_filter", ["router.portFiltering.enabled", "firewall.portFilter.enabled"]),
    ("wifi_band", ["wifi.band", "wifi.5ghz.enabled"]),
    ("wifi_channel_24", ["wifi.24ghz.channel", "wifi.channel"]),
    ("wifi_channel_5", ["wifi.5ghz.channel", "wifi.channel5g"]),
    ("wifi_mode_5", ["wifi.5ghz.mode", "wifi.mode5g"]),
    ("wifi_bandwidth_5", ["wifi.5ghz.bandwidth", "wifi.channelWidth5g"]),
    ("wifi_power", ["wifi.txPower", "wifi.power"]),
    ("wmm", ["wifi.wmm.enabled", "wifi.wmm"]),
    ("band_lock", ["wwan.bandLock", "wwan.band.selection", "wwan.prefNetwork"]),
    ("network_pref", ["wwan.prefNetwork", "wwan.networkPreference"]),
    ("mtu", ["wwan.mtu", "router.mtu", "ethernet.wan.mtu"]),
    ("ethernet_failover", ["failover.autoSwitch", "failover.enabled"]),
    ("jumbo_frames", ["router.jumboFrame", "ethernet.jumboFrame"]),
    ("power_saving", ["power.powerSaving", "power.autoSleep"]),
    ("lan_dhcp_lease", ["router.dhcp.leaseTime", "lan.dhcp.leaseTime"]),
    ("ipv6_enabled", ["router.ipv6.enabled", "wwan.ipv6.enabled"])]

/-- `WRITE_ALIASES.get(logical_name, (logical_name,))`. -/
def aliases (logicalName : String) : List String :=
  (writeAliases.lookup logicalName).getD [logicalName]

/-! ### Reading a tree -/

/-- `dotted.split(".")`. -/
def parts (dotted : String) : List String := (dotted.toList.splitOn '.').map String.ofList

/-- `items[i]`, which counts from the end when `i` is negative. -/
def item (items : List Value) (i : ℤ) : Option Value :=
  if 0 ≤ i then items[i.toNat]?
  else if -(items.length : ℤ) ≤ i then items[(items.length + i).toNat]?
  else none

variable (py : PyText)

/-- The loop of `dig`. -/
def digParts : Value → List String → Value
  | node, [] => node
  | .dict fields, part :: parts =>
    match fields.lookup part with
    | none => .null
    | some node => digParts node parts
  | .list items, part :: parts =>
    match (py.int part).bind (item items) with
    | none => .null
    | some node => digParts node parts
  | _, _ :: _ => .null

/-- What is at a dotted path of a tree, `.null` for nothing. -/
def dig (tree : Value) (dotted : String) : Value := digParts py tree (parts dotted)

def firstPresent (tree : Value) : List String → Value
  | [] => .null
  | path :: paths =>
    match dig py tree path with
    | .null | .str "" => firstPresent tree paths
    | value => value

/-- `str(value)`. -/
def str : Value → String
  | .null => "None"
  | .bool b => if b then "True" else "False"
  | .int n => toString n
  | .str s => s
  | value => py.repr value

/-- `str(value).strip().lower()`. -/
def plain (value : Value) : String :=
  py.lower (String.ofList (Config.strip (str py value).toList))

/-- `_as_bool`. -/
def asBool : Value → Option Bool
  | .bool b => some b
  | .null => none
  | value =>
    let text := plain py value
    if text ∈ ["1", "true", "on", "enabled", "yes"] then some true
    else if text ∈ ["0", "false", "off", "disabled", "no"] then some false
    else none

/-- `_form_value`. -/
def formValue : Value → String
  | .bool b => if b then "true" else "false"
  | value => str py value

/-- The value at a path of the router is the expected one, as far as `_confirm_written` can see:
not there, or the same truth value, or the same text. -/
def confirms (actual expected : Value) : Bool :=
  match actual with
  | .null => true
  | _ =>
    match asBool py expected with
    | some b => asBool py actual = some b
    | none => plain py actual = plain py expected

/-- Something is there. -/
def Present (tree : Value) (path : String) : Prop := dig py tree path ≠ .null

/-- The expected value is there. -/
def Shows (tree : Value) (path : String) (expected : Value) : Prop :=
  Present py tree path ∧ confirms py (dig py tree path) expected = true

/-! ### The router -/

/-- A router that applies the keys it knows.  It may show a setting under other paths than the key
that sets it, or not at all; where it shows the setting, some path has the value then, and the key
itself has no other. -/
structure Firmware where
  knows : String → Bool
  /-- The tree after a known key was set to a text. -/
  write : Value → String → String → Value
  /-- What the client's search for a token finds in an answer. -/
  secToken : Value → String
  /-- The token of a form is no setting. -/
  knows_token : knows "token" = false
  confirms_write : ∀ tree key value, knows key = true →
    confirms py (dig py (write tree key (formValue py value)) key) value = true
  shows_write : ∀ tree name key value, key ∈ aliases name → knows key = true →
    (∃ path ∈ aliases name,
      Present py tree path ∨ Present py (write tree key (formValue py value)) path) →
    ∃ path ∈ aliases name, Shows py (write tree key (formValue py value)) path value

namespace Firmware

variable {py} (r : Firmware py)

/-- A form post: the known keys are applied, in order. -/
def post (tree : Value) (payload : List (String × String)) : Value :=
  payload.foldl (fun tree e => if r.knows e.1 then r.write tree e.1 e.2 else tree) tree

/-- The tree after a setting was posted under a key. -/
def applied (tree : Value) (key : String) (value : Value) : Value :=
  if r.knows key then r.write tree key (formValue py value) else tree

end Firmware

/-! ### The client -/

/-- `NighthawkAdmin`. -/
structure Admin extends Session Value where
  token : String := ""
  writeKeyCache : Dict String String := Dict.empty

/-- The client, and the state of the router. -/
structure World where
  admin : Admin
  tree : Value

/-- `_extract_token`, with what `_TOKEN_RE` finds in the text. -/
def extractToken (model : Value) (found : String) : String :=
  match tokenPaths.findSome? fun path =>
    match dig py model path with
    | .str s => if s = "" then none else some s
    | _ => none with
  | some s => s
  | none => found

/-- The form that `_post_config` sends. -/
def payload (token key : String) (value : Value) : List (String × String) :=
  if token = "" then [(key, formValue py value)]
  else if key = "token" then [("token", token)]
  else [(key, formValue py value), ("token", token)]

/-- The field `sip_alg_enabled` of `_build_status`. -/
def sipAlgEnabled (model : Value) : Option Bool := asBool py (firstPresent py model sipAlgPaths)

namespace World

variable {py} (r : Firmware py) (w : World)

/-- `fetch_model`: the first path is answered. -/
def fetchModel : World :=
  let token := extractToken py w.tree (r.secToken w.tree)
  { w with admin := { w.admin with
      model := w.tree
      token := if token = "" then w.admin.token else token } }

/-- `_post_config` with one setting, which the router answers with 200. -/
def postConfig (key : String) (value : Value) : World :=
  let tree := r.post w.tree (payload py w.admin.token key value)
  let newToken := extractToken py (.dict []) (r.secToken tree)
  { admin := { w.admin with token := if newToken = "" then w.admin.token else newToken }, tree }

/-- `_confirm_written`. -/
def confirmWritten (key : String) (expected : Value) : Bool × World :=
  let w := w.fetchModel r
  (confirms py (dig py w.admin.model key) expected, w)

/-- The names that `set_setting` tries. -/
def candidates (logicalName : String) : List String :=
  match w.admin.writeKeyCache.get? logicalName with
  | some cached => if cached = "" then aliases logicalName else [cached]
  | none => aliases logicalName

/-- The loop of `set_setting`. -/
def trySetting (logicalName : String) (value : Value) : List String → World → Bool × World
  | [], w => (false, w)
  | key :: keys, w =>
    if key = "" then trySetting logicalName value keys w
    else
      match (w.postConfig r key value).confirmWritten r key value with
      | (true, w) =>
        (true, { w with admin := { w.admin with
          writeKeyCache := w.admin.writeKeyCache.set logicalName key } })
      | (false, w) => trySetting logicalName value keys w

/-- `set_setting`. -/
def setSetting (logicalName : String) (value : Value) : Bool × World :=
  trySetting r logicalName value (w.candidates logicalName) w

/-- `require_auth`. -/
def requireAuth : Except Exn Unit :=
  if w.admin.authenticated then .ok ()
  else .error (.turboBond .routerAuth "not signed in to the router web administrator"
    (some "Enter the router admin password on the turbobond sign-in screen."))

/-- `set_sip_alg`, which looks at the tree that was read last. -/
def setSipAlg (enabled : Bool) : Except Exn (Bool × World) := do
  w.requireAuth
  match sipAlgEnabled py w.admin.model with
  | none => return (true, w)
  | some current =>
    return if current = enabled then (true, w) else w.setSetting r "sip_alg" (.bool enabled)

/-! ### Histories -/

/-- What may happen between two calls.  The firmware may be another one each time. -/
inductive Action (py : PyText) where
  /-- The state of the router changes by itself. -/
  | change (tree : Value)
  /-- `connect` and `close`, as far as they say whether the client is signed in. -/
  | session (authenticated : Bool)
  /-- `status` or `devices`. -/
  | read (r : Firmware py)
  | setSetting (r : Firmware py) (logicalName : String) (value : Value)
  | setSipAlg (r : Firmware py) (enabled : Bool)

def step (w : World) : Action py → World
  | .change tree => { w with tree }
  | .session authenticated => { w with admin := { w.admin with authenticated } }
  | .read r => w.fetchModel r
  | .setSetting r logicalName value => (w.setSetting r logicalName value).2
  | .setSipAlg r enabled =>
    match w.setSipAlg r enabled with
    | .ok (_, w) => w
    | .error _ => w

/-- A new client of a router, after a history. -/
def after (tree : Value) (actions : List (Action py)) : World :=
  actions.foldl step { admin := { model := .dict [] }, tree }

end World

end Turbobond.Router
