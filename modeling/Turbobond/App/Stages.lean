import Turbobond.App.Steering
import Turbobond.Router.Session

/-!
# The stages of an activation

The ten stages of `turbobond/supervisor.py`, over how each call to a subsystem ends.  A stage records
its outcome once; what its handlers do not catch ends it before that.
-/

namespace Turbobond.App.Stages

open Config Links Util Router

inductive Phase where
  | idle
  | preflight
  | router
  | links
  | optimization
  | routing
  | bond
  | transport
  | sip
  | lan
  | selector
  | active
  | degraded
  | failed
  | stopping
  deriving DecidableEq

/-- The phases of the stages, in their order. -/
def Phase.all : List Phase :=
  [.preflight, .router, .links, .optimization, .routing, .bond, .transport, .sip, .lan, .selector]

structure StageResult where
  phase : Phase
  ok : Bool
  detail : String
  degraded : Bool
  deriving DecidableEq

/-- What the supervisor says of an activation. -/
structure Progress where
  phase : Phase := .idle
  stages : List StageResult := []
  lastError : String := ""
  bondMode : BondMode := .none
  /-- There is a tunnel. -/
  tunnel : Bool := false
  deriving DecidableEq

inductive Severity where
  | ok
  | degraded
  | blocking
  deriving DecidableEq

structure Check where
  name : String
  severity : Severity
  detail : String
  remedy : String := ""

structure PreflightReport where
  checks : List Check := []

namespace PreflightReport

def blocking (report : PreflightReport) : List Check :=
  report.checks.filter fun c => c.severity = .blocking

def degraded (report : PreflightReport) : List Check :=
  report.checks.filter fun c => c.severity = .degraded

def ok (report : PreflightReport) : Bool := report.blocking.isEmpty

end PreflightReport

/-- What `program_link_tables` reports. -/
structure LinkTables where
  tables : List (String × Bool) := []
  errors : List String := []

/-- What `SipFirewall.apply` reports. -/
structure FirewallReport where
  applied : Bool := false
  signallingPorts : List ℤ := []
  rtpRange : String := ""
  errors : List String := []

/-- What `LanGateway.apply` reports. -/
structure GatewayReport where
  forwarding : Bool := false
  lanInterface : String := ""
  errors : List String := []

/-! ### The calls -/

/-- The calls to the router of `_stage_router`. -/
structure RouterCalls where
  connect : Except Exn RouterStatus := .ok {}
  setSipAlg : Except Exn Bool := .ok true
  status : Except Exn RouterStatus := .ok {}

/-- The calls to the router and to the kernel of the provisioner. -/
structure TuningCalls where
  applyOptimization : Except Exn (List (String × Bool)) := .ok []
  applySysctls : Except Exn (List (String × Bool)) := .ok []
  /-- The file that `persist_sysctls` writes. -/
  persist : Except Exn Unit := .ok ()
  applyQdisc : Except Exn (List (String × Bool)) := .ok []
  startSearchLoop : Except Exn Unit := .ok ()

structure ShadowsocksCalls where
  start : Except Exn Unit := .ok ()
  snapshot : Except Exn Unit := .ok ()

structure SipCalls where
  apply : Except Exn FirewallReport := .ok {}
  applySipQos : Except Exn Unit := .ok ()

/-- The calls of `_stage_lan` and of `_refresh_devices`. -/
structure LanCalls where
  /-- The gateway is made. -/
  gateway : Except Exn Unit := .ok ()
  apply : Except Exn GatewayReport := .ok {}
  readNeighbours : Except Exn Unit := .ok ()
  devices : Except Exn Unit := .ok ()
  status : Except Exn RouterStatus := .ok {}
  /-- The devices that are online afterwards. -/
  online : ℕ := 0

/-- How the calls of an activation end, and the uplinks as each stage finds them: their health changes
while the monitor runs. -/
structure Calls where
  runPreflight : Except Exn PreflightReport := .ok {}
  router : RouterCalls := {}
  discoverLinks : Except Exn (List (Link ℚ)) := .ok []
  startMonitor : Except Exn Unit := .ok ()
  links : Phase → List (Link ℚ) := fun _ => []
  tuning : TuningCalls := {}
  programLinkTables : Except Exn LinkTables := .ok {}
  /-- `mptcp.configure_endpoints`: whether MPTCP is available. -/
  configureEndpoints : Except Exn Bool := .ok true
  tunnelSupported : Bool := true
  startTunnel : Except Exn Unit := .ok ()
  installTunnelDefault : Except Exn Bond.Routing.RoutingReport := .ok {}
  addBypassRoutes : Except Exn Unit := .ok ()
  installEcmpDefault : Except Exn Bond.Routing.RoutingReport := .ok {}
  shadowsocks : ShadowsocksCalls := {}
  pinTrafficToLink : Except Exn Bool := .ok true
  sip : SipCalls := {}
  lan : LanCalls := {}
  startSelector : Except Exn Unit := .ok ()
  activeRoute : String := "direct"

/-! ### The stages -/

abbrev Stage := EStateM Exn Progress Unit

/-- `_progress`. -/
def progress (phase : Phase) : Stage := modify fun s => { s with phase }

/-- `_record`. -/
def record (phase : Phase) (ok : Bool) (detail : String) (degraded : Bool) : Stage :=
  modify fun s => { s with stages := s.stages ++ [{ phase, ok, detail, degraded }] }

/-- A text, or another one where it is empty. -/
def orElse (text other : String) : String := if text = "" then other else text

def stagePreflight (calls : Calls) : Stage := do
  progress .preflight
  let report ← call calls.runPreflight
  if report.ok then
    record .preflight true s!"{report.degraded.length} degraded check(s)" (!report.degraded.isEmpty)
  else
    let detail := "; ".intercalate (report.blocking.map fun c => c.name ++ ": " ++ c.detail)
    record .preflight false detail false
    throw (.turboBond .activation ("cannot activate: " ++ detail)
      ((report.blocking.head?.map Check.remedy).filter fun remedy => remedy ≠ ""))

/-- The part of `_stage_router` that turns the SIP ALG of the router off and reads its status again. -/
def disableAlg (cfg : AppConfig) (calls : RouterCalls) (status : RouterStatus) :
    EStateM Exn Progress RouterStatus :=
  if cfg.sip.enabled && cfg.sip.disableAlg && status.authenticated then do
    let _ ← call (suppress Exn.isTurboBondError calls.setSipAlg)
    return (← call (suppress Exn.isTurboBondError calls.status)).getD status
  else return status

def stageRouter (cfg : AppConfig) (calls : RouterCalls) : Stage := do
  progress .router
  if !cfg.router.manage then
    record .router true "router management disabled" false
  else
    let status ← call calls.connect
    if !status.reachable then
      record .router false (orElse status.error "router unreachable") true
    else
      let status ← disableAlg cfg calls status
      let name := (orElse status.model "router" ++ " " ++ status.firmware).trimAscii.toString
      record .router true (orElse name "connected") (!status.authenticated)

def stageLinks (calls : Calls) : Stage := do
  progress .links
  let links ← call calls.discoverLinks
  if links.isEmpty then
    record .links false "no uplinks found" false
    throw (.turboBond .activation "no WAN uplink was found"
      (some "Connect at least one internet-facing interface and re-run activation."))
  else
    call calls.startMonitor
    let usable := (calls.links .links).filter Link.usable
    if usable.isEmpty then
      record .links false "every uplink failed its health probe" false
      throw (.turboBond .activation "no uplink passed its health check"
        (some "Check that at least one WAN connection can reach the internet."))
    else
      record .links true s!"{usable.length}/{(calls.links .links).length} uplink(s) healthy"
        (usable.length < 2)

/-- The names of the settings of `router_profile`. -/
def routerProfile (opt : OptimizationConfig) : List String :=
  (if opt.turbo then
    ["wmm", "power_saving", "wifi_power", "upnp", "port_filter", "jumbo_frames",
      "ethernet_failover", "ipv6_enabled"] ++ (if opt.wanMtu ≠ 0 then ["mtu"] else [])
  else []) ++
  if opt.prefer5ghz then ["wifi_bandwidth_5", "wifi_mode_5"] else []

/-- The half of `RouterProvisioner.apply` for the router: the settings, and which of them it took. -/
def tuneRouter (opt : OptimizationConfig) (calls : TuningCalls) :
    EStateM Exn Progress (List (String × Bool)) :=
  if routerProfile opt = [] then return []
  else do
    -- nothing but a `RouterError` has a handler here
    let applied ← call (suppress Exn.isRouterError calls.applyOptimization)
    return applied.getD ((routerProfile opt).map fun name => (name, false))

/-- The half of `RouterProvisioner.apply` for the kernel parameters. -/
def tuneKernel (opt : OptimizationConfig) (calls : TuningCalls) :
    EStateM Exn Progress (List (String × Bool)) :=
  if opt.turbo then do
    let applied ← call calls.applySysctls
    let _ ← call (suppress Exn.isOSError calls.persist)
    return applied
  else return []

def tuneQueues (calls : TuningCalls) (interfaces : List String) : Stage :=
  if interfaces = [] then return ()
  else do
    let _ ← call calls.applyQdisc
    return ()

/-- `RouterProvisioner.apply`, with what `ok` of its report looks at. -/
def provision (opt : OptimizationConfig) (calls : TuningCalls) (interfaces : List String) :
    EStateM Exn Progress (List (String × Bool)) := do
  let settings ← tuneRouter opt calls
  let sysctls ← tuneKernel opt calls
  tuneQueues calls interfaces
  return settings ++ sysctls

/-- The interfaces of the uplinks that are usable. -/
def usableInterfaces (links : List (Link ℚ)) : List String :=
  (links.filter Link.usable).map Link.interface

def stageOptimization (cfg : AppConfig) (calls : Calls) : Stage := do
  progress .optimization
  let report ← provision cfg.optimization calls.tuning (usableInterfaces (calls.links .optimization))
  record .optimization true s!"profile {cfg.optimization.profile} applied" (!report.all Prod.snd)

def stageRouting (calls : Calls) : Stage := do
  progress .routing
  let tables ← call calls.programLinkTables
  let available ← call calls.configureEndpoints
  record .routing tables.errors.isEmpty s!"{tables.tables.length} link table(s) programmed"
    (!tables.errors.isEmpty || !available)

/-- The part of `_stage_bond` without a tunnel. -/
def stageEcmp (calls : Calls) : Stage := do
  progress .bond
  let report ← call calls.installEcmpDefault
  modify fun s => { s with bondMode := .ecmp }
  let usable := (calls.links .bond).filter Link.usable
  record .bond report.errors.isEmpty
    s!"weighted multipath across {usable.length} uplink(s): {report.defaultRoute}" true

/-- The part of `_stage_bond` with a tunnel that has started. -/
def stageTunnel (calls : Calls) : Stage := do
  let report ← call calls.installTunnelDefault
  call calls.addBypassRoutes
  modify fun s => { s with bondMode := .tunnel }
  let usable := (calls.links .bond).filter Link.usable
  record .bond report.errors.isEmpty
    s!"packet-level bonding across {usable.length} uplink(s)" (!report.errors.isEmpty)

/-- The part of `_stage_bond` after the `start` of the tunnel, which goes on without one if that has
raised a `TurboBondError`. -/
def bondStarted (calls : Calls) : Option Unit → Stage
  | none => do
    modify fun s => { s with tunnel := false }
    stageEcmp calls
  | some _ => stageTunnel calls

def stageBond (cfg : AppConfig) (calls : Calls) : Stage :=
  if cfg.concentrator.enabled && cfg.concentrator.host ≠ "" && calls.tunnelSupported then do
    progress .bond
    modify fun s => { s with tunnel := true }
    let started ← call (suppress Exn.isTurboBondError calls.startTunnel)
    bondStarted calls started
  else stageEcmp calls

/-- `ShadowsocksConfig.usable`. -/
def shadowsocksUsable (cfg : ShadowsocksConfig) : Bool :=
  cfg.enabled && cfg.host ≠ "" && cfg.password ≠ ""

/-- The part of `_stage_transport` after the `start` of the client, whatever that has raised. -/
def transportStarted (cfg : AppConfig) (calls : ShadowsocksCalls) : Except Exn Unit → Stage
  | .error e =>
    let detail :=
      if e.isTurboBondError then e.message else "shadow route unavailable: " ++ e.message
    record .transport false detail true
  | .ok _ => do
    call calls.snapshot
    record .transport true
      s!"shadow route ready via {cfg.shadowsocks.host}:{cfg.shadowsocks.port}" false

def stageTransport (cfg : AppConfig) (calls : ShadowsocksCalls) : Stage := do
  progress .transport
  if !cfg.shadowsocks.enabled then
    record .transport true "shadow route disabled" false
  else if !shadowsocksUsable cfg.shadowsocks then
    record .transport true
      "shadow route has no server configured; only the direct route is available" true
  else transportStarted cfg calls calls.start

def pinSip (cfg : AppConfig) (calls : Calls) : Stage :=
  if (resolveSipLink (calls.links .sip) cfg.sip).isSome then do
    let _ ← call calls.pinTrafficToLink
    return ()
  else return ()

def stageSip (cfg : AppConfig) (calls : Calls) : Stage := do
  progress .sip
  pinSip cfg calls
  let report ← call calls.sip.apply
  call calls.sip.applySipQos
  let mode := if cfg.sip.wideOpen then "wide open" else "stateful"
  record .sip report.applied
    s!"SIP {mode}: ports {report.signallingPorts}, RTP {report.rtpRange}"
    (!(report.applied && report.errors.isEmpty))

/-- `_refresh_devices`. -/
def refreshDevices (cfg : AppConfig) (calls : LanCalls) : Stage := do
  call calls.readNeighbours
  if cfg.router.manage then do
    let _ ← call (suppress Exn.isTurboBondError calls.devices)
    let _ ← call (suppress Exn.isTurboBondError calls.status)
  else return ()

def stageLan (cfg : AppConfig) (calls : LanCalls) : Stage := do
  progress .lan
  if !cfg.lan.enabled then
    record .lan true "LAN gateway mode disabled" false
  else
    call calls.gateway
    let report ← call calls.apply
    refreshDevices cfg calls
    let interface := orElse report.lanInterface "auto"
    let ok := report.forwarding && report.errors.isEmpty
    record .lan ok s!"gateway on {interface}, {calls.online} device(s) bonded" (!ok)

def stageSelector (calls : Calls) : Stage := do
  progress .selector
  call calls.startSelector
  call calls.tuning.startSearchLoop
  record .selector true s!"active route: {calls.activeRoute}" false

/-- The `try` block of `activate`. -/
def runStages (cfg : AppConfig) (calls : Calls) : Stage := do
  stagePreflight calls
  stageRouter cfg calls.router
  stageLinks calls
  stageOptimization cfg calls
  stageRouting calls
  stageBond cfg calls
  stageTransport cfg calls.shadowsocks
  stageSip cfg calls
  stageLan cfg calls.lan
  stageSelector calls

/-- `activate`, with the error that it answers. -/
def activate (cfg : AppConfig) (calls : Calls) (s : Progress) :
    Option (List (String × Option String)) × Progress :=
  match (runStages cfg calls).run { s with stages := [], lastError := "" } with
  | .error e s => (some e.asDict, { s with phase := .failed, lastError := e.message })
  | .ok _ s =>
    let degraded := s.stages.filter fun stage => stage.degraded || !stage.ok
    (none, { s with phase := if degraded.isEmpty then .active else .degraded })

end Turbobond.App.Stages
