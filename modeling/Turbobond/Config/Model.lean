import Turbobond.Lib.Dict
import Mathlib.Algebra.Order.Field.Rat

/-!
# The configuration

The models of `turbobond/config.py`, field by field, with the source's defaults.  A float is
a rational, an enumerated string a value of its own type, and a path a string.
-/

namespace Turbobond.Config

inductive Scheme where
  | http
  | https
  deriving DecidableEq, Repr

inductive RouteName where
  | direct
  | shadow
  deriving DecidableEq, Repr

structure RouterConfig where
  model : String := "nighthawk-m7pro"
  host : String := "192.168.1.1"
  scheme : Scheme := .http
  password : String := ""
  username : String := "admin"
  verifyTls : Bool := false
  timeoutS : ℚ := 12
  manage : Bool := true
  additionalHosts : List String := []
  deriving DecidableEq

structure OptimizationConfig where
  profile : String := "wrt-turbo-search"
  turbo : Bool := true
  search : Bool := true
  searchIntervalS : ℚ := 180
  congestionControl : String := "bbr"
  qdisc : String := "fq"
  wanMtu : ℤ := 0
  tcpRmem : ℤ × ℤ × ℤ := (4096, 262144, 33554432)
  tcpWmem : ℤ × ℤ × ℤ := (4096, 262144, 33554432)
  clampMss : Bool := true
  prefer5ghz : Bool := true
  bandSearch : Bool := true
  deriving DecidableEq

structure LinkConfig where
  name : String
  interface : String
  gateway : String := ""
  weight : ℚ := 1
  uplinkMbps : ℚ := 0
  downlinkMbps : ℚ := 0
  metered : Bool := false
  enabled : Bool := true
  tableId : ℤ := 0
  deriving DecidableEq

structure ConcentratorConfig where
  enabled : Bool := false
  host : String := ""
  port : ℤ := 5310
  pskHex : String := ""
  tunnelIpLocal : String := "10.77.0.2/30"
  tunnelIpRemote : String := "10.77.0.1"
  tunnelMtu : ℤ := 1380
  tunDevice : String := "tbond0"
  keepaliveS : ℚ := 1
  reorderTimeoutMs : ℚ := 90
  reorderCapacity : ℤ := 2048
  duplicateCritical : Bool := true
  deriving DecidableEq

structure ShadowsocksConfig where
  enabled : Bool := true
  host : String := ""
  port : ℤ := 8388
  password : String := ""
  method : String := "2022-blake3-aes-256-gcm"
  localSocksPort : ℤ := 1080
  localHttpPort : ℤ := 1081
  localRedirPort : ℤ := 1082
  localDnsPort : ℤ := 1053
  plugin : String := ""
  pluginOpts : String := ""
  timeoutS : ℤ := 300
  fastOpen : Bool := true
  udpRelay : Bool := true
  deriving DecidableEq

structure RoutePolicy where
  defaultRoute : RouteName := .direct
  shadowDomains : List String := []
  shadowCidrs : List String := []
  directCidrs : List String :=
    ["10.0.0.0/8", "172.16.0.0/12", "192.168.0.0/16", "169.254.0.0/16"]
  autoFailover : Bool := true
  failoverAfterFailures : ℤ := 3
  probeIntervalS : ℚ := 5
  probeTargets : List String := ["1.1.1.1", "8.8.8.8", "9.9.9.9"]
  deriving DecidableEq

structure SipConfig where
  enabled : Bool := true
  wideOpen : Bool := true
  signallingPorts : List ℤ := [5060, 5061, 5062, 5080, 5090]
  tlsPorts : List ℤ := [5061]
  rtpPortStart : ℤ := 10000
  rtpPortEnd : ℤ := 65535
  disableAlg : Bool := true
  disableConntrackHelper : Bool := true
  dscpMedia : ℤ := 46
  dscpSignalling : ℤ := 24
  pinToLink : String := ""
  keepaliveS : ℚ := 25
  deriving DecidableEq

structure LanConfig where
  enabled : Bool := true
  interface : String := ""
  takeOverGateway : Bool := true
  nat : Bool := true
  ipv4Forward : Bool := true
  ipv6Forward : Bool := true
  deviceRoutes : Dict String RouteName := Dict.empty
  dnsServers : List String := ["1.1.1.1", "8.8.8.8"]
  dhcpLeaseS : ℤ := 3600
  deriving DecidableEq

structure AuthConfig where
  username : String := "admin"
  passwordHash : String := ""
  sessionSecret : String := ""
  sessionTtlS : ℤ := 86400
  bindHost : String := "0.0.0.0"
  bindPort : ℤ := 8088
  deriving DecidableEq

structure AppConfig where
  version : ℤ := 1
  logLevel : String := "INFO"
  dryRun : Bool := false
  autoActivateOnLogin : Bool := true
  auth : AuthConfig := {}
  router : RouterConfig := {}
  optimization : OptimizationConfig := {}
  links : List LinkConfig := []
  autoDiscoverLinks : Bool := true
  concentrator : ConcentratorConfig := {}
  shadowsocks : ShadowsocksConfig := {}
  routes : RoutePolicy := {}
  sip : SipConfig := {}
  lan : LanConfig := {}
  configDir : String := "/etc/turbobond"
  stateDir : String := "/var/lib/turbobond"
  runDir : String := "/run/turbobond"
  deriving DecidableEq

end Turbobond.Config
