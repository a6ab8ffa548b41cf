import Turbobond.Android.Datapath
import Turbobond.Android.DatapathNonces
import Turbobond.Android.DatapathSteps
import Turbobond.Android.InOrder
import Turbobond.Android.Protocol
import Turbobond.Android.Psk
import Turbobond.Android.Reorder
import Turbobond.Android.ReorderFed
import Turbobond.Android.ReorderSafety
import Turbobond.Android.ReorderSkew
import Turbobond.Android.ReorderStall
import Turbobond.Android.Service
import Turbobond.Android.Socks
import Turbobond.Android.Spread
import Turbobond.Android.Uplinks
import Turbobond.App.Activation
import Turbobond.App.ActivationStream
import Turbobond.App.Api
import Turbobond.App.Auth
import Turbobond.App.Authorised
import Turbobond.App.Completion
import Turbobond.App.DeviceRoutes
import Turbobond.App.Lifecycle
import Turbobond.App.Lockout
import Turbobond.App.LogView
import Turbobond.App.Masquerade
import Turbobond.App.Overrides
import Turbobond.App.PasswordChange
import Turbobond.App.PatchFrame
import Turbobond.App.RouteSwitch
import Turbobond.App.Saving
import Turbobond.App.Sessions
import Turbobond.App.Settings
import Turbobond.App.SipPin
import Turbobond.App.Stages
import Turbobond.App.Steering
import Turbobond.App.VoicePriority
import Turbobond.App.WriteBack
import Turbobond.Bond.ClientReader
import Turbobond.Bond.Codec
import Turbobond.Bond.Effects
import Turbobond.Bond.Fairness
import Turbobond.Bond.InOrder
import Turbobond.Bond.Live
import Turbobond.Bond.Network
import Turbobond.Bond.Nonces
import Turbobond.Bond.Origin
import Turbobond.Bond.PolicyRouting
import Turbobond.Bond.Protocol
import Turbobond.Bond.Provision
import Turbobond.Bond.Readiness
import Turbobond.Bond.Reading
import Turbobond.Bond.Reorder
import Turbobond.Bond.ReorderFed
import Turbobond.Bond.ReorderInv
import Turbobond.Bond.ReorderMemory
import Turbobond.Bond.ReorderSafety
import Turbobond.Bond.ReorderSkew
import Turbobond.Bond.ReorderStall
import Turbobond.Bond.Replay
import Turbobond.Bond.ReturnSpread
import Turbobond.Bond.Routing
import Turbobond.Bond.Scheduler
import Turbobond.Bond.SchedulerSteps
import Turbobond.Bond.Selfcheck
import Turbobond.Bond.SelfcheckRuns
import Turbobond.Bond.Server
import Turbobond.Bond.ServerClose
import Turbobond.Bond.ServerLedger
import Turbobond.Bond.ServerReader
import Turbobond.Bond.ServerReject
import Turbobond.Bond.ServerReplay
import Turbobond.Bond.ServerRules
import Turbobond.Bond.ServerSession
import Turbobond.Bond.ServerTable
import Turbobond.Bond.ServerTwin
import Turbobond.Bond.Silence
import Turbobond.Bond.SingleLink
import Turbobond.Bond.SipPackets
import Turbobond.Bond.System
import Turbobond.Bond.TunReader
import Turbobond.Bond.Tunnel
import Turbobond.Bond.TunnelReplay
import Turbobond.Bond.TunnelSteps
import Turbobond.Bond.TunnelStream
import Turbobond.Config.Dump
import Turbobond.Config.Model
import Turbobond.Config.Redact
import Turbobond.Config.Reload
import Turbobond.Config.Slots
import Turbobond.Config.Store
import Turbobond.Config.Validate
import Turbobond.Lan.Devices
import Turbobond.Lan.Gateway
import Turbobond.Lan.Iptables
import Turbobond.Lan.Voice
import Turbobond.Lib.Allocation
import Turbobond.Lib.Bytes
import Turbobond.Lib.Codec
import Turbobond.Lib.Deficit
import Turbobond.Lib.Dict
import Turbobond.Lib.Feed
import Turbobond.Lib.Files
import Turbobond.Lib.Firewall
import Turbobond.Lib.Hex
import Turbobond.Lib.Ip
import Turbobond.Lib.Ledger
import Turbobond.Lib.Machine
import Turbobond.Lib.Netfilter
import Turbobond.Lib.Numbering
import Turbobond.Lib.Numeral
import Turbobond.Lib.Patch
import Turbobond.Lib.Raising
import Turbobond.Lib.Record
import Turbobond.Lib.RoundRobin
import Turbobond.Lib.RoutePolicy
import Turbobond.Lib.Stream
import Turbobond.Lib.Text
import Turbobond.Lib.Time
import Turbobond.Lib.TrafficControl
import Turbobond.Lib.Window
import Turbobond.Links.Autodiscovery
import Turbobond.Links.Discovery
import Turbobond.Links.Ids
import Turbobond.Links.Model
import Turbobond.Links.Monitor
import Turbobond.Links.Persist
import Turbobond.Links.ProcRoutes
import Turbobond.Links.Quality
import Turbobond.Links.Recovery
import Turbobond.Router.Session
import Turbobond.Router.Settings
import Turbobond.Router.Writes
import Turbobond.Sip.Agreement
import Turbobond.Sip.Apply
import Turbobond.Sip.Chains
import Turbobond.Sip.Firewall
import Turbobond.Sip.Qos
import Turbobond.Transport.Failover
import Turbobond.Transport.Flapping
import Turbobond.Transport.Selector
import Turbobond.Transport.Shadowsocks
import Turbobond.Util.Cmd
import Turbobond.Util.Crypto
import Turbobond.Util.Errors
import Turbobond.Util.Iptables
import Turbobond.Util.Psk
