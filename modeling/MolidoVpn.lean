import MolidoVpn.Lib.Transition
import MolidoVpn.Lib.History
import MolidoVpn.Lib.Channel
import MolidoVpn.Lib.SerialNumber
import MolidoVpn.Lib.Table
import MolidoVpn.Lib.Ownership
import MolidoVpn.Lib.Files
import MolidoVpn.Lib.Varint
import MolidoVpn.Lib.Framing
import MolidoVpn.Lib.Utf8
import MolidoVpn.Lib.Text
import MolidoVpn.Lib.Eviction
import MolidoVpn.Lib.Streak
import MolidoVpn.Lib.Ranking
import MolidoVpn.Lib.Checked
import MolidoVpn.Lib.Numbered
import MolidoVpn.Address
import MolidoVpn.Aggregator.Health
import MolidoVpn.Relay.State
import MolidoVpn.Relay.HandleTcp
import MolidoVpn.Relay.Steps
import MolidoVpn.Relay.Bookkeeping
import MolidoVpn.Relay.AppData
import MolidoVpn.Relay.Written
import MolidoVpn.Relay.Records
import MolidoVpn.Relay.Acknowledgements
import MolidoVpn.Relay.StreamPrefix
import MolidoVpn.Relay.FlowIsolation
import MolidoVpn.Relay.Generations
import MolidoVpn.Relay.ResponseSeq
import MolidoVpn.Relay.HalfClose
import MolidoVpn.Relay.Packets
import MolidoVpn.Netstack.Smoltcp
import MolidoVpn.Netstack.Connection
import MolidoVpn.Netstack.Stack
import MolidoVpn.Netstack.Steps
import MolidoVpn.Netstack.Grants
import MolidoVpn.Netstack.Handles
import MolidoVpn.Netstack.Owners
import MolidoVpn.Netstack.Ports
import MolidoVpn.Netstack.Track
import MolidoVpn.Netstack.Passes
import MolidoVpn.Netstack.Buffered
import MolidoVpn.Netstack.Delivery
import MolidoVpn.Netstack.Sending
import MolidoVpn.Netstack.Accept
import MolidoVpn.Netstack.Reports
import MolidoVpn.Account.Refusal
import MolidoVpn.Config.WritePrivate
import MolidoVpn.Ffi.Stop
import MolidoVpn.Tun.ExitIp
import MolidoVpn.Tun.ExitProbe
import MolidoVpn.Tun.Clamp
import MolidoVpn.Tun.Bridge
import MolidoVpn.Masque.Capsule
import MolidoVpn.Masque.Chunking
import MolidoVpn.Masque.Overflow
import MolidoVpn.Masque.Drain
import MolidoVpn.Masque.Quic
import MolidoVpn.Masque.Assign
import MolidoVpn.Masque.Hunt
import MolidoVpn.Masque.Fallback
import MolidoVpn.Masque.GatewayCache
import MolidoVpn.Masque.MimLoop
import MolidoVpn.Masque.Fragment
import MolidoVpn.Socks.IpText
import MolidoVpn.Socks.IpDisplay
import MolidoVpn.Socks.Routing
import MolidoVpn.Socks.Target
import MolidoVpn.Socks.UdpAssociate
import MolidoVpn.Socks.Http
import MolidoVpn.Socks.Spelling
import MolidoVpn.Socks.ProxyConnect
import MolidoVpn.Socks.Gateway
import MolidoVpn.Socks.HttpClient
import MolidoVpn.Socks.KeepAlive
import MolidoVpn.WireGuard.Ladder
import MolidoVpn.WireGuard.MtuHint
import MolidoVpn.Masque.MimBudget
import MolidoVpn.Shard.Start
import MolidoVpn.Shard.Manager
import MolidoVpn.Shard.Latch
import MolidoVpn.Shard.Aims
import MolidoVpn.Shard.Session
import MolidoVpn.Shard.Standby
import MolidoVpn.Shard.SmartSplit
import MolidoVpn.Shard.SplitUse
import MolidoVpn.Shard.Configs
import MolidoVpn.Shard.Isolation
import MolidoVpn.Shard.DnsFront
import MolidoVpn.V2ray.Nodes
import MolidoVpn.V2ray.ShareLine
import MolidoVpn.V2ray.Outbound
import MolidoVpn.V2ray.Accepted
import MolidoVpn.V2ray.ConnectionReports
import MolidoVpn.Worker.AdminAuth
import MolidoVpn.Worker.Snapshot
import MolidoVpn.Worker.Catalog
import MolidoVpn.Worker.CatalogMemory
import MolidoVpn.Worker.CatalogServed
import MolidoVpn.Worker.Brand
import MolidoVpn.Worker.NodeFingerprint
import MolidoVpn.Worker.Identity
import MolidoVpn.Worker.OwnerTests
import MolidoVpn.Worker.Diag
import MolidoVpn.Worker.SubLists
import MolidoVpn.Desktop.Cancel
import MolidoVpn.Desktop.ConnectRuns
import MolidoVpn.Desktop.LiveSync
import MolidoVpn.Windows.KillSwitch
import MolidoVpn.Windows.XrayCalls
import MolidoVpn.Windows.FailoverRuns
import MolidoVpn.Singbox.RoundRuns
import MolidoVpn.Settings.Backup
import MolidoVpn.V2ray.MyConfigs
import MolidoVpn.V2ray.StoredConfigs
import MolidoVpn.V2ray.MyConfigsRuns
import MolidoVpn.Shard.RemotePolicy
import MolidoVpn.Links.Agreement
import MolidoVpn.Masque.Datagram
import MolidoVpn.Netstack.Associations
import MolidoVpn.Relay.TunPackets
import MolidoVpn.Socks.RuleCase
import MolidoVpn.Socks.RuleNet
import MolidoVpn.Socks.RuleFile
import MolidoVpn.Socks.Heads
import MolidoVpn.Socks.Forwarded
import MolidoVpn.Socks.UdpDatagrams
import MolidoVpn.Socks.Question
import MolidoVpn.Tun.Words
import MolidoVpn.Socks.Records
import MolidoVpn.Socks.Answers
import MolidoVpn.Tun.ClampFrame
import MolidoVpn.Tun.ProbePackets
import MolidoVpn.Noize.Config
import MolidoVpn.Noize.Patterns
import MolidoVpn.Noize.Sending
import MolidoVpn.Lib.Radix
import MolidoVpn.Lib.Str
import MolidoVpn.Account.ApiFront
import MolidoVpn.Account.Chunked
import MolidoVpn.Account.Answered
import MolidoVpn.Lib.FirstSeen
import MolidoVpn.WireGuard.Candidates
import MolidoVpn.Account.ZeroTrust
import MolidoVpn.Config.Persisted
import MolidoVpn.Lib.RoundRobin
import MolidoVpn.Shard.Pool
import MolidoVpn.Shard.Edges
import MolidoVpn.Lib.Numerals
import MolidoVpn.Shard.Health
import MolidoVpn.V2ray.ReadBack
import MolidoVpn.Shard.UdpRelay
import MolidoVpn.Worker.Branded
import MolidoVpn.Worker.Profile
import MolidoVpn.Worker.FingerprintRuns
import MolidoVpn.Aggregator.Candidates
import MolidoVpn.Aggregator.ValidSubset
import MolidoVpn.Settings.Export
import MolidoVpn.Tun.DnsOnly
import MolidoVpn.Worker.ServedList
import MolidoVpn.Lib.Python
import MolidoVpn.Lib.PythonJson
import MolidoVpn.Links.Extract
import MolidoVpn.Links.Rename
