import HostNet.Address.Basic
import HostNet.Address.Text
import HostNet.Bridge
import HostNet.Config.AddressManagement
import HostNet.Config.File
import HostNet.Config.Mac
import HostNet.Config.Network
import HostNet.Config.Plan
import HostNet.Config.Switches
import HostNet.Config.Trunk
import HostNet.Config.Vlan
import HostNet.Digest.Label
import HostNet.Digest.Sha512
import HostNet.Document.Basic
import HostNet.Document.Json.Reader
import HostNet.Document.Json.Token
import HostNet.Document.Json.Writer
import HostNet.Document.Numeral
import HostNet.Document.Record
import HostNet.Document.Yaml.Anchor
import HostNet.Document.Yaml.Cursor
import HostNet.Document.Yaml.Node
import HostNet.Document.Yaml.Plain
import HostNet.Document.Yaml.Reader
import HostNet.Document.Yaml.Scalar
import HostNet.Document.Yaml.Tag
import HostNet.Document.Yaml.Token
import HostNet.Error
import HostNet.Files.Basic
import HostNet.Firewall.Iptables.Command
import HostNet.Firewall.Iptables.Memory
import HostNet.Firewall.Iptables.Ops
import HostNet.Firewall.Nft.Command
import HostNet.Firewall.Nft.Memory
import HostNet.Firewall.Nft.Ops
import HostNet.Firewall.Nft.Script
import HostNet.Firewall.Tool
import HostNet.Host
import HostNet.Ipam.Allocator
import HostNet.Ipam.Bitmap
import HostNet.Ipam.Bits
import HostNet.Ipam.Error
import HostNet.Ipam.Range
import HostNet.Ipam.Snapshot
import HostNet.Kernel.Bridge
import HostNet.Kernel.Description
import HostNet.Kernel.Driver
import HostNet.Kernel.Error
import HostNet.Kernel.Link
import HostNet.Kernel.Message
import HostNet.Kernel.Received
import HostNet.Kernel.Script
import HostNet.Kernel.Socket
import HostNet.Kernel.Table
import HostNet.Layout
import HostNet.Masquerade.Identity
import HostNet.Masquerade.Iptables
import HostNet.Masquerade.Manager
import HostNet.Masquerade.Nft
import HostNet.OsError
import HostNet.Path
import HostNet.Program.Basic
import HostNet.Program.ByteMap
import HostNet.Program.Format
import HostNet.Program.Runner
import HostNet.Program.Shell
import HostNet.Program.ShellWord
import HostNet.Program.Utility
import HostNet.Proofs.AddressArithmetic
import HostNet.Proofs.AddressText
import HostNet.Proofs.ArrangedTables
import HostNet.Proofs.AttributeOrder
import HostNet.Proofs.BitStorage
import HostNet.Proofs.BitmapSet
import HostNet.Proofs.BridgeAddresses
import HostNet.Proofs.BridgeStages
import HostNet.Proofs.CallSections
import HostNet.Proofs.CarriedBridge
import HostNet.Proofs.CarriedGateways
import HostNet.Proofs.ChainDeletions
import HostNet.Proofs.ChainEdits
import HostNet.Proofs.ChainRuns
import HostNet.Proofs.ChainTables
import HostNet.Proofs.CommandRuns
import HostNet.Proofs.CommandTables
import HostNet.Proofs.CommentLimits
import HostNet.Proofs.CommentOwners
import HostNet.Proofs.ConcurrentCalls
import HostNet.Proofs.ConfigurationErrors
import HostNet.Proofs.CorrespondingSteps
import HostNet.Proofs.ForeignLinks
import HostNet.Proofs.FreeOffsets
import HostNet.Proofs.GatewayAddresses
import HostNet.Proofs.HardwareAddresses
import HostNet.Proofs.IdentityKeys
import HostNet.Proofs.InstanceComments
import HostNet.Proofs.InstanceRuns
import HostNet.Proofs.InterruptedListings
import HostNet.Proofs.KernelRequests
import HostNet.Proofs.KernelTables
import HostNet.Proofs.LinkPlaces
import HostNet.Proofs.ListedChains
import HostNet.Proofs.LiveNets
import HostNet.Proofs.MasqueradeChains
import HostNet.Proofs.MasqueradeRules
import HostNet.Proofs.MasqueradedTraffic
import HostNet.Proofs.NetworkPlaces
import HostNet.Proofs.NetworkPlans
import HostNet.Proofs.OrderlyTables
import HostNet.Proofs.OwnRules
import HostNet.Proofs.ParameterFiles
import HostNet.Proofs.ParameterNames
import HostNet.Proofs.Pieces
import HostNet.Proofs.PortVlanListings
import HostNet.Proofs.QuotedText
import HostNet.Proofs.RangeArithmetic
import HostNet.Proofs.RangeExhaustion
import HostNet.Proofs.RangeRequests
import HostNet.Proofs.ReachableHosts
import HostNet.Proofs.RecordFields
import HostNet.Proofs.Reinstalling
import HostNet.Proofs.Removal
import HostNet.Proofs.RemovedNetworks
import HostNet.Proofs.RepeatedInstalls
import HostNet.Proofs.RepeatedSetup
import HostNet.Proofs.ReplyStreams
import HostNet.Proofs.RestoredChains
import HostNet.Proofs.RestoredOwners
import HostNet.Proofs.ScriptCommands
import HostNet.Proofs.SetupResults
import HostNet.Proofs.SharedChain
import HostNet.Proofs.SnapshotApplication
import HostNet.Proofs.SnapshotBytes
import HostNet.Proofs.Stages
import HostNet.Proofs.StoredRanges
import HostNet.Proofs.TrunkNumbers
import HostNet.Proofs.UsableAddresses
import HostNet.Proofs.VlanInterfaces
import HostNet.Proofs.WellFormedTables
import HostNet.Proofs.WrittenFiles
import HostNet.Proofs.WrittenRecords
import HostNet.Report.Basic
import HostNet.Report.Error
import HostNet.Report.Firewall
import HostNet.Report.Kernel
import HostNet.Report.Network
import HostNet.Report.Program
import HostNet.Services
import HostNet.Step
import HostNet.Subnet.Basic
import HostNet.Subnet.Gateway
import HostNet.Subnet.Text
import HostNet.Sysctl
import HostNet.Text.Base64
import HostNet.Text.Blank
import HostNet.Text.Hex
import HostNet.Text.Quoted
import HostNet.Text.Unprintable
import HostNet.Text.Utf8
import HostNet.Vlan
import HostNet.Worker
