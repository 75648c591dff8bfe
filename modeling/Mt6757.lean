import Mt6757.Lib.CommandTree
import Mt6757.Lib.RelyGuarantee
import Mt6757.Lib.Sections
import Mt6757.Lib.BlockProgram
import Mt6757.Lib.Machine
import Mt6757.Lib.CompactArray
import Mt6757.Lib.KeyedList
import Mt6757.Lib.FifoFamily
import Mt6757.Lib.FirstUse
import Mt6757.Lib.CString
import Mt6757.Lib.Ledger
import Mt6757.Lib.Numeral
import Mt6757.Lib.CharMemory
import Mt6757.Lib.Printer
import Mt6757.Lib.KeyValue
import Mt6757.Lib.Double
import Mt6757.Lib.Octets
import Mt6757.Lib.Traced
import Mt6757.Lib.MemAccess
import Mt6757.Lib.MemoryFrame
import Mt6757.Lib.CLayout
import Mt6757.Lib.Netlink
import Mt6757.Lib.Splice
import Mt6757.Lib.TextSearch
import Mt6757.Lib.LoadImage
import Mt6757.Lib.MachineCode
import Mt6757.Lib.A32
import Mt6757.Lib.A64
import Mt6757.Lib.NlMessage
import Mt6757.Lib.Pieces
import Mt6757.WifiHal.RttResults
import Mt6757.WifiHal.Registry
import Mt6757.WifiHal.RegistryRefinement
import Mt6757.WifiHal.Handshake
import Mt6757.WifiHal.CommandSocket
import Mt6757.WifiHal.World
import Mt6757.WifiHal.Commands
import Mt6757.WifiHal.System
import Mt6757.WifiHal.Sequential
import Mt6757.WifiHal.StartOutcome
import Mt6757.WifiHal.StopFrame
import Mt6757.WifiHal.Ownership
import Mt6757.WifiHal.OwnershipRuns
import Mt6757.WifiHal.OwnershipCalls
import Mt6757.WifiHal.CommandTable
import Mt6757.WifiHal.TableLeak
import Mt6757.WifiHal.AtRest
import Mt6757.WifiHal.Cleanup
import Mt6757.WifiHal.CleanupTermination
import Mt6757.WifiHal.Subscription
import Mt6757.WifiHal.Delivery
import Mt6757.WifiHal.RttEvents
import Mt6757.WifiHal.Request
import Mt6757.WifiHal.Roaming
import Mt6757.WifiHal.RoamingBounds
import Mt6757.WifiHal.RoamingRequest
import Mt6757.WifiHal.Initialize
import Mt6757.WifiHal.Interfaces
import Mt6757.WifiHal.MulticastGroups
import Mt6757.WifiHal.RecordEvents
import Mt6757.WifiHal.FullScan
import Mt6757.WifiHal.GscanEvents
import Mt6757.WifiHal.Epno
import Mt6757.WifiHal.CountedReplies
import Mt6757.WifiHal.ScanResults
import Mt6757.WifiHal.RttElements
import Mt6757.WifiHal.RttTeardown
import Mt6757.WifiHal.VendorRequests
import Mt6757.WifiHal.EpnoRequest
import Mt6757.WifiHal.SetupRequests
import Mt6757.WifiHal.SetupReadBack
import Mt6757.WifiHal.PasspointRequest
import Mt6757.WifiHal.EventLog
import Mt6757.WifiHal.CapabilityReplies
import Mt6757.Omx.Plugin
import Mt6757.Omx.Roles
import Mt6757.Omx.PluginLifetime
import Mt6757.AgpsSsl.Bio
import Mt6757.AgpsSsl.FlagSync
import Mt6757.AgpsSsl.Lifetime
import Mt6757.AgpsSsl.LifetimeRuns
import Mt6757.MnldMutex.Destroy
import Mt6757.RadioBridge.Service
import Mt6757.RadioBridge.Retirement
import Mt6757.RadioBridge.Attention
import Mt6757.Supplicant.Tokenize
import Mt6757.Supplicant.CommandFrame
import Mt6757.Supplicant.Driver
import Mt6757.Supplicant.DriverCmd
import Mt6757.Supplicant.ApInterface
import Mt6757.Supplicant.P2pEntry
import Mt6757.Supplicant.Emission
import Mt6757.Supplicant.Passthrough
import Mt6757.Supplicant.RxFilter
import Mt6757.Supplicant.SharedFreqs
import Mt6757.Supplicant.SinkChannel
import Mt6757.Supplicant.StaStatistics
import Mt6757.Supplicant.StaHandler
import Mt6757.Supplicant.StaCounters
import Mt6757.Supplicant.ChannelChoice
import Mt6757.Tools.SitePatch
import Mt6757.Tools.ElfPatch
import Mt6757.Tools.AtciQuery
import Mt6757.Tools.PatchedCode
import Mt6757.Tools.PatchedRuns
import Mt6757.Tools.RadioJarPatch
import Mt6757.Tools.AtcidRunner
import Mt6757.Rootdir.BootBridge
