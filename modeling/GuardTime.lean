import GuardTime.NftController
import GuardTime.NftRebuild
import GuardTime.NftCoherence
import GuardTime.NftRollback
import GuardTime.IptTables
import GuardTime.IptController
import GuardTime.IptCoherence
import GuardTime.IptInterleaving
import GuardTime.PacketVerdict
import GuardTime.BackendAgreement
import GuardTime.IspTenant
import GuardTime.IspNetwork
import GuardTime.IspOwnership
import GuardTime.RouterBlocking
import GuardTime.BackendClient
import GuardTime.RouterAcks
import GuardTime.ConnectionKiller
import GuardTime.QosController
import GuardTime.FirewallTargets
import GuardTime.AgentCycle
import GuardTime.WebSession
import GuardTime.SignedOut
import GuardTime.TokenRotation
import GuardTime.SignatureSoundness
import GuardTime.DeviceDiscovery
import GuardTime.FamilyRollback
import GuardTime.SingleJumps
import GuardTime.EndGamingSession
import GuardTime.RouterReplays
import GuardTime.QosHistory
import GuardTime.RequestTables
import GuardTime.RestoredEdit
import GuardTime.MikroTikPlugin
import GuardTime.RuleRemoval
import GuardTime.MikroTikFrame
import GuardTime.ChangeDns
import GuardTime.NoisyOr
import GuardTime.VpnConfidence
import GuardTime.VpnDetector
import GuardTime.VpnEvidence
import GuardTime.EnvRoundTrip
import GuardTime.TcpResets
import GuardTime.ConntrackController
import GuardTime.KillOutcomes
import GuardTime.DohDetector
import GuardTime.DohMemory
import GuardTime.ConntrackTable
import GuardTime.FlowAttribution
import GuardTime.ByteReader
import GuardTime.TlsFingerprint
import GuardTime.TlsHello
import GuardTime.TlsReadable
import GuardTime.TenantRuns
import GuardTime.IspIndexes
import GuardTime.BngFrame
import GuardTime.IspServer
import GuardTime.QosClasses
import GuardTime.FirstMatch
import GuardTime.QosOrder
import GuardTime.RuleSlots
import GuardTime.DrayTekPlugin
import GuardTime.EdgeRouterPlugin
import GuardTime.RuleIndependence
import GuardTime.CommandLines
import GuardTime.EdgeRouterScript
import GuardTime.TextScan
import GuardTime.RouterDiscovery
import GuardTime.NeighbourLines
import GuardTime.PairingWizard
import GuardTime.DomainLabels
import GuardTime.MergedDevices
import GuardTime.PairingTimeout
import GuardTime.ApiClient
import GuardTime.AddressGrammar
import GuardTime.ConntrackLines
import GuardTime.Cidr
import GuardTime.DnsResolveCache
import GuardTime.RouterProbes
import GuardTime.DnsQueries
import GuardTime.DigestRequests
import GuardTime.ClientAccess
import GuardTime.Metrics
import GuardTime.JsonParts
import GuardTime.SniffPrograms
import GuardTime.DeviceFingerprints
import GuardTime.HeartbeatText
import GuardTime.RestartedGateway
