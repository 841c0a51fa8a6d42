import GuardTime.CachedRebuild

namespace GuardTime

/-- The truthy text of an optional field: an empty string counts as absent. -/
def truthy (value : Option String) : Option String := value.filter (· ≠ "")

@[simp] theorem truthy_none : truthy none = none := rfl

theorem truthy_ne {value : Option String} {text : String} (h : truthy value = some text) : text ≠ "" := by
  simpa [truthy] using (Option.filter_eq_some_iff.mp h).2

@[simp] theorem truthy_truthy (value : Option String) : truthy (truthy value) = truthy value := by
  simp [truthy, Option.filter_filter]

inductive Action where
  | BLOCK
  | THROTTLE
  | ALLOW
  | other (text : String)
deriving DecidableEq

inductive Protocol where
  | tcp
  | udp
deriving DecidableEq

structure BandwidthLimit where
  category : Option String
  downloadKbps : Option Nat
  uploadKbps : Option Nat
deriving DecidableEq

structure Target where
  deviceId : String
  action : Action
  ipAddress : Option String
  ipv6Address : Option String
  macAddress : Option String
  vpnBlock : Bool
  quicBlock : Bool
  bandwidthLimits : List BandwidthLimit
deriving DecidableEq

structure Config where
  dryRun : Bool
  firewallBackend : String
  dnsRedirectIp : String
  dnsRedirectIpv6 : String
  enableDnsRedirect : Bool
  enableQuicBlockGlobal : Bool
  enableDohBlock : Bool
  enableIpv6 : Bool
  enableVpnBlock : Bool
  enableConntrackKill : Bool
  enableTcpRst : Bool
  enableQos : Bool
  enableBandwidthControl : Bool
  qosRate : String
  qosDefaultRate : String
  qosInterfaces : List String
  lanInterface : String
  wanInterface : String
  managementIps : List String
  dohReputationIps : List String

/-- What `syncOnce` passes to the `sync` of either firewall backend. -/
structure SyncArgs where
  targets : List Target
  dnsRedirectIp : String
  dnsRedirectIpv6 : String
  enableDnsRedirect : Bool
  enableQuicBlockGlobal : Bool
  enableDohBlock : Bool
deriving DecidableEq

/-- `dnsRedirectIpv6 || this.config.dnsRedirectIpv6`. -/
def v6ResolverIp (config : Config) (args : SyncArgs) : String :=
  if args.dnsRedirectIpv6 ≠ "" then args.dnsRedirectIpv6 else config.dnsRedirectIpv6

/-- The configuration and the policies of the worked cases. -/
def sampleConfig : Config where
  dryRun := false
  firewallBackend := "nftables"
  dnsRedirectIp := "10.0.0.1"
  dnsRedirectIpv6 := "2001:db8::53"
  enableDnsRedirect := true
  enableQuicBlockGlobal := false
  enableDohBlock := false
  enableIpv6 := true
  enableVpnBlock := true
  enableConntrackKill := true
  enableTcpRst := true
  enableQos := true
  enableBandwidthControl := true
  qosRate := "1kbit"
  qosDefaultRate := "1000mbit"
  qosInterfaces := ["br-lan"]
  lanInterface := ""
  wanInterface := ""
  managementIps := ["192.168.1.1"]
  dohReputationIps := []

def blockedDevice : Target :=
  ⟨"dev-1", .BLOCK, some "192.168.1.50", some "2001:db8::50", some "aa:bb:cc:dd:ee:ff", false,
    false, []⟩

def nobodyBlocked : SyncArgs := ⟨[], "10.0.0.1", "2001:db8::53", true, false, false⟩

def oneBlocked : SyncArgs := ⟨[blockedDevice], "10.0.0.1", "2001:db8::53", true, false, false⟩

end GuardTime
