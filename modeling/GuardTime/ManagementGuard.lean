import GuardTime.DotEnv
import GuardTime.RouterAcks

namespace GuardTime

structure Device where
  macAddress : String
  ipAddress : Option String
  ipv6Address : Option String

structure PolicyDevice where
  deviceId : String
  action : Action
  ipAddress : Option String
  dnsSourceIp : Option String
  ipv6Address : Option String
  macAddress : Option String
  vpnBlock : Option Bool
  quicBlock : Option Bool
  bandwidthLimits : Option (List BandwidthLimit)

def normalizeMac (value : Option String) : Option String := (truthy value).map String.toLower

def resolvePolicyTarget (policy : PolicyDevice) (discoveredDevices : List Device) : Target :=
  let normalizedMac := normalizeMac policy.macAddress
  let byMac := normalizedMac.bind fun mac => discoveredDevices.find? (·.macAddress = mac)
  { deviceId := policy.deviceId
    action := policy.action
    ipAddress := (truthy (byMac.bind Device.ipAddress)).or
      ((truthy policy.ipAddress).or (truthy policy.dnsSourceIp))
    ipv6Address := (truthy (byMac.bind Device.ipv6Address)).or (truthy policy.ipv6Address)
    macAddress := normalizedMac.or (truthy (byMac.map Device.macAddress))
    vpnBlock := policy.vpnBlock.getD false
    quicBlock := policy.quicBlock.getD false
    bandwidthLimits := policy.bandwidthLimits.getD [] }

structure ManagementGuard where
  staticIps : List String
  detectedIp : Option String

namespace ManagementGuard

/-- The allowlist of the configuration. -/
def configuredIps (config : Config) : List String :=
  (config.managementIps.map fun ip => String.ofList (DotEnv.trim ip.toList)).filter (· ≠ "")

/-- `refresh`, with the address `SELF_IP_RE` finds; a failed detection keeps the last one. -/
def refresh (guard : ManagementGuard) (detection : Option String) : ManagementGuard :=
  { guard with detectedIp := detection.or guard.detectedIp }

def isProtectedIp (guard : ManagementGuard) (ipAddress : Option String) : Bool :=
  match truthy ipAddress with
  | none => false
  | some ip => ip ∈ guard.staticIps || guard.detectedIp = some ip

def filterTargets (guard : ManagementGuard) (targets : List Target) : List Target :=
  targets.filter fun target => !guard.isProtectedIp target.ipAddress

/-- An address of the gateway's management path, up to letter case. -/
def Protects (guard : ManagementGuard) (address : String) : Prop :=
  ∃ ip ∈ guard.staticIps ++ guard.detectedIp.toList, ip.toLower = address.toLower

instance (guard : ManagementGuard) (address : String) : Decidable (guard.Protects address) :=
  inferInstanceAs (Decidable (∃ ip ∈ _, _))

@[simp] theorem filterTargets_filterTargets (guard : ManagementGuard) (targets : List Target) :
    guard.filterTargets (guard.filterTargets targets) = guard.filterTargets targets := by
  simp [filterTargets, List.filter_filter]

theorem filterTargets_filter (guard : ManagementGuard) (keep : Target → Bool) (targets : List Target) :
    guard.filterTargets ((guard.filterTargets targets).filter keep) =
      (guard.filterTargets targets).filter keep := by
  simp only [filterTargets, List.filter_filter]
  congr 1
  funext target
  cases guard.isProtectedIp target.ipAddress <;> simp

end ManagementGuard

end GuardTime
