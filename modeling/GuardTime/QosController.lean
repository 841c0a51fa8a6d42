import GuardTime.ConnectionKiller
import GuardTime.TextLines

namespace GuardTime

/-- For a key that is not empty, `hash` is a signed number of 32 bits after every round. -/
def stableId (key : String) (min max : Nat) : Nat :=
  let hash := (charCodes key).foldl
    (fun hash code => (hash ^^^ BitVec.ofNat 32 code) * 16777619#32) 2166136261#32
  min + hash.toInt.natAbs % (max - min + 1)

/-- FNV-1a of a text, as a signed number of 32 bits. -/
def fnv1a (text : String) : Int :=
  ((charCodes text).foldl (fun hash code => (hash ^^^ BitVec.ofNat 32 code) * 16777619#32)
    2166136261#32).toInt

def domainsForCategory (category : String) : List String :=
  if category = "GAMING" then
    ["steampowered.com", "epicgames.com", "xboxlive.com", "playstation.net", "roblox.com"]
  else if category = "STREAMING" then ["youtube.com", "googlevideo.com", "netflix.com", "twitch.tv"]
  else if category = "SOCIAL" then ["instagram.com", "tiktok.com", "snapchat.com", "facebook.com"]
  else []

/-- The addresses of some domains, by those each resolves to or is cached at. -/
def resolveAll (resolve4 : String → List String) (domains : List String) : List String :=
  (domains.flatMap resolve4).eraseDups

inductive TcMatch where
  | src (address : String)
  | dst (address : String)
deriving DecidableEq

def TcMatch.address : TcMatch → String
  | .src address => address
  | .dst address => address

/-- A filter matches the device on one side, and what it talks to on the other if a category
names that. -/
inductive TcCommand where
  | qdiscReplace (iface handle : String) (default : Nat)
  | qdiscDel (iface : String)
  | classReplace (iface parent classid rate : String) (ceil : Option String)
  | filterDel (iface protocol parent : String)
  | filterAdd (iface protocol parent : String) (prio : Nat) (device : TcMatch)
      (peer : Option TcMatch) (flowid : String)
deriving DecidableEq

def TcCommand.targets : TcCommand → List String
  | .filterAdd _ _ _ _ device _ _ => [device.address]
  | _ => []

namespace Qos

def ROOT_HANDLE : String := "1:"
def ROOT_CLASS : String := "1:1"
def THROTTLE_CLASS : String := "1:10"
def DEFAULT_CLASS : String := "1:30"

def ensureQdisc (config : Config) (iface : String) : List (Step TcCommand) := [
  .run (.qdiscReplace iface ROOT_HANDLE 30) false,
  .run (.classReplace iface ROOT_HANDLE ROOT_CLASS config.qosDefaultRate none) false,
  .run (.classReplace iface ROOT_CLASS THROTTLE_CLASS config.qosRate (some config.qosRate)) false,
  .run (.classReplace iface ROOT_CLASS DEFAULT_CLASS config.qosDefaultRate none) false]

def clearFilters (config : Config) (iface : String) : List (Step TcCommand) :=
  .run (.filterDel iface "ip" ROOT_HANDLE) true ::
  (if config.enableIpv6 then [.run (.filterDel iface "ipv6" ROOT_HANDLE) true] else [])

def addFilter (iface protocol : String) (prio : Nat) (device : TcMatch) (peer : Option TcMatch)
    (flowid : String) : Step TcCommand :=
  .run (.filterAdd iface protocol ROOT_HANDLE prio device peer flowid) false

def addThrottleFilters (iface ipAddress : String) : List (Step TcCommand) := [
  addFilter iface "ip" 10 (.src ipAddress) none THROTTLE_CLASS,
  addFilter iface "ip" 11 (.dst ipAddress) none THROTTLE_CLASS]

def addThrottleFiltersV6 (iface ipv6Address : String) : List (Step TcCommand) := [
  addFilter iface "ipv6" 12 (.src ipv6Address) none THROTTLE_CLASS,
  addFilter iface "ipv6" 13 (.dst ipv6Address) none THROTTLE_CLASS]

def downloadInterfaces (config : Config) : List String :=
  if config.lanInterface ≠ "" then [config.lanInterface] else config.qosInterfaces

def uploadInterfaces (config : Config) : List String :=
  if config.wanInterface ≠ "" then [config.wanInterface] else config.qosInterfaces

def allInterfaces (config : Config) : List String :=
  (config.qosInterfaces ++ downloadInterfaces config ++ uploadInterfaces config).eraseDups

def throttled (targets : List Target) : List Target :=
  targets.filter fun target => target.action = .THROTTLE &&
    ((truthy target.ipAddress).isSome || (truthy target.ipv6Address).isSome)

/-- The body of the inner loop of `sync`. -/
def throttleSteps (config : Config) (iface : String) (target : Target) : List (Step TcCommand) :=
  (truthy target.ipAddress).toList.flatMap (addThrottleFilters iface) ++
  (if config.enableIpv6 then
    (truthy target.ipv6Address).toList.flatMap (addThrottleFiltersV6 iface) else [])

/-- `sync` up to the bandwidth limits. -/
def throttlePass (config : Config) (targets : List Target) : List (Step TcCommand) :=
  ((allInterfaces config).flatMap fun iface => ensureQdisc config iface ++ clearFilters config iface) ++
  config.qosInterfaces.flatMap fun iface => (throttled targets).flatMap (throttleSteps config iface)

def bandwidthClassId (deviceId : String) (category : Option String) (direction : String) : String :=
  let key := match truthy category with
    | some category => deviceId ++ ":" ++ category ++ ":" ++ direction
    | none => deviceId ++ ":" ++ direction
  "1:" ++ String.ofList (Nat.toDigits 16 (stableId key 0x100 0x7fff))

structure DirectionalLimit where
  interfaces : List String
  classId : String
  rateKbps : Nat
  matchesOf : List (TcMatch × Option TcMatch)

/-- The matches of a device, one for each address of the category if there is one. -/
def matchesFor (device : TcMatch) (peer : String → TcMatch) :
    Option (List String) → List (TcMatch × Option TcMatch)
  | none => [(device, none)]
  | some categoryIps => categoryIps.map fun ip => (device, some (peer ip))

/-- The calls of `applyDirectionalLimit` for one limit of a target at `ipAddress`. -/
def directionalLimits (config : Config) (resolve4 : String → List String) (target : Target)
    (ipAddress : String) (limit : BandwidthLimit) : List DirectionalLimit :=
  let categoryIps := (truthy limit.category).map fun category =>
    resolveAll resolve4 (domainsForCategory category)
  ((limit.downloadKbps.filter (· ≠ 0)).toList.map fun rate =>
    ⟨downloadInterfaces config, bandwidthClassId target.deviceId limit.category "dl", rate,
      matchesFor (.dst ipAddress) .src categoryIps⟩) ++
  ((limit.uploadKbps.filter (· ≠ 0)).toList.map fun rate =>
    ⟨uploadInterfaces config, bandwidthClassId target.deviceId limit.category "ul", rate,
      matchesFor (.src ipAddress) .dst categoryIps⟩)

def targetLimits (config : Config) (resolve4 : String → List String) (target : Target) :
    List DirectionalLimit :=
  (truthy target.ipAddress).toList.flatMap fun ip =>
    target.bandwidthLimits.flatMap (directionalLimits config resolve4 target ip)

/-- The `try` block of `applyDirectionalLimit`. -/
def limitSteps (limit : DirectionalLimit) (iface : String) : List (Step TcCommand) :=
  .run (.classReplace iface ROOT_CLASS limit.classId (toString limit.rateKbps ++ "kbit")
    (some (toString limit.rateKbps ++ "kbit"))) false ::
  limit.matchesOf.map fun m => addFilter iface "ip" 20 m.1 m.2 limit.classId

section Sync

variable {K : Type}

/-- A limit that fails on an interface takes the interface's qdisc away. -/
def limitInterface (respond : Respond TcCommand K) (limit : DirectionalLimit)
    (w : World TcCommand K) (iface : String) : World TcCommand K :=
  let r := runScript respond (limitSteps limit iface) w
  if r.1 then r.2 else (issue respond (.qdiscDel iface) r.2).2

def applyDirectionalLimit (respond : Respond TcCommand K) (w : World TcCommand K)
    (limit : DirectionalLimit) : World TcCommand K :=
  limit.interfaces.foldl (limitInterface respond limit) w

def syncBandwidthLimits (config : Config) (respond : Respond TcCommand K)
    (resolve4 : String → List String) (targets : List Target) (w : World TcCommand K) :
    World TcCommand K :=
  (targets.flatMap (targetLimits config resolve4)).foldl (applyDirectionalLimit respond) w

/-- Whether `sync` returned, and what it did; in dry run it issues nothing. -/
def sync (config : Config) (respond : Respond TcCommand K) (resolve4 : String → List String)
    (targets : List Target) (w : World TcCommand K) : Bool × World TcCommand K :=
  if !config.enableQos || config.qosInterfaces.isEmpty || config.dryRun then (true, w)
  else
    let r := runScript respond (throttlePass config targets) w
    if r.1 && config.enableBandwidthControl then
      (true, syncBandwidthLimits config respond resolve4 targets r.2)
    else r

end Sync

end Qos

end GuardTime
