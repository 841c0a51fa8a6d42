import GuardTime.IptTables

namespace GuardTime

namespace Iptables

def FILTER_CHAIN (ipv6 : Bool) : IptChainKey := ⟨ipv6, .filter, "GUARDTIME_BLOCK"⟩
def DNS_CHAIN (ipv6 : Bool) : IptChainKey := ⟨ipv6, .nat, "GUARDTIME_DNS"⟩
def DOH_CHAIN (ipv6 : Bool) : IptChainKey := ⟨ipv6, .filter, "GUARDTIME_DOH"⟩
def FORWARD (ipv6 : Bool) : IptChainKey := ⟨ipv6, .filter, "FORWARD"⟩
def PREROUTING (ipv6 : Bool) : IptChainKey := ⟨ipv6, .nat, "PREROUTING"⟩

/-- `-A` of a rule that drops. -/
def dropRule (key : IptChainKey) (exprs : List IptMatch) (comment : Option String) :
    Step IptCommand := .run (.append key ⟨exprs, comment, .drop⟩) false

/-- Both `ensureRule` and `ensureNatRule`. -/
def ensureRule (key : IptChainKey) (rule : IptRule) : Step IptCommand :=
  .ensure (.check key rule) (.insertFirst key rule)

def addressOf (ipv6 : Bool) (target : Target) : Option String :=
  truthy (if ipv6 then target.ipv6Address else target.ipAddress)

def ensureFilterChain (ipv6 : Bool) : List (Step IptCommand) := [
  .run (.newChain (FILTER_CHAIN ipv6)) true,
  ensureRule (FORWARD ipv6) ⟨[], none, .jump (FILTER_CHAIN ipv6).chain⟩]

def flushFilterChain (ipv6 : Bool) : List (Step IptCommand) := [.run (.flush (FILTER_CHAIN ipv6)) false]

def addBlockRules (ipv6 : Bool) (target : Target) : List (Step IptCommand) :=
  let comment := "guardtime:" ++ target.deviceId
  ((addressOf ipv6 target).toList.map fun address =>
    dropRule (FILTER_CHAIN ipv6) [.source address] (some (comment ++ ":ip"))) ++
  ((truthy target.macAddress).toList.map fun mac =>
    dropRule (FILTER_CHAIN ipv6) [.macSource mac] (some (comment ++ ":mac")))

def addVpnBlockRules (ipv6 : Bool) (target : Target) : List (Step IptCommand) :=
  let comment := "guardtime-vpn:" ++ target.deviceId
  (addressOf ipv6 target).toList.flatMap fun address =>
    (VPN_PORT_SIGNATURES.map fun sig =>
      dropRule (FILTER_CHAIN ipv6) [.source address, .dport sig.protocol sig.port]
        (some (comment ++ ":port:" ++ toString sig.port))) ++
    (if ipv6 then [] else
      VPN_IP_RANGES.map fun range =>
        dropRule (FILTER_CHAIN ipv6) [.source address, .destination range.cidr]
          (some (comment ++ ":ip")))

def addQuicBlockRule (ipv6 : Bool) (target : Target) : List (Step IptCommand) :=
  (addressOf ipv6 target).toList.map fun address =>
    dropRule (FILTER_CHAIN ipv6) [.source address, .dport .udp 443]
      (some ("guardtime-quic:" ++ target.deviceId))

/-- The rules `ensureDohDotBlock` appends. -/
def dohDotRules (config : Config) (ipv6 : Bool) : List (Step IptCommand) :=
  (DOT_PORTS.flatMap fun port => [
    dropRule (DOH_CHAIN ipv6) [.dport .tcp port] none,
    dropRule (DOH_CHAIN ipv6) [.dport .udp port] none]) ++
  (if ipv6 then [] else
    (dohProviders config).map fun provider =>
      dropRule (DOH_CHAIN ipv6) [.destination provider.ip, .dport .tcp 443]
        (some ("guardtime-doh:" ++ provider.name)))

def ensureDohDotBlock (config : Config) (ipv6 : Bool) : List (Step IptCommand) :=
  .run (.newChain (DOH_CHAIN ipv6)) true ::
  .run (.flush (DOH_CHAIN ipv6)) false ::
  ensureRule (FORWARD ipv6) ⟨[], none, .jump (DOH_CHAIN ipv6).chain⟩ ::
  dohDotRules config ipv6

def redirectDestination (dnsRedirectIp : String) (ipv6 : Bool) : String :=
  if ipv6 then "[" ++ dnsRedirectIp ++ "]:53" else dnsRedirectIp ++ ":53"

def ensureDnsRedirect (dnsRedirectIp : String) (ipv6 : Bool) : List (Step IptCommand) :=
  if ipv6 && dnsRedirectIp = "" then [] else [
    .run (.newChain (DNS_CHAIN ipv6)) true,
    .run (.flush (DNS_CHAIN ipv6)) false,
    ensureRule (PREROUTING ipv6) ⟨[.dport .udp 53], none, .jump (DNS_CHAIN ipv6).chain⟩,
    ensureRule (PREROUTING ipv6) ⟨[.dport .tcp 53], none, .jump (DNS_CHAIN ipv6).chain⟩,
    .run (.append (DNS_CHAIN ipv6)
      ⟨[.dport .udp 53], none, .dnat (redirectDestination dnsRedirectIp ipv6)⟩) false,
    .run (.append (DNS_CHAIN ipv6)
      ⟨[.dport .tcp 53], none, .dnat (redirectDestination dnsRedirectIp ipv6)⟩) false]

/-- The body of the loop of `syncFamily` over the targets. -/
def targetSteps (ipv6 enableQuicBlockGlobal : Bool) (target : Target) : List (Step IptCommand) :=
  (if target.action = .BLOCK then addBlockRules ipv6 target else []) ++
  (if target.vpnBlock then addVpnBlockRules ipv6 target else []) ++
  (if enableQuicBlockGlobal || target.quicBlock then addQuicBlockRule ipv6 target else [])

/-- The `try` block of `syncFamily`. -/
def mainPass (config : Config) (ipv6 : Bool) (args : SyncArgs) : List (Step IptCommand) :=
  ensureFilterChain ipv6 ++ flushFilterChain ipv6 ++
  args.targets.flatMap (targetSteps ipv6 args.enableQuicBlockGlobal) ++
  (if args.enableDohBlock then ensureDohDotBlock config ipv6 else []) ++
  (if args.enableDnsRedirect then ensureDnsRedirect args.dnsRedirectIp ipv6 else [])

inductive Outcome where
  | skipped
  | applied
  | threw (rollback : Rollback)
deriving DecidableEq

def Outcome.returned : Outcome → Bool
  | .threw _ => false
  | _ => true

structure FamilyCall where
  outcome : Outcome
  lastSyncSignature : Option SyncSignature
  world : World IptCommand IptKernel

def snapshotRuleset (respond : Respond IptCommand IptKernel) (ipv6 : Bool)
    (w : World IptCommand IptKernel) : Option IptTables × World IptCommand IptKernel :=
  let r := issue respond (.save ipv6) w
  (if r.1 then some (r.2.kernel ipv6) else none, r.2)

def restoreRuleset (ipv6 : Bool) (snapshot : IptTables) : List (Step IptCommand) :=
  [.run .writeFile false, .run (.restore ipv6 snapshot) false]

def syncFamily (config : Config) (respond : Respond IptCommand IptKernel) (ipv6 : Bool)
    (args : SyncArgs) (lastSyncSignature : Option SyncSignature)
    (w : World IptCommand IptKernel) : FamilyCall :=
  let signature := buildFirewallSyncSignature args ipv6
  if lastSyncSignature = some signature then ⟨.skipped, lastSyncSignature, w⟩
  else
    let snapshot := snapshotRuleset respond ipv6 w
    let main := runUnlessDry config.dryRun respond (mainPass config ipv6 args) snapshot.2
    if main.1 then ⟨.applied, some signature, main.2⟩
    else
      let undo := rollback respond (restoreRuleset ipv6) snapshot.1 main.2
      ⟨.threw undo.1, lastSyncSignature, undo.2⟩

/-- The arguments `sync` passes on to the pass of a family. -/
def familyArgs (config : Config) (args : SyncArgs) : Bool → SyncArgs
  | false => { args with dnsRedirectIpv6 := "" }
  | true => { args with
      dnsRedirectIp := v6ResolverIp config args
      dnsRedirectIpv6 := ""
      enableDnsRedirect := args.enableDnsRedirect && v6ResolverIp config args ≠ "" }

/-- What `sync` did for each family; it throws when the IPv4 pass does. -/
structure Call where
  v4 : FamilyCall
  v6 : Option FamilyCall

def sync (config : Config) (respond : Respond IptCommand IptKernel) (args : SyncArgs)
    (lastSyncSignatures : Bool → Option SyncSignature) (w : World IptCommand IptKernel) : Call :=
  let v4 := syncFamily config respond false (familyArgs config args false)
    (lastSyncSignatures false) w
  ⟨v4, if v4.outcome.returned && config.enableIpv6 then
    some (syncFamily config respond true (familyArgs config args true)
      (lastSyncSignatures true) v4.world)
  else none⟩

def Call.family (call : Call) : Bool → Option FamilyCall
  | false => some call.v4
  | true => call.v6

def Call.world (call : Call) : World IptCommand IptKernel := (call.v6.getD call.v4).world

end Iptables

end GuardTime
