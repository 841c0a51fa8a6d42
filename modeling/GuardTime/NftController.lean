import GuardTime.NftRuleset

namespace GuardTime

/-- `text.slice(0, length)`, device ids being made of characters of one code unit. -/
def slice (length : Nat) (text : String) : String := String.ofList (text.toList.take length)

def quoted (text : String) : String := "\"" ++ text ++ "\""

namespace Nftables

def TABLE : NftTableKey := ⟨.inet, "guardtime"⟩
def FORWARD_CHAIN : NftChainKey := ⟨TABLE, "block"⟩
def NAT_TABLE : NftTableKey := ⟨.ip, "guardtime_nat"⟩
def NAT_CHAIN : NftChainKey := ⟨NAT_TABLE, "dns_redirect"⟩
def NAT_TABLE_V6 : NftTableKey := ⟨.ip6, "guardtime_nat6"⟩
def NAT_CHAIN_V6 : NftChainKey := ⟨NAT_TABLE_V6, "dns_redirect"⟩

def dropRule (exprs : List NftMatch) (comment : String) : Step NftCommand :=
  .run (.addRule FORWARD_CHAIN ⟨exprs, true, .drop, some (quoted comment)⟩) false

/-- The IPv6 address the rules of a target may use. -/
def ipv6Of (config : Config) (target : Target) : Option String :=
  if config.enableIpv6 then truthy target.ipv6Address else none

def ensureTable : List (Step NftCommand) := [
  .run (.addTable TABLE) true,
  .run (.addChain FORWARD_CHAIN ⟨"filter", "forward", 0, some "accept"⟩) true]

def flushChain : List (Step NftCommand) := [.run (.flushChain FORWARD_CHAIN) false]

def addBlockRules (config : Config) (target : Target) : List (Step NftCommand) :=
  let comment := slice 63 ("guardtime-" ++ target.deviceId)
  ((truthy target.ipAddress).toList.map fun ip => dropRule [.ipSaddr ip] (comment ++ "-ip")) ++
  ((ipv6Of config target).toList.map fun ip => dropRule [.ip6Saddr ip] (comment ++ "-ip6")) ++
  ((truthy target.macAddress).toList.map fun mac => dropRule [.etherSaddr mac] (comment ++ "-mac"))

def addVpnBlockRules (config : Config) (target : Target) : List (Step NftCommand) :=
  if (truthy target.ipAddress).isNone && (truthy target.ipv6Address).isNone then [] else
  let comment := slice 50 ("guardtime-vpn-" ++ target.deviceId)
  (VPN_PORT_SIGNATURES.flatMap fun sig =>
    ((truthy target.ipAddress).toList.map fun ip =>
      dropRule [.ipSaddr ip, .dport sig.protocol sig.port]
        (comment ++ "-port-" ++ toString sig.port)) ++
    ((ipv6Of config target).toList.map fun ip =>
      dropRule [.ip6Saddr ip, .dport sig.protocol sig.port]
        (comment ++ "-port-" ++ toString sig.port ++ "-v6"))) ++
  ((truthy target.ipAddress).toList.flatMap fun ip =>
    VPN_IP_RANGES.map fun range => dropRule [.ipSaddr ip, .ipDaddr range.cidr] (comment ++ "-ip"))

def addQuicBlockRule (config : Config) (target : Target) : List (Step NftCommand) :=
  let comment := slice 63 ("guardtime-quic-" ++ target.deviceId)
  ((truthy target.ipAddress).toList.map fun ip =>
    dropRule [.ipSaddr ip, .dport .udp 443] comment) ++
  ((ipv6Of config target).toList.map fun ip =>
    dropRule [.ip6Saddr ip, .dport .udp 443] (comment ++ "-v6"))

def addDohDotBlockRules (config : Config) : List (Step NftCommand) :=
  (DOT_PORTS.flatMap fun port => [
    dropRule [.dport .tcp port] "guardtime-dot-tcp",
    dropRule [.dport .udp port] "guardtime-dot-udp"]) ++
  ((dohProviders config).map fun provider =>
    dropRule [.ipDaddr provider.ip, .dport .tcp 443] ("guardtime-doh-" ++ provider.name))

/-- Shared body of `ensureDnsRedirect` and `ensureDnsRedirectV6`, which differ in the table. -/
def dnsRedirectSteps (chain : NftChainKey) (dnsRedirectIp : String) : List (Step NftCommand) := [
  .run (.addTable chain.table) true,
  .run (.addChain chain ⟨"nat", "prerouting", -100, none⟩) true,
  .run (.flushChain chain) false,
  .run (.addRule chain ⟨[.dport .udp 53], false, .dnat dnsRedirectIp, none⟩) false,
  .run (.addRule chain ⟨[.dport .tcp 53], false, .dnat dnsRedirectIp, none⟩) false]

def ensureDnsRedirect (dnsRedirectIp : String) : List (Step NftCommand) :=
  dnsRedirectSteps NAT_CHAIN dnsRedirectIp

def ensureDnsRedirectV6 (dnsRedirectIpv6 : String) : List (Step NftCommand) :=
  dnsRedirectSteps NAT_CHAIN_V6 dnsRedirectIpv6

/-- The body of the loop of `sync` over the targets. -/
def targetSteps (config : Config) (enableQuicBlockGlobal : Bool) (target : Target) :
    List (Step NftCommand) :=
  (if target.action = .BLOCK then addBlockRules config target else []) ++
  (if target.vpnBlock then addVpnBlockRules config target else []) ++
  (if enableQuicBlockGlobal || target.quicBlock then addQuicBlockRule config target else [])

/-- The `try` block of `sync`. -/
def mainPass (config : Config) (args : SyncArgs) : List (Step NftCommand) :=
  ensureTable ++ flushChain ++
  args.targets.flatMap (targetSteps config args.enableQuicBlockGlobal) ++
  (if args.enableDohBlock then addDohDotBlockRules config else []) ++
  (if args.enableDnsRedirect then ensureDnsRedirect args.dnsRedirectIp else [])

/-- The separate IPv6 DNS redirect after the `try` block. -/
def redirectV6Pass (config : Config) (args : SyncArgs) : List (Step NftCommand) :=
  if config.enableIpv6 && args.enableDnsRedirect && v6ResolverIp config args ≠ "" then
    ensureDnsRedirectV6 (v6ResolverIp config args)
  else []

/-- How a call of `sync` ends; it returns in the first two cases. -/
inductive Outcome where
  | skipped
  | applied (v6RedirectFailed : Bool)
  | threw (rollback : Rollback)
deriving DecidableEq

def Outcome.returned : Outcome → Bool
  | .threw _ => false
  | _ => true

structure Call where
  outcome : Outcome
  lastSyncSignature : Option SyncSignature
  world : World NftCommand NftRuleset

def snapshotRuleset (respond : Respond NftCommand NftRuleset) (w : World NftCommand NftRuleset) :
    Option NftRuleset × World NftCommand NftRuleset :=
  let r := issue respond .listRuleset w
  (if r.1 then some r.2.kernel else none, r.2)

def restoreRuleset (listing : NftRuleset) : List (Step NftCommand) :=
  [.run .writeFile false, .run (.loadFile listing) false]

def sync (config : Config) (respond : Respond NftCommand NftRuleset) (args : SyncArgs)
    (lastSyncSignature : Option SyncSignature) (w : World NftCommand NftRuleset) : Call :=
  let signature := buildFirewallSyncSignature args config.enableIpv6
  if lastSyncSignature = some signature then ⟨.skipped, lastSyncSignature, w⟩
  else
    let snapshot := snapshotRuleset respond w
    let main := runUnlessDry config.dryRun respond (mainPass config args) snapshot.2
    if main.1 then
      let v6 := runUnlessDry config.dryRun respond (redirectV6Pass config args) main.2
      if v6.1 then ⟨.applied false, some signature, v6.2⟩
      else ⟨.applied true, lastSyncSignature, v6.2⟩
    else
      let undo := rollback respond restoreRuleset snapshot.1 main.2
      ⟨.threw undo.1, lastSyncSignature, undo.2⟩

end Nftables

end GuardTime
