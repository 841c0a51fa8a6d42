import GuardTime.FirewallTargets

namespace GuardTime

/-- What a cycle reads: the detected own address, the discovered devices, the policy response and
the pending router commands. -/
structure CycleInput where
  detection : Option String
  discovered : List Device
  policies : Except String (List PolicyDevice)
  polled : Except String (List Router.RouterCommand × Option Router.RouterConnection)

structure CycleOutcome (σ K : Type) where
  flows : String → List Flow
  nft : Respond NftCommand NftRuleset
  ipt : Respond IptCommand IptKernel
  tc : Respond TcCommand K
  resolve4 : String → List String
  vpnDetectorReturns : Bool
  dohDetectorReturns : Bool
  router : Router.Environment σ
  transport : Router.Transport σ

/-- What the agent keeps from one cycle to the next, with what its commands work on. -/
structure Agent (σ K : Type) where
  guard : ManagementGuard
  previousStates : ConnectionKiller.StateMap
  nftSignature : Option SyncSignature
  iptSignatures : Bool → Option SyncSignature
  nftables : NftRuleset
  iptables : IptKernel
  tc : K
  router : σ

structure CycleCommands where
  killer : List KillCommand
  nft : List NftCommand
  ipt : List IptCommand
  tc : List TcCommand
  drained : List Router.RouterCommand

structure Cycle (σ K : Type) where
  returned : Bool
  commands : CycleCommands
  agent : Agent σ K

section Cycle

variable {σ K : Type}

def syncArgs (config : Config) (targets : List Target) : SyncArgs where
  targets := targets
  dnsRedirectIp := config.dnsRedirectIp
  dnsRedirectIpv6 := config.dnsRedirectIpv6
  enableDnsRedirect := config.enableDnsRedirect
  enableQuicBlockGlobal := config.enableQuicBlockGlobal
  enableDohBlock := config.enableDohBlock

/-- `firewall.sync` of the controller that `createFirewallController` chose. -/
def firewallSync (config : Config) (outcome : CycleOutcome σ K) (agent : Agent σ K)
    (args : SyncArgs) : Cycle σ K :=
  if config.firewallBackend = "nftables" then
    let call := Nftables.sync config outcome.nft args agent.nftSignature ⟨agent.nftables, []⟩
    ⟨call.outcome.returned, ⟨[], call.world.issued, [], [], []⟩,
      { agent with nftSignature := call.lastSyncSignature, nftables := call.world.kernel }⟩
  else
    let call := Iptables.sync config outcome.ipt args agent.iptSignatures ⟨agent.iptables, []⟩
    let signatures := fun ipv6 =>
      (call.family ipv6).elim (agent.iptSignatures ipv6) Iptables.FamilyCall.lastSyncSignature
    ⟨call.v4.outcome.returned, ⟨[], [], call.world.issued, [], []⟩,
      { agent with iptSignatures := signatures, iptables := call.world.kernel }⟩

/-- `routerCommandExecutor.sync`, whose rejection is caught: the commands drained. -/
def routerSync (outcome : CycleOutcome σ K) (input : CycleInput) (s : σ) :
    List Router.RouterCommand × σ :=
  match Router.sync outcome.router outcome.transport input.polled s with
  | (.ok log, s) => (log.map Router.Handled.command, s)
  | (.error _, s) => ([], s)

def enforcedTargets (guard : ManagementGuard) (discovered : List Device)
    (policies : List PolicyDevice) : List Target :=
  guard.filterTargets (policies.map fun policy => resolvePolicyTarget policy discovered)

/-- The part of `syncOnce` after the targets are filtered. -/
def enforce (config : Config) (input : CycleInput) (outcome : CycleOutcome σ K) (agent : Agent σ K)
    (targets : List Target) : Cycle σ K :=
  let killer := ConnectionKiller.sync config agent.guard outcome.flows agent.previousStates targets
  let firewall := firewallSync config outcome
    { agent with previousStates := killer.2 } (syncArgs config targets)
  let qos := if firewall.returned then
      Qos.sync config outcome.tc outcome.resolve4 targets ⟨agent.tc, []⟩
    else (false, ⟨agent.tc, []⟩)
  let returned := qos.1 &&
    (!config.enableVpnBlock || outcome.vpnDetectorReturns) &&
    (!config.enableDohBlock || outcome.dohDetectorReturns)
  let router := if returned then routerSync outcome input agent.router else ([], agent.router)
  ⟨returned, ⟨killer.1, firewall.commands.nft, firewall.commands.ipt, qos.2.issued, router.1⟩,
    { firewall.agent with tc := qos.2.kernel, router := router.2 }⟩

/-- `syncOnce`; it throws when the policies, the firewall, the shaping or a detector do. -/
def syncOnce (config : Config) (input : CycleInput) (outcome : CycleOutcome σ K) (agent : Agent σ K) :
    Cycle σ K :=
  let agent := { agent with guard := agent.guard.refresh input.detection }
  match input.policies with
  | .error _ => ⟨false, ⟨[], [], [], [], []⟩, agent⟩
  | .ok policies =>
    enforce config input outcome agent (enforcedTargets agent.guard input.discovered policies)

end Cycle

end GuardTime
