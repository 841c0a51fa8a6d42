import GuardTime.LinksysFrame

namespace GuardTime

def eraseVpnBlock (policy : PolicyDevice) : PolicyDevice := { policy with vpnBlock := none }

def eraseBandwidthLimits (policy : PolicyDevice) : PolicyDevice :=
  { policy with bandwidthLimits := none }

section Commands

variable {σ K : Type}

/-- The commands of a cycle on a policy response. -/
def commandsOn (config : Config) (input : CycleInput) (outcome : CycleOutcome σ K)
    (agent : Agent σ K) (policies : List PolicyDevice) : CycleCommands :=
  (syncOnce config { input with policies := .ok policies } outcome agent).commands

end Commands

/-- With VPN blocking switched off, responses that differ only in it get the same firewall
commands, whatever the agent holds and however its commands end. -/
def VpnSwitch (config : Config) (input : CycleInput) (guard : ManagementGuard)
    (a b : List PolicyDevice) : Prop :=
  config.enableVpnBlock = false → a.map eraseVpnBlock = b.map eraseVpnBlock →
    ∀ (σ K : Type) (outcome : CycleOutcome σ K) (agent : Agent σ K), agent.guard = guard →
      (commandsOn config input outcome agent a).nft = (commandsOn config input outcome agent b).nft ∧
      (commandsOn config input outcome agent a).ipt = (commandsOn config input outcome agent b).ipt

/-- With bandwidth control switched off, responses that differ only in the limits get the same
commands of every kind. -/
def BandwidthSwitch (config : Config) (input : CycleInput) (a b : List PolicyDevice) : Prop :=
  config.enableBandwidthControl = false →
    a.map eraseBandwidthLimits = b.map eraseBandwidthLimits →
    ∀ (σ K : Type) (outcome : CycleOutcome σ K) (agent : Agent σ K),
      commandsOn config input outcome agent a = commandsOn config input outcome agent b

/-- A device whose VPN flag differs passes the guard. -/
def VpnReaches (guard : ManagementGuard) (discovered : List Device) (a b : List PolicyDevice) : Prop :=
  ∃ p ∈ a.zip b, p.1.vpnBlock.getD false ≠ p.2.vpnBlock.getD false ∧
    guard.isProtectedIp (resolvePolicyTarget p.1 discovered).ipAddress = false

theorem zip_of_map_eq {α β : Type} {f : α → β} {xs ys : List α} (h : xs.map f = ys.map f) :
    (xs.zip ys).map Prod.fst = xs ∧ (xs.zip ys).map Prod.snd = ys ∧
      ∀ p ∈ xs.zip ys, f p.1 = f p.2 := by
  have hlength : xs.length = ys.length := by simpa using congrArg List.length h
  refine ⟨List.map_fst_zip hlength.le, List.map_snd_zip hlength.ge, ?_⟩
  intro p hp
  obtain ⟨i, hi, hget⟩ := List.mem_iff_getElem.mp hp
  rw [List.getElem_zip] at hget
  rw [← hget]
  have hi' : i < xs.length ∧ i < ys.length := by simpa using hi
  have hat := congrArg (fun l => l[i]?) h
  simpa [List.getElem?_eq_getElem hi'.1, List.getElem?_eq_getElem hi'.2] using hat

def Target.forgetVpn (target : Target) : Target := { target with vpnBlock := false }

theorem resolve_eraseVpnBlock {p q : PolicyDevice} (h : eraseVpnBlock p = eraseVpnBlock q)
    (discovered : List Device) :
    (resolvePolicyTarget p discovered).forgetVpn = (resolvePolicyTarget q discovered).forgetVpn := by
  have herase : ∀ r : PolicyDevice, (resolvePolicyTarget r discovered).forgetVpn =
      resolvePolicyTarget (eraseVpnBlock r) discovered := fun _ => rfl
  rw [herase, herase, h]

theorem resolve_ipAddress {p q : PolicyDevice} (h : eraseVpnBlock p = eraseVpnBlock q)
    (discovered : List Device) :
    (resolvePolicyTarget p discovered).ipAddress = (resolvePolicyTarget q discovered).ipAddress := by
  have hip := congrArg Target.ipAddress (resolve_eraseVpnBlock h discovered)
  exact hip

theorem resolve_deviceId {p q : PolicyDevice} (h : eraseVpnBlock p = eraseVpnBlock q)
    (discovered : List Device) :
    (resolvePolicyTarget p discovered).deviceId = (resolvePolicyTarget q discovered).deviceId := by
  have hid := congrArg Target.deviceId (resolve_eraseVpnBlock h discovered)
  exact hid

theorem Target.ext_vpn {t u : Target} (h : t.forgetVpn = u.forgetVpn) (hvpn : t.vpnBlock = u.vpnBlock) :
    t = u := by
  have hback : ∀ v : Target, { v.forgetVpn with vpnBlock := v.vpnBlock } = v := fun _ => rfl
  rw [← hback t, ← hback u, h, hvpn]

/-- The pairs of devices of two responses that pass the guard. -/
def keptPairs (guard : ManagementGuard) (discovered : List Device) (a b : List PolicyDevice) :
    List (PolicyDevice × PolicyDevice) :=
  (a.zip b).filter fun p => !guard.isProtectedIp (resolvePolicyTarget p.1 discovered).ipAddress

section Pairs

variable {guard : ManagementGuard} {discovered : List Device} {a b : List PolicyDevice}

theorem enforcedTargets_fst (h : a.map eraseVpnBlock = b.map eraseVpnBlock) :
    enforcedTargets guard discovered a =
      (keptPairs guard discovered a b).map fun p => resolvePolicyTarget p.1 discovered := by
  obtain ⟨hfst, _, _⟩ := zip_of_map_eq h
  conv => lhs; rw [← hfst]
  simp only [enforcedTargets, ManagementGuard.filterTargets, List.map_map, List.filter_map, keptPairs]
  rfl

theorem enforcedTargets_snd (h : a.map eraseVpnBlock = b.map eraseVpnBlock) :
    enforcedTargets guard discovered b =
      (keptPairs guard discovered a b).map fun p => resolvePolicyTarget p.2 discovered := by
  obtain ⟨_, hsnd, hpairs⟩ := zip_of_map_eq h
  conv => lhs; rw [← hsnd]
  simp only [enforcedTargets, ManagementGuard.filterTargets, List.map_map, List.filter_map, keptPairs]
  have hkept : (a.zip b).filter ((fun target => !guard.isProtectedIp target.ipAddress) ∘
        (fun policy => resolvePolicyTarget policy discovered) ∘ Prod.snd) =
      (a.zip b).filter fun p => !guard.isProtectedIp (resolvePolicyTarget p.1 discovered).ipAddress := by
    refine List.filter_congr ?_
    intro p hp
    simp only [Function.comp, resolve_ipAddress (hpairs p hp) discovered]
  rw [hkept]
  rfl

end Pairs

section Issued

variable {C K S : Type}

theorem runUnlessDry_grows (dryRun : Bool) (respond : Respond C K) (script : List (Step C))
    (w : World C K) : w.issued <+: (runUnlessDry dryRun respond script w).2.issued := by
  unfold runUnlessDry
  split
  next => exact List.prefix_rfl
  next => exact runScript_issued_grows respond script w

theorem rollback_grows (respond : Respond C K) (restore : S → List (Step C)) (snapshot : Option S)
    (w : World C K) : w.issued <+: (rollback respond restore snapshot w).2.issued := by
  cases snapshot with
  | none => exact List.prefix_rfl
  | some snapshot => exact runScript_issued_grows respond (restore snapshot) w

end Issued

theorem Nftables.sync_issues {config : Config} (respond : Respond NftCommand NftRuleset)
    {args : SyncArgs} {remembered : Option SyncSignature} (k : NftRuleset)
    (h : remembered ≠ some (buildFirewallSyncSignature args config.enableIpv6)) :
    (Nftables.sync config respond args remembered ⟨k, []⟩).world.issued ≠ [] := by
  have hsnapshot : (Nftables.snapshotRuleset respond ⟨k, []⟩).2.issued = [.listRuleset] := rfl
  have hgrows : [NftCommand.listRuleset] <+:
      (Nftables.sync config respond args remembered ⟨k, []⟩).world.issued := by
    simp only [Nftables.sync, if_neg h]
    rw [← hsnapshot]
    have hmain := runUnlessDry_grows config.dryRun respond (Nftables.mainPass config args)
      (Nftables.snapshotRuleset respond ⟨k, []⟩).2
    split
    next =>
      have hv6 := runUnlessDry_grows config.dryRun respond (Nftables.redirectV6Pass config args)
        (runUnlessDry config.dryRun respond (Nftables.mainPass config args)
          (Nftables.snapshotRuleset respond ⟨k, []⟩).2).2
      split <;> exact hmain.trans hv6
    next => exact hmain.trans (rollback_grows _ _ _ _)
  intro hnil
  rw [hnil] at hgrows
  simp at hgrows

theorem Iptables.syncFamily_grows (config : Config) (respond : Respond IptCommand IptKernel)
    (ipv6 : Bool) (args : SyncArgs) (remembered : Option SyncSignature)
    (w : World IptCommand IptKernel) :
    w.issued <+: (Iptables.syncFamily config respond ipv6 args remembered w).world.issued ∧
      (remembered ≠ some (buildFirewallSyncSignature args ipv6) →
        w.issued ++ [.save ipv6] <+:
          (Iptables.syncFamily config respond ipv6 args remembered w).world.issued) := by
  simp only [Iptables.syncFamily]
  split
  next hskip => exact ⟨List.prefix_rfl, fun h => absurd hskip h⟩
  next =>
    have hsnapshot : (Iptables.snapshotRuleset respond ipv6 w).2.issued = w.issued ++ [.save ipv6] := rfl
    have hmain := runUnlessDry_grows config.dryRun respond (Iptables.mainPass config ipv6 args)
      (Iptables.snapshotRuleset respond ipv6 w).2
    rw [hsnapshot] at hmain
    have hgrows := (List.prefix_append w.issued [.save ipv6]).trans hmain
    split
    next => exact ⟨hgrows, fun _ => hmain⟩
    next =>
      have hundo := rollback_grows respond (Iptables.restoreRuleset ipv6)
        (Iptables.snapshotRuleset respond ipv6 w).1
        (runUnlessDry config.dryRun respond (Iptables.mainPass config ipv6 args)
          (Iptables.snapshotRuleset respond ipv6 w).2).2
      exact ⟨hgrows.trans hundo, fun _ => hmain.trans hundo⟩

theorem Iptables.sync_issues {config : Config} (respond : Respond IptCommand IptKernel)
    {args : SyncArgs} {remembered : Bool → Option SyncSignature} (k : IptKernel)
    (h : remembered false ≠
      some (buildFirewallSyncSignature (Iptables.familyArgs config args false) false)) :
    (Iptables.sync config respond args remembered ⟨k, []⟩).world.issued ≠ [] := by
  have hv4 := (Iptables.syncFamily_grows config respond false (Iptables.familyArgs config args false)
    (remembered false) ⟨k, []⟩).2 h
  have hgrows : [IptCommand.save false] <+:
      (Iptables.sync config respond args remembered ⟨k, []⟩).world.issued := by
    simp only [Iptables.sync, Iptables.Call.world]
    split
    next => exact hv4.trans (Iptables.syncFamily_grows _ _ _ _ _ _).1
    next => exact hv4
  intro hnil
  rw [hnil] at hgrows
  simp at hgrows

/-- The agent has just applied some targets. -/
def Agent.Remembers {σ K : Type} (agent : Agent σ K) (config : Config) (args : SyncArgs) : Prop :=
  agent.nftSignature = some (buildFirewallSyncSignature args config.enableIpv6) ∧
  agent.iptSignatures = fun ipv6 =>
    some (buildFirewallSyncSignature (Iptables.familyArgs config args ipv6) ipv6)

theorem remembers_tells {σ K : Type} {config : Config} {outcome : CycleOutcome σ K}
    {agent agent' : Agent σ K} {a b : SyncArgs} (hagent : agent.Remembers config a)
    (hagent' : agent'.Remembers config a)
    (hnft : (firewallSync config outcome agent a).commands.nft =
      (firewallSync config outcome agent' b).commands.nft)
    (hipt : (firewallSync config outcome agent a).commands.ipt =
      (firewallSync config outcome agent' b).commands.ipt) :
    buildFirewallSyncSignature a config.enableIpv6 = buildFirewallSyncSignature b config.enableIpv6 ∨
      buildFirewallSyncSignature (Iptables.familyArgs config a false) false =
        buildFirewallSyncSignature (Iptables.familyArgs config b false) false := by
  cases hbackend : decide (config.firewallBackend = "nftables") with
  | true =>
    refine Or.inl ?_
    simp only [decide_eq_true_eq] at hbackend
    simp only [firewallSync, hbackend, if_true, hagent.1, hagent'.1] at hnft
    by_contra hne
    have hissues := Nftables.sync_issues outcome.nft agent'.nftables fun h => hne (Option.some.inj h)
    refine hissues (hnft ▸ ?_)
    simp [Nftables.sync]
  | false =>
    refine Or.inr ?_
    simp only [decide_eq_false_iff_not] at hbackend
    simp only [firewallSync, hbackend, if_false, hagent.2, hagent'.2] at hipt
    by_contra hne
    have hissues : (Iptables.sync config outcome.ipt b agent.iptSignatures
        ⟨agent'.iptables, []⟩).world.issued ≠ [] := by
      refine Iptables.sync_issues outcome.ipt agent'.iptables ?_
      rw [hagent.2]
      exact fun h => hne (Option.some.inj h)
    rw [hagent.2] at hissues
    refine hissues (hipt ▸ ?_)
    cases hv6 : config.enableIpv6 <;>
      simp [Iptables.sync, Iptables.syncFamily, Iptables.Call.world, Iptables.Outcome.returned, hv6]

def Target.forgetLimits (target : Target) : Target := { target with bandwidthLimits := [] }

section ForgetLimits

variable {σ K : Type} {config : Config} {targets : List Target}

theorem forgetLimits_killer (guard : ManagementGuard) (flows : String → List Flow)
    (states : ConnectionKiller.StateMap) :
    ConnectionKiller.sync config guard flows states (targets.map Target.forgetLimits) =
      ConnectionKiller.sync config guard flows states targets := by
  refine Prod.ext ?_ ?_
  · simp only [ConnectionKiller.sync_commands, ManagementGuard.filterTargets, List.filter_map,
      List.flatMap_map]
    rfl
  · simp only [ConnectionKiller.sync, ConnectionKiller.syncTargets, ConnectionKiller.rememberStateMap,
      List.foldl_map, List.map_map]
    rfl

theorem forgetLimits_signature (enableIpv6 : Bool) (a b : SyncArgs)
    (ha : a.targets = b.targets.map Target.forgetLimits) (hb : { a with targets := b.targets } = b) :
    buildFirewallSyncSignature a enableIpv6 = buildFirewallSyncSignature b enableIpv6 := by
  rw [← hb]
  simp only [buildFirewallSyncSignature, ha, List.map_map]
  rfl

theorem forgetLimits_nft (respond : Respond NftCommand NftRuleset)
    (remembered : Option SyncSignature) (w : World NftCommand NftRuleset) :
    Nftables.sync config respond (syncArgs config (targets.map Target.forgetLimits)) remembered w =
      Nftables.sync config respond (syncArgs config targets) remembered w := by
  have hmain : Nftables.mainPass config (syncArgs config (targets.map Target.forgetLimits)) =
      Nftables.mainPass config (syncArgs config targets) := by
    simp only [Nftables.mainPass, syncArgs, List.flatMap_map]
    rfl
  simp only [Nftables.sync, hmain,
    forgetLimits_signature config.enableIpv6 (syncArgs config (targets.map Target.forgetLimits))
      (syncArgs config targets) rfl rfl]
  rfl

theorem forgetLimits_ipt (respond : Respond IptCommand IptKernel)
    (remembered : Bool → Option SyncSignature) (w : World IptCommand IptKernel) :
    Iptables.sync config respond (syncArgs config (targets.map Target.forgetLimits)) remembered w =
      Iptables.sync config respond (syncArgs config targets) remembered w := by
  have hfamily : ∀ ipv6 remembered w,
      Iptables.syncFamily config respond ipv6
        (Iptables.familyArgs config (syncArgs config (targets.map Target.forgetLimits)) ipv6) remembered w =
      Iptables.syncFamily config respond ipv6
        (Iptables.familyArgs config (syncArgs config targets) ipv6) remembered w := by
    intro ipv6 remembered w
    have hmain : Iptables.mainPass config ipv6
        (Iptables.familyArgs config (syncArgs config (targets.map Target.forgetLimits)) ipv6) =
        Iptables.mainPass config ipv6 (Iptables.familyArgs config (syncArgs config targets) ipv6) := by
      cases ipv6 <;> simp only [Iptables.mainPass, Iptables.familyArgs, syncArgs, List.flatMap_map] <;> rfl
    have hsig : buildFirewallSyncSignature
        (Iptables.familyArgs config (syncArgs config (targets.map Target.forgetLimits)) ipv6) ipv6 =
        buildFirewallSyncSignature
          (Iptables.familyArgs config (syncArgs config targets) ipv6) ipv6 := by
      cases ipv6 <;> exact forgetLimits_signature _ _ _ rfl rfl
    simp only [Iptables.syncFamily, hmain, hsig]
  simp only [Iptables.sync, hfamily]

theorem forgetLimits_firewall (outcome : CycleOutcome σ K) (agent : Agent σ K) :
    firewallSync config outcome agent (syncArgs config (targets.map Target.forgetLimits)) =
      firewallSync config outcome agent (syncArgs config targets) := by
  simp only [firewallSync, forgetLimits_nft, forgetLimits_ipt]

theorem forgetLimits_qos (hoff : config.enableBandwidthControl = false)
    (respond : Respond TcCommand K) (resolve4 : String → List String) (w : World TcCommand K) :
    Qos.sync config respond resolve4 (targets.map Target.forgetLimits) w =
      Qos.sync config respond resolve4 targets w := by
  have hpass : Qos.throttlePass config (targets.map Target.forgetLimits) =
      Qos.throttlePass config targets := by
    simp only [Qos.throttlePass, Qos.throttled, List.filter_map, List.flatMap_map]
    rfl
  simp only [Qos.sync, hpass, hoff, Bool.and_false, Bool.false_eq_true, if_false]

theorem forgetLimits_enforce (hoff : config.enableBandwidthControl = false) (input : CycleInput)
    (outcome : CycleOutcome σ K) (agent : Agent σ K) :
    enforce config input outcome agent (targets.map Target.forgetLimits) =
      enforce config input outcome agent targets := by
  simp only [enforce, forgetLimits_killer, forgetLimits_firewall, forgetLimits_qos hoff]

end ForgetLimits

theorem commandsOn_eq {σ K : Type} (config : Config) (input : CycleInput)
    (outcome : CycleOutcome σ K) (agent : Agent σ K) (policies : List PolicyDevice) :
    commandsOn config input outcome agent policies =
      (enforce config input outcome { agent with guard := agent.guard.refresh input.detection }
        (enforcedTargets (agent.guard.refresh input.detection) input.discovered policies)).commands :=
  rfl

theorem enforcedTargets_eraseBandwidthLimits (guard : ManagementGuard) (discovered : List Device)
    (policies : List PolicyDevice) :
    enforcedTargets guard discovered (policies.map eraseBandwidthLimits) =
      (enforcedTargets guard discovered policies).map Target.forgetLimits := by
  simp only [enforcedTargets, ManagementGuard.filterTargets, List.map_map, List.filter_map]
  rfl

theorem bandwidthSwitch (config : Config) (input : CycleInput) (a b : List PolicyDevice) :
    BandwidthSwitch config input a b := by
  intro hoff h σ K outcome agent
  rw [commandsOn_eq, commandsOn_eq, ← forgetLimits_enforce hoff,
    ← enforcedTargets_eraseBandwidthLimits, h, enforcedTargets_eraseBandwidthLimits,
    forgetLimits_enforce hoff]

theorem enforcedTargets_vpn {guard : ManagementGuard} {discovered : List Device}
    {a b : List PolicyDevice} (h : a.map eraseVpnBlock = b.map eraseVpnBlock)
    (hreaches : ¬VpnReaches guard discovered a b) :
    enforcedTargets guard discovered a = enforcedTargets guard discovered b := by
  obtain ⟨_, _, hpairs⟩ := zip_of_map_eq h
  rw [enforcedTargets_fst h, enforcedTargets_snd h]
  refine List.map_congr_left ?_
  intro p hp
  obtain ⟨hin, hkept⟩ := List.mem_filter.mp hp
  have hflag : p.1.vpnBlock.getD false = p.2.vpnBlock.getD false := by
    by_contra hne
    exact hreaches ⟨p, hin, hne, by simpa using hkept⟩
  exact Target.ext_vpn (resolve_eraseVpnBlock (hpairs p hin) discovered) hflag

/-- What reaches the firewall is told apart by an agent that remembers the other response. -/
theorem signature_vpn {guard : ManagementGuard} {discovered : List Device} {a b : List PolicyDevice}
    (h : a.map eraseVpnBlock = b.map eraseVpnBlock) {args args' : SyncArgs} {enableIpv6 : Bool}
    (ha : args.targets = enforcedTargets guard discovered a)
    (hb : args'.targets = enforcedTargets guard discovered b)
    (hsig : buildFirewallSyncSignature args enableIpv6 = buildFirewallSyncSignature args' enableIpv6) :
    ¬VpnReaches guard discovered a b := by
  intro ⟨p, hp, hne, hkept⟩
  obtain ⟨_, _, hpairs⟩ := zip_of_map_eq h
  rw [enforcedTargets_fst h] at ha
  rw [enforcedTargets_snd h] at hb
  have hid : ∀ p ∈ keptPairs guard discovered a b, (resolvePolicyTarget p.1 discovered).deviceId =
      (resolvePolicyTarget p.2 discovered).deviceId := by
    intro p hp
    exact resolve_deviceId (hpairs p (List.mem_filter.mp hp).1) discovered
  have hsame := signature_targets_pointwise ha hb hid hsig p
    (List.mem_filter.mpr ⟨hp, by simp [hkept]⟩)
  exact hne (congrArg NormalizedTarget.vpnBlock hsame)

/-- A fresh agent, but for the policy it remembers. -/
def remembering (config : Config) (guard : ManagementGuard) (args : SyncArgs) : Agent Unit Unit :=
  { freshAgent guard with
    nftSignature := some (buildFirewallSyncSignature args config.enableIpv6)
    iptSignatures := fun ipv6 =>
      some (buildFirewallSyncSignature (Iptables.familyArgs config args ipv6) ipv6) }

theorem vpnSwitch_iff (config : Config) (input : CycleInput) (guard : ManagementGuard)
    (a b : List PolicyDevice) :
    VpnSwitch config input guard a b ↔
      ¬(config.enableVpnBlock = false ∧ a.map eraseVpnBlock = b.map eraseVpnBlock ∧
        VpnReaches (guard.refresh input.detection) input.discovered a b) := by
  refine ⟨?_, ?_⟩
  · intro hswitch ⟨hoff, h, hreaches⟩
    let agent := remembering config guard (syncArgs config
      (enforcedTargets (guard.refresh input.detection) input.discovered a))
    obtain ⟨hnft, hipt⟩ := hswitch hoff h Unit Unit grantedOutcome agent rfl
    rcases remembers_tells ⟨rfl, rfl⟩ ⟨rfl, rfl⟩ hnft hipt with hsig | hsig
    · exact signature_vpn h rfl rfl hsig hreaches
    · exact signature_vpn h rfl rfl hsig hreaches
  · intro hnot hoff h σ K outcome agent hguard
    have hreaches : ¬VpnReaches (guard.refresh input.detection) input.discovered a b :=
      fun hreaches => hnot ⟨hoff, h, hreaches⟩
    rw [commandsOn_eq, commandsOn_eq, hguard, enforcedTargets_vpn h hreaches]
    exact ⟨rfl, rfl⟩

/-- The switch of the bandwidth limits holds; that of VPN blocking holds for the responses whose
differences the guard drops. -/
theorem killSwitches_iff (config : Config) (input : CycleInput) (guard : ManagementGuard)
    (a b : List PolicyDevice) :
    (VpnSwitch config input guard a b ↔
      ¬(config.enableVpnBlock = false ∧ a.map eraseVpnBlock = b.map eraseVpnBlock ∧
        VpnReaches (guard.refresh input.detection) input.discovered a b)) ∧
      BandwidthSwitch config input a b :=
  ⟨vpnSwitch_iff config input guard a b, bandwidthSwitch config input a b⟩

def vpnConfig : Config := { sampleConfig with enableVpnBlock := false }

def vpnPolicy (vpnBlock : Option Bool) : PolicyDevice :=
  ⟨"dev-1", .ALLOW, some "192.168.1.50", none, none, none, vpnBlock, none, none⟩

/-- A fresh agent installs the VPN rules of a device although VPN blocking is switched off. -/
theorem killSwitches_vpn_installed :
    ¬∀ (config : Config) (input : CycleInput) (guard : ManagementGuard) (a b : List PolicyDevice),
      VpnSwitch config input guard a b ∧ BandwidthSwitch config input a b := by
  intro h
  obtain ⟨hnft, _⟩ := (h vpnConfig ⟨none, [], .error "", .error ""⟩ ⟨[], none⟩
    [vpnPolicy (some true)] [vpnPolicy none]).1 rfl rfl Unit Unit grantedOutcome
    (freshAgent ⟨[], none⟩) rfl
  have hlength := congrArg List.length hnft
  revert hlength
  decide +kernel

end GuardTime
