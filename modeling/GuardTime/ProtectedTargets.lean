import GuardTime.AgentCycle

namespace GuardTime

/-- A command that takes the device off the network. -/
def Router.RouterCommand.blocks (command : Router.RouterCommand) : Bool :=
  command.type ∈ [.BLOCK_DEVICE, .PAUSE_DEVICE, .APPLY_FIREWALL_RULE, .BLOCK_MAC,
    .DISCONNECT_CLIENT, .END_GAMING_SESSION]

/-- The addresses the commands of a cycle act against. -/
def CycleCommands.targets (commands : CycleCommands) : List String :=
  commands.killer.flatMap KillCommand.targets ++
  (commands.nft.flatMap NftCommand.targets ++ commands.ipt.flatMap IptCommand.targets) ++
  commands.tc.flatMap TcCommand.targets ++
  (commands.drained.filter Router.RouterCommand.blocks).flatMap fun command =>
    (Router.buildTarget command.deviceId command.payload).ipAddress.toList

/-- The policy of a target acts against the address. -/
def Enforces (config : Config) (target : Target) (address : String) : Prop :=
  config.dryRun = false ∧
    (ConnectionKiller.Kills config target address ∨
      (Firewalls config.enableQuicBlockGlobal target ∧ (truthy target.ipAddress = some address ∨
        (config.enableIpv6 = true ∧ truthy target.ipv6Address = some address))) ∨
      Qos.Shapes config target address)

/-- Whatever the agent did before and however the commands of a cycle end, none acts against a
protected address. -/
def SparesProtected (config : Config) (detectedIp : Option String) (input : CycleInput) : Prop :=
  ∀ (σ K : Type) (outcome : CycleOutcome σ K) (agent : Agent σ K),
    agent.guard = ⟨ManagementGuard.configuredIps config, detectedIp⟩ →
    ∀ address ∈ (syncOnce config input outcome agent).commands.targets,
      ¬(agent.guard.refresh input.detection).Protects address

/-- No target that the guard lets through is enforced at a protected address, and no blocking
router command names one. -/
def TargetsUnprotected (config : Config) (guard : ManagementGuard) (input : CycleInput) : Prop :=
  ∀ policies, input.policies = .ok policies →
    (∀ target ∈ enforcedTargets guard input.discovered policies, ∀ address,
      Enforces config target address → ¬guard.Protects address) ∧
    ∀ commands connection, input.polled = .ok (commands, connection) →
      ∀ command ∈ commands, command.blocks = true → ∀ address,
        command.payload.ipAddress = some address → ¬guard.Protects address

section Sound

variable {σ K : Type} {config : Config} {outcome : CycleOutcome σ K} {agent : Agent σ K}
  {address : String}

theorem ipv6Of_eq_some {target : Target} : Nftables.ipv6Of config target = some address ↔
    config.enableIpv6 = true ∧ truthy target.ipv6Address = some address := by
  unfold Nftables.ipv6Of
  split
  next h => simp [h]
  next h => simp [h]

theorem firewallSync_targets {args : SyncArgs}
    (h : address ∈ (firewallSync config outcome agent args).commands.nft.flatMap NftCommand.targets ++
      (firewallSync config outcome agent args).commands.ipt.flatMap IptCommand.targets) :
    config.dryRun = false ∧ ∃ target ∈ args.targets, Firewalls args.enableQuicBlockGlobal target ∧
      (truthy target.ipAddress = some address ∨
        (config.enableIpv6 = true ∧ truthy target.ipv6Address = some address)) := by
  unfold firewallSync at h
  split at h
  next =>
    have hstruck := (List.mem_append.mp h).resolve_right (by simp)
    rcases Nftables.sync_aims hstruck with hn | hs
    · simp [struck] at hn
    · simpa only [ipv6Of_eq_some] using hs
  next =>
    have hstruck := (List.mem_append.mp h).resolve_left (by simp)
    rcases Iptables.sync_aims hstruck with hn | hs
    · simp [struck] at hn
    · exact hs

theorem routerSync_drained {input : CycleInput} {s : σ} {command : Router.RouterCommand} {c : Prop}
    [Decidable c] (h : command ∈ (if c then routerSync outcome input s else ([], s)).1) :
    ∃ commands connection, input.polled = .ok (commands, connection) ∧ command ∈ commands := by
  split at h
  next =>
    unfold routerSync Router.sync at h
    cases hp : input.polled with
    | error message => simp [hp] at h
    | ok polled =>
      obtain ⟨commands, connection⟩ := polled
      simp only [hp, Router.handleAll_commands] at h
      exact ⟨commands, connection, rfl, h⟩
  next => simp at h

/-- A command of a cycle acts against an address that the policy of a target enforces at, or that
a drained blocking command names. -/
theorem syncOnce_targets {input : CycleInput}
    (h : address ∈ (syncOnce config input outcome agent).commands.targets) :
    ∃ policies, input.policies = .ok policies ∧
      ((∃ target ∈ enforcedTargets (agent.guard.refresh input.detection) input.discovered policies,
          Enforces config target address) ∨
        ∃ commands connection, input.polled = .ok (commands, connection) ∧ ∃ command ∈ commands,
          command.blocks = true ∧ command.payload.ipAddress = some address) := by
  unfold syncOnce at h
  cases hp : input.policies with
  | error message => simp [hp, CycleCommands.targets] at h
  | ok policies =>
    refine ⟨policies, rfl, ?_⟩
    simp only [hp, enforce, CycleCommands.targets, List.mem_append] at h
    rcases h with ((h | h) | h) | h
    · obtain ⟨hd, target, ht, hk⟩ := ConnectionKiller.sync_targets h
      exact Or.inl ⟨target, ht, hd, Or.inl hk⟩
    · obtain ⟨hd, target, ht, hf⟩ := firewallSync_targets (List.mem_append.mpr h)
      exact Or.inl ⟨target, ht, hd, Or.inr (Or.inl hf)⟩
    · split at h
      next =>
        rcases Qos.sync_aims h with hn | ⟨hd, target, ht, hs⟩
        · simp [struck] at hn
        · exact Or.inl ⟨target, ht, hd, Or.inr (Or.inr hs)⟩
      next => simp at h
    · obtain ⟨command, hc, ha⟩ := List.mem_flatMap.mp h
      obtain ⟨hc, hb⟩ := List.mem_filter.mp hc
      obtain ⟨commands, connection, hpolled, hin⟩ := routerSync_drained hc
      exact Or.inr ⟨commands, connection, hpolled, command, hin, hb, Option.mem_toList.mp ha⟩

end Sound

section Granted

def grantedOutcome : CycleOutcome Unit Unit where
  flows := fun _ => []
  nft := Nftables.reliableRollback fun _ => true
  ipt := Iptables.atomic fun _ => true
  tc := fun _ _ s => (true, s)
  resolve4 := fun domain => [domain]
  vpnDetectorReturns := true
  dohDetectorReturns := true
  router := ⟨fun _ _ => none, fun s => (true, s), fun s => (.error "offline", s), false⟩
  transport := fun _ s => (.ok ⟨200, "", .ok (none, ())⟩, s)

def freshAgent (guard : ManagementGuard) : Agent Unit Unit where
  guard := guard
  previousStates := .empty
  nftSignature := none
  iptSignatures := fun _ => none
  nftables := .empty
  iptables := .empty
  tc := ()
  router := ()

variable {config : Config} {guard : ManagementGuard} {address : String}

theorem firewallSync_granted (config : Config) (address : String) (agent : Agent Unit Unit)
    (args : SyncArgs)
    (hnft : agent.nftSignature = none) (hipt : agent.iptSignatures = fun _ => none)
    (hk : Iptables.Standing agent.iptables) :
    (firewallSync config grantedOutcome agent args).returned = true ∧
      (config.dryRun = false → ∀ target ∈ args.targets,
        Firewalls args.enableQuicBlockGlobal target → (truthy target.ipAddress = some address ∨
          (config.enableIpv6 = true ∧ truthy target.ipv6Address = some address)) →
          address ∈
            (firewallSync config grantedOutcome agent args).commands.nft.flatMap NftCommand.targets ++
            (firewallSync config grantedOutcome agent args).commands.ipt.flatMap IptCommand.targets) := by
  unfold firewallSync
  split
  next =>
    obtain ⟨hret, hstruck⟩ := Nftables.sync_struck config args address ⟨agent.nftables, []⟩
    simp only [hnft, grantedOutcome]
    refine ⟨hret, fun hd target ht hf ha => List.mem_append_left _ ?_⟩
    exact hstruck hd target ht hf (by rwa [ipv6Of_eq_some])
  next =>
    obtain ⟨hret, hstruck⟩ := Iptables.sync_struck config args address
      (w := ⟨agent.iptables, []⟩) hk
    simp only [hipt, grantedOutcome]
    exact ⟨hret, fun hd target ht hf ha => List.mem_append_right _ (hstruck hd target ht hf ha)⟩

theorem enforce_completed {σ K : Type} {config : Config} {input : CycleInput}
    {outcome : CycleOutcome σ K} {agent : Agent σ K} {targets : List Target} {firewall : Cycle σ K}
    (hf : firewallSync config outcome { agent with
      previousStates := (ConnectionKiller.sync config agent.guard outcome.flows
        agent.previousStates targets).2 } (syncArgs config targets) = firewall)
    (hreturned : firewall.returned = true)
    (hq : (Qos.sync config outcome.tc outcome.resolve4 targets ⟨agent.tc, []⟩).1 = true)
    (hv : outcome.vpnDetectorReturns = true) (hd : outcome.dohDetectorReturns = true) :
    (enforce config input outcome agent targets).commands =
      ⟨(ConnectionKiller.sync config agent.guard outcome.flows agent.previousStates targets).1,
        firewall.commands.nft, firewall.commands.ipt,
        (Qos.sync config outcome.tc outcome.resolve4 targets ⟨agent.tc, []⟩).2.issued,
        (routerSync outcome input agent.router).1⟩ := by
  simp only [enforce, hf, hreturned, if_true, hq, hv, hd, Bool.or_true, Bool.and_self]

/-- A fresh agent whose commands all succeed acts against every address its targets are enforced
at, and drains every command. -/
theorem enforce_granted (config : Config) (input : CycleInput) (guard : ManagementGuard)
    (targets : List Target) :
    (∀ target ∈ guard.filterTargets targets, Enforces config target address → address ∈
      (enforce config input grantedOutcome (freshAgent guard)
        (guard.filterTargets targets)).commands.targets) ∧
      ∀ commands connection, input.polled = .ok (commands, connection) → ∀ command ∈ commands,
        command.blocks = true → command.payload.ipAddress = some address → address ∈
          (enforce config input grantedOutcome (freshAgent guard)
            (guard.filterTargets targets)).commands.targets := by
  have htc : ∀ n c k, (grantedOutcome.tc n c k).1 = true := fun _ _ _ => rfl
  have hresolve : ∀ domain, grantedOutcome.resolve4 domain ≠ [] := by simp [grantedOutcome]
  have hqos := Qos.sync_returns htc config grantedOutcome.resolve4 (guard.filterTargets targets)
    ⟨(freshAgent guard).tc, []⟩
  obtain ⟨hreturned, hfirewall⟩ := firewallSync_granted config address
    { freshAgent guard with previousStates := (ConnectionKiller.sync config guard grantedOutcome.flows
        (freshAgent guard).previousStates (guard.filterTargets targets)).2 }
    (syncArgs config (guard.filterTargets targets)) rfl rfl Iptables.standing_empty
  rw [enforce_completed rfl hreturned hqos rfl rfl]
  simp only [CycleCommands.targets, List.mem_append] at hfirewall ⊢
  refine ⟨?_, ?_⟩
  · rintro target ht ⟨hd, hk | ⟨hf, ha⟩ | hs⟩
    · exact Or.inl (Or.inl (Or.inl (ConnectionKiller.sync_targets_first hd ht hk)))
    · exact Or.inl (Or.inl (Or.inr (hfirewall hd target ht hf ha)))
    · exact Or.inl (Or.inr (Qos.sync_struck htc hd hresolve ht hs))
  · intro commands connection hpolled command hc hb ha
    refine Or.inr (List.mem_flatMap.mpr ⟨command, List.mem_filter.mpr ⟨?_, hb⟩, ?_⟩)
    · simpa only [routerSync, Router.sync, hpolled, Router.handleAll_commands] using hc
    · exact Option.mem_toList.mpr ha

end Granted

/-- A cycle spares the protected addresses exactly when its targets and router commands name
none. -/
theorem syncOnce_spares_iff (config : Config) (detectedIp : Option String) (input : CycleInput) :
    SparesProtected config detectedIp input ↔ TargetsUnprotected config
      (ManagementGuard.refresh ⟨ManagementGuard.configuredIps config, detectedIp⟩ input.detection)
      input := by
  refine ⟨?_, ?_⟩
  · intro h policies hp
    have hspared := h Unit Unit grantedOutcome (freshAgent _) rfl
    simp only [syncOnce, hp, enforcedTargets] at hspared
    refine ⟨fun target ht address he => ?_, fun commands connection hpolled command hc hb address ha => ?_⟩
    · exact hspared address ((enforce_granted config input _ _).1 target ht he)
    · exact hspared address ((enforce_granted config input _ _).2 commands connection hpolled command hc hb ha)
  · intro h σ K outcome agent hguard address ha
    obtain ⟨policies, hp, hcase⟩ := syncOnce_targets ha
    rw [hguard] at hcase ⊢
    rcases hcase with ⟨target, ht, he⟩ | ⟨commands, connection, hpolled, command, hc, hb, hip⟩
    · exact (h policies hp).1 target ht address he
    · exact (h policies hp).2 commands connection hpolled command hc hb address hip

def guardedConfig : Config := { sampleConfig with managementIps := ["192.168.1.1", "2001:db8::1"] }

/-- A blocked device whose IPv6 address is that of the gateway. -/
def blockedGateway : PolicyDevice :=
  ⟨"dev-1", .BLOCK, some "192.168.1.50", none, some "2001:db8::1", none, none, none, none⟩

def gatewayPolicy : CycleInput := ⟨none, [], .ok [blockedGateway], .ok ([], none)⟩

/-- The connections of the protected IPv6 address are deleted. -/
theorem gatewayPolicy_cuts_gateway : ¬SparesProtected guardedConfig none gatewayPolicy := by
  intro h
  have hkilled : KillCommand.deleteBySource "2001:db8::1" ∈
      (syncOnce guardedConfig gatewayPolicy grantedOutcome
        (freshAgent ⟨ManagementGuard.configuredIps guardedConfig, none⟩)).commands.killer := by
    decide +kernel
  refine h Unit Unit grantedOutcome (freshAgent _) rfl "2001:db8::1" ?_ (by decide +kernel)
  refine List.mem_append_left _ (List.mem_append_left _ (List.mem_append_left _ ?_))
  exact List.mem_flatMap.mpr ⟨_, hkilled, List.mem_singleton_self _⟩

end GuardTime
