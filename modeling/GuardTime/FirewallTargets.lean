import GuardTime.QosTargets

namespace GuardTime

/-- The firewall acts against the addresses of the target. -/
def Firewalls (enableQuicBlockGlobal : Bool) (target : Target) : Prop :=
  target.action = .BLOCK ∨ target.vpnBlock = true ∨ enableQuicBlockGlobal = true ∨
    target.quicBlock = true

def NftMatch.source : NftMatch → Option String
  | .ipSaddr address => some address
  | .ip6Saddr address => some address
  | _ => none

/-- The addresses whose traffic a command acts on. -/
def NftCommand.targets : NftCommand → List String
  | .addRule _ rule => rule.exprs.filterMap NftMatch.source
  | _ => []

def IptMatch.sourceAddress : IptMatch → Option String
  | .source address => some address
  | _ => none

def IptCommand.targets : IptCommand → List String
  | .append _ rule => rule.exprs.filterMap IptMatch.sourceAddress
  | .insertFirst _ rule => rule.exprs.filterMap IptMatch.sourceAddress
  | _ => []

namespace Nftables

@[simp] theorem aims_dropRule (exprs : List NftMatch) (comment : String) (script : List (Step NftCommand)) :
    aims NftCommand.targets (dropRule exprs comment :: script) =
      exprs.filterMap NftMatch.source ++ aims NftCommand.targets script := by
  simp [dropRule, NftCommand.targets]

@[simp] theorem aims_map_dropRule {α : Type} (xs : List α) (exprs : α → List NftMatch)
    (comment : α → String) :
    aims NftCommand.targets (xs.map fun x => dropRule (exprs x) (comment x)) =
      xs.flatMap fun x => (exprs x).filterMap NftMatch.source := by
  induction xs with
  | nil => rfl
  | cons x xs ih => simp [ih]

section Targets

variable {config : Config} {target : Target} {address : String}

theorem addBlockRules_aims : address ∈ aims NftCommand.targets (addBlockRules config target) ↔
    truthy target.ipAddress = some address ∨ ipv6Of config target = some address := by
  simp [addBlockRules, NftMatch.source]

theorem addVpnBlockRules_aims : address ∈ aims NftCommand.targets (addVpnBlockRules config target) ↔
    truthy target.ipAddress = some address ∨ ipv6Of config target = some address := by
  have hsig : ∃ sig, sig ∈ VPN_PORT_SIGNATURES := ⟨_, List.mem_cons_self⟩
  have hrange : ∃ range, range ∈ VPN_IP_RANGES := ⟨_, List.mem_cons_self⟩
  unfold addVpnBlockRules
  split
  next hnone =>
    obtain ⟨h4, h6⟩ := Bool.and_eq_true_iff.mp hnone
    rw [Option.isNone_iff_eq_none] at h4 h6
    simp [ipv6Of, h4, h6]
  next =>
    simp only [aims_append, aims_flatMap, aims_map_dropRule, List.mem_append, List.mem_flatMap,
      List.filterMap_cons, NftMatch.source, List.filterMap_nil, List.mem_singleton, Option.mem_toList,
      exists_eq_right', exists_and_right]
    refine ⟨?_, ?_⟩
    · intro h
      obtain ⟨_, h⟩ | ⟨ip, hip, _, rfl⟩ := h
      · exact h
      · exact Or.inl hip
    · exact fun h => Or.inl ⟨hsig, h⟩

theorem addQuicBlockRule_aims : address ∈ aims NftCommand.targets (addQuicBlockRule config target) ↔
    truthy target.ipAddress = some address ∨ ipv6Of config target = some address := by
  simp [addQuicBlockRule, NftMatch.source]

theorem addDohDotBlockRules_aims (config : Config) :
    aims NftCommand.targets (addDohDotBlockRules config) = [] := by
  simp [addDohDotBlockRules, NftMatch.source]

theorem targetSteps_aims {quic : Bool} :
    address ∈ aims NftCommand.targets (targetSteps config quic target) ↔ Firewalls quic target ∧
      (truthy target.ipAddress = some address ∨ ipv6Of config target = some address) := by
  simp only [targetSteps, aims_append, List.mem_append, mem_aims_if, addBlockRules_aims,
    addVpnBlockRules_aims, addQuicBlockRule_aims, ← or_and_right, Firewalls, Bool.or_eq_true,
    or_assoc]

theorem dnsRedirectSteps_aims (chain : NftChainKey) (ip : String) :
    aims NftCommand.targets (dnsRedirectSteps chain ip) = [] := by
  simp [dnsRedirectSteps, NftCommand.targets, NftMatch.source]

theorem mainPass_aims {args : SyncArgs} :
    address ∈ aims NftCommand.targets (mainPass config args) ↔ ∃ target ∈ args.targets,
      Firewalls args.enableQuicBlockGlobal target ∧
        (truthy target.ipAddress = some address ∨ ipv6Of config target = some address) := by
  have hsetup : aims NftCommand.targets (ensureTable ++ flushChain) = [] := by
    simp [ensureTable, flushChain, NftCommand.targets]
  have hdns : address ∉ aims NftCommand.targets
      (if args.enableDnsRedirect then ensureDnsRedirect args.dnsRedirectIp else []) := by
    simp [mem_aims_if, ensureDnsRedirect, dnsRedirectSteps_aims]
  have hdoh : address ∉ aims NftCommand.targets
      (if args.enableDohBlock then addDohDotBlockRules config else []) := by
    simp [mem_aims_if, addDohDotBlockRules_aims]
  rw [mainPass, aims_append, aims_append, aims_append, hsetup, List.nil_append]
  simp only [List.mem_append, hdns, hdoh, or_false, aims_flatMap, List.mem_flatMap, targetSteps_aims]

theorem redirectV6Pass_aims (args : SyncArgs) :
    aims NftCommand.targets (redirectV6Pass config args) = [] := by
  unfold redirectV6Pass
  split
  next => exact dnsRedirectSteps_aims _ _
  next => rfl

theorem mainPass_accountable (config : Config) (args : SyncArgs) :
    Accountable NftCommand.targets (mainPass config args) := by
  rw [mainPass_eq]
  refine accountable_append (accountable_of_aims ?_)
    (accountable_append (accountable_of_aims ?_) (accountable_append ?_ (accountable_of_aims ?_)))
  · simp [ensureTable, NftCommand.targets]
  · simp [flushChain, NftCommand.targets]
  · intro s hs c hc _
    obtain ⟨_, rfl⟩ := policySteps_addsTo config args hs
    rw [List.mem_singleton.mp hc]
  · split
    next => exact dnsRedirectSteps_aims _ _
    next => rfl

variable {respond : Respond NftCommand NftRuleset} {args : SyncArgs}
  {lastSyncSignature : Option SyncSignature} {w : World NftCommand NftRuleset}

/-- The rules of a call act on the addresses of its targets only. -/
theorem sync_aims
    (h : address ∈ struck NftCommand.targets (sync config respond args lastSyncSignature w).world) :
    address ∈ struck NftCommand.targets w ∨ (config.dryRun = false ∧ ∃ target ∈ args.targets,
      Firewalls args.enableQuicBlockGlobal target ∧
        (truthy target.ipAddress = some address ∨ ipv6Of config target = some address)) := by
  have hsnapshot : address ∈ struck NftCommand.targets (snapshotRuleset respond w).2 →
      address ∈ struck NftCommand.targets w := by
    intro ha
    rcases issue_struck.mp ha with ha | ha
    · exact ha
    · simp [NftCommand.targets] at ha
  have hmain : address ∈ struck NftCommand.targets
      (runUnlessDry config.dryRun respond (mainPass config args) (snapshotRuleset respond w).2).2 →
      address ∈ struck NftCommand.targets w ∨ (config.dryRun = false ∧ ∃ target ∈ args.targets,
        Firewalls args.enableQuicBlockGlobal target ∧
          (truthy target.ipAddress = some address ∨ ipv6Of config target = some address)) := by
    intro ha
    rcases runUnlessDry_aims ha with ha | ⟨hd, ha⟩
    · exact Or.inl (hsnapshot ha)
    · exact Or.inr ⟨hd, mainPass_aims.mp ha⟩
  have hv6 : ∀ w', address ∈ struck NftCommand.targets
      (runUnlessDry config.dryRun respond (redirectV6Pass config args) w').2 →
      address ∈ struck NftCommand.targets w' := by
    intro w' ha
    rcases runUnlessDry_aims ha with ha | ⟨_, ha⟩
    · exact ha
    · simp [redirectV6Pass_aims] at ha
  unfold sync at h
  dsimp only at h
  split at h
  next => exact Or.inl h
  next =>
    split at h
    next =>
      split at h
      next => exact hmain (hv6 _ h)
      next => exact hmain (hv6 _ h)
    next =>
      refine hmain (rollback_struck ?_ h)
      intro listing
      simp [restoreRuleset, NftCommand.targets]

/-- A first call with no command refused returns, and acts on every address of its targets. -/
theorem sync_struck (config : Config) (args : SyncArgs) (address : String)
    (w : World NftCommand NftRuleset) :
    (sync config (reliableRollback fun _ => true) args none w).outcome.returned = true ∧
      (config.dryRun = false → ∀ target ∈ args.targets,
        Firewalls args.enableQuicBlockGlobal target →
        (truthy target.ipAddress = some address ∨ ipv6Of config target = some address) →
          address ∈ struck NftCommand.targets
            (sync config (reliableRollback fun _ => true) args none w).world) := by
  have hmain : (runUnlessDry config.dryRun (reliableRollback fun _ => true) (mainPass config args)
      (snapshotRuleset (reliableRollback fun _ => true) w).2).1 = true := by
    unfold runUnlessDry
    split
    next => rfl
    next => exact mainPass_completes config args _
  unfold sync
  simp only [reduceCtorEq, if_false, hmain, if_true]
  refine ⟨?_, ?_⟩
  · split
    next => rfl
    next => rfl
  · intro hd target ht hf ha
    have hpass : address ∈ struck NftCommand.targets (runUnlessDry config.dryRun
        (reliableRollback fun _ => true) (mainPass config args)
        (snapshotRuleset (reliableRollback fun _ => true) w).2).2 := by
      simp only [runUnlessDry, hd, Bool.false_eq_true, if_false]
      exact runScript_hits (mainPass_accountable config args) (mainPass_completes config args _)
        (mainPass_aims.mpr ⟨target, ht, hf, ha⟩)
    split
    next => exact runUnlessDry_keeps hpass
    next => exact runUnlessDry_keeps hpass

end Targets

end Nftables

namespace Iptables

@[simp] theorem aims_dropRule (key : IptChainKey) (exprs : List IptMatch) (comment : Option String)
    (script : List (Step IptCommand)) :
    aims IptCommand.targets (dropRule key exprs comment :: script) =
      exprs.filterMap IptMatch.sourceAddress ++ aims IptCommand.targets script := by
  simp [dropRule, IptCommand.targets]

@[simp] theorem aims_map_dropRule {α : Type} (xs : List α) (key : IptChainKey)
    (exprs : α → List IptMatch) (comment : α → Option String) :
    aims IptCommand.targets (xs.map fun x => dropRule key (exprs x) (comment x)) =
      xs.flatMap fun x => (exprs x).filterMap IptMatch.sourceAddress := by
  induction xs with
  | nil => rfl
  | cons x xs ih => simp [ih]

section Targets

variable {config : Config} {ipv6 : Bool} {target : Target} {address : String}

theorem addBlockRules_aims : address ∈ aims IptCommand.targets (addBlockRules ipv6 target) ↔
    addressOf ipv6 target = some address := by
  simp [addBlockRules, IptMatch.sourceAddress]

theorem addVpnBlockRules_aims : address ∈ aims IptCommand.targets (addVpnBlockRules ipv6 target) ↔
    addressOf ipv6 target = some address := by
  have hsig : ∃ sig, sig ∈ VPN_PORT_SIGNATURES := ⟨_, List.mem_cons_self⟩
  have hrange : ∀ ip, address ∈ aims IptCommand.targets (if ipv6 then [] else
      VPN_IP_RANGES.map fun range => dropRule (FILTER_CHAIN ipv6)
        [.source ip, .destination range.cidr]
        (some ("guardtime-vpn:" ++ target.deviceId ++ ":ip"))) → address = ip := by
    intro ip h
    split at h
    next => simp at h
    next =>
      simp only [aims_map_dropRule, List.mem_flatMap, List.filterMap_cons, IptMatch.sourceAddress,
        List.filterMap_nil, List.mem_singleton] at h
      obtain ⟨_, _, h⟩ := h
      exact h
  simp only [addVpnBlockRules, aims_flatMap, aims_append, aims_map_dropRule, List.mem_flatMap,
    List.mem_append, List.filterMap_cons, IptMatch.sourceAddress, List.filterMap_nil,
    List.mem_singleton, Option.mem_toList]
  refine ⟨?_, ?_⟩
  · intro h
    obtain ⟨ip, hip, ⟨_, _, rfl⟩ | h⟩ := h
    · exact hip
    · rwa [hrange ip h]
  · intro h
    obtain ⟨sig, hs⟩ := hsig
    exact ⟨address, h, Or.inl ⟨sig, hs, rfl⟩⟩

theorem addQuicBlockRule_aims : address ∈ aims IptCommand.targets (addQuicBlockRule ipv6 target) ↔
    addressOf ipv6 target = some address := by
  simp [addQuicBlockRule, IptMatch.sourceAddress]

theorem targetSteps_aims {quic : Bool} :
    address ∈ aims IptCommand.targets (targetSteps ipv6 quic target) ↔
      Firewalls quic target ∧ addressOf ipv6 target = some address := by
  simp only [targetSteps, aims_append, List.mem_append, mem_aims_if, addBlockRules_aims,
    addVpnBlockRules_aims, addQuicBlockRule_aims, ← or_and_right, Firewalls, Bool.or_eq_true,
    or_assoc]

theorem ensureDohDotBlock_aims (config : Config) (ipv6 : Bool) :
    aims IptCommand.targets (ensureDohDotBlock config ipv6) = [] := by
  cases ipv6 <;>
    simp [ensureDohDotBlock, dohDotRules, ensureRule, IptCommand.targets, IptMatch.sourceAddress]

theorem ensureDnsRedirect_aims (ip : String) (ipv6 : Bool) :
    aims IptCommand.targets (ensureDnsRedirect ip ipv6) = [] := by
  unfold ensureDnsRedirect
  split
  next => rfl
  next => simp [ensureRule, IptCommand.targets, IptMatch.sourceAddress]

theorem setup_aims (ipv6 : Bool) :
    aims IptCommand.targets (ensureFilterChain ipv6 ++ flushFilterChain ipv6) = [] := by
  simp [ensureFilterChain, flushFilterChain, ensureRule, IptCommand.targets]

theorem mainPass_aims {args : SyncArgs} :
    address ∈ aims IptCommand.targets (mainPass config ipv6 args) ↔ ∃ target ∈ args.targets,
      Firewalls args.enableQuicBlockGlobal target ∧ addressOf ipv6 target = some address := by
  have hdns : address ∉ aims IptCommand.targets
      (if args.enableDnsRedirect then ensureDnsRedirect args.dnsRedirectIp ipv6 else []) := by
    simp [mem_aims_if, ensureDnsRedirect_aims]
  have hdoh : address ∉ aims IptCommand.targets
      (if args.enableDohBlock then ensureDohDotBlock config ipv6 else []) := by
    simp [mem_aims_if, ensureDohDotBlock_aims]
  rw [mainPass, aims_append, aims_append, aims_append, setup_aims, List.nil_append]
  simp only [List.mem_append, hdns, hdoh, or_false, aims_flatMap, List.mem_flatMap, targetSteps_aims]

theorem mainPass_accountable (config : Config) (ipv6 : Bool) (args : SyncArgs) :
    Accountable IptCommand.targets (mainPass config ipv6 args) := by
  rw [mainPass_eq, ← List.append_assoc]
  refine accountable_append (accountable_of_aims (setup_aims ipv6))
    (accountable_append ?_ (accountable_append (accountable_of_aims ?_) (accountable_of_aims ?_)))
  · intro s hs c hc _
    obtain ⟨_, _, rfl⟩ := policySteps_drops ipv6 args hs
    rw [dropRule, List.mem_singleton.mp hc]
  · split
    next => exact ensureDohDotBlock_aims config ipv6
    next => rfl
  · split
    next => exact ensureDnsRedirect_aims _ ipv6
    next => rfl

variable {respond : Respond IptCommand IptKernel} {args : SyncArgs}
  {w : World IptCommand IptKernel}

theorem syncFamily_aims {lastSyncSignature : Option SyncSignature}
    (h : address ∈ struck IptCommand.targets
      (syncFamily config respond ipv6 args lastSyncSignature w).world) :
    address ∈ struck IptCommand.targets w ∨ (config.dryRun = false ∧ ∃ target ∈ args.targets,
      Firewalls args.enableQuicBlockGlobal target ∧ addressOf ipv6 target = some address) := by
  have hmain : address ∈ struck IptCommand.targets (runUnlessDry config.dryRun respond
      (mainPass config ipv6 args) (snapshotRuleset respond ipv6 w).2).2 →
      address ∈ struck IptCommand.targets w ∨ (config.dryRun = false ∧ ∃ target ∈ args.targets,
        Firewalls args.enableQuicBlockGlobal target ∧ addressOf ipv6 target = some address) := by
    intro ha
    rcases runUnlessDry_aims ha with ha | ⟨hd, ha⟩
    · rcases issue_struck.mp ha with ha | ha
      · exact Or.inl ha
      · simp [IptCommand.targets] at ha
    · exact Or.inr ⟨hd, mainPass_aims.mp ha⟩
  unfold syncFamily at h
  dsimp only at h
  split at h
  next => exact Or.inl h
  next =>
    split at h
    next => exact hmain h
    next =>
      refine hmain (rollback_struck ?_ h)
      intro snapshot
      simp [restoreRuleset, IptCommand.targets]

/-- The rules of a call act on the addresses of its targets only. -/
theorem sync_aims {lastSyncSignatures : Bool → Option SyncSignature}
    (h : address ∈ struck IptCommand.targets (sync config respond args lastSyncSignatures w).world) :
    address ∈ struck IptCommand.targets w ∨ (config.dryRun = false ∧ ∃ target ∈ args.targets,
      Firewalls args.enableQuicBlockGlobal target ∧ (truthy target.ipAddress = some address ∨
        (config.enableIpv6 = true ∧ truthy target.ipv6Address = some address))) := by
  have hv4 : address ∈ struck IptCommand.targets (syncFamily config respond false
      (familyArgs config args false) (lastSyncSignatures false) w).world →
      address ∈ struck IptCommand.targets w ∨ (config.dryRun = false ∧ ∃ target ∈ args.targets,
        Firewalls args.enableQuicBlockGlobal target ∧ (truthy target.ipAddress = some address ∨
          (config.enableIpv6 = true ∧ truthy target.ipv6Address = some address))) := by
    intro ha
    rcases syncFamily_aims ha with ha | ⟨hd, target, ht, hf, ha⟩
    · exact Or.inl ha
    · exact Or.inr ⟨hd, target, ht, hf, Or.inl ha⟩
  unfold sync Call.world at h
  dsimp only at h
  split at h
  next hv6 =>
    rcases syncFamily_aims h with ha | ⟨hd, target, ht, hf, ha⟩
    · exact hv4 ha
    · exact Or.inr ⟨hd, target, ht, hf, Or.inr ⟨(Bool.and_eq_true_iff.mp hv6).2, ha⟩⟩
  next => exact hv4 h

/-- A first pass over a standing kernel, no command being refused, is applied, and acts on every
address of its targets. -/
theorem syncFamily_struck (config : Config) (ipv6 : Bool) (args : SyncArgs) (address : String)
    {w : World IptCommand IptKernel} (hw : Standing w.kernel) :
    (syncFamily config (atomic fun _ => true) ipv6 args none w).outcome = .applied ∧
      Standing (syncFamily config (atomic fun _ => true) ipv6 args none w).world.kernel ∧
      (config.dryRun = false → ∀ target ∈ args.targets,
        Firewalls args.enableQuicBlockGlobal target → addressOf ipv6 target = some address →
          address ∈ struck IptCommand.targets
            (syncFamily config (atomic fun _ => true) ipv6 args none w).world) ∧
      (address ∈ struck IptCommand.targets w → address ∈ struck IptCommand.targets
        (syncFamily config (atomic fun _ => true) ipv6 args none w).world) := by
  have hsnap : Standing (snapshotRuleset (atomic fun _ => true) ipv6 w).2.kernel := by
    rwa [(snapshot_atomic (fun _ => true) ipv6 w).1]
  have hdone := mainPass_completes config ipv6 args hsnap
  have hkeep : address ∈ struck IptCommand.targets w →
      address ∈ struck IptCommand.targets (snapshotRuleset (atomic fun _ => true) ipv6 w).2 :=
    fun ha => issue_struck.mpr (Or.inl ha)
  cases hd : config.dryRun with
  | true =>
    have hcall : syncFamily config (atomic fun _ => true) ipv6 args none w =
        ⟨.applied, some (buildFirewallSyncSignature args ipv6),
          (snapshotRuleset (atomic fun _ => true) ipv6 w).2⟩ := by
      simp [syncFamily, runUnlessDry, hd]
    rw [hcall]
    exact ⟨rfl, hsnap, by simp, hkeep⟩
  | false =>
    have hcall : syncFamily config (atomic fun _ => true) ipv6 args none w =
        ⟨.applied, some (buildFirewallSyncSignature args ipv6),
          (runScript (atomic fun _ => true) (mainPass config ipv6 args)
            (snapshotRuleset (atomic fun _ => true) ipv6 w).2).2⟩ := by
      simp [syncFamily, runUnlessDry, hd, hdone]
    rw [hcall]
    refine ⟨rfl, mainPass_standing hsnap, fun _ target ht hf ha => ?_, fun ha => ?_⟩
    · exact runScript_hits (mainPass_accountable config ipv6 args) hdone
        (mainPass_aims.mpr ⟨target, ht, hf, ha⟩)
    · exact runScript_aims_keeps (hkeep ha)

/-- A first call over a standing kernel with no command refused returns, and acts on every address
of its targets. -/
theorem sync_struck (config : Config) (args : SyncArgs) (address : String)
    {w : World IptCommand IptKernel}
    (hw : Standing w.kernel) :
    (sync config (atomic fun _ => true) args (fun _ => none) w).v4.outcome.returned = true ∧
      (config.dryRun = false → ∀ target ∈ args.targets,
        Firewalls args.enableQuicBlockGlobal target →
        (truthy target.ipAddress = some address ∨
          (config.enableIpv6 = true ∧ truthy target.ipv6Address = some address)) →
          address ∈ struck IptCommand.targets
            (sync config (atomic fun _ => true) args (fun _ => none) w).world) := by
  obtain ⟨happlied, hstand, hv4, _⟩ := syncFamily_struck config false
    (familyArgs config args false) address hw
  obtain ⟨_, _, hv6, hkeep⟩ := syncFamily_struck config true
    (familyArgs config args true) address hstand
  unfold sync Call.world
  simp only [happlied, Outcome.returned, Bool.true_and]
  refine ⟨trivial, fun hd target ht hf ha => ?_⟩
  have hleft : truthy target.ipAddress = some address → address ∈ struck IptCommand.targets
      (syncFamily config (atomic fun _ => true) false (familyArgs config args false) none w).world :=
    fun ha => hv4 hd target ht hf ha
  split
  next =>
    rcases ha with ha | ⟨_, ha⟩
    · exact hkeep (hleft ha)
    · exact hv6 hd target ht hf ha
  next hv =>
    rcases ha with ha | ⟨hv', _⟩
    · exact hleft ha
    · exact absurd hv' hv

end Targets

end Iptables

end GuardTime
