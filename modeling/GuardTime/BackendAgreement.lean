import GuardTime.PacketVerdict

namespace GuardTime

variable (reading : Reading)

def sourceIs (target : Target) (p : Packet) : Prop :=
  (∃ ip, truthy target.ipAddress = some ip ∧ reading.fromV4 ip p = true) ∨
    ∃ ip, truthy target.ipv6Address = some ip ∧ reading.fromV6 ip p = true

def macIs (target : Target) (p : Packet) : Prop :=
  ∃ mac, truthy target.macAddress = some mac ∧ reading.mac mac p.sourceMac = true

/-- What the policy of one target drops. -/
def TargetDropped (enableQuicBlockGlobal : Bool) (target : Target) (p : Packet) : Prop :=
  (target.action = .BLOCK ∧ (sourceIs reading target p ∨ macIs reading target p)) ∨
  (target.vpnBlock = true ∧ sourceIs reading target p ∧
    ((∃ sig ∈ VPN_PORT_SIGNATURES, goesTo sig.protocol sig.port p = true) ∨
      ∃ range ∈ VPN_IP_RANGES, reading.towardsV4 range.cidr p = true)) ∨
  ((enableQuicBlockGlobal = true ∨ target.quicBlock = true) ∧ sourceIs reading target p ∧
    goesTo .udp 443 p = true)

/-- Traffic to an encrypted resolver. -/
def EncryptedDns (config : Config) (p : Packet) : Prop :=
  (∃ port ∈ DOT_PORTS, goesTo .tcp port p = true ∨ goesTo .udp port p = true) ∨
  ((∃ provider ∈ DOH_PROVIDER_IPS, reading.towardsV4 provider.ip p = true) ∨
    ∃ ip ∈ config.dohReputationIps, reading.towardsV4 ip p = true) ∧ goesTo .tcp 443 p = true

/-- What the policy drops, whichever backend enforces it. -/
def Dropped (config : Config) (args : SyncArgs) (p : Packet) : Prop :=
  (∃ target ∈ args.targets, TargetDropped reading args.enableQuicBlockGlobal target p) ∨
  (args.enableDohBlock = true ∧ EncryptedDns reading config p)

variable {reading}

theorem fromV4_isV6 {address : String} {p : Packet} (h : reading.fromV4 address p = true) :
    p.isV6 = false := by
  unfold Reading.fromV4 at h
  split at h
  next hn => simp [Packet.isV6, hn]
  next => simp at h

theorem fromV6_isV6 {address : String} {p : Packet} (h : reading.fromV6 address p = true) :
    p.isV6 = true := by
  unfold Reading.fromV6 at h
  split at h
  next => simp at h
  next hn => simp [Packet.isV6, hn]

theorem towardsV4_isV6 {address : String} {p : Packet} (h : reading.towardsV4 address p = true) :
    p.isV6 = false := by
  unfold Reading.towardsV4 at h
  split at h
  next hn => simp [Packet.isV6, hn]
  next => simp at h

/-- IPv4 ranges never match an IPv6 packet. -/
theorem towardsV4_of_isV6 {p : Packet} (hp : p.isV6 = true) (cidr : String) :
    reading.towardsV4 cidr p = false := by
  cases ht : reading.towardsV4 cidr p with
  | false => rfl
  | true =>
    rw [towardsV4_isV6 ht] at hp
    simp at hp

/-- The providers whose addresses are blocked are the built-in ones and the operator's. -/
theorem exists_dohProvider {config : Config} {P : String → Prop} :
    (∃ provider ∈ dohProviders config, P provider.ip) ↔
      (∃ provider ∈ DOH_PROVIDER_IPS, P provider.ip) ∨ ∃ ip ∈ config.dohReputationIps, P ip := by
  simp [dohProviders, or_and_right, exists_or]

theorem encryptedDns_iff {reading : Reading} {config : Config} {p : Packet} :
    EncryptedDns reading config p ↔
      (∃ port ∈ DOT_PORTS, goesTo .tcp port p = true ∨ goesTo .udp port p = true) ∨
        ∃ provider ∈ dohProviders config,
          reading.towardsV4 provider.ip p = true ∧ goesTo .tcp 443 p = true := by
  rw [EncryptedDns, ← exists_dohProvider (P := fun ip => reading.towardsV4 ip p = true)]
  simp only [← and_assoc, exists_and_right]

theorem exists_mem_flatMap_iff {α ρ : Type} {xs : List α} {f : α → List ρ} {P : ρ → Prop} :
    (∃ rule ∈ xs.flatMap f, P rule) ↔ ∃ x ∈ xs, ∃ rule ∈ f x, P rule := by
  simp only [List.mem_flatMap]
  refine ⟨?_, ?_⟩
  · intro h
    obtain ⟨rule, ⟨x, hx, hr⟩, hh⟩ := h
    exact ⟨x, hx, rule, hr, hh⟩
  · intro h
    obtain ⟨x, hx, rule, hr, hh⟩ := h
    exact ⟨rule, ⟨x, hx, hr⟩, hh⟩

namespace Nftables

@[simp] theorem rulesOf_map_dropRule {α : Type} (xs : List α) (exprs : α → List NftMatch)
    (comment : α → String) :
    rulesOf (xs.map fun x => dropRule (exprs x) (comment x)) =
      xs.map fun x => ⟨exprs x, true, .drop, some (quoted (comment x))⟩ := by
  simp [rulesOf, dropRule]

/-- Some rule a script adds drops the packet. -/
def SomeRule (reading : Reading) (p : Packet) (script : List (Step NftCommand)) : Prop :=
  ∃ rule ∈ rulesOf script, rule.holds reading p = true

theorem someRule_append {p : Packet} (xs ys : List (Step NftCommand)) :
    SomeRule reading p (xs ++ ys) ↔ SomeRule reading p xs ∨ SomeRule reading p ys := by
  simp [SomeRule, or_and_right, exists_or]

theorem someRule_flatMap {α : Type} {p : Packet} (xs : List α) (f : α → List (Step NftCommand)) :
    SomeRule reading p (xs.flatMap f) ↔ ∃ x ∈ xs, SomeRule reading p (f x) := by
  rw [SomeRule, rulesOf_flatMap]
  exact exists_mem_flatMap_iff

theorem someRule_map {α : Type} {p : Packet} (xs : List α) (exprs : α → List NftMatch)
    (comment : α → String) :
    SomeRule reading p (xs.map fun x => dropRule (exprs x) (comment x)) ↔
      ∃ x ∈ xs, ∀ m ∈ exprs x, m.holds reading p = true := by
  simp [SomeRule, NftRule.holds]

theorem someRule_if {p : Packet} (c : Prop) [Decidable c] (xs : List (Step NftCommand)) :
    SomeRule reading p (if c then xs else []) ↔ c ∧ SomeRule reading p xs := by
  split
  next h => simp [h]
  next h => simp [h, SomeRule, rulesOf]

theorem ipv6Of_iff {config : Config} {p : Packet} (hv : p.isV6 = true → config.enableIpv6 = true)
    (target : Target) :
    (∃ ip, ipv6Of config target = some ip ∧ reading.fromV6 ip p = true) ↔
      ∃ ip, truthy target.ipv6Address = some ip ∧ reading.fromV6 ip p = true := by
  refine ⟨?_, ?_⟩
  · intro h
    obtain ⟨ip, hip, hh⟩ := h
    simp only [ipv6Of, hv (fromV6_isV6 hh), if_true] at hip
    exact ⟨ip, hip, hh⟩
  · intro h
    obtain ⟨ip, hip, hh⟩ := h
    exact ⟨ip, by simp only [ipv6Of, hv (fromV6_isV6 hh), if_true, hip], hh⟩

variable {config : Config} {p : Packet} (hv : p.isV6 = true → config.enableIpv6 = true)

include hv

theorem addBlockRules_iff (target : Target) :
    SomeRule reading p (addBlockRules config target) ↔
      sourceIs reading target p ∨ macIs reading target p := by
  simp only [addBlockRules, someRule_append, someRule_map, Option.mem_toList, List.mem_singleton,
    forall_eq, NftMatch.holds, ipv6Of_iff hv, sourceIs, macIs]

theorem addVpnBlockRules_iff (target : Target) :
    SomeRule reading p (addVpnBlockRules config target) ↔ sourceIs reading target p ∧
      ((∃ sig ∈ VPN_PORT_SIGNATURES, goesTo sig.protocol sig.port p = true) ∨
        ∃ range ∈ VPN_IP_RANGES, reading.towardsV4 range.cidr p = true) := by
  unfold addVpnBlockRules
  split
  next hnone =>
    obtain ⟨h4, h6⟩ := Bool.and_eq_true_iff.mp hnone
    rw [Option.isNone_iff_eq_none] at h4 h6
    simp [SomeRule, rulesOf, sourceIs, h4, h6]
  next =>
    have hport : ∀ sig : VpnPortSignature,
        (∃ ip, ipv6Of config target = some ip ∧ reading.fromV6 ip p = true ∧
          goesTo sig.protocol sig.port p = true) ↔
        (∃ ip, truthy target.ipv6Address = some ip ∧ reading.fromV6 ip p = true) ∧
          goesTo sig.protocol sig.port p = true := by
      intro sig
      simp only [← and_assoc, exists_and_right, ipv6Of_iff hv]
    simp only [someRule_append, someRule_flatMap, someRule_map, Option.mem_toList, List.mem_cons,
      List.not_mem_nil, or_false, forall_eq_or_imp, forall_eq, NftMatch.holds, hport]
    refine ⟨?_, ?_⟩
    · intro h
      obtain ⟨sig, hs, ⟨ip, hip, hh, hg⟩ | ⟨h6, hg⟩⟩ | ⟨ip, hip, range, hr, hh, ht⟩ := h
      · exact ⟨Or.inl ⟨ip, hip, hh⟩, Or.inl ⟨sig, hs, hg⟩⟩
      · exact ⟨Or.inr h6, Or.inl ⟨sig, hs, hg⟩⟩
      · exact ⟨Or.inl ⟨ip, hip, hh⟩, Or.inr ⟨range, hr, ht⟩⟩
    · intro h
      obtain ⟨⟨ip, hip, hh⟩ | ⟨ip, hip, hh⟩, ⟨sig, hs, hg⟩ | ⟨range, hr, ht⟩⟩ := h
      · exact Or.inl ⟨sig, hs, Or.inl ⟨ip, hip, hh, hg⟩⟩
      · exact Or.inr ⟨ip, hip, range, hr, hh, ht⟩
      · exact Or.inl ⟨sig, hs, Or.inr ⟨⟨ip, hip, hh⟩, hg⟩⟩
      · rw [towardsV4_of_isV6 (fromV6_isV6 hh)] at ht
        simp at ht

theorem addQuicBlockRule_iff (target : Target) :
    SomeRule reading p (addQuicBlockRule config target) ↔
      sourceIs reading target p ∧ goesTo .udp 443 p = true := by
  simp only [addQuicBlockRule, someRule_append, someRule_map, Option.mem_toList, List.mem_cons,
    List.not_mem_nil, or_false, forall_eq_or_imp, forall_eq, NftMatch.holds, ← and_assoc,
    exists_and_right, ipv6Of_iff hv, sourceIs, or_and_right]

theorem targetSteps_iff (quic : Bool) (target : Target) :
    SomeRule reading p (targetSteps config quic target) ↔ TargetDropped reading quic target p := by
  simp only [targetSteps, someRule_append, someRule_if, addBlockRules_iff hv,
    addVpnBlockRules_iff hv, addQuicBlockRule_iff hv, TargetDropped, Bool.or_eq_true, or_assoc]

omit hv in
theorem addDohDotBlockRules_iff :
    SomeRule reading p (addDohDotBlockRules config) ↔ EncryptedDns reading config p := by
  have hpair : ∀ port, SomeRule reading p
      [dropRule [.dport .tcp port] "guardtime-dot-tcp", dropRule [.dport .udp port] "guardtime-dot-udp"] ↔
      (goesTo .tcp port p = true ∨ goesTo .udp port p = true) := by
    intro port
    simp [SomeRule, rulesOf, dropRule, NftRule.holds, NftMatch.holds]
  simp only [addDohDotBlockRules, someRule_append, someRule_flatMap, someRule_map, hpair,
    List.mem_cons, List.not_mem_nil, or_false, forall_eq_or_imp, forall_eq, NftMatch.holds,
    encryptedDns_iff]

theorem policySteps_iff (args : SyncArgs) :
    SomeRule reading p (policySteps config args) ↔ Dropped reading config args p := by
  simp only [policySteps, someRule_append, someRule_flatMap, someRule_if, targetSteps_iff hv,
    addDohDotBlockRules_iff, Dropped]

end Nftables

namespace Iptables

/-- Some rule a script appends drops the packet in the chains of its family. -/
def SomeRule (reading : Reading) (p : Packet) (script : List (Step IptCommand)) : Prop :=
  ∃ rule ∈ rulesOf script, rule.holds reading p.isV6 p = true

theorem someRule_append {p : Packet} (xs ys : List (Step IptCommand)) :
    SomeRule reading p (xs ++ ys) ↔ SomeRule reading p xs ∨ SomeRule reading p ys := by
  simp [SomeRule, or_and_right, exists_or]

theorem someRule_flatMap {α : Type} {p : Packet} (xs : List α) (f : α → List (Step IptCommand)) :
    SomeRule reading p (xs.flatMap f) ↔ ∃ x ∈ xs, SomeRule reading p (f x) := by
  rw [SomeRule, rulesOf_flatMap]
  exact exists_mem_flatMap_iff

theorem someRule_map {α : Type} {p : Packet} (xs : List α) (key : IptChainKey)
    (exprs : α → List IptMatch) (comment : α → Option String) :
    SomeRule reading p (xs.map fun x => dropRule key (exprs x) (comment x)) ↔
      ∃ x ∈ xs, ∀ m ∈ exprs x, m.holds reading p.isV6 p = true := by
  simp [SomeRule, rulesOf, dropRule, IptRule.holds]

theorem someRule_if {p : Packet} (c : Prop) [Decidable c] (xs : List (Step IptCommand)) :
    SomeRule reading p (if c then xs else []) ↔ c ∧ SomeRule reading p xs := by
  split
  next h => simp [h]
  next h => simp [h, SomeRule, rulesOf]

theorem addressOf_iff {p : Packet} (target : Target) :
    (∃ address, addressOf p.isV6 target = some address ∧
      (IptMatch.source address).holds reading p.isV6 p = true) ↔ sourceIs reading target p := by
  simp only [sourceIs, addressOf, IptMatch.holds]
  cases hp : p.isV6 with
  | true =>
    refine ⟨?_, ?_⟩
    · intro h
      obtain ⟨ip, hip, hh⟩ := h
      exact Or.inr ⟨ip, hip, hh⟩
    · intro h
      obtain ⟨ip, _, hh⟩ | h := h
      · rw [fromV4_isV6 hh] at hp
        simp at hp
      · exact h
  | false =>
    refine ⟨?_, ?_⟩
    · intro h
      obtain ⟨ip, hip, hh⟩ := h
      exact Or.inl ⟨ip, hip, hh⟩
    · intro h
      obtain h | ⟨ip, _, hh⟩ := h
      · exact h
      · rw [fromV6_isV6 hh] at hp
        simp at hp

variable {config : Config} {p : Packet}

theorem addBlockRules_iff (target : Target) :
    SomeRule reading p (addBlockRules p.isV6 target) ↔
      sourceIs reading target p ∨ macIs reading target p := by
  simp only [addBlockRules, someRule_append, someRule_map, Option.mem_toList, List.mem_singleton,
    forall_eq, addressOf_iff, macIs]
  rfl

theorem addVpnBlockRules_iff (target : Target) :
    SomeRule reading p (addVpnBlockRules p.isV6 target) ↔ sourceIs reading target p ∧
      ((∃ sig ∈ VPN_PORT_SIGNATURES, goesTo sig.protocol sig.port p = true) ∨
        ∃ range ∈ VPN_IP_RANGES, reading.towardsV4 range.cidr p = true) := by
  have hrange : ∀ address, SomeRule reading p (if p.isV6 = true then [] else
      VPN_IP_RANGES.map fun range => dropRule (FILTER_CHAIN p.isV6)
        [.source address, .destination range.cidr]
        (some ("guardtime-vpn:" ++ target.deviceId ++ ":ip"))) ↔
      (IptMatch.source address).holds reading p.isV6 p = true ∧
        ∃ range ∈ VPN_IP_RANGES, reading.towardsV4 range.cidr p = true := by
    intro address
    cases hp : p.isV6 with
    | true =>
      simp [SomeRule, rulesOf, towardsV4_of_isV6 hp]
    | false =>
      simp only [Bool.false_eq_true, if_false, someRule_map, List.mem_cons, List.not_mem_nil,
        or_false, forall_eq_or_imp, forall_eq, IptMatch.holds, hp]
      refine ⟨?_, ?_⟩
      · intro h
        obtain ⟨range, hr, hh, ht⟩ := h
        exact ⟨hh, range, hr, ht⟩
      · intro h
        obtain ⟨hh, range, hr, ht⟩ := h
        exact ⟨range, hr, hh, ht⟩
  simp only [addVpnBlockRules, someRule_append, someRule_flatMap, someRule_map, hrange,
    Option.mem_toList, List.mem_cons, List.not_mem_nil, or_false, forall_eq_or_imp, forall_eq]
  rw [← addressOf_iff]
  refine ⟨?_, ?_⟩
  · intro h
    obtain ⟨address, ha, ⟨sig, hs, hh, hg⟩ | ⟨hh, hr⟩⟩ := h
    · exact ⟨⟨address, ha, hh⟩, Or.inl ⟨sig, hs, hg⟩⟩
    · exact ⟨⟨address, ha, hh⟩, Or.inr hr⟩
  · intro h
    obtain ⟨⟨address, ha, hh⟩, ⟨sig, hs, hg⟩ | hr⟩ := h
    · exact ⟨address, ha, Or.inl ⟨sig, hs, hh, hg⟩⟩
    · exact ⟨address, ha, Or.inr ⟨hh, hr⟩⟩

theorem addQuicBlockRule_iff (target : Target) :
    SomeRule reading p (addQuicBlockRule p.isV6 target) ↔
      sourceIs reading target p ∧ goesTo .udp 443 p = true := by
  simp only [addQuicBlockRule, someRule_map, Option.mem_toList, List.mem_cons, List.not_mem_nil,
    or_false, forall_eq_or_imp, forall_eq, ← and_assoc, exists_and_right, addressOf_iff]
  rfl

theorem targetSteps_iff (quic : Bool) (target : Target) :
    SomeRule reading p (targetSteps p.isV6 quic target) ↔ TargetDropped reading quic target p := by
  simp only [targetSteps, someRule_append, someRule_if, addBlockRules_iff, addVpnBlockRules_iff,
    addQuicBlockRule_iff, TargetDropped, Bool.or_eq_true, or_assoc]

theorem dohDotRules_iff :
    SomeRule reading p (dohDotRules config p.isV6) ↔ EncryptedDns reading config p := by
  have hpair : ∀ port, SomeRule reading p
      [dropRule (DOH_CHAIN p.isV6) [.dport .tcp port] none,
        dropRule (DOH_CHAIN p.isV6) [.dport .udp port] none] ↔
      (goesTo .tcp port p = true ∨ goesTo .udp port p = true) := by
    intro port
    simp [SomeRule, rulesOf, dropRule, IptRule.holds, IptMatch.holds]
  simp only [dohDotRules, someRule_append, someRule_flatMap, hpair, encryptedDns_iff]
  cases hp : p.isV6 with
  | true =>
    simp [SomeRule, rulesOf, towardsV4_of_isV6 hp]
  | false =>
    simp only [Bool.false_eq_true, if_false, someRule_map]
    simp [IptMatch.holds, hp]

/-- An `ensureRule` that finds no such rule puts it first. -/
theorem ensureRule_fresh {key : IptChainKey} {rule : IptRule} {w : World IptCommand IptKernel}
    (hfresh : rule ∉ w.kernel.rulesAt key)
    (hok : ((ensureRule key rule).exec (atomic fun _ => true) w).1 = true) :
    ((ensureRule key rule).exec (atomic fun _ => true) w).2.kernel.rulesAt key =
      rule :: w.kernel.rulesAt key := by
  have hcheck : issue (atomic fun _ => true) (.check key rule) w =
      (false, ⟨w.kernel, w.issued ++ [.check key rule]⟩) := by
    simp [issue, atomic, respondBy, IptCommand.apply, hfresh]
  simp only [ensureRule, Step.exec, hcheck, Bool.false_eq_true, if_false] at hok ⊢
  have hv := issue_view (atomic_effects (fun _ => true) key) (.insertFirst key rule)
    ⟨w.kernel, w.issued ++ [.check key rule]⟩
  rw [hok, if_pos rfl] at hv
  simpa [IptCommand.rulesEffect] using hv

/-- A completed script that ensures one rule in a chain, and spares it otherwise, puts a fresh
rule first. -/
theorem runScript_ensure_fresh {key : IptChainKey} {rule : IptRule}
    {before after : List (Step IptCommand)} {w : World IptCommand IptKernel}
    (hbefore : ∀ s ∈ before, ∀ c ∈ s.commands, ∀ v, c.rulesEffect key v = v)
    (hafter : ∀ s ∈ after, ∀ c ∈ s.commands, ∀ v, c.rulesEffect key v = v)
    (hfresh : rule ∉ w.kernel.rulesAt key)
    (hok : (runScript (atomic fun _ => true) (before ++ (ensureRule key rule :: after)) w).1 = true) :
    (runScript (atomic fun _ => true) (before ++ (ensureRule key rule :: after)) w).2.kernel.rulesAt
      key = rule :: w.kernel.rulesAt key := by
  have he := atomic_effects (fun _ => true) key
  rw [← List.singleton_append] at hok ⊢
  obtain ⟨_, heq⟩ := runScript_append_ok hok
  rw [heq] at hok ⊢
  obtain ⟨hensure, heq⟩ := runScript_append_ok hok
  have hb := runScript_view_neutral he hbefore w
  rw [heq, runScript_view_neutral he hafter, runScript_one]
  rw [runScript_one] at hensure
  rw [ensureRule_fresh (by rw [hb]; exact hfresh) hensure, hb]

theorem drops_spare {key key' : IptChainKey} {s : Step IptCommand} (h : Drops key s)
    (hk : key ≠ key') {c : IptCommand} (hc : c ∈ s.commands) (v : List IptRule) :
    c.rulesEffect key' v = v := by
  obtain ⟨_, _, rfl⟩ := h
  rw [List.mem_singleton.mp hc]
  simp [IptCommand.rulesEffect, hk]

/-- The jumps a rebuild from nothing leaves in the forward chain. -/
def forwardChains (args : SyncArgs) : List String :=
  (if args.enableDohBlock then ["GUARDTIME_DOH"] else []) ++ ["GUARDTIME_BLOCK"]

theorem mainPass_forward {config : Config} {ipv6 : Bool} {args : SyncArgs}
    {w : World IptCommand IptKernel} (hclean : w.kernel.rulesAt (FORWARD ipv6) = [])
    (hok : (runScript (atomic fun _ => true) (mainPass config ipv6 args) w).1 = true) :
    (runScript (atomic fun _ => true) (mainPass config ipv6 args) w).2.kernel.rulesAt (FORWARD ipv6) =
      (forwardChains args).map fun chain => ⟨[], none, .jump chain⟩ := by
  have he := atomic_effects (fun _ => true) (FORWARD ipv6)
  have hdns : ∀ s ∈ (if args.enableDnsRedirect then ensureDnsRedirect args.dnsRedirectIp ipv6 else []),
      ∀ c ∈ s.commands, ∀ v, c.rulesEffect (FORWARD ipv6) v = v := by
    intro s hs c hc
    split at hs
    next =>
      unfold ensureDnsRedirect at hs
      split at hs
      next => simp at hs
      next =>
        simp only [List.mem_cons, List.not_mem_nil, or_false] at hs
        rcases hs with rfl | rfl | rfl | rfl | rfl | rfl <;>
          simp only [ensureRule, Step.commands, List.mem_cons, List.not_mem_nil, or_false] at hc <;>
          rcases hc with rfl | rfl <;>
          simp [IptCommand.rulesEffect, DNS_CHAIN, FORWARD, PREROUTING]
    next => simp at hs
  have hpolicy : ∀ s ∈ flushFilterChain ipv6 ++ policySteps ipv6 args,
      ∀ c ∈ s.commands, ∀ v, c.rulesEffect (FORWARD ipv6) v = v := by
    intro s hs c hc
    rcases List.mem_append.mp hs with hs | hs
    · rw [List.mem_singleton.mp hs] at hc
      rw [List.mem_singleton.mp hc]
      simp [IptCommand.rulesEffect, FILTER_CHAIN, FORWARD]
    · exact drops_spare (policySteps_drops ipv6 args hs) (by simp [FILTER_CHAIN, FORWARD]) hc
  have hsplit : mainPass config ipv6 args =
      ([.run (.newChain (FILTER_CHAIN ipv6)) true] ++
        (ensureRule (FORWARD ipv6) ⟨[], none, .jump (FILTER_CHAIN ipv6).chain⟩ ::
          (flushFilterChain ipv6 ++ policySteps ipv6 args))) ++
      ((if args.enableDohBlock then ensureDohDotBlock config ipv6 else []) ++
        (if args.enableDnsRedirect then ensureDnsRedirect args.dnsRedirectIp ipv6 else [])) := by
    rw [mainPass_eq]
    simp [ensureFilterChain]
  rw [hsplit] at hok ⊢
  obtain ⟨hblock, heq⟩ := runScript_append_ok hok
  rw [heq] at hok ⊢
  have hjump := runScript_ensure_fresh
    (by simp [Step.commands, IptCommand.rulesEffect]) hpolicy (by simp [hclean]) hblock
  obtain ⟨hdoh, heq⟩ := runScript_append_ok hok
  rw [heq, runScript_view_neutral he hdns]
  unfold forwardChains
  split at hdoh
  next henabled =>
    rw [if_pos henabled, if_pos henabled]
    have hsteps : ensureDohDotBlock config ipv6 =
        [.run (.newChain (DOH_CHAIN ipv6)) true, .run (.flush (DOH_CHAIN ipv6)) false] ++
        (ensureRule (FORWARD ipv6) ⟨[], none, .jump (DOH_CHAIN ipv6).chain⟩ ::
          dohDotRules config ipv6) := rfl
    rw [hsteps] at hdoh ⊢
    rw [runScript_ensure_fresh (by simp [Step.commands, IptCommand.rulesEffect, DOH_CHAIN, FORWARD])
      (fun s hs c hc => drops_spare (dohDotRules_drops config ipv6 hs)
        (by simp [DOH_CHAIN, FORWARD]) hc) ?_ hdoh, hjump, hclean]
    · rfl
    · rw [hjump, hclean]
      simp [DOH_CHAIN, FILTER_CHAIN]
  next henabled =>
    rw [if_neg henabled, if_neg henabled, runScript_nil, hjump, hclean]
    rfl

theorem mainPass_doh {config : Config} {ipv6 : Bool} {args : SyncArgs}
    (hdoh : args.enableDohBlock = true) {w : World IptCommand IptKernel}
    (hok : (runScript (atomic fun _ => true) (mainPass config ipv6 args) w).1 = true) :
    (runScript (atomic fun _ => true) (mainPass config ipv6 args) w).2.kernel.rulesAt (DOH_CHAIN ipv6) =
      rulesOf (dohDotRules config ipv6) := by
  have he := atomic_effects (fun _ => true) (DOH_CHAIN ipv6)
  have hreset : ∀ v, (IptCommand.flush (DOH_CHAIN ipv6)).rulesEffect (DOH_CHAIN ipv6) v = [] := by
    simp [IptCommand.rulesEffect]
  have hbetween : ∀ s ∈ [ensureRule (FORWARD ipv6) ⟨[], none, .jump (DOH_CHAIN ipv6).chain⟩],
      ∀ c ∈ s.commands, ∀ v, c.rulesEffect (DOH_CHAIN ipv6) v = v := by
    simp [ensureRule, Step.commands, IptCommand.rulesEffect, FORWARD, DOH_CHAIN]
  have hafter : ∀ s ∈ (if args.enableDnsRedirect then ensureDnsRedirect args.dnsRedirectIp ipv6 else []),
      ∀ c ∈ s.commands, ∀ v, c.rulesEffect (DOH_CHAIN ipv6) v = v := by
    intro s hs c hc
    split at hs
    next =>
      exact (ensureDnsRedirect_commands hs hc).spares (by simp [DNS_CHAIN, DOH_CHAIN])
        (by simp [DOH_CHAIN, FORWARD]) (by simp [DOH_CHAIN, PREROUTING])
    next => simp at hs
  have hsplit : mainPass config ipv6 args = (ensureFilterChain ipv6 ++ (flushFilterChain ipv6 ++
      (policySteps ipv6 args ++ [.run (.newChain (DOH_CHAIN ipv6)) true]))) ++
      .run (.flush (DOH_CHAIN ipv6)) false ::
        ([ensureRule (FORWARD ipv6) ⟨[], none, .jump (DOH_CHAIN ipv6).chain⟩] ++
          (dohDotRules config ipv6 ++
            (if args.enableDnsRedirect then ensureDnsRedirect args.dnsRedirectIp ipv6 else []))) := by
    rw [mainPass_eq]
    simp [ensureDohDotBlock, hdoh]
  rw [hsplit] at hok ⊢
  rw [runScript_rebuild he hreset hbetween
    (fun s hs => drops_neutral (dohDotRules_drops config ipv6 hs)) hafter hok,
    foldl_appends fun s hs => appends_of_drops (dohDotRules_drops config ipv6 hs), List.nil_append]

theorem rulesOf_drops {key : IptChainKey} {script : List (Step IptCommand)}
    (h : ∀ s ∈ script, Drops key s) : ∀ rule ∈ rulesOf script, rule.target = .drop := by
  intro rule hr
  obtain ⟨s, hs, he⟩ := List.mem_filterMap.mp hr
  obtain ⟨exprs, comment, rfl⟩ := h s hs
  cases Option.some.inj he
  rfl

/-- A chain of dropping rules drops what one of its rules drops. -/
theorem chainVerdict_drops (reading : Reading) {k : IptKernel} {chain : String} {script : List (Step IptCommand)}
    (h : k.rulesAt ⟨p.isV6, .filter, chain⟩ = rulesOf script)
    (hdrop : ∀ rule ∈ rulesOf script, rule.target = .drop) (depth : Nat) :
    (chainVerdict reading k p.isV6 p (depth + 1) chain = some .drop ↔ SomeRule reading p script) ∧
      (chainVerdict reading k p.isV6 p (depth + 1) chain = some .drop ∨
        chainVerdict reading k p.isV6 p (depth + 1) chain = none) := by
  rw [chainVerdict, h, walk_drops hdrop]
  split
  next hany => exact ⟨by simpa [SomeRule] using List.any_eq_true.mp hany, Or.inl rfl⟩
  next hany => exact ⟨by simpa [SomeRule] using hany, Or.inr rfl⟩

theorem iptDrops_iff {k : IptKernel} {args : SyncArgs}
    (hforward : k.rulesAt (FORWARD p.isV6) =
      (forwardChains args).map fun chain => ⟨[], none, .jump chain⟩)
    (hblock : k.rulesAt (FILTER_CHAIN p.isV6) = rulesOf (policySteps p.isV6 args))
    (hdoh : args.enableDohBlock = true →
      k.rulesAt (DOH_CHAIN p.isV6) = rulesOf (dohDotRules config p.isV6)) (depth : Nat) :
    iptDrops reading k (depth + 2) p = true ↔ Dropped reading config args p := by
  obtain ⟨hblockIff, hblockEnd⟩ := chainVerdict_drops reading hblock
    (rulesOf_drops fun s hs => policySteps_drops p.isV6 args hs) depth
  have hdohBoth := fun h => chainVerdict_drops reading (hdoh h)
    (rulesOf_drops fun s hs => dohDotRules_drops config p.isV6 hs) depth
  have hends : ∀ chain ∈ forwardChains args,
      chainVerdict reading k p.isV6 p (depth + 1) chain = some .drop ∨
        chainVerdict reading k p.isV6 p (depth + 1) chain = none := by
    intro chain hc
    rcases List.mem_append.mp hc with hc | hc
    · split at hc
      next h => rw [List.mem_singleton.mp hc]; exact (hdohBoth h).2
      next => simp at hc
    · rw [List.mem_singleton.mp hc]; exact hblockEnd
  have hpolicy : SomeRule reading p (policySteps p.isV6 args) ↔
      ∃ target ∈ args.targets, TargetDropped reading args.enableQuicBlockGlobal target p := by
    simp only [policySteps, someRule_flatMap, targetSteps_iff]
  simp only [iptDrops, decide_eq_true_eq]
  rw [chainVerdict, show k.rulesAt ⟨p.isV6, .filter, "FORWARD"⟩ = _ from hforward, walk_jumps hends]
  refine ⟨?_, ?_⟩
  · intro h
    obtain ⟨chain, hc, hdrop⟩ := h
    rcases List.mem_append.mp hc with hc | hc
    · split at hc
      next h =>
        rw [List.mem_singleton.mp hc] at hdrop
        exact Or.inr ⟨h, dohDotRules_iff.mp ((hdohBoth h).1.mp hdrop)⟩
      next => simp at hc
    · rw [List.mem_singleton.mp hc] at hdrop
      exact Or.inl (hpolicy.mp (hblockIff.mp hdrop))
  · intro h
    obtain h | ⟨h, hencrypted⟩ := h
    · exact ⟨"GUARDTIME_BLOCK", by simp [forwardChains], hblockIff.mpr (hpolicy.mpr h)⟩
    · exact ⟨"GUARDTIME_DOH", by simp [forwardChains, h],
        (hdohBoth h).1.mpr (dohDotRules_iff.mpr hencrypted)⟩

theorem mainPass_standing {config : Config} {ipv6 : Bool} {args : SyncArgs} {fate : Nat → Bool}
    {w : World IptCommand IptKernel} (hw : Standing w.kernel) :
    Standing (runScript (atomic fate) (mainPass config ipv6 args) w).2.kernel := by
  refine runScript_invariant ?_ hw
  intro s hs c hc n k hk
  have hr : ∀ ipv6 saved, c ≠ .restore ipv6 saved := by
    rintro ipv6' saved rfl
    have := mainPass_commands hs hc
    cases this
  exact respondBy_keeps (fun k k' hk ha family =>
    ⟨IptCommand.apply_keeps_chain hr ha (hk family).1,
      IptCommand.apply_keeps_chain hr ha (hk family).2⟩) n hk

/-- A first pass over a standing kernel, no command being refused, is applied. -/
theorem cleanPass_eq {config : Config} (hd : config.dryRun = false) (ipv6 : Bool) (args : SyncArgs)
    {w : World IptCommand IptKernel} (hw : Standing w.kernel) :
    (runScript (atomic fun _ => true) (mainPass config ipv6 args) ⟨w.kernel, w.issued ++ [.save ipv6]⟩).1 =
        true ∧
      syncFamily config (atomic fun _ => true) ipv6 args none w =
        ⟨.applied, some (buildFirewallSyncSignature args ipv6),
          (runScript (atomic fun _ => true) (mainPass config ipv6 args)
            ⟨w.kernel, w.issued ++ [.save ipv6]⟩).2⟩ := by
  obtain ⟨hsnap, _⟩ := snapshot_atomic (fun _ => true) ipv6 w
  have hmain := mainPass_completes config ipv6 args
    (show Standing (⟨w.kernel, w.issued ++ [.save ipv6]⟩ : World IptCommand IptKernel).kernel from hw)
  refine ⟨hmain, ?_⟩
  simp [syncFamily, runUnlessDry, hd, hsnap, hmain]

/-- It leaves a main pass. -/
theorem cleanPass {config : Config} (hd : config.dryRun = false) (ipv6 : Bool) (args : SyncArgs)
    {w : World IptCommand IptKernel} (hw : Standing w.kernel)
    (hclean : w.kernel.rulesAt (FORWARD ipv6) = []) {k : IptKernel}
    (hk : (syncFamily config (atomic fun _ => true) ipv6 args none w).world.kernel = k) :
    (syncFamily config (atomic fun _ => true) ipv6 args none w).outcome = .applied ∧ Standing k ∧
      k.rulesAt (FORWARD ipv6) = (forwardChains args).map (fun chain => ⟨[], none, .jump chain⟩) ∧
      k.rulesAt (FILTER_CHAIN ipv6) = rulesOf (policySteps ipv6 args) ∧
      (args.enableDohBlock = true → k.rulesAt (DOH_CHAIN ipv6) = rulesOf (dohDotRules config ipv6)) := by
  obtain ⟨hmain, hcall⟩ := cleanPass_eq hd ipv6 args hw
  rw [hcall] at hk ⊢
  subst hk
  exact ⟨rfl, mainPass_standing hw, mainPass_forward hclean hmain,
    mainPass_rules (atomic_effects _ _) hmain, fun hdoh => mainPass_doh hdoh hmain⟩

/-- The kernel after a rebuild from nothing with every command succeeding. -/
def cleanRebuild (config : Config) (args : SyncArgs) : IptKernel :=
  (stateAfter config (fun _ => true) args ⟨fun _ => none, .empty⟩).kernel

theorem cleanRebuild_pass {config : Config} (hd : config.dryRun = false) (args : SyncArgs)
    (ipv6 : Bool) (hv : ipv6 = true → config.enableIpv6 = true) :
    ∃ pass, (syncOn config (fun _ => true) args ⟨fun _ => none, .empty⟩).family ipv6 = some pass ∧
      Standing (passStart config (fun _ => true) args ⟨fun _ => none, .empty⟩ ipv6).kernel := by
  have hempty : IptKernel.empty.rulesAt (FORWARD false) = [] := rfl
  obtain ⟨houtcome, hstanding, _⟩ := cleanPass hd false (familyArgs config args false)
    (w := ⟨.empty, []⟩) standing_empty hempty rfl
  cases ipv6 with
  | false => exact ⟨_, rfl, standing_empty⟩
  | true =>
    cases hpass : (syncOn config (fun _ => true) args ⟨fun _ => none, .empty⟩).family true with
    | some pass => exact ⟨pass, rfl, hstanding⟩
    | none => simp [syncOn, Call.family, sync, houtcome, hv rfl, Outcome.returned] at hpass

theorem cleanRebuild_drops_iff (reading : Reading) {config : Config} (hd : config.dryRun = false) (args : SyncArgs)
    {p : Packet} (hv : p.isV6 = true → config.enableIpv6 = true) (depth : Nat) :
    iptDrops reading (cleanRebuild config args) (depth + 2) p = true ↔ Dropped reading config args p := by
  obtain ⟨pass, hpass, hstanding⟩ := cleanRebuild_pass hd args p.isV6 hv
  have hclean := passStart_rules hd (fun _ => true) args ⟨fun _ => none, .empty⟩ (FORWARD p.isV6)
  obtain ⟨_, _, hforward, hblock, hdoh⟩ := cleanPass hd p.isV6 (familyArgs config args p.isV6)
    hstanding (hclean.trans rfl) (congrArg (·.world.kernel) (syncOn_family hpass)).symm
  have hend : ∀ key : IptChainKey, key.ipv6 = p.isV6 →
      (cleanRebuild config args).rulesAt key = pass.world.kernel.rulesAt key :=
    fun key hk => pass_rules_after hd (hk ▸ hpass)
  refine (iptDrops_iff ((hend (FORWARD p.isV6) rfl).trans hforward)
    ((hend (FILTER_CHAIN p.isV6) rfl).trans hblock)
    (fun h => (hend (DOH_CHAIN p.isV6) rfl).trans (hdoh h)) depth).trans ?_
  cases p.isV6 <;> rfl

end Iptables

namespace Nftables

/-- The kernel after a rebuild from nothing with every command succeeding. -/
def cleanRebuild (config : Config) (args : SyncArgs) : NftRuleset :=
  (syncOn config (fun _ => true) args ⟨none, .empty⟩).world.kernel

theorem rulesOf_drops {script : List (Step NftCommand)} (h : ∀ s ∈ script, Drops s) :
    ∀ rule ∈ rulesOf script, rule.statement = .drop := by
  intro rule hr
  obtain ⟨s, hs, he⟩ := List.mem_filterMap.mp hr
  obtain ⟨exprs, comment, rfl⟩ := h s hs
  cases Option.some.inj he
  rfl

theorem cleanRebuild_drops_iff (reading : Reading) {config : Config} (hd : config.dryRun = false) (args : SyncArgs)
    {p : Packet} (hv : p.isV6 = true → config.enableIpv6 = true) :
    nftDrops reading (cleanRebuild config args) p = true ↔ Dropped reading config args p := by
  have hrules : (cleanRebuild config args).rulesAt FORWARD_CHAIN = rulesOf (policySteps config args) :=
    freshRebuild_eq hd args
  have hdrop := rulesOf_drops fun s hs => policySteps_drops config args hs
  simp only [nftDrops, decide_eq_true_eq]
  rw [hrules, nftVerdict_drop_iff hdrop]
  exact policySteps_iff hv args

end Nftables

/-- After a rebuild from nothing both backends drop the same packets, those the policy drops. -/
theorem backends_agree {config : Config} (hd : config.dryRun = false) (reading : Reading)
    (args : SyncArgs) (depth : Nat) {p : Packet} (hv : p.isV6 = true → config.enableIpv6 = true) :
    iptDrops reading (Iptables.cleanRebuild config args) (depth + 2) p =
        nftDrops reading (Nftables.cleanRebuild config args) p ∧
      (nftDrops reading (Nftables.cleanRebuild config args) p = true ↔
        Dropped reading config args p) := by
  have hipt := Iptables.cleanRebuild_drops_iff reading hd args hv depth
  have hnft := Nftables.cleanRebuild_drops_iff reading hd args hv
  exact ⟨Bool.eq_iff_iff.mpr (hipt.trans hnft.symm), hnft⟩

/-- A reading under which texts denote what the worked case needs. -/
def sampleReading : Reading where
  v4 := fun address source => address = "192.168.1.50" && source = 0xC0A80132#32
  v6 := fun address source => address = "2001:db8::50" && source = 0x20010DB8000000000000000000000050#128
  mac := fun address source => address = "aa:bb:cc:dd:ee:ff" && source = 0xAABBCCDDEEFF#48
  other := fun _ _ => false

def blockedPacket : Packet :=
  ⟨0x020000000001#48, .v6 0x20010DB8000000000000000000000050#128 1#128, .tcp 50000#16 443#16⟩

theorem backends_agree_blocked :
    iptDrops sampleReading (Iptables.cleanRebuild sampleConfig oneBlocked) 2 blockedPacket = true ∧
      nftDrops sampleReading (Nftables.cleanRebuild sampleConfig oneBlocked) blockedPacket = true := by
  have h := backends_agree (show sampleConfig.dryRun = false from rfl) sampleReading oneBlocked 0
    (show blockedPacket.isV6 = true → sampleConfig.enableIpv6 = true from fun _ => rfl)
  have hnft : nftDrops sampleReading (Nftables.cleanRebuild sampleConfig oneBlocked)
      blockedPacket = true := by decide +kernel
  exact ⟨h.1.trans hnft, hnft⟩

end GuardTime
