import GuardTime.RestartedIptables
import Mathlib.Data.List.Lex

namespace GuardTime

/-- The first code unit of a character tells whether a second one follows. -/
theorem charCodes_cons_inj {c c' : Char} {text text' : List Char}
    (h : charCodes (String.ofList (c :: text)) = charCodes (String.ofList (c' :: text'))) :
    c = c' ∧ charCodes (String.ofList text) = charCodes (String.ofList text') := by
  have hc : c.toNat < 0xD800 ∨ 0xDFFF < c.toNat ∧ c.toNat < 0x110000 := c.valid
  have hc' : c'.toNat < 0xD800 ∨ 0xDFFF < c'.toNat ∧ c'.toNat < 0x110000 := c'.valid
  simp only [charCodes, codeUnits, String.toList_ofList, List.flatMap_cons] at h ⊢
  split at h <;> split at h <;>
    simp only [List.cons_append, List.nil_append, List.cons.injEq] at h
  · exact ⟨Char.toNat_inj.mp h.1, h.2⟩
  · omega
  · omega
  · exact ⟨Char.toNat_inj.mp (by omega), h.2.2⟩

theorem charCodes_injective : Function.Injective charCodes := by
  have hne : ∀ (c : Char) (text : List Char), charCodes (String.ofList (c :: text)) ≠ [] := by
    intro c text
    simp only [charCodes, codeUnits, String.toList_ofList, List.flatMap_cons]
    split <;> simp
  have hlist : ∀ text text' : List Char,
      charCodes (String.ofList text) = charCodes (String.ofList text') → text = text' := by
    intro text
    induction text with
    | nil =>
      intro text' h
      cases text' with
      | nil => rfl
      | cons c' text' => exact absurd h.symm (hne c' text')
    | cons c text ih =>
      intro text' h
      cases text' with
      | nil => exact absurd h (hne c text)
      | cons c' text' =>
        obtain ⟨rfl, htail⟩ := charCodes_cons_inj h
        rw [ih text' htail]
  intro a b h
  have := hlist a.toList b.toList (by simpa using h)
  simpa using congrArg String.ofList this

instance : Std.Total notAfter where
  total a b := by
    rcases le_total (charCodes a.deviceId) (charCodes b.deviceId) with h | h
    · exact Or.inl (not_lt.mpr h)
    · exact Or.inr (not_lt.mpr h)

instance : IsTrans NormalizedTarget notAfter where
  trans _ _ _ hab hbc := not_lt.mpr ((not_lt.mp hab).trans (not_lt.mp hbc))

theorem notAfter_antisymm {a b : NormalizedTarget} (hab : notAfter a b) (hba : notAfter b a) :
    a.deviceId = b.deviceId :=
  charCodes_injective (le_antisymm (not_lt.mp hab) (not_lt.mp hba))

/-- The order in which targets with distinct device ids are listed does not matter. -/
theorem signature_of_perm {args : SyncArgs} {targets : List Target} (hperm : targets.Perm args.targets)
    (hdistinct : (args.targets.map Target.deviceId).Nodup) (enableIpv6 : Bool) :
    buildFirewallSyncSignature { args with targets } enableIpv6 =
      buildFirewallSyncSignature args enableIpv6 := by
  have hsort : (targets.map normalizeTarget).insertionSort notAfter =
      (args.targets.map normalizeTarget).insertionSort notAfter := by
    refine List.Perm.eq_of_pairwise ?_ (List.pairwise_insertionSort notAfter _)
      (List.pairwise_insertionSort notAfter _) ?_
    · intro a b ha hb hab hba
      rw [List.mem_insertionSort] at ha hb
      have ha := (hperm.map normalizeTarget).subset ha
      have hids : ((args.targets.map normalizeTarget).map NormalizedTarget.deviceId).Nodup := by
        rwa [List.map_map]
      exact List.inj_on_of_nodup_map hids ha hb (notAfter_antisymm hab hba)
    · exact (List.perm_insertionSort notAfter _).trans
        ((hperm.map normalizeTarget).trans (List.perm_insertionSort notAfter _).symm)
  simp only [buildFirewallSyncSignature, hsort]

/-- What the nat table does with a packet that it does not leave to the next rule. -/
inductive Redirection where
  | unchanged
  | destination (text : String)
deriving DecidableEq

/-- Where the rules of a nat base chain send a packet. -/
def nftRedirection (reading : Reading) (p : Packet) : List NftRule → Redirection
  | [] => .unchanged
  | rule :: rules =>
    match rule.holds reading p, rule.statement with
    | true, .dnat destination => .destination destination
    | _, _ => nftRedirection reading p rules

/-- Where the redirect table of the packet's family sends it. -/
def nftRedirects (reading : Reading) (r : NftRuleset) (p : Packet) : Redirection :=
  nftRedirection reading p
    (r.rulesAt (if p.isV6 then Nftables.NAT_CHAIN_V6 else Nftables.NAT_CHAIN))

/-- Walks down a chain of the nat table; `none` when the packet falls off its end. -/
def natWalk (reading : Reading) (ipv6 : Bool) (enter : String → Option Redirection) (p : Packet) :
    List IptRule → Option Redirection
  | [] => none
  | rule :: rules =>
    if rule.holds reading ipv6 p then
      match rule.target with
      | .drop => some .unchanged
      | .dnat destination => some (.destination destination)
      | .jump chain => (enter chain).orElse fun _ => natWalk reading ipv6 enter p rules
      | .other target =>
        if target = "ACCEPT" then some .unchanged else natWalk reading ipv6 enter p rules
    else natWalk reading ipv6 enter p rules

/-- What a chain of the nat table does with a packet, jumps nested up to `depth`. -/
def natVerdict (reading : Reading) (k : IptKernel) (ipv6 : Bool) (p : Packet) :
    Nat → String → Option Redirection
  | 0, _ => none
  | depth + 1, chain =>
    natWalk reading ipv6 (natVerdict reading k ipv6 p depth) p (k.rulesAt ⟨ipv6, .nat, chain⟩)

/-- Where the nat table of the packet's family sends it. -/
def iptRedirects (reading : Reading) (k : IptKernel) (depth : Nat) (p : Packet) : Redirection :=
  (natVerdict reading k p.isV6 p depth "PREROUTING").getD .unchanged

theorem natVerdict_congr {reading : Reading} {k k' : IptKernel} {ipv6 : Bool} {p : Packet}
    (h : ∀ chain, k.rulesAt ⟨ipv6, .nat, chain⟩ = k'.rulesAt ⟨ipv6, .nat, chain⟩) (depth : Nat) :
    natVerdict reading k ipv6 p depth = natVerdict reading k' ipv6 p depth := by
  induction depth with
  | zero => rfl
  | succ depth ih =>
    funext chain
    simp only [natVerdict, ih, h]

theorem chainVerdict_congr {reading : Reading} {k k' : IptKernel} {ipv6 : Bool} {p : Packet}
    (h : ∀ chain, k.rulesAt ⟨ipv6, .filter, chain⟩ = k'.rulesAt ⟨ipv6, .filter, chain⟩) (depth : Nat) :
    chainVerdict reading k ipv6 p depth = chainVerdict reading k' ipv6 p depth := by
  induction depth with
  | zero => rfl
  | succ depth ih =>
    funext chain
    simp only [chainVerdict, ih, h]

/-- The rules of a policy read nothing but the normal form of a target. -/
theorem targetDropped_normal {reading : Reading} {quic : Bool} {target : Target} {p : Packet} :
    TargetDropped reading quic target p ↔
      TargetDropped reading quic (normalizeTarget target).toTarget p := by
  simp only [TargetDropped, sourceIs, macIs, normalizeTarget, NormalizedTarget.toTarget,
    truthy_truthy]

theorem dropped_of_signature {reading : Reading} {config : Config} {a b : SyncArgs} {enableIpv6 : Bool}
    (h : buildFirewallSyncSignature a enableIpv6 = buildFirewallSyncSignature b enableIpv6)
    {p : Packet} (hd : Dropped reading config a p) : Dropped reading config b p := by
  have hq : a.enableQuicBlockGlobal = b.enableQuicBlockGlobal :=
    congrArg SyncSignature.enableQuicBlockGlobal h
  have hdoh : a.enableDohBlock = b.enableDohBlock := congrArg SyncSignature.enableDohBlock h
  obtain ⟨target, ht, hdrop⟩ | hencrypted := hd
  · have hmem := (signature_targets_perm h).subset (List.mem_map.mpr ⟨target, ht, rfl⟩)
    obtain ⟨target', ht', hsame⟩ := List.mem_map.mp hmem
    refine Or.inl ⟨target', ht', ?_⟩
    rw [targetDropped_normal, hsame, ← hq]
    exact targetDropped_normal.mp hdrop
  · exact Or.inr (hdoh ▸ hencrypted)

theorem truthy_some_inj {x y : String} (h : truthy (some x) = truthy (some y)) : x = y := by
  by_cases hx : x = "" <;> by_cases hy : y = "" <;> simp_all [truthy, Option.filter]

theorem redirect_of_signature {a b : SyncArgs} {enableIpv6 : Bool}
    (h : buildFirewallSyncSignature a enableIpv6 = buildFirewallSyncSignature b enableIpv6) :
    a.enableDnsRedirect = b.enableDnsRedirect ∧ a.dnsRedirectIp = b.dnsRedirectIp ∧
      a.dnsRedirectIpv6 = b.dnsRedirectIpv6 :=
  ⟨congrArg SyncSignature.enableDnsRedirect h,
    truthy_some_inj (congrArg SyncSignature.dnsRedirectIp h),
    truthy_some_inj (congrArg SyncSignature.dnsRedirectIpv6 h)⟩

namespace Nftables

theorem redirectV6Pass_completes (config : Config) (args : SyncArgs) (w : World NftCommand NftRuleset) :
    (runScript (reliableRollback fun _ => true) (redirectV6Pass config args) w).1 = true := by
  unfold redirectV6Pass
  split
  next => exact dnsRedirectSteps_completes _ _ _
  next => rfl

theorem freshSync_completes (config : Config) (args : SyncArgs) :
    (freshSync config (fun _ => true) args .empty).outcome = .applied false := by
  simp only [freshSync, sync, snapshot_reliable, reduceCtorEq, if_false, runUnlessDry]
  cases config.dryRun with
  | true => rfl
  | false => simp [mainPass_completes, redirectV6Pass_completes]

theorem cleanRebuild_chain (config : Config) (args : SyncArgs) (feature : Feature) :
    (cleanRebuild config args).rulesAt feature.chain =
      if feature ∈ rebuilt config args then rulesOf (feature.script config args) else [] := by
  have h := freshSync_inForce (freshSync_completes config args) feature
  rw [show feature.inForce NftRuleset.empty = [] from rfl] at h
  exact h

variable {config : Config} {a b : SyncArgs}
  (h : buildFirewallSyncSignature a config.enableIpv6 = buildFirewallSyncSignature b config.enableIpv6)

include h

theorem rebuilt_of_signature : rebuilt config a = rebuilt config b := by
  obtain ⟨hdns, _, hv6⟩ := redirect_of_signature h
  have hip : v6ResolverIp config a = v6ResolverIp config b := by simp only [v6ResolverIp, hv6]
  simp only [rebuilt, hdns, hip]

theorem cleanRebuild_drops_of_signature (reading : Reading) (p : Packet) :
    nftDrops reading (cleanRebuild config a) p = nftDrops reading (cleanRebuild config b) p := by
  have hdrop : ∀ args, ∀ rule ∈ (cleanRebuild config args).rulesAt FORWARD_CHAIN,
      rule.statement = .drop := by
    intro args rule hr
    rw [show FORWARD_CHAIN = Feature.block.chain from rfl, cleanRebuild_chain] at hr
    split at hr
    next => exact rulesOf_drops (fun s hs => policySteps_drops config args hs) rule hr
    next => simp at hr
  have hperm : ((cleanRebuild config a).rulesAt FORWARD_CHAIN).Perm
      ((cleanRebuild config b).rulesAt FORWARD_CHAIN) := by
    rw [show FORWARD_CHAIN = Feature.block.chain from rfl, cleanRebuild_chain, cleanRebuild_chain,
      rebuilt_of_signature h]
    split
    next => exact policySteps_perm h
    next => exact List.Perm.nil
  simp only [nftDrops]
  refine decide_eq_decide.mpr ?_
  rw [nftVerdict_drop_iff (hdrop a), nftVerdict_drop_iff (hdrop b)]
  refine exists_congr fun rule => ?_
  rw [hperm.mem_iff]

theorem cleanRebuild_redirects_of_signature (reading : Reading) (p : Packet) :
    nftRedirects reading (cleanRebuild config a) p = nftRedirects reading (cleanRebuild config b) p := by
  obtain ⟨_, hip, hv6⟩ := redirect_of_signature h
  have hip6 : v6ResolverIp config a = v6ResolverIp config b := by simp only [v6ResolverIp, hv6]
  have hv4 : (cleanRebuild config a).rulesAt NAT_CHAIN = (cleanRebuild config b).rulesAt NAT_CHAIN := by
    rw [show NAT_CHAIN = Feature.dnsRedirect.chain from rfl, cleanRebuild_chain, cleanRebuild_chain,
      rebuilt_of_signature h, Feature.script, Feature.script, hip]
  have hv6 : (cleanRebuild config a).rulesAt NAT_CHAIN_V6 =
      (cleanRebuild config b).rulesAt NAT_CHAIN_V6 := by
    rw [show NAT_CHAIN_V6 = Feature.dnsRedirectV6.chain from rfl, cleanRebuild_chain,
      cleanRebuild_chain, rebuilt_of_signature h, Feature.script, Feature.script, hip6]
  unfold nftRedirects
  split
  next => rw [hv6]
  next => rw [hv4]

end Nftables

namespace Iptables

/-- What the first pass of a family leaves in its nat table. -/
def natRules (config : Config) (args : SyncArgs) (ipv6 : Bool) (chain : String) : List IptRule :=
  let dns : Feature := ⟨ipv6, .dns⟩
  if dns ∈ rebuiltFamily config args ipv6 then
    if chain = dns.builtin.chain then dns.jumps.reverse
    else if chain = dns.chain.chain then rulesOf (dns.fill config args)
    else []
  else []

theorem Feature.Command.spares_nat {feature : Feature} (hkind : feature.kind ≠ .dns) {c : IptCommand}
    (h : feature.Command c) (ipv6 : Bool) (chain : String) (v : List IptRule) :
    c.rulesEffect ⟨ipv6, .nat, chain⟩ v = v := by
  have hchain : feature.chain ≠ ⟨ipv6, .nat, chain⟩ := by
    cases hk : feature.kind <;> simp_all [Feature.chain, FILTER_CHAIN, DOH_CHAIN]
  have hbuiltin : feature.builtin ≠ ⟨ipv6, .nat, chain⟩ := by
    cases hk : feature.kind <;> simp_all [Feature.builtin, FORWARD]
  cases h <;> simp [IptCommand.rulesEffect, hchain, hbuiltin]

section DnsScript

variable {config : Config} {args : SyncArgs} {ipv6 : Bool} {w : World IptCommand IptKernel}
  (hok : (runScript (atomic fun _ => true) (Feature.script config args ⟨ipv6, .dns⟩) w).1 = true)

include hok

/-- On a chain without them, the two jumps end in the reverse of the order they are made in. -/
theorem dnsScript_prerouting (hclean : w.kernel.rulesAt (PREROUTING ipv6) = []) :
    (runScript (atomic fun _ => true) (Feature.script config args ⟨ipv6, .dns⟩) w).2.kernel.rulesAt
      (PREROUTING ipv6) = (Feature.jumps ⟨ipv6, .dns⟩).reverse := by
  have hsplit : Feature.script config args ⟨ipv6, .dns⟩ =
      ([.run (.newChain (DNS_CHAIN ipv6)) true, .run (.flush (DNS_CHAIN ipv6)) false] ++
        (ensureRule (PREROUTING ipv6) ⟨[.dport .udp 53], none, .jump (DNS_CHAIN ipv6).chain⟩ :: [])) ++
      ([] ++ (ensureRule (PREROUTING ipv6) ⟨[.dport .tcp 53], none, .jump (DNS_CHAIN ipv6).chain⟩ ::
        Feature.fill config args ⟨ipv6, .dns⟩)) := by
    simp [Feature.script, Feature.jumps, Feature.chain, Feature.builtin]
  have hfill : ∀ s ∈ Feature.fill config args ⟨ipv6, .dns⟩, ∀ c ∈ s.commands, ∀ v,
      c.rulesEffect (PREROUTING ipv6) v = v := by
    intro s hs c hc v
    obtain ⟨rule, rfl⟩ := Feature.fill_appends hs
    rw [List.mem_singleton.mp hc]
    simp [IptCommand.rulesEffect, Feature.chain, DNS_CHAIN, PREROUTING]
  rw [hsplit] at hok ⊢
  obtain ⟨hudp, heq⟩ := runScript_append_ok hok
  rw [heq] at hok ⊢
  have hfirst := runScript_ensure_fresh
    (by simp [Step.commands, IptCommand.rulesEffect, DNS_CHAIN, PREROUTING]) (by simp)
    (by simp [hclean]) hudp
  rw [runScript_ensure_fresh (by simp) hfill ?_ hok, hfirst, hclean]
  · rfl
  · rw [hfirst, hclean]
    simp

omit hok in
theorem dnsScript_other {chain : String} (hb : chain ≠ "PREROUTING") (hd : chain ≠ "GUARDTIME_DNS") :
    (runScript (atomic fun _ => true) (Feature.script config args ⟨ipv6, .dns⟩) w).2.kernel.rulesAt
      ⟨ipv6, .nat, chain⟩ = w.kernel.rulesAt ⟨ipv6, .nat, chain⟩ := by
  refine runScript_view_neutral (atomic_effects (fun _ => true) _) ?_ w
  intro s hs c hc v
  have hcommand := Feature.script_commands hs hc
  have hchain : Feature.chain ⟨ipv6, .dns⟩ ≠ ⟨ipv6, .nat, chain⟩ := by
    simpa [Feature.chain, DNS_CHAIN] using Ne.symm hd
  have hbuiltin : Feature.builtin ⟨ipv6, .dns⟩ ≠ ⟨ipv6, .nat, chain⟩ := by
    simpa [Feature.builtin, PREROUTING] using Ne.symm hb
  cases hcommand <;> simp [IptCommand.rulesEffect, hchain, hbuiltin]

end DnsScript

theorem rebuiltFamily_dns {config : Config} (hd : config.dryRun = false) (args : SyncArgs) (ipv6 : Bool) :
    ∃ others : List Feature, (∀ f ∈ others, f.kind ≠ .dns) ∧
      rebuiltFamily config args ipv6 = others ++
        if (⟨ipv6, .dns⟩ : Feature) ∈ rebuiltFamily config args ipv6 then [⟨ipv6, .dns⟩] else [] := by
  refine ⟨⟨ipv6, .block⟩ ::
    (if (familyArgs config args ipv6).enableDohBlock then [⟨ipv6, .doh⟩] else []), ?_, ?_⟩
  · intro f hf
    rcases List.mem_cons.mp hf with rfl | hf
    · simp
    · split at hf
      next => rw [List.mem_singleton.mp hf]; simp
      next => simp at hf
  · simp only [rebuiltFamily, hd, Bool.false_eq_true, if_false]
    cases (familyArgs config args ipv6).enableDohBlock <;>
      cases (familyArgs config args ipv6).enableDnsRedirect <;>
      cases ipv6 && (familyArgs config args ipv6).dnsRedirectIp = "" <;> simp

/-- A completed main pass of a family fills its nat table, where nothing was in it. -/
theorem mainPass_nat {config : Config} (hd : config.dryRun = false) (args : SyncArgs) {ipv6 : Bool}
    {w : World IptCommand IptKernel} (hclean : ∀ chain, w.kernel.rulesAt ⟨ipv6, .nat, chain⟩ = [])
    (hok : (runScript (atomic fun _ => true) (mainPass config ipv6 (familyArgs config args ipv6))
      w).1 = true) (chain : String) :
    (runScript (atomic fun _ => true) (mainPass config ipv6 (familyArgs config args ipv6))
      w).2.kernel.rulesAt ⟨ipv6, .nat, chain⟩ = natRules config args ipv6 chain := by
  obtain ⟨others, hothers, hrebuilt⟩ := rebuiltFamily_dns hd args ipv6
  have hspare : ∀ chain,
      (runScript (atomic fun _ => true) (others.flatMap (Feature.script config args)) w).2.kernel.rulesAt
        ⟨ipv6, .nat, chain⟩ = [] := by
    intro chain
    rw [← hclean chain]
    refine runScript_view_neutral (atomic_effects (fun _ => true) _) ?_ w
    intro s hs c hc v
    obtain ⟨f, hf, hs⟩ := List.mem_flatMap.mp hs
    exact (Feature.script_commands hs hc).spares_nat (hothers f hf) ipv6 chain v
  rw [rebuilt_script hd, hrebuilt, List.flatMap_append] at hok ⊢
  obtain ⟨_, heq⟩ := runScript_append_ok hok
  rw [heq] at hok ⊢
  unfold natRules
  split
  next hdns =>
    simp only [if_pos hdns, List.flatMap_singleton] at hok ⊢
    split
    next hb =>
      subst hb
      exact dnsScript_prerouting hok (hspare _)
    next hb =>
      split
      next hc =>
        subst hc
        exact script_chain hok
      next hc =>
        exact (dnsScript_other hb hc).trans (hspare chain)
  next hdns =>
    simp only [if_neg hdns, List.flatMap_nil, runScript_nil]
    exact hspare chain

/-- A first pass fills the nat table of its family, where nothing was in it. -/
theorem cleanPass_nat {config : Config} (hd : config.dryRun = false) (args : SyncArgs) {ipv6 : Bool}
    {w : World IptCommand IptKernel} (hw : Standing w.kernel)
    (hclean : ∀ chain, w.kernel.rulesAt ⟨ipv6, .nat, chain⟩ = []) (chain : String) :
    (syncFamily config (atomic fun _ => true) ipv6 (familyArgs config args ipv6) none
      w).world.kernel.rulesAt ⟨ipv6, .nat, chain⟩ = natRules config args ipv6 chain := by
  obtain ⟨hmain, hcall⟩ := cleanPass_eq hd ipv6 (familyArgs config args ipv6) hw
  rw [hcall]
  have hsaved : ∀ chain, IptKernel.rulesAt
      (⟨w.kernel, w.issued ++ [.save ipv6]⟩ : World IptCommand IptKernel).kernel ⟨ipv6, .nat, chain⟩ =
        [] := hclean
  have hnat := mainPass_nat hd args hsaved
  exact hnat hmain chain

theorem cleanRebuild_nat {config : Config} (hd : config.dryRun = false) (args : SyncArgs) {ipv6 : Bool}
    (hv : ipv6 = true → config.enableIpv6 = true) (chain : String) :
    (cleanRebuild config args).rulesAt ⟨ipv6, .nat, chain⟩ = natRules config args ipv6 chain := by
  obtain ⟨pass, hpass, hstanding⟩ := cleanRebuild_pass hd args ipv6 hv
  have hempty : ∀ chain, IptKernel.empty.rulesAt ⟨ipv6, .nat, chain⟩ = [] := by
    intro chain
    simp only [IptKernel.rulesAt, IptKernel.chain, IptKernel.chains, IptKernel.empty, builtinChains,
      Option.getD_none]
    split <;> rfl
  have hclean := fun chain => (passStart_rules hd (fun _ => true) args ⟨fun _ => none, .empty⟩
    ⟨ipv6, .nat, chain⟩).trans (hempty chain)
  have hend : (cleanRebuild config args).rulesAt ⟨ipv6, .nat, chain⟩ =
      pass.world.kernel.rulesAt ⟨ipv6, .nat, chain⟩ := pass_rules_after hd hpass
  refine hend.trans ?_
  rw [syncOn_family hpass]
  exact cleanPass_nat hd args hstanding hclean chain

theorem cleanRebuild_unsynced {config : Config} (hd : config.dryRun = false) (args : SyncArgs)
    (h6 : config.enableIpv6 = false) {key : IptChainKey} (hk : key.ipv6 = true) :
    (cleanRebuild config args).rulesAt key = IptKernel.empty.rulesAt key := by
  rw [← passStart_rules hd (fun _ => true) args ⟨fun _ => none, .empty⟩ key, hk]
  simp [cleanRebuild, stateAfter, passStart, syncOn, sync, Call.world, h6]

theorem cleanRebuild_dryRun {config : Config} (hd : config.dryRun = true) (args : SyncArgs) :
    cleanRebuild config args = .empty := by
  have hpass : ∀ (ipv6 : Bool) (args : SyncArgs) (issued : List IptCommand),
      (syncFamily config (atomic fun _ => true) ipv6 args none ⟨.empty, issued⟩).world.kernel = .empty := by
    intro ipv6 args issued
    obtain ⟨hsnap, _⟩ := snapshot_atomic (fun _ => true) ipv6 ⟨.empty, issued⟩
    simp [syncFamily, runUnlessDry, hd, hsnap]
  have hworld : ∀ (w : World IptCommand IptKernel), w.kernel = .empty → w = ⟨.empty, w.issued⟩ := by
    intro w hw
    rw [← hw]
  simp only [cleanRebuild, stateAfter, syncOn, sync, Call.world]
  have hv4 := hpass false (familyArgs config args false) []
  split
  next => rw [Option.getD_some, hworld _ hv4]; exact hpass _ _ _
  next => exact hv4

variable {config : Config} {a b : SyncArgs} {p : Packet}
  (h : buildFirewallSyncSignature (familyArgs config a p.isV6) p.isV6 =
    buildFirewallSyncSignature (familyArgs config b p.isV6) p.isV6)

include h

theorem natRules_of_signature (chain : String) :
    natRules config a p.isV6 chain = natRules config b p.isV6 chain := by
  obtain ⟨hdns, hip, _⟩ := redirect_of_signature h
  have hdoh : (familyArgs config a p.isV6).enableDohBlock = (familyArgs config b p.isV6).enableDohBlock :=
    congrArg SyncSignature.enableDohBlock h
  have hrebuilt : rebuiltFamily config a p.isV6 = rebuiltFamily config b p.isV6 := by
    simp only [rebuiltFamily, hdns, hip, hdoh]
  have hfill : Feature.fill config a ⟨p.isV6, .dns⟩ = Feature.fill config b ⟨p.isV6, .dns⟩ := by
    simp only [Feature.fill, hip]
  simp only [natRules, hrebuilt, hfill]

theorem cleanRebuild_drops_of_signature (reading : Reading) (depth : Nat) :
    iptDrops reading (cleanRebuild config a) (depth + 2) p =
      iptDrops reading (cleanRebuild config b) (depth + 2) p := by
  have hdropped : ∀ args, Dropped reading config (familyArgs config args p.isV6) p ↔
      Dropped reading config args p := by
    intro args
    cases p.isV6 <;> rfl
  cases hd : config.dryRun with
  | true => rw [cleanRebuild_dryRun hd, cleanRebuild_dryRun hd]
  | false =>
    by_cases hv : p.isV6 = true → config.enableIpv6 = true
    · rw [Bool.eq_iff_iff, cleanRebuild_drops_iff reading hd a hv, cleanRebuild_drops_iff reading hd b hv,
        ← hdropped a, ← hdropped b]
      exact ⟨dropped_of_signature h, dropped_of_signature h.symm⟩
    · obtain ⟨hp, h6⟩ := Classical.not_imp.mp hv
      have hsame : ∀ chain, (cleanRebuild config a).rulesAt ⟨p.isV6, .filter, chain⟩ =
          (cleanRebuild config b).rulesAt ⟨p.isV6, .filter, chain⟩ := by
        intro chain
        rw [cleanRebuild_unsynced hd a (by simpa using h6) hp,
          cleanRebuild_unsynced hd b (by simpa using h6) hp]
      simp only [iptDrops, chainVerdict_congr hsame]

theorem cleanRebuild_redirects_of_signature (reading : Reading) (depth : Nat) :
    iptRedirects reading (cleanRebuild config a) depth p =
      iptRedirects reading (cleanRebuild config b) depth p := by
  have hsame : ∀ chain, (cleanRebuild config a).rulesAt ⟨p.isV6, .nat, chain⟩ =
      (cleanRebuild config b).rulesAt ⟨p.isV6, .nat, chain⟩ := by
    intro chain
    cases hd : config.dryRun with
    | true => rw [cleanRebuild_dryRun hd, cleanRebuild_dryRun hd]
    | false =>
      by_cases hv : p.isV6 = true → config.enableIpv6 = true
      · rw [cleanRebuild_nat hd a hv, cleanRebuild_nat hd b hv, natRules_of_signature h]
      · obtain ⟨hp, h6⟩ := Classical.not_imp.mp hv
        rw [cleanRebuild_unsynced hd a (by simpa using h6) hp,
          cleanRebuild_unsynced hd b (by simpa using h6) hp]
  simp only [iptRedirects, natVerdict_congr hsame]

end Iptables

/-- Equal signatures stand for rule sets that decide alike, with either backend, and the order of
targets with distinct device ids does not show in a signature. -/
theorem syncSignature_sound_stable (config : Config) (reading : Reading) :
    (∀ a b : SyncArgs, buildFirewallSyncSignature a config.enableIpv6 =
        buildFirewallSyncSignature b config.enableIpv6 → ∀ p,
      nftDrops reading (Nftables.cleanRebuild config a) p =
          nftDrops reading (Nftables.cleanRebuild config b) p ∧
        nftRedirects reading (Nftables.cleanRebuild config a) p =
          nftRedirects reading (Nftables.cleanRebuild config b) p) ∧
    (∀ (a b : SyncArgs) (p : Packet),
      buildFirewallSyncSignature (Iptables.familyArgs config a p.isV6) p.isV6 =
        buildFirewallSyncSignature (Iptables.familyArgs config b p.isV6) p.isV6 → ∀ depth,
      iptDrops reading (Iptables.cleanRebuild config a) (depth + 2) p =
          iptDrops reading (Iptables.cleanRebuild config b) (depth + 2) p ∧
        iptRedirects reading (Iptables.cleanRebuild config a) depth p =
          iptRedirects reading (Iptables.cleanRebuild config b) depth p) ∧
    (∀ (args : SyncArgs) (targets : List Target), (args.targets.map Target.deviceId).Nodup →
      targets.Perm args.targets → ∀ enableIpv6,
        buildFirewallSyncSignature { args with targets } enableIpv6 =
          buildFirewallSyncSignature args enableIpv6) := by
  refine ⟨?_, ?_, ?_⟩
  · intro a b h p
    exact ⟨Nftables.cleanRebuild_drops_of_signature h reading p,
      Nftables.cleanRebuild_redirects_of_signature h reading p⟩
  · intro a b p h depth
    exact ⟨Iptables.cleanRebuild_drops_of_signature h reading depth,
      Iptables.cleanRebuild_redirects_of_signature h reading depth⟩
  · intro args targets hdistinct hperm enableIpv6
    exact signature_of_perm hperm hdistinct enableIpv6

/-- The two devices of the worked case, in the order a policy may list them in. -/
def twoBlocked (first second : Target) : SyncArgs :=
  ⟨[first, second], "10.0.0.1", "2001:db8::53", true, false, false⟩

def otherDevice : Target :=
  ⟨"dev-2", .BLOCK, some "192.168.1.51", none, none, false, false, []⟩

theorem syncSignature_sound_stable_swapped :
    iptDrops sampleReading (Iptables.cleanRebuild sampleConfig (twoBlocked blockedDevice otherDevice)) 2
        blockedPacket =
      iptDrops sampleReading (Iptables.cleanRebuild sampleConfig (twoBlocked otherDevice blockedDevice))
        2 blockedPacket := by
  obtain ⟨_, hipt, hstable⟩ := syncSignature_sound_stable sampleConfig sampleReading
  have hsame := hstable (Iptables.familyArgs sampleConfig (twoBlocked otherDevice blockedDevice)
    blockedPacket.isV6) [blockedDevice, otherDevice] (by decide) (List.Perm.swap _ _ _)
  exact (hipt (twoBlocked blockedDevice otherDevice) (twoBlocked otherDevice blockedDevice)
    blockedPacket (hsame blockedPacket.isV6) 0).1

end GuardTime
