import GuardTime.RestartedNftables

namespace GuardTime

namespace Iptables

inductive FeatureKind where
  | block
  | doh
  | dns
deriving DecidableEq

/-- What the pass of a family may install: a chain, and jumps to it from a built-in chain. -/
structure Feature where
  ipv6 : Bool
  kind : FeatureKind
deriving DecidableEq

namespace Feature

def chain (feature : Feature) : IptChainKey :=
  match feature.kind with
  | .block => FILTER_CHAIN feature.ipv6
  | .doh => DOH_CHAIN feature.ipv6
  | .dns => DNS_CHAIN feature.ipv6

def builtin (feature : Feature) : IptChainKey :=
  match feature.kind with
  | .block | .doh => FORWARD feature.ipv6
  | .dns => PREROUTING feature.ipv6

def jumps (feature : Feature) : List IptRule :=
  match feature.kind with
  | .block | .doh => [⟨[], none, .jump feature.chain.chain⟩]
  | .dns => [⟨[.dport .udp 53], none, .jump feature.chain.chain⟩,
      ⟨[.dport .tcp 53], none, .jump feature.chain.chain⟩]

/-- What each jump of a feature has in force: the rules of its chain, if the jump is there. -/
def inForce (feature : Feature) (k : IptKernel) : List (List IptRule) :=
  feature.jumps.map fun jump =>
    if jump ∈ k.rulesAt feature.builtin then k.rulesAt feature.chain else []

def HasRules (feature : Feature) (k : IptKernel) : Prop := ∃ rules ∈ feature.inForce k, rules ≠ []

/-- The rules that fill the chain of a feature. -/
def fill (config : Config) (args : SyncArgs) (feature : Feature) : List (Step IptCommand) :=
  let args := familyArgs config args feature.ipv6
  match feature.kind with
  | .block => policySteps feature.ipv6 args
  | .doh => dohDotRules config feature.ipv6
  | .dns => [
    .run (.append feature.chain
      ⟨[.dport .udp 53], none, .dnat (redirectDestination args.dnsRedirectIp feature.ipv6)⟩) false,
    .run (.append feature.chain
      ⟨[.dport .tcp 53], none, .dnat (redirectDestination args.dnsRedirectIp feature.ipv6)⟩) false]

/-- The filter chain is emptied after its jump is made, the other chains before. -/
def script (config : Config) (args : SyncArgs) (feature : Feature) : List (Step IptCommand) :=
  let ensure := feature.jumps.map (ensureRule feature.builtin)
  match feature.kind with
  | .block => (.run (.newChain feature.chain) true :: ensure) ++
      .run (.flush feature.chain) false :: ([] ++ (feature.fill config args ++ []))
  | .doh | .dns => [.run (.newChain feature.chain) true] ++
      .run (.flush feature.chain) false :: (ensure ++ (feature.fill config args ++ []))

end Feature

def rebuiltFamily (config : Config) (args : SyncArgs) (ipv6 : Bool) : List Feature :=
  let args := familyArgs config args ipv6
  if config.dryRun then [] else
  ⟨ipv6, .block⟩ ::
  ((if args.enableDohBlock then [⟨ipv6, .doh⟩] else []) ++
    (if args.enableDnsRedirect && !(ipv6 && args.dnsRedirectIp = "") then [⟨ipv6, .dns⟩] else []))

def rebuilt (config : Config) (args : SyncArgs) : List Feature :=
  rebuiltFamily config args false ++
  (if config.enableIpv6 then rebuiltFamily config args true else [])

/-- The first call of a freshly started agent. -/
def freshSync (config : Config) (fate : Nat → Bool) (args : SyncArgs) (k : IptKernel) : Call :=
  sync config (atomic fate) args (fun _ => none) ⟨k, []⟩

def Call.applied (call : Call) : Bool :=
  call.v4.outcome = .applied && call.v6.all fun pass => pass.outcome = .applied

theorem rebuilt_script {config : Config} (hd : config.dryRun = false) (args : SyncArgs) (ipv6 : Bool) :
    mainPass config ipv6 (familyArgs config args ipv6) =
      (rebuiltFamily config args ipv6).flatMap (Feature.script config args) := by
  rw [mainPass_eq]
  simp only [rebuiltFamily, hd, Bool.false_eq_true, if_false, List.flatMap_cons, List.flatMap_append]
  have hblock : Feature.script config args ⟨ipv6, .block⟩ = ensureFilterChain ipv6 ++
      (flushFilterChain ipv6 ++ policySteps ipv6 (familyArgs config args ipv6)) := by
    simp [Feature.script, Feature.jumps, Feature.fill, Feature.chain, Feature.builtin,
      ensureFilterChain, flushFilterChain]
  have hdoh : Feature.script config args ⟨ipv6, .doh⟩ = ensureDohDotBlock config ipv6 := by
    simp [Feature.script, Feature.jumps, Feature.fill, Feature.chain, Feature.builtin,
      ensureDohDotBlock]
  have hdns : ensureDnsRedirect (familyArgs config args ipv6).dnsRedirectIp ipv6 =
      if ipv6 && (familyArgs config args ipv6).dnsRedirectIp = "" then [] else
        Feature.script config args ⟨ipv6, .dns⟩ := rfl
  rw [hblock, hdns]
  cases (familyArgs config args ipv6).enableDohBlock <;>
    cases (familyArgs config args ipv6).enableDnsRedirect <;>
    cases ipv6 && (familyArgs config args ipv6).dnsRedirectIp = "" <;> simp [hdoh]

namespace Feature

variable {feature other : Feature}

theorem chain_ne_builtin (feature other : Feature) : feature.chain ≠ other.builtin := by
  obtain ⟨ipv6, kind⟩ := feature
  obtain ⟨ipv6', kind'⟩ := other
  cases kind <;> cases kind' <;>
    simp [chain, builtin, FILTER_CHAIN, DOH_CHAIN, DNS_CHAIN, FORWARD, PREROUTING]

theorem chain_injective (h : feature.chain = other.chain) : feature = other := by
  obtain ⟨ipv6, kind⟩ := feature
  obtain ⟨ipv6', kind'⟩ := other
  cases kind <;> cases kind' <;> simp_all [chain, FILTER_CHAIN, DOH_CHAIN, DNS_CHAIN]

theorem jump_target {jump : IptRule} (h : jump ∈ feature.jumps) :
    jump.target = .jump feature.chain.chain := by
  obtain ⟨ipv6, kind⟩ := feature
  cases kind <;> simp only [jumps, List.mem_cons, List.not_mem_nil, or_false] at h
  · rw [h]
  · rw [h]
  · rcases h with rfl | rfl <;> rfl

theorem jump_injective {jump : IptRule} (h : jump ∈ feature.jumps) (h' : jump ∈ other.jumps)
    (hb : feature.builtin = other.builtin) : feature = other := by
  refine chain_injective ?_
  have htarget := (jump_target h).symm.trans (jump_target h')
  obtain ⟨ipv6, kind⟩ := feature
  obtain ⟨ipv6', kind'⟩ := other
  cases kind <;> cases kind' <;>
    simp_all [chain, builtin, FILTER_CHAIN, DOH_CHAIN, DNS_CHAIN, FORWARD, PREROUTING]

theorem fill_appends {config : Config} {args : SyncArgs} {s : Step IptCommand}
    (hs : s ∈ feature.fill config args) : ∃ rule, s = .run (.append feature.chain rule) false := by
  obtain ⟨ipv6, kind⟩ := feature
  cases kind with
  | block =>
    obtain ⟨exprs, comment, rfl⟩ := policySteps_drops ipv6 (familyArgs config args ipv6) hs
    exact ⟨_, rfl⟩
  | doh =>
    obtain ⟨exprs, comment, rfl⟩ := dohDotRules_drops config ipv6 hs
    exact ⟨_, rfl⟩
  | dns =>
    simp only [fill, List.mem_cons, List.not_mem_nil, or_false] at hs
    rcases hs with rfl | rfl <;> exact ⟨_, rfl⟩

/-- The steps of a script that prepare its chain and the jumps to it. -/
def Prepares (feature : Feature) (s : Step IptCommand) : Prop :=
  s = .run (.newChain feature.chain) true ∨ ∃ jump ∈ feature.jumps, s = ensureRule feature.builtin jump

theorem script_eq (config : Config) (args : SyncArgs) (feature : Feature) :
    ∃ before between, feature.script config args =
        before ++ .run (.flush feature.chain) false :: (between ++ (feature.fill config args ++ [])) ∧
      (∀ s ∈ before ++ between, feature.Prepares s) ∧
      ∀ jump ∈ feature.jumps, ensureRule feature.builtin jump ∈ before ++ between := by
  have hprepares : ∀ s ∈ .run (.newChain feature.chain) true ::
      feature.jumps.map (ensureRule feature.builtin), feature.Prepares s := by
    intro s hs
    rcases List.mem_cons.mp hs with rfl | hs
    · exact Or.inl rfl
    · obtain ⟨jump, hjump, rfl⟩ := List.mem_map.mp hs
      exact Or.inr ⟨jump, hjump, rfl⟩
  have hensures : ∀ jump ∈ feature.jumps, ensureRule feature.builtin jump ∈
      .run (.newChain feature.chain) true :: feature.jumps.map (ensureRule feature.builtin) := by
    intro jump hjump
    exact List.mem_cons_of_mem _ (List.mem_map.mpr ⟨jump, hjump, rfl⟩)
  cases hkind : feature.kind with
  | block =>
    refine ⟨.run (.newChain feature.chain) true :: feature.jumps.map (ensureRule feature.builtin), [],
      by simp only [script, hkind], ?_, ?_⟩
    · rwa [List.append_nil]
    · rwa [List.append_nil]
  | doh => exact ⟨[_], _, by simp only [script, hkind], hprepares, hensures⟩
  | dns => exact ⟨[_], _, by simp only [script, hkind], hprepares, hensures⟩

/-- What the script of a feature may issue. -/
inductive Command (feature : Feature) : IptCommand → Prop
  | newChain : Command feature (.newChain feature.chain)
  | flush : Command feature (.flush feature.chain)
  | append {rule : IptRule} : Command feature (.append feature.chain rule)
  | check {jump : IptRule} : jump ∈ feature.jumps → Command feature (.check feature.builtin jump)
  | insertFirst {jump : IptRule} : jump ∈ feature.jumps →
      Command feature (.insertFirst feature.builtin jump)

theorem prepares_commands {s : Step IptCommand} (h : feature.Prepares s) {c : IptCommand}
    (hc : c ∈ s.commands) : feature.Command c := by
  rcases h with rfl | ⟨jump, hjump, rfl⟩
  · rw [List.mem_singleton.mp hc]
    exact .newChain
  · simp only [ensureRule, Step.commands, List.mem_cons, List.not_mem_nil, or_false] at hc
    rcases hc with rfl | rfl
    · exact .check hjump
    · exact .insertFirst hjump

theorem script_commands {config : Config} {args : SyncArgs} {s : Step IptCommand}
    (hs : s ∈ feature.script config args) {c : IptCommand} (hc : c ∈ s.commands) :
    feature.Command c := by
  obtain ⟨before, between, hscript, hprepares, _⟩ := feature.script_eq config args
  rw [hscript, List.append_nil] at hs
  simp only [List.mem_append, List.mem_cons] at hs
  rcases hs with hs | rfl | hs | hs
  · exact prepares_commands (hprepares s (List.mem_append_left _ hs)) hc
  · rw [List.mem_singleton.mp hc]
    exact .flush
  · exact prepares_commands (hprepares s (List.mem_append_right _ hs)) hc
  · obtain ⟨rule, rfl⟩ := fill_appends hs
    rw [List.mem_singleton.mp hc]
    exact .append

theorem Command.spares_chain {c : IptCommand} (h : feature.Command c) (hne : other ≠ feature)
    (v : List IptRule) : c.rulesEffect other.chain v = v := by
  have hchain : feature.chain ≠ other.chain := fun he => hne (chain_injective he).symm
  have hbuiltin : feature.builtin ≠ other.chain := (chain_ne_builtin other feature).symm
  cases h <;> simp [IptCommand.rulesEffect, hchain, hbuiltin]

/-- A built-in chain keeps its jumps, and gets no jump of another feature. -/
theorem Command.jump_iff {c : IptCommand} (h : feature.Command c) {jump : IptRule}
    (hjump : jump ∈ other.jumps) (hne : other ≠ feature) (v : List IptRule) :
    jump ∈ c.rulesEffect other.builtin v ↔ jump ∈ v := by
  have hchain : feature.chain ≠ other.builtin := chain_ne_builtin feature other
  cases h with
  | newChain => rfl
  | flush => simp [IptCommand.rulesEffect, hchain]
  | append => simp [IptCommand.rulesEffect, hchain]
  | check => rfl
  | insertFirst hown =>
    simp only [IptCommand.rulesEffect]
    split
    next hb =>
      simp only [List.mem_cons, or_iff_right_iff_imp]
      intro hsame
      subst hsame
      exact absurd (jump_injective hjump hown hb.symm) hne
    next => rfl

theorem Command.keeps_jump {c : IptCommand} (h : feature.Command c) {jump : IptRule}
    {v : List IptRule} (hv : jump ∈ v) : jump ∈ c.rulesEffect feature.builtin v := by
  have hchain : feature.chain ≠ feature.builtin := chain_ne_builtin feature feature
  cases h with
  | newChain => exact hv
  | flush => simpa [IptCommand.rulesEffect, hchain] using hv
  | append => simpa [IptCommand.rulesEffect, hchain] using hv
  | check => exact hv
  | insertFirst => simp [IptCommand.rulesEffect, hv]

end Feature

theorem script_chain {config : Config} {args : SyncArgs} {fate : Nat → Bool} {feature : Feature}
    {w : World IptCommand IptKernel}
    (hok : (runScript (atomic fate) (feature.script config args) w).1 = true) :
    (runScript (atomic fate) (feature.script config args) w).2.kernel.rulesAt feature.chain =
      rulesOf (feature.fill config args) := by
  obtain ⟨before, between, hscript, hprepares, _⟩ := feature.script_eq config args
  have hflush : ∀ v, (IptCommand.flush feature.chain).rulesEffect feature.chain v = [] := by
    simp [IptCommand.rulesEffect]
  have hbetween : ∀ s ∈ between, ∀ c ∈ s.commands, ∀ v, c.rulesEffect feature.chain v = v := by
    intro s hs c hc v
    have hbuiltin : feature.builtin ≠ feature.chain := (feature.chain_ne_builtin feature).symm
    rcases hprepares s (List.mem_append_right _ hs) with rfl | ⟨jump, _, rfl⟩
    · rw [List.mem_singleton.mp hc]
      rfl
    · simp only [ensureRule, Step.commands, List.mem_cons, List.not_mem_nil, or_false] at hc
      rcases hc with rfl | rfl <;> simp [IptCommand.rulesEffect, hbuiltin]
  have hfill : ∀ s ∈ feature.fill config args,
      s.Neutral (IptCommand.rulesEffect feature.chain) := by
    intro s hs
    obtain ⟨rule, rfl⟩ := Feature.fill_appends hs
    simp [Step.Neutral]
  rw [hscript] at hok ⊢
  rw [runScript_rebuild (atomic_effects fate feature.chain) hflush hbetween hfill (by simp) hok,
    foldl_appends fun s hs => Feature.fill_appends hs, List.nil_append]

theorem script_jumps {config : Config} {args : SyncArgs} {fate : Nat → Bool} {feature : Feature}
    {w : World IptCommand IptKernel}
    (hok : (runScript (atomic fate) (feature.script config args) w).1 = true) {jump : IptRule}
    (hjump : jump ∈ feature.jumps) :
    jump ∈ (runScript (atomic fate) (feature.script config args) w).2.kernel.rulesAt
      feature.builtin := by
  obtain ⟨before, between, hscript, _, hensures⟩ := feature.script_eq config args
  have hin : ensureRule feature.builtin jump ∈ feature.script config args := by
    rw [hscript]
    rcases List.mem_append.mp (hensures jump hjump) with hb | hb
    · exact List.mem_append_left _ hb
    · exact List.mem_append_right _ (List.mem_cons_of_mem _ (List.mem_append_left _ hb))
  refine runScript_establishes (P := fun k => jump ∈ k.rulesAt feature.builtin) ?_ hin ?_ hok
  · intro s hs c hc n k hk
    refine respondBy_keeps (I := fun k : IptKernel => jump ∈ k.rulesAt feature.builtin) ?_ n hk
    intro k k' hk ha
    rw [IptCommand.apply_rulesAt c k k' ha]
    exact (Feature.script_commands hs hc).keeps_jump hk
  · intro w hexec
    simp only [ensureRule, Step.exec] at hexec ⊢
    split at hexec
    next hcheck =>
      have ha : IptCommand.apply (.check feature.builtin jump) w.kernel =
          some (issue (atomic fate) (.check feature.builtin jump) w).2.kernel :=
        respondBy_succeeds hcheck
      rw [if_pos hcheck]
      have hrules : (issue (atomic fate) (.check feature.builtin jump) w).2.kernel.rulesAt
          feature.builtin = w.kernel.rulesAt feature.builtin := IptCommand.apply_rulesAt _ _ _ ha
      simp only [IptCommand.apply] at ha
      split at ha
      next hheld =>
        rw [hrules]
        exact hheld
      next => simp at ha
    next hcheck =>
      rw [if_neg hcheck]
      have hrules := issue_view (atomic_effects fate feature.builtin)
        (.insertFirst feature.builtin jump) (issue (atomic fate) (.check feature.builtin jump) w).2
      rw [hexec, if_pos rfl] at hrules
      rw [hrules]
      simp [IptCommand.rulesEffect]

theorem features (config : Config) (args : SyncArgs) (fate : Nat → Bool) :
    Features (atomic fate) (Feature.script config args) Feature.inForce
      fun feature => feature.jumps.map fun _ => rulesOf (feature.fill config args) where
  builds feature w hok := by
    refine List.map_congr_left ?_
    intro jump hjump
    rw [if_pos (script_jumps hok hjump), script_chain hok]
  spares feature other w hne := by
    refine List.map_congr_left ?_
    intro jump hjump
    have hchain := runScript_view_neutral (atomic_effects fate other.chain)
      (fun s (hs : s ∈ feature.script config args) c hc v =>
        (Feature.script_commands hs hc).spares_chain hne v) w
    have hiff : jump ∈ (runScript (atomic fate) (feature.script config args) w).2.kernel.rulesAt
        other.builtin ↔ jump ∈ w.kernel.rulesAt other.builtin := by
      refine runScript_invariant
        (I := fun k : IptKernel => jump ∈ k.rulesAt other.builtin ↔ jump ∈ w.kernel.rulesAt other.builtin) ?_ Iff.rfl
      intro s hs c hc n k hk
      refine respondBy_keeps
        (I := fun k : IptKernel => jump ∈ k.rulesAt other.builtin ↔ jump ∈ w.kernel.rulesAt other.builtin) ?_ n hk
      intro k k' hk ha
      rw [IptCommand.apply_rulesAt c k k' ha, (Feature.script_commands hs hc).jump_iff hjump hne]
      exact hk
    simp only [hchain, hiff]

theorem syncFamily_inForce {config : Config} {fate : Nat → Bool} {args : SyncArgs} {ipv6 : Bool}
    {w : World IptCommand IptKernel}
    (h : (syncFamily config (atomic fate) ipv6 (familyArgs config args ipv6) none w).outcome = .applied)
    (feature : Feature) :
    feature.inForce
        (syncFamily config (atomic fate) ipv6 (familyArgs config args ipv6) none w).world.kernel =
      if feature ∈ rebuiltFamily config args ipv6 then
        feature.jumps.map fun _ => rulesOf (feature.fill config args)
      else feature.inForce w.kernel := by
  obtain ⟨hsnap, _⟩ := snapshot_atomic fate ipv6 w
  simp only [syncFamily, hsnap, reduceCtorEq, if_false] at h ⊢
  cases hd : config.dryRun with
  | true => simp [rebuiltFamily, runUnlessDry, hd]
  | false =>
    simp only [hd, runUnlessDry, Bool.false_eq_true, if_false, rebuilt_script hd] at h ⊢
    split at h
    next hok =>
      rw [if_pos hok]
      exact (features config args fate).install hok feature
    next => simp at h

theorem freshSync_inForce {config : Config} {fate : Nat → Bool} {args : SyncArgs} {k : IptKernel}
    (h : (freshSync config fate args k).applied = true) (feature : Feature) :
    feature.inForce (freshSync config fate args k).world.kernel =
      if feature ∈ rebuilt config args then
        feature.jumps.map fun _ => rulesOf (feature.fill config args)
      else feature.inForce k := by
  simp only [Call.applied, Bool.and_eq_true, decide_eq_true_eq] at h
  obtain ⟨hv4, hv6⟩ := h
  have hfirst := syncFamily_inForce hv4 feature
  cases h6 : config.enableIpv6 with
  | false =>
    have hnone : (freshSync config fate args k).world =
        (freshSync config fate args k).v4.world := by
      simp [freshSync, sync, Call.world, h6]
    rw [hnone]
    simp only [rebuilt, h6, Bool.false_eq_true, if_false, List.append_nil]
    exact hfirst
  | true =>
    have hsome : (freshSync config fate args k).v6 =
        some (syncFamily config (atomic fate) true (familyArgs config args true) none
          (freshSync config fate args k).v4.world) := by
      have hreturned : (freshSync config fate args k).v4.outcome.returned = true := by
        rw [hv4]
        rfl
      simpa [freshSync, sync, h6] using hreturned
    have hsecond := syncFamily_inForce (w := (freshSync config fate args k).v4.world)
      (by simpa [hsome] using hv6) feature
    simp only [Call.world, hsome, Option.getD_some]
    rw [hsecond]
    simp only [rebuilt, h6, if_true, List.mem_append]
    by_cases hmem : feature ∈ rebuiltFamily config args true
    · simp [hmem]
    · simp only [hmem, if_false, or_false]
      exact hfirst

theorem inForce_empty_iff {feature : Feature} {k : IptKernel} :
    feature.inForce k = feature.inForce .empty ↔ ¬feature.HasRules k := by
  have hempty : feature.inForce .empty = feature.jumps.map fun _ => [] := by
    obtain ⟨ipv6, kind⟩ := feature
    cases kind <;> rfl
  rw [hempty, Feature.inForce, List.map_inj_left]
  simp [Feature.HasRules, Feature.inForce]

/-- A first call on a kernel with rules left behind gives what it gives on an empty one exactly
when it rebuilds every feature that has rules in force. -/
theorem freshSync_same_iff {config : Config} {args : SyncArgs} {fate fate' : Nat → Bool}
    {k : IptKernel} (h : (freshSync config fate args k).applied = true)
    (h' : (freshSync config fate' args .empty).applied = true) :
    (∀ feature : Feature, feature.inForce (freshSync config fate args k).world.kernel =
        feature.inForce (freshSync config fate' args .empty).world.kernel) ↔
      ∀ feature : Feature, feature.HasRules k → feature ∈ rebuilt config args := by
  simp only [freshSync_inForce h, freshSync_inForce h', installed_same_iff, inForce_empty_iff]
  exact forall_congr' fun feature => not_imp_not

end Iptables

end GuardTime
