import GuardTime.NftController

namespace GuardTime

namespace Nftables

def rulesOf (script : List (Step NftCommand)) : List NftRule :=
  script.filterMap fun
    | .run (.addRule _ rule) false => some rule
    | _ => none

@[simp] theorem rulesOf_append (xs ys : List (Step NftCommand)) :
    rulesOf (xs ++ ys) = rulesOf xs ++ rulesOf ys := List.filterMap_append

@[simp] theorem rulesOf_flatMap {α : Type} (xs : List α) (f : α → List (Step NftCommand)) :
    rulesOf (xs.flatMap f) = xs.flatMap fun x => rulesOf (f x) := by
  induction xs with
  | nil => rfl
  | cons x xs ih => simp [List.flatMap_cons, ih]

/-- A step that appends a rule to the chain `key`. -/
def AddsTo (key : NftChainKey) (s : Step NftCommand) : Prop :=
  ∃ rule, s = .run (.addRule key rule) false

/-- A step that adds a dropping rule to the block chain. -/
def Drops (s : Step NftCommand) : Prop := ∃ exprs comment, s = dropRule exprs comment

theorem addsTo_of_drops {s : Step NftCommand} (h : Drops s) : AddsTo FORWARD_CHAIN s := by
  obtain ⟨_, _, rfl⟩ := h
  exact ⟨_, rfl⟩

/-- The part of `mainPass` that adds the rules of the policy. -/
def policySteps (config : Config) (args : SyncArgs) : List (Step NftCommand) :=
  args.targets.flatMap (targetSteps config args.enableQuicBlockGlobal) ++
  (if args.enableDohBlock then addDohDotBlockRules config else [])

theorem mainPass_eq (config : Config) (args : SyncArgs) :
    mainPass config args = ensureTable ++ (flushChain ++ (policySteps config args ++
      (if args.enableDnsRedirect then ensureDnsRedirect args.dnsRedirectIp else []))) := by
  simp [mainPass, policySteps, List.append_assoc]

theorem targetSteps_drops (config : Config) (quic : Bool) (target : Target)
    {s : Step NftCommand} (hs : s ∈ targetSteps config quic target) : Drops s := by
  simp only [targetSteps, List.mem_append] at hs
  rcases hs with (hs | hs) | hs
  · split at hs
    next =>
      simp only [addBlockRules, List.mem_append, List.mem_map] at hs
      rcases hs with (⟨_, _, rfl⟩ | ⟨_, _, rfl⟩) | ⟨_, _, rfl⟩ <;> exact ⟨_, _, rfl⟩
    next => simp at hs
  · split at hs
    next =>
      unfold addVpnBlockRules at hs
      split at hs
      next => simp at hs
      next =>
        simp only [List.mem_append, List.mem_flatMap, List.mem_map] at hs
        rcases hs with ⟨_, _, ⟨_, _, rfl⟩ | ⟨_, _, rfl⟩⟩ | ⟨_, _, _, _, rfl⟩ <;>
          exact ⟨_, _, rfl⟩
    next => simp at hs
  · split at hs
    next =>
      simp only [addQuicBlockRule, List.mem_append, List.mem_map] at hs
      rcases hs with ⟨_, _, rfl⟩ | ⟨_, _, rfl⟩ <;> exact ⟨_, _, rfl⟩
    next => simp at hs

theorem policySteps_drops (config : Config) (args : SyncArgs) {s : Step NftCommand}
    (hs : s ∈ policySteps config args) : Drops s := by
  simp only [policySteps, List.mem_append, List.mem_flatMap] at hs
  rcases hs with ⟨target, _, hs⟩ | hs
  · exact targetSteps_drops config _ target hs
  · split at hs
    next =>
      simp only [addDohDotBlockRules, List.mem_append, List.mem_flatMap, List.mem_map,
        List.mem_cons, List.not_mem_nil, or_false] at hs
      rcases hs with ⟨_, _, rfl | rfl⟩ | ⟨_, _, rfl⟩ <;> exact ⟨_, _, rfl⟩
    next => simp at hs

theorem policySteps_addsTo (config : Config) (args : SyncArgs) {s : Step NftCommand}
    (hs : s ∈ policySteps config args) : AddsTo FORWARD_CHAIN s :=
  addsTo_of_drops (policySteps_drops config args hs)

theorem foldl_addsTo {loaded : List NftRule → List NftRule → List NftRule} {key : NftChainKey}
    {script : List (Step NftCommand)} (h : ∀ s ∈ script, AddsTo key s) (v : List NftRule) :
    (mandatory script).foldl (fun v c => c.rulesEffect loaded key v) v = v ++ rulesOf script := by
  induction script generalizing v with
  | nil => simp [rulesOf]
  | cons s script ih =>
    obtain ⟨rule, rfl⟩ := h s (by simp)
    simp only [mandatory_run_cons, List.foldl_cons]
    rw [ih fun t ht => h t (List.mem_cons_of_mem _ ht)]
    simp [NftCommand.rulesEffect, rulesOf]

theorem dnsRedirectSteps_neutral {loaded : List NftRule → List NftRule → List NftRule}
    {key chain : NftChainKey} (hk : chain ≠ key) (ip : String) {s : Step NftCommand}
    (hs : s ∈ dnsRedirectSteps chain ip) {c : NftCommand} (hc : c ∈ s.commands)
    (v : List NftRule) : c.rulesEffect loaded key v = v := by
  simp only [dnsRedirectSteps, List.mem_cons, List.not_mem_nil, or_false] at hs
  rcases hs with rfl | rfl | rfl | rfl | rfl <;>
    simp only [Step.commands, List.mem_singleton] at hc <;> subst hc <;>
    simp [NftCommand.rulesEffect, hk]

theorem redirectV6Pass_neutral {loaded : List NftRule → List NftRule → List NftRule}
    (config : Config) (args : SyncArgs) {s : Step NftCommand} (hs : s ∈ redirectV6Pass config args)
    {c : NftCommand} (hc : c ∈ s.commands) (v : List NftRule) :
    c.rulesEffect loaded FORWARD_CHAIN v = v := by
  unfold redirectV6Pass at hs
  split at hs
  next => exact dnsRedirectSteps_neutral (show NAT_CHAIN_V6 ≠ FORWARD_CHAIN by decide) _ hs hc v
  next => simp at hs

section Completed

variable {respond : Respond NftCommand NftRuleset}
  {loaded : List NftRule → List NftRule → List NftRule}
  (he : Effects respond (NftRuleset.rulesAt · FORWARD_CHAIN) (NftCommand.rulesEffect loaded FORWARD_CHAIN))

include he

/-- A completed main pass leaves exactly the rules of the policy, whatever was there before. -/
theorem mainPass_rules {config : Config} {args : SyncArgs} {w : World NftCommand NftRuleset}
    (h : (runScript respond (mainPass config args) w).1 = true) :
    (runScript respond (mainPass config args) w).2.kernel.rulesAt FORWARD_CHAIN =
      rulesOf (policySteps config args) := by
  have hdns : ∀ s ∈ (if args.enableDnsRedirect then ensureDnsRedirect args.dnsRedirectIp else []),
      ∀ c ∈ s.commands, ∀ v, c.rulesEffect loaded FORWARD_CHAIN v = v := by
    intro s hs c hc v
    split at hs
    next => exact dnsRedirectSteps_neutral (show NAT_CHAIN ≠ FORWARD_CHAIN by decide) _ hs hc v
    next => simp at hs
  have hpolicy : ∀ s ∈ policySteps config args,
      s.Neutral (NftCommand.rulesEffect loaded FORWARD_CHAIN) := by
    intro s hs
    obtain ⟨rule, rfl⟩ := policySteps_addsTo config args hs
    simp [Step.Neutral]
  rw [mainPass_eq, flushChain, List.singleton_append] at h ⊢
  rw [← List.nil_append (policySteps config args ++ _)] at h ⊢
  have hflush : ∀ v, (NftCommand.flushChain FORWARD_CHAIN).rulesEffect loaded FORWARD_CHAIN v = [] := by
    simp [NftCommand.rulesEffect]
  rw [runScript_rebuild he hflush (by simp) hpolicy hdns h,
    foldl_addsTo fun s hs => policySteps_addsTo config args hs, List.nil_append]

theorem redirectV6Pass_rules (config : Config) (args : SyncArgs) (w : World NftCommand NftRuleset) :
    (runScript respond (redirectV6Pass config args) w).2.kernel.rulesAt FORWARD_CHAIN =
      w.kernel.rulesAt FORWARD_CHAIN :=
  runScript_view_neutral he (fun _ hs _ hc v => redirectV6Pass_neutral config args hs hc v) w

end Completed

theorem targetSteps_normal (config : Config) (quic : Bool) (target : Target) :
    targetSteps config quic target = targetSteps config quic (normalizeTarget target).toTarget := by
  simp [targetSteps, addBlockRules, addVpnBlockRules, addQuicBlockRule, ipv6Of, normalizeTarget,
    NormalizedTarget.toTarget]

/-- Equal signatures ask for the same rules up to the order of the targets. -/
theorem policySteps_perm {config : Config} {a b : SyncArgs}
    (h : buildFirewallSyncSignature a config.enableIpv6 =
      buildFirewallSyncSignature b config.enableIpv6) :
    (rulesOf (policySteps config a)).Perm (rulesOf (policySteps config b)) := by
  have hq : a.enableQuicBlockGlobal = b.enableQuicBlockGlobal :=
    congrArg SyncSignature.enableQuicBlockGlobal h
  have hd : a.enableDohBlock = b.enableDohBlock := congrArg SyncSignature.enableDohBlock h
  simp only [policySteps, rulesOf_append, rulesOf_flatMap, hq, hd]
  refine List.Perm.append_right _ (signature_flatMap_perm ?_ h)
  intro target
  rw [← targetSteps_normal]

end Nftables

end GuardTime
