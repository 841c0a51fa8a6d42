import GuardTime.KillSwitches
import GuardTime.FeatureScripts

namespace GuardTime

namespace Nftables

/-- What a pass may install, each in a chain of its own. -/
inductive Feature where
  | block
  | dnsRedirect
  | dnsRedirectV6
deriving DecidableEq

namespace Feature

def chain : Feature → NftChainKey
  | .block => FORWARD_CHAIN
  | .dnsRedirect => NAT_CHAIN
  | .dnsRedirectV6 => NAT_CHAIN_V6

def script (config : Config) (args : SyncArgs) : Feature → List (Step NftCommand)
  | .block => ensureTable ++ (flushChain ++ policySteps config args)
  | .dnsRedirect => ensureDnsRedirect args.dnsRedirectIp
  | .dnsRedirectV6 => ensureDnsRedirectV6 (v6ResolverIp config args)

def inForce (feature : Feature) (k : NftRuleset) : List NftRule := k.rulesAt feature.chain

def HasRules (feature : Feature) (k : NftRuleset) : Prop := feature.inForce k ≠ []

end Feature

/-- The features a pass rebuilds: it leaves the chains of the others alone. -/
def rebuilt (config : Config) (args : SyncArgs) : List Feature :=
  if config.dryRun then [] else
  .block ::
  ((if args.enableDnsRedirect then [.dnsRedirect] else []) ++
    (if config.enableIpv6 && args.enableDnsRedirect && v6ResolverIp config args ≠ "" then
      [.dnsRedirectV6] else []))

/-- The first call of a freshly started agent. -/
def freshSync (config : Config) (fate : Nat → Bool) (args : SyncArgs) (k : NftRuleset) : Call :=
  sync config (reliableRollback fate) args none ⟨k, []⟩

/-- The script of a feature prepares its chain, empties it and fills it. -/
theorem Feature.script_eq (config : Config) (args : SyncArgs) (feature : Feature) :
    ∃ header adds, feature.script config args =
        [.run (.addTable feature.chain.table) true, .run (.addChain feature.chain header) true] ++
          .run (.flushChain feature.chain) false :: ([] ++ (adds ++ [])) ∧
      ∀ s ∈ adds, AddsTo feature.chain s := by
  cases feature with
  | block =>
    refine ⟨⟨"filter", "forward", 0, some "accept"⟩, policySteps config args, ?_,
      fun s hs => policySteps_addsTo config args hs⟩
    rw [List.append_nil, List.nil_append]
    rfl
  | dnsRedirect =>
    refine ⟨⟨"nat", "prerouting", -100, none⟩, [_, _], rfl, ?_⟩
    intro s hs
    simp only [List.mem_cons, List.not_mem_nil, or_false] at hs
    rcases hs with rfl | rfl <;> exact ⟨_, rfl⟩
  | dnsRedirectV6 =>
    refine ⟨⟨"nat", "prerouting", -100, none⟩, [_, _], rfl, ?_⟩
    intro s hs
    simp only [List.mem_cons, List.not_mem_nil, or_false] at hs
    rcases hs with rfl | rfl <;> exact ⟨_, rfl⟩

theorem rulesOf_addsTo {key : NftChainKey} {adds : List (Step NftCommand)}
    (h : ∀ s ∈ adds, AddsTo key s) {s : Step NftCommand} (hs : s ∈ adds) {c : NftCommand}
    (hc : c ∈ s.commands) {loaded : List NftRule → List NftRule → List NftRule} {key' : NftChainKey}
    (hk : key ≠ key') (v : List NftRule) : c.rulesEffect loaded key' v = v := by
  obtain ⟨rule, rfl⟩ := h s hs
  rw [List.mem_singleton.mp hc]
  simp [NftCommand.rulesEffect, hk]

theorem features (config : Config) (args : SyncArgs) (fate : Nat → Bool) :
    Features (reliableRollback fate) (Feature.script config args) Feature.inForce
      fun feature => rulesOf (feature.script config args) where
  builds feature w hok := by
    have he := reliableRollback_effects fate feature.chain
    obtain ⟨header, adds, hscript, hadds⟩ := feature.script_eq config args
    have hflush : ∀ v, (NftCommand.flushChain feature.chain).rulesEffect (fun listed _ => listed)
        feature.chain v = [] := by
      simp [NftCommand.rulesEffect]
    have hneutral : ∀ s ∈ adds, s.Neutral (NftCommand.rulesEffect (fun listed _ => listed) feature.chain) := by
      intro s hs
      obtain ⟨rule, rfl⟩ := hadds s hs
      simp [Step.Neutral]
    rw [hscript] at hok ⊢
    rw [Feature.inForce, runScript_rebuild he hflush (by simp) hneutral (by simp) hok,
      foldl_addsTo hadds]
    simp [rulesOf]
  spares feature other w hne := by
    have hchain : feature.chain ≠ other.chain := by
      cases feature <;> cases other <;> first | exact absurd rfl hne | decide
    obtain ⟨header, adds, hscript, hadds⟩ := feature.script_eq config args
    refine runScript_view_neutral (reliableRollback_effects fate other.chain) ?_ w
    intro s hs c hc v
    simp only [hscript, List.nil_append, List.append_nil, List.mem_append, List.mem_cons,
      List.not_mem_nil, or_false] at hs
    rcases hs with (rfl | rfl) | rfl | hs
    · rw [List.mem_singleton.mp hc]; rfl
    · rw [List.mem_singleton.mp hc]; rfl
    · rw [List.mem_singleton.mp hc]; simp [NftCommand.rulesEffect, hchain]
    · exact rulesOf_addsTo hadds hs hc hchain v

theorem rebuilt_script {config : Config} (hd : config.dryRun = false) (args : SyncArgs) :
    mainPass config args ++ redirectV6Pass config args =
      (rebuilt config args).flatMap (Feature.script config args) := by
  rw [mainPass_eq]
  simp only [rebuilt, hd, Bool.false_eq_true, if_false, List.flatMap_cons, List.flatMap_append,
    redirectV6Pass]
  cases args.enableDnsRedirect <;> cases config.enableIpv6 <;>
    by_cases hip : v6ResolverIp config args = "" <;> simp [hip, Feature.script]

/-- A first call that succeeds has run the scripts of the features it rebuilds. -/
theorem freshSync_applied {config : Config} {fate : Nat → Bool} {args : SyncArgs} {k : NftRuleset}
    (h : (freshSync config fate args k).outcome = .applied false) :
    (runScript (reliableRollback fate) ((rebuilt config args).flatMap (Feature.script config args))
        ⟨k, [.listRuleset]⟩).1 = true ∧
      (freshSync config fate args k).world.kernel =
        (runScript (reliableRollback fate)
          ((rebuilt config args).flatMap (Feature.script config args)) ⟨k, [.listRuleset]⟩).2.kernel := by
  simp only [freshSync, sync, snapshot_reliable, List.nil_append] at h ⊢
  cases hd : config.dryRun with
  | true =>
    simp [rebuilt, hd, runUnlessDry]
  | false =>
    simp only [hd, runUnlessDry, Bool.false_eq_true, if_false, reduceCtorEq] at h ⊢
    rw [← rebuilt_script hd, runScript_append]
    split at h
    next hmain =>
      rw [if_pos hmain, if_pos hmain]
      split at h
      next hv6 =>
        rw [if_pos hv6]
        exact ⟨hv6, rfl⟩
      next => simp at h
    next => simp at h

theorem freshSync_inForce {config : Config} {fate : Nat → Bool} {args : SyncArgs} {k : NftRuleset}
    (h : (freshSync config fate args k).outcome = .applied false) (feature : Feature) :
    feature.inForce (freshSync config fate args k).world.kernel =
      if feature ∈ rebuilt config args then rulesOf (feature.script config args)
      else feature.inForce k := by
  obtain ⟨hok, hkernel⟩ := freshSync_applied h
  rw [hkernel]
  exact (features config args fate).install hok feature

/-- A first call on a kernel with rules left behind gives what it gives on an empty one exactly
when it rebuilds every feature that has rules in force. -/
theorem freshSync_same_iff {config : Config} {args : SyncArgs} {fate fate' : Nat → Bool}
    {k : NftRuleset} (h : (freshSync config fate args k).outcome = .applied false)
    (h' : (freshSync config fate' args .empty).outcome = .applied false) :
    (∀ feature : Feature, feature.inForce (freshSync config fate args k).world.kernel =
        feature.inForce (freshSync config fate' args .empty).world.kernel) ↔
      ∀ feature : Feature, feature.HasRules k → feature ∈ rebuilt config args := by
  have hempty : ∀ feature : Feature, feature.inForce .empty = [] := fun _ => rfl
  simp only [freshSync_inForce h, freshSync_inForce h', installed_same_iff, hempty]
  exact forall_congr' fun feature => not_imp_comm

end Nftables

end GuardTime
