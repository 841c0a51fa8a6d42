import GuardTime.NftRebuild

namespace GuardTime

/-- The commands of the snapshot and of the restore. -/
def NftCommand.ofRollback : NftCommand → Bool
  | .listRuleset | .writeFile | .loadFile _ => true
  | _ => false

namespace Nftables

/-- Any command may fail but those of the snapshot and of the restore, which is exact. -/
def reliableRollback (fate : Nat → Bool) : Respond NftCommand NftRuleset := fun n c k =>
  respondBy (NftCommand.apply fun listing _ => listing) (fun n => fate n || c.ofRollback) n c k

theorem reliableRollback_effects (fate : Nat → Bool) (key : NftChainKey) :
    Effects (reliableRollback fate) (NftRuleset.rulesAt · key)
      (NftCommand.rulesEffect (fun listed _ => listed) key) := by
  have he (c : NftCommand) :
      Effects (respondBy (NftCommand.apply fun listing _ => listing) fun n => fate n || c.ofRollback)
        (NftRuleset.rulesAt · key) (NftCommand.rulesEffect (fun listed _ => listed) key) :=
    respondBy_effects _ (NftCommand.apply_rulesAt fun _ _ => rfl)
  exact ⟨fun n c k => (he c).succeeds n c k, fun n c k => (he c).fails n c k⟩

/-- A controller between two calls, with the kernel it works on. -/
structure State where
  lastSyncSignature : Option SyncSignature
  kernel : NftRuleset

def syncOn (config : Config) (fate : Nat → Bool) (args : SyncArgs) (s : State) : Call :=
  sync config (reliableRollback fate) args s.lastSyncSignature ⟨s.kernel, []⟩

def Call.state (call : Call) : State := ⟨call.lastSyncSignature, call.world.kernel⟩

/-- The remembered signature is stale once a call rebuilt the chain and then failed in the IPv6
redirect, until a call completes both. -/
def staleAfter (stale : Bool) : Outcome → Bool
  | .skipped => stale
  | .applied v6RedirectFailed => v6RedirectFailed
  | .threw _ => stale

def cacheOf (s : State) (stale : Bool) : CacheState SyncSignature (List NftRule) :=
  ⟨s.lastSyncSignature, s.kernel.rulesAt FORWARD_CHAIN, stale⟩

theorem snapshot_reliable (fate : Nat → Bool) (w : World NftCommand NftRuleset) :
    snapshotRuleset (reliableRollback fate) w =
      (some w.kernel, ⟨w.kernel, w.issued ++ [.listRuleset]⟩) := by
  simp [snapshotRuleset, issue, reliableRollback, respondBy, NftCommand.ofRollback, NftCommand.apply]

theorem rollback_reliable (fate : Nat → Bool) (listing : NftRuleset)
    (w : World NftCommand NftRuleset) :
    (rollback (reliableRollback fate) restoreRuleset (some listing) w).2.kernel = listing := by
  simp [rollback, restoreRuleset, runScript, Step.exec, issue, reliableRollback, respondBy,
    NftCommand.ofRollback, NftCommand.apply]

/-- A call of `sync` is one step of the remembering rebuilder. -/
theorem sync_cacheStep {config : Config} (hd : config.dryRun = false) (fate : Nat → Bool)
    (args : SyncArgs) (s : State) (stale : Bool) :
    CacheStep (buildFirewallSyncSignature · config.enableIpv6)
      (fun a => rulesOf (policySteps config a)) (cacheOf s stale) args
      (syncOn config fate args s).outcome.returned
      (cacheOf (syncOn config fate args s).state
        (staleAfter stale (syncOn config fate args s).outcome)) := by
  have he := reliableRollback_effects fate FORWARD_CHAIN
  unfold syncOn sync
  simp only [runUnlessDry, hd, Bool.false_eq_true, if_false, snapshot_reliable]
  split
  next h => exact CacheStep.skip h
  next =>
    split
    next hmain =>
      have hrules := mainPass_rules he hmain
      split
      next hv6 =>
        simp only [Outcome.returned, staleAfter, cacheOf, Call.state, redirectV6Pass_rules he, hrules]
        exact CacheStep.rebuilt
      next hv6 =>
        simp only [Outcome.returned, staleAfter, cacheOf, Call.state, redirectV6Pass_rules he, hrules]
        exact CacheStep.unrecorded
    next =>
      simp only [Outcome.returned, staleAfter, cacheOf, Call.state, rollback_reliable]
      exact CacheStep.undone

/-- The runs of a controller on an arbitrary kernel in which no call is skipped on a stale
signature. -/
inductive Run (config : Config) : State → Bool → Prop
  | start (kernel : NftRuleset) : Run config ⟨none, kernel⟩ false
  | sync {s : State} {stale : Bool} (args : SyncArgs) (fate : Nat → Bool) : Run config s stale →
      ¬(stale = true ∧
        s.lastSyncSignature = some (buildFirewallSyncSignature args config.enableIpv6)) →
      Run config (syncOn config fate args s).state
        (staleAfter stale (syncOn config fate args s).outcome)

theorem run_coherent {config : Config} (hd : config.dryRun = false) {s : State} {stale : Bool}
    (h : Run config s stale) :
    (cacheOf s stale).Coherent (buildFirewallSyncSignature · config.enableIpv6)
      (fun a => rulesOf (policySteps config a)) := by
  induction h with
  | start kernel => intro _ g hg; simp [cacheOf] at hg
  | sync args fate _ _ ih => exact cacheStep_coherent ih (sync_cacheStep hd fate args _ _)

/-- Creating a chain and filling it completes on every kernel when no command is refused. -/
theorem setup_completes (key : NftChainKey) (header : NftChainHeader)
    {body : List (Step NftCommand)}
    (hb : ∀ s ∈ body, s = .run (.flushChain key) false ∨ AddsTo key s)
    (w : World NftCommand NftRuleset) :
    (runScript (reliableRollback fun _ => true)
      (.run (.addTable key.table) true :: .run (.addChain key header) true :: body) w).1 = true := by
  have hr : reliableRollback (fun _ => true) =
      respondBy (NftCommand.apply fun listing _ => listing) fun _ => true := by
    funext n c k
    simp [reliableRollback]
  rw [hr]
  have hexec : ∀ (c : NftCommand) (w : World NftCommand NftRuleset),
      ((Step.run c true).exec (respondBy (NftCommand.apply fun listing _ => listing) fun _ => true) w).1
        = true := by simp [Step.exec]
  simp only [runScript, hexec, if_true]
  refine runScript_completes (I := fun k => (NftRuleset.chain k key).isSome) (fun _ => rfl) ?_ ?_ ?_
  · intro s hs c hc k hk
    obtain ⟨chain, hchain⟩ := Option.isSome_iff_exists.mp hk
    rcases hb s hs with rfl | ⟨rule, rfl⟩ <;>
      simp only [Step.needed, List.mem_singleton] at hc <;> subst hc <;>
      simp [NftCommand.apply, hchain]
  · intro s hs c hc k k' hk happ
    rcases hb s hs with rfl | ⟨rule, rfl⟩ <;>
      simp only [Step.commands, List.mem_singleton] at hc <;> subst hc <;>
      obtain ⟨chain, hchain, rfl⟩ := Option.map_eq_some_iff.mp happ <;>
      simp [NftRuleset.chain_setChain hchain]
  · obtain ⟨t, name⟩ := key
    cases ht : w.kernel t with
    | none =>
      simp [Step.exec, issue, respondBy, NftCommand.apply, NftRuleset.chain, ht]
    | some chains =>
      cases hc : chains name with
      | none => simp [Step.exec, issue, respondBy, NftCommand.apply, NftRuleset.chain, ht, hc]
      | some chain => simp [Step.exec, issue, respondBy, NftCommand.apply, NftRuleset.chain, ht, hc]

theorem dnsRedirectSteps_completes (chain : NftChainKey) (dnsRedirectIp : String)
    (w : World NftCommand NftRuleset) :
    (runScript (reliableRollback fun _ => true) (dnsRedirectSteps chain dnsRedirectIp) w).1 = true := by
  apply setup_completes
  intro s hs
  simp only [List.mem_cons, List.not_mem_nil, or_false] at hs
  rcases hs with rfl | rfl | rfl
  · exact Or.inl rfl
  · exact Or.inr ⟨_, rfl⟩
  · exact Or.inr ⟨_, rfl⟩

theorem mainPass_completes (config : Config) (args : SyncArgs) (w : World NftCommand NftRuleset) :
    (runScript (reliableRollback fun _ => true) (mainPass config args) w).1 = true := by
  have hsplit : mainPass config args =
      (.run (.addTable FORWARD_CHAIN.table) true ::
        .run (.addChain FORWARD_CHAIN ⟨"filter", "forward", 0, some "accept"⟩) true ::
        (flushChain ++ policySteps config args)) ++
      (if args.enableDnsRedirect then ensureDnsRedirect args.dnsRedirectIp else []) := by
    rw [mainPass_eq]
    simp [ensureTable, FORWARD_CHAIN]
  have hblock : ∀ s ∈ flushChain ++ policySteps config args,
      s = .run (.flushChain FORWARD_CHAIN) false ∨ AddsTo FORWARD_CHAIN s := by
    intro s hs
    rcases List.mem_append.mp hs with hs | hs
    · exact Or.inl (List.mem_singleton.mp hs)
    · exact Or.inr (policySteps_addsTo config args hs)
  rw [hsplit, runScript_append, if_pos (setup_completes FORWARD_CHAIN _ hblock w)]
  split
  next => exact dnsRedirectSteps_completes _ _ _
  next => rfl

/-- The rules of the chain after a first call on an empty kernel, no command being refused. -/
def freshRebuild (config : Config) (args : SyncArgs) : List NftRule :=
  (syncOn config (fun _ => true) args ⟨none, NftRuleset.empty⟩).world.kernel.rulesAt FORWARD_CHAIN

theorem freshRebuild_eq {config : Config} (hd : config.dryRun = false) (args : SyncArgs) :
    freshRebuild config args = rulesOf (policySteps config args) := by
  have he := reliableRollback_effects (fun _ => true) FORWARD_CHAIN
  have hmain := mainPass_completes config args
  unfold freshRebuild syncOn sync
  simp only [runUnlessDry, hd, Bool.false_eq_true, if_false, reduceCtorEq, hmain, if_true,
    snapshot_reliable]
  split
  next => simp only [redirectV6Pass_rules he, mainPass_rules he (hmain _)]
  next => simp only [redirectV6Pass_rules he, mainPass_rules he (hmain _)]

/-- In a run without a skip on a stale signature, a call that returns leaves the rules of a fresh
rebuild in the chain: in the same order when it rebuilt, up to the order of the targets when
it was skipped. -/
theorem nftSync_holds_own_rules {config : Config} (hd : config.dryRun = false) {s : State}
    {stale : Bool} (run : Run config s stale) (args : SyncArgs) (fate : Nat → Bool)
    (hskip : ¬(stale = true ∧
      s.lastSyncSignature = some (buildFirewallSyncSignature args config.enableIpv6)))
    (hret : (syncOn config fate args s).outcome.returned = true) :
    ((syncOn config fate args s).world.kernel.rulesAt FORWARD_CHAIN).Perm
        (freshRebuild config args) ∧
      ((syncOn config fate args s).outcome ≠ .skipped →
        (syncOn config fate args s).world.kernel.rulesAt FORWARD_CHAIN =
          freshRebuild config args) := by
  rw [freshRebuild_eq hd]
  have hstep := sync_cacheStep hd fate args s stale
  refine ⟨?_, ?_⟩
  · rw [hret] at hstep
    exact cacheStep_returns (fun _ _ h => policySteps_perm h) (run_coherent hd run) hskip hstep
  · intro hrebuilt
    have he := reliableRollback_effects fate FORWARD_CHAIN
    unfold syncOn sync at hret hrebuilt ⊢
    simp only [runUnlessDry, hd, Bool.false_eq_true, if_false, snapshot_reliable] at hret hrebuilt ⊢
    split at hret
    next h => simp [h] at hrebuilt
    next h =>
      rw [if_neg h]
      split at hret
      next hmain =>
        rw [if_pos hmain]
        split <;> simp only [redirectV6Pass_rules he, mainPass_rules he hmain]
      next => simp [Outcome.returned] at hret

def afterUnblocked : State :=
  (syncOn sampleConfig (fun _ => true) nobodyBlocked ⟨none, .empty⟩).state

/-- The fifteenth command of this call is the flush of the IPv6 redirect chain. -/
def blockedWithoutRedirectV6 : Call :=
  syncOn sampleConfig (fun n => n != 14) oneBlocked afterUnblocked

/-- Nobody is blocked, one device is blocked while the IPv6 redirect fails, and the first policy
comes back: it is skipped on its old signature and the device stays blocked. -/
theorem nftSync_stale_skip :
    blockedWithoutRedirectV6.outcome = .applied true ∧
      (syncOn sampleConfig (fun _ => true) nobodyBlocked
        blockedWithoutRedirectV6.state).outcome = .skipped ∧
      ¬((syncOn sampleConfig (fun _ => true) nobodyBlocked
          blockedWithoutRedirectV6.state).world.kernel.rulesAt FORWARD_CHAIN).Perm
        (freshRebuild sampleConfig nobodyBlocked) := by
  decide +kernel

/-- The same policy is tried again, and its first drop rule is refused. -/
def blockedThrown : Call :=
  syncOn sampleConfig (fun n => n != 4) oneBlocked blockedWithoutRedirectV6.state

def blockedAtLast : Call := syncOn sampleConfig (fun _ => true) oneBlocked blockedThrown.state

theorem blockedAtLast_run : Run sampleConfig blockedAtLast.state false := by
  have hunblocked : Run sampleConfig afterUnblocked false :=
    Run.sync nobodyBlocked (fun _ => true) (Run.start .empty) (by simp)
  have hredirect := Run.sync oneBlocked (fun n => n != 14) hunblocked (by simp)
  have hthrown := Run.sync oneBlocked (fun n => n != 4) hredirect (by decide +kernel)
  exact Run.sync oneBlocked (fun _ => true) hthrown (by decide +kernel)

/-- After a call without its IPv6 redirect and one that was rolled back, the device is blocked at the third
try, and a call that is skipped then still finds its own rules. -/
theorem nftSync_holds_own_rules_skipped :
    blockedThrown.outcome = .threw .restored ∧ blockedAtLast.outcome = .applied false ∧
      (syncOn sampleConfig (fun _ => true) oneBlocked blockedAtLast.state).outcome = .skipped ∧
      ((syncOn sampleConfig (fun _ => true) oneBlocked blockedAtLast.state).world.kernel.rulesAt
        FORWARD_CHAIN).Perm (freshRebuild sampleConfig oneBlocked) := by
  refine ⟨by decide +kernel, by decide +kernel, by decide +kernel, ?_⟩
  exact (nftSync_holds_own_rules rfl blockedAtLast_run oneBlocked (fun _ => true) (by simp)
    (by decide +kernel)).1

end Nftables

end GuardTime
