import GuardTime.IptRebuild

namespace GuardTime

namespace Iptables

/-- The pass of a family got past its flush. -/
def flushed (respond : Respond IptCommand IptKernel) (ipv6 : Bool)
    (w : World IptCommand IptKernel) : Bool :=
  (runScript respond (ensureFilterChain ipv6 ++ flushFilterChain ipv6)
    (snapshotRuleset respond ipv6 w).2).1

/-- A failing pass spoils the filter chain when it got past its flush and the former filter
table was not put back. -/
def spoils (respond : Respond IptCommand IptKernel) (ipv6 : Bool) (w : World IptCommand IptKernel)
    (undo : Rollback) : Bool :=
  flushed respond ipv6 w && !(decide (undo = .restored) && (w.kernel ipv6 .filter).isSome)

/-- The remembered signature of a family is stale from a spoiling pass to the next that
completes. -/
def staleAfter (respond : Respond IptCommand IptKernel) (ipv6 : Bool)
    (w : World IptCommand IptKernel) (stale : Bool) : Outcome → Bool
  | .skipped => stale
  | .applied => false
  | .threw undo => stale || spoils respond ipv6 w undo

theorem snapshot_atomic (fate : Nat → Bool) (ipv6 : Bool) (w : World IptCommand IptKernel) :
    (snapshotRuleset (atomic fate) ipv6 w).2 = ⟨w.kernel, w.issued ++ [.save ipv6]⟩ ∧
      ∀ saved, (snapshotRuleset (atomic fate) ipv6 w).1 = some saved → saved = w.kernel ipv6 := by
  cases hf : fate w.issued.length <;>
    simp [snapshotRuleset, issue, atomic, respondBy, IptCommand.apply, hf]

theorem rollback_restored {fate : Nat → Bool} {ipv6 : Bool} {snapshot : Option IptTables}
    {w : World IptCommand IptKernel}
    (h : (rollback (atomic fate) (restoreRuleset ipv6) snapshot w).1 = .restored) :
    ∃ saved, snapshot = some saved ∧
      (rollback (atomic fate) (restoreRuleset ipv6) snapshot w).2.kernel =
        Function.update w.kernel ipv6 fun table => (saved table).orElse fun _ => w.kernel ipv6 table := by
  cases snapshot with
  | none => simp [rollback] at h
  | some saved =>
    refine ⟨saved, rfl, ?_⟩
    cases hwrite : fate w.issued.length <;> cases hload : fate (w.issued.length + 1) <;>
      simp_all [rollback, restoreRuleset, runScript, Step.exec, issue, atomic, respondBy,
        IptCommand.apply]

theorem rollback_unrestored {fate : Nat → Bool} {ipv6 : Bool} {snapshot : Option IptTables}
    {w : World IptCommand IptKernel}
    (h : (rollback (atomic fate) (restoreRuleset ipv6) snapshot w).1 ≠ .restored) :
    (rollback (atomic fate) (restoreRuleset ipv6) snapshot w).2.kernel = w.kernel := by
  cases snapshot with
  | none => rfl
  | some saved =>
    cases hwrite : fate w.issued.length <;> cases hload : fate (w.issued.length + 1) <;>
      simp_all [rollback, restoreRuleset, runScript, Step.exec, issue, atomic, respondBy,
        IptCommand.apply]

/-- A pass that fails before or at its flush has not touched the filter chain. -/
theorem unflushed_rules {fate : Nat → Bool} {config : Config} {ipv6 : Bool} {args : SyncArgs}
    {w : World IptCommand IptKernel}
    (h : (runScript (atomic fate) (ensureFilterChain ipv6 ++ flushFilterChain ipv6) w).1 = false) :
    (runScript (atomic fate) (mainPass config ipv6 args) w).2.kernel.rulesAt (FILTER_CHAIN ipv6) =
      w.kernel.rulesAt (FILTER_CHAIN ipv6) := by
  have he := atomic_effects fate (FILTER_CHAIN ipv6)
  have hneutral : ∀ s ∈ ensureFilterChain ipv6, ∀ c ∈ s.commands, ∀ v,
      c.rulesEffect (FILTER_CHAIN ipv6) v = v := by
    simp [ensureFilterChain, ensureRule, Step.commands, IptCommand.rulesEffect, FORWARD,
      FILTER_CHAIN]
  have hensure := runScript_view_neutral he hneutral w
  rw [mainPass_eq, ← List.append_assoc, runScript_append, if_neg (by simp [h])]
  rw [runScript_append] at h ⊢
  split
  next hok =>
    rw [if_pos hok] at h
    rw [flushFilterChain, runScript_single] at h ⊢
    rw [issue_view he, h, if_neg Bool.false_ne_true]
    exact hensure
  next => exact hensure

def cacheOf (ipv6 : Bool) (lastSyncSignature : Option SyncSignature) (k : IptKernel) (stale : Bool) :
    CacheState SyncSignature (List IptRule) := ⟨lastSyncSignature, k.rulesAt (FILTER_CHAIN ipv6), stale⟩

/-- A failed pass leaves the filter chain as it was, unless it got past its flush and the former
table was not put back. -/
theorem failed_rules {config : Config} {fate : Nat → Bool} {ipv6 : Bool} {args : SyncArgs}
    {w : World IptCommand IptKernel}
    (h : spoils (atomic fate) ipv6 w (rollback (atomic fate) (restoreRuleset ipv6)
      (snapshotRuleset (atomic fate) ipv6 w).1 (runScript (atomic fate)
        (mainPass config ipv6 args) (snapshotRuleset (atomic fate) ipv6 w).2).2).1 = false) :
    (rollback (atomic fate) (restoreRuleset ipv6) (snapshotRuleset (atomic fate) ipv6 w).1
      (runScript (atomic fate) (mainPass config ipv6 args)
        (snapshotRuleset (atomic fate) ipv6 w).2).2).2.kernel.rulesAt (FILTER_CHAIN ipv6) =
      w.kernel.rulesAt (FILTER_CHAIN ipv6) := by
  obtain ⟨hsnap, hsaved⟩ := snapshot_atomic fate ipv6 w
  generalize hm : runScript (atomic fate) (mainPass config ipv6 args)
    (snapshotRuleset (atomic fate) ipv6 w).2 = m at *
  have hkept : flushed (atomic fate) ipv6 w = false →
      m.2.kernel.rulesAt (FILTER_CHAIN ipv6) = w.kernel.rulesAt (FILTER_CHAIN ipv6) := by
    intro hf
    rw [← hm, unflushed_rules hf, hsnap]
  by_cases hr : (rollback (atomic fate) (restoreRuleset ipv6)
      (snapshotRuleset (atomic fate) ipv6 w).1 m.2).1 = .restored
  · obtain ⟨saved, hs, hk⟩ := rollback_restored hr
    rw [hk, hsaved saved hs]
    have hrules := IptKernel.rulesAt_restore w.kernel m.2.kernel (FILTER_CHAIN ipv6)
    refine hrules.trans ?_
    split
    next => rfl
    next hl =>
      refine hkept ?_
      simpa [spoils, hr, show ¬(w.kernel ipv6 .filter).isSome from hl] using h
  · rw [rollback_unrestored hr]
    refine hkept ?_
    simpa [spoils, hr] using h

/-- A call of `syncFamily` is one step of the remembering rebuilder. -/
theorem syncFamily_cacheStep {config : Config} (hd : config.dryRun = false) (fate : Nat → Bool)
    (ipv6 : Bool) (args : SyncArgs) (last : Option SyncSignature) (stale : Bool)
    (w : World IptCommand IptKernel) :
    CacheStep (buildFirewallSyncSignature · ipv6) (fun a => rulesOf (policySteps ipv6 a))
      (cacheOf ipv6 last w.kernel stale) args
      (syncFamily config (atomic fate) ipv6 args last w).outcome.returned
      (cacheOf ipv6 (syncFamily config (atomic fate) ipv6 args last w).lastSyncSignature
        (syncFamily config (atomic fate) ipv6 args last w).world.kernel
        (staleAfter (atomic fate) ipv6 w stale
          (syncFamily config (atomic fate) ipv6 args last w).outcome)) := by
  have he := atomic_effects fate (FILTER_CHAIN ipv6)
  obtain ⟨hsnap, hsaved⟩ := snapshot_atomic fate ipv6 w
  unfold syncFamily
  simp only [runUnlessDry, hd, Bool.false_eq_true, if_false]
  split
  next h => exact CacheStep.skip h
  next =>
    split
    next hmain =>
      simp only [Outcome.returned, staleAfter, cacheOf, mainPass_rules he hmain]
      exact CacheStep.rebuilt
    next hmain =>
      rw [Bool.not_eq_true] at hmain
      simp only [Outcome.returned, staleAfter, cacheOf]
      cases hb : spoils (atomic fate) ipv6 w (rollback (atomic fate) (restoreRuleset ipv6)
        (snapshotRuleset (atomic fate) ipv6 w).1 (runScript (atomic fate)
          (mainPass config ipv6 args) (snapshotRuleset (atomic fate) ipv6 w).2).2).1 with
      | true => rw [Bool.or_true]; exact CacheStep.damaged _
      | false =>
        rw [Bool.or_false, failed_rules hb]
        exact CacheStep.undone

theorem syncFamily_other_family {respond : Respond IptCommand IptKernel} {key : IptChainKey}
    (he : Effects respond (IptKernel.rulesAt · key) (IptCommand.rulesEffect key))
    {ipv6 : Bool} (hk : key.ipv6 ≠ ipv6) {config : Config} (hd : config.dryRun = false)
    (args : SyncArgs) (last : Option SyncSignature) (w : World IptCommand IptKernel) :
    (syncFamily config respond ipv6 args last w).world.kernel.rulesAt key = w.kernel.rulesAt key := by
  have hsnap : (snapshotRuleset respond ipv6 w).2.kernel.rulesAt key = w.kernel.rulesAt key :=
    issue_view_neutral he (fun _ => rfl) w
  have hmain := runScript_view_neutral he
    (fun s (hs : s ∈ mainPass config ipv6 args) c hc => (mainPass_commands hs hc).spares
      (by rintro (rfl | rfl | rfl) <;> exact hk rfl) (fun h => hk (by rw [h]; rfl))
      (fun h => hk (by rw [h]; rfl)))
    (snapshotRuleset respond ipv6 w).2
  have hundo : ∀ snapshot w', (rollback respond (restoreRuleset ipv6) snapshot w').2.kernel.rulesAt key =
      w'.kernel.rulesAt key := by
    intro snapshot w'
    cases snapshot with
    | none => rfl
    | some saved =>
      refine runScript_view_neutral he ?_ w'
      intro s (hs : s ∈ restoreRuleset ipv6 saved) c hc v
      simp only [restoreRuleset, List.mem_cons, List.not_mem_nil, or_false] at hs
      rcases hs with rfl | rfl <;> rw [List.mem_singleton.mp hc]
      · rfl
      · simp [IptCommand.rulesEffect, Ne.symm hk]
  unfold syncFamily
  simp only [runUnlessDry, hd, Bool.false_eq_true, if_false]
  split
  next => rfl
  next =>
    split
    next => exact hmain.trans hsnap
    next => exact (hundo _ _).trans (hmain.trans hsnap)

/-- A controller between two calls of `sync`, with the kernel it works on. -/
structure State where
  lastSyncSignatures : Bool → Option SyncSignature
  kernel : IptKernel

def syncOn (config : Config) (fate : Nat → Bool) (args : SyncArgs) (s : State) : Call :=
  sync config (atomic fate) args s.lastSyncSignatures ⟨s.kernel, []⟩

def stateAfter (config : Config) (fate : Nat → Bool) (args : SyncArgs) (s : State) : State where
  lastSyncSignatures := fun ipv6 =>
    match (syncOn config fate args s).family ipv6 with
    | some pass => pass.lastSyncSignature
    | none => s.lastSyncSignatures ipv6
  kernel := (syncOn config fate args s).world.kernel

def passStart (config : Config) (fate : Nat → Bool) (args : SyncArgs) (s : State) :
    Bool → World IptCommand IptKernel
  | false => ⟨s.kernel, []⟩
  | true => (syncOn config fate args s).v4.world

def stalesAfter (config : Config) (fate : Nat → Bool) (args : SyncArgs) (s : State)
    (stale : Bool → Bool) (ipv6 : Bool) : Bool :=
  match (syncOn config fate args s).family ipv6 with
  | some pass =>
    staleAfter (atomic fate) ipv6 (passStart config fate args s ipv6) (stale ipv6) pass.outcome
  | none => stale ipv6

/-- The pass of a family would be skipped on a stale signature. -/
def SkipsStale (config : Config) (args : SyncArgs) (s : State) (stale : Bool → Bool)
    (ipv6 : Bool) : Prop :=
  stale ipv6 = true ∧ s.lastSyncSignatures ipv6 =
    some (buildFirewallSyncSignature (familyArgs config args ipv6) ipv6)

/-- The runs of a controller on an arbitrary kernel in which no pass is skipped on a stale
signature. -/
inductive Run (config : Config) : State → (Bool → Bool) → Prop
  | start (kernel : IptKernel) : Run config ⟨fun _ => none, kernel⟩ fun _ => false
  | sync {s : State} {stale : Bool → Bool} (args : SyncArgs) (fate : Nat → Bool) :
      Run config s stale →
      (∀ ipv6 pass, (syncOn config fate args s).family ipv6 = some pass →
        ¬SkipsStale config args s stale ipv6) →
      Run config (stateAfter config fate args s) (stalesAfter config fate args s stale)

theorem syncOn_family {config : Config} {fate : Nat → Bool} {args : SyncArgs} {s : State}
    {ipv6 : Bool} {pass : FamilyCall} (h : (syncOn config fate args s).family ipv6 = some pass) :
    pass = syncFamily config (atomic fate) ipv6 (familyArgs config args ipv6)
      (s.lastSyncSignatures ipv6) (passStart config fate args s ipv6) := by
  cases ipv6 with
  | false => exact (Option.some.inj h).symm
  | true =>
    simp only [syncOn, Call.family, sync] at h
    split at h
    next => exact (Option.some.inj h).symm
    next => simp at h

theorem passStart_rules {config : Config} (hd : config.dryRun = false) (fate : Nat → Bool)
    (args : SyncArgs) (s : State) (key : IptChainKey) :
    (passStart config fate args s key.ipv6).kernel.rulesAt key = s.kernel.rulesAt key := by
  cases hk : key.ipv6 with
  | false => rfl
  | true =>
    exact syncFamily_other_family (atomic_effects fate key) (by simp [hk]) hd
      (familyArgs config args false) (s.lastSyncSignatures false) ⟨s.kernel, []⟩

/-- A pass leaves the chains of its family to the end of the call. -/
theorem pass_rules_after {config : Config} (hd : config.dryRun = false) {fate : Nat → Bool}
    {args : SyncArgs} {s : State} {key : IptChainKey} {pass : FamilyCall}
    (h : (syncOn config fate args s).family key.ipv6 = some pass) :
    (stateAfter config fate args s).kernel.rulesAt key = pass.world.kernel.rulesAt key := by
  cases hk : key.ipv6 with
  | true =>
    rw [hk] at h
    rw [stateAfter, Call.world, show (syncOn config fate args s).v6 = some pass from h]
    rfl
  | false =>
    rw [hk] at h
    cases Option.some.inj h
    simp only [stateAfter, Call.world]
    cases hv6 : (syncOn config fate args s).v6 with
    | none => rfl
    | some pass =>
      rw [syncOn_family (show (syncOn config fate args s).family true = some pass from hv6)]
      exact syncFamily_other_family (atomic_effects fate key) (by simp [hk]) hd _ _ _

theorem pass_cacheStep {config : Config} (hd : config.dryRun = false) {fate : Nat → Bool}
    {args : SyncArgs} {s : State} {ipv6 : Bool} {pass : FamilyCall} (stale : Bool → Bool)
    (h : (syncOn config fate args s).family ipv6 = some pass) :
    CacheStep (buildFirewallSyncSignature · ipv6) (fun a => rulesOf (policySteps ipv6 a))
      (cacheOf ipv6 (s.lastSyncSignatures ipv6) s.kernel (stale ipv6)) (familyArgs config args ipv6)
      pass.outcome.returned
      (cacheOf ipv6 ((stateAfter config fate args s).lastSyncSignatures ipv6)
        (stateAfter config fate args s).kernel (stalesAfter config fate args s stale ipv6)) := by
  have hstep := syncFamily_cacheStep hd fate ipv6 (familyArgs config args ipv6)
    (s.lastSyncSignatures ipv6) (stale ipv6) (passStart config fate args s ipv6)
  have hlast : (stateAfter config fate args s).lastSyncSignatures ipv6 = pass.lastSyncSignature := by
    simp only [stateAfter, h]
  have hstale : stalesAfter config fate args s stale ipv6 = staleAfter (atomic fate) ipv6
      (passStart config fate args s ipv6) (stale ipv6) pass.outcome := by
    simp only [stalesAfter, h]
  rw [← syncOn_family h] at hstep
  have hbefore := passStart_rules hd fate args s (FILTER_CHAIN ipv6)
  have hafter : (stateAfter config fate args s).kernel.rulesAt (FILTER_CHAIN ipv6) =
      pass.world.kernel.rulesAt (FILTER_CHAIN ipv6) := pass_rules_after hd h
  simp only [cacheOf, hlast, hstale, hafter, ← hbefore]
  exact hstep

theorem run_coherent {config : Config} (hd : config.dryRun = false) {s : State}
    {stale : Bool → Bool} (h : Run config s stale) (ipv6 : Bool) :
    (cacheOf ipv6 (s.lastSyncSignatures ipv6) s.kernel (stale ipv6)).Coherent
      (buildFirewallSyncSignature · ipv6) (fun a => rulesOf (policySteps ipv6 a)) := by
  induction h with
  | start kernel => intro _ g hg; simp [cacheOf] at hg
  | @sync s stale args fate _ _ ih =>
    cases hpass : (syncOn config fate args s).family ipv6 with
    | some pass => exact cacheStep_coherent ih (pass_cacheStep hd stale hpass)
    | none =>
      have hkernel : (stateAfter config fate args s).kernel.rulesAt (FILTER_CHAIN ipv6) =
          s.kernel.rulesAt (FILTER_CHAIN ipv6) := by
        cases ipv6 with
        | false => simp [Call.family] at hpass
        | true =>
          rw [← passStart_rules hd fate args s (FILTER_CHAIN true)]
          simp only [stateAfter, Call.world, show (syncOn config fate args s).v6 = none from hpass]
          rfl
      simp only [cacheOf, stateAfter, stalesAfter, hpass] at ih hkernel ⊢
      rw [hkernel]
      exact ih

/-- The rules of the chain after a first pass on an empty kernel, no command being refused. -/
def freshRebuild (config : Config) (ipv6 : Bool) (args : SyncArgs) : List IptRule :=
  (syncFamily config (atomic fun _ => true) ipv6 args none
    ⟨IptKernel.empty, []⟩).world.kernel.rulesAt (FILTER_CHAIN ipv6)

theorem freshRebuild_eq {config : Config} (hd : config.dryRun = false) (ipv6 : Bool)
    (args : SyncArgs) : freshRebuild config ipv6 args = rulesOf (policySteps ipv6 args) := by
  have he := atomic_effects (fun _ => true) (FILTER_CHAIN ipv6)
  obtain ⟨hsnap, _⟩ := snapshot_atomic (fun _ => true) ipv6 ⟨IptKernel.empty, []⟩
  have hstand : Standing (snapshotRuleset (atomic fun _ => true) ipv6
      ⟨IptKernel.empty, []⟩).2.kernel := by
    rw [hsnap]
    exact standing_empty
  have hmain := mainPass_completes config ipv6 args hstand
  unfold freshRebuild syncFamily
  simp only [runUnlessDry, hd, Bool.false_eq_true, if_false, reduceCtorEq]
  rw [if_pos hmain]
  exact mainPass_rules he hmain

/-- In a run without a skip on a stale signature, a pass that returns leaves the rules of a fresh
rebuild in the chain of its family: in the same order when it rebuilt, up to the order of the
targets when it was skipped. -/
theorem iptSync_holds_own_rules {config : Config} (hd : config.dryRun = false) {s : State}
    {stale : Bool → Bool} (run : Run config s stale) (args : SyncArgs) (fate : Nat → Bool)
    {ipv6 : Bool} {pass : FamilyCall} (hpass : (syncOn config fate args s).family ipv6 = some pass)
    (hskip : ¬SkipsStale config args s stale ipv6) (hret : pass.outcome.returned = true) :
    (pass.world.kernel.rulesAt (FILTER_CHAIN ipv6)).Perm
        (freshRebuild config ipv6 (familyArgs config args ipv6)) ∧
      (pass.outcome ≠ .skipped → pass.world.kernel.rulesAt (FILTER_CHAIN ipv6) =
        freshRebuild config ipv6 (familyArgs config args ipv6)) := by
  rw [freshRebuild_eq hd]
  have hstep := pass_cacheStep hd stale hpass
  refine ⟨?_, ?_⟩
  · rw [hret] at hstep
    have hheld := cacheStep_returns (fun _ _ h => policySteps_perm h) (run_coherent hd run ipv6)
      hskip hstep
    have hafter : (stateAfter config fate args s).kernel.rulesAt (FILTER_CHAIN ipv6) =
        pass.world.kernel.rulesAt (FILTER_CHAIN ipv6) := pass_rules_after hd hpass
    simpa only [cacheOf, hafter] using hheld
  · intro hrebuilt
    have he := atomic_effects fate (FILTER_CHAIN ipv6)
    rw [syncOn_family hpass] at hret hrebuilt ⊢
    unfold syncFamily at hret hrebuilt ⊢
    simp only [runUnlessDry, hd, Bool.false_eq_true, if_false] at hret hrebuilt ⊢
    split at hret
    next h => simp [h] at hrebuilt
    next h =>
      rw [if_neg h]
      split at hret
      next hmain => rw [if_pos hmain]; exact mainPass_rules he hmain
      next => simp [Outcome.returned] at hret

def afterUnblocked : State :=
  stateAfter sampleConfig (fun _ => true) nobodyBlocked ⟨fun _ => none, .empty⟩

/-- The sixth command of this call is the rule on the MAC address, the eighth the restore. -/
def halfBlocked : Nat → Bool := fun n => n != 5 && n != 7

/-- Nobody is blocked, blocking one device fails half way and cannot be rolled back, and the first
policy comes back: it is skipped on its old signature and the device stays blocked. -/
theorem iptSync_stale_skip :
    (syncOn sampleConfig halfBlocked oneBlocked afterUnblocked).v4.outcome = .threw .failed ∧
      (syncOn sampleConfig (fun _ => true) nobodyBlocked
        (stateAfter sampleConfig halfBlocked oneBlocked afterUnblocked)).v4.outcome = .skipped ∧
      ¬((syncOn sampleConfig (fun _ => true) nobodyBlocked
          (stateAfter sampleConfig halfBlocked oneBlocked
            afterUnblocked)).v4.world.kernel.rulesAt (FILTER_CHAIN false)).Perm
        (freshRebuild sampleConfig false (familyArgs sampleConfig nobodyBlocked false)) := by
  decide +kernel

/-- Nobody is blocked at first; blocking one device fails half way and cannot be rolled back, and then
succeeds. -/
def blockedAtLast : State :=
  stateAfter sampleConfig (fun _ => true) oneBlocked
    (stateAfter sampleConfig halfBlocked oneBlocked afterUnblocked)

theorem blockedAtLast_run :
    ∃ stale, Run sampleConfig blockedAtLast stale ∧ stale false = false := by
  have hstart : Run sampleConfig _ _ := Run.start .empty
  have hunblocked := Run.sync nobodyBlocked (fun _ => true) hstart (by simp [SkipsStale])
  have hhalf := Run.sync oneBlocked halfBlocked hunblocked ?_
  · have hwhole := Run.sync oneBlocked (fun _ => true) hhalf ?_
    · exact ⟨_, hwhole, by decide +kernel⟩
    · intro ipv6 pass _
      show ¬(_ = true ∧ _ = some _)
      cases ipv6 <;> decide +kernel
  · intro ipv6 pass _
    show ¬(_ = true ∧ _ = some _)
    cases ipv6 <;> decide +kernel

/-- The pass that is skipped after the failed one and the rebuild still finds its own rules. -/
theorem iptSync_holds_own_rules_skipped :
    (syncOn sampleConfig halfBlocked oneBlocked afterUnblocked).v4.outcome = .threw .failed ∧
      (syncOn sampleConfig (fun _ => true) oneBlocked
        (stateAfter sampleConfig halfBlocked oneBlocked afterUnblocked)).v4.outcome = .applied ∧
      (syncOn sampleConfig (fun _ => true) oneBlocked blockedAtLast).v4.outcome = .skipped ∧
      ((syncOn sampleConfig (fun _ => true) oneBlocked
        blockedAtLast).v4.world.kernel.rulesAt (FILTER_CHAIN false)).Perm
        (freshRebuild sampleConfig false (familyArgs sampleConfig oneBlocked false)) := by
  refine ⟨by decide +kernel, by decide +kernel, by decide +kernel, ?_⟩
  obtain ⟨stale, run, hstale⟩ := blockedAtLast_run
  exact (iptSync_holds_own_rules rfl run oneBlocked (fun _ => true)
    (show Call.family _ false = some _ from rfl) (by simp [SkipsStale, hstale])
    (by decide +kernel)).1

end Iptables

end GuardTime
