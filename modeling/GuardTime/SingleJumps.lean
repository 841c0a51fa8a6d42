import GuardTime.RestartedIptables
import GuardTime.GuardedRuns

namespace GuardTime

section Steps

variable {C K : Type}

/-- The world after a step of a script, if the step does not reject. -/
def execStep (respond : Respond C K) (w : World C K) (s : Step C) : Option (World C K) :=
  if (s.exec respond w).1 then some (s.exec respond w).2 else none

/-- What every step but a hazard keeps is kept by a script without hazards, completed or not. -/
theorem runScript_avoids {respond : Respond C K} {hazard : World C K → Step C → Prop} {I : K → Prop}
    {script : List (Step C)}
    (hkeep : ∀ s ∈ script, ∀ w, I w.kernel → ¬hazard w s → I (s.exec respond w).2.kernel)
    {w : World C K} (havoids : Avoids (execStep respond) hazard w script) (hw : I w.kernel) :
    I (runScript respond script w).2.kernel := by
  induction script generalizing w with
  | nil => exact hw
  | cons s script ih =>
    have hs := hkeep s (by simp) w hw havoids.1
    simp only [runScript]
    split
    next hok =>
      refine ih (fun t ht => hkeep t (List.mem_cons_of_mem s ht)) (havoids.2 _ ?_) hs
      simp [execStep, hok]
    next => exact hs

end Steps

namespace Iptables

def jumpsTo (chain : String) (rules : List IptRule) : List IptRule :=
  rules.filter fun rule => rule.target = .jump chain

/-- The rule matches on a port of the protocol. -/
def onProtocol (protocol : Protocol) (rule : IptRule) : Bool :=
  rule.exprs.any fun
    | .dport q _ => q = protocol
    | _ => false

/-- A check that fails although the rule is there. -/
def Misread (fate : Nat → Bool) (w : World IptCommand IptKernel) : Step IptCommand → Prop
  | .ensure (.check key rule) _ => rule ∈ w.kernel.rulesAt key ∧ fate w.issued.length = false
  | _ => False

/-- The jumps a built-in chain holds to the chain of a feature are the feature's own, each once. -/
def Once (feature : Feature) (rules : List IptRule) : Prop :=
  (jumpsTo feature.chain.chain rules).Nodup ∧ ∀ rule ∈ jumpsTo feature.chain.chain rules, rule ∈ feature.jumps

def JumpsOnce (k : IptKernel) : Prop := ∀ feature : Feature, Once feature (k.rulesAt feature.builtin)

/-- No built-in chain jumps to a chain of the agent. -/
def NoJumps (k : IptKernel) : Prop :=
  ∀ feature : Feature, jumpsTo feature.chain.chain (k.rulesAt feature.builtin) = []

theorem jumpsOnce_of_noJumps {k : IptKernel} (h : NoJumps k) : JumpsOnce k := by
  intro feature
  simp [Once, h feature]

theorem once_insert {feature other : Feature} {jump : IptRule} (hjump : jump ∈ feature.jumps)
    {k : IptKernel} (h : JumpsOnce k) (hnew : jump ∉ k.rulesAt feature.builtin)
    (hb : feature.builtin = other.builtin) : Once other (jump :: k.rulesAt other.builtin) := by
  obtain ⟨hnodup, hown⟩ := h other
  have htarget := Feature.jump_target hjump
  by_cases hsame : feature.chain.chain = other.chain.chain
  · have hfeature : feature = other := by
      obtain ⟨ipv6, kind⟩ := feature
      obtain ⟨ipv6', kind'⟩ := other
      cases kind <;> cases kind' <;>
        simp_all [Feature.chain, Feature.builtin, FILTER_CHAIN, DOH_CHAIN, DNS_CHAIN, FORWARD, PREROUTING]
    subst hfeature
    have hcons : jumpsTo feature.chain.chain (jump :: k.rulesAt feature.builtin) =
        jump :: jumpsTo feature.chain.chain (k.rulesAt feature.builtin) := by
      simp [jumpsTo, htarget]
    unfold Once
    rw [hcons]
    refine ⟨List.nodup_cons.mpr ⟨fun hm => hnew (List.mem_of_mem_filter hm), hnodup⟩, ?_⟩
    intro rule hr
    rcases List.mem_cons.mp hr with rfl | hr
    · exact hjump
    · exact hown rule hr
  · have hskip : jumpsTo other.chain.chain (jump :: k.rulesAt other.builtin) =
        jumpsTo other.chain.chain (k.rulesAt other.builtin) := by
      simp [jumpsTo, htarget, hsame]
    unfold Once
    rw [hskip]
    exact ⟨hnodup, hown⟩

/-- A step of a feature makes one of its jumps or leaves the built-in chains alone. -/
theorem script_step_cases {config : Config} {args : SyncArgs} {feature : Feature}
    {s : Step IptCommand} (hs : s ∈ feature.script config args) :
    (∃ jump ∈ feature.jumps, s = ensureRule feature.builtin jump) ∨
      ∀ c ∈ s.commands, ∀ (other : Feature) v, c.rulesEffect other.builtin v = v := by
  obtain ⟨before, between, hscript, hprepares, _⟩ := feature.script_eq config args
  have hchain := fun other : Feature => Feature.chain_ne_builtin feature other
  have hprepare : feature.Prepares s → (∃ jump ∈ feature.jumps, s = ensureRule feature.builtin jump) ∨
      ∀ c ∈ s.commands, ∀ (other : Feature) v, c.rulesEffect other.builtin v = v := by
    intro h
    rcases h with rfl | hjump
    · refine Or.inr fun c hc other v => ?_
      rw [List.mem_singleton.mp hc]
      rfl
    · exact Or.inl hjump
  rw [hscript, List.append_nil] at hs
  simp only [List.mem_append, List.mem_cons] at hs
  rcases hs with hs | rfl | hs | hs
  · exact hprepare (hprepares s (List.mem_append_left _ hs))
  · refine Or.inr fun c hc other v => ?_
    rw [List.mem_singleton.mp hc]
    simp [IptCommand.rulesEffect, hchain other]
  · exact hprepare (hprepares s (List.mem_append_right _ hs))
  · obtain ⟨rule, rfl⟩ := Feature.fill_appends hs
    refine Or.inr fun c hc other v => ?_
    rw [List.mem_singleton.mp hc]
    simp [IptCommand.rulesEffect, hchain other]

/-- A check that is not misread fails only where the rule is absent. -/
theorem check_fails_absent {key : IptChainKey} {rule : IptRule} {add : IptCommand} {fate : Nat → Bool}
    {w : World IptCommand IptKernel} (hread : ¬Misread fate w (.ensure (.check key rule) add))
    (hfail : (issue (atomic fate) (.check key rule) w).1 = false) : rule ∉ w.kernel.rulesAt key := by
  intro hheld
  cases hf : fate w.issued.length with
  | false => exact hread ⟨hheld, hf⟩
  | true => simp [issue, atomic, respondBy, hf, IptCommand.apply, hheld] at hfail

theorem check_keeps (key : IptChainKey) (rule : IptRule) (fate : Nat → Bool)
    (w : World IptCommand IptKernel) : (issue (atomic fate) (.check key rule) w).2.kernel = w.kernel := by
  cases hf : fate w.issued.length <;> by_cases hr : rule ∈ w.kernel.rulesAt key <;>
    simp [issue, atomic, respondBy, IptCommand.apply, hf, hr]

/-- A step of a feature that does not misread its check leaves every jump at most once. -/
theorem script_step_once {config : Config} {args : SyncArgs} {fate : Nat → Bool} {feature : Feature}
    {s : Step IptCommand} (hs : s ∈ feature.script config args) {w : World IptCommand IptKernel}
    (h : JumpsOnce w.kernel) (hread : ¬Misread fate w s) :
    JumpsOnce (s.exec (atomic fate) w).2.kernel := by
  intro other
  rcases script_step_cases hs with ⟨jump, hjump, rfl⟩ | hneutral
  · simp only [ensureRule, Step.exec] at hread ⊢
    split
    next => rw [check_keeps]; exact h other
    next hcheck =>
      have habsent := check_fails_absent hread (by simpa using hcheck)
      rw [issue_view (atomic_effects fate other.builtin), check_keeps]
      split
      next =>
        simp only [IptCommand.rulesEffect]
        split
        next hb => exact once_insert hjump h habsent hb
        next => exact h other
      next => exact h other
  · have hkept : (runScript (atomic fate) [s] w).2.kernel.rulesAt other.builtin =
        w.kernel.rulesAt other.builtin :=
      runScript_view_neutral (atomic_effects fate other.builtin) (by simpa using fun c hc => hneutral c hc other) w
    rw [runScript_one] at hkept
    rw [hkept]
    exact h other

/-- A main pass that misreads no check leaves every jump at most once, completed or not. -/
theorem mainPass_once {config : Config} (hd : config.dryRun = false) {args : SyncArgs} {ipv6 : Bool}
    {fate : Nat → Bool} {w : World IptCommand IptKernel} (h : JumpsOnce w.kernel)
    (havoids : Avoids (execStep (atomic fate)) (Misread fate) w
      (mainPass config ipv6 (familyArgs config args ipv6))) :
    JumpsOnce (runScript (atomic fate) (mainPass config ipv6 (familyArgs config args ipv6)) w).2.kernel := by
  refine runScript_avoids ?_ havoids h
  intro s hs w hw hread
  rw [rebuilt_script hd] at hs
  obtain ⟨feature, _, hs⟩ := List.mem_flatMap.mp hs
  exact script_step_once hs hw hread

/-- A restore brings back what a built-in chain held, or leaves it alone. -/
theorem restore_rules (saved k : IptKernel) (ipv6 : Bool) (key : IptChainKey) :
    IptKernel.rulesAt (Function.update k ipv6 fun table =>
        (saved ipv6 table).orElse fun _ => k ipv6 table) key = saved.rulesAt key ∨
      IptKernel.rulesAt (Function.update k ipv6 fun table =>
        (saved ipv6 table).orElse fun _ => k ipv6 table) key = k.rulesAt key := by
  by_cases hk : ipv6 = key.ipv6
  · subst hk
    rw [IptKernel.rulesAt_restore]
    split
    next => exact Or.inl rfl
    next => exact Or.inr rfl
  · rw [IptCommand.apply_rulesAt (.restore ipv6 (saved ipv6)) k _ rfl]
    exact Or.inr (by simp [IptCommand.rulesEffect, hk])

/-- The checks the pass of a family makes: none when it is skipped or in dry run. -/
def MisreadsPass (config : Config) (fate : Nat → Bool) (ipv6 : Bool) (args : SyncArgs)
    (lastSyncSignature : Option SyncSignature) (w : World IptCommand IptKernel) : Prop :=
  config.dryRun = false ∧ lastSyncSignature ≠ some (buildFirewallSyncSignature args ipv6) ∧
    ¬Avoids (execStep (atomic fate)) (Misread fate) (snapshotRuleset (atomic fate) ipv6 w).2
      (mainPass config ipv6 args)

theorem syncFamily_once {config : Config} {args : SyncArgs} {ipv6 : Bool} {fate : Nat → Bool}
    {last : Option SyncSignature} {w : World IptCommand IptKernel} (h : JumpsOnce w.kernel)
    (hread : ¬MisreadsPass config fate ipv6 (familyArgs config args ipv6) last w) :
    JumpsOnce (syncFamily config (atomic fate) ipv6 (familyArgs config args ipv6) last w).world.kernel := by
  obtain ⟨hsnap, hsaved⟩ := snapshot_atomic fate ipv6 w
  unfold syncFamily
  simp only [runUnlessDry]
  split
  next => exact h
  next hskip =>
    cases hd : config.dryRun with
    | true =>
      simp only [if_true, hsnap]
      exact h
    | false =>
      have havoids : Avoids (execStep (atomic fate)) (Misread fate)
          (snapshotRuleset (atomic fate) ipv6 w).2 (mainPass config ipv6 (familyArgs config args ipv6)) := by
        by_contra hno
        exact hread ⟨hd, hskip, hno⟩
      have hmain := mainPass_once hd (by rw [hsnap]; exact h) havoids
      simp only [Bool.false_eq_true, if_false]
      split
      next => exact hmain
      next =>
        simp only
        by_cases hr : (rollback (atomic fate) (restoreRuleset ipv6) (snapshotRuleset (atomic fate) ipv6 w).1
            (runScript (atomic fate) (mainPass config ipv6 (familyArgs config args ipv6))
              (snapshotRuleset (atomic fate) ipv6 w).2).2).1 = .restored
        · obtain ⟨saved, hs, hk⟩ := rollback_restored hr
          rw [hk, hsaved saved hs]
          intro feature
          rcases restore_rules w.kernel (runScript (atomic fate) (mainPass config ipv6 (familyArgs config args ipv6))
              (snapshotRuleset (atomic fate) ipv6 w).2).2.kernel ipv6 feature.builtin with he | he
          · rw [he]; exact h feature
          · rw [he]; exact hmain feature
        · rw [rollback_unrestored hr]
          exact hmain

/-- One call of `sync`, with how its commands ended. -/
def syncStep (config : Config) (s : State) (call : SyncArgs × (Nat → Bool)) : Option State :=
  some (stateAfter config call.2 call.1 s)

/-- A check for a jump fails although the jump is there. -/
def Misreads (config : Config) (s : State) (call : SyncArgs × (Nat → Bool)) : Prop :=
  ∃ ipv6, ((syncOn config call.2 call.1 s).family ipv6).isSome ∧
    MisreadsPass config call.2 ipv6 (familyArgs config call.1 ipv6) (s.lastSyncSignatures ipv6)
      (passStart config call.2 call.1 s ipv6)

theorem stateAfter_once {config : Config} {s : State} {call : SyncArgs × (Nat → Bool)}
    (h : JumpsOnce s.kernel) (hread : ¬Misreads config s call) :
    JumpsOnce (stateAfter config call.2 call.1 s).kernel := by
  have hv4 : JumpsOnce (syncOn config call.2 call.1 s).v4.world.kernel :=
    syncFamily_once h fun hmisread => hread ⟨false, rfl, hmisread⟩
  simp only [stateAfter, Call.world]
  cases hv6 : (syncOn config call.2 call.1 s).v6 with
  | none => exact hv4
  | some pass =>
    have hpass : (syncOn config call.2 call.1 s).family true = some pass := hv6
    rw [Option.getD_some, syncOn_family hpass]
    exact syncFamily_once hv4 fun hmisread => hread ⟨true, by rw [hpass]; rfl, hmisread⟩

theorem length_le_of_once {feature : Feature} {rules : List IptRule} (h : Once feature rules)
    (keep : IptRule → Bool) :
    ((jumpsTo feature.chain.chain rules).filter keep).length ≤ (feature.jumps.filter keep).length := by
  refine List.Nodup.length_le_of_subset (h.1.filter _) ?_
  intro rule hr
  obtain ⟨hmem, hkeep⟩ := List.mem_filter.mp hr
  exact List.mem_filter.mpr ⟨h.2 rule hmem, hkeep⟩

/-- In a run in which no check fails while its jump is there, a call of `sync`, whatever becomes of
its other commands, leaves at most one jump to each chain of the agent, and per protocol to the DNS
chain. -/
theorem syncs_jump_once (config : Config) {s s' : State} (hclean : NoJumps s.kernel)
    {calls : List (SyncArgs × (Nat → Bool))} (havoids : Avoids (syncStep config) (Misreads config) s calls)
    (hrun : runEvents (syncStep config) s calls = some s') (ipv6 : Bool) :
    (jumpsTo "GUARDTIME_BLOCK" (s'.kernel.rulesAt (FORWARD ipv6))).length ≤ 1 ∧
      (jumpsTo "GUARDTIME_DOH" (s'.kernel.rulesAt (FORWARD ipv6))).length ≤ 1 ∧
      ∀ protocol, ((jumpsTo "GUARDTIME_DNS" (s'.kernel.rulesAt (PREROUTING ipv6))).filter
        (onProtocol protocol)).length ≤ 1 := by
  have honce : JumpsOnce s'.kernel := by
    refine avoids_keeps (I := fun s : State => JumpsOnce s.kernel) ?_ (jumpsOnce_of_noJumps hclean)
      havoids hrun
    intro s call next hs hstep hread
    exact Option.some.inj hstep ▸ stateAfter_once hs hread
  have hblock : ((jumpsTo "GUARDTIME_BLOCK" (s'.kernel.rulesAt (FORWARD ipv6))).filter
      fun _ => true).length ≤ 1 := length_le_of_once (honce ⟨ipv6, .block⟩) fun _ => true
  have hdoh : ((jumpsTo "GUARDTIME_DOH" (s'.kernel.rulesAt (FORWARD ipv6))).filter
      fun _ => true).length ≤ 1 := length_le_of_once (honce ⟨ipv6, .doh⟩) fun _ => true
  refine ⟨?_, ?_, ?_⟩
  · simpa using hblock
  · simpa using hdoh
  · intro protocol
    have hdns := length_le_of_once (honce ⟨ipv6, .dns⟩) (onProtocol protocol)
    have hone : ((Feature.jumps ⟨ipv6, .dns⟩).filter (onProtocol protocol)).length = 1 := by
      cases protocol <;> rfl
    exact hdns.trans hone.le

theorem avoids_misread_granted (script : List (Step IptCommand)) (w : World IptCommand IptKernel) :
    Avoids (execStep (atomic fun _ => true)) (Misread fun _ => true) w script := by
  refine avoids_of_forall ?_
  intro s _ w hmisread
  unfold Misread at hmisread
  split at hmisread
  next => simp at hmisread
  next => exact hmisread

theorem not_misreads_granted (config : Config) (s : State) (args : SyncArgs) :
    ¬Misreads config s (args, fun _ => true) := by
  intro h
  obtain ⟨_, _, _, _, hno⟩ := h
  exact hno (avoids_misread_granted _ _)

theorem noJumps_empty : NoJumps .empty := by
  intro feature
  obtain ⟨ipv6, kind⟩ := feature
  cases kind <;> rfl

def blockedThenNot : List (SyncArgs × (Nat → Bool)) := [(oneBlocked, fun _ => true), (nobodyBlocked, fun _ => true)]

theorem syncs_jump_once_twice :
    ∃ s', runEvents (syncStep sampleConfig) ⟨fun _ => none, .empty⟩ blockedThenNot = some s' ∧
      (jumpsTo "GUARDTIME_BLOCK" (s'.kernel.rulesAt (FORWARD false))).length ≤ 1 := by
  have havoids : Avoids (syncStep sampleConfig) (Misreads sampleConfig) ⟨fun _ => none, .empty⟩
      blockedThenNot := by
    refine avoids_of_forall ?_
    intro call hcall s
    simp only [blockedThenNot, List.mem_cons, List.not_mem_nil, or_false] at hcall
    rcases hcall with rfl | rfl <;> exact not_misreads_granted _ _ _
  exact ⟨_, rfl, (syncs_jump_once sampleConfig noJumps_empty havoids rfl false).1⟩

/-- The second call checks for the jump of the filter chain with its third command. -/
def checkFails : Nat → Bool := fun n => n != 2

/-- The check fails on a lock held by another program, the jump is inserted a second time, and both
calls return. -/
theorem syncs_jump_twice :
    ¬∀ (config : Config) (first second : SyncArgs × (Nat → Bool)),
      (syncOn config first.2 first.1 ⟨fun _ => none, .empty⟩).v4.outcome.returned = true →
      (syncOn config second.2 second.1
        (stateAfter config first.2 first.1 ⟨fun _ => none, .empty⟩)).v4.outcome.returned = true →
      (jumpsTo "GUARDTIME_BLOCK" ((stateAfter config second.2 second.1
        (stateAfter config first.2 first.1 ⟨fun _ => none, .empty⟩)).kernel.rulesAt
          (FORWARD false))).length ≤ 1 := by
  intro h
  have htwo := h sampleConfig (oneBlocked, fun _ => true) (nobodyBlocked, checkFails)
    (by decide +kernel) (by decide +kernel)
  revert htwo
  decide +kernel

end Iptables

end GuardTime
