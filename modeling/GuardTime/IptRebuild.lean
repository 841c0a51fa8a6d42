import GuardTime.IptController

namespace GuardTime

namespace Iptables

/-- Commands apply fully or fail and change nothing. -/
def atomic (fate : Nat → Bool) : Respond IptCommand IptKernel := respondBy IptCommand.apply fate

theorem atomic_effects (fate : Nat → Bool) (key : IptChainKey) :
    Effects (atomic fate) (IptKernel.rulesAt · key) (IptCommand.rulesEffect key) :=
  respondBy_effects fate IptCommand.apply_rulesAt

def rulesOf (script : List (Step IptCommand)) : List IptRule :=
  script.filterMap fun
    | .run (.append _ rule) false => some rule
    | _ => none

@[simp] theorem rulesOf_append (xs ys : List (Step IptCommand)) :
    rulesOf (xs ++ ys) = rulesOf xs ++ rulesOf ys := List.filterMap_append

@[simp] theorem rulesOf_flatMap {α : Type} (xs : List α) (f : α → List (Step IptCommand)) :
    rulesOf (xs.flatMap f) = xs.flatMap fun x => rulesOf (f x) := by
  induction xs with
  | nil => rfl
  | cons x xs ih => simp [List.flatMap_cons, ih]

/-- A step that appends a dropping rule to the chain `key`. -/
def Drops (key : IptChainKey) (s : Step IptCommand) : Prop :=
  ∃ exprs comment, s = dropRule key exprs comment

theorem targetSteps_drops (ipv6 quic : Bool) (target : Target) {s : Step IptCommand}
    (hs : s ∈ targetSteps ipv6 quic target) : Drops (FILTER_CHAIN ipv6) s := by
  simp only [targetSteps, List.mem_append] at hs
  rcases hs with (hs | hs) | hs
  · split at hs
    next =>
      simp only [addBlockRules, List.mem_append, List.mem_map] at hs
      rcases hs with ⟨_, _, rfl⟩ | ⟨_, _, rfl⟩ <;> exact ⟨_, _, rfl⟩
    next => simp at hs
  · split at hs
    next =>
      simp only [addVpnBlockRules, List.mem_flatMap, List.mem_append, List.mem_map] at hs
      obtain ⟨_, _, ⟨_, _, rfl⟩ | hs⟩ := hs
      · exact ⟨_, _, rfl⟩
      · split at hs
        next => simp at hs
        next =>
          obtain ⟨_, _, rfl⟩ := List.mem_map.mp hs
          exact ⟨_, _, rfl⟩
    next => simp at hs
  · split at hs
    next =>
      obtain ⟨_, _, rfl⟩ := List.mem_map.mp hs
      exact ⟨_, _, rfl⟩
    next => simp at hs

theorem dohDotRules_drops (config : Config) (ipv6 : Bool) {s : Step IptCommand}
    (hs : s ∈ dohDotRules config ipv6) : Drops (DOH_CHAIN ipv6) s := by
  simp only [dohDotRules, List.mem_append, List.mem_flatMap, List.mem_cons, List.not_mem_nil,
    or_false] at hs
  rcases hs with ⟨_, _, rfl | rfl⟩ | hs
  · exact ⟨_, _, rfl⟩
  · exact ⟨_, _, rfl⟩
  · split at hs
    next => simp at hs
    next =>
      obtain ⟨_, _, rfl⟩ := List.mem_map.mp hs
      exact ⟨_, _, rfl⟩

/-- The part of `mainPass` that fills the filter chain. -/
def policySteps (ipv6 : Bool) (args : SyncArgs) : List (Step IptCommand) :=
  args.targets.flatMap (targetSteps ipv6 args.enableQuicBlockGlobal)

theorem policySteps_drops (ipv6 : Bool) (args : SyncArgs) {s : Step IptCommand}
    (hs : s ∈ policySteps ipv6 args) : Drops (FILTER_CHAIN ipv6) s := by
  obtain ⟨target, _, hs⟩ := List.mem_flatMap.mp hs
  exact targetSteps_drops ipv6 _ target hs

theorem drops_neutral {key key' : IptChainKey} {s : Step IptCommand} (h : Drops key s) :
    s.Neutral (IptCommand.rulesEffect key') := by
  obtain ⟨_, _, rfl⟩ := h
  simp [dropRule, Step.Neutral]

theorem appends_of_drops {key : IptChainKey} {s : Step IptCommand} (h : Drops key s) :
    ∃ rule, s = .run (.append key rule) false := by
  obtain ⟨_, _, rfl⟩ := h
  exact ⟨_, rfl⟩

theorem foldl_appends {key : IptChainKey} {script : List (Step IptCommand)}
    (h : ∀ s ∈ script, ∃ rule, s = .run (.append key rule) false) (v : List IptRule) :
    (mandatory script).foldl (fun v c => c.rulesEffect key v) v = v ++ rulesOf script := by
  induction script generalizing v with
  | nil => simp [rulesOf]
  | cons s script ih =>
    obtain ⟨rule, rfl⟩ := h s (by simp)
    simp only [mandatory_run_cons, List.foldl_cons]
    rw [ih fun t ht => h t (List.mem_cons_of_mem _ ht)]
    simp [IptCommand.rulesEffect, rulesOf]

/-- A rule that jumps to a chain of the agent. -/
def ownJump (rule : IptRule) : Bool :=
  match rule.target with
  | .jump chain => chain ∈ ["GUARDTIME_BLOCK", "GUARDTIME_DNS", "GUARDTIME_DOH"]
  | _ => false

/-- What a pass may issue: commands on the chains `owned`, and jumps from the built-in chains. -/
inductive PassCommand (ipv6 : Bool) (owned : IptChainKey → Prop) : IptCommand → Prop
  | newChain {key : IptChainKey} : owned key → PassCommand ipv6 owned (.newChain key)
  | flush {key : IptChainKey} : owned key → PassCommand ipv6 owned (.flush key)
  | append {key : IptChainKey} {rule : IptRule} : owned key →
      PassCommand ipv6 owned (.append key rule)
  | check {key : IptChainKey} {rule : IptRule} : PassCommand ipv6 owned (.check key rule)
  | insertFirst {key : IptChainKey} {rule : IptRule} : key = FORWARD ipv6 ∨ key = PREROUTING ipv6 →
      ownJump rule = true → PassCommand ipv6 owned (.insertFirst key rule)

theorem PassCommand.mono {ipv6 : Bool} {owned owned' : IptChainKey → Prop} {c : IptCommand}
    (h : PassCommand ipv6 owned c) (ho : ∀ key, owned key → owned' key) :
    PassCommand ipv6 owned' c := by
  cases h with
  | newChain hk => exact .newChain (ho _ hk)
  | flush hk => exact .flush (ho _ hk)
  | append hk => exact .append (ho _ hk)
  | check => exact .check
  | insertFirst hk hj => exact .insertFirst hk hj

theorem PassCommand.spares {ipv6 : Bool} {owned : IptChainKey → Prop} {c : IptCommand}
    {key : IptChainKey} (h : PassCommand ipv6 owned c) (ho : ¬owned key)
    (hf : key ≠ FORWARD ipv6) (hp : key ≠ PREROUTING ipv6) (v : List IptRule) :
    c.rulesEffect key v = v := by
  cases h with
  | newChain => rfl
  | flush hk =>
    have hne : _ ≠ key := fun he => ho (he ▸ hk)
    simp [IptCommand.rulesEffect, hne]
  | append hk =>
    have hne : _ ≠ key := fun he => ho (he ▸ hk)
    simp [IptCommand.rulesEffect, hne]
  | check => rfl
  | insertFirst hk =>
    rcases hk with rfl | rfl
    · simp [IptCommand.rulesEffect, hf.symm]
    · simp [IptCommand.rulesEffect, hp.symm]

theorem ensureFilterChain_commands {ipv6 : Bool} {s : Step IptCommand}
    (hs : s ∈ ensureFilterChain ipv6 ++ flushFilterChain ipv6) {c : IptCommand} (hc : c ∈ s.commands) :
    PassCommand ipv6 (· = FILTER_CHAIN ipv6) c := by
  simp only [ensureFilterChain, flushFilterChain, List.mem_append, List.mem_cons,
    List.not_mem_nil, or_false] at hs
  rcases hs with (rfl | rfl) | rfl <;>
    simp only [ensureRule, Step.commands, List.mem_cons, List.not_mem_nil, or_false] at hc
  · rw [hc]; exact .newChain rfl
  · rcases hc with rfl | rfl
    · exact .check
    · exact .insertFirst (Or.inl rfl) rfl
  · rw [hc]; exact .flush rfl

theorem drops_commands {ipv6 : Bool} {key : IptChainKey} {s : Step IptCommand} (h : Drops key s)
    {c : IptCommand} (hc : c ∈ s.commands) : PassCommand ipv6 (· = key) c := by
  obtain ⟨_, _, rfl⟩ := h
  rw [List.mem_singleton.mp hc]
  exact .append rfl

theorem ensureDohDotBlock_commands {config : Config} {ipv6 : Bool} {s : Step IptCommand}
    (hs : s ∈ ensureDohDotBlock config ipv6) {c : IptCommand} (hc : c ∈ s.commands) :
    PassCommand ipv6 (· = DOH_CHAIN ipv6) c := by
  simp only [ensureDohDotBlock, List.mem_cons] at hs
  rcases hs with rfl | rfl | rfl | hs
  · rw [List.mem_singleton.mp hc]; exact .newChain rfl
  · rw [List.mem_singleton.mp hc]; exact .flush rfl
  · simp only [ensureRule, Step.commands, List.mem_cons, List.not_mem_nil, or_false] at hc
    rcases hc with rfl | rfl
    · exact .check
    · exact .insertFirst (Or.inl rfl) rfl
  · exact drops_commands (dohDotRules_drops config ipv6 hs) hc

theorem ensureDnsRedirect_commands {ip : String} {ipv6 : Bool} {s : Step IptCommand}
    (hs : s ∈ ensureDnsRedirect ip ipv6) {c : IptCommand} (hc : c ∈ s.commands) :
    PassCommand ipv6 (· = DNS_CHAIN ipv6) c := by
  unfold ensureDnsRedirect at hs
  split at hs
  next => simp at hs
  next =>
    simp only [List.mem_cons, List.not_mem_nil, or_false] at hs
    rcases hs with rfl | rfl | rfl | rfl | rfl | rfl <;>
      simp only [ensureRule, Step.commands, List.mem_cons, List.not_mem_nil, or_false] at hc
    · rw [hc]; exact .newChain rfl
    · rw [hc]; exact .flush rfl
    · rcases hc with rfl | rfl
      · exact .check
      · exact .insertFirst (Or.inr rfl) rfl
    · rcases hc with rfl | rfl
      · exact .check
      · exact .insertFirst (Or.inr rfl) rfl
    · rw [hc]; exact .append rfl
    · rw [hc]; exact .append rfl

def Owned (ipv6 : Bool) (key : IptChainKey) : Prop :=
  key = FILTER_CHAIN ipv6 ∨ key = DOH_CHAIN ipv6 ∨ key = DNS_CHAIN ipv6

theorem mainPass_eq (config : Config) (ipv6 : Bool) (args : SyncArgs) :
    mainPass config ipv6 args = ensureFilterChain ipv6 ++ (flushFilterChain ipv6 ++
      (policySteps ipv6 args ++
        ((if args.enableDohBlock then ensureDohDotBlock config ipv6 else []) ++
          (if args.enableDnsRedirect then ensureDnsRedirect args.dnsRedirectIp ipv6 else [])))) := by
  simp [mainPass, policySteps, List.append_assoc]

theorem mainPass_commands {config : Config} {ipv6 : Bool} {args : SyncArgs} {s : Step IptCommand}
    (hs : s ∈ mainPass config ipv6 args) {c : IptCommand} (hc : c ∈ s.commands) :
    PassCommand ipv6 (Owned ipv6) c := by
  rw [mainPass_eq, ← List.append_assoc] at hs
  rcases List.mem_append.mp hs with hs | hs
  · exact (ensureFilterChain_commands hs hc).mono fun _ h => Or.inl h
  rcases List.mem_append.mp hs with hs | hs
  · exact (drops_commands (policySteps_drops ipv6 args hs) hc).mono fun _ h => Or.inl h
  rcases List.mem_append.mp hs with hs | hs
  · split at hs
    next => exact (ensureDohDotBlock_commands hs hc).mono fun _ h => Or.inr (Or.inl h)
    next => simp at hs
  · split at hs
    next => exact (ensureDnsRedirect_commands hs hc).mono fun _ h => Or.inr (Or.inr h)
    next => simp at hs

section Completed

variable {respond : Respond IptCommand IptKernel} {config : Config} {ipv6 : Bool} {args : SyncArgs}

/-- A completed main pass leaves exactly the rules of the policy in the filter chain. -/
theorem mainPass_rules
    (he : Effects respond (IptKernel.rulesAt · (FILTER_CHAIN ipv6))
      (IptCommand.rulesEffect (FILTER_CHAIN ipv6)))
    {w : World IptCommand IptKernel}
    (h : (runScript respond (mainPass config ipv6 args) w).1 = true) :
    (runScript respond (mainPass config ipv6 args) w).2.kernel.rulesAt (FILTER_CHAIN ipv6) =
      rulesOf (policySteps ipv6 args) := by
  have hflush : ∀ v, (IptCommand.flush (FILTER_CHAIN ipv6)).rulesEffect (FILTER_CHAIN ipv6) v = [] := by
    simp [IptCommand.rulesEffect]
  have hafter : ∀ s ∈ (if args.enableDohBlock then ensureDohDotBlock config ipv6 else []) ++
      (if args.enableDnsRedirect then ensureDnsRedirect args.dnsRedirectIp ipv6 else []),
      ∀ c ∈ s.commands, ∀ v, c.rulesEffect (FILTER_CHAIN ipv6) v = v := by
    intro s hs c hc
    rcases List.mem_append.mp hs with hs | hs
    · split at hs
      next =>
        exact (ensureDohDotBlock_commands hs hc).spares (by simp [FILTER_CHAIN, DOH_CHAIN])
          (by simp [FILTER_CHAIN, FORWARD]) (by simp [FILTER_CHAIN, PREROUTING])
      next => simp at hs
    · split at hs
      next =>
        exact (ensureDnsRedirect_commands hs hc).spares (by simp [FILTER_CHAIN, DNS_CHAIN])
          (by simp [FILTER_CHAIN, FORWARD]) (by simp [FILTER_CHAIN, PREROUTING])
      next => simp at hs
  rw [mainPass_eq, flushFilterChain, List.singleton_append] at h ⊢
  rw [← List.nil_append (policySteps ipv6 args ++ _)] at h ⊢
  rw [runScript_rebuild he hflush (by simp)
    (fun s hs => drops_neutral (policySteps_drops ipv6 args hs)) hafter h,
    foldl_appends fun s hs => appends_of_drops (policySteps_drops ipv6 args hs), List.nil_append]

end Completed

theorem targetSteps_normal (ipv6 quic : Bool) (target : Target) :
    targetSteps ipv6 quic target = targetSteps ipv6 quic (normalizeTarget target).toTarget := by
  cases ipv6 <;>
    simp [targetSteps, addBlockRules, addVpnBlockRules, addQuicBlockRule, addressOf,
      normalizeTarget, NormalizedTarget.toTarget]

/-- Equal signatures ask for the same rules up to the order of the targets. -/
theorem policySteps_perm {ipv6 : Bool} {a b : SyncArgs}
    (h : buildFirewallSyncSignature a ipv6 = buildFirewallSyncSignature b ipv6) :
    (rulesOf (policySteps ipv6 a)).Perm (rulesOf (policySteps ipv6 b)) := by
  have hq : a.enableQuicBlockGlobal = b.enableQuicBlockGlobal :=
    congrArg SyncSignature.enableQuicBlockGlobal h
  simp only [policySteps, rulesOf_flatMap, hq]
  refine signature_flatMap_perm ?_ h
  intro target
  rw [← targetSteps_normal]

/-- The built-in chains the agent jumps from. -/
def Standing (k : IptKernel) : Prop :=
  ∀ ipv6, (k.chain (FORWARD ipv6)).isSome ∧ (k.chain (PREROUTING ipv6)).isSome

theorem standing_empty : Standing IptKernel.empty := by
  intro ipv6
  exact ⟨rfl, rfl⟩

/-- The steps that fill the chain `key` once it exists. -/
inductive Fills (key : IptChainKey) : Step IptCommand → Prop
  | flush : Fills key (.run (.flush key) false)
  | append {rule : IptRule} : (∀ chain, rule.target ≠ .jump chain) →
      Fills key (.run (.append key rule) false)
  | ensure {builtin : IptChainKey} {rule : IptRule} :
      builtin = FORWARD key.ipv6 ∨ builtin = PREROUTING key.ipv6 → builtin.table = key.table →
      rule.target = .jump key.chain → Fills key (ensureRule builtin rule)

theorem fills_of_drops {key : IptChainKey} {s : Step IptCommand} (h : Drops key s) : Fills key s := by
  obtain ⟨_, _, rfl⟩ := h
  exact .append (by simp)

/-- The chain that is filled is there, beside the built-in ones. -/
def Filling (key : IptChainKey) (k : IptKernel) : Prop := (k.chain key).isSome ∧ Standing k

theorem Fills.keeps {key : IptChainKey} {s : Step IptCommand} (h : Fills key s) {c : IptCommand}
    (hc : c ∈ s.commands) {k k' : IptKernel} (hk : Filling key k) (ha : c.apply k = some k') :
    Filling key k' := by
  have hr : ∀ ipv6 saved, c ≠ .restore ipv6 saved := by
    rintro ipv6 saved rfl
    cases h <;> simp [Step.commands, ensureRule] at hc
  exact ⟨IptCommand.apply_keeps_chain hr ha hk.1, fun ipv6 =>
    ⟨IptCommand.apply_keeps_chain hr ha (hk.2 ipv6).1,
      IptCommand.apply_keeps_chain hr ha (hk.2 ipv6).2⟩⟩

theorem Fills.possible {key : IptChainKey} {s : Step IptCommand} (h : Fills key s) {c : IptCommand}
    (hc : c ∈ s.needed) {k : IptKernel} (hk : Filling key k) : ∃ k', c.apply k = some k' := by
  obtain ⟨rules, hrules⟩ := Option.isSome_iff_exists.mp hk.1
  cases h with
  | flush =>
    rw [List.mem_singleton.mp hc]
    exact ⟨k.setChain key [], by simp [IptCommand.apply, hrules]⟩
  | @append rule hj =>
    rw [List.mem_singleton.mp hc]
    have ht : k.hasTarget key rule = true := by
      unfold IptKernel.hasTarget
      split
      next chain he => exact absurd he (hj chain)
      next => rfl
    exact ⟨k.setChain key (rules ++ [rule]), by simp [IptCommand.apply, ht, hrules]⟩
  | @ensure builtin rule hbuiltin htable hj =>
    rw [List.mem_singleton.mp hc]
    have hin : (k.chain builtin).isSome := by
      rcases hbuiltin with rfl | rfl
      · exact (hk.2 _).1
      · exact (hk.2 _).2
    have hipv6 : builtin.ipv6 = key.ipv6 := by rcases hbuiltin with rfl | rfl <;> rfl
    have ht : k.hasTarget builtin rule = true := by
      have hkey : (⟨builtin.ipv6, builtin.table, key.chain⟩ : IptChainKey) = key := by
        rw [hipv6, htable]
      simp only [IptKernel.hasTarget, hj, hkey]
      exact hk.1
    obtain ⟨held, hheld⟩ := Option.isSome_iff_exists.mp hin
    exact ⟨k.setChain builtin (rule :: held), by simp [IptCommand.apply, ht, hheld]⟩

theorem newChain_filling {key : IptChainKey} {w : World IptCommand IptKernel}
    (hw : Standing w.kernel) :
    Filling key ((Step.run (.newChain key) true).exec (atomic fun _ => true) w).2.kernel := by
  cases hc : w.kernel.chain key with
  | some rules =>
    simpa [Step.exec, issue, atomic, respondBy, IptCommand.apply, hc, Filling] using hw
  | none =>
    simp only [Step.exec, issue, atomic, respondBy, IptCommand.apply, hc, if_true, Option.isSome_none,
      Bool.false_eq_true, if_false, Filling]
    refine ⟨by simp [IptKernel.chain_setChain], fun ipv6 => ⟨?_, ?_⟩⟩
    · rw [IptKernel.chain_setChain]
      split
      next => rfl
      next => exact (hw ipv6).1
    · rw [IptKernel.chain_setChain]
      split
      next => rfl
      next => exact (hw ipv6).2

theorem fill_completes {key : IptChainKey} {body : List (Step IptCommand)}
    (hb : ∀ s ∈ body, Fills key s) {w : World IptCommand IptKernel} (hw : Standing w.kernel) :
    (runScript (atomic fun _ => true) (.run (.newChain key) true :: body) w).1 =
        true ∧
      Standing (runScript (atomic fun _ => true)
        (.run (.newChain key) true :: body) w).2.kernel := by
  have hkeep : ∀ s ∈ body, ∀ c ∈ s.commands, ∀ k k', Filling key k → c.apply k = some k' →
      Filling key k' := fun s hs c hc _ _ hk ha => (hb s hs).keeps hc hk ha
  have hneed : ∀ s ∈ body, ∀ c ∈ s.needed, ∀ k, Filling key k → ∃ k', c.apply k = some k' :=
    fun s hs c hc _ hk => (hb s hs).possible hc hk
  have hexec : ((Step.run (.newChain key) true).exec
      (atomic fun _ => true) w).1 = true := by simp [Step.exec]
  simp only [runScript, hexec, if_true]
  refine ⟨runScript_completes (fun _ => rfl) hneed hkeep (newChain_filling hw), ?_⟩
  exact (runScript_invariant (I := Filling key)
    (fun s hs c hc n k => respondBy_keeps (hkeep s hs c hc) n) (newChain_filling hw)).2

theorem mainPass_completes (config : Config) (ipv6 : Bool) (args : SyncArgs)
    {w : World IptCommand IptKernel} (hw : Standing w.kernel) :
    (runScript (atomic fun _ => true) (mainPass config ipv6 args) w).1 = true := by
  have hfilter : ∀ s ∈ ensureRule (FORWARD ipv6) ⟨[], none, .jump (FILTER_CHAIN ipv6).chain⟩ ::
      .run (.flush (FILTER_CHAIN ipv6)) false :: policySteps ipv6 args,
      Fills (FILTER_CHAIN ipv6) s := by
    intro s hs
    rcases List.mem_cons.mp hs with rfl | hs
    · exact .ensure (Or.inl rfl) rfl rfl
    rcases List.mem_cons.mp hs with rfl | hs
    · exact .flush
    · exact fills_of_drops (policySteps_drops ipv6 args hs)
  obtain ⟨hok, hstand⟩ := fill_completes hfilter hw
  have hsplit : mainPass config ipv6 args = (.run (.newChain (FILTER_CHAIN ipv6)) true ::
      (ensureRule (FORWARD ipv6) ⟨[], none, .jump (FILTER_CHAIN ipv6).chain⟩ ::
        .run (.flush (FILTER_CHAIN ipv6)) false :: policySteps ipv6 args)) ++
      ((if args.enableDohBlock then ensureDohDotBlock config ipv6 else []) ++
        (if args.enableDnsRedirect then ensureDnsRedirect args.dnsRedirectIp ipv6 else [])) := by
    rw [mainPass_eq]
    simp [ensureFilterChain, flushFilterChain]
  rw [hsplit, runScript_append, if_pos hok]
  generalize (runScript (atomic fun _ => true) _ w).2 = w₁ at hstand
  have hdoh : ∀ s ∈ .run (.flush (DOH_CHAIN ipv6)) false ::
      ensureRule (FORWARD ipv6) ⟨[], none, .jump (DOH_CHAIN ipv6).chain⟩ ::
      dohDotRules config ipv6, Fills (DOH_CHAIN ipv6) s := by
    intro s hs
    rcases List.mem_cons.mp hs with rfl | hs
    · exact .flush
    rcases List.mem_cons.mp hs with rfl | hs
    · exact .ensure (Or.inl rfl) rfl rfl
    · exact fills_of_drops (dohDotRules_drops config ipv6 hs)
  have hdohPass : (runScript (atomic fun _ => true)
      (if args.enableDohBlock then ensureDohDotBlock config ipv6 else []) w₁).1 = true ∧
      Standing (runScript (atomic fun _ => true)
        (if args.enableDohBlock then ensureDohDotBlock config ipv6 else []) w₁).2.kernel := by
    split
    next => exact fill_completes hdoh hstand
    next => exact ⟨rfl, hstand⟩
  rw [runScript_append, if_pos hdohPass.1]
  split
  next =>
    unfold ensureDnsRedirect
    split
    next => rfl
    next =>
      refine (fill_completes ?_ hdohPass.2).1
      intro s hs
      simp only [List.mem_cons, List.not_mem_nil, or_false] at hs
      rcases hs with rfl | rfl | rfl | rfl | rfl
      · exact .flush
      · exact .ensure (Or.inr rfl) rfl rfl
      · exact .ensure (Or.inr rfl) rfl rfl
      · exact .append (by simp)
      · exact .append (by simp)
  next => rfl

end Iptables

end GuardTime
