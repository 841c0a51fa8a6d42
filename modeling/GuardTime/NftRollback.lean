import GuardTime.NftCoherence

namespace GuardTime

/-- A listed chain read back: created when missing, else its rules are appended. -/
def NftChain.addListed : Option NftChain → Option NftChain → Option NftChain
  | none, held => held
  | some listed, none => some listed
  | some listed, some held => some ⟨held.header, held.rules ++ listed.rules⟩

/-- Reading back a listing that does not start with `flush ruleset`. -/
def NftRuleset.addListing (listing r : NftRuleset) : NftRuleset := fun t =>
  match listing t, r t with
  | none, held => held
  | some listed, none => some listed
  | some listed, some held => some fun name => NftChain.addListed (listed name) (held name)

/-- No table and no chain of `r` is missing from `r'`, and none has another header there. -/
structure NftRuleset.Keeps (r r' : NftRuleset) : Prop where
  table : ∀ t, (r t).isSome → (r' t).isSome
  chain : ∀ key c, r.chain key = some c → ∃ c', r'.chain key = some c' ∧ c'.header = c.header

/-- Every table and chain of `r'` is one of `r`. -/
structure NftRuleset.Within (r r' : NftRuleset) : Prop where
  table : ∀ t, (r' t).isSome → (r t).isSome
  chain : ∀ key, (r'.chain key).isSome → (r.chain key).isSome

theorem NftRuleset.Keeps.refl (r : NftRuleset) : r.Keeps r := ⟨fun _ h => h, fun _ c h => ⟨c, h, rfl⟩⟩

theorem NftRuleset.Within.refl (r : NftRuleset) : r.Within r := ⟨fun _ h => h, fun _ h => h⟩

theorem NftRuleset.ext_chain {r r' : NftRuleset} (ht : ∀ t, (r t).isSome = (r' t).isSome)
    (hc : ∀ key, r.chain key = r'.chain key) : r = r' := by
  funext t
  cases h : r t with
  | none => have := ht t; simp_all
  | some chains =>
    obtain ⟨chains', h'⟩ := Option.isSome_iff_exists.mp (by rw [← ht t, h]; rfl : (r' t).isSome = true)
    rw [h']
    congr 1
    funext name
    simpa [NftRuleset.chain, h, h'] using hc ⟨t, name⟩

theorem NftRuleset.chain_addListing (listing r : NftRuleset) (key : NftChainKey) :
    (addListing listing r).chain key = NftChain.addListed (listing.chain key) (r.chain key) := by
  simp only [NftRuleset.chain, addListing]
  cases hl : listing key.table with
  | none => simp [NftChain.addListed]
  | some listed =>
    cases hr : r key.table with
    | none => cases hc : listed key.chain <;> simp [NftChain.addListed, hc]
    | some held => simp

theorem NftRuleset.isSome_addListing (listing r : NftRuleset) (t : NftTableKey) :
    (addListing listing r t).isSome = ((listing t).isSome || (r t).isSome) := by
  simp only [addListing]
  cases listing t <;> cases r t <;> rfl

theorem NftRuleset.rulesAt_addListing (listing r : NftRuleset) (key : NftChainKey) :
    (addListing listing r).rulesAt key = r.rulesAt key ++ listing.rulesAt key := by
  simp only [NftRuleset.rulesAt, NftRuleset.chain_addListing]
  cases listing.chain key <;> cases r.chain key <;> simp [NftChain.addListed]

/-- Reading a listing back is exact on a ruleset that grew from the listed one just when the
growth left no table, no chain and no rule. -/
theorem NftRuleset.addListing_eq_iff {r r' : NftRuleset} (hk : r.Keeps r') :
    addListing r r' = r ↔ r.Within r' ∧ ∀ key, r'.rulesAt key = [] := by
  refine ⟨?_, ?_⟩
  · intro h
    have hw : r.Within r' := by
      refine ⟨fun t ht => ?_, fun key hc => ?_⟩
      · rw [← h, NftRuleset.isSome_addListing, ht, Bool.or_true]
      · rw [← h, NftRuleset.chain_addListing]
        cases hr : r.chain key <;> cases hr' : r'.chain key <;> simp_all [NftChain.addListed]
    refine ⟨hw, fun key => ?_⟩
    have hr := NftRuleset.rulesAt_addListing r r' key
    rw [h] at hr
    have hlen := congrArg List.length hr
    rw [List.length_append] at hlen
    exact List.length_eq_zero_iff.mp (by omega)
  · intro h
    obtain ⟨hw, hr⟩ := h
    apply NftRuleset.ext_chain
    · intro t
      rw [NftRuleset.isSome_addListing]
      cases ht : (r' t).isSome with
      | false => simp
      | true => simp [hw.table t ht]
    · intro key
      rw [NftRuleset.chain_addListing]
      cases hc : r.chain key with
      | none =>
        cases hc' : r'.chain key with
        | none => rfl
        | some c' => have := hw.chain key (by simp [hc']); simp [hc] at this
      | some c =>
        obtain ⟨c', hc', hheader⟩ := hk.chain key c hc
        have hrules := hr key
        rw [NftRuleset.rulesAt_of_chain hc'] at hrules
        simp [hc', NftChain.addListed, hrules, hheader]

theorem NftRuleset.keeps_setChain {r : NftRuleset} {key : NftChainKey} {c : NftChain}
    (h : r.chain key = some c) (rules : List NftRule) : r.Keeps (r.setChain key { c with rules }) := by
  refine ⟨fun t ht => ?_, fun key' c' hc' => ?_⟩
  · by_cases hk : t = key.table
    · subst t; simpa [NftRuleset.setChain] using ht
    · simpa [NftRuleset.setChain, hk] using ht
  · rw [NftRuleset.chain_setChain h]
    by_cases hk : key' = key
    · subst key'
      exact ⟨_, if_pos rfl, by rw [Option.some.inj (h.symm.trans hc')]⟩
    · exact ⟨c', by rw [if_neg hk, hc'], rfl⟩

theorem NftRuleset.within_setChain {r : NftRuleset} {key : NftChainKey} {c : NftChain}
    (h : r.chain key = some c) (c' : NftChain) : r.Within (r.setChain key c') := by
  refine ⟨fun t ht => ?_, fun key' hc' => ?_⟩
  · by_cases hk : t = key.table
    · subst t; simpa [NftRuleset.setChain] using ht
    · simpa [NftRuleset.setChain, hk] using ht
  · rw [NftRuleset.chain_setChain h] at hc'
    by_cases hk : key' = key
    · rw [hk, h]; rfl
    · rwa [if_neg hk] at hc'

theorem NftRuleset.Keeps.trans {r r' r'' : NftRuleset} (h : r.Keeps r') (h' : r'.Keeps r'') :
    r.Keeps r'' := by
  refine ⟨fun t ht => h'.table t (h.table t ht), fun key c hc => ?_⟩
  obtain ⟨c', hc', he'⟩ := h.chain key c hc
  obtain ⟨c'', hc'', he''⟩ := h'.chain key c' hc'
  exact ⟨c'', hc'', he''.trans he'⟩

theorem NftRuleset.Within.trans {r r' r'' : NftRuleset} (h : r.Within r') (h' : r'.Within r'') :
    r.Within r'' :=
  ⟨fun t ht => h.table t (h'.table t ht), fun key hc => h.chain key (h'.chain key hc)⟩

theorem NftRuleset.Within.of_keeps {r r' r'' : NftRuleset} (h : r.Within r'') (h' : r'.Keeps r'') :
    r.Within r' := by
  refine ⟨fun t ht => h.table t (h'.table t ht), fun key hc => h.chain key ?_⟩
  obtain ⟨c, hc⟩ := Option.isSome_iff_exists.mp hc
  obtain ⟨c', hc', _⟩ := h'.chain key c hc
  simp [hc']

/-- On a ruleset that has everything `r` has, the command creates nothing that `r` lacks. -/
def NftCommand.CreatesNothing (r : NftRuleset) : NftCommand → Prop
  | .addTable t => (r t).isSome
  | .addChain key _ => (r key.table).isSome → (r.chain key).isSome
  | _ => True

def NftCommand.isLoad : NftCommand → Bool
  | .loadFile _ => true
  | _ => false

theorem NftRuleset.chain_addTable {r : NftRuleset} {t : NftTableKey} (h : r t = none)
    (key : NftChainKey) :
    NftRuleset.chain (Function.update r t (some fun _ => none)) key = r.chain key := by
  by_cases hk : key.table = t
  · simp [NftRuleset.chain, hk, h]
  · simp [NftRuleset.chain, hk]

theorem NftRuleset.chain_addChain {r : NftRuleset} {key : NftChainKey}
    {chains : String → Option NftChain} (ht : r key.table = some chains) (c : NftChain)
    (key' : NftChainKey) :
    NftRuleset.chain (Function.update r key.table
      (some (Function.update chains key.chain (some c)))) key' =
        if key' = key then some c else r.chain key' := by
  obtain ⟨t, name⟩ := key
  obtain ⟨t', name'⟩ := key'
  by_cases htt : t' = t
  · subst t'
    by_cases hn : name' = name
    · subst name'; simp [NftRuleset.chain]
    · simp [NftRuleset.chain, hn, show r t = some chains from ht]
  · simp [NftRuleset.chain, htt]

theorem NftRuleset.addTable_grows {r : NftRuleset} {t : NftTableKey} (h : r t = none) :
    r.Keeps (Function.update r t (some fun _ => none)) ∧ ∀ r₀ : NftRuleset, r₀.Within r →
      (r₀.Within (Function.update r t (some fun _ => none)) ↔ (r₀ t).isSome) := by
  refine ⟨⟨fun t' ht' => ?_, fun key c hc => ⟨c, by rw [chain_addTable h, hc], rfl⟩⟩,
    fun r₀ hw => ⟨fun hw' => hw'.table t (by simp), fun ht => ⟨fun t' ht' => ?_, fun key hc => ?_⟩⟩⟩
  · by_cases htt : t' = t
    · simp [htt]
    · simpa [htt] using ht'
  · by_cases htt : t' = t
    · rwa [htt]
    · exact hw.table t' (by simpa [htt] using ht')
  · rw [chain_addTable h] at hc
    exact hw.chain key hc

theorem NftRuleset.addChain_grows {r : NftRuleset} {key : NftChainKey}
    {chains : String → Option NftChain} (ht : r key.table = some chains)
    (hc : chains key.chain = none) (c : NftChain) :
    r.Keeps (Function.update r key.table (some (Function.update chains key.chain (some c)))) ∧
      ∀ r₀ : NftRuleset, r₀.Within r →
        (r₀.Within (Function.update r key.table
          (some (Function.update chains key.chain (some c)))) ↔ (r₀.chain key).isSome) := by
  have hnone : r.chain key = none := by simp [NftRuleset.chain, ht, hc]
  refine ⟨⟨fun t' ht' => ?_, fun key' c' hc' => ⟨c', ?_, rfl⟩⟩,
    fun r₀ hw => ⟨fun hw' => hw'.chain key (by simp [chain_addChain ht]),
      fun hkey => ⟨fun t' ht' => ?_, fun key' hc' => ?_⟩⟩⟩
  · by_cases htt : t' = key.table
    · simp [htt]
    · simpa [htt] using ht'
  · rw [chain_addChain ht, if_neg, hc']
    rintro rfl
    simp [hnone] at hc'
  · by_cases htt : t' = key.table
    · exact htt ▸ hw.table _ (by simp [ht])
    · exact hw.table t' (by simpa [htt] using ht')
  · rw [chain_addChain ht] at hc'
    by_cases hk : key' = key
    · rwa [hk]
    · exact hw.chain key' (by rwa [if_neg hk] at hc')

/-- A command other than a load removes no table and no chain, and what it may create is what
`CreatesNothing` speaks of. -/
theorem NftCommand.apply_grows {c : NftCommand} {r r' : NftRuleset} (hc : c.isLoad = false)
    (h : c.apply NftRuleset.addListing r = some r') :
    r.Keeps r' ∧ ∀ r₀ : NftRuleset, r₀.Within r → (r₀.Within r' ↔ c.CreatesNothing r₀) := by
  cases c with
  | addTable t =>
    cases Option.some.inj h
    split
    next ht =>
      refine ⟨.refl r, fun r₀ hw => ?_⟩
      simp [NftCommand.CreatesNothing, hw, hw.table t ht]
    next ht =>
      obtain ⟨hk, hw⟩ := NftRuleset.addTable_grows (t := t) (by simpa using ht)
      exact ⟨hk, hw⟩
  | addChain key header =>
    simp only [NftCommand.apply] at h
    split at h
    next => simp at h
    next chains ht =>
      split at h
      next hs =>
        cases Option.some.inj h
        refine ⟨.refl r, fun r₀ hw => ?_⟩
        have hkey : (r₀.chain key).isSome := hw.chain key (by simpa [NftRuleset.chain, ht] using hs)
        simp [NftCommand.CreatesNothing, hw, hkey]
      next hs =>
        cases Option.some.inj h
        obtain ⟨hk, hw⟩ := NftRuleset.addChain_grows ht (by simpa using hs) ⟨some header, []⟩
        refine ⟨hk, fun r₀ hr => (hw r₀ hr).trans ?_⟩
        simp [NftCommand.CreatesNothing, hr.table key.table (by simp [ht])]
  | flushChain key =>
    obtain ⟨c, hc, rfl⟩ := Option.map_eq_some_iff.mp h
    refine ⟨NftRuleset.keeps_setChain hc [], fun r₀ hw => ?_⟩
    simp only [NftCommand.CreatesNothing, iff_true]
    exact hw.trans (NftRuleset.within_setChain hc _)
  | addRule key rule =>
    obtain ⟨c, hc, rfl⟩ := Option.map_eq_some_iff.mp h
    refine ⟨NftRuleset.keeps_setChain hc _, fun r₀ hw => ?_⟩
    simp only [NftCommand.CreatesNothing, iff_true]
    exact hw.trans (NftRuleset.within_setChain hc _)
  | listRuleset =>
    cases Option.some.inj h
    exact ⟨.refl r, fun r₀ hw => by simp [NftCommand.CreatesNothing, hw]⟩
  | writeFile =>
    cases Option.some.inj h
    exact ⟨.refl r, fun r₀ hw => by simp [NftCommand.CreatesNothing, hw]⟩
  | loadFile listing => simp [NftCommand.isLoad] at hc

namespace Nftables

/-- Commands apply fully or fail and change nothing, and a load adds to what is there. -/
def adding (fate : Nat → Bool) : Respond NftCommand NftRuleset :=
  respondBy (NftCommand.apply NftRuleset.addListing) fate

def syncAdding (config : Config) (fate : Nat → Bool) (args : SyncArgs)
    (lastSyncSignature : Option SyncSignature) (kernel : NftRuleset) : Call :=
  sync config (adding fate) args lastSyncSignature ⟨kernel, []⟩

theorem adding_effects (fate : Nat → Bool) (key : NftChainKey) :
    Effects (adding fate) (NftRuleset.rulesAt · key)
      (NftCommand.rulesEffect (fun listed held => held ++ listed) key) :=
  respondBy_effects fate (NftCommand.apply_rulesAt fun listing r =>
    NftRuleset.rulesAt_addListing listing r key)

theorem snapshot_adding (fate : Nat → Bool) (k : NftRuleset) :
    snapshotRuleset (adding fate) ⟨k, []⟩ =
      (if fate 0 then some k else none, ⟨k, [.listRuleset]⟩) := by
  cases hf : fate 0 <;> simp [snapshotRuleset, issue, adding, respondBy, NftCommand.apply, hf]

theorem rollback_restored {fate : Nat → Bool} {snapshot : Option NftRuleset}
    {w : World NftCommand NftRuleset} (h : (rollback (adding fate) restoreRuleset snapshot w).1 = .restored) :
    ∃ listing, snapshot = some listing ∧
      (rollback (adding fate) restoreRuleset snapshot w).2.kernel = listing.addListing w.kernel := by
  cases snapshot with
  | none => simp [rollback] at h
  | some listing =>
    refine ⟨listing, rfl, ?_⟩
    cases hwrite : fate w.issued.length <;> cases hload : fate (w.issued.length + 1) <;>
      simp_all [rollback, restoreRuleset, runScript, Step.exec, issue, adding, respondBy,
        NftCommand.apply]

/-- The awaited calls of the main pass. -/
inductive PassStep : Step NftCommand → Prop
  | addTable (t : NftTableKey) : PassStep (.run (.addTable t) true)
  | addChain (key : NftChainKey) (header : NftChainHeader) : PassStep (.run (.addChain key header) true)
  | flushChain (key : NftChainKey) : PassStep (.run (.flushChain key) false)
  | addRule (key : NftChainKey) (rule : NftRule) : PassStep (.run (.addRule key rule) false)

theorem mainPass_passStep (config : Config) (args : SyncArgs) {s : Step NftCommand}
    (hs : s ∈ mainPass config args) : PassStep s := by
  rw [mainPass_eq] at hs
  simp only [List.mem_append, ensureTable, flushChain, List.mem_cons, List.not_mem_nil,
    or_false] at hs
  rcases hs with (rfl | rfl) | rfl | hs | hs
  · exact .addTable _
  · exact .addChain _ _
  · exact .flushChain _
  · obtain ⟨rule, rfl⟩ := policySteps_addsTo config args hs
    exact .addRule _ _
  · split at hs
    next =>
      simp only [ensureDnsRedirect, dnsRedirectSteps, List.mem_cons, List.not_mem_nil,
        or_false] at hs
      rcases hs with rfl | rfl | rfl | rfl | rfl <;> constructor
    next => simp at hs

theorem passStep_plain {s : Step NftCommand} (h : PassStep s) :
    ∃ c ignoreFailure, s = .run c ignoreFailure ∧ c.isLoad = false := by
  cases h <;> exact ⟨_, _, rfl, rfl⟩

theorem passStep_neutral {loaded : List NftRule → List NftRule → List NftRule} {key : NftChainKey}
    {s : Step NftCommand} (h : PassStep s) : s.Neutral (NftCommand.rulesEffect loaded key) := by
  cases h <;> simp [Step.Neutral, NftCommand.rulesEffect]

theorem passStep_reject {fate : Nat → Bool} {s : Step NftCommand} (h : PassStep s)
    {w w' : World NftCommand NftRuleset} (hs : s.exec (adding fate) w = (false, w')) :
    w'.kernel = w.kernel := by
  obtain ⟨c, ignoreFailure, rfl, _⟩ := passStep_plain h
  obtain ⟨hfail, rfl⟩ := Prod.mk.inj hs
  have hfail' : (adding fate w.issued.length c w.kernel).1 = false := by
    simp only [issue, Bool.or_eq_false_iff] at hfail
    exact hfail.1
  exact respondBy_fails hfail'

theorem adding_keeps (fate : Nat → Bool) {c : NftCommand} (hc : c.isLoad = false) (n : Nat)
    (k : NftRuleset) : k.Keeps (adding fate n c k).2 :=
  respondBy_keeps (I := k.Keeps)
    (fun _ _ hk ha => hk.trans (NftCommand.apply_grows hc ha).1) n (.refl k)

theorem script_keeps (fate : Nat → Bool) {script : List (Step NftCommand)}
    (hp : ∀ s ∈ script, PassStep s) (w : World NftCommand NftRuleset) :
    w.kernel.Keeps (runScript (adding fate) script w).2.kernel := by
  refine runScript_invariant ?_ (.refl _)
  intro s hs c hc n k hk
  obtain ⟨c', _, rfl, hc'⟩ := passStep_plain (hp s hs)
  cases List.mem_singleton.mp hc
  exact hk.trans (adding_keeps fate hc' n k)

/-- One command stays within the old ruleset just when it creates nothing or fails. -/
theorem adding_within_iff (fate : Nat → Bool) {c : NftCommand} (hc : c.isLoad = false) (n : Nat)
    {k k₀ : NftRuleset} (hk : k₀.Keeps k) (hw : k₀.Within k) :
    k₀.Within (adding fate n c k).2 ↔ (fate n = true → c.CreatesNothing k₀) := by
  unfold adding respondBy
  cases hf : fate n with
  | false => simp [hw]
  | true =>
    cases ha : c.apply NftRuleset.addListing k with
    | some k' => simpa using (NftCommand.apply_grows hc ha).2 k₀ hw
    | none =>
      simp only [if_true, hw, forall_const, true_iff]
      cases c with
      | addChain key header =>
        intro ht
        have htk := hk.table key.table ht
        simp only [NftCommand.apply] at ha
        split at ha
        next hn => simp [hn] at htk
        next => split at ha <;> simp at ha
      | addTable t => simp [NftCommand.apply] at ha
      | _ => trivial

/-- A completed script stays within the old ruleset just when each of its commands creates
nothing or fails. -/
theorem script_within_iff {fate : Nat → Bool} {script : List (Step NftCommand)}
    (hp : ∀ s ∈ script, PassStep s) {w : World NftCommand NftRuleset} {k₀ : NftRuleset}
    (hok : (runScript (adding fate) script w).1 = true)
    (hk : k₀.Keeps w.kernel) (hw : k₀.Within w.kernel) :
    k₀.Within (runScript (adding fate) script w).2.kernel ↔
      ∀ j c ignoreFailure, script[j]? = some (.run c ignoreFailure) →
        fate (w.issued.length + j) = true → c.CreatesNothing k₀ := by
  induction script generalizing w with
  | nil => simp [hw]
  | cons s script ih =>
    obtain ⟨c, ignoreFailure, rfl, hc⟩ := passStep_plain (hp s (by simp))
    have hp' : ∀ s ∈ script, PassStep s := fun t ht => hp t (List.mem_cons_of_mem _ ht)
    have hexec : ((Step.run c ignoreFailure).exec (adding fate) w).2 =
        ⟨(adding fate w.issued.length c w.kernel).2, w.issued ++ [c]⟩ := rfl
    have hk' := hk.trans (adding_keeps fate hc w.issued.length w.kernel)
    have hone := adding_within_iff fate hc w.issued.length hk hw
    simp only [runScript] at hok ⊢
    split at hok
    next hs =>
      rw [if_pos hs, hexec] at *
      have hkeeps := script_keeps fate hp'
        ⟨(adding fate w.issued.length c w.kernel).2, w.issued ++ [c]⟩
      refine ⟨?_, ?_⟩
      · intro hfinal j c' ig' hj hf
        have hw' : k₀.Within (adding fate w.issued.length c w.kernel).2 := hfinal.of_keeps hkeeps
        cases j with
        | zero =>
          cases Option.some.inj hj
          exact hone.mp hw' hf
        | succ j =>
          refine (ih hp' hok hk' hw').mp hfinal j c' ig' hj ?_
          simpa [Nat.add_assoc, Nat.add_comm 1 j] using hf
      · intro hnothing
        have hw' : k₀.Within (adding fate w.issued.length c w.kernel).2 :=
          hone.mpr fun hf => hnothing 0 c ignoreFailure rfl hf
        refine (ih hp' hok hk' hw').mpr fun j c' ig' hj hf => hnothing (j + 1) c' ig' hj ?_
        simpa [Nat.add_assoc, Nat.add_comm 1 j] using hf
    next hs => exact absurd hok hs

/-- No command before adds a rule to the chain that `b` flushes. -/
def FlushedFirst (a b : NftCommand) : Prop :=
  ∀ key rule, a = .addRule key rule → b ≠ .flushChain key

theorem foldl_rules_nil_iff {loaded : List NftRule → List NftRule → List NftRule}
    {key : NftChainKey} {commands : List NftCommand} (hf : commands.Pairwise FlushedFirst)
    (hl : ∀ c ∈ commands, c.isLoad = false) (v : List NftRule) :
    commands.foldl (fun v c => c.rulesEffect loaded key v) v = [] ↔
      (∀ rule, .addRule key rule ∉ commands) ∧ (v = [] ∨ .flushChain key ∈ commands) := by
  induction commands generalizing v with
  | nil => simp
  | cons c commands ih =>
    obtain ⟨hc, hf⟩ := List.pairwise_cons.mp hf
    have hl' : ∀ c ∈ commands, c.isLoad = false := fun d hd => hl d (List.mem_cons_of_mem _ hd)
    rw [List.foldl_cons, ih hf hl']
    cases c with
    | flushChain key' =>
      by_cases hk : key' = key
      · simp [NftCommand.rulesEffect, hk]
      · simp [NftCommand.rulesEffect, hk, Ne.symm hk]
    | addRule key' rule =>
      by_cases hk : key' = key
      · subst key'
        have hno : NftCommand.flushChain key ∉ commands := fun hm => hc _ hm key rule rfl rfl
        simp only [NftCommand.rulesEffect, if_true, hno, List.append_eq_nil_iff, List.cons_ne_nil,
          and_false, or_false, List.mem_cons, not_or, forall_and]
        simp
      · simp [NftCommand.rulesEffect, hk, Ne.symm hk]
    | addTable t => simp [NftCommand.rulesEffect]
    | addChain key' header => simp [NftCommand.rulesEffect]
    | listRuleset => simp [NftCommand.rulesEffect]
    | writeFile => simp [NftCommand.rulesEffect]
    | loadFile listing => simpa [NftCommand.isLoad] using hl _ (List.mem_cons_self)

theorem mainPass_flushedFirst (config : Config) (args : SyncArgs) :
    (mandatory (mainPass config args)).Pairwise FlushedFirst := by
  have hpolicy : ∀ c ∈ mandatory (policySteps config args), ∃ rule, c = .addRule FORWARD_CHAIN rule := by
    intro c hc
    obtain ⟨rule, hr⟩ := policySteps_addsTo config args (mem_mandatory.mp hc)
    cases hr
    exact ⟨rule, rfl⟩
  have hdns : ∀ c ∈ mandatory
      (if args.enableDnsRedirect then ensureDnsRedirect args.dnsRedirectIp else []),
      c ≠ .flushChain FORWARD_CHAIN := by
    intro c hc
    split at hc
    next =>
      simp only [ensureDnsRedirect, dnsRedirectSteps, mandatory_ignored_cons, mandatory_run_cons,
        mandatory_nil, List.mem_cons, List.not_mem_nil, or_false] at hc
      rcases hc with rfl | rfl | rfl <;> simp [NAT_CHAIN, NAT_TABLE, FORWARD_CHAIN, TABLE]
    next => simp at hc
  rw [mainPass_eq]
  simp only [mandatory_append, ensureTable, flushChain, mandatory_ignored_cons, mandatory_run_cons,
    List.nil_append, List.cons_append, List.pairwise_cons, List.pairwise_append]
  refine ⟨fun b _ key rule h => by simp at h, ?_, ?_, ?_⟩
  · refine List.pairwise_iff_forall_sublist.mpr ?_
    intro a b hab key rule ha hb
    have hb' : b ∈ mandatory (policySteps config args) := hab.subset (by simp)
    obtain ⟨rule', hr⟩ := hpolicy b hb'
    simp [hr] at hb
  · split
    next =>
      simp [ensureDnsRedirect, dnsRedirectSteps, FlushedFirst]
    next => simp
  · intro a ha b hb key rule hadd
    obtain ⟨rule', hr⟩ := hpolicy a ha
    rw [hr] at hadd
    cases hadd
    exact hdns b hb

/-- Restoring the listing `k₀` is exact after the steps `done`: no rule was added by them, every
chain of `k₀` that has rules was flushed by them, whoever owns it, and they created no table and
no chain. -/
structure HarmlessRestore (k₀ : NftRuleset) (fate : Nat → Bool) (done : List (Step NftCommand)) :
    Prop where
  nothingAdded : ∀ key rule, .run (.addRule key rule) false ∉ done
  allFlushed : ∀ key, k₀.rulesAt key = [] ∨ .run (.flushChain key) false ∈ done
  nothingCreated : ∀ j c ignoreFailure, done[j]? = some (.run c ignoreFailure) →
    fate (1 + j) = true → c.CreatesNothing k₀

theorem harmlessRestore_iff {config : Config} {args : SyncArgs} {fate : Nat → Bool}
    {k₀ : NftRuleset} {done : List (Step NftCommand)} (hsub : done.Sublist (mainPass config args))
    (hok : (runScript (adding fate) done ⟨k₀, [.listRuleset]⟩).1 = true) :
    NftRuleset.addListing k₀ (runScript (adding fate) done ⟨k₀, [.listRuleset]⟩).2.kernel = k₀ ↔
      HarmlessRestore k₀ fate done := by
  have hp : ∀ s ∈ done, PassStep s := fun s hs => mainPass_passStep config args (hsub.subset hs)
  have hload : ∀ c ∈ mandatory done, c.isLoad = false := by
    intro c hc
    obtain ⟨c', _, he, hc'⟩ := passStep_plain (hp _ (mem_mandatory.mp hc))
    cases he
    exact hc'
  have hrules : ∀ key, (runScript (adding fate) done ⟨k₀, [.listRuleset]⟩).2.kernel.rulesAt key = [] ↔
      (∀ rule, .run (.addRule key rule) false ∉ done) ∧
        (k₀.rulesAt key = [] ∨ .run (.flushChain key) false ∈ done) := by
    intro key
    have hv := runScript_view (adding_effects fate key) (fun s hs => passStep_neutral (hp s hs)) hok
    have hflushed : (mandatory done).Pairwise FlushedFirst :=
      (mainPass_flushedFirst config args).sublist (hsub.filterMap _)
    rw [hv, foldl_rules_nil_iff hflushed hload]
    simp only [mem_mandatory]
  have hkeeps := script_keeps fate hp ⟨k₀, [.listRuleset]⟩
  rw [NftRuleset.addListing_eq_iff hkeeps, script_within_iff hp hok (.refl _) (.refl _)]
  simp only [hrules]
  refine ⟨?_, ?_⟩
  · intro h
    obtain ⟨hcreated, hr⟩ := h
    exact ⟨fun key => (hr key).1, fun key => (hr key).2, hcreated⟩
  · intro h
    obtain ⟨hadded, hflushed, hcreated⟩ := h
    exact ⟨hcreated, fun key => ⟨hadded key, hflushed key⟩⟩

/-- What a call that threw and restored its snapshot leaves is the kernel before the call just
when the restore was harmless where the main pass failed. -/
theorem nftSync_rollback_exact_iff {config : Config} {args : SyncArgs} {fate : Nat → Bool}
    {last : Option SyncSignature} {k₀ : NftRuleset}
    (h : (syncAdding config fate args last k₀).outcome = .threw .restored) :
    ∃ i, RejectsAt (adding fate) (mainPass config args) ⟨k₀, [.listRuleset]⟩ i ∧
      ((syncAdding config fate args last k₀).world.kernel = k₀ ↔
        HarmlessRestore k₀ fate ((mainPass config args).take i)) := by
  have hd : config.dryRun = false := by
    cases hdry : config.dryRun with
    | false => rfl
    | true =>
      simp only [syncAdding, sync, runUnlessDry, hdry, if_true] at h
      split at h <;> simp at h
  unfold syncAdding sync at h ⊢
  simp only [runUnlessDry, hd, Bool.false_eq_true, if_false] at h ⊢
  split at h
  next => simp at h
  next hs =>
    rw [if_neg hs]
    split at h
    next => split at h <;> simp at h
    next hmain =>
      rw [if_neg hmain]
      simp only [snapshot_adding, Outcome.threw.injEq, Bool.not_eq_true] at h hmain ⊢
      obtain ⟨listing, hlisting, hkernel⟩ := rollback_restored h
      have hlisted : listing = k₀ := by
        split at hlisting
        next => exact (Option.some.inj hlisting).symm
        next => simp at hlisting
      obtain ⟨i, hi⟩ := rejectsAt_exists hmain
      obtain ⟨s, hs, hexec, _⟩ := rejectsAt_split hi
      have hstep := mainPass_passStep config args (List.mem_of_getElem? hs)
      have hdone := passStep_reject hstep (hexec.trans (Prod.ext hmain rfl))
      refine ⟨i, hi, ?_⟩
      rw [hkernel, hlisted, hdone]
      exact harmlessRestore_iff (List.take_sublist i _) hi.1

/-- A host on which another program filters forwarded packets. -/
def foreignChain : NftChainKey := ⟨⟨.inet, "filter"⟩, "forward"⟩

def foreignRuleset : NftRuleset := fun t =>
  if t = foreignChain.table then
    some fun name =>
      if name = foreignChain.chain then
        some ⟨some ⟨"filter", "forward", 0, some "accept"⟩,
          [⟨[.other "iifname eth0"], true, .other "accept", none⟩]⟩
      else none
  else none

/-- The fifth command of this call is the first rule of the policy. -/
def failedFirstRule : Call :=
  syncAdding sampleConfig (fun n => n != 4) oneBlocked none foreignRuleset

theorem nftSync_rollback_exact_iff_foreign :
    ∃ i, RejectsAt (adding fun n => n != 4) (mainPass sampleConfig oneBlocked)
        ⟨foreignRuleset, [.listRuleset]⟩ i ∧
      (failedFirstRule.world.kernel = foreignRuleset ↔
        HarmlessRestore foreignRuleset (fun n => n != 4)
          ((mainPass sampleConfig oneBlocked).take i)) :=
  nftSync_rollback_exact_iff (show failedFirstRule.outcome = .threw .restored by decide +kernel)

/-- The rollback adds the rule of the other program a second time. -/
theorem nftSync_rollback_doubles_foreign_rule :
    failedFirstRule.outcome = .threw .restored ∧
      failedFirstRule.world.kernel.rulesAt foreignChain =
        foreignRuleset.rulesAt foreignChain ++ foreignRuleset.rulesAt foreignChain ∧
      failedFirstRule.world.kernel ≠ foreignRuleset := by
  refine ⟨by decide +kernel, by decide +kernel, fun h => ?_⟩
  have hrules : failedFirstRule.world.kernel.rulesAt foreignChain ≠
      foreignRuleset.rulesAt foreignChain := by decide +kernel
  exact hrules (by rw [h])

end Nftables

end GuardTime
