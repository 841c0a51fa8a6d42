import GuardTime.RestartedIptables

namespace GuardTime

/-- The command is one of `ip6tables`, `ip6tables-save` and `ip6tables-restore`. -/
def IptCommand.isIp6tables : IptCommand → Bool
  | .newChain key | .flush key | .append key _ | .insertFirst key _ | .check key _ => key.ipv6
  | .save ipv6 | .restore ipv6 _ => ipv6
  | .writeFile => false

namespace Iptables

def touched (config : Config) (args : SyncArgs) (ipv6 : Bool) : List IptTable :=
  (rebuiltFamily config args ipv6).map fun feature => feature.chain.table

def ListsTouched (config : Config) (args : SyncArgs) (ipv6 : Bool) (k : IptKernel) : Prop :=
  ∀ table ∈ touched config args ipv6, (k ipv6 table).isSome

instance (config : Config) (args : SyncArgs) (ipv6 : Bool) (k : IptKernel) :
    Decidable (ListsTouched config args ipv6 k) := inferInstanceAs (Decidable (∀ table ∈ _, _))

def afterSave (ipv6 : Bool) (w : World IptCommand IptKernel) : World IptCommand IptKernel :=
  ⟨w.kernel, w.issued ++ [.save ipv6]⟩

def afterPass (config : Config) (fate : Nat → Bool) (args : SyncArgs) (ipv6 : Bool)
    (w : World IptCommand IptKernel) : World IptCommand IptKernel :=
  (runScript (atomic fate) (mainPass config ipv6 (familyArgs config args ipv6)) (afterSave ipv6 w)).2

/-- The pass of a family is made, a step of it rejects, and its save, its file and its restore
succeed. -/
structure RolledBack (config : Config) (fate : Nat → Bool) (args : SyncArgs) (ipv6 : Bool)
    (last : Option SyncSignature) (w : World IptCommand IptKernel) : Prop where
  changed : last ≠ some (buildFirewallSyncSignature (familyArgs config args ipv6) ipv6)
  issuing : config.dryRun = false
  saved : fate w.issued.length = true
  rejects : ∃ i, RejectsAt (atomic fate) (mainPass config ipv6 (familyArgs config args ipv6))
    (afterSave ipv6 w) i
  written : fate (afterPass config fate args ipv6 w).issued.length = true
  restored : fate ((afterPass config fate args ipv6 w).issued.length + 1) = true

theorem setChain_other (k : IptKernel) (key : IptChainKey) (rules : List IptRule) {ipv6 : Bool}
    {table : IptTable} (h : ipv6 ≠ key.ipv6 ∨ table ≠ key.table) :
    (k.setChain key rules) ipv6 table = k ipv6 table := by
  unfold IptKernel.setChain
  by_cases hi : ipv6 = key.ipv6
  · subst hi
    have ht : table ≠ key.table := h.resolve_left (by simp)
    simp [ht]
  · simp [hi]

theorem Feature.Command.apply_other {feature : Feature} {c : IptCommand} (h : feature.Command c)
    {ipv6 : Bool} {table : IptTable} (hother : ipv6 ≠ feature.ipv6 ∨ table ≠ feature.chain.table)
    {k k' : IptKernel} (ha : c.apply k = some k') : k' ipv6 table = k ipv6 table := by
  have hipv6 : feature.chain.ipv6 = feature.ipv6 ∧ feature.builtin.ipv6 = feature.ipv6 ∧
      feature.builtin.table = feature.chain.table := by
    obtain ⟨_, kind⟩ := feature
    cases kind <;> exact ⟨rfl, rfl, rfl⟩
  obtain ⟨hchain, hbuiltin, htable⟩ := hipv6
  have hset : ∀ rules, (k.setChain feature.chain rules) ipv6 table = k ipv6 table :=
    fun rules => setChain_other k _ rules (by rwa [hchain])
  have hjump : ∀ rules, (k.setChain feature.builtin rules) ipv6 table = k ipv6 table :=
    fun rules => setChain_other k _ rules (by rwa [hbuiltin, htable])
  cases h with
  | newChain =>
    simp only [IptCommand.apply] at ha
    split at ha
    next => simp at ha
    next => exact Option.some.inj ha ▸ hset _
  | flush =>
    obtain ⟨rules, _, rfl⟩ := Option.map_eq_some_iff.mp ha
    exact hset _
  | append =>
    simp only [IptCommand.apply] at ha
    split at ha
    next => obtain ⟨rules, _, rfl⟩ := Option.map_eq_some_iff.mp ha; exact hset _
    next => simp at ha
  | check =>
    simp only [IptCommand.apply] at ha
    split at ha
    next => exact Option.some.inj ha ▸ rfl
    next => simp at ha
  | insertFirst =>
    simp only [IptCommand.apply] at ha
    split at ha
    next => obtain ⟨rules, _, rfl⟩ := Option.map_eq_some_iff.mp ha; exact hjump _
    next => simp at ha

theorem rebuiltFamily_ipv6 {config : Config} {args : SyncArgs} {ipv6 : Bool} {feature : Feature}
    (h : feature ∈ rebuiltFamily config args ipv6) : feature.ipv6 = ipv6 := by
  simp only [rebuiltFamily] at h
  split at h
  next => simp at h
  next =>
    rcases List.mem_cons.mp h with rfl | h
    · rfl
    · rcases List.mem_append.mp h with h | h <;> split at h <;> simp at h <;> rw [h]

theorem mainPass_other {config : Config} (hd : config.dryRun = false) (fate : Nat → Bool)
    (args : SyncArgs) (w : World IptCommand IptKernel) {ipv6 other : Bool} {table : IptTable}
    (hother : other ≠ ipv6 ∨ table ∉ touched config args ipv6) :
    (runScript (atomic fate) (mainPass config ipv6 (familyArgs config args ipv6)) w).2.kernel other table =
      w.kernel other table := by
  refine runScript_invariant (I := fun k : IptKernel => k other table = w.kernel other table) ?_ rfl
  intro s hs c hc n k hk
  rw [rebuilt_script hd] at hs
  obtain ⟨feature, hfeature, hs⟩ := List.mem_flatMap.mp hs
  have hipv6 : feature.ipv6 = ipv6 := rebuiltFamily_ipv6 hfeature
  have hne : other ≠ feature.ipv6 ∨ table ≠ feature.chain.table := by
    rcases hother with hne | hnot
    · exact Or.inl (hipv6 ▸ hne)
    · exact Or.inr fun he => hnot (he ▸ List.mem_map.mpr ⟨feature, hfeature, rfl⟩)
  refine respondBy_keeps (I := fun k : IptKernel => k other table = w.kernel other table) ?_ n hk
  intro k k' hk ha
  rw [(Feature.script_commands hs hc).apply_other hne ha]
  exact hk

theorem mainPass_isIp6tables {config : Config} (hd : config.dryRun = false) {args : SyncArgs} {ipv6 : Bool}
    {s : Step IptCommand} (hs : s ∈ mainPass config ipv6 (familyArgs config args ipv6)) {c : IptCommand}
    (hc : c ∈ s.commands) : c.isIp6tables = ipv6 := by
  rw [rebuilt_script hd] at hs
  obtain ⟨feature, hfeature, hs⟩ := List.mem_flatMap.mp hs
  have hcommand := Feature.script_commands hs hc
  have hipv6 := rebuiltFamily_ipv6 hfeature
  obtain ⟨_, kind⟩ := feature
  subst hipv6
  cases hcommand <;> cases kind <;> rfl

theorem syncFamily_restored {config : Config} {fate : Nat → Bool} {args : SyncArgs} {ipv6 : Bool}
    {last : Option SyncSignature} {w : World IptCommand IptKernel}
    (h : RolledBack config fate args ipv6 last w) :
    syncFamily config (atomic fate) ipv6 (familyArgs config args ipv6) last w =
      ⟨.threw .restored, last,
        ⟨Function.update (afterPass config fate args ipv6 w).kernel ipv6 fun table =>
          (w.kernel ipv6 table).orElse fun _ => (afterPass config fate args ipv6 w).kernel ipv6 table,
        (afterPass config fate args ipv6 w).issued ++ [.writeFile] ++
          [.restore ipv6 (w.kernel ipv6)]⟩⟩ := by
  have hsnap : snapshotRuleset (atomic fate) ipv6 w = (some (w.kernel ipv6), afterSave ipv6 w) := by
    simp [snapshotRuleset, issue, atomic, respondBy, IptCommand.apply, h.saved, afterSave]
  obtain ⟨i, hrejects⟩ := h.rejects
  obtain ⟨_, _, _, hfailed⟩ := rejectsAt_split hrejects
  have hundo : rollback (atomic fate) (restoreRuleset ipv6) (some (w.kernel ipv6))
      (afterPass config fate args ipv6 w) =
        (.restored, ⟨Function.update (afterPass config fate args ipv6 w).kernel ipv6 fun table =>
          (w.kernel ipv6 table).orElse fun _ => (afterPass config fate args ipv6 w).kernel ipv6 table,
          (afterPass config fate args ipv6 w).issued ++ [.writeFile] ++ [.restore ipv6 (w.kernel ipv6)]⟩) := by
    simp [rollback, restoreRuleset, runScript, Step.exec, issue, atomic, respondBy, IptCommand.apply,
      h.written, h.restored]
  have hcall : syncFamily config (atomic fate) ipv6 (familyArgs config args ipv6) last w =
      ⟨.threw .restored, last, (rollback (atomic fate) (restoreRuleset ipv6) (some (w.kernel ipv6))
        (afterPass config fate args ipv6 w)).2⟩ := by
    unfold syncFamily
    simp only [runUnlessDry, h.issuing, Bool.false_eq_true, if_false, hsnap]
    rw [if_neg h.changed, if_neg (by simp [hfailed])]
    have hfirst : (rollback (atomic fate) (restoreRuleset ipv6) (some (w.kernel ipv6))
      (afterPass config fate args ipv6 w)).1 = .restored := by rw [hundo]
    rw [← hfirst]
    rfl
  rw [hcall, hundo]

/-- A pass that is rolled back leaves both families exactly as they were, with commands of its family
only. -/
theorem syncFamily_rolledBack {config : Config} {fate : Nat → Bool} {args : SyncArgs} {ipv6 : Bool}
    {last : Option SyncSignature} {w : World IptCommand IptKernel}
    (h : RolledBack config fate args ipv6 last w) (hlists : ListsTouched config args ipv6 w.kernel) :
    (syncFamily config (atomic fate) ipv6 (familyArgs config args ipv6) last w).outcome =
        .threw .restored ∧
      (syncFamily config (atomic fate) ipv6 (familyArgs config args ipv6) last w).world.kernel = w.kernel ∧
      ∀ c ∈ (syncFamily config (atomic fate) ipv6 (familyArgs config args ipv6) last w).world.issued,
        c ∈ w.issued ∨ c = .writeFile ∨ c.isIp6tables = ipv6 := by
  rw [syncFamily_restored h]
  refine ⟨rfl, ?_, ?_⟩
  · funext other table
    have hother : other ≠ ipv6 ∨ table ∉ touched config args ipv6 →
        (afterPass config fate args ipv6 w).kernel other table = w.kernel other table :=
      mainPass_other h.issuing fate args (afterSave ipv6 w)
    by_cases hi : other = ipv6
    · subst hi
      simp only [Function.update_self]
      cases hw : w.kernel other table with
      | some chains => rfl
      | none =>
        have hnot : table ∉ touched config args other := by
          intro hmem
          have hlisted := hlists table hmem
          simp [hw] at hlisted
        exact (hother (Or.inr hnot)).trans hw
    · simp only [Function.update_of_ne hi]
      exact hother (Or.inl hi)
  · intro c hc
    simp only [List.append_assoc, List.mem_append, List.mem_singleton] at hc
    rcases hc with hc | rfl | rfl
    · rcases runScript_issued_mem hc with hc | ⟨s, hs, hc⟩
      · rcases List.mem_append.mp hc with hc | hc
        · exact Or.inl hc
        · exact Or.inr (Or.inr (by rw [List.mem_singleton.mp hc]; rfl))
      · exact Or.inr (Or.inr (mainPass_isIp6tables h.issuing hs hc))
    · exact Or.inr (Or.inl rfl)
    · exact Or.inr (Or.inr rfl)

/-- The pass of a family leaves the other family alone, however it ends. -/
theorem syncFamily_other (config : Config) (fate : Nat → Bool) (args : SyncArgs) {ipv6 other : Bool}
    (hne : other ≠ ipv6) (last : Option SyncSignature) (w : World IptCommand IptKernel) :
    (syncFamily config (atomic fate) ipv6 (familyArgs config args ipv6) last w).world.kernel other =
      w.kernel other := by
  obtain ⟨hsnap, _⟩ := snapshot_atomic fate ipv6 w
  unfold syncFamily
  simp only [runUnlessDry]
  split
  next => rfl
  next =>
    cases hd : config.dryRun with
    | true => simp [hsnap]
    | false =>
      have hmain : (runScript (atomic fate) (mainPass config ipv6 (familyArgs config args ipv6))
          (snapshotRuleset (atomic fate) ipv6 w).2).2.kernel other = w.kernel other := by
        funext table
        rw [mainPass_other hd fate args _ (Or.inl hne), hsnap]
      simp only [Bool.false_eq_true, if_false]
      split
      next => exact hmain
      next =>
        simp only
        by_cases hr : (rollback (atomic fate) (restoreRuleset ipv6) (snapshotRuleset (atomic fate) ipv6 w).1
            (runScript (atomic fate) (mainPass config ipv6 (familyArgs config args ipv6))
              (snapshotRuleset (atomic fate) ipv6 w).2).2).1 = .restored
        · obtain ⟨saved, _, hk⟩ := rollback_restored hr
          rw [hk, Function.update_of_ne hne]
          exact hmain
        · rw [rollback_unrestored hr]
          exact hmain

theorem syncFamily_remembers (config : Config) (respond : Respond IptCommand IptKernel) (ipv6 : Bool)
    (args : SyncArgs) (last : Option SyncSignature) (w : World IptCommand IptKernel) :
    (syncFamily config respond ipv6 args last w).lastSyncSignature =
        (if (syncFamily config respond ipv6 args last w).outcome = .applied then
          some (buildFirewallSyncSignature args ipv6) else last) ∧
      ((syncFamily config respond ipv6 args last w).outcome = .skipped ↔
        last = some (buildFirewallSyncSignature args ipv6)) := by
  unfold syncFamily
  simp only
  split
  next h => simp [h]
  next h => split <;> simp [h]

theorem stateAfter_remembers (config : Config) (fate : Nat → Bool) (args : SyncArgs) (s : State)
    (ipv6 : Bool) :
    (stateAfter config fate args s).lastSyncSignatures ipv6 = s.lastSyncSignatures ipv6 ∨
      (stateAfter config fate args s).lastSyncSignatures ipv6 =
        some (buildFirewallSyncSignature (familyArgs config args ipv6) ipv6) := by
  simp only [stateAfter]
  cases hpass : (syncOn config fate args s).family ipv6 with
  | none => exact Or.inl rfl
  | some pass =>
    simp only
    rw [syncOn_family hpass, (syncFamily_remembers config _ ipv6 _ _ _).1]
    split
    next => exact Or.inr rfl
    next => exact Or.inl rfl

def syncs (config : Config) (calls : List (SyncArgs × (Nat → Bool))) (s : State) : State :=
  calls.foldl (fun s call => stateAfter config call.2 call.1 s) s

/-- A signature no call of a run has is not remembered after it, if it was not before. -/
theorem syncs_not_remembered {config : Config} {ipv6 : Bool} {signature : SyncSignature}
    {calls : List (SyncArgs × (Nat → Bool))}
    (hcalls : ∀ call ∈ calls, buildFirewallSyncSignature (familyArgs config call.1 ipv6) ipv6 ≠ signature)
    {s : State} (hs : s.lastSyncSignatures ipv6 ≠ some signature) :
    (syncs config calls s).lastSyncSignatures ipv6 ≠ some signature := by
  induction calls generalizing s with
  | nil => exact hs
  | cons call calls ih =>
    refine ih (fun c hc => hcalls c (List.mem_cons_of_mem _ hc)) ?_
    rcases stateAfter_remembers config call.2 call.1 s ipv6 with he | he
    · rw [he]
      exact hs
    · rw [he]
      exact fun h => hcalls call (by simp) (Option.some.inj h)

/-- The call throws: it does when its IPv4 pass does, and it catches what the IPv6 pass throws. -/
def Call.throws (call : Call) : Bool := !call.v4.outcome.returned

theorem thrown_not_remembered {config : Config} {fate : Nat → Bool} {args : SyncArgs} {s : State}
    {ipv6 : Bool} {pass : FamilyCall} (hpass : (syncOn config fate args s).family ipv6 = some pass)
    (hthrew : pass.outcome.returned = false) :
    (stateAfter config fate args s).lastSyncSignatures ipv6 ≠
      some (buildFirewallSyncSignature (familyArgs config args ipv6) ipv6) := by
  have hlast : (stateAfter config fate args s).lastSyncSignatures ipv6 = pass.lastSyncSignature := by
    simp only [stateAfter, hpass]
  rw [hlast]
  rw [syncOn_family hpass] at hthrew ⊢
  obtain ⟨hremembers, hskipped⟩ := syncFamily_remembers config (atomic fate) ipv6
    (familyArgs config args ipv6) (s.lastSyncSignatures ipv6) (passStart config fate args s ipv6)
  rw [hremembers, if_neg (fun happlied => by rw [happlied] at hthrew; simp [Outcome.returned] at hthrew)]
  exact fun hsame => by rw [hskipped.mpr hsame] at hthrew; simp [Outcome.returned] at hthrew

theorem returned_remembered {config : Config} {fate : Nat → Bool} {args : SyncArgs} {s : State}
    {ipv6 : Bool} {pass : FamilyCall} (hpass : (syncOn config fate args s).family ipv6 = some pass)
    (hreturned : pass.outcome.returned = true) :
    (stateAfter config fate args s).lastSyncSignatures ipv6 =
      some (buildFirewallSyncSignature (familyArgs config args ipv6) ipv6) := by
  have hlast : (stateAfter config fate args s).lastSyncSignatures ipv6 = pass.lastSyncSignature := by
    simp only [stateAfter, hpass]
  rw [hlast]
  rw [syncOn_family hpass] at hreturned ⊢
  obtain ⟨hremembers, hskipped⟩ := syncFamily_remembers config (atomic fate) ipv6
    (familyArgs config args ipv6) (s.lastSyncSignatures ipv6) (passStart config fate args s ipv6)
  rw [hremembers]
  split
  next => rfl
  next hnot =>
    refine hskipped.mp ?_
    revert hreturned hnot
    cases (syncFamily config (atomic fate) ipv6 (familyArgs config args ipv6)
      (s.lastSyncSignatures ipv6) (passStart config fate args s ipv6)).outcome <;> simp [Outcome.returned]

theorem thrown_made_again {config : Config} {fate : Nat → Bool} {args : SyncArgs} {s : State}
    {ipv6 : Bool} {pass : FamilyCall} (hpass : (syncOn config fate args s).family ipv6 = some pass)
    (fate' : Nat → Bool) :
    ∃ again, (syncOn config fate' args (stateAfter config fate args s)).family ipv6 = some again := by
  cases ipv6 with
  | false => exact ⟨_, rfl⟩
  | true =>
    -- the IPv4 pass returned before the IPv6 one was made, so its signature is remembered
    have hreturned : (syncOn config fate args s).v4.outcome.returned = true ∧ config.enableIpv6 = true := by
      simp only [syncOn, Call.family, sync] at hpass
      split at hpass
      next h => simpa [syncOn, sync] using h
      next => simp at hpass
    have hskipped : (syncOn config fate' args (stateAfter config fate args s)).v4.outcome = .skipped := by
      have hremembered := returned_remembered (show (syncOn config fate args s).family false = some _ from rfl)
        hreturned.1
      exact (syncFamily_remembers config (atomic fate') false _ _ _).2.mpr hremembered
    have hv4 : (syncOn config fate' args (stateAfter config fate args s)).v4.outcome.returned = true := by
      rw [hskipped]
      rfl
    refine Option.isSome_iff_exists.mp ?_
    simp only [syncOn, Call.family, sync] at hv4 ⊢
    rw [if_pos (by simp [hv4, hreturned.2])]
    rfl

/-- A call whose IPv4 pass fails half way throws, with both families as before and no `ip6tables`
command; one whose IPv6 pass does returns, with IPv6 as before and IPv4 as its own pass left it;
and the failed pass is made, not skipped, when its arguments come again. -/
theorem sync_rolls_back_family (config : Config) (fate : Nat → Bool) (args : SyncArgs) (s : State) :
    (RolledBack config fate args false (s.lastSyncSignatures false) ⟨s.kernel, []⟩ →
      ListsTouched config args false s.kernel →
      (syncOn config fate args s).throws = true ∧ (syncOn config fate args s).world.kernel = s.kernel ∧
        ∀ c ∈ (syncOn config fate args s).world.issued, c.isIp6tables = false) ∧
    (config.enableIpv6 = true → (syncOn config fate args s).v4.outcome.returned = true →
      RolledBack config fate args true (s.lastSyncSignatures true) (syncOn config fate args s).v4.world →
      ListsTouched config args true s.kernel →
      (syncOn config fate args s).throws = false ∧
        (syncOn config fate args s).world.kernel true = s.kernel true ∧
        (syncOn config fate args s).world.kernel false =
          (syncOn config fate args s).v4.world.kernel false) ∧
    ∀ ipv6 pass, (syncOn config fate args s).family ipv6 = some pass → pass.outcome.returned = false →
      (∀ calls : List (SyncArgs × (Nat → Bool)), (∀ call ∈ calls,
          buildFirewallSyncSignature (familyArgs config call.1 ipv6) ipv6 ≠
            buildFirewallSyncSignature (familyArgs config args ipv6) ipv6) →
        ∀ fate' again, (syncOn config fate' args
          (syncs config calls (stateAfter config fate args s))).family ipv6 = some again →
            again.outcome ≠ .skipped) ∧
      ∀ fate', ∃ again,
        (syncOn config fate' args (stateAfter config fate args s)).family ipv6 = some again ∧
          again.outcome ≠ .skipped := by
  refine ⟨?_, ?_, ?_⟩
  · intro h hlists
    obtain ⟨houtcome, hkernel, hissued⟩ := syncFamily_rolledBack h hlists
    have hthrew : (syncOn config fate args s).v4.outcome = .threw .restored := houtcome
    have hnone : (syncOn config fate args s).v6 = none := by
      simp only [syncOn, sync] at hthrew ⊢
      rw [hthrew]
      rfl
    have hworld : (syncOn config fate args s).world = (syncOn config fate args s).v4.world := by
      rw [Call.world, hnone]
      rfl
    rw [hworld]
    refine ⟨by rw [Call.throws, hthrew]; rfl, hkernel, ?_⟩
    intro c hc
    rcases hissued c hc with hc | rfl | hc
    · simp at hc
    · rfl
    · exact hc
  · intro h6 hreturned h hlists
    have hsome : (syncOn config fate args s).v6 = some (syncFamily config (atomic fate) true
        (familyArgs config args true) (s.lastSyncSignatures true) (syncOn config fate args s).v4.world) := by
      simp only [syncOn, sync] at hreturned ⊢
      rw [if_pos (by simp [hreturned, h6])]
    have hsame : (syncOn config fate args s).v4.world.kernel true = s.kernel true :=
      syncFamily_other config fate args (by decide) (s.lastSyncSignatures false) ⟨s.kernel, []⟩
    have hlists' : ListsTouched config args true (syncOn config fate args s).v4.world.kernel := by
      intro table ht
      rw [hsame]
      exact hlists table ht
    obtain ⟨_, hkernel, _⟩ := syncFamily_rolledBack h hlists'
    rw [Call.world, hsome, Option.getD_some, hkernel]
    refine ⟨by rw [Call.throws, hreturned]; rfl, hsame, rfl⟩
  · intro ipv6 pass hpass hthrew
    have hforgot := thrown_not_remembered hpass hthrew
    refine ⟨?_, ?_⟩
    · intro calls hcalls fate' again hagain hskipped
      rw [syncOn_family hagain] at hskipped
      exact syncs_not_remembered hcalls hforgot ((syncFamily_remembers config _ ipv6 _ _ _).2.mp hskipped)
    · intro fate'
      obtain ⟨again, hagain⟩ := thrown_made_again hpass fate'
      refine ⟨again, hagain, ?_⟩
      intro hskipped
      rw [syncOn_family hagain] at hskipped
      exact hforgot ((syncFamily_remembers config _ ipv6 _ _ _).2.mp hskipped)

/-- The rule on the MAC address fails, in the pass of IPv4 or of IPv6. -/
def macRuleFails (ipv6 : Bool) : Nat → Bool := fun n => n != if ipv6 then 17 else 5

theorem rolledBack_macRule (ipv6 : Bool) :
    RolledBack sampleConfig (macRuleFails ipv6) oneBlocked ipv6 (afterUnblocked.lastSyncSignatures ipv6)
      (passStart sampleConfig (macRuleFails ipv6) oneBlocked afterUnblocked ipv6) where
  changed := by cases ipv6 <;> decide +kernel
  issuing := rfl
  saved := by cases ipv6 <;> decide +kernel
  rejects := rejectsAt_exists (by cases ipv6 <;> decide +kernel)
  written := by cases ipv6 <;> decide +kernel
  restored := by cases ipv6 <;> decide +kernel

theorem sync_rolls_back_family_macRule :
    (syncOn sampleConfig (macRuleFails false) oneBlocked afterUnblocked).world.kernel =
        afterUnblocked.kernel ∧
      (syncOn sampleConfig (macRuleFails true) oneBlocked afterUnblocked).world.kernel true =
        afterUnblocked.kernel true ∧
      ∃ again, (syncOn sampleConfig (fun _ => true) oneBlocked (stateAfter sampleConfig
        (macRuleFails true) oneBlocked afterUnblocked)).family true = some again ∧
          again.outcome ≠ .skipped := by
  obtain ⟨hv4, _, _⟩ := sync_rolls_back_family sampleConfig (macRuleFails false) oneBlocked afterUnblocked
  obtain ⟨_, hv6, hretry⟩ :=
    sync_rolls_back_family sampleConfig (macRuleFails true) oneBlocked afterUnblocked
  refine ⟨(hv4 (rolledBack_macRule false) (by decide +kernel)).2.1,
    (hv6 rfl (by decide +kernel) (rolledBack_macRule true) (by decide +kernel)).2.1, ?_⟩
  exact (hretry true _ (Option.some_get (by decide +kernel)).symm (by decide +kernel)).2 _

end Iptables

end GuardTime
