import GuardTime.IptCoherence

namespace GuardTime

namespace Iptables

/-- A chain that is neither the agent's nor one the agent jumps from. -/
def Foreign (key : IptChainKey) : Prop :=
  ¬Owned key.ipv6 key ∧ key ≠ FORWARD key.ipv6 ∧ key ≠ PREROUTING key.ipv6

/-- A change another process commits to a chain of its own. -/
structure ForeignEdit where
  key : IptChainKey
  change : List IptRule → List IptRule
  foreign : Foreign key

def ForeignEdit.apply (edit : ForeignEdit) (k : IptKernel) : IptKernel :=
  k.setChain edit.key (edit.change (k.rulesAt edit.key))

def applyEdits (edits : List ForeignEdit) (k : IptKernel) : IptKernel :=
  edits.foldl (fun k edit => edit.apply k) k

/-- Before its `n`-th command another process commits the edits `others n`. -/
def interleaved (others : Nat → List ForeignEdit) (fate : Nat → Bool) :
    Respond IptCommand IptKernel := fun n c k => atomic fate n c (applyEdits (others n) k)

/-- What of a chain is not the agent's. -/
def foreignRules (k : IptKernel) (key : IptChainKey) : List IptRule :=
  if key = FILTER_CHAIN key.ipv6 ∨ key = DOH_CHAIN key.ipv6 ∨ key = DNS_CHAIN key.ipv6 then []
  else if key = FORWARD key.ipv6 ∨ key = PREROUTING key.ipv6 then
    (k.rulesAt key).filter fun rule => !ownJump rule
  else k.rulesAt key

/-- What the edits do to the rules of one chain. -/
def edited (key : IptChainKey) (edits : List ForeignEdit) (rules : List IptRule) : List IptRule :=
  edits.foldl (fun rules edit => if edit.key = key then edit.change rules else rules) rules

theorem foreignRules_foreign {key : IptChainKey} (h : Foreign key) (k : IptKernel) :
    foreignRules k key = k.rulesAt key := by
  obtain ⟨howned, hforward, hprerouting⟩ := h
  unfold Owned at howned
  simp only [foreignRules, howned, hforward, hprerouting, or_self, if_false]

theorem foreignRules_edit (edit : ForeignEdit) (k : IptKernel) (key : IptChainKey) :
    foreignRules (edit.apply k) key =
      if edit.key = key then edit.change (foreignRules k key) else foreignRules k key := by
  have hset := IptKernel.rulesAt_setChain k edit.key (edit.change (k.rulesAt edit.key)) key
  by_cases hk : edit.key = key
  · subst key
    rw [if_pos rfl, foreignRules_foreign edit.foreign, foreignRules_foreign edit.foreign]
    simpa [ForeignEdit.apply] using hset
  · rw [if_neg hk]
    rw [if_neg (Ne.symm hk)] at hset
    simp only [foreignRules, ForeignEdit.apply, hset]

theorem foreignRules_edits (edits : List ForeignEdit) (k : IptKernel) (key : IptChainKey) :
    foreignRules (applyEdits edits k) key = edited key edits (foreignRules k key) := by
  induction edits generalizing k with
  | nil => rfl
  | cons edit edits ih =>
    simp only [applyEdits, edited, List.foldl_cons] at ih ⊢
    rw [ih, foreignRules_edit]

/-- A command of a pass changes only the chains of the agent and the jumps to them. -/
theorem foreignRules_passCommand {ipv6 : Bool} {c : IptCommand} (hc : PassCommand ipv6 (Owned ipv6) c)
    {k k' : IptKernel} (h : c.apply k = some k') (key : IptChainKey) :
    foreignRules k' key = foreignRules k key := by
  have hrules := (IptCommand.apply_rulesAt c k k' h : k'.rulesAt key = _)
  unfold foreignRules
  split
  next => rfl
  next howned =>
    have hspares : key ≠ FORWARD ipv6 → key ≠ PREROUTING ipv6 → k'.rulesAt key = k.rulesAt key := by
      intro hf hp
      rw [hrules]
      refine hc.spares ?_ hf hp _
      intro ho
      have hipv6 : key.ipv6 = ipv6 := by rcases ho with rfl | rfl | rfl <;> rfl
      exact howned (hipv6 ▸ ho)
    split
    next hbuiltin =>
      by_cases hi : key.ipv6 = ipv6
      · cases hc with
        | @insertFirst key' rule _ hj =>
          rw [hrules]
          by_cases hk : key' = key
          · simp [IptCommand.rulesEffect, hk, hj]
          · simp [IptCommand.rulesEffect, hk]
        | check => rw [hrules]; rfl
        | newChain => rw [hrules]; rfl
        | @flush key' ho =>
          have hk : key' ≠ key := by
            rintro rfl
            exact howned (hi ▸ ho)
          rw [hrules]
          simp [IptCommand.rulesEffect, hk]
        | @append key' rule ho =>
          have hk : key' ≠ key := by
            rintro rfl
            exact howned (hi ▸ ho)
          rw [hrules]
          simp [IptCommand.rulesEffect, hk]
      · rw [hspares (fun h => hi (by rw [h]; rfl)) (fun h => hi (by rw [h]; rfl))]
    next hbuiltin =>
      refine hspares ?_ ?_
      · rintro rfl; exact hbuiltin (Or.inl rfl)
      · rintro rfl; exact hbuiltin (Or.inr rfl)

variable {others : Nat → List ForeignEdit} {fate : Nat → Bool} {key : IptChainKey}

/-- What is in force of a chain after `n` commands when nothing is lost. -/
def inForceAt (others : Nat → List ForeignEdit) (k₀ : IptKernel) (key : IptChainKey) (n : Nat) :
    List IptRule := committed (fun i => edited key (others i)) (foreignRules k₀ key) n

/-- A command that would leave the foreign rules alone does so however it ends. -/
theorem interleaved_drifts {c : IptCommand}
    (hc : ∀ k k', c.apply k = some k' → foreignRules k' key = foreignRules k key) :
    Drifts (interleaved others fate) (foreignRules · key) (fun i => edited key (others i)) c := by
  intro n k
  show foreignRules _ key = edited key (others n) (foreignRules k key)
  rw [← foreignRules_edits]
  exact respondBy_keeps (I := fun k' => foreignRules k' key = foreignRules (applyEdits (others n) k) key)
    (fun k' k'' hk ha => (hc k' k'' ha).trans hk) n rfl

theorem mainPass_drifts {config : Config} {ipv6 : Bool} {args : SyncArgs} {s : Step IptCommand}
    (hs : s ∈ mainPass config ipv6 args) {c : IptCommand} (hc : c ∈ s.commands) :
    Drifts (interleaved others fate) (foreignRules · key) (fun i => edited key (others i)) c :=
  interleaved_drifts fun _ _ ha => foreignRules_passCommand (mainPass_commands hs hc) ha key

theorem save_drifts (ipv6 : Bool) :
    Drifts (interleaved others fate) (foreignRules · key) (fun i => edited key (others i))
      (.save ipv6) :=
  interleaved_drifts fun _ _ ha => by cases Option.some.inj ha; rfl

theorem writeFile_drifts :
    Drifts (interleaved others fate) (foreignRules · key) (fun i => edited key (others i))
      .writeFile :=
  interleaved_drifts fun _ _ ha => by cases Option.some.inj ha; rfl

/-- Bringing back the tables of `saved` brings back the foreign rules of those in use there. -/
theorem foreignRules_restore (saved k : IptKernel) (key : IptChainKey) :
    foreignRules (Function.update k key.ipv6 fun table =>
      (saved key.ipv6 table).orElse fun _ => k key.ipv6 table) key =
        if (saved key.ipv6 key.table).isSome then foreignRules saved key else foreignRules k key := by
  simp only [foreignRules, IptKernel.rulesAt_restore]
  split
  next => split <;> rfl
  next => split <;> split <;> rfl

theorem restore_other_drifts {ipv6 : Bool} (hk : key.ipv6 ≠ ipv6) (saved : IptTables) :
    Drifts (interleaved others fate) (foreignRules · key) (fun i => edited key (others i))
      (.restore ipv6 saved) := by
  refine interleaved_drifts fun k k' ha => ?_
  have hrules := (IptCommand.apply_rulesAt _ k k' ha : k'.rulesAt key = _)
  simp only [IptCommand.rulesEffect, if_neg (Ne.symm hk)] at hrules
  simp only [foreignRules, hrules]

theorem rollback_some (respond : Respond IptCommand IptKernel) (ipv6 : Bool) (saved : IptTables)
    (w : World IptCommand IptKernel) :
    rollback respond (restoreRuleset ipv6) (some saved) w =
      if (issue respond .writeFile w).1 then
        (if (issue respond (.restore ipv6 saved) (issue respond .writeFile w).2).1 then .restored
          else .failed, (issue respond (.restore ipv6 saved) (issue respond .writeFile w).2).2)
      else (.failed, (issue respond .writeFile w).2) := by
  have hrun : runScript respond (restoreRuleset ipv6 saved) w =
      if (issue respond .writeFile w).1 then
        issue respond (.restore ipv6 saved) (issue respond .writeFile w).2
      else issue respond .writeFile w := by
    rw [restoreRuleset, ← List.singleton_append, runScript_append]
    simp only [runScript_single]
  simp only [rollback, hrun]
  split
  next => rfl
  next => rfl

theorem interleaved_failed {n : Nat} {c : IptCommand} {k : IptKernel}
    (h : (interleaved others fate n c k).1 = false) :
    (interleaved others fate n c k).2 = applyEdits (others n) k := respondBy_fails h

theorem interleaved_succeeded {n : Nat} {c : IptCommand} {k : IptKernel}
    (h : (interleaved others fate n c k).1 = true) :
    c.apply (applyEdits (others n) k) = some (interleaved others fate n c k).2 :=
  respondBy_succeeds h

theorem rollback_inForce {ipv6 : Bool} {snapshot : Option IptTables} {v₀ : List IptRule}
    {w : World IptCommand IptKernel}
    (hw : InForce (foreignRules · key) (fun i => edited key (others i)) v₀ w)
    (h : key.ipv6 = ipv6 →
      (rollback (interleaved others fate) (restoreRuleset ipv6) snapshot w).1 ≠ .restored) :
    InForce (foreignRules · key) (fun i => edited key (others i)) v₀
      (rollback (interleaved others fate) (restoreRuleset ipv6) snapshot w).2 := by
  cases snapshot with
  | none => exact hw
  | some saved =>
    have hwrite : InForce (foreignRules · key) (fun i => edited key (others i)) v₀
        (issue (interleaved others fate) .writeFile w).2 := issue_inForce writeFile_drifts hw
    rw [rollback_some] at h ⊢
    split at h
    next hok =>
      rw [if_pos hok]
      by_cases hk : key.ipv6 = ipv6
      · have hfail : (issue (interleaved others fate) (.restore ipv6 saved)
            (issue (interleaved others fate) .writeFile w).2).1 = false := by simpa using h hk
        unfold InForce at hwrite ⊢
        simp only [issue, List.length_append, List.length_singleton, committed] at hfail hwrite ⊢
        rw [interleaved_failed hfail, foreignRules_edits, hwrite]
      · exact issue_inForce (restore_other_drifts hk saved) hwrite
    next hok => rw [if_neg hok]; exact hwrite

/-- A rollback that restores the family brings back what was in force when the snapshot was
taken, in the tables that were in use then. -/
theorem rollback_foreignRules {ipv6 : Bool} {snapshot : Option IptTables} {v₀ : List IptRule}
    {saved : IptKernel} {w : World IptCommand IptKernel}
    (hw : InForce (foreignRules · key) (fun i => edited key (others i)) v₀ w)
    (hsaved : ∀ tables, snapshot = some tables → tables = saved ipv6) (hk : key.ipv6 = ipv6)
    (h : (rollback (interleaved others fate) (restoreRuleset ipv6) snapshot w).1 = .restored) :
    foreignRules (rollback (interleaved others fate) (restoreRuleset ipv6) snapshot w).2.kernel key =
      if (saved ipv6 key.table).isSome then foreignRules saved key
      else committed (fun i => edited key (others i)) v₀
        (rollback (interleaved others fate) (restoreRuleset ipv6) snapshot w).2.issued.length := by
  cases snapshot with
  | none => simp [rollback] at h
  | some tables =>
    have hwrite : InForce (foreignRules · key) (fun i => edited key (others i)) v₀
        (issue (interleaved others fate) .writeFile w).2 := issue_inForce writeFile_drifts hw
    rw [rollback_some] at h ⊢
    split at h
    next hok =>
      rw [if_pos hok]
      generalize (issue (interleaved others fate) .writeFile w).2 = w₁ at h hwrite ⊢
      have hrestored : (interleaved others fate w₁.issued.length (.restore ipv6 tables) w₁.kernel).1 =
          true := by
        cases hr : (issue (interleaved others fate) (.restore ipv6 tables) w₁).1 with
        | true => exact hr
        | false => simp [hr] at h
      have hkernel := Option.some.inj (interleaved_succeeded hrestored)
      rw [hsaved tables rfl, ← hk] at hkernel ⊢
      simp only [issue, List.length_append, List.length_singleton, committed, ← hkernel]
      rw [foreignRules_restore, foreignRules_edits]
      rw [show foreignRules w₁.kernel key = _ from hwrite]
    next => simp at h

theorem syncFamily_foreignRules (others : Nat → List ForeignEdit) (fate : Nat → Bool)
    (config : Config) (ipv6 : Bool) (args : SyncArgs) (last : Option SyncSignature)
    {v₀ : List IptRule} {w : World IptCommand IptKernel}
    (hw : InForce (foreignRules · key) (fun i => edited key (others i)) v₀ w) :
    let pass := syncFamily config (interleaved others fate) ipv6 args last w
    ((key.ipv6 = ipv6 → pass.outcome ≠ .threw .restored) →
      InForce (foreignRules · key) (fun i => edited key (others i)) v₀ pass.world) ∧
    (key.ipv6 = ipv6 → pass.outcome = .threw .restored →
      foreignRules pass.world.kernel key =
        committed (fun i => edited key (others i)) v₀
          (if (applyEdits (others w.issued.length) w.kernel ipv6 key.table).isSome then
            w.issued.length + 1
          else pass.world.issued.length)) := by
  intro pass
  have hsnap : InForce (foreignRules · key) (fun i => edited key (others i)) v₀
      (snapshotRuleset (interleaved others fate) ipv6 w).2 := issue_inForce (save_drifts ipv6) hw
  have hsaved : ∀ tables, (snapshotRuleset (interleaved others fate) ipv6 w).1 = some tables →
      tables = applyEdits (others w.issued.length) w.kernel ipv6 := by
    intro tables htables
    cases hok : (issue (interleaved others fate) (.save ipv6) w).1 with
    | true =>
      simp only [snapshotRuleset, hok, if_true] at htables
      rw [← Option.some.inj htables]
      exact congrFun (Option.some.inj (interleaved_succeeded hok)).symm ipv6
    | false => simp [snapshotRuleset, hok] at htables
  have hmain : InForce (foreignRules · key) (fun i => edited key (others i)) v₀
      (runUnlessDry config.dryRun (interleaved others fate) (mainPass config ipv6 args)
        (snapshotRuleset (interleaved others fate) ipv6 w).2).2 := by
    unfold runUnlessDry
    split
    next => exact hsnap
    next => exact runScript_inForce (fun s hs c hc => mainPass_drifts hs hc) hsnap
  simp only [pass, syncFamily]
  split
  next => exact ⟨fun _ => hw, fun _ h => by simp at h⟩
  next =>
    split
    next => exact ⟨fun _ => hmain, fun _ h => by simp at h⟩
    next =>
      refine ⟨fun h => rollback_inForce hmain fun hk => by simpa using h hk, fun hk h => ?_⟩
      rw [rollback_foreignRules hmain hsaved hk (by simpa using h)]
      split
      next =>
        rw [foreignRules_edits, show foreignRules w.kernel key = _ from hw]
        rfl
      next => rfl

def syncInterleaved (config : Config) (others : Nat → List ForeignEdit) (fate : Nat → Bool)
    (args : SyncArgs) (last : Bool → Option SyncSignature) (k₀ : IptKernel) : Call :=
  sync config (interleaved others fate) args last ⟨k₀, []⟩

/-- Where the pass of a family takes its snapshot. -/
def snapshotWorld (call : Call) (k₀ : IptKernel) : Bool → World IptCommand IptKernel
  | false => ⟨k₀, []⟩
  | true => call.v4.world

/-- Whatever is interleaved with a call, it changes only the chains of the agent and the jumps to
them; all that was committed is in force at its end, but where the snapshot of a family is
restored, the tables it names hold what was in force when it was taken. -/
theorem iptSync_keeps_committed (config : Config) (others : Nat → List ForeignEdit)
    (fate : Nat → Bool) (args : SyncArgs) (last : Bool → Option SyncSignature) (k₀ : IptKernel)
    (key : IptChainKey) :
    let call := syncInterleaved config others fate args last k₀
    let start := snapshotWorld call k₀ key.ipv6
    ((∀ pass, call.family key.ipv6 = some pass → pass.outcome ≠ .threw .restored) →
      foreignRules call.world.kernel key = inForceAt others k₀ key call.world.issued.length) ∧
    ∀ pass, call.family key.ipv6 = some pass → pass.outcome = .threw .restored →
      foreignRules call.world.kernel key =
        inForceAt others k₀ key
          (if (applyEdits (others start.issued.length) start.kernel key.ipv6 key.table).isSome then
            start.issued.length + 1
          else call.world.issued.length) := by
  intro call start
  have hstart : InForce (foreignRules · key) (fun i => edited key (others i)) (foreignRules k₀ key)
      (⟨k₀, []⟩ : World IptCommand IptKernel) := rfl
  obtain ⟨hkept, hlost⟩ := syncFamily_foreignRules others fate config false
    (familyArgs config args false) (last false) hstart
  have hreturned : ∀ pass, call.v6 = some pass → call.v4.outcome.returned = true ∧
      pass = syncFamily config (interleaved others fate) true (familyArgs config args true)
        (last true) call.v4.world := by
    intro pass h
    simp only [call, syncInterleaved, sync] at h ⊢
    split at h
    next hr => exact ⟨(Bool.and_eq_true_iff.mp hr).1, (Option.some.inj h).symm⟩
    next => simp at h
  cases hv6 : call.v6 with
  | none =>
    have hworld : call.world = call.v4.world := by simp [Call.world, hv6]
    rw [hworld]
    cases hk : key.ipv6 with
    | false =>
      refine ⟨fun h => hkept fun _ => h call.v4 rfl, fun pass hpass h => ?_⟩
      cases Option.some.inj hpass
      rw [show start = ⟨k₀, []⟩ by simp only [start, hk, snapshotWorld]]
      exact hlost hk h
    | true =>
      refine ⟨fun _ => hkept fun h => by simp [hk] at h, fun pass hpass => ?_⟩
      simp [Call.family, hv6] at hpass
  | some v6 =>
    obtain ⟨hret, hcall⟩ := hreturned v6 hv6
    have hworld : call.world = v6.world := by simp [Call.world, hv6]
    have hmiddle : InForce (foreignRules · key) (fun i => edited key (others i))
        (foreignRules k₀ key) call.v4.world := by
      refine hkept fun _ h => ?_
      rw [show call.v4.outcome = .threw .restored from h] at hret
      simp [Outcome.returned] at hret
    obtain ⟨hkept6, hlost6⟩ := syncFamily_foreignRules others fate config true
      (familyArgs config args true) (last true) hmiddle
    rw [hworld, hcall]
    cases hk : key.ipv6 with
    | false =>
      refine ⟨fun _ => hkept6 fun h => by simp [hk] at h, fun pass hpass h => ?_⟩
      cases Option.some.inj hpass
      rw [h] at hret
      simp [Outcome.returned] at hret
    | true =>
      refine ⟨fun h => hkept6 fun _ => hcall ▸ h v6 hv6, fun pass hpass h => ?_⟩
      cases Option.some.inj (hv6.symm.trans hpass)
      rw [show start = call.v4.world by simp only [start, hk, snapshotWorld]]
      exact hlost6 hk (hcall ▸ h)

/-- A host on which another program keeps a chain of its own. -/
def dockerChain : IptChainKey := ⟨false, .filter, "DOCKER"⟩

def dockerHost : IptKernel := IptKernel.empty.setChain dockerChain []

theorem dockerChain_foreign : Foreign dockerChain := by
  simp [Foreign, Owned, dockerChain, FILTER_CHAIN, DOH_CHAIN, DNS_CHAIN, FORWARD, PREROUTING]

def dockerRule : IptRule := ⟨[.destination "172.17.0.2"], none, .other "ACCEPT"⟩

/-- The other program adds its rule just before the fifth command. -/
def dockerEdits : Nat → List ForeignEdit := fun n =>
  if n = 4 then [⟨dockerChain, fun rules => rules ++ [dockerRule], dockerChain_foreign⟩] else []

/-- The sixth command, the first rule of the policy, fails and the snapshot is restored. -/
def rolledBackCall : Call :=
  syncInterleaved sampleConfig dockerEdits (fun n => n != 5) oneBlocked (fun _ => none) dockerHost

theorem iptSync_keeps_committed_docker :
    foreignRules (syncInterleaved sampleConfig dockerEdits (fun _ => true) oneBlocked
        (fun _ => none) dockerHost).world.kernel dockerChain = [dockerRule] ∧
      foreignRules rolledBackCall.world.kernel dockerChain =
        inForceAt dockerEdits dockerHost dockerChain 1 := by
  have hkept := (iptSync_keeps_committed sampleConfig dockerEdits (fun _ => true) oneBlocked
    (fun _ => none) dockerHost dockerChain).1
  have hlost := (iptSync_keeps_committed sampleConfig dockerEdits (fun n => n != 5) oneBlocked
    (fun _ => none) dockerHost dockerChain).2
  refine ⟨(hkept ?_).trans (by decide +kernel), hlost rolledBackCall.v4 rfl (by decide +kernel)⟩
  intro pass hpass
  cases Option.some.inj hpass
  decide +kernel

/-- The rule the other program committed meanwhile is gone. -/
theorem iptSync_loses_committed_rule :
    rolledBackCall.v4.outcome = .threw .restored ∧
      inForceAt dockerEdits dockerHost dockerChain rolledBackCall.world.issued.length =
        [dockerRule] ∧
      foreignRules rolledBackCall.world.kernel dockerChain = [] := by
  decide +kernel

end Iptables

end GuardTime
