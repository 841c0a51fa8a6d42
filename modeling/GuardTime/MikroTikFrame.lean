import GuardTime.RuleRemoval

namespace GuardTime

open Router

namespace MikroTik

/-- The entries that are not own are still there, unchanged. -/
def Spares {ε : Type} (own : Nat → Prop) (before after : Table ε) : Prop :=
  ∀ e ∈ before.entries, ¬own e.id → e ∈ after.entries

/-- What an operation deletes, if it deletes, is own: `ownRules` and `ownEntries` are the ids of the
rules and the access-list entries that the plugin created for the target. -/
def DeletesOwn (ownRules ownEntries : Nat → Prop) (fates : RequestFates) (method : Method) (ctx : Ctx)
    (target : RouterTarget) (router : MikroTikRouter) : Prop :=
  match method with
  | .resumeDevice | .removeFirewallRule =>
    ctx.dryRun = false → ∀ ipAddress, truthy target.ipAddress = some ipAddress →
      fates.query 0 = .answered → (fates.write 1).applied = true →
        ∀ e, router.filter.first (FilterRule.isFor ipAddress) = some e → ownRules e.id
  | .unblockMAC =>
    ctx.dryRun = false → ∀ macAddress, truthy target.macAddress = some macAddress →
      fates.query 0 = .answered → (fates.write 1).applied = true →
        ∀ e, router.accessList.first (AccessEntry.isFor macAddress) = some e → ownEntries e.id
  | _ => True

variable {ε : Type} {own : Nat → Prop} {t : Table ε}

theorem spares_refl (own : Nat → Prop) (t : Table ε) : Spares own t t := fun _ he _ => he

theorem spares_add (fate : WriteFate) (value : ε) :
    Spares own t (fate.perform (·.add value) t).2 := by
  intro e he _
  cases fate with
  | done => exact List.mem_append_left _ he
  | lost error => exact List.mem_append_left _ he
  | ignored => exact he
  | refused error => exact he

theorem spares_add_delete (fate : WriteFate) (value : ε) :
    Spares own t (fate.perform (·.delete t.next) (t.add value)).2 := by
  intro e he _
  have hadded : e ∈ (t.add value).entries := List.mem_append_left _ he
  have hkept : e ∈ ((t.add value).delete t.next).entries :=
    Table.mem_delete.mpr ⟨hadded, Nat.ne_of_lt (t.below e he)⟩
  cases fate with
  | done => exact hkept
  | lost error => exact hkept
  | ignored => exact hadded
  | refused error => exact hadded

theorem applyFirewallRule_spares (own : Nat → Prop) (fates : RequestFates) (ctx : Ctx)
    (target : RouterTarget) (router : MikroTikRouter) :
    Spares own router.filter (applyFirewallRule fates ctx target router).2.filter ∧
      (applyFirewallRule fates ctx target router).2.accessList = router.accessList := by
  unfold applyFirewallRule
  split
  next => exact ⟨spares_refl own _, rfl⟩
  next =>
    split
    next => exact ⟨spares_refl own _, rfl⟩
    next ipAddress _ =>
      have hadd : Spares own router.filter
          ((fates.write 0).perform (·.add (dropRule ipAddress target.deviceId)) router.filter).2 :=
        spares_add _ _
      split
      next h =>
        rw [h] at hadd
        exact ⟨hadd, rfl⟩
      next h =>
        rw [h] at hadd
        split
        next => exact ⟨hadd, rfl⟩
        next => exact ⟨hadd, rfl⟩
        next =>
          split
          next hrolled =>
            rw [hrolled.1] at h
            obtain ⟨_, rfl⟩ := Prod.mk.inj h
            exact ⟨spares_add_delete _ _, rfl⟩
          next => exact ⟨hadd, rfl⟩

theorem removeFirewallRule_spares_iff (own : Nat → Prop) (fates : RequestFates) (ctx : Ctx)
    (target : RouterTarget) (router : MikroTikRouter) :
    Spares own router.filter (removeFirewallRule fates ctx target router).2.filter ↔
      (ctx.dryRun = false → ∀ ipAddress, truthy target.ipAddress = some ipAddress →
        fates.query 0 = .answered → (fates.write 1).applied = true →
          ∀ e, router.filter.first (FilterRule.isFor ipAddress) = some e → own e.id) := by
  unfold removeFirewallRule dryRunResult
  cases ctx.dryRun with
  | true => simpa using spares_refl own router.filter
  | false =>
    cases truthy target.ipAddress with
    | none => simpa using spares_refl own router.filter
    | some ipAddress =>
      have hspares := Table.remove_spares_iff router.filter (FilterRule.isFor ipAddress)
        (fates.query 0) (fates.write 1) own
      simpa [findFirewallRule, Spares] using hspares

theorem unblockMAC_spares_iff (own : Nat → Prop) (fates : RequestFates) (ctx : Ctx)
    (target : RouterTarget) (router : MikroTikRouter) :
    Spares own router.accessList (unblockMAC fates ctx target router).2.accessList ↔
      (ctx.dryRun = false → ∀ macAddress, truthy target.macAddress = some macAddress →
        fates.query 0 = .answered → (fates.write 1).applied = true →
          ∀ e, router.accessList.first (AccessEntry.isFor macAddress) = some e → own e.id) := by
  unfold unblockMAC dryRunResult
  cases ctx.dryRun with
  | true => simpa using spares_refl own router.accessList
  | false =>
    cases truthy target.macAddress with
    | none => simpa using spares_refl own router.accessList
    | some macAddress =>
      have hspares := Table.remove_spares_iff router.accessList (AccessEntry.isFor macAddress)
        (fates.query 0) (fates.write 1) own
      simpa [findAccessListEntry, Spares] using hspares

theorem removeFirewallRule_accessList (fates : RequestFates) (ctx : Ctx) (target : RouterTarget)
    (router : MikroTikRouter) :
    (removeFirewallRule fates ctx target router).2.accessList = router.accessList := by
  unfold removeFirewallRule
  split
  next => rfl
  next => split <;> rfl

theorem unblockMAC_filter (fates : RequestFates) (ctx : Ctx) (target : RouterTarget)
    (router : MikroTikRouter) :
    (unblockMAC fates ctx target router).2.filter = router.filter := by
  unfold unblockMAC
  split
  next => rfl
  next => split <;> rfl

theorem blockMAC_spares (own : Nat → Prop) (fates : RequestFates) (ctx : Ctx) (target : RouterTarget)
    (router : MikroTikRouter) :
    (blockMAC fates ctx target router).2.filter = router.filter ∧
      Spares own router.accessList (blockMAC fates ctx target router).2.accessList := by
  unfold blockMAC
  split
  next => exact ⟨rfl, spares_refl own _⟩
  next =>
    split
    next => exact ⟨rfl, spares_refl own _⟩
    next macAddress _ =>
      have hadd : Spares own router.accessList ((fates.write 0).perform
          (·.add (⟨some macAddress, "reject"⟩ : AccessEntry)) router.accessList).2 := spares_add _ _
      split
      next h =>
        rw [h] at hadd
        exact ⟨rfl, hadd⟩
      next h =>
        rw [h] at hadd
        exact ⟨rfl, hadd⟩

theorem disconnectClient_lists (fates : RequestFates) (ctx : Ctx) (target : RouterTarget)
    (router : MikroTikRouter) :
    (disconnectClient fates ctx target router).2.filter = router.filter ∧
      (disconnectClient fates ctx target router).2.accessList = router.accessList := by
  unfold disconnectClient
  split
  next => exact ⟨rfl, rfl⟩
  next => split <;> exact ⟨rfl, rfl⟩

theorem changeDNS_lists (fates : RequestFates) (ctx : Ctx) (dnsServer : Option String)
    (router : MikroTikRouter) :
    (changeDNS fates ctx dnsServer router).2.filter = router.filter ∧
      (changeDNS fates ctx dnsServer router).2.accessList = router.accessList := by
  unfold changeDNS
  split
  next => exact ⟨rfl, rfl⟩
  next => exact ⟨rfl, rfl⟩

/-- An operation touches nothing but what the plugin created for the target exactly when what it
deletes was created for it. -/
theorem operate_spares_iff (ownRules ownEntries : Nat → Prop) (fates : RequestFates)
    (method : Method) (ctx : Ctx) (target : RouterTarget) (router : MikroTikRouter) :
    (Spares ownRules router.filter (operate fates method ctx target router).filter ∧
        Spares ownEntries router.accessList (operate fates method ctx target router).accessList) ↔
      DeletesOwn ownRules ownEntries fates method ctx target router := by
  have hremoves : (Spares ownRules router.filter
        (removeFirewallRule fates ctx target router).2.filter ∧
      Spares ownEntries router.accessList (removeFirewallRule fates ctx target router).2.accessList) ↔
      DeletesOwn ownRules ownEntries fates .removeFirewallRule ctx target router := by
    rw [removeFirewallRule_accessList, removeFirewallRule_spares_iff]
    exact and_iff_left (spares_refl ownEntries _)
  have happlies : Spares ownRules router.filter (applyFirewallRule fates ctx target router).2.filter ∧
      Spares ownEntries router.accessList (applyFirewallRule fates ctx target router).2.accessList := by
    obtain ⟨hrules, hentries⟩ := applyFirewallRule_spares ownRules fates ctx target router
    rw [hentries]
    exact ⟨hrules, spares_refl ownEntries _⟩
  cases method with
  | testConnection => exact iff_of_true ⟨spares_refl _ _, spares_refl _ _⟩ trivial
  | changeDNS =>
    obtain ⟨hrules, hentries⟩ := changeDNS_lists fates ctx target.dnsServer router
    refine iff_of_true ?_ trivial
    simp only [operate, hrules, hentries]
    exact ⟨spares_refl _ _, spares_refl _ _⟩
  | pauseDevice => exact iff_of_true happlies trivial
  | resumeDevice => exact hremoves
  | disconnectClient =>
    obtain ⟨hrules, hentries⟩ := disconnectClient_lists fates ctx target router
    refine iff_of_true ?_ trivial
    simp only [operate, hrules, hentries]
    exact ⟨spares_refl _ _, spares_refl _ _⟩
  | applyFirewallRule => exact iff_of_true happlies trivial
  | removeFirewallRule => exact hremoves
  | blockMAC =>
    obtain ⟨hrules, hentries⟩ := blockMAC_spares ownEntries fates ctx target router
    refine iff_of_true ⟨?_, hentries⟩ trivial
    simp only [operate, hrules]
    exact spares_refl _ _
  | unblockMAC =>
    simp only [operate, unblockMAC_filter, unblockMAC_spares_iff]
    exact and_iff_right (spares_refl ownRules _)

/-- With every request succeeding, blocking and then unblocking report success and leave the
access list as it was, up to the order of its entries. -/
def RoundTrip (ctx : Ctx) (target : RouterTarget) (router : MikroTikRouter) : Prop :=
  let blocked := blockMAC allDone ctx target router
  let unblocked := unblockMAC allDone ctx target blocked.2
  blocked.1.success = true ∧ unblocked.1.success = true ∧
    unblocked.2.accessList.entries.Perm router.accessList.entries

theorem roundTrip_iff (ctx : Ctx) (target : RouterTarget) (router : MikroTikRouter) :
    RoundTrip ctx target router ↔
      ctx.dryRun = true ∨ ∃ macAddress, truthy target.macAddress = some macAddress ∧
        router.accessList.matching (AccessEntry.isFor macAddress) = 0 := by
  unfold RoundTrip blockMAC unblockMAC dryRunResult
  cases ctx.dryRun with
  | true => simp
  | false =>
    cases truthy target.macAddress with
    | none => simp [fails]
    | some macAddress =>
      have hown : AccessEntry.isFor macAddress ⟨some macAddress, "reject"⟩ = true := by
        simp [AccessEntry.isFor]
      cases hfirst : router.accessList.first (AccessEntry.isFor macAddress) with
      | none =>
        have hnone := Table.first_none.mp hfirst
        have hadded := Table.first_add hfirst hown
        have hback := Table.add_delete router.accessList (⟨some macAddress, "reject"⟩ : AccessEntry)
        simp [allDone, WriteFate.perform, findAccessListEntry, Table.look, hadded, Table.remove,
          succeeds, hback, hnone]
      | some e =>
        have hmatches : router.accessList.matching (AccessEntry.isFor macAddress) ≠ 0 := by
          intro hzero
          rw [Table.first_none.mpr hzero] at hfirst
          simp at hfirst
        have hadded : (router.accessList.add (⟨some macAddress, "reject"⟩ : AccessEntry)).first
            (AccessEntry.isFor macAddress) = some e := Table.first_add_of_some hfirst
        -- the entry found is the older one: the added one stays
        have hin : e ∈ router.accessList.entries := by
          obtain ⟨_, l, r, hsplit⟩ := Table.first_split hfirst
          exact hsplit ▸ List.mem_append_right l List.mem_cons_self
        have hstays : (⟨router.accessList.next, ⟨some macAddress, "reject"⟩⟩ : Entry AccessEntry) ∈
            ((router.accessList.add ⟨some macAddress, "reject"⟩).delete e.id).entries :=
          Table.mem_delete.mpr ⟨List.mem_append_right _ (List.mem_singleton_self _),
            Nat.ne_of_gt (router.accessList.below e hin)⟩
        have hnew : ¬((router.accessList.add ⟨some macAddress, "reject"⟩).delete e.id).entries.Perm
            router.accessList.entries := fun hperm =>
          Nat.lt_irrefl _ (router.accessList.below _ (hperm.mem_iff.mp hstays))
        simp only [Bool.false_eq_true, if_false, allDone, WriteFate.perform, findAccessListEntry,
          Table.look, hadded, Table.remove]
        refine iff_of_false ?_ ?_
        · intro h
          exact hnew h.2.2
        · intro h
          obtain ⟨_, heq, hzero⟩ := h.resolve_left (by simp)
          cases Option.some.inj heq
          exact hmatches hzero

/-- MikroTik touches only its own entries exactly as far as the first match is one of them, and
blocking is undone by unblocking exactly for an address that has no entry yet. -/
theorem mikroTik_frame_iff (ctx : Ctx) (target : RouterTarget) (router : MikroTikRouter) :
    (∀ (ownRules ownEntries : Nat → Prop) (fates : RequestFates) (method : Method),
      (Spares ownRules router.filter (operate fates method ctx target router).filter ∧
          Spares ownEntries router.accessList (operate fates method ctx target router).accessList) ↔
        DeletesOwn ownRules ownEntries fates method ctx target router) ∧
    (RoundTrip ctx target router ↔
      ctx.dryRun = true ∨ ∃ macAddress, truthy target.macAddress = some macAddress ∧
        router.accessList.matching (AccessEntry.isFor macAddress) = 0) := by
  refine ⟨?_, roundTrip_iff ctx target router⟩
  intro ownRules ownEntries fates method
  exact operate_spares_iff ownRules ownEntries fates method ctx target router

/-- The owner lets the device in by hand. -/
def ownersEntry : MikroTikRouter :=
  ⟨Table.empty, Table.empty.add ⟨some "aa:bb:cc:dd:ee:ff", "accept"⟩, Table.empty, "192.168.88.1"⟩

/-- Unblocking deletes the owner's entry, and blocking is not verified beside it. -/
theorem ownersEntry_deleted :
    ¬(Spares (fun _ => False) ownersEntry.accessList
        (operate allDone .unblockMAC gatewayContext console ownersEntry).accessList) ∧
      ¬RoundTrip gatewayContext console ownersEntry := by
  refine ⟨?_, ?_⟩
  · intro h
    have hnone : (operate allDone .unblockMAC gatewayContext console
        ownersEntry).accessList.entries.map Entry.id = [] := by decide
    have hin := List.mem_map_of_mem (f := Entry.id)
      (h ⟨0, ⟨some "aa:bb:cc:dd:ee:ff", "accept"⟩⟩ List.mem_cons_self id)
    rw [hnone] at hin
    exact List.not_mem_nil hin
  · intro h
    exact absurd h.1 (by decide)

end MikroTik

end GuardTime
