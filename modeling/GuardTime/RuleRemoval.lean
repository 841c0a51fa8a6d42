import GuardTime.MikroTikPlugin

namespace GuardTime

open Router

namespace UniFi

structure FirewallRule where
  name : Option String
  srcAddress : Option String
deriving DecidableEq

def FirewallRule.isFor (ipAddress : String) (rule : FirewallRule) : Bool :=
  rule.srcAddress = some ipAddress && startsWith (rule.name.getD "") "guardtime:"

def loginAttempt : QueryFate → Except String Unit
  | .answered => .ok ()
  | .bare => .error "unifi login did not return a session cookie"
  | .failed error => .error error

/-- The path of UniFi OS is tried first, then the legacy one. -/
def login (fates : RequestFates) : Except String Unit :=
  match loginAttempt (fates.query 0) with
  | .ok _ => .ok ()
  | .error _ => loginAttempt (fates.query 1)

/-- A list that cannot be read is taken for an empty one. -/
def findFirewallRule (fate : QueryFate) (ipAddress : String) (rules : Table FirewallRule) :
    Option (Entry FirewallRule) :=
  match rules.look fate (FirewallRule.isFor ipAddress) with
  | .ok found => found
  | .error _ => none

def removeFirewallRule (fates : RequestFates) (ctx : Ctx) (target : RouterTarget)
    (rules : Table FirewallRule) : ActionResult × Table FirewallRule :=
  match dryRunResult ctx ("remove firewall drop rule for " ++ shown target.ipAddress) with
  | some dry => (dry, rules)
  | none =>
    match truthy target.ipAddress with
    | none => (fails "ipAddress is required to remove a UniFi firewall rule", rules)
    | some ipAddress =>
      match login fates with
      | .error error => (fails ("removeFirewallRule failed: " ++ error), rules)
      | .ok _ =>
        let r := rules.remove (.ok (findFirewallRule (fates.query 2) ipAddress rules)) (fates.write 3)
        let result := match r.1 with
          | .ok false => succeeds ("no firewall drop rule found for " ++ ipAddress ++ " (already clear)")
          | .ok true => succeeds ("firewall drop rule removed for " ++ ipAddress)
          | .error error => fails ("removeFirewallRule failed: " ++ error)
        (result, r.2)

end UniFi

namespace OpenWrt

/-- How the calls of one method end. A write that returns a code other than 0 is ignored, a read
that does is bare; `rc` has the codes. -/
structure UbusFates extends RequestFates where
  rc : Nat → Int

/-- A section of `/etc/config/firewall`; its id is its `.name`. -/
structure Section where
  type : String
  name : Option String
deriving DecidableEq

def Section.isRule (name : String) (s : Section) : Bool := s.type = "rule" && s.name = some name

def login (fates : UbusFates) : Except String Unit :=
  match fates.query 0 with
  | .answered => .ok ()
  | .bare => .error ("ubus session login failed (rc=" ++ toString (fates.rc 0) ++ ")")
  | .failed error => .error error

def findFirewallRuleSection (fate : QueryFate) (name : String) (firewall : Table Section) :
    Except String (Option (Entry Section)) := firewall.look fate (Section.isRule name)

/-- The session's change of the section is not committed unless both calls get through; neither
return code is looked at. -/
def removeUciSection (deletion commit : WriteFate) (s : Entry Section) (firewall : Table Section) :
    Except String Unit × Table Section :=
  match deletion.perform (·.delete s.id) firewall with
  | (.error error, _) => (.error error, firewall)
  | (.ok _, staged) => commit.perform (fun _ => staged) firewall

def ruleName (target : RouterTarget) : String :=
  "guardtime-" ++ (truthy target.deviceId).getD
    ((truthy target.macAddress).getD (shown target.ipAddress))

/-- The reload after a removal cannot fail it. -/
def removeFirewallRule (fates : UbusFates) (ctx : Ctx) (target : RouterTarget)
    (firewall : Table Section) : ActionResult × Table Section :=
  match dryRunResult ctx ("remove firewall reject rule for " ++
      (truthy target.ipAddress).getD (shown target.macAddress)) with
  | some dry => (dry, firewall)
  | none =>
    match login fates with
    | .error error => (fails ("removeFirewallRule failed: " ++ error), firewall)
    | .ok _ =>
      let name := ruleName target
      match findFirewallRuleSection (fates.query 1) name firewall with
      | .error error => (fails ("removeFirewallRule failed: " ++ error), firewall)
      | .ok none =>
        (succeeds ("no firewall rule \"" ++ name ++ "\" found (already clear)"), firewall)
      | .ok (some s) =>
        match removeUciSection (fates.write 2) (fates.write 3) s firewall with
        | (.error error, firewall) => (fails ("removeFirewallRule failed: " ++ error), firewall)
        | (.ok _, firewall) =>
          (succeeds ("firewall reject rule \"" ++ name ++ "\" removed"), firewall)

def resumeDevice (fates : UbusFates) (ctx : Ctx) (target : RouterTarget) (firewall : Table Section) :
    ActionResult × Table Section := removeFirewallRule fates ctx target firewall

/-- The target that `blockMAC` and `unblockMAC` hand on. -/
def macTarget (target : RouterTarget) : RouterTarget :=
  ⟨some ("mac-" ++ shown target.macAddress), target.macAddress, none, none⟩

def unblockMAC (fates : UbusFates) (ctx : Ctx) (target : RouterTarget) (firewall : Table Section) :
    ActionResult × Table Section := removeFirewallRule fates ctx (macTarget target) firewall

/-- The deletion of a section and its commit, as one write. -/
def committed : WriteFate → WriteFate → WriteFate
  | .done, commit => commit
  | .ignored, .done | .ignored, .ignored => .ignored
  | .ignored, .refused error | .ignored, .lost error => .refused error
  | .refused error, _ | .lost error, _ => .refused error

theorem removeUciSection_committed (deletion commit : WriteFate) (s : Entry Section)
    (firewall : Table Section) :
    removeUciSection deletion commit s firewall =
      (committed deletion commit).perform (·.delete s.id) firewall := by
  cases deletion <;> cases commit <;> rfl

end OpenWrt

namespace MikroTik

/-- The GuardTime rules for a target. -/
def ruleFor (target : RouterTarget) (rule : FilterRule) : Bool :=
  (truthy target.ipAddress).any fun ipAddress => rule.isFor ipAddress

theorem removeFirewallRule_clears (fates : RequestFates) (ctx : Ctx) (target : RouterTarget)
    (router : MikroTikRouter) :
    ((removeFirewallRule fates ctx target router).1.success = true →
        (removeFirewallRule fates ctx target router).2.filter.matching (ruleFor target) = 0) ↔
      (router.filter.matching (ruleFor target) = 0 ∨ (ctx.dryRun = false ∧
        Table.Removes (fates.query 0) (fates.write 1) (router.filter.matching (ruleFor target)))) := by
  unfold removeFirewallRule dryRunResult
  cases ctx.dryRun with
  | true => simp
  | false =>
    cases hip : truthy target.ipAddress with
    | none =>
      have hnone : router.filter.matching (ruleFor target) = 0 := by
        simp [Table.matching, ruleFor, hip]
      simp [hnone]
    | some ipAddress =>
      have hrule : ruleFor target = FilterRule.isFor ipAddress := by
        funext rule
        simp [ruleFor, hip]
      have hclears := Table.remove_clears_iff router.filter (FilterRule.isFor ipAddress)
        (fates.query 0) (fates.write 1)
      have hzero : router.filter.matching (FilterRule.isFor ipAddress) = 0 →
          Table.Removes (fates.query 0) (fates.write 1)
            (router.filter.matching (FilterRule.isFor ipAddress)) := Or.inl
      simp only [hrule, Bool.false_eq_true, if_false, findFirewallRule, true_and]
      rw [or_iff_right_of_imp hzero, ← hclears]
      cases (router.filter.remove (router.filter.look (fates.query 0) (FilterRule.isFor ipAddress))
          (fates.write 1)).1 with
      | error error => simp [fails]
      | ok found => cases found <;> simp [succeeds]

end MikroTik

namespace UniFi

def ruleFor (target : RouterTarget) (rule : FirewallRule) : Bool :=
  (truthy target.ipAddress).any fun ipAddress => rule.isFor ipAddress

/-- How a listing looks when its errors are dropped. -/
def dropError : QueryFate → QueryFate
  | .answered => .answered
  | .bare | .failed _ => .bare

theorem findFirewallRule_look (fate : QueryFate) (ipAddress : String) (rules : Table FirewallRule) :
    .ok (findFirewallRule fate ipAddress rules) =
      rules.look (dropError fate) (FirewallRule.isFor ipAddress) := by
  cases fate <;> rfl

/-- A removal whose listing cannot fail. -/
def Removes (query : QueryFate) (deletion : WriteFate) (n : Nat) : Prop :=
  query = .answered ∧ (deletion.throws = true ∨ (deletion = .done ∧ n = 1))

theorem removes_dropError (query : QueryFate) (deletion : WriteFate) (n : Nat) :
    Table.Removes (dropError query) deletion n ↔ n = 0 ∨ Removes query deletion n := by
  cases query <;> simp [Table.Removes, Removes, dropError]

theorem removeFirewallRule_clears (fates : RequestFates) (ctx : Ctx) (target : RouterTarget)
    (rules : Table FirewallRule) :
    ((removeFirewallRule fates ctx target rules).1.success = true →
        (removeFirewallRule fates ctx target rules).2.matching (ruleFor target) = 0) ↔
      (rules.matching (ruleFor target) = 0 ∨ (ctx.dryRun = false ∧
        ((∃ error, login fates = .error error) ∨
          Removes (fates.query 2) (fates.write 3) (rules.matching (ruleFor target))))) := by
  unfold removeFirewallRule dryRunResult
  cases ctx.dryRun with
  | true => simp
  | false =>
    cases hip : truthy target.ipAddress with
    | none =>
      have hnone : rules.matching (ruleFor target) = 0 := by
        simp [Table.matching, ruleFor, hip]
      simp [hnone]
    | some ipAddress =>
      have hrule : ruleFor target = FirewallRule.isFor ipAddress := by
        funext rule
        simp [ruleFor, hip]
      cases login fates with
      | error error => simp [fails]
      | ok _ =>
        have hclears := Table.remove_clears_iff rules (FirewallRule.isFor ipAddress)
          (dropError (fates.query 2)) (fates.write 3)
        rw [removes_dropError, ← findFirewallRule_look] at hclears
        simp only [reduceCtorEq, exists_false, false_or, true_and, hrule]
        rw [← hclears]
        simp only [if_false]
        cases (rules.remove (.ok (findFirewallRule (fates.query 2) ipAddress rules))
            (fates.write 3)).1 with
        | error error => simp [fails]
        | ok found => cases found <;> simp [succeeds]

end UniFi

namespace OpenWrt

def ruleFor (target : RouterTarget) (s : Section) : Bool := s.isRule (ruleName target)

theorem removeFirewallRule_clears (fates : UbusFates) (ctx : Ctx) (target : RouterTarget)
    (firewall : Table Section) :
    ((removeFirewallRule fates ctx target firewall).1.success = true →
        (removeFirewallRule fates ctx target firewall).2.matching (ruleFor target) = 0) ↔
      (firewall.matching (ruleFor target) = 0 ∨ (ctx.dryRun = false ∧
        ((∃ error, login fates = .error error) ∨
          Table.Removes (fates.query 1) (committed (fates.write 2) (fates.write 3))
            (firewall.matching (ruleFor target))))) := by
  have hrule : ruleFor target = Section.isRule (ruleName target) := rfl
  have hclears := Table.remove_clears_iff firewall (Section.isRule (ruleName target))
    (fates.query 1) (committed (fates.write 2) (fates.write 3))
  have hzero : firewall.matching (Section.isRule (ruleName target)) = 0 →
      Table.Removes (fates.query 1) (committed (fates.write 2) (fates.write 3))
        (firewall.matching (Section.isRule (ruleName target))) := Or.inl
  unfold removeFirewallRule dryRunResult
  rw [hrule]
  cases ctx.dryRun with
  | true => simp
  | false =>
    cases login fates with
    | error error => simp [fails]
    | ok _ =>
      simp only [reduceCtorEq, exists_false, false_or, true_and, Bool.false_eq_true, if_false]
      rw [or_iff_right_of_imp hzero, ← hclears]
      unfold findFirewallRuleSection Table.remove
      cases firewall.look (fates.query 1) (Section.isRule (ruleName target)) with
      | error error => simp [fails]
      | ok found =>
        cases found with
        | none => simp [succeeds]
        | some s =>
          simp only [removeUciSection_committed]
          cases (committed (fates.write 2) (fates.write 3)).perform (·.delete s.id) firewall with
          | mk answer after => cases answer <;> simp [succeeds, fails]

end OpenWrt

/-- For each of the three plugins: a removal that reports success leaves no GuardTime rule for the
target exactly when there was none, or it was no dry run and either threw or read the list, deleted
the rule and found no second one. -/
theorem removals_clear_iff (ctx : Ctx) (target : RouterTarget) :
    (∀ remove ∈ [MikroTik.removeFirewallRule, MikroTik.resumeDevice],
      ∀ (fates : RequestFates) (router : MikroTik.MikroTikRouter),
        ((remove fates ctx target router).1.success = true →
            (remove fates ctx target router).2.filter.matching (MikroTik.ruleFor target) = 0) ↔
          (router.filter.matching (MikroTik.ruleFor target) = 0 ∨ (ctx.dryRun = false ∧
            Table.Removes (fates.query 0) (fates.write 1)
              (router.filter.matching (MikroTik.ruleFor target))))) ∧
    (∀ (fates : RequestFates) (rules : Table UniFi.FirewallRule),
      ((UniFi.removeFirewallRule fates ctx target rules).1.success = true →
          (UniFi.removeFirewallRule fates ctx target rules).2.matching (UniFi.ruleFor target) = 0) ↔
        (rules.matching (UniFi.ruleFor target) = 0 ∨ (ctx.dryRun = false ∧
          ((∃ error, UniFi.login fates = .error error) ∨
            UniFi.Removes (fates.query 2) (fates.write 3)
              (rules.matching (UniFi.ruleFor target)))))) ∧
    (∀ op ∈ [(OpenWrt.removeFirewallRule, target), (OpenWrt.resumeDevice, target),
        (OpenWrt.unblockMAC, OpenWrt.macTarget target)],
      ∀ (fates : OpenWrt.UbusFates) (firewall : Table OpenWrt.Section),
        ((op.1 fates ctx target firewall).1.success = true →
            (op.1 fates ctx target firewall).2.matching (OpenWrt.ruleFor op.2) = 0) ↔
          (firewall.matching (OpenWrt.ruleFor op.2) = 0 ∨ (ctx.dryRun = false ∧
            ((∃ error, OpenWrt.login fates = .error error) ∨
              Table.Removes (fates.query 1) (OpenWrt.committed (fates.write 2) (fates.write 3))
                (firewall.matching (OpenWrt.ruleFor op.2)))))) := by
  refine ⟨?_, ?_, ?_⟩
  · intro remove hremove fates router
    simp only [List.mem_cons, List.not_mem_nil, or_false] at hremove
    rcases hremove with rfl | rfl
    · exact MikroTik.removeFirewallRule_clears fates ctx target router
    · exact MikroTik.removeFirewallRule_clears fates ctx target router
  · intro fates rules
    exact UniFi.removeFirewallRule_clears fates ctx target rules
  · intro op hop fates firewall
    simp only [List.mem_cons, List.not_mem_nil, or_false] at hop
    rcases hop with rfl | rfl | rfl
    · exact OpenWrt.removeFirewallRule_clears fates ctx target firewall
    · exact OpenWrt.removeFirewallRule_clears fates ctx target firewall
    · exact OpenWrt.removeFirewallRule_clears fates ctx (OpenWrt.macTarget target) firewall

def gatewayContext : Ctx := ⟨some "192.168.88.1", none, false⟩

def console : RouterTarget := ⟨some "dev-1", some "aa:bb:cc:dd:ee:ff", some "192.168.88.50", none⟩

def allDone : RequestFates := ⟨fun _ => .answered, fun _ => .done⟩

def Table.empty {ε : Type} : Table ε := ⟨[], 0, fun _ h => absurd h List.not_mem_nil, List.nodup_nil⟩

/-- A router that the device was paused on twice. -/
def pausedTwice : MikroTik.MikroTikRouter :=
  let pause := fun router => (MikroTik.pauseDevice allDone gatewayContext console router).2
  pause (pause ⟨Table.empty, Table.empty, Table.empty, "192.168.88.1"⟩)

/-- A second rule stays, a list that cannot be read is taken for an empty one, and a deletion that
returns an error code is taken for done. -/
theorem removals_leave_rules :
    (¬∀ fates router,
      (MikroTik.resumeDevice fates gatewayContext console router).1.success = true →
        (MikroTik.resumeDevice fates gatewayContext console router).2.filter.matching
          (MikroTik.ruleFor console) = 0) ∧
    (¬∀ fates rules,
      (UniFi.removeFirewallRule fates gatewayContext console rules).1.success = true →
        (UniFi.removeFirewallRule fates gatewayContext console rules).2.matching
          (UniFi.ruleFor console) = 0) ∧
    (¬∀ fates firewall,
      (OpenWrt.removeFirewallRule fates gatewayContext console firewall).1.success = true →
        (OpenWrt.removeFirewallRule fates gatewayContext console firewall).2.matching
          (OpenWrt.ruleFor console) = 0) := by
  refine ⟨?_, ?_, ?_⟩
  · intro h
    exact absurd (h allDone pausedTwice (by decide)) (by decide)
  · intro h
    exact absurd (h ⟨fun n => if n = 2 then .failed "timeout" else .answered, fun _ => .done⟩
      (Table.empty.add ⟨some "guardtime:dev-1", some "192.168.88.50"⟩) (by decide)) (by decide)
  · intro h
    exact absurd (h ⟨⟨fun _ => .answered, fun n => if n = 2 then .ignored else .done⟩, fun _ => 6⟩
      (Table.empty.add ⟨"rule", some "guardtime-dev-1"⟩) (by decide)) (by decide)

end GuardTime
