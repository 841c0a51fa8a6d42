import GuardTime.MikroTikPlugin
import GuardTime.PrefixRuns

namespace GuardTime

open Router

/-- The two rules that a plugin keeps for a device. -/
inductive RuleKind where
  | ip
  | mac
deriving DecidableEq

def RuleKind.tag : RuleKind → String → String
  | .ip, key => "guardtime:" ++ key
  | .mac, key => "guardtime-mac:" ++ key

def RuleKind.address : RuleKind → RouterTarget → Option String
  | .ip, target => target.ipAddress
  | .mac, target => target.macAddress

inductive RuleMethod where
  | applyFirewallRule
  | removeFirewallRule
  | blockMAC
  | unblockMAC
deriving DecidableEq

def RuleMethod.kind : RuleMethod → RuleKind
  | .applyFirewallRule | .removeFirewallRule => .ip
  | .blockMAC | .unblockMAC => .mac

/-- The method sets its rule; the others clear theirs. -/
def RuleMethod.sets : RuleMethod → Bool
  | .applyFirewallRule | .blockMAC => true
  | .removeFirewallRule | .unblockMAC => false

/-- The texts of a method's answers, by the address it is for. `idle` answers for a rule that did not
verify, or was not there to be cleared. -/
structure RuleTexts where
  dryRun : String → String
  missing : String
  done : String → String
  idle : String → String
  failed : String

/-- A router `C` that keeps rules `R` in numbered slots. A slot is set and cleared as a whole, its rule
is marked with a tag, and a `fresh` router has none. -/
structure SlotRouter (C R : Type) where
  ruleIndexFor : String → Nat
  put : Nat → RuleKind → String → String → C → C
  clear : Nat → C → C
  ruleAt : C → Nat → Option R
  tag : R → Option String
  verified : R → Bool
  texts : RuleMethod → RuleTexts
  fresh : C
  ruleAt_fresh : ∀ i, ruleAt fresh i = none
  put_own : ∀ i kind address t c, ∃ r, ruleAt (put i kind address t c) i = some r ∧ tag r = some t
  put_other : ∀ i kind address t c j, j ≠ i → ruleAt (put i kind address t c) j = ruleAt c j
  clear_own : ∀ i c, ruleAt (clear i c) i = none
  clear_other : ∀ i c j, j ≠ i → ruleAt (clear i c) j = ruleAt c j

namespace SlotRouter

variable {C R : Type} (router : SlotRouter C R)

/-- What reading a slot shows; an empty answer shows no rule. -/
def showRule (fate : QueryFate) (c : C) (index : Nat) : Except String (Option R) :=
  match fate with
  | .answered => .ok (router.ruleAt c index)
  | .bare => .ok none
  | .failed error => .error error

/-- Sets the rule and reads it back. -/
def setRule (texts : RuleTexts) (fates : RequestFates) (kind : RuleKind) (index : Nat)
    (address tag : String) (c : C) : ActionResult × C :=
  match (fates.write 0).perform (router.put index kind address tag) c with
  | (.error error, c) => (fails (texts.failed ++ error), c)
  | (.ok _, c) =>
    match router.showRule (fates.query 1) c index with
    | .error error => (fails (texts.failed ++ error), c)
    | .ok verify =>
      if verify.any router.verified then (succeeds (texts.done address), c)
      else (fails (texts.idle address), c)

/-- Reads the rule, and clears it if there is one. -/
def clearRule (texts : RuleTexts) (fates : RequestFates) (index : Nat) (address : String) (c : C) :
    ActionResult × C :=
  match router.showRule (fates.query 0) c index with
  | .error error => (fails (texts.failed ++ error), c)
  | .ok none => (succeeds (texts.idle address), c)
  | .ok (some _) =>
    match (fates.write 1).perform (router.clear index) c with
    | (.error error, c) => (fails (texts.failed ++ error), c)
    | (.ok _, c) => (succeeds (texts.done address), c)

/-- The body of the four methods; a session with the router is carried out as a whole or not at all. -/
def operate (method : RuleMethod) (fates : RequestFates) (ctx : Ctx) (target : RouterTarget) (c : C) :
    ActionResult × C :=
  let texts := router.texts method
  let kind := method.kind
  match dryRunResult ctx (texts.dryRun (shown (kind.address target))) with
  | some dry => (dry, c)
  | none =>
    match truthy (kind.address target) with
    | none => (fails texts.missing, c)
    | some address =>
      let key := (truthy target.deviceId).getD address
      let index := router.ruleIndexFor key
      if method.sets then router.setRule texts fates kind index address (kind.tag key) c
      else router.clearRule texts fates index address c

end SlotRouter

/-- A device, with the addresses its rules are for. -/
structure RuleDevice where
  deviceId : Option String
  ipAddress : String
  macAddress : String
  ip_ne : ipAddress ≠ ""
  mac_ne : macAddress ≠ ""

namespace RuleDevice

def target (device : RuleDevice) : RouterTarget :=
  ⟨device.deviceId, some device.macAddress, some device.ipAddress, none⟩

def address (device : RuleDevice) : RuleKind → String
  | .ip => device.ipAddress
  | .mac => device.macAddress

/-- What a rule's slot and tag are derived from. -/
def key (device : RuleDevice) (kind : RuleKind) : String :=
  (truthy device.deviceId).getD (device.address kind)

theorem truthy_address (device : RuleDevice) (kind : RuleKind) :
    truthy (kind.address device.target) = some (device.address kind) := by
  cases kind with
  | ip => simp [RuleKind.address, target, address, truthy, device.ip_ne]
  | mac => simp [RuleKind.address, target, address, truthy, device.mac_ne]

end RuleDevice

structure RuleCall where
  device : RuleDevice
  method : RuleMethod
  fates : RequestFates
  ctx : Ctx

structure DeviceRule where
  device : RuleDevice
  kind : RuleKind

namespace DeviceRule

def key (rule : DeviceRule) : String := rule.device.key rule.kind

def tag (rule : DeviceRule) : String := rule.kind.tag rule.key

theorem tag_eq {a b : DeviceRule} (h : a.tag = b.tag) : a.key = b.key := by
  have hchars := congrArg String.toList h
  unfold tag RuleKind.tag at hchars
  cases hka : a.kind <;> cases hkb : b.kind <;> simp [hka, hkb] at hchars <;>
    exact String.toList_inj.mp hchars

end DeviceRule

def RuleCall.rule (call : RuleCall) : DeviceRule := ⟨call.device, call.method.kind⟩

namespace DeviceRule

/-- A call for the rule that is carried out and answered. -/
def call (rule : DeviceRule) (sets : Bool) : RuleCall where
  device := rule.device
  method :=
    match rule.kind, sets with
    | .ip, true => .applyFirewallRule
    | .ip, false => .removeFirewallRule
    | .mac, true => .blockMAC
    | .mac, false => .unblockMAC
  fates := ⟨fun _ => .answered, fun _ => .done⟩
  ctx := ⟨none, none, false⟩

theorem rule_call (rule : DeviceRule) (sets : Bool) : (rule.call sets).rule = rule := by
  obtain ⟨device, kind⟩ := rule
  cases kind <;> cases sets <;> rfl

theorem sets_call (rule : DeviceRule) (sets : Bool) :
    (rule.call sets).method.sets = sets := by
  obtain ⟨device, kind⟩ := rule
  cases kind <;> cases sets <;> rfl

end DeviceRule

namespace SlotRouter

variable {C R : Type} (router : SlotRouter C R)

def step (c : C) (call : RuleCall) : C :=
  (router.operate call.method call.fates call.ctx call.device.target c).2

def index (rule : DeviceRule) : Nat := router.ruleIndexFor rule.key

/-- After any calls on a router that had no rule with `other`'s tag, a call for `rule` leaves every
rule with that tag where it is. -/
def Spares (rule other : DeviceRule) : Prop :=
  ∀ start : C, (∀ i r, router.ruleAt start i = some r → router.tag r ≠ some other.tag) →
    ∀ (calls : List RuleCall) (call : RuleCall), call.rule = rule → ∀ i r,
      router.ruleAt (calls.foldl router.step start) i = some r → router.tag r = some other.tag →
        router.ruleAt (router.step (calls.foldl router.step start) call) i = some r

variable {router}

theorem perform_state {S : Type} (fate : WriteFate) (edit : S → S) (s : S) :
    (fate.perform edit s).2 = s ∨ (fate.perform edit s).2 = edit s := by
  cases fate with
  | done => exact Or.inr rfl
  | ignored => exact Or.inl rfl
  | refused error => exact Or.inl rfl
  | lost error => exact Or.inr rfl

theorem setRule_state (texts : RuleTexts) (fates : RequestFates) (kind : RuleKind) (index : Nat)
    (address tag : String) (c : C) :
    (router.setRule texts fates kind index address tag c).2 =
      ((fates.write 0).perform (router.put index kind address tag) c).2 := by
  unfold setRule
  split
  next hperform => rw [hperform]
  next hperform =>
    rw [hperform]
    split
    next => rfl
    next => split <;> rfl

theorem clearRule_state (texts : RuleTexts) (fates : RequestFates) (index : Nat) (address : String)
    (c : C) :
    (router.clearRule texts fates index address c).2 = c ∨
      (router.clearRule texts fates index address c).2 = router.clear index c := by
  unfold clearRule
  split
  next => exact Or.inl rfl
  next => exact Or.inl rfl
  next =>
    have hperform := perform_state (fates.write 1) (router.clear index) c
    split
    next h => rwa [h] at hperform
    next h => rwa [h] at hperform

theorem operate_missing (method : RuleMethod) (fates : RequestFates) (ctx : Ctx) (c : C)
    {target : RouterTarget} (h : truthy (method.kind.address target) = none) :
    (router.operate method fates ctx target c).2 = c := by
  unfold operate
  simp only [h]
  split <;> rfl

/-- All that a method does for an address: in dry run nothing; otherwise it sets the rule of its kind,
or clears it. -/
theorem operate_eq (method : RuleMethod) (fates : RequestFates) (ctx : Ctx) (c : C)
    {target : RouterTarget} {address : String}
    (h : truthy (method.kind.address target) = some address) :
    (router.operate method fates ctx target c).2 =
      if ctx.dryRun then c
      else if method.sets then
        ((fates.write 0).perform
          (router.put (router.ruleIndexFor ((truthy target.deviceId).getD address)) method.kind address
            (method.kind.tag ((truthy target.deviceId).getD address))) c).2
      else
        (router.clearRule (router.texts method) fates
          (router.ruleIndexFor ((truthy target.deviceId).getD address)) address c).2 := by
  unfold operate
  cases hdry : ctx.dryRun with
  | true => simp [dryRunResult, hdry]
  | false =>
    simp only [dryRunResult, hdry, h]
    cases hsets : method.sets with
    | true => exact router.setRule_state _ _ _ _ _ _ _
    | false => rfl

theorem operate_cases (method : RuleMethod) (fates : RequestFates) (ctx : Ctx) (c : C)
    {target : RouterTarget} {address : String}
    (h : truthy (method.kind.address target) = some address) :
    (router.operate method fates ctx target c).2 = c ∨
      (method.sets = true ∧ (router.operate method fates ctx target c).2 =
        router.put (router.ruleIndexFor ((truthy target.deviceId).getD address)) method.kind address
          (method.kind.tag ((truthy target.deviceId).getD address)) c) ∨
      (method.sets = false ∧ (router.operate method fates ctx target c).2 =
        router.clear (router.ruleIndexFor ((truthy target.deviceId).getD address)) c) := by
  rw [operate_eq method fates ctx c h]
  split
  next => exact Or.inl rfl
  next =>
    split
    next hsets =>
      have hperform := perform_state (fates.write 0)
        (router.put (router.ruleIndexFor ((truthy target.deviceId).getD address)) method.kind address
          (method.kind.tag ((truthy target.deviceId).getD address))) c
      exact hperform.imp_right fun h => Or.inl ⟨hsets, h⟩
    next hsets =>
      have hclear := router.clearRule_state (router.texts method) fates
        (router.ruleIndexFor ((truthy target.deviceId).getD address)) address c
      exact hclear.imp_right fun h => Or.inr ⟨Bool.eq_false_iff.mpr hsets, h⟩

theorem step_eq (c : C) (call : RuleCall) :
    router.step c call =
      if call.ctx.dryRun then c
      else if call.method.sets then
        ((call.fates.write 0).perform (router.put (router.index call.rule) call.method.kind
          (call.device.address call.method.kind) call.rule.tag) c).2
      else
        (router.clearRule (router.texts call.method) call.fates (router.index call.rule)
          (call.device.address call.method.kind) c).2 :=
  operate_eq call.method call.fates call.ctx c (call.device.truthy_address call.method.kind)

theorem step_cases (c : C) (call : RuleCall) :
    router.step c call = c ∨
      router.step c call = router.put (router.index call.rule) call.method.kind
        (call.device.address call.method.kind) call.rule.tag c ∨
      router.step c call = router.clear (router.index call.rule) c := by
  have hcases := router.operate_cases call.method call.fates call.ctx c
    (call.device.truthy_address call.method.kind)
  exact hcases.imp_right (Or.imp And.right And.right)

theorem step_other (c : C) (call : RuleCall) {i : Nat} (h : i ≠ router.index call.rule) :
    router.ruleAt (router.step c call) i = router.ruleAt c i := by
  rcases router.step_cases c call with hc | hc | hc
  · rw [hc]
  · rw [hc, router.put_other _ _ _ _ _ _ h]
  · rw [hc, router.clear_other _ _ _ h]

/-- Rules with the tag stand in the slot that the tag's rule has, and in no other. -/
def Kept (router : SlotRouter C R) (rule : DeviceRule) (c : C) : Prop :=
  ∀ i r, router.ruleAt c i = some r → router.tag r = some rule.tag → i = router.index rule

theorem step_kept {rule : DeviceRule} {c : C} (call : RuleCall) (h : router.Kept rule c) :
    router.Kept rule (router.step c call) := by
  intro i r hr htag
  rcases eq_or_ne i (router.index call.rule) with hi | hi
  · rcases router.step_cases c call with hc | hc | hc
    · exact h i r (hc ▸ hr) htag
    · rw [hc, hi] at hr
      obtain ⟨put, hput, hputtag⟩ := router.put_own (router.index call.rule) call.method.kind
        (call.device.address call.method.kind) call.rule.tag c
      obtain rfl : put = r := Option.some.inj (hput.symm.trans hr)
      have hkey := DeviceRule.tag_eq (Option.some.inj (hputtag.symm.trans htag))
      rw [hi, index, hkey, index]
    · rw [hc, hi, router.clear_own] at hr
      cases hr
  · exact h i r (router.step_other c call hi ▸ hr) htag

theorem ruleAt_setCall (rule : DeviceRule) (c : C) :
    ∃ r, router.ruleAt (router.step c (rule.call true)) (router.index rule) = some r ∧
      router.tag r = some rule.tag := by
  have hlive : (rule.call true).ctx.dryRun ≠ true := Bool.false_ne_true
  rw [step_eq, if_neg hlive, if_pos (rule.sets_call true), rule.rule_call]
  exact router.put_own _ _ _ _ _

theorem ruleAt_clearCall (rule : DeviceRule) (c : C) :
    router.ruleAt (router.step c (rule.call false)) (router.index rule) = none := by
  have hlive : (rule.call false).ctx.dryRun ≠ true := Bool.false_ne_true
  have hclears : (rule.call false).method.sets ≠ true := by
    rw [rule.sets_call]
    exact Bool.false_ne_true
  have hanswer : router.showRule ((rule.call false).fates.query 0) c (router.index rule) =
      .ok (router.ruleAt c (router.index rule)) := rfl
  rw [step_eq, if_neg hlive, if_neg hclears, rule.rule_call, clearRule, hanswer]
  cases hrule : router.ruleAt c (router.index rule) with
  | none => exact hrule
  | some r => exact router.clear_own _ _

/-- Calls for a rule never touch another rule exactly when the two have different slots. -/
theorem spares_iff {rule other : DeviceRule} :
    router.Spares rule other ↔ router.index rule ≠ router.index other := by
  refine ⟨?_, ?_⟩
  · intro h heq
    obtain ⟨r, hr, htag⟩ := router.ruleAt_setCall other router.fresh
    have hkept := h router.fresh (fun i r hr => by rw [router.ruleAt_fresh] at hr; cases hr)
      [other.call true] (rule.call false) (rule.rule_call false) (router.index other) r hr htag
    rw [← heq, router.ruleAt_clearCall] at hkept
    cases hkept
  · intro hne start hstart calls call hcall i r hr htag
    have hrun : router.Kept other (calls.foldl router.step start) :=
      foldl_keeps (fun c call => step_kept call) calls
        (fun i r hr htag => absurd htag (hstart i r hr))
    have hi : i = router.index other := hrun i r hr htag
    rw [router.step_other _ _ (by rw [hi, hcall]; exact hne.symm), hr]

end SlotRouter

end GuardTime
