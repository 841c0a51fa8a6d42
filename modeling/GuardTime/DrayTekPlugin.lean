import GuardTime.QosController
import GuardTime.RuleSlots

namespace GuardTime.DrayTek

open Router

/-- One of the rule slots of filter set 3; disabling it leaves the rest as it is. -/
structure FilterSlot where
  enabled : Bool
  matchField : String
  matchValue : String
  action : String
  comment : String
deriving DecidableEq

abbrev FilterSet := Nat → FilterSlot

def ruleIndexFor (key : String) : Nat := 1 + (fnv1a key).natAbs % 63

def matchField : RuleKind → String
  | .ip => "src-ip"
  | .mac => "src-mac"

def addFilterRule (idx : Nat) (kind : RuleKind) (matchValue tag : String) (set : FilterSet) : FilterSet :=
  Function.update set idx ⟨true, matchField kind, matchValue, "block", tag⟩

def removeFilterRule (idx : Nat) (set : FilterSet) : FilterSet :=
  Function.update set idx { set idx with enabled := false }

/-- What `enable: yes` is looked for in. -/
def showFilterRule (set : FilterSet) (idx : Nat) : Option FilterSlot :=
  if (set idx).enabled then some (set idx) else none

def texts : RuleMethod → RuleTexts
  | .applyFirewallRule =>
    { dryRun := fun ip => "add filter block rule for " ++ ip
      missing := "ipAddress is required to add a Vigor filter rule"
      done := fun ip => "filter block rule added for " ++ ip
      idle := fun _ => "filter rule did not verify"
      failed := "applyFirewallRule failed: " }
  | .removeFirewallRule =>
    { dryRun := fun ip => "remove filter block rule for " ++ ip
      missing := "ipAddress is required to remove a Vigor filter rule"
      done := fun ip => "filter block rule removed for " ++ ip
      idle := fun ip => "no active filter rule found for " ++ ip ++ " (already clear)"
      failed := "removeFirewallRule failed: " }
  | .blockMAC =>
    { dryRun := fun mac => "add filter block rule for MAC " ++ mac
      missing := "macAddress is required"
      done := fun mac => mac ++ " blocked"
      idle := fun _ => "block rule did not verify"
      failed := "blockMAC failed: " }
  | .unblockMAC =>
    { dryRun := fun mac => "remove filter block rule for MAC " ++ mac
      missing := "macAddress is required"
      done := fun mac => mac ++ " unblocked"
      idle := fun mac => mac ++ " already unblocked (no matching rule)"
      failed := "unblockMAC failed: " }

def router : SlotRouter FilterSet FilterSlot where
  ruleIndexFor := ruleIndexFor
  put := addFilterRule
  clear := removeFilterRule
  ruleAt := showFilterRule
  tag slot := some slot.comment
  verified slot := slot.enabled
  texts := texts
  fresh _ := ⟨false, "", "", "", ""⟩
  ruleAt_fresh _ := rfl
  put_own idx kind matchValue tag set := by
    refine ⟨⟨true, matchField kind, matchValue, "block", tag⟩, ?_, rfl⟩
    simp [showFilterRule, addFilterRule]
  put_other idx kind matchValue tag set j hj := by
    simp [showFilterRule, addFilterRule, Function.update_of_ne hj]
  clear_own idx set := by simp [showFilterRule, removeFilterRule]
  clear_other idx set j hj := by simp [showFilterRule, removeFilterRule, Function.update_of_ne hj]

def applyFirewallRule (fates : RequestFates) (ctx : Ctx) (target : RouterTarget) (set : FilterSet) :
    ActionResult × FilterSet := router.operate .applyFirewallRule fates ctx target set

def removeFirewallRule (fates : RequestFates) (ctx : Ctx) (target : RouterTarget) (set : FilterSet) :
    ActionResult × FilterSet := router.operate .removeFirewallRule fates ctx target set

def blockMAC (fates : RequestFates) (ctx : Ctx) (target : RouterTarget) (set : FilterSet) :
    ActionResult × FilterSet := router.operate .blockMAC fates ctx target set

def unblockMAC (fates : RequestFates) (ctx : Ctx) (target : RouterTarget) (set : FilterSet) :
    ActionResult × FilterSet := router.operate .unblockMAC fates ctx target set

def pauseDevice (fates : RequestFates) (ctx : Ctx) (target : RouterTarget) (set : FilterSet) :
    ActionResult × FilterSet := applyFirewallRule fates ctx target set

def resumeDevice (fates : RequestFates) (ctx : Ctx) (target : RouterTarget) (set : FilterSet) :
    ActionResult × FilterSet := removeFirewallRule fates ctx target set

end GuardTime.DrayTek
