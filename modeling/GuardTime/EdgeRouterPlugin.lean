import GuardTime.QosController
import GuardTime.RuleSlots

namespace GuardTime.EdgeRouter

open Router

inductive RuleSetting where
  | action
  | sourceAddress
  | sourceMacAddress
  | description
deriving DecidableEq

def RuleSetting.path : RuleSetting → String
  | .action => "action"
  | .sourceAddress => "source address"
  | .sourceMacAddress => "source mac-address"
  | .description => "description"

/-- The commands that the plugin sends between `configure` and `commit`. -/
inductive VyattaCommand where
  | setNameServer (server : String)
  | setRule (index : Nat) (setting : RuleSetting) (value : String)
  | deleteRule (index : Nat)
deriving DecidableEq

structure VyattaRule where
  action : Option String
  sourceAddress : Option String
  sourceMacAddress : Option String
  description : Option String
deriving DecidableEq

def VyattaRule.set (rule : VyattaRule) (value : String) : RuleSetting → VyattaRule
  | .action => { rule with action := some value }
  | .sourceAddress => { rule with sourceAddress := some value }
  | .sourceMacAddress => { rule with sourceMacAddress := some value }
  | .description => { rule with description := some value }

/-- The router's name servers and the rules of its `WAN_LOCAL` ruleset. -/
structure EdgeConfig where
  nameServers : List String
  rules : Nat → Option VyattaRule

/-- A `set` adds to what the rule has, and makes a rule where there is none. -/
def EdgeConfig.exec (config : EdgeConfig) : VyattaCommand → EdgeConfig
  | .setNameServer server => { config with nameServers := config.nameServers ++ [server] }
  | .setRule index setting value =>
    { config with
      rules := Function.update config.rules index
        (some (((config.rules index).getD ⟨none, none, none, none⟩).set value setting)) }
  | .deleteRule index => { config with rules := Function.update config.rules index none }

def ruleIndexFor (key : String) : Nat := 5000 + (fnv1a key).natAbs % 900

def source : RuleKind → RuleSetting
  | .ip => .sourceAddress
  | .mac => .sourceMacAddress

def setCommands (index : Nat) (kind : RuleKind) (address tag : String) : List VyattaCommand :=
  [.setRule index .action "drop", .setRule index (source kind) address,
    .setRule index .description tag]

def clearCommands (index : Nat) : List VyattaCommand := [.deleteRule index]

def dnsCommands (dnsServer : Option String) : List VyattaCommand := [.setNameServer (shown dnsServer)]

def texts : RuleMethod → RuleTexts
  | .applyFirewallRule =>
    { dryRun := fun ip => "add firewall drop rule for " ++ ip
      missing := "ipAddress is required to add an EdgeOS firewall rule"
      done := fun ip => "firewall drop rule added for " ++ ip
      idle := fun _ => "firewall rule did not verify"
      failed := "applyFirewallRule failed: " }
  | .removeFirewallRule =>
    { dryRun := fun ip => "remove firewall drop rule for " ++ ip
      missing := "ipAddress is required to remove an EdgeOS firewall rule"
      done := fun ip => "firewall drop rule removed for " ++ ip
      idle := fun ip => "no firewall drop rule found for " ++ ip ++ " (already clear)"
      failed := "removeFirewallRule failed: " }
  | .blockMAC =>
    { dryRun := fun mac => "add firewall drop rule for MAC " ++ mac
      missing := "macAddress is required"
      done := fun mac => mac ++ " blocked"
      idle := fun _ => "block rule did not verify"
      failed := "blockMAC failed: " }
  | .unblockMAC =>
    { dryRun := fun mac => "remove firewall drop rule for MAC " ++ mac
      missing := "macAddress is required"
      done := fun mac => mac ++ " unblocked"
      idle := fun mac => mac ++ " already unblocked (no matching rule)"
      failed := "unblockMAC failed: " }

theorem rules_set (config : EdgeConfig) (index : Nat) (kind : RuleKind) (address tag : String) :
    ∃ rule : VyattaRule, rule.description = some tag ∧
      ((setCommands index kind address tag).foldl EdgeConfig.exec config).rules =
        Function.update config.rules index (some rule) := by
  have hset : ∀ (config : EdgeConfig) setting value, (config.exec (.setRule index setting value)).rules =
      Function.update config.rules index
        (some (((config.rules index).getD ⟨none, none, none, none⟩).set value setting)) :=
    fun _ _ _ => rfl
  refine ⟨((((config.rules index).getD ⟨none, none, none, none⟩).set "drop" .action).set address
    (source kind)).set tag .description, rfl, ?_⟩
  simp only [setCommands, List.foldl_cons, List.foldl_nil, hset, Function.update_idem, Function.update_self,
    Option.getD_some]

def router : SlotRouter EdgeConfig VyattaRule where
  ruleIndexFor := ruleIndexFor
  put index kind address tag config := (setCommands index kind address tag).foldl EdgeConfig.exec config
  clear index config := (clearCommands index).foldl EdgeConfig.exec config
  ruleAt config := config.rules
  tag rule := rule.description
  verified rule := rule.action = some "drop"
  texts := texts
  fresh := ⟨[], fun _ => none⟩
  ruleAt_fresh _ := rfl
  put_own index kind address tag config := by
    obtain ⟨rule, htag, hrules⟩ := rules_set config index kind address tag
    exact ⟨rule, by rw [hrules, Function.update_self], htag⟩
  put_other index kind address tag config j hj := by
    obtain ⟨rule, -, hrules⟩ := rules_set config index kind address tag
    rw [hrules, Function.update_of_ne hj]
  clear_own index config := Function.update_self ..
  clear_other index config j hj := Function.update_of_ne hj ..

def showNameServers (fate : QueryFate) (config : EdgeConfig) : Except String String :=
  match fate with
  | .answered => .ok ("\n".intercalate config.nameServers)
  | .bare => .ok ""
  | .failed error => .error error

def changeDNS (fates : RequestFates) (ctx : Ctx) (dnsServer : Option String) (config : EdgeConfig) :
    ActionResult × EdgeConfig :=
  match dryRunResult ctx ("set system name-server to " ++ shown dnsServer) with
  | some dry => (dry, config)
  | none =>
    let set := (fates.write 0).perform ((dnsCommands dnsServer).foldl EdgeConfig.exec ·) config
    let result := match set.1 with
      | .error error => fails ("changeDNS failed: " ++ error)
      | .ok _ =>
        match showNameServers (fates.query 1) set.2 with
        | .error error => fails ("changeDNS failed: " ++ error)
        | .ok after =>
          if includes after.toList (shown dnsServer).toList then succeeds ("DNS server set to " ++ shown dnsServer)
          else fails "DNS change did not verify"
    (result, set.2)

def applyFirewallRule (fates : RequestFates) (ctx : Ctx) (target : RouterTarget)
    (config : EdgeConfig) : ActionResult × EdgeConfig :=
  router.operate .applyFirewallRule fates ctx target config

def removeFirewallRule (fates : RequestFates) (ctx : Ctx) (target : RouterTarget)
    (config : EdgeConfig) : ActionResult × EdgeConfig :=
  router.operate .removeFirewallRule fates ctx target config

def blockMAC (fates : RequestFates) (ctx : Ctx) (target : RouterTarget) (config : EdgeConfig) :
    ActionResult × EdgeConfig := router.operate .blockMAC fates ctx target config

def unblockMAC (fates : RequestFates) (ctx : Ctx) (target : RouterTarget) (config : EdgeConfig) :
    ActionResult × EdgeConfig := router.operate .unblockMAC fates ctx target config

def pauseDevice (fates : RequestFates) (ctx : Ctx) (target : RouterTarget) (config : EdgeConfig) :
    ActionResult × EdgeConfig := applyFirewallRule fates ctx target config

def resumeDevice (fates : RequestFates) (ctx : Ctx) (target : RouterTarget) (config : EdgeConfig) :
    ActionResult × EdgeConfig := removeFirewallRule fates ctx target config

/-- A router of this kind has no client to disconnect. -/
def disconnectClient (target : RouterTarget) (config : EdgeConfig) : ActionResult × EdgeConfig :=
  (fails ("EdgeRouter has no built-in wireless client table to disconnect " ++
    (truthy target.macAddress).getD "the device" ++
    " from — use blockMAC/applyFirewallRule for enforcement instead"), config)

/-- What a method does to the router; `testConnection` reads only. -/
def operate (fates : RequestFates) (method : Method) (ctx : Ctx) (target : RouterTarget)
    (config : EdgeConfig) : EdgeConfig :=
  match method with
  | .testConnection => config
  | .changeDNS => (changeDNS fates ctx target.dnsServer config).2
  | .pauseDevice => (pauseDevice fates ctx target config).2
  | .resumeDevice => (resumeDevice fates ctx target config).2
  | .disconnectClient => (disconnectClient target config).2
  | .applyFirewallRule => (applyFirewallRule fates ctx target config).2
  | .removeFirewallRule => (removeFirewallRule fates ctx target config).2
  | .blockMAC => (blockMAC fates ctx target config).2
  | .unblockMAC => (unblockMAC fates ctx target config).2

/-- The commands that a method for a rule sends for a target, if it comes to that. -/
def ruleCommands (method : RuleMethod) (target : RouterTarget) : Option (List VyattaCommand) :=
  (truthy (method.kind.address target)).map fun address =>
    let key := (truthy target.deviceId).getD address
    if method.sets then setCommands (ruleIndexFor key) method.kind address (method.kind.tag key)
    else clearCommands (ruleIndexFor key)

def commandsOf (method : Method) (target : RouterTarget) : Option (List VyattaCommand) :=
  match method with
  | .changeDNS => some (dnsCommands target.dnsServer)
  | .pauseDevice | .applyFirewallRule => ruleCommands .applyFirewallRule target
  | .resumeDevice | .removeFirewallRule => ruleCommands .removeFirewallRule target
  | .blockMAC => ruleCommands .blockMAC target
  | .unblockMAC => ruleCommands .unblockMAC target
  | .testConnection | .disconnectClient => none

theorem rule_runs_commands (method : RuleMethod) (fates : RequestFates) (ctx : Ctx)
    (target : RouterTarget) (config : EdgeConfig) :
    (router.operate method fates ctx target config).2 = config ∨
      ∃ commands, ruleCommands method target = some commands ∧
        (router.operate method fates ctx target config).2 = commands.foldl EdgeConfig.exec config := by
  cases haddress : truthy (method.kind.address target) with
  | none => exact Or.inl (router.operate_missing method fates ctx config haddress)
  | some address =>
    rcases router.operate_cases method fates ctx config haddress with h | ⟨hsets, h⟩ | ⟨hsets, h⟩
    · exact Or.inl h
    · refine Or.inr ⟨_, ?_, h⟩
      simp only [ruleCommands, haddress, hsets]
      rfl
    · refine Or.inr ⟨_, ?_, h⟩
      simp only [ruleCommands, haddress, hsets]
      rfl

/-- All that a method does to the router is to run its commands, or nothing. -/
theorem operate_runs_commands (fates : RequestFates) (method : Method) (ctx : Ctx)
    (target : RouterTarget) (config : EdgeConfig) :
    operate fates method ctx target config = config ∨
      ∃ commands, commandsOf method target = some commands ∧
        operate fates method ctx target config = commands.foldl EdgeConfig.exec config := by
  cases method with
  | testConnection => exact Or.inl rfl
  | disconnectClient => exact Or.inl rfl
  | changeDNS =>
    unfold operate changeDNS
    simp only
    split
    next => exact Or.inl rfl
    next =>
      have hperform := SlotRouter.perform_state (fates.write 0)
        ((dnsCommands target.dnsServer).foldl EdgeConfig.exec ·) config
      exact hperform.imp_right fun h => ⟨_, rfl, h⟩
  | pauseDevice => exact rule_runs_commands .applyFirewallRule fates ctx target config
  | resumeDevice => exact rule_runs_commands .removeFirewallRule fates ctx target config
  | applyFirewallRule => exact rule_runs_commands .applyFirewallRule fates ctx target config
  | removeFirewallRule => exact rule_runs_commands .removeFirewallRule fates ctx target config
  | blockMAC => exact rule_runs_commands .blockMAC fates ctx target config
  | unblockMAC => exact rule_runs_commands .unblockMAC fates ctx target config

end GuardTime.EdgeRouter
