import GuardTime.CommandLines
import GuardTime.EdgeRouterPlugin

namespace GuardTime.EdgeRouter

open Router

def RuleSetting.words : RuleSetting → List Text
  | .action => ["action".toList]
  | .sourceAddress => ["source".toList, "address".toList]
  | .sourceMacAddress => ["source".toList, "mac-address".toList]
  | .description => ["description".toList]

/-- The words before a command's argument. -/
def VyattaCommand.leading : VyattaCommand → List Text
  | .setNameServer _ => ["set".toList, "system".toList, "name-server".toList]
  | .setRule index setting _ =>
    ["set".toList, "firewall".toList, "name".toList, "WAN_LOCAL".toList, "rule".toList] ++
      [(toString index).toList] ++ setting.words
  | .deleteRule _ =>
    ["delete".toList, "firewall".toList, "name".toList, "WAN_LOCAL".toList, "rule".toList]

def VyattaCommand.argument : VyattaCommand → String
  | .setNameServer server => server
  | .setRule _ _ value => value
  | .deleteRule index => toString index

def VyattaCommand.words (command : VyattaCommand) : List Text :=
  command.leading ++ [command.argument.toList]

def VyattaCommand.text : VyattaCommand → String
  | .setNameServer server => "set system name-server " ++ server
  | .setRule index setting value =>
    "set firewall name WAN_LOCAL rule " ++ toString index ++ " " ++ setting.path ++ " " ++ value
  | .deleteRule index => "delete firewall name WAN_LOCAL rule " ++ toString index

/-- The script that `runVyattaCommands` sends. -/
def script (commands : List VyattaCommand) : String :=
  "; ".intercalate (["configure"] ++ commands.map VyattaCommand.text ++ ["commit", "save", "exit"])

/-- The commands that the script is meant to consist of. -/
def session (commands : List VyattaCommand) : List (List Text) :=
  [["configure".toList]] ++ commands.map VyattaCommand.words ++
    [["commit".toList], ["save".toList], ["exit".toList]]

/-- What separates the commands of a script. -/
def endsCommand (c : Char) : Bool := c = ';' || c = '\n'

def isBlank (c : Char) : Bool := c = ' ' || c = '\t'

def readScript (script : String) : List (List Text) := readCommands endsCommand isBlank script.toList

def IsArgument (value : String) : Prop := IsWord endsCommand isBlank value.toList

/-- What the method puts into its script of the target can be arguments. -/
def Sendable (method : Method) (target : RouterTarget) : Prop :=
  let rule (kind : RuleKind) : Prop :=
    ∀ address, truthy (kind.address target) = some address →
      IsArgument address ∧ ∀ id, truthy target.deviceId = some id → IsArgument id
  match method with
  | .changeDNS => IsArgument (shown target.dnsServer)
  | .pauseDevice | .applyFirewallRule => rule .ip
  | .blockMAC => rule .mac
  | .resumeDevice | .removeFirewallRule | .unblockMAC | .testConnection | .disconnectClient => True

theorem path_words (setting : RuleSetting) :
    setting.words.flatMap (· ++ [' ']) = setting.path.toList ++ [' '] := by
  cases setting with
  | action => decide +kernel
  | sourceAddress => decide +kernel
  | sourceMacAddress => decide +kernel
  | description => decide +kernel

theorem nameServer_words : ["set".toList, "system".toList, "name-server".toList].flatMap (· ++ [' ']) =
    "set system name-server ".toList := by decide +kernel

theorem rule_words (verb : String) (hverb : verb = "set" ∨ verb = "delete") :
    [verb.toList, "firewall".toList, "name".toList, "WAN_LOCAL".toList, "rule".toList].flatMap
      (· ++ [' ']) = (verb ++ " firewall name WAN_LOCAL rule ").toList := by
  rcases hverb with rfl | rfl
  · decide +kernel
  · decide +kernel

theorem toList_text (command : VyattaCommand) :
    command.text.toList = List.intercalate [' '] command.words := by
  rw [VyattaCommand.words, intercalate_concat]
  cases command with
  | setNameServer server =>
    have htext : (VyattaCommand.setNameServer server).text = "set system name-server " ++ server := rfl
    have hleading : (VyattaCommand.setNameServer server).leading.flatMap (· ++ [' ']) =
        "set system name-server ".toList := nameServer_words
    rw [htext, hleading, String.toList_append, VyattaCommand.argument]
  | setRule index setting value =>
    have htext : (VyattaCommand.setRule index setting value).text =
        "set firewall name WAN_LOCAL rule " ++ toString index ++ " " ++ setting.path ++ " " ++ value := rfl
    have hleading : (VyattaCommand.setRule index setting value).leading =
        ["set".toList, "firewall".toList, "name".toList, "WAN_LOCAL".toList, "rule".toList] ++
          [(toString index).toList] ++ setting.words := rfl
    have hrule : ["set".toList, "firewall".toList, "name".toList, "WAN_LOCAL".toList,
        "rule".toList].flatMap (· ++ [' ']) = "set firewall name WAN_LOCAL rule ".toList :=
      rule_words "set" (Or.inl rfl)
    have hspace : " ".toList = [' '] := rfl
    rw [htext, hleading, List.flatMap_append, List.flatMap_append, hrule, path_words,
      List.flatMap_singleton, VyattaCommand.argument]
    simp only [String.toList_append, hspace, List.append_assoc]
  | deleteRule index =>
    have htext : (VyattaCommand.deleteRule index).text =
        "delete firewall name WAN_LOCAL rule " ++ toString index := rfl
    have hleading : (VyattaCommand.deleteRule index).leading.flatMap (· ++ [' ']) =
        "delete firewall name WAN_LOCAL rule ".toList := rule_words "delete" (Or.inr rfl)
    rw [htext, hleading, String.toList_append, VyattaCommand.argument]

theorem toList_script (commands : List VyattaCommand) :
    (script commands).toList = writeCommands (session commands) := by
  simp [script, session, writeCommands, String.toList_intercalate, Function.comp_def, toList_text]

theorem isArgument_digits (n : Nat) : IsArgument (toString n) := by
  refine ⟨?_, ?_⟩
  · have htext : (toString n).toList = Nat.toDigits 10 n := Nat.toList_repr
    rw [htext]
    exact Nat.toDigits_ne_nil
  · intro c hc
    have hdigit := toString_chars hc
    have hne : c ≠ ';' ∧ c ≠ '\n' ∧ c ≠ ' ' ∧ c ≠ '\t' := by
      refine ⟨?_, ?_, ?_, ?_⟩ <;> rintro rfl <;> exact absurd hdigit (by decide)
    simp [endsCommand, isBlank, hne]

theorem leading_isWord (command : VyattaCommand) :
    ∀ word ∈ command.leading, IsWord endsCommand isBlank word := by
  have hrule : ∀ word ∈ ["set".toList, "firewall".toList, "name".toList, "WAN_LOCAL".toList,
      "rule".toList], IsWord endsCommand isBlank word := words_of_all (by decide +kernel)
  intro word hword
  cases command with
  | setNameServer server =>
    have hall : ∀ word ∈ ["set".toList, "system".toList, "name-server".toList],
        IsWord endsCommand isBlank word := words_of_all (by decide +kernel)
    exact hall word hword
  | setRule index setting value =>
    rcases List.mem_append.mp hword with hword | hword
    · rcases List.mem_append.mp hword with hword | hword
      · exact hrule word hword
      · rw [List.mem_singleton.mp hword]
        exact isArgument_digits index
    · have hall : ∀ setting : RuleSetting, ∀ word ∈ setting.words,
          IsWord endsCommand isBlank word := by
        intro setting
        cases setting <;> exact words_of_all (by decide +kernel)
      exact hall setting word hword
  | deleteRule index =>
    have hall : ∀ word ∈ ["delete".toList, "firewall".toList, "name".toList, "WAN_LOCAL".toList,
        "rule".toList], IsWord endsCommand isBlank word := words_of_all (by decide +kernel)
    exact hall word hword

/-- The script is read as it is meant exactly when all arguments in it can be arguments. -/
theorem readScript_iff (commands : List VyattaCommand) :
    readScript (script commands) = session commands ↔
      ∀ command ∈ commands, IsArgument command.argument := by
  have hne : ∀ command ∈ session commands, command ≠ [] := by
    intro command hcommand
    simp only [session, List.mem_append, List.mem_map, List.mem_cons, List.not_mem_nil,
      or_false] at hcommand
    rcases hcommand with (rfl | ⟨command, -, rfl⟩) | rfl | rfl | rfl
    · simp
    · simp [VyattaCommand.words]
    · simp
    · simp
    · simp
  rw [readScript, toList_script, readCommands_write (by decide) (by decide) (by decide) hne]
  refine ⟨?_, ?_⟩
  · intro h command hcommand
    refine h command.words ?_ command.argument.toList ?_
    · exact List.mem_append_left _ (List.mem_append_right _ (List.mem_map_of_mem hcommand))
    · exact List.mem_append_right _ List.mem_cons_self
  · intro h words hwords word hword
    have hframe : ∀ word ∈ ["configure".toList, "commit".toList, "save".toList, "exit".toList],
        IsWord endsCommand isBlank word := words_of_all (by decide +kernel)
    simp only [session, List.mem_append, List.mem_map, List.mem_cons, List.not_mem_nil,
      or_false] at hwords
    rcases hwords with (rfl | ⟨command, hcommand, rfl⟩) | rfl | rfl | rfl
    · exact hframe word (by simp_all)
    · rcases List.mem_append.mp hword with hword | hword
      · exact leading_isWord command word hword
      · rw [List.mem_singleton.mp hword]
        exact h command hcommand
    · exact hframe word (by simp_all)
    · exact hframe word (by simp_all)
    · exact hframe word (by simp_all)

theorem isArgument_tag (kind : RuleKind) {key : String} : IsArgument (kind.tag key) ↔
    ∀ c ∈ key.toList, endsCommand c = false ∧ isBlank c = false := by
  obtain ⟨start, hstart, htag⟩ : ∃ start : String, IsArgument start ∧ kind.tag key = start ++ key := by
    cases kind with
    | ip => exact ⟨"guardtime:", isWord_iff.mp (by decide +kernel), rfl⟩
    | mac => exact ⟨"guardtime-mac:", isWord_iff.mp (by decide +kernel), rfl⟩
  rw [htag, IsArgument, String.toList_append]
  refine ⟨?_, ?_⟩
  · intro h c hc
    exact h.plain c (List.mem_append_right _ hc)
  · intro h
    refine ⟨by simp [hstart.ne], fun c hc => ?_⟩
    rcases List.mem_append.mp hc with hc | hc
    · exact hstart.plain c hc
    · exact h c hc

theorem setCommands_arguments (kind : RuleKind) (target : RouterTarget) (address : String)
    (index : Nat) :
    (∀ command ∈ setCommands index kind address (kind.tag ((truthy target.deviceId).getD address)),
      IsArgument command.argument) ↔
      IsArgument address ∧ ∀ id, truthy target.deviceId = some id → IsArgument id := by
  have hdrop : IsArgument "drop" := isWord_iff.mp (by decide +kernel)
  simp only [setCommands, List.forall_mem_cons, VyattaCommand.argument, isArgument_tag, hdrop,
    List.not_mem_nil, false_implies, implies_true, and_true, true_and]
  refine and_congr_right fun hargument => ?_
  cases hid : truthy target.deviceId with
  | none => simpa using hargument.plain
  | some id =>
    have hne : id.toList ≠ [] := fun h => truthy_ne hid (String.toList_eq_nil_iff.mp h)
    simp only [Option.getD_some, Option.some.injEq, forall_eq']
    exact ⟨fun h => ⟨hne, h⟩, fun h => h.plain⟩

theorem setScript_iff (method : RuleMethod) (hsets : method.sets = true) (target : RouterTarget) :
    (∀ commands, ruleCommands method target = some commands →
      readScript (script commands) = session commands) ↔
      ∀ address, truthy (method.kind.address target) = some address →
        IsArgument address ∧ ∀ id, truthy target.deviceId = some id → IsArgument id := by
  cases haddress : truthy (method.kind.address target) with
  | none => simp [ruleCommands, haddress]
  | some address =>
    simp only [ruleCommands, haddress, hsets, Option.map_some, if_true, Option.some.injEq, forall_eq',
      readScript_iff]
    exact setCommands_arguments method.kind target address _

theorem clearScript (method : RuleMethod) (hclears : method.sets = false) {target : RouterTarget}
    {commands : List VyattaCommand} (h : ruleCommands method target = some commands) :
    readScript (script commands) = session commands := by
  obtain ⟨address, -, rfl⟩ := Option.map_eq_some_iff.mp h
  rw [hclears, readScript_iff]
  intro command hcommand
  rw [List.mem_singleton.mp hcommand]
  exact isArgument_digits _

/-- Each method's script of each target is read as the commands it is meant to consist of exactly when
what it takes from the target can be arguments. -/
theorem scripts_read_iff (method : Method) (target : RouterTarget) :
    (∀ commands, commandsOf method target = some commands →
      readScript (script commands) = session commands) ↔ Sendable method target := by
  cases method with
  | testConnection => simp [commandsOf, Sendable]
  | disconnectClient => simp [commandsOf, Sendable]
  | changeDNS => simp [commandsOf, Sendable, readScript_iff, dnsCommands, VyattaCommand.argument]
  | pauseDevice => exact setScript_iff .applyFirewallRule rfl target
  | applyFirewallRule => exact setScript_iff .applyFirewallRule rfl target
  | blockMAC => exact setScript_iff .blockMAC rfl target
  | resumeDevice => exact iff_of_true (fun _ => clearScript .removeFirewallRule rfl) trivial
  | removeFirewallRule => exact iff_of_true (fun _ => clearScript .removeFirewallRule rfl) trivial
  | unblockMAC => exact iff_of_true (fun _ => clearScript .unblockMAC rfl) trivial

/-- A name server of the payload that brings a command of its own. -/
def injectingTarget : RouterTarget :=
  buildTarget (some "dev-1") ⟨none, none, none, some "1.1.1.1; delete system login", []⟩

theorem injectingTarget_deletes :
    commandsOf .changeDNS injectingTarget = some (dnsCommands injectingTarget.dnsServer) ∧
      ["delete".toList, "system".toList, "login".toList] ∈
        readScript (script (dnsCommands injectingTarget.dnsServer)) ∧
      readScript (script (dnsCommands injectingTarget.dnsServer)) ≠
        session (dnsCommands injectingTarget.dnsServer) := by
  refine ⟨rfl, ?_, ?_⟩
  · decide +kernel
  · decide +kernel

end GuardTime.EdgeRouter
