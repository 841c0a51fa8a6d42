import GuardTime.IspOwnership

namespace GuardTime

namespace Router

inductive Method where
  | testConnection
  | changeDNS
  | pauseDevice
  | resumeDevice
  | disconnectClient
  | applyFirewallRule
  | removeFirewallRule
  | blockMAC
  | unblockMAC
deriving DecidableEq

def Method.name : Method → String
  | .testConnection => "testConnection"
  | .changeDNS => "changeDNS"
  | .pauseDevice => "pauseDevice"
  | .resumeDevice => "resumeDevice"
  | .disconnectClient => "disconnectClient"
  | .applyFirewallRule => "applyFirewallRule"
  | .removeFirewallRule => "removeFirewallRule"
  | .blockMAC => "blockMAC"
  | .unblockMAC => "unblockMAC"

inductive Strategy where
  | DISCONNECT_CLIENT
  | PAUSE_DEVICE
  | APPLY_FIREWALL_RULE
  | BLOCK_MAC
  | CHANGE_DNS
  | other (name : String)
deriving DecidableEq

def STRATEGY_METHOD : Strategy → Option Method
  | .DISCONNECT_CLIENT => some .disconnectClient
  | .PAUSE_DEVICE => some .pauseDevice
  | .APPLY_FIREWALL_RULE => some .applyFirewallRule
  | .BLOCK_MAC => some .blockMAC
  | .CHANGE_DNS => some .changeDNS
  | .other _ => none

def STRATEGY_INVERSE_METHOD : Strategy → Option Method
  | .PAUSE_DEVICE => some .resumeDevice
  | .APPLY_FIREWALL_RULE => some .removeFirewallRule
  | .BLOCK_MAC => some .unblockMAC
  | _ => none

def UNBLOCK_STRATEGY_METHOD : Strategy → Option Method
  | .PAUSE_DEVICE => some .resumeDevice
  | .APPLY_FIREWALL_RULE => some .removeFirewallRule
  | .BLOCK_MAC => some .unblockMAC
  | _ => none

inductive CommandType where
  | DETECT
  | END_GAMING_SESSION
  | BLOCK_DEVICE
  | UNBLOCK_DEVICE
  | TEST_CONNECTION
  | CHANGE_DNS
  | PAUSE_DEVICE
  | RESUME_DEVICE
  | DISCONNECT_CLIENT
  | APPLY_FIREWALL_RULE
  | REMOVE_FIREWALL_RULE
  | BLOCK_MAC
  | UNBLOCK_MAC
  | other (name : String)
deriving DecidableEq

def COMMAND_METHOD : CommandType → Option Method
  | .TEST_CONNECTION => some .testConnection
  | .CHANGE_DNS => some .changeDNS
  | .PAUSE_DEVICE => some .pauseDevice
  | .RESUME_DEVICE => some .resumeDevice
  | .DISCONNECT_CLIENT => some .disconnectClient
  | .APPLY_FIREWALL_RULE => some .applyFirewallRule
  | .REMOVE_FIREWALL_RULE => some .removeFirewallRule
  | .BLOCK_MAC => some .blockMAC
  | .UNBLOCK_MAC => some .unblockMAC
  | _ => none

def CommandType.name : CommandType → String
  | .DETECT => "DETECT"
  | .END_GAMING_SESSION => "END_GAMING_SESSION"
  | .BLOCK_DEVICE => "BLOCK_DEVICE"
  | .UNBLOCK_DEVICE => "UNBLOCK_DEVICE"
  | .TEST_CONNECTION => "TEST_CONNECTION"
  | .CHANGE_DNS => "CHANGE_DNS"
  | .PAUSE_DEVICE => "PAUSE_DEVICE"
  | .RESUME_DEVICE => "RESUME_DEVICE"
  | .DISCONNECT_CLIENT => "DISCONNECT_CLIENT"
  | .APPLY_FIREWALL_RULE => "APPLY_FIREWALL_RULE"
  | .REMOVE_FIREWALL_RULE => "REMOVE_FIREWALL_RULE"
  | .BLOCK_MAC => "BLOCK_MAC"
  | .UNBLOCK_MAC => "UNBLOCK_MAC"
  | .other name => name

/-- A command's payload; one that is absent or does not parse is `{}`. -/
structure Payload where
  deviceId : Option String
  macAddress : Option String
  ipAddress : Option String
  dnsServer : Option String
  strategies : List Strategy

structure RouterCommand where
  id : String
  type : CommandType
  deviceId : Option String
  payload : Payload

structure Credentials where
  username : Option String
  password : Option String
  apiKey : Option String

structure RouterConnection where
  pluginId : Option String
  ipAddress : Option String
  credentials : Option Credentials

structure Ctx where
  ipAddress : Option String
  credentials : Option Credentials
  dryRun : Bool

structure RouterTarget where
  deviceId : Option String
  macAddress : Option String
  ipAddress : Option String
  dnsServer : Option String

structure ActionResult where
  success : Bool
  message : String
  detail : Option String
deriving DecidableEq

/-- A plugin's methods work on the router, a state `σ`; they may throw. -/
abbrev Plugin (σ : Type) := Method → Option (Ctx → RouterTarget → σ → Except String ActionResult × σ)

structure Detection where
  vendor : Option String
  model : Option String
  detectionMethod : Option String
  confidence : Nat
  ipAddress : Option String
  macOui : Option String
deriving DecidableEq

structure Attempt where
  strategy : Strategy
  result : ActionResult
  rolledBack : Option Bool
deriving DecidableEq

inductive CommandResult where
  | action (result : ActionResult)
  | detected (detection : Detection)
  | attempted (success : Bool) (strategyUsed : Option Strategy) (attempts : List Attempt)
deriving DecidableEq

def CommandResult.success : CommandResult → Bool
  | .action result => result.success
  | .detected _ => true
  | .attempted success _ _ => success

def CommandResult.strategyUsed : CommandResult → Option Strategy
  | .attempted _ strategyUsed _ => strategyUsed
  | _ => none

structure Environment (σ : Type) where
  loadPlugin : String → Plugin σ
  checkConnectivity : σ → Bool × σ
  discoverRouter : σ → Except String Detection × σ
  dryRun : Bool

section Executor

variable {σ : Type}

def buildTarget (deviceId : Option String) (payload : Payload) : RouterTarget where
  deviceId := deviceId
  macAddress := payload.macAddress
  ipAddress := payload.ipAddress
  dnsServer := payload.dnsServer

def executeSingleAction (plugin : Plugin σ) (ctx : Ctx) (methodName : Method)
    (target : RouterTarget) (s : σ) : Except String ActionResult × σ :=
  match plugin methodName with
  | none => (.ok ⟨false, "plugin has no " ++ methodName.name ++ " method", none⟩, s)
  | some method => method ctx target s

/-- The inverse that `runEndGamingSession` calls when connectivity is lost, and whether it
succeeded. -/
def rollBackStrategy (plugin : Plugin σ) (ctx : Ctx) (target : RouterTarget) (strategy : Strategy)
    (s : σ) : Bool × σ :=
  match STRATEGY_INVERSE_METHOD strategy with
  | none => (false, s)
  | some inverseMethod =>
    match executeSingleAction plugin ctx inverseMethod target s with
    | (.ok inverseResult, s) => (inverseResult.success, s)
    | (.error _, s) => (false, s)

def runEndGamingSession (env : Environment σ) (plugin : Plugin σ) (ctx : Ctx)
    (target : RouterTarget) : List Strategy → List Attempt → σ → Except String CommandResult × σ
  | [], attempts, s => (.ok (.attempted false none attempts), s)
  | strategy :: rest, attempts, s =>
    match STRATEGY_METHOD strategy with
    | none => runEndGamingSession env plugin ctx target rest attempts s
    | some methodName =>
      match executeSingleAction plugin ctx methodName target s with
      | (.error message, s) => (.error message, s)
      | (.ok result, s) =>
        if result.success then
          match env.checkConnectivity s with
          | (true, s) =>
            (.ok (.attempted true (some strategy) (attempts ++ [⟨strategy, result, none⟩])), s)
          | (false, s) =>
            let undo := rollBackStrategy plugin ctx target strategy s
            runEndGamingSession env plugin ctx target rest
              (attempts ++ [⟨strategy, result, some undo.1⟩]) undo.2
        else
          runEndGamingSession env plugin ctx target rest (attempts ++ [⟨strategy, result, none⟩]) s

def runMultiStrategyAction (plugin : Plugin σ) (ctx : Ctx) (methodMap : Strategy → Option Method)
    (target : RouterTarget) : List Strategy → List Attempt → σ → Except String CommandResult × σ
  | [], attempts, s => (.ok (.attempted false none attempts), s)
  | strategy :: rest, attempts, s =>
    match methodMap strategy with
    | none => runMultiStrategyAction plugin ctx methodMap target rest attempts s
    | some methodName =>
      match executeSingleAction plugin ctx methodName target s with
      | (.error message, s) => (.error message, s)
      | (.ok result, s) =>
        if result.success then
          (.ok (.attempted true (some strategy) (attempts ++ [⟨strategy, result, none⟩])), s)
        else
          runMultiStrategyAction plugin ctx methodMap target rest
            (attempts ++ [⟨strategy, result, none⟩]) s

def detect (env : Environment σ) (s : σ) : Except String CommandResult × σ :=
  match env.discoverRouter s with
  | (.ok detection, s) => (.ok (.detected detection), s)
  | (.error message, s) => (.error message, s)

def contextOf (env : Environment σ) (connection : RouterConnection) : Ctx :=
  ⟨connection.ipAddress, connection.credentials, env.dryRun⟩

/-- A command run by the plugin of the connection. -/
def executeWith (env : Environment σ) (plugin : Plugin σ) (ctx : Ctx) (command : RouterCommand)
    (s : σ) : Except String CommandResult × σ :=
  let target := buildTarget command.deviceId command.payload
  match command.type with
  | .END_GAMING_SESSION => runEndGamingSession env plugin ctx target command.payload.strategies [] s
  | .BLOCK_DEVICE =>
    runMultiStrategyAction plugin ctx STRATEGY_METHOD target command.payload.strategies [] s
  | .UNBLOCK_DEVICE =>
    runMultiStrategyAction plugin ctx UNBLOCK_STRATEGY_METHOD target command.payload.strategies [] s
  | type =>
    match COMMAND_METHOD type with
    | none => (.ok (.action ⟨false, "unsupported command type: " ++ type.name, none⟩), s)
    | some methodName =>
      match executeSingleAction plugin ctx methodName target s with
      | (.ok result, s) => (.ok (.action result), s)
      | (.error message, s) => (.error message, s)

def executeCommand (env : Environment σ) (routerConnection : Option RouterConnection)
    (command : RouterCommand) (s : σ) : Except String CommandResult × σ :=
  if command.type = .DETECT then detect env s
  else
    match routerConnection with
    | none => (.ok (.action ⟨false,
        "no router detected / no plugin configured for this gateway", none⟩), s)
    | some connection =>
      match truthy connection.pluginId with
      | none => (.ok (.action ⟨false,
          "no router detected / no plugin configured for this gateway", none⟩), s)
      | some pluginId =>
        executeWith env (env.loadPlugin pluginId) (contextOf env connection) command s

end Executor

end Router

def succeeds (message : String) : Router.ActionResult := ⟨true, message, none⟩

def fails (message : String) : Router.ActionResult := ⟨false, message, none⟩

end GuardTime
