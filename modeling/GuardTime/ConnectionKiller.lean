import GuardTime.ManagementGuard
import GuardTime.OrderedMap

namespace GuardTime

structure Flow where
  src : String
  dst : String
  sport : Nat
  dport : Nat
deriving DecidableEq

/-- What `conntrack` and the reset injection are called for. -/
inductive KillCommand where
  | listTcpBySource (ipAddress : String)
  | listTcpByDestination (ipAddress : String)
  | deleteBySource (ipAddress : String)
  | deleteByDestination (ipAddress : String)
  | injectResets (deviceIp : String) (flows : List Flow)
deriving DecidableEq

/-- The address a command acts against; a listing acts against none. -/
def KillCommand.targets : KillCommand → List String
  | .listTcpBySource _ => []
  | .listTcpByDestination _ => []
  | .deleteBySource ip => [ip]
  | .deleteByDestination ip => [ip]
  | .injectResets ip _ => [ip]

namespace ConnectionKiller

structure PreviousState where
  action : Action
  ipAddress : Option String
  ipv6Address : Option String
  macAddress : Option String
deriving DecidableEq

abbrev PreviousStates := String → Option PreviousState

def stateOf (target : Target) : PreviousState :=
  ⟨target.action, target.ipAddress, target.ipv6Address, target.macAddress⟩

def shouldRun (previousStates : PreviousStates) (target : Target) : Bool :=
  target.action = .BLOCK &&
  ((truthy target.ipAddress).isSome || (truthy target.ipv6Address).isSome) &&
  match previousStates target.deviceId with
  | none => true
  | some previous =>
    previous.action ≠ .BLOCK ||
    previous.ipAddress ≠ target.ipAddress ||
    previous.ipv6Address ≠ target.ipv6Address ||
    previous.macAddress ≠ target.macAddress

/-- The calls the killer makes on `conntrack` and `tcpReset`. -/
inductive KillerCall where
  | listTcpConnections (ipAddress : String)
  | conntrackKill (ipAddress : String)
  | tcpResetKill (ipAddress : String) (flows : List Flow)
deriving DecidableEq

/-- How the calls for one address end: what the listing gives or that it rejects, and which attempts
succeed. -/
structure AddressFate where
  flows : Option (List Flow)
  conntrackKill : Nat → Bool
  tcpResetKill : Bool

/-- The loop of `retry` from `attempt` on, with `left` attempts left: how many were made, and whether
the last of them succeeded. -/
def retry (succeeds : Nat → Bool) (attempt : Nat) : Nat → Nat × Bool
  | 0 => (0, false)
  | left + 1 =>
    if succeeds attempt then (1, true)
    else
      let later := retry succeeds (attempt + 1) left
      (later.1 + 1, later.2)

/-- `_killAddress`: its calls, and whether it fulfils. -/
def killAddressCalls (fate : AddressFate) (ipAddress : String) : List KillerCall × Bool :=
  let flows := fate.flows.getD []
  let kill := retry fate.conntrackKill 1 3
  (.listTcpConnections ipAddress :: List.replicate kill.1 (.conntrackKill ipAddress) ++
    (if kill.2 then [.tcpResetKill ipAddress flows] else []), kill.2 && fate.tcpResetKill)

def addressesOf (target : Target) : List String :=
  (truthy target.ipAddress).toList ++ (truthy target.ipv6Address).toList

abbrev StateMap := OrderedMap String PreviousState

/-- `_rememberStates`: sets the state of every target, then deletes the devices not seen. -/
def rememberStateMap (states : StateMap) (targets : List Target) : StateMap :=
  let remembered := targets.foldl (fun m target => m.set target.deviceId (stateOf target)) states
  (remembered.entries.map Prod.fst).foldl
    (fun m deviceId => if deviceId ∉ targets.map Target.deviceId then m.erase deviceId else m)
    remembered

/-- `sync`, with what the kill of each target is: the kills run side by side, in the order of the
targets here. -/
def syncTargets {β : Type} (kill : Nat → Target → β) (guard : ManagementGuard) (states : StateMap)
    (targets : List Target) : List β × StateMap :=
  let candidates := targets.filter (shouldRun states.get)
  let safe := guard.filterTargets candidates
  (safe.mapIdx kill, rememberStateMap states targets)

def killDevice (config : Config) (ipAddress : String) : List KillCommand :=
  if config.enableConntrackKill then [.deleteBySource ipAddress, .deleteByDestination ipAddress] else []

def resetDevice (config : Config) (ipAddress : String) (flows : List Flow) : List KillCommand :=
  if config.enableTcpRst then [.injectResets ipAddress flows] else []

/-- What `conntrack` and `tcpReset` issue for a call. -/
def KillerCall.commands (config : Config) : KillerCall → List KillCommand
  | .listTcpConnections ip => [.listTcpBySource ip, .listTcpByDestination ip]
  | .conntrackKill ip => killDevice config ip
  | .tcpResetKill ip flows => resetDevice config ip flows

/-- The controllers behind the calls ignore failures of their commands: no call rejects. -/
def AddressFate.settled (flows : List Flow) : AddressFate := ⟨some flows, fun _ => true, true⟩

def killAddress (config : Config) (flows : String → List Flow) (ipAddress : String) :
    List KillCommand :=
  (killAddressCalls (.settled (flows ipAddress)) ipAddress).1.flatMap (KillerCall.commands config)

def killOne (config : Config) (flows : String → List Flow) (target : Target) : List KillCommand :=
  (addressesOf target).flatMap (killAddress config flows)

/-- The commands of `sync`, and what it remembers. In dry run nothing is issued. -/
def sync (config : Config) (guard : ManagementGuard) (flows : String → List Flow)
    (previousStates : StateMap) (targets : List Target) : List KillCommand × StateMap :=
  let kills := syncTargets (fun _ target => killOne config flows target) guard previousStates targets
  (if config.dryRun then [] else kills.1.flatten, kills.2)

theorem sync_commands (config : Config) (guard : ManagementGuard) (flows : String → List Flow)
    (states : StateMap) (targets : List Target) :
    (sync config guard flows states targets).1 = if config.dryRun then [] else
      (guard.filterTargets (targets.filter (shouldRun states.get))).flatMap (killOne config flows) := by
  have hmap : ∀ safe : List Target,
      safe.mapIdx (fun _ target => killOne config flows target) = safe.map (killOne config flows) :=
    fun safe => List.ext_getElem? fun i => by simp
  rw [sync, syncTargets, hmap, List.flatMap_def]

/-- A transition to BLOCK of the target kills connections at the address. -/
def Kills (config : Config) (target : Target) (address : String) : Prop :=
  target.action = .BLOCK ∧ (config.enableConntrackKill = true ∨ config.enableTcpRst = true) ∧
    address ∈ addressesOf target

theorem killAddress_targets {config : Config} {flows : String → List Flow} {ip address : String} :
    address ∈ (killAddress config flows ip).flatMap KillCommand.targets ↔
      (config.enableConntrackKill = true ∨ config.enableTcpRst = true) ∧ address = ip := by
  cases hk : config.enableConntrackKill <;> cases hr : config.enableTcpRst <;>
    simp [killAddress, killAddressCalls, AddressFate.settled, retry, KillerCall.commands, killDevice,
      resetDevice, KillCommand.targets, hk, hr]

theorem killOne_targets {config : Config} {flows : String → List Flow} {target : Target}
    {address : String} :
    address ∈ (killOne config flows target).flatMap KillCommand.targets ↔
      (config.enableConntrackKill = true ∨ config.enableTcpRst = true) ∧
        address ∈ addressesOf target := by
  rw [killOne, List.flatMap_assoc, List.mem_flatMap]
  simp only [killAddress_targets]
  refine ⟨?_, ?_⟩
  · intro h
    obtain ⟨ip, hip, hon, rfl⟩ := h
    exact ⟨hon, hip⟩
  · intro h
    obtain ⟨hon, hin⟩ := h
    exact ⟨address, hin, hon, rfl⟩

theorem addressesOf_isSome {target : Target} {address : String} (h : address ∈ addressesOf target) :
    ((truthy target.ipAddress).isSome || (truthy target.ipv6Address).isSome) = true := by
  simp only [addressesOf, List.mem_append, Option.mem_toList] at h
  rcases h with h | h
  · simp [h]
  · simp [h]

theorem sync_targets {config : Config} {guard : ManagementGuard} {flows : String → List Flow}
    {previousStates : StateMap} {targets : List Target} {address : String}
    (h : address ∈ (sync config guard flows previousStates targets).1.flatMap KillCommand.targets) :
    config.dryRun = false ∧ ∃ target ∈ targets, Kills config target address := by
  rw [sync_commands] at h
  cases hd : config.dryRun with
  | true => simp [hd] at h
  | false =>
    refine ⟨rfl, ?_⟩
    simp only [hd, Bool.false_eq_true, if_false] at h
    rw [List.flatMap_assoc, List.mem_flatMap] at h
    simp only [killOne_targets] at h
    obtain ⟨target, ht, hon, ha⟩ := h
    obtain ⟨hin, hrun⟩ := List.mem_filter.mp (List.mem_filter.mp ht).1
    simp only [shouldRun, Bool.and_eq_true, decide_eq_true_eq] at hrun
    exact ⟨target, hin, hrun.1.1, hon, ha⟩

theorem sync_targets_first {config : Config} (hd : config.dryRun = false) {guard : ManagementGuard}
    {flows : String → List Flow} {targets : List Target} {target : Target}
    (ht : target ∈ guard.filterTargets targets) {address : String}
    (hk : Kills config target address) :
    address ∈ (sync config guard flows .empty (guard.filterTargets targets)).1.flatMap
      KillCommand.targets := by
  obtain ⟨hblock, hon, ha⟩ := hk
  simp only [sync_commands, hd, Bool.false_eq_true, if_false, guard.filterTargets_filter]
  rw [List.flatMap_assoc, List.mem_flatMap]
  simp only [killOne_targets]
  refine ⟨target, List.mem_filter.mpr ⟨ht, ?_⟩, hon, ha⟩
  simp [shouldRun, hblock, addressesOf_isSome ha]

end ConnectionKiller

end GuardTime
