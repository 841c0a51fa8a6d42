import GuardTime.NftRollback

namespace GuardTime

inductive IptTable where
  | filter
  | nat
  | other (name : String)
deriving DecidableEq

inductive IptMatch where
  | source (address : String)
  | destination (address : String)
  | macSource (address : String)
  | dport (protocol : Protocol) (port : Nat)
  | other (option : String)
deriving DecidableEq

inductive IptTarget where
  | drop
  | jump (chain : String)
  | dnat (destination : String)
  | other (target : String)
deriving DecidableEq

structure IptRule where
  exprs : List IptMatch
  comment : Option String
  target : IptTarget
deriving DecidableEq

abbrev IptChains := String → Option (List IptRule)

/-- The tables of one address family; a table is absent until something uses it. -/
abbrev IptTables := IptTable → Option IptChains

/-- What `iptables` (`false`) and `ip6tables` (`true`) work on. -/
abbrev IptKernel := Bool → IptTables

structure IptChainKey where
  ipv6 : Bool
  table : IptTable
  chain : String
deriving DecidableEq

/-- The chains a table has from the start. -/
def builtinChains : IptTable → IptChains
  | .filter => fun chain => if chain ∈ ["INPUT", "FORWARD", "OUTPUT"] then some [] else none
  | .nat => fun chain =>
    if chain ∈ ["PREROUTING", "INPUT", "OUTPUT", "POSTROUTING"] then some [] else none
  | .other _ => fun _ => none

def IptKernel.chains (k : IptKernel) (ipv6 : Bool) (table : IptTable) : IptChains :=
  (k ipv6 table).getD (builtinChains table)

def IptKernel.chain (k : IptKernel) (key : IptChainKey) : Option (List IptRule) :=
  k.chains key.ipv6 key.table key.chain

def IptKernel.rulesAt (k : IptKernel) (key : IptChainKey) : List IptRule := (k.chain key).getD []

def IptKernel.setChain (k : IptKernel) (key : IptChainKey) (rules : List IptRule) : IptKernel :=
  Function.update k key.ipv6 (Function.update (k key.ipv6) key.table
    (some (Function.update (k.chains key.ipv6 key.table) key.chain (some rules))))

def IptKernel.empty : IptKernel := fun _ _ => none

inductive IptCommand where
  | newChain (key : IptChainKey)
  | flush (key : IptChainKey)
  | append (key : IptChainKey) (rule : IptRule)
  | insertFirst (key : IptChainKey) (rule : IptRule)
  | check (key : IptChainKey) (rule : IptRule)
  | save (ipv6 : Bool)
  | writeFile
  | restore (ipv6 : Bool) (saved : IptTables)

def IptKernel.hasTarget (k : IptKernel) (key : IptChainKey) (rule : IptRule) : Bool :=
  match rule.target with
  | .jump chain => (k.chain { key with chain }).isSome
  | _ => true

/-- What a command that is not refused does. A restore replaces the tables its input names. -/
def IptCommand.apply : IptCommand → IptKernel → Option IptKernel
  | .newChain key, k => if (k.chain key).isSome then none else some (k.setChain key [])
  | .flush key, k => (k.chain key).map fun _ => k.setChain key []
  | .append key rule, k =>
    if k.hasTarget key rule then (k.chain key).map fun rules => k.setChain key (rules ++ [rule])
    else none
  | .insertFirst key rule, k =>
    if k.hasTarget key rule then (k.chain key).map fun rules => k.setChain key (rule :: rules)
    else none
  | .check key rule, k => if rule ∈ k.rulesAt key then some k else none
  | .save _, k => some k
  | .writeFile, k => some k
  | .restore ipv6 saved, k =>
    some (Function.update k ipv6 fun table => (saved table).orElse fun _ => k ipv6 table)

theorem IptKernel.chain_setChain (k : IptKernel) (key : IptChainKey) (rules : List IptRule)
    (key' : IptChainKey) :
    (k.setChain key rules).chain key' = if key' = key then some rules else k.chain key' := by
  obtain ⟨ipv6, table, name⟩ := key
  obtain ⟨ipv6', table', name'⟩ := key'
  by_cases hi : ipv6' = ipv6
  · subst ipv6'
    by_cases ht : table' = table
    · subst table'
      by_cases hn : name' = name
      · subst name'; simp [IptKernel.setChain, IptKernel.chain, IptKernel.chains]
      · simp [IptKernel.setChain, IptKernel.chain, IptKernel.chains, hn]
    · simp [IptKernel.setChain, IptKernel.chain, IptKernel.chains, ht]
  · simp [IptKernel.setChain, IptKernel.chain, IptKernel.chains, hi]

theorem IptKernel.rulesAt_setChain (k : IptKernel) (key : IptChainKey) (rules : List IptRule)
    (key' : IptChainKey) :
    (k.setChain key rules).rulesAt key' = if key' = key then rules else k.rulesAt key' := by
  unfold IptKernel.rulesAt
  rw [IptKernel.chain_setChain]
  split
  next => rfl
  next => rfl

theorem IptKernel.rulesAt_of_chain {k : IptKernel} {key : IptChainKey} {rules : List IptRule}
    (h : k.chain key = some rules) : k.rulesAt key = rules := by
  simp [IptKernel.rulesAt, h]

/-- The effect of a command on the rules of one chain. -/
def IptCommand.rulesEffect (key : IptChainKey) : IptCommand → List IptRule → List IptRule
  | .flush k, v => if k = key then [] else v
  | .append k rule, v => if k = key then v ++ [rule] else v
  | .insertFirst k rule, v => if k = key then rule :: v else v
  | .restore ipv6 saved, v =>
    if ipv6 = key.ipv6 then
      match saved key.table with
      | some chains => (chains key.chain).getD []
      | none => v
    else v
  | _, v => v

theorem IptKernel.rulesAt_edited {k k' : IptKernel} {key key' : IptChainKey}
    {edit : List IptRule → List IptRule}
    (h : ((k.chain key').map fun rules => k.setChain key' (edit rules)) = some k') :
    k'.rulesAt key = if key' = key then edit (k.rulesAt key) else k.rulesAt key := by
  obtain ⟨rules, hr, rfl⟩ := Option.map_eq_some_iff.mp h
  rw [IptKernel.rulesAt_setChain]
  by_cases he : key = key'
  · subst key'
    simp [IptKernel.rulesAt_of_chain hr]
  · simp [he, Ne.symm he]

theorem IptCommand.apply_rulesAt {key : IptChainKey} (c : IptCommand) (k k' : IptKernel)
    (h : c.apply k = some k') : k'.rulesAt key = c.rulesEffect key (k.rulesAt key) := by
  cases c with
  | newChain key' =>
    simp only [IptCommand.apply] at h
    split at h
    next => simp at h
    next hn =>
      cases Option.some.inj h
      rw [IptKernel.rulesAt_setChain]
      split
      next he =>
        subst key'
        have hnone : k.chain key = none := by simpa using hn
        simp [IptCommand.rulesEffect, IptKernel.rulesAt, hnone]
      next => rfl
  | flush key' =>
    obtain ⟨rules, hr, rfl⟩ := Option.map_eq_some_iff.mp h
    simp only [IptKernel.rulesAt_setChain, IptCommand.rulesEffect, eq_comm]
  | append key' rule =>
    simp only [IptCommand.apply] at h
    split at h
    next => exact IptKernel.rulesAt_edited h
    next => simp at h
  | insertFirst key' rule =>
    simp only [IptCommand.apply] at h
    split at h
    next => exact IptKernel.rulesAt_edited h
    next => simp at h
  | check key' rule =>
    simp only [IptCommand.apply] at h
    split at h
    next => cases Option.some.inj h; rfl
    next => simp at h
  | save ipv6 => cases Option.some.inj h; rfl
  | writeFile => cases Option.some.inj h; rfl
  | restore ipv6 saved =>
    cases Option.some.inj h
    obtain ⟨ipv6', table, name⟩ := key
    by_cases hi : ipv6' = ipv6
    · subst ipv6'
      cases hs : saved table <;>
        simp [IptKernel.rulesAt, IptKernel.chain, IptKernel.chains, IptCommand.rulesEffect, hs]
    · simp [IptKernel.rulesAt, IptKernel.chain, IptKernel.chains, IptCommand.rulesEffect, hi, Ne.symm hi]

theorem IptCommand.apply_keeps_chain {c : IptCommand} {k k' : IptKernel} {key : IptChainKey}
    (hc : ∀ ipv6 saved, c ≠ .restore ipv6 saved) (h : c.apply k = some k')
    (hk : (k.chain key).isSome) : (k'.chain key).isSome := by
  have hset : ∀ key' rules, ((k.setChain key' rules).chain key).isSome := by
    intro key' rules
    rw [IptKernel.chain_setChain]
    split
    next => rfl
    next => exact hk
  cases c with
  | newChain key' =>
    simp only [IptCommand.apply] at h
    split at h
    next => simp at h
    next => cases Option.some.inj h; exact hset _ _
  | flush key' =>
    obtain ⟨rules, _, rfl⟩ := Option.map_eq_some_iff.mp h
    exact hset _ _
  | append key' rule =>
    simp only [IptCommand.apply] at h
    split at h
    next => obtain ⟨rules, _, rfl⟩ := Option.map_eq_some_iff.mp h; exact hset _ _
    next => simp at h
  | insertFirst key' rule =>
    simp only [IptCommand.apply] at h
    split at h
    next => obtain ⟨rules, _, rfl⟩ := Option.map_eq_some_iff.mp h; exact hset _ _
    next => simp at h
  | check key' rule =>
    simp only [IptCommand.apply] at h
    split at h
    next => cases Option.some.inj h; exact hk
    next => simp at h
  | save ipv6 => cases Option.some.inj h; exact hk
  | writeFile => cases Option.some.inj h; exact hk
  | restore ipv6 saved => exact absurd rfl (hc ipv6 saved)

/-- Writing the tables of `saved` over those of `k` brings back the chains of the tables in use
in `saved`. -/
theorem IptKernel.rulesAt_restore (saved k : IptKernel) (key : IptChainKey) :
    IptKernel.rulesAt (Function.update k key.ipv6 fun table =>
      (saved key.ipv6 table).orElse fun _ => k key.ipv6 table) key =
        if (saved key.ipv6 key.table).isSome then saved.rulesAt key else k.rulesAt key := by
  rw [IptCommand.apply_rulesAt (.restore key.ipv6 (saved key.ipv6)) k _ rfl]
  cases hs : saved key.ipv6 key.table with
  | none => simp [IptCommand.rulesEffect, hs]
  | some chains =>
    simp [IptCommand.rulesEffect, hs, IptKernel.rulesAt, IptKernel.chain, IptKernel.chains]

end GuardTime
