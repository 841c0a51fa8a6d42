import GuardTime.SyncSignature
import Mathlib.Logic.Function.Basic

namespace GuardTime

inductive NftFamily where
  | ip
  | ip6
  | inet
  | other (name : String)
deriving DecidableEq

structure NftTableKey where
  family : NftFamily
  table : String
deriving DecidableEq

structure NftChainKey where
  table : NftTableKey
  chain : String
deriving DecidableEq

inductive NftMatch where
  | ipSaddr (address : String)
  | ip6Saddr (address : String)
  | etherSaddr (address : String)
  | ipDaddr (address : String)
  | dport (protocol : Protocol) (port : Nat)
  | other (expression : String)
deriving DecidableEq

inductive NftStatement where
  | drop
  | dnat (address : String)
  | other (statement : String)
deriving DecidableEq

structure NftRule where
  exprs : List NftMatch
  counter : Bool
  statement : NftStatement
  comment : Option String
deriving DecidableEq

structure NftChainHeader where
  type : String
  hook : String
  priority : Int
  policy : Option String
deriving DecidableEq

structure NftChain where
  header : Option NftChainHeader
  rules : List NftRule
deriving DecidableEq

/-- The tables of the kernel, each with its chains, so that no chain is without its table. -/
abbrev NftRuleset := NftTableKey → Option (String → Option NftChain)

def NftRuleset.chain (r : NftRuleset) (key : NftChainKey) : Option NftChain :=
  (r key.table).bind fun chains => chains key.chain

def NftRuleset.rulesAt (r : NftRuleset) (key : NftChainKey) : List NftRule :=
  ((r.chain key).map NftChain.rules).getD []

def NftRuleset.setChain (r : NftRuleset) (key : NftChainKey) (c : NftChain) : NftRuleset :=
  Function.update r key.table ((r key.table).map fun chains => Function.update chains key.chain (some c))

def NftRuleset.empty : NftRuleset := fun _ => none

inductive NftCommand where
  | addTable (table : NftTableKey)
  | addChain (key : NftChainKey) (header : NftChainHeader)
  | flushChain (key : NftChainKey)
  | addRule (key : NftChainKey) (rule : NftRule)
  | listRuleset
  | writeFile
  | loadFile (listing : NftRuleset)

/-- What a command that is not refused does; `load` is what reading a listing back does. -/
def NftCommand.apply (load : NftRuleset → NftRuleset → NftRuleset) :
    NftCommand → NftRuleset → Option NftRuleset
  | .addTable t, r => some (if (r t).isSome then r else Function.update r t (some fun _ => none))
  | .addChain key header, r =>
    match r key.table with
    | none => none
    | some chains =>
      if (chains key.chain).isSome then some r else
        some (Function.update r key.table
          (some (Function.update chains key.chain (some ⟨some header, []⟩))))
  | .flushChain key, r => (r.chain key).map fun c => r.setChain key { c with rules := [] }
  | .addRule key rule, r =>
    (r.chain key).map fun c => r.setChain key { c with rules := c.rules ++ [rule] }
  | .listRuleset, r => some r
  | .writeFile, r => some r
  | .loadFile listing, r => some (load listing r)

theorem NftRuleset.chain_setChain {r : NftRuleset} {key : NftChainKey} {c c' : NftChain}
    (h : r.chain key = some c) (key' : NftChainKey) :
    (r.setChain key c').chain key' = if key' = key then some c' else r.chain key' := by
  obtain ⟨chains, ht, hc⟩ := Option.bind_eq_some_iff.mp h
  obtain ⟨t, name⟩ := key
  obtain ⟨t', name'⟩ := key'
  by_cases htt : t' = t
  · subst t'
    by_cases hn : name' = name
    · subst name'
      simp [NftRuleset.setChain, NftRuleset.chain, ht]
    · simp [NftRuleset.setChain, NftRuleset.chain, ht, hn]
  · simp [NftRuleset.setChain, NftRuleset.chain, htt]

theorem NftRuleset.rulesAt_setChain {r : NftRuleset} {key : NftChainKey} {c c' : NftChain}
    (h : r.chain key = some c) (key' : NftChainKey) :
    (r.setChain key c').rulesAt key' = if key' = key then c'.rules else r.rulesAt key' := by
  unfold NftRuleset.rulesAt
  rw [NftRuleset.chain_setChain h]
  split
  next => rfl
  next => rfl

theorem NftRuleset.rulesAt_of_chain {r : NftRuleset} {key : NftChainKey} {c : NftChain}
    (h : r.chain key = some c) : r.rulesAt key = c.rules := by
  simp [NftRuleset.rulesAt, h]

/-- Creating tables and chains leaves the rules of every chain alone. -/
theorem NftRuleset.rulesAt_addTable (r : NftRuleset) (t : NftTableKey) (key : NftChainKey) :
    NftRuleset.rulesAt (if (r t).isSome then r else Function.update r t (some fun _ => none)) key =
      r.rulesAt key := by
  split
  next => rfl
  next h =>
    have hn : r t = none := by simpa using h
    by_cases hk : key.table = t
    · simp [NftRuleset.rulesAt, NftRuleset.chain, hk, hn]
    · simp [NftRuleset.rulesAt, NftRuleset.chain, hk]

theorem NftRuleset.rulesAt_addChain {r : NftRuleset} {key : NftChainKey}
    {chains : String → Option NftChain} (ht : r key.table = some chains)
    (hc : chains key.chain = none) (header : NftChainHeader) (key' : NftChainKey) :
    NftRuleset.rulesAt (Function.update r key.table
      (some (Function.update chains key.chain (some ⟨some header, []⟩)))) key' = r.rulesAt key' := by
  obtain ⟨t, name⟩ := key
  obtain ⟨t', name'⟩ := key'
  by_cases htt : t' = t
  · subst t'
    by_cases hn : name' = name
    · subst name'
      simp_all [NftRuleset.rulesAt, NftRuleset.chain]
    · simp_all [NftRuleset.rulesAt, NftRuleset.chain]
  · simp [NftRuleset.rulesAt, NftRuleset.chain, htt]

/-- The effect of a command on the rules of one chain. -/
def NftCommand.rulesEffect (loaded : List NftRule → List NftRule → List NftRule)
    (key : NftChainKey) : NftCommand → List NftRule → List NftRule
  | .flushChain k, v => if k = key then [] else v
  | .addRule k rule, v => if k = key then v ++ [rule] else v
  | .loadFile listing, v => loaded (NftRuleset.rulesAt listing key) v
  | _, v => v

theorem NftCommand.apply_rulesAt {load : NftRuleset → NftRuleset → NftRuleset}
    {loaded : List NftRule → List NftRule → List NftRule} {key : NftChainKey}
    (hl : ∀ listing r, (load listing r).rulesAt key = loaded (listing.rulesAt key) (r.rulesAt key))
    (c : NftCommand) (r r' : NftRuleset) (h : c.apply load r = some r') :
    r'.rulesAt key = c.rulesEffect loaded key (r.rulesAt key) := by
  cases c with
  | addTable t =>
    cases Option.some.inj h
    exact NftRuleset.rulesAt_addTable r t key
  | addChain k header =>
    simp only [NftCommand.apply] at h
    split at h
    next => simp at h
    next chains ht =>
      split at h
      next => cases Option.some.inj h; rfl
      next hc =>
        cases Option.some.inj h
        exact NftRuleset.rulesAt_addChain ht (by simpa using hc) header key
  | flushChain k =>
    obtain ⟨c, hc, he⟩ := Option.map_eq_some_iff.mp h
    rw [← he, NftRuleset.rulesAt_setChain hc]
    simp only [NftCommand.rulesEffect, eq_comm]
  | addRule k rule =>
    obtain ⟨c, hc, he⟩ := Option.map_eq_some_iff.mp h
    rw [← he, NftRuleset.rulesAt_setChain hc]
    by_cases hk : key = k
    · subst key
      simp [NftCommand.rulesEffect, NftRuleset.rulesAt_of_chain hc]
    · simp [NftCommand.rulesEffect, hk, Ne.symm hk]
  | listRuleset => cases Option.some.inj h; rfl
  | writeFile => cases Option.some.inj h; rfl
  | loadFile listing => cases Option.some.inj h; exact hl listing r

end GuardTime
