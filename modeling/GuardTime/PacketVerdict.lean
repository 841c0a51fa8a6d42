import GuardTime.IptInterleaving

namespace GuardTime

inductive Net where
  | v4 (source destination : BitVec 32)
  | v6 (source destination : BitVec 128)

inductive Transport where
  | tcp (sourcePort destinationPort : BitVec 16)
  | udp (sourcePort destinationPort : BitVec 16)
  | other (protocol : BitVec 8)

structure Packet where
  sourceMac : BitVec 48
  net : Net
  transport : Transport

/-- How both tools read the texts of their rules: which addresses an address, a prefix or a MAC
denotes, and what a match the agent does not use accepts. -/
structure Reading where
  v4 : String → BitVec 32 → Bool
  v6 : String → BitVec 128 → Bool
  mac : String → BitVec 48 → Bool
  other : String → Packet → Bool

def Packet.isV6 (p : Packet) : Bool :=
  match p.net with
  | .v4 _ _ => false
  | .v6 _ _ => true

def goesTo (protocol : Protocol) (port : Nat) (p : Packet) : Bool :=
  match protocol, p.transport with
  | .tcp, .tcp _ destinationPort => destinationPort.toNat = port
  | .udp, .udp _ destinationPort => destinationPort.toNat = port
  | _, _ => false

namespace Reading

variable (reading : Reading)

def fromV4 (address : String) (p : Packet) : Bool :=
  match p.net with
  | .v4 source _ => reading.v4 address source
  | .v6 _ _ => false

def fromV6 (address : String) (p : Packet) : Bool :=
  match p.net with
  | .v4 _ _ => false
  | .v6 source _ => reading.v6 address source

def towardsV4 (address : String) (p : Packet) : Bool :=
  match p.net with
  | .v4 _ destination => reading.v4 address destination
  | .v6 _ _ => false

def towardsV6 (address : String) (p : Packet) : Bool :=
  match p.net with
  | .v4 _ _ => false
  | .v6 _ destination => reading.v6 address destination

end Reading

inductive Verdict where
  | accept
  | drop
deriving DecidableEq

def NftMatch.holds (reading : Reading) (p : Packet) : NftMatch → Bool
  | .ipSaddr address => reading.fromV4 address p
  | .ip6Saddr address => reading.fromV6 address p
  | .etherSaddr address => reading.mac address p.sourceMac
  | .ipDaddr address => reading.towardsV4 address p
  | .dport protocol port => goesTo protocol port p
  | .other expression => reading.other expression p

def NftRule.holds (reading : Reading) (p : Packet) (rule : NftRule) : Bool :=
  rule.exprs.all (NftMatch.holds reading p)

/-- The verdict of a base chain whose policy is accept. -/
def nftVerdict (reading : Reading) (p : Packet) : List NftRule → Verdict
  | [] => .accept
  | rule :: rules =>
    if rule.holds reading p && rule.statement = .drop then .drop else nftVerdict reading p rules

/-- Whether `inet guardtime block` drops a forwarded packet. -/
def nftDrops (reading : Reading) (r : NftRuleset) (p : Packet) : Bool :=
  nftVerdict reading p (r.rulesAt Nftables.FORWARD_CHAIN) = .drop

def IptMatch.holds (reading : Reading) (ipv6 : Bool) (p : Packet) : IptMatch → Bool
  | .source address => if ipv6 then reading.fromV6 address p else reading.fromV4 address p
  | .destination address => if ipv6 then reading.towardsV6 address p else reading.towardsV4 address p
  | .macSource address => reading.mac address p.sourceMac
  | .dport protocol port => goesTo protocol port p
  | .other option => reading.other option p

def IptRule.holds (reading : Reading) (ipv6 : Bool) (p : Packet) (rule : IptRule) : Bool :=
  rule.exprs.all (IptMatch.holds reading ipv6 p)

/-- Walks down a chain; `none` when the packet falls off its end. `enter` is what a jump does. -/
def walk (reading : Reading) (ipv6 : Bool) (enter : String → Option Verdict) (p : Packet) :
    List IptRule → Option Verdict
  | [] => none
  | rule :: rules =>
    if rule.holds reading ipv6 p then
      match rule.target with
      | .drop => some .drop
      | .jump chain => (enter chain).orElse fun _ => walk reading ipv6 enter p rules
      | .other target =>
        if target = "ACCEPT" then some .accept else walk reading ipv6 enter p rules
      | .dnat _ => walk reading ipv6 enter p rules
    else walk reading ipv6 enter p rules

/-- The verdict of a chain of the filter table, jumps nested up to `depth`. -/
def chainVerdict (reading : Reading) (k : IptKernel) (ipv6 : Bool) (p : Packet) :
    Nat → String → Option Verdict
  | 0, _ => none
  | depth + 1, chain =>
    walk reading ipv6 (chainVerdict reading k ipv6 p depth) p (k.rulesAt ⟨ipv6, .filter, chain⟩)

/-- Whether the filter table of the packet's family drops it when it is forwarded. -/
def iptDrops (reading : Reading) (k : IptKernel) (depth : Nat) (p : Packet) : Bool :=
  chainVerdict reading k p.isV6 p depth "FORWARD" = some .drop

theorem nftVerdict_drop_iff {reading : Reading} {p : Packet} {rules : List NftRule}
    (h : ∀ rule ∈ rules, rule.statement = .drop) :
    nftVerdict reading p rules = .drop ↔ ∃ rule ∈ rules, rule.holds reading p = true := by
  induction rules with
  | nil => simp [nftVerdict]
  | cons rule rules ih =>
    have hrule := h rule (by simp)
    have ih := ih fun rule hr => h rule (List.mem_cons_of_mem _ hr)
    cases hholds : rule.holds reading p with
    | true => simp [nftVerdict, hholds, hrule]
    | false => simpa [nftVerdict, hholds] using ih

theorem walk_drops {reading : Reading} {ipv6 : Bool} {enter : String → Option Verdict} {p : Packet}
    {rules : List IptRule} (h : ∀ rule ∈ rules, rule.target = .drop) :
    walk reading ipv6 enter p rules =
      if rules.any (IptRule.holds reading ipv6 p) then some .drop else none := by
  induction rules with
  | nil => rfl
  | cons rule rules ih =>
    have hrule := h rule (by simp)
    have ih := ih fun rule hr => h rule (List.mem_cons_of_mem _ hr)
    cases hholds : rule.holds reading ipv6 p with
    | true => simp [walk, hholds, hrule]
    | false => simpa [walk, hholds] using ih

/-- A chain of unconditional jumps into dropping chains drops what one of them drops. -/
theorem walk_jumps {reading : Reading} {ipv6 : Bool} {enter : String → Option Verdict} {p : Packet}
    {chains : List String} (h : ∀ chain ∈ chains, enter chain = some .drop ∨ enter chain = none) :
    walk reading ipv6 enter p (chains.map fun chain => ⟨[], none, .jump chain⟩) = some .drop ↔
      ∃ chain ∈ chains, enter chain = some .drop := by
  induction chains with
  | nil => simp [walk]
  | cons chain chains ih =>
    have ih := ih fun chain hc => h chain (List.mem_cons_of_mem _ hc)
    rcases h chain (by simp) with hd | hn
    · simp [walk, IptRule.holds, hd]
    · simpa [walk, IptRule.holds, hn] using ih

end GuardTime
