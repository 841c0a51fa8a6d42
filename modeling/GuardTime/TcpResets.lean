import GuardTime.ConnectionKiller
import Mathlib.Data.Nat.Bitwise

namespace GuardTime

namespace TcpReset

def FIN : Nat := 0x01
def SYN : Nat := 0x02
def ACK : Nat := 0x10

/-- A sniffed TCP segment. `raw` is what `bytes(pkt[Raw])` gives where the packet has that layer:
how much of the payload it is lies with the dissection. -/
structure Segment where
  isV6 : Bool
  src : String
  dst : String
  sport : Nat
  dport : Nat
  seq : Nat
  ack : Nat
  flags : Nat
  payload : List UInt8
  raw : Option (List UInt8)
  seq_lt : seq < 2 ^ 32
  /-- A header of 20 bytes and the payload share a packet, whose length has 32 bits at most. -/
  payload_lt : payload.length + 20 < 2 ^ 32

structure Reset where
  isV6 : Bool
  src : String
  dst : String
  sport : Nat
  dport : Nat
  seq : Nat
deriving DecidableEq

def hasFlag (flags flag : Nat) : Bool := flags &&& flag ≠ 0

/-- `flow_keys`: every flow in both directions. -/
def flowKeys (flows : List Flow) : List (String × Nat × String × Nat) :=
  flows.flatMap fun flow =>
    [(flow.src, flow.sport, flow.dst, flow.dport), (flow.dst, flow.dport, flow.src, flow.sport)]

def tcpLen (pkt : Segment) : Nat :=
  match pkt.raw with
  | some raw => raw.length
  | none => if pkt.flags &&& 0x03 ≠ 0 then 1 else 0

/-- The packets that `send_rst_pair` builds. -/
def sendRstPair (flows : List Flow) (pkt : Segment) : List Reset :=
  if flowKeys flows ≠ [] ∧ (pkt.src, pkt.sport, pkt.dst, pkt.dport) ∉ flowKeys flows then []
  else
    let nextSeq := pkt.seq + tcpLen pkt
    let back := if hasFlag pkt.flags ACK then
      [⟨pkt.isV6, pkt.dst, pkt.src, pkt.dport, pkt.sport, pkt.ack⟩] else []
    ⟨pkt.isV6, pkt.src, pkt.dst, pkt.sport, pkt.dport, nextSeq⟩ :: back

/-- The numbers a segment takes of the sequence space: one for each byte, for SYN and for FIN. -/
def sequenceLength (pkt : Segment) : Nat :=
  pkt.payload.length + (hasFlag pkt.flags SYN).toNat + (hasFlag pkt.flags FIN).toNat

/-- No flow of the list has the ports and addresses of the segment. -/
def FilteredOut (flows : List Flow) (pkt : Segment) : Prop :=
  flows ≠ [] ∧ ∀ flow ∈ flows,
    (pkt.src, pkt.sport, pkt.dst, pkt.dport) ≠ (flow.src, flow.sport, flow.dst, flow.dport) ∧
    (pkt.src, pkt.sport, pkt.dst, pkt.dport) ≠ (flow.dst, flow.dport, flow.src, flow.sport)

/-- The segment is all data, shown whole, or it has no data and not both of SYN and FIN. -/
def PlainLength (pkt : Segment) : Prop :=
  match pkt.raw with
  | some raw =>
    raw.length = pkt.payload.length + (hasFlag pkt.flags SYN).toNat + (hasFlag pkt.flags FIN).toNat
  | none => pkt.payload = [] ∧ ¬(hasFlag pkt.flags SYN ∧ hasFlag pkt.flags FIN)

variable {flows : List Flow} {pkt : Segment}

theorem flowKeys_eq_nil : flowKeys flows = [] ↔ flows = [] := by
  cases flows with
  | nil => exact iff_of_true rfl rfl
  | cons flow flows => simp [flowKeys]

theorem flowKeys_filtered :
    (flowKeys flows ≠ [] ∧ (pkt.src, pkt.sport, pkt.dst, pkt.dport) ∉ flowKeys flows) ↔
      FilteredOut flows pkt := by
  rw [Ne, flowKeys_eq_nil]
  simp only [FilteredOut, flowKeys, List.mem_flatMap, List.mem_cons, List.not_mem_nil, or_false,
    not_exists, not_and, not_or, ne_eq]

theorem hasFlag_syn (flags : Nat) : hasFlag flags SYN = true ↔ flags / 2 % 2 = 1 := by
  have hand : flags &&& 2 = (flags.testBit 1).toNat * 2 := Nat.and_two_pow flags 1
  rw [hasFlag, SYN, hand, Nat.testBit_eq_decide_div_mod_eq]
  by_cases h : flags / 2 % 2 = 1
  · simp [h]
  · simp [h]

theorem hasFlag_fin (flags : Nat) : hasFlag flags FIN = true ↔ flags % 2 = 1 := by
  have hmod : flags &&& 1 = flags % 2 := Nat.and_one_is_mod flags
  simp only [hasFlag, FIN, hmod, decide_eq_true_eq]
  omega

theorem low_flags (flags : Nat) :
    flags &&& 0x03 ≠ 0 ↔ hasFlag flags SYN = true ∨ hasFlag flags FIN = true := by
  have hmod : flags &&& 3 = flags % 4 := Nat.and_two_pow_sub_one_eq_mod flags 2
  rw [hasFlag_syn, hasFlag_fin, hmod]
  omega

/-- `tcp_len` is the length in sequence space just where the segment is plain. -/
theorem tcpLen_eq_iff : tcpLen pkt = sequenceLength pkt ↔ PlainLength pkt := by
  unfold tcpLen PlainLength sequenceLength
  cases pkt.raw with
  | some raw => exact Iff.rfl
  | none =>
    simp only [low_flags]
    cases hasFlag pkt.flags SYN <;> cases hasFlag pkt.flags FIN <;> simp [@eq_comm _ 0]

theorem sequenceLength_lt (pkt : Segment) : sequenceLength pkt < 2 ^ 32 := by
  have hpayload := pkt.payload_lt
  have hsyn := Bool.toNat_le (hasFlag pkt.flags SYN)
  have hfin := Bool.toNat_le (hasFlag pkt.flags FIN)
  unfold sequenceLength
  omega

/-- A sum that is not reduced is right where it needs no reduction. -/
theorem eq_mod_iff {seq read taken : Nat} (htaken : taken < 2 ^ 32) (hseq : seq < 2 ^ 32) :
    seq + read = (seq + taken) % 2 ^ 32 ↔ read = taken ∧ seq + taken < 2 ^ 32 := by
  omega

/-- The first reset has the sequence number behind the segment just where no reset is built, or the
segment is plain and ends before the sequence space does. -/
theorem first_reset_seq (flows : List Flow) (pkt : Segment) :
    (∀ reset ∈ (sendRstPair flows pkt).head?,
      reset.seq = (pkt.seq + pkt.payload.length + (hasFlag pkt.flags SYN).toNat +
        (hasFlag pkt.flags FIN).toNat) % 2 ^ 32 ∧ reset.seq < 2 ^ 32) ↔
    FilteredOut flows pkt ∨ PlainLength pkt ∧ pkt.seq + pkt.payload.length +
      (hasFlag pkt.flags SYN).toNat + (hasFlag pkt.flags FIN).toNat < 2 ^ 32 := by
  have hsum : pkt.seq + pkt.payload.length + (hasFlag pkt.flags SYN).toNat +
      (hasFlag pkt.flags FIN).toNat = pkt.seq + sequenceLength pkt := by
    unfold sequenceLength
    omega
  rw [hsum, ← tcpLen_eq_iff, ← flowKeys_filtered]
  unfold sendRstPair
  split
  next hfiltered => simp [hfiltered]
  next hkept =>
    have hexact : pkt.seq + tcpLen pkt = _ ↔ _ := eq_mod_iff (sequenceLength_lt pkt) pkt.seq_lt
    have hfits : pkt.seq + tcpLen pkt = (pkt.seq + sequenceLength pkt) % 2 ^ 32 →
        pkt.seq + tcpLen pkt < 2 ^ 32 := by
      intro heq
      omega
    simp only [List.head?_cons, Option.mem_some_iff, forall_eq', hkept, false_or]
    rw [← hexact]
    exact ⟨fun h => h.1, fun h => ⟨h, hfits h⟩⟩

/-- A last segment of five bytes is answered one number too low, and a SYN at the end of the
sequence space with a number that no header holds. -/
theorem first_reset_seq_wrong :
    (∃ pkt : Segment, hasFlag pkt.flags FIN = true ∧ hasFlag pkt.flags SYN = false ∧
      pkt.raw = some pkt.payload ∧ (pkt.seq + pkt.payload.length + 1) % 2 ^ 32 = 1006 ∧
      (sendRstPair [] pkt).head?.map Reset.seq = some 1005) ∧
    ∃ pkt : Segment, hasFlag pkt.flags SYN = true ∧ hasFlag pkt.flags FIN = false ∧
      pkt.payload = [] ∧ pkt.raw = none ∧ (pkt.seq + 1) % 2 ^ 32 = 0 ∧
      (sendRstPair [] pkt).head?.map Reset.seq = some (2 ^ 32) := by
  refine ⟨⟨⟨false, "192.168.1.50", "93.184.216.34", 40000, 443, 1000, 7, 0x19, [1, 2, 3, 4, 5],
    some [1, 2, 3, 4, 5], by decide, by decide⟩, ?_⟩, ⟨⟨false, "192.168.1.50", "93.184.216.34",
    40000, 443, 2 ^ 32 - 1, 0, 0x02, [], none, by decide, by decide⟩, ?_⟩⟩
  · exact ⟨by decide, by decide, rfl, by decide, by decide +kernel⟩
  · exact ⟨by decide, by decide, rfl, rfl, by decide, by decide +kernel⟩

end TcpReset

end GuardTime
