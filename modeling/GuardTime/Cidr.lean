import GuardTime.BitOperators
import GuardTime.NumberText

namespace GuardTime

/-- `Number.isInteger(n) && n >= 0 && n <= 255`. -/
def isOctet (n : ℚ) : Bool := n.den = 1 && 0 ≤ n && n ≤ 255

def ipToInt (ipAddress : Text) : Option Nat :=
  match (ipAddress.splitOn '.').map numberOf with
  | [some a, some b, some c, some d] =>
    if isOctet a && isOctet b && isOctet c && isOctet d then
      some (a.num.toNat * 2 ^ 24 + b.num.toNat * 2 ^ 16 + c.num.toNat * 2 ^ 8 + d.num.toNat)
    else none
  | _ => none

def ipInCidr (ipAddress cidr : Text) : Bool :=
  match cidr.splitOn '/' with
  | rangeIp :: prefixStr :: _ =>
    match parseInt prefixStr with
    | none => false
    | some width =>
      if width < 0 ∨ 32 < width then false
      else
        match ipToInt ipAddress, ipToInt rangeIp with
        | some ipInt, some rangeInt =>
          if width = 0 then true
          else
            let mask := shiftRightUnsigned (shiftLeft 0xffffffff (32 - width)) 0
            bitAnd ipInt mask = bitAnd rangeInt mask
        | _, _ => false
  | _ => false

/-- An octet in decimal digits. -/
structure Octet where
  text : Text
  nonempty : text ≠ []
  digits : ∀ c ∈ text, c.isDigit
  small : Nat.ofDigitChars 10 text 0 ≤ 255

def Octet.value (o : Octet) : Nat := Nat.ofDigitChars 10 o.text 0

structure Quad where
  first : Octet
  second : Octet
  third : Octet
  fourth : Octet

def Quad.parts (q : Quad) : List Text := [q.first.text, q.second.text, q.third.text, q.fourth.text]

def Quad.text (q : Quad) : Text := List.intercalate ['.'] q.parts

def Quad.address (q : Quad) : BitVec 32 :=
  BitVec.ofNat 8 q.first.value ++ BitVec.ofNat 8 q.second.value ++ BitVec.ofNat 8 q.third.value ++
    BitVec.ofNat 8 q.fourth.value

/-- A part of an address that is converted to an octet. -/
def ReadsOctet (part : Text) (n : Nat) : Prop := numberOf part = some (n : ℚ) ∧ n ≤ 255

theorem isOctet_iff {q : ℚ} : isOctet q = true ↔ ∃ n : Nat, q = n ∧ n ≤ 255 := by
  simp only [isOctet, Bool.and_eq_true, decide_eq_true_eq]
  refine ⟨?_, ?_⟩
  · rintro ⟨⟨hden, hlow⟩, hhigh⟩
    obtain ⟨n, hn⟩ := Int.eq_ofNat_of_zero_le (Rat.num_nonneg.mpr hlow)
    have hq : q = (n : ℚ) := by
      rw [← Rat.coe_int_num_of_den_eq_one hden, hn]
      rfl
    refine ⟨n, hq, ?_⟩
    rw [hq] at hhigh
    exact_mod_cast hhigh
  · rintro ⟨n, rfl, hn⟩
    exact ⟨⟨Rat.den_natCast n, Nat.cast_nonneg n⟩, by exact_mod_cast hn⟩

/-- The parts that an address is read from, and what it comes to. -/
theorem ipToInt_eq_some {text : Text} {v : Nat} : ipToInt text = some v ↔
    ∃ p₁ p₂ p₃ p₄ a b c d, text.splitOn '.' = [p₁, p₂, p₃, p₄] ∧ ReadsOctet p₁ a ∧
      ReadsOctet p₂ b ∧ ReadsOctet p₃ c ∧ ReadsOctet p₄ d ∧
        v = a * 2 ^ 24 + b * 2 ^ 16 + c * 2 ^ 8 + d := by
  unfold ipToInt
  refine ⟨?_, ?_⟩
  · intro h
    split at h
    next qa qb qc qd hparts =>
      split at h
      next hoctets =>
        simp only [Bool.and_eq_true, isOctet_iff] at hoctets
        obtain ⟨⟨⟨⟨a, rfl, ha⟩, ⟨b, rfl, hb⟩⟩, ⟨c, rfl, hc⟩⟩, ⟨d, rfl, hd⟩⟩ := hoctets
        simp only [List.map_eq_cons_iff, List.map_eq_nil_iff] at hparts
        obtain ⟨p₁, -, hsplit, h₁, p₂, -, rfl, h₂, p₃, -, rfl, h₃, p₄, -, rfl, h₄, rfl⟩ := hparts
        exact ⟨p₁, p₂, p₃, p₄, a, b, c, d, hsplit, ⟨h₁, ha⟩, ⟨h₂, hb⟩, ⟨h₃, hc⟩, ⟨h₄, hd⟩,
          (Option.some.inj h).symm⟩
      next => cases h
    next => cases h
  · rintro ⟨p₁, p₂, p₃, p₄, a, b, c, d, hparts, ⟨h₁, ha⟩, ⟨h₂, hb⟩, ⟨h₃, hc⟩, ⟨h₄, hd⟩, rfl⟩
    have hoctet : ∀ {n : Nat}, n ≤ 255 → isOctet (n : ℚ) = true := fun hn =>
      isOctet_iff.mpr ⟨_, rfl, hn⟩
    simp only [hparts, List.map_cons, List.map_nil, h₁, h₂, h₃, h₄, hoctet ha, hoctet hb, hoctet hc,
      hoctet hd, Bool.and_self, if_true]
    rfl

theorem toNat_append_eq {m n : Nat} (x : BitVec m) (y : BitVec n) :
    (x ++ y).toNat = x.toNat * 2 ^ n + y.toNat := by
  rw [BitVec.toNat_append, ← Nat.shiftLeft_add_eq_or_of_lt y.isLt, Nat.shiftLeft_eq]

theorem Quad.address_toNat (q : Quad) : q.address.toNat =
    q.first.value * 2 ^ 24 + q.second.value * 2 ^ 16 + q.third.value * 2 ^ 8 + q.fourth.value := by
  have hbyte : ∀ o : Octet, (BitVec.ofNat 8 o.value).toNat = o.value := fun o =>
    Nat.mod_eq_of_lt (Nat.lt_succ_of_le o.small)
  simp only [Quad.address, toNat_append_eq, hbyte]
  omega

def Octet.print (byte : BitVec 8) : Octet where
  text := Nat.toDigits 10 byte.toNat
  nonempty := Nat.toDigits_ne_nil
  digits := fun _ hc => Nat.isDigit_of_mem_toDigits (by decide) (by decide) hc
  small := by
    rw [Nat.ofDigitChars_toDigits (by decide) (by decide)]
    exact Nat.le_of_lt_succ byte.isLt

def Quad.print (address : BitVec 32) : Quad :=
  ⟨.print (address.extractLsb' 24 8), .print (address.extractLsb' 16 8),
    .print (address.extractLsb' 8 8), .print (address.extractLsb' 0 8)⟩

theorem Quad.address_print (address : BitVec 32) : (Quad.print address).address = address := by
  have hvalue : ∀ byte : BitVec 8, (Octet.print byte).value = byte.toNat := fun byte =>
    Nat.ofDigitChars_toDigits (by decide) (by decide)
  have hlt := address.isLt
  refine BitVec.eq_of_toNat_eq ?_
  rw [Quad.address_toNat]
  simp only [Quad.print, hvalue, BitVec.extractLsb'_toNat, Nat.shiftRight_eq_div_pow]
  omega

theorem Octet.reads (o : Octet) : ReadsOctet o.text o.value := by
  have hsmall : Nat.ofDigitChars 10 o.text 0 < 2 ^ 53 := lt_of_le_of_lt o.small (by decide)
  exact ⟨by rw [numberOf_digits o.nonempty o.digits, nearestDouble_natCast hsmall]; rfl, o.small⟩

theorem Octet.notMem (o : Octet) {c : Char} (hc : c.isDigit = false) : c ∉ o.text := fun hmem =>
  digit_ne (o.digits c hmem) hc rfl

theorem Quad.notMem (q : Quad) {c : Char} (hc : c.isDigit = false) :
    ∀ part ∈ q.parts, c ∉ part := by
  simp only [Quad.parts, List.forall_mem_cons, q.first.notMem hc, q.second.notMem hc,
    q.third.notMem hc, q.fourth.notMem hc, List.not_mem_nil, false_imp_iff, implies_true,
    not_false_eq_true, and_self]

theorem Quad.splitOn_text (q : Quad) : q.text.splitOn '.' = q.parts :=
  List.splitOn_intercalate '.' (q.notMem rfl) (List.cons_ne_nil _ _)

theorem ipToInt_text (q : Quad) : ipToInt q.text = some q.address.toNat :=
  ipToInt_eq_some.mpr ⟨_, _, _, _, _, _, _, _, q.splitOn_text, q.first.reads, q.second.reads,
    q.third.reads, q.fourth.reads, q.address_toNat⟩

theorem Quad.text_slash (q : Quad) : '/' ∉ q.text := by
  intro hmem
  rcases mem_intercalate hmem with hdot | ⟨part, hpart, hslash⟩
  · cases List.mem_singleton.mp hdot
  · exact q.notMem rfl part hpart hslash

theorem toBits_mask {p : Nat} (hpos : 0 < p) (hp : p ≤ 32) :
    toBits (shiftRightUnsigned (shiftLeft 0xffffffff (32 - p)) 0) =
      BitVec.allOnes 32 <<< (32 - p) := by
  have hcount : (32 : ℤ) - p = ((32 - p : Nat) : ℤ) := by omega
  rw [toBits_shiftRightUnsigned_zero, hcount, toBits_shiftLeft _ (by omega)]
  rfl

/-- An address is in a range exactly if their leading bits are the same. -/
theorem ipInCidr_leading_bits (a b : Quad) {p : Nat} (hp : p ≤ 32) :
    ipInCidr a.text (b.text ++ '/' :: (toString p).toList) = true ↔
      ∀ i < p, a.address.getMsbD i = b.address.getMsbD i := by
  have hsplit : (b.text ++ '/' :: (toString p).toList).splitOn '/' = [b.text, (toString p).toList] := by
    rw [List.splitOn_append_cons_self_of_not_mem b.text_slash,
      List.splitOn_eq_singleton (toString_char p rfl)]
  have hwidth : ¬((p : ℤ) < 0 ∨ 32 < (p : ℤ)) := by omega
  simp only [ipInCidr, hsplit, parseInt_toString, hwidth, if_false, ipToInt_text]
  rcases Nat.eq_zero_or_pos p with rfl | hpos
  · simp
  · have hne : (p : ℤ) ≠ 0 := by omega
    rw [if_neg hne, decide_eq_true_iff, bitAnd_eq_iff, toBits_natCast, toBits_natCast,
      toBits_mask hpos hp, and_mask_eq_iff hp]

/-- Both addresses are above the signed range. -/
theorem ipInCidr_leading_bits_high : ipInCidr (Quad.print 0xa29fc032).text
    ((Quad.print 0xa29fc000).text ++ '/' :: (toString 24).toList) = true := by
  refine (ipInCidr_leading_bits (Quad.print 0xa29fc032) (Quad.print 0xa29fc000) (by decide)).mpr ?_
  rw [Quad.address_print, Quad.address_print]
  decide

end GuardTime
