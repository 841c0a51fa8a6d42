import GuardTime.Cidr

namespace GuardTime

/-- A sign that an octet may have: only zero may be negative. -/
def OctetSign (sign : Text) (n : Nat) : Prop := sign = [] ∨ sign = ['+'] ∨ sign = ['-'] ∧ n = 0

/-- The texts that `Number` reads as an octet. -/
inductive OctetLiteral : Text → Nat → Prop where
  | empty : OctetLiteral [] 0
  | based {text digits : Text} {base n : Nat} (htext : basedLiteral text = some (base, digits))
      (hn : numeral base digits = some n) (hsmall : n ≤ 255) : OctetLiteral text n
  | integer {sign digits : Text} {n : Nat} (hsign : OctetSign sign n)
      (hn : decimalNumeral digits = some n) (hsmall : n ≤ 255) : OctetLiteral (sign ++ digits) n
  | scientific {sign digits tail : Text} {m n : Nat} {e : ℤ} (hsign : OctetSign sign n)
      (hm : decimalNumeral digits = some m) (htail : tail ≠ []) (he : exponentPart tail = some e)
      (hn : nearestDouble (m * 10 ^ e) = n) (hsmall : n ≤ 255) :
      OctetLiteral (sign ++ (digits ++ tail)) n

/-- One to three digits. -/
def PlainOctet (part : Text) : Prop := part ≠ [] ∧ part.length ≤ 3 ∧ ∀ c ∈ part, c.isDigit

def Quad.Short (q : Quad) : Prop := ∀ part ∈ q.parts, part.length ≤ 3

variable {text part digits sign tail : Text} {m n : Nat} {e : ℤ}

theorem signed_append (hne : digits ≠ []) (hall : ∀ c ∈ digits, c.isDigit)
    (hsign : OctetSign sign n) (tail : Text) :
    signed (sign ++ (digits ++ tail)) = (decide (sign = ['-']), digits ++ tail) := by
  rcases hsign with rfl | rfl | ⟨rfl, -⟩
  · exact signed_digits hne hall tail
  · rfl
  · rfl

theorem basedLiteral_decimal (hall : ∀ c ∈ digits, c.isDigit) (hne : digits ≠ [])
    (hsign : OctetSign sign n) (he : exponentPart tail = some e) :
    basedLiteral (sign ++ (digits ++ tail)) = none := by
  refine basedLiteral_none ?_
  rintro c rest heq
  rcases hsign with rfl | rfl | ⟨rfl, -⟩
  · obtain ⟨d, digits, rfl⟩ := List.exists_cons_of_ne_nil hne
    have hrest : digits ++ tail = c :: rest := (List.cons.inj heq).2
    cases digits with
    | nil =>
      rcases exponentPart_head he with rfl | ⟨c', rest', rfl, hc⟩
      · cases hrest
      · rw [← (List.cons.inj hrest).1]
        exact Or.inr hc
    | cons d' digits =>
      rw [← (List.cons.inj hrest).1]
      exact Or.inl (hall d' (List.mem_cons_of_mem d List.mem_cons_self))
  · cases (List.cons.inj heq).1
  · cases (List.cons.inj heq).1

theorem numberOf_literal (h : DotEnv.trim part = sign ++ (digits ++ tail))
    (hm : decimalNumeral digits = some m) (he : exponentPart tail = some e) (hsign : OctetSign sign n)
    (hn : nearestDouble (m * 10 ^ e) = n) : numberOf part = some (n : ℚ) := by
  obtain ⟨hne, hall, rfl⟩ := decimalNumeral_eq_some.mp hm
  have hhead : ∀ c ∈ tail.head?, c.isDigit = false := by
    rcases exponentPart_head he with rfl | ⟨c, rest, rfl, hc⟩
    · nofun
    · rintro d ⟨⟩
      rcases hc with rfl | rfl
      · rfl
      · rfl
  obtain ⟨htake, hdrop⟩ := takeWhile_digits hall hhead
  have hnonempty : DotEnv.trim part ≠ [] := by
    rw [h]
    exact List.append_ne_nil_of_right_ne_nil sign (List.append_ne_nil_of_left_ne_nil hne tail)
  rw [numberOf, if_neg hnonempty, h, basedLiteral_decimal hall hne hsign he]
  simp only [decimalLiteral, signed_append hne hall hsign, htake, hdrop, if_neg hne, he,
    Option.map_some, hn, decide_eq_true_eq]
  rcases hsign with rfl | rfl | ⟨rfl, rfl⟩
  · simp
  · simp
  · simp

theorem nearestDouble_byte (h : n ≤ 255) : nearestDouble m = n ↔ m = n :=
  nearestDouble_eq_natCast (k := 8) (by decide) (Nat.lt_succ_of_le h)

theorem octetLiteral_of_decimal (h : decimalLiteral text = some (n : ℚ)) (hsmall : n ≤ 255) :
    OctetLiteral text n := by
  obtain ⟨sign, digits, tail, m, e, rfl, hm, he, hvalue⟩ := decimalLiteral_eq_some h
  have hnonneg : 0 ≤ nearestDouble (m * 10 ^ e) :=
    nearestDouble_nonneg (mul_nonneg m.cast_nonneg (zpow_nonneg (by norm_num) e))
  have hsign : OctetSign sign n ∧ nearestDouble (m * 10 ^ e) = n := by
    rcases hvalue with ⟨rfl, hq⟩ | ⟨hsign, hq⟩
    · have hzero : (n : ℚ) = 0 := by
        have hn : (0 : ℚ) ≤ n := n.cast_nonneg
        linarith
      exact ⟨Or.inr (Or.inr ⟨rfl, by exact_mod_cast hzero⟩), by linarith⟩
    · exact ⟨hsign.imp_right Or.inl, hq.symm⟩
  by_cases htail : tail = []
  · rw [htail] at he ⊢
    obtain rfl : 0 = e := Option.some.inj he
    rw [zpow_zero, mul_one, nearestDouble_byte hsmall] at hsign
    rw [List.append_nil]
    exact OctetLiteral.integer hsign.1 (hsign.2 ▸ hm) hsmall
  · exact OctetLiteral.scientific hsign.1 hm htail he hsign.2 hsmall

theorem readsOctet_iff : ReadsOctet part n ↔ OctetLiteral (DotEnv.trim part) n := by
  refine ⟨?_, ?_⟩
  · rintro ⟨hnumber, hsmall⟩
    rw [numberOf] at hnumber
    split at hnumber
    next hnil =>
      rw [Option.some.injEq] at hnumber
      have hn : n = 0 := by exact_mod_cast hnumber.symm
      rw [hnil, hn]
      exact OctetLiteral.empty
    next =>
      split at hnumber
      next base digits hbase =>
        obtain ⟨m, hm, hround⟩ := Option.map_eq_some_iff.mp hnumber
        rw [nearestDouble_byte hsmall] at hround
        exact OctetLiteral.based hbase (hround ▸ hm) hsmall
      next => exact octetLiteral_of_decimal hnumber hsmall
  · intro h
    generalize htext : DotEnv.trim part = text at h
    cases h with
    | empty => exact ⟨by rw [numberOf, if_pos htext, Nat.cast_zero], Nat.zero_le 255⟩
    | @based _ digits base _ hbase hm hsmall =>
      have hne : DotEnv.trim part ≠ [] := by
        rw [htext]
        rintro rfl
        cases hbase
      refine ⟨?_, hsmall⟩
      rw [numberOf, if_neg hne, htext, hbase]
      simp only [hm, Option.map_some, (nearestDouble_byte hsmall).mpr rfl]
    | @integer sign digits _ hsign hm hsmall =>
      rw [← List.append_nil digits] at htext
      refine ⟨numberOf_literal htext hm rfl hsign ?_, hsmall⟩
      rw [zpow_zero, mul_one, (nearestDouble_byte hsmall).mpr rfl]
    | scientific hsign hm _ he hn hsmall => exact ⟨numberOf_literal htext hm he hsign hn, hsmall⟩

theorem octet_of_reads (hpart : PlainOctet part) (h : ReadsOctet part n) :
    ∃ o : Octet, o.text = part ∧ o.value = n := by
  obtain ⟨hne, hlength, hall⟩ := hpart
  have hvalue : Nat.ofDigitChars 10 part 0 = n := by
    have hnumber := h.1
    rw [numberOf_digits hne hall, Option.some.injEq] at hnumber
    exact (nearestDouble_byte h.2).mp hnumber
  exact ⟨⟨part, hne, hall, hvalue ▸ h.2⟩, rfl, hvalue⟩

/-- Addresses are what the grammar of four short octets says, and nothing else is in any range. -/
def FollowsGrammar (s : Text) : Prop :=
  (∀ v, ipToInt s = some v ↔ ∃ q : Quad, q.Short ∧ q.text = s ∧ v = q.address.toNat) ∧
    ((¬∃ q : Quad, q.Short ∧ q.text = s) → ∀ cidr, ipInCidr s cidr = false ∧
      ((cidr.splitOn '/').head? = some s → ∀ ipAddress, ipInCidr ipAddress cidr = false))

theorem ipInCidr_of_none {s : Text} (h : ipToInt s = none) (cidr : Text) :
    ipInCidr s cidr = false ∧
      ((cidr.splitOn '/').head? = some s → ∀ ipAddress, ipInCidr ipAddress cidr = false) := by
  refine ⟨?_, ?_⟩
  · unfold ipInCidr
    rw [h]
    split
    next =>
      split
      next => rfl
      next => exact ite_self false
    next => rfl
  · intro hrange ipAddress
    unfold ipInCidr
    split
    next rangeIp widthText rest hsplit =>
      rw [hsplit, List.head?_cons, Option.some.injEq] at hrange
      rw [hrange, h]
      split
      next => rfl
      next =>
        cases ipToInt ipAddress with
        | none => exact ite_self false
        | some v => exact ite_self false
    next => rfl

theorem quad_of_ipToInt {s : Text} {v : Nat} (h : ipToInt s = some v)
    (hplain : ∀ part ∈ s.splitOn '.', PlainOctet part) :
    ∃ q : Quad, q.Short ∧ q.text = s ∧ v = q.address.toNat := by
  obtain ⟨p₁, p₂, p₃, p₄, a, b, c, d, hsplit, h₁, h₂, h₃, h₄, rfl⟩ := ipToInt_eq_some.mp h
  rw [hsplit] at hplain
  have hshort : ∀ part ∈ [p₁, p₂, p₃, p₄], part.length ≤ 3 := fun part hpart =>
    (hplain part hpart).2.1
  simp only [List.forall_mem_cons] at hplain
  obtain ⟨hp₁, hp₂, hp₃, hp₄, -⟩ := hplain
  obtain ⟨o₁, rfl, rfl⟩ := octet_of_reads hp₁ h₁
  obtain ⟨o₂, rfl, rfl⟩ := octet_of_reads hp₂ h₂
  obtain ⟨o₃, rfl, rfl⟩ := octet_of_reads hp₃ h₃
  obtain ⟨o₄, rfl, rfl⟩ := octet_of_reads hp₄ h₄
  let q : Quad := ⟨o₁, o₂, o₃, o₄⟩
  have htext : q.text = s := by
    have hjoin : ['.'].intercalate (s.splitOn '.') = s := List.intercalate_splitOn '.'
    rw [hsplit] at hjoin
    exact hjoin
  exact ⟨q, hshort, htext, q.address_toNat.symm⟩

theorem Quad.plain {q : Quad} (h : q.Short) : ∀ part ∈ q.parts, PlainOctet part := by
  have hoctet : ∀ o : Octet, o.text.length ≤ 3 → PlainOctet o.text := fun o ho =>
    ⟨o.nonempty, ho, o.digits⟩
  simp only [Quad.Short, Quad.parts, List.forall_mem_cons] at h ⊢
  exact ⟨hoctet _ h.1, hoctet _ h.2.1, hoctet _ h.2.2.1, hoctet _ h.2.2.2.1,
    fun _ hpart => absurd hpart List.not_mem_nil⟩

/-- The grammar is kept exactly where four parts that are read as octets are short ones. -/
theorem ipToInt_grammar_iff (s : Text) : FollowsGrammar s ↔
    ((s.splitOn '.').length = 4 →
      (∀ part ∈ s.splitOn '.', ∃ n, OctetLiteral (DotEnv.trim part) n) →
        ∀ part ∈ s.splitOn '.', PlainOctet part) := by
  refine ⟨?_, ?_⟩
  · intro hfollows hlength hliterals
    obtain ⟨p₁, p₂, p₃, p₄, hsplit⟩ := List.length_eq_four.mp hlength
    simp only [hsplit, List.forall_mem_cons, ← readsOctet_iff] at hliterals
    obtain ⟨⟨a, h₁⟩, ⟨b, h₂⟩, ⟨c, h₃⟩, ⟨d, h₄⟩, -⟩ := hliterals
    have hreads := ipToInt_eq_some.mpr ⟨_, _, _, _, _, _, _, _, hsplit, h₁, h₂, h₃, h₄, rfl⟩
    obtain ⟨q, hshort, rfl, -⟩ := (hfollows.1 _).mp hreads
    rw [q.splitOn_text]
    exact Quad.plain hshort
  · intro hplain
    have hiff : ∀ v, ipToInt s = some v ↔
        ∃ q : Quad, q.Short ∧ q.text = s ∧ v = q.address.toNat := by
      intro v
      refine ⟨?_, ?_⟩
      · intro h
        obtain ⟨p₁, p₂, p₃, p₄, a, b, c, d, hsplit, h₁, h₂, h₃, h₄, -⟩ := ipToInt_eq_some.mp h
        refine quad_of_ipToInt h (hplain (by rw [hsplit]; rfl) ?_)
        simp only [hsplit, List.forall_mem_cons, ← readsOctet_iff]
        exact ⟨⟨a, h₁⟩, ⟨b, h₂⟩, ⟨c, h₃⟩, ⟨d, h₄⟩, nofun⟩
      · rintro ⟨q, -, rfl, rfl⟩
        exact ipToInt_text q
    refine ⟨hiff, fun hno cidr => ipInCidr_of_none ?_ cidr⟩
    refine Option.eq_none_iff_forall_ne_some.mpr fun v hv => ?_
    obtain ⟨q, hshort, htext, -⟩ := (hiff v).mp hv
    exact hno ⟨q, hshort, htext⟩

/-- An octet that is missing is read as zero. -/
theorem ipToInt_missing_octet : ¬FollowsGrammar "1..2.3".toList := by
  intro hfollows
  have hsplit : "1..2.3".toList.splitOn '.' = [['1'], [], ['2'], ['3']] := by decide
  have hempty : ReadsOctet [] 0 := readsOctet_iff.mpr OctetLiteral.empty
  have hdigit : ∀ c : Char, c.isDigit → Nat.ofDigitChars 10 [c] 0 ≤ 255 →
      ReadsOctet [c] (Nat.ofDigitChars 10 [c] 0) := fun c hc hsmall =>
    Octet.reads ⟨[c], List.cons_ne_nil c [], List.forall_mem_singleton.mpr hc, hsmall⟩
  have hreads := ipToInt_eq_some.mpr ⟨_, _, _, _, _, _, _, _, hsplit, hdigit '1' rfl (by decide),
    hempty, hdigit '2' rfl (by decide), hdigit '3' rfl (by decide), rfl⟩
  obtain ⟨q, -, htext, -⟩ := (hfollows.1 _).mp hreads
  have hparts : q.parts = [['1'], [], ['2'], ['3']] := by
    rw [← q.splitOn_text, htext, hsplit]
  injection hparts with _ hrest
  injection hrest with hsecond _
  exact q.second.nonempty hsecond

end GuardTime
