import GuardTime.NumberText

namespace GuardTime

namespace JsonString

/-- The text that code units stand for, none where a surrogate stands alone. -/
def decode : List Nat → Option Text
  | [] => some []
  | high :: low :: rest =>
    if 0xd800 ≤ high ∧ high < 0xdc00 then
      if 0xdc00 ≤ low ∧ low < 0xe000 then
        (decode rest).map (Char.ofNat (0x10000 + (high - 0xd800) * 0x400 + (low - 0xdc00)) :: ·)
      else none
    else if 0xdc00 ≤ high ∧ high < 0xe000 then none
    else (decode (low :: rest)).map (Char.ofNat high :: ·)
  | [unit] => if 0xd800 ≤ unit ∧ unit < 0xe000 then none else some [Char.ofNat unit]

def hexDigits (unit : Nat) : Text :=
  [Nat.digitChar (unit / 4096), Nat.digitChar (unit / 256 % 16), Nat.digitChar (unit / 16 % 16),
    Nat.digitChar (unit % 16)]

def readHex (a b c d : Char) : Option Nat :=
  (digitOf a).bind fun a => (digitOf b).bind fun b => (digitOf c).bind fun c =>
    (digitOf d).map fun d => a * 4096 + b * 256 + c * 16 + d

def escapeUnit (unit : Nat) : Text := '\\' :: 'u' :: hexDigits unit

/-- The short escapes: what stands behind the backslash, and the code unit that it names. -/
def shortEscape : Char → Option Nat
  | '"' => some 0x22
  | '\\' => some 0x5c
  | '/' => some 0x2f
  | 'b' => some 0x08
  | 'f' => some 0x0c
  | 'n' => some 0x0a
  | 'r' => some 0x0d
  | 't' => some 0x09
  | _ => none

/-- A character as a printer writes it that leaves the characters of `raw` as they are. -/
def escape (raw : Char → Bool) (c : Char) : Text :=
  if c = '"' then ['\\', '"']
  else if c = '\\' then ['\\', '\\']
  else if c = '\n' then ['\\', 'n']
  else if c = '\r' then ['\\', 'r']
  else if c = '\t' then ['\\', 't']
  else if c = '\x08' then ['\\', 'b']
  else if c = '\x0c' then ['\\', 'f']
  else if raw c then [c]
  else (codeUnits c).flatMap escapeUnit

/-- The code units of a string behind its first quote, and the text behind the last. -/
def units : Text → Option (List Nat × Text)
  | [] => none
  | '"' :: rest => some ([], rest)
  | '\\' :: 'u' :: a :: b :: c :: d :: rest =>
    (readHex a b c d).bind fun unit => (units rest).map fun read => (unit :: read.1, read.2)
  | '\\' :: e :: rest =>
    (shortEscape e).bind fun unit => (units rest).map fun read => (unit :: read.1, read.2)
  | c :: rest =>
    if c.toNat < 0x20 ∨ c = '\\' then none
    else (units rest).map fun read => (codeUnits c ++ read.1, read.2)

def body (text : Text) : Option (Text × Text) :=
  (units text).bind fun read => (decode read.1).map fun s => (s, read.2)

variable {raw : Char → Bool} {c : Char} {s text rest more : Text} {us : List Nat} {unit : Nat}

theorem digitOf_digitChar {n : Nat} (hn : n < 16) : digitOf (Nat.digitChar n) = some n := by
  have hall : ∀ n < 16, digitOf (Nat.digitChar n) = some n := by decide
  exact hall n hn

theorem readHex_hexDigits (hunit : unit < 0x10000) :
    readHex (Nat.digitChar (unit / 4096)) (Nat.digitChar (unit / 256 % 16))
      (Nat.digitChar (unit / 16 % 16)) (Nat.digitChar (unit % 16)) = some unit := by
  have h1 : unit / 4096 < 16 := by omega
  have h2 : unit / 256 % 16 < 16 := Nat.mod_lt _ (by omega)
  have h3 : unit / 16 % 16 < 16 := Nat.mod_lt _ (by omega)
  have h4 : unit % 16 < 16 := Nat.mod_lt _ (by omega)
  have hsum : unit / 4096 * 4096 + unit / 256 % 16 * 256 + unit / 16 % 16 * 16 + unit % 16 = unit := by
    omega
  simp only [readHex, digitOf_digitChar h1, digitOf_digitChar h2, digitOf_digitChar h3,
    digitOf_digitChar h4, Option.bind_some, Option.map_some, hsum]

theorem units_escapeUnit (hunit : unit < 0x10000) (text : Text) :
    units (escapeUnit unit ++ text) = (units text).map fun read => (unit :: read.1, read.2) := by
  have hread := readHex_hexDigits hunit
  simp only [escapeUnit, hexDigits, List.cons_append, List.nil_append]
  rw [units, hread, Option.bind_some]

theorem toNat_valid (c : Char) : c.toNat < 0xd800 ∨ (0xdfff < c.toNat ∧ c.toNat < 0x110000) := c.valid

theorem codeUnits_of_lt (h : c.toNat < 0x10000) : codeUnits c = [c.toNat] := if_pos h

theorem codeUnits_of_le (h : 0x10000 ≤ c.toNat) : codeUnits c =
    [0xd800 + (c.toNat - 0x10000) / 0x400, 0xdc00 + (c.toNat - 0x10000) % 0x400] :=
  if_neg (Nat.not_lt.mpr h)

theorem codeUnits_lt (hunit : unit ∈ codeUnits c) : unit < 0x10000 := by
  have hvalid := toNat_valid c
  rcases Nat.lt_or_ge c.toNat 0x10000 with hsmall | hlarge
  · rw [codeUnits_of_lt hsmall, List.mem_singleton] at hunit
    omega
  · rw [codeUnits_of_le hlarge, List.mem_pair] at hunit
    omega

theorem units_escapeUnits (hus : ∀ unit ∈ us, unit < 0x10000) (text : Text) :
    units (us.flatMap escapeUnit ++ text) = (units text).map fun read => (us ++ read.1, read.2) := by
  induction us with
  | nil => simp
  | cons unit us ih =>
    have hrest : ∀ unit' ∈ us, unit' < 0x10000 := fun unit' h => hus unit' (List.mem_cons_of_mem unit h)
    rw [List.flatMap_cons, List.append_assoc, units_escapeUnit (hus unit List.mem_cons_self), ih hrest,
      Option.map_map]
    rfl

theorem units_raw (hc : 0x20 ≤ c.toNat) (hquote : c ≠ '"') (hslash : c ≠ '\\') (text : Text) :
    units (c :: text) = (units text).map fun read => (codeUnits c ++ read.1, read.2) := by
  rw [units]
  · rw [if_neg (by simp [hslash]; omega)]
  · exact hquote
  · intro a b c' d rest' h
    exact absurd h hslash
  · intro e rest' h
    exact absurd h hslash

/-- An escaped character is read as its code units. -/
theorem units_escape (hraw : ∀ c, raw c = true → 0x20 ≤ c.toNat) (c : Char) (text : Text) :
    units (escape raw c ++ text) = (units text).map fun read => (codeUnits c ++ read.1, read.2) := by
  unfold escape
  split
  next h => subst h; rfl
  next hquote =>
    split
    next h => subst h; rfl
    next hslash =>
      split
      next h => subst h; rfl
      next =>
        split
        next h => subst h; rfl
        next =>
          split
          next h => subst h; rfl
          next =>
            split
            next h => subst h; rfl
            next =>
              split
              next h => subst h; rfl
              next =>
                split
                next h => exact units_raw (hraw c h) hquote hslash text
                next => exact units_escapeUnits (fun unit hunit => codeUnits_lt hunit) text

theorem units_escaped (hraw : ∀ c, raw c = true → 0x20 ≤ c.toNat) (s rest : Text) :
    units (s.flatMap (escape raw) ++ '"' :: rest) = some (s.flatMap codeUnits, rest) := by
  induction s with
  | nil => rfl
  | cons c s ih =>
    rw [List.flatMap_cons, List.append_assoc, units_escape hraw, ih]
    rfl

theorem decode_codeUnits (c : Char) (us : List Nat) :
    decode (codeUnits c ++ us) = (decode us).map (c :: ·) := by
  have hvalid := toNat_valid c
  rcases Nat.lt_or_ge c.toNat 0x10000 with hsmall | hlarge
  · have hhigh : ¬(0xd800 ≤ c.toNat ∧ c.toNat < 0xdc00) := by omega
    have hlow : ¬(0xdc00 ≤ c.toNat ∧ c.toNat < 0xe000) := by omega
    have hone : ¬(0xd800 ≤ c.toNat ∧ c.toNat < 0xe000) := by omega
    rw [codeUnits_of_lt hsmall, List.singleton_append]
    cases us with
    | nil =>
      have hdecode : decode [c.toNat] = some [Char.ofNat c.toNat] := if_neg hone
      rw [hdecode, Char.ofNat_toNat]
      rfl
    | cons u us => rw [decode, if_neg hhigh, if_neg hlow, Char.ofNat_toNat]
  · have hhigh : 0xd800 ≤ 0xd800 + (c.toNat - 0x10000) / 0x400 ∧
        0xd800 + (c.toNat - 0x10000) / 0x400 < 0xdc00 := by omega
    have hlow : 0xdc00 ≤ 0xdc00 + (c.toNat - 0x10000) % 0x400 ∧
        0xdc00 + (c.toNat - 0x10000) % 0x400 < 0xe000 := by omega
    have hsum : 0x10000 + (0xd800 + (c.toNat - 0x10000) / 0x400 - 0xd800) * 0x400 +
        (0xdc00 + (c.toNat - 0x10000) % 0x400 - 0xdc00) = c.toNat := by omega
    rw [codeUnits_of_le hlarge, List.cons_append, List.singleton_append, decode, if_pos hhigh,
      if_pos hlow, hsum, Char.ofNat_toNat]

theorem decode_flatMap (s : Text) : decode (s.flatMap codeUnits) = some s := by
  induction s with
  | nil => rfl
  | cons c s ih =>
    rw [List.flatMap_cons, decode_codeUnits, ih]
    rfl

/-- A string is read as it is printed. -/
theorem body_escaped (hraw : ∀ c, raw c = true → 0x20 ≤ c.toNat) (s rest : Text) :
    body (s.flatMap (escape raw) ++ '"' :: rest) = some (s, rest) := by
  rw [body, units_escaped hraw, Option.bind_some, decode_flatMap]
  rfl

/-- What is read of a string does not depend on the text behind it. -/
theorem units_append (h : units text = some (us, rest)) (more : Text) :
    units (text ++ more) = some (us, rest ++ more) := by
  fun_induction units text generalizing us rest with
  | case1 => cases h
  | case2 rest' =>
    cases h
    rfl
  | case3 a b c d rest' ih =>
    obtain ⟨unit, hunit, h⟩ := Option.bind_eq_some_iff.mp h
    obtain ⟨read, hread, heq⟩ := Option.map_eq_some_iff.mp h
    cases heq
    simp only [List.cons_append]
    rw [units, hunit, Option.bind_some, ih hread]
    rfl
  | case4 e rest' hne ih =>
    obtain ⟨unit, hunit, h⟩ := Option.bind_eq_some_iff.mp h
    obtain ⟨read, hread, heq⟩ := Option.map_eq_some_iff.mp h
    cases heq
    have hu : e ≠ 'u' := by
      rintro rfl
      cases hunit
    simp only [List.cons_append]
    rw [units, hunit, Option.bind_some, ih hread]
    · rfl
    · intro a b c d rest'' heq
      exact absurd heq hu
  | case5 c rest' hquote hu he hbad => cases h
  | case6 c rest' hquote hu he hgood ih =>
    obtain ⟨read, hread, heq⟩ := Option.map_eq_some_iff.mp h
    cases heq
    simp only [not_or, Nat.not_lt] at hgood
    rw [List.cons_append, units_raw hgood.1 hquote hgood.2, ih hread]
    rfl

theorem body_append (h : body text = some (s, rest)) (more : Text) :
    body (text ++ more) = some (s, rest ++ more) := by
  obtain ⟨read, hread, h⟩ := Option.bind_eq_some_iff.mp h
  obtain ⟨s', hs, heq⟩ := Option.map_eq_some_iff.mp h
  cases heq
  rw [body, units_append hread more, Option.bind_some, hs]
  rfl

end JsonString

end GuardTime
