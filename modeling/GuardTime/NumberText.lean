import GuardTime.Binary64
import GuardTime.DotEnv

namespace GuardTime

open DotEnv (isSpace)

def digitOf (c : Char) : Option Nat :=
  if c.isDigit then some (c.toNat - '0'.toNat)
  else if 'a' ≤ c ∧ c ≤ 'f' then some (c.toNat - 'a'.toNat + 10)
  else if 'A' ≤ c ∧ c ≤ 'F' then some (c.toNat - 'A'.toNat + 10)
  else none

/-- The number that one or more digits write in a base. -/
def numeral (base : Nat) (digits : Text) : Option Nat :=
  if digits = [] then none
  else
    digits.foldl (fun value c => value.bind fun n =>
      ((digitOf c).filter (· < base)).map (n * base + ·)) (some 0)

def decimalNumeral (digits : Text) : Option Nat :=
  if digits = [] ∨ ¬digits.all Char.isDigit then none else some (Nat.ofDigitChars 10 digits 0)

/-- Whether a sign makes the rest negative, and the rest. -/
def signed : Text → Bool × Text
  | '-' :: rest => (true, rest)
  | '+' :: rest => (false, rest)
  | text => (false, text)

/-- The base of an integer literal that names it, and its digits. -/
def basedLiteral : Text → Option (Nat × Text)
  | '0' :: c :: digits =>
    if c = 'x' ∨ c = 'X' then some (16, digits)
    else if c = 'o' ∨ c = 'O' then some (8, digits)
    else if c = 'b' ∨ c = 'B' then some (2, digits)
    else none
  | _ => none

/-- The power of ten behind the digits of a literal. -/
def exponentPart : Text → Option ℤ
  | [] => some 0
  | c :: rest =>
    if c = 'e' ∨ c = 'E' then
      (decimalNumeral (signed rest).2).map fun n : Nat =>
        if (signed rest).1 then -(n : ℤ) else n
    else none

def decimalLiteral (text : Text) : Option ℚ :=
  let unsigned := (signed text).2
  let digits := unsigned.takeWhile Char.isDigit
  if digits = [] then none
  else
    (exponentPart (unsigned.dropWhile Char.isDigit)).map fun e =>
      let value := nearestDouble (Nat.ofDigitChars 10 digits 0 * 10 ^ e)
      if (signed text).1 then -value else value

/-- `Number(text)` for a text without `.`, or none for NaN. What is too large for a double, an
infinite value there, is a number here. -/
def numberOf (text : Text) : Option ℚ :=
  if DotEnv.trim text = [] then some 0
  else
    match basedLiteral (DotEnv.trim text) with
    | some (base, digits) => (numeral base digits).map fun n : Nat => nearestDouble n
    | none => decimalLiteral (DotEnv.trim text)

/-- `Number.parseInt(text, 10)`, or none for NaN; exact where the integer is below `2 ** 53`. -/
def parseInt (text : Text) : Option ℤ :=
  let trimmed := text.dropWhile isSpace
  let digits := (signed trimmed).2.takeWhile Char.isDigit
  if digits = [] then none
  else
    let value : ℤ := Nat.ofDigitChars 10 digits 0
    some (if (signed trimmed).1 then -value else value)

variable {digits tail text : Text} {n : Nat} {e : ℤ}

theorem digit_not_space {c : Char} (h : c.isDigit) : isSpace c = false := by
  have hrange : 48 ≤ c.toNat ∧ c.toNat ≤ 57 := Char.isDigit_iff_toNat.mp h
  obtain ⟨hlow, hhigh⟩ := hrange
  simp [isSpace]
  omega

theorem digit_ne {c d : Char} (h : c.isDigit) (hd : d.isDigit = false) : c ≠ d := by
  rintro rfl
  rw [h] at hd
  cases hd

theorem toString_char (n : Nat) {c : Char} (hc : c.isDigit = false) : c ∉ (toString n).toList :=
  fun hmem => digit_ne (toString_chars hmem) hc rfl

theorem signed_digit {c : Char} (h : c.isDigit) (rest : Text) :
    signed (c :: rest) = (false, c :: rest) := by
  have hminus : c ≠ '-' := digit_ne h rfl
  have hplus : c ≠ '+' := digit_ne h rfl
  unfold signed
  split
  next heq => exact absurd (List.cons.inj heq).1 hminus
  next heq => exact absurd (List.cons.inj heq).1 hplus
  next => rfl

theorem signed_digits (hne : digits ≠ []) (hall : ∀ c ∈ digits, c.isDigit) (tail : Text) :
    signed (digits ++ tail) = (false, digits ++ tail) := by
  obtain ⟨c, rest, rfl⟩ := List.exists_cons_of_ne_nil hne
  exact signed_digit (hall c List.mem_cons_self) (rest ++ tail)

theorem takeWhile_digits (hall : ∀ c ∈ digits, c.isDigit)
    (htail : ∀ c ∈ tail.head?, c.isDigit = false) :
    (digits ++ tail).takeWhile Char.isDigit = digits ∧
      (digits ++ tail).dropWhile Char.isDigit = tail := by
  rw [List.takeWhile_append_of_pos hall, List.dropWhile_append_of_pos hall]
  cases tail with
  | nil => exact ⟨List.append_nil digits, rfl⟩
  | cons c tail =>
    have hc : ¬c.isDigit = true := by rw [htail c rfl]; exact Bool.false_ne_true
    exact ⟨by rw [List.takeWhile_cons_of_neg hc, List.append_nil], List.dropWhile_cons_of_neg hc⟩

theorem basedLiteral_none
    (h : ∀ c rest, text = '0' :: c :: rest → c.isDigit ∨ c = 'e' ∨ c = 'E') :
    basedLiteral text = none := by
  unfold basedLiteral
  split
  next c rest =>
    rcases h c rest rfl with hdigit | rfl | rfl
    · have hc : ∀ d : Char, d.isDigit = false → c ≠ d := fun d => digit_ne hdigit
      simp only [hc 'x' rfl, hc 'X' rfl, hc 'o' rfl, hc 'O' rfl, hc 'b' rfl, hc 'B' rfl, or_self,
        if_false]
    · rfl
    · rfl
  next => rfl

theorem numberOf_digits (hne : digits ≠ []) (hall : ∀ c ∈ digits, c.isDigit) :
    numberOf digits = some (nearestDouble (Nat.ofDigitChars 10 digits 0)) := by
  have htrim : DotEnv.trim digits = digits :=
    DotEnv.trim_noSpace fun c hc => digit_not_space (hall c hc)
  have hbase : basedLiteral digits = none := by
    refine basedLiteral_none fun c rest heq => Or.inl (hall c ?_)
    rw [heq]
    exact List.mem_cons_of_mem _ List.mem_cons_self
  have hsigned := signed_digits hne hall []
  have htake := @takeWhile_digits digits [] hall nofun
  rw [List.append_nil] at hsigned htake
  simp only [numberOf, htrim, if_neg hne, hbase, decimalLiteral, hsigned, htake,
    exponentPart, Option.map_some, zpow_zero, mul_one, Bool.false_eq_true, if_false]

theorem decimalNumeral_eq_some : decimalNumeral digits = some n ↔
    digits ≠ [] ∧ (∀ c ∈ digits, c.isDigit) ∧ Nat.ofDigitChars 10 digits 0 = n := by
  simp only [decimalNumeral]
  split
  next h =>
    refine ⟨nofun, ?_⟩
    rintro ⟨hne, hall, -⟩
    rcases h with hnil | hdigits
    · exact absurd hnil hne
    · exact absurd (List.all_eq_true.mpr hall) hdigits
  next h =>
    simp only [not_or, not_not, List.all_eq_true] at h
    rw [Option.some.injEq]
    exact ⟨fun hn => ⟨h.1, h.2, hn⟩, fun hn => hn.2.2⟩

/-- What stands behind the digits starts with no digit. -/
theorem exponentPart_head (he : exponentPart tail = some e) :
    tail = [] ∨ ∃ c rest, tail = c :: rest ∧ (c = 'e' ∨ c = 'E') := by
  cases tail with
  | nil => exact Or.inl rfl
  | cons c rest =>
    refine Or.inr ⟨c, rest, rfl, ?_⟩
    by_contra hc
    rw [exponentPart, if_neg hc] at he
    cases he

theorem signed_eq (text : Text) : ∃ sign, text = sign ++ (signed text).2 ∧
    ((signed text).1 = true ∧ sign = ['-'] ∨
      (signed text).1 = false ∧ (sign = [] ∨ sign = ['+'])) := by
  unfold signed
  split
  next rest => exact ⟨['-'], rfl, Or.inl ⟨rfl, rfl⟩⟩
  next rest => exact ⟨['+'], rfl, Or.inr ⟨rfl, Or.inr rfl⟩⟩
  next => exact ⟨[], rfl, Or.inr ⟨rfl, Or.inl rfl⟩⟩

theorem decimalLiteral_eq_some {q : ℚ} (h : decimalLiteral text = some q) :
    ∃ sign digits tail m e, text = sign ++ (digits ++ tail) ∧ decimalNumeral digits = some m ∧
      exponentPart tail = some e ∧
        (sign = ['-'] ∧ q = -nearestDouble (m * 10 ^ e) ∨
          (sign = [] ∨ sign = ['+']) ∧ q = nearestDouble (m * 10 ^ e)) := by
  obtain ⟨sign, htext, hsign⟩ := signed_eq text
  simp only [decimalLiteral] at h
  split at h
  next => cases h
  next hne =>
    obtain ⟨e, he, rfl⟩ := Option.map_eq_some_iff.mp h
    refine ⟨sign, (signed text).2.takeWhile Char.isDigit, (signed text).2.dropWhile Char.isDigit,
      Nat.ofDigitChars 10 ((signed text).2.takeWhile Char.isDigit) 0, e, ?_, ?_, he, ?_⟩
    · rw [List.takeWhile_append_dropWhile]
      exact htext
    · exact decimalNumeral_eq_some.mpr ⟨hne, fun c hc => List.mem_takeWhile_imp hc, rfl⟩
    · rcases hsign with ⟨hneg, rfl⟩ | ⟨hpos, hsign⟩
      · exact Or.inl ⟨rfl, by rw [hneg, if_pos rfl]⟩
      · exact Or.inr ⟨hsign, by rw [hpos, if_neg Bool.false_ne_true]⟩

theorem parseInt_digits (hne : digits ≠ []) (hall : ∀ c ∈ digits, c.isDigit) :
    parseInt digits = some (Nat.ofDigitChars 10 digits 0 : ℤ) := by
  have htrim : digits.dropWhile isSpace = digits := by
    obtain ⟨c, rest, rfl⟩ := List.exists_cons_of_ne_nil hne
    refine List.dropWhile_cons_of_neg ?_
    rw [digit_not_space (hall c List.mem_cons_self)]
    exact Bool.false_ne_true
  have hsigned := signed_digits hne hall []
  have htake := (@takeWhile_digits digits [] hall nofun).1
  rw [List.append_nil] at hsigned htake
  simp only [parseInt, htrim, hsigned, htake, if_neg hne, Bool.false_eq_true, if_false]

theorem parseInt_toString (n : Nat) : parseInt (toString n).toList = some (n : ℤ) := by
  have htext : (toString n).toList = Nat.toDigits 10 n := Nat.toList_repr
  have hdigits : ∀ c ∈ Nat.toDigits 10 n, c.isDigit := fun c hc =>
    Nat.isDigit_of_mem_toDigits (by decide) (by decide) hc
  rw [htext, parseInt_digits Nat.toDigits_ne_nil hdigits,
    Nat.ofDigitChars_toDigits (by decide) (by decide)]

theorem digit_of_toDigits {n : Nat} {c : Char} (hc : c ∈ Nat.toDigits 10 n) : c.isDigit = true :=
  Nat.isDigit_of_mem_toDigits (by omega) (Nat.le_refl 10) hc

theorem decimalNumeral_toDigits (n : Nat) : decimalNumeral (Nat.toDigits 10 n) = some n := by
  refine decimalNumeral_eq_some.mpr ⟨Nat.toDigits_ne_nil, ?_, ?_⟩
  · intro c hc
    exact digit_of_toDigits hc
  · exact Nat.ofDigitChars_toDigits (by omega) (Nat.le_refl 10)

end GuardTime
