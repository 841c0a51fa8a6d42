import GuardTime.NumberText
import Mathlib.Data.Nat.Find

namespace GuardTime

namespace IsoTime

/-- The day, counted from the beginning of 1970, on which a year begins. -/
def dayFromYear (y : Nat) : Nat :=
  365 * (y - 1970) + (y - 1969) / 4 + (y - 1601) / 400 - (y - 1901) / 100

def yearFromDay (day : Nat) : Nat :=
  1970 + Nat.findGreatest (fun n => dayFromYear (1970 + n) ≤ day) (day / 365)

def isLeap (y : Nat) : Bool := dayFromYear (y + 1) - dayFromYear y = 366

/-- The days of a year before a month; months are counted from 0. -/
def daysBefore (leap : Bool) : Nat → Nat
  | 0 => 0
  | 1 => 31
  | 2 => 59 + leap.toNat
  | 3 => 90 + leap.toNat
  | 4 => 120 + leap.toNat
  | 5 => 151 + leap.toNat
  | 6 => 181 + leap.toNat
  | 7 => 212 + leap.toNat
  | 8 => 243 + leap.toNat
  | 9 => 273 + leap.toNat
  | 10 => 304 + leap.toNat
  | _ => 334 + leap.toNat

def monthOf (leap : Bool) (dayInYear : Nat) : Nat :=
  Nat.findGreatest (fun m => daysBefore leap m ≤ dayInYear) 11

structure Fields where
  year : Nat
  month : Nat
  day : Nat
  hour : Nat
  minute : Nat
  second : Nat
  ms : Nat
deriving DecidableEq

/-- The fields of a time in milliseconds since the beginning of 1970. -/
def fields (t : Nat) : Fields :=
  let day := t / 86400000
  let year := yearFromDay day
  let dayInYear := day - dayFromYear year
  let month := monthOf (isLeap year) dayInYear
  ⟨year, month + 1, dayInYear - daysBefore (isLeap year) month + 1, t / 3600000 % 24, t / 60000 % 60,
    t / 1000 % 60, t % 1000⟩

def Fields.time (f : Fields) : Nat :=
  (dayFromYear f.year + daysBefore (isLeap f.year) (f.month - 1) + (f.day - 1)) * 86400000 +
    f.hour * 3600000 + f.minute * 60000 + f.second * 1000 + f.ms

/-- The last digits of a number. -/
def pad : Nat → Nat → Text
  | 0, _ => []
  | k + 1, n => pad k (n / 10) ++ [Nat.digitChar (n % 10)]

def yearText (year : Nat) : Text := if year ≤ 9999 then pad 4 year else '+' :: pad 6 year

/-- `date.toISOString()`. -/
def toISOString (t : Nat) : Text :=
  let f := fields t
  yearText f.year ++ '-' :: (pad 2 f.month ++ '-' :: (pad 2 f.day ++ 'T' :: (pad 2 f.hour ++
    ':' :: (pad 2 f.minute ++ ':' :: (pad 2 f.second ++ '.' :: (pad 3 f.ms ++ ['Z']))))))

/-- A number of some digits, and the text behind the character that must follow it. -/
def readField (k : Nat) (stop : Char) (text : Text) : Option (Nat × Text) :=
  let digits := text.take k
  if digits.length = k ∧ digits.all Char.isDigit ∧ (text.drop k).head? = some stop then
    some (Nat.ofDigitChars 10 digits 0, (text.drop k).tail)
  else none

def readYear : Text → Option (Nat × Text)
  | '+' :: rest => readField 6 '-' rest
  | text => readField 4 '-' text

/-- `new Date(text).getTime()` for a text as `toISOString` writes it, none for NaN. -/
def getTime (text : Text) : Option Nat :=
  (readYear text).bind fun year => (readField 2 '-' year.2).bind fun month =>
    (readField 2 'T' month.2).bind fun day => (readField 2 ':' day.2).bind fun hour =>
      (readField 2 ':' hour.2).bind fun minute => (readField 2 '.' minute.2).bind fun second =>
        (readField 3 'Z' second.2).bind fun ms =>
          if ms.2 = [] then
            some (Fields.time ⟨year.1, month.1, day.1, hour.1, minute.1, second.1, ms.1⟩)
          else none

variable {k n : Nat}

theorem length_pad (k n : Nat) : (pad k n).length = k := by
  induction k generalizing n with
  | zero => rfl
  | succ k ih => rw [pad, List.length_append, ih, List.length_singleton]

theorem isDigit_pad (k n : Nat) : (pad k n).all Char.isDigit = true := by
  induction k generalizing n with
  | zero => rfl
  | succ k ih =>
    have hdigit : ∀ d < 10, (Nat.digitChar d).isDigit = true := by decide
    simp [pad, ih, hdigit (n % 10) (Nat.mod_lt n (by omega))]

theorem ofDigitChars_pad (hn : n < 10 ^ k) : Nat.ofDigitChars 10 (pad k n) 0 = n := by
  induction k generalizing n with
  | zero =>
    have hzero : n = 0 := by omega
    simp [pad, hzero]
  | succ k ih =>
    have hsmall : n / 10 < 10 ^ k := by
      rw [Nat.pow_succ] at hn
      omega
    have hlast : n % 10 < 10 := Nat.mod_lt n (by omega)
    rw [pad, Nat.ofDigitChars_append, ih hsmall, Nat.ofDigitChars_cons_digitChar_of_lt_ten hlast,
      Nat.ofDigitChars_nil]
    omega

theorem readField_pad (hn : n < 10 ^ k) (stop : Char) (rest : Text) :
    readField k stop (pad k n ++ stop :: rest) = some (n, rest) := by
  have htake : (pad k n ++ stop :: rest).take k = pad k n := List.take_left' (length_pad k n)
  have hdrop : (pad k n ++ stop :: rest).drop k = stop :: rest := List.drop_left' (length_pad k n)
  simp only [readField, htake, hdrop, length_pad, isDigit_pad, ofDigitChars_pad hn, List.head?_cons,
    and_self, if_true, List.tail_cons]

theorem readYear_yearText (hn : n < 10 ^ 6) (rest : Text) :
    readYear (yearText n ++ '-' :: rest) = some (n, rest) := by
  rw [yearText]
  split
  next hsmall =>
    have hplus : ∀ tail, pad 4 n ++ '-' :: rest ≠ '+' :: tail := by
      intro tail heq
      have hdigits := isDigit_pad 4 n
      rw [show pad 4 n = Nat.digitChar (n / 10 / 10 / 10 % 10) :: (pad 4 n).tail from rfl] at heq hdigits
      rw [List.all_cons, Bool.and_eq_true] at hdigits
      rw [List.cons_append, List.cons.injEq] at heq
      rw [heq.1] at hdigits
      exact Bool.false_ne_true hdigits.1
    rw [readYear]
    · exact readField_pad (by omega) '-' rest
    · exact hplus
  next => exact readField_pad hn '-' rest

theorem dayFromYear_step (n : Nat) : dayFromYear (1970 + n) + 365 ≤ dayFromYear (1970 + (n + 1)) ∧
    dayFromYear (1970 + (n + 1)) ≤ dayFromYear (1970 + n) + 366 := by
  unfold dayFromYear
  omega

theorem le_dayFromYear (n : Nat) : 365 * n ≤ dayFromYear (1970 + n) := by
  unfold dayFromYear
  omega

theorem yearFromDay_spec (day : Nat) : dayFromYear (yearFromDay day) ≤ day ∧
    day < dayFromYear (yearFromDay day + 1) := by
  have hzero : dayFromYear (1970 + 0) ≤ day := Nat.zero_le day
  have hle : dayFromYear (yearFromDay day) ≤ day :=
    Nat.findGreatest_spec (P := fun n => dayFromYear (1970 + n) ≤ day) (Nat.zero_le _) hzero
  refine ⟨hle, ?_⟩
  by_contra hlate
  have hnext : dayFromYear (1970 + (Nat.findGreatest (fun n => dayFromYear (1970 + n) ≤ day) (day / 365) + 1)) ≤
      day := Nat.not_lt.mp hlate
  have hbound := le_dayFromYear
    (Nat.findGreatest (fun n => dayFromYear (1970 + n) ≤ day) (day / 365) + 1)
  have hroom : Nat.findGreatest (fun n => dayFromYear (1970 + n) ≤ day) (day / 365) + 1 ≤ day / 365 := by
    omega
  exact Nat.findGreatest_is_greatest (P := fun n => dayFromYear (1970 + n) ≤ day) (Nat.lt_succ_self _)
    hroom hnext

theorem daysBefore_step (leap : Bool) {m : Nat} (hm : m < 11) :
    daysBefore leap (m + 1) ≤ daysBefore leap m + 31 := by
  have hall : ∀ leap, ∀ m < 11, daysBefore leap (m + 1) ≤ daysBefore leap m + 31 := by decide
  exact hall leap m hm

theorem isLeap_toNat (day : Nat) : day - dayFromYear (yearFromDay day) <
    365 + (isLeap (yearFromDay day)).toNat := by
  have hspec := yearFromDay_spec day
  have hstep : dayFromYear (yearFromDay day + 1) ≤ dayFromYear (yearFromDay day) + 366 :=
    (dayFromYear_step _).2
  by_cases hleap : dayFromYear (yearFromDay day + 1) - dayFromYear (yearFromDay day) = 366
  · rw [isLeap, decide_eq_true hleap, Bool.toNat_true]
    omega
  · rw [isLeap, decide_eq_false hleap, Bool.toNat_false]
    omega

theorem monthOf_spec {leap : Bool} {dayInYear : Nat} (h : dayInYear < 365 + leap.toNat) :
    monthOf leap dayInYear ≤ 11 ∧ daysBefore leap (monthOf leap dayInYear) ≤ dayInYear ∧
      dayInYear < daysBefore leap (monthOf leap dayInYear) + 31 := by
  have hle : monthOf leap dayInYear ≤ 11 := Nat.findGreatest_le 11
  have hzero : daysBefore leap 0 ≤ dayInYear := Nat.zero_le dayInYear
  have hspec : daysBefore leap (monthOf leap dayInYear) ≤ dayInYear :=
    Nat.findGreatest_spec (P := fun m => daysBefore leap m ≤ dayInYear) (Nat.zero_le 11) hzero
  refine ⟨hle, hspec, ?_⟩
  rcases Nat.lt_or_eq_of_le hle with hlt | hlast
  · have hnext : ¬daysBefore leap (monthOf leap dayInYear + 1) ≤ dayInYear :=
      Nat.findGreatest_is_greatest (P := fun m => daysBefore leap m ≤ dayInYear) (Nat.lt_succ_self _) hlt
    have hstep := daysBefore_step leap hlt
    omega
  · have hend : daysBefore leap 11 = 334 + leap.toNat := rfl
    rw [hlast, hend]
    omega

theorem time_fields (t : Nat) : (fields t).time = t := by
  have hyear := (yearFromDay_spec (t / 86400000)).1
  have hmonth := (monthOf_spec (isLeap_toNat (t / 86400000))).2.1
  simp only [fields, Fields.time, Nat.add_sub_cancel]
  omega

theorem year_lt {t : Nat} (ht : t ≤ 8640000000000000) : (fields t).year < 10 ^ 6 := by
  have hle : Nat.findGreatest (fun n => dayFromYear (1970 + n) ≤ t / 86400000) (t / 86400000 / 365) ≤
      t / 86400000 / 365 := Nat.findGreatest_le _
  show 1970 + _ < 10 ^ 6
  omega

theorem getTime_toISOString {t : Nat} (ht : t ≤ 8640000000000000) : getTime (toISOString t) = some t := by
  have hyear := year_lt ht
  have hspec := monthOf_spec (isLeap_toNat (t / 86400000))
  have hmonth : (fields t).month < 10 ^ 2 := by
    show monthOf _ _ + 1 < 10 ^ 2
    omega
  have hday : (fields t).day < 10 ^ 2 := by
    show _ - _ + 1 < 10 ^ 2
    omega
  have hhour : (fields t).hour < 10 ^ 2 := by
    show t / 3600000 % 24 < 10 ^ 2
    omega
  have hminute : (fields t).minute < 10 ^ 2 := by
    show t / 60000 % 60 < 10 ^ 2
    omega
  have hsecond : (fields t).second < 10 ^ 2 := by
    show t / 1000 % 60 < 10 ^ 2
    omega
  have hms : (fields t).ms < 10 ^ 3 := by
    show t % 1000 < 10 ^ 3
    omega
  simp only [getTime, toISOString, readYear_yearText hyear, Option.bind_some, readField_pad hmonth,
    readField_pad hday, readField_pad hhour, readField_pad hminute, readField_pad hsecond,
    readField_pad hms, if_true]
  exact congrArg some (time_fields t)

end IsoTime

end GuardTime
