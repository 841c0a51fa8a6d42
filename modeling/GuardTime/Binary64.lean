import Mathlib.Data.Int.Log
import Mathlib.Data.Rat.Floor
import Mathlib.Tactic.Linarith

namespace GuardTime

/-- The nearest integer, the even one of two that are as near. -/
def roundHalfEven (q : ℚ) : ℤ :=
  let below := ⌊q⌋
  if q - below < 1 / 2 then below
  else if 1 / 2 < q - below then below + 1
  else if below % 2 = 0 then below
  else below + 1

/-- The exponent of the last of the 53 bits that a double keeps of a number. -/
def lastBit (q : ℚ) : ℤ := max (Int.log 2 |q| - 52) (-1074)

/-- The double nearest to a number, where the exponents have no upper end. -/
def nearestDouble (q : ℚ) : ℚ := roundHalfEven (q / 2 ^ lastBit q) * 2 ^ lastBit q

theorem roundHalfEven_intCast (n : ℤ) : roundHalfEven n = n := by
  simp [roundHalfEven]

theorem roundHalfEven_bounds (q : ℚ) : q - 1 / 2 ≤ roundHalfEven q ∧ roundHalfEven q ≤ q + 1 / 2 := by
  have hle := Int.floor_le q
  have hlt := Int.lt_floor_add_one q
  simp only [roundHalfEven]
  split
  next h =>
    refine ⟨?_, ?_⟩ <;> linarith
  next h =>
    split
    next h' =>
      push_cast
      refine ⟨?_, ?_⟩ <;> linarith
    next h' =>
      split
      next =>
        refine ⟨?_, ?_⟩ <;> linarith
      next =>
        push_cast
        refine ⟨?_, ?_⟩ <;> linarith

theorem roundHalfEven_le {n : ℤ} {q : ℚ} (h : q ≤ n) : roundHalfEven q ≤ n := by
  have hround := (roundHalfEven_bounds q).2
  have hlt : (roundHalfEven q : ℚ) < (n + 1 : ℤ) := by
    push_cast
    linarith
  have hlt' : roundHalfEven q < n + 1 := by exact_mod_cast hlt
  omega

theorem le_roundHalfEven_of_half_lt {n : ℤ} {q : ℚ} (h : n - 1 / 2 < q) : n ≤ roundHalfEven q := by
  have hround := (roundHalfEven_bounds q).1
  have hlt : ((n - 1 : ℤ) : ℚ) < roundHalfEven q := by
    push_cast
    linarith
  have hlt' : n - 1 < roundHalfEven q := by exact_mod_cast hlt
  omega

theorem le_roundHalfEven {n : ℤ} {q : ℚ} (h : (n : ℚ) ≤ q) : n ≤ roundHalfEven q :=
  le_roundHalfEven_of_half_lt (by linarith)

theorem roundHalfEven_mono {p q : ℚ} (h : p ≤ q) : roundHalfEven p ≤ roundHalfEven q := by
  rcases lt_or_ge q (⌊p⌋ + 1) with hsame | hnext
  · -- between the same two integers
    have hfloor : ⌊q⌋ = ⌊p⌋ := by
      have hmono := Int.floor_le_floor h
      have hlt : ⌊q⌋ < ⌊p⌋ + 1 := Int.floor_lt.mpr (by push_cast; exact hsame)
      omega
    simp only [roundHalfEven, hfloor]
    grind
  · have hp : roundHalfEven p ≤ ⌊p⌋ + 1 := roundHalfEven_le (by push_cast; exact (Int.lt_floor_add_one p).le)
    have hq : ⌊p⌋ + 1 ≤ roundHalfEven q := le_roundHalfEven (by push_cast; exact hnext)
    exact hp.trans hq


theorem lastBit_eq {q : ℚ} {k : ℤ} (hk : -1022 ≤ k) (hle : (2 : ℚ) ^ k ≤ q) (hlt : q < 2 ^ (k + 1)) :
    lastBit q = k - 52 := by
  have hpos : 0 < q := lt_of_lt_of_le (zpow_pos two_pos k) hle
  have hlog : k ≤ Int.log 2 q := (Int.zpow_le_iff_le_log (by decide) hpos).mp hle
  have hlog' : Int.log 2 q < k + 1 := (Int.lt_zpow_iff_log_lt (by decide) hpos).mp hlt
  rw [lastBit, abs_of_pos hpos]
  omega

theorem lastBit_le {q : ℚ} {k : ℤ} (hk : -1022 ≤ k) (hpos : 0 < q) (hlt : q < 2 ^ (k + 1)) :
    lastBit q ≤ k - 52 := by
  have hlog : Int.log 2 q < k + 1 := (Int.lt_zpow_iff_log_lt (by decide) hpos).mp hlt
  rw [lastBit, abs_of_pos hpos]
  omega

theorem lastBit_mono {p q : ℚ} (hp : 0 < p) (h : p ≤ q) : lastBit p ≤ lastBit q := by
  have hlog : Int.log 2 p ≤ Int.log 2 q := Int.log_mono_right hp h
  rw [lastBit, lastBit, abs_of_pos hp, abs_of_pos (hp.trans_le h)]
  omega

theorem nearestDouble_mul {q : ℚ} (n : ℤ) (h : q = n * 2 ^ lastBit q) : nearestDouble q = q := by
  have hpos : (2 : ℚ) ^ lastBit q ≠ 0 := zpow_ne_zero _ two_ne_zero
  have hquotient : q / 2 ^ lastBit q = n := by rw [div_eq_iff hpos, ← h]
  rw [nearestDouble, hquotient, roundHalfEven_intCast, ← h]

theorem nearestDouble_of_bits {n e : ℤ} (hn : 0 ≤ n) (hbits : n < 2 ^ 53) (he : -1074 ≤ e) :
    nearestDouble (n * 2 ^ e) = n * 2 ^ e := by
  rcases hn.eq_or_lt with rfl | hpos
  · have hzero : ((0 : ℤ) : ℚ) * 2 ^ e = ((0 : ℤ) : ℚ) := by simp
    rw [hzero]
    simp [nearestDouble, roundHalfEven]
  have hposq : (0 : ℚ) < n * 2 ^ e := mul_pos (by exact_mod_cast hpos) (zpow_pos two_pos e)
  have hlt : (n : ℚ) * 2 ^ e < 2 ^ (e + 52 + 1) := by
    have hcast : (n : ℚ) < 2 ^ 53 := by exact_mod_cast hbits
    have hsplit : (2 : ℚ) ^ (e + 52 + 1) = 2 ^ 53 * 2 ^ e := by
      rw [show e + 52 + 1 = 53 + e by ring, zpow_add₀ two_ne_zero]
      norm_num
    rw [hsplit]
    exact mul_lt_mul_of_pos_right hcast (zpow_pos two_pos e)
  have hbit : lastBit ((n : ℚ) * 2 ^ e) ≤ e := by
    have hle := lastBit_le (k := e + 52) (by omega) hposq hlt
    omega
  obtain ⟨j, hj⟩ := Int.eq_ofNat_of_zero_le (show 0 ≤ e - lastBit ((n : ℚ) * 2 ^ e) by omega)
  refine nearestDouble_mul (n * 2 ^ j) ?_
  push_cast
  rw [mul_assoc, ← zpow_natCast, ← zpow_add₀ two_ne_zero]
  congr 2
  omega

theorem nearestDouble_natCast {n : ℕ} (h : n < 2 ^ 53) : nearestDouble n = n := by
  have hbits := nearestDouble_of_bits (n := n) (e := 0) (by omega) (by exact_mod_cast h) (by omega)
  simpa using hbits

theorem nearestDouble_zero : nearestDouble 0 = 0 := by
  simp [nearestDouble, roundHalfEven]

theorem nearestDouble_nonneg {q : ℚ} (h : 0 ≤ q) : 0 ≤ nearestDouble q := by
  have hpos : (0 : ℚ) < 2 ^ lastBit q := zpow_pos two_pos _
  have hround : (0 : ℤ) ≤ roundHalfEven (q / 2 ^ lastBit q) :=
    le_roundHalfEven (by exact_mod_cast div_nonneg h hpos.le)
  exact mul_nonneg (by exact_mod_cast hround) hpos.le

/-- A power of two is a multiple of the last bit of what it does not exceed. -/
theorem exists_zpow_eq_mul {k l : ℤ} (h : l ≤ k) : ∃ n : ℤ, (n : ℚ) * 2 ^ l = 2 ^ k := by
  obtain ⟨j, hj⟩ := Int.eq_ofNat_of_zero_le (show 0 ≤ k - l by omega)
  refine ⟨2 ^ j, ?_⟩
  push_cast
  rw [← zpow_natCast, ← zpow_add₀ two_ne_zero]
  congr 1
  omega

theorem nearestDouble_le_zpow {q : ℚ} {k : ℤ} (hk : lastBit q ≤ k) (h : q ≤ 2 ^ k) :
    nearestDouble q ≤ 2 ^ k := by
  obtain ⟨n, hn⟩ := exists_zpow_eq_mul hk
  have hpos : (0 : ℚ) < 2 ^ lastBit q := zpow_pos two_pos _
  have hround : roundHalfEven (q / 2 ^ lastBit q) ≤ n := roundHalfEven_le (by rwa [div_le_iff₀ hpos, hn])
  have hcast : (roundHalfEven (q / 2 ^ lastBit q) : ℚ) ≤ n := by exact_mod_cast hround
  rw [nearestDouble, ← hn]
  exact mul_le_mul_of_nonneg_right hcast hpos.le

theorem zpow_le_nearestDouble {q : ℚ} {k : ℤ} (hk : lastBit q ≤ k) (h : 2 ^ k ≤ q) :
    2 ^ k ≤ nearestDouble q := by
  obtain ⟨n, hn⟩ := exists_zpow_eq_mul hk
  have hpos : (0 : ℚ) < 2 ^ lastBit q := zpow_pos two_pos _
  have hround : n ≤ roundHalfEven (q / 2 ^ lastBit q) := le_roundHalfEven (by rwa [le_div_iff₀ hpos, hn])
  have hcast : (n : ℚ) ≤ roundHalfEven (q / 2 ^ lastBit q) := by exact_mod_cast hround
  rw [nearestDouble, ← hn]
  exact mul_le_mul_of_nonneg_right hcast hpos.le

theorem nearestDouble_mono {p q : ℚ} (hp : 0 ≤ p) (h : p ≤ q) : nearestDouble p ≤ nearestDouble q := by
  rcases hp.eq_or_lt with rfl | hpos
  · rw [nearestDouble_zero]
    exact nearestDouble_nonneg h
  rcases (lastBit_mono hpos h).eq_or_lt with hsame | hlt
  · have hbit : (0 : ℚ) < 2 ^ lastBit q := zpow_pos two_pos _
    have hround : roundHalfEven (p / 2 ^ lastBit q) ≤ roundHalfEven (q / 2 ^ lastBit q) :=
      roundHalfEven_mono (div_le_div_of_nonneg_right h hbit.le)
    have hcast : (roundHalfEven (p / 2 ^ lastBit q) : ℚ) ≤ roundHalfEven (q / 2 ^ lastBit q) := by
      exact_mod_cast hround
    rw [nearestDouble, nearestDouble, hsame]
    exact mul_le_mul_of_nonneg_right hcast hbit.le
  · -- a power of two lies between them
    have hqpos : 0 < q := hpos.trans_le h
    have hq : lastBit q = Int.log 2 q - 52 := by
      have hleft : -1074 ≤ lastBit p := le_max_right _ _
      have hbit : lastBit q = max (Int.log 2 q - 52) (-1074) := by rw [lastBit, abs_of_pos hqpos]
      omega
    have hp' : Int.log 2 p < Int.log 2 q := by
      have hbit : Int.log 2 p - 52 ≤ lastBit p := by
        rw [lastBit, abs_of_pos hpos]
        exact le_max_left _ _
      omega
    have hbetween : p ≤ 2 ^ Int.log 2 q := ((Int.lt_zpow_iff_log_lt (by decide) hpos).mpr hp').le
    have hbetween' : (2 : ℚ) ^ Int.log 2 q ≤ q := (Int.zpow_le_iff_le_log (by decide) hqpos).mpr le_rfl
    exact (nearestDouble_le_zpow (by omega) hbetween).trans (zpow_le_nearestDouble (by omega) hbetween')

theorem nearestDouble_nearestDouble {q : ℚ} (h : 0 ≤ q) :
    nearestDouble (nearestDouble q) = nearestDouble q := by
  rcases h.eq_or_lt with rfl | hpos
  · rw [nearestDouble_zero, nearestDouble_zero]
  have hbit : (0 : ℚ) < 2 ^ lastBit q := zpow_pos two_pos _
  have hlow : -1074 ≤ lastBit q := le_max_right _ _
  have hlog : q < 2 ^ (lastBit q + 53) := by
    have hlt : Int.log 2 q < lastBit q + 53 := by
      rw [lastBit, abs_of_pos hpos]
      omega
    exact (Int.lt_zpow_iff_log_lt (by decide) hpos).mpr hlt
  have hn : 0 ≤ roundHalfEven (q / 2 ^ lastBit q) :=
    le_roundHalfEven (by exact_mod_cast div_nonneg h hbit.le)
  have hle : roundHalfEven (q / 2 ^ lastBit q) ≤ 2 ^ 53 := by
    refine roundHalfEven_le ?_
    rw [div_le_iff₀ hbit]
    push_cast
    rw [add_comm, zpow_add₀ two_ne_zero] at hlog
    exact hlog.le
  rcases hle.eq_or_lt with hfull | hlt
  · -- rounded up to the next power of two
    have hnext : nearestDouble q = ((2 ^ 52 : ℤ) : ℚ) * 2 ^ (lastBit q + 1) := by
      rw [nearestDouble, hfull, zpow_add_one₀ two_ne_zero]
      push_cast
      ring
    rw [hnext]
    exact nearestDouble_of_bits (by decide) (by decide) (by omega)
  · exact nearestDouble_of_bits hn hlt hlow

/-- A number below a power of two is rounded by half its last bit at most. -/
theorem abs_nearestDouble_sub_le {q : ℚ} {k : ℤ} (hk : -1022 ≤ k) (h : 0 ≤ q) (hlt : q < 2 ^ (k + 1)) :
    |nearestDouble q - q| ≤ 2 ^ (k - 53) := by
  rcases h.eq_or_lt with rfl | hpos
  · rw [nearestDouble_zero, sub_zero, abs_zero]
    exact (zpow_pos two_pos _).le
  have hbit : (0 : ℚ) < 2 ^ lastBit q := zpow_pos two_pos _
  obtain ⟨hlow, hhigh⟩ := roundHalfEven_bounds (q / 2 ^ lastBit q)
  have hquotient : q = q / 2 ^ lastBit q * 2 ^ lastBit q := (div_mul_cancel₀ q hbit.ne').symm
  have hlast : (2 : ℚ) ^ lastBit q ≤ 2 ^ (k - 52) :=
    zpow_le_zpow_right₀ one_le_two (lastBit_le hk hpos hlt)
  have hhalf : (2 : ℚ) ^ (k - 52) = 2 * 2 ^ (k - 53) := by
    rw [← zpow_one_add₀ two_ne_zero]
    congr 1
    ring
  have herror : |(roundHalfEven (q / 2 ^ lastBit q) : ℚ) - q / 2 ^ lastBit q| ≤ 1 / 2 :=
    abs_le.mpr ⟨by linarith, by linarith⟩
  calc |nearestDouble q - q|
      = |(roundHalfEven (q / 2 ^ lastBit q) : ℚ) - q / 2 ^ lastBit q| * 2 ^ lastBit q := by
        rw [← abs_of_pos hbit, ← abs_mul, abs_of_pos hbit, sub_mul, ← hquotient, nearestDouble]
    _ ≤ 1 / 2 * 2 ^ (k - 52) := mul_le_mul herror hlast hbit.le (by norm_num)
    _ = 2 ^ (k - 53) := by rw [hhalf]; ring

theorem two_pow_le_nearestDouble {k : ℕ} {q : ℚ} (h : (2 : ℚ) ^ k ≤ q) :
    (2 : ℚ) ^ k ≤ nearestDouble q := by
  have hdouble := nearestDouble_of_bits (n := 1) (e := k) (by decide) (by decide) (by omega)
  rw [Int.cast_one, one_mul, zpow_natCast] at hdouble
  calc (2 : ℚ) ^ k = nearestDouble (2 ^ k) := hdouble.symm
    _ ≤ nearestDouble q := nearestDouble_mono (pow_nonneg two_pos.le k) h

theorem nearestDouble_eq_natCast {m n k : ℕ} (hk : k ≤ 53) (hn : n < 2 ^ k) :
    nearestDouble m = n ↔ m = n := by
  refine ⟨?_, ?_⟩
  · intro h
    rcases lt_or_ge m (2 ^ k) with hlt | hge
    · rw [nearestDouble_natCast (lt_of_lt_of_le hlt (Nat.pow_le_pow_right two_pos hk))] at h
      exact_mod_cast h
    · have hpow := two_pow_le_nearestDouble (k := k) (q := m) (by exact_mod_cast hge)
      rw [h] at hpow
      have hle : 2 ^ k ≤ n := by exact_mod_cast hpow
      omega
  · rintro rfl
    exact nearestDouble_natCast (lt_of_lt_of_le hn (Nat.pow_le_pow_right two_pos hk))

end GuardTime
