import Mathlib.Data.BitVec

namespace GuardTime

/-- The 32 bits that a bit operator takes of a number. -/
def toBits (x : ℤ) : BitVec 32 := BitVec.ofInt 32 x

/-- `x & y`. -/
def bitAnd (x y : ℤ) : ℤ := (toBits x &&& toBits y).toInt

/-- `x << y`, by the last five bits of the count. -/
def shiftLeft (x y : ℤ) : ℤ := (toBits x <<< ((toBits y).toNat % 32)).toInt

/-- `x >>> y`, the one operator whose result has no sign. -/
def shiftRightUnsigned (x y : ℤ) : ℤ := (toBits x >>> ((toBits y).toNat % 32)).toNat

theorem toBits_toInt (x : BitVec 32) : toBits x.toInt = x := BitVec.ofInt_toInt

theorem toBits_natCast (x : BitVec 32) : toBits (x.toNat : ℤ) = x := by
  rw [toBits, BitVec.ofInt_natCast, BitVec.ofNat_toNat, BitVec.setWidth_eq]

theorem toBits_shiftRightUnsigned_zero (x : ℤ) : toBits (shiftRightUnsigned x 0) = toBits x := by
  have hzero : (toBits 0).toNat % 32 = 0 := rfl
  rw [shiftRightUnsigned, hzero, BitVec.ushiftRight_zero, toBits_natCast]

theorem toBits_shiftLeft (x : ℤ) {count : ℕ} (h : count < 32) :
    toBits (shiftLeft x count) = toBits x <<< count := by
  have hcount : (toBits (count : ℤ)).toNat % 32 = count := by
    rw [toBits, BitVec.ofInt_natCast, BitVec.toNat_ofNat]
    omega
  rw [shiftLeft, hcount, toBits_toInt]

theorem bitAnd_eq_iff {x y z : ℤ} :
    bitAnd x z = bitAnd y z ↔ toBits x &&& toBits z = toBits y &&& toBits z := BitVec.toInt_inj

theorem getMsbD_mask {w p : ℕ} (hp : p ≤ w) (i : ℕ) :
    (BitVec.allOnes w <<< (w - p)).getMsbD i = decide (i < p) := by
  rw [BitVec.getMsbD_shiftLeft, BitVec.getMsbD_allOnes, decide_eq_decide]
  omega

/-- Under a mask of leading ones, two values are the same exactly if their leading bits are. -/
theorem and_mask_eq_iff {w p : ℕ} (hp : p ≤ w) {x y : BitVec w} :
    x &&& (BitVec.allOnes w <<< (w - p)) = y &&& (BitVec.allOnes w <<< (w - p)) ↔
      ∀ i < p, x.getMsbD i = y.getMsbD i := by
  refine ⟨?_, ?_⟩
  · intro h i hi
    have hbit := congrArg (fun bits => bits.getMsbD i) h
    simpa only [BitVec.getMsbD_and, getMsbD_mask hp, decide_eq_true hi, Bool.and_true] using hbit
  · intro h
    refine BitVec.eq_of_getMsbD_eq fun i _ => ?_
    rw [BitVec.getMsbD_and, BitVec.getMsbD_and, getMsbD_mask hp]
    by_cases hi : i < p
    · rw [h i hi]
    · rw [decide_eq_false hi, Bool.and_false, Bool.and_false]

end GuardTime
