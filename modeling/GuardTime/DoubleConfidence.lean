import GuardTime.Binary64
import GuardTime.VpnConfidence

namespace GuardTime

open NoisyOr

/-! The score as the agent computes it, every operation rounded to a double. -/

namespace Doubles

/-- `1 - w / 100`. -/
def missFactor (w : Nat) : ℚ := nearestDouble (1 - nearestDouble (w / 100))

def missProbability (weights : List Nat) : ℚ :=
  weights.foldl (fun acc w => nearestDouble (acc * missFactor w)) 1

/-- `computeConfidence`. -/
def computeConfidence (weights : List Nat) : ℤ :=
  if weights.length = 0 then 0
  else Math.round (nearestDouble (nearestDouble (1 - missProbability weights) * 100))

theorem nearestDouble_one : nearestDouble 1 = 1 := by
  have hone := nearestDouble_natCast (n := 1) (by decide)
  simpa using hone

theorem nearestDouble_unit {q : ℚ} (h : 0 ≤ q) (hle : q ≤ 1) :
    0 ≤ nearestDouble q ∧ nearestDouble q ≤ 1 :=
  ⟨nearestDouble_nonneg h, nearestDouble_one ▸ nearestDouble_mono h hle⟩

theorem nearestDouble_unit_error {q : ℚ} (h : 0 ≤ q) (hle : q ≤ 1) :
    |nearestDouble q - q| ≤ 2 ^ (-53 : ℤ) := by
  have hlt : q < 2 ^ ((0 : ℤ) + 1) := by
    norm_num
    linarith
  exact abs_nearestDouble_sub_le (k := 0) (by decide) h hlt

theorem weight_unit {w : Nat} (h : w ≤ 100) : 0 ≤ (w : ℚ) / 100 ∧ (w : ℚ) / 100 ≤ 1 := by
  have hle : (w : ℚ) ≤ 100 := by exact_mod_cast h
  exact ⟨by positivity, by linarith⟩

theorem missFactor_unit {w : Nat} (h : w ≤ 100) : 0 ≤ missFactor w ∧ missFactor w ≤ 1 := by
  obtain ⟨hzero, hone⟩ := weight_unit h
  obtain ⟨hzero, hone⟩ := nearestDouble_unit hzero hone
  exact nearestDouble_unit (by linarith) (by linarith)

theorem missFactor_anti {w v : Nat} (h : w ≤ v) (hv : v ≤ 100) : missFactor v ≤ missFactor w := by
  obtain ⟨hzero, hone⟩ := weight_unit hv
  have hcast : (w : ℚ) ≤ v := by exact_mod_cast h
  have hquotient : nearestDouble ((w : ℚ) / 100) ≤ nearestDouble ((v : ℚ) / 100) :=
    nearestDouble_mono (by positivity) (by linarith)
  have hunit := (nearestDouble_unit hzero hone).2
  exact nearestDouble_mono (by linarith) (by linarith)

/-- What the product may be: a double that is a chance. -/
structure Chance (acc : ℚ) : Prop where
  nonneg : 0 ≤ acc
  le_one : acc ≤ 1
  double : nearestDouble acc = acc

theorem chance_one : Chance 1 := ⟨zero_le_one, le_rfl, nearestDouble_one⟩

variable {acc : ℚ} {w : Nat} {weights : List Nat}

theorem Chance.mul (h : Chance acc) (hw : w ≤ 100) :
    Chance (nearestDouble (acc * missFactor w)) ∧ nearestDouble (acc * missFactor w) ≤ acc := by
  obtain ⟨hzero, hone⟩ := missFactor_unit hw
  have hprod : 0 ≤ acc * missFactor w := mul_nonneg h.nonneg hzero
  have hle : nearestDouble (acc * missFactor w) ≤ acc := by
    calc nearestDouble (acc * missFactor w)
        ≤ nearestDouble acc := nearestDouble_mono hprod (mul_le_of_le_one_right h.nonneg hone)
      _ = acc := h.double
  exact ⟨⟨nearestDouble_nonneg hprod, hle.trans h.le_one, nearestDouble_nearestDouble hprod⟩, hle⟩

theorem foldl_chance (hw : Percentages weights) (h : Chance acc) :
    Chance (weights.foldl (fun acc w => nearestDouble (acc * missFactor w)) acc) := by
  induction weights generalizing acc with
  | nil => exact h
  | cons w weights ih =>
    obtain ⟨hhead, htail⟩ := List.forall_mem_cons.mp hw
    exact ih htail (h.mul hhead).1

theorem missProbability_chance (hw : Percentages weights) : Chance (missProbability weights) :=
  foldl_chance hw chance_one

theorem foldl_anti {acc' : ℚ} {more : List Nat} (hs : weights.Sublist more) (hm : Percentages more)
    (h : Chance acc) (h' : Chance acc') (hle : acc' ≤ acc) :
    more.foldl (fun acc w => nearestDouble (acc * missFactor w)) acc' ≤
      weights.foldl (fun acc w => nearestDouble (acc * missFactor w)) acc := by
  induction hs generalizing acc acc' with
  | slnil => exact hle
  | cons w _ ih =>
    obtain ⟨hhead, htail⟩ := List.forall_mem_cons.mp hm
    obtain ⟨hchance, hless⟩ := h'.mul hhead
    exact ih htail h hchance (hless.trans hle)
  | cons_cons w _ ih =>
    obtain ⟨hhead, htail⟩ := List.forall_mem_cons.mp hm
    obtain ⟨hzero, -⟩ := missFactor_unit hhead
    refine ih htail (h.mul hhead).1 (h'.mul hhead).1 ?_
    exact nearestDouble_mono (mul_nonneg h'.nonneg hzero) (mul_le_mul_of_nonneg_right hle hzero)

theorem missProbability_anti {more : List Nat} (hs : weights.Sublist more) (hm : Percentages more) :
    missProbability more ≤ missProbability weights :=
  foldl_anti hs hm chance_one chance_one le_rfl

/-- Nearly nothing is missed: this is the least such product for which the score is not full. -/
def fullBelow : ℚ := 90071992547411 / 2 ^ 54

theorem score_mono {p p' : ℚ} (hp : p ≤ p') (hone : p' ≤ 1) :
    nearestDouble (nearestDouble (1 - p') * 100) ≤ nearestDouble (nearestDouble (1 - p) * 100) := by
  have hrest : nearestDouble (1 - p') ≤ nearestDouble (1 - p) :=
    nearestDouble_mono (by linarith) (by linarith)
  have hnonneg : 0 ≤ nearestDouble (1 - p') := nearestDouble_nonneg (by linarith)
  exact nearestDouble_mono (by linarith) (by linarith)

/-- The double above the middle that `1 - fullBelow` is. -/
def fullRest : ℚ := 8962163258467287 / 2 ^ 53

theorem fullRest_le {p : ℚ} (h : p < fullBelow) : fullRest ≤ nearestDouble (1 - p) := by
  have hmiddle : 1 - fullBelow = (8962163258467287 - 1 / 2) / 2 ^ 53 := by
    norm_num [fullBelow]
  have hdouble : nearestDouble fullRest = fullRest := by
    have hbits := nearestDouble_of_bits (n := 8962163258467287) (e := -53) (by decide) (by decide)
      (by decide)
    norm_num [fullRest] at hbits ⊢
    exact hbits
  rcases le_or_gt fullRest (1 - p) with hle | hlt
  · calc fullRest = nearestDouble fullRest := hdouble.symm
      _ ≤ nearestDouble (1 - p) := nearestDouble_mono (by norm_num [fullRest]) hle
  · have hlow : (2 : ℚ) ^ (-1 : ℤ) ≤ 1 - p := by
      norm_num [fullBelow] at h ⊢
      linarith
    have hhigh : 1 - p < (2 : ℚ) ^ ((-1 : ℤ) + 1) := by
      norm_num [fullRest] at hlt ⊢
      linarith
    have hbit := lastBit_eq (by decide) hlow hhigh
    rw [nearestDouble, hbit]
    have hround : (8962163258467287 : ℤ) ≤ roundHalfEven ((1 - p) / 2 ^ ((-1 : ℤ) - 52)) := by
      refine le_roundHalfEven_of_half_lt ?_
      norm_num [fullBelow] at h ⊢
      linarith
    have hcast : (8962163258467287 : ℚ) ≤ roundHalfEven ((1 - p) / 2 ^ ((-1 : ℤ) - 52)) := by
      exact_mod_cast hround
    calc fullRest = 8962163258467287 * 2 ^ ((-1 : ℤ) - 52) := by norm_num [fullRest]
      _ ≤ _ := mul_le_mul_of_nonneg_right hcast (zpow_pos two_pos _).le

theorem computeConfidence_full (hw : Percentages weights) :
    computeConfidence weights = 100 ↔ missProbability weights < fullBelow := by
  have hchance := missProbability_chance hw
  unfold computeConfidence
  split
  next h =>
    have hnil : weights = [] := List.eq_nil_of_length_eq_zero h
    subst hnil
    refine iff_of_false (by decide) ?_
    norm_num [missProbability, fullBelow]
  next =>
    rw [Math.round, Int.floor_eq_iff]
    push_cast
    refine ⟨?_, ?_⟩
    · intro hfull
      by_contra hge
      have hscore := score_mono (not_lt.mp hge) hchance.le_one
      have hbelow : nearestDouble (nearestDouble (1 - fullBelow) * 100) < 199 / 2 := by
        decide +kernel
      linarith [hfull.1]
    · intro hlt
      have hrest := fullRest_le hlt
      have hunit := nearestDouble_unit (q := 1 - missProbability weights)
        (by linarith [hchance.le_one]) (by linarith [hchance.nonneg])
      have hlow : 199 / 2 ≤ nearestDouble (fullRest * 100) := by decide +kernel
      have hhigh : nearestDouble 100 = 100 := by decide +kernel
      have hmono := nearestDouble_mono (p := fullRest * 100) (by norm_num [fullRest])
        (mul_le_mul_of_nonneg_right hrest (by norm_num : (0 : ℚ) ≤ 100))
      have hmono' := nearestDouble_mono (p := nearestDouble (1 - missProbability weights) * 100)
        (q := 100) (by linarith [hunit.1]) (by linarith [hunit.2])
      exact ⟨by linarith, by linarith⟩

theorem foldl_replicate_anti {v : Nat} (hwv : w ≤ v) (hv : v ≤ 100) (n : Nat) {acc' : ℚ}
    (h : Chance acc) (h' : Chance acc') (hle : acc' ≤ acc) :
    (List.replicate n v).foldl (fun acc w => nearestDouble (acc * missFactor w)) acc' ≤
      (List.replicate n w).foldl (fun acc w => nearestDouble (acc * missFactor w)) acc := by
  induction n generalizing acc acc' with
  | zero => exact hle
  | succ n ih =>
    have hfactor := missFactor_anti hwv hv
    obtain ⟨hzero, -⟩ := missFactor_unit hv
    refine ih (h.mul (hwv.trans hv)).1 (h'.mul hv).1 ?_
    exact nearestDouble_mono (mul_nonneg h'.nonneg hzero)
      (mul_le_mul hle hfactor hzero h.nonneg)

theorem missProbability_repeated (hv : 20 ≤ w) (hw : w ≤ 100) :
    missProbability (List.replicate 32 w) < fullBelow := by
  have hleast : missProbability (List.replicate 32 20) < fullBelow := by decide +kernel
  exact (foldl_replicate_anti hv hw 32 chance_one chance_one le_rfl).trans_lt hleast

theorem missFactor_error (hw : w ≤ 100) : |missFactor w - (1 - (w : ℚ) / 100)| ≤ 2 * 2 ^ (-53 : ℤ) := by
  obtain ⟨hzero, hone⟩ := weight_unit hw
  obtain ⟨hzero', hone'⟩ := nearestDouble_unit hzero hone
  have hquotient := nearestDouble_unit_error hzero hone
  have hrest := nearestDouble_unit_error (q := 1 - nearestDouble ((w : ℚ) / 100)) (by linarith)
    (by linarith)
  have hsplit : missFactor w - (1 - (w : ℚ) / 100) =
      (missFactor w - (1 - nearestDouble ((w : ℚ) / 100))) -
        (nearestDouble ((w : ℚ) / 100) - (w : ℚ) / 100) := by ring
  rw [hsplit]
  calc _ ≤ |missFactor w - (1 - nearestDouble ((w : ℚ) / 100))| +
        |nearestDouble ((w : ℚ) / 100) - (w : ℚ) / 100| := abs_sub _ _
    _ ≤ 2 ^ (-53 : ℤ) + 2 ^ (-53 : ℤ) := add_le_add hrest hquotient
    _ = 2 * 2 ^ (-53 : ℤ) := (two_mul _).symm

/-- What earlier roundings cost shrinks with each factor, and leaves room for the three new ones. -/
theorem step_error {acc' exact factor exact' ε : ℚ} (hround : |acc' - acc * factor| ≤ ε)
    (hbefore : |acc - exact| ≤ 16 * ε) (hfactor : |factor - exact'| ≤ 2 * ε)
    (hunit : 0 ≤ factor ∧ factor ≤ 13 / 16) (hexact : 0 ≤ exact ∧ exact ≤ 1) :
    |acc' - exact * exact'| ≤ 16 * ε := by
  have hε : 0 ≤ ε := (abs_nonneg _).trans hround
  have hsplit : acc' - exact * exact' =
      (acc' - acc * factor) + ((acc - exact) * factor + exact * (factor - exact')) := by ring
  have hshrunk : |(acc - exact) * factor| ≤ 16 * ε * (13 / 16) := by
    rw [abs_mul, abs_of_nonneg hunit.1]
    exact mul_le_mul hbefore hunit.2 hunit.1 (by linarith)
  have hnew : |exact * (factor - exact')| ≤ 1 * (2 * ε) := by
    rw [abs_mul, abs_of_nonneg hexact.1]
    exact mul_le_mul hexact.2 hfactor (abs_nonneg _) zero_le_one
  calc |acc' - exact * exact'|
      ≤ |acc' - acc * factor| + |(acc - exact) * factor + exact * (factor - exact')| := by
        rw [hsplit]
        exact abs_add_le _ _
    _ ≤ |acc' - acc * factor| + (|(acc - exact) * factor| + |exact * (factor - exact')|) :=
        add_le_add_right (abs_add_le _ _) _
    _ ≤ ε + (16 * ε * (13 / 16) + 1 * (2 * ε)) := add_le_add hround (add_le_add hshrunk hnew)
    _ = 16 * ε := by ring

theorem foldl_error (hw : ∀ w ∈ weights, 20 ≤ w ∧ w ≤ 100) {exact : ℚ} (h : Chance acc)
    (hexact : 0 ≤ exact ∧ exact ≤ 1) (herror : |acc - exact| ≤ 16 * 2 ^ (-53 : ℤ)) :
    |weights.foldl (fun acc w => nearestDouble (acc * missFactor w)) acc -
      exact * missed (chances weights)| ≤ 16 * 2 ^ (-53 : ℤ) := by
  induction weights generalizing acc exact with
  | nil => simpa [chances] using herror
  | cons w weights ih =>
    obtain ⟨⟨hlow, hhigh⟩, htail⟩ := List.forall_mem_cons.mp hw
    obtain ⟨hzero, hone⟩ := missFactor_unit hhigh
    obtain ⟨hweight, hweight'⟩ := weight_unit hhigh
    have hleast : missFactor w ≤ 13 / 16 :=
      (missFactor_anti hlow hhigh).trans (by decide +kernel)
    have hprod : 0 ≤ acc * missFactor w := mul_nonneg h.nonneg hzero
    have hprod' : acc * missFactor w ≤ 1 := mul_le_one₀ h.le_one hzero hone
    have hround := nearestDouble_unit_error hprod hprod'
    have hstep := step_error hround herror (missFactor_error hhigh) ⟨hzero, hleast⟩ hexact
    rw [List.foldl_cons, chances, List.map_cons, missed_cons, ← mul_assoc, ← chances]
    refine ih htail (h.mul hhigh).1 ⟨?_, ?_⟩ hstep
    · exact mul_nonneg hexact.1 (by linarith)
    · exact mul_le_one₀ hexact.2 (by linarith) (by linarith)

theorem missProbability_error (hw : ∀ w ∈ weights, 20 ≤ w ∧ w ≤ 100) :
    |missProbability weights - missed (chances weights)| ≤ 16 * 2 ^ (-53 : ℤ) := by
  have herror := foldl_error hw chance_one ⟨zero_le_one, le_rfl⟩ (by norm_num)
  rwa [one_mul] at herror

/-- The exact score is not so close to the middle of two percentages that the roundings before the
last one could take it to the other side. -/
def Settled (weights : List Nat) : Prop :=
  ∀ n : ℤ, 1 / 2 ^ 42 < |noisyOr (chances weights) * 100 - (n + 1 / 2)|

theorem Settled.of_perm {others : List Nat} (h : Settled weights) (hp : weights.Perm others) :
    Settled others := by
  have hchances : (chances weights).Perm (chances others) := hp.map _
  rwa [Settled, noisyOr, missed_perm hchances] at h

theorem computeConfidence_settled (hw : ∀ w ∈ weights, 20 ≤ w ∧ w ≤ 100) (hs : Settled weights) :
    computeConfidence weights = GuardTime.computeConfidence weights := by
  by_cases hnil : weights.length = 0
  · rw [computeConfidence, GuardTime.computeConfidence, if_pos hnil, if_pos hnil]
  have hchance := missProbability_chance fun w hmem => (hw w hmem).2
  have hproduct := abs_le.mp (missProbability_error hw)
  have hnonneg : 0 ≤ 1 - missProbability weights := by linarith [hchance.le_one]
  have hone : 1 - missProbability weights ≤ 1 := by linarith [hchance.nonneg]
  have hrest := abs_le.mp (nearestDouble_unit_error hnonneg hone)
  have hunit := nearestDouble_unit hnonneg hone
  have hhundred : nearestDouble (1 - missProbability weights) * 100 < 2 ^ ((6 : ℤ) + 1) := by
    norm_num
    linarith [hunit.2]
  have hscaled := abs_le.mp (abs_nearestDouble_sub_le (k := 6) (by decide)
    (mul_nonneg hunit.1 (by norm_num)) hhundred)
  rw [computeConfidence_eq, computeConfidence, if_neg hnil]
  refine Math.round_eq_of_near (fun n => (hs n).le) ?_
  rw [abs_lt, noisyOr]
  norm_num at hproduct hrest hscaled ⊢
  exact ⟨by linarith, by linarith⟩

/-- 77.5 exactly: here the order of the roundings decides. -/
example : computeConfidence [25, 60, 25] = 77 ∧ computeConfidence [25, 25, 60] = 78 := by
  decide +kernel

end Doubles

end GuardTime
