import GuardTime.NoisyOr
import Mathlib.Data.Rat.Floor
import Mathlib.Data.List.MinMax

namespace GuardTime

open NoisyOr

/-- `Math.round`, where a half rounds up. -/
def Math.round (x : ℚ) : ℤ := ⌊x + 1 / 2⌋

/-- The product is taken over exact rationals. -/
def computeConfidence (weights : List Nat) : ℤ :=
  if weights.length = 0 then 0
  else
    let missProbability := weights.foldl (fun acc (w : Nat) => acc * (1 - (w : ℚ) / 100)) 1
    Math.round ((1 - missProbability) * 100)

/-- The chances that the weights stand for. -/
def chances (weights : List Nat) : List ℚ := weights.map fun w : Nat => (w : ℚ) / 100

def Percentages (weights : List Nat) : Prop := ∀ w ∈ weights, w ≤ 100

theorem Math.round_mono {x y : ℚ} (h : x ≤ y) : Math.round x ≤ Math.round y :=
  Int.floor_le_floor (by linarith)

theorem Math.round_natCast (n : Nat) : Math.round (n : ℚ) = n := by
  rw [Math.round, Int.floor_eq_iff]
  refine ⟨?_, ?_⟩
  · push_cast
    linarith
  · push_cast
    linarith

/-- Numbers close to each other are rounded alike where no middle is as close. -/
theorem Math.round_eq_of_near {x y δ : ℚ} (hy : ∀ n : ℤ, δ ≤ |y - (n + 1 / 2)|) (h : |x - y| < δ) :
    Math.round x = Math.round y := by
  have hfloor := Int.floor_le (y + 1 / 2)
  have hnext := Int.lt_floor_add_one (y + 1 / 2)
  obtain ⟨hlow, hhigh⟩ := abs_lt.mp h
  have hbelow := hy (⌊y + 1 / 2⌋ - 1)
  have habove := hy ⌊y + 1 / 2⌋
  push_cast at hbelow
  rw [abs_of_nonneg (by linarith)] at hbelow
  rw [abs_of_nonpos (by linarith)] at habove
  rw [Math.round, Math.round, Int.floor_eq_iff]
  exact ⟨by linarith, by linarith⟩

theorem foldl_missed (weights : List Nat) (acc : ℚ) :
    weights.foldl (fun acc (w : Nat) => acc * (1 - (w : ℚ) / 100)) acc = acc * missed (chances weights) := by
  induction weights generalizing acc with
  | nil => simp [chances]
  | cons w weights ih =>
    have htail := ih (acc * (1 - (w : ℚ) / 100))
    rw [List.foldl_cons, htail, mul_assoc]
    simp [chances]

theorem computeConfidence_eq (weights : List Nat) :
    computeConfidence weights = Math.round (noisyOr (chances weights) * 100) := by
  unfold computeConfidence
  split
  next h =>
    have hnil : weights = [] := List.eq_nil_of_length_eq_zero h
    subst hnil
    have hzero := Math.round_natCast 0
    simpa [chances, noisyOr] using hzero.symm
  next => simp only [foldl_missed, one_mul, noisyOr]

theorem Percentages.chances {weights : List Nat} (h : Percentages weights) :
    Chances (chances weights) := by
  intro p hp
  obtain ⟨w, hw, rfl⟩ := List.mem_map.mp hp
  have hle : (w : ℚ) ≤ 100 := by exact_mod_cast h w hw
  refine ⟨by positivity, ?_⟩
  linarith

theorem computeConfidence_mono {weights others : List Nat}
    (h : noisyOr (chances weights) ≤ noisyOr (chances others)) :
    computeConfidence weights ≤ computeConfidence others := by
  rw [computeConfidence_eq, computeConfidence_eq]
  exact Math.round_mono (by linarith)

theorem computeConfidence_perm {weights others : List Nat} (h : weights.Perm others) :
    computeConfidence weights = computeConfidence others := by
  have hchances : (chances weights).Perm (chances others) := h.map _
  rw [computeConfidence_eq, computeConfidence_eq, noisyOr, noisyOr, missed_perm hchances]

theorem computeConfidence_singleton (w : Nat) : computeConfidence [w] = w := by
  have hscale : (w : ℚ) / 100 * 100 = w := by ring
  rw [computeConfidence_eq, chances, List.map_singleton, noisyOr_singleton, hscale,
    Math.round_natCast]

theorem computeConfidence_le {weights : List Nat} (h : Percentages weights) :
    computeConfidence weights ≤ 100 := by
  have hone := noisyOr_le_one h.chances
  have hhundred := Math.round_natCast 100
  calc computeConfidence weights
      = Math.round (noisyOr (chances weights) * 100) := computeConfidence_eq weights
    _ ≤ Math.round ((100 : Nat) : ℚ) := Math.round_mono (by push_cast; linarith)
    _ = 100 := hhundred

theorem le_computeConfidence {weights : List Nat} (h : Percentages weights) {w : Nat}
    (hw : w ∈ weights) : (w : ℤ) ≤ computeConfidence weights := by
  have hle : (w : ℚ) / 100 ≤ noisyOr (chances weights) :=
    le_noisyOr h.chances (List.mem_map_of_mem hw)
  calc (w : ℤ) = Math.round (w : ℚ) := (Math.round_natCast w).symm
    _ ≤ Math.round (noisyOr (chances weights) * 100) := Math.round_mono (by linarith)
    _ = computeConfidence weights := (computeConfidence_eq weights).symm

theorem computeConfidence_le_append {weights more all : List Nat} (h : Percentages weights)
    (hm : Percentages more) (hp : all.Perm (weights ++ more)) :
    computeConfidence weights ≤ computeConfidence all := by
  have hperm : (chances all).Perm (chances weights ++ chances more) := by
    have hmap := hp.map fun w : Nat => (w : ℚ) / 100
    rwa [List.map_append] at hmap
  exact computeConfidence_mono (noisyOr_le_of_perm_append hperm h.chances hm.chances)

theorem Percentages.of_raised {weights raised : List Nat}
    (hle : List.Forall₂ (· ≤ ·) weights raised) (hr : Percentages raised) : Percentages weights := by
  induction hle with
  | nil => exact hr
  | cons hwr _ ih =>
    obtain ⟨hhead, htail⟩ := List.forall_mem_cons.mp hr
    exact List.forall_mem_cons.mpr ⟨hwr.trans hhead, ih htail⟩

theorem computeConfidence_raised {weights raised : List Nat}
    (hle : List.Forall₂ (· ≤ ·) weights raised) (hr : Percentages raised) :
    computeConfidence weights ≤ computeConfidence raised := by
  have hw := Percentages.of_raised hle hr
  refine computeConfidence_mono (noisyOr_mono ?_ hw.chances hr.chances)
  rw [chances, chances, List.forall₂_map_left_iff, List.forall₂_map_right_iff]
  refine List.Forall₂.imp (fun w r h => ?_) hle
  have hcast : (w : ℚ) ≤ r := by exact_mod_cast h
  linarith

/-- The score of percentages lies between the largest of them and 100, whatever their order, never
falls when one is added or raised, and is the weight itself for a single one. -/
theorem computeConfidence_law (weights : List Nat) (hne : weights ≠ [])
    (hw : ∀ w ∈ weights, w ≤ 100) :
    (∃ largest ∈ weights, (∀ w ∈ weights, w ≤ largest) ∧
      (largest : ℤ) ≤ computeConfidence weights) ∧
    computeConfidence weights ≤ 100 ∧
    (∀ others, others.Perm weights → computeConfidence others = computeConfidence weights) ∧
    (∀ before after w, before ++ after = weights → w ≤ 100 →
      computeConfidence weights ≤ computeConfidence (before ++ w :: after)) ∧
    (∀ raised, List.Forall₂ (· ≤ ·) weights raised → (∀ w ∈ raised, w ≤ 100) →
      computeConfidence weights ≤ computeConfidence raised) ∧
    ∀ w, weights = [w] → computeConfidence weights = w := by
  refine ⟨?_, computeConfidence_le hw, fun _ h => computeConfidence_perm h, ?_,
    fun _ h hr => computeConfidence_raised h hr, ?_⟩
  · have hpos : 0 < weights.length := List.length_pos_of_ne_nil hne
    have hmem := List.maximum_of_length_pos_mem hpos
    exact ⟨_, hmem, fun w h => List.le_maximum_of_length_pos_of_mem h hpos,
      le_computeConfidence hw hmem⟩
  · intro before after w heq hle
    have hmore : Percentages [w] := fun v hv => List.mem_singleton.mp hv ▸ hle
    have hperm : (before ++ w :: after).Perm (weights ++ [w]) := by
      rw [← heq]
      exact List.perm_middle.trans (List.perm_append_singleton w _).symm
    exact computeConfidence_le_append hw hmore hperm
  · intro w h
    rw [h, computeConfidence_singleton]

/-- Two and three signals. -/
theorem computeConfidence_law_sample :
    computeConfidence [85, 80] = 97 ∧ computeConfidence [90, 90, 90] = 100 ∧
      computeConfidence [85, 80] ≤ computeConfidence [85, 25, 80] :=
  ⟨by decide +kernel, by decide +kernel,
    (computeConfidence_law [85, 80] (by decide) (by decide)).2.2.2.1 [85] [80] 25 rfl (by decide)⟩

end GuardTime
