import Mathlib.Algebra.Order.BigOperators.Ring.List
import Mathlib.Algebra.BigOperators.Group.List.Lemmas
import Mathlib.Algebra.Order.Field.Basic
import Mathlib.Tactic.Linarith

namespace GuardTime

/-! Independent pieces of evidence, each with the chance that it is right, and the chance that at
least one of them is. -/

namespace NoisyOr

variable {α : Type} [Field α]

/-- The chance that all of the evidence misses. -/
def missed (ps : List α) : α := (ps.map fun p => 1 - p).prod

def noisyOr (ps : List α) : α := 1 - missed ps

variable {ps qs : List α} {p q : α}

@[simp] theorem missed_nil : missed ([] : List α) = 1 := rfl

@[simp] theorem missed_cons : missed (p :: ps) = (1 - p) * missed ps := by
  simp [missed]

theorem missed_append : missed (ps ++ qs) = missed ps * missed qs := by
  simp [missed]

theorem missed_perm (h : ps.Perm qs) : missed ps = missed qs := (h.map _).prod_eq

@[simp] theorem noisyOr_singleton : noisyOr [p] = p := by
  simp [noisyOr]

variable [LinearOrder α]

/-- Every entry is a chance. -/
def Chances (ps : List α) : Prop := ∀ p ∈ ps, 0 ≤ p ∧ p ≤ 1

theorem Chances.head (h : Chances (p :: ps)) : 0 ≤ p ∧ p ≤ 1 := h p List.mem_cons_self

theorem Chances.tail (h : Chances (p :: ps)) : Chances ps :=
  fun q hq => h q (List.mem_cons_of_mem _ hq)

variable [IsStrictOrderedRing α]

theorem missed_nonneg (h : Chances ps) : 0 ≤ missed ps := by
  induction ps with
  | nil => exact zero_le_one
  | cons p ps ih =>
    rw [missed_cons]
    exact mul_nonneg (sub_nonneg.mpr h.head.2) (ih h.tail)

theorem missed_le_one (h : Chances ps) : missed ps ≤ 1 := by
  induction ps with
  | nil => exact le_rfl
  | cons p ps ih =>
    rw [missed_cons]
    exact mul_le_one₀ (sub_le_self 1 h.head.1) (missed_nonneg h.tail) (ih h.tail)

theorem noisyOr_le_one (h : Chances ps) : noisyOr ps ≤ 1 := sub_le_self 1 (missed_nonneg h)

/-- What misses more often leaves more missed. -/
theorem missed_anti (h : List.Forall₂ (· ≤ ·) ps qs) (hp : Chances ps) (hq : Chances qs) :
    missed qs ≤ missed ps := by
  induction h with
  | nil => exact le_rfl
  | @cons p q ps qs hle _ ih =>
    rw [missed_cons, missed_cons]
    calc (1 - q) * missed qs
        ≤ (1 - q) * missed ps :=
          mul_le_mul_of_nonneg_left (ih hp.tail hq.tail) (sub_nonneg.mpr hq.head.2)
      _ ≤ (1 - p) * missed ps :=
          mul_le_mul_of_nonneg_right (sub_le_sub_left hle 1) (missed_nonneg hp.tail)

theorem noisyOr_mono (h : List.Forall₂ (· ≤ ·) ps qs) (hp : Chances ps) (hq : Chances qs) :
    noisyOr ps ≤ noisyOr qs := sub_le_sub_left (missed_anti h hp hq) 1

theorem missed_append_le (hp : Chances ps) (hq : Chances qs) :
    missed (ps ++ qs) ≤ missed ps := by
  rw [missed_append]
  exact mul_le_of_le_one_right (missed_nonneg hp) (missed_le_one hq)

/-- More evidence never lowers the combination, wherever it stands in the list. -/
theorem noisyOr_le_of_perm_append {rs : List α} (h : rs.Perm (ps ++ qs)) (hp : Chances ps)
    (hq : Chances qs) : noisyOr ps ≤ noisyOr rs := by
  have hle := missed_append_le hp hq
  rw [← missed_perm h] at hle
  exact sub_le_sub_left hle 1

/-- The combination is at least each of the chances. -/
theorem le_noisyOr (h : Chances ps) (hp : p ∈ ps) : p ≤ noisyOr ps := by
  have hperm := List.perm_cons_erase hp
  have herase : Chances (ps.erase p) := fun q hq => h q (List.mem_of_mem_erase hq)
  have hsingle : Chances [p] := fun q hq => List.mem_singleton.mp hq ▸ h p hp
  calc p = noisyOr [p] := noisyOr_singleton.symm
    _ ≤ noisyOr ps := noisyOr_le_of_perm_append hperm hsingle herase

end NoisyOr

end GuardTime
