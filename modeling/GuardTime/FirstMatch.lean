import Mathlib.Data.List.Find
import Mathlib.Data.List.Perm.Basic

namespace GuardTime

section

variable {F : Type} (takes : F → Bool) (prio : F → Nat)

/-- The first of the rules that take a packet, among those of the least priority number. -/
def firstByPrio (rules : List F) : Option F :=
  rules.find? fun rule => takes rule && rules.all fun other => !takes other || prio rule ≤ prio other

variable {takes}

theorem exists_least {rules : List F} (h : ∃ rule ∈ rules, takes rule = true) :
    ∃ rule ∈ rules, takes rule = true ∧
      ∀ other ∈ rules, takes other = true → prio rule ≤ prio other := by
  induction rules with
  | nil => simp at h
  | cons head rules ih =>
    by_cases hrest : ∃ rule ∈ rules, takes rule = true
    · obtain ⟨least, hleast, htakes, hle⟩ := ih hrest
      by_cases hhead : takes head = true ∧ prio head < prio least
      · refine ⟨head, List.mem_cons_self, hhead.1, ?_⟩
        intro other hother ht
        rcases List.mem_cons.mp hother with rfl | hother
        · exact Nat.le_refl _
        · have := hle other hother ht
          omega
      · refine ⟨least, List.mem_cons_of_mem _ hleast, htakes, ?_⟩
        intro other hother ht
        rcases List.mem_cons.mp hother with rfl | hother
        · have hnot : ¬prio other < prio least := fun hlt => hhead ⟨ht, hlt⟩
          omega
        · exact hle other hother ht
    · obtain ⟨rule, hrule, htakes⟩ := h
      have hnone : ∀ other ∈ rules, takes other ≠ true := fun other hother ht =>
        hrest ⟨other, hother, ht⟩
      rcases List.mem_cons.mp hrule with rfl | hrule
      · refine ⟨rule, List.mem_cons_self, htakes, ?_⟩
        intro other hother ht
        rcases List.mem_cons.mp hother with rfl | hother
        · exact Nat.le_refl _
        · exact absurd ht (hnone other hother)
      · exact absurd htakes (hnone rule hrule)

variable {prio}

/-- Rules of one greater priority number decide where no rule before them does. -/
theorem firstByPrio_append {rules band : List F} {n : Nat} (hrules : ∀ rule ∈ rules, prio rule < n)
    (hband : ∀ rule ∈ band, prio rule = n) :
    firstByPrio takes prio (rules ++ band) =
      (firstByPrio takes prio rules).or (band.find? takes) := by
  unfold firstByPrio
  rw [List.find?_append]
  by_cases hany : ∃ rule ∈ rules, takes rule = true
  · obtain ⟨least, hleast, htakes, hle⟩ := exists_least prio hany
    have hbefore : (rules.find? fun rule => takes rule && (rules ++ band).all fun other =>
        !takes other || decide (prio rule ≤ prio other)) =
        rules.find? fun rule => takes rule && rules.all fun other =>
          !takes other || decide (prio rule ≤ prio other) := by
      refine List.find?_congr ?_
      intro rule hrule
      have hless : band.all (fun other => !takes other || decide (prio rule ≤ prio other)) = true := by
        refine List.all_eq_true.mpr ?_
        intro other hother
        have hlt := hrules rule hrule
        have heq := hband other hother
        simp [show prio rule ≤ prio other by omega]
      rw [List.all_append, hless, Bool.and_true]
    have hsome : (rules.find? fun rule => takes rule && rules.all fun other =>
        !takes other || decide (prio rule ≤ prio other)).isSome := by
      refine List.find?_isSome.mpr ⟨least, hleast, ?_⟩
      simp only [htakes, Bool.true_and, List.all_eq_true, Bool.or_eq_true, Bool.not_eq_true',
        decide_eq_true_eq]
      intro other hother
      cases ht : takes other with
      | false => exact Or.inl rfl
      | true => exact Or.inr (hle other hother ht)
    obtain ⟨first, hfirst⟩ := Option.isSome_iff_exists.mp hsome
    rw [hbefore, hfirst]
    rfl
  · have hnone : ∀ rule ∈ rules, takes rule = false := by
      intro rule hrule
      cases ht : takes rule with
      | false => rfl
      | true => exact absurd ⟨rule, hrule, ht⟩ hany
    have hempty : ∀ p : F → Bool, (rules.find? fun rule => takes rule && p rule) = none := by
      intro p
      refine List.find?_eq_none.mpr ?_
      intro rule hrule
      simp [hnone rule hrule]
    rw [hempty, hempty, Option.none_or, Option.none_or]
    refine List.find?_congr ?_
    intro rule hrule
    have hall : ((rules ++ band).all fun other =>
        !takes other || decide (prio rule ≤ prio other)) = true := by
      refine List.all_eq_true.mpr ?_
      intro other hother
      rcases List.mem_append.mp hother with hother | hother
      · simp [hnone other hother]
      · have hone := hband rule hrule
        have htwo := hband other hother
        simp [hone, htwo]
    rw [hall, Bool.and_true]

end

section

variable {α β : Type} {f : α → Option β}

/-- Where all who answer agree, the first answer does not depend on the order. -/
theorem findSome_perm {xs ys : List α} (h : ys.Perm xs)
    (hone : ∀ x ∈ xs, ∀ y ∈ xs, ∀ b c, f x = some b → f y = some c → b = c) :
    ys.findSome? f = xs.findSome? f := by
  cases hy : ys.findSome? f with
  | none =>
    have hnone := List.findSome?_eq_none_iff.mp hy
    exact (List.findSome?_eq_none_iff.mpr fun x hx => hnone x (h.mem_iff.mpr hx)).symm
  | some b =>
    obtain ⟨y, hmem, hb⟩ := List.exists_of_findSome?_eq_some hy
    cases hx : xs.findSome? f with
    | none =>
      have hnone := List.findSome?_eq_none_iff.mp hx y (h.mem_iff.mp hmem)
      rw [hnone] at hb
      cases hb
    | some c =>
      obtain ⟨x, hxmem, hc⟩ := List.exists_of_findSome?_eq_some hx
      rw [hone y (h.mem_iff.mp hmem) x hxmem b c hb hc]

theorem exists_perm_findSome [DecidableEq α] {xs : List α} {x : α} {b : β} (hx : x ∈ xs)
    (hb : f x = some b) : ∃ ys : List α, ys.Perm xs ∧ ys.findSome? f = some b :=
  ⟨x :: xs.erase x, (List.perm_cons_erase hx).symm, by rw [List.findSome?_cons, hb]⟩

end

end GuardTime
