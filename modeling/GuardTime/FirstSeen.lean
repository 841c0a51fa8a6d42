import Mathlib.Data.List.Induction

namespace GuardTime

section FirstSeen

variable {α β : Type}

theorem nodup_eraseDups [BEq α] [LawfulBEq α] (xs : List α) : xs.eraseDups.Nodup := by
  induction hlen : xs.length using Nat.strongRecOn generalizing xs with
  | ind n ih =>
    cases xs with
    | nil => exact List.nodup_nil
    | cons x xs =>
      rw [List.eraseDups_cons, List.nodup_cons]
      refine ⟨?_, ?_⟩
      · intro hx
        have hmem := List.mem_eraseDups.mp hx
        simp at hmem
      · have hshort := List.length_filter_le (fun y => !y == x) xs
        rw [List.length_cons] at hlen
        exact ih _ (by omega) _ rfl

theorem eraseDups_concat [DecidableEq α] (xs : List α) (x : α) :
    (xs ++ [x]).eraseDups = if x ∈ xs then xs.eraseDups else xs.eraseDups ++ [x] := by
  rw [List.eraseDups_append]
  split
  next hmem => simp [List.removeAll, hmem]
  next hmem => simp [List.removeAll, hmem, List.eraseDups_cons]

theorem find_eraseDups [DecidableEq α] (p : α → Bool) (xs : List α) :
    xs.eraseDups.find? p = xs.find? p := by
  induction xs using List.reverseRecOn with
  | nil => rfl
  | append_singleton xs x ih =>
    rw [eraseDups_concat, List.find?_append]
    split
    next hmem =>
      rw [ih]
      cases hfind : xs.find? p with
      | some found => rfl
      | none =>
        have hother : ¬p x = true := List.find?_eq_none.mp hfind x hmem
        simp [hother]
    next => rw [List.find?_append, ih]

/-- Elements that a function tells apart are first seen where their values are. -/
theorem eraseDups_map [DecidableEq α] [DecidableEq β] {f : α → β} {xs : List α}
    (hinj : ∀ x ∈ xs, ∀ y ∈ xs, f x = f y → x = y) :
    (xs.map f).eraseDups = xs.eraseDups.map f := by
  induction xs using List.reverseRecOn with
  | nil => rfl
  | append_singleton xs x ih =>
    have hold : ∀ y ∈ xs, y ∈ xs ++ [x] := fun y hy => List.mem_append_left _ hy
    have ih := ih fun y hy z hz => hinj y (hold y hy) z (hold z hz)
    have hmem : f x ∈ xs.map f ↔ x ∈ xs := by
      refine ⟨?_, List.mem_map_of_mem⟩
      intro h
      obtain ⟨y, hy, heq⟩ := List.mem_map.mp h
      exact hinj y (hold y hy) x (List.mem_append_right _ (List.mem_singleton_self x)) heq ▸ hy
    rw [List.map_append, List.map_singleton, eraseDups_concat, eraseDups_concat, ih]
    by_cases hx : x ∈ xs
    · rw [if_pos (hmem.mpr hx), if_pos hx]
    · rw [if_neg (mt hmem.mp hx), if_neg hx, List.map_append, List.map_singleton]

end FirstSeen

end GuardTime
