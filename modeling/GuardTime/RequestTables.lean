import GuardTime.CheckedEdit
import Mathlib.Data.List.Nodup

namespace GuardTime

/-- How a request that reads ends; a bare answer does not hold what was asked for. -/
inductive QueryFate where
  | answered
  | bare
  | failed (error : String)
deriving DecidableEq

/-- How the requests of one call end, by their places in the call. -/
structure RequestFates where
  query : Nat → QueryFate
  write : Nat → WriteFate

/-- What a request that writes throws, and the state after it. -/
def WriteFate.perform {S : Type} (fate : WriteFate) (edit : S → S) (s : S) :
    Except String Unit × S :=
  match fate with
  | .done => (.ok (), edit s)
  | .ignored => (.ok (), s)
  | .refused error => (.error error, s)
  | .lost error => (.error error, edit s)

/-- The request throws, whether it was carried out or not. -/
def WriteFate.throws : WriteFate → Bool
  | .done | .ignored => false
  | .refused _ | .lost _ => true

structure Entry (ε : Type) where
  id : Nat
  value : ε

/-- A list that gives every entry an id of its own and never uses an id again. -/
structure Table (ε : Type) where
  entries : List (Entry ε)
  next : Nat
  below : ∀ e ∈ entries, e.id < next
  distinct : (entries.map Entry.id).Nodup

namespace Table

variable {ε : Type}

def add (t : Table ε) (value : ε) : Table ε where
  entries := t.entries ++ [⟨t.next, value⟩]
  next := t.next + 1
  below := by
    intro e he
    rcases List.mem_append.mp he with he | he
    · exact Nat.lt_succ_of_lt (t.below e he)
    · rw [List.mem_singleton.mp he]
      exact Nat.lt_succ_self t.next
  distinct := by
    rw [List.map_append]
    refine List.nodup_append.mpr ⟨t.distinct, List.nodup_singleton _, ?_⟩
    intro id hid id' hid'
    obtain ⟨e, he, rfl⟩ := List.mem_map.mp hid
    rw [List.mem_singleton.mp hid']
    exact Nat.ne_of_lt (t.below e he)

def delete (t : Table ε) (id : Nat) : Table ε where
  entries := t.entries.filter (·.id ≠ id)
  next := t.next
  below := fun e he => t.below e (List.mem_of_mem_filter he)
  distinct := t.distinct.sublist (List.filter_sublist.map Entry.id)

def first (t : Table ε) (p : ε → Bool) : Option (Entry ε) := t.entries.find? fun e => p e.value

def matching (t : Table ε) (p : ε → Bool) : Nat := t.entries.countP fun e => p e.value

variable {t : Table ε} {p : ε → Bool} {e : Entry ε} {value : ε}

theorem mem_delete {id : Nat} : e ∈ (t.delete id).entries ↔ e ∈ t.entries ∧ e.id ≠ id := by
  simp [delete]

theorem first_none : t.first p = none ↔ t.matching p = 0 := by
  simp [first, matching, List.countP_eq_zero, List.find?_eq_none]

theorem delete_split {l r : List (Entry ε)} (h : t.entries = l ++ e :: r) :
    (t.delete e.id).entries = l ++ r := by
  have hdistinct := t.distinct
  rw [h, List.map_append, List.map_cons] at hdistinct
  obtain ⟨_, hright, hapart⟩ := List.nodup_append.mp hdistinct
  have hl : ∀ x ∈ l, x.id ≠ e.id := fun x hx =>
    hapart x.id (List.mem_map_of_mem hx) e.id List.mem_cons_self
  have hr : ∀ x ∈ r, x.id ≠ e.id := fun x hx heq =>
    (List.nodup_cons.mp hright).1 (heq ▸ List.mem_map_of_mem hx)
  simp only [delete, h, List.filter_append, List.filter_cons, ne_eq, not_true_eq_false, decide_false,
    Bool.false_eq_true, if_false]
  rw [List.filter_eq_self.mpr fun x hx => decide_eq_true (hl x hx),
    List.filter_eq_self.mpr fun x hx => decide_eq_true (hr x hx)]

theorem first_split (h : t.first p = some e) :
    p e.value = true ∧ ∃ l r, t.entries = l ++ e :: r := by
  obtain ⟨hp, l, r, hsplit, _⟩ := List.find?_eq_some_iff_append.mp h
  exact ⟨hp, l, r, hsplit⟩

theorem delete_first (h : t.first p = some e) : (t.delete e.id).matching p + 1 = t.matching p := by
  obtain ⟨hp, l, r, hsplit⟩ := first_split h
  simp only [matching, delete_split hsplit, hsplit, List.countP_append, List.countP_cons, hp, if_true]
  omega

theorem add_delete (t : Table ε) (value : ε) : ((t.add value).delete t.next).entries = t.entries := by
  have hsplit : (t.add value).entries = t.entries ++ (⟨t.next, value⟩ : Entry ε) :: [] := rfl
  rw [delete_split hsplit, List.append_nil]

theorem first_add (h : t.first p = none) (hp : p value = true) :
    (t.add value).first p = some ⟨t.next, value⟩ := by
  have hnone : t.entries.find? (fun e => p e.value) = none := h
  simp [first, add, List.find?_append, hnone, hp]

theorem first_add_of_some (h : t.first p = some e) : (t.add value).first p = some e := by
  have hsome : t.entries.find? (fun e => p e.value) = some e := h
  simp [first, add, List.find?_append, hsome]

/-- Looks for the first entry that matches; a bare answer is taken for an empty list. -/
def look (t : Table ε) (fate : QueryFate) (p : ε → Bool) : Except String (Option (Entry ε)) :=
  match fate with
  | .answered => .ok (t.first p)
  | .bare => .ok none
  | .failed error => .error error

/-- Deletes the first entry that is found: what it throws, or whether there was one, and the table
after it. -/
def remove (t : Table ε) (found : Except String (Option (Entry ε))) (deletion : WriteFate) :
    Except String Bool × Table ε :=
  match found with
  | .error error => (.error error, t)
  | .ok none => (.ok false, t)
  | .ok (some e) =>
    match deletion.perform (·.delete e.id) t with
    | (.ok _, t) => (.ok true, t)
    | (.error error, t) => (.error error, t)

/-- A removal of one of `n` entries that leaves none unless it throws. -/
def Removes (query : QueryFate) (deletion : WriteFate) (n : Nat) : Prop :=
  n = 0 ∨ (∃ error, query = .failed error) ∨
    (query = .answered ∧ (deletion.throws = true ∨ (deletion = .done ∧ n = 1)))

theorem remove_clears_iff (t : Table ε) (p : ε → Bool) (query : QueryFate) (deletion : WriteFate) :
    ((∃ found, (t.remove (t.look query p) deletion).1 = .ok found) →
        (t.remove (t.look query p) deletion).2.matching p = 0) ↔
      Removes query deletion (t.matching p) := by
  unfold Removes
  cases query with
  | failed error => simp [remove, look]
  | bare => simp [remove, look]
  | answered =>
    cases hfirst : t.first p with
    | none => simp [remove, look, hfirst, first_none.mp hfirst]
    | some e =>
      have hcount := delete_first hfirst
      cases deletion with
      | done =>
        simp only [remove, look, hfirst, WriteFate.perform, WriteFate.throws]
        simp
        omega
      | ignored =>
        simp only [remove, look, hfirst, WriteFate.perform, WriteFate.throws]
        simp
      | refused error => simp [remove, look, hfirst, WriteFate.perform, WriteFate.throws]
      | lost error => simp [remove, look, hfirst, WriteFate.perform, WriteFate.throws]

/-- A removal spares the entries that are not its own exactly when the one it deletes is. -/
theorem remove_spares_iff (t : Table ε) (p : ε → Bool) (query : QueryFate) (deletion : WriteFate)
    (own : Nat → Prop) :
    (∀ e ∈ t.entries, ¬own e.id → e ∈ (t.remove (t.look query p) deletion).2.entries) ↔
      (query = .answered → deletion.applied = true → ∀ e, t.first p = some e → own e.id) := by
  have hkept : ∀ e ∈ t.entries, ¬own e.id → e ∈ t.entries := fun _ he _ => he
  cases query with
  | failed error => simpa [remove, look] using hkept
  | bare => simpa [remove, look] using hkept
  | answered =>
    cases hfirst : t.first p with
    | none => simpa [remove, look, hfirst] using hkept
    | some e =>
      have hdelete : (∀ x ∈ t.entries, ¬own x.id → x ∈ (t.delete e.id).entries) ↔ own e.id := by
        obtain ⟨_, l, r, hsplit⟩ := first_split hfirst
        have hin : e ∈ t.entries := hsplit ▸ List.mem_append_right l List.mem_cons_self
        refine ⟨?_, ?_⟩
        · intro h
          by_contra hnot
          exact (mem_delete.mp (h e hin hnot)).2 rfl
        · intro hown x hx hnot
          refine mem_delete.mpr ⟨hx, ?_⟩
          intro heq
          exact hnot (heq ▸ hown)
      cases deletion with
      | done => simpa [remove, look, hfirst, WriteFate.perform, WriteFate.applied] using hdelete
      | lost error => simpa [remove, look, hfirst, WriteFate.perform, WriteFate.applied] using hdelete
      | ignored => simpa [remove, look, hfirst, WriteFate.perform, WriteFate.applied] using hkept
      | refused error =>
        simpa [remove, look, hfirst, WriteFate.perform, WriteFate.applied] using hkept

end Table

end GuardTime
