import GuardTime.FirstSeen

namespace GuardTime

/-- A map that lists its entries in the order their keys were first set. -/
structure OrderedMap (κ ν : Type) where
  entries : List (κ × ν)
  nodup : (entries.map Prod.fst).Nodup

namespace OrderedMap

variable {κ ν : Type} [DecidableEq κ]

/-- Overwrites the entry of `k` where it stands, or appends one. -/
def overwrite (k : κ) (v : ν) : List (κ × ν) → List (κ × ν)
  | [] => [(k, v)]
  | e :: es => if e.1 = k then (k, v) :: es else e :: overwrite k v es

theorem mem_keys_overwrite {k k' : κ} {v : ν} {es : List (κ × ν)}
    (h : k' ∈ (overwrite k v es).map Prod.fst) : k' = k ∨ k' ∈ es.map Prod.fst := by
  induction es with
  | nil =>
    have he : k' = k := by simpa [overwrite] using h
    exact Or.inl he
  | cons e es ih =>
    simp only [overwrite] at h
    split at h
    next he =>
      rcases List.mem_cons.mp h with hk | hk
      · exact Or.inl hk
      · exact Or.inr (List.mem_cons_of_mem _ hk)
    next he =>
      rcases List.mem_cons.mp h with hk | hk
      · exact Or.inr (by rw [hk]; exact List.mem_cons_self)
      · rcases ih hk with hk | hk
        · exact Or.inl hk
        · exact Or.inr (List.mem_cons_of_mem _ hk)

theorem nodup_overwrite {k : κ} {v : ν} {es : List (κ × ν)} (h : (es.map Prod.fst).Nodup) :
    ((overwrite k v es).map Prod.fst).Nodup := by
  induction es with
  | nil => simp [overwrite]
  | cons e es ih =>
    obtain ⟨hn, ht⟩ := List.nodup_cons.mp h
    simp only [overwrite]
    split
    next he => exact List.nodup_cons.mpr ⟨he ▸ hn, ht⟩
    next he =>
      refine List.nodup_cons.mpr ⟨fun hm => ?_, ih ht⟩
      rcases mem_keys_overwrite hm with hk | hk
      · exact he hk
      · exact hn hk

def empty : OrderedMap κ ν := ⟨[], List.nodup_nil⟩

def get (m : OrderedMap κ ν) (k : κ) : Option ν := (m.entries.find? fun e => e.1 = k).map Prod.snd

def set (m : OrderedMap κ ν) (k : κ) (v : ν) : OrderedMap κ ν :=
  ⟨overwrite k v m.entries, nodup_overwrite m.nodup⟩

def erase (m : OrderedMap κ ν) (k : κ) : OrderedMap κ ν :=
  ⟨m.entries.filter fun e => e.1 ≠ k, m.nodup.sublist (List.filter_sublist.map _)⟩

def values (m : OrderedMap κ ν) : List ν := m.entries.map Prod.snd

@[simp] theorem get_empty (k : κ) : (empty : OrderedMap κ ν).get k = none := rfl

theorem get_set (m : OrderedMap κ ν) (k : κ) (v : ν) (k' : κ) :
    (m.set k v).get k' = if k' = k then some v else m.get k' := by
  obtain ⟨es, _⟩ := m
  simp only [get, set]
  induction es with
  | nil =>
    by_cases hk : k' = k
    · simp [overwrite, hk]
    · simp [overwrite, hk, Ne.symm hk]
  | cons e es ih =>
    have hnodup : (es.map Prod.fst).Nodup := (List.nodup_cons.mp ‹_›).2
    have ih := ih hnodup
    by_cases he : e.1 = k
    · by_cases hk : k' = k
      · simp [overwrite, he, hk]
      · simp [overwrite, he, hk, Ne.symm hk]
    · by_cases hek : e.1 = k'
      · have hk : k' ≠ k := fun h => he (hek.trans h)
        simp [overwrite, hek, hk]
      · simp only [overwrite, if_neg he, List.find?_cons, hek, decide_false]
        exact ih

@[simp] theorem get_set_self (m : OrderedMap κ ν) (k : κ) (v : ν) : (m.set k v).get k = some v := by
  simp [get_set]

theorem get_set_of_ne (m : OrderedMap κ ν) {k k' : κ} (h : k' ≠ k) (v : ν) :
    (m.set k v).get k' = m.get k' := by
  simp [get_set, h]

theorem get_erase (m : OrderedMap κ ν) (k k' : κ) :
    (m.erase k).get k' = if k' = k then none else m.get k' := by
  obtain ⟨es, _⟩ := m
  simp only [get, erase, List.find?_filter]
  split
  next hk =>
    subst k'
    simp
  next hk =>
    congr 2
    funext e
    by_cases he : e.1 = k'
    · simp [he, hk]
    · simp [he]

theorem mem_entries {m : OrderedMap κ ν} {k : κ} {v : ν} : (k, v) ∈ m.entries ↔ m.get k = some v := by
  obtain ⟨es, hnodup⟩ := m
  simp only [get]
  induction es with
  | nil => simp
  | cons e es ih =>
    obtain ⟨hn, ht⟩ := List.nodup_cons.mp hnodup
    have ih := ih ht
    by_cases he : e.1 = k
    · have hno : (k, v) ∉ es := fun hm => hn (he ▸ List.mem_map_of_mem (f := Prod.fst) hm)
      obtain ⟨k', v'⟩ := e
      subst he
      simp [hno, eq_comm]
    · have hne : (k, v) ≠ e := fun h => he (by rw [← h])
      simp only [List.mem_cons, hne, false_or, List.find?_cons, he, decide_false]
      exact ih

theorem mem_keys {m : OrderedMap κ ν} {k : κ} :
    k ∈ m.entries.map Prod.fst ↔ (m.get k).isSome := by
  rw [List.mem_map, Option.isSome_iff_exists]
  refine ⟨?_, ?_⟩
  · intro h
    obtain ⟨⟨k', v⟩, hm, rfl⟩ := h
    exact ⟨v, mem_entries.mp hm⟩
  · intro h
    obtain ⟨v, hv⟩ := h
    exact ⟨(k, v), mem_entries.mpr hv, rfl⟩

theorem overwrite_of_mem {k : κ} {v : ν} {es : List (κ × ν)} (hn : (es.map Prod.fst).Nodup)
    (h : (k, v) ∈ es) : overwrite k v es = es := by
  induction es with
  | nil => cases h
  | cons e es ih =>
    obtain ⟨hnotin, hrest⟩ := List.nodup_cons.mp hn
    rcases List.mem_cons.mp h with rfl | h
    · rw [overwrite, if_pos rfl]
    · have hne : e.1 ≠ k := fun heq => hnotin (heq ▸ List.mem_map_of_mem h)
      rw [overwrite, if_neg hne, ih hrest h]

theorem set_same {m : OrderedMap κ ν} {k : κ} {v : ν} (h : m.get k = some v) : m.set k v = m := by
  obtain ⟨es, hnodup⟩ := m
  simp only [set, overwrite_of_mem hnodup (mem_entries.mpr h)]

theorem filter_overwrite {p : ν → Bool} {k : κ} {v : ν} (hv : p v = false) {es : List (κ × ν)}
    (hn : (es.map Prod.fst).Nodup) :
    ((overwrite k v es).map Prod.snd).filter p = (es.map Prod.snd).filter p ↔
      ∀ old, (k, old) ∈ es → p old = false := by
  induction es with
  | nil => simp [overwrite, hv]
  | cons e es ih =>
    obtain ⟨hnotin, hrest⟩ := List.nodup_cons.mp hn
    by_cases he : e.1 = k
    · have hothers : ∀ old, (k, old) ∉ es := fun old hold =>
        hnotin (he ▸ List.mem_map_of_mem (f := Prod.fst) hold)
      have hhead : ∀ old, (k, old) ∈ e :: es ↔ old = e.2 := by
        intro old
        obtain ⟨k', v'⟩ := e
        subst he
        simp [hothers]
      simp only [hhead, forall_eq]
      rw [overwrite, if_pos he, List.map_cons, List.map_cons, List.filter_cons, hv,
        List.filter_cons]
      cases hp : p e.2 with
      | false => simp
      | true => simp
    · have hne : ∀ old, (k, old) ≠ e := fun old h => he (by rw [← h])
      simp only [overwrite, if_neg he, List.map_cons, List.filter_cons, List.mem_cons, hne, false_or]
      rw [← ih hrest]
      cases hp : p e.2 with
      | false => simp
      | true => simp

/-- Setting a value that `p` leaves out changes what it picks only over one that it does not. -/
theorem filter_values_set {m : OrderedMap κ ν} {p : ν → Bool} {k : κ} {v : ν} (hv : p v = false) :
    (m.set k v).values.filter p = m.values.filter p ↔ ∀ old, m.get k = some old → p old = false := by
  rw [values, values, set, filter_overwrite hv m.nodup]
  simp only [mem_entries]

theorem mem_values {m : OrderedMap κ ν} {v : ν} : v ∈ m.values ↔ ∃ k, m.get k = some v := by
  simp only [values, List.mem_map, ← mem_entries]
  refine ⟨?_, ?_⟩
  · intro h
    obtain ⟨⟨k, v'⟩, hm, rfl⟩ := h
    exact ⟨k, hm⟩
  · intro h
    obtain ⟨k, hm⟩ := h
    exact ⟨(k, v), hm, rfl⟩

/-- Erasing the keys that `drop` picks. -/
theorem get_foldl_erase (m : OrderedMap κ ν) (drop : κ → Bool) (ks : List κ) (k : κ) :
    (ks.foldl (fun m k => if drop k then m.erase k else m) m).get k =
      if k ∈ ks ∧ drop k = true then none else m.get k := by
  induction ks generalizing m with
  | nil => simp
  | cons k' ks ih =>
    rw [List.foldl_cons, ih]
    by_cases hk : k = k'
    · subst hk
      by_cases hd : drop k = true
      · simp [hd, get_erase]
      · simp [hd]
    · have hm : (if drop k' then m.erase k' else m).get k = m.get k := by
        split
        next => rw [get_erase, if_neg hk]
        next => rfl
      simp [hm, hk]

/-- Setting the entries of a list: the last one of a key counts. -/
theorem get_foldl_set {α : Type} (key : α → κ) (val : α → ν) (xs : List α) (m : OrderedMap κ ν)
    (k : κ) :
    (xs.foldl (fun m x => m.set (key x) (val x)) m).get k =
      ((xs.reverse.find? fun x => key x = k).map val).or (m.get k) := by
  induction xs generalizing m with
  | nil => rfl
  | cons x xs ih =>
    rw [List.foldl_cons, ih, get_set, List.reverse_cons, List.find?_append]
    cases hf : xs.reverse.find? fun x => decide (key x = k) with
    | some y => simp
    | none =>
      by_cases hk : key x = k
      · simp [hk]
      · simp [hk, Ne.symm hk]

/-- Setting a key changes the first value only in an empty map or at its own key. -/
theorem head_set (m : OrderedMap κ ν) (k : κ) (v : ν) :
    (m.set k v).entries.head? =
      match m.entries.head? with
      | none => some (k, v)
      | some e => if e.1 = k then some (k, v) else some e := by
  obtain ⟨es, _⟩ := m
  cases es with
  | nil => rfl
  | cons e es =>
    simp only [set, overwrite, List.head?_cons]
    split <;> rfl

/-- Setting an entry leaves the keys as they are, unless its key is new. -/
theorem map_overwrite (k : κ) (v : ν) (es : List (κ × ν)) :
    (overwrite k v es).map Prod.fst =
      if k ∈ es.map Prod.fst then es.map Prod.fst else es.map Prod.fst ++ [k] := by
  induction es with
  | nil => rfl
  | cons e es ih =>
    rw [overwrite]
    by_cases he : e.1 = k
    · simp [he]
    · rw [if_neg he, List.map_cons, ih, List.map_cons]
      simp only [List.mem_cons, Ne.symm he, false_or]
      split
      next => rfl
      next => rfl

def keys (m : OrderedMap κ ν) : List κ := m.entries.map Prod.fst

/-- A loop that sets one key at a time leaves the keys in the order of their first appearance. -/
theorem keys_foldl {α : Type} {key : α → κ} {f : OrderedMap κ ν → α → OrderedMap κ ν}
    (hf : ∀ m x, ∃ v, f m x = m.set (key x) v) (xs : List α) :
    (xs.foldl f .empty).keys = (xs.map key).eraseDups := by
  induction xs using List.reverseRecOn with
  | nil => rfl
  | append_singleton xs x ih =>
    obtain ⟨v, hset⟩ := hf (xs.foldl f .empty) x
    have hkeys : ((xs.foldl f .empty).set (key x) v).keys = _ := map_overwrite (key x) v _
    rw [List.foldl_append, List.foldl_cons, List.foldl_nil, hset, hkeys, List.map_append,
      List.map_singleton, eraseDups_concat]
    have hold : (xs.foldl f .empty).entries.map Prod.fst = _ := ih
    simp only [hold, List.mem_eraseDups]

theorem values_eq (m : OrderedMap κ ν) : m.values = m.keys.filterMap m.get := by
  have hget : ∀ e ∈ m.entries, m.get e.1 = some e.2 := fun e he => mem_entries.mp he
  have hall : ∀ es ⊆ m.entries, es.map Prod.snd = (es.map Prod.fst).filterMap m.get := by
    intro es hes
    induction es with
    | nil => rfl
    | cons e es ih =>
      obtain ⟨he, hes⟩ := List.cons_subset.mp hes
      rw [List.map_cons, List.map_cons, List.filterMap_cons_some (hget e he), ih hes]
  exact hall m.entries (List.Subset.refl _)

end OrderedMap

end GuardTime
