import Mathlib.Data.List.Basic

namespace GuardTime

namespace ByteReader

abbrev Bytes := List UInt8

/-- A byte is read behind the end, or a buffer has not the size that its format asks for. -/
inductive ReadError where
  | indexError
  | structError
deriving DecidableEq

/-- `data[start:stop]`, which takes what is there. -/
def byteSlice (data : Bytes) (start stop : Nat) : Bytes := (data.take stop).drop start

/-- `data[i]`. -/
def index (data : Bytes) (i : Nat) : Except ReadError Nat :=
  match data[i]? with
  | some b => .ok b.toNat
  | none => .error .indexError

/-- `struct.unpack(">H", buffer)[0]`. -/
def unpackShort : Bytes → Except ReadError Nat
  | [a, b] => .ok (a.toNat * 256 + b.toNat)
  | _ => .error .structError

/-- `int.from_bytes(buffer, "big")`. -/
def fromBytes (buffer : Bytes) : Nat := buffer.foldl (fun n b => n * 256 + b.toNat) 0

/-- `[struct.unpack(">H", data[start + i:start + i + 2])[0] for i in range(0, size, 2)]`. -/
def unpackShorts (data : Bytes) (start size : Nat) : Except ReadError (List Nat) :=
  (List.range' 0 ((size + 1) / 2) 2).mapM fun i =>
    unpackShort (byteSlice data (start + i) (start + i + 2))

def byteAt (data : Bytes) (i : Nat) : Nat := (data.getD i 0).toNat

def shortAt (data : Bytes) (pos : Nat) : Nat := byteAt data pos * 256 + byteAt data (pos + 1)

def short (n : Nat) : Bytes := [UInt8.ofNat (n / 256), UInt8.ofNat n]

def shorts (ns : List Nat) : Bytes := ns.flatMap short

/-- Bytes behind their length, in one byte or in two. -/
def vector8 (xs : Bytes) : Bytes := UInt8.ofNat xs.length :: xs

def vector16 (xs : Bytes) : Bytes := short xs.length ++ xs

theorem ok_bind {ε α β : Type} (a : α) (next : α → Except ε β) :
    (Except.ok a >>= next : Except ε β) = next a := rfl

theorem error_bind {ε α β : Type} (e : ε) (next : α → Except ε β) :
    ((Except.error e : Except ε α) >>= next) = .error e := rfl

variable {data xs rest : Bytes} {pos : Nat}

@[simp] theorem short_length (n : Nat) : (short n).length = 2 := rfl

@[simp] theorem shorts_length (ns : List Nat) : (shorts ns).length = 2 * ns.length := by
  induction ns with
  | nil => rfl
  | cons n ns ih =>
    have hcons : shorts (n :: ns) = short n ++ shorts ns := rfl
    rw [hcons, List.length_append, ih, short_length, List.length_cons]
    omega

@[simp] theorem byteSlice_length (data : Bytes) (start stop : Nat) :
    (byteSlice data start stop).length = min stop data.length - start := by
  rw [byteSlice, List.length_drop, List.length_take]

theorem byteSlice_drop (data : Bytes) (start size : Nat) :
    byteSlice data start (start + size) = (data.drop start).take size := by
  rw [byteSlice, List.drop_take, Nat.add_sub_cancel_left]

/-- What stands at a position is what a slice of its size gives. -/
theorem byteSlice_of_drop (h : data.drop pos = xs ++ rest) :
    byteSlice data pos (pos + xs.length) = xs := by
  rw [byteSlice_drop, h, List.take_left]

theorem drop_of_drop (h : data.drop pos = xs ++ rest) : data.drop (pos + xs.length) = rest := by
  rw [← List.drop_drop, h, List.drop_left]

theorem length_of_drop (h : data.drop pos = xs ++ rest) (hne : xs ≠ []) :
    data.length = pos + xs.length + rest.length := by
  have hlength := congrArg List.length h
  have hpos := List.length_pos_of_ne_nil hne
  rw [List.length_drop, List.length_append] at hlength
  omega

theorem index_eq (data : Bytes) (i : Nat) :
    index data i = if i < data.length then .ok (byteAt data i) else .error .indexError := by
  unfold index byteAt
  split
  next b hb =>
    obtain ⟨hi, hget⟩ := List.getElem?_eq_some_iff.mp hb
    rw [if_pos hi, List.getD_eq_getElem?_getD, hb, Option.getD_some]
  next hnone => rw [if_neg (Nat.not_lt.mpr (List.getElem?_eq_none_iff.mp hnone))]

theorem index_ok {i value : Nat} (h : index data i = .ok value) :
    i < data.length ∧ value = byteAt data i := by
  rw [index_eq] at h
  split at h
  next hlt => exact ⟨hlt, (Except.ok.inj h).symm⟩
  next => cases h

theorem byteAt_of_drop {b : UInt8} (h : data.drop pos = b :: rest) : byteAt data pos = b.toNat := by
  have hget : data[pos]? = some b := by
    rw [← Nat.add_zero pos, ← List.getElem?_drop, h]
    rfl
  rw [byteAt, List.getD_eq_getElem?_getD, hget, Option.getD_some]

theorem unpackShort_byteSlice (data : Bytes) (pos : Nat) :
    unpackShort (byteSlice data pos (pos + 2)) =
      if pos + 2 ≤ data.length then .ok (shortAt data pos) else .error .structError := by
  rw [byteSlice_drop]
  by_cases h : pos + 2 ≤ data.length
  · have hfirst : data.drop pos = data[pos] :: data[pos + 1] :: data.drop (pos + 2) := by
      rw [List.drop_eq_getElem_cons (by omega), List.drop_eq_getElem_cons (by omega)]
    have hsecond : data.drop (pos + 1) = data[pos + 1] :: data.drop (pos + 2) :=
      List.drop_eq_getElem_cons (by omega)
    rw [if_pos h, shortAt, byteAt_of_drop hfirst, byteAt_of_drop hsecond, hfirst]
    rfl
  · have hlength : ((data.drop pos).take 2).length ≠ 2 := by
      rw [List.length_take, List.length_drop]
      omega
    rw [if_neg h]
    unfold unpackShort
    split
    next heq =>
      rw [heq] at hlength
      exact absurd rfl hlength
    next => rfl

theorem unpackShort_ok {value : Nat}
    (h : unpackShort (byteSlice data pos (pos + 2)) = .ok value) :
    pos + 2 ≤ data.length ∧ value = shortAt data pos := by
  rw [unpackShort_byteSlice] at h
  split at h
  next hle => exact ⟨hle, (Except.ok.inj h).symm⟩
  next => cases h

theorem toNat_ofNat {n : Nat} (h : n < 256) : (UInt8.ofNat n).toNat = n := by
  rw [UInt8.toNat_ofNat', Nat.mod_eq_of_lt h]

theorem shortAt_of_drop {n : Nat} (hn : n < 65536) (h : data.drop pos = short n ++ rest) :
    shortAt data pos = n := by
  have hfirst : data.drop pos = UInt8.ofNat (n / 256) :: UInt8.ofNat n :: rest := h
  have hsecond : data.drop (pos + 1) = UInt8.ofNat n :: rest := by
    rw [← List.drop_drop, hfirst]
    rfl
  rw [shortAt, byteAt_of_drop hfirst, byteAt_of_drop hsecond, toNat_ofNat (by omega),
    UInt8.toNat_ofNat']
  omega

/-- A read of a vector gives its length and leaves the cursor before its bytes. -/
theorem vector8_of_drop (hxs : xs.length < 256) (h : data.drop pos = vector8 xs ++ rest) :
    index data pos = .ok xs.length ∧ data.drop (pos + 1) = xs ++ rest ∧
      data.drop (pos + 1 + xs.length) = rest := by
  have hcons : data.drop pos = UInt8.ofNat xs.length :: (xs ++ rest) := h
  have hlength := length_of_drop h (List.cons_ne_nil _ _)
  have hnext : data.drop (pos + 1) = xs ++ rest := by
    rw [← List.drop_drop, hcons]
    rfl
  refine ⟨?_, hnext, drop_of_drop hnext⟩
  rw [vector8, List.length_cons] at hlength
  rw [index_eq, if_pos (by omega), byteAt_of_drop hcons, toNat_ofNat hxs]

theorem vector16_of_drop (hxs : xs.length < 65536) (h : data.drop pos = vector16 xs ++ rest) :
    unpackShort (byteSlice data pos (pos + 2)) = .ok xs.length ∧ data.drop (pos + 2) = xs ++ rest ∧
      data.drop (pos + 2 + xs.length) = rest := by
  have hshort : data.drop pos = short xs.length ++ (xs ++ rest) := by
    rw [h, vector16, List.append_assoc]
  have hnext : data.drop (pos + 2) = xs ++ rest := drop_of_drop hshort
  have hlength := length_of_drop hshort (List.cons_ne_nil _ _)
  rw [short_length] at hlength
  refine ⟨?_, hnext, drop_of_drop hnext⟩
  rw [unpackShort_byteSlice, if_pos (by omega), shortAt_of_drop hxs hshort]

theorem mapM_eq {ε α β : Type} (xs : List α) (f : α → Except ε β) {value : α → β} {good : α → Prop}
    [DecidablePred good] (e : ε) (h : ∀ x, f x = if good x then .ok (value x) else .error e) :
    xs.mapM f = if ∀ x ∈ xs, good x then .ok (xs.map value) else .error e := by
  induction xs with
  | nil => simp [List.mapM_nil, pure, Except.pure]
  | cons x xs ih =>
    rw [List.mapM_cons, h x, ih]
    by_cases hx : good x
    · by_cases hxs : ∀ y ∈ xs, good y
      · have hall : ∀ y ∈ x :: xs, good y := by simpa using ⟨hx, hxs⟩
        rw [if_pos hx, if_pos hxs, if_pos hall]
        rfl
      · have hnot : ¬∀ y ∈ x :: xs, good y := fun hall =>
          hxs fun y hy => hall y (List.mem_cons_of_mem x hy)
        rw [if_pos hx, if_neg hxs, if_neg hnot]
        rfl
    · have hnot : ¬∀ y ∈ x :: xs, good y := fun hall => hx (hall x List.mem_cons_self)
      rw [if_neg hx, if_neg hnot]
      rfl

theorem unpackShorts_eq (data : Bytes) (start size : Nat) :
    unpackShorts data start size =
      if size = 0 ∨ start + 2 * ((size + 1) / 2) ≤ data.length then
        .ok ((List.range' 0 ((size + 1) / 2) 2).map fun i => shortAt data (start + i))
      else .error .structError := by
  rw [unpackShorts, mapM_eq _ _ .structError fun i => unpackShort_byteSlice data (start + i)]
  refine if_congr ?_ rfl rfl
  simp only [List.mem_range', Nat.zero_add]
  constructor
  · intro h
    by_cases hsize : size = 0
    · exact Or.inl hsize
    · have hlast := h (2 * ((size + 1) / 2 - 1)) ⟨(size + 1) / 2 - 1, by omega, rfl⟩
      exact Or.inr (by omega)
  · rintro h i ⟨k, hk, rfl⟩
    rcases h with rfl | h
    · omega
    · omega

theorem unpackShorts_of_drop {ns : List Nat} (hns : ∀ n ∈ ns, n < 65536)
    (h : data.drop pos = shorts ns ++ rest) : unpackShorts data pos (2 * ns.length) = .ok ns := by
  have hread : ∀ i, data.drop (pos + i) = shorts ns ++ rest →
      ((List.range' i ns.length 2).map fun i => shortAt data (pos + i)) = ns := by
    clear h
    induction ns with
    | nil => intro i _; rfl
    | cons n ns ih =>
      intro i hdrop
      have hcons : data.drop (pos + i) = short n ++ (shorts ns ++ rest) := by
        rw [hdrop, ← List.append_assoc]
        rfl
      have hnext : data.drop (pos + (i + 2)) = shorts ns ++ rest := drop_of_drop hcons
      rw [List.length_cons, List.range'_succ, List.map_cons,
        shortAt_of_drop (hns n List.mem_cons_self) hcons,
        ih (fun m hm => hns m (List.mem_cons_of_mem n hm)) (i + 2) hnext]
  have hcount : (2 * ns.length + 1) / 2 = ns.length := by omega
  have hfits : 2 * ns.length = 0 ∨ pos + 2 * ((2 * ns.length + 1) / 2) ≤ data.length := by
    cases ns with
    | nil => exact Or.inl rfl
    | cons n ns =>
      have hne : shorts (n :: ns) ≠ [] := List.cons_ne_nil _ _
      have hlength := length_of_drop h hne
      rw [shorts_length] at hlength
      exact Or.inr (by omega)
  rw [unpackShorts_eq, if_pos hfits, hcount, hread 0 h]

end ByteReader

end GuardTime
