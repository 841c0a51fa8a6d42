import GuardTime.ByteReader

namespace GuardTime

namespace DnsMessage

open ByteReader (Bytes short)

/-- A message that asks one question and has no other records. -/
structure Query where
  id : Nat
  flags : Nat
  name : List Bytes
  qtype : Nat
  qclass : Nat
deriving DecidableEq

/-- A name as the lengths and the bytes of its labels, and the root. -/
def nameBytes (labels : List Bytes) : Bytes :=
  labels.flatMap (fun label => UInt8.ofNat label.length :: label) ++ [0]

def Query.bytes (q : Query) : Bytes :=
  short q.id ++ short q.flags ++ short 1 ++ short 0 ++ short 0 ++ short 0 ++ nameBytes q.name ++
    short q.qtype ++ short q.qclass

def takeShort : Bytes → Option (Nat × Bytes)
  | a :: b :: rest => some (a.toNat * 256 + b.toNat, rest)
  | _ => none

/-- Reads at most `room` labels; a length from 64 on is none (it would begin a pointer). -/
def takeLabels : Nat → Bytes → Option (List Bytes × Bytes)
  | 0, _ => none
  | _ + 1, [] => none
  | room + 1, n :: rest =>
    if n = 0 then some ([], rest)
    else if 64 ≤ n.toNat ∨ rest.length < n.toNat then none
    else (takeLabels room (rest.drop n.toNat)).map fun found =>
      (rest.take n.toNat :: found.1, found.2)

/-- A name has at most 255 bytes. -/
def takeName (data : Bytes) : Option (List Bytes × Bytes) :=
  (takeLabels 128 data).filter fun found => (nameBytes found.1).length ≤ 255

/-- Reads a message with one question and no other record, and nothing behind it. -/
def decode (data : Bytes) : Option Query := do
  let (id, data) ← takeShort data
  let (flags, data) ← takeShort data
  let (qdcount, data) ← takeShort data
  let (ancount, data) ← takeShort data
  let (nscount, data) ← takeShort data
  let (arcount, data) ← takeShort data
  let (name, data) ← takeName data
  let (qtype, data) ← takeShort data
  let (qclass, data) ← takeShort data
  if qdcount = 1 ∧ ancount = 0 ∧ nscount = 0 ∧ arcount = 0 ∧ data = [] then
    some ⟨id, flags, name, qtype, qclass⟩
  else none

/-- The labels of a name that a message can hold. -/
def Fits (labels : List Bytes) : Prop :=
  (∀ label ∈ labels, 0 < label.length ∧ label.length ≤ 63) ∧ (nameBytes labels).length ≤ 255

variable {label : Bytes} {labels : List Bytes} {rest data : Bytes}

theorem takeShort_short {n : Nat} (hn : n < 65536) (rest : Bytes) :
    takeShort (short n ++ rest) = some (n, rest) := by
  have hvalue : (UInt8.ofNat (n / 256)).toNat * 256 + (UInt8.ofNat n).toNat = n := by
    rw [ByteReader.toNat_ofNat (by omega), UInt8.toNat_ofNat']
    omega
  simp only [short, List.cons_append, List.nil_append, takeShort, hvalue]

theorem nameBytes_cons (label : Bytes) (labels : List Bytes) :
    nameBytes (label :: labels) = UInt8.ofNat label.length :: label ++ nameBytes labels := by
  simp [nameBytes]

theorem nameBytes_length_cons (label : Bytes) (labels : List Bytes) :
    (nameBytes (label :: labels)).length = label.length + 1 + (nameBytes labels).length := by
  rw [nameBytes_cons, List.length_append, List.length_cons]

theorem takeLabels_nameBytes {room : Nat} (hroom : labels.length < room)
    (h : ∀ label ∈ labels, 0 < label.length ∧ label.length ≤ 63) (rest : Bytes) :
    takeLabels room (nameBytes labels ++ rest) = some (labels, rest) := by
  induction labels generalizing room with
  | nil =>
    obtain ⟨room, rfl⟩ := Nat.exists_eq_add_one_of_ne_zero (Nat.ne_zero_of_lt hroom)
    simp [nameBytes, takeLabels]
  | cons label labels ih =>
    obtain ⟨room, rfl⟩ := Nat.exists_eq_add_one_of_ne_zero (Nat.ne_zero_of_lt hroom)
    obtain ⟨hpos, hle⟩ := h label List.mem_cons_self
    have hbyte : (UInt8.ofNat label.length).toNat = label.length :=
      ByteReader.toNat_ofNat (by omega)
    have hne : UInt8.ofNat label.length ≠ 0 := by
      intro heq
      have hzero : label.length = 0 := hbyte.symm.trans (congrArg UInt8.toNat heq)
      omega
    have hshort : ¬(64 ≤ label.length ∨
        (label ++ (nameBytes labels ++ rest)).length < label.length) := by
      rw [List.length_append]
      omega
    have hrest : labels.length < room := Nat.lt_of_succ_lt_succ hroom
    have ih := ih hrest fun other hother => h other (List.mem_cons_of_mem _ hother)
    rw [nameBytes_cons, List.append_assoc, List.cons_append, takeLabels, if_neg hne, hbyte,
      if_neg hshort, List.drop_left, List.take_left, ih]
    rfl

theorem length_labels (h : ∀ label ∈ labels, 0 < label.length) :
    2 * labels.length + 1 ≤ (nameBytes labels).length := by
  induction labels with
  | nil => simp [nameBytes]
  | cons label labels ih =>
    have hpos := h label List.mem_cons_self
    have ih := ih fun other hother => h other (List.mem_cons_of_mem _ hother)
    rw [nameBytes_length_cons, List.length_cons]
    omega

theorem takeName_nameBytes (h : Fits labels) (rest : Bytes) :
    takeName (nameBytes labels ++ rest) = some (labels, rest) := by
  have hcount := length_labels fun label hlabel => (h.1 label hlabel).1
  have hroom : labels.length < 128 := by have := h.2; omega
  rw [takeName, takeLabels_nameBytes hroom h.1, Option.filter_some, if_pos (decide_eq_true h.2)]

theorem decode_bytes {q : Query} (hid : q.id < 65536) (hflags : q.flags < 65536)
    (htype : q.qtype < 65536) (hclass : q.qclass < 65536) (hname : Fits q.name) :
    decode q.bytes = some q := by
  have hend : ∀ n, n < 65536 → takeShort (short n) = some (n, []) := by
    intro n hn
    simpa using takeShort_short hn []
  simp only [decode, Query.bytes, List.append_assoc, takeShort_short hid, takeShort_short hflags,
    takeShort_short (show 1 < 65536 by omega), takeShort_short (show 0 < 65536 by omega),
    takeName_nameBytes hname, takeShort_short htype, hend _ hclass, Option.bind_eq_bind,
    Option.bind_some]
  simp

theorem takeLabels_short {room : Nat} (h : takeLabels room data = some (labels, rest)) :
    ∀ label ∈ labels, 0 < label.length ∧ label.length ≤ 63 := by
  induction room generalizing data labels with
  | zero => simp [takeLabels] at h
  | succ room ih =>
    cases data with
    | nil => simp [takeLabels] at h
    | cons n data =>
      simp only [takeLabels] at h
      split at h
      next =>
        obtain ⟨rfl, -⟩ := Prod.mk.inj (Option.some.inj h)
        simp
      next hne =>
        split at h
        next => cases h
        next hfits =>
          obtain ⟨found, hfound, heq⟩ := Option.map_eq_some_iff.mp h
          obtain ⟨rfl, rfl⟩ := Prod.mk.inj heq
          have hpos : 0 < n.toNat := by
            refine Nat.pos_of_ne_zero fun hzero => hne ?_
            exact UInt8.toNat_inj.mp hzero
          intro label hlabel
          rcases List.mem_cons.mp hlabel with rfl | hlabel
          · rw [List.length_take]
            omega
          · exact ih hfound label hlabel

theorem decode_fits {q : Query} (h : decode data = some q) : Fits q.name := by
  simp only [decode, Option.bind_eq_bind, Option.bind_eq_some_iff, Prod.exists] at h
  obtain ⟨_, _, -, _, _, -, _, _, -, _, _, -, _, _, -, _, _, -, name, _, hname, _, _, -, _, _, -, h⟩ := h
  split at h
  next =>
    rw [takeName, Option.filter_eq_some_iff] at hname
    cases Option.some.inj h
    exact ⟨takeLabels_short hname.1, of_decide_eq_true hname.2⟩
  next => cases h

end DnsMessage

end GuardTime
