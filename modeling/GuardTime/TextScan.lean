import GuardTime.TextLines

namespace GuardTime

section Scan

variable {α : Type} (p : Option Char → Text → Option α)

/-- The first match in a text of a pattern, which sees the character before it and the text from it on. -/
def scan (before : Option Char) : Text → Option α
  | [] => p before []
  | c :: rest => (p before (c :: rest)).or (scan (some c) rest)

variable {p} {before : Option Char} {text word rest : Text}

theorem getLast?_cons_or (c : Char) (left : Text) (before : Option Char) :
    (c :: left).getLast?.or before = left.getLast?.or (some c) := by
  cases left with
  | nil => rfl
  | cons d left => rw [List.getLast?_cons_cons, List.getLast?_cons, Option.some_or, Option.some_or]

theorem scan_isSome_iff : (scan p before text).isSome ↔
    ∃ left right, text = left ++ right ∧ (p (left.getLast?.or before) right).isSome := by
  induction text generalizing before with
  | nil =>
    refine ⟨fun h => ⟨[], [], rfl, h⟩, ?_⟩
    rintro ⟨left, right, htext, h⟩
    obtain ⟨rfl, rfl⟩ := List.append_eq_nil_iff.mp htext.symm
    exact h
  | cons c rest ih =>
    rw [scan, Option.isSome_or, Bool.or_eq_true, ih]
    refine ⟨?_, ?_⟩
    · rintro (h | ⟨left, right, rfl, h⟩)
      · exact ⟨[], c :: rest, rfl, h⟩
      · refine ⟨c :: left, right, rfl, ?_⟩
        cases left with
        | nil => exact h
        | cons d left => rwa [List.getLast?_cons_cons, List.getLast?_cons, Option.some_or] at *
    · rintro ⟨left, right, htext, h⟩
      cases left with
      | nil => exact Or.inl (htext ▸ h)
      | cons d left =>
        obtain ⟨rfl, rfl⟩ := List.cons.inj htext
        refine Or.inr ⟨left, right, rfl, ?_⟩
        rwa [getLast?_cons_or] at h

theorem scan_of_start {a : α} (h : p before text = some a) : scan p before text = some a := by
  cases text with
  | nil => exact h
  | cons c rest => rw [scan, h, Option.some_or]

/-- A place with a match is found when no place before it has one. -/
theorem scan_of_leftmost {a : α} {left right : Text} (h : p (left.getLast?.or before) right = some a)
    (hfirst : ∀ left' right', left ++ right = left' ++ right' → left'.length < left.length →
      p (left'.getLast?.or before) right' = none) : scan p before (left ++ right) = some a := by
  induction left generalizing before with
  | nil => exact scan_of_start h
  | cons c left ih =>
    have hstart : p before (c :: (left ++ right)) = none :=
      hfirst [] (c :: (left ++ right)) rfl (Nat.zero_lt_succ _)
    rw [List.cons_append, scan, hstart, Option.none_or]
    rw [getLast?_cons_or] at h
    refine ih h ?_
    intro left' right' htext hshort
    rw [← getLast?_cons_or c left' before]
    exact hfirst (c :: left') right' (congrArg (c :: ·) htext) (Nat.succ_lt_succ hshort)

theorem exists_leftmost {a : α} (h : scan p before text = some a) :
    ∃ left right, text = left ++ right ∧ p (left.getLast?.or before) right = some a ∧
      ∀ left' right', text = left' ++ right' → left'.length < left.length →
        p (left'.getLast?.or before) right' = none := by
  induction text generalizing before with
  | nil => exact ⟨[], [], rfl, h, nofun⟩
  | cons c rest ih =>
    rw [scan] at h
    cases hstart : p before (c :: rest) with
    | some b =>
      rw [hstart, Option.some_or] at h
      exact ⟨[], c :: rest, rfl, hstart.trans h, nofun⟩
    | none =>
      rw [hstart, Option.none_or] at h
      obtain ⟨left, right, rfl, hmatch, hfirst⟩ := ih h
      refine ⟨c :: left, right, rfl, by rw [getLast?_cons_or]; exact hmatch, ?_⟩
      intro left' right' htext hshort
      cases left' with
      | nil =>
        rw [List.nil_append] at htext
        rw [← htext]
        exact hstart
      | cons d left' =>
        obtain ⟨rfl, hrest⟩ := List.cons.inj htext
        rw [getLast?_cons_or]
        exact hfirst left' right' hrest (Nat.lt_of_succ_lt_succ hshort)

/-- A pattern that a text at hand shows as the words before its first blank do. -/
def WithinWords (p : Option Char → Text → Option α) : Prop :=
  ∀ before word rest, p before (word ++ ' ' :: rest) = p before word

theorem scan_word_append (hp : WithinWords p) :
    scan p before (word ++ ' ' :: rest) = (scan p before word).or (scan p (some ' ') rest) := by
  induction word generalizing before with
  | nil =>
    have hnil := hp before [] rest
    rw [List.nil_append] at hnil ⊢
    simp only [scan, hnil]
  | cons c word ih =>
    have hcons := hp before (c :: word) rest
    rw [List.cons_append] at hcons ⊢
    simp only [scan, hcons, ih, Option.or_assoc]

end Scan

end GuardTime
