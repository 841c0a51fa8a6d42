import GuardTime.Json

namespace GuardTime

namespace Json

variable {style : Style} {v : Json} {c : Char} {room : Nat} {text rest : Text}

theorem skip_append (h : skip text = c :: rest) (more : Text) :
    skip (text ++ more) = c :: (rest ++ more) := by
  have hne : (List.dropWhile isSpace text).isEmpty = false := by
    rw [skip] at h
    rw [h, List.isEmpty_cons]
  rw [skip, List.dropWhile_append, hne, if_neg Bool.false_ne_true]
  rw [skip] at h
  rw [h, List.cons_append]

theorem read_succ (room : Nat) :
    (∀ text read, readValue room text = some read → readValue (room + 1) text = some read) ∧
    (∀ text read, readItems room text = some read → readItems (room + 1) text = some read) ∧
    ∀ text read, readMembers room text = some read → readMembers (room + 1) text = some read := by
  induction room with
  | zero =>
    refine ⟨?_, ?_, ?_⟩
    · intro text read h
      simp [readValue] at h
    · intro text read h
      simp [readItems] at h
    · intro text read h
      simp [readMembers] at h
  | succ room ih =>
    obtain ⟨hvalue, hitems, hmembers⟩ := ih
    refine ⟨?_, ?_, ?_⟩
    · intro text read h
      rw [readValue] at h ⊢
      cases hskip : skip text with
      | nil => simp [hskip] at h
      | cons c rest =>
        simp only [hskip] at h ⊢
        split_ifs at h ⊢
        · exact h
        · obtain ⟨found, hfound, heq⟩ := Option.map_eq_some_iff.mp h
          rw [hitems rest found hfound, ← heq]
          rfl
        · exact h
        · obtain ⟨found, hfound, heq⟩ := Option.map_eq_some_iff.mp h
          rw [hmembers rest found hfound, ← heq]
          rfl
        all_goals exact h
    · intro text read h
      rw [readItems] at h ⊢
      obtain ⟨first, hfirst, h⟩ := Option.bind_eq_some_iff.mp h
      rw [hvalue text first hfirst, Option.bind_some]
      cases hskip : skip first.2 with
      | nil => simp [hskip] at h
      | cons c rest =>
        simp only [hskip] at h ⊢
        split_ifs at h ⊢
        · obtain ⟨found, hfound, heq⟩ := Option.map_eq_some_iff.mp h
          rw [hitems rest found hfound, ← heq]
          rfl
        · exact h
    · intro text read h
      rw [readMembers] at h ⊢
      cases hskip : skip text with
      | nil => simp [hskip] at h
      | cons quote behind =>
        simp only [hskip] at h ⊢
        split_ifs at h ⊢
        obtain ⟨key, hkey, h⟩ := Option.bind_eq_some_iff.mp h
        rw [hkey, Option.bind_some]
        cases hcolon : skip key.2 with
        | nil => simp [hcolon] at h
        | cons colon behind' =>
          simp only [hcolon] at h ⊢
          split_ifs at h ⊢
          obtain ⟨first, hfirst, h⟩ := Option.bind_eq_some_iff.mp h
          rw [hvalue behind' first hfirst, Option.bind_some]
          cases hrest : skip first.2 with
          | nil => simp [hrest] at h
          | cons c rest =>
            simp only [hrest] at h ⊢
            split_ifs at h ⊢
            · obtain ⟨found, hfound, heq⟩ := Option.map_eq_some_iff.mp h
              rw [hmembers rest found hfound, ← heq]
              rfl
            · exact h

theorem readValue_mono {room' : Nat} {read : Json × Text} (hle : room ≤ room')
    (h : readValue room text = some read) : readValue room' text = some read := by
  induction hle with
  | refl => exact h
  | step hle ih => exact (read_succ _).1 text read ih

/-- The end of a value is seen without the text behind it, unless it is a number at the very end. -/
def Seen (v : Json) (rest : Text) : Prop := rest ≠ [] ∨ ∀ literal, v ≠ .number literal

theorem readKeyword_append {name : Text} (h : readKeyword name v text = some (v, rest)) (more : Text) :
    readKeyword name v (text ++ more) = some (v, rest ++ more) := by
  rw [readKeyword] at h
  split at h
  next hprefix =>
    obtain ⟨tail, rfl⟩ := hprefix
    obtain ⟨_, hrest⟩ := Prod.mk.inj (Option.some.inj h)
    rw [List.drop_left] at hrest
    subst hrest
    rw [readKeyword, List.append_assoc, if_pos (List.prefix_append _ _), List.drop_left]
  next => cases h

theorem readKeyword_value {name : Text} {w : Json} (h : readKeyword name v text = some (w, rest)) :
    w = v := by
  rw [readKeyword] at h
  split at h
  next => exact (Prod.mk.inj (Option.some.inj h)).1.symm
  next => cases h

theorem readNumber_number (h : readNumber text = some (v, rest)) :
    v = .number (text.takeWhile isNumberChar) ∧ rest = text.dropWhile isNumberChar := by
  rw [readNumber] at h
  split at h
  next =>
    obtain ⟨hv, hrest⟩ := Prod.mk.inj (Option.some.inj h)
    exact ⟨hv.symm, hrest.symm⟩
  next => cases h

theorem readNumber_more (h : readNumber text = some (v, rest)) (hne : rest ≠ []) (more : Text) :
    readNumber (text ++ more) = some (v, rest ++ more) := by
  obtain ⟨rfl, rfl⟩ := readNumber_number h
  have hdrop : (text.dropWhile isNumberChar).isEmpty = false := List.isEmpty_eq_false_iff.mpr hne
  have htake : (text ++ more).takeWhile isNumberChar = text.takeWhile isNumberChar := by
    have hparts := List.takeWhile_append_dropWhile (p := isNumberChar) (l := text)
    have hlength : (text.takeWhile isNumberChar).length ≠ text.length := by
      intro heq
      have hall := congrArg List.length hparts
      rw [List.length_append] at hall
      exact hne (List.length_eq_zero_iff.mp (by omega))
    rw [List.takeWhile_append, if_neg hlength]
  have hrest : (text ++ more).dropWhile isNumberChar = text.dropWhile isNumberChar ++ more := by
    rw [List.dropWhile_append, hdrop, if_neg Bool.false_ne_true]
  rw [readNumber] at h ⊢
  rw [htake, hrest]
  split at h
  next hnumber => rw [if_pos hnumber]
  next => cases h

theorem readItems_blank (room : Nat) (h : skip text = []) : readItems room text = none := by
  cases room with
  | zero => rw [readItems]
  | succ room =>
    have hvalue : readValue room text = none := by
      cases room with
      | zero => rw [readValue]
      | succ room => simp [readValue, h]
    rw [readItems, hvalue, Option.bind_none]

theorem readMembers_blank (room : Nat) (h : skip text = []) : readMembers room text = none := by
  cases room with
  | zero => rw [readMembers]
  | succ room => simp [readMembers, h]

/-- A bracket and all that is read up to the one that closes it. -/
theorem bracket_append {α : Type} {close : Char} {read : Text → Option (α × Text)} {empty : Json}
    {make : α → Json} {more : Text} (hblank : ∀ text, skip text = [] → read text = none)
    (hread : ∀ text a rest, read text = some (a, rest) → read (text ++ more) = some (a, rest ++ more))
    (h : (if (skip text).head? = some close then some (empty, (skip text).tail)
      else (read text).map fun found => (make found.1, found.2)) = some (v, rest)) :
    (if (skip (text ++ more)).head? = some close then some (empty, (skip (text ++ more)).tail)
      else (read (text ++ more)).map fun found => (make found.1, found.2)) = some (v, rest ++ more) := by
  cases hskip : skip text with
  | nil => simp [hskip, hblank text hskip] at h
  | cons c behind =>
    rw [skip_append hskip more]
    rw [hskip] at h
    by_cases hclose : c = close
    · have hshort : (c :: behind).head? = some close := congrArg some hclose
      have hlong : (c :: (behind ++ more)).head? = some close := congrArg some hclose
      rw [if_pos hlong]
      rw [if_pos hshort] at h
      cases h
      rfl
    · have hshort : (c :: behind).head? ≠ some close := fun heq => hclose (Option.some.inj heq)
      have hlong : (c :: (behind ++ more)).head? ≠ some close := fun heq => hclose (Option.some.inj heq)
      rw [if_neg hlong]
      rw [if_neg hshort] at h
      obtain ⟨⟨a, after⟩, hfound, heq⟩ := Option.map_eq_some_iff.mp h
      rw [hread text a after hfound]
      cases heq
      rfl

theorem read_append (room : Nat) (more : Text) :
    (∀ text v rest, readValue room text = some (v, rest) → Seen v rest →
      readValue room (text ++ more) = some (v, rest ++ more)) ∧
    (∀ text vs rest, readItems room text = some (vs, rest) →
      readItems room (text ++ more) = some (vs, rest ++ more)) ∧
    ∀ text ms rest, readMembers room text = some (ms, rest) →
      readMembers room (text ++ more) = some (ms, rest ++ more) := by
  induction room with
  | zero =>
    refine ⟨?_, ?_, ?_⟩
    · intro text v rest h
      simp [readValue] at h
    · intro text vs rest h
      simp [readItems] at h
    · intro text ms rest h
      simp [readMembers] at h
  | succ room ih =>
    obtain ⟨hvalue, hitems, hmembers⟩ := ih
    have hseen : ∀ {v : Json} {c : Char} {rest text : Text}, skip text = c :: rest → Seen v text := by
      intro v c rest text hskip
      refine Or.inl ?_
      rintro rfl
      cases hskip
    refine ⟨?_, ?_, ?_⟩
    · intro text v rest h hend
      rw [readValue] at h ⊢
      cases hskip : skip text with
      | nil => simp [hskip] at h
      | cons c behind =>
        rw [skip_append hskip more]
        simp only [hskip] at h ⊢
        split at h
        next hc =>
          rw [if_pos hc]
          exact bracket_append (fun _ => readItems_blank room) hitems h
        next hc =>
          rw [if_neg hc]
          split at h
          next hc =>
            rw [if_pos hc]
            exact bracket_append (fun _ => readMembers_blank room) hmembers h
          next hc =>
            rw [if_neg hc]
            split_ifs at h ⊢
            · obtain ⟨⟨s, after⟩, hbody, heq⟩ := Option.map_eq_some_iff.mp h
              rw [JsonString.body_append hbody more]
              cases heq
              rfl
            · cases readKeyword_value h
              exact readKeyword_append h more
            · cases readKeyword_value h
              exact readKeyword_append h more
            · cases readKeyword_value h
              exact readKeyword_append h more
            · have hne : rest ≠ [] := hend.resolve_right fun hno => hno _ (readNumber_number h).1
              exact readNumber_more h hne more
    · intro text vs rest h
      rw [readItems] at h ⊢
      obtain ⟨⟨v, after⟩, hfirst, h⟩ := Option.bind_eq_some_iff.mp h
      cases hskip : skip after with
      | nil => simp [hskip] at h
      | cons c behind =>
        rw [hvalue text v after hfirst (hseen hskip), Option.bind_some, skip_append hskip more]
        simp only [hskip] at h ⊢
        split_ifs at h ⊢
        · obtain ⟨⟨others, end'⟩, hothers, heq⟩ := Option.map_eq_some_iff.mp h
          rw [hitems behind others end' hothers]
          cases heq
          rfl
        · cases h
          rfl
    · intro text ms rest h
      rw [readMembers] at h ⊢
      cases hskip : skip text with
      | nil => simp [hskip] at h
      | cons quote behind =>
        rw [skip_append hskip more]
        simp only [hskip] at h ⊢
        split_ifs at h ⊢
        obtain ⟨⟨key, after⟩, hkey, h⟩ := Option.bind_eq_some_iff.mp h
        rw [JsonString.body_append hkey more, Option.bind_some]
        cases hcolon : skip after with
        | nil => simp [hcolon] at h
        | cons colon behind' =>
          simp only [skip_append hcolon more]
          simp only [hcolon] at h ⊢
          split_ifs at h ⊢
          obtain ⟨⟨v, after'⟩, hfirst, h⟩ := Option.bind_eq_some_iff.mp h
          cases hrest : skip after' with
          | nil => simp [hrest] at h
          | cons c behind'' =>
            rw [hvalue behind' v after' hfirst (hseen hrest), Option.bind_some]
            simp only [skip_append hrest more]
            simp only [hrest] at h ⊢
            split_ifs at h ⊢
            · obtain ⟨⟨others, end'⟩, hothers, heq⟩ := Option.map_eq_some_iff.mp h
              rw [hmembers behind'' others end' hothers]
              cases heq
              rfl
            · cases h
              rfl

/-- A value that starts with no character of a number is no number. -/
theorem readValue_head (h : readValue room (c :: text) = some (v, rest)) (hspace : isSpace c = false)
    (hc : isNumberChar c = false) : ∀ literal, v ≠ .number literal := by
  rintro literal rfl
  cases room with
  | zero => simp [readValue] at h
  | succ room =>
    rw [readValue, skip_cons hspace] at h
    simp only at h
    split_ifs at h
    · cases h
    · obtain ⟨_, _, heq⟩ := Option.map_eq_some_iff.mp h
      cases heq
    · cases h
    · obtain ⟨_, _, heq⟩ := Option.map_eq_some_iff.mp h
      cases heq
    · obtain ⟨_, _, heq⟩ := Option.map_eq_some_iff.mp h
      cases heq
    · cases readKeyword_value h
    · cases readKeyword_value h
    · cases readKeyword_value h
    · rw [readNumber, List.takeWhile_cons, hc, if_neg Bool.false_ne_true, isNumber_nil] at h
      cases h

/-- Of an object that is printed nothing less than all of it can be parsed. -/
theorem parse_part {members : List (Text × Json)} (hv : Valid (.object members)) {part more : Text}
    (htext : part ++ more = print style (.object members)) (hmore : more ≠ []) : parse part = none := by
  cases hparse : parse part with
  | none => rfl
  | some w =>
    obtain ⟨⟨w', rest⟩, hread, hw⟩ := Option.bind_eq_some_iff.mp hparse
    have hhead : ∃ tail, part = '\x7b' :: tail := by
      cases part with
      | nil => cases hparse
      | cons c tail => exact ⟨tail, congrArg (· :: tail) (List.cons.inj htext).1⟩
    obtain ⟨tail, rfl⟩ := hhead
    have hseen : Seen w' rest := Or.inr (readValue_head hread rfl rfl)
    have hall := (read_append _ more).1 _ _ _ hread hseen
    rw [htext] at hall
    have hroom : 2 * ('\x7b' :: tail).length + 2 ≤ 2 * (print style (.object members)).length + 2 := by
      rw [← htext, List.length_append]
      omega
    have hwhole := reads_of_valid style hv (2 * (print style (.object members)).length + 2) [] (by omega)
      (fun c hc => by cases hc)
    rw [List.append_nil, readValue_mono hroom hall] at hwhole
    have hnil : rest ++ more = [] := (Prod.mk.inj (Option.some.inj hwhole)).2
    exact absurd (List.append_eq_nil_iff.mp hnil).2 hmore

end Json

end GuardTime
