import Mathlib.Data.List.DropRight
import Mathlib.Data.List.Infix

namespace GuardTime

/-- A text as its characters. -/
abbrev Text := List Char

/-- What `toLowerCase()` makes of a character, as far as that is ASCII: of all others the Kelvin sign
alone has such a lower case. -/
def lowerChar (c : Char) : Char := if c = '\u212a' then 'k' else c.toLower

/-- `text.toLowerCase()` where it is compared with ASCII texts. -/
def lowerCase (text : Text) : Text := text.map lowerChar

/-- `text.includes(part)`. -/
def includes (text part : Text) : Bool := part <:+: text

/-- The code units of a character in UTF-16. -/
def codeUnits (c : Char) : List Nat :=
  if c.toNat < 0x10000 then [c.toNat]
  else [0xD800 + (c.toNat - 0x10000) / 0x400, 0xDC00 + (c.toNat - 0x10000) % 0x400]

/-- The code units of a text. -/
def charCodes (text : String) : List Nat := text.toList.flatMap codeUnits

/-- `text.split(/\r?\n/)`. -/
def splitLines : Text → List Text
  | [] => [[]]
  | c :: rest =>
    if c = '\n' then [] :: splitLines rest
    else if c = '\r' ∧ rest.head? = some '\n' then splitLines rest
    else
      match splitLines rest with
      | line :: lines => (c :: line) :: lines
      | [] => [[c]]

/-- `lines.join('\n') + '\n'`. -/
def joinLines (lines : List Text) : Text := List.intercalate ['\n'] lines ++ ['\n']

/-- A line without the carriage return that belongs to its line end. -/
def dropReturn (line : Text) : Text :=
  if line.getLast? = some '\r' then line.dropLast else line

/-- Every carriage return belongs to a line end. -/
def PairedReturns (text : Text) : Prop :=
  ∀ before after, text = before ++ '\r' :: after → after.head? = some '\n'

def pairedReturns : Text → Bool
  | [] => true
  | c :: rest => (c ≠ '\r' || rest.head? = some '\n') && pairedReturns rest

variable {space : Char → Bool} {line part rest text : Text} {lines : List Text}

theorem newline_notMem_splitLines (h : line ∈ splitLines text) : '\n' ∉ line := by
  induction text generalizing line with
  | nil => simp_all [splitLines]
  | cons c rest ih =>
    simp only [splitLines] at h
    split at h
    next =>
      rcases List.mem_cons.mp h with rfl | h
      · simp
      · exact ih h
    next hc =>
      split at h
      next => exact ih h
      next =>
        split at h
        next first others hsplit =>
          rw [hsplit] at ih
          rcases List.mem_cons.mp h with rfl | h
          · simpa [Ne.symm hc] using ih List.mem_cons_self
          · exact ih (List.mem_cons_of_mem first h)
        next =>
          rw [List.mem_singleton.mp h]
          simpa using Ne.symm hc

theorem PairedReturns.tail {c : Char} (h : PairedReturns (c :: text)) : PairedReturns text := by
  intro before after heq
  exact h (c :: before) after (by rw [heq, List.cons_append])

theorem pairedReturns_iff : pairedReturns text = true ↔ PairedReturns text := by
  induction text with
  | nil => simp [pairedReturns, PairedReturns]
  | cons c rest ih =>
    simp only [pairedReturns, Bool.and_eq_true, Bool.or_eq_true, decide_eq_true_eq, ih]
    refine ⟨?_, ?_⟩
    · intro h before after heq
      cases before with
      | nil =>
        obtain ⟨rfl, rfl⟩ := List.cons.inj heq
        exact h.1.resolve_left (fun hne => hne rfl)
      | cons d before => exact h.2 before after (List.cons.inj heq).2
    · intro h
      refine ⟨?_, h.tail⟩
      by_cases hc : c = '\r'
      · exact Or.inr (h [] rest (by rw [hc, List.nil_append]))
      · exact Or.inl hc

instance : Decidable (PairedReturns text) := decidable_of_iff _ pairedReturns_iff

theorem return_notMem_splitLines (hp : PairedReturns text) (h : line ∈ splitLines text) :
    '\r' ∉ line := by
  induction text generalizing line with
  | nil => simp_all [splitLines]
  | cons c rest ih =>
    have hc : c = '\r' → rest.head? = some '\n' := fun heq => hp [] rest (by rw [heq, List.nil_append])
    simp only [splitLines] at h
    split at h
    next =>
      rcases List.mem_cons.mp h with rfl | h
      · simp
      · exact ih hp.tail h
    next =>
      split at h
      next => exact ih hp.tail h
      next hpair =>
        have hne : '\r' ≠ c := fun heq => hpair ⟨heq.symm, hc heq.symm⟩
        split at h
        next first others hsplit =>
          rw [hsplit] at ih
          rcases List.mem_cons.mp h with rfl | h
          · simpa [hne] using ih hp.tail List.mem_cons_self
          · exact ih hp.tail (List.mem_cons_of_mem first h)
        next =>
          rw [List.mem_singleton.mp h]
          simpa using hne

theorem splitLines_line (hline : '\n' ∉ line) : splitLines line = [line] := by
  induction line with
  | nil => rfl
  | cons c rest ih =>
    simp only [List.mem_cons, not_or] at hline
    have hhead : rest.head? ≠ some '\n' := fun h => hline.2 (List.mem_of_head? h)
    simp [splitLines, Ne.symm hline.1, hhead, ih hline.2]

theorem dropReturn_cons {c : Char} (h : line ≠ [] ∨ c ≠ '\r') :
    dropReturn (c :: line) = c :: dropReturn line := by
  cases line with
  | nil => simp [dropReturn, h.resolve_left (by simp)]
  | cons d line =>
    simp only [dropReturn, List.getLast?_cons_cons]
    split
    next => rfl
    next => rfl

theorem dropReturn_self (h : '\r' ∉ line) : dropReturn line = line :=
  if_neg fun hlast => h (List.mem_of_getLast? hlast)

theorem splitLines_line_append (hline : '\n' ∉ line) :
    splitLines (line ++ '\n' :: rest) = dropReturn line :: splitLines rest := by
  induction line with
  | nil => simp [splitLines, dropReturn]
  | cons c line ih =>
    simp only [List.mem_cons, not_or] at hline
    have ih := ih hline.2
    rw [List.cons_append, splitLines, if_neg (Ne.symm hline.1)]
    by_cases hreturn : line = [] ∧ c = '\r'
    · obtain ⟨rfl, rfl⟩ := hreturn
      rw [if_pos ⟨rfl, rfl⟩, ih]
      rfl
    · have hcons : dropReturn (c :: line) = c :: dropReturn line := by
        refine dropReturn_cons ?_
        by_cases hnil : line = []
        · exact .inr fun hc => hreturn ⟨hnil, hc⟩
        · exact .inl hnil
      have hkeep : ¬(c = '\r' ∧ (line ++ '\n' :: rest).head? = some '\n') := by
        intro ⟨hc, hhead⟩
        cases line with
        | nil => exact hreturn ⟨rfl, hc⟩
        | cons d line =>
          refine hline.2 ?_
          simp only [List.cons_append, List.head?_cons, Option.some.injEq] at hhead
          exact hhead ▸ List.mem_cons_self
      rw [if_neg hkeep, ih, hcons]

theorem joinLines_cons (h : lines ≠ []) :
    joinLines (line :: lines) = line ++ '\n' :: joinLines lines := by
  cases lines with
  | nil => exact absurd rfl h
  | cons next lines => simp [joinLines, List.intercalate, List.intersperse]

theorem splitLines_joinLines (hne : lines ≠ []) (hlines : ∀ line ∈ lines, '\n' ∉ line)
    (hpart : '\n' ∉ part) :
    splitLines (joinLines lines ++ part) = lines.map dropReturn ++ [part] := by
  induction lines with
  | nil => exact absurd rfl hne
  | cons line lines ih =>
    have hline : '\n' ∉ line := hlines line List.mem_cons_self
    by_cases hnil : lines = []
    · subst hnil
      have hjoin : joinLines [line] ++ part = line ++ '\n' :: part := by
        simp [joinLines, List.intercalate]
      rw [hjoin, splitLines_line_append hline, splitLines_line hpart]
      rfl
    · have ih := ih hnil fun line hmem => hlines line (List.mem_cons_of_mem _ hmem)
      rw [joinLines_cons hnil, List.append_assoc, List.cons_append, splitLines_line_append hline, ih]
      rfl

theorem dropReturn_prefix : dropReturn line <+: line := by
  unfold dropReturn
  split
  next => exact List.dropLast_prefix line
  next => exact List.prefix_rfl

theorem prefix_of_mem_splitLines (hne : lines ≠ []) (hlines : ∀ line ∈ lines, '\n' ∉ line)
    (hcut : text <+: joinLines lines) (hpart : part ∈ splitLines text) :
    ∃ line ∈ lines, part <+: line := by
  induction lines generalizing text with
  | nil => exact absurd rfl hne
  | cons line lines ih =>
    have hline : '\n' ∉ line := hlines line List.mem_cons_self
    obtain ⟨after, hjoin, hafter⟩ : ∃ after, joinLines (line :: lines) = line ++ '\n' :: after ∧
        (after = [] ∨ lines ≠ [] ∧ after = joinLines lines) := by
      by_cases hnil : lines = []
      · exact ⟨[], by simp [hnil, joinLines, List.intercalate], .inl rfl⟩
      · exact ⟨joinLines lines, joinLines_cons hnil, .inr ⟨hnil, rfl⟩⟩
    rw [hjoin] at hcut
    rcases List.prefix_or_prefix_of_prefix hcut (List.prefix_append line _) with hshort | ⟨more, rfl⟩
    · rw [splitLines_line fun hmem => hline (hshort.subset hmem)] at hpart
      exact ⟨line, List.mem_cons_self, List.mem_singleton.mp hpart ▸ hshort⟩
    · have hmore : more <+: '\n' :: after := (List.prefix_append_right_inj line).mp hcut
      cases more with
      | nil =>
        rw [List.append_nil, splitLines_line hline] at hpart
        exact ⟨line, List.mem_cons_self, List.mem_singleton.mp hpart ▸ List.prefix_rfl⟩
      | cons c more =>
        obtain ⟨rfl, hrest⟩ := List.cons_prefix_cons.mp hmore
        rw [splitLines_line_append hline] at hpart
        rcases List.mem_cons.mp hpart with rfl | hpart
        · exact ⟨line, List.mem_cons_self, dropReturn_prefix⟩
        · rcases hafter with rfl | ⟨hnil, rfl⟩
          · rw [List.prefix_nil.mp hrest] at hpart
            refine ⟨line, List.mem_cons_self, ?_⟩
            rw [List.mem_singleton.mp hpart]
            exact List.nil_prefix
          · obtain ⟨other, hother, hprefix⟩ :=
              ih hnil (fun line hmem => hlines line (List.mem_cons_of_mem _ hmem)) hrest hpart
            exact ⟨other, List.mem_cons_of_mem line hother, hprefix⟩

/-- A list that is cut short is cut within its front or after the separator. -/
theorem prefix_append_cons {α : Type} {cut front back : List α} {sep : α}
    (h : cut <+: front ++ sep :: back) :
    cut <+: front ∨ ∃ more, cut = front ++ sep :: more ∧ more <+: back := by
  rcases List.prefix_or_prefix_of_prefix h (List.prefix_append front _) with hshort | ⟨more, rfl⟩
  · exact Or.inl hshort
  · have hmore : more <+: sep :: back := (List.prefix_append_right_inj front).mp h
    rcases List.prefix_cons_iff.mp hmore with rfl | ⟨more, rfl, hback⟩
    · exact Or.inl (by rw [List.append_nil])
    · exact Or.inr ⟨more, rfl, hback⟩

/-- A file of whole lines that is cut short splits into the lines that end in it and a beginning of the
next. -/
theorem splitLines_cut {lines : List Text} (hlines : ∀ line ∈ lines, '\n' ∉ line ∧ '\r' ∉ line)
    {cut : Text} (hcut : cut <+: lines.flatMap (· ++ ['\n'])) :
    ∃ part, splitLines cut = lines.take (cut.count '\n') ++ [part] ∧
      (part = [] ∨ ∃ line, lines[cut.count '\n']? = some line ∧ part <+: line) := by
  induction lines generalizing cut with
  | nil =>
    obtain rfl := List.prefix_nil.mp hcut
    exact ⟨[], rfl, Or.inl rfl⟩
  | cons line lines ih =>
    obtain ⟨hline, hreturn⟩ := hlines line List.mem_cons_self
    rw [List.flatMap_cons, List.append_assoc, List.singleton_append] at hcut
    rcases prefix_append_cons hcut with hpart | ⟨more, rfl, hmore⟩
    · have hnone : '\n' ∉ cut := fun hmem => hline (hpart.subset hmem)
      rw [List.count_eq_zero_of_not_mem hnone]
      exact ⟨cut, splitLines_line hnone, Or.inr ⟨line, rfl, hpart⟩⟩
    · obtain ⟨part, hsplit, hbegin⟩ :=
        ih (fun line hmem => hlines line (List.mem_cons_of_mem _ hmem)) hmore
      have hcount : (line ++ '\n' :: more).count '\n' = more.count '\n' + 1 := by
        rw [List.count_append, List.count_eq_zero_of_not_mem hline, List.count_cons_self, Nat.zero_add]
      refine ⟨part, ?_, ?_⟩
      · rw [splitLines_line_append hline, dropReturn_self hreturn, hsplit, hcount, List.take_succ_cons,
          List.cons_append]
      · rw [hcount]
        simpa using hbegin

/-- `text.trim()`. -/
def trimmed (space : Char → Bool) (text : Text) : Text := (text.rdropWhile space).dropWhile space

theorem trimmed_dropReturn (h : space '\r') : trimmed space (dropReturn line) = trimmed space line := by
  unfold dropReturn
  split
  next hlast =>
    obtain ⟨init, rfl⟩ := List.getLast?_eq_some_iff.mp hlast
    rw [List.dropLast_concat, trimmed, trimmed, List.rdropWhile_concat_pos _ _ _ h]
  next => rfl

theorem trimmed_self (hhead : ∀ c ∈ text.head?, ¬space c) (hlast : ∀ c ∈ text.getLast?, ¬space c) :
    trimmed space text = text := by
  have hright : text.rdropWhile space = text := by
    refine List.rdropWhile_eq_self_iff.mpr ?_
    intro hne
    exact hlast _ (List.getLast?_eq_some_getLast hne)
  rw [trimmed, hright, List.dropWhile_eq_self_iff]
  intro hlen hspace
  exact hhead text[0] (by simp [List.head?_eq_getElem?, hlen]) hspace

theorem rdropWhile_prefix_mono (h : part <+: line) :
    part.rdropWhile space <+: line.rdropWhile space := by
  obtain ⟨more, rfl⟩ := h
  have hreverse : (part ++ more).rdropWhile space =
      ((more.reverse ++ part.reverse).dropWhile space).reverse := by
    rw [List.rdropWhile, List.reverse_append]
  rw [hreverse, List.dropWhile_append]
  split
  next => exact List.prefix_rfl
  next =>
    rw [List.reverse_append, List.reverse_reverse]
    exact (List.rdropWhile_prefix space part).trans (List.prefix_append _ _)

theorem trimmed_mono (h : part <+: line) : trimmed space part <+: trimmed space line := by
  have hright : part.rdropWhile space <+: line.rdropWhile space := rdropWhile_prefix_mono h
  obtain ⟨more, hmore⟩ := hright
  rw [trimmed, trimmed, ← hmore, List.dropWhile_append]
  split
  next hempty => rw [List.isEmpty_iff.mp hempty]; exact List.nil_prefix
  next => exact List.prefix_append _ _

theorem mem_of_mem_trimmed {c : Char} (h : c ∈ trimmed space text) : c ∈ text :=
  (List.rdropWhile_prefix space text).subset ((List.dropWhile_sublist _).subset h)

/-- A piece of a text has characters of the text, and none that the text is split at. -/
theorem mem_splitOnP_piece {p : Char → Bool} {piece : Text} {c : Char} (h : piece ∈ text.splitOnP p)
    (hc : c ∈ piece) : c ∈ text ∧ p c = false := by
  induction text generalizing piece with
  | nil =>
    rw [List.splitOnP_nil, List.mem_singleton] at h
    rw [h] at hc
    cases hc
  | cons d text ih =>
    rw [List.splitOnP_cons_eq_if_modifyHead] at h
    split at h
    next =>
      rcases List.mem_cons.mp h with rfl | h
      · cases hc
      · exact (ih h hc).imp_left (List.mem_cons_of_mem d)
    next hd =>
      obtain ⟨first, others, hsplit⟩ := List.exists_cons_of_ne_nil (List.splitOnP_ne_nil p text)
      rw [hsplit] at h ih
      rcases List.mem_cons.mp h with rfl | h
      · rcases List.mem_cons.mp hc with rfl | hc
        · exact ⟨List.mem_cons_self, Bool.eq_false_iff.mpr hd⟩
        · exact (ih List.mem_cons_self hc).imp_left (List.mem_cons_of_mem d)
      · exact (ih (List.mem_cons_of_mem first h) hc).imp_left (List.mem_cons_of_mem d)

/-- The first piece starts the text, and every other one is inside it. -/
theorem splitOnP_cons_isInfix {p : Char → Bool} {first : Text} {others : List Text}
    (h : text.splitOnP p = first :: others) : first <+: text ∧ ∀ piece ∈ others, piece <:+: text := by
  induction text generalizing first others with
  | nil =>
    rw [List.splitOnP_nil] at h
    obtain ⟨rfl, rfl⟩ := List.cons.inj h
    exact ⟨List.prefix_refl _, nofun⟩
  | cons d text ih =>
    rw [List.splitOnP_cons_eq_if_modifyHead] at h
    obtain ⟨next, rest, hsplit⟩ := List.exists_cons_of_ne_nil (List.splitOnP_ne_nil p text)
    obtain ⟨hnext, hrest⟩ := ih hsplit
    rw [hsplit] at h
    split at h
    next =>
      obtain ⟨rfl, rfl⟩ := List.cons.inj h
      refine ⟨List.nil_prefix, ?_⟩
      intro piece hpiece
      rcases List.mem_cons.mp hpiece with rfl | hpiece
      · exact hnext.isInfix.trans (List.suffix_cons d text).isInfix
      · exact (hrest piece hpiece).trans (List.suffix_cons d text).isInfix
    next =>
      obtain ⟨rfl, rfl⟩ := List.cons.inj h
      exact ⟨List.cons_prefix_cons.mpr ⟨rfl, hnext⟩, fun piece hpiece =>
        (hrest piece hpiece).trans (List.suffix_cons d text).isInfix⟩

theorem splitOnP_isInfix {p : Char → Bool} {piece : Text} (h : piece ∈ text.splitOnP p) :
    piece <:+: text := by
  obtain ⟨first, others, hsplit⟩ := List.exists_cons_of_ne_nil (List.splitOnP_ne_nil p text)
  obtain ⟨hfirst, hothers⟩ := splitOnP_cons_isInfix hsplit
  rw [hsplit] at h
  rcases List.mem_cons.mp h with rfl | h
  · exact hfirst.isInfix
  · exact hothers piece h

theorem mem_intercalate {sep : Text} {parts : List Text} {c : Char}
    (h : c ∈ List.intercalate sep parts) :
    c ∈ sep ∨ ∃ part ∈ parts, c ∈ part := by
  induction parts with
  | nil => cases h
  | cons part parts ih =>
    cases parts with
    | nil =>
      rw [List.intercalate_singleton] at h
      exact Or.inr ⟨part, List.mem_cons_self, h⟩
    | cons next parts =>
      rw [List.intercalate_cons_cons] at h
      rcases List.mem_append.mp h with h | h
      · rcases List.mem_append.mp h with h | h
        · exact Or.inr ⟨part, List.mem_cons_self, h⟩
        · exact Or.inl h
      · rcases ih h with h | ⟨part', hpart', h⟩
        · exact Or.inl h
        · exact Or.inr ⟨part', List.mem_cons_of_mem part hpart', h⟩

theorem append_cons_first {α : Type} {a : α} {x₁ x₂ z₁ z₂ : List α} (h₁ : a ∉ x₁) (h₂ : a ∉ x₂)
    (h : x₁ ++ a :: z₁ = x₂ ++ a :: z₂) : x₁ = x₂ ∧ z₁ = z₂ := by
  induction x₁ generalizing x₂ with
  | nil =>
    cases x₂ with
    | nil => exact ⟨rfl, (List.cons.inj h).2⟩
    | cons d x₂ => exact absurd ((List.cons.inj h).1 ▸ List.mem_cons_self) h₂
  | cons c x₁ ih =>
    cases x₂ with
    | nil => exact absurd ((List.cons.inj h).1 ▸ List.mem_cons_self) h₁
    | cons d x₂ =>
      obtain ⟨rfl, hrest⟩ := List.cons.inj h
      obtain ⟨rfl, hz⟩ := ih (fun hmem => h₁ (List.mem_cons_of_mem c hmem))
        (fun hmem => h₂ (List.mem_cons_of_mem c hmem)) hrest
      exact ⟨rfl, hz⟩

theorem append_cons_last {α : Type} {a : α} {x₁ x₂ z₁ z₂ : List α} (h₁ : a ∉ z₁) (h₂ : a ∉ z₂)
    (h : x₁ ++ a :: z₁ = x₂ ++ a :: z₂) : x₁ = x₂ ∧ z₁ = z₂ := by
  have hreverse := congrArg List.reverse h
  simp only [List.reverse_append, List.reverse_cons, List.append_assoc, List.singleton_append]
    at hreverse
  obtain ⟨hz, hx⟩ := append_cons_first (by rwa [List.mem_reverse]) (by rwa [List.mem_reverse])
    hreverse
  exact ⟨List.reverse_inj.mp hx, List.reverse_inj.mp hz⟩

theorem intercalate_append {α : Type} {sep : List α} {front back : List (List α)} (hfront : front ≠ [])
    (hback : back ≠ []) :
    sep.intercalate (front ++ back) = sep.intercalate front ++ sep ++ sep.intercalate back := by
  induction front with
  | nil => exact absurd rfl hfront
  | cons piece front ih =>
    by_cases hnil : front = []
    · rw [hnil, List.cons_append, List.nil_append, List.intercalate_cons_of_ne_nil hback,
        List.intercalate_singleton]
    · rw [List.cons_append, List.intercalate_cons_of_ne_nil (List.append_ne_nil_of_left_ne_nil hnil _),
        ih hnil, List.intercalate_cons_of_ne_nil hnil]
      simp only [List.append_assoc]

/-- The pieces of one list are the last ones of another exactly when it ends with that list, after
a separator or as a whole. -/
theorem splitOn_suffix_iff {α : Type} [DecidableEq α] {sep : α} {part whole : List α} :
    part.splitOn sep <:+ whole.splitOn sep ↔ whole = part ∨ (sep :: part) <:+ whole := by
  refine ⟨?_, ?_⟩
  · rintro ⟨front, hfront⟩
    have hwhole : whole = [sep].intercalate (front ++ part.splitOn sep) := by
      rw [hfront, List.intercalate_splitOn]
    by_cases hnil : front = []
    · rw [hnil, List.nil_append, List.intercalate_splitOn] at hwhole
      exact Or.inl hwhole
    · rw [intercalate_append hnil (List.splitOn_ne_nil sep part), List.intercalate_splitOn,
        List.append_assoc, List.singleton_append] at hwhole
      exact Or.inr ⟨_, hwhole.symm⟩
  · rintro (rfl | ⟨front, rfl⟩)
    · exact List.suffix_refl _
    · rw [List.splitOn_append_cons_self]
      exact List.suffix_append _ _

theorem toString_chars {n : Nat} {c : Char} (h : c ∈ (toString n).toList) : c.isDigit := by
  have htext : (toString n).toList = Nat.toDigits 10 n := Nat.toList_repr
  rw [htext] at h
  exact Nat.isDigit_of_mem_toDigits (by decide) (by decide) h

theorem digitChar_inj {i j : Nat} (hi : i < 16) (hj : j < 16) (h : i.digitChar = j.digitChar) :
    i = j := by
  have hall : ∀ i < 16, ∀ j < 16, Nat.digitChar i = Nat.digitChar j → i = j := by decide
  exact hall i hi j hj h

theorem toDigits_inj {b : Nat} (hb : 1 < b) (hb' : b ≤ 16) {n m : Nat}
    (h : Nat.toDigits b n = Nat.toDigits b m) : n = m := by
  induction n using Nat.strongRecOn generalizing m with
  | ind n ih =>
    rw [Nat.toDigits_eq_if (n := n) hb, Nat.toDigits_eq_if (n := m) hb] at h
    split at h
    next hn =>
      split at h
      next hm => exact digitChar_inj (by omega) (by omega) (List.singleton_inj.mp h)
      next hm =>
        have hlen := congrArg List.length h
        have hpos : 0 < (Nat.toDigits b (m / b)).length := Nat.length_toDigits_pos
        simp only [List.length_append, List.length_singleton] at hlen
        omega
    next hn =>
      split at h
      next hm =>
        have hlen := congrArg List.length h
        have hpos : 0 < (Nat.toDigits b (n / b)).length := Nat.length_toDigits_pos
        simp only [List.length_append, List.length_singleton] at hlen
        omega
      next hm =>
        obtain ⟨hinit, hdigit⟩ := List.append_inj' h rfl
        have hquot := ih (n / b) (Nat.div_lt_self (by omega) hb) hinit
        have hrem : n % b = m % b := by
          have hmod : ∀ k, k % b < 16 := fun k => by
            have hlt := Nat.mod_lt k (show 0 < b by omega)
            omega
          exact digitChar_inj (hmod n) (hmod m) (List.singleton_inj.mp hdigit)
        rw [← Nat.div_add_mod n b, ← Nat.div_add_mod m b, hquot, hrem]

theorem toString_inj {m n : Nat} (h : toString m = toString n) : m = n := by
  have hdigits : ∀ k : Nat, (toString k).toList = Nat.toDigits 10 k := fun _ => Nat.toList_repr
  have htext := congrArg String.toList h
  rw [hdigits, hdigits] at htext
  exact toDigits_inj (by decide) (by decide) htext

end GuardTime
