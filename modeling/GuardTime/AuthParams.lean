import GuardTime.TextScan

namespace GuardTime

namespace AuthParams

/-- A parameter of an authentication header, with its value in quotes or bare. -/
structure Param where
  key : Text
  value : Text
  quoted : Bool
deriving DecidableEq

def Param.text (p : Param) : Text :=
  p.key ++ '=' :: (if p.quoted then '"' :: (p.value ++ ['"']) else p.value)

def printParams : List Param → Text
  | [] => []
  | [p] => p.text
  | p :: ps => p.text ++ ',' :: ' ' :: printParams ps

/-- A quoted string behind its first quote, where a backslash stands for the character after it. -/
def readQuoted : Text → Option (Text × Text)
  | [] => none
  | '"' :: rest => some ([], rest)
  | '\\' :: c :: rest => (readQuoted rest).map fun found => (c :: found.1, found.2)
  | c :: rest => (readQuoted rest).map fun found => (c :: found.1, found.2)

def readValue (text : Text) : Option (Text × Text) :=
  match text with
  | '"' :: rest => readQuoted rest
  | text => some (text.takeWhile (· ≠ ','), text.dropWhile (· ≠ ','))

/-- Reads at most `room` parameters up to the end of a text. -/
def readParams : Nat → Text → Option (List (Text × Text))
  | 0, _ => none
  | room + 1, text =>
    match text.dropWhile (· ≠ '=') with
    | [] => none
    | _ :: rest => (readValue rest).bind fun found =>
      match found.2 with
      | [] => some [(text.takeWhile (· ≠ '='), found.1)]
      | ',' :: ' ' :: more => (readParams room more).map ((text.takeWhile (· ≠ '='), found.1) :: ·)
      | _ => none

/-- A parameter that is read as it is printed. -/
structure Param.Plain (p : Param) : Prop where
  key : '=' ∉ p.key
  quoted : p.quoted = true → '"' ∉ p.value ∧ '\\' ∉ p.value
  bare : p.quoted = false → ',' ∉ p.value ∧ p.value.head? ≠ some '"'

variable {p : Param} {ps : List Param} {key pattern text rest block : Text}

theorem printParams_cons (h : ps ≠ []) :
    printParams (p :: ps) = p.text ++ ',' :: ' ' :: printParams ps := by
  cases ps with
  | nil => exact absurd rfl h
  | cons q ps => rfl

theorem readQuoted_append {value : Text} (hquote : '"' ∉ value) (hslash : '\\' ∉ value)
    (rest : Text) : readQuoted (value ++ '"' :: rest) = some (value, rest) := by
  induction value with
  | nil => simp [readQuoted]
  | cons c value ih =>
    simp only [List.mem_cons, not_or] at hquote hslash
    have hstep : readQuoted (c :: (value ++ '"' :: rest)) =
        (readQuoted (value ++ '"' :: rest)).map fun found => (c :: found.1, found.2) := by
      rw [readQuoted]
      · exact fun h => hquote.1 h.symm
      · intro d tail h
        exact absurd h.symm hslash.1
    rw [List.cons_append, hstep, ih hquote.2 hslash.2]
    rfl

theorem readValue_text (hp : p.Plain) (hrest : rest = [] ∨ rest.head? = some ',') :
    readValue ((if p.quoted then '"' :: (p.value ++ ['"']) else p.value) ++ rest) =
      some (p.value, rest) := by
  cases hquoted : p.quoted with
  | true =>
    obtain ⟨hquote, hslash⟩ := hp.quoted hquoted
    have hread := readQuoted_append hquote hslash rest
    simpa [readValue] using hread
  | false =>
    obtain ⟨hcomma, hhead⟩ := hp.bare hquoted
    have hall : ∀ c ∈ p.value, decide (c ≠ ',') = true := by
      intro c hc
      exact decide_eq_true fun heq => hcomma (heq ▸ hc)
    have hstop : rest.takeWhile (· ≠ ',') = [] ∧ rest.dropWhile (· ≠ ',') = rest := by
      rcases hrest with rfl | hhead'
      · exact ⟨rfl, rfl⟩
      · obtain ⟨tail, rfl⟩ := List.head?_eq_some_iff.mp hhead'
        simp
    have hbare : readValue (p.value ++ rest) =
        some ((p.value ++ rest).takeWhile (· ≠ ','), (p.value ++ rest).dropWhile (· ≠ ',')) := by
      rw [readValue]
      intro tail heq
      cases hv : p.value with
      | nil =>
        rw [hv, List.nil_append] at heq
        rcases hrest with rfl | hhead'
        · cases heq
        · rw [heq] at hhead'
          simp at hhead'
      | cons c value =>
        rw [hv, List.cons_append] at heq
        rw [hv, (List.cons.inj heq).1] at hhead
        exact hhead rfl
    rw [if_neg Bool.false_ne_true, hbare, List.takeWhile_append_of_pos hall,
      List.dropWhile_append_of_pos hall, hstop.1, hstop.2, List.append_nil]

theorem readParams_printParams {room : Nat} (hne : ps ≠ []) (hroom : ps.length ≤ room)
    (hplain : ∀ p ∈ ps, p.Plain) :
    readParams room (printParams ps) = some (ps.map fun p => (p.key, p.value)) := by
  induction ps generalizing room with
  | nil => exact absurd rfl hne
  | cons p ps ih =>
    obtain ⟨room, rfl⟩ := Nat.exists_eq_add_one_of_ne_zero (n := room) (by
      intro hzero
      simp [hzero] at hroom)
    have hp := hplain p List.mem_cons_self
    have hkey : ∀ c ∈ p.key, decide (c ≠ '=') = true := by
      intro c hc
      exact decide_eq_true fun heq => hp.key (heq ▸ hc)
    have htake : ∀ rest, (p.text ++ rest).takeWhile (· ≠ '=') = p.key := by
      intro rest
      rw [Param.text, List.append_assoc, List.takeWhile_append_of_pos hkey]
      simp
    have hdrop : ∀ rest, (p.text ++ rest).dropWhile (· ≠ '=') =
        '=' :: ((if p.quoted then '"' :: (p.value ++ ['"']) else p.value) ++ rest) := by
      intro rest
      rw [Param.text, List.append_assoc, List.dropWhile_append_of_pos hkey]
      simp
    by_cases hnil : ps = []
    · subst hnil
      have hprint : printParams [p] = p.text ++ [] := (List.append_nil _).symm
      rw [hprint, readParams, hdrop, htake]
      simp only [readValue_text hp (Or.inl rfl), Option.bind_some, List.map_cons, List.map_nil]
    · have hlength : ps.length ≤ room := by
        rw [List.length_cons] at hroom
        omega
      have ih := ih hnil hlength fun q hq => hplain q (List.mem_cons_of_mem _ hq)
      have hvalue : readValue ((if p.quoted then '"' :: (p.value ++ ['"']) else p.value) ++
          ',' :: ' ' :: printParams ps) = some (p.value, ',' :: ' ' :: printParams ps) :=
        readValue_text hp (Or.inr rfl)
      rw [printParams_cons hnil, readParams, hdrop, htake]
      simp only [hvalue, Option.bind_some, ih, Option.map_some, List.map_cons]

section Search

variable {α : Type} {f : Text → Option α}

theorem infix_split {c : Char} {left right : Text} (hc : c ∉ pattern) (hne : pattern ≠ [])
    (h : pattern <:+: left ++ c :: right) : pattern <:+: left ∨ pattern <:+: right := by
  obtain ⟨before, after, heq⟩ := h
  rw [List.append_assoc, List.append_eq_append_iff] at heq
  rcases heq with ⟨tail, rfl, htail⟩ | ⟨tail, rfl, htail⟩
  · rcases List.append_eq_append_iff.mp htail with ⟨more, rfl, -⟩ | ⟨more, hpattern, hright⟩
    · exact Or.inl ⟨before, more, by simp⟩
    · cases more with
      | nil =>
        rw [List.append_nil] at hpattern
        exact Or.inl ⟨before, [], by rw [hpattern, List.append_nil]⟩
      | cons d more =>
        rw [List.cons_append, List.cons.injEq] at hright
        refine absurd ?_ hc
        rw [hpattern, hright.1]
        simp
  · cases tail with
    | nil =>
      rw [List.nil_append] at htail
      cases pattern with
      | nil => exact absurd rfl hne
      | cons d pattern =>
        rw [List.cons_append, List.cons.injEq] at htail
        exact absurd (htail.1 ▸ List.mem_cons_self) hc
    | cons d tail =>
      rw [List.cons_append, List.cons.injEq] at htail
      exact Or.inr ⟨tail, after, by rw [htail.2, List.append_assoc]⟩

/-- The search goes on behind a block in which nothing that it looks for begins. -/
theorem scan_skip (h : ∀ left right, block = left ++ right → right ≠ [] → f (right ++ rest) = none)
    (before : Option Char) : scan (fun _ => f) before (block ++ rest) =
      scan (fun _ => f) none rest := by
  induction block generalizing before with
  | nil =>
    rw [List.nil_append]
    cases rest with
    | nil => rfl
    | cons c rest => rfl
  | cons c block ih =>
    have hfirst : f (c :: block ++ rest) = none := h [] (c :: block) rfl (List.cons_ne_nil _ _)
    rw [List.cons_append, scan, ← List.cons_append, hfirst, Option.none_or]
    refine ih ?_ (some c)
    intro left right hsplit hne
    exact h (c :: left) right (by rw [hsplit, List.cons_append]) hne

/-- A search for what begins with a pattern finds nothing where the pattern is not. -/
theorem scan_absent (hf : ∀ text, ¬pattern <+: text → f text = none) (h : ¬pattern <:+: text)
    (before : Option Char) : scan (fun _ => f) before text = none := by
  have hnone : scan (fun _ => f) before (text ++ []) = scan (fun _ => f) none [] := by
    refine scan_skip ?_ before
    intro left right hsplit _
    refine hf _ fun hpattern => h ?_
    rw [List.append_nil] at hpattern
    exact hsplit ▸ hpattern.isInfix.trans (List.suffix_append left right).isInfix
  rw [List.append_nil] at hnone
  rw [hnone]
  refine hf [] ?_
  intro hpattern
  exact h (List.prefix_nil.mp hpattern ▸ List.nil_infix)

/-- A block that ends in a character the pattern has not, and does not have the pattern. -/
theorem scan_block {c : Char} (hf : ∀ text, ¬pattern <+: text → f text = none) (hc : c ∉ pattern)
    (h : ¬pattern <:+: block) (before : Option Char) :
    scan (fun _ => f) before (block ++ c :: rest) = scan (fun _ => f) none rest := by
  have happend : block ++ c :: rest = (block ++ [c]) ++ rest := by simp
  rw [happend]
  refine scan_skip ?_ before
  intro left right hsplit hright
  refine hf _ fun hpattern => ?_
  -- the pattern would have to lie in the block, or reach over the character
  obtain ⟨init, last, rfl⟩ := (List.eq_nil_or_concat' right).resolve_left hright
  rw [← List.append_assoc] at hsplit
  obtain ⟨hblock, hlast⟩ := List.append_inj' hsplit rfl
  rw [← List.singleton_inj.mp hlast, List.append_assoc, List.singleton_append] at hpattern
  have hinit : pattern <:+: init := by
    obtain ⟨after, hafter⟩ := hpattern
    rcases List.append_eq_append_iff.mp hafter with ⟨more, rfl, -⟩ | ⟨more, hpat, hrest⟩
    · exact (List.prefix_append pattern more).isInfix
    · cases more with
      | nil => rw [hpat, List.append_nil]
      | cons d more =>
        rw [List.cons_append, List.cons.injEq] at hrest
        refine absurd ?_ hc
        rw [hpat, hrest.1]
        simp
  exact h (hblock ▸ hinit.trans (List.suffix_append left init).isInfix)

/-- The name of a parameter, with the sign behind it, that a search goes by. -/
structure SearchKey (key : Text) : Prop where
  plain : ∀ c ∈ key, c ≠ '=' ∧ c ≠ '"' ∧ c ≠ ',' ∧ c ≠ ' '

/-- A parameter in which the search for another key finds nothing. -/
structure Param.Hides (p : Param) (key : Text) : Prop where
  plain : '=' ∉ p.key
  other : ¬key <:+ p.key
  value : ¬key ++ ['='] <:+: p.value

theorem SearchKey.pattern_ne (key : Text) : key ++ ['='] ≠ [] := by simp

theorem SearchKey.notMem (h : SearchKey key) {c : Char} (hc : c = '"' ∨ c = ',' ∨ c = ' ') :
    c ∉ key ++ ['='] := by
  intro hmem
  rcases List.mem_append.mp hmem with hmem | hmem
  · obtain ⟨-, hquote, hcomma, hspace⟩ := h.plain c hmem
    rcases hc with rfl | rfl | rfl
    · exact hquote rfl
    · exact hcomma rfl
    · exact hspace rfl
  · rw [List.mem_singleton.mp hmem] at hc
    revert hc
    decide

/-- The pattern of a key lies over a sign only where the key ends the name before it. -/
theorem infix_equals (h : SearchKey key) {left right : Text} (hleft : '=' ∉ left)
    (hpattern : key ++ ['='] <:+: left ++ '=' :: right) :
    key <:+ left ∨ key ++ ['='] <:+: right := by
  obtain ⟨before, after, heq⟩ := hpattern
  have hkey : '=' ∉ key := fun hmem => (h.plain _ hmem).1 rfl
  by_cases hbefore : '=' ∈ before
  · right
    -- the pattern lies behind the first sign
    obtain ⟨init, tail, rfl, hinit⟩ := List.eq_append_cons_of_mem hbefore
    have hsame : init ++ '=' :: (tail ++ (key ++ ['=']) ++ after) = left ++ '=' :: right := by
      rw [← heq]
      simp
    obtain ⟨-, hright⟩ := append_cons_first hinit hleft hsame
    exact ⟨tail, after, hright⟩
  · left
    have hsame : (before ++ key) ++ '=' :: after = left ++ '=' :: right := by
      rw [← heq]
      simp
    have hnot : '=' ∉ before ++ key := by simp [hbefore, hkey]
    obtain ⟨hleft', -⟩ := append_cons_first hnot hleft hsame
    exact ⟨before, hleft'⟩

theorem Param.Hides.absent (h : p.Hides key) (hkey : SearchKey key) :
    ¬key ++ ['='] <:+: p.text ++ [','] := by
  intro hpattern
  have hne := SearchKey.pattern_ne key
  rw [Param.text, List.append_assoc, List.cons_append] at hpattern
  rcases infix_equals hkey h.plain hpattern with hsuffix | hpattern
  · exact h.other hsuffix
  · have hvalue : key ++ ['='] <:+: (if p.quoted then '"' :: (p.value ++ ['"']) else p.value) := by
      rcases infix_split (hkey.notMem (Or.inr (Or.inl rfl))) hne hpattern with hvalue | hnil
      · exact hvalue
      · exact absurd (List.infix_nil.mp hnil) hne
    split at hvalue
    next =>
      rw [← List.nil_append ('"' :: (p.value ++ ['"']))] at hvalue
      rcases infix_split (hkey.notMem (Or.inl rfl)) hne hvalue with hnil | hvalue
      · exact hne (List.infix_nil.mp hnil)
      · rcases infix_split (hkey.notMem (Or.inl rfl)) hne hvalue with hvalue | hnil
        · exact h.value hvalue
        · exact hne (List.infix_nil.mp hnil)
    next => exact h.value hvalue

/-- A search for a key goes over the parameters that hide from it, to the one it reads. -/
theorem scan_printParams (hkey : SearchKey key)
    (hf : ∀ text, ¬key ++ ['='] <+: text → f text = none)
    (hother : ∀ p ∈ ps, p.key ≠ key → p.Hides key)
    {value : Param → α} (hread : ∀ p ∈ ps, p.key = key → ∀ rest, rest = [] ∨ rest.head? = some ',' →
      f (p.text ++ rest) = some (value p)) (before : Option Char) :
    scan (fun _ => f) before (printParams ps) = (ps.find? fun p => p.key = key).map value := by
  induction ps generalizing before with
  | nil =>
    have hne := SearchKey.pattern_ne key
    exact scan_absent hf (fun h => hne (List.infix_nil.mp h)) before
  | cons p ps ih =>
    have ih := ih (fun q hq => hother q (List.mem_cons_of_mem _ hq))
      fun q hq => hread q (List.mem_cons_of_mem _ hq)
    by_cases hp : p.key = key
    · have hfound : (p :: ps).find? (fun p => p.key = key) = some p := by simp [hp]
      rw [hfound, Option.map_some]
      refine scan_of_start ?_
      by_cases hnil : ps = []
      · subst hnil
        have hend := hread p List.mem_cons_self hp [] (Or.inl rfl)
        rwa [List.append_nil] at hend
      · rw [printParams_cons hnil]
        exact hread p List.mem_cons_self hp _ (Or.inr rfl)
    · have habsent := (hother p List.mem_cons_self hp).absent hkey
      have hnext : (p :: ps).find? (fun p => p.key = key) = ps.find? fun p => p.key = key := by
        simp [hp]
      rw [hnext]
      by_cases hnil : ps = []
      · subst hnil
        refine scan_absent hf (fun h => habsent ?_) before
        exact h.trans (List.prefix_append _ _).isInfix
      · have hprint : printParams (p :: ps) = (p.text ++ [',']) ++ ' ' :: printParams ps := by
          rw [printParams_cons hnil]
          simp
        rw [hprint, scan_block hf (hkey.notMem (Or.inr (Or.inr rfl))) habsent, ih]

end Search

end AuthParams

end GuardTime
