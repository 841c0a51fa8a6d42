import GuardTime.TextLines

namespace GuardTime

section CommandLines

variable (ends blank : Char → Bool)

/-- The words of a line, between the characters that are `blank`. -/
def lineWords (line : Text) : List Text := (line.splitOnP blank).filter (· ≠ [])

/-- A script read as the words of its commands; a command `ends` at some characters, and a command
without words is none. -/
def readCommands (script : Text) : List (List Text) :=
  ((script.splitOnP ends).map (lineWords blank)).filter (· ≠ [])

/-- What a script can hold as one word. -/
structure IsWord (word : Text) : Prop where
  ne : word ≠ []
  plain : ∀ c ∈ word, ends c = false ∧ blank c = false

def isWord (word : Text) : Bool := !word.isEmpty && word.all fun c => !ends c && !blank c

def writeCommands (commands : List (List Text)) : Text :=
  List.intercalate [';', ' '] (commands.map (List.intercalate [' ']))

variable {ends blank} {text word rest : Text}

theorem isWord_iff : isWord ends blank word = true ↔ IsWord ends blank word := by
  simp only [isWord, Bool.and_eq_true, Bool.not_eq_true', List.isEmpty_eq_false_iff, List.all_eq_true]
  exact ⟨fun h => ⟨h.1, h.2⟩, fun h => ⟨h.ne, h.plain⟩⟩

theorem words_of_all {words : List Text} (h : words.all (isWord ends blank) = true) :
    ∀ word ∈ words, IsWord ends blank word :=
  fun word hword => isWord_iff.mp (List.all_eq_true.mp h word hword)

theorem isWord_of_mem_readCommands {command : List Text}
    (hcommand : command ∈ readCommands ends blank text) (hword : word ∈ command) : IsWord ends blank word := by
  obtain ⟨hmap, -⟩ := List.mem_filter.mp hcommand
  obtain ⟨line, hline, rfl⟩ := List.mem_map.mp hmap
  obtain ⟨hpiece, hne⟩ := List.mem_filter.mp hword
  refine ⟨by simpa using hne, fun c hc => ?_⟩
  obtain ⟨hmem, hblank⟩ := mem_splitOnP_piece hpiece hc
  exact ⟨(mem_splitOnP_piece hline hmem).2, hblank⟩

theorem lineWords_word (h : IsWord ends blank word) : lineWords blank word = [word] := by
  rw [lineWords, List.splitOnP_eq_singleton fun c hc => (h.plain c hc).2]
  simp [h.ne]

theorem lineWords_word_append (hspace : blank ' ') (h : IsWord ends blank word) :
    lineWords blank (word ++ ' ' :: rest) = word :: lineWords blank rest := by
  rw [lineWords, List.splitOnP_append_cons_of_forall_mem (fun c hc => (h.plain c hc).2) ' ' hspace]
  simp [h.ne, lineWords]

theorem lineWords_blank (hspace : blank ' ') : lineWords blank (' ' :: rest) = lineWords blank rest := by
  rw [lineWords, List.splitOnP_cons_eq_if_modifyHead, if_pos hspace]
  simp [lineWords]

theorem lineWords_intercalate (hspace : blank ' ') {command : List Text}
    (h : ∀ word ∈ command, IsWord ends blank word) :
    lineWords blank (List.intercalate [' '] command) = command := by
  induction command with
  | nil => rfl
  | cons word command ih =>
    have hword := h word List.mem_cons_self
    have ih := ih fun word hmem => h word (List.mem_cons_of_mem _ hmem)
    cases command with
    | nil => rw [List.intercalate_singleton, lineWords_word hword]
    | cons next command =>
      rw [List.intercalate_cons_cons, List.append_assoc, List.singleton_append,
        lineWords_word_append hspace hword, ih]

/-- A line that is cut short shows its first words and a beginning of the next one. -/
theorem lineWords_prefix (hspace : blank ' ') {words : List Text} (hne : words ≠ [])
    (h : ∀ word ∈ words, IsWord ends blank word) {cut : Text}
    (hcut : cut <+: List.intercalate [' '] words) :
    ∃ shown last, lineWords blank cut = words.take shown ++ last ∧
      (last = [] ∨ ∃ word part, words[shown]? = some word ∧ last = [part] ∧ part <+: word) := by
  induction words generalizing cut with
  | nil => exact absurd rfl hne
  | cons word words ih =>
    have hword := h word List.mem_cons_self
    have hwithin : cut <+: word → ∃ shown last, lineWords blank cut = (word :: words).take shown ++ last ∧
        (last = [] ∨ ∃ w part, (word :: words)[shown]? = some w ∧ last = [part] ∧ part <+: w) := by
      intro hpart
      by_cases hnil : cut = []
      · exact ⟨0, [], by rw [hnil]; rfl, Or.inl rfl⟩
      · have hplain : IsWord ends blank cut := ⟨hnil, fun c hc => hword.plain c (hpart.subset hc)⟩
        exact ⟨0, [cut], lineWords_word hplain, Or.inr ⟨word, cut, rfl, rfl, hpart⟩⟩
    cases words with
    | nil =>
      rw [List.intercalate_singleton] at hcut
      exact hwithin hcut
    | cons next words =>
      rw [List.intercalate_cons_cons, List.append_assoc, List.singleton_append] at hcut
      rcases prefix_append_cons hcut with hpart | ⟨more, rfl, hmore⟩
      · exact hwithin hpart
      · obtain ⟨shown, last, hwords, hlast⟩ :=
          ih (by simp) (fun w hmem => h w (List.mem_cons_of_mem _ hmem)) hmore
        refine ⟨shown + 1, last, ?_, by simpa using hlast⟩
        rw [lineWords_word_append hspace hword, hwords, List.take_succ_cons, List.cons_append]

theorem lineWords_concat {c : Char} (hc : blank c) : lineWords blank (text ++ [c]) = lineWords blank text := by
  have hsplit : (text ++ [c]).splitOnP blank = text.splitOnP blank ++ [[]] := by
    induction text with
    | nil => simp [List.splitOnP_cons_eq_if_modifyHead, hc]
    | cons d text ih =>
      obtain ⟨first, others, hfirst⟩ := List.exists_cons_of_ne_nil (List.splitOnP_ne_nil blank text)
      rw [List.cons_append, List.splitOnP_cons_eq_if_modifyHead, ih, List.splitOnP_cons_eq_if_modifyHead,
        hfirst]
      split
      next => rfl
      next => rfl
  simp [lineWords, hsplit]

theorem lineWords_trimmed : lineWords blank (trimmed blank text) = lineWords blank text := by
  have hleft : ∀ line : Text, lineWords blank (line.dropWhile blank) = lineWords blank line := by
    intro line
    induction line with
    | nil => rfl
    | cons c line ih =>
      by_cases hc : blank c
      · rw [List.dropWhile_cons_of_pos hc, ih, lineWords, lineWords,
          List.splitOnP_cons_eq_if_modifyHead, if_pos hc]
        simp
      · rw [List.dropWhile_cons_of_neg hc]
  have hright : lineWords blank (text.rdropWhile blank) = lineWords blank text := by
    induction text using List.reverseRecOn with
    | nil => rfl
    | append_singleton line c ih =>
      by_cases hc : blank c
      · rw [List.rdropWhile_concat_pos _ _ _ hc, ih, lineWords_concat hc]
      · rw [List.rdropWhile_concat_neg _ _ _ hc]
  rw [trimmed, hleft, hright]

theorem intercalate_concat (words : List Text) (last : Text) :
    List.intercalate [' '] (words ++ [last]) = words.flatMap (· ++ [' ']) ++ last := by
  induction words with
  | nil => rw [List.nil_append, List.intercalate_singleton, List.flatMap_nil, List.nil_append]
  | cons word words ih =>
    rw [List.cons_append, List.intercalate_cons_of_ne_nil (by simp), ih, List.flatMap_cons]
    simp only [List.append_assoc]

theorem ends_intercalate (hspace : ends ' ' = false) {command : List Text}
    (h : ∀ word ∈ command, IsWord ends blank word) :
    ∀ c ∈ List.intercalate [' '] command, ends c = false := by
  intro c hc
  rcases mem_intercalate hc with hc | ⟨word, hword, hc⟩
  · rw [List.mem_singleton.mp hc, hspace]
  · exact ((h word hword).plain c hc).1

theorem readCommands_blank (hends : ends ' ' = false) (hspace : blank ' ') :
    readCommands ends blank (' ' :: rest) = readCommands ends blank rest := by
  obtain ⟨first, others, hsplit⟩ := List.exists_cons_of_ne_nil (List.splitOnP_ne_nil ends rest)
  rw [readCommands, readCommands, List.splitOnP_cons_eq_if_modifyHead, hends, hsplit]
  simp [lineWords_blank hspace]

/-- A script is read as the commands that it was written from exactly when all their words are words. -/
theorem readCommands_write (hends : ends ' ' = false) (hsemicolon : ends ';') (hspace : blank ' ')
    {commands : List (List Text)} (hne : ∀ command ∈ commands, command ≠ []) :
    readCommands ends blank (writeCommands commands) = commands ↔
      ∀ command ∈ commands, ∀ word ∈ command, IsWord ends blank word := by
  refine ⟨?_, ?_⟩
  · intro h command hcommand word hword
    rw [← h] at hcommand
    exact isWord_of_mem_readCommands hcommand hword
  · intro h
    induction commands with
    | nil => rfl
    | cons command commands ih =>
      have hwords := h command List.mem_cons_self
      have hline := ends_intercalate hends hwords
      have hread := lineWords_intercalate hspace hwords
      have hcommand := hne command List.mem_cons_self
      have ih := ih (fun command hmem => hne command (List.mem_cons_of_mem _ hmem))
        fun command hmem => h command (List.mem_cons_of_mem _ hmem)
      cases commands with
      | nil =>
        rw [writeCommands, List.map_singleton, List.intercalate_singleton, readCommands,
          List.splitOnP_eq_singleton hline, List.map_singleton, hread]
        simp [hcommand]
      | cons next commands =>
        have htext : writeCommands (command :: next :: commands) =
            List.intercalate [' '] command ++ ';' :: ' ' :: writeCommands (next :: commands) := by
          simp [writeCommands, List.intercalate_cons_cons]
        rw [htext, readCommands, List.splitOnP_append_cons_of_forall_mem hline ';' hsemicolon,
          List.map_cons, hread, List.filter_cons_of_pos (by simpa using hcommand)]
        exact congrArg (command :: ·) ((readCommands_blank hends hspace).trans ih)

end CommandLines

end GuardTime
