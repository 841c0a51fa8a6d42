import GuardTime.DotEnv

namespace GuardTime

namespace DotEnv

variable {env : Environment} {line token : Text} {lines : List Text} {file : Option Text}

theorem return_notMem_keptLines (hp : PairedReturns (file.getD [])) (h : line ∈ keptLines file) :
    '\r' ∉ line := by
  have hmem := (List.rdropWhile_prefix _ _).subset h
  split at hmem
  next => simp at hmem
  next => exact return_notMem_splitLines hp hmem

theorem return_notMem_tokenLine (h : '\r' ∉ token) : '\r' ∉ tokenLine token := by
  have hkey : '\r' ∉ tokenKey := fun hmem => absurd (tokenKey_chars '\r' hmem).1 (by decide)
  simp [tokenLine, hkey, h]

theorem return_notMem_updatedLines (hp : PairedReturns (file.getD [])) (ht : '\r' ∉ token)
    (h : line ∈ updatedLines (keptLines file) token) : '\r' ∉ line := by
  rcases mem_updatedLines h with rfl | ⟨hline, _⟩
  · exact return_notMem_tokenLine ht
  · exact return_notMem_keptLines hp hline

/-- The text ends in a line that says something, so no line of it is dropped when it is read. -/
theorem updatedLines_last (hlast : ∀ line ∈ lines.getLast?, line ≠ []) :
    ∀ line ∈ (updatedLines lines token).getLast?, line ≠ [] := by
  have htoken : tokenLine token ≠ [] := by simp [tokenLine]
  intro line hline
  unfold updatedLines at hline
  split at hline
  next =>
    rw [List.getLast?_map] at hline
    obtain ⟨source, hsource, rfl⟩ := Option.map_eq_some_iff.mp hline
    split
    next => exact htoken
    next => exact hlast source hsource
  next =>
    rw [List.getLast?_concat] at hline
    exact Option.some.inj hline ▸ htoken

theorem keptLines_last (file : Option Text) : ∀ line ∈ (keptLines file).getLast?, line ≠ [] := by
  intro line hline hnil
  have hne : keptLines file ≠ [] := List.ne_nil_of_mem (List.mem_of_getLast? hline)
  have hlast : (keptLines file).getLast hne = line :=
    Option.some.inj ((List.getLast?_eq_some_getLast hne).symm.trans hline)
  have hkept := List.rdropWhile_last_not (fun line : Text => decide (line = [])) _ hne
  exact hkept (decide_eq_true (hlast.trans hnil))

theorem rdropWhile_empty_last (hlast : ∀ line ∈ lines.getLast?, line ≠ []) :
    (lines ++ [[]]).rdropWhile (· = []) = lines := by
  rw [List.rdropWhile_concat_pos _ _ _ (by simp)]
  rcases List.eq_nil_or_concat lines with rfl | ⟨before, last, rfl⟩
  · rfl
  · have hne : last ≠ [] := hlast last (by rw [List.concat_eq_append, List.getLast?_concat]; rfl)
    rw [List.concat_eq_append, List.rdropWhile_concat_neg _ _ _ (by simpa using hne)]

/-- Lines that were joined are the lines kept when the file is read again. -/
theorem keptLines_joinLines (hne : lines ≠ []) (hnewline : ∀ line ∈ lines, '\n' ∉ line)
    (hreturn : ∀ line ∈ lines, '\r' ∉ line) (hlast : ∀ line ∈ lines.getLast?, line ≠ []) :
    keptLines (some (joinLines lines)) = lines := by
  have hsplit : splitLines (joinLines lines) = lines ++ [[]] := by
    have hdrop : lines.map dropReturn = lines.map id :=
      List.map_congr_left fun line hline => dropReturn_self (hreturn line hline)
    have hjoined := splitLines_joinLines hne hnewline (List.not_mem_nil (a := '\n'))
    rwa [List.append_nil, hdrop, List.map_id] at hjoined
  have htext : joinLines lines ≠ [] := by simp [joinLines]
  rw [keptLines, Option.getD_some, if_neg htext, hsplit, rdropWhile_empty_last hlast]

/-- Lines that hold the token in every place of its key are left as they are. -/
theorem updatedLines_self (ht : Readable token) (hmem : tokenLine token ∈ lines)
    (h : ∀ line ∈ lines, keyOf line = some tokenKey → line = tokenLine token) :
    updatedLines lines token = lines := by
  have hmap : ∀ line ∈ lines,
      (if keyOf line = some tokenKey then tokenLine token else line) = id line := by
    intro line hline
    split
    next hkey => exact (h line hline hkey).symm
    next => rfl
  rw [updatedLines, if_pos ⟨_, hmem, keyOf_tokenLine ht⟩, List.map_congr_left hmap, List.map_id]

theorem persistedText_again (ht : Readable token) (hr : '\r' ∉ token)
    (hp : PairedReturns (file.getD [])) :
    persistedText (some (persistedText file token)) token = persistedText file token := by
  have hkept : keptLines (some (persistedText file token)) = updatedLines (keptLines file) token :=
    keptLines_joinLines (List.ne_nil_of_mem tokenLine_mem_updatedLines)
      (fun _ hline => newline_notMem_updatedLines ht hline)
      (fun _ hline => return_notMem_updatedLines hp hr hline)
      (updatedLines_last (keptLines_last file))
  have hsame : updatedLines (updatedLines (keptLines file) token) token =
      updatedLines (keptLines file) token := by
    refine updatedLines_self ht tokenLine_mem_updatedLines ?_
    intro line hline hkey
    rcases mem_updatedLines hline with heq | ⟨_, hother⟩
    · exact heq
    · exact absurd hkey hother
  rw [persistedText, hkept, hsame, persistedText]

/-- A text that `trim()` leaves alone has no white space at its ends. -/
theorem ends_of_trim (h : trim token = token) :
    (∀ c ∈ token.head?, isSpace c = false) ∧ ∀ c ∈ token.getLast?, isSpace c = false := by
  have hlength : token.length ≤ (token.rdropWhile isSpace).length := by
    have hle := (List.dropWhile_suffix isSpace (l := token.rdropWhile isSpace)).length_le
    rwa [show (token.rdropWhile isSpace).dropWhile isSpace = token from h] at hle
  have hlast : token.rdropWhile isSpace = token :=
    (List.rdropWhile_prefix isSpace token).eq_of_length_le hlength
  have hhead : token.dropWhile isSpace = token := by
    have htrim : (token.rdropWhile isSpace).dropWhile isSpace = token := h
    rwa [hlast] at htrim
  refine ⟨?_, ?_⟩
  · intro c hc
    cases token with
    | nil => cases hc
    | cons d rest =>
      obtain rfl := Option.some.inj hc
      have hnot := List.dropWhile_eq_self_iff.mp hhead (Nat.zero_lt_succ _)
      simpa using hnot
  · intro c hc
    have hne : token ≠ [] := List.ne_nil_of_mem (List.mem_of_getLast? hc)
    have hnot := List.rdropWhile_eq_self_iff.mp hlast hne
    have heq : token.getLast hne = c :=
      Option.some.inj ((List.getLast?_eq_some_getLast hne).symm.trans hc)
    simpa [heq] using hnot

end DotEnv

end GuardTime
