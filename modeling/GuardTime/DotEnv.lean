import GuardTime.TextLines
import Mathlib.Logic.Function.Basic

namespace GuardTime

namespace DotEnv

/-- The white space that `trim()` removes. -/
def isSpace (c : Char) : Bool :=
  [0x09, 0x0a, 0x0b, 0x0c, 0x0d, 0x20, 0xa0, 0x1680, 0x2028, 0x2029, 0x202f, 0x205f, 0x3000,
    0xfeff].contains c.toNat || (0x2000 ≤ c.toNat && c.toNat ≤ 0x200a)

def trim (text : Text) : Text := trimmed isSpace text

/-- `value.replace(/^"|"$/g, '')`. -/
def unquoted (value : Text) : Text :=
  let rest := if value.head? = some '"' then value.tail else value
  if rest.getLast? = some '"' then rest.dropLast else rest

/-- The key and the value of a line, unless it is blank, a comment or without `=`. -/
def assignment (line : Text) : Option (Text × Text) :=
  let text := trim line
  if text = [] ∨ text.head? = some '#' ∨ '=' ∉ text then none
  else some (trim (text.takeWhile (· ≠ '=')),
    unquoted (trim ((text.dropWhile (· ≠ '=')).drop 1)))

def keyOf (line : Text) : Option Text := (assignment line).map Prod.fst

/-- `process.env`. -/
abbrev Environment := Text → Option Text

/-- `!process.env[key]`. -/
def Environment.Unset (env : Environment) (key : Text) : Prop := env key = none ∨ env key = some []

instance (env : Environment) (key : Text) : Decidable (env.Unset key) :=
  inferInstanceAs (Decidable (_ ∨ _))

def loadLine (env : Environment) (line : Text) : Environment :=
  match assignment line with
  | some (key, value) => if env.Unset key then Function.update env key (some value) else env
  | none => env

/-- `loadDotEnv()`, on the text of the file if it exists and the environment of the process. -/
def loadDotEnv (file : Option Text) (env : Environment) : Environment :=
  match file with
  | some text => (splitLines text).foldl loadLine env
  | none => env

def tokenKey : Text := "GATEWAY_TOKEN".toList

def tokenLine (newToken : Text) : Text := tokenKey ++ '=' :: newToken

/-- The lines that `persistRotatedToken` keeps of the file. -/
def keptLines (file : Option Text) : List Text :=
  let content := file.getD []
  (if content = [] then [] else splitLines content).rdropWhile (· = [])

def updatedLines (lines : List Text) (newToken : Text) : List Text :=
  let updated := lines.map fun line => if keyOf line = some tokenKey then tokenLine newToken else line
  if ∃ line ∈ lines, keyOf line = some tokenKey then updated else updated ++ [tokenLine newToken]

/-- What `persistRotatedToken` writes, given what it has read. -/
def persistedText (file : Option Text) (newToken : Text) : Text :=
  joinLines (updatedLines (keptLines file) newToken)

/-- A token without white space and quotes: what `loadDotEnv` reads of its line is the token. -/
structure Plain (token : Text) : Prop where
  nonempty : token ≠ []
  space : ∀ c ∈ token, isSpace c = false
  quote : '"' ∉ token

/-- A token on one line, without white space or a quote at its ends. -/
structure Readable (token : Text) : Prop where
  nonempty : token ≠ []
  newline : '\n' ∉ token
  head : ∀ c ∈ token.head?, isSpace c = false ∧ c ≠ '"'
  last : ∀ c ∈ token.getLast?, isSpace c = false ∧ c ≠ '"'

variable {env env' : Environment} {line part text key value token : Text} {lines : List Text}
  {file : Option Text}

theorem keyOf_eq_some : keyOf line = some key ↔ ∃ value, assignment line = some (key, value) := by
  simp [keyOf]

theorem assignment_dropReturn : assignment (dropReturn line) = assignment line := by
  have htrim : trim (dropReturn line) = trim line := trimmed_dropReturn (by decide)
  rw [assignment, htrim, assignment]

theorem loadLine_dropReturn : loadLine env (dropReturn line) = loadLine env line := by
  rw [loadLine, assignment_dropReturn, loadLine]

theorem loadLine_nil : loadLine env [] = env := rfl

theorem loadLine_set (h : ¬env.Unset key) : loadLine env line key = env key := by
  cases hassign : assignment line with
  | none => simp [loadLine, hassign]
  | some pair =>
    obtain ⟨other, value⟩ := pair
    simp only [loadLine, hassign]
    split
    next hunset =>
      have hne : key ≠ other := fun heq => h (heq ▸ hunset)
      exact Function.update_of_ne hne _ _
    next => rfl

theorem loadLine_other (h : keyOf line ≠ some key) : loadLine env line key = env key := by
  cases hassign : assignment line with
  | none => simp [loadLine, hassign]
  | some pair =>
    obtain ⟨other, value⟩ := pair
    have hne : key ≠ other := fun heq => h (keyOf_eq_some.mpr ⟨value, heq ▸ hassign⟩)
    simp only [loadLine, hassign]
    split
    next => exact Function.update_of_ne hne _ _
    next => rfl

theorem loadLine_unset (h : env.Unset key) (hassign : assignment line = some (key, value)) :
    loadLine env line key = some value := by
  simp [loadLine, hassign, h]

theorem loadLine_congr (h : env key = env' key) : loadLine env line key = loadLine env' line key := by
  by_cases hkey : keyOf line = some key
  · obtain ⟨value, hassign⟩ := keyOf_eq_some.mp hkey
    by_cases hunset : env.Unset key
    · have hunset' : env'.Unset key := by simpa [Environment.Unset, h] using hunset
      rw [loadLine_unset hunset hassign, loadLine_unset hunset' hassign]
    · have hset' : ¬env'.Unset key := by simpa [Environment.Unset, h] using hunset
      rw [loadLine_set hunset, loadLine_set hset', h]
  · rw [loadLine_other hkey, loadLine_other hkey, h]

theorem foldl_set (h : ¬env.Unset key) : lines.foldl loadLine env key = env key := by
  induction lines generalizing env with
  | nil => rfl
  | cons line lines ih =>
    have hline : loadLine env line key = env key := loadLine_set h
    have hnext : ¬(loadLine env line).Unset key := by simpa [Environment.Unset, hline] using h
    rw [List.foldl_cons, ih hnext, hline]

/-- All lines with the key agree on the value: the variable gets it. -/
theorem foldl_value (hunset : env.Unset key) (hvalue : value ≠ [])
    (hagree : ∀ line ∈ lines, keyOf line = some key → assignment line = some (key, value))
    (hsome : ∃ line ∈ lines, keyOf line = some key) : lines.foldl loadLine env key = some value := by
  induction lines generalizing env with
  | nil => simp at hsome
  | cons line lines ih =>
    by_cases hkey : keyOf line = some key
    · have hline := loadLine_unset hunset (hagree line List.mem_cons_self hkey)
      have hset : ¬(loadLine env line).Unset key := by simpa [Environment.Unset, hline] using hvalue
      rw [List.foldl_cons, foldl_set hset, hline]
    · have hline : loadLine env line key = env key := loadLine_other hkey
      have hnext : (loadLine env line).Unset key := by simpa [Environment.Unset, hline] using hunset
      obtain ⟨other, hother, hotherkey⟩ := hsome
      refine ih hnext (fun l hl => hagree l (List.mem_cons_of_mem line hl)) ⟨other, ?_, hotherkey⟩
      rcases List.mem_cons.mp hother with rfl | hmem
      · exact absurd hotherkey hkey
      · exact hmem

theorem foldl_rdropWhile : (lines.rdropWhile (· = [])).foldl loadLine env = lines.foldl loadLine env := by
  induction lines using List.reverseRecOn with
  | nil => rfl
  | append_singleton lines last ih =>
    by_cases hlast : last = []
    · subst hlast
      rw [List.rdropWhile_concat_pos _ _ _ (by simp), ih, List.foldl_append, List.foldl_cons,
        loadLine_nil, List.foldl_nil]
    · rw [List.rdropWhile_concat_neg _ _ _ (by simpa using hlast)]

theorem foldl_keptLines : (keptLines file).foldl loadLine env = loadDotEnv file env := by
  rw [keptLines, foldl_rdropWhile]
  cases file with
  | none => rfl
  | some text =>
    cases text with
    | nil => rfl
    | cons c text => rfl

theorem newline_notMem_keptLines (h : line ∈ keptLines file) : '\n' ∉ line := by
  have hmem := (List.rdropWhile_prefix _ _).subset h
  split at hmem
  next => simp at hmem
  next => exact newline_notMem_splitLines hmem

theorem tokenKey_eq :
    tokenKey = ['G', 'A', 'T', 'E', 'W', 'A', 'Y', '_', 'T', 'O', 'K', 'E', 'N'] := rfl

theorem tokenKey_chars : ∀ c ∈ tokenKey, isSpace c = false ∧ c ≠ '=' ∧ c ≠ '\n' := by
  rw [tokenKey_eq]
  simp [isSpace]

theorem trim_self (h : ∀ c ∈ line.head?, isSpace c = false)
    (h' : ∀ c ∈ line.getLast?, isSpace c = false) : trim line = line :=
  trimmed_self (by simpa using h) (by simpa using h')

theorem trim_noSpace (h : ∀ c ∈ line, isSpace c = false) : trim line = line :=
  trim_self (fun c hc => h c (List.mem_of_head? hc)) fun c hc => h c (List.mem_of_getLast? hc)

theorem unquoted_self (hhead : value.head? ≠ some '"') (hlast : value.getLast? ≠ some '"') :
    unquoted value = value := by
  simp [unquoted, hhead, hlast]

theorem Plain.readable (ht : Plain token) : Readable token where
  nonempty := ht.nonempty
  newline := fun hmem => absurd (ht.space '\n' hmem) (by decide)
  head := fun c hc =>
    ⟨ht.space c (List.mem_of_head? hc), fun hquote => ht.quote (hquote ▸ List.mem_of_head? hc)⟩
  last := fun c hc =>
    ⟨ht.space c (List.mem_of_getLast? hc), fun hquote => ht.quote (hquote ▸ List.mem_of_getLast? hc)⟩

/-- A token line, whole or cut short behind the `=`, is read as what stands behind the `=`. -/
theorem assignment_tokenLine (hhead : ∀ c ∈ token.head?, isSpace c = false ∧ c ≠ '"')
    (hlast : ∀ c ∈ token.getLast?, isSpace c = false ∧ c ≠ '"') :
    assignment (tokenLine token) = some (tokenKey, token) := by
  have hline : trim (tokenLine token) = tokenLine token := by
    refine trim_self ?_ ?_
    · intro c hc
      have hmem : c ∈ tokenKey := by
        rw [tokenLine, List.head?_append_of_ne_nil _ (by decide)] at hc
        exact List.mem_of_head? hc
      exact (tokenKey_chars c hmem).1
    · intro c hc
      rw [tokenLine, List.getLast?_append_of_ne_nil _ (List.cons_ne_nil _ _)] at hc
      cases token with
      | nil =>
        obtain rfl := Option.some.inj hc
        decide
      | cons d token => exact (hlast c (by rwa [List.getLast?_cons_cons] at hc)).1
  have hkey : (tokenLine token).takeWhile (· ≠ '=') = tokenKey := by
    rw [tokenLine, List.takeWhile_append_of_pos fun c hc => by simpa using (tokenKey_chars c hc).2.1]
    simp
  have hvalue : (tokenLine token).dropWhile (· ≠ '=') = '=' :: token := by
    rw [tokenLine, List.dropWhile_append_of_pos fun c hc => by simpa using (tokenKey_chars c hc).2.1]
    simp
  have hguard : ¬(tokenLine token = [] ∨ (tokenLine token).head? = some '#' ∨
      '=' ∉ tokenLine token) := by
    have hhash : tokenKey.head? = some 'G' := by decide
    simp [tokenLine, hhash]
  have hkeytrim : trim tokenKey = tokenKey := trim_noSpace fun c hc => (tokenKey_chars c hc).1
  have hvaluetrim : trim token = token := trim_self (fun c hc => (hhead c hc).1) fun c hc => (hlast c hc).1
  have hunquoted : unquoted token = token :=
    unquoted_self (fun hc => (hhead '"' hc).2 rfl) fun hc => (hlast '"' hc).2 rfl
  simp only [assignment, hline, if_neg hguard, hkey, hvalue, List.drop_one, List.tail_cons,
    hkeytrim, hvaluetrim, hunquoted]

theorem keyOf_tokenLine (ht : Readable token) : keyOf (tokenLine token) = some tokenKey :=
  keyOf_eq_some.mpr ⟨token, assignment_tokenLine ht.head ht.last⟩

theorem mem_updatedLines (h : line ∈ updatedLines lines token) :
    line = tokenLine token ∨ line ∈ lines ∧ keyOf line ≠ some tokenKey := by
  have hmap : line ∈ (lines.map fun line =>
      if keyOf line = some tokenKey then tokenLine token else line) →
      line = tokenLine token ∨ line ∈ lines ∧ keyOf line ≠ some tokenKey := by
    intro hline
    obtain ⟨source, hsource, rfl⟩ := List.mem_map.mp hline
    split
    next => exact .inl rfl
    next hkey => exact .inr ⟨hsource, hkey⟩
  unfold updatedLines at h
  split at h
  next => exact hmap h
  next =>
    rcases List.mem_append.mp h with h | h
    · exact hmap h
    · exact .inl (List.mem_singleton.mp h)

theorem tokenLine_mem_updatedLines : tokenLine token ∈ updatedLines lines token := by
  unfold updatedLines
  split
  next h =>
    obtain ⟨line, hline, hkey⟩ := h
    exact List.mem_map.mpr ⟨line, hline, if_pos hkey⟩
  next => simp

theorem newline_notMem_updatedLines (ht : Readable token)
    (h : line ∈ updatedLines (keptLines file) token) : '\n' ∉ line := by
  rcases mem_updatedLines h with rfl | ⟨hline, _⟩
  · have hkey : '\n' ∉ tokenKey := fun hmem => (tokenKey_chars '\n' hmem).2.2 rfl
    simp [tokenLine, ht.newline, hkey]
  · exact newline_notMem_keptLines hline

theorem foldl_map_other {change : Text → Text} (henv : env key = env' key)
    (h : ∀ line ∈ lines, change line = line ∨
      keyOf (change line) ≠ some key ∧ keyOf line ≠ some key) :
    (lines.map change).foldl loadLine env key = lines.foldl loadLine env' key := by
  induction lines generalizing env env' with
  | nil => exact henv
  | cons line lines ih =>
    have hline : loadLine env (change line) key = loadLine env' line key := by
      rcases h line List.mem_cons_self with hsame | ⟨hchange, hother⟩
      · rw [hsame, loadLine_congr henv]
      · rw [loadLine_other hchange, loadLine_other hother, henv]
    exact ih hline fun l hl => h l (List.mem_cons_of_mem line hl)

theorem foldl_updatedLines (hkey : key ≠ tokenKey) (ht : Readable token) :
    (updatedLines lines token).foldl loadLine env key = lines.foldl loadLine env key := by
  have htoken : keyOf (tokenLine token) ≠ some key := by
    rw [keyOf_tokenLine ht]
    simpa using Ne.symm hkey
  have hmap : (lines.map fun line =>
      if keyOf line = some tokenKey then tokenLine token else line).foldl loadLine env key =
      lines.foldl loadLine env key := by
    refine foldl_map_other rfl ?_
    intro line _
    by_cases hline : keyOf line = some tokenKey
    · refine .inr ⟨by rwa [if_pos hline], ?_⟩
      rw [hline]
      simpa using Ne.symm hkey
    · exact .inl (if_neg hline)
  unfold updatedLines
  split
  next => exact hmap
  next => rw [List.foldl_append, List.foldl_cons, List.foldl_nil, loadLine_other htoken, hmap]

theorem loadDotEnv_joinLines (hne : lines ≠ []) (hlines : ∀ line ∈ lines, '\n' ∉ line) :
    loadDotEnv (some (joinLines lines)) env = lines.foldl loadLine env := by
  have hsplit : splitLines (joinLines lines) = lines.map dropReturn ++ [[]] := by
    simpa using splitLines_joinLines hne hlines (List.not_mem_nil (a := '\n'))
  simp only [loadDotEnv, hsplit, List.foldl_append, List.foldl_cons, List.foldl_nil, loadLine_nil,
    List.foldl_map, loadLine_dropReturn]

/-- After the rewrite the file loads what it loaded before, but for the token, which is new. -/
theorem loadDotEnv_persistedText (ht : Readable token) (hunset : env.Unset tokenKey) :
    loadDotEnv (some (persistedText file token)) env =
      Function.update (loadDotEnv file env) tokenKey (some token) := by
  have hload : loadDotEnv (some (persistedText file token)) env =
      (updatedLines (keptLines file) token).foldl loadLine env :=
    loadDotEnv_joinLines (List.ne_nil_of_mem tokenLine_mem_updatedLines) fun _ hline =>
      newline_notMem_updatedLines ht hline
  rw [hload]
  funext key
  by_cases hkey : key = tokenKey
  · subst hkey
    rw [Function.update_self]
    refine foldl_value hunset ht.nonempty ?_ ⟨_, tokenLine_mem_updatedLines, keyOf_tokenLine ht⟩
    intro line hline hlinekey
    rcases mem_updatedLines hline with rfl | ⟨_, hother⟩
    · exact assignment_tokenLine ht.head ht.last
    · exact absurd hlinekey hother
  · rw [Function.update_of_ne hkey, foldl_updatedLines hkey ht, foldl_keptLines]

theorem keyOf_eq_trim (h : keyOf line = some key) :
    trim line ≠ [] ∧ (trim line).head? ≠ some '#' ∧ '=' ∈ trim line ∧
      key = trim ((trim line).takeWhile (· ≠ '=')) := by
  obtain ⟨value, hassign⟩ := keyOf_eq_some.mp h
  simp only [assignment] at hassign
  split at hassign
  next => simp at hassign
  next hguard =>
    simp only [not_or, not_not] at hguard
    exact ⟨hguard.1, hguard.2.1, hguard.2.2, by simp_all⟩

/-- A line that is cut short behind its `=` keeps its key. -/
theorem keyOf_of_cut (h : part <+: line) (hkey : keyOf part = some key) : keyOf line = some key := by
  obtain ⟨hne, hhash, hequals, rfl⟩ := keyOf_eq_trim hkey
  obtain ⟨more, hmore⟩ : trim part <+: trim line := trimmed_mono h
  have hhead : (trim line).head? = (trim part).head? := by
    rw [← hmore, List.head?_append_of_ne_nil _ hne]
  have htake : (trim line).takeWhile (· ≠ '=') = (trim part).takeWhile (· ≠ '=') := by
    rw [← hmore, List.takeWhile_append, if_neg]
    intro hlength
    have hall : (trim part).takeWhile (· ≠ '=') = trim part :=
      (List.takeWhile_prefix _).eq_of_length hlength
    have hsat := List.takeWhile_eq_self_iff.mp hall '=' hequals
    simp at hsat
  have hguard : ¬(trim line = [] ∨ (trim line).head? = some '#' ∨ '=' ∉ trim line) := by
    rw [hhead]
    simp only [not_or, not_not]
    refine ⟨?_, hhash, hmore ▸ List.mem_append_left more hequals⟩
    intro hnil
    rw [← hmore] at hnil
    exact hne (List.append_eq_nil_iff.mp hnil).1
  simp only [keyOf, assignment, if_neg hguard, Option.map_some, htake]

theorem equals_mem_of_keyOf (h : keyOf line = some key) : '=' ∈ line :=
  mem_of_mem_trimmed (keyOf_eq_trim h).2.2.1

theorem tokenLine_of_cut (h : part <+: tokenLine token) (hkey : keyOf part = some key) :
    ∃ start, start <+: token ∧ part = tokenLine start := by
  have hequals := equals_mem_of_keyOf hkey
  have hkeychars : '=' ∉ tokenKey := fun hmem => (tokenKey_chars '=' hmem).2.1 rfl
  rcases List.prefix_or_prefix_of_prefix h (List.prefix_append tokenKey _) with hshort | ⟨more, rfl⟩
  · exact absurd (hshort.subset hequals) hkeychars
  · have hmore : more <+: '=' :: token := (List.prefix_append_right_inj tokenKey).mp h
    cases more with
    | nil => exact absurd (by simpa using hequals) hkeychars
    | cons c start =>
      obtain ⟨rfl, hstart⟩ := List.cons_prefix_cons.mp hmore
      exact ⟨start, hstart, rfl⟩

theorem foldl_values {P : Text → Prop} (henv : ∀ value, env key = some value → P value)
    (h : ∀ line ∈ lines, ∀ value, assignment line = some (key, value) → P value) :
    ∀ value, lines.foldl loadLine env key = some value → P value := by
  induction lines generalizing env with
  | nil => exact henv
  | cons line lines ih =>
    refine ih ?_ fun l hl => h l (List.mem_cons_of_mem line hl)
    intro value hvalue
    by_cases hkey : keyOf line = some key
    · obtain ⟨other, hassign⟩ := keyOf_eq_some.mp hkey
      by_cases hunset : env.Unset key
      · rw [loadLine_unset hunset hassign] at hvalue
        exact h line List.mem_cons_self value (Option.some.inj hvalue ▸ hassign)
      · exact henv value (by rwa [loadLine_set hunset] at hvalue)
    · exact henv value (by rwa [loadLine_other hkey] at hvalue)

/-- Of a rewrite that is cut short no more than a beginning of the token is loaded. -/
theorem cut_token (ht : Plain token) (hunset : env.Unset tokenKey)
    (hcut : text <+: persistedText file token) :
    ∀ value, loadDotEnv (some text) env tokenKey = some value → value <+: token := by
  refine foldl_values ?_ ?_
  · intro value hvalue
    rcases hunset with hnone | hempty
    · exact nomatch hnone.symm.trans hvalue
    · exact Option.some.inj (hempty.symm.trans hvalue) ▸ List.nil_prefix
  · intro part hpart value hassign
    have hkey : keyOf part = some tokenKey := keyOf_eq_some.mpr ⟨value, hassign⟩
    obtain ⟨line, hline, hprefix⟩ := prefix_of_mem_splitLines
      (List.ne_nil_of_mem tokenLine_mem_updatedLines)
      (fun _ hline => newline_notMem_updatedLines ht.readable hline) hcut hpart
    rcases mem_updatedLines hline with rfl | ⟨_, hother⟩
    · obtain ⟨start, hstart, rfl⟩ := tokenLine_of_cut hprefix hkey
      have hchars : ∀ c ∈ start, isSpace c = false ∧ c ≠ '"' := fun c hc =>
        ⟨ht.space c (hstart.subset hc), fun hquote => ht.quote (hquote ▸ hstart.subset hc)⟩
      have hread := assignment_tokenLine (fun c hc => hchars c (List.mem_of_head? hc))
        fun c hc => hchars c (List.mem_of_getLast? hc)
      rw [hread] at hassign
      simp only [Option.some.injEq, Prod.mk.injEq, true_and] at hassign
      exact hassign ▸ hstart
    · exact absurd (keyOf_of_cut hprefix hkey) hother

end DotEnv

end GuardTime
