import GuardTime.DotEnv

namespace GuardTime

namespace Rotation

open DotEnv

/-- The running agent: the token it signs with, and the text of its `.env` file. -/
structure Agent where
  gatewayToken : Text
  envFile : Option Text

/-- How the file operations of a cycle go. A write empties the file before it fills it, and may
then come to an end after some of the characters. -/
inductive FileAccess where
  | ok
  | readFails
  | openFails
  | cut (length : Nat)

structure Cycle where
  rotatedToken : Option Text
  access : FileAccess

inductive Outcome where
  | skipped
  | persisted
  | failed
deriving DecidableEq

/-- The file after `persistRotatedToken`, which throws unless all went well. -/
def persistRotatedToken (file : Option Text) (newToken : Text) : FileAccess → Option Text × Outcome
  | .ok => (some (persistedText file newToken), .persisted)
  | .readFails => (file, .failed)
  | .openFails => (file, .failed)
  | .cut length => (some ((persistedText file newToken).take length), .failed)

def Cycle.delivered (c : Cycle) : Option Text := c.rotatedToken.filter (· ≠ [])

def applyRotatedToken (agent : Agent) (c : Cycle) : Agent × Outcome :=
  match c.delivered with
  | some newToken =>
    if newToken = agent.gatewayToken then (agent, .skipped)
    else
      let written := persistRotatedToken agent.envFile newToken c.access
      (⟨newToken, written.1⟩, written.2)
  | none => (agent, .skipped)

def after (agent : Agent) (cycles : List Cycle) : Agent :=
  cycles.foldl (fun agent c => (applyRotatedToken agent c).1) agent

/-- A fresh `loadDotEnv` of the file yields the token. -/
def Loads (file : Option Text) (token : Text) : Prop :=
  loadDotEnv file (fun _ => none) tokenKey = some token

/-- One of the cycles delivered the token and failed to persist it. -/
def FailedIn (agent : Agent) (cycles : List Cycle) (token : Text) : Prop :=
  ∃ before c, before ++ [c] <+: cycles ∧ c.delivered = some token ∧
    (applyRotatedToken (after agent before) c).2 = .failed

/-- A token that could not be persisted is tried again whenever it is delivered again, until the
file yields it. -/
def Retries (agent : Agent) (cycles : List Cycle) : Prop :=
  ∀ before c token, before ++ [c] <+: cycles → c.delivered = some token →
    FailedIn agent before token → ¬Loads (after agent before).envFile token →
    (applyRotatedToken (after agent before) c).2 ≠ .skipped

/-- After a failed write the file loads what it loaded at some earlier time. -/
def KeepsConfiguration (agent : Agent) (cycles : List Cycle) : Prop :=
  ∀ before c, before ++ [c] <+: cycles → (applyRotatedToken (after agent before) c).2 = .failed →
    ∃ earlier, earlier <+: before ∧
      loadDotEnv (after agent (before ++ [c])).envFile = loadDotEnv (after agent earlier).envFile

/-- A token that could not be persisted, and that the file does not yield, is delivered again with
no other token since. -/
def Redelivered (agent : Agent) (before : List Cycle) (c : Cycle) : Prop :=
  ∃ token, c.delivered = some token ∧ (before.filterMap Cycle.delivered).getLast? = some token ∧
    FailedIn agent before token ∧ ¬Loads (after agent before).envFile token

/-- The write of a token that is not in memory yet comes to an end before its last character. -/
def CutShort (agent : Agent) (before : List Cycle) (c : Cycle) : Prop :=
  ∃ token length, c.delivered = some token ∧ token ≠ (after agent before).gatewayToken ∧
    c.access = .cut length

variable {agent : Agent} {before cycles : List Cycle} {c : Cycle} {token : Text} {file : Option Text}

theorem after_append : after agent (before ++ [c]) = (applyRotatedToken (after agent before) c).1 := by
  simp [after, List.foldl_append]

theorem applied_gatewayToken :
    (applyRotatedToken agent c).1.gatewayToken = c.delivered.getD agent.gatewayToken := by
  unfold applyRotatedToken
  split
  next newToken hdelivered =>
    split
    next hsame => rw [hdelivered, Option.getD_some, hsame]
    next => rw [hdelivered, Option.getD_some]
  next hdelivered => rw [hdelivered, Option.getD_none]

theorem after_gatewayToken (before : List Cycle) : (after agent before).gatewayToken =
    (before.filterMap Cycle.delivered).getLast?.getD agent.gatewayToken := by
  induction before using List.reverseRecOn with
  | nil => rfl
  | append_singleton before c ih =>
    rw [after_append, applied_gatewayToken, ih, List.filterMap_append]
    cases hdelivered : c.delivered with
    | none => simp [hdelivered]
    | some token => simp [hdelivered]

theorem persist_ne_skipped (access : FileAccess) :
    (persistRotatedToken file token access).2 ≠ .skipped := by
  cases access with
  | ok | readFails | openFails | cut length => exact nofun

/-- A persist that throws has left the file as it was, or cut short. -/
theorem persist_failed {access : FileAccess}
    (h : (persistRotatedToken file token access).2 = .failed) :
    (∃ length, access = .cut length) ∨ (persistRotatedToken file token access).1 = file := by
  cases access with
  | ok => exact nomatch h
  | readFails | openFails => exact .inr rfl
  | cut length => exact .inl ⟨length, rfl⟩

theorem persist_persisted {access : FileAccess}
    (h : (persistRotatedToken file token access).2 = .persisted) :
    (persistRotatedToken file token access).1 = some (persistedText file token) := by
  cases access with
  | ok => rfl
  | readFails | openFails | cut length => exact nomatch h

theorem applied_new (hdelivered : c.delivered = some token) (hnew : token ≠ agent.gatewayToken) :
    applyRotatedToken agent c = (⟨token, (persistRotatedToken agent.envFile token c.access).1⟩,
      (persistRotatedToken agent.envFile token c.access).2) := by
  simp [applyRotatedToken, hdelivered, hnew]

theorem applied_skipped_iff (hdelivered : c.delivered = some token) :
    (applyRotatedToken agent c).2 = .skipped ↔ token = agent.gatewayToken := by
  refine ⟨?_, fun hsame => by simp [applyRotatedToken, hdelivered, hsame]⟩
  intro hskipped
  by_contra hnew
  rw [applied_new hdelivered hnew] at hskipped
  exact persist_ne_skipped c.access hskipped

theorem applied_tried (h : (applyRotatedToken agent c).2 ≠ .skipped) :
    ∃ token, c.delivered = some token ∧ token ≠ agent.gatewayToken := by
  cases hdelivered : c.delivered with
  | none => simp [applyRotatedToken, hdelivered] at h
  | some token => exact ⟨token, rfl, fun hsame => h ((applied_skipped_iff hdelivered).mpr hsame)⟩

theorem applied_failed (h : (applyRotatedToken agent c).2 = .failed) :
    ∃ token, c.delivered = some token ∧ token ≠ agent.gatewayToken ∧
      ((∃ length, c.access = .cut length) ∨ (applyRotatedToken agent c).1.envFile = agent.envFile) := by
  obtain ⟨token, hdelivered, hnew⟩ := applied_tried (by rw [h]; exact nofun)
  rw [applied_new hdelivered hnew] at h ⊢
  exact ⟨token, hdelivered, hnew, persist_failed h⟩

theorem last_of_failedIn (h : FailedIn agent before token)
    (htoken : (after agent before).gatewayToken = token) :
    (before.filterMap Cycle.delivered).getLast? = some token := by
  obtain ⟨start, failing, hprefix, hdelivered, _⟩ := h
  have hmem : token ∈ before.filterMap Cycle.delivered :=
    List.mem_filterMap.mpr ⟨failing, hprefix.subset (by simp), hdelivered⟩
  have hsome := List.getLast?_eq_some_getLast (List.ne_nil_of_mem hmem)
  rw [after_gatewayToken, hsome, Option.getD_some] at htoken
  rw [hsome, htoken]

/-- A redelivery is skipped: the token in memory is the delivered one, whatever the file holds. -/
theorem retries_iff : Retries agent cycles ↔
    ∀ before c, before ++ [c] <+: cycles → ¬Redelivered agent before c := by
  refine ⟨?_, ?_⟩
  · intro hretries before c hprefix ⟨token, hdelivered, hlast, hfailed, hloads⟩
    refine hretries before c token hprefix hdelivered hfailed hloads ?_
    rw [applied_skipped_iff hdelivered, after_gatewayToken, hlast, Option.getD_some]
  · intro hnone before c token hprefix hdelivered hfailed hloads hskipped
    have htoken := (applied_skipped_iff hdelivered).mp hskipped
    exact hnone before c hprefix
      ⟨token, hdelivered, last_of_failedIn hfailed htoken.symm, hfailed, hloads⟩

theorem keeps_of_uncut (hwhole : ∀ before c, before ++ [c] <+: cycles → ¬CutShort agent before c) :
    KeepsConfiguration agent cycles := by
  intro before c hprefix hfailed
  refine ⟨before, List.prefix_rfl, ?_⟩
  obtain ⟨token, hdelivered, hnew, ⟨length, hcut⟩ | hsame⟩ := applied_failed hfailed
  · exact absurd ⟨token, length, hdelivered, hnew, hcut⟩ (hwhole before c hprefix)
  · rw [after_append, hsame]

/-- In a run in which no write is cut short, failed rewrites are tried again and leave a whole
configuration exactly if no token that could not be persisted is delivered twice in a row. -/
theorem rotation_lawful_iff (agent : Agent) (cycles : List Cycle)
    (hwhole : ∀ before c, before ++ [c] <+: cycles → ¬CutShort agent before c) :
    (Retries agent cycles ∧ KeepsConfiguration agent cycles) ↔
      ∀ before c, before ++ [c] <+: cycles → ¬Redelivered agent before c := by
  refine ⟨?_, ?_⟩
  · intro hlawful
    exact retries_iff.mp hlawful.1
  · intro hnone
    exact ⟨retries_iff.mpr hnone, keeps_of_uncut hwhole⟩

/-- A rewrite that goes through leaves a file that yields the token, and all else as before. -/
theorem persisted_loads (ht : Plain token) (hdelivered : c.delivered = some token)
    (h : (applyRotatedToken agent c).2 = .persisted) :
    loadDotEnv (applyRotatedToken agent c).1.envFile (fun _ => none) =
      Function.update (loadDotEnv agent.envFile (fun _ => none)) tokenKey (some token) := by
  obtain ⟨tried, htried, hnew⟩ := applied_tried (by rw [h]; exact nofun)
  cases Option.some.inj (hdelivered.symm.trans htried)
  rw [applied_new hdelivered hnew] at h ⊢
  have hunset : Environment.Unset (fun _ => none) tokenKey := .inl rfl
  rw [persist_persisted h]
  exact loadDotEnv_persistedText ht.readable hunset

/-- A write that is cut short leaves no earlier configuration, if all of those had a token and
none a beginning of the new one. -/
theorem cut_breaks {length : Nat} (ht : Plain token) (hdelivered : c.delivered = some token)
    (hnew : token ≠ (after agent before).gatewayToken) (hcut : c.access = .cut length)
    (hfresh : ∀ earlier, earlier <+: before → ∃ old, Loads (after agent earlier).envFile old ∧
      ¬old <+: token) : ¬KeepsConfiguration agent (before ++ [c]) := by
  intro hkeeps
  have happlied := applied_new hdelivered hnew
  rw [hcut] at happlied
  obtain ⟨earlier, hearlier, hload⟩ := hkeeps before c List.prefix_rfl (by rw [happlied]; rfl)
  obtain ⟨old, hold, hother⟩ := hfresh earlier hearlier
  rw [after_append, happlied] at hload
  have hunset : Environment.Unset (fun _ => none) tokenKey := .inl rfl
  have hleft := cut_token ht hunset
    (List.take_prefix length (persistedText (after agent before).envFile token))
  exact hother (hleft old ((congrFun (congrFun hload fun _ => none) tokenKey).trans hold))

/-- An agent whose file has a line of another setting. -/
def sampleAgent : Agent :=
  ⟨"old-tok".toList, some "DRY_RUN=false\nGATEWAY_TOKEN=old-tok\n".toList⟩

def delivery (access : FileAccess) : Cycle := ⟨some "new-tok".toList, access⟩

theorem rotation_lawful_iff_sample :
    (Retries sampleAgent [delivery .openFails, delivery .ok] ∧
      KeepsConfiguration sampleAgent [delivery .openFails, delivery .ok]) ↔
      ∀ before c, before ++ [c] <+: [delivery .openFails, delivery .ok] →
        ¬Redelivered sampleAgent before c :=
  rotation_lawful_iff sampleAgent [delivery .openFails, delivery .ok] (by
    intro before c hprefix ⟨token, length, _, _, hcut⟩
    have hmem : c ∈ [delivery .openFails, delivery .ok] := hprefix.subset (by simp)
    simp only [List.mem_cons, List.not_mem_nil, or_false] at hmem
    rcases hmem with rfl | rfl
    · exact nomatch hcut
    · exact nomatch hcut)

/-- A token that could not be persisted is delivered again and not tried again, though the file
still yields the old one; and a write that is cut short loses the token and the line behind it. -/
theorem rotation_unlawful :
    ¬(∀ agent cycles, Retries agent cycles) ∧ ¬∀ agent cycles, KeepsConfiguration agent cycles := by
  have hold : loadDotEnv sampleAgent.envFile (fun _ => none) tokenKey = some "old-tok".toList := by
    decide
  refine ⟨?_, ?_⟩
  · intro hretries
    refine hretries sampleAgent [delivery .openFails, delivery .ok] [delivery .openFails] (delivery .ok)
      "new-tok".toList List.prefix_rfl rfl ?_ ?_ ?_
    · exact ⟨[], delivery .openFails, List.prefix_rfl, rfl, by decide⟩
    · intro hloads
      exact absurd (hold.symm.trans hloads) (by decide)
    · decide
  · intro hkeeps
    obtain ⟨earlier, hearlier, hload⟩ :=
      hkeeps sampleAgent [delivery (.cut 0)] [] (delivery (.cut 0)) List.prefix_rfl (by decide)
    rw [List.prefix_nil.mp hearlier] at hload
    have hlost := congrFun (congrFun hload fun _ => none) tokenKey
    exact nomatch hlost.trans hold

end Rotation

end GuardTime
