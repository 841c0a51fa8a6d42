import GuardTime.IsoTime
import GuardTime.JsonParts
import GuardTime.Watchdog

namespace GuardTime

namespace Watchdog

open Json

def heartbeatJson (h : Heartbeat) : Json :=
  .object [("lastSyncAt".toList, .string (IsoTime.toISOString h.lastSyncAt)),
    ("lastSyncOk".toList, .bool h.lastSyncOk),
    ("lastError".toList, match h.lastError with
      | none => .null
      | some error => .string error.toList),
    ("pollIntervalMs".toList, nat h.pollIntervalMs), ("pid".toList, nat h.pid)]

/-- What `writeHeartbeat` writes. -/
def heartbeatText (h : Heartbeat) : Text := print javaScript (heartbeatJson h)

structure TextCheck where
  healthy : Bool
  reason : Option String
  heartbeat : Option Json

/-- The time of a heartbeat that was parsed, none for NaN. -/
def syncTime (heartbeat : Json) : Option Nat :=
  match heartbeat.get "lastSyncAt" with
  | some (.string text) => IsoTime.getTime text
  | _ => none

/-- `check` on the content of the file; none where it throws. -/
def checkText (path : String) (maxAge : ℚ) (now : Nat) : Option Text → Option TextCheck
  | none => some ⟨false, some s!"no heartbeat file at {path}", none⟩
  | some raw =>
    match parse raw with
    | none => some ⟨false, some "heartbeat file is not valid JSON", none⟩
    | some .null => none
    | some heartbeat =>
      match syncTime heartbeat with
      | none => some ⟨false, some "heartbeat is stale (NaNs old)", some heartbeat⟩
      | some lastSyncAt =>
        let age : ℤ := now - lastSyncAt
        if maxAge < age then
          some ⟨false, some s!"heartbeat is stale ({roundSeconds age}s old)", some heartbeat⟩
        else some ⟨true, none, some heartbeat⟩

/-- The latest time that a date can have. -/
def maxTime : Nat := 8640000000000000

/-- A content of the file as its model has it; it is torn while a part of a heartbeat is missing. -/
inductive Represents : Option Text → HeartbeatFile → Prop where
  | absent : Represents none .absent
  | torn {h : Heartbeat} {part more : Text} : part ++ more = heartbeatText h → more ≠ [] →
      Represents (some part) .torn
  | whole (h : Heartbeat) : Represents (some (heartbeatText h)) (.whole h)

/-- A part of a text that is not all of it. -/
def isPart (part text : Text) : Bool := part.isPrefixOf text && part.length < text.length

/-- The content after an event; a write that fails leaves some part of the heartbeat. -/
def textAfter (stage : Stage) (text : Option Text) (left : Text) : Event → Option (Option Text)
  | .opened true => some (some [])
  | .wrote ok =>
    match stage with
    | .writing h =>
      if ok then some (some (heartbeatText h))
      else if isPart left (heartbeatText h) then some (some left)
      else none
    | _ => none
  | _ => some text

/-- A step of the agent and of the content of its file; an event comes with what a failed write has
written. -/
def textStep (p : Process) (x : State × Option Text) (e : Event × Text) : Option (State × Option Text) :=
  (step p x.1 e.1).bind fun s => (textAfter x.1.stage x.2 e.2 e.1).map fun text => (s, text)

variable {p : Process} {s s' : State} {text text' : Option Text} {file : HeartbeatFile} {h : Heartbeat}
  {event : Event} {left : Text} {path : String} {maxAge : ℚ} {now : Nat}

theorem valid_heartbeatJson (h : Heartbeat) : Valid (heartbeatJson h) := by
  refine .object ?_
  intro m hm
  simp only [List.mem_cons, List.not_mem_nil, or_false] at hm
  rcases hm with rfl | rfl | rfl | rfl | rfl
  · exact .string _
  · exact .bool _
  · cases h.lastError with
    | none => exact .null
    | some error => exact .string _
  · exact valid_nat _
  · exact valid_nat _

theorem parse_heartbeatText (h : Heartbeat) : parse (heartbeatText h) = some (heartbeatJson h) :=
  parse_print javaScript (valid_heartbeatJson h)

theorem parse_torn {part more : Text} (htext : part ++ more = heartbeatText h) (hmore : more ≠ []) :
    parse part = none := parse_part (valid_heartbeatJson h) htext hmore

theorem syncTime_heartbeatJson (htime : h.lastSyncAt ≤ maxTime) :
    syncTime (heartbeatJson h) = some h.lastSyncAt := by
  have hget : (heartbeatJson h).get "lastSyncAt" = some (.string (IsoTime.toISOString h.lastSyncAt)) := rfl
  rw [syncTime, hget]
  exact IsoTime.getTime_toISOString htime

/-- The check sees in the content what it sees in the model of it. -/
theorem checkText_represents (hr : Represents text file)
    (htime : ∀ h, file = .whole h → h.lastSyncAt ≤ maxTime) (path : String) (maxAge : ℚ) (now : Nat) :
    checkText path maxAge now text =
      some ⟨(check path maxAge now file).healthy, (check path maxAge now file).reason,
        (check path maxAge now file).heartbeat.map heartbeatJson⟩ := by
  cases hr with
  | absent => rfl
  | torn htext hmore =>
    rw [checkText, parse_torn htext hmore]
    rfl
  | whole h =>
    simp only [checkText, parse_heartbeatText, check]
    have hsync := syncTime_heartbeatJson (htime h rfl)
    rw [heartbeatJson] at hsync ⊢
    simp only [hsync]
    split
    next => rfl
    next => rfl

theorem isPart_iff {part whole : Text} : isPart part whole = true ↔ ∃ more, part ++ more = whole ∧ more ≠ [] := by
  rw [isPart, Bool.and_eq_true, List.isPrefixOf_iff_prefix, decide_eq_true_eq]
  refine ⟨?_, ?_⟩
  · rintro ⟨⟨more, rfl⟩, hlt⟩
    refine ⟨more, rfl, ?_⟩
    rintro rfl
    simp at hlt
  · rintro ⟨more, rfl, hmore⟩
    have hpos := List.length_pos_iff.mpr hmore
    refine ⟨List.prefix_append _ _, ?_⟩
    rw [List.length_append]
    omega

theorem heartbeatText_ne_nil (h : Heartbeat) : heartbeatText h ≠ [] := by
  simp [heartbeatText, heartbeatJson, print]

theorem Represents.step (hr : Represents text s.file) (hmoves : Moves p s event s')
    (htext : textAfter s.stage text left event = some text') : Represents text' s'.file := by
  cases hmoves with
  | tick ms => cases htext; exact hr
  | signal => cases htext; exact hr
  | synced outcome hstage => cases htext; exact hr
  | @opened h hstage =>
    cases htext
    exact .torn (List.nil_append (heartbeatText h)) (heartbeatText_ne_nil h)
  | unopened hstage => cases htext; exact hr
  | @wrote h hstage =>
    simp only [textAfter, hstage, if_true] at htext
    cases htext
    exact .whole h
  | @unwritten h hstage =>
    simp only [textAfter, hstage, Bool.false_eq_true, if_false] at htext
    split at htext
    next hpart =>
      cases htext
      obtain ⟨more, hmore, hne⟩ := isPart_iff.mp hpart
      exact .torn hmore hne
    next => cases htext
  | exported hstage => cases htext; exact hr
  | stopped hstage hlate hstopping => cases htext; exact hr
  | woke hstage hlate hstopping => cases htext; exact hr

theorem represents_run {es : List (Event × Text)} (hr : Represents text s.file)
    (hrun : runEvents (textStep p) (s, text) es = some (s', text')) :
    runEvents (step p) s (es.map Prod.fst) = some s' ∧ Represents text' s'.file := by
  induction es generalizing s text with
  | nil =>
    cases hrun
    exact ⟨rfl, hr⟩
  | cons e es ih =>
    obtain ⟨⟨mid, midText⟩, hstep, hrest⟩ := runEvents_cons hrun
    obtain ⟨mid', hmid, htext⟩ := Option.bind_eq_some_iff.mp hstep
    obtain ⟨midText', hafter, heq⟩ := Option.map_eq_some_iff.mp htext
    cases heq
    obtain ⟨hend, hlast⟩ := ih (hr.step (moves_of_step hmid) hafter) hrest
    refine ⟨?_, hlast⟩
    rw [List.map_cons, runEvents, hmid, Option.bind_some]
    exact hend

/-- A time that is recorded in a run is not after its end. -/
theorem Recorded.le {t₀ : Nat} {events : List Event} (hr : Recorded p t₀ events h) :
    h.lastSyncAt ≤ t₀ + elapsed events := by
  obtain ⟨before, outcome, after, rfl, rfl⟩ := hr
  rw [lastSyncAt_payload, elapsed_append]
  omega

end Watchdog

end GuardTime
