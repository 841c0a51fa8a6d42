import GuardTime.GuardedRuns
import GuardTime.NumberText

namespace GuardTime

namespace Watchdog

structure Heartbeat where
  lastSyncAt : Nat
  lastSyncOk : Bool
  lastError : Option String
  pollIntervalMs : Nat
  pid : Nat
deriving DecidableEq

/-- The heartbeat file; it is torn from the moment it is opened until all of it is written. -/
inductive HeartbeatFile where
  | absent
  | torn
  | whole (heartbeat : Heartbeat)
deriving DecidableEq

structure Process where
  pid : Nat
  pollIntervalMs : Nat

/-- The payload of `writeHeartbeat` after a sync that ended at some time. -/
def Process.payload (p : Process) (now : Nat) : Except String Unit → Heartbeat
  | .ok _ => ⟨now, true, none, p.pollIntervalMs, p.pid⟩
  | .error message =>
    ⟨now, false, if message = "" then none else some message, p.pollIntervalMs, p.pid⟩

/-- How long `setTimeout` waits, in milliseconds. -/
def Process.delay (p : Process) : Nat :=
  if p.pollIntervalMs = 0 ∨ 2 ^ 31 ≤ p.pollIntervalMs then 1 else p.pollIntervalMs

structure CheckResult where
  healthy : Bool
  reason : Option String
  heartbeat : Option Heartbeat
deriving DecidableEq

/-- `Math.round(ms / 1000)`. -/
def roundSeconds (ms : ℤ) : ℤ := (ms + 500) / 1000

def maxAgeMs (env : Option Text) : ℚ := ((env.bind numberOf).filter (· ≠ 0)).getD 180000

def check (path : String) (maxAge : ℚ) (now : Nat) : HeartbeatFile → CheckResult
  | .absent => ⟨false, some s!"no heartbeat file at {path}", none⟩
  | .torn => ⟨false, some "heartbeat file is not valid JSON", none⟩
  | .whole heartbeat =>
    let age : ℤ := now - heartbeat.lastSyncAt
    if maxAge < age then
      ⟨false, some s!"heartbeat is stale ({roundSeconds age}s old)", some heartbeat⟩
    else ⟨true, none, some heartbeat⟩

/-- Where the loop of `main` is, with the time it has been there since. -/
inductive Stage where
  | syncing (since : Nat)
  | beating (heartbeat : Heartbeat)
  | writing (heartbeat : Heartbeat)
  | exporting (since : Nat)
  | sleeping (since : Nat)
  | stopped
deriving DecidableEq

structure State where
  now : Nat
  stopping : Bool
  stage : Stage
  file : HeartbeatFile
deriving DecidableEq

/-- What happens to the agent: time passes, a signal comes in, its sync ends, the heartbeat file is
opened or not and written or not, the metrics are exported or not, its sleep ends. -/
inductive Event where
  | tick (ms : Nat)
  | signal
  | synced (outcome : Except String Unit)
  | opened (ok : Bool)
  | wrote (ok : Bool)
  | exported
  | woke

def start (now : Nat) (leftover : HeartbeatFile) : State := ⟨now, false, .syncing now, leftover⟩

def step (p : Process) (s : State) : Event → Option State
  | .tick ms => some { s with now := s.now + ms }
  | .signal => some { s with stopping := true }
  | .synced outcome =>
    match s.stage with
    | .syncing _ => some { s with stage := .beating (p.payload s.now outcome) }
    | _ => none
  | .opened ok =>
    match s.stage with
    | .beating heartbeat =>
      if ok then some { s with stage := .writing heartbeat, file := .torn }
      else some { s with stage := .exporting heartbeat.lastSyncAt }
    | _ => none
  | .wrote ok =>
    match s.stage with
    | .writing heartbeat =>
      some { s with
        stage := .exporting heartbeat.lastSyncAt
        file := if ok then .whole heartbeat else .torn }
    | _ => none
  | .exported =>
    match s.stage with
    | .exporting _ => some { s with stage := .sleeping s.now }
    | _ => none
  | .woke =>
    match s.stage with
    | .sleeping since =>
      if s.now < since + p.delay then none
      else some { s with stage := if s.stopping then .stopped else .syncing s.now }
    | _ => none

def Event.ms : Event → Nat
  | .tick ms => ms
  | _ => 0

def elapsed (events : List Event) : Nat := (events.map Event.ms).sum

/-- A heartbeat of a sync that ended in a run which began at `t₀`. -/
def Recorded (p : Process) (t₀ : Nat) (events : List Event) (heartbeat : Heartbeat) : Prop :=
  ∃ before outcome after, events = before ++ .synced outcome :: after ∧
    heartbeat = p.payload (t₀ + elapsed before) outcome

/-- How long a sync may take, the heartbeat and the export after it, and the wait for the loop to go
on after its sleep. -/
structure Limits where
  sync : Nat
  write : Nat
  wake : Nat

def Timely (p : Process) (limits : Limits) (s : State) : Prop :=
  match s.stage with
  | .syncing since => s.now ≤ since + limits.sync
  | .beating heartbeat | .writing heartbeat => s.now ≤ heartbeat.lastSyncAt + limits.write
  | .exporting since => s.now ≤ since + limits.write
  | .sleeping since => s.now ≤ since + p.delay + limits.wake
  | .stopped => True

/-- The time from a heartbeat to the end of the next one. -/
def Limits.period (p : Process) (limits : Limits) : Nat :=
  limits.write + p.delay + limits.wake + limits.sync + limits.write

/-- The file holds the heartbeat of the last sync but for a write that is under way, and the loop is
no further behind it than the limits allow. -/
def Fresh (p : Process) (limits : Limits) (s : State) : Prop :=
  match s.stage with
  | .syncing since => ∃ h, s.file = .whole h ∧
      since ≤ h.lastSyncAt + limits.write + p.delay + limits.wake
  | .beating next => ∃ h, s.file = .whole h ∧
      next.lastSyncAt ≤ h.lastSyncAt + limits.write + p.delay + limits.wake + limits.sync
  | .writing _ => s.file = .torn
  | .exporting since => ∃ h, s.file = .whole h ∧ since = h.lastSyncAt
  | .sleeping since => ∃ h, s.file = .whole h ∧ since ≤ h.lastSyncAt + limits.write
  | .stopped => True

variable {p : Process} {limits : Limits} {s s' : State} {event : Event}
  {events before after : List Event} {t₀ : Nat} {leftover : HeartbeatFile} {heartbeat : Heartbeat}
  {path : String} {maxAge : ℚ} {now : Nat} {file : HeartbeatFile}

theorem lastSyncAt_payload (p : Process) (now : Nat) (outcome : Except String Unit) :
    (p.payload now outcome).lastSyncAt = now := by
  cases outcome with
  | error message => rfl
  | ok _ => rfl

theorem healthy_check : (check path maxAge now file).healthy = true ↔
    ∃ h, file = .whole h ∧ (((now : ℤ) - h.lastSyncAt : ℤ) : ℚ) ≤ maxAge := by
  cases file with
  | absent => simp [check]
  | torn => simp [check]
  | whole h =>
    simp only [check]
    split
    next hold =>
      refine ⟨fun hfalse => absurd hfalse Bool.false_ne_true, ?_⟩
      rintro ⟨h', heq, hle⟩
      cases heq
      exact absurd hle (not_le.mpr hold)
    next hyoung => exact ⟨fun _ => ⟨h, rfl, not_lt.mp hyoung⟩, fun _ => Eq.refl true⟩

theorem elapsed_append (xs ys : List Event) : elapsed (xs ++ ys) = elapsed xs + elapsed ys := by
  simp [elapsed]

theorem Recorded.append (h : Recorded p t₀ events heartbeat) (more : List Event) :
    Recorded p t₀ (events ++ more) heartbeat := by
  obtain ⟨before, outcome, after, rfl, hpayload⟩ := h
  exact ⟨before, outcome, after ++ more, by simp, hpayload⟩

/-- What each event does, and where it can happen. -/
inductive Moves (p : Process) (s : State) : Event → State → Prop where
  | tick (ms : Nat) : Moves p s (.tick ms) { s with now := s.now + ms }
  | signal : Moves p s .signal { s with stopping := true }
  | synced {since : Nat} (outcome : Except String Unit) : s.stage = .syncing since →
      Moves p s (.synced outcome) { s with stage := .beating (p.payload s.now outcome) }
  | opened {h : Heartbeat} : s.stage = .beating h →
      Moves p s (.opened true) { s with stage := .writing h, file := .torn }
  | unopened {h : Heartbeat} : s.stage = .beating h →
      Moves p s (.opened false) { s with stage := .exporting h.lastSyncAt }
  | wrote {h : Heartbeat} : s.stage = .writing h →
      Moves p s (.wrote true) { s with stage := .exporting h.lastSyncAt, file := .whole h }
  | unwritten {h : Heartbeat} : s.stage = .writing h →
      Moves p s (.wrote false) { s with stage := .exporting h.lastSyncAt, file := .torn }
  | exported {since : Nat} : s.stage = .exporting since →
      Moves p s .exported { s with stage := .sleeping s.now }
  | stopped {since : Nat} : s.stage = .sleeping since → since + p.delay ≤ s.now →
      s.stopping = true → Moves p s .woke { s with stage := .stopped }
  | woke {since : Nat} : s.stage = .sleeping since → since + p.delay ≤ s.now →
      s.stopping = false → Moves p s .woke { s with stage := .syncing s.now }

theorem moves_of_step (h : step p s event = some s') : Moves p s event s' := by
  cases event with
  | tick ms => cases h; exact .tick ms
  | signal => cases h; exact .signal
  | synced outcome =>
    simp only [step] at h
    split at h
    next since hstage => cases h; exact .synced outcome hstage
    next => cases h
  | opened ok =>
    simp only [step] at h
    split at h
    next heartbeat hstage =>
      cases ok with
      | true => cases h; exact .opened hstage
      | false => cases h; exact .unopened hstage
    next => cases h
  | wrote ok =>
    simp only [step] at h
    split at h
    next heartbeat hstage =>
      cases ok with
      | true => cases h; exact .wrote hstage
      | false => cases h; exact .unwritten hstage
    next => cases h
  | exported =>
    simp only [step] at h
    split at h
    next since hstage => cases h; exact .exported hstage
    next => cases h
  | woke =>
    simp only [step] at h
    split at h
    next since hstage =>
      split at h
      next => cases h
      next hlate =>
        obtain rfl := Option.some.inj h
        by_cases hstopping : s.stopping = true
        · rw [if_pos hstopping]
          exact .stopped hstage (not_lt.mp hlate) hstopping
        · rw [if_neg hstopping]
          exact .woke hstage (not_lt.mp hlate) (Bool.eq_false_iff.mpr hstopping)
    next => cases h

theorem Moves.clock (h : Moves p s event s') : s'.now = s.now + event.ms := by
  cases h <;> rfl

/-- The heartbeats of a run are those of the syncs that ended in it, and the one left over. -/
structure Honest (p : Process) (t₀ : Nat) (leftover : HeartbeatFile) (events : List Event)
    (s : State) : Prop where
  now : s.now = t₀ + elapsed events
  beating : ∀ h, s.stage = .beating h ∨ s.stage = .writing h → Recorded p t₀ events h
  file : ∀ h, s.file = .whole h → Recorded p t₀ events h ∨ leftover = .whole h

theorem honest_start (p : Process) (t₀ : Nat) (leftover : HeartbeatFile) :
    Honest p t₀ leftover [] (start t₀ leftover) where
  now := rfl
  beating := by
    intro h hstage
    rcases hstage with hstage | hstage <;> cases hstage
  file := fun h hfile => Or.inr hfile

theorem Honest.step (h : Honest p t₀ leftover events s) (hmoves : Moves p s event s') :
    Honest p t₀ leftover (events ++ [event]) s' := by
  have hnow : s'.now = t₀ + elapsed (events ++ [event]) := by
    rw [hmoves.clock, h.now, elapsed_append]
    simp [elapsed, Nat.add_assoc]
  have hbeating : ∀ b, s.stage = .beating b ∨ s.stage = .writing b →
      Recorded p t₀ (events ++ [event]) b := fun b hb => (h.beating b hb).append _
  have hfile : ∀ b, s.file = .whole b → Recorded p t₀ (events ++ [event]) b ∨ leftover = .whole b :=
    fun b hb => (h.file b hb).imp_left fun hr => hr.append _
  cases hmoves with
  | tick ms => exact ⟨hnow, hbeating, hfile⟩
  | signal => exact ⟨hnow, hbeating, hfile⟩
  | synced outcome hstage =>
    have hrecorded : Recorded p t₀ (events ++ [.synced outcome]) (p.payload s.now outcome) :=
      ⟨events, outcome, [], rfl, by rw [h.now]⟩
    refine ⟨hnow, ?_, hfile⟩
    intro b hb
    rcases hb with hb | hb
    · cases hb
      exact hrecorded
    · cases hb
  | opened hstage =>
    refine ⟨hnow, ?_, nofun⟩
    intro b hb
    rcases hb with hb | hb
    · cases hb
    · cases hb
      exact hbeating _ (Or.inl hstage)
  | unopened hstage => exact ⟨hnow, fun b hb => hb.elim nofun nofun, hfile⟩
  | wrote hstage =>
    refine ⟨hnow, fun b hb => hb.elim nofun nofun, ?_⟩
    intro b hb
    cases hb
    exact Or.inl (hbeating _ (Or.inr hstage))
  | unwritten hstage =>
    exact ⟨hnow, fun b hb => hb.elim nofun nofun, nofun⟩
  | exported hstage => exact ⟨hnow, fun b hb => hb.elim nofun nofun, hfile⟩
  | stopped hstage => exact ⟨hnow, fun b hb => hb.elim nofun nofun, hfile⟩
  | woke hstage => exact ⟨hnow, fun b hb => hb.elim nofun nofun, hfile⟩

theorem runEvents_concat (h : runEvents (step p) s (events ++ [event]) = some s') :
    ∃ mid, runEvents (step p) s events = some mid ∧ Moves p mid event s' := by
  obtain ⟨mid, hmid, hlast⟩ := runEvents_split h
  obtain ⟨next, hstep, hend⟩ := runEvents_cons hlast
  cases hend
  exact ⟨mid, hmid, moves_of_step hstep⟩

theorem honest_run (h : runEvents (step p) (start t₀ leftover) events = some s) :
    Honest p t₀ leftover events s := by
  induction events using List.reverseRecOn generalizing s with
  | nil =>
    cases h
    exact honest_start p t₀ leftover
  | append_singleton events event ih =>
    obtain ⟨mid, hmid, hmoves⟩ := runEvents_concat h
    exact (ih hmid).step hmoves

theorem Fresh.step (h : Fresh p limits s) (htimely : Timely p limits s) (hmoves : Moves p s event s')
    (hopened : event ≠ .opened false) (hwrote : event ≠ .wrote false) : Fresh p limits s' := by
  cases hmoves with
  | tick ms => exact h
  | signal => exact h
  | synced outcome hstage =>
    simp only [Fresh, hstage] at h
    simp only [Timely, hstage] at htimely
    obtain ⟨b, hfile, hsince⟩ := h
    refine ⟨b, hfile, ?_⟩
    rw [lastSyncAt_payload]
    omega
  | opened hstage => rfl
  | unopened hstage => exact absurd rfl hopened
  | wrote hstage => exact ⟨_, rfl, rfl⟩
  | unwritten hstage => exact absurd rfl hwrote
  | exported hstage =>
    simp only [Fresh, hstage] at h
    simp only [Timely, hstage] at htimely
    obtain ⟨b, hfile, hsince⟩ := h
    refine ⟨b, hfile, ?_⟩
    show s.now ≤ b.lastSyncAt + limits.write
    omega
  | stopped hstage hlate hstopping => trivial
  | woke hstage hlate hstopping =>
    simp only [Fresh, hstage] at h
    simp only [Timely, hstage] at htimely
    obtain ⟨b, hfile, hsince⟩ := h
    refine ⟨b, hfile, ?_⟩
    show s.now ≤ b.lastSyncAt + limits.write + p.delay + limits.wake
    omega

/-- A fresh file in a loop that is in time is younger than a period, unless it is being written. -/
theorem Fresh.young (h : Fresh p limits s) (htimely : Timely p limits s) :
    s.stage = .stopped ∨ (∃ b, s.stage = .writing b ∧ s.file = .torn) ∨
      ∃ b, s.file = .whole b ∧ s.now ≤ b.lastSyncAt + limits.period p := by
  cases hstage : s.stage with
  | stopped => exact Or.inl rfl
  | writing b =>
    simp only [Fresh, hstage] at h
    exact Or.inr (Or.inl ⟨b, rfl, h⟩)
  | syncing since =>
    simp only [Fresh, hstage] at h
    simp only [Timely, hstage] at htimely
    obtain ⟨b, hfile, hsince⟩ := h
    refine Or.inr (Or.inr ⟨b, hfile, ?_⟩)
    rw [Limits.period]
    omega
  | beating next =>
    simp only [Fresh, hstage] at h
    simp only [Timely, hstage] at htimely
    obtain ⟨b, hfile, hsince⟩ := h
    refine Or.inr (Or.inr ⟨b, hfile, ?_⟩)
    rw [Limits.period]
    omega
  | exporting since =>
    simp only [Fresh, hstage] at h
    simp only [Timely, hstage] at htimely
    obtain ⟨b, hfile, hsince⟩ := h
    refine Or.inr (Or.inr ⟨b, hfile, ?_⟩)
    rw [Limits.period]
    omega
  | sleeping since =>
    simp only [Fresh, hstage] at h
    simp only [Timely, hstage] at htimely
    obtain ⟨b, hfile, hsince⟩ := h
    refine Or.inr (Or.inr ⟨b, hfile, ?_⟩)
    rw [Limits.period]
    omega

theorem fresh_run {first rest : List Event}
    (hrun : runEvents (step p) (start t₀ leftover) (first ++ .wrote true :: rest) = some s)
    (hwrites : ∀ e ∈ rest, e ≠ .opened false ∧ e ≠ .wrote false)
    (htimely : ∀ mid, mid <+: rest → ∀ s', runEvents (step p) (start t₀ leftover)
      (first ++ .wrote true :: mid) = some s' → Timely p limits s') : Fresh p limits s := by
  induction rest using List.reverseRecOn generalizing s with
  | nil =>
    obtain ⟨mid, _, hmoves⟩ := runEvents_concat hrun
    cases hmoves with
    | wrote hstage => exact ⟨_, rfl, rfl⟩
  | append_singleton rest event ih =>
    have hsplit : first ++ .wrote true :: (rest ++ [event]) = (first ++ .wrote true :: rest) ++ [event] := by
      simp
    rw [hsplit] at hrun
    obtain ⟨mid, hmid, hmoves⟩ := runEvents_concat hrun
    have hevent := hwrites event (List.mem_append_right _ (List.mem_singleton.mpr rfl))
    have hfresh : Fresh p limits mid := by
      refine ih hmid (fun e he => hwrites e (List.mem_append_left _ he)) ?_
      intro mid' hmid' s' hs'
      exact htimely mid' (hmid'.trans (List.prefix_append _ _)) s' hs'
    exact hfresh.step (htimely rest (List.prefix_append _ _) mid hmid) hmoves hevent.1 hevent.2

/-- A healthy check saw the heartbeat of a sync that ended within the age it allows, or one left over
by another process; and once a heartbeat is written, a loop that is in time and whose writes succeed
is healthy at every moment but those at which it writes the file. -/
theorem check_tells (hrun : runEvents (step p) (start t₀ leftover) events = some s) (path : String)
    (maxAge : ℚ) :
    ((check path maxAge s.now s.file).healthy = true →
      (∃ h, leftover = .whole h ∧ (check path maxAge s.now s.file).heartbeat = some h) ∨
      ∃ before outcome after, events = before ++ .synced outcome :: after ∧
        (elapsed after : ℚ) ≤ maxAge ∧ (check path maxAge s.now s.file).heartbeat =
          some (p.payload (t₀ + elapsed before) outcome)) ∧
    ∀ limits first rest, events = first ++ .wrote true :: rest →
      (∀ e ∈ rest, e ≠ .opened false ∧ e ≠ .wrote false) →
      (∀ mid, mid <+: rest → ∀ s', runEvents (step p) (start t₀ leftover)
        (first ++ .wrote true :: mid) = some s' → Timely p limits s') →
      (limits.period p : ℚ) ≤ maxAge → s.stage ≠ .stopped →
        ((check path maxAge s.now s.file).healthy = true ↔ ∀ b, s.stage ≠ .writing b) := by
  have honest := honest_run hrun
  refine ⟨?_, ?_⟩
  · intro hhealthy
    obtain ⟨h, hfile, hage⟩ := healthy_check.mp hhealthy
    have hseen : (check path maxAge s.now s.file).heartbeat = some h := by
      rw [hfile, check]
      split <;> rfl
    rcases honest.file h hfile with hrecorded | hleft
    · obtain ⟨before, outcome, after, hevents, rfl⟩ := hrecorded
      refine Or.inr ⟨before, outcome, after, hevents, ?_, hseen⟩
      have hms : elapsed (.synced outcome :: after) = elapsed after := by simp [elapsed, Event.ms]
      have hnow : s.now = t₀ + elapsed before + elapsed after := by
        rw [honest.now, hevents, elapsed_append, hms, Nat.add_assoc]
      rw [lastSyncAt_payload, hnow] at hage
      push_cast at hage
      linarith
    · exact Or.inl ⟨h, hleft, hseen⟩
  · intro limits first rest hevents hwrites htimely hperiod hrunning
    rw [hevents] at hrun
    have hfresh := fresh_run hrun hwrites htimely
    have hlast : Timely p limits s := htimely rest (List.prefix_refl rest) s hrun
    rcases hfresh.young hlast with hstopped | ⟨b, hstage, htorn⟩ | ⟨b, hwhole, hyoung⟩
    · exact absurd hstopped hrunning
    · have hsick : ¬(check path maxAge s.now s.file).healthy = true := by
        rw [htorn]
        simp [check]
      exact ⟨fun h => absurd h hsick, fun h => absurd hstage (h b)⟩
    · refine ⟨?_, ?_⟩
      · intro _ b' hwriting
        rw [Fresh, hwriting] at hfresh
        rw [hwhole] at hfresh
        cases hfresh
      · intro _
        have hcast : (s.now : ℚ) ≤ b.lastSyncAt + limits.period p := by exact_mod_cast hyoung
        refine healthy_check.mpr ⟨b, hwhole, ?_⟩
        push_cast
        linarith

end Watchdog

end GuardTime
