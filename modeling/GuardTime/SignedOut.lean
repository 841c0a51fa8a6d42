import GuardTime.AuthInterceptor
import Mathlib.Logic.Function.Basic

namespace GuardTime

namespace ParentApp

namespace AuthController

/-- Where one of the running functions is: `onError` of the interceptor, `clearSession` (also as
the end of `logout`), or `login` and `register`. A call of secure storage takes effect at some
moment before it returns: `saved`, `deleted` and `stored` are past that moment. -/
inductive Task where
  | idle
  | reading
  | refreshing (refreshToken : String)
  | saving (refreshed : AppSession)
  | saved (refreshed : AppSession)
  | retrying
  | stuck
  | clearing
  | deleted
  | submitting
  | storing (session : AppSession)
  | stored (session : AppSession)

/-- Secure storage, the session of `AuthState`, what runs, and whether a `clearSession` completed
since the last login or registration did. The interceptor runs one `onError` at a time: it is the
task `none`. -/
structure State (ι : Type) where
  storage : Option AppSession
  session : Option AppSession
  task : Option ι → Task
  signedOut : Bool

inductive Event (ι : Type) where
  | unauthorized (error : DioError)
  | sessionRead
  | refreshed (answer : RefreshAnswer)
  | sessionWritten
  | sessionSaved
  | retried (answer : RetryAnswer)
  | clearSession (i : ι)
  | sessionDeleted (who : Option ι)
  | sessionCleared (who : Option ι)
  | submit (i : ι)
  | submitted (i : ι) (answer : Option AppSession)
  | loginWritten (i : ι)
  | loginSaved (i : ι)

variable {ι : Type} [DecidableEq ι]

def State.setTask (s : State ι) (who : Option ι) (task : Task) : State ι :=
  { s with task := Function.update s.task who task }

/-- What `onError` does with the session it found. -/
def Task.ofSession : Option AppSession → Task
  | some session =>
    if session.refreshToken = "" then .clearing else .refreshing session.refreshToken
  | none => .clearing

/-- The steps between two awaits of the functions that read, store or clear the session. -/
def step (s : State ι) : Event ι → Option (State ι)
  | .unauthorized error =>
    match s.task none with
    | .idle =>
      match onError error with
      | some _ =>
        match s.session with
        | some session => some (s.setTask none (.ofSession (some session)))
        | none => some (s.setTask none .reading)
      | none => some s
    | _ => none
  | .sessionRead =>
    match s.task none with
    | .reading => some (s.setTask none (.ofSession s.storage))
    | _ => none
  | .refreshed answer =>
    match s.task none with
    | .refreshing _ =>
      match answer with
      | .failed => some (s.setTask none .clearing)
      | .data body =>
        match AppSession.fromJson body with
        | some refreshed => some (s.setTask none (.saving refreshed))
        | none => some (s.setTask none .stuck)
    | _ => none
  | .sessionWritten =>
    match s.task none with
    | .saving refreshed => some { s.setTask none (.saved refreshed) with storage := some refreshed }
    | _ => none
  | .sessionSaved =>
    match s.task none with
    | .saved refreshed => some { s.setTask none .retrying with session := some refreshed }
    | _ => none
  | .retried answer =>
    match s.task none with
    | .retrying =>
      match answer with
      | .ok => some (s.setTask none .idle)
      | .failed _ => some (s.setTask none .stuck)
    | _ => none
  | .clearSession i =>
    match s.task (some i) with
    | .idle => some (s.setTask (some i) .clearing)
    | _ => none
  | .sessionDeleted who =>
    match s.task who with
    | .clearing => some { s.setTask who .deleted with storage := none }
    | _ => none
  | .sessionCleared who =>
    match s.task who with
    | .deleted => some { s.setTask who .idle with session := none, signedOut := true }
    | _ => none
  | .submit i =>
    match s.task (some i) with
    | .idle => some (s.setTask (some i) .submitting)
    | _ => none
  | .submitted i answer =>
    match s.task (some i) with
    | .submitting =>
      match answer with
      | some session => some (s.setTask (some i) (.storing session))
      | none => some (s.setTask (some i) .idle)
    | _ => none
  | .loginWritten i =>
    match s.task (some i) with
    | .storing session =>
      some { s.setTask (some i) (.stored session) with storage := some session }
    | _ => none
  | .loginSaved i =>
    match s.task (some i) with
    | .stored session =>
      some { s.setTask (some i) .idle with session := some session, signedOut := false }
    | _ => none

/-- The app after it has started, with any session in storage and in `AuthState`. -/
def start (storage session : Option AppSession) : State ι where
  storage := storage
  session := session
  task := fun _ => .idle
  signedOut := false

/-- What storage holds, a login or registration still under way has stored. -/
def State.OnlyLogins (s : State ι) : Prop :=
  ∀ session, s.storage = some session → ∃ i, s.task (some i) = .stored session

/-- Once signed out, nothing is held, and nothing is stored but by the next login itself. -/
def State.Lawful (s : State ι) : Prop :=
  s.signedOut = true → s.session = none ∧ s.OnlyLogins

/-- A `clearSession` has deleted the session from storage and not yet from `AuthState`. -/
def State.Deleting (s : State ι) : Prop := ∃ who, s.task who = .deleted

/-- A refresh stores its session after a deletion, or puts it into `AuthState` after the sign-out;
or a login completes during a `clearSession` whose deletion came before what it has stored. -/
def Hazard (s : State ι) : Event ι → Prop
  | .sessionWritten => s.signedOut = true ∨ s.Deleting
  | .sessionSaved => s.signedOut = true
  | .loginSaved i => s.Deleting ∧ ∃ session, s.task (some i) = .stored session ∧
      s.storage = some session
  | _ => False

/-- What a step can do: most only move a task on. -/
inductive Steps (s : State ι) : Event ι → State ι → Prop
  | passed {e : Event ι} : Steps s e s
  | moved {e : Event ι} {who : Option ι} {task : Task} : task ≠ .deleted →
      (∀ session, s.task who ≠ .stored session) → Steps s e (s.setTask who task)
  | written {refreshed : AppSession} : s.task none = .saving refreshed →
      Steps s .sessionWritten { s.setTask none (.saved refreshed) with storage := some refreshed }
  | replaced {refreshed : AppSession} : s.task none = .saved refreshed →
      Steps s .sessionSaved { s.setTask none .retrying with session := some refreshed }
  | deleted {who : Option ι} : s.task who = .clearing →
      Steps s (.sessionDeleted who) { s.setTask who .deleted with storage := none }
  | cleared {who : Option ι} : s.task who = .deleted →
      Steps s (.sessionCleared who)
        { s.setTask who .idle with session := none, signedOut := true }
  | stored {i : ι} {session : AppSession} : s.task (some i) = .storing session →
      Steps s (.loginWritten i)
        { s.setTask (some i) (.stored session) with storage := some session }
  | completed {i : ι} {session : AppSession} : s.task (some i) = .stored session →
      Steps s (.loginSaved i)
        { s.setTask (some i) .idle with session := some session, signedOut := false }

variable {s s' : State ι} {e : Event ι} {events : List (Event ι)}

theorem ofSession_ne_deleted (session : Option AppSession) : Task.ofSession session ≠ .deleted := by
  unfold Task.ofSession
  split
  next => split <;> exact nofun
  next => exact nofun

theorem step_cases (h : step s e = some s') : Steps s e s' := by
  cases e with
  | unauthorized error =>
    simp only [step] at h
    split at h
    next htask =>
      have hmoved {task : Task} (ht : task ≠ .deleted) :
          Steps s (.unauthorized error) (s.setTask none task) := .moved ht (by simp [htask])
      split at h
      next =>
        split at h
        next => exact Option.some.inj h ▸ hmoved (ofSession_ne_deleted _)
        next => exact Option.some.inj h ▸ hmoved nofun
      next => exact Option.some.inj h ▸ .passed
    next => simp at h
  | sessionRead =>
    simp only [step] at h
    split at h
    next htask => exact Option.some.inj h ▸ .moved (ofSession_ne_deleted _) (by simp [htask])
    next => simp at h
  | refreshed answer =>
    simp only [step] at h
    split at h
    next htask =>
      have hmoved {task : Task} (ht : task ≠ .deleted) :
          Steps s (.refreshed answer) (s.setTask none task) := .moved ht (by simp [htask])
      split at h
      next => exact Option.some.inj h ▸ hmoved nofun
      next =>
        split at h
        next => exact Option.some.inj h ▸ hmoved nofun
        next => exact Option.some.inj h ▸ hmoved nofun
    next => simp at h
  | sessionWritten =>
    simp only [step] at h
    split at h
    next htask => exact Option.some.inj h ▸ .written htask
    next => simp at h
  | sessionSaved =>
    simp only [step] at h
    split at h
    next htask => exact Option.some.inj h ▸ .replaced htask
    next => simp at h
  | retried answer =>
    simp only [step] at h
    split at h
    next htask =>
      split at h
      next => exact Option.some.inj h ▸ .moved nofun (by simp [htask])
      next => exact Option.some.inj h ▸ .moved nofun (by simp [htask])
    next => simp at h
  | clearSession i =>
    simp only [step] at h
    split at h
    next htask => exact Option.some.inj h ▸ .moved nofun (by simp [htask])
    next => simp at h
  | sessionDeleted who =>
    simp only [step] at h
    split at h
    next htask => exact Option.some.inj h ▸ .deleted htask
    next => simp at h
  | sessionCleared who =>
    simp only [step] at h
    split at h
    next htask => exact Option.some.inj h ▸ .cleared htask
    next => simp at h
  | submit i =>
    simp only [step] at h
    split at h
    next htask => exact Option.some.inj h ▸ .moved nofun (by simp [htask])
    next => simp at h
  | submitted i answer =>
    simp only [step] at h
    split at h
    next htask =>
      split at h
      next => exact Option.some.inj h ▸ .moved nofun (by simp [htask])
      next => exact Option.some.inj h ▸ .moved nofun (by simp [htask])
    next => simp at h
  | loginWritten i =>
    simp only [step] at h
    split at h
    next htask => exact Option.some.inj h ▸ .stored htask
    next => simp at h
  | loginSaved i =>
    simp only [step] at h
    split at h
    next htask => exact Option.some.inj h ▸ .completed htask
    next => simp at h

theorem deleting_setTask (who : Option ι) {task : Task} (hne : task ≠ .deleted)
    (h : (s.setTask who task).Deleting) : s.Deleting := by
  obtain ⟨other, hother⟩ := h
  refine ⟨other, ?_⟩
  by_cases hwho : other = who
  · subst hwho
    exact absurd (by simpa [State.setTask] using hother) hne
  · simpa [State.setTask, Function.update_of_ne hwho] using hother

theorem onlyLogins_setTask (who : Option ι) (task : Task) (h : s.OnlyLogins)
    (hnot : ∀ session, s.storage = some session → s.task who ≠ .stored session) :
    (s.setTask who task).OnlyLogins := by
  intro session hstorage
  obtain ⟨i, hi⟩ := h session hstorage
  have hne : some i ≠ who := fun heq => hnot session hstorage (heq ▸ hi)
  exact ⟨i, by simpa [State.setTask, Function.update_of_ne hne] using hi⟩

/-- From the deletion on, a `clearSession` keeps the storage empty, so that nothing is left in it
when the session of `AuthState` goes too. -/
structure Emptied (s : State ι) : Prop where
  held : s.signedOut = true → s.session = none
  stored : s.signedOut = true ∨ s.Deleting → s.OnlyLogins

omit [DecidableEq ι] in
theorem emptied_start (storage session : Option AppSession) :
    Emptied (start storage session : State ι) where
  held := nofun
  stored := by
    intro h
    rcases h with h | ⟨_, h⟩
    · exact nomatch h
    · exact nomatch h

theorem emptied_step (hs : Emptied s) (h : step s e = some s') (hhazard : ¬Hazard s e) :
    Emptied s' := by
  cases step_cases h with
  | passed => exact hs
  | @moved _ who task hne hnot =>
    refine ⟨hs.held, ?_⟩
    intro hor
    refine onlyLogins_setTask who task (hs.stored ?_) fun session _ => hnot session
    exact hor.imp id (deleting_setTask who hne)
  | @written refreshed htask =>
    refine ⟨hs.held, ?_⟩
    intro hor
    have hne : Task.saved refreshed ≠ .deleted := nofun
    exact absurd (hor.imp id (deleting_setTask none hne)) hhazard
  | @replaced refreshed htask =>
    refine ⟨fun hout => absurd hout hhazard, ?_⟩
    intro hor
    have hne : Task.retrying ≠ .deleted := nofun
    have honly : s.OnlyLogins := hs.stored (hor.imp id (deleting_setTask none hne))
    have honly' : (s.setTask none .retrying).OnlyLogins :=
      onlyLogins_setTask none .retrying honly (by simp [htask])
    exact honly'
  | deleted htask => exact ⟨hs.held, fun _ => nofun⟩
  | @cleared who htask =>
    refine ⟨fun _ => rfl, ?_⟩
    intro _
    exact onlyLogins_setTask who .idle (hs.stored (.inr ⟨who, htask⟩)) (by simp [htask])
  | @stored i session htask =>
    refine ⟨hs.held, ?_⟩
    intro _ written hwritten
    cases Option.some.inj hwritten
    exact ⟨i, by simp [State.setTask]⟩
  | @completed i session htask =>
    refine ⟨nofun, ?_⟩
    intro hor
    have hne : Task.idle ≠ .deleted := nofun
    have hdeleting : s.Deleting := deleting_setTask (some i) hne (hor.resolve_left nofun)
    refine onlyLogins_setTask (some i) .idle (hs.stored (.inr hdeleting)) ?_
    intro written hwritten hcontra
    exact hhazard ⟨hdeleting, written, hcontra, hwritten⟩

omit [DecidableEq ι] in
theorem Emptied.lawful (hs : Emptied s) : s.Lawful :=
  fun hout => ⟨hs.held hout, hs.stored (.inl hout)⟩

/-- A `clearSession` that something was stored in leaves it there as it completes. -/
theorem cleared_breaks (who : Option ι) {session : AppSession} (hwho : s.task who = .deleted)
    (hstorage : s.storage = some session) (hfresh : ∀ i, s.task (some i) ≠ .stored session) :
    ∃ next, runEvents step s [.sessionCleared who] = some next ∧ ¬next.Lawful := by
  refine ⟨{ s.setTask who .idle with session := none, signedOut := true }, ?_, ?_⟩
  · simp [runEvents, step, hwho]
  · intro hlawful
    obtain ⟨i, hi⟩ := (hlawful rfl).2 session hstorage
    by_cases hwho' : some i = who
    · simp [State.setTask, hwho'] at hi
    · exact hfresh i (by simpa [State.setTask, Function.update_of_ne hwho'] using hi)

/-- A hazard breaks the law at once, or when the `clearSession` under way completes. -/
theorem hazard_breaks (h : step s e = some s') (hhazard : Hazard s e)
    (hfresh : ∀ session, s'.storage = some session → ∀ i, s'.task (some i) ≠ .stored session) :
    ∃ more next, runEvents step s' more = some next ∧ ¬next.Lawful := by
  cases e with
  | sessionWritten =>
    simp only [step] at h
    split at h
    next refreshed htask =>
      cases Option.some.inj h
      rcases hhazard with hout | ⟨who, hwho⟩
      · refine ⟨[], _, rfl, ?_⟩
        intro hlawful
        obtain ⟨i, hi⟩ := (hlawful hout).2 refreshed rfl
        exact hfresh refreshed rfl i hi
      · have hne : who ≠ none := fun heq => by simp [heq, htask] at hwho
        refine ⟨[.sessionCleared who], cleared_breaks who ?_ rfl (hfresh refreshed rfl)⟩
        simpa [State.setTask, Function.update_of_ne hne] using hwho
    next => simp at h
  | sessionSaved =>
    simp only [step] at h
    split at h
    next refreshed htask =>
      cases Option.some.inj h
      refine ⟨[], _, rfl, ?_⟩
      intro hlawful
      exact nomatch (hlawful hhazard).1
    next => simp at h
  | loginSaved i =>
    simp only [step] at h
    split at h
    next session htask =>
      cases Option.some.inj h
      obtain ⟨⟨who, hwho⟩, written, hwritten, hstorage⟩ := hhazard
      have hne : who ≠ some i := fun heq => by simp [heq, htask] at hwho
      refine ⟨[.sessionCleared who], cleared_breaks who ?_ hstorage (hfresh written hstorage)⟩
      simpa [State.setTask, Function.update_of_ne hne] using hwho
    next => simp at h
  | _ => exact hhazard.elim

/-- In a run without hazards, once a `logout` or `clearSession` has completed no session is held
until the next login or registration completes, nor stored but by that one. -/
theorem signedOut_lawful (storage session : Option AppSession) (events : List (Event ι))
    (havoids : Avoids step Hazard (start storage session) events) (s : State ι)
    (hrun : runEvents step (start storage session) events = some s) : s.Lawful :=
  (avoids_keeps (fun _ _ _ => emptied_step) (emptied_start storage session) havoids hrun).lawful

def devicesError : DioError := ⟨devicesRequest, some 401, none⟩

def oldSession : AppSession := ⟨"access-1", "refresh-1", "u", "PARENT"⟩

/-- A refresh that has gone through before the user logs out. -/
def refreshThenLogout : List (Event Unit) :=
  [.unauthorized devicesError, .refreshed (.data refreshedBody), .sessionWritten, .sessionSaved,
    .clearSession (), .sessionDeleted (some ()), .sessionCleared (some ())]

theorem signedOut_lawful_refreshed :
    ∃ s, runEvents step (start (some oldSession) (some oldSession)) refreshThenLogout = some s ∧
      s.Lawful := by
  have hread : onError devicesError = some .readingSession := rfl
  have hfound : Task.ofSession (some oldSession) = .refreshing "refresh-1" := rfl
  have hrefreshed : AppSession.fromJson refreshedBody =
      some ⟨"access-2", "refresh-2", "", "PARENT"⟩ := rfl
  have havoids : Avoids step Hazard (start (some oldSession) (some oldSession)) refreshThenLogout := by
    simp [refreshThenLogout, Avoids, Hazard, step, start, State.setTask, State.Deleting, hread, hfound,
      hrefreshed]
    intro who
    cases who with
    | none => simp
    | some i => simp
  exact ⟨_, rfl, signedOut_lawful (some oldSession) (some oldSession) _ havoids _ rfl⟩

/-- The user logs out while a refresh is under way: what the refresh brings is stored after the
logout has completed, and logs the user in again. -/
theorem logout_undone :
    ¬∀ (events : List (Event Unit)) (s : State Unit),
      runEvents step (start (some oldSession) (some oldSession)) events = some s → s.Lawful := by
  intro h
  have hlawful := h [.unauthorized devicesError, .clearSession (), .sessionDeleted (some ()),
    .sessionCleared (some ()), .refreshed (.data refreshedBody), .sessionWritten, .sessionSaved] _ rfl
  exact nomatch (hlawful rfl).1

end AuthController

end ParentApp

end GuardTime
