import GuardTime.Json
import GuardTime.SerialHandlers
import GuardTime.WebSession

namespace GuardTime

namespace ParentApp

structure AppSession where
  accessToken : String
  refreshToken : String
  userId : String
  role : String
deriving DecidableEq

/-- `json[key] as String? ?? fallback`; a value of another type is a type error. -/
def stringField (json : Json) (key fallback : String) : Option String :=
  match json.get key with
  | none | some .null => some fallback
  | some (.string value) => some (String.ofList value)
  | some _ => none

/-- `AppSession.fromJson(data as Map<String, dynamic>)`, or a type error. -/
def AppSession.fromJson : Json → Option AppSession
  | .object members =>
    (stringField (.object members) "accessToken" "").bind fun accessToken =>
    (stringField (.object members) "refreshToken" "").bind fun refreshToken =>
    (stringField (.object members) "userId" "").bind fun userId =>
    (stringField (.object members) "role" "PARENT").map fun role =>
      ⟨accessToken, refreshToken, userId, role⟩
  | _ => none

structure RequestOptions where
  path : String
  requiresAuth : Option Bool
  retried : Bool

def isAuthPath (path : String) : Bool := "/auth/".toList.isPrefixOf path.toList

/-- `options.extra['requiresAuth'] as bool? ?? !_isAuthPath(options.path)`. -/
def RequestOptions.needsAuth (options : RequestOptions) : Bool :=
  options.requiresAuth.getD (!isAuthPath options.path)

/-- An error on the client; `retryOf` tells the error whose handler sent the request that failed. -/
structure DioError where
  options : RequestOptions
  statusCode : Option Nat
  retryOf : Option Nat

/-- What a run of `onError` awaits. One that `threw` has left the handler without completing it. -/
inductive Stage where
  | readingSession
  | refreshing (refreshToken : String)
  | saving (refreshed : AppSession)
  | retrying (refreshed : AppSession)
  | clearing
  | threw

/-- Where `onError` first waits, unless it passes the error on at once. -/
def onError (error : DioError) : Option Stage :=
  if !error.options.needsAuth || error.options.retried || error.statusCode ≠ some 401 then none
  else some .readingSession

/-- A refresh that fails throws a `DioException`; one that succeeds has a body. -/
inductive RefreshAnswer where
  | failed
  | data (body : Json)

inductive RetryAnswer where
  | ok
  | failed (statusCode : Option Nat)

/-- What can happen on the client: a request of the app fails, or what the running handler awaits
comes in. -/
inductive Event where
  | fails (options : RequestOptions) (statusCode : Option Nat)
  | sessionRead (state storage : Option AppSession)
  | refreshed (answer : RefreshAnswer)
  | saved
  | retried (answer : RetryAnswer)
  | cleared

abbrev Client := HandlerQueue DioError Stage

/-- The error of the request that the running handler sent is queued behind the handler. -/
def queuedBehind (client : Client) (number : Nat) : Bool :=
  client.queued.any fun job => job.error.retryOf = some number

def step (client : Client) : Event → Option Client
  | .fails options statusCode => some (client.raise onError ⟨options, statusCode, none⟩)
  | .sessionRead state storage =>
    match client.running with
    | some ⟨_, .readingSession⟩ =>
      match state.or storage with
      | some session =>
        if session.refreshToken = "" then some (client.advance .clearing)
        else some (client.advance (.refreshing session.refreshToken))
      | none => some (client.advance .clearing)
    | _ => none
  | .refreshed answer =>
    match client.running with
    | some ⟨_, .refreshing _⟩ =>
      match answer with
      | .failed => some (client.advance .clearing)
      | .data body =>
        match AppSession.fromJson body with
        | some refreshed => some (client.advance (.saving refreshed))
        | none => some (client.advance .threw)
    | _ => none
  | .saved =>
    match client.running with
    | some ⟨_, .saving refreshed⟩ => some (client.advance (.retrying refreshed))
    | _ => none
  | .retried answer =>
    match client.running with
    | some ⟨job, .retrying _⟩ =>
      if queuedBehind client job.number then none else
        match answer with
        | .ok => some (client.complete onError)
        | .failed statusCode => some (client.raise onError
            ⟨{ job.error.options with retried := true }, statusCode, some job.number⟩)
    | _ => none
  | .cleared =>
    match client.running with
    | some ⟨_, .clearing⟩ => some (client.complete onError)
    | _ => none

/-- The running handler awaits a request whose own error is queued behind it. -/
def Deadlocked (client : Client) : Prop :=
  ∃ job refreshed, client.running = some ⟨job, .retrying refreshed⟩ ∧
    queuedBehind client job.number = true

/-- Nothing that was awaited is still to come in. -/
def Settled (client : Client) : Prop :=
  ∀ e, (∀ options statusCode, e ≠ .fails options statusCode) → step client e = none

/-- No deadlock; no handler completed twice; and once all is answered every handler has completed. -/
structure Orderly (client : Client) : Prop where
  free : ¬Deadlocked client
  once : ∀ n, client.completed.count n ≤ 1
  all : Settled client → ∀ n, n < client.raised → client.completed.count n = 1

/-- The answers that leave a handler uncompleted. -/
def Event.Strands : Event → Prop
  | .refreshed (.data body) => AppSession.fromJson body = none
  | .retried (.failed _) => True
  | _ => False

variable {client client' : Client} {e : Event} {events : List Event}

inductive Outcomes (client : Client) (e : Event) : Client → Prop
  | raised {error : DioError} : error.retryOf = none ∨ e.Strands →
      Outcomes client e (client.raise onError error)
  | advanced {stage : Stage} : stage ≠ .threw ∨ e.Strands → Outcomes client e (client.advance stage)
  | completed : client.running ≠ none → Outcomes client e (client.complete onError)

theorem step_cases (h : step client e = some client') : Outcomes client e client' := by
  cases e with
  | fails options statusCode => exact Option.some.inj h ▸ .raised (.inl rfl)
  | sessionRead state storage =>
    simp only [step] at h
    split at h
    next =>
      split at h
      next =>
        split at h
        next => exact Option.some.inj h ▸ .advanced (.inl nofun)
        next => exact Option.some.inj h ▸ .advanced (.inl nofun)
      next => exact Option.some.inj h ▸ .advanced (.inl nofun)
    next => simp at h
  | refreshed answer =>
    simp only [step] at h
    split at h
    next =>
      split at h
      next => exact Option.some.inj h ▸ .advanced (.inl nofun)
      next =>
        split at h
        next => exact Option.some.inj h ▸ .advanced (.inl nofun)
        next hbody => exact Option.some.inj h ▸ .advanced (.inr hbody)
    next => simp at h
  | saved =>
    simp only [step] at h
    split at h
    next => exact Option.some.inj h ▸ .advanced (.inl nofun)
    next => simp at h
  | retried answer =>
    simp only [step] at h
    split at h
    next job refreshed hrunning =>
      split at h
      next => simp at h
      next =>
        split at h
        next => exact Option.some.inj h ▸ .completed (by simp [hrunning])
        next => exact Option.some.inj h ▸ .raised (.inr trivial)
    next => simp at h
  | cleared =>
    simp only [step] at h
    split at h
    next hrunning => exact Option.some.inj h ▸ .completed (by simp [hrunning])
    next => simp at h

theorem custody_step (hc : client.Custody) (h : step client e = some client') :
    client'.Custody := by
  cases step_cases h with
  | raised => exact hc.raise _
  | advanced => exact hc.advance _
  | completed => exact hc.complete

theorem onError_stage {error : DioError} {stage : Stage} (h : onError error = some stage) :
    stage = .readingSession := by
  unfold onError at h
  split at h
  next => simp at h
  next => exact (Option.some.inj h).symm

/-- No error of a retry waits in the queue, and the running handler has not thrown. -/
structure Unstranded (client : Client) : Prop where
  custody : client.Custody
  queued : ∀ job ∈ client.queued, job.error.retryOf = none
  running : ∀ r, client.running = some r → r.stage ≠ .threw

theorem unstranded_empty : Unstranded .empty where
  custody := HandlerQueue.custody_empty
  queued := by simp [HandlerQueue.empty]
  running := by simp [HandlerQueue.empty]

theorem unstranded_step (hu : Unstranded client) (h : step client e = some client')
    (hstrands : ¬e.Strands) : Unstranded client' := by
  have hcustody := custody_step hu.custody h
  cases step_cases h with
  | raised herror =>
    refine ⟨hcustody, ?_, ?_⟩
    · intro job hjob
      rcases HandlerQueue.raise_queued hjob with hmem | rfl
      · exact hu.queued job hmem
      · exact herror.resolve_right hstrands
    · intro r hr
      rcases HandlerQueue.raise_running hr with hr | hstart
      · exact hu.running r hr
      · rw [onError_stage hstart]
        exact nofun
  | advanced hstage =>
    refine ⟨hcustody, hu.queued, ?_⟩
    intro r hr
    obtain ⟨before, _, rfl⟩ := Option.map_eq_some_iff.mp hr
    exact hstage.resolve_right hstrands
  | completed hbusy =>
    refine ⟨hcustody, fun job hjob => hu.queued job (HandlerQueue.complete_queued hjob), ?_⟩
    intro r hr
    rw [onError_stage (HandlerQueue.complete_running hbusy hr)]
    exact nofun

theorem Unstranded.free (hu : Unstranded client) : ¬Deadlocked client := by
  intro ⟨job, refreshed, _, hbehind⟩
  obtain ⟨waiting, hwaiting, hretry⟩ := List.any_eq_true.mp hbehind
  simp [hu.queued waiting hwaiting] at hretry

theorem Unstranded.idle (hu : Unstranded client) (hsettled : Settled client) :
    client.running = none := by
  match hr : client.running with
  | none => rfl
  | some ⟨job, .readingSession⟩ =>
    have hread := hsettled (.sessionRead none none) nofun
    simp [step, hr] at hread
  | some ⟨job, .refreshing refreshToken⟩ =>
    have hrefreshed := hsettled (.refreshed .failed) nofun
    simp [step, hr] at hrefreshed
  | some ⟨job, .saving refreshed⟩ =>
    have hsaved := hsettled .saved nofun
    simp [step, hr] at hsaved
  | some ⟨job, .retrying refreshed⟩ =>
    have hretried := hsettled (.retried .ok) nofun
    have hbehind : queuedBehind client job.number = false := by
      by_contra hbehind
      exact hu.free ⟨job, refreshed, hr, by simpa using hbehind⟩
    simp [step, hr, hbehind] at hretried
  | some ⟨job, .clearing⟩ =>
    have hcleared := hsettled .cleared nofun
    simp [step, hr] at hcleared
  | some ⟨job, .threw⟩ => exact absurd rfl (hu.running _ hr)

theorem Unstranded.orderly (hu : Unstranded client) : Orderly client where
  free := hu.free
  once := hu.custody.completed_once
  all := fun hsettled _ hn => hu.custody.all_completed (hu.idle hsettled) hn

/-- A handler that threw completes no more, and the queue behind it waits for ever. -/
theorem threw_settled {job : Job DioError} (hr : client.running = some ⟨job, .threw⟩) :
    Settled client := by
  intro e happ
  cases e with
  | fails options statusCode => exact absurd rfl (happ options statusCode)
  | sessionRead state storage => simp [step, hr]
  | refreshed answer => simp [step, hr]
  | saved => simp [step, hr]
  | retried answer => simp [step, hr]
  | cleared => simp [step, hr]

theorem strands_disorderly (hc : client.Custody) (h : step client e = some client')
    (hstrands : e.Strands) : ¬Orderly client' := by
  intro horderly
  have hc' := custody_step hc h
  cases e with
  | refreshed answer =>
    cases answer with
    | failed => exact hstrands
    | data body =>
      have hbody : AppSession.fromJson body = none := hstrands
      simp only [step] at h
      split at h
      next job refreshToken hrunning =>
        simp only [hbody, Option.some.injEq] at h
        have hr : client'.running = some ⟨job, .threw⟩ := by
          simp [← h, HandlerQueue.advance, hrunning]
        obtain ⟨hraised, hopen⟩ := hc'.running_open hr
        have hcompleted := horderly.all (threw_settled hr) job.number hraised
        exact absurd (hopen.symm.trans hcompleted) Nat.zero_ne_one
      next => simp at h
  | retried answer =>
    cases answer with
    | ok => exact hstrands
    | failed statusCode =>
      simp only [step] at h
      split at h
      next job refreshed hrunning =>
        split at h
        next => simp at h
        next =>
          refine horderly.free ⟨job, refreshed, ?_, ?_⟩
          · simp [← Option.some.inj h, HandlerQueue.raise, hrunning]
          · simp [← Option.some.inj h, HandlerQueue.raise, hrunning, queuedBehind]
      next => simp at h
  | fails options statusCode => exact hstrands
  | sessionRead state storage => exact hstrands
  | saved => exact hstrands
  | cleared => exact hstrands

/-- Every state of a run is orderly exactly if no retry in it fails and no refresh succeeds with a
body that is not a session. -/
theorem handlers_complete_iff (events : List Event) (client : Client)
    (hrun : runEvents step .empty events = some client) :
    (∀ pre, pre <+: events → ∀ c, runEvents step .empty pre = some c → Orderly c) ↔
      ∀ e ∈ events, ¬e.Strands := by
  refine ⟨?_, ?_⟩
  · intro horderly e he hstrands
    obtain ⟨pre, post, rfl⟩ := List.append_of_mem he
    obtain ⟨before, hbefore, hrest⟩ := runEvents_split hrun
    obtain ⟨after, hafter, _⟩ := runEvents_cons hrest
    have hc : before.Custody :=
      runEvents_keeps (fun _ _ _ => custody_step) HandlerQueue.custody_empty hbefore
    refine strands_disorderly hc hafter hstrands ?_
    refine horderly (pre ++ [e]) ⟨post, by simp⟩ after ?_
    simp [runEvents_append, hbefore, runEvents, hafter]
  · intro hnone pre hpre c hc
    have havoids : Avoids step (fun _ e => e.Strands) .empty pre :=
      avoids_of_forall fun e he _ => hnone e (hpre.subset he)
    exact (avoids_keeps (fun _ _ _ => unstranded_step) unstranded_empty havoids hc).orderly

def devicesRequest : RequestOptions := ⟨"/devices", none, false⟩

def refreshedBody : Json :=
  .object [("accessToken".toList, .string "access-2".toList),
    ("refreshToken".toList, .string "refresh-2".toList)]

def refreshedRun (answer : RetryAnswer) : List Event :=
  [.fails devicesRequest (some 401), .sessionRead (some ⟨"access-1", "refresh-1", "u", "PARENT"⟩) none,
    .refreshed (.data refreshedBody), .saved, .retried answer]

theorem handlers_complete_iff_refreshed :
    ∃ client, runEvents step .empty (refreshedRun .ok) = some client ∧
      ∀ pre, pre <+: refreshedRun .ok → ∀ c, runEvents step .empty pre = some c → Orderly c := by
  refine ⟨_, rfl, (handlers_complete_iff (refreshedRun .ok) _ rfl).mpr ?_⟩
  intro e he
  simp only [refreshedRun, List.mem_cons, List.not_mem_nil, or_false] at he
  rcases he with rfl | rfl | rfl | rfl | rfl
  · exact id
  · exact id
  · change AppSession.fromJson refreshedBody ≠ none
    decide
  · exact id
  · exact id

/-- The retry gets another 401: its error waits behind the handler that awaits the retry. -/
theorem retry_deadlocks :
    ¬∀ events client, runEvents step .empty events = some client → Orderly client := by
  intro h
  have horderly := h (refreshedRun (.failed (some 401))) _ rfl
  exact horderly.free ⟨⟨0, ⟨devicesRequest, some 401, none⟩⟩, ⟨"access-2", "refresh-2", "", "PARENT"⟩,
    rfl, by decide⟩

end ParentApp

end GuardTime
