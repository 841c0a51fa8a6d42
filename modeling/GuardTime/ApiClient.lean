import GuardTime.AuthInterceptor
import GuardTime.Policy

namespace GuardTime

namespace ParentApp

inductive HttpMethod where
  | GET
  | POST
  | PATCH
  | DELETE
deriving DecidableEq

structure ApiRequest where
  method : HttpMethod
  path : String
  data : Option Json
  queryParameters : Option Json
  requiresAuth : Bool

namespace ApiClient

/-- How a request ends for the client; a timeout or a lost connection has no status. -/
inductive Answer (α : Type) where
  | ok (data : α)
  | failed (statusCode : Option Nat)

/-- A request on its way: whether the server applied it, and what the client sees. -/
structure Exchange (α : Type) where
  committed : Bool
  answer : Answer α

/-- How the handler of a 401 gets on with its refresh. -/
inductive Refresh where
  | noSession
  | failed
  | malformed
  | refreshed

/-- What the server, a proxy before it and the session do to the requests of one call, each after
those before it. -/
structure World (α : Type) where
  send : ApiRequest → List (Exchange α) → Exchange α
  refresh : List (Exchange α) → Refresh

/-- What `_dio.request` comes to. One that is `stranded` never completes: its handler threw, or
waits for a request whose own error is queued behind it. -/
inductive DioResult (α : Type) where
  | ok (data : α)
  | failed (statusCode : Option Nat)
  | stranded

inductive Outcome (α : Type) where
  | returned (data : α)
  | threw (statusCode : Option Nat)
  | pending

def maxRetries : Nat := 2

def retryableStatuses : List Nat := [500, 502, 503]

section Calls

variable {α : Type} (world : World α) (request : ApiRequest)

/-- `_dio.request` with the interceptor, which sends the request again after a refresh. -/
def dioRequest (sent : List (Exchange α)) : List (Exchange α) × DioResult α :=
  let exchange := world.send request sent
  let sent := sent ++ [exchange]
  match exchange.answer with
  | .ok data => (sent, .ok data)
  | .failed statusCode =>
    if request.requiresAuth = false ∨ statusCode ≠ some 401 then (sent, .failed statusCode)
    else
      match world.refresh sent with
      | .noSession => (sent, .failed statusCode)
      | .failed => (sent, .failed statusCode)
      | .malformed => (sent, .stranded)
      | .refreshed =>
        let retry := world.send request sent
        match retry.answer with
        | .ok data => (sent ++ [retry], .ok data)
        | .failed _ => (sent ++ [retry], .stranded)

def requestFrom : Nat → List (Exchange α) → List (Exchange α) × Outcome α
  | 0, sent =>
    match dioRequest world request sent with
    | (sent, .ok data) => (sent, .returned data)
    | (sent, .failed statusCode) => (sent, .threw statusCode)
    | (sent, .stranded) => (sent, .pending)
  | retriesLeft + 1, sent =>
    match dioRequest world request sent with
    | (sent, .ok data) => (sent, .returned data)
    | (sent, .failed statusCode) =>
      if statusCode.any (· ∈ retryableStatuses) then requestFrom retriesLeft sent
      else (sent, .threw statusCode)
    | (sent, .stranded) => (sent, .pending)

/-- One call: the requests that were sent for it, and what the app gets. -/
def call : List (Exchange α) × Outcome α := requestFrom world request maxRetries []

def applied (sent : List (Exchange α)) : Nat := sent.countP Exchange.committed

end Calls

def get (path : String) (queryParameters : Option Json) (requiresAuth : Bool) : ApiRequest :=
  ⟨.GET, path, none, queryParameters, requiresAuth⟩

def post (path : String) (data queryParameters : Option Json) (requiresAuth : Bool) : ApiRequest :=
  ⟨.POST, path, data, queryParameters, requiresAuth⟩

def patch (path : String) (data : Option Json) (requiresAuth : Bool) : ApiRequest :=
  ⟨.PATCH, path, data, none, requiresAuth⟩

def delete (path : String) (data : Option Json) (requiresAuth : Bool) : ApiRequest :=
  ⟨.DELETE, path, data, none, requiresAuth⟩

end ApiClient

/-- `{...}..removeWhere((key, value) => value == null || value == '')`. -/
def withoutEmpty (fields : List (String × Option String)) : Json :=
  .object (fields.filterMap fun field =>
    (truthy field.2).map fun value => (field.1.toList, .string value.toList))

def DevicesRepository.addDevice (childId name type controlMethod : String) (platform : Option String) :
    ApiRequest :=
  ApiClient.post "/devices" (some (withoutEmpty [("childId", some childId), ("name", some name),
    ("type", some type), ("platform", platform), ("controlMethod", some controlMethod)])) none true

namespace ApiClient

variable {α : Type} (world : World α) (request : ApiRequest)

/-- The answer to this request, sent after those before it, has the session refreshed. -/
def Refreshes (before : List (Exchange α)) (exchange : Exchange α) : Prop :=
  request.requiresAuth = true ∧ exchange.answer = .failed (some 401) ∧
    world.refresh (before ++ [exchange]) = .refreshed

/-- The request goes out again after this one: it failed in passing, or the session was refreshed. -/
def Resends (before : List (Exchange α)) (exchange : Exchange α) : Prop :=
  (∃ status ∈ retryableStatuses, exchange.answer = .failed (some status)) ∨
    Refreshes world request before exchange

/-- All that one attempt can come to: one request, or a second one after a refresh, and then no
failure that `_request` could retry. -/
theorem dioRequest_cases (sent : List (Exchange α)) :
    (∃ exchange, (dioRequest world request sent).1 = sent ++ [exchange] ∧
      ∀ status, (dioRequest world request sent).2 = .failed status →
        exchange.answer = .failed status) ∨
    ∃ exchange retry, (dioRequest world request sent).1 = sent ++ [exchange, retry] ∧
      Refreshes world request sent exchange ∧
        ∀ status, (dioRequest world request sent).2 ≠ .failed status := by
  unfold dioRequest
  simp only
  split
  next data hanswer => exact Or.inl ⟨_, rfl, nofun⟩
  next statusCode hanswer =>
    have hsame : ∀ status, DioResult.failed (α := α) statusCode = .failed status →
        (world.send request sent).answer = .failed status := by
      intro status heq
      rw [hanswer, DioResult.failed.inj heq]
    split
    next => exact Or.inl ⟨_, rfl, hsame⟩
    next hrefreshes =>
      obtain ⟨hauth, hstatus⟩ := not_or.mp hrefreshes
      have hauth : request.requiresAuth = true := by simpa using hauth
      have hstatus : statusCode = some 401 := not_not.mp hstatus
      split
      next => exact Or.inl ⟨_, rfl, hsame⟩
      next => exact Or.inl ⟨_, rfl, hsame⟩
      next => exact Or.inl ⟨_, rfl, nofun⟩
      next hrefreshed =>
        rw [hstatus] at hanswer
        have hrefresh : Refreshes world request sent (world.send request sent) :=
          ⟨hauth, hanswer, hrefreshed⟩
        split
        next => exact Or.inr ⟨_, _, List.append_assoc .., hrefresh, nofun⟩
        next => exact Or.inr ⟨_, _, List.append_assoc .., hrefresh, nofun⟩

/-- What is sent before the last request of a call with some retries left. -/
structure Resent (sent front : List (Exchange α)) (retriesLeft : Nat) : Prop where
  resends : ∀ before exchange after, front = before ++ exchange :: after →
    Resends world request (sent ++ before) exchange
  length_le : front.length ≤ retriesLeft + 1
  refreshes : retriesLeft < front.length → ∃ before exchange, front = before ++ [exchange] ∧
    Refreshes world request (sent ++ before) exchange

variable {world request}

theorem resent_nil (sent : List (Exchange α)) (retriesLeft : Nat) :
    Resent world request sent [] retriesLeft := by
  refine ⟨?_, Nat.zero_le _, nofun⟩
  intro before exchange after h
  simp at h

theorem resent_cons {sent front : List (Exchange α)} {retriesLeft : Nat} {exchange : Exchange α}
    (hfirst : Resends world request sent exchange)
    (h : Resent world request (sent ++ [exchange]) front retriesLeft) :
    Resent world request sent (exchange :: front) (retriesLeft + 1) := by
  refine ⟨?_, Nat.succ_le_succ h.length_le, ?_⟩
  · intro before other after hsplit
    cases before with
    | nil =>
      cases (List.cons.inj hsplit).1
      rwa [List.append_nil]
    | cons first before =>
      obtain ⟨rfl, hrest⟩ := List.cons.inj hsplit
      have hother := h.resends before other after hrest
      rwa [List.append_assoc] at hother
  · intro hlength
    obtain ⟨before, other, rfl, hother⟩ := h.refreshes (Nat.lt_of_succ_lt_succ hlength)
    refine ⟨exchange :: before, other, rfl, ?_⟩
    rwa [List.append_assoc] at hother

variable (world request)

theorem dioRequest_sent (sent : List (Exchange α)) (retriesLeft : Nat) :
    ∃ front last, (dioRequest world request sent).1 = sent ++ (front ++ [last]) ∧
      Resent world request sent front retriesLeft := by
  rcases dioRequest_cases world request sent with ⟨exchange, hsent, -⟩ |
    ⟨exchange, retry, hsent, hrefresh, -⟩
  · exact ⟨[], exchange, hsent, resent_nil sent retriesLeft⟩
  · refine ⟨[exchange], retry, hsent, ?_, ?_, ?_⟩
    · intro before other after hsplit
      obtain ⟨rfl, hrest⟩ | ⟨tail, rfl, hrest⟩ := List.cons_eq_append_iff.mp hsplit
      · cases (List.cons.inj hrest).1
        rw [List.append_nil]
        exact Or.inr hrefresh
      · simp at hrest
    · simp
    · exact fun _ => ⟨[], exchange, rfl, by rwa [List.append_nil]⟩

/-- Every request of a call but its last is one after which it is sent again, and only a refresh makes
them more than the retries. -/
theorem requestFrom_sent (retriesLeft : Nat) (sent : List (Exchange α)) :
    ∃ front last, (requestFrom world request retriesLeft sent).1 = sent ++ (front ++ [last]) ∧
      Resent world request sent front retriesLeft := by
  induction retriesLeft generalizing sent with
  | zero =>
    have hsent := dioRequest_sent world request sent 0
    unfold requestFrom
    split
    next hdio => rwa [hdio] at hsent
    next hdio => rwa [hdio] at hsent
    next hdio => rwa [hdio] at hsent
  | succ retriesLeft ih =>
    have hsent := dioRequest_sent world request sent (retriesLeft + 1)
    unfold requestFrom
    split
    next hdio => rwa [hdio] at hsent
    next sent' statusCode hdio =>
      rw [hdio] at hsent
      split
      next hretries =>
        obtain ⟨status, rfl, hmem⟩ := (Option.any_eq_true _ _).mp hretries
        rcases dioRequest_cases world request sent with ⟨exchange, hone, hfailed⟩ |
          ⟨_, _, -, -, hnever⟩
        · rw [hdio] at hone hfailed
          obtain rfl : sent' = sent ++ [exchange] := hone
          obtain ⟨front, last, hmore, hresent⟩ := ih (sent ++ [exchange])
          refine ⟨exchange :: front, last, ?_, resent_cons ?_ hresent⟩
          · rw [hmore, List.append_assoc]
            rfl
          · exact Or.inl ⟨status, by simpa using hmem, hfailed _ rfl⟩
        · rw [hdio] at hnever
          exact absurd rfl (hnever _)
      next => exact hsent
    next hdio => rwa [hdio] at hsent

/-- One call sends its request again only after one that failed in passing, or after a refresh of the
session; at most three times, and four only with a refresh; and it is applied once at most, unless
a request after which it is sent again was applied all the same. -/
theorem call_applied (world : World α) (request : ApiRequest) :
    ∃ front last, (call world request).1 = front ++ [last] ∧
      (∀ before exchange after, front = before ++ exchange :: after →
        Resends world request before exchange) ∧
      ((∀ exchange ∈ front, exchange.committed = false) → applied (call world request).1 ≤ 1) ∧
      (call world request).1.length ≤ 4 ∧
      (3 < (call world request).1.length → ∃ before exchange, front = before ++ [exchange] ∧
        Refreshes world request before exchange) := by
  obtain ⟨front, last, hsent, hresends, hlength, hrefreshes⟩ :=
    requestFrom_sent world request maxRetries []
  have hsent : (call world request).1 = front ++ [last] := hsent
  have hcount : (call world request).1.length = front.length + 1 := by
    rw [hsent, List.length_append, List.length_singleton]
  have hretries : maxRetries = 2 := rfl
  refine ⟨front, last, hsent, hresends, ?_, by omega, fun h => hrefreshes (by omega)⟩
  intro hlost
  have hnone : applied front = 0 := List.countP_eq_zero.mpr fun exchange hmem => by
    rw [hlost exchange hmem]
    exact Bool.false_ne_true
  have hlast : applied [last] ≤ 1 := List.countP_le_length
  have hboth : applied (front ++ [last]) = applied front + applied [last] := List.countP_append
  rw [hsent]
  omega

/-- A proxy that answers 502 to a request that got through, and lets the next one pass. -/
def overloadedProxy : World Unit where
  send _ sent := if sent.isEmpty then ⟨true, .failed (some 502)⟩ else ⟨true, .ok ()⟩
  refresh _ := .noSession

theorem addDevice_applied_twice :
    ¬∀ (world : World Unit) (request : ApiRequest), request.method ≠ .GET →
      applied (call world request).1 ≤ 1 := by
  intro h
  have htwice := h overloadedProxy (DevicesRepository.addDevice "child-1" "Console" "CONSOLE" "DNS" none)
    nofun
  have hcount : applied (call overloadedProxy
      (DevicesRepository.addDevice "child-1" "Console" "CONSOLE" "DNS" none)).1 = 2 := rfl
  omega

end ApiClient

end ParentApp

end GuardTime
