import GuardTime.RouterBlocking

namespace GuardTime

namespace Backend

structure Response (β : Type) where
  status : Nat
  text : String
  /-- The parsed body with its `message`, or what the parser throws; `{}` for an empty text. -/
  parsed : Except String (Option String × β)

def Response.ok {β : Type} (response : Response β) : Bool :=
  200 ≤ response.status && response.status ≤ 299

structure FetchError where
  name : String
  code : Option String
  message : String

/-- One `fetch`, with the reading of its body. -/
abbrev Fetch (σ β : Type) := σ → Except FetchError (Response β) × σ

section Request

variable {σ β : Type}

def retriesStatus (status : Nat) : Bool := status = 502 || status = 503 || status = 504

def FetchError.retries (err : FetchError) : Bool :=
  err.name = "AbortError" || err.code = some "ECONNRESET" || err.code = some "ETIMEDOUT"

def readPayload (response : Response β) : Except String β :=
  match response.parsed with
  | .error message => .error message
  | .ok (message, payload) =>
    if response.ok then .ok payload
    else .error ("backend " ++ toString response.status ++ ": " ++ (truthy message).getD response.text)

/-- `retriesLeft` is 1 on the first attempt and 0 on the second. -/
def requestWith (fetch : Fetch σ β) : Nat → σ → Except String β × σ
  | 0, s =>
    match fetch s with
    | (.ok response, s) => (readPayload response, s)
    | (.error err, s) => (.error err.message, s)
  | retriesLeft + 1, s =>
    match fetch s with
    | (.ok response, s) =>
      if retriesStatus response.status then requestWith fetch retriesLeft s
      else (readPayload response, s)
    | (.error err, s) =>
      if err.retries then requestWith fetch retriesLeft s else (.error err.message, s)

def request (fetch : Fetch σ β) (s : σ) : Except String β × σ := requestWith fetch 1 s

theorem requestWith_invariant {fetch : Fetch σ β} {I : σ → Prop}
    (h : ∀ s, I s → I (fetch s).2) (retriesLeft : Nat) {s : σ} (hs : I s) :
    I (requestWith fetch retriesLeft s).2 := by
  induction retriesLeft generalizing s with
  | zero =>
    have hf := h s hs
    unfold requestWith
    split
    next hr => rwa [hr] at hf
    next hr => rwa [hr] at hf
  | succ retriesLeft ih =>
    have hf := h s hs
    unfold requestWith
    split
    next hr =>
      rw [hr] at hf
      split
      next => exact ih hf
      next => exact hf
    next hr =>
      rw [hr] at hf
      split
      next => exact ih hf
      next => exact hf

/-- What every `fetch` establishes holds after a request, which fetches at least once. -/
theorem requestWith_establishes {fetch : Fetch σ β} {I : σ → Prop} (h : ∀ s, I (fetch s).2)
    (retriesLeft : Nat) (s : σ) : I (requestWith fetch retriesLeft s).2 := by
  have hf := h s
  cases retriesLeft with
  | zero =>
    unfold requestWith
    split
    next hr => rwa [hr] at hf
    next hr => rwa [hr] at hf
  | succ retriesLeft =>
    unfold requestWith
    split
    next hr =>
      rw [hr] at hf
      split
      next => exact requestWith_invariant (fun s _ => h s) retriesLeft hf
      next => exact hf
    next hr =>
      rw [hr] at hf
      split
      next => exact requestWith_invariant (fun s _ => h s) retriesLeft hf
      next => exact hf

end Request

end Backend

end GuardTime
