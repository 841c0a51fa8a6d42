import GuardTime.BackendClient

namespace GuardTime

namespace Router

open Backend

inductive ResultData where
  | result (result : CommandResult)
  | error (message : String)

/-- The body of a request to `/gateway/router-commands/ack`. -/
structure Ack where
  commandId : String
  success : Bool
  resultData : ResultData

/-- The world, and the acknowledgements sent for the command at hand. -/
structure Outbox (σ : Type) where
  world : σ
  sent : List Ack

/-- What happened for one command: how its execution ended, and every acknowledgement sent. -/
structure Handled where
  command : RouterCommand
  execution : Except String CommandResult
  acks : List Ack

/-- An execution that throws is no success. -/
def Handled.verdict (handled : Handled) : Bool :=
  match handled.execution with
  | .ok result => result.success
  | .error _ => false

def Handled.Truthful (handled : Handled) : Prop :=
  ∀ ack ∈ handled.acks, ack.commandId = handled.command.id ∧ ack.success = handled.verdict

section Sync

variable {σ : Type}

abbrev Transport (σ : Type) := Ack → Fetch σ Unit

def send (transport : Transport σ) (ack : Ack) : Fetch (Outbox σ) Unit := fun s =>
  let r := transport ack s.world
  (r.1, ⟨r.2, s.sent ++ [ack]⟩)

def ackRouterCommand (transport : Transport σ) (ack : Ack) (s : Outbox σ) :
    Except String Unit × Outbox σ := request (send transport ack) s

def resultAck (command : RouterCommand) (result : CommandResult) : Ack :=
  ⟨command.id, result.success, .result result⟩

def errorAck (command : RouterCommand) (message : String) : Ack := ⟨command.id, false, .error message⟩

/-- The body of the loop of `sync`; what its last acknowledgement throws is dropped. -/
def handle (env : Environment σ) (transport : Transport σ)
    (routerConnection : Option RouterConnection) (command : RouterCommand) (s : σ) : Handled × σ :=
  match executeCommand env routerConnection command s with
  | (.ok result, s) =>
    match ackRouterCommand transport (resultAck command result) ⟨s, []⟩ with
    | (.ok _, s) => (⟨command, .ok result, s.sent⟩, s.world)
    | (.error message, s) =>
      let s := (ackRouterCommand transport (errorAck command message) s).2
      (⟨command, .ok result, s.sent⟩, s.world)
  | (.error message, s) =>
    let s := (ackRouterCommand transport (errorAck command message) ⟨s, []⟩).2
    (⟨command, .error message, s.sent⟩, s.world)

def handleAll (env : Environment σ) (transport : Transport σ)
    (routerConnection : Option RouterConnection) : List RouterCommand → σ → List Handled × σ
  | [], s => ([], s)
  | command :: rest, s =>
    let first := handle env transport routerConnection command s
    let later := handleAll env transport routerConnection rest first.2
    (first.1 :: later.1, later.2)

/-- `sync`, after what `getRouterCommands` gave. -/
def sync (env : Environment σ) (transport : Transport σ)
    (polled : Except String (List RouterCommand × Option RouterConnection)) (s : σ) :
    Except String (List Handled) × σ :=
  match polled with
  | .error message => (.error message, s)
  | .ok (commands, routerConnection) =>
    let r := handleAll env transport routerConnection commands s
    (.ok r.1, r.2)

/-- The execution succeeds, and the request that says so is rejected. -/
def AckRejected (env : Environment σ) (transport : Transport σ)
    (routerConnection : Option RouterConnection) (command : RouterCommand) (s : σ) : Prop :=
  ∃ result s', executeCommand env routerConnection command s = (.ok result, s') ∧
    result.success = true ∧
    ∃ message, (ackRouterCommand transport (resultAck command result) ⟨s', []⟩).1 = .error message

theorem ackRouterCommand_mem {transport : Transport σ} {ack : Ack} {s : Outbox σ} {a : Ack}
    (h : a ∈ (ackRouterCommand transport ack s).2.sent) : a ∈ s.sent ∨ a = ack := by
  have hinv : ∀ o : Outbox σ, (∀ a ∈ o.sent, a ∈ s.sent ∨ a = ack) →
      ∀ a ∈ (send transport ack o).2.sent, a ∈ s.sent ∨ a = ack := by
    intro o ho a ha
    rcases List.mem_append.mp ha with ha | ha
    · exact ho a ha
    · exact Or.inr (by simpa using ha)
  exact requestWith_invariant hinv 1 (fun a ha => Or.inl ha) a h

theorem ackRouterCommand_sends (transport : Transport σ) (ack : Ack) (s : Outbox σ) :
    ack ∈ (ackRouterCommand transport ack s).2.sent := by
  have hsend : ∀ o : Outbox σ, ack ∈ (send transport ack o).2.sent := fun o => by simp [send]
  exact requestWith_establishes (I := fun o => ack ∈ o.sent) hsend 1 s

theorem handle_truthful_iff (env : Environment σ) (transport : Transport σ)
    (routerConnection : Option RouterConnection) (command : RouterCommand) (s : σ) :
    (handle env transport routerConnection command s).1.Truthful ↔
      ¬AckRejected env transport routerConnection command s := by
  unfold handle AckRejected
  cases hexec : executeCommand env routerConnection command s with
  | mk execution s₁ =>
    cases execution with
    | error message =>
      refine iff_of_true ?_ ?_
      · intro ack hack
        rcases ackRouterCommand_mem hack with hin | rfl
        · simp at hin
        · exact ⟨rfl, rfl⟩
      · intro h
        obtain ⟨result, s', h, _⟩ := h
        simp at h
    | ok result =>
      simp only
      cases hfirst : ackRouterCommand transport (resultAck command result) ⟨s₁, []⟩ with
      | mk answer s₂ =>
        have hsent : ∀ a ∈ s₂.sent, a = resultAck command result := by
          intro a ha
          have hin : a ∈ (ackRouterCommand transport (resultAck command result) ⟨s₁, []⟩).2.sent := by
            rwa [hfirst]
          simpa using ackRouterCommand_mem hin
        cases answer with
        | ok _ =>
          refine iff_of_true ?_ ?_
          · intro a ha
            rw [hsent a ha]
            exact ⟨rfl, rfl⟩
          · intro h
            obtain ⟨_, _, h, _, message, hrejected⟩ := h
            obtain ⟨hr, rfl⟩ := Prod.mk.inj h
            cases Except.ok.inj hr
            simp [hfirst] at hrejected
        | error message =>
          simp only
          refine ⟨?_, ?_⟩
          · rintro htrue ⟨_, _, h, hsuccess, _⟩
            obtain ⟨hr, rfl⟩ := Prod.mk.inj h
            cases Except.ok.inj hr
            have hfalse := (htrue _ (ackRouterCommand_sends transport (errorAck command message) s₂)).2
            simp [errorAck, Handled.verdict, hsuccess] at hfalse
          · intro hnot a ha
            have hfailed : result.success = false := by
              by_contra hne
              exact hnot ⟨result, s₁, rfl, by simpa using hne, message, by rw [hfirst]⟩
            rcases ackRouterCommand_mem ha with hin | rfl
            · rw [hsent a hin]
              exact ⟨rfl, rfl⟩
            · exact ⟨rfl, by simp [errorAck, Handled.verdict, hfailed]⟩

theorem handle_command (env : Environment σ) (transport : Transport σ)
    (routerConnection : Option RouterConnection) (command : RouterCommand) (s : σ) :
    (handle env transport routerConnection command s).1.command = command := by
  unfold handle
  split
  next =>
    split
    next => rfl
    next => rfl
  next => rfl

theorem handleAll_commands (env : Environment σ) (transport : Transport σ)
    (routerConnection : Option RouterConnection) (commands : List RouterCommand) (s : σ) :
    (handleAll env transport routerConnection commands s).1.map Handled.command = commands := by
  induction commands generalizing s with
  | nil => rfl
  | cons command rest ih => simp only [handleAll, List.map_cons, handle_command, ih]

theorem handleAll_truthful_iff (env : Environment σ) (transport : Transport σ)
    (routerConnection : Option RouterConnection) (commands : List RouterCommand) (s : σ) :
    (∀ handled ∈ (handleAll env transport routerConnection commands s).1, handled.Truthful) ↔
      ∀ i command, commands[i]? = some command → ¬AckRejected env transport routerConnection command
        (handleAll env transport routerConnection (commands.take i) s).2 := by
  induction commands generalizing s with
  | nil => simp [handleAll]
  | cons command rest ih =>
    simp only [handleAll, List.forall_mem_cons, handle_truthful_iff, ih]
    refine ⟨?_, ?_⟩
    · rintro ⟨hfirst, hlater⟩ i c hc
      cases i with
      | zero => cases Option.some.inj hc; exact hfirst
      | succ i => exact hlater i c hc
    · intro h
      exact ⟨h 0 command rfl, fun i c hc => h (i + 1) c hc⟩

/-- Every acknowledgement sent for a command carries what its execution returned exactly when no
command succeeds whose first acknowledgement is rejected. -/
theorem sync_truthful_iff (env : Environment σ) (transport : Transport σ)
    (routerConnection : Option RouterConnection) (commands : List RouterCommand) (s : σ) :
    (∀ log, (sync env transport (.ok (commands, routerConnection)) s).1 = .ok log →
        ∀ handled ∈ log, handled.Truthful) ↔
      ∀ i command, commands[i]? = some command → ¬AckRejected env transport routerConnection command
        (handleAll env transport routerConnection (commands.take i) s).2 := by
  rw [← handleAll_truthful_iff]
  simp only [sync, Except.ok.injEq, forall_eq']

end Sync

def lostResponses : Transport Standing := fun _ s =>
  (.error ⟨"TypeError", some "ECONNRESET", "socket hang up"⟩, s)

def blockMacCommand : RouterCommand := ⟨"cmd-1", .BLOCK_MAC, some "dev-1", pauseOrBlock⟩

/-- The device is blocked, reported as blocked and then as not blocked. -/
theorem lostResponses_contradict :
    ¬∀ log, (sync sampleEnvironment lostResponses (.ok ([blockMacCommand], some sampleConnection))
        clearRouter).1 = .ok log → ∀ handled ∈ log, handled.Truthful := by
  intro h
  have hfalse := (h _ rfl _ List.mem_cons_self (errorAck blockMacCommand "socket hang up")
    (ackRouterCommand_sends lostResponses _ _)).2
  exact absurd hfalse (by decide)

end Router

end GuardTime
