import GuardTime.PairingWizard

namespace GuardTime

namespace ParentApp

namespace PairingWizard

def Waiting (s : State) : Prop := s.mounted = true ∧ s.testPhase = .waitingForConfirmation

/-- No poll completes at or after the time limit with the wizard still waiting. -/
def EndsInTime (s₀ : State) (es : List Event) : Prop :=
  ∀ before timer status rest s s', es = before ++ .statusDone timer status :: rest →
    runEvents step s₀ before = some s → step s (.statusDone timer status) = some s' →
      pollTimeout ≤ s.pollElapsedSeconds → ¬Waiting s'

/-- A status request throws at or after the time limit, while the wizard waits. -/
def LateFailure (s : State) : Event → Prop
  | .statusDone timer none =>
    timer ∈ s.requests ∧ pollTimeout ≤ s.pollElapsedSeconds ∧ Waiting s
  | _ => False

variable {s s' : State} {timer : PollTimer}

/-- A request that throws leaves all but itself as it was: the handler returns before the limit is
looked at. -/
theorem statusDone_throws (hmem : timer ∈ s.requests) :
    step s (.statusDone timer none) = some { s with requests := s.requests.erase timer } := by
  simp only [step]
  rw [if_neg (not_not.mpr hmem)]
  rfl

theorem verdict_late {elapsed : Nat} (h : pollTimeout ≤ elapsed) (status : PairingStatus) :
    ∃ phase message, verdict elapsed status = some (phase, message) := by
  unfold verdict
  split
  next => exact ⟨_, _, rfl⟩
  next =>
    split
    next => exact ⟨_, _, rfl⟩
    next =>
      split
      next => exact ⟨_, _, rfl⟩
      next => exact ⟨_, _, rfl⟩

theorem statusDone_decides {status : PairingStatus} (hlate : pollTimeout ≤ s.pollElapsedSeconds)
    (h : step s (.statusDone timer (some status)) = some s') : ¬Waiting s' := by
  rintro ⟨hmounted, hphase⟩
  obtain ⟨phase, message, hverdict⟩ := verdict_late hlate status
  simp only [step] at h
  split at h
  next => cases h
  next =>
    split at h
    next hnone =>
      obtain rfl := Option.some.inj h
      have hstatus : (some status).filter (fun _ => s.mounted) = some status := by
        simpa using hmounted
      rw [hstatus, Option.bind_some, hverdict] at hnone
      cases hnone
    next reached message' hsome =>
      obtain rfl := Option.some.inj h
      obtain ⟨found, -, hfound⟩ := Option.bind_eq_some_iff.mp hsome
      have hphase : reached = .waitingForConfirmation := hphase
      rcases verdict_phase hfound with hreached | hreached | hreached
      · cases hphase.symm.trans hreached
      · cases hphase.symm.trans hreached
      · cases hphase.symm.trans hreached

/-- A poll completes late with the wizard waiting exactly when its request throws. -/
theorem statusDone_late {status : Option PairingStatus}
    (h : step s (.statusDone timer status) = some s') :
    (pollTimeout ≤ s.pollElapsedSeconds ∧ Waiting s') ↔
      LateFailure s (.statusDone timer status) := by
  cases status with
  | none =>
    obtain ⟨hmem, -⟩ := statusDone_cases h
    rw [statusDone_throws hmem] at h
    obtain rfl := Option.some.inj h
    exact (and_iff_right hmem).symm
  | some status => exact iff_of_false (fun hwaits => statusDone_decides hwaits.1 h hwaits.2) not_false

/-- The wait ends in time in a run exactly when no request of it throws at or after the time limit
while the wizard waits. -/
theorem ends_in_time_iff (es : List Event) :
    EndsInTime start es ↔ Avoids step LateFailure start es := by
  rw [avoids_iff]
  refine ⟨?_, ?_⟩
  · intro hends before e rest s hes hrun hfails
    cases e with
    | statusDone timer status =>
      cases status with
      | none =>
        have hstep := statusDone_throws hfails.1
        obtain ⟨hlate, hwaits⟩ := (statusDone_late hstep).mpr hfails
        exact hends before timer none rest s _ hes hrun hstep hlate hwaits
      | some status => exact hfails
    | runConnectionTest => exact hfails
    | probeDone round result => exact hfails
    | tick => exact hfails
    | restartPairing => exact hfails
    | pairingStarted => exact hfails
    | dispose => exact hfails
  · intro havoids before timer status rest s s' hes hrun hstep hlate hwaits
    exact havoids before _ rest s hes hrun ((statusDone_late hstep).mp ⟨hlate, hwaits⟩)

def failingPolls (timer : PollTimer) : Nat → List Event
  | 0 => []
  | n + 1 => .tick :: .statusDone timer none :: failingPolls timer n

theorem failingPoll_step (hrunning : s.pollTimer = some timer) (hno : s.requests = [])
    (rest : List Event) :
    runEvents step s (.tick :: .statusDone timer none :: rest) =
      runEvents step { s with pollElapsedSeconds := s.pollElapsedSeconds + pollInterval } rest := by
  have htick : step s .tick = some { s with
      pollElapsedSeconds := s.pollElapsedSeconds + pollInterval
      requests := [timer] } := by
    simp only [step, hrunning, hno, Option.map_some, List.nil_append]
  have hdone : step { s with
      pollElapsedSeconds := s.pollElapsedSeconds + pollInterval
      requests := [timer] } (.statusDone timer none) =
        some { s with pollElapsedSeconds := s.pollElapsedSeconds + pollInterval } := by
    rw [statusDone_throws (List.mem_singleton_self timer)]
    simp only [List.erase_cons_head, hno]
  rw [runEvents, htick, Option.bind_some, runEvents, hdone, Option.bind_some]

/-- A wizard whose polls all throw goes on waiting, however many there are. -/
theorem failingPolls_wait (hrunning : s.pollTimer = some timer) (hno : s.requests = []) (n : Nat) :
    runEvents step s (failingPolls timer n) =
      some { s with pollElapsedSeconds := s.pollElapsedSeconds + n * pollInterval } := by
  induction n generalizing s with
  | zero => simp only [failingPolls, runEvents, Nat.zero_mul, Nat.add_zero]
  | succ n ih =>
    have hrest := ih (s := { s with pollElapsedSeconds := s.pollElapsedSeconds + pollInterval })
      hrunning hno
    rw [failingPolls, failingPoll_step hrunning hno, hrest]
    simp only [Nat.succ_mul, Nat.add_assoc, Nat.add_comm pollInterval]

def startedTest : List Event := [.pairingStarted, .runConnectionTest, .probeDone 1 .sent]

def offlineTest : List Event := startedTest ++ failingPolls ⟨0, 1⟩ 22 ++ [.tick, .statusDone ⟨0, 1⟩ none]

theorem offlineTest_waits : ¬EndsInTime start offlineTest := by
  intro hends
  have hstarted : runEvents step start (startedTest ++ failingPolls ⟨0, 1⟩ 22 ++ [.tick]) =
      some ⟨true, true, .waitingForConfirmation, some "Waiting for resolver confirmation…", 46,
        some ⟨0, 1⟩, 1, 1, [], [⟨0, 1⟩]⟩ := rfl
  exact hends (startedTest ++ failingPolls ⟨0, 1⟩ 22 ++ [.tick]) ⟨0, 1⟩ none [] _ _ rfl hstarted rfl
    (by decide) ⟨rfl, rfl⟩

end PairingWizard

end ParentApp

end GuardTime
