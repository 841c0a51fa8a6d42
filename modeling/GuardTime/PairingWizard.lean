import GuardTime.GuardedRuns

namespace GuardTime

namespace ParentApp

namespace PairingWizard

inductive TestPhase where
  | idle
  | sendingProbe
  | waitingForConfirmation
  | success
  | timedOut
  | error
deriving DecidableEq

inductive PairStatus where
  | waiting
  | paired
  | expired
  | failed
deriving DecidableEq

structure PairingStatus where
  pairStatus : PairStatus
  paired : Bool

inductive ProbeResult where
  | sent
  | failed (error : String)

/-- A periodic timer, with the round whose test started it. -/
structure PollTimer where
  id : Nat
  round : Nat
deriving DecidableEq

/-- The screen's state, and what it waits for: the rounds of the tests whose probe is under way, and the
timers whose status requests are. A timer that was cancelled is no longer `pollTimer`. A round is a
test, or what follows it on `Generate New Code`. -/
structure State where
  mounted : Bool
  hasPairing : Bool
  testPhase : TestPhase
  testMessage : Option String
  pollElapsedSeconds : Nat
  pollTimer : Option PollTimer
  timers : Nat
  round : Nat
  probes : List Nat
  requests : List PollTimer

inductive Event where
  | runConnectionTest
  | probeDone (round : Nat) (result : ProbeResult)
  | tick
  | statusDone (timer : PollTimer) (status : Option PairingStatus)
  | restartPairing
  | pairingStarted
  | dispose

def pollTimeout : Nat := 45

def pollInterval : Nat := 2

def busy (phase : TestPhase) : Bool := phase = .sendingProbe || phase = .waitingForConfirmation

/-- The phase that a status leads to, and its message. -/
def verdict (elapsed : Nat) (status : PairingStatus) : Option (TestPhase × Option String) :=
  if status.paired then some (.success, none)
  else if status.pairStatus = .expired then
    some (.error, some "The pairing code expired. Go back and generate a new one.")
  else if status.pairStatus = .failed then
    some (.error, some "Too many attempts — go back and generate a new pairing code.")
  else if pollTimeout ≤ elapsed then
    some (.timedOut, some ("We haven't seen the probe reach our resolver yet. " ++
      "Double-check the device's network/DNS settings, then try again."))
  else none

/-- The steps between two awaits; an event that cannot happen has none. A test can be started where the
screen offers it, and a pairing restarted after an error. -/
def step (s : State) : Event → Option State
  | .runConnectionTest =>
    if s.mounted = false ∨ busy s.testPhase then none
    else if s.hasPairing then
      some { s with
        testPhase := .sendingProbe
        testMessage := some "Sending pairing probe…"
        pollElapsedSeconds := 0
        pollTimer := none
        round := s.round + 1
        probes := s.probes ++ [s.round + 1] }
    else some s
  | .probeDone round result =>
    if round ∉ s.probes then none
    else if s.mounted = false then some { s with probes := s.probes.erase round }
    else
      match result with
      | .failed error =>
        some { s with
          testPhase := .error
          testMessage := some ("Could not reach the resolver from this network (" ++ error ++ "). " ++
            "Make sure your phone has an internet connection and try again.")
          probes := s.probes.erase round }
      | .sent =>
        some { s with
          testPhase := .waitingForConfirmation
          testMessage := some "Waiting for resolver confirmation…"
          pollTimer := some ⟨s.timers, round⟩
          timers := s.timers + 1
          probes := s.probes.erase round }
  | .tick =>
    s.pollTimer.map fun timer =>
      { s with
        pollElapsedSeconds := s.pollElapsedSeconds + pollInterval
        requests := s.requests ++ [timer] }
  | .statusDone timer status =>
    if timer ∉ s.requests then none
    else
      match (status.filter fun _ => s.mounted).bind (verdict s.pollElapsedSeconds) with
      | none => some { s with requests := s.requests.erase timer }
      | some (phase, message) =>
        some { s with
          testPhase := phase
          testMessage := message.or s.testMessage
          pollTimer := if s.pollTimer = some timer then none else s.pollTimer
          requests := s.requests.erase timer }
  | .restartPairing =>
    if s.mounted = false ∨ s.testPhase ≠ .error then none
    else some { s with hasPairing := false, testPhase := .idle, round := s.round + 1 }
  | .pairingStarted => some { s with hasPairing := s.hasPairing || s.mounted }
  | .dispose => some { s with mounted := false, pollTimer := none }

def start : State := ⟨true, false, .idle, none, 0, none, 0, 0, [], []⟩

def Event.restarts : Event → Bool
  | .runConnectionTest | .restartPairing => true
  | _ => false

/-- What completes belongs to an earlier round. -/
def OfEarlierRound (s : State) : Event → Prop
  | .statusDone timer _ => timer.round < s.round
  | .probeDone round _ => round < s.round
  | _ => False

/-- Once the phase is success, it becomes no error and no timeout without a restart. -/
def SuccessStays (s₀ : State) (es : List Event) : Prop :=
  ∀ before after rest s s', es = before ++ (after ++ rest) → runEvents step s₀ before = some s →
    runEvents step s after = some s' → s.testPhase = .success →
      (∀ e ∈ after, e.restarts = false) → s'.testPhase ≠ .error ∧ s'.testPhase ≠ .timedOut

/-- No response of an earlier round changes the phase. -/
def EarlierIgnored (s₀ : State) (es : List Event) : Prop :=
  ∀ before e rest s s', es = before ++ e :: rest → runEvents step s₀ before = some s →
    step s e = some s' → OfEarlierRound s e → s'.testPhase = s.testPhase

/-- A status completes after its timer was cancelled, by success or by a restart, and decides on another
phase than the one shown. -/
def LateVerdict (s : State) : Event → Prop
  | .statusDone timer (some status) =>
    timer ∈ s.requests ∧ s.mounted = true ∧ s.pollTimer ≠ some timer ∧
      (s.testPhase = .success ∨ timer.round < s.round) ∧
        ∃ phase message, verdict s.pollElapsedSeconds status = some (phase, message) ∧
          phase ≠ s.testPhase
  | _ => False

/-- A probe is under way in its own round only; the running timer is this round's, and so are the
requests of this round. -/
structure Inv (s : State) : Prop where
  probes : s.mounted = true → ∀ r ∈ s.probes,
    r = s.round ∧ s.testPhase = .sendingProbe ∧ s.pollTimer = none
  one : s.mounted = true → s.probes.length ≤ 1
  running : ∀ t, s.pollTimer = some t → s.testPhase = .waitingForConfirmation ∧ t.round = s.round
  earlier : ∀ q ∈ s.requests, q.round ≤ s.round
  current : ∀ q ∈ s.requests, q.round = s.round → s.mounted = true →
    s.probes = [] ∧ (s.pollTimer = none ∨ s.pollTimer = some q)

theorem inv_start : Inv start where
  probes _ r hr := by cases hr
  one _ := Nat.zero_le 1
  running t ht := by cases ht
  earlier q hq := by cases hq
  current q hq := by cases hq

variable {s s' : State}

theorem statusDone_cases {timer : PollTimer} {status : Option PairingStatus}
    (h : step s (.statusDone timer status) = some s') :
    timer ∈ s.requests ∧
      (s' = { s with requests := s.requests.erase timer } ∨
        ∃ found phase message, status = some found ∧ s.mounted = true ∧
          verdict s.pollElapsedSeconds found = some (phase, message) ∧
            s' = { s with
              testPhase := phase
              testMessage := message.or s.testMessage
              pollTimer := if s.pollTimer = some timer then none else s.pollTimer
              requests := s.requests.erase timer }) := by
  simp only [step] at h
  split at h
  next => cases h
  next hmem =>
    refine ⟨not_not.mp hmem, ?_⟩
    split at h
    next => exact Or.inl (Option.some.inj h).symm
    next phase message hverdict =>
      obtain ⟨found, hfound, hverdict⟩ := Option.bind_eq_some_iff.mp hverdict
      obtain ⟨hstatus, hmounted⟩ := Option.filter_eq_some_iff.mp hfound
      exact Or.inr ⟨found, phase, message, hstatus, hmounted, hverdict, (Option.some.inj h).symm⟩

/-- A verdict that is not late comes from the running timer, or repeats the phase, or belongs to a round
that has ended in another way. -/
theorem not_late {timer : PollTimer} {found : PairingStatus} {phase : TestPhase}
    {message : Option String} (hmem : timer ∈ s.requests) (hmounted : s.mounted = true)
    (hverdict : verdict s.pollElapsedSeconds found = some (phase, message))
    (hlate : ¬LateVerdict s (.statusDone timer (some found))) :
    s.pollTimer = some timer ∨ phase = s.testPhase ∨
      (s.testPhase ≠ .success ∧ s.round ≤ timer.round) := by
  by_cases hrunning : s.pollTimer = some timer
  · exact Or.inl hrunning
  by_cases hphase : phase = s.testPhase
  · exact Or.inr (Or.inl hphase)
  refine Or.inr (Or.inr ⟨?_, ?_⟩)
  · intro hsuccess
    exact hlate ⟨hmem, hmounted, hrunning, Or.inl hsuccess, phase, message, hverdict, hphase⟩
  · by_contra hround
    exact hlate ⟨hmem, hmounted, hrunning, Or.inr (by omega), phase, message, hverdict, hphase⟩

theorem Inv.probes_nil (hinv : Inv s) {timer : PollTimer} (hmounted : s.mounted = true)
    (h : s.pollTimer = some timer) : s.probes = [] := by
  rw [List.eq_nil_iff_forall_not_mem]
  intro r hr
  have hnone := (hinv.probes hmounted r hr).2.2
  rw [h] at hnone
  cases hnone

theorem inv_still {phase : TestPhase} {message : Option String} {requests : List PollTimer}
    (hinv : Inv s) (hprobes : s.probes = []) (hmem : ∀ q ∈ requests, q ∈ s.requests) :
    Inv { s with
      testPhase := phase
      testMessage := message
      pollTimer := none
      requests := requests } where
  probes _ r hr := by
    have hr : r ∈ s.probes := hr
    rw [hprobes] at hr
    cases hr
  one := hinv.one
  running t ht := by cases ht
  earlier q hq := hinv.earlier q (hmem q hq)
  current _ _ _ _ := ⟨hprobes, Or.inl rfl⟩

theorem inv_statusDone {timer : PollTimer} {status : Option PairingStatus} (hinv : Inv s)
    (h : step s (.statusDone timer status) = some s')
    (hlate : ¬LateVerdict s (.statusDone timer status)) : Inv s' := by
  have hmem : ∀ q ∈ s.requests.erase timer, q ∈ s.requests := fun q hq => List.mem_of_mem_erase hq
  have hsame : Inv { s with requests := s.requests.erase timer } :=
    ⟨hinv.probes, hinv.one, hinv.running, fun q hq => hinv.earlier q (hmem q hq),
      fun q hq => hinv.current q (hmem q hq)⟩
  obtain ⟨htimer, rfl | ⟨found, phase, message, rfl, hmounted, hverdict, rfl⟩⟩ := statusDone_cases h
  · exact hsame
  · rcases not_late htimer hmounted hverdict hlate with hrunning | hphase | ⟨-, hround⟩
    · rw [if_pos hrunning]
      exact inv_still hinv (hinv.probes_nil hmounted hrunning) hmem
    · by_cases hrunning : s.pollTimer = some timer
      · rw [if_pos hrunning]
        exact inv_still hinv (hinv.probes_nil hmounted hrunning) hmem
      · rw [if_neg hrunning, hphase]
        exact ⟨hsame.probes, hsame.one, hsame.running, hsame.earlier, hsame.current⟩
    · have hcurrent : timer.round = s.round := by
        have := hinv.earlier timer htimer
        omega
      obtain ⟨hprobes, hnone | hrunning⟩ := hinv.current timer htimer hcurrent hmounted
      · rw [hnone, ite_self]
        exact inv_still hinv hprobes hmem
      · rw [if_pos hrunning]
        exact inv_still hinv hprobes hmem

/-- Once the probe of the round is done, none of its requests is there yet. -/
theorem inv_probed (hinv : Inv s) (hno : ∀ q ∈ s.requests, q.round ≠ s.round)
    (hprobes : s'.probes = []) (hround : s'.round = s.round) (hrequests : s'.requests = s.requests)
    (hrunning : ∀ t, s'.pollTimer = some t →
      s'.testPhase = .waitingForConfirmation ∧ t.round = s.round) : Inv s' where
  probes _ r hr := by
    rw [hprobes] at hr
    cases hr
  one _ := by
    rw [hprobes]
    exact Nat.zero_le 1
  running t ht := hround ▸ hrunning t ht
  earlier q hq := by
    rw [hround]
    exact hinv.earlier q (hrequests ▸ hq)
  current q hq heq := absurd (heq.trans hround) (hno q (hrequests ▸ hq))

theorem inv_probeDone {round : Nat} {result : ProbeResult} (hinv : Inv s)
    (h : step s (.probeDone round result) = some s') : Inv s' := by
  simp only [step] at h
  split at h
  next => cases h
  next hmem =>
    have hmem := not_not.mp hmem
    split at h
    next hmounted =>
      obtain rfl := Option.some.inj h
      have hnot : s.mounted ≠ true := by rw [hmounted]; exact Bool.false_ne_true
      exact ⟨fun hm => absurd hm hnot, fun hm => absurd hm hnot, hinv.running, hinv.earlier,
        fun _ _ _ hm => absurd hm hnot⟩
    next hmounted =>
      have hmounted : s.mounted = true := by simpa using hmounted
      obtain ⟨hround, hphase, htimer⟩ := hinv.probes hmounted round hmem
      have hprobes : s.probes.erase round = [] := by
        have hlen := List.length_erase_of_mem hmem
        have hone := hinv.one hmounted
        exact List.eq_nil_of_length_eq_zero (by omega)
      have hno : ∀ q ∈ s.requests, q.round ≠ s.round := by
        intro q hq heq
        have hnil := (hinv.current q hq heq hmounted).1
        rw [hnil] at hmem
        cases hmem
      split at h
      next error =>
        obtain rfl := Option.some.inj h
        refine inv_probed hinv hno hprobes rfl rfl fun t ht => ?_
        simp only [htimer, reduceCtorEq] at ht
      next =>
        obtain rfl := Option.some.inj h
        refine inv_probed hinv hno hprobes rfl rfl fun t ht => ?_
        obtain rfl := Option.some.inj ht
        exact ⟨rfl, hround⟩

theorem inv_runConnectionTest (hinv : Inv s) (h : step s .runConnectionTest = some s') : Inv s' := by
  simp only [step] at h
  split at h
  next => cases h
  next hoffered =>
    obtain ⟨hmounted, hidle⟩ := not_or.mp hoffered
    have hmounted : s.mounted = true := by simpa using hmounted
    split at h
    next =>
      obtain rfl := Option.some.inj h
      have hprobes : s.probes = [] := by
        rw [List.eq_nil_iff_forall_not_mem]
        intro r hr
        have hphase := (hinv.probes hmounted r hr).2.1
        exact hidle (by rw [hphase]; rfl)
      refine ⟨fun _ r hr => ?_, fun _ => ?_, fun t ht => ?_, fun q hq => ?_, fun q hq heq _ => ?_⟩
      · simp only [hprobes, List.nil_append, List.mem_singleton] at hr
        exact ⟨hr, rfl, rfl⟩
      · simp only [hprobes, List.nil_append, List.length_singleton, Nat.le_refl]
      · cases ht
      · have hq : q.round ≤ s.round := hinv.earlier q hq
        simp only
        omega
      · have hq : q.round ≤ s.round := hinv.earlier q hq
        simp only at heq
        omega
    next =>
      obtain rfl := Option.some.inj h
      exact hinv

theorem inv_tick (hinv : Inv s) (h : step s .tick = some s') : Inv s' := by
  obtain ⟨timer, htimer, rfl⟩ := Option.map_eq_some_iff.mp h
  have hround := (hinv.running timer htimer).2
  refine ⟨hinv.probes, hinv.one, hinv.running, fun q hq => ?_, fun q hq heq hmounted => ?_⟩
  · rcases List.mem_append.mp hq with hq | hq
    · exact hinv.earlier q hq
    · rw [List.mem_singleton.mp hq]
      exact Nat.le_of_eq hround
  · rcases List.mem_append.mp hq with hq | hq
    · exact hinv.current q hq heq hmounted
    · rw [List.mem_singleton.mp hq]
      exact ⟨hinv.probes_nil hmounted htimer, Or.inr htimer⟩

theorem inv_restartPairing (hinv : Inv s) (h : step s .restartPairing = some s') : Inv s' := by
  simp only [step] at h
  split at h
  next => cases h
  next hoffered =>
    obtain ⟨hmounted, herror⟩ := not_or.mp hoffered
    have hmounted : s.mounted = true := by simpa using hmounted
    have herror : s.testPhase = .error := not_not.mp herror
    obtain rfl := Option.some.inj h
    refine ⟨fun _ r hr => ?_, hinv.one, fun t ht => ?_, fun q hq => ?_, fun q hq heq _ => ?_⟩
    · have hphase := (hinv.probes hmounted r hr).2.1
      rw [herror] at hphase
      cases hphase
    · have hphase := (hinv.running t ht).1
      rw [herror] at hphase
      cases hphase
    · have hq : q.round ≤ s.round := hinv.earlier q hq
      simp only
      omega
    · have hq : q.round ≤ s.round := hinv.earlier q hq
      simp only at heq
      omega

theorem step_inv (s : State) (e : Event) (s' : State) (hinv : Inv s) (h : step s e = some s')
    (hlate : ¬LateVerdict s e) : Inv s' := by
  cases e with
  | runConnectionTest => exact inv_runConnectionTest hinv h
  | probeDone round result => exact inv_probeDone hinv h
  | tick => exact inv_tick hinv h
  | statusDone timer status => exact inv_statusDone hinv h hlate
  | restartPairing => exact inv_restartPairing hinv h
  | pairingStarted =>
    obtain rfl := Option.some.inj h
    exact ⟨hinv.probes, hinv.one, hinv.running, hinv.earlier, hinv.current⟩
  | dispose =>
    obtain rfl := Option.some.inj h
    refine ⟨fun hm => absurd hm Bool.false_ne_true, fun hm => absurd hm Bool.false_ne_true,
      fun t ht => ?_, hinv.earlier, fun _ _ _ hm => absurd hm Bool.false_ne_true⟩
    cases ht

theorem probeDone_phase {round : Nat} {result : ProbeResult}
    (h : step s (.probeDone round result) = some s') :
    s'.testPhase = s.testPhase ∨ (s.mounted = true ∧ round ∈ s.probes) := by
  simp only [step] at h
  split at h
  next => cases h
  next hmem =>
    split at h
    next =>
      obtain rfl := Option.some.inj h
      exact Or.inl rfl
    next hmounted => exact Or.inr ⟨by simpa using hmounted, not_not.mp hmem⟩

/-- An event that is no late verdict leaves success as it is, unless it restarts. -/
theorem step_success {e : Event} (hinv : Inv s) (h : step s e = some s') (hlate : ¬LateVerdict s e)
    (hsuccess : s.testPhase = .success) (hrestarts : e.restarts = false) :
    s'.testPhase = .success := by
  cases e with
  | runConnectionTest => cases hrestarts
  | restartPairing => cases hrestarts
  | probeDone round result =>
    rcases probeDone_phase h with hphase | ⟨hmounted, hmem⟩
    · exact hphase.trans hsuccess
    · have hphase := (hinv.probes hmounted round hmem).2.1
      rw [hsuccess] at hphase
      cases hphase
  | tick =>
    obtain ⟨timer, -, rfl⟩ := Option.map_eq_some_iff.mp h
    exact hsuccess
  | statusDone timer status =>
    obtain ⟨hmem, rfl | ⟨found, phase, message, rfl, hmounted, hverdict, rfl⟩⟩ := statusDone_cases h
    · exact hsuccess
    · rcases not_late hmem hmounted hverdict hlate with hrunning | hphase | ⟨hne, -⟩
      · have hphase := (hinv.running timer hrunning).1
        rw [hsuccess] at hphase
        cases hphase
      · exact hphase.trans hsuccess
      · exact absurd hsuccess hne
  | pairingStarted =>
    obtain rfl := Option.some.inj h
    exact hsuccess
  | dispose =>
    obtain rfl := Option.some.inj h
    exact hsuccess

theorem step_earlier {e : Event} (hinv : Inv s) (h : step s e = some s') (hlate : ¬LateVerdict s e)
    (hearlier : OfEarlierRound s e) : s'.testPhase = s.testPhase := by
  cases e with
  | probeDone round result =>
    have hearlier : round < s.round := hearlier
    rcases probeDone_phase h with hphase | ⟨hmounted, hmem⟩
    · exact hphase
    · have hround := (hinv.probes hmounted round hmem).1
      omega
  | statusDone timer status =>
    have hearlier : timer.round < s.round := hearlier
    obtain ⟨hmem, rfl | ⟨found, phase, message, rfl, hmounted, hverdict, rfl⟩⟩ := statusDone_cases h
    · rfl
    · rcases not_late hmem hmounted hverdict hlate with hrunning | hphase | ⟨-, hround⟩
      · have hround := (hinv.running timer hrunning).2
        omega
      · exact hphase
      · omega
  | runConnectionTest => exact hearlier.elim
  | restartPairing => exact hearlier.elim
  | tick => exact hearlier.elim
  | pairingStarted => exact hearlier.elim
  | dispose => exact hearlier.elim

theorem verdict_phase {elapsed : Nat} {status : PairingStatus} {phase : TestPhase}
    {message : Option String} (h : verdict elapsed status = some (phase, message)) :
    phase = .success ∨ phase = .error ∨ phase = .timedOut := by
  unfold verdict at h
  split at h
  next => exact Or.inl (Prod.mk.inj (Option.some.inj h)).1.symm
  next =>
    split at h
    next => exact Or.inr (Or.inl (Prod.mk.inj (Option.some.inj h)).1.symm)
    next =>
      split at h
      next => exact Or.inr (Or.inl (Prod.mk.inj (Option.some.inj h)).1.symm)
      next =>
        split at h
        next => exact Or.inr (Or.inr (Prod.mk.inj (Option.some.inj h)).1.symm)
        next => cases h

theorem lateVerdict_breaks {e : Event} {es : List Event} (hlate : LateVerdict s e) :
    ¬(SuccessStays s (e :: es) ∧ EarlierIgnored s (e :: es)) := by
  rintro ⟨hstays, hignored⟩
  cases e with
  | statusDone timer status =>
    cases status with
    | none => exact hlate
    | some found =>
      obtain ⟨hmem, hmounted, -, hwhen, phase, message, hverdict, hphase⟩ := hlate
      have hstep : step s (.statusDone timer (some found)) = some { s with
          testPhase := phase
          testMessage := message.or s.testMessage
          pollTimer := if s.pollTimer = some timer then none else s.pollTimer
          requests := s.requests.erase timer } := by
        have hfound : (some found).filter (fun _ => s.mounted) = some found := by simp [hmounted]
        simp only [step]
        rw [if_neg (not_not.mpr hmem), hfound, Option.bind_some, hverdict]
      rcases hwhen with hsuccess | hearlier
      · have hone : runEvents step s [.statusDone timer (some found)] =
            step s (.statusDone timer (some found)) := Option.bind_fun_some _
        have hkept := hstays [] [_] es s _ rfl rfl (hone.trans hstep) hsuccess
          (by simp [Event.restarts])
        rcases verdict_phase hverdict with h | h | h
        · exact hphase (h.trans hsuccess.symm)
        · exact hkept.1 h
        · exact hkept.2 h
      · exact hphase (hignored [] _ es s _ rfl rfl hstep hearlier)
  | runConnectionTest => exact hlate
  | probeDone round result => exact hlate
  | tick => exact hlate
  | restartPairing => exact hlate
  | pairingStarted => exact hlate
  | dispose => exact hlate

theorem avoids_of_laws {es : List Event} (hstays : SuccessStays s es) (hignored : EarlierIgnored s es) :
    Avoids step LateVerdict s es := by
  induction es generalizing s with
  | nil => trivial
  | cons e es ih =>
    refine ⟨fun hlate => lateVerdict_breaks hlate ⟨hstays, hignored⟩, ?_⟩
    intro next hstep
    have hrun : ∀ before, runEvents step s (e :: before) = runEvents step next before := by
      intro before
      rw [runEvents, hstep, Option.bind_some]
    refine ih ?_ ?_
    · intro before after rest t t' hes hbefore
      exact hstays (e :: before) after rest t t' (by rw [hes, List.cons_append])
        ((hrun before).trans hbefore)
    · intro before d rest t t' hes hbefore
      exact hignored (e :: before) d rest t t' (by rw [hes, List.cons_append])
        ((hrun before).trans hbefore)

theorem runEvents_success {es : List Event} (hinv : Inv s) (havoids : Avoids step LateVerdict s es)
    (h : runEvents step s es = some s') (hsuccess : s.testPhase = .success)
    (hrestarts : ∀ e ∈ es, e.restarts = false) : s'.testPhase = .success := by
  induction es generalizing s with
  | nil => exact Option.some.inj h ▸ hsuccess
  | cons e es ih =>
    obtain ⟨next, hstep, hrest⟩ := runEvents_cons h
    exact ih (step_inv s e next hinv hstep havoids.1) (havoids.2 next hstep) hrest
      (step_success hinv hstep havoids.1 hsuccess (hrestarts e List.mem_cons_self))
      fun d hd => hrestarts d (List.mem_cons_of_mem e hd)

/-- The test phase keeps its laws in a run exactly when no late verdict comes in it. -/
theorem phase_laws_iff (es : List Event) :
    (SuccessStays start es ∧ EarlierIgnored start es) ↔ Avoids step LateVerdict start es := by
  refine ⟨fun h => avoids_of_laws h.1 h.2, fun havoids => ⟨?_, ?_⟩⟩
  · intro before after rest s s' hes hbefore hafter hsuccess hrestarts
    subst hes
    obtain ⟨hearly, hlater⟩ := avoids_split havoids hbefore
    have hinv := avoids_keeps step_inv inv_start hearly hbefore
    have hkept := runEvents_success hinv (avoids_split hlater hafter).1 hafter hsuccess hrestarts
    rw [hkept]
    exact ⟨nofun, nofun⟩
  · intro before e rest s s' hes hbefore hstep hearlier
    subst hes
    obtain ⟨hearly, hlater⟩ := avoids_split havoids hbefore
    have hinv := avoids_keeps step_inv inv_start hearly hbefore
    exact step_earlier hinv hstep hlater.1 hearlier

def overlappingTest : List Event :=
  [.pairingStarted, .runConnectionTest, .probeDone 1 .sent] ++ List.replicate 23 .tick ++
    [.statusDone ⟨0, 1⟩ (some ⟨.paired, true⟩)]

/-- One of the requests says paired, and another, answered after it, not yet. -/
def overlappingRun : List Event :=
  overlappingTest ++ ([.statusDone ⟨0, 1⟩ (some ⟨.waiting, false⟩)] ++ [])

def restartedTest : List Event :=
  [.pairingStarted, .runConnectionTest, .probeDone 1 .sent, .tick, .tick,
    .statusDone ⟨0, 1⟩ (some ⟨.expired, false⟩), .runConnectionTest]

/-- One of two requests ends a test, and the other one the next test. -/
def restartedRun : List Event :=
  restartedTest ++ .statusDone ⟨0, 1⟩ (some ⟨.expired, false⟩) :: []

theorem overlappingRun_breaks :
    ¬SuccessStays start overlappingRun ∧ ¬EarlierIgnored start restartedRun := by
  refine ⟨?_, ?_⟩
  · intro h
    have htest : runEvents step start overlappingTest = some ⟨true, true, .success,
        some "Waiting for resolver confirmation…", 46, none, 1, 1, [], List.replicate 22 ⟨0, 1⟩⟩ := rfl
    have hkept := h overlappingTest _ _ _ _ rfl htest rfl rfl (by simp [Event.restarts])
    exact hkept.2 rfl
  · intro h
    have htest : runEvents step start restartedTest = some ⟨true, true, .sendingProbe,
        some "Sending pairing probe…", 0, none, 1, 2, [2], [⟨0, 1⟩]⟩ := rfl
    have hkept := h restartedTest _ _ _ _ rfl htest rfl (Nat.lt_succ_self 1)
    cases hkept

end PairingWizard

end ParentApp

end GuardTime
