import GuardTime.RestartedIptables
import GuardTime.GuardedRuns

namespace GuardTime

namespace Web

/-- The tokens a server issues, one pair after the other; no refresh token is issued twice. -/
structure Issuer where
  accessToken : Nat → String
  refreshToken : Nat → String
  refreshToken_ne : ∀ n, refreshToken n ≠ ""
  refreshToken_injective : Function.Injective refreshToken

structure LocalStorage where
  accessToken : Option String
  refreshToken : Option String

structure RefreshData where
  accessToken : String
  refreshToken : String

/-- Where a request is: it waits for its answer, for the answer of the refresh it posted, or for
that of its retry, which is marked `_retry`. -/
inductive Phase where
  | sent
  | refreshing (refreshToken : String)
  | refreshed (data : Option RefreshData)
  | retrying
  | settled

/-- The storage all requests share, the number of the server's newest pair, the requests, and
whether one of them has cleared the session and gone to the login page. -/
structure State (ι : Type) where
  localStorage : LocalStorage
  issued : Nat
  phase : ι → Phase
  loggedOut : Bool

inductive Event (ι : Type) where
  | unauthorized (i : ι)
  | serve (i : ι)
  | deliver (i : ι)
  | retried (i : ι)

variable {ι : Type} [DecidableEq ι]

def State.setPhase (s : State ι) (i : ι) (phase : Phase) : State ι :=
  { s with phase := Function.update s.phase i phase }

/-- The steps of the response interceptor between two awaits, and of the server. Each request
gets a 401; the server takes its newest refresh token and no other. -/
def step (issuer : Issuer) (s : State ι) : Event ι → Option (State ι)
  | .unauthorized i =>
    match s.phase i with
    | .sent =>
      match truthy s.localStorage.refreshToken with
      | some refreshToken => some (s.setPhase i (.refreshing refreshToken))
      | none => some (s.setPhase i .settled)
    | _ => none
  | .serve i =>
    match s.phase i with
    | .refreshing refreshToken =>
      if refreshToken = issuer.refreshToken s.issued then
        some { s.setPhase i (.refreshed (some ⟨issuer.accessToken (s.issued + 1),
          issuer.refreshToken (s.issued + 1)⟩)) with issued := s.issued + 1 }
      else some (s.setPhase i (.refreshed none))
    | _ => none
  | .deliver i =>
    match s.phase i with
    | .refreshed (some data) =>
      some { s.setPhase i .retrying with
        localStorage := ⟨some data.accessToken, some data.refreshToken⟩ }
    | .refreshed none =>
      some { s.setPhase i .settled with localStorage := ⟨none, none⟩, loggedOut := true }
    | _ => none
  | .retried i =>
    match s.phase i with
    | .retrying => some (s.setPhase i .settled)
    | _ => none

/-- The refresh token in storage is valid; the access token may have run out. -/
def start (issuer : Issuer) (accessToken : Option String) : State ι where
  localStorage := ⟨accessToken, some (issuer.refreshToken 0)⟩
  issued := 0
  phase := fun _ => .sent
  loggedOut := false

/-- The stored pair is the one the server accepts. -/
def State.Accepted (issuer : Issuer) (s : State ι) : Prop :=
  s.localStorage.accessToken = some (issuer.accessToken s.issued) ∧
    s.localStorage.refreshToken = some (issuer.refreshToken s.issued)

/-- A refresh token was read, and what it is exchanged for is not stored yet. -/
def Phase.Outstanding : Phase → Prop
  | .refreshing _ | .refreshed _ => True
  | _ => False

/-- A 401 arrives while the refresh of another request is outstanding. -/
def Overlaps (s : State ι) (e : Event ι) : Prop :=
  ∃ i, e = .unauthorized i ∧ ∃ j, (s.phase j).Outstanding

inductive Steps (issuer : Issuer) (s : State ι) : Event ι → State ι → Prop
  | read {i : ι} {refreshToken : String} : s.phase i = .sent →
      truthy s.localStorage.refreshToken = some refreshToken →
      Steps issuer s (.unauthorized i) (s.setPhase i (.refreshing refreshToken))
  | rejected {i : ι} : s.phase i = .sent → truthy s.localStorage.refreshToken = none →
      Steps issuer s (.unauthorized i) (s.setPhase i .settled)
  | rotated {i : ι} : s.phase i = .refreshing (issuer.refreshToken s.issued) →
      Steps issuer s (.serve i) { s.setPhase i (.refreshed (some ⟨issuer.accessToken (s.issued + 1),
        issuer.refreshToken (s.issued + 1)⟩)) with issued := s.issued + 1 }
  | refused {i : ι} {refreshToken : String} : s.phase i = .refreshing refreshToken →
      refreshToken ≠ issuer.refreshToken s.issued →
      Steps issuer s (.serve i) (s.setPhase i (.refreshed none))
  | stored {i : ι} {data : RefreshData} : s.phase i = .refreshed (some data) →
      Steps issuer s (.deliver i) { s.setPhase i .retrying with
        localStorage := ⟨some data.accessToken, some data.refreshToken⟩ }
  | cleared {i : ι} : s.phase i = .refreshed none →
      Steps issuer s (.deliver i)
        { s.setPhase i .settled with localStorage := ⟨none, none⟩, loggedOut := true }
  | retried {i : ι} : s.phase i = .retrying → Steps issuer s (.retried i) (s.setPhase i .settled)

variable {issuer : Issuer} {s s' : State ι} {e : Event ι}

theorem step_cases (h : step issuer s e = some s') : Steps issuer s e s' := by
  cases e with
  | unauthorized i =>
    simp only [step] at h
    split at h
    next hphase =>
      split at h
      next refreshToken htoken => cases Option.some.inj h; exact .read hphase htoken
      next htoken => cases Option.some.inj h; exact .rejected hphase htoken
    next => simp at h
  | serve i =>
    simp only [step] at h
    split at h
    next refreshToken hphase =>
      split at h
      next hcurrent =>
        cases Option.some.inj h
        exact .rotated (hcurrent ▸ hphase)
      next hspent => cases Option.some.inj h; exact .refused hphase hspent
    next => simp at h
  | deliver i =>
    simp only [step] at h
    split at h
    next data hphase => cases Option.some.inj h; exact .stored hphase
    next hphase => cases Option.some.inj h; exact .cleared hphase
    next => simp at h
  | retried i =>
    simp only [step] at h
    split at h
    next hphase => cases Option.some.inj h; exact .retried hphase
    next => simp at h

@[simp] theorem setPhase_self (s : State ι) (i : ι) (phase : Phase) :
    (s.setPhase i phase).phase i = phase := by
  simp [State.setPhase]

theorem setPhase_of_ne {i j : ι} (h : j ≠ i) (s : State ι) (phase : Phase) :
    (s.setPhase i phase).phase j = s.phase j := by
  simp [State.setPhase, h]

/-- No two refreshes were outstanding at a time. -/
inductive Serial (issuer : Issuer) (s : State ι) : Prop
  | idle : s.loggedOut = false → (∀ i, ¬(s.phase i).Outstanding) →
      s.localStorage.refreshToken = some (issuer.refreshToken s.issued) →
      s.localStorage.accessToken = some (issuer.accessToken s.issued) ∨ (∀ i, s.phase i = .sent) →
      Serial issuer s
  | asked (i : ι) : s.loggedOut = false → (∀ j, j ≠ i → ¬(s.phase j).Outstanding) →
      s.localStorage.refreshToken = some (issuer.refreshToken s.issued) →
      s.phase i = .refreshing (issuer.refreshToken s.issued) → Serial issuer s
  | told (i : ι) {spent : Nat} : s.loggedOut = false → (∀ j, j ≠ i → ¬(s.phase j).Outstanding) →
      spent < s.issued → s.localStorage.refreshToken = some (issuer.refreshToken spent) →
      s.phase i = .refreshed (some ⟨issuer.accessToken s.issued, issuer.refreshToken s.issued⟩) →
      Serial issuer s

/-- A request holds a refresh token the server will not take when it gets to it, or was told so. -/
inductive Doomed (issuer : Issuer) (s : State ι) : Prop
  | loggedOut : s.loggedOut = true → Doomed issuer s
  | refused (i : ι) : s.phase i = .refreshed none → Doomed issuer s
  | spent (i : ι) {n : Nat} : n < s.issued → s.phase i = .refreshing (issuer.refreshToken n) →
      Doomed issuer s
  | shared {i j : ι} {n : Nat} : i ≠ j → s.phase i = .refreshing (issuer.refreshToken n) →
      s.phase j = .refreshing (issuer.refreshToken n) → Doomed issuer s

omit [DecidableEq ι] in
theorem ne_of_phase {i j : ι} {p q : Phase} (hi : s.phase i = p) (hj : s.phase j = q) (h : p ≠ q) :
    i ≠ j := by
  intro hij
  subst hij
  exact h (hi.symm.trans hj)

theorem Steps.issued_le (h : Steps issuer s e s') : s.issued ≤ s'.issued := by
  cases h with
  | rotated => exact Nat.le_succ _
  | read | rejected | refused | stored | cleared | retried => exact le_rfl

theorem Steps.keeps_loggedOut (h : Steps issuer s e s') (hs : s.loggedOut = true) :
    s'.loggedOut = true := by
  cases h with
  | cleared => rfl
  | read | rejected | rotated | refused | stored | retried => exact hs

def Event.request : Event ι → ι
  | .unauthorized i | .serve i | .deliver i | .retried i => i

theorem Steps.others (h : Steps issuer s e s') {j : ι} (hj : j ≠ e.request) :
    s'.phase j = s.phase j := by
  cases h with
  | read | rejected | rotated | refused | stored | cleared | retried => exact setPhase_of_ne hj s _

/-- A request that waits for its refresh goes on waiting, or the server answers it. -/
theorem Steps.of_refreshing (h : Steps issuer s e s') {i : ι} {refreshToken : String}
    (hi : s.phase i = .refreshing refreshToken) :
    s'.phase i = .refreshing refreshToken ∨
    (refreshToken = issuer.refreshToken s.issued ∧ s'.issued = s.issued + 1 ∧
      ∀ j, j ≠ i → s'.phase j = s.phase j) ∨
    s'.phase i = .refreshed none := by
  by_cases hown : i = e.request
  · subst hown
    have hothers : ∀ j, j ≠ e.request → s'.phase j = s.phase j := fun _ hj => h.others hj
    cases h with
    | rotated hphase =>
      cases hi.symm.trans hphase
      exact Or.inr (Or.inl ⟨rfl, rfl, hothers⟩)
    | refused => exact Or.inr (Or.inr (setPhase_self s _ _))
    | read hphase | rejected hphase | stored hphase | cleared hphase | retried hphase =>
      cases hi.symm.trans hphase
  · exact Or.inl ((h.others hown).trans hi)

/-- A request whose refresh was refused logs out when it hears of it. -/
theorem Steps.of_refused (h : Steps issuer s e s') {i : ι} (hi : s.phase i = .refreshed none) :
    s'.phase i = .refreshed none ∨ s'.loggedOut = true := by
  by_cases hown : i = e.request
  · subst hown
    cases h with
    | cleared => exact Or.inr rfl
    | read hphase | rejected hphase | rotated hphase | refused hphase | stored hphase
    | retried hphase => cases hi.symm.trans hphase
  · exact Or.inl ((h.others hown).trans hi)

theorem doomed_step (hs : Doomed issuer s) (h : Steps issuer s e s') : Doomed issuer s' := by
  cases hs with
  | loggedOut hout => exact .loggedOut (h.keeps_loggedOut hout)
  | refused i hi =>
    rcases h.of_refused hi with hi | hout
    · exact .refused i hi
    · exact .loggedOut hout
  | @spent i n hn hi =>
    rcases h.of_refreshing hi with hi | ⟨htoken, _, _⟩ | hi
    · exact .spent i (hn.trans_le h.issued_le) hi
    · exact absurd (issuer.refreshToken_injective htoken) (Nat.ne_of_lt hn)
    · exact .refused i hi
  | @shared i j n hij hi hj =>
    rcases h.of_refreshing hi with hi' | ⟨htoken, hissued, hrest⟩ | hi'
    · rcases h.of_refreshing hj with hj' | ⟨htoken, hissued, _⟩ | hj'
      · exact .shared hij hi' hj'
      · have hn := issuer.refreshToken_injective htoken
        exact .spent i (by omega) hi'
      · exact .refused j hj'
    · have hn := issuer.refreshToken_injective htoken
      exact .spent j (by omega) ((hrest j hij.symm).trans hj)
    · exact .refused i hi'

omit [DecidableEq ι] in
theorem serial_start (accessToken : Option String) :
    Serial issuer (start issuer accessToken : State ι) :=
  .idle rfl (fun _ h => h) rfl (Or.inr fun _ => rfl)

theorem serial_overlap (hs : Serial issuer s) (h : Steps issuer s e s') (ho : Overlaps s e) :
    Doomed issuer s' := by
  obtain ⟨k, rfl, j, hj⟩ := ho
  have hread : ∀ {i : ι} {n : Nat}, s.localStorage.refreshToken = some (issuer.refreshToken n) →
      (s.phase i).Outstanding → i ≠ k ∧ s' = s.setPhase k (.refreshing (issuer.refreshToken n)) := by
    intro i n htoken hi
    cases h with
    | @read _ refreshToken hphase hread =>
      have hn : refreshToken = issuer.refreshToken n := by
        rw [htoken, Isp.truthy_some (issuer.refreshToken_ne n)] at hread
        exact (Option.some.inj hread).symm
      refine ⟨?_, by rw [hn]⟩
      intro hik
      subst hik
      rw [hphase] at hi
      exact hi
    | rejected hphase hnone =>
      rw [htoken, Isp.truthy_some (issuer.refreshToken_ne n)] at hnone
      simp at hnone
  cases hs with
  | idle _ hidle => exact absurd hj (hidle j)
  | asked i _ _ htoken hi =>
    obtain ⟨hik, rfl⟩ := hread htoken (i := i) (by rw [hi]; trivial)
    exact .shared hik ((setPhase_of_ne hik s _).trans hi) (setPhase_self s k _)
  | told i _ _ hspent htoken hi =>
    obtain ⟨_, rfl⟩ := hread htoken (i := i) (by rw [hi]; trivial)
    exact .spent k hspent (setPhase_self s k _)

theorem not_outstanding_setPhase {i : ι} {phase : Phase} (hphase : ¬phase.Outstanding)
    (hs : ∀ j, j ≠ i → ¬(s.phase j).Outstanding) (j : ι) :
    ¬((s.setPhase i phase).phase j).Outstanding := by
  by_cases hj : j = i
  · subst hj
    rw [setPhase_self]
    exact hphase
  · rw [setPhase_of_ne hj]
    exact hs j hj

theorem not_outstanding_others {i k : ι} {phase : Phase}
    (hs : ∀ j, j ≠ i → ¬(s.phase j).Outstanding) (hk : k = i ∨ ¬phase.Outstanding) (j : ι)
    (hj : j ≠ i) : ¬((s.setPhase k phase).phase j).Outstanding := by
  by_cases hjk : j = k
  · subst hjk
    rw [setPhase_self]
    exact hk.resolve_left hj
  · rw [setPhase_of_ne hjk]
    exact hs j hj

theorem outstanding_eq {i : ι} (hothers : ∀ j, j ≠ i → ¬(s.phase j).Outstanding) {k : ι} {p : Phase}
    (hk : s.phase k = p) (hp : p.Outstanding) : k = i := by
  by_contra hne
  exact hothers k hne (hk ▸ hp)

theorem serial_step (hs : Serial issuer s) (h : Steps issuer s e s') (ho : ¬Overlaps s e) :
    Serial issuer s' := by
  cases hs with
  | idle hin hidle htoken haccess =>
    have hnot : ∀ {k : ι} {p : Phase}, s.phase k = p → p.Outstanding → False := by
      intro k p hk hp
      exact hidle k (hk ▸ hp)
    cases h with
    | @read k refreshToken hphase hread =>
      rw [htoken, Isp.truthy_some (issuer.refreshToken_ne _)] at hread
      cases Option.some.inj hread
      exact .asked k hin (not_outstanding_others (fun j _ => hidle j) (Or.inl rfl)) htoken
        (setPhase_self s k _)
    | rejected hphase hnone =>
      rw [htoken, Isp.truthy_some (issuer.refreshToken_ne _)] at hnone
      simp at hnone
    | rotated hphase => exact absurd trivial (hnot hphase)
    | refused hphase => exact absurd trivial (hnot hphase)
    | stored hphase => exact absurd trivial (hnot hphase)
    | cleared hphase => exact absurd trivial (hnot hphase)
    | @retried k hphase =>
      refine .idle hin (not_outstanding_setPhase id fun j _ => hidle j) htoken (Or.inl ?_)
      refine haccess.resolve_right ?_
      intro hsent
      rw [hsent k] at hphase
      cases hphase
  | asked i hin hothers htoken hi =>
    have hown : ∀ {k : ι} {p : Phase}, s.phase k = p → p.Outstanding → k = i := outstanding_eq hothers
    cases h with
    | @read k _ hphase => exact absurd ⟨k, rfl, i, by rw [hi]; trivial⟩ ho
    | @rejected k hphase => exact absurd ⟨k, rfl, i, by rw [hi]; trivial⟩ ho
    | rotated hphase =>
      obtain rfl := hown hphase trivial
      exact .told _ hin (not_outstanding_others hothers (Or.inl rfl)) (Nat.lt_succ_self _) htoken
        (setPhase_self s _ _)
    | refused hphase hspent =>
      obtain rfl := hown hphase trivial
      rw [hi] at hphase
      cases hphase
      exact absurd rfl hspent
    | stored hphase =>
      obtain rfl := hown hphase trivial
      rw [hi] at hphase
      cases hphase
    | cleared hphase =>
      obtain rfl := hown hphase trivial
      rw [hi] at hphase
      cases hphase
    | @retried k hphase =>
      have hne := ne_of_phase hi hphase (by simp)
      exact .asked i hin (not_outstanding_others hothers (Or.inr id)) htoken
        ((setPhase_of_ne hne s _).trans hi)
  | told i hin hothers hspent htoken hi =>
    have hown : ∀ {k : ι} {p : Phase}, s.phase k = p → p.Outstanding → k = i := outstanding_eq hothers
    cases h with
    | @read k _ hphase => exact absurd ⟨k, rfl, i, by rw [hi]; trivial⟩ ho
    | @rejected k hphase => exact absurd ⟨k, rfl, i, by rw [hi]; trivial⟩ ho
    | rotated hphase =>
      obtain rfl := hown hphase trivial
      rw [hi] at hphase
      cases hphase
    | refused hphase =>
      obtain rfl := hown hphase trivial
      rw [hi] at hphase
      cases hphase
    | stored hphase =>
      obtain rfl := hown hphase trivial
      rw [hi] at hphase
      cases hphase
      exact .idle hin (not_outstanding_setPhase id hothers) rfl (Or.inl rfl)
    | cleared hphase =>
      obtain rfl := hown hphase trivial
      rw [hi] at hphase
      cases hphase
    | @retried k hphase =>
      have hne := ne_of_phase hi hphase (by simp)
      exact .told i hin (not_outstanding_others hothers (Or.inr id)) hspent htoken
        ((setPhase_of_ne hne s _).trans hi)

/-- Once every request has settled, the session is whole exactly if no refreshes overlapped. -/
theorem session_kept_iff [Nonempty ι] (issuer : Issuer) (accessToken : Option String)
    (events : List (Event ι)) (s : State ι)
    (hrun : runEvents (step issuer) (start issuer accessToken) events = some s)
    (hsettled : ∀ i, s.phase i = .settled) :
    (s.Accepted issuer ∧ s.loggedOut = false) ↔
      Avoids (step issuer) Overlaps (start issuer accessToken) events := by
  refine ⟨?_, ?_⟩
  · intro ⟨_, hin⟩
    by_contra hoverlap
    have hdoomed : Doomed issuer s := hazard_leads
      (fun s e s' hs hstep ho => serial_step hs (step_cases hstep) ho)
      (fun s e s' hs hstep ho => serial_overlap hs (step_cases hstep) ho)
      (fun s e s' hs hstep => doomed_step hs (step_cases hstep))
      (serial_start accessToken) hoverlap hrun
    cases hdoomed with
    | loggedOut hout => rw [hin] at hout; cases hout
    | refused i hi => rw [hsettled i] at hi; cases hi
    | spent i _ hi => rw [hsettled i] at hi; cases hi
    | @shared i _ _ _ hi => rw [hsettled i] at hi; cases hi
  · intro hserial
    have hs : Serial issuer s := avoids_keeps
      (fun s e s' hs hstep ho => serial_step hs (step_cases hstep) ho)
      (serial_start accessToken) hserial hrun
    cases hs with
    | idle hin _ htoken haccess =>
      refine ⟨⟨haccess.resolve_right ?_, htoken⟩, hin⟩
      intro hsent
      obtain ⟨i⟩ := ‹Nonempty ι›
      have hboth := (hsent i).symm.trans (hsettled i)
      cases hboth
    | asked i _ _ _ hi => rw [hsettled i] at hi; cases hi
    | told i _ _ _ _ hi => rw [hsettled i] at hi; cases hi

def sampleIssuer : Issuer where
  accessToken n := String.ofList (List.replicate n 'a')
  refreshToken n := String.ofList (List.replicate (n + 1) 'r')
  refreshToken_ne n h := by simpa using congrArg String.length h
  refreshToken_injective n m h := by simpa using congrArg String.length h

/-- Two requests get their 401; the second refreshes the session once the first is done. -/
def twoRefreshes : List (Event Bool) := [.unauthorized false, .serve false, .deliver false,
  .unauthorized true, .serve true, .deliver true, .retried false, .retried true]

theorem session_kept_iff_twoRefreshes :
    ∃ s, runEvents (step sampleIssuer) (start sampleIssuer none) twoRefreshes = some s ∧ s.issued = 2 ∧
      ((s.Accepted sampleIssuer ∧ s.loggedOut = false) ↔
        Avoids (step sampleIssuer) Overlaps (start sampleIssuer none) twoRefreshes) := by
  have hfirst := Isp.truthy_some (sampleIssuer.refreshToken_ne 0)
  have hsecond := Isp.truthy_some (sampleIssuer.refreshToken_ne 1)
  have hrun : ∃ s, runEvents (step sampleIssuer) (start sampleIssuer none) twoRefreshes = some s ∧
      s.issued = 2 ∧ ∀ i, s.phase i = .settled := by
    simp [twoRefreshes, runEvents, step, start, State.setPhase, hfirst, hsecond]
  obtain ⟨s, hrun, hissued, hsettled⟩ := hrun
  exact ⟨s, hrun, hissued, session_kept_iff sampleIssuer none twoRefreshes s hrun hsettled⟩

/-- Two requests read the same refresh token, and the second is refused. -/
theorem session_lost :
    ¬∀ (issuer : Issuer) (accessToken : Option String) (events : List (Event Bool)) (s : State Bool),
      runEvents (step issuer) (start issuer accessToken) events = some s →
      (∀ i, s.phase i = .settled) → s.Accepted issuer ∧ s.loggedOut = false := by
  intro h
  have hread := Isp.truthy_some (sampleIssuer.refreshToken_ne 0)
  have hspent : sampleIssuer.refreshToken 0 ≠ sampleIssuer.refreshToken 1 := by
    intro heq
    cases sampleIssuer.refreshToken_injective heq
  have hrun : ∃ s, runEvents (step sampleIssuer) (start sampleIssuer none)
      [.unauthorized false, .unauthorized true, .serve false, .serve true, .deliver false,
        .deliver true, .retried false] = some s ∧ (∀ i, s.phase i = .settled) ∧ s.loggedOut = true := by
    simp [runEvents, step, start, State.setPhase, hread, hspent]
  obtain ⟨s, hrun, hsettled, hout⟩ := hrun
  have hin := (h sampleIssuer none _ s hrun hsettled).2
  rw [hout] at hin
  cases hin

end Web

end GuardTime
