import GuardTime.RouterBlocking

namespace GuardTime

namespace Router

/-- What a gaming session may leave behind on the router. -/
structure Persistent where
  pausedDevices : List String
  blockedMacs : List String
  firewallRules : List String
  dnsServer : Option String
deriving DecidableEq

/-- An execution that throws is no success. -/
def succeeded : Except String CommandResult → Bool
  | .ok result => result.success
  | .error _ => false

/-- A change of the persistent state, with what it was before and after. -/
structure Change where
  before : Persistent
  after : Persistent
deriving DecidableEq

/-- Changes that follow one on another lead from a state to a state. -/
def Leads : Persistent → List Change → Persistent → Prop
  | first, [], last => last = first
  | first, change :: changes, last => change.before = first ∧ Leads change.after changes last

theorem leads_append {changes later : List Change} {first middle last : Persistent}
    (h : Leads first changes middle) (h' : Leads middle later last) :
    Leads first (changes ++ later) last := by
  induction changes generalizing first with
  | nil =>
    cases h
    exact h'
  | cons change changes ih => exact ⟨h.1, ih h.2⟩

theorem leads_filter {changes : List Change} {first last : Persistent} (h : Leads first changes last) :
    Leads first (changes.filter fun change => change.before ≠ change.after) last := by
  induction changes generalizing first with
  | nil => exact h
  | cons change changes ih =>
    have hrest := ih h.2
    by_cases hsame : change.before = change.after
    · rw [← hsame, h.1] at hrest
      rwa [List.filter_cons_of_neg (by simpa using hsame)]
    · rw [List.filter_cons_of_pos (by simpa using hsame)]
      exact ⟨h.1, hrest⟩

/-- The first state comes back exactly when the last change ends where the first one began. -/
theorem leads_back_iff {changes : List Change} {first last : Persistent} (h : Leads first changes last) :
    last = first ↔ ∀ change ∈ changes.head?, ∀ change' ∈ changes.getLast?,
      change'.after = change.before := by
  cases changes with
  | nil =>
    refine iff_of_true h ?_
    simp
  | cons change changes =>
    have hlast : ∀ (first : Persistent) (change : Change) (changes : List Change),
        Leads first (change :: changes) last → ((change :: changes).getLast (by simp)).after = last := by
      intro first change changes h
      induction changes generalizing first change with
      | nil => exact h.2.symm
      | cons next changes ih =>
        rw [List.getLast_cons (by simp)]
        exact ih _ _ h.2
    simp [List.getLast?_eq_some_getLast, hlast first change changes h, h.1]

section Session

variable {σ : Type} (env : Environment σ) (plugin : Plugin σ) (ctx : Ctx) (target : RouterTarget)

/-- The state in which the session goes on to its next strategy, if it does not end at this one. -/
def tryStrategy (strategy : Strategy) (s : σ) : Option σ :=
  match STRATEGY_METHOD strategy with
  | none => some s
  | some methodName =>
    match executeSingleAction plugin ctx methodName target s with
    | (.error _, _) => none
    | (.ok result, s) =>
      if result.success then
        match env.checkConnectivity s with
        | (true, _) => none
        | (false, s) => some (rollBackStrategy plugin ctx target strategy s).2
      else some s

/-- The session gets to a strategy, and the state it does so in. -/
inductive Reaches : List Strategy → σ → Strategy → σ → Prop where
  | here {strategy rest s} : Reaches (strategy :: rest) s strategy s
  | later {strategy rest s s₁ strategy' s'} (h : tryStrategy env plugin ctx target strategy s = some s₁)
      (later : Reaches rest s₁ strategy' s') : Reaches (strategy :: rest) s strategy' s'

/-- Every inverse call the session makes succeeds and undoes its forward action exactly. -/
def InversesUndo (persistent : σ → Persistent) (strategies : List Strategy) (s : σ) : Prop :=
  ∀ strategy s₁, Reaches env plugin ctx target strategies s strategy s₁ →
    ∀ methodName inverseMethod result s₂ s₃, STRATEGY_METHOD strategy = some methodName →
      STRATEGY_INVERSE_METHOD strategy = some inverseMethod →
      executeSingleAction plugin ctx methodName target s₁ = (.ok result, s₂) → result.success = true →
      env.checkConnectivity s₂ = (false, s₃) →
      ∃ inverseResult s₄, executeSingleAction plugin ctx inverseMethod target s₃ = (.ok inverseResult, s₄) ∧
        inverseResult.success = true ∧ persistent s₄ = persistent s₁

/-- What a call makes of the persistent state when the session does not undo it: because it fails or
throws, or because its method has no inverse although the connectivity is lost after it. -/
def keptChange (persistent : σ → Persistent) (strategy : Strategy) (s : σ) : Option Change :=
  match STRATEGY_METHOD strategy with
  | none => none
  | some methodName =>
    match executeSingleAction plugin ctx methodName target s with
    | (.error _, s₁) => some ⟨persistent s, persistent s₁⟩
    | (.ok result, s₁) =>
      if result.success then
        match env.checkConnectivity s₁, STRATEGY_INVERSE_METHOD strategy with
        | (false, s₂), none => some ⟨persistent s, persistent s₂⟩
        | _, _ => none
      else some ⟨persistent s, persistent s₁⟩

/-- What the session does not undo, call by call. -/
def keptChanges (persistent : σ → Persistent) : List Strategy → σ → List Change
  | [], _ => []
  | strategy :: rest, s =>
    (keptChange env plugin ctx target persistent strategy s).toList ++
      match tryStrategy env plugin ctx target strategy s with
      | some s₁ => keptChanges persistent rest s₁
      | none => []

variable {env plugin ctx target} {persistent : σ → Persistent} {strategy : Strategy}
  {rest : List Strategy} {s s₁ : σ}

/-- A session that does not succeed goes on after its first strategy, or that one throws. -/
theorem session_cons {attempts : List Attempt} {outcome : Except String CommandResult} {s' : σ}
    (h : runEndGamingSession env plugin ctx target (strategy :: rest) attempts s = (outcome, s'))
    (hfailed : succeeded outcome = false) :
    (∃ s₁ attempts', tryStrategy env plugin ctx target strategy s = some s₁ ∧
        runEndGamingSession env plugin ctx target rest attempts' s₁ = (outcome, s')) ∨
      ∃ methodName message, STRATEGY_METHOD strategy = some methodName ∧
        tryStrategy env plugin ctx target strategy s = none ∧
        executeSingleAction plugin ctx methodName target s = (.error message, s') := by
  unfold runEndGamingSession at h
  cases hm : STRATEGY_METHOD strategy with
  | none =>
    simp only [hm] at h
    exact Or.inl ⟨s, attempts, by simp [tryStrategy, hm], h⟩
  | some methodName =>
    simp only [hm] at h
    split at h
    next message s₁ hcall =>
      refine Or.inr ⟨methodName, message, rfl, by simp [tryStrategy, hm, hcall], ?_⟩
      rw [← (Prod.mk.inj h).2]
      exact hcall
    next result s₁ hcall =>
      split at h
      next hsuccess =>
        split at h
        next s₂ hcheck =>
          rw [← (Prod.mk.inj h).1] at hfailed
          simp [succeeded, CommandResult.success] at hfailed
        next s₂ hcheck =>
          exact Or.inl ⟨_, _, by simp [tryStrategy, hm, hcall, hsuccess, hcheck], h⟩
      next hfails => exact Or.inl ⟨_, _, by simp [tryStrategy, hm, hcall, hfails], h⟩

/-- From one strategy to the next, the persistent state changes by what is not undone. -/
theorem tryStrategy_leads (hu : InversesUndo env plugin ctx target persistent (strategy :: rest) s)
    (htry : tryStrategy env plugin ctx target strategy s = some s₁) :
    Leads (persistent s) (keptChange env plugin ctx target persistent strategy s).toList
      (persistent s₁) := by
  unfold tryStrategy at htry
  unfold keptChange
  cases hm : STRATEGY_METHOD strategy with
  | none =>
    simp only [hm] at htry
    cases Option.some.inj htry
    rfl
  | some methodName =>
    simp only [hm] at htry ⊢
    split at htry
    next => simp at htry
    next result s₂ hcall =>
      split at htry
      next hsuccess =>
        simp only [if_pos hsuccess]
        split at htry
        next => simp at htry
        next s₃ hcheck =>
          cases Option.some.inj htry
          cases hi : STRATEGY_INVERSE_METHOD strategy with
          | none =>
            simp only [hcheck, rollBackStrategy, hi]
            exact ⟨rfl, rfl⟩
          | some inverseMethod =>
            obtain ⟨inverseResult, s₄, hinverse, _, hundone⟩ :=
              hu strategy s Reaches.here methodName inverseMethod result s₂ s₃ hm hi hcall hsuccess hcheck
            have hback : (rollBackStrategy plugin ctx target strategy s₃).2 = s₄ := by
              simp [rollBackStrategy, hi, hinverse]
            simp only [hcheck]
            rw [hback]
            exact hundone
      next hfails =>
        simp only [if_neg hfails]
        cases Option.some.inj htry
        exact ⟨rfl, rfl⟩

/-- A session that does not succeed leads from the router before it to the router after it by what it
does not undo. -/
theorem session_leads {strategies : List Strategy}
    (hu : InversesUndo env plugin ctx target persistent strategies s) {attempts : List Attempt}
    {outcome : Except String CommandResult} {s' : σ}
    (h : runEndGamingSession env plugin ctx target strategies attempts s = (outcome, s'))
    (hfailed : succeeded outcome = false) :
    Leads (persistent s) (keptChanges env plugin ctx target persistent strategies s) (persistent s') := by
  induction strategies generalizing attempts s with
  | nil =>
    rw [← (Prod.mk.inj h).2]
    rfl
  | cons strategy rest ih =>
    unfold keptChanges
    rcases session_cons h hfailed with ⟨s₁, attempts', htry, hrest⟩ | ⟨methodName, message, hm, hnone, hcall⟩
    · rw [htry]
      exact leads_append (tryStrategy_leads hu htry)
        (ih (fun strategy s₂ hreaches => hu strategy s₂ (Reaches.later htry hreaches)) hrest)
    · rw [hnone, List.append_nil]
      simp only [keptChange, hm, hcall]
      exact ⟨rfl, rfl⟩

end Session

/-- A plugin that can pause devices and change the DNS server. -/
def pausingPlugin : Plugin Persistent
  | .pauseDevice => some fun _ target s =>
    (.ok ⟨true, "device paused", none⟩,
      { s with pausedDevices := target.macAddress.toList ++ s.pausedDevices })
  | .resumeDevice => some fun _ target s =>
    (.ok ⟨true, "device resumed", none⟩,
      { s with pausedDevices := s.pausedDevices.drop target.macAddress.toList.length })
  | .changeDNS => some fun _ target s =>
    (.ok ⟨true, "DNS server changed", none⟩, { s with dnsServer := target.dnsServer })
  | _ => some fun _ _ s => (.ok ⟨false, "not supported", none⟩, s)

/-- Whatever is tried, the backend stays out of reach. -/
def offlineEnvironment : Environment Persistent :=
  ⟨fun _ => pausingPlugin, fun s => (false, s), fun s => (.error "offline", s), false⟩

def gamingTarget : RouterTarget :=
  ⟨some "dev-1", some "aa:bb:cc:dd:ee:ff", some "192.168.88.50", some "192.0.2.53"⟩

def sessionContext : Ctx := ⟨some "192.168.88.1", none, false⟩

def routerBefore : Persistent := ⟨[], [], [], some "192.168.88.1"⟩

theorem pausingPlugin_undoes (strategies : List Strategy) (s : Persistent) :
    InversesUndo offlineEnvironment pausingPlugin sessionContext gamingTarget (fun s => s) strategies s := by
  intro strategy s₁ _ methodName inverseMethod result s₂ s₃ hm hi hcall hsuccess hcheck
  cases strategy <;> cases hm <;> cases hi <;> obtain ⟨hresult, rfl⟩ := Prod.mk.inj hcall <;>
    cases Except.ok.inj hresult <;> simp at hsuccess
  obtain ⟨_, rfl⟩ := Prod.mk.inj hcheck
  exact ⟨_, _, rfl, rfl, rfl⟩

end Router

end GuardTime
