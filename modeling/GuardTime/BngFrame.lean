import GuardTime.TenantRuns

namespace GuardTime

namespace Isp

/-- The policy comes to be recorded: a subscriber with an address, and a known action. -/
def Applies (tenant : Tenant) (payload : PolicyInput) (resolved : Resolved) : Prop :=
  (∃ tenant', resolve tenant payload = .ok (resolved, tenant')) ∧
    (truthy resolved.enforcementIp).isSome ∧ ∃ action, normalizeAction payload.action = .ok action

/-- No state of another subscriber spells the key that the state of this policy is recorded under. -/
def OwnKey (config : IspConfig) (tenant : Tenant) (payload : PolicyInput) : Prop :=
  ∀ resolved, Applies tenant payload resolved →
    ∀ state ∈ tenant.bngState.values,
      state.bngId ++ ":" ++ state.subscriberId = bngKey config resolved →
        state.subscriberId = resolved.subscriberId

/-- What an application does to the states and the policies. -/
inductive Application (config : IspConfig) (tenant tenant' : Tenant) (payload : PolicyInput) :
    Prop where
  | fails (hnot : ∀ resolved, ¬Applies tenant payload resolved)
      (hstates : tenant'.bngState = tenant.bngState) (hpolicies : tenant'.policies = tenant.policies)
  | records (resolved : Resolved) (policy : Policy) (happlies : Applies tenant payload resolved)
      (hsubscriber : policy.bngState.subscriberId = resolved.subscriberId)
      (hbng : policy.bngState.bngId = bngIdFor config resolved)
      (hstates : tenant'.bngState =
        tenant.bngState.set (bngKey config resolved) policy.bngState)
      (hpolicies : tenant'.policies = tenant.policies.set resolved.subscriberId policy)

theorem applyPolicy_error {config : IspConfig} {tenant : Tenant} {resolved : Resolved}
    {payload : PolicyInput} {message : String}
    (h : applyPolicy config tenant resolved payload = .error message) :
    truthy resolved.enforcementIp = none ∨ ∀ action, normalizeAction payload.action ≠ .ok action := by
  unfold applyPolicy at h
  split at h
  next hnone => exact Or.inl hnone
  next =>
    split at h
    next herror =>
      refine Or.inr ?_
      intro action haction
      rw [haction] at herror
      simp at herror
    next => simp at h

theorem apply_application (config : IspConfig) (tenant : Tenant) (payload : PolicyInput) :
    Application config tenant (apply config tenant payload).2 payload := by
  unfold apply
  cases hresolve : resolve tenant payload with
  | error message =>
    refine .fails ?_ rfl rfl
    intro resolved happlies
    obtain ⟨⟨tenant', hok⟩, _⟩ := happlies
    rw [hresolve] at hok
    simp at hok
  | ok made =>
    obtain ⟨resolved, tenant₁⟩ := made
    obtain ⟨_, htenant₁⟩ := resolve_spec hresolve
    simp only
    cases happly : applyPolicy config tenant₁ resolved payload with
    | error message =>
      refine .fails ?_ (by rw [htenant₁]) (by rw [htenant₁])
      intro resolved' happlies
      obtain ⟨⟨tenant', hok⟩, hip, action, haction⟩ := happlies
      obtain ⟨hsame, _⟩ := Prod.mk.inj (Except.ok.inj (hresolve.symm.trans hok))
      subst hsame
      rcases applyPolicy_error happly with hnone | hno
      · rw [hnone] at hip
        simp at hip
      · exact hno action haction
    | ok made =>
      obtain ⟨state, tenant₂⟩ := made
      obtain ⟨hip, haction, hsubscriber, hbng, htenant₂⟩ := applyPolicy_spec happly
      have happlies : Applies tenant payload resolved := ⟨⟨tenant₁, hresolve⟩, hip, haction⟩
      subst htenant₂ htenant₁
      exact .records resolved ⟨resolved.subscriberId, payload.action, truthy payload.reason,
        (truthy payload.macAddress).map String.toLower, resolved, state⟩ happlies hsubscriber hbng
        rfl rfl

theorem step_others (config : IspConfig) (tenant : Tenant) {op : TenantOp}
    (hop : ∀ payload, op ≠ .apply payload) :
    (tenant.step config op).bngState = tenant.bngState ∧
      (tenant.step config op).policies = tenant.policies := by
  cases op with
  | upsertSession data =>
    simp only [Tenant.step]
    split
    next => exact ⟨rfl, rfl⟩
    next h =>
      obtain ⟨_, _, _, rfl⟩ := upsertSession_spec h
      exact ⟨rfl, rfl⟩
  | stopSession s =>
    simp only [Tenant.step, stopSession]
    split
    next => exact ⟨rfl, rfl⟩
    next => exact ⟨rfl, rfl⟩
  | upsertLease data =>
    simp only [Tenant.step]
    split
    next => exact ⟨rfl, rfl⟩
    next h =>
      obtain ⟨_, _, _, rfl⟩ := upsertLease_spec h
      exact ⟨rfl, rfl⟩
  | resolve input =>
    simp only [Tenant.step]
    split
    next => exact ⟨rfl, rfl⟩
    next h =>
      obtain ⟨_, rfl⟩ := resolve_spec h
      exact ⟨rfl, rfl⟩
  | apply payload => exact absurd rfl (hop payload)
  | getSession s => exact ⟨rfl, rfl⟩
  | listBySubscriber s => exact ⟨rfl, rfl⟩
  | findByMac mac => exact ⟨rfl, rfl⟩
  | getPolicy s => exact ⟨rfl, rfl⟩
  | getState s => exact ⟨rfl, rfl⟩

/-- Every state stands under the key its own ids spell. -/
def KeyedStates (tenant : Tenant) : Prop :=
  ∀ key state, tenant.bngState.get key = some state →
    key = state.bngId ++ ":" ++ state.subscriberId

theorem keyedStates_empty : KeyedStates .empty := by
  intro key state h
  simp [Tenant.empty] at h

theorem step_keyedStates (config : IspConfig) (tenant : Tenant) (op : TenantOp)
    (h : KeyedStates tenant) : KeyedStates (tenant.step config op) := by
  by_cases hop : ∃ payload, op = .apply payload
  · obtain ⟨payload, rfl⟩ := hop
    cases apply_application config tenant payload with
    | fails hnot hstates hpolicies =>
      intro key state hget
      exact h key state (by rwa [← hstates])
    | records resolved policy happlies hsubscriber hbng hstates hpolicies =>
      intro key state hget
      have hset : (tenant.bngState.set (bngKey config resolved) policy.bngState).get key =
          some state := by rwa [← hstates]
      rw [OrderedMap.get_set] at hset
      split at hset
      next hkey =>
        cases Option.some.inj hset
        rw [hkey, bngKey, hsubscriber, hbng]
      next => exact h key state hset
  · obtain ⟨hstates, _⟩ := step_others config tenant fun payload he => hop ⟨payload, he⟩
    intro key state hget
    exact h key state (by rwa [← hstates])

/-- The states `getState` lists for a subscriber. -/
def statesOf (tenant : Tenant) (s : String) : List BngState :=
  tenant.bngState.values.filter (·.subscriberId = s)

/-- An application lists the same states as before for every subscriber it is not for. -/
def FramesOthers (config : IspConfig) (tenant : Tenant) (payload : PolicyInput) : Prop :=
  ∀ s, subscriberOf tenant payload ≠ some s →
    statesOf (tenant.step config (.apply payload)) s = statesOf tenant s

theorem framesOthers_iff (config : IspConfig) {tenant : Tenant} (hkeyed : KeyedStates tenant)
    (payload : PolicyInput) :
    FramesOthers config tenant payload ↔ OwnKey config tenant payload := by
  cases apply_application config tenant payload with
  | fails hnot hstates hpolicies =>
    refine iff_of_true ?_ ?_
    · intro s _
      rw [statesOf, Tenant.step, hstates]
      rfl
    · intro resolved happlies
      exact absurd happlies (hnot resolved)
  | records resolved policy happlies hsubscriber hbng hstates hpolicies =>
    obtain ⟨tenant₁, hresolve⟩ := happlies.1
    have hfor := (resolve_spec hresolve).1
    have hothers : ∀ s, s ≠ resolved.subscriberId →
        (statesOf (tenant.step config (.apply payload)) s = statesOf tenant s ↔
          ∀ old, tenant.bngState.get (bngKey config resolved) = some old → old.subscriberId ≠ s) := by
      intro s hs
      rw [statesOf, Tenant.step, hstates, statesOf, OrderedMap.filter_values_set]
      · simp
      · simp [hsubscriber, Ne.symm hs]
    refine ⟨?_, ?_⟩
    · intro hframes resolved' happlies' state hstate hkey
      obtain ⟨⟨tenant₂, hresolve'⟩, _⟩ := happlies'
      obtain ⟨hsame, _⟩ := Prod.mk.inj (Except.ok.inj (hresolve.symm.trans hresolve'))
      subst hsame
      obtain ⟨key, hget⟩ := OrderedMap.mem_values.mp hstate
      have hheld : tenant.bngState.get (bngKey config resolved) = some state := by
        rw [← hkey, ← hkeyed key state hget, hget]
      by_contra hne
      have hframe := hframes state.subscriberId (by rw [hfor]; simpa using Ne.symm hne)
      exact (hothers _ hne).mp hframe state hheld rfl
    · intro hown s hs
      rw [hfor] at hs
      have hne : s ≠ resolved.subscriberId := fun he => hs (by rw [he])
      rw [hothers s hne]
      intro old hold he
      have hkey := hkeyed _ old hold
      exact hne (he.symm.trans (hown resolved happlies old (OrderedMap.mem_values.mpr ⟨_, hold⟩)
        hkey.symm))

/-- The state of a policy stands under its key, and nothing else does. -/
def PoliciesListed (tenant : Tenant) : Prop :=
  ∀ s policy, tenant.policies.get s = some policy →
    policy.bngState.subscriberId = s ∧
      tenant.bngState.get (policy.bngState.bngId ++ ":" ++ s) = some policy.bngState

theorem policiesListed_empty : PoliciesListed .empty := by
  intro s policy h
  simp [Tenant.empty] at h

/-- What an operation with a key of its own keeps; it is an application only where it says so. -/
def KeepsStates (config : IspConfig) (tenant : Tenant) : TenantOp → Prop
  | .apply payload => OwnKey config tenant payload
  | _ => True

theorem step_policiesListed (config : IspConfig) {tenant : Tenant} (h : PoliciesListed tenant)
    (op : TenantOp) (hown : KeepsStates config tenant op) :
    PoliciesListed (tenant.step config op) := by
  by_cases hop : ∃ payload, op = .apply payload
  · obtain ⟨payload, rfl⟩ := hop
    cases apply_application config tenant payload with
    | fails hnot hstates hpolicies =>
      intro s policy hget
      rw [Tenant.step, hpolicies] at hget
      rw [Tenant.step, hstates]
      exact h s policy hget
    | records resolved applied happlies hsubscriber hbng hstates hpolicies =>
      intro s policy hget
      rw [Tenant.step, hpolicies, OrderedMap.get_set] at hget
      rw [Tenant.step, hstates, OrderedMap.get_set]
      split at hget
      next hs =>
        cases Option.some.inj hget
        subst hs
        exact ⟨hsubscriber, by rw [if_pos (by rw [bngKey, hbng])]⟩
      next hs =>
        obtain ⟨hfor, hlisted⟩ := h s policy hget
        refine ⟨hfor, ?_⟩
        have hkey : policy.bngState.bngId ++ ":" ++ s ≠ bngKey config resolved := by
          intro he
          have hmem := OrderedMap.mem_values.mpr ⟨_, hlisted⟩
          have hsame := hown resolved happlies _ hmem (by rw [hfor, he])
          exact hs (hfor.symm.trans hsame)
        rw [if_neg hkey, hlisted]
  · obtain ⟨hstates, hpolicies⟩ := step_others config tenant fun payload he => hop ⟨payload, he⟩
    intro s policy hget
    rw [hpolicies] at hget
    rw [hstates]
    exact h s policy hget

namespace TenantStore

theorem getState_eq (store : TenantStore) (t s : String) :
    store.getState t s = statesOf (store.getTenant t).tenant s := rfl

theorem getPolicy_bngState {store : TenantStore} {t s : String} {policy : Policy}
    (h : store.getPolicy t s = some policy) :
    ∃ stored, (store.getTenant t).tenant.policies.get s = some stored ∧
      policy.bngState = stored.bngState := by
  obtain ⟨stored, hget, rfl⟩ := Option.map_eq_some_iff.mp h
  refine ⟨stored, hget, ?_⟩
  unfold readPolicy
  split <;> rfl

def blocksAt (bngId s : String) : TenantOp :=
  .apply ⟨some s, none, some "10.64.12.34", some bngId, .BLOCK, none⟩

end TenantStore

end Isp

end GuardTime
