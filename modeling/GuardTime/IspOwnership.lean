import GuardTime.IspNetwork

namespace GuardTime

namespace Isp

def VendorCommand.address : VendorCommand → Option String
  | .routeAddBlackhole ip => some ip
  | .routeDelBlackhole ip => some ip
  | _ => none

/-- The address the records hold for a subscriber when its policy names none. -/
def recordedIp (tenant : Tenant) (s : String) : Option String :=
  match getSession tenant s with
  | some session => some session.assignedIp
  | none => (listBySubscriber tenant s).head?.map Lease.ipAddress

/-- Every command that names an address from the records names one whose last update was of the
same subscriber, and active. -/
def EnforcesOwn (config : IspConfig) (state : IspState) : Prop :=
  ∀ payload policy tenant', apply config state.tenant payload = (.ok policy, tenant') →
    (policy.resolved.radiusSession.isSome ∨ truthy payload.assignedIp = none) →
    ∀ c ∈ policy.bngState.vendorCommands, ∀ ip, c.address = some ip →
      state.named ip = some ⟨policy.subscriberId, true⟩

/-- No other subscriber would be enforced at the address. -/
def NotOthers (tenant : Tenant) (s ip : String) : Prop :=
  ∀ s', s' ≠ "" → s' ≠ s → recordedIp tenant s' ≠ some ip

/-- The update is active and takes no address that the records still hold for another, and a stop
does not uncover a lease whose address has gone to another. -/
def KeepsOwners (state : IspState) : Event → Prop
  | .session data => ∀ s ip, truthy data.subscriberId = some s → truthy data.assignedIp = some ip →
      data.active.getD true = true ∧ NotOthers state.tenant s ip
  | .stop s => s ≠ "" → (getSession state.tenant s).isSome →
      ∀ lease, (listBySubscriber state.tenant s).head? = some lease →
        state.named lease.ipAddress = some ⟨s, true⟩
  | .lease data => ∀ s ip, (truthy data.macAddress).isSome → truthy data.subscriberId = some s →
      truthy data.ipAddress = some ip → NotOthers state.tenant s ip
  | .apply _ => True

/-- Every recorded address was last named by its subscriber, and active. -/
def OwnersCurrent (state : IspState) : Prop :=
  ∀ s ip, s ≠ "" → recordedIp state.tenant s = some ip → state.named ip = some ⟨s, true⟩

theorem truthy_some {text : String} (h : text ≠ "") : truthy (some text) = some text := by
  simp [truthy, h]

theorem listBySubscriber_eq (tenant : Tenant) (s : String) :
    listBySubscriber tenant s = (ensureSubscriber tenant s).devices.values := by
  unfold listBySubscriber ensureSubscriber
  cases tenant.subscribers.get s <;> rfl

theorem ensureSubscriber_set {tenant tenant' : Tenant} {s : String} {subscriber : Subscriber}
    (h : tenant'.subscribers = tenant.subscribers.set s subscriber) (s' : String) :
    ensureSubscriber tenant' s' = if s' = s then subscriber else ensureSubscriber tenant s' := by
  simp only [ensureSubscriber, h, OrderedMap.get_set]
  split
  next => rfl
  next => rfl

/-- The records name an address for a subscriber just when a policy that names none is enforced
there. -/
theorem recordedIp_iff {tenant tenant' : Tenant} {input : PolicyInput} {resolved : Resolved}
    (h : resolve tenant input = .ok (resolved, tenant'))
    (hrecords : resolved.radiusSession.isSome ∨ truthy input.assignedIp = none) (ip : String) :
    recordedIp tenant resolved.subscriberId = some ip ↔ truthy resolved.enforcementIp = some ip := by
  obtain ⟨hsession, hip⟩ := resolve_records h
  rw [hip, hsession]
  unfold recordedIp
  cases hs : getSession tenant resolved.subscriberId with
  | some session => simp [truthy_some session.assigned]
  | none =>
    have hinput : truthy input.assignedIp = none := by
      rcases hrecords with hr | hi
      · rw [hsession, hs] at hr
        simp at hr
      · exact hi
    cases hd : (listBySubscriber tenant resolved.subscriberId).head? with
    | some lease => simp [hinput, truthy_some lease.addressed]
    | none => simp [hinput]

theorem address_of_built {s ip : String} {action : BngAction} {c : VendorCommand}
    (hc : c ∈ buildVendorCommands s ip action) {x : String} (hx : c.address = some x) : x = ip := by
  cases action <;>
    simp only [buildVendorCommands, List.mem_cons, List.not_mem_nil, or_false] at hc <;>
    rcases hc with rfl | rfl | rfl | rfl <;> simp_all [VendorCommand.address]

theorem enforcesOwn_iff (config : IspConfig) (state : IspState) :
    EnforcesOwn config state ↔ OwnersCurrent state := by
  refine ⟨?_, ?_⟩
  · intro h s ip hs hip
    have hsub : subscriberOf state.tenant ⟨some s, none, none, none, .BLOCK, none⟩ = some s := by
      simp [subscriberOf, truthy_some hs]
    cases hresolve : resolve state.tenant ⟨some s, none, none, none, .BLOCK, none⟩ with
    | error message => simp [resolve, hsub] at hresolve
    | ok result =>
      obtain ⟨resolved, tenant₁⟩ := result
      have hres := Option.some.inj ((resolve_spec hresolve).1.symm.trans hsub)
      have henforced : truthy resolved.enforcementIp = some ip :=
        (recordedIp_iff hresolve (Or.inr rfl) ip).mp (hres ▸ hip)
      obtain ⟨policy, tenant', happly⟩ := apply_succeeds config hresolve henforced rfl
      obtain ⟨resolved', _, hresolve', hip', haction, _, hsub', _⟩ := apply_spec happly
      obtain ⟨rfl, _⟩ := Prod.mk.inj (Except.ok.inj (hresolve.symm.trans hresolve'))
      have hmem : VendorCommand.routeAddBlackhole ip ∈ policy.bngState.vendorCommands := by
        rw [policy.bngState.built, ← Except.ok.inj haction, ← Option.some.inj (henforced.symm.trans hip')]
        simp [buildVendorCommands]
      have hnamed := h _ policy tenant' happly (Or.inr rfl) _ hmem ip rfl
      rwa [hsub', hres] at hnamed
  · intro h payload policy tenant' happly hrecords c hc ip hcip
    obtain ⟨resolved, tenant₁, hresolve, hip, _, hres, hsub, _⟩ := apply_spec happly
    rw [policy.bngState.built] at hc
    rw [hres] at hrecords
    have hs : resolved.subscriberId ≠ "" := by
      have hof := (resolve_spec hresolve).1
      unfold subscriberOf at hof
      rcases Option.or_eq_some_iff.mp hof with ht | ⟨_, ht⟩
      · exact truthy_ne ht
      · obtain ⟨mac, _, ht⟩ := Option.bind_eq_some_iff.mp ht
        exact truthy_ne ht
    rw [hsub, address_of_built hc hcip]
    exact h _ _ hs ((recordedIp_iff hresolve hrecords _).mpr hip)

theorem recordedIp_congr {tenant tenant' : Tenant} {s : String}
    (hsession : getSession tenant' s = getSession tenant s)
    (hdevices : (ensureSubscriber tenant' s).devices = (ensureSubscriber tenant s).devices) :
    recordedIp tenant' s = recordedIp tenant s := by
  simp only [recordedIp, hsession, listBySubscriber_eq, hdevices]

/-- After an update of `s` at `ip` the recorded addresses stay current just when the update is
active where it shows, and takes the address from no other. -/
theorem naming_iff {state state' : IspState} {s ip : String} {active : Bool}
    (h : OwnersCurrent state) (hs : s ≠ "")
    (hnamed : state'.named = Function.update state.named ip (some ⟨s, active⟩))
    (hothers : ∀ s', s' ≠ s → recordedIp state'.tenant s' = recordedIp state.tenant s')
    (hown : ∀ x, recordedIp state'.tenant s = some x → x = ip ∨ recordedIp state.tenant s = some x)
    (hshown : active = false → recordedIp state'.tenant s = some ip) :
    OwnersCurrent state' ↔ active = true ∧ NotOthers state.tenant s ip := by
  refine ⟨?_, ?_⟩
  · intro h'
    refine ⟨?_, fun s' hs' hne hip => ?_⟩
    · by_contra hf
      have hfalse : active = false := by simpa using hf
      have hn := h' s ip hs (hshown hfalse)
      rw [hnamed, Function.update_self] at hn
      simp [hfalse] at hn
    · have hn := h' s' ip hs' ((hothers s' hne).trans hip)
      rw [hnamed, Function.update_self] at hn
      simp [Ne.symm hne] at hn
  · rintro ⟨rfl, hnot⟩ s' x hs' hx
    rw [hnamed]
    by_cases hxip : x = ip
    · subst hxip
      rw [Function.update_self]
      by_cases hne : s' = s
      · rw [hne]
      · exact absurd ((hothers s' hne).symm.trans hx) (hnot s' hs' hne)
    · rw [Function.update_of_ne hxip]
      by_cases hne : s' = s
      · subst hne
        rcases hown x hx with hxip' | hold
        · exact absurd hxip' hxip
        · exact h s' x hs' hold
      · exact h s' x hs' ((hothers s' hne).symm.trans hx)

theorem upsertSession_error {config : IspConfig} {tenant : Tenant} {data : SessionData}
    {message : String} (h : upsertSession config tenant data = .error message) :
    truthy data.subscriberId = none ∨ truthy data.assignedIp = none := by
  unfold upsertSession at h
  cases hs : required data.subscriberId "subscriberId" with
  | error message => exact Or.inl (required_error hs)
  | ok subscriberId =>
    cases hip : required data.assignedIp "assignedIp" with
    | error message => exact Or.inr (required_error hip)
    | ok assignedIp => simp [hs, hip, bind, Except.bind, pure, Except.pure] at h

theorem upsertLease_error {tenant : Tenant} {data : LeaseData} {message : String}
    (h : upsertLease tenant data = .error message) :
    truthy data.macAddress = none ∨ truthy data.subscriberId = none ∨
      truthy data.ipAddress = none := by
  unfold upsertLease at h
  cases hm : required data.macAddress "macAddress" with
  | error message => exact Or.inl (required_error hm)
  | ok macAddress =>
    cases hs : required data.subscriberId "subscriberId" with
    | error message => exact Or.inr (Or.inl (required_error hs))
    | ok subscriberId =>
      cases hip : required data.ipAddress "ipAddress" with
      | error message => exact Or.inr (Or.inr (required_error hip))
      | ok ipAddress => simp [hm, hs, hip, bind, Except.bind, pure, Except.pure] at h

theorem step_session_iff (config : IspConfig) {state : IspState} (h : OwnersCurrent state)
    (data : SessionData) :
    OwnersCurrent (step config state (.session data)) ↔ KeepsOwners state (.session data) := by
  cases hu : upsertSession config state.tenant data with
  | error message =>
    refine iff_of_true (by simpa [step, hu] using h) fun s ip hs hip => ?_
    rcases upsertSession_error hu with hn | hn
    · simp [hn] at hs
    · simp [hn] at hip
  | ok result =>
    obtain ⟨session, tenant'⟩ := result
    obtain ⟨hs, hip, hactive, ht⟩ := upsertSession_spec hu
    have hrecords : tenant'.subscribers = state.tenant.subscribers.set session.subscriberId
        { ensureSubscriber state.tenant session.subscriberId with activeSession := some session } := by
      rw [ht]
    have hget : ∀ s', getSession tenant' s' =
        if s' = session.subscriberId then some session else getSession state.tenant s' := by
      intro s'
      simp only [ht, getSession, OrderedMap.get_set]
    have hshown : recordedIp tenant' session.subscriberId = some session.assignedIp := by
      simp [recordedIp, hget]
    have hstep : step config state (.session data) = { state with
        tenant := tenant'
        named := Function.update state.named session.assignedIp
          (some ⟨session.subscriberId, session.active⟩) } := by
      simp only [step, hu]
    rw [hstep, naming_iff h (truthy_ne hs) rfl ?_ ?_ fun _ => hshown]
    · rw [hactive]
      refine ⟨?_, ?_⟩
      · intro hk s ip hs' hip'
        cases Option.some.inj (hs.symm.trans hs')
        cases Option.some.inj (hip.symm.trans hip')
        exact hk
      · intro hk
        exact hk _ _ hs hip
    · intro s' hne
      refine recordedIp_congr ?_ ?_
      · rw [hget, if_neg hne]
      · rw [ensureSubscriber_set hrecords, if_neg hne]
    · intro x hx
      exact Or.inl (Option.some.inj (hx.symm.trans hshown))

theorem step_lease_iff (config : IspConfig) {state : IspState} (h : OwnersCurrent state)
    (data : LeaseData) :
    OwnersCurrent (step config state (.lease data)) ↔ KeepsOwners state (.lease data) := by
  cases hu : upsertLease state.tenant data with
  | error message =>
    refine iff_of_true (by simpa [step, hu] using h) fun s ip hm hs hip => ?_
    rcases upsertLease_error hu with hn | hn | hn
    · simp [hn] at hm
    · simp [hn] at hs
    · simp [hn] at hip
  | ok result =>
    obtain ⟨lease, tenant'⟩ := result
    obtain ⟨⟨mac, hmac, -⟩, hs, hip, ht⟩ := upsertLease_spec hu
    have hm : (truthy data.macAddress).isSome := by
      rw [hmac]
      rfl
    have hrecords : tenant'.subscribers = state.tenant.subscribers.set lease.subscriberId
        { ensureSubscriber state.tenant lease.subscriberId with
          devices := (ensureSubscriber state.tenant lease.subscriberId).devices.set
            lease.macAddress lease } := by
      rw [ht]
    have hget : ∀ s', getSession tenant' s' = getSession state.tenant s' := by
      intro s'
      rw [ht]
      rfl
    have hstep : step config state (.lease data) = { state with
        tenant := tenant'
        named := Function.update state.named lease.ipAddress (some ⟨lease.subscriberId, true⟩) } := by
      simp only [step, hu]
    rw [hstep, naming_iff h (truthy_ne hs) rfl ?_ ?_ fun hf => by simp at hf]
    · simp only [true_and]
      refine ⟨?_, ?_⟩
      · intro hk s ip _ hs' hip'
        cases Option.some.inj (hs.symm.trans hs')
        cases Option.some.inj (hip.symm.trans hip')
        exact hk
      · intro hk
        exact hk _ _ hm hs hip
    · intro s' hne
      refine recordedIp_congr (hget s') ?_
      rw [ensureSubscriber_set hrecords, if_neg hne]
    · intro x hx
      rw [recordedIp, hget] at hx
      rw [recordedIp]
      split at hx
      next session hsession => exact Or.inr hx
      next hsession =>
        simp only [listBySubscriber_eq, ensureSubscriber_set hrecords, if_true, OrderedMap.values,
          List.head?_map, OrderedMap.head_set] at hx ⊢
        split at hx
        next => exact Or.inl (by simpa using hx.symm)
        next e he =>
          split at hx
          next => exact Or.inl (by simpa using hx.symm)
          next => exact Or.inr (by simpa [he] using hx)

theorem step_stop_iff (config : IspConfig) {state : IspState} (h : OwnersCurrent state) (s : String) :
    OwnersCurrent (step config state (.stop s)) ↔ KeepsOwners state (.stop s) := by
  cases hs : state.tenant.radiusSessions.get s with
  | none =>
    refine iff_of_true (by simpa [step, stopSession, hs] using h) fun _ hsome => ?_
    simp [getSession, hs] at hsome
  | some session =>
    obtain ⟨tenant', ht⟩ : ∃ tenant', (stopSession state.tenant s).2 = tenant' := ⟨_, rfl⟩
    have hstep : step config state (.stop s) = { state with tenant := tenant' } := by
      simp only [step, ht]
    have hdef : tenant' = { state.tenant with
        radiusSessions := state.tenant.radiusSessions.erase s
        subscribers := state.tenant.subscribers.set s
          { ensureSubscriber state.tenant s with activeSession := none } } := by
      rw [← ht, stopSession, hs]
    have hrecords : tenant'.subscribers = state.tenant.subscribers.set s
        { ensureSubscriber state.tenant s with activeSession := none } := by
      rw [hdef]
    have hget : ∀ s', getSession tenant' s' = if s' = s then none else getSession state.tenant s' := by
      intro s'
      simp only [hdef, getSession, OrderedMap.get_erase]
    have hothers : ∀ s', s' ≠ s → recordedIp tenant' s' = recordedIp state.tenant s' := by
      intro s' hne
      refine recordedIp_congr ?_ ?_
      · rw [hget, if_neg hne]
      · rw [ensureSubscriber_set hrecords, if_neg hne]
    have hself : recordedIp tenant' s = (listBySubscriber state.tenant s).head?.map Lease.ipAddress := by
      simp only [recordedIp, hget, listBySubscriber_eq, ensureSubscriber_set hrecords, if_true]
    rw [hstep]
    refine ⟨?_, ?_⟩
    · intro h' hne _ lease hl
      exact h' s lease.ipAddress hne (by rw [hself, hl]; rfl)
    · intro hk s' ip hne hip
      by_cases hss : s' = s
      · subst hss
        rw [hself] at hip
        obtain ⟨lease, hl, rfl⟩ := Option.map_eq_some_iff.mp hip
        exact hk hne (by simp [getSession, hs]) lease hl
      · exact h s' ip hne ((hothers s' hss).symm.trans hip)

theorem step_apply_ownersCurrent (config : IspConfig) {state : IspState} (h : OwnersCurrent state)
    (payload : PolicyInput) : OwnersCurrent (step config state (.apply payload)) := by
  have hkeep : ∀ state' resolved tenant₁, resolve state.tenant payload = .ok (resolved, tenant₁) →
      state'.named = state.named → state'.tenant.radiusSessions = state.tenant.radiusSessions →
      state'.tenant.subscribers = tenant₁.subscribers → OwnersCurrent state' := by
    intro state' resolved tenant₁ hresolve hn hr hsub s ip hs hip
    rw [(resolve_spec hresolve).2] at hsub
    rw [hn]
    refine h s ip hs (Eq.trans (recordedIp_congr ?_ ?_).symm hip)
    · simp only [getSession, hr]
    · rw [ensureSubscriber_set hsub]
      split
      next hss => rw [hss]
      next => rfl
  cases ha : apply config state.tenant payload with
  | mk result tenant' =>
    cases result with
    | error message =>
      simp only [step, ha]
      rcases apply_error ha with rfl | ⟨resolved, hresolve⟩
      · exact h
      · exact hkeep _ resolved tenant' hresolve rfl (by rw [(resolve_spec hresolve).2]) rfl
    | ok policy =>
      obtain ⟨resolved, tenant₁, hresolve, _, _, _, _, _, _, hr, hsub⟩ := apply_spec ha
      simp only [step, ha]
      exact hkeep _ resolved tenant₁ hresolve rfl hr hsub

theorem step_ownersCurrent_iff (config : IspConfig) {state : IspState} (h : OwnersCurrent state)
    (event : Event) : OwnersCurrent (step config state event) ↔ KeepsOwners state event := by
  cases event with
  | session data => exact step_session_iff config h data
  | stop s => exact step_stop_iff config h s
  | lease data => exact step_lease_iff config h data
  | apply payload => exact iff_of_true (step_apply_ownersCurrent config h payload) trivial

theorem ownersCurrent_start : OwnersCurrent .start := by
  intro s ip _ hip
  simp [recordedIp, getSession, listBySubscriber, IspState.start, Tenant.empty] at hip

/-- Policies enforce only at their own subscriber's addresses after every prefix of a run exactly
when each of its updates keeps the recorded addresses with their owners. -/
theorem enforcesOwn_run_iff (config : IspConfig) (events : List Event) :
    (∀ n, EnforcesOwn config (run config (events.take n))) ↔
      ∀ n event, events[n]? = some event → KeepsOwners (run config (events.take n)) event := by
  simp only [enforcesOwn_iff]
  exact run_prefix_iff KeepsOwners ownersCurrent_start fun n event h => step_ownersCurrent_iff config h event

/-- An address that a subscriber's session still holds is given to another subscriber. -/
def reusedAddress : List Event :=
  [sessionAt "10.64.12.34", .session ⟨some "AT-000124", some "10.64.12.34", none, none, none, none, none, none⟩]

/-- Blocking the first subscriber blackholes the address of the second. -/
theorem reusedAddress_blocks_other :
    ¬∀ n, EnforcesOwn sampleIsp (run sampleIsp (reusedAddress.take n)) := by
  intro h
  have hown := (enforcesOwn_iff sampleIsp _).mp (h 2) "AT-000123" "10.64.12.34" (by decide)
    (by decide +kernel)
  have hnamed : (run sampleIsp (reusedAddress.take 2)).named "10.64.12.34" =
      some ⟨"AT-000124", true⟩ := by decide +kernel
  rw [hnamed] at hown
  simp at hown

end Isp

end GuardTime
