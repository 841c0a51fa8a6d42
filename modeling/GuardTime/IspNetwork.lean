import GuardTime.IspTenant
import GuardTime.PrefixRuns

namespace GuardTime

namespace Isp

/-- What the vendor commands act on. A blackhole route is there as long as some subscriber whose
policy placed it is noted for its address. -/
structure Network where
  placed : String → String → Bool
  filterId : String → String
  qosProfile : String → Option String
  rate : String → Option String
  dnsPolicy : String → Option BngAction

def Network.empty : Network where
  placed := fun _ _ => false
  filterId := fun _ => "default"
  qosProfile := fun _ => none
  rate := fun _ => none
  dnsPolicy := fun _ => none

/-- Executes a command of a policy of the subscriber `owner`. -/
def Network.exec (owner : String) (n : Network) : VendorCommand → Network
  | .routeAddBlackhole ip =>
    { n with placed := Function.update n.placed ip (Function.update (n.placed ip) owner true) }
  | .routeDelBlackhole ip => { n with placed := Function.update n.placed ip fun _ => false }
  | .coaFilterId s filterId => { n with filterId := Function.update n.filterId s filterId }
  | .coaQosProfile s profile => { n with qosProfile := Function.update n.qosProfile s (some profile) }
  | .qosSet s rate => { n with rate := Function.update n.rate s (some rate) }
  | .qosClear s => { n with rate := Function.update n.rate s none }
  | .dnsPolicySet s action => { n with dnsPolicy := Function.update n.dnsPolicy s (some action) }

def Network.execAll (owner : String) (n : Network) (commands : List VendorCommand) : Network :=
  commands.foldl (Network.exec owner) n

/-- The network state of one subscriber: its blackhole routes, its filter and its rate. -/
structure SubscriberView where
  routes : String → Bool
  filterId : String
  rate : Option String

def Network.viewOf (n : Network) (s : String) : SubscriberView :=
  ⟨fun ip => n.placed ip s, n.filterId s, n.rate s⟩

inductive Event where
  | session (data : SessionData)
  | stop (subscriberId : String)
  | lease (data : LeaseData)
  | apply (payload : PolicyInput)

/-- The last session or lease update that named an address. -/
structure Naming where
  subscriberId : String
  active : Bool
deriving DecidableEq

structure IspState where
  tenant : Tenant
  network : Network
  named : String → Option Naming

def IspState.start : IspState := ⟨.empty, .empty, fun _ => none⟩

/-- One request of the tenant; one that throws may still have touched the tenant's records. -/
def step (config : IspConfig) (state : IspState) : Event → IspState
  | .session data =>
    match upsertSession config state.tenant data with
    | .error _ => state
    | .ok (session, tenant) => { state with
        tenant
        named := Function.update state.named session.assignedIp
          (some ⟨session.subscriberId, session.active⟩) }
  | .stop subscriberId => { state with tenant := (stopSession state.tenant subscriberId).2 }
  | .lease data =>
    match upsertLease state.tenant data with
    | .error _ => state
    | .ok (lease, tenant) => { state with
        tenant
        named := Function.update state.named lease.ipAddress (some ⟨lease.subscriberId, true⟩) }
  | .apply payload =>
    match apply config state.tenant payload with
    | (.error _, tenant) => { state with tenant }
    | (.ok policy, tenant) => { state with
        tenant
        network := state.network.execAll policy.subscriberId policy.bngState.vendorCommands }

def run (config : IspConfig) (events : List Event) : IspState :=
  events.foldl (step config) .start

/-- A law of the start that a step keeps exactly when its event is allowed holds after every prefix
of a run exactly when every event is. -/
theorem run_prefix_iff {config : IspConfig} {events : List Event} {Law : IspState → Prop}
    (Allowed : IspState → Event → Prop) (hstart : Law .start)
    (hstep : ∀ n event, Law (run config (events.take n)) →
      (Law (step config (run config (events.take n)) event) ↔
        Allowed (run config (events.take n)) event)) :
    (∀ n, Law (run config (events.take n))) ↔
      ∀ n event, events[n]? = some event → Allowed (run config (events.take n)) event :=
  foldl_prefix_iff (step config) .start events Law Allowed hstart hstep

/-- Every subscriber that received a policy has the network state its last policy alone gives. -/
def LastPolicyWins (state : IspState) : Prop :=
  ∀ s policy, state.tenant.policies.get s = some policy →
    state.network.viewOf s = (Network.empty.execAll s policy.bngState.vendorCommands).viewOf s

/-- The policy of the subscriber `s` undoes, or builds on, what the last policies left. -/
def Undoes (tenant : Tenant) (s ip : String) : BngAction → Prop
  | .BLOCK => ∀ last, tenant.policies.get s = some last → last.bngState.action ≠ .THROTTLE ∧
      (last.bngState.action = .BLOCK → last.bngState.enforcementIp = ip)
  | .THROTTLE => ∀ last, tenant.policies.get s = some last → last.bngState.action ≠ .BLOCK
  | .ALLOW => ∀ s' last, tenant.policies.get s' = some last → last.bngState.action = .BLOCK →
      (last.bngState.enforcementIp = ip ↔ s' = s)

/-- A policy that is applied undoes, or builds on, what the last policies left. -/
def UndoesLast (tenant : Tenant) : Event → Prop
  | .apply payload => ∀ resolved tenant' ip action,
      resolve tenant payload = .ok (resolved, tenant') → truthy resolved.enforcementIp = some ip →
      normalizeAction payload.action = .ok action → Undoes tenant resolved.subscriberId ip action
  | _ => True

/-- The view an action alone leaves of its subscriber. -/
def viewFor (ip : String) : BngAction → SubscriberView
  | .BLOCK => ⟨fun x => x = ip, "guardtime-block", none⟩
  | .THROTTLE => ⟨fun _ => false, "default", some "1kbit"⟩
  | .ALLOW => ⟨fun _ => false, "default", none⟩

/-- What a policy at `ip` does to the view of its own subscriber. -/
def SubscriberView.enforce (ip : String) : BngAction → SubscriberView → SubscriberView
  | .BLOCK, v => ⟨Function.update v.routes ip true, "guardtime-block", v.rate⟩
  | .THROTTLE, v => ⟨v.routes, v.filterId, some "1kbit"⟩
  | .ALLOW, v => ⟨Function.update v.routes ip false, "default", none⟩

/-- What a policy at `ip` does to the view of another subscriber. -/
def SubscriberView.suffer (ip : String) : BngAction → SubscriberView → SubscriberView
  | .ALLOW, v => ⟨Function.update v.routes ip false, v.filterId, v.rate⟩
  | _, v => v

theorem viewOf_execAll (n : Network) (owner ip : String) (action : BngAction) (s : String) :
    (n.execAll owner (buildVendorCommands owner ip action)).viewOf s =
      if s = owner then (n.viewOf s).enforce ip action else (n.viewOf s).suffer ip action := by
  have hroutes : ∀ (f : String → String → Bool) (g : String → Bool),
      (fun x => Function.update f ip g x s) = Function.update (fun x => f x s) ip (g s) := by
    intro f g
    funext x
    by_cases hx : x = ip
    · simp [hx]
    · simp [hx]
  by_cases hs : s = owner
  · subst s
    cases action <;>
      simp [Network.execAll, buildVendorCommands, Network.exec, Network.viewOf,
        SubscriberView.enforce, hroutes]
  · cases action <;>
      simp [Network.execAll, buildVendorCommands, Network.exec, Network.viewOf,
        SubscriberView.suffer, hroutes, hs]

theorem viewOf_empty (s ip : String) : Network.empty.viewOf s = viewFor ip .ALLOW := rfl

theorem enforce_empty (ip ip' : String) (action : BngAction) :
    (viewFor ip' .ALLOW).enforce ip action = viewFor ip action := by
  cases action with
  | BLOCK =>
    simp only [viewFor, SubscriberView.enforce, SubscriberView.mk.injEq, and_self, and_true]
    funext x
    by_cases hx : x = ip
    · simp [hx]
    · simp [hx]
  | THROTTLE => rfl
  | ALLOW =>
    simp only [viewFor, SubscriberView.enforce, SubscriberView.mk.injEq, and_self, and_true]
    exact Function.update_eq_self ip fun _ => false

/-- Setting the route of one address leaves no other one exactly if it was this address's. -/
theorem route_set_iff (ip ip' : String) (present : Bool) :
    Function.update (fun x => decide (x = ip')) ip present = (fun x => present && decide (x = ip)) ↔
      ip' = ip := by
  refine ⟨?_, ?_⟩
  · intro h
    by_contra hne
    have hother := congrFun h ip'
    simp [hne] at hother
  · rintro rfl
    funext x
    by_cases hx : x = ip'
    · simp [hx]
    · simp [hx]

theorem route_added_iff (ip ip' : String) :
    Function.update (fun x => decide (x = ip')) ip true = (fun x => decide (x = ip)) ↔ ip' = ip := by
  simpa using route_set_iff ip ip' true

theorem route_deleted_iff (ip ip' : String) :
    Function.update (fun x => decide (x = ip')) ip false = (fun _ => false) ↔ ip' = ip := by
  simpa using route_set_iff ip ip' false

/-- A policy of `s` after its last one leaves its own view just when it undoes, or builds on, it. -/
theorem enforce_viewFor_iff (ip ip' : String) (action last : BngAction) :
    (viewFor ip' last).enforce ip action = viewFor ip action ↔
      match action with
      | .BLOCK => last ≠ .THROTTLE ∧ (last = .BLOCK → ip' = ip)
      | .THROTTLE => last ≠ .BLOCK
      | .ALLOW => last = .BLOCK → ip' = ip := by
  have hadd := enforce_empty ip ip' .BLOCK
  have hdel := enforce_empty ip ip' .ALLOW
  simp only [viewFor, SubscriberView.enforce, SubscriberView.mk.injEq, and_true] at hadd hdel
  cases action <;> cases last <;>
    simp [viewFor, SubscriberView.enforce, route_added_iff, route_deleted_iff, hadd]

/-- A policy spares the view of another subscriber unless it takes away its route. -/
theorem suffer_viewFor_iff (ip ip' : String) (action last : BngAction) :
    (viewFor ip' last).suffer ip action = viewFor ip' last ↔
      (action = .ALLOW → last = .BLOCK → ip' ≠ ip) := by
  have hswap : ¬ip = ip' ↔ ¬ip' = ip := not_congr eq_comm
  cases action <;> cases last <;> simp [viewFor, SubscriberView.suffer, hswap]

/-- The recorded policies are those of their subscribers, and a subscriber without one was left
alone. -/
structure Recorded (state : IspState) : Prop where
  own : ∀ s policy, state.tenant.policies.get s = some policy → policy.bngState.subscriberId = s
  untouched : ∀ s, state.tenant.policies.get s = none →
    state.network.viewOf s = Network.empty.viewOf s

theorem recorded_start : Recorded .start := ⟨fun _ _ h => by simp [IspState.start, Tenant.empty] at h, fun _ _ => rfl⟩

theorem lastPolicy_view {state : IspState} (hr : Recorded state) {s : String} {policy : Policy}
    (h : state.tenant.policies.get s = some policy) :
    (Network.empty.execAll s policy.bngState.vendorCommands).viewOf s =
      viewFor policy.bngState.enforcementIp policy.bngState.action := by
  have hbuilt := policy.bngState.built
  rw [hr.own s policy h] at hbuilt
  rw [hbuilt, viewOf_execAll, if_pos rfl, viewOf_empty s policy.bngState.enforcementIp, enforce_empty]

theorem step_same {config : IspConfig} {state : IspState} {event : Event}
    (h : ∀ payload, event ≠ .apply payload) :
    (step config state event).tenant.policies = state.tenant.policies ∧
      (step config state event).network = state.network := by
  cases event with
  | session data =>
    simp only [step]
    split
    next => exact ⟨rfl, rfl⟩
    next session tenant hs =>
      obtain ⟨_, _, _, ht⟩ := upsertSession_spec hs
      exact ⟨by rw [ht], rfl⟩
  | stop s => exact ⟨stopSession_policies _ s, rfl⟩
  | lease data =>
    simp only [step]
    split
    next => exact ⟨rfl, rfl⟩
    next lease tenant hl =>
      obtain ⟨_, _, _, ht⟩ := upsertLease_spec hl
      exact ⟨by rw [ht], rfl⟩
  | apply payload => exact absurd rfl (h payload)

theorem step_apply_error {config : IspConfig} {state : IspState} {payload : PolicyInput}
    {message : String} {tenant : Tenant}
    (h : apply config state.tenant payload = (.error message, tenant)) :
    (step config state (.apply payload)).tenant.policies = state.tenant.policies ∧
      (step config state (.apply payload)).network = state.network := by
  simp only [step, h]
  refine ⟨?_, trivial⟩
  rcases apply_error h with rfl | ⟨resolved, hr⟩
  · rfl
  · rw [(resolve_spec hr).2]

theorem step_apply_ok {config : IspConfig} {state : IspState} {payload : PolicyInput}
    {policy : Policy} {tenant : Tenant}
    (h : apply config state.tenant payload = (.ok policy, tenant)) :
    policy.bngState.subscriberId = policy.subscriberId ∧
      (step config state (.apply payload)).tenant.policies =
        state.tenant.policies.set policy.subscriberId policy ∧
      ∀ s, (step config state (.apply payload)).network.viewOf s =
        if s = policy.subscriberId then
          (state.network.viewOf s).enforce policy.bngState.enforcementIp policy.bngState.action
        else (state.network.viewOf s).suffer policy.bngState.enforcementIp policy.bngState.action := by
  obtain ⟨resolved, _, _, _, _, _, hs, hb, hp, _, _⟩ := apply_spec h
  simp only [step, h]
  refine ⟨hb.trans hs.symm, by rw [hp, hs], fun s => ?_⟩
  rw [policy.bngState.built, hb.trans hs.symm, viewOf_execAll]

theorem step_recorded (config : IspConfig) {state : IspState} (hr : Recorded state) (event : Event) :
    Recorded (step config state event) := by
  have hsame : (step config state event).tenant.policies = state.tenant.policies →
      (step config state event).network = state.network → Recorded (step config state event) := by
    intro hp hn
    refine ⟨fun s policy h => hr.own s policy (hp ▸ h), fun s h => ?_⟩
    rw [hn]
    exact hr.untouched s (hp ▸ h)
  cases event with
  | apply payload =>
    cases h : apply config state.tenant payload with
    | mk result tenant =>
      cases result with
      | error message => exact hsame (step_apply_error h).1 (step_apply_error h).2
      | ok policy =>
        obtain ⟨hown, hp, hv⟩ := step_apply_ok h
        refine ⟨fun s last hl => ?_, fun s hn => ?_⟩
        · rw [hp, OrderedMap.get_set] at hl
          split at hl
          next hs => cases Option.some.inj hl; exact hown.trans hs.symm
          next => exact hr.own s last hl
        · rw [hp, OrderedMap.get_set] at hn
          split at hn
          next => simp at hn
          next hs =>
            rw [hv, if_neg hs, hr.untouched s hn]
            exact (suffer_viewFor_iff _ "" _ .ALLOW).mpr (by simp)
  | session data => exact hsame (step_same (by simp)).1 (step_same (by simp)).2
  | stop s => exact hsame (step_same (by simp)).1 (step_same (by simp)).2
  | lease data => exact hsame (step_same (by simp)).1 (step_same (by simp)).2

/-- An application keeps the law exactly when what it does to its own subscriber's view, and to each
other's, leaves the last policies in force. -/
theorem apply_views_iff {config : IspConfig} {state : IspState} {payload : PolicyInput}
    {policy : Policy} {tenant : Tenant} (hr : Recorded state)
    (h : apply config state.tenant payload = (.ok policy, tenant)) :
    LastPolicyWins (step config state (.apply payload)) ↔
      (state.network.viewOf policy.subscriberId).enforce policy.bngState.enforcementIp
          policy.bngState.action = viewFor policy.bngState.enforcementIp policy.bngState.action ∧
        ∀ s, s ≠ policy.subscriberId → ∀ last, state.tenant.policies.get s = some last →
          (state.network.viewOf s).suffer policy.bngState.enforcementIp policy.bngState.action =
            viewFor last.bngState.enforcementIp last.bngState.action := by
  obtain ⟨_, hp, hv⟩ := step_apply_ok h
  have hr' := step_recorded config hr (.apply payload)
  refine ⟨?_, ?_⟩
  · intro hlaw
    refine ⟨?_, fun s hs last hl => ?_⟩
    · have hl : (step config state (.apply payload)).tenant.policies.get policy.subscriberId =
          some policy := by rw [hp, OrderedMap.get_set_self]
      rw [← lastPolicy_view hr' hl, ← hlaw _ policy hl, hv, if_pos rfl]
    · have hl' : (step config state (.apply payload)).tenant.policies.get s = some last := by
        rw [hp, OrderedMap.get_set_of_ne _ hs, hl]
      rw [← lastPolicy_view hr' hl', ← hlaw s last hl', hv, if_neg hs]
  · rintro ⟨hself, hother⟩ s last hl
    rw [lastPolicy_view hr' hl, hv]
    rw [hp, OrderedMap.get_set] at hl
    split at hl
    next hs => cases Option.some.inj hl; rw [if_pos hs, hs, hself]
    next hs => rw [if_neg hs, hother s hs last hl]

/-- An application keeps the law exactly when it undoes, or builds on, the last policies. -/
theorem apply_lastPolicyWins_iff {config : IspConfig} {state : IspState} {payload : PolicyInput}
    {policy : Policy} {tenant : Tenant} (hr : Recorded state) (hw : LastPolicyWins state)
    (h : apply config state.tenant payload = (.ok policy, tenant)) :
    LastPolicyWins (step config state (.apply payload)) ↔
      Undoes state.tenant policy.subscriberId policy.bngState.enforcementIp policy.bngState.action := by
  have hbefore : ∀ s last, state.tenant.policies.get s = some last →
      state.network.viewOf s = viewFor last.bngState.enforcementIp last.bngState.action :=
    fun s last hl => (hw s last hl).trans (lastPolicy_view hr hl)
  have hown : (state.network.viewOf policy.subscriberId).enforce policy.bngState.enforcementIp
        policy.bngState.action = viewFor policy.bngState.enforcementIp policy.bngState.action ↔
      ∀ last, state.tenant.policies.get policy.subscriberId = some last →
        match policy.bngState.action with
        | .BLOCK => last.bngState.action ≠ .THROTTLE ∧
            (last.bngState.action = .BLOCK →
              last.bngState.enforcementIp = policy.bngState.enforcementIp)
        | .THROTTLE => last.bngState.action ≠ .BLOCK
        | .ALLOW => last.bngState.action = .BLOCK →
            last.bngState.enforcementIp = policy.bngState.enforcementIp := by
    cases hl : state.tenant.policies.get policy.subscriberId with
    | none =>
      rw [hr.untouched _ hl, viewOf_empty _ policy.bngState.enforcementIp, enforce_empty]
      simp
    | some last => simp only [hbefore _ last hl, enforce_viewFor_iff, Option.some.injEq, forall_eq']
  have hothers : ∀ s, s ≠ policy.subscriberId → ∀ last, state.tenant.policies.get s = some last →
      ((state.network.viewOf s).suffer policy.bngState.enforcementIp policy.bngState.action =
          viewFor last.bngState.enforcementIp last.bngState.action ↔
        (policy.bngState.action = .ALLOW → last.bngState.action = .BLOCK →
          last.bngState.enforcementIp ≠ policy.bngState.enforcementIp)) := by
    intro s _ last hl
    rw [hbefore s last hl, suffer_viewFor_iff]
  rw [apply_views_iff hr h, hown]
  cases ha : policy.bngState.action with
  | BLOCK =>
    simp only [ha, reduceCtorEq, false_implies, iff_true] at hothers
    exact ⟨fun h => h.1, fun h => ⟨h, hothers⟩⟩
  | THROTTLE =>
    simp only [ha, reduceCtorEq, false_implies, iff_true] at hothers
    exact ⟨fun h => h.1, fun h => ⟨h, hothers⟩⟩
  | ALLOW =>
    simp only [ha, true_implies] at hothers
    refine ⟨?_, ?_⟩
    · rintro ⟨hself, hother⟩ s last hl hb
      refine ⟨?_, ?_⟩
      · intro hip
        by_contra hs
        exact (hothers s hs last hl).mp (hother s hs last hl) hb hip
      · rintro rfl
        exact hself last hl hb
    · intro h
      refine ⟨fun last hl hb => (h _ last hl hb).mpr rfl, fun s hs last hl => ?_⟩
      exact (hothers s hs last hl).mpr fun hb hip => hs ((h s last hl hb).mp hip)

theorem step_lastPolicyWins_iff {config : IspConfig} {state : IspState} {event : Event}
    (hr : Recorded state) (hw : LastPolicyWins state) :
    LastPolicyWins (step config state event) ↔ UndoesLast state.tenant event := by
  have hsame : (step config state event).tenant.policies = state.tenant.policies →
      (step config state event).network = state.network →
      LastPolicyWins (step config state event) := by
    intro hp hn s policy h
    rw [hn]
    exact hw s policy (hp ▸ h)
  cases event with
  | apply payload =>
    cases h : apply config state.tenant payload with
    | mk result tenant =>
      cases result with
      | error message =>
        refine iff_of_true (hsame (step_apply_error h).1 (step_apply_error h).2) ?_
        intro resolved tenant' ip action hresolve hip haction
        obtain ⟨policy, tenant'', hok⟩ := apply_succeeds config hresolve hip haction
        simp [hok] at h
      | ok policy =>
        rw [apply_lastPolicyWins_iff hr hw h]
        obtain ⟨resolved, tenant', hresolve, hip, haction, _, hs, _⟩ := apply_spec h
        refine ⟨?_, ?_⟩
        · intro hu resolved₁ tenant₁ ip₁ action₁ hresolve₁ hip₁ haction₁
          obtain ⟨rfl, rfl⟩ := Prod.mk.inj (Except.ok.inj (hresolve.symm.trans hresolve₁))
          cases Option.some.inj (hip.symm.trans hip₁)
          cases Except.ok.inj (haction.symm.trans haction₁)
          exact hs ▸ hu
        · intro hu
          exact hs ▸ hu resolved tenant' _ _ hresolve hip haction
  | session data => exact iff_of_true (hsame (step_same (by simp)).1 (step_same (by simp)).2) trivial
  | stop s => exact iff_of_true (hsame (step_same (by simp)).1 (step_same (by simp)).2) trivial
  | lease data => exact iff_of_true (hsame (step_same (by simp)).1 (step_same (by simp)).2) trivial

theorem run_recorded (config : IspConfig) (events : List Event) : Recorded (run config events) := by
  unfold run
  exact foldl_keeps (P := Recorded) (fun _ event h => step_recorded config h event) events
    recorded_start

/-- The last policies win after every prefix of a run exactly when each policy that is applied
undoes, or builds on, what the last policies left. -/
theorem lastPolicyWins_iff (config : IspConfig) (events : List Event) :
    (∀ n, LastPolicyWins (run config (events.take n))) ↔
      ∀ n event, events[n]? = some event →
        UndoesLast (run config (events.take n)).tenant event := by
  refine run_prefix_iff (fun state event => UndoesLast state.tenant event) ?_
    fun n event hw => step_lastPolicyWins_iff (run_recorded config _) hw
  intro s policy hp
  simp [IspState.start, Tenant.empty] at hp

def sampleIsp : IspConfig := ⟨"bng-algiers-01"⟩

def sessionAt (ip : String) : Event :=
  .session ⟨some "AT-000123", some ip, none, none, none, none, none, none⟩

def policyOf (action : Action) : Event :=
  .apply ⟨some "AT-000123", none, none, none, action, none⟩

/-- A subscriber is blocked, gets another address and is allowed again. -/
def movedSubscriber : List Event :=
  [sessionAt "10.64.12.34", policyOf .BLOCK, sessionAt "10.64.12.35", policyOf .ALLOW]

/-- The blackhole route to the old address stays. -/
theorem movedSubscriber_keeps_route :
    ((run sampleIsp movedSubscriber).network.viewOf "AT-000123").routes "10.64.12.34" = true ∧
      ¬LastPolicyWins (run sampleIsp movedSubscriber) := by
  have hroute : ((run sampleIsp movedSubscriber).network.viewOf "AT-000123").routes
      "10.64.12.34" = true := by decide +kernel
  refine ⟨hroute, fun h => ?_⟩
  cases hp : (run sampleIsp movedSubscriber).tenant.policies.get "AT-000123" with
  | none =>
    have hsome : ((run sampleIsp movedSubscriber).tenant.policies.get "AT-000123").isSome = true := by
      decide +kernel
    simp [hp] at hsome
  | some policy =>
    have haction : ((run sampleIsp movedSubscriber).tenant.policies.get "AT-000123").map
        (·.bngState.action) = some .ALLOW := by decide +kernel
    rw [hp] at haction
    have hview := h _ policy hp
    rw [lastPolicy_view (run_recorded _ _) hp,
      show policy.bngState.action = .ALLOW from Option.some.inj haction] at hview
    rw [hview] at hroute
    simp [viewFor] at hroute

end Isp

end GuardTime
