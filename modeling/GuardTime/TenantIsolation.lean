import GuardTime.TenantStore

namespace GuardTime

namespace Isp

/-- What the operations on a tenant act on: its values, the policies whose session was stopped, and
the policies whose session is the one their subscriber has now. -/
structure TenantView where
  tenant : Tenant
  policyStopped : String → Bool
  policyCurrent : String → Bool

namespace TenantStore

def view (tenantId : String) (store : TenantStore) : TenantView :=
  let record := store.getTenant tenantId
  ⟨record.tenant, fun s => (record.policyObject s).any store.stopped,
    fun s => (record.policyObject s).isSome && record.policyObject s = record.sessionObject s⟩

/-- The session object of a subscriber, and the one its policy keeps. -/
def sessionOf (store : TenantStore) (t s : String) : Option Nat := (store.getTenant t).sessionObject s

def policyOf (store : TenantStore) (t s : String) : Option Nat := (store.getTenant t).policyObject s

/-- Every session object is held by one subscriber of one tenant and by no policy of another. -/
structure ObjectsOwned (store : TenantStore) : Prop where
  live : ∀ t s i, store.sessionOf t s = some i → i < store.created ∧ store.stopped i = false
  kept : ∀ t s i, store.policyOf t s = some i → i < store.created
  made : ∀ i, store.stopped i = true → i < store.created
  held : ∀ t s, ((store.getTenant t).tenant.radiusSessions.get s).isSome =
    (store.sessionOf t s).isSome
  one : ∀ t s t' s' i, store.sessionOf t s = some i → store.sessionOf t' s' = some i →
    t = t' ∧ s = s'
  own : ∀ t s t' s' i, store.policyOf t s = some i → store.sessionOf t' s' = some i →
    t = t' ∧ s = s'

theorem objectsOwned_new : new.ObjectsOwned where
  live := by simp [sessionOf, getTenant, new, TenantRecord.new]
  kept := by simp [policyOf, getTenant, new, TenantRecord.new]
  made := by simp [new]
  held := by simp [sessionOf, getTenant, new, TenantRecord.new, Tenant.empty]
  one := by simp [sessionOf, getTenant, new, TenantRecord.new]
  own := by simp [policyOf, getTenant, new, TenantRecord.new]

theorem getTenant_setTenant (store : TenantStore) (t : String) (record : TenantRecord)
    (t' : String) : (store.setTenant t record).getTenant t' =
      if t' = t then record else store.getTenant t' := by
  unfold getTenant setTenant
  rw [OrderedMap.get_set]
  split
  next => rfl
  next => rfl

@[simp] theorem getTenant_setTenant_self (store : TenantStore) (t : String)
    (record : TenantRecord) : (store.setTenant t record).getTenant t = record := by
  rw [getTenant_setTenant, if_pos rfl]

@[simp] theorem setTenant_created (store : TenantStore) (t : String) (record : TenantRecord) :
    (store.setTenant t record).created = store.created := rfl

@[simp] theorem setTenant_stopped (store : TenantStore) (t : String) (record : TenantRecord) :
    (store.setTenant t record).stopped = store.stopped := rfl

/-- The tenant's records and the session objects they refer to are the same. -/
def Untouched (store store' : TenantStore) (t : String) : Prop :=
  store'.tenants.get t = store.tenants.get t ∧
    ∀ s i, store.sessionOf t s = some i ∨ store.policyOf t s = some i →
      store'.stopped i = store.stopped i

theorem Untouched.getTenant {store store' : TenantStore} {t : String}
    (h : Untouched store store' t) : store'.getTenant t = store.getTenant t := by
  unfold TenantStore.getTenant
  rw [h.1]

theorem Untouched.view {store store' : TenantStore} {t : String} (h : Untouched store store' t) :
    store'.view t = store.view t := by
  have hstopped : (fun s => ((store.getTenant t).policyObject s).any store'.stopped) =
      fun s => ((store.getTenant t).policyObject s).any store.stopped := by
    funext s
    cases hp : (store.getTenant t).policyObject s with
    | none => rfl
    | some i => exact h.2 s i (Or.inr hp)
  simp only [TenantStore.view, h.getTenant, hstopped]

/-- An operation on `t` writes the record of `t`, and stops no session object but those of `t`. -/
structure Touches (store store' : TenantStore) (t : String) : Prop where
  writes : ∃ record, store'.tenants = store.tenants.set t record
  stops : ∀ i, store'.stopped i ≠ store.stopped i → ∃ s, store.sessionOf t s = some i

theorem touches_setTenant (store : TenantStore) (t : String) (record : TenantRecord) :
    Touches store (store.setTenant t record) t := by
  refine ⟨⟨record, rfl⟩, ?_⟩
  intro i h
  exact absurd rfl h

theorem step_touches (config : IspConfig) (store : TenantStore) (t : String) (op : TenantOp) :
    Touches store (store.step config t op).2 t := by
  cases op with
  | upsertSession data =>
    simp only [step, upsertSession, Prod.map_snd, id_eq]
    split
    next => exact touches_setTenant _ _ _
    next => exact ⟨⟨_, rfl⟩, fun i h => absurd rfl h⟩
  | stopSession s =>
    simp only [step, stopSession, Prod.map_snd, id_eq]
    split
    next => exact touches_setTenant _ _ _
    next =>
      refine ⟨⟨_, rfl⟩, ?_⟩
      intro i h
      by_cases hi : store.sessionOf t s = some i
      · exact ⟨s, hi⟩
      · rw [sessionOf] at hi
        exact absurd (by simp [hi]) h
  | upsertLease data =>
    simp only [step, upsertLease, Prod.map_snd, id_eq]
    split
    next => exact touches_setTenant _ _ _
    next => exact touches_setTenant _ _ _
  | resolve input =>
    simp only [step, resolve, Prod.map_snd, id_eq]
    split
    next => exact touches_setTenant _ _ _
    next => exact touches_setTenant _ _ _
  | apply payload =>
    simp only [step, apply, Prod.map_snd, id_eq]
    split
    next => exact touches_setTenant _ _ _
    next => exact touches_setTenant _ _ _
  | getSession s => exact touches_setTenant _ _ _
  | listBySubscriber s => exact touches_setTenant _ _ _
  | findByMac mac => exact touches_setTenant _ _ _
  | getPolicy s => exact touches_setTenant _ _ _
  | getState s => exact touches_setTenant _ _ _

theorem Touches.untouched {store store' : TenantStore} {t t' : String}
    (h : Touches store store' t) (ho : store.ObjectsOwned) (ht : t' ≠ t) :
    Untouched store store' t' := by
  obtain ⟨record, hw⟩ := h.writes
  refine ⟨by rw [hw, OrderedMap.get_set_of_ne _ ht], ?_⟩
  intro s i hi
  by_contra hne
  obtain ⟨s', hs'⟩ := h.stops i hne
  rcases hi with hi | hi
  · exact ht (ho.one t' s t s' i hi hs').1
  · exact ht (ho.own t' s t s' i hi hs').1

theorem getTenant_of_tenants {store store' : TenantStore} {t : String} {record : TenantRecord}
    (h : store'.tenants = store.tenants.set t record) (t' : String) :
    store'.getTenant t' = if t' = t then record else store.getTenant t' := by
  rw [← getTenant_setTenant, TenantStore.getTenant, h]
  rfl

theorem sessionOf_of_tenants {store store' : TenantStore} {t : String} {record : TenantRecord}
    (h : store'.tenants = store.tenants.set t record) (t' s : String) :
    store'.sessionOf t' s = if t' = t then record.sessionObject s else store.sessionOf t' s := by
  rw [sessionOf, getTenant_of_tenants h]
  split
  next => rfl
  next => rfl

theorem policyOf_of_tenants {store store' : TenantStore} {t : String} {record : TenantRecord}
    (h : store'.tenants = store.tenants.set t record) (t' s : String) :
    store'.policyOf t' s = if t' = t then record.policyObject s else store.policyOf t' s := by
  rw [policyOf, getTenant_of_tenants h]
  split
  next => rfl
  next => rfl

/-- Writing a record whose session objects are the same, and whose policies keep them or what they
kept. -/
theorem ObjectsOwned.setTenant {store : TenantStore} (ho : store.ObjectsOwned) {t : String}
    {record : TenantRecord} (hs : ∀ s, record.sessionObject s = store.sessionOf t s)
    (hp : ∀ s i, record.policyObject s = some i →
      store.policyOf t s = some i ∨ store.sessionOf t s = some i)
    (hh : ∀ s, (record.tenant.radiusSessions.get s).isSome =
      ((store.getTenant t).tenant.radiusSessions.get s).isSome) :
    (store.setTenant t record).ObjectsOwned := by
  have hsession : ∀ t' s, (store.setTenant t record).sessionOf t' s = store.sessionOf t' s := by
    intro t' s
    rw [sessionOf_of_tenants rfl]
    split
    next h => rw [h, hs]
    next => rfl
  have hpolicy : ∀ t' s i, (store.setTenant t record).policyOf t' s = some i →
      store.policyOf t' s = some i ∨ store.sessionOf t' s = some i := by
    intro t' s i h
    rw [policyOf_of_tenants rfl] at h
    split at h
    next ht => rw [ht]; exact hp s i h
    next => exact Or.inl h
  refine ⟨?_, ?_, ho.made, ?_, ?_, ?_⟩
  · intro t' s i h
    exact ho.live t' s i (hsession t' s ▸ h)
  · intro t' s i h
    rcases hpolicy t' s i h with h | h
    · exact ho.kept t' s i h
    · exact (ho.live t' s i h).1
  · intro t' s
    rw [hsession, ← ho.held, getTenant_setTenant]
    split
    next h => rw [h, hh]
    next => rfl
  · intro t₁ s₁ t₂ s₂ i h₁ h₂
    rw [hsession] at h₁ h₂
    exact ho.one t₁ s₁ t₂ s₂ i h₁ h₂
  · intro t₁ s₁ t₂ s₂ i h₁ h₂
    rw [hsession] at h₂
    rcases hpolicy t₁ s₁ i h₁ with h₁ | h₁
    · exact ho.own t₁ s₁ t₂ s₂ i h₁ h₂
    · exact ho.one t₁ s₁ t₂ s₂ i h₁ h₂

theorem ObjectsOwned.setValues {store : TenantStore} (ho : store.ObjectsOwned) {t : String}
    {tenant : Tenant} (hr : tenant.radiusSessions = (store.getTenant t).tenant.radiusSessions) :
    (store.setValues t tenant).ObjectsOwned :=
  ho.setTenant (fun _ => rfl) (fun _ _ h => Or.inl h) (fun _ => by rw [hr])

theorem ObjectsOwned.make {store : TenantStore} (ho : store.ObjectsOwned) (t : String) :
    (store.setTenant t (store.getTenant t)).ObjectsOwned := ho.setValues rfl

theorem ObjectsOwned.create {store store' : TenantStore} (ho : store.ObjectsOwned) {t s : String}
    {record : TenantRecord} (hw : store'.tenants = store.tenants.set t record)
    (hc : store'.created = store.created + 1) (hst : store'.stopped = store.stopped)
    (hr : record.sessionObject =
      Function.update (store.getTenant t).sessionObject s (some store.created))
    (hp : record.policyObject = (store.getTenant t).policyObject)
    (hh : ∀ s', (record.tenant.radiusSessions.get s').isSome =
      (record.sessionObject s').isSome) : store'.ObjectsOwned := by
  have hsession : ∀ t' s', store'.sessionOf t' s' =
      if t' = t ∧ s' = s then some store.created else store.sessionOf t' s' := by
    intro t' s'
    rw [sessionOf_of_tenants hw, hr]
    by_cases ht : t' = t
    · by_cases hs : s' = s
      · simp [ht, hs]
      · simp [ht, hs, sessionOf]
    · simp [ht]
  have hpolicy : ∀ t' s', store'.policyOf t' s' = store.policyOf t' s' := by
    intro t' s'
    rw [policyOf_of_tenants hw, hp]
    split
    next ht => rw [ht]; rfl
    next => rfl
  -- The new object is none of those that are held or kept.
  have hfresh : ∀ t' s' i, store'.sessionOf t' s' = some i → i < store.created →
      store.sessionOf t' s' = some i := by
    intro t' s' i h hlt
    rw [hsession] at h
    split at h
    next => exact absurd (Option.some.inj h) (Nat.ne_of_gt hlt)
    next => exact h
  have hcase : ∀ t' s' i, store'.sessionOf t' s' = some i →
      (i = store.created ∧ t' = t ∧ s' = s) ∨ store.sessionOf t' s' = some i := by
    intro t' s' i h
    rw [hsession] at h
    split at h
    next hts => exact Or.inl ⟨(Option.some.inj h).symm, hts.1, hts.2⟩
    next => exact Or.inr h
  refine ⟨?_, ?_, ?_, ?_, ?_, ?_⟩
  · intro t' s' i h
    rw [hc, hst]
    obtain ⟨rfl, _, _⟩ | h := hcase t' s' i h
    · refine ⟨Nat.lt_succ_self _, ?_⟩
      by_contra hne
      exact absurd (ho.made _ (by simpa using hne)) (Nat.lt_irrefl _)
    · obtain ⟨hlt, hlive⟩ := ho.live t' s' i h
      exact ⟨Nat.lt_succ_of_lt hlt, hlive⟩
  · intro t' s' i h
    rw [hpolicy] at h
    rw [hc]
    exact Nat.lt_succ_of_lt (ho.kept t' s' i h)
  · intro i h
    rw [hst] at h
    rw [hc]
    exact Nat.lt_succ_of_lt (ho.made i h)
  · intro t' s'
    rw [sessionOf_of_tenants hw, getTenant_of_tenants hw]
    split
    next => exact hh s'
    next => exact ho.held t' s'
  · intro t₁ s₁ t₂ s₂ i h₁ h₂
    obtain ⟨rfl, rfl, rfl⟩ | h₁' := hcase t₁ s₁ i h₁
    · obtain ⟨_, rfl, rfl⟩ | h₂ := hcase t₂ s₂ _ h₂
      · exact ⟨rfl, rfl⟩
      · exact absurd (ho.live t₂ s₂ _ h₂).1 (Nat.lt_irrefl _)
    · exact ho.one t₁ s₁ t₂ s₂ i h₁' (hfresh t₂ s₂ i h₂ (ho.live t₁ s₁ i h₁').1)
  · intro t₁ s₁ t₂ s₂ i h₁ h₂
    rw [hpolicy] at h₁
    exact ho.own t₁ s₁ t₂ s₂ i h₁ (hfresh t₂ s₂ i h₂ (ho.kept t₁ s₁ i h₁))

theorem ObjectsOwned.release {store store' : TenantStore} (ho : store.ObjectsOwned) {t s : String}
    {record : TenantRecord} (hw : store'.tenants = store.tenants.set t record)
    (hc : store'.created = store.created)
    (hst : ∀ i, store'.stopped i = (store.stopped i || store.sessionOf t s = some i))
    (hr : record.sessionObject = Function.update (store.getTenant t).sessionObject s none)
    (hp : record.policyObject = (store.getTenant t).policyObject)
    (hh : ∀ s', (record.tenant.radiusSessions.get s').isSome =
      (record.sessionObject s').isSome) : store'.ObjectsOwned := by
  have hsession : ∀ t' s' i, store'.sessionOf t' s' = some i →
      store.sessionOf t' s' = some i ∧ ¬(t' = t ∧ s' = s) := by
    intro t' s' i h
    rw [sessionOf_of_tenants hw, hr] at h
    by_cases ht : t' = t
    · by_cases hs : s' = s
      · simp [ht, hs] at h
      · rw [if_pos ht, Function.update_of_ne hs] at h
        exact ⟨by rw [ht]; exact h, fun hts => hs hts.2⟩
    · rw [if_neg ht] at h
      exact ⟨h, fun hts => ht hts.1⟩
  have hpolicy : ∀ t' s', store'.policyOf t' s' = store.policyOf t' s' := by
    intro t' s'
    rw [policyOf_of_tenants hw, hp]
    split
    next ht => rw [ht]; rfl
    next => rfl
  refine ⟨?_, ?_, ?_, ?_, ?_, ?_⟩
  · intro t' s' i h
    obtain ⟨h, hne⟩ := hsession t' s' i h
    obtain ⟨hlt, hlive⟩ := ho.live t' s' i h
    refine ⟨by rw [hc]; exact hlt, ?_⟩
    have hother : store.sessionOf t s ≠ some i := fun he => hne (ho.one t' s' t s i h he)
    simp [hst, hlive, hother]
  · intro t' s' i h
    rw [hpolicy] at h
    rw [hc]
    exact ho.kept t' s' i h
  · intro i h
    rw [hc]
    rw [hst, Bool.or_eq_true, decide_eq_true_eq] at h
    rcases h with h | h
    · exact ho.made i h
    · exact (ho.live t s i h).1
  · intro t' s'
    rw [sessionOf_of_tenants hw, getTenant_of_tenants hw]
    split
    next => exact hh s'
    next => exact ho.held t' s'
  · intro t₁ s₁ t₂ s₂ i h₁ h₂
    exact ho.one t₁ s₁ t₂ s₂ i (hsession t₁ s₁ i h₁).1 (hsession t₂ s₂ i h₂).1
  · intro t₁ s₁ t₂ s₂ i h₁ h₂
    rw [hpolicy] at h₁
    exact ho.own t₁ s₁ t₂ s₂ i h₁ (hsession t₂ s₂ i h₂).1

theorem ObjectsOwned.upsertSession {config : IspConfig} {store : TenantStore}
    (ho : store.ObjectsOwned) (t : String) (data : SessionData) :
    (store.upsertSession config t data).2.ObjectsOwned := by
  unfold TenantStore.upsertSession
  simp only
  split
  next => exact ho.make t
  next session tenant hok =>
    obtain ⟨_, _, _, htenant⟩ := upsertSession_spec hok
    refine ho.create rfl rfl rfl rfl rfl ?_
    intro s
    simp only [htenant, OrderedMap.get_set]
    by_cases hs : s = session.subscriberId
    · simp [hs]
    · rw [if_neg hs, Function.update_of_ne hs]
      exact ho.held t s

theorem stopSession_some {tenant tenant' : Tenant} {s : String} {session : Session}
    (h : Isp.stopSession tenant s = (some session, tenant')) :
    tenant'.radiusSessions = tenant.radiusSessions.erase s ∧ (tenant.radiusSessions.get s).isSome := by
  unfold Isp.stopSession at h
  split at h
  next => simp at h
  next held hheld =>
    obtain ⟨_, rfl⟩ := Prod.mk.inj h
    exact ⟨rfl, by rw [hheld]; rfl⟩

theorem ObjectsOwned.stopSession {store : TenantStore} (ho : store.ObjectsOwned) (t s : String) :
    (store.stopSession t s).2.ObjectsOwned := by
  unfold TenantStore.stopSession
  simp only
  split
  next => exact ho.make t
  next session tenant hstop =>
    obtain ⟨hr, _⟩ := stopSession_some hstop
    refine ho.release rfl rfl (fun _ => rfl) rfl rfl ?_
    intro s'
    simp only [hr, OrderedMap.get_erase]
    by_cases hs : s' = s
    · simp [hs]
    · rw [if_neg hs, Function.update_of_ne hs]
      exact ho.held t s'

theorem upsertLease_sessions {tenant tenant' : Tenant} {data : LeaseData} {lease : Lease}
    (h : Isp.upsertLease tenant data = .ok (lease, tenant')) :
    tenant'.radiusSessions = tenant.radiusSessions := by
  obtain ⟨_, _, _, rfl⟩ := upsertLease_spec h
  rfl

theorem resolve_sessions {tenant tenant' : Tenant} {input : PolicyInput} {resolved : Resolved}
    (h : Isp.resolve tenant input = .ok (resolved, tenant')) :
    tenant'.radiusSessions = tenant.radiusSessions := by
  obtain ⟨_, rfl⟩ := resolve_spec h
  rfl

theorem apply_sessions {config : IspConfig} {tenant : Tenant} {payload : PolicyInput}
    {result : Except String Policy × Tenant} (h : Isp.apply config tenant payload = result) :
    result.2.radiusSessions = tenant.radiusSessions := by
  obtain ⟨result, tenant'⟩ := result
  cases result with
  | error message =>
    rcases apply_error h with rfl | ⟨resolved, hresolve⟩
    · rfl
    · exact resolve_sessions hresolve
  | ok policy =>
    obtain ⟨_, _, _, _, _, _, _, _, _, hr, _⟩ := apply_spec h
    exact hr

theorem ObjectsOwned.apply {config : IspConfig} {store : TenantStore} (ho : store.ObjectsOwned)
    (t : String) (payload : PolicyInput) : (store.apply config t payload).2.ObjectsOwned := by
  unfold TenantStore.apply
  simp only
  split
  next happly => exact ho.setValues (apply_sessions happly)
  next policy tenant happly =>
    refine ho.setTenant (fun _ => rfl) ?_ ?_
    · intro s i h
      simp only at h
      by_cases hs : s = policy.subscriberId
      · subst hs
        rw [Function.update_self] at h
        obtain ⟨_, _, h⟩ := Option.bind_eq_some_iff.mp h
        exact Or.inr h
      · rw [Function.update_of_ne hs] at h
        exact Or.inl h
    · intro s
      rw [apply_sessions happly]

theorem step_owned {config : IspConfig} {store : TenantStore} (ho : store.ObjectsOwned) (t : String)
    (op : TenantOp) : (store.step config t op).2.ObjectsOwned := by
  cases op with
  | upsertSession data => exact ho.upsertSession t data
  | stopSession s => exact ho.stopSession t s
  | upsertLease data =>
    simp only [step, upsertLease, Prod.map_snd, id_eq]
    split
    next => exact ho.make t
    next hok => exact ho.setValues (upsertLease_sessions hok)
  | resolve input =>
    simp only [step, resolve, Prod.map_snd, id_eq]
    split
    next => exact ho.make t
    next hok => exact ho.setValues (resolve_sessions hok)
  | apply payload => exact ho.apply t payload
  | getSession s => exact ho.make t
  | listBySubscriber s => exact ho.make t
  | findByMac mac => exact ho.make t
  | getPolicy s => exact ho.make t
  | getState s => exact ho.make t

end TenantStore

/-- An operation on a tenant, by what is in its view. -/
def TenantView.act (config : IspConfig) (tenantId : String) (v : TenantView) :
    TenantOp → TenantResult × TenantView
  | .upsertSession data =>
    match Isp.upsertSession config v.tenant data with
    | .error message => (.session (.error message), v)
    | .ok (session, tenant) => (.session (.ok session), { v with
        tenant
        policyCurrent := Function.update v.policyCurrent session.subscriberId false })
  | .stopSession s =>
    match Isp.stopSession v.tenant s with
    | (none, _) => (.found none, v)
    | (some session, tenant) => (.found (some session),
        ⟨tenant, Function.update v.policyStopped s (v.policyStopped s || v.policyCurrent s),
          Function.update v.policyCurrent s false⟩)
  | .getSession s => (.found (Isp.getSession v.tenant s), v)
  | .upsertLease data =>
    match Isp.upsertLease v.tenant data with
    | .error message => (.lease (.error message), v)
    | .ok (lease, tenant) => (.lease (.ok lease), { v with tenant })
  | .listBySubscriber s => (.leases (Isp.listBySubscriber v.tenant s), v)
  | .findByMac mac => (.leases (Isp.findByMac v.tenant mac).toList, v)
  | .resolve input =>
    match Isp.resolve v.tenant input with
    | .error message => (.resolved tenantId (.error message), v)
    | .ok (resolved, tenant) => (.resolved tenantId (.ok resolved), { v with tenant })
  | .apply payload =>
    match Isp.apply config v.tenant payload with
    | (.error message, tenant) => (.applied tenantId (.error message), { v with tenant })
    | (.ok policy, tenant) => (.applied tenantId (.ok policy),
        ⟨tenant, Function.update v.policyStopped policy.subscriberId false,
          Function.update v.policyCurrent policy.subscriberId
            policy.resolved.radiusSession.isSome⟩)
  | .getPolicy s =>
    (.policy tenantId ((v.tenant.policies.get s).map (readPolicy (v.policyStopped s))), v)
  | .getState s => (.states tenantId (v.tenant.bngState.values.filter (·.subscriberId = s)), v)

namespace TenantStore

theorem view_setValues (store : TenantStore) (t : String) (tenant : Tenant) :
    (store.setValues t tenant).view t = { store.view t with tenant } := by
  simp only [view, setValues, getTenant_setTenant_self, setTenant_stopped]

theorem view_make (store : TenantStore) (t : String) :
    (store.setTenant t (store.getTenant t)).view t = store.view t :=
  view_setValues store t (store.getTenant t).tenant

theorem view_of_tenants {store store' : TenantStore} {t : String} {record : TenantRecord}
    (h : store'.tenants = store.tenants.set t record) :
    store'.view t = ⟨record.tenant, fun s => (record.policyObject s).any store'.stopped,
      fun s => (record.policyObject s).isSome && record.policyObject s = record.sessionObject s⟩ := by
  simp only [view, getTenant_of_tenants h, if_pos]

/-- What an operation returns, and what it does to the view of its tenant. -/
def ActsBy (config : IspConfig) (store : TenantStore) (t : String) (op : TenantOp) : Prop :=
  (store.step config t op).1 = ((store.view t).act config t op).1 ∧
    (store.step config t op).2.view t = ((store.view t).act config t op).2

theorem upsertSession_acts {config : IspConfig} {store : TenantStore} (ho : store.ObjectsOwned)
    (t : String) (data : SessionData) : ActsBy config store t (.upsertSession data) := by
  have htenant : (store.view t).tenant = (store.getTenant t).tenant := rfl
  simp only [ActsBy, step, upsertSession, TenantView.act, htenant]
  cases Isp.upsertSession config (store.getTenant t).tenant data with
  | error message => exact ⟨rfl, view_make store t⟩
  | ok made =>
    obtain ⟨session, tenant⟩ := made
    refine ⟨rfl, (view_of_tenants rfl).trans ?_⟩
    simp only [view, TenantView.mk.injEq, true_and]
    refine ⟨rfl, ?_⟩
    funext s
    by_cases hs : s = session.subscriberId
    · subst hs
      simp only [Function.update_self]
      have hnew : (store.getTenant t).policyObject session.subscriberId ≠ some store.created :=
        fun h => absurd (ho.kept t _ _ h) (Nat.lt_irrefl _)
      simp [hnew]
    · simp only [Function.update_of_ne hs]

theorem stopSession_acts {config : IspConfig} {store : TenantStore} (ho : store.ObjectsOwned)
    (t s : String) : ActsBy config store t (.stopSession s) := by
  have htenant : (store.view t).tenant = (store.getTenant t).tenant := rfl
  simp only [ActsBy, step, stopSession, TenantView.act, htenant]
  cases hstop : Isp.stopSession (store.getTenant t).tenant s with
  | mk stopped tenant =>
    cases stopped with
    | none => exact ⟨rfl, view_make store t⟩
    | some session =>
      refine ⟨rfl, (view_of_tenants rfl).trans ?_⟩
      simp only [view, TenantView.mk.injEq, true_and]
      refine ⟨?_, ?_⟩
      · funext s'
        cases hp : (store.getTenant t).policyObject s' with
        | none =>
          by_cases hs : s' = s
          · subst hs
            simp [hp]
          · simp [hs, hp]
        | some i =>
          by_cases hs : s' = s
          · subst hs
            simp [hp, eq_comm]
          · have hother : (store.getTenant t).sessionObject s ≠ some i :=
              fun h => hs (ho.own t s' t s i hp h).2
            simp [hs, hp, hother]
      · funext s'
        by_cases hs : s' = s
        · subst hs
          simp only [Function.update_self]
          cases (store.getTenant t).policyObject s' with
          | none => rfl
          | some i => simp
        · simp only [Function.update_of_ne hs]

theorem apply_acts {config : IspConfig} {store : TenantStore} (ho : store.ObjectsOwned)
    (t : String) (payload : PolicyInput) : ActsBy config store t (.apply payload) := by
  have htenant : (store.view t).tenant = (store.getTenant t).tenant := rfl
  simp only [ActsBy, step, apply, TenantView.act, htenant]
  cases happly : Isp.apply config (store.getTenant t).tenant payload with
  | mk result tenant =>
    cases result with
    | error message => exact ⟨rfl, view_setValues store t tenant⟩
    | ok policy =>
      obtain ⟨resolved, _, hresolve, _, _, hpr, hps, _⟩ := apply_spec happly
      have hheld : policy.resolved.radiusSession.isSome =
          ((store.getTenant t).sessionObject policy.subscriberId).isSome := by
        rw [hpr, (resolve_records hresolve).1, hps]
        exact ho.held t _
      refine ⟨rfl, (view_of_tenants rfl).trans ?_⟩
      simp only [view, TenantView.mk.injEq, true_and]
      refine ⟨?_, ?_⟩
      · funext s
        by_cases hs : s = policy.subscriberId
        · subst hs
          simp only [Function.update_self]
          cases hr : policy.resolved.radiusSession with
          | none => rfl
          | some session =>
            cases ho' : (store.getTenant t).sessionObject policy.subscriberId with
            | none => simp
            | some i => simpa [ho'] using (ho.live t _ i ho').2
        · simp only [Function.update_of_ne hs]
          rfl
      · funext s
        by_cases hs : s = policy.subscriberId
        · subst hs
          simp only [Function.update_self]
          cases hr : policy.resolved.radiusSession with
          | none => rfl
          | some session =>
            rw [hr] at hheld
            simp [← hheld]
        · simp only [Function.update_of_ne hs]

theorem step_acts {config : IspConfig} {store : TenantStore} (ho : store.ObjectsOwned) (t : String)
    (op : TenantOp) : ActsBy config store t op := by
  have htenant : (store.view t).tenant = (store.getTenant t).tenant := rfl
  cases op with
  | upsertSession data => exact upsertSession_acts ho t data
  | stopSession s => exact stopSession_acts ho t s
  | apply payload => exact apply_acts ho t payload
  | upsertLease data =>
    simp only [ActsBy, step, upsertLease, TenantView.act, htenant]
    cases Isp.upsertLease (store.getTenant t).tenant data with
    | error message => exact ⟨rfl, view_make store t⟩
    | ok made => exact ⟨rfl, view_setValues store t made.2⟩
  | resolve input =>
    simp only [ActsBy, step, resolve, TenantView.act, htenant]
    cases Isp.resolve (store.getTenant t).tenant input with
    | error message => exact ⟨rfl, view_make store t⟩
    | ok made => exact ⟨rfl, view_setValues store t made.2⟩
  | getSession s => exact ⟨rfl, view_make store t⟩
  | listBySubscriber s => exact ⟨rfl, view_make store t⟩
  | findByMac mac => exact ⟨rfl, view_make store t⟩
  | getPolicy s => exact ⟨rfl, view_make store t⟩
  | getState s => exact ⟨rfl, view_make store t⟩

theorem store_actsOnViews (config : IspConfig) :
    ActsOnViews (TenantStore.step config) ObjectsOwned view (TenantView.act config · · ·) where
  keeps _ t op ho := step_owned ho t op
  returns _ t op ho := (step_acts ho t op).1
  changes _ t op ho := (step_acts ho t op).2
  spares store t op _ ho hne := ((step_touches config store t op).untouched ho hne).view

/-- After any operations on any tenants, an operation on tenant `a` leaves the records of `b` alone;
and the operations on `b` return what they return when all those on `a` are left out. -/
theorem tenant_isolation (config : IspConfig) (ops : List (String × TenantOp)) {a b : String}
    (hne : b ≠ a) :
    (∀ op, Untouched (runOps (step config) new ops).2
      (((runOps (step config) new ops).2.step config a op).2) b) ∧
    resultsAt b (runOps (step config) new ops).1 =
      resultsAt b (runOps (step config) new (ops.filter fun e => e.1 ≠ a)).1 := by
  have hviews := store_actsOnViews config
  refine ⟨?_, ?_⟩
  · intro op
    have howned := runOps_keeps hviews objectsOwned_new ops
    exact (step_touches config _ a op).untouched howned hne
  · exact runOps_purge hviews (fun t => t ≠ a) (by simpa using hne) objectsOwned_new
      objectsOwned_new rfl ops

/-- Two tenants with a subscriber of the same id and address. -/
def sharedSession : TenantOp :=
  .upsertSession ⟨some "AT-000123", some "10.64.12.34", none, none, none, none, none, none⟩

theorem tenant_isolation_shared :
    resultsAt "isp-b" (runOps (step sampleIsp) new [("isp-a", sharedSession), ("isp-b", sharedSession),
      ("isp-a", .stopSession "AT-000123"), ("isp-b", .getSession "AT-000123")]).1 =
    resultsAt "isp-b" (runOps (step sampleIsp) new [("isp-b", sharedSession),
      ("isp-b", .getSession "AT-000123")]).1 :=
  (tenant_isolation sampleIsp [("isp-a", sharedSession), ("isp-b", sharedSession),
    ("isp-a", .stopSession "AT-000123"), ("isp-b", .getSession "AT-000123")]
    (show "isp-b" ≠ "isp-a" by decide)).2

end TenantStore

end Isp

end GuardTime
