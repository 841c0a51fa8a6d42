import GuardTime.TenantIsolation

namespace GuardTime

namespace Isp

/-- What an operation does to the values of its tenant. -/
def Tenant.step (config : IspConfig) (tenant : Tenant) : TenantOp → Tenant
  | .upsertSession data =>
    match Isp.upsertSession config tenant data with
    | .error _ => tenant
    | .ok (_, tenant) => tenant
  | .stopSession subscriberId => (Isp.stopSession tenant subscriberId).2
  | .upsertLease data =>
    match Isp.upsertLease tenant data with
    | .error _ => tenant
    | .ok (_, tenant) => tenant
  | .resolve input =>
    match Isp.resolve tenant input with
    | .error _ => tenant
    | .ok (_, tenant) => tenant
  | .apply payload => (Isp.apply config tenant payload).2
  | .getSession _ | .listBySubscriber _ | .findByMac _ | .getPolicy _ | .getState _ => tenant

def bngIdFor (config : IspConfig) (resolved : Resolved) : String :=
  (truthy resolved.bngId).getD config.defaultBngId

/-- The key a policy's state is recorded under. -/
def bngKey (config : IspConfig) (resolved : Resolved) : String :=
  bngIdFor config resolved ++ ":" ++ resolved.subscriberId

theorem applyPolicy_spec {config : IspConfig} {tenant tenant' : Tenant} {resolved : Resolved}
    {payload : PolicyInput} {state : BngState}
    (h : applyPolicy config tenant resolved payload = .ok (state, tenant')) :
    (truthy resolved.enforcementIp).isSome ∧
      (∃ action, normalizeAction payload.action = .ok action) ∧
      state.subscriberId = resolved.subscriberId ∧ state.bngId = bngIdFor config resolved ∧
      tenant' = { tenant with
        bngState := tenant.bngState.set (bngKey config resolved) state } := by
  unfold applyPolicy at h
  split at h
  next => simp at h
  next ip hip =>
    split at h
    next => simp at h
    next action haction =>
      obtain ⟨hstate, htenant⟩ := Prod.mk.inj (Except.ok.inj h)
      subst hstate
      exact ⟨by rw [hip]; rfl, ⟨action, haction⟩, rfl, rfl, htenant.symm⟩

theorem stopSession_none {tenant tenant' : Tenant} {s : String}
    (h : stopSession tenant s = (none, tenant')) : tenant' = tenant := by
  unfold stopSession at h
  split at h
  next => exact (Prod.mk.inj h).2.symm
  next => simp at h

namespace TenantStore

theorem setValues_tenant (store : TenantStore) (t : String) (tenant : Tenant) (t' : String) :
    ((store.setValues t tenant).getTenant t').tenant =
      if t' = t then tenant else (store.getTenant t').tenant := by
  rw [setValues, getTenant_setTenant]
  split <;> rfl

theorem make_tenant (store : TenantStore) (t t' : String) :
    ((store.setTenant t (store.getTenant t)).getTenant t').tenant =
      if t' = t then (store.getTenant t).tenant else (store.getTenant t').tenant :=
  setValues_tenant store t (store.getTenant t).tenant t'

theorem tenant_of_tenants {store store' : TenantStore} {t t' : String} {record : TenantRecord}
    {tenant : Tenant} (h : store'.tenants = store.tenants.set t record)
    (hrecord : record.tenant = tenant) :
    (store'.getTenant t').tenant = if t' = t then tenant else (store.getTenant t').tenant := by
  rw [getTenant_of_tenants h, ← hrecord]
  split <;> rfl

/-- The store's operation on a tenant is the tenant's own, and those of the others keep theirs. -/
theorem step_tenant (config : IspConfig) (store : TenantStore) (t : String) (op : TenantOp)
    (t' : String) : ((store.step config t op).2.getTenant t').tenant =
      if t' = t then (store.getTenant t).tenant.step config op else (store.getTenant t').tenant := by
  cases op with
  | upsertSession data =>
    simp only [step, upsertSession, Prod.map_snd, id_eq, Tenant.step]
    cases Isp.upsertSession config (store.getTenant t).tenant data with
    | error message => exact make_tenant store t t'
    | ok made =>
      obtain ⟨session, tenant⟩ := made
      exact tenant_of_tenants rfl rfl
  | stopSession s =>
    simp only [step, stopSession, Prod.map_snd, id_eq, Tenant.step]
    cases hstop : Isp.stopSession (store.getTenant t).tenant s with
    | mk session tenant =>
      cases session with
      | none =>
        rw [stopSession_none hstop]
        exact make_tenant store t t'
      | some session => exact tenant_of_tenants rfl rfl
  | upsertLease data =>
    simp only [step, upsertLease, Prod.map_snd, id_eq, Tenant.step]
    cases Isp.upsertLease (store.getTenant t).tenant data with
    | error message => exact make_tenant store t t'
    | ok made => exact setValues_tenant store t made.2 t'
  | resolve input =>
    simp only [step, resolve, Prod.map_snd, id_eq, Tenant.step]
    cases Isp.resolve (store.getTenant t).tenant input with
    | error message => exact make_tenant store t t'
    | ok made => exact setValues_tenant store t made.2 t'
  | apply payload =>
    simp only [step, apply, Prod.map_snd, id_eq, Tenant.step]
    cases Isp.apply config (store.getTenant t).tenant payload with
    | mk policy tenant =>
      cases policy with
      | error message => exact setValues_tenant store t tenant t'
      | ok policy => exact tenant_of_tenants rfl rfl
  | getSession s => exact make_tenant store t t'
  | listBySubscriber s => exact make_tenant store t t'
  | findByMac mac => exact make_tenant store t t'
  | getPolicy s => exact make_tenant store t t'
  | getState s => exact make_tenant store t t'

def after (config : IspConfig) (ops : List (String × TenantOp)) : TenantStore :=
  ops.foldl (fun store e => (store.step config e.1 e.2).2) new

@[simp] theorem new_tenant (t : String) : (new.getTenant t).tenant = .empty := rfl

/-- What every operation keeps of a tenant's values, every run keeps of every tenant's. -/
theorem after_keeps {config : IspConfig} {Law : Tenant → Prop} (hstart : Law .empty)
    (hkeep : ∀ tenant op, Law tenant → Law (tenant.step config op)) (ops : List (String × TenantOp))
    (t : String) : Law ((after config ops).getTenant t).tenant := by
  have hall : ∀ t, Law ((after config ops).getTenant t).tenant := by
    refine foldl_keeps (P := fun store : TenantStore => ∀ t, Law (store.getTenant t).tenant) ?_ ops ?_
    · intro store e h t
      rw [step_tenant]
      split
      next => exact hkeep _ e.2 (h e.1)
      next => exact h t
    · intro t
      exact hstart
  exact hall t

theorem step_law_iff {config : IspConfig} {Law : Tenant → Prop}
    {Allowed : Tenant → TenantOp → Prop}
    (hstep : ∀ tenant op, Law tenant → (Law (tenant.step config op) ↔ Allowed tenant op))
    {store : TenantStore} (h : ∀ t, Law (store.getTenant t).tenant) (e : String × TenantOp) :
    (∀ t, Law ((store.step config e.1 e.2).2.getTenant t).tenant) ↔
      Allowed (store.getTenant e.1).tenant e.2 := by
  rw [← hstep _ e.2 (h e.1)]
  refine ⟨?_, ?_⟩
  · intro hall
    have hown := hall e.1
    rwa [step_tenant, if_pos rfl] at hown
  · intro hown t
    rw [step_tenant]
    split
    next => exact hown
    next => exact h t

/-- A law that a tenant's operation keeps exactly when it is allowed holds of every tenant after
every prefix of a run exactly when all its operations are. -/
theorem after_prefix_iff {config : IspConfig} {Law : Tenant → Prop}
    (Allowed : Tenant → TenantOp → Prop) (hstart : Law .empty)
    (hstep : ∀ tenant op, Law tenant → (Law (tenant.step config op) ↔ Allowed tenant op))
    (ops : List (String × TenantOp)) :
    (∀ n t, Law ((after config (ops.take n)).getTenant t).tenant) ↔
      ∀ n t op, ops[n]? = some (t, op) →
        Allowed ((after config (ops.take n)).getTenant t).tenant op := by
  have hprefix := foldl_prefix_iff (fun store e => (store.step config e.1 e.2).2) new ops
    (fun store => ∀ t, Law (store.getTenant t).tenant)
    (fun store e => Allowed (store.getTenant e.1).tenant e.2) (fun _ => hstart)
    fun n e h => step_law_iff hstep h e
  refine hprefix.trans ⟨?_, ?_⟩
  · intro h n t op
    exact h n (t, op)
  · intro h n e
    exact h n e.1 e.2

end TenantStore

end Isp

end GuardTime
