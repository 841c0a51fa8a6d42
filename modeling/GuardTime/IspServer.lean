import GuardTime.TenantRuns

namespace GuardTime

namespace Isp

structure ServerConfig where
  isp : IspConfig
  adapterToken : String
  defaultTenantId : String

/-- A request body: the tenant it names, and its other fields. -/
structure Body (α : Type) where
  tenantId : Option String
  fields : α

/-- What a request asks for. A body that is no JSON object and a subscriber that does not decode are
errors of their own. -/
inductive Endpoint where
  | health
  | tenants
  | radiusSession (body : Except String (Body SessionData))
  | radiusStop (body : Except String (Body (Option String)))
  | dhcpLease (body : Except String (Body LeaseData))
  | policyApply (body : Except String (Body PolicyInput))
  | subscriber (subscriberId : Except String String)
  | unknown

structure Request where
  token : Option String
  tenantHeader : Option String
  tenantParam : Option String
  endpoint : Endpoint

structure TenantSummary where
  tenantId : String
  subscriberCount : Nat
  activeRadiusSessions : Nat
  dhcpLeases : Nat
  policies : Nat

/-- An error a handler throws; only some name a status. -/
structure Failure where
  message : String
  statusCode : Option Nat

inductive Reply where
  | health
  | tenants (tenants : List TenantSummary)
  | session (session : Session)
  | stopped (session : Option Session)
  | lease (lease : Lease)
  | policy (policy : Policy)
  | subscriber (subscriber : Resolved) (policy : Option Policy) (bngState : List BngState)
  | notFound

namespace TenantStore

def listTenants (store : TenantStore) : List TenantSummary :=
  store.tenants.entries.map fun e => {
    tenantId := e.1
    subscriberCount := e.2.tenant.subscribers.entries.length
    activeRadiusSessions := e.2.tenant.radiusSessions.entries.length
    dhcpLeases := e.2.tenant.dhcpLeasesByMac.entries.length
    policies := e.2.tenant.policies.entries.length }

end TenantStore

def getTenantId (config : ServerConfig) (request : Request) : String :=
  (truthy request.tenantHeader).getD ((truthy request.tenantParam).getD config.defaultTenantId)

def authenticate (config : ServerConfig) (request : Request) : Except Failure Unit :=
  if config.adapterToken = "" then .ok ()
  else if request.token = some config.adapterToken then .ok ()
  else .error ⟨"invalid isp adapter token", some 401⟩

def Body.tenant {α : Type} (body : Body α) (tenantId : String) : String :=
  (truthy body.tenantId).getD tenantId

/-- The input of a lookup by subscriber alone; a resolution reads no action. -/
def lookupInput (subscriberId : String) : PolicyInput :=
  ⟨some subscriberId, none, none, none, .other "", none⟩

namespace TenantStore

/-- A request that passed authentication. -/
def serve (config : ServerConfig) (store : TenantStore) (tenantId : String) :
    Endpoint → Except String Reply × TenantStore
  | .health => (.ok .health, store)
  | .tenants => (.ok (.tenants store.listTenants), store)
  | .radiusSession (.error message) => (.error message, store)
  | .radiusSession (.ok body) =>
    (store.upsertSession config.isp (body.tenant tenantId) body.fields).map
      (·.map .session) id
  | .radiusStop (.error message) => (.error message, store)
  | .radiusStop (.ok body) =>
    match required body.fields "subscriberId" with
    | .error message => (.error message, store)
    | .ok subscriberId =>
      (store.stopSession (body.tenant tenantId) subscriberId.1).map (fun s => .ok (.stopped s)) id
  | .dhcpLease (.error message) => (.error message, store)
  | .dhcpLease (.ok body) =>
    (store.upsertLease (body.tenant tenantId) body.fields).map (·.map .lease) id
  | .policyApply (.error message) => (.error message, store)
  | .policyApply (.ok body) =>
    (store.apply config.isp (body.tenant tenantId) body.fields).map (·.map .policy) id
  | .subscriber (.error message) => (.error message, store)
  | .subscriber (.ok subscriberId) =>
    match store.resolve tenantId (lookupInput subscriberId) with
    | (.error message, store) => (.error message, store)
    | (.ok resolved, store) =>
      (.ok (.subscriber resolved (store.getPolicy tenantId subscriberId)
        (store.getState tenantId subscriberId)), store)
  | .unknown => (.ok .notFound, store)

/-- The server's `route`; only the health check and an unknown path need no token. -/
def route (config : ServerConfig) (store : TenantStore) (request : Request) :
    Except Failure Reply × TenantStore :=
  match request.endpoint with
  | .health => (.ok .health, store)
  | .unknown => (.ok .notFound, store)
  | endpoint =>
    match authenticate config request with
    | .error failure => (.error failure, store)
    | .ok () => (store.serve config (getTenantId config request) endpoint).map
        (·.mapError (⟨·, none⟩)) id

end TenantStore

def statusOf : Except Failure Reply → Nat
  | .error failure => failure.statusCode.getD 400
  | .ok .notFound => 404
  | .ok _ => 200

namespace TenantStore

theorem serve_status (result : Except String Reply) :
    statusOf (result.mapError (⟨·, none⟩)) ≠ 401 := by
  cases result with
  | error message => simp [Except.mapError, statusOf]
  | ok reply => cases reply <;> simp [Except.mapError, statusOf]

theorem route_unauthorized {config : ServerConfig} {store : TenantStore} {request : Request}
    (h : statusOf (store.route config request).1 = 401) :
    (store.route config request).2 = store := by
  unfold route at h ⊢
  split at h
  next => rfl
  next => rfl
  next =>
    split at h
    next => rfl
    next => exact absurd h (serve_status _)

/-- The store with the record of a tenant, empty if it had none. -/
def withTenant (store : TenantStore) (tenantId : String) : TenantStore :=
  match store.tenants.get tenantId with
  | some _ => store
  | none => store.setTenant tenantId .new

/-- The store with the record of a subscriber, empty if it had none. -/
def withSubscriber (store : TenantStore) (tenantId subscriberId : String) : TenantStore :=
  let tenant := (store.getTenant tenantId).tenant
  match tenant.subscribers.get subscriberId with
  | some _ => store
  | none => store.setValues tenantId { tenant with
      subscribers := tenant.subscribers.set subscriberId ⟨subscriberId, none, .empty⟩ }

theorem make_eq (store : TenantStore) (t : String) :
    store.setTenant t (store.getTenant t) = store.withTenant t := by
  unfold withTenant getTenant setTenant
  cases hget : store.tenants.get t with
  | some record => simp only [Option.getD_some, OrderedMap.set_same hget]
  | none => rfl

theorem ensure_eq (store : TenantStore) (t s : String) :
    store.setValues t { (store.getTenant t).tenant with
      subscribers := (store.getTenant t).tenant.subscribers.set s
        (ensureSubscriber (store.getTenant t).tenant s) } = store.withSubscriber t s := by
  unfold withSubscriber ensureSubscriber
  cases hget : (store.getTenant t).tenant.subscribers.get s with
  | none => simp only [hget, Option.getD_none]
  | some subscriber =>
    simp only [hget, Option.getD_some, OrderedMap.set_same hget]
    -- a tenant with a subscriber is in the store
    have hthere : store.tenants.get t = some (store.getTenant t) := by
      unfold getTenant at hget ⊢
      cases htenant : store.tenants.get t with
      | some record => rfl
      | none =>
        rw [htenant] at hget
        simp [TenantRecord.new, Tenant.empty] at hget
    simp only [setValues, setTenant, OrderedMap.set_same hthere]

theorem upsertSession_throws {config : IspConfig} {store store' : TenantStore} {t message : String}
    {data : SessionData} (h : store.upsertSession config t data = (.error message, store')) :
    store' = store.withTenant t := by
  unfold upsertSession at h
  simp only at h
  split at h
  next => exact (Prod.mk.inj h).2.symm.trans (make_eq store t)
  next => simp at h

theorem upsertLease_throws {store store' : TenantStore} {t message : String} {data : LeaseData}
    (h : store.upsertLease t data = (.error message, store')) : store' = store.withTenant t := by
  unfold upsertLease at h
  split at h
  next => exact (Prod.mk.inj h).2.symm.trans (make_eq store t)
  next => simp at h

theorem resolve_throws {store store' : TenantStore} {t message : String} {input : PolicyInput}
    (h : store.resolve t input = (.error message, store')) : store' = store.withTenant t := by
  unfold resolve at h
  split at h
  next => exact (Prod.mk.inj h).2.symm.trans (make_eq store t)
  next => simp at h

theorem resolve_ok {store store' : TenantStore} {t : String} {input : PolicyInput}
    {resolved : Resolved} (h : store.resolve t input = (.ok resolved, store')) :
    subscriberOf (store.getTenant t).tenant input = some resolved.subscriberId ∧
      store' = store.withSubscriber t resolved.subscriberId := by
  unfold resolve at h
  split at h
  next => simp at h
  next resolved' tenant hresolve =>
    obtain ⟨hr, hstore⟩ := Prod.mk.inj h
    cases Except.ok.inj hr
    obtain ⟨hfor, htenant⟩ := resolve_spec hresolve
    refine ⟨hfor, ?_⟩
    rw [← hstore, htenant, ensure_eq]

theorem apply_throws {config : IspConfig} {store store' : TenantStore} {t message : String}
    {payload : PolicyInput} (h : store.apply config t payload = (.error message, store')) :
    store' = store.withTenant t ∨
      ∃ s, subscriberOf (store.getTenant t).tenant payload = some s ∧
        store' = store.withSubscriber t s := by
  unfold apply at h
  simp only at h
  split at h
  next message' tenant happly =>
    have hstore := (Prod.mk.inj h).2
    rcases apply_error happly with rfl | ⟨resolved, hresolve⟩
    · refine Or.inl ?_
      rw [← hstore, ← make_eq]
      rfl
    · obtain ⟨hfor, htenant⟩ := resolve_spec hresolve
      refine Or.inr ⟨resolved.subscriberId, hfor, ?_⟩
      rw [← hstore, htenant, ensure_eq]
  next => simp at h

end TenantStore

def Request.tenant (config : ServerConfig) (request : Request) : String :=
  match request.endpoint with
  | .radiusSession (.ok body) => body.tenant (getTenantId config request)
  | .radiusStop (.ok body) => body.tenant (getTenantId config request)
  | .dhcpLease (.ok body) => body.tenant (getTenantId config request)
  | .policyApply (.ok body) => body.tenant (getTenantId config request)
  | _ => getTenantId config request

/-- The subscriber a policy application is for. -/
def appliesTo (tenant : Tenant) : Endpoint → Option String
  | .policyApply (.ok body) => subscriberOf tenant body.fields
  | _ => none

namespace TenantStore

theorem map_throws {α : Type} {result : Except String α × TenantStore} {f : α → Reply}
    {failure : Failure} {store' : TenantStore}
    (h : (result.map (·.map f) id).map (·.mapError (⟨·, none⟩)) id = (.error failure, store')) :
    result = (.error failure.message, store') := by
  obtain ⟨result, made⟩ := result
  obtain ⟨hresult, hstore⟩ := Prod.mk.inj h
  cases result with
  | error message =>
    cases Except.error.inj hresult
    rw [show made = store' from hstore]
  | ok value => simp [Except.map, Except.mapError] at hresult

theorem serve_throws {config : ServerConfig} {store store' : TenantStore} {request : Request}
    {failure : Failure}
    (h : (store.serve config (getTenantId config request) request.endpoint).map
      (·.mapError (⟨·, none⟩)) id = (.error failure, store')) :
    store' = store ∨ store' = store.withTenant (request.tenant config) ∨
      ∃ s, appliesTo (store.getTenant (request.tenant config)).tenant request.endpoint = some s ∧
        store' = store.withSubscriber (request.tenant config) s := by
  obtain ⟨token, header, param, endpoint⟩ := request
  cases endpoint with
  | health => simp [serve, Except.mapError] at h
  | tenants => simp [serve, Except.mapError] at h
  | unknown => simp [serve, Except.mapError] at h
  | radiusSession body =>
    cases body with
    | error message => exact Or.inl (Prod.mk.inj h).2.symm
    | ok body => exact Or.inr (Or.inl (upsertSession_throws (map_throws h)))
  | radiusStop body =>
    cases body with
    | error message => exact Or.inl (Prod.mk.inj h).2.symm
    | ok body =>
      simp only [serve] at h
      split at h
      next => exact Or.inl (Prod.mk.inj h).2.symm
      next =>
        obtain ⟨hresult, _⟩ := Prod.mk.inj h
        cases hresult
  | dhcpLease body =>
    cases body with
    | error message => exact Or.inl (Prod.mk.inj h).2.symm
    | ok body => exact Or.inr (Or.inl (upsertLease_throws (map_throws h)))
  | policyApply body =>
    cases body with
    | error message => exact Or.inl (Prod.mk.inj h).2.symm
    | ok body => exact Or.inr (apply_throws (map_throws h))
  | subscriber subscriberId =>
    cases subscriberId with
    | error message => exact Or.inl (Prod.mk.inj h).2.symm
    | ok s =>
      simp only [serve] at h
      split at h
      next message made hresolve =>
        exact Or.inr (Or.inl ((Prod.mk.inj h).2.symm.trans (resolve_throws hresolve)))
      next => simp [Except.mapError] at h

theorem lookup_subscriber {tenant : Tenant} {s found : String}
    (h : subscriberOf tenant (lookupInput s) = some found) : found = s := by
  by_cases hs : s = ""
  · subst hs
    simp [subscriberOf, resolveSubscriberIdFromDevice, lookupInput, truthy] at h
  · have htruthy : truthy (some s) = some s := by simp [truthy, hs]
    simp only [subscriberOf, lookupInput, htruthy, Option.some_or] at h
    exact (Option.some.inj h).symm

def sampleServer : ServerConfig := ⟨sampleIsp, "", "default-isp"⟩

/-- A lease without its fields makes the tenant it names, and so does a lookup that finds nothing. -/
def emptyLease : Request :=
  ⟨none, some "isp-x", none, .dhcpLease (.ok ⟨none, ⟨none, none, none, none, none, none⟩⟩)⟩

end TenantStore

end Isp

end GuardTime
