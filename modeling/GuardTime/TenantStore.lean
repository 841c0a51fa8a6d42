import GuardTime.KillerRuns
import GuardTime.PurgedRuns

namespace GuardTime

namespace Isp

/-- A tenant of the store. `stopSession` marks the session object it removes as inactive in place,
and a stored policy keeps the object its resolution found: so besides the values it is noted which
object a session is, and which one the session of a policy is. -/
structure TenantRecord where
  tenant : Tenant
  sessionObject : String → Option Nat
  policyObject : String → Option Nat

def TenantRecord.new : TenantRecord := ⟨.empty, fun _ => none, fun _ => none⟩

/-- All tenants, with the number of session objects made so far and those that were stopped. -/
structure TenantStore where
  tenants : OrderedMap String TenantRecord
  created : Nat
  stopped : Nat → Bool

namespace TenantStore

def new : TenantStore := ⟨.empty, 0, fun _ => false⟩

/-- The record `getTenant` finds or makes. -/
def getTenant (store : TenantStore) (tenantId : String) : TenantRecord :=
  (store.tenants.get tenantId).getD .new

def setTenant (store : TenantStore) (tenantId : String) (record : TenantRecord) : TenantStore :=
  { store with tenants := store.tenants.set tenantId record }

/-- A tenant whose session objects are not touched. -/
def setValues (store : TenantStore) (tenantId : String) (tenant : Tenant) : TenantStore :=
  store.setTenant tenantId { store.getTenant tenantId with tenant }

def upsertSession (config : IspConfig) (store : TenantStore) (tenantId : String)
    (data : SessionData) : Except String Session × TenantStore :=
  let record := store.getTenant tenantId
  match Isp.upsertSession config record.tenant data with
  | .error message => (.error message, store.setTenant tenantId record)
  | .ok (session, tenant) =>
    (.ok session, { store.setTenant tenantId { record with
        tenant
        sessionObject :=
          Function.update record.sessionObject session.subscriberId (some store.created) } with
      created := store.created + 1 })

def stopSession (store : TenantStore) (tenantId subscriberId : String) :
    Option Session × TenantStore :=
  let record := store.getTenant tenantId
  match Isp.stopSession record.tenant subscriberId with
  | (none, _) => (none, store.setTenant tenantId record)
  | (some session, tenant) =>
    (some session, { store.setTenant tenantId { record with
        tenant
        sessionObject := Function.update record.sessionObject subscriberId none } with
      stopped := fun i => store.stopped i || record.sessionObject subscriberId = some i })

def upsertLease (store : TenantStore) (tenantId : String) (data : LeaseData) :
    Except String Lease × TenantStore :=
  match Isp.upsertLease (store.getTenant tenantId).tenant data with
  | .error message => (.error message, store.setTenant tenantId (store.getTenant tenantId))
  | .ok (lease, tenant) => (.ok lease, store.setValues tenantId tenant)

def resolve (store : TenantStore) (tenantId : String) (input : PolicyInput) :
    Except String Resolved × TenantStore :=
  match Isp.resolve (store.getTenant tenantId).tenant input with
  | .error message => (.error message, store.setTenant tenantId (store.getTenant tenantId))
  | .ok (resolved, tenant) => (.ok resolved, store.setValues tenantId tenant)

/-- `PolicyEngine.apply`. -/
def apply (config : IspConfig) (store : TenantStore) (tenantId : String) (payload : PolicyInput) :
    Except String Policy × TenantStore :=
  let record := store.getTenant tenantId
  match Isp.apply config record.tenant payload with
  | (.error message, tenant) => (.error message, store.setValues tenantId tenant)
  | (.ok policy, tenant) =>
    (.ok policy, store.setTenant tenantId { record with
      tenant
      policyObject := Function.update record.policyObject policy.subscriberId
        (policy.resolved.radiusSession.bind fun _ => record.sessionObject policy.subscriberId) })

end TenantStore

/-- A stored policy as it reads once the session object it keeps was stopped. -/
def readPolicy (stopped : Bool) (policy : Policy) : Policy :=
  if stopped then
    { policy with resolved := { policy.resolved with
        radiusSession := policy.resolved.radiusSession.map fun s => { s with active := false } } }
  else policy

namespace TenantStore

/-- `PolicyEngine.getPolicy`. -/
def getPolicy (store : TenantStore) (tenantId subscriberId : String) : Option Policy :=
  let record := store.getTenant tenantId
  (record.tenant.policies.get subscriberId).map
    (readPolicy ((record.policyObject subscriberId).any store.stopped))

/-- `BngController.getState`. -/
def getState (store : TenantStore) (tenantId subscriberId : String) : List BngState :=
  (store.getTenant tenantId).tenant.bngState.values.filter (·.subscriberId = subscriberId)

end TenantStore

/-- The RADIUS, DHCP and policy operations on a tenant. -/
inductive TenantOp where
  | upsertSession (data : SessionData)
  | stopSession (subscriberId : String)
  | getSession (subscriberId : String)
  | upsertLease (data : LeaseData)
  | listBySubscriber (subscriberId : String)
  | findByMac (macAddress : String)
  | resolve (input : PolicyInput)
  | apply (payload : PolicyInput)
  | getPolicy (subscriberId : String)
  | getState (subscriberId : String)

/-- What they return; records of a policy name their tenant. -/
inductive TenantResult where
  | session (session : Except String Session)
  | found (session : Option Session)
  | lease (lease : Except String Lease)
  | leases (leases : List Lease)
  | resolved (tenantId : String) (resolved : Except String Resolved)
  | applied (tenantId : String) (policy : Except String Policy)
  | policy (tenantId : String) (policy : Option Policy)
  | states (tenantId : String) (states : List BngState)

/-- An operation that only reads makes the tenant, too. -/
def TenantStore.step (config : IspConfig) (store : TenantStore) (tenantId : String) :
    TenantOp → TenantResult × TenantStore
  | .upsertSession data => (store.upsertSession config tenantId data).map .session id
  | .stopSession subscriberId => (store.stopSession tenantId subscriberId).map .found id
  | .getSession subscriberId =>
    (.found (Isp.getSession (store.getTenant tenantId).tenant subscriberId),
      store.setTenant tenantId (store.getTenant tenantId))
  | .upsertLease data => (store.upsertLease tenantId data).map .lease id
  | .listBySubscriber subscriberId =>
    (.leases (Isp.listBySubscriber (store.getTenant tenantId).tenant subscriberId),
      store.setTenant tenantId (store.getTenant tenantId))
  | .findByMac macAddress =>
    (.leases (Isp.findByMac (store.getTenant tenantId).tenant macAddress).toList,
      store.setTenant tenantId (store.getTenant tenantId))
  | .resolve input => (store.resolve tenantId input).map (.resolved tenantId) id
  | .apply payload => (store.apply config tenantId payload).map (.applied tenantId) id
  | .getPolicy subscriberId =>
    (.policy tenantId (store.getPolicy tenantId subscriberId),
      store.setTenant tenantId (store.getTenant tenantId))
  | .getState subscriberId =>
    (.states tenantId (store.getState tenantId subscriberId),
      store.setTenant tenantId (store.getTenant tenantId))

end Isp

end GuardTime
