import GuardTime.BackendAgreement
import GuardTime.OrderedMap

namespace GuardTime

namespace Isp

structure IspConfig where
  defaultBngId : String

def required (value : Option String) (field : String) : Except String { text : String // text ≠ "" } :=
  match value with
  | some text => if h : text = "" then .error (field ++ " is required") else .ok ⟨text, h⟩
  | none => .error (field ++ " is required")

/-- MAC addresses are written in ASCII. -/
def normalizeMac (value : String) : String := value.toLower

structure SessionData where
  subscriberId : Option String
  assignedIp : Option String
  publicIp : Option String
  cgnatPortStart : Option Nat
  cgnatPortEnd : Option Nat
  bngId : Option String
  accessCircuitId : Option String
  active : Option Bool

structure Session where
  subscriberId : String
  assignedIp : String
  publicIp : Option String
  cgnatPortStart : Option Nat
  cgnatPortEnd : Option Nat
  bngId : String
  accessCircuitId : Option String
  active : Bool
  assigned : assignedIp ≠ ""

structure LeaseData where
  macAddress : Option String
  subscriberId : Option String
  ipAddress : Option String
  hostname : Option String
  circuitId : Option String
  expiresAt : Option String

structure Lease where
  subscriberId : String
  macAddress : String
  ipAddress : String
  hostname : Option String
  circuitId : Option String
  expiresAt : Option String
  addressed : ipAddress ≠ ""

structure Subscriber where
  subscriberId : String
  activeSession : Option Session
  devices : OrderedMap String Lease

inductive BngAction where
  | BLOCK
  | ALLOW
  | THROTTLE
deriving DecidableEq

def normalizeAction : Action → Except String BngAction
  | .BLOCK => .ok .BLOCK
  | .ALLOW => .ok .ALLOW
  | .THROTTLE => .ok .THROTTLE
  | .other _ => .error "action must be BLOCK, ALLOW, or THROTTLE"

def BngAction.text : BngAction → String
  | .BLOCK => "BLOCK"
  | .ALLOW => "ALLOW"
  | .THROTTLE => "THROTTLE"

inductive VendorCommand where
  | routeAddBlackhole (ip : String)
  | routeDelBlackhole (ip : String)
  | coaFilterId (subscriberId filterId : String)
  | coaQosProfile (subscriberId profile : String)
  | qosSet (subscriberId rate : String)
  | qosClear (subscriberId : String)
  | dnsPolicySet (subscriberId : String) (action : BngAction)
deriving DecidableEq

def VendorCommand.text : VendorCommand → String
  | .routeAddBlackhole ip => "ip route add blackhole " ++ ip ++ "/32"
  | .routeDelBlackhole ip => "ip route del blackhole " ++ ip ++ "/32 || true"
  | .coaFilterId s filterId => "radius CoA: subscriber=" ++ s ++ " Filter-Id=" ++ filterId
  | .coaQosProfile s profile => "radius CoA: subscriber=" ++ s ++ " QoS-Profile=" ++ profile
  | .qosSet s rate => "bng qos set subscriber=" ++ s ++ " rate=" ++ rate
  | .qosClear s => "bng qos clear subscriber=" ++ s
  | .dnsPolicySet s action => "dns-policy set subscriber=" ++ s ++ " action=" ++ action.text

def buildVendorCommands (subscriberId ip : String) : BngAction → List VendorCommand
  | .BLOCK => [
      .routeAddBlackhole ip,
      .coaFilterId subscriberId "guardtime-block",
      .dnsPolicySet subscriberId .BLOCK]
  | .THROTTLE => [
      .coaQosProfile subscriberId "guardtime-1kbit",
      .qosSet subscriberId "1kbit",
      .dnsPolicySet subscriberId .THROTTLE]
  | .ALLOW => [
      .routeDelBlackhole ip,
      .coaFilterId subscriberId "default",
      .qosClear subscriberId,
      .dnsPolicySet subscriberId .ALLOW]

def qosProfileFor : BngAction → String
  | .THROTTLE => "guardtime-1kbit"
  | .BLOCK => "guardtime-blackhole"
  | .ALLOW => "default"

structure Cgnat where
  publicIp : String
  portStart : Option Nat
  portEnd : Option Nat

structure Resolved where
  subscriberId : String
  radiusSession : Option Session
  devices : List Lease
  enforcementIp : Option String
  publicIp : Option String
  cgnat : Option Cgnat
  bngId : Option String

/-- The state the controller records, with the commands it returns: always those of its own
subscriber, address and action. -/
structure BngState where
  subscriberId : String
  bngId : String
  action : BngAction
  enforcementIp : String
  publicIp : Option String
  cgnat : Option Cgnat
  qosProfile : String
  blackhole : Bool
  dnsPolicy : BngAction
  reason : Option String
  vendorCommands : List VendorCommand
  built : vendorCommands = buildVendorCommands subscriberId enforcementIp action

structure PolicyInput where
  subscriberId : Option String
  macAddress : Option String
  assignedIp : Option String
  bngId : Option String
  action : Action
  reason : Option String

structure Policy where
  subscriberId : String
  action : Action
  reason : Option String
  deviceScope : Option String
  resolved : Resolved
  bngState : BngState

structure Tenant where
  subscribers : OrderedMap String Subscriber
  radiusSessions : OrderedMap String Session
  dhcpLeasesByMac : OrderedMap String Lease
  policies : OrderedMap String Policy
  bngState : OrderedMap String BngState

def Tenant.empty : Tenant := ⟨.empty, .empty, .empty, .empty, .empty⟩

def ensureSubscriber (tenant : Tenant) (subscriberId : String) : Subscriber :=
  (tenant.subscribers.get subscriberId).getD ⟨subscriberId, none, .empty⟩

def upsertSession (config : IspConfig) (tenant : Tenant) (data : SessionData) :
    Except String (Session × Tenant) := do
  let subscriberId ← required data.subscriberId "subscriberId"
  let assignedIp ← required data.assignedIp "assignedIp"
  let session : Session := {
    subscriberId := subscriberId.1
    assignedIp := assignedIp.1
    publicIp := truthy data.publicIp
    cgnatPortStart := data.cgnatPortStart
    cgnatPortEnd := data.cgnatPortEnd
    bngId := (truthy data.bngId).getD config.defaultBngId
    accessCircuitId := truthy data.accessCircuitId
    active := data.active.getD true
    assigned := assignedIp.2 }
  return (session, { tenant with
    radiusSessions := tenant.radiusSessions.set session.subscriberId session
    subscribers := tenant.subscribers.set session.subscriberId
      { ensureSubscriber tenant session.subscriberId with activeSession := some session } })

def stopSession (tenant : Tenant) (subscriberId : String) : Option Session × Tenant :=
  match tenant.radiusSessions.get subscriberId with
  | none => (none, tenant)
  | some session => (some { session with active := false }, { tenant with
      radiusSessions := tenant.radiusSessions.erase subscriberId
      subscribers := tenant.subscribers.set subscriberId
        { ensureSubscriber tenant subscriberId with activeSession := none } })

def getSession (tenant : Tenant) (subscriberId : String) : Option Session :=
  tenant.radiusSessions.get subscriberId

def upsertLease (tenant : Tenant) (data : LeaseData) : Except String (Lease × Tenant) := do
  let macAddress ← required data.macAddress "macAddress"
  let subscriberId ← required data.subscriberId "subscriberId"
  let ipAddress ← required data.ipAddress "ipAddress"
  let lease : Lease := {
    subscriberId := subscriberId.1
    macAddress := normalizeMac macAddress.1
    ipAddress := ipAddress.1
    hostname := truthy data.hostname
    circuitId := truthy data.circuitId
    expiresAt := truthy data.expiresAt
    addressed := ipAddress.2 }
  let subscriber := ensureSubscriber tenant lease.subscriberId
  return (lease, { tenant with
    dhcpLeasesByMac := tenant.dhcpLeasesByMac.set lease.macAddress lease
    subscribers := tenant.subscribers.set lease.subscriberId
      { subscriber with devices := subscriber.devices.set lease.macAddress lease } })

def listBySubscriber (tenant : Tenant) (subscriberId : String) : List Lease :=
  match tenant.subscribers.get subscriberId with
  | some subscriber => subscriber.devices.values
  | none => []

def findByMac (tenant : Tenant) (macAddress : String) : Option Lease :=
  tenant.dhcpLeasesByMac.get (normalizeMac macAddress)

def resolveSubscriberIdFromDevice (tenant : Tenant) (input : PolicyInput) : Option String :=
  (truthy input.macAddress).bind fun macAddress =>
    truthy ((findByMac tenant macAddress).map Lease.subscriberId)

def subscriberOf (tenant : Tenant) (input : PolicyInput) : Option String :=
  (truthy input.subscriberId).or (resolveSubscriberIdFromDevice tenant input)

def resolve (tenant : Tenant) (input : PolicyInput) : Except String (Resolved × Tenant) :=
  match subscriberOf tenant input with
  | none => .error "subscriberId is required or must be resolvable from macAddress"
  | some subscriberId =>
    let tenant := { tenant with
      subscribers := tenant.subscribers.set subscriberId (ensureSubscriber tenant subscriberId) }
    let radiusSession := getSession tenant subscriberId
    let devices := listBySubscriber tenant subscriberId
    let publicIp := radiusSession.bind fun session => truthy session.publicIp
    .ok ({
      subscriberId
      radiusSession
      devices
      enforcementIp :=
        (truthy (radiusSession.map Session.assignedIp)).or
          ((truthy input.assignedIp).or (truthy (devices.head?.map Lease.ipAddress)))
      publicIp
      cgnat := radiusSession.bind fun session => publicIp.map fun ip =>
        ⟨ip, session.cgnatPortStart, session.cgnatPortEnd⟩
      bngId := (truthy (radiusSession.map Session.bngId)).or (truthy input.bngId) }, tenant)

def applyPolicy (config : IspConfig) (tenant : Tenant) (resolved : Resolved) (policy : PolicyInput) :
    Except String (BngState × Tenant) :=
  match truthy resolved.enforcementIp with
  | none => .error ("No enforceable IP for subscriber " ++ resolved.subscriberId)
  | some enforcementIp =>
    let bngId := (truthy resolved.bngId).getD config.defaultBngId
    match normalizeAction policy.action with
    | .error message => .error message
    | .ok action =>
      let state : BngState := {
        subscriberId := resolved.subscriberId
        bngId
        action
        enforcementIp
        publicIp := resolved.publicIp
        cgnat := resolved.cgnat
        qosProfile := qosProfileFor action
        blackhole := action = .BLOCK
        dnsPolicy := action
        reason := truthy policy.reason
        vendorCommands := buildVendorCommands resolved.subscriberId enforcementIp action
        built := rfl }
      .ok (state, { tenant with
        bngState := tenant.bngState.set (bngId ++ ":" ++ resolved.subscriberId) state })

/-- `PolicyEngine.apply`; a subscriber record made on the way stays when it throws later. -/
def apply (config : IspConfig) (tenant : Tenant) (payload : PolicyInput) :
    Except String Policy × Tenant :=
  match resolve tenant payload with
  | .error message => (.error message, tenant)
  | .ok (resolved, tenant) =>
    match applyPolicy config tenant resolved payload with
    | .error message => (.error message, tenant)
    | .ok (bngState, tenant) =>
      let policy : Policy := {
        subscriberId := resolved.subscriberId
        action := payload.action
        reason := truthy payload.reason
        deviceScope := (truthy payload.macAddress).map String.toLower
        resolved
        bngState }
      (.ok policy, { tenant with policies := tenant.policies.set resolved.subscriberId policy })

theorem required_ok {value : Option String} {field : String} {text : { text : String // text ≠ "" }}
    (h : required value field = .ok text) : truthy value = some text.1 := by
  cases value with
  | none => simp [required] at h
  | some given =>
    simp only [required] at h
    split at h
    next => simp at h
    next hne =>
      cases Except.ok.inj h
      simp [truthy, hne]

theorem required_error {value : Option String} {field message : String}
    (h : required value field = .error message) : truthy value = none := by
  cases value with
  | none => rfl
  | some given =>
    simp only [required] at h
    split at h
    next hempty => simp [truthy, hempty]
    next => simp at h

theorem upsertSession_spec {config : IspConfig} {tenant tenant' : Tenant} {data : SessionData}
    {session : Session} (h : upsertSession config tenant data = .ok (session, tenant')) :
    truthy data.subscriberId = some session.subscriberId ∧
      truthy data.assignedIp = some session.assignedIp ∧
      session.active = data.active.getD true ∧
      tenant' = { tenant with
        radiusSessions := tenant.radiusSessions.set session.subscriberId session
        subscribers := tenant.subscribers.set session.subscriberId
          { ensureSubscriber tenant session.subscriberId with activeSession := some session } } := by
  unfold upsertSession at h
  cases hs : required data.subscriberId "subscriberId" with
  | error message => simp [hs, bind, Except.bind] at h
  | ok subscriberId =>
    cases hip : required data.assignedIp "assignedIp" with
    | error message => simp [hs, hip, bind, Except.bind] at h
    | ok assignedIp =>
      simp only [hs, hip, bind, Except.bind, pure, Except.pure] at h
      obtain ⟨hsession, htenant⟩ := Prod.mk.inj (Except.ok.inj h)
      subst hsession
      exact ⟨required_ok hs, required_ok hip, rfl, htenant.symm⟩

theorem upsertLease_spec {tenant tenant' : Tenant} {data : LeaseData} {lease : Lease}
    (h : upsertLease tenant data = .ok (lease, tenant')) :
    (∃ mac, truthy data.macAddress = some mac ∧ lease.macAddress = normalizeMac mac) ∧
      truthy data.subscriberId = some lease.subscriberId ∧
      truthy data.ipAddress = some lease.ipAddress ∧
      tenant' = { tenant with
        dhcpLeasesByMac := tenant.dhcpLeasesByMac.set lease.macAddress lease
        subscribers := tenant.subscribers.set lease.subscriberId
          { ensureSubscriber tenant lease.subscriberId with
            devices := (ensureSubscriber tenant lease.subscriberId).devices.set
              lease.macAddress lease } } := by
  unfold upsertLease at h
  cases hm : required data.macAddress "macAddress" with
  | error message => simp [hm, bind, Except.bind] at h
  | ok macAddress =>
    cases hs : required data.subscriberId "subscriberId" with
    | error message => simp [hm, hs, bind, Except.bind] at h
    | ok subscriberId =>
      cases hip : required data.ipAddress "ipAddress" with
      | error message => simp [hm, hs, hip, bind, Except.bind] at h
      | ok ipAddress =>
        simp only [hm, hs, hip, bind, Except.bind, pure, Except.pure] at h
        obtain ⟨hlease, htenant⟩ := Prod.mk.inj (Except.ok.inj h)
        subst hlease
        exact ⟨⟨macAddress.1, required_ok hm, rfl⟩, required_ok hs, required_ok hip, htenant.symm⟩

theorem stopSession_policies (tenant : Tenant) (s : String) :
    (stopSession tenant s).2.policies = tenant.policies := by
  unfold stopSession
  split <;> rfl

theorem resolve_spec {tenant tenant' : Tenant} {input : PolicyInput} {resolved : Resolved}
    (h : resolve tenant input = .ok (resolved, tenant')) :
    subscriberOf tenant input = some resolved.subscriberId ∧
      tenant' = { tenant with
        subscribers := tenant.subscribers.set resolved.subscriberId
          (ensureSubscriber tenant resolved.subscriberId) } := by
  unfold resolve at h
  split at h
  next => simp at h
  next s hs =>
    obtain ⟨hr, ht⟩ := Prod.mk.inj (Except.ok.inj h)
    subst hr
    exact ⟨hs, ht.symm⟩

/-- The records a resolution reads are those of its subscriber. -/
theorem resolve_records {tenant tenant' : Tenant} {input : PolicyInput} {resolved : Resolved}
    (h : resolve tenant input = .ok (resolved, tenant')) :
    resolved.radiusSession = getSession tenant resolved.subscriberId ∧
      resolved.enforcementIp = (truthy (resolved.radiusSession.map Session.assignedIp)).or
        ((truthy input.assignedIp).or
          (truthy ((listBySubscriber tenant resolved.subscriberId).head?.map Lease.ipAddress))) := by
  unfold resolve at h
  split at h
  next => simp at h
  next s hs =>
    obtain ⟨hr, _⟩ := Prod.mk.inj (Except.ok.inj h)
    subst hr
    refine ⟨rfl, ?_⟩
    have hlist : listBySubscriber { tenant with
        subscribers := tenant.subscribers.set s (ensureSubscriber tenant s) } s =
        listBySubscriber tenant s := by
      simp only [listBySubscriber, OrderedMap.get_set_self, ensureSubscriber]
      cases tenant.subscribers.get s <;> rfl
    simp only [hlist]

/-- What a successful application records. -/
theorem apply_spec {config : IspConfig} {tenant tenant' : Tenant} {payload : PolicyInput}
    {policy : Policy} (h : apply config tenant payload = (.ok policy, tenant')) :
    ∃ resolved tenant₁, resolve tenant payload = .ok (resolved, tenant₁) ∧
      truthy resolved.enforcementIp = some policy.bngState.enforcementIp ∧
      normalizeAction payload.action = .ok policy.bngState.action ∧
      policy.resolved = resolved ∧ policy.subscriberId = resolved.subscriberId ∧
      policy.bngState.subscriberId = resolved.subscriberId ∧
      tenant'.policies = tenant.policies.set resolved.subscriberId policy ∧
      tenant'.radiusSessions = tenant.radiusSessions ∧ tenant'.subscribers = tenant₁.subscribers := by
  unfold apply at h
  split at h
  next => simp at h
  next resolved tenant₁ hresolve =>
    obtain ⟨_, ht⟩ := resolve_spec hresolve
    unfold applyPolicy at h
    split at h
    next => simp at h
    next bngState tenant₂ happly =>
      split at happly
      next => simp at happly
      next ip hip =>
        split at happly
        next => simp at happly
        next action haction =>
          obtain ⟨hp, ht'⟩ := Prod.mk.inj h
          cases Except.ok.inj hp
          obtain ⟨hb, ht₂⟩ := Prod.mk.inj (Except.ok.inj happly)
          subst hb ht₂ ht'
          exact ⟨resolved, tenant₁, hresolve, hip, haction, rfl, rfl, rfl, by rw [ht], by rw [ht], rfl⟩

/-- An application with an address and a known action succeeds. -/
theorem apply_succeeds (config : IspConfig) {tenant tenant₁ : Tenant} {payload : PolicyInput}
    {resolved : Resolved} {ip : String} {action : BngAction}
    (hresolve : resolve tenant payload = .ok (resolved, tenant₁))
    (hip : truthy resolved.enforcementIp = some ip)
    (haction : normalizeAction payload.action = .ok action) :
    ∃ policy tenant', apply config tenant payload = (.ok policy, tenant') := by
  unfold apply applyPolicy
  simp only [hresolve]
  split
  next happly =>
    split at happly
    next hnone => rw [hip] at hnone; simp at hnone
    next =>
      split at happly
      next herror => rw [haction] at herror; simp at herror
      next => simp at happly
  next => exact ⟨_, _, rfl⟩

/-- An application that throws leaves all but the subscriber records alone. -/
theorem apply_error {config : IspConfig} {tenant tenant' : Tenant} {payload : PolicyInput}
    {message : String} (h : apply config tenant payload = (.error message, tenant')) :
    tenant' = tenant ∨ ∃ resolved, resolve tenant payload = .ok (resolved, tenant') := by
  unfold apply at h
  split at h
  next => exact Or.inl (Prod.mk.inj h).2.symm
  next resolved tenant₁ hresolve =>
    split at h
    next => exact Or.inr ⟨resolved, (Prod.mk.inj h).2 ▸ hresolve⟩
    next => simp at h

end Isp

end GuardTime
