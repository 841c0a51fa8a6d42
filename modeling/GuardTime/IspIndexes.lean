import GuardTime.IspOwnership
import GuardTime.TenantRuns

namespace GuardTime

namespace Isp

/-- The lease that the record of a subscriber lists for a MAC. -/
def deviceOf (tenant : Tenant) (s mac : String) : Option Lease :=
  (tenant.subscribers.get s).bind fun subscriber => subscriber.devices.get mac

/-- The session that the record of a subscriber refers to. -/
def activeSessionOf (tenant : Tenant) (s : String) : Option Session :=
  (tenant.subscribers.get s).bind Subscriber.activeSession

/-- The device lists hold the leases of the lease index, each with its subscriber. -/
def LeasesAgree (tenant : Tenant) : Prop :=
  ∀ s mac lease, deviceOf tenant s mac = some lease ↔
    tenant.dhcpLeasesByMac.get mac = some lease ∧ lease.subscriberId = s

/-- The active sessions are those of the session index. -/
def SessionsAgree (tenant : Tenant) : Prop :=
  ∀ s, activeSessionOf tenant s = tenant.radiusSessions.get s

/-- A lease that is recorded names a MAC without a lease, or with one of the same subscriber. -/
def KeepsLeaseHolder (tenant : Tenant) : TenantOp → Prop
  | .upsertLease data => ∀ mac s, truthy data.macAddress = some mac →
      truthy data.subscriberId = some s → (truthy data.ipAddress).isSome →
      ∀ lease, findByMac tenant mac = some lease → lease.subscriberId = s
  | _ => True

theorem deviceOf_eq (tenant : Tenant) (s mac : String) :
    deviceOf tenant s mac = (ensureSubscriber tenant s).devices.get mac := by
  unfold deviceOf ensureSubscriber
  cases tenant.subscribers.get s <;> rfl

theorem activeSessionOf_eq (tenant : Tenant) (s : String) :
    activeSessionOf tenant s = (ensureSubscriber tenant s).activeSession := by
  unfold activeSessionOf ensureSubscriber
  cases tenant.subscribers.get s <;> rfl

/-- What an operation other than on a lease does to the records: at most the session of one
subscriber changes, in both places. -/
inductive SessionChange (tenant tenant' : Tenant) : Prop where
  | kept (hrecords : ∀ s, ensureSubscriber tenant' s = ensureSubscriber tenant s)
      (hsessions : tenant'.radiusSessions = tenant.radiusSessions)
      (hleases : tenant'.dhcpLeasesByMac = tenant.dhcpLeasesByMac)
  | set (s : String) (session : Option Session)
      (hrecords : tenant'.subscribers = tenant.subscribers.set s
        { ensureSubscriber tenant s with activeSession := session })
      (hsessions : ∀ s', tenant'.radiusSessions.get s' =
        if s' = s then session else tenant.radiusSessions.get s')
      (hleases : tenant'.dhcpLeasesByMac = tenant.dhcpLeasesByMac)

theorem SessionChange.same (tenant : Tenant) : SessionChange tenant tenant :=
  .kept (fun _ => rfl) rfl rfl

theorem upsertSession_change {config : IspConfig} {tenant tenant' : Tenant} {data : SessionData}
    {session : Session} (h : upsertSession config tenant data = .ok (session, tenant')) :
    SessionChange tenant tenant' := by
  obtain ⟨_, _, _, rfl⟩ := upsertSession_spec h
  refine .set session.subscriberId (some session) rfl ?_ rfl
  intro s'
  exact OrderedMap.get_set _ _ _ _

theorem stopSession_change (tenant : Tenant) (s : String) :
    SessionChange tenant (stopSession tenant s).2 := by
  unfold stopSession
  split
  next => exact .same tenant
  next =>
    refine .set s none rfl ?_ rfl
    intro s'
    exact OrderedMap.get_erase _ _ _

theorem resolve_change {tenant tenant' : Tenant} {input : PolicyInput} {resolved : Resolved}
    (h : resolve tenant input = .ok (resolved, tenant')) : SessionChange tenant tenant' := by
  obtain ⟨_, rfl⟩ := resolve_spec h
  refine .kept ?_ rfl rfl
  intro s
  rw [ensureSubscriber_set rfl]
  split
  next hs => rw [hs]
  next => rfl

theorem apply_change (config : IspConfig) (tenant : Tenant) (payload : PolicyInput) :
    SessionChange tenant (apply config tenant payload).2 := by
  unfold apply
  cases hresolve : resolve tenant payload with
  | error message => exact .same tenant
  | ok made =>
    obtain ⟨resolved, tenant₁⟩ := made
    have hchange := resolve_change hresolve
    simp only
    split
    next => exact hchange
    next bngState tenant₂ happly =>
      obtain ⟨_, _, _, _, rfl⟩ := applyPolicy_spec happly
      -- the policies and the BNG states are not among the records
      cases hchange with
      | kept hrecords hsessions hleases => exact .kept hrecords hsessions hleases
      | set s session hrecords hsessions hleases =>
        exact .set s session hrecords hsessions hleases

theorem step_sessionChange (config : IspConfig) (tenant : Tenant) {op : TenantOp}
    (hop : ∀ data, op ≠ .upsertLease data) : SessionChange tenant (tenant.step config op) := by
  cases op with
  | upsertSession data =>
    simp only [Tenant.step]
    split
    next => exact .same tenant
    next h => exact upsertSession_change h
  | stopSession s => exact stopSession_change tenant s
  | upsertLease data => exact absurd rfl (hop data)
  | resolve input =>
    simp only [Tenant.step]
    split
    next => exact .same tenant
    next h => exact resolve_change h
  | apply payload => exact apply_change config tenant payload
  | getSession s => exact .same tenant
  | listBySubscriber s => exact .same tenant
  | findByMac mac => exact .same tenant
  | getPolicy s => exact .same tenant
  | getState s => exact .same tenant

theorem SessionChange.sessionsAgree {tenant tenant' : Tenant} (h : SessionChange tenant tenant')
    (ha : SessionsAgree tenant) : SessionsAgree tenant' := by
  intro s
  have hs := ha s
  rw [activeSessionOf_eq] at hs ⊢
  cases h with
  | kept hrecords hsessions hleases => rw [hrecords, hsessions, hs]
  | set s' session hrecords hsessions hleases =>
    rw [ensureSubscriber_set hrecords, hsessions]
    split
    next => rfl
    next => exact hs

theorem SessionChange.deviceOf {tenant tenant' : Tenant} (h : SessionChange tenant tenant')
    (s mac : String) : deviceOf tenant' s mac = deviceOf tenant s mac := by
  rw [deviceOf_eq, deviceOf_eq]
  cases h with
  | kept hrecords hsessions hleases => rw [hrecords]
  | set s' session hrecords hsessions hleases =>
    rw [ensureSubscriber_set hrecords]
    split
    next he => rw [he]
    next => rfl

theorem SessionChange.leasesAgree {tenant tenant' : Tenant} (h : SessionChange tenant tenant') :
    LeasesAgree tenant' ↔ LeasesAgree tenant := by
  have hleases : tenant'.dhcpLeasesByMac = tenant.dhcpLeasesByMac := by
    cases h with
    | kept hrecords hsessions hleases => exact hleases
    | set s session hrecords hsessions hleases => exact hleases
  simp only [LeasesAgree, h.deviceOf, hleases]

/-- What recording a lease does to the records. -/
structure LeaseSet (tenant tenant' : Tenant) (lease : Lease) : Prop where
  records : tenant'.subscribers = tenant.subscribers.set lease.subscriberId
    { ensureSubscriber tenant lease.subscriberId with
      devices := (ensureSubscriber tenant lease.subscriberId).devices.set lease.macAddress lease }
  sessions : tenant'.radiusSessions = tenant.radiusSessions
  leases : tenant'.dhcpLeasesByMac = tenant.dhcpLeasesByMac.set lease.macAddress lease

theorem upsertLease_set {tenant tenant' : Tenant} {data : LeaseData} {lease : Lease}
    (h : upsertLease tenant data = .ok (lease, tenant')) : LeaseSet tenant tenant' lease := by
  obtain ⟨_, _, _, rfl⟩ := upsertLease_spec h
  exact ⟨rfl, rfl, rfl⟩

theorem LeaseSet.deviceOf {tenant tenant' : Tenant} {lease : Lease}
    (h : LeaseSet tenant tenant' lease) (s mac : String) :
    deviceOf tenant' s mac =
      if s = lease.subscriberId ∧ mac = lease.macAddress then some lease
      else deviceOf tenant s mac := by
  rw [deviceOf_eq, deviceOf_eq, ensureSubscriber_set h.records]
  by_cases hs : s = lease.subscriberId
  · subst hs
    simp only [if_true, OrderedMap.get_set, true_and]
  · simp only [hs, if_false, false_and]

theorem LeaseSet.sessionsAgree {tenant tenant' : Tenant} {lease : Lease}
    (h : LeaseSet tenant tenant' lease) (ha : SessionsAgree tenant) : SessionsAgree tenant' := by
  intro s
  have hs := ha s
  rw [activeSessionOf_eq] at hs ⊢
  rw [ensureSubscriber_set h.records, h.sessions]
  split
  next he =>
    subst he
    exact hs
  next => exact hs

/-- A lease set where the device lists agree with the index leaves them so just when the MAC had no
lease, or one of the same subscriber: its old holder keeps the device otherwise. -/
theorem LeaseSet.leasesAgree_iff {tenant tenant' : Tenant} {lease : Lease}
    (h : LeaseSet tenant tenant' lease) (ha : LeasesAgree tenant) :
    LeasesAgree tenant' ↔ ∀ old, tenant.dhcpLeasesByMac.get lease.macAddress = some old →
      old.subscriberId = lease.subscriberId := by
  have hget : ∀ mac, tenant'.dhcpLeasesByMac.get mac =
      if mac = lease.macAddress then some lease else tenant.dhcpLeasesByMac.get mac := by
    intro mac
    rw [h.leases, OrderedMap.get_set]
  refine ⟨?_, ?_⟩
  · intro ha' old hold
    by_contra hne
    have hdevice := (ha old.subscriberId lease.macAddress old).mpr ⟨hold, rfl⟩
    have hkept : Isp.deviceOf tenant' old.subscriberId lease.macAddress = some old := by
      rw [h.deviceOf, if_neg (fun hboth => hne hboth.1), hdevice]
    have hindex := ((ha' _ _ _).mp hkept).1
    rw [hget, if_pos rfl] at hindex
    exact hne (congrArg Lease.subscriberId (Option.some.inj hindex)).symm
  · intro hold s mac other
    rw [h.deviceOf, hget]
    by_cases hmac : mac = lease.macAddress
    · subst hmac
      by_cases hs : s = lease.subscriberId
      · subst hs
        simp only [and_self, if_true, Option.some.injEq]
        refine ⟨?_, fun hother => hother.1⟩
        intro hother
        exact ⟨hother, by rw [hother]⟩
      · simp only [hs, false_and, if_false, if_true]
        rw [ha]
        refine ⟨?_, ?_⟩
        · intro hother
          exact absurd (hother.2.symm.trans (hold other hother.1)) hs
        · intro hother
          exact absurd (hother.2.symm.trans (congrArg _ (Option.some.inj hother.1).symm)) hs
    · simp only [hmac, and_false, if_false]
      exact ha s mac other

theorem step_leasesAgree_iff (config : IspConfig) {tenant : Tenant} (ha : LeasesAgree tenant)
    (op : TenantOp) : LeasesAgree (tenant.step config op) ↔ KeepsLeaseHolder tenant op := by
  by_cases hop : ∃ data, op = .upsertLease data
  · obtain ⟨data, rfl⟩ := hop
    simp only [Tenant.step]
    cases hu : upsertLease tenant data with
    | error message =>
      refine iff_of_true ha ?_
      intro mac s hmac hs hip
      rcases upsertLease_error hu with hnone | hnone | hnone
      · rw [hmac] at hnone; simp at hnone
      · rw [hs] at hnone; simp at hnone
      · rw [hnone] at hip; simp at hip
    | ok made =>
      obtain ⟨lease, tenant'⟩ := made
      obtain ⟨⟨mac, hmac, hnorm⟩, hsub, hip, _⟩ := upsertLease_spec hu
      rw [(upsertLease_set hu).leasesAgree_iff ha, hnorm]
      refine ⟨?_, ?_⟩
      · intro hold mac' s hmac' hs _ old hfound
        cases Option.some.inj (hmac.symm.trans hmac')
        cases Option.some.inj (hsub.symm.trans hs)
        exact hold old hfound
      · intro hk old hold
        exact hk mac lease.subscriberId hmac hsub (by rw [hip]; rfl) old hold
  · have hne : ∀ data, op ≠ .upsertLease data := fun data he => hop ⟨data, he⟩
    rw [(step_sessionChange config tenant hne).leasesAgree]
    refine iff_of_true ha ?_
    cases op with
    | upsertLease data => exact absurd rfl (hne data)
    | _ => trivial

theorem step_sessionsAgree (config : IspConfig) (tenant : Tenant) (op : TenantOp)
    (ha : SessionsAgree tenant) : SessionsAgree (tenant.step config op) := by
  by_cases hop : ∃ data, op = .upsertLease data
  · obtain ⟨data, rfl⟩ := hop
    simp only [Tenant.step]
    cases hu : upsertLease tenant data with
    | error message => exact ha
    | ok made => exact (upsertLease_set hu).sessionsAgree ha
  · exact (step_sessionChange config tenant fun data he => hop ⟨data, he⟩).sessionsAgree ha

theorem leasesAgree_empty : LeasesAgree .empty := by
  intro s mac lease
  simp [deviceOf, Tenant.empty]

theorem sessionsAgree_empty : SessionsAgree .empty := fun _ => rfl

namespace TenantStore

/-- In every run the active sessions are those of the session index; and the device lists agree with
the lease index after every prefix of it just when no lease that is recorded takes a MAC from
another subscriber. -/
theorem indexes_agree (config : IspConfig) (ops : List (String × TenantOp)) :
    (∀ t, SessionsAgree ((after config ops).getTenant t).tenant) ∧
    ((∀ n t, LeasesAgree ((after config (ops.take n)).getTenant t).tenant) ↔
      ∀ n t op, ops[n]? = some (t, op) →
        KeepsLeaseHolder ((after config (ops.take n)).getTenant t).tenant op) := by
  refine ⟨?_, ?_⟩
  · exact after_keeps sessionsAgree_empty (step_sessionsAgree config) ops
  · exact after_prefix_iff KeepsLeaseHolder leasesAgree_empty
      (fun _ op h => step_leasesAgree_iff config h op) ops

def leaseOf (s ip : String) : TenantOp :=
  .upsertLease ⟨some "A0:CE:C8:12:34:56", some s, some ip, none, none, none⟩

def movedMac : List (String × TenantOp) :=
  [("isp-a", leaseOf "AT-000123" "10.64.12.34"), ("isp-a", leaseOf "AT-000456" "10.64.12.99")]

/-- A MAC that moves to another subscriber stays in the device list of the first. -/
theorem movedMac_stays_listed :
    ¬∀ (ops : List (String × TenantOp)) (t : String),
      LeasesAgree ((after sampleIsp ops).getTenant t).tenant ∧
        SessionsAgree ((after sampleIsp ops).getTenant t).tenant := by
  intro h
  have hlisted : (deviceOf ((after sampleIsp movedMac).getTenant "isp-a").tenant "AT-000123"
      "a0:ce:c8:12:34:56").map Lease.subscriberId = some "AT-000123" := by decide +kernel
  have hindexed : (((after sampleIsp movedMac).getTenant "isp-a").tenant.dhcpLeasesByMac.get
      "a0:ce:c8:12:34:56").map Lease.subscriberId = some "AT-000456" := by decide +kernel
  obtain ⟨lease, hdevice, _⟩ := Option.map_eq_some_iff.mp hlisted
  obtain ⟨hget, hown⟩ := ((h movedMac "isp-a").1 "AT-000123" _ lease).mp hdevice
  rw [hget] at hindexed
  have hother : lease.subscriberId = "AT-000456" := Option.some.inj hindexed
  exact absurd (hown.symm.trans hother) (by decide)

end TenantStore

end Isp

end GuardTime
