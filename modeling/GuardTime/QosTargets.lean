import GuardTime.QosController

namespace GuardTime

namespace Qos

/-- The throttle filters of a target match the address. -/
def Throttles (config : Config) (target : Target) (address : String) : Prop :=
  target.action = .THROTTLE ∧ (truthy target.ipAddress = some address ∨
    (config.enableIpv6 = true ∧ truthy target.ipv6Address = some address))

/-- A bandwidth limit that sets a rate, for all traffic or for a category with known domains. -/
def Limits (limit : BandwidthLimit) : Prop :=
  (∃ rate, rate ≠ 0 ∧ (limit.downloadKbps = some rate ∨ limit.uploadKbps = some rate)) ∧
    ∀ category, truthy limit.category = some category → domainsForCategory category ≠ []

def Shapes (config : Config) (target : Target) (address : String) : Prop :=
  config.enableQos = true ∧ config.qosInterfaces ≠ [] ∧
    (Throttles config target address ∨
      (config.enableBandwidthControl = true ∧ truthy target.ipAddress = some address ∧
        ∃ limit ∈ target.bandwidthLimits, Limits limit))

theorem ensureQdisc_aims (config : Config) (iface : String) :
    aims TcCommand.targets (ensureQdisc config iface) = [] := by
  simp [ensureQdisc, TcCommand.targets]

theorem clearFilters_aims (config : Config) (iface : String) :
    aims TcCommand.targets (clearFilters config iface) = [] := by
  cases hv : config.enableIpv6 <;> simp [clearFilters, TcCommand.targets, hv]

theorem throttleSteps_aims {config : Config} {iface : String} {target : Target} {address : String} :
    address ∈ aims TcCommand.targets (throttleSteps config iface target) ↔
      truthy target.ipAddress = some address ∨
        (config.enableIpv6 = true ∧ truthy target.ipv6Address = some address) := by
  cases hv : config.enableIpv6 <;>
    simp [throttleSteps, addThrottleFilters, addThrottleFiltersV6, addFilter, TcCommand.targets,
      TcMatch.address, hv]

theorem throttlePass_aims {config : Config} {targets : List Target} {address : String}
    (hi : config.qosInterfaces ≠ []) :
    address ∈ aims TcCommand.targets (throttlePass config targets) ↔
      ∃ target ∈ targets, Throttles config target address := by
  have hsetup : ((allInterfaces config).flatMap fun iface =>
      aims TcCommand.targets (ensureQdisc config iface ++ clearFilters config iface)) = [] := by
    simp [ensureQdisc_aims, clearFilters_aims]
  obtain ⟨first, hfirst⟩ := List.exists_mem_of_ne_nil _ hi
  rw [throttlePass, aims_append, aims_flatMap, hsetup, List.nil_append]
  simp only [aims_flatMap, List.mem_flatMap, throttleSteps_aims]
  refine ⟨?_, ?_⟩
  · intro h
    obtain ⟨_, _, target, ht, ha⟩ := h
    obtain ⟨hin, hth⟩ := List.mem_filter.mp ht
    have haction : target.action = .THROTTLE := by simpa using (Bool.and_eq_true_iff.mp hth).1
    exact ⟨target, hin, haction, ha⟩
  · intro h
    obtain ⟨target, hin, haction, ha⟩ := h
    refine ⟨first, hfirst, target, List.mem_filter.mpr ⟨hin, ?_⟩, ha⟩
    rcases ha with ha | ⟨_, ha⟩
    · simp [haction, ha]
    · simp [haction, ha]

theorem matchesFor_iff {device : TcMatch} (peer : String → TcMatch)
    {categoryIps : Option (List String)} {address : String} :
    (∃ m ∈ matchesFor device peer categoryIps, m.1.address = address) ↔
      device.address = address ∧ categoryIps ≠ some [] := by
  cases categoryIps with
  | none => simp [matchesFor]
  | some ips =>
    cases ips with
    | nil => simp [matchesFor]
    | cons ip ips => simp [matchesFor]

theorem rateLimits_iff {rates : Option Nat} {limitOf : Nat → DirectionalLimit} {device : TcMatch}
    {peer : String → TcMatch} {categoryIps : Option (List String)} {address : String}
    (h : ∀ rate, (limitOf rate).matchesOf = matchesFor device peer categoryIps) :
    (∃ d ∈ (rates.filter (· ≠ 0)).toList.map limitOf, ∃ m ∈ d.matchesOf, m.1.address = address) ↔
      (∃ rate, rate ≠ 0 ∧ rates = some rate) ∧ device.address = address ∧ categoryIps ≠ some [] := by
  rw [← matchesFor_iff peer]
  refine ⟨?_, ?_⟩
  · intro h
    obtain ⟨_, hd, hm⟩ := h
    obtain ⟨rate, hr, rfl⟩ := List.mem_map.mp hd
    obtain ⟨hr, hne⟩ := Option.filter_eq_some_iff.mp (Option.mem_toList.mp hr)
    exact ⟨⟨rate, by simpa using hne, hr⟩, h rate ▸ hm⟩
  · intro h
    obtain ⟨⟨rate, hne, hr⟩, hm⟩ := h
    refine ⟨limitOf rate, List.mem_map.mpr ⟨rate, ?_, rfl⟩, (h rate).symm ▸ hm⟩
    simp [hr, hne]

theorem directionalLimits_iff {config : Config} {resolve4 : String → List String} {target : Target}
    {ipAddress address : String} {limit : BandwidthLimit} :
    (∃ d ∈ directionalLimits config resolve4 target ipAddress limit,
        ∃ m ∈ d.matchesOf, m.1.address = address) ↔
      (∃ rate, rate ≠ 0 ∧ (limit.downloadKbps = some rate ∨ limit.uploadKbps = some rate)) ∧
        ipAddress = address ∧ ∀ category, truthy limit.category = some category →
          resolveAll resolve4 (domainsForCategory category) ≠ [] := by
  have hcategory : (truthy limit.category).map (fun category =>
      resolveAll resolve4 (domainsForCategory category)) ≠ some [] ↔
      ∀ category, truthy limit.category = some category →
        resolveAll resolve4 (domainsForCategory category) ≠ [] := by
    cases truthy limit.category <;> simp
  unfold directionalLimits
  simp only [List.mem_append, or_and_right, exists_or]
  rw [rateLimits_iff (fun _ => rfl), rateLimits_iff (fun _ => rfl), ← hcategory]
  simp only [TcMatch.address, ← or_and_right, ← exists_or, and_or_left]

/-- Some filter of the limits of a target matches the address. -/
theorem targetLimits_iff (config : Config) {resolve4 : String → List String} {target : Target}
    {address : String} :
    (∃ d ∈ targetLimits config resolve4 target, ∃ m ∈ d.matchesOf, m.1.address = address) ↔
      truthy target.ipAddress = some address ∧ ∃ limit ∈ target.bandwidthLimits,
        (∃ rate, rate ≠ 0 ∧ (limit.downloadKbps = some rate ∨ limit.uploadKbps = some rate)) ∧
          ∀ category, truthy limit.category = some category →
            resolveAll resolve4 (domainsForCategory category) ≠ [] := by
  simp only [targetLimits, List.mem_flatMap, Option.mem_toList]
  refine ⟨?_, ?_⟩
  · intro h
    obtain ⟨d, ⟨ip, hip, limit, hl, hd⟩, hm⟩ := h
    obtain ⟨hrate, rfl, hcategory⟩ := directionalLimits_iff.mp ⟨d, hd, hm⟩
    exact ⟨hip, limit, hl, hrate, hcategory⟩
  · intro h
    obtain ⟨hip, limit, hl, hrate, hcategory⟩ := h
    obtain ⟨d, hd, hm⟩ := directionalLimits_iff.mpr ⟨hrate, rfl, hcategory⟩
    exact ⟨d, ⟨address, hip, limit, hl, hd⟩, hm⟩

theorem resolveAll_ne_nil {resolve4 : String → List String} {domains : List String}
    (h : resolveAll resolve4 domains ≠ []) : domains ≠ [] := by
  rintro rfl
  exact h rfl

theorem limitSteps_neutral {V : Type} (effect : TcCommand → V → V) (limit : DirectionalLimit)
    (iface : String) : ∀ s ∈ limitSteps limit iface, s.Neutral effect := by
  intro s hs
  rcases List.mem_cons.mp hs with rfl | hs
  · simp [Step.Neutral]
  · obtain ⟨m, _, rfl⟩ := List.mem_map.mp hs
    simp [addFilter, Step.Neutral]

theorem limitSteps_aims {limit : DirectionalLimit} (iface : String) {address : String} :
    address ∈ aims TcCommand.targets (limitSteps limit iface) ↔
      ∃ m ∈ limit.matchesOf, m.1.address = address := by
  have hmap : ∀ ms : List (TcMatch × Option TcMatch),
      aims TcCommand.targets (ms.map fun m => addFilter iface "ip" 20 m.1 m.2 limit.classId) =
        ms.map fun m => m.1.address := by
    intro ms
    induction ms with
    | nil => rfl
    | cons m ms ih => simp [addFilter, TcCommand.targets] at ih ⊢; exact ih
  rw [limitSteps, aims_run_cons, hmap]
  simp [TcCommand.targets]

section Runs

variable {K : Type} {respond : Respond TcCommand K} {config : Config}
  {resolve4 : String → List String} {targets : List Target} {w : World TcCommand K} {address : String}

theorem limitInterface_aims {limit : DirectionalLimit} {iface : String}
    (h : address ∈ struck TcCommand.targets (limitInterface respond limit w iface)) :
    address ∈ struck TcCommand.targets w ∨ ∃ m ∈ limit.matchesOf, m.1.address = address := by
  rw [← limitSteps_aims iface]
  unfold limitInterface at h
  dsimp only at h
  split at h
  next => exact runScript_aims h
  next =>
    rcases issue_struck.mp h with h | h
    · exact runScript_aims h
    · simp [TcCommand.targets] at h

theorem syncBandwidthLimits_aims
    (h : address ∈ struck TcCommand.targets (syncBandwidthLimits config respond resolve4 targets w)) :
    address ∈ struck TcCommand.targets w ∨ ∃ target ∈ targets,
      truthy target.ipAddress = some address ∧ ∃ limit ∈ target.bandwidthLimits, Limits limit := by
  have hlimit : ∀ w limit,
      address ∈ struck TcCommand.targets (applyDirectionalLimit respond w limit) →
      address ∈ struck TcCommand.targets w ∨ ∃ m ∈ limit.matchesOf, m.1.address = address := by
    intro w limit ha
    rcases foldl_or_exists (P := fun w : World TcCommand K => address ∈ struck TcCommand.targets w)
      (fun _ _ h => limitInterface_aims h) ha with ha | ⟨_, _, ha⟩
    · exact Or.inl ha
    · exact Or.inr ha
  rcases foldl_or_exists (P := fun w : World TcCommand K => address ∈ struck TcCommand.targets w) hlimit h with
    ha | ⟨d, hd, hm⟩
  · exact Or.inl ha
  · obtain ⟨target, ht, hd⟩ := List.mem_flatMap.mp hd
    obtain ⟨hip, limit, hl, hrate, hcategory⟩ := (targetLimits_iff config).mp ⟨d, hd, hm⟩
    exact Or.inr ⟨target, ht, hip, limit, hl, hrate, fun category hc =>
      resolveAll_ne_nil (hcategory category hc)⟩

/-- Only addresses whose traffic is shaped are named. -/
theorem sync_aims
    (h : address ∈ struck TcCommand.targets (sync config respond resolve4 targets w).2) :
    address ∈ struck TcCommand.targets w ∨
      (config.dryRun = false ∧ ∃ target ∈ targets, Shapes config target address) := by
  unfold sync at h
  split at h
  next => exact Or.inl h
  next hon =>
    simp only [Bool.or_eq_true, Bool.not_eq_true', List.isEmpty_iff, not_or, Bool.not_eq_false,
      Bool.not_eq_true] at hon
    obtain ⟨⟨hq, hi⟩, hd⟩ := hon
    have hpass : address ∈ struck TcCommand.targets
        (runScript respond (throttlePass config targets) w).2 →
        address ∈ struck TcCommand.targets w ∨
          (config.dryRun = false ∧ ∃ target ∈ targets, Shapes config target address) := by
      intro ha
      rcases runScript_aims ha with ha | ha
      · exact Or.inl ha
      · obtain ⟨target, ht, hth⟩ := (throttlePass_aims hi).mp ha
        exact Or.inr ⟨hd, target, ht, hq, hi, Or.inl hth⟩
    dsimp only at h
    split at h
    next hb =>
      rcases syncBandwidthLimits_aims h with ha | ⟨target, ht, hip, hl⟩
      · exact hpass ha
      · exact Or.inr ⟨hd, target, ht, hq, hi, Or.inr ⟨(Bool.and_eq_true_iff.mp hb).2, hip, hl⟩⟩
    next => exact hpass h

theorem limitInterface_keeps {limit : DirectionalLimit} {iface : String}
    (h : address ∈ struck TcCommand.targets w) :
    address ∈ struck TcCommand.targets (limitInterface respond limit w iface) := by
  unfold limitInterface
  dsimp only
  split
  next => exact runScript_aims_keeps h
  next => exact issue_struck.mpr (Or.inl (runScript_aims_keeps h))

theorem applyDirectionalLimit_keeps {limit : DirectionalLimit}
    (h : address ∈ struck TcCommand.targets w) :
    address ∈ struck TcCommand.targets (applyDirectionalLimit respond w limit) := by
  exact foldl_keeps (P := fun w : World TcCommand K => address ∈ struck TcCommand.targets w)
    (fun _ _ h => limitInterface_keeps h) limit.interfaces h

theorem syncBandwidthLimits_keeps (h : address ∈ struck TcCommand.targets w) :
    address ∈ struck TcCommand.targets (syncBandwidthLimits config respond resolve4 targets w) :=
  foldl_keeps (P := fun w : World TcCommand K => address ∈ struck TcCommand.targets w)
    (fun _ _ h => applyDirectionalLimit_keeps h) _ h

theorem throttlePass_accountable (config : Config) (targets : List Target) :
    Accountable TcCommand.targets (throttlePass config targets) := by
  refine accountable_append (accountable_of_aims ?_) ?_
  · simp [ensureQdisc_aims, clearFilters_aims]
  · intro s hs c hc _
    simp only [List.mem_flatMap, throttleSteps, List.mem_append, Option.mem_toList] at hs
    obtain ⟨iface, _, target, _, ⟨ip, _, hs⟩ | hs⟩ := hs
    · simp only [addThrottleFilters, addFilter, List.mem_cons, List.not_mem_nil, or_false] at hs
      rcases hs with rfl | rfl <;> rw [List.mem_singleton.mp hc]
    · split at hs
      next =>
        obtain ⟨ip, _, hs⟩ := List.mem_flatMap.mp hs
        simp only [addThrottleFiltersV6, addFilter, List.mem_cons, List.not_mem_nil, or_false] at hs
        rcases hs with rfl | rfl <;> rw [List.mem_singleton.mp hc]
      next => simp at hs

theorem limitSteps_accountable (limit : DirectionalLimit) (iface : String) :
    Accountable TcCommand.targets (limitSteps limit iface) := by
  intro s hs c hc _
  rcases List.mem_cons.mp hs with rfl | hs
  · rw [List.mem_singleton.mp hc]
  · obtain ⟨_, _, rfl⟩ := List.mem_map.mp hs
    rw [addFilter, List.mem_singleton.mp hc]

theorem targetLimits_interfaces (hi : config.qosInterfaces ≠ []) {target : Target}
    {d : DirectionalLimit} (hd : d ∈ targetLimits config resolve4 target) : d.interfaces ≠ [] := by
  have hdown : downloadInterfaces config ≠ [] := by
    unfold downloadInterfaces
    split
    next => simp
    next => exact hi
  have hup : uploadInterfaces config ≠ [] := by
    unfold uploadInterfaces
    split
    next => simp
    next => exact hi
  simp only [targetLimits, directionalLimits, List.mem_flatMap, List.mem_append, List.mem_map] at hd
  obtain ⟨_, _, _, _, ⟨_, _, rfl⟩ | ⟨_, _, rfl⟩⟩ := hd
  · exact hdown
  · exact hup

section Granted

variable (hgrant : ∀ n c k, (respond n c k).1 = true)

include hgrant

theorem limitInterface_struck {limit : DirectionalLimit} (iface : String)
    (h : ∃ m ∈ limit.matchesOf, m.1.address = address) :
    address ∈ struck TcCommand.targets (limitInterface respond limit w iface) := by
  have hdone := runScript_granted hgrant (limitSteps limit iface) w
  simp only [limitInterface, if_pos hdone]
  exact runScript_hits (limitSteps_accountable limit iface) hdone ((limitSteps_aims iface).mpr h)

theorem syncBandwidthLimits_struck (hi : config.qosInterfaces ≠ [])
    (hresolve : ∀ domain, resolve4 domain ≠ []) {target : Target} (ht : target ∈ targets)
    (hip : truthy target.ipAddress = some address) {limit : BandwidthLimit}
    (hl : limit ∈ target.bandwidthLimits) (hlimits : Limits limit) :
    address ∈ struck TcCommand.targets (syncBandwidthLimits config respond resolve4 targets w) := by
  have hresolved : ∀ domains, domains ≠ [] → resolveAll resolve4 domains ≠ [] := by
    intro domains hne hnil
    obtain ⟨domain, hdomain⟩ := List.exists_mem_of_ne_nil _ hne
    obtain ⟨ip, hip⟩ := List.exists_mem_of_ne_nil _ (hresolve domain)
    have hmem : ip ∈ resolveAll resolve4 domains :=
      List.mem_eraseDups.mpr (List.mem_flatMap.mpr ⟨domain, hdomain, hip⟩)
    simp [hnil] at hmem
  obtain ⟨d, hd, hm⟩ := (targetLimits_iff config).mpr ⟨hip, limit, hl, hlimits.1,
    fun category hc => hresolved _ (hlimits.2 category hc)⟩
  obtain ⟨iface, hiface⟩ := List.exists_mem_of_ne_nil _ (targetLimits_interfaces hi hd)
  have hlimit : ∀ w, address ∈ struck TcCommand.targets (applyDirectionalLimit respond w d) := fun w =>
    foldl_of_mem (P := fun w : World TcCommand K => address ∈ struck TcCommand.targets w)
      (f := limitInterface respond d) (fun _ _ h => limitInterface_keeps h)
      (fun _ => limitInterface_struck hgrant iface hm) hiface w
  exact foldl_of_mem (P := fun w : World TcCommand K => address ∈ struck TcCommand.targets w)
    (f := applyDirectionalLimit respond) (fun _ _ h => applyDirectionalLimit_keeps h) hlimit
    (List.mem_flatMap.mpr ⟨target, ht, hd⟩) w

theorem sync_returns (config : Config) (resolve4 : String → List String) (targets : List Target)
    (w : World TcCommand K) : (sync config respond resolve4 targets w).1 = true := by
  unfold sync
  dsimp only
  split
  next => rfl
  next =>
    split
    next => rfl
    next => exact runScript_granted hgrant _ w

/-- With every command granted, every address whose traffic is shaped is named. -/
theorem sync_struck (hd : config.dryRun = false) (hresolve : ∀ domain, resolve4 domain ≠ [])
    {target : Target} (ht : target ∈ targets) (hs : Shapes config target address) :
    address ∈ struck TcCommand.targets (sync config respond resolve4 targets w).2 := by
  obtain ⟨hq, hi, hs⟩ := hs
  have hdone := runScript_granted hgrant (throttlePass config targets) w
  have hon : ¬(!config.enableQos || config.qosInterfaces.isEmpty || config.dryRun) = true := by
    simp [hq, hi, hd]
  simp only [sync, if_neg hon, hdone, Bool.true_and]
  rcases hs with hth | ⟨hb, hip, limit, hl, hlimits⟩
  · have hpass := runScript_hits (throttlePass_accountable config targets) hdone
      ((throttlePass_aims hi).mpr ⟨target, ht, hth⟩)
    split
    next => exact syncBandwidthLimits_keeps hpass
    next => exact hpass
  · simp only [hb, if_true]
    exact syncBandwidthLimits_struck hgrant hi hresolve ht hip hl hlimits

end Granted

end Runs

end Qos

end GuardTime
