import GuardTime.FirstMatch
import GuardTime.QosClasses
import GuardTime.QosHistory

namespace GuardTime

/-- A packet on an interface, as far as the filters look at it. -/
structure TcPacket (A : Type) where
  iface : String
  protocol : String
  src : A
  dst : A

section Filters

variable {A : Type} (reads : String → A → Bool) (p : TcPacket A)

def TcMatch.holds : TcMatch → Bool
  | .src address => reads address p.src
  | .dst address => reads address p.dst

def TcFilter.takes (f : TcFilter) : Bool :=
  f.protocol = p.protocol && f.device.holds reads p && f.peer.all (·.holds reads p)

/-- The class a packet is put in: filters are consulted by priority, then in the order they were added. -/
def classify (filters : List TcFilter) : Option String :=
  (firstByPrio (·.takes reads p) TcFilter.prio filters).map TcFilter.flowid

end Filters

namespace Qos

def added (iface : String) (commands : List TcCommand) : List TcFilter :=
  commands.filterMap fun c => if c.iface = iface then c.adds else none

def limitFilters (iface : String) (limit : DirectionalLimit) : List TcFilter :=
  limit.interfaces.flatMap fun other =>
    if other = iface then
      limit.matchesOf.map fun m => ⟨"ip", 20, m.1, m.2, limit.classId⟩
    else []

def throttleFilters (config : Config) (targets : List Target) (iface : String) : List TcFilter :=
  added iface (mandatory (config.qosInterfaces.flatMap fun iface =>
    (throttled targets).flatMap (throttleSteps config iface)))

def bandwidthFilters (config : Config) (resolve4 : String → List String) (targets : List Target)
    (iface : String) : List TcFilter :=
  (targets.flatMap (targetLimits config resolve4)).flatMap (limitFilters iface)

def entryFilters (config : Config) (resolve4 : String → List String) (target : Target)
    (iface : String) (limit : BandwidthLimit) : List TcFilter :=
  (truthy target.ipAddress).toList.flatMap fun ip =>
    (directionalLimits config resolve4 target ip limit).flatMap (limitFilters iface)

section Attached

variable {replaced : List TcFilter → List TcFilter} {iface : String}

theorem attach_added {script : List (Step TcCommand)}
    (h : ∀ c ∈ mandatory script, ∀ fs, c.onInterface replaced (some fs) = some (fs ++ c.adds.toList))
    (fs : List TcFilter) :
    attach replaced iface script (some fs) = some (fs ++ added iface (mandatory script)) := by
  unfold attach added
  generalize mandatory script = commands at h
  induction commands generalizing fs with
  | nil => simp
  | cons c commands ih =>
    have hrest := fun c' hc' => h c' (List.mem_cons_of_mem c hc')
    have hc := h c List.mem_cons_self fs
    rw [List.foldl_cons, List.filterMap_cons, TcCommand.effectAt]
    by_cases hi : c.iface = iface
    · rw [if_pos hi, hc, ih _ hrest, if_pos hi]
      cases hadds : c.adds with
      | none => simp
      | some f => simp
    · rw [if_neg hi, ih _ hrest, if_neg hi]

theorem throttle_mandatory {config : Config} {targets : List Target} {c : TcCommand}
    (hc : c ∈ mandatory (config.qosInterfaces.flatMap fun iface =>
      (throttled targets).flatMap (throttleSteps config iface))) :
    ∃ other protocol prio device flowid, prio < 20 ∧
      c = .filterAdd other protocol ROOT_HANDLE prio device none flowid := by
  have hs := mem_mandatory.mp hc
  simp only [List.mem_flatMap, throttleSteps, List.mem_append, Option.mem_toList] at hs
  obtain ⟨other, _, target, _, ⟨ip, _, hs⟩ | hs⟩ := hs
  · simp only [addThrottleFilters, addFilter, List.mem_cons, List.not_mem_nil, or_false] at hs
    rcases hs with hs | hs <;> cases hs <;> exact ⟨_, _, _, _, _, by omega, rfl⟩
  · split at hs
    next =>
      obtain ⟨ip, _, hs⟩ := List.mem_flatMap.mp hs
      simp only [addThrottleFiltersV6, addFilter, List.mem_cons, List.not_mem_nil, or_false] at hs
      rcases hs with hs | hs <;> cases hs <;> exact ⟨_, _, _, _, _, by omega, rfl⟩
    next => simp at hs

theorem throttleFilters_prio {config : Config} {targets : List Target} {f : TcFilter}
    (hf : f ∈ throttleFilters config targets iface) : f.prio < 20 := by
  obtain ⟨c, hc, hadds⟩ := List.mem_filterMap.mp hf
  obtain ⟨other, protocol, prio, device, flowid, hlt, rfl⟩ := throttle_mandatory hc
  split at hadds
  next =>
    cases Option.some.inj hadds
    exact hlt
  next => simp at hadds

theorem limitSteps_mandatory (limit : DirectionalLimit) (other : String) :
    mandatory (limitSteps limit other) =
      .classReplace other ROOT_CLASS limit.classId (toString limit.rateKbps ++ "kbit")
        (some (toString limit.rateKbps ++ "kbit")) ::
      limit.matchesOf.map fun m => .filterAdd other "ip" ROOT_HANDLE 20 m.1 m.2 limit.classId := by
  rw [limitSteps, mandatory_run_cons]
  congr 1
  induction limit.matchesOf with
  | nil => rfl
  | cons m matchesOf ih => simpa [addFilter] using ih

theorem limitSteps_added (limit : DirectionalLimit) (other : String) :
    added iface (mandatory (limitSteps limit other)) =
      if other = iface then limit.matchesOf.map fun m => ⟨"ip", 20, m.1, m.2, limit.classId⟩
      else [] := by
  have hclass : ∀ commands : List TcCommand, added iface
      (.classReplace other ROOT_CLASS limit.classId (toString limit.rateKbps ++ "kbit")
        (some (toString limit.rateKbps ++ "kbit")) :: commands) = added iface commands := by
    intro commands
    unfold added
    rw [List.filterMap_cons]
    split
    next => rfl
    next h =>
      split at h
      next => cases h
      next => cases h
  rw [limitSteps_mandatory, hclass]
  induction limit.matchesOf with
  | nil => simp [added]
  | cons m matchesOf ih =>
    rw [List.map_cons, added, List.filterMap_cons]
    have hiface : (TcCommand.filterAdd other "ip" ROOT_HANDLE 20 m.1 m.2 limit.classId).iface =
      other := rfl
    by_cases h : other = iface
    · rw [if_pos h] at ih ⊢
      rw [if_pos (hiface.trans h)]
      exact congrArg (List.cons _) ih
    · rw [if_neg h] at ih ⊢
      rw [if_neg (fun he => h (hiface.symm.trans he))]
      exact ih

theorem limitSteps_attach (limit : DirectionalLimit) (other : String) (fs : List TcFilter) :
    attach replaced iface (limitSteps limit other) (some fs) =
      some (fs ++ if other = iface then
        limit.matchesOf.map fun m => ⟨"ip", 20, m.1, m.2, limit.classId⟩ else []) := by
  rw [attach_added, limitSteps_added]
  intro c hc fs
  rw [limitSteps_mandatory] at hc
  rcases List.mem_cons.mp hc with rfl | hc
  · simp [TcCommand.onInterface, TcCommand.adds]
  · obtain ⟨m, _, rfl⟩ := List.mem_map.mp hc
    simp [TcCommand.onInterface, TcCommand.adds]

theorem attachLimits_filters (limits : List DirectionalLimit) (fs : List TcFilter) :
    attachLimits replaced iface limits (some fs) = some (fs ++ limits.flatMap (limitFilters iface)) := by
  have hlimit : ∀ (limit : DirectionalLimit) (interfaces : List String) (fs : List TcFilter),
      interfaces.foldl (fun v other => attach replaced iface (limitSteps limit other) v) (some fs) =
        some (fs ++ interfaces.flatMap fun other => if other = iface then
          limit.matchesOf.map fun m => ⟨"ip", 20, m.1, m.2, limit.classId⟩ else []) := by
    intro limit interfaces
    induction interfaces with
    | nil => simp
    | cons other interfaces ih =>
      intro fs
      rw [List.foldl_cons, limitSteps_attach, ih, List.flatMap_cons, List.append_assoc]
  unfold attachLimits
  induction limits generalizing fs with
  | nil => simp
  | cons limit limits ih =>
    rw [List.foldl_cons, hlimit, ih, List.flatMap_cons, List.append_assoc]
    rfl

/-- The filters of an interface after a sync: those of the throttled targets, then those of the limits
in the order of the targets and of their entries. -/
theorem attached_filters {config : Config} (hon : Enforces config)
    (resolve4 : String → List String) (targets : List Target) :
    attached config replaced resolve4 targets iface =
      some (throttleFilters config targets iface ++
        bandwidthFilters config resolve4 targets iface) := by
  obtain ⟨_, _, _, hb⟩ := hon
  unfold attached
  simp only [hb, if_true]
  rw [attach_added, attachLimits_filters, List.nil_append]
  · rfl
  · intro c hc fs
    obtain ⟨other, protocol, prio, device, flowid, _, rfl⟩ := throttle_mandatory hc
    simp [TcCommand.onInterface, TcCommand.adds]

end Attached

section Order

variable {A : Type} (reads : String → A → Bool) (config : Config)
  (replaced : List TcFilter → List TcFilter) (calls : List QosCall)
  (resolve4 : String → List String)

/-- The class of a packet after a sync in which all commands succeed, whatever calls came before it;
without one the packet is in the default class. -/
def classAfter (targets : List Target) (p : TcPacket A) : Option String :=
  classify reads p (((sync config (granted replaced) resolve4 targets
    ⟨history config replaced calls, []⟩).2.kernel p.iface).getD [])

/-- The class that the first filter of a list decides on. -/
def firstClass (p : TcPacket A) (filters : List TcFilter) : Option String :=
  (filters.find? (·.takes reads p)).map TcFilter.flowid

/-- The class that one entry of a target's limits alone puts a packet in. -/
def entryClass (target : Target) (limit : BandwidthLimit) (p : TcPacket A) : Option String :=
  firstClass reads p (entryFilters config resolve4 target p.iface limit)

/-- The class that a packet is put in before the limits of a target are consulted: by the throttled
targets, and by the limits of those before it. -/
def earlierClass (before : List Target) (target : Target) (after : List Target) (p : TcPacket A) :
    Option String :=
  (classify reads p (throttleFilters config (before ++ target :: after) p.iface)).or
    (firstClass reads p (bandwidthFilters config resolve4 before p.iface))

/-- The order of the target's entries does not matter. -/
def OrderFree (before : List Target) (target : Target) (after : List Target) : Prop :=
  ∀ limits, limits.Perm target.bandwidthLimits →
    ∀ p : TcPacket A, p.iface ∈ allInterfaces config →
      classAfter reads config replaced calls resolve4
        (before ++ { target with bandwidthLimits := limits } :: after) p =
      classAfter reads config replaced calls resolve4 (before ++ target :: after) p

/-- A packet that an entry with a category takes is in the class of that entry. -/
def CategoriesWin (before : List Target) (target : Target) (after : List Target) : Prop :=
  ∀ limit ∈ target.bandwidthLimits, (truthy limit.category).isSome →
    ∀ p : TcPacket A, p.iface ∈ allInterfaces config →
      ∀ c, entryClass reads config resolve4 target limit p = some c →
        classAfter reads config replaced calls resolve4 (before ++ target :: after) p = some c

/-- No packet that is left over is taken by two entries for different classes. -/
def EntriesApart (before : List Target) (target : Target) (after : List Target) : Prop :=
  ∀ p : TcPacket A, p.iface ∈ allInterfaces config →
    earlierClass reads config resolve4 before target after p = none →
      ∀ x ∈ target.bandwidthLimits, ∀ y ∈ target.bandwidthLimits, ∀ b c,
        entryClass reads config resolve4 target x p = some b →
          entryClass reads config resolve4 target y p = some c → b = c

/-- No packet that an entry with a category takes was put in another class before. -/
def CategoriesFree (before : List Target) (target : Target) (after : List Target) : Prop :=
  ∀ limit ∈ target.bandwidthLimits, (truthy limit.category).isSome →
    ∀ p : TcPacket A, p.iface ∈ allInterfaces config →
      ∀ b c, entryClass reads config resolve4 target limit p = some b →
        earlierClass reads config resolve4 before target after p = some c → c = b

variable {reads config replaced calls resolve4}

theorem firstClass_append (p : TcPacket A) (xs ys : List TcFilter) :
    firstClass reads p (xs ++ ys) = (firstClass reads p xs).or (firstClass reads p ys) := by
  simp only [firstClass, List.find?_append]
  cases xs.find? (·.takes reads p) <;> rfl

theorem firstClass_flatMap {E : Type} (p : TcPacket A) (filters : E → List TcFilter)
    (entries : List E) :
    firstClass reads p (entries.flatMap filters) =
      entries.findSome? fun entry => firstClass reads p (filters entry) := by
  simp only [firstClass, List.find?_flatMap, List.map_findSome?]
  rfl

theorem limitFilters_prio {iface : String} {limit : DirectionalLimit} {f : TcFilter}
    (hf : f ∈ limitFilters iface limit) : f.prio = 20 := by
  obtain ⟨other, _, hf⟩ := List.mem_flatMap.mp hf
  split at hf
  next =>
    obtain ⟨m, _, rfl⟩ := List.mem_map.mp hf
    rfl
  next => simp at hf

theorem bandwidthFilters_prio {targets : List Target} {iface : String} {f : TcFilter}
    (hf : f ∈ bandwidthFilters config resolve4 targets iface) : f.prio = 20 := by
  obtain ⟨limit, _, hf⟩ := List.mem_flatMap.mp hf
  exact limitFilters_prio hf

theorem bandwidthFilters_split (before : List Target) (target : Target) (after : List Target)
    (iface : String) :
    bandwidthFilters config resolve4 (before ++ target :: after) iface =
      bandwidthFilters config resolve4 before iface ++
        (target.bandwidthLimits.flatMap (entryFilters config resolve4 target iface) ++
          bandwidthFilters config resolve4 after iface) := by
  have hown : (targetLimits config resolve4 target).flatMap (limitFilters iface) =
      target.bandwidthLimits.flatMap (entryFilters config resolve4 target iface) := by
    unfold targetLimits entryFilters
    cases truthy target.ipAddress with
    | none => simp
    | some ip => simp [List.flatMap_assoc]
  simp only [bandwidthFilters, List.flatMap_append, List.flatMap_cons, hown]

theorem throttleFilters_limits (before : List Target) (target : Target) (after : List Target)
    (limits : List BandwidthLimit) (iface : String) :
    throttleFilters config (before ++ { target with bandwidthLimits := limits } :: after) iface =
      throttleFilters config (before ++ target :: after) iface := by
  have hsteps : ∀ iface, (throttled
      (before ++ { target with bandwidthLimits := limits } :: after)).flatMap
        (throttleSteps config iface) =
      (throttled (before ++ target :: after)).flatMap (throttleSteps config iface) := by
    intro iface
    simp only [throttled, List.filter_append, List.filter_cons, List.flatMap_append]
    congr 1
    split
    next => rfl
    next => rfl
  simp only [throttleFilters, hsteps]

/-- A packet is put in a class by what comes before a target, by the first of its entries that takes
it, or by what comes after. -/
theorem classAfter_eq (hon : Enforces config) (hreplaced : ∀ filters, replaced filters ⊆ filters)
    (before : List Target) (target : Target) (after : List Target) {p : TcPacket A}
    (hp : p.iface ∈ allInterfaces config) :
    classAfter reads config replaced calls resolve4 (before ++ target :: after) p =
      (earlierClass reads config resolve4 before target after p).or
        ((target.bandwidthLimits.findSome? fun limit =>
            entryClass reads config resolve4 target limit p).or
          (firstClass reads p (bandwidthFilters config resolve4 after p.iface))) := by
  have hgate : (!config.enableQos || config.qosInterfaces.isEmpty || config.dryRun) = false := by
    obtain ⟨hq, hi, hd, _⟩ := hon
    simp [hq, hi, hd]
  have hcleared : ∀ f ∈ ((history config replaced calls p.iface).map replaced).getD [],
      Cleared config f := by
    intro f hf
    have hown : ∀ f ∈ (history config replaced calls p.iface).getD [], Cleared config f :=
      history_cleared hreplaced calls p.iface
    cases hk : history config replaced calls p.iface with
    | none => simp [hk] at hf
    | some filters =>
      rw [hk] at hf hown
      exact hown f (hreplaced filters hf)
  unfold classAfter
  rw [granted_attached hgate hp hcleared, attached_filters hon, Option.getD_some, classify,
    firstByPrio_append (fun f hf => throttleFilters_prio hf) (fun f hf => bandwidthFilters_prio hf)]
  have hor : ∀ x y : Option TcFilter, (x.or y).map TcFilter.flowid =
      (x.map TcFilter.flowid).or (y.map TcFilter.flowid) := by
    intro x y
    cases x <;> rfl
  have hband : firstClass reads p
      (bandwidthFilters config resolve4 (before ++ target :: after) p.iface) =
      (firstClass reads p (bandwidthFilters config resolve4 before p.iface)).or
        ((target.bandwidthLimits.findSome? fun limit =>
            entryClass reads config resolve4 target limit p).or
          (firstClass reads p (bandwidthFilters config resolve4 after p.iface))) := by
    rw [bandwidthFilters_split, firstClass_append, firstClass_append, firstClass_flatMap]
    rfl
  rw [hor, earlierClass, Option.or_assoc, ← hband]
  rfl

/-- The class of a packet does not depend on the order of a target's limits, and a limit with a
category wins, just when no packet is left to two entries for different classes, and none that such a
limit takes was put in another class before. -/
theorem order_free_iff (hon : Enforces config) (hreplaced : ∀ filters, replaced filters ⊆ filters)
    (before : List Target) (target : Target) (after : List Target) :
    (OrderFree reads config replaced calls resolve4 before target after ∧
      CategoriesWin reads config replaced calls resolve4 before target after) ↔
      EntriesApart reads config resolve4 before target after ∧
        CategoriesFree reads config resolve4 before target after := by
  have hordered : ∀ (limits : List BandwidthLimit) (p : TcPacket A), p.iface ∈ allInterfaces config →
      classAfter reads config replaced calls resolve4
        (before ++ { target with bandwidthLimits := limits } :: after) p =
      (earlierClass reads config resolve4 before target after p).or
        ((limits.findSome? fun limit => entryClass reads config resolve4 target limit p).or
          (firstClass reads p (bandwidthFilters config resolve4 after p.iface))) := by
    intro limits p hp
    rw [classAfter_eq hon hreplaced before _ after hp, earlierClass, throttleFilters_limits]
    rfl
  have hgiven : ∀ p : TcPacket A, p.iface ∈ allInterfaces config →
      classAfter reads config replaced calls resolve4 (before ++ target :: after) p =
      (earlierClass reads config resolve4 before target after p).or
        ((target.bandwidthLimits.findSome? fun limit =>
            entryClass reads config resolve4 target limit p).or
          (firstClass reads p (bandwidthFilters config resolve4 after p.iface))) :=
    fun p hp => classAfter_eq hon hreplaced before target after hp
  refine ⟨?_, ?_⟩
  · intro h
    obtain ⟨hfree, hwin⟩ := h
    refine ⟨?_, ?_⟩
    · intro p hp hleft x hx y hy b c hb hc
      -- each of the two entries can be the first
      have hfirst : ∀ z ∈ target.bandwidthLimits, ∀ d,
          entryClass reads config resolve4 target z p = some d →
          classAfter reads config replaced calls resolve4 (before ++ target :: after) p = some d := by
        intro z hz d hd
        obtain ⟨limits, hperm, hsome⟩ := exists_perm_findSome
          (f := fun limit => entryClass reads config resolve4 target limit p) hz hd
        rw [← hfree limits hperm p hp, hordered limits p hp, hleft, hsome]
        rfl
      exact Option.some.inj ((hfirst x hx b hb).symm.trans (hfirst y hy c hc))
    · intro limit hlimit hcategory p hp b c hb hc
      have hclass := hwin limit hlimit hcategory p hp b hb
      rw [hgiven p hp, hc, Option.some_or] at hclass
      exact Option.some.inj hclass
  · intro h
    obtain ⟨hapart, hcategories⟩ := h
    refine ⟨?_, ?_⟩
    · intro limits hperm p hp
      rw [hordered limits p hp, hgiven p hp]
      cases hleft : earlierClass reads config resolve4 before target after p with
      | some c => rfl
      | none => rw [findSome_perm hperm (hapart p hp hleft)]
    · intro limit hlimit hcategory p hp c hc
      rw [hgiven p hp]
      cases hleft : earlierClass reads config resolve4 before target after p with
      | some b =>
        rw [hcategories limit hlimit hcategory p hp c b hc hleft]
        rfl
      | none =>
        cases hfound : target.bandwidthLimits.findSome? fun limit =>
            entryClass reads config resolve4 target limit p with
        | none =>
          have hnone := List.findSome?_eq_none_iff.mp hfound limit hlimit
          rw [hc] at hnone
          cases hnone
        | some b =>
          obtain ⟨other, hother, hb⟩ := List.exists_of_findSome?_eq_some hfound
          rw [hapart p hp hleft other hother limit hlimit b c hb hc]
          rfl

end Order

def sampleReads (address packet : String) : Bool := address = packet

def gamingAddress (domain : String) : List String :=
  if domain = "steampowered.com" then ["203.0.113.7"] else []

def serviceAddress (domain : String) : List String :=
  if domain = "netflix.com" then ["203.0.113.9"] else gamingAddress domain

def gamesAndFilms : Target :=
  ⟨"dev-1", .ALLOW, some "192.168.1.50", none, none, false, false,
    [⟨some "GAMING", some 100, none⟩, ⟨some "STREAMING", some 5000, none⟩]⟩

theorem gamesAndFilms_entries {p : TcPacket String} (hp : p.iface ∈ allInterfaces sampleConfig)
    {category address : String} {rate : Nat}
    (hentry : (category, address, rate) ∈
      [("GAMING", "203.0.113.7", 100), ("STREAMING", "203.0.113.9", 5000)]) {c : String}
    (hc : entryClass sampleReads sampleConfig serviceAddress gamesAndFilms
      ⟨some category, some rate, none⟩ p = some c) :
    p.src = address ∧ c = bandwidthClassId "dev-1" (some category) "dl" := by
  have hall : ∀ iface ∈ allInterfaces sampleConfig, ∀ entry ∈
      [("GAMING", "203.0.113.7", 100), ("STREAMING", "203.0.113.9", 5000)],
      entryFilters sampleConfig serviceAddress gamesAndFilms iface
          ⟨some entry.1, some entry.2.2, none⟩ =
        [⟨"ip", 20, .dst "192.168.1.50", some (.src entry.2.1),
          bandwidthClassId "dev-1" (some entry.1) "dl"⟩] := by decide +kernel
  rw [entryClass, hall p.iface hp _ hentry, firstClass] at hc
  obtain ⟨f, hf, rfl⟩ := Option.map_eq_some_iff.mp hc
  obtain rfl := List.mem_singleton.mp (List.mem_of_find?_eq_some hf)
  have htakes := List.find?_some hf
  simp only [TcFilter.takes, Bool.and_eq_true, Option.all_some, TcMatch.holds, sampleReads,
    decide_eq_true_eq] at htakes
  exact ⟨htakes.2.symm, rfl⟩

/-- Two categories of one device, with different classes. -/
theorem order_free_categories :
    OrderFree sampleReads sampleConfig id [] serviceAddress [] gamesAndFilms [] ∧
      CategoriesWin sampleReads sampleConfig id [] serviceAddress [] gamesAndFilms [] := by
  refine (order_free_iff sample_enforces (fun filters => List.Subset.refl filters) [] gamesAndFilms
    []).mpr ⟨?_, ?_⟩
  · intro p hp _ x hx y hy b c hb hc
    have hgames := fun c => gamesAndFilms_entries hp (c := c) (List.mem_cons_self)
    have hfilms := fun c => gamesAndFilms_entries hp (c := c) (List.mem_cons_of_mem _ List.mem_cons_self)
    simp only [gamesAndFilms, List.mem_cons, List.not_mem_nil, or_false] at hx hy
    rcases hx with rfl | rfl
    · rcases hy with rfl | rfl
      · exact Option.some.inj (hb.symm.trans hc)
      · -- the packet would come from both addresses
        have hsrc := (hgames b hb).1.symm.trans (hfilms c hc).1
        exact absurd hsrc (by decide)
    · rcases hy with rfl | rfl
      · have hsrc := (hfilms b hb).1.symm.trans (hgames c hc).1
        exact absurd hsrc (by decide)
      · exact Option.some.inj (hb.symm.trans hc)
  · intro limit _ _ p _ b c _ hc
    have hnone : earlierClass sampleReads sampleConfig serviceAddress [] gamesAndFilms [] p = none := rfl
    rw [hnone] at hc
    cases hc

/-- A device with a limit for all it does, listed before one for games. -/
def wideAndGaming : Target :=
  { gamesAndFilms with bandwidthLimits := [⟨none, some 5000, none⟩, ⟨some "GAMING", some 100, none⟩] }

def gamePacket : TcPacket String := ⟨"br-lan", "ip", "203.0.113.7", "192.168.1.50"⟩

theorem wideAndGaming_apart : ClassesApart sampleConfig [wideAndGaming] := by
  have hall : allLimits [wideAndGaming] =
      [(⟨"dev-1", none, .dl⟩, 5000), (⟨"dev-1", some "GAMING", .dl⟩, 100)] := by decide
  have hne : LimitKey.classId ⟨"dev-1", none, .dl⟩ ≠
      LimitKey.classId ⟨"dev-1", some "GAMING", .dl⟩ := by decide +kernel
  intro a ha b hb hkey iface _ _
  rw [hall] at ha hb
  simp only [List.mem_cons, List.not_mem_nil, or_false] at ha hb
  rcases ha with rfl | rfl
  · rcases hb with rfl | rfl
    · exact absurd rfl hkey
    · exact hne
  · rcases hb with rfl | rfl
    · exact hne.symm
    · exact absurd rfl hkey

/-- The limit that is listed first decides. -/
theorem wideAndGaming_ordered :
    ¬∀ config, Enforces config → ∀ (calls : List QosCall) resolve4 before target after,
      ClassesApart config (before ++ target :: after) →
        OrderFree sampleReads config id calls resolve4 before target after ∧
          CategoriesWin sampleReads config id calls resolve4 before target after := by
  intro h
  have hwin := (h sampleConfig sample_enforces [] gamingAddress [] wideAndGaming []
    wideAndGaming_apart).2
  have hgaming : entryClass sampleReads sampleConfig gamingAddress wideAndGaming
      ⟨some "GAMING", some 100, none⟩ gamePacket =
        some (bandwidthClassId "dev-1" (some "GAMING") "dl") := by
    decide +kernel
  have hclass := hwin ⟨some "GAMING", some 100, none⟩ (by decide) (by decide) gamePacket (by decide)
    _ hgaming
  exact absurd hclass (by decide +kernel)

end Qos

end GuardTime
