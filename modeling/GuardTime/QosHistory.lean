import GuardTime.QosTargets

namespace GuardTime

/-- A classifier filter at the root qdisc of an interface. -/
structure TcFilter where
  protocol : String
  prio : Nat
  device : TcMatch
  peer : Option TcMatch
  flowid : String
deriving DecidableEq

/-- The filters of the interfaces that have our root qdisc. -/
abbrev Interfaces := String → Option (List TcFilter)

namespace TcCommand

def iface : TcCommand → String
  | .qdiscReplace iface _ _ => iface
  | .qdiscDel iface => iface
  | .classReplace iface _ _ _ _ => iface
  | .filterDel iface _ _ => iface
  | .filterAdd iface _ _ _ _ _ _ => iface

def adds : TcCommand → Option TcFilter
  | .filterAdd _ protocol _ prio device peer flowid => some ⟨protocol, prio, device, peer, flowid⟩
  | _ => none

/-- Without a root qdisc only `qdisc replace` can succeed. -/
def possible : TcCommand → Option (List TcFilter) → Bool
  | .qdiscReplace _ _ _, _ => true
  | _, filters => filters.isSome

/-- What a command that succeeds makes of its interface. Of the filters of a root qdisc that is
replaced, `replaced` stay. -/
def onInterface (replaced : List TcFilter → List TcFilter) :
    TcCommand → Option (List TcFilter) → Option (List TcFilter)
  | .qdiscReplace _ _ _, filters => some ((filters.map replaced).getD [])
  | .qdiscDel _, _ => none
  | .classReplace _ _ _ _ _, filters => filters
  | .filterDel _ protocol _, filters => filters.map fun fs => fs.filter (·.protocol ≠ protocol)
  | .filterAdd _ protocol _ prio device peer flowid, filters =>
    filters.map (· ++ [⟨protocol, prio, device, peer, flowid⟩])

def change (replaced : List TcFilter → List TcFilter) (c : TcCommand) (k : Interfaces) : Interfaces :=
  Function.update k c.iface (c.onInterface replaced (k c.iface))

def effectAt (replaced : List TcFilter → List TcFilter) (iface : String) (c : TcCommand)
    (filters : Option (List TcFilter)) : Option (List TcFilter) :=
  if c.iface = iface then c.onInterface replaced filters else filters

end TcCommand

namespace Qos

/-- `tc`, where a command can fail at any time. -/
def tc (replaced : List TcFilter → List TcFilter) (outcome : Nat → TcCommand → Bool) :
    Respond TcCommand Interfaces := fun n c k =>
  if outcome n c && c.possible (k c.iface) then (true, c.change replaced k) else (false, k)

/-- `tc`, where every command succeeds. -/
def granted (replaced : List TcFilter → List TcFilter) : Respond TcCommand Interfaces :=
  fun _ c k => (true, c.change replaced k)

/-- A call of `sync`: its targets, what the domains of the categories resolve to, and the outcome of
the `n`-th command. -/
structure QosCall where
  targets : List Target
  resolve4 : String → List String
  outcome : Nat → TcCommand → Bool

def QosCall.run (config : Config) (replaced : List TcFilter → List TcFilter) (call : QosCall)
    (k : Interfaces) : Bool × World TcCommand Interfaces :=
  sync config (tc replaced call.outcome) call.resolve4 call.targets ⟨k, []⟩

/-- The interfaces after some calls, returned or thrown, from interfaces without our qdisc. -/
def history (config : Config) (replaced : List TcFilter → List TcFilter) (calls : List QosCall) :
    Interfaces :=
  calls.foldl (fun k call => (call.run config replaced k).2.kernel) fun _ => none

/-- What the call leaves as the first one, if all its commands succeed. -/
def firstSync (config : Config) (replaced : List TcFilter → List TcFilter) (call : QosCall) :
    Interfaces :=
  (sync config (granted replaced) call.resolve4 call.targets ⟨fun _ => none, []⟩).2.kernel

/-- The rollback of a bandwidth limit removed the interface's root qdisc. -/
def RolledBack (config : Config) (replaced : List TcFilter → List TcFilter) (call : QosCall)
    (k : Interfaces) (iface : String) : Prop :=
  ∃ n, (call.run config replaced k).2.issued[n]? = some (.qdiscDel iface) ∧
    call.outcome n (.qdiscDel iface) = true

/-- Deleting the filters of each protocol that is left on the interface succeeds, and so does the
removal of its qdisc if a bandwidth limit is rolled back. -/
def Clears (replaced : List TcFilter → List TcFilter) (call : QosCall) (k : Interfaces)
    (iface : String) : Prop :=
  (∀ f ∈ ((k iface).map replaced).getD [], ∀ n,
      call.outcome n (.filterDel iface f.protocol ROOT_HANDLE) = true) ∧
    ∀ n, call.outcome n (.qdiscDel iface) = true

section Views

variable {replaced : List TcFilter → List TcFilter} {iface : String} {config : Config}
  {respond : Respond TcCommand Interfaces}

theorem change_effect (c : TcCommand) (k : Interfaces) (iface : String) :
    c.change replaced k iface = c.effectAt replaced iface (k iface) := by
  by_cases h : c.iface = iface
  · subst h
    simp [TcCommand.change, TcCommand.effectAt]
  · simp [TcCommand.change, TcCommand.effectAt, h, Function.update_of_ne (Ne.symm h)]

theorem tc_effects (replaced : List TcFilter → List TcFilter) (outcome : Nat → TcCommand → Bool)
    (iface : String) :
    Effects (tc replaced outcome) (fun k : Interfaces => k iface)
      (TcCommand.effectAt replaced iface) := by
  refine ⟨?_, ?_⟩
  · intro n c k h
    unfold tc at h ⊢
    split at h
    next hok =>
      rw [if_pos hok]
      exact change_effect c k iface
    next => simp at h
  · intro n c k h
    unfold tc at h ⊢
    split at h
    next => simp at h
    next hno => rw [if_neg hno]

theorem granted_effects (replaced : List TcFilter → List TcFilter) (iface : String) :
    Effects (granted replaced) (fun k : Interfaces => k iface)
      (TcCommand.effectAt replaced iface) := by
  refine ⟨?_, ?_⟩
  · intro n c k _
    exact change_effect c k iface
  · intro n c k h
    simp [granted] at h

/-- The root qdisc and the deletion of the filters are of one interface, and add no filter. -/
theorem prepare_commands {other : String} {s : Step TcCommand}
    (hs : s ∈ ensureQdisc config other ++ clearFilters config other) :
    ∀ c ∈ s.commands, c.iface = other ∧ c.adds = none := by
  intro c hc
  rcases List.mem_append.mp hs with hs | hs
  · simp only [ensureQdisc, List.mem_cons, List.not_mem_nil, or_false] at hs
    rcases hs with rfl | rfl | rfl | rfl <;> rw [List.mem_singleton.mp hc] <;> exact ⟨rfl, rfl⟩
  · rcases List.mem_cons.mp hs with rfl | hs
    · rw [List.mem_singleton.mp hc]
      exact ⟨rfl, rfl⟩
    · split at hs
      next =>
        rw [List.mem_singleton.mp hs] at hc
        rw [List.mem_singleton.mp hc]
        exact ⟨rfl, rfl⟩
      next => simp at hs

/-- What the filters a script adds make of an interface. -/
def attach (replaced : List TcFilter → List TcFilter) (iface : String) (script : List (Step TcCommand))
    (filters : Option (List TcFilter)) : Option (List TcFilter) :=
  (mandatory script).foldl (fun v c => c.effectAt replaced iface v) filters

theorem attach_elsewhere {script : List (Step TcCommand)}
    (h : ∀ s ∈ script, ∀ c ∈ s.commands, c.iface ≠ iface) (filters : Option (List TcFilter)) :
    attach replaced iface script filters = filters := by
  have hnone : ∀ c ∈ mandatory script, c.iface ≠ iface := by
    intro c hc
    exact h _ (mem_mandatory.mp hc) c (List.mem_singleton_self c)
  unfold attach
  generalize mandatory script = commands at hnone
  induction commands with
  | nil => rfl
  | cons c commands ih =>
    have hc : c.effectAt replaced iface filters = filters := if_neg (hnone c List.mem_cons_self)
    rw [List.foldl_cons, hc]
    exact ih fun c hc => hnone c (List.mem_cons_of_mem _ hc)

theorem limitSteps_iface {limit : DirectionalLimit} {other : String} {s : Step TcCommand}
    (hs : s ∈ limitSteps limit other) : ∀ c ∈ s.commands, c.iface = other := by
  intro c hc
  rcases List.mem_cons.mp hs with rfl | hs
  · rw [List.mem_singleton.mp hc]
    rfl
  · obtain ⟨m, _, rfl⟩ := List.mem_map.mp hs
    rw [List.mem_singleton.mp hc]
    rfl

theorem limitInterface_issued (respond : Respond TcCommand Interfaces) (limit : DirectionalLimit)
    (w : World TcCommand Interfaces) (other : String) :
    w.issued <+: (limitInterface respond limit w other).issued := by
  have hsteps := runScript_issued_grows respond (limitSteps limit other) w
  unfold limitInterface
  dsimp only
  split
  next => exact hsteps
  next =>
    rw [issue_issued]
    exact hsteps.trans (List.prefix_append _ _)

theorem throttle_neutral (config : Config) (replaced : List TcFilter → List TcFilter)
    (iface : String) (targets : List Target) :
    ∀ s ∈ config.qosInterfaces.flatMap (fun iface =>
        (throttled targets).flatMap (throttleSteps config iface)),
      s.Neutral (TcCommand.effectAt replaced iface) := by
  intro s hs
  simp only [List.mem_flatMap, throttleSteps, List.mem_append, Option.mem_toList] at hs
  obtain ⟨other, _, target, _, ⟨ip, _, hs⟩ | hs⟩ := hs
  · simp only [addThrottleFilters, addFilter, List.mem_cons, List.not_mem_nil, or_false] at hs
    rcases hs with rfl | rfl <;> simp [Step.Neutral]
  · split at hs
    next =>
      obtain ⟨ip, _, hs⟩ := List.mem_flatMap.mp hs
      simp only [addThrottleFiltersV6, addFilter, List.mem_cons, List.not_mem_nil, or_false] at hs
      rcases hs with rfl | rfl <;> simp [Step.Neutral]
    next => simp at hs

theorem allInterfaces_nodup (config : Config) : (allInterfaces config).Nodup := nodup_eraseDups _

def attachLimits (replaced : List TcFilter → List TcFilter) (iface : String)
    (limits : List DirectionalLimit) (filters : Option (List TcFilter)) : Option (List TcFilter) :=
  limits.foldl (fun v limit => limit.interfaces.foldl
    (fun v other => attach replaced iface (limitSteps limit other) v) v) filters

/-- What a call makes of an interface that has our root qdisc and no filters. -/
def attached (config : Config) (replaced : List TcFilter → List TcFilter)
    (resolve4 : String → List String) (targets : List Target) (iface : String) :
    Option (List TcFilter) :=
  let throttle := attach replaced iface (config.qosInterfaces.flatMap fun iface =>
    (throttled targets).flatMap (throttleSteps config iface)) (some [])
  if config.enableBandwidthControl then
    attachLimits replaced iface (targets.flatMap (targetLimits config resolve4)) throttle
  else throttle

variable (he : Effects respond (fun k : Interfaces => k iface) (TcCommand.effectAt replaced iface))

include he

theorem ensureQdisc_attached {w : World TcCommand Interfaces}
    (h : (runScript respond (ensureQdisc config iface) w).1 = true) :
    (runScript respond (ensureQdisc config iface) w).2.kernel iface =
      some (((w.kernel iface).map replaced).getD []) := by
  have hn : ∀ s ∈ ensureQdisc config iface, s.Neutral (TcCommand.effectAt replaced iface) := by
    simp [ensureQdisc, Step.Neutral]
  rw [runScript_view he hn h]
  simp [ensureQdisc, TcCommand.effectAt, TcCommand.iface, TcCommand.onInterface]

theorem runScript_elsewhere {script : List (Step TcCommand)}
    (h : ∀ s ∈ script, ∀ c ∈ s.commands, c.iface ≠ iface) (w : World TcCommand Interfaces) :
    (runScript respond script w).2.kernel iface = w.kernel iface := by
  refine runScript_view_neutral he ?_ w
  intro s hs c hc v
  exact if_neg (h s hs c hc)

/-- The loop over all interfaces leaves an interface without filters if clearing it does. -/
theorem prepare_attached {ifaces : List String} (hnodup : ifaces.Nodup) (hin : iface ∈ ifaces)
    {w : World TcCommand Interfaces}
    (hclear : ∀ w', w'.kernel iface = some (((w.kernel iface).map replaced).getD []) →
      (runScript respond (clearFilters config iface) w').2.kernel iface = some [])
    (h : (runScript respond (ifaces.flatMap fun iface =>
      ensureQdisc config iface ++ clearFilters config iface) w).1 = true) :
    (runScript respond (ifaces.flatMap fun iface =>
      ensureQdisc config iface ++ clearFilters config iface) w).2.kernel iface = some [] := by
  have helse : ∀ others : List String, iface ∉ others → ∀ w,
      (runScript respond (others.flatMap fun iface =>
        ensureQdisc config iface ++ clearFilters config iface) w).2.kernel iface = w.kernel iface := by
    intro others hnot w
    refine runScript_elsewhere he ?_ w
    intro s hs c hc heq
    obtain ⟨other, hother, hs⟩ := List.mem_flatMap.mp hs
    rw [(prepare_commands hs c hc).1] at heq
    exact hnot (heq ▸ hother)
  obtain ⟨before, after, rfl⟩ := List.append_of_mem hin
  obtain ⟨_, hapart, hnot⟩ := List.nodup_append.mp hnodup
  have hbefore : iface ∉ before := fun hb => hnot iface hb iface List.mem_cons_self rfl
  have hafter : iface ∉ after := (List.nodup_cons.mp hapart).1
  rw [List.flatMap_append, List.flatMap_cons, List.append_assoc] at h ⊢
  obtain ⟨_, heq⟩ := runScript_append_ok h
  rw [heq] at h ⊢
  obtain ⟨hensured, heq⟩ := runScript_append_ok h
  rw [heq] at h ⊢
  obtain ⟨_, heq⟩ := runScript_append_ok h
  rw [heq, helse after hafter]
  refine hclear _ ?_
  rw [ensureQdisc_attached he hensured, helse before hbefore]

/-- A limit adds its filters, or the interface's qdisc is asked to go. -/
theorem limitInterface_attached (limit : DirectionalLimit) (w : World TcCommand Interfaces)
    (other : String) :
    .qdiscDel iface ∈ (limitInterface respond limit w other).issued ∨
      (limitInterface respond limit w other).kernel iface =
        attach replaced iface (limitSteps limit other) (w.kernel iface) := by
  unfold limitInterface
  dsimp only
  split
  next hdone => exact Or.inr (runScript_view he (limitSteps_neutral _ limit other) hdone)
  next =>
    by_cases hother : other = iface
    · subst hother
      left
      rw [issue_issued]
      exact List.mem_append_right _ (List.mem_singleton_self _)
    · right
      have hsteps : ∀ s ∈ limitSteps limit other, ∀ c ∈ s.commands, c.iface ≠ iface := by
        intro s hs c hc
        rw [limitSteps_iface hs c hc]
        exact hother
      have hdel : ∀ v, (TcCommand.qdiscDel other).effectAt replaced iface v = v := fun v =>
        if_neg hother
      rw [attach_elsewhere hsteps, issue_view_neutral he hdel]
      exact runScript_elsewhere he hsteps w

/-- A call that returns leaves the filters it adds, unless the qdisc is asked to go, if clearing the
interface leaves none. -/
theorem sync_attached {resolve4 : String → List String} {targets : List Target}
    {w : World TcCommand Interfaces} {P : World TcCommand Interfaces → Prop}
    (hon : (!config.enableQos || config.qosInterfaces.isEmpty || config.dryRun) = false)
    (hin : iface ∈ allInterfaces config)
    (hclear : ∀ w', w'.kernel iface = some (((w.kernel iface).map replaced).getD []) →
      (runScript respond (clearFilters config iface) w').2.kernel iface = some [])
    (hkeep : ∀ limit w other, P w → P (limitInterface respond limit w other))
    (hlimit : ∀ limit w other, P (limitInterface respond limit w other) ∨
      (limitInterface respond limit w other).kernel iface =
        attach replaced iface (limitSteps limit other) (w.kernel iface))
    (h : (sync config respond resolve4 targets w).1 = true) :
    P (sync config respond resolve4 targets w).2 ∨
      (sync config respond resolve4 targets w).2.kernel iface =
        attached config replaced resolve4 targets iface := by
  simp only [sync, hon, Bool.false_eq_true, if_false] at h ⊢
  have hpass : (runScript respond (throttlePass config targets) w).1 = true →
      (runScript respond (throttlePass config targets) w).2.kernel iface =
        attach replaced iface (config.qosInterfaces.flatMap fun iface =>
          (throttled targets).flatMap (throttleSteps config iface)) (some []) := by
    intro hdone
    unfold throttlePass at hdone ⊢
    obtain ⟨hprepared, heq⟩ := runScript_append_ok hdone
    rw [heq] at hdone ⊢
    rw [runScript_view he (throttle_neutral config replaced iface targets) hdone,
      prepare_attached he (allInterfaces_nodup config) hin hclear hprepared]
    rfl
  unfold attached
  cases hb : config.enableBandwidthControl with
  | false =>
    simp only [hb, Bool.and_false, Bool.false_eq_true, if_false] at h ⊢
    exact Or.inr (hpass h)
  | true =>
    simp only [hb, Bool.and_true, if_true] at h ⊢
    split
    next hdone =>
      refine foldl_view_or (fun w : World TcCommand Interfaces => w.kernel iface) ?_ ?_ _
        (Or.inr (hpass hdone))
      · intro w limit hw
        exact foldl_keeps (fun w other hw => hkeep limit w other hw) limit.interfaces hw
      · intro w limit
        exact foldl_view_or (fun w : World TcCommand Interfaces => w.kernel iface)
          (fun w other hw => hkeep limit w other hw) (fun w other => hlimit limit w other) _
          (Or.inr rfl)
    next hdone =>
      rw [if_neg hdone] at h
      exact absurd h hdone

end Views

section Clearing

variable {replaced : List TcFilter → List TcFilter} {iface : String} {config : Config}
  {w : World TcCommand Interfaces}

theorem clearFilters_run (respond : Respond TcCommand Interfaces) (config : Config) (iface : String)
    (w : World TcCommand Interfaces) :
    (runScript respond (clearFilters config iface) w).2 =
      let v4 := (issue respond (.filterDel iface "ip" ROOT_HANDLE) w).2
      if config.enableIpv6 then (issue respond (.filterDel iface "ipv6" ROOT_HANDLE) v4).2
      else v4 := by
  cases hv : config.enableIpv6 <;> simp [clearFilters, runScript, Step.exec, hv]

theorem tc_deletes {outcome : Nat → TcCommand → Bool} {filters : List TcFilter} {protocol : String}
    (hw : w.kernel iface = some filters)
    (hdel : ∀ f ∈ filters, f.protocol = protocol →
      ∀ n, outcome n (.filterDel iface protocol ROOT_HANDLE) = true) :
    (issue (tc replaced outcome) (.filterDel iface protocol ROOT_HANDLE) w).2.kernel iface =
      some (filters.filter (·.protocol ≠ protocol)) := by
  have hview := issue_view (tc_effects replaced outcome iface)
    (.filterDel iface protocol ROOT_HANDLE) w
  rw [hview, hw]
  split
  next => simp [TcCommand.effectAt, TcCommand.iface, TcCommand.onInterface]
  next hfailed =>
    have hnone : ∀ f ∈ filters, f.protocol ≠ protocol := by
      intro f hf heq
      refine hfailed ?_
      have hgranted := hdel f hf heq w.issued.length
      have hpresent : (TcCommand.filterDel iface protocol ROOT_HANDLE).possible
          (w.kernel (TcCommand.filterDel iface protocol ROOT_HANDLE).iface) = true := by
        simp [TcCommand.iface, TcCommand.possible, hw]
      simp [issue, tc, hgranted, hpresent]
    rw [List.filter_eq_self.mpr fun f hf => decide_eq_true (hnone f hf)]

/-- Filters of the controller's own protocols are all gone if each deletion takes those of its
protocol. -/
theorem clears_own {respond : Respond TcCommand Interfaces} {filters : List TcFilter}
    (hw : w.kernel iface = some filters)
    (hprotocol : ∀ f ∈ filters, f.protocol = "ip" ∨
      (config.enableIpv6 = true ∧ f.protocol = "ipv6"))
    (hdelete : ∀ (w : World TcCommand Interfaces) (left : List TcFilter) (protocol : String),
      left ⊆ filters → w.kernel iface = some left →
      (issue respond (.filterDel iface protocol ROOT_HANDLE) w).2.kernel iface =
        some (left.filter (·.protocol ≠ protocol))) :
    (runScript respond (clearFilters config iface) w).2.kernel iface = some [] := by
  have hv4 := hdelete w filters "ip" (fun _ h => h) hw
  rw [clearFilters_run]
  dsimp only
  split
  next hv =>
    rw [hdelete _ _ "ipv6" (List.filter_subset_self _) hv4]
    simp only [Option.some.injEq, List.filter_eq_nil_iff, List.mem_filter, decide_eq_true_eq]
    intro f hf hne
    rcases hprotocol f hf.1 with hip | ⟨_, hip⟩
    · exact hf.2 hip
    · exact hne hip
  next hv =>
    rw [hv4]
    simp only [Option.some.injEq, List.filter_eq_nil_iff, decide_eq_true_eq]
    intro f hf hne
    rcases hprotocol f hf with hip | ⟨hon, _⟩
    · exact hne hip
    · exact hv hon

theorem tc_clears {outcome : Nat → TcCommand → Bool} {filters : List TcFilter}
    (hw : w.kernel iface = some filters)
    (hprotocol : ∀ f ∈ filters, f.protocol = "ip" ∨
      (config.enableIpv6 = true ∧ f.protocol = "ipv6"))
    (hdel : ∀ f ∈ filters, ∀ n, outcome n (.filterDel iface f.protocol ROOT_HANDLE) = true) :
    (runScript (tc replaced outcome) (clearFilters config iface) w).2.kernel iface = some [] := by
  refine clears_own hw hprotocol ?_
  intro w left protocol hleft hw
  exact tc_deletes hw fun f hf heq => heq ▸ hdel f (hleft hf)

theorem granted_clears {filters : List TcFilter} (hw : w.kernel iface = some filters)
    (hprotocol : ∀ f ∈ filters, f.protocol = "ip" ∨
      (config.enableIpv6 = true ∧ f.protocol = "ipv6")) :
    (runScript (granted replaced) (clearFilters config iface) w).2.kernel iface = some [] := by
  refine clears_own hw hprotocol ?_
  intro w left protocol _ hw
  have hview := issue_view (granted_effects replaced iface)
    (.filterDel iface protocol ROOT_HANDLE) w
  have hgranted : (issue (granted replaced) (.filterDel iface protocol ROOT_HANDLE) w).1 = true := rfl
  rw [hview, hgranted, hw]
  simp [TcCommand.effectAt, TcCommand.iface, TcCommand.onInterface]

end Clearing

section Filters

/-- Every filter of every interface is as `P` says. -/
def AllFilters (P : TcFilter → Prop) (k : Interfaces) : Prop := ∀ iface, ∀ f ∈ (k iface).getD [], P f

/-- The filters a script adds are as `P` says. -/
def Adds (P : TcFilter → Prop) (script : List (Step TcCommand)) : Prop :=
  ∀ s ∈ script, ∀ c ∈ s.commands, ∀ f, c.adds = some f → P f

variable {replaced : List TcFilter → List TcFilter} {P : TcFilter → Prop} {config : Config}
  {respond : Respond TcCommand Interfaces}

theorem change_allFilters (hreplaced : ∀ filters, replaced filters ⊆ filters) {c : TcCommand}
    (hc : ∀ f, c.adds = some f → P f) {k : Interfaces} (hk : AllFilters P k) :
    AllFilters P (c.change replaced k) := by
  intro iface f hf
  rw [change_effect] at hf
  unfold TcCommand.effectAt at hf
  split at hf
  next =>
    have hbefore := hk iface
    cases hfilters : k iface with
    | none =>
      rw [hfilters] at hf
      cases c <;> simp [TcCommand.onInterface] at hf
    | some filters =>
      rw [hfilters] at hf hbefore
      cases c with
      | qdiscReplace _ _ _ => exact hbefore f (hreplaced filters hf)
      | qdiscDel _ => simp [TcCommand.onInterface] at hf
      | classReplace _ _ _ _ _ => exact hbefore f hf
      | filterDel _ _ _ => exact hbefore f (List.mem_of_mem_filter hf)
      | filterAdd _ _ _ _ _ _ _ =>
        rcases List.mem_append.mp hf with hold | hnew
        · exact hbefore f hold
        · exact hc f (congrArg some (List.mem_singleton.mp hnew).symm)
  next => exact hk iface f hf

variable (hreplaced : ∀ filters, replaced filters ⊆ filters)
  (hrespond : ∀ n c k, (respond n c k).2 = k ∨ (respond n c k).2 = c.change replaced k)

include hreplaced hrespond

theorem respond_allFilters {c : TcCommand} (hc : ∀ f, c.adds = some f → P f) (n : Nat)
    {k : Interfaces} (hk : AllFilters P k) : AllFilters P (respond n c k).2 := by
  rcases hrespond n c k with hsame | hchanged
  · rwa [hsame]
  · rw [hchanged]
    exact change_allFilters hreplaced hc hk

theorem runScript_allFilters {script : List (Step TcCommand)} (hadds : Adds P script)
    {w : World TcCommand Interfaces} (hw : AllFilters P w.kernel) :
    AllFilters P (runScript respond script w).2.kernel :=
  runScript_invariant (I := AllFilters P) (fun s hs c hc n _ hk =>
    respond_allFilters hreplaced hrespond (hadds s hs c hc) n hk) hw

theorem sync_allFilters {resolve4 : String → List String} {targets : List Target}
    (hpass : Adds P (throttlePass config targets))
    (hlimits : ∀ target ∈ targets, ∀ limit ∈ targetLimits config resolve4 target, ∀ iface,
      Adds P (limitSteps limit iface))
    {w : World TcCommand Interfaces} (hw : AllFilters P w.kernel) :
    AllFilters P (sync config respond resolve4 targets w).2.kernel := by
  unfold sync
  dsimp only
  split
  next => exact hw
  next =>
    have hpassed := runScript_allFilters hreplaced hrespond hpass hw
    split
    next =>
      refine List.foldlRecOn (motive := fun w : World TcCommand Interfaces => AllFilters P w.kernel) _ _ hpassed ?_
      intro w hw limit hlimit
      obtain ⟨target, htarget, hlimit⟩ := List.mem_flatMap.mp hlimit
      refine List.foldlRecOn (motive := fun w : World TcCommand Interfaces => AllFilters P w.kernel) _ _ hw ?_
      intro w hw iface _
      have hsteps := runScript_allFilters hreplaced hrespond (hlimits target htarget limit hlimit iface) hw
      unfold limitInterface
      dsimp only
      split
      next => exact hsteps
      next =>
        exact respond_allFilters hreplaced hrespond (fun f hf => by simp [TcCommand.adds] at hf) _ hsteps
    next => exact hpassed

end Filters

section History

variable {replaced : List TcFilter → List TcFilter} {config : Config} {iface : String}

/-- The protocols whose filters are deleted before filters are added. -/
def Cleared (config : Config) (f : TcFilter) : Prop :=
  f.protocol = "ip" ∨ (config.enableIpv6 = true ∧ f.protocol = "ipv6")

/-- A filter to the throttle class is of a target that is throttled. -/
def Due (config : Config) (targets : List Target) (f : TcFilter) : Prop :=
  f.flowid = THROTTLE_CLASS → ∃ target ∈ targets, Throttles config target f.device.address

theorem throttlePass_adds (config : Config) (targets : List Target) :
    Adds (fun f => Cleared config f ∧ Due config targets f) (throttlePass config targets) := by
  intro s hs c hc f hf
  rcases List.mem_append.mp hs with hs | hs
  · obtain ⟨other, _, hs⟩ := List.mem_flatMap.mp hs
    have hnone := (prepare_commands hs c hc).2
    rw [hnone] at hf
    simp at hf
  · obtain ⟨other, _, hs⟩ := List.mem_flatMap.mp hs
    obtain ⟨target, htarget, hs⟩ := List.mem_flatMap.mp hs
    obtain ⟨hin, hth⟩ := List.mem_filter.mp htarget
    have haction : target.action = .THROTTLE := by simpa using (Bool.and_eq_true_iff.mp hth).1
    simp only [throttleSteps, List.mem_append, List.mem_flatMap, Option.mem_toList] at hs
    rcases hs with ⟨ip, hip, hs⟩ | hs
    · simp only [addThrottleFilters, addFilter, List.mem_cons, List.not_mem_nil, or_false] at hs
      rcases hs with rfl | rfl <;> rw [List.mem_singleton.mp hc] at hf <;> cases hf <;>
        exact ⟨Or.inl rfl, fun _ => ⟨target, hin, haction, Or.inl hip⟩⟩
    · split at hs
      next hv =>
        obtain ⟨ip, hip, hs⟩ := List.mem_flatMap.mp hs
        have hip := Option.mem_toList.mp hip
        simp only [addThrottleFiltersV6, addFilter, List.mem_cons, List.not_mem_nil, or_false] at hs
        rcases hs with rfl | rfl <;> rw [List.mem_singleton.mp hc] at hf <;> cases hf <;>
          exact ⟨Or.inr ⟨hv, rfl⟩, fun _ => ⟨target, hin, haction, Or.inr ⟨hv, hip⟩⟩⟩
      next => simp at hs

theorem bandwidthClassId_ne (deviceId : String) (category : Option String) (direction : String) :
    bandwidthClassId deviceId category direction ≠ THROTTLE_CLASS := by
  intro heq
  obtain ⟨key, hkey⟩ : ∃ key, bandwidthClassId deviceId category direction =
      "1:" ++ String.ofList (Nat.toDigits 16 (stableId key 0x100 0x7fff)) := ⟨_, rfl⟩
  rw [hkey] at heq
  have hle : 0x100 ≤ stableId key 0x100 0x7fff := Nat.le_add_right _ _
  have hlength : (Nat.toDigits 16 (stableId key 0x100 0x7fff)).length = 2 := by
    have htext := congrArg (fun text : String => text.toList.length) heq
    simpa [THROTTLE_CLASS] using htext
  have hlt := (Nat.length_toDigits_le_iff (b := 16) (k := 2) (by omega) (by omega)).mp
    (Nat.le_of_eq hlength)
  omega

theorem limitSteps_adds {resolve4 : String → List String} {targets : List Target} {target : Target}
    {limit : DirectionalLimit} (hlimit : limit ∈ targetLimits config resolve4 target)
    (iface : String) :
    Adds (fun f => Cleared config f ∧ Due config targets f) (limitSteps limit iface) := by
  intro s hs c hc f hf
  rcases List.mem_cons.mp hs with rfl | hs
  · rw [List.mem_singleton.mp hc] at hf
    cases hf
  · obtain ⟨m, _, rfl⟩ := List.mem_map.mp hs
    rw [List.mem_singleton.mp hc] at hf
    cases hf
    refine ⟨Or.inl rfl, ?_⟩
    intro hclass
    simp only [targetLimits, directionalLimits, List.mem_flatMap, List.mem_append, List.mem_map]
      at hlimit
    obtain ⟨_, _, _, _, ⟨_, _, rfl⟩ | ⟨_, _, rfl⟩⟩ := hlimit
    · exact absurd hclass (bandwidthClassId_ne _ _ _)
    · exact absurd hclass (bandwidthClassId_ne _ _ _)

theorem tc_changes (replaced : List TcFilter → List TcFilter) (outcome : Nat → TcCommand → Bool)
    (n : Nat) (c : TcCommand) (k : Interfaces) :
    (tc replaced outcome n c k).2 = k ∨ (tc replaced outcome n c k).2 = c.change replaced k := by
  unfold tc
  split
  next => exact Or.inr rfl
  next => exact Or.inl rfl

theorem history_cleared (hreplaced : ∀ filters, replaced filters ⊆ filters) (calls : List QosCall) :
    AllFilters (Cleared config) (history config replaced calls) := by
  refine foldl_keeps ?_ calls ?_
  · intro k call hk
    refine sync_allFilters hreplaced (tc_changes replaced call.outcome) ?_ ?_ hk
    · intro s hs c hc f hf
      exact (throttlePass_adds config call.targets s hs c hc f hf).1
    · intro target _ limit hlimit iface s hs c hc f hf
      have hadds : Adds (fun f => Cleared config f ∧ Due config call.targets f)
          (limitSteps limit iface) := limitSteps_adds hlimit iface
      exact (hadds s hs c hc f hf).1
  · intro iface f hf
    simp at hf

theorem firstSync_due (hreplaced : ∀ filters, replaced filters ⊆ filters) (call : QosCall) :
    AllFilters (Due config call.targets) (firstSync config replaced call) := by
  refine sync_allFilters hreplaced (fun _ _ _ => Or.inr rfl) ?_ ?_ ?_
  · intro s hs c hc f hf
    exact (throttlePass_adds config call.targets s hs c hc f hf).2
  · intro target _ limit hlimit iface s hs c hc f hf
    exact (limitSteps_adds hlimit iface s hs c hc f hf).2
  · intro iface f hf
    simp at hf

/-- A call whose commands all succeed leaves the filters it adds, on interfaces that had only the
controller's own. -/
theorem granted_attached {resolve4 : String → List String} {targets : List Target} {k : Interfaces}
    (hon : (!config.enableQos || config.qosInterfaces.isEmpty || config.dryRun) = false)
    (hin : iface ∈ allInterfaces config)
    (hcleared : ∀ f ∈ ((k iface).map replaced).getD [], Cleared config f) :
    (sync config (granted replaced) resolve4 targets ⟨k, []⟩).2.kernel iface =
      attached config replaced resolve4 targets iface := by
  have hgrant : ∀ n c k, (granted replaced n c k).1 = true := fun _ _ _ => rfl
  have hlimit : ∀ limit w other, False ∨
      (limitInterface (granted replaced) limit w other).kernel iface =
        attach replaced iface (limitSteps limit other) (w.kernel iface) := by
    intro limit w other
    have hdone := runScript_granted hgrant (limitSteps limit other) w
    right
    simp only [limitInterface, if_pos hdone]
    exact runScript_view (granted_effects replaced iface) (limitSteps_neutral _ limit other)
      hdone
  refine (sync_attached (P := fun _ => False) (granted_effects replaced iface) hon hin ?_ ?_ hlimit
    (sync_returns hgrant config _ _ _)).resolve_left id
  · exact fun w hw => granted_clears hw hcleared
  · exact fun _ _ _ h => h

theorem firstSync_attached (call : QosCall)
    (hon : (!config.enableQos || config.qosInterfaces.isEmpty || config.dryRun) = false)
    (hin : iface ∈ allInterfaces config) :
    firstSync config replaced call iface =
      attached config replaced call.resolve4 call.targets iface :=
  granted_attached hon hin fun f hf => by simp at hf

theorem history_off (hoff : (!config.enableQos || config.qosInterfaces.isEmpty || config.dryRun) = true)
    (calls : List QosCall) : history config replaced calls = fun _ => none := by
  refine foldl_keeps (P := fun k => k = fun _ => none) ?_ calls rfl
  intro k call hk
  simp only [QosCall.run, sync, hoff, if_true, hk]

/-- Whatever calls came before, returned or thrown, a call that returns and clears an interface
leaves it the filters that it would attach as the first one, unless its rollback removed the qdisc;
those to the throttle class are of targets that it throttles. -/
theorem sync_history_independent (config : Config) (replaced : List TcFilter → List TcFilter)
    (hreplaced : ∀ filters, replaced filters ⊆ filters) (calls : List QosCall) (call : QosCall)
    (hreturned : (call.run config replaced (history config replaced calls)).1 = true)
    (iface : String) (hin : iface ∈ allInterfaces config)
    (hclears : Clears replaced call (history config replaced calls) iface)
    (hkept : ¬RolledBack config replaced call (history config replaced calls) iface) :
    history config replaced (calls ++ [call]) iface = firstSync config replaced call iface ∧
      ∀ f ∈ (history config replaced (calls ++ [call]) iface).getD [], f.flowid = THROTTLE_CLASS →
        ∃ target ∈ call.targets, Throttles config target f.device.address := by
  have heq : history config replaced (calls ++ [call]) iface = firstSync config replaced call iface := by
    cases hoff : (!config.enableQos || config.qosInterfaces.isEmpty || config.dryRun) with
    | true =>
      rw [history_off hoff (calls ++ [call])]
      simp only [firstSync, sync, hoff, if_true]
    | false =>
      have hafter : history config replaced (calls ++ [call]) =
          (call.run config replaced (history config replaced calls)).2.kernel := by
        simp only [history, List.foldl_append, List.foldl_cons, List.foldl_nil]
      rw [hafter, firstSync_attached call hoff hin]
      refine Or.resolve_left (sync_attached
        (P := fun w : World TcCommand Interfaces => TcCommand.qdiscDel iface ∈ w.issued)
        (tc_effects replaced call.outcome iface) hoff hin ?_ ?_ ?_ hreturned) ?_
      · intro w hw
        refine tc_clears hw ?_ hclears.1
        intro f hf
        have hleft : f ∈ ((history config replaced calls iface).map replaced).getD [] := hf
        have hcleared : ∀ f ∈ (history config replaced calls iface).getD [], Cleared config f :=
          history_cleared hreplaced calls iface
        cases hk : history config replaced calls iface with
        | none => simp [hk] at hleft
        | some filters =>
          rw [hk] at hleft hcleared
          exact hcleared f (hreplaced filters hleft)
      · intro limit w other hw
        exact (limitInterface_issued _ limit w other).subset hw
      · intro limit w other
        exact limitInterface_attached (tc_effects replaced call.outcome iface) limit w other
      · intro hissued
        obtain ⟨n, hn⟩ := List.mem_iff_getElem?.mp hissued
        exact hkept ⟨n, hn, hclears.2 n⟩
  refine ⟨heq, ?_⟩
  rw [heq]
  exact firstSync_due hreplaced call iface

end History

def throttledDevice : Target :=
  ⟨"dev-1", .THROTTLE, some "192.168.1.50", none, some "aa:bb:cc:dd:ee:ff", false, false, []⟩

/-- The device is throttled, and every command succeeds. -/
def throttlingCall : QosCall := ⟨[throttledDevice], fun _ => [], fun _ _ => true⟩

/-- No device is throttled any more. -/
def releasingCall (outcome : Nat → TcCommand → Bool) : QosCall := ⟨[], fun _ => [], outcome⟩

/-- The filters of the last call stay when their deletion fails. -/
theorem sync_keeps_throttle :
    ¬∀ (calls : List QosCall) (call : QosCall) (iface : String),
      (call.run sampleConfig id (history sampleConfig id calls)).1 = true →
      iface ∈ allInterfaces sampleConfig →
      ¬RolledBack sampleConfig id call (history sampleConfig id calls) iface →
      history sampleConfig id (calls ++ [call]) iface = firstSync sampleConfig id call iface := by
  intro h
  have heq := h [throttlingCall] (releasingCall fun _ c => c ≠ .filterDel "br-lan" "ip" ROOT_HANDLE)
    "br-lan" (by decide) (by decide) ?_
  · exact absurd heq (by decide)
  · intro hback
    obtain ⟨n, hn, _⟩ := hback
    exact absurd (List.mem_of_getElem? hn) (by decide)

theorem sync_history_independent_released :
    history sampleConfig id ([throttlingCall] ++ [releasingCall fun _ _ => true]) "br-lan" =
        firstSync sampleConfig id (releasingCall fun _ _ => true) "br-lan" ∧
      ∀ f ∈ (history sampleConfig id ([throttlingCall] ++ [releasingCall fun _ _ => true])
          "br-lan").getD [], f.flowid = THROTTLE_CLASS →
        ∃ target ∈ ([] : List Target), Throttles sampleConfig target f.device.address := by
  refine sync_history_independent sampleConfig id (fun _ => List.Subset.refl _) [throttlingCall]
    (releasingCall fun _ _ => true) (by decide) "br-lan" (by decide) ?_ ?_
  · exact ⟨fun _ _ _ => rfl, fun _ => rfl⟩
  · intro hback
    obtain ⟨n, hn, _⟩ := hback
    exact absurd (List.mem_of_getElem? hn) (by decide)

end Qos

end GuardTime
