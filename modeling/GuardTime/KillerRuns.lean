import GuardTime.ProtectedTargets

namespace GuardTime

namespace ConnectionKiller

/-- `_killOne`: the calls for every address, each of which settles on its own. -/
def killOneCalls (fate : Nat → AddressFate) (target : Target) : List KillerCall :=
  ((addressesOf target).mapIdx fun i ip => (killAddressCalls (fate i) ip).1).flatten

/-- What is remembered of the targets: devices not among them are forgotten. -/
def rememberStates (targets : List Target) : PreviousStates := fun deviceId =>
  (targets.reverse.find? (·.deviceId = deviceId)).map stateOf

structure Dispatch where
  target : Target
  calls : List KillerCall

/-- A call of `sync`: the guard and the targets it meets, and how the calls of every kill end. -/
structure KillerCycle where
  guard : ManagementGuard
  targets : List Target
  fate : Nat → Nat → AddressFate

def syncCycle (states : StateMap) (cycle : KillerCycle) : List Dispatch × StateMap :=
  syncTargets (fun i target => ⟨target, killOneCalls (cycle.fate i) target⟩) cycle.guard states
    cycle.targets

def statesAfter (cycles : List KillerCycle) : StateMap :=
  cycles.foldl (fun states cycle => (syncCycle states cycle).2) .empty

def dispatchedAt (cycles : List KillerCycle) (n : Nat) (cycle : KillerCycle) : List Dispatch :=
  (syncCycle (statesAfter (cycles.take n)) cycle).1

def targetsBefore (cycles : List KillerCycle) (n : Nat) : List Target :=
  (((cycles.take n).getLast?).map KillerCycle.targets).getD []

/-- A kill of the target is among the dispatched, and each of its addresses was acted against. -/
def Killed (dispatched : List Dispatch) (target : Target) : Prop :=
  ∃ d ∈ dispatched, d.target = target ∧
    ∀ ip ∈ addressesOf target, KillerCall.conntrackKill ip ∈ d.calls

/-- The target turned to BLOCK, or moved while blocked, since the targets before. -/
def KillDue (before : List Target) (guard : ManagementGuard) (target : Target) : Prop :=
  target.action = .BLOCK ∧
    ((truthy target.ipAddress).isSome ∨ (truthy target.ipv6Address).isSome) ∧
    guard.isProtectedIp target.ipAddress = false ∧
    ((∀ previous ∈ before, previous.deviceId ≠ target.deviceId) ∨
      ∃ previous ∈ before, previous.deviceId = target.deviceId ∧
        (previous.action ≠ .BLOCK ∨ previous.ipAddress ≠ target.ipAddress ∨
          previous.ipv6Address ≠ target.ipv6Address ∨ previous.macAddress ≠ target.macAddress))

/-- The remembered states are those of the targets and no others. -/
def Remembers (states : StateMap) (targets : List Target) : Prop :=
  ∀ deviceId state, (deviceId, state) ∈ states.entries ↔
    ∃ target ∈ targets, target.deviceId = deviceId ∧ stateOf target = state

theorem rememberStateMap_get (states : StateMap) (targets : List Target) :
    (rememberStateMap states targets).get = rememberStates targets := by
  funext deviceId
  have herase := fun (ids : List String) (m : StateMap) =>
    m.get_foldl_erase (fun deviceId => decide (deviceId ∉ targets.map Target.deviceId)) ids
  simp only [decide_eq_true_eq] at herase
  simp only [rememberStateMap, herase, OrderedMap.mem_keys, OrderedMap.get_foldl_set,
    rememberStates]
  by_cases hin : deviceId ∈ targets.map Target.deviceId
  · rw [if_neg fun h => h.2 hin]
    obtain ⟨target, ht, he⟩ := List.mem_map.mp hin
    have hsome : (targets.reverse.find? fun t => decide (t.deviceId = deviceId)).isSome := by
      rw [List.find?_isSome]
      exact ⟨target, List.mem_reverse.mpr ht, decide_eq_true he⟩
    obtain ⟨found, hfound⟩ := Option.isSome_iff_exists.mp hsome
    simp [hfound]
  · have hnone : (targets.reverse.find? fun t => decide (t.deviceId = deviceId)) = none := by
      rw [List.find?_eq_none]
      intro target ht
      simpa using fun he => hin (List.mem_map.mpr ⟨target, List.mem_reverse.mp ht, he⟩)
    simp only [hnone, Option.map_none, Option.none_or]
    split
    next => rfl
    next h =>
      by_contra hne
      exact h ⟨Option.isSome_iff_ne_none.mpr hne, hin⟩

theorem rememberStates_eq_some {targets : List Target}
    (hd : (targets.map Target.deviceId).Nodup) {deviceId : String} {state : PreviousState} :
    rememberStates targets deviceId = some state ↔
      ∃ target ∈ targets, target.deviceId = deviceId ∧ stateOf target = state := by
  unfold rememberStates
  refine ⟨?_, ?_⟩
  · intro h
    obtain ⟨target, hf, hs⟩ := Option.map_eq_some_iff.mp h
    exact ⟨target, List.mem_reverse.mp (List.mem_of_find?_eq_some hf),
      by simpa using List.find?_some hf, hs⟩
  · intro h
    obtain ⟨target, ht, hid, hs⟩ := h
    have hsome : (targets.reverse.find? fun t => decide (t.deviceId = deviceId)).isSome := by
      rw [List.find?_isSome]
      exact ⟨target, List.mem_reverse.mpr ht, decide_eq_true hid⟩
    obtain ⟨found, hfound⟩ := Option.isSome_iff_exists.mp hsome
    have hin := List.mem_reverse.mp (List.mem_of_find?_eq_some hfound)
    have hfid : found.deviceId = deviceId := by simpa using List.find?_some hfound
    have heq : found = target := List.inj_on_of_nodup_map hd hin ht (hfid.trans hid.symm)
    rw [hfound, heq, Option.map_some, hs]

theorem statesAfter_succ {cycles : List KillerCycle} {n : Nat} {cycle : KillerCycle}
    (h : cycles[n]? = some cycle) :
    statesAfter (cycles.take (n + 1)) =
      rememberStateMap (statesAfter (cycles.take n)) cycle.targets := by
  rw [statesAfter, List.take_add_one, h, List.foldl_append]
  rfl

theorem statesAfter_get (cycles : List KillerCycle) (n : Nat) (hn : n ≤ cycles.length) :
    (statesAfter (cycles.take n)).get = rememberStates (targetsBefore cycles n) := by
  cases n with
  | zero => rfl
  | succ n =>
    have hc : cycles[n]? = some cycles[n] := List.getElem?_eq_getElem hn
    have hlast : (cycles.take (n + 1)).getLast? = some cycles[n] := by
      rw [List.take_add_one, hc, Option.toList_some, List.getLast?_concat]
    rw [statesAfter_succ hc, rememberStateMap_get, targetsBefore, hlast]
    rfl

theorem retry_made (succeeds : Nat → Bool) (attempt left : Nat) :
    (retry succeeds attempt (left + 1)).1 ≠ 0 := by
  simp only [retry]
  split
  next => simp
  next => simp

theorem killOneCalls_tries (fate : Nat → AddressFate) {target : Target} {ip : String}
    (h : ip ∈ addressesOf target) : .conntrackKill ip ∈ killOneCalls fate target := by
  obtain ⟨i, hi, hget⟩ := List.mem_iff_getElem.mp h
  refine List.mem_flatten.mpr ⟨(killAddressCalls (fate i) ip).1, ?_, ?_⟩
  · rw [List.mem_mapIdx]
    exact ⟨i, hi, by rw [hget]⟩
  · simp only [killAddressCalls, List.cons_append, List.mem_cons, List.mem_append,
      List.mem_replicate]
    exact Or.inr (Or.inl ⟨retry_made _ _ _, trivial⟩)

theorem shouldRun_eq_true {states : PreviousStates} {target : Target} :
    shouldRun states target = true ↔ target.action = .BLOCK ∧
      ((truthy target.ipAddress).isSome ∨ (truthy target.ipv6Address).isSome) ∧
      ∀ previous, states target.deviceId = some previous →
        previous.action ≠ .BLOCK ∨ previous.ipAddress ≠ target.ipAddress ∨
          previous.ipv6Address ≠ target.ipv6Address ∨ previous.macAddress ≠ target.macAddress := by
  unfold shouldRun
  cases states target.deviceId with
  | none => simp
  | some previous => simp [or_assoc, and_assoc]

/-- `_shouldRun` after some targets were remembered, for a target the guard lets through. -/
theorem shouldRun_iff {before : List Target} (hd : (before.map Target.deviceId).Nodup)
    {guard : ManagementGuard} {target : Target} :
    (shouldRun (rememberStates before) target = true ∧
      guard.isProtectedIp target.ipAddress = false) ↔ KillDue before guard target := by
  rw [shouldRun_eq_true]
  refine ⟨?_, ?_⟩
  · intro h
    obtain ⟨⟨hb, ha, hp⟩, hg⟩ := h
    refine ⟨hb, ha, hg, ?_⟩
    by_cases hin : ∃ previous ∈ before, previous.deviceId = target.deviceId
    · obtain ⟨previous, hin, hid⟩ := hin
      have hstate := (rememberStates_eq_some hd).mpr ⟨previous, hin, hid, rfl⟩
      exact Or.inr ⟨previous, hin, hid, hp _ hstate⟩
    · exact Or.inl fun previous hp he => hin ⟨previous, hp, he⟩
  · intro h
    obtain ⟨hb, ha, hg, hp⟩ := h
    refine ⟨⟨hb, ha, ?_⟩, hg⟩
    intro state hstate
    obtain ⟨previous, hin, hid, rfl⟩ := (rememberStates_eq_some hd).mp hstate
    obtain hnone | ⟨other, ho, he, hchanged⟩ := hp
    · exact absurd hid (hnone previous hin)
    · have hone : other = previous := List.inj_on_of_nodup_map hd ho hin (he.trans hid.symm)
      rw [← hone]
      exact hchanged

theorem syncCycle_killed {states : StateMap} {cycle : KillerCycle} {target : Target} :
    Killed (syncCycle states cycle).1 target ↔
      target ∈ cycle.targets ∧ shouldRun states.get target = true ∧
        cycle.guard.isProtectedIp target.ipAddress = false := by
  have hsafe : target ∈ cycle.guard.filterTargets (cycle.targets.filter (shouldRun states.get)) ↔
      target ∈ cycle.targets ∧ shouldRun states.get target = true ∧
        cycle.guard.isProtectedIp target.ipAddress = false := by
    simp only [ManagementGuard.filterTargets, List.mem_filter, Bool.not_eq_true', and_assoc]
  rw [← hsafe]
  refine ⟨?_, ?_⟩
  · intro h
    obtain ⟨d, hd, rfl, _⟩ := h
    obtain ⟨i, hi, rfl⟩ := List.mem_mapIdx.mp hd
    exact List.getElem_mem hi
  · intro h
    obtain ⟨i, hi, hget⟩ := List.mem_iff_getElem.mp h
    exact ⟨⟨target, killOneCalls (cycle.fate i) target⟩,
      List.mem_mapIdx.mpr ⟨i, hi, by rw [hget]⟩, rfl, fun _ hip => killOneCalls_tries _ hip⟩

/-- A kill that nobody needs to repeat, and one whose deletions all fail. -/
def smoothKill : AddressFate := ⟨some [], fun _ => true, true⟩

def stuckKill : AddressFate := ⟨none, fun _ => false, false⟩

def movedDevice : Target := { blockedDevice with ipAddress := some "192.168.1.51" }

end ConnectionKiller

end GuardTime
