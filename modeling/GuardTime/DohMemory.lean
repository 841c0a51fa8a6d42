import GuardTime.DohRuns
import Mathlib.Algebra.Order.BigOperators.Group.List
import Mathlib.Data.List.Perm.Subperm

namespace GuardTime

namespace DohDetector

/-- The pairs that a visit records, one for each flow on 443. -/
def pairsOf (visit : Visit) : List (String × String) :=
  if visit.Active then
    (visit.tcpFlows.filter fun flow => flow.dport = 443).map fun flow =>
      (visit.target.deviceId, flow.dst)
  else []

def flowsOn443 (cycles : List (List Visit)) : Nat :=
  (cycles.flatten.map fun visit =>
    (visit.tcpFlows.filter fun flow => flow.dport = 443).length).sum

variable {config : DohConfig} {cycles : List (List Visit)} {visits : List Visit} {visit : Visit}
  {deviceId dst : String}

theorem mem_pairsOf : (deviceId, dst) ∈ pairsOf visit ↔ recordedBy deviceId dst visit ≠ [] := by
  unfold pairsOf recordedBy
  by_cases hactive : visit.Active
  · by_cases hdevice : visit.target.deviceId = deviceId
    · simp [hactive, hdevice, flowsTo, and_assoc]
    · simp [hactive, hdevice]
  · simp [hactive]

theorem mem_keys_after {key : String × String} :
    key ∈ (after config cycles).entries.map Prod.fst ↔ ∃ visit ∈ cycles.flatten, key ∈ pairsOf visit := by
  obtain ⟨deviceId, dst⟩ := key
  have hnil : recordedTimes deviceId dst cycles.flatten = [] ↔
      ∀ visit ∈ cycles.flatten, recordedBy deviceId dst visit = [] := List.flatMap_eq_nil_iff
  rw [OrderedMap.mem_keys, after_holds config cycles]
  split
  next hempty =>
    have hall := hnil.mp hempty
    simp only [Option.isSome_none, Bool.false_eq_true, false_iff, not_exists, not_and, mem_pairsOf]
    exact fun visit hvisit hne => hne (hall visit hvisit)
  next hne =>
    simp only [Option.isSome_some, true_iff, mem_pairsOf]
    by_contra hall
    exact hne (hnil.mpr fun visit hvisit => by_contra fun h => hall ⟨visit, hvisit, h⟩)

theorem history_bounded {e : (String × String) × List ℤ} (h : e ∈ (after config cycles).entries) :
    e.2.length ≤ BEHAVIORAL_MAX_HISTORY := by
  obtain ⟨⟨deviceId, dst⟩, list⟩ := e
  have hget := OrderedMap.mem_entries.mp h
  rw [after_holds config cycles] at hget
  split at hget
  next => cases hget
  next =>
    obtain rfl := Option.some.inj hget
    rw [List.rtake, List.length_drop]
    omega

theorem length_pairsOf_le (visits : List Visit) :
    (visits.flatMap pairsOf).length ≤ (visits.map fun visit =>
      (visit.tcpFlows.filter fun flow => flow.dport = 443).length).sum := by
  rw [List.length_flatMap]
  refine List.sum_le_sum fun visit _ => ?_
  unfold pairsOf
  split
  next => rw [List.length_map]
  next => exact Nat.zero_le _

/-- Keys that some visits account for are no more than these visits' flows. -/
theorem entries_le {m : Observations}
    (h : ∀ key ∈ m.entries.map Prod.fst, ∃ visit ∈ visits, key ∈ pairsOf visit) :
    m.entries.length ≤ (visits.map fun visit =>
      (visit.tcpFlows.filter fun flow => flow.dport = 443).length).sum := by
  have hsubset : m.entries.map Prod.fst ⊆ visits.flatMap pairsOf :=
    fun key hkey => List.mem_flatMap.mpr (h key hkey)
  have hle := (List.Nodup.subperm m.nodup hsubset).length_le
  rw [List.length_map] at hle
  exact hle.trans (length_pairsOf_le visits)

theorem timestamps_le (config : DohConfig) (cycles : List (List Visit)) :
    ((after config cycles).entries.map fun e => e.2.length).sum ≤
      BEHAVIORAL_MAX_HISTORY * (after config cycles).entries.length := by
  have hall : ∀ n ∈ (after config cycles).entries.map fun e => e.2.length,
      n ≤ BEHAVIORAL_MAX_HISTORY := by
    intro n hn
    obtain ⟨e, he, rfl⟩ := List.mem_map.mp hn
    exact history_bounded he
  have hsum := List.sum_le_card_nsmul _ _ hall
  rwa [List.length_map, nsmul_eq_mul, Nat.cast_id, Nat.mul_comm] at hsum

/-- Histories stay within the window. The map holds current devices only just where every device
that was ever recorded is in the current list; and where every pair is recorded again within the
last cycles, it is no larger than the flows of these. -/
theorem observations_bounded (config : DohConfig) (cycles : List (List Visit)) :
    (∀ e ∈ (after config cycles).entries, e.2.length ≤ BEHAVIORAL_MAX_HISTORY) ∧
    (∀ current, cycles.getLast? = some current →
      ((∀ e ∈ (after config cycles).entries, ∃ visit ∈ current, visit.target.deviceId = e.1.1) ↔
        ∀ earlier ∈ cycles.flatten, earlier.Active →
          (∃ flow ∈ earlier.tcpFlows, flow.dport = 443) →
          ∃ visit ∈ current, visit.target.deviceId = earlier.target.deviceId)) ∧
    ∀ k, (∀ earlier ∈ cycles.flatten, ∀ pair ∈ pairsOf earlier,
        ∃ visit ∈ (cycles.rtake k).flatten, pair ∈ pairsOf visit) →
      (after config cycles).entries.length ≤ flowsOn443 (cycles.rtake k) ∧
        ((after config cycles).entries.map fun e => e.2.length).sum ≤
          BEHAVIORAL_MAX_HISTORY * flowsOn443 (cycles.rtake k) := by
  refine ⟨fun e he => history_bounded he, ?_, ?_⟩
  · intro current _
    refine ⟨?_, ?_⟩
    · intro h earlier hearlier hactive hflow
      obtain ⟨flow, hflow, hport⟩ := hflow
      have hpair : (earlier.target.deviceId, flow.dst) ∈ pairsOf earlier := by
        rw [pairsOf, if_pos hactive]
        exact List.mem_map.mpr ⟨flow, List.mem_filter.mpr ⟨hflow, decide_eq_true hport⟩, rfl⟩
      obtain ⟨e, he, hkey⟩ := List.mem_map.mp (mem_keys_after.mpr ⟨earlier, hearlier, hpair⟩)
      obtain ⟨visit, hvisit, hdevice⟩ := h e he
      exact ⟨visit, hvisit, by rw [hdevice, hkey]⟩
    · intro h e he
      obtain ⟨earlier, hearlier, hpair⟩ := mem_keys_after.mp (List.mem_map_of_mem he)
      unfold pairsOf at hpair
      split at hpair
      next hactive =>
        obtain ⟨flow, hflow, hkey⟩ := List.mem_map.mp hpair
        obtain ⟨hflow, hport⟩ := List.mem_filter.mp hflow
        rw [← hkey]
        exact h earlier hearlier hactive ⟨flow, hflow, of_decide_eq_true hport⟩
      next => cases hpair
  · intro k hrecent
    have hkeys : ∀ key ∈ (after config cycles).entries.map Prod.fst,
        ∃ visit ∈ (cycles.rtake k).flatten, key ∈ pairsOf visit := by
      intro key hkey
      obtain ⟨earlier, hearlier, hpair⟩ := mem_keys_after.mp hkey
      exact hrecent earlier hearlier key hpair
    have hentries := entries_le hkeys
    have htimes := timestamps_le config cycles
    exact ⟨hentries, htimes.trans (Nat.mul_le_mul_left _ hentries)⟩

/-- A turn of one device that contacts as many destinations. -/
def wideVisit (n : Nat) : Visit :=
  ⟨blockedDevice, 0, (List.range n).map fun i => ⟨"192.168.1.50", toString i, 50000, 443⟩, []⟩

theorem entries_wide (n k : Nat) :
    n ≤ (after ⟨[], []⟩ ([wideVisit n] :: List.replicate k [])).entries.length := by
  have hnodup : ((List.range n).map fun i => ("dev-1", toString i)).Nodup := by
    refine List.nodup_range.map ?_
    intro i j h
    exact toString_inj (Prod.mk.inj h).2
  have hsubset : ((List.range n).map fun i => ("dev-1", toString i)) ⊆
      (after ⟨[], []⟩ ([wideVisit n] :: List.replicate k [])).entries.map Prod.fst := by
    intro key hkey
    obtain ⟨i, hi, rfl⟩ := List.mem_map.mp hkey
    refine mem_keys_after.mpr ⟨wideVisit n, List.mem_append_left _ List.mem_cons_self, ?_⟩
    have hactive : (wideVisit n).Active := rfl
    rw [pairsOf, if_pos hactive]
    refine List.mem_map.mpr ⟨⟨"192.168.1.50", toString i, 50000, 443⟩, ?_, rfl⟩
    exact List.mem_filter.mpr ⟨List.mem_map_of_mem hi, rfl⟩
  have hle := (hnodup.subperm hsubset).length_le
  rwa [List.length_map, List.length_range, List.length_map] at hle

/-- A device that is gone keeps its entries, and no window of recent cycles bounds the map. -/
theorem observations_unbounded :
    (∃ cycles current, cycles.getLast? = some current ∧
      ∃ e ∈ (after ⟨[], []⟩ cycles).entries, ∀ visit ∈ current, visit.target.deviceId ≠ e.1.1) ∧
    ∀ (k : Nat) (bound : List (List Visit) → Nat),
      ∃ cycles, bound (cycles.rtake k) < (after ⟨[], []⟩ cycles).entries.length := by
  refine ⟨⟨[[pollVisit 0 [1]], []], [], rfl, ?_⟩, ?_⟩
  · refine ⟨(("dev-1", "203.0.113.9"), [0]), ?_, fun visit hvisit => nomatch hvisit⟩
    exact OrderedMap.mem_entries.mpr (by decide +kernel)
  · intro k bound
    refine ⟨[wideVisit (bound (List.replicate k []) + 1)] :: List.replicate k [], ?_⟩
    have hrecent : ([wideVisit (bound (List.replicate k []) + 1)] :: List.replicate k []).rtake k =
        List.replicate k [] := by
      simp [List.rtake]
    rw [hrecent]
    exact entries_wide _ k

end DohDetector

end GuardTime
