import GuardTime.DohDetector
import Mathlib.Tactic.FieldSimp
import Mathlib.Tactic.NormNum
import Mathlib.Tactic.Linarith

namespace GuardTime

namespace DohDetector

def flowsTo (dst : String) (flows : List Flow) : List Flow :=
  flows.filter fun flow => flow.dport = 443 ∧ flow.dst = dst

/-- The visit of a target that is not skipped. -/
def Visit.Active (visit : Visit) : Prop := (truthy visit.target.ipAddress).isSome

instance (visit : Visit) : Decidable visit.Active := inferInstanceAs (Decidable (_ = true))

/-- The times that a visit records for a device and a destination, one for each flow. -/
def recordedBy (deviceId dst : String) (visit : Visit) : List ℤ :=
  if visit.Active ∧ visit.target.deviceId = deviceId then
    (flowsTo dst visit.tcpFlows).map fun _ => visit.now
  else []

/-- All times ever recorded for a device and a destination. -/
def recordedTimes (deviceId dst : String) (visits : List Visit) : List ℤ :=
  visits.flatMap (recordedBy deviceId dst)

/-- The visits in which the device was seen to have a flow on 443 to the destination. -/
def seenIn (deviceId dst : String) (visits : List Visit) : List Visit :=
  visits.filter fun visit => visit.Active ∧ visit.target.deviceId = deviceId ∧
    flowsTo dst visit.tcpFlows ≠ []

/-- The pairs that a scan has pushed for a destination by the behavioural heuristic. -/
def intervalsFor (dst : String) (scan : Scan) : List Detection :=
  (scan.detections.filter fun p => p.2.method = "behavioral-interval" ∧ p.1.dst = dst).map Prod.snd

/-- The behavioural detections that a visit reports for a destination. -/
def behavioralReports (config : DohConfig) (observations : Observations) (visit : Visit)
    (dst : String) : List Detection :=
  if visit.Active then
    intervalsFor dst
      (scanFlows config observations visit.now visit.target.deviceId visit.tcpFlows)
  else []

/-- The destination stands on no list and is seen in this visit. -/
def Suspect (config : DohConfig) (visit : Visit) (dst : String) : Prop :=
  visit.Active ∧ flowsTo dst visit.tcpFlows ≠ [] ∧ matchDohIp dst config.dohReputationIps = none

instance (config : DohConfig) (visit : Visit) (dst : String) : Decidable (Suspect config visit dst) :=
  inferInstanceAs (Decidable (_ ∧ _ ∧ _))

/-- Each visit of the device lists at most one flow on 443 to the destination. -/
def SingleFlows (deviceId dst : String) (visits : List Visit) : Prop :=
  ∀ visit ∈ visits, visit.target.deviceId = deviceId → (flowsTo dst visit.tcpFlows).length ≤ 1

/-- The map holds, for every pair that was recorded, the last of its times. -/
def Holds (observations : Observations) (times : String → String → List ℤ) : Prop :=
  ∀ deviceId dst, observations.get (deviceId, dst) =
    if times deviceId dst = [] then none
    else some ((times deviceId dst).rtake BEHAVIORAL_MAX_HISTORY)

variable {config : DohConfig} {observations : Observations} {times : String → String → List ℤ}
  {visit : Visit} {visits : List Visit} {now : ℤ} {deviceId dst : String}

theorem rtake_append_rtake {α : Type} (xs ys : List α) (n : ℕ) :
    (xs.rtake n ++ ys).rtake n = (xs ++ ys).rtake n := by
  have htake : (ys.reverse ++ xs.reverse.take n).take n = (ys.reverse ++ xs.reverse).take n := by
    rw [List.take_append, List.take_append, List.take_take, Nat.min_eq_left (by omega)]
  rw [List.rtake_eq_reverse_take_reverse, List.rtake_eq_reverse_take_reverse,
    List.rtake_eq_reverse_take_reverse, List.reverse_append, List.reverse_reverse, htake,
    List.reverse_append]

theorem Holds.history (h : Holds observations times) (deviceId dst : String) :
    (observations.get (deviceId, dst)).getD [] =
      (times deviceId dst).rtake BEHAVIORAL_MAX_HISTORY := by
  rw [h]
  split
  next hnil => rw [hnil]; rfl
  next => rfl

theorem Holds.congr {others : String → String → List ℤ} (h : Holds observations times)
    (heq : ∀ deviceId dst, others deviceId dst = times deviceId dst) : Holds observations others := by
  intro deviceId dst
  rw [heq]
  exact h deviceId dst

theorem Holds.record (h : Holds observations times) (now : ℤ) (deviceId dst : String) :
    Holds (recordObservation observations now deviceId dst) (fun other place =>
      times other place ++ if other = deviceId ∧ place = dst then [now] else []) := by
  intro other place
  rw [recordObservation, OrderedMap.get_set, h.history, rtake_append_rtake]
  by_cases hsame : other = deviceId ∧ place = dst
  · obtain ⟨rfl, rfl⟩ := hsame
    simp
  · have hkey : (other, place) ≠ (deviceId, dst) := fun heq => hsame (Prod.mk.inj heq)
    rw [if_neg hkey]
    simp only [if_neg hsame, List.append_nil]
    exact h other place

theorem scanFlow_observations {scan : Scan} {flow : Flow} :
    (scanFlow config now deviceId scan flow).observations =
      if flow.dport = 443 then recordObservation scan.observations now deviceId flow.dst
      else scan.observations := by
  unfold scanFlow
  by_cases hport : flow.dport = 443
  · have hdot : flow.dport ∉ DOT_PORTS := by simp [DOT_PORTS, hport]
    rw [if_neg hdot, if_neg (fun hne => hne hport), if_pos hport]
    cases matchDohIp flow.dst config.dohReputationIps with
    | none => rfl
    | some provider => rfl
  · rw [if_neg hport]
    split
    next => rfl
    next => simp

theorem Holds.scan {flows : List Flow} {scan : Scan} (h : Holds scan.observations times) :
    Holds (flows.foldl (scanFlow config now deviceId) scan).observations (fun other place =>
      times other place ++ if other = deviceId then (flowsTo place flows).map fun _ => now else []) := by
  induction flows generalizing scan times with
  | nil => exact h.congr fun other place => by simp [flowsTo]
  | cons flow flows ih =>
    rw [List.foldl_cons]
    have hstep : Holds (scanFlow config now deviceId scan flow).observations (fun other place =>
        times other place ++
          if other = deviceId ∧ flow.dport = 443 ∧ flow.dst = place then [now] else []) := by
      rw [scanFlow_observations]
      by_cases hport : flow.dport = 443
      · rw [if_pos hport]
        exact (h.record now deviceId flow.dst).congr fun other place => by simp [hport, eq_comm]
      · rw [if_neg hport]
        exact h.congr fun other place => by simp [hport]
    refine (ih hstep).congr fun other place => ?_
    by_cases hother : other = deviceId
    · by_cases hflow : flow.dport = 443 ∧ flow.dst = place
      · simp [hother, flowsTo, hflow, List.append_assoc]
      · simp [hother, flowsTo, hflow]
    · simp [hother]

/-- A turn of the second loop changes nothing, or it pushes a verdict and marks its destination. -/
theorem behavioralFlow_cases (deviceId : String) (scan : Scan) (flow : Flow) :
    (flow.dport ≠ 443 ∨ flow.dst ∈ scan.matchedDsts443 ∨
        detectBehavioralInterval scan.observations deviceId flow.dst = none) ∧
      behavioralFlow deviceId scan flow = scan ∨
    ∃ behavioral, flow.dport = 443 ∧ flow.dst ∉ scan.matchedDsts443 ∧
      detectBehavioralInterval scan.observations deviceId flow.dst = some behavioral ∧
      behavioralFlow deviceId scan flow =
        { scan with
          detections := scan.detections ++ [(flow, behavioral)]
          matchedDsts443 := scan.matchedDsts443 ++ [flow.dst] } := by
  by_cases hskip : flow.dport ≠ 443 ∨ flow.dst ∈ scan.matchedDsts443
  · exact Or.inl ⟨hskip.imp_right Or.inl, if_pos hskip⟩
  · cases hverdict : detectBehavioralInterval scan.observations deviceId flow.dst with
    | none =>
      refine Or.inl ⟨Or.inr (Or.inr rfl), ?_⟩
      rw [behavioralFlow, if_neg hskip, hverdict]
    | some behavioral =>
      obtain ⟨hport, hfree⟩ := not_or.mp hskip
      refine Or.inr ⟨behavioral, not_not.mp hport, hfree, rfl, ?_⟩
      rw [behavioralFlow, if_neg hskip, hverdict]

theorem behavioralFlow_observations {scan : Scan} {flow : Flow} :
    (behavioralFlow deviceId scan flow).observations = scan.observations := by
  obtain ⟨-, hsame⟩ | ⟨behavioral, -, -, -, hnew⟩ := behavioralFlow_cases deviceId scan flow
  · rw [hsame]
  · rw [hnew]

theorem behavioral_observations {flows : List Flow} {scan : Scan} :
    (flows.foldl (behavioralFlow deviceId) scan).observations = scan.observations := by
  induction flows generalizing scan with
  | nil => rfl
  | cons flow flows ih => rw [List.foldl_cons, ih, behavioralFlow_observations]

theorem visitTarget_active (h : visit.Active) : visitTarget config observations visit =
    ((detectForTarget config observations visit).1, (detectForTarget config observations visit).2.map
      fun detection => ⟨visit.target.deviceId, detection⟩) := by
  have hsome : ¬(truthy visit.target.ipAddress).isNone := by
    rw [Visit.Active] at h
    simpa [Option.isSome_iff_ne_none] using h
  rw [visitTarget, if_neg hsome]

theorem visitTarget_inactive (h : ¬visit.Active) :
    visitTarget config observations visit = (observations, []) := by
  have hnone : (truthy visit.target.ipAddress).isNone := by
    rw [Visit.Active] at h
    simpa [Option.isSome_iff_ne_none] using h
  rw [visitTarget, if_pos hnone]

theorem Holds.visited (h : Holds observations times) (config : DohConfig) (visit : Visit) :
    Holds (visitTarget config observations visit).1 (fun deviceId dst =>
      times deviceId dst ++ recordedBy deviceId dst visit) := by
  by_cases hactive : visit.Active
  · rw [visitTarget_active hactive]
    simp only [detectForTarget, scanFlows, behavioral_observations]
    have hstart : Holds (Scan.mk observations [] []).observations times := h
    refine hstart.scan.congr fun deviceId dst => ?_
    simp [recordedBy, hactive, eq_comm]
  · rw [visitTarget_inactive hactive]
    exact h.congr fun deviceId dst => by simp [recordedBy, hactive]

theorem sync_append (visits : List Visit) (visit : Visit) :
    sync config observations (visits ++ [visit]) =
      ((visitTarget config (sync config observations visits).1 visit).1,
        (sync config observations visits).2 ++
          (visitTarget config (sync config observations visits).1 visit).2) := by
  simp only [sync, List.foldl_append, List.foldl_cons, List.foldl_nil]

theorem Holds.sync (h : Holds observations times) (config : DohConfig) (visits : List Visit) :
    Holds (sync config observations visits).1 (fun deviceId dst =>
      times deviceId dst ++ recordedTimes deviceId dst visits) := by
  induction visits using List.reverseRecOn with
  | nil => exact h.congr fun deviceId dst => List.append_nil _
  | append_singleton visits visit ih =>
    rw [sync_append]
    refine (ih.visited config visit).congr fun deviceId dst => ?_
    simp [recordedTimes, List.append_assoc]

theorem after_holds (config : DohConfig) (cycles : List (List Visit)) :
    Holds (after config cycles) (fun deviceId dst => recordedTimes deviceId dst cycles.flatten) := by
  induction cycles using List.reverseRecOn with
  | nil => intro deviceId dst; rfl
  | append_singleton cycles visits ih =>
    have hafter : after config (cycles ++ [visits]) =
        (DohDetector.sync config (after config cycles) visits).1 := by
      simp only [after, List.foldl_append, List.foldl_cons, List.foldl_nil]
    rw [hafter]
    refine (ih.sync config visits).congr fun deviceId dst => ?_
    simp [recordedTimes]

theorem intervalVerdict_method {list : List ℤ} {d : Detection} (h : intervalVerdict dst list = some d) :
    d.method = "behavioral-interval" := by
  simp only [intervalVerdict] at h
  split at h
  next => cases h
  next =>
    split at h
    next => cases h
    next =>
      split at h
      next => cases h
      next =>
        obtain rfl := Option.some.inj h
        rfl

theorem scanFlow_intervals {scan : Scan} {flow : Flow} :
    intervalsFor dst (scanFlow config now deviceId scan flow) = intervalsFor dst scan := by
  unfold scanFlow
  split
  next => simp [intervalsFor]
  next =>
    split
    next => rfl
    next =>
      split
      next => simp [intervalsFor]
      next => rfl

theorem scanFlow_matched {scan : Scan} {flow : Flow} :
    dst ∈ (scanFlow config now deviceId scan flow).matchedDsts443 ↔
      dst ∈ scan.matchedDsts443 ∨ flow.dport = 443 ∧ flow.dst = dst ∧
        matchDohIp dst config.dohReputationIps ≠ none := by
  unfold scanFlow
  split
  next hdot =>
    have hport : flow.dport ≠ 443 := by
      intro hport
      rw [hport] at hdot
      exact absurd hdot (by decide)
    simp [hport]
  next =>
    split
    next hport => simp [hport]
    next hport =>
      have hport : flow.dport = 443 := not_not.mp hport
      split
      next provider hprovider =>
        simp only [List.mem_append, List.mem_singleton, hport, true_and]
        refine or_congr_right ⟨?_, fun h => h.1.symm⟩
        rintro rfl
        exact ⟨rfl, by rw [hprovider]; exact Option.some_ne_none _⟩
      next hnone =>
        refine (or_iff_left ?_).symm
        intro h
        obtain ⟨-, rfl, hne⟩ := h
        exact hne hnone

/-- After the first loop no destination has a verdict, and the listed ones are matched. -/
theorem first_loop {flows : List Flow} {scan : Scan} :
    intervalsFor dst (flows.foldl (scanFlow config now deviceId) scan) = intervalsFor dst scan ∧
    (dst ∈ (flows.foldl (scanFlow config now deviceId) scan).matchedDsts443 ↔
      dst ∈ scan.matchedDsts443 ∨ flowsTo dst flows ≠ [] ∧
        matchDohIp dst config.dohReputationIps ≠ none) := by
  induction flows generalizing scan with
  | nil => simp [flowsTo]
  | cons flow flows ih =>
    rw [List.foldl_cons]
    obtain ⟨hintervals, hmatched⟩ := @ih (scanFlow config now deviceId scan flow)
    refine ⟨hintervals.trans scanFlow_intervals, ?_⟩
    rw [hmatched, scanFlow_matched]
    by_cases hflow : flow.dport = 443 ∧ flow.dst = dst
    · simp only [flowsTo, hflow, and_self, decide_true, List.filter_cons_of_pos]
      tauto
    · have hskip : flowsTo dst (flow :: flows) = flowsTo dst flows :=
        List.filter_cons_of_neg (by simpa using hflow)
      rw [hskip]
      tauto

theorem second_loop {flows : List Flow} {scan : Scan} :
    intervalsFor dst (flows.foldl (behavioralFlow deviceId) scan) = intervalsFor dst scan ++
      if dst ∉ scan.matchedDsts443 ∧ flowsTo dst flows ≠ [] then
        (detectBehavioralInterval scan.observations deviceId dst).toList else [] := by
  induction flows generalizing scan with
  | nil => simp [flowsTo]
  | cons flow flows ih =>
    rw [List.foldl_cons, ih, behavioralFlow_observations]
    obtain ⟨hidle, hsame⟩ | ⟨behavioral, hport, hfree, hverdict, hnew⟩ :=
      behavioralFlow_cases deviceId scan flow
    · rw [hsame]
      by_cases hflow : flow.dport = 443 ∧ flow.dst = dst
      · obtain ⟨hport, rfl⟩ := hflow
        rcases hidle with hne | hmatched | hverdict
        · exact absurd hport hne
        · simp [hmatched]
        · simp [hverdict]
      · simp [flowsTo, hflow]
    · have hmethod := intervalVerdict_method hverdict
      rw [hnew]
      by_cases hdst : flow.dst = dst
      · subst hdst
        simp [intervalsFor, hmethod, hfree, hverdict, flowsTo, hport]
      · have hother : dst ≠ flow.dst := Ne.symm hdst
        simp [intervalsFor, hdst, hother, flowsTo]

/-- The report of a visit for a destination is the verdict on its history. -/
theorem behavioralReports_eq :
    behavioralReports config observations visit dst =
      if Suspect config visit dst then
        (detectBehavioralInterval (visitTarget config observations visit).1
          visit.target.deviceId dst).toList
      else [] := by
  unfold behavioralReports
  by_cases hactive : visit.Active
  · have hfirst : intervalsFor dst (visit.tcpFlows.foldl
        (scanFlow config visit.now visit.target.deviceId) ⟨observations, [], []⟩) = [] ∧ _ := first_loop
    rw [if_pos hactive, visitTarget_active hactive]
    simp only [scanFlows, detectForTarget, second_loop, behavioral_observations, hfirst.1,
      hfirst.2, List.nil_append, List.not_mem_nil, false_or, not_and, not_not]
    refine if_congr ?_ rfl rfl
    unfold Suspect
    tauto
  · rw [if_neg hactive, if_neg fun h : Suspect config visit dst => hactive h.1]

theorem behavioralReports_sound {d : Detection}
    (h : d ∈ behavioralReports config observations visit dst) :
    ⟨visit.target.deviceId, d⟩ ∈ (visitTarget config observations visit).2 := by
  unfold behavioralReports at h
  split at h
  next hactive =>
    rw [visitTarget_active hactive]
    obtain ⟨p, hp, rfl⟩ := List.mem_map.mp h
    refine List.mem_map.mpr ⟨p.2, ?_, rfl⟩
    exact List.mem_append_left _ (List.mem_map_of_mem (List.mem_filter.mp hp).1)
  next => cases h

theorem recordedTimes_single (h : SingleFlows deviceId dst visits) :
    recordedTimes deviceId dst visits = (seenIn deviceId dst visits).map Visit.now := by
  induction visits with
  | nil => rfl
  | cons visit visits ih =>
    have htail := ih fun v hv => h v (List.mem_cons_of_mem _ hv)
    have hhead := h visit List.mem_cons_self
    rw [recordedTimes, List.flatMap_cons, ← recordedTimes, htail, recordedBy, seenIn, seenIn]
    by_cases hown : visit.Active ∧ visit.target.deviceId = deviceId
    · cases hflows : flowsTo dst visit.tcpFlows with
      | nil => simp [hflows]
      | cons flow flows =>
        have hone : flows = [] := by
          have hlength := hhead hown.2
          rw [hflows] at hlength
          exact List.eq_nil_of_length_eq_zero (by simpa using hlength)
        simp [hown, hflows, hone]
    · have hskip : ¬(visit.Active ∧ visit.target.deviceId = deviceId ∧
          flowsTo dst visit.tcpFlows ≠ []) := fun h => hown ⟨h.1, h.2.1⟩
      simp [hown, hskip]

theorem intervals_regular {list : List ℤ} {step : ℤ}
    (h : list.IsChain fun earlier later => later - earlier = step) :
    List.zipWith (fun later earlier => ((later - earlier : ℤ) : ℚ)) list.tail list =
      List.replicate (list.length - 1) (step : ℚ) := by
  induction list with
  | nil => rfl
  | cons first rest ih =>
    cases rest with
    | nil => rfl
    | cons second rest =>
      obtain ⟨hstep, hrest⟩ := List.isChain_cons_cons.mp h
      have htail := ih hrest
      simp only [List.tail_cons, List.length_cons, Nat.add_sub_cancel] at htail ⊢
      rw [List.zipWith_cons_cons, htail, hstep, List.replicate_succ]

/-- A history with one interval between its entries is judged by that interval alone. -/
theorem intervalVerdict_regular (dst : String) {list : List ℤ} {step : ℤ} (hlen : 4 ≤ list.length)
    (hstep : list.IsChain fun earlier later => later - earlier = step)
    (hmin : 2000 ≤ step) (hmax : step ≤ 120000) :
    intervalVerdict dst list = some ⟨"behavioral-interval", "unknown (regular-interval TLS/443)",
      "dst " ++ dst ++ ", ~" ++ toString (Math.round ((step : ℚ) / 1000)) ++ "s interval",
      BEHAVIORAL_CONFIDENCE⟩ := by
  have hmin' : (2000 : ℚ) ≤ step := by exact_mod_cast hmin
  have hmax' : (step : ℚ) ≤ 120000 := by exact_mod_cast hmax
  have hcount : ((list.length - 1 : ℕ) : ℚ) ≠ 0 := by
    have hpos : list.length - 1 ≠ 0 := by omega
    exact_mod_cast hpos
  have hmean : (List.replicate (list.length - 1) (step : ℚ)).sum /
      (List.replicate (list.length - 1) (step : ℚ)).length = step := by
    rw [List.sum_replicate, List.length_replicate, nsmul_eq_mul]
    field_simp
  have henough : ¬list.length < BEHAVIORAL_MIN_OBSERVATIONS := by
    simpa [BEHAVIORAL_MIN_OBSERVATIONS] using hlen
  have hrange : ¬((step : ℚ) < BEHAVIORAL_MIN_INTERVAL_MS ∨ (step : ℚ) > BEHAVIORAL_MAX_INTERVAL_MS) := by
    simp only [BEHAVIORAL_MIN_INTERVAL_MS, BEHAVIORAL_MAX_INTERVAL_MS, not_or, not_lt, gt_iff_lt]
    exact ⟨hmin', hmax'⟩
  simp only [intervalVerdict, if_neg henough, intervals_regular hstep, hmean, if_neg hrange,
    List.map_replicate, sub_self]
  have hvariance : (List.replicate (list.length - 1) ((0 : ℚ) ^ 2)).sum /
      (List.replicate (list.length - 1) (step : ℚ)).length = 0 := by
    simp
  rw [hvariance, if_neg (not_lt.mpr (sq_nonneg _))]

theorem history_eq (config : DohConfig) (cycles : List (List Visit)) (before : List Visit)
    (visit : Visit) (deviceId dst : String) :
    ((visitTarget config (sync config (after config cycles) before).1 visit).1.get
      (deviceId, dst)).getD [] =
      (recordedTimes deviceId dst (cycles.flatten ++ before ++ [visit])).rtake
        BEHAVIORAL_MAX_HISTORY := by
  have hholds := ((after_holds config cycles).sync config before).visited config visit
  rw [hholds.history]
  simp [recordedTimes, List.append_assoc]

/-- As long as no visit lists two flows of the device to the destination, what is reported for it
depends on the times alone at which it was seen: four or more at one interval are reported, and runs
that saw it at the same times report the same. -/
theorem behavioral_verdict_law (config : DohConfig) (dst : String) (cycles : List (List Visit))
    (before : List Visit) (visit : Visit)
    (hsingle : SingleFlows visit.target.deviceId dst (cycles.flatten ++ before ++ [visit])) :
    let observations := (sync config (after config cycles) before).1
    let seenTimes :=
      (seenIn visit.target.deviceId dst (cycles.flatten ++ before ++ [visit])).map Visit.now
    behavioralReports config observations visit dst =
      (if Suspect config visit dst then
        (intervalVerdict dst (seenTimes.rtake BEHAVIORAL_MAX_HISTORY)).toList else []) ∧
    (∀ step : ℤ, 2000 ≤ step → step ≤ 120000 → 4 ≤ seenTimes.length →
      (seenTimes.IsChain fun earlier later => later - earlier = step) → Suspect config visit dst →
      ∃ d, behavioralReports config observations visit dst = [d] ∧
        ⟨visit.target.deviceId, d⟩ ∈ (visitTarget config observations visit).2) ∧
    ∀ (cycles' : List (List Visit)) (before' : List Visit) (visit' : Visit),
      SingleFlows visit.target.deviceId dst (cycles'.flatten ++ before' ++ [visit']) →
      visit'.target.deviceId = visit.target.deviceId →
      (seenIn visit.target.deviceId dst (cycles'.flatten ++ before' ++ [visit'])).map Visit.now =
        seenTimes →
      (Suspect config visit' dst ↔ Suspect config visit dst) →
      behavioralReports config (sync config (after config cycles') before').1 visit' dst =
        behavioralReports config observations visit dst := by
  intro observations seenTimes
  have hreports : ∀ (cycles : List (List Visit)) (before : List Visit) (visit : Visit),
      SingleFlows visit.target.deviceId dst (cycles.flatten ++ before ++ [visit]) →
      behavioralReports config (sync config (after config cycles) before).1 visit dst =
        if Suspect config visit dst then (intervalVerdict dst
          (((seenIn visit.target.deviceId dst (cycles.flatten ++ before ++ [visit])).map
            Visit.now).rtake BEHAVIORAL_MAX_HISTORY)).toList else [] := by
    intro cycles before visit hsingle
    rw [behavioralReports_eq, detectBehavioralInterval, history_eq, recordedTimes_single hsingle]
  have hhere := hreports cycles before visit hsingle
  refine ⟨hhere, ?_, ?_⟩
  · intro step hmin hmax hlen hchain hsuspect
    have hlast : 4 ≤ (seenTimes.rtake BEHAVIORAL_MAX_HISTORY).length := by
      rw [List.rtake, List.length_drop, BEHAVIORAL_MAX_HISTORY]
      omega
    have hverdict := intervalVerdict_regular dst hlast (hchain.drop _) hmin hmax
    rw [if_pos hsuspect, hverdict] at hhere
    exact ⟨_, hhere, behavioralReports_sound (by rw [hhere]; exact List.mem_singleton_self _)⟩
  · intro cycles' before' visit' hsingle' hdevice htimes hsuspect
    have hthere := hreports cycles' before' visit' (hdevice ▸ hsingle')
    rw [hdevice, htimes] at hthere
    rw [hthere, hhere]
    exact if_congr hsuspect rfl rfl

/-- A turn of one device that holds connections to one destination from the given ports. -/
def pollVisit (now : ℤ) (ports : List Nat) : Visit :=
  ⟨blockedDevice, now, ports.map fun port => ⟨"192.168.1.50", "203.0.113.9", port, 443⟩, []⟩

theorem pollVisit_flows (now : ℤ) (ports : List Nat) :
    (flowsTo "203.0.113.9" (pollVisit now ports).tcpFlows).length = ports.length := by
  have hall : flowsTo "203.0.113.9" (pollVisit now ports).tcpFlows = (pollVisit now ports).tcpFlows := by
    refine List.filter_eq_self.mpr ?_
    intro flow hflow
    obtain ⟨port, -, rfl⟩ := List.mem_map.mp hflow
    exact decide_eq_true ⟨rfl, rfl⟩
  rw [hall]
  exact List.length_map _

/-- One connection in each of four cycles ten seconds apart. -/
theorem behavioral_verdict_law_sample :
    behavioralReports ⟨[], []⟩ (sync ⟨[], []⟩
      (after ⟨[], []⟩ [[pollVisit 0 [1]], [pollVisit 10000 [1]], [pollVisit 20000 [2]]]) []).1
      (pollVisit 30000 [3]) "203.0.113.9" =
    [⟨"behavioral-interval", "unknown (regular-interval TLS/443)", "dst 203.0.113.9, ~10s interval",
      20⟩] := by
  have hsingle : SingleFlows "dev-1" "203.0.113.9"
      ([[pollVisit 0 [1]], [pollVisit 10000 [1]], [pollVisit 20000 [2]]].flatten ++ [] ++
        [pollVisit 30000 [3]]) := by
    intro visit hvisit _
    simp only [List.flatten_cons, List.flatten_nil, List.append_nil, List.cons_append,
      List.nil_append, List.mem_cons, List.not_mem_nil, or_false] at hvisit
    rcases hvisit with rfl | rfl | rfl | rfl
    all_goals exact (pollVisit_flows _ _).le
  have hlaw := behavioral_verdict_law ⟨[], []⟩ "203.0.113.9"
    [[pollVisit 0 [1]], [pollVisit 10000 [1]], [pollVisit 20000 [2]]] [] (pollVisit 30000 [3]) hsingle
  rw [hlaw.1]
  decide +kernel

/-- The same cycles with two connections each: the intervals are no longer regular. -/
theorem behavioral_verdict_parallel :
    let poll : List Nat → List (List Visit) := fun ports =>
      [[pollVisit 0 ports], [pollVisit 10000 ports], [pollVisit 20000 ports]]
    let reports : List Nat → List Detection := fun ports =>
      behavioralReports ⟨[], []⟩ (after ⟨[], []⟩ (poll ports)) (pollVisit 30000 ports) "203.0.113.9"
    (∀ ports, ports ≠ [] → (seenIn "dev-1" "203.0.113.9"
      ((poll ports).flatten ++ [pollVisit 30000 ports])).map Visit.now = [0, 10000, 20000, 30000]) ∧
    (reports [1]).length = 1 ∧ reports [1, 2] = [] := by
  intro poll reports
  refine ⟨?_, by decide +kernel, by decide +kernel⟩
  intro ports hne
  have hflows : ∀ now, flowsTo "203.0.113.9" (pollVisit now ports).tcpFlows ≠ [] := by
    intro now hnil
    have hlength := pollVisit_flows now ports
    rw [hnil] at hlength
    exact hne (List.eq_nil_of_length_eq_zero hlength.symm)
  have hactive : ∀ now, (pollVisit now ports).Active ∧
      (pollVisit now ports).target.deviceId = "dev-1" := fun now => ⟨rfl, rfl⟩
  simp only [poll, seenIn, List.flatten_cons, List.flatten_nil, List.append_nil, List.cons_append,
    List.nil_append, List.filter_cons, List.filter_nil, hactive, hflows, ne_eq, not_false_eq_true,
    and_self, decide_true, if_true, List.map_cons, List.map_nil]
  rfl

end DohDetector

end GuardTime
