import GuardTime.ConntrackTable
import GuardTime.DohRuns

namespace GuardTime

open Conntrack

/-- What one target's turn of a detector reads, where `conntrack` answers from a table. -/
structure Turn where
  target : Target
  table : List TableEntry
  now : ℤ
  queries : List String

namespace Turn

/-- The flows that the turn lists, none for a target that is skipped. -/
def tcpFlows (config : Config) (turn : Turn) : List Flow :=
  match truthy turn.target.ipAddress with
  | some ipAddress => (listTcpConnections config (answers turn.table) ipAddress).2.getD []
  | none => []

def visit (config : Config) (turn : Turn) : DohDetector.Visit :=
  ⟨turn.target, turn.now, turn.tcpFlows config, turn.queries⟩

/-- The TCP flows of the table that were opened to an address. -/
def inbound (turn : Turn) (ipAddress : String) : List Flow :=
  (turn.table.filter (TableEntry.matches .tcp .destination ipAddress)).map TableEntry.original

/-- Those among them to the HTTPS port. -/
def web (turn : Turn) (ipAddress : String) : List Flow :=
  (turn.inbound ipAddress).filter fun flow => flow.dport = 443

end Turn

/-- The original source address is that of the target. -/
def OpenedBy (target : Target) (flow : Flow) : Prop := target.ipAddress = some flow.src

namespace DohDetector

/-- The detections that a turn reports for flows, each with the flow it was pushed for. -/
def flowStems (config : DohConfig) (observations : Observations) (visit : Visit) :
    List (Flow × Detection) :=
  if visit.Active then
    (scanFlows config observations visit.now visit.target.deviceId visit.tcpFlows).detections
  else []

/-- The turns of a cycle, each with the observations that it starts from. -/
def starts (config : Config) (doh : DohConfig) : Observations → List Turn → List (Observations × Turn)
  | _, [] => []
  | observations, turn :: turns =>
    (observations, turn) :: starts config doh (visitTarget doh observations (turn.visit config)).1 turns

/-- What the first loop pushes for a flow. -/
def listedVerdict (config : DohConfig) (flow : Flow) : Option Detection :=
  if flow.dport ∈ DOT_PORTS then
    some ⟨"conntrack-port-853", "DoT", toString flow.dport, DOT_CONFIDENCE⟩
  else if flow.dport = 443 then
    (matchDohIp flow.dst config.dohReputationIps).map fun provider =>
      ⟨"conntrack-doh-ip", provider, flow.dst, DOH_IP_CONFIDENCE⟩
  else none

/-- The table holds a flow that another host opened to the address, and that the detector takes for
one of the target: to the DoT port, or to the HTTPS port of an address that is listed or that has a
regular history and no such flow to itself. -/
def Accused (doh : DohConfig) (observations : Observations) (turn : Turn) (ipAddress : String) : Prop :=
  (∃ flow ∈ turn.inbound ipAddress, flow.src ≠ ipAddress ∧ flow.dport ∈ DOT_PORTS) ∨
  (∃ flow ∈ turn.web ipAddress, flow.src ≠ ipAddress) ∧
    (matchDohIp ipAddress doh.dohReputationIps ≠ none ∨
      (∀ flow ∈ turn.web ipAddress, flow.src ≠ ipAddress) ∧
      intervalVerdict ipAddress
        (((observations.get (turn.target.deviceId, ipAddress)).getD [] ++
          (turn.web ipAddress).dedup.map fun _ => turn.now).rtake BEHAVIORAL_MAX_HISTORY) ≠ none)

variable {config : Config} {doh : DohConfig} {observations : Observations} {turn : Turn}
  {turns : List Turn} {visit : Visit} {now : ℤ} {deviceId dst ipAddress : String}

theorem sync_rows : (sync doh observations (turns.map (Turn.visit config))).2 =
    (starts config doh observations turns).flatMap fun start =>
      (visitTarget doh start.1 (start.2.visit config)).2 := by
  have hrun : ∀ rows, ((turns.map (Turn.visit config)).foldl (fun state visit =>
      let visited := visitTarget doh state.1 visit
      (visited.1, state.2 ++ visited.2)) (observations, rows)).2 =
      rows ++ (starts config doh observations turns).flatMap fun start =>
        (visitTarget doh start.1 (start.2.visit config)).2 := by
    induction turns generalizing observations with
    | nil => simp [starts]
    | cons turn turns ih =>
      intro rows
      rw [List.map_cons, List.foldl_cons, ih, starts, List.flatMap_cons, List.append_assoc]
  rw [sync, hrun, List.nil_append]

/-- The rows of a turn are those of its flows, and those of its queries. -/
theorem visitTarget_rows : (visitTarget doh observations visit).2 =
    (flowStems doh observations visit).map (fun p => ⟨visit.target.deviceId, p.2⟩) ++
      if visit.Active then (sniDetections doh visit.queries).map
        fun detection => ⟨visit.target.deviceId, detection⟩
      else [] := by
  unfold flowStems
  by_cases hactive : visit.Active
  · rw [visitTarget_active hactive, if_pos hactive, if_pos hactive]
    simp [detectForTarget]
  · rw [visitTarget_inactive hactive, if_neg hactive, if_neg hactive]
    rfl

theorem scanFlow_detections {scan : Scan} {flow : Flow} :
    (scanFlow doh now deviceId scan flow).detections =
      scan.detections ++ ((listedVerdict doh flow).map fun d => (flow, d)).toList := by
  unfold scanFlow listedVerdict
  split
  next => rfl
  next =>
    by_cases hport : flow.dport = 443
    · rw [if_neg (not_not.mpr hport), if_pos hport]
      cases matchDohIp flow.dst doh.dohReputationIps with
      | none => simp
      | some provider => rfl
    · rw [if_pos hport, if_neg hport]
      simp

theorem first_detections {flows : List Flow} {scan : Scan} {p : Flow × Detection} :
    p ∈ (flows.foldl (scanFlow doh now deviceId) scan).detections ↔
      p ∈ scan.detections ∨ p.1 ∈ flows ∧ listedVerdict doh p.1 = some p.2 := by
  induction flows generalizing scan with
  | nil => simp
  | cons flow flows ih =>
    have hpushed : p ∈ ((listedVerdict doh flow).map fun d => (flow, d)).toList ↔
        p.1 = flow ∧ listedVerdict doh p.1 = some p.2 := by
      obtain ⟨stem, d⟩ := p
      simp only [Option.mem_toList, Option.map_eq_some_iff, Prod.mk.injEq]
      constructor
      · rintro ⟨d, hverdict, rfl, rfl⟩
        exact ⟨rfl, hverdict⟩
      · rintro ⟨rfl, hverdict⟩
        exact ⟨d, hverdict, rfl, rfl⟩
    rw [List.foldl_cons, ih, scanFlow_detections, List.mem_append, hpushed, List.mem_cons]
    tauto

/-- The second loop pushes the first flow to a destination that is not matched. -/
theorem second_detections {flows : List Flow} {scan : Scan} {p : Flow × Detection} :
    p ∈ (flows.foldl (behavioralFlow deviceId) scan).detections ↔
      p ∈ scan.detections ∨ p.1.dst ∉ scan.matchedDsts443 ∧
        (flowsTo p.1.dst flows).head? = some p.1 ∧
        detectBehavioralInterval scan.observations deviceId p.1.dst = some p.2 := by
  induction flows generalizing scan with
  | nil => simp [flowsTo]
  | cons flow flows ih =>
    have hpass : ¬(flow.dport = 443 ∧ flow.dst = p.1.dst) →
        flowsTo p.1.dst (flow :: flows) = flowsTo p.1.dst flows :=
      fun hflow => List.filter_cons_of_neg (by simpa using hflow)
    have htake : flow.dport = 443 ∧ flow.dst = p.1.dst →
        flowsTo p.1.dst (flow :: flows) = flow :: flowsTo p.1.dst flows :=
      fun hflow => List.filter_cons_of_pos (by simpa using hflow)
    rw [List.foldl_cons, ih, behavioralFlow_observations]
    obtain ⟨hidle, hsame⟩ | ⟨behavioral, hport, hfree, hverdict, hnew⟩ :=
      behavioralFlow_cases deviceId scan flow
    · rw [hsame]
      by_cases hflow : flow.dport = 443 ∧ flow.dst = p.1.dst
      · have hquiet : p.1.dst ∈ scan.matchedDsts443 ∨
            detectBehavioralInterval scan.observations deviceId p.1.dst = none :=
          hflow.2 ▸ hidle.resolve_left fun hne => hne hflow.1
        rcases hquiet with hmatched | hnone
        · simp [hmatched]
        · simp [hnone]
      · rw [hpass hflow]
    · rw [hnew]
      by_cases hdst : flow.dst = p.1.dst
      · rw [hdst] at hverdict hfree
        rw [htake ⟨hport, hdst⟩]
        simp only [List.mem_append, List.mem_singleton, hdst, hfree, hverdict, List.head?_cons,
          Option.some.injEq, not_true_eq_false, or_true, false_and, or_false, not_false_eq_true,
          true_and, Prod.ext_iff, eq_comm]
      · rw [hpass fun hflow => hdst hflow.2]
        have hother : p ≠ (flow, behavioral) := fun heq => hdst (heq ▸ rfl)
        have hdst' : p.1.dst ≠ flow.dst := Ne.symm hdst
        simp [hother, hdst']

theorem first_history {flows : List Flow} {scan : Scan} :
    ((flows.foldl (scanFlow doh now deviceId) scan).observations.get (deviceId, dst)).getD [] =
      if flowsTo dst flows = [] then (scan.observations.get (deviceId, dst)).getD []
      else ((scan.observations.get (deviceId, dst)).getD [] ++
        (flowsTo dst flows).map fun _ => now).rtake BEHAVIORAL_MAX_HISTORY := by
  induction flows generalizing scan with
  | nil => simp [flowsTo]
  | cons flow flows ih =>
    rw [List.foldl_cons, ih, scanFlow_observations]
    by_cases hflow : flow.dport = 443 ∧ flow.dst = dst
    · obtain ⟨hport, rfl⟩ := hflow
      have hcons : flowsTo flow.dst (flow :: flows) = flow :: flowsTo flow.dst flows :=
        List.filter_cons_of_pos (by simpa using hport)
      rw [hcons, if_pos hport, if_neg (List.cons_ne_nil _ _), recordObservation,
        OrderedMap.get_set_self, Option.getD_some]
      split
      next hnil => rw [hnil]; rfl
      next => rw [rtake_append_rtake, List.append_assoc]; rfl
    · have hcons : flowsTo dst (flow :: flows) = flowsTo dst flows :=
        List.filter_cons_of_neg (by simpa using hflow)
      have hkept : ((if flow.dport = 443 then recordObservation scan.observations now deviceId flow.dst
          else scan.observations).get (deviceId, dst)).getD [] =
          (scan.observations.get (deviceId, dst)).getD [] := by
        split
        next hport =>
          have hkey : (deviceId, dst) ≠ (deviceId, flow.dst) := fun heq =>
            hflow ⟨hport, (Prod.mk.inj heq).2.symm⟩
          rw [recordObservation, OrderedMap.get_set_of_ne _ hkey]
        next => rfl
      rw [hcons, hkept]

/-- What a turn reports for flows: the listed ones, and the first of each unlisted destination with
a regular history. -/
theorem mem_flowStems {p : Flow × Detection} (hactive : visit.Active) :
    p ∈ flowStems doh observations visit ↔
      p.1 ∈ visit.tcpFlows ∧ listedVerdict doh p.1 = some p.2 ∨
      matchDohIp p.1.dst doh.dohReputationIps = none ∧
        (flowsTo p.1.dst visit.tcpFlows).head? = some p.1 ∧
        intervalVerdict p.1.dst
          (((observations.get (visit.target.deviceId, p.1.dst)).getD [] ++
            (flowsTo p.1.dst visit.tcpFlows).map fun _ => visit.now).rtake
              BEHAVIORAL_MAX_HISTORY) = some p.2 := by
  have hfirst : intervalsFor p.1.dst (visit.tcpFlows.foldl
      (scanFlow doh visit.now visit.target.deviceId) ⟨observations, [], []⟩) = [] ∧ _ := first_loop
  rw [flowStems, if_pos hactive, scanFlows, second_detections, first_detections, hfirst.2,
    detectBehavioralInterval, first_history]
  refine or_congr (by simp) ?_
  cases hflows : flowsTo p.1.dst visit.tcpFlows with
  | nil => simp
  | cons flow flows => simp

end DohDetector

namespace Turn

variable {config : Config} {turn : Turn} {ipAddress : String} {flow : Flow}

theorem openedBy_iff (hip : truthy turn.target.ipAddress = some ipAddress) :
    OpenedBy turn.target flow ↔ flow.src = ipAddress := by
  have haddress : turn.target.ipAddress = some ipAddress := (Option.filter_eq_some_iff.mp hip).1
  rw [OpenedBy, haddress, Option.some.injEq, eq_comm]

theorem mem_inbound : flow ∈ turn.inbound ipAddress ↔
    ∃ e ∈ turn.table, e.protocol = .tcp ∧ e.original = flow ∧ flow.dst = ipAddress := by
  simp only [inbound, List.mem_map, List.mem_filter, TableEntry.matches, Bool.and_eq_true,
    decide_eq_true_eq]
  constructor
  · rintro ⟨e, ⟨he, hprotocol, hdst⟩, rfl⟩
    exact ⟨e, he, hprotocol, rfl, hdst⟩
  · rintro ⟨e, he, hprotocol, rfl, hdst⟩
    exact ⟨e, ⟨he, hprotocol, hdst⟩, rfl⟩

theorem mem_web : flow ∈ turn.web ipAddress ↔ flow ∈ turn.inbound ipAddress ∧ flow.dport = 443 := by
  simp [web]

theorem tcpFlows_eq (hlive : config.dryRun = false)
    (hip : truthy turn.target.ipAddress = some ipAddress) :
    turn.tcpFlows config =
      ((turn.table.filter (TableEntry.matches .tcp .source ipAddress)).map TableEntry.original ++
        turn.inbound ipAddress).eraseDups := by
  rw [tcpFlows, hip]
  simp only [listTcpConnections_table hlive _ (truthy_ne hip), Option.getD_some, inbound]

theorem mem_tcpFlows (hlive : config.dryRun = false)
    (hip : truthy turn.target.ipAddress = some ipAddress) :
    flow ∈ turn.tcpFlows config ↔ ∃ e ∈ turn.table, e.protocol = .tcp ∧ e.original = flow ∧
      (flow.src = ipAddress ∨ flow.dst = ipAddress) := by
  rw [tcpFlows, hip]
  exact mem_listTcpConnections hlive (truthy_ne hip)

theorem stranger_mem (hlive : config.dryRun = false)
    (hip : truthy turn.target.ipAddress = some ipAddress) (hsrc : flow.src ≠ ipAddress) :
    flow ∈ turn.tcpFlows config ↔ flow ∈ turn.inbound ipAddress := by
  simp only [mem_tcpFlows hlive hip, mem_inbound, hsrc, false_or]

theorem mem_flowsTo (hlive : config.dryRun = false)
    (hip : truthy turn.target.ipAddress = some ipAddress) :
    flow ∈ DohDetector.flowsTo ipAddress (turn.tcpFlows config) ↔
      flow ∈ turn.web ipAddress := by
  simp only [DohDetector.flowsTo, List.mem_filter, mem_tcpFlows hlive hip, mem_web, mem_inbound,
    decide_eq_true_eq]
  constructor
  · rintro ⟨⟨e, he, hprotocol, heq, -⟩, hport, hdst⟩
    exact ⟨⟨e, he, hprotocol, heq, hdst⟩, hport⟩
  · rintro ⟨⟨e, he, hprotocol, heq, hdst⟩, hport⟩
    exact ⟨⟨e, he, hprotocol, heq, Or.inr hdst⟩, hport, hdst⟩

/-- A turn records its own address once for every flow that reached it on 443. -/
theorem flowsTo_times (hlive : config.dryRun = false)
    (hip : truthy turn.target.ipAddress = some ipAddress) :
    ((DohDetector.flowsTo ipAddress (turn.tcpFlows config)).map fun _ => turn.now) =
      (turn.web ipAddress).dedup.map fun _ => turn.now := by
  have hnodup : (DohDetector.flowsTo ipAddress (turn.tcpFlows config)).Nodup := by
    rw [tcpFlows_eq hlive hip]
    exact (nodup_eraseDups _).filter _
  have hperm := (List.perm_ext_iff_of_nodup hnodup (List.nodup_dedup _)).mpr fun flow =>
    (mem_flowsTo hlive hip).trans List.mem_dedup.symm
  rw [List.map_const', List.map_const', hperm.length_eq]

/-- The first flow to the address is one of the target, if there is one. -/
theorem head_flowsTo (hlive : config.dryRun = false)
    (hip : truthy turn.target.ipAddress = some ipAddress)
    (h : (DohDetector.flowsTo ipAddress (turn.tcpFlows config)).head? = some flow) :
    flow.src = ipAddress ↔ ∃ own ∈ turn.web ipAddress, own.src = ipAddress := by
  constructor
  · intro hsrc
    exact ⟨flow, (mem_flowsTo hlive hip).mp (List.mem_of_head? h), hsrc⟩
  · rintro ⟨own, hown, hsrc⟩
    obtain ⟨hin, hport⟩ := mem_web.mp hown
    obtain ⟨e, he, hprotocol, rfl, hdst⟩ := mem_inbound.mp hin
    have hlisted : e ∈ turn.table.filter (TableEntry.matches .tcp .source ipAddress) := by
      simp [he, TableEntry.matches, hprotocol, hsrc]
    rw [tcpFlows_eq hlive hip, DohDetector.flowsTo, List.head?_filter, find_eraseDups,
      List.find?_append] at h
    cases hfind : ((turn.table.filter (TableEntry.matches .tcp .source ipAddress)).map
        TableEntry.original).find? fun flow => flow.dport = 443 ∧ flow.dst = ipAddress with
    | none =>
      have hnone := List.find?_eq_none.mp hfind e.original (List.mem_map_of_mem hlisted)
      simp [hport, hdst] at hnone
    | some first =>
      rw [hfind] at h
      obtain rfl : first = flow := Option.some.inj h
      obtain ⟨e', he', rfl⟩ := List.mem_map.mp (List.mem_of_find?_eq_some hfind)
      have hmatches := (List.mem_filter.mp he').2
      simp only [TableEntry.matches, Bool.and_eq_true, decide_eq_true_eq] at hmatches
      exact hmatches.2

end Turn

namespace DohDetector

theorem listedVerdict_iff {doh : DohConfig} {flow : Flow} : (∃ d, listedVerdict doh flow = some d) ↔
    flow.dport ∈ DOT_PORTS ∨ flow.dport = 443 ∧ matchDohIp flow.dst doh.dohReputationIps ≠ none := by
  unfold listedVerdict
  by_cases hdot : flow.dport ∈ DOT_PORTS
  · simp [hdot]
  · by_cases hport : flow.dport = 443
    · rw [if_neg hdot, if_pos hport]
      cases matchDohIp flow.dst doh.dohReputationIps with
      | none => simp [hdot]
      | some provider => simp [hport]
    · simp [hdot, hport]

theorem foreign_stem_iff {config : Config} {doh : DohConfig} {observations : Observations}
    {turn : Turn} {ipAddress : String} (hlive : config.dryRun = false)
    (hip : truthy turn.target.ipAddress = some ipAddress) :
    (∃ p ∈ flowStems doh observations (turn.visit config), p.1.src ≠ ipAddress) ↔
      Accused doh observations turn ipAddress := by
  have hactive : (turn.visit config).Active := by
    show (truthy turn.target.ipAddress).isSome = true
    rw [hip]
    rfl
  have hdst : ∀ {flow : Flow}, flow ∈ turn.inbound ipAddress → flow.dst = ipAddress := by
    intro flow hflow
    obtain ⟨e, -, -, -, hdst⟩ := Turn.mem_inbound.mp hflow
    exact hdst
  have hlisted : ∀ {flow : Flow}, flow ∈ turn.inbound ipAddress → flow.src ≠ ipAddress →
      (∃ d, listedVerdict doh flow = some d) →
      ∃ p ∈ flowStems doh observations (turn.visit config), p.1.src ≠ ipAddress := by
    rintro flow hin hsrc ⟨d, hverdict⟩
    have hmem := (Turn.stranger_mem hlive hip hsrc).mpr hin
    exact ⟨(flow, d), (mem_flowStems hactive).mpr (Or.inl ⟨hmem, hverdict⟩), hsrc⟩
  have htimes := Turn.flowsTo_times hlive hip
  constructor
  · rintro ⟨⟨flow, d⟩, hp, hsrc⟩
    rcases (mem_flowStems hactive).mp hp with ⟨hmem, hverdict⟩ | ⟨-, hhead, hverdict⟩
    · have hin := (Turn.stranger_mem hlive hip hsrc).mp hmem
      rcases listedVerdict_iff.mp ⟨d, hverdict⟩ with hdot | ⟨hport, hprovider⟩
      · exact Or.inl ⟨flow, hin, hsrc, hdot⟩
      · exact Or.inr ⟨⟨flow, Turn.mem_web.mpr ⟨hin, hport⟩, hsrc⟩, Or.inl (hdst hin ▸ hprovider)⟩
    · have hflow := List.mem_filter.mp (List.mem_of_head? hhead)
      simp only [decide_eq_true_eq] at hflow
      have hin := (Turn.stranger_mem hlive hip hsrc).mp hflow.1
      have hweb := Turn.mem_web.mpr ⟨hin, hflow.2.1⟩
      have hto : flow.dst = ipAddress := hdst hin
      simp only [hto] at hhead hverdict
      refine Or.inr ⟨⟨flow, hweb, hsrc⟩, Or.inr ⟨?_, ?_⟩⟩
      · intro own hown heq
        exact hsrc ((Turn.head_flowsTo hlive hip hhead).mpr ⟨own, hown, heq⟩)
      · rw [← htimes]
        intro hnone
        exact Option.some_ne_none d (hverdict.symm.trans hnone)
  · rintro (⟨flow, hin, hsrc, hdot⟩ | ⟨⟨flow, hweb, hsrc⟩, hprovider | ⟨hstrange, hregular⟩⟩)
    · exact hlisted hin hsrc (listedVerdict_iff.mpr (Or.inl hdot))
    · obtain ⟨hin, hport⟩ := Turn.mem_web.mp hweb
      exact hlisted hin hsrc (listedVerdict_iff.mpr (Or.inr ⟨hport, (hdst hin).symm ▸ hprovider⟩))
    · -- The first flow to the address was opened by another host, as all of them were.
      obtain ⟨d, hverdict⟩ := Option.ne_none_iff_exists'.mp hregular
      have hto := (Turn.mem_flowsTo hlive hip).mpr hweb
      obtain ⟨first, others, hflows⟩ := List.exists_cons_of_ne_nil (List.ne_nil_of_mem hto)
      have hfirst := (Turn.mem_flowsTo hlive hip).mp (hflows ▸ List.mem_cons_self : first ∈ _)
      obtain ⟨hin, hport⟩ := Turn.mem_web.mp hfirst
      by_cases hprovider : matchDohIp ipAddress doh.dohReputationIps = none
      · have hhead : (flowsTo ipAddress (turn.tcpFlows config)).head? = some first := by
          rw [hflows, List.head?_cons]
        rw [← htimes] at hverdict
        refine ⟨(first, d), (mem_flowStems hactive).mpr (Or.inr ?_), hstrange first hfirst⟩
        simp only [hdst hin]
        exact ⟨hprovider, hhead, hverdict⟩
      · exact hlisted hin (hstrange first hfirst) (listedVerdict_iff.mpr
          (Or.inr ⟨hport, (hdst hin).symm ▸ hprovider⟩))

end DohDetector

namespace VpnDetector

/-- The TCP port detections of a turn, each with its flow. -/
def portStems (config : Config) (turn : Turn) : List (Flow × Detection) :=
  (turn.tcpFlows config).flatMap fun flow => (tcpDetections flow).map fun d => (flow, d)

/-- The table holds a flow that another host opened to the address on a listed port. -/
def Accused (turn : Turn) (ipAddress : String) : Prop :=
  ∃ flow ∈ turn.inbound ipAddress, flow.src ≠ ipAddress ∧
    (matchVpnPort .tcp flow.dport ≠ none ∨ matchVpnPortDetectionOnly .tcp flow.dport ≠ none)

variable {config : Config} {turn : Turn} {ipAddress : String}

theorem detectForTarget_ports (hashes : List String) (seen : Seen)
    (h : seen.tcpFlows = turn.tcpFlows config) :
    detectForTarget hashes seen =
      (seen.udpFlows.flatMap udpDetections ++ (detectFlowAnomaly seen.udpFlows).toList) ++
        (portStems config turn).map Prod.snd ++
        (seen.queries.flatMap dnsDetections ++ seen.fingerprints.flatMap (tlsDetections hashes)) := by
  have hports : (portStems config turn).map Prod.snd = seen.tcpFlows.flatMap tcpDetections := by
    simp [portStems, List.map_flatMap, h, Function.comp_def]
  simp only [detectForTarget, hports, List.append_assoc]

theorem tcpDetections_ne_nil {flow : Flow} : tcpDetections flow ≠ [] ↔
    matchVpnPort .tcp flow.dport ≠ none ∨ matchVpnPortDetectionOnly .tcp flow.dport ≠ none := by
  unfold tcpDetections
  cases matchVpnPort .tcp flow.dport with
  | some m => simp
  | none =>
    cases matchVpnPortDetectionOnly .tcp flow.dport with
    | some m => simp
    | none => simp

theorem foreign_stem_iff (hlive : config.dryRun = false)
    (hip : truthy turn.target.ipAddress = some ipAddress) :
    (∃ p ∈ portStems config turn, p.1.src ≠ ipAddress) ↔ Accused turn ipAddress := by
  have hstem : ∀ flow, (∃ d, (flow, d) ∈ portStems config turn) ↔
      flow ∈ turn.tcpFlows config ∧ tcpDetections flow ≠ [] := by
    intro flow
    simp only [portStems, List.mem_flatMap, List.mem_map, Prod.mk.injEq]
    constructor
    · rintro ⟨d, flow, hflow, d, hd, rfl, rfl⟩
      exact ⟨hflow, List.ne_nil_of_mem hd⟩
    · rintro ⟨hflow, hne⟩
      obtain ⟨d, hd⟩ := List.exists_mem_of_ne_nil _ hne
      exact ⟨d, flow, hflow, d, hd, rfl, rfl⟩
  constructor
  · rintro ⟨⟨flow, d⟩, hp, hsrc⟩
    obtain ⟨hmem, hne⟩ := (hstem flow).mp ⟨d, hp⟩
    exact ⟨flow, (Turn.stranger_mem hlive hip hsrc).mp hmem, hsrc, tcpDetections_ne_nil.mp hne⟩
  · rintro ⟨flow, hin, hsrc, hports⟩
    have hmem := (Turn.stranger_mem hlive hip hsrc).mpr hin
    obtain ⟨d, hp⟩ := (hstem flow).mpr ⟨hmem, tcpDetections_ne_nil.mpr hports⟩
    exact ⟨(flow, d), hp, hsrc⟩

end VpnDetector

/-- A target that is skipped, and a dry run, report nothing; every other turn is attributed to the
target exactly where its table does not accuse it. -/
theorem attributed_iff {config : Config} {turn : Turn} {α : Type} {stems : List (Flow × α)}
    {accused : String → Prop} (hidle : turn.tcpFlows config = [] → stems = [])
    (hturn : ∀ ip, config.dryRun = false → truthy turn.target.ipAddress = some ip →
      ((∃ p ∈ stems, p.1.src ≠ ip) ↔ accused ip)) :
    (∀ p ∈ stems, OpenedBy turn.target p.1) ↔
      ∀ ip, config.dryRun = false → truthy turn.target.ipAddress = some ip → ¬accused ip := by
  constructor
  · intro h ip hlive hip haccused
    obtain ⟨p, hp, hsrc⟩ := (hturn ip hlive hip).mpr haccused
    exact hsrc ((Turn.openedBy_iff hip).mp (h p hp))
  · intro h p hp
    cases hip : truthy turn.target.ipAddress with
    | none =>
      have hnil : turn.tcpFlows config = [] := by rw [Turn.tcpFlows, hip]
      rw [hidle hnil] at hp
      cases hp
    | some ip =>
      cases hlive : config.dryRun with
      | true =>
        have hnil : turn.tcpFlows config = [] := by
          rw [Turn.tcpFlows, hip]
          simp only [listTcpConnections_value config _ (truthy_ne hip), listed_dryRun hlive]
          rfl
        rw [hidle hnil] at hp
        cases hp
      | false =>
        rw [Turn.openedBy_iff hip]
        by_contra hsrc
        exact h ip hlive hip ((hturn ip hlive hip).mp ⟨p, hp, hsrc⟩)

/-- In every cycle, the detections for flows stem from flows of their targets exactly where no turn's
table accuses its target: the listing for the kill gives what came in as well. -/
theorem detections_own_flows_iff (config : Config) (doh : DohConfig)
    (observations : DohDetector.Observations) (turns vpnTurns : List Turn) :
    ((∀ start ∈ DohDetector.starts config doh observations turns,
        ∀ p ∈ DohDetector.flowStems doh start.1 (start.2.visit config), OpenedBy start.2.target p.1) ∧
      ∀ turn ∈ vpnTurns, ∀ p ∈ VpnDetector.portStems config turn, OpenedBy turn.target p.1) ↔
    (∀ start ∈ DohDetector.starts config doh observations turns, ∀ ip, config.dryRun = false →
        truthy start.2.target.ipAddress = some ip → ¬DohDetector.Accused doh start.1 start.2 ip) ∧
      ∀ turn ∈ vpnTurns, ∀ ip, config.dryRun = false → truthy turn.target.ipAddress = some ip →
        ¬VpnDetector.Accused turn ip := by
  refine and_congr ?_ ?_
  · refine forall₂_congr fun start _ => attributed_iff ?_ ?_
    · intro hnil
      have hflows : (start.2.visit config).tcpFlows = [] := hnil
      rw [DohDetector.flowStems, hflows]
      exact ite_self _
    · exact fun ip hlive hip => DohDetector.foreign_stem_iff hlive hip
  · refine forall₂_congr fun turn _ => attributed_iff ?_ ?_
    · intro hnil
      rw [VpnDetector.portStems, hnil, List.flatMap_nil]
    · exact fun ip hlive hip => VpnDetector.foreign_stem_iff hlive hip

/-- A host of the network connects to a service of the blocked device. -/
def serverEntry (dport : Nat) : TableEntry where
  protocol := .tcp
  state := "6 431999 ESTABLISHED".toList
  original := ⟨"192.168.1.77", "192.168.1.50", 50000, dport⟩
  rest := "src=192.168.1.50 dst=192.168.1.77 [ASSURED]".toList
  state_plain := by simp
  src_address := by simp [IsAddress, digitOf]
  dst_address := by simp [IsAddress, digitOf]
  rest_line := by simp

/-- The device that runs a DoT server and a web proxy is reported for using them. -/
theorem detections_own_flows_served :
    let turn : Turn := ⟨blockedDevice, [serverEntry 853, serverEntry 8080], 0, []⟩
    let seen : VpnDetector.Seen := ⟨[], turn.tcpFlows sampleConfig, [], []⟩
    (∀ e ∈ turn.table, some e.original.src ≠ blockedDevice.ipAddress) ∧
    (DohDetector.sync ⟨[], []⟩ .empty [turn.visit sampleConfig]).2 =
      [⟨"dev-1", ⟨"conntrack-port-853", "DoT", "853", 95⟩⟩] ∧
    (VpnDetector.sync [] [(blockedDevice, seen)]).map VpnDetector.ReportRow.detection =
      [⟨"port-signature-low-confidence", "HTTP/HTTPS proxy", "8080", none, 20⟩] := by
  intro turn seen
  have hflows : turn.tcpFlows sampleConfig =
      [⟨"192.168.1.77", "192.168.1.50", 50000, 853⟩,
        ⟨"192.168.1.77", "192.168.1.50", 50000, 8080⟩] := by
    rw [Turn.tcpFlows_eq rfl rfl]
    decide +kernel
  refine ⟨by simp [turn, serverEntry, blockedDevice], ?_, ?_⟩
  · simp only [Turn.visit, hflows]
    decide +kernel
  · simp only [seen, hflows]
    decide +kernel

end GuardTime
