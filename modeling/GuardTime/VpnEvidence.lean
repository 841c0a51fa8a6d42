import GuardTime.VpnDetector
import Mathlib.Data.List.Dedup

namespace GuardTime

namespace VpnDetector

open NoisyOr

def signals (hashes : List String) (seen : Seen) : List Signal :=
  (detectForTarget hashes seen).map Detection.signal

/-- The `overallConfidence` that a report's rows carry. -/
def reportedConfidence (rows : List ReportRow) : Option ℤ :=
  rows.head?.map ReportRow.overallConfidence

/-- The weights of the signals, each as often as it fired. -/
def firedWeights (hashes : List String) (seen : Seen) : List Nat :=
  (detectForTarget hashes seen).map Detection.confidence

/-- So little is missed that the score is full. -/
def NearlyNoneMissed (hashes : List String) (seen : Seen) : Prop :=
  Doubles.missProbability (firedWeights hashes seen) < Doubles.fullBelow

/-- The same signals fired, however often and in whichever order. -/
def SameSignals (hashes : List String) (seen other : Seen) : Prop :=
  ∀ s, s ∈ signals hashes other ↔ s ∈ signals hashes seen

/-- Further flows to the destinations and ports in the list. -/
def MoreFlows (flows more : List Flow) : Prop :=
  flows.Sublist more ∧ ∀ f ∈ more, ∃ g ∈ flows, g.dst = f.dst ∧ g.dport = f.dport

/-- The same cycle with more flows to the destinations and ports it has, per protocol. -/
structure MoreTraffic (seen more : Seen) : Prop where
  udpFlows : MoreFlows seen.udpFlows more.udpFlows
  tcpFlows : MoreFlows seen.tcpFlows more.tcpFlows
  queries : more.queries = seen.queries
  fingerprints : more.fingerprints = seen.fingerprints

/-- No flow is a signal on its own: neither its address nor its port is listed. -/
def QuietFlows (seen : Seen) : Prop :=
  (∀ f ∈ seen.udpFlows, matchVpnIp f.dst = none ∧ matchVpnPort .udp f.dport = none) ∧
  ∀ f ∈ seen.tcpFlows,
    matchVpnPort .tcp f.dport = none ∧ matchVpnPortDetectionOnly .tcp f.dport = none

/-- The weight of the signature with this provider and port. -/
def weightIn (signatures : List VpnPortSignature) (provider port : String) : Nat :=
  ((signatures.find? fun sig => sig.provider = provider && toString sig.port = port).map
    VpnPortSignature.weight).getD 0

/-- What the signature tables and sniffs say of a signal. -/
def Signal.detection (s : Signal) : Detection :=
  let confidence :=
    if s.method = "ip-range" then ((matchVpnIp s.detail).map VpnMatch.weight).getD 0
    else if s.method = "port-signature" then weightIn VPN_PORT_SIGNATURES s.provider s.detail
    else if s.method = "port-signature-low-confidence" then
      weightIn VPN_DETECTION_ONLY_PORT_SIGNATURES s.provider s.detail
    else if s.method = "dns-pattern" then ((matchVpnDomain s.detail).map VpnMatch.weight).getD 0
    else if s.method = "flow-heuristic" then FLOW_HEURISTIC_WEIGHT
    else 90
  ⟨s.method, s.provider, s.detail,
    if s.method = "flow-heuristic" then some FLOW_HEURISTIC_WEIGHT else none, confidence⟩

/-- A signature table names every pair of provider and port once, with a weight in between. -/
def Listed (signatures : List VpnPortSignature) : Prop :=
  ∀ sig ∈ signatures, (20 ≤ sig.weight ∧ sig.weight ≤ 90) ∧
    weightIn signatures sig.provider (toString sig.port) = sig.weight

theorem listed_of_all {signatures : List VpnPortSignature}
    (h : (signatures.all fun sig => decide ((20 ≤ sig.weight ∧ sig.weight ≤ 90) ∧
      weightIn signatures sig.provider (toString sig.port) = sig.weight)) = true) :
    Listed signatures :=
  fun sig hsig => of_decide_eq_true (List.all_eq_true.mp h sig hsig)

theorem listed_ports : Listed VPN_PORT_SIGNATURES := listed_of_all (by decide +kernel)

theorem listed_detectionOnly : Listed VPN_DETECTION_ONLY_PORT_SIGNATURES :=
  listed_of_all (by decide +kernel)

theorem matchSignature_listed {signatures : List VpnPortSignature} (hl : Listed signatures)
    {protocol : Protocol} {port : Nat} {m : VpnMatch}
    (h : matchSignature signatures protocol port = some m) :
    (20 ≤ m.weight ∧ m.weight ≤ 90) ∧
      weightIn signatures m.provider (toString port) = m.weight := by
  obtain ⟨sig, hfind, rfl⟩ := Option.map_eq_some_iff.mp h
  have hport : sig.port = port := by
    have hsome := List.find?_some hfind
    simp only [Bool.and_eq_true, decide_eq_true_eq] at hsome
    exact hsome.2
  have hlisted := hl sig (List.mem_of_find?_eq_some hfind)
  rwa [hport] at hlisted

theorem matchVpnIp_weight {ip : String} {m : VpnMatch} (h : matchVpnIp ip = some m) :
    20 ≤ m.weight ∧ m.weight ≤ 90 := by
  unfold matchVpnIp at h
  split at h
  next => cases h
  next =>
    obtain ⟨range, hfind, rfl⟩ := Option.map_eq_some_iff.mp h
    have hall : ∀ range ∈ VPN_IP_RANGES, 20 ≤ range.weight ∧ range.weight ≤ 90 := by
      simp [VPN_IP_RANGES]
    exact hall range (List.mem_of_find?_eq_some hfind)

theorem matchVpnDomain_weight {domain : String} {m : VpnMatch}
    (h : matchVpnDomain domain = some m) : 20 ≤ m.weight ∧ m.weight ≤ 90 := by
  unfold matchVpnDomain at h
  split at h
  next => cases h
  next =>
    obtain ⟨pattern, hfind, rfl⟩ := Option.map_eq_some_iff.mp h
    have hall : ∀ pattern ∈ VPN_DNS_PATTERNS, 20 ≤ pattern.weight ∧ pattern.weight ≤ 90 := by
      simp [VPN_DNS_PATTERNS]
    exact hall pattern (List.mem_of_find?_eq_some hfind)

/-- A detection is what its signal stands for, and counts something but not everything. -/
def Detection.Sound (d : Detection) : Prop :=
  d = d.signal.detection ∧ 20 ≤ d.confidence ∧ d.confidence ≤ 90

theorem udpDetections_sound {flow : Flow} {d : Detection} (h : d ∈ udpDetections flow) :
    d.Sound := by
  rcases List.mem_append.mp h with h | h
  · obtain ⟨m, hm, rfl⟩ := Option.map_eq_some_iff.mp (Option.mem_toList.mp h)
    exact ⟨by simp [Detection.signal, Signal.detection, hm], matchVpnIp_weight hm⟩
  · obtain ⟨m, hm, rfl⟩ := Option.map_eq_some_iff.mp (Option.mem_toList.mp h)
    obtain ⟨hweight, hin⟩ := matchSignature_listed listed_ports hm
    exact ⟨by simp [Detection.signal, Signal.detection, ← hin], hweight⟩

theorem tcpDetections_sound {flow : Flow} {d : Detection} (h : d ∈ tcpDetections flow) :
    d.Sound := by
  unfold tcpDetections at h
  split at h
  next m hm =>
    obtain rfl := List.mem_singleton.mp h
    obtain ⟨hweight, hin⟩ := matchSignature_listed listed_ports hm
    exact ⟨by simp [Detection.signal, Signal.detection, ← hin], hweight⟩
  next =>
    obtain ⟨m, hm, rfl⟩ := Option.map_eq_some_iff.mp (Option.mem_toList.mp h)
    obtain ⟨hweight, hin⟩ := matchSignature_listed listed_detectionOnly hm
    exact ⟨by simp [Detection.signal, Signal.detection, ← hin], hweight⟩

theorem dnsDetections_sound {domain : String} {d : Detection} (h : d ∈ dnsDetections domain) :
    d.Sound := by
  obtain ⟨m, hm, rfl⟩ := Option.map_eq_some_iff.mp (Option.mem_toList.mp h)
  exact ⟨by simp [Detection.signal, Signal.detection, hm], matchVpnDomain_weight hm⟩

theorem tlsDetections_sound {hashes : List String} {fp : String} {d : Detection}
    (h : d ∈ tlsDetections hashes fp) : d.Sound := by
  unfold tlsDetections at h
  split at h
  next =>
    obtain rfl := List.mem_singleton.mp h
    exact ⟨by simp [Detection.signal, Signal.detection], by simp⟩
  next => cases h

theorem detectFlowAnomaly_sound {flows : List Flow} {d : Detection}
    (h : detectFlowAnomaly flows = some d) : d.Sound := by
  obtain ⟨e, -, rfl⟩ := Option.map_eq_some_iff.mp h
  exact ⟨by simp [Detection.signal, Signal.detection], by simp [FLOW_HEURISTIC_WEIGHT]⟩

theorem mem_detectForTarget {hashes : List String} {seen : Seen} {d : Detection} :
    d ∈ detectForTarget hashes seen ↔ (∃ f ∈ seen.udpFlows, d ∈ udpDetections f) ∨
      detectFlowAnomaly seen.udpFlows = some d ∨ (∃ f ∈ seen.tcpFlows, d ∈ tcpDetections f) ∨
      (∃ domain ∈ seen.queries, d ∈ dnsDetections domain) ∨
      ∃ fp ∈ seen.fingerprints, d ∈ tlsDetections hashes fp := by
  simp only [detectForTarget, List.mem_append, List.mem_flatMap, Option.mem_toList, or_assoc]

theorem detectForTarget_sound {hashes : List String} {seen : Seen} {d : Detection}
    (h : d ∈ detectForTarget hashes seen) : d.Sound := by
  rcases mem_detectForTarget.mp h with ⟨_, -, h⟩ | h | ⟨_, -, h⟩ | ⟨_, -, h⟩ | ⟨_, -, h⟩
  · exact udpDetections_sound h
  · exact detectFlowAnomaly_sound h
  · exact tcpDetections_sound h
  · exact dnsDetections_sound h
  · exact tlsDetections_sound h

/-- The peers collected for a port that is not common. -/
def PeersOf (udpFlows : List Flow) (port : Nat) (peers : List String) : Prop :=
  peers.Nodup ∧ ∀ dst, dst ∈ peers ↔ ∃ f ∈ udpFlows, f.dport = port ∧ f.dst = dst

theorem mem_addPeer {peers : List String} {dst other : String} :
    other ∈ addPeer peers dst ↔ other ∈ peers ∨ other = dst := by
  unfold addPeer
  split
  next h =>
    refine ⟨Or.inl, ?_⟩
    intro ho
    rcases ho with ho | rfl
    · exact ho
    · exact h
  next => simp

theorem addPeer_nodup {peers : List String} (h : peers.Nodup) (dst : String) :
    (addPeer peers dst).Nodup := by
  unfold addPeer
  split
  next => exact h
  next hn =>
    refine List.nodup_append.mpr ⟨h, List.nodup_singleton dst, ?_⟩
    intro a ha b hb hab
    exact hn (List.mem_singleton.mp hb ▸ hab ▸ ha)

theorem peersByPort_append (udpFlows : List Flow) (flow : Flow) :
    peersByPort (udpFlows ++ [flow]) =
      if flow.dport ∈ COMMON_MULTI_DEST_UDP_PORTS then peersByPort udpFlows
      else (peersByPort udpFlows).set flow.dport
        (addPeer (((peersByPort udpFlows).get flow.dport).getD []) flow.dst) := by
  simp only [peersByPort, List.foldl_append, List.foldl_cons, List.foldl_nil]

theorem peersByPort_common (udpFlows : List Flow) {port : Nat}
    (hp : port ∈ COMMON_MULTI_DEST_UDP_PORTS) : (peersByPort udpFlows).get port = none := by
  induction udpFlows using List.reverseRecOn with
  | nil => rfl
  | append_singleton udpFlows flow ih =>
    rw [peersByPort_append]
    split
    next => exact ih
    next hc => rw [OrderedMap.get_set_of_ne _ (fun he : port = flow.dport => hc (he ▸ hp)), ih]

theorem peersByPort_peers (udpFlows : List Flow) {port : Nat}
    (hp : port ∉ COMMON_MULTI_DEST_UDP_PORTS) :
    PeersOf udpFlows port (((peersByPort udpFlows).get port).getD []) := by
  induction udpFlows using List.reverseRecOn with
  | nil => exact ⟨List.nodup_nil, by simp [peersByPort]⟩
  | append_singleton udpFlows flow ih =>
    obtain ⟨hnodup, hpeers⟩ := ih
    rw [peersByPort_append]
    by_cases he : flow.dport = port
    · subst he
      rw [if_neg hp, OrderedMap.get_set_self, Option.getD_some]
      refine ⟨addPeer_nodup hnodup _, fun dst => ?_⟩
      rw [mem_addPeer, hpeers]
      simp [or_and_right, exists_or, eq_comm]
    · have hget : (peersByPort (udpFlows ++ [flow])).get port = (peersByPort udpFlows).get port := by
        rw [peersByPort_append]
        split
        next => rfl
        next => rw [OrderedMap.get_set_of_ne _ (Ne.symm he)]
      rw [← peersByPort_append, hget]
      refine ⟨hnodup, fun dst => ?_⟩
      rw [hpeers]
      simp [or_and_right, exists_or, he]

theorem detectFlowAnomaly_isSome {udpFlows : List Flow} :
    (detectFlowAnomaly udpFlows).isSome ↔
      ∃ port, port ∉ COMMON_MULTI_DEST_UDP_PORTS ∧
        ∃ peers, PeersOf udpFlows port peers ∧ FLOW_HEURISTIC_MIN_PEERS ≤ peers.length := by
  rw [detectFlowAnomaly, Option.isSome_map, List.find?_isSome]
  simp only [decide_eq_true_eq]
  refine ⟨?_, ?_⟩
  · intro h
    obtain ⟨⟨port, peers⟩, hmem, hlen⟩ := h
    have hget := OrderedMap.mem_entries.mp hmem
    have hp : port ∉ COMMON_MULTI_DEST_UDP_PORTS := by
      intro hp
      rw [peersByPort_common udpFlows hp] at hget
      cases hget
    have hpeers := peersByPort_peers udpFlows hp
    rw [hget] at hpeers
    exact ⟨port, hp, peers, hpeers, hlen⟩
  · intro h
    obtain ⟨port, hp, peers, hpeers, hlen⟩ := h
    have hown := peersByPort_peers udpFlows hp
    have hperm : peers.Perm (((peersByPort udpFlows).get port).getD []) :=
      (List.perm_ext_iff_of_nodup hpeers.1 hown.1).mpr fun dst => by rw [hpeers.2, hown.2]
    cases hget : (peersByPort udpFlows).get port with
    | none =>
      rw [hget] at hperm
      rw [hperm.length_eq] at hlen
      exact absurd hlen (by decide)
    | some own =>
      rw [hget] at hperm
      exact ⟨(port, own), OrderedMap.mem_entries.mpr hget, hperm.length_eq ▸ hlen⟩

theorem MoreFlows.same_peers {flows more : List Flow} (h : MoreFlows flows more) (port : Nat)
    (peers : List String) : PeersOf more port peers ↔ PeersOf flows port peers := by
  have hsame : ∀ dst, (∃ f ∈ more, f.dport = port ∧ f.dst = dst) ↔
      ∃ f ∈ flows, f.dport = port ∧ f.dst = dst := by
    intro dst
    refine ⟨?_, ?_⟩
    · intro hf
      obtain ⟨f, hf, hport, hdst⟩ := hf
      obtain ⟨g, hg, hgdst, hgport⟩ := h.2 f hf
      exact ⟨g, hg, hgport.trans hport, hgdst.trans hdst⟩
    · intro hf
      obtain ⟨f, hf, hfields⟩ := hf
      exact ⟨f, h.1.subset hf, hfields⟩
  simp only [PeersOf, hsame]

/-- More flows to the same destinations and ports make no new anomaly and hide none. -/
theorem MoreFlows.same_anomaly {flows more : List Flow} (h : MoreFlows flows more) :
    (detectFlowAnomaly more).isSome = (detectFlowAnomaly flows).isSome := by
  rw [Bool.eq_iff_iff, detectFlowAnomaly_isSome, detectFlowAnomaly_isSome]
  simp only [h.same_peers]

theorem firedWeights_bounds (hashes : List String) (seen : Seen) :
    ∀ w ∈ firedWeights hashes seen, 20 ≤ w ∧ w ≤ 100 := by
  intro w hw
  obtain ⟨d, hd, rfl⟩ := List.mem_map.mp hw
  have hsound := detectForTarget_sound hd
  exact ⟨hsound.2.1, hsound.2.2.trans (by decide)⟩

theorem firedWeights_percentages (hashes : List String) (seen : Seen) :
    Percentages (firedWeights hashes seen) := fun w hw => (firedWeights_bounds hashes seen w hw).2

theorem detectFlowAnomaly_weights (udpFlows : List Flow) :
    (detectFlowAnomaly udpFlows).toList.map Detection.confidence =
      if (detectFlowAnomaly udpFlows).isSome then [FLOW_HEURISTIC_WEIGHT] else [] := by
  cases h : detectFlowAnomaly udpFlows with
  | none => rfl
  | some d =>
    obtain ⟨e, -, rfl⟩ := Option.map_eq_some_iff.mp h
    rfl

theorem udpDetections_congr {f g : Flow} (hdst : g.dst = f.dst) (hport : g.dport = f.dport) :
    udpDetections f = udpDetections g := by
  rw [udpDetections, udpDetections, hdst, hport]

theorem tcpDetections_congr {f g : Flow} (hport : g.dport = f.dport) :
    tcpDetections f = tcpDetections g := by
  rw [tcpDetections, tcpDetections, hport]

theorem udpDetections_eq_nil {f : Flow} :
    udpDetections f = [] ↔ matchVpnIp f.dst = none ∧ matchVpnPort .udp f.dport = none := by
  simp [udpDetections]

theorem tcpDetections_eq_nil {f : Flow} :
    tcpDetections f = [] ↔
      matchVpnPort .tcp f.dport = none ∧ matchVpnPortDetectionOnly .tcp f.dport = none := by
  unfold tcpDetections
  split
  next h => simp [h]
  next h => simp [h]

theorem quietFlows_iff {seen : Seen} :
    QuietFlows seen ↔ (∀ f ∈ seen.udpFlows, udpDetections f = []) ∧
      ∀ f ∈ seen.tcpFlows, tcpDetections f = [] := by
  simp only [QuietFlows, udpDetections_eq_nil, tcpDetections_eq_nil]

theorem MoreFlows.detections_nil {flows more : List Flow} (h : MoreFlows flows more)
    {detections : Flow → List Detection}
    (hc : ∀ f g, g.dst = f.dst → g.dport = f.dport → detections f = detections g) :
    (∀ f ∈ more, detections f = []) ↔ ∀ f ∈ flows, detections f = [] := by
  refine ⟨fun hm f hf => hm f (h.1.subset hf), ?_⟩
  intro hq f hf
  obtain ⟨g, hg, hdst, hport⟩ := h.2 f hf
  rw [hc f g hdst hport]
  exact hq g hg

theorem detectForTarget_eq_nil {hashes : List String} {seen : Seen} :
    detectForTarget hashes seen = [] ↔
      (∀ f ∈ seen.udpFlows, udpDetections f = []) ∧ (detectFlowAnomaly seen.udpFlows).isSome = false ∧
      (∀ f ∈ seen.tcpFlows, tcpDetections f = []) ∧
      (∀ domain ∈ seen.queries, dnsDetections domain = []) ∧
      ∀ fp ∈ seen.fingerprints, tlsDetections hashes fp = [] := by
  simp [detectForTarget]

theorem MoreTraffic.detections_nil {hashes : List String} {seen more : Seen}
    (h : MoreTraffic seen more) :
    detectForTarget hashes more = [] ↔ detectForTarget hashes seen = [] := by
  rw [detectForTarget_eq_nil, detectForTarget_eq_nil, h.udpFlows.same_anomaly, h.queries,
    h.fingerprints, h.udpFlows.detections_nil fun _ _ hd hp => udpDetections_congr hd hp,
    h.tcpFlows.detections_nil fun _ _ _ hp => tcpDetections_congr hp]

theorem reportedConfidence_none {hashes : List String} {target : Target} {seen : Seen}
    (h : truthy target.ipAddress = none ∨ detectForTarget hashes seen = []) :
    reportedConfidence (targetReport hashes target seen) = none := by
  rcases h with h | h
  · simp [targetReport, h, reportedConfidence]
  · simp [targetReport, h, reportedConfidence]

theorem reportedConfidence_some {hashes : List String} {target : Target} {seen : Seen}
    (hip : (truthy target.ipAddress).isSome) (hne : detectForTarget hashes seen ≠ []) :
    reportedConfidence (targetReport hashes target seen) =
      some (Doubles.computeConfidence (firedWeights hashes seen)) := by
  obtain ⟨ip, hip⟩ := Option.isSome_iff_exists.mp hip
  obtain ⟨d, ds, hds⟩ := List.exists_cons_of_ne_nil hne
  simp [targetReport, hip, hds, reportedConfidence, firedWeights]

theorem reportedConfidence_row {hashes : List String} {target : Target} {seen : Seen}
    {row : ReportRow} (h : row ∈ targetReport hashes target seen) :
    reportedConfidence (targetReport hashes target seen) = some row.overallConfidence := by
  have hcases := h
  simp only [targetReport] at hcases
  split at hcases
  next => cases hcases
  next hip =>
    split at hcases
    next => cases hcases
    next hne =>
      obtain ⟨d, -, rfl⟩ := List.mem_map.mp hcases
      have hsome := Option.isSome_iff_ne_none.mpr fun hnone => hip (Option.isNone_iff_eq_none.mpr hnone)
      rw [reportedConfidence_some hsome (fun hnil => hne (by rw [hnil]; rfl))]
      rfl

theorem reportedConfidence_congr {hashes : List String} {target : Target} {seen other : Seen}
    (hnil : detectForTarget hashes other = [] ↔ detectForTarget hashes seen = [])
    (hweights : Doubles.computeConfidence (firedWeights hashes other) =
      Doubles.computeConfidence (firedWeights hashes seen)) :
    reportedConfidence (targetReport hashes target other) =
      reportedConfidence (targetReport hashes target seen) := by
  cases hip : truthy target.ipAddress with
  | none => rw [reportedConfidence_none (Or.inl hip), reportedConfidence_none (Or.inl hip)]
  | some ip =>
    have hsome : (truthy target.ipAddress).isSome := by rw [hip]; rfl
    by_cases hd : detectForTarget hashes seen = []
    · rw [reportedConfidence_none (Or.inr hd), reportedConfidence_none (Or.inr (hnil.mpr hd))]
    · rw [reportedConfidence_some hsome hd, reportedConfidence_some hsome (mt hnil.mp hd), hweights]

theorem signals_detection (hashes : List String) (seen : Seen) :
    (signals hashes seen).map Signal.detection = detectForTarget hashes seen := by
  have hid : ∀ d ∈ detectForTarget hashes seen, (Signal.detection ∘ Detection.signal) d = id d :=
    fun d hd => (detectForTarget_sound hd).1.symm
  rw [signals, List.map_map, List.map_congr_left hid, List.map_id]

theorem mem_signals {hashes : List String} {seen : Seen} {s : Signal} :
    s ∈ signals hashes seen ↔ ∃ d ∈ detectForTarget hashes seen, d.signal = s := List.mem_map

theorem SameSignals.detections_nil {hashes : List String} {seen other : Seen}
    (h : SameSignals hashes seen other) :
    detectForTarget hashes other = [] ↔ detectForTarget hashes seen = [] := by
  rw [← List.map_eq_nil_iff (f := Detection.signal), ← List.map_eq_nil_iff (f := Detection.signal),
    List.eq_nil_iff_forall_not_mem, List.eq_nil_iff_forall_not_mem]
  exact forall_congr' fun s => not_congr (h s)

theorem reportedConfidence_of_signals {hashes : List String} {target : Target}
    {seen other : Seen} (hs : (signals hashes seen).Nodup) (ho : (signals hashes other).Nodup)
    (hsame : SameSignals hashes seen other) (hsettled : Doubles.Settled (firedWeights hashes seen)) :
    reportedConfidence (targetReport hashes target other) =
      reportedConfidence (targetReport hashes target seen) := by
  have hperm : (signals hashes other).Perm (signals hashes seen) :=
    (List.perm_ext_iff_of_nodup ho hs).mpr hsame
  have hall := hperm.map Signal.detection
  rw [signals_detection, signals_detection] at hall
  have hweights : (firedWeights hashes other).Perm (firedWeights hashes seen) := hall.map _
  refine reportedConfidence_congr hsame.detections_nil ?_
  rw [Doubles.computeConfidence_settled (firedWeights_bounds hashes seen) hsettled,
    Doubles.computeConfidence_settled (firedWeights_bounds hashes other)
      (hsettled.of_perm hweights.symm), computeConfidence_perm hweights]

theorem nearlyNoneMissed_iff {hashes : List String} {target : Target} {seen : Seen}
    (hip : (truthy target.ipAddress).isSome) :
    NearlyNoneMissed hashes seen ↔
      reportedConfidence (targetReport hashes target seen) = some 100 := by
  rw [NearlyNoneMissed, ← Doubles.computeConfidence_full (firedWeights_percentages hashes seen)]
  by_cases hnil : detectForTarget hashes seen = []
  · rw [reportedConfidence_none (Or.inr hnil), firedWeights, hnil]
    simp [Doubles.computeConfidence]
  · rw [reportedConfidence_some hip hnil, Option.some.injEq]

theorem MoreTraffic.firedWeights_sublist (hashes : List String) {seen more : Seen}
    (h : MoreTraffic seen more) :
    (firedWeights hashes seen).Sublist (firedWeights hashes more) := by
  have hanomaly : (detectFlowAnomaly more.udpFlows).toList.map Detection.confidence =
      (detectFlowAnomaly seen.udpFlows).toList.map Detection.confidence := by
    rw [detectFlowAnomaly_weights, detectFlowAnomaly_weights, h.udpFlows.same_anomaly]
  simp only [firedWeights, detectForTarget, List.map_append, hanomaly, h.queries, h.fingerprints]
  have hudp := (h.udpFlows.1.flatMap udpDetections).map Detection.confidence
  have htcp := (h.tcpFlows.1.flatMap tcpDetections).map Detection.confidence
  exact (((hudp.append_right _).append htcp).append_right _).append_right _

theorem MoreTraffic.firedWeights_quiet (hashes : List String) {seen more : Seen}
    (h : MoreTraffic seen more) (hquiet : QuietFlows seen) :
    firedWeights hashes more = firedWeights hashes seen := by
  have hanomaly : (detectFlowAnomaly more.udpFlows).toList.map Detection.confidence =
      (detectFlowAnomaly seen.udpFlows).toList.map Detection.confidence := by
    rw [detectFlowAnomaly_weights, detectFlowAnomaly_weights, h.udpFlows.same_anomaly]
  obtain ⟨hudp, htcp⟩ := quietFlows_iff.mp hquiet
  have hudp' := (h.udpFlows.detections_nil fun _ _ hd hp => udpDetections_congr hd hp).mpr hudp
  have htcp' := (h.tcpFlows.detections_nil fun _ _ _ hp => tcpDetections_congr hp).mpr htcp
  simp only [firedWeights, detectForTarget, List.map_append, hanomaly, h.queries, h.fingerprints,
    List.flatMap_eq_nil_iff.mpr hudp, List.flatMap_eq_nil_iff.mpr hudp',
    List.flatMap_eq_nil_iff.mpr htcp, List.flatMap_eq_nil_iff.mpr htcp']

theorem MoreTraffic.refl (seen : Seen) : MoreTraffic seen seen :=
  ⟨⟨List.Sublist.refl _, fun f hf => ⟨f, hf, rfl, rfl⟩⟩,
    ⟨List.Sublist.refl _, fun f hf => ⟨f, hf, rfl, rfl⟩⟩, rfl, rfl⟩

theorem moreFlows_replicate {flows : List Flow} {f : Flow} (hf : f ∈ flows) (n : ℕ) :
    MoreFlows flows (flows ++ List.replicate n f) := by
  refine ⟨List.sublist_append_left _ _, fun g hg => ?_⟩
  rcases List.mem_append.mp hg with hg | hg
  · exact ⟨g, hg, rfl, rfl⟩
  · rw [List.eq_of_mem_replicate hg]
    exact ⟨f, hf, rfl, rfl⟩

theorem moreTraffic_udp {seen : Seen} {f : Flow} (hf : f ∈ seen.udpFlows) (n : ℕ) :
    MoreTraffic seen { seen with udpFlows := seen.udpFlows ++ List.replicate n f } :=
  ⟨moreFlows_replicate hf n, (MoreTraffic.refl seen).tcpFlows, rfl, rfl⟩

theorem moreTraffic_tcp {seen : Seen} {f : Flow} (hf : f ∈ seen.tcpFlows) (n : ℕ) :
    MoreTraffic seen { seen with tcpFlows := seen.tcpFlows ++ List.replicate n f } :=
  ⟨(MoreTraffic.refl seen).udpFlows, moreFlows_replicate hf n, rfl, rfl⟩

theorem replicate_sublist {α : Type} (detections : α → List Detection) {x : α} {d : Detection}
    (hd : d ∈ detections x) (xs : List α) (n : ℕ) :
    (List.replicate n d).Sublist ((xs ++ List.replicate n x).flatMap detections) := by
  rw [List.flatMap_append]
  refine List.Sublist.trans ?_ (List.sublist_append_right _ _)
  induction n with
  | zero => exact List.nil_sublist _
  | succ n ih =>
    rw [List.replicate_succ, List.replicate_succ, List.flatMap_cons, ← List.singleton_append]
    exact (List.singleton_sublist.mpr hd).append ih

theorem mem_flatMap_replicate {α : Type} (detections : α → List Detection) {x : α} {xs : List α}
    (hx : x ∈ xs) (n : ℕ) (d : Detection) :
    d ∈ (xs ++ List.replicate n x).flatMap detections ↔ d ∈ xs.flatMap detections := by
  simp only [List.mem_flatMap, List.mem_append]
  refine ⟨?_, fun ⟨y, hy, hd⟩ => ⟨y, Or.inl hy, hd⟩⟩
  rintro ⟨y, hy | hy, hd⟩
  · exact ⟨y, hy, hd⟩
  · exact ⟨x, hx, List.eq_of_mem_replicate hy ▸ hd⟩

/-- A flow that is listed again finds its port and its peer already there. -/
theorem peersByPort_replicate {udpFlows : List Flow} {f : Flow} (hf : f ∈ udpFlows) (n : ℕ) :
    peersByPort (udpFlows ++ List.replicate n f) = peersByPort udpFlows := by
  induction n with
  | zero => rw [List.replicate_zero, List.append_nil]
  | succ n ih =>
    rw [List.replicate_succ', ← List.append_assoc, peersByPort_append, ih]
    split
    next => rfl
    next hport =>
      have hpeers := peersByPort_peers udpFlows hport
      have hmem : f.dst ∈ ((peersByPort udpFlows).get f.dport).getD [] :=
        (hpeers.2 f.dst).mpr ⟨f, hf, rfl, rfl⟩
      rw [addPeer, if_pos hmem]
      cases hget : (peersByPort udpFlows).get f.dport with
      | none =>
        rw [hget] at hmem
        cases hmem
      | some peers => exact OrderedMap.set_same hget

/-- The same detections, one of them so often that nearly nothing is missed. -/
structure Repeated (hashes : List String) (seen more : Seen) (d : Detection) : Prop where
  same : ∀ d', d' ∈ detectForTarget hashes more ↔ d' ∈ detectForTarget hashes seen
  often : (List.replicate 32 d).Sublist (detectForTarget hashes more)

theorem Repeated.sameSignals {hashes : List String} {seen more : Seen} {d : Detection}
    (h : Repeated hashes seen more d) : SameSignals hashes seen more := by
  intro s
  rw [mem_signals, mem_signals]
  simp only [h.same]

theorem Repeated.nearlyNoneMissed {hashes : List String} {seen more : Seen} {d : Detection}
    (h : Repeated hashes seen more d) (hsound : d.Sound) : NearlyNoneMissed hashes more := by
  have hoften := h.often.map Detection.confidence
  rw [List.map_replicate] at hoften
  exact (Doubles.missProbability_anti hoften (firedWeights_percentages hashes more)).trans_lt
    (Doubles.missProbability_repeated hsound.2.1 (hsound.2.2.trans (by decide)))

theorem repeated_udp (hashes : List String) {seen : Seen} {f : Flow} (hf : f ∈ seen.udpFlows)
    {d : Detection} (hd : d ∈ udpDetections f) :
    Repeated hashes seen { seen with udpFlows := seen.udpFlows ++ List.replicate 32 f } d := by
  refine ⟨fun d' => ?_, ?_⟩
  · simp only [detectForTarget, List.mem_append, mem_flatMap_replicate udpDetections hf,
      detectFlowAnomaly, peersByPort_replicate hf]
  · simp only [detectForTarget, List.append_assoc]
    exact (replicate_sublist udpDetections hd seen.udpFlows 32).trans (List.sublist_append_left _ _)

theorem repeated_tcp (hashes : List String) {seen : Seen} {f : Flow} (hf : f ∈ seen.tcpFlows)
    {d : Detection} (hd : d ∈ tcpDetections f) :
    Repeated hashes seen { seen with tcpFlows := seen.tcpFlows ++ List.replicate 32 f } d := by
  refine ⟨fun d' => ?_, ?_⟩
  · simp only [detectForTarget, List.mem_append, mem_flatMap_replicate tcpDetections hf]
  · simp only [detectForTarget, List.append_assoc]
    exact (replicate_sublist tcpDetections hd seen.tcpFlows 32).trans ((List.sublist_append_left _ _).trans
      ((List.sublist_append_right _ _).trans (List.sublist_append_right _ _)))

theorem repeated_dns (hashes : List String) {seen : Seen} {domain : String}
    (hq : domain ∈ seen.queries) {d : Detection} (hd : d ∈ dnsDetections domain) :
    Repeated hashes seen { seen with queries := seen.queries ++ List.replicate 32 domain } d := by
  refine ⟨fun d' => ?_, ?_⟩
  · simp only [detectForTarget, List.mem_append, mem_flatMap_replicate dnsDetections hq]
  · simp only [detectForTarget]
    exact (replicate_sublist dnsDetections hd seen.queries 32).trans
      ((List.sublist_append_right _ _).trans (List.sublist_append_left _ _))

theorem repeated_tls (hashes : List String) {seen : Seen} {fp : String}
    (hfp : fp ∈ seen.fingerprints) {d : Detection} (hd : d ∈ tlsDetections hashes fp) :
    Repeated hashes seen { seen with fingerprints := seen.fingerprints ++ List.replicate 32 fp } d := by
  refine ⟨fun d' => ?_, ?_⟩
  · simp only [detectForTarget, List.mem_append, mem_flatMap_replicate (tlsDetections hashes) hfp]
  · simp only [detectForTarget]
    exact (replicate_sublist (tlsDetections hashes) hd seen.fingerprints 32).trans
      (List.sublist_append_right _ _)

theorem exists_repeated {hashes : List String} {seen : Seen} {d : Detection}
    (hd : d ∈ detectForTarget hashes seen) (hmethod : d.method ≠ "flow-heuristic") :
    ∃ more, Repeated hashes seen more d := by
  rcases mem_detectForTarget.mp hd with
    ⟨f, hf, hd⟩ | hd | ⟨f, hf, hd⟩ | ⟨domain, hq, hd⟩ | ⟨fp, hfp, hd⟩
  · exact ⟨_, repeated_udp hashes hf hd⟩
  · obtain ⟨e, -, rfl⟩ := Option.map_eq_some_iff.mp hd
    exact absurd rfl hmethod
  · exact ⟨_, repeated_tcp hashes hf hd⟩
  · exact ⟨_, repeated_dns hashes hq hd⟩
  · exact ⟨_, repeated_tls hashes hfp hd⟩

theorem udpDetections_method {flow : Flow} {d : Detection} (h : d ∈ udpDetections flow) :
    d.method ≠ "flow-heuristic" := by
  rcases List.mem_append.mp h with h | h
  all_goals
    obtain ⟨m, -, rfl⟩ := Option.map_eq_some_iff.mp (Option.mem_toList.mp h)
    simp

theorem tcpDetections_method {flow : Flow} {d : Detection} (h : d ∈ tcpDetections flow) :
    d.method ≠ "flow-heuristic" := by
  unfold tcpDetections at h
  split at h
  next =>
    obtain rfl := List.mem_singleton.mp h
    simp
  next =>
    obtain ⟨m, -, rfl⟩ := Option.map_eq_some_iff.mp (Option.mem_toList.mp h)
    simp

theorem dnsDetections_method {domain : String} {d : Detection} (h : d ∈ dnsDetections domain) :
    d.method ≠ "flow-heuristic" := by
  obtain ⟨m, -, rfl⟩ := Option.map_eq_some_iff.mp (Option.mem_toList.mp h)
  simp

theorem tlsDetections_method {hashes : List String} {fp : String} {d : Detection}
    (h : d ∈ tlsDetections hashes fp) : d.method ≠ "flow-heuristic" := by
  unfold tlsDetections at h
  split at h
  next =>
    obtain rfl := List.mem_singleton.mp h
    simp
  next => cases h

/-- Nothing but the flow heuristic fired, if anything did. -/
def OnlyFlowHeuristic (hashes : List String) (seen : Seen) : Prop :=
  ∀ s ∈ signals hashes seen, s.method = "flow-heuristic"

theorem OnlyFlowHeuristic.firedWeights {hashes : List String} {seen : Seen}
    (h : OnlyFlowHeuristic hashes seen) (hne : detectForTarget hashes seen ≠ []) :
    firedWeights hashes seen = [FLOW_HEURISTIC_WEIGHT] := by
  have hmethod : ∀ d ∈ detectForTarget hashes seen, d.method = "flow-heuristic" :=
    fun d hd => h d.signal (mem_signals.mpr ⟨d, hd, rfl⟩)
  have hudp : ∀ f ∈ seen.udpFlows, udpDetections f = [] := fun f hf =>
    List.eq_nil_iff_forall_not_mem.mpr fun d hd =>
      udpDetections_method hd (hmethod d (mem_detectForTarget.mpr (by grind)))
  have htcp : ∀ f ∈ seen.tcpFlows, tcpDetections f = [] := fun f hf =>
    List.eq_nil_iff_forall_not_mem.mpr fun d hd =>
      tcpDetections_method hd (hmethod d (mem_detectForTarget.mpr (by grind)))
  have hdns : ∀ domain ∈ seen.queries, dnsDetections domain = [] := fun domain hq =>
    List.eq_nil_iff_forall_not_mem.mpr fun d hd =>
      dnsDetections_method hd (hmethod d (mem_detectForTarget.mpr (by grind)))
  have htls : ∀ fp ∈ seen.fingerprints, tlsDetections hashes fp = [] := fun fp hfp =>
    List.eq_nil_iff_forall_not_mem.mpr fun d hd =>
      tlsDetections_method hd (hmethod d (mem_detectForTarget.mpr (by grind)))
  have hanomaly : (detectFlowAnomaly seen.udpFlows).isSome := by
    by_contra hnone
    exact hne (detectForTarget_eq_nil.mpr ⟨hudp, by simpa using hnone, htcp, hdns, htls⟩)
  simp only [VpnDetector.firedWeights, detectForTarget, List.flatMap_eq_nil_iff.mpr hudp,
    List.flatMap_eq_nil_iff.mpr htcp, List.flatMap_eq_nil_iff.mpr hdns,
    List.flatMap_eq_nil_iff.mpr htls, List.nil_append, List.append_nil]
  rw [detectFlowAnomaly_weights, if_pos hanomaly]

/-- The score depends on the distinct signals alone exactly where no signal can be repeated, or the score
is full whatever is repeated. -/
theorem sameSignals_iff (hashes : List String) (target : Target) (seen : Seen) :
    (∀ other, SameSignals hashes seen other →
      reportedConfidence (targetReport hashes target other) =
        reportedConfidence (targetReport hashes target seen)) ↔
      truthy target.ipAddress = none ∨ OnlyFlowHeuristic hashes seen ∨
        ∀ other, SameSignals hashes seen other → NearlyNoneMissed hashes other := by
  by_cases hip : truthy target.ipAddress = none
  · refine iff_of_true (fun other _ => ?_) (Or.inl hip)
    rw [reportedConfidence_none (Or.inl hip), reportedConfidence_none (Or.inl hip)]
  have hsome : (truthy target.ipAddress).isSome := Option.isSome_iff_ne_none.mpr hip
  simp only [hip, false_or]
  refine ⟨?_, ?_⟩
  · intro hsame
    by_cases honly : OnlyFlowHeuristic hashes seen
    · exact Or.inl honly
    · refine Or.inr fun other hother => ?_
      obtain ⟨s, hs, hmethod⟩ : ∃ s ∈ signals hashes seen, s.method ≠ "flow-heuristic" := by
        simpa [OnlyFlowHeuristic] using honly
      obtain ⟨d, hd, rfl⟩ := mem_signals.mp hs
      obtain ⟨more, hmore⟩ := exists_repeated hd hmethod
      have hfull := hmore.nearlyNoneMissed (detectForTarget_sound hd)
      rw [nearlyNoneMissed_iff hsome] at hfull ⊢
      rw [hsame other hother, ← hsame more hmore.sameSignals, hfull]
  · rintro (honly | hfull) other hother
    · have hother' : OnlyFlowHeuristic hashes other := fun s hs => honly s ((hother s).mp hs)
      refine reportedConfidence_congr hother.detections_nil ?_
      by_cases hnil : detectForTarget hashes seen = []
      · rw [VpnDetector.firedWeights, VpnDetector.firedWeights, hnil, hother.detections_nil.mpr hnil]
      · rw [honly.firedWeights hnil, hother'.firedWeights (mt hother.detections_nil.mp hnil)]
    · rw [(nearlyNoneMissed_iff hsome).mp (hfull other hother),
        (nearlyNoneMissed_iff hsome).mp (hfull seen fun _ => Iff.rfl)]

/-- More traffic to the same places never changes the score exactly where no flow is a signal, or
the score is full already. -/
theorem moreTraffic_iff (hashes : List String) (target : Target) (seen : Seen) :
    (∀ more, MoreTraffic seen more →
      reportedConfidence (targetReport hashes target more) =
        reportedConfidence (targetReport hashes target seen)) ↔
      truthy target.ipAddress = none ∨ QuietFlows seen ∨ NearlyNoneMissed hashes seen := by
  by_cases hip : truthy target.ipAddress = none
  · refine iff_of_true (fun more _ => ?_) (Or.inl hip)
    rw [reportedConfidence_none (Or.inl hip), reportedConfidence_none (Or.inl hip)]
  have hsome : (truthy target.ipAddress).isSome := Option.isSome_iff_ne_none.mpr hip
  simp only [hip, false_or]
  refine ⟨?_, ?_⟩
  · intro hsame
    by_cases hquiet : QuietFlows seen
    · exact Or.inl hquiet
    · refine Or.inr ?_
      have hrepeated : ∃ more d, MoreTraffic seen more ∧ Repeated hashes seen more d ∧ d.Sound := by
        rw [quietFlows_iff, not_and_or] at hquiet
        simp only [not_forall] at hquiet
        rcases hquiet with ⟨f, hf, hfires⟩ | ⟨f, hf, hfires⟩
        · obtain ⟨d, hd⟩ := List.exists_mem_of_ne_nil _ hfires
          exact ⟨_, d, moreTraffic_udp hf 32, repeated_udp hashes hf hd, udpDetections_sound hd⟩
        · obtain ⟨d, hd⟩ := List.exists_mem_of_ne_nil _ hfires
          exact ⟨_, d, moreTraffic_tcp hf 32, repeated_tcp hashes hf hd, tcpDetections_sound hd⟩
      obtain ⟨more, d, hmore, hrepeated, hsound⟩ := hrepeated
      have hfull := hrepeated.nearlyNoneMissed hsound
      rw [nearlyNoneMissed_iff hsome] at hfull ⊢
      rw [← hsame more hmore, hfull]
  · rintro (hquiet | hfull) more hmore
    · refine reportedConfidence_congr hmore.detections_nil ?_
      rw [hmore.firedWeights_quiet hashes hquiet]
    · have hfull' : NearlyNoneMissed hashes more :=
        (Doubles.missProbability_anti (hmore.firedWeights_sublist hashes)
          (firedWeights_percentages hashes more)).trans_lt hfull
      rw [(nearlyNoneMissed_iff hsome).mp hfull, (nearlyNoneMissed_iff hsome).mp hfull']

end VpnDetector

end GuardTime
