import GuardTime.VpnDetector
import Mathlib.Data.List.DropRight

namespace GuardTime

def DOH_SNI_PATTERNS : List String := [
  "dns.google",
  "cloudflare-dns.com",
  "doh.opendns.com",
  "dns.quad9.net",
  "doh.cleanbrowsing.org",
  "dns.nextdns.io",
  "doh.dns.sb",
  "dns.adguard.com",
  "dns.adguard-dns.com"]

/-- The operator's reputation lists. -/
structure DohConfig where
  dohReputationIps : List String
  dohReputationDomains : List String

def matchDohSni (hostname : String) (extraDomains : List String) : Option String :=
  if hostname = "" then none
  else (DOH_SNI_PATTERNS ++ extraDomains).find? fun suffix => hasSuffix (normalizedHost hostname) suffix

def matchDohIp (ipAddress : String) (extraIps : List String) : Option String :=
  if ipAddress = "" then none
  else
    match DOH_PROVIDER_IPS.find? fun provider => provider.ip = ipAddress with
    | some hit => some hit.name
    | none => if ipAddress ∈ extraIps then some "operator-reputation-list" else none

namespace DohDetector

def DOT_CONFIDENCE : Nat := 95
def DOH_IP_CONFIDENCE : Nat := 90
def DNS_SNI_CONFIDENCE : Nat := 80
def BEHAVIORAL_CONFIDENCE : Nat := 20
def BEHAVIORAL_MIN_OBSERVATIONS : Nat := 4
def BEHAVIORAL_MAX_HISTORY : Nat := 8
def BEHAVIORAL_MIN_INTERVAL_MS : ℚ := 2000
def BEHAVIORAL_MAX_INTERVAL_MS : ℚ := 120000
def BEHAVIORAL_MAX_COEFFICIENT_OF_VARIATION : ℚ := 1 / 5

structure Detection where
  method : String
  provider : String
  detail : String
  confidence : Nat
deriving DecidableEq

/-- The timestamps by device and destination, which the text of the key names: no address holds
the bar between them. -/
abbrev Observations := OrderedMap (String × String) (List ℤ)

/-- `_recordObservation` at the time `now`. -/
def recordObservation (observations : Observations) (now : ℤ) (deviceId dst : String) :
    Observations :=
  let list := (observations.get (deviceId, dst)).getD [] ++ [now]
  observations.set (deviceId, dst) (list.rtake BEHAVIORAL_MAX_HISTORY)

/-- What `detectBehavioralInterval` makes of a history, over exact rationals. The square root of the
variance is compared with a share of the mean, which is positive there. -/
def intervalVerdict (dst : String) (list : List ℤ) : Option Detection :=
  if list.length < BEHAVIORAL_MIN_OBSERVATIONS then none
  else
    let intervals : List ℚ :=
      List.zipWith (fun later earlier => ((later - earlier : ℤ) : ℚ)) list.tail list
    let mean : ℚ := intervals.sum / intervals.length
    if mean < BEHAVIORAL_MIN_INTERVAL_MS ∨ mean > BEHAVIORAL_MAX_INTERVAL_MS then none
    else
      let variance : ℚ := (intervals.map fun v => (v - mean) ^ 2).sum / intervals.length
      if variance > (BEHAVIORAL_MAX_COEFFICIENT_OF_VARIATION * mean) ^ 2 then none
      else some ⟨"behavioral-interval", "unknown (regular-interval TLS/443)",
        "dst " ++ dst ++ ", ~" ++ toString (Math.round (mean / 1000)) ++ "s interval",
        BEHAVIORAL_CONFIDENCE⟩

def detectBehavioralInterval (observations : Observations) (deviceId dst : String) :
    Option Detection :=
  intervalVerdict dst ((observations.get (deviceId, dst)).getD [])

/-- What the loops over the flows carry. Each detection is kept with the flow it was pushed for. -/
structure Scan where
  observations : Observations
  detections : List (Flow × Detection)
  matchedDsts443 : List String

/-- The first loop over the flows. -/
def scanFlow (config : DohConfig) (now : ℤ) (deviceId : String) (scan : Scan) (flow : Flow) : Scan :=
  if flow.dport ∈ DOT_PORTS then
    { scan with detections := scan.detections ++
        [(flow, ⟨"conntrack-port-853", "DoT", toString flow.dport, DOT_CONFIDENCE⟩)] }
  else if flow.dport ≠ 443 then scan
  else
    let recorded := recordObservation scan.observations now deviceId flow.dst
    match matchDohIp flow.dst config.dohReputationIps with
    | some provider =>
      ⟨recorded, scan.detections ++
        [(flow, ⟨"conntrack-doh-ip", provider, flow.dst, DOH_IP_CONFIDENCE⟩)],
        scan.matchedDsts443 ++ [flow.dst]⟩
    | none => { scan with observations := recorded }

/-- The second loop. -/
def behavioralFlow (deviceId : String) (scan : Scan) (flow : Flow) : Scan :=
  if flow.dport ≠ 443 ∨ flow.dst ∈ scan.matchedDsts443 then scan
  else
    match detectBehavioralInterval scan.observations deviceId flow.dst with
    | some behavioral =>
      { scan with
        detections := scan.detections ++ [(flow, behavioral)]
        matchedDsts443 := scan.matchedDsts443 ++ [flow.dst] }
    | none => scan

def scanFlows (config : DohConfig) (observations : Observations) (now : ℤ) (deviceId : String)
    (tcpFlows : List Flow) : Scan :=
  let scanned := tcpFlows.foldl (scanFlow config now deviceId) ⟨observations, [], []⟩
  tcpFlows.foldl (behavioralFlow deviceId) scanned

def sniDetections (config : DohConfig) (queries : List String) : List Detection :=
  queries.filterMap fun domain =>
    (matchDohSni domain config.dohReputationDomains).map fun suffix =>
      ⟨"dns-sni-pattern", suffix, domain, DNS_SNI_CONFIDENCE⟩

/-- What one target's turn in a cycle reads. The loop that records does not wait, so one reading of
the clock stands for all of its flows. A listing that rejects gives no flows. -/
structure Visit where
  target : Target
  now : ℤ
  tcpFlows : List Flow
  queries : List String

/-- `_detectForTarget`. -/
def detectForTarget (config : DohConfig) (observations : Observations) (visit : Visit) :
    Observations × List Detection :=
  let scan := scanFlows config observations visit.now visit.target.deviceId visit.tcpFlows
  (scan.observations, scan.detections.map Prod.snd ++ sniDetections config visit.queries)

structure ReportRow where
  deviceId : String
  detection : Detection
deriving DecidableEq

/-- One turn of the loop of `sync`. -/
def visitTarget (config : DohConfig) (observations : Observations) (visit : Visit) :
    Observations × List ReportRow :=
  if (truthy visit.target.ipAddress).isNone then (observations, [])
  else
    let found := detectForTarget config observations visit
    (found.1, found.2.map fun detection => ⟨visit.target.deviceId, detection⟩)

def sync (config : DohConfig) (observations : Observations) (visits : List Visit) :
    Observations × List ReportRow :=
  visits.foldl (fun state visit =>
    let visited := visitTarget config state.1 visit
    (visited.1, state.2 ++ visited.2)) (observations, [])

/-- The observations of a new detector after some cycles. -/
def after (config : DohConfig) (cycles : List (List Visit)) : Observations :=
  cycles.foldl (fun observations visits => (sync config observations visits).1) .empty

end DohDetector

end GuardTime
