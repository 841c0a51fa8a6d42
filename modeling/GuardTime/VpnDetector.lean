import GuardTime.Cidr
import GuardTime.ConnectionKiller
import GuardTime.DoubleConfidence
import GuardTime.FirewallPatterns
import GuardTime.OrderedMap
import GuardTime.TextLines

namespace GuardTime

structure VpnDnsPattern where
  suffix : String
  provider : String
  weight : Nat

structure VpnMatch where
  provider : String
  weight : Nat
deriving DecidableEq

def VPN_DNS_PATTERNS : List VpnDnsPattern := [
  ⟨"nordvpn.com", "NordVPN", 85⟩,
  ⟨"nordvpn.net", "NordVPN", 85⟩,
  ⟨"protonvpn.com", "ProtonVPN", 85⟩,
  ⟨"protonvpn.net", "ProtonVPN", 85⟩,
  ⟨"surfshark.com", "Surfshark", 85⟩,
  ⟨"mullvad.net", "Mullvad", 85⟩,
  ⟨"cloudflareclient.com", "Cloudflare WARP", 80⟩]

def VPN_DETECTION_ONLY_PORT_SIGNATURES : List VpnPortSignature := [
  ⟨.tcp, 1080, "SOCKS proxy", 30⟩,
  ⟨.tcp, 3128, "HTTP/HTTPS proxy (Squid default)", 25⟩,
  ⟨.tcp, 8080, "HTTP/HTTPS proxy", 20⟩]

/-- A hostname in lower case, without one dot at its end. -/
def normalizedHost (hostname : String) : Text :=
  let lowered := lowerCase hostname.toList
  if lowered.getLast? = some '.' then lowered.dropLast else lowered

/-- `normalized === suffix || normalized.endsWith('.' + suffix)`. -/
def hasSuffix (normalized : Text) (suffix : String) : Bool :=
  normalized = suffix.toList || ('.' :: suffix.toList).isSuffixOf normalized

def matchVpnDomain (domain : String) : Option VpnMatch :=
  if domain = "" then none
  else
    (VPN_DNS_PATTERNS.find? fun pattern => hasSuffix (normalizedHost domain) pattern.suffix).map
      fun pattern => ⟨pattern.provider, pattern.weight⟩

def matchSignature (signatures : List VpnPortSignature) (protocol : Protocol) (port : Nat) :
    Option VpnMatch :=
  (signatures.find? fun sig => sig.protocol = protocol && sig.port = port).map
    fun sig => ⟨sig.provider, sig.weight⟩

def matchVpnPort (protocol : Protocol) (port : Nat) : Option VpnMatch :=
  matchSignature VPN_PORT_SIGNATURES protocol port

def matchVpnPortDetectionOnly (protocol : Protocol) (port : Nat) : Option VpnMatch :=
  matchSignature VPN_DETECTION_ONLY_PORT_SIGNATURES protocol port

def matchVpnIp (ipAddress : String) : Option VpnMatch :=
  if ipAddress = "" then none
  else
    (VPN_IP_RANGES.find? fun range => ipInCidr ipAddress.toList range.cidr.toList).map
      fun range => ⟨range.provider, range.weight⟩

namespace VpnDetector

/-- What fired, apart from how much it counts. -/
structure Signal where
  method : String
  provider : String
  detail : String
deriving DecidableEq

/-- A detection; only the flow heuristic leaves its `weight` beside the confidence. -/
structure Detection where
  method : String
  provider : String
  detail : String
  weight : Option Nat
  confidence : Nat
deriving DecidableEq

def Detection.signal (d : Detection) : Signal := ⟨d.method, d.provider, d.detail⟩

def COMMON_MULTI_DEST_UDP_PORTS : List Nat := [53, 67, 68, 123, 443, 5353]
def FLOW_HEURISTIC_MIN_PEERS : Nat := 3
def FLOW_HEURISTIC_WEIGHT : Nat := 25

/-- `Set.add` on the elements in the order they were added. -/
def addPeer (peers : List String) (dst : String) : List String :=
  if dst ∈ peers then peers else peers ++ [dst]

def peersByPort (udpFlows : List Flow) : OrderedMap Nat (List String) :=
  udpFlows.foldl (fun peers flow =>
    if flow.dport ∈ COMMON_MULTI_DEST_UDP_PORTS then peers
    else peers.set flow.dport (addPeer ((peers.get flow.dport).getD []) flow.dst)) .empty

def detectFlowAnomaly (udpFlows : List Flow) : Option Detection :=
  ((peersByPort udpFlows).entries.find? fun e => FLOW_HEURISTIC_MIN_PEERS ≤ e.2.length).map fun e =>
    ⟨"flow-heuristic", "unknown (multi-peer UDP pattern)",
      "port " ++ toString e.1 ++ ", " ++ toString e.2.length ++ " distinct peers",
      some FLOW_HEURISTIC_WEIGHT, FLOW_HEURISTIC_WEIGHT⟩

/-- What one target's cycle reads: a listing that rejects gives no flows, and a sniff that is off
or fails no queries or fingerprints. -/
structure Seen where
  udpFlows : List Flow
  tcpFlows : List Flow
  queries : List String
  fingerprints : List String

def udpDetections (flow : Flow) : List Detection :=
  ((matchVpnIp flow.dst).map fun m =>
    ⟨"ip-range", m.provider, flow.dst, none, m.weight⟩).toList ++
  ((matchVpnPort .udp flow.dport).map fun m =>
    ⟨"port-signature", m.provider, toString flow.dport, none, m.weight⟩).toList

def tcpDetections (flow : Flow) : List Detection :=
  match matchVpnPort .tcp flow.dport with
  | some m => [⟨"port-signature", m.provider, toString flow.dport, none, m.weight⟩]
  | none =>
    ((matchVpnPortDetectionOnly .tcp flow.dport).map fun m =>
      ⟨"port-signature-low-confidence", m.provider, toString flow.dport, none, m.weight⟩).toList

def dnsDetections (domain : String) : List Detection :=
  ((matchVpnDomain domain).map fun m =>
    ⟨"dns-pattern", m.provider, domain, none, m.weight⟩).toList

/-- A match of the operator's list, which gives no confidence of its own. -/
def tlsDetections (tlsVpnJa3Hashes : List String) (fp : String) : List Detection :=
  if fp ∈ tlsVpnJa3Hashes ∧ fp ≠ "" then
    [⟨"tls-ja3-signature", "unknown-vpn-or-proxy", fp, none, 90⟩]
  else []

/-- `_detectForTarget`. -/
def detectForTarget (hashes : List String) (seen : Seen) : List Detection :=
  seen.udpFlows.flatMap udpDetections ++ (detectFlowAnomaly seen.udpFlows).toList ++
  seen.tcpFlows.flatMap tcpDetections ++ seen.queries.flatMap dnsDetections ++
  seen.fingerprints.flatMap (tlsDetections hashes)

structure ReportRow where
  deviceId : String
  detection : Detection
  overallConfidence : ℤ

/-- The rows of `sync` for one target. -/
def targetReport (hashes : List String) (target : Target) (seen : Seen) : List ReportRow :=
  if (truthy target.ipAddress).isNone then []
  else
    let detections := detectForTarget hashes seen
    if detections.length = 0 then []
    else
      let overallConfidence := Doubles.computeConfidence (detections.map Detection.confidence)
      detections.map fun detection => ⟨target.deviceId, detection, overallConfidence⟩

/-- `sync` over the targets, each with what was read for it. -/
def sync (hashes : List String) (targets : List (Target × Seen)) : List ReportRow :=
  targets.flatMap fun t => targetReport hashes t.1 t.2

end VpnDetector

end GuardTime
