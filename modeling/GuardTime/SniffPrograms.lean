import GuardTime.Json
import GuardTime.TcpResets
import GuardTime.TlsFingerprint

namespace GuardTime

namespace SniffPrograms

open Json
open ByteReader (Bytes)

/-- How a program ends: its exit code and all that it printed. -/
structure Exit where
  code : Nat
  stdout : Text
deriving DecidableEq

/-- What the agent makes of a program's end: `execFile` rejects one that fails or runs too long. -/
inductive Outcome where
  | result (v : Json)
  | skipped (v : Json)
  | failed

/-- Whether the digits of a literal, up to its exponent, are all zeros. -/
def isZero (literal : Text) : Bool :=
  (literal.takeWhile fun c => c ≠ 'e' ∧ c ≠ 'E').all fun c => !c.isDigit || c = '0'

def truthy : Option Json → Bool
  | none | some .null | some (.bool false) => false
  | some (.bool true) | some (.array _) | some (.object _) => true
  | some (.number literal) => !isZero literal
  | some (.string s) => s ≠ []

def emptyObject : Text := ['\x7b', '\x7d']

/-- `JSON.parse((result.stdout || '{}').trim() || '{}')`, and the look at its `ok`. -/
def readResult : Option Exit → Outcome
  | none => .failed
  | some exit =>
    if exit.code ≠ 0 then .failed
    else
      let trimmed := DotEnv.trim (if exit.stdout = [] then emptyObject else exit.stdout)
      match parse (if trimmed = [] then emptyObject else trimmed) with
      | none | some .null => .failed
      | some v => if truthy (v.get "ok") then .result v else .skipped v

/-- What becomes of a program: the import of scapy fails, the sniff ends in time or raises after
some packets, or the program is killed. -/
inductive Fate where
  | unavailable (error : Text)
  | ends
  | raises (packets : Nat) (error : Text)
  | killed
deriving DecidableEq

def printed (members : List (Text × Json)) : Text := print python (.object members) ++ ['\n']

def exit (code : Nat) (members : List (Text × Json)) : Option Exit := some ⟨code, printed members⟩

/-- A sniff that has ended, or that raised an error, with what it found. -/
def report (error : Option Text) (found : Text × Json) : Option Exit :=
  match error with
  | none => exit 0 [("ok".toList, .bool true), found]
  | some error => exit 3 [("ok".toList, .bool false), ("error".toList, .string error), found]

def readNat : Json → Option Nat
  | .number literal => decimalNumeral literal
  | _ => none

def readString : Json → Option Text
  | .string s => some s
  | _ => none

structure Payload where
  deviceIp : Text
  duration : ℚ
  flows : List Flow

def readFlow (v : Json) : Option Flow :=
  ((v.get "src").bind readString).bind fun src =>
    ((v.get "sport").bind readNat).bind fun sport =>
      ((v.get "dst").bind readString).bind fun dst =>
        ((v.get "dport").bind readNat).map fun dport =>
          ⟨String.ofList src, String.ofList dst, sport, dport⟩

def readFlows : Option Json → Option (List Flow)
  | none => some []
  | some (.array items) => items.mapM readFlow
  | some _ => none

/-- `json.loads(sys.argv[1])` and what a program reads of it, with its own default duration. -/
def readPayload (defaultMs : Nat) (argv : Text) : Option Payload :=
  (parse argv).bind fun payload =>
    ((payload.get "deviceIp").bind readString).bind fun deviceIp =>
      (match payload.get "sniffMs" with
        | none => some defaultMs
        | some ms => readNat ms).bind fun ms =>
        (readFlows (payload.get "flows")).map fun flows =>
          ⟨deviceIp, max (1 / 10) (ms / 1000), flows⟩

/-- What is sniffed with a filter within a duration, in seconds. -/
abbrev Network (P : Type) := Text → ℚ → List P

/-- A program with a payload that it can read; on any other it raises before it prints. -/
def withPayload (defaultMs : Nat) (argv : Text) (program : Payload → Option Exit) : Option Exit :=
  match readPayload defaultMs argv with
  | none => some ⟨1, []⟩
  | some payload => program payload

/-- What the sniff of a program has seen when it ends. -/
def Fate.seen {P : Type} (fate : Fate) (packets : List P) : List P :=
  match fate with
  | .unavailable _ => []
  | .ends | .killed => packets
  | .raises n _ => packets.take n

def run {P : Type} (fate : Fate) (packets : List P) (body : List P → Option Text → Option Exit) :
    Option Exit :=
  match fate with
  | .unavailable error =>
    exit 2 [("ok".toList, .bool false), ("error".toList, .string ("scapy unavailable: ".toList ++ error))]
  | .ends => body packets none
  | .raises n error => body (packets.take n) (some error)
  | .killed => none

/-- A packet as scapy dissects it: whether it is DNS, its `qr`, and the name of its first question as
it is decoded, if it has one and that does not raise. -/
structure DnsPacket where
  isDns : Bool
  qr : Nat
  qname : Option Text

/-- `qname.rstrip(".").lower()` of the queries; `lower` is Python's. -/
def queriesOf (lower : Text → Text) (packets : List DnsPacket) : List Text :=
  packets.filterMap fun pkt =>
    if pkt.isDns && pkt.qr = 0 then
      (pkt.qname.map fun qname => lower (qname.rdropWhile (· = '.'))).filter (· ≠ [])
    else none

def dnsFilter (deviceIp : Text) : Text := "udp port 53 and host ".toList ++ deviceIp

/-- `SCAPY_DNS_SNIFF_PROGRAM`. -/
def dnsProgram (lower : Text → Text) (network : Network DnsPacket) (fate : Fate) (argv : Text) :
    Option Exit :=
  withPayload 500 argv fun payload =>
    run fate (network (dnsFilter payload.deviceIp) payload.duration) fun packets error =>
      report error ("queries".toList, .array ((queriesOf lower packets).map .string))

structure SniffConfig where
  enableVpnDnsSniff : Bool
  vpnDnsSniffMs : Nat
  enableTlsFingerprint : Bool
  tlsFingerprintSniffMs : Nat
  enableTcpRst : Bool
  tcpRstSniffMs : Nat
  dryRun : Bool

structure SniffOptions where
  enabled : Option Bool
  sniffMs : Option Nat

def payloadMembers (deviceIp : Text) (sniffMs : Nat) : List (Text × Json) :=
  [("deviceIp".toList, .string deviceIp), ("sniffMs".toList, nat sniffMs)]

/-- A property of a result, or an empty list where it is not there. -/
def listOf (key : String) : Outcome → Json
  | .result v => if truthy (v.get key) then (v.get key).getD .null else .array []
  | .skipped _ | .failed => .array []

def captureDnsQueries (config : SniffConfig) (lower : Text → Text) (network : Network DnsPacket)
    (fate : Fate) (options : SniffOptions) (ipAddress : Text) : Json :=
  let sniffMs := options.sniffMs.getD config.vpnDnsSniffMs
  if options.enabled.getD config.enableVpnDnsSniff = false ∨ ipAddress = [] then .array []
  else if config.dryRun then .array []
  else
    let payload := print javaScript (.object (payloadMembers ipAddress sniffMs))
    listOf "queries" (readResult (dnsProgram lower network fate payload))

def tlsFilter (deviceIp : Text) : Text := "tcp port 443 and host ".toList ++ deviceIp

/-- `SCAPY_TLS_FINGERPRINT_PROGRAM`, whose sniff ends with what the callback raises. -/
def tlsProgram (md5 : String → String) (network : Network (Option Bytes)) (fate : Fate)
    (raised argv : Text) : Option Exit :=
  withPayload 800 argv fun payload =>
    run fate (network (tlsFilter payload.deviceIp) payload.duration) fun packets error =>
      let seen := TlsFingerprint.sniff md5 [] packets
      report (if seen.ok then error else some raised)
        ("fingerprints".toList, .array ((seen.fingerprints.map String.toList).map .string))

def captureFingerprints (config : SniffConfig) (md5 : String → String)
    (network : Network (Option Bytes)) (fate : Fate) (raised ipAddress : Text) : Json :=
  if config.enableTlsFingerprint = false ∨ ipAddress = [] then .array []
  else if config.dryRun then .array []
  else
    let payload := print javaScript (.object (payloadMembers ipAddress config.tlsFingerprintSniffMs))
    listOf "fingerprints" (readResult (tlsProgram md5 network fate raised payload))

def rstFilter (deviceIp : Text) : Text := "tcp and host ".toList ++ deviceIp

/-- A segment whose resets all fit their fields. -/
def Fits (flows : List Flow) (pkt : TcpReset.Segment) : Prop :=
  ∀ reset ∈ TcpReset.sendRstPair flows pkt, reset.seq < 2 ^ 32

instance (flows : List Flow) (pkt : TcpReset.Segment) : Decidable (Fits flows pkt) :=
  inferInstanceAs (Decidable (∀ reset ∈ TcpReset.sendRstPair flows pkt, reset.seq < 2 ^ 32))

/-- The resets that a sniff sends, and whether its callback never raises: a sequence number that does
not fit its field cannot be sent. -/
def sendAll (flows : List Flow) : List TcpReset.Segment → List TcpReset.Reset × Bool
  | [] => ([], true)
  | pkt :: pkts =>
    if Fits flows pkt then
      (TcpReset.sendRstPair flows pkt ++ (sendAll flows pkts).1, (sendAll flows pkts).2)
    else ([], false)

/-- `SCAPY_RST_PROGRAM`: how it ends, and what it has sent. -/
def rstProgram (network : Network TcpReset.Segment) (fate : Fate) (raised argv : Text) :
    Option Exit × List TcpReset.Reset :=
  match readPayload 700 argv with
  | none => (some ⟨1, []⟩, [])
  | some payload =>
    let packets := network (rstFilter payload.deviceIp) payload.duration
    (run fate packets fun packets error =>
      let sent := sendAll payload.flows packets
      report (if sent.2 then error else some raised) ("rstPacketsSent".toList, nat sent.1.length),
     (sendAll payload.flows (fate.seen packets)).1)

def flowJson (flow : Flow) : Json :=
  .object [("src".toList, .string flow.src.toList), ("dst".toList, .string flow.dst.toList),
    ("sport".toList, nat flow.sport), ("dport".toList, nat flow.dport)]

inductive RstLog where
  | complete (rstPacketsSent : Option Json)
  | skipped (parsed : Json)
  | failed

def injectResets (config : SniffConfig) (network : Network TcpReset.Segment) (fate : Fate)
    (raised ipAddress : Text) (flows : List Flow) : Option RstLog × List TcpReset.Reset :=
  if config.dryRun then (none, [])
  else
    let payload := print javaScript (.object (payloadMembers ipAddress config.tcpRstSniffMs ++
      [("flows".toList, .array (flows.map flowJson))]))
    let program := rstProgram network fate raised payload
    let log := match readResult program.1 with
      | .result v => .complete (v.get "rstPacketsSent")
      | .skipped v => .skipped v
      | .failed => .failed
    (some log, program.2)

/-- `killDevice`, with the flows as they are known. -/
def killDevice (config : SniffConfig) (network : Network TcpReset.Segment) (fate : Fate)
    (raised ipAddress : Text) (flows : List Flow) : Option RstLog × List TcpReset.Reset :=
  if config.enableTcpRst = false ∨ ipAddress = [] then (none, [])
  else injectResets config network fate raised ipAddress flows

variable {deviceIp : Text} {flows : List Flow} {members : List (Text × Json)} {n ms : Nat}

/-- The time a program sniffs for, in seconds. -/
def seconds (ms : Nat) : ℚ := max (1 / 10) (ms / 1000)

theorem get_concat (members : List (Text × Json)) (key : Text) (v : Json) (name : String) :
    get (.object (members ++ [(key, v)])) name =
      if key = name.toList then some v else get (.object members) name := by
  simp only [Json.get, List.reverse_append, List.reverse_singleton, List.singleton_append, List.find?_cons]
  by_cases h : key = name.toList
  · simp [h]
  · simp [h]

theorem trim_printed (members : List (Text × Json)) :
    DotEnv.trim (printed members) = print python (.object members) := by
  have hprint : print python (.object members) = ('\x7b' :: printMembers python members) ++ ['\x7d'] := by
    simp [print]
  have hlast : (print python (.object members)).getLast? = some '\x7d' := by
    rw [hprint, List.getLast?_concat]
  have hself : DotEnv.trim (print python (.object members)) = print python (.object members) := by
    refine trimmed_self ?_ ?_
    · intro c hc
      cases hc
      decide
    · intro c hc
      rw [hlast] at hc
      cases hc
      decide
  rw [DotEnv.trim, trimmed] at hself
  rw [DotEnv.trim, trimmed, printed, List.rdropWhile_concat_pos _ _ _ rfl, hself]

theorem readResult_exit (code : Nat) (hv : Valid (.object members)) :
    readResult (exit code members) =
      if code ≠ 0 then .failed
      else if truthy (get (.object members) "ok") then .result (.object members)
      else .skipped (.object members) := by
  have hstdout : printed members ≠ [] := by simp [printed]
  have hprint : print python (.object members) ≠ [] := by simp [print]
  have hparse := parse_print python hv
  simp only [readResult, exit, if_neg hstdout, trim_printed, if_neg hprint, hparse]

theorem readResult_report {found : Text × Json} (hv : Valid found.2) (hkey : found.1 ≠ "ok".toList)
    (error : Option Text) : readResult (report error found) =
      match error with
      | none => .result (.object [("ok".toList, .bool true), found])
      | some _ => .failed := by
  cases error with
  | none =>
    have hvalid : Valid (.object [("ok".toList, .bool true), found]) := by
      refine .object ?_
      intro m hm
      simp only [List.mem_cons, List.not_mem_nil, or_false] at hm
      rcases hm with rfl | rfl
      · exact .bool true
      · exact hv
    have hok : get (.object [("ok".toList, .bool true), found]) "ok" = some (.bool true) := by
      have hlast := get_concat [("ok".toList, .bool true)] found.1 found.2 "ok"
      rw [if_neg hkey] at hlast
      exact hlast.trans ((get_concat [] _ _ "ok").trans (if_pos rfl))
    rw [report, readResult_exit 0 hvalid, hok]
    rfl
  | some error =>
    have hvalid : Valid (.object [("ok".toList, .bool false), ("error".toList, .string error), found]) := by
      refine .object ?_
      intro m hm
      simp only [List.mem_cons, List.not_mem_nil, or_false] at hm
      rcases hm with rfl | rfl | rfl
      · exact .bool false
      · exact .string error
      · exact hv
    rw [report, readResult_exit 3 hvalid]
    rfl

theorem readResult_run {P : Type} (fate : Fate) (packets : List P) {body : List P → Option Text → Option Exit}
    (hfailed : ∀ packets error, readResult (body packets (some error)) = .failed) :
    readResult (run fate packets body) =
      match fate with
      | .ends => readResult (body packets none)
      | _ => .failed := by
  cases fate with
  | unavailable error =>
    have hvalid : Valid (.object [("ok".toList, .bool false),
        ("error".toList, .string ("scapy unavailable: ".toList ++ error))]) := by
      refine .object ?_
      intro m hm
      simp only [List.mem_cons, List.not_mem_nil, or_false] at hm
      rcases hm with rfl | rfl
      · exact .bool false
      · exact .string _
    rw [run, readResult_exit 2 hvalid]
    rfl
  | ends => rfl
  | raises n error => exact hfailed _ _
  | killed => rfl

theorem readNat_nat (n : Nat) : readNat (nat n) = some n := decimalNumeral_toDigits n

theorem valid_flowJson (flow : Flow) : Valid (flowJson flow) := by
  refine .object ?_
  intro m hm
  simp only [List.mem_cons, List.not_mem_nil, or_false] at hm
  rcases hm with rfl | rfl | rfl | rfl
  · exact .string _
  · exact .string _
  · exact valid_nat _
  · exact valid_nat _

theorem readFlow_flowJson (flow : Flow) : readFlow (flowJson flow) = some flow := by
  have hsrc : (flowJson flow).get "src" = some (.string flow.src.toList) := rfl
  have hdst : (flowJson flow).get "dst" = some (.string flow.dst.toList) := rfl
  have hsport : (flowJson flow).get "sport" = some (nat flow.sport) := rfl
  have hdport : (flowJson flow).get "dport" = some (nat flow.dport) := rfl
  simp only [readFlow, hsrc, hdst, hsport, hdport, Option.bind_some, Option.map_some, readString,
    readNat_nat, String.ofList_toList]

theorem mapM_readFlow (flows : List Flow) : (flows.map flowJson).mapM readFlow = some flows := by
  induction flows with
  | nil => rfl
  | cons flow flows ih =>
    rw [List.map_cons, List.mapM_cons, readFlow_flowJson, ih]
    rfl

/-- The payload that the agent writes is the one that a program reads. -/
theorem readPayload_print (defaultMs : Nat) (deviceIp : Text) (ms : Nat) (flows : Option (List Flow)) :
    readPayload defaultMs (print javaScript (.object (payloadMembers deviceIp ms ++
      flows.toList.map fun flows => ("flows".toList, .array (flows.map flowJson))))) =
      some ⟨deviceIp, seconds ms, flows.getD []⟩ := by
  have hvalid : Valid (.object (payloadMembers deviceIp ms ++
      flows.toList.map fun flows => ("flows".toList, .array (flows.map flowJson)))) := by
    refine .object ?_
    intro m hm
    rcases List.mem_append.mp hm with hm | hm
    · simp only [payloadMembers, List.mem_cons, List.not_mem_nil, or_false] at hm
      rcases hm with rfl | rfl
      · exact .string deviceIp
      · exact valid_nat ms
    · obtain ⟨flows, _, rfl⟩ := List.mem_map.mp hm
      refine .array ?_
      intro v hv
      obtain ⟨flow, _, rfl⟩ := List.mem_map.mp hv
      exact valid_flowJson flow
  rw [readPayload, parse_print javaScript hvalid, Option.bind_some]
  cases flows with
  | none =>
    have hip : Json.get (.object (payloadMembers deviceIp ms)) "deviceIp" = some (.string deviceIp) := rfl
    have hms : Json.get (.object (payloadMembers deviceIp ms)) "sniffMs" = some (nat ms) := rfl
    have hflows : Json.get (.object (payloadMembers deviceIp ms)) "flows" = none := rfl
    simp only [Option.toList_none, List.map_nil, List.append_nil, hip, hms, hflows, Option.bind_some,
      readString, readNat_nat, readFlows, Option.map_some, seconds, Option.getD_none]
  | some flows =>
    have hip : Json.get (.object (payloadMembers deviceIp ms ++
        [("flows".toList, .array (flows.map flowJson))])) "deviceIp" = some (.string deviceIp) := rfl
    have hms : Json.get (.object (payloadMembers deviceIp ms ++
        [("flows".toList, .array (flows.map flowJson))])) "sniffMs" = some (nat ms) := rfl
    have hflows : Json.get (.object (payloadMembers deviceIp ms ++
        [("flows".toList, .array (flows.map flowJson))])) "flows" =
          some (.array (flows.map flowJson)) := rfl
    simp only [Option.toList_some, List.map_cons, List.map_nil, hip, hms, hflows, Option.bind_some,
      readString, readNat_nat, readFlows, mapM_readFlow, Option.map_some, seconds, Option.getD_some]

theorem readPayload_members (defaultMs : Nat) (deviceIp : Text) (ms : Nat) :
    readPayload defaultMs (print javaScript (.object (payloadMembers deviceIp ms))) =
      some ⟨deviceIp, seconds ms, []⟩ := by
  have h := readPayload_print defaultMs deviceIp ms none
  rwa [Option.toList_none, List.map_nil, List.append_nil] at h

theorem valid_strings (texts : List Text) : Valid (.array (texts.map .string)) := by
  refine .array ?_
  intro v hv
  obtain ⟨s, _, rfl⟩ := List.mem_map.mp hv
  exact .string s

/-- The agent reads the texts that a program lists, if the program comes to its end. -/
theorem listOf_run {P : Type} (key : String) (hkey : key.toList ≠ "ok".toList) (fate : Fate)
    (packets : List P) (texts : List P → List Text) (raised : List P → Option Text → Option Text)
    (hraised : ∀ packets error, raised packets (some error) ≠ none) :
    listOf key (readResult (run fate packets fun packets error =>
      report (raised packets error) (key.toList, .array ((texts packets).map .string)))) =
      if fate = .ends ∧ raised packets none = none then .array ((texts packets).map .string)
      else .array [] := by
  have hread : ∀ packets error, readResult (report (raised packets error)
      (key.toList, .array ((texts packets).map .string))) = _ :=
    fun packets error => readResult_report (valid_strings (texts packets)) hkey (raised packets error)
  have hfailed : ∀ packets error, readResult (report (raised packets (some error))
      (key.toList, .array ((texts packets).map .string))) = .failed := by
    intro packets error
    rw [hread]
    cases hr : raised packets (some error) with
    | none => exact absurd hr (hraised packets error)
    | some error => rfl
  rw [readResult_run fate packets hfailed]
  cases fate with
  | ends =>
    simp only [hread]
    cases raised packets none with
    | none =>
      have hget : Json.get (.object [("ok".toList, .bool true),
          (key.toList, .array ((texts packets).map .string))]) key =
            some (.array ((texts packets).map .string)) :=
        (get_concat [("ok".toList, .bool true)] key.toList _ key).trans (if_pos rfl)
      rw [listOf, hget]
      simp [truthy]
    | some error => simp [listOf]
  | unavailable error => simp [listOf]
  | raises n error => simp [listOf]
  | killed => simp [listOf]

/-- A text without the dots at its end is what stands before them. -/
theorem rdropWhile_dots {core dots : Text} (hdots : ∀ c ∈ dots, c = '.') (hcore : core.getLast? ≠ some '.') :
    (core ++ dots).rdropWhile (· = '.') = core := by
  have hall : dots.reverse.dropWhile (· = '.') = [] := by
    rw [List.dropWhile_eq_nil_iff]
    simpa using hdots
  have hhead : core.reverse.dropWhile (· = '.') = core.reverse := by
    rw [← List.head?_reverse] at hcore
    cases hrev : core.reverse with
    | nil => rfl
    | cons c cs =>
      rw [hrev] at hcore
      exact List.dropWhile_cons_of_neg (by simpa using hcore)
  rw [List.rdropWhile, List.reverse_append, List.dropWhile_append, hall]
  simp [hhead]

/-- What was queried: the names of the first questions of the queries, in lower case and without the
dots at their end, unless nothing is left. -/
theorem mem_queriesOf {lower : Text → Text} {packets : List DnsPacket} {name : Text} :
    name ∈ queriesOf lower packets ↔ name ≠ [] ∧ ∃ pkt ∈ packets, pkt.isDns = true ∧ pkt.qr = 0 ∧
      ∃ core dots, pkt.qname = some (core ++ dots) ∧ (∀ c ∈ dots, c = '.') ∧
        core.getLast? ≠ some '.' ∧ name = lower core := by
  have hquery : ∀ pkt : DnsPacket, (if pkt.isDns && pkt.qr = 0 then
      (pkt.qname.map fun qname => lower (qname.rdropWhile (· = '.'))).filter (· ≠ [])
      else none) = some name ↔ name ≠ [] ∧ pkt.isDns = true ∧ pkt.qr = 0 ∧
        ∃ qname, pkt.qname = some qname ∧ name = lower (qname.rdropWhile (· = '.')) := by
    intro pkt
    cases pkt.qname <;> grind
  simp only [queriesOf, List.mem_filterMap, hquery]
  refine ⟨?_, ?_⟩
  · rintro ⟨pkt, hpkt, hne, hdns, hqr, qname, hqname, rfl⟩
    refine ⟨hne, pkt, hpkt, hdns, hqr, qname.rdropWhile (· = '.'), qname.rtakeWhile (· = '.'), ?_,
      fun c hc => by simpa using List.mem_rtakeWhile_imp hc, ?_, rfl⟩
    · rw [List.rdropWhile_append_rtakeWhile, hqname]
    · intro hlast
      obtain ⟨init, hinit⟩ := List.getLast?_eq_some_iff.mp hlast
      have hself := List.rdropWhile_idempotent (· = '.') qname
      rw [hinit, List.rdropWhile_concat_pos _ _ _ (by simp)] at hself
      have hlength := (List.rdropWhile_prefix (p := (· = '.')) (l := init)).length_le
      rw [hself, List.length_append, List.length_singleton] at hlength
      omega
  · rintro ⟨hne, pkt, hpkt, hdns, hqr, core, dots, hqname, hdots, hcore, rfl⟩
    exact ⟨pkt, hpkt, hne, hdns, hqr, core ++ dots, hqname, by rw [rdropWhile_dots hdots hcore]⟩

/-- The agent is told exactly the names that were queried while the program sniffed, whatever
characters they have, and nothing of a sniff that failed. -/
theorem captureDnsQueries_exact (config : SniffConfig) (lower : Text → Text)
    (network : Network DnsPacket) (fate : Fate) (options : SniffOptions) (ipAddress : Text) :
    captureDnsQueries config lower network fate options ipAddress =
      if options.enabled.getD config.enableVpnDnsSniff = true ∧ ipAddress ≠ [] ∧
          config.dryRun = false ∧ fate = .ends then
        .array ((queriesOf lower (network (dnsFilter ipAddress)
          (seconds (options.sniffMs.getD config.vpnDnsSniffMs)))).map .string)
      else .array [] := by
  have hlist := listOf_run "queries" (by decide) fate (network (dnsFilter ipAddress)
    (seconds (options.sniffMs.getD config.vpnDnsSniffMs))) (queriesOf lower) (fun _ error => error)
    (fun packets error => by simp)
  simp only [captureDnsQueries, dnsProgram, withPayload, readPayload_members, hlist]
  cases options.enabled.getD config.enableVpnDnsSniff with
  | false => simp
  | true =>
    cases config.dryRun with
    | false => simp [ite_and]
    | true => simp

/-- The same of the fingerprints: the agent reads what the capture of the packets gives. -/
theorem captureFingerprints_exact (config : SniffConfig) (md5 : String → String)
    (network : Network (Option Bytes)) (fate : Fate) (raised ipAddress : Text) :
    captureFingerprints config md5 network fate raised ipAddress =
      if fate = .ends then
        .array (((TlsFingerprint.captureFingerprints ⟨config.enableTlsFingerprint, config.dryRun⟩ md5
          (String.ofList ipAddress) (network (tlsFilter ipAddress)
            (seconds config.tlsFingerprintSniffMs))).map String.toList).map .string)
      else .array [] := by
  have hlist := listOf_run "fingerprints" (by decide) fate (network (tlsFilter ipAddress)
    (seconds config.tlsFingerprintSniffMs))
    (fun packets => (TlsFingerprint.sniff md5 [] packets).fingerprints.map String.toList)
    (fun packets error => if (TlsFingerprint.sniff md5 [] packets).ok then error else some raised)
    (fun packets error => by split <;> simp)
  have hempty : String.ofList ipAddress = "" ↔ ipAddress = [] := by
    rw [← String.ofList_nil, String.ofList_inj]
  simp only [captureFingerprints, tlsProgram, withPayload, readPayload_members, hlist,
    TlsFingerprint.captureFingerprints, hempty]
  by_cases hoff : config.enableTlsFingerprint = false ∨ ipAddress = []
  · simp [hoff]
  · rw [if_neg hoff, if_neg hoff]
    cases config.dryRun with
    | true => simp
    | false =>
      cases (TlsFingerprint.sniff md5 [] (network (tlsFilter ipAddress)
        (seconds config.tlsFingerprintSniffMs))).ok with
      | true => simp
      | false => simp

/-- The sniff answers the segments up to the first whose resets do not fit. -/
theorem sendAll_eq (flows : List Flow) (pkts : List TcpReset.Segment) :
    sendAll flows pkts = ((pkts.takeWhile (Fits flows ·)).flatMap (TcpReset.sendRstPair flows),
      pkts.all (Fits flows ·)) := by
  induction pkts with
  | nil => rfl
  | cons pkt pkts ih =>
    rw [sendAll, ih]
    by_cases h : Fits flows pkt
    · simp [h]
    · simp [h]

/-- The segment belongs to one of the flows, in either direction, or no flow is asked for. -/
def Asked (flows : List Flow) (pkt : TcpReset.Segment) : Prop :=
  flows = [] ∨ ∃ flow ∈ flows,
    (pkt.src, pkt.sport, pkt.dst, pkt.dport) = (flow.src, flow.sport, flow.dst, flow.dport) ∨
    (pkt.src, pkt.sport, pkt.dst, pkt.dport) = (flow.dst, flow.dport, flow.src, flow.sport)

instance (flows : List Flow) : DecidablePred (Asked flows) := fun pkt =>
  inferInstanceAs (Decidable (flows = [] ∨ ∃ flow ∈ flows,
    (pkt.src, pkt.sport, pkt.dst, pkt.dport) = (flow.src, flow.sport, flow.dst, flow.dport) ∨
    (pkt.src, pkt.sport, pkt.dst, pkt.dport) = (flow.dst, flow.dport, flow.src, flow.sport)))

/-- The data that is shown of a segment, or one for its SYN or FIN. -/
def taken (pkt : TcpReset.Segment) : Nat :=
  match pkt.raw with
  | some raw => raw.length
  | none => if pkt.flags % 4 = 0 then 0 else 1

/-- The resets for a segment: one that goes on from it, and one against its direction at the number
it acknowledges, if it does. -/
def resetsFor (pkt : TcpReset.Segment) : List TcpReset.Reset :=
  ⟨pkt.isV6, pkt.src, pkt.dst, pkt.sport, pkt.dport, pkt.seq + taken pkt⟩ ::
    if pkt.flags.testBit 4 then [⟨pkt.isV6, pkt.dst, pkt.src, pkt.dport, pkt.sport, pkt.ack⟩] else []

/-- Their sequence numbers can be written in the 32 bits that there are for them. -/
def Written (pkt : TcpReset.Segment) : Prop := ∀ reset ∈ resetsFor pkt, reset.seq < 2 ^ 32

instance : DecidablePred Written := fun pkt =>
  inferInstanceAs (Decidable (∀ reset ∈ resetsFor pkt, reset.seq < 2 ^ 32))

theorem sendRstPair_eq (flows : List Flow) (pkt : TcpReset.Segment) :
    TcpReset.sendRstPair flows pkt = if Asked flows pkt then resetsFor pkt else [] := by
  have hasked : Asked flows pkt ↔ ¬TcpReset.FilteredOut flows pkt := by
    simp only [Asked, TcpReset.FilteredOut, not_and_or, not_not, not_forall, ne_eq, exists_prop]
  have hlow : pkt.flags &&& 3 = pkt.flags % 4 := Nat.and_two_pow_sub_one_eq_mod pkt.flags 2
  have hack : TcpReset.hasFlag pkt.flags TcpReset.ACK = pkt.flags.testBit 4 := by
    rw [TcpReset.hasFlag, TcpReset.ACK, show (0x10 : Nat) = 2 ^ 4 from rfl, Nat.and_two_pow]
    cases pkt.flags.testBit 4 <;> simp
  have htaken : TcpReset.tcpLen pkt = taken pkt := by
    unfold TcpReset.tcpLen taken
    cases pkt.raw with
    | some raw => rfl
    | none => simp [hlow]
  rw [← TcpReset.flowKeys_filtered] at hasked
  rw [TcpReset.sendRstPair]
  by_cases h : Asked flows pkt
  · rw [if_neg (hasked.mp h), if_pos h, resetsFor, ← htaken, ← hack]
  · rw [if_pos (not_not.mp (mt hasked.mpr h)), if_neg h]

theorem fits_iff (flows : List Flow) (pkt : TcpReset.Segment) :
    Fits flows pkt ↔ (Asked flows pkt → Written pkt) := by
  rw [Fits, sendRstPair_eq]
  by_cases h : Asked flows pkt
  · simp [h, Written]
  · simp [h]

/-- The segments that are not asked for neither stop the sniff nor are answered. -/
theorem answered_eq (flows : List Flow) (pkts : List TcpReset.Segment) :
    (pkts.takeWhile (Fits flows ·)).flatMap (TcpReset.sendRstPair flows) =
      ((pkts.filter (Asked flows ·)).takeWhile (Written ·)).flatMap resetsFor := by
  induction pkts with
  | nil => rfl
  | cons pkt pkts ih =>
    by_cases hasked : Asked flows pkt
    · by_cases hwritten : Written pkt
      · have hfits : Fits flows pkt := (fits_iff flows pkt).mpr fun _ => hwritten
        simp [hasked, hwritten, hfits, sendRstPair_eq flows pkt, ih]
      · have hfits : ¬Fits flows pkt := fun h => hwritten ((fits_iff flows pkt).mp h hasked)
        simp [hasked, hwritten, hfits]
    · have hfits : Fits flows pkt := (fits_iff flows pkt).mpr fun h => absurd h hasked
      simp [hasked, hfits, sendRstPair_eq flows pkt, ih]

/-- What the agent reads of the resets: their number, if the sniff ends in time and all of them fit. -/
theorem readResult_resets (fate : Fate) (packets : List TcpReset.Segment) (flows : List Flow)
    (raised : Text) :
    readResult (run fate packets fun packets error =>
      report (if (sendAll flows packets).2 then error else some raised)
        ("rstPacketsSent".toList, nat (sendAll flows packets).1.length)) =
      if fate = .ends ∧ packets.all (Fits flows ·) then
        .result (.object [("ok".toList, .bool true),
          ("rstPacketsSent".toList, nat ((packets.takeWhile (Fits flows ·)).flatMap
            (TcpReset.sendRstPair flows)).length)])
      else .failed := by
  have hkey : "rstPacketsSent".toList ≠ "ok".toList := by decide
  have hread : ∀ n error, readResult (report error ("rstPacketsSent".toList, nat n)) = _ :=
    fun n error => readResult_report (valid_nat n) hkey error
  have hfailed : ∀ (packets : List TcpReset.Segment) error, readResult (report
      (if (sendAll flows packets).2 then some error else some raised)
        ("rstPacketsSent".toList, nat (sendAll flows packets).1.length)) = .failed := by
    intro packets error
    rw [hread]
    split
    next heq => split at heq <;> cases heq
    next => rfl
  rw [readResult_run fate packets hfailed]
  cases fate with
  | ends =>
    simp only [sendAll_eq, hread, true_and]
    cases packets.all (Fits flows ·) with
    | true => rfl
    | false => rfl
  | unavailable error => simp
  | raises n error => simp
  | killed => simp

theorem injectResets_live {config : SniffConfig} (hlive : config.dryRun = false)
    (network : Network TcpReset.Segment) (fate : Fate) (raised ipAddress : Text) (flows : List Flow)
    {packets : List TcpReset.Segment}
    (hpackets : network (rstFilter ipAddress) (seconds config.tcpRstSniffMs) = packets) :
    injectResets config network fate raised ipAddress flows =
      (some (if fate = .ends ∧ packets.all (Fits flows ·) then
          .complete (some (nat ((packets.takeWhile (Fits flows ·)).flatMap
            (TcpReset.sendRstPair flows)).length))
        else .failed),
       ((fate.seen packets).takeWhile (Fits flows ·)).flatMap (TcpReset.sendRstPair flows)) := by
  have hpayload := readPayload_print 700 ipAddress config.tcpRstSniffMs (some flows)
  simp only [Option.toList_some, List.map_cons, List.map_nil, Option.getD_some] at hpayload
  have hread := readResult_resets fate packets flows raised
  have hcount : ∀ n, Json.get (.object [("ok".toList, .bool true),
      ("rstPacketsSent".toList, nat n)]) "rstPacketsSent" = some (nat n) := fun n => rfl
  simp only [injectResets, hlive, Bool.false_eq_true, if_false, rstProgram, hpayload, hpackets, hread]
  by_cases hall : fate = .ends ∧ packets.all (Fits flows ·) = true
  · simp only [if_pos hall, hcount, sendAll_eq]
  · simp only [if_neg hall, sendAll_eq]

/-- A kill sends the resets for every segment of the given flows that its sniff sees, in either
direction, up to the first whose resets cannot be written, and no other; the agent logs it complete,
with the number of resets, just where the sniff ends in time and all of them can be. -/
theorem killDevice_exact (config : SniffConfig) (network : Network TcpReset.Segment) (fate : Fate)
    (raised ipAddress : Text) (flows : List Flow) :
    let packets := network ("tcp and host ".toList ++ ipAddress)
      (max (1 / 10) (config.tcpRstSniffMs / 1000))
    let sent := (((fate.seen packets).filter (Asked flows ·)).takeWhile (Written ·)).flatMap resetsFor
    killDevice config network fate raised ipAddress flows =
      if config.enableTcpRst = false ∨ ipAddress = [] ∨ config.dryRun = true then (none, [])
      else if fate = .ends ∧ ∀ pkt ∈ packets, Asked flows pkt → Written pkt then
        (some (.complete (some (nat sent.length))), sent)
      else (some .failed, sent) := by
  intro packets sent
  rw [killDevice]
  by_cases hoff : config.enableTcpRst = false ∨ ipAddress = []
  · rw [if_pos hoff, if_pos (hoff.elim Or.inl fun hip => Or.inr (Or.inl hip))]
  · rw [if_neg hoff]
    cases hdry : config.dryRun with
    | true => simp [injectResets, hdry]
    | false =>
      have hon : ¬(config.enableTcpRst = false ∨ ipAddress = [] ∨ false = true) := by simpa using hoff
      have hlive := injectResets_live hdry network fate raised ipAddress flows
        (show network (rstFilter ipAddress) (seconds config.tcpRstSniffMs) = packets from rfl)
      have hwritten : packets.all (Fits flows ·) = true ↔ ∀ pkt ∈ packets, Asked flows pkt → Written pkt := by
        simp only [List.all_eq_true, decide_eq_true_eq, fits_iff]
      rw [if_neg hon, hlive, answered_eq, answered_eq]
      simp only [hwritten]
      by_cases hall : fate = .ends ∧ ∀ pkt ∈ packets, Asked flows pkt → Written pkt
      · have hseen : fate.seen packets = packets := by rw [hall.1, Fate.seen]
        simp only [if_pos hall, sent, hseen]
      · simp only [if_neg hall, sent]

end SniffPrograms

end GuardTime
