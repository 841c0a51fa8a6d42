import GuardTime.NeighbourLines
import GuardTime.OrderedMap
import GuardTime.RouterDiscovery

namespace GuardTime.RouterDiscovery

open Neighbours (digitsAt firstMac)

/-- The numbers of `\d{1,3}(?:\.\d{1,3}){3}` at the start of a text, with `n` of them before the last. -/
def octetsAt : Nat → Text → Option Text
  | 0, text =>
    let digits := (text.take 3).takeWhile Char.isDigit
    if digits = [] then none else some digits
  | n + 1, text =>
    (digitsAt text).bind fun found =>
      if found.2.head? = some '.' then (octetsAt n found.2.tail).map (found.1 ++ '.' :: ·) else none

def defaultVia : Text := "default via ".toList

def defaultViaAt (text : Text) : Option Text :=
  if text.take defaultVia.length = defaultVia then octetsAt 3 (text.drop defaultVia.length) else none

/-- What `ip route show default` prints names the gateway; a command that fails names none. -/
def getDefaultGatewayIp (stdout : Option Text) : Option String :=
  stdout.bind fun stdout => (scan (fun _ => defaultViaAt) none stdout).map String.ofList

def getGatewayMac (stdout : Option Text) : Option Text :=
  stdout.bind fun stdout => (firstMac stdout).map lowerCase

/-- Headers by their names in lower case. -/
abbrev Headers := OrderedMap Text Text

section Headers

variable (toLowerCase : Text → Text)

def headerLine (line : Text) : Option (Text × Text) :=
  if ':' ∈ line then
    some (toLowerCase (DotEnv.trim (line.takeWhile (· ≠ ':'))),
      DotEnv.trim (line.dropWhile (· ≠ ':')).tail)
  else none

/-- A string that is assigned to this property of an object is dropped. -/
def protoKey : Text := "__proto__".toList

def setHeader (headers : Headers) (line : Text) : Headers :=
  match headerLine toLowerCase line with
  | some (name, value) => if name = protoKey then headers else headers.set name value
  | none => headers

/-- The names are put in lower case by JavaScript, whose letters are those of Unicode. -/
def parseSsdpResponse (raw : Text) : Headers := (splitLines raw).foldl (setHeader toLowerCase) .empty

end Headers

def serverKey : Text := "server".toList

/-- What comes to the socket of a probe, with datagrams by the texts they are decoded to. -/
inductive SocketEvent where
  | message (address : String) (text : Text)
  | error
  | timeout
deriving DecidableEq

def SocketEvent.ends : SocketEvent → Bool
  | .message _ _ => false
  | .error | .timeout => true

/-- The closure of a probe's promise: `closes` counts the calls of `socket.close`, and `resolved` has
what `resolve` was called with. -/
structure Probe (α β : Type) where
  responses : List α
  finished : Bool
  closes : Nat
  resolved : List β
deriving DecidableEq

section Probes

variable {α β : Type}

def Probe.start : Probe α β := ⟨[], false, 0, []⟩

def Probe.finish (settle : List α → β) (probe : Probe α β) : Probe α β :=
  if probe.finished then probe
  else ⟨probe.responses, true, probe.closes + 1, probe.resolved ++ [settle probe.responses]⟩

/-- A socket that is closed gets no datagrams. -/
def Probe.step (parse : Text → α) (settle : List α → β) (gatewayIp : String) (probe : Probe α β) :
    SocketEvent → Probe α β
  | .message address text =>
    if probe.finished then probe
    else if gatewayIp ≠ "" ∧ address ≠ gatewayIp then probe
    else { probe with responses := probe.responses ++ [parse text] }
  | .error => probe.finish settle
  | .timeout => probe.finish settle

end Probes

def ssdpDiscover (toLowerCase : Text → Text) (gatewayIp : String) (events : List SocketEvent) :
    Probe Headers (List Headers) :=
  events.foldl (Probe.step (parseSsdpResponse toLowerCase) id gatewayIp) Probe.start

def Vendor.name : Vendor → String
  | .AVM => "AVM"
  | .MikroTik => "MikroTik"
  | .OpenWrt => "OpenWrt"
  | .Ubiquiti => "Ubiquiti"
  | .GLiNet => "GL.iNet"
  | .DrayTek => "DrayTek"
  | .Keenetic => "Keenetic"
  | .Linksys => "Linksys"
  | .TPLink => "TP-Link"
  | .ASUS => "ASUS"
  | .Netgear => "Netgear"
  | .DLink => "D-Link"
  | .Belkin => "Belkin"
  | .Synology => "Synology"
  | .Zyxel => "Zyxel"
  | .Cisco => "Cisco"
  | .Buffalo => "Buffalo"
  | .Mercusys => "Mercusys"
  | .Tenda => "Tenda"
  | .Xiaomi => "Xiaomi"
  | .Huawei => "Huawei"
  | .TOTOLINK => "TOTOLINK"
  | .Sercomm => "Sercomm"
  | .Actiontec => "Actiontec"
  | .Hitron => "Hitron"
  | .Comtrend => "Comtrend"
  | .Nokia => "Nokia"
  | .Sagemcom => "Sagemcom"
  | .Technicolor => "Technicolor"
  | .Arris => "Arris"
  | .Arcadyan => "Arcadyan"

/-- The vendor of the first text that names one. -/
def firstVendor (texts : List (Option Text)) : Option Vendor :=
  texts.findSome? fun text => identifyVendorFromText (text.map String.ofList)

def mdnsProbe (gatewayIp : String) (events : List SocketEvent) : Probe Text (Option Vendor) :=
  events.foldl (Probe.step id (fun responses => firstVendor (responses.map some)) gatewayIp) Probe.start

structure HttpAnswer where
  server : Option Text
  wwwAuthenticate : Option Text
  body : Text
deriving DecidableEq

def TITLE : Text := "<title>".toList

def TITLE_END : Text := "</title>".toList

/-- `<title>([^<]+)<\/title>` at the start of a text, in upper or lower case. -/
def titleAt (text : Text) : Option Text :=
  let rest := text.drop TITLE.length
  let title := rest.takeWhile (· ≠ '<')
  if (text.take TITLE.length).map Char.toLower = TITLE ∧ title ≠ [] ∧
      ((rest.dropWhile (· ≠ '<')).take TITLE_END.length).map Char.toLower = TITLE_END then some title
  else none

structure HttpResult where
  vendor : Option Vendor
  detail : Option Text
deriving DecidableEq

/-- A page that does not answer in time gives nothing. -/
def httpHeaderProbe : Option HttpAnswer → HttpResult
  | none => ⟨none, none⟩
  | some answer =>
    let bodyText := answer.body.take 4000
    ⟨firstVendor [answer.server, answer.wwwAuthenticate, some bodyText],
      scan (fun _ => titleAt) none bodyText⟩

def OUI_VENDORS : List (String × String) := [
  ("3c:06:30", "Apple"), ("a4:83:e7", "Apple"), ("f0:18:98", "Apple"), ("ac:de:48", "Apple"),
  ("00:1e:c2", "Apple"), ("8c:79:f5", "Samsung"), ("5c:0a:5b", "Samsung"), ("34:23:87", "Samsung"),
  ("54:60:09", "Google"), ("f4:f5:d8", "Google"), ("44:65:0d", "Amazon"), ("fc:65:de", "Amazon"),
  ("b8:27:eb", "Raspberry Pi Foundation"), ("dc:a6:32", "Raspberry Pi Foundation"),
  ("e4:5f:01", "Raspberry Pi Foundation"), ("24:6f:28", "Espressif"), ("30:ae:a4", "Espressif"),
  ("3c:71:bf", "Espressif"), ("00:15:5d", "Microsoft"), ("7c:1e:52", "Microsoft"),
  ("00:1b:21", "Intel"), ("3c:a9:f4", "Intel"), ("34:ce:00", "Xiaomi"), ("64:09:80", "Xiaomi"),
  ("5c:aa:fd", "Sonos"), ("50:c7:bf", "TP-Link"), ("ec:08:6b", "TP-Link"), ("00:09:bf", "Nintendo"),
  ("98:b6:e9", "Nintendo"), ("00:04:1f", "Sony"), ("ac:9b:0a", "Sony"), ("00:04:0e", "AVM"),
  ("34:31:c4", "AVM"), ("9c:c7:a6", "AVM"), ("4c:5e:0c", "MikroTik"), ("6c:3b:6b", "MikroTik"),
  ("48:8f:5a", "MikroTik"), ("24:a4:3c", "Ubiquiti"), ("04:18:d6", "Ubiquiti"),
  ("80:2a:a8", "Ubiquiti"), ("94:83:c4", "GL.iNet"), ("20:e5:2a", "Netgear"),
  ("a0:40:a0", "Netgear"), ("1c:87:2c", "ASUS"), ("04:d4:c4", "ASUS"), ("48:f8:b3", "Linksys"),
  ("c0:56:27", "Linksys"), ("14:d6:4d", "D-Link"), ("90:94:e4", "D-Link"), ("00:1d:aa", "DrayTek"),
  ("00:11:32", "Synology"), ("00:16:01", "Buffalo"), ("00:e0:fc", "Huawei"), ("4c:1f:cc", "Huawei")]

/-- The vendor of the first three octets of an address. -/
def lookupVendor (macAddress : Text) : Option String :=
  let leading := List.intercalate [':'] (((lowerCase macAddress).splitOn ':').take 3)
  OUI_VENDORS.lookup (String.ofList leading)

inductive DetectionMethod where
  | SSDP
  | HTTP_HEADER
  | MDNS
  | OUI_LOOKUP
deriving DecidableEq

/-- `model` is the only one of the other members of the result that is ever set. -/
structure RouterInfo where
  vendor : Option String
  model : Option Text
  detectionMethod : Option DetectionMethod
  confidence : Nat
  ipAddress : Option String
  macOui : Option String
deriving DecidableEq

def EMPTY_RESULT : RouterInfo := ⟨none, none, none, 0, none, none⟩

/-- What the outside gives to one discovery: what the two commands print, what comes to the sockets,
and the router's page. -/
structure Surroundings where
  route : Option Text
  neigh : Option Text
  ssdp : List SocketEvent
  http : Option HttpAnswer
  mdns : List SocketEvent

/-- The first signal that names a vendor decides; none where a probe is still waited for. -/
def discoverRouter (toLowerCase : Text → Text) (w : Surroundings) : Option RouterInfo :=
  match getDefaultGatewayIp w.route with
  | none => some EMPTY_RESULT
  | some gatewayIp =>
    let macOui := (getGatewayMac w.neigh).bind lookupVendor
    let found := { EMPTY_RESULT with ipAddress := some gatewayIp, macOui := macOui }
    (ssdpDiscover toLowerCase gatewayIp w.ssdp).resolved.head?.bind fun ssdpResponses =>
      match firstVendor (ssdpResponses.map fun headers => headers.get serverKey) with
      | some vendor => some { found with
          vendor := some vendor.name, detectionMethod := some .SSDP, confidence := 90 }
      | none =>
        let httpResult := httpHeaderProbe w.http
        match httpResult.vendor with
        | some vendor => some { found with
            vendor := some vendor.name, model := httpResult.detail,
            detectionMethod := some .HTTP_HEADER, confidence := 70 }
        | none =>
          (mdnsProbe gatewayIp w.mdns).resolved.head?.map fun mdnsResult =>
            match mdnsResult, macOui with
            | some vendor, _ => { found with
                vendor := some vendor.name, detectionMethod := some .MDNS, confidence := 60 }
            | none, some vendor => { found with
                vendor := some vendor, detectionMethod := some .OUI_LOOKUP, confidence := 40 }
            | none, none => found

variable (toLowerCase : Text → Text)

/-- The value of a header in a line, if it is there. -/
def headerIn (key : Text) (line : Text) : Option Text :=
  (headerLine toLowerCase line).bind fun header => if header.1 = key then some header.2 else none

theorem parse_get (raw : Text) {key : Text} (hkey : key ≠ protoKey) :
    (parseSsdpResponse toLowerCase raw).get key =
      (splitLines raw).reverse.findSome? (headerIn toLowerCase key) := by
  suffices h : ∀ (lines : List Text) (headers : Headers),
      (lines.foldl (setHeader toLowerCase) headers).get key =
        (lines.reverse.findSome? (headerIn toLowerCase key)).or (headers.get key) by
    rw [parseSsdpResponse, h, OrderedMap.get_empty, Option.or_none]
  intro lines
  induction lines with
  | nil => exact fun headers => rfl
  | cons line lines ih =>
    intro headers
    rw [List.foldl_cons, ih, List.reverse_cons, List.findSome?_append, Option.or_assoc]
    congr 1
    cases hline : headerLine toLowerCase line with
    | none => simp [setHeader, headerIn, hline]
    | some header =>
      obtain ⟨name, value⟩ := header
      by_cases hproto : name = protoKey
      · have hne : name ≠ key := fun heq => hkey (heq.symm.trans hproto)
        simp only [setHeader, hline, if_pos hproto, headerIn, Option.bind_some, if_neg hne,
          List.findSome?_singleton, Option.none_or]
      · simp only [setHeader, hline, if_neg hproto, headerIn, Option.bind_some, OrderedMap.get_set,
          List.findSome?_singleton]
        by_cases hname : name = key
        · simp [hname]
        · simp [hname, Ne.symm hname]

/-- No blank stands on either side. -/
def Edged (text : Text) : Prop :=
  (∀ c ∈ text.head?, DotEnv.isSpace c = false) ∧ ∀ c ∈ text.getLast?, DotEnv.isSpace c = false

structure HeaderField where
  name : Text
  value : Text
  name_edged : Edged name
  value_edged : Edged value
  name_plain : ∀ c ∈ name, c ≠ ':' ∧ c ≠ '\n'
  value_line : '\n' ∉ value

def HeaderField.line (field : HeaderField) : Text := field.name ++ ':' :: ' ' :: field.value

/-- A message of a status line and header fields, with carriage returns. -/
def ssdpMessage (status : Text) (fields : List HeaderField) : Text :=
  status ++ '\r' :: '\n' :: fields.flatMap (fun field => field.line ++ ['\r', '\n']) ++ ['\r', '\n']

theorem trim_edged {text : Text} (h : Edged text) : DotEnv.trim text = text :=
  DotEnv.trim_self h.1 h.2

theorem trim_blank {value : Text} (h : Edged value) : DotEnv.trim (' ' :: value) = value := by
  have hblank : DotEnv.isSpace ' ' = true := by decide
  cases value with
  | nil => rfl
  | cons c value =>
    have hlast : (' ' :: c :: value).rdropWhile DotEnv.isSpace = ' ' :: c :: value := by
      rw [List.rdropWhile_eq_self_iff]
      intro hne
      rw [List.getLast_cons (List.cons_ne_nil c value)]
      simpa using h.2 _ (List.getLast?_eq_some_getLast (List.cons_ne_nil c value))
    have hhead : ¬DotEnv.isSpace c = true := by simpa using h.1 c rfl
    rw [DotEnv.trim, trimmed, hlast, List.dropWhile_cons_of_pos hblank,
      List.dropWhile_cons_of_neg hhead]

theorem HeaderField.headerLine (field : HeaderField) :
    headerLine toLowerCase (dropReturn (field.line ++ ['\r'])) =
      some (toLowerCase field.name, field.value) := by
  have hdrop : dropReturn (field.line ++ ['\r']) = field.line := by simp [dropReturn]
  have hcolon : ∀ c ∈ field.name, decide (c ≠ ':') = true :=
    fun c hc => decide_eq_true (field.name_plain c hc).1
  have hname : field.line.takeWhile (· ≠ ':') = field.name := by
    rw [HeaderField.line, List.takeWhile_append_of_pos hcolon]
    simp
  have hrest : field.line.dropWhile (· ≠ ':') = ':' :: ' ' :: field.value := by
    rw [HeaderField.line, List.dropWhile_append_of_pos hcolon]
    simp
  have hmem : ':' ∈ field.line := by simp [HeaderField.line]
  rw [hdrop, RouterDiscovery.headerLine, if_pos hmem, hname, hrest, List.tail_cons,
    trim_edged field.name_edged, trim_blank field.value_edged]

theorem HeaderField.line_newline (field : HeaderField) : '\n' ∉ field.line ++ ['\r'] := by
  have hname : '\n' ∉ field.name := fun h => (field.name_plain _ h).2 rfl
  simp [HeaderField.line, hname, field.value_line]

theorem splitLines_fields (fields : List HeaderField) :
    splitLines (fields.flatMap (fun field => field.line ++ ['\r', '\n']) ++ ['\r', '\n']) =
      fields.map (fun field => dropReturn (field.line ++ ['\r'])) ++ [[], []] := by
  induction fields with
  | nil => rfl
  | cons field fields ih =>
    have hline : (field :: fields).flatMap (fun field => field.line ++ ['\r', '\n']) ++ ['\r', '\n'] =
        (field.line ++ ['\r']) ++ '\n' ::
          (fields.flatMap (fun field => field.line ++ ['\r', '\n']) ++ ['\r', '\n']) := by simp
    rw [hline, splitLines_line_append field.line_newline, ih, List.map_cons, List.cons_append]

/-- A message is read back: a header is found by its name in any letters, and has the value of the
last field of that name. -/
theorem parseSsdpResponse_message {status : Text} (hstatus : ∀ c ∈ status, c ≠ ':' ∧ c ≠ '\n')
    (fields : List HeaderField) {key : Text} (hkey : key ≠ protoKey) :
    (parseSsdpResponse toLowerCase (ssdpMessage status fields)).get key =
      (fields.reverse.find? fun field => toLowerCase field.name = key).map HeaderField.value := by
  have hfirst : '\n' ∉ status ++ ['\r'] := by
    have hnot : '\n' ∉ status := fun h => (hstatus _ h).2 rfl
    simp [hnot]
  have hmessage : ssdpMessage status fields = (status ++ ['\r']) ++ '\n' ::
      (fields.flatMap (fun field => field.line ++ ['\r', '\n']) ++ ['\r', '\n']) := by
    simp [ssdpMessage]
  have hnone : headerIn toLowerCase key (dropReturn (status ++ ['\r'])) = none := by
    have hcolon : ':' ∉ status := fun h => (hstatus _ h).1 rfl
    simp [headerIn, headerLine, dropReturn, hcolon]
  have hblank : headerIn toLowerCase key [] = none := by simp [headerIn, headerLine]
  have hfields : ∀ fields : List HeaderField,
      (fields.map fun field => dropReturn (field.line ++ ['\r'])).findSome? (headerIn toLowerCase key) =
        (fields.find? fun field => toLowerCase field.name = key).map HeaderField.value := by
    intro fields
    induction fields with
    | nil => rfl
    | cons field fields ih =>
      rw [List.map_cons, List.findSome?_cons, headerIn, field.headerLine toLowerCase, Option.bind_some,
        List.find?_cons]
      by_cases hname : toLowerCase field.name = key
      · simp [hname]
      · simp [hname, ih]
  rw [parse_get toLowerCase _ hkey, hmessage, splitLines_line_append hfirst, splitLines_fields,
    List.reverse_cons, List.reverse_append, ← List.map_reverse, List.findSome?_append,
    List.findSome?_append, hfields]
  simp [hnone, hblank]

/-- A message with two fields of one name, in different letters. -/
def serverFields : List HeaderField := [
  { name := "SERVER".toList
    value := "FRITZ!OS UPnP/1.0".toList
    name_edged := by simp [Edged, DotEnv.isSpace]
    value_edged := by simp [Edged, DotEnv.isSpace]
    name_plain := by simp
    value_line := by simp },
  { name := "Server".toList
    value := "OpenWrt".toList
    name_edged := by simp [Edged, DotEnv.isSpace]
    value_edged := by simp [Edged, DotEnv.isSpace]
    name_plain := by simp
    value_line := by simp }]

theorem parseSsdpResponse_server :
    (parseSsdpResponse lowerCase (ssdpMessage "HTTP/1.1 200 OK".toList serverFields)).get serverKey =
      some "OpenWrt".toList := by
  have hstatus : ∀ c ∈ "HTTP/1.1 200 OK".toList, c ≠ ':' ∧ c ≠ '\n' := by simp
  rw [parseSsdpResponse_message lowerCase hstatus serverFields (by decide)]
  decide +kernel

/-- What the gateway itself sends before a probe ends. -/
def heard (gatewayIp : String) : List SocketEvent → List Text
  | [] => []
  | .message address text :: events =>
    if address = gatewayIp then text :: heard gatewayIp events else heard gatewayIp events
  | .error :: _ => []
  | .timeout :: _ => []

def Ends (events : List SocketEvent) : Prop := events.any SocketEvent.ends = true

section Runs

variable {α β : Type}

/-- A probe that has ended, with what it resolved to. -/
def Probe.settled (responses : List α) (value : β) : Probe α β := ⟨responses, true, 1, [value]⟩

/-- The socket was closed once, and the promise resolved once. -/
def Probe.ClosedOnce (probe : Probe α β) : Prop :=
  probe.finished = true ∧ probe.closes = 1 ∧ probe.resolved.length = 1

theorem Probe.settled_closedOnce (responses : List α) (value : β) :
    (Probe.settled responses value).ClosedOnce := ⟨rfl, rfl, rfl⟩

variable {parse : Text → α} {settle : List α → β} {gatewayIp : String}

theorem run_finished (events : List SocketEvent) {probe : Probe α β} (h : probe.finished = true) :
    events.foldl (Probe.step parse settle gatewayIp) probe = probe := by
  induction events with
  | nil => rfl
  | cons event events ih =>
    have hstep : Probe.step parse settle gatewayIp probe event = probe := by
      cases event <;> simp [Probe.step, Probe.finish, h]
    rw [List.foldl_cons, hstep, ih]

/-- A probe hears the gateway alone, and its promise is resolved once, when it first ends. -/
theorem run_heard (hip : gatewayIp ≠ "") {events : List SocketEvent} (hends : Ends events)
    (responses : List α) :
    events.foldl (Probe.step parse settle gatewayIp) ⟨responses, false, 0, []⟩ =
      ⟨responses ++ (heard gatewayIp events).map parse, true, 1,
        [settle (responses ++ (heard gatewayIp events).map parse)]⟩ := by
  induction events generalizing responses with
  | nil => simp [Ends] at hends
  | cons event events ih =>
    cases event with
    | message address text =>
      have hrest : Ends events := by simpa [Ends, SocketEvent.ends] using hends
      by_cases haddress : address = gatewayIp
      · simp [Probe.step, heard, haddress, ih hrest]
      · simp [Probe.step, heard, haddress, hip, ih hrest]
    | error => simpa [Probe.step, Probe.finish, heard] using run_finished events rfl
    | timeout => simpa [Probe.step, Probe.finish, heard] using run_finished events rfl

end Runs

theorem octetsAt_ne {n : Nat} {text found : Text} (h : octetsAt n text = some found) : found ≠ [] := by
  cases n with
  | zero =>
    simp only [octetsAt] at h
    split at h
    next => simp at h
    next hne => exact Option.some.inj h ▸ hne
  | succ n =>
    simp only [octetsAt, Option.bind_eq_some_iff] at h
    obtain ⟨number, -, h⟩ := h
    split at h
    next =>
      obtain ⟨more, -, rfl⟩ := Option.map_eq_some_iff.mp h
      simp
    next => simp at h

theorem getDefaultGatewayIp_ne {stdout : Option Text} {gatewayIp : String}
    (h : getDefaultGatewayIp stdout = some gatewayIp) : gatewayIp ≠ "" := by
  obtain ⟨stdout, -, h⟩ := Option.bind_eq_some_iff.mp h
  obtain ⟨found, hfound, rfl⟩ := Option.map_eq_some_iff.mp h
  obtain ⟨left, right, -, hat, -⟩ := exists_leftmost hfound
  have hoctets : octetsAt 3 (right.drop defaultVia.length) = some found := by
    unfold defaultViaAt at hat
    split at hat
    next => exact hat
    next => simp at hat
  have hne := octetsAt_ne hoctets
  intro heq
  exact hne (by simpa using congrArg String.toList heq)

section Discovery

variable (toLowerCase : Text → Text)

/-- The `server` headers of what the gateway answers: of the last line that names one. -/
def servers (gatewayIp : String) (w : Surroundings) : List (Option Text) :=
  (heard gatewayIp w.ssdp).map fun text => (splitLines text).reverse.findSome? (headerIn toLowerCase serverKey)

/-- What each signal says of the vendor, the most confident one first. -/
def evidence (gatewayIp : String) (w : Surroundings) : List (DetectionMethod × Nat × Option String) := [
  (.SSDP, 90, (firstVendor (servers toLowerCase gatewayIp w)).map Vendor.name),
  (.HTTP_HEADER, 70, (httpHeaderProbe w.http).vendor.map Vendor.name),
  (.MDNS, 60, (firstVendor ((heard gatewayIp w.mdns).map some)).map Vendor.name),
  (.OUI_LOOKUP, 40, (getGatewayMac w.neigh).bind lookupVendor)]

/-- A method, its confidence and the vendor it names. -/
def decided (signals : List (DetectionMethod × Nat × Option String)) :
    Option (DetectionMethod × Nat × String) :=
  signals.findSome? fun signal => signal.2.2.map fun vendor => (signal.1, signal.2.1, vendor)

theorem ssdpDiscover_settled {gatewayIp : String} (hip : gatewayIp ≠ "") {events : List SocketEvent}
    (hends : Ends events) : ssdpDiscover toLowerCase gatewayIp events =
      .settled ((heard gatewayIp events).map (parseSsdpResponse toLowerCase))
        ((heard gatewayIp events).map (parseSsdpResponse toLowerCase)) := by
  rw [ssdpDiscover, Probe.start, run_heard hip hends]
  rfl

theorem mdnsProbe_settled {gatewayIp : String} (hip : gatewayIp ≠ "") {events : List SocketEvent}
    (hends : Ends events) : mdnsProbe gatewayIp events =
      .settled (heard gatewayIp events) (firstVendor ((heard gatewayIp events).map some)) := by
  rw [mdnsProbe, Probe.start, run_heard hip hends, List.nil_append, List.map_id]
  rfl

theorem ssdp_servers (texts : List Text) :
    ((texts.map (parseSsdpResponse toLowerCase)).map fun headers => headers.get serverKey) =
      texts.map fun text => (splitLines text).reverse.findSome? (headerIn toLowerCase serverKey) := by
  have hkey : serverKey ≠ protoKey := by decide
  rw [List.map_map]
  exact List.map_congr_left fun text _ => parse_get toLowerCase text hkey

/-- A discovery in terms of what its probes hear. -/
def report (gatewayIp : String) (w : Surroundings) : RouterInfo :=
  let macOui := (getGatewayMac w.neigh).bind lookupVendor
  let found := { EMPTY_RESULT with ipAddress := some gatewayIp, macOui := macOui }
  match firstVendor (servers toLowerCase gatewayIp w), (httpHeaderProbe w.http).vendor,
    firstVendor ((heard gatewayIp w.mdns).map some), macOui with
  | some vendor, _, _, _ => { found with
      vendor := some vendor.name, detectionMethod := some .SSDP, confidence := 90 }
  | none, some vendor, _, _ => { found with
      vendor := some vendor.name, model := (httpHeaderProbe w.http).detail,
      detectionMethod := some .HTTP_HEADER, confidence := 70 }
  | none, none, some vendor, _ => { found with
      vendor := some vendor.name, detectionMethod := some .MDNS, confidence := 60 }
  | none, none, none, some vendor => { found with
      vendor := some vendor, detectionMethod := some .OUI_LOOKUP, confidence := 40 }
  | none, none, none, none => found

theorem discoverRouter_report {w : Surroundings} {gatewayIp : String}
    (hip : getDefaultGatewayIp w.route = some gatewayIp) (hssdp : Ends w.ssdp) (hmdns : Ends w.mdns) :
    discoverRouter toLowerCase w = some (report toLowerCase gatewayIp w) := by
  have hne := getDefaultGatewayIp_ne hip
  rw [discoverRouter, hip]
  simp only [ssdpDiscover_settled toLowerCase hne hssdp, mdnsProbe_settled hne hmdns, Probe.settled,
    List.head?_cons,
    Option.bind_some, Option.map_some, ssdp_servers, report, servers]
  cases firstVendor ((heard gatewayIp w.ssdp).map fun text =>
      (splitLines text).reverse.findSome? (headerIn toLowerCase serverKey)) with
  | some vendor => rfl
  | none =>
    cases (httpHeaderProbe w.http).vendor with
    | some vendor => rfl
    | none =>
      cases firstVendor ((heard gatewayIp w.mdns).map some) with
      | some vendor => rfl
      | none => cases (getGatewayMac w.neigh).bind lookupVendor <;> rfl

theorem report_congr {w w' : Surroundings} {gatewayIp : String} (hneigh : w'.neigh = w.neigh)
    (hhttp : w'.http = w.http) (hssdp : heard gatewayIp w'.ssdp = heard gatewayIp w.ssdp)
    (hmdns : heard gatewayIp w'.mdns = heard gatewayIp w.mdns) :
    report toLowerCase gatewayIp w' = report toLowerCase gatewayIp w := by
  simp only [report, servers, hneigh, hhttp, hssdp, hmdns]

end Discovery

/-- Another host answers as a MikroTik router, and the gateway as an OpenWrt one. -/
def spoofedSurroundings : Surroundings where
  route := some "default via 192.168.1.1 dev eth0".toList
  neigh := none
  ssdp := [.message "192.168.1.66" "SERVER: RouterOS".toList,
    .message "192.168.1.1" "HTTP/1.1 200 OK\r\nServer: OpenWrt UPnP/1.1\r\n".toList, .timeout]
  http := none
  mdns := [.timeout]

end GuardTime.RouterDiscovery
