import GuardTime.ConnectionKiller
import GuardTime.NumberText
import GuardTime.OrderedMap

namespace GuardTime

namespace Conntrack

open DotEnv

inductive Direction where
  | source
  | destination
deriving DecidableEq

inductive Args where
  | list (protocol : Protocol) (direction : Direction) (ipAddress : String)
  | delete (direction : Direction) (ipAddress : String)
deriving DecidableEq

/-- How a run of the program ends: it rejects when no entry matched, and for every other reason. -/
inductive Exec where
  | finished (stdout : Text)
  | noMatchingEntries (stdout : Text)
  | failed (stdout : Text)

structure RunResult where
  ok : Bool
  stdout : Text

/-- The runs of the program that a call makes, with how each ends, and its value unless it throws. -/
abbrev Call (α : Type) := List (Args × Exec) × Option α

/-- `run`, which throws only where failures are not ignored. -/
def run (config : Config) (exec : Args → Exec) (args : Args) (ignoreFailure : Bool) :
    Call RunResult :=
  if config.dryRun then ([], some ⟨true, []⟩)
  else
    ([(args, exec args)],
      match exec args with
      | .finished stdout => some ⟨true, stdout⟩
      | .noMatchingEntries stdout => if ignoreFailure then some ⟨false, stdout⟩ else none
      | .failed stdout => if ignoreFailure then some ⟨false, stdout⟩ else none)

def Call.andThen {α β : Type} (first : Call α) (next : α → Call β) : Call β :=
  match first.2 with
  | some value => (first.1 ++ (next value).1, (next value).2)
  | none => (first.1, none)

def deleteBySource (config : Config) (exec : Args → Exec) (ipAddress : String) : Call Unit :=
  Call.andThen (run config exec (.delete .source ipAddress) true) fun _ => ([], some ())

def deleteByDestination (config : Config) (exec : Args → Exec) (ipAddress : String) : Call Unit :=
  Call.andThen (run config exec (.delete .destination ipAddress) true) fun _ => ([], some ())

def killDevice (config : Config) (exec : Args → Exec) (ipAddress : String) : Call Unit :=
  if config.enableConntrackKill = false ∨ ipAddress = "" then ([], some ())
  else
    Call.andThen (deleteBySource config exec ipAddress) fun _ =>
      deleteByDestination config exec ipAddress

def isWordChar (c : Char) : Bool := c.isAlphanum || c = '_'

def KEYS : List Text := ["src".toList, "dst".toList, "sport".toList, "dport".toList]

/-- The key and the value that the expression matches at the start of a text. -/
def pairAt (text : Text) : Option (Text × Text) :=
  (KEYS.find? fun key => (key ++ ['=']).isPrefixOf text).bind fun key =>
    let value := text.drop (key.length + 1)
    if value = [] then none else some (key, value)

/-- The first match in a text without white space, which reaches to its end. The key stands behind
a character that belongs to no word. -/
def firstPair (inWord : Bool) : Text → Option (Text × Text)
  | [] => none
  | c :: rest =>
    if inWord then firstPair (isWordChar c) rest
    else
      match pairAt (c :: rest) with
      | some pair => some pair
      | none => firstPair (isWordChar c) rest

def Protocol.name : Protocol → Text
  | .tcp => "tcp".toList
  | .udp => "udp".toList

/-- `parseConntrackLine`. Where a port is no number from 0 on, which `conntrack` never prints, there
is no flow here. -/
def parseConntrackLine (protocol : Protocol) (line : Text) : Option Flow :=
  if includes line (Protocol.name protocol) = false then none
  else
    let pairs := (line.splitOnP isSpace).filterMap (firstPair false)
    if pairs.length < 4 then none
    else
      let original := fun key : String => (pairs.find? fun pair => pair.1 = key.toList).map Prod.snd
      match original "src", original "dst", original "sport", original "dport" with
      | some src, some dst, some sport, some dport =>
        match (parseInt sport).bind Int.toNat?, (parseInt dport).bind Int.toNat? with
        | some sport, some dport => some ⟨String.ofList src, String.ofList dst, sport, dport⟩
        | _, _ => none
      | _, _, _, _ => none

/-- The key of a connection in `uniqueConnections`. -/
def connectionKey (connection : Flow) : String :=
  connection.src ++ ":" ++ toString connection.sport ++ "->" ++ connection.dst ++ ":" ++
    toString connection.dport

def uniqueConnections (connections : List Flow) : List Flow :=
  (connections.foldl (fun map connection => map.set (connectionKey connection) connection)
    (OrderedMap.empty : OrderedMap String Flow)).values

def list (config : Config) (exec : Args → Exec) (protocol : Protocol) (direction : Direction)
    (ipAddress : String) : Call (List Flow) :=
  Call.andThen (run config exec (.list protocol direction ipAddress) true) fun result =>
    ([], some (if result.ok = false then []
      else (splitLines result.stdout).filterMap (parseConntrackLine protocol)))

def listTcpConnections (config : Config) (exec : Args → Exec) (ipAddress : String) :
    Call (List Flow) :=
  if ipAddress = "" then ([], some [])
  else
    Call.andThen (list config exec .tcp .source ipAddress) fun bySource =>
      Call.andThen (list config exec .tcp .destination ipAddress) fun byDestination =>
        ([], some (uniqueConnections (bySource ++ byDestination)))

def listUdpConnections (config : Config) (exec : Args → Exec) (ipAddress : String) :
    Call (List Flow) :=
  if ipAddress = "" then ([], some [])
  else
    Call.andThen (list config exec .udp .source ipAddress) fun bySource =>
      ([], some (uniqueConnections bySource))

theorem Call.andThen_some {α β : Type} {first : Call α} {value : α} (h : first.2 = some value)
    (next : α → Call β) :
    Call.andThen first next = (first.1 ++ (next value).1, (next value).2) := by
  simp [Call.andThen, h]

/-- The value of a run whose failure is ignored. -/
def ignored (config : Config) (exec : Args → Exec) (args : Args) : RunResult :=
  if config.dryRun then ⟨true, []⟩
  else
    match exec args with
    | .finished stdout => ⟨true, stdout⟩
    | .noMatchingEntries stdout => ⟨false, stdout⟩
    | .failed stdout => ⟨false, stdout⟩

def started (config : Config) (exec : Args → Exec) (args : Args) : List (Args × Exec) :=
  if config.dryRun then [] else [(args, exec args)]

theorem run_ignoring (config : Config) (exec : Args → Exec) (args : Args) :
    run config exec args true = (started config exec args, some (ignored config exec args)) := by
  unfold run started ignored
  split
  next => rfl
  next =>
    cases exec args with
    | finished stdout => rfl
    | noMatchingEntries stdout => rfl
    | failed stdout => rfl

theorem deleteBySource_eq (config : Config) (exec : Args → Exec) (ipAddress : String) :
    deleteBySource config exec ipAddress =
      (started config exec (.delete .source ipAddress), some ()) := by
  rw [deleteBySource, run_ignoring, Call.andThen_some rfl, List.append_nil]

theorem deleteByDestination_eq (config : Config) (exec : Args → Exec) (ipAddress : String) :
    deleteByDestination config exec ipAddress =
      (started config exec (.delete .destination ipAddress), some ()) := by
  rw [deleteByDestination, run_ignoring, Call.andThen_some rfl, List.append_nil]

/-- Whatever its commands end in, `killDevice` fulfils, after it has started both. -/
theorem killDevice_eq (config : Config) (exec : Args → Exec) {ipAddress : String}
    (hip : ipAddress ≠ "") :
    killDevice config exec ipAddress =
      (if config.enableConntrackKill then
        started config exec (.delete .source ipAddress) ++
          started config exec (.delete .destination ipAddress) else [], some ()) := by
  unfold killDevice
  cases he : config.enableConntrackKill with
  | false => simp
  | true =>
    rw [if_neg (by simp [hip]), deleteBySource_eq, Call.andThen_some rfl, deleteByDestination_eq]
    rfl

def listed (config : Config) (exec : Args → Exec) (protocol : Protocol) (direction : Direction)
    (ipAddress : String) : List Flow :=
  let result := ignored config exec (.list protocol direction ipAddress)
  if result.ok = false then []
  else (splitLines result.stdout).filterMap (parseConntrackLine protocol)

theorem list_value (config : Config) (exec : Args → Exec) (protocol : Protocol)
    (direction : Direction) (ipAddress : String) :
    (list config exec protocol direction ipAddress).2 =
      some (listed config exec protocol direction ipAddress) := by
  rw [list, run_ignoring, Call.andThen_some rfl, listed]

theorem listTcpConnections_value (config : Config) (exec : Args → Exec) {ipAddress : String}
    (hip : ipAddress ≠ "") :
    (listTcpConnections config exec ipAddress).2 =
      some (uniqueConnections (listed config exec .tcp .source ipAddress ++
        listed config exec .tcp .destination ipAddress)) := by
  rw [listTcpConnections, if_neg hip, Call.andThen_some (list_value ..),
    Call.andThen_some (list_value ..)]

end Conntrack

end GuardTime
