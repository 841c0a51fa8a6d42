import GuardTime.ByteReader

namespace GuardTime

namespace TlsFingerprint

open ByteReader

def GREASE : List Nat := [
  0x0a0a, 0x1a1a, 0x2a2a, 0x3a3a, 0x4a4a, 0x5a5a, 0x6a6a, 0x7a7a,
  0x8a8a, 0x9a9a, 0xaaaa, 0xbaba, 0xcaca, 0xdada, 0xeaea, 0xfafa]

/-- What the loop over the extensions collects. -/
structure Offer where
  extensions : List Nat
  curves : List Nat
  pointFormats : List Nat
deriving DecidableEq

structure Fields where
  version : Nat
  cipherSuites : List Nat
  offer : Offer
deriving DecidableEq

/-- The curves after an extension: those of a supported_groups extension, or the ones before. -/
def readCurves (extType : Nat) (extData : Bytes) (curves : List Nat) : Except ReadError (List Nat) :=
  if extType = 0x000a ∧ 2 ≤ extData.length then
    unpackShort (byteSlice extData 0 2) >>= unpackShorts extData 2
  else pure curves

/-- The same for the formats of an ec_point_formats extension. -/
def readPointFormats (extType : Nat) (extData : Bytes) (pointFormats : List Nat) :
    Except ReadError (List Nat) :=
  if extType = 0x000b ∧ 1 ≤ extData.length then do
    let fmtLen ← index extData 0
    pure ((byteSlice extData 1 (1 + fmtLen)).map UInt8.toNat)
  else pure pointFormats

/-- One turn of the loop over the extensions, and the length of the extension's data. -/
def readExtension (body : Bytes) (pos : Nat) (offer : Offer) : Except ReadError (Offer × Nat) := do
  let extType ← unpackShort (byteSlice body pos (pos + 2))
  let extLen ← unpackShort (byteSlice body (pos + 2) (pos + 4))
  let extData := byteSlice body (pos + 4) (pos + 4 + extLen)
  let curves ← readCurves extType extData offer.curves
  let pointFormats ← readPointFormats extType extData offer.pointFormats
  pure (⟨offer.extensions ++ [extType], curves, pointFormats⟩, extLen)

def readExtensions (body : Bytes) (stop pos : Nat) (offer : Offer) : Except ReadError Offer :=
  if pos + 4 ≤ stop then do
    let (offer, extLen) ← readExtension body pos offer
    readExtensions body stop (pos + 4 + extLen) offer
  else pure offer
termination_by stop - pos

/-- The bytes that a record holds for its ClientHello, if it is one. -/
def helloBody (data : Bytes) : Except ReadError (Option Bytes) :=
  if data.length < 5 ∨ byteAt data 0 ≠ 0x16 then pure none
  else do
    let recordLen ← unpackShort (byteSlice data 3 5)
    let hs := byteSlice data 5 (5 + recordLen)
    if hs.length < 4 ∨ byteAt hs 0 ≠ 0x01 then pure none
    else
      let hsLen := fromBytes (byteSlice hs 1 4)
      let body := byteSlice hs 4 (4 + hsLen)
      if body.length < 34 then pure none else pure (some body)

def readBody (body : Bytes) : Except ReadError Fields := do
  let pos := 0
  let version ← unpackShort (byteSlice body pos (pos + 2))
  let pos := pos + 2 + 32
  let sidLen ← index body pos
  let pos := pos + 1 + sidLen
  let csLen ← unpackShort (byteSlice body pos (pos + 2))
  let pos := pos + 2
  let cipherSuites ← unpackShorts body pos csLen
  let pos := pos + csLen
  let cmLen ← index body pos
  let pos := pos + 1 + cmLen
  let offer ←
    if pos < body.length then do
      let extTotalLen ← unpackShort (byteSlice body pos (pos + 2))
      let pos := pos + 2
      readExtensions body (pos + extTotalLen) pos ⟨[], [], []⟩
    else pure ⟨[], [], []⟩
  pure ⟨version, cipherSuites, offer⟩

def stripGrease (values : List Nat) : List Nat := values.filter fun v => v ∉ GREASE

def dashed (values : List Nat) : String := "-".intercalate (values.map toString)

def ja3 (fields : Fields) : String :=
  ",".intercalate [
    toString fields.version,
    dashed (stripGrease fields.cipherSuites),
    dashed (stripGrease fields.offer.extensions),
    dashed (stripGrease fields.offer.curves),
    dashed fields.offer.pointFormats]

/-- `parse_client_hello`, where `md5` stands for the digest in hexadecimal. -/
def parseClientHello (md5 : String → String) (data : Bytes) : Except ReadError (Option String) := do
  match ← helloBody data with
  | none => pure none
  | some body =>
    let fields ← readBody body
    pure (some (md5 (ja3 fields)))

/-- `capture`, where a packet is the payload of its TCP segment, if it has one. -/
def capture (md5 : String → String) (fingerprints : List String) (pkt : Option Bytes) :
    Except ReadError (List String) :=
  match pkt with
  | none => pure fingerprints
  | some payload => do
    match ← parseClientHello md5 payload with
    | some fp => pure (if fp ≠ "" then fingerprints ++ [fp] else fingerprints)
    | none => pure fingerprints

/-- What the program prints. It exits with a failure unless that is `ok`. -/
structure Printed where
  ok : Bool
  fingerprints : List String
deriving DecidableEq

/-- The sniff calls `capture` for one packet after the other, and ends with what that raises. -/
def sniff (md5 : String → String) (fingerprints : List String) : List (Option Bytes) → Printed
  | [] => ⟨true, fingerprints⟩
  | pkt :: pkts =>
    match capture md5 fingerprints pkt with
    | .ok fingerprints => sniff md5 fingerprints pkts
    | .error _ => ⟨false, fingerprints⟩

/-- The settings that the detector reads. -/
structure TlsConfig where
  enableTlsFingerprint : Bool
  dryRun : Bool

/-- `captureFingerprints`, where the program runs to its end: a failed exit rejects the call. -/
def captureFingerprints (config : TlsConfig) (md5 : String → String) (ipAddress : String)
    (packets : List (Option Bytes)) : List String :=
  if config.enableTlsFingerprint = false ∨ ipAddress = "" then []
  else if config.dryRun then []
  else
    let printed := sniff md5 [] packets
    if printed.ok then printed.fingerprints else []

end TlsFingerprint

end GuardTime
