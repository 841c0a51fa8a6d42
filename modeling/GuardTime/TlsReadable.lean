import GuardTime.TlsHello
import Mathlib.Logic.Relation

namespace GuardTime

namespace TlsFingerprint

open ByteReader

/-- Where a body holds the length of its compression methods. -/
def compressionAt (body : Bytes) : Nat :=
  let suites := 35 + byteAt body 34
  suites + 2 + shortAt body suites

/-- Where its extension block would begin. -/
def extensionsAt (body : Bytes) : Nat := compressionAt body + 1 + byteAt body (compressionAt body)

/-- One extension of a block that ends at `stop`, and the next. -/
def Follows (body : Bytes) (stop pos next : Nat) : Prop :=
  pos + 4 ≤ stop ∧ next = pos + 4 + shortAt body (pos + 2)

/-- A list of groups that is there holds as many as its length says. -/
def GroupsReadable (extData : Bytes) : Prop :=
  2 ≤ extData.length →
    shortAt extData 0 = 0 ∨ 2 + 2 * ((shortAt extData 0 + 1) / 2) ≤ extData.length

structure ExtensionReadable (body : Bytes) (pos : Nat) : Prop where
  header : pos + 4 ≤ body.length
  groups : shortAt body pos = 0x000a →
    GroupsReadable (byteSlice body (pos + 4) (pos + 4 + shortAt body (pos + 2)))

/-- Every extension that the lengths lead to before `stop` is readable. -/
def BlockReadable (body : Bytes) (stop start : Nat) : Prop :=
  ∀ pos, Relation.ReflTransGen (Follows body stop) start pos → pos + 4 ≤ stop →
    ExtensionReadable body pos

/-- The body reaches to its compression methods, and what follows them is a readable block. -/
structure BodyReadable (body : Bytes) : Prop where
  compression : compressionAt body < body.length
  block : extensionsAt body < body.length →
    extensionsAt body + 2 ≤ body.length ∧
      BlockReadable body (extensionsAt body + 2 + shortAt body (extensionsAt body))
        (extensionsAt body + 2)

def handshakeOf (data : Bytes) : Bytes := byteSlice data 5 (5 + shortAt data 3)

def bodyOf (data : Bytes) : Bytes :=
  byteSlice (handshakeOf data) 4 (4 + fromBytes (byteSlice (handshakeOf data) 1 4))

/-- The bytes begin as a record with a ClientHello. -/
def IsHello (data : Bytes) : Prop :=
  5 ≤ data.length ∧ byteAt data 0 = 0x16 ∧ 4 ≤ (handshakeOf data).length ∧
    byteAt (handshakeOf data) 0 = 0x01 ∧ 34 ≤ (bodyOf data).length

instance (data : Bytes) : Decidable (IsHello data) := inferInstanceAs (Decidable (_ ∧ _ ∧ _ ∧ _ ∧ _))

/-- No read of the bytes goes wrong. -/
def Readable (data : Bytes) : Prop := IsHello data → BodyReadable (bodyOf data)

def Returns {α : Type} (result : Except ReadError α) : Prop := ∃ value, result = .ok value

variable {body : Bytes} {pos stop : Nat} {offer : Offer}

theorem returns_ok {α : Type} (value : α) : Returns (.ok value) := ⟨value, rfl⟩

theorem not_returns_error {α : Type} (e : ReadError) : ¬Returns (.error e : Except ReadError α) := by
  rintro ⟨value, h⟩
  cases h

theorem returns_bind {α β : Type} {first : Except ReadError α} {next : α → Except ReadError β} :
    Returns (first >>= next) ↔ ∃ value, first = .ok value ∧ Returns (next value) := by
  cases first with
  | ok value => simp [ok_bind]
  | error e => simp [error_bind, not_returns_error]

theorem returns_unpackShort (data : Bytes) (pos : Nat) :
    Returns (unpackShort (byteSlice data pos (pos + 2))) ↔ pos + 2 ≤ data.length := by
  rw [unpackShort_byteSlice]
  split
  next h => exact iff_of_true (returns_ok _) h
  next h => exact iff_of_false (not_returns_error _) h

theorem readCurves_returns (extType : Nat) (extData : Bytes) (curves : List Nat) :
    Returns (readCurves extType extData curves) ↔ (extType = 0x000a → GroupsReadable extData) := by
  unfold readCurves GroupsReadable
  by_cases hread : extType = 0x000a ∧ 2 ≤ extData.length
  · have hcount : unpackShort (byteSlice extData 0 2) = _ := unpackShort_byteSlice extData 0
    rw [if_pos hread.2] at hcount
    rw [if_pos hread, hcount, ok_bind, unpackShorts_eq]
    split
    next h => exact iff_of_true (returns_ok _) fun _ _ => h
    next h => exact iff_of_false (not_returns_error _) fun hall => h (hall hread.1 hread.2)
  · rw [if_neg hread]
    exact iff_of_true (returns_ok _) fun htype hlong => absurd ⟨htype, hlong⟩ hread

theorem readPointFormats_returns (extType : Nat) (extData : Bytes) (pointFormats : List Nat) :
    Returns (readPointFormats extType extData pointFormats) := by
  unfold readPointFormats
  split
  next h =>
    rw [index_eq, if_pos (by omega)]
    exact returns_ok _
  next => exact returns_ok _

/-- Behind a whole header, an extension is read from the data it is said to have. -/
theorem readExtension_eq (hheader : pos + 4 ≤ body.length) : readExtension body pos offer = (do
    let curves ← readCurves (shortAt body pos)
      (byteSlice body (pos + 4) (pos + 4 + shortAt body (pos + 2))) offer.curves
    let pointFormats ← readPointFormats (shortAt body pos)
      (byteSlice body (pos + 4) (pos + 4 + shortAt body (pos + 2))) offer.pointFormats
    pure (⟨offer.extensions ++ [shortAt body pos], curves, pointFormats⟩, shortAt body (pos + 2))) := by
  have htype := unpackShort_byteSlice body pos
  have hsize : unpackShort (byteSlice body (pos + 2) (pos + 4)) = _ :=
    unpackShort_byteSlice body (pos + 2)
  rw [if_pos (by omega)] at htype hsize
  rw [readExtension, htype, ok_bind, hsize, ok_bind]

/-- The list of groups is the one part of an extension that can go wrong behind its header. -/
theorem readExtension_returns :
    Returns (readExtension body pos offer) ↔ ExtensionReadable body pos := by
  have hsize : Returns (unpackShort (byteSlice body (pos + 2) (pos + 4))) ↔ pos + 4 ≤ body.length :=
    returns_unpackShort body (pos + 2)
  by_cases hheader : pos + 4 ≤ body.length
  · rw [readExtension_eq hheader]
    constructor
    · intro h
      obtain ⟨curves, hcurves, -⟩ := returns_bind.mp h
      exact ⟨hheader, (readCurves_returns _ _ _).mp ⟨curves, hcurves⟩⟩
    · intro h
      obtain ⟨curves, hcurves⟩ := (readCurves_returns _ _ offer.curves).mpr h.groups
      obtain ⟨pointFormats, hformats⟩ := readPointFormats_returns (shortAt body pos)
        (byteSlice body (pos + 4) (pos + 4 + shortAt body (pos + 2))) offer.pointFormats
      rw [hcurves, ok_bind, hformats, ok_bind]
      exact returns_ok _
  · refine iff_of_false ?_ fun h => hheader h.header
    intro h
    obtain ⟨extType, -, h⟩ := returns_bind.mp h
    obtain ⟨extLen, hread, -⟩ := returns_bind.mp h
    exact hheader (hsize.mp ⟨extLen, hread⟩)

theorem readExtension_extLen {offer' : Offer} {extLen : Nat}
    (h : readExtension body pos offer = .ok (offer', extLen)) : extLen = shortAt body (pos + 2) := by
  have hread := readExtension_returns.mp ⟨_, h⟩
  obtain ⟨curves, hcurves⟩ := (readCurves_returns _ _ offer.curves).mpr hread.groups
  obtain ⟨pointFormats, hformats⟩ := readPointFormats_returns (shortAt body pos)
    (byteSlice body (pos + 4) (pos + 4 + shortAt body (pos + 2))) offer.pointFormats
  rw [readExtension_eq hread.header, hcurves, ok_bind, hformats, ok_bind] at h
  cases h
  rfl

theorem readExtensions_returns :
    Returns (readExtensions body stop pos offer) ↔ BlockReadable body stop pos := by
  induction pos, offer using readExtensions.induct stop with
  | case1 pos offer hturn ih =>
    rw [readExtensions, if_pos hturn, returns_bind]
    constructor
    · rintro ⟨⟨offer', extLen⟩, hread, hrest⟩
      have hblock := (ih offer' extLen).mp hrest
      rw [readExtension_extLen hread] at hblock
      intro at' hreach hlast
      rcases Relation.ReflTransGen.cases_head hreach with rfl | ⟨next, ⟨-, rfl⟩, hreach⟩
      · exact readExtension_returns.mp ⟨_, hread⟩
      · exact hblock at' hreach hlast
    · intro hblock
      obtain ⟨⟨offer', extLen⟩, hread⟩ :=
        readExtension_returns.mpr (hblock pos Relation.ReflTransGen.refl hturn)
      refine ⟨(offer', extLen), hread, (ih offer' extLen).mpr ?_⟩
      rw [readExtension_extLen hread]
      intro at' hreach hlast
      exact hblock at' (hreach.head ⟨hturn, rfl⟩) hlast
  | case2 pos offer hend =>
    rw [readExtensions, if_neg hend]
    refine iff_of_true (returns_ok _) ?_
    intro at' hreach hlast
    rcases Relation.ReflTransGen.cases_head hreach with rfl | ⟨next, ⟨hturn, -⟩, -⟩
    · exact absurd hlast hend
    · exact absurd hturn hend

theorem readBody_returns (hlong : 34 ≤ body.length) : Returns (readBody body) ↔ BodyReadable body := by
  have hversion : unpackShort (byteSlice body 0 (0 + 2)) = _ := unpackShort_byteSlice body 0
  rw [if_pos (by omega)] at hversion
  have hat : 0 + 2 + 32 + 1 + byteAt body 34 + 2 + shortAt body (0 + 2 + 32 + 1 + byteAt body 34) =
      compressionAt body := rfl
  have hext : compressionAt body + 1 + byteAt body (compressionAt body) = extensionsAt body := rfl
  by_cases hcompression : compressionAt body < body.length
  · have hsid : index body (0 + 2 + 32) = _ := index_eq body 34
    have hcs := unpackShort_byteSlice body (0 + 2 + 32 + 1 + byteAt body 34)
    have hsuites := unpackShorts_eq body (0 + 2 + 32 + 1 + byteAt body 34 + 2)
      (shortAt body (0 + 2 + 32 + 1 + byteAt body 34))
    have hcm := index_eq body (compressionAt body)
    rw [if_pos (by omega)] at hsid hcs hsuites
    rw [if_pos hcompression] at hcm
    have hiff : BodyReadable body ↔ (extensionsAt body < body.length →
        extensionsAt body + 2 ≤ body.length ∧ BlockReadable body
          (extensionsAt body + 2 + shortAt body (extensionsAt body)) (extensionsAt body + 2)) :=
      ⟨BodyReadable.block, fun hblock => ⟨hcompression, hblock⟩⟩
    rw [hiff, readBody]
    simp only [hversion, hsid, hcs, hsuites, ok_bind, hat, hcm, hext]
    by_cases hblock : extensionsAt body < body.length
    · rw [if_pos hblock, returns_bind]
      constructor
      · rintro ⟨total, htotal, hrest⟩ -
        obtain ⟨hfit, rfl⟩ := unpackShort_ok htotal
        obtain ⟨offer, hoffer, -⟩ := returns_bind.mp hrest
        exact ⟨hfit, readExtensions_returns.mp ⟨offer, hoffer⟩⟩
      · intro hall
        obtain ⟨hfit, hextensions⟩ := hall hblock
        obtain ⟨offer, hoffer⟩ := readExtensions_returns.mpr hextensions
        refine ⟨shortAt body (extensionsAt body), ?_, returns_bind.mpr ⟨offer, hoffer, returns_ok _⟩⟩
        rw [unpackShort_byteSlice, if_pos hfit]
    · rw [if_neg hblock]
      exact iff_of_true (returns_ok _) fun h => absurd h hblock
  · -- The reads before the compression methods fix the positions of those after them.
    refine iff_of_false ?_ fun h => hcompression h.compression
    intro h
    rw [readBody] at h
    simp only [hversion, ok_bind] at h
    obtain ⟨sidLen, hsid, h⟩ := returns_bind.mp h
    obtain ⟨-, rfl⟩ := index_ok hsid
    obtain ⟨csLen, hcs, h⟩ := returns_bind.mp h
    obtain ⟨-, rfl⟩ := unpackShort_ok hcs
    obtain ⟨suites, -, h⟩ := returns_bind.mp h
    obtain ⟨cmLen, hcm, -⟩ := returns_bind.mp h
    exact hcompression (index_ok hcm).1

theorem helloBody_eq (data : Bytes) :
    helloBody data = .ok (if IsHello data then some (bodyOf data) else none) := by
  unfold helloBody
  by_cases hrecord : data.length < 5 ∨ byteAt data 0 ≠ 0x16
  · have hnot : ¬IsHello data := fun h => hrecord.elim (by have := h.1; omega) fun hne => hne h.2.1
    rw [if_pos hrecord, if_neg hnot]
    rfl
  · have hsize : unpackShort (byteSlice data 3 5) = _ := unpackShort_byteSlice data 3
    rw [if_pos (by omega)] at hsize
    rw [if_neg hrecord, hsize, ok_bind]
    show (if (handshakeOf data).length < 4 ∨ byteAt (handshakeOf data) 0 ≠ 0x01 then pure none
      else if (bodyOf data).length < 34 then pure none else pure (some (bodyOf data))) = _
    by_cases hmessage : (handshakeOf data).length < 4 ∨ byteAt (handshakeOf data) 0 ≠ 0x01
    · have hnot : ¬IsHello data := fun h =>
        hmessage.elim (by have := h.2.2.1; omega) fun hne => hne h.2.2.2.1
      rw [if_pos hmessage, if_neg hnot]
      rfl
    · by_cases hbody : (bodyOf data).length < 34
      · have hnot : ¬IsHello data := fun h => absurd h.2.2.2.2 (by omega)
        rw [if_neg hmessage, if_pos hbody, if_neg hnot]
        rfl
      · have hhello : IsHello data := ⟨by omega, by omega, by omega, by omega, by omega⟩
        rw [if_neg hmessage, if_neg hbody, if_pos hhello]
        rfl

theorem parseClientHello_returns (md5 : String → String) (data : Bytes) :
    Returns (parseClientHello md5 data) ↔ Readable data := by
  rw [parseClientHello, helloBody_eq, ok_bind, Readable]
  by_cases hhello : IsHello data
  · rw [if_pos hhello, ← readBody_returns hhello.2.2.2.2]
    simp only [hhello, true_imp_iff, returns_bind]
    constructor
    · rintro ⟨fields, hfields, -⟩
      exact ⟨fields, hfields⟩
    · rintro ⟨fields, hfields⟩
      exact ⟨fields, hfields, returns_ok _⟩
  · rw [if_neg hhello]
    exact iff_of_true (returns_ok _) fun h => absurd h hhello

def fingerprint (md5 : String → String) (pkt : Option Bytes) : Option String :=
  match pkt with
  | none => none
  | some payload =>
    match parseClientHello md5 payload with
    | .ok (some fp) => if fp ≠ "" then some fp else none
    | _ => none

/-- Every payload of the window is readable. -/
def WindowReadable (packets : List (Option Bytes)) : Prop :=
  ∀ payload, some payload ∈ packets → Readable payload

theorem capture_readable {md5 : String → String} {pkt : Option Bytes}
    (h : ∀ payload, pkt = some payload → Readable payload) (fingerprints : List String) :
    capture md5 fingerprints pkt = .ok (fingerprints ++ (fingerprint md5 pkt).toList) := by
  unfold capture fingerprint
  cases pkt with
  | none => simp [pure, Except.pure]
  | some payload =>
    obtain ⟨result, hresult⟩ := (parseClientHello_returns md5 payload).mpr (h payload rfl)
    simp only [hresult, ok_bind]
    cases result with
    | none => simp [pure, Except.pure]
    | some fp =>
      simp only
      split
      next => rfl
      next => simp [pure, Except.pure]

theorem sniff_readable {md5 : String → String} {packets : List (Option Bytes)}
    (h : WindowReadable packets) (fingerprints : List String) :
    sniff md5 fingerprints packets = ⟨true, fingerprints ++ packets.filterMap (fingerprint md5)⟩ := by
  induction packets generalizing fingerprints with
  | nil => simp [sniff]
  | cons pkt packets ih =>
    have hpkt : ∀ payload, pkt = some payload → Readable payload :=
      fun payload heq => h payload (heq ▸ List.mem_cons_self)
    rw [sniff, capture_readable hpkt]
    simp only [ih fun payload hmem => h payload (List.mem_cons_of_mem pkt hmem), List.append_assoc]
    cases hfp : fingerprint md5 pkt with
    | none => simp [hfp]
    | some fp => simp [hfp]

theorem sniff_ok_iff {md5 : String → String} {packets : List (Option Bytes)}
    {fingerprints : List String} :
    (sniff md5 fingerprints packets).ok = true ↔ WindowReadable packets := by
  refine ⟨?_, fun h => by rw [sniff_readable h]⟩
  induction packets generalizing fingerprints with
  | nil =>
    intro _ payload hmem
    cases hmem
  | cons pkt packets ih =>
    intro hok payload hmem
    rw [sniff] at hok
    split at hok
    next next hcapture =>
      rcases List.mem_cons.mp hmem with rfl | hmem
      · rw [capture] at hcapture
        obtain ⟨result, hresult, -⟩ := returns_bind.mp ⟨next, hcapture⟩
        exact (parseClientHello_returns md5 payload).mp ⟨result, hresult⟩
      · exact ih hok payload hmem
    next => cases hok

/-- One payload with a read behind its bytes ends the window, and with it go the fingerprints of all
others. -/
theorem window_survives_iff (md5 : String → String) :
    (∀ data, Returns (parseClientHello md5 data) ↔ Readable data) ∧
    ∀ (config : TlsConfig) (ipAddress : String) (packets : List (Option Bytes)),
      ((sniff md5 [] packets).ok = true ↔ WindowReadable packets) ∧
      (config.enableTlsFingerprint = true → ipAddress ≠ "" → config.dryRun = false →
        (WindowReadable packets → captureFingerprints config md5 ipAddress packets =
          packets.filterMap (fingerprint md5)) ∧
        (¬WindowReadable packets → captureFingerprints config md5 ipAddress packets = [])) := by
  refine ⟨parseClientHello_returns md5, fun config ipAddress packets => ⟨sniff_ok_iff, ?_⟩⟩
  intro hon hip hlive
  have hcall : captureFingerprints config md5 ipAddress packets =
      if (sniff md5 [] packets).ok then (sniff md5 [] packets).fingerprints else [] := by
    simp [captureFingerprints, hon, hip, hlive]
  constructor
  · intro h
    rw [hcall, sniff_readable h, List.nil_append]
    rfl
  · intro h
    rw [hcall, if_neg fun hok => h (sniff_ok_iff.mp hok)]

/-- A hello without extensions. -/
def plainHello : ClientHello where
  recordVersion := 0x0301
  version := 0x0303
  random := List.replicate 32 0
  sessionId := []
  cipherSuites := [0x1301, 0x2a2a, 0xc02f]
  compressionMethods := [0]
  extensions := none
  random_length := rfl
  sessionId_fits := by decide
  cipherSuites_fit := by decide
  compressionMethods_fit := by decide
  extension_fits := fun e h => absurd h List.not_mem_nil
  extensions_fit := by decide
  single_groups := by decide
  single_formats := by decide
  record_fits := by decide +kernel

/-- A segment that ends behind the random bytes discards the fingerprint of a whole hello. -/
theorem window_survives_cut :
    let config : TlsConfig := ⟨true, false⟩
    let whole := plainHello.record
    let cut := whole.take 43
    parseClientHello id cut = .error .indexError ∧
      captureFingerprints config id "192.168.1.50" [some whole] = ["771,4865-49199,,,"] ∧
      captureFingerprints config id "192.168.1.50" [some whole, some cut] = [] := by
  refine ⟨?_, ?_, ?_⟩
  · decide +kernel
  · decide +kernel
  · decide +kernel

end TlsFingerprint

end GuardTime
