import GuardTime.TlsFingerprint

namespace GuardTime

namespace TlsFingerprint

open ByteReader

/-- An extension of a ClientHello, by what the fingerprint reads of it. -/
inductive Extension where
  | supportedGroups (groups : List UInt16)
  | ecPointFormats (formats : Bytes)
  | other (type : UInt16) (data : Bytes)
deriving DecidableEq

def values (codes : List UInt16) : List Nat := codes.map UInt16.toNat

namespace Extension

def type : Extension → Nat
  | supportedGroups _ => 0x000a
  | ecPointFormats _ => 0x000b
  | other type _ => type.toNat

def data : Extension → Bytes
  | supportedGroups groups => vector16 (shorts (values groups))
  | ecPointFormats formats => vector8 formats
  | other _ data => data

def encode (e : Extension) : Bytes := short e.type ++ vector16 e.data

def groups : Extension → Option (List UInt16)
  | supportedGroups groups => some groups
  | _ => none

def formats : Extension → Option Bytes
  | ecPointFormats formats => some formats
  | _ => none

/-- The lengths fit in their fields, and the two known types are not written as other ones. -/
def Fits (e : Extension) : Prop :=
  e.data.length < 65536 ∧
    match e with
    | supportedGroups _ => True
    | ecPointFormats formats => formats.length < 256
    | other type _ => type.toNat ≠ 0x000a ∧ type.toNat ≠ 0x000b

instance : DecidablePred Fits
  | supportedGroups _ => inferInstanceAs (Decidable (_ ∧ True))
  | ecPointFormats formats => inferInstanceAs (Decidable (_ ∧ formats.length < 256))
  | other type _ => inferInstanceAs (Decidable (_ ∧ type.toNat ≠ 0x000a ∧ type.toNat ≠ 0x000b))

end Extension

/-- A ClientHello as its sender writes it. -/
structure Draft where
  recordVersion : UInt16
  version : UInt16
  random : Bytes
  sessionId : Bytes
  cipherSuites : List UInt16
  compressionMethods : Bytes
  extensions : Option (List Extension)

namespace Draft

def listed (hello : Draft) : List Extension := hello.extensions.getD []

def extensionBlock (hello : Draft) : Bytes :=
  match hello.extensions with
  | none => []
  | some extensions => vector16 (extensions.flatMap Extension.encode)

def body (hello : Draft) : Bytes :=
  short hello.version.toNat ++ (hello.random ++ (vector8 hello.sessionId ++
    (vector16 (shorts (values hello.cipherSuites)) ++
      (vector8 hello.compressionMethods ++ hello.extensionBlock))))

/-- The handshake message, whose length takes three bytes. -/
def handshake (hello : Draft) : Bytes :=
  0x01 :: UInt8.ofNat (hello.body.length / 65536) :: (short hello.body.length ++ hello.body)

/-- The record that holds the message. -/
def record (hello : Draft) : Bytes :=
  0x16 :: (short hello.recordVersion.toNat ++ vector16 hello.handshake)

end Draft

/-- A well-formed ClientHello in a single record. -/
structure ClientHello extends Draft where
  random_length : random.length = 32
  sessionId_fits : sessionId.length < 256
  cipherSuites_fit : 2 * cipherSuites.length < 65536
  compressionMethods_fit : compressionMethods.length < 256
  extension_fits : ∀ e ∈ toDraft.listed, e.Fits
  extensions_fit : (toDraft.listed.flatMap Extension.encode).length < 65536
  single_groups : (toDraft.listed.filterMap Extension.groups).length ≤ 1
  single_formats : (toDraft.listed.filterMap Extension.formats).length ≤ 1
  record_fits : toDraft.handshake.length < 65536

namespace ClientHello

/-- The curves that are offered, in the order of the wire. -/
def curves (hello : ClientHello) : List Nat :=
  values (hello.listed.filterMap Extension.groups).flatten

def pointFormats (hello : ClientHello) : List Nat :=
  (hello.listed.filterMap Extension.formats).flatten.map UInt8.toNat

end ClientHello

/-- A reserved value: its two bytes are the same, and end in the digit `a`. -/
def IsGrease (code : Nat) : Prop := ∃ k < 16, code = 0x0a0a + 0x1010 * k

instance : DecidablePred IsGrease := fun code =>
  inferInstanceAs (Decidable (∃ k < 16, code = 0x0a0a + 0x1010 * k))

/-- The codes that are not reserved, in decimal. -/
def decimals (codes : List Nat) : String :=
  "-".intercalate ((codes.filter fun code => ¬IsGrease code).map toString)

/-- The string that the fingerprint is to be taken of. -/
def ClientHello.ja3String (hello : ClientHello) : String :=
  toString hello.version.toNat ++ "," ++ decimals (values hello.cipherSuites) ++ "," ++
    decimals (hello.listed.map Extension.type) ++ "," ++ decimals hello.curves ++ "," ++
    "-".intercalate (hello.pointFormats.map toString)

/-- What a well-formed extension adds. -/
def Offer.add (offer : Offer) (e : Extension) : Offer :=
  ⟨offer.extensions ++ [e.type], (e.groups.map values).getD offer.curves,
    (e.formats.map fun formats => formats.map UInt8.toNat).getD offer.pointFormats⟩

variable {body rest : Bytes} {pos : Nat} {offer : Offer} {e : Extension}

theorem values_lt {codes : List UInt16} : ∀ n ∈ values codes, n < 65536 := by
  intro n hn
  obtain ⟨code, -, rfl⟩ := List.mem_map.mp hn
  exact code.toNat_lt

theorem shorts_values_length (codes : List UInt16) :
    (shorts (values codes)).length = 2 * codes.length := by
  rw [shorts_length, values, List.length_map]

theorem Extension.type_lt (e : Extension) : e.type < 65536 := by
  cases e with
  | supportedGroups groups => exact (by decide : 0x000a < 65536)
  | ecPointFormats formats => exact (by decide : 0x000b < 65536)
  | other type data => exact type.toNat_lt

theorem Extension.encode_length (e : Extension) : e.encode.length = 4 + e.data.length := by
  rw [encode, vector16, List.length_append, List.length_append, short_length, short_length]
  omega

theorem readCurves_encode (hfits : e.Fits) (curves : List Nat) :
    readCurves e.type e.data curves = .ok ((e.groups.map values).getD curves) := by
  cases e with
  | supportedGroups groups =>
    have hdata : (Extension.supportedGroups groups).data.drop 0 =
        vector16 (shorts (values groups)) ++ [] := (List.append_nil _).symm
    have hlength := length_of_drop hdata (List.cons_ne_nil _ _)
    rw [vector16, List.length_append, short_length] at hlength
    have hfit : (shorts (values groups)).length < 65536 := by
      have hlt := hfits.1
      omega
    obtain ⟨hcount, hinner, -⟩ := vector16_of_drop hfit hdata
    have hread := unpackShorts_of_drop values_lt hinner
    rw [shorts_values_length] at hcount
    rw [values, List.length_map] at hread
    rw [readCurves, if_pos ⟨rfl, by omega⟩, hcount, ok_bind]
    exact hread
  | ecPointFormats formats =>
    exact if_neg fun h => absurd h.1 (by decide : ¬0x000b = 0x000a)
  | other type data => exact if_neg fun h => hfits.2.1 h.1

theorem readPointFormats_encode (hfits : e.Fits) (pointFormats : List Nat) :
    readPointFormats e.type e.data pointFormats =
      .ok ((e.formats.map fun formats => formats.map UInt8.toNat).getD pointFormats) := by
  cases e with
  | supportedGroups groups =>
    exact if_neg fun h => absurd h.1 (by decide : ¬0x000a = 0x000b)
  | ecPointFormats formats =>
    have hdata : (Extension.ecPointFormats formats).data.drop 0 = vector8 formats ++ [] :=
      (List.append_nil _).symm
    obtain ⟨hcount, hinner, -⟩ := vector8_of_drop hfits.2 hdata
    have hread : byteSlice (Extension.ecPointFormats formats).data 1 (1 + formats.length) = formats :=
      byteSlice_of_drop hinner
    have hlong : 1 ≤ (Extension.ecPointFormats formats).data.length := by
      rw [Extension.data, vector8, List.length_cons]
      omega
    rw [readPointFormats, if_pos ⟨rfl, hlong⟩, hcount, ok_bind, hread]
    rfl
  | other type data => exact if_neg fun h => hfits.2.2 h.1

/-- An encoded extension is read as itself, and the cursor stands behind it. -/
theorem readExtension_encode (hfits : e.Fits) (h : body.drop pos = e.encode ++ rest) :
    readExtension body pos offer = .ok (offer.add e, e.data.length) ∧
      body.drop (pos + 4 + e.data.length) = rest := by
  have hshort : body.drop pos = short e.type ++ (vector16 e.data ++ rest) := by
    rw [h, Extension.encode, List.append_assoc]
  have hafter : body.drop (pos + 2) = vector16 e.data ++ rest := drop_of_drop hshort
  have htype : unpackShort (byteSlice body pos (pos + 2)) = .ok e.type := by
    have hlength := length_of_drop hshort (List.cons_ne_nil _ _)
    rw [short_length] at hlength
    rw [unpackShort_byteSlice, if_pos (by omega), shortAt_of_drop e.type_lt hshort]
  obtain ⟨hsize, hdata, hrest⟩ := vector16_of_drop hfits.1 hafter
  have hsize : unpackShort (byteSlice body (pos + 2) (pos + 4)) = .ok e.data.length := hsize
  have hslice : byteSlice body (pos + 4) (pos + 4 + e.data.length) = e.data := byteSlice_of_drop hdata
  refine ⟨?_, hrest⟩
  rw [readExtension, htype, ok_bind, hsize, ok_bind]
  simp only [hslice, readCurves_encode hfits, readPointFormats_encode hfits, ok_bind]
  rfl

theorem readExtensions_encode {extensions : List Extension} (hfits : ∀ e ∈ extensions, e.Fits)
    (h : body.drop pos = extensions.flatMap Extension.encode) :
    readExtensions body (pos + (extensions.flatMap Extension.encode).length) pos offer =
      .ok (extensions.foldl Offer.add offer) := by
  induction extensions generalizing pos offer with
  | nil =>
    rw [readExtensions, if_neg (by simp)]
    rfl
  | cons e extensions ih =>
    rw [List.flatMap_cons] at h ⊢
    have hstep : readExtension body pos offer = _ ∧ _ :=
      readExtension_encode (hfits e List.mem_cons_self) h
    obtain ⟨hread, hnext⟩ := hstep
    have hstop : pos + (e.encode ++ extensions.flatMap Extension.encode).length =
        pos + 4 + e.data.length + (extensions.flatMap Extension.encode).length := by
      rw [List.length_append, e.encode_length]
      omega
    rw [hstop, readExtensions, if_pos (by omega), hread, ok_bind]
    exact ih (fun e he => hfits e (List.mem_cons_of_mem _ he)) hnext

theorem fromBytes_three {n : Nat} (hn : n < 16777216) :
    fromBytes (UInt8.ofNat (n / 65536) :: short n) = n := by
  have hparts : fromBytes (UInt8.ofNat (n / 65536) :: short n) =
      ((0 * 256 + n / 65536 % 256) * 256 + n / 256 % 256) * 256 + n % 256 := by
    simp only [fromBytes, short, List.foldl_cons, List.foldl_nil, UInt8.toNat_ofNat']
  omega

theorem ClientHello.body_length (hello : ClientHello) : 34 ≤ hello.body.length := by
  have hrandom := hello.random_length
  simp only [Draft.body, List.length_append, short_length, hrandom]
  omega

/-- The record and the handshake header are taken off, whatever follows the record. -/
theorem helloBody_record (hello : ClientHello) (trailing : Bytes) :
    helloBody (hello.record ++ trailing) = .ok (some hello.body) := by
  have hfits := hello.record_fits
  have hlong := hello.body_length
  have hhandshake : hello.handshake.length = 4 + hello.body.length := by
    simp only [Draft.handshake, List.length_cons, List.length_append, short_length]
    omega
  have hrecord : (hello.record ++ trailing).drop 3 = vector16 hello.handshake ++ trailing := rfl
  obtain ⟨hsize, hdata, -⟩ := vector16_of_drop hfits hrecord
  have hlength : 5 ≤ (hello.record ++ trailing).length := by
    simp only [Draft.record, vector16, List.length_append, List.length_cons, short_length]
    omega
  have hhead : byteAt (hello.record ++ trailing) 0 = 0x16 := rfl
  have htype : byteAt hello.handshake 0 = 0x01 := rfl
  have hslice : byteSlice (hello.record ++ trailing) 5 (5 + hello.handshake.length) =
      hello.handshake := byteSlice_of_drop hdata
  have hthree : fromBytes (byteSlice hello.handshake 1 4) = hello.body.length := by
    have hdrop : hello.handshake.drop 1 =
        (UInt8.ofNat (hello.body.length / 65536) :: short hello.body.length) ++ hello.body := rfl
    have hbytes : byteSlice hello.handshake 1 4 =
        UInt8.ofNat (hello.body.length / 65536) :: short hello.body.length := byteSlice_of_drop hdrop
    rw [hbytes, fromBytes_three (by omega)]
  have hbody : byteSlice hello.handshake 4 (4 + hello.body.length) = hello.body := by
    have hdrop : hello.handshake.drop 4 = hello.body ++ [] := (List.append_nil _).symm
    exact byteSlice_of_drop hdrop
  have hfirst : ¬((hello.record ++ trailing).length < 5 ∨
      byteAt (hello.record ++ trailing) 0 ≠ 0x16) := by
    rw [hhead]
    omega
  have hsecond : ¬(hello.handshake.length < 4 ∨ byteAt hello.handshake 0 ≠ 0x01) := by
    rw [htype]
    omega
  rw [helloBody, if_neg hfirst, hsize, ok_bind]
  simp only [hslice]
  rw [if_neg hsecond]
  simp only [hthree, hbody]
  rw [if_neg (by omega)]
  rfl

def ClientHello.fields (hello : ClientHello) : Fields :=
  ⟨hello.version.toNat, values hello.cipherSuites, hello.listed.foldl Offer.add ⟨[], [], []⟩⟩

theorem readBody_body (hello : ClientHello) : readBody hello.body = .ok hello.fields := by
  have hstart : hello.body.drop 0 = short hello.version.toNat ++ (hello.random ++
      (vector8 hello.sessionId ++ (vector16 (shorts (values hello.cipherSuites)) ++
        (vector8 hello.compressionMethods ++ hello.extensionBlock)))) := rfl
  have hsuites_fit : (shorts (values hello.cipherSuites)).length < 65536 := by
    rw [shorts_values_length]
    exact hello.cipherSuites_fit
  have hlong := hello.body_length
  have hversion : unpackShort (byteSlice hello.body 0 (0 + 2)) = .ok hello.version.toNat := by
    rw [unpackShort_byteSlice, if_pos (by omega), shortAt_of_drop hello.version.toNat_lt hstart]
  have hrandom := drop_of_drop (drop_of_drop hstart)
  rw [short_length, hello.random_length] at hrandom
  obtain ⟨hsid, -, hsid_after⟩ := vector8_of_drop hello.sessionId_fits hrandom
  obtain ⟨hcs, hcs_at, hcs_after⟩ := vector16_of_drop hsuites_fit hsid_after
  have hsuites := unpackShorts_of_drop values_lt hcs_at
  obtain ⟨hcm, -, hcm_after⟩ := vector8_of_drop hello.compressionMethods_fit hcs_after
  rw [shorts_values_length] at hcs hcs_after hcm hcm_after
  rw [values, List.length_map, ← values] at hsuites
  rw [readBody]
  simp only [hversion, ok_bind, hsid, hcs, hsuites, hcm]
  generalize 0 + 2 + 32 + 1 + hello.sessionId.length + 2 + 2 * hello.cipherSuites.length + 1 +
    hello.compressionMethods.length = ext at hcm_after ⊢
  cases hextensions : hello.extensions with
  | none =>
    have hend : ¬ext < hello.body.length := by
      have hlength := congrArg List.length hcm_after
      rw [Draft.extensionBlock, hextensions, List.length_drop, List.length_nil] at hlength
      omega
    rw [if_neg hend]
    simp [ClientHello.fields, Draft.listed, hextensions, pure, Except.pure, bind, Except.bind]
  | some extensions =>
    have hfits := hello.extensions_fit
    have hlisted : hello.listed = extensions := by rw [Draft.listed, hextensions, Option.getD_some]
    have heach := hello.extension_fits
    rw [hlisted] at hfits heach
    have hblock : hello.body.drop ext = vector16 (extensions.flatMap Extension.encode) ++ [] := by
      rw [hcm_after, Draft.extensionBlock, hextensions, List.append_nil]
    have hlength := length_of_drop hblock (List.cons_ne_nil _ _)
    rw [vector16, List.length_append, short_length] at hlength
    obtain ⟨htotal, hinner, -⟩ := vector16_of_drop hfits hblock
    rw [List.append_nil] at hinner
    rw [if_pos (by omega), htotal, ok_bind, readExtensions_encode heach hinner, ok_bind,
      ClientHello.fields, hlisted]
    rfl

/-- Where one element at most gives a list, the last one that is given is all of them. -/
theorem foldl_single {α β : Type} (pick : α → Option (List β)) (xs : List α)
    (h : (xs.filterMap pick).length ≤ 1) :
    xs.foldl (fun list x => (pick x).getD list) [] = (xs.filterMap pick).flatten := by
  have hrun : ∀ start, xs.foldl (fun list x => (pick x).getD list) start =
      if xs.filterMap pick = [] then start else (xs.filterMap pick).flatten := by
    induction xs with
    | nil => exact fun start => rfl
    | cons x xs ih =>
      intro start
      rw [List.foldl_cons]
      cases hpick : pick x with
      | none =>
        rw [List.filterMap_cons_none hpick] at h ⊢
        exact ih h start
      | some list =>
        rw [List.filterMap_cons_some hpick] at h ⊢
        have hnil : xs.filterMap pick = [] := by
          rw [List.length_cons] at h
          exact List.eq_nil_of_length_eq_zero (by omega)
        have hrest := ih (by rw [hnil]; exact Nat.zero_le 1) list
        rw [if_pos hnil] at hrest
        rw [Option.getD_some, hrest, hnil, if_neg (List.cons_ne_nil _ _), List.flatten_cons,
          List.flatten_nil, List.append_nil]
  rw [hrun]
  split
  next hnil => rw [hnil]; rfl
  next => rfl

theorem foldl_add (extensions : List Extension) (offer : Offer) :
    extensions.foldl Offer.add offer =
      ⟨offer.extensions ++ extensions.map Extension.type,
        extensions.foldl (fun curves e => (e.groups.map values).getD curves) offer.curves,
        extensions.foldl (fun pointFormats e =>
          (e.formats.map fun formats => formats.map UInt8.toNat).getD pointFormats)
            offer.pointFormats⟩ := by
  induction extensions generalizing offer with
  | nil => simp
  | cons e extensions ih => rw [List.foldl_cons, ih]; simp [Offer.add]

theorem ClientHello.fields_eq (hello : ClientHello) : hello.fields =
    ⟨hello.version.toNat, values hello.cipherSuites,
      ⟨hello.listed.map Extension.type, hello.curves, hello.pointFormats⟩⟩ := by
  have hcurves := foldl_single (fun e : Extension => e.groups.map values) hello.listed
  have hformats := foldl_single
    (fun e : Extension => e.formats.map fun formats => formats.map UInt8.toNat) hello.listed
  simp only [← List.map_filterMap, List.length_map] at hcurves hformats
  rw [fields, foldl_add]
  simp only [List.nil_append, hcurves hello.single_groups, hformats hello.single_formats, curves,
    pointFormats, values, List.map_flatten]
  rfl

theorem mem_GREASE_iff {code : Nat} : code ∈ GREASE ↔ IsGrease code := by
  refine ⟨?_, ?_⟩
  · have hlisted : ∀ code ∈ GREASE, IsGrease code := by decide
    exact hlisted code
  · rintro ⟨k, hk, rfl⟩
    have hreserved : ∀ k < 16, 0x0a0a + 0x1010 * k ∈ GREASE := by decide
    exact hreserved k hk

theorem stripGrease_eq (codes : List Nat) :
    stripGrease codes = codes.filter fun code => ¬IsGrease code := by
  simp only [stripGrease, mem_GREASE_iff]

theorem dashed_stripGrease (codes : List Nat) : dashed (stripGrease codes) = decimals codes := by
  rw [stripGrease_eq]
  rfl

theorem ja3_fields (hello : ClientHello) : ja3 hello.fields = hello.ja3String := by
  rw [hello.fields_eq, ja3]
  simp only [dashed_stripGrease]
  rfl

/-- What is left of an extension without its GREASE values, and without the data of an extension
that the fingerprint does not read. -/
def Extension.withoutGrease : Extension → Extension
  | supportedGroups groups => supportedGroups (groups.filter fun group => ¬IsGrease group.toNat)
  | ecPointFormats formats => ecPointFormats formats
  | other type _ => other type []

/-- The extensions without those that are GREASE themselves. -/
def ClientHello.listedWithoutGrease (hello : ClientHello) : List Extension :=
  (hello.listed.filter fun e => ¬IsGrease e.type).map Extension.withoutGrease

/-- The two agree in everything but GREASE values, as far as the fingerprint is concerned. -/
structure SameButGrease (hello other : ClientHello) : Prop where
  version : hello.version = other.version
  cipherSuites : hello.cipherSuites.filter (fun suite => ¬IsGrease suite.toNat) =
    other.cipherSuites.filter fun suite => ¬IsGrease suite.toNat
  extensions : hello.listedWithoutGrease = other.listedWithoutGrease

theorem Extension.withoutGrease_type (e : Extension) : e.withoutGrease.type = e.type := by
  cases e with
  | supportedGroups groups => rfl
  | ecPointFormats formats => rfl
  | other type data => rfl

theorem Extension.withoutGrease_groups (e : Extension) : e.withoutGrease.groups =
    e.groups.map fun groups => groups.filter fun group => ¬IsGrease group.toNat := by
  cases e with
  | supportedGroups groups => rfl
  | ecPointFormats formats => rfl
  | other type data => rfl

theorem Extension.withoutGrease_formats (e : Extension) : e.withoutGrease.formats = e.formats := by
  cases e with
  | supportedGroups groups => rfl
  | ecPointFormats formats => rfl
  | other type data => rfl

theorem filter_values (codes : List UInt16) :
    (values codes).filter (fun code => ¬IsGrease code) =
      values (codes.filter fun code => ¬IsGrease code.toNat) := by
  rw [values, List.filter_map]
  rfl

theorem filter_types (hello : ClientHello) :
    (hello.listed.map Extension.type).filter (fun type => ¬IsGrease type) =
      hello.listedWithoutGrease.map Extension.type := by
  rw [List.filter_map, ClientHello.listedWithoutGrease, List.map_map]
  exact List.map_congr_left fun e _ => e.withoutGrease_type.symm

theorem filterMap_withoutGrease {β : Type} (hello : ClientHello) (pick : Extension → Option β)
    (h : ∀ e : Extension, IsGrease e.type → pick e = none) :
    hello.listedWithoutGrease.filterMap pick =
      hello.listed.filterMap fun e => pick e.withoutGrease := by
  rw [ClientHello.listedWithoutGrease, List.filterMap_map, List.filterMap_filter]
  refine List.filterMap_congr fun e _ => ?_
  by_cases hgrease : IsGrease e.type
  · have hnone := h e.withoutGrease (by rwa [e.withoutGrease_type])
    simp [hgrease, hnone]
  · simp [hgrease]

theorem filter_curves (hello : ClientHello) : hello.curves.filter (fun curve => ¬IsGrease curve) =
    values (hello.listedWithoutGrease.filterMap Extension.groups).flatten := by
  have hnone : ∀ e : Extension, IsGrease e.type → e.groups = none := by
    intro e hgrease
    cases e with
    | supportedGroups groups => exact absurd hgrease (by decide : ¬IsGrease 0x000a)
    | ecPointFormats formats => rfl
    | other type data => rfl
  rw [ClientHello.curves, filter_values, List.filter_flatten]
  simp only [filterMap_withoutGrease hello _ hnone, Extension.withoutGrease_groups,
    ← List.map_filterMap]

theorem pointFormats_withoutGrease (hello : ClientHello) : hello.pointFormats =
    (hello.listedWithoutGrease.filterMap Extension.formats).flatten.map UInt8.toNat := by
  have hnone : ∀ e : Extension, IsGrease e.type → e.formats = none := by
    intro e hgrease
    cases e with
    | supportedGroups groups => rfl
    | ecPointFormats formats => exact absurd hgrease (by decide : ¬IsGrease 0x000b)
    | other type data => rfl
  simp only [filterMap_withoutGrease hello _ hnone, Extension.withoutGrease_formats]
  rfl

theorem SameButGrease.ja3String {hello other : ClientHello} (h : SameButGrease hello other) :
    hello.ja3String = other.ja3String := by
  simp only [ClientHello.ja3String, decimals, filter_values, filter_types, filter_curves,
    pointFormats_withoutGrease, h.version, h.cipherSuites, h.extensions]

/-- A well-formed ClientHello is fingerprinted by its own string, so that hellos which differ in
GREASE values only cannot be told apart. -/
theorem parseClientHello_record (md5 : String → String) (hello : ClientHello) (trailing : Bytes) :
    parseClientHello md5 (hello.record ++ trailing) = .ok (some (md5 hello.ja3String)) ∧
    ∀ other : ClientHello, SameButGrease hello other →
      parseClientHello md5 other.record = parseClientHello md5 hello.record := by
  have hparse : ∀ (hello : ClientHello) (trailing : Bytes),
      parseClientHello md5 (hello.record ++ trailing) = .ok (some (md5 hello.ja3String)) := by
    intro hello trailing
    rw [parseClientHello, helloBody_record, ok_bind]
    simp only [readBody_body, ok_bind, ja3_fields]
    rfl
  refine ⟨hparse hello trailing, fun other hsame => ?_⟩
  have hhello := hparse hello []
  have hother := hparse other []
  rw [List.append_nil] at hhello hother
  rw [hhello, hother, hsame.ja3String]

/-- A hello with a list of cipher suites and extensions, and what every hello has. -/
def sampleDraft (cipherSuites : List UInt16) (extensions : List Extension) : Draft :=
  ⟨0x0301, 0x0303, List.replicate 32 7, [1, 2, 3], cipherSuites, [0], some extensions⟩

def ungreasedHello : ClientHello where
  toDraft := sampleDraft [0x1301, 0x1302]
    [.other 0x0000 [5], .supportedGroups [0x001d, 0x0017], .ecPointFormats [0]]
  random_length := rfl
  sessionId_fits := by decide
  cipherSuites_fit := by decide
  compressionMethods_fit := by decide
  extension_fits := by decide
  extensions_fit := by decide
  single_groups := by decide
  single_formats := by decide
  record_fits := by decide

/-- The same with reserved values among the suites, the extensions and the groups. -/
def greasedHello : ClientHello where
  toDraft := sampleDraft [0x0a0a, 0x1301, 0x1302] [.other 0xfafa [], .other 0x0000 [5],
    .supportedGroups [0x3a3a, 0x001d, 0x0017], .ecPointFormats [0], .other 0x7a7a [0]]
  random_length := rfl
  sessionId_fits := by decide
  cipherSuites_fit := by decide
  compressionMethods_fit := by decide
  extension_fits := by decide
  extensions_fit := by decide
  single_groups := by decide
  single_formats := by decide
  record_fits := by decide

theorem parseClientHello_record_greased :
    parseClientHello (fun text => text) (greasedHello.record ++ [0x17]) =
        .ok (some "771,4865-4866,0-10-11,29-23,0") ∧
      parseClientHello (fun text => text) ungreasedHello.record =
        parseClientHello (fun text => text) greasedHello.record := by
  obtain ⟨hstring, hsame⟩ := parseClientHello_record (fun text => text) greasedHello [0x17]
  refine ⟨?_, hsame ungreasedHello ⟨by decide, by decide, by decide⟩⟩
  rw [hstring]
  decide

end TlsFingerprint

end GuardTime
