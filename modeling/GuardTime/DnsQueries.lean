import GuardTime.DnsMessage
import GuardTime.DomainLabels

namespace GuardTime

namespace PairingProbe

open ByteReader (Bytes short)
open DnsMessage (Query Fits decode nameBytes)

/-- The labels of a domain that are not empty, by their code units. -/
def domainUnits (domain : String) : List (List Nat) :=
  ((labels domain.toList).filter (· ≠ [])).map fun label => charCodes (String.ofList label)

/-- The packet keeps the low eight bits of every number that goes into it. -/
def packed (units : List Nat) : Bytes := units.map UInt8.ofNat

def buildQuery (id : Nat) (domain : String) : Bytes :=
  let name := (domainUnits domain).flatMap (fun units => units.length :: units) ++ [0]
  short id ++ short 0x0100 ++ short 1 ++ List.replicate 6 0 ++ packed name ++ short 1 ++ short 1

def probeDomain (token pairDomainSuffix : String) : String := token ++ "." ++ pairDomainSuffix

/-- What a DNS message can hold of a domain. -/
def Carried (units : List (List Nat)) : Prop :=
  (∀ label ∈ units, label.length ≤ 63 ∧ ∀ unit ∈ label, unit < 256) ∧
    (units.map fun label => label.length + 1).sum + 1 ≤ 255

instance (units : List (List Nat)) : Decidable (Carried units) :=
  inferInstanceAs (Decidable (_ ∧ _))

theorem charCodes_ne {text : String} (h : text.toList ≠ []) : charCodes text ≠ [] := by
  obtain ⟨c, rest, hchars⟩ := List.exists_cons_of_ne_nil h
  rw [charCodes, hchars, List.flatMap_cons, codeUnits]
  split <;> simp

theorem domainUnits_pos {domain : String} {label : List Nat} (h : label ∈ domainUnits domain) :
    0 < label.length := by
  obtain ⟨text, htext, rfl⟩ := List.mem_map.mp h
  have hne : text ≠ [] := of_decide_eq_true (List.mem_filter.mp htext).2
  exact List.length_pos_iff.mpr (charCodes_ne (by simpa using hne))

theorem packed_length (units : List Nat) : (packed units).length = units.length :=
  List.length_map _

theorem packed_name (units : List (List Nat)) :
    packed (units.flatMap (fun label => label.length :: label) ++ [0]) =
      nameBytes (units.map packed) := by
  induction units with
  | nil => rfl
  | cons label units ih =>
    rw [List.map_cons, DnsMessage.nameBytes_cons, ← ih, packed_length]
    simp [packed]

theorem nameBytes_length (units : List (List Nat)) :
    (nameBytes (units.map packed)).length = (units.map fun label => label.length + 1).sum + 1 := by
  induction units with
  | nil => rfl
  | cons label units ih =>
    rw [List.map_cons, DnsMessage.nameBytes_length_cons, packed_length, ih, List.map_cons,
      List.sum_cons]
    omega

theorem buildQuery_bytes (id : Nat) (domain : String) :
    buildQuery id domain = Query.bytes ⟨id, 0x0100, (domainUnits domain).map packed, 1, 1⟩ := by
  simp only [buildQuery, packed_name, Query.bytes]
  rfl

theorem packed_toNat {units : List Nat} :
    (packed units).map UInt8.toNat = units ↔ ∀ unit ∈ units, unit < 256 := by
  induction units with
  | nil => simp [packed]
  | cons unit units ih =>
    simp only [packed, List.map_cons, List.cons.injEq, UInt8.toNat_ofNat', List.forall_mem_cons]
    refine and_congr ?_ ih
    refine ⟨?_, Nat.mod_eq_of_lt⟩
    intro h
    rw [← h]
    exact Nat.mod_lt unit (by norm_num)

/-- A receiver reads the labels of the domain in the packet exactly if a message can carry them. -/
theorem buildQuery_read_iff {id : Nat} (hid : id < 65536) (domain : String) :
    (∃ name, decode (buildQuery id domain) = some ⟨id, 0x0100, name, 1, 1⟩ ∧
        name.map (List.map UInt8.toNat) = domainUnits domain) ↔ Carried (domainUnits domain) := by
  rw [buildQuery_bytes]
  refine ⟨?_, ?_⟩
  · rintro ⟨name, hread, hname⟩
    have hfits : Fits name := DnsMessage.decode_fits hread
    have htotal : (nameBytes name).length ≤ 255 := hfits.2
    have hlength : (nameBytes name).length = ((domainUnits domain).map fun label =>
        label.length + 1).sum + 1 := by
      rw [← hname, List.map_map]
      clear hread hname hfits htotal
      induction name with
      | nil => rfl
      | cons label name ih =>
        rw [DnsMessage.nameBytes_length_cons, ih, List.map_cons, List.sum_cons, Function.comp_apply,
          List.length_map]
        omega
    refine ⟨?_, by omega⟩
    intro units hunits
    rw [← hname] at hunits
    obtain ⟨label, hlabel, rfl⟩ := List.mem_map.mp hunits
    refine ⟨by simpa using (hfits.1 label hlabel).2, ?_⟩
    intro unit hunit
    obtain ⟨byte, -, rfl⟩ := List.mem_map.mp hunit
    exact byte.toNat_lt
  · rintro ⟨hlabels, htotal⟩
    have hfits : Fits ((domainUnits domain).map packed) := by
      refine ⟨?_, by rw [nameBytes_length]; exact htotal⟩
      intro label hlabel
      obtain ⟨units, hunits, rfl⟩ := List.mem_map.mp hlabel
      rw [packed_length]
      exact ⟨domainUnits_pos hunits, (hlabels units hunits).1⟩
    refine ⟨(domainUnits domain).map packed, ?_, ?_⟩
    · exact DnsMessage.decode_bytes hid (by norm_num) (by norm_num) (by norm_num) hfits
    · rw [List.map_map]
      conv_rhs => rw [← List.map_id (domainUnits domain)]
      exact List.map_congr_left fun units hunits => packed_toNat.mpr (hlabels units hunits).2

/-- A token that is one label comes before the labels of the suffix. -/
theorem domainUnits_probe {token : String} (hne : token.toList ≠ []) (hdot : '.' ∉ token.toList)
    (pairDomainSuffix : String) : domainUnits (probeDomain token pairDomainSuffix) =
      charCodes token :: domainUnits pairDomainSuffix := by
  have hchars : (probeDomain token pairDomainSuffix).toList =
      token.toList ++ '.' :: pairDomainSuffix.toList := by
    simp [probeDomain]
  have hlabels : labels (probeDomain token pairDomainSuffix).toList =
      token.toList :: labels pairDomainSuffix.toList := by
    rw [hchars, labels, List.splitOn_append_cons_self, List.splitOn_eq_singleton hdot,
      List.singleton_append, ← labels]
  rw [domainUnits, hlabels, List.filter_cons, if_pos (decide_eq_true hne), List.map_cons,
    String.ofList_toList, ← domainUnits]

/-- The receiver of a pairing probe reads the token as the first label, and the suffix behind it,
exactly if a message can carry them. -/
theorem probe_read_iff {id : Nat} (hid : id < 65536) {token : String} (hne : token.toList ≠ [])
    (hdot : '.' ∉ token.toList) (pairDomainSuffix : String) :
    (∃ label name, decode (buildQuery id (probeDomain token pairDomainSuffix)) =
        some ⟨id, 0x0100, label :: name, 1, 1⟩ ∧ label.map UInt8.toNat = charCodes token ∧
          name.map (List.map UInt8.toNat) = domainUnits pairDomainSuffix) ↔
      Carried (charCodes token :: domainUnits pairDomainSuffix) := by
  have hread := buildQuery_read_iff hid (probeDomain token pairDomainSuffix)
  rw [domainUnits_probe hne hdot] at hread
  rw [← hread]
  refine ⟨?_, ?_⟩
  · rintro ⟨label, name, hdecode, htoken, hsuffix⟩
    exact ⟨label :: name, hdecode, by rw [List.map_cons, htoken, hsuffix]⟩
  · rintro ⟨name, hdecode, hname⟩
    obtain ⟨label, name, rfl, htoken, hsuffix⟩ := List.map_eq_cons_iff.mp hname
    exact ⟨label, name, hdecode, htoken, hsuffix⟩

theorem probe_read_token :
    ∃ label name, decode (buildQuery 7 (probeDomain "a1b2c3" "pair.guardtime.local")) =
        some ⟨7, 0x0100, label :: name, 1, 1⟩ ∧ label.map UInt8.toNat = charCodes "a1b2c3" ∧
          name.map (List.map UInt8.toNat) = domainUnits "pair.guardtime.local" :=
  (probe_read_iff (by norm_num) (by decide) (by decide) "pair.guardtime.local").mpr
    (by decide +kernel)

end PairingProbe

namespace RouterDiscovery

open ByteReader (Bytes short)

/-- One PTR question for `_http._tcp.local`. -/
def buildMdnsQuery : Bytes :=
  let name := "_http._tcp.local".toList
  let nameBuf := (labels name).flatMap (fun label =>
    UInt8.ofNat label.length :: label.map fun c => UInt8.ofNat c.toNat) ++ [0]
  List.replicate 4 0 ++ short 1 ++ List.replicate 6 0 ++ (nameBuf ++ [0x00, 0x0c] ++ [0x00, 0x01])

example : (DnsMessage.decode buildMdnsQuery).map (fun q => (q.id, q.flags, q.qtype, q.qclass)) =
    some (0, 0, 12, 1) := by decide +kernel

end RouterDiscovery

end GuardTime
