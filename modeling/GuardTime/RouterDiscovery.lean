import GuardTime.ConntrackController
import GuardTime.TextScan

namespace GuardTime.RouterDiscovery

open Conntrack (isWordChar)
open DotEnv (isSpace)

inductive Vendor where
  | AVM
  | MikroTik
  | OpenWrt
  | Ubiquiti
  | GLiNet
  | DrayTek
  | Keenetic
  | Linksys
  | TPLink
  | ASUS
  | Netgear
  | DLink
  | Belkin
  | Synology
  | Zyxel
  | Cisco
  | Buffalo
  | Mercusys
  | Tenda
  | Xiaomi
  | Huawei
  | TOTOLINK
  | Sercomm
  | Actiontec
  | Hitron
  | Comtrend
  | Nokia
  | Sagemcom
  | Technicolor
  | Arris
  | Arcadyan
deriving DecidableEq

/-- What an expression asks of the characters around a name: nothing, `\b` on both sides, `\d` behind it
or `(?:\s|$)` behind it. -/
inductive NameContext where
  | anywhere
  | bounded
  | beforeDigit
  | beforeSpace
deriving DecidableEq

def NameContext.allows : NameContext → Option Char → Option Char → Bool
  | .anywhere, _, _ => true
  | .bounded, before, after => !before.any isWordChar && !after.any isWordChar
  | .beforeDigit, _, after => after.any Char.isDigit
  | .beforeSpace, _, after => after.all isSpace

structure VendorName where
  name : Text
  context : NameContext

structure VendorEntry where
  vendor : Vendor
  names : List VendorName

def entry (vendor : Vendor) (names : List String) : VendorEntry :=
  ⟨vendor, names.map fun name => ⟨name.toList, .anywhere⟩⟩

/-- The expressions in the order they are tried; `FRITZ!?Box` is two names. -/
def VENDORS : List VendorEntry := [
  entry .AVM ["AVM", "FRITZ!Box", "FRITZBox"],
  entry .MikroTik ["MikroTik", "RouterOS"],
  entry .OpenWrt ["OpenWrt", "LuCI"],
  entry .Ubiquiti ["UniFi", "Ubiquiti"],
  entry .GLiNet ["GL.iNet"],
  ⟨.DrayTek, [⟨"DrayTek".toList, .anywhere⟩, ⟨"Vigor".toList, .beforeDigit⟩]⟩,
  entry .Keenetic ["Keenetic"],
  entry .Linksys ["Linksys"],
  ⟨.TPLink, [⟨"Omada".toList, .bounded⟩]⟩,
  ⟨.TPLink, [⟨"TP-Link".toList, .anywhere⟩, ⟨"Deco".toList, .anywhere⟩,
    ⟨"Archer".toList, .beforeSpace⟩]⟩,
  entry .ASUS ["ASUS", "ASUSWRT"],
  entry .Netgear ["NETGEAR"],
  entry .DLink ["D-Link"],
  entry .Belkin ["Belkin"],
  entry .Synology ["Synology"],
  entry .Zyxel ["Nebula", "Zyxel"],
  entry .Cisco ["Cisco"],
  entry .Buffalo ["Buffalo", "AirStation"],
  entry .Mercusys ["Mercusys"],
  ⟨.Tenda, [⟨"Tenda".toList, .bounded⟩]⟩,
  entry .Xiaomi ["Xiaomi", "MiWifi", "Redmi"],
  entry .Huawei ["Huawei"],
  entry .TOTOLINK ["TOTOLINK"],
  entry .Sercomm ["Sercomm"],
  entry .Actiontec ["Actiontec"],
  entry .Hitron ["Hitron"],
  entry .Comtrend ["Comtrend"],
  ⟨.Nokia, [⟨"Nokia".toList, .bounded⟩]⟩,
  entry .Sagemcom ["Sagemcom"],
  entry .Technicolor ["Technicolor"],
  entry .Arris ["Arris"],
  entry .Arcadyan ["Arcadyan"]]

/-- A name at the start of a text, in upper or lower case, if the characters around it are allowed. -/
def nameAt (name : Text) (allowed : Option Char → Option Char → Bool) (before : Option Char)
    (text : Text) : Option Unit :=
  if (text.take name.length).map Char.toLower = name.map Char.toLower ∧
      allowed before (text.drop name.length).head? then some ()
  else none

def VendorName.found (name : VendorName) (text : Text) : Bool :=
  (scan (nameAt name.name name.context.allows) none text).isSome

def VendorEntry.found (entry : VendorEntry) (text : Text) : Bool :=
  entry.names.any fun name => name.found text

def identifyVendorFromText (text : Option String) : Option Vendor :=
  (truthy text).bind fun text =>
    VENDORS.findSome? fun entry => if entry.found text.toList then some entry.vendor else none

/-- Only a name with `\b` on both sides counts for the entry. -/
def VendorEntry.guarded (entry : VendorEntry) : Bool := entry.names.all (·.context = .bounded)

/-- The characters around a whole word or product token: a number may follow it directly. -/
def tokenAllows (before after : Option Char) : Bool :=
  !before.any Char.isAlphanum && !after.any Char.isAlpha

/-- The name stands in the text as a whole word or product token. -/
def Stands (name text : Text) : Prop :=
  ∃ left right, text = left ++ right ∧ (nameAt name tokenAllows left.getLast? right).isSome

/-- One of the vendor's listed names stands in the text. -/
def Named (vendor : Vendor) (text : Text) : Prop :=
  ∃ entry ∈ VENDORS, entry.vendor = vendor ∧ ∃ name ∈ entry.names, Stands name.name text

theorem stands_iff {name text : Text} :
    (scan (nameAt name tokenAllows) none text).isSome ↔ Stands name text := by
  rw [scan_isSome_iff, Stands]
  simp only [Option.or_none]

instance {name text : Text} : Decidable (Stands name text) := decidable_of_iff _ stands_iff

instance {vendor : Vendor} {text : Text} : Decidable (Named vendor text) :=
  inferInstanceAs (Decidable (∃ entry ∈ VENDORS, entry.vendor = vendor ∧
    ∃ name ∈ entry.names, Stands name.name text))

theorem nameAt_isSome {name : Text} {allowed : Option Char → Option Char → Bool}
    {before : Option Char} {text : Text} : (nameAt name allowed before text).isSome ↔
      (text.take name.length).map Char.toLower = name.map Char.toLower ∧
        allowed before (text.drop name.length).head? := by
  unfold nameAt
  split
  next h => exact iff_of_true rfl h
  next h => exact iff_of_false Bool.false_ne_true h

/-- What `\b` sees on both sides of a name makes it a whole word. -/
theorem tokenAllows_bounded {before after : Option Char} (h : NameContext.bounded.allows before after) :
    tokenAllows before after := by
  have hword : ∀ c : Char, isWordChar c = false → c.isAlphanum = false ∧ c.isAlpha = false := by
    intro c hc
    have halphanum : c.isAlphanum = false := (Bool.or_eq_false_iff.mp hc).1
    exact ⟨halphanum, (Bool.or_eq_false_iff.mp halphanum).1⟩
  obtain ⟨hbefore, hafter⟩ := Bool.and_eq_true_iff.mp h
  rw [tokenAllows, Bool.and_eq_true]
  refine ⟨?_, ?_⟩
  · cases before with
    | none => rfl
    | some c =>
      have hc : isWordChar c = false := by simpa using hbefore
      simp [(hword c hc).1]
  · cases after with
    | none => rfl
    | some c =>
      have hc : isWordChar c = false := by simpa using hafter
      simp [(hword c hc).2]

theorem VendorName.found_stands {name : VendorName} {text : Text} (hbounded : name.context = .bounded)
    (h : name.found text) : Stands name.name text := by
  rw [VendorName.found, scan_isSome_iff] at h
  obtain ⟨left, right, htext, h⟩ := h
  rw [Option.or_none, nameAt_isSome, hbounded] at h
  exact ⟨left, right, htext, nameAt_isSome.mpr (h.imp_right tokenAllows_bounded)⟩

/-- A name that counts anywhere is found and yet names nothing exactly when it occurs, and every
occurrence of it continues a word or number, or is continued by a letter. -/
theorem VendorName.misleads_iff {name : VendorName} {text : Text} (hanywhere : name.context = .anywhere) :
    name.found text ∧ ¬Stands name.name text ↔
      let Occurs := fun right : Text =>
        (right.take name.name.length).map Char.toLower = name.name.map Char.toLower
      (∃ left right, text = left ++ right ∧ Occurs right) ∧
        ∀ left right, text = left ++ right → Occurs right →
          left.getLast?.any Char.isAlphanum ∨ (right.drop name.name.length).head?.any Char.isAlpha := by
  rw [VendorName.found, scan_isSome_iff, Stands]
  simp only [Option.or_none, nameAt_isSome, hanywhere, NameContext.allows, and_true, not_exists,
    not_and, tokenAllows, Bool.and_eq_true, Bool.not_eq_true', Bool.not_eq_false]
  refine and_congr_right fun _ => forall₂_congr fun left right => ?_
  refine imp_congr_right fun _ => imp_congr_right fun _ => ?_
  cases left.getLast?.any Char.isAlphanum <;> simp

theorem VendorName.misleads_behind_digit {name : VendorName} (hanywhere : name.context = .anywhere)
    (hhead : name.name.head?.any fun c => c.toLower != '0') :
    name.found ('0' :: name.name) ∧ ¬Stands name.name ('0' :: name.name) := by
  refine (VendorName.misleads_iff hanywhere).mpr ⟨⟨['0'], name.name, rfl, by simp⟩, ?_⟩
  intro left right htext hoccurs
  cases left with
  | nil =>
    -- the name cannot begin at the digit
    obtain rfl : right = '0' :: name.name := htext.symm
    cases hname : name.name with
    | nil =>
      rw [hname] at hhead
      exact absurd hhead Bool.false_ne_true
    | cons c cs =>
      rw [hname] at hoccurs hhead
      have hfirst := (List.cons.inj hoccurs).1
      exact absurd hfirst.symm (bne_iff_ne.mp hhead)
  | cons c left =>
    obtain ⟨rfl, hrest⟩ := List.cons.inj htext
    cases left with
    | nil => exact Or.inl rfl
    | cons d left =>
      have hlength := congrArg List.length hoccurs
      have hrest : name.name = d :: (left ++ right) := hrest
      have hwhole := congrArg List.length hrest
      simp only [List.length_map, List.length_take, List.length_append, List.length_cons] at hlength hwhole
      omega

theorem VendorEntry.unguarded_misleads {entry : VendorEntry} (hentry : entry ∈ VENDORS)
    (hunguarded : entry.guarded = false) :
    ∃ name ∈ entry.names, ∃ text, name.found text ∧ ¬Stands name.name text := by
  have hnames : VENDORS.all fun entry => entry.guarded || entry.names.any fun name =>
      name.context == .anywhere && name.name.head?.any fun c => c.toLower != '0' := by
    decide +kernel
  have hname := List.all_eq_true.mp hnames entry hentry
  rw [hunguarded, Bool.false_or] at hname
  obtain ⟨name, hname, hcontext⟩ := List.any_eq_true.mp hname
  obtain ⟨hanywhere, hhead⟩ := Bool.and_eq_true_iff.mp hcontext
  exact ⟨name, hname, _, VendorName.misleads_behind_digit (beq_iff_eq.mp hanywhere) hhead⟩

theorem VendorEntry.guarded_named {entry : VendorEntry} {text : Text} (hentry : entry ∈ VENDORS)
    (hguarded : entry.guarded) (h : entry.found text) : Named entry.vendor text := by
  obtain ⟨name, hname, hfound⟩ := List.any_eq_true.mp h
  have hbounded : name.context = .bounded := by simpa using List.all_eq_true.mp hguarded name hname
  exact ⟨entry, hentry, rfl, name, hname, name.found_stands hbounded hfound⟩

theorem identify_eq (text : String) :
    identifyVendorFromText (some text) =
      VENDORS.findSome? fun entry => if entry.found text.toList then some entry.vendor else none := by
  by_cases hne : text = ""
  · subst hne
    decide +kernel
  · have htext : truthy (some text) = some text := by simp [truthy, hne]
    rw [identifyVendorFromText, htext, Option.bind_some]

theorem identify_eq_some {text : String} {vendor : Vendor} :
    identifyVendorFromText (some text) = some vendor ↔
      ∃ earlier entry later, VENDORS = earlier ++ entry :: later ∧
        (∀ other ∈ earlier, other.found text.toList = false) ∧ entry.found text.toList = true ∧
          entry.vendor = vendor := by
  rw [identify_eq, List.findSome?_eq_some_iff]
  refine ⟨?_, ?_⟩
  · rintro ⟨earlier, entry, later, htable, hentry, hearlier⟩
    obtain ⟨hfound, hvendor⟩ := Option.ite_none_right_eq_some.mp hentry
    refine ⟨earlier, entry, later, htable, fun other hother => ?_, hfound, Option.some.inj hvendor⟩
    simpa using hearlier other hother
  · rintro ⟨earlier, entry, later, htable, hearlier, hfound, rfl⟩
    refine ⟨earlier, entry, later, htable, if_pos hfound, fun other hother => ?_⟩
    simp [hearlier other hother]

/-- A vendor is named by its text exactly when the first entry found is a guarded one or has a name of
its vendor stand in the text; and a text gives none exactly when no entry is found. -/
theorem vendor_named_iff (text : String) :
    ((∀ vendor, identifyVendorFromText (some text) = some vendor → Named vendor text.toList) ↔
      ∀ earlier entry later, VENDORS = earlier ++ entry :: later →
        (∀ other ∈ earlier, other.found text.toList = false) → entry.found text.toList = true →
          entry.guarded = false → Named entry.vendor text.toList) ∧
      (identifyVendorFromText (some text) = none ↔
        ∀ entry ∈ VENDORS, entry.found text.toList = false) := by
  refine ⟨⟨?_, ?_⟩, ?_⟩
  · intro h earlier entry later htable hearlier hfound _
    exact h entry.vendor (identify_eq_some.mpr ⟨earlier, entry, later, htable, hearlier, hfound, rfl⟩)
  · intro h vendor hvendor
    obtain ⟨earlier, entry, later, htable, hearlier, hfound, rfl⟩ := identify_eq_some.mp hvendor
    cases hguarded : entry.guarded with
    | false => exact h earlier entry later htable hearlier hfound hguarded
    | true =>
      have hentry : entry ∈ VENDORS := by
        rw [htable]
        exact List.mem_append_right _ List.mem_cons_self
      exact VendorEntry.guarded_named hentry hguarded hfound
  · rw [identify_eq, List.findSome?_eq_none_iff]
    simp

/-- Words with a name in them. -/
theorem wordParts_identified :
    identifyVendorFromText (some "San Francisco") = some .Cisco ∧
      identifyVendorFromText (some "Harrison") = some .Arris ∧
      identifyVendorFromText (some "researcher area") = some .TPLink ∧
      ¬Named .Cisco "San Francisco".toList ∧ ¬Named .Arris "Harrison".toList ∧
      ¬Named .TPLink "researcher area".toList := by
  refine ⟨?_, ?_, ?_, ?_, ?_, ?_⟩
  all_goals decide +kernel

end GuardTime.RouterDiscovery
