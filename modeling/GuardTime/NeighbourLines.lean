import GuardTime.ConntrackController
import GuardTime.ManagementGuard
import GuardTime.TextScan

namespace GuardTime

namespace Neighbours

open Conntrack (isWordChar)
open DotEnv (isSpace)

def isHex (c : Char) : Bool := c.isDigit || ('a' ≤ c && c ≤ 'f') || ('A' ≤ c && c ≤ 'F')

/-- `MAC_RE` at the start of a text, with `n` octets before the last one. -/
def macAt : Nat → Text → Option Text
  | 0, a :: b :: _ => if isHex a && isHex b then some [a, b] else none
  | n + 1, a :: b :: c :: rest =>
    if isHex a && isHex b && c = ':' then (macAt n rest).map ([a, b, c] ++ ·) else none
  | _, _ => none

/-- A number of one to three digits at the start of a text, and what follows it. -/
def digitsAt (text : Text) : Option (Text × Text) :=
  let digits := text.takeWhile Char.isDigit
  if digits = [] ∨ 3 < digits.length then none else some (digits, text.dropWhile Char.isDigit)

/-- The numbers of `IPV4_RE` at the start of a text, with `n` of them before the last one. -/
def numbersAt : Nat → Text → Option Text
  | 0, text =>
    (digitsAt text).bind fun found => if found.2.head?.any isWordChar then none else some found.1
  | n + 1, text =>
    (digitsAt text).bind fun found =>
      if found.2.head? = some '.' then (numbersAt n found.2.tail).map (found.1 ++ '.' :: ·) else none

def ipv4At (before : Option Char) (text : Text) : Option Text :=
  if before.any isWordChar then none else numbersAt 3 text

/-- `text.match(MAC_RE)?.[0]`. -/
def firstMac (text : Text) : Option Text := scan (fun _ => macAt 5) none text

/-- `text.match(IPV4_RE)?.[0]`. -/
def firstIpv4 (text : Text) : Option Text := scan ipv4At none text

def isLinkLocal (text : Text) : Bool := (text.take 5).map Char.toLower = "fe80:".toList

def parseNeighLine (line : Text) : Option Device :=
  let trimmed := DotEnv.trim line
  if trimmed = [] then none
  else
    (firstMac line).bind fun mac =>
      let firstToken := trimmed.takeWhile fun c => !isSpace c
      if ':' ∈ firstToken then
        if isLinkLocal firstToken then none
        else some ⟨String.ofList (lowerCase mac), none, some (String.ofList (lowerCase firstToken))⟩
      else
        (firstIpv4 firstToken).map fun ip =>
          ⟨String.ofList (lowerCase mac), some (String.ofList ip), none⟩

def readIpNeigh (stdout : Text) : List Device := (splitLines stdout).filterMap parseNeighLine

/-- The entry that `readArp` makes of a line. -/
def arpEntry (line : Text) : Option Device :=
  (firstIpv4 line).bind fun ip =>
    (firstMac line).map fun mac =>
      ⟨String.ofList (lowerCase mac), some (String.ofList ip), none⟩

def readArp (stdout : Text) : List Device := (splitLines stdout).filterMap arpEntry

/-- A printed MAC address, in upper or lower case. -/
structure PrintedMac where
  octets : List (Char × Char)
  six : octets.length = 6
  hex : ∀ octet ∈ octets, isHex octet.1 ∧ isHex octet.2

def macText (octets : List (Char × Char)) : Text :=
  List.intercalate [':'] (octets.map fun octet => [octet.1, octet.2])

structure PrintedIpv4 where
  octets : List (Fin 256)
  four : octets.length = 4

def ipv4Text (octets : List (Fin 256)) : Text :=
  List.intercalate ['.'] (octets.map fun octet => (toString octet.val).toList)

/-- Every printed IPv6 address that is not link-local is one of these texts. -/
structure PrintedIpv6 where
  text : Text
  chars : ∀ c ∈ text, isHex c ∨ c = ':' ∨ c = '.'
  colon : ':' ∈ text
  notLinkLocal : isLinkLocal text = false

inductive NeighAddress where
  | ipv4 (ip : PrintedIpv4)
  | ipv6 (ip : PrintedIpv6)

def NeighAddress.text : NeighAddress → Text
  | .ipv4 ip => ipv4Text ip.octets
  | .ipv6 ip => ip.text

/-- What a line of the address is to give. -/
def NeighAddress.device (mac : Text) : NeighAddress → Device
  | .ipv4 ip => ⟨String.ofList (lowerCase mac), some (String.ofList (ipv4Text ip.octets)), none⟩
  | .ipv6 ip => ⟨String.ofList (lowerCase mac), none, some (String.ofList (lowerCase ip.text))⟩

def neighLine (address : NeighAddress) (iface : Text) (mac : PrintedMac) (state : Text) : Text :=
  address.text ++ ' ' :: ("dev".toList ++ ' ' :: (iface ++ ' ' :: ("lladdr".toList ++ ' ' ::
    (macText mac.octets ++ ' ' :: state))))

def arpLine (host : Text) (ip : PrintedIpv4) (mac : PrintedMac) (rest : Text) : Text :=
  host ++ ' ' :: (('(' :: (ipv4Text ip.octets ++ [')'])) ++ ' ' :: ("at".toList ++ ' ' ::
    (macText mac.octets ++ ' ' :: rest)))

theorem hex_not_space {c : Char} (h : isHex c) : isSpace c = false := by
  have hrange : 48 ≤ c.toNat ∧ c.toNat ≤ 102 := by
    simp only [isHex, Bool.or_eq_true, Bool.and_eq_true, decide_eq_true_eq] at h
    rcases h with (h | ⟨hlow, hhigh⟩) | ⟨hlow, hhigh⟩
    · have hdigit : 48 ≤ c.toNat ∧ c.toNat ≤ 57 := Char.isDigit_iff_toNat.mp h
      omega
    · have hlow : 97 ≤ c.toNat := hlow
      have hhigh : c.toNat ≤ 102 := hhigh
      omega
    · have hlow : 65 ≤ c.toNat := hlow
      have hhigh : c.toNat ≤ 70 := hhigh
      omega
  simp [isSpace]
  omega

theorem macAt_withinWords (n : Nat) : ∀ word rest, macAt n (word ++ ' ' :: rest) = macAt n word := by
  have hspace : isHex ' ' = false := by decide
  induction n with
  | zero =>
    intro word rest
    match word with
    | [] => cases rest <;> simp [macAt, hspace]
    | [a] => simp [macAt, hspace]
    | a :: b :: word => rfl
  | succ n ih =>
    intro word rest
    match word with
    | [] =>
      match rest with
      | [] => rfl
      | [b] => rfl
      | b :: c :: rest => simp [macAt, hspace]
    | [a] => cases rest <;> simp [macAt, hspace]
    | [a, b] => simp [macAt]
    | a :: b :: c :: word => simp [macAt, ih]

theorem macAt_text {n : Nat} {octets : List (Char × Char)} (hlen : octets.length = n + 1)
    (hhex : ∀ octet ∈ octets, isHex octet.1 ∧ isHex octet.2) (rest : Text) :
    macAt n (macText octets ++ rest) = some (macText octets) := by
  induction n generalizing octets with
  | zero =>
    obtain ⟨octet, rfl⟩ := List.length_eq_one_iff.mp hlen
    simp [macText, macAt, hhex octet]
  | succ n ih =>
    obtain ⟨octet, octets, rfl⟩ := List.exists_cons_of_length_eq_add_one hlen
    have hne : octets.map (fun octet => [octet.1, octet.2]) ≠ [] := by
      intro hnil
      simp [List.map_eq_nil_iff.mp hnil] at hlen
    have htext : macText (octet :: octets) = [octet.1, octet.2, ':'] ++ macText octets := by
      simp [macText, List.intercalate_cons_of_ne_nil hne]
    have hoctet := hhex octet List.mem_cons_self
    have hrest := ih (by simpa using hlen) fun octet hmem => hhex octet (List.mem_cons_of_mem _ hmem)
    rw [htext]
    simp [macAt, hoctet.1, hoctet.2, hrest]

theorem takeWhile_blank (word rest : Text) :
    (word ++ ' ' :: rest).takeWhile Char.isDigit = word.takeWhile Char.isDigit := by
  induction word with
  | nil => rfl
  | cons c word ih =>
    rw [List.cons_append, List.takeWhile_cons, List.takeWhile_cons, ih]

theorem dropWhile_blank (word rest : Text) :
    (word ++ ' ' :: rest).dropWhile Char.isDigit = word.dropWhile Char.isDigit ++ ' ' :: rest := by
  induction word with
  | nil => rfl
  | cons c word ih =>
    rw [List.cons_append, List.dropWhile_cons, List.dropWhile_cons, ih]
    split <;> rfl

theorem digitsAt_blank (word rest : Text) :
    digitsAt (word ++ ' ' :: rest) =
      (digitsAt word).map fun found => (found.1, found.2 ++ ' ' :: rest) := by
  simp only [digitsAt, takeWhile_blank, dropWhile_blank]
  split <;> rfl

theorem numbersAt_withinWords (n : Nat) :
    ∀ word rest, numbersAt n (word ++ ' ' :: rest) = numbersAt n word := by
  induction n with
  | zero =>
    intro word rest
    rw [numbersAt, numbersAt, digitsAt_blank]
    cases hfound : digitsAt word with
    | none => rfl
    | some found =>
      obtain ⟨digits, after⟩ := found
      cases after with
      | nil => rfl
      | cons c after => rfl
  | succ n ih =>
    intro word rest
    rw [numbersAt, numbersAt, digitsAt_blank]
    cases hfound : digitsAt word with
    | none => rfl
    | some found =>
      obtain ⟨digits, after⟩ := found
      cases after with
      | nil => rfl
      | cons c after => simp [ih]

theorem macPattern_withinWords : WithinWords fun _ => macAt 5 := fun _ => macAt_withinWords 5

theorem ipv4At_withinWords : WithinWords ipv4At := by
  intro before word rest
  rw [ipv4At, ipv4At, numbersAt_withinWords]

theorem digitsAt_number (octet : Fin 256) {rest : Text} (h : ∀ c ∈ rest.head?, c.isDigit = false) :
    digitsAt ((toString octet.val).toList ++ rest) = some ((toString octet.val).toList, rest) := by
  have hdigits : ∀ c ∈ (toString octet.val).toList, c.isDigit := fun c hc => toString_chars hc
  have hlength : (toString octet.val).toList.length = (Nat.repr octet.val).length := String.length_toList
  have hpos := Nat.length_repr_pos (n := octet.val)
  have hshort := (Nat.length_repr_le_iff (n := octet.val) (k := 3) (by decide)).mpr (by omega)
  have hrest : rest.takeWhile Char.isDigit = [] ∧ rest.dropWhile Char.isDigit = rest := by
    cases rest with
    | nil => exact ⟨rfl, rfl⟩
    | cons c rest =>
      have hc : c.isDigit = false := h c rfl
      simp [hc]
  rw [digitsAt, List.takeWhile_append_of_pos hdigits, List.dropWhile_append_of_pos hdigits, hrest.1,
    hrest.2, List.append_nil, if_neg]
  rw [not_or]
  exact ⟨List.ne_nil_of_length_pos (by omega), by omega⟩

theorem numbersAt_text {n : Nat} {octets : List (Fin 256)} (hlen : octets.length = n + 1) {rest : Text}
    (h : ∀ c ∈ rest.head?, isWordChar c = false) :
    numbersAt n (ipv4Text octets ++ rest) = some (ipv4Text octets) := by
  have hdigit : ∀ c ∈ rest.head?, c.isDigit = false := by
    intro c hc
    have hword := h c hc
    simp only [isWordChar, Char.isAlphanum, Bool.or_eq_false_iff] at hword
    exact hword.1.2
  induction n generalizing octets with
  | zero =>
    obtain ⟨octet, rfl⟩ := List.length_eq_one_iff.mp hlen
    have htext : ipv4Text [octet] = (toString octet.val).toList := by simp [ipv4Text]
    rw [htext, numbersAt, digitsAt_number octet hdigit, Option.bind_some, if_neg]
    cases hhead : rest.head? with
    | none => exact Bool.false_ne_true
    | some c => simpa using h c hhead
  | succ n ih =>
    obtain ⟨octet, octets, rfl⟩ := List.exists_cons_of_length_eq_add_one hlen
    have hne : octets.map (fun octet => (toString octet.val).toList) ≠ [] := by
      intro hnil
      simp [List.map_eq_nil_iff.mp hnil] at hlen
    have htext : ipv4Text (octet :: octets) = (toString octet.val).toList ++ '.' :: ipv4Text octets := by
      simp only [ipv4Text, List.map_cons, List.intercalate_cons_of_ne_nil hne, List.append_assoc,
        List.cons_append, List.nil_append]
    have hdot : ∀ c ∈ ('.' :: (ipv4Text octets ++ rest)).head?, c.isDigit = false := by
      intro c hc
      obtain rfl : '.' = c := Option.some.inj hc
      rfl
    have hrest := ih (by simpa using hlen)
    rw [htext, List.append_assoc, List.cons_append, numbersAt, digitsAt_number octet hdot]
    simp [hrest]

theorem firstMac_word_append (word rest : Text) :
    firstMac (word ++ ' ' :: rest) = (firstMac word).or (firstMac rest) := by
  have hbefore : ∀ (text : Text) (before before' : Option Char),
      scan (fun _ => macAt 5) before text = scan (fun _ => macAt 5) before' text := by
    intro text before before'
    cases text <;> rfl
  rw [firstMac, scan_word_append macPattern_withinWords, firstMac, firstMac, hbefore rest]

theorem firstIpv4_word_append (word rest : Text) :
    firstIpv4 (word ++ ' ' :: rest) = (firstIpv4 word).or (firstIpv4 rest) := by
  have hbefore : scan ipv4At (some ' ') rest = scan ipv4At none rest := by
    cases rest <;> rfl
  rw [firstIpv4, scan_word_append ipv4At_withinWords, hbefore, firstIpv4, firstIpv4]

theorem firstMac_macText (mac : PrintedMac) (rest : Text) :
    firstMac (macText mac.octets ++ rest) = some (macText mac.octets) :=
  scan_of_start (macAt_text mac.six mac.hex rest)

theorem firstMac_none {text : Text} (h : ':' ∉ text) : firstMac text = none := by
  rw [← Option.not_isSome_iff_eq_none, firstMac, scan_isSome_iff]
  rintro ⟨left, right, rfl, hfound⟩
  match right with
  | [] => cases hfound
  | [_] => cases hfound
  | [_, _] => cases hfound
  | a :: b :: c :: right =>
    rw [macAt] at hfound
    split at hfound
    next hpair =>
      have hc : c = ':' := by simpa using (Bool.and_eq_true_iff.mp hpair).2
      exact h (by simp [hc])
    next => cases hfound

theorem firstIpv4_text (ip : PrintedIpv4) : firstIpv4 (ipv4Text ip.octets) = some (ipv4Text ip.octets) := by
  have h : numbersAt 3 (ipv4Text ip.octets ++ []) = some (ipv4Text ip.octets) :=
    numbersAt_text ip.four (by simp)
  rw [List.append_nil] at h
  exact scan_of_start h

theorem firstIpv4_parenthesised (ip : PrintedIpv4) :
    firstIpv4 ('(' :: (ipv4Text ip.octets ++ [')'])) = some (ipv4Text ip.octets) := by
  have h : numbersAt 3 (ipv4Text ip.octets ++ [')']) = some (ipv4Text ip.octets) :=
    numbersAt_text ip.four (by simp [isWordChar])
  have hstart : ipv4At none ('(' :: (ipv4Text ip.octets ++ [')'])) = none := rfl
  have hscan : scan ipv4At (some '(') (ipv4Text ip.octets ++ [')']) = some (ipv4Text ip.octets) :=
    scan_of_start h
  rw [firstIpv4, scan, hstart, hscan, Option.none_or]

/-- The first token of a line is the word that it starts with. -/
theorem firstToken_eq {word rest : Text} (hne : word ≠ []) (hword : ∀ c ∈ word, isSpace c = false) :
    (DotEnv.trim (word ++ ' ' :: ("dev".toList ++ rest))).takeWhile (fun c => !isSpace c) = word := by
  have hpart : DotEnv.trim (word ++ ' ' :: "dev".toList) = word ++ ' ' :: "dev".toList := by
    refine trimmed_self ?_ ?_
    · intro c hc
      obtain ⟨first, others, rfl⟩ := List.exists_cons_of_ne_nil hne
      obtain rfl : first = c := Option.some.inj hc
      rw [hword first List.mem_cons_self]
      exact Bool.false_ne_true
    · intro c hc
      rw [List.getLast?_append_of_ne_nil _ (by simp)] at hc
      obtain rfl : 'v' = c := Option.some.inj hc
      decide
  have hprefix : word ++ ' ' :: "dev".toList <+: word ++ ' ' :: ("dev".toList ++ rest) :=
    ⟨rest, by simp⟩
  have hmono : DotEnv.trim (word ++ ' ' :: "dev".toList) <+:
      DotEnv.trim (word ++ ' ' :: ("dev".toList ++ rest)) := trimmed_mono hprefix
  rw [hpart] at hmono
  obtain ⟨more, hmore⟩ := hmono
  have hstop : (' ' :: ("dev".toList ++ more)).takeWhile (fun c => !isSpace c) = [] := rfl
  rw [← hmore, List.append_assoc, List.cons_append,
    List.takeWhile_append_of_pos (fun c hc => by rw [hword c hc]; rfl), hstop, List.append_nil]

theorem ipv4Text_chars {octets : List (Fin 256)} : ∀ c ∈ ipv4Text octets, c.isDigit ∨ c = '.' := by
  intro c hc
  rcases mem_intercalate hc with hc | ⟨number, hnumber, hc⟩
  · exact Or.inr (List.mem_singleton.mp hc)
  · obtain ⟨octet, -, rfl⟩ := List.mem_map.mp hnumber
    exact Or.inl (toString_chars hc)

theorem ipv4Text_colon {octets : List (Fin 256)} : ':' ∉ ipv4Text octets := by
  intro hmem
  rcases ipv4Text_chars ':' hmem with h | h
  · exact absurd h (by decide)
  · exact absurd h (by decide)

theorem NeighAddress.text_no_space (address : NeighAddress) :
    ∀ c ∈ address.text, isSpace c = false := by
  have hdigit : ∀ c : Char, c.isDigit → isSpace c = false :=
    fun c hc => hex_not_space (by simp [isHex, hc])
  intro c hc
  cases address with
  | ipv4 ip =>
    rcases ipv4Text_chars c hc with h | rfl
    · exact hdigit c h
    · rfl
  | ipv6 ip =>
    rcases ip.chars c hc with h | rfl | rfl
    · exact hex_not_space h
    · rfl
    · rfl

theorem NeighAddress.text_ne (address : NeighAddress) : address.text ≠ [] := by
  cases address with
  | ipv4 ip =>
    intro hnil
    have hfound : numbersAt 3 (ipv4Text ip.octets ++ []) = some (ipv4Text ip.octets) :=
      numbersAt_text ip.four (by simp)
    have htext : ipv4Text ip.octets = [] := hnil
    rw [htext] at hfound
    cases hfound
  | ipv6 ip => exact List.ne_nil_of_mem ip.colon

theorem firstMac_neighLine (address : NeighAddress) (iface : Text) (mac : PrintedMac) (state : Text) :
    firstMac (neighLine address iface mac state) =
      ((firstMac address.text).or (firstMac iface)).or (some (macText mac.octets)) := by
  have hdev : firstMac "dev".toList = none := firstMac_none (by decide)
  have hlladdr : firstMac "lladdr".toList = none := firstMac_none (by decide)
  rw [neighLine, firstMac_word_append, firstMac_word_append, hdev, Option.none_or, firstMac_word_append,
    firstMac_word_append, hlladdr, Option.none_or, firstMac_macText, Option.or_assoc]

theorem parseNeighLine_neighLine (address : NeighAddress) (iface : Text) (mac : PrintedMac)
    (state : Text) : parseNeighLine (neighLine address iface mac state) =
      (firstMac (neighLine address iface mac state)).map fun found => address.device found := by
  have htoken : (DotEnv.trim (neighLine address iface mac state)).takeWhile (fun c => !isSpace c) =
      address.text := firstToken_eq address.text_ne address.text_no_space
  have hne : DotEnv.trim (neighLine address iface mac state) ≠ [] := by
    intro hnil
    rw [hnil] at htoken
    exact address.text_ne htoken.symm
  rw [parseNeighLine]
  simp only [hne, if_false, htoken]
  cases firstMac (neighLine address iface mac state) with
  | none => rfl
  | some found =>
    simp only [Option.bind_some, Option.map_some]
    cases address with
    | ipv4 ip =>
      have hcolon : ':' ∉ (NeighAddress.ipv4 ip).text := ipv4Text_colon
      have hip : firstIpv4 (NeighAddress.ipv4 ip).text = some (ipv4Text ip.octets) := firstIpv4_text ip
      rw [if_neg hcolon, hip]
      rfl
    | ipv6 ip =>
      have hcolon : ':' ∈ (NeighAddress.ipv6 ip).text := ip.colon
      have hglobal : isLinkLocal (NeighAddress.ipv6 ip).text ≠ true :=
        Bool.eq_false_iff.mp ip.notLinkLocal
      rw [if_pos hcolon, if_neg hglobal]
      rfl

/-- What is read of an output is read of its lines. -/
theorem filterMap_splitLines {parse : Text → Option Device} (hblank : parse [] = none) {lines : List Text}
    (hne : lines ≠ []) (hlines : ∀ line ∈ lines, '\n' ∉ line ∧ '\r' ∉ line) :
    (splitLines (joinLines lines)).filterMap parse = lines.filterMap parse := by
  have hsplit : splitLines (joinLines lines ++ []) = lines.map dropReturn ++ [[]] :=
    splitLines_joinLines hne (fun line hmem => (hlines line hmem).1) List.not_mem_nil
  have hself : lines.map dropReturn = lines := by
    rw [List.map_congr_left fun line hmem => dropReturn_self (hlines line hmem).2, List.map_id']
  rw [List.append_nil, hself] at hsplit
  rw [hsplit, List.filterMap_append]
  simp [hblank]

theorem readIpNeigh_lines {lines : List Text} (hne : lines ≠ [])
    (hlines : ∀ line ∈ lines, '\n' ∉ line ∧ '\r' ∉ line) :
    readIpNeigh (joinLines lines) = lines.filterMap parseNeighLine :=
  filterMap_splitLines rfl hne hlines

theorem readArp_lines {lines : List Text} (hne : lines ≠ [])
    (hlines : ∀ line ∈ lines, '\n' ∉ line ∧ '\r' ∉ line) :
    readArp (joinLines lines) = lines.filterMap arpEntry :=
  filterMap_splitLines rfl hne hlines

theorem device_eq_iff {address : NeighAddress} {found mac : Text} :
    address.device found = address.device mac ↔ lowerCase found = lowerCase mac := by
  cases address with
  | ipv4 ip => simp [NeighAddress.device, String.ofList_inj]
  | ipv6 ip => simp [NeighAddress.device, String.ofList_inj]

theorem arpEntry_arpLine (host rest : Text) (ip : PrintedIpv4) (mac : PrintedMac) :
    arpEntry (arpLine host ip mac rest) =
      some ((NeighAddress.ipv4 ip).device (macText mac.octets)) ↔
        (firstIpv4 host).getD (ipv4Text ip.octets) = ipv4Text ip.octets ∧
          lowerCase ((firstMac host).getD (macText mac.octets)) = lowerCase (macText mac.octets) := by
  have hip : firstIpv4 (arpLine host ip mac rest) =
      some ((firstIpv4 host).getD (ipv4Text ip.octets)) := by
    rw [arpLine, firstIpv4_word_append, firstIpv4_word_append, firstIpv4_parenthesised, Option.some_or]
    cases firstIpv4 host <;> rfl
  have hparentheses : ':' ∉ '(' :: (ipv4Text ip.octets ++ [')']) := by
    simp [ipv4Text_colon]
  have hat : firstMac "at".toList = none := firstMac_none (by decide)
  have hmac : firstMac (arpLine host ip mac rest) =
      some ((firstMac host).getD (macText mac.octets)) := by
    rw [arpLine, firstMac_word_append, firstMac_word_append, firstMac_none hparentheses, Option.none_or,
      firstMac_word_append, hat, Option.none_or, firstMac_macText]
    cases firstMac host <;> rfl
  rw [arpEntry, hip, hmac]
  simp [NeighAddress.device, String.ofList_inj, and_comm]

theorem getD_eq_iff {α β : Type} {found : Option α} {default : α} {f : α → β} :
    f (found.getD default) = f default ↔ ∀ value, found = some value → f value = f default := by
  cases found with
  | none => simp
  | some value => simp

/-- A line of the neighbour table gives its address and its MAC exactly when the first text in the
address or the interface's name that looks like a MAC, if there is one, is that MAC; and a line of `arp`
gives its own exactly when the first texts in the host's name that look like an address or a MAC are. -/
theorem neighbour_lines_iff (address : NeighAddress) (iface state host rest : Text) (ip : PrintedIpv4)
    (mac : PrintedMac) :
    (parseNeighLine (neighLine address iface mac state) = some (address.device (macText mac.octets)) ↔
      ∀ found, (firstMac address.text).or (firstMac iface) = some found →
        lowerCase found = lowerCase (macText mac.octets)) ∧
      (arpEntry (arpLine host ip mac rest) =
          some ((NeighAddress.ipv4 ip).device (macText mac.octets)) ↔
        (∀ found, firstIpv4 host = some found → found = ipv4Text ip.octets) ∧
          ∀ found, firstMac host = some found →
            lowerCase found = lowerCase (macText mac.octets)) := by
  refine ⟨?_, ?_⟩
  · rw [parseNeighLine_neighLine, firstMac_neighLine]
    cases (firstMac address.text).or (firstMac iface) with
    | none => simp
    | some found => simp [device_eq_iff]
  · rw [arpEntry_arpLine]
    exact and_congr (getD_eq_iff (f := id)) (getD_eq_iff (f := lowerCase))

def macLikeText : Text := "2001:aa:bb:cc:dd:ee:ff:1".toList

theorem macLikeText_chars : ∀ c ∈ macLikeText, isHex c ∨ c = ':' ∨ c = '.' := by
  have hall : macLikeText.all (fun c => decide (isHex c ∨ c = ':' ∨ c = '.')) = true := by
    decide +kernel
  exact fun c hc => of_decide_eq_true (List.all_eq_true.mp hall c hc)

/-- An address with a text in it that looks like a MAC. -/
def macLikeAddress : NeighAddress :=
  .ipv6 ⟨macLikeText, macLikeText_chars, by decide +kernel, by decide +kernel⟩

def deviceMac : PrintedMac :=
  ⟨[('1', '1'), ('2', '2'), ('3', '3'), ('4', '4'), ('5', '5'), ('6', '6')], rfl, by decide⟩

def deviceIp : PrintedIpv4 := ⟨[192, 168, 1, 50], rfl⟩

theorem macLikeAddress_misread :
    (parseNeighLine (neighLine macLikeAddress "eth0".toList deviceMac "REACHABLE".toList)).map
        (·.macAddress) = some "01:aa:bb:cc:dd:ee" ∧
      parseNeighLine (neighLine macLikeAddress "eth0".toList deviceMac "REACHABLE".toList) ≠
        some (macLikeAddress.device (macText deviceMac.octets)) ∧
      (arpEntry (arpLine "1.2.3.4.example".toList deviceIp deviceMac "[ether]".toList)).map
        (·.ipAddress) = some (some "1.2.3.4") ∧
      arpEntry (arpLine "1.2.3.4.example".toList deviceIp deviceMac "[ether]".toList) ≠
        some ((NeighAddress.ipv4 deviceIp).device (macText deviceMac.octets)) := by
  have hmac : (parseNeighLine (neighLine macLikeAddress "eth0".toList deviceMac
      "REACHABLE".toList)).map (·.macAddress) = some "01:aa:bb:cc:dd:ee" := by decide +kernel
  have hip : (arpEntry (arpLine "1.2.3.4.example".toList deviceIp deviceMac "[ether]".toList)).map
      (·.ipAddress) = some (some "1.2.3.4") := by decide +kernel
  refine ⟨hmac, ?_, hip, ?_⟩
  · intro h
    rw [h] at hmac
    exact absurd hmac (by decide +kernel)
  · intro h
    rw [h] at hip
    exact absurd hip (by decide +kernel)

end Neighbours

end GuardTime
