import GuardTime.CommandLines
import GuardTime.MergedDevices
import GuardTime.RouterProbes

namespace GuardTime

namespace Fingerprint

open DotEnv (isSpace)
open Neighbours (isHex macAt macText ipv4Text firstMac PrintedMac PrintedIpv4)
open RouterDiscovery (lookupVendor)

structure Lease where
  hostname : Option Text
  dhcpClientId : Option Text
deriving DecidableEq

/-- `field && field !== '*' ? field : null`; no field of a line is empty. -/
def reported (field : Option Text) : Option Text := field.filter (· ≠ ['*'])

/-- The body of the loop of `parseDhcpLeases`. -/
def leaseOf (line : Text) : Option (Text × Lease) :=
  let trimmed := DotEnv.trim line
  if trimmed = [] then none
  else
    let fields := lineWords isSpace trimmed
    if fields.length < 3 then none
    else fields[1]?.map fun mac => (lowerCase mac, ⟨reported fields[3]?, reported fields[4]?⟩)

def parseDhcpLeases (fileContents : Text) : OrderedMap Text Lease :=
  ((splitLines fileContents).filterMap leaseOf).foldl (fun leases entry => leases.set entry.1 entry.2) .empty

structure Config where
  dhcpLeasesFile : String
  enableOsHint : Bool
  pingBin : String
  osHintTimeoutMs : ℤ

/-- A file that cannot be read is `none`. -/
def readDhcpLeases (config : Config) (readFile : String → Option Text) : OrderedMap Text Lease :=
  if config.dhcpLeasesFile = "" then .empty
  else ((readFile config.dhcpLeasesFile).map parseDhcpLeases).getD .empty

/-- `TTL_RE` at the start of a text. -/
def ttlAt (text : Text) : Option Text :=
  if (text.take 4).map Char.toLower = "ttl=".toList then
    let digits := (text.drop 4).takeWhile Char.isDigit
    if digits = [] then none else some digits
  else none

inductive OsHint where
  | networkDevice
  | windows
  | unixLike
  | unknown
deriving DecidableEq

def classifyTtl (ttl : ℕ) : OsHint :=
  if 200 ≤ ttl then .networkDevice
  else if 110 ≤ ttl then .windows
  else if 32 ≤ ttl then .unixLike
  else .unknown

structure Command where
  bin : String
  args : List String
  timeout : ℤ

def pingCommand (config : Config) (ipAddress : String) : Command where
  bin := config.pingBin
  args := ["-c", "1", "-W", toString (max 1 (-(-config.osHintTimeoutMs / 1000))), ipAddress]
  timeout := config.osHintTimeoutMs + 500

/-- A program that fails prints nothing. -/
def detectOsHint (ipAddress : Option String) (config : Config) (ping : Command → Option Text) :
    Option OsHint :=
  if config.enableOsHint then
    (truthy ipAddress).bind fun ip =>
      (ping (pingCommand config ip)).bind fun stdout =>
        (scan (fun _ => ttlAt) none stdout).bind fun digits =>
          (decimalNumeral digits).map classifyTtl
  else none

structure Enriched extends Device where
  hostname : Option Text
  dhcpClientId : Option Text
  vendorOui : Option String
  osHint : Option OsHint

def enrichDevice (config : Config) (leases : OrderedMap Text Lease) (device : Device)
    (ping : Command → Option Text) : Enriched where
  toDevice := device
  hostname := (leases.get device.macAddress.toList).bind Lease.hostname
  dhcpClientId := (leases.get device.macAddress.toList).bind Lease.dhcpClientId
  vendorOui := lookupVendor device.macAddress.toList
  osHint := detectOsHint device.ipAddress config ping

/-- The devices are pinged at one time, each by a run of its own. -/
def enrichWithFingerprint (discoveredDevices : List Device) (config : Config)
    (readFile : String → Option Text) (ping : ℕ → Command → Option Text) : List Enriched :=
  if discoveredDevices = [] then []
  else
    let leases := readDhcpLeases config readFile
    discoveredDevices.mapIdx fun i device => enrichDevice config leases device (ping i)

/-- A word that a lease file can hold. -/
structure LeaseWord where
  text : Text
  ne : text ≠ []
  plain : ∀ c ∈ text, isSpace c = false

/-- A name that a lease file can tell from one that is not reported. -/
structure LeaseName extends LeaseWord where
  named : text ≠ ['*']

def shownName (name : Option LeaseName) : Text := (name.map fun n => n.text).getD ['*']

/-- A line of the file as dnsmasq writes it: a lease of IPv4, the server's identifier, or a lease of
IPv6, which names an association in place of the MAC. -/
inductive LeaseLine where
  | ipv4 (expiry : ℕ) (mac : PrintedMac) (ip : PrintedIpv4) (hostname clientId : Option LeaseName)
  | duid (identifier : LeaseWord)
  | ipv6 (expiry : ℕ) (temporary : Bool) (iaid : ℕ) (ip : LeaseWord)
    (hostname clientId : Option LeaseName)

namespace LeaseLine

def words : LeaseLine → List Text
  | ipv4 expiry mac ip hostname clientId =>
    [(toString expiry).toList, macText mac.octets, ipv4Text ip.octets, shownName hostname, shownName clientId]
  | duid identifier => ["duid".toList, identifier.text]
  | ipv6 expiry temporary iaid ip hostname clientId =>
    [(toString expiry).toList, (if temporary then ['T'] else []) ++ (toString iaid).toList, ip.text,
      shownName hostname, shownName clientId]

def text (line : LeaseLine) : Text := List.intercalate [' '] line.words

/-- The lease of a device by its MAC, in whatever case the two are written. -/
def leasedTo (mac : Text) : LeaseLine → Option Lease
  | ipv4 _ own _ hostname clientId =>
    if lowerCase (macText own.octets) = lowerCase mac then
      some ⟨hostname.map fun n => n.text, clientId.map fun n => n.text⟩
    else none
  | duid _ => none
  | ipv6 .. => none

end LeaseLine

def leaseFile (lines : List LeaseLine) : Text := (lines.map LeaseLine.text).flatMap (· ++ ['\n'])

def lastLease (lines : List LeaseLine) (mac : Text) : Option Lease :=
  lines.reverse.findSome? (LeaseLine.leasedTo mac)

/-- What is found begins what is there. -/
def Begins (found whole : Option Text) : Prop :=
  ∀ value, found = some value → ∃ name, whole = some name ∧ value <+: name

/-- The three stacks a reply is told apart by. -/
inductive IpStack where
  | unixLike
  | windows
  | networkDevice

def IpStack.initialTtl : IpStack → ℕ
  | unixLike => 64
  | windows => 128
  | networkDevice => 255

def IpStack.hint : IpStack → OsHint
  | unixLike => .unixLike
  | windows => .windows
  | networkDevice => .networkDevice

/-- What `ping` prints of a reply that took some hops. -/
structure PingReply where
  before : Text
  stack : IpStack
  hops : ℕ
  after : Text
  clear : ∀ i, before[i + 1]? = some '=' → before[i]? ≠ some 'l' ∧ before[i]? ≠ some 'L'
  ends : ∀ c ∈ after.head?, c.isDigit = false

def PingReply.text (reply : PingReply) : Text :=
  reply.before ++ ("ttl=".toList ++ (Nat.toDigits 10 (reply.stack.initialTtl - reply.hops) ++ reply.after))

def lineEnd (c : Char) : Bool := c = '\n' || c = '\r'

theorem isWord_of_plain {text : Text} (hne : text ≠ []) (hplain : ∀ c ∈ text, isSpace c = false) :
    IsWord lineEnd isSpace text := by
  refine ⟨hne, fun c hc => ⟨?_, hplain c hc⟩⟩
  have hspace := hplain c hc
  simp only [lineEnd, Bool.or_eq_false_iff, decide_eq_false_iff_not]
  refine ⟨?_, ?_⟩
  · rintro rfl
    exact absurd hspace (by decide)
  · rintro rfl
    exact absurd hspace (by decide)

theorem isWord_number (n : ℕ) : IsWord lineEnd isSpace (toString n).toList := by
  have hne : (toString n).toList ≠ [] := by simp [Nat.toDigits_ne_nil]
  exact isWord_of_plain hne fun c hc => digit_not_space (toString_chars hc)

theorem isWord_shownName (name : Option LeaseName) : IsWord lineEnd isSpace (shownName name) := by
  cases name with
  | none => exact isWord_iff.mp (by decide)
  | some name => exact isWord_of_plain name.ne name.plain

theorem macText_chars {octets : List (Char × Char)} (hhex : ∀ octet ∈ octets, isHex octet.1 ∧ isHex octet.2) :
    ∀ c ∈ macText octets, isHex c ∨ c = ':' := by
  intro c hc
  rcases mem_intercalate hc with hc | ⟨pair, hpair, hc⟩
  · exact Or.inr (List.mem_singleton.mp hc)
  · obtain ⟨octet, hoctet, rfl⟩ := List.mem_map.mp hpair
    have hboth := hhex octet hoctet
    rcases List.mem_pair.mp hc with rfl | rfl
    · exact Or.inl hboth.1
    · exact Or.inl hboth.2

theorem isWord_mac (mac : PrintedMac) : IsWord lineEnd isSpace (macText mac.octets) := by
  refine isWord_of_plain ?_ fun c hc => ?_
  · obtain ⟨octet, octets, hcons⟩ := List.exists_cons_of_length_eq_add_one mac.six
    obtain ⟨next, octets, rfl⟩ := List.exists_cons_of_ne_nil (l := octets) (by
      rintro rfl
      have hsix := mac.six
      simp [hcons] at hsix)
    simp [macText, hcons, List.intercalate_cons_cons]
  · rcases macText_chars mac.hex c hc with hhex | rfl
    · exact Neighbours.hex_not_space hhex
    · decide

theorem isWord_ipv4 (ip : PrintedIpv4) : IsWord lineEnd isSpace (ipv4Text ip.octets) :=
  isWord_of_plain (Neighbours.NeighAddress.text_ne (.ipv4 ip)) (Neighbours.NeighAddress.text_no_space (.ipv4 ip))

namespace LeaseLine

theorem words_isWord (line : LeaseLine) : ∀ word ∈ line.words, IsWord lineEnd isSpace word := by
  cases line with
  | ipv4 expiry mac ip hostname clientId =>
    simp only [words, List.forall_mem_cons]
    exact ⟨isWord_number expiry, isWord_mac mac, isWord_ipv4 ip, isWord_shownName hostname,
      isWord_shownName clientId, by simp⟩
  | duid identifier =>
    have hduid : IsWord lineEnd isSpace "duid".toList := isWord_iff.mp (by decide)
    have hid := isWord_of_plain identifier.ne identifier.plain
    simp only [words, List.forall_mem_cons]
    exact ⟨hduid, hid, by simp⟩
  | ipv6 expiry temporary iaid ip hostname clientId =>
    have hiaid : IsWord lineEnd isSpace ((if temporary then ['T'] else []) ++ (toString iaid).toList) := by
      have hnumber := isWord_number iaid
      cases temporary with
      | false => exact hnumber
      | true =>
        refine isWord_of_plain (by simp) fun c hc => ?_
        rcases List.mem_append.mp hc with hc | hc
        · obtain rfl := List.mem_singleton.mp hc
          decide
        · exact (hnumber.plain c hc).2
    have hip := isWord_of_plain ip.ne ip.plain
    simp only [words, List.forall_mem_cons]
    exact ⟨isWord_number expiry, hiaid, hip, isWord_shownName hostname, isWord_shownName clientId, by simp⟩

theorem words_ne (line : LeaseLine) : line.words ≠ [] := by
  cases line <;> simp [words]

theorem text_ends (line : LeaseLine) : '\n' ∉ line.text ∧ '\r' ∉ line.text := by
  have hends := ends_intercalate (by decide) line.words_isWord
  exact ⟨fun h => absurd (hends _ h) (by decide), fun h => absurd (hends _ h) (by decide)⟩

end LeaseLine

theorem leaseOf_eq (line : Text) : leaseOf line =
    if (lineWords isSpace line).length < 3 then none
    else (lineWords isSpace line)[1]?.map fun mac =>
      (lowerCase mac, ⟨reported (lineWords isSpace line)[3]?, reported (lineWords isSpace line)[4]?⟩) := by
  have htrim : lineWords isSpace (DotEnv.trim line) = lineWords isSpace line := lineWords_trimmed
  simp only [leaseOf, htrim]
  split
  next hnil =>
    have hwords : lineWords isSpace line = [] := by
      rw [← htrim, hnil]
      rfl
    rw [hwords]
    rfl
  next => rfl

theorem reported_shownName (name : Option LeaseName) :
    reported (some (shownName name)) = name.map fun n => n.text := by
  cases name with
  | none => rfl
  | some name => simp [reported, shownName, name.named]

/-- A field of a line that is cut short begins the one of the whole line. -/
theorem field_begins {words fields last : List Text} {shown i : ℕ} {value : Text}
    (hfields : fields = words.take shown ++ last)
    (hlast : last = [] ∨ ∃ word part, words[shown]? = some word ∧ last = [part] ∧ part <+: word)
    (hvalue : fields[i]? = some value) :
    ∃ word, words[i]? = some word ∧ value <+: word ∧ (i + 1 < fields.length → value = word) := by
  subst hfields
  by_cases hi : i < (words.take shown).length
  · rw [List.getElem?_append_left hi] at hvalue
    have hword : words[i]? = some value := by
      rw [List.getElem?_take] at hvalue
      split at hvalue
      next => exact hvalue
      next => cases hvalue
    exact ⟨value, hword, List.prefix_rfl, fun _ => rfl⟩
  · rw [List.getElem?_append_right (Nat.le_of_not_lt hi)] at hvalue
    rcases hlast with rfl | ⟨word, part, hword, rfl, hpart⟩
    · cases hvalue
    · have hshort : shown ≤ words.length := Nat.le_of_lt (List.getElem?_eq_some_iff.mp hword).1
      rw [List.length_take, Nat.min_eq_left hshort] at hi hvalue
      have hat : i = shown := by
        have hone := (List.getElem?_eq_some_iff.mp hvalue).1
        rw [List.length_singleton] at hone
        omega
      subst hat
      rw [Nat.sub_self] at hvalue
      obtain rfl : part = value := Option.some.inj hvalue
      refine ⟨word, hword, hpart, fun hlong => ?_⟩
      rw [List.length_append, List.length_take, Nat.min_eq_left hshort, List.length_singleton] at hlong
      omega

theorem reported_begins {found : Option Text} {name : Option LeaseName}
    (hne : ∀ value, found = some value → value ≠ [] ∧ value <+: shownName name) :
    Begins (reported found) (name.map fun n => n.text) := by
  intro value hvalue
  obtain ⟨hfound, hnamed⟩ := Option.filter_eq_some_iff.mp hvalue
  obtain ⟨hnil, hprefix⟩ := hne value hfound
  cases name with
  | some name => exact ⟨name.text, rfl, hprefix⟩
  | none =>
    -- a beginning of `*` is empty or `*` itself
    rcases List.prefix_cons_iff.mp hprefix with rfl | ⟨rest, rfl, hrest⟩
    · exact absurd rfl hnil
    · rw [List.prefix_nil.mp hrest] at hnamed
      exact absurd hnamed (by decide)

theorem lowerChar_digit {c : Char} (h : c.isDigit) : lowerChar c = c := by
  have hdigit : 48 ≤ c.toNat ∧ c.toNat ≤ 57 := Char.isDigit_iff_toNat.mp h
  rw [lowerChar, if_neg]
  · refine dif_neg fun hupper => ?_
    have hlow : 65 ≤ c.toNat := hupper.1
    omega
  · rintro rfl
    exact absurd h (by decide)

theorem lowerChar_lowerChar (c : Char) : lowerChar (lowerChar c) = lowerChar c := by
  by_cases h : c.val ≥ 'A'.val ∧ c.val ≤ 'Z'.val
  · have hletters : ∀ i : Fin 26,
        lowerChar (lowerChar (Char.ofNat (65 + i))) = lowerChar (Char.ofNat (65 + i)) := by decide
    have hlow : 65 ≤ c.toNat := h.1
    have hhigh : c.toNat ≤ 90 := h.2
    have hletter := hletters ⟨c.toNat - 65, by omega⟩
    rwa [Nat.add_sub_cancel' hlow, Char.ofNat_toNat] at hletter
  · by_cases hkelvin : c = '\u212a'
    · subst hkelvin
      decide
    · have hself : lowerChar c = c := (if_neg hkelvin).trans (dif_neg h)
      rw [hself, hself]

theorem lowerCase_lowerCase (text : Text) : lowerCase (lowerCase text) = lowerCase text := by
  rw [lowerCase, lowerCase, List.map_map]
  exact List.map_congr_left fun c _ => lowerChar_lowerChar c

namespace LeaseLine

theorem leaseOf_cut {line : LeaseLine} {part mac : Text} {lease : Lease} (hmac : ':' ∈ mac)
    (hpart : part <+: line.text) (h : leaseOf part = some (mac, lease)) :
    ∃ whole, line.leasedTo mac = some whole ∧ Begins lease.hostname whole.hostname ∧
      Begins lease.dhcpClientId whole.dhcpClientId := by
  obtain ⟨shown, last, hfields, hlast⟩ :=
    lineWords_prefix (show isSpace ' ' by decide) line.words_ne line.words_isWord hpart
  have hne : ∀ field ∈ lineWords isSpace part, field ≠ [] := by
    intro field hfield
    simpa using (List.mem_filter.mp hfield).2
  have hbegins : ∀ (i : ℕ) (value : Text), (lineWords isSpace part)[i]? = some value → _ :=
    fun i value => field_begins hfields hlast
  rw [leaseOf_eq] at h
  split at h
  next => cases h
  next hlen =>
    obtain ⟨key, hkey, hentry⟩ := Option.map_eq_some_iff.mp h
    obtain ⟨rfl, rfl⟩ := Prod.mk.inj hentry
    obtain ⟨word, hword, -, hwhole⟩ := hbegins 1 key hkey
    obtain rfl := hwhole (by omega)
    have hname : ∀ (i : ℕ) (name : Option LeaseName), line.words[i]? = some (shownName name) →
        ∀ value, (lineWords isSpace part)[i]? = some value → value ≠ [] ∧ value <+: shownName name := by
      intro i name hshown value hvalue
      obtain ⟨word, hat, hprefix, -⟩ := hbegins i value hvalue
      rw [hshown] at hat
      obtain rfl := Option.some.inj hat
      exact ⟨hne value (List.mem_of_getElem? hvalue), hprefix⟩
    cases line with
    | ipv4 expiry own ip hostname clientId =>
      obtain rfl : macText own.octets = key := Option.some.inj hword
      refine ⟨⟨hostname.map fun n => n.text, clientId.map fun n => n.text⟩, ?_, ?_, ?_⟩
      · rw [leasedTo, lowerCase_lowerCase, if_pos rfl]
      · exact reported_begins (hname 3 hostname rfl)
      · exact reported_begins (hname 4 clientId rfl)
    | duid identifier =>
      -- the third word that a lease has is missing
      obtain ⟨third, hthird⟩ : ∃ third, (lineWords isSpace part)[2]? = some third :=
        ⟨_, List.getElem?_eq_getElem (by omega)⟩
      obtain ⟨word, hat, -, -⟩ := hbegins 2 third hthird
      cases hat
    | ipv6 expiry temporary iaid ip hostname clientId =>
      -- an association's number holds no colon
      obtain rfl : (if temporary then ['T'] else []) ++ (toString iaid).toList = key := Option.some.inj hword
      obtain ⟨c, hc, hcolon⟩ := List.mem_map.mp hmac
      have hplain : c.isDigit ∨ c = 'T' := by
        rcases List.mem_append.mp hc with hc | hc
        · cases temporary with
          | false => cases hc
          | true => exact Or.inr (List.mem_singleton.mp hc)
        · exact Or.inl (toString_chars hc)
      rcases hplain with hdigit | rfl
      · rw [lowerChar_digit hdigit] at hcolon
        rw [hcolon] at hdigit
        exact absurd hdigit (by decide)
      · exact absurd hcolon (by decide)

end LeaseLine

/-- The lease that a line of the file gives a MAC. -/
def entryOf (mac line : Text) : Option Lease :=
  (leaseOf line).bind fun entry => if entry.1 = mac then some entry.2 else none

theorem entryOf_eq_some {mac line : Text} {lease : Lease} :
    entryOf mac line = some lease ↔ leaseOf line = some (mac, lease) := by
  rw [entryOf, Option.bind_eq_some_iff]
  refine ⟨?_, fun h => ⟨_, h, if_pos rfl⟩⟩
  rintro ⟨⟨key, found⟩, hline, hkey⟩
  split at hkey
  next heq =>
    obtain rfl : found = lease := Option.some.inj hkey
    exact heq ▸ hline
  next => cases hkey

theorem get_parseDhcpLeases (text mac : Text) :
    (parseDhcpLeases text).get mac = (splitLines text).reverse.findSome? (entryOf mac) := by
  rw [parseDhcpLeases, OrderedMap.get_foldl_set, OrderedMap.get_empty, Option.or_none, ← List.filterMap_reverse]
  induction (splitLines text).reverse with
  | nil => rfl
  | cons line lines ih =>
    rw [List.findSome?_cons, ← ih, entryOf, List.filterMap_cons]
    cases leaseOf line with
    | none => rfl
    | some entry =>
      by_cases hkey : entry.1 = mac
      · simp [hkey]
      · simp [hkey]

theorem entryOf_text {mac : Text} (hmac : ':' ∈ mac) (hlower : lowerCase mac = mac) (line : LeaseLine) :
    entryOf mac line.text = line.leasedTo mac := by
  have hwords : lineWords isSpace line.text = line.words :=
    lineWords_intercalate (by decide) line.words_isWord
  cases hentry : entryOf mac line.text with
  | some lease =>
    -- what is read is leased, and a lease is read as a whole
    have hread := entryOf_eq_some.mp hentry
    obtain ⟨whole, hleased, -, -⟩ := LeaseLine.leaseOf_cut hmac List.prefix_rfl hread
    rw [hleased]
    rw [leaseOf_eq, hwords] at hread
    cases line with
    | ipv4 expiry own ip hostname clientId =>
      simp only [LeaseLine.leasedTo] at hleased
      split at hleased
      next =>
        have hlease := (Prod.mk.inj (Option.some.inj hread)).2
        have hname := reported_shownName hostname
        have hid := reported_shownName clientId
        rw [← hlease, ← Option.some.inj hleased, ← hname, ← hid]
        rfl
      next => cases hleased
    | duid identifier => cases hleased
    | ipv6 expiry temporary iaid ip hostname clientId => cases hleased
  | none =>
    cases line with
    | ipv4 expiry own ip hostname clientId =>
      have hread : leaseOf (LeaseLine.ipv4 expiry own ip hostname clientId).text =
          some (lowerCase (macText own.octets), ⟨reported (some (shownName hostname)),
            reported (some (shownName clientId))⟩) := by
        rw [leaseOf_eq, hwords]
        rfl
      rw [LeaseLine.leasedTo, hlower]
      split
      next heq =>
        rw [heq] at hread
        rw [entryOf_eq_some.mpr hread] at hentry
        cases hentry
      next => rfl
    | duid identifier => rfl
    | ipv6 expiry temporary iaid ip hostname clientId => rfl

/-- However much of the file is written when it is read, a MAC gets the last lease of its own among the
lines that end in it, or the beginning of one that is being written. -/
theorem leases_of_cut {lines : List LeaseLine} {cut : Text} (hcut : cut <+: leaseFile lines) {mac : Text}
    (hmac : ':' ∈ mac) (hlower : lowerCase mac = mac) :
    (parseDhcpLeases cut).get mac = lastLease (lines.take (cut.count '\n')) mac ∨
      ∃ line whole lease, lines[cut.count '\n']? = some line ∧ line.leasedTo mac = some whole ∧
        (parseDhcpLeases cut).get mac = some lease ∧ Begins lease.hostname whole.hostname ∧
        Begins lease.dhcpClientId whole.dhcpClientId := by
  have hends : ∀ text ∈ lines.map LeaseLine.text, '\n' ∉ text ∧ '\r' ∉ text := by
    intro text hmem
    obtain ⟨line, -, rfl⟩ := List.mem_map.mp hmem
    exact line.text_ends
  obtain ⟨part, hsplit, hbegin⟩ := splitLines_cut hends hcut
  have hget : (parseDhcpLeases cut).get mac =
      (entryOf mac part).or (lastLease (lines.take (cut.count '\n')) mac) := by
    rw [get_parseDhcpLeases, hsplit, List.reverse_append, List.reverse_singleton, List.singleton_append,
      List.findSome?_cons, ← List.map_take, ← List.map_reverse, List.findSome?_map, lastLease]
    have hlines : entryOf mac ∘ LeaseLine.text = LeaseLine.leasedTo mac :=
      funext fun line => entryOf_text hmac hlower line
    rw [hlines]
    cases entryOf mac part <;> rfl
  cases hentry : entryOf mac part with
  | none =>
    rw [hentry, Option.none_or] at hget
    exact Or.inl hget
  | some lease =>
    rw [hentry, Option.some_or] at hget
    have hread := entryOf_eq_some.mp hentry
    rcases hbegin with rfl | ⟨text, htext, hpart⟩
    · cases hread
    · rw [List.getElem?_map] at htext
      obtain ⟨line, hline, rfl⟩ := Option.map_eq_some_iff.mp htext
      obtain ⟨whole, hleased, hhost, hid⟩ := LeaseLine.leaseOf_cut hmac hpart hread
      exact Or.inr ⟨line, whole, lease, hline, hleased, hget, hhost, hid⟩

theorem ttlAt_reply (n : ℕ) {after : Text} (hafter : ∀ c ∈ after.head?, c.isDigit = false) :
    ttlAt ("ttl=".toList ++ (Nat.toDigits 10 n ++ after)) = some (Nat.toDigits 10 n) := by
  have hdigits : (Nat.toDigits 10 n ++ after).takeWhile Char.isDigit = Nat.toDigits 10 n :=
    (takeWhile_digits (fun _ => digit_of_toDigits (n := n)) hafter).1
  have htake : ("ttl=".toList ++ (Nat.toDigits 10 n ++ after)).take 4 = "ttl=".toList := List.take_left' rfl
  have hdrop : ("ttl=".toList ++ (Nat.toDigits 10 n ++ after)).drop 4 = Nat.toDigits 10 n ++ after :=
    List.drop_left' rfl
  rw [ttlAt, htake, hdrop, if_pos (by decide)]
  simp only [hdigits, if_neg (Nat.toDigits_ne_nil (b := 10) (n := n))]

theorem ttlAt_isSome {text : Text} (h : (ttlAt text).isSome) :
    text[3]? = some '=' ∧ (text[2]? = some 'l' ∨ text[2]? = some 'L') := by
  have hhead : (text.take 4).map Char.toLower = "ttl=".toList := by
    rw [ttlAt] at h
    split at h
    next heq => exact heq
    next => cases h
  have hlower : ∀ {c d : Char}, c.toLower = d → c = d ∨ c.toNat + 32 = d.toNat := by
    intro c d hcd
    by_cases hupper : c.val ≥ 'A'.val ∧ c.val ≤ 'Z'.val
    · have hletters : ∀ i : Fin 26, (Char.ofNat (65 + i)).toLower.toNat = 65 + i.val + 32 := by decide
      have hlow : 65 ≤ c.toNat := hupper.1
      have hhigh : c.toNat ≤ 90 := hupper.2
      have hletter := hletters ⟨c.toNat - 65, by omega⟩
      rw [Nat.add_sub_cancel' hlow, Char.ofNat_toNat, hcd] at hletter
      exact Or.inr hletter.symm
    · have hself : c.toLower = c := dif_neg hupper
      exact Or.inl (hself ▸ hcd)
  match text with
  | a :: b :: c :: d :: rest =>
    have hchars : [a.toLower, b.toLower, c.toLower, d.toLower] = ['t', 't', 'l', '='] := hhead
    simp only [List.cons.injEq, and_true] at hchars
    obtain ⟨-, -, hl, hequals⟩ := hchars
    refine ⟨?_, ?_⟩
    · rcases hlower hequals with rfl | hshift
      · rfl
      · have heq : d.toNat = 29 := by
          have : '='.toNat = 61 := rfl
          omega
        have hself : d.toLower = d := by
          refine dif_neg fun hupper => ?_
          have hlow : 65 ≤ d.toNat := hupper.1
          omega
        exact congrArg some (hself ▸ hequals)
    · rcases hlower hl with rfl | hshift
      · exact Or.inl rfl
      · have hupper : c.toNat = 'L'.toNat := by
          have hl : 'l'.toNat = 108 := rfl
          have hL : 'L'.toNat = 76 := rfl
          omega
        exact Or.inr (congrArg some (Char.toNat_inj.mp hupper))
  | [] | [_] | [_, _] | [_, _, _] => simp at hhead

theorem scan_reply (reply : PingReply) : scan (fun _ => ttlAt) none reply.text =
    some (Nat.toDigits 10 (reply.stack.initialTtl - reply.hops)) := by
  refine scan_of_leftmost (ttlAt_reply _ reply.ends) fun left right htext hshort => ?_
  rw [← Option.not_isSome_iff_eq_none]
  intro hmatch
  obtain ⟨hequals, hl⟩ := ttlAt_isSome hmatch
  have hat : ∀ i, right[i]? = (reply.before ++ ("ttl=".toList ++
      (Nat.toDigits 10 (reply.stack.initialTtl - reply.hops) ++ reply.after)))[left.length + i]? := by
    intro i
    rw [htext, List.getElem?_append_right (Nat.le_add_right _ _), Nat.add_sub_cancel_left]
  rw [hat] at hequals
  rw [hat] at hl
  by_cases hwithin : left.length + 3 < reply.before.length
  · -- both stand before the reply's own text
    rw [List.getElem?_append_left hwithin] at hequals
    rw [List.getElem?_append_left (by omega)] at hl
    have hclear := reply.clear (left.length + 2) hequals
    rcases hl with hl | hl
    · exact hclear.1 hl
    · exact hclear.2 hl
  · rw [List.getElem?_append_right (by omega)] at hequals
    obtain ⟨i, hi⟩ : ∃ i : Fin 3, left.length + 3 - reply.before.length = i :=
      ⟨⟨left.length + 3 - reply.before.length, by omega⟩, rfl⟩
    have hlen : "ttl=".toList.length = 4 := rfl
    have hno : ∀ i : Fin 3, "ttl=".toList[i.val]? ≠ some '=' := by decide
    rw [hi, List.getElem?_append_left (by omega)] at hequals
    exact hno i hequals

theorem classifyTtl_hops {hops : ℕ} (h : hops ≤ 18) (stack : IpStack) :
    classifyTtl (stack.initialTtl - hops) = stack.hint := by
  cases stack with
  | unixLike =>
    have hlow : ¬110 ≤ 64 - hops ∧ ¬200 ≤ 64 - hops ∧ 32 ≤ 64 - hops := by omega
    simp [classifyTtl, IpStack.initialTtl, IpStack.hint, hlow]
  | windows =>
    have hlow : ¬200 ≤ 128 - hops ∧ 110 ≤ 128 - hops := by omega
    simp [classifyTtl, IpStack.initialTtl, IpStack.hint, hlow]
  | networkDevice =>
    have hlow : 200 ≤ 255 - hops := by omega
    simp [classifyTtl, IpStack.initialTtl, IpStack.hint, hlow]

theorem detectOsHint_reply {ip : String} {config : Config} {ping : Command → Option Text} {reply : PingReply}
    (henabled : config.enableOsHint = true) (hip : ip ≠ "") (hhops : reply.hops ≤ 18)
    (hping : ping (pingCommand config ip) = some reply.text) :
    detectOsHint (some ip) config ping = some reply.stack.hint := by
  have hnumeral := decimalNumeral_toDigits (reply.stack.initialTtl - reply.hops)
  have htruthy : truthy (some ip) = some ip := by simp [truthy, hip]
  simp only [detectOsHint, henabled, if_true, htruthy, Option.bind_some, hping, scan_reply, hnumeral,
    Option.map_some, classifyTtl_hops hhops]

theorem firstMac_colon {text mac : Text} (h : firstMac text = some mac) : ':' ∈ mac := by
  obtain ⟨left, right, -, hmac, -⟩ := exists_leftmost h
  match right with
  | [] | [_] | [_, _] => cases hmac
  | a :: b :: c :: right =>
    rw [macAt] at hmac
    split at hmac
    next hpair =>
      obtain ⟨others, -, rfl⟩ := Option.map_eq_some_iff.mp hmac
      have hc : c = ':' := by simpa using (Bool.and_eq_true_iff.mp hpair).2
      simp [hc]
    next => cases hmac

def Discovered (mac : String) : Prop := ':' ∈ mac.toList ∧ lowerCase mac.toList = mac.toList

theorem discovered_firstMac {text mac : Text} (h : firstMac text = some mac) :
    Discovered (String.ofList (lowerCase mac)) := by
  rw [Discovered, String.toList_ofList]
  exact ⟨List.mem_map.mpr ⟨':', firstMac_colon h, rfl⟩, lowerCase_lowerCase mac⟩

theorem parseNeighLine_mac {line : Text} {device : Device} (h : Neighbours.parseNeighLine line = some device) :
    Discovered device.macAddress := by
  rw [Neighbours.parseNeighLine] at h
  split at h
  next => cases h
  next =>
    obtain ⟨mac, hmac, h⟩ := Option.bind_eq_some_iff.mp h
    simp only at h
    split at h
    next =>
      split at h
      next => cases h
      next =>
        cases Option.some.inj h
        exact discovered_firstMac hmac
    next =>
      obtain ⟨ip, -, rfl⟩ := Option.map_eq_some_iff.mp h
      exact discovered_firstMac hmac

theorem arpEntry_mac {line : Text} {device : Device} (h : Neighbours.arpEntry line = some device) :
    Discovered device.macAddress := by
  obtain ⟨ip, -, h⟩ := Option.bind_eq_some_iff.mp h
  obtain ⟨mac, hmac, rfl⟩ := Option.map_eq_some_iff.mp h
  exact discovered_firstMac hmac

theorem discovered_mac {neigh arp : Option Text} {device : Device}
    (h : device ∈ discoverDevices neigh arp) : Discovered device.macAddress := by
  have hmerged : ∀ entries : List Device, (∀ entry ∈ entries, Discovered entry.macAddress) →
      device ∈ mergeByMac entries → Discovered device.macAddress := by
    intro entries hentries hmem
    have hmac := List.mem_map_of_mem (f := Device.macAddress) hmem
    rw [map_mergeByMac] at hmac
    obtain ⟨entry, hentry, heq⟩ := List.mem_map.mp (List.mem_eraseDups.mp hmac)
    exact heq ▸ hentries entry hentry
  have hneigh : ∀ stdout, ∀ entry ∈ Neighbours.readIpNeigh stdout, Discovered entry.macAddress := by
    intro stdout entry hmem
    obtain ⟨line, -, hline⟩ := List.mem_filterMap.mp hmem
    exact parseNeighLine_mac hline
  have harp : ∀ stdout, ∀ entry ∈ Neighbours.readArp stdout, Discovered entry.macAddress := by
    intro stdout entry hmem
    obtain ⟨line, -, hline⟩ := List.mem_filterMap.mp hmem
    exact arpEntry_mac hline
  unfold discoverDevices at h
  split at h
  next first others hread =>
    obtain ⟨stdout, -, hdevices⟩ := Option.map_eq_some_iff.mp hread
    exact hmerged _ (hdevices ▸ hneigh stdout) h
  next =>
    cases arp with
    | none => cases h
    | some stdout => exact hmerged _ (harp stdout) h

def Enriched.Says (record : Enriched) (lease : Option Lease) : Prop :=
  record.hostname = lease.bind Lease.hostname ∧ record.dhcpClientId = lease.bind Lease.dhcpClientId

theorem getElem?_enrichWithFingerprint (devices : List Device) (config : Config)
    (readFile : String → Option Text) (ping : ℕ → Command → Option Text) (i : ℕ) :
    (enrichWithFingerprint devices config readFile ping)[i]? =
      devices[i]?.map fun device => enrichDevice config (readDhcpLeases config readFile) device (ping i) := by
  rw [enrichWithFingerprint]
  split
  next hnil =>
    rw [hnil]
    rfl
  next => exact List.getElem?_mapIdx

/-- How many lines end in what was read of the lease file, if it was. -/
def linesRead (config : Config) (readFile : String → Option Text) : ℕ :=
  if config.dhcpLeasesFile = "" then 0
  else ((readFile config.dhcpLeasesFile).map fun text => text.count '\n').getD 0

/-- The lease map of a file of which a beginning was read, or nothing. -/
theorem readDhcpLeases_cut {config : Config} {readFile : String → Option Text} {lines : List LeaseLine}
    (hread : ∀ text, readFile config.dhcpLeasesFile = some text → text <+: leaseFile lines) {mac : Text}
    (hmac : ':' ∈ mac) (hlower : lowerCase mac = mac) :
    (readDhcpLeases config readFile).get mac = lastLease (lines.take (linesRead config readFile)) mac ∨
      ∃ line whole lease, lines[linesRead config readFile]? = some line ∧
        line.leasedTo mac = some whole ∧ (readDhcpLeases config readFile).get mac = some lease ∧
        Begins lease.hostname whole.hostname ∧ Begins lease.dhcpClientId whole.dhcpClientId := by
  rw [readDhcpLeases, linesRead]
  by_cases hfile : config.dhcpLeasesFile = ""
  · rw [if_pos hfile, if_pos hfile]
    exact Or.inl rfl
  · rw [if_neg hfile, if_neg hfile]
    cases hcontents : readFile config.dhcpLeasesFile with
    | none => exact Or.inl rfl
    | some text => exact leases_of_cut (hread text hcontents) hmac hlower

theorem count_leaseFile (lines : List LeaseLine) : (leaseFile lines).count '\n' = lines.length := by
  induction lines with
  | nil => rfl
  | cons line lines ih =>
    have hcons : leaseFile (line :: lines) = line.text ++ '\n' :: leaseFile lines := by
      simp [leaseFile]
    rw [hcons, List.count_append, List.count_eq_zero_of_not_mem line.text_ends.1, List.count_cons_self, ih,
      Nat.zero_add, List.length_cons]

theorem enrichDevice_says {config : Config} {leases : OrderedMap Text Lease} {device : Device}
    {ping : Command → Option Text} {lines : List LeaseLine} {written : ℕ}
    (h : leases.get device.macAddress.toList = lastLease (lines.take written) device.macAddress.toList ∨
      ∃ line whole lease, lines[written]? = some line ∧ line.leasedTo device.macAddress.toList = some whole ∧
        leases.get device.macAddress.toList = some lease ∧ Begins lease.hostname whole.hostname ∧
        Begins lease.dhcpClientId whole.dhcpClientId) :
    (enrichDevice config leases device ping).Says (lastLease (lines.take written) device.macAddress.toList) ∨
      ∃ line lease, lines[written]? = some line ∧ line.leasedTo device.macAddress.toList = some lease ∧
        Begins (enrichDevice config leases device ping).hostname lease.hostname ∧
        Begins (enrichDevice config leases device ping).dhcpClientId lease.dhcpClientId := by
  rcases h with hlast | ⟨line, whole, lease, hline, hleased, hfound, hhost, hid⟩
  · rw [← hlast]
    exact Or.inl ⟨rfl, rfl⟩
  · refine Or.inr ⟨line, whole, hline, hleased, ?_, ?_⟩
    · rw [enrichDevice, hfound]
      exact hhost
    · rw [enrichDevice, hfound]
      exact hid

/-- Every discovered device is reported, in its place, under its own addresses and with the vendor of its
own prefix. Whenever the lease file was read, a device is named as its last lease among the lines that end in
what was read names it, or as the beginning of its own lease that was being written; nothing of another
device is ever told of it. A device that answered from few enough hops away shows its own system. -/
theorem enriched_devices {neigh arp : Option Text} {config : Config} {readFile : String → Option Text}
    {ping : ℕ → Command → Option Text} {lines : List LeaseLine}
    (hread : ∀ text, readFile config.dhcpLeasesFile = some text → text <+: leaseFile lines) :
    let records := enrichWithFingerprint (discoverDevices neigh arp) config readFile ping
    records.map Enriched.toDevice = discoverDevices neigh arp ∧
    (config.dhcpLeasesFile ≠ "" ∧ readFile config.dhcpLeasesFile = some (leaseFile lines) →
      linesRead config readFile = lines.length) ∧
    (∀ record ∈ records, record.vendorOui = lookupVendor record.macAddress.toList ∧
      (record.Says (lastLease (lines.take (linesRead config readFile)) record.macAddress.toList) ∨
        ∃ line lease, lines[linesRead config readFile]? = some line ∧
          line.leasedTo record.macAddress.toList = some lease ∧
          Begins record.hostname lease.hostname ∧ Begins record.dhcpClientId lease.dhcpClientId)) ∧
    ∀ (i : ℕ) (record : Enriched) (ip : String) (reply : PingReply), records[i]? = some record →
      config.enableOsHint = true → record.ipAddress = some ip → ip ≠ "" →
      ping i (pingCommand config ip) = some reply.text → reply.hops ≤ 18 →
      record.osHint = some reply.stack.hint := by
  intro records
  have hrecords : ∀ i, records[i]? = (discoverDevices neigh arp)[i]?.map fun device =>
      enrichDevice config (readDhcpLeases config readFile) device (ping i) :=
    fun i => getElem?_enrichWithFingerprint _ _ _ _ i
  refine ⟨?_, ?_, ?_, ?_⟩
  · refine List.ext_getElem? fun i => ?_
    rw [List.getElem?_map, hrecords, Option.map_map]
    simp [Function.comp_def, enrichDevice]
  · rintro ⟨hfile, hwhole⟩
    rw [linesRead, if_neg hfile, hwhole, Option.map_some, Option.getD_some, count_leaseFile]
  · intro record hrecord
    obtain ⟨i, hi⟩ := List.mem_iff_getElem?.mp hrecord
    rw [hrecords] at hi
    obtain ⟨device, hdevice, rfl⟩ := Option.map_eq_some_iff.mp hi
    obtain ⟨hcolon, hlower⟩ := discovered_mac (List.mem_of_getElem? hdevice)
    exact ⟨by simp only [enrichDevice], enrichDevice_says (readDhcpLeases_cut hread hcolon hlower)⟩
  · intro i record ip reply hrecord henabled hip hne hping hhops
    rw [hrecords] at hrecord
    obtain ⟨device, -, rfl⟩ := Option.map_eq_some_iff.mp hrecord
    have hown : device.ipAddress = some ip := hip
    rw [enrichDevice, hown]
    exact detectOsHint_reply henabled hne hhops hping

def neighSample : Text :=
  joinLines ["192.168.1.50 dev br-lan lladdr aa:bb:cc:00:00:01 REACHABLE".toList,
    "192.168.1.51 dev br-lan lladdr 3C:06:30:00:00:02 STALE".toList]

def phoneMac : PrintedMac :=
  ⟨[('a', 'a'), ('b', 'b'), ('c', 'c'), ('0', '0'), ('0', '0'), ('0', '1')], rfl, by decide⟩

def laptopMac : PrintedMac :=
  ⟨[('3', 'c'), ('0', '6'), ('3', '0'), ('0', '0'), ('0', '0'), ('0', '2')], rfl, by decide⟩

def laptopIp : PrintedIpv4 :=
  ⟨[⟨192, by decide⟩, ⟨168, by decide⟩, ⟨1, by decide⟩, ⟨51, by decide⟩], rfl⟩

def nameSample (text : Text) (h : isWord lineEnd isSpace text = true) (hnamed : text ≠ ['*']) : LeaseName :=
  ⟨⟨text, (isWord_iff.mp h).ne, fun c hc => ((isWord_iff.mp h).plain c hc).2⟩, hnamed⟩

def leasesSample : List LeaseLine :=
  let phone := nameSample "phone".toList (by decide) (by decide)
  let laptop := nameSample "laptop".toList (by decide) (by decide)
  [.ipv4 1700000000 phoneMac Neighbours.deviceIp (some phone) none,
    .ipv4 1700000001 laptopMac laptopIp (some laptop) none]

/-- The lease file while its second line is being written. -/
def cutSample : Text := (leaseFile leasesSample).take 95

def recordsSample : List Enriched :=
  enrichWithFingerprint (discoverDevices (some neighSample) none) ⟨"dnsmasq.leases", false, "ping", 1000⟩
    (fun _ => some cutSample) fun _ _ => none

theorem enriched_devices_cut :
    recordsSample.map Enriched.toDevice = discoverDevices (some neighSample) none ∧
      recordsSample.map (fun record => (record.macAddress, record.hostname, record.vendorOui)) =
        [("aa:bb:cc:00:00:01", some "phone".toList, none),
          ("3c:06:30:00:00:02", some "lap".toList, some "Apple")] := by
  have hread : ∀ text, some cutSample = some text → text <+: leaseFile leasesSample := by
    intro text htext
    obtain rfl := Option.some.inj htext
    exact List.take_prefix 95 _
  refine ⟨(enriched_devices hread).1, ?_⟩
  unfold recordsSample neighSample
  rw [String.toList_ofList, String.toList_ofList]
  decide +kernel

end Fingerprint

end GuardTime
