import GuardTime.ManagementGuard
import GuardTime.OrderedMap

namespace GuardTime

def Device.address (device : Device) (ipv6 : Bool) : Option String :=
  truthy (if ipv6 then device.ipv6Address else device.ipAddress)

def Target.address (target : Target) (ipv6 : Bool) : Option String :=
  truthy (if ipv6 then target.ipv6Address else target.ipAddress)

/-- The body of the loop of `mergeByMac`. A field is taken once. -/
def mergeEntry (map : OrderedMap String Device) (entry : Device) : OrderedMap String Device :=
  let existing := (map.get entry.macAddress).getD ⟨entry.macAddress, none, none⟩
  map.set entry.macAddress { existing with
    ipAddress :=
      if (truthy entry.ipAddress).isSome && (truthy existing.ipAddress).isNone then entry.ipAddress
      else existing.ipAddress
    ipv6Address :=
      if (truthy entry.ipv6Address).isSome && (truthy existing.ipv6Address).isNone then
        entry.ipv6Address
      else existing.ipv6Address }

def mergeByMac (entries : List Device) : List Device := (entries.foldl mergeEntry .empty).values

/-- The address of a family the entries give for a MAC: the first one that is there. -/
def discoveredAddress (entries : List Device) (mac : String) (ipv6 : Bool) : Option String :=
  entries.findSome? fun entry => if entry.macAddress = mac then entry.address ipv6 else none

/-- A record stands under its own MAC. -/
def Keyed (map : OrderedMap String Device) : Prop :=
  ∀ mac device, map.get mac = some device → device.macAddress = mac

theorem keyed_mergeEntry {map : OrderedMap String Device} (h : Keyed map) (entry : Device) :
    Keyed (mergeEntry map entry) := by
  intro mac device hget
  simp only [mergeEntry, OrderedMap.get_set] at hget
  split at hget
  next hm =>
    cases Option.some.inj hget
    cases hold : map.get entry.macAddress with
    | none => exact hm.symm
    | some existing => exact (h _ _ hold).trans hm.symm
  next => exact h mac device hget

theorem mergeEntry_address (map : OrderedMap String Device) (entry : Device) (mac : String) (ipv6 : Bool) :
    ((mergeEntry map entry).get mac).bind (·.address ipv6) =
      ((map.get mac).bind (·.address ipv6)).or
        (if entry.macAddress = mac then entry.address ipv6 else none) := by
  have htake : ∀ held found : Option String,
      truthy (if (truthy found).isSome && (truthy held).isNone then found else held) =
        (truthy held).or (truthy found) := by
    intro held found
    cases hh : truthy held <;> cases hf : truthy found <;> simp [hh, hf]
  simp only [mergeEntry, OrderedMap.get_set]
  by_cases hm : mac = entry.macAddress
  · subst hm
    simp only [if_true, Option.bind_some]
    cases hold : map.get entry.macAddress with
    | none => cases ipv6 <;> exact htake none _
    | some existing => cases ipv6 <;> exact htake _ _
  · simp [hm, Ne.symm hm]

/-- Merging attributes to each MAC the first address of each family its entries give. -/
theorem mergeEntries_address (entries : List Device) (map : OrderedMap String Device) (mac : String)
    (ipv6 : Bool) :
    ((entries.foldl mergeEntry map).get mac).bind (·.address ipv6) =
      ((map.get mac).bind (·.address ipv6)).or (discoveredAddress entries mac ipv6) := by
  induction entries generalizing map with
  | nil => simp [discoveredAddress]
  | cons entry entries ih =>
    rw [List.foldl_cons, ih, mergeEntry_address, Option.or_assoc]
    congr 1
    simp only [discoveredAddress, List.findSome?_cons]
    cases (if entry.macAddress = mac then entry.address ipv6 else none) <;> rfl

theorem keyed_mergeEntries (entries : List Device) : Keyed (entries.foldl mergeEntry .empty) := by
  have hfold : ∀ map, Keyed map → Keyed (entries.foldl mergeEntry map) := by
    induction entries with
    | nil => exact fun map h => h
    | cons entry entries ih => exact fun map h => ih _ (keyed_mergeEntry h entry)
  exact hfold .empty (by simp [Keyed])

theorem mem_mergeByMac {entries : List Device} {device : Device} :
    device ∈ mergeByMac entries ↔
      (entries.foldl mergeEntry .empty).get device.macAddress = some device := by
  have hkeyed := keyed_mergeEntries entries
  simp only [mergeByMac, OrderedMap.values, List.mem_map]
  refine ⟨?_, ?_⟩
  · intro h
    obtain ⟨⟨mac, device⟩, hmem, rfl⟩ := h
    have hget := OrderedMap.mem_entries.mp hmem
    rw [hkeyed _ _ hget]
    exact hget
  · intro h
    exact ⟨_, OrderedMap.mem_entries.mpr h, rfl⟩

/-- Discovery attributes the address to the MAC. -/
def Attributes (discovered : List Device) (mac address : String) : Prop :=
  ∃ device ∈ discovered, device.macAddress = mac ∧ ∃ ipv6, device.address ipv6 = some address

/-- Discovery attributes the address to a device with another MAC. -/
def Foreign (discovered : List Device) (mac address : String) : Prop :=
  ∃ other, other ≠ mac ∧ Attributes discovered other address

theorem attributes_merged {entries : List Device} {mac address : String} :
    Attributes (mergeByMac entries) mac address ↔
      ∃ ipv6, discoveredAddress entries mac ipv6 = some address := by
  have hmerged := fun ipv6 => mergeEntries_address entries .empty mac ipv6
  simp only [OrderedMap.get_empty, Option.bind_none, Option.none_or] at hmerged
  refine ⟨?_, ?_⟩
  · intro h
    obtain ⟨device, hmem, rfl, ipv6, haddress⟩ := h
    refine ⟨ipv6, ?_⟩
    rw [← hmerged, mem_mergeByMac.mp hmem]
    exact haddress
  · intro h
    obtain ⟨ipv6, haddress⟩ := h
    rw [← hmerged] at haddress
    obtain ⟨device, hget, hown⟩ := Option.bind_eq_some_iff.mp haddress
    have hkeyed := keyed_mergeEntries entries _ _ hget
    exact ⟨device, mem_mergeByMac.mpr (hkeyed.symm ▸ hget), hkeyed, ipv6, hown⟩

theorem find_mergeByMac (entries : List Device) (mac : String) :
    (mergeByMac entries).find? (·.macAddress = mac) = (entries.foldl mergeEntry .empty).get mac := by
  cases hfind : (mergeByMac entries).find? (·.macAddress = mac) with
  | some device =>
    have hmac : device.macAddress = mac := by simpa using List.find?_some hfind
    have hget := mem_mergeByMac.mp (List.mem_of_find?_eq_some hfind)
    rw [hmac] at hget
    exact hget.symm
  | none =>
    cases hget : (entries.foldl mergeEntry .empty).get mac with
    | none => rfl
    | some device =>
      have hkeyed := keyed_mergeEntries entries _ _ hget
      have hmem := mem_mergeByMac.mpr (hkeyed.symm ▸ hget)
      have hno := List.find?_eq_none.mp hfind device hmem
      simp [hkeyed] at hno

/-- The address a policy carries for when discovery has none. -/
def storedAddress (policy : PolicyDevice) (ipv6 : Bool) : Option String :=
  if ipv6 then truthy policy.ipv6Address
  else (truthy policy.ipAddress).or (truthy policy.dnsSourceIp)

theorem truthy_or (x y : Option String) : truthy ((truthy x).or y) = (truthy x).or (truthy y) := by
  cases hx : truthy x with
  | none => simp
  | some value => rw [Option.some_or, Option.some_or, ← hx, truthy_truthy]

theorem resolvePolicyTarget_mac {policy : PolicyDevice} {discovered : List Device} {mac : String} :
    (resolvePolicyTarget policy discovered).macAddress = some mac ↔
      normalizeMac policy.macAddress = some mac := by
  cases hn : normalizeMac policy.macAddress <;> simp [resolvePolicyTarget, hn]

theorem resolvePolicyTarget_address {policy : PolicyDevice} {mac : String}
    (hmac : normalizeMac policy.macAddress = some mac) (entries : List Device) (ipv6 : Bool) :
    (resolvePolicyTarget policy (mergeByMac entries)).address ipv6 =
      (discoveredAddress entries mac ipv6).or (storedAddress policy ipv6) := by
  have hmerged := mergeEntries_address entries .empty mac ipv6
  simp only [OrderedMap.get_empty, Option.bind_none, Option.none_or] at hmerged
  rw [← hmerged, ← find_mergeByMac]
  cases hfind : (mergeByMac entries).find? (·.macAddress = mac) with
  | none =>
    cases ipv6 <;>
      simp [Target.address, resolvePolicyTarget, hmac, hfind, storedAddress, truthy_or]
  | some device =>
    cases ipv6 <;>
      simp [Target.address, resolvePolicyTarget, hmac, hfind, storedAddress, Device.address, truthy_or]

/-- The target blames a device other than its own: one of its addresses is, by the same discovery,
the address of another MAC. -/
def Blames (discovered : List Device) (target : Target) : Prop :=
  ∃ mac ipv6 address, target.macAddress = some mac ∧ target.address ipv6 = some address ∧
    Foreign discovered mac address

/-- The entries give the address to another MAC. -/
def SeenElsewhere (entries : List Device) (mac address : String) : Prop :=
  ∃ other, other ≠ mac ∧ ∃ ipv6, discoveredAddress entries other ipv6 = some address

theorem foreign_merged {entries : List Device} {mac address : String} :
    Foreign (mergeByMac entries) mac address ↔ SeenElsewhere entries mac address := by
  refine exists_congr fun other => and_congr_right fun _ => ?_
  exact attributes_merged

/-- The address of a family a target gets is another device's only where discovery gives the
address to both MACs, or gives none of that family to the MAC of the policy and the address stored
with the policy is the other device's. -/
theorem resolvePolicyTarget_blames_iff (policies : List PolicyDevice) (entries : List Device) :
    (∀ policy ∈ policies,
        ¬Blames (mergeByMac entries) (resolvePolicyTarget policy (mergeByMac entries))) ↔
      ∀ policy ∈ policies, ∀ mac, normalizeMac policy.macAddress = some mac → ∀ ipv6 address,
        (discoveredAddress entries mac ipv6 = some address →
          ¬SeenElsewhere entries mac address) ∧
        (discoveredAddress entries mac ipv6 = none → storedAddress policy ipv6 = some address →
          ¬SeenElsewhere entries mac address) := by
  simp only [← foreign_merged]
  refine forall₂_congr fun policy _ => ?_
  refine ⟨?_, ?_⟩
  · intro h mac hmac ipv6 address
    have haddress := resolvePolicyTarget_address hmac entries ipv6
    refine ⟨?_, ?_⟩
    · intro hown hforeign
      rw [hown, Option.some_or] at haddress
      exact h ⟨mac, ipv6, address, resolvePolicyTarget_mac.mpr hmac, haddress, hforeign⟩
    · intro hnone hstored hforeign
      rw [hnone, Option.none_or, hstored] at haddress
      exact h ⟨mac, ipv6, address, resolvePolicyTarget_mac.mpr hmac, haddress, hforeign⟩
  · intro h hblames
    obtain ⟨mac, ipv6, address, hmac, haddress, hforeign⟩ := hblames
    have hmac := resolvePolicyTarget_mac.mp hmac
    rw [resolvePolicyTarget_address hmac] at haddress
    obtain ⟨hown, hstored⟩ := h mac hmac ipv6 address
    cases hfound : discoveredAddress entries mac ipv6 with
    | some found =>
      rw [hfound, Option.some_or] at haddress
      exact hown (hfound.trans haddress) hforeign
    | none =>
      rw [hfound, Option.none_or] at haddress
      exact hstored hfound haddress hforeign

/-- A phone that left the network, blocked by its MAC and its last address. -/
def absentPhone : PolicyDevice :=
  ⟨"dev-1", .BLOCK, some "192.168.1.50", none, none, some "AA:BB:CC:DD:EE:FF", none, none, none⟩

/-- The laptop that got the address since. -/
def laptopEntry : Device := ⟨"11:22:33:44:55:66", some "192.168.1.50", none⟩

theorem resolvePolicyTarget_blames_laptop :
    ¬∀ (policies : List PolicyDevice) (entries : List Device), ∀ policy ∈ policies,
      ¬Blames (mergeByMac entries) (resolvePolicyTarget policy (mergeByMac entries)) := by
  intro h
  refine h [absentPhone] [laptopEntry] absentPhone (by simp)
    ⟨"aa:bb:cc:dd:ee:ff", false, "192.168.1.50", ?_, ?_, "11:22:33:44:55:66", ?_,
      laptopEntry, mem_mergeByMac.mpr rfl, rfl, false, rfl⟩
  · decide +kernel
  · decide +kernel
  · decide

end GuardTime
