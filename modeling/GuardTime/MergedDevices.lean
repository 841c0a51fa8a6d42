import GuardTime.DeviceDiscovery
import GuardTime.NeighbourLines

namespace GuardTime

variable {entries : List Device} {map : OrderedMap String Device} {mac : String}

/-- What the entries tell of a MAC: the first address of each family. -/
def recordOf (entries : List Device) (mac : String) : Device :=
  ⟨mac, discoveredAddress entries mac false, discoveredAddress entries mac true⟩

/-- No record holds an empty address. -/
def Filled (map : OrderedMap String Device) : Prop :=
  ∀ mac device, map.get mac = some device →
    truthy device.ipAddress = device.ipAddress ∧ truthy device.ipv6Address = device.ipv6Address

theorem truthy_kept {held found : Option String} (h : truthy held = held) :
    truthy (if (truthy found).isSome && (truthy held).isNone then found else held) =
      if (truthy found).isSome && (truthy held).isNone then found else held := by
  split
  next htaken =>
    obtain ⟨hfound, -⟩ := Bool.and_eq_true_iff.mp htaken
    obtain ⟨address, haddress⟩ := Option.isSome_iff_exists.mp hfound
    rw [haddress, ← (Option.filter_eq_some_iff.mp haddress).1]
  next => exact h

theorem filled_mergeEntry (h : Filled map) (entry : Device) : Filled (mergeEntry map entry) := by
  intro mac device hget
  simp only [mergeEntry, OrderedMap.get_set] at hget
  split at hget
  next =>
    cases Option.some.inj hget
    cases hold : map.get entry.macAddress with
    | none => exact ⟨truthy_kept rfl, truthy_kept rfl⟩
    | some existing =>
      obtain ⟨h4, h6⟩ := h _ _ hold
      exact ⟨truthy_kept h4, truthy_kept h6⟩
  next => exact h mac device hget

theorem filled_mergeEntries (entries : List Device) : Filled (entries.foldl mergeEntry .empty) := by
  induction entries using List.reverseRecOn with
  | nil => simp [Filled]
  | append_singleton entries entry ih =>
    rw [List.foldl_append, List.foldl_cons, List.foldl_nil]
    exact filled_mergeEntry ih entry

/-- The keys of the map are the MACs, each where it came up first. -/
theorem keys_mergeEntries (entries : List Device) :
    (entries.foldl mergeEntry .empty).keys = (entries.map Device.macAddress).eraseDups :=
  OrderedMap.keys_foldl (fun _ _ => ⟨_, rfl⟩) entries

theorem get_mergeEntries (h : mac ∈ entries.map Device.macAddress) :
    (entries.foldl mergeEntry .empty).get mac = some (recordOf entries mac) := by
  have hkey : mac ∈ (entries.foldl mergeEntry .empty).keys := by
    rw [keys_mergeEntries, List.mem_eraseDups]
    exact h
  obtain ⟨device, hget⟩ := Option.isSome_iff_exists.mp (OrderedMap.mem_keys.mp hkey)
  have hkeyed : device.macAddress = mac := keyed_mergeEntries entries mac device hget
  obtain ⟨h4, h6⟩ := filled_mergeEntries entries mac device hget
  have hmerged : ∀ ipv6, device.address ipv6 = discoveredAddress entries mac ipv6 := by
    intro ipv6
    have haddress := mergeEntries_address entries .empty mac ipv6
    rwa [hget, OrderedMap.get_empty, Option.bind_some, Option.bind_none, Option.none_or] at haddress
  have hfields : device = ⟨device.macAddress, device.address false, device.address true⟩ := by
    simp only [Device.address, if_true, Bool.false_eq_true, if_false, h4, h6]
  rw [hget, hfields, hkeyed, hmerged, hmerged, recordOf]

theorem mergeByMac_eq (entries : List Device) :
    mergeByMac entries = (entries.map Device.macAddress).eraseDups.map (recordOf entries) := by
  have hget : ∀ mac ∈ (entries.map Device.macAddress).eraseDups,
      (entries.foldl mergeEntry .empty).get mac = some (recordOf entries mac) :=
    fun mac hmac => get_mergeEntries (List.mem_eraseDups.mp hmac)
  rw [mergeByMac, OrderedMap.values_eq, keys_mergeEntries, List.filterMap_congr hget]
  exact congrFun List.filterMap_eq_map _

theorem map_mergeByMac (entries : List Device) :
    (mergeByMac entries).map Device.macAddress = (entries.map Device.macAddress).eraseDups := by
  rw [mergeByMac_eq, List.map_map]
  exact List.map_id _

/-- An address is absent exactly when the entries of the MAC have none. -/
theorem discoveredAddress_none {ipv6 : Bool} : discoveredAddress entries mac ipv6 = none ↔
    ∀ entry ∈ entries, entry.macAddress = mac → entry.address ipv6 = none := by
  rw [discoveredAddress, List.findSome?_eq_none_iff]
  refine forall₂_congr fun entry _ => ?_
  split
  next hmac => simp only [hmac, forall_const]
  next hmac => simp only [hmac, false_imp_iff]

/-- Merging gives one record for each MAC, in the order they come up in, with the first address of
each family that is listed for it. -/
theorem mergeByMac_records (entries : List Device) :
    mergeByMac entries = (entries.map Device.macAddress).eraseDups.map (recordOf entries) ∧
      ((mergeByMac entries).map Device.macAddress).Nodup ∧
      (∀ mac, mac ∈ (mergeByMac entries).map Device.macAddress ↔
        ∃ entry ∈ entries, entry.macAddress = mac) ∧
      ∀ mac ipv6, discoveredAddress entries mac ipv6 = none ↔
        ∀ entry ∈ entries, entry.macAddress = mac → entry.address ipv6 = none := by
  refine ⟨mergeByMac_eq entries, ?_, fun mac => ?_, fun mac ipv6 => discoveredAddress_none⟩
  · rw [map_mergeByMac]
    exact nodup_eraseDups _
  · rw [map_mergeByMac, List.mem_eraseDups, List.mem_map]

example :
    mergeByMac [⟨"aa", none, some "2001:db8::5"⟩, ⟨"bb", some "10.0.0.6", none⟩,
        ⟨"aa", some "10.0.0.5", none⟩, ⟨"aa", some "10.0.0.7", none⟩] =
      [⟨"aa", some "10.0.0.5", some "2001:db8::5"⟩, ⟨"bb", some "10.0.0.6", none⟩] :=
  rfl

/-- `discoverDevices` over what the two programs print; one that fails prints nothing. -/
def discoverDevices (neigh arp : Option Text) : List Device :=
  match neigh.map Neighbours.readIpNeigh with
  | some (device :: devices) => mergeByMac (device :: devices)
  | _ => ((arp.map Neighbours.readArp).map mergeByMac).getD []

theorem discoverDevices_nodup (neigh arp : Option Text) :
    ((discoverDevices neigh arp).map Device.macAddress).Nodup := by
  have hmerged : ∀ entries, ((mergeByMac entries).map Device.macAddress).Nodup := by
    intro entries
    rw [map_mergeByMac]
    exact nodup_eraseDups _
  unfold discoverDevices
  split
  next => exact hmerged _
  next =>
    cases arp with
    | none => exact List.nodup_nil
    | some stdout => exact hmerged _

end GuardTime
