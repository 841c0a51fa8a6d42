import GuardTime.QosTargets
import GuardTime.TextLines

namespace GuardTime

/-- The classes of the interfaces: by class id, the rate and the ceiling. -/
abbrev TcClasses := String → String → Option (String × Option String)

/-- What a command makes of the classes. Of those of a root qdisc that is replaced, `replaced` tells
what is left. -/
def TcCommand.shape (replaced : (String → Option (String × Option String)) →
    String → Option (String × Option String)) : TcCommand → TcClasses → TcClasses
  | .qdiscReplace iface _ _, k => Function.update k iface (replaced (k iface))
  | .qdiscDel iface, k => Function.update k iface fun _ => none
  | .classReplace iface _ classid rate ceil, k =>
    Function.update k iface (Function.update (k iface) classid (some (rate, ceil)))
  | .filterDel _ _ _, k => k
  | .filterAdd _ _ _ _ _ _ _, k => k

namespace Qos

/-- `tc`, where every command succeeds. -/
def shaping (replaced : (String → Option (String × Option String)) →
    String → Option (String × Option String)) : Respond TcCommand TcClasses :=
  fun _ c k => (true, c.shape replaced k)

inductive Direction where
  | dl
  | ul
deriving DecidableEq

def Direction.text : Direction → String
  | .dl => "dl"
  | .ul => "ul"

/-- What a bandwidth limit is about: a device, a category or all it does, and a direction. -/
structure LimitKey where
  deviceId : String
  category : Option String
  direction : Direction
deriving DecidableEq

/-- The text a class id is hashed from. -/
def LimitKey.text (key : LimitKey) : String :=
  match truthy key.category with
  | some category => key.deviceId ++ ":" ++ category ++ ":" ++ key.direction.text
  | none => key.deviceId ++ ":" ++ key.direction.text

def LimitKey.classId (key : LimitKey) : String :=
  bandwidthClassId key.deviceId key.category key.direction.text

def interfacesOf (config : Config) : Direction → List String
  | .dl => downloadInterfaces config
  | .ul => uploadInterfaces config

/-- What one entry of a target's limits is about in each direction, with the rates. -/
def entryLimits (target : Target) (limit : BandwidthLimit) : List (LimitKey × Nat) :=
  ((limit.downloadKbps.filter (· ≠ 0)).toList.map fun rate =>
    (⟨target.deviceId, truthy limit.category, .dl⟩, rate)) ++
  ((limit.uploadKbps.filter (· ≠ 0)).toList.map fun rate =>
    (⟨target.deviceId, truthy limit.category, .ul⟩, rate))

def limitsOf (target : Target) : List (LimitKey × Nat) :=
  (truthy target.ipAddress).toList.flatMap fun _ =>
    target.bandwidthLimits.flatMap (entryLimits target)

/-- What a limit has to do with the classes. -/
def DirectionalLimit.classOf (limit : DirectionalLimit) : List String × String × Nat :=
  (limit.interfaces, limit.classId, limit.rateKbps)

def classFor (config : Config) (limit : LimitKey × Nat) : List String × String × Nat :=
  (interfacesOf config limit.1.direction, limit.1.classId, limit.2)

theorem bandwidthClassId_truthy (deviceId : String) (category : Option String)
    (direction : String) :
    bandwidthClassId deviceId (truthy category) direction =
      bandwidthClassId deviceId category direction := by
  have htwice : truthy (truthy category) = truthy category := by
    simp [truthy, Option.filter_filter]
  simp only [bandwidthClassId, htwice]

theorem directionalLimits_classes (config : Config) (resolve4 : String → List String)
    (target : Target) (ip : String) (limit : BandwidthLimit) :
    (directionalLimits config resolve4 target ip limit).map DirectionalLimit.classOf =
      (entryLimits target limit).map (classFor config) := by
  simp only [directionalLimits, entryLimits, List.map_append, List.map_map, Function.comp_def,
    DirectionalLimit.classOf, classFor, LimitKey.classId, bandwidthClassId_truthy, interfacesOf,
    Direction.text]

/-- The calls of `applyDirectionalLimit` are made for the limits of the target, in order. -/
theorem targetLimits_classes (config : Config) (resolve4 : String → List String) (target : Target) :
    (targetLimits config resolve4 target).map DirectionalLimit.classOf =
      (limitsOf target).map (classFor config) := by
  simp only [targetLimits, limitsOf, List.map_flatMap, directionalLimits_classes]

def kbit (rateKbps : Nat) : String := toString rateKbps ++ "kbit"

section Shaping

variable {replaced : (String → Option (String × Option String)) →
  String → Option (String × Option String)}

theorem shaping_effects : Effects (shaping replaced) (fun k => k) (TcCommand.shape replaced) :=
  ⟨fun _ _ _ _ => rfl, fun _ _ _ h => by simp [shaping] at h⟩

theorem shaping_granted (n : Nat) (c : TcCommand) (k : TcClasses) :
    (shaping replaced n c k).1 = true := rfl

theorem filters_shape (iface classId : String) (matchesOf : List (TcMatch × Option TcMatch))
    (k : TcClasses) :
    (mandatory (matchesOf.map fun m => addFilter iface "ip" 20 m.1 m.2 classId)).foldl
      (fun k c => c.shape replaced k) k = k := by
  induction matchesOf with
  | nil => rfl
  | cons m matchesOf ih => simpa [addFilter, TcCommand.shape] using ih

theorem limitInterface_kernel (limit : DirectionalLimit) (w : World TcCommand TcClasses)
    (iface : String) :
    (limitInterface (shaping replaced) limit w iface).kernel =
      Function.update w.kernel iface (Function.update (w.kernel iface) limit.classId
        (some (kbit limit.rateKbps, some (kbit limit.rateKbps)))) := by
  have hdone : (runScript (shaping replaced) (limitSteps limit iface) w).1 = true :=
    runScript_granted shaping_granted _ _
  have hview := runScript_view shaping_effects (limitSteps_neutral _ limit iface) hdone
  simp only [limitInterface, if_pos hdone]
  rw [hview, limitSteps, mandatory_run_cons, List.foldl_cons, filters_shape]
  rfl

theorem applyDirectionalLimit_class (limit : DirectionalLimit) (w : World TcCommand TcClasses)
    (iface classId : String) :
    (applyDirectionalLimit (shaping replaced) w limit).kernel iface classId =
      if iface ∈ limit.interfaces ∧ limit.classId = classId then
        some (kbit limit.rateKbps, some (kbit limit.rateKbps))
      else w.kernel iface classId := by
  unfold applyDirectionalLimit
  generalize limit.interfaces = interfaces
  induction interfaces generalizing w with
  | nil => simp
  | cons other interfaces ih =>
    rw [List.foldl_cons, ih, limitInterface_kernel]
    by_cases hother : iface = other
    · subst hother
      by_cases hclass : classId = limit.classId
      · subst hclass
        simp
      · simp [Function.update_of_ne hclass, Ne.symm hclass]
    · simp [hother]

/-- Of the limits with a class on an interface, the last sets its rate. -/
theorem limits_class {limits : List DirectionalLimit} {limit : DirectionalLimit} {iface : String}
    (hmem : limit ∈ limits) (hiface : iface ∈ limit.interfaces) (w : World TcCommand TcClasses) :
    ∃ last ∈ limits, iface ∈ last.interfaces ∧ last.classId = limit.classId ∧
      (limits.foldl (applyDirectionalLimit (shaping replaced)) w).kernel iface limit.classId =
        some (kbit last.rateKbps, some (kbit last.rateKbps)) := by
  induction limits using List.reverseRecOn with
  | nil => cases hmem
  | append_singleton limits other ih =>
    rw [List.foldl_append, List.foldl_cons, List.foldl_nil, applyDirectionalLimit_class]
    by_cases hother : iface ∈ other.interfaces ∧ other.classId = limit.classId
    · rw [if_pos hother]
      exact ⟨other, List.mem_append_right _ (List.mem_singleton_self other), hother.1, hother.2, rfl⟩
    · rw [if_neg hother]
      have hbefore : limit ∈ limits := by
        rcases List.mem_append.mp hmem with hbefore | hlast
        · exact hbefore
        · cases List.mem_singleton.mp hlast
          exact absurd ⟨hiface, rfl⟩ hother
      obtain ⟨last, hlast, hrest⟩ := ih hbefore
      exact ⟨last, List.mem_append_left _ hlast, hrest⟩

end Shaping

theorem kbit_inj {a b : Nat} (h : kbit a = kbit b) : a = b := by
  have htext := congrArg String.toList h
  simp only [kbit, String.toList_append] at htext
  have hdigits := List.append_cancel_right htext
  have hrepr : ∀ n : Nat, (toString n).toList = Nat.toDigits 10 n := fun _ => Nat.toList_repr
  rw [hrepr, hrepr] at hdigits
  exact toDigits_inj (by omega) (by omega) hdigits

/-- What is left of the hash in a class id. -/
def residue (text : String) : Nat := (fnv1a text).natAbs % 32512

theorem stableId_residue (text : String) : stableId text 0x100 0x7fff = 0x100 + residue text := rfl

theorem classId_eq_iff (a b : LimitKey) :
    a.classId = b.classId ↔ residue a.text = residue b.text := by
  have hid : ∀ key : LimitKey, key.classId =
      "1:" ++ String.ofList (Nat.toDigits 16 (0x100 + residue key.text)) := by
    intro key
    rw [← stableId_residue]
    rfl
  rw [hid, hid]
  refine ⟨?_, fun h => by rw [h]⟩
  intro h
  have htext := congrArg String.toList h
  simp only [String.toList_append, String.toList_ofList] at htext
  have hsum := toDigits_inj (by omega) (by omega) (List.append_cancel_left htext)
  omega

def allLimits (targets : List Target) : List (LimitKey × Nat) := targets.flatMap limitsOf

/-- Limits that differ have different classes on the interfaces they share. -/
def ClassesApart (config : Config) (targets : List Target) : Prop :=
  ∀ a ∈ allLimits targets, ∀ b ∈ allLimits targets, a.1 ≠ b.1 →
    ∀ iface ∈ interfacesOf config a.1.direction, iface ∈ interfacesOf config b.1.direction →
      a.1.classId ≠ b.1.classId

/-- The class of every limit has its rate. -/
def RatesSet (config : Config) (targets : List Target) (classes : TcClasses) : Prop :=
  ∀ a ∈ allLimits targets, ∀ iface ∈ interfacesOf config a.1.direction,
    classes iface a.1.classId = some (kbit a.2, some (kbit a.2))

/-- The hashes of limits that differ do not meet modulo the number of class ids. -/
def HashesApart (config : Config) (targets : List Target) : Prop :=
  ∀ a ∈ allLimits targets, ∀ b ∈ allLimits targets, a.1 ≠ b.1 →
    ∀ iface ∈ interfacesOf config a.1.direction, iface ∈ interfacesOf config b.1.direction →
      residue a.1.text ≠ residue b.1.text

/-- No limit is given twice with different rates. -/
def OneRate (targets : List Target) : Prop :=
  ∀ a ∈ allLimits targets, ∀ b ∈ allLimits targets, a.1 = b.1 → a.2 = b.2

/-- The configuration has bandwidth limits enforced. -/
def Enforces (config : Config) : Prop :=
  config.enableQos = true ∧ config.qosInterfaces ≠ [] ∧ config.dryRun = false ∧
    config.enableBandwidthControl = true

theorem classesApart_iff (config : Config) (targets : List Target) :
    ClassesApart config targets ↔ HashesApart config targets := by
  simp only [ClassesApart, HashesApart, ne_eq, classId_eq_iff]

theorem interfacesOf_ne_nil {config : Config} (h : config.qosInterfaces ≠ [])
    (direction : Direction) : interfacesOf config direction ≠ [] := by
  cases direction with
  | dl =>
    simp only [interfacesOf, downloadInterfaces]
    split
    next => exact List.cons_ne_nil _ _
    next => exact h
  | ul =>
    simp only [interfacesOf, uploadInterfaces]
    split
    next => exact List.cons_ne_nil _ _
    next => exact h

theorem limits_classes (config : Config) (resolve4 : String → List String) (targets : List Target) :
    (targets.flatMap (targetLimits config resolve4)).map DirectionalLimit.classOf =
      (allLimits targets).map (classFor config) := by
  simp only [allLimits, List.map_flatMap, targetLimits_classes]

/-- The class of a limit has the rate of the last limit that shares it. -/
theorem sync_class {config : Config} (hon : Enforces config)
    (replaced : (String → Option (String × Option String)) →
      String → Option (String × Option String))
    (resolve4 : String → List String) (targets : List Target) (w : World TcCommand TcClasses)
    {a : LimitKey × Nat} (ha : a ∈ allLimits targets) {iface : String}
    (hiface : iface ∈ interfacesOf config a.1.direction) :
    ∃ b ∈ allLimits targets, iface ∈ interfacesOf config b.1.direction ∧
      b.1.classId = a.1.classId ∧
      (sync config (shaping replaced) resolve4 targets w).2.kernel iface a.1.classId =
        some (kbit b.2, some (kbit b.2)) := by
  obtain ⟨hq, hi, hd, hb⟩ := hon
  have hdone : (runScript (shaping replaced) (throttlePass config targets) w).1 = true :=
    runScript_granted shaping_granted _ _
  have hgate : (!config.enableQos || config.qosInterfaces.isEmpty || config.dryRun) = false := by
    simp [hq, hi, hd]
  have hclasses := limits_classes config resolve4 targets
  obtain ⟨limit, hlimit, hof⟩ := List.mem_map.mp
    (hclasses ▸ List.mem_map_of_mem (f := classFor config) ha)
  obtain ⟨hinterfaces, hclass⟩ := Prod.mk.inj hof
  obtain ⟨hclass, hrate⟩ := Prod.mk.inj hclass
  obtain ⟨last, hlast, hliface, hlclass, hkernel⟩ := limits_class hlimit
    (hinterfaces ▸ hiface) (runScript (shaping replaced) (throttlePass config targets) w).2
  obtain ⟨b, hbmem, hbof⟩ := List.mem_map.mp
    (hclasses ▸ List.mem_map_of_mem (f := DirectionalLimit.classOf) hlast)
  obtain ⟨hbinterfaces, hbclass⟩ := Prod.mk.inj hbof
  obtain ⟨hbclass, hbrate⟩ := Prod.mk.inj hbclass
  refine ⟨b, hbmem, hbinterfaces ▸ hliface, by rw [hbclass, hlclass, hclass], ?_⟩
  simp only [sync, hgate, hdone, hb, Bool.and_self, if_true, Bool.false_eq_true, if_false,
    syncBandwidthLimits]
  rw [← hclass, hkernel, hbrate]

/-- At the end of a sync in which all commands succeed, limits that differ have different classes and
each class has the rate of its limit, just when the hashes of such limits do not meet and no limit
comes with two rates. -/
theorem bandwidth_classes_iff {config : Config} (hon : Enforces config)
    (replaced : (String → Option (String × Option String)) →
      String → Option (String × Option String))
    (resolve4 : String → List String) (targets : List Target) (w : World TcCommand TcClasses) :
    (ClassesApart config targets ∧
      RatesSet config targets (sync config (shaping replaced) resolve4 targets w).2.kernel) ↔
      HashesApart config targets ∧ OneRate targets := by
  rw [← classesApart_iff]
  refine and_congr_right fun hapart => ⟨?_, ?_⟩
  · intro hrates a ha b hb hkey
    obtain ⟨iface, hiface⟩ := List.exists_mem_of_ne_nil _ (interfacesOf_ne_nil hon.2.1 a.1.direction)
    have hone := hrates a ha iface hiface
    have htwo := hrates b hb iface (hkey ▸ hiface)
    rw [hkey, htwo] at hone
    obtain ⟨hrate, _⟩ := Prod.mk.inj (Option.some.inj hone)
    exact (kbit_inj hrate).symm
  · intro hone a ha iface hiface
    obtain ⟨b, hb, hbiface, hclass, hkernel⟩ := sync_class hon replaced resolve4 targets w ha hiface
    have hkey : a.1 = b.1 := by
      by_contra hne
      exact hapart a ha b hb hne iface hiface hbiface hclass.symm
    rw [hkernel, hone a ha b hb hkey]

def limitedDevice (deviceId ipAddress : String) (downloadKbps : Nat) : Target :=
  ⟨deviceId, .ALLOW, some ipAddress, none, none, false, false, [⟨none, some downloadKbps, none⟩]⟩

theorem sample_enforces : Enforces sampleConfig := ⟨rfl, by decide, rfl, rfl⟩

/-- Two devices with classes and rates of their own. -/
def limitedDevices : List Target :=
  [limitedDevice "dev-155" "192.168.1.50" 5000, limitedDevice "dev-156" "192.168.1.51" 100]

theorem allLimits_devices : allLimits limitedDevices =
    [(⟨"dev-155", none, .dl⟩, 5000), (⟨"dev-156", none, .dl⟩, 100)] := by decide

theorem bandwidth_classes_two :
    ClassesApart sampleConfig limitedDevices ∧
      RatesSet sampleConfig limitedDevices
        (sync sampleConfig (shaping id) (fun _ => []) limitedDevices ⟨fun _ _ => none, []⟩).2.kernel := by
  have hne : residue (LimitKey.text ⟨"dev-155", none, .dl⟩) ≠
      residue (LimitKey.text ⟨"dev-156", none, .dl⟩) := by decide +kernel
  refine (bandwidth_classes_iff sample_enforces id (fun _ => []) _ _).mpr ⟨?_, ?_⟩
  · intro a ha b hb hkey iface _ _
    rw [allLimits_devices] at ha hb
    simp only [List.mem_cons, List.not_mem_nil, or_false] at ha hb
    rcases ha with rfl | rfl
    · rcases hb with rfl | rfl
      · exact absurd rfl hkey
      · exact hne
    · rcases hb with rfl | rfl
      · exact hne.symm
      · exact absurd rfl hkey
  · intro a ha b hb hkey
    rw [allLimits_devices] at ha hb
    simp only [List.mem_cons, List.not_mem_nil, or_false] at ha hb
    rcases ha with rfl | rfl
    · rcases hb with rfl | rfl
      · rfl
      · exact absurd hkey (by decide)
    · rcases hb with rfl | rfl
      · exact absurd hkey (by decide)
      · rfl

/-- Two devices of which the keys `dev-155:dl` and `dev-238:dl` have one class id. -/
def collidingDevices : List Target :=
  [limitedDevice "dev-155" "192.168.1.50" 5000, limitedDevice "dev-238" "192.168.1.51" 100]

/-- The first device is shaped at the rate of the second. -/
theorem collidingDevices_share_class :
    ¬∀ config, Enforces config → ∀ replaced resolve4 targets w, ClassesApart config targets ∧
      RatesSet config targets (sync config (shaping replaced) resolve4 targets w).2.kernel := by
  intro h
  have hrates := (h sampleConfig sample_enforces id (fun _ => []) collidingDevices
    ⟨fun _ _ => none, []⟩).2
  have hall : allLimits collidingDevices =
      [(⟨"dev-155", none, .dl⟩, 5000), (⟨"dev-238", none, .dl⟩, 100)] := by decide
  have hsame : LimitKey.classId ⟨"dev-155", none, .dl⟩ = LimitKey.classId ⟨"dev-238", none, .dl⟩ := by
    decide +kernel
  have hone := hrates (⟨"dev-155", none, .dl⟩, 5000) (by rw [hall]; exact List.mem_cons_self)
    "br-lan" (by decide)
  have htwo := hrates (⟨"dev-238", none, .dl⟩, 100)
    (by rw [hall]; exact List.mem_cons_of_mem _ List.mem_cons_self) "br-lan" (by decide)
  rw [hsame, htwo] at hone
  obtain ⟨hrate, _⟩ := Prod.mk.inj (Option.some.inj hone)
  exact absurd (kbit_inj hrate) (by decide)

end Qos

end GuardTime
