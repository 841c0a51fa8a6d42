import GuardTime.DrayTekPlugin
import GuardTime.EdgeRouterPlugin

namespace GuardTime

namespace SlotRouter

variable {C R : Type} (router : SlotRouter C R)

/-- No call for one of the devices touches a rule of the other. -/
def Apart (a b : RuleDevice) : Prop :=
  ∀ j k, router.Spares ⟨a, j⟩ ⟨b, k⟩ ∧ router.Spares ⟨b, k⟩ ⟨a, j⟩

/-- No call for one of the device's rules touches the other. -/
def OwnApart (device : RuleDevice) : Prop :=
  router.Spares ⟨device, .ip⟩ ⟨device, .mac⟩ ∧ router.Spares ⟨device, .mac⟩ ⟨device, .ip⟩

variable {router}

theorem apart_iff {a b : RuleDevice} :
    router.Apart a b ↔ ∀ j k, router.ruleIndexFor (a.key j) ≠ router.ruleIndexFor (b.key k) := by
  refine forall₂_congr fun j k => ?_
  rw [spares_iff, spares_iff]
  exact ⟨fun h => h.1, fun h => ⟨h, h.symm⟩⟩

theorem ownApart_iff {device : RuleDevice} :
    router.OwnApart device ↔ truthy device.deviceId = none ∧
      router.ruleIndexFor device.ipAddress ≠ router.ruleIndexFor device.macAddress := by
  have hspares : router.OwnApart device ↔
      router.ruleIndexFor (device.key .ip) ≠ router.ruleIndexFor (device.key .mac) := by
    rw [OwnApart, spares_iff, spares_iff]
    exact ⟨fun h => h.1, fun h => ⟨h, h.symm⟩⟩
  rw [hspares]
  cases hid : truthy device.deviceId with
  | some id => simp [RuleDevice.key, hid]
  | none => simp [RuleDevice.key, hid, RuleDevice.address]

end SlotRouter

/-- The number that both plugins derive from a rule's key, among `slots` slots. -/
def keySlot (slots : Nat) (key : String) : Nat := (fnv1a key).natAbs % slots

theorem edgeRouter_slot {a b : String} :
    EdgeRouter.router.ruleIndexFor a ≠ EdgeRouter.router.ruleIndexFor b ↔
      keySlot 900 a ≠ keySlot 900 b := by
  have hindex : ∀ key, EdgeRouter.router.ruleIndexFor key = 5000 + keySlot 900 key := fun _ => rfl
  rw [hindex, hindex]
  omega

theorem drayTek_slot {a b : String} :
    DrayTek.router.ruleIndexFor a ≠ DrayTek.router.ruleIndexFor b ↔
      keySlot 63 a ≠ keySlot 63 b := by
  have hindex : ∀ key, DrayTek.router.ruleIndexFor key = 1 + keySlot 63 key := fun _ => rfl
  rw [hindex, hindex]
  omega

/-- On both routers two devices are independent exactly when no two keys of theirs share a slot, and a
device's two rules are exactly when it has no id and its addresses share none. -/
theorem rules_independent_iff (a b : RuleDevice) :
    (EdgeRouter.router.Apart a b ↔ ∀ j k, keySlot 900 (a.key j) ≠ keySlot 900 (b.key k)) ∧
      (DrayTek.router.Apart a b ↔ ∀ j k, keySlot 63 (a.key j) ≠ keySlot 63 (b.key k)) ∧
      (EdgeRouter.router.OwnApart a ↔ truthy a.deviceId = none ∧
        keySlot 900 a.ipAddress ≠ keySlot 900 a.macAddress) ∧
      (DrayTek.router.OwnApart a ↔ truthy a.deviceId = none ∧
        keySlot 63 a.ipAddress ≠ keySlot 63 a.macAddress) := by
  simp only [SlotRouter.apart_iff, SlotRouter.ownApart_iff, edgeRouter_slot, drayTek_slot, and_self]

/-- Two devices whose ids share a slot on both routers. -/
def fourthDevice : RuleDevice := ⟨some "dev-4", "192.168.1.50", "AA:BB:CC:DD:EE:04", by decide, by decide⟩

def laterDevice : RuleDevice := ⟨some "dev-743", "192.168.1.51", "AA:BB:CC:DD:EE:43", by decide, by decide⟩

theorem fourthDevice_dependent :
    fourthDevice.deviceId ≠ laterDevice.deviceId ∧
      fourthDevice.ipAddress ≠ laterDevice.ipAddress ∧
      fourthDevice.macAddress ≠ laterDevice.macAddress ∧
      ¬EdgeRouter.router.Apart fourthDevice laterDevice ∧
      ¬DrayTek.router.Apart fourthDevice laterDevice ∧
      ¬EdgeRouter.router.OwnApart fourthDevice ∧ ¬DrayTek.router.OwnApart fourthDevice := by
  have hedge : EdgeRouter.router.ruleIndexFor (fourthDevice.key .ip) =
      EdgeRouter.router.ruleIndexFor (laterDevice.key .ip) := by decide +kernel
  have hdray : DrayTek.router.ruleIndexFor (fourthDevice.key .ip) =
      DrayTek.router.ruleIndexFor (laterDevice.key .ip) := by decide +kernel
  have hid : truthy fourthDevice.deviceId ≠ none := by decide
  refine ⟨by decide, by decide, by decide, ?_, ?_, ?_, ?_⟩
  · rw [SlotRouter.apart_iff]
    exact fun h => h .ip .ip hedge
  · rw [SlotRouter.apart_iff]
    exact fun h => h .ip .ip hdray
  · rw [SlotRouter.ownApart_iff]
    exact fun h => hid h.1
  · rw [SlotRouter.ownApart_iff]
    exact fun h => hid h.1

end GuardTime
