import GuardTime.FirewallPatterns
import GuardTime.TextLines
import Mathlib.Data.List.Sort

namespace GuardTime

structure NormalizedTarget where
  deviceId : String
  action : Action
  ipAddress : Option String
  ipv6Address : Option String
  macAddress : Option String
  vpnBlock : Bool
  quicBlock : Bool
deriving DecidableEq

/-- The record `buildFirewallSyncSignature` serialises. `JSON.stringify` loses nothing of it, so
two signatures are compared here as records. -/
structure SyncSignature where
  targets : List NormalizedTarget
  dnsRedirectIp : Option String
  dnsRedirectIpv6 : Option String
  enableDnsRedirect : Bool
  enableQuicBlockGlobal : Bool
  enableDohBlock : Bool
  enableIpv6 : Bool
deriving DecidableEq

def normalizeTarget (target : Target) : NormalizedTarget where
  deviceId := target.deviceId
  action := target.action
  ipAddress := truthy target.ipAddress
  ipv6Address := truthy target.ipv6Address
  macAddress := truthy target.macAddress
  vpnBlock := target.vpnBlock
  quicBlock := target.quicBlock

/-- The comparator of the sort, which compares code units, does not put `a` after `b`. -/
def notAfter (a b : NormalizedTarget) : Prop := ¬charCodes b.deviceId < charCodes a.deviceId

instance : DecidableRel notAfter := fun a b => by unfold notAfter; infer_instance

def buildFirewallSyncSignature (args : SyncArgs) (enableIpv6 : Bool) : SyncSignature where
  targets := (args.targets.map normalizeTarget).insertionSort notAfter
  dnsRedirectIp := truthy (some args.dnsRedirectIp)
  dnsRedirectIpv6 := truthy (some args.dnsRedirectIpv6)
  enableDnsRedirect := args.enableDnsRedirect
  enableQuicBlockGlobal := args.enableQuicBlockGlobal
  enableDohBlock := args.enableDohBlock
  enableIpv6 := enableIpv6

theorem signature_targets_perm {a b : SyncArgs} {enableIpv6 : Bool}
    (h : buildFirewallSyncSignature a enableIpv6 = buildFirewallSyncSignature b enableIpv6) :
    (a.targets.map normalizeTarget).Perm (b.targets.map normalizeTarget) := by
  have hs := congrArg SyncSignature.targets h
  simp only [buildFirewallSyncSignature] at hs
  have ha := List.perm_insertionSort notAfter (a.targets.map normalizeTarget)
  have hb := List.perm_insertionSort notAfter (b.targets.map normalizeTarget)
  exact ha.symm.trans (hs ▸ hb)

/-- The sort is stable and looks at the device ids alone, so equal signatures agree position by
position where the device ids do. -/
theorem signature_targets_pointwise {α : Type} {a b : SyncArgs} {enableIpv6 : Bool} {xs : List α}
    {f g : α → Target} (ha : a.targets = xs.map f) (hb : b.targets = xs.map g)
    (hid : ∀ x ∈ xs, (f x).deviceId = (g x).deviceId)
    (h : buildFirewallSyncSignature a enableIpv6 = buildFirewallSyncSignature b enableIpv6) :
    ∀ x ∈ xs, normalizeTarget (f x) = normalizeTarget (g x) := by
  have hs := congrArg SyncSignature.targets h
  simp only [buildFirewallSyncSignature, ha, hb, List.map_map] at hs
  have hf := List.map_insertionSort (fun x y => notAfter (normalizeTarget (f x)) (normalizeTarget (f y)))
    notAfter (normalizeTarget ∘ f) xs (fun _ _ _ _ => Iff.rfl)
  have hg := List.map_insertionSort (fun x y => notAfter (normalizeTarget (f x)) (normalizeTarget (f y)))
    notAfter (normalizeTarget ∘ g) xs (by
      intro x hx y hy
      simp only [notAfter, normalizeTarget, Function.comp, hid x hx, hid y hy])
  rw [← hf, ← hg, List.map_inj_left] at hs
  intro x hx
  exact hs x ((List.mem_insertionSort _).mpr hx)

/-- A target with the same normal form. -/
def NormalizedTarget.toTarget (target : NormalizedTarget) : Target where
  deviceId := target.deviceId
  action := target.action
  ipAddress := target.ipAddress
  ipv6Address := target.ipv6Address
  macAddress := target.macAddress
  vpnBlock := target.vpnBlock
  quicBlock := target.quicBlock
  bandwidthLimits := []

/-- Whatever is generated target by target from the normal form alone is the same up to order. -/
theorem signature_flatMap_perm {a b : SyncArgs} {enableIpv6 : Bool} {ρ : Type}
    {rules : Target → List ρ} (hr : ∀ t, rules t = rules (normalizeTarget t).toTarget)
    (h : buildFirewallSyncSignature a enableIpv6 = buildFirewallSyncSignature b enableIpv6) :
    (a.targets.flatMap rules).Perm (b.targets.flatMap rules) := by
  have hmap : ∀ ts : List Target,
      ts.flatMap rules = (ts.map normalizeTarget).flatMap fun t => rules t.toTarget := by
    intro ts
    rw [List.flatMap_map]
    congr 1
    funext t
    exact hr t
  rw [hmap, hmap]
  exact (signature_targets_perm h).flatMap_right _

end GuardTime
