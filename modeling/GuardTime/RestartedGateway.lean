import GuardTime.RestartedIptables

namespace GuardTime

/-- The rule sets of a gateway, that of `nft` and those of `iptables`. -/
structure Gateway where
  nft : NftRuleset
  ipt : IptKernel

namespace Gateway

def empty : Gateway := ⟨.empty, .empty⟩

/-- Two gateways have the same GuardTime rules in force, with whichever backend they were installed. -/
def SameInForce (g g' : Gateway) : Prop :=
  (∀ feature : Nftables.Feature, feature.inForce g.nft = feature.inForce g'.nft) ∧
    ∀ feature : Iptables.Feature, feature.inForce g.ipt = feature.inForce g'.ipt

end Gateway

/-- The first `sync` of a freshly started agent with the controller `createFirewallController` gives it,
and whether it succeeded. -/
def restart (config : Config) (fate : Nat → Bool) (args : SyncArgs) (g : Gateway) : Bool × Gateway :=
  if config.firewallBackend = "nftables" then
    let call := Nftables.freshSync config fate args g.nft
    (call.outcome = .applied false, { g with nft := call.world.kernel })
  else
    let call := Iptables.freshSync config fate args g.ipt
    (call.applied, { g with ipt := call.world.kernel })

/-- Whatever has rules in force is a feature of the configured backend that its `sync` rebuilds. -/
def RebuildsAll (config : Config) (args : SyncArgs) (g : Gateway) : Prop :=
  (∀ feature : Nftables.Feature, feature.HasRules g.nft →
    config.firewallBackend = "nftables" ∧ feature ∈ Nftables.rebuilt config args) ∧
  ∀ feature : Iptables.Feature, feature.HasRules g.ipt →
    config.firewallBackend ≠ "nftables" ∧ feature ∈ Iptables.rebuilt config args

theorem Nftables.inForce_empty_iff {feature : Nftables.Feature} {k : NftRuleset} :
    feature.inForce k = feature.inForce .empty ↔ ¬feature.HasRules k :=
  not_not.symm

/-- A restart leaves in force what it leaves on an empty gateway exactly when it rebuilds all that was
in force before. -/
theorem restartsAfresh_iff {config : Config} {args : SyncArgs} {fate fate' : Nat → Bool}
    {left : Gateway} (h : (restart config fate args left).1 = true)
    (h' : (restart config fate' args .empty).1 = true) :
    Gateway.SameInForce (restart config fate args left).2 (restart config fate' args .empty).2 ↔
      RebuildsAll config args left := by
  unfold restart at h h' ⊢
  by_cases hb : config.firewallBackend = "nftables"
  · simp only [if_pos hb] at h h' ⊢
    refine and_congr ?_ (forall_congr' fun feature => ?_)
    · refine (Nftables.freshSync_same_iff (of_decide_eq_true h) (of_decide_eq_true h')).trans
        (forall_congr' fun feature => ?_)
      rw [and_iff_right hb]
    · rw [show Gateway.empty.ipt = .empty from rfl, Iptables.inForce_empty_iff]
      simp [hb]
  · simp only [if_neg hb] at h h' ⊢
    refine and_congr (forall_congr' fun feature => ?_) ?_
    · rw [show Gateway.empty.nft = .empty from rfl, Nftables.inForce_empty_iff]
      simp [hb]
    · refine (Iptables.freshSync_same_iff h h').trans (forall_congr' fun feature => ?_)
      rw [and_iff_right hb]

def redirecting : SyncArgs := ⟨[], "10.0.0.1", "2001:db8::53", true, false, true⟩

def redirectingOff : SyncArgs := ⟨[], "10.0.0.1", "2001:db8::53", false, false, false⟩

def withBackend (backend : String) : Config := { sampleConfig with firewallBackend := backend }

/-- A run with one backend redirected DNS and blocked DoH, and a run with another one, both switched off,
leaves rules in force that are none of its own. -/
def KeepsRedirect (before after : String) : Prop :=
  let left := restart (withBackend before) (fun _ => true) redirecting .empty
  let again := restart (withBackend after) (fun _ => true) redirectingOff left.2
  let fresh := restart (withBackend after) (fun _ => true) redirectingOff .empty
  left.1 = true ∧ again.1 = true ∧ fresh.1 = true ∧ ¬Gateway.SameInForce again.2 fresh.2

/-- The redirect stays in force with either backend, and over a change of backend. -/
theorem restart_keeps_redirect :
    KeepsRedirect "nftables" "nftables" ∧ KeepsRedirect "iptables" "iptables" ∧
      KeepsRedirect "iptables" "nftables" := by
  refine ⟨⟨?_, ?_, ?_, fun h => ?_⟩, ⟨?_, ?_, ?_, fun h => ?_⟩, ⟨?_, ?_, ?_, fun h => ?_⟩⟩
  iterate 3 decide +kernel
  · have hredirect := h.1 .dnsRedirect
    revert hredirect
    decide +kernel
  iterate 3 decide +kernel
  · have hdoh := h.2 ⟨false, .doh⟩
    revert hdoh
    decide +kernel
  iterate 3 decide +kernel
  · have hdoh := h.2 ⟨false, .doh⟩
    revert hdoh
    decide +kernel

/-- With the redirect and the DoH block still on, a restart leaves what it leaves on an empty
gateway. -/
theorem restartsAfresh_iff_redirecting :
    Gateway.SameInForce
      (restart (withBackend "iptables") (fun _ => true) redirecting
        (restart (withBackend "iptables") (fun _ => true) redirecting .empty).2).2
      (restart (withBackend "iptables") (fun _ => true) redirecting .empty).2 := by
  refine (restartsAfresh_iff (by decide +kernel) (by decide +kernel)).mpr ⟨?_, ?_⟩
  · intro feature h
    exact absurd rfl h
  · rintro ⟨ipv6, kind⟩ _
    refine ⟨by decide, ?_⟩
    cases ipv6 <;> cases kind <;> decide

end GuardTime
