import GuardTime.RuleRemoval
import Mathlib.Logic.Function.Basic

namespace GuardTime

open Router

namespace ClientAccess

/-- Which clients a router denies access, by their MAC addresses in lower case. -/
abbrev Denied := String → Bool

def macKey (macAddress : String) : String := macAddress.toLower

/-- How the requests of one call end, and the addresses of the clients that are listed then. -/
structure ClientFates extends RequestFates where
  listed : List String

/-- What the two directions of a switch differ in: what it sets, and its texts. -/
structure Direction where
  deny : Bool
  dry : String
  done : String
  unverified : String
  failed : String

/-- What the plugins differ in: the requests before the one that writes, with its place in the call,
what is seen of the client after it, and what of that is accepted. -/
structure Exchange where
  prepare : Except String Nat
  observe : Nat → String → Denied → Except String (Option Bool)
  accepts : Bool → Option Bool → Bool

/-- A plugin's `blockMAC` or `unblockMAC`. -/
def Direction.run (direction : Direction) (exchange : Exchange) (fates : ClientFates) (ctx : Ctx)
    (target : RouterTarget) (denied : Denied) : ActionResult × Denied :=
  match dryRunResult ctx (direction.dry ++ shown target.macAddress) with
  | some dry => (dry, denied)
  | none =>
    match truthy target.macAddress with
    | none => (fails "macAddress is required", denied)
    | some macAddress =>
      match exchange.prepare with
      | .error error => (fails (direction.failed ++ error), denied)
      | .ok n =>
        match (fates.write n).perform (Function.update · (macKey macAddress) direction.deny) denied with
        | (.error error, denied) => (fails (direction.failed ++ error), denied)
        | (.ok _, denied) =>
          match exchange.observe (n + 1) macAddress denied with
          | .error error => (fails (direction.failed ++ error), denied)
          | .ok seen =>
            if exchange.accepts direction.deny seen then (succeeds (macAddress ++ direction.done), denied)
            else (fails direction.unverified, denied)

/-- The client of an address among those listed, by whether it is blocked. -/
def findListed (listed : List String) (macAddress : String) (denied : Denied) : Option Bool :=
  (listed.find? fun mac => mac.toLower = macAddress.toLower).map fun mac => denied (macKey mac)

/-- `!client || client.blocked === true`, or `!client || client.blocked !== true`. -/
def clientAccepts (deny : Bool) (client : Option Bool) : Bool := client.all (· = deny)

/-- `withMac` of the two plugins that have no rules for addresses. -/
def requireMac (message : String) (act : RouterTarget → Denied → ActionResult × Denied)
    (target : RouterTarget) (denied : Denied) : ActionResult × Denied :=
  match truthy target.macAddress with
  | none => (fails message, denied)
  | some _ => act target denied

end ClientAccess

open ClientAccess

namespace Keenetic

/-- The `access` of the host as it is read back; an answer that fails is taken for `null`. -/
def access (fate : QueryFate) (macAddress : String) (denied : Denied) : Option Bool :=
  match fate with
  | .answered => some (denied (macKey macAddress))
  | .bare | .failed _ => none

/-- `verify?.access === 'deny'`, or `verify?.access !== 'deny'`. -/
def accepts (deny : Bool) (seen : Option Bool) : Bool := (seen = some true) = deny

def exchange (fates : ClientFates) : Exchange where
  prepare := .ok 0
  observe n macAddress denied := .ok (access (fates.query n) macAddress denied)
  accepts := accepts

def blockMAC (fates : ClientFates) (ctx : Ctx) (target : RouterTarget) (denied : Denied) :
    ActionResult × Denied :=
  Direction.run ⟨true, "deny hotspot access for ", " blocked", "access=deny did not verify",
    "blockMAC failed: "⟩ (exchange fates) fates ctx target denied

def unblockMAC (fates : ClientFates) (ctx : Ctx) (target : RouterTarget) (denied : Denied) :
    ActionResult × Denied :=
  Direction.run ⟨false, "permit hotspot access for ", " unblocked", "access=permit did not verify",
    "unblockMAC failed: "⟩ (exchange fates) fates ctx target denied

def noMac : String := "Keenetic RCI has no documented IP-based firewall rule action — a macAddress is " ++
  "required (hotspot host policy)"

def applyFirewallRule (fates : ClientFates) (ctx : Ctx) : RouterTarget → Denied → ActionResult × Denied :=
  requireMac noMac (blockMAC fates ctx)

def removeFirewallRule (fates : ClientFates) (ctx : Ctx) : RouterTarget → Denied → ActionResult × Denied :=
  requireMac noMac (unblockMAC fates ctx)

end Keenetic

namespace Omada

structure OmadaCtx extends Ctx where
  omadacId : Option String
  siteId : Option String

def getAccessToken : QueryFate → Except String Unit
  | .answered => .ok ()
  | .bare => .error "Omada token exchange failed: HTTP 200"
  | .failed error => .error error

def requireOmadacId (ctx : OmadaCtx) : Except String Unit :=
  match truthy ctx.omadacId with
  | some _ => .ok ()
  | none => .error ("ctx.omadacId is required (the Omada controller ID) — see this plugin's module " ++
      "doc comment")

/-- The place of the request after those that find the site. -/
def resolveSiteId (fates : ClientFates) (ctx : OmadaCtx) : Except String Nat :=
  match truthy ctx.siteId with
  | some _ => .ok 0
  | none => do
    requireOmadacId ctx
    getAccessToken (fates.query 0)
    match fates.query 1 with
    | .answered => .ok 2
    | .bare => .error "no Omada site found for this controller — pass ctx.siteId explicitly"
    | .failed error => .error error

/-- A first page of clients is asked for; an answer without a list has none. -/
def findClient (fates : ClientFates) (n : Nat) (macAddress : String) (denied : Denied) :
    Except String (Option Bool) := do
  getAccessToken (fates.query n)
  match fates.query (n + 1) with
  | .answered => .ok (findListed (fates.listed.take 100) macAddress denied)
  | .bare => .ok none
  | .failed error => .error error

def exchange (fates : ClientFates) (ctx : OmadaCtx) : Exchange where
  prepare := do
    let n ← resolveSiteId fates ctx
    requireOmadacId ctx
    getAccessToken (fates.query n)
    .ok (n + 1)
  observe := findClient fates
  accepts := clientAccepts

def blockMAC (fates : ClientFates) (ctx : OmadaCtx) (target : RouterTarget) (denied : Denied) :
    ActionResult × Denied :=
  Direction.run ⟨true, "block client ", " blocked", "block action did not verify",
    "blockMAC failed: "⟩ (exchange fates ctx) fates ctx.toCtx target denied

def unblockMAC (fates : ClientFates) (ctx : OmadaCtx) (target : RouterTarget) (denied : Denied) :
    ActionResult × Denied :=
  Direction.run ⟨false, "unblock client ", " unblocked", "unblock action did not verify",
    "unblockMAC failed: "⟩ (exchange fates ctx) fates ctx.toCtx target denied

def noMac (action : String) : String :=
  "Omada Open API has no documented IP-based firewall rule action — a macAddress is required (client " ++
    action ++ ")"

def applyFirewallRule (fates : ClientFates) (ctx : OmadaCtx) :
    RouterTarget → Denied → ActionResult × Denied := requireMac (noMac "block") (blockMAC fates ctx)

def removeFirewallRule (fates : ClientFates) (ctx : OmadaCtx) :
    RouterTarget → Denied → ActionResult × Denied := requireMac (noMac "unblock") (unblockMAC fates ctx)

end Omada

namespace UniFi

/-- A list of stations that cannot be read is taken for an empty one. -/
def findClient (fate : QueryFate) (listed : List String) (macAddress : String) (denied : Denied) :
    Option Bool :=
  match fate with
  | .answered => findListed listed macAddress denied
  | .bare | .failed _ => none

def exchange (fates : ClientFates) : Exchange where
  prepare := (login fates.toRequestFates).map fun _ => 2
  observe n macAddress denied := .ok (findClient (fates.query n) fates.listed macAddress denied)
  accepts := clientAccepts

def blockMAC (fates : ClientFates) (ctx : Ctx) (target : RouterTarget) (denied : Denied) :
    ActionResult × Denied :=
  Direction.run ⟨true, "block-sta ", " blocked", "block-sta did not verify", "blockMAC failed: "⟩
    (exchange fates) fates ctx target denied

def unblockMAC (fates : ClientFates) (ctx : Ctx) (target : RouterTarget) (denied : Denied) :
    ActionResult × Denied :=
  Direction.run ⟨false, "unblock-sta ", " unblocked", "unblock-sta did not verify",
    "unblockMAC failed: "⟩ (exchange fates) fates ctx target denied

end UniFi

namespace ClientAccess

inductive Vendor where
  | keenetic
  | omada (omadacId siteId : Option String)
  | unifi

structure Call where
  deny : Bool
  fates : ClientFates
  ctx : Ctx
  target : RouterTarget

/-- A call of the vendor's `blockMAC` or `unblockMAC`, which are also its `pauseDevice` and
`resumeDevice`. -/
def Vendor.act : Vendor → Call → Denied → ActionResult × Denied
  | .keenetic, ⟨true, fates, ctx, target⟩ => Keenetic.blockMAC fates ctx target
  | .keenetic, ⟨false, fates, ctx, target⟩ => Keenetic.unblockMAC fates ctx target
  | .omada omadacId siteId, ⟨true, fates, ctx, target⟩ =>
    Omada.blockMAC fates { ctx with omadacId := omadacId, siteId := siteId } target
  | .omada omadacId siteId, ⟨false, fates, ctx, target⟩ =>
    Omada.unblockMAC fates { ctx with omadacId := omadacId, siteId := siteId } target
  | .unifi, ⟨true, fates, ctx, target⟩ => UniFi.blockMAC fates ctx target
  | .unifi, ⟨false, fates, ctx, target⟩ => UniFi.unblockMAC fates ctx target

def Vendor.exchange : Vendor → Call → Exchange
  | .keenetic, call => Keenetic.exchange call.fates
  | .omada omadacId siteId, call =>
    Omada.exchange call.fates { call.ctx with omadacId := omadacId, siteId := siteId }
  | .unifi, call => UniFi.exchange call.fates

def Call.key (call : Call) : Option String := (truthy call.target.macAddress).map macKey

def run (vendor : Vendor) (calls : List Call) (denied : Denied) : Denied :=
  calls.foldl (fun denied call => (vendor.act call denied).2) denied

/-- The answers on which a plugin takes a client for switched that it has not seen. -/
def Vendor.Blind (vendor : Vendor) (call : Call) (macAddress : String) : Prop :=
  match vendor with
  | .keenetic => call.deny = false ∧ call.fates.write 0 = .ignored ∧ call.fates.query 1 ≠ .answered
  | .omada _ _ => ∃ n, (vendor.exchange call).prepare = .ok n ∧
      call.fates.write n = .ignored ∧ call.fates.query (n + 1) = .answered ∧
      (call.fates.query (n + 2) = .bare ∨ (call.fates.query (n + 2) = .answered ∧
        macKey macAddress ∉ (call.fates.listed.take 100).map macKey))
  | .unifi => (vendor.exchange call).prepare = .ok 2 ∧ call.fates.write 2 = .ignored ∧
      (call.fates.query 3 ≠ .answered ∨ macKey macAddress ∉ call.fates.listed.map macKey)

/-- A call that reports a client switched that is not. -/
def Vendor.Misleads (vendor : Vendor) (call : Call) (denied : Denied) : Prop :=
  ∃ macAddress, truthy call.target.macAddress = some macAddress ∧
    vendor.Blind call macAddress ∧ denied (macKey macAddress) ≠ call.deny

theorem findListed_eq (listed : List String) (macAddress : String) (denied : Denied) :
    findListed listed macAddress denied =
      if macKey macAddress ∈ listed.map macKey then some (denied (macKey macAddress)) else none := by
  unfold findListed
  induction listed with
  | nil => simp
  | cons mac listed ih =>
    by_cases hmac : mac.toLower = macAddress.toLower
    · simp [macKey, hmac]
    · have hne : macKey macAddress ≠ macKey mac := fun h => hmac h.symm
      rw [List.find?_cons_of_neg (by simpa using hmac), ih]
      simp only [List.map_cons, List.mem_cons, hne, false_or]

/-- The request that writes was ignored, and what is seen after it is accepted all the same. -/
def Exchange.Deceives (exchange : Exchange) (fates : ClientFates) (deny : Bool) (macAddress : String)
    (denied : Denied) : Prop :=
  ∃ n seen, exchange.prepare = .ok n ∧ fates.write n = .ignored ∧
    exchange.observe (n + 1) macAddress denied = .ok seen ∧ exchange.accepts deny seen = true

section Calls

variable {direction : Direction} {exchange : Exchange} {fates : ClientFates} {ctx : Ctx}
  {target : RouterTarget} {denied : Denied} {macAddress : String}

theorem run_state (key : String) (hkey : ∀ macAddress, truthy target.macAddress = some macAddress →
    macKey macAddress ≠ key) : (direction.run exchange fates ctx target denied).2 key = denied key := by
  unfold Direction.run
  split
  next => rfl
  next =>
    split
    next => rfl
    next macAddress hmac =>
      have hne : key ≠ macKey macAddress := fun h => hkey macAddress hmac h.symm
      split
      next => rfl
      next n _ =>
        have hset : ∀ error denied', (fates.write n).perform
            (Function.update · (macKey macAddress) direction.deny) denied = (error, denied') →
            denied' key = denied key := by
          intro error denied' h
          cases hw : fates.write n <;> simp only [hw, WriteFate.perform, Prod.mk.injEq] at h <;>
            simp [← h.2, Function.update_of_ne hne]
        split
        next error denied' h => exact hset _ _ h
        next denied' h =>
          split
          next => exact hset _ _ h
          next => split <;> exact hset _ _ h

/-- Outside dry run, a call's success is true unless it is deceived about a client that is not yet
as asked. -/
theorem run_truthful_iff (hdry : ctx.dryRun = false) (hmac : truthy target.macAddress = some macAddress) :
    ((direction.run exchange fates ctx target denied).1.success = true →
      (direction.run exchange fates ctx target denied).2 (macKey macAddress) = direction.deny) ↔
    ¬(exchange.Deceives fates direction.deny macAddress denied ∧
      denied (macKey macAddress) ≠ direction.deny) := by
  have hnone : dryRunResult ctx (direction.dry ++ shown target.macAddress) = none := by
    simp [dryRunResult, hdry]
  simp only [Direction.run, hnone, hmac]
  cases hprepare : exchange.prepare with
  | error error => simp [Exchange.Deceives, hprepare, fails]
  | ok n =>
    cases hw : fates.write n with
    | done =>
      have hnot : ¬exchange.Deceives fates direction.deny macAddress denied := by
        rintro ⟨m, seen, hm, hignored, -⟩
        cases Except.ok.inj (hprepare.symm.trans hm)
        simp [hw] at hignored
      refine iff_of_true (fun _ => ?_) fun h => hnot h.1
      have hset : Function.update denied (macKey macAddress) direction.deny (macKey macAddress) =
          direction.deny := Function.update_self _ _ _
      simp only [hw, WriteFate.perform]
      split
      next => exact hset
      next => split <;> exact hset
    | ignored =>
      simp only [WriteFate.perform, Exchange.Deceives, hprepare]
      cases hseen : exchange.observe (n + 1) macAddress denied with
      | error error => simp [hw, hseen, fails]
      | ok seen =>
        cases haccepts : exchange.accepts direction.deny seen with
        | false => simp [hw, hseen, haccepts, fails]
        | true => simp [hw, hseen, haccepts, succeeds]
    | refused error => simp [WriteFate.perform, Exchange.Deceives, hprepare, hw, fails]
    | lost error => simp [WriteFate.perform, Exchange.Deceives, hprepare, hw, fails]

end Calls

section Vendors

variable {vendor : Vendor} {call : Call} {denied : Denied} {macAddress : String}

theorem clientAccepts_findListed {listed : List String}
    (hother : denied (macKey macAddress) ≠ call.deny) :
    clientAccepts call.deny (findListed listed macAddress denied) = true ↔
      macKey macAddress ∉ listed.map macKey := by
  rw [findListed_eq]
  split
  next hmem => simp [clientAccepts, hmem, hother]
  next hmem => simp [clientAccepts, hmem]

theorem deceives_iff_blind (hother : denied (macKey macAddress) ≠ call.deny) :
    (vendor.exchange call).Deceives call.fates call.deny macAddress denied ↔
      vendor.Blind call macAddress := by
  cases vendor with
  | keenetic =>
    simp only [Exchange.Deceives, Vendor.exchange, Keenetic.exchange, Vendor.Blind, Except.ok.injEq,
      exists_eq_left', exists_and_left, exists_eq_left']
    cases hq : call.fates.query (0 + 1) <;> cases hd : call.deny <;>
      simp_all [Keenetic.access, Keenetic.accepts]
  | omada omadacId siteId =>
    have hobserve : ∀ n, (∃ seen, (Vendor.exchange (.omada omadacId siteId) call).observe (n + 1)
        macAddress denied = .ok seen ∧ clientAccepts call.deny seen = true) ↔
        call.fates.query (n + 1) = .answered ∧ (call.fates.query (n + 2) = .bare ∨
          (call.fates.query (n + 2) = .answered ∧
            macKey macAddress ∉ (call.fates.listed.take 100).map macKey)) := by
      intro n
      simp only [Vendor.exchange, Omada.exchange, Omada.findClient]
      cases hq : call.fates.query (n + 1) with
      | answered =>
        cases hq' : call.fates.query (n + 1 + 1) with
        | answered =>
          have hseen := @clientAccepts_findListed call denied macAddress (call.fates.listed.take 100)
            hother
          simpa [Omada.getAccessToken, bind, Except.bind] using hseen
        | bare => simp [Omada.getAccessToken, clientAccepts, bind, Except.bind]
        | failed error => simp [Omada.getAccessToken, bind, Except.bind]
      | bare => simp [Omada.getAccessToken, bind, Except.bind]
      | failed error => simp [Omada.getAccessToken, bind, Except.bind]
    simp only [Exchange.Deceives, Vendor.Blind]
    refine exists_congr fun n => ?_
    rw [← hobserve n]
    simp only [exists_and_left]
    rfl
  | unifi =>
    have hplace : ∀ n, (Vendor.exchange .unifi call).prepare = .ok n → n = 2 := by
      intro n h
      simp only [Vendor.exchange, UniFi.exchange] at h
      cases hlogin : UniFi.login call.fates.toRequestFates <;> simp_all [Except.map]
    have hseen : clientAccepts call.deny
        (UniFi.findClient (call.fates.query 3) call.fates.listed macAddress denied) = true ↔
          call.fates.query 3 ≠ .answered ∨ macKey macAddress ∉ call.fates.listed.map macKey := by
      cases hq : call.fates.query 3 with
      | answered => simp [UniFi.findClient, clientAccepts_findListed hother]
      | bare => simp [UniFi.findClient, clientAccepts]
      | failed error => simp [UniFi.findClient, clientAccepts]
    simp only [Exchange.Deceives, Vendor.Blind]
    rw [← hseen]
    refine ⟨?_, ?_⟩
    · rintro ⟨n, seen, hprepare, hignored, hobserve, haccepts⟩
      cases hplace n hprepare
      cases Except.ok.inj hobserve
      exact ⟨hprepare, hignored, haccepts⟩
    · rintro ⟨hprepare, hignored, haccepts⟩
      exact ⟨2, _, hprepare, hignored, rfl, haccepts⟩

theorem act_eq (vendor : Vendor) (call : Call) : ∃ (direction : Direction) (ctx : Ctx),
    direction.deny = call.deny ∧ ctx.dryRun = call.ctx.dryRun ∧
      vendor.act call = direction.run (vendor.exchange call) call.fates ctx call.target := by
  obtain ⟨deny, fates, ctx, target⟩ := call
  cases vendor <;> cases deny <;> exact ⟨_, _, rfl, rfl, rfl⟩

theorem run_other (calls : List Call) (denied : Denied) {key : String}
    (h : ∀ call ∈ calls, call.key ≠ some key) : run vendor calls denied key = denied key := by
  induction calls generalizing denied with
  | nil => rfl
  | cons call calls ih =>
    have hcall : (vendor.act call denied).2 key = denied key := by
      obtain ⟨direction, ctx, -, -, hact⟩ := act_eq vendor call
      rw [hact]
      refine run_state key ?_
      intro macAddress hmac heq
      exact h call List.mem_cons_self (by simp [Call.key, hmac, heq])
    have ih := ih (vendor.act call denied).2 fun later hlater => h later (List.mem_cons_of_mem _ hlater)
    exact ih.trans hcall

/-- In a run of calls, the last one for a client that reports success has left the client as it was
asked to, however the calls before and after it ended, exactly if it does not mislead in the state it
came in. -/
theorem last_call_truthful_iff (vendor : Vendor) (before after : List Call) (denied : Denied)
    (hdry : call.ctx.dryRun = false) (hmac : truthy call.target.macAddress = some macAddress)
    (hlast : ∀ later ∈ after, later.key ≠ some (macKey macAddress)) :
    ((vendor.act call (run vendor before denied)).1.success = true →
        run vendor (before ++ call :: after) denied (macKey macAddress) = call.deny) ↔
      ¬vendor.Misleads call (run vendor before denied) := by
  have hrun : run vendor (before ++ call :: after) denied (macKey macAddress) =
      (vendor.act call (run vendor before denied)).2 (macKey macAddress) := by
    rw [run, List.foldl_append, List.foldl_cons]
    exact run_other after _ hlast
  obtain ⟨direction, ctx, hdeny, hctx, hact⟩ := act_eq vendor call
  rw [hrun, hact, ← hdeny, run_truthful_iff (hctx.trans hdry) hmac, hdeny, not_iff_not, Vendor.Misleads]
  simp only [hmac, Option.some.injEq, exists_eq_left']
  refine and_congr_left ?_
  intro hother
  exact deceives_iff_blind hother

/-- A blocked console is asked to be let in again, and neither request is carried out. -/
theorem unblock_misleads :
    let console : RouterTarget := ⟨none, some "AA:BB:CC:DD:EE:FF", none, none⟩
    let ctx : Ctx := ⟨none, none, false⟩
    let granted : ClientFates := ⟨⟨fun _ => .answered, fun _ => .done⟩, []⟩
    let lost : ClientFates := ⟨⟨fun _ => .failed "timeout", fun _ => .ignored⟩, []⟩
    ¬((Vendor.keenetic.act ⟨false, lost, ctx, console⟩
          (run .keenetic [⟨true, granted, ctx, console⟩] fun _ => false)).1.success = true →
        run .keenetic ([⟨true, granted, ctx, console⟩] ++ ⟨false, lost, ctx, console⟩ :: [])
          (fun _ => false) (macKey "AA:BB:CC:DD:EE:FF") = false) := by
  intro console ctx granted lost h
  refine (last_call_truthful_iff .keenetic [⟨true, granted, ctx, console⟩] [] (fun _ => false) rfl rfl
    (by simp)).mp h ?_
  exact ⟨"AA:BB:CC:DD:EE:FF", rfl, ⟨rfl, rfl, by simp [lost]⟩, by decide +kernel⟩

end Vendors

end ClientAccess

end GuardTime
