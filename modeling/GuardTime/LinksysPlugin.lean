import GuardTime.TenantIsolation
import GuardTime.CheckedEdit

namespace GuardTime

namespace Linksys

/-- A rule of the parental control, as far as the plugin reads or writes it. -/
structure ParentalRule where
  macAddress : Option String
  description : String
  blockInternet : Bool
deriving DecidableEq

structure ParentalControlSettings where
  isParentalControlEnabled : Bool
  rules : List ParentalRule
deriving DecidableEq

inductive MACFilterMode where
  | Disabled
  | Allow
  | Deny
deriving DecidableEq

structure MACFilterSettings where
  macFilterMode : MACFilterMode
  macAddresses : List String
deriving DecidableEq

structure LinksysRouter where
  parentalControl : ParentalControlSettings
  macFilter : MACFilterSettings
deriving DecidableEq

/-- Addresses are compared in lower case. -/
def sameMac (a b : String) : Bool := a.toLower = b.toLower

/-- `(r.macAddress || '')`. -/
def ParentalRule.mac (rule : ParentalRule) : String := rule.macAddress.getD ""

def ParentalRule.isFor (rule : ParentalRule) (macAddress : String) : Bool :=
  sameMac rule.mac macAddress

def ParentalControlSettings.blocks (settings : ParentalControlSettings) (macAddress : String) : Bool :=
  settings.rules.any fun rule => rule.isFor macAddress && rule.blockInternet

def ParentalControlSettings.names (settings : ParentalControlSettings) (macAddress : String) : Bool :=
  settings.rules.any fun rule => rule.isFor macAddress

def MACFilterSettings.lists (settings : MACFilterSettings) (macAddress : String) : Bool :=
  settings.macAddresses.any fun m => sameMac m macAddress

def pauseEdit (macAddress : String) (deviceId : Option String) :
    CheckedEdit ParentalControlSettings Router.ActionResult where
  fallback := ⟨false, []⟩
  verifyFallback := ⟨false, []⟩
  settled before :=
    if before.blocks macAddress then some (succeeds (macAddress ++ " already blocked (idempotent)"))
    else none
  edit before := ⟨true, before.rules ++
    [⟨some macAddress, "guardtime:" ++ (truthy deviceId).getD macAddress, true⟩]⟩
  verified verify :=
    if verify.blocks macAddress then succeeds (macAddress ++ " paused via parental-control block")
    else fails "pause rule did not verify"
  failed error := fails ("pauseDevice failed: " ++ error)

def resumeEdit (macAddress : String) : CheckedEdit ParentalControlSettings Router.ActionResult where
  fallback := ⟨false, []⟩
  verifyFallback := ⟨false, []⟩
  settled before :=
    let remaining := before.rules.filter fun rule => !rule.isFor macAddress
    if remaining.length = before.rules.length then
      some (succeeds (macAddress ++ " was not paused (already clear)"))
    else none
  edit before := { before with rules := before.rules.filter fun rule => !rule.isFor macAddress }
  verified verify :=
    if !verify.names macAddress then succeeds (macAddress ++ " resumed")
    else fails "resume did not verify"
  failed error := fails ("resumeDevice failed: " ++ error)

/-- The edit of the MAC filter that `blockMAC` makes; it always writes. -/
def blockEdit (macAddress : String) : CheckedEdit MACFilterSettings Router.ActionResult where
  fallback := ⟨.Disabled, []⟩
  verifyFallback := ⟨.Disabled, []⟩
  settled _ := none
  edit before := ⟨.Deny,
    if before.lists macAddress then before.macAddresses else before.macAddresses ++ [macAddress]⟩
  verified verify :=
    if verify.lists macAddress && verify.macFilterMode = .Deny then
      succeeds (macAddress ++ " added to MAC filter deny list")
    else fails "MAC filter entry did not verify"
  failed error := fails ("blockMAC failed: " ++ error)

def unblockEdit (macAddress : String) : CheckedEdit MACFilterSettings Router.ActionResult where
  fallback := ⟨.Disabled, []⟩
  verifyFallback := ⟨.Disabled, []⟩
  settled before :=
    let remaining := before.macAddresses.filter fun m => !sameMac m macAddress
    if remaining.length = before.macAddresses.length then
      some (succeeds (macAddress ++ " already clear (not in MAC filter list)"))
    else none
  edit before := { before with
    macAddresses := before.macAddresses.filter fun m => !sameMac m macAddress }
  verified verify :=
    if !verify.lists macAddress then succeeds (macAddress ++ " removed from MAC filter deny list")
    else fails "MAC filter removal did not verify"
  failed error := fails ("unblockMAC failed: " ++ error)

/-- Shared body of the four methods: the dry run, the check of the address, and the edit. -/
def withMac (ctx : Router.Ctx) (target : Router.RouterTarget) (dryRun : String → String)
    (missing : String) (router : LinksysRouter)
    (edit : String → Router.ActionResult × LinksysRouter) : Router.ActionResult × LinksysRouter :=
  if ctx.dryRun then
    (succeeds ("[dry-run] " ++ dryRun (target.macAddress.getD "undefined")), router)
  else
    match truthy target.macAddress with
    | none => (fails missing, router)
    | some macAddress => edit macAddress

def pauseDevice (fates : EditFates) (ctx : Router.Ctx) (target : Router.RouterTarget)
    (router : LinksysRouter) : Router.ActionResult × LinksysRouter :=
  withMac ctx target (fun mac => "add " ++ mac ++ " to parental-control blocked devices")
    "macAddress is required to pause a Linksys device" router fun macAddress =>
      let r := (pauseEdit macAddress target.deviceId).run fates router.parentalControl
      (r.1, { router with parentalControl := r.2 })

def resumeDevice (fates : EditFates) (ctx : Router.Ctx) (target : Router.RouterTarget)
    (router : LinksysRouter) : Router.ActionResult × LinksysRouter :=
  withMac ctx target (fun mac => "remove " ++ mac ++ " from parental-control blocked devices")
    "macAddress is required to resume a Linksys device" router fun macAddress =>
      let r := (resumeEdit macAddress).run fates router.parentalControl
      (r.1, { router with parentalControl := r.2 })

def blockMAC (fates : EditFates) (ctx : Router.Ctx) (target : Router.RouterTarget)
    (router : LinksysRouter) : Router.ActionResult × LinksysRouter :=
  withMac ctx target (fun mac => "add " ++ mac ++ " to MAC filter deny list")
    "macAddress is required" router fun macAddress =>
      let r := (blockEdit macAddress).run fates router.macFilter
      (r.1, { router with macFilter := r.2 })

def unblockMAC (fates : EditFates) (ctx : Router.Ctx) (target : Router.RouterTarget)
    (router : LinksysRouter) : Router.ActionResult × LinksysRouter :=
  withMac ctx target (fun mac => "remove " ++ mac ++ " from MAC filter deny list")
    "macAddress is required" router fun macAddress =>
      let r := (unblockEdit macAddress).run fates router.macFilter
      (r.1, { router with macFilter := r.2 })

end Linksys

end GuardTime
