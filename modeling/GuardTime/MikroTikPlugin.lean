import GuardTime.RestoredEdit
import GuardTime.RouterCommands
import GuardTime.TextLines
import Mathlib.Data.List.Infix

namespace GuardTime

open Router

/-- `${value}`. -/
def shown (value : Option String) : String := value.getD "undefined"

def dryRunResult (ctx : Ctx) (description : String) : Option ActionResult :=
  if ctx.dryRun then some ⟨true, "[dry-run] " ++ description, none⟩ else none

def startsWith (text start : String) : Bool := start.toList.isPrefixOf text.toList

namespace MikroTik

structure FilterRule where
  chain : String
  srcAddress : Option String
  action : String
  comment : Option String
deriving DecidableEq

structure AccessEntry where
  macAddress : Option String
  action : String
deriving DecidableEq

structure Registration where
  macAddress : Option String
deriving DecidableEq

structure MikroTikRouter where
  filter : Table FilterRule
  accessList : Table AccessEntry
  registrations : Table Registration
  dnsServers : String

def FilterRule.isFor (ipAddress : String) (rule : FilterRule) : Bool :=
  rule.srcAddress = some ipAddress && startsWith (rule.comment.getD "") "guardtime:"

def AccessEntry.isFor (macAddress : String) (entry : AccessEntry) : Bool :=
  entry.macAddress = some macAddress

def Registration.isFor (macAddress : String) (entry : Registration) : Bool :=
  entry.macAddress = some macAddress

def findFirewallRule (fate : QueryFate) (ipAddress : String) (filter : Table FilterRule) :
    Except String (Option (Entry FilterRule)) := filter.look fate (FilterRule.isFor ipAddress)

def findAccessListEntry (fate : QueryFate) (macAddress : String) (accessList : Table AccessEntry) :
    Except String (Option (Entry AccessEntry)) := accessList.look fate (AccessEntry.isFor macAddress)

def findRegistrationTableEntry (fate : QueryFate) (macAddress : String)
    (registrations : Table Registration) : Except String (Option (Entry Registration)) :=
  registrations.look fate (Registration.isFor macAddress)

/-- The change of `/ip/dns`; without a server the request that writes names none. -/
def dnsEdit (dnsServer : Option String) : RestoredEdit String (Option String) where
  read servers := some servers
  unread := none
  put _ servers := dnsServer.getD servers
  accepts after := (truthy after).any fun servers => includes servers.toList (shown dnsServer).toList
  known before := (truthy before).isSome
  putBack before := before.getD ""

def changeDNS (fates : RequestFates) (ctx : Ctx) (dnsServer : Option String)
    (router : MikroTikRouter) : ActionResult × MikroTikRouter :=
  match dryRunResult ctx ("set DNS server to " ++ shown dnsServer) with
  | some dry => (dry, router)
  | none =>
    let r := (dnsEdit dnsServer).run fates router.dnsServers
    let result := match r.1 with
      | .verified => succeeds ("DNS server set to " ++ shown dnsServer)
      | .unverified => fails "DNS change did not verify — restored previous value"
      | .failed error => fails ("changeDNS failed: " ++ error)
    (result, { router with dnsServers := r.2 })

def dropRule (ipAddress : String) (deviceId : Option String) : FilterRule :=
  ⟨"forward", some ipAddress, "drop", some ("guardtime:" ++ (truthy deviceId).getD ipAddress)⟩

/-- The requests are `PUT`, whose answer is read as the first query, `GET` and `DELETE`. -/
def applyFirewallRule (fates : RequestFates) (ctx : Ctx) (target : RouterTarget)
    (router : MikroTikRouter) : ActionResult × MikroTikRouter :=
  match dryRunResult ctx ("add firewall drop rule for " ++ shown target.ipAddress) with
  | some dry => (dry, router)
  | none =>
    match truthy target.ipAddress with
    | none => (fails "ipAddress is required to add a RouterOS firewall rule", router)
    | some ipAddress =>
      match (fates.write 0).perform (·.add (dropRule ipAddress target.deviceId)) router.filter with
      | (.error error, filter) =>
        (fails ("applyFirewallRule failed: " ++ error), { router with filter := filter })
      | (.ok _, filter) =>
        match findFirewallRule (fates.query 1) ipAddress filter with
        | .error error =>
          (fails ("applyFirewallRule failed: " ++ error), { router with filter := filter })
        | .ok (some _) =>
          (succeeds ("firewall drop rule added for " ++ ipAddress), { router with filter := filter })
        | .ok none =>
          if fates.write 0 = .done ∧ fates.query 0 = .answered then
            (fails "firewall rule did not verify — rolled back",
              { router with
                filter := ((fates.write 2).perform (·.delete router.filter.next) filter).2 })
          else
            (fails "firewall rule did not verify and could not be auto-removed (no rule id) — check router manually",
              { router with filter := filter })

def removeFirewallRule (fates : RequestFates) (ctx : Ctx) (target : RouterTarget)
    (router : MikroTikRouter) : ActionResult × MikroTikRouter :=
  match dryRunResult ctx ("remove firewall drop rule for " ++ shown target.ipAddress) with
  | some dry => (dry, router)
  | none =>
    match truthy target.ipAddress with
    | none => (fails "ipAddress is required to remove a RouterOS firewall rule", router)
    | some ipAddress =>
      let found := findFirewallRule (fates.query 0) ipAddress router.filter
      let r := router.filter.remove found (fates.write 1)
      let result := match r.1 with
        | .ok false => succeeds ("no firewall drop rule found for " ++ ipAddress ++ " (already clear)")
        | .ok true => succeeds ("firewall drop rule removed for " ++ ipAddress)
        | .error error => fails ("removeFirewallRule failed: " ++ error)
      (result, { router with filter := r.2 })

def pauseDevice (fates : RequestFates) (ctx : Ctx) (target : RouterTarget)
    (router : MikroTikRouter) : ActionResult × MikroTikRouter := applyFirewallRule fates ctx target router

def resumeDevice (fates : RequestFates) (ctx : Ctx) (target : RouterTarget)
    (router : MikroTikRouter) : ActionResult × MikroTikRouter := removeFirewallRule fates ctx target router

def blockMAC (fates : RequestFates) (ctx : Ctx) (target : RouterTarget) (router : MikroTikRouter) :
    ActionResult × MikroTikRouter :=
  match dryRunResult ctx ("add wireless access-list reject for " ++ shown target.macAddress) with
  | some dry => (dry, router)
  | none =>
    match truthy target.macAddress with
    | none => (fails "macAddress is required", router)
    | some macAddress =>
      match (fates.write 0).perform (·.add ⟨some macAddress, "reject"⟩) router.accessList with
      | (.error error, accessList) =>
        (fails ("blockMAC failed: " ++ error), { router with accessList := accessList })
      | (.ok _, accessList) =>
        let result := match findAccessListEntry (fates.query 1) macAddress accessList with
          | .error error => fails ("blockMAC failed: " ++ error)
          | .ok verify =>
            if verify.any (·.value.action = "reject") then
              succeeds ("MAC " ++ macAddress ++ " added to reject access-list")
            else fails "access-list entry did not verify"
        (result, { router with accessList := accessList })

def unblockMAC (fates : RequestFates) (ctx : Ctx) (target : RouterTarget) (router : MikroTikRouter) :
    ActionResult × MikroTikRouter :=
  match dryRunResult ctx ("remove wireless access-list entry for " ++ shown target.macAddress) with
  | some dry => (dry, router)
  | none =>
    match truthy target.macAddress with
    | none => (fails "macAddress is required", router)
    | some macAddress =>
      let found := findAccessListEntry (fates.query 0) macAddress router.accessList
      let r := router.accessList.remove found (fates.write 1)
      let result := match r.1 with
        | .ok false => succeeds ("no access-list entry found for " ++ macAddress ++ " (already clear)")
        | .ok true => succeeds ("MAC " ++ macAddress ++ " removed from access-list")
        | .error error => fails ("unblockMAC failed: " ++ error)
      (result, { router with accessList := r.2 })

def disconnectClient (fates : RequestFates) (ctx : Ctx) (target : RouterTarget)
    (router : MikroTikRouter) : ActionResult × MikroTikRouter :=
  match dryRunResult ctx ("kick wireless client " ++ shown target.macAddress) with
  | some dry => (dry, router)
  | none =>
    match truthy target.macAddress with
    | none => (fails "macAddress is required", router)
    | some macAddress =>
      let found := findRegistrationTableEntry (fates.query 0) macAddress router.registrations
      let r := router.registrations.remove found (fates.write 1)
      let result := match r.1 with
        | .ok false => fails (macAddress ++ " is not currently associated (nothing to disconnect)")
        | .ok true => succeeds ("disconnected wireless client " ++ macAddress)
        | .error error => fails ("disconnectClient failed: " ++ error)
      (result, { router with registrations := r.2 })

/-- What a method does to the router; `testConnection` reads only. -/
def operate (fates : RequestFates) (method : Method) (ctx : Ctx) (target : RouterTarget)
    (router : MikroTikRouter) : MikroTikRouter :=
  match method with
  | .testConnection => router
  | .changeDNS => (changeDNS fates ctx target.dnsServer router).2
  | .pauseDevice => (pauseDevice fates ctx target router).2
  | .resumeDevice => (resumeDevice fates ctx target router).2
  | .disconnectClient => (disconnectClient fates ctx target router).2
  | .applyFirewallRule => (applyFirewallRule fates ctx target router).2
  | .removeFirewallRule => (removeFirewallRule fates ctx target router).2
  | .blockMAC => (blockMAC fates ctx target router).2
  | .unblockMAC => (unblockMAC fates ctx target router).2

end MikroTik

end GuardTime
