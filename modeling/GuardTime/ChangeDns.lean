import GuardTime.MikroTikFrame
import GuardTime.LinksysPlugin

namespace GuardTime

open Router

/-- The setting is the wanted one after a success, and the one before after a failure. -/
def AllOrNothing {D : Type} (before wanted : D) (result : ActionResult) (after : D) : Prop :=
  (result.success = true → after = wanted) ∧ (result.success = false → after = before)

/-- What a plugin answers once its change has ended. -/
def dnsResult (verified : String) : EditOutcome → ActionResult
  | .verified => succeeds verified
  | .unverified => fails "DNS change did not verify — restored previous value"
  | .failed error => fails ("changeDNS failed: " ++ error)

namespace FritzBox

/-- The code points that XML escapes, with what stands for them. -/
def escapeXmlChar (c : Char) : List Char :=
  if c = '<' then "&lt;".toList
  else if c = '>' then "&gt;".toList
  else if c = '&' then "&amp;".toList
  else if c = Char.ofNat 39 then "&apos;".toList
  else if c = '"' then "&quot;".toList
  else [c]

def escapeXml (value : String) : String := String.ofList (value.toList.flatMap escapeXmlChar)

/-- The change by `SetDNSServers`. The box undoes the escapes of what it is sent; `encode` is how it
escapes what it sends, and the plugin takes that as it comes. -/
def dnsEdit (encode : String → String) (dnsServer : String) :
    RestoredEdit String (Option String) where
  read servers := some (encode servers)
  unread := none
  put _ _ := dnsServer
  accepts after := (truthy after).any fun servers => includes servers.toList dnsServer.toList
  known before := (truthy before).isSome
  putBack before := before.getD ""

def changeDNS (encode : String → String) (fates : RequestFates) (ctx : Ctx)
    (dnsServer servers : String) : ActionResult × String :=
  match dryRunResult ctx ("set DNS server to " ++ dnsServer) with
  | some dry => (dry, servers)
  | none =>
    let r := (dnsEdit encode dnsServer).run fates servers
    (dnsResult ("DNS server set to " ++ dnsServer) r.1, r.2)

end FritzBox

namespace Linksys

/-- `wanSettings`, with its other members. -/
structure WANDns where
  dns1 : Option String
  staticDNS1 : Option String
  options : List (String × String)
deriving DecidableEq

structure WANSettings where
  wanSettings : Option WANDns
  rest : List (String × String)
deriving DecidableEq

def WANSettings.dns (s : WANSettings) : Option String × Option String :=
  (s.wanSettings.bind WANDns.dns1, s.wanSettings.bind WANDns.staticDNS1)

/-- `wanSettings?.dns1 || wanSettings?.staticDNS1`. -/
def WANSettings.afterDns (s : WANSettings) : Option String :=
  match truthy s.dns.1 with
  | some dns1 => some dns1
  | none => s.dns.2

def dnsEdit (dnsServer : String) : RestoredEdit WANSettings WANSettings where
  read s := s
  unread := ⟨none, []⟩
  put before _ := { before with
    wanSettings := some { before.wanSettings.getD ⟨none, none, []⟩ with
      dns1 := some dnsServer, staticDNS1 := some dnsServer } }
  accepts after := after.afterDns = some dnsServer
  known before := before.wanSettings.isSome
  putBack before := before

def changeDNS (fates : RequestFates) (ctx : Ctx) (dnsServer : String) (settings : WANSettings) :
    ActionResult × WANSettings :=
  match dryRunResult ctx ("set WAN DNS to " ++ dnsServer) with
  | some dry => (dry, settings)
  | none =>
    let r := (dnsEdit dnsServer).run fates settings
    (dnsResult ("WAN DNS set to " ++ dnsServer) r.1, r.2)

end Linksys

namespace OpenWrt

inductive UciValue where
  | text (value : String)
  | list (values : List String)
deriving DecidableEq

/-- `Array.isArray(value) ? value : value ? [value] : []`. -/
def afterValue (value : Option UciValue) : List String :=
  match value with
  | some (.list values) => values
  | some (.text value) => (truthy (some value)).toList
  | none => []

/-- What `uci get` of the option gives; a code other than 0 comes without a value. -/
def readDns (fate : QueryFate) (dns : Option UciValue) : Option UciValue :=
  match fate with
  | .answered => dns
  | .bare | .failed _ => none

/-- The option is set in the session, and read there; it is the router's once it is committed. The
code of the commit is not looked at, and the reload at the end cannot fail the change. -/
def changeDNS (fates : UbusFates) (ctx : Ctx) (dnsServer : String) (dns : Option UciValue) :
    ActionResult × Option UciValue :=
  match dryRunResult ctx ("set WAN DNS to " ++ dnsServer) with
  | some dry => (dry, dns)
  | none =>
    match login fates with
    | .error error => (fails ("changeDNS failed: " ++ error), dns)
    | .ok _ =>
      let before := readDns (fates.query 1) dns
      match fates.write 2 with
      | .refused error | .lost error => (fails ("changeDNS failed: " ++ error), dns)
      | .ignored => (fails ("uci.set failed (rc=" ++ toString (fates.rc 2) ++ ")"), dns)
      | .done =>
        let staged := some (UciValue.list [dnsServer])
        match (fates.write 3).perform (fun _ => staged) dns with
        | (.error error, dns) => (fails ("changeDNS failed: " ++ error), dns)
        | (.ok _, dns) =>
          if dnsServer ∈ afterValue (readDns (fates.query 4) staged) then
            (succeeds ("WAN DNS set to " ++ dnsServer), dns)
          else
            let restored := match before with
              | some value =>
                let staged := ((fates.write 5).perform (fun _ => some value) staged).2
                ((fates.write 6).perform (fun _ => staged) dns).2
              | none => dns
            (fails "DNS change did not verify — restored previous value", restored)

end OpenWrt

theorem includes_self (text : String) : includes text.toList text.toList = true := by
  simp [includes]

variable {S D : Type} {ctx : Ctx}

@[simp] theorem allOrNothing_succeeds {message : String} {before wanted after : D} :
    AllOrNothing before wanted (succeeds message) after ↔ after = wanted := by
  simp [AllOrNothing, succeeds]

@[simp] theorem allOrNothing_fails {message : String} {before wanted after : D} :
    AllOrNothing before wanted (fails message) after ↔ after = before := by
  simp [AllOrNothing, fails]

theorem allOrNothing_dnsResult (view : S → D) (wanted : D) (s : S) (message : String)
    (r : EditOutcome × S) :
    AllOrNothing (view s) wanted (dnsResult message r.1) (view r.2) ↔
      RestoredEdit.AllOrNothing view wanted s r := by
  unfold RestoredEdit.AllOrNothing
  cases r.1 with
  | verified => simp [dnsResult]
  | unverified => simp [dnsResult]
  | failed error => simp [dnsResult]

/-- A change and its answer keep the promise exactly when what became of the requests is safe. -/
theorem allOrNothing_run {V : Type} (e : RestoredEdit S V) (view : S → D) (wanted : D)
    (haccepts : e.accepts e.unread = false) (hknown : e.known e.unread = false)
    (hput : ∀ v s, view (e.put v s) = wanted) {fates : RequestFates}
    (hrestore : fates.write 3 = .done) (message : String) (s : S) :
    AllOrNothing (view s) wanted (dnsResult message (e.run fates s).1) (view (e.run fates s).2) ↔
      RestoredEdit.Safe (fates.write 1) (view s = wanted)
        (e.Accepts (fates.query 2) (e.put (e.look (fates.query 0) s) s)) (e.Knows (fates.query 0) s)
        (view (e.putBack (e.read s)) = view s) (e.Accepts (fates.query 2) s) :=
  (allOrNothing_dnsResult view wanted s message (e.run fates s)).trans
    (RestoredEdit.run_allOrNothing_iff haccepts hknown hput hrestore s)

/-- An empty server is passed over as `dns1`, and found as `staticDNS1`. -/
theorem Linksys.WANSettings.afterDns_eq {settings : WANSettings} {dnsServer : String}
    (h : settings.dns = (some dnsServer, some dnsServer)) : settings.afterDns = some dnsServer := by
  unfold afterDns
  rw [h]
  split
  next dns1 hdns1 => exact (Option.filter_eq_some_iff.mp hdns1).1.symm
  next => rfl

section Plugins

variable {fates : RequestFates} (hrestore : fates.write 3 = .done)
include hrestore

theorem MikroTik.changeDNS_allOrNothing (dnsServer : String) (router : MikroTikRouter) :
    AllOrNothing router.dnsServers dnsServer (changeDNS fates ctx (some dnsServer) router).1
        (changeDNS fates ctx (some dnsServer) router).2.dnsServers ↔
      if ctx.dryRun then router.dnsServers = dnsServer
      else RestoredEdit.Safe (fates.write 1) (router.dnsServers = dnsServer)
        (fates.query 2 = .answered ∧ dnsServer ≠ "")
        (fates.query 0 = .answered ∧ router.dnsServers ≠ "") True
        (fates.query 2 = .answered ∧ router.dnsServers ≠ "" ∧
          includes router.dnsServers.toList dnsServer.toList = true) := by
  unfold changeDNS dryRunResult
  cases ctx.dryRun with
  | true => exact allOrNothing_succeeds
  | false =>
    have hrun := allOrNothing_run (dnsEdit (some dnsServer)) id dnsServer rfl rfl (fun _ _ => rfl)
      hrestore ("DNS server set to " ++ dnsServer) router.dnsServers
    refine hrun.trans ?_
    simp [RestoredEdit.Accepts, RestoredEdit.Knows, dnsEdit, truthy, shown, includes_self]

theorem FritzBox.changeDNS_allOrNothing (encode : String → String) (dnsServer servers : String) :
    AllOrNothing servers dnsServer (changeDNS encode fates ctx dnsServer servers).1
        (changeDNS encode fates ctx dnsServer servers).2 ↔
      if ctx.dryRun then servers = dnsServer
      else RestoredEdit.Safe (fates.write 1) (servers = dnsServer)
        (fates.query 2 = .answered ∧ encode dnsServer ≠ "" ∧
          includes (encode dnsServer).toList dnsServer.toList = true)
        (fates.query 0 = .answered ∧ encode servers ≠ "") (encode servers = servers)
        (fates.query 2 = .answered ∧ encode servers ≠ "" ∧
          includes (encode servers).toList dnsServer.toList = true) := by
  unfold changeDNS dryRunResult
  cases ctx.dryRun with
  | true => exact allOrNothing_succeeds
  | false =>
    have hrun := allOrNothing_run (dnsEdit encode dnsServer) id dnsServer rfl rfl (fun _ _ => rfl)
      hrestore ("DNS server set to " ++ dnsServer) servers
    refine hrun.trans ?_
    simp [RestoredEdit.Accepts, RestoredEdit.Knows, dnsEdit, truthy]

theorem Linksys.changeDNS_allOrNothing (dnsServer : String) (settings : WANSettings) :
    AllOrNothing settings.dns (some dnsServer, some dnsServer)
        (changeDNS fates ctx dnsServer settings).1 (changeDNS fates ctx dnsServer settings).2.dns ↔
      if ctx.dryRun then settings.dns = (some dnsServer, some dnsServer)
      else RestoredEdit.Safe (fates.write 1) (settings.dns = (some dnsServer, some dnsServer))
        (fates.query 2 = .answered) (fates.query 0 = .answered ∧ settings.wanSettings.isSome = true)
        True (fates.query 2 = .answered ∧ settings.afterDns = some dnsServer) := by
  unfold changeDNS dryRunResult
  cases ctx.dryRun with
  | true => exact allOrNothing_succeeds
  | false =>
    have hunread : (dnsEdit dnsServer).accepts (dnsEdit dnsServer).unread = false := by
      simp [dnsEdit, WANSettings.afterDns, WANSettings.dns]
    have hverified : ∀ before, (dnsEdit dnsServer).Accepts (fates.query 2)
        ((dnsEdit dnsServer).put before settings) ↔ fates.query 2 = .answered := by
      intro before
      exact and_iff_left (decide_eq_true (WANSettings.afterDns_eq rfl))
    have hrun := allOrNothing_run (dnsEdit dnsServer) WANSettings.dns
      (some dnsServer, some dnsServer) hunread rfl (fun _ _ => rfl) hrestore
      ("WAN DNS set to " ++ dnsServer) settings
    refine hrun.trans ?_
    simp only [hverified]
    simp [RestoredEdit.Accepts, RestoredEdit.Knows, dnsEdit]

end Plugins

theorem OpenWrt.readDns_unknown {fate : QueryFate} {dns : Option UciValue}
    (h : ¬(fate = .answered ∧ dns.isSome = true)) : readDns fate dns = none := by
  cases fate with
  | answered => simpa [readDns] using h
  | bare => rfl
  | failed error => rfl

/-- A code other than 0 stops the change at `uci set`, and is not looked at when the change is
committed. -/
theorem OpenWrt.changeDNS_allOrNothing {fates : UbusFates} (hset : fates.write 5 = .done)
    (hcommit : fates.write 6 = .done) (dnsServer : String) (dns : Option UciValue) :
    AllOrNothing (afterValue dns) [dnsServer] (changeDNS fates ctx dnsServer dns).1
        (afterValue (changeDNS fates ctx dnsServer dns).2) ↔
      if ctx.dryRun then afterValue dns = [dnsServer]
      else (∃ error, login fates = .error error) ∨ fates.write 2 ≠ .done ∨
        RestoredEdit.Safe (fates.write 3) (afterValue dns = [dnsServer])
          (fates.query 4 = .answered) (fates.query 1 = .answered ∧ dns.isSome = true) True
          (fates.query 4 = .answered) := by
  unfold changeDNS dryRunResult
  cases ctx.dryRun with
  | true => exact allOrNothing_succeeds
  | false =>
    cases login fates with
    | error error => simp
    | ok _ =>
      cases fates.write 2 with
      | refused error => simp
      | lost error => simp
      | ignored => simp
      | done =>
        have hverified : dnsServer ∈ afterValue (readDns (fates.query 4)
            (some (.list [dnsServer]))) ↔ fates.query 4 = .answered := by
          cases fates.query 4 with
          | answered => simp [readDns, afterValue]
          | bare => simp [readDns, afterValue]
          | failed error => simp [readDns, afterValue]
        have hback : afterValue (some (.list [dnsServer])) = afterValue dns ↔
            afterValue dns = [dnsServer] := eq_comm
        simp only [hset, hcommit, WriteFate.perform, hverified, RestoredEdit.Safe]
        cases fates.write 3 with
        | refused error => simp
        | lost error => simp [hback]
        | done =>
          by_cases hafter : fates.query 4 = .answered
          · simp [hafter, afterValue]
          · by_cases hknown : fates.query 1 = .answered ∧ dns.isSome = true
            · obtain ⟨value, rfl⟩ := Option.isSome_iff_exists.mp hknown.2
              simp [hafter, hknown.1, readDns]
            · simp [hafter, hknown, readDns_unknown hknown, hback]
        | ignored =>
          by_cases hafter : fates.query 4 = .answered
          · simp [hafter]
          · by_cases hknown : fates.query 1 = .answered ∧ dns.isSome = true
            · obtain ⟨value, rfl⟩ := Option.isSome_iff_exists.mp hknown.2
              simp [hafter, hknown.1, readDns]
            · simp [hafter, hknown, readDns_unknown hknown]

/-- For each of the four plugins, when a restore that is made succeeds: the DNS setting is as wanted
after a success and as before after a failure, exactly when a dry run has nothing to change, or else
what became of the write and of the two readings is safe. -/
theorem changeDNS_contract_iff (ctx : Ctx) (dnsServer : String) (fates : RequestFates)
    (hrestore : fates.write 3 = .done) (ubus : OpenWrt.UbusFates) (hset : ubus.write 5 = .done)
    (hcommit : ubus.write 6 = .done) :
    (∀ router : MikroTik.MikroTikRouter,
      AllOrNothing router.dnsServers dnsServer
          (MikroTik.changeDNS fates ctx (some dnsServer) router).1
          (MikroTik.changeDNS fates ctx (some dnsServer) router).2.dnsServers ↔
        if ctx.dryRun then router.dnsServers = dnsServer
        else RestoredEdit.Safe (fates.write 1) (router.dnsServers = dnsServer)
          (fates.query 2 = .answered ∧ dnsServer ≠ "")
          (fates.query 0 = .answered ∧ router.dnsServers ≠ "") True
          (fates.query 2 = .answered ∧ router.dnsServers ≠ "" ∧
            includes router.dnsServers.toList dnsServer.toList = true)) ∧
    (∀ dns : Option OpenWrt.UciValue,
      AllOrNothing (OpenWrt.afterValue dns) [dnsServer] (OpenWrt.changeDNS ubus ctx dnsServer dns).1
          (OpenWrt.afterValue (OpenWrt.changeDNS ubus ctx dnsServer dns).2) ↔
        if ctx.dryRun then OpenWrt.afterValue dns = [dnsServer]
        else (∃ error, OpenWrt.login ubus = .error error) ∨ ubus.write 2 ≠ .done ∨
          RestoredEdit.Safe (ubus.write 3) (OpenWrt.afterValue dns = [dnsServer])
            (ubus.query 4 = .answered) (ubus.query 1 = .answered ∧ dns.isSome = true) True
            (ubus.query 4 = .answered)) ∧
    (∀ (encode : String → String) (servers : String),
      AllOrNothing servers dnsServer (FritzBox.changeDNS encode fates ctx dnsServer servers).1
          (FritzBox.changeDNS encode fates ctx dnsServer servers).2 ↔
        if ctx.dryRun then servers = dnsServer
        else RestoredEdit.Safe (fates.write 1) (servers = dnsServer)
          (fates.query 2 = .answered ∧ encode dnsServer ≠ "" ∧
            includes (encode dnsServer).toList dnsServer.toList = true)
          (fates.query 0 = .answered ∧ encode servers ≠ "") (encode servers = servers)
          (fates.query 2 = .answered ∧ encode servers ≠ "" ∧
            includes (encode servers).toList dnsServer.toList = true)) ∧
    (∀ settings : Linksys.WANSettings,
      AllOrNothing settings.dns (some dnsServer, some dnsServer)
          (Linksys.changeDNS fates ctx dnsServer settings).1
          (Linksys.changeDNS fates ctx dnsServer settings).2.dns ↔
        if ctx.dryRun then settings.dns = (some dnsServer, some dnsServer)
        else RestoredEdit.Safe (fates.write 1) (settings.dns = (some dnsServer, some dnsServer))
          (fates.query 2 = .answered)
          (fates.query 0 = .answered ∧ settings.wanSettings.isSome = true) True
          (fates.query 2 = .answered ∧ settings.afterDns = some dnsServer)) := by
  refine ⟨?_, ?_, ?_, ?_⟩
  · intro router
    exact MikroTik.changeDNS_allOrNothing hrestore dnsServer router
  · intro dns
    exact OpenWrt.changeDNS_allOrNothing hset hcommit dnsServer dns
  · intro encode servers
    exact FritzBox.changeDNS_allOrNothing hrestore encode dnsServer servers
  · intro settings
    exact Linksys.changeDNS_allOrNothing hrestore dnsServer settings

/-- With the reading that verifies failing, all four put back what they read first. -/
def unverifiable : RequestFates where
  query n := if n = 2 ∨ n = 4 then .failed "timeout" else .answered
  write _ := .done

def providerDns : Linksys.WANSettings :=
  ⟨some ⟨some "192.168.1.1", some "192.168.1.1", [("wanType", "DHCP")]⟩, [("mtu", "1500")]⟩

theorem changeDNS_contract_unverifiable :
    AllOrNothing MikroTik.ownersEntry.dnsServers "1.1.1.1"
        (MikroTik.changeDNS unverifiable gatewayContext (some "1.1.1.1") MikroTik.ownersEntry).1
        (MikroTik.changeDNS unverifiable gatewayContext (some "1.1.1.1")
          MikroTik.ownersEntry).2.dnsServers ∧
      AllOrNothing providerDns.dns (some "1.1.1.1", some "1.1.1.1")
        (Linksys.changeDNS unverifiable gatewayContext "1.1.1.1" providerDns).1
        (Linksys.changeDNS unverifiable gatewayContext "1.1.1.1" providerDns).2.dns := by
  have hcontract := changeDNS_contract_iff gatewayContext "1.1.1.1" unverifiable rfl
    ⟨unverifiable, fun _ => 0⟩ rfl rfl
  refine ⟨(hcontract.1 _).mpr ?_, (hcontract.2.2.2 _).mpr ?_⟩
  · exact .inr (.inl ⟨⟨rfl, by decide⟩, trivial⟩)
  · exact .inr (.inl ⟨⟨rfl, rfl⟩, trivial⟩)

/-- MikroTik: the answer to the write is lost. OpenWrt: the commit returns an error code. FRITZ!Box:
the write has no effect, and the old server contains the wanted one. Linksys: neither reading gets
through. -/
theorem changeDNS_breaks :
    (¬∀ fates : RequestFates, fates.write 3 = .done → ∀ router : MikroTik.MikroTikRouter,
      AllOrNothing router.dnsServers "1.1.1.1"
        (MikroTik.changeDNS fates gatewayContext (some "1.1.1.1") router).1
        (MikroTik.changeDNS fates gatewayContext (some "1.1.1.1") router).2.dnsServers) ∧
    (¬∀ fates : OpenWrt.UbusFates, fates.write 5 = .done → fates.write 6 = .done → ∀ dns,
      AllOrNothing (OpenWrt.afterValue dns) ["1.1.1.1"]
        (OpenWrt.changeDNS fates gatewayContext "1.1.1.1" dns).1
        (OpenWrt.afterValue (OpenWrt.changeDNS fates gatewayContext "1.1.1.1" dns).2)) ∧
    (¬∀ fates : RequestFates, fates.write 3 = .done → ∀ servers,
      AllOrNothing servers "1.1.1.1"
        (FritzBox.changeDNS FritzBox.escapeXml fates gatewayContext "1.1.1.1" servers).1
        (FritzBox.changeDNS FritzBox.escapeXml fates gatewayContext "1.1.1.1" servers).2) ∧
    (¬∀ fates : RequestFates, fates.write 3 = .done → ∀ settings,
      AllOrNothing settings.dns (some "1.1.1.1", some "1.1.1.1")
        (Linksys.changeDNS fates gatewayContext "1.1.1.1" settings).1
        (Linksys.changeDNS fates gatewayContext "1.1.1.1" settings).2.dns) := by
  refine ⟨?_, ?_, ?_, ?_⟩
  · intro h
    have hlost := h ⟨fun _ => .answered, fun n => if n = 1 then .lost "timeout" else .done⟩ rfl
      MikroTik.ownersEntry
    exact absurd (hlost.2 (by decide)) (by decide)
  · intro h
    have hignored := h ⟨⟨fun _ => .answered, fun n => if n = 3 then .ignored else .done⟩, fun _ => 6⟩
      rfl rfl (some (.list ["192.168.1.1"]))
    exact absurd (hignored.1 (by decide)) (by decide)
  · intro h
    have hignored := h ⟨fun _ => .answered, fun n => if n = 1 then .ignored else .done⟩ rfl "11.1.1.1"
    exact absurd (hignored.1 (by decide +kernel)) (by decide +kernel)
  · intro h
    have hunread := h ⟨fun _ => .failed "timeout", fun _ => .done⟩ rfl providerDns
    have hchanged : some "1.1.1.1" = some "192.168.1.1" := congrArg Prod.fst (hunread.2 (by decide))
    exact absurd hchanged (by decide)

end GuardTime
