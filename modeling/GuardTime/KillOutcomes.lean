import GuardTime.ConntrackController
import GuardTime.KillerRuns

namespace GuardTime

namespace ConnectionKiller

open Conntrack

/-- How the runs of `conntrack` for one address end: those of the listing, and those of every
attempt at the kill. -/
structure AddressExecs where
  listing : Args → Exec
  attempts : Nat → Args → Exec

/-- What the kill of one address did: the runs of each attempt, and whether it fulfilled. -/
structure AddressKill where
  ip : String
  attempts : List (List (Args × Exec))
  fulfilled : Bool

/-- What the controllers behind the killer answer. The reset catches every failure of its own. -/
def controllerFate (config : Config) (execs : AddressExecs) (ip : String) : AddressFate where
  flows := (listTcpConnections config execs.listing ip).2
  conntrackKill attempt := (Conntrack.killDevice config (execs.attempts attempt) ip).2.isSome
  tcpResetKill := true

/-- `_killAddress` over the real controllers. -/
def killAddressRuns (config : Config) (execs : AddressExecs) (ip : String) : AddressKill :=
  let fate := controllerFate config execs ip
  ⟨ip, (List.range (retry fate.conntrackKill 1 3).1).map fun i =>
    (Conntrack.killDevice config (execs.attempts (i + 1)) ip).1, (killAddressCalls fate ip).2⟩

/-- What `_killOne` does, and which of its counters it raises. -/
structure KillOutcome where
  addresses : List AddressKill
  killed : Bool
  failed : Bool

def killOneOutcome (config : Config) (execs : Nat → AddressExecs) (target : Target) : KillOutcome :=
  let results := (addressesOf target).mapIdx fun i ip => killAddressRuns config (execs i) ip
  ⟨results, results.any AddressKill.fulfilled, results.any fun result => !result.fulfilled⟩

def RunFailed (r : Args × Exec) : Prop := ∃ stdout, r.2 = .failed stdout

/-- Both deletions ran, and each of them succeeded or found nothing. -/
def CleanAttempt (ip : String) (runs : List (Args × Exec)) : Prop :=
  runs.map Prod.fst = [.delete .source ip, .delete .destination ip] ∧ ∀ r ∈ runs, ¬RunFailed r

/-- The deletion of an address is issued again after an attempt with a failure, up to three times. -/
def Reissues (kill : AddressKill) : Prop :=
  ∀ i runs, kill.attempts[i]? = some runs → (∃ r ∈ runs, RunFailed r) → i + 1 < 3 →
    ∃ again, kill.attempts[i + 1]? = some again ∧ again ≠ []

def SomeClean (outcome : KillOutcome) : Prop :=
  ∃ kill ∈ outcome.addresses, ∃ runs ∈ kill.attempts, CleanAttempt kill.ip runs

/-- A kill is repeated where it failed, and counted as what it was. -/
def CountsTruly (outcome : KillOutcome) : Prop :=
  (∀ kill ∈ outcome.addresses, Reissues kill) ∧ (outcome.killed = true → SomeClean outcome) ∧
    (¬SomeClean outcome → outcome.failed = true)

variable {config : Config} {execs : Nat → AddressExecs} {target : Target} {ip : String}

theorem addressesOf_ne_empty (h : ip ∈ addressesOf target) : ip ≠ "" := by
  simp only [addressesOf, List.mem_append, Option.mem_toList] at h
  rcases h with h | h
  · exact truthy_ne h
  · exact truthy_ne h

/-- The controller reports no failure, so the kill of an address is tried once and fulfils. -/
theorem killAddressRuns_eq (execs : AddressExecs) (hip : ip ≠ "") :
    killAddressRuns config execs ip =
      ⟨ip, [(Conntrack.killDevice config (execs.attempts 1) ip).1], true⟩ := by
  have hfulfils : (controllerFate config execs ip).conntrackKill = fun _ => true := by
    funext attempt
    simp only [controllerFate, killDevice_eq config (execs.attempts attempt) hip, Option.isSome_some]
  have hretry : retry (fun _ => true) 1 3 = (1, true) := rfl
  simp only [killAddressRuns, killAddressCalls, hfulfils, hretry]
  rfl

/-- In a real run with the conntrack kill on, the one attempt runs both deletions. -/
theorem killAddressRuns_live (execs : AddressExecs) (hip : ip ≠ "")
    (hon : config.enableConntrackKill = true) (hlive : config.dryRun = false) :
    killAddressRuns config execs ip =
      ⟨ip, [[(.delete .source ip, execs.attempts 1 (.delete .source ip)),
        (.delete .destination ip, execs.attempts 1 (.delete .destination ip))]], true⟩ := by
  rw [killAddressRuns_eq execs hip, killDevice_eq _ _ hip]
  simp [started, hon, hlive]

theorem killAddressRuns_idle (execs : AddressExecs) (hip : ip ≠ "")
    (hidle : config.enableConntrackKill = false ∨ config.dryRun = true) :
    killAddressRuns config execs ip = ⟨ip, [[]], true⟩ := by
  rw [killAddressRuns_eq execs hip, killDevice_eq _ _ hip]
  rcases hidle with h | h
  · simp [h]
  · simp [started, h]

theorem mem_addresses {kill : AddressKill} (h : kill ∈ (killOneOutcome config execs target).addresses) :
    ∃ i ip, (addressesOf target)[i]? = some ip ∧ kill = killAddressRuns config (execs i) ip := by
  obtain ⟨i, hi, heq⟩ := List.mem_mapIdx.mp h
  exact ⟨i, _, List.getElem?_eq_getElem hi, heq.symm⟩

theorem exists_first_address (h : addressesOf target ≠ []) :
    ∃ ip, (addressesOf target)[0]? = some ip := by
  obtain ⟨ip, rest, hips⟩ := List.exists_cons_of_ne_nil h
  exact ⟨ip, by rw [hips]; rfl⟩

theorem mem_addresses_of (config : Config) (execs : Nat → AddressExecs) {i : Nat}
    (h : (addressesOf target)[i]? = some ip) :
    killAddressRuns config (execs i) ip ∈ (killOneOutcome config execs target).addresses := by
  obtain ⟨hi, heq⟩ := List.getElem?_eq_some_iff.mp h
  exact List.mem_mapIdx.mpr ⟨i, hi, by rw [heq]⟩

theorem killOneOutcome_counts (config : Config) (execs : Nat → AddressExecs)
    (hne : addressesOf target ≠ []) :
    (killOneOutcome config execs target).killed = true ∧
      (killOneOutcome config execs target).failed = false := by
  have hfulfilled : ∀ kill ∈ (killOneOutcome config execs target).addresses,
      kill.fulfilled = true := by
    intro kill hkill
    obtain ⟨i, ip, hget, rfl⟩ := mem_addresses hkill
    rw [killAddressRuns_eq _ (addressesOf_ne_empty (List.mem_of_getElem? hget))]
  refine ⟨?_, ?_⟩
  · obtain ⟨ip, hfirst⟩ := exists_first_address hne
    have hmem := mem_addresses_of config execs hfirst
    exact List.any_eq_true.mpr ⟨_, hmem, hfulfilled _ hmem⟩
  · refine List.any_eq_false.mpr ?_
    intro kill hkill
    simp [hfulfilled kill hkill]

/-- With the conntrack kill on, a kill is repeated and counted as it should be just where the first
attempt at every address is clean. -/
theorem countsTruly_iff (hne : addressesOf target ≠ [])
    (hon : config.enableConntrackKill = true) (hlive : config.dryRun = false) :
    CountsTruly (killOneOutcome config execs target) ↔
      ∀ i ip, (addressesOf target)[i]? = some ip → ∀ direction stdout,
        (execs i).attempts 1 (.delete direction ip) ≠ .failed stdout := by
  have hlist : ∀ i ip, (addressesOf target)[i]? = some ip →
      killAddressRuns config (execs i) ip = _ := fun i ip hget =>
    killAddressRuns_live (execs i) (addressesOf_ne_empty (List.mem_of_getElem? hget)) hon hlive
  refine ⟨?_, ?_⟩
  · intro h i ip hget direction stdout hfailed
    have hreissues := h.1 _ (mem_addresses_of config execs hget)
    rw [hlist i ip hget] at hreissues
    obtain ⟨again, hagain, -⟩ := hreissues 0 _ rfl
      (by cases direction with
        | source => exact ⟨_, List.mem_cons_self, stdout, hfailed⟩
        | destination => exact ⟨_, List.mem_cons_of_mem _ List.mem_cons_self, stdout, hfailed⟩)
      (by decide)
    cases hagain
  · intro hclean
    have hattempt : ∀ i ip, (addressesOf target)[i]? = some ip →
        CleanAttempt ip [(.delete .source ip, (execs i).attempts 1 (.delete .source ip)),
          (.delete .destination ip, (execs i).attempts 1 (.delete .destination ip))] := by
      intro i ip hget
      refine ⟨rfl, ?_⟩
      intro r hr hfailed
      obtain ⟨stdout, hfailed⟩ := hfailed
      rcases List.mem_cons.mp hr with rfl | hr
      · exact hclean i ip hget _ stdout hfailed
      · rw [List.mem_singleton.mp hr] at hfailed
        exact hclean i ip hget _ stdout hfailed
    have hsome : SomeClean (killOneOutcome config execs target) := by
      obtain ⟨ip, hfirst⟩ := exists_first_address hne
      have hmem := mem_addresses_of config execs hfirst
      rw [hlist 0 ip hfirst] at hmem
      exact ⟨_, hmem, _, List.mem_cons_self, hattempt 0 ip hfirst⟩
    refine ⟨?_, fun _ => hsome, fun hnone => absurd hsome hnone⟩
    intro kill hkill i runs hruns hfailed _
    obtain ⟨j, ip, hget, rfl⟩ := mem_addresses hkill
    rw [hlist j ip hget] at hruns
    cases i with
    | zero =>
      obtain rfl := Option.some.inj hruns
      obtain ⟨r, hr, hfailed⟩ := hfailed
      exact absurd hfailed ((hattempt j ip hget).2 r hr)
    | succ i => cases hruns

/-- The conntrack kill reports no failure to the retry: repetition and counters are right exactly
where the first attempt at every address had nothing to report. -/
theorem kill_counts_truly (config : Config) (execs : Nat → AddressExecs) (target : Target) :
    (addressesOf target ≠ [] → config.enableConntrackKill = true → config.dryRun = false →
      (CountsTruly (killOneOutcome config execs target) ↔
        ∀ i ip, (addressesOf target)[i]? = some ip → ∀ direction stdout,
          (execs i).attempts 1 (.delete direction ip) ≠ .failed stdout)) ∧
    (config.enableConntrackKill = false ∨ config.dryRun = true →
      ∀ kill ∈ (killOneOutcome config execs target).addresses, ∀ runs ∈ kill.attempts, runs = []) := by
  refine ⟨fun hne hon hlive => countsTruly_iff hne hon hlive, ?_⟩
  intro hidle kill hkill runs hruns
  obtain ⟨i, ip, hget, rfl⟩ := mem_addresses hkill
  rw [killAddressRuns_idle _ (addressesOf_ne_empty (List.mem_of_getElem? hget)) hidle] at hruns
  exact List.mem_singleton.mp hruns

/-- Where every command fails, each address is tried once and the kill is counted as done. -/
theorem kill_counts_truly_swallowed :
    let execs : Nat → AddressExecs := fun _ => ⟨fun _ => .failed [], fun _ _ => .failed []⟩
    let outcome := killOneOutcome sampleConfig execs blockedDevice
    (∀ kill ∈ outcome.addresses, kill.attempts.length = 1) ∧ outcome.killed = true ∧
      outcome.failed = false ∧ ¬CountsTruly outcome := by
  intro execs outcome
  have hne : addressesOf blockedDevice ≠ [] := by decide
  obtain ⟨hkilled, hfailed⟩ := killOneOutcome_counts sampleConfig execs hne
  refine ⟨?_, hkilled, hfailed, ?_⟩
  · intro kill hkill
    obtain ⟨i, ip, hget, rfl⟩ := mem_addresses hkill
    rw [killAddressRuns_eq _ (addressesOf_ne_empty (List.mem_of_getElem? hget))]
    rfl
  · rw [countsTruly_iff hne rfl rfl]
    intro h
    exact h 0 "192.168.1.50" (by decide) .source [] rfl

end ConnectionKiller

end GuardTime
