import GuardTime.GuardedRuns
import GuardTime.OrderedMap
import GuardTime.QosController

namespace GuardTime

namespace DnsResolveCache

structure CacheEntry where
  ips : List String
  expiresAt : Int
deriving DecidableEq

abbrev Cache := OrderedMap String CacheEntry

/-- A domain whose answer a call awaits, with the entry it found there before. -/
structure Lookup where
  domain : String
  cached : Option CacheEntry
deriving DecidableEq

/-- A call of `resolveAll` that began at `now`. -/
structure Call where
  now : Int
  results : List String
  awaited : List Lookup
deriving DecidableEq

/-- `results.add` for each address; a set keeps the order of first additions. -/
def addAll (results ips : List String) : List String := (results ++ ips).eraseDups

def Call.add (call : Call) (ips : List String) : Call :=
  { call with results := addAll call.results ips }

/-- The callback of one domain up to its `await`. -/
def Call.visit (cache : Cache) (call : Call) (domain : String) : Call :=
  match cache.get domain with
  | some cached =>
    if cached.expiresAt > call.now then call.add cached.ips
    else { call with awaited := call.awaited ++ [⟨domain, some cached⟩] }
  | none => { call with awaited := call.awaited ++ [⟨domain, none⟩] }

def Call.start (cache : Cache) (now : Int) (domains : List String) : Call :=
  domains.foldl (Call.visit cache) ⟨now, [], []⟩

/-- The rest of the callback of a lookup, after `dns.resolve4` has answered or failed. -/
def Call.settle (ttlMs : Int) (cache : Cache) (call : Call) (lookup : Lookup) :
    Option (List String) → Cache × Call
  | some ips => (cache.set lookup.domain ⟨ips, call.now + ttlMs⟩, call.add ips)
  | none => (cache, match lookup.cached with
    | some cached => call.add cached.ips
    | none => call)

structure State where
  cache : Cache
  calls : List Call

def State.initial : State := ⟨OrderedMap.empty, []⟩

/-- Lookups settle in any order, also those of different calls. -/
inductive Event where
  | resolveAll (now : Int) (domains : List String)
  | settled (call lookup : Nat) (answer : Option (List String))

/-- The lookup that an event settles, and its call. -/
def State.awaits (s : State) (call lookup : Nat) : Option (Call × Lookup) :=
  (s.calls[call]?).bind fun c => (c.awaited[lookup]?).map fun l => (c, l)

def State.step (ttlMs : Int) (s : State) : Event → Option State
  | .resolveAll now domains => some { s with calls := s.calls ++ [Call.start s.cache now domains] }
  | .settled call lookup answer => (s.awaits call lookup).map fun (c, l) =>
    let r := c.settle ttlMs s.cache l answer
    ⟨r.1, s.calls.set call { r.2 with awaited := r.2.awaited.eraseIdx lookup }⟩

structure Settlement where
  call : Nat
  now : Int
  domain : String
  answer : Option (List String)
deriving DecidableEq

def State.settlement (s : State) : Event → Option Settlement
  | .resolveAll _ _ => none
  | .settled call lookup answer => (s.awaits call lookup).map fun (c, l) =>
    ⟨call, c.now, l.domain, answer⟩

def settlements (ttlMs : Int) : State → List Event → List Settlement
  | _, [] => []
  | s, e :: es => (s.settlement e).toList ++
    ((s.step ttlMs e).map fun s' => settlements ttlMs s' es).getD []

/-- The entry of a domain after some settlements: its last answer. -/
def latest (ttlMs : Int) (log : List Settlement) (domain : String) : Option CacheEntry :=
  (log.reverse.filter fun s => s.domain = domain).findSome? fun s =>
    s.answer.map fun ips => ⟨ips, s.now + ttlMs⟩

@[simp] theorem mem_addAll {results ips : List String} {ip : String} :
    ip ∈ addAll results ips ↔ ip ∈ results ∨ ip ∈ ips := by
  rw [addAll, List.mem_eraseDups, List.mem_append]

section Start

variable {cache : Cache} {now : Int} {domains : List String} {call : Call} {domain ip : String}

theorem visit_now : (call.visit cache domain).now = call.now := by
  unfold Call.visit
  split
  next => split <;> rfl
  next => rfl

theorem visit_results : ip ∈ (call.visit cache domain).results ↔ ip ∈ call.results ∨
    ∃ cached, cache.get domain = some cached ∧ call.now < cached.expiresAt ∧ ip ∈ cached.ips := by
  unfold Call.visit
  split
  next cached hget =>
    split
    next hfresh => simp [Call.add, hget, hfresh]
    next hstale => simp [hget, hstale]
  next hget => simp [hget]

theorem visit_awaited {lookup : Lookup} : lookup ∈ (call.visit cache domain).awaited ↔
    lookup ∈ call.awaited ∨ (lookup = ⟨domain, cache.get domain⟩ ∧
      ∀ cached, cache.get domain = some cached → cached.expiresAt ≤ call.now) := by
  unfold Call.visit
  split
  next cached hget =>
    split
    next hfresh =>
      have hnot : ¬cached.expiresAt ≤ call.now := by omega
      simp [Call.add, hget, hnot]
    next hstale =>
      have hle : cached.expiresAt ≤ call.now := by omega
      simp [hget, hle]
  next hget => simp [hget]

theorem start_results : ip ∈ (Call.start cache now domains).results ↔ ∃ domain ∈ domains,
    ∃ cached, cache.get domain = some cached ∧ now < cached.expiresAt ∧ ip ∈ cached.ips := by
  suffices h : ∀ call : Call, ip ∈ (domains.foldl (Call.visit cache) call).results ↔
      ip ∈ call.results ∨ ∃ domain ∈ domains, ∃ cached, cache.get domain = some cached ∧
        call.now < cached.expiresAt ∧ ip ∈ cached.ips by
    simpa [Call.start] using h ⟨now, [], []⟩
  induction domains with
  | nil => simp
  | cons domain domains ih =>
    intro call
    rw [List.foldl_cons, ih, visit_results, visit_now, or_assoc]
    simp only [List.mem_cons, exists_eq_or_imp]

theorem start_awaited {lookup : Lookup} : lookup ∈ (Call.start cache now domains).awaited ↔
    lookup.domain ∈ domains ∧ lookup.cached = cache.get lookup.domain ∧
      ∀ cached, cache.get lookup.domain = some cached → cached.expiresAt ≤ now := by
  suffices h : ∀ call : Call, lookup ∈ (domains.foldl (Call.visit cache) call).awaited ↔
      lookup ∈ call.awaited ∨ (lookup.domain ∈ domains ∧ lookup.cached = cache.get lookup.domain ∧
        ∀ cached, cache.get lookup.domain = some cached → cached.expiresAt ≤ call.now) by
    simpa [Call.start] using h ⟨now, [], []⟩
  induction domains with
  | nil => simp
  | cons domain domains ih =>
    intro call
    rw [List.foldl_cons, ih, visit_awaited, visit_now, or_assoc]
    refine or_congr_right ?_
    obtain ⟨asked, cached⟩ := lookup
    rw [Lookup.mk.injEq, List.mem_cons, or_and_right]
    refine or_congr_left ?_
    refine ⟨?_, ?_⟩
    · rintro ⟨⟨rfl, rfl⟩, hstale⟩
      exact ⟨rfl, rfl, hstale⟩
    · rintro ⟨rfl, hcached, hstale⟩
      exact ⟨⟨rfl, hcached⟩, hstale⟩

end Start

section Runs

variable {ttlMs : Int} {s s' : State} {es : List Event}

theorem awaits_iff {call lookup : Nat} {c : Call} {l : Lookup} :
    s.awaits call lookup = some (c, l) ↔
      s.calls[call]? = some c ∧ c.awaited[lookup]? = some l := by
  simp only [State.awaits, Option.bind_eq_some_iff, Option.map_eq_some_iff, Prod.mk.injEq]
  refine ⟨?_, ?_⟩
  · rintro ⟨c', hc, l', hl, rfl, rfl⟩
    exact ⟨hc, hl⟩
  · rintro ⟨hc, hl⟩
    exact ⟨c, hc, l, hl, rfl, rfl⟩

theorem step_cases {e : Event} (h : s.step ttlMs e = some s') :
    (∃ now domains, e = .resolveAll now domains ∧ s.settlement e = none ∧
      s' = { s with calls := s.calls ++ [Call.start s.cache now domains] }) ∨
    (∃ call lookup answer c l, e = .settled call lookup answer ∧ s.calls[call]? = some c ∧
      c.awaited[lookup]? = some l ∧ s.settlement e = some ⟨call, c.now, l.domain, answer⟩ ∧
      s' = ⟨(c.settle ttlMs s.cache l answer).1, s.calls.set call
        { (c.settle ttlMs s.cache l answer).2 with
          awaited := (c.settle ttlMs s.cache l answer).2.awaited.eraseIdx lookup }⟩) := by
  cases e with
  | resolveAll now domains => exact Or.inl ⟨now, domains, rfl, rfl, (Option.some.inj h).symm⟩
  | settled call lookup answer =>
    obtain ⟨⟨c, l⟩, hawaits, hs'⟩ := Option.map_eq_some_iff.mp h
    obtain ⟨hc, hl⟩ := awaits_iff.mp hawaits
    refine Or.inr ⟨call, lookup, answer, c, l, rfl, hc, hl, ?_, hs'.symm⟩
    simp [State.settlement, hawaits]

theorem settlements_cons {e : Event} (h : s.step ttlMs e = some s') :
    settlements ttlMs s (e :: es) = (s.settlement e).toList ++ settlements ttlMs s' es := by
  simp [settlements, h]

theorem latest_cons (st : Settlement) (log : List Settlement) (domain : String) :
    latest ttlMs (st :: log) domain = (latest ttlMs log domain).or
      (if st.domain = domain then st.answer.map fun ips => ⟨ips, st.now + ttlMs⟩ else none) := by
  rw [latest, List.reverse_cons, List.filter_append, List.findSome?_append, ← latest]
  split
  next hd => simp [hd]
  next hd => simp [hd]

theorem settle_cache (cache : Cache) (c : Call) (l : Lookup) (answer : Option (List String))
    (domain : String) : (c.settle ttlMs cache l answer).1.get domain =
      (if l.domain = domain then answer.map fun ips => (⟨ips, c.now + ttlMs⟩ : CacheEntry)
        else none).or (cache.get domain) := by
  cases answer with
  | none => simp [Call.settle]
  | some ips =>
    by_cases hd : domain = l.domain
    · simp [Call.settle, hd]
    · simp [Call.settle, OrderedMap.get_set, hd, Ne.symm hd]

theorem settle_results {cache : Cache} {c : Call} {l : Lookup} {answer : Option (List String)}
    {ip : String} : ip ∈ (c.settle ttlMs cache l answer).2.results ↔ ip ∈ c.results ∨
      ip ∈ answer.getD ((l.cached.map CacheEntry.ips).getD []) := by
  cases answer with
  | some ips => simp [Call.settle, Call.add]
  | none => cases hcached : l.cached <;> simp [Call.settle, Call.add, hcached]

theorem settle_awaited {cache : Cache} {c : Call} {l : Lookup} {answer : Option (List String)} :
    (c.settle ttlMs cache l answer).2.now = c.now ∧
      (c.settle ttlMs cache l answer).2.awaited = c.awaited := by
  cases answer with
  | some ips => exact ⟨rfl, rfl⟩
  | none => cases hcached : l.cached <;> simp [Call.settle, Call.add, hcached]

/-- The cache is what the settlements of the run leave over what was there. -/
theorem run_cache (h : runEvents (State.step ttlMs) s es = some s') (domain : String) :
    s'.cache.get domain =
      (latest ttlMs (settlements ttlMs s es) domain).or (s.cache.get domain) := by
  induction es generalizing s with
  | nil => simp [← Option.some.inj h, settlements, latest]
  | cons e es ih =>
    obtain ⟨next, hstep, hrest⟩ := runEvents_cons h
    rw [ih hrest, settlements_cons hstep]
    rcases step_cases hstep with ⟨now, domains, -, hnone, rfl⟩ |
      ⟨call, lookup, answer, c, l, -, hc, hl, hsome, rfl⟩
    · rw [hnone, Option.toList_none, List.nil_append]
    · rw [hsome, Option.toList_some, List.singleton_append, latest_cons, Option.or_assoc]
      simp only [settle_cache]

/-- How a call goes on while some lookups settle, if `known` are the entries it found. -/
structure Call.Follows (known : String → Option CacheEntry) (k : Nat) (log : List Settlement)
    (c c' : Call) : Prop where
  now : c'.now = c.now
  awaited : ∀ l ∈ c'.awaited, l ∈ c.awaited
  asked : ∀ st ∈ log, st.call = k → ∃ l ∈ c.awaited, l.domain = st.domain
  settled : ∀ l ∈ c.awaited, l ∈ c'.awaited ∨ ∃ st ∈ log, st.call = k ∧ st.domain = l.domain
  results : ∀ ip, ip ∈ c'.results ↔ ip ∈ c.results ∨ ∃ st ∈ log, st.call = k ∧
    ip ∈ st.answer.getD (((known st.domain).map CacheEntry.ips).getD [])

variable {known : String → Option CacheEntry} {k : Nat} {c c' c'' : Call}

theorem Call.Follows.refl {log : List Settlement} (hlog : ∀ st ∈ log, st.call ≠ k) :
    c.Follows known k log c where
  now := rfl
  awaited _ h := h
  asked st hst hk := absurd hk (hlog st hst)
  settled _ h := Or.inl h
  results ip := by
    refine ⟨Or.inl, ?_⟩
    rintro (h | ⟨st, hst, hk, -⟩)
    · exact h
    · exact absurd hk (hlog st hst)

theorem Call.Follows.trans {log log' : List Settlement} (h : c.Follows known k log c')
    (h' : c'.Follows known k log' c'') : c.Follows known k (log ++ log') c'' where
  now := h'.now.trans h.now
  awaited l hl := h.awaited l (h'.awaited l hl)
  asked st hst hk := by
    rcases List.mem_append.mp hst with hst | hst
    · exact h.asked st hst hk
    · obtain ⟨l, hl, hdomain⟩ := h'.asked st hst hk
      exact ⟨l, h.awaited l hl, hdomain⟩
  settled l hl := by
    rcases h.settled l hl with hl | ⟨st, hst, hfor⟩
    · rcases h'.settled l hl with hl | ⟨st, hst, hfor⟩
      · exact Or.inl hl
      · exact Or.inr ⟨st, List.mem_append_right _ hst, hfor⟩
    · exact Or.inr ⟨st, List.mem_append_left _ hst, hfor⟩
  results ip := by
    rw [h'.results ip, h.results ip, or_assoc]
    simp only [List.mem_append, or_and_right, exists_or]

/-- A lookup that is awaited is still awaited, or is the one that was taken out. -/
theorem mem_eraseIdx_or {xs : List Lookup} {i : Nat} {l x : Lookup} (hl : xs[i]? = some l)
    (hx : x ∈ xs) : x ∈ xs.eraseIdx i ∨ x = l := by
  by_cases hxl : x = l
  · exact Or.inr hxl
  · refine Or.inl (List.mem_eraseIdx_iff_getElem?.mpr ?_)
    obtain ⟨j, hj⟩ := List.mem_iff_getElem?.mp hx
    refine ⟨j, ?_, hj⟩
    rintro rfl
    exact hxl (Option.some.inj (hj.symm.trans hl))

theorem step_follows {e : Event} (hc : s.calls[k]? = some c)
    (hknown : ∀ l ∈ c.awaited, l.cached = known l.domain) (h : s.step ttlMs e = some s') :
    ∃ c', s'.calls[k]? = some c' ∧ c.Follows known k (s.settlement e).toList c' := by
  have hlt : k < s.calls.length := (List.getElem?_eq_some_iff.mp hc).1
  rcases step_cases h with ⟨now, domains, -, hnone, rfl⟩ |
    ⟨call, lookup, answer, c₀, l, -, hc₀, hl, hsome, rfl⟩
  · refine ⟨c, ?_, Call.Follows.refl (by simp [hnone])⟩
    simp only [List.getElem?_append_left hlt, hc]
  · by_cases hk : call = k
    · subst hk
      cases Option.some.inj (hc.symm.trans hc₀)
      have hmem : l ∈ c.awaited := List.mem_of_getElem? hl
      obtain ⟨hnow, hawaited⟩ := @settle_awaited ttlMs s.cache c l answer
      refine ⟨_, List.getElem?_set_self hlt, ?_⟩
      rw [hsome, hawaited]
      refine ⟨hnow, ?_, ?_, ?_, ?_⟩
      · intro x hx
        exact List.mem_of_mem_eraseIdx hx
      · intro st hst _
        cases List.mem_singleton.mp hst
        exact ⟨l, hmem, rfl⟩
      · intro x hx
        rcases mem_eraseIdx_or hl hx with hx | rfl
        · exact Or.inl hx
        · exact Or.inr ⟨_, List.mem_singleton_self _, rfl, rfl⟩
      · intro ip
        simp [settle_results, hknown l hmem]
    · refine ⟨c, ?_, Call.Follows.refl (by simp [hsome, hk])⟩
      simp only [List.getElem?_set_ne hk, hc]

theorem run_follows (hc : s.calls[k]? = some c)
    (hknown : ∀ l ∈ c.awaited, l.cached = known l.domain)
    (h : runEvents (State.step ttlMs) s es = some s') :
    ∃ c', s'.calls[k]? = some c' ∧ c.Follows known k (settlements ttlMs s es) c' := by
  induction es generalizing s c with
  | nil =>
    cases Option.some.inj h
    exact ⟨c, hc, Call.Follows.refl (by simp [settlements])⟩
  | cons e es ih =>
    obtain ⟨next, hstep, hrest⟩ := runEvents_cons h
    obtain ⟨c₁, hc₁, hone⟩ := step_follows hc hknown hstep
    obtain ⟨c', hc', hrun⟩ := ih hc₁ (fun l hl => hknown l (hone.awaited l hl)) hrest
    rw [settlements_cons hstep]
    exact ⟨c', hc', hone.trans hrun⟩

/-- The calls of `resolveAll` among some events. -/
def begun : List Event → Nat
  | [] => 0
  | .resolveAll _ _ :: es => begun es + 1
  | .settled _ _ _ :: es => begun es

theorem calls_length (h : runEvents (State.step ttlMs) s es = some s') :
    s'.calls.length = s.calls.length + begun es := by
  induction es generalizing s with
  | nil => simp [← Option.some.inj h, begun]
  | cons e es ih =>
    obtain ⟨next, hstep, hrest⟩ := runEvents_cons h
    rw [ih hrest]
    rcases step_cases hstep with ⟨now, domains, rfl, -, rfl⟩ |
      ⟨call, lookup, answer, c, l, rfl, -, -, -, rfl⟩
    · simp only [begun, List.length_append, List.length_singleton]
      omega
    · simp only [begun, List.length_set]

/-- What came of a call's lookups of a domain. -/
def outcomes (k : Nat) (domain : String) (log : List Settlement) : List (Option (List String)) :=
  (log.filter fun st => st.call = k ∧ st.domain = domain).map Settlement.answer

theorem mem_outcomes {domain : String} {log : List Settlement} {answer : Option (List String)} :
    answer ∈ outcomes k domain log ↔
      ∃ st ∈ log, (st.call = k ∧ st.domain = domain) ∧ st.answer = answer := by
  simp [outcomes, and_assoc]

/-- What a call that began at `now` gives for a domain: the entry it found while that is fresh,
else what its lookups brought, and the stale entry for one that failed. -/
def served (now : Int) (known : Option CacheEntry) (outcomes : List (Option (List String))) :
    List String :=
  match known with
  | some cached =>
    if cached.expiresAt > now then cached.ips
    else outcomes.flatMap fun answer => answer.getD cached.ips
  | none => outcomes.flatMap fun answer => answer.getD []

theorem served_of_fresh {now : Int} {cached : CacheEntry} (h : now < cached.expiresAt)
    (outcomes : List (Option (List String))) :
    served now (some cached) outcomes = cached.ips := by
  simp [served, h]

theorem served_of_stale {now : Int} {known : Option CacheEntry}
    (h : ∀ cached, known = some cached → cached.expiresAt ≤ now)
    (outcomes : List (Option (List String))) : served now known outcomes =
      outcomes.flatMap fun answer => answer.getD ((known.map CacheEntry.ips).getD []) := by
  cases known with
  | none => simp [served]
  | some cached =>
    have hnot : ¬now < cached.expiresAt := by have := h cached rfl; omega
    simp [served, hnot]

/-- At every moment of a run in which the lookups of any calls settle in any order, a call has
the addresses of its domains, each by the newest entry at the call's start and by what came of
the call's own lookups; it looks up no domain whose entry is fresh, and every other one. -/
theorem resolveAll_serves {s₀ : State} {now : Int} {domains : List String} {before after : List Event}
    (hbefore : runEvents (State.step ttlMs) State.initial before = some s₀)
    (hafter : runEvents (State.step ttlMs) s₀ (.resolveAll now domains :: after) = some s) :
    let known := latest ttlMs (settlements ttlMs State.initial before)
    let log := settlements ttlMs s₀ (.resolveAll now domains :: after)
    ∃ call, s.calls[begun before]? = some call ∧
      (∀ ip, ip ∈ call.results ↔ ip ∈ resolveAll
        (fun d => served now (known d) (outcomes (begun before) d log)) domains) ∧
      (∀ st ∈ log, st.call = begun before → st.domain ∈ domains ∧
        ∀ cached, known st.domain = some cached → cached.expiresAt ≤ now) ∧
      (call.awaited = [] → ∀ d ∈ domains,
        (∃ cached, known d = some cached ∧ now < cached.expiresAt) ∨
          outcomes (begun before) d log ≠ []) := by
  intro known log
  have hcache : ∀ d, s₀.cache.get d = known d := by
    intro d
    rw [run_cache hbefore]
    exact Option.or_none
  have hlength : s₀.calls.length = begun before := by
    have hlen := calls_length hbefore
    simpa [State.initial] using hlen
  obtain ⟨next, hstep, hrest⟩ := runEvents_cons hafter
  cases Option.some.inj hstep
  have hstart : (s₀.calls ++ [Call.start s₀.cache now domains])[begun before]? =
      some (Call.start s₀.cache now domains) := by
    rw [← hlength, List.getElem?_concat_length]
  have hknown : ∀ l ∈ (Call.start s₀.cache now domains).awaited, l.cached = known l.domain :=
    fun l hl => (start_awaited.mp hl).2.1.trans (hcache _)
  obtain ⟨call, hcall, hfollows⟩ := run_follows hstart hknown hrest
  have hlog : log = settlements ttlMs ⟨s₀.cache, s₀.calls ++ [Call.start s₀.cache now domains]⟩
      after := settlements_cons hstep
  rw [← hlog] at hfollows
  have hasked : ∀ st ∈ log, st.call = begun before → st.domain ∈ domains ∧
      ∀ cached, known st.domain = some cached → cached.expiresAt ≤ now := by
    intro st hst hk
    obtain ⟨l, hl, hdomain⟩ := hfollows.asked st hst hk
    obtain ⟨hmem, -, hstale⟩ := start_awaited.mp hl
    rw [← hdomain, ← hcache]
    exact ⟨hmem, hstale⟩
  refine ⟨call, hcall, ?_, hasked, ?_⟩
  · intro ip
    rw [hfollows.results ip, start_results, resolveAll, List.mem_eraseDups, List.mem_flatMap]
    refine ⟨?_, ?_⟩
    · rintro (⟨d, hd, cached, hget, hfresh, hip⟩ | ⟨st, hst, hk, hip⟩)
      · rw [hcache] at hget
        exact ⟨d, hd, by rw [hget, served_of_fresh hfresh]; exact hip⟩
      · obtain ⟨hd, hstale⟩ := hasked st hst hk
        refine ⟨st.domain, hd, ?_⟩
        rw [served_of_stale hstale]
        exact List.mem_flatMap.mpr ⟨st.answer, mem_outcomes.mpr ⟨st, hst, ⟨hk, rfl⟩, rfl⟩, hip⟩
    · rintro ⟨d, hd, hip⟩
      by_cases hfresh : ∃ cached, known d = some cached ∧ now < cached.expiresAt
      · obtain ⟨cached, hget, hlt⟩ := hfresh
        rw [hget, served_of_fresh hlt] at hip
        exact Or.inl ⟨d, hd, cached, (hcache d).trans hget, hlt, hip⟩
      · have hstale : ∀ cached, known d = some cached → cached.expiresAt ≤ now := by
          intro cached hget
          by_contra hlt
          exact hfresh ⟨cached, hget, by omega⟩
        rw [served_of_stale hstale] at hip
        obtain ⟨answer, hanswer, hip⟩ := List.mem_flatMap.mp hip
        obtain ⟨st, hst, ⟨hk, rfl⟩, rfl⟩ := mem_outcomes.mp hanswer
        exact Or.inr ⟨st, hst, hk, hip⟩
  · intro hnone d hd
    by_cases hfresh : ∃ cached, known d = some cached ∧ now < cached.expiresAt
    · exact Or.inl hfresh
    · refine Or.inr ?_
      have hlookup : ⟨d, s₀.cache.get d⟩ ∈ (Call.start s₀.cache now domains).awaited := by
        refine start_awaited.mpr ⟨hd, rfl, ?_⟩
        intro cached hget
        by_contra hlt
        exact hfresh ⟨cached, (hcache d).symm.trans hget, by omega⟩
      rcases hfollows.settled _ hlookup with hawaited | ⟨st, hst, hk, hdomain⟩
      · rw [hnone] at hawaited
        exact absurd hawaited List.not_mem_nil
      · exact List.ne_nil_of_mem (mem_outcomes.mpr ⟨st, hst, ⟨hk, hdomain⟩, rfl⟩)

theorem resolveAll_serves_stale :
    let before := [Event.resolveAll 0 ["a.example"], .settled 0 0 (some ["192.0.2.1"])]
    let after := [Event.resolveAll 500 ["a.example"], .settled 2 0 (some ["192.0.2.2"]),
      .settled 1 0 none]
    ∃ s₀ s call, runEvents (State.step 300) State.initial before = some s₀ ∧
      runEvents (State.step 300) s₀ (.resolveAll 400 ["a.example"] :: after) = some s ∧
      s.calls[1]? = some call ∧ (∀ ip, ip ∈ call.results ↔ ip ∈ resolveAll
        (fun d => served 400 (latest 300 (settlements 300 State.initial before) d)
          (outcomes 1 d (settlements 300 s₀ (.resolveAll 400 ["a.example"] :: after))))
        ["a.example"]) := by
  obtain ⟨call, hcall, hserves, -, -⟩ := @resolveAll_serves 300 _ _ 400
    ["a.example"] [.resolveAll 0 ["a.example"], .settled 0 0 (some ["192.0.2.1"])]
    [.resolveAll 500 ["a.example"], .settled 2 0 (some ["192.0.2.2"]), .settled 1 0 none] rfl rfl
  exact ⟨_, _, call, rfl, rfl, hcall, hserves⟩

end Runs

end DnsResolveCache

end GuardTime
