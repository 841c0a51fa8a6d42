import GuardTime.RouterCommands
import Mathlib.Data.Set.Insert

namespace GuardTime

namespace Router

section Blocks

variable {σ β : Type}

def HasInverse (strategy : Strategy) : Prop := (UNBLOCK_STRATEGY_METHOD strategy).isSome

/-- The plugin's methods on one target: a forward method that has an inverse leaves a block of its
own when it succeeds, and leaves none or that one when it fails; the others leave no block; every
inverse removes its block and succeeds, also when there is none. -/
structure Blocking (plugin : Plugin σ) (ctx : Ctx) (target : RouterTarget) (blocks : σ → Set β)
    (own : Strategy → β) : Prop where
  places : ∀ strategy methodName, HasInverse strategy → STRATEGY_METHOD strategy = some methodName →
    ∀ s result s', executeSingleAction plugin ctx methodName target s = (.ok result, s') →
      result.success = true → blocks s' = insert (own strategy) (blocks s)
  fails : ∀ strategy methodName, HasInverse strategy → STRATEGY_METHOD strategy = some methodName →
    ∀ s result s', executeSingleAction plugin ctx methodName target s = (.ok result, s') →
      result.success = false → blocks s' = blocks s ∨ blocks s' = insert (own strategy) (blocks s)
  transient : ∀ strategy methodName, ¬HasInverse strategy → STRATEGY_METHOD strategy = some methodName →
    ∀ s result s', executeSingleAction plugin ctx methodName target s = (.ok result, s') →
      blocks s' = blocks s
  removes : ∀ strategy methodName, UNBLOCK_STRATEGY_METHOD strategy = some methodName →
    ∀ s, ∃ result s', executeSingleAction plugin ctx methodName target s = (.ok result, s') ∧
      result.success = true ∧ blocks s' = blocks s \ {own strategy}

/-- The blocks that asking the forward methods in turn leaves, up to the first that succeeds. -/
inductive Leaves (plugin : Plugin σ) (ctx : Ctx) (target : RouterTarget) (blocks : σ → Set β)
    (own : Strategy → β) : List Strategy → σ → β → Prop where
  | unknown {strategy rest s b} (h : STRATEGY_METHOD strategy = none)
      (later : Leaves plugin ctx target blocks own rest s b) :
      Leaves plugin ctx target blocks own (strategy :: rest) s b
  | stopped {strategy rest s methodName result s'} (h : STRATEGY_METHOD strategy = some methodName)
      (call : executeSingleAction plugin ctx methodName target s = (.ok result, s'))
      (success : result.success = true) (inverse : HasInverse strategy) :
      Leaves plugin ctx target blocks own (strategy :: rest) s (own strategy)
  | failed {strategy rest s methodName result s'} (h : STRATEGY_METHOD strategy = some methodName)
      (call : executeSingleAction plugin ctx methodName target s = (.ok result, s'))
      (failure : result.success = false) (left : own strategy ∈ blocks s')
      (new : own strategy ∉ blocks s) (inverse : HasInverse strategy) :
      Leaves plugin ctx target blocks own (strategy :: rest) s (own strategy)
  | later {strategy rest s methodName result s' b} (h : STRATEGY_METHOD strategy = some methodName)
      (call : executeSingleAction plugin ctx methodName target s = (.ok result, s'))
      (failure : result.success = false) (later : Leaves plugin ctx target blocks own rest s' b) :
      Leaves plugin ctx target blocks own (strategy :: rest) s b

/-- A block that stands after a run and was not there before, or that the strategy it reports
placed again. -/
def Placed (blocks : σ → Set β) (own : Strategy → β) (before : σ) (result : CommandResult)
    (after : σ) (b : β) : Prop :=
  b ∈ blocks after ∧
    (b ∉ blocks before ∨ ∃ strategy, result.strategyUsed = some strategy ∧ HasInverse strategy ∧
      own strategy = b)

variable {plugin : Plugin σ} {ctx : Ctx} {target : RouterTarget} {blocks : σ → Set β}
  {own : Strategy → β}

theorem Blocking.forward_mono (hp : Blocking plugin ctx target blocks own) {strategy : Strategy}
    {methodName : Method} (hm : STRATEGY_METHOD strategy = some methodName) {s s' : σ}
    {result : ActionResult}
    (hcall : executeSingleAction plugin ctx methodName target s = (.ok result, s')) {b : β}
    (hb : b ∈ blocks s) : b ∈ blocks s' := by
  by_cases hi : HasInverse strategy
  · cases hr : result.success with
    | true =>
      rw [hp.places _ _ hi hm _ _ _ hcall hr]
      exact Set.mem_insert_of_mem _ hb
    | false =>
      rcases hp.fails _ _ hi hm _ _ _ hcall hr with he | he
      · rwa [he]
      · rw [he]
        exact Set.mem_insert_of_mem _ hb
  · rwa [hp.transient _ _ hi hm _ _ _ hcall]

theorem Blocking.forward_new (hp : Blocking plugin ctx target blocks own) {strategy : Strategy}
    {methodName : Method} (hm : STRATEGY_METHOD strategy = some methodName) {s s' : σ}
    {result : ActionResult}
    (hcall : executeSingleAction plugin ctx methodName target s = (.ok result, s')) {b : β}
    (hb : b ∈ blocks s') (hnew : b ∉ blocks s) : HasInverse strategy ∧ own strategy = b := by
  by_cases hi : HasInverse strategy
  · refine ⟨hi, ?_⟩
    have hor : blocks s' = blocks s ∨ blocks s' = insert (own strategy) (blocks s) := by
      cases hr : result.success with
      | true => exact Or.inr (hp.places _ _ hi hm _ _ _ hcall hr)
      | false => exact hp.fails _ _ hi hm _ _ _ hcall hr
    rcases hor with he | he
    · exact absurd (he ▸ hb) hnew
    · rw [he] at hb
      rcases Set.mem_insert_iff.mp hb with hb | hb
      · exact hb.symm
      · exact absurd hb hnew
  · rw [hp.transient _ _ hi hm _ _ _ hcall] at hb
    exact absurd hb hnew

theorem run_mono (hp : Blocking plugin ctx target blocks own) {strategies : List Strategy}
    {attempts : List Attempt} {s s' : σ} {result : CommandResult}
    (h : runMultiStrategyAction plugin ctx STRATEGY_METHOD target strategies attempts s =
      (.ok result, s')) {b : β} (hb : b ∈ blocks s) : b ∈ blocks s' := by
  induction strategies generalizing attempts s with
  | nil => rwa [← (Prod.mk.inj h).2]
  | cons strategy rest ih =>
    unfold runMultiStrategyAction at h
    cases hm : STRATEGY_METHOD strategy with
    | none =>
      simp only [hm] at h
      exact ih h hb
    | some methodName =>
      simp only [hm] at h
      split at h
      next => simp at h
      next r s₁ hcall =>
        have hb₁ := hp.forward_mono hm hcall hb
        split at h
        next => rwa [← (Prod.mk.inj h).2]
        next => exact ih h hb₁

theorem leaves_unknown_iff {strategy : Strategy} (hm : STRATEGY_METHOD strategy = none)
    {rest : List Strategy} {s : σ} {b : β} :
    Leaves plugin ctx target blocks own (strategy :: rest) s b ↔
      Leaves plugin ctx target blocks own rest s b := by
  refine ⟨?_, Leaves.unknown hm⟩
  intro hl
  cases hl with
  | unknown _ later => exact later
  | stopped hm' => simp [hm] at hm'
  | failed hm' => simp [hm] at hm'
  | later hm' => simp [hm] at hm'

theorem leaves_stopped_iff {strategy : Strategy} {methodName : Method}
    (hm : STRATEGY_METHOD strategy = some methodName) {s s₁ : σ} {r : ActionResult}
    (hcall : executeSingleAction plugin ctx methodName target s = (.ok r, s₁))
    (hr : r.success = true) {rest : List Strategy} {b : β} :
    Leaves plugin ctx target blocks own (strategy :: rest) s b ↔
      HasInverse strategy ∧ own strategy = b := by
  refine ⟨?_, ?_⟩
  · intro hl
    cases hl with
    | unknown hm' => simp [hm] at hm'
    | stopped _ _ _ hi => exact ⟨hi, rfl⟩
    | failed hm' hcall' hf =>
      cases hm.symm.trans hm'
      cases hcall.symm.trans hcall'
      simp [hr] at hf
    | later hm' hcall' hf =>
      cases hm.symm.trans hm'
      cases hcall.symm.trans hcall'
      simp [hr] at hf
  · intro h
    obtain ⟨hi, rfl⟩ := h
    exact Leaves.stopped hm hcall hr hi

/-- A method that fails may leave its own block, and the next one is asked. -/
theorem leaves_failed_iff {strategy : Strategy} {methodName : Method}
    (hm : STRATEGY_METHOD strategy = some methodName) {s s₁ : σ} {r : ActionResult}
    (hcall : executeSingleAction plugin ctx methodName target s = (.ok r, s₁))
    (hf : r.success = false) {rest : List Strategy} {b : β} :
    Leaves plugin ctx target blocks own (strategy :: rest) s b ↔
      (b ∈ blocks s₁ ∧ b ∉ blocks s ∧ HasInverse strategy ∧ own strategy = b) ∨
        Leaves plugin ctx target blocks own rest s₁ b := by
  refine ⟨?_, ?_⟩
  · intro hl
    cases hl with
    | unknown hm' => simp [hm] at hm'
    | stopped hm' hcall' hr =>
      cases hm.symm.trans hm'
      cases hcall.symm.trans hcall'
      simp [hf] at hr
    | failed hm' hcall' _ hleft hnew hi =>
      cases hm.symm.trans hm'
      cases hcall.symm.trans hcall'
      exact Or.inl ⟨hleft, hnew, hi, rfl⟩
    | later hm' hcall' _ hlater =>
      cases hm.symm.trans hm'
      cases hcall.symm.trans hcall'
      exact Or.inr hlater
  · intro h
    rcases h with ⟨hleft, hnew, hi, rfl⟩ | hlater
    · exact Leaves.failed hm hcall hf hleft hnew hi
    · exact Leaves.later hm hcall hf hlater

theorem placed_iff_leaves (hp : Blocking plugin ctx target blocks own) {strategies : List Strategy}
    {attempts : List Attempt} {s s' : σ} {result : CommandResult}
    (h : runMultiStrategyAction plugin ctx STRATEGY_METHOD target strategies attempts s =
      (.ok result, s'))
    (hsuccess : result.success = true) (b : β) :
    Placed blocks own s result s' b ↔ Leaves plugin ctx target blocks own strategies s b := by
  induction strategies generalizing attempts s with
  | nil =>
    obtain ⟨hr, _⟩ := Prod.mk.inj h
    cases Except.ok.inj hr
    simp [CommandResult.success] at hsuccess
  | cons strategy rest ih =>
    unfold runMultiStrategyAction at h
    cases hm : STRATEGY_METHOD strategy with
    | none =>
      simp only [hm] at h
      rw [ih h, leaves_unknown_iff hm]
    | some methodName =>
      simp only [hm] at h
      split at h
      next => simp at h
      next r s₁ hcall =>
        split at h
        next hr =>
          obtain ⟨hres, hs⟩ := Prod.mk.inj h
          cases Except.ok.inj hres
          subst hs
          rw [leaves_stopped_iff hm hcall hr]
          refine ⟨?_, ?_⟩
          · intro hplaced
            obtain ⟨hb, hnew | ⟨k, hk, hi, rfl⟩⟩ := hplaced
            · exact hp.forward_new hm hcall hb hnew
            · cases Option.some.inj hk
              exact ⟨hi, rfl⟩
          · intro hown
            obtain ⟨hi, rfl⟩ := hown
            refine ⟨?_, Or.inr ⟨strategy, rfl, hi, rfl⟩⟩
            rw [hp.places _ _ hi hm _ _ _ hcall hr]
            exact Set.mem_insert _ _
        next hr =>
          have hf : r.success = false := by simpa using hr
          rw [leaves_failed_iff hm hcall hf, ← ih h]
          refine ⟨?_, ?_⟩
          · intro hplaced
            obtain ⟨hb, hplaced⟩ := hplaced
            by_cases hb₁ : b ∈ blocks s₁
            · by_cases hb₀ : b ∈ blocks s
              · exact Or.inr ⟨hb, Or.inr (hplaced.resolve_left fun hnew => hnew hb₀)⟩
              · exact Or.inl ⟨hb₁, hb₀, hp.forward_new hm hcall hb₁ hb₀⟩
            · exact Or.inr ⟨hb, Or.inl hb₁⟩
          · intro hor
            rcases hor with ⟨hleft, hnew, _⟩ | ⟨hb, hnew | hk⟩
            · exact ⟨run_mono hp h hleft, Or.inl hnew⟩
            · exact ⟨hb, Or.inl fun hb₀ => hnew (hp.forward_mono hm hcall hb₀)⟩
            · exact ⟨hb, Or.inr hk⟩

/-- An unblocking run that succeeds removes the block of the first strategy that has an inverse. -/
theorem unblock_removes (hp : Blocking plugin ctx target blocks own) {strategies : List Strategy}
    {attempts : List Attempt} {s s' : σ} {result : CommandResult}
    (h : runMultiStrategyAction plugin ctx UNBLOCK_STRATEGY_METHOD target strategies attempts s =
      (.ok result, s'))
    (hsuccess : result.success = true) :
    ∃ first, strategies.find? (fun k => (UNBLOCK_STRATEGY_METHOD k).isSome) = some first ∧
      blocks s' = blocks s \ {own first} := by
  induction strategies generalizing attempts s with
  | nil =>
    obtain ⟨hr, _⟩ := Prod.mk.inj h
    cases Except.ok.inj hr
    simp [CommandResult.success] at hsuccess
  | cons strategy rest ih =>
    unfold runMultiStrategyAction at h
    cases hm : UNBLOCK_STRATEGY_METHOD strategy with
    | none =>
      simp only [hm] at h
      obtain ⟨first, hfind, hblocks⟩ := ih h
      exact ⟨first, by simp [hm, hfind], hblocks⟩
    | some methodName =>
      obtain ⟨r, s₁, hcall, hr, hblocks⟩ := hp.removes _ _ hm s
      simp only [hm, hcall, hr, if_true] at h
      refine ⟨strategy, by simp [hm], ?_⟩
      rw [← (Prod.mk.inj h).2, hblocks]

theorem executeCommand_plugin (env : Environment σ) {connection : RouterConnection}
    {pluginId : String} (hid : truthy connection.pluginId = some pluginId) {command : RouterCommand}
    (htype : command.type ≠ .DETECT) (s : σ) :
    executeCommand env (some connection) command s =
      executeWith env (env.loadPlugin pluginId) (contextOf env connection) command s := by
  simp only [executeCommand, if_neg htype, hid]

/-- After a BLOCK_DEVICE and a later UNBLOCK_DEVICE that both succeed, no block the first placed
remains exactly when each block it left that is still there when the second starts is that of the
first strategy with an inverse. -/
theorem unblock_clears_iff (env : Environment σ) (connection : RouterConnection) (pluginId : String)
    (hid : truthy connection.pluginId = some pluginId) (deviceId : Option String) (payload : Payload)
    (hp : Blocking (env.loadPlugin pluginId) (contextOf env connection)
      (buildTarget deviceId payload) blocks own)
    (blockId unblockId : String) {blocked unblocked : CommandResult} {s₀ s₁ s₂ s₃ : σ}
    (hblock : executeCommand env (some connection) ⟨blockId, .BLOCK_DEVICE, deviceId, payload⟩ s₀ =
      (.ok blocked, s₁))
    (hblocked : blocked.success = true)
    (hunblock : executeCommand env (some connection)
      ⟨unblockId, .UNBLOCK_DEVICE, deviceId, payload⟩ s₂ = (.ok unblocked, s₃))
    (hunblocked : unblocked.success = true) :
    (∀ b, Placed blocks own s₀ blocked s₁ b → b ∉ blocks s₃) ↔
      ∀ b, Leaves (env.loadPlugin pluginId) (contextOf env connection)
          (buildTarget deviceId payload) blocks own payload.strategies s₀ b →
        b ∈ blocks s₂ → ∀ first,
          payload.strategies.find? (fun k => (UNBLOCK_STRATEGY_METHOD k).isSome) = some first →
            b = own first := by
  rw [executeCommand_plugin env hid (by simp)] at hblock hunblock
  obtain ⟨first, hfirst, hremoved⟩ := unblock_removes hp hunblock hunblocked
  have hplaced := fun b => placed_iff_leaves hp hblock hblocked b
  simp only [hplaced, hremoved, hfirst, Option.some.injEq, forall_eq', Set.mem_sdiff,
    Set.mem_singleton_iff, not_and, not_not]

end Blocks

abbrev Standing := Strategy → Bool

def Standing.blocks (s : Standing) : Set Strategy := {strategy | s strategy = true}

/-- A plugin that can block by MAC only. -/
def samplePlugin : Plugin Standing
  | .blockMAC => some fun _ _ s => (.ok ⟨true, "MAC added", none⟩, Function.update s .BLOCK_MAC true)
  | .resumeDevice => some fun _ _ s =>
    (.ok ⟨true, "already clear", none⟩, Function.update s .PAUSE_DEVICE false)
  | .removeFirewallRule => some fun _ _ s =>
    (.ok ⟨true, "already clear", none⟩, Function.update s .APPLY_FIREWALL_RULE false)
  | .unblockMAC => some fun _ _ s =>
    (.ok ⟨true, "MAC removed", none⟩, Function.update s .BLOCK_MAC false)
  | _ => some fun _ _ s => (.ok ⟨false, "not supported", none⟩, s)

theorem blocks_set (s : Standing) (strategy : Strategy) :
    Standing.blocks (Function.update s strategy true) = insert strategy s.blocks := by
  ext k
  by_cases hk : k = strategy
  · simp [Standing.blocks, hk]
  · simp [Standing.blocks, hk]

theorem blocks_clear (s : Standing) (strategy : Strategy) :
    Standing.blocks (Function.update s strategy false) = s.blocks \ {strategy} := by
  ext k
  by_cases hk : k = strategy
  · simp [Standing.blocks, hk]
  · simp [Standing.blocks, hk]

theorem samplePlugin_blocking (ctx : Ctx) (target : RouterTarget) :
    Blocking samplePlugin ctx target Standing.blocks id := by
  refine ⟨?_, ?_, ?_, ?_⟩
  · intro strategy m hi hm s result s' hcall hr
    cases strategy <;> cases hm <;> obtain ⟨hres, hs⟩ := Prod.mk.inj hcall
    all_goals cases Except.ok.inj hres
    all_goals simp [HasInverse, UNBLOCK_STRATEGY_METHOD] at hi hr
    rw [← hs]
    exact blocks_set s _
  · intro strategy m hi hm s result s' hcall hf
    cases strategy <;> cases hm <;> obtain ⟨hres, hs⟩ := Prod.mk.inj hcall
    all_goals cases Except.ok.inj hres
    all_goals simp [HasInverse, UNBLOCK_STRATEGY_METHOD] at hi hf
    all_goals exact Or.inl (by rw [← hs])
  · intro strategy m hi hm s result s' hcall
    cases strategy <;> cases hm <;> obtain ⟨hres, hs⟩ := Prod.mk.inj hcall
    all_goals simp [HasInverse, UNBLOCK_STRATEGY_METHOD] at hi
    all_goals rw [← hs]
  · intro strategy m hm s
    cases strategy <;> cases hm
    all_goals exact ⟨_, _, rfl, rfl, blocks_clear s _⟩

def sampleEnvironment : Environment Standing :=
  ⟨fun _ => samplePlugin, fun s => (true, s), fun s => (.error "offline", s), false⟩

def sampleConnection : RouterConnection := ⟨some "mikrotik", some "192.168.88.1", none⟩

def pauseOrBlock : Payload :=
  ⟨some "dev-1", some "aa:bb:cc:dd:ee:ff", some "192.168.88.50", none, [.PAUSE_DEVICE, .BLOCK_MAC]⟩

def clearRouter : Standing := fun _ => false

/-- What blocking the device reports: pausing is not supported, the MAC is blocked. -/
def macBlocked : CommandResult :=
  .attempted true (some .BLOCK_MAC) [
    ⟨.PAUSE_DEVICE, ⟨false, "not supported", none⟩, none⟩,
    ⟨.BLOCK_MAC, ⟨true, "MAC added", none⟩, none⟩]

/-- What unblocking it reports: there is no pause to lift. -/
def pauseLifted : CommandResult :=
  .attempted true (some .PAUSE_DEVICE) [⟨.PAUSE_DEVICE, ⟨true, "already clear", none⟩, none⟩]

def routerAfterBlock : Standing := Function.update clearRouter .BLOCK_MAC true

def routerAfterUnblock : Standing := Function.update routerAfterBlock .PAUSE_DEVICE false

/-- A device that was blocked by MAC stays blocked when it is unblocked. -/
theorem unblock_leaves_mac_block :
    Blocking (sampleEnvironment.loadPlugin "mikrotik")
        (contextOf sampleEnvironment sampleConnection) (buildTarget (some "dev-1") pauseOrBlock)
        Standing.blocks id ∧
      executeCommand sampleEnvironment (some sampleConnection)
        ⟨"cmd-1", .BLOCK_DEVICE, some "dev-1", pauseOrBlock⟩ clearRouter =
          (.ok macBlocked, routerAfterBlock) ∧
      executeCommand sampleEnvironment (some sampleConnection)
        ⟨"cmd-2", .UNBLOCK_DEVICE, some "dev-1", pauseOrBlock⟩ routerAfterBlock =
          (.ok pauseLifted, routerAfterUnblock) ∧
      Placed Standing.blocks id clearRouter macBlocked routerAfterBlock .BLOCK_MAC ∧
      Strategy.BLOCK_MAC ∈ routerAfterUnblock.blocks := by
  refine ⟨samplePlugin_blocking _ _, rfl, rfl, ⟨?_, Or.inl ?_⟩, ?_⟩
  · simp [Standing.blocks, routerAfterBlock]
  · simp [Standing.blocks, clearRouter]
  · simp [Standing.blocks, routerAfterUnblock, routerAfterBlock]

theorem unblock_clears_iff_sample :
    (∀ b, Placed Standing.blocks id clearRouter macBlocked routerAfterBlock b →
        b ∉ routerAfterUnblock.blocks) ↔
      ∀ b, Leaves samplePlugin (contextOf sampleEnvironment sampleConnection)
          (buildTarget (some "dev-1") pauseOrBlock) Standing.blocks id pauseOrBlock.strategies
          clearRouter b →
        b ∈ routerAfterBlock.blocks → ∀ first,
          pauseOrBlock.strategies.find? (fun k => (UNBLOCK_STRATEGY_METHOD k).isSome) =
            some first → b = first :=
  unblock_clears_iff sampleEnvironment sampleConnection "mikrotik" (by decide) (some "dev-1")
    pauseOrBlock (samplePlugin_blocking _ _) "cmd-1" "cmd-2" rfl rfl rfl rfl

end Router

end GuardTime
