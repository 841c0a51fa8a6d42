import GuardTime.GuardedRuns
import GuardTime.RouterAcks

namespace GuardTime

namespace Router

open Backend

/-- What becomes of one request that acknowledges a command: whether it reaches the backend, and how
it ends for the agent. -/
structure Fate where
  arrives : Bool
  answer : Except FetchError (Response Unit)

/-- The router's persistent state, the commands that the backend has no acknowledgement of, in
creation order, and what becomes of the requests to come. -/
structure Exchange (ρ : Type) where
  router : ρ
  unacknowledged : List RouterCommand
  fates : List Fate

section Exchange

variable {ρ α : Type}

def Exchange.acknowledge (w : Exchange ρ) (commandId : String) : Exchange ρ :=
  { w with unacknowledged := w.unacknowledged.filter (·.id ≠ commandId) }

def post : Transport (Exchange ρ) := fun ack w =>
  match w.fates with
  | [] => (.error ⟨"TypeError", some "ECONNREFUSED", "fetch failed"⟩, w)
  | fate :: fates =>
    let w := { w with fates := fates }
    (fate.answer, if fate.arrives then w.acknowledge ack.commandId else w)

/-- What is done to the router, as a part of the exchange. -/
def onRouter (f : ρ → α × ρ) (w : Exchange ρ) : α × Exchange ρ :=
  ((f w.router).1, { w with router := (f w.router).2 })

def Plugin.onRouter (plugin : Plugin ρ) : Plugin (Exchange ρ) := fun methodName =>
  (plugin methodName).map fun method ctx target => Router.onRouter (method ctx target)

def Environment.onRouter (env : Environment ρ) : Environment (Exchange ρ) where
  loadPlugin := fun pluginId => (env.loadPlugin pluginId).onRouter
  checkConnectivity := Router.onRouter env.checkConnectivity
  discoverRouter := Router.onRouter env.discoverRouter
  dryRun := env.dryRun

theorem executeSingleAction_onRouter (plugin : Plugin ρ) (ctx : Ctx) (methodName : Method)
    (target : RouterTarget) (w : Exchange ρ) :
    executeSingleAction plugin.onRouter ctx methodName target w =
      onRouter (executeSingleAction plugin ctx methodName target) w := by
  unfold executeSingleAction Plugin.onRouter
  cases plugin methodName with
  | none => rfl
  | some method => rfl

theorem rollBackStrategy_onRouter (plugin : Plugin ρ) (ctx : Ctx) (target : RouterTarget)
    (strategy : Strategy) (w : Exchange ρ) :
    rollBackStrategy plugin.onRouter ctx target strategy w =
      onRouter (rollBackStrategy plugin ctx target strategy) w := by
  unfold rollBackStrategy
  cases STRATEGY_INVERSE_METHOD strategy with
  | none => rfl
  | some inverseMethod =>
    simp only [executeSingleAction_onRouter, onRouter]
    cases executeSingleAction plugin ctx inverseMethod target w.router with
    | mk answer s =>
      cases answer with
      | ok _ => rfl
      | error _ => rfl

theorem runEndGamingSession_onRouter (env : Environment ρ) (plugin : Plugin ρ) (ctx : Ctx)
    (target : RouterTarget) (strategies : List Strategy) (attempts : List Attempt)
    (w : Exchange ρ) :
    runEndGamingSession env.onRouter plugin.onRouter ctx target strategies attempts w =
      onRouter (runEndGamingSession env plugin ctx target strategies attempts) w := by
  induction strategies generalizing attempts w with
  | nil => rfl
  | cons strategy rest ih =>
    unfold onRouter runEndGamingSession
    cases STRATEGY_METHOD strategy with
    | none => exact ih attempts w
    | some methodName =>
      simp only [executeSingleAction_onRouter, onRouter]
      cases executeSingleAction plugin ctx methodName target w.router with
      | mk answer s =>
        cases answer with
        | error _ => rfl
        | ok result =>
          simp only [rollBackStrategy_onRouter, Environment.onRouter, onRouter]
          cases result.success with
          | false => exact ih _ { w with router := s }
          | true =>
            simp only [if_true]
            cases env.checkConnectivity s with
            | mk online s =>
              cases online with
              | true => rfl
              | false => exact ih _ { w with router := (rollBackStrategy plugin ctx target strategy s).2 }

theorem runMultiStrategyAction_onRouter (plugin : Plugin ρ) (ctx : Ctx)
    (methodMap : Strategy → Option Method) (target : RouterTarget) (strategies : List Strategy)
    (attempts : List Attempt) (w : Exchange ρ) :
    runMultiStrategyAction plugin.onRouter ctx methodMap target strategies attempts w =
      onRouter (runMultiStrategyAction plugin ctx methodMap target strategies attempts) w := by
  induction strategies generalizing attempts w with
  | nil => rfl
  | cons strategy rest ih =>
    unfold onRouter runMultiStrategyAction
    cases methodMap strategy with
    | none => exact ih attempts w
    | some methodName =>
      simp only [executeSingleAction_onRouter, onRouter]
      cases executeSingleAction plugin ctx methodName target w.router with
      | mk answer s =>
        cases answer with
        | error _ => rfl
        | ok result =>
          simp only
          cases result.success with
          | true => rfl
          | false => exact ih _ { w with router := s }

theorem executeWith_onRouter (env : Environment ρ) (plugin : Plugin ρ) (ctx : Ctx)
    (command : RouterCommand) (w : Exchange ρ) :
    executeWith env.onRouter plugin.onRouter ctx command w =
      onRouter (executeWith env plugin ctx command) w := by
  unfold onRouter executeWith
  simp only [runEndGamingSession_onRouter, runMultiStrategyAction_onRouter,
    executeSingleAction_onRouter]
  split
  next => rfl
  next => rfl
  next => rfl
  next =>
    cases COMMAND_METHOD command.type with
    | none => rfl
    | some methodName =>
      simp only [onRouter]
      cases executeSingleAction plugin ctx methodName _ w.router with
      | mk answer s =>
        cases answer with
        | ok _ => rfl
        | error _ => rfl

theorem executeCommand_onRouter (env : Environment ρ) (routerConnection : Option RouterConnection)
    (command : RouterCommand) (w : Exchange ρ) :
    executeCommand env.onRouter routerConnection command w =
      onRouter (executeCommand env routerConnection command) w := by
  unfold onRouter executeCommand
  split
  next =>
    simp only [detect, Environment.onRouter, onRouter]
    cases env.discoverRouter w.router with
    | mk answer s =>
      cases answer with
      | ok _ => rfl
      | error _ => rfl
  next =>
    cases routerConnection with
    | none => rfl
    | some connection =>
      simp only
      cases truthy connection.pluginId with
      | none => rfl
      | some pluginId => exact executeWith_onRouter env _ _ command w

theorem ackRouterCommand_keeps (transport : Transport (Exchange ρ)) (ack : Ack) (I : Exchange ρ → Prop)
    (hpost : ∀ w, I w → I (transport ack w).2) (o : Outbox (Exchange ρ)) (ho : I o.world) :
    I (ackRouterCommand transport ack o).2.world :=
  requestWith_invariant (I := fun o : Outbox (Exchange ρ) => I o.world)
    (fun o ho => hpost o.world ho) 1 ho

/-- The acknowledgements of one command leave the router alone and take no other command off the
backend's list. -/
def Takes (command : RouterCommand) (w w' : Exchange ρ) : Prop :=
  w'.router = w.router ∧ (w'.unacknowledged = w.unacknowledged ∨
    w'.unacknowledged = w.unacknowledged.filter (·.id ≠ command.id))

theorem takes_post {command : RouterCommand} {ack : Ack} (hack : ack.commandId = command.id)
    {w₀ w : Exchange ρ} (h : Takes command w₀ w) : Takes command w₀ (post ack w).2 := by
  unfold post
  split
  next => exact h
  next fate fates _ =>
    cases fate.arrives with
    | false => exact h
    | true =>
      refine ⟨h.1, Or.inr ?_⟩
      simp only [Exchange.acknowledge, hack, if_true]
      rcases h.2 with hkept | hgone
      · rw [hkept]
      · rw [hgone, List.filter_filter]
        simp only [Bool.and_self]

theorem handle_router (env : Environment ρ) (routerConnection : Option RouterConnection)
    (command : RouterCommand) (w : Exchange ρ) :
    Takes command (onRouter (executeCommand env routerConnection command) w).2
      (handle env.onRouter post routerConnection command w).2 := by
  have hself : ∀ w : Exchange ρ, Takes command w w := fun w => ⟨rfl, Or.inl rfl⟩
  unfold handle
  rw [executeCommand_onRouter]
  cases hexec : onRouter (executeCommand env routerConnection command) w with
  | mk execution w₁ =>
    cases execution with
    | error message =>
      exact ackRouterCommand_keeps post (errorAck command message) (Takes command w₁)
        (fun w hw => takes_post rfl hw) _ (hself w₁)
    | ok result =>
      have hfirst := ackRouterCommand_keeps post (resultAck command result) (Takes command w₁)
        (fun w hw => takes_post rfl hw) ⟨w₁, []⟩ (hself w₁)
      simp only
      cases hack : ackRouterCommand post (resultAck command result) ⟨w₁, []⟩ with
      | mk answer o =>
        rw [hack] at hfirst
        cases answer with
        | ok _ => exact hfirst
        | error message =>
          exact ackRouterCommand_keeps post (errorAck command message) (Takes command w₁)
            (fun w hw => takes_post rfl hw) o hfirst

theorem handle_acks {σ : Type} (env : Environment σ) (transport : Transport σ)
    (routerConnection : Option RouterConnection) (command : RouterCommand) (s : σ) :
    ∀ ack ∈ (handle env transport routerConnection command s).1.acks, ack.commandId = command.id := by
  have hsent : ∀ ack sent o, ack.commandId = command.id →
      (∀ a ∈ o.sent, a.commandId = command.id) →
      sent ∈ (ackRouterCommand transport ack o).2.sent → sent.commandId = command.id := by
    intro ack sent o hack ho hin
    rcases ackRouterCommand_mem hin with hbefore | rfl
    · exact ho sent hbefore
    · exact hack
  have hnone : ∀ a ∈ ([] : List Ack), a.commandId = command.id := fun _ h =>
    absurd h List.not_mem_nil
  intro ack hack
  unfold handle at hack
  split at hack
  next result s₁ _ =>
    have hfirst := fun a => hsent (resultAck command result) a ⟨s₁, []⟩ rfl hnone
    split at hack
    next o ho => exact hfirst ack (by rwa [ho])
    next message o ho =>
      exact hsent (errorAck command message) ack o rfl (fun a ha => hfirst a (by rwa [ho])) hack
  next message s₁ _ => exact hsent (errorAck command message) ack ⟨s₁, []⟩ rfl hnone hack

end Exchange

section Commands

variable {ρ : Type}

/-- The exchange, the commands that the sync under way has yet to handle, and what happened: the
commands created, those executed, in order and as often as they were, and the ids that were
acknowledged, whether the backend learnt it or not. -/
structure Commands (ρ : Type) where
  world : Exchange ρ
  batch : List RouterCommand
  created : List RouterCommand
  executed : List RouterCommand
  sent : List String

inductive Event where
  | create (command : RouterCommand)
  /-- A sync starts: its poll lists every command that is not acknowledged. -/
  | poll (fates : List Fate)
  | handle
  /-- An acknowledgement arrives late, or once more. -/
  | arrive (commandId : String)

def Commands.start (router : ρ) : Commands ρ := ⟨⟨router, [], []⟩, [], [], [], []⟩

def commandStep (env : Environment ρ) (routerConnection : Option RouterConnection)
    (s : Commands ρ) : Event → Option (Commands ρ)
  | .create command =>
    if command.id ∈ s.created.map RouterCommand.id then none
    else some { s with
      world := { s.world with unacknowledged := s.world.unacknowledged ++ [command] }
      created := s.created ++ [command] }
  | .poll fates =>
    if s.batch.isEmpty then
      some { s with world := { s.world with fates := fates }, batch := s.world.unacknowledged }
    else none
  | .handle =>
    match s.batch with
    | [] => none
    | command :: rest =>
      let r := handle env.onRouter post routerConnection command s.world
      some ⟨r.2, rest, s.created, s.executed ++ [command], s.sent ++ r.1.acks.map Ack.commandId⟩
  | .arrive commandId =>
    if commandId ∈ s.sent then some { s with world := s.world.acknowledge commandId } else none

/-- The state that executing each of these commands once, in this order, leads to. -/
def executeAll (env : Environment ρ) (routerConnection : Option RouterConnection)
    (commands : List RouterCommand) (router : ρ) : ρ :=
  commands.foldl (fun router command => (executeCommand env routerConnection command router).2) router

/-- The command to handle next has been executed before, and executing it again changes the
router. -/
def Reapplies (env : Environment ρ) (routerConnection : Option RouterConnection)
    (s : Commands ρ) : Event → Prop
  | .handle => ∃ command rest, s.batch = command :: rest ∧ command ∈ s.executed ∧
      (executeCommand env routerConnection command s.world.router).2 ≠ s.world.router
  | _ => False

theorem executeAll_snoc (env : Environment ρ) (routerConnection : Option RouterConnection)
    (commands : List RouterCommand) (command : RouterCommand) (router : ρ) :
    executeAll env routerConnection (commands ++ [command]) router =
      (executeCommand env routerConnection command
        (executeAll env routerConnection commands router)).2 :=
  List.foldl_append

theorem handles_run (env : Environment ρ) (routerConnection : Option RouterConnection)
    (commands : List RouterCommand) {s : Commands ρ} (hbatch : s.batch = commands) :
    ∃ s', runEvents (commandStep env routerConnection) s
        (List.replicate commands.length .handle) = some s' ∧ s'.batch = [] ∧
      s'.world = (handleAll env.onRouter post routerConnection commands s.world).2 := by
  induction commands generalizing s with
  | nil => exact ⟨s, rfl, hbatch, rfl⟩
  | cons command rest ih =>
    have hstep : ∃ next, commandStep env routerConnection s .handle = some next ∧
        next.batch = rest ∧
        next.world = (handle env.onRouter post routerConnection command s.world).2 := by
      simp only [commandStep, hbatch]
      exact ⟨_, rfl, rfl, rfl⟩
    obtain ⟨next, hnext, hleft, hworld⟩ := hstep
    obtain ⟨s', hrun, hdone, hlast⟩ := ih hleft
    refine ⟨s', ?_, hdone, ?_⟩
    · simp only [List.length_cons, List.replicate_succ, runEvents, hnext, Option.bind_some, hrun]
    · rw [hlast, hworld]
      rfl

/-- A poll with as many handlings as it lists commands is what `sync` does. -/
theorem sync_run (env : Environment ρ) (routerConnection : Option RouterConnection)
    {s : Commands ρ} (hidle : s.batch = []) (fates : List Fate) :
    ∃ s', runEvents (commandStep env routerConnection) s
        (.poll fates :: List.replicate s.world.unacknowledged.length .handle) = some s' ∧
      s'.batch = [] ∧
      s'.world = (sync env.onRouter post (.ok (s.world.unacknowledged, routerConnection))
        { s.world with fates := fates }).2 := by
  have hpoll : commandStep env routerConnection s (.poll fates) =
      some { s with world := { s.world with fates := fates }, batch := s.world.unacknowledged } := by
    simp [commandStep, hidle]
  obtain ⟨s', hrun, hdone, hworld⟩ := handles_run env routerConnection s.world.unacknowledged
    (s := { s with world := { s.world with fates := fates }, batch := s.world.unacknowledged }) rfl
  refine ⟨s', ?_, hdone, hworld⟩
  simp only [runEvents, hpoll, Option.bind_some, hrun]

/-- The backend still lists every command that was not executed, and some of those that were. -/
def Listed (taken fresh unacknowledged : List RouterCommand) : Prop :=
  ∃ left, left ⊆ taken ∧ unacknowledged = left ++ fresh

/-- Where a run is: the commands executed so far are the oldest, and the router is as executing each
of them once has left it. -/
structure Progress (env : Environment ρ) (routerConnection : Option RouterConnection) (router : ρ)
    (s : Commands ρ) (taken fresh : List RouterCommand) : Prop where
  created : s.created = taken ++ fresh
  distinct : ((taken ++ fresh).map RouterCommand.id).Nodup
  executed : ∀ command, command ∈ s.executed ↔ command ∈ taken
  sent : ∀ commandId ∈ s.sent, ∃ command ∈ taken, command.id = commandId
  listed : Listed taken fresh s.world.unacknowledged
  batch : ∃ again ahead, s.batch = again ++ ahead ∧ again ⊆ taken ∧ ahead <+: fresh
  router : s.world.router = executeAll env routerConnection taken router

theorem Listed.filter {taken fresh unacknowledged : List RouterCommand} {command : RouterCommand}
    (h : Listed taken fresh unacknowledged)
    (hdistinct : ((taken ++ fresh).map RouterCommand.id).Nodup) (hin : command ∈ taken) :
    Listed taken fresh (unacknowledged.filter (·.id ≠ command.id)) := by
  obtain ⟨left, hleft, rfl⟩ := h
  have hfresh : fresh.filter (fun c => decide (c.id ≠ command.id)) = fresh := by
    refine List.filter_eq_self.mpr ?_
    intro c hc
    rw [List.map_append] at hdistinct
    have hne := (List.nodup_append.mp hdistinct).2.2 command.id (List.mem_map_of_mem hin) c.id
      (List.mem_map_of_mem hc)
    exact decide_eq_true (Ne.symm hne)
  refine ⟨left.filter (fun c => decide (c.id ≠ command.id)), ?_, ?_⟩
  · intro c hc
    exact hleft (List.mem_of_mem_filter hc)
  · rw [List.filter_append, hfresh]

theorem Listed.takes {taken fresh : List RouterCommand} {command : RouterCommand} {w w' : Exchange ρ}
    (h : Listed taken fresh w.unacknowledged)
    (hdistinct : ((taken ++ fresh).map RouterCommand.id).Nodup) (hin : command ∈ taken)
    (htakes : Takes command w w') : Listed taken fresh w'.unacknowledged := by
  rcases htakes.2 with hkept | hgone
  · rwa [hkept]
  · rw [hgone]
    exact h.filter hdistinct hin

/-- The next command is one that was executed before, or the oldest of the others. -/
theorem Progress.next {env : Environment ρ} {routerConnection : Option RouterConnection} {router : ρ}
    {s : Commands ρ} {taken fresh rest : List RouterCommand} {command : RouterCommand}
    (h : Progress env routerConnection router s taken fresh) (hbatch : s.batch = command :: rest) :
    (command ∈ taken ∧ ∃ again ahead, rest = again ++ ahead ∧ again ⊆ taken ∧ ahead <+: fresh) ∨
      ∃ later, fresh = command :: later ∧ rest <+: later := by
  obtain ⟨again, ahead, hsplit, hagain, hahead⟩ := h.batch
  rw [hbatch] at hsplit
  cases again with
  | nil =>
    rw [List.nil_append] at hsplit
    obtain ⟨later, hlater⟩ := hahead
    rw [← hsplit] at hlater
    exact Or.inr ⟨rest ++ later, hlater.symm, List.prefix_append rest later⟩
  | cons c again =>
    obtain ⟨rfl, hrest⟩ := List.cons.inj hsplit
    have hin := List.cons_subset.mp hagain
    exact Or.inl ⟨hin.1, again, ahead, hrest, hin.2, hahead⟩

theorem Progress.handle {env : Environment ρ} {routerConnection : Option RouterConnection} {router : ρ}
    {s : Commands ρ} {taken fresh taken' fresh' rest : List RouterCommand} {command : RouterCommand}
    (h : Progress env routerConnection router s taken fresh)
    (hsplit : taken' ++ fresh' = taken ++ fresh)
    (htaken : ∀ c, c ∈ taken' ↔ c ∈ taken ∨ c = command)
    (hlisted : Listed taken' fresh' s.world.unacknowledged)
    (hrest : ∃ again ahead, rest = again ++ ahead ∧ again ⊆ taken' ∧ ahead <+: fresh')
    (hrouter : (executeCommand env routerConnection command s.world.router).2 =
      executeAll env routerConnection taken' router) :
    Progress env routerConnection router
      ⟨(Router.handle env.onRouter post routerConnection command s.world).2, rest, s.created,
        s.executed ++ [command], s.sent ++
          (Router.handle env.onRouter post routerConnection command s.world).1.acks.map
            Ack.commandId⟩ taken' fresh' := by
  have htakes := handle_router env routerConnection command s.world
  have hin : command ∈ taken' := (htaken command).mpr (Or.inr rfl)
  refine ⟨h.created.trans hsplit.symm, hsplit ▸ h.distinct, ?_, ?_, ?_, hrest, ?_⟩
  · intro c
    rw [List.mem_append, List.mem_singleton, h.executed, htaken]
  · intro commandId hsent
    rcases List.mem_append.mp hsent with hbefore | hnow
    · obtain ⟨c, hc, hid⟩ := h.sent commandId hbefore
      exact ⟨c, (htaken c).mpr (Or.inl hc), hid⟩
    · obtain ⟨ack, hack, rfl⟩ := List.mem_map.mp hnow
      exact ⟨command, hin, (handle_acks _ _ _ _ _ ack hack).symm⟩
  · exact Listed.takes (w := (onRouter (executeCommand env routerConnection command) s.world).2)
      hlisted (hsplit ▸ h.distinct) hin htakes
  · exact htakes.1.trans hrouter

theorem Progress.step {env : Environment ρ} {routerConnection : Option RouterConnection} {router : ρ}
    {s s' : Commands ρ} {e : Event} {taken fresh : List RouterCommand}
    (h : Progress env routerConnection router s taken fresh)
    (hstep : commandStep env routerConnection s e = some s')
    (hnot : ¬Reapplies env routerConnection s e) :
    ∃ taken' fresh', Progress env routerConnection router s' taken' fresh' := by
  cases e with
  | create command =>
    simp only [commandStep] at hstep
    split at hstep
    next => simp at hstep
    next hnew =>
      cases Option.some.inj hstep
      rw [h.created] at hnew
      obtain ⟨left, hleft, hunack⟩ := h.listed
      obtain ⟨again, ahead, hbatch, hagain, hahead⟩ := h.batch
      refine ⟨taken, fresh ++ [command], ?_, ?_, h.executed, h.sent, ⟨left, hleft, ?_⟩,
        ⟨again, ahead, hbatch, hagain, hahead.trans (List.prefix_append _ _)⟩, h.router⟩
      · simp only [h.created, List.append_assoc]
      · rw [← List.append_assoc, List.map_append]
        refine List.nodup_append.mpr ⟨h.distinct, List.nodup_singleton _, ?_⟩
        intro id hid id' hid'
        cases List.mem_singleton.mp hid'
        intro heq
        exact hnew (heq ▸ hid)
      · simp only [hunack, List.append_assoc]
  | poll fates =>
    simp only [commandStep] at hstep
    split at hstep
    next =>
      cases Option.some.inj hstep
      obtain ⟨left, hleft, hunack⟩ := h.listed
      exact ⟨taken, fresh, h.created, h.distinct, h.executed, h.sent, h.listed,
        ⟨left, fresh, hunack, hleft, List.prefix_refl fresh⟩, h.router⟩
    next => simp at hstep
  | handle =>
    simp only [commandStep] at hstep
    split at hstep
    next => simp at hstep
    next command rest hbatch =>
      cases Option.some.inj hstep
      rcases h.next hbatch with ⟨hin, hrest⟩ | ⟨later, rfl, hrest⟩
      · -- executed before: nothing changes
        have hsame : (executeCommand env routerConnection command s.world.router).2 =
            s.world.router := by
          by_contra hne
          exact hnot ⟨command, rest, hbatch, (h.executed command).mpr hin, hne⟩
        refine ⟨taken, fresh, h.handle rfl ?_ h.listed hrest (hsame.trans h.router)⟩
        intro c
        refine ⟨Or.inl, ?_⟩
        rintro (hc | rfl)
        · exact hc
        · exact hin
      · -- the oldest of those not executed
        obtain ⟨left, hleft, hunack⟩ := h.listed
        refine ⟨taken ++ [command], later, h.handle (by simp) (by simp) ?_ ?_ ?_⟩
        · refine ⟨left ++ [command], ?_, by simp [hunack]⟩
          exact List.append_subset.mpr ⟨List.Subset.trans hleft (List.subset_append_left _ _),
            List.subset_append_right _ _⟩
        · exact ⟨[], rest, rfl, List.nil_subset _, hrest⟩
        · rw [executeAll_snoc, h.router]
  | arrive commandId =>
    simp only [commandStep] at hstep
    split at hstep
    next hsent =>
      cases Option.some.inj hstep
      obtain ⟨command, hin, rfl⟩ := h.sent commandId hsent
      exact ⟨taken, fresh, h.created, h.distinct, h.executed, h.sent,
        h.listed.filter h.distinct hin, h.batch, h.router⟩
    next => simp at hstep

theorem progress_start (env : Environment ρ) (routerConnection : Option RouterConnection) (router : ρ) :
    Progress env routerConnection router (Commands.start router) [] [] :=
  ⟨rfl, List.nodup_nil, fun _ => Iff.rfl, fun _ h => absurd h List.not_mem_nil,
    ⟨[], List.Subset.refl [], rfl⟩, ⟨[], [], rfl, List.Subset.refl [], List.prefix_refl []⟩, rfl⟩

theorem progress_run {env : Environment ρ} {routerConnection : Option RouterConnection} {router : ρ}
    {es : List Event} {s : Commands ρ}
    (havoids : Avoids (commandStep env routerConnection) (Reapplies env routerConnection)
      (Commands.start router) es)
    (hrun : runEvents (commandStep env routerConnection) (Commands.start router) es = some s) :
    ∃ taken fresh, Progress env routerConnection router s taken fresh := by
  refine avoids_keeps (I := fun s => ∃ taken fresh, Progress env routerConnection router s taken fresh)
    ?_ ⟨[], [], progress_start env routerConnection router⟩ havoids hrun
  intro s e s' h hstep hnot
  obtain ⟨taken, fresh, h⟩ := h
  exact h.step hstep hnot

theorem Progress.overtaken {env : Environment ρ} {routerConnection : Option RouterConnection}
    {router : ρ} {s : Commands ρ} {taken fresh rest : List RouterCommand}
    {command later : RouterCommand} (h : Progress env routerConnection router s taken fresh)
    (hbatch : s.batch = command :: rest) (horder : [command, later].Sublist s.created)
    (hlater : later ∈ s.executed) : command ∈ s.executed := by
  rcases h.next hbatch with ⟨hin, _⟩ | ⟨fresher, rfl, _⟩
  · exact (h.executed command).mpr hin
  · exfalso
    have hapart := (List.nodup_append.mp h.distinct.of_map).2.2
    have hin := (h.executed later).mp hlater
    rw [h.created] at horder
    obtain ⟨l, r, hsplit, hl, hr⟩ := List.sublist_append_iff.mp horder
    cases l with
    | nil =>
      rw [List.nil_append] at hsplit
      have hlast : later ∈ r := hsplit ▸ List.mem_cons_of_mem _ (List.mem_singleton_self later)
      exact hapart later hin later (hr.subset hlast) rfl
    | cons c l =>
      obtain ⟨rfl, _⟩ := List.cons.inj hsplit
      exact hapart command (hl.subset List.mem_cons_self) command List.mem_cons_self rfl

/-- Unless a command that is executed again changes the router, the router is, once all commands are
acknowledged, as executing each of them once in creation order leaves it, and a command executed
after one created later has no effect. -/
theorem commands_in_creation_order (env : Environment ρ)
    (routerConnection : Option RouterConnection) (router : ρ) (es : List Event) (s : Commands ρ)
    (hrun : runEvents (commandStep env routerConnection) (Commands.start router) es = some s)
    (havoids : Avoids (commandStep env routerConnection) (Reapplies env routerConnection)
      (Commands.start router) es) :
    (s.world.unacknowledged = [] →
        s.world.router = executeAll env routerConnection s.created router) ∧
      ∀ xs ys between command rest later, es = xs ++ .handle :: ys →
        runEvents (commandStep env routerConnection) (Commands.start router) xs = some between →
        between.batch = command :: rest → [command, later].Sublist between.created →
        later ∈ between.executed →
          (executeCommand env routerConnection command between.world.router).2 =
            between.world.router := by
  refine ⟨?_, ?_⟩
  · intro hall
    obtain ⟨taken, fresh, h⟩ := progress_run havoids hrun
    obtain ⟨left, _, hlisted⟩ := h.listed
    rw [hall] at hlisted
    have hfresh : fresh = [] := (List.append_eq_nil_iff.mp hlisted.symm).2
    rw [h.router, h.created, hfresh, List.append_nil]
  · rintro xs ys between command rest later rfl hbetween hbatch horder hlater
    obtain ⟨hbefore, hnot, _⟩ := avoids_split havoids hbetween
    obtain ⟨taken, fresh, h⟩ := progress_run hbefore hbetween
    by_contra hne
    exact hnot ⟨command, rest, hbatch, h.overtaken hbatch horder hlater, hne⟩

end Commands

def macOnly : Payload := { pauseOrBlock with strategies := [.BLOCK_MAC] }

def blockCommand : RouterCommand := ⟨"cmd-1", .BLOCK_DEVICE, some "dev-1", macOnly⟩

def unblockCommand : RouterCommand := ⟨"cmd-2", .UNBLOCK_DEVICE, some "dev-1", macOnly⟩

def accepted : Fate := ⟨true, .ok ⟨200, "", .ok (none, ())⟩⟩

def refused : Fate := ⟨false, .error ⟨"TypeError", some "ECONNREFUSED", "fetch failed"⟩⟩

/-- The block is executed and acknowledged in vain, twice; the unblock that follows is acknowledged,
and the next poll lists the block alone. -/
def lateBlock : List Event :=
  [.create blockCommand, .create unblockCommand, .poll [refused, refused, accepted], .handle, .handle,
    .poll [accepted], .handle]

/-- All commands are acknowledged, and the device that was unblocked last is blocked. -/
theorem lateBlock_stays :
    ¬∀ es s, runEvents (commandStep sampleEnvironment (some sampleConnection))
        (Commands.start clearRouter) es = some s → s.world.unacknowledged = [] →
      s.world.router = executeAll sampleEnvironment (some sampleConnection) s.created clearRouter := by
  intro h
  have hrouter := h lateBlock _ rfl rfl
  exact absurd (congrFun hrouter .BLOCK_MAC) (by decide)

/-- The block's acknowledgements are lost, but it is executed again before the unblock exists. -/
def earlyBlock : List Event :=
  [.create blockCommand, .poll [refused, refused], .handle, .poll [accepted], .handle,
    .create unblockCommand, .poll [accepted], .handle]

theorem commands_in_creation_order_earlyBlock :
    ∃ s, runEvents (commandStep sampleEnvironment (some sampleConnection))
        (Commands.start clearRouter) earlyBlock = some s ∧ s.world.unacknowledged = [] ∧
      s.world.router = executeAll sampleEnvironment (some sampleConnection) s.created clearRouter := by
  have hblocked : (executeCommand sampleEnvironment (some sampleConnection) blockCommand
      (Function.update clearRouter .BLOCK_MAC true)).2 = Function.update clearRouter .BLOCK_MAC true := by
    change Function.update (Function.update clearRouter .BLOCK_MAC true) .BLOCK_MAC true = _
    rw [Function.update_idem]
  refine ⟨_, rfl, rfl, (commands_in_creation_order sampleEnvironment (some sampleConnection)
    clearRouter earlyBlock _ rfl ?_).1 rfl⟩
  refine avoids_cons rfl id (avoids_cons rfl id (avoids_cons rfl ?_ (avoids_cons rfl id
    (avoids_cons rfl ?_ (avoids_cons rfl id (avoids_cons rfl id (avoids_cons rfl ?_ trivial)))))))
  · rintro ⟨_, _, _, hin, _⟩
    exact List.not_mem_nil hin
  · rintro ⟨_, _, hbatch, _, hne⟩
    cases hbatch
    exact hne hblocked
  · rintro ⟨_, _, hbatch, hin, _⟩
    cases hbatch
    have hid : unblockCommand.id ∈ [blockCommand, blockCommand].map RouterCommand.id :=
      List.mem_map_of_mem hin
    exact absurd hid (by decide)

end Router

end GuardTime
