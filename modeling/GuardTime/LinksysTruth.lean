import GuardTime.LinksysPlugin

namespace GuardTime

namespace Linksys

/-- The parental control denies a device for which a blocking rule is in force. -/
def ParentalControlSettings.denies (settings : ParentalControlSettings) (macAddress : String) : Bool :=
  settings.isParentalControlEnabled && settings.blocks macAddress

/-- What the list of the MAC filter means depends on its mode. -/
def MACFilterSettings.denies (settings : MACFilterSettings) (macAddress : String) : Bool :=
  match settings.macFilterMode with
  | .Disabled => false
  | .Allow => !settings.lists macAddress
  | .Deny => settings.lists macAddress

def LinksysRouter.denies (router : LinksysRouter) (macAddress : String) : Bool :=
  router.parentalControl.denies macAddress || router.macFilter.denies macAddress

inductive Operation where
  | pauseDevice
  | resumeDevice
  | blockMAC
  | unblockMAC
deriving DecidableEq

def Operation.run : Operation → EditFates → Router.Ctx → Router.RouterTarget → LinksysRouter →
    Router.ActionResult × LinksysRouter
  | .pauseDevice => Linksys.pauseDevice
  | .resumeDevice => Linksys.resumeDevice
  | .blockMAC => Linksys.blockMAC
  | .unblockMAC => Linksys.unblockMAC

/-- What a reported success of the operation says about the router. -/
def Operation.Achieved (op : Operation) (router : LinksysRouter) (macAddress : String) : Prop :=
  match op with
  | .pauseDevice | .blockMAC => router.denies macAddress = true
  | .resumeDevice => ¬(router.parentalControl.isParentalControlEnabled = true ∧
      router.parentalControl.names macAddress = true)
  | .unblockMAC => ¬(router.macFilter.macFilterMode = .Deny ∧ router.macFilter.lists macAddress = true)

/-- A success reported outside dry run is true. -/
def Truthful (op : Operation) (fates : EditFates) (ctx : Router.Ctx) (target : Router.RouterTarget)
    (router : LinksysRouter) : Prop :=
  ctx.dryRun = false → (op.run fates ctx target router).1.success = true →
    ∃ macAddress, truthy target.macAddress = some macAddress ∧
      op.Achieved (op.run fates ctx target router).2 macAddress

/-- The calls after which `pauseDevice` goes by a rule it found, and not by one it wrote. -/
def Finds (fates : EditFates) : Prop :=
  fates.before = .answered ∨ (fates.write = .ignored ∧ fates.verify = .answered)

/-- The router and the failures on which an operation reports a success that is none. -/
def Operation.Misleads (op : Operation) (fates : EditFates) (router : LinksysRouter)
    (macAddress : String) : Prop :=
  match op with
  | .pauseDevice => Finds fates ∧ router.parentalControl.blocks macAddress = true ∧
      router.parentalControl.isParentalControlEnabled = false ∧
      router.macFilter.denies macAddress = false
  | .resumeDevice => CheckedEdit.Blind fates ∧ router.parentalControl.isParentalControlEnabled = true ∧
      router.parentalControl.names macAddress = true
  | .blockMAC => False
  | .unblockMAC => CheckedEdit.Blind fates ∧ router.macFilter.macFilterMode = .Deny ∧
      router.macFilter.lists macAddress = true

theorem sameMac_self (macAddress : String) : sameMac macAddress macAddress = true := by
  simp [sameMac]

theorem filter_length_iff {α : Type} {p : α → Bool} {xs : List α} :
    (xs.filter fun x => !p x).length = xs.length ↔ xs.any p = false := by
  rw [List.length_filter_eq_length_iff, List.any_eq_false]
  simp

theorem any_filter_not {α : Type} (p : α → Bool) (xs : List α) :
    (xs.filter fun x => !p x).any p = false := by
  rw [List.any_eq_false]
  intro x hx
  simpa using (List.mem_filter.mp hx).2

theorem resumeEdit_undoes (macAddress : String) :
    (resumeEdit macAddress).Undoes Router.ActionResult.success
      (ParentalControlSettings.names · macAddress) where
  settled_isNone s := by
    simp only [resumeEdit, filter_length_iff, ParentalControlSettings.names]
    cases s.rules.any fun rule => rule.isFor macAddress <;> rfl
  settled_ok s result h := by
    simp only [resumeEdit] at h
    split at h
    next => cases h; rfl
    next => simp at h
  verified_ok s := by
    simp only [resumeEdit]
    cases s.names macAddress <;> rfl
  failed_ok error := rfl
  fallback := rfl
  verifyFallback := rfl
  edit s := any_filter_not (fun rule : ParentalRule => rule.isFor macAddress) s.rules

theorem unblockEdit_undoes (macAddress : String) :
    (unblockEdit macAddress).Undoes Router.ActionResult.success
      (MACFilterSettings.lists · macAddress) where
  settled_isNone s := by
    simp only [unblockEdit, filter_length_iff, MACFilterSettings.lists]
    cases s.macAddresses.any fun m => sameMac m macAddress <;> rfl
  settled_ok s result h := by
    simp only [unblockEdit] at h
    split at h
    next => cases h; rfl
    next => simp at h
  verified_ok s := by
    simp only [unblockEdit]
    cases s.lists macAddress <;> rfl
  failed_ok error := rfl
  fallback := rfl
  verifyFallback := rfl
  edit s := any_filter_not (fun m => sameMac m macAddress) s.macAddresses

theorem look_blocks {fate : ReadFate} {settings : ParentalControlSettings} {macAddress : String} :
    (CheckedEdit.look fate ⟨false, []⟩ settings).blocks macAddress =
      (decide (fate = .answered) && settings.blocks macAddress) := by
  cases fate <;> simp [CheckedEdit.look, ParentalControlSettings.blocks]

section Edits

variable {macAddress : String} {deviceId : Option String} {fates : EditFates}

/-- A pause that goes by a rule it found reports success and changes nothing. -/
theorem pauseEdit_finds {s : ParentalControlSettings} (deviceId : Option String) (h : Finds fates)
    (hb : s.blocks macAddress = true) :
    ((pauseEdit macAddress deviceId).run fates s).1.success = true ∧
      ((pauseEdit macAddress deviceId).run fates s).2 = s := by
  cases hbefore : fates.before with
  | answered =>
    simp [CheckedEdit.run, pauseEdit, look_blocks, hbefore, hb, succeeds]
  | failed =>
    obtain hanswered | ⟨hw, hv⟩ := h
    · simp [hbefore] at hanswered
    · simp [CheckedEdit.run, pauseEdit, look_blocks, hbefore, hw, hv, hb, succeeds]

/-- A pause that reports success found a blocking rule, or wrote one and turned the control on. -/
theorem pauseEdit_success {s : ParentalControlSettings}
    (h : ((pauseEdit macAddress deviceId).run fates s).1.success = true) :
    (Finds fates ∧ s.blocks macAddress = true ∧
      ((pauseEdit macAddress deviceId).run fates s).2 = s) ∨
    (((pauseEdit macAddress deviceId).run fates s).2.isParentalControlEnabled = true ∧
      ((pauseEdit macAddress deviceId).run fates s).2.blocks macAddress = true) := by
  have hstate := (pauseEdit macAddress deviceId).run_state fates s
  rcases (pauseEdit macAddress deviceId).run_result fates s with
    ⟨result, hsettled, hrun⟩ | ⟨hopen, ⟨error, _, hfailed⟩ | ⟨hw, hverified⟩⟩
  · simp only [pauseEdit, look_blocks] at hsettled
    split at hsettled
    next hb =>
      simp only [Bool.and_eq_true, decide_eq_true_eq] at hb
      exact Or.inl ⟨Or.inl hb.1, hb.2, by rw [hrun]⟩
    next => simp at hsettled
  · rw [hfailed] at h
    simp [pauseEdit, fails] at h
  · rw [hverified] at h
    simp only [pauseEdit, look_blocks] at h
    split at h
    next hb =>
      simp only [Bool.and_eq_true, decide_eq_true_eq] at hb
      rcases hw with hw | hw
      · refine Or.inr ⟨?_, hb.2⟩
        rw [hstate, if_pos ⟨by rw [hopen]; rfl, by rw [hw]; rfl⟩]
        rfl
      · have hsame : ((pauseEdit macAddress deviceId).run fates s).2 = s := by
          rw [hstate, if_neg (by simp [hw, WriteFate.applied])]
        refine Or.inl ⟨Or.inr ⟨hw, hb.1⟩, ?_, hsame⟩
        rw [← hsame]
        exact hb.2
    next => simp [fails] at h

theorem blockEdit_success {s : MACFilterSettings}
    (h : ((blockEdit macAddress).run fates s).1.success = true) :
    ((blockEdit macAddress).run fates s).2.denies macAddress = true := by
  rcases (blockEdit macAddress).run_result fates s with
    ⟨result, hsettled, _⟩ | ⟨_, ⟨error, _, hfailed⟩ | ⟨_, hverified⟩⟩
  · simp [blockEdit] at hsettled
  · rw [hfailed] at h
    simp [blockEdit, fails] at h
  · rw [hverified] at h
    generalize ((blockEdit macAddress).run fates s).2 = after at h
    cases hv : fates.verify with
    | failed => simp [blockEdit, hv, CheckedEdit.look, MACFilterSettings.lists, fails] at h
    | answered =>
      simp only [blockEdit, hv, CheckedEdit.look] at h
      split at h
      next hb =>
        simp only [Bool.and_eq_true, decide_eq_true_eq] at hb
        simp only [MACFilterSettings.denies, hb]
      next => simp [fails] at h

end Edits

theorem parentalControl_denies {router : LinksysRouter} {macAddress : String}
    (h : router.parentalControl.denies macAddress = true) : router.denies macAddress = true := by
  simp [LinksysRouter.denies, h]

/-- Outside dry run a success was reported for a target with an address, by its edit. -/
theorem withMac_success {ctx : Router.Ctx} {target : Router.RouterTarget} {dryRun : String → String}
    {missing : String} {router : LinksysRouter}
    {edit : String → Router.ActionResult × LinksysRouter} (hdry : ctx.dryRun = false)
    (h : (withMac ctx target dryRun missing router edit).1.success = true) :
    ∃ macAddress, truthy target.macAddress = some macAddress ∧
      withMac ctx target dryRun missing router edit = edit macAddress := by
  simp only [withMac, hdry, Bool.false_eq_true, if_false] at h ⊢
  cases hmac : truthy target.macAddress with
  | none => simp [hmac, fails] at h
  | some macAddress => exact ⟨macAddress, rfl, rfl⟩

def Operation.edited (op : Operation) (fates : EditFates) (deviceId : Option String)
    (router : LinksysRouter) (macAddress : String) : Router.ActionResult × LinksysRouter :=
  match op with
  | .pauseDevice =>
    let r := (pauseEdit macAddress deviceId).run fates router.parentalControl
    (r.1, { router with parentalControl := r.2 })
  | .resumeDevice =>
    let r := (resumeEdit macAddress).run fates router.parentalControl
    (r.1, { router with parentalControl := r.2 })
  | .blockMAC =>
    let r := (blockEdit macAddress).run fates router.macFilter
    (r.1, { router with macFilter := r.2 })
  | .unblockMAC =>
    let r := (unblockEdit macAddress).run fates router.macFilter
    (r.1, { router with macFilter := r.2 })

theorem Operation.run_edited {op : Operation} {fates : EditFates} {ctx : Router.Ctx}
    {target : Router.RouterTarget} {router : LinksysRouter} {macAddress : String}
    (hdry : ctx.dryRun = false) (hmac : truthy target.macAddress = some macAddress) :
    op.run fates ctx target router = op.edited fates target.deviceId router macAddress := by
  cases op <;>
    simp [Operation.run, Operation.edited, Linksys.pauseDevice, Linksys.resumeDevice,
      Linksys.blockMAC, Linksys.unblockMAC, withMac, hdry, hmac]

theorem Operation.run_success {op : Operation} {fates : EditFates} {ctx : Router.Ctx}
    {target : Router.RouterTarget} {router : LinksysRouter} (hdry : ctx.dryRun = false)
    (h : (op.run fates ctx target router).1.success = true) :
    ∃ macAddress, truthy target.macAddress = some macAddress := by
  cases op <;> exact (withMac_success hdry h).imp fun _ hmac => hmac.1

/-- An edit reports a success that is none exactly when the router and the failures mislead it. -/
theorem Operation.misleads_iff (op : Operation) (fates : EditFates) (deviceId : Option String)
    (router : LinksysRouter) (macAddress : String) :
    ((op.edited fates deviceId router macAddress).1.success = true ∧
      ¬op.Achieved (op.edited fates deviceId router macAddress).2 macAddress) ↔
      op.Misleads fates router macAddress := by
  cases op with
  | pauseDevice =>
    simp only [Operation.edited, Operation.Achieved, Operation.Misleads]
    refine ⟨?_, ?_⟩
    · intro ⟨hsuccess, hdenies⟩
      rcases pauseEdit_success hsuccess with ⟨hfinds, hblocks, hsame⟩ | ⟨hon, hblocks⟩
      · rw [hsame] at hdenies
        simp [LinksysRouter.denies, ParentalControlSettings.denies, hblocks] at hdenies
        exact ⟨hfinds, hblocks, hdenies⟩
      · refine absurd (parentalControl_denies ?_) hdenies
        simp [ParentalControlSettings.denies, hon, hblocks]
    · intro ⟨hfinds, hblocks, hoff, hfilter⟩
      obtain ⟨hsuccess, hsame⟩ := pauseEdit_finds deviceId hfinds hblocks
      refine ⟨hsuccess, ?_⟩
      simp [hsame, LinksysRouter.denies, ParentalControlSettings.denies, hoff, hfilter]
  | resumeDevice =>
    have hundoes := resumeEdit_undoes macAddress
    simp only [Operation.edited, Operation.Achieved, Operation.Misleads, not_not]
    refine ⟨?_, ?_⟩
    · intro ⟨hsuccess, hon, hthere⟩
      obtain ⟨hblind, hbefore⟩ :=
        (hundoes.deceives_iff fates router.parentalControl).mp ⟨hsuccess, hthere⟩
      rw [hundoes.there_unchanged hthere] at hon
      exact ⟨hblind, hon, hbefore⟩
    · intro ⟨hblind, hon, hbefore⟩
      obtain ⟨hsuccess, hthere⟩ :=
        (hundoes.deceives_iff fates router.parentalControl).mpr ⟨hblind, hbefore⟩
      refine ⟨hsuccess, ?_, hthere⟩
      rw [hundoes.there_unchanged hthere]
      exact hon
  | blockMAC =>
    simp only [Operation.edited, Operation.Achieved, Operation.Misleads, iff_false, not_and,
      not_not]
    intro hsuccess
    simp [LinksysRouter.denies, blockEdit_success hsuccess]
  | unblockMAC =>
    have hundoes := unblockEdit_undoes macAddress
    simp only [Operation.edited, Operation.Achieved, Operation.Misleads, not_not]
    refine ⟨?_, ?_⟩
    · intro ⟨hsuccess, hdeny, hthere⟩
      obtain ⟨hblind, hbefore⟩ :=
        (hundoes.deceives_iff fates router.macFilter).mp ⟨hsuccess, hthere⟩
      rw [hundoes.there_unchanged hthere] at hdeny
      exact ⟨hblind, hdeny, hbefore⟩
    · intro ⟨hblind, hdeny, hbefore⟩
      obtain ⟨hsuccess, hthere⟩ :=
        (hundoes.deceives_iff fates router.macFilter).mpr ⟨hblind, hbefore⟩
      refine ⟨hsuccess, ?_, hthere⟩
      rw [hundoes.there_unchanged hthere]
      exact hdeny

/-- The plugin is truthful except where an idempotent exit or a fallback misleads it. -/
theorem linksys_truthful_iff (op : Operation) (fates : EditFates) (ctx : Router.Ctx)
    (target : Router.RouterTarget) (router : LinksysRouter) :
    Truthful op fates ctx target router ↔
      ¬(ctx.dryRun = false ∧ ∃ macAddress, truthy target.macAddress = some macAddress ∧
        op.Misleads fates router macAddress) := by
  refine ⟨?_, ?_⟩
  · intro htruth ⟨hdry, macAddress, hmac, hmisleads⟩
    obtain ⟨hsuccess, hnot⟩ :=
      (op.misleads_iff fates target.deviceId router macAddress).mpr hmisleads
    rw [← Operation.run_edited hdry hmac] at hsuccess hnot
    obtain ⟨macAddress', hmac', hachieved⟩ := htruth hdry hsuccess
    obtain rfl : macAddress = macAddress' := Option.some.inj (hmac ▸ hmac')
    exact hnot hachieved
  · intro hnot hdry hsuccess
    obtain ⟨macAddress, hmac⟩ := Operation.run_success hdry hsuccess
    refine ⟨macAddress, hmac, ?_⟩
    rw [Operation.run_edited hdry hmac] at hsuccess ⊢
    by_contra hachieved
    exact hnot ⟨hdry, macAddress, hmac, (op.misleads_iff ..).mp ⟨hsuccess, hachieved⟩⟩

/-- The first read of `resumeDevice` fails while a rule for the device is in force. -/
theorem linksys_untruthful :
    ¬∀ (op : Operation) (fates : EditFates) (ctx : Router.Ctx) (target : Router.RouterTarget)
      (router : LinksysRouter), Truthful op fates ctx target router := by
  intro h
  have hnames : ParentalControlSettings.names ⟨true, [⟨some "aa:bb", "bedtime", true⟩]⟩ "aa:bb" = true := by
    simp [ParentalControlSettings.names, ParentalRule.isFor, ParentalRule.mac, sameMac_self]
  obtain ⟨macAddress, hmac, hclear⟩ := h .resumeDevice ⟨.failed, .done, .answered⟩
    ⟨none, none, false⟩ ⟨none, some "aa:bb", none, none⟩
    ⟨⟨true, [⟨some "aa:bb", "bedtime", true⟩]⟩, ⟨.Disabled, []⟩⟩ rfl rfl
  obtain rfl : "aa:bb" = macAddress := Option.some.inj hmac
  exact hclear ⟨rfl, hnames⟩

end Linksys

end GuardTime
