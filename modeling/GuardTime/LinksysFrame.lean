import GuardTime.LinksysTruth

namespace GuardTime

namespace Linksys

/-- A device other than the target of a call. -/
def Other (target : Router.RouterTarget) (macAddress : String) : Prop :=
  ∀ mac, target.macAddress = some mac → sameMac macAddress mac = false

/-- What a router keeps of other devices: their verdicts, their rules and their filter entries. -/
structure Frames (other : String → Prop) (router after : LinksysRouter) : Prop where
  verdict : ∀ m, other m → after.denies m = router.denies m
  rules : ∀ rule ∈ router.parentalControl.rules, other rule.mac → rule ∈ after.parentalControl.rules
  entries : ∀ m ∈ router.macFilter.macAddresses, other m → m ∈ after.macFilter.macAddresses

/-- A pause turns the whole control on, and writes its own rule alone when it read nothing. -/
def pauseDisturbs (before : ReadFate) (router : LinksysRouter) (macAddress : String) : Prop :=
  match before with
  | .answered => router.parentalControl.blocks macAddress = false ∧
      router.parentalControl.isParentalControlEnabled = false ∧
      ∃ m, sameMac m macAddress = false ∧ router.parentalControl.blocks m = true ∧
        router.macFilter.denies m = false
  | .failed => ∃ rule ∈ router.parentalControl.rules, sameMac rule.mac macAddress = false

/-- A block sets the mode to deny whatever the list meant, and writes its own entry alone when it
read nothing. -/
def blockDisturbs (before : ReadFate) (router : LinksysRouter) (macAddress : String) : Prop :=
  (before = .failed ∧ ∃ m ∈ router.macFilter.macAddresses, sameMac m macAddress = false) ∨
  (router.macFilter.macFilterMode = .Allow ∧
    ∃ m, sameMac m macAddress = false ∧ router.parentalControl.denies m = false) ∨
  (router.macFilter.macFilterMode = .Disabled ∧
    ∃ m, sameMac m macAddress = false ∧ router.macFilter.lists m = true ∧
      router.parentalControl.denies m = false)

/-- The router and the failures on which an operation touches other devices, if its write is made. -/
def Operation.Disturbs (op : Operation) (fates : EditFates) (router : LinksysRouter)
    (macAddress : String) : Prop :=
  match op with
  | .pauseDevice => pauseDisturbs fates.before router macAddress
  | .resumeDevice => False
  | .blockMAC => blockDisturbs fates.before router macAddress
  | .unblockMAC => False

theorem sameMac_comm (a b : String) : sameMac a b = sameMac b a := by
  simp [sameMac, eq_comm]

theorem sameMac_other {a b c : String} (hab : sameMac a b = true) (hbc : sameMac b c = false) :
    sameMac a c = false := by
  simp only [sameMac, decide_eq_true_eq, decide_eq_false_iff_not] at *
  rw [hab]
  exact hbc

theorem Frames.refl (other : String → Prop) (router : LinksysRouter) : Frames other router router where
  verdict _ _ := rfl
  rules _ hrule _ := hrule
  entries _ hm _ := hm

theorem any_filter_other {α : Type} {p q : α → Bool} (xs : List α)
    (h : ∀ x ∈ xs, p x = true → q x = false) : (xs.filter fun x => !q x).any p = xs.any p := by
  rw [List.any_filter]
  induction xs with
  | nil => rfl
  | cons x xs ih =>
    rw [List.any_cons, List.any_cons, ih fun y hy => h y (List.mem_cons_of_mem x hy)]
    cases hp : p x with
    | false => simp
    | true => simp [h x List.mem_cons_self hp]

section Edits

variable {macAddress : String} {deviceId : Option String} {fates : EditFates}
  {router : LinksysRouter}

theorem pauseEdit_blocks {settings : ParentalControlSettings} {m : String}
    (h : sameMac m macAddress = false) :
    ((pauseEdit macAddress deviceId).edit settings).blocks m = settings.blocks m := by
  rw [sameMac_comm] at h
  simp [pauseEdit, ParentalControlSettings.blocks, ParentalRule.isFor, ParentalRule.mac, h]

theorem pause_answered_iff (hopen : router.parentalControl.blocks macAddress = false) :
    Frames (sameMac · macAddress = false) router
      { router with parentalControl := (pauseEdit macAddress deviceId).edit router.parentalControl } ↔
      ¬pauseDisturbs .answered router macAddress := by
  refine ⟨?_, ?_⟩
  · intro hframes ⟨_, hoff, m, hother, hblocks, hfilter⟩
    have hverdict := hframes.verdict m hother
    simp only [LinksysRouter.denies, ParentalControlSettings.denies, pauseEdit_blocks hother, hblocks,
      hfilter, hoff] at hverdict
    simp [pauseEdit] at hverdict
  · intro hnot
    refine ⟨?_, ?_, ?_⟩
    · intro m hother
      simp only [LinksysRouter.denies, ParentalControlSettings.denies, pauseEdit_blocks hother]
      cases hblocks : router.parentalControl.blocks m with
      | false => simp
      | true =>
        cases hfilter : router.macFilter.denies m with
        | true => simp
        | false =>
          cases hon : router.parentalControl.isParentalControlEnabled with
          | true => rfl
          | false => exact absurd ⟨hopen, hon, m, hother, hblocks, hfilter⟩ hnot
    · intro rule hrule _
      exact List.mem_append_left _ hrule
    · exact (Frames.refl _ router).entries

theorem pause_failed_iff :
    Frames (sameMac · macAddress = false) router
      { router with parentalControl := (pauseEdit macAddress deviceId).edit ⟨false, []⟩ } ↔
      ¬pauseDisturbs .failed router macAddress := by
  refine ⟨?_, ?_⟩
  · intro hframes ⟨rule, hrule, hother⟩
    have hkept := hframes.rules rule hrule hother
    simp only [pauseEdit, List.nil_append, List.mem_singleton] at hkept
    rw [hkept] at hother
    simp [ParentalRule.mac, sameMac_self] at hother
  · intro hnot
    have htargets : ∀ rule ∈ router.parentalControl.rules, sameMac rule.mac macAddress = true := by
      intro rule hrule
      by_contra hother
      exact hnot ⟨rule, hrule, by simpa using hother⟩
    refine ⟨?_, ?_, (Frames.refl _ router).entries⟩
    · intro m hother
      have hblocks : router.parentalControl.blocks m = false := by
        simp only [ParentalControlSettings.blocks, List.any_eq_false, Bool.and_eq_true, not_and]
        intro rule hrule hfor
        have hsame := htargets rule hrule
        rw [sameMac_comm] at hother
        simp [ParentalRule.isFor, sameMac_other hsame hother] at hfor
      simp only [LinksysRouter.denies, ParentalControlSettings.denies, pauseEdit_blocks hother, hblocks]
      simp [ParentalControlSettings.blocks]
    · intro rule hrule hother
      simp [htargets rule hrule] at hother

theorem pause_frames_iff :
    Frames (sameMac · macAddress = false) router
      (Operation.pauseDevice.edited fates deviceId router macAddress).2 ↔
      ¬(fates.write.applied = true ∧ pauseDisturbs fates.before router macAddress) := by
  simp only [Operation.edited, CheckedEdit.run_state]
  split
  next hwritten =>
    obtain ⟨hopen, happlied⟩ := hwritten
    cases hbefore : fates.before with
    | answered =>
      rw [hbefore] at hopen
      have hblocks : router.parentalControl.blocks macAddress = false := by
        cases hb : router.parentalControl.blocks macAddress with
        | false => rfl
        | true => simp [pauseEdit, CheckedEdit.look, hb] at hopen
      simp only [happlied, true_and]
      exact pause_answered_iff hblocks
    | failed =>
      simp only [happlied, true_and]
      exact pause_failed_iff
  next hkept =>
    refine iff_of_true (Frames.refl _ router) ?_
    intro h
    obtain ⟨happlied, hdisturbs⟩ := h
    refine hkept ⟨?_, happlied⟩
    cases hbefore : fates.before with
    | answered =>
      rw [hbefore] at hdisturbs
      simp [pauseEdit, CheckedEdit.look, hdisturbs.1]
    | failed => simp [pauseEdit, CheckedEdit.look, ParentalControlSettings.blocks]

theorem resume_frames :
    Frames (sameMac · macAddress = false) router
      (Operation.resumeDevice.edited fates deviceId router macAddress).2 := by
  simp only [Operation.edited, CheckedEdit.run_state]
  split
  next hwritten =>
    have hbefore : fates.before = .answered := by
      rw [(resumeEdit_undoes macAddress).settled_isNone] at hwritten
      cases hb : fates.before with
      | answered => rfl
      | failed => simp [hb, CheckedEdit.look, resumeEdit, ParentalControlSettings.names] at hwritten
    rw [hbefore]
    refine ⟨?_, ?_, (Frames.refl _ router).entries⟩
    · intro m hother
      have hblocks : ((resumeEdit macAddress).edit router.parentalControl).blocks m =
          router.parentalControl.blocks m := by
        refine any_filter_other router.parentalControl.rules ?_
        intro rule _ hfor
        simp only [Bool.and_eq_true] at hfor
        exact sameMac_other hfor.1 hother
      simp only [LinksysRouter.denies, ParentalControlSettings.denies, CheckedEdit.look, hblocks]
      rfl
    · intro rule hrule hother
      exact List.mem_filter.mpr ⟨hrule, by simp [ParentalRule.isFor, hother]⟩
  next => exact Frames.refl _ router

theorem unblock_frames :
    Frames (sameMac · macAddress = false) router
      (Operation.unblockMAC.edited fates deviceId router macAddress).2 := by
  simp only [Operation.edited, CheckedEdit.run_state]
  split
  next hwritten =>
    have hbefore : fates.before = .answered := by
      rw [(unblockEdit_undoes macAddress).settled_isNone] at hwritten
      cases hb : fates.before with
      | answered => rfl
      | failed => simp [hb, CheckedEdit.look, unblockEdit, MACFilterSettings.lists] at hwritten
    rw [hbefore]
    refine ⟨?_, fun _ hrule _ => hrule, ?_⟩
    · intro m hother
      have hlists : ((unblockEdit macAddress).edit router.macFilter).lists m =
          router.macFilter.lists m := by
        refine any_filter_other router.macFilter.macAddresses ?_
        intro entry _ hsame
        exact sameMac_other hsame hother
      simp only [LinksysRouter.denies, MACFilterSettings.denies, CheckedEdit.look, hlists]
      rfl
    · intro m hm hother
      exact List.mem_filter.mpr ⟨hm, by simp [hother]⟩
  next => exact Frames.refl _ router

theorem blockEdit_lists {settings : MACFilterSettings} {m : String}
    (h : sameMac m macAddress = false) :
    ((blockEdit macAddress).edit settings).lists m = settings.lists m := by
  rw [sameMac_comm] at h
  simp only [blockEdit]
  split <;> simp [MACFilterSettings.lists, h]

theorem blockEdit_denies {settings : MACFilterSettings} {m : String}
    (h : sameMac m macAddress = false) :
    ((blockEdit macAddress).edit settings).denies m = settings.lists m :=
  blockEdit_lists h

theorem entry_of_lists {settings : MACFilterSettings} {m : String}
    (h : sameMac m macAddress = false) (hlists : settings.lists m = true) :
    ∃ entry ∈ settings.macAddresses, sameMac entry macAddress = false := by
  obtain ⟨entry, hentry, hsame⟩ := List.any_eq_true.mp hlists
  exact ⟨entry, hentry, sameMac_other hsame h⟩

/-- After a block whose first read failed, the list holds the target alone. -/
theorem blockEdit_failed_entries {m : String} (h : sameMac m macAddress = false) :
    m ∉ ((blockEdit macAddress).edit ⟨.Disabled, []⟩).macAddresses := by
  intro hm
  simp only [blockEdit, MACFilterSettings.lists, List.any_nil, Bool.false_eq_true, if_false,
    List.nil_append, List.mem_singleton] at hm
  rw [hm, sameMac_self] at h
  simp at h

theorem block_answered_iff :
    Frames (sameMac · macAddress = false) router
      { router with macFilter := (blockEdit macAddress).edit router.macFilter } ↔
      ¬blockDisturbs .answered router macAddress := by
  refine ⟨?_, ?_⟩
  · intro hframes hdisturbs
    rcases hdisturbs with ⟨hfailed, _⟩ | ⟨hmode, m, hother, hparental⟩ |
      ⟨hmode, m, hother, hlists, hparental⟩
    · simp at hfailed
    · have hverdict := hframes.verdict m hother
      simp only [LinksysRouter.denies, hparental, blockEdit_denies hother, Bool.false_or] at hverdict
      simp [MACFilterSettings.denies, hmode] at hverdict
    · have hverdict := hframes.verdict m hother
      simp only [LinksysRouter.denies, hparental, blockEdit_denies hother, Bool.false_or] at hverdict
      simp [MACFilterSettings.denies, hmode, hlists] at hverdict
  · intro hnot
    refine ⟨?_, fun _ hrule _ => hrule, ?_⟩
    · intro m hother
      simp only [LinksysRouter.denies, blockEdit_denies hother]
      cases hparental : router.parentalControl.denies m with
      | true => rfl
      | false =>
        simp only [Bool.false_or, MACFilterSettings.denies]
        cases hmode : router.macFilter.macFilterMode with
        | Deny => rfl
        | Allow => exact absurd (Or.inr (Or.inl ⟨hmode, m, hother, hparental⟩)) hnot
        | Disabled =>
          cases hlists : router.macFilter.lists m with
          | false => rfl
          | true =>
            exact absurd (Or.inr (Or.inr ⟨hmode, m, hother, hlists, hparental⟩)) hnot
    · intro m hm _
      simp only [blockEdit]
      split
      next => exact hm
      next => exact List.mem_append_left _ hm

theorem block_failed_iff :
    Frames (sameMac · macAddress = false) router
      { router with macFilter := (blockEdit macAddress).edit ⟨.Disabled, []⟩ } ↔
      ¬blockDisturbs .failed router macAddress := by
  refine ⟨?_, ?_⟩
  · intro hframes hdisturbs
    have hnone : ¬∃ m ∈ router.macFilter.macAddresses, sameMac m macAddress = false := by
      intro ⟨m, hm, hother⟩
      exact blockEdit_failed_entries hother (hframes.entries m hm hother)
    rcases hdisturbs with ⟨_, hentry⟩ | ⟨hmode, m, hother, hparental⟩ |
      ⟨_, m, hother, hlists, _⟩
    · exact hnone hentry
    · have hverdict := hframes.verdict m hother
      simp only [LinksysRouter.denies, hparental, blockEdit_denies hother, Bool.false_or] at hverdict
      have hlists : router.macFilter.lists m = true := by
        simpa [MACFilterSettings.denies, hmode, MACFilterSettings.lists] using hverdict
      exact hnone (entry_of_lists hother hlists)
    · exact hnone (entry_of_lists hother hlists)
  · intro hnot
    have hunlisted : ∀ m, sameMac m macAddress = false → router.macFilter.lists m = false := by
      intro m hother
      by_contra hlists
      exact hnot (Or.inl ⟨rfl, entry_of_lists hother (by simpa using hlists)⟩)
    refine ⟨?_, fun _ hrule _ => hrule, ?_⟩
    · intro m hother
      simp only [LinksysRouter.denies, blockEdit_denies hother]
      cases hparental : router.parentalControl.denies m with
      | true => rfl
      | false =>
        simp only [Bool.false_or, MACFilterSettings.denies, hunlisted m hother]
        cases hmode : router.macFilter.macFilterMode with
        | Deny => rfl
        | Allow => exact absurd (Or.inr (Or.inl ⟨hmode, m, hother, hparental⟩)) hnot
        | Disabled => rfl
    · intro m hm hother
      exact absurd (Or.inl ⟨rfl, m, hm, hother⟩) hnot

theorem block_frames_iff :
    Frames (sameMac · macAddress = false) router
      (Operation.blockMAC.edited fates deviceId router macAddress).2 ↔
      ¬(fates.write.applied = true ∧ blockDisturbs fates.before router macAddress) := by
  simp only [Operation.edited, CheckedEdit.run_state]
  split
  next hwritten =>
    simp only [hwritten.2, true_and]
    cases fates.before with
    | answered => exact block_answered_iff
    | failed => exact block_failed_iff
  next hkept =>
    refine iff_of_true (Frames.refl _ router) ?_
    intro h
    exact hkept ⟨rfl, h.1⟩

end Edits

theorem Operation.frames_iff {op : Operation} {fates : EditFates} {deviceId : Option String}
    {router : LinksysRouter} {macAddress : String} :
    Frames (sameMac · macAddress = false) router (op.edited fates deviceId router macAddress).2 ↔
      ¬(fates.write.applied = true ∧ op.Disturbs fates router macAddress) := by
  cases op with
  | pauseDevice => exact pause_frames_iff
  | resumeDevice => exact iff_of_true resume_frames (by simp [Operation.Disturbs])
  | blockMAC => exact block_frames_iff
  | unblockMAC => exact iff_of_true unblock_frames (by simp [Operation.Disturbs])

/-- In dry run, and for a target without an address, nothing is called. -/
theorem Operation.run_idle {op : Operation} {fates : EditFates} {ctx : Router.Ctx}
    {target : Router.RouterTarget} {router : LinksysRouter}
    (h : ctx.dryRun = true ∨ truthy target.macAddress = none) :
    (op.run fates ctx target router).2 = router := by
  cases hdry : ctx.dryRun with
  | true =>
    cases op <;> simp [Operation.run, Linksys.pauseDevice, Linksys.resumeDevice, Linksys.blockMAC,
      Linksys.unblockMAC, withMac, hdry]
  | false =>
    have hmac : truthy target.macAddress = none := by simpa [hdry] using h
    cases op <;> simp [Operation.run, Linksys.pauseDevice, Linksys.resumeDevice, Linksys.blockMAC,
      Linksys.unblockMAC, withMac, hdry, hmac]

theorem other_iff {target : Router.RouterTarget} {macAddress : String}
    (hmac : truthy target.macAddress = some macAddress) :
    Other target = (sameMac · macAddress = false) := by
  have hsome : target.macAddress = some macAddress := (Option.filter_eq_some_iff.mp hmac).1
  funext m
  simp [Other, hsome]

/-- An operation touches no other device, except where its write is made of a read that failed or
turns a control or a mode that other devices are under. -/
theorem linksys_frames_iff (op : Operation) (fates : EditFates) (ctx : Router.Ctx)
    (target : Router.RouterTarget) (router : LinksysRouter) :
    Frames (Other target) router (op.run fates ctx target router).2 ↔
      ¬(ctx.dryRun = false ∧ ∃ macAddress, truthy target.macAddress = some macAddress ∧
        fates.write.applied = true ∧ op.Disturbs fates router macAddress) := by
  cases hdry : ctx.dryRun with
  | true =>
    rw [Operation.run_idle (Or.inl hdry)]
    exact iff_of_true (Frames.refl _ router) (by simp)
  | false =>
    cases hmac : truthy target.macAddress with
    | none =>
      rw [Operation.run_idle (Or.inr hmac)]
      exact iff_of_true (Frames.refl _ router) (by simp)
    | some macAddress =>
      rw [Operation.run_edited hdry hmac, other_iff hmac, Operation.frames_iff]
      simp

/-- The first read of `blockMAC` fails while another device is on the deny list. -/
theorem linksys_block_forgets_others :
    ¬∀ (op : Operation) (fates : EditFates) (ctx : Router.Ctx) (target : Router.RouterTarget)
      (router : LinksysRouter), Frames (Other target) router (op.run fates ctx target router).2 := by
  intro h
  have hframes := h .blockMAC ⟨.failed, .done, .answered⟩ ⟨none, none, false⟩
    ⟨none, some "aa:aa", none, none⟩ ⟨⟨false, []⟩, ⟨.Deny, ["bb:bb"]⟩⟩
  have hother : sameMac "bb:bb" "aa:aa" = false := by
    have hlower : "bb:bb".map Char.toLower ≠ "aa:aa".map Char.toLower := by
      rw [Ne, ← String.toList_inj, String.toList_map, String.toList_map]
      decide
    exact decide_eq_false hlower
  refine blockEdit_failed_entries hother (hframes.entries "bb:bb" List.mem_cons_self ?_)
  intro mac hmac
  obtain rfl : "aa:aa" = mac := Option.some.inj hmac
  exact hother

end Linksys

end GuardTime
