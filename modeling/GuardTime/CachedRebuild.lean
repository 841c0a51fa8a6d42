import GuardTime.CommandScript

namespace GuardTime

/-- A rebuilder that remembers the signature of its last build: what it remembers, what is
really held, and whether the content was changed since the signature was stored. -/
structure CacheState (Sig Content : Type) where
  remembered : Option Sig
  held : Content
  stale : Bool

section Rebuild

variable {Arg Sig Content : Type} (sig : Arg → Sig) (content : Arg → Content)

inductive CacheStep (s : CacheState Sig Content) (a : Arg) : Bool → CacheState Sig Content → Prop
  | skip : s.remembered = some (sig a) → CacheStep s a true s
  | rebuilt : CacheStep s a true ⟨some (sig a), content a, false⟩
  | unrecorded : CacheStep s a true ⟨s.remembered, content a, true⟩
  | undone : CacheStep s a false s
  | damaged (c : Content) : CacheStep s a false ⟨s.remembered, c, true⟩

/-- The call is skipped on a signature that no longer describes the content. -/
def CacheState.SkipsStale (s : CacheState Sig Content) (a : Arg) : Prop :=
  s.stale = true ∧ s.remembered = some (sig a)

/-- An unspoilt memory describes a call whose content is held. -/
def CacheState.Coherent (s : CacheState Sig Content) : Prop :=
  s.stale = false → ∀ g, s.remembered = some g → ∃ a, sig a = g ∧ s.held = content a

variable {sig content} {s s' : CacheState Sig Content} {a : Arg} {returned : Bool}

theorem cacheStep_coherent (hs : s.Coherent sig content)
    (h : CacheStep sig content s a returned s') : s'.Coherent sig content := by
  cases h with
  | skip => exact hs
  | rebuilt =>
    intro _ g hg
    exact ⟨a, Option.some.inj hg, rfl⟩
  | unrecorded => intro hf; simp at hf
  | undone => exact hs
  | damaged c => intro hf; simp at hf

theorem cacheStep_returns {same : Content → Content → Prop}
    (sound : ∀ a b, sig a = sig b → same (content a) (content b))
    (hs : s.Coherent sig content) (hskip : ¬s.SkipsStale sig a)
    (h : CacheStep sig content s a true s') : same s'.held (content a) := by
  cases h with
  | skip hr =>
    have hfresh : s.stale = false := by
      cases hst : s.stale with
      | false => rfl
      | true => exact absurd ⟨hst, hr⟩ hskip
    obtain ⟨b, hb, hheld⟩ := hs hfresh _ hr
    rw [hheld]
    exact sound b a hb
  | rebuilt => exact sound a a rfl
  | unrecorded => exact sound a a rfl

end Rebuild

end GuardTime
