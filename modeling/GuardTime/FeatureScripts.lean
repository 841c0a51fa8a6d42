import GuardTime.CommandScript

namespace GuardTime

variable {C K V F : Type}

/-- Features a script installs one after the other: the script of a feature builds what the
feature has in force, and spares what the others have. -/
structure Features (respond : Respond C K) (script : F → List (Step C)) (view : F → K → V)
    (content : F → V) : Prop where
  builds : ∀ f w, (runScript respond (script f) w).1 = true →
    view f (runScript respond (script f) w).2.kernel = content f
  spares : ∀ f g w, g ≠ f → view g (runScript respond (script f) w).2.kernel = view g w.kernel

variable {respond : Respond C K} {script : F → List (Step C)} {view : F → K → V}
  {content : F → V}

/-- Installing some features leaves them as built, and the others as they were. -/
theorem Features.install [DecidableEq F] (h : Features respond script view content) {fs : List F}
    {w : World C K} (hok : (runScript respond (fs.flatMap script) w).1 = true) (g : F) :
    view g (runScript respond (fs.flatMap script) w).2.kernel =
      if g ∈ fs then content g else view g w.kernel := by
  induction fs generalizing w with
  | nil => rfl
  | cons f fs ih =>
    rw [List.flatMap_cons] at hok ⊢
    obtain ⟨hfirst, heq⟩ := runScript_append_ok hok
    rw [heq] at hok ⊢
    rw [ih hok]
    by_cases hmem : g ∈ fs
    · simp [hmem]
    · by_cases hg : g = f
      · subst g
        simp [hmem, h.builds f w hfirst]
      · simp [hmem, hg, h.spares f g w hg]

/-- What was installed is the same over two kernels exactly when the other features agreed
before. -/
theorem installed_same_iff [DecidableEq F] {fs : List F} {before before' : F → V} :
    (∀ g, (if g ∈ fs then content g else before g) = if g ∈ fs then content g else before' g) ↔
      ∀ g, g ∉ fs → before g = before' g := by
  refine forall_congr' fun g => ?_
  by_cases hmem : g ∈ fs
  · simp [hmem]
  · simp [hmem]

theorem runScript_establishes {P : K → Prop} {steps : List (Step C)}
    (hkeep : ∀ s ∈ steps, ∀ c ∈ s.commands, ∀ n k, P k → P (respond n c k).2) {s : Step C}
    (hs : s ∈ steps)
    (hest : ∀ w, (s.exec respond w).1 = true → P (s.exec respond w).2.kernel) {w : World C K}
    (hok : (runScript respond steps w).1 = true) : P (runScript respond steps w).2.kernel := by
  obtain ⟨before, after, rfl⟩ := List.append_of_mem hs
  obtain ⟨_, heq⟩ := runScript_append_ok hok
  rw [heq] at hok ⊢
  rw [← List.singleton_append] at hok ⊢
  obtain ⟨hone, heq⟩ := runScript_append_ok hok
  rw [heq]
  refine runScript_invariant (fun t ht => hkeep t (by simp [ht])) ?_
  rw [runScript_one] at hone ⊢
  exact hest _ hone

end GuardTime
