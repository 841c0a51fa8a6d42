import Mathlib.Data.List.Basic

namespace GuardTime

variable {S E : Type} (step : S → E → Option S) (hazard : S → E → Prop)

/-- The state after some events, if each of them is possible where it happens. -/
def runEvents : S → List E → Option S
  | s, [] => some s
  | s, e :: es => (step s e).bind fun s' => runEvents s' es

/-- No event is a hazard where it happens. -/
def Avoids : S → List E → Prop
  | _, [] => True
  | s, e :: es => ¬hazard s e ∧ ∀ s', step s e = some s' → Avoids s' es

variable {step hazard} {s s' : S} {e : E} {es : List E}

theorem runEvents_cons (h : runEvents step s (e :: es) = some s') :
    ∃ next, step s e = some next ∧ runEvents step next es = some s' :=
  Option.bind_eq_some_iff.mp h

theorem runEvents_append (xs ys : List E) (s : S) :
    runEvents step s (xs ++ ys) = (runEvents step s xs).bind fun s' => runEvents step s' ys := by
  induction xs generalizing s with
  | nil => rfl
  | cons x xs ih =>
    simp only [List.cons_append, runEvents]
    cases step s x with
    | none => rfl
    | some next => exact ih next

theorem runEvents_split {xs ys : List E} (h : runEvents step s (xs ++ ys) = some s') :
    ∃ between, runEvents step s xs = some between ∧ runEvents step between ys = some s' := by
  rw [runEvents_append] at h
  exact Option.bind_eq_some_iff.mp h

theorem avoids_of_forall (h : ∀ e ∈ es, ∀ s, ¬hazard s e) : Avoids step hazard s es := by
  induction es generalizing s with
  | nil => trivial
  | cons e es ih =>
    refine ⟨h e List.mem_cons_self s, ?_⟩
    intro next _
    exact ih fun e' he' => h e' (List.mem_cons_of_mem e he')

theorem avoids_cons (hstep : step s e = some s') (hnot : ¬hazard s e)
    (hrest : Avoids step hazard s' es) : Avoids step hazard s (e :: es) := by
  refine ⟨hnot, ?_⟩
  intro next hnext
  cases Option.some.inj (hstep.symm.trans hnext)
  exact hrest

theorem avoids_split {xs ys : List E} (h : Avoids step hazard s (xs ++ ys))
    (hrun : runEvents step s xs = some s') :
    Avoids step hazard s xs ∧ Avoids step hazard s' ys := by
  induction xs generalizing s with
  | nil => exact ⟨trivial, Option.some.inj hrun ▸ h⟩
  | cons x xs ih =>
    obtain ⟨next, hstep, hrest⟩ := runEvents_cons hrun
    refine ⟨⟨h.1, ?_⟩, (ih (h.2 next hstep) hrest).2⟩
    intro next' hstep'
    cases Option.some.inj (hstep.symm.trans hstep')
    exact (ih (h.2 next hstep) hrest).1

/-- A run avoids the hazards exactly if none of its events is one in the state it comes in. -/
theorem avoids_iff : Avoids step hazard s es ↔
    ∀ before e after s', es = before ++ e :: after → runEvents step s before = some s' →
      ¬hazard s' e := by
  refine ⟨?_, ?_⟩
  · intro h before e after s' hes hrun
    subst hes
    exact (avoids_split h hrun).2.1
  · intro h
    induction es generalizing s with
    | nil => trivial
    | cons e es ih =>
      refine ⟨h [] e es s rfl rfl, ?_⟩
      intro next hstep
      refine ih fun before d after s' hes hrun => ?_
      refine h (e :: before) d after s' (by rw [hes, List.cons_append]) ?_
      rw [runEvents, hstep, Option.bind_some, hrun]

theorem runEvents_keeps {I : S → Prop} (hkeep : ∀ s e s', I s → step s e = some s' → I s')
    (hs : I s) (h : runEvents step s es = some s') : I s' := by
  induction es generalizing s with
  | nil => exact Option.some.inj h ▸ hs
  | cons e es ih =>
    obtain ⟨next, hstep, hrest⟩ := runEvents_cons h
    exact ih (hkeep s e next hs hstep) hrest

/-- What every event but a hazard keeps holds after a run without hazards. -/
theorem avoids_keeps {I : S → Prop}
    (hkeep : ∀ s e s', I s → step s e = some s' → ¬hazard s e → I s') (hs : I s)
    (havoids : Avoids step hazard s es) (h : runEvents step s es = some s') : I s' := by
  induction es generalizing s with
  | nil => exact Option.some.inj h ▸ hs
  | cons e es ih =>
    obtain ⟨next, hstep, hrest⟩ := runEvents_cons h
    exact ih (hkeep s e next hs hstep havoids.1) (havoids.2 next hstep) hrest

/-- What the first hazard of a run brings about, and every event keeps, holds after the run. -/
theorem hazard_leads {I J : S → Prop}
    (hkeep : ∀ s e s', I s → step s e = some s' → ¬hazard s e → I s')
    (hbreak : ∀ s e s', I s → step s e = some s' → hazard s e → J s')
    (hstays : ∀ s e s', J s → step s e = some s' → J s') (hs : I s)
    (hnot : ¬Avoids step hazard s es) (h : runEvents step s es = some s') : J s' := by
  induction es generalizing s with
  | nil => exact absurd trivial hnot
  | cons e es ih =>
    obtain ⟨next, hstep, hrest⟩ := runEvents_cons h
    by_cases hhazard : hazard s e
    · exact runEvents_keeps hstays (hbreak s e next hs hstep hhazard) hrest
    · refine ih (hkeep s e next hs hstep hhazard) ?_ hrest
      intro havoids
      refine hnot ⟨hhazard, ?_⟩
      intro next' hstep'
      rw [hstep] at hstep'
      exact Option.some.inj hstep' ▸ havoids

end GuardTime
