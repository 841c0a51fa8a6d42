import Mathlib.Data.List.Basic

namespace GuardTime

/-- Runs operations, each on a domain, in order: what they return, and the last state. -/
def runOps {D O R S : Type} (step : S → D → O → R × S) : S → List (D × O) → List (D × R) × S
  | s, [] => ([], s)
  | s, e :: es =>
    let r := step s e.1 e.2
    let later := runOps step r.2 es
    ((e.1, r.1) :: later.1, later.2)

/-- What the operations on one domain returned. -/
def resultsAt {D R : Type} [DecidableEq D] (d : D) (results : List (D × R)) : List R :=
  (results.filter (·.1 = d)).map Prod.snd

/-- Every domain has a view of the state that an operation on it acts on and returns from alone, and
that operations on other domains do not touch. -/
structure ActsOnViews {D O R S V : Type} (step : S → D → O → R × S) (Inv : S → Prop)
    (view : D → S → V) (act : D → V → O → R × V) : Prop where
  keeps : ∀ s d o, Inv s → Inv (step s d o).2
  returns : ∀ s d o, Inv s → (step s d o).1 = (act d (view d s) o).1
  changes : ∀ s d o, Inv s → view d (step s d o).2 = (act d (view d s) o).2
  spares : ∀ s d o d', Inv s → d' ≠ d → view d' (step s d o).2 = view d' s

section

variable {D O R S V : Type} {step : S → D → O → R × S} {Inv : S → Prop} {view : D → S → V}
  {act : D → V → O → R × V}

theorem runOps_keeps (h : ActsOnViews step Inv view act) {s : S} (hs : Inv s) (es : List (D × O)) :
    Inv (runOps step s es).2 := by
  induction es generalizing s with
  | nil => exact hs
  | cons e es ih => exact ih (h.keeps s e.1 e.2 hs)

variable [DecidableEq D]

/-- Operations on domains that are not kept can be left out of a run: the results of a kept domain
are the same from every state in which its view is. -/
theorem runOps_purge (h : ActsOnViews step Inv view act) (keep : D → Bool) {d : D}
    (hd : keep d = true) {s t : S} (hs : Inv s) (ht : Inv t) (hv : view d s = view d t)
    (es : List (D × O)) :
    resultsAt d (runOps step s es).1 =
      resultsAt d (runOps step t (es.filter fun e => keep e.1)).1 := by
  induction es generalizing s t with
  | nil => rfl
  | cons e es ih =>
    have hs' := h.keeps s e.1 e.2 hs
    by_cases hed : e.1 = d
    · have hkeep : keep e.1 = true := hed ▸ hd
      have hresult : (step s e.1 e.2).1 = (step t e.1 e.2).1 := by
        rw [h.returns s _ _ hs, h.returns t _ _ ht, hed, hv]
      have hview : view d (step s e.1 e.2).2 = view d (step t e.1 e.2).2 := by
        have hone := h.changes s e.1 e.2 hs
        have htwo := h.changes t e.1 e.2 ht
        rw [hed] at hone htwo ⊢
        rw [hone, htwo, hv]
      have hfilter : ((e :: es).filter fun e => keep e.1) = e :: es.filter fun e => keep e.1 :=
        List.filter_cons_of_pos hkeep
      have hown : ∀ (r : R) (rs : List (D × R)),
          resultsAt d ((e.1, r) :: rs) = r :: resultsAt d rs := by
        intro r rs
        simp [resultsAt, hed]
      simp only [hfilter, runOps, hown]
      rw [hresult, ih hs' (h.keeps t e.1 e.2 ht) hview]
    · have hdrop : ∀ (r : R) (rs : List (D × R)), resultsAt d ((e.1, r) :: rs) = resultsAt d rs := by
        intro r rs
        simp [resultsAt, hed]
      have hsame : view d (step s e.1 e.2).2 = view d s := h.spares s e.1 e.2 d hs (Ne.symm hed)
      cases hkeep : keep e.1 with
      | true =>
        have hfilter : ((e :: es).filter fun e => keep e.1) = e :: es.filter fun e => keep e.1 :=
          List.filter_cons_of_pos hkeep
        simp only [hfilter, runOps, hdrop]
        refine ih hs' (h.keeps t e.1 e.2 ht) ?_
        rw [hsame, h.spares t e.1 e.2 d ht (Ne.symm hed), hv]
      | false =>
        have hfilter : ((e :: es).filter fun e => keep e.1) = es.filter fun e => keep e.1 :=
          List.filter_cons_of_neg (by simp [hkeep])
        simp only [hfilter, runOps, hdrop]
        exact ih hs' ht (hsame.trans hv)

end

end GuardTime
