import Mathlib.Data.List.Basic

namespace GuardTime

variable {S E : Type} {step : S → E → S} {start : S} {es : List E}

theorem foldl_take_succ {n : Nat} {e : E} (h : es[n]? = some e) :
    (es.take (n + 1)).foldl step start = step ((es.take n).foldl step start) e := by
  simp [List.take_add_one, h]

theorem foldl_take_beyond {n : Nat} (h : es[n]? = none) :
    (es.take (n + 1)).foldl step start = (es.take n).foldl step start := by
  have hlen : es.length ≤ n := List.getElem?_eq_none_iff.mp h
  rw [List.take_of_length_le hlen, List.take_of_length_le (by omega)]

/-- A law of the start that every allowed event keeps holds after every prefix of a run whose events
are all allowed where they happen. -/
theorem foldl_prefix_keeps (step : S → E → S) (start : S) (es : List E) (Law : S → Prop)
    (Allowed : S → E → Prop) (hstart : Law start)
    (hkeep : ∀ n e, Law ((es.take n).foldl step start) → Allowed ((es.take n).foldl step start) e →
      Law (step ((es.take n).foldl step start) e))
    (hall : ∀ n e, es[n]? = some e → Allowed ((es.take n).foldl step start) e) (n : Nat) :
    Law ((es.take n).foldl step start) := by
  induction n with
  | zero => exact hstart
  | succ n ih =>
    cases he : es[n]? with
    | some e =>
      rw [foldl_take_succ he]
      exact hkeep n e ih (hall n e he)
    | none => rwa [foldl_take_beyond he]

theorem foldl_keeps {α β : Type} {P : β → Prop} {f : β → α → β}
    (hkeep : ∀ b a, P b → P (f b a)) (xs : List α) {b : β} (hb : P b) : P (xs.foldl f b) := by
  induction xs generalizing b with
  | nil => exact hb
  | cons x xs ih => exact ih (hkeep b x hb)

/-- A law of the start that a step keeps exactly when its event is allowed holds after every prefix
of a run exactly when every event is. -/
theorem foldl_prefix_iff (step : S → E → S) (start : S) (es : List E) (Law : S → Prop)
    (Allowed : S → E → Prop) (hstart : Law start)
    (hstep : ∀ n e, Law ((es.take n).foldl step start) →
      (Law (step ((es.take n).foldl step start) e) ↔ Allowed ((es.take n).foldl step start) e)) :
    (∀ n, Law ((es.take n).foldl step start)) ↔
      ∀ n e, es[n]? = some e → Allowed ((es.take n).foldl step start) e := by
  refine ⟨?_, ?_⟩
  · intro h n e he
    have hnext := h (n + 1)
    rw [foldl_take_succ he] at hnext
    exact (hstep n e (h n)).mp hnext
  · exact foldl_prefix_keeps step start es Law Allowed hstart fun n e hlaw => (hstep n e hlaw).mpr

end GuardTime
