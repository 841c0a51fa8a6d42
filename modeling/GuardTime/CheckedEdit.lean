import Mathlib.Data.List.Basic

namespace GuardTime

inductive ReadFate where
  | answered
  | failed
deriving DecidableEq

/-- How a call that writes settings ends: an answer may be lost, or given for a write that did not
happen. -/
inductive WriteFate where
  | done
  | ignored
  | refused (error : String)
  | lost (error : String)
deriving DecidableEq

def WriteFate.applied : WriteFate → Bool
  | .done | .lost _ => true
  | .ignored | .refused _ => false

structure EditFates where
  before : ReadFate
  write : WriteFate
  verify : ReadFate
deriving DecidableEq

/-- An edit of settings `S`: it reads them, writes them back changed unless they are settled, and
reads them again. A read that fails is taken to have given a fallback. -/
structure CheckedEdit (S R : Type) where
  fallback : S
  verifyFallback : S
  settled : S → Option R
  edit : S → S
  verified : S → R
  failed : String → R

namespace CheckedEdit

variable {S R : Type}

def look (fate : ReadFate) (fallback s : S) : S :=
  match fate with
  | .answered => s
  | .failed => fallback

def run (e : CheckedEdit S R) (fates : EditFates) (s : S) : R × S :=
  let before := look fates.before e.fallback s
  match e.settled before with
  | some result => (result, s)
  | none =>
    let sent := e.edit before
    match fates.write with
    | .done => (e.verified (look fates.verify e.verifyFallback sent), sent)
    | .ignored => (e.verified (look fates.verify e.verifyFallback s), s)
    | .refused error => (e.failed error, s)
    | .lost error => (e.failed error, sent)

theorem run_state (e : CheckedEdit S R) (fates : EditFates) (s : S) :
    (e.run fates s).2 =
      if (e.settled (look fates.before e.fallback s)).isNone ∧ fates.write.applied = true then
        e.edit (look fates.before e.fallback s)
      else s := by
  simp only [run]
  cases e.settled (look fates.before e.fallback s) with
  | some result => simp
  | none => cases fates.write <;> simp [WriteFate.applied]

theorem run_result (e : CheckedEdit S R) (fates : EditFates) (s : S) :
    (∃ result, e.settled (look fates.before e.fallback s) = some result ∧
      e.run fates s = (result, s)) ∨
    (e.settled (look fates.before e.fallback s) = none ∧
      ((∃ error, (fates.write = .refused error ∨ fates.write = .lost error) ∧
          (e.run fates s).1 = e.failed error) ∨
        ((fates.write = .done ∨ fates.write = .ignored) ∧
          (e.run fates s).1 =
            e.verified (look fates.verify e.verifyFallback (e.run fates s).2)))) := by
  simp only [run]
  cases e.settled (look fates.before e.fallback s) with
  | some result => exact Or.inl ⟨result, rfl, rfl⟩
  | none =>
    refine Or.inr ⟨rfl, ?_⟩
    cases hw : fates.write with
    | done => exact Or.inr ⟨Or.inl rfl, rfl⟩
    | ignored => exact Or.inr ⟨Or.inr rfl, rfl⟩
    | refused error => exact Or.inl ⟨error, Or.inl rfl, rfl⟩
    | lost error => exact Or.inl ⟨error, Or.inr rfl, rfl⟩

/-- The calls after which an edit takes a fallback for the settings: no write was made, and no
answer was read. -/
def Blind (fates : EditFates) : Prop :=
  fates.before = .failed ∨ (fates.write = .ignored ∧ fates.verify = .failed)

/-- An edit that removes what `there` finds, and takes its absence for success. -/
structure Undoes (e : CheckedEdit S R) (ok : R → Bool) (there : S → Bool) : Prop where
  settled_isNone : ∀ s, (e.settled s).isNone = there s
  settled_ok : ∀ s result, e.settled s = some result → ok result = true
  verified_ok : ∀ s, ok (e.verified s) = !there s
  failed_ok : ∀ error, ok (e.failed error) = false
  fallback : there e.fallback = false
  verifyFallback : there e.verifyFallback = false
  edit : ∀ s, there (e.edit s) = false

theorem Undoes.look_there {there : S → Bool} {fallback : S} (h : there fallback = false)
    (fate : ReadFate) (s : S) :
    there (look fate fallback s) = (decide (fate = .answered) && there s) := by
  cases fate <;> simp [look, h]

theorem Undoes.there_unchanged {e : CheckedEdit S R} {ok : R → Bool} {there : S → Bool}
    (h : e.Undoes ok there) {fates : EditFates} {s : S} (hthere : there (e.run fates s).2 = true) :
    (e.run fates s).2 = s := by
  rw [e.run_state] at hthere ⊢
  split at hthere
  next => simp [h.edit] at hthere
  next hkept => rw [if_neg hkept]

/-- An undoing edit reports a success that is none exactly when it goes by a fallback. -/
theorem Undoes.deceives_iff {e : CheckedEdit S R} {ok : R → Bool} {there : S → Bool}
    (h : e.Undoes ok there) (fates : EditFates) (s : S) :
    (ok (e.run fates s).1 = true ∧ there (e.run fates s).2 = true) ↔
      Blind fates ∧ there s = true := by
  have hstate := e.run_state fates s
  rw [h.settled_isNone, look_there h.fallback] at hstate
  rcases e.run_result fates s with ⟨result, hsettled, hrun⟩ | ⟨hopen, hrest⟩
  · have hthere := h.settled_isNone (look fates.before e.fallback s)
    rw [hsettled, look_there h.fallback] at hthere
    rw [hrun]
    simp only [h.settled_ok _ _ hsettled, Blind, true_and]
    cases hb : fates.before with
    | answered => simp [hb] at hthere; simp [hthere]
    | failed => simp
  · have hthere := h.settled_isNone (look fates.before e.fallback s)
    rw [hopen, look_there h.fallback] at hthere
    have hread : fates.before = .answered ∧ there s = true := by
      simpa using hthere.symm
    rcases hrest with ⟨error, hw, hfailed⟩ | ⟨hw, hverified⟩
    · -- an error is reported, and no such calls are blind
      rw [hfailed, h.failed_ok]
      rcases hw with hw | hw <;> simp [Blind, hread.1, hw]
    · rw [hverified, h.verified_ok, look_there h.verifyFallback, hstate]
      rcases hw with hw | hw
      · simp [Blind, hread, hw, WriteFate.applied, h.edit]
      · cases hv : fates.verify <;> simp [Blind, hread, hw, hv, WriteFate.applied]

end CheckedEdit

end GuardTime
