import GuardTime.RequestTables

namespace GuardTime

/-- A change of settings `S` that reads them, writes them, reads them again, and writes back what it
read first if the second reading is not accepted. A reading that fails gives `unread`. -/
structure RestoredEdit (S V : Type) where
  read : S → V
  unread : V
  put : V → S → S
  accepts : V → Bool
  known : V → Bool
  putBack : V → S

inductive EditOutcome where
  | verified
  | unverified
  | failed (error : String)
deriving DecidableEq

namespace RestoredEdit

variable {S V : Type}

def look (e : RestoredEdit S V) (fate : QueryFate) (s : S) : V :=
  match fate with
  | .answered => e.read s
  | .bare | .failed _ => e.unread

/-- What the second reading decides; an error of the restore is dropped. -/
def settle (e : RestoredEdit S V) (before : V) (verify : QueryFate) (restore : WriteFate) (s : S) :
    EditOutcome × S :=
  if e.accepts (e.look verify s) then (.verified, s)
  else if e.known before then (.unverified, (restore.perform (fun _ => e.putBack before) s).2)
  else (.unverified, s)

/-- How the change ends, and the settings after it; the requests are, in order, a query, a write, a
query and the write that restores. -/
def run (e : RestoredEdit S V) (fates : RequestFates) (s : S) : EditOutcome × S :=
  let before := e.look (fates.query 0) s
  match (fates.write 1).perform (e.put before) s with
  | (.error error, s) => (.failed error, s)
  | (.ok _, s) => e.settle before (fates.query 2) (fates.write 3) s

/-- A view of the settings is as wanted after a success, and as before after a failure. -/
def AllOrNothing {D : Type} (view : S → D) (wanted : D) (s : S) (r : EditOutcome × S) : Prop :=
  (r.1 = .verified → view r.2 = wanted) ∧ (r.1 ≠ .verified → view r.2 = view s)

/-- Settings that are read without error and accepted. -/
def Accepts (e : RestoredEdit S V) (fate : QueryFate) (s : S) : Prop :=
  fate = .answered ∧ e.accepts (e.read s) = true

/-- Settings that are read without error and can be written back. -/
def Knows (e : RestoredEdit S V) (fate : QueryFate) (s : S) : Prop :=
  fate = .answered ∧ e.known (e.read s) = true

/-- What a change needs in order to keep its promise, by what became of its write: whether the
settings are as wanted to begin with, the new ones are verified, the old ones are known, writing them
back restores them, and the old ones are taken for the new. -/
def Safe (write : WriteFate) (unchanged verified known restored mistaken : Prop) : Prop :=
  match write with
  | .done => verified ∨ (known ∧ restored) ∨ (¬known ∧ unchanged)
  | .ignored => (mistaken ∧ unchanged) ∨ (¬mistaken ∧ (known → restored))
  | .refused _ => True
  | .lost _ => unchanged

variable {D : Type} {e : RestoredEdit S V} {view : S → D} {wanted : D}

theorem accepts_look (hunread : e.accepts e.unread = false) (fate : QueryFate) (s : S) :
    e.accepts (e.look fate s) = true ↔ e.Accepts fate s := by
  cases fate <;> simp [look, Accepts, hunread]

theorem known_look (hunread : e.known e.unread = false) (fate : QueryFate) (s : S) :
    e.known (e.look fate s) = true ↔ e.Knows fate s := by
  cases fate <;> simp [look, Knows, hunread]

theorem look_of_knows {fate : QueryFate} {s : S} (h : e.Knows fate s) : e.look fate s = e.read s := by
  rw [h.1]
  rfl

/-- After the second reading the promise is about what was written, or about what is put back. -/
theorem settle_allOrNothing_iff (view : S → D) (wanted : D) (haccepts : e.accepts e.unread = false)
    (hknown : e.known e.unread = false) (before verify : QueryFate) (s written : S) :
    AllOrNothing view wanted s (e.settle (e.look before s) verify .done written) ↔
      (e.Accepts verify written → view written = wanted) ∧
        (¬e.Accepts verify written →
          (e.Knows before s → view (e.putBack (e.read s)) = view s) ∧
          (¬e.Knows before s → view written = view s)) := by
  unfold settle AllOrNothing
  by_cases hacc : e.Accepts verify written
  · rw [if_pos ((accepts_look haccepts verify written).mpr hacc)]
    simp [hacc]
  · rw [if_neg fun h => hacc ((accepts_look haccepts verify written).mp h)]
    by_cases hkn : e.Knows before s
    · rw [if_pos ((known_look hknown before s).mpr hkn), look_of_knows hkn]
      simp [hacc, hkn, WriteFate.perform]
    · rw [if_neg fun h => hkn ((known_look hknown before s).mp h)]
      simp [hacc, hkn]

theorem run_allOrNothing_iff (haccepts : e.accepts e.unread = false)
    (hknown : e.known e.unread = false) (hput : ∀ v s, view (e.put v s) = wanted)
    {fates : RequestFates} (hrestore : fates.write 3 = .done) (s : S) :
    AllOrNothing view wanted s (e.run fates s) ↔
      Safe (fates.write 1) (view s = wanted)
        (e.Accepts (fates.query 2) (e.put (e.look (fates.query 0) s) s)) (e.Knows (fates.query 0) s)
        (view (e.putBack (e.read s)) = view s) (e.Accepts (fates.query 2) s) := by
  have hsettle := settle_allOrNothing_iff view wanted haccepts hknown
    (fates.query 0) (fates.query 2) s
  unfold run Safe
  dsimp only
  rw [hrestore]
  cases hw : fates.write 1 with
  | refused error => simp [WriteFate.perform, AllOrNothing]
  | lost error =>
    simp only [WriteFate.perform, AllOrNothing, hput]
    simp [eq_comm]
  | done =>
    simp only [WriteFate.perform, hsettle, hput]
    by_cases hacc : e.Accepts (fates.query 2) (e.put (e.look (fates.query 0) s) s)
    · simp [hacc]
    · by_cases hkn : e.Knows (fates.query 0) s
      · simp [hacc, hkn]
      · simp [hacc, hkn, eq_comm]
  | ignored =>
    simp only [WriteFate.perform, hsettle]
    by_cases hacc : e.Accepts (fates.query 2) s
    · simp [hacc]
    · by_cases hkn : e.Knows (fates.query 0) s
      · simp [hacc, hkn]
      · simp [hacc, hkn]

end RestoredEdit

end GuardTime
