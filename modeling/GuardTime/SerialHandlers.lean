import Mathlib.Data.List.Basic
import Mathlib.Data.List.Nodup
import Mathlib.Data.List.Range

namespace GuardTime

/-- An event that asks for a handler, numbered in the order of arrival. -/
structure Job (E : Type) where
  number : Nat
  error : E

structure RunningHandler (E G : Type) where
  job : Job E
  stage : G

/-- Handlers that run one at a time; what arrives meanwhile is queued. -/
structure HandlerQueue (E G : Type) where
  running : Option (RunningHandler E G)
  queued : List (Job E)
  raised : Nat
  completed : List Nat

namespace HandlerQueue

variable {E G : Type} (start : E → Option G)

def empty : HandlerQueue E G := ⟨none, [], 0, []⟩

/-- Starts the next handler that has something to wait for; the others complete at once. -/
def dispatch (raised : Nat) (completed : List Nat) : List (Job E) → HandlerQueue E G
  | [] => ⟨none, [], raised, completed⟩
  | job :: rest =>
    match start job.error with
    | some stage => ⟨some ⟨job, stage⟩, rest, raised, completed⟩
    | none => dispatch raised (completed ++ [job.number]) rest

def raise (q : HandlerQueue E G) (error : E) : HandlerQueue E G :=
  match q.running with
  | some _ => { q with queued := q.queued ++ [⟨q.raised, error⟩], raised := q.raised + 1 }
  | none => dispatch start (q.raised + 1) q.completed (q.queued ++ [⟨q.raised, error⟩])

def advance (q : HandlerQueue E G) (stage : G) : HandlerQueue E G :=
  { q with running := q.running.map fun r => { r with stage } }

def complete (q : HandlerQueue E G) : HandlerQueue E G :=
  match q.running with
  | some r => dispatch start q.raised (q.completed ++ [r.job.number]) q.queued
  | none => q

/-- Every event is in one place: its handler has completed or runs, or it waits behind it. -/
structure Custody (q : HandlerQueue E G) : Prop where
  order : q.completed ++ (q.running.toList.map fun r => r.job.number) ++ q.queued.map Job.number =
    List.range q.raised
  waits : q.running = none → q.queued = []

variable {start} {q : HandlerQueue E G}

theorem custody_empty : (empty : HandlerQueue E G).Custody := ⟨rfl, fun _ => rfl⟩

theorem custody_dispatch {raised : Nat} {completed : List Nat} {jobs : List (Job E)}
    (h : completed ++ jobs.map Job.number = List.range raised) :
    (dispatch start raised completed jobs).Custody := by
  induction jobs generalizing completed with
  | nil => exact ⟨by simpa [dispatch] using h, fun _ => rfl⟩
  | cons job rest ih =>
    simp only [dispatch]
    cases start job.error with
    | some stage => exact ⟨by simpa using h, fun hnone => by simp at hnone⟩
    | none => exact ih (by simpa using h)

theorem Custody.raise (h : q.Custody) (error : E) : (q.raise start error).Custody := by
  unfold HandlerQueue.raise
  have horder := h.order
  split
  next r hr =>
    refine ⟨?_, fun hnone => by simp [hr] at hnone⟩
    rw [List.range_succ, ← horder]
    simp
  next hr =>
    refine custody_dispatch ?_
    rw [hr] at horder
    rw [List.range_succ, ← horder]
    simp

theorem Custody.advance (h : q.Custody) (stage : G) : (q.advance stage).Custody := by
  refine ⟨?_, ?_⟩
  · have horder := h.order
    cases hr : q.running with
    | none =>
      rw [hr] at horder
      simpa [HandlerQueue.advance, hr] using horder
    | some r =>
      rw [hr] at horder
      simpa [HandlerQueue.advance, hr] using horder
  · intro hnone
    exact h.waits (by simpa [HandlerQueue.advance] using hnone)

theorem Custody.complete (h : q.Custody) : (q.complete start).Custody := by
  unfold HandlerQueue.complete
  split
  next r hr =>
    refine custody_dispatch ?_
    have horder := h.order
    rw [hr] at horder
    simpa using horder
  next => exact h

theorem Custody.completed_once (h : q.Custody) (n : Nat) : q.completed.count n ≤ 1 := by
  have hnodup : (q.completed ++ (q.running.toList.map fun r => r.job.number) ++
      q.queued.map Job.number).Nodup := by
    rw [h.order]
    exact List.nodup_range
  exact List.nodup_iff_count_le_one.mp hnodup.of_append_left.of_append_left n

theorem Custody.all_completed (h : q.Custody) (hidle : q.running = none) {n : Nat}
    (hn : n < q.raised) : q.completed.count n = 1 := by
  have horder := h.order
  rw [hidle, h.waits hidle] at horder
  have hcompleted : q.completed = List.range q.raised := by simpa using horder
  rw [hcompleted]
  exact List.count_eq_one_of_mem List.nodup_range (List.mem_range.mpr hn)

theorem Custody.running_open (h : q.Custody) {r : RunningHandler E G} (hr : q.running = some r) :
    r.job.number < q.raised ∧ q.completed.count r.job.number = 0 := by
  have horder := h.order
  rw [hr] at horder
  refine ⟨?_, ?_⟩
  · rw [← List.mem_range, ← horder]
    simp
  · have hnodup : (q.completed ++ [r.job.number] ++ q.queued.map Job.number).Nodup := by
      have hrange : (List.range q.raised).Nodup := List.nodup_range
      rw [← horder] at hrange
      simpa using hrange
    have hdisjoint := List.disjoint_of_nodup_append hnodup.of_append_left
    rw [List.count_eq_zero]
    intro hmem
    exact hdisjoint hmem List.mem_cons_self

theorem dispatch_queued {raised : Nat} {completed : List Nat} {jobs : List (Job E)} {job : Job E}
    (h : job ∈ (dispatch start raised completed jobs).queued) : job ∈ jobs := by
  induction jobs generalizing completed with
  | nil => simp [dispatch] at h
  | cons head rest ih =>
    simp only [dispatch] at h
    cases hs : start head.error with
    | some stage => rw [hs] at h; exact List.mem_cons_of_mem head h
    | none => rw [hs] at h; exact List.mem_cons_of_mem head (ih h)

/-- A handler that starts is at the stage its event starts it at. -/
theorem dispatch_running {raised : Nat} {completed : List Nat} {jobs : List (Job E)}
    {r : RunningHandler E G} (h : (dispatch start raised completed jobs).running = some r) :
    start r.job.error = some r.stage := by
  induction jobs generalizing completed with
  | nil => simp [dispatch] at h
  | cons head rest ih =>
    simp only [dispatch] at h
    cases hs : start head.error with
    | some stage =>
      rw [hs] at h
      cases Option.some.inj h
      exact hs
    | none => rw [hs] at h; exact ih h

theorem raise_queued {error : E} {job : Job E} (h : job ∈ (q.raise start error).queued) :
    job ∈ q.queued ∨ job.error = error := by
  have hmem : job ∈ q.queued ++ [⟨q.raised, error⟩] := by
    unfold HandlerQueue.raise at h
    split at h
    next => exact h
    next => exact dispatch_queued h
  rcases List.mem_append.mp hmem with hmem | hmem
  · exact Or.inl hmem
  · exact Or.inr (by rw [List.mem_singleton.mp hmem])

theorem complete_queued {job : Job E} (h : job ∈ (q.complete start).queued) : job ∈ q.queued := by
  unfold HandlerQueue.complete at h
  split at h
  next => exact dispatch_queued h
  next => exact h

theorem raise_running {error : E} {r : RunningHandler E G}
    (h : (q.raise start error).running = some r) :
    q.running = some r ∨ start r.job.error = some r.stage := by
  unfold HandlerQueue.raise at h
  split at h
  next hr => exact Or.inl (hr.trans (hr ▸ h))
  next => exact Or.inr (dispatch_running h)

theorem complete_running {r : RunningHandler E G} (hq : q.running ≠ none)
    (h : (q.complete start).running = some r) : start r.job.error = some r.stage := by
  unfold HandlerQueue.complete at h
  split at h
  next => exact dispatch_running h
  next hr => exact absurd hr hq

end HandlerQueue

end GuardTime
