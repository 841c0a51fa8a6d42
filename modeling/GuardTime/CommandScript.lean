import GuardTime.PrefixRuns

namespace GuardTime

variable {C K V : Type}

/-- One awaited call of a script: `run` issues a command whose failure rejects
unless it is ignored, `ensure` issues its second command only when the first fails. -/
inductive Step (C : Type) where
  | run (command : C) (ignoreFailure : Bool)
  | ensure (check add : C)

/-- What a running script changes: the kernel, and the commands issued so far. -/
structure World (C K : Type) where
  kernel : K
  issued : List C

/-- The answer to the `n`-th command of a call: whether it succeeded, and the kernel after it. -/
abbrev Respond (C K : Type) := Nat → C → K → Bool × K

/-- Every command applies fully or fails and changes nothing; `fate` fails any of them. -/
def respondBy (apply : C → K → Option K) (fate : Nat → Bool) : Respond C K :=
  fun n c k =>
    if fate n then
      match apply c k with
      | some k' => (true, k')
      | none => (false, k)
    else (false, k)

def issue (respond : Respond C K) (c : C) (w : World C K) : Bool × World C K :=
  let r := respond w.issued.length c w.kernel
  (r.1, ⟨r.2, w.issued ++ [c]⟩)

def Step.exec (respond : Respond C K) : Step C → World C K → Bool × World C K
  | .run c ignoreFailure, w =>
    let r := issue respond c w
    (r.1 || ignoreFailure, r.2)
  | .ensure check add, w =>
    let r := issue respond check w
    if r.1 then r else issue respond add r.2

/-- Runs the steps in order; `false` when one of them rejects, which skips the rest. -/
def runScript (respond : Respond C K) : List (Step C) → World C K → Bool × World C K
  | [], w => (true, w)
  | s :: rest, w =>
    let r := s.exec respond w
    if r.1 then runScript respond rest r.2 else r

/-- In dry run nothing is issued and every call is reported as done. -/
def runUnlessDry (dryRun : Bool) (respond : Respond C K) (script : List (Step C))
    (w : World C K) : Bool × World C K :=
  if dryRun then (true, w) else runScript respond script w

inductive Rollback where
  | restored
  | failed
  | noSnapshot
deriving DecidableEq

/-- Runs the restore of a snapshot, where one was taken. -/
def rollback {S : Type} (respond : Respond C K) (restore : S → List (Step C)) :
    Option S → World C K → Rollback × World C K
  | none, w => (.noSnapshot, w)
  | some snapshot, w =>
    let r := runScript respond (restore snapshot) w
    (if r.1 then .restored else .failed, r.2)

def Step.commands : Step C → List C
  | .run c _ => [c]
  | .ensure check add => [check, add]

/-- The commands without which the script does not complete. -/
def mandatory (script : List (Step C)) : List C :=
  script.filterMap fun
    | .run c false => some c
    | _ => none

@[simp] theorem mandatory_nil : mandatory ([] : List (Step C)) = [] := rfl

@[simp] theorem mandatory_run_cons (c : C) (script : List (Step C)) :
    mandatory (.run c false :: script) = c :: mandatory script := rfl

@[simp] theorem mandatory_ignored_cons (c : C) (script : List (Step C)) :
    mandatory (.run c true :: script) = mandatory script := rfl

@[simp] theorem mandatory_ensure_cons (check add : C) (script : List (Step C)) :
    mandatory (.ensure check add :: script) = mandatory script := rfl

theorem mem_mandatory {script : List (Step C)} {c : C} :
    c ∈ mandatory script ↔ Step.run c false ∈ script := by
  simp only [mandatory, List.mem_filterMap]
  refine ⟨?_, ?_⟩
  · intro h
    obtain ⟨s, hs, hc⟩ := h
    split at hc
    next => cases Option.some.inj hc; exact hs
    next => simp at hc
  · intro h
    exact ⟨_, h, rfl⟩

@[simp] theorem mandatory_append (xs ys : List (Step C)) :
    mandatory (xs ++ ys) = mandatory xs ++ mandatory ys := List.filterMap_append

@[simp] theorem mandatory_flatMap {α : Type} (xs : List α) (f : α → List (Step C)) :
    mandatory (xs.flatMap f) = xs.flatMap fun x => mandatory (f x) := by
  induction xs with
  | nil => rfl
  | cons x xs ih => simp [List.flatMap_cons, ih]

@[simp] theorem runScript_nil (respond : Respond C K) (w : World C K) :
    runScript respond [] w = (true, w) := rfl

theorem runScript_one (respond : Respond C K) (s : Step C) (w : World C K) :
    runScript respond [s] w = s.exec respond w := by
  simp only [runScript]
  split
  next h => rw [← h]
  next => rfl

theorem runScript_single (respond : Respond C K) (c : C) (w : World C K) :
    runScript respond [.run c false] w = issue respond c w := by
  simp only [runScript_one, Step.exec, Bool.or_false]

theorem runScript_append (respond : Respond C K) (xs ys : List (Step C)) (w : World C K) :
    runScript respond (xs ++ ys) w =
      if (runScript respond xs w).1 then runScript respond ys (runScript respond xs w).2
      else runScript respond xs w := by
  induction xs generalizing w with
  | nil => simp
  | cons s xs ih =>
    simp only [List.cons_append, runScript]
    split
    next => exact ih _
    next => simp

theorem runScript_append_ok {respond : Respond C K} {xs ys : List (Step C)} {w : World C K}
    (h : (runScript respond (xs ++ ys) w).1 = true) :
    (runScript respond xs w).1 = true ∧
      runScript respond (xs ++ ys) w = runScript respond ys (runScript respond xs w).2 := by
  rw [runScript_append] at h ⊢
  split at h
  next hx => exact ⟨hx, by simp [hx]⟩
  next hx => exact absurd h hx

/-- A script that rejects does so at one of its steps, after the steps before it completed. -/
theorem runScript_reject {respond : Respond C K} {script : List (Step C)} {w : World C K}
    (h : (runScript respond script w).1 = false) :
    ∃ done s rest, script = done ++ s :: rest ∧ (runScript respond done w).1 = true ∧
      s.exec respond (runScript respond done w).2 = (false, (runScript respond script w).2) := by
  induction script generalizing w with
  | nil => simp at h
  | cons s script ih =>
    simp only [runScript] at h ⊢
    split at h
    next hs =>
      obtain ⟨done, t, rest, hsplit, hdone, hexec⟩ := ih h
      refine ⟨s :: done, t, rest, by simp [hsplit], ?_, ?_⟩
      · simpa [runScript, hs] using hdone
      · simpa [runScript, hs] using hexec
    next hs =>
      refine ⟨[], s, script, rfl, rfl, ?_⟩
      simp only [runScript_nil, hs, Bool.false_eq_true, if_false]
      exact Prod.ext (by simpa using h) rfl

/-- The script rejects at its step `i`. -/
def RejectsAt (respond : Respond C K) (script : List (Step C)) (w : World C K) (i : Nat) : Prop :=
  (runScript respond (script.take i) w).1 = true ∧
    (runScript respond (script.take (i + 1)) w).1 = false

theorem rejectsAt_exists {respond : Respond C K} {script : List (Step C)} {w : World C K}
    (h : (runScript respond script w).1 = false) : ∃ i, RejectsAt respond script w i := by
  obtain ⟨done, s, rest, hsplit, hdone, hexec⟩ := runScript_reject h
  refine ⟨done.length, ?_, ?_⟩
  · simpa [hsplit] using hdone
  · have htake : script.take (done.length + 1) = done ++ [s] := by
      simp [hsplit, List.take_append, List.take_of_length_le (Nat.le_succ _)]
    rw [htake, runScript_append, if_pos hdone]
    simp [runScript, hexec]

theorem rejectsAt_split {respond : Respond C K} {script : List (Step C)} {w : World C K} {i : Nat}
    (h : RejectsAt respond script w i) :
    ∃ s, script[i]? = some s ∧
      s.exec respond (runScript respond (script.take i) w).2 = runScript respond script w ∧
      (runScript respond script w).1 = false := by
  obtain ⟨hdone, hfail⟩ := h
  have hall : runScript respond script w = runScript respond (script.take (i + 1)) w := by
    conv => lhs; rw [← List.take_append_drop (i + 1) script]
    rw [runScript_append, if_neg (by simp [hfail])]
  rw [List.take_add_one] at hfail hall
  cases hs : script[i]? with
  | none => simp [hs, hdone] at hfail
  | some s =>
    simp only [hs, Option.toList_some] at hfail hall
    rw [runScript_append, if_pos hdone] at hfail hall
    refine ⟨s, rfl, ?_, by rw [hall]; exact hfail⟩
    cases he : (s.exec respond (runScript respond (script.take i) w).2).1 with
    | true => simp [runScript, he] at hfail
    | false => rw [hall]; simp [runScript, he]

theorem issue_issued (respond : Respond C K) (c : C) (w : World C K) :
    (issue respond c w).2.issued = w.issued ++ [c] := rfl

theorem exec_issued_grows (respond : Respond C K) (s : Step C) (w : World C K) :
    w.issued <+: (s.exec respond w).2.issued := by
  cases s with
  | run c ignoreFailure => exact List.prefix_append _ _
  | ensure check add =>
    simp only [Step.exec]
    split
    next => exact List.prefix_append _ _
    next => exact (List.prefix_append _ _).trans (List.prefix_append _ _)

theorem runScript_issued_grows (respond : Respond C K) (script : List (Step C)) (w : World C K) :
    w.issued <+: (runScript respond script w).2.issued := by
  induction script generalizing w with
  | nil => exact List.prefix_rfl
  | cons s script ih =>
    simp only [runScript]
    split
    next => exact (exec_issued_grows respond s w).trans (ih _)
    next => exact exec_issued_grows respond s w

theorem runScript_issued_mem {respond : Respond C K} {script : List (Step C)} {w : World C K} {c : C}
    (h : c ∈ (runScript respond script w).2.issued) :
    c ∈ w.issued ∨ ∃ s ∈ script, c ∈ s.commands := by
  induction script generalizing w with
  | nil => exact Or.inl h
  | cons s script ih =>
    have hs : c ∈ (s.exec respond w).2.issued → c ∈ w.issued ∨ c ∈ s.commands := by
      intro hc
      cases s with
      | run c' ignoreFailure =>
        rcases List.mem_append.mp hc with hc | hc
        · exact Or.inl hc
        · exact Or.inr hc
      | ensure check add =>
        simp only [Step.exec] at hc
        split at hc
        next =>
          rcases List.mem_append.mp hc with hc | hc
          · exact Or.inl hc
          · exact Or.inr (by simp [Step.commands, List.mem_singleton.mp hc])
        next =>
          simp only [issue_issued, List.mem_append, List.mem_singleton] at hc
          simpa [Step.commands, or_assoc] using hc
    simp only [runScript] at h
    split at h
    next =>
      rcases ih h with hc | ⟨t, ht, hc⟩
      · rcases hs hc with hc | hc
        · exact Or.inl hc
        · exact Or.inr ⟨s, List.mem_cons_self, hc⟩
      · exact Or.inr ⟨t, List.mem_cons_of_mem s ht, hc⟩
    next =>
      rcases hs h with hc | hc
      · exact Or.inl hc
      · exact Or.inr ⟨s, List.mem_cons_self, hc⟩

theorem runScript_issues {respond : Respond C K} {script : List (Step C)} {w : World C K}
    (h : (runScript respond script w).1 = true) {c : C} (hc : c ∈ mandatory script) :
    c ∈ (runScript respond script w).2.issued := by
  induction script generalizing w with
  | nil => simp at hc
  | cons s script ih =>
    simp only [runScript] at h ⊢
    split at h
    next hok =>
      rw [if_pos hok]
      rw [← List.singleton_append, mandatory_append, List.mem_append] at hc
      rcases hc with hc | hc
      · refine (runScript_issued_grows respond script _).subset ?_
        cases s with
        | run c' ignoreFailure =>
          cases ignoreFailure with
          | true => simp at hc
          | false => simp [Step.exec, issue, List.mem_singleton.mp hc]
        | ensure check add => simp at hc
      · exact ih h hc
    next hok => exact absurd h hok

theorem runScript_granted {respond : Respond C K} (h : ∀ n c k, (respond n c k).1 = true)
    (script : List (Step C)) (w : World C K) : (runScript respond script w).1 = true := by
  induction script generalizing w with
  | nil => rfl
  | cons s script ih =>
    have hs : (s.exec respond w).1 = true := by
      cases s with
      | run c ignoreFailure => simp [Step.exec, issue, h]
      | ensure check add => simp [Step.exec, issue, h]
    simp only [runScript, hs, if_true]
    exact ih _

section Aims

variable {T : Type} (targets : C → List T)

/-- What the commands issued so far act against. -/
def struck (w : World C K) : List T := w.issued.flatMap targets

/-- What the commands of a script may act against. -/
def aims (script : List (Step C)) : List T := script.flatMap fun s => s.commands.flatMap targets

@[simp] theorem aims_nil : aims targets ([] : List (Step C)) = [] := rfl

@[simp] theorem aims_run_cons (c : C) (ignoreFailure : Bool) (script : List (Step C)) :
    aims targets (.run c ignoreFailure :: script) = targets c ++ aims targets script := by
  simp [aims, Step.commands]

@[simp] theorem aims_ensure_cons (check add : C) (script : List (Step C)) :
    aims targets (.ensure check add :: script) =
      targets check ++ targets add ++ aims targets script := by
  simp [aims, Step.commands]

@[simp] theorem aims_append (xs ys : List (Step C)) :
    aims targets (xs ++ ys) = aims targets xs ++ aims targets ys := List.flatMap_append

@[simp] theorem aims_flatMap {α : Type} (xs : List α) (f : α → List (Step C)) :
    aims targets (xs.flatMap f) = xs.flatMap fun x => aims targets (f x) := List.flatMap_assoc

theorem mem_aims_if {c : Prop} [Decidable c] {script : List (Step C)} {t : T} :
    t ∈ aims targets (if c then script else []) ↔ c ∧ t ∈ aims targets script := by
  split
  next h => simp [h]
  next h => simp [h]

/-- A script rejects when a command of it that acts against something fails. -/
def Accountable (script : List (Step C)) : Prop :=
  ∀ s ∈ script, ∀ c ∈ s.commands, targets c ≠ [] → s = .run c false

variable {targets} {respond : Respond C K} {script : List (Step C)} {w : World C K} {t : T}

theorem issue_struck {c : C} : t ∈ struck targets (issue respond c w).2 ↔
    t ∈ struck targets w ∨ t ∈ targets c := by
  simp [struck, issue_issued]

theorem runScript_aims (h : t ∈ struck targets (runScript respond script w).2) :
    t ∈ struck targets w ∨ t ∈ aims targets script := by
  obtain ⟨c, hc, ht⟩ := List.mem_flatMap.mp h
  rcases runScript_issued_mem hc with hc | ⟨s, hs, hc⟩
  · exact Or.inl (List.mem_flatMap.mpr ⟨c, hc, ht⟩)
  · exact Or.inr (List.mem_flatMap.mpr ⟨s, hs, List.mem_flatMap.mpr ⟨c, hc, ht⟩⟩)

theorem runScript_aims_keeps (h : t ∈ struck targets w) :
    t ∈ struck targets (runScript respond script w).2 := by
  obtain ⟨c, hc, ht⟩ := List.mem_flatMap.mp h
  exact List.mem_flatMap.mpr ⟨c, (runScript_issued_grows respond script w).subset hc, ht⟩

theorem runUnlessDry_aims {dryRun : Bool}
    (h : t ∈ struck targets (runUnlessDry dryRun respond script w).2) :
    t ∈ struck targets w ∨ (dryRun = false ∧ t ∈ aims targets script) := by
  unfold runUnlessDry at h
  split at h
  next => exact Or.inl h
  next hd =>
    rcases runScript_aims h with ht | ht
    · exact Or.inl ht
    · exact Or.inr ⟨by simpa using hd, ht⟩

theorem runUnlessDry_keeps {dryRun : Bool} (h : t ∈ struck targets w) :
    t ∈ struck targets (runUnlessDry dryRun respond script w).2 := by
  unfold runUnlessDry
  split
  next => exact h
  next => exact runScript_aims_keeps h

theorem rollback_struck {S : Type} {restore : S → List (Step C)}
    (hr : ∀ snapshot, aims targets (restore snapshot) = []) {snapshot : Option S}
    (h : t ∈ struck targets (rollback respond restore snapshot w).2) : t ∈ struck targets w := by
  cases snapshot with
  | none => exact h
  | some snapshot =>
    rcases runScript_aims h with ht | ht
    · exact ht
    · simp [hr] at ht

theorem accountable_append {xs ys : List (Step C)} (hx : Accountable targets xs)
    (hy : Accountable targets ys) : Accountable targets (xs ++ ys) := by
  intro s hs
  rcases List.mem_append.mp hs with hs | hs
  · exact hx s hs
  · exact hy s hs

theorem accountable_of_aims {script : List (Step C)} (h : aims targets script = []) :
    Accountable targets script := by
  intro s hs c hc hne
  have hnil := List.flatMap_eq_nil_iff.mp (List.flatMap_eq_nil_iff.mp h s hs) c hc
  exact absurd hnil hne

theorem runScript_hits (ha : Accountable targets script) (h : (runScript respond script w).1 = true)
    (ht : t ∈ aims targets script) : t ∈ struck targets (runScript respond script w).2 := by
  obtain ⟨s, hs, ht⟩ := List.mem_flatMap.mp ht
  obtain ⟨c, hc, ht⟩ := List.mem_flatMap.mp ht
  have hrun := ha s hs c hc (List.ne_nil_of_mem ht)
  exact List.mem_flatMap.mpr ⟨c, runScript_issues h (mem_mandatory.mpr (hrun ▸ hs)), ht⟩

end Aims

/-- What a fold ends with it started with or got from one of its elements. -/
theorem foldl_or_exists {α β : Type} {P : β → Prop} {Q : α → Prop} {f : β → α → β}
    (h : ∀ b a, P (f b a) → P b ∨ Q a) {xs : List α} {b : β} (hp : P (xs.foldl f b)) :
    P b ∨ ∃ a ∈ xs, Q a := by
  induction xs generalizing b with
  | nil => exact Or.inl hp
  | cons x xs ih =>
    rcases ih hp with hb | ⟨a, ha, hq⟩
    · rcases h b x hb with hb | hq
      · exact Or.inl hb
      · exact Or.inr ⟨x, List.mem_cons_self, hq⟩
    · exact Or.inr ⟨a, List.mem_cons_of_mem x ha, hq⟩

/-- A view of a fold's state is the fold of the view, unless something lasting happens. -/
theorem foldl_view_or {α β : Type} {P : β → Prop} {f : β → α → β} (view : β → V) {g : V → α → V}
    (hkeep : ∀ b a, P b → P (f b a)) (hview : ∀ b a, P (f b a) ∨ view (f b a) = g (view b) a)
    (xs : List α) {b : β} {v : V} (hb : P b ∨ view b = v) :
    P (xs.foldl f b) ∨ view (xs.foldl f b) = xs.foldl g v := by
  induction xs generalizing b v with
  | nil => exact hb
  | cons x xs ih =>
    refine ih ?_
    rcases hb with hb | rfl
    · exact Or.inl (hkeep b x hb)
    · exact hview b x

/-- What one element of a fold establishes and every element keeps holds at its end. -/
theorem foldl_of_mem {α β : Type} {P : β → Prop} {f : β → α → β}
    (hkeep : ∀ b a, P b → P (f b a)) {x : α} (hx : ∀ b, P (f b x)) {xs : List α}
    (hmem : x ∈ xs) (b : β) : P (xs.foldl f b) := by
  obtain ⟨before, after, rfl⟩ := List.append_of_mem hmem
  rw [List.foldl_append, List.foldl_cons]
  exact foldl_keeps hkeep after (hx _)

def Step.needed : Step C → List C
  | .run c false => [c]
  | .run _ true => []
  | .ensure _ add => [add]

/-- What every command of a script keeps is kept by the script, completed or not. -/
theorem runScript_invariant {respond : Respond C K} {I : K → Prop} {script : List (Step C)}
    (h : ∀ s ∈ script, ∀ c ∈ s.commands, ∀ n k, I k → I (respond n c k).2)
    {w : World C K} (hw : I w.kernel) : I (runScript respond script w).2.kernel := by
  induction script generalizing w with
  | nil => exact hw
  | cons s script ih =>
    have hc := h s (by simp)
    have hs : I (s.exec respond w).2.kernel := by
      cases s with
      | run c ignoreFailure => exact hc c (by simp [Step.commands]) _ _ hw
      | ensure check add =>
        have hcheck := hc check (by simp [Step.commands]) w.issued.length _ hw
        simp only [Step.exec]
        split
        next => exact hcheck
        next => exact hc add (by simp [Step.commands]) _ _ hcheck
    simp only [runScript]
    split
    next => exact ih (fun t ht => h t (List.mem_cons_of_mem s ht)) hs
    next => exact hs

theorem respondBy_keeps {apply : C → K → Option K} {fate : Nat → Bool} {I : K → Prop} {c : C}
    (h : ∀ k k', I k → apply c k = some k' → I k') (n : Nat) {k : K} (hk : I k) :
    I (respondBy apply fate n c k).2 := by
  cases hf : fate n with
  | false => simpa [respondBy, hf] using hk
  | true =>
    cases ha : apply c k with
    | none => simpa [respondBy, hf, ha] using hk
    | some k' => simpa [respondBy, hf, ha] using h k k' hk ha

theorem respondBy_fails {apply : C → K → Option K} {fate : Nat → Bool} {n : Nat} {c : C} {k : K}
    (h : (respondBy apply fate n c k).1 = false) : (respondBy apply fate n c k).2 = k := by
  unfold respondBy at h ⊢
  split
  next hf =>
    rw [if_pos hf] at h
    split at h
    next => simp at h
    next => rfl
  next => rfl

theorem respondBy_succeeds {apply : C → K → Option K} {fate : Nat → Bool} {n : Nat} {c : C} {k : K}
    (h : (respondBy apply fate n c k).1 = true) :
    apply c k = some (respondBy apply fate n c k).2 := by
  unfold respondBy at h ⊢
  split at h
  next hf =>
    rw [if_pos hf]
    split at h
    next ha => rw [ha]
    next => simp at h
  next => simp at h

/-- With every command granted, a script completes when an invariant makes its needed
commands applicable. -/
theorem runScript_completes {apply : C → K → Option K} {fate : Nat → Bool} (hf : ∀ n, fate n = true)
    {I : K → Prop} {script : List (Step C)}
    (needs : ∀ s ∈ script, ∀ c ∈ s.needed, ∀ k, I k → ∃ k', apply c k = some k')
    (keeps : ∀ s ∈ script, ∀ c ∈ s.commands, ∀ k k', I k → apply c k = some k' → I k')
    {w : World C K} (hw : I w.kernel) : (runScript (respondBy apply fate) script w).1 = true := by
  induction script generalizing w with
  | nil => rfl
  | cons s script ih =>
    have hn := needs s (by simp)
    have hk := keeps s (by simp)
    have hs : (s.exec (respondBy apply fate) w).1 = true := by
      cases s with
      | run c ignoreFailure =>
        cases ignoreFailure with
        | true => simp [Step.exec]
        | false =>
          obtain ⟨k', ha⟩ := hn c (by simp [Step.needed]) w.kernel hw
          simp [Step.exec, issue, respondBy, hf, ha]
      | ensure check add =>
        simp only [Step.exec]
        split
        next h => exact h
        next =>
          have hcheck : I (respondBy apply fate w.issued.length check w.kernel).2 :=
            respondBy_keeps (hk check (by simp [Step.commands])) _ hw
          obtain ⟨k', ha⟩ := hn add (by simp [Step.needed]) _ hcheck
          simp only [issue, respondBy, hf, if_true] at ha ⊢
          simp [ha]
    have hi : I (s.exec (respondBy apply fate) w).2.kernel := by
      have hone : I (runScript (respondBy apply fate) [s] w).2.kernel :=
        runScript_invariant (by simpa using fun c hc n k => respondBy_keeps (hk c hc) n) hw
      simpa [runScript, hs] using hone
    simp only [runScript, hs, if_true]
    exact ih (fun t ht => needs t (List.mem_cons_of_mem s ht))
      (fun t ht => keeps t (List.mem_cons_of_mem s ht)) hi

section Views

variable {respond : Respond C K} {view : K → V} {effect : C → V → V}

/-- A successful command has its effect on the view, a failed one leaves the view alone. -/
structure Effects (respond : Respond C K) (view : K → V) (effect : C → V → V) : Prop where
  succeeds : ∀ n c k, (respond n c k).1 = true → view (respond n c k).2 = effect c (view k)
  fails : ∀ n c k, (respond n c k).1 = false → view (respond n c k).2 = view k

theorem respondBy_effects {apply : C → K → Option K} (fate : Nat → Bool)
    (h : ∀ c k k', apply c k = some k' → view k' = effect c (view k)) :
    Effects (respondBy apply fate) view effect := by
  refine ⟨?_, ?_⟩
  · intro n c k hr
    cases hf : fate n with
    | false => simp [respondBy, hf] at hr
    | true =>
      cases ha : apply c k with
      | none => simp [respondBy, hf, ha] at hr
      | some k' => simpa [respondBy, hf, ha] using h c k k' ha
  · intro n c k hr
    cases hf : fate n with
    | false => simp [respondBy, hf]
    | true =>
      cases ha : apply c k with
      | none => simp [respondBy, hf, ha]
      | some k' => simp [respondBy, hf, ha] at hr

/-- A step whose failure goes unnoticed must not touch the view. -/
def Step.Neutral (effect : C → V → V) : Step C → Prop
  | .run c ignoreFailure => ignoreFailure = true → ∀ v, effect c v = v
  | .ensure check add => (∀ v, effect check v = v) ∧ ∀ v, effect add v = v

theorem issue_view (he : Effects respond view effect) (c : C) (w : World C K) :
    view (issue respond c w).2.kernel =
      if (issue respond c w).1 then effect c (view w.kernel) else view w.kernel := by
  cases h : (respond w.issued.length c w.kernel).1 with
  | true => simpa [issue, h] using he.succeeds _ _ _ h
  | false => simpa [issue, h] using he.fails _ _ _ h

theorem issue_view_neutral (he : Effects respond view effect) {c : C}
    (hc : ∀ v, effect c v = v) (w : World C K) :
    view (issue respond c w).2.kernel = view w.kernel := by
  rw [issue_view he]
  split
  next => exact hc _
  next => rfl

theorem ensure_view_neutral (he : Effects respond view effect) {check add : C}
    (hc : ∀ v, effect check v = v) (ha : ∀ v, effect add v = v) (w : World C K) :
    view ((Step.ensure check add).exec respond w).2.kernel = view w.kernel := by
  simp only [Step.exec]
  split
  next => exact issue_view_neutral he hc w
  next => exact (issue_view_neutral he ha _).trans (issue_view_neutral he hc w)

/-- A completed script has had the effect of its mandatory commands, in order. -/
theorem runScript_view (he : Effects respond view effect) {script : List (Step C)}
    (hn : ∀ s ∈ script, s.Neutral effect) {w : World C K}
    (h : (runScript respond script w).1 = true) :
    view (runScript respond script w).2.kernel =
      (mandatory script).foldl (fun v c => effect c v) (view w.kernel) := by
  induction script generalizing w with
  | nil => rfl
  | cons s script ih =>
    have hs := hn s (by simp)
    have hrest := fun t ht => hn t (List.mem_cons_of_mem s ht)
    simp only [runScript] at h ⊢
    split at h
    next hok =>
      rw [if_pos hok, ih hrest h]
      cases s with
      | run c ignoreFailure =>
        cases ignoreFailure with
        | true => simp only [Step.exec, issue_view_neutral he (hs rfl), mandatory_ignored_cons]
        | false =>
          have hc : (issue respond c w).1 = true := by simpa [Step.exec] using hok
          simp [Step.exec, issue_view he, hc]
      | ensure check add => rw [ensure_view_neutral he hs.1 hs.2, mandatory_ensure_cons]
    next hok => exact absurd h hok

/-- A script none of whose commands touches the view leaves it alone, completed or not. -/
theorem runScript_view_neutral (he : Effects respond view effect) {script : List (Step C)}
    (hn : ∀ s ∈ script, ∀ c ∈ s.commands, ∀ v, effect c v = v) (w : World C K) :
    view (runScript respond script w).2.kernel = view w.kernel := by
  induction script generalizing w with
  | nil => rfl
  | cons s script ih =>
    have hs : view (s.exec respond w).2.kernel = view w.kernel := by
      have hc := hn s (by simp)
      cases s with
      | run c ignoreFailure => exact issue_view_neutral he (hc c (by simp [Step.commands])) w
      | ensure check add =>
        exact ensure_view_neutral he (hc check (by simp [Step.commands]))
          (hc add (by simp [Step.commands])) w
    simp only [runScript]
    split
    next => exact (ih (fun t ht => hn t (List.mem_cons_of_mem s ht)) _).trans hs
    next => exact hs

/-- A completed script that resets the view, and then only adds to it, leaves what it adds. -/
theorem runScript_rebuild (he : Effects respond view effect)
    {before between adds after : List (Step C)} {reset : C} {v₀ : V}
    (hreset : ∀ v, effect reset v = v₀)
    (hbetween : ∀ s ∈ between, ∀ c ∈ s.commands, ∀ v, effect c v = v)
    (hadds : ∀ s ∈ adds, s.Neutral effect)
    (hafter : ∀ s ∈ after, ∀ c ∈ s.commands, ∀ v, effect c v = v) {w : World C K}
    (h : (runScript respond (before ++ .run reset false :: (between ++ (adds ++ after))) w).1 = true) :
    view (runScript respond (before ++ .run reset false :: (between ++ (adds ++ after))) w).2.kernel =
      (mandatory adds).foldl (fun v c => effect c v) v₀ := by
  obtain ⟨_, heq⟩ := runScript_append_ok h
  rw [heq] at h ⊢
  rw [← List.singleton_append] at h ⊢
  obtain ⟨hr, heq⟩ := runScript_append_ok h
  rw [heq] at h ⊢
  obtain ⟨_, heq⟩ := runScript_append_ok h
  rw [heq] at h ⊢
  obtain ⟨ha, heq⟩ := runScript_append_ok h
  rw [heq, runScript_view_neutral he hafter, runScript_view he hadds ha,
    runScript_view_neutral he hbetween]
  have hone : ∀ s ∈ [Step.run reset false], s.Neutral effect := by simp [Step.Neutral]
  rw [runScript_view he hone hr]
  simp [hreset]

end Views

section Interleaving

variable {respond : Respond C K} {view : K → V}

/-- What is in force after `n` commands when others change the view before each of them. -/
def committed (drift : Nat → V → V) (v₀ : V) : Nat → V
  | 0 => v₀
  | n + 1 => drift n (committed drift v₀ n)

/-- Everything the others committed so far is in force. -/
def InForce (view : K → V) (drift : Nat → V → V) (v₀ : V) (w : World C K) : Prop :=
  view w.kernel = committed drift v₀ w.issued.length

/-- A command at which the view only drifts. -/
def Drifts (respond : Respond C K) (view : K → V) (drift : Nat → V → V) (c : C) : Prop :=
  ∀ n k, view (respond n c k).2 = drift n (view k)

variable {drift : Nat → V → V} {v₀ : V}

theorem issue_inForce {c : C} (hc : Drifts respond view drift c) {w : World C K}
    (hw : InForce view drift v₀ w) : InForce view drift v₀ (issue respond c w).2 := by
  unfold InForce at hw ⊢
  simp only [issue, List.length_append, List.length_singleton, committed]
  rw [hc, hw]

/-- A script at whose commands the view only drifts loses nothing, completed or not. -/
theorem runScript_inForce {script : List (Step C)}
    (h : ∀ s ∈ script, ∀ c ∈ s.commands, Drifts respond view drift c) {w : World C K}
    (hw : InForce view drift v₀ w) : InForce view drift v₀ (runScript respond script w).2 := by
  induction script generalizing w with
  | nil => exact hw
  | cons s script ih =>
    have hc := h s (by simp)
    have hs : InForce view drift v₀ (s.exec respond w).2 := by
      cases s with
      | run c ignoreFailure => exact issue_inForce (hc c (by simp [Step.commands])) hw
      | ensure check add =>
        have hcheck := issue_inForce (hc check (by simp [Step.commands])) hw
        simp only [Step.exec]
        split
        next => exact hcheck
        next => exact issue_inForce (hc add (by simp [Step.commands])) hcheck
    simp only [runScript]
    split
    next => exact ih (fun t ht => h t (List.mem_cons_of_mem s ht)) hs
    next => exact hs

end Interleaving

end GuardTime
