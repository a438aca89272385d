import Mathlib.Data.List.Basic

/-! Runs of a deterministic request machine: a request that fails is a step
that leaves the state as it was, so every run is a fold over its requests. -/
namespace FinancialOs.Library
variable {State Request : Type}

def run (step : State → Request → State) (s : State) (rs : List Request) : State :=
  rs.foldl step s

/-- Every step of the run meets a condition on the state before it and its request. -/
def StepsMeet (step : State → Request → State) (cond : State → Request → Prop) :
    State → List Request → Prop
  | _, [] => True
  | s, r :: rs => cond s r ∧ StepsMeet step cond (step s r) rs

instance StepsMeet.decidable {step : State → Request → State} {cond : State → Request → Prop}
    [∀ s r, Decidable (cond s r)] : ∀ s rs, Decidable (StepsMeet step cond s rs)
  | _, [] => .isTrue trivial
  | s, r :: rs =>
    have : Decidable (StepsMeet step cond (step s r) rs) := decidable (step s r) rs
    inferInstanceAs (Decidable (cond s r ∧ StepsMeet step cond (step s r) rs))

section Rules
variable {step : State → Request → State} {cond : State → Request → Prop}
variable {Inv : State → Prop}

@[simp] theorem run_nil (s : State) : run step s [] = s := rfl

@[simp] theorem run_cons (s : State) (r : Request) (rs : List Request) :
    run step s (r :: rs) = run step (step s r) rs := rfl

theorem run_append (s : State) (rs qs : List Request) :
    run step s (rs ++ qs) = run step (run step s rs) qs := by
  simp [run, List.foldl_append]

theorem stepsMeet_append (s : State) (rs qs : List Request) :
    StepsMeet step cond s (rs ++ qs) ↔
      StepsMeet step cond s rs ∧ StepsMeet step cond (run step s rs) qs := by
  induction rs generalizing s with
  | nil => simp [StepsMeet]
  | cons r rs ih => simp only [List.cons_append, StepsMeet, ih, run_cons, and_assoc]

/-- A condition that never fails is met by every run. -/
theorem stepsMeet_of_forall (h : ∀ s r, cond s r) (s : State) (rs : List Request) :
    StepsMeet step cond s rs := by
  induction rs generalizing s with
  | nil => trivial
  | cons r rs ih => exact ⟨h s r, ih (step s r)⟩

/-- A condition on the requests alone. -/
theorem stepsMeet_of_mem {P : Request → Prop} {s : State} {rs : List Request} (h : ∀ r ∈ rs, P r) :
    StepsMeet step (fun _ r => P r) s rs := by
  induction rs generalizing s with
  | nil => trivial
  | cons r rs ih => exact ⟨h r List.mem_cons_self, ih fun q hq => h q (List.mem_cons_of_mem r hq)⟩

theorem StepsMeet.mono {cond' : State → Request → Prop} (h : ∀ s r, cond s r → cond' s r) {s : State}
    {rs : List Request} (hc : StepsMeet step cond s rs) : StepsMeet step cond' s rs := by
  induction rs generalizing s with
  | nil => trivial
  | cons r rs ih => exact ⟨h s r hc.1, ih hc.2⟩

/-- The invariant rule for runs whose steps all meet a condition. -/
theorem run_invariant (hstep : ∀ s r, Inv s → cond s r → Inv (step s r)) {s : State}
    {rs : List Request} (hs : Inv s) (hc : StepsMeet step cond s rs) : Inv (run step s rs) := by
  induction rs generalizing s with
  | nil => exact hs
  | cons r rs ih => exact ih (hstep s r hs hc.1) hc.2

/-- The invariant rule for arbitrary runs. -/
theorem run_invariant_all (hstep : ∀ s r, Inv s → Inv (step s r)) {s : State}
    (rs : List Request) (hs : Inv s) : Inv (run step s rs) := by
  induction rs generalizing s with
  | nil => exact hs
  | cons r rs ih => exact ih (hstep s r hs)

/-- A fact about single steps, provable from an invariant, holds of every step of a run. -/
theorem stepsMeet_of_invariant {fact : State → Request → Prop}
    (hstep : ∀ s r, Inv s → cond s r → Inv (step s r))
    (hfact : ∀ s r, Inv s → cond s r → fact s r) {s : State} {rs : List Request} (hs : Inv s)
    (hc : StepsMeet step cond s rs) : StepsMeet step fact s rs := by
  induction rs generalizing s with
  | nil => trivial
  | cons r rs ih => exact ⟨hfact s r hs hc.1, ih (hstep s r hs hc.1) hc.2⟩

/-- Two facts about single steps that an invariant makes equivalent hold along the same runs. -/
theorem stepsMeet_congr {fact : State → Request → Prop} (hinv : ∀ s r, Inv s → Inv (step s r))
    (hiff : ∀ s r, Inv s → (fact s r ↔ cond s r)) {s : State} (hs : Inv s) (rs : List Request) :
    StepsMeet step fact s rs ↔ StepsMeet step cond s rs := by
  induction rs generalizing s with
  | nil => exact Iff.rfl
  | cons r rs ih => exact and_congr (hiff s r hs) (ih (hinv s r hs))

/-- The same where the invariant is only kept by the steps of which the fact holds. -/
theorem stepsMeet_congr_of_kept {fact : State → Request → Prop} (hinv : ∀ s r, Inv s → fact s r → Inv (step s r))
    (hiff : ∀ s r, Inv s → (fact s r ↔ cond s r)) {s : State} (hs : Inv s) (rs : List Request) :
    StepsMeet step fact s rs ↔ StepsMeet step cond s rs := by
  induction rs generalizing s with
  | nil => exact Iff.rfl
  | cons r rs ih =>
    constructor
    · rintro ⟨hfact, hrest⟩
      exact ⟨(hiff s r hs).mp hfact, (ih (hinv s r hs hfact)).mp hrest⟩
    · rintro ⟨hcond, hrest⟩
      have hfact := (hiff s r hs).mpr hcond
      exact ⟨hfact, (ih (hinv s r hs hfact)).mpr hrest⟩

/-- A law that each step keeps exactly when it meets the condition holds in every state of a run
exactly when all of its steps do. -/
theorem prefixes_iff_stepsMeet {Law : State → Prop} (hinv : ∀ s r, Inv s → Inv (step s r))
    (hlaw : ∀ s r, Inv s → Law s → (Law (step s r) ↔ cond s r)) {s : State} (hs : Inv s) (hl : Law s)
    (rs : List Request) :
    (∀ n, Law (run step s (rs.take n))) ↔ StepsMeet step cond s rs := by
  induction rs generalizing s with
  | nil =>
    constructor
    · intro _
      trivial
    · intro _ n
      rw [List.take_nil]
      exact hl
  | cons r rs ih =>
    have hone := hlaw s r hs hl
    constructor
    · intro h
      have hstep : Law (step s r) := h 1
      refine ⟨hone.mp hstep, (ih (hinv s r hs) hstep).mp fun n => ?_⟩
      exact h (n + 1)
    · rintro ⟨hc, hrest⟩ n
      cases n with
      | zero => exact hl
      | succ n => exact (ih (hinv s r hs) (hone.mpr hc)).mpr hrest n

end Rules

/-- The entries that the steps of a run write into a log, the oldest first. -/
def trail {Entry : Type} (step : State → Request → State) (log : State → Request → List Entry) :
    State → List Request → List Entry
  | _, [] => []
  | s, r :: rs => log s r ++ trail step log (step s r) rs

/-- Entries that undo a step each undo a run when they are read from the last one on. -/
theorem undo_trail {Entry View : Type} {step : State → Request → State} {cond : State → Request → Prop}
    {log : State → Request → List Entry} {back : Entry → View → View} {view : State → View} {R : View → View → Prop}
    (hrefl : ∀ v, R v v) (htrans : ∀ u v w, R u v → R v w → R u w) (hback : ∀ e v w, R v w → R (back e v) (back e w))
    (hstep : ∀ s r, cond s r → R (view s) ((log s r).foldr back (view (step s r)))) {s : State} {rs : List Request}
    (hc : StepsMeet step cond s rs) : R (view s) ((trail step log s rs).foldr back (view (run step s rs))) := by
  have hlist : ∀ (l : List Entry) v w, R v w → R (l.foldr back v) (l.foldr back w) := by
    intro l v w h
    induction l with
    | nil => exact h
    | cons e l ih => exact hback e _ _ ih
  induction rs generalizing s with
  | nil => exact hrefl _
  | cons r rs ih =>
    rw [trail, List.foldr_append]
    exact htrans _ _ _ (hstep s r hc.1) (hlist _ _ _ (ih hc.2))

end FinancialOs.Library
