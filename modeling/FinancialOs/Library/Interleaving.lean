import FinancialOs.Library.TransitionRuns
import Mathlib.Logic.Function.Iterate

/-! Processes interleaved over a shared state. A schedule is the list of the processes that
take the steps; an invariant is local to each process and free of interference from the others. -/
namespace FinancialOs.Library
variable {ι σ κ : Type} [DecidableEq ι]

/-- A shared state and the place each process has reached. -/
structure Pool (ι σ κ : Type) where
  shared : σ
  loc : ι → κ

namespace Pool

/-- One process takes one step. -/
def step (f : ι → σ → κ → σ × κ) (p : Pool ι σ κ) (i : ι) : Pool ι σ κ :=
  ⟨(f i p.shared (p.loc i)).1, Function.update p.loc i (f i p.shared (p.loc i)).2⟩

/-- A condition on the shared state, and one on the place of each process. -/
structure Holds (G : σ → Prop) (L : ι → σ → κ → Prop) (p : Pool ι σ κ) : Prop where
  shared : G p.shared
  loc : ∀ i, L i p.shared (p.loc i)

section Rules
variable {f : ι → σ → κ → σ × κ} {G : σ → Prop} {L : ι → σ → κ → Prop} {C : ι → σ → κ → Prop}

@[simp] theorem step_shared (p : Pool ι σ κ) (i : ι) :
    (p.step f i).shared = (f i p.shared (p.loc i)).1 := rfl

@[simp] theorem step_loc_self (p : Pool ι σ κ) (i : ι) :
    (p.step f i).loc i = (f i p.shared (p.loc i)).2 := Function.update_self ..

theorem step_loc_of_ne (p : Pool ι σ κ) {i j : ι} (h : j ≠ i) : (p.step f i).loc j = p.loc j :=
  Function.update_of_ne h ..

/-- What each process keeps for itself, and what no other process breaks, holds after every
schedule whose steps meet the condition. -/
theorem run_holds
    (hown : ∀ i s k, G s → L i s k → C i s k → G (f i s k).1 ∧ L i (f i s k).1 (f i s k).2)
    (hother : ∀ i j s k m, j ≠ i → G s → L i s k → C i s k → L j s m → L j (f i s k).1 m)
    {p : Pool ι σ κ} {sira : List ι} (hp : p.Holds G L)
    (hc : StepsMeet (step f) (fun p i => C i p.shared (p.loc i)) p sira) :
    (run (step f) p sira).Holds G L := by
  refine run_invariant (fun p i hp hc => ?_) hp hc
  obtain ⟨hG, hL⟩ := hown i p.shared (p.loc i) hp.shared (hp.loc i) hc
  refine ⟨hG, fun j => ?_⟩
  by_cases hj : j = i
  · subst hj
    rw [step_loc_self]
    exact hL
  · rw [step_loc_of_ne p hj]
    exact hother i j p.shared (p.loc i) (p.loc j) hj hp.shared (hp.loc i) hc (hp.loc j)

/-- A process that the schedule does not name stays where it is. -/
theorem run_loc_of_not_mem (p : Pool ι σ κ) {i : ι} {sira : List ι} (h : i ∉ sira) :
    (run (step f) p sira).loc i = p.loc i := by
  induction sira generalizing p with
  | nil => rfl
  | cons j sira ih =>
    obtain ⟨hij, h⟩ := not_or.mp (mt List.mem_cons.mpr h)
    rw [run_cons, ih (p.step f j) h, step_loc_of_ne p hij]

/-- A process that runs alone iterates its own step. -/
theorem run_alone (p : Pool ι σ κ) (i : ι) (n : ℕ) :
    ((run (step f) p (List.replicate n i)).shared, (run (step f) p (List.replicate n i)).loc i) =
      (fun r => f i r.1 r.2)^[n] (p.shared, p.loc i) := by
  induction n generalizing p with
  | zero => rfl
  | succ n ih =>
    rw [List.replicate_succ, run_cons, ih, Function.iterate_succ_apply, step_shared, step_loc_self]

end Rules

end Pool

end FinancialOs.Library
