import Mathlib.Tactic.TypeStar

/-! Straight-line procedures that stop at the first failed check. Each rule
turns a successful run into the conjunction of the checks it passed. -/
namespace FinancialOs.Library
variable {ε δ α β : Type}

/-- Stop with a failure when a condition holds. -/
def stopIf (e : ε) (c : Prop) [Decidable c] : Except ε Unit := if c then .error e else .ok ()

/-- Stop with a failure when there is no value. -/
def require (e : ε) : Option α → Except ε α
  | some a => .ok a
  | none => .error e

/-- Run a procedure whose failures are embedded into a larger type. -/
def within (f : δ → ε) : Except δ α → Except ε α
  | .ok a => .ok a
  | .error e => .error (f e)

@[simp] theorem bind_eq_ok {x : Except ε α} {f : α → Except ε β} {b : β} :
    (x >>= f) = .ok b ↔ ∃ a, x = .ok a ∧ f a = .ok b := by
  cases x with
  | error e => simp [bind, Except.bind]
  | ok a => simp [bind, Except.bind]

@[simp] theorem pure_eq_ok {a b : α} : (pure a : Except ε α) = .ok b ↔ a = b := by
  constructor
  · intro h
    cases h
    rfl
  · intro h
    rw [h]
    rfl

@[simp] theorem stopIf_eq_ok {e : ε} {c : Prop} [Decidable c] {u : Unit} :
    stopIf e c = .ok u ↔ ¬ c := by
  unfold stopIf
  split <;> simp [*]

@[simp] theorem require_eq_ok {e : ε} {o : Option α} {a : α} :
    require e o = .ok a ↔ o = some a := by
  cases o <;> simp [require]

@[simp] theorem within_eq_ok {f : δ → ε} {x : Except δ α} {a : α} :
    within f x = .ok a ↔ x = .ok a := by
  cases x <;> simp [within]

end FinancialOs.Library
