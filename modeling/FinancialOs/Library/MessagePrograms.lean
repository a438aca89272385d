import Mathlib.Data.List.Basic

/-! Programs that receive and send messages one at a time, and what is seen of one on a stream of messages. -/
namespace FinancialOs.Library

/-- A program at a point of its run: it waits for a message, which may be an exception instead; it sends one; or it
has ended. -/
inductive Talk (μ ρ ε : Type) where
  | receive (next : Except ε μ → Talk μ ρ ε)
  | send (m : ρ) (next : Talk μ ρ ε)
  | done (r : Except ε Unit)

namespace Talk
variable {μ ρ ε σ : Type}

/-- The messages sent, how many were received, and how the run ended, if it did not stop to wait for more. -/
structure Seen (ρ ε : Type) where
  sent : List ρ
  taken : ℕ
  ended : Option (Except ε Unit)

def run : Talk μ ρ ε → List (Except ε μ) → Seen ρ ε
  | .done r, _ => ⟨[], 0, some r⟩
  | .send m p, xs =>
    let s := run p xs
    { s with sent := m :: s.sent }
  | .receive _, [] => ⟨[], 0, none⟩
  | .receive next, x :: xs =>
    let s := run (next x) xs
    { s with taken := s.taken + 1 }

/-- A program that receives every message through a filter with a state. -/
def behind (f : σ → Except ε μ → σ × Except ε μ) : σ → Talk μ ρ ε → Talk μ ρ ε
  | s, .receive next => .receive fun x => behind f (f s x).1 (next (f s x).2)
  | s, .send m p => .send m (behind f s p)
  | _, .done r => .done r

/-- The stream that a filter makes of a stream. -/
def filtered (f : σ → Except ε μ → σ × Except ε μ) : σ → List (Except ε μ) → List (Except ε μ)
  | _, [] => []
  | s, x :: xs => (f s x).2 :: filtered f (f s x).1 xs

variable {f : σ → Except ε μ → σ × Except ε μ} {s : σ}

/-- A program behind a filter is seen to do what it does alone on the filtered stream. -/
theorem run_behind (p : Talk μ ρ ε) (s : σ) (xs : List (Except ε μ)) :
    (p.behind f s).run xs = p.run (filtered f s xs) := by
  induction p generalizing s xs with
  | done r => rfl
  | send m p ih => rw [behind, run, run, ih]
  | receive next ih =>
    cases xs with
    | nil => rfl
    | cons x xs => rw [behind, run, filtered, run, ih]

/-- A filter that passes everything it is given changes nothing. -/
theorem filtered_eq_self {p : σ → List (Except ε μ) → Prop}
    (h : ∀ s x xs, p s (x :: xs) → (f s x).2 = x ∧ p (f s x).1 xs) {xs : List (Except ε μ)} (hs : p s xs) :
    filtered f s xs = xs := by
  induction xs generalizing s with
  | nil => rfl
  | cons x xs ih =>
    obtain ⟨hx, hxs⟩ := h s x xs hs
    rw [filtered, hx, ih hxs]

end Talk

end FinancialOs.Library
