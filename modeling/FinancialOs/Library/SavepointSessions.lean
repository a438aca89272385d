import Mathlib.Data.List.Basic

/-! Unit-of-work sessions with savepoints. Other sessions see the committed state only,
and closing a session discards what it has not committed. -/
namespace FinancialOs.Library
variable {σ : Type}

/-- The committed state, the session's own view and the views to go back to; `begun` says that
a write outside every savepoint has opened the transaction. -/
structure Session (σ : Type) where
  committed : σ
  current : σ
  savepoints : List σ
  begun : Bool

namespace Session

def start (s : σ) : Session σ := ⟨s, s, [], false⟩

def write (f : σ → σ) (t : Session σ) : Session σ :=
  { t with current := f t.current, begun := t.begun || t.savepoints.isEmpty }

def beginNested (t : Session σ) : Session σ := { t with savepoints := t.current :: t.savepoints }

/-- Release the innermost savepoint. A driver that lets the outermost savepoint stand for the
transaction publishes with it, unless the transaction was opened before. -/
def release (publishes : Bool) (t : Session σ) : Session σ :=
  match t.savepoints with
  | [] => t
  | _ :: rest =>
    if publishes && rest.isEmpty && !t.begun then start t.current else { t with savepoints := rest }

/-- Go back to the innermost savepoint, which stays open. -/
def rollbackTo (t : Session σ) : Session σ :=
  match t.savepoints with
  | [] => t
  | s :: _ => { t with current := s }

def commit (t : Session σ) : Session σ := start t.current

def close (t : Session σ) : σ := t.committed

@[simp] theorem close_start (s : σ) : (start s).close = s := rfl

@[simp] theorem close_commit (t : Session σ) : t.commit.close = t.current := rfl

@[simp] theorem close_write (f : σ → σ) (t : Session σ) : (t.write f).close = t.close := rfl

@[simp] theorem current_write (f : σ → σ) (t : Session σ) : (t.write f).current = f t.current := rfl

@[simp] theorem close_beginNested (t : Session σ) : t.beginNested.close = t.close := rfl

@[simp] theorem current_beginNested (t : Session σ) : t.beginNested.current = t.current := rfl

/-- A write between a savepoint and its release is published or kept in the session's own view. -/
theorem release_nested (publishes : Bool) (f : σ → σ) (t : Session σ) :
    (t.beginNested.write f).release publishes =
      if publishes && t.savepoints.isEmpty && !t.begun then start (f t.current)
      else { t with current := f t.current } := by
  simp only [release, beginNested, write, List.isEmpty_cons, Bool.or_false]

/-- Under a driver that does not publish savepoints, only a commit changes what others see. -/
theorem close_release_nested (f : σ → σ) (t : Session σ) :
    ((t.beginNested.write f).release false).close = t.close := by
  rw [release_nested]
  rfl

end Session

end FinancialOs.Library
