import Mathlib.Data.List.Basic
import Mathlib.Order.Basic
import Mathlib.Order.Lattice

/-! The lowest of a list of values with their labels, found on one walk: of several equal ones the first. -/
namespace FinancialOs.Library
variable {α β : Type} [LinearOrder α] {best : α × β} {l : List (α × β)}

def lowestOf (best : α × β) (l : List (α × β)) : α × β := l.foldl (fun b x => if x.1 < b.1 then x else b) best

theorem lowestOf_cons (best x : α × β) (l : List (α × β)) :
    lowestOf best (x :: l) = lowestOf (if x.1 < best.1 then x else best) l := rfl

theorem lowestOf_le : ∀ x ∈ best :: l, (lowestOf best l).1 ≤ x.1 := by
  induction l generalizing best with
  | nil =>
    intro x hx
    rw [List.mem_singleton.mp hx]
    exact le_refl _
  | cons y l ih =>
    rw [lowestOf_cons]
    split
    · next hlt =>
      have hmin : ∀ x ∈ y :: l, (lowestOf y l).1 ≤ x.1 := ih
      intro x hx
      rcases List.mem_cons.mp hx with rfl | hx
      · exact (hmin y List.mem_cons_self).trans hlt.le
      · exact hmin x hx
    · next hge =>
      have hmin : ∀ x ∈ best :: l, (lowestOf best l).1 ≤ x.1 := ih
      have hbest := hmin best List.mem_cons_self
      intro x hx
      rcases List.mem_cons.mp hx with rfl | hx
      · exact hbest
      · rcases List.mem_cons.mp hx with rfl | hx
        · exact hbest.trans (not_lt.mp hge)
        · exact hmin x (List.mem_cons_of_mem _ hx)

/-- It is the first of the lowest ones. -/
theorem find?_lowestOf : (best :: l).find? (fun x => x.1 = (lowestOf best l).1) = some (lowestOf best l) := by
  induction l generalizing best with
  | nil => simp [lowestOf]
  | cons y l ih =>
    rw [lowestOf_cons]
    split
    · next hlt =>
      have hle : (lowestOf y l).1 ≤ y.1 := lowestOf_le _ List.mem_cons_self
      have hne : ¬ best.1 = (lowestOf y l).1 := (hle.trans_lt hlt).ne'
      rw [List.find?_cons_of_neg (by simpa using hne)]
      exact ih
    · next hge =>
      have hle : (lowestOf best l).1 ≤ best.1 := lowestOf_le _ List.mem_cons_self
      have hfind : (best :: l).find? (fun x => x.1 = (lowestOf best l).1) = some (lowestOf best l) := ih
      by_cases hb : best.1 = (lowestOf best l).1
      · rw [List.find?_cons_of_pos (by simpa using hb)] at hfind ⊢
        exact hfind
      · have hy : ¬ y.1 = (lowestOf best l).1 := ((lt_of_le_of_ne hle (Ne.symm hb)).trans_le (not_lt.mp hge)).ne'
        rw [List.find?_cons_of_neg (by simpa using hb)] at hfind ⊢
        rw [List.find?_cons_of_neg (by simpa using hy)]
        exact hfind

end FinancialOs.Library
