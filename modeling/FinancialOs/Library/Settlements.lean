import Mathlib.Algebra.Order.Group.Defs
import Mathlib.Algebra.Order.Group.Unbundled.Basic
import Mathlib.Algebra.Order.Group.MinMax
import Mathlib.Tactic.Abel

/-! Payments against a balance, where a remainder below a tolerance is paid off with the last of
them: what is left, and how it moves with the balance and with the amount at hand. -/
namespace FinancialOs.Library
variable {K : Type} [AddCommGroup K] [LinearOrder K] {tol due due' b b' : K}

/-- What is paid of a balance when `due` is at hand. -/
def settlement (tol due b : K) : K := if b - min due b < tol then b else min due b

/-- What a payment leaves of the difference between a balance and the amount at hand. -/
def remainder (tol x : K) : K := if x < tol then 0 else x

theorem remainder_cases (tol x : K) : x < tol ∧ remainder tol x = 0 ∨ tol ≤ x ∧ remainder tol x = x := by
  unfold remainder
  by_cases h : x < tol
  · exact .inl ⟨h, if_pos h⟩
  · exact .inr ⟨not_lt.mp h, if_neg h⟩

theorem remainder_nonneg (ht : 0 < tol) (x : K) : 0 ≤ remainder tol x := by
  rcases remainder_cases tol x with ⟨_, h⟩ | ⟨hx, h⟩
  · exact h.ge
  · rw [h]
    exact ht.le.trans hx

theorem remainder_mono (ht : 0 < tol) {x y : K} (h : x ≤ y) : remainder tol x ≤ remainder tol y := by
  rcases remainder_cases tol x with ⟨_, hx⟩ | ⟨hx, he⟩
  · rw [hx]
    exact remainder_nonneg ht y
  · rw [he, remainder, if_neg (not_lt.mpr (hx.trans h))]
    exact h

/-- A payment of a non-negative amount takes nothing back. -/
theorem settlement_nonneg (hd : 0 ≤ due) (hb : 0 ≤ b) : 0 ≤ settlement tol due b := by
  unfold settlement
  split
  · exact hb
  · exact le_min hd hb

variable [IsOrderedAddMonoid K]

theorem sub_min_lt_iff (ht : 0 < tol) : b - min due b < tol ↔ b - due < tol := by
  rcases le_total due b with h | h
  · rw [min_eq_left h]
  · rw [min_eq_right h, sub_self]
    exact iff_of_true ht ((sub_nonpos.mpr h).trans_lt ht)

theorem sub_settlement (ht : 0 < tol) : b - settlement tol due b = remainder tol (b - due) := by
  unfold settlement remainder
  by_cases h : b - due < tol
  · rw [if_pos ((sub_min_lt_iff ht).mpr h), if_pos h, sub_self]
  · have hdue : due ≤ b := by
      by_contra hlt
      exact h ((sub_neg.mpr (not_le.mp hlt)).trans ht)
    rw [if_neg (mt (sub_min_lt_iff ht).mp h), if_neg h, min_eq_left hdue]

/-- With more at hand for a smaller balance, more is left over, as far as it counts. -/
theorem leftover_mono (ht : 0 < tol) (h : b' - due' ≤ b - due) :
    max (due - settlement tol due b) tol ≤ max (due' - settlement tol due' b') tol := by
  have hleft (d c : K) : d - settlement tol d c = remainder tol (c - d) - (c - d) := by
    rw [← sub_settlement ht]
    abel
  rw [hleft, hleft]
  rcases remainder_cases tol (b - due) with ⟨hlt, he⟩ | ⟨_, he⟩
  · have he' : remainder tol (b' - due') = 0 := if_pos (h.trans_lt hlt)
    rw [he, he', zero_sub, zero_sub]
    exact max_le_max (neg_le_neg h) (le_refl tol)
  · rw [he, sub_self, max_eq_right ht.le]
    exact le_max_right _ _

end FinancialOs.Library
