import Mathlib.Algebra.Order.Field.Basic
import Mathlib.Algebra.Order.Ring.Pow
import Mathlib.Logic.Function.Iterate
import Mathlib.Tactic.FieldSimp
import Mathlib.Tactic.Linarith
import Mathlib.Tactic.Ring

/-! A debt that grows by a rate each period and is paid off in equal instalments. -/
namespace FinancialOs.Library.Amortisation
variable {K : Type*} [Field K]

/-- One period: the interest on the balance, then the payment. -/
def period (rate payment balance : K) : K := balance * (1 + rate) - payment

/-- The instalment that pays a debt off in `n` periods. -/
def instalment (rate principal : K) (n : ℕ) : K := principal * rate * (1 + rate) ^ n / ((1 + rate) ^ n - 1)

/-- A debt is what exceeds the perpetuity of its payment, grown over the periods. -/
theorem iterate_period {rate : K} (hrate : rate ≠ 0) (payment balance : K) (k : ℕ) :
    (period rate payment)^[k] balance = (balance - payment / rate) * (1 + rate) ^ k + payment / rate := by
  induction k with
  | zero =>
    rw [Function.iterate_zero_apply, pow_zero]
    ring
  | succ k ih =>
    rw [Function.iterate_succ_apply', ih, period, pow_succ]
    field_simp
    ring

/-- What is left of a debt after some of its instalments. -/
theorem iterate_instalment {rate : K} (hrate : rate ≠ 0) (principal : K) {n : ℕ} (hn : (1 + rate) ^ n ≠ 1) (k : ℕ) :
    (period rate (instalment rate principal n))^[k] principal =
      principal * ((1 + rate) ^ n - (1 + rate) ^ k) / ((1 + rate) ^ n - 1) := by
  have hfactor : (1 + rate) ^ n - 1 ≠ 0 := sub_ne_zero.mpr hn
  rw [iterate_period hrate, instalment]
  field_simp
  ring

section Ordered
variable [LinearOrder K] [IsStrictOrderedRing K] {rate principal : K} {n : ℕ}

theorem growth_strictMono (hrate : 0 < rate) {k : ℕ} (h : k < n) : (1 + rate) ^ k < (1 + rate) ^ n :=
  pow_lt_pow_right₀ (lt_add_of_pos_right 1 hrate) h

theorem one_lt_growth (hrate : 0 < rate) (hn : 0 < n) : 1 < (1 + rate) ^ n := by
  simpa using growth_strictMono hrate hn

/-- The last instalment leaves nothing. -/
theorem iterate_instalment_self (hrate : 0 < rate) (hn : 0 < n) :
    (period rate (instalment rate principal n))^[n] principal = 0 := by
  rw [iterate_instalment hrate.ne' principal (one_lt_growth hrate hn).ne', sub_self, mul_zero, zero_div]

/-- Before the last instalment something is left. -/
theorem iterate_instalment_pos (hrate : 0 < rate) (hprincipal : 0 < principal) {k : ℕ} (hk : k < n) :
    0 < (period rate (instalment rate principal n))^[k] principal := by
  have hn := one_lt_growth hrate (Nat.zero_lt_of_lt hk)
  rw [iterate_instalment hrate.ne' principal hn.ne']
  exact div_pos (mul_pos hprincipal (sub_pos.mpr (growth_strictMono hrate hk))) (sub_pos.mpr hn)

/-- The growth over `n` periods is less than `n` times the interest on what has grown. -/
theorem growth_sub_one_lt (hrate : 0 < rate) (hn : 0 < n) : (1 + rate) ^ n - 1 < n * rate * (1 + rate) ^ n := by
  induction n, hn using Nat.le_induction with
  | base =>
    have hsq : 0 < rate * rate := mul_pos hrate hrate
    rw [Nat.succ_eq_add_one, Nat.zero_add, pow_one, Nat.cast_one]
    linarith
  | succ n hn ih =>
    have hgrown : (1 + rate) ^ (n + 1) = (1 + rate) ^ n + rate * (1 + rate) ^ n := by ring
    have hlast : 0 < (n + 1) * rate * (rate * (1 + rate) ^ n) := by
      have : (0 : K) < 1 + rate := by linarith
      positivity
    rw [hgrown]
    push_cast
    linarith

/-- A debt at interest costs more than it is. -/
theorem lt_sum_instalment (hrate : 0 < rate) (hprincipal : 0 < principal) (hn : 0 < n) :
    principal < n * instalment rate principal n := by
  have hfactor : 0 < (1 + rate) ^ n - 1 := sub_pos.mpr (one_lt_growth hrate hn)
  rw [instalment, ← mul_div_assoc, lt_div_iff₀ hfactor]
  calc principal * ((1 + rate) ^ n - 1) < principal * (n * rate * (1 + rate) ^ n) :=
        mul_lt_mul_of_pos_left (growth_sub_one_lt hrate hn) hprincipal
    _ = n * (principal * rate * (1 + rate) ^ n) := by ring

end Ordered

end FinancialOs.Library.Amortisation
