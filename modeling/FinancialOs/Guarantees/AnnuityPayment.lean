import FinancialOs.Library.Amortisation
import FinancialOs.Rules.Consolidation

/-! The fixed instalment of a consolidated loan: it pays the loan off to the end, and not before it. -/
namespace FinancialOs.Guarantees
open Library Rules

section Payment
variable {principal monthlyRate : ℚ} {n : ℕ}

/-- Above the cut-off the payment is the instalment that amortises the principal. -/
theorem annuityPayment_eq (hrate : 1 / 10 ^ 6 < monthlyRate) (hn : 1 ≤ n) :
    annuityPayment principal monthlyRate n = Amortisation.instalment (monthlyRate / 100) principal n := by
  have hterm : ¬ (n : ℤ) ≤ 0 := by omega
  rw [annuityPayment, if_neg hterm, if_neg hrate.not_ge, Int.toNat_natCast]
  rfl

/-- The balance of a loan month by month: interest on it, then the payment. -/
def kalanBakiye (principal monthlyRate payment : ℚ) (k : ℕ) : ℚ :=
  (fun balance => balance * (1 + monthlyRate / 100) - payment)^[k] principal

/-- The payment leaves nothing after the last month and something before, and together the payments exceed the
principal. -/
theorem annuity_amortises (hprincipal : 0 < principal) (hrate : 1 / 10 ^ 6 < monthlyRate) (hn : 1 ≤ n) :
    kalanBakiye principal monthlyRate (annuityPayment principal monthlyRate n) n = 0 ∧
      (∀ k < n, 0 < kalanBakiye principal monthlyRate (annuityPayment principal monthlyRate n) k) ∧
        principal < n * annuityPayment principal monthlyRate n := by
  have hr : 0 < monthlyRate / 100 := by linarith
  rw [annuityPayment_eq hrate hn]
  exact ⟨Amortisation.iterate_instalment_self hr hn, fun k hk => Amortisation.iterate_instalment_pos hr hprincipal hk,
    Amortisation.lt_sum_instalment hr hprincipal hn⟩

theorem annuity_amortises_two : kalanBakiye 2100 10 (annuityPayment 2100 10 2) 2 = 0 ∧
    (∀ k < 2, 0 < kalanBakiye 2100 10 (annuityPayment 2100 10 2) k) ∧ 2100 < (2 : ℕ) * annuityPayment 2100 10 2 :=
  annuity_amortises (by norm_num) (by norm_num) (by norm_num)

end Payment

/-- The new total covers the old debt, and the interest shown is not negative. -/
theorem simulateConsolidation_faiz {debts : List DebtItem} {newRateMonthly : ℚ} {termMonths : ℤ}
    {s : KonsolidasyonSimulasyonu} (h : simulateConsolidation debts newRateMonthly termMonths = some s)
    (hprincipal : 0 < s.taban.toplamBakiye) (hrate : 1 / 10 ^ 6 < newRateMonthly) :
    0 ≤ s.yeniToplamFaiz ∧ roundEven s.taban.toplamBakiye 2 ≤ s.yeniToplamOdeme := by
  unfold simulateConsolidation at h
  cases hbase : calculateConsolidationBaseline debts with
  | none =>
    rw [hbase] at h
    cases h
  | some base =>
    rw [hbase] at h
    dsimp only at h
    split_ifs at h with hterm
    obtain rfl := Option.some.inj h
    dsimp only at hprincipal ⊢
    obtain ⟨n, rfl⟩ : ∃ n : ℕ, termMonths = n := ⟨termMonths.toNat, by omega⟩
    have hn : 1 ≤ n := by omega
    have hodeme : base.toplamBakiye ≤ annuityPayment base.toplamBakiye newRateMonthly n * (n : ℤ) := by
      rw [annuityPayment_eq hrate hn, Int.cast_natCast, mul_comm]
      exact (Amortisation.lt_sum_instalment (by linarith) hprincipal hn).le
    exact ⟨roundEven_nonneg (sub_nonneg.mpr hodeme) 2, roundEven_mono hodeme 2⟩

end FinancialOs.Guarantees
