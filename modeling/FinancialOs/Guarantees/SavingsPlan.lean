import FinancialOs.Rules.GoalRules

/-! The plan of a sinking fund against its target: the rounding of the monthly share decides whether the last month
reaches it. -/
namespace FinancialOs.Guarantees
open Library Rules

section Plan
variable {targetAmount currentAmount : ℚ} {targetDate today : Date} {p : BirikimPlani}

/-- A plan over months is the rounded share of a remaining amount. -/
theorem sinkingFundPlan_aylar (h : sinkingFundPlan targetAmount (some targetDate) currentAmount today = some p)
    (hay : 0 < p.kalanAy) : 0 < roundHalfUp targetAmount 2 - roundHalfUp currentAmount 2 ∧
      p.aylikGereken = roundHalfUp ((roundHalfUp targetAmount 2 - roundHalfUp currentAmount 2) / p.kalanAy) 2 := by
  obtain rfl := Option.some.inj h
  split_ifs at hay ⊢ with hremaining hmonths
  · exact absurd hay (lt_irrefl 0)
  · exact absurd hay (lt_irrefl 0)
  · exact ⟨not_le.mp hremaining, rfl⟩

/-- The months with a kuruş less each do not reach the target. The plan itself misses it by less than half a kuruş a
month, and not at all exactly if the division leaves no part of a kuruş or at least a half. -/
theorem plan_reaches_iff (h : sinkingFundPlan targetAmount (some targetDate) currentAmount today = some p)
    (hay : 0 < p.kalanAy) :
    p.kalanAy * (p.aylikGereken - 1 / 100) < roundHalfUp targetAmount 2 - roundHalfUp currentAmount 2 ∧
      roundHalfUp targetAmount 2 - roundHalfUp currentAmount 2 - p.kalanAy * p.aylikGereken < p.kalanAy * (1 / 200) ∧
        (roundHalfUp targetAmount 2 - roundHalfUp currentAmount 2 ≤ p.kalanAy * p.aylikGereken ↔
          Int.fract ((roundHalfUp targetAmount 2 - roundHalfUp currentAmount 2) / p.kalanAy * 100) = 0 ∨
            1 / 2 ≤ Int.fract ((roundHalfUp targetAmount 2 - roundHalfUp currentAmount 2) / p.kalanAy * 100)) := by
  obtain ⟨hremaining, haylik⟩ := sinkingFundPlan_aylar h hay
  generalize roundHalfUp targetAmount 2 - roundHalfUp currentAmount 2 = remaining at hremaining haylik ⊢
  have hm : (0 : ℚ) < p.kalanAy := by exact_mod_cast hay
  have hpay : remaining = p.kalanAy * (remaining / p.kalanAy) := (mul_div_cancel₀ remaining hm.ne').symm
  have hshare : 0 ≤ remaining / p.kalanAy := (div_pos hremaining hm).le
  obtain ⟨hlow, hhigh⟩ := roundHalfUp_bounds hshare 2
  rw [← haylik] at hlow hhigh
  norm_num at hlow hhigh
  refine ⟨?_, ?_, ?_⟩
  · calc p.kalanAy * (p.aylikGereken - 1 / 100) < p.kalanAy * (remaining / p.kalanAy) :=
          mul_lt_mul_of_pos_left (by linarith) hm
      _ = remaining := hpay.symm
  · calc remaining - p.kalanAy * p.aylikGereken = p.kalanAy * (remaining / p.kalanAy - p.aylikGereken) := by
          rw [mul_sub, ← hpay]
      _ < p.kalanAy * (1 / 200) := mul_lt_mul_of_pos_left (by linarith) hm
  · have hround := @le_roundHalfUp_iff _ 2 hshare
    rw [← haylik] at hround
    rw [show remaining / p.kalanAy * 100 = remaining / p.kalanAy * 10 ^ 2 by norm_num, ← hround]
    nth_rewrite 1 [hpay]
    exact mul_le_mul_iff_right₀ hm

end Plan

def birikimGunu : Date := (Date.ofYmd? 2026 6 5).get rfl

def ucAySonra : Date := (Date.ofYmd? 2026 9 5).get rfl

/-- A hundred lira in three months. -/
theorem yuzLiraPlani :
    sinkingFundPlan 100 (some ucAySonra) 0 birikimGunu = some ⟨3333 / 100, 3, false, false⟩ := by
  decide +kernel

theorem plan_reaches_iff_yuzLira :
    (3 : ℤ) * ((3333 / 100 : ℚ) - 1 / 100) < roundHalfUp 100 2 - roundHalfUp 0 2 ∧
      roundHalfUp 100 2 - roundHalfUp 0 2 - (3 : ℤ) * (3333 / 100 : ℚ) < (3 : ℤ) * (1 / 200 : ℚ) ∧
        (roundHalfUp 100 2 - roundHalfUp 0 2 ≤ (3 : ℤ) * (3333 / 100 : ℚ) ↔
          Int.fract ((roundHalfUp 100 2 - roundHalfUp 0 2) / (3 : ℤ) * 100) = 0 ∨
            1 / 2 ≤ Int.fract ((roundHalfUp 100 2 - roundHalfUp 0 2) / (3 : ℤ) * 100)) :=
  plan_reaches_iff yuzLiraPlani (by norm_num)

/-- Three shares of 33.33 do not make a hundred. -/
theorem plan_missed_a_kurus : ¬ ∀ (targetAmount currentAmount : ℚ) (targetDate today : Date) (p : BirikimPlani),
    sinkingFundPlan targetAmount (some targetDate) currentAmount today = some p → 0 < p.kalanAy →
      roundHalfUp targetAmount 2 - roundHalfUp currentAmount 2 ≤ p.kalanAy * p.aylikGereken ∧
        p.kalanAy * (p.aylikGereken - 1 / 100) < roundHalfUp targetAmount 2 - roundHalfUp currentAmount 2 := by
  intro h
  have hreach := (h 100 0 ucAySonra birikimGunu _ yuzLiraPlani (by norm_num)).1
  have hyuz : roundHalfUp 100 2 = 100 := by
    rw [roundHalfUp_eq_iff ⟨10000, by norm_num⟩]
    norm_num
  rw [hyuz, roundHalfUp_zero] at hreach
  norm_num at hreach

end FinancialOs.Guarantees
