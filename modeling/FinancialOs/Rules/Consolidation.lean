import FinancialOs.Library.DecimalRounding
import FinancialOs.Rules.DebtStrategy

/-! The consolidation of debts into one loan with a fixed instalment. -/
namespace FinancialOs.Rules
open Library

/-- `_annuity_payment`: a rate in percent a month, up to the cut-off counted as none. -/
def annuityPayment (principal monthlyRate : ℚ) (termMonths : ℤ) : ℚ :=
  if termMonths ≤ 0 then principal
  else if monthlyRate ≤ 1 / 10 ^ 6 then principal / termMonths
  else
    let r := monthlyRate / 100
    let factor := (1 + r) ^ termMonths.toNat
    principal * r * factor / (factor - 1)

structure KonsolidasyonTabani where
  borcAdet : ℕ
  toplamBakiye : ℚ
  agirlikliOrtOran : ℚ
  enYuksekOran : ℚ
  enDusukOran : ℚ
  deriving DecidableEq

/-- `calculate_consolidation_baseline`: there is nothing to consolidate below two debts. -/
def calculateConsolidationBaseline (debts : List DebtItem) : Option KonsolidasyonTabani :=
  match debts.filter (fun d => 0 < d.balance) with
  | [] => none
  | [_] => none
  | d :: active =>
    let toplam := ((d :: active).map DebtItem.balance).sum
    let agirlikli := ((d :: active).map fun d => d.balance * d.interestRateMonthly).sum / toplam
    some
      { borcAdet := (d :: active).length
        toplamBakiye := roundEven toplam 2
        agirlikliOrtOran := roundEven agirlikli 3
        enYuksekOran := roundEven ((active.map DebtItem.interestRateMonthly).foldl max d.interestRateMonthly) 3
        enDusukOran := roundEven ((active.map DebtItem.interestRateMonthly).foldl min d.interestRateMonthly) 3 }

structure KonsolidasyonSimulasyonu where
  taban : KonsolidasyonTabani
  yeniOran : ℚ
  vadeAy : ℤ
  yeniTaksit : ℚ
  yeniToplamFaiz : ℚ
  yeniToplamOdeme : ℚ
  oranAvantajli : Bool
  deriving DecidableEq

/-- `simulate_consolidation`. -/
def simulateConsolidation (debts : List DebtItem) (newRateMonthly : ℚ) (termMonths : ℤ) :
    Option KonsolidasyonSimulasyonu :=
  match calculateConsolidationBaseline debts with
  | none => none
  | some base =>
    if termMonths ≤ 0 then none
    else
      let principal := base.toplamBakiye
      let taksit := annuityPayment principal newRateMonthly termMonths
      let toplamOdeme := taksit * termMonths
      some
        { taban := base
          yeniOran := roundEven newRateMonthly 3
          vadeAy := termMonths
          yeniTaksit := roundEven taksit 2
          yeniToplamFaiz := roundEven (toplamOdeme - principal) 2
          yeniToplamOdeme := roundEven toplamOdeme 2
          oranAvantajli := newRateMonthly < base.agirlikliOrtOran }

end FinancialOs.Rules
