import FinancialOs.Library.DecimalRounding
import FinancialOs.Library.PythonScalars

/-! The partial sale of an investment: proceeds, cost, withholding tax and what remains; and its profit and loss
before any tax. -/
namespace FinancialOs.Rules
open Library

structure SatisSimulasyonu where
  satilanLot : ℚ
  satisTutari : ℚ
  satisMaliyeti : ℚ
  brutKar : ℚ
  stopaj : ℚ
  netKar : ℚ
  netElineGecen : ℚ
  kalanLot : ℚ
  kalanDeger : ℚ
  deriving DecidableEq

/-- The standard withholding rate of 17.5 percent. -/
def stopajOrani : ℚ := 175 / 1000

def simulatePartialSale (lotCount costPerLot currentPrice lotsToSell : ℚ) :
    Except PyError SatisSimulasyonu :=
  if lotsToSell ≤ 0 then
    let verilen := NumberText.render lotsToSell
    .error (.raised s!"Satılacak lot pozitif olmalı (verilen: {verilen}).")
  else if currentPrice < 0 ∨ costPerLot < 0 then
    let fiyat := NumberText.render currentPrice
    let maliyet := NumberText.render costPerLot
    .error (.raised s!"Fiyat/maliyet negatif olamaz (fiyat={fiyat}, maliyet={maliyet}).")
  else if lotCount < lotsToSell then
    let lot := NumberText.render lotsToSell
    let mevcut := NumberText.render lotCount
    .error (.raised s!"Satılacak lot ({lot}) mevcut lottan ({mevcut}) fazla.")
  else
    let satisTutari := roundEven (lotsToSell * currentPrice) 2
    let satisMaliyeti := roundEven (lotsToSell * costPerLot) 2
    let brutKar := roundEven (satisTutari - satisMaliyeti) 2
    let stopaj := if 0 < brutKar then roundEven (brutKar * stopajOrani) 2 else 0
    let kalanLot := roundEven (lotCount - lotsToSell) 4
    .ok
      { satilanLot := lotsToSell
        satisTutari := satisTutari
        satisMaliyeti := satisMaliyeti
        brutKar := brutKar
        stopaj := stopaj
        netKar := roundEven (brutKar - stopaj) 2
        netElineGecen := roundEven (satisTutari - stopaj) 2
        kalanLot := kalanLot
        kalanDeger := roundEven (kalanLot * currentPrice) 2 }

/-- The tax never exceeds the proceeds, so a sale never takes money. -/
theorem netElineGecen_nonneg {lotCount costPerLot currentPrice lotsToSell : ℚ}
    {sim : SatisSimulasyonu}
    (h : simulatePartialSale lotCount costPerLot currentPrice lotsToSell = .ok sim) :
    0 ≤ sim.netElineGecen := by
  unfold simulatePartialSale at h
  split_ifs at h with hlot hneg hfew
  cases h
  dsimp only
  obtain ⟨hprice, hcost⟩ := not_or.mp hneg
  rw [not_lt] at hprice hcost
  have hl : 0 ≤ lotsToSell := (not_le.mp hlot).le
  have htutar := roundEven_nonneg (mul_nonneg hl hprice) 2
  have hmaliyet := roundEven_nonneg (mul_nonneg hl hcost) 2
  apply roundEven_nonneg
  split_ifs with hkar
  · have hbrut : roundEven (roundEven (lotsToSell * currentPrice) 2 -
        roundEven (lotsToSell * costPerLot) 2) 2 ≤ roundEven (lotsToSell * currentPrice) 2 := by
      have := roundEven_mono (sub_le_self (roundEven (lotsToSell * currentPrice) 2) hmaliyet) 2
      rwa [roundEven_idem] at this
    have htax := roundEven_mono (mul_le_of_le_one_right hkar.le
      (show stopajOrani ≤ 1 by norm_num [stopajOrani])) 2
    rw [roundEven_idem] at htax
    linarith
  · linarith

structure YatirimKarZarari where
  lotCount : ℚ
  costPerLot : ℚ
  currentPrice : ℚ
  toplamMaliyet : ℚ
  guncelDeger : ℚ
  brutKar : ℚ
  getiriYuzde : ℚ
  deriving DecidableEq

/-- `calculate_investment_pnl`. -/
def calculateInvestmentPnl (lotCount costPerLot currentPrice : ℚ) : YatirimKarZarari :=
  let toplamMaliyet := roundEven (lotCount * costPerLot) 2
  let guncelDeger := roundEven (lotCount * currentPrice) 2
  let brutKar := roundEven (guncelDeger - toplamMaliyet) 2
  { lotCount := lotCount
    costPerLot := costPerLot
    currentPrice := currentPrice
    toplamMaliyet := toplamMaliyet
    guncelDeger := guncelDeger
    brutKar := brutKar
    getiriYuzde := if 0 < toplamMaliyet then roundEven (brutKar / toplamMaliyet * 100) 2 else 0 }

end FinancialOs.Rules
