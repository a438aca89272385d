import FinancialOs.Rules.CashForecast

/-! The cockpit's totals and the figures it derives from them: the budget, the net worth, and what
may still be spent. -/
namespace FinancialOs.Rules
open Library Store

def kartBorcu (p : PanelDb) (userId : ℕ) (workspaceId : Option ℕ) : ℚ :=
  ((turHesaplari p.db userId workspaceId .creditCard).map fun a => a.2.balance).sum

def krediBorcu (p : PanelDb) (userId : ℕ) (workspaceId : Option ℕ) : ℚ :=
  ((turHesaplari p.db userId workspaceId .loan).map fun a => a.2.balance).sum

/-- The value of the investment accounts that are in custody, or of those that are not. -/
def yatirimDegeri (p : PanelDb) (userId : ℕ) (workspaceId : Option ℕ) (emanet : Bool) : ℚ :=
  (((turHesaplari p.db userId workspaceId .investment).filter fun a => a.2.isEmanet = emanet).map fun a =>
    a.2.lotCount.getD 0 * a.2.currentPrice.getD 0).sum

/-- An expected income of the rest of the month. -/
structure BeklenenGelir where
  ad : String
  tutar : ℚ
  tarih : MonthDay
  deriving DecidableEq

def beklenenler (p : PanelDb) (userId : ℕ) (workspaceId : Option ℕ) (today : Date) : List (ℕ × Recurring) :=
  (etkinKayitlar p.db.incomes userId workspaceId).filter fun inc =>
    inc.2.lastTriggeredYearMonth ≠ some (yilAy today) ∧
      today.day ≤ min inc.2.dayOfMonth (monthLength today.monthDay.month)

/-- `_calculate_expected_income_until_eom`. -/
def calculateExpectedIncomeUntilEom (p : PanelDb) (userId : ℕ) (workspaceId : Option ℕ) (today : Date) :
    ℚ × List BeklenenGelir :=
  let gelirler := beklenenler p userId workspaceId today
  (roundEven (gelirler.map fun inc => inc.2.amount).sum 2,
    gelirler.map fun inc => ⟨inc.2.name, inc.2.amount, vadeGunu today.monthDay.month inc.2.dayOfMonth⟩)

/-- The loan instalments due up to the month's end, each `monthly_payment or 0.0`. -/
def vadesiGelenTaksitler (p : PanelDb) (userId : ℕ) (workspaceId : Option ℕ) (today : MonthDay) : List ℚ :=
  ((turHesaplari p.db userId workspaceId .loan).filter fun loan =>
    (p.hesapEki loan.1).nextPaymentDate.any fun d => today ≤ d.monthDay ∧ d.monthDay ≤ ayinSonGunu today).map
      fun loan => (p.hesapEki loan.1).monthlyPayment.getD 0

/-- The unpaid debts of a direction, each `amount or 0.0`. -/
def odenmemisler (p : PanelDb) (userId : ℕ) (workspaceId : Option ℕ) (direction : DebtDirection) :
    List (ℕ × PersonalDebt) :=
  (kapsamSatirlari p.db.debts userId workspaceId).filter fun d => d.2.direction = direction ∧ d.2.isPaid = false

/-- The amounts `_calculate_receivables_until_eom` adds up. -/
def vadesiGelenAlacaklar (p : PanelDb) (userId : ℕ) (workspaceId : Option ℕ) (today : MonthDay) : List ℚ :=
  ((odenmemisler p userId workspaceId .receivable).filter fun d =>
    d.2.dueDate.any fun due => today ≤ due.monthDay ∧ due.monthDay ≤ ayinSonGunu today).map fun d => d.2.amount

/-- The amounts of `_calculate_total_receivables` and `_calculate_total_payables`. -/
def odenmemisTutarlar (p : PanelDb) (userId : ℕ) (workspaceId : Option ℕ) (direction : DebtDirection) : List ℚ :=
  (odenmemisler p userId workspaceId direction).map fun d => d.2.amount

/-- A sum raises `TypeError` where the float `0.0` of an amount that is zero or missing meets a
`Decimal`; the sums up to the month's end meet one in any case. -/
def turHatasi (p : PanelDb) (userId : ℕ) (workspaceId : Option ℕ) (today : MonthDay) : Bool :=
  let karisik (l : List ℚ) : Bool := l.any (fun x => x = 0) && l.any (fun x => x ≠ 0)
  (vadesiGelenTaksitler p userId workspaceId today).any (fun x => x = 0) ||
    (vadesiGelenAlacaklar p userId workspaceId today).any (fun x => x = 0) ||
    karisik (odenmemisTutarlar p userId workspaceId .receivable) ||
    karisik (odenmemisTutarlar p userId workspaceId .payable)

def applyShadowAccounting (cash expectedIncome cardDebt loanPaymentsThisMonth : ℚ) : ℚ :=
  roundEven (cash + expectedIncome - cardDebt - loanPaymentsThisMonth) 2

def getMonthRemainingDays (today : MonthDay) : ℕ := monthLength today.month - today.day + 1

def calculateDailyLimit (reelButce : ℚ) (daysRemaining : ℕ) : ℚ :=
  if daysRemaining = 0 then 0 else roundEven (reelButce / daysRemaining) 2

def netWorthSeen (cash investment cardDebt loanDebt : ℚ) : ℚ := cash + investment - cardDebt - loanDebt

def netWorthFull (seen receivables payables : ℚ) : ℚ := seen + receivables - payables

/-- `_calculate_safe_to_spend`: the debt on the cards is not there to be spent. -/
def calculateSafeToSpend (summary : ForecastSummary) (kartBorcu : ℚ) : ℚ :=
  roundEven (max 0 (summary.lowestBalance - kartBorcu)) 2

/-- `_calculate_safe_debt_payment`. -/
def calculateSafeDebtPayment (summary : ForecastSummary) (buffer : ℚ) : ℚ :=
  roundEven (max 0 (summary.lowestBalance - buffer)) 2

structure OdemeSenaryosu where
  tampon : ℚ
  odenebilir : ℚ
  varsayilan : Bool
  deriving DecidableEq

/-- The menu of safe debt payments; without a debt there is nothing to pay. -/
inductive GuvenliBorcOdemesi where
  | borcYok (kartBorcu krediBorcu : ℚ)
  | uygun (kartBorcu krediBorcu toplamBorc enDusukNakit : ℚ) (enDusukTarih : MonthDay)
      (varsayilanTampon onerilenOdeme : ℚ) (senaryolar : List OdemeSenaryosu)
  deriving DecidableEq

def buildSafeDebtPaymentScenarios (summary : ForecastSummary) (defaultBuffer kartBorcu krediBorcu : ℚ) :
    GuvenliBorcOdemesi :=
  let toplamBorc := kartBorcu + krediBorcu
  let cap (x : ℚ) := roundEven (min x toplamBorc) 2
  if toplamBorc ≤ 0 then .borcYok (roundEven kartBorcu 2) (roundEven krediBorcu 2)
  else .uygun (roundEven kartBorcu 2) (roundEven krediBorcu 2) (roundEven toplamBorc 2)
    (roundEven summary.lowestBalance 2) summary.lowestDate (roundEven defaultBuffer 2)
    (cap (calculateSafeDebtPayment summary defaultBuffer))
    (([0, defaultBuffer, 5000].dedup.mergeSort fun a b => a ≤ b).map fun t =>
      ⟨roundEven t 2, cap (calculateSafeDebtPayment summary t), t = defaultBuffer⟩)

/-- The expenses of a category from the first of the month to today. -/
def kategoriHarcamasi (p : PanelDb) (userId : ℕ) (workspaceId : Option ℕ) (today : MonthDay) (category : String) : ℚ :=
  roundEven (((kapsamSatirlari p.db.transactions userId workspaceId).filter fun t =>
    t.2.transactionType = .expense ∧ t.2.category.getD "(kategorisiz)" = category ∧
      MonthDay.firstOf today.month ≤ t.2.transactionDate.monthDay ∧ t.2.transactionDate.monthDay ≤ today).map
    fun t => t.2.amount).sum 2

/-- What is left in each active envelope of the month, `kalan`. -/
def zarfKalanlari (p : PanelDb) (userId : ℕ) (workspaceId : Option ℕ) (today : MonthDay) : List ℚ :=
  ((kapsamSatirlari p.envelopes userId workspaceId).filter fun e => e.2.isActive).map fun e =>
    roundEven (e.2.monthlyAmount - kategoriHarcamasi p userId workspaceId today e.2.category) 2

structure KokpitRakamlari where
  nakitKasa : ℚ
  kartBorcu : ℚ
  krediBorcu : ℚ
  yatirimDeger : ℚ
  emanetKasa : ℚ
  beklenenGelir : ℚ
  reelButce : ℚ
  netDeger : ℚ
  netDegerTam : ℚ
  dailyLimit : ℚ
  guvenliHarcama : ℚ
  guvenliBorcOdemesi : GuvenliBorcOdemesi
  atanmamisNakit : ℚ
  nakitTakvimi : NakitTakvimi
  deriving DecidableEq

/-- The figures of `generate_cockpit` that say what there is and what may be spent; the default buffer
of a debt payment is a setting. -/
def kokpitRakamlari (safeDebtBuffer : ℚ) (p : PanelDb) (userId : ℕ) (workspaceId : Option ℕ) (today : Date) :
    Except PyError KokpitRakamlari :=
  let nakit := nakitToplami p.db userId workspaceId
  let kart := kartBorcu p userId workspaceId
  let kredi := krediBorcu p userId workspaceId
  let yatirim := yatirimDegeri p userId workspaceId false
  let gelir := (calculateExpectedIncomeUntilEom p userId workspaceId today).1
  let reelButce := applyShadowAccounting nakit gelir kart
    (roundEven (vadesiGelenTaksitler p userId workspaceId today.monthDay).sum 2)
  let netDeger := roundEven (netWorthSeen nakit yatirim kart kredi) 2
  let summary := (generateForecast p userId workspaceId 90 none .hepsi 0 today).summary
  if turHatasi p userId workspaceId today.monthDay then .error .typeError
  else .ok {
    nakitKasa := roundEven nakit 2
    kartBorcu := roundEven kart 2
    krediBorcu := roundEven kredi 2
    yatirimDeger := roundEven yatirim 2
    emanetKasa := roundEven (yatirimDegeri p userId workspaceId true) 2
    beklenenGelir := roundEven
      (gelir + roundEven (vadesiGelenAlacaklar p userId workspaceId today.monthDay).sum 2) 2
    reelButce := reelButce
    netDeger := netDeger
    netDegerTam := roundEven (netWorthFull netDeger
      (roundEven (odenmemisTutarlar p userId workspaceId .receivable).sum 2)
      (roundEven (odenmemisTutarlar p userId workspaceId .payable).sum 2)) 2
    dailyLimit := calculateDailyLimit reelButce (getMonthRemainingDays today.monthDay)
    guvenliHarcama := calculateSafeToSpend summary kart
    guvenliBorcOdemesi := buildSafeDebtPaymentScenarios summary safeDebtBuffer kart kredi
    atanmamisNakit :=
      roundEven (nakit - ((zarfKalanlari p userId workspaceId today.monthDay).map (max 0)).sum) 2
    nakitTakvimi := calculateNakitTakvimi p userId workspaceId today }

end FinancialOs.Rules
