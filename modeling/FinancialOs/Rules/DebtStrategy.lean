import FinancialOs.Library.DecimalRounding
import FinancialOs.Library.Settlements
import FinancialOs.Store.Scope
import Mathlib.Data.List.Sort

/-! The debt strategies: snowball and avalanche run one month-by-month simulation and differ in
the order in which the money beyond the minimum payments is spent. -/
namespace FinancialOs.Rules
open Library Store

structure DebtItem where
  accountId : ℕ
  accountType : AccountType
  balance : ℚ
  interestRateMonthly : ℚ
  minPayment : ℚ
  minPaymentRatio : ℚ
  deriving DecidableEq

def defaultCardInterestMonthly : ℚ := 425 / 100

def minCardPaymentRatio : ℚ := 25 / 100

def maxMonths : ℕ := 600

/-- A hundredth, below which a balance counts as none. -/
def kurusEsigi : ℚ := 1 / 100

/-- `gecerli_asgari_oran`: a ratio that is unknown or out of range is the fallback. -/
def gecerliAsgariOran (oran : Option ℚ) : ℚ := (oran.filter (fun o => 0 < o ∧ o ≤ 1)).getD minCardPaymentRatio

/-- A loan without an instalment amount: what its remaining instalments or a twentieth make. -/
def taksitTahmini (a : AccountRow) : ℚ :=
  match a.remainingInstallments with
  | some n => if 0 < n then a.balance / n else a.balance * (5 / 100)
  | none => a.balance * (5 / 100)

/-- One debt account as `collect_debts` normalizes it. -/
def borcKalemi (id : ℕ) (a : AccountRow) : DebtItem := {
  accountId := id
  accountType := a.accountType
  balance := a.balance
  interestRateMonthly := (a.interestRate.filter (0 < ·)).getD
    (if a.accountType = .creditCard then defaultCardInterestMonthly else 0)
  minPayment :=
    if a.accountType = .creditCard then
      max (a.statementBalance.getD a.balance * gecerliAsgariOran a.minPaymentRatio) 50
    else if 0 < a.monthlyPayment.getD 0 then a.monthlyPayment.getD 0
    else taksitTahmini a
  minPaymentRatio := gecerliAsgariOran a.minPaymentRatio }

def collectDebts (accounts : Table AccountRow) (userId : ℕ) (workspaceId : Option ℕ) : List DebtItem :=
  (accounts.select (fun a => scopeFilter userId workspaceId a ∧
    (a.accountType = .creditCard ∨ a.accountType = .loan) ∧ 0 < a.balance)).map (fun r => borcKalemi r.1 r.2)

/-- `_add_months`: the day is clamped to the month it falls into. -/
def addMonths (d : Date) (months : ℕ) : Option Date :=
  let total := d.month - 1 + months
  let year := d.year + total / 12
  let month := total % 12 + 1
  Date.ofYmd? year month (min d.day (daysInMonth year month))

/-- One simulated month; the dictionaries hold zero where they have no entry. -/
structure MonthSnapshot where
  monthIndex : ℕ
  debtBalances : ℕ → ℚ
  paidThisMonth : ℕ → ℚ
  interestThisMonth : ℕ → ℚ
  payoffEvents : List ℕ

/-- The local variables of the simulation. -/
structure Simulasyon where
  state : ℕ → ℚ
  totalInterest : ℚ
  totalPaid : ℚ
  schedule : List MonthSnapshot
  debtPayoffMonths : ℕ → Option ℕ
  lastBaseMin : ℕ → Option ℚ
  month : ℕ
  extraMonthly : ℚ
  availableExtra : ℚ
  snapshotInterest : ℕ → ℚ
  snapshotPaid : ℕ → ℚ
  snapshotEvents : List ℕ

def debtById (debts : List DebtItem) (aid : ℕ) : Option DebtItem := debts.find? (fun d => d.accountId = aid)

def Simulasyon.baslangic (debts : List DebtItem) (extraMonthly : ℚ) : Simulasyon where
  state aid := ((debtById debts aid).map DebtItem.balance).getD 0
  totalInterest := 0
  totalPaid := 0
  schedule := []
  debtPayoffMonths _ := none
  lastBaseMin _ := none
  month := 0
  extraMonthly := extraMonthly
  availableExtra := 0
  snapshotInterest _ := 0
  snapshotPaid _ := 0
  snapshotEvents := []

/-- Interest accrues on a debt that is not paid off. -/
def faizTahakkuk (s : Simulasyon) (d : DebtItem) : Simulasyon :=
  if s.state d.accountId ≤ kurusEsigi then s
  else
    let interest := s.state d.accountId * (d.interestRateMonthly / 100)
    { s with
      state := Function.update s.state d.accountId (s.state d.accountId + interest)
      totalInterest := s.totalInterest + interest
      snapshotInterest := Function.update s.snapshotInterest d.accountId interest }

/-- The minimum payment: of a card by its balance, of a loan its instalment. -/
def DebtItem.baseMin (d : DebtItem) (balance : ℚ) : ℚ :=
  if d.accountType = .creditCard then max (balance * d.minPaymentRatio) 50 else d.minPayment

/-- A payment, and the payoff of the debt if nothing is left of it. -/
def Simulasyon.ode (s : Simulasyon) (aid : ℕ) (pay : ℚ) : Simulasyon :=
  let kalan := s.state aid - pay
  let s := { s with
    state := Function.update s.state aid (if kalan ≤ 0 then 0 else kalan)
    totalPaid := s.totalPaid + pay
    snapshotPaid := Function.update s.snapshotPaid aid (s.snapshotPaid aid + pay) }
  if kalan ≤ 0 then
    { s with
      snapshotEvents := if aid ∈ s.snapshotEvents then s.snapshotEvents else s.snapshotEvents ++ [aid]
      debtPayoffMonths :=
        if (s.debtPayoffMonths aid).isSome then s.debtPayoffMonths
        else Function.update s.debtPayoffMonths aid (some s.month) }
  else s

def asgariOde (debts : List DebtItem) (s : Simulasyon) (aid : ℕ) : Simulasyon :=
  match debtById debts aid with
  | none => s
  | some d =>
    if s.state aid ≤ kurusEsigi then s
    else
      let baseMin := d.baseMin (s.state aid)
      { s with lastBaseMin := Function.update s.lastBaseMin aid (some baseMin) }.ode aid
        (settlement kurusEsigi baseMin (s.state aid))

/-- Once a hundredth or less is at hand, the rest of the order is passed over. -/
def ekstraOde (s : Simulasyon) (aid : ℕ) : Simulasyon :=
  if s.availableExtra ≤ kurusEsigi then s
  else if s.state aid ≤ kurusEsigi then s
  else
    let pay := settlement kurusEsigi s.availableExtra (s.state aid)
    { s with availableExtra := s.availableExtra - pay }.ode aid pay

/-- What a debt frees when it is paid off: the minimum last asked of it. -/
def serbestKalan (debts : List DebtItem) (s : Simulasyon) (aid : ℕ) : ℚ :=
  (s.lastBaseMin aid).getD (((debtById debts aid).map DebtItem.minPayment).getD 0)

/-- The snapshot of a finished month, and the freed minimums for the months behind it. -/
def Simulasyon.ayKapat (debts : List DebtItem) (s : Simulasyon) : Simulasyon := { s with
  schedule := s.schedule ++ [⟨s.month, s.state, s.snapshotPaid, s.snapshotInterest, s.snapshotEvents⟩]
  extraMonthly := s.extraMonthly + (s.snapshotEvents.map (serbestKalan debts s)).sum }

def Simulasyon.ayAc (s : Simulasyon) : Simulasyon := { s with
  month := s.month + 1
  snapshotInterest := fun _ => 0
  snapshotPaid := fun _ => 0
  snapshotEvents := [] }

/-- The body of the month loop. -/
def ayIsle (debts : List DebtItem) (order : List ℕ) (s : Simulasyon) : Simulasyon :=
  let s := debts.foldl faizTahakkuk s.ayAc
  let s := order.foldl (asgariOde debts) { s with availableExtra := s.extraMonthly }
  (order.foldl ekstraOde s).ayKapat debts

def Simulasyon.borcVar (debts : List DebtItem) (s : Simulasyon) : Bool :=
  debts.any (fun d => kurusEsigi < s.state d.accountId)

/-- The month loop, with the months that are left of its limit. -/
def ayDongusu (debts : List DebtItem) (order : List ℕ) : ℕ → Simulasyon → Simulasyon
  | 0, s => s
  | kalan + 1, s => if s.borcVar debts then ayDongusu debts order kalan (ayIsle debts order s) else s

structure StrategyResult where
  strategy : String
  order : List ℕ
  monthsToFreedom : ℕ
  totalInterestPaid : ℚ
  totalPaid : ℚ
  payoffDate : Option Date
  schedule : List MonthSnapshot
  debtPayoffMonths : ℕ → Option ℕ

/-- `_simulate`; the order names debts of the list, and the reported sums are not rounded. -/
def simulate (debts : List DebtItem) (priorityOrder : List ℕ) (extraMonthly : ℚ) (today : Date) :
    StrategyResult :=
  if debts = [] then ⟨"", [], 0, 0, 0, none, [], fun _ => none⟩
  else
    let s := ayDongusu debts priorityOrder maxMonths (.baslangic debts extraMonthly)
    let payoff := if maxMonths ≤ s.month then none else addMonths today s.month
    ⟨"", priorityOrder, s.month, s.totalInterest, s.totalPaid, payoff, s.schedule, s.debtPayoffMonths⟩

def calcSnowball (debts : List DebtItem) (extraMonthly : ℚ) (today : Date) : StrategyResult :=
  let order := debts.insertionSort
    (fun d e => d.balance < e.balance ∨ d.balance = e.balance ∧ d.accountId ≤ e.accountId)
  { simulate debts (order.map DebtItem.accountId) extraMonthly today with strategy := "snowball" }

def calcAvalanche (debts : List DebtItem) (extraMonthly : ℚ) (today : Date) : StrategyResult :=
  let order := debts.insertionSort (fun d e => e.interestRateMonthly < d.interestRateMonthly ∨
    d.interestRateMonthly = e.interestRateMonthly ∧ d.accountId ≤ e.accountId)
  { simulate debts (order.map DebtItem.accountId) extraMonthly today with strategy := "avalanche" }

/-- A debt with its name, and whether its minimum rests on assumed figures. -/
structure AdliBorc extends DebtItem where
  name : String
  asgariVarsayimsal : Bool

/-- What one card costs on its minimum payments alone. -/
structure KartTuzagi where
  accountId : ℕ
  ad : String
  bakiye : ℚ
  aylikOran : ℚ
  ay : ℕ
  toplamFaiz : ℚ
  toplamOdeme : ℚ
  payoffTarih : Option Date
  aslaBitmez : Bool
  asgariVarsayimsal : Bool

structure AsgariTuzagi where
  kartlar : List KartTuzagi
  toplamFaiz : ℚ
  enYuksekFaiz : KartTuzagi

def kartTuzagi (c : AdliBorc) (today : Date) : KartTuzagi :=
  let r := simulate [c.toDebtItem] [c.accountId] 0 today
  { accountId := c.accountId
    ad := c.name
    bakiye := roundEven c.balance 2
    aylikOran := roundEven c.interestRateMonthly 2
    ay := r.monthsToFreedom
    toplamFaiz := roundEven r.totalInterestPaid 2
    toplamOdeme := roundEven r.totalPaid 2
    payoffTarih := r.payoffDate
    aslaBitmez := maxMonths ≤ r.monthsToFreedom
    asgariVarsayimsal := c.asgariVarsayimsal }

/-- The cards in the order of the interest they cost, the most expensive first. -/
def calculateMinPaymentTrap (debts : List AdliBorc) (today : Date) : Option AsgariTuzagi :=
  let cards := debts.filter (fun d => d.accountType = .creditCard ∧ 0 < d.balance)
  let kartlar := (cards.map (kartTuzagi · today)).insertionSort (fun k l => l.toplamFaiz ≤ k.toplamFaiz)
  kartlar.head?.map (fun ilk => ⟨kartlar, roundEven (kartlar.map KartTuzagi.toplamFaiz).sum 2, ilk⟩)

end FinancialOs.Rules
