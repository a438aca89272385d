import FinancialOs.Rules.CashCalendar

/-! The cash flow forecast: the dated movements of a horizon, laid on the days from today. -/
namespace FinancialOs.Rules
open Library Store

inductive OlayKaynagi where
  | income | recurringExpense | loanPayment | receivable | payable
  deriving DecidableEq

/-- An inflow has a positive amount, an outflow a negative one. -/
structure ForecastEvent where
  date : MonthDay
  amount : ℚ
  label : String
  sourceType : OlayKaynagi
  sourceId : ℕ
  deriving DecidableEq

structure ForecastDay where
  date : MonthDay
  openingBalance : ℚ
  closingBalance : ℚ
  inflows : ℚ
  outflows : ℚ
  events : List ForecastEvent
  crunch : Bool
  deriving DecidableEq

/-- The days `start ≤ d < stop` of a forecast. -/
structure Ufuk where
  start : MonthDay
  stop : MonthDay

def Ufuk.icinde (u : Ufuk) (d : MonthDay) : Bool := u.start ≤ d ∧ d < u.stop

/-- `_month_occurrences`: one candidate a month, up to the month the horizon ends in. -/
def monthOccurrences (u : Ufuk) (dayOfMonth : ℕ) : List MonthDay :=
  ((List.range' u.start.month (u.stop.month + 1 - u.start.month)).map fun ay => vadeGunu ay dayOfMonth).filter
    u.icinde

def expandRecurringIncome (u : Ufuk) (r : ℕ × Recurring) : List ForecastEvent :=
  (monthOccurrences u r.2.dayOfMonth).map fun d => ⟨d, r.2.amount, r.2.name, .income, r.1⟩

def expandRecurringExpense (u : Ufuk) (r : ℕ × Recurring) : List ForecastEvent :=
  (monthOccurrences u r.2.dayOfMonth).map fun d => ⟨d, -r.2.amount, r.2.name, .recurringExpense, r.1⟩

/-- The instalments from a day on: the day of the first one is the anchor, and an unknown number of
instalments does not run out. -/
def taksitDongusu (a : ℕ × Account) (taksit : ℚ) (anchorDay : ℕ) (stop : MonthDay) :
    ℕ → Option ℕ → MonthDay → List ForecastEvent
  | 0, _, _ => []
  | fuel + 1, kalan, current =>
    if current < stop ∧ kalan ≠ some 0 then
      ⟨current, -taksit, a.2.name ++ " taksiti", .loanPayment, a.1⟩ ::
        taksitDongusu a taksit anchorDay stop fuel (kalan.map (· - 1)) (vadeGunu (current.month + 1) anchorDay)
    else []

/-- `_expand_loan_payments`; an instalment that is overdue counts as due today. -/
def expandLoanPayments (u : Ufuk) (ek : ℕ → HesapEki) (a : ℕ × Account) : List ForecastEvent :=
  match (ek a.1).nextPaymentDate with
  | none => []
  | some ilk =>
    let taksit := (ek a.1).monthlyPayment.getD 0
    let current := max ilk.monthDay u.start
    if taksit = 0 then []
    else taksitDongusu a taksit current.day u.stop (u.stop.month + 1 - current.month)
      ((ek a.1).remainingInstallments.map Int.toNat) current

/-- `_personal_debts_in_range`, of one debt. -/
def borcOlayi (u : Ufuk) (direction : DebtDirection) (d : ℕ × PersonalDebt) : List ForecastEvent :=
  match d.2.dueDate with
  | none => []
  | some dueDate =>
    let label := d.2.counterparty ++
      if d.2.description.getD "" ≠ "" then " — " ++ d.2.description.getD "" else ""
    if d.2.direction = direction ∧ d.2.isPaid = false ∧ u.icinde dueDate.monthDay then
      [⟨dueDate.monthDay, if direction = .receivable then d.2.amount else -d.2.amount, label,
        if direction = .receivable then .receivable else .payable, d.1⟩]
    else []

/-- The chips of the request. -/
structure Dahil where
  incomes : Bool
  expenses : Bool
  receivables : Bool
  payables : Bool

def Dahil.hepsi : Dahil := ⟨true, true, true, true⟩

def allEvents (p : PanelDb) (userId : ℕ) (workspaceId : Option ℕ) (u : Ufuk) (accountId : Option ℕ)
    (dahil : Dahil) : List ForecastEvent :=
  let giderler := (etkinKayitlar p.db.expenses userId workspaceId).filter fun r =>
    accountId.all fun id => r.2.accountId = some id
  (if dahil.incomes then (etkinKayitlar p.db.incomes userId workspaceId).flatMap (expandRecurringIncome u)
    else []) ++
  (if dahil.expenses then giderler.flatMap (expandRecurringExpense u) ++
    (turHesaplari p.db userId workspaceId .loan).flatMap (expandLoanPayments u p.hesapEki) else []) ++
  (if dahil.receivables then (kapsamSatirlari p.db.debts userId workspaceId).flatMap (borcOlayi u .receivable)
    else []) ++
  (if dahil.payables then (kapsamSatirlari p.db.debts userId workspaceId).flatMap (borcOlayi u .payable)
    else [])

/-- The events of a day, the largest first. -/
def gununOlaylari (events : List ForecastEvent) (d : MonthDay) : List ForecastEvent :=
  (events.filter fun e => e.date = d).mergeSort fun a b => |b.amount| ≤ |a.amount|

def girisler (events : List ForecastEvent) : ℚ := ((events.filter fun e => 0 ≤ e.amount).map ForecastEvent.amount).sum

def cikislar (events : List ForecastEvent) : ℚ :=
  ((events.filter fun e => ¬ 0 ≤ e.amount).map ForecastEvent.amount).sum

/-- The chain of days, each opening with the balance the one before it closed with. -/
def gunZinciri (events : List ForecastEvent) (crunchThreshold : ℚ) : ℕ → MonthDay → ℚ → List ForecastDay
  | 0, _, _ => []
  | n + 1, d, balance =>
    let olaylar := gununOlaylari events d
    let kapanis := balance + girisler olaylar + cikislar olaylar
    { date := d
      openingBalance := roundEven balance 2
      closingBalance := roundEven kapanis 2
      inflows := roundEven (girisler olaylar) 2
      outflows := roundEven (cikislar olaylar) 2
      events := olaylar
      crunch := kapanis < crunchThreshold } :: gunZinciri events crunchThreshold n d.succ kapanis

/-- The lowest balance a day closes with, and its first day; the opening balance counts for today. -/
def enDusuk (events : List ForecastEvent) : ℕ → MonthDay → ℚ → ℚ × MonthDay → ℚ × MonthDay
  | 0, _, _, lowest => lowest
  | n + 1, d, balance, lowest =>
    let olaylar := gununOlaylari events d
    let kapanis := balance + girisler olaylar + cikislar olaylar
    enDusuk events n d.succ kapanis (if kapanis < lowest.1 then (kapanis, d) else lowest)

structure ForecastSummary where
  lowestBalance : ℚ
  lowestDate : MonthDay
  totalReceivable : ℚ
  totalPayable : ℚ
  netFlow : ℚ
  crunchDates : List MonthDay
  openingBalance : ℚ
  kalanKartLimiti : Option ℚ
  deriving DecidableEq

structure Forecast where
  horizonDays : ℕ
  startDate : MonthDay
  days : List ForecastDay
  summary : ForecastSummary
  deriving DecidableEq

/-- `_kalan_kart_limiti`: nothing where no card has a limit. -/
def kalanKartLimiti (p : PanelDb) (userId : ℕ) (workspaceId : Option ℕ) : Option ℚ :=
  let limitli := (turHesaplari p.db userId workspaceId .creditCard).filter fun k => 0 < k.2.creditLimit.getD 0
  if limitli = [] then none
  else some (roundEven (limitli.map fun k => max 0 (k.2.creditLimit.getD 0 - k.2.balance)).sum 2)

/-- The cash a forecast opens with: that of the scope, or of one account. -/
def acilisBakiyesi (p : PanelDb) (userId : ℕ) (workspaceId accountId : Option ℕ) : ℚ :=
  (((turHesaplari p.db userId workspaceId .cash).filter fun a => accountId.all fun id => a.1 = id).map
    fun a => a.2.balance).sum

/-- `generate_forecast`, apart from the flow diagram it draws from the events. -/
def generateForecast (p : PanelDb) (userId : ℕ) (workspaceId : Option ℕ) (horizonDays : ℕ) (accountId : Option ℕ)
    (dahil : Dahil) (crunchThreshold : ℚ) (today : Date) : Forecast :=
  let start := today.monthDay
  let events := allEvents p userId workspaceId ⟨start, start.addDays horizonDays⟩ accountId dahil
  let openingBalance := acilisBakiyesi p userId workspaceId accountId
  let days := gunZinciri events crunchThreshold horizonDays start openingBalance
  let lowest := enDusuk events horizonDays start openingBalance (openingBalance, start)
  let totalReceivable := ((events.filter fun e => 0 < e.amount).map ForecastEvent.amount).sum
  let totalPayable := ((events.filter fun e => e.amount < 0).map ForecastEvent.amount).sum
  { horizonDays := horizonDays
    startDate := start
    days := days
    summary := {
      lowestBalance := roundEven lowest.1 2
      lowestDate := lowest.2
      totalReceivable := roundEven totalReceivable 2
      totalPayable := roundEven totalPayable 2
      netFlow := roundEven (totalReceivable + totalPayable) 2
      crunchDates := (days.filter fun d => d.crunch).map ForecastDay.date
      openingBalance := roundEven openingBalance 2
      kalanKartLimiti := if accountId.isNone then kalanKartLimiti p userId workspaceId else none } }

end FinancialOs.Rules
