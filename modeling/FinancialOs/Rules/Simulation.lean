import FinancialOs.Library.MonthDays
import FinancialOs.Store.Scope

/-! The scenario engine: a copy of the accounts, incomes and debts in memory, and its projection
over the days of a horizon. -/
namespace FinancialOs.Rules
open Library Store

structure AccountSnap where
  accountType : AccountType
  balance : ℚ
  isEmanet : Bool
  paymentDay : Option ℕ
  monthlyPayment : Option ℚ
  remainingInstallments : Option ℤ
  interestRate : Option ℚ
  nextPaymentDate : Option MonthDay
  lotCount : Option ℚ
  costPerLot : Option ℚ
  currentPrice : Option ℚ
  deriving DecidableEq

structure IncomeSnap where
  amount : ℚ
  dayOfMonth : ℕ
  isActive : Bool
  day_pos : 1 ≤ dayOfMonth

structure DebtSnap where
  direction : DebtDirection
  amount : ℚ
  dueDate : Option MonthDay
  paidDate : Option MonthDay
  deriving DecidableEq

structure WorldSnap where
  asOf : MonthDay
  accounts : Table AccountSnap
  incomes : List IncomeSnap
  debts : Table DebtSnap

/-- The balances of the accounts of a kind. -/
def WorldSnap.toplam (w : WorldSnap) (tur : AccountSnap → Bool) : ℚ :=
  w.accounts.total fun a => if tur a then a.balance else 0

def WorldSnap.cashTotal (w : WorldSnap) : ℚ := w.toplam fun a => a.accountType = .cash

def WorldSnap.cardDebtTotal (w : WorldSnap) : ℚ := w.toplam fun a => a.accountType = .creditCard

def WorldSnap.loanDebtTotal (w : WorldSnap) : ℚ := w.toplam fun a => a.accountType = .loan

/-- Without the investments in custody. -/
def WorldSnap.investmentValue (w : WorldSnap) : ℚ :=
  w.toplam fun a => a.accountType = .investment ∧ a.isEmanet = false

def WorldSnap.netWorth (w : WorldSnap) : ℚ :=
  w.cashTotal + w.investmentValue - w.cardDebtTotal - w.loanDebtTotal

/-- `_find_default_cash_account`: the first by id. -/
def WorldSnap.defaultCash (w : WorldSnap) : Option ℕ :=
  (w.accounts.first? (fun a => a.accountType = .cash ∧ a.isEmanet = false)).map Prod.fst

/-- A movement on the default cash account, if there is one. -/
def WorldSnap.nakitEkle (w : WorldSnap) (x : ℚ) : WorldSnap :=
  match w.defaultCash with
  | some k => { w with accounts := w.accounts.modify k (fun a => { a with balance := a.balance + x }) }
  | none => w

def WorldSnap.hesapGuncelle (w : WorldSnap) (k : ℕ) (f : AccountSnap → AccountSnap) : WorldSnap :=
  { w with accounts := w.accounts.modify k f }

/-- `_next_payment_in_window`: the half-open window behind the start. -/
def nextPaymentInWindow (nextPay : Option MonthDay) (start stop : MonthDay) : List MonthDay :=
  match nextPay with
  | none => []
  | some nextPay => MonthDay.monthlyDates start stop (stop.month + 1 - nextPay.month) nextPay

/-- The days of an income in the window, from the month of the cursor on. -/
def gelirDongusu (inc : IncomeSnap) (start stop : MonthDay) : ℕ → MonthDay → List MonthDay
  | 0, _ => []
  | fuel + 1, cursor =>
    if cursor ≤ stop then
      let payDate := MonthDay.clamp cursor.month inc.dayOfMonth inc.day_pos
      (if start < payDate ∧ payDate ≤ stop then [payDate] else []) ++
        gelirDongusu inc start stop fuel (.firstOf (cursor.month + 1))
    else []

def gelirGunleri (inc : IncomeSnap) (start stop : MonthDay) : List MonthDay :=
  gelirDongusu inc start stop (stop.month + 1 - start.month) start

def gelirIsle (start stop : MonthDay) (w : WorldSnap) (inc : IncomeSnap) : WorldSnap :=
  if inc.isActive then (gelirGunleri inc start stop).foldl (fun w _ => w.nakitEkle inc.amount) w else w

/-- A loan behind an instalment: it covers the interest first. -/
def taksitSonrasi (monthlyPayment : ℚ) (a : AccountSnap) : AccountSnap :=
  let interest := a.balance * (a.interestRate.getD 0 / 100)
  { a with
    balance := max 0 (a.balance + interest - monthlyPayment)
    remainingInstallments := a.remainingInstallments.map (fun n => if n = 0 then n else max 0 (n - 1)) }

def krediTaksiti (k : ℕ) (w : WorldSnap) : WorldSnap :=
  match w.accounts.get? k with
  | none => w
  | some a =>
    match a.monthlyPayment with
    | none => w
    | some monthlyPayment =>
      if monthlyPayment = 0 then w
      else (w.nakitEkle (-monthlyPayment)).hesapGuncelle k (taksitSonrasi monthlyPayment)

def krediIsle (start stop : MonthDay) (w : WorldSnap) (k : ℕ) : WorldSnap :=
  match w.accounts.get? k with
  | none => w
  | some a =>
    if a.accountType = .loan then
      (nextPaymentInWindow a.nextPaymentDate start stop).foldl (fun w _ => krediTaksiti k w) w
    else w

def bosEsigi : ℚ := 1 / 100

/-- A card with the interest of a month on it. -/
def faizliKart (a : AccountSnap) : AccountSnap :=
  { a with balance := a.balance + a.balance * (a.interestRate.getD 0 / 100) }

def kartAsgarisi (balance : ℚ) : ℚ := min (max (balance * (1 / 4)) 50) balance

/-- The interest and the minimum payment of a card; an empty card ends the loop. -/
def kartAsgari (k : ℕ) (w : WorldSnap) : WorldSnap :=
  match w.accounts.get? k with
  | none => w
  | some a =>
    if a.balance ≤ bosEsigi then w
    else
      let w := w.hesapGuncelle k faizliKart
      let minPay := kartAsgarisi (faizliKart a).balance
      (w.nakitEkle (-minPay)).hesapGuncelle k (fun a => { a with balance := max 0 (a.balance - minPay) })

/-- The first payment date looked at: that of the month the projection starts in. -/
def kartBasi (paymentDay : Option ℕ) (start : MonthDay) : Option MonthDay :=
  paymentDay.bind (fun day => if h : 1 ≤ day then some (.clamp start.month day h) else none)

def kartIsle (start stop : MonthDay) (w : WorldSnap) (k : ℕ) : WorldSnap :=
  match w.accounts.get? k with
  | none => w
  | some a =>
    if a.accountType ≠ .creditCard ∨ a.balance ≤ bosEsigi then w
    else (nextPaymentInWindow (kartBasi a.paymentDay start) start stop).foldl (fun w _ => kartAsgari k w) w

/-- A debt falls due in the window. -/
def vadesiGelir (start stop : MonthDay) (d : DebtSnap) : Bool :=
  d.paidDate.isNone && d.dueDate.any (fun due => start < due ∧ due ≤ stop)

def borcIsle (start stop : MonthDay) (w : WorldSnap) (i : ℕ) : WorldSnap :=
  match w.debts.get? i with
  | none => w
  | some d =>
    if vadesiGelir start stop d then
      let w := w.nakitEkle (if d.direction = .receivable then d.amount else -d.amount)
      { w with debts := w.debts.modify i (fun d => { d with paidDate := d.dueDate }) }
    else w

/-- `_project_forward`, apart from its event log. -/
def projectForward (w : WorldSnap) (days : ℕ) : WorldSnap :=
  let start := w.asOf
  let stop := w.asOf.addDays days
  let w := w.incomes.foldl (gelirIsle start stop) w
  let w := (w.accounts.rows.map Prod.fst).foldl (krediIsle start stop) w
  let w := (w.accounts.rows.map Prod.fst).foldl (kartIsle start stop) w
  let w := (w.debts.rows.map Prod.fst).foldl (borcIsle start stop) w
  { w with asOf := stop }

end FinancialOs.Rules
