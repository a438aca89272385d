import FinancialOs.Routers.Cockpit
import FinancialOs.Rules.AccountRules
import FinancialOs.Rules.CockpitReport

/-! The net worth of a day as the backfill computes it: that of today from the cockpit, that of a past day from the
balances with the later transactions undone, the price of the day and the receivables that were open. -/
namespace FinancialOs.Rules
open Library Store Routers

/-- The transactions of an account after a day. -/
def sonrakiler (db : Db) (accountId : ℕ) (targetDate : Date) : List (ℕ × Transaction) :=
  db.transactions.select fun t => t.accountId = some accountId ∧ targetDate.monthDay < t.transactionDate.monthDay

/-- `_balance_at`. -/
def balanceAt (db : Db) (account : ℕ × Account) (targetDate : Date) : ℚ :=
  (sonrakiler db account.1 targetDate).foldl
    (fun bal t => bal - balanceDelta account.2.accountType t.2.transactionType t.2.amount) account.2.balance

inductive PriceSource where
  | tefas | manual | yfinance | isyatirim | evds
  deriving DecidableEq

/-- `source_order`. -/
def PriceSource.sira : PriceSource → ℕ
  | .manual => 1
  | .tefas => 2
  | .yfinance => 3
  | .isyatirim => 4
  | .evds => 99

structure PriceHistory where
  fundCode : String
  priceDate : Date
  source : PriceSource
  closePrice : ℚ
  deriving DecidableEq

/-- What the backfill reads beside the rows of the panel. -/
structure GecmisDb where
  kokpit : KokpitDb
  fiyatlar : List PriceHistory
  /-- The day of `created_at`. -/
  acilis : ℕ → Option Date

/-- The later price first, and of one day the better source. -/
def dahaYeni (a b : PriceHistory) : Bool :=
  b.priceDate.monthDay < a.priceDate.monthDay ∨ b.priceDate = a.priceDate ∧ a.source.sira ≤ b.source.sira

/-- `_get_price_at`. -/
def getPriceAt (fiyatlar : List PriceHistory) (fundCode : Option String) (targetDate : Date) : Option ℚ :=
  match fundCode.filter (· ≠ "") with
  | none => none
  | some kod => (((fiyatlar.filter fun f => f.fundCode = kod ∧ f.priceDate.monthDay ≤ targetDate.monthDay).mergeSort
      dahaYeni).head?).map PriceHistory.closePrice

/-- `_investment_value_at`. -/
def investmentValueAt (k : GecmisDb) (account : ℕ × Account) (targetDate : Date) : ℚ :=
  let lot := account.2.lotCount.getD 0
  if (k.acilis account.1).any fun d => targetDate.monthDay < d.monthDay then 0
  else if lot = 0 then 0
  else match getPriceAt k.fiyatlar (k.kokpit.panel.hesapEki account.1).fundCode targetDate with
    | none => lot * account.2.costPerLot.getD 0
    | some price => lot * price

/-- `_receivables_at`. -/
def receivablesAt (db : Db) (userId : ℕ) (targetDate : Date) : ℚ :=
  ((db.debts.select fun r => r.userId = userId ∧ r.direction = .receivable ∧
    (r.isPaid = false ∨ r.paidDate.any fun d => targetDate.monthDay < d.monthDay)).map fun r => r.2.amount).sum

/-- The accounts of a type of a user, in every workspace. -/
def kullaniciHesaplari (db : Db) (userId : ℕ) (tip : AccountType) : List (ℕ × Account) :=
  db.accounts.select fun a => a.userId = userId ∧ a.accountType = tip

/-- The sums of a past day. -/
structure GecmisToplamlari where
  cash : ℚ
  cardDebt : ℚ
  loanDebt : ℚ
  investmentValue : ℚ
  receivables : ℚ

def gecmisToplamlari (k : GecmisDb) (userId : ℕ) (targetDate : Date) : GecmisToplamlari :=
  let db := k.kokpit.panel.db
  let bakiyeler (tip : AccountType) := ((kullaniciHesaplari db userId tip).map fun a => balanceAt db a targetDate).sum
  { cash := bakiyeler .cash
    cardDebt := bakiyeler .creditCard
    loanDebt := bakiyeler .loan
    investmentValue := (((kullaniciHesaplari db userId .investment).filter fun a => a.2.isEmanet = false).map fun a =>
      investmentValueAt k a targetDate).sum
    receivables := receivablesAt db userId targetDate }

/-- The snapshot of a past day. -/
def GecmisToplamlari.degerler (t : GecmisToplamlari) : SnapshotDegerleri :=
  let seen := roundEven (netWorthSeen t.cash t.investmentValue t.cardDebt t.loanDebt) 2
  { netWorthSeen := seen
    netWorthFull := roundEven (netWorthFull seen t.receivables 0) 2
    cash := roundEven t.cash 2
    cardDebt := roundEven t.cardDebt 2
    loanDebt := roundEven t.loanDebt 2
    investmentValue := roundEven t.investmentValue 2
    receivables := roundEven t.receivables 2 }

/-- The snapshot of today: the receivables are what the full net worth exceeds the seen one by. -/
def bugunDegerleri (r : KokpitRakamlari) : SnapshotDegerleri where
  netWorthSeen := r.netDeger
  netWorthFull := r.netDegerTam
  cash := r.nakitKasa
  cardDebt := r.kartBorcu
  loanDebt := r.krediBorcu
  investmentValue := r.yatirimDeger
  receivables := max 0 (r.netDegerTam - r.netDeger)

/-- `snapshot_for`, with the user's own day. -/
def snapshotFor (safeDebtBuffer anomalyThreshold : ℚ) (k : GecmisDb) (userId : ℕ) (today targetDate : Date) :
    Except PyError SnapshotDegerleri :=
  if today.monthDay ≤ targetDate.monthDay then do
    let kokpit ← generateCockpit safeDebtBuffer anomalyThreshold k.kokpit userId none today
    return bugunDegerleri kokpit.rakamlar
  else .ok (gecmisToplamlari k userId targetDate).degerler

/-- The part of the cockpit that the daily snapshot keeps. -/
def kokpitOzeti (p : PanelDb) (userId : ℕ) (workspaceId : Option ℕ) (r : KokpitRakamlari) : KokpitOzeti where
  netDeger := r.netDeger
  netDegerTam := r.netDegerTam
  nakitKasa := r.nakitKasa
  kartBorcu := r.kartBorcu
  krediBorcu := r.krediBorcu
  yatirimDeger := r.yatirimDeger
  alacaklarToplami := roundEven (odenmemisTutarlar p userId workspaceId .receivable).sum 2

structure DegisimSurucusu where
  ad : String
  katki : ℚ
  deriving DecidableEq

structure Ayristirma where
  baslangicTarih : Date
  baslangicNet : ℚ
  guncelNet : ℚ
  degisim : ℚ
  suruculer : List DegisimSurucusu
  deriving DecidableEq

/-- The change between two snapshots and its drivers, the strongest first. -/
def ayristir (ref latest : NetWorthSnapshot) : Ayristirma where
  baslangicTarih := ref.snapshotDate
  baslangicNet := roundEven ref.degerler.netWorthFull 2
  guncelNet := roundEven latest.degerler.netWorthFull 2
  degisim := roundEven (latest.degerler.netWorthFull - ref.degerler.netWorthFull) 2
  suruculer := [
    ⟨"Nakit", roundEven (latest.degerler.cash - ref.degerler.cash) 2⟩,
    ⟨"Kart borcu ödeme", roundEven (ref.degerler.cardDebt - latest.degerler.cardDebt) 2⟩,
    ⟨"Kredi ödeme", roundEven (ref.degerler.loanDebt - latest.degerler.loanDebt) 2⟩,
    ⟨"Yatırım", roundEven (latest.degerler.investmentValue - ref.degerler.investmentValue) 2⟩,
    ⟨"Alacak", roundEven (latest.degerler.receivables - ref.degerler.receivables) 2⟩].mergeSort
      fun a b => |b.katki| ≤ |a.katki|

/-- The rows of a scope, the latest day first. -/
def snapshotlar (t : Table NetWorthSnapshot) (userId : ℕ) (workspaceId : Option ℕ) : List (ℕ × NetWorthSnapshot) :=
  (t.select fun a => match workspaceId with
    | some ws => decide (a.workspaceId = some ws)
    | none => decide (a.userId = userId)).mergeSort fun a b => b.2.snapshotDate.monthDay ≤ a.2.snapshotDate.monthDay

/-- `calculate_networth_attribution`: this month's change needs a snapshot from before it. -/
def calculateNetworthAttribution (t : Table NetWorthSnapshot) (userId : ℕ) (workspaceId : Option ℕ) (today : Date) :
    Option Ayristirma :=
  match snapshotlar t userId workspaceId with
  | [] => none
  | latest :: rest =>
    match (latest :: rest).find? fun a => a.2.snapshotDate.monthDay ≤ MonthDay.firstOf today.monthDay.month with
    | none => none
    | some ref => if ref.1 = latest.1 then none else some (ayristir ref.2 latest.2)

end FinancialOs.Rules
