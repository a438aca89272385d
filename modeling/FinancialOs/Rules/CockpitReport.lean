import FinancialOs.Rules.CategoryPatterns

/-! The cockpit of a member in a workspace: the figures, the spending of today and of the last days, the
patterns and the latest transactions; and the two figures that are shown before and after an approval. -/
namespace FinancialOs.Rules
open Library Store

/-- The expenses of the scope in the window of that many days that ends today. -/
def giderToplami (p : PanelDb) (userId : ℕ) (workspaceId : Option ℕ) (today : MonthDay) (days : ℕ) : ℚ :=
  (((kapsamSatirlari p.db.transactions userId workspaceId).filter fun t =>
    t.2.transactionType = .expense ∧ sonGunlerde today days t.2.transactionDate.monthDay).map fun t =>
      t.2.amount).sum

/-- The instalments of the loans that still have some. -/
def aylikTaksitler (p : PanelDb) (userId : ℕ) (workspaceId : Option ℕ) : ℚ :=
  (((turHesaplari p.db userId workspaceId .loan).filter fun a =>
    (p.hesapEki a.1).remainingInstallments.any fun n => 0 < n).map fun a =>
      (p.hesapEki a.1).monthlyPayment.getD 0).sum

/-- `_calculate_cash_runway`: the days the cash lasts without any income. -/
def calculateCashRunway (p : PanelDb) (userId : ℕ) (workspaceId : Option ℕ) (today : MonthDay) (nakit : ℚ) :
    Option ℤ :=
  let dailyBurn := giderToplami p userId workspaceId today 31 / 30 + aylikTaksitler p userId workspaceId / 30
  if nakit ≤ 0 then some 0
  else if dailyBurn ≤ 0 then none
  else some ⌊nakit / dailyBurn⌋

structure SonIslem where
  tarih : Date
  tip : TransactionType
  tutar : ℚ
  kategori : String
  aciklama : String
  deriving DecidableEq

/-- The later date first, and on one date the newer row. -/
def sonOnce (a b : ℕ × Transaction) : Bool :=
  b.2.transactionDate.monthDay < a.2.transactionDate.monthDay ∨
    b.2.transactionDate.monthDay = a.2.transactionDate.monthDay ∧ b.1 ≤ a.1

/-- `_collect_recent_transactions`. -/
def collectRecentTransactions (p : PanelDb) (userId : ℕ) (workspaceId : Option ℕ) : List SonIslem :=
  (((kapsamSatirlari p.db.transactions userId workspaceId).mergeSort sonOnce).take 8).map fun t => {
    tarih := t.2.transactionDate
    tip := t.2.transactionType
    tutar := roundEven t.2.amount 2
    kategori := if t.2.category.getD "" = "" then "(kategorisiz)" else t.2.category.getD ""
    aciklama := t.2.description.getD "" }

structure Kokpit where
  rakamlar : KokpitRakamlari
  bugunHarcanan : ℚ
  bugunKalan : ℚ
  nakitRunwayGun : Option ℤ
  categoryPatterns : List CategoryPattern
  sonIslemler : List SonIslem
  deriving DecidableEq

/-- `generate_cockpit` inside `workspace_scope`; the default buffer of a debt payment and the anomaly
threshold are settings. -/
def generateCockpit (safeDebtBuffer anomalyThreshold : ℚ) (c : KokpitDb) (userId : ℕ) (workspaceId : Option ℕ)
    (today : Date) : Except PyError Kokpit := do
  let rakamlar ← kokpitRakamlari safeDebtBuffer c.panel userId workspaceId today
  let bugunHarcanan := roundEven (giderToplami c.panel userId workspaceId today.monthDay 1) 2
  let patterns ← calculateCategoryPatterns anomalyThreshold c userId today.monthDay
  return {
    rakamlar := rakamlar
    bugunHarcanan := bugunHarcanan
    bugunKalan := roundEven (rakamlar.dailyLimit - bugunHarcanan) 2
    nakitRunwayGun := calculateCashRunway c.panel userId workspaceId today.monthDay
      (nakitToplami c.panel.db userId workspaceId)
    categoryPatterns := patterns
    sonIslemler := collectRecentTransactions c.panel userId workspaceId }

/-- The sums of the loop over the accounts. -/
structure HesapToplamlari where
  nakit : ℚ
  kart : ℚ
  kredi : ℚ
  yatirim : ℚ

def HesapToplamlari.ekle (t : HesapToplamlari) (acc : Account) : HesapToplamlari :=
  match acc.accountType with
  | .cash => { t with nakit := t.nakit + acc.balance }
  | .creditCard => { t with kart := t.kart + acc.balance }
  | .loan => { t with kredi := t.kredi + acc.balance }
  | .investment =>
    if acc.isEmanet then t else { t with yatirim := t.yatirim + acc.lotCount.getD 0 * acc.currentPrice.getD 0 }

structure BakiyeOzeti where
  nakitKasa : ℚ
  netDeger : ℚ
  deriving DecidableEq

/-- `hizli_bakiye_ozeti`. -/
def hizliBakiyeOzeti (db : Db) (userId : ℕ) (workspaceId : Option ℕ) : BakiyeOzeti :=
  let t := ((kapsamSatirlari db.accounts userId workspaceId).map Prod.snd).foldl HesapToplamlari.ekle ⟨0, 0, 0, 0⟩
  ⟨roundEven t.nakit 2, roundEven (netWorthSeen t.nakit t.yatirim t.kart t.kredi) 2⟩

end FinancialOs.Rules
