import FinancialOs.Rules.CockpitFigures
import FinancialOs.Rules.QuickEntry

/-! The categories of a user and the spending patterns of the last two windows of thirty days. -/
namespace FinancialOs.Rules
open Library Store

structure Category where
  userId : ℕ
  workspaceId : Option ℕ
  slug : String
  ad : String
  kartVarsayilani : Bool
  sistem : Bool
  gizli : Bool
  deriving DecidableEq

instance : Scoped Category := ⟨Category.userId, Category.workspaceId⟩

/-- What the panel reads, and the categories. -/
structure KokpitDb where
  panel : PanelDb
  categories : Table Category

/-- An entry of the map from a slug to its category. -/
structure KategoriKaydi where
  ad : String
  kartVarsayilani : Bool
  sistem : Bool
  gizli : Bool
  deriving DecidableEq

/-- The map of a user without a category of their own. -/
def varsayilanHarita : List (String × KategoriKaydi) := [
  ("yemek", ⟨"Yemek", true, false, false⟩), ("eglence", ⟨"Eğlence", true, false, false⟩),
  ("sigara", ⟨"Sigara", true, false, false⟩), ("alisveris", ⟨"Alışveriş", true, false, false⟩),
  ("market", ⟨"Market", true, false, false⟩), ("ulasim", ⟨"Ulaşım", false, false, false⟩),
  ("fatura", ⟨"Fatura", false, false, false⟩), ("saglik", ⟨"Sağlık", false, false, false⟩),
  ("kira", ⟨"Kira", false, false, false⟩), ("abonelik", ⟨"Abonelik", false, false, false⟩),
  ("sigorta", ⟨"Sigorta", false, false, false⟩), ("internet", ⟨"İnternet", false, false, false⟩),
  ("telefon", ⟨"Telefon", false, false, false⟩), ("diger", ⟨"Diğer", false, false, false⟩),
  ("transfer", ⟨"Transfer", false, true, false⟩), ("borc_odeme", ⟨"Borç ödeme", false, true, false⟩),
  ("borc_geri_odeme", ⟨"Borç geri ödeme", false, true, false⟩),
  ("kredi_taksiti", ⟨"Kredi taksiti", false, true, false⟩), ("borc", ⟨"Borç", false, true, false⟩),
  ("kredi", ⟨"Kredi", false, true, false⟩), ("loan_payment", ⟨"Kredi ödemesi", false, true, false⟩),
  ("debt_payment", ⟨"Borç ödemesi", false, true, false⟩)]

/-- `kategori_haritasi`: of two rows with one slug the later one counts. -/
def kategoriHaritasi (t : Table Category) (userId : ℕ) (workspaceId : Option ℕ) : List (String × KategoriKaydi) :=
  let rows := t.select (scopeFilter userId workspaceId)
  if rows = [] then varsayilanHarita
  else rows.foldl (fun harita c => harita.filter (fun k => k.1 ≠ c.2.slug) ++
    [(c.2.slug, ⟨c.2.ad, c.2.kartVarsayilani, c.2.sistem, c.2.gizli⟩)]) []

def sistemSlugKumesi (t : Table Category) (userId : ℕ) (workspaceId : Option ℕ) : List String :=
  ((kategoriHaritasi t userId workspaceId).filter fun k => k.2.sistem).map Prod.fst

/-- The date is in the window of that many days that ends today. -/
def sonGunlerde (today : MonthDay) (days : ℕ) (d : MonthDay) : Bool := today ≤ d.addDays (days - 1) ∧ d ≤ today

/-- What the raw query of `_calculate_category_patterns` finds: the user's own expenses of the two
windows, in whatever workspace they are. -/
def desenSatirlari (t : Table Transaction) (userId : ℕ) (today : MonthDay) : List Transaction :=
  (t.select fun x => x.userId = userId ∧ x.transactionType = .expense ∧
    sonGunlerde today 60 x.transactionDate.monthDay).map Prod.snd

structure DesenGrubu where
  category : Option String
  prev30d : ℚ
  curr30d : ℚ
  currCount : ℕ

/-- The row of a group. -/
def desenGrubu (rows : List Transaction) (today : MonthDay) (category : Option String) : DesenGrubu :=
  let grup := rows.filter fun x => x.category = category
  let curr := grup.filter fun x => sonGunlerde today 30 x.transactionDate.monthDay
  let prev := grup.filter fun x => !sonGunlerde today 30 x.transactionDate.monthDay
  ⟨category, (prev.map Transaction.amount).sum, (curr.map Transaction.amount).sum, curr.length⟩

structure CategoryPattern where
  category : String
  prev30d : ℚ
  curr30d : ℚ
  changePct : Option ℚ
  anomalyFlag : Bool
  deriving DecidableEq

def patternMinTransactions : ℕ := 3

def desen (anomalyThreshold : ℚ) (g : DesenGrubu) : CategoryPattern where
  category := if g.category.getD "" = "" then "diger" else g.category.getD ""
  prev30d := roundEven g.prev30d 2
  curr30d := roundEven g.curr30d 2
  changePct := if 0 < g.prev30d then some (roundEven ((g.curr30d - g.prev30d) / g.prev30d * 100) 1) else none
  anomalyFlag := if 0 < g.prev30d then g.prev30d * anomalyThreshold < g.curr30d else 0 < g.curr30d

/-- The groups that are large enough, by what was spent lately. -/
def desenGruplari (rows : List Transaction) (today : MonthDay) : List DesenGrubu :=
  (((rows.map Transaction.category).dedup.map (desenGrubu rows today)).filter fun g =>
    patternMinTransactions ≤ g.currCount).mergeSort fun a b => b.curr30d ≤ a.curr30d

/-- There is no day before the year 1. -/
def ilkGun : MonthDay := .firstOf 12

/-- `_calculate_category_patterns`: neither the transactions nor the system categories are those of the
active workspace. -/
def calculateCategoryPatterns (anomalyThreshold : ℚ) (c : KokpitDb) (userId : ℕ) (today : MonthDay) :
    Except PyError (List CategoryPattern) :=
  let sistem := sistemSlugKumesi c.categories userId none
  if today < ilkGun.addDays 59 then .error .overflowError
  else .ok (((desenGruplari (desenSatirlari c.panel.db.transactions userId today) today).filter fun g =>
    !g.category.any fun s => trNormalize s ∈ sistem).map (desen anomalyThreshold))

end FinancialOs.Rules
