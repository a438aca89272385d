import FinancialOs.Rules.CategoryPatterns
import FinancialOs.Rules.DebtStrategy
import FinancialOs.Rules.NextStep
import FinancialOs.Rules.PromptSafety

/-! What the cockpit finds when it goes through the transactions, the debts and the prices: subscriptions, categories
that run over, the trap of minimum payments and prices that are out of date. Instants count microseconds of UTC. -/
namespace FinancialOs.Rules
open Library Store

/-- The columns of an account that only the debts and the prices read. -/
structure HesapOrani where
  interestRate : Option ℚ
  minPaymentRatio : Option ℚ
  earlyPayoffAmount : Option ℚ
  lastPriceUpdate : Option ℤ
  deriving DecidableEq

section
variable (c : KokpitDb) (oran : ℕ → HesapOrani) (userId : ℕ) (workspaceId : Option ℕ) (today : Date) (now : ℤ)

/-- The part of a text before the first dash between blanks. -/
def tireOncesi : List Char → List Char
  | [] => []
  | c :: metin => if " — ".toList.isPrefixOf (c :: metin) then [] else c :: tireOncesi metin

/-- `_normalize_merchant`. -/
def normalizeMerchant (desc : String) : String :=
  let d := kirp (tireOncesi (kirp (trNormalize desc).toList))
  String.ofList ([' '].intercalate ((d.splitOnP boslukMu).filter (· ≠ [])))

def subMinOccurrences : ℕ := 3

def subMaxDistinctAmounts : ℕ := 2

/-- The gap in the middle of the gaps between the days. -/
def ortancaAralik (gunler : List ℕ) : Option ℕ :=
  let gaps := ((gunler.zip gunler.tail).map fun g => g.2 - g.1).filter (0 < ·)
  (gaps.mergeSort (· ≤ ·))[gaps.length / 2]?

/-- The monthly cost of what comes every month or every year. -/
def aylikMaliyet (medianGap : ℕ) (tutar : ℚ) : Option ℚ :=
  if 24 ≤ medianGap ∧ medianGap ≤ 35 then some tutar
  else if 350 ≤ medianGap ∧ medianGap ≤ 381 then some (roundEven (tutar / 12) 2)
  else none

/-- A group of payments that is a subscription, with its monthly cost. -/
def abonelik (items : List Transaction) : Option (Abonelik × ℚ) :=
  let amounts := items.map fun t => roundEven t.amount 2
  let distinct := amounts.eraseDups.length
  if items.length < subMinOccurrences ∨ subMaxDistinctAmounts < distinct then none
  else
    (ortancaAralik (items.map fun t => gunNo t.transactionDate)).bind fun medianGap =>
      (aylikMaliyet medianGap (amounts.getLastD 0)).map fun maliyet =>
        (⟨(items.getLast?.bind Transaction.description).getD "", 2 ≤ distinct, amounts.headD 0, amounts.getLastD 0⟩, maliyet)

/-- The expenses of the last half year with a description, by their day. -/
def abonelikAdaylari : List Transaction :=
  (((kapsamSatirlari c.panel.db.transactions userId workspaceId).map Prod.snd).filter fun t =>
    t.transactionType = .expense ∧ gunNo today ≤ gunNo t.transactionDate + 180 ∧ t.description.isSome).mergeSort
      fun a b => gunNo a.transactionDate ≤ gunNo b.transactionDate

/-- `detect_subscriptions`: the most expensive first, each with its monthly cost. -/
def detectSubscriptions : List (Abonelik × ℚ) :=
  let txns := abonelikAdaylari c userId workspaceId today
  let anahtar := fun t : Transaction => normalizeMerchant (t.description.getD "")
  (((txns.map anahtar).filter (· ≠ "")).eraseDups.filterMap fun key =>
    abonelik (txns.filter fun t => anahtar t = key)).mergeSort fun a b => b.2 ≤ a.2

/-- What a category is compared with: its envelope, or what was spent on it last month. -/
def asimReferansi (kategori : String) : ℚ × String :=
  let zarflar := (kapsamSatirlari c.panel.envelopes userId workspaceId).filter fun e =>
    e.2.isActive ∧ e.2.category = kategori
  match zarflar.getLast? with
  | some e => (e.2.monthlyAmount, "bütçe")
  | none => (kategoriHarcamasi c.panel userId workspaceId (vadeGunu (today.monthDay.month - 1) 31) kategori, "geçen ay")

/-- A category whose spending, at its speed so far, ends the month well above what it is compared with. -/
def kategoriAsimi (kategori : String) : Option KategoriAsimi :=
  let mtd := kategoriHarcamasi c.panel userId workspaceId today.monthDay kategori
  let referans := asimReferansi c userId workspaceId today kategori
  let projected := roundEven (mtd / today.day * monthLength today.monthDay.month) 2
  if mtd ≤ 0 ∨ trNormalize kategori ∈ sistemSlugKumesi c.categories userId none ∨ referans.1 ≤ 0 then none
  else if referans.1 * (115 / 100) < projected then some ⟨kategori, projected, referans.1, referans.2⟩
  else none

/-- The categories of this month's expenses, by what was spent on them. -/
def ayKategorileri : List String :=
  ((((kapsamSatirlari c.panel.db.transactions userId workspaceId).filter fun t =>
    t.2.transactionType = .expense ∧ MonthDay.firstOf today.monthDay.month ≤ t.2.transactionDate.monthDay ∧
      t.2.transactionDate.monthDay ≤ today.monthDay).map fun t => t.2.category.getD "(kategorisiz)").eraseDups).mergeSort
    fun a b => kategoriHarcamasi c.panel userId workspaceId today.monthDay b ≤
      kategoriHarcamasi c.panel userId workspaceId today.monthDay a

/-- `_category_overspend_alerts`, before the alerts are written. -/
def kategoriAsimlari : List KategoriAsimi :=
  if today.day < 5 then []
  else (ayKategorileri c userId workspaceId today).filterMap (kategoriAsimi c userId workspaceId today)

/-- The row of an account as the debts read it. -/
def hesapSatiri (id : ℕ) (a : Account) : AccountRow where
  toAccount := a
  interestRate := (oran id).interestRate
  minPaymentRatio := (oran id).minPaymentRatio
  monthlyPayment := (c.panel.hesapEki id).monthlyPayment
  remainingInstallments := (c.panel.hesapEki id).remainingInstallments
  nextPaymentDate := (c.panel.hesapEki id).nextPaymentDate

/-- `collect_debts`, with the names. -/
def adliBorclar : List AdliBorc :=
  (c.panel.db.accounts.select fun a => scopeFilter userId workspaceId a ∧
    (a.accountType = .creditCard ∨ a.accountType = .loan) ∧ 0 < a.balance).map fun r => {
      borcKalemi r.1 (hesapSatiri c oran r.1 r.2) with
      name := r.2.name
      asgariVarsayimsal := r.2.accountType = .creditCard ∧
        (((oran r.1).minPaymentRatio.filter fun o => 0 < o ∧ o ≤ 1).isNone ∨ r.2.statementBalance.isNone) }

def asgariTuzagi : Option AsgariTuzagi := calculateMinPaymentTrap (adliBorclar c oran userId workspaceId) today

def tuzakKarti (k : KartTuzagi) : TuzakKarti := ⟨k.ad, k.bakiye, k.aslaBitmez, k.ay, k.toplamFaiz, k.payoffTarih⟩

/-- The end of the debts at the present pace. -/
def borcOzgurlugu : Option BorcOzgurluk :=
  match adliBorclar c oran userId workspaceId with
  | [] => none
  | borclar =>
    let av := calcAvalanche (borclar.map AdliBorc.toDebtItem) 0 today
    some ⟨av.payoffDate, maxMonths ≤ av.monthsToFreedom⟩

/-- The monthly interest on the loans and the cards. -/
def aylikFaizler : List ℚ :=
  (borcHesaplari c.panel.db userId workspaceId).filterMap fun a =>
    let faiz := (oran a.1).interestRate.getD 0
    if a.2.balance ≤ 0 ∨ faiz ≤ 0 then none else some (roundEven (a.2.balance * faiz / 100) 2)

def saatMikro : ℤ := 3600000000

/-- `is_price_stale`. -/
def isPriceStale (lastUpdate : Option ℤ) : Bool := lastUpdate.all fun t => 24 * saatMikro < now - t

/-- `get_price_age_text`. -/
def getPriceAgeText : Option ℤ → String
  | none => "henüz girilmedi"
  | some t =>
    let seconds := (now - t) / 1000000
    if seconds < 60 then "az önce"
    else if seconds < 3600 then toString (seconds / 60) ++ " dakika önce"
    else if seconds < 86400 then toString (seconds / 3600) ++ " saat önce"
    else if seconds < 172800 then "dün"
    else toString (seconds / 86400) ++ " gün önce"

/-- The investments whose price is out of date, apart from those in custody. -/
def bayatFiyatlar : List (Option ℤ × BayatFiyat) :=
  ((turHesaplari c.panel.db userId workspaceId .investment).filter fun a =>
    isPriceStale now (oran a.1).lastPriceUpdate ∧ a.2.isEmanet = false).map fun a =>
      ((oran a.1).lastPriceUpdate, ⟨a.2.name, getPriceAgeText now (oran a.1).lastPriceUpdate⟩)

/-- A price that never came in is the oldest. -/
def dahaEski (a b : Option ℤ × BayatFiyat) : Bool :=
  match a.1, b.1 with
  | none, _ => true
  | some _, none => false
  | some x, some y => x ≤ y

/-- `_en_eski_bayat`. -/
def enEskiBayat (bayatlar : List (Option ℤ × BayatFiyat)) : Option BayatFiyat :=
  (bayatlar.mergeSort dahaEski).head?.map Prod.snd

/-- The prices that stayed away for three days. -/
def ciddiBayatlar : List (Option ℤ × BayatFiyat) :=
  (bayatFiyatlar c oran userId workspaceId now).filter fun b => b.1.any fun t => 72 * saatMikro < now - t

def taramalar : Taramalar where
  abonelikler := (detectSubscriptions c userId workspaceId today).map Prod.fst
  asimlar := kategoriAsimlari c userId workspaceId today
  tuzak := (asgariTuzagi c oran userId workspaceId today).map fun t => tuzakKarti t.enYuksekFaiz
  bayatlar := (ciddiBayatlar c oran userId workspaceId now).map Prod.snd
  enEskiBayat := (enEskiBayat (ciddiBayatlar c oran userId workspaceId now)).getD ⟨"", ""⟩

/-- The sections that the first step quotes, as the cockpit fills them in. -/
def digerBolumler : DigerBolumler where
  taramalar := taramalar c oran userId workspaceId today now
  aylikFaiz := (aylikFaizler c oran userId workspaceId).sum
  borcOzgurluk := borcOzgurlugu c oran userId workspaceId today

end
end FinancialOs.Rules
