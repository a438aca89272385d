import FinancialOs.Library.CsvText
import FinancialOs.Routers.WorkspaceDeps
import FinancialOs.Rules.AccountRules
import FinancialOs.Rules.DebtSettlement
import FinancialOs.Rules.MoneyFormat
import FinancialOs.Rules.QuickEntry
import FinancialOs.Store.PanelRows

/-! The panel's transaction endpoints. Each answers an error or names the rows
it commits; the balance legs follow the per-request flags. -/
namespace FinancialOs.Routers
open Library Store Rules

/-- The body of a creation; fields sent as null are dropped before anything reads them. -/
structure TransactionCreate where
  accountId : Option ℤ
  transactionType : Option TransactionType
  amount : Option ℚ
  category : Option String
  description : Option String
  transactionDate : Option Date
  isCardExpense : Option Bool
  quickText : Option String
  autoUpdateBalance : Option Bool

/-- The body of an update: a field is not sent, or sent with a value that may be null. -/
structure TransactionUpdate where
  accountId : Option (Option ℤ)
  transactionType : Option (Option TransactionType)
  amount : Option (Option ℚ)
  category : Option (Option String)
  description : Option (Option String)
  transactionDate : Option (Option Date)
  isCardExpense : Option (Option Bool)
  autoUpdateBalance : Option (Option Bool)

def finansBakiye (q : ℚ) : Bool := |q| ≤ 10 ^ 12

def enCok (n : ℕ) (s : String) : Bool := s.length ≤ n

def TransactionCreate.uygun (data : TransactionCreate) : Bool :=
  data.amount.all finansBakiye && data.category.all (enCok 100) && data.description.all (enCok 1000) &&
    data.quickText.all (enCok 200)

def TransactionUpdate.uygun (data : TransactionUpdate) : Bool :=
  data.amount.join.all finansBakiye && data.category.join.all (enCok 100) &&
    data.description.join.all (enCok 1000)

/-- A text field that is missing or empty. -/
def bosMetin (s : Option String) : Bool := s.all (· = "")

/-- What the quick text fills in; an amount given beside it is replaced. -/
def hizliGiris (data : TransactionCreate) : Except UcHatasi TransactionCreate :=
  match data.quickText.filter (· ≠ "") with
  | none => .ok data
  | some metin => do
    let parsed ← within (.http 400) (parseQuickText metin)
    return { data with
      transactionType := some (data.transactionType.getD .expense)
      amount := some parsed.amount
      category := if bosMetin data.category then some parsed.category else data.category
      isCardExpense := some (data.isCardExpense.getD parsed.isCardExpense)
      description :=
        if bosMetin data.description then some (parsed.description.getD metin) else data.description }

/-- A category guessed for an expense that names none. -/
def kategoriOner (data : TransactionCreate) : TransactionCreate :=
  if bosMetin data.category ∧ data.transactionType = some .expense then
    { data with category := (suggestCategory data.description).orElse (fun _ => data.category) }
  else data

/-- The account of a new transaction: the one named, else the default of its kind. -/
def hesapSecimi (db : Db) (istek : Istek) (data : TransactionCreate) : Option ℤ :=
  match data.accountId.filter (· ≠ 0) with
  | some id => some id
  | none => (varsayilanHesap db istek.userId istek.wsId
      (if data.isCardExpense.getD false then .creditCard else .cash)).map (fun h => (h.1 : ℤ))

/-- `_apply_to_balance`. -/
def applyToBalance (hesap : ℕ × Account) (txnType : TransactionType) (amount : ℚ) (reverse : Bool) :
    Write :=
  let delta := balanceDelta hesap.2.accountType txnType amount
  bakiyeEkle hesap.1 (if reverse then -delta else delta)

/-- A new transaction with the account it names. -/
structure YeniIslem where
  txn : Transaction
  hesap : ℕ × Account
  otomatik : Bool
  deriving DecidableEq

def yeniIslem (db : Db) (istek : Istek) (payload : TransactionCreate) : Except UcHatasi YeniIslem := do
  stopIf .sema (payload.uygun = false)
  let dolu ← hizliGiris payload
  let data := kategoriOner dolu
  let hesapId := hesapSecimi db istek data
  let tip ← require (.http 400 "transaction_type zorunlu") data.transactionType
  let amount ← require (.http 400 "amount pozitif olmali") data.amount
  stopIf (.http 400 "amount pozitif olmali") (amount ≤ 0)
  let id ← require (.http 400 "Hesap belirtilmedi ve uygun varsayılan hesap yok. Önce bir nakit/kart hesabı ekle ya da account_id belirt.")
    hesapId
  let bulunan ← within .hata (findById db.accounts istek.userId istek.wsId (.int id))
  let hesap ← require (.http 404 "Hesap bulunamadi") bulunan
  return {
    txn := {
      userId := istek.userId
      workspaceId := istek.wsId
      accountId := some hesap.1
      transactionType := tip
      amount := amount
      category := data.category
      description := data.description
      transactionDate := data.transactionDate.getD istek.bugun
      isCardExpense := data.isCardExpense.getD false }
    hesap := hesap
    otomatik := payload.autoUpdateBalance.getD true }

def createTransaction (db : Db) (istek : Istek) (payload : TransactionCreate) :
    Except UcHatasi (List Write) := do
  let yeni ← yeniIslem db istek payload
  return .transaction (.insert yeni.txn) ::
    (if yeni.otomatik then [applyToBalance yeni.hesap yeni.txn.transactionType yeni.txn.amount false]
     else [])

/-- The account a transaction is attached to, if the request sees it. -/
def bagliHesap (db : Db) (istek : Istek) (txn : Transaction) : Option (ℕ × Account) :=
  match txn.accountId with
  | none => none
  | some id => inScope db.accounts istek.userId istek.wsId id

/-- The account an update attaches the transaction to, which it has to see. -/
def hedefHesabi (db : Db) (istek : Istek) (gelen : Option (Option ℤ)) (eski : Option ℕ) :
    Except UcHatasi (Option ℕ) :=
  match gelen with
  | none => .ok eski
  | some none => .ok none
  | some (some id) => do
    let bulunan ← within .hata (findById db.accounts istek.userId istek.wsId (.int id))
    let hesap ← require (.http 404 "Hedef hesap bulunamadi veya size ait degil.") bulunan
    return some hesap.1

/-- The row an update leaves; an amount has to stay positive. -/
def guncelIslem (db : Db) (istek : Istek) (payload : TransactionUpdate) (eski : Transaction) :
    Except UcHatasi Transaction := do
  stopIf (.http 422 "Tutar pozitif olmalı (amount > 0).")
    (payload.amount.any (fun q => q.all (· ≤ 0)))
  let accountId ← hedefHesabi db istek payload.accountId eski.accountId
  let transactionType ← zorunlu payload.transactionType eski.transactionType
  let transactionDate ← zorunlu payload.transactionDate eski.transactionDate
  let isCardExpense ← zorunlu payload.isCardExpense eski.isCardExpense
  return { eski with
    accountId := accountId
    transactionType := transactionType
    amount := payload.amount.join.getD eski.amount
    category := payload.category.getD eski.category
    description := payload.description.getD eski.description
    transactionDate := transactionDate
    isCardExpense := isCardExpense }

/-- The balance leg of a transaction on the account the request sees. -/
def etkiYaz (db : Db) (istek : Istek) (txn : Transaction) (reverse : Bool) : List Write :=
  ((bagliHesap db istek txn).map
    (fun h => applyToBalance h txn.transactionType txn.amount reverse)).toList

/-- The flag of an update: a missing one means yes, an explicit null means no. -/
def TransactionUpdate.otomatik (payload : TransactionUpdate) : Bool :=
  match payload.autoUpdateBalance with
  | none => true
  | some flag => flag.getD false

def updateTransaction (db : Db) (istek : Istek) (txnId : ℤ) (payload : TransactionUpdate) :
    Except UcHatasi (List Write) := do
  stopIf .sema (payload.uygun = false)
  let bulunan ← within .hata (findById db.transactions istek.userId istek.wsId (.int txnId))
  let txn ← require (.http 404 "Islem bulunamadi") bulunan
  let yeni ← guncelIslem db istek payload txn.2
  let yaz : Write := .transaction (.update txn.1 (fun _ => yeni))
  return if payload.otomatik then
      etkiYaz db istek txn.2 true ++ yaz :: etkiYaz db istek yeni false
    else [yaz]

def deleteTransaction (db : Db) (istek : Istek) (txnId : ℤ) (autoRevertBalance : Bool) :
    Except UcHatasi (List Write) := do
  let bulunan ← within .hata (findById db.transactions istek.userId istek.wsId (.int txnId))
  let txn ← require (.http 404 "Islem bulunamadi") bulunan
  return (if autoRevertBalance then etkiYaz db istek txn.2 true else []) ++ [.transaction (.delete txn.1)]

def csvBasliklar : List String := ["tarih", "tur", "tutar", "kategori", "aciklama", "hesap_id", "kart_harcamasi"]

/-- `_FORMUL_BASLANGICI`: what a spreadsheet takes for the beginning of a formula. -/
def formulBaslangici (c : Char) : Bool := c = '=' ∨ c = '+' ∨ c = '-' ∨ c = '@' ∨ c = '\t' ∨ c = '\r'

def csvHucre : Option String → String
  | none => ""
  | some metin => if metin.toList.head?.any formulBaslangici then "'" ++ metin else metin

def csvTutar (amount : ℚ) : String :=
  String.ofList ((sabitNokta amount 2).toList.map fun c => if c = '.' then ',' else c)

def csvHesapId : Option ℕ → String
  | none => ""
  | some id => toString id

def csvSatiri (t : Transaction) : List String :=
  [t.transactionDate.isoformat, t.transactionType.value, csvTutar t.amount, csvHucre t.category, csvHucre t.description,
    csvHesapId t.accountId, if t.isCardExpense then "evet" else "hayir"]

/-- `islemleri_csv_yap`: the rows behind a byte order mark. -/
def islemleriCsvYap (txns : List Transaction) : String :=
  String.ofList ('\uFEFF' :: Csv.write ';' ((csvBasliklar :: txns.map csvSatiri).map fun r => r.map String.toList))

/-- The newest day first, and on a day the row that came last. -/
def yeniOnce (a b : ℕ × Transaction) : Bool :=
  if a.2.transactionDate = b.2.transactionDate then b.1 ≤ a.1
  else a.2.transactionDate.notBefore b.2.transactionDate

def aralikta (baslangic bitis : Option Date) (t : Transaction) : Bool :=
  baslangic.all t.transactionDate.notBefore && bitis.all fun d => d.notBefore t.transactionDate

/-- The file of `export_transactions_csv`: its name and its text. -/
def exportTransactionsCsv (db : Db) (istek : Istek) (baslangic bitis : Option Date) : String × String :=
  let txns := ((kapsamSatirlari db.transactions istek.userId istek.wsId).filter fun r =>
    aralikta baslangic bitis r.2).mergeSort yeniOnce
  let gun (d : Option Date) : String := (d.map fun d => "-" ++ d.isoformat).getD ""
  ("islemler" ++ gun baslangic ++ gun bitis ++ ".csv", islemleriCsvYap (txns.map Prod.snd))

theorem yeniIslem_ok {db : Db} {istek : Istek} {payload : TransactionCreate} {yeni : YeniIslem}
    (h : yeniIslem db istek payload = .ok yeni) :
    db.accounts.get? yeni.hesap.1 = some yeni.hesap.2 ∧
      scopeFilter istek.userId istek.wsId yeni.hesap.2 = true ∧
      yeni.txn.accountId = some yeni.hesap.1 ∧ 0 < yeni.txn.amount ∧
      yeni.txn.userId = istek.userId ∧ yeni.txn.workspaceId = istek.wsId ∧
      yeni.otomatik = payload.autoUpdateBalance.getD true := by
  simp only [yeniIslem, bind_eq_ok, stopIf_eq_ok, require_eq_ok, within_eq_ok, pure_eq_ok,
    exists_and_left, exists_const] at h
  obtain ⟨_, _, _, tip, _, amount, _, hpos, id, _, _, hf, hesap, rfl, rfl⟩ := h
  obtain ⟨_, hget, hscope⟩ := findById_eq_some.mp hf
  exact ⟨hget, hscope, rfl, not_le.mp hpos, rfl, rfl, rfl⟩

theorem createTransaction_ok {db : Db} {istek : Istek} {payload : TransactionCreate} {ws : List Write}
    (h : createTransaction db istek payload = .ok ws) :
    ∃ yeni, yeniIslem db istek payload = .ok yeni ∧ ws = .transaction (.insert yeni.txn) ::
      (if yeni.otomatik then [applyToBalance yeni.hesap yeni.txn.transactionType yeni.txn.amount false]
       else []) := by
  simp only [createTransaction, bind_eq_ok, pure_eq_ok] at h
  obtain ⟨yeni, hy, rfl⟩ := h
  exact ⟨yeni, hy, rfl⟩

theorem bagliHesap_some {db : Db} {istek : Istek} {txn : Transaction} {h : ℕ × Account} :
    bagliHesap db istek txn = some h ↔ txn.accountId = some h.1 ∧ db.accounts.get? h.1 = some h.2 ∧
      scopeFilter istek.userId istek.wsId h.2 = true := by
  obtain ⟨k, a⟩ := h
  unfold bagliHesap
  cases txn.accountId with
  | none => simp
  | some id =>
    dsimp only
    rw [inScope_eq_some, Option.some.injEq]
    constructor
    · rintro ⟨rfl, hg, hs⟩
      exact ⟨rfl, hg, hs⟩
    · rintro ⟨rfl, hg, hs⟩
      exact ⟨rfl, hg, hs⟩

/-- The balance leg of a transaction leaves the transactions alone. -/
theorem transactions_etkiYaz (d db : Db) (istek : Istek) (txn : Transaction) (reverse : Bool) :
    (d.writeAll (etkiYaz db istek txn reverse)).transactions = d.transactions := by
  unfold etkiYaz
  cases bagliHesap db istek txn <;> rfl

/-- An update keeps the account of a transaction, detaches it, or moves it to one the request sees. -/
theorem guncelIslem_ok {db : Db} {istek : Istek} {payload : TransactionUpdate} {eski yeni : Transaction}
    (h : guncelIslem db istek payload eski = .ok yeni) :
    yeni.userId = eski.userId ∧ yeni.workspaceId = eski.workspaceId ∧
      (yeni.accountId = eski.accountId ∨ yeni.accountId = none ∨ ∃ g, bagliHesap db istek yeni = some g) := by
  simp only [guncelIslem, bind_eq_ok, stopIf_eq_ok, pure_eq_ok, exists_and_left, exists_const] at h
  obtain ⟨_, hesap, hh, tip, _, tarih, _, kart, _, rfl⟩ := h
  refine ⟨rfl, rfl, ?_⟩
  dsimp only
  rcases hp : payload.accountId with _ | _ | id
  · rw [hp] at hh
    cases hh
    exact .inl rfl
  · rw [hp] at hh
    cases hh
    exact .inr (.inl rfl)
  · simp only [hp, hedefHesabi, bind_eq_ok, within_eq_ok, require_eq_ok, pure_eq_ok] at hh
    obtain ⟨_, hf, g, rfl, rfl⟩ := hh
    obtain ⟨_, hget, hscope⟩ := findById_eq_some.mp hf
    exact .inr (.inr ⟨g, bagliHesap_some.mpr ⟨rfl, hget, hscope⟩⟩)

/-- A new amount is never null; without one the amount stays. -/
theorem guncelIslem_amount {db : Db} {istek : Istek} {payload : TransactionUpdate} {eski yeni : Transaction}
    (h : guncelIslem db istek payload eski = .ok yeni) :
    payload.amount = none ∧ yeni.amount = eski.amount ∨
      ∃ q, payload.amount = some (some q) ∧ yeni.amount = q := by
  simp only [guncelIslem, bind_eq_ok, stopIf_eq_ok, pure_eq_ok, exists_and_left, exists_const] at h
  obtain ⟨hnull, _, _, _, _, _, _, _, _, rfl⟩ := h
  rcases hp : payload.amount with _ | _ | q
  · exact .inl ⟨rfl, rfl⟩
  · rw [hp] at hnull
    exact absurd rfl hnull
  · exact .inr ⟨q, rfl, rfl⟩

theorem updateTransaction_ok {db : Db} {istek : Istek} {txnId : ℤ} {payload : TransactionUpdate}
    {ws : List Write} (h : updateTransaction db istek txnId payload = .ok ws) :
    ∃ id eski yeni, findById db.transactions istek.userId istek.wsId (.int txnId) = .ok (some (id, eski)) ∧
      guncelIslem db istek payload eski = .ok yeni ∧
      ws = if payload.otomatik then
          etkiYaz db istek eski true ++ .transaction (.update id (fun _ => yeni)) :: etkiYaz db istek yeni false
        else [.transaction (.update id (fun _ => yeni))] := by
  simp only [updateTransaction, bind_eq_ok, stopIf_eq_ok, within_eq_ok, require_eq_ok, pure_eq_ok,
    exists_and_left, exists_const] at h
  obtain ⟨_, _, hf, txn, rfl, yeni, hy, rfl⟩ := h
  exact ⟨txn.1, txn.2, yeni, hf, hy, rfl⟩

theorem deleteTransaction_ok {db : Db} {istek : Istek} {txnId : ℤ} {autoRevert : Bool} {ws : List Write} :
    deleteTransaction db istek txnId autoRevert = .ok ws ↔
      ∃ id txn, findById db.transactions istek.userId istek.wsId (.int txnId) = .ok (some (id, txn)) ∧
        ws = (if autoRevert then etkiYaz db istek txn true else []) ++ [.transaction (.delete id)] := by
  simp only [deleteTransaction, bind_eq_ok, within_eq_ok, require_eq_ok, pure_eq_ok]
  constructor
  · rintro ⟨_, hf, txn, rfl, rfl⟩
    exact ⟨txn.1, txn.2, hf, rfl⟩
  · rintro ⟨id, txn, hf, rfl⟩
    exact ⟨_, hf, (id, txn), rfl, rfl⟩

end FinancialOs.Routers
