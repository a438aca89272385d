import FinancialOs.Executor.Handlers
import FinancialOs.Routers.Debts
import FinancialOs.Routers.Transactions

/-! The panel's account endpoints, the fund price endpoint and the price job: the write paths
that keep the balance of an investment at its lots times its price. -/
namespace FinancialOs.Routers
open Library Store Rules Executor

structure AccountCreate where
  name : String
  accountType : AccountType
  balance : Option ℚ
  creditLimit : Option ℚ
  statementDay : Option ℕ
  paymentDay : Option ℕ
  statementBalance : Option ℚ
  lotCount : Option ℚ
  costPerLot : Option ℚ
  currentPrice : Option ℚ
  isEmanet : Bool

/-- The body of an update: a field is not sent, or sent with a value that may be null. -/
structure AccountUpdate where
  name : Option (Option String)
  balance : Option (Option ℚ)
  creditLimit : Option (Option ℚ)
  statementDay : Option (Option ℕ)
  paymentDay : Option (Option ℕ)
  statementBalance : Option (Option ℚ)
  lotCount : Option (Option ℚ)
  costPerLot : Option (Option ℚ)
  currentPrice : Option (Option ℚ)
  isEmanet : Option (Option Bool)

def hesapAdi (s : String) : Bool := 1 ≤ s.length ∧ s.length ≤ 100

def finansOran (q : ℚ) : Bool := 0 ≤ q ∧ q ≤ 10 ^ 12

def ayGunu (n : ℕ) : Bool := 1 ≤ n ∧ n ≤ 31

def AccountCreate.uygun (data : AccountCreate) : Bool :=
  hesapAdi data.name && data.balance.all finansBakiye && data.creditLimit.all finansOran &&
    data.statementDay.all ayGunu && data.paymentDay.all ayGunu &&
    data.statementBalance.all finansBakiye && data.lotCount.all finansOran &&
    data.costPerLot.all finansOran && data.currentPrice.all finansOran

def AccountUpdate.uygun (data : AccountUpdate) : Bool :=
  data.name.join.all hesapAdi && data.balance.join.all finansBakiye &&
    data.creditLimit.join.all finansOran && data.statementDay.join.all ayGunu &&
    data.paymentDay.join.all ayGunu && data.statementBalance.join.all finansBakiye &&
    data.lotCount.join.all finansOran && data.costPerLot.join.all finansOran &&
    data.currentPrice.join.all finansOran

/-- The lots and the price of an account that has a computed balance. -/
def yatirimDegeri (accountType : AccountType) (lotCount currentPrice : Option ℚ) : Option (ℚ × ℚ) :=
  match accountType, lotCount, currentPrice with
  | .investment, some lot, some fiyat => some (lot, fiyat)
  | _, _, _ => none

/-- The row a creation inserts; the balance of an investment is computed when it can be. -/
def yeniHesap (istek : Istek) (payload : AccountCreate) : Account := {
  userId := istek.userId
  workspaceId := istek.wsId
  name := payload.name
  accountType := payload.accountType
  balance :=
    match yatirimDegeri payload.accountType payload.lotCount payload.currentPrice with
    | some (lot, fiyat) => lot * fiyat
    | none => payload.balance.getD 0
  creditLimit := payload.creditLimit
  statementDay := payload.statementDay
  paymentDay := payload.paymentDay
  statementBalance := payload.statementBalance
  lotCount := payload.lotCount
  costPerLot := payload.costPerLot
  currentPrice := payload.currentPrice
  isEmanet := payload.isEmanet }

def createAccount (istek : Istek) (payload : AccountCreate) : Except UcHatasi (List Write) := do
  stopIf .sema (payload.uygun = false)
  return [.account (.insert (yeniHesap istek payload))]

/-- The sent fields on the row, before the balance is computed; a required column refuses null. -/
def alanlariYaz (payload : AccountUpdate) (acc : Account) : Except UcHatasi Account := do
  let name ← zorunlu payload.name acc.name
  let balance ← zorunlu payload.balance acc.balance
  let isEmanet ← zorunlu payload.isEmanet acc.isEmanet
  return { acc with
    name := name
    balance := balance
    creditLimit := payload.creditLimit.getD acc.creditLimit
    statementDay := payload.statementDay.getD acc.statementDay
    paymentDay := payload.paymentDay.getD acc.paymentDay
    statementBalance := payload.statementBalance.getD acc.statementBalance
    lotCount := payload.lotCount.getD acc.lotCount
    costPerLot := payload.costPerLot.getD acc.costPerLot
    currentPrice := payload.currentPrice.getD acc.currentPrice
    isEmanet := isEmanet }

/-- The computed balance, when lots or price were sent and no balance was. -/
def akilliBakiye (payload : AccountUpdate) (acc : Account) : Account :=
  match yatirimDegeri acc.accountType acc.lotCount acc.currentPrice with
  | some (lot, fiyat) =>
    if payload.balance = none ∧ (payload.lotCount.isSome ∨ payload.currentPrice.isSome) then
      { acc with balance := lot * fiyat }
    else acc
  | none => acc

def updateAccount (db : Db) (istek : Istek) (accountId : ℤ) (payload : AccountUpdate) :
    Except UcHatasi (List Write) := do
  stopIf .sema (payload.uygun = false)
  let bulunan ← within .hata (findById db.accounts istek.userId istek.wsId (.int accountId))
  let acc ← require (.http 404 s!"Hesap bulunamadi (id={accountId})") bulunan
  let yeni ← alanlariYaz payload acc.2
  return [.account (.update acc.1 (fun _ => akilliBakiye payload yeni))]

/-- What `update_fund_price_manual` stops with, as the endpoint answers it. -/
def fiyatHatasi : Durak → UcHatasi
  | .red message => .http 400 message
  | .hata e => .hata e

/-- `POST /api/fund-price/update`: the account has to be in scope, and the update itself looks it
up by its owner. -/
def updatePrice (db : Db) (istek : Istek) (accountId : ℤ) (newPrice : ℚ) :
    Except UcHatasi (List Write) := do
  stopIf .sema (finansTutar newPrice = false)
  let bulunan ← within .hata (findById db.accounts istek.userId istek.wsId (.int accountId))
  let acc ← require (.http 404 s!"Hesap bulunamadi (id={accountId})") bulunan
  let tur := acc.2.accountType.value
  stopIf (.http 400 s!"Sadece yatirim hesabi guncellenir. Bu hesap: {tur}")
    (acc.2.accountType ≠ .investment)
  let islem ← within fiyatHatasi (updateFundPriceManual db (.int accountId) newPrice istek.userId)
  return islem.writes

/-- The price job's row update; without known lots the balance is left alone. -/
def fiyatKaydi (price : ℚ) (account : Account) : Account :=
  match account.accountType, account.lotCount with
  | .investment, some lot =>
    { account with currentPrice := some price, balance := roundEven (lot * price) 2 }
  | _, _ => { account with currentPrice := some price }

def recordInvestmentPrice (accountId : ℕ) (price : ℚ) : List Write :=
  [.account (.update accountId (fiyatKaydi price))]

theorem yatirimDegeri_some {accountType : AccountType} {lotCount currentPrice : Option ℚ} {lot fiyat : ℚ} :
    yatirimDegeri accountType lotCount currentPrice = some (lot, fiyat) ↔
      accountType = .investment ∧ lotCount = some lot ∧ currentPrice = some fiyat := by
  unfold yatirimDegeri
  split
  · simp
  · next h =>
    simp only [reduceCtorEq, false_iff]
    rintro ⟨rfl, rfl, rfl⟩
    exact h lot fiyat rfl rfl rfl

/-- A computed balance replaces whatever balance the body carries. -/
theorem yeniHesap_balance {istek : Istek} {payload : AccountCreate} {lot fiyat : ℚ}
    (htip : payload.accountType = .investment) (hlot : payload.lotCount = some lot)
    (hfiyat : payload.currentPrice = some fiyat) : (yeniHesap istek payload).balance = lot * fiyat := by
  have h := yatirimDegeri_some.mpr ⟨htip, hlot, hfiyat⟩
  simp only [yeniHesap]
  rw [h]

theorem akilliBakiye_sent {payload : AccountUpdate} {acc : Account} {lot fiyat : ℚ}
    (htip : acc.accountType = .investment) (hlot : acc.lotCount = some lot)
    (hfiyat : acc.currentPrice = some fiyat) (hb : payload.balance = none)
    (hsent : payload.lotCount.isSome = true ∨ payload.currentPrice.isSome = true) :
    akilliBakiye payload acc = { acc with balance := lot * fiyat } := by
  have h := yatirimDegeri_some.mpr ⟨htip, hlot, hfiyat⟩
  unfold akilliBakiye
  rw [h]
  exact if_pos ⟨hb, hsent⟩

theorem akilliBakiye_unsent {payload : AccountUpdate} {acc : Account}
    (h : ¬ (payload.lotCount.isSome = true ∨ payload.currentPrice.isSome = true)) :
    akilliBakiye payload acc = acc := by
  unfold akilliBakiye
  split
  · rw [if_neg fun hs => h hs.2]
  · rfl

/-- Nothing but the balance is computed. -/
theorem akilliBakiye_frame (payload : AccountUpdate) (acc : Account) :
    ∃ balance, akilliBakiye payload acc = { acc with balance := balance } := by
  unfold akilliBakiye
  split
  · split
    · exact ⟨_, rfl⟩
    · exact ⟨acc.balance, rfl⟩
  · exact ⟨acc.balance, rfl⟩

theorem fiyatKaydi_some (price : ℚ) {lot : ℚ} {account : Account} (htip : account.accountType = .investment)
    (hlot : account.lotCount = some lot) :
    fiyatKaydi price account =
      { account with currentPrice := some price, balance := roundEven (lot * price) 2 } := by
  simp only [fiyatKaydi, htip, hlot]

theorem fiyatKaydi_frame (price : ℚ) (account : Account) :
    ∃ balance, fiyatKaydi price account = { account with currentPrice := some price, balance := balance } := by
  unfold fiyatKaydi
  split
  · exact ⟨_, rfl⟩
  · exact ⟨account.balance, rfl⟩

theorem createAccount_ok {istek : Istek} {payload : AccountCreate} {ws : List Write} :
    createAccount istek payload = .ok ws ↔
      payload.uygun = true ∧ ws = [.account (.insert (yeniHesap istek payload))] := by
  simp only [createAccount, bind_eq_ok, stopIf_eq_ok, pure_eq_ok, exists_const, Bool.not_eq_false]
  constructor
  · rintro ⟨hu, rfl⟩
    exact ⟨hu, rfl⟩
  · rintro ⟨hu, rfl⟩
    exact ⟨hu, rfl⟩

theorem alanlariYaz_ok {payload : AccountUpdate} {acc yeni : Account}
    (h : alanlariYaz payload acc = .ok yeni) :
    zorunlu payload.balance acc.balance = .ok yeni.balance ∧ yeni.accountType = acc.accountType ∧
      yeni.lotCount = payload.lotCount.getD acc.lotCount ∧
      yeni.currentPrice = payload.currentPrice.getD acc.currentPrice := by
  simp only [alanlariYaz, bind_eq_ok, pure_eq_ok] at h
  obtain ⟨name, _, balance, hb, emanet, _, rfl⟩ := h
  exact ⟨hb, rfl, rfl, rfl⟩

theorem updateAccount_ok {db : Db} {istek : Istek} {accountId : ℤ} {payload : AccountUpdate}
    {ws : List Write} :
    updateAccount db istek accountId payload = .ok ws ↔
      payload.uygun = true ∧ ∃ id acc yeni,
        findById db.accounts istek.userId istek.wsId (.int accountId) = .ok (some (id, acc)) ∧
          alanlariYaz payload acc = .ok yeni ∧
            ws = [.account (.update id (fun _ => akilliBakiye payload yeni))] := by
  simp only [updateAccount, bind_eq_ok, stopIf_eq_ok, require_eq_ok, within_eq_ok, pure_eq_ok,
    exists_const, Bool.not_eq_false, exists_and_left]
  constructor
  · rintro ⟨hu, _, hf, h, rfl, yeni, hy, rfl⟩
    exact ⟨hu, h.1, h.2, hf, yeni, hy, rfl⟩
  · rintro ⟨hu, id, acc, hf, yeni, hy, rfl⟩
    exact ⟨hu, _, hf, (id, acc), rfl, yeni, hy, rfl⟩

theorem updatePrice_ok {db : Db} {istek : Istek} {accountId : ℤ} {newPrice : ℚ} {ws : List Write} :
    updatePrice db istek accountId newPrice = .ok ws ↔
      finansTutar newPrice = true ∧ ∃ id acc,
        findById db.accounts istek.userId istek.wsId (.int accountId) = .ok (some (id, acc)) ∧
          acc.userId = istek.userId ∧ acc.accountType = .investment ∧
            ws = [fiyatYaz id newPrice (roundEven (newPrice * acc.lotCount.getD 0) 2)] := by
  simp only [updatePrice, updateFundPriceManual, bind_eq_ok, stopIf_eq_ok, require_eq_ok, within_eq_ok,
    pure_eq_ok, exists_const, Bool.not_eq_false, not_not]
  constructor
  · rintro ⟨hu, _, hf, h, rfl, htip, i, ⟨_, hg, g, rfl, _, _, rfl⟩, rfl⟩
    obtain ⟨hkey, hrow, _⟩ := findById_eq_some.mp hf
    obtain ⟨hkey', hrow', hsahip⟩ := findById_eq_some.mp hg
    rw [hkey] at hkey'
    have hid : h.1 = g.1 := by simpa using hkey'
    rw [← hid, hrow, Option.some.injEq] at hrow'
    obtain rfl : h = g := Prod.ext hid hrow'
    exact ⟨hu, h.1, h.2, hf, of_decide_eq_true hsahip, htip, rfl⟩
  · rintro ⟨hu, id, acc, hf, hsahip, htip, rfl⟩
    obtain ⟨hkey, hrow, _⟩ := findById_eq_some.mp hf
    have hpos : 0 < newPrice := by
      have := of_decide_eq_true hu
      exact this.1
    refine ⟨hu, _, hf, (id, acc), rfl, htip, _, ⟨some (id, acc), ?_, (id, acc), rfl, htip, not_le.mpr hpos, rfl⟩, rfl⟩
    exact findById_eq_some.mpr ⟨hkey, hrow, decide_eq_true hsahip⟩

end FinancialOs.Routers
