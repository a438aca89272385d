import FinancialOs.Rules.DebtSettlement
import FinancialOs.Rules.PartialSale
import FinancialOs.Rules.UserRules

/-! The seven action handlers. Each reads the database, refuses or raises, and
otherwise names the rows it commits and the answer it builds from them. -/
namespace FinancialOs.Executor
open Library Store Rules

/-- What a handler reads: the database, the active workspace, the user and the user's today. -/
structure Ortam where
  db : Db
  aktif : Option ℕ
  userId : ℕ
  bugun : Date

/-- A handler stops by answering `success: False` or by raising. -/
inductive Durak where
  | red (message : String)
  | hata (e : PyError)
  deriving DecidableEq

inductive Cevap where
  | bakiye (accountId : ℕ) (accountName : String) (oldBalance newBalance diff : ℚ)
  | islem (transactionId : ℕ) (transactionType : TransactionType) (amount : ℚ)
      (category accountName : Option String) (balanceDiff : ℚ)
  | borc (debtId : ℕ) (counterparty : String) (amount : ℚ) (direction : DebtDirection)
      (paidDate : String) (cashEffect : ℚ) (cashAccount : Option String)
  | kart (cardAccount sourceAccount : String) (amount cardNewBalance sourceNewBalance : ℚ)
      (warning : Option String)
  | satis (investmentId : ℕ) (investmentName : String) (satisSimulasyonu : SatisSimulasyonu)
      (kalanLot kalanDeger : ℚ) (creditAccountId : ℕ) (creditAccountName : String) (yeniBakiye : ℚ)
  | fiyat (accountId : ℕ) (accountName : String) (oldPrice : Option ℚ)
      (newPrice lotCount oldValue newValue valueDiff : ℚ) (message : String)
  | kirmiziCizgi (checkpointId : ℕ) (title : String) (type : CheckpointType) (priority : ℤ)
  deriving DecidableEq

/-- A handler that goes through: one commit, and an answer read back from the committed rows. -/
structure Islem where
  writes : List Write
  cevap : Db → Cevap

/-- `_yazma_workspace_id(db, user_id, kaynak)`. -/
def Ortam.kapsam (o : Ortam) (kaynak : Option ℕ) : Option ℕ :=
  yazmaWorkspaceId o.db o.aktif o.userId kaynak

/-- `db.query(Account).filter(Account.id == value, scope_filter(...)).first()`. -/
def Ortam.hesap (o : Ortam) (value : PyValue) : Except Durak (Option (ℕ × Account)) :=
  within .hata (findById o.db.accounts o.userId (o.kapsam none) value)

/-- A finite float, or nothing; only an overflow is raised. -/
def parseFinite (value : PyValue) : Except Durak (Option ℚ) :=
  match value.toFloat with
  | .ok (.finite q) => .ok (some q)
  | .ok _ => .ok none
  | .error .typeError => .ok none
  | .error .valueError => .ok none
  | .error e => .error (.hata e)

/-- What a text column stores for a payload value. -/
def sutunMetni : PyValue → Except Durak (Option String)
  | .none => .ok none
  | .bool b => .ok (some (if b then "1" else "0"))
  | .compound _ => .error (.hata .databaseError)
  | v => .ok (some v.text)

/-- What the account column of a transaction stores for a falsy account id. -/
def bosHesapId : PyValue → Except Durak (Option ℕ)
  | .none => .ok none
  | .str _ => .error (.hata .databaseError)
  | .compound _ => .error (.hata .databaseError)
  | _ => .ok (some 0)

/-- The date of a payload value; a truthy value that is not text is kept as it is. -/
def tarihOku (bugun : Date) (value : PyValue) : Except Durak (Option Date) :=
  if value.truthy then
    match value with
    | .str s => match Date.fromIso? s with
      | some d => .ok (some d)
      | none => .error (.hata .valueError)
    | _ => .ok none
  else .ok (some bugun)

def bakiyeOku (db : Db) (id : ℕ) : ℚ := ((db.accounts.get? id).map Account.balance).getD 0

def bakiyeYaz (id : ℕ) (bakiye : ℚ) : Write :=
  .account (.update id (fun a => { a with balance := bakiye }))

def executeUpdateAccountBalance (o : Ortam) (payload : Payload) : Except Durak Islem := do
  let accountId := payload.get .accountId
  let newBalance := payload.get .newBalance
  stopIf (.red "account_id ve new_balance gerekli.") (accountId.isNone ∨ newBalance.isNone)
  let bulunan ← o.hesap accountId
  let no := accountId.text
  let hesap ← require (.red s!"Hesap bulunamadi: id={no}") bulunan
  let ad := hesap.2.name
  stopIf (.red s!"'{ad}' emanet hesap (MC1). Bakiye degistirilemez.") hesap.2.isEmanet
  let okunan ← parseFinite newBalance
  let nb ← require (.red "new_balance sonlu bir sayı olmalı.") okunan
  return {
    writes := [bakiyeYaz hesap.1 nb]
    cevap := fun _ => .bakiye hesap.1 ad hesap.2.balance nb (roundEven (nb - hesap.2.balance) 2) }

/-- The coach's own sign rule: a card's debt moves against the money, every other
balance moves with it. -/
def kocDelta (accountType : AccountType) (txnType : TransactionType) (amount : ℚ) : ℚ :=
  match txnType with
  | .income => if accountType = .creditCard then -amount else amount
  | .expense => if accountType = .creditCard then amount else -amount
  | .transfer => 0

def islemTipi : PyValue → Option TransactionType
  | .str s => TransactionType.ofValue? s
  | _ => none

/-- The account a transaction names: nothing for a falsy id, otherwise a visible own account. -/
def islemHesabi (o : Ortam) (accountId : PyValue) : Except Durak (Option (ℕ × Account)) :=
  if accountId.truthy then do
    let bulunan ← o.hesap accountId
    let no := accountId.text
    let hesap ← require (.red s!"Hesap bulunamadi: id={no}") bulunan
    let ad := hesap.2.name
    stopIf (.red s!"'{ad}' emanet hesap (MC1).") hesap.2.isEmanet
    return some hesap
  else .ok none

def saklananHesap (accountId : PyValue) (hesap : Option (ℕ × Account)) : Except Durak (Option ℕ) :=
  match hesap with
  | some h => .ok (some h.1)
  | none => bosHesapId accountId

/-- The balance leg of a transaction: only when asked for, and only on a named account. -/
def bakiyeBacagi (payload : Payload) (hesap : Option (ℕ × Account)) (txnType : TransactionType)
    (amount : ℚ) : Option (ℕ × ℚ) :=
  match hesap with
  | some h =>
    if (payload.get .autoUpdateBalance).truthy then
      some (h.1, kocDelta h.2.accountType txnType amount)
    else none
  | none => none

def executeAddTransaction (o : Ortam) (payload : Payload) : Except Durak Islem := do
  let txnType ← require (.red "transaction_type ve amount gerekli.")
    (islemTipi (payload.get .transactionType))
  stopIf (.red "transaction_type ve amount gerekli.") (payload.get .amount).isNone
  let okunan ← parseFinite (payload.get .amount)
  let amount ← require (.red "amount sonlu ve pozitif olmalı.") okunan
  stopIf (.red "amount sonlu ve pozitif olmalı.") (amount ≤ 0)
  let tarih ← tarihOku o.bugun (payload.get .transactionDate)
  let accountId := payload.get .accountId
  let hesap ← islemHesabi o accountId
  let saklanan ← saklananHesap accountId hesap
  let category ← sutunMetni (payload.get .category)
  let description ← sutunMetni (payload.get .description)
  let transactionDate ← require (.hata .databaseError) tarih
  let txn : Transaction := {
    userId := o.userId
    workspaceId := o.kapsam (hesap.bind (fun h => h.2.workspaceId))
    accountId := saklanan
    transactionType := txnType
    amount := amount
    category := category
    description := description
    transactionDate := transactionDate
    isCardExpense := (payload.getD .isCardExpense (.bool false)).truthy }
  let bacak := bakiyeBacagi payload hesap txnType amount
  return {
    writes := .transaction (.insert txn) :: (bacak.map (fun b => bakiyeEkle b.1 b.2)).toList
    cevap := fun _ => .islem o.db.transactions.freshKey txnType amount category
      (hesap.map (fun h => h.2.name)) ((bacak.map Prod.snd).getD 0) }

def odendiYaz (id : ℕ) (paidDate : Date) (settlementAccountId : Option ℕ) : Write :=
  .debt (.update id (fun d => { d with
    paidDate := some paidDate
    isPaid := true
    settlementAccountId := settlementAccountId }))

def executeMarkDebtPaid (o : Ortam) (payload : Payload) : Except Durak Islem := do
  let debtId := payload.get .debtId
  stopIf (.red "debt_id gerekli.") debtId.isNone
  let bulunan ← within .hata (findById o.db.debts o.userId (o.kapsam none) debtId)
  let no := debtId.text
  let borc ← require (.red s!"Borc kaydi bulunamadi: id={no}") bulunan
  stopIf (.red "Bu borc zaten odenmiş olarak isaretli.") borc.2.isPaid
  let tarih ← tarihOku o.bugun (payload.get .paidDate)
  let paidDate ← require (.hata .typeError) tarih
  let odenen := { borc.2 with paidDate := some paidDate, isPaid := true }
  let sonuc := senkronizeNakit o.db o.userId odenen (.oku borc.2) (o.kapsam none)
  return {
    writes := odendiYaz borc.1 paidDate sonuc.settlementAccountId :: sonuc.writes
    cevap := fun _ => .borc borc.1 odenen.counterparty odenen.amount odenen.direction
      paidDate.isoformat sonuc.cashEffect sonuc.cashAccount }

/-- The account a card payment is drawn from: the named one, else the default cash account. -/
def odemeKaynagi (o : Ortam) (srcId : PyValue) : Except Durak (Option (ℕ × Account)) :=
  if srcId.isNone then .ok (varsayilanNakitHesap o.db o.userId (o.kapsam none)) else o.hesap srcId

def executePayCreditCard (o : Ortam) (payload : Payload) : Except Durak Islem := do
  let cardId := (payload.get .cardAccountId).orElse (payload.get .accountId)
  let tutar := payload.get .amount
  stopIf (.red "card_account_id ve amount gerekli.") (cardId.isNone ∨ tutar.isNone)
  let okunan ← within .hata (paraD tutar)
  stopIf (.red "Ödeme tutarı pozitif olmalı.") okunan.nonpos
  let bulunan ← o.hesap cardId
  let no := cardId.text
  let card ← require (.red s!"Kredi kartı hesabı bulunamadı: id={no}")
    (bulunan.filter (fun h => h.2.accountType = .creditCard))
  let kaynak ← odemeKaynagi o (payload.get .sourceAccountId)
  let source ← require (.red "Ödemenin çekileceği nakit hesap bulunamadı.") kaynak
  -- the balance columns hold finite amounts only
  let amount ← require (.hata .databaseError) okunan.finite?
  let odeme := formatPara amount 2
  let borc := formatPara card.2.balance 2
  let warn :=
    if card.2.balance < amount then
      some s!"Ödeme ({odeme}) kart borcundan ({borc}) fazla — fazlası kart alacak bakiyesi olur."
    else none
  return {
    writes := [bakiyeEkle card.1 (-amount), bakiyeEkle source.1 (-amount)]
    cevap := fun db => .kart card.2.name source.2.name amount (bakiyeOku db card.1)
      (bakiyeOku db source.1) warn }

/-- The realised price: the reported one, else the stored one. -/
def satisFiyati (current : ℚ) (actualPrice : PyValue) : Except Durak (Option ℚ) :=
  if actualPrice.isNone then .ok (some current) else parseFinite actualPrice

def satisYaz (id : ℕ) (sim : SatisSimulasyonu) (actualPrice : ℚ) : Write :=
  .account (.update id (fun a => { a with
    lotCount := some sim.kalanLot
    balance := sim.kalanDeger
    currentPrice := some actualPrice }))

def executeSellInvestment (o : Ortam) (payload : Payload) : Except Durak Islem := do
  let invId := payload.get .investmentId
  let lotsToSell := payload.get .lotsToSell
  stopIf (.red "investment_id ve lots_to_sell gerekli.") (invId.isNone ∨ lotsToSell.isNone)
  let bulunan ← o.hesap invId
  let no := invId.text
  let inv ← require (.red s!"Yatirim bulunamadi: id={no}") bulunan
  let ad := inv.2.name
  stopIf (.red s!"'{ad}' yatirim hesabi degil.") (inv.2.accountType ≠ .investment)
  stopIf (.red s!"'{ad}' emanet hesap (MC1 - Master Checkpoint #1). Hicbir senaryoda satilamaz. Bu aksiyon REDDEDILDI.")
    inv.2.isEmanet
  let okunan ← parseFinite lotsToSell
  let lots ← require (.red "lots_to_sell sonlu bir sayı olmalı.") okunan
  stopIf (.red "lots_to_sell sifirdan buyuk olmali.") (lots ≤ 0)
  let mevcut := match inv.2.lotCount with
    | some lot => NumberText.render lot
    | none => "None"
  let istenen := NumberText.render lots
  stopIf (.red s!"Yetersiz lot. Mevcut: {mevcut}, satilmak istenen: {istenen}")
    (inv.2.lotCount.getD 0 < lots)
  let eksik := "cost_per_lot veya current_price eksik — satis simulasyonu yapilamaz."
  let cost ← require (.red eksik) inv.2.costPerLot
  let current ← require (.red eksik) inv.2.currentPrice
  let fiyat ← satisFiyati current (payload.get .actualPrice)
  let actualPrice ← require (.red "actual_price sonlu bir sayı olmalı.") fiyat
  let sim ← within .hata (simulatePartialSale (inv.2.lotCount.getD 0) cost actualPrice lots)
  let creditId := payload.get .creditToAccountId
  stopIf (.red "Satış geliri için hedef nakit hesap (credit_to_account_id) belirtilmeli — aksi halde para kaybolur. Satış yapılmadı.")
    (creditId.truthy = false)
  let hedef ← o.hesap creditId
  let hedefNo := creditId.text
  let credit ← require (.red s!"Nakit aktarılacak hesap bulunamadı: id={hedefNo}. Satış yapılmadı.") hedef
  let hedefAd := credit.2.name
  stopIf (.red s!"'{hedefAd}' emanet hesap — satış parası buraya yatırılamaz. Satış yapılmadı.")
    credit.2.isEmanet
  return {
    writes := [satisYaz inv.1 sim actualPrice, bakiyeEkle credit.1 sim.netElineGecen]
    cevap := fun db => .satis inv.1 ad sim sim.kalanLot (bakiyeOku db inv.1) credit.1 hedefAd
      (bakiyeOku db credit.1) }

def fiyatYaz (id : ℕ) (newPrice newValue : ℚ) : Write :=
  .account (.update id (fun a => { a with
    currentPrice := some newPrice
    balance := newValue }))

/-- `update_fund_price_manual`: the account is looked up by its owner, not in the active scope. -/
def updateFundPriceManual (db : Db) (accountId : PyValue) (newPrice : ℚ) (userId : ℕ) :
    Except Durak Islem := do
  let bulunan ← within .hata (findById db.accounts userId none accountId)
  let no := accountId.text
  let hesap ← require (.red s!"Hesap bulunamadi: id={no}") bulunan
  let ad := hesap.2.name
  stopIf (.red s!"'{ad}' yatirim hesabi degil — fiyat guncellenemez.")
    (hesap.2.accountType ≠ .investment)
  stopIf (.red "Fiyat sifirdan buyuk olmali.") (newPrice ≤ 0)
  let lotCount := hesap.2.lotCount.getD 0
  let oldValue := roundEven (hesap.2.currentPrice.getD 0 * lotCount) 2
  let newValue := roundEven (newPrice * lotCount) 2
  let eskiFiyat := sabitNokta (hesap.2.currentPrice.getD 0) 4
  let yeniFiyat := formatPara newPrice 4
  let eskiDeger := sabitNokta oldValue 2
  let yeniDeger := formatPara newValue 2
  return {
    writes := [fiyatYaz hesap.1 newPrice newValue]
    cevap := fun _ => .fiyat hesap.1 ad hesap.2.currentPrice newPrice lotCount oldValue newValue
      (roundEven (newValue - oldValue) 2)
      s!"{ad}: {eskiFiyat} -> {yeniFiyat} (deger: {eskiDeger} -> {yeniDeger})" }

def executeUpdateFundPrice (o : Ortam) (payload : Payload) : Except Durak Islem := do
  let accountId := payload.get .accountId
  let newPrice := payload.get .newPrice
  stopIf (.red "account_id ve new_price gerekli.") (accountId.isNone ∨ newPrice.isNone)
  let okunan ← parseFinite newPrice
  let np ← require (.red "new_price sonlu bir sayı olmalı.") okunan
  updateFundPriceManual o.db accountId np o.userId

def kuralTipi : PyValue → Option CheckpointType
  | .str s => CheckpointType.ofValue? s
  | _ => none

def executeAddMasterCheckpoint (o : Ortam) (payload : Payload) : Except Durak Islem := do
  let title := payload.get .title
  let desc := payload.get .description
  let cpType := payload.get .checkpointType
  stopIf (.red "title, description, checkpoint_type gerekli.")
    (title.truthy = false ∨ desc.truthy = false ∨ cpType.truthy = false)
  let verilen := cpType.text
  let checkpointType ← require
    (.red s!"Gecersiz checkpoint_type: {verilen}. red_line|strategy|rule|context olabilir.") (kuralTipi cpType)
  let priority ← within .hata (payload.getD .priority (.int 2)).toInt
  let baslik ← sutunMetni title
  let aciklama ← sutunMetni desc
  return {
    writes := [.checkpoint (.insert {
      userId := o.userId
      workspaceId := o.kapsam none
      title := baslik.getD ""
      description := aciklama.getD ""
      checkpointType := checkpointType
      priority := priority
      isActive := true
      ruleType := none
      ruleParams := none })]
    cevap := fun _ => .kirmiziCizgi o.db.checkpoints.freshKey (baslik.getD "") checkpointType priority }

/-- The dispatch table; an unregistered name has no handler. -/
def actionHandlers : ActionType → Option (Ortam → Payload → Except Durak Islem)
  | .updateAccountBalance => some executeUpdateAccountBalance
  | .addTransaction => some executeAddTransaction
  | .markDebtPaid => some executeMarkDebtPaid
  | .payCreditCard => some executePayCreditCard
  | .sellInvestment => some executeSellInvestment
  | .updateFundPrice => some executeUpdateFundPrice
  | .addMasterCheckpoint => some executeAddMasterCheckpoint
  | .unknown _ => none

end FinancialOs.Executor
