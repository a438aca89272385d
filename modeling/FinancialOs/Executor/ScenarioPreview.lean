import FinancialOs.Executor.PendingActions
import FinancialOs.Guarantees.InstalmentDates
import FinancialOs.Rules.PayloadContract

/-! The preview of a proposed action: what it does to a copy of the books, and how the copy stands at each horizon
beside the books that were left alone. -/
namespace FinancialOs.Executor
open Library Store Rules Guarantees

def borcKopyasi (d : PersonalDebt) : DebtSnap :=
  ⟨d.direction, d.amount, d.dueDate.map Date.monthDay, d.paidDate.map Date.monthDay⟩

/-- `_load_world`: the rows in the scope, read once. -/
def loadWorld (db : Db) (ek : ℕ → HesapEki) (faiz : ℕ → Option ℚ) (userId : ℕ) (workspaceId : Option ℕ) (asOf : Date) :
    WorldSnap where
  asOf := asOf.monthDay
  accounts := db.accounts.view (scopeFilter userId workspaceId) fun k a => hesapKopyasi a (ek k) (faiz k)
  incomes := (kapsamSatirlari db.incomes userId workspaceId).map fun r =>
    ⟨r.2.amount, max 1 r.2.dayOfMonth, r.2.isActive, le_max_left _ _⟩
  debts := db.debts.view (scopeFilter userId workspaceId) fun _ d => borcKopyasi d

/-- The names that the copy carries beside the figures. -/
structure Adlar where
  hesap : ℕ → String
  kisi : ℕ → String

def Adlar.oku (db : Db) : Adlar where
  hesap := fun k => ((db.accounts.get? k).map Account.name).getD ""
  kisi := fun k => ((db.debts.get? k).map PersonalDebt.counterparty).getD ""

/-- Where a preview stops: with an answer, or at a float that is no number and would go into the copy. -/
inductive OnizlemeDurak where
  | red (mesaj : String)
  | sayiDegil
  deriving DecidableEq

/-- `row.id == value`. -/
def kimlikEsit (v : PyValue) (k : ℕ) : Bool :=
  match v with
  | .bool b => (if b then 1 else 0) = k
  | .int n => n = k
  | .float (.finite q) => q = k
  | _ => false

def hesapBul (w : WorldSnap) (v : PyValue) : Option (ℕ × AccountSnap) := w.accounts.rows.find? (kimlikEsit v ·.1)

/-- `_find_default_cash_account`. -/
def varsayilanNakit (w : WorldSnap) : Option (ℕ × AccountSnap) :=
  w.accounts.first? fun a => a.accountType = .cash ∧ a.isEmanet = false

/-- `payload[key]`. -/
def payloadDegeri (p : Payload) (k : PayloadKey) : Except OnizlemeDurak PyValue :=
  let ad := alanAdi k
  require (.red s!"Payload eksik alan: '{ad}'") (p.lookup k)

/-- `float(value)`; what it raises is caught and shown. -/
def floatOku (v : PyValue) : Except OnizlemeDurak PyFloat :=
  match v.toFloat with
  | .ok x => .ok x
  | .error e => .error (.red ("Aksiyon hatasi: " ++ hataMetni e))

def sonluOku (x : PyFloat) : Except OnizlemeDurak ℚ := require .sayiDegil x.finite?

/-- `x > q`; NaN compares false. -/
def asiyor : PyFloat → ℚ → Bool
  | .finite p, q => q < p
  | .infinite negative, _ => !negative
  | .nan, _ => false

/-- An account whose shares were sold. -/
def satisSonrasi (lots price : ℚ) (a : AccountSnap) : AccountSnap :=
  { a with
    lotCount := some (a.lotCount.getD 0 - lots)
    currentPrice := some price
    balance := (a.lotCount.getD 0 - lots) * price }

/-- The proceeds of a sale behind the tax on its profit. -/
def netGelir (lots price cost : ℚ) : ℚ := lots * price - max 0 (lots * price - lots * cost) * stopajOrani

/-- The price of a previewed sale: the given one, else the stored one. -/
def onizlemeFiyati (p : Payload) (inv : AccountSnap) : Except OnizlemeDurak PyFloat :=
  let verilen := p.get .actualPrice
  if verilen.isNone then .ok (.finite (inv.currentPrice.getD 0)) else floatOku verilen

def onizleSatis (adlar : Adlar) (w : WorldSnap) (p : Payload) : Except OnizlemeDurak WorldSnap := do
  let invId ← payloadDegeri p .investmentId
  let no := invId.text
  let inv ← require (.red s!"Yatirim hesabi bulunamadi (id={no})") (hesapBul w invId)
  let ad := adlar.hesap inv.1
  stopIf (.red s!"Emanet hesabi (MC1) — satis YASAK: {ad}") inv.2.isEmanet
  let lotsHam ← payloadDegeri p .lotsToSell
  let lots ← floatOku lotsHam
  let istenen := (PyValue.float lots).text
  let mevcut := match inv.2.lotCount with
    | some lot => NumberText.render lot
    | none => "None"
  stopIf (.red s!"Gecersiz lot sayisi: {istenen} (mevcut {mevcut})")
    (lots.nonpos ∨ asiyor lots (inv.2.lotCount.getD 0))
  let price ← onizlemeFiyati p inv.2
  stopIf (.red s!"Gecerli satis fiyati yok (actual_price veya current_price gerekli): {ad}") price.nonpos
  let hedefId := p.get .creditToAccountId
  let hedef ← require (.red "Nakit hesabi bulunamadi")
    (if hedefId.truthy then hesapBul w hedefId else varsayilanNakit w)
  let hedefAd := adlar.hesap hedef.1
  stopIf (.red s!"Satis geliri emanet hesaba (MC1) yatirilamaz: {hedefAd}") hedef.2.isEmanet
  let lots ← sonluOku lots
  let price ← sonluOku price
  return (w.hesapGuncelle inv.1 (satisSonrasi lots price)).hesapGuncelle hedef.1 fun a =>
    { a with balance := a.balance + netGelir lots price (inv.2.costPerLot.getD 0) }

def onizleIslem (adlar : Adlar) (w : WorldSnap) (p : Payload) : Except OnizlemeDurak WorldSnap := do
  let ttype := p.getD .transactionType (.str "expense")
  let tutar ← payloadDegeri p .amount
  let amount ← floatOku tutar
  let accountId := p.get .accountId
  let target ← require (.red "Hedef hesap bulunamadi")
    (if accountId.truthy then hesapBul w accountId else varsayilanNakit w)
  let ad := adlar.hesap target.1
  stopIf (.red s!"'{ad}' emanet hesap (MC1). Islem eklenemez.") (accountId.truthy ∧ target.2.isEmanet)
  let tur := ttype.text
  let txnType ← require (.red s!"Bilinmeyen islem tipi: {tur}") (islemTipi ttype)
  let amount ← sonluOku amount
  return (
    if (p.get .autoUpdateBalance).truthy ∧ accountId.truthy then
      w.hesapGuncelle target.1 fun a => { a with balance := a.balance + kocDelta a.accountType txnType amount }
    else w)

def onizleBakiye (adlar : Adlar) (w : WorldSnap) (p : Payload) : Except OnizlemeDurak WorldSnap := do
  let accountId ← payloadDegeri p .accountId
  let no := accountId.text
  let target ← require (.red s!"Hesap bulunamadi: {no}") (hesapBul w accountId)
  let ad := adlar.hesap target.1
  stopIf (.red s!"'{ad}' emanet hesap (MC1). Bakiye degistirilemez.") target.2.isEmanet
  let bakiye ← payloadDegeri p .newBalance
  let okunan ← floatOku bakiye
  let nb ← sonluOku okunan
  return w.hesapGuncelle target.1 fun a => { a with balance := nb }

/-- A debt is paid out of the default cash account, or into it. -/
def odemeSonrasi (w : WorldSnap) (id : ℕ) (d : DebtSnap) : WorldSnap :=
  let w := w.nakitEkle (if d.direction = .receivable then d.amount else -d.amount)
  { w with debts := w.debts.modify id fun d => { d with paidDate := some w.asOf } }

def onizleBorc (adlar : Adlar) (w : WorldSnap) (p : Payload) : Except OnizlemeDurak WorldSnap := do
  let debtId ← payloadDegeri p .debtId
  let no := debtId.text
  let d ← require (.red s!"Borc/alacak bulunamadi: {no}") (w.debts.rows.find? (kimlikEsit debtId ·.1))
  let kisi := adlar.kisi d.1
  stopIf (.red s!"Borc/alacak zaten odenmis: {kisi}") d.2.paidDate.isSome
  return odemeSonrasi w d.1 d.2

def onizleFiyat (w : WorldSnap) (p : Payload) : Except OnizlemeDurak WorldSnap := do
  let accountId ← payloadDegeri p .accountId
  let target ← require (.red "Hesap bulunamadi") (hesapBul w accountId)
  let verilen ← payloadDegeri p .newPrice
  let okunan ← floatOku verilen
  let price ← sonluOku okunan
  return w.hesapGuncelle target.1 fun a => { a with currentPrice := some price, balance := a.lotCount.getD 0 * price }

/-- `_apply_action`, apart from its event log. -/
def applyAction (adlar : Adlar) (w : WorldSnap) (t : ActionType) (p : Payload) : Except OnizlemeDurak WorldSnap :=
  match t with
  | .sellInvestment => onizleSatis adlar w p
  | .addTransaction => onizleIslem adlar w p
  | .updateAccountBalance => onizleBakiye adlar w p
  | .markDebtPaid => onizleBorc adlar w p
  | .updateFundPrice => onizleFiyat w p
  | t => .error (.red ("Simulasyon su aksiyon tipini destekemiyor: " ++ actionTypeText t))

/-- An account in a snapshot. -/
structure HesapSatiri where
  id : ℕ
  ad : String
  tip : AccountType
  bakiye : ℚ
  isEmanet : Bool
  lot : Option ℚ
  fiyat : Option ℚ
  kalanTaksit : Option ℤ
  deriving DecidableEq

structure Snapshot where
  label : String
  asOf : MonthDay
  nakitKasa : ℚ
  kartBorcu : ℚ
  krediBorcu : ℚ
  yatirimDeger : ℚ
  emanetKasa : ℚ
  netDeger : ℚ
  accounts : List HesapSatiri

def hesapSatiriYap (adlar : Adlar) (k : ℕ) (a : AccountSnap) : HesapSatiri :=
  ⟨k, adlar.hesap k, a.accountType, roundEven a.balance 2, a.isEmanet, a.lotCount, a.currentPrice,
    a.remainingInstallments⟩

/-- The investments in custody. -/
def emanetValue (w : WorldSnap) : ℚ := w.toplam fun a => a.accountType = .investment ∧ a.isEmanet = true

/-- `_snapshot_to_dict`. -/
def snapshotToDict (adlar : Adlar) (w : WorldSnap) (label : String) : Snapshot where
  label := label
  asOf := w.asOf
  nakitKasa := roundEven w.cashTotal 2
  kartBorcu := roundEven w.cardDebtTotal 2
  krediBorcu := roundEven w.loanDebtTotal 2
  yatirimDeger := roundEven w.investmentValue 2
  emanetKasa := roundEven (emanetValue w) 2
  netDeger := roundEven w.netWorth 2
  accounts := w.accounts.rows.map fun r => hesapSatiriYap adlar r.1 r.2

/-- `delta_vs_baseline`. -/
structure SnapshotFarki where
  nakitKasa : ℚ
  kartBorcu : ℚ
  krediBorcu : ℚ
  yatirimDeger : ℚ
  emanetKasa : ℚ
  netDeger : ℚ
  deriving DecidableEq

/-- `_delta`. -/
def snapshotFarki (before after : Snapshot) : SnapshotFarki where
  nakitKasa := roundEven (after.nakitKasa - before.nakitKasa) 2
  kartBorcu := roundEven (after.kartBorcu - before.kartBorcu) 2
  krediBorcu := roundEven (after.krediBorcu - before.krediBorcu) 2
  yatirimDeger := roundEven (after.yatirimDeger - before.yatirimDeger) 2
  emanetKasa := roundEven (after.emanetKasa - before.emanetKasa) 2
  netDeger := roundEven (after.netDeger - before.netDeger) 2

/-- `comparison`, the figures of the thirtieth day. -/
structure Karsilastirma where
  netWorthChange : ℚ
  cashChange : ℚ
  cardDebtChange : ℚ
  loanDebtChange : ℚ
  investmentChange : ℚ

structure SimulasyonSonucu where
  ok : Bool
  message : String
  baseline : Snapshot
  snapshots : List (Snapshot × SnapshotFarki)
  comparison : Option Karsilastirma

/-- A world some days on; no days leave it alone. -/
def ufkaSar (w : WorldSnap) (h : ℕ) : WorldSnap := if 0 < h then projectForward w h else w

/-- The horizons behind the first day, each projected from the one before. -/
def ufukDongusu (adlar : Adlar) (taban : WorldSnap) : List ℕ → ℕ → WorldSnap → List (Snapshot × SnapshotFarki)
  | [], _, _ => []
  | h :: hs, lastDay, w =>
    let w := projectForward w (h - lastDay)
    let snap := snapshotToDict adlar w s!"T+{h}"
    let baseSnap := snapshotToDict adlar (ufkaSar taban h) s!"BASELINE T+{h}"
    (snap, snapshotFarki baseSnap snap) :: ufukDongusu adlar taban hs h w

/-- `sorted(set(horizons_days))`. -/
def siraliUfuklar (horizons : List ℕ) : List ℕ := horizons.dedup.mergeSort

/-- `simulate_action` on a loaded world, apart from its event log; nothing where the copy has a figure that is
no number. -/
def simulateAction (adlar : Adlar) (taban : WorldSnap) (t : ActionType) (p : Payload) (horizons : List ℕ) :
    Option SimulasyonSonucu :=
  let maxHorizon := horizons.foldr max 0
  let baseline := snapshotToDict adlar (ufkaSar taban maxHorizon) s!"BASELINE T+{maxHorizon}"
  match applyAction adlar taban t p with
  | .error .sayiDegil => none
  | .error (.red mesaj) => some ⟨false, mesaj, baseline, [], none⟩
  | .ok w =>
    let sirali := siraliUfuklar horizons
    let snap0 := snapshotToDict adlar w "T+0"
    let ilk := if 0 ∈ sirali then [(snap0, snapshotFarki (snapshotToDict adlar taban "BASELINE T+0") snap0)] else []
    let snapshots := ilk ++ ufukDongusu adlar taban (sirali.filter (· ≠ 0)) 0 w
    let comparison := (snapshots.find? fun s => s.1.label = "T+30").map fun s =>
      ⟨s.2.netDeger, s.2.nakitKasa, s.2.kartBorcu, s.2.krediBorcu, s.2.yatirimDeger⟩
    some ⟨true, "Simulasyon tamamlandi.", baseline, snapshots, comparison⟩

end FinancialOs.Executor
