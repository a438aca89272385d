import FinancialOs.Routers.Actions
import FinancialOs.Rules.AccountRules
import FinancialOs.Rules.MoneyFormat
import FinancialOs.Rules.PayloadContract
import FinancialOs.Rules.QuickEntry

/-! Where proposals come from and how they change before they are decided: the coach proposes, a
recurring record that is due proposes, and their owner edits. -/
namespace FinancialOs.Routers
open Library Store Rules Executor

/-- What the proposals take from outside: the validator's conversions, the patterns that look for an
account or a date in a text, and the categories a user pays by card. -/
structure TeklifKurallari where
  cevirim : Cevirim
  hesapAnar : Db → ℕ → String → Bool
  tarihSoyler : String → Bool
  kartVarsayilani : ℕ → Option ℕ → String → Bool

/-- `_cat_normalize` on whatever stands in the payload. -/
def catNormalize (v : PyValue) : Except PyError String :=
  match v with
  | .str s => .ok (trNormalize s)
  | v => if v.truthy then .error .attributeError else .ok ""

/-- The account a payload names, in the scope of the proposal. -/
def secilenHesap (db : Db) (userId : ℕ) (wsId : Option ℕ) (v : PyValue) :
    Except PyError (Option (ℕ × Account)) :=
  if v.isNone then .ok none else findById db.accounts userId wsId v

/-- The category and the card a transaction is rerouted to, if it is. -/
def kartaYonlenir (k : TeklifKurallari) (db : Db) (aktif : Option ℕ) (userId : ℕ) (p : Payload) :
    Except PyError (Option (String × ℕ)) := do
  let kategori ← catNormalize (p.getD .category (.str ""))
  let wsId := yazmaWorkspaceId db aktif userId none
  if k.kartVarsayilani userId wsId kategori = false then .ok none
  else
    let secilen ← secilenHesap db userId wsId (p.get .accountId)
    -- an account that was named and is not a card stands
    if secilen.any (fun h => h.2.accountType ≠ .creditCard) then .ok none
    else .ok ((varsayilanHesap db userId wsId .creditCard).map fun card => (kategori, card.1))

/-- `_normalize_transaction_payload`. -/
def normalizeTransactionPayload (k : TeklifKurallari) (db : Db) (aktif : Option ℕ) (userId : ℕ)
    (p : Payload) : Except PyError Payload := do
  let yon ← kartaYonlenir k db aktif userId p
  return yon.elim p fun y => kartli y.1 y.2 p

/-- The checks of `propose_action` on the texts around a valid payload, and its normalisation. -/
def metinDenetimi (k : TeklifKurallari) (userMessage : String) : MetinDenetimi := fun db workspaceId o => do
  let celiski ← ozetPayloadCeliskisi o.actionType o.payload o.summary
  stopIf (.raised "OZET_PAYLOAD_CELISKISI") celiski.isSome
  if o.actionType ≠ .addTransaction then .ok o.payload
  else
    stopIf (.raised "HESAP_BELIRSIZ") (o.payload.get .transactionType = .str "expense" ∧ userMessage ≠ "" ∧
      k.hesapAnar db o.userId userMessage = false)
    stopIf (.raised "TARIH_BELIRSIZ") ((o.payload.get .transactionDate).truthy = false ∧
      k.tarihSoyler o.summary)
    normalizeTransactionPayload k db workspaceId o.userId o.payload

/-- `propose_action` on a payload that is still to be validated. -/
def oneriYaz (k : TeklifKurallari) (db : Db) (workspaceId : Option ℕ) (userMessage : String) (o : Oneri) :
    Except UcHatasi (List Write) := do
  let tur := actionTypeText o.actionType
  stopIf (.hata (.raised s!"Bilinmeyen aksiyon türü: {tur}")) (payloadSemalari o.actionType).isNone
  let payload ← within .hata (dogrula k.cevirim o.actionType o.payload)
  proposeAction (metinDenetimi k userMessage) db workspaceId { o with payload := payload }

/-- The user's own action that is still open to editing. -/
def duzenlenebilir (db : Db) (actionId userId : ℕ) : Option PendingAction :=
  (kendiAksiyonu db actionId userId).filter fun p => p.status = .pending

/-- What an edit stores in place of the payload. -/
def yeniPayload (k : TeklifKurallari) (db : Db) (userId : ℕ) (t : ActionType) (p : Payload) :
    Except PyError Payload :=
  if t = .addTransaction then normalizeTransactionPayload k db none userId p else .ok p

def duzenleYaz (actionId : ℕ) (p : Payload) (summary : String) : Write :=
  .pendingAction (.update actionId fun a => { a with payload := .object p, summary := summary })

/-- `edit_action`: neither the schema nor the summary's amount is looked at again. -/
def editAction (k : TeklifKurallari) (db : Db) (userId : ℕ) (xWorkspaceId : Option ℤ) (actionId : ℕ)
    (payload : Payload) (summary : String) : Except UcHatasi (List Write) := do
  requireWrite db userId xWorkspaceId
  let pending ← require (.http 404 "Aksiyon bulunamadi veya artik duzenlenemez.")
    (duzenlenebilir db actionId userId)
  match yeniPayload k db userId pending.actionType payload with
  | .error _ => throw (.http 400 "Aksiyon icerigi gecersiz.")
  | .ok p => return [duzenleYaz actionId p summary]

def duzenliler (db : Db) (kind : RecurringKind) : Table Recurring :=
  match kind with
  | .income => db.incomes
  | _ => db.expenses

/-- `f"{year}-{month:02d}"`. -/
def ayMetni (d : Date) : String :=
  toString d.year ++ "-" ++ (if d.month < 10 then "0" else "") ++ toString d.month

/-- The record is due on a day: its day of the month, or the last one of a shorter month. -/
def vadesiGeldi (bugun : Date) (r : Recurring) : Bool :=
  min r.dayOfMonth (daysInMonth bugun.year bugun.month) ≤ bugun.day

/-- The user has a proposal from the record that is still pending. -/
def bekleyenVar (db : Db) (userId : ℕ) (kind : RecurringKind) (id : ℕ) : Bool :=
  db.pendingActions.any fun p => p.userId = userId ∧ p.sourceRecurringId = some id ∧
    p.sourceRecurringType = some kind ∧ p.status = .pending

/-- The two checks against a second proposal in a month. -/
def tetiklenir (db : Db) (userId : ℕ) (kind : RecurringKind) (bugun : Date) (id : ℕ) (r : Recurring) :
    Bool :=
  vadesiGeldi bugun r ∧ r.lastTriggeredYearMonth ≠ some (ayMetni bugun) ∧ ¬ bekleyenVar db userId kind id

def ayAdi (month : ℕ) : String :=
  ["January", "February", "March", "April", "May", "June", "July", "August", "September", "October",
    "November", "December"].getD (month - 1) ""

/-- `name.lower().replace(" ", "_")`. -/
def kategoriAdi (name : String) : String :=
  String.ofList ((name.toList.flatMap kucukHarf).map fun c => if c = ' ' then '_' else c)

/-- The proposal for a record that is due: an income goes to the default cash account, an expense to
the account of the record, which may be open. -/
def duzenliOneri (kind : RecurringKind) (userId : ℕ) (kasa : Option ℕ) (bugun : Date) (r : Recurring) :
    Oneri :=
  let ay := ayAdi bugun.month
  let yil := toString bugun.year
  let tutar := formatPara r.amount 2
  let ortak : Payload := [(.amount, .float (.finite r.amount)),
    (.description, .str s!"{r.name} — {ay} {yil}"), (.transactionDate, .str bugun.isoformat)]
  match kind with
  | .income =>
    { userId := userId
      actionType := .addTransaction
      payload := (.accountId, (kasa.map fun id => PyValue.int id).getD .none) ::
        (.transactionType, .str "income") :: (.category, .str (kategoriAdi r.name)) :: ortak
      summary := s!"{r.name}: {tutar} geldi"
      kaynak := none }
  | _ =>
    { userId := userId
      actionType := .addTransaction
      payload := (.accountId, (r.accountId.map fun id => PyValue.int id).getD .none) ::
        (.transactionType, .str "expense") ::
        (.category, .str ((r.category.filter (· ≠ "")).getD (kategoriAdi r.name))) ::
        (.isCardExpense, .bool false) :: ortak
      summary := s!"{r.name}: {tutar} ödendi"
      kaynak := none }

/-- One record of `trigger-due`: its proposal, with the record as the source, or nothing. -/
def tetikleKayit (k : TeklifKurallari) (userId : ℕ) (kind : RecurringKind) (kasa : Option ℕ) (bugun : Date)
    (db : Db) (id : ℕ) : Db :=
  match (duzenliler db kind).get? id with
  | none => db
  | some r =>
    if tetiklenir db userId kind bugun id r then
      sonuc db (oneriYaz k db none "" { duzenliOneri kind userId kasa bugun r with kaynak := some (id, kind) })
    else db

/-- The active records in the scope of the request. -/
def aktifDuzenliler (db : Db) (userId : ℕ) (wsId : Option ℕ) (kind : RecurringKind) : List ℕ :=
  ((duzenliler db kind).select fun r => scopeFilter userId wsId r ∧ r.isActive).map Prod.fst

/-- `trigger_due_incomes` and `trigger_due_expenses`, one record after the other. -/
def triggerDue (k : TeklifKurallari) (production : Bool) (db : Db) (userId : ℕ) (xWorkspaceId : Option ℤ)
    (kind : RecurringKind) (bugun : Date) : Except UcHatasi Unit × Db :=
  match aksiyonKapisi production db userId xWorkspaceId with
  | .error e => (.error e, db)
  | .ok wsId =>
    let kasa := (varsayilanNakitHesap db userId wsId).map Prod.fst
    if kind = .income ∧ kasa.isNone then (.ok (), db)
    else (.ok (), (aktifDuzenliler db userId wsId kind).foldl (tetikleKayit k userId kind kasa bugun) db)

end FinancialOs.Routers
