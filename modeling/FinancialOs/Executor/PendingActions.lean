import FinancialOs.Executor.Handlers

/-! Carrying out an approved action: the atomic claim, the rule gate, the handler
with its own commit, and the status written after it. An exception may be raised
at any point behind the claim. -/
namespace FinancialOs.Executor
open Library Store Rules

/-- Exceptions injected behind the claim, by the point where they are raised. -/
structure Ariza where
  handlerOnce : Option PyError
  handlerSonra : Option PyError
  durum : Option PyError
  tetik : Option PyError
  sonYazim : Option PyError
  yanit : Option PyError

def Ariza.yok : Ariza := ⟨none, none, none, none, none, none⟩

/-- The answer of the executor, or the exception that leaves it. -/
inductive Yanit where
  | bulunamadi (error : String)
  | zaten (error : String)
  | basarisiz (error : String) (checkpointTitle : Option String)
  | basarili (cevap : Cevap)
  | reddedildi (actionId : ℕ)
  | firlatti (e : PyError)
  deriving DecidableEq

/-- `success: False`. -/
def Yanit.olumsuz : Yanit → Bool
  | .bulunamadi _ => true
  | .zaten _ => true
  | .basarisiz _ _ => true
  | _ => false

def actionTypeText : ActionType → String
  | .updateAccountBalance => "update_account_balance"
  | .addTransaction => "add_transaction"
  | .markDebtPaid => "mark_debt_paid"
  | .payCreditCard => "pay_credit_card"
  | .sellInvestment => "sell_investment"
  | .updateFundPrice => "update_fund_price"
  | .addMasterCheckpoint => "add_master_checkpoint"
  | .unknown name => name

/-- `str(e)`; the interpreter's own exceptions are shown by their kind. -/
def hataMetni : PyError → String
  | .typeError => "TypeError"
  | .valueError => "ValueError"
  | .overflowError => "OverflowError"
  | .invalidOperation => "InvalidOperation"
  | .attributeError => "AttributeError"
  | .databaseError => "DatabaseError"
  | .raised message => message

/-- The user's own pending action under an id, whatever its workspace. -/
def kendiAksiyonu (db : Db) (actionId userId : ℕ) : Option PendingAction :=
  (db.pendingActions.get? actionId).filter (fun p => p.userId = userId)

def durumYaz (actionId : ℕ) (status : ActionStatus) : Write :=
  .pendingAction (.update actionId (fun p => { p with status := status }))

/-- The conditional update `pending → approved` and its commit, if it matches a row. -/
def sahiplen (db : Db) (actionId : ℕ) : Option Db :=
  match db.pendingActions.get? actionId with
  | some p => if p.status = .pending then some (db.write (durumYaz actionId .approved)) else none
  | none => none

def markFailed (db : Db) (actionId : ℕ) (error : String) : Db :=
  db.write (.pendingAction (.update actionId
    (fun p => { p with status := .failed, errorMessage := some error })))

/-- The month a recurring source is marked with. -/
def tetikAyi (bugun : Date) (payload : Payload) : String :=
  let ay := toString bugun.month
  let yerel := toString bugun.year ++ "-" ++ (if bugun.month < 10 then "0" else "") ++ ay
  match payload.get .transactionDate with
  | .str td => if 7 ≤ td.length then String.ofList (td.toList.take 7) else yerel
  | _ => yerel

/-- The recurring source of a proposal, looked up by its owner. -/
def kaynakKaydi (t : Table Recurring) (id userId : ℕ) : Option Recurring :=
  (t.get? id).filter (fun r => r.userId = userId)

def markRecurringTriggered (db : Db) (bugun : Date) (pending : PendingAction) (payload : Payload) :
    List Write :=
  match pending.sourceRecurringId with
  | none => []
  | some id =>
    let isaretle (r : Recurring) : Recurring :=
      { r with lastTriggeredYearMonth := some (tetikAyi bugun payload) }
    match pending.sourceRecurringType with
    | some .income =>
      if (kaynakKaydi db.incomes id pending.userId).isSome then [.income (.update id isaretle)] else []
    | some .expense =>
      if (kaynakKaydi db.expenses id pending.userId).isSome then [.expense (.update id isaretle)] else []
    | _ => []

/-- What stands between the claim and the handler: decoding, dispatch and the rule gate. -/
inductive Kapi where
  | dur (sebep error : String) (checkpointTitle : Option String)
  | firlat (e : PyError)
  | gec (handler : Ortam → Payload → Except Durak Islem) (payload : Option Payload)

/-- `json.loads`: nothing for malformed text; decoded JSON need not be an object. -/
def jsonCoz : JsonText → Option (Option Payload)
  | .broken => none
  | .object p => some (some p)
  | .otherValue => some none

def kuralKapisi (db : Db) (userId : ℕ) (pending : PendingAction) (payload : Option Payload) : Kapi :=
  let tur := actionTypeText pending.actionType
  match actionHandlers pending.actionType with
  | none => .dur s!"Bilinmeyen aksiyon: {tur}" s!"Handler yok: {tur}" none
  | some handler =>
    match enforceUserRules db userId pending.actionType payload pending.workspaceId with
    | .error e => .firlat e
    | .ok (some ihlal) => .dur ihlal.text ihlal.text (some ihlal.checkpointTitle)
    | .ok none => .gec handler payload

def kapi (db : Db) (userId : ℕ) (pending : PendingAction) : Kapi :=
  match jsonCoz pending.payload with
  | none => .dur "Payload parse hatasi: JSONDecodeError" "JSONDecodeError" none
  | some payload => kuralKapisi db userId pending payload

/-- How a handler call ends, with the database it leaves behind. -/
inductive HandlerSonu where
  | red (message : String)
  | hata (e : PyError) (db : Db)
  | tamam (cevap : Cevap) (db : Db)

def Ortam.cagir (o : Ortam) (handler : Ortam → Payload → Except Durak Islem)
    (payload : Option Payload) : Except Durak Islem :=
  match payload with
  | some p => handler o p
  | none => .error (.hata .attributeError)

/-- One handler call: its checks, its own commit and the answer built after the commit. -/
def calistir (ariza : Ariza) (o : Ortam) (handler : Ortam → Payload → Except Durak Islem)
    (payload : Option Payload) : HandlerSonu :=
  match ariza.handlerOnce with
  | some e => .hata e o.db
  | none => match o.cagir handler payload with
    | .error (.red m) => .red m
    | .error (.hata e) => .hata e o.db
    | .ok islem => match commit o.db islem.writes with
      | .error e => .hata e o.db
      | .ok db => match ariza.handlerSonra with
        | some e => .hata e db
        | none => .tamam (islem.cevap db) db

/-- The status write behind a successful handler: `executed` and the recurring mark in one commit. -/
def sonuclandir (ariza : Ariza) (bugun : Date) (db : Db) (actionId : ℕ) (pending : PendingAction)
    (payload : Option Payload) : Except PyError Db :=
  match ariza.durum with
  | some e => .error e
  | none => match ariza.tetik with
    | some e => .error e
    | none => match ariza.sonYazim with
      | some e => .error e
      | none => commit db (durumYaz actionId .executed ::
          markRecurringTriggered db bugun pending (payload.getD []))

/-- The catch-all: roll back, mark failed, answer without success. -/
def beklenmeyen (db : Db) (actionId : ℕ) (e : PyError) : Yanit × Db :=
  let metin := hataMetni e
  (.basarisiz metin none, markFailed db actionId s!"Beklenmeyen hata: {metin}")

/-- Everything `execute_pending_action` does once it owns the row. -/
def uygula (ariza : Ariza) (bugun : Date) (db : Db) (actionId userId : ℕ) (pending : PendingAction) :
    Yanit × Db :=
  match kapi db userId pending with
  | .dur sebep error baslik => (.basarisiz error baslik, markFailed db actionId sebep)
  | .firlat e => (.firlatti e, db)
  | .gec handler payload =>
    match calistir ariza ⟨db, pending.workspaceId, userId, bugun⟩ handler payload with
    | .red m => (.basarisiz m none, markFailed db actionId m)
    | .hata e db' => beklenmeyen db' actionId e
    | .tamam cevap db' => match sonuclandir ariza bugun db' actionId pending payload with
      | .error e => beklenmeyen db' actionId e
      | .ok db'' => match ariza.yanit with
        | some e => beklenmeyen db'' actionId e
        | none => (.basarili cevap, db'')

def executePendingAction (ariza : Ariza) (bugun : ℕ → Date) (db : Db) (actionId userId : ℕ) :
    Yanit × Db :=
  match kendiAksiyonu db actionId userId with
  | none => (.bulunamadi s!"Aksiyon bulunamadi: id={actionId}", db)
  | some pending =>
    let durum := pending.status.value
    if pending.status ≠ .pending then
      (.zaten s!"Aksiyon zaten '{durum}' durumunda — tekrar uygulanamaz.", db)
    else match sahiplen db actionId with
      | none => (.zaten "Aksiyon eş zamanlı başka bir istekte işlendi.", db)
      | some db' => uygula ariza (bugun userId) db' actionId userId pending

def rejectPendingAction (db : Db) (actionId userId : ℕ) (reason : Option String) : Yanit × Db :=
  match kendiAksiyonu db actionId userId with
  | none => (.bulunamadi "Aksiyon bulunamadi.", db)
  | some pending =>
    let durum := pending.status.value
    if pending.status ≠ .pending then (.zaten s!"Aksiyon zaten '{durum}'.", db)
    else (.reddedildi actionId, db.write (.pendingAction (.update actionId (fun p => { p with
      status := .rejected
      errorMessage := (reason.filter (· ≠ "")).orElse (fun _ => p.errorMessage) }))))

end FinancialOs.Executor
