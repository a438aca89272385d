import FinancialOs.Library.CheckedSteps
import FinancialOs.Rules.MoneyFormat
import FinancialOs.Store.Scope
import Mathlib.Data.List.Sort

/-! The user's own rules: red lines kept as data and evaluated before an
approved action is carried out. A rule sees the payload, not the handler. -/
namespace FinancialOs.Rules
open Library Store

/-- `payload.get(key)`; decoded JSON need not be an object. -/
def alan (payload : Option Payload) (key : PayloadKey) : Except PyError PyValue :=
  match payload with
  | some p => .ok (p.get key)
  | none => .error .attributeError

/-- `payload.get(key, 0)`. -/
def alanYaSifir (payload : Option Payload) (key : PayloadKey) : Except PyError PyValue :=
  match payload with
  | some p => .ok (p.getD key (.int 0))
  | none => .error .attributeError

/-- `D(x)` where the result is compared or signed, which `None` is not. -/
def paraD : PyValue → Except PyError PyFloat
  | .none => .error .typeError
  | v => v.toDecimal

def paraMetni : PyFloat → String
  | .finite q => formatPara q 2
  | .infinite negative => if negative then "-inf TL" else "inf TL"
  | .nan => "nan TL"

def nakitToplami (db : Db) (userId : ℕ) (workspaceId : Option ℕ) : ℚ :=
  db.accounts.total
    (fun a => if scopeFilter userId workspaceId a ∧ a.accountType = .cash then a.balance else 0)

/-- The cash an action is taken to spend. -/
def harcamaTutari (actionType : ActionType) (payload : Option Payload) : Except PyError PyFloat :=
  let tutar := do
    let deger ← alanYaSifir payload .amount
    let d ← paraD deger
    return d.abs
  match actionType with
  | .addTransaction => do
    let tip ← alan payload .transactionType
    if tip ≠ .str "expense" then return .finite 0
    else
      let kart ← alan payload .isCardExpense
      if kart.truthy then return .finite 0 else tutar
  | .markDebtPaid => tutar
  | .unknown name =>
    if name = "pay_debt" ∨ name = "pay_card" ∨ name = "pay_loan_installment" then tutar
    else .ok (.finite 0)
  | _ => .ok (.finite 0)

/-- The first of the four account names that holds an integer. -/
def etkilenenHesapId (payload : Option Payload) : Except PyError (Option ℤ) :=
  match payload with
  | some p => .ok (([.accountId, .targetAccountId, .creditAccountId, .fromAccountId] : List PayloadKey).findSome?
      (fun key => (p.get key).asInstanceInt))
  | none => .error .attributeError

def minCashFloor (db : Db) (userId : ℕ) (workspaceId : Option ℕ) (actionType : ActionType)
    (payload params : Option Payload) : Except PyError (Option String) := do
  let deger ← alanYaSifir params .amount
  let taban ← paraD deger
  let tabanVar ← PyFloat.lt (.finite 0) taban
  if !tabanVar then return none
  else
    let cikis ← harcamaTutari actionType payload
    let cikisVar ← PyFloat.lt (.finite 0) cikis
    if !cikisVar then return none
    else
      let sonra := cikis.subFrom (nakitToplami db userId workspaceId)
      let altinda ← PyFloat.lt sonra taban
      if altinda then
        let kalan := paraMetni sonra
        let sinir := paraMetni taban
        return some s!"bu işlem sonrası nakit {kalan} olurdu; kendi belirlediğin taban {sinir}"
      else return none

def accountUntouchable (db : Db) (userId : ℕ) (workspaceId : Option ℕ) (_ : ActionType)
    (payload params : Option Payload) : Except PyError (Option String) := do
  let korunan ← alan params .accountId
  match korunan.asInstanceInt with
  | none => return none
  | some id =>
    let etkilenen ← etkilenenHesapId payload
    if etkilenen = some id then
      let hesap ← findById db.accounts userId workspaceId korunan
      let ad := match hesap with
        | some (_, a) => a.name
        | none => "#" ++ korunan.text
      return some s!"'{ad}' hesabını dokunulmaz olarak işaretlemiştin"
    else return none

def maxSingleExpense (_ : Db) (_ : ℕ) (_ : Option ℕ) (actionType : ActionType)
    (payload params : Option Payload) : Except PyError (Option String) := do
  let deger ← alanYaSifir params .amount
  let tavan ← paraD deger
  let tavanVar ← PyFloat.lt (.finite 0) tavan
  if !tavanVar ∨ actionType ≠ .addTransaction then return none
  else
    let tip ← alan payload .transactionType
    if tip ≠ .str "expense" then return none
    else
      let verilen ← alanYaSifir payload .amount
      let tutar ← paraD verilen
      let asti ← PyFloat.lt tavan tutar.abs
      if asti then
        let harcama := paraMetni tutar.abs
        let sinir := paraMetni tavan
        return some s!"{harcama} tek seferlik harcama, kendi koyduğun {sinir} sınırının üstünde"
      else return none

/-- What one rule says about an action; unknown types and broken parameters are skipped. -/
def degerlendir (db : Db) (userId : ℕ) (workspaceId : Option ℕ) (actionType : ActionType)
    (payload : Option Payload) (kural : MasterCheckpoint) : Except PyError (Option String) :=
  let degerlendirici := match kural.ruleType with
    | some .minCashFloor => some minCashFloor
    | some .accountUntouchable => some accountUntouchable
    | some .maxSingleExpense => some maxSingleExpense
    | _ => none
  match degerlendirici with
  | none => .ok none
  | some f => match kural.ruleParams with
    | none => f db userId workspaceId actionType payload (some [])
    | some .broken => .ok none
    | some (.object params) => f db userId workspaceId actionType payload (some params)
    | some .otherValue => f db userId workspaceId actionType payload none

structure RuleViolation where
  checkpointTitle : String
  aciklama : String

def RuleViolation.text (ihlal : RuleViolation) : String :=
  let title := ihlal.checkpointTitle
  let aciklama := ihlal.aciklama
  s!"'{title}' kuralın engelledi: {aciklama}"

/-- Active structured rules of the scope, by priority and then by id. -/
def aktifKurallar (db : Db) (userId : ℕ) (workspaceId : Option ℕ) : List (ℕ × MasterCheckpoint) :=
  (db.checkpoints.select
    (fun c => scopeFilter userId workspaceId c ∧ c.isActive ∧ c.ruleType.isSome)).insertionSort
    (fun r s => r.2.priority < s.2.priority ∨ r.2.priority = s.2.priority ∧ r.1 ≤ s.1)

def ilkIhlal (f : MasterCheckpoint → Except PyError (Option String)) :
    List (ℕ × MasterCheckpoint) → Except PyError (Option RuleViolation)
  | [] => .ok none
  | (_, kural) :: kurallar => match f kural with
    | .ok none => ilkIhlal f kurallar
    | .ok (some aciklama) => .ok (some ⟨kural.title, aciklama⟩)
    | .error e => .error e

def enforceUserRules (db : Db) (userId : ℕ) (actionType : ActionType) (payload : Option Payload)
    (workspaceId : Option ℕ) : Except PyError (Option RuleViolation) :=
  ilkIhlal (degerlendir db userId workspaceId actionType payload) (aktifKurallar db userId workspaceId)

private theorem ilkIhlal_none {f : MasterCheckpoint → Except PyError (Option String)}
    {kurallar : List (ℕ × MasterCheckpoint)} :
    ilkIhlal f kurallar = .ok none ↔ ∀ r ∈ kurallar, f r.2 = .ok none := by
  induction kurallar with
  | nil => simp [ilkIhlal]
  | cons r kurallar ih =>
    obtain ⟨id, kural⟩ := r
    rw [ilkIhlal]
    rcases h : f kural with e | _ | aciklama
    · simp [h]
    · simp [h, ih]
    · simp [h]

/-- The gate lets an action pass exactly when every active rule of the scope has no objection. -/
theorem enforceUserRules_pass {db : Db} {userId : ℕ} {actionType : ActionType}
    {payload : Option Payload} {workspaceId : Option ℕ} :
    enforceUserRules db userId actionType payload workspaceId = .ok none ↔
      ∀ id kural, db.checkpoints.get? id = some kural → scopeFilter userId workspaceId kural = true →
        kural.isActive = true → kural.ruleType.isSome = true →
        degerlendir db userId workspaceId actionType payload kural = .ok none := by
  rw [enforceUserRules, ilkIhlal_none]
  constructor
  · intro h id kural hk hs ha ht
    apply h (id, kural)
    rw [aktifKurallar, List.mem_insertionSort, Table.mem_select]
    simp only [hs, ha, ht, and_self, decide_true]
    exact ⟨hk, trivial⟩
  · rintro h ⟨id, kural⟩ hr
    rw [aktifKurallar, List.mem_insertionSort, Table.mem_select] at hr
    obtain ⟨hk, hp⟩ := hr
    simp only [decide_eq_true_eq] at hp
    exact h id kural hk hp.1 hp.2.1 hp.2.2

end FinancialOs.Rules
