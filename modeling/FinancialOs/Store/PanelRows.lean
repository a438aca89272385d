import FinancialOs.Store.Scope

/-! What the panel reads beside the ledger: further columns of an account, and the envelopes. -/
namespace FinancialOs.Store
open Library

/-- The columns of an account that no action reads or writes. -/
structure HesapEki where
  monthlyPayment : Option ℚ
  remainingInstallments : Option ℤ
  nextPaymentDate : Option Date
  fundCode : Option String
  deriving DecidableEq

structure Envelope where
  userId : ℕ
  workspaceId : Option ℕ
  category : String
  monthlyAmount : ℚ
  isActive : Bool
  deriving DecidableEq

instance : Scoped Envelope := ⟨fun e => e.userId, fun e => e.workspaceId⟩

structure PanelDb where
  db : Db
  hesapEki : ℕ → HesapEki
  envelopes : Table Envelope

/-- The rows of a table in the scope of a request. -/
def kapsamSatirlari {α : Type} [Scoped α] (t : Table α) (userId : ℕ) (workspaceId : Option ℕ) : List (ℕ × α) :=
  t.select (scopeFilter userId workspaceId)

/-- The recurring records in the scope that are active. -/
def etkinKayitlar (t : Table Recurring) (userId : ℕ) (workspaceId : Option ℕ) : List (ℕ × Recurring) :=
  t.select (fun r => scopeFilter userId workspaceId r ∧ r.isActive)

/-- The accounts of a type in the scope. -/
def turHesaplari (db : Db) (userId : ℕ) (workspaceId : Option ℕ) (tip : AccountType) : List (ℕ × Account) :=
  db.accounts.select (fun a => scopeFilter userId workspaceId a ∧ a.accountType = tip)

/-- The loans and the credit cards in the scope. -/
def borcHesaplari (db : Db) (userId : ℕ) (workspaceId : Option ℕ) : List (ℕ × Account) :=
  db.accounts.select
    (fun a => scopeFilter userId workspaceId a ∧ (a.accountType = .loan ∨ a.accountType = .creditCard))

theorem mem_etkinKayitlar {t : Table Recurring} {userId k : ℕ} {workspaceId : Option ℕ} {r : Recurring} :
    (k, r) ∈ etkinKayitlar t userId workspaceId ↔
      t.get? k = some r ∧ scopeFilter userId workspaceId r = true ∧ r.isActive = true := by
  simp [etkinKayitlar, Table.mem_select]

theorem mem_turHesaplari {db : Db} {userId k : ℕ} {workspaceId : Option ℕ} {tip : AccountType} {a : Account} :
    (k, a) ∈ turHesaplari db userId workspaceId tip ↔
      db.accounts.get? k = some a ∧ scopeFilter userId workspaceId a = true ∧ a.accountType = tip := by
  simp [turHesaplari, Table.mem_select]

end FinancialOs.Store
