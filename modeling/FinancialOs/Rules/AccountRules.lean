import FinancialOs.Store.Rows
import FinancialOs.Store.Scope

/-! Default account selection: the first non-custodial account of a type in the scope; and the sign
convention: what a transaction does to the balance of an account. -/
namespace FinancialOs.Rules
open Library Store

def varsayilanHesap (db : Db) (userId : ℕ) (workspaceId : Option ℕ) (tip : AccountType) :
    Option (ℕ × Account) :=
  db.accounts.first? (fun a => scopeFilter userId workspaceId a ∧ a.accountType = tip ∧ ¬ a.isEmanet)

def varsayilanNakitHesap (db : Db) (userId : ℕ) (workspaceId : Option ℕ) : Option (ℕ × Account) :=
  varsayilanHesap db userId workspaceId .cash

theorem varsayilanHesap_spec {db : Db} {userId : ℕ} {workspaceId : Option ℕ} {tip : AccountType}
    {id : ℕ} {a : Account} (h : varsayilanHesap db userId workspaceId tip = some (id, a)) :
    db.accounts.get? id = some a ∧ scopeFilter userId workspaceId a = true ∧
      a.accountType = tip ∧ a.isEmanet = false := by
  obtain ⟨ha, hp⟩ := Table.first?_spec h
  simp only [decide_eq_true_eq, Bool.not_eq_true] at hp
  exact ⟨ha, hp⟩

def balanceDelta (accountType : AccountType) (txnType : TransactionType) (amount : ℚ) : ℚ :=
  match accountType with
  | .cash => match txnType with
    | .income => amount
    | .expense => -amount
    | .transfer => 0
  | .creditCard => match txnType with
    | .expense => amount
    | .income => -amount
    | .transfer => 0
  | .loan => match txnType with
    | .expense => -amount
    | _ => 0
  | .investment => 0

/-- Account and transaction types on which a transaction moves no balance. -/
def Hareketsiz (accountType : AccountType) (txnType : TransactionType) : Prop :=
  accountType = .investment ∨ txnType = .transfer ∨ accountType = .loan ∧ txnType = .income

theorem balanceDelta_eq_zero_iff (accountType : AccountType) (txnType : TransactionType)
    {amount : ℚ} (h : amount ≠ 0) :
    balanceDelta accountType txnType amount = 0 ↔ Hareketsiz accountType txnType := by
  cases accountType <;> cases txnType <;> simp [balanceDelta, Hareketsiz, h]

end FinancialOs.Rules
