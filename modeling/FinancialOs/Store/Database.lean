import FinancialOs.Library.KeyedTable
import FinancialOs.Store.Butunluk

/-! The database and its unit of work: a request collects row writes and one
commit checks and publishes them together, or raises and publishes none. -/
namespace FinancialOs.Store
open Library

structure Db where
  users : Table User
  workspaces : Table Workspace
  memberships : Table WorkspaceMembership
  accounts : Table Account
  transactions : Table Transaction
  debts : Table PersonalDebt
  checkpoints : Table MasterCheckpoint
  pendingActions : Table PendingAction
  incomes : Table Recurring
  expenses : Table Recurring

def Db.empty : Db :=
  ⟨.empty, .empty, .empty, .empty, .empty, .empty, .empty, .empty, .empty, .empty⟩

inductive Write where
  | workspace (c : Table.Change Workspace)
  | membership (c : Table.Change WorkspaceMembership)
  | account (c : Table.Change Account)
  | transaction (c : Table.Change Transaction)
  | debt (c : Table.Change PersonalDebt)
  | checkpoint (c : Table.Change MasterCheckpoint)
  | pendingAction (c : Table.Change PendingAction)
  | income (c : Table.Change Recurring)
  | expense (c : Table.Change Recurring)

def Db.write (db : Db) : Write → Db
  | .workspace c => { db with workspaces := db.workspaces.change c }
  | .membership c => { db with memberships := db.memberships.change c }
  | .account c => { db with accounts := db.accounts.change c }
  | .transaction c => { db with transactions := db.transactions.change c }
  | .debt c => { db with debts := db.debts.change c }
  | .checkpoint c => { db with checkpoints := db.checkpoints.change c }
  | .pendingAction c => { db with pendingActions := db.pendingActions.change c }
  | .income c => { db with incomes := db.incomes.change c }
  | .expense c => { db with expenses := db.expenses.change c }

def Db.writeAll (db : Db) (ws : List Write) : Db := ws.foldl Db.write db

/-- Check the row a change leaves behind; a deleted row is not checked. -/
def checkChange {α : Type} (t : Table α) (check : Option ℕ → α → Except PyError Unit) :
    Table.Change α → Except PyError Unit
  | .insert a => check none a
  | .update k _ => match t.get? k with
    | some a => check (some k) a
    | none => .ok ()
  | .delete _ => .ok ()

/-- The foreign key of a transaction to its account. -/
def hesapVar (db : Db) (_ : Option ℕ) (t : Transaction) : Except PyError Unit :=
  match t.accountId with
  | none => .ok ()
  | some a => if (db.accounts.get? a).isSome then .ok () else .error .databaseError

/-- `_flush_oncesi` on one written row, with the foreign key that the row itself carries. -/
def flushOncesi (db : Db) : Write → Except PyError Unit
  | .account c => checkChange db.accounts denetleHesap c
  | .transaction c => checkChange db.transactions (hesapVar db) c
  | .debt c => checkChange db.debts denetleBorc c
  | .income c => checkChange db.incomes (denetleDuzenli "recurring_incomes") c
  | .expense c => checkChange db.expenses (denetleDuzenli "recurring_expenses") c
  | _ => .ok ()

def checkAll (check : Write → Except PyError Unit) : List Write → Except PyError Unit
  | [] => .ok ()
  | w :: ws => match check w with
    | .ok () => checkAll check ws
    | .error e => .error e

/-- Flush and commit: every written row is checked in its final form. -/
def commit (db : Db) (ws : List Write) : Except PyError Db :=
  match checkAll (flushOncesi (db.writeAll ws)) ws with
  | .ok () => .ok (db.writeAll ws)
  | .error e => .error e

private theorem checkAll_ok {check : Write → Except PyError Unit} {ws : List Write} :
    checkAll check ws = .ok () ↔ ∀ w ∈ ws, check w = .ok () := by
  induction ws with
  | nil => simp [checkAll]
  | cons w ws ih =>
    rw [checkAll]
    cases h : check w with
    | error e => simp [h]
    | ok u => simp [h, ih]

/-- A commit publishes exactly the collected writes. -/
theorem commit_ok {db db' : Db} {ws : List Write} :
    commit db ws = .ok db' ↔
      db' = db.writeAll ws ∧ ∀ w ∈ ws, flushOncesi (db.writeAll ws) w = .ok () := by
  unfold commit
  cases h : checkAll (flushOncesi (db.writeAll ws)) ws with
  | ok u =>
    constructor
    · intro he
      cases he
      exact ⟨rfl, checkAll_ok.mp h⟩
    · rintro ⟨rfl, _⟩
      rfl
  | error e =>
    simp only [reduceCtorEq, false_iff, not_and]
    intro _ hw
    rw [checkAll_ok.mpr hw] at h
    cases h

@[simp] theorem writeAll_nil (db : Db) : db.writeAll [] = db := rfl

@[simp] theorem writeAll_cons (db : Db) (w : Write) (ws : List Write) :
    db.writeAll (w :: ws) = (db.write w).writeAll ws := rfl

theorem writeAll_append (db : Db) (ws vs : List Write) :
    db.writeAll (ws ++ vs) = (db.writeAll ws).writeAll vs := by
  simp [Db.writeAll, List.foldl_append]

end FinancialOs.Store
