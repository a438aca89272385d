import FinancialOs.Library.DecimalRounding
import FinancialOs.Store.Database

/-! The fixed-point money columns: what a commit leaves in a row is what its columns keep
of the values that were written. -/
namespace FinancialOs.Store
open Library

/-- A money column. Reading a value back and storing it again changes nothing, and amounts of
whole kuruş are kept as they are. -/
structure ParaSutunu where
  yaz : ℚ → ℚ
  kalir : ∀ q, yaz (yaz q) = yaz q
  kurus : ∀ q, yaz (roundEven q 2) = roundEven q 2

/-- Four decimals, as the columns declare them. -/
def dortHane : ParaSutunu :=
  ⟨fun q => roundEven q 4, fun q => roundEven_idem q 4, fun q => roundEven_of_le q (by omega)⟩

variable (s : ParaSutunu)

/-- The lot count is a float column and keeps every value. -/
def Account.sutunla (a : Account) : Account := { a with
  balance := s.yaz a.balance
  creditLimit := a.creditLimit.map s.yaz
  statementBalance := a.statementBalance.map s.yaz
  costPerLot := a.costPerLot.map s.yaz
  currentPrice := a.currentPrice.map s.yaz }

def Transaction.sutunla (t : Transaction) : Transaction := { t with amount := s.yaz t.amount }

def PersonalDebt.sutunla (d : PersonalDebt) : PersonalDebt := { d with amount := s.yaz d.amount }

def Db.sutunla (db : Db) : Db := { db with
  accounts := db.accounts.mapRows (Account.sutunla s)
  transactions := db.transactions.mapRows (Transaction.sutunla s)
  debts := db.debts.mapRows (PersonalDebt.sutunla s) }

variable {s}

theorem yaz_comp_yaz : s.yaz ∘ s.yaz = s.yaz := funext s.kalir

theorem sutunla_account (a : Account) : (a.sutunla s).sutunla s = a.sutunla s := by
  simp only [Account.sutunla, s.kalir, Option.map_map, yaz_comp_yaz]

/-- A commit reads back what it has stored. -/
theorem sutunla_sutunla (db : Db) : (db.sutunla s).sutunla s = db.sutunla s := by
  have ha : Account.sutunla s ∘ Account.sutunla s = Account.sutunla s := funext sutunla_account
  have ht : Transaction.sutunla s ∘ Transaction.sutunla s = Transaction.sutunla s := by
    funext t
    simp only [Function.comp, Transaction.sutunla, s.kalir]
  have hd : PersonalDebt.sutunla s ∘ PersonalDebt.sutunla s = PersonalDebt.sutunla s := by
    funext d
    simp only [Function.comp, PersonalDebt.sutunla, s.kalir]
  simp only [Db.sutunla, Table.mapRows_mapRows, ha, ht, hd]

/-- An account of a stored database is in the form that its columns keep. -/
theorem account_sutunda {db : Db} (h : db.sutunla s = db) {k : ℕ} {a : Account}
    (ha : db.accounts.get? k = some a) : a.sutunla s = a := by
  rw [← h, Db.sutunla, Table.get?_mapRows] at ha
  obtain ⟨b, _, rfl⟩ := Option.map_eq_some_iff.mp ha
  exact sutunla_account b

end FinancialOs.Store
