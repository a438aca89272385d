import FinancialOs.Library.RowCounts
import Mathlib.Data.Rat.Defs

/-! The ledger of the calls to the language models. Instants count microseconds of UTC. -/
namespace FinancialOs.Store
open Library

inductive ApiCallStatus where
  | success | failed
  deriving DecidableEq

structure ApiCallLog where
  userId : ℕ
  provider : String
  model : String
  status : ApiCallStatus
  tokensIn : Option ℤ
  tokensOut : Option ℤ
  estCostUsd : Option ℚ
  amac : Option String
  toolCallsCount : ℕ
  durationMs : Option ℤ
  errorMessage : Option String
  calledAt : ℤ
  deriving DecidableEq

/-- A day in microseconds. -/
def gunUzunlugu : ℤ := 86400000000

/-- `_gun_baslangici`: the midnight before an instant. -/
def gunBaslangici (simdi : ℤ) : ℤ := simdi / gunUzunlugu * gunUzunlugu

theorem gunBaslangici_le (simdi : ℤ) : gunBaslangici simdi ≤ simdi :=
  Int.ediv_mul_le simdi (by decide)

/-- A call of the user on the day that begins there, or after it. -/
def bugunku (userId : ℕ) (baslangic : ℤ) (r : ApiCallLog) : Bool := r.userId = userId ∧ baslangic ≤ r.calledAt

/-- `bugunku_cagri_sayisi`. -/
def bugunkuCagriSayisi (rows : Table ApiCallLog) (userId : ℕ) (simdi : ℤ) : ℕ :=
  rows.count fun _ r => bugunku userId (gunBaslangici simdi) r

/-- A provider is booked under its lower-case name. -/
def saglayiciAdi (provider : String) : String := if provider = "" then "?" else provider.toLower

/-- `paylasilan_cagri_sayisi`: the calls of all users. -/
def paylasilanCagriSayisi (rows : Table ApiCallLog) (provider : String) (simdi : ℤ) : ℕ :=
  rows.count fun _ r => r.provider = saglayiciAdi provider ∧ gunBaslangici simdi ≤ r.calledAt

end FinancialOs.Store
