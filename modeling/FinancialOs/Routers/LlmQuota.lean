import FinancialOs.Library.Interleaving
import FinancialOs.Store.ApiCalls

/-! The quota of a user's calls. A reservation writes its row first, then counts the rows up to its own,
and takes the row back when the ceiling is passed. -/
namespace FinancialOs.Routers
open Library Store

/-- One call of `rezerve_et`: what it books, the instants of its insert and of its count, and how far
above the last key the driver puts the row. -/
structure Rezervasyon where
  userId : ℕ
  provider : String
  model : String
  amac : String
  an : ℤ
  sayimAni : ℤ
  bosluk : ℕ

def rezervasyonSatiri (r : Rezervasyon) : ApiCallLog where
  userId := r.userId
  provider := saglayiciAdi r.provider
  model := r.model
  status := .failed
  tokensIn := none
  tokensOut := none
  estCostUsd := none
  amac := some r.amac
  toolCallsCount := 0
  durationMs := none
  errorMessage := none
  calledAt := r.an

/-- The user's rows of the day up to a key. -/
def rezervasyonSirasi (rows : Table ApiCallLog) (userId : ℕ) (baslangic : ℤ) (id : ℕ) : ℕ :=
  rows.count fun k r => bugunku userId baslangic r ∧ k ≤ id

inductive RezervasyonKonumu where
  | basla
  | sayacak (id : ℕ)
  | silecek (id : ℕ)
  | bitti (sonuc : Option ℕ)
  deriving DecidableEq

/-- `rezerve_et`, a database step at a time; nothing stands for the refusal. A ceiling of 0 is off. -/
def rezerveEt (tavan : ℕ) (r : Rezervasyon) (rows : Table ApiCallLog) :
    RezervasyonKonumu → Table ApiCallLog × RezervasyonKonumu
  | .basla => (rows.pushAbove r.bosluk (rezervasyonSatiri r), .sayacak (rows.freshKey + r.bosluk))
  | .sayacak id =>
    (rows, if tavan ≠ 0 ∧ tavan < rezervasyonSirasi rows r.userId (gunBaslangici r.sayimAni) id then .silecek id
      else .bitti (some id))
  | .silecek id => (rows.erase id, .bitti none)
  | .bitti sonuc => (rows, .bitti sonuc)

/-- The call where nobody else is at work. -/
def rezerveEtTek (tavan : ℕ) (r : Rezervasyon) (rows : Table ApiCallLog) : Table ApiCallLog × RezervasyonKonumu :=
  (fun p => rezerveEt tavan r p.1 p.2)^[3] (rows, .basla)

section Specs
variable {tavan : ℕ} {r : Rezervasyon} {rows : Table ApiCallLog} {userId : ℕ} {baslangic : ℤ}

theorem bugunku_rezervasyonSatiri (h : baslangic ≤ r.an) : bugunku r.userId baslangic (rezervasyonSatiri r) = true :=
  decide_eq_true ⟨rfl, h⟩

/-- A later row does not move an earlier one. -/
theorem rezervasyonSirasi_pushAbove {id gap : ℕ} {a : ApiCallLog} (h : id < rows.freshKey) :
    rezervasyonSirasi (rows.pushAbove gap a) userId baslangic id = rezervasyonSirasi rows userId baslangic id := by
  rw [rezervasyonSirasi, Table.count_pushAbove, if_neg, Nat.add_zero]
  · rfl
  · rw [decide_eq_true_iff]
    rintro ⟨-, hle⟩
    omega

/-- The newest row is the last in the order. -/
theorem rezervasyonSirasi_self (h : gunBaslangici r.sayimAni ≤ r.an) :
    rezervasyonSirasi (rows.pushAbove r.bosluk (rezervasyonSatiri r)) r.userId (gunBaslangici r.sayimAni)
      (rows.freshKey + r.bosluk) = bugunkuCagriSayisi rows r.userId r.sayimAni + 1 := by
  rw [rezervasyonSirasi, Table.count_pushAbove, if_pos]
  · refine congrArg (· + 1) (Table.count_congr fun k a ha => ?_)
    have hlt := Table.lt_freshKey ha
    simp only [decide_eq_true_eq, Bool.decide_and, Bool.decide_eq_true, Bool.and_eq_left_iff_imp]
    omega
  · exact decide_eq_true ⟨bugunku_rezervasyonSatiri h, le_rfl⟩

/-- Alone, a call is granted exactly below the ceiling, and a refused one leaves no row. -/
theorem rezerveEtTek_eq (h : gunBaslangici r.sayimAni ≤ r.an) :
    rezerveEtTek tavan r rows =
      if tavan = 0 ∨ bugunkuCagriSayisi rows r.userId r.sayimAni < tavan then
        (rows.pushAbove r.bosluk (rezervasyonSatiri r), .bitti (some (rows.freshKey + r.bosluk)))
      else (rows, .bitti none) := by
  simp only [rezerveEtTek, Function.iterate_succ_apply, Function.iterate_zero, id_eq, rezerveEt]
  rw [rezervasyonSirasi_self h]
  by_cases hizin : tavan = 0 ∨ bugunkuCagriSayisi rows r.userId r.sayimAni < tavan
  · rw [if_pos hizin, if_neg (by omega)]
  · rw [if_neg hizin, if_pos (by omega)]
    simp only [Table.erase_pushAbove]

end Specs

end FinancialOs.Routers
