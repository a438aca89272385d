import FinancialOs.Library.RowCounts
import Mathlib.Algebra.Order.Field.Rat

/-! The limit on the requests of a client to an endpoint: a window that slides with the clock, counted in the
memory of the process or in the database. Instants are seconds. -/
namespace FinancialOs.Routers
open Library

/-- A counted request. -/
structure RateLimitHit where
  bucketKey : String
  hitAt : ℚ
  deriving DecidableEq

/-- `_RATE`: the instants of a key, the oldest first. -/
abbrev Sayaclar := String → List ℚ

/-- `_limit_memory`: how many requests the window holds, this one among them. -/
def limitMemory (key : String) (maxR window : ℤ) (now : ℚ) (rate : Sayaclar) : ℤ × Sayaclar :=
  let q := (rate key).dropWhile fun t => window < now - t
  if maxR ≤ q.length then (maxR + 1, Function.update rate key q)
  else ((q ++ [now]).length, Function.update rate key (q ++ [now]))

/-- `_limit_db`: the request is written first and then counted; a database that fails is left for the memory. -/
def limitDb (ayakta : Bool) (key : String) (maxR window : ℤ) (simdi : ℚ) (s : Sayaclar × Table RateLimitHit) :
    ℤ × Sayaclar × Table RateLimitHit :=
  if ayakta then
    let esik := simdi - window
    let yazilan := (s.2.keep fun h => ¬ (h.bucketKey = key ∧ h.hitAt < esik)).push ⟨key, simdi⟩
    (yazilan.count fun _ h => h.bucketKey = key ∧ esik ≤ h.hitAt, s.1, yazilan)
  else
    let r := limitMemory key maxR window simdi s.1
    (r.1, r.2, s.2)

/-- What the headers of a response say. -/
structure SinirDurumu where
  limit : ℤ
  kalan : ℤ
  pencere : ℤ
  deriving DecidableEq

/-- `rate_limit`: a request above the limit is refused with 429. -/
def rateLimit (maxR window sayi : ℤ) : SinirDurumu × Bool := (⟨maxR, max 0 (maxR - sayi), window⟩, !(maxR < sayi))

/-- Which requests of a client a limiter lets through, one after another. -/
def kararlar {σ : Type} (sinir : ℚ → σ → ℤ × σ) (maxR window : ℤ) : σ → List ℚ → List Bool
  | _, [] => []
  | s, t :: zamanlar =>
    (rateLimit maxR window (sinir t s).1).2 :: kararlar sinir maxR window (sinir t s).2 zamanlar

/-- A request the limiter has answered. -/
structure Yanitlanan where
  bucketKey : String
  an : ℚ
  kabul : Bool
  deriving DecidableEq

/-- The requests of all clients as they come in, each held to the limit and the window of its own key. -/
def bellekGunlugu (limitFor : String → ℤ × ℤ) : Sayaclar → List (String × ℚ) → List Yanitlanan
  | _, [] => []
  | rate, (key, now) :: istekler =>
    let r := limitMemory key (limitFor key).1 (limitFor key).2 now rate
    ⟨key, now, (rateLimit (limitFor key).1 (limitFor key).2 r.1).2⟩ :: bellekGunlugu limitFor r.2 istekler

end FinancialOs.Routers
