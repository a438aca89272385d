import FinancialOs.Library.ReferentialSweeps
import FinancialOs.Library.RowCounts
import FinancialOs.Store.PersonalData

/-! Demo data: it is loaded on request, every row of it is marked by table and key, and it is removed again by
its marks. -/
namespace FinancialOs.Routers
open Library Store

/-- Who made a row. No function of the program reads this. -/
inductive Kaynak where
  | demo (userId : ℕ)
  | kullanici
  deriving DecidableEq

structure DemoSutunlari extends KisiSutunlari where
  kaynak : Kaynak
  deriving DecidableEq

structure DemoDataMarker where
  userId : ℕ
  tableName : Tablo
  rowId : ℕ
  deriving DecidableEq

/-- The rows as their keys see them, and the marks. -/
structure DemoDb where
  satirlar : Relations Tablo DemoSutunlari
  isaretler : Table DemoDataMarker

def DemoDb.empty : DemoDb := ⟨fun _ => .empty, .empty⟩

/-- `_SILME_SIRASI`. -/
def demoSilmeSirasi : List Tablo := [.transactions, .recurringIncomes, .goals, .masterCheckpoints, .accounts]

/-- `scope_filter`, whose workspace is the one that is active at the request. -/
def demoKapsami (userId : ℕ) (wsId : Option ℕ) (c : DemoSutunlari) : Bool :=
  match wsId with
  | some w => c.workspaceId = some w
  | none => c.userId = some userId

/-- A row under a key above those in use. -/
def satirEkle (s : DemoDb) (t : Tablo) (bosluk : ℕ) (r : KeyedRow DemoSutunlari) : DemoDb :=
  { s with satirlar := Function.update s.satirlar t ((s.satirlar t).pushAbove bosluk r) }

/-- `_isaretle`. -/
def isaretle (s : DemoDb) (userId : ℕ) (tablo : Tablo) (satirId : ℕ) : DemoDb :=
  { s with isaretler := s.isaretler.push ⟨userId, tablo, satirId⟩ }

/-- One row of the demo data with its mark. -/
def demoSatiri (userId : ℕ) (wsId : Option ℕ) (s : DemoDb) (satir : (Tablo × List (Option ℕ)) × ℕ) : DemoDb :=
  let t := satir.1.1
  isaretle (satirEkle s t satir.2 ⟨⟨⟨some userId, wsId⟩, .demo userId⟩, satir.1.2⟩) userId t
    ((s.satirlar t).freshKey + satir.2)

/-- The demo data: two accounts, an income, three expenses on the first account, a goal and a rule. -/
def demoSatirlari (kasa : ℕ) : List (Tablo × List (Option ℕ)) :=
  [(.accounts, []), (.accounts, []), (.recurringIncomes, []), (.transactions, [some kasa]),
    (.transactions, [some kasa]), (.transactions, [some kasa]), (.goals, []), (.masterCheckpoints, [])]

def kullaniciIsaretleri (s : DemoDb) (userId : ℕ) : List DemoDataMarker :=
  (s.isaretler.rows.map Prod.snd).filter fun m => m.userId = userId

/-- `demo_yukle`. The driver may leave gaps between the keys. -/
def demoYukle (s : DemoDb) (userId : ℕ) (wsId : Option ℕ) (bosluklar : List ℕ) : DemoDb :=
  if kullaniciIsaretleri s userId ≠ [] then s
  else
    let kasa := (s.satirlar .accounts).freshKey + bosluklar.headD 0
    ((demoSatirlari kasa).zipIdx.map fun x => (x.1, bosluklar.getD x.2 0)).foldl (demoSatiri userId wsId) s

/-- The keys the user's marks name in a table. -/
def isaretliIdler (s : DemoDb) (userId : ℕ) (t : Tablo) : List ℕ :=
  ((kullaniciIsaretleri s userId).filter fun m => m.tableName = t).map DemoDataMarker.rowId

/-- The row goes: its key is marked, and it lies in the scope of the request. -/
def silinecek (s : DemoDb) (userId : ℕ) (wsId : Option ℕ) (t : Tablo) (k : ℕ) (c : DemoSutunlari) : Bool :=
  k ∈ isaretliIdler s userId t ∧ demoKapsami userId wsId c

/-- `demo_kaldir`; nothing stands for a foreign key violation. -/
def demoKaldir (s : DemoDb) (userId : ℕ) (wsId : Option ℕ) : Option DemoDb :=
  if kullaniciIsaretleri s userId = [] then some s
  else
    (Relations.sweep Tablo.anahtarlar (fun t => isaretliIdler s userId t ≠ []) (silinecek s userId wsId) demoSilmeSirasi
      s.satirlar).map fun satirlar =>
        { satirlar := satirlar, isaretler := s.isaretler.keep fun m => m.userId ≠ userId }

/-- Every key that a row holds is in use. -/
def baglariGecerli (s : DemoDb) (t : Tablo) (refs : List (Option ℕ)) : Bool :=
  ((Tablo.anahtarlar t).zip refs).all fun c => c.2.all fun k => ((s.satirlar c.1.target).get? k).isSome

/-- What users do between and around a load and a removal. -/
inductive DemoIslemi where
  | yukle (userId : ℕ) (wsId : Option ℕ) (bosluklar : List ℕ)
  | kaldir (userId : ℕ) (wsId : Option ℕ)
  | olustur (t : Tablo) (sahip : KisiSutunlari) (refs : List (Option ℕ)) (bosluk : ℕ)
  | bagla (t : Tablo) (k : ℕ) (refs : List (Option ℕ))
  | sil (t : Tablo) (k : ℕ)

/-- A request that violates a foreign key leaves the database as it was. -/
def demoIslemi (s : DemoDb) : DemoIslemi → DemoDb
  | .yukle userId wsId bosluklar => demoYukle s userId wsId bosluklar
  | .kaldir userId wsId => (demoKaldir s userId wsId).getD s
  | .olustur t sahip refs bosluk =>
    if baglariGecerli s t refs then satirEkle s t bosluk ⟨⟨sahip, .kullanici⟩, refs⟩ else s
  | .bagla t k refs =>
    if baglariGecerli s t refs then
      { s with satirlar := Function.update s.satirlar t ((s.satirlar t).modify k fun r => { r with refs := refs }) }
    else s
  | .sil t k =>
    match Relations.delete Tablo.anahtarlar s.satirlar t fun j _ => j = k with
    | some satirlar => { s with satirlar := satirlar }
    | none => s

end FinancialOs.Routers
