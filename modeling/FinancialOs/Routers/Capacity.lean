import FinancialOs.Library.PythonScalars
import FinancialOs.Library.RowCounts

/-! The ceilings on the slow paths of the application, and the semaphores that hold requests to them. A request
takes the semaphore of its path, waits for a slot or is refused, and gives the slot back when its block ends. -/
namespace FinancialOs.Routers
open Library

/-- The names of `_VARSAYILAN_TAVAN`. -/
inductive YavasYol where
  | llm | disServis | eposta
  deriving DecidableEq, Repr

/-- The environment of the process, and the dialect of its database. -/
structure KapasiteOrtami where
  getenv : String → Option String
  isPostgres : Bool

/-- `_int_env`: a text that is no number is passed over. -/
def intEnv (o : KapasiteOrtami) (ad : String) (varsayilan : ℤ) : ℤ :=
  match o.getenv ad with
  | none => varsayilan
  | some ham => if NumberText.strip ham.toList = [] then varsayilan else (NumberText.readInt ham).getD varsayilan

/-- `_VARSAYILAN_TAVAN`. -/
def varsayilanTavan : YavasYol → String × ℤ
  | .llm => ("LLM_MAX_CONCURRENCY", 3)
  | .disServis => ("DIS_SERVIS_MAX_CONCURRENCY", 3)
  | .eposta => ("EPOSTA_MAX_CONCURRENCY", 2)

def yavasYollar : List YavasYol := [.llm, .disServis, .eposta]

def tavan (o : KapasiteOrtami) (ad : YavasYol) : ℤ := max 1 (intEnv o (varsayilanTavan ad).1 (varsayilanTavan ad).2)

def minHizliSlot (o : KapasiteOrtami) : ℤ := max 0 (intEnv o "MIN_HIZLI_SLOT" 6)

/-- `db_havuz_kapasitesi`: SQLite has no pool to speak of. -/
def dbHavuzKapasitesi (o : KapasiteOrtami) : Option ℤ :=
  if o.isPostgres then some (intEnv o "DB_POOL_SIZE" 5 + intEnv o "DB_MAX_OVERFLOW" 10) else none

def threadpoolTokens (o : KapasiteOrtami) : Option ℤ :=
  match o.getenv "THREADPOOL_TOKENS" with
  | none => dbHavuzKapasitesi o
  | some acik =>
    if NumberText.strip acik.toList = [] then dbHavuzKapasitesi o else some (max 1 (intEnv o "THREADPOOL_TOKENS" 40))

/-- `ihlaller`: what is wrong with the configuration, as the operator reads it. -/
def ihlaller (o : KapasiteOrtami) : List String :=
  match dbHavuzKapasitesi o with
  | none => []
  | some kapasite =>
    let yavasToplam := (yavasYollar.map (tavan o)).sum
    let rezerv := minHizliSlot o
    let yollar :=
      if kapasite < yavasToplam + rezerv then
        [s!"yavaş yol tavanları ({yavasToplam}) + hızlı-yol rezervi ({rezerv}) > DB havuz kapasitesi ({kapasite}): " ++
          "yük altında hızlı uçlar da havuz bekleyip 500 döner. LLM_MAX_CONCURRENCY/DIS_SERVIS_MAX_CONCURRENCY düşür " ++
          "ya da DB_POOL_SIZE/DB_MAX_OVERFLOW artır."]
      else []
    match threadpoolTokens o with
    | none => yollar
    | some tokens =>
      if kapasite < tokens then
        yollar ++
          [s!"iş parçacığı havuzu ({tokens}) > DB havuz kapasitesi ({kapasite}): eşzamanlı istek sayısı bağlantı " ++
            "sayısını aşar → QueuePool zaman aşımı (500). THREADPOOL_TOKENS düşür ya da DB havuzunu büyüt."]
      else yollar

/-- A bounded semaphore: its slots, and those that are free. -/
structure Semafor where
  tavan : ℤ
  deger : ℤ
  deriving DecidableEq

/-- Where a request stands: it holds the semaphore it was given, whichever is the current one by then. -/
inductive Yer where
  | bekliyor (ad : YavasYol) (sem : ℕ)
  | iceride (ad : YavasYol) (sem : ℕ)
  | kapasiteDolu (ad : YavasYol) (tavan : ℤ)
  | bitti
  deriving DecidableEq

/-- The process: `_semaforlar` with `_semafor_tavani`, every semaphore that was ever made, and the requests. -/
structure YavasYolDurumu where
  ortam : KapasiteOrtami
  semaforlar : Table Semafor
  guncel : YavasYol → Option (ℕ × ℤ)
  istekler : Table Yer
  /-- Releases beyond the slots of a semaphore, each of them a `ValueError`. -/
  tasma : ℕ

def YavasYolDurumu.ilk (o : KapasiteOrtami) : YavasYolDurumu := ⟨o, .empty, fun _ => none, .empty, 0⟩

/-- `_semafor`: a ceiling that has changed makes a new semaphore. -/
def semafor (d : YavasYolDurumu) (ad : YavasYol) : ℕ × YavasYolDurumu :=
  let t := tavan d.ortam ad
  let kurulan := (d.semaforlar.freshKey,
    { d with
      semaforlar := d.semaforlar.push ⟨t, t⟩
      guncel := Function.update d.guncel ad (some (d.semaforlar.freshKey, t)) })
  match d.guncel ad with
  | none => kurulan
  | some (sem, kurulu) => if kurulu = t then (sem, d) else kurulan

/-- What happens to a request of a slow path, or to the environment. -/
inductive YavasYolOlayi where
  | ortam (o : KapasiteOrtami)
  | gel (ad : YavasYol)
  | al (istek : ℕ)
  | reddet (istek : ℕ)
  | bitir (istek : ℕ)

/-- `sem.acquire`, when it comes back with a slot. -/
def slotAl (d : YavasYolDurumu) (istek : ℕ) : YavasYolDurumu :=
  match d.istekler.get? istek with
  | some (.bekliyor ad sem) =>
    match d.semaforlar.get? sem with
    | some s =>
      if 0 < s.deger then
        { d with
          semaforlar := d.semaforlar.modify sem fun s => { s with deger := s.deger - 1 }
          istekler := d.istekler.modify istek fun _ => .iceride ad sem }
      else d
    | none => d
  | _ => d

/-- `sem.acquire`, when it comes back without: at once, or when the time is up and there is still no slot. -/
def reddet (d : YavasYolDurumu) (istek : ℕ) : YavasYolDurumu :=
  match d.istekler.get? istek with
  | some (.bekliyor ad sem) =>
    match d.semaforlar.get? sem with
    | some s =>
      if 0 < s.deger then d
      else { d with istekler := d.istekler.modify istek fun _ => .kapasiteDolu ad (tavan d.ortam ad) }
    | none => d
  | _ => d

/-- `sem.release`, however the block ended. -/
def slotBirak (d : YavasYolDurumu) (istek : ℕ) : YavasYolDurumu :=
  match d.istekler.get? istek with
  | some (.iceride _ sem) =>
    match d.semaforlar.get? sem with
    | some s =>
      if s.deger < s.tavan then
        { d with
          semaforlar := d.semaforlar.modify sem fun s => { s with deger := s.deger + 1 }
          istekler := d.istekler.modify istek fun _ => .bitti }
      else { d with istekler := d.istekler.modify istek (fun _ => .bitti), tasma := d.tasma + 1 }
    | none => d
  | _ => d

def yavasYol (d : YavasYolDurumu) : YavasYolOlayi → YavasYolDurumu
  | .ortam o => { d with ortam := o }
  | .gel ad =>
    let (sem, d) := semafor d ad
    { d with istekler := d.istekler.push (.bekliyor ad sem) }
  | .al istek => slotAl d istek
  | .reddet istek => reddet d istek
  | .bitir istek => slotBirak d istek

/-- `bos_slot`; a path that nobody has used yet has all its slots. -/
def bosSlot (d : YavasYolDurumu) (ad : YavasYol) : ℤ :=
  let (sem, d) := semafor d ad
  ((d.semaforlar.get? sem).map Semafor.deger).getD 0

end FinancialOs.Routers
