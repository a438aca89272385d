import FinancialOs.Library.PythonScalars
import FinancialOs.Library.TransitionRuns

/-! The trail of updates and deletions: a hook in front of every flush of the session, whichever way the write came. -/
namespace FinancialOs.Store
open Library

/-- The value of a column as the object holds it; `diger` is a date, an enumeration or whatever else has a text. -/
inductive Deger where
  | yok
  | mantik (b : Bool)
  | metin (s : String)
  | sayi (q : ℚ)
  | diger (s : String)
  deriving DecidableEq

/-- The value of a column as the trail keeps it. -/
inductive DenetimDegeri where
  | yok
  | mantik (b : Bool)
  | metin (s : String)
  deriving DecidableEq

/-- `format(Decimal(str(v)).normalize(), "f")`. -/
def duzYazi (q : ℚ) : String :=
  let size := |q|
  (if q < 0 then "-" else "") ++ toString ⌊size⌋ ++
    (if size = ⌊size⌋ then "" else "." ++ NumberText.fraction 28 (size - ⌊size⌋))

/-- `_ser`: one number has one text, whatever scale it was written with. -/
def ser : Deger → DenetimDegeri
  | .yok => .yok
  | .mantik b => .mantik b
  | .metin s => .metin s
  | .sayi q => .metin (duzYazi q)
  | .diger s => .metin s

/-- A table of the registry. -/
structure TabloSemasi where
  ad : String
  kolonlar : List String
  sayisal : List String
  deriving DecidableEq

/-- `MUAF`. -/
def muaf : List String := ["net_worth_snapshots", "api_call_log", "reasoning_traces", "action_history"]

/-- `EK_DENETLENEN`. -/
def ekDenetlenen : List String := ["master_checkpoints", "pending_actions"]

/-- `denetlenen_tablolar`: the tables with an owner and an amount, and two more. -/
def denetlenenTablolar (sema : List TabloSemasi) : List String :=
  (((sema.filter fun t => "user_id" ∈ t.kolonlar ∧ t.sayisal ≠ []).map TabloSemasi.ad) ++ ekDenetlenen).filter
    fun ad => ad ∉ muaf

def kolonlar (sema : List TabloSemasi) (tablo : String) : List String :=
  ((sema.find? fun t => t.ad = tablo).map TabloSemasi.kolonlar).getD []

/-- The columns of a row by name. -/
abbrev KolonDegerleri := String → Deger

/-- The key of a row: its table and its id. -/
abbrev Anahtar := String × ℕ

/-- An object of the session, and which of its attributes were set since it was read. -/
structure Nesne where
  anahtar : Anahtar
  satir : KolonDegerleri
  degisen : List String

inductive DenetimEylemi where
  | update | delete
  deriving DecidableEq

structure AuditLog where
  userId : Deger
  workspaceId : Deger
  entity : String
  entityId : ℕ
  action : DenetimEylemi
  before : List (String × DenetimDegeri)
  after : List (String × DenetimDegeri)
  istekId : Option String
  createdAt : ℤ
  deriving DecidableEq

structure DenetimDb where
  kayitlar : Anahtar → Option KolonDegerleri
  audit : List AuditLog

/-- What a session is about to write, and the request it writes for. -/
structure Oturum where
  silinen : List Nesne
  kirli : List Nesne
  yeni : List Nesne
  istekId : Option String
  simdi : ℤ

/-- `_satir`. -/
def satirJson (sema : List TabloSemasi) (n : Nesne) : List (String × DenetimDegeri) :=
  (kolonlar sema n.anahtar.1).map fun c => (c, ser (n.satir c))

/-- The changed columns whose text changes too; the old value is the one in the database. -/
def degisenler (kayit : Option KolonDegerleri) (n : Nesne) : List String :=
  n.degisen.filter fun c => ((kayit.map fun r => ser (r c)).getD .yok) ≠ ser (n.satir c)

/-- The tables and the owners that the trail follows. -/
def izlenir (sema : List TabloSemasi) (n : Nesne) : Bool :=
  n.anahtar.1 ∈ denetlenenTablolar sema ∧ n.satir "user_id" ≠ .yok

def silmeIzi (sema : List TabloSemasi) (o : Oturum) (n : Nesne) : Option AuditLog :=
  if izlenir sema n then
    some ⟨n.satir "user_id", n.satir "workspace_id", n.anahtar.1, n.anahtar.2, .delete, satirJson sema n, [], o.istekId,
      o.simdi⟩
  else none

def guncellemeIzi (sema : List TabloSemasi) (db : DenetimDb) (o : Oturum) (n : Nesne) : Option AuditLog :=
  let kayit := db.kayitlar n.anahtar
  if izlenir sema n ∧ degisenler kayit n ≠ [] then
    some ⟨n.satir "user_id", n.satir "workspace_id", n.anahtar.1, n.anahtar.2, .update,
      (degisenler kayit n).map fun c => (c, (kayit.map fun r => ser (r c)).getD .yok),
      (degisenler kayit n).map fun c => (c, ser (n.satir c)), o.istekId, o.simdi⟩
  else none

/-- `_denetim_yaz`: the deleted objects first, then the changed ones. -/
def denetimYaz (sema : List TabloSemasi) (db : DenetimDb) (o : Oturum) : List AuditLog :=
  o.silinen.filterMap (silmeIzi sema o) ++ o.kirli.filterMap (guncellemeIzi sema db o)

/-- What the unit of work makes of one row: an update writes the columns that were set. -/
def yazilan (db : DenetimDb) (o : Oturum) (a : Anahtar) : Option KolonDegerleri :=
  if o.silinen.any fun n => n.anahtar = a then none
  else match o.kirli.find? fun n => n.anahtar = a with
    | some n => (db.kayitlar a).map fun r c => if c ∈ n.degisen then n.satir c else r c
    | none => match o.yeni.find? fun n => n.anahtar = a with
      | some n => some n.satir
      | none => db.kayitlar a

/-- A flush with its hook. -/
def flush (sema : List TabloSemasi) (db : DenetimDb) (o : Oturum) : DenetimDb where
  kayitlar := yazilan db o
  audit := db.audit ++ denetimYaz sema db o

end FinancialOs.Store
