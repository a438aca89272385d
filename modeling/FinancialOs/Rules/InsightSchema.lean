import FinancialOs.Library.CalendarDates
import FinancialOs.Library.DelimitedWords
import FinancialOs.Library.PythonScalars
import FinancialOs.Rules.PromptSafety
import FinancialOs.Rules.TurkishText
import FinancialOs.Store.CoachInsights

/-! `save_insight`: the arguments of the tool against their contract, the key under which a fact is remembered, and
the row that it becomes. -/
namespace FinancialOs.Rules
open Library Store

inductive InsightPriority where
  | critical | high | normal
  deriving DecidableEq

def InsightPriority.value : InsightPriority → String
  | .critical => "critical"
  | .high => "high"
  | .normal => "normal"

/-- `ONEM_MERDIVENI`. -/
def onemMerdiveni : InsightPriority → ℤ
  | .critical => 14
  | .high => 11
  | .normal => 5

def varsayilanOncelik : InsightPriority := .normal

/-- `KATEGORILER`. -/
def kategoriler : List String := ["preference", "event", "pattern", "goal", "general"]

def varsayilanKategori : String := "general"

def icerikAzami : ℕ := 600

def dedupAnahtarAzami : ℕ := 80

/-- The characters that `_SLUG_DISI` leaves alone. -/
def slugHarfi (c : Char) : Bool := (97 ≤ c.toNat ∧ c.toNat ≤ 122) ∨ (48 ≤ c.toNat ∧ c.toNat ≤ 57)

/-- `slugla`. -/
def slugla (k : KucukHarfler) (metin : List Char) : List Char :=
  (stripSep '_' (collapseRuns slugHarfi '_' false (normalize k metin))).take dedupAnahtarAzami

/-- What does not come as the contract wants it, and is put down to a default. -/
inductive Duzeltme where
  | category (v : PyValue)
  | priority (v : PyValue)
  | dedupKey (anahtar : List Char)
  | expiresAt (v : PyValue)
  deriving DecidableEq

/-- `IcgoruGecersiz`: what cannot be remembered. -/
inductive IcgoruGecersiz where
  | nesneDegil
  | contentYok
  | contentMetinDegil
  | contentBos
  | contentUzun (uzunluk : ℕ)
  deriving DecidableEq

/-- The arguments that the model gives; a missing one is `None`. -/
structure SaveInsight where
  content : PyValue
  category : PyValue
  priority : PyValue
  dedupKey : PyValue
  expiresAt : PyValue
  deriving DecidableEq

structure Ayiklama where
  content : List Char
  category : String
  priority : InsightPriority
  dedupKey : List Char
  expiresAt : Option Date
  sortPriority : ℤ
  duzeltmeler : List Duzeltme
  deriving DecidableEq

def oncelikOku (v : PyValue) : Option InsightPriority :=
  [InsightPriority.critical, .high, .normal].find? fun p => v = .str p.value

def kategoriOku : PyValue → Option String
  | .str s => if s ∈ kategoriler then some s else none
  | _ => none

/-- The fact itself: the one argument that has no default. -/
def icerikOku : PyValue → Except IcgoruGecersiz (List Char)
  | .none => .error .contentYok
  | .str ham =>
    let content := kirp ham.toList
    if content = [] then .error .contentBos
    else if icerikAzami < content.length then .error (.contentUzun content.length)
    else .ok content
  | _ => .error .contentMetinDegil

/-- The key of the arguments: what they give, or what the content gives, or a word that stands for any fact. -/
def anahtarOku (k : KucukHarfler) (dedupKey : PyValue) (content : List Char) : List Char × List Duzeltme :=
  let anahtar := match dedupKey with
    | .str s => slugla k s.toList
    | _ => []
  if anahtar = [] then
    let anahtar := if slugla k content = [] then "icgoru".toList else slugla k content
    (anahtar, [.dedupKey anahtar])
  else (anahtar, [])

/-- `ayikla`; no dictionary at all is `none`. -/
def ayikla (k : KucukHarfler) (inp : Option SaveInsight) : Except IcgoruGecersiz Ayiklama :=
  match inp with
  | none => .error .nesneDegil
  | some inp => do
    let content ← icerikOku inp.content
    let kategori := kategoriOku inp.category
    let oncelik := oncelikOku inp.priority
    let anahtar := anahtarOku k inp.dedupKey content
    let bitis := Date.fromIso? inp.expiresAt.text
    return {
      content := content
      category := kategori.getD varsayilanKategori
      priority := oncelik.getD varsayilanOncelik
      dedupKey := anahtar.1
      expiresAt := bitis
      sortPriority := onemMerdiveni (oncelik.getD varsayilanOncelik)
      duzeltmeler :=
        (if kategori.isNone ∧ inp.category ≠ .none then [.category inp.category] else []) ++
          (if oncelik.isNone ∧ inp.priority ≠ .none then [.priority inp.priority] else []) ++ anahtar.2 ++
          (if bitis.isNone ∧ inp.expiresAt ≠ .none then [.expiresAt inp.expiresAt] else []) }

/-- A row of the memory with the columns that `save_insight` writes. -/
structure HafizaKaydi extends CoachInsight where
  dedupKey : Option (List Char)
  category : Option String
  priority : InsightPriority
  expiresAt : Option Date
  deriving DecidableEq

/-- What a fact that is there already is rewritten to. -/
def HafizaKaydi.guncelle (a : Ayiklama) (now : ℤ) (r : HafizaKaydi) : HafizaKaydi :=
  { r with
    content := String.ofList a.content
    priority := a.priority
    category := some a.category
    sortPriority := onemMerdiveni a.priority
    title := if r.title.getD "" = "" then some (String.ofList a.dedupKey) else r.title
    lastEvidenceAt := some now
    status := .active
    expiresAt := a.expiresAt.or r.expiresAt }

/-- `save_insight_action` on the rows, with the row that it answers; a second row under the unique keys is refused. -/
def saveInsightAction (t : Table HafizaKaydi) (userId : ℕ) (a : Ayiklama) (now : ℤ) :
    Except PyError (Table HafizaKaydi × ℕ) :=
  match t.first? fun r => r.userId = userId ∧ r.dedupKey = some a.dedupKey with
  | some (id, _) => .ok (t.modify id (HafizaKaydi.guncelle a now), id)
  | none =>
    if t.any fun r => r.userId = userId ∧ r.insightType = some .kullaniciBeyani ∧
        r.title = some (String.ofList a.dedupKey) then .error .databaseError
    else .ok (t.push {
      userId := userId
      insightType := some .kullaniciBeyani
      title := some (String.ofList a.dedupKey)
      content := String.ofList a.content
      confidenceBasis := some .userStated
      sourceRefs := []
      evidenceCount := 0
      counterEvidenceCount := 0
      lastEvidenceAt := some now
      lastCounterAt := none
      status := .active
      activatedAt := none
      lastSeenAt := none
      paraCategory := none
      archivedAt := none
      archivedReason := none
      sortPriority := onemMerdiveni a.priority
      dedupKey := some a.dedupKey
      category := some a.category
      priority := a.priority
      expiresAt := a.expiresAt }, t.freshKey)

example : slugla latinKucukHarfler "Fon Satışı — Seyahat".toList = "fon_satisi_seyahat".toList := by decide +kernel

end FinancialOs.Rules
