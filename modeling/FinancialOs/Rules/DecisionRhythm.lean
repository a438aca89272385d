import FinancialOs.Library.DecimalRounding
import FinancialOs.Store.CoachInsights

/-! What the coach remembers of a user: the upsert of an insight, the sweep of the ones that hold no longer, and
the extractor that looks for the part of the day most decisions are made in. -/
namespace FinancialOs.Rules
open Library Store

def invalidationCounterMin : ℕ := 3

def invalidationCounterRatio : ℚ := 1 / 2

def decisionRhythmLookbackDays : ℕ := 30

def decisionRhythmMinActions : ℕ := 5

def decisionRhythmDominantRatio : ℚ := 2 / 5

/-- The row that the unique key of an upsert names. -/
def ayniIcgoru (userId : ℕ) (insightType : InsightType) (title : String) (i : CoachInsight) : Bool :=
  i.userId = userId ∧ i.insightType = some insightType ∧ i.title = some title

/-- What an extractor hands over. -/
structure YeniIcgoru where
  insightType : InsightType
  title : String
  content : String
  confidenceBasis : ConfidenceBasis
  sourceRefs : List String
  isSupportingEvidence : Bool
  paraCategory : ParaCategory
  priority : ℤ

/-- The values of the insert. -/
def YeniIcgoru.satir (y : YeniIcgoru) (userId : ℕ) (now : ℤ) : CoachInsight where
  userId := userId
  insightType := some y.insightType
  title := some y.title
  content := y.content
  confidenceBasis := some y.confidenceBasis
  sourceRefs := y.sourceRefs
  evidenceCount := if y.isSupportingEvidence then 1 else 0
  counterEvidenceCount := if y.isSupportingEvidence then 0 else 1
  lastEvidenceAt := if y.isSupportingEvidence then some now else none
  lastCounterAt := if y.isSupportingEvidence then none else some now
  status := .active
  activatedAt := some now
  lastSeenAt := some now
  paraCategory := some y.paraCategory
  archivedAt := none
  archivedReason := none
  sortPriority := y.priority

/-- What the upsert sets on a row that is there; the other columns stay as they are. -/
def YeniIcgoru.guncelle (y : YeniIcgoru) (now : ℤ) (i : CoachInsight) : CoachInsight :=
  { i with
    content := y.content
    evidenceCount := i.evidenceCount + if y.isSupportingEvidence then 1 else 0
    counterEvidenceCount := i.counterEvidenceCount + if y.isSupportingEvidence then 0 else 1
    lastEvidenceAt := if y.isSupportingEvidence then some now else i.lastEvidenceAt
    lastCounterAt := if y.isSupportingEvidence then i.lastCounterAt else some now
    lastSeenAt := some now
    sourceRefs := y.sourceRefs
    sortPriority := y.priority }

def upsertInsight (now : ℤ) (userId : ℕ) (y : YeniIcgoru) (t : Table CoachInsight) : Table CoachInsight :=
  match t.first? (ayniIcgoru userId y.insightType y.title) with
  | none => t.push (y.satir userId now)
  | some r => t.modify r.1 (y.guncelle now)

/-- `_check_and_invalidate`. -/
def checkAndInvalidate (now : ℤ) (userId : ℕ) (insightType : InsightType) (title : String)
    (t : Table CoachInsight) : Table CoachInsight :=
  match t.first? (fun i => ayniIcgoru userId insightType title i && decide (i.status = .active)) with
  | none => t
  | some (k, i) =>
    if invalidationCounterMin ≤ i.counterEvidenceCount ∧
        (i.evidenceCount : ℚ) * invalidationCounterRatio ≤ i.counterEvidenceCount then
      t.modify k fun i => { i with
        status := .invalidated
        archivedAt := some now
        archivedReason := some "data_changed" }
    else t

/-- `_save_or_update_insight`. -/
def saveOrUpdateInsight (now : ℤ) (userId : ℕ) (y : YeniIcgoru) (t : Table CoachInsight) : Table CoachInsight :=
  checkAndInvalidate now userId y.insightType y.title (upsertInsight now userId y t)

/-- An insight of a type that the user is shown. -/
def aktifIcgoru (userId : ℕ) (insightType : InsightType) (i : CoachInsight) : Bool :=
  i.userId = userId ∧ i.insightType = some insightType ∧ i.status = .active

def uyut (now : ℤ) (i : CoachInsight) : CoachInsight :=
  { i with status := .dormant, lastSeenAt := some now, sortPriority := 1 }

/-- `_sweep_insights_dormant`: the active insights whose titles are not produced now. -/
def sweepInsightsDormant (now : ℤ) (userId : ℕ) (insightType : InsightType) (activeTitlesNow : List String)
    (t : Table CoachInsight) : Table CoachInsight :=
  t.mapRows fun i =>
    if aktifIcgoru userId insightType i ∧ ∀ b ∈ activeTitlesNow, i.title ≠ some b then uyut now i else i

/-- `TIME_SLOTS`. -/
inductive Dilim where
  | gece | sabah | ogle | aksam
  deriving DecidableEq

namespace Dilim

/-- The slots in the order of the table. -/
def hepsi : List Dilim := [.gece, .sabah, .ogle, .aksam]

def saatler : Dilim → ℕ × ℕ
  | .gece => (0, 6)
  | .sabah => (6, 12)
  | .ogle => (12, 18)
  | .aksam => (18, 24)

def ad : Dilim → String
  | .gece => "gece"
  | .sabah => "sabah"
  | .ogle => "ogle"
  | .aksam => "aksam"

/-- `TIME_SLOT_LABELS_TR`. -/
def etiket : Dilim → String
  | .gece => "gece (00:00-06:00)"
  | .sabah => "sabah (06:00-12:00)"
  | .ogle => "oglen (12:00-18:00)"
  | .aksam => "aksam (18:00-24:00)"

def baslik (d : Dilim) : String := s!"Buyuk kararlarin cogu {d.ad} dilminde"

end Dilim

def classifyHourToSlot (hour : ℕ) : Dilim :=
  (Dilim.hepsi.find? fun d => d.saatler.1 ≤ hour ∧ hour < d.saatler.2).getD .gece

/-- The successful actions of the last days. -/
def basariliAksiyonlar (history : Table ActionHistory) (userId : ℕ) (now : ℤ) : List (ℕ × ActionHistory) :=
  history.select fun a =>
    a.userId = userId ∧ now - decisionRhythmLookbackDays * 86400000000 ≤ a.appliedAt ∧ a.success = true

/-- The first slot that no other one has more actions than. -/
def enYogun (sayi : Dilim → ℕ) : Dilim :=
  Dilim.hepsi.foldl (fun best d => if sayi best < sayi d then d else best) .gece

/-- What one run of the extractor sees: its instant, the log of the actions, and the hour the server's clock
shows at an instant. -/
structure RitimGirdisi where
  now : ℤ
  history : Table ActionHistory
  yerelSaat : ℤ → ℕ

namespace RitimGirdisi

/-- The actions with the slots they fall into. -/
def aksiyonlar (g : RitimGirdisi) (userId : ℕ) : List (ℕ × Dilim) :=
  (basariliAksiyonlar g.history userId g.now).map fun a => (a.1, classifyHourToSlot (g.yerelSaat a.2.appliedAt))

def yeterli (g : RitimGirdisi) (userId : ℕ) : Bool := decisionRhythmMinActions ≤ (g.aksiyonlar userId).length

def dilimSayisi (g : RitimGirdisi) (userId : ℕ) (d : Dilim) : ℕ :=
  ((g.aksiyonlar userId).filter fun a => a.2 = d).length

def dominantSlot (g : RitimGirdisi) (userId : ℕ) : Dilim := enYogun (g.dilimSayisi userId)

def dominantRatio (g : RitimGirdisi) (userId : ℕ) : ℚ :=
  (g.dilimSayisi userId (g.dominantSlot userId) : ℚ) / (g.aksiyonlar userId).length

/-- The dominant slot, where it has the share of the actions that an insight asks for. -/
def baskinDilim (g : RitimGirdisi) (userId : ℕ) : Option Dilim :=
  if g.dominantRatio userId < decisionRhythmDominantRatio then none else some (g.dominantSlot userId)

/-- The insight of a dominant slot. -/
def icgoru (g : RitimGirdisi) (userId : ℕ) (d : Dilim) : YeniIcgoru where
  insightType := .decisionRhythm
  title := d.baslik
  content := s!"Son {decisionRhythmLookbackDays} gunde {(g.aksiyonlar userId).length} onaylanan aksiyonun " ++
    s!"{g.dilimSayisi userId d}'i ({nearestEven (g.dominantRatio userId * 100)}%) {d.etiket} araliginda alindi. " ++
    "Bu zaman diliminin disinda alinan onemli kararlarda daha dikkatli sorgulama yapilabilir."
  confidenceBasis := .patternGrounded
  sourceRefs := (((g.aksiyonlar userId).filter fun a => a.2 = d).take 10).map fun a => s!"action_history:{a.1}"
  isSupportingEvidence := true
  paraCategory := .area
  priority := 4

end RitimGirdisi

/-- `extract_decision_rhythm`. -/
def extractDecisionRhythm (userId : ℕ) (t : Table CoachInsight) (g : RitimGirdisi) : Table CoachInsight :=
  if g.yeterli userId then
    match g.baskinDilim userId with
    | none => sweepInsightsDormant g.now userId .decisionRhythm [] t
    | some d => sweepInsightsDormant g.now userId .decisionRhythm [d.baslik]
        (saveOrUpdateInsight g.now userId (g.icgoru userId d) t)
  else t

end FinancialOs.Rules
