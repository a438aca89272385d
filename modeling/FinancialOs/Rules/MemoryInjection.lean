import FinancialOs.Library.BudgetFront
import FinancialOs.Rules.CoachContext
import FinancialOs.Rules.InsightSchema

/-! What the memory of the coach puts into its context under a budget of tokens. -/
namespace FinancialOs.Rules
open Library Store

section
variable (t : Table HafizaKaydi) (userId maxTokens : ℕ)

/-- The rows of the query in its order; the types that are about the coach itself stay out. -/
def hafizaSirasi : List (ℕ × HafizaKaydi) :=
  (t.select fun ins => ins.userId = userId ∧ ins.status = .active ∧
    ins.insightType ≠ some .mcReferenceFrequency ∧ ins.insightType ≠ some .questionTypology).mergeSort
      fun a b => hafizaOnce a.2.toCoachInsight b.2.toCoachInsight

def hafizaSiniri : ℕ := 5

/-- `insights`. -/
def ilkInsightlar : List (ℕ × HafizaKaydi) := (hafizaSirasi t userId).take hafizaSiniri

/-- The tokens of a row's block. -/
def satirTokeni (r : ℕ × HafizaKaydi) : ℕ := blokTokeni r.2.toCoachInsight

/-- The rows whose blocks are shown. -/
def gosterilenSatirlar : List (ℕ × HafizaKaydi) :=
  fittingFront satirTokeni maxTokens baslikTokeni (ilkInsightlar t userId)

/-- `dropped_count`. -/
def droppedCount : ℕ := (ilkInsightlar t userId).length - (gosterilenSatirlar t userId maxTokens).length

/-- The text of these rows, and of so many that did not fit; where there is none of either, there is no text. -/
def hafizaMetni (shown : List (ℕ × HafizaKaydi)) (dropped : ℕ) : Baglam :=
  if shown = [] ∧ dropped = 0 then []
  else (basliklar hafizaBasligi (hafizaAciklamasi.map .kod)).map .bagli ++
    shown.flatMap (fun r => insightSatirlari r.2.toCoachInsight) ++ (hafizaSonu dropped).map .bagli

/-- `format_insights_for_prompt`. -/
def formatInsightsForPrompt : Baglam :=
  if ilkInsightlar t userId = [] then []
  else (basliklar hafizaBasligi (hafizaAciklamasi.map .kod)).map .bagli ++
    (gosterilenSatirlar t userId maxTokens).flatMap (fun r => insightSatirlari r.2.toCoachInsight) ++
      (hafizaSonu (droppedCount t userId maxTokens)).map .bagli

variable {t userId maxTokens}

theorem gosterilen_add_dropped :
    (gosterilenSatirlar t userId maxTokens).length + droppedCount t userId maxTokens = (ilkInsightlar t userId).length :=
  Nat.add_sub_cancel' fittingFront_front.length_le

/-- The text says the rows that are shown and the number of those that are not. -/
theorem formatInsightsForPrompt_eq : formatInsightsForPrompt t userId maxTokens =
    hafizaMetni (gosterilenSatirlar t userId maxTokens) (droppedCount t userId maxTokens) := by
  have hiff : ilkInsightlar t userId = [] ↔
      gosterilenSatirlar t userId maxTokens = [] ∧ droppedCount t userId maxTokens = 0 := by
    rw [← List.length_eq_zero_iff, ← List.length_eq_zero_iff, ← @gosterilen_add_dropped t userId maxTokens]
    omega
  simp only [formatInsightsForPrompt, hafizaMetni, hiff]

theorem sigan_eq (used : ℕ) (l : List CoachInsight) : sigan used l = fittingFront blokTokeni hafizaButcesi used l := by
  induction l generalizing used with
  | nil => rfl
  | cons ins kalan ih => rw [sigan, fittingFront, ih]

/-- The rows as the rest of the coach's context reads them. -/
def hafizaTablosu (t : Table HafizaKaydi) : List (ℕ × CoachInsight) := t.rows.map fun r => (r.1, r.2.toCoachInsight)

/-- The context of the coach ends with this text under its budget. -/
theorem hafizaSatirlari_eq {k : BaglamDb} (h : k.insights.rows = hafizaTablosu t) :
    hafizaSatirlari k userId = formatInsightsForPrompt t userId hafizaButcesi := by
  have hilk : hafizaInsightlari k userId = (ilkInsightlar t userId).map fun r => r.2.toCoachInsight := by
    have hsort : ((hafizaSirasi t userId).map fun r => r.2.toCoachInsight) = _ :=
      List.map_mergeSort (s := hafizaOnce) fun a _ b _ => rfl
    rw [hafizaInsightlari, ilkInsightlar, List.map_take, hsort, Table.select, Table.select, h, hafizaTablosu,
      List.filter_map, List.map_map]
    rfl
  have hshown : gosterilenler k userId =
      (gosterilenSatirlar t userId hafizaButcesi).map fun r => r.2.toCoachInsight := by
    rw [gosterilenler, sigan_eq, hilk]
    exact fittingFront_map fun r => rfl
  rw [hafizaSatirlari, formatInsightsForPrompt, hshown, hilk, droppedCount]
  generalize gosterilenSatirlar t userId hafizaButcesi = shown
  cases ilkInsightlar t userId with
  | nil => rfl
  | cons r kalan =>
    rw [if_neg (List.cons_ne_nil r kalan), List.map_cons]
    dsimp only
    rw [List.flatMap_map, List.length_cons, List.length_cons, List.length_map, List.length_map]

end
end FinancialOs.Rules
