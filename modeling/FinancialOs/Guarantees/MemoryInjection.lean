import FinancialOs.Rules.MemoryInjection

/-! The five facts of the memory that the context shows, against those that are not expired. -/
namespace FinancialOs.Guarantees
open Library Store Rules

/-- The fact holds on the day: it has no end, or one that is not before the day. -/
def gecerliMi (today : Date) (r : ℕ × HafizaKaydi) : Bool := r.2.expiresAt.all fun bitis => bitis.notBefore today

section
variable (t : Table HafizaKaydi) (userId maxTokens : ℕ) (today : Date)

/-- The first five of the facts that hold on the day. -/
def gecerliInsightlar : List (ℕ × HafizaKaydi) :=
  ((hafizaSirasi t userId).filter (gecerliMi today)).take hafizaSiniri

/-- What is shown is the longest front of these five that stays within the budget, and the rest of them is counted. -/
structure HafizaDogru : Prop where
  gosterilen : LongestFitting satirTokeni maxTokens baslikTokeni (gecerliInsightlar t userId today)
    (gosterilenSatirlar t userId maxTokens)
  sigmayan : droppedCount t userId maxTokens =
    (gecerliInsightlar t userId today).length - (gosterilenSatirlar t userId maxTokens).length

variable {t userId maxTokens today}

theorem kanitOnce_trans {a b c : Option ℤ} (hab : kanitOnce a b = true) (hbc : kanitOnce b c = true) :
    kanitOnce a c = true := by
  cases c with
  | none => cases a <;> rfl
  | some z =>
    cases b with
    | none => cases hbc
    | some y =>
      cases a with
      | none => cases hab
      | some x => exact decide_eq_true ((of_decide_eq_true hbc).trans (of_decide_eq_true hab))

theorem kanitOnce_total (a b : Option ℤ) : kanitOnce a b = true ∨ kanitOnce b a = true := by
  cases a with
  | none => exact .inr (by cases b <;> rfl)
  | some x =>
    cases b with
    | none => exact .inl rfl
    | some y => exact (le_total y x).imp decide_eq_true decide_eq_true

theorem hafizaOnce_trans {a b c : CoachInsight} (hab : hafizaOnce a b = true) (hbc : hafizaOnce b c = true) :
    hafizaOnce a c = true := by
  rcases of_decide_eq_true hab with hab | ⟨hab, hkanit⟩ <;> rcases of_decide_eq_true hbc with hbc | ⟨hbc, hkanit'⟩
  · exact decide_eq_true (.inl (hbc.trans hab))
  · exact decide_eq_true (.inl (hbc ▸ hab))
  · exact decide_eq_true (.inl (hab ▸ hbc))
  · exact decide_eq_true (.inr ⟨hab.trans hbc, kanitOnce_trans hkanit hkanit'⟩)

theorem hafizaOnce_total (a b : CoachInsight) : hafizaOnce a b = true ∨ hafizaOnce b a = true := by
  rcases lt_trichotomy a.sortPriority b.sortPriority with h | h | h
  · exact .inr (decide_eq_true (.inl h))
  · exact (kanitOnce_total a.lastEvidenceAt b.lastEvidenceAt).imp (fun hk => decide_eq_true (.inr ⟨h, hk⟩))
      fun hk => decide_eq_true (.inr ⟨h.symm, hk⟩)
  · exact .inl (decide_eq_true (.inl h))

/-- The facts that hold stand in their order: the higher priority first, then the later evidence. -/
theorem pairwise_gecerliInsightlar :
    (gecerliInsightlar t userId today).Pairwise fun a b => hafizaOnce a.2.toCoachInsight b.2.toCoachInsight = true := by
  have htrans : ∀ a b c : ℕ × HafizaKaydi, hafizaOnce a.2.toCoachInsight b.2.toCoachInsight = true →
      hafizaOnce b.2.toCoachInsight c.2.toCoachInsight = true → hafizaOnce a.2.toCoachInsight c.2.toCoachInsight = true :=
    fun a b c => hafizaOnce_trans
  have htotal : ∀ a b : ℕ × HafizaKaydi, (hafizaOnce a.2.toCoachInsight b.2.toCoachInsight ||
      hafizaOnce b.2.toCoachInsight a.2.toCoachInsight) = true :=
    fun a b => Bool.or_eq_true_iff.mpr (hafizaOnce_total _ _)
  have hsorted : (hafizaSirasi t userId).Pairwise fun a b => hafizaOnce a.2.toCoachInsight b.2.toCoachInsight = true :=
    List.pairwise_mergeSort htrans htotal _
  exact (hsorted.sublist List.filter_sublist).sublist (List.take_sublist _ _)

/-- The rows that are shown and counted are the right ones exactly if the expired ones are behind the first five; or
five others are left, and both the first expired one and the row that takes its place are too much for the budget. -/
theorem memory_injection_iff :
    formatInsightsForPrompt t userId maxTokens =
        hafizaMetni (gosterilenSatirlar t userId maxTokens) (droppedCount t userId maxTokens) ∧
      (HafizaDogru t userId maxTokens today ↔
        Undisturbed satirTokeni maxTokens baslikTokeni (gecerliMi today) hafizaSiniri (hafizaSirasi t userId)) := by
  refine ⟨formatInsightsForPrompt_eq, ?_⟩
  have hle : (gosterilenSatirlar t userId maxTokens).length ≤ (ilkInsightlar t userId).length :=
    fittingFront_front.length_le
  rw [← fittingFront_take_iff]
  constructor
  · intro h
    have hshown := longestFitting_iff.mp h.gosterilen
    have hle' := h.gosterilen.front.length_le
    have hcount := h.sigmayan
    rw [droppedCount] at hcount
    exact ⟨hshown, show (ilkInsightlar t userId).length = (gecerliInsightlar t userId today).length by omega⟩
  · rintro ⟨hshown, hlen⟩
    refine ⟨longestFitting_iff.mpr hshown, ?_⟩
    rw [droppedCount, show (ilkInsightlar t userId).length = (gecerliInsightlar t userId today).length from hlen]

end

def bitisGunu : Date := (Date.ofYmd? 2026 6 12).get rfl

def ertesiGun : Date := (Date.ofYmd? 2026 6 13).get rfl

/-- A fact that was to be kept until the twelfth. -/
def bitmisBeyan : HafizaKaydi where
  userId := 1
  insightType := some .kullaniciBeyani
  title := some "seyahat"
  content := "Seyahat bitene kadar yatirim yok"
  confidenceBasis := some .userStated
  sourceRefs := []
  evidenceCount := 0
  counterEvidenceCount := 0
  lastEvidenceAt := some 0
  lastCounterAt := none
  status := .active
  activatedAt := none
  lastSeenAt := none
  paraCategory := none
  archivedAt := none
  archivedReason := none
  sortPriority := 14
  dedupKey := some "seyahat".toList
  category := some "event"
  priority := .critical
  expiresAt := some bitisGunu

def bitmisHafiza : Table HafizaKaydi := Table.empty.push bitmisBeyan

/-- On the next day no fact is left, and the context still tells it. -/
theorem expired_fact_injected : gecerliInsightlar bitmisHafiza 1 ertesiGun = [] ∧
    formatInsightsForPrompt bitmisHafiza 1 hafizaButcesi ≠ [] ∧
    ¬ ∀ (t : Table HafizaKaydi) (userId maxTokens : ℕ) (today : Date), HafizaDogru t userId maxTokens today := by
  have hsira : hafizaSirasi bitmisHafiza 1 = [(1, bitmisBeyan)] := List.mergeSort_singleton _
  have hbos : gecerliInsightlar bitmisHafiza 1 ertesiGun = [] := by
    rw [gecerliInsightlar, hsira]
    rfl
  have hilk : ilkInsightlar bitmisHafiza 1 = [(1, bitmisBeyan)] := by
    rw [ilkInsightlar, hsira]
    rfl
  refine ⟨hbos, ?_, fun h => ?_⟩
  · rw [formatInsightsForPrompt, hilk, if_neg (List.cons_ne_nil _ _)]
    exact List.append_ne_nil_of_left_ne_nil (List.append_ne_nil_of_left_ne_nil (List.cons_ne_nil _ _) _) _
  · have hcount := (h bitmisHafiza 1 hafizaButcesi ertesiGun).sigmayan
    have hfront := (h bitmisHafiza 1 hafizaButcesi ertesiGun).gosterilen.front
    rw [hbos] at hcount hfront
    rw [droppedCount, hilk, List.prefix_nil.mp hfront] at hcount
    cases hcount

end FinancialOs.Guarantees
