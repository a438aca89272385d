import FinancialOs.Library.TransitionRuns
import FinancialOs.Rules.DecisionRhythm

/-! The memory of a user's decision rhythm over the runs of its extractor: a sweep puts an insight to sleep, and
the upsert of the slot it is about does not wake it again. -/
namespace FinancialOs.Guarantees
open Library Store Rules

variable {userId : ℕ} {t : Table CoachInsight} {g : RitimGirdisi}

/-- The active insights of the user's rhythm. -/
def aktifRitimler (userId : ℕ) (t : Table CoachInsight) : List (ℕ × CoachInsight) :=
  t.select (aktifIcgoru userId .decisionRhythm)

/-- The unique key of the insights, and no counter-evidence, on the rows of the user's rhythm. -/
structure RitimUyumu (userId : ℕ) (t : Table CoachInsight) : Prop where
  essiz : ∀ k j i i' baslik, t.get? k = some i → t.get? j = some i' →
    ayniIcgoru userId .decisionRhythm baslik i = true → ayniIcgoru userId .decisionRhythm baslik i' = true → k = j
  karsitsiz : ∀ k i, t.get? k = some i → i.userId = userId → i.insightType = some .decisionRhythm →
    i.counterEvidenceCount = 0

theorem ayniIcgoru_iff {tip : InsightType} {baslik : String} {i : CoachInsight} :
    ayniIcgoru userId tip baslik i = true ↔ i.userId = userId ∧ i.insightType = some tip ∧ i.title = some baslik :=
  decide_eq_true_iff

theorem aktifIcgoru_iff {tip : InsightType} {i : CoachInsight} :
    aktifIcgoru userId tip i = true ↔ i.userId = userId ∧ i.insightType = some tip ∧ i.status = .active :=
  decide_eq_true_iff

/-- The columns that the agreement speaks of. -/
def anahtarlari (i : CoachInsight) : ℕ × Option InsightType × Option String × ℕ :=
  (i.userId, i.insightType, i.title, i.counterEvidenceCount)

/-- Rewriting rows keeps the agreement as long as these columns stay. -/
theorem uyum_of_satirlar {t' : Table CoachInsight} (h : RitimUyumu userId t)
    (hs : ∀ k i', t'.get? k = some i' → ∃ i, t.get? k = some i ∧ anahtarlari i = anahtarlari i') :
    RitimUyumu userId t' := by
  refine ⟨fun k j i i' baslik hi hi' hp hp' => ?_, fun k i' hi' hu htip => ?_⟩
  · obtain ⟨a, ha, hai⟩ := hs k i hi
    obtain ⟨b, hb, hbi⟩ := hs j i' hi'
    simp only [anahtarlari, Prod.mk.injEq] at hai hbi
    refine h.essiz k j a b baslik ha hb ?_ ?_
    · rw [ayniIcgoru_iff] at hp ⊢
      rwa [hai.1, hai.2.1, hai.2.2.1]
    · rw [ayniIcgoru_iff] at hp' ⊢
      rwa [hbi.1, hbi.2.1, hbi.2.2.1]
  · obtain ⟨a, ha, hai⟩ := hs k i' hi'
    simp only [anahtarlari, Prod.mk.injEq] at hai
    rw [← hai.2.2.2]
    exact h.karsitsiz k a ha (hai.1.trans hu) (hai.2.1.trans htip)

/-- A list without repetitions whose members agree has one of them, or none. -/
theorem map_eq_singleton_iff {α β : Type} {l : List α} {f : α → β} {b : β} (hl : l.Nodup)
    (htek : ∀ x ∈ l, ∀ y ∈ l, x = y) (hf : ∀ x ∈ l, f x = b) : l.map f = [b] ↔ ∃ x, x ∈ l := by
  cases l with
  | nil => exact iff_of_false nofun fun ⟨_, hx⟩ => List.not_mem_nil hx
  | cons x l =>
    cases l with
    | nil => exact iff_of_true (congrArg (fun c => [c]) (hf x List.mem_cons_self)) ⟨x, List.mem_cons_self⟩
    | cons y l =>
      have hxy := htek x List.mem_cons_self y (List.mem_cons_of_mem x List.mem_cons_self)
      exact absurd (hxy ▸ List.mem_cons_self) (List.nodup_cons.mp hl).1

section Steps
variable {now : ℤ}

/-- Without counter-evidence nothing is invalidated. -/
theorem checkAndInvalidate_of_uyum (h : RitimUyumu userId t) (baslik : String) :
    checkAndInvalidate now userId .decisionRhythm baslik t = t := by
  rw [checkAndInvalidate]
  cases hf : t.first? (fun i => ayniIcgoru userId .decisionRhythm baslik i && decide (i.status = .active)) with
  | none => rfl
  | some r =>
    obtain ⟨k, i⟩ := r
    obtain ⟨hget, hp⟩ := Table.first?_spec hf
    obtain ⟨hu, htip, -⟩ := ayniIcgoru_iff.mp (Bool.and_eq_true_iff.mp hp).1
    have hsifir := h.karsitsiz k i hget hu htip
    refine if_neg fun hc => ?_
    have hmin := hc.1
    rw [hsifir] at hmin
    exact absurd hmin (by decide)

/-- An upsert inserts the row of its key, or rewrites it. -/
theorem upsert_cases (now : ℤ) (t : Table CoachInsight) (g : RitimGirdisi) (d : Dilim) :
    (∀ k i, t.get? k = some i → ayniIcgoru userId .decisionRhythm d.baslik i = false) ∧
        upsertInsight now userId (g.icgoru userId d) t = t.push ((g.icgoru userId d).satir userId now) ∨
      ∃ k i, t.get? k = some i ∧ ayniIcgoru userId .decisionRhythm d.baslik i = true ∧
        upsertInsight now userId (g.icgoru userId d) t = t.modify k ((g.icgoru userId d).guncelle now) := by
  rw [upsertInsight]
  cases hf : t.first? (ayniIcgoru userId (g.icgoru userId d).insightType (g.icgoru userId d).title) with
  | none => exact .inl ⟨Table.first?_eq_none.mp hf, rfl⟩
  | some r =>
    obtain ⟨hget, hp⟩ := Table.first?_spec hf
    exact .inr ⟨r.1, r.2, hget, hp, rfl⟩

theorem uyum_push (h : RitimUyumu userId t) {d : Dilim}
    (hyok : ∀ k i, t.get? k = some i → ayniIcgoru userId .decisionRhythm d.baslik i = false) :
    RitimUyumu userId (t.push ((g.icgoru userId d).satir userId now)) := by
  have hbaslik : ∀ baslik, ayniIcgoru userId .decisionRhythm baslik ((g.icgoru userId d).satir userId now) = true →
      baslik = d.baslik := fun baslik hp => (Option.some.inj (ayniIcgoru_iff.mp hp).2.2).symm
  refine ⟨fun k j i i' baslik hi hi' hp hp' => ?_, fun k i hi hu htip => ?_⟩
  · rw [Table.get?_push] at hi hi'
    split at hi
    · split at hi'
      · rename_i hk hj
        rw [hk, hj]
      · obtain rfl := Option.some.inj hi
        obtain rfl := hbaslik baslik hp
        rw [hyok j i' hi'] at hp'
        cases hp'
    · split at hi'
      · obtain rfl := Option.some.inj hi'
        obtain rfl := hbaslik baslik hp'
        rw [hyok k i hi] at hp
        cases hp
      · exact h.essiz k j i i' baslik hi hi' hp hp'
  · rw [Table.get?_push] at hi
    split at hi
    · obtain rfl := Option.some.inj hi
      rfl
    · exact h.karsitsiz k i hi hu htip

theorem uyum_upsert (h : RitimUyumu userId t) (g : RitimGirdisi) (d : Dilim) :
    RitimUyumu userId (upsertInsight now userId (g.icgoru userId d) t) := by
  rcases upsert_cases now t g d with ⟨hyok, hekle⟩ | ⟨k, i, -, -, hyaz⟩
  · rw [hekle]
    exact uyum_push h hyok
  · rw [hyaz]
    refine uyum_of_satirlar h fun j i' hi' => ?_
    rw [Table.get?_modify] at hi'
    split at hi'
    · obtain ⟨i, hi, rfl⟩ := Option.map_eq_some_iff.mp hi'
      exact ⟨i, hi, rfl⟩
    · exact ⟨i', hi', rfl⟩

theorem uyum_sweep (h : RitimUyumu userId t) (basliklar : List String) :
    RitimUyumu userId (sweepInsightsDormant now userId .decisionRhythm basliklar t) := by
  refine uyum_of_satirlar h fun k i' hi' => ?_
  rw [sweepInsightsDormant, Table.get?_mapRows] at hi'
  obtain ⟨i, hi, rfl⟩ := Option.map_eq_some_iff.mp hi'
  refine ⟨i, hi, ?_⟩
  split
  · rfl
  · rfl

/-- What is active behind a sweep was active before, under one of the titles. -/
theorem mem_aktif_sweep {basliklar : List String} {k : ℕ} {i : CoachInsight} :
    (k, i) ∈ aktifRitimler userId (sweepInsightsDormant now userId .decisionRhythm basliklar t) ↔
      t.get? k = some i ∧ aktifIcgoru userId .decisionRhythm i = true ∧ ∃ b ∈ basliklar, i.title = some b := by
  rw [aktifRitimler, Table.mem_select, sweepInsightsDormant, Table.get?_mapRows, Option.map_eq_some_iff]
  constructor
  · rintro ⟨⟨a, ha, rfl⟩, hp⟩
    split at hp
    · exact absurd (aktifIcgoru_iff.mp hp).2.2 (by simp [uyut])
    · rename_i hn
      rw [if_neg hn]
      refine ⟨ha, hp, ?_⟩
      by_contra hbaslik
      exact hn ⟨hp, fun b hb he => hbaslik ⟨b, hb, he⟩⟩
  · rintro ⟨hget, hp, b, hb, he⟩
    exact ⟨⟨i, hget, if_neg fun hn => hn.2 b hb he⟩, hp⟩

end Steps

/-- Behind a run that sees enough actions, the active insight of the rhythm is that of the dominant slot, and
there is none where no slot has its share. -/
def RitimDogru (userId : ℕ) (t : Table CoachInsight) (g : RitimGirdisi) : Prop :=
  g.yeterli userId = true →
    (aktifRitimler userId (extractDecisionRhythm userId t g)).map (fun r => r.2.title) =
      (g.baskinDilim userId).toList.map fun d => some d.baslik

/-- The insight of the dominant slot has not been put to sleep. -/
def BaskinUyanik (userId : ℕ) (t : Table CoachInsight) (g : RitimGirdisi) : Prop :=
  g.yeterli userId = true → ∀ d, g.baskinDilim userId = some d →
    ∀ k i, t.get? k = some i → ayniIcgoru userId .decisionRhythm d.baslik i = true → i.status = .active

theorem extract_eq (h : RitimUyumu userId t) : extractDecisionRhythm userId t g =
    if g.yeterli userId then sweepInsightsDormant g.now userId .decisionRhythm
      ((g.baskinDilim userId).toList.map Dilim.baslik)
      ((g.baskinDilim userId).toList.foldl (fun s d => upsertInsight g.now userId (g.icgoru userId d) s) t)
    else t := by
  rw [extractDecisionRhythm]
  cases hd : g.baskinDilim userId with
  | none => rfl
  | some d =>
    have hkaydet : saveOrUpdateInsight g.now userId (g.icgoru userId d) t =
        upsertInsight g.now userId (g.icgoru userId d) t := checkAndInvalidate_of_uyum (uyum_upsert h g d) d.baslik
    simp only [hkaydet, Option.toList_some, List.map_cons, List.map_nil, List.foldl_cons, List.foldl_nil]

theorem ritimUyumu_adim (h : RitimUyumu userId t) (g : RitimGirdisi) :
    RitimUyumu userId (extractDecisionRhythm userId t g) := by
  rw [extract_eq h]
  split
  · cases hd : g.baskinDilim userId with
    | none => exact uyum_sweep h _
    | some d => exact uyum_sweep (uyum_upsert h g d) _
  · exact h

/-- The row of the dominant slot behind the upsert is active exactly when it was, if it was there. -/
theorem aktif_upsert_iff (h : RitimUyumu userId t) {now : ℤ} (d : Dilim) :
    (∃ k i, (upsertInsight now userId (g.icgoru userId d) t).get? k = some i ∧
        aktifIcgoru userId .decisionRhythm i = true ∧ i.title = some d.baslik) ↔
      ∀ k i, t.get? k = some i → ayniIcgoru userId .decisionRhythm d.baslik i = true → i.status = .active := by
  rcases upsert_cases now t g d with ⟨hyok, hekle⟩ | ⟨k, i, hget, hp, hyaz⟩
  · rw [hekle]
    refine iff_of_true ⟨t.freshKey, (g.icgoru userId d).satir userId now, ?_, ?_, rfl⟩ fun k i hi hp => ?_
    · rw [Table.get?_push, if_pos rfl]
    · exact aktifIcgoru_iff.mpr ⟨rfl, rfl, rfl⟩
    · rw [hyok k i hi] at hp
      cases hp
  · rw [hyaz]
    constructor
    · rintro ⟨j, i', hi', hakt, hbaslik⟩ l a ha hpa
      obtain rfl := h.essiz k l i a d.baslik hget ha hp hpa
      obtain rfl := Option.some.inj (hget.symm.trans ha)
      rw [Table.get?_modify] at hi'
      obtain ⟨hu, htip, hdurum⟩ := aktifIcgoru_iff.mp hakt
      split at hi'
      · rename_i hj
        rw [hj, hget] at hi'
        obtain rfl := Option.some.inj hi'
        exact hdurum
      · rename_i hj
        exact absurd (h.essiz j k i' i d.baslik hi' hget (ayniIcgoru_iff.mpr ⟨hu, htip, hbaslik⟩) hp) hj
    · intro hakt
      obtain ⟨hu, htip, hbaslik⟩ := ayniIcgoru_iff.mp hp
      refine ⟨k, (g.icgoru userId d).guncelle now i, ?_, ?_, hbaslik⟩
      · rw [Table.get?_modify, if_pos rfl, hget, Option.map_some]
      · exact aktifIcgoru_iff.mpr ⟨hu, htip, hakt k i hget hp⟩

theorem ritimDogru_iff (h : RitimUyumu userId t) (g : RitimGirdisi) :
    RitimDogru userId t g ↔ BaskinUyanik userId t g := by
  refine forall_congr' fun hyeterli => ?_
  rw [extract_eq h, if_pos hyeterli]
  cases hd : g.baskinDilim userId with
  | none =>
    refine iff_of_true ?_ nofun
    have hbos : aktifRitimler userId (sweepInsightsDormant g.now userId .decisionRhythm [] t) = [] :=
      List.eq_nil_iff_forall_not_mem.mpr fun r hr => by
        obtain ⟨-, -, b, hb, -⟩ := mem_aktif_sweep.mp hr
        cases hb
    exact congrArg _ hbos
  | some d =>
    have huyum : RitimUyumu userId (upsertInsight g.now userId (g.icgoru userId d) t) := uyum_upsert h g d
    have hmem : ∀ r, r ∈ aktifRitimler userId (sweepInsightsDormant g.now userId .decisionRhythm [d.baslik]
        (upsertInsight g.now userId (g.icgoru userId d) t)) ↔
        (upsertInsight g.now userId (g.icgoru userId d) t).get? r.1 = some r.2 ∧
          aktifIcgoru userId .decisionRhythm r.2 = true ∧ r.2.title = some d.baslik := fun r => by
      rw [show r ∈ aktifRitimler userId _ ↔ _ from mem_aktif_sweep]
      simp only [List.mem_singleton, exists_eq_left]
    have htek : ∀ r ∈ aktifRitimler userId (sweepInsightsDormant g.now userId .decisionRhythm [d.baslik]
        (upsertInsight g.now userId (g.icgoru userId d) t)), ∀ q ∈ aktifRitimler userId
          (sweepInsightsDormant g.now userId .decisionRhythm [d.baslik]
            (upsertInsight g.now userId (g.icgoru userId d) t)), r = q := fun r hr q hq => by
      obtain ⟨hr, hru, hrb⟩ := (hmem r).mp hr
      obtain ⟨hq, hqu, hqb⟩ := (hmem q).mp hq
      rw [aktifIcgoru_iff] at hru hqu
      have hkey := huyum.essiz r.1 q.1 r.2 q.2 d.baslik hr hq (ayniIcgoru_iff.mpr ⟨hru.1, hru.2.1, hrb⟩)
        (ayniIcgoru_iff.mpr ⟨hqu.1, hqu.2.1, hqb⟩)
      rw [hkey] at hr
      exact Prod.ext hkey (Option.some.inj (hr.symm.trans hq))
    have hliste := map_eq_singleton_iff ((Table.nodup _).of_map.filter _) htek fun r hr => ((hmem r).mp hr).2.2
    have huyanik := @aktif_upsert_iff userId t g h g.now d
    refine (hliste.trans ?_).trans (huyanik.trans ?_)
    · exact (exists_congr hmem).trans Prod.exists
    · simp only [Option.some.injEq, forall_eq']

/-- In a run every extraction leaves the memory right exactly when none finds the insight of its dominant slot
asleep. -/
theorem rhythm_follows_iff (h : RitimUyumu userId t) (girdiler : List RitimGirdisi) :
    StepsMeet (extractDecisionRhythm userId) (RitimDogru userId) t girdiler ↔
      StepsMeet (extractDecisionRhythm userId) (BaskinUyanik userId) t girdiler :=
  stepsMeet_congr (fun s g (h : RitimUyumu userId s) => ritimUyumu_adim h g) (fun _ g h => ritimDogru_iff h g) h
    girdiler

/-- Five actions of one hour, an hour after midnight of the day. -/
def besAksiyon (saat : ℕ) : RitimGirdisi where
  now := 0
  history := (List.range 5).foldl (fun t _ => t.push ⟨1, true, 0⟩) .empty
  yerelSaat := fun _ => saat

theorem ritimUyumu_empty (userId : ℕ) : RitimUyumu userId .empty := by
  refine ⟨fun k j i i' baslik hi => ?_, fun k i hi => ?_⟩
  · cases hi
  · cases hi

theorem rhythm_follows_iff_iki :
    StepsMeet (extractDecisionRhythm 1) (RitimDogru 1) .empty [besAksiyon 9, besAksiyon 20] := by
  refine (rhythm_follows_iff (ritimUyumu_empty 1) [besAksiyon 9, besAksiyon 20]).mpr
    ⟨fun _ d _ k i hi => ?_, fun _ d hd k i hi hp => ?_, trivial⟩
  · cases hi
  · obtain rfl : d = .aksam := Option.some.inj (hd.symm.trans (by decide +kernel))
    have hyok : ∀ r ∈ (extractDecisionRhythm 1 .empty (besAksiyon 9)).rows,
        ayniIcgoru 1 .decisionRhythm Dilim.aksam.baslik r.2 = false := by decide +kernel
    rw [hyok (k, i) (Table.get?_eq_some.mp hi)] at hp
    cases hp

/-- Mornings, evenings, and mornings again: the morning's insight stays asleep. -/
theorem rhythm_was_forgotten :
    ¬ StepsMeet (extractDecisionRhythm 1) (RitimDogru 1) .empty [besAksiyon 9, besAksiyon 20, besAksiyon 9] := by
  rintro ⟨-, -, h, -⟩
  have := h (by decide +kernel)
  revert this
  decide +kernel

end FinancialOs.Guarantees
