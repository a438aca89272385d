import FinancialOs.Library.TransitionRuns
import FinancialOs.Routers.Onboarding

/-! Demo data is found again by its marks. Until it is removed every row of it that is left has its mark; but a
mark can outlive its row, a request sees one workspace only, and other rows can hold on to demo rows. -/
namespace FinancialOs.Guarantees
open Library Store Routers

variable {s : DemoDb} {userId : ℕ} {wsId : Option ℕ}

section Marks

theorem mem_isaretliIdler {t : Tablo} {k : ℕ} :
    k ∈ isaretliIdler s userId t ↔ ∃ j, (j, ⟨userId, t, k⟩) ∈ s.isaretler.rows := by
  constructor
  · intro h
    obtain ⟨m, hm, rfl⟩ := List.mem_map.mp h
    obtain ⟨hm, htablo⟩ := List.mem_filter.mp hm
    obtain ⟨hm, huser⟩ := List.mem_filter.mp hm
    obtain ⟨⟨j, _⟩, hj, rfl⟩ := List.mem_map.mp hm
    obtain rfl := of_decide_eq_true htablo
    obtain rfl := of_decide_eq_true huser
    exact ⟨j, hj⟩
  · rintro ⟨j, hj⟩
    exact List.mem_map.mpr ⟨⟨userId, t, k⟩, List.mem_filter.mpr ⟨List.mem_filter.mpr
      ⟨List.mem_map.mpr ⟨_, hj, rfl⟩, decide_eq_true rfl⟩, decide_eq_true rfl⟩, rfl⟩

theorem isaretliIdler_eq_nil (h : kullaniciIsaretleri s userId = []) (t : Tablo) : isaretliIdler s userId t = [] := by
  rw [isaretliIdler, h]
  rfl

/-- What every request keeps, as long as removals do what they should: a demo row has its mark, and both name one
of the tables that demo data lives in. -/
structure DemoUyumu (s : DemoDb) : Prop where
  isaretli : ∀ t k r u, (s.satirlar t).get? k = some r → r.cols.kaynak = .demo u → k ∈ isaretliIdler s u t
  tablo : ∀ t k r u, (s.satirlar t).get? k = some r → r.cols.kaynak = .demo u → t ∈ demoSilmeSirasi
  isaret : ∀ m ∈ s.isaretler.rows, m.2.tableName ∈ demoSilmeSirasi

/-- A removal completes, takes every demo row of its user and leaves every row that a user has made. -/
def KaldirmaDogru (s : DemoDb) : DemoIslemi → Prop
  | .kaldir userId wsId => ∃ s', demoKaldir s userId wsId = some s' ∧
      (∀ t k r, (s.satirlar t).get? k = some r → r.cols.kaynak = .demo userId → (s'.satirlar t).get? k = none) ∧
      ∀ t k r, (s.satirlar t).get? k = some r → r.cols.kaynak = .kullanici →
        ∃ r', (s'.satirlar t).get? k = some r' ∧ r'.cols = r.cols
  | _ => True

/-- No marked key in the scope was used again for a row of a user, the demo rows that are left lie in the scope, and
no other row holds on to a marked one. -/
structure DemoTemiz (s : DemoDb) (userId : ℕ) (wsId : Option ℕ) : Prop where
  taze : ∀ t k r, (s.satirlar t).get? k = some r → silinecek s userId wsId t k r.cols = true →
    r.cols.kaynak ≠ .kullanici
  kapsam : ∀ t k r, (s.satirlar t).get? k = some r → r.cols.kaynak = .demo userId →
    demoKapsami userId wsId r.cols = true
  bagsiz : ∀ t k r v j q rule, (s.satirlar t).get? k = some r → silinecek s userId wsId t k r.cols = false →
    (s.satirlar v).get? j = some q → silinecek s userId wsId v j q.cols = true → rule ≠ .setNull →
      ¬ Relations.Refers Tablo.anahtarlar t r rule v j

def KaldirmaKosulu (s : DemoDb) : DemoIslemi → Prop
  | .kaldir userId wsId => DemoTemiz s userId wsId
  | _ => True

end Marks

section Removal

theorem sweepOrder_demoSilmeSirasi : Relations.SweepOrder Tablo.anahtarlar demoSilmeSirasi where
  nodup := by decide
  before := by
    intro pre t post h u c hc hrule htarget
    have hcol : ∀ u, ∀ c ∈ Tablo.anahtarlar u, c.onDelete = .noAction → c.target ∈ demoSilmeSirasi →
        c.target = .accounts ∧ (u = .transactions ∨ u ∉ demoSilmeSirasi) := by decide
    obtain ⟨haccounts, hu⟩ := hcol u c hc hrule
      (by rw [htarget, h]; exact List.mem_append_right pre List.mem_cons_self)
    rw [htarget] at haccounts
    subst haccounts
    rcases hu with rfl | hu
    · right
      left
      cases pre with
      | nil => cases (List.cons.inj h).1
      | cons a pre =>
        rw [(List.cons.inj h).1]
        exact List.mem_cons_self
    · exact .inr (.inr hu)

theorem not_cascade_of_mem {t : Tablo} (h : t ∈ demoSilmeSirasi) : ∀ c ∈ Tablo.anahtarlar t, c.onDelete ≠ .cascade := by
  revert t
  decide

theorem satir_silinmis {p : Tablo → ℕ → DemoSutunlari → Bool} {rel rel' : Relations Tablo DemoSutunlari}
    (h : Relations.Sieved Tablo.anahtarlar p demoSilmeSirasi rel rel') {t : Tablo} {k : ℕ} {r : KeyedRow DemoSutunlari}
    (hr : (rel t).get? k = some r) (hs : Relations.Swept Tablo.anahtarlar p demoSilmeSirasi rel t k r) :
    (rel' t).get? k = none := by
  cases hr' : (rel' t).get? k with
  | none => rfl
  | some r' =>
    obtain ⟨r₂, hr₂, -, hnot⟩ := h.back t k r' hr'
    obtain rfl := Option.some.inj (hr.symm.trans hr₂)
    exact absurd hs hnot

theorem DemoUyumu.tablo_of_mem (h : DemoUyumu s) {t : Tablo} {k : ℕ} (hk : k ∈ isaretliIdler s userId t) :
    t ∈ demoSilmeSirasi := by
  obtain ⟨j, hj⟩ := mem_isaretliIdler.mp hk
  exact h.isaret _ hj

/-- A removal with marks is a sweep. -/
theorem demoKaldir_spec (h : DemoUyumu s) (hisaret : kullaniciIsaretleri s userId ≠ []) :
    (demoKaldir s userId wsId = none ↔
      ∃ t ∈ demoSilmeSirasi, Relations.Held Tablo.anahtarlar (silinecek s userId wsId) s.satirlar t) ∧
    ∀ s', demoKaldir s userId wsId = some s' →
      Relations.Sieved Tablo.anahtarlar (silinecek s userId wsId) demoSilmeSirasi s.satirlar s'.satirlar ∧
        s'.isaretler = s.isaretler.keep fun m => m.userId ≠ userId := by
  have hidle : ∀ t, (∀ k, k ∉ isaretliIdler s userId t) → ∀ k c, silinecek s userId wsId t k c = false :=
    fun t ht k c => decide_eq_false fun hh => ht k hh.1
  obtain ⟨hnone, hsome⟩ := Relations.sweep_spec (p := silinecek s userId wsId)
    Tablo.leafCascades sweepOrder_demoSilmeSirasi
    (fun t (ht : decide (isaretliIdler s userId t ≠ []) = false) => hidle t fun k hk => by
      rw [not_not.mp (of_decide_eq_false ht)] at hk
      cases hk)
    (fun t ht => hidle t fun k hk => ht (h.tablo_of_mem hk)) s.satirlar
  rw [demoKaldir, if_neg hisaret]
  refine ⟨Option.map_eq_none_iff.trans hnone, fun s' hs' => ?_⟩
  obtain ⟨rel, hrel, rfl⟩ := Option.map_eq_some_iff.mp hs'
  exact ⟨hsome rel hrel, rfl⟩

theorem silinecek_swept (h : DemoUyumu s) {t : Tablo} {k : ℕ} {r : KeyedRow DemoSutunlari}
    (hp : silinecek s userId wsId t k r.cols = true) :
    Relations.Swept Tablo.anahtarlar (silinecek s userId wsId) demoSilmeSirasi s.satirlar t k r :=
  .inl ⟨h.tablo_of_mem (of_decide_eq_true hp).1, hp⟩

private theorem demoTemiz_of_dogru (h : DemoUyumu s) (hisaret : kullaniciIsaretleri s userId ≠ [])
    (hdogru : KaldirmaDogru s (.kaldir userId wsId)) : DemoTemiz s userId wsId := by
  obtain ⟨s', hs', hdemo, hkendi⟩ := hdogru
  obtain ⟨hnone, hsome⟩ := @demoKaldir_spec s userId wsId h hisaret
  obtain ⟨hsieved, -⟩ := hsome s' hs'
  have hkalir : ∀ t k r, (s.satirlar t).get? k = some r → r.cols.kaynak = .kullanici →
      ¬ Relations.Swept Tablo.anahtarlar (silinecek s userId wsId) demoSilmeSirasi s.satirlar t k r := fun t k r hr hu hs => by
    obtain ⟨r', hr', -⟩ := hkendi t k r hr hu
    rw [satir_silinmis hsieved hr hs] at hr'
    cases hr'
  refine ⟨fun t k r hr hp hu => hkalir t k r hr hu (silinecek_swept h hp), fun t k r hr hu => ?_,
    fun t k r v j q rule hr hnot hq hp hrule href => ?_⟩
  · have hgone := hdemo t k r hr hu
    by_contra hkapsam
    obtain ⟨r', hr', -⟩ := hsieved.keep t k r hr (by
      rintro (⟨-, hpk⟩ | ⟨v, j, q, -, -, -, hcas⟩)
      · exact hkapsam (of_decide_eq_true hpk).2
      · exact not_cascade_of_mem (h.tablo t k r userId hr hu) _ (Relations.refers_target hcas) rfl)
    rw [hgone] at hr'
    cases hr'
  · have hv : v ∈ demoSilmeSirasi := h.tablo_of_mem (of_decide_eq_true hp).1
    cases rule with
    | setNull => exact hrule rfl
    | noAction =>
      rw [hnone.mpr ⟨v, hv, t, k, r, j, q, hr, hnot, href, hq, hp⟩] at hs'
      cases hs'
    | cascade =>
      cases hu : r.cols.kaynak with
      | demo u => exact not_cascade_of_mem (h.tablo t k r u hr hu) _ (Relations.refers_target href) rfl
      | kullanici => exact hkalir t k r hr hu (.inr ⟨v, j, q, hv, hq, hp, href⟩)

private theorem dogru_of_demoTemiz (h : DemoUyumu s) (hisaret : kullaniciIsaretleri s userId ≠ [])
    (htemiz : DemoTemiz s userId wsId) : KaldirmaDogru s (.kaldir userId wsId) := by
  obtain ⟨hnone, hsome⟩ := @demoKaldir_spec s userId wsId h hisaret
  have hfree : ¬ ∃ t ∈ demoSilmeSirasi, Relations.Held Tablo.anahtarlar (silinecek s userId wsId) s.satirlar t := by
    rintro ⟨t, -, u, k, r, j, q, hr, hpr, href, hq, hpq⟩
    exact htemiz.bagsiz u k r t j q .noAction hr hpr hq hpq nofun href
  obtain ⟨s', hs'⟩ := Option.ne_none_iff_exists'.mp (mt hnone.mp hfree)
  obtain ⟨hsieved, -⟩ := hsome s' hs'
  refine ⟨s', hs', fun t k r hr hu => ?_, fun t k r hr hu => ?_⟩
  · exact satir_silinmis hsieved hr (silinecek_swept h
      (decide_eq_true ⟨h.isaretli t k r userId hr hu, htemiz.kapsam t k r hr hu⟩))
  · have hkendi : silinecek s userId wsId t k r.cols = false :=
      Bool.eq_false_of_not_eq_true fun hp => htemiz.taze t k r hr hp hu
    obtain ⟨r', hr', hsame⟩ := hsieved.keep t k r hr (by
      rintro (⟨-, hpk⟩ | ⟨v, j, q, -, hq, hpq, hcas⟩)
      · rw [hkendi] at hpk
        cases hpk
      · exact htemiz.bagsiz t k r v j q .cascade hr hkendi hq hpq nofun hcas)
    exact ⟨r', hr', hsame.cols⟩

/-- A removal does what it should exactly under the condition. -/
theorem kaldirmaDogru_iff (h : DemoUyumu s) (islem : DemoIslemi) :
    KaldirmaDogru s islem ↔ KaldirmaKosulu s islem := by
  cases islem with
  | yukle _ _ _ => exact Iff.rfl
  | olustur _ _ _ _ => exact Iff.rfl
  | bagla _ _ _ => exact Iff.rfl
  | sil _ _ => exact Iff.rfl
  | kaldir userId wsId =>
    by_cases hisaret : kullaniciIsaretleri s userId = []
    · -- without marks there is nothing to do, and no demo row is left
      have hnil := isaretliIdler_eq_nil hisaret
      have hp : ∀ t k c, silinecek s userId wsId t k c = false := fun t k c => decide_eq_false fun hh => by
        rw [hnil] at hh
        cases hh.1
      have hdemo : ∀ t k r, (s.satirlar t).get? k = some r → r.cols.kaynak ≠ .demo userId := by
        intro t k r hr hu
        have hk := h.isaretli t k r userId hr hu
        rw [hnil] at hk
        cases hk
      refine iff_of_true ⟨s, by rw [demoKaldir, if_pos hisaret], fun t k r hr hu => absurd hu (hdemo t k r hr),
        fun t k r hr _ => ⟨r, hr, rfl⟩⟩ ⟨fun t k r _ hh => ?_, fun t k r hr hu => absurd hu (hdemo t k r hr),
          fun t k r v j q rule _ _ _ hh => ?_⟩
      all_goals
        rw [hp] at hh
        cases hh
    · exact ⟨demoTemiz_of_dogru h hisaret, dogru_of_demoTemiz h hisaret⟩

end Removal

section Runs

theorem get?_satirEkle {t v : Tablo} {bosluk k : ℕ} {r : KeyedRow DemoSutunlari} :
    ((satirEkle s t bosluk r).satirlar v).get? k =
      if v = t ∧ k = (s.satirlar t).freshKey + bosluk then some r else (s.satirlar v).get? k := by
  change (Function.update s.satirlar t _ v).get? k = _
  by_cases hv : v = t
  · subst hv
    rw [Function.update_self, Table.get?_pushAbove]
    simp only [true_and]
  · rw [Function.update_of_ne hv, if_neg fun h => hv h.1]

theorem demoUyumu_satirEkle {t : Tablo} {bosluk : ℕ} {r : KeyedRow DemoSutunlari} (h : DemoUyumu s)
    (hr : r.cols.kaynak = .kullanici) : DemoUyumu (satirEkle s t bosluk r) := by
  have heski : ∀ v k q u, ((satirEkle s t bosluk r).satirlar v).get? k = some q → q.cols.kaynak = .demo u →
      (s.satirlar v).get? k = some q := by
    intro v k q u hq hu
    rw [get?_satirEkle] at hq
    split at hq
    · obtain rfl := Option.some.inj hq
      rw [hr] at hu
      cases hu
    · exact hq
  exact ⟨fun v k q u hq hu => h.isaretli v k q u (heski v k q u hq hu) hu,
    fun v k q u hq hu => h.tablo v k q u (heski v k q u hq hu) hu, h.isaret⟩

theorem mem_isaretliIdler_isaretle {t : Tablo} {k u : ℕ} {v : Tablo} {j : ℕ} :
    j ∈ isaretliIdler (isaretle s userId t k) u v ↔ j ∈ isaretliIdler s u v ∨ (userId = u ∧ t = v ∧ k = j) := by
  rw [mem_isaretliIdler, mem_isaretliIdler]
  have hrows : (isaretle s userId t k).isaretler.rows =
      s.isaretler.rows ++ [(s.isaretler.freshKey, ⟨userId, t, k⟩)] := rfl
  rw [hrows]
  constructor
  · rintro ⟨i, hi⟩
    rcases List.mem_append.mp hi with hi | hi
    · exact .inl ⟨i, hi⟩
    · cases List.mem_singleton.mp hi
      exact .inr ⟨rfl, rfl, rfl⟩
  · rintro (⟨i, hi⟩ | ⟨rfl, rfl, rfl⟩)
    · exact ⟨i, List.mem_append_left _ hi⟩
    · exact ⟨_, List.mem_append_right _ (List.mem_singleton_self _)⟩

theorem demoUyumu_demoSatiri (h : DemoUyumu s) {satir : (Tablo × List (Option ℕ)) × ℕ}
    (ht : satir.1.1 ∈ demoSilmeSirasi) : DemoUyumu (demoSatiri userId wsId s satir) := by
  have hget : ∀ v k q u, ((demoSatiri userId wsId s satir).satirlar v).get? k = some q → q.cols.kaynak = .demo u →
      (userId = u ∧ satir.1.1 = v ∧ (s.satirlar satir.1.1).freshKey + satir.2 = k) ∨
        (s.satirlar v).get? k = some q := by
    intro v k q u hq hu
    change ((satirEkle s satir.1.1 satir.2 _).satirlar v).get? k = some q at hq
    rw [get?_satirEkle] at hq
    split at hq
    · next hyeni =>
      obtain rfl := Option.some.inj hq
      exact .inl ⟨Kaynak.demo.inj hu, hyeni.1.symm, hyeni.2.symm⟩
    · exact .inr hq
  refine ⟨fun v k q u hq hu => mem_isaretliIdler_isaretle.mpr ?_, fun v k q u hq hu => ?_, fun m hm => ?_⟩
  · rcases hget v k q u hq hu with hyeni | heski
    · exact .inr hyeni
    · exact .inl (h.isaretli v k q u heski hu)
  · rcases hget v k q u hq hu with ⟨-, rfl, -⟩ | heski
    · exact ht
    · exact h.tablo v k q u heski hu
  · rcases List.mem_append.mp hm with hm | hm
    · exact h.isaret m hm
    · rw [List.mem_singleton.mp hm]
      exact ht

theorem demoUyumu_foldl (l : List ((Tablo × List (Option ℕ)) × ℕ)) (h : DemoUyumu s)
    (hl : ∀ satir ∈ l, satir.1.1 ∈ demoSilmeSirasi) : DemoUyumu (l.foldl (demoSatiri userId wsId) s) := by
  induction l generalizing s with
  | nil => exact h
  | cons satir l ih =>
    exact ih (demoUyumu_demoSatiri h (hl satir List.mem_cons_self)) fun x hx => hl x (List.mem_cons_of_mem _ hx)

theorem demoSatirlari_tablo {kasa : ℕ} {x : Tablo × List (Option ℕ)} (hx : x ∈ demoSatirlari kasa) :
    x.1 ∈ demoSilmeSirasi := by
  have htablolar : ∀ t ∈ [Tablo.accounts, .accounts, .recurringIncomes, .transactions, .transactions, .transactions,
      .goals, .masterCheckpoints], t ∈ demoSilmeSirasi := by decide
  exact htablolar x.1 (List.mem_map_of_mem (f := Prod.fst) hx)

theorem demoUyumu_yukle (h : DemoUyumu s) (bosluklar : List ℕ) : DemoUyumu (demoYukle s userId wsId bosluklar) := by
  unfold demoYukle
  split
  · exact h
  · refine demoUyumu_foldl _ h fun satir hsatir => ?_
    obtain ⟨⟨x, i⟩, hx, rfl⟩ := List.mem_map.mp hsatir
    have hsatir := List.fst_mem_of_mem_zipIdx hx
    exact demoSatirlari_tablo hsatir

theorem demoUyumu_adim (h : DemoUyumu s) (islem : DemoIslemi) (hdogru : KaldirmaDogru s islem) :
    DemoUyumu (demoIslemi s islem) := by
  cases islem with
  | yukle userId wsId bosluklar => exact demoUyumu_yukle h bosluklar
  | olustur t sahip refs bosluk =>
    rw [demoIslemi]
    split
    · exact demoUyumu_satirEkle h rfl
    · exact h
  | bagla t k refs =>
    rw [demoIslemi]
    split
    · have heski : ∀ v j q, (Function.update s.satirlar t ((s.satirlar t).modify k fun r => { r with refs := refs })
          v).get? j = some q → ∃ q₀, (s.satirlar v).get? j = some q₀ ∧ q.cols = q₀.cols := by
        intro v j q hq
        by_cases hv : v = t
        · subst hv
          rw [Function.update_self, Table.get?_modify] at hq
          split at hq
          · obtain ⟨q₀, hq₀, rfl⟩ := Option.map_eq_some_iff.mp hq
            exact ⟨q₀, hq₀, rfl⟩
          · exact ⟨q, hq, rfl⟩
        · rw [Function.update_of_ne hv] at hq
          exact ⟨q, hq, rfl⟩
      refine ⟨fun v j q u hq hu => ?_, fun v j q u hq hu => ?_, h.isaret⟩
      · obtain ⟨q₀, hq₀, hcols⟩ := heski v j q hq
        exact h.isaretli v j q₀ u hq₀ (hcols ▸ hu)
      · obtain ⟨q₀, hq₀, hcols⟩ := heski v j q hq
        exact h.tablo v j q₀ u hq₀ (hcols ▸ hu)
    · exact h
  | sil t k =>
    rw [demoIslemi]
    split
    · next rel hrel =>
      rw [Relations.delete] at hrel
      split at hrel
      · cases hrel
      · obtain rfl := Option.some.inj hrel
        have heski : ∀ v j q, (Relations.survivors Tablo.anahtarlar s.satirlar t (fun j _ => decide (j = k)) v).get? j =
            some q → ∃ q₀, (s.satirlar v).get? j = some q₀ ∧ q.cols = q₀.cols := fun v j q hq => by
          obtain ⟨q₀, hq₀, -, rfl⟩ := Relations.get?_survivors.mp hq
          exact ⟨q₀, hq₀, rfl⟩
        refine ⟨fun v j q u hq hu => ?_, fun v j q u hq hu => ?_, h.isaret⟩
        · obtain ⟨q₀, hq₀, hcols⟩ := heski v j q hq
          exact h.isaretli v j q₀ u hq₀ (hcols ▸ hu)
        · obtain ⟨q₀, hq₀, hcols⟩ := heski v j q hq
          exact h.tablo v j q₀ u hq₀ (hcols ▸ hu)
    · exact h
  | kaldir userId wsId =>
    obtain ⟨s', hs', hdemo, -⟩ := hdogru
    rw [demoIslemi, hs', Option.getD_some]
    by_cases hisaret : kullaniciIsaretleri s userId = []
    · rw [demoKaldir, if_pos hisaret] at hs'
      obtain rfl := Option.some.inj hs'
      exact h
    · obtain ⟨hsieved, hkalan⟩ := (demoKaldir_spec h hisaret).2 s' hs'
      refine ⟨fun t k r u hr hu => ?_, fun t k r u hr hu => ?_, fun m hm => ?_⟩
      · obtain ⟨r₀, hr₀, hsame, -⟩ := hsieved.back t k r hr
        rw [hsame.cols] at hu
        have hne : u ≠ userId := by
          rintro rfl
          rw [hdemo t k r₀ hr₀ hu] at hr
          cases hr
        obtain ⟨j, hj⟩ := mem_isaretliIdler.mp (h.isaretli t k r₀ u hr₀ hu)
        rw [mem_isaretliIdler, hkalan]
        exact ⟨j, List.mem_filter.mpr ⟨hj, decide_eq_true hne⟩⟩
      · obtain ⟨r₀, hr₀, hsame, -⟩ := hsieved.back t k r hr
        exact h.tablo t k r₀ u hr₀ (hsame.cols ▸ hu)
      · rw [hkalan] at hm
        exact h.isaret m (List.mem_of_mem_filter hm)

/-- In a run every removal is exact exactly when every one of them meets the condition. -/
theorem demo_removal (islemler : List DemoIslemi) :
    StepsMeet demoIslemi KaldirmaDogru .empty islemler ↔ StepsMeet demoIslemi KaldirmaKosulu .empty islemler := by
  refine stepsMeet_congr_of_kept (fun s islem (h : DemoUyumu s) => demoUyumu_adim h islem)
    (fun s islem h => kaldirmaDogru_iff h islem) ⟨fun t k r u hr => ?_, fun t k r u hr => ?_, fun m hm => ?_⟩ islemler
  · cases hr
  · cases hr
  · cases hm

/-- A payment entered on the demo account. -/
def demoHesabinaIslem : List DemoIslemi :=
  [.yukle 1 (some 1) [], .olustur .transactions ⟨some 1, some 1⟩ [some 1] 0, .kaldir 1 (some 1)]

/-- The account cannot go, and so nothing does. -/
theorem own_payment_blocks_removal : ¬ StepsMeet demoIslemi KaldirmaDogru .empty demoHesabinaIslem := by
  rintro ⟨-, -, ⟨s', hs', -⟩, -⟩
  have hnone : demoKaldir (demoIslemi (demoIslemi .empty (.yukle 1 (some 1) []))
      (.olustur .transactions ⟨some 1, some 1⟩ [some 1] 0)) 1 (some 1) = none :=
    Option.isNone_iff_eq_none.mp (by decide +kernel)
  rw [hnone] at hs'
  cases hs'

end Runs

end FinancialOs.Guarantees
