import FinancialOs.Routers.AccountDeletion

/-! The right to erasure: when the deletion of an account goes through, and that it then takes the rows of
the user and no other user's rows outside the workspaces the user owns. -/
namespace FinancialOs.Guarantees
open Library Store Routers

/-- A workspace the user owns and nobody else is a member of. -/
def Kimsesiz (v : KisiselDb) (u w : ℕ) : Prop :=
  (∃ row, v.workspaces.get? w = some row ∧ row.ownerUserId = u) ∧
    ∀ k m, v.memberships.get? k = some m → m.workspaceId = w → m.userId = u

/-- A row of such a workspace. -/
def KimsesizSatir (v : KisiselDb) (u : ℕ) (t : Tablo) (r : KisiSutunlari) : Prop :=
  t.workspaceli = true ∧ ∃ w, r.workspaceId = some w ∧ Kimsesiz v u w

/-- The row holds the key of that one, and the schema says nothing about its deletion. -/
def Tutar (t : Tablo) (r : KeyedRow KisiSutunlari) (t' : Tablo) (j : ℕ) : Prop :=
  Relations.Refers Tablo.anahtarlar t r .noAction t' j

/-- No row that stays holds on to one that goes. -/
structure Silinebilir (v : KisiselDb) (u : ℕ) : Prop where
  kendi : ∀ t k r t' j q, (v.satirlar t).get? k = some r → Tutar t r t' j → (v.satirlar t').get? j = some q →
    kullanicininSatiri u t' q.cols = true → kullanicininSatiri u t r.cols = true
  kimsesiz : ∀ t k r t' j q, (v.satirlar t).get? k = some r → Tutar t r t' j → (v.satirlar t').get? j = some q →
    KimsesizSatir v u t' q.cols → kullanicininSatiri u t' q.cols = false →
      kullanicininSatiri u t r.cols = true ∨ KimsesizSatir v u t r.cols

/-- Nothing of the user is left, and all that others have outside the user's workspaces is. -/
structure TamSilindi (v v' : KisiselDb) (u : ℕ) : Prop where
  satir : ∀ t k r, (v'.satirlar t).get? k = some r → kullanicininSatiri u t r.cols = false
  uyelik : ∀ k m, v'.memberships.get? k = some m → m.userId ≠ u
  sahiplik : ∀ w row, v'.workspaces.get? w = some row → row.ownerUserId ≠ u
  kullanici : v'.users.get? u = none
  baskasi : ∀ t k r x, (v.satirlar t).get? k = some r → t.kullanicili = true → r.cols.userId = some x → x ≠ u →
    (∀ w row, t.workspaceli = true → r.cols.workspaceId = some w → v.workspaces.get? w = some row →
      row.ownerUserId ≠ u) → ∃ r', (v'.satirlar t).get? k = some r' ∧ r'.cols = r.cols
  baskasininUyeligi : ∀ k m, v.memberships.get? k = some m → m.userId ≠ u →
    ∃ m', v'.memberships.get? k = some m' ∧ m'.workspaceId = m.workspaceId ∧ m'.userId = m.userId
  baskasininAlani : ∀ w row, v.workspaces.get? w = some row → row.ownerUserId ≠ u → v'.workspaces.get? w = some row

section Handover
variable {u : ℕ} {v : KisiselDb}

theorem yeniSahip_eq_none {ms : Table WorkspaceMembership} {w : ℕ} :
    yeniSahip ms w u = none ↔ ∀ k m, ms.get? k = some m → m.workspaceId = w → m.userId = u := by
  rw [yeniSahip, Option.or_eq_none_iff, Table.first?_eq_none, Table.first?_eq_none]
  constructor
  · rintro ⟨_, h⟩ k m hk hw
    by_contra hu
    exact absurd ⟨hw, hu⟩ (of_decide_eq_false (h k m hk))
  · intro h
    refine ⟨fun k m hk => decide_eq_false ?_, fun k m hk => decide_eq_false ?_⟩
    · rintro ⟨hd, _⟩
      obtain ⟨hw, hu⟩ := of_decide_eq_true hd
      exact hu (h k m hk hw)
    · rintro ⟨hw, hu⟩
      exact hu (h k m hk hw)

/-- What the handover of some workspaces does. -/
structure Devredildi (u : ℕ) (l : List ℕ) (d d' : KisiselDb × List ℕ) : Prop where
  satirlar : d'.1.satirlar = d.1.satirlar
  users : d'.1.users = d.1.users
  uyeler : ∀ k, (d'.1.memberships.get? k).map (fun m => (m.workspaceId, m.userId)) =
    (d.1.memberships.get? k).map fun m => (m.workspaceId, m.userId)
  liste : ∀ w, w ∈ d'.2 ↔ w ∈ d.2 ∨ w ∈ l ∧ ∀ k m, d.1.memberships.get? k = some m → m.workspaceId = w → m.userId = u
  sahip : ∀ w row, d'.1.workspaces.get? w = some row → row.ownerUserId = u →
    (w ∈ l → w ∈ d'.2) ∧ ∃ row, d.1.workspaces.get? w = some row ∧ row.ownerUserId = u
  digerleri : ∀ w, w ∉ l → d'.1.workspaces.get? w = d.1.workspaces.get? w

theorem Devredildi.uye {l : List ℕ} {d d' : KisiselDb × List ℕ} (h : Devredildi u l d d') {k : ℕ}
    {m : WorkspaceMembership} (hm : d.1.memberships.get? k = some m) :
    ∃ m', d'.1.memberships.get? k = some m' ∧ m'.workspaceId = m.workspaceId ∧ m'.userId = m.userId := by
  have hk := h.uyeler k
  rw [hm] at hk
  obtain ⟨m', hm', he⟩ := Option.map_eq_some_iff.mp hk
  exact ⟨m', hm', (Prod.mk.inj he).1, (Prod.mk.inj he).2⟩

theorem Devredildi.uye' {l : List ℕ} {d d' : KisiselDb × List ℕ} (h : Devredildi u l d d') {k : ℕ}
    {m' : WorkspaceMembership} (hm : d'.1.memberships.get? k = some m') :
    ∃ m, d.1.memberships.get? k = some m ∧ m'.workspaceId = m.workspaceId ∧ m'.userId = m.userId := by
  have hk := h.uyeler k
  rw [hm] at hk
  obtain ⟨m, hm, he⟩ := Option.map_eq_some_iff.mp hk.symm
  exact ⟨m, hm, (Prod.mk.inj he).1.symm, (Prod.mk.inj he).2.symm⟩

/-- One workspace after another is handed on, or nobody is there to take it. -/
theorem devredildi_foldl (l liste : List ℕ) : Devredildi u l (v, liste) (l.foldl (devret u) (v, liste)) := by
  induction l generalizing v liste with
  | nil =>
    exact ⟨rfl, rfl, fun _ => rfl, fun _ => by simp,
      fun w row hw ho => ⟨fun h => absurd h List.not_mem_nil, row, hw, ho⟩, fun _ _ => rfl⟩
  | cons w l ih =>
    rw [List.foldl_cons, devret]
    cases hy : yeniSahip v.memberships w u with
    | none =>
      obtain ⟨hsatirlar, husers, huyeler, hliste, hsahip, hdiger⟩ := ih (v := v) (liste ++ [w])
      refine ⟨hsatirlar, husers, huyeler, fun x => ?_, fun x row hx ho => ?_, fun x hx => ?_⟩
      · have htek := yeniSahip_eq_none.mp hy
        rw [hliste, List.mem_append, List.mem_singleton, List.mem_cons, or_assoc]
        refine or_congr_right ?_
        constructor
        · rintro (rfl | ⟨hl, h⟩)
          · exact ⟨.inl rfl, htek⟩
          · exact ⟨.inr hl, h⟩
        · rintro ⟨rfl | hl, h⟩
          · exact .inl rfl
          · exact .inr ⟨hl, h⟩
      · obtain ⟨hmem, hrow⟩ := hsahip x row hx ho
        refine ⟨fun hl => ?_, hrow⟩
        rcases List.mem_cons.mp hl with rfl | hl
        · exact (hliste x).mpr (.inl (List.mem_append_right _ (List.mem_singleton_self x)))
        · exact hmem hl
      · exact hdiger x fun hl => hx (List.mem_cons_of_mem _ hl)
    | some y =>
      obtain ⟨k, m⟩ := y
      obtain ⟨hk, hmw, hmu⟩ := yeniSahip_some hy
      dsimp only
      generalize hv' : ({ v with
        workspaces := v.workspaces.modify w fun ws => { ws with ownerUserId := m.userId }
        memberships := v.memberships.modify k fun m => { m with role := .owner } } : KisiselDb) = v'
      have huyeler' : ∀ j, (v'.memberships.get? j).map (fun m => (m.workspaceId, m.userId)) =
          (v.memberships.get? j).map fun m => (m.workspaceId, m.userId) := by
        intro j
        rw [← hv', Table.get?_modify]
        split
        · rw [Option.map_map]
          rfl
        · rfl
      have hws : ∀ x, x ≠ w → v'.workspaces.get? x = v.workspaces.get? x := by
        intro x hx
        rw [← hv', Table.get?_modify, if_neg hx]
      obtain ⟨hsatirlar, husers, huyeler, hliste, hsahip, hdiger⟩ := ih (v := v') liste
      refine ⟨hsatirlar.trans (by rw [← hv']), husers.trans (by rw [← hv']), fun j => (huyeler j).trans (huyeler' j),
        fun x => ?_, fun x row hx ho => ?_, fun x hx => ?_⟩
      · rw [hliste, List.mem_cons]
        refine or_congr_right ?_
        have hayni : (∀ j n, v'.memberships.get? j = some n → n.workspaceId = x → n.userId = u) ↔
            ∀ j n, v.memberships.get? j = some n → n.workspaceId = x → n.userId = u := by
          constructor
          · intro h j n hj hx
            have hj' := huyeler' j
            rw [hj] at hj'
            obtain ⟨n', hn', he⟩ := Option.map_eq_some_iff.mp hj'
            obtain ⟨hnw, hnu⟩ := Prod.mk.inj he
            exact hnu ▸ h j n' hn' (hnw.trans hx)
          · intro h j n hj hx
            have hj' := huyeler' j
            rw [hj] at hj'
            obtain ⟨n', hn', he⟩ := Option.map_eq_some_iff.mp hj'.symm
            obtain ⟨hnw, hnu⟩ := Prod.mk.inj he
            exact hnu ▸ h j n' hn' (hnw.trans hx)
        rw [hayni]
        constructor
        · rintro ⟨hl, h⟩
          exact ⟨.inr hl, h⟩
        · rintro ⟨rfl | hl, h⟩
          · exact absurd (h k m hk hmw) hmu
          · exact ⟨hl, h⟩
      · obtain ⟨hmem, row', hrow', ho'⟩ := hsahip x row hx ho
        have hne : x ≠ w := by
          rintro rfl
          rw [← hv', Table.get?_modify, if_pos rfl] at hrow'
          obtain ⟨_, _, rfl⟩ := Option.map_eq_some_iff.mp hrow'
          exact hmu ho'
        refine ⟨fun hl => ?_, row', (hws x hne).symm.trans hrow', ho'⟩
        rcases List.mem_cons.mp hl with rfl | hl
        · exact absurd rfl hne
        · exact hmem hl
      · obtain ⟨hne, hl⟩ := not_or.mp (mt List.mem_cons.mpr hx)
        exact (hdiger x hl).trans (hws x hne)

end Handover

section Deletion
variable {sira : List Tablo} {v : KisiselDb} {u : ℕ}

/-- The ids of the workspaces that the handover finds to be the user's. -/
def sahipOlunanlar (v : KisiselDb) (u : ℕ) : List ℕ := (v.workspaces.select fun ws => ws.ownerUserId = u).map Prod.fst

theorem mem_sahipOlunanlar {w : ℕ} :
    w ∈ sahipOlunanlar v u ↔ ∃ row, v.workspaces.get? w = some row ∧ row.ownerUserId = u := by
  simp [sahipOlunanlar, Table.mem_select]

/-- The state between the two passes. -/
def araDurum (v : KisiselDb) (u : ℕ) (satirlar : Relations Tablo KisiSutunlari) : KisiselDb :=
  { v with satirlar := satirlar, memberships := v.memberships.keep fun m => m.userId ≠ u }

/-- The list of the handover is that of the workspaces without another member. -/
theorem mem_liste {satirlar : Relations Tablo KisiSutunlari} {w : ℕ} :
    w ∈ (sahiplikDevri (araDurum v u satirlar) u).2 ↔ Kimsesiz v u w := by
  rw [sahiplikDevri, (devredildi_foldl _ []).liste w]
  simp only [List.not_mem_nil, false_or]
  rw [show w ∈ ((araDurum v u satirlar).workspaces.select fun ws => ws.ownerUserId = u).map Prod.fst ↔ _ from
    mem_sahipOlunanlar]
  refine and_congr_right fun _ => ?_
  constructor
  · intro h k m hk hw
    by_contra hu
    exact hu (h k m (Table.get?_keep.mpr ⟨hk, decide_eq_true hu⟩) hw)
  · intro h k m hk hw
    exact h k m (Table.get?_keep.mp hk).1 hw

theorem workspaceSatiri_iff {liste : List ℕ} (h : ∀ w, w ∈ liste ↔ Kimsesiz v u w) {t : Tablo} {r : KisiSutunlari} :
    workspaceSatiri liste t r = true ↔ KimsesizSatir v u t r := by
  simp only [workspaceSatiri, KimsesizSatir, decide_eq_true_eq, Option.any_eq_true, h]

/-- The two passes cross nothing that stays exactly when nothing that stays holds on to what goes. -/
theorem silinebilir_iff (hsira : Relations.ChildrenFirst Tablo.anahtarlar sira) :
    Silinebilir v u ↔ ¬ Relations.Crossed Tablo.anahtarlar (kullanicininSatiri u) v.satirlar ∧
      ∀ satirlar, Relations.purge Tablo.anahtarlar (kullanicininSatiri u) sira v.satirlar = some satirlar →
        ∀ liste : List ℕ, (∀ w, w ∈ liste ↔ Kimsesiz v u w) →
          ¬ Relations.Crossed Tablo.anahtarlar (workspaceSatiri liste) satirlar := by
  constructor
  · rintro ⟨hkendi, hkimsesiz⟩
    refine ⟨?_, fun satirlar hpurge liste hliste => ?_⟩
    · rintro ⟨t, k, r, t', j, q, hr, hp, href, hq, hpq⟩
      rw [hkendi t k r t' j q hr href hq hpq] at hp
      cases hp
    · have hpurged := Relations.purged_of_purge Tablo.leafCascades hsira hpurge
      rintro ⟨t, k, r₁, t', j, q₁, hr₁, hp, href, hq₁, hpq⟩
      obtain ⟨r, hr, hrcols, hrefs, hru⟩ := hpurged.back t k r₁ hr₁
      obtain ⟨q, hq, hqcols, _, hqu⟩ := hpurged.back t' j q₁ hq₁
      rw [hqcols, workspaceSatiri_iff hliste] at hpq
      rcases hkimsesiz t k r t' j q hr ((hrefs t' j).mp href) hq hpq (hqu (hsira.complete t')) with hu | hk
      · rw [hru (hsira.complete t)] at hu
        cases hu
      · rw [← hrcols, ← workspaceSatiri_iff hliste, hp] at hk
        cases hk
  · rintro ⟨hbir, hiki⟩
    have hkendi : ∀ t k r t' j q, (v.satirlar t).get? k = some r → Tutar t r t' j →
        (v.satirlar t').get? j = some q → kullanicininSatiri u t' q.cols = true →
          kullanicininSatiri u t r.cols = true := by
      intro t k r t' j q hr href hq hpq
      by_contra hp
      exact hbir ⟨t, k, r, t', j, q, hr, Bool.eq_false_of_not_eq_true hp, href, hq, hpq⟩
    refine ⟨hkendi, fun t k r t' j q hr href hq hkq hqu => ?_⟩
    by_contra hn
    rw [not_or, Bool.not_eq_true] at hn
    obtain ⟨satirlar, hpurge⟩ : ∃ satirlar,
        Relations.purge Tablo.anahtarlar (kullanicininSatiri u) sira v.satirlar = some satirlar := by
      cases hs : Relations.purge Tablo.anahtarlar (kullanicininSatiri u) sira v.satirlar with
      | none => exact absurd ((Relations.purge_eq_none_iff Tablo.leafCascades hsira).mp hs) hbir
      | some satirlar => exact ⟨satirlar, rfl⟩
    have hpurged := Relations.purged_of_purge Tablo.leafCascades hsira hpurge
    have hliste := fun w => @mem_liste v u satirlar w
    refine hiki satirlar hpurge _ hliste ?_
    have ht : ∀ c ∈ t.anahtarlar, c.onDelete ≠ .cascade := fun c hc hcas =>
      Tablo.leafCascades.noAction t c _ hc (Relations.refers_target href) hcas rfl
    have ht' : ∀ c ∈ t'.anahtarlar, c.onDelete ≠ .cascade := fun c hc hcas => by
      cases Tablo.leafCascades.target t' t c _ hc hcas (Relations.refers_target href) rfl
    obtain ⟨r₁, hr₁, hrcols, hrefs⟩ := hpurged.keep t k r hr ht fun _ => hn.1
    obtain ⟨q₁, hq₁, hqcols, -⟩ := hpurged.keep t' j q hq ht' fun _ => hqu
    refine ⟨t, k, r₁, t', j, q₁, hr₁, ?_, (hrefs t' j).mpr href, hq₁, ?_⟩
    · rw [hrcols]
      exact Bool.eq_false_of_not_eq_true (mt (workspaceSatiri_iff hliste).mp hn.2)
    · rw [hqcols]
      exact (workspaceSatiri_iff hliste).mpr hkq

/-- What the second pass leaves. -/
structure AlanlarSilindi (sira : List Tablo) (l : List ℕ) (v v' : KisiselDb) : Prop where
  users : v'.users = v.users
  workspaces : ∀ w row, v'.workspaces.get? w = some row ↔ v.workspaces.get? w = some row ∧ w ∉ l
  memberships : ∀ k m, v'.memberships.get? k = some m ↔ v.memberships.get? k = some m ∧ m.workspaceId ∉ l
  satirlar : Relations.Purged Tablo.anahtarlar (workspaceSatiri l) sira v.satirlar v'.satirlar

theorem workspaceSatiri_nil {t : Tablo} {r : KisiSutunlari} : workspaceSatiri [] t r = false := by
  simp [workspaceSatiri]

theorem workspaceleriSil_some (hsira : Relations.ChildrenFirst Tablo.anahtarlar sira) {l : List ℕ}
    (hcross : ¬ Relations.Crossed Tablo.anahtarlar (workspaceSatiri l) v.satirlar) :
    ∃ v', workspaceleriSil sira v l = some v' ∧ AlanlarSilindi sira l v v' := by
  by_cases hl : l = []
  · subst hl
    refine ⟨v, by rw [workspaceleriSil, if_pos rfl]; rfl, rfl, by simp, by simp, ?_⟩
    exact ⟨fun t k r hr => ⟨r, hr, rfl, fun _ _ => Iff.rfl, fun _ => workspaceSatiri_nil⟩,
      fun t k r hr _ _ => ⟨r, hr, rfl, fun _ _ => Iff.rfl⟩⟩
  · obtain ⟨satirlar, hpurge⟩ := Option.ne_none_iff_exists'.mp
      (mt (Relations.purge_eq_none_iff Tablo.leafCascades hsira).mp hcross)
    have hpurged := Relations.purged_of_purge Tablo.leafCascades hsira hpurge
    generalize hara : ({ v with
      satirlar := satirlar
      memberships := v.memberships.keep fun m => m.workspaceId ∉ l } : KisiselDb) = ara
    have hbos : ¬ workspaceKullanimda ara l := by
      rw [← hara]
      rintro (hm | ⟨t, ht⟩)
      · obtain ⟨k, m, hk, hw⟩ := Table.any_eq_true.mp hm
        exact of_decide_eq_true (Table.get?_keep.mp hk).2 (of_decide_eq_true hw)
      · obtain ⟨k, r', hr', hw⟩ := Table.any_eq_true.mp ht
        obtain ⟨r, -, hcols, -, hdone⟩ := hpurged.back t k r' hr'
        rw [hcols, hdone (hsira.complete t)] at hw
        cases hw
    refine ⟨{ ara with workspaces := ara.workspaces.retain fun w _ => w ∉ l }, ?_, ?_⟩
    · rw [workspaceleriSil, if_neg hl, hpurge, Option.bind_eq_bind, Option.bind_some]
      dsimp only
      rw [hara, if_neg hbos, ← hara]
      rfl
    · subst hara
      refine ⟨rfl, fun w row => ?_, fun k m => ?_, hpurged⟩
      · exact Table.get?_retain.trans (and_congr_right fun _ => decide_eq_true_iff)
      · exact Table.get?_keep.trans (and_congr_right fun _ => decide_eq_true_iff)

theorem not_crossed_of_workspaceleriSil (hsira : Relations.ChildrenFirst Tablo.anahtarlar sira) {l : List ℕ}
    {v' : KisiselDb} (h : workspaceleriSil sira v l = some v') :
    ¬ Relations.Crossed Tablo.anahtarlar (workspaceSatiri l) v.satirlar := by
  intro hcross
  by_cases hl : l = []
  · obtain ⟨_, _, _, _, _, _, _, _, _, _, hp⟩ := hcross
    rw [hl, workspaceSatiri_nil] at hp
    cases hp
  · rw [workspaceleriSil, if_neg hl, (Relations.purge_eq_none_iff Tablo.leafCascades hsira).mpr hcross] at h
    cases h

/-- Both passes together: what is left when nothing that stays holds on to what goes. -/
theorem purgeUserData_some (hsira : Relations.ChildrenFirst Tablo.anahtarlar sira) (h : Silinebilir v u) :
    ∃ v', purgeUserData sira v u = some v' ∧ ∃ satirlar,
      Relations.Purged Tablo.anahtarlar (kullanicininSatiri u) sira v.satirlar satirlar ∧
        AlanlarSilindi sira (sahiplikDevri (araDurum v u satirlar) u).2
          (sahiplikDevri (araDurum v u satirlar) u).1 v' := by
  obtain ⟨hbir, hiki⟩ := (silinebilir_iff hsira).mp h
  obtain ⟨satirlar, hpurge⟩ := Option.ne_none_iff_exists'.mp
    (mt (Relations.purge_eq_none_iff Tablo.leafCascades hsira).mp hbir)
  have hdevir := devredildi_foldl (u := u) (v := araDurum v u satirlar) (sahipOlunanlar v u) []
  have hcross : ¬ Relations.Crossed Tablo.anahtarlar
      (workspaceSatiri (sahiplikDevri (araDurum v u satirlar) u).2)
      (sahiplikDevri (araDurum v u satirlar) u).1.satirlar := by
    rw [show (sahiplikDevri (araDurum v u satirlar) u).1.satirlar = satirlar from hdevir.satirlar]
    exact hiki satirlar hpurge _ fun w => mem_liste
  obtain ⟨v', hv', halan⟩ := workspaceleriSil_some hsira hcross
  refine ⟨v', ?_, satirlar, Relations.purged_of_purge Tablo.leafCascades hsira hpurge, halan⟩
  rw [purgeUserData, kullaniciSatirlariniSil, hpurge]
  exact hv'

theorem kullanicili_noCascade {t : Tablo} (ht : t.kullanicili = true) {c : KeyColumn Tablo} (hc : c ∈ t.anahtarlar) :
    c.onDelete ≠ .cascade := by
  cases t <;> simp only [Tablo.kullanicili, Tablo.anahtarlar, List.mem_cons, List.not_mem_nil, or_false,
    Bool.false_eq_true] at ht hc <;> grind

/-- Nothing of the user stays behind, and the rest is where it was. -/
theorem tamSilindi_of_passes (hsira : Relations.ChildrenFirst Tablo.anahtarlar sira)
    {satirlar : Relations Tablo KisiSutunlari} {v' : KisiselDb}
    (hbir : Relations.Purged Tablo.anahtarlar (kullanicininSatiri u) sira v.satirlar satirlar)
    (hiki : AlanlarSilindi sira (sahiplikDevri (araDurum v u satirlar) u).2
      (sahiplikDevri (araDurum v u satirlar) u).1 v') :
    TamSilindi v { v' with users := v'.users.erase u } u := by
  have hdevir : Devredildi u (sahipOlunanlar v u) (araDurum v u satirlar, [])
    (sahiplikDevri (araDurum v u satirlar) u) := devredildi_foldl _ _
  have hliste := fun w => @mem_liste v u satirlar w
  revert hiki hdevir hliste
  generalize sahiplikDevri (araDurum v u satirlar) u = d
  intro hiki hdevir hliste
  have hsatirlar : d.1.satirlar = satirlar := hdevir.satirlar
  refine ⟨fun t k r hr => ?_, fun k m hm => ?_, fun w row hw ho => ?_, ?_, fun t k r x hr ht hx hne hdis => ?_,
    fun k m hm hne => ?_, fun w row hw ho => ?_⟩
  · obtain ⟨r₁, hr₁, hcols, -, -⟩ := hiki.satirlar.back t k r hr
    rw [hsatirlar] at hr₁
    obtain ⟨r₀, -, hcols', -, hdone⟩ := hbir.back t k r₁ hr₁
    rw [hcols, hcols']
    exact hdone (hsira.complete t)
  · obtain ⟨m₀, hm₀, -, hu⟩ := hdevir.uye' ((hiki.memberships k m).mp hm).1
    rw [hu]
    exact of_decide_eq_true (Table.get?_keep.mp hm₀).2
  · obtain ⟨hw, hl⟩ := (hiki.workspaces w row).mp hw
    obtain ⟨hmem, hrow⟩ := hdevir.sahip w row hw ho
    exact hl (hmem (mem_sahipOlunanlar.mpr hrow))
  · exact (Table.get?_erase _ _ _).trans (if_pos rfl)
  · obtain ⟨r₁, hr₁, hcols, -⟩ := hbir.keep t k r hr (fun _ => kullanicili_noCascade ht) fun _ => by
      simp [kullanicininSatiri, hx, hne]
    rw [← hsatirlar] at hr₁
    obtain ⟨r₂, hr₂, hcols', -⟩ := hiki.satirlar.keep t k r₁ hr₁ (fun _ => kullanicili_noCascade ht) fun _ => by
      by_contra hp
      rw [Bool.not_eq_false, hcols, workspaceSatiri_iff hliste] at hp
      obtain ⟨hwsli, w, hw, ⟨row, hrow, ho⟩, -⟩ := hp
      exact hdis w row hwsli hw hrow ho
    exact ⟨r₂, hr₂, hcols'.trans hcols⟩
  · obtain ⟨m', hm', hw', hu'⟩ := hdevir.uye (Table.get?_keep.mpr ⟨hm, decide_eq_true hne⟩)
    refine ⟨m', (hiki.memberships k m').mpr ⟨hm', fun hl => ?_⟩, hw', hu'⟩
    exact hne (((hliste _).mp hl).2 k m hm hw'.symm)
  · refine (hiki.workspaces w row).mpr ⟨?_, fun hl => ?_⟩
    · rw [hdevir.digerleri w fun hs => ?_]
      · exact hw
      · obtain ⟨row', hrow', ho'⟩ := mem_sahipOlunanlar.mp hs
        obtain rfl := Option.some.inj (hw.symm.trans hrow')
        exact ho ho'
    · obtain ⟨row', hrow', ho'⟩ := ((hliste w).mp hl).1
      obtain rfl := Option.some.inj (hw.symm.trans hrow')
      exact ho ho'

theorem TamSilindi.bos {v v' : KisiselDb} {users : Table User} (h : TamSilindi v { v' with users := users } u) :
    ¬ kullaniciKullanimda v' u := by
  rintro (hw | hm | ⟨t, ht⟩)
  · obtain ⟨w, row, hrow, ho⟩ := Table.any_eq_true.mp hw
    exact h.sahiplik w row hrow (of_decide_eq_true ho)
  · obtain ⟨k, m, hk, hu⟩ := Table.any_eq_true.mp hm
    exact h.uyelik k m hk (of_decide_eq_true hu)
  · obtain ⟨k, r, hr, hu⟩ := Table.any_eq_true.mp ht
    rw [h.satir t k r hr] at hu
    cases hu

theorem silinebilir_of_hesabiSil (hsira : Relations.ChildrenFirst Tablo.anahtarlar sira) {v' : KisiselDb}
    (h : hesabiSil sira v u = some v') : Silinebilir v u := by
  obtain ⟨v₂, hpurge, -⟩ := Option.bind_eq_some_iff.mp h
  obtain ⟨v₁, hbir, hiki⟩ := Option.bind_eq_some_iff.mp hpurge
  obtain ⟨satirlar, hs, rfl⟩ := Option.map_eq_some_iff.mp hbir
  refine (silinebilir_iff hsira).mpr ⟨fun hcross => ?_, fun satirlar' hs' liste hliste hcross => ?_⟩
  · rw [(Relations.purge_eq_none_iff Tablo.leafCascades hsira).mpr hcross] at hs
    cases hs
  · obtain rfl := Option.some.inj (hs.symm.trans hs')
    have hdevir := devredildi_foldl (u := u) (v := araDurum v u satirlar) (sahipOlunanlar v u) []
    have hkesik := not_crossed_of_workspaceleriSil hsira hiki
    change ¬ Relations.Crossed Tablo.anahtarlar (workspaceSatiri (sahiplikDevri (araDurum v u satirlar) u).2)
      (sahiplikDevri (araDurum v u satirlar) u).1.satirlar at hkesik
    rw [show (sahiplikDevri (araDurum v u satirlar) u).1.satirlar = satirlar from hdevir.satirlar] at hkesik
    have hayni : workspaceSatiri (sahiplikDevri (araDurum v u satirlar) u).2 = workspaceSatiri liste := by
      funext t r
      rw [Bool.eq_iff_iff, workspaceSatiri_iff hliste]
      exact workspaceSatiri_iff fun w => mem_liste
    exact hkesik (hayni ▸ hcross)

/-- The deletion goes through, and takes exactly what it should, when nothing that stays holds on to what
goes. -/
theorem erasure_iff (hsira : Relations.ChildrenFirst Tablo.anahtarlar sira) (v : KisiselDb) (u : ℕ) :
    (∃ v', hesabiSil sira v u = some v' ∧ TamSilindi v v' u) ↔ Silinebilir v u := by
  constructor
  · rintro ⟨v', h, -⟩
    exact silinebilir_of_hesabiSil hsira h
  · intro h
    obtain ⟨v', hv', satirlar, hbir, hiki⟩ := purgeUserData_some hsira h
    have htam := tamSilindi_of_passes hsira hbir hiki
    refine ⟨_, ?_, htam⟩
    rw [hesabiSil, hv', Option.bind_eq_bind, Option.bind_some, if_neg htam.bos]
    rfl

end Deletion

/-- One order that takes the children first. -/
def silmeSirasi : List Tablo := [.reasoningTraces, .goalAllocations, .goalRules, .goals, .decisionJournal,
  .actionHistory, .pendingActions, .coachInsights, .coachMemories, .transactions, .recurringExpenses,
  .personalDebts, .accounts, .recurringIncomes, .envelopes, .categories, .wishlistItems, .masterCheckpoints,
  .apiCallLog, .netWorthSnapshots, .demoDataMarkers, .feedback, .auditLog]

theorem silmeSirasi_childrenFirst : Relations.ChildrenFirst Tablo.anahtarlar silmeSirasi where
  nodup := by decide
  complete t := by cases t <;> decide
  before pre t post h u c hc hno ht := by
    subst ht
    have hmem : ∀ c : KeyColumn Tablo, c ∈ u.anahtarlar → c.onDelete = .noAction →
        u = c.target ∨ silmeSirasi.idxOf u < silmeSirasi.idxOf c.target := by
      cases u <;> decide
    refine (hmem c hc hno).imp id fun hlt => ?_
    have hnd : (pre ++ c.target :: post).Nodup := h ▸ (by decide : silmeSirasi.Nodup)
    have hnot : c.target ∉ pre := fun hp => (List.nodup_append.mp hnd).2.2 _ hp _ List.mem_cons_self rfl
    rw [h, List.idxOf_append_of_notMem hnot, List.idxOf_cons_self] at hlt
    by_contra hu
    rw [List.idxOf_append_of_notMem hu] at hlt
    omega

/-- A shared workspace: the account is the owner's, and so is the first transaction on it; the second is
another member's or the owner's too. -/
def ortakAlan (yazan : ℕ) : KisiselDb :=
  let satir (u : ℕ) (refs : List (Option ℕ)) : KeyedRow KisiSutunlari := ⟨⟨some u, some 1⟩, refs⟩
  { users := (Table.empty.push ⟨some "u@ev.com"⟩).push ⟨some "b@ev.com"⟩
    workspaces := Table.empty.push ⟨1, true⟩
    memberships := (Table.empty.push ⟨1, 1, .owner⟩).push ⟨1, 2, .editor⟩
    satirlar := fun t => match t with
      | .accounts => Table.empty.push (satir 1 [])
      | .transactions => (Table.empty.push (satir 1 [some 1])).push (satir yazan [some 1])
      | _ => .empty }

theorem erasure_iff_own_transactions :
    ∃ v', hesabiSil silmeSirasi (ortakAlan 1) 1 = some v' ∧ TamSilindi (ortakAlan 1) v' 1 := by
  refine (erasure_iff silmeSirasi_childrenFirst (ortakAlan 1) 1).mpr ?_
  obtain ⟨v', hv'⟩ := Option.isSome_iff_exists.mp
    (by decide +kernel : (hesabiSil silmeSirasi (ortakAlan 1) 1).isSome = true)
  exact silinebilir_of_hesabiSil silmeSirasi_childrenFirst hv'

/-- The editor's transaction on the owner's account keeps the owner from leaving. -/
theorem crossed_transaction_blocks_erasure :
    ¬ ∃ v', hesabiSil silmeSirasi (ortakAlan 2) 1 = some v' ∧ TamSilindi (ortakAlan 2) v' 1 := by
  rintro ⟨v', h, -⟩
  have hnone : (hesabiSil silmeSirasi (ortakAlan 2) 1).isNone = true := by decide +kernel
  rw [h] at hnone
  cases hnone

end FinancialOs.Guarantees
